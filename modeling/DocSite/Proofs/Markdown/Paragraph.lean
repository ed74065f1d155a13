/-
# DocSite.Proofs.Markdown.Paragraph -- lines of running text make a paragraph

A paragraph takes in lines that begin with a letter until a line comes that does not go on with it
(`EndsText`): a blank line, another block, or the underline of a heading (`readBlock_lines`). Its tokens are
those of the lines with line breaks between (`lineTokens`), and they are read as what the lines mean
(`readInlines_lines`). Both are inductions over the lines.
-/
import DocSite.Proofs.Markdown.Draft

set_option autoImplicit false

namespace DocSite.Markdown

open Text

/-! ## Characters of a line -/

theorem isBreak_of_isCommon {c : Char} (common : isCommon c = true) : isBreak c = false := by
  rcases isCommon_iff.mp common with inert | marked | rfl | rfl | rfl | rfl | rfl
  · exact (isInert_iff.mp inert).1
  · rcases isEmphasis_iff.mp marked with rfl | rfl | rfl <;> rfl
  all_goals rfl

mutual

theorem Prose.common {labels : List Text} {free : Bool} (prose : Prose)
    (proper : prose.isProper labels free = true) : ∀ c ∈ prose.source, isCommon c := by
  intro c member
  cases prose with
  | last text =>
    have inert : ∀ c ∈ text, isInert c := by simpa [Prose.isProper] using proper
    exact isCommon_of_isInert (inert c member)
  | next text element prose =>
    simp only [Prose.isProper, Bool.and_eq_true, List.all_eq_true] at proper
    obtain ⟨⟨⟨inert, elementary⟩, proper⟩, -⟩ := proper
    simp only [Prose.source, List.mem_append] at member
    rcases member with member | member | member
    · exact isCommon_of_isInert (inert c member)
    · exact Element.common element elementary c member
    · exact Prose.common prose proper c member

theorem Element.common {labels : List Text} {free : Bool} (element : Element)
    (proper : element.isProper labels free = true) : ∀ c ∈ element.source, isCommon c := by
  intro c member
  cases element with
  | code text =>
    simp only [Element.isProper, isCode, Bool.and_eq_true, List.all_eq_true] at proper
    simp only [Element.source, List.mem_cons, List.mem_append, List.not_mem_nil, or_false] at member
    rcases member with rfl | member | rfl
    · decide
    · exact isCommon_of_isMild (proper.2 c member)
    · decide
  | address scheme path =>
    have source : (Element.address scheme path).source = '<' :: ((scheme ++ ':' :: path) ++ ['>']) := by
      simp [Element.source]
    rw [source] at member
    simp only [List.mem_cons, List.mem_append, List.not_mem_nil, or_false] at member
    rcases member with rfl | member | rfl
    · decide
    · exact Reading.isCommon_address proper c (by simpa using member)
    · decide
  | image alt dest title =>
    simp only [Element.isProper, Bool.and_eq_true] at proper
    obtain ⟨⟨proper, destined⟩, titled⟩ := proper
    simp only [Element.source, List.mem_cons, List.mem_append, List.not_mem_nil, or_false] at member
    rcases member with rfl | rfl | member | rfl | member | rfl
    · decide
    · decide
    · exact Prose.common alt proper c member
    · decide
    · exact Reading.isCommon_target destined titled c member
    · decide
  | link inner dest title =>
    simp only [Element.isProper, Bool.and_eq_true] at proper
    obtain ⟨⟨⟨-, proper⟩, destined⟩, titled⟩ := proper
    simp only [Element.source, List.mem_cons, List.mem_append, List.not_mem_nil, or_false] at member
    rcases member with rfl | member | rfl | member | rfl
    · decide
    · exact Prose.common inner proper c member
    · decide
    · exact Reading.isCommon_target destined titled c member
    · decide
  | reference inner label =>
    simp only [Element.isProper, Bool.and_eq_true, isLabel, List.all_eq_true] at proper
    obtain ⟨⟨⟨-, proper⟩, labelled⟩, -⟩ := proper
    simp only [Element.source, List.mem_cons, List.mem_append, List.not_mem_nil, or_false] at member
    rcases member with rfl | member | rfl | rfl | member | rfl
    · decide
    · exact Prose.common inner proper c member
    · decide
    · decide
    · exact isCommon_of_isInert (labelled.2 c member).1.1
    · decide

end

theorem Element.getLast_source (element : Element) :
    ∃ before last, element.source = before ++ [last] ∧ isGap last = false := by
  cases element with
  | code text => exact ⟨'\x60' :: text, '\x60', by simp [Element.source], rfl⟩
  | address scheme path => exact ⟨'<' :: (scheme ++ ':' :: path), '>', by simp [Element.source], rfl⟩
  | image alt dest title =>
    exact ⟨'!' :: '[' :: (alt.source ++ ']' :: targetSource dest title), ')',
      by simp [Element.source], rfl⟩
  | link inner dest title =>
    exact ⟨'[' :: (inner.source ++ ']' :: targetSource dest title), ')', by simp [Element.source], rfl⟩
  | reference inner label =>
    exact ⟨'[' :: (inner.source ++ ']' :: '[' :: label), ']', by simp [Element.source], rfl⟩

theorem Prose.filled : (prose : Prose) → prose.isTidy = true →
    ∀ c ∈ prose.source.getLast?, isGap c = false
  | .last text, tidy => by
    intro c last
    rw [Prose.source] at last
    rw [Prose.isTidy, Option.mem_def.mp last] at tidy
    simpa using tidy
  | .next text element rest, tidy => by
    intro c last
    obtain ⟨before, final, source, solid⟩ := element.getLast_source
    rw [Prose.source, source, List.getLast?_append, List.getLast?_append, List.getLast?_concat] at last
    cases found : rest.source.getLast? with
    | none =>
      rw [found] at last
      cases last
      exact solid
    | some d =>
      rw [found] at last
      cases last
      exact Prose.filled rest tidy c found

/-- What is needed of a line for a paragraph to take it in. -/
structure IsLine (line : Text) : Prop where
  common : ∀ c ∈ line, isCommon c
  filled : ∀ c ∈ line.getLast?, isGap c = false
  begins : ∃ c more, line = c :: more ∧ isInitial c = true

theorem Prose.isLine_source {labels : List Text} {line : Prose} (proper : line.isLine labels = true) :
    IsLine line.source := by
  simp only [Prose.isLine, Bool.and_eq_true] at proper
  obtain ⟨⟨proper, tidy⟩, begins⟩ := proper
  refine ⟨line.common proper, line.filled tidy, ?_⟩
  cases line with
  | last text =>
    cases text with
    | nil => cases begins
    | cons c text => exact ⟨c, text, rfl, by simpa [Prose.opening] using begins⟩
  | next text element rest =>
    cases text with
    | nil => cases begins
    | cons c text => exact ⟨c, _, rfl, by simpa [Prose.opening] using begins⟩

theorem isLine_of_mem_sources {labels : List Text} {lines : List Prose}
    (proper : ∀ line ∈ lines, line.isLine labels = true) : ∀ line ∈ lines.map Prose.source, IsLine line := by
  intro line member
  obtain ⟨prose, among, rfl⟩ := List.mem_map.mp member
  exact Prose.isLine_source (proper prose among)

/-! ## Tokens -/

/-- The tokens of lines of text with line breaks between. -/
def lineTokens (rest : Text) : Nat → List Text → List Token
  | _, [] => []
  | offset, [line] => tokensAt ⟨offset, line ++ '\n' :: rest⟩
  | offset, line :: next :: lines =>
    tokensAt ⟨offset, line ++ '\n' :: (linesSource (next :: lines) ++ rest)⟩ ++
      ⟨.softBreak, ⟨offset + line.length, '\n' :: (linesSource (next :: lines) ++ rest)⟩, 1⟩ ::
        lineTokens rest (offset + line.length + 1) (next :: lines)

/-- How a paragraph ends before a line: as a paragraph, or as a heading if the line is an underline, of
a size that is told then. -/
structure EndsText (rest : Text) (ending : ParagraphEnd) (size : Nat) : Prop where
  filled : ∀ c ∈ rest.head?, c ≠ ' ' ∧ c ≠ '\t'
  alone : delimiterRow? rest = none
  ends : (underline? rest = none ∧ (∀ offset, interruptsParagraph [] true ⟨offset, rest⟩ = true) ∧
      ending = .open ∧ size = 0) ∨
    ∃ level, underline? rest = some (level, size) ∧ ending = .underline level

theorem EndsText.blank (rest : Text) : EndsText ('\n' :: rest) .open 0 :=
  ⟨by simp, rfl, .inl ⟨underline_cons (by decide), fun offset => interruptsParagraph_blank offset rest,
    rfl, rfl⟩⟩

/-- A line break is no text, so that the tokens of a line are the same whether it is the last or not. -/
theorem lastTokens_line {line : Text} (text : IsLine line) (offset : Nat) (rest : Text) :
    lastTokens (tokenLine false 0 ⟨offset, line ++ '\n' :: rest⟩) =
      (tokensAt ⟨offset, line ++ '\n' :: rest⟩).reverse := by
  obtain ⟨lineBreak, -⟩ := tokenLine_end text.common text.filled offset rest
  rw [lastTokens, lineBreak, tokensAt, List.reverse_reverse]
  rfl

section Lines

variable {line rest : Text} {c : Char} {more : Text}

/-- A paragraph ends with a line. -/
theorem readParagraph_last (text : IsLine line) {ending : ParagraphEnd} {size : Nat}
    (ends : EndsText rest ending size) (limit offset : Nat) (tokens : List Token) :
    readParagraph [] (limit + 1) 0 ⟨offset, line ++ '\n' :: rest⟩ tokens =
      ((tokensAt ⟨offset, line ++ '\n' :: rest⟩).reverse ++ tokens, ending,
        ⟨offset + line.length + 1 + size, rest.drop size⟩) := by
  have enter : ∀ p : Place, Container.enter [] p = (true, Cursor.start p) := fun _ => rfl
  obtain ⟨-, next, -⟩ := tokenLine_end text.common text.filled offset rest
  have skip : (Cursor.start ⟨offset + line.length + 1, rest⟩).skip 4 =
      (4, Cursor.start ⟨offset + line.length + 1, rest⟩) := skip_filled ends.filled 3
  have place : (Cursor.start ⟨offset + line.length + 1, rest⟩).place =
      ⟨offset + line.length + 1, rest⟩ := rfl
  have begun : (Cursor.start ⟨offset + line.length + 1, rest⟩).rest = rest := rfl
  rw [readParagraph]
  simp only [next, enter, lastTokens_line text, skip, place, begun]
  rcases ends.ends with ⟨level, stops, rfl, rfl⟩ | ⟨level, underlined, rfl⟩
  · simp [level, stops]
  · simp [underlined, Place.advance]

/-- A paragraph goes on after a line. -/
theorem readParagraph_next (text : IsLine line) (initial : isInitial c = true) (limit offset : Nat)
    (tokens : List Token) :
    readParagraph [] (limit + 1) 0 ⟨offset, line ++ '\n' :: c :: more⟩ tokens =
      readParagraph [] limit 0 ⟨offset + line.length + 1, c :: more⟩
        (⟨.softBreak, ⟨offset + line.length, '\n' :: c :: more⟩, 1⟩ ::
          ((tokensAt ⟨offset, line ++ '\n' :: c :: more⟩).reverse ++ tokens)) := by
  have enter : ∀ p : Place, Container.enter [] p = (true, Cursor.start p) := fun _ => rfl
  obtain ⟨lineBreak, next, -⟩ := tokenLine_end text.common text.filled offset (c :: more)
  have start := isStart_of_isInitial initial
  have skip := skip_start start (offset + line.length + 1) 3 more
  have goes := @interruptsParagraph_initial c more initial (offset + line.length + 1)
  have level : underline? (c :: more) = none :=
    underline_cons ⟨ne_of_isStart start rfl, ne_of_isStart start rfl⟩
  rw [readParagraph]
  simp only [next, enter, skip]
  generalize here : Place.mk (offset + line.length + 1) (c :: more) = place at *
  have head : place.rest = c :: more := by rw [← here]
  have placed : (Cursor.start place).place = place := rfl
  have begun : (Cursor.start place).rest = c :: more := head
  have stay : (Cursor.start place).skipAll = place := by
    have none : ((c :: more).takeWhile fun x => x == ' ' || x == '\t') = [] :=
      List.takeWhile_cons_of_neg (by
        simp [ne_of_isStart start (d := ' ') rfl, ne_of_isStart start (d := '\t') rfl])
    rw [Cursor.skipAll, begun, none]
    rfl
  have inside : atBreak (c :: more) = false := by
    rw [atBreak, breakSize_cons (isBreak_start start)]
    rfl
  have none : ((place.upTo place).reverse.takeWhile isGap).length = 0 := by
    simp [Place.upTo]
  simp only [placed, begun, level, goes, stay, head, inside, none, lineBreak, ite_self, Bool.and_false,
    Bool.false_eq_true, if_false]
  simp [tokensAt]

end Lines

theorem readParagraph_lines {lines : List Text} (proper : ∀ line ∈ lines, IsLine line)
    (nonempty : lines ≠ []) {rest : Text} {ending : ParagraphEnd} {size : Nat}
    (ends : EndsText rest ending size) (limit offset : Nat) (enough : lines.length ≤ limit)
    (tokens : List Token) :
    readParagraph [] limit 0 ⟨offset, linesSource lines ++ rest⟩ tokens =
      ((lineTokens rest offset lines).reverse ++ tokens, ending,
        ⟨offset + (linesSource lines).length + size, rest.drop size⟩) := by
  induction lines generalizing limit offset tokens with
  | nil => exact absurd rfl nonempty
  | cons line lines ih =>
    obtain ⟨limit, rfl⟩ : ∃ n, limit = n + 1 := ⟨limit - 1, by simp at enough; omega⟩
    have text := proper line (List.mem_cons_self ..)
    have source : linesSource (line :: lines) ++ rest = line ++ '\n' :: (linesSource lines ++ rest) := by
      simp [linesSource]
    have width : offset + (linesSource (line :: lines)).length =
        offset + line.length + 1 + (linesSource lines).length := by
      rw [linesSource_cons, List.length_append, List.length_cons]
      omega
    rw [source, width]
    cases lines with
    | nil => exact readParagraph_last text ends limit offset tokens
    | cons second lines =>
      have rested := ih (fun x member => proper x (List.mem_cons_of_mem _ member)) (by simp) limit
        (offset + line.length + 1) (by simpa using enough)
      obtain ⟨c, more, begins, initial⟩ := (proper second (by simp)).begins
      have following : linesSource (second :: lines) ++ rest =
          c :: (more ++ '\n' :: (linesSource lines ++ rest)) := by
        simp [linesSource, begins]
      rw [lineTokens]
      rw [following] at rested ⊢
      rw [readParagraph_next text initial, rested]
      simp

theorem readDefinition_cons {c : Char} (other : c ≠ '[') (limit offset : Nat) (rest : Text) :
    readDefinition? [] limit ⟨offset, c :: rest⟩ = none := by
  unfold readDefinition?
  split
  next same => exact absurd (List.cons.inj same).1 other
  · rfl

/-- The block that a paragraph is, by how it ends. -/
def ParagraphEnd.block (span : Span) (text : Passage) : ParagraphEnd → Block
  | .open => .paragraph none text
  | .underline level => .heading level span none text

/-- The element that a paragraph is, by how it ends. -/
def ParagraphEnd.tag (span : Span) : ParagraphEnd → Tag
  | .open => .paragraph
  | .underline level => .heading level span

/-- Lines of text are a paragraph or an underlined heading. -/
theorem readBlock_lines {lines : List Text} (proper : ∀ line ∈ lines, IsLine line)
    (nonempty : lines ≠ []) {rest : Text} {ending : ParagraphEnd} {size : Nat}
    (ends : EndsText rest ending size) (limit offset : Nat) (enough : lines.length ≤ limit)
    (blocks : List Block) (gap : Bool) (definitions : List Definition) :
    (Outline.between blocks gap definitions).readBlock limit ⟨offset, linesSource lines ++ rest⟩ =
      (Outline.between (ending.block ⟨offset, offset + (linesSource lines).length + size⟩
          ⟨lineTokens rest offset lines, offset + (linesSource lines).length + size, [], false⟩ ::
            blocks) false definitions,
        ⟨offset + (linesSource lines).length + size, rest.drop size⟩) := by
  have read := readParagraph_lines proper nonempty ends limit offset enough []
  cases lines with
  | nil => exact absurd rfl nonempty
  | cons line lines =>
    obtain ⟨common, filled, c, more, begins, initial⟩ := proper line (List.mem_cons_self ..)
    have start := isStart_of_isInitial initial
    have other : c ≠ '[' := by
      rintro rfl
      cases initial
    have table : tableHead? [] ⟨offset, linesSource (line :: lines) ++ rest⟩ = none := by
      rw [linesSource_cons, List.append_assoc]
      refine tableHead_text (fun c member => isBreak_of_isCommon (common c member)) offset ?_
      cases lines with
      | nil => exact ends.alone
      | cons second lines =>
        obtain ⟨d, more, begins, initial⟩ := (proper second (by simp)).begins
        rw [linesSource_cons, begins]
        exact delimiterRow_start (isStart_of_isInitial initial)
    obtain ⟨limit, rfl⟩ : ∃ n, limit = n + 1 := ⟨limit - 1, by simp at enough; omega⟩
    have text : linesSource (line :: lines) ++ rest =
        c :: (more ++ '\n' :: (linesSource lines ++ rest)) := by
      rw [linesSource_cons, begins]
      simp
    rw [text] at read table ⊢
    have containers : (Outline.between blocks false definitions).containers = [] := rfl
    have begun : Place.upTo ⟨offset, c :: (more ++ '\n' :: (linesSource lines ++ rest))⟩
        ⟨offset, c :: (more ++ '\n' :: (linesSource lines ++ rest))⟩ = [] := by
      simp [Place.upTo]
    rw [readBlock_start start (noteLabel_cons other), Outline.readDefinitions]
    simp only [containers, readDefinition_cons other, begun, List.reverse_nil, List.takeWhile_nil,
      List.length_nil]
    rw [Outline.readText]
    simp only [containers, table, read, List.append_nil, List.reverse_reverse]
    cases ending <;> rfl

/-! ## Meaning -/

/-- Whether all labels are defined that references may have. -/
def Covers (targets : Targets) (labels : List Text) : Prop :=
  ∀ label, (labels.any fun l => foldLabel l == foldLabel label) = true →
    (targets.definition? label).isSome

open Reading in
theorem leads_lines {targets : Targets} {passage : Passage} {labels : List Text} {lines : List Prose}
    (covers : Covers targets labels) (proper : ∀ line ∈ lines, line.isLine labels = true) (rest : Text)
    (offset stop : Nat) (flat : Flat passage stop)
    (fits : offset + (linesSource (lines.map Prose.source)).length ≤ stop) (r : Reading)
    (calm : r.Calm) :
    Leads targets passage (r, lineTokens rest offset (lines.map Prose.source))
      (r.put (linesInlines targets offset lines), []) := by
  induction lines generalizing offset r with
  | nil => exact Leads.refl _
  | cons line lines ih =>
    have first := proper line (List.mem_cons_self ..)
    simp only [Prose.isLine, Bool.and_eq_true] at first
    obtain ⟨⟨sound, tidy⟩, -⟩ := first
    rw [List.map_cons, linesSource_cons, List.length_append, List.length_cons] at fits
    have flat' : Flat passage (offset + line.source.length) :=
      ⟨flat.containers, flat.cell, Nat.le_trans (by omega) flat.stop_le⟩
    cases lines with
    | nil =>
      have readable : Readable targets passage labels (offset + line.source.length) [] :=
        ⟨flat', by simp [Fresh], covers⟩
      have leads := Prose.leads readable line true offset ('\n' :: rest) r sound (.inr rfl)
        (fun _ => tidy) (Nat.le_refl _) fun _ => calm
      rw [tokensAt_break, List.append_nil] at leads
      exact leads
    | cons second lines =>
      have more := ih (fun x member => proper x (List.mem_cons_of_mem _ member))
        (offset + line.source.length + 1) (by omega)
        ((r.put (line.inlines targets offset)).put [.softBreak]) ((calm.put _).put _)
      rw [List.map_cons] at more
      rw [List.map_cons, List.map_cons, lineTokens, ← List.map_cons]
      rw [← List.map_cons] at more
      generalize (second :: lines).map Prose.source = others at *
      have readable : Readable targets passage labels (offset + line.source.length)
          (⟨.softBreak,
              ⟨offset + line.source.length, '\n' :: (linesSource others ++ rest)⟩, 1⟩ ::
            lineTokens rest (offset + line.source.length + 1) others) :=
        ⟨flat', by simp [Fresh, Token.start], covers⟩
      have leads := Prose.leads readable line true offset
        ('\n' :: (linesSource others ++ rest)) r sound (.inr rfl) (fun _ => tidy)
        (Nat.le_refl _) fun _ => calm
      rw [tokensAt_break] at leads
      have all := (leads.trans (leads_step _ _ _)).trans more
      rw [put_put, put_put] at all
      exact all

/-- A paragraph is read as what its lines mean. -/
theorem readInlines_lines {targets : Targets} {labels : List Text} {lines : List Prose}
    (covers : Covers targets labels) (proper : ∀ line ∈ lines, line.isLine labels = true) (rest : Text)
    (offset stop : Nat) (fits : offset + (linesSource (lines.map Prose.source)).length ≤ stop) :
    readInlines targets ⟨lineTokens rest offset (lines.map Prose.source), stop, [], false⟩ =
      linesInlines targets offset lines := by
  generalize passed : Passage.mk (lineTokens rest offset (lines.map Prose.source)) stop [] false = passage
  have flat : Reading.Flat passage stop := by
    subst passed
    exact ⟨rfl, rfl, Nat.le_refl _⟩
  have leads := leads_lines covers proper rest offset _ flat fits ⟨[], []⟩ (by
    intro piece member
    cases member)
  have tokens : passage.tokens = lineTokens rest offset (lines.map Prose.source) := by
    rw [← passed]
  obtain ⟨fuel, -, same⟩ := leads _ (Nat.le_refl _)
  rw [readInlines, tokens]
  dsimp only at same ⊢
  rw [same]
  have done : ∀ r, Reading.readAll targets passage fuel r [] = r := fun r => by cases fuel <;> rfl
  rw [done, Reading.put]
  simp [Emphasis.resolve_settled]

theorem ofBlocks_lines {targets : Targets} {labels : List Text} {lines : List Prose}
    (covers : Covers targets labels) (proper : ∀ line ∈ lines, line.isLine labels = true)
    (ending : ParagraphEnd) (span : Span) (rest : Text) (offset stop : Nat)
    (fits : offset + (linesSource (lines.map Prose.source)).length ≤ stop) :
    Event.ofBlocks targets false
        [ending.block span ⟨lineTokens rest offset (lines.map Prose.source), stop, [], false⟩] =
      Event.within (ending.tag span) (Event.ofInlines (linesInlines targets offset lines)) := by
  have meant := readInlines_lines covers proper rest offset stop fits
  cases ending with
  | «open» =>
    simp only [ParagraphEnd.block, Event.ofBlocks, Event.ofBlock, Event.ofText, meant, List.append_nil]
    rfl
  | underline level =>
    simp only [ParagraphEnd.block, Event.ofBlocks, Event.ofBlock, Event.ofText, meant, List.append_nil]
    rfl

end DocSite.Markdown
