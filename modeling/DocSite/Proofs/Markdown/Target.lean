/-
# DocSite.Proofs.Markdown.Target -- reading what was written as it stands

Destinations, titles, labels and addresses without characters of a meaning of their own are read as they
were written: a destination with its title (`readTarget_target`), the label of a reference
(`readLabel_label`), an address in pointed brackets (`readAutolink_address`).
-/
import DocSite.Proofs.Markdown.Prose

set_option autoImplicit false

namespace DocSite.Markdown

open Text

variable {c : Char} {dest title label rest : Text}

/-! ## Characters -/

theorem isMild_iff : isMild c = true ↔
    isInert c = true ∨ isEmphasis c = true ∨ c = '[' ∨ c = ']' ∨ c = '<' := by
  simp [isMild, or_assoc]

theorem isMild_plain (mild : isMild c = true) :
    isBreak c = false ∧ c ≠ '\\' ∧ c ≠ '&' ∧ c ≠ '\x60' := by
  rcases isMild_iff.mp mild with inert | marked | rfl | rfl | rfl
  · obtain ⟨inside, named⟩ := isInert_iff.mp inert
    simp only [List.mem_cons, not_or] at named
    exact ⟨inside, named.1, named.2.2.2.2.2.2.1, named.2.1⟩
  · rcases isEmphasis_iff.mp marked with rfl | rfl | rfl <;> decide
  · decide
  · decide
  · decide

theorem not_isSpacing (visible : isVisible c = true) : isSpacing c = false := by
  have large : 32 < c.toNat := by simpa [isVisible] using visible
  have other : ∀ d : Char, d.toNat ≤ 32 → c ≠ d := by
    rintro d small rfl
    omega
  have gap : isGap c = false := by
    simp [isGap, other ' ' (by decide), other '\t' (by decide), other '\x0b' (by decide),
      other '\x0c' (by decide)]
  have inside : isBreak c = false := by
    simp [isBreak, other '\n' (by decide), other '\r' (by decide)]
  simp [isSpacing, gap, inside]

theorem unescape_mild {cs : Text} (mild : ∀ c ∈ cs, isMild c) : unescape false cs = cs := by
  have all : ∀ fuel, cs.length ≤ fuel → unescapeWithin false fuel cs = cs := by
    intro fuel enough
    induction cs generalizing fuel with
    | nil => cases fuel <;> rfl
    | cons c rest ih =>
      obtain ⟨fuel, rfl⟩ : ∃ n, fuel = n + 1 := ⟨fuel - 1, by simp at enough; omega⟩
      obtain ⟨inside, slash, entity, -⟩ := isMild_plain (mild c (List.mem_cons_self ..))
      have feed : c ≠ '\r' := by
        rintro rfl
        exact absurd inside (by decide)
      have rested := ih (fun x member => mild x (List.mem_cons_of_mem _ member)) fuel
        (by simpa using enough)
      rw [unescapeWithin, rested]
      · exact slash
      · exact feed
      · exact entity
  exact all _ (Nat.le_refl _)

/-! ## Targets -/

theorem skipSeparator_filled (containers : List Container) {p : Place}
    (filled : p.rest.head?.any fun c => !isSpacing c) : skipSeparator containers p = p := by
  obtain ⟨offset, rest⟩ := p
  cases rest with
  | nil => simp at filled
  | cons c rest =>
    have plain : isGap c = false ∧ isBreak c = false := by simpa [isSpacing] using filled
    have gap : gapSize (c :: rest) = 0 := by simp [gapSize, plain]
    have inside : breakSize? (c :: rest) = none := by
      rw [breakSize?]
      · simp [plain]
      · rintro r rfl
        exact absurd plain.2 (by decide)
    have stay : ∀ p : Place, p.advance 0 = p := fun p => rfl
    simp [skipSeparator, gap, inside, stay]

theorem isDest_iff : isDest dest = true ↔ dest ≠ [] ∧ dest.head? ≠ some '<' ∧
    ∀ c ∈ dest, isMild c = true ∧ isVisible c = true ∧ c ≠ '(' ∧ c ≠ ')' := by
  simp [isDest, and_assoc]

theorem plainFrom_dest
    (proper : ∀ c ∈ dest, isMild c = true ∧ isVisible c = true ∧ c ≠ '(' ∧ c ≠ ')')
    (ends : rest.head?.any fun c => c.toNat ≤ 32 || c == ')') (read : Text) :
    plainFrom 0 read (dest ++ rest) = some (read.reverse ++ dest, read.length + dest.length) := by
  induction dest generalizing read with
  | nil =>
    cases rest with
    | nil => simp at ends
    | cons x rest =>
      have stops : x.toNat ≤ 32 ∨ x = ')' := by simpa using ends
      have other : x ≠ '\\' := by
        rintro rfl
        rcases stops with small | closed
        · exact absurd small (by decide)
        · cases closed
      rw [List.nil_append, plainFrom]
      · rcases stops with small | rfl
        · simp [small]
        · simp
      · intro d more same
        exact absurd same other
  | cons c dest ih =>
    obtain ⟨mild, visible, opens, closes⟩ := proper c (List.mem_cons_self ..)
    have large : ¬c.toNat ≤ 32 := by
      have : 32 < c.toNat := by simpa [isVisible] using visible
      omega
    rw [List.cons_append, plainFrom]
    · rw [if_neg large, if_neg opens, if_neg closes,
        ih fun x member => proper x (List.mem_cons_of_mem _ member)]
      simp
      omega
    · intro d more slash
      exact absurd slash (isMild_plain mild).2.1

theorem dest_cons (destined : isDest dest = true) :
    ∃ first more, dest = first :: more ∧ isSpacing first = false := by
  obtain ⟨nonempty, -, proper⟩ := isDest_iff.mp destined
  cases dest with
  | nil => exact absurd rfl nonempty
  | cons first more =>
    exact ⟨first, more, rfl, not_isSpacing (proper first (List.mem_cons_self ..)).2.1⟩

theorem unescape_dest (destined : isDest dest = true) : unescape false dest = dest :=
  unescape_mild fun c member => ((isDest_iff.mp destined).2.2 c member).1

theorem readDest_dest (destined : isDest dest = true)
    (ends : rest.head?.any fun c => c.toNat ≤ 32 || c == ')') :
    readDest? (dest ++ rest) = some (dest, dest.length) := by
  obtain ⟨nonempty, head, proper⟩ := isDest_iff.mp destined
  rw [readDest?]
  · simpa using plainFrom_dest proper ends []
  · rintro r same
    cases dest with
    | nil => exact nonempty rfl
    | cons c dest =>
      cases same
      exact head rfl

theorem titleFrom_title {following : List Token} (proper : isTitle title = true) (read : Text)
    (offset : Nat) :
    titleFrom '"' '"' false following read offset 0 (title ++ '"' :: rest) =
      some (read.reverse ++ title, offset + title.length + 1) := by
  induction title generalizing read offset with
  | nil =>
    rw [List.nil_append, titleFrom.eq_def]
    simp
  | cons c title ih =>
    simp only [isTitle, List.all_cons, Bool.and_eq_true, bne_iff_ne, ne_eq] at proper
    obtain ⟨⟨mild, quote⟩, proper⟩ := proper
    obtain ⟨inside, slash, entity, -⟩ := isMild_plain mild
    rw [List.cons_append, titleFrom.eq_def]
    simp only [quote, inside, slash, entity, if_false, Bool.false_eq_true, Nat.sub_self]
    rw [ih (by simpa [isTitle] using proper)]
    simp
    omega

/-- White space and a title in quotes are read up to the parenthesis behind them. -/
theorem titleFrom_quoted {following : List Token} {title : Text} (proper : isTitle title = true) (stop : Nat) :
    skipSeparator [] ⟨stop, titleSource (some title) ++ ')' :: rest⟩ =
        ⟨stop + 1, '"' :: (title ++ '"' :: ')' :: rest)⟩ ∧
      titleFrom '"' '"' false following [] (stop + 1 + 1) 0 (title ++ '"' :: ')' :: rest) =
        some (title, stop + 1 + 1 + title.length + 1) ∧
      skipSeparator [] (Place.advance (stop + 1 + 1 + title.length + 1 - (stop + 1))
        ⟨stop + 1, '"' :: (title ++ '"' :: ')' :: rest)⟩) = ⟨stop + title.length + 3, ')' :: rest⟩ := by
  refine ⟨?_, ?_, ?_⟩
  · simp [titleSource, skipSeparator, gapSize, isGap, breakSize?, isBreak, Place.advance]
  · simpa using titleFrom_title proper [] (stop + 1 + 1)
  · have width : stop + 1 + 1 + title.length + 1 - (stop + 1) = title.length + 1 + 1 := by omega
    have text : ('"' :: (title ++ '"' :: ')' :: rest)).drop (title.length + 1 + 1) = ')' :: rest := by
      rw [List.drop_succ_cons, ← List.drop_drop, List.drop_left]
      rfl
    rw [width, Place.advance, text, skipSeparator_filled [] rfl]
    congr 1
    show stop + 1 + (title.length + 1 + 1) = stop + title.length + 3
    omega

theorem readTarget_target {title : Option Text} (destined : isDest dest = true)
    (titled : title.all isTitle = true)
    (following : List Token) (offset : Nat) :
    readTarget? [] false following ⟨offset, targetSource dest title ++ ')' :: rest⟩ =
      some (dest, title.getD [], ⟨offset + (targetSource dest title).length + 1, rest⟩) := by
  have plain := unescape_dest destined
  have read := @readDest_dest dest (titleSource title ++ ')' :: rest) destined (by cases title <;> rfl)
  obtain ⟨first, dest', rfl, visible⟩ := dest_cons destined
  have after := Place.advance_text (offset + 1) (first :: dest') (titleSource title ++ ')' :: rest)
  have whole : targetSource (first :: dest') title ++ ')' :: rest =
      '(' :: (first :: dest' ++ (titleSource title ++ ')' :: rest)) := by
    simp [targetSource]
  have begun : skipSeparator []
      (Place.advance 1 ⟨offset, '(' :: (first :: dest' ++ (titleSource title ++ ')' :: rest))⟩) =
      ⟨offset + 1, first :: dest' ++ (titleSource title ++ ')' :: rest)⟩ :=
    skipSeparator_filled [] (by simp [Place.advance, visible])
  rw [whole, readTarget?]
  simp only [begun, read, Option.bind_some, after, plain]
  generalize count : offset + 1 + (first :: dest').length = stop
  cases title with
  | none =>
    have closed : skipSeparator [] ⟨stop, titleSource none ++ ')' :: rest⟩ = ⟨stop, ')' :: rest⟩ :=
      skipSeparator_filled [] rfl
    rw [closed]
    simp [titleEnd?, Place.advance, targetSource, titleSource]
    simp at count
    omega
  | some title =>
    obtain ⟨opened, quoted, closed⟩ :=
      @titleFrom_quoted rest following title (by simpa using titled) stop
    rw [opened]
    simp only [List.head?_cons, Option.bind_some, titleEnd?, List.drop_succ_cons, List.drop_zero]
    simp only [decide_true, Bool.true_or, if_true, if_false, Option.bind_some, Char.reduceEq,
      quoted, closed]
    simp [targetSource, titleSource, Place.advance]
    simp at count
    omega

/-! ## Labels and addresses -/

/-- The characters of a label are read one by one up to the bracket that closes it. -/
theorem labelFrom_label (resume : Resume) {tail : Text} (size : Nat) (filled : Bool) (read : Text)
    (proper : ∀ c ∈ tail, (isInert c = true ∧ isVisible c = true) ∧ c.toNat < 128) :
    labelFrom resume false size 0 filled read 0 (tail ++ ']' :: rest) =
      if filled || !tail.isEmpty then some (trimLabel (read.reverse ++ tail), size + tail.length + 1)
      else none := by
  induction tail generalizing size filled read with
  | nil => simp [labelFrom]
  | cons c tail ih =>
    obtain ⟨⟨⟨inert, visible⟩, ascii⟩, later⟩ := List.forall_mem_cons.mp proper
    have named := (isInert_iff.mp inert).2
    simp only [List.mem_cons, not_or] at named
    have weight : labelWeight c = 0 := by simp [labelWeight, ascii]
    rw [List.cons_append, labelFrom.eq_def]
    simp only [named, not_isSpacing visible, weight]
    have rested := ih (size + 1) true (c :: read) later
    simp
    rw [rested]
    simp
    omega

/-- A label without white space has none to be trimmed. -/
theorem trimLabel_filled (filled : ∀ c ∈ label, isSpacing c = false) : trimLabel label = label := by
  have kept : ∀ cs : Text, (∀ c ∈ cs, isSpacing c = false) →
      cs.dropWhile (fun c => c == ' ' || c == '\t' || isBreak c) = cs := by
    intro cs filled
    cases cs with
    | nil => rfl
    | cons c cs =>
      have first := filled c (List.mem_cons_self ..)
      simp only [isSpacing, isGap, Bool.or_eq_false_iff] at first
      exact List.dropWhile_cons_of_neg (by simp [first])
  simp only [trimLabel, dropEndWhile]
  rw [kept label filled, kept _ fun c member => filled c (List.mem_reverse.mp member),
    List.reverse_reverse]

theorem readLabel_label (resume : Resume) (proper : isLabel label = true) :
    readLabel? resume false (label ++ ']' :: rest) = some (label, label.length + 1) := by
  simp only [isLabel, Bool.and_eq_true, Bool.not_eq_true', bne_iff_ne, ne_eq, List.all_eq_true,
    decide_eq_true_eq]
    at proper
  obtain ⟨⟨nonempty, -⟩, proper⟩ := proper
  have trimmed := trimLabel_filled fun c member => not_isSpacing (proper c member).1.2
  rw [readLabel?, labelFrom_label resume 0 false [] proper]
  simp [nonempty, trimmed]

theorem readNoteLabel_label (proper : isLabel label = true) :
    readNoteLabel? false (label ++ rest) = none := by
  simp only [isLabel, Bool.and_eq_true, Bool.not_eq_true', bne_iff_ne, ne_eq] at proper
  obtain ⟨⟨nonempty, note⟩, -⟩ := proper
  cases label with
  | nil => simp at nonempty
  | cons c label =>
    rw [List.cons_append, readNoteLabel?]
    rintro r same
    cases same
    exact note rfl

theorem readAutolink_address {scheme path : Text} (proper : isAddress scheme path = true) :
    readAutolink? (scheme ++ ':' :: path ++ '>' :: rest) = some (.autolink, scheme ++ ':' :: path) := by
  simp only [isAddress, Bool.and_eq_true, decide_eq_true_eq, List.all_eq_true, bne_iff_ne,
    ne_eq] at proper
  obtain ⟨⟨⟨⟨alpha, long⟩, short⟩, schemed⟩, proper⟩ := proper
  have first : (scheme ++ ':' :: path ++ '>' :: rest).takeWhile
      (fun c => c.isAlphanum || c == '.' || c == '-' || c == '+') = scheme := by
    show List.takeWhile isScheme _ = _
    have colon : isScheme ':' = false := rfl
    rw [List.append_assoc, List.takeWhile_append_of_pos fun c member => schemed c member]
    simp [colon]
  have second : (path ++ '>' :: rest).takeWhile (fun c => 32 < c.toNat && c != '<' && c != '>') =
      path := by
    rw [List.takeWhile_append_of_pos fun c member => ?_]
    · simp
    · obtain ⟨⟨⟨-, visible⟩, opens⟩, closes⟩ := proper c member
      have large : 32 < c.toNat := by simpa [isVisible] using visible
      simp [large, opens, closes]
  have read : readUri? (scheme ++ ':' :: path ++ '>' :: rest) = some (scheme ++ ':' :: path) := by
    rw [readUri?]
    simp only [first]
    have after : (scheme ++ ':' :: path ++ '>' :: rest).drop scheme.length =
        ':' :: (path ++ '>' :: rest) := by
      simp
    rw [after]
    simp only [second]
    have alpha' : (scheme.head?.map Char.isAlpha).getD false = true := by
      cases scheme <;> simp_all
    simp [alpha', long, short]
  rw [readAutolink?, read]

end DocSite.Markdown
