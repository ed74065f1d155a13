/-
# DocSite.Proofs.Markdown.Line -- what a block begins with

Between two blocks of a plain document nothing is open (`Outline.between`). A line that begins with a
letter or a bracket opens no container and no heading, rule, fence or table, so that running text or a
link definition is read from it (`readBlock_start`); a blank line only leaves a gap (`readBlock_blank`).
-/
import DocSite.Proofs.Markdown.Reading
import DocSite.Proofs.Text.Phrases

set_option autoImplicit false

namespace DocSite.Text

variable {c : Char}

/-! ## Letters and digits by their numbers -/

theorem isDigit_iff : c.isDigit = true ↔ 48 ≤ c.toNat ∧ c.toNat ≤ 57 := by
  show (decide ('0'.val ≤ c.val) && decide (c.val ≤ '9'.val)) = true ↔ _
  rw [Bool.and_eq_true, decide_eq_true_eq, decide_eq_true_eq, UInt32.le_iff_toNat_le,
    UInt32.le_iff_toNat_le]
  rfl

theorem isAlpha_iff : c.isAlpha = true ↔
    (65 ≤ c.toNat ∧ c.toNat ≤ 90) ∨ (97 ≤ c.toNat ∧ c.toNat ≤ 122) := by
  show (decide ('A'.val ≤ c.val ∧ c.val ≤ 'Z'.val) ||
    (decide ('a'.val ≤ c.val) && decide (c.val ≤ 'z'.val))) = true ↔ _
  rw [Bool.or_eq_true, Bool.and_eq_true, decide_eq_true_eq, decide_eq_true_eq, decide_eq_true_eq,
    UInt32.le_iff_toNat_le, UInt32.le_iff_toNat_le, UInt32.le_iff_toNat_le, UInt32.le_iff_toNat_le]
  rfl

theorem isAlphanum_iff : c.isAlphanum = true ↔ c.isAlpha = true ∨ c.isDigit = true := by
  show (c.isAlpha || c.isDigit) = true ↔ _
  rw [Bool.or_eq_true]

end DocSite.Text

namespace DocSite.Markdown

open Text

/-! ## First characters -/

/-- A letter, or a character beyond ASCII: what a line of running text begins with. -/
def isInitial (c : Char) : Bool := c.isAlpha || 128 ≤ c.toNat

/-- A character that running text or a link definition begins with. -/
def isStart (c : Char) : Bool := isInitial c || c == '['

section Starts

variable {c : Char} {rest : Text}

theorem isStart_of_isInitial (initial : isInitial c = true) : isStart c = true := by
  simp [isStart, initial]

theorem ne_of_isStart (start : isStart c = true) {d : Char} (other : isStart d = false) : c ≠ d := by
  rintro rfl
  rw [start] at other
  cases other

theorem isDigit_start (start : isStart c = true) : c.isDigit = false := by
  have range : 65 ≤ c.toNat := by
    simp only [isStart, isInitial, Bool.or_eq_true, beq_iff_eq, decide_eq_true_eq, isAlpha_iff] at start
    rcases start with (letter | beyond) | rfl
    · omega
    · omega
    · decide
  rw [← Bool.not_eq_true, isDigit_iff]
  omega

theorem isBreak_start (start : isStart c = true) : isBreak c = false := by
  simp [isBreak, ne_of_isStart start (d := '\n') rfl, ne_of_isStart start (d := '\r') rfl]

theorem isGap_start (start : isStart c = true) : isGap c = false := by
  simp [isGap, ne_of_isStart start (d := ' ') rfl, ne_of_isStart start (d := '\t') rfl,
    ne_of_isStart start (d := '\x0b') rfl, ne_of_isStart start (d := '\x0c') rfl]

theorem breakSize_cons (inside : isBreak c = false) : breakSize? (c :: rest) = none := by
  rw [breakSize?]
  · simp [inside]
  · rintro r rfl
    exact absurd inside (by decide)

theorem blankSize_cons (gap : isGap c = false) (inside : isBreak c = false) :
    blankSize? (c :: rest) = none := by
  have none : gapSize (c :: rest) = 0 := by simp [gapSize, gap]
  rw [blankSize?, none, List.drop_zero, breakSize_cons inside]
  rfl

theorem isRule_cons (other : c ≠ '*' ∧ c ≠ '-' ∧ c ≠ '_') : isRule (c :: rest) = false := by
  simp [isRule, other]

theorem headingLevel_cons (other : c ≠ '#') : headingLevel? (c :: rest) = none := by
  simp [headingLevel?, other]

theorem fence_cons (other : c ≠ '~' ∧ c ≠ '\x60') : fence? (c :: rest) = none := by
  simp [fence?, other]

theorem underline_cons (other : c ≠ '=' ∧ c ≠ '-') : underline? (c :: rest) = none := by
  simp [underline?, other]

theorem listMarker_cons (digit : c.isDigit = false) (other : c ≠ '-' ∧ c ≠ '+' ∧ c ≠ '*') :
    listMarker? (c :: rest) = none := by
  simp [listMarker?, digit, other]

theorem noteLabel_cons (other : c ≠ '[') : noteLabel? (c :: rest) = none := by
  rw [noteLabel?]
  exact other

theorem isRule_start (start : isStart c = true) : isRule (c :: rest) = false :=
  isRule_cons ⟨ne_of_isStart start rfl, ne_of_isStart start rfl, ne_of_isStart start rfl⟩

theorem fence_start (start : isStart c = true) : fence? (c :: rest) = none :=
  fence_cons ⟨ne_of_isStart start rfl, ne_of_isStart start rfl⟩

theorem listMarker_start (start : isStart c = true) : listMarker? (c :: rest) = none :=
  listMarker_cons (isDigit_start start)
    ⟨ne_of_isStart start rfl, ne_of_isStart start rfl, ne_of_isStart start rfl⟩

/-! ## A line and its end -/

theorem take_line (line rest : Text) : (line ++ '\n' :: rest).take (line.length + 1) = line ++ ['\n'] := by
  rw [List.take_append, List.take_of_length_le (Nat.le_succ _)]
  simp

theorem drop_line (line rest : Text) : (line ++ '\n' :: rest).drop (line.length + 1) = rest := by
  rw [← List.drop_drop, List.drop_left]
  rfl

theorem Place.advance_line (offset : Nat) (line rest : Text) :
    Place.advance (line.length + 1) ⟨offset, line ++ '\n' :: rest⟩ = ⟨offset + line.length + 1, rest⟩ := by
  rw [Place.advance, drop_line]
  rfl

theorem lineText_line {line : Text} (plain : ∀ c ∈ line, isBreak c = false) (rest : Text) :
    lineText (line ++ '\n' :: rest) = line := by
  rw [lineText, List.takeWhile_append_of_pos fun c member => by simp [plain c member]]
  simp [isBreak]

theorem feedSize_line {line : Text} (free : '\n' ∉ line) (rest : Text) :
    feedSize (line ++ '\n' :: rest) = line.length + 1 := by
  simp [feedSize, takeWhile_mark free]

/-! ## Lines that go on with a paragraph -/

theorem interruptsParagraph_initial (initial : isInitial c = true) (offset : Nat) :
    interruptsParagraph [] true ⟨offset, c :: rest⟩ = false := by
  have start := isStart_of_isInitial initial
  have other : c ≠ '[' := by
    rintro rfl
    cases initial
  simp [interruptsParagraph, interruptsText, atBreak, breakSize_cons (isBreak_start start),
    isRule_start start, headingLevel_cons (ne_of_isStart start (d := '#') rfl), fence_start start,
    listMarker_start start, noteLabel_cons other, ne_of_isStart start (d := '>') rfl,
    ne_of_isStart start (d := '|') rfl]
  split
  next same => exact absurd (List.cons.inj same).1 (ne_of_isStart start rfl)
  · rfl

theorem interruptsParagraph_blank (offset : Nat) (rest : Text) :
    interruptsParagraph [] true ⟨offset, '\n' :: rest⟩ = true := rfl

theorem delimiterRow_cons (inside : isBreak c = false)
    (other : c ≠ ' ' ∧ c ≠ ':' ∧ c ≠ '-' ∧ c ≠ '|') : delimiterRow? (c :: rest) = none := by
  obtain ⟨space, colon, dash, bar⟩ := other
  have text : lineText (c :: rest) = c :: lineText rest := by
    simp [lineText, inside]
  have indent : ((c :: lineText rest).takeWhile (· == ' ')).length = 0 := by
    simp [space]
  have none : delimiterColumns true false .none [] (c :: lineText rest) = Option.none := by
    rw [delimiterColumns]
    · exact List.cons_ne_nil _ _
    · intro r same
      exact space (List.cons.inj same).1
    · intro r same
      exact colon (List.cons.inj same).1
    · intro r same
      exact dash (List.cons.inj same).1
    · intro r same
      exact bar (List.cons.inj same).1
  rw [delimiterRow?, text]
  simp only [indent, List.drop_zero]
  split
  · split
    next same => exact absurd (List.cons.inj same).1 bar
    · exact none
  · rfl

theorem delimiterRow_start (start : isStart c = true) : delimiterRow? (c :: rest) = none :=
  delimiterRow_cons (isBreak_start start)
    ⟨ne_of_isStart start rfl, ne_of_isStart start rfl, ne_of_isStart start rfl, ne_of_isStart start rfl⟩

/-- No table begins with a line before one that is no delimiter row. -/
theorem tableHead_text {head : Text} (plain : ∀ c ∈ head, isBreak c = false) (offset : Nat)
    (alone : delimiterRow? rest = none) : tableHead? [] ⟨offset, head ++ '\n' :: rest⟩ = none := by
  have text := lineText_line plain rest
  have after := drop_line head rest
  have enter : ∀ p : Place, Container.enter [] p = (true, Cursor.start p) := fun _ => rfl
  rw [tableHead?]
  simp [text, breakSize?, isBreak, enter, Place.advance, Cursor.start, Cursor.rest, after, alone]

end Starts

/-! ## Lines that begin a block -/

/-- A document between two blocks, with nothing open. -/
def Outline.between (blocks : List Block) (gap : Bool) (definitions : List Definition) : Outline :=
  ⟨[], blocks, gap, false, none, definitions, []⟩

/-- Whether no container begins with a line. -/
def OpensNothing (line : Text) : Prop :=
  noteLabel? line = none ∧ isRule line = false ∧ listMarker? line = none ∧
    ∀ c ∈ line.head?, c ≠ ' ' ∧ c ≠ '\t' ∧ c ≠ '>'

section Blocks

variable {line rest : Text} {c : Char} {blocks : List Block} {gap : Bool}
  {definitions : List Definition}

theorem skip_filled {p : Place} (filled : ∀ c ∈ p.rest.head?, c ≠ ' ' ∧ c ≠ '\t') (n : Nat) :
    (Cursor.start p).skip (n + 1) = (n + 1, Cursor.start p) := by
  obtain ⟨offset, rest⟩ := p
  cases rest with
  | nil => rfl
  | cons c rest =>
    have plain := filled c rfl
    show Cursor.skipFrom offset 0 (n + 1) (c :: rest) = _
    rw [Cursor.skipFrom]
    · rfl
    · intro r same
      cases same
      exact plain.1 rfl
    · intro r same
      cases same
      exact plain.2 rfl

theorem skip_start (start : isStart c = true) (offset n : Nat) (rest : Text) :
    (Cursor.start ⟨offset, c :: rest⟩).skip (n + 1) = (n + 1, Cursor.start ⟨offset, c :: rest⟩) := by
  refine skip_filled (fun d head => ?_) n
  cases head
  exact ⟨ne_of_isStart start rfl, ne_of_isStart start rfl⟩

theorem openContainers_none (nothing : OpensNothing line) (offset limit : Nat) (o : Outline) :
    Outline.openContainers (limit + 1) (Cursor.start ⟨offset, line⟩) o =
      (o, .inr (Cursor.start ⟨offset, line⟩)) := by
  obtain ⟨note, rule, marker, head⟩ := nothing
  have skip := @skip_filled ⟨offset, line⟩ (fun c first => ⟨(head c first).1, (head c first).2.1⟩) 3
  have quote : Container.afterQuote? (Cursor.start ⟨offset, line⟩) = none := by
    cases line with
    | nil => rfl
    | cons c line =>
      unfold Container.afterQuote?
      split
      next same => exact absurd (List.cons.inj same).1 (head c rfl).2.2
      · rfl
  rw [Outline.openContainers, skip]
  have text : (Cursor.start ⟨offset, line⟩).rest = line := rfl
  simp [text, note, rule, marker, quote]

/-- A line that opens no container and is not blank begins a block of its own. -/
theorem readBlock_leaf (nothing : OpensNothing line) (filled : blankSize? line = none)
    (limit offset : Nat) :
    (Outline.between blocks gap definitions).readBlock limit ⟨offset, line⟩ =
      (Outline.between blocks false definitions).readLeaf limit ⟨offset, line⟩
        (Cursor.start ⟨offset, line⟩) := by
  have opened := openContainers_none nothing offset (lineText line).length
    (Outline.between blocks gap definitions)
  have finished : (Outline.between blocks gap definitions).finishList =
      Outline.between blocks false definitions := by
    cases gap <;> rfl
  have text : (Cursor.start ⟨offset, line⟩).rest = line := rfl
  have reached : Container.continueAll (Outline.between blocks gap definitions).containers
      (Cursor.start ⟨offset, line⟩) = (0, Cursor.start ⟨offset, line⟩) := rfl
  have kept : ∀ o : Outline, Outline.popMany
      ((Outline.between blocks gap definitions).containers.length - 0) o = o :=
    fun _ => rfl
  rw [Outline.readBlock]
  simp only [reached, kept, opened, text, filled, finished]

theorem readBlock_blank (limit offset : Nat) (rest : Text) :
    (Outline.between blocks gap definitions).readBlock limit ⟨offset, '\n' :: rest⟩ =
      (Outline.between blocks true definitions, ⟨offset + 1, rest⟩) := by
  have nothing : OpensNothing ('\n' :: rest) := ⟨rfl, rfl, rfl, by simp⟩
  have opened := openContainers_none nothing offset (lineText ('\n' :: rest)).length
    (Outline.between blocks gap definitions)
  have reached : Container.continueAll (Outline.between blocks gap definitions).containers
      (Cursor.start ⟨offset, '\n' :: rest⟩) = (0, Cursor.start ⟨offset, '\n' :: rest⟩) := rfl
  have kept : ∀ o : Outline, Outline.popMany
      ((Outline.between blocks gap definitions).containers.length - 0) o = o :=
    fun _ => rfl
  rw [Outline.readBlock]
  simp only [reached, kept, opened]
  rfl

/-- Running text or definitions are read from a line that begins so. -/
theorem readLeaf_start (start : isStart c = true) (limit offset : Nat) (rest : Text) (o : Outline) :
    o.readLeaf limit ⟨offset, c :: rest⟩ (Cursor.start ⟨offset, c :: rest⟩) =
      o.readDefinitions limit limit ⟨offset, c :: rest⟩ ⟨offset, c :: rest⟩ := by
  have skip := skip_start start offset 3 rest
  have text : (Cursor.start ⟨offset, c :: rest⟩).place = ⟨offset, c :: rest⟩ := rfl
  rw [Outline.readLeaf]
  simp only [skip, text, Nat.sub_self, isRule_start start,
    headingLevel_cons (ne_of_isStart start (d := '#') rfl), fence_start start]
  split
  · contradiction
  · split
    next found =>
      split at found
      next same => exact absurd (List.cons.inj same).1 (ne_of_isStart start rfl)
      · cases found
    · rfl

theorem readBlock_start (start : isStart c = true) (unnoted : noteLabel? (c :: rest) = none)
    (limit offset : Nat) :
    (Outline.between blocks gap definitions).readBlock limit ⟨offset, c :: rest⟩ =
      (Outline.between blocks false definitions).readDefinitions limit limit ⟨offset, c :: rest⟩
        ⟨offset, c :: rest⟩ := by
  have nothing : OpensNothing (c :: rest) := by
    refine ⟨unnoted, isRule_start start, listMarker_start start, fun d head => ?_⟩
    cases head
    exact ⟨ne_of_isStart start rfl, ne_of_isStart start rfl, ne_of_isStart start rfl⟩
  rw [readBlock_leaf nothing (blankSize_cons (isGap_start start) (isBreak_start start)),
    readLeaf_start start]

end Blocks

end DocSite.Markdown
