/-
# DocSite.Proofs.Doclet.Runs -- the comment above an item

A Sass source is read from its first line on, with a run of comment lines that waits for an item. What documents
an item can be said without the reader: going up from the item over blank lines and comment lines, it is the
comment lines that one meets (`notesAbove`). The run is always what one meets from the next line on
(`lastNotes_snoc`, `docletsFrom_eq`), so that the doclets of a source are those of its lines, each of the
comment above it (`doclets_of_runs`), and no comment line is met from two items (`usedNotes_sublist`).
-/
import DocSite.Proofs.Doclet.Annotations
import DocSite.Proofs.Doclet.Marks

set_option autoImplicit false

namespace DocSite.Doclet.Sass

open Text

/-! ## Going up -/

/-- What a comment line says: it begins with three slashes, but not with four, and one space after them does not
count. -/
def note? (line : Text) : Option Text :=
  match dropPhrase? "///".toList (trim line) with
  | none => none
  | some text => if text.head? = some '/' then none else some ((dropPhrase? " ".toList text).getD text)

/-- Whether one goes on behind a line, since it is blank or says something. -/
def passes (line : Text) : Bool := blank line || (note? line).isSome

/-- The lines of a source with their numbers. -/
def numbered (source : Text) : List (Text × Nat) := (lines source).zipIdx 1

/-- What one meets going up from the end of some lines to the first one that is neither blank nor says something:
what is said, and the numbers of these lines, from top to bottom. -/
def lastNotes (lines : List (Text × Nat)) : List (Text × Nat) :=
  (lines.rtakeWhile fun line => passes line.1).filterMap fun line => (note? line.1).map (·, line.2)

/-- What one meets going up from the line of a number. -/
def notesAbove (lines : List (Text × Nat)) (number : Nat) : List (Text × Nat) :=
  lastNotes (lines.take (number - 1))

/-- The doclet of a line: there is one if the line declares an item and there is something to meet above it. -/
def documented? (lines : List (Text × Nat)) (file : Text) (line : Text × Nat) : Option Json.Value :=
  match Item.ofLine? (trim line.1), notesAbove lines line.2 with
  | some item, note :: notes => some (doclet (.ofLines ((note :: notes).map Prod.fst)) item line.2 file)
  | _, _ => none

/-- The numbers of the comment lines that document a line. -/
def usedNotes (lines : List (Text × Nat)) (line : Text × Nat) : List Nat :=
  if (Item.ofLine? (trim line.1)).isSome then (notesAbove lines line.2).map Prod.snd else []

variable {line file text : Text} {number : Nat} {lines earlier : List (Text × Nat)} {rest : List Text}
  {item : Item}

/-! ## The kinds of lines -/

theorem note_eq (line : Text) : note? line =
    match LineKind.ofLine (trim line) with
    | .comment text => some text
    | _ => none := by
  rw [note?]
  generalize trim line = trimmed
  generalize same : LineKind.ofLine trimmed = kind
  unfold LineKind.ofLine at same
  split at same <;> subst same
  next more => rfl
  next text => rfl
  next text no_slash no_space =>
    have slash : text.head? ≠ some '/' := by
      cases text with
      | nil => simp
      | cons c more =>
        intro same
        obtain rfl : c = '/' := by simpa using same
        exact no_slash more rfl
    have space : dropPhrase? [' '] text = none := by
      cases text with
      | nil => rfl
      | cons c more =>
        have other : ' ' ≠ c := by
          rintro rfl
          exact no_space more rfl
        simp [dropPhrase?, other]
    simp [dropPhrase?, slash, space]
  next => rfl
  next no_comment _ =>
    have other : dropPhrase? "///".toList trimmed = none := by
      by_contra found
      obtain ⟨text, found⟩ := Option.ne_none_iff_exists'.mp found
      exact no_comment text (append_of_dropPhrase? found).symm
    rw [other]

theorem passes_eq (line : Text) : passes line =
    match LineKind.ofLine (trim line) with
    | .comment _ => true
    | .empty => true
    | _ => false := by
  have empty : blank line = decide (trim line = []) := by
    rw [Bool.eq_iff_iff, decide_eq_true_iff, trim_eq_nil]
  rw [passes, note_eq, empty]
  generalize trim line = trimmed
  generalize same : LineKind.ofLine trimmed = kind
  unfold LineKind.ofLine at same
  split at same <;> subst same
  next => rfl
  next => rfl
  next => rfl
  next => rfl
  next filled => simpa using filled

theorem lastNotes_snoc (earlier : List (Text × Nat)) (line : Text) (number : Nat) :
    lastNotes (earlier ++ [(line, number)]) =
      match LineKind.ofLine (trim line) with
      | .comment text => lastNotes earlier ++ [(text, number)]
      | .empty => lastNotes earlier
      | _ => [] := by
  have said := note_eq line
  rw [lastNotes, List.rtakeWhile_concat, passes_eq]
  cases kind : LineKind.ofLine (trim line) with
  | poster => rfl
  | comment text => simp [lastNotes, said, kind]
  | empty => simp [lastNotes, said, kind]
  | code => rfl

/-- A line that declares an item is neither blank nor does it say anything. -/
theorem lastNotes_of_item (declares : Item.ofLine? (trim line) = some item) :
    lastNotes (earlier ++ [(line, number)]) = [] := by
  rw [lastNotes_snoc, kind_of_item declares]

/-! ## Reading from the first line on -/

theorem notesAbove_append (earlier later : List (Text × Nat)) :
    notesAbove (earlier ++ later) (earlier.length + 1) = lastNotes earlier := by
  rw [notesAbove, Nat.add_sub_cancel, List.take_left]

theorem documented_of_no_item (plain : Item.ofLine? (trim line) = none) :
    documented? lines file (line, number) = none := by
  rw [documented?, plain]

theorem documented_of_kind {kind : LineKind} (other : LineKind.ofLine (trim line) = kind) (no_code : kind ≠ .code) :
    documented? lines file (line, number) = none := by
  apply documented_of_no_item
  rw [Option.eq_none_iff_forall_ne_some]
  intro item declares
  rw [kind_of_item declares] at other
  exact no_code other.symm

/-- The first of the lines that follow can be counted among those before. -/
theorem cut_snoc (cut : lines = earlier ++ (line :: rest).zipIdx (earlier.length + 1)) :
    lines = (earlier ++ [(line, earlier.length + 1)]) ++
      rest.zipIdx ((earlier ++ [(line, earlier.length + 1)]).length + 1) := by
  rw [cut, List.zipIdx_cons, List.length_append, List.length_singleton, List.append_assoc, List.singleton_append]

/-- With what one meets going up from the next line in its run, the reader makes the doclets of the lines that
follow. -/
theorem docletsFrom_eq (file : Text) (cut : lines = earlier ++ rest.zipIdx (earlier.length + 1)) :
    docletsFrom file (earlier.length + 1) ((lastNotes earlier).map Prod.fst).reverse rest =
      (rest.zipIdx (earlier.length + 1)).filterMap (documented? lines file) := by
  induction rest generalizing earlier with
  | nil => rfl
  | cons line rest ih =>
    have later := ih (cut_snoc cut)
    rw [List.zipIdx_cons]
    rw [List.zipIdx_cons] at cut
    rw [lastNotes_snoc, List.length_append, List.length_singleton] at later
    rw [docletsFrom, List.filterMap_cons]
    cases kind : LineKind.ofLine (trim line) with
    | poster =>
      rw [kind] at later
      rw [documented_of_kind kind (by simp)]
      exact later
    | comment text =>
      rw [kind] at later
      simp only [List.map_append, List.map_cons, List.map_nil, List.reverse_append, List.reverse_cons,
        List.reverse_nil, List.nil_append, List.singleton_append] at later
      rw [documented_of_kind kind (by simp)]
      exact later
    | empty =>
      rw [kind] at later
      rw [documented_of_kind kind (by simp)]
      exact later
    | code =>
      rw [kind] at later
      have above : notesAbove lines (earlier.length + 1) = lastNotes earlier := by
        rw [cut]
        exact notesAbove_append earlier _
      rw [documented?, above]
      cases waiting : lastNotes earlier with
      | nil =>
        cases Item.ofLine? (trim line) with
        | none => exact later
        | some item => exact later
      | cons note notes =>
        have filled : (((note :: notes).map Prod.fst).reverse).isEmpty = false := by simp
        dsimp only
        rw [filled, if_neg Bool.false_ne_true, List.reverse_reverse]
        cases Item.ofLine? (trim line) with
        | none => exact later
        | some item => exact congrArg _ later

/-! ## Comment lines are used once -/

theorem usedNotes_of_no_item (plain : Item.ofLine? (trim line) = none) :
    usedNotes lines (line, number) = [] := by
  rw [usedNotes, plain]
  rfl

/-- What is met going up from a line and its number are among what is met going up from the next line. -/
theorem lastNotes_snoc_sublist (earlier : List (Text × Nat)) (line : Text) (number : Nat) :
    ((lastNotes (earlier ++ [(line, number)])).map Prod.snd).Sublist
      ((lastNotes earlier).map Prod.snd ++ [number]) := by
  rw [lastNotes_snoc]
  split
  · rw [List.map_append]
    exact .refl _
  · exact List.sublist_append_left ..
  · exact List.nil_sublist _

/-- The comment lines that document the lines from a number on are, one after the other, what one meets going up
from there and lines that follow. -/
theorem usedNotes_sublist (cut : lines = earlier ++ rest.zipIdx (earlier.length + 1)) :
    ((rest.zipIdx (earlier.length + 1)).flatMap (usedNotes lines)).Sublist
      ((lastNotes earlier).map Prod.snd ++ List.range' (earlier.length + 1) rest.length) := by
  induction rest generalizing earlier with
  | nil => exact List.nil_sublist _
  | cons line rest ih =>
    have later := ih (cut_snoc cut)
    rw [List.zipIdx_cons]
    rw [List.zipIdx_cons] at cut
    rw [List.length_append, List.length_singleton] at later
    rw [List.flatMap_cons, List.length_cons, List.range'_succ]
    cases declares : Item.ofLine? (trim line) with
    | none =>
      rw [usedNotes_of_no_item declares, List.nil_append, ← List.singleton_append, ← List.append_assoc]
      exact later.trans ((lastNotes_snoc_sublist earlier line _).append_right _)
    | some item =>
      -- What is met above an item is not met again from below it.
      have own : usedNotes lines (line, earlier.length + 1) = (lastNotes earlier).map Prod.snd := by
        rw [usedNotes, declares, cut, notesAbove_append]
        rfl
      rw [lastNotes_of_item declares] at later
      rw [own]
      exact (later.cons _).append_left _

/-! ## Doclets -/

theorem Item.context_line (line : Nat) (item : Item) :
    ((item.context line).get? "line".toList).bind (Json.Value.get? "start".toList) = some (.int line) := by
  cases item <;> rfl

theorem get_description (comment : Comment) (item : Item) (number : Nat) (file : Text) :
    (doclet comment item number file).get? "description".toList = some (.string comment.description) := by
  rw [Language.fields_sass]
  exact Language.get_given rfl (by decide) (by decide)

/-- A line has a doclet just if it declares an item and there is something to meet above it. -/
theorem documented_iff {documented : Text × Nat} {made : Json.Value} :
    documented? lines file documented = some made ↔
      ∃ item, Item.ofLine? (trim documented.1) = some item ∧ notesAbove lines documented.2 ≠ [] ∧
        made = doclet (.ofLines ((notesAbove lines documented.2).map Prod.fst)) item documented.2 file := by
  constructor
  · intro found
    unfold documented? at found
    split at found
    next item note notes declares above =>
      rw [above]
      exact ⟨item, declares, List.cons_ne_nil note notes, (Option.some.inj found).symm⟩
    · cases found
  · rintro ⟨item, declares, some, rfl⟩
    obtain ⟨note, notes, above⟩ := List.exists_cons_of_ne_nil some
    rw [documented?, declares, above]

/-- The doclets of a source are those of its lines, in order: there is one for each line that declares an item and
above which, up to the first line that is neither blank nor a comment line, there is a comment line. It is
made of the comment that these lines are, with its description, and of the number of the line. The comment
lines that are used, item by item, are lines of the source in their order, so that none is used twice. -/
theorem doclets_of_runs (source file : Text) :
    doclets source file = (numbered source).filterMap (documented? (numbered source) file) ∧
      (∀ line made, documented? (numbered source) file line = some made ↔
        ∃ item, Item.ofLine? (trim line.1) = some item ∧ notesAbove (numbered source) line.2 ≠ [] ∧
          made = doclet (.ofLines ((notesAbove (numbered source) line.2).map Prod.fst)) item line.2 file) ∧
      (∀ line made, documented? (numbered source) file line = some made →
        made.get? "description".toList = some (.string
            (Comment.ofLines ((notesAbove (numbered source) line.2).map Prod.fst)).description) ∧
          ((made.get? "context".toList).bind (Json.Value.get? "line".toList)).bind
            (Json.Value.get? "start".toList) = some (.int line.2)) ∧
      ((numbered source).flatMap (usedNotes (numbered source))).Sublist
        (List.range' 1 (Text.lines source).length) := by
  have cut : numbered source = [] ++ (Text.lines source).zipIdx (([] : List (Text × Nat)).length + 1) := rfl
  refine ⟨docletsFrom_eq file cut, fun line made => documented_iff, ?_, usedNotes_sublist cut⟩
  intro line made found
  obtain ⟨item, -, -, rfl⟩ := documented_iff.mp found
  constructor
  · exact get_description _ item line.2 file
  · rw [get_context]
    exact Item.context_line line.2 item

end DocSite.Doclet.Sass
