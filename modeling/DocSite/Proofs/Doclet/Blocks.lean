/-
# DocSite.Proofs.Doclet.Blocks -- the comments of a script and the code after them

The lines of a script are code and comments, and a comment goes on to its first end mark (`Scanned`). Each of
them makes the doclet that it makes before the first line that is not blank after the line of its end mark
(`docletsFrom_of_scanned`), and a script with a comment that has no end makes none at all
(`exists_scanned`). What follows the end mark on its own line is passed over: that a comment documents what
directly follows it holds just if nothing does there (`Block.used_eq_next`).
-/
import DocSite.Proofs.Doclet.Annotations
import DocSite.Proofs.Text.Phrases

set_option autoImplicit false

namespace DocSite.Doclet.Script

open Text

variable {line text file : Text} {rest after : List Text} {number fuel : Nat}

/-! ## Comments in their sources -/

/-- The mark that ends a comment. -/
def endMark : Text := ['*', '/']

/-- A comment in a source: its lines with the stars before them, what follows its end mark on the line that
this stands on, the number of this line, and the lines after it. -/
structure Block where
  written : List Text
  trailing : Text
  closing : Nat
  after : List Text

namespace Block

/-- What a comment says. -/
def comment (block : Block) : Comment := .ofLines (block.written.map dropStar)

/-- The first text after a comment that is not blank, and the number of its line. -/
def next (block : Block) : Option (Nat × Text) := nextCode? block.closing (block.trailing :: block.after)

/-- The first line that is not blank after the one on which a comment ends, and its number. -/
def used (block : Block) : Option (Nat × Text) := nextCode? (block.closing + 1) block.after

/-- The doclet of a comment, if it has a subject. -/
def doclet? (block : Block) (file : Text) : Option Json.Value :=
  Script.doclet? block.comment block.used file

end Block

/-- Whether the lines from number `number` on are code and comments that end. -/
inductive Scanned : (number : Nat) → List Text → List Block → Prop
  | done (number : Nat) : Scanned number [] []
  | code {number : Nat} {line : Text} {rest : List Text} {blocks : List Block}
      (other : afterOpening? line = none) (later : Scanned (number + 1) rest blocks) :
      Scanned number (line :: rest) blocks
  | comment {number : Nat} {line text inside last trailing : Text} {rest opened after : List Text}
      {blocks : List Block} (opens : afterOpening? line = some text)
      (parts : text :: rest = opened ++ last :: after) (unclosed : ∀ line ∈ opened, ¬endMark <:+: line)
      (closes : splitFirst? endMark last = some (inside, trailing))
      (later : Scanned (number + opened.length + 1) after blocks) :
      Scanned number (line :: rest) (⟨opened ++ [inside], trailing, number + opened.length, after⟩ :: blocks)

/-! ## Reading comments -/

theorem splitFirst_unclosed : splitFirst? ['*', '/'] line = none ↔ ¬endMark <:+: line :=
  splitFirst_eq_none (List.cons_ne_nil _ _)

theorem splitComment_closed {opened : List Text} {last inside trailing : Text}
    (parts : text :: rest = opened ++ last :: after) (unclosed : ∀ line ∈ opened, ¬endMark <:+: line)
    (closes : splitFirst? endMark last = some (inside, trailing)) :
    splitComment? text rest = some ((opened ++ [inside]).map dropStar, after) := by
  induction opened generalizing text rest with
  | nil =>
    obtain ⟨rfl, rfl⟩ := List.cons_eq_cons.mp parts
    have closed : splitFirst? ['*', '/'] text = some (inside, trailing) := closes
    cases rest <;> simp [splitComment?, closed]
  | cons first opened ih =>
    obtain ⟨rfl, rfl⟩ := List.cons_eq_cons.mp parts
    have goes_on := splitFirst_unclosed.mpr (unclosed text List.mem_cons_self)
    obtain ⟨line, later, same⟩ : ∃ line later, opened.append (last :: after) = line :: later :=
      List.exists_cons_of_ne_nil (List.append_ne_nil_of_right_ne_nil _ (List.cons_ne_nil _ _))
    have read := ih same.symm fun line member => unclosed line (.tail _ member)
    rw [same, splitComment?, goes_on]
    simp only [read]
    rfl

theorem exists_parts {inside : List Text} (read : splitComment? text rest = some (inside, after)) :
    ∃ opened last within trailing, text :: rest = opened ++ last :: after ∧
      (∀ line ∈ opened, ¬endMark <:+: line) ∧ splitFirst? endMark last = some (within, trailing) := by
  induction rest generalizing text inside with
  | nil =>
    obtain ⟨⟨within, trailing⟩, closes, same⟩ := Option.map_eq_some_iff.mp read
    cases same
    exact ⟨[], text, within, trailing, rfl, nofun, closes⟩
  | cons line rest ih =>
    rw [splitComment?] at read
    cases closes : splitFirst? ['*', '/'] text with
    | some found =>
      rw [closes] at read
      cases read
      exact ⟨[], text, found.1, found.2, rfl, nofun, closes⟩
    | none =>
      rw [closes] at read
      obtain ⟨⟨inside', after'⟩, read', same⟩ := Option.map_eq_some_iff.mp read
      cases same
      obtain ⟨opened, last, within, trailing, parts, unclosed, closes'⟩ := ih read'
      refine ⟨text :: opened, last, within, trailing, by rw [parts]; rfl, ?_, closes'⟩
      intro line member
      rcases List.mem_cons.mp member with rfl | later
      · exact splitFirst_unclosed.mp closes
      · exact unclosed line later

/-- The lines that a comment stands on are those up to its end. -/
theorem length_parts {opened : List Text} {last : Text} (parts : text :: rest = opened ++ last :: after) :
    rest.length - after.length = opened.length ∧ after.length ≤ rest.length := by
  have lengths := congrArg List.length parts
  simp only [List.length_cons, List.length_append] at lengths
  omega

/-- Each comment of a source makes its doclet, in order. -/
theorem docletsFrom_of_scanned {lines : List Text} {blocks : List Block} (scanned : Scanned number lines blocks)
    (enough : lines.length ≤ fuel) (file : Text) :
    docletsFrom file fuel number lines = .ok (blocks.filterMap (·.doclet? file)) := by
  induction scanned generalizing fuel with
  | done number => cases fuel <;> rfl
  | code other later ih =>
    obtain _ | fuel := fuel
    · cases enough
    rw [docletsFrom, other]
    exact ih (Nat.le_of_succ_le_succ enough)
  | @comment number _ _ inside _ trailing _ opened after _ opens parts unclosed closes _ ih =>
    obtain _ | fuel := fuel
    · cases enough
    obtain ⟨distance, shorter⟩ := length_parts parts
    have enough := Nat.le_of_succ_le_succ enough
    have position : number + 1 + opened.length = number + opened.length + 1 := by omega
    rw [docletsFrom, opens]
    simp only [splitComment_closed parts unclosed closes, distance, position, ih (le_trans shorter enough)]
    have own : Script.doclet? (.ofLines ((opened ++ [inside]).map dropStar))
        (nextCode? (number + opened.length + 1) after) file =
          Block.doclet? ⟨opened ++ [inside], trailing, number + opened.length, after⟩ file := rfl
    rw [own, List.filterMap_cons]
    cases Block.doclet? ⟨opened ++ [inside], trailing, number + opened.length, after⟩ file <;> rfl

/-- A source that makes doclets at all has comments that end. -/
theorem exists_scanned {lines : List Text} {found : List Json.Value}
    (made : docletsFrom file fuel number lines = .ok found) (enough : lines.length ≤ fuel) :
    ∃ blocks, Scanned number lines blocks := by
  induction fuel generalizing number lines found with
  | zero =>
    cases List.eq_nil_of_length_eq_zero (Nat.le_zero.mp enough)
    exact ⟨[], .done _⟩
  | succ fuel ih =>
    cases lines with
    | nil => exact ⟨[], .done _⟩
    | cons line rest =>
      have enough := Nat.le_of_succ_le_succ enough
      rw [docletsFrom] at made
      cases opens : afterOpening? line with
      | none =>
        rw [opens] at made
        obtain ⟨blocks, scanned⟩ := ih made enough
        exact ⟨blocks, .code opens scanned⟩
      | some text =>
        rw [opens] at made
        dsimp only at made
        cases read : splitComment? text rest with
        | none =>
          rw [read] at made
          cases made
        | some split =>
          obtain ⟨inside, after⟩ := split
          rw [read] at made
          dsimp only at made
          obtain ⟨opened, last, within, trailing, parts, unclosed, closes⟩ := exists_parts read
          obtain ⟨distance, shorter⟩ := length_parts parts
          have position : number + 1 + opened.length = number + opened.length + 1 := by omega
          rw [distance, position] at made
          cases later : docletsFrom file fuel (number + opened.length + 1) after with
          | error e =>
            rw [later] at made
            cases made
          | ok found' =>
            obtain ⟨blocks, scanned⟩ := ih later (le_trans shorter enough)
            exact ⟨_, .comment opens parts unclosed closes scanned⟩

/-! ## What a comment documents -/

namespace Block

theorem next_of_blank {block : Block} (empty : blank block.trailing = true) : block.next = block.used := by
  rw [next, nextCode?, if_pos empty]
  rfl

theorem le_of_nextCode {lines : List Text} {found : Nat × Text} (next : nextCode? number lines = some found) :
    number ≤ found.1 := by
  induction lines generalizing number with
  | nil => cases next
  | cons line lines ih =>
    rw [nextCode?] at next
    split at next
    · exact Nat.le_of_succ_le (ih next)
    · cases next
      exact le_rfl

/-- A comment documents what directly follows it just if nothing follows it on its last line. -/
theorem used_eq_next (block : Block) : block.used = block.next ↔ blank block.trailing = true := by
  constructor
  · intro same
    by_contra filled
    have here : block.next = some (block.closing, trim block.trailing) := by rw [next, nextCode?, if_neg filled]
    have below := le_of_nextCode (same.trans here)
    exact Nat.not_succ_le_self _ below
  · exact fun empty => (next_of_blank empty).symm

end Block

/-- Whether a doclet has what a comment and a line of code say about a subject. -/
structure Describes (comment : Comment) (subject : Subject) (number : Nat) (doclet : Json.Value) : Prop where
  kind : doclet.get? "kind".toList =
    some (.string ((comment.first? "kind".toList).getD subject.kind.toList))
  name : doclet.get? "name".toList = some (.string subject.name)
  line : ∃ place, doclet.get? "meta".toList = some place ∧ place.get? "lineno".toList = some (.int number)

/-- Whether a comment names no subject itself. -/
def Unnamed (comment : Comment) : Prop :=
  ((comment.first? "name".toList).filter fun name => !name.isEmpty) = none

theorem doclet_of_unrecognized {comment : Comment} (unnamed : Unnamed comment) {code : Option (Nat × Text)}
    (unrecognized : ∀ found ∈ code, Subject.ofLine? found.2 = none) (file : Text) :
    doclet? comment code file = none := by
  unfold doclet?
  rw [unnamed]
  cases code with
  | none => rfl
  | some found => simp only [Option.bind_some, unrecognized found rfl, Option.map_none]

theorem describes_of_recognized {comment : Comment} (unnamed : Unnamed comment) {code : Text} {subject : Subject}
    (recognized : Subject.ofLine? code = some subject) (number : Nat) (file : Text) :
    ∃ doclet, doclet? comment (some (number, code)) file = some doclet ∧
      Describes comment subject number doclet := by
  have found : found? comment (some (number, code)) =
      some ((comment.first? "kind".toList).getD subject.kind.toList, subject.name, some number) := by
    unfold found?
    rw [unnamed]
    simp only [Option.bind_some, recognized, Option.map_some]
  rw [Language.fields_script, found]
  refine ⟨_, rfl, ?_, ?_, .record [("path", .string file), ("lineno", .int number)], ?_, ?_⟩
  · exact Language.get_given rfl (by decide) (by decide)
  · exact Language.get_given rfl (by decide) (by decide)
  · exact Language.get_given rfl (by decide) (by decide)
  · rfl

/-- A script whose comments all end makes their doclets. A comment that names no subject itself documents what
directly follows it just if nothing follows it on its last line, and the first line below it that is not blank
otherwise: it makes a doclet if that declares a subject, and none if it does not. -/
theorem doclets_of_scanned {source : Text} {blocks : List Block} (scanned : Scanned 1 (lines source) blocks)
    (file : Text) :
    doclets source file = .ok (blocks.filterMap (·.doclet? file)) ∧
      ∀ block ∈ blocks, Unnamed block.comment →
        (block.used = block.next ↔ blank block.trailing = true) ∧
        ((∀ found ∈ block.used, Subject.ofLine? found.2 = none) → block.doclet? file = none) ∧
        ∀ number code subject, block.used = some (number, code) → Subject.ofLine? code = some subject →
          ∃ doclet, block.doclet? file = some doclet ∧ Describes block.comment subject number doclet := by
  refine ⟨docletsFrom_of_scanned scanned le_rfl file, fun block _ unnamed => ⟨block.used_eq_next, ?_, ?_⟩⟩
  · exact fun unrecognized => doclet_of_unrecognized unnamed unrecognized file
  · intro number code subject used recognized
    rw [Block.doclet?, used]
    exact describes_of_recognized unnamed recognized number file

/-- A comment of three lines above a function. -/
def above : Text := "/**\n * Opens.\n */\n\nfunction open() \x7b\n".toList

/-- The comment in `above`. -/
def aboveBlock : Block := ⟨[[], " * Opens.".toList, [' ']], [], 3, [[], "function open() \x7b".toList]⟩

theorem above_scanned : Scanned 1 (lines above) [aboveBlock] := by
  have cut : lines above =
      ["/**".toList, " * Opens.".toList, " */".toList, [], "function open() \x7b".toList] := by decide +kernel
  have parts : [] :: [" * Opens.".toList, " */".toList, [], "function open() \x7b".toList] =
      [[], " * Opens.".toList] ++ " */".toList :: [[], "function open() \x7b".toList] := rfl
  rw [cut]
  exact .comment rfl parts (by decide) rfl (.code rfl (.code (by decide +kernel) (.done _)))

theorem above_documented :
    Scanned 1 (lines above) [aboveBlock] ∧ aboveBlock.used = aboveBlock.next ∧
      ∃ doclet, doclets above "o.js".toList = .ok [doclet] ∧
        Describes aboveBlock.comment (.function "open".toList) 5 doclet := by
  obtain ⟨made, each⟩ := doclets_of_scanned above_scanned "o.js".toList
  obtain ⟨direct, -, recognized⟩ := each aboveBlock List.mem_cons_self rfl
  have subject : Subject.ofLine? "function open() \x7b".toList = some (.function "open".toList) := by
    decide +kernel
  obtain ⟨doclet, found, describes⟩ := recognized 5 _ _ rfl subject
  refine ⟨above_scanned, direct.mpr rfl, doclet, ?_, describes⟩
  rw [made, List.filterMap_cons, found]
  rfl

/-- A function that stands on the last line of a comment, and another one on the next line. -/
def beside : Text := "/** Opens. */ function open() \x7b\x7d\nfunction close() \x7b\x7d\n".toList

/-- A comment that is followed by code on its last line documents the next line instead. -/
theorem not_every_comment_documents_next :
    ¬∀ (source : Text) (blocks : List Block), Scanned 1 (lines source) blocks →
      ∀ block ∈ blocks, Unnamed block.comment → block.used = block.next := by
  intro every
  let block : Block :=
    ⟨[" Opens. ".toList], " function open() \x7b\x7d".toList, 1, ["function close() \x7b\x7d".toList]⟩
  have cut : lines beside =
      ["/** Opens. */ function open() \x7b\x7d".toList, "function close() \x7b\x7d".toList] := by decide +kernel
  have parts : " Opens. */ function open() \x7b\x7d".toList :: ["function close() \x7b\x7d".toList] =
      [] ++ " Opens. */ function open() \x7b\x7d".toList :: ["function close() \x7b\x7d".toList] := rfl
  have scanned : Scanned 1 (lines beside) [block] := by
    rw [cut]
    exact .comment rfl parts nofun rfl (.code (by decide +kernel) (.done _))
  have same := every beside [block] scanned block List.mem_cons_self rfl
  have filled : blank block.trailing = false := by decide +kernel
  rw [block.used_eq_next, filled] at same
  cases same

end DocSite.Doclet.Script
