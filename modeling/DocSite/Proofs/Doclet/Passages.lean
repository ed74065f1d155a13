/-
# DocSite.Proofs.Doclet.Passages -- where the comments of a script begin and end

A comment opens where `/**` is the first on a line, and it ends at the first end mark after that. Where one is
open nothing else begins: a comment begins where one opens that is not within an earlier one (`Begins`). What
this makes of a source up to some place is known from the comments that have begun and ended there, if none
opens outside of them (`Covers`): they are the comments that begin there (`Covers.begins_iff`), and one that
opens next begins too. So the comments that cover all of a source are those that it is cut into (`Partition`).
-/
import DocSite.Proofs.Doclet.Blocks
import DocSite.Proofs.Text.TopLine
import Mathlib.Data.List.Pairwise

set_option autoImplicit false

namespace DocSite.Doclet.Script

open Text

/-! ## Comments in a source -/

/-- The mark that opens a comment. -/
def openMark : Text := ['/', '*', '*']

/-- Whether a text ends with no more than white space on its last line. -/
def Indented (before : Text) : Prop :=
  ∃ above white, before = above ++ white ∧ EndsLine above ∧ '\n' ∉ white ∧ blank white = true

/-- Whether a comment opens between `before` and `rest`: the mark has no more than white space before it on its
line, and neither a star nor a slash follows it. -/
structure Opens (source before rest : Text) : Prop where
  whole : source = before ++ (openMark ++ rest)
  indented : Indented before
  no_star : rest.head? ≠ some '*'
  no_slash : rest.head? ≠ some '/'

/-- A comment in a source: what is before it, between its marks, and after it. -/
structure Passage where
  before : Text
  inside : Text
  after : Text

namespace Passage

variable (passage : Passage)

/-- What follows the mark that opens a comment. -/
def rest : Text := passage.inside ++ (endMark ++ passage.after)

/-- The source up to the end of a comment. -/
def closed : Text := passage.before ++ (openMark ++ (passage.inside ++ endMark))

/-- Where a comment begins. -/
def start : Nat := passage.before.length

/-- Where a comment ends. -/
def stop : Nat := passage.closed.length

/-- Whether a comment stands in a source: it opens there, and its end mark is the first that follows. -/
structure StandsIn (source : Text) : Prop where
  opens : Opens source passage.before passage.rest
  first : ¬endMark <:+: passage.inside

/-- What a comment says. -/
def comment : Comment := .ofLines ((lines passage.inside).map dropStar)

/-- The first line that is not blank below the one on which a comment ends, and its number. -/
def code? : Option (Nat × Text) :=
  nextCode? (lineNumber passage.closed + 1) (lines (belowTop passage.after))

/-- The doclet of a comment, if it has a subject. -/
def doclet? (file : Text) : Option Json.Value := Script.doclet? passage.comment passage.code? file

end Passage

/-- Whether a comment begins between `before` and `rest`: it opens there, and each comment that begins earlier
and ends at all has ended by then. -/
def Begins (source before rest : Text) : Prop :=
  Opens source before rest ∧ ∀ passage : Passage, passage.StandsIn source →
    passage.before.length < before.length → Begins source passage.before passage.rest →
    passage.stop ≤ before.length
termination_by before.length

/-- Whether a comment begins behind `before` that has no end. -/
def Unclosed (source before : Text) : Prop := ∃ rest, Begins source before rest ∧ ¬endMark <:+: rest

/-- Whether a comment that has no end begins behind a text, and none does earlier. -/
def FirstUnclosed (source before : Text) : Prop :=
  Unclosed source before ∧ ∀ other, Unclosed source other → before.length ≤ other.length

/-- Whether comments are those of a source: each stands in it, in their order and apart from each other, they
are the ones that begin in it, and where else one opens it is within one of them. -/
structure Partition (source : Text) (passages : List Passage) : Prop where
  stand : ∀ passage ∈ passages, passage.StandsIn source
  apart : passages.Pairwise (·.stop ≤ ·.start)
  begins : ∀ before rest, Begins source before rest ↔
    ∃ passage ∈ passages, passage.before = before ∧ passage.rest = rest
  every : ∀ before rest, Opens source before rest → ∃ passage ∈ passages,
    passage.start = before.length ∨ (passage.start < before.length ∧ before.length < passage.stop)

variable {source done before rest line more inside : Text} {place further : Nat} {passages : List Passage}
  {passage other : Passage}

/-! ## The marks of comments -/

theorem splitFirst_endMark (first : ¬endMark <:+: inside) (after : Text) :
    splitFirst? endMark (inside ++ (endMark ++ after)) = some (inside, after) := by
  have free : ¬['*'] ++ ['/'] <:+: inside := first
  have split := splitFirst_of_last (by decide) free after
  rwa [List.append_assoc] at split

/-- What has an end mark has a first one. -/
theorem exists_first (marked : endMark <:+: rest) :
    ∃ inside after, rest = inside ++ (endMark ++ after) ∧ ¬endMark <:+: inside := by
  induction rest with
  | nil => cases List.infix_nil.mp marked
  | cons c rest ih =>
    by_cases here : endMark <+: c :: rest
    · obtain ⟨after, same⟩ := here
      exact ⟨[], after, same.symm, by decide⟩
    · obtain ⟨inside, after, rfl, first⟩ := ih ((List.infix_cons_iff.mp marked).resolve_left here)
      refine ⟨c :: inside, after, rfl, fun again => ?_⟩
      rcases List.infix_cons_iff.mp again with start | later
      · exact here (start.trans ⟨endMark ++ after, rfl⟩)
      · exact first later

/-! ## Where comments open -/

theorem Opens.lt_length (opens : Opens source before rest) : before.length < source.length := by
  rw [opens.whole]
  simp [openMark]

theorem Opens.eq_of_length {before' rest' : Text} (opens : Opens source before rest)
    (opens' : Opens source before' rest') (same : before.length = before'.length) :
    before = before' ∧ rest = rest' := by
  have cut := opens.whole.symm.trans opens'.whole
  obtain ⟨rfl, tail⟩ := List.append_inj cut same
  exact ⟨rfl, List.append_cancel_left tail⟩

/-- A comment that opens on a line has no more than white space before it on the line, also if a part of the line
is behind. -/
theorem Opens.on_line (opens : Opens source before rest) (whole : source = done ++ (line ++ more))
    (free : '\n' ∉ line) (behind : done.length ≤ before.length) (ahead : before.length ≤ (done ++ line).length) :
    Indented done ∧ ∃ white, before = done ++ white ∧ '\n' ∉ white ∧ blank white = true := by
  obtain ⟨above, blanks, same, ended, blanks_free, empty⟩ := opens.indented
  have in_source : before <+: source := ⟨_, opens.whole.symm⟩
  obtain ⟨white, rfl⟩ : done <+: before := List.prefix_of_prefix_length_le ⟨_, whole.symm⟩ in_source behind
  have in_line : white <+: line := by
    rw [whole, ← List.append_assoc] at in_source
    have in_done := List.prefix_of_prefix_length_le in_source ⟨more, rfl⟩ ahead
    exact (List.prefix_append_right_inj done).mp in_done
  rcases List.append_eq_append_iff.mp same with ⟨space, rfl, rest_white⟩ | ⟨space, rfl, rfl⟩
  · -- A line does not begin behind its own beginning.
    have space_free : '\n' ∉ space := fun member => free (in_line.mem (by simp [rest_white, member]))
    obtain rfl := ended.eq_nil_of_append space_free
    rw [List.append_nil] at ended
    subst rest_white
    exact ⟨⟨done, [], by simp, ended, List.not_mem_nil, rfl⟩, white, rfl, blanks_free, empty⟩
  · rw [List.mem_append, not_or] at blanks_free
    rw [blank_append, Bool.and_eq_true] at empty
    exact ⟨⟨above, space, rfl, ended, blanks_free.1, empty.1⟩, white, rfl, blanks_free.2, empty.2⟩

/-! ## Where comments begin -/

theorem Passage.start_lt_stop (passage : Passage) : passage.start < passage.stop := by
  simp [Passage.start, Passage.stop, Passage.closed, openMark]

theorem Passage.lineNumber_closed (passage : Passage) :
    lineNumber passage.closed = lineNumber passage.before + passage.inside.count '\n' := by
  simp [closed, lineNumber_append, openMark, endMark]

/-- The end mark is neither white space nor a line end. -/
theorem Passage.not_indented_closed (passage : Passage) : ¬Indented passage.closed := by
  rintro ⟨above, white, same, ended, -, empty⟩
  have last : (above ++ white).getLast? = some '/' := by
    rw [← same]
    simp [Passage.closed, endMark]
  by_cases none : white = []
  · rw [none, List.append_nil] at last
    rcases ended with rfl | feed
    · cases last
    · rw [feed] at last
      cases last
  · rw [List.getLast?_append_of_ne_nil _ none] at last
    have blank_mark := List.all_eq_true.mp empty '/' (List.mem_of_getLast? last)
    cases blank_mark

theorem Passage.endMark_infix (passage : Passage) : endMark <:+: passage.rest :=
  ⟨passage.inside, passage.after, by rw [Passage.rest, List.append_assoc]⟩

/-- A place has one comment that begins there. -/
theorem Passage.StandsIn.eq_of_start (stands : passage.StandsIn source) (stands' : other.StandsIn source)
    (same : passage.start = other.start) : passage = other := by
  obtain ⟨before_eq, rest_eq⟩ := stands.opens.eq_of_length stands'.opens same
  obtain ⟨before, inside, after⟩ := passage
  obtain ⟨before', inside', after'⟩ := other
  have split := splitFirst_endMark stands.first after
  have again := splitFirst_endMark stands'.first after'
  rw [show inside ++ (endMark ++ after) = inside' ++ (endMark ++ after') from rest_eq, again] at split
  cases split
  cases before_eq
  rfl

theorem begins_def : Begins source before rest ↔ Opens source before rest ∧
    ∀ passage : Passage, passage.StandsIn source → passage.start < before.length →
      Begins source passage.before passage.rest → passage.stop ≤ before.length := by
  rw [Begins]
  rfl

/-! ## Comments before a place -/

/-- Whether comments are those that begin in a source before a place: each has ended by then, and where else one
opens before it is within one of them. -/
structure Covers (source : Text) (place : Nat) (passages : List Passage) : Prop where
  stand : ∀ passage ∈ passages, passage.StandsIn source
  apart : passages.Pairwise (·.stop ≤ ·.start)
  behind : ∀ passage ∈ passages, passage.stop ≤ place
  every : ∀ before rest, Opens source before rest → before.length < place →
    ∃ passage ∈ passages, passage.start ≤ before.length ∧ before.length < passage.stop

theorem Covers.extend (covers : Covers source place passages) (later : place ≤ further)
    (none : ∀ before rest, Opens source before rest → place ≤ before.length → ¬before.length < further) :
    Covers source further passages where
  stand := covers.stand
  apart := covers.apart
  behind passage member := le_trans (covers.behind passage member) later
  every before rest opens ahead := by
    by_cases earlier : before.length < place
    · exact covers.every before rest opens earlier
    · exact absurd ahead (none before rest opens (Nat.le_of_not_lt earlier))

theorem Covers.concat (covers : Covers source passage.start passages) (stands : passage.StandsIn source) :
    Covers source passage.stop (passages ++ [passage]) where
  stand other member := by
    rcases List.mem_append.mp member with earlier | own
    · exact covers.stand other earlier
    · rwa [List.mem_singleton.mp own]
  apart := List.pairwise_append.mpr ⟨covers.apart, List.pairwise_singleton .., fun other earlier last own => by
    rw [List.mem_singleton.mp own]
    exact covers.behind other earlier⟩
  behind other member := by
    rcases List.mem_append.mp member with earlier | own
    · exact le_trans (covers.behind other earlier) passage.start_lt_stop.le
    · rw [List.mem_singleton.mp own]
  every before rest opens ahead := by
    by_cases earlier : before.length < passage.start
    · obtain ⟨other, member, within⟩ := covers.every before rest opens earlier
      exact ⟨other, List.mem_append_left _ member, within⟩
    · exact ⟨passage, by simp, Nat.le_of_not_lt earlier, ahead⟩

/-- The comments that begin before a place are those that cover it. -/
theorem Covers.begins_iff (covers : Covers source place passages) (earlier : before.length < place) :
    Begins source before rest ↔ ∃ passage ∈ passages, passage.before = before ∧ passage.rest = rest := by
  induction size : before.length using Nat.strong_induction_on generalizing before rest with
  | _ n ih =>
    subst size
    constructor
    · intro begins
      obtain ⟨opens, ended⟩ := begins_def.mp begins
      obtain ⟨passage, member, from_start, to_stop⟩ := covers.every before rest opens earlier
      rcases Nat.eq_or_lt_of_le from_start with same | within
      · exact ⟨passage, member, (covers.stand passage member).opens.eq_of_length opens same⟩
      · -- It would be within a comment that has begun.
        have begun := (ih _ within (lt_trans within earlier) rfl).mpr ⟨passage, member, rfl, rfl⟩
        exact absurd to_stop (Nat.not_lt.mpr (ended passage (covers.stand passage member) within begun))
    · rintro ⟨passage, member, rfl, rfl⟩
      refine begins_def.mpr ⟨(covers.stand passage member).opens, fun other stands before_it begun => ?_⟩
      obtain ⟨found, found_member, same, -⟩ := (ih _ before_it (lt_trans before_it earlier) rfl).mp begun
      obtain rfl := (covers.stand found found_member).eq_of_start stands (congrArg List.length same)
      -- Two comments are apart, and the one that begins first has ended first.
      have differ : found ≠ passage := by
        rintro rfl
        exact absurd before_it (lt_irrefl _)
      have : Std.Symm fun p q : Passage => p.stop ≤ q.start ∨ q.stop ≤ p.start := ⟨fun p q => Or.symm⟩
      have either : passages.Pairwise fun p q => p.stop ≤ q.start ∨ q.stop ≤ p.start := covers.apart.imp .inl
      rcases either.forall found_member member differ with first | last
      · exact first
      · exact absurd (lt_of_lt_of_le passage.start_lt_stop last) (Nat.not_lt.mpr before_it.le)

/-! ## The comments of a source -/

theorem partition_of_covers (covers : Covers source source.length passages) : Partition source passages where
  stand := covers.stand
  apart := covers.apart
  begins before rest := by
    constructor
    · intro begins
      exact (covers.begins_iff (begins_def.mp begins).1.lt_length).mp begins
    · rintro ⟨passage, member, rfl, rfl⟩
      exact (covers.begins_iff (covers.stand passage member).opens.lt_length).mpr ⟨passage, member, rfl, rfl⟩
  every before rest opens := by
    obtain ⟨passage, member, from_start, to_stop⟩ := covers.every before rest opens opens.lt_length
    rcases Nat.eq_or_lt_of_le from_start with same | within
    · exact ⟨passage, member, .inl same⟩
    · exact ⟨passage, member, .inr ⟨within, to_stop⟩⟩

theorem Partition.ends (partition : Partition source passages) : ¬Unclosed source before := by
  rintro ⟨rest, begins, endless⟩
  obtain ⟨passage, -, rfl, rfl⟩ := (partition.begins before rest).mp begins
  exact endless passage.endMark_infix

/-- A comment without an end that opens behind those which have ended is the first one without an end. -/
theorem Covers.firstUnclosed (covers : Covers source before.length passages) (opens : Opens source before rest)
    (endless : ¬endMark <:+: rest) : FirstUnclosed source before := by
  refine ⟨⟨rest, begins_def.mpr ⟨opens, fun passage stands earlier begun => ?_⟩, endless⟩, ?_⟩
  · obtain ⟨found, member, same, -⟩ := (covers.begins_iff earlier).mp begun
    obtain rfl := (covers.stand found member).eq_of_start stands (congrArg List.length same)
    exact covers.behind found member
  · rintro other ⟨rest', begins, endless'⟩
    by_contra earlier
    obtain ⟨found, -, rfl, rfl⟩ := (covers.begins_iff (Nat.lt_of_not_le earlier)).mp begins
    exact endless' found.endMark_infix

theorem FirstUnclosed.unique {other : Text} (first : FirstUnclosed source before)
    (first' : FirstUnclosed source other) : before = other := by
  have same := le_antisymm (first.2 other first'.1) (first'.2 before first.1)
  obtain ⟨rest, begins, -⟩ := first.1
  obtain ⟨rest', begins', -⟩ := first'.1
  exact ((begins_def.mp begins).1.eq_of_length (begins_def.mp begins').1 same).1

end DocSite.Doclet.Script
