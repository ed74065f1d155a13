/-
# DocSite.Proofs.Doclet.Partition -- the comments that are read of a script

Every script is cut into comments, or one that begins in it has no end, and the reader of scripts finds just
that (`doclets_partition`). It goes from line to line: no comment opens on a line of code
(`Covers.below_code`), none opens on a line before the one with which it begins (`Covers.to_opening`), and none
opens on the line on which one has ended (`Covers.below_passage`). So it has found what covers the lines behind
it, and what is ahead is read alike (`finishes_docletsFrom`).
-/
import DocSite.Proofs.Doclet.Comment
import DocSite.Proofs.Doclet.Passages
import DocSite.Proofs.Text.Ink

set_option autoImplicit false

namespace DocSite.Doclet.Script

open Text

variable {source done text before rest white line file : Text} {number fuel : Nat} {passage : Passage}
  {earlier passages : List Passage} {result : Except Unterminated (List Json.Value)}

/-! ## Lines that open comments -/

theorem afterOpening_eq_some : afterOpening? line = some rest ↔
    ∃ white, line = white ++ (openMark ++ rest) ∧ blank white = true ∧
      rest.head? ≠ some '*' ∧ rest.head? ≠ some '/' := by
  constructor
  · intro opens
    obtain ⟨white, empty, same⟩ := eq_append_trimStart line
    unfold afterOpening? at opens
    split at opens
    next found marked =>
      rw [marked] at same
      split at opens
      · cases opens
      · cases opens
      next no_star no_slash =>
        cases opens
        refine ⟨white, same, empty, ?_, ?_⟩
        · exact fun star => no_star _ (List.head?_eq_some_iff.mp star).choose_spec
        · exact fun slash => no_slash _ (List.head?_eq_some_iff.mp slash).choose_spec
    · cases opens
  · rintro ⟨white, rfl, empty, no_star, no_slash⟩
    have marked : trimStart (white ++ (openMark ++ rest)) = '/' :: '*' :: '*' :: rest := by
      rw [trimStart_append_blank empty]
      exact trimStart_cons (by decide)
    unfold afterOpening?
    rw [marked]
    cases rest with
    | nil => rfl
    | cons c rest =>
      have no_star : c ≠ '*' := by simpa using no_star
      have no_slash : c ≠ '/' := by simpa using no_slash
      simp [no_star, no_slash]

theorem topLine_opened (free : '\n' ∉ white) (rest : Text) :
    topLine (white ++ (openMark ++ rest)) = white ++ (openMark ++ topLine rest) := by
  have marked : '\n' ∉ white ++ ['/', '*'] := by simp [free]
  have split (rest : Text) : white ++ (openMark ++ rest) = (white ++ ['/', '*']) ++ '*' :: rest := by
    simp [openMark]
  rw [split, split, topLine_append (by decide) (by decide) marked]

theorem head_topLine {c : Char} (no_return : c ≠ '\r') (no_feed : c ≠ '\n') :
    (topLine text).head? = some c ↔ text.head? = some c := by
  constructor
  · intro head
    obtain ⟨more, same⟩ := prefix_topLine text
    rw [← same, List.head?_append, head]
    rfl
  · intro head
    obtain ⟨more, rfl⟩ := List.head?_eq_some_iff.mp head
    rw [← List.nil_append (c :: more), topLine_append no_return no_feed List.not_mem_nil]
    rfl

/-- A first line opens a comment just if the text does. -/
theorem afterOpening_topLine {opened : Text} (whole : source = done ++ text) (ended : EndsLine done) :
    afterOpening? (topLine text) = some opened ↔
      ∃ white rest, text = white ++ (openMark ++ rest) ∧ '\n' ∉ white ∧ blank white = true ∧
        Opens source (done ++ white) rest ∧ opened = topLine rest := by
  rw [afterOpening_eq_some]
  constructor
  · rintro ⟨white, same, empty, no_star, no_slash⟩
    have free : '\n' ∉ white := fun member =>
      feed_not_mem_topLine text (by rw [same]; exact List.mem_append_left _ member)
    obtain ⟨more, longer⟩ := prefix_topLine text
    have cut : text = white ++ (openMark ++ (opened ++ more)) := by
      rw [← longer, same]
      simp
    have here : opened = topLine (opened ++ more) := by
      rw [cut, topLine_opened free] at same
      exact (List.append_cancel_left (List.append_cancel_left same)).symm
    rw [here, ne_eq, head_topLine (by decide) (by decide)] at no_star no_slash
    have opens : Opens source (done ++ white) (opened ++ more) :=
      ⟨by rw [whole, cut, List.append_assoc], ⟨done, white, rfl, ended, free, empty⟩, no_star, no_slash⟩
    exact ⟨white, opened ++ more, cut, free, empty, opens, here⟩
  · rintro ⟨white, rest, rfl, free, empty, opens, rfl⟩
    refine ⟨white, topLine_opened free rest, empty, ?_, ?_⟩
    · rw [ne_eq, head_topLine (by decide) (by decide)]
      exact opens.no_star
    · rw [ne_eq, head_topLine (by decide) (by decide)]
      exact opens.no_slash

/-! ## The lines of a comment -/

theorem splitComment_endless (endless : ¬endMark <:+: rest) :
    splitComment? (topLine rest) (lines (belowTop rest)) = none := by
  cases read : splitComment? (topLine rest) (lines (belowTop rest)) with
  | none => rfl
  | some found =>
    obtain ⟨opened, last, within, trailing, parts, -, closes⟩ := exists_parts read
    have marked : endMark <:+: last := ⟨within, trailing, append_of_splitFirst? closes⟩
    have member : last ∈ topLine rest :: lines (belowTop rest) := by simp [parts]
    rcases List.mem_cons.mp member with rfl | later
    · exact absurd (marked.trans (prefix_topLine rest).isInfix) endless
    · exact absurd ((marked.trans (infix_of_mem_lines later)).trans (belowTop_suffix rest).isInfix) endless

/-- A comment is read up to its first end mark, and the lines below this are left. -/
theorem splitComment_passage {inside after : Text} (whole : rest = inside ++ (endMark ++ after))
    (first : ¬endMark <:+: inside) :
    ∃ written, splitComment? (topLine rest) (lines (belowTop rest)) = some (written, lines (belowTop after)) ∧
      Comment.ofLines written = .ofLines ((lines inside).map dropStar) ∧
      (lines (belowTop rest)).length = (lines (belowTop after)).length + inside.count '\n' := by
  obtain ⟨above, line, rfl, ended, free⟩ := exists_last inside
  have open_line : '\n' ∉ line ++ ['*'] := by simp [free]
  have tail : line ++ (endMark ++ after) = (line ++ ['*']) ++ '/' :: after := by simp [endMark]
  have last : topLine (line ++ (endMark ++ after)) = line ++ (endMark ++ topLine after) := by
    rw [tail, topLine_append (by decide) (by decide) open_line]
    simp [endMark]
  have under : belowTop (line ++ (endMark ++ after)) = belowTop after := by
    rw [← List.append_assoc, belowTop_append (by simp [free, endMark])]
  have lower : lines (line ++ (endMark ++ after)) =
      (line ++ (endMark ++ topLine after)) :: lines (belowTop after) := by
    rw [lines_eq_cons (by simp [endMark]), last, under]
  have parts : topLine rest :: lines (belowTop rest) =
      lines above ++ (line ++ (endMark ++ topLine after)) :: lines (belowTop after) := by
    rw [← lines_eq_cons (by simp [whole, endMark]), whole, List.append_assoc, lines_append ended, lower]
  have unclosed : ∀ other ∈ lines above, ¬endMark <:+: other := fun other member inside =>
    first ((inside.trans (infix_of_mem_lines member)).trans (List.prefix_append ..).isInfix)
  have closes : splitFirst? endMark (line ++ (endMark ++ topLine after)) = some (line, topLine after) :=
    splitFirst_endMark (fun inside => first (inside.trans (List.suffix_append ..).isInfix)) _
  refine ⟨_, splitComment_closed parts unclosed closes, ?_, ?_⟩
  · -- An end mark at the beginning of a line leaves an empty line behind, which says nothing.
    by_cases none : line = []
    · subst none
      rw [List.append_nil, List.map_append, List.map_singleton]
      exact Comment.ofLines_concat_blank rfl _
    · rw [lines_append ended, lines_of_free free none]
  · have lengths := congrArg List.length parts
    rw [List.length_append, List.length_cons, List.length_cons, length_lines ended] at lengths
    rw [List.count_append, List.count_eq_zero_of_not_mem free]
    omega

/-! ## The scan -/

/-- Whether a scan has read `done` of a source and has `text` before it, from line number `number` on. -/
structure Reached (source done text : Text) (number : Nat) : Prop where
  whole : source = done ++ text
  here : text = [] ∨ (EndsLine done ∧ number = lineNumber done)

/-- What a scan that has found some comments makes of the rest of a source: the doclets of the comments which
are still to come, or the error for the first of them that has no end. -/
inductive Finishes (source file : Text) (earlier : List Passage) :
    Except Unterminated (List Json.Value) → Prop
  | read (later : List Passage) (covers : Covers source source.length (earlier ++ later)) :
      Finishes source file earlier (.ok (later.filterMap (·.doclet? file)))
  | stuck (later : List Passage) (before rest : Text) (covers : Covers source before.length (earlier ++ later))
      (opens : Opens source before rest) (endless : ¬endMark <:+: rest) :
      Finishes source file earlier (.error ⟨lineNumber before⟩)

/-- A scan goes on below the line that it stands in. -/
theorem exists_reached (whole : source = done ++ text) :
    ∃ lower, Reached source lower (belowTop text) (lineNumber done + 1) ∧ done.length ≤ lower.length ∧
      ∀ before rest, Opens source before rest → done.length ≤ before.length → before.length < lower.length →
        Indented done ∧ ∃ white, before = done ++ white ∧ '\n' ∉ white ∧ blank white = true := by
  obtain ⟨line, top, cut, free, parts⟩ := exists_top text
  refine ⟨done ++ top, ⟨by rw [whole, List.append_assoc, ← cut], ?_⟩, by simp, ?_⟩
  · rcases parts with ⟨-, last⟩ | rfl
    · exact .inl last
    · refine .inr ⟨.inr (by simp), ?_⟩
      rw [← List.append_assoc, lineNumber_append, lineNumber_append_free free]
      rfl
  · intro before rest opens behind ahead
    obtain ⟨more, same⟩ : ∃ more, text = line ++ more := by
      rcases parts with ⟨rfl, -⟩ | rfl
      · exact ⟨_, cut⟩
      · exact ⟨_, by rwa [List.append_assoc] at cut⟩
    rw [same] at whole
    refine opens.on_line whole free behind ?_
    rcases parts with ⟨rfl, -⟩ | rfl
    · exact ahead.le
    · rw [List.length_append, List.length_append] at ahead
      rw [List.length_append]
      exact Nat.le_of_lt_succ ahead

/-- The white space before the first mark that opens a comment is known from the text. -/
theorem white_unique {white' rest' : Text} (empty : blank white = true) (empty' : blank white' = true)
    (same : white ++ (openMark ++ rest) = white' ++ (openMark ++ rest')) : white = white' := by
  have cut {white rest : Text} (empty : blank white = true) :
      (white ++ (openMark ++ rest)).takeWhile isBlank = white := by
    rw [List.takeWhile_append_of_pos (List.all_eq_true.mp empty)]
    exact List.append_nil _
  rw [← cut empty, same, cut empty']

/-- No comment opens on a line of code. -/
theorem Covers.below_code (covers : Covers source done.length passages) (whole : source = done ++ text)
    (ended : EndsLine done) (code : afterOpening? (topLine text) = none) :
    ∃ lower, Reached source lower (belowTop text) (lineNumber done + 1) ∧ Covers source lower.length passages := by
  obtain ⟨lower, reached, later, on_line⟩ := exists_reached whole
  refine ⟨lower, reached, covers.extend later fun before rest opens behind ahead => ?_⟩
  obtain ⟨-, white, rfl, free, empty⟩ := on_line before rest opens behind ahead
  have same := whole.symm.trans opens.whole
  rw [List.append_assoc] at same
  have cut := List.append_cancel_left same
  have opened := (afterOpening_topLine whole ended).mpr ⟨white, rest, cut, free, empty, opens, rfl⟩
  rw [code] at opened
  cases opened

/-- No comment opens on a line before the first mark that opens one. -/
theorem Covers.to_opening (covers : Covers source done.length passages) (free : '\n' ∉ white)
    (empty : blank white = true) (opens : Opens source (done ++ white) rest) :
    Covers source (done ++ white).length passages := by
  refine covers.extend (by simp) fun before rest' opens' behind ahead => ?_
  have whole : source = done ++ (white ++ (openMark ++ rest)) := by rw [opens.whole, List.append_assoc]
  obtain ⟨-, white', rfl, -, empty'⟩ := opens'.on_line whole free behind ahead.le
  have same := whole.symm.trans opens'.whole
  rw [List.append_assoc] at same
  rw [white_unique empty empty' (List.append_cancel_left same)] at ahead
  exact lt_irrefl _ ahead

/-- No comment opens on a line on which one has ended. -/
theorem Covers.below_passage (covers : Covers source passage.stop passages) (stands : passage.StandsIn source) :
    ∃ lower, Reached source lower (belowTop passage.after) (lineNumber passage.closed + 1) ∧
      Covers source lower.length passages := by
  have whole : source = passage.closed ++ passage.after := by
    rw [stands.opens.whole]
    simp [Passage.closed, Passage.rest]
  obtain ⟨lower, reached, later, on_line⟩ := exists_reached whole
  refine ⟨lower, reached, covers.extend later fun before rest opens behind ahead => ?_⟩
  exact passage.not_indented_closed (on_line before rest opens behind ahead).1

theorem Finishes.comment (finishes : Finishes source file (earlier ++ [passage]) result) :
    Finishes source file earlier (result.map ((passage.doclet? file).toList ++ ·)) := by
  cases finishes with
  | read later covers =>
    rw [List.append_assoc] at covers
    have made : Finishes source file earlier (.ok (([passage] ++ later).filterMap (·.doclet? file))) :=
      .read _ covers
    rw [List.singleton_append, List.filterMap_cons] at made
    cases own : passage.doclet? file <;> rw [own] at made <;> exact made
  | stuck later before rest covers opens endless =>
    rw [List.append_assoc] at covers
    exact .stuck _ before rest covers opens endless

theorem finishes_nil (reached : Reached source done text number) (covers : Covers source done.length earlier)
    (none : text = []) (file : Text) : Finishes source file earlier (docletsFrom file fuel number (lines text)) := by
  obtain rfl := none
  have whole := reached.whole
  rw [List.append_nil] at whole
  rw [← whole, ← List.append_nil earlier] at covers
  cases fuel <;> exact .read [] covers

/-- A scan that has found the comments behind it finds those that are ahead. -/
theorem finishes_docletsFrom (reached : Reached source done text number)
    (covers : Covers source done.length earlier) (enough : (lines text).length ≤ fuel) (file : Text) :
    Finishes source file earlier (docletsFrom file fuel number (lines text)) := by
  induction fuel generalizing done text number earlier with
  | zero =>
    refine finishes_nil reached covers ?_ file
    by_contra filled
    rw [lines_eq_cons filled] at enough
    cases enough
  | succ fuel ih =>
    by_cases none : text = []
    · exact finishes_nil reached covers none file
    obtain ⟨ended, rfl⟩ := reached.here.resolve_left none
    rw [lines_eq_cons none] at enough ⊢
    have enough := Nat.le_of_succ_le_succ enough
    rw [docletsFrom]
    cases opening : afterOpening? (topLine text) with
    | none =>
      obtain ⟨lower, later, covers⟩ := covers.below_code reached.whole ended opening
      exact ih later covers enough
    | some opened =>
      obtain ⟨white, rest, rfl, free, empty, opens, rfl⟩ :=
        (afterOpening_topLine reached.whole ended).mp opening
      have covers := covers.to_opening free empty opens
      have under : belowTop (white ++ (openMark ++ rest)) = belowTop rest := by
        rw [← List.append_assoc, belowTop_append (by simp [free, openMark])]
      rw [under] at enough ⊢
      have first_line := lineNumber_append_free free done
      by_cases ends : endMark <:+: rest
      · obtain ⟨inside, after, rfl, first⟩ := exists_first ends
        obtain ⟨written, split, said, lengths⟩ := splitComment_passage rfl first
        have stands : Passage.StandsIn ⟨done ++ white, inside, after⟩ source := ⟨opens, first⟩
        obtain ⟨lower, later, covers⟩ := (covers.concat stands).below_passage stands
        have number : lineNumber done + 1 + ((lines (belowTop (inside ++ (endMark ++ after)))).length -
            (lines (belowTop after)).length) = lineNumber (Passage.closed ⟨done ++ white, inside, after⟩) + 1 := by
          rw [lengths, Nat.add_sub_cancel_left, Passage.lineNumber_closed, first_line, Nat.add_right_comm]
        have enough : (lines (belowTop after)).length ≤ fuel := by omega
        simp only [split, number, said]
        exact (ih later covers enough).comment
      · simp only [splitComment_endless ends, ← first_line]
        have all : Covers source (done ++ white).length (earlier ++ []) := by rwa [List.append_nil]
        exact .stuck [] _ rest all opens ends

/-- A script makes no doclets just if a comment begins in it that has no end, and the error has the number of
the line on which the first such comment begins. A script whose comments all end is cut into them, and each
makes its doclet if it has a subject, in order. -/
theorem doclets_partition (source file : Text) :
    ((∃ e, doclets source file = .error e) ↔ ∃ before, Unclosed source before) ∧
      (∀ number, doclets source file = .error ⟨number⟩ ↔
        ∃ before, FirstUnclosed source before ∧ number = lineNumber before) ∧
      ((∀ before, ¬Unclosed source before) →
        ∃ passages, Partition source passages ∧
          doclets source file = .ok (passages.filterMap (·.doclet? file))) := by
  have start : Reached source [] source 1 := ⟨rfl, .inr ⟨.inl rfl, rfl⟩⟩
  have nothing : Covers source 0 [] := ⟨nofun, .nil, nofun, fun _ _ _ => nofun⟩
  have finishes := finishes_docletsFrom start nothing le_rfl file
  change Finishes source file [] (doclets source file) at finishes
  generalize doclets source file = made at finishes
  cases finishes with
  | read passages covers =>
    have partition := partition_of_covers covers
    refine ⟨⟨nofun, fun ⟨before, unclosed⟩ => absurd unclosed partition.ends⟩, fun number => ⟨nofun, ?_⟩,
      fun _ => ⟨passages, partition, rfl⟩⟩
    rintro ⟨before, first, -⟩
    exact absurd first.1 partition.ends
  | stuck passages before rest covers opens endless =>
    have first := covers.firstUnclosed opens endless
    refine ⟨⟨fun _ => ⟨before, first.1⟩, fun _ => ⟨_, rfl⟩⟩, fun number => ⟨fun failed => ?_, ?_⟩,
      fun all => absurd first.1 (all before)⟩
    · cases failed
      exact ⟨before, first, rfl⟩
    · rintro ⟨other, first', rfl⟩
      rw [first.unique first']

/-- What opens within a comment is a part of it; the next comment, on the fourth line, has no end. -/
example : doclets "const a = 1;\n/** One.\n/** Two. */\n  /**\n * never closed\n".toList "a.js".toList =
    .error ⟨4⟩ := by
  rfl

end DocSite.Doclet.Script
