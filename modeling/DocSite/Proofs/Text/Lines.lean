/-
# DocSite.Proofs.Text.Lines -- texts made of lines

What follows a line feed begins a line (`linesKept_append`), so that lines which are written one below
the other are read one by one (`lines_unlines`). What is read of a line is the line without the carriage
return that it may end with: no more than white space is lost (`trimEnd_bareLine`). The lines that are read
are those that stand in the text between line feeds (`IsLine`, `IsLine.exists_kept`).
-/
import DocSite.Proofs.Text.Trimming

set_option autoImplicit false

namespace DocSite.Text

variable {before after line : Text}

/-! ## Lines of joined texts -/

theorem linesKept_cons_feed (after : Text) : linesKept ('\n' :: after) = ['\n'] :: linesKept after := by
  simp [linesKept]

/-- What follows a line feed begins a line. -/
theorem linesKept_append (ended : before.getLast? = some '\n') :
    linesKept (before ++ after) = linesKept before ++ linesKept after := by
  induction before with
  | nil => cases ended
  | cons c rest ih =>
    cases rest with
    | nil =>
      obtain rfl : c = '\n' := by simpa using ended
      exact linesKept_cons_feed after
    | cons d more =>
      have tail := ih (by simpa using ended)
      have some_line : linesKept (d :: more) ≠ [] := by
        intro none
        have whole := flatten_linesKept (d :: more)
        rw [none] at whole
        cases whole
      rw [List.cons_append, linesKept, linesKept, tail]
      cases lines : linesKept (d :: more) with
      | nil => exact absurd lines some_line
      | cons line lines =>
        by_cases feed : c = '\n' <;> simp [feed]

/-- A text without line feeds is its last line. -/
theorem linesKept_last (free : '\n' ∉ line) (filled : line ≠ []) : linesKept line = [line] := by
  induction line with
  | nil => exact absurd rfl filled
  | cons c line ih =>
    rw [List.mem_cons, not_or] at free
    rw [linesKept, if_neg (Ne.symm free.1)]
    cases line with
    | nil => rfl
    | cons d line => rw [ih free.2 (List.cons_ne_nil d line)]

theorem linesKept_line (free : '\n' ∉ line) (after : Text) :
    linesKept (line ++ '\n' :: after) = (line ++ ['\n']) :: linesKept after := by
  induction line with
  | nil => exact linesKept_cons_feed after
  | cons c line ih =>
    rw [List.mem_cons, not_or] at free
    rw [List.cons_append, linesKept, if_neg (Ne.symm free.1), ih free.2]
    rfl

/-- The first line of a text ends with a line feed and the others are the lines of what follows, or it is
all of the text. -/
theorem linesKept_eq_cons {text : Text} {later : List Text} (cut : linesKept text = line :: later) :
    (∃ start, '\n' ∉ start ∧ line = start ++ ['\n'] ∧ linesKept later.flatten = later) ∨
      ('\n' ∉ line ∧ later = []) := by
  by_cases feed : '\n' ∈ text
  · obtain ⟨start, rest, rfl, free⟩ := List.eq_append_cons_of_mem feed
    rw [linesKept_line free] at cut
    obtain ⟨rfl, rfl⟩ := List.cons.inj cut
    exact .inl ⟨start, free, rfl, by rw [flatten_linesKept]⟩
  · have filled : text ≠ [] := by
      rintro rfl
      cases cut
    rw [linesKept_last feed filled] at cut
    obtain ⟨rfl, rfl⟩ := List.cons.inj cut
    exact .inr ⟨feed, rfl⟩

/-- The lines before a line of a text are all that they are lines of, up to a line feed; the line itself
ends with a line feed too, unless it is the last. -/
theorem linesKept_eq_append {text : Text} {earlier later : List Text}
    (cut : linesKept text = earlier ++ line :: later) :
    linesKept earlier.flatten = earlier ∧
      (earlier.flatten = [] ∨ earlier.flatten.getLast? = some '\n') ∧
      ((∃ start, '\n' ∉ start ∧ line = start ++ ['\n']) ∨ ('\n' ∉ line ∧ later = [])) := by
  induction earlier generalizing text with
  | nil =>
    refine ⟨rfl, .inl rfl, ?_⟩
    rcases linesKept_eq_cons cut with ⟨start, free, same, -⟩ | last
    · exact .inl ⟨start, free, same⟩
    · exact .inr last
  | cons first earlier ih =>
    rcases linesKept_eq_cons cut with ⟨start, free, rfl, others⟩ | ⟨-, none⟩
    · obtain ⟨kept, ended, own⟩ := ih others
      refine ⟨?_, .inr ?_, own⟩
      · rw [List.flatten_cons, List.append_assoc, List.singleton_append, linesKept_line free, kept]
      · rcases ended with none | feed
        · simp [none]
        · rw [List.flatten_cons, List.getLast?_append, feed]
          rfl
    · cases earlier <;> cases none

/-! ## Where lines stand -/

/-- Whether a line stands in a text between what is before it and what is after it: it has no line feed, what is
before it ends with one, and what is after it begins with one. -/
structure IsLine (before line after text : Text) : Prop where
  whole : text = before ++ (line ++ after)
  free : '\n' ∉ line
  begins : before = [] ∨ before.getLast? = some '\n'
  ends : after = [] ∨ after.head? = some '\n'

section IsLine

variable {text opening rest inside more : Text}

/-- What follows a line feed ends with one, if it is not empty, just if the whole does. -/
theorem getLast_feed : (opening ++ '\n' :: more).getLast? = some '\n' ↔
    more = [] ∨ more.getLast? = some '\n' := by
  rcases more.eq_nil_or_concat' with rfl | ⟨start, last, rfl⟩
  · simp
  · have split : opening ++ '\n' :: (start ++ [last]) = (opening ++ '\n' :: start) ++ [last] := by simp
    rw [split, List.getLast?_concat, List.getLast?_concat]
    simp

/-- A text has a first line. -/
theorem exists_first_line (text : Text) : ∃ line after, IsLine [] line after text := by
  by_cases feed : '\n' ∈ text
  · obtain ⟨line, rest, rfl, free⟩ := List.eq_append_cons_of_mem feed
    exact ⟨line, '\n' :: rest, rfl, free, .inl rfl, .inr rfl⟩
  · exact ⟨text, [], by simp, feed, .inl rfl, .inl rfl⟩

theorem IsLine.feed_mem (here : IsLine before line after text) (later : before ≠ []) : '\n' ∈ before := by
  rcases here.begins with none | feed
  · exact absurd none later
  · exact List.mem_of_getLast? feed

/-- A line that stands in a text is read, with the line feed after it if there is one. -/
theorem IsLine.exists_kept (here : IsLine before line after text) (filled : line ≠ []) :
    ∃ kept, (kept = line ∨ kept = line ++ ['\n']) ∧
      linesKept text = linesKept before ++ kept :: linesKept after.tail := by
  have split : linesKept text = linesKept before ++ linesKept (line ++ after) := by
    rw [here.whole]
    rcases here.begins with rfl | feed
    · rfl
    · exact linesKept_append feed
  rw [split]
  cases after with
  | nil =>
    refine ⟨line, .inl rfl, ?_⟩
    rw [List.append_nil, linesKept_last here.free filled]
    rfl
  | cons c rest =>
    obtain rfl : c = '\n' := by simpa using here.ends
    refine ⟨line ++ ['\n'], .inr rfl, ?_⟩
    rw [linesKept_line here.free]
    rfl

/-- A line that comes after the first one stands in what follows the first one. -/
theorem IsLine.after_first (here : IsLine before line after (opening ++ '\n' :: rest))
    (free : '\n' ∉ opening) (later : before ≠ []) :
    ∃ more, before = opening ++ '\n' :: more ∧ IsLine more line after rest := by
  have feed := here.feed_mem later
  rcases List.append_eq_append_iff.mp here.whole with ⟨more, same, tail⟩ | ⟨more, same, tail⟩
  · cases more with
    | nil =>
      rw [same, List.append_nil] at feed
      exact absurd feed free
    | cons c more =>
      obtain ⟨rfl, whole⟩ := List.cons.inj tail
      refine ⟨more, same, whole, here.free, ?_, here.ends⟩
      rcases here.begins with none | ended
      · exact absurd none later
      · rw [same] at ended
        exact getLast_feed.mp ended
  · rw [same] at free
    exact absurd (List.mem_append_left _ feed) free

/-- A line that begins in a part of a text that ends with a line feed stands in this part. -/
theorem IsLine.within (here : IsLine before line after (inside ++ rest))
    (ended : inside = [] ∨ inside.getLast? = some '\n') (shorter : before.length < inside.length) :
    ∃ more, IsLine before line ('\n' :: more) inside := by
  have feed : inside.getLast? = some '\n' := by
    rcases ended with rfl | feed
    · cases shorter
    · exact feed
  rcases List.append_eq_append_iff.mp here.whole with ⟨more, same, -⟩ | ⟨part, same, tail⟩
  · rw [same, List.length_append] at shorter
    omega
  · -- The rest of the part ends with a line feed too, so that it does not end within the line.
    have filled : part ≠ [] := by
      rintro rfl
      rw [same, List.append_nil] at shorter
      exact absurd shorter (Nat.lt_irrefl _)
    have last : '\n' ∈ part := by
      rw [same, List.getLast?_append_of_ne_nil _ filled] at feed
      exact List.mem_of_getLast? feed
    rcases List.append_eq_append_iff.mp tail with ⟨more, whole, after_eq⟩ | ⟨more, whole, -⟩
    · cases more with
      | nil =>
        rw [whole, List.append_nil] at last
        exact absurd last here.free
      | cons c more =>
        have first : c = '\n' := by
          rcases here.ends with none | feed
          · rw [none] at after_eq
            cases after_eq
          · rw [after_eq] at feed
            simpa using feed
        subst first
        refine ⟨more, ?_, here.free, here.begins, .inr rfl⟩
        rw [same, whole]
    · rw [whole] at here
      exact absurd (List.mem_append_left _ last) here.free

/-- A line of a part of a text that begins after a line feed stands in the text. -/
theorem IsLine.behind (here : IsLine before line ('\n' :: after) inside) (opening rest : Text) :
    IsLine (opening ++ '\n' :: before) line ('\n' :: (after ++ rest)) (opening ++ '\n' :: (inside ++ rest)) where
  whole := by
    rw [here.whole]
    simp
  free := here.free
  begins := .inr (getLast_feed.mpr here.begins)
  ends := .inr rfl

/-- A line that is read with the line feed after it is not empty. -/
theorem ne_nil_of_mem_linesKept {kept : Text} (member : kept ∈ linesKept text) : kept ≠ [] := by
  induction text generalizing kept with
  | nil => cases member
  | cons c rest ih =>
    rw [linesKept] at member
    split at member
    · rcases List.mem_cons.mp member with rfl | later
      · exact List.cons_ne_nil c []
      · exact ih later
    · split at member
      · rw [List.mem_singleton.mp member]
        exact List.cons_ne_nil c []
      next first others lines =>
        rcases List.mem_cons.mp member with rfl | later
        · exact List.cons_ne_nil c first
        · exact ih (by rw [lines]; exact List.mem_cons_of_mem _ later)

/-- What is read of a text that ends with a line feed are lines that stand in it. -/
theorem exists_isLine {earlier later : List Text} {kept : Text} (cut : linesKept text = earlier ++ kept :: later)
    (ended : text.getLast? = some '\n') :
    ∃ line, kept = line ++ ['\n'] ∧ IsLine earlier.flatten line ('\n' :: later.flatten) text := by
  have whole : text = earlier.flatten ++ (kept ++ later.flatten) := by
    rw [← flatten_linesKept text, cut]
    simp
  obtain ⟨-, begins, ⟨line, free, rfl⟩ | ⟨free, rfl⟩⟩ := linesKept_eq_append cut
  · refine ⟨line, rfl, ?_, free, begins, .inr rfl⟩
    rw [whole]
    simp
  · -- What comes last has the line feed at the end of the text.
    have filled : kept ≠ [] := ne_nil_of_mem_linesKept (by rw [cut]; simp)
    rw [whole, List.flatten_nil, List.append_nil, List.getLast?_append_of_ne_nil _ filled] at ended
    exact absurd (List.mem_of_getLast? ended) free

end IsLine

/-! ## Lines one below the other -/

/-- Lines one below the other, each with a line feed at its end. -/
def unlines (lines : List Text) : Text := lines.flatMap (· ++ ['\n'])

/-- What is read of a line that has a line feed at its end. -/
def bareLine (line : Text) : Text := dropLineEnd (line ++ ['\n'])

theorem lines_unlines {written : List Text} (free : ∀ line ∈ written, '\n' ∉ line) (after : Text) :
    lines (unlines written ++ after) = written.map bareLine ++ lines after := by
  induction written with
  | nil => rfl
  | cons line written ih =>
    have later := ih fun other member => free other (List.mem_cons_of_mem _ member)
    have split : unlines (line :: written) ++ after = line ++ '\n' :: (unlines written ++ after) := by
      simp [unlines]
    rw [lines] at later ⊢
    rw [split, linesKept_line (free line (List.mem_cons_self ..)), List.map_cons, later]
    rfl

/-- A line is read without a carriage return at its end. -/
theorem bareLine_eq (line : Text) :
    bareLine line = line ∨ line = bareLine line ++ ['\r'] := by
  rcases line.eq_nil_or_concat' with rfl | ⟨start, last, rfl⟩
  · exact .inl rfl
  · by_cases return_ : last = '\r'
    · subst return_
      right
      simp [bareLine, dropLineEnd]
    · left
      simp [bareLine, dropLineEnd, return_]

theorem prefix_bareLine (line : Text) : bareLine line <+: line := by
  rcases bareLine_eq line with same | cut
  · exact ⟨[], by rw [List.append_nil, same]⟩
  · exact ⟨_, cut.symm⟩

@[simp]
theorem trimEnd_bareLine (line : Text) : trimEnd (bareLine line) = trimEnd line := by
  rcases bareLine_eq line with same | cut
  · rw [same]
  · conv => rhs; rw [cut, trimEnd_append_blank (by decide)]

/-- A mark before a line that does not end with a carriage return stays as it is. -/
theorem bareLine_append {c : Char} (mark : c ≠ '\r') (start line : Text) :
    bareLine (start ++ c :: line) = start ++ c :: bareLine line := by
  rcases line.eq_nil_or_concat' with rfl | ⟨more, last, rfl⟩
  · simp [bareLine, dropLineEnd, mark]
  · by_cases return_ : last = '\r'
    · subst return_
      simp [bareLine, dropLineEnd]
    · simp [bareLine, dropLineEnd, return_]

theorem map_bareLine_append {c : Char} (mark : c ≠ '\r') (start : Text) (written : List Text) :
    (written.map (start ++ c :: ·)).map bareLine = (written.map bareLine).map (start ++ c :: ·) := by
  rw [List.map_map, List.map_map]
  exact List.map_congr_left fun line _ => bareLine_append mark start line

@[simp]
theorem trim_bareLine (line : Text) : trim (bareLine line) = trim line := by
  rw [← trim_trimEnd, trimEnd_bareLine, trim_trimEnd]

/-! ## The last line -/

theorem dropLineEnd_free (free : '\n' ∉ line) : dropLineEnd line = line := by
  unfold dropLineEnd
  split
  next rest reversed =>
    have member : '\n' ∈ line.reverse := by simp [reversed]
    exact absurd (List.mem_reverse.mp member) free
  next rest _ reversed =>
    have member : '\n' ∈ line.reverse := by simp [reversed]
    exact absurd (List.mem_reverse.mp member) free
  · rfl

theorem mem_of_mem_dropLineEnd {c : Char} (member : c ∈ dropLineEnd line) : c ∈ line := by
  unfold dropLineEnd at member
  split at member
  next rest reversed =>
    rw [← List.mem_reverse, reversed]
    simp [List.mem_reverse.mp member]
  next rest _ reversed =>
    rw [← List.mem_reverse, reversed]
    simp [List.mem_reverse.mp member]
  · exact member

/-- White space has blank lines only. -/
theorem blank_of_mem_lines {white : Text} (empty : blank white = true) (member : line ∈ lines white) :
    blank line = true := by
  obtain ⟨kept, inside, rfl⟩ := List.mem_map.mp member
  refine List.all_eq_true.mpr fun c character => List.all_eq_true.mp empty c ?_
  rw [← flatten_linesKept white]
  exact List.mem_flatten.mpr ⟨kept, inside, mem_of_mem_dropLineEnd character⟩

/-- White space after the last line makes this line longer, and blank lines follow. -/
theorem lines_append_blank {white : Text} (free : '\n' ∉ line) (filled : line ≠ [])
    (empty : blank white = true) :
    ∃ last later, lines (line ++ white) = last :: later ∧ trim last = trim line ∧
      ∀ other ∈ later, blank other = true := by
  by_cases feed : '\n' ∈ white
  · obtain ⟨space, rest, rfl, space_free⟩ := List.eq_append_cons_of_mem feed
    rw [blank_append, Bool.and_eq_true, blank_cons, Bool.and_eq_true] at empty
    obtain ⟨space_blank, -, rest_blank⟩ := empty
    refine ⟨bareLine (line ++ space), lines rest, ?_, ?_, fun other => blank_of_mem_lines rest_blank⟩
    · have whole_free : '\n' ∉ line ++ space := by simp [free, space_free]
      rw [lines, ← List.append_assoc, linesKept_line whole_free]
      rfl
    · rw [trim_bareLine, trim_append_blank space_blank]
  · have whole_free : '\n' ∉ line ++ white := by simp [free, feed]
    refine ⟨line ++ white, [], ?_, trim_append_blank empty, by simp⟩
    rw [lines, linesKept_last whole_free (by simp [filled]), List.map_singleton, dropLineEnd_free whole_free]

end DocSite.Text
