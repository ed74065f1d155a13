/-
# DocSite.Proofs.Text.TopLine -- the first line of a text and what is below it

A reader that goes from line to line has read some of a text and has the rest before it: the first line of
the rest, and what is below (`lines_eq_cons`). The line that it stands on is one more than the line feeds that
it has read (`lineNumber`).
-/
import DocSite.Proofs.Text.Lines

set_option autoImplicit false

namespace DocSite.Text

variable {text line above before : Text}

/-- The first line of a text, without its line end. -/
def topLine (text : Text) : Text := (lines text).headD []

/-- What a text has below its first line. -/
def belowTop (text : Text) : Text := (text.dropWhile (· != '\n')).tail

/-- The number of the line on which a text begins that has `before` before it. -/
def lineNumber (before : Text) : Nat := before.count '\n' + 1

/-- Whether what follows a text begins a line. -/
def EndsLine (above : Text) : Prop := above = [] ∨ above.getLast? = some '\n'

theorem lineNumber_append (before text : Text) :
    lineNumber (before ++ text) = lineNumber before + text.count '\n' := by
  simp only [lineNumber, List.count_append]
  omega

theorem lineNumber_append_free (free : '\n' ∉ line) (before : Text) :
    lineNumber (before ++ line) = lineNumber before := by
  rw [lineNumber_append, List.count_eq_zero_of_not_mem free, Nat.add_zero]

/-- A text that ends with a line end does not end with a part of a line. -/
theorem EndsLine.eq_nil_of_append {space : Text} (ended : EndsLine (above ++ space)) (free : '\n' ∉ space) :
    space = [] := by
  by_contra filled
  rcases ended with none | feed
  · exact filled (List.append_eq_nil_iff.mp none).2
  · rw [List.getLast?_append_of_ne_nil _ filled] at feed
    exact free (List.mem_of_getLast? feed)

theorem belowTop_append (free : '\n' ∉ line) (text : Text) : belowTop (line ++ text) = belowTop text := by
  rw [belowTop, List.dropWhile_append_of_pos, belowTop]
  exact fun c member => bne_iff_ne.mpr (ne_of_mem_of_not_mem member free)

theorem belowTop_line (free : '\n' ∉ line) (rest : Text) : belowTop (line ++ '\n' :: rest) = rest :=
  belowTop_append free _

theorem belowTop_of_free (free : '\n' ∉ line) : belowTop line = [] := by
  have empty := belowTop_append free []
  rwa [List.append_nil] at empty

theorem lines_line (free : '\n' ∉ line) (rest : Text) :
    lines (line ++ '\n' :: rest) = bareLine line :: lines rest := by
  rw [lines, linesKept_line free]
  rfl

theorem lines_of_free (free : '\n' ∉ line) (filled : line ≠ []) : lines line = [line] := by
  rw [lines, linesKept_last free filled, List.map_singleton, dropLineEnd_free free]

theorem topLine_line (free : '\n' ∉ line) (rest : Text) : topLine (line ++ '\n' :: rest) = bareLine line := by
  rw [topLine, lines_line free]
  rfl

theorem topLine_of_free (free : '\n' ∉ line) : topLine line = line := by
  by_cases none : line = []
  · rw [none]
    rfl
  · rw [topLine, lines_of_free free none]
    rfl

theorem lines_eq_cons (filled : text ≠ []) : lines text = topLine text :: lines (belowTop text) := by
  by_cases feed : '\n' ∈ text
  · obtain ⟨line, rest, rfl, free⟩ := List.eq_append_cons_of_mem feed
    rw [lines_line free, topLine_line free, belowTop_line free]
  · rw [lines_of_free feed filled, topLine_of_free feed, belowTop_of_free feed]
    rfl

theorem prefix_topLine (text : Text) : topLine text <+: text := by
  by_cases feed : '\n' ∈ text
  · obtain ⟨line, rest, rfl, free⟩ := List.eq_append_cons_of_mem feed
    rw [topLine_line free]
    exact (prefix_bareLine line).trans (List.prefix_append ..)
  · exact ⟨[], by rw [topLine_of_free feed, List.append_nil]⟩

theorem feed_not_mem_topLine (text : Text) : '\n' ∉ topLine text := by
  by_cases feed : '\n' ∈ text
  · obtain ⟨line, rest, rfl, free⟩ := List.eq_append_cons_of_mem feed
    rw [topLine_line free]
    exact fun member => free ((prefix_bareLine line).mem member)
  · rwa [topLine_of_free feed]

/-- A mark that is no part of a line end stays in its line, with what is before it. -/
theorem topLine_append {c : Char} (no_return : c ≠ '\r') (no_feed : c ≠ '\n') (free : '\n' ∉ before)
    (text : Text) : topLine (before ++ c :: text) = before ++ c :: topLine text := by
  have marked {line : Text} (line_free : '\n' ∉ line) : '\n' ∉ before ++ c :: line := by
    simp [free, Ne.symm no_feed, line_free]
  by_cases feed : '\n' ∈ text
  · obtain ⟨line, rest, rfl, line_free⟩ := List.eq_append_cons_of_mem feed
    have split : before ++ c :: (line ++ '\n' :: rest) = (before ++ c :: line) ++ '\n' :: rest := by simp
    rw [split, topLine_line (marked line_free), topLine_line line_free, bareLine_append no_return]
  · rw [topLine_of_free (marked feed), topLine_of_free feed]

/-- A text is its first line, a line feed if there is one, and what is below. -/
theorem exists_top (text : Text) :
    ∃ line top, text = top ++ belowTop text ∧ '\n' ∉ line ∧
      ((top = line ∧ belowTop text = []) ∨ top = line ++ ['\n']) := by
  by_cases feed : '\n' ∈ text
  · obtain ⟨line, rest, rfl, free⟩ := List.eq_append_cons_of_mem feed
    exact ⟨line, line ++ ['\n'], by rw [belowTop_line free]; simp, free, .inr rfl⟩
  · have none := belowTop_of_free feed
    exact ⟨text, text, by rw [none, List.append_nil], feed, .inl ⟨rfl, none⟩⟩

theorem belowTop_suffix (text : Text) : belowTop text <:+ text := by
  obtain ⟨-, top, whole, -⟩ := exists_top text
  exact ⟨top, whole.symm⟩

/-- A text is the lines above its last one and the last one. -/
theorem exists_last (text : Text) : ∃ above line, text = above ++ line ∧ EndsLine above ∧ '\n' ∉ line := by
  by_cases feed : '\n' ∈ text
  · obtain ⟨line, rest, whole, free⟩ := List.eq_append_cons_of_mem (List.mem_reverse.mpr feed)
    refine ⟨rest.reverse ++ ['\n'], line.reverse, ?_, .inr (List.getLast?_concat ..), by simpa using free⟩
    rw [← List.reverse_reverse text, whole]
    simp
  · exact ⟨[], text, rfl, .inl rfl, feed⟩

theorem lines_append (ended : EndsLine above) (text : Text) : lines (above ++ text) = lines above ++ lines text := by
  rcases ended with rfl | feed
  · rfl
  · rw [lines, linesKept_append feed, List.map_append, lines, lines]

theorem prefix_dropLineEnd (line : Text) : dropLineEnd line <+: line := by
  unfold dropLineEnd
  split
  next rest reversed =>
    refine ⟨['\r', '\n'], ?_⟩
    rw [← List.reverse_reverse line, reversed]
    simp
  next rest _ reversed =>
    refine ⟨['\n'], ?_⟩
    rw [← List.reverse_reverse line, reversed]
    simp
  · exact List.prefix_rfl

theorem infix_of_mem_lines (member : line ∈ lines text) : line <:+: text := by
  obtain ⟨kept, inside, rfl⟩ := List.mem_map.mp member
  have whole := List.infix_of_mem_flatten inside
  rw [flatten_linesKept] at whole
  exact (prefix_dropLineEnd kept).isInfix.trans whole

/-- A text that ends with a line end has a line for each line feed. -/
theorem length_lines (ended : EndsLine above) : (lines above).length = above.count '\n' := by
  rw [lines, List.length_map]
  induction above with
  | nil => rfl
  | cons c rest ih =>
    cases rest with
    | nil =>
      obtain rfl : c = '\n' := by simpa [EndsLine] using ended
      rfl
    | cons d more =>
      have kept := ih (by simpa [EndsLine] using ended)
      rw [linesKept, List.count_cons, ← kept]
      by_cases feed : c = '\n'
      · simp [feed]
      · rw [if_neg feed, beq_eq_false_iff_ne.mpr feed]
        cases cut : linesKept (d :: more) with
        | nil =>
          have whole := flatten_linesKept (d :: more)
          rw [cut] at whole
          cases whole
        | cons line later => rfl

end DocSite.Text
