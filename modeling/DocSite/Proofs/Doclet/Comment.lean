/-
# DocSite.Proofs.Doclet.Comment -- white space that a comment does not count

Of the lines of a comment the white space at their ends does not count (`ofLines_map_trimEnd`), and neither
do blank lines before the first and after the last (`ofLines_cons_blank`, `ofLines_concat_blank`). So it
makes no difference whether the marks of a comment leave such lines behind.
-/
import DocSite.Doclet.Comment
import DocSite.Proofs.Text.Trimming

set_option autoImplicit false

namespace DocSite.Doclet

open Text

variable {line : Text} {lines : List Text}

/-! ## Single lines -/

namespace Annotation

theorem ofLine_nil : ofLine? [] = none := rfl

theorem ofLine_trimEnd (line : Text) : ofLine? (trimEnd line) = ofLine? line := by
  rw [ofLine?, trim_trimEnd]
  rfl

theorem append_trimEnd (a : Annotation) (line : Text) : a.append (trimEnd line) = a.append line := by
  rw [append, trimEnd_trimEnd]
  rfl

/-- An empty line after the last one does not count. -/
theorem trimEnd_append_nil (a : Annotation) : trimEnd (a.append []).value = trimEnd a.value := by
  rw [append]
  cases value : a.value with
  | nil => rfl
  | cons c rest =>
    have ending : trimEnd (c :: rest ++ ['\n']) = trimEnd (c :: rest) := trimEnd_append_blank (by decide)
    simpa using ending

end Annotation

open Annotation in
/-- White space at the end of a line does not count. -/
theorem CommentLines.add_trimEnd (read : CommentLines) (line : Text) :
    read.add (trimEnd line) = read.add line := by
  unfold add
  rw [ofLine_trimEnd]
  split
  · rfl
  · rw [append_trimEnd]
  · rw [trimEnd_trimEnd]

/-! ## Lines of the description -/

/-- What has been read of the description stays as it is. -/
theorem CommentLines.foldl_add_description (lines : List Text) (later earlier : List Text)
    (annotations : List Annotation) :
    lines.foldl add ⟨later ++ earlier, annotations⟩ =
      { lines.foldl add ⟨later, annotations⟩ with
        description := (lines.foldl add ⟨later, annotations⟩).description ++ earlier } := by
  induction lines generalizing later annotations with
  | nil => rfl
  | cons line lines ih =>
    rw [List.foldl_cons, List.foldl_cons]
    cases begun : Annotation.ofLine? line with
    | some annotation =>
      simp only [add, begun]
      exact ih later _
    | none =>
      cases annotations with
      | nil =>
        simp only [add, begun]
        exact ih (trimEnd line :: later) _
      | cons last annotations =>
        simp only [add, begun]
        exact ih later _

theorem trim_join_cons_nil (pieces : List Text) :
    trim (join ['\n'] ([] :: pieces)) = trim (join ['\n'] pieces) := by
  cases pieces with
  | nil => rfl
  | cons piece pieces => rfl

theorem join_concat_nil {pieces : List Text} (filled : pieces ≠ []) :
    join ['\n'] (pieces ++ [[]]) = join ['\n'] pieces ++ ['\n'] := by
  induction pieces with
  | nil => exact absurd rfl filled
  | cons piece pieces ih =>
    cases pieces with
    | nil => simp [join]
    | cons next pieces =>
      have step (rest : List Text) : join ['\n'] (piece :: next :: rest) =
          piece ++ ['\n'] ++ join ['\n'] (next :: rest) := rfl
      have later := ih (by simp)
      rw [List.cons_append] at later
      rw [List.cons_append, List.cons_append, step, step, later]
      simp

theorem trim_join_concat_nil (pieces : List Text) :
    trim (join ['\n'] (pieces ++ [[]])) = trim (join ['\n'] pieces) := by
  by_cases filled : pieces = []
  · rw [filled]
    rfl
  · rw [join_concat_nil filled, trim_append_blank (by decide)]

/-! ## Blank lines -/

namespace Comment

theorem ofLines_map_trimEnd (lines : List Text) : ofLines (lines.map trimEnd) = ofLines lines := by
  have same : (fun (read : CommentLines) (line : Text) => read.add (trimEnd line)) = CommentLines.add := by
    funext read line
    exact read.add_trimEnd line
  rw [ofLines, List.foldl_map, same]
  rfl

/-- Comments whose lines differ in white space at their ends are the same. -/
theorem ofLines_congr {others : List Text} (same : lines.map trimEnd = others.map trimEnd) :
    ofLines lines = ofLines others := by
  rw [← ofLines_map_trimEnd lines, same, ofLines_map_trimEnd]

theorem ofLines_cons_blank (empty : blank line = true) (lines : List Text) :
    ofLines (line :: lines) = ofLines lines := by
  have first : CommentLines.add ⟨[], []⟩ line = ⟨[] ++ [[]], []⟩ := by
    rw [← CommentLines.add_trimEnd, trimEnd_eq_nil.mpr empty]
    rfl
  rw [ofLines, List.foldl_cons, first, CommentLines.foldl_add_description]
  simp only [List.reverse_append, List.reverse_singleton, List.singleton_append, trim_join_cons_nil]
  rfl

theorem ofLines_concat_blank (empty : blank line = true) (lines : List Text) :
    ofLines (lines ++ [line]) = ofLines lines := by
  rw [ofLines, List.foldl_concat, ← CommentLines.add_trimEnd, trimEnd_eq_nil.mpr empty, ofLines]
  obtain ⟨description, annotations⟩ := lines.foldl CommentLines.add ⟨[], []⟩
  cases annotations with
  | nil =>
    simp only [CommentLines.add, Annotation.ofLine_nil, List.reverse_cons, trimEnd_nil, trim_join_concat_nil]
  | cons last annotations =>
    simp only [CommentLines.add, Annotation.ofLine_nil, List.reverse_cons, List.map_append, List.map_cons,
      last.trimEnd_append_nil]
    rfl

end Comment

end DocSite.Doclet
