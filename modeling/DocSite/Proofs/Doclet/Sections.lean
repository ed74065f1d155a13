/-
# DocSite.Proofs.Doclet.Sections -- a comment cut at its annotations

A comment is read line by line, and a line that begins no annotation goes on with the last one. The same comment is
made by cutting the lines first, before each line that begins an annotation (`cut`), and joining each part then
(`Comment.ofLines_eq`). What an annotation has taken in is its first text and its further lines, and while it has
none, the blank ones among these are dropped (`Annotation.appendAll_filled`, `appendAll_empty`). So all that is written in the lines of
a comment is written in its description or in one of its annotations, in order (`Comment.ofLines_of_cut`).
-/
import DocSite.Proofs.Doclet.Comment
import DocSite.Proofs.Text.Ink

set_option autoImplicit false

namespace DocSite.Doclet

open Text

variable {line : Text}

/-! ## Cutting -/

/-- Whether a line begins an annotation: its first character that is no white space is an at sign. -/
def opens (line : Text) : Bool := (trim line).head? == some '@'

/-- A line that begins an annotation, with the lines that go on with it. -/
structure Section where
  opening : Text
  following : List Text

namespace Section

/-- The lines of a section. -/
def lines (part : Section) : List Text := part.opening :: part.following

/-- What follows the at sign. -/
def heading (part : Section) : Text := (trim part.opening).tail

/-- The characters up to the first white space. -/
def name (part : Section) : Text := part.heading.takeWhile fun c => !isBlank c

/-- The rest of the line. -/
def start (part : Section) : Text := trim (part.heading.dropWhile fun c => !isBlank c)

/-- What the value is joined of: if the line of the name has no more text, this begins with the first line that
is not blank. -/
def pieces (part : Section) : List Text :=
  if part.start.isEmpty then (part.following.map trimEnd).dropWhile List.isEmpty
  else part.start :: part.following.map trimEnd

/-- The annotation of a section. -/
def annotation (part : Section) : Annotation := ⟨part.name, trimEnd (join ['\n'] part.pieces)⟩

end Section

/-- The lines before the first annotation, and the sections of the annotations. -/
def cut : List Text → List Text × List Section
  | [] => ([], [])
  | line :: rest =>
    if opens line then ([], ⟨line, (cut rest).1⟩ :: (cut rest).2) else (line :: (cut rest).1, (cut rest).2)

/-- Whether lines are made of lines before all annotations and of sections. -/
structure Cuts (lines before : List Text) (parts : List Section) : Prop where
  whole : lines = before ++ parts.flatMap Section.lines
  before : ∀ line ∈ before, opens line = false
  parts : ∀ part ∈ parts, opens part.opening = true ∧ ∀ line ∈ part.following, opens line = false

theorem cuts_cut (lines : List Text) : Cuts lines (cut lines).1 (cut lines).2 := by
  induction lines with
  | nil => exact ⟨rfl, nofun, nofun⟩
  | cons line rest ih =>
    obtain ⟨whole, before, parts⟩ := ih
    rw [cut]
    split
    next begun =>
      refine ⟨?_, nofun, List.forall_mem_cons.mpr ⟨⟨begun, before⟩, parts⟩⟩
      exact congrArg (line :: ·) whole
    next plain =>
      refine ⟨congrArg (line :: ·) whole, List.forall_mem_cons.mpr ⟨?_, before⟩, parts⟩
      simpa using plain

/-! ## Reading -/

theorem drop_takeWhile (keep : Char → Bool) (text : Text) :
    text.drop (text.takeWhile keep).length = text.dropWhile keep := by
  induction text with
  | nil => rfl
  | cons c text ih => cases kept : keep c <;> simp [kept, ih]

theorem ofLine_of_opens (part : Section) (begun : opens part.opening = true) :
    Annotation.ofLine? part.opening = some ⟨part.name, part.start⟩ := by
  rw [opens, beq_iff_eq, List.head?_eq_some_iff] at begun
  obtain ⟨heading, begun⟩ := begun
  have same : part.heading = heading := by rw [Section.heading, begun, List.tail_cons]
  unfold Annotation.ofLine?
  rw [begun, Section.name, Section.start, same, ← drop_takeWhile]
  rfl

theorem ofLine_of_not_opens (plain : opens line = false) : Annotation.ofLine? line = none := by
  unfold Annotation.ofLine?
  split
  next rest begun =>
    rw [opens, begun] at plain
    cases plain
  · rfl

namespace Annotation

/-- An annotation with further lines. -/
def appendAll (following : List Text) (a : Annotation) : Annotation :=
  following.foldl (fun a line => a.append line) a

/-- Further lines of an annotation that has some text. -/
theorem appendAll_filled {a : Annotation} (filled : a.value ≠ []) (following : List Text) :
    a.appendAll following = { a with value := join ['\n'] (a.value :: following.map trimEnd) } := by
  induction following generalizing a with
  | nil => rfl
  | cons line following ih =>
    have taken : a.append line = { a with value := a.value ++ ['\n'] ++ trimEnd line } := by
      rw [append, if_neg (by simpa using filled)]
    have later := ih (a := a.append line) (by simp [taken])
    rw [appendAll, List.foldl_cons, ← appendAll, later, taken, List.map_cons, join_joined]

/-- Further lines of an annotation that has no text yet: blank lines are dropped before the first that is
none. -/
theorem appendAll_empty {a : Annotation} (empty : a.value = []) (following : List Text) :
    a.appendAll following =
      { a with value := join ['\n'] ((following.map trimEnd).dropWhile List.isEmpty) } := by
  induction following generalizing a with
  | nil =>
    obtain ⟨name, value⟩ := a
    subst empty
    rfl
  | cons line following ih =>
    have taken : a.append line = { a with value := trimEnd line } := by
      rw [append, empty]
      rfl
    rw [appendAll, List.foldl_cons, ← appendAll, taken, List.map_cons]
    by_cases nothing : trimEnd line = []
    · rw [ih nothing, nothing]
      rfl
    · rw [appendAll_filled nothing, List.dropWhile_cons_of_neg (by simpa using nothing)]

end Annotation

namespace Section

/-- The annotation that has taken in the lines of a section. -/
def taken (part : Section) : Annotation := Annotation.appendAll part.following ⟨part.name, part.start⟩

theorem trimEnd_taken (part : Section) :
    { part.taken with value := trimEnd part.taken.value } = part.annotation := by
  rw [taken, annotation, pieces]
  by_cases empty : part.start = []
  · rw [if_pos (by simpa using empty), Annotation.appendAll_empty empty]
  · rw [if_neg (by simpa using empty), Annotation.appendAll_filled empty]

end Section

namespace CommentLines

variable {description : List Text} {annotations : List Annotation}

theorem foldl_add_plain {before : List Text} (plain : ∀ line ∈ before, opens line = false) :
    before.foldl add ⟨description, []⟩ = ⟨(before.map trimEnd).reverse ++ description, []⟩ := by
  induction before generalizing description with
  | nil => rfl
  | cons line before ih =>
    obtain ⟨first, later⟩ := List.forall_mem_cons.mp plain
    have taken : add ⟨description, []⟩ line = ⟨trimEnd line :: description, []⟩ := by
      simp only [add, ofLine_of_not_opens first]
    rw [List.foldl_cons, taken, ih later]
    simp

theorem foldl_add_following {following : List Text} (plain : ∀ line ∈ following, opens line = false)
    (a : Annotation) :
    following.foldl add ⟨description, a :: annotations⟩ =
      ⟨description, a.appendAll following :: annotations⟩ := by
  induction following generalizing a with
  | nil => rfl
  | cons line following ih =>
    obtain ⟨first, later⟩ := List.forall_mem_cons.mp plain
    have taken : add ⟨description, a :: annotations⟩ line = ⟨description, a.append line :: annotations⟩ := by
      simp only [add, ofLine_of_not_opens first]
    rw [List.foldl_cons, taken, ih later]
    rfl

/-- Each section leaves its annotation behind. -/
theorem foldl_add_sections {parts : List Section}
    (cut : ∀ part ∈ parts, opens part.opening = true ∧ ∀ line ∈ part.following, opens line = false) :
    (parts.flatMap Section.lines).foldl add ⟨description, annotations⟩ =
      ⟨description, (parts.map Section.taken).reverse ++ annotations⟩ := by
  induction parts generalizing annotations with
  | nil => rfl
  | cons part parts ih =>
    obtain ⟨⟨begun, plain⟩, later⟩ := List.forall_mem_cons.mp cut
    have taken : add ⟨description, annotations⟩ part.opening =
        ⟨description, ⟨part.name, part.start⟩ :: annotations⟩ := by
      simp only [add, ofLine_of_opens part begun]
    rw [List.flatMap_cons, List.foldl_append, Section.lines, List.foldl_cons, taken,
      foldl_add_following plain, ih later]
    simp [Section.taken]

end CommentLines

/-! ## What is written -/

/-- Whether a text has what is written in some lines: all their ink, in order, and each line as a whole. -/
structure Keeps (lines : List Text) (text : Text) : Prop where
  ink : ink text = ink lines.flatten
  whole : ∀ line ∈ lines, trim line <:+: text

theorem ink_flatten_map_trimEnd (lines : List Text) :
    Text.ink (lines.map trimEnd).flatten = Text.ink lines.flatten := by
  induction lines with
  | nil => rfl
  | cons line lines ih =>
    rw [List.map_cons, List.flatten_cons, List.flatten_cons, ink_append, ink_append, ink_trimEnd, ih]

theorem trim_infix_join {pieces : List Text} (member : trimEnd line ∈ pieces) :
    trim line <:+: join ['\n'] pieces := by
  have own : trim line <:+: trimEnd line := by
    rw [← trim_trimEnd]
    exact trim_infix _
  exact own.trans (infix_join member)

/-- Lines that are joined and trimmed are kept. -/
theorem keeps_join (lines : List Text) : Keeps lines (trim (join ['\n'] (lines.map trimEnd))) where
  ink := by rw [ink_trim, ink_join, ink_flatten_map_trimEnd]
  whole := fun _ member => infix_trim (trim_infix_join (List.mem_map_of_mem member)) (trim_trim _)

namespace Section

/-- What is dropped before the first text of an annotation is empty. -/
theorem ink_pieces (part : Section) :
    Text.ink part.pieces.flatten = Text.ink (part.start :: part.following).flatten := by
  rw [pieces]
  split
  next empty =>
    have dropped : (((part.following.map trimEnd).takeWhile List.isEmpty).flatten : Text) = [] :=
      List.flatten_eq_nil_iff.mpr fun piece member => by simpa using List.mem_takeWhile_imp member
    have whole := congrArg List.flatten (List.takeWhile_append_dropWhile (p := List.isEmpty)
      (l := part.following.map trimEnd))
    rw [List.flatten_append, dropped, List.nil_append] at whole
    rw [whole, ink_flatten_map_trimEnd, List.isEmpty_iff.mp empty]
    rfl
  · rw [List.flatten_cons, List.flatten_cons, ink_append, ink_append, ink_flatten_map_trimEnd]

theorem mem_pieces (part : Section) (member : line ∈ part.following) (filled : trimEnd line ≠ []) :
    trimEnd line ∈ part.pieces := by
  have own : trimEnd line ∈ part.following.map trimEnd := List.mem_map_of_mem member
  rw [pieces]
  split
  · rw [← List.takeWhile_append_dropWhile (p := List.isEmpty) (l := part.following.map trimEnd)] at own
    refine (List.mem_append.mp own).resolve_left fun early => filled ?_
    simpa using List.mem_takeWhile_imp early
  · exact .tail _ own

theorem keeps_value (part : Section) : Keeps (part.start :: part.following) part.annotation.value where
  ink := by
    unfold annotation
    rw [ink_trimEnd, ink_join, ink_pieces]
  whole := by
    intro line member
    refine infix_trimEnd ?_ (trimEnd_trim line)
    by_cases empty : trim line = []
    · rw [empty]
      exact List.nil_infix
    · have filled : trimEnd line ≠ [] := by
        intro nothing
        rw [← trim_trimEnd, nothing] at empty
        exact empty rfl
      refine trim_infix_join ?_
      rcases List.mem_cons.mp member with rfl | later
      · have own : trimEnd part.start = part.start := trimEnd_trim _
        rw [pieces, if_neg (by simpa [own] using filled), own]
        exact List.mem_cons_self
      · exact part.mem_pieces later filled

theorem name_filled (part : Section) : ∀ c ∈ part.name, isBlank c = false := by
  intro c member
  simpa using List.mem_takeWhile_imp member

/-- A line that begins an annotation is an at sign, the name, white space and the first text. -/
theorem exists_gap (part : Section) (begun : opens part.opening = true) :
    ∃ white, blank white = true ∧ trim part.opening = '@' :: (part.name ++ white ++ part.start) := by
  rw [opens, beq_iff_eq, List.head?_eq_some_iff] at begun
  obtain ⟨after, begun⟩ := begun
  have same : part.heading = after := by rw [heading, begun, List.tail_cons]
  have cut : after = part.name ++ after.dropWhile fun c => !isBlank c := by
    rw [name, same]
    exact List.takeWhile_append_dropWhile.symm
  obtain ⟨white, empty, rest⟩ := eq_append_trimStart (after.dropWhile fun c => !isBlank c)
  -- The line is trimmed, so that its rest has no white space at its end either.
  have ends : trimEnd (trimStart (after.dropWhile fun c => !isBlank c)) =
      trimStart (after.dropWhile fun c => !isBlank c) := by
    by_cases nothing : trimStart (after.dropWhile fun c => !isBlank c) = []
    · rw [nothing]
      rfl
    · have whole : trim part.opening = '@' :: (part.name ++ white) ++
          trimStart (after.dropWhile fun c => !isBlank c) := by
        rw [begun, List.cons_append, List.append_assoc, ← rest, ← cut]
      have filled := filled_of_trim_eq whole nothing
      have trimmed := trimEnd_trim part.opening
      rw [whole, trimEnd_append filled] at trimmed
      exact List.append_cancel_left trimmed
  refine ⟨white, empty, ?_⟩
  rw [begun, start, same, trim, ends, List.append_assoc, ← rest, ← cut]

/-- The name and the value of an annotation have all that is written in its lines. -/
theorem ink_lines (part : Section) (begun : opens part.opening = true) :
    Text.ink part.lines.flatten = '@' :: (part.name ++ Text.ink part.annotation.value) := by
  obtain ⟨white, empty, whole⟩ := part.exists_gap begun
  have sign : Text.ink ['@'] = ['@'] := by decide
  have opening : Text.ink part.opening = '@' :: (part.name ++ Text.ink part.start) := by
    rw [← ink_trim, whole, ← List.singleton_append, ink_append, ink_append, ink_append, sign,
      ink_of_filled part.name_filled, ink_of_blank empty, List.append_nil]
    rfl
  rw [part.keeps_value.ink, lines, List.flatten_cons, List.flatten_cons, ink_append, ink_append, opening]
  simp

end Section

theorem Cuts.ink {lines before : List Text} {parts : List Section} (cuts : Cuts lines before parts) :
    Text.ink lines.flatten = Text.ink before.flatten ++
      parts.flatMap fun part => '@' :: (part.name ++ Text.ink part.annotation.value) := by
  obtain ⟨rfl, -, begun⟩ := cuts
  rw [List.flatten_append, ink_append]
  congr 1
  induction parts with
  | nil => rfl
  | cons part parts ih =>
    obtain ⟨⟨first, -⟩, later⟩ := List.forall_mem_cons.mp begun
    rw [List.flatMap_cons, List.flatten_append, ink_append, part.ink_lines first, ih later, List.flatMap_cons]

namespace Comment

theorem ofLines_eq (lines : List Text) :
    ofLines lines = ⟨trim (join ['\n'] ((cut lines).1.map trimEnd)), (cut lines).2.map Section.annotation⟩ := by
  obtain ⟨whole, before, parts⟩ := cuts_cut lines
  conv => lhs; rw [whole]
  rw [ofLines, List.foldl_append, CommentLines.foldl_add_plain before, CommentLines.foldl_add_sections parts]
  simp only [List.append_nil, List.reverse_reverse, List.map_map]
  congr 1
  exact List.map_congr_left fun part _ => part.trimEnd_taken

/-- A comment is its lines cut before each line that begins an annotation, and joined part by part. All that is
written in its lines is written in the description or in one annotation, in order. -/
theorem ofLines_of_cut (lines : List Text) :
    Cuts lines (cut lines).1 (cut lines).2 ∧
    ofLines lines = ⟨trim (join ['\n'] ((cut lines).1.map trimEnd)), (cut lines).2.map Section.annotation⟩ ∧
    Keeps (cut lines).1 (ofLines lines).description ∧
    (∀ part ∈ (cut lines).2, Keeps (part.start :: part.following) part.annotation.value ∧
      ∃ white, blank white = true ∧ trim part.opening = '@' :: (part.name ++ white ++ part.start)) ∧
    Text.ink lines.flatten = Text.ink (ofLines lines).description ++
      (ofLines lines).annotations.flatMap fun a => '@' :: (a.name ++ Text.ink a.value) := by
  have cuts := cuts_cut lines
  have same := ofLines_eq lines
  have kept : Keeps (cut lines).1 (ofLines lines).description := by
    rw [same]
    exact keeps_join _
  refine ⟨cuts, same, kept, fun part member => ⟨part.keeps_value, part.exists_gap (cuts.parts part member).1⟩, ?_⟩
  rw [cuts.ink, kept.ink, same, List.flatMap_map]
  rfl

/-- Blank lines before the first text of an annotation are dropped, and its indentation stays. -/
example : ofLines ["Adds.".toList, "@param".toList, [], "  a".toList, [], "@since 1".toList] =
    ⟨"Adds.".toList, [⟨"param".toList, "  a".toList⟩, ⟨"since".toList, "1".toList⟩]⟩ := by decide +kernel

end Comment

end DocSite.Doclet
