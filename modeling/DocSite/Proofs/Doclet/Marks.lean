/-
# DocSite.Proofs.Doclet.Marks -- one comment with the marks of two languages

The same lines can be written as a comment of a script, with a star before each of them
(`Script.commented`), and as one of a Sass source, with three slashes (`Sass.commented`). The marks are
taken off such that in both languages the item on the next line is documented by the comment that the lines
make (`documented_alike`): a script leaves a blank line before and after them, and a Sass source cuts white
space off their ends, and a comment counts neither.
-/
import DocSite.Doclet.Sass
import DocSite.Doclet.Script
import DocSite.Proofs.Doclet.Comment
import DocSite.Proofs.Text.Lines
import DocSite.Proofs.Text.Phrases

set_option autoImplicit false

namespace DocSite.Doclet

open Text

variable {comment code later : List Text} {line declaration white file : Text} {number fuel : Nat}

/-! ## Scripts -/

namespace Script

/-- What stands before a line of a comment. -/
def star : Text := [' ', '*', ' ']

/-- A comment before a line of code. -/
def commented (comment : List Text) (declaration : Text) : Text :=
  unlines ("/**".toList :: comment.map (star ++ ·) ++ [" */".toList]) ++ declaration

theorem dropStar_star (line : Text) : dropStar (star ++ line) = line := rfl

/-- A star before a line does not close a comment. -/
theorem open_star (free : ¬['*', '/'] <:+: line) : ¬['*', '/'] <:+: star ++ line := by
  simp [star, List.infix_cons_iff, free]

/-- A comment goes on until the line that closes it. -/
theorem splitComment_stars (open_lines : ∀ line ∈ comment, ¬['*', '/'] <:+: line) {text : Text}
    (open_text : ¬['*', '/'] <:+: text) (later : List Text) :
    splitComment? text (comment.map (star ++ ·) ++ " */".toList :: later) =
      some (dropStar text :: comment ++ [[]], later) := by
  induction comment generalizing text with
  | nil =>
    have unclosed := (splitFirst_eq_none (by simp)).mpr open_text
    have closed : splitComment? " */".toList later = some ([[]], later) := by
      cases later <;> rfl
    simp only [List.map_nil, List.nil_append, splitComment?, unclosed, closed]
    rfl
  | cons line comment ih =>
    have unclosed := (splitFirst_eq_none (by simp)).mpr open_text
    have rest := ih (fun other member => open_lines other (List.mem_cons_of_mem _ member))
      (open_star (open_lines line (List.mem_cons_self ..)))
    rw [List.map_cons, List.cons_append, splitComment?, unclosed]
    simp only [rest, dropStar_star]
    rfl

theorem plainMember_of_slash (rest : Text) : plainMember? ('/' :: rest) = none := by
  have other : isNameChar '/' = false := by decide +kernel
  have unnamed : splitName? ('/' :: rest) = none := by simp [splitName?, other]
  rw [plainMember?, unnamed]
  rfl

/-- A slash does not begin a declaration. -/
theorem subject_of_slash (rest : Text) : Subject.ofLine? ('/' :: rest) = none := by
  have function : function? ('/' :: rest) = none := rfl
  have class_ : class? ('/' :: rest) = none := rfl
  have declared : declared? ('/' :: rest) = none := rfl
  have words : (memberWords.findSome? fun word => afterWord? word ('/' :: rest)) = none := rfl
  have member : memberWithin? ('/' :: rest).length ('/' :: rest) = none := by
    rw [List.length_cons, memberWithin?, words]
    exact plainMember_of_slash rest
  rw [Subject.ofLine?, function, class_, declared, member?, member]
  rfl

theorem afterOpening_of_blank (empty : blank line = true) : afterOpening? line = none := by
  have nothing : trimStart line = [] := by
    have same : trimStart (line ++ []) = [] := trimStart_append_blank empty
    rwa [List.append_nil] at same
  rw [afterOpening?, nothing]

/-- A line that declares something does not open a comment. -/
theorem afterOpening_of_subject {subject : Subject} (declares : Subject.ofLine? (trim line) = some subject) :
    afterOpening? line = none := by
  unfold afterOpening?
  split
  next rest start =>
    rw [trim, start, trimEnd_cons (by decide), subject_of_slash] at declares
    cases declares
  · rfl

theorem docletsFrom_plain (plain : ∀ line ∈ code, afterOpening? line = none) :
    docletsFrom file fuel number code = .ok [] := by
  induction fuel generalizing number code with
  | zero => rfl
  | succ fuel ih =>
    cases code with
    | nil => rfl
    | cons line code =>
      rw [docletsFrom, plain line (List.mem_cons_self ..)]
      exact ih fun other member => plain other (List.mem_cons_of_mem _ member)

theorem doclet_of_subject {code : Text} {subject : Subject} (declares : Subject.ofLine? code = some subject)
    (comment : Comment) (number : Nat) (file : Text) :
    ∃ doclet, doclet? comment (some (number, code)) file = some doclet := by
  unfold doclet?
  cases named : (comment.first? "name".toList).filter fun name => !name.isEmpty with
  | some name => exact ⟨_, rfl⟩
  | none => exact ⟨_, by simp only [Option.bind_some, declares]; rfl⟩

/-- The lines of a source with a comment before a declaration. -/
theorem lines_commented (one_line : ∀ line ∈ comment, '\n' ∉ line) (rest : Text) :
    lines (commented comment declaration ++ rest) =
      "/**".toList ::
        ((comment.map bareLine).map (star ++ ·) ++ " */".toList :: lines (declaration ++ rest)) := by
  have written : ∀ line ∈ "/**".toList :: comment.map (star ++ ·) ++ [" */".toList], '\n' ∉ line := by
    intro line member
    rw [List.mem_append, List.mem_cons, List.mem_map, List.mem_singleton] at member
    rcases member with (rfl | ⟨own, inside, rfl⟩) | rfl
    · decide
    · simpa [star] using one_line own inside
    · decide
  have bare : (comment.map (star ++ ·)).map bareLine = (comment.map bareLine).map (star ++ ·) :=
    map_bareLine_append (by decide) [' ', '*'] comment
  have opening : bareLine "/**".toList = "/**".toList := by decide
  have closing : bareLine " */".toList = " */".toList := by decide
  rw [commented, List.append_assoc, lines_unlines written, List.map_append, List.map_cons, bare, opening,
    List.map_singleton, closing]
  simp

/-- A comment with a star before each line documents the declaration after it, and nothing else. -/
theorem doclets_commented {subject : Subject} (one_line : ∀ line ∈ comment, '\n' ∉ line)
    (open_lines : ∀ line ∈ comment, ¬['*', '/'] <:+: line) (declaration_line : '\n' ∉ declaration)
    (declares : Subject.ofLine? (trim declaration) = some subject) (empty : blank white = true) :
    doclets (commented comment declaration ++ white) file =
      .ok (doclet? (.ofLines comment) (some (comment.length + 3, trim declaration)) file).toList := by
  have filled : trim declaration ≠ [] := by
    intro nothing
    rw [nothing] at declares
    cases declares
  have some_line : declaration ≠ [] := by
    rintro rfl
    exact filled rfl
  obtain ⟨last, later, cut, same, blanks⟩ := lines_append_blank declaration_line some_line empty
  have plain : ∀ line ∈ last :: later, afterOpening? line = none := by
    intro line member
    rcases List.mem_cons.mp member with rfl | after
    · rw [← same] at declares
      exact afterOpening_of_subject declares
    · exact afterOpening_of_blank (blanks line after)
  have code (number : Nat) : nextCode? number (last :: later) = some (number, trim declaration) := by
    have seen : blank last ≠ true := by
      rw [← same] at filled
      exact fun white => filled (trim_eq_nil.mpr white)
    rw [nextCode?, if_neg seen, same]
  have open_bare : ∀ line ∈ comment.map bareLine, ¬['*', '/'] <:+: line := by
    intro line member found
    obtain ⟨whole, inside, rfl⟩ := List.mem_map.mp member
    exact open_lines whole inside (found.trans (prefix_bareLine whole).isInfix)
  have open_start : ¬['*', '/'] <:+: ([] : Text) := by simp
  have split := splitComment_stars open_bare open_start (last :: later)
  have lines_kept : Comment.ofLines (dropStar [] :: comment.map bareLine ++ [[]]) = .ofLines comment := by
    rw [Comment.ofLines_concat_blank rfl, Comment.ofLines_cons_blank rfl]
    exact Comment.ofLines_congr (by simp)
  have position : 1 + 1 + (((comment.map bareLine).map (star ++ ·) ++ " */".toList :: last :: later).length -
      (last :: later).length) = comment.length + 3 := by
    simp
    omega
  have opening : afterOpening? "/**".toList = some [] := rfl
  rw [doclets, lines_commented one_line, cut, List.length_cons, docletsFrom]
  simp only [opening, split, code, lines_kept, position, docletsFrom_plain plain]
  exact congrArg Except.ok (List.append_nil _)

end Script

/-! ## Sass sources -/

namespace Sass

/-- What stands before a line of a comment. -/
def slashes : Text := ['/', '/', '/', ' ']

/-- A comment before an item. -/
def commented (comment : List Text) (item : Text) : Text := unlines (comment.map (slashes ++ ·)) ++ item

/-- A line after three slashes is a line of a comment; only white space at its end is lost. -/
theorem kind_slashes (line : Text) : LineKind.ofLine (trim (slashes ++ line)) = .comment (trimEnd line) := by
  have slash : isBlank '/' = false := by decide
  have start : trim (slashes ++ line) = '/' :: '/' :: '/' :: trimEnd (' ' :: line) := by
    rw [trim, slashes, List.cons_append, trimStart_cons slash, trimEnd_cons slash]
    simp only [List.cons_append, List.nil_append, trimEnd_cons slash]
  rw [start]
  by_cases empty : blank line = true
  · rw [trimEnd_eq_nil.mpr empty, trimEnd_eq_nil.mpr (by simpa using ⟨by decide, empty⟩)]
    rfl
  · rw [Bool.not_eq_true] at empty
    have spaced : trimEnd ([' '] ++ line) = [' '] ++ trimEnd line := trimEnd_append empty
    rw [List.singleton_append] at spaced
    rw [spaced]
    rfl

theorem docletsFrom_slashes (run : List Text) :
    docletsFrom file number run (comment.map (slashes ++ ·) ++ later) =
      docletsFrom file (number + comment.length) ((comment.map trimEnd).reverse ++ run) later := by
  induction comment generalizing number run with
  | nil => rfl
  | cons line comment ih =>
    rw [List.map_cons, List.cons_append, docletsFrom, kind_slashes]
    dsimp only
    rw [ih]
    simp [Nat.add_assoc, Nat.add_comm 1]

theorem docletsFrom_blank (blanks : ∀ line ∈ later, blank line = true) (run : List Text) :
    docletsFrom file number run later = [] := by
  induction later generalizing number with
  | nil => rfl
  | cons line later ih =>
    have nothing : trim line = [] := trim_eq_nil.mpr (blanks line (List.mem_cons_self ..))
    rw [docletsFrom, nothing]
    exact ih fun other member => blanks other (List.mem_cons_of_mem _ member)

/-- A line that declares an item is code. -/
theorem kind_of_item {item : Item} (declares : Item.ofLine? line = some item) :
    LineKind.ofLine line = .code := by
  have slash (rest : Text) : Item.ofLine? ('/' :: rest) = none := rfl
  unfold LineKind.ofLine
  split
  · rw [slash] at declares
    cases declares
  · rw [slash] at declares
    cases declares
  · rw [slash] at declares
    cases declares
  · cases declares
  · rfl

/-- A comment with three slashes before each line documents the item after it, and nothing else. -/
theorem doclets_commented {item : Item} (one_line : ∀ line ∈ comment, '\n' ∉ line)
    (filled : comment ≠ []) (declaration_line : '\n' ∉ declaration)
    (declares : Item.ofLine? (trim declaration) = some item)
    (empty : blank white = true) :
    doclets (commented comment declaration ++ white) file =
      [doclet (.ofLines comment) item (comment.length + 1) file] := by
  have some_line : declaration ≠ [] := by
    rintro rfl
    cases declares
  obtain ⟨last, later, cut, same, blanks⟩ := lines_append_blank declaration_line some_line empty
  have written : ∀ line ∈ comment.map (slashes ++ ·), '\n' ∉ line := by
    intro line member
    obtain ⟨own, inside, rfl⟩ := List.mem_map.mp member
    simpa [slashes] using one_line own inside
  have bare : (comment.map (slashes ++ ·)).map bareLine = (comment.map bareLine).map (slashes ++ ·) :=
    map_bareLine_append (by decide) ['/', '/', '/'] comment
  have lines_kept : Comment.ofLines ((comment.map bareLine).map trimEnd) = .ofLines comment :=
    Comment.ofLines_congr (by simp)
  have run : (((comment.map bareLine).map trimEnd).reverse ++ []).isEmpty = false := by simpa using filled
  rw [doclets, commented, List.append_assoc, lines_unlines written, bare, cut, docletsFrom_slashes,
    docletsFrom, same, kind_of_item declares]
  dsimp only
  rw [run, if_neg Bool.false_ne_true, declares, docletsFrom_blank blanks, List.append_nil,
    List.reverse_reverse, lines_kept, List.length_map, Nat.add_comm 1]

end Sass

/-! ## Both languages -/

/-- The same lines in a comment of a script and in one of a Sass source: the declaration after each of them
is documented by the comment that the lines make without any marks, and nothing else is. -/
theorem documented_alike (one_line : ∀ line ∈ comment, '\n' ∉ line)
    (open_lines : ∀ line ∈ comment, ¬['*', '/'] <:+: line) {item : Text} {subject : Script.Subject}
    {documented : Sass.Item} (declaration_line : '\n' ∉ declaration)
    (declares : Script.Subject.ofLine? (trim declaration) = some subject) (item_line : '\n' ∉ item)
    (item_declares : Sass.Item.ofLine? (trim item) = some documented) (empty : blank white = true)
    (file : Text) :
    (∃ doclet, Script.doclets (Script.commented comment declaration ++ white) file = .ok [doclet] ∧
      Script.doclet? (.ofLines comment) (some (comment.length + 3, trim declaration)) file = some doclet) ∧
    (comment ≠ [] → Sass.doclets (Sass.commented comment item ++ white) file =
      [Sass.doclet (.ofLines comment) documented (comment.length + 1) file]) := by
  constructor
  · obtain ⟨doclet, found⟩ :=
      Script.doclet_of_subject declares (.ofLines comment) (comment.length + 3) file
    refine ⟨doclet, ?_, found⟩
    rw [Script.doclets_commented one_line open_lines declaration_line declares empty, found]
    rfl
  · intro filled
    exact Sass.doclets_commented one_line filled item_line item_declares empty

/-- Lines that begin like the marks themselves, or are empty, or end in white space. -/
def openingNotes : List Text :=
  ["  Opens.  ".toList, [], "* once".toList, "@param a - what".toList, "/ to open ".toList, []]

theorem opening_is_documented_alike :
    (∃ doclet,
      Script.doclets (Script.commented openingNotes "export function open(a) \x7b".toList ++ ['\n'])
        "o".toList = .ok [doclet] ∧
      Script.doclet? (.ofLines openingNotes) (some (9, "export function open(a) \x7b".toList)) "o".toList =
        some doclet) ∧
    Sass.doclets (Sass.commented openingNotes " @mixin open($a) \x7b".toList ++ ['\n']) "o".toList =
      [Sass.doclet (.ofLines openingNotes) (.mixin "open".toList) 7 "o".toList] := by
  have subject : Script.Subject.ofLine? (trim "export function open(a) \x7b".toList) =
      some (.function "open".toList) := by decide +kernel
  have documented : Sass.Item.ofLine? (trim " @mixin open($a) \x7b".toList) =
      some (.mixin "open".toList) := by decide +kernel
  have one_line : ∀ line ∈ openingNotes, '\n' ∉ line := by decide
  have empty : blank ['\n'] = true := by decide
  obtain ⟨script, sass⟩ :=
    documented_alike one_line (by decide) (by decide) subject (by decide) documented empty "o".toList
  exact ⟨script, sass (by decide)⟩

end DocSite.Doclet
