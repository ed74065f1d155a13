/-
# DocSite.Proofs.Page.Lifting -- front matter in a comment

Sources that are no Markdown may hide their front matter in a comment at their beginning (`IsComment`,
`Commented`). The comment is taken off just if its text, without white space at its ends, begins with a
fence (`Commented.unwrapComment_eq`).

If the text of the comment is a block between fences, the source is read as if the block stood in front of
the page without a comment (`extract_lifted`). If the text of the comment begins with a fence and is no
such block, comment and page are mixed up: the front matter goes on in the page if the block is not closed,
and the page begins in the comment if text follows the block there. So comment and page stay apart just in
the two other cases (`stays_apart_iff`).
-/
import DocSite.Page.Comment
import DocSite.Proofs.Page.Fences
import DocSite.Proofs.Text.Phrases

set_option autoImplicit false

namespace DocSite.Page

open Text
open FrontMatter (afterFence? extractWith ofBlock)

/-! ## Comments -/

/-- The marks of the comments that may hold the front matter of sources of a kind. -/
inductive IsComment : (kind : Kind) → (opening closing : Text) → Prop
  | template : IsComment .template ['\x7b', '#'] ['#', '\x7d']
  | templateMarkup : IsComment .template "<!--".toList "-->".toList
  | markup : IsComment .verbatim "<!--".toList "-->".toList
  | block : IsComment .verbatim ['/', '*'] ['*', '/']

/-- A source that begins with a comment, perhaps after white space: the comment ends at the first mark
that closes it, and a page follows. -/
structure Commented (kind : Kind) where
  opening : Text
  closing : Text
  marks : IsComment kind opening closing
  lead : Text
  lead_blank : blank lead = true
  inside : Text
  open_inside : ¬closing <:+: inside
  page : Text

/-- The text of a source that begins with a comment. -/
def Commented.source {kind : Kind} (comment : Commented kind) : Text :=
  comment.lead ++ comment.opening ++ (comment.inside ++ comment.closing ++ comment.page)

variable {kind : Kind} {opening closing lead inside page text before after phrase : Text} {codec : Codec}

namespace IsComment

theorem head_filled (marks : IsComment kind opening closing) :
    ∃ c rest, opening = c :: rest ∧ isBlank c = false ∧ c ≠ '-' := by
  cases marks <;> exact ⟨_, _, rfl, by decide, by decide⟩

/-- The last character of a mark that closes a comment is only its last. -/
theorem closing_eq (marks : IsComment kind opening closing) :
    ∃ start last, closing = start ++ [last] ∧ last ∉ start := by
  cases marks with
  | template => exact ⟨['#'], '\x7d', rfl, by decide⟩
  | templateMarkup => exact ⟨['-', '-'], '>', rfl, by decide⟩
  | markup => exact ⟨['-', '-'], '>', rfl, by decide⟩
  | block => exact ⟨['*'], '/', rfl, by decide⟩

theorem closing_filled (marks : IsComment kind opening closing) : ∀ c ∈ closing, isBlank c = false := by
  have filled : closing.all (fun c => !isBlank c) = true := by cases marks <;> rfl
  simpa using filled

theorem closing_ne_nil (marks : IsComment kind opening closing) : closing ≠ [] := by
  cases marks <;> decide

/-- A comment ends at the first mark that closes it. -/
theorem splitFirst (marks : IsComment kind opening closing) (free : ¬closing <:+: inside) (page : Text) :
    splitFirst? closing (inside ++ closing ++ page) = some (inside, page) := by
  obtain ⟨start, last, rfl, once⟩ := marks.closing_eq
  exact splitFirst_of_last once free page

end IsComment

/-- The marks of a comment are taken off if its text begins with a fence. -/
theorem unwrapMarks_own (marks : IsComment kind opening closing) (empty : blank lead = true)
    (free : ¬closing <:+: inside) :
    unwrapMarks? opening closing (lead ++ opening ++ (inside ++ closing ++ page)) =
      if (afterFence? (trim inside)).isSome then some (trim inside ++ '\n' :: dropBreaks page) else none := by
  obtain ⟨c, rest, start, filled, -⟩ := marks.head_filled
  have opened : trimStart (lead ++ opening ++ (inside ++ closing ++ page)) =
      opening ++ (inside ++ closing ++ page) := by
    rw [List.append_assoc, trimStart_append_blank empty, start, List.cons_append, trimStart_cons filled]
  rw [unwrapMarks?, opened, dropPhrase_eq_some.mpr rfl]
  simp only [Option.bind_some, marks.splitFirst free]

theorem unwrapMarks_other (empty : blank lead = true) {c d : Char} {rest : Text} (filled : isBlank c = false)
    (start : opening = c :: rest) (other : d ≠ c) (phrase closing after : Text) :
    unwrapMarks? (d :: phrase) closing (lead ++ opening ++ after) = none := by
  have missing : dropPhrase? (d :: phrase) (c :: (rest ++ after)) = none := by
    rw [dropPhrase?, if_neg other]
  rw [unwrapMarks?, List.append_assoc, trimStart_append_blank empty, start, List.cons_append,
    trimStart_cons filled, missing]
  rfl

/-- Each kind of source has two kinds of comments, of which a source begins with one at most. -/
theorem unwrapComment_pair {first last first' last' : Text}
    (pair : commentMarks kind = [(first, last), (first', last')]) (source : Text) :
    unwrapComment? kind source =
      (unwrapMarks? first last source).or (unwrapMarks? first' last' source) := by
  rw [unwrapComment?, pair, List.findSome?_cons, List.findSome?_cons, List.findSome?_nil]
  dsimp only
  cases unwrapMarks? first last source <;> cases unwrapMarks? first' last' source <;> rfl

/-- A comment is taken off just if its text begins with a fence. -/
theorem Commented.unwrapComment_eq (comment : Commented kind) :
    unwrapComment? kind comment.source =
      if (afterFence? (trim comment.inside)).isSome then
        some (trim comment.inside ++ '\n' :: dropBreaks comment.page)
      else none := by
  obtain ⟨opening, closing, marks, lead, empty, inside, free, page⟩ := comment
  have own : unwrapMarks? opening closing (lead ++ opening ++ (inside ++ closing ++ page)) = _ :=
    unwrapMarks_own marks empty free
  have other {c d : Char} {rest : Text} (filled : isBlank c = false) (start : opening = c :: rest)
      (differ : d ≠ c) (phrase ending : Text) :=
    unwrapMarks_other empty filled start differ phrase ending (inside ++ closing ++ page)
  rw [Commented.source, ← own]
  cases marks with
  | template =>
    have later := other (d := '<') (by decide) rfl (by decide) ['!', '-', '-'] ['-', '-', '>']
    rw [unwrapComment_pair rfl]
    exact (congrArg _ later).trans (Option.or_none ..)
  | templateMarkup =>
    have earlier := other (d := '\x7b') (by decide) rfl (by decide) ['#'] ['#', '\x7d']
    rw [unwrapComment_pair rfl]
    exact (congrArg (Option.or · _) earlier).trans (Option.none_or ..)
  | markup =>
    have later := other (d := '/') (by decide) rfl (by decide) ['*'] ['*', '/']
    rw [unwrapComment_pair rfl]
    exact (congrArg _ later).trans (Option.or_none ..)
  | block =>
    have earlier := other (d := '<') (by decide) rfl (by decide) ['!', '-', '-'] ['-', '-', '>']
    rw [unwrapComment_pair rfl]
    exact (congrArg (Option.or · _) earlier).trans (Option.none_or ..)

/-! ## Blocks in comments -/

/-- White space makes no room for a phrase without white space, whether it stands before a text ... -/
theorem infix_of_blank_append (filled : ∀ c ∈ phrase, isBlank c = false) (some : phrase ≠ [])
    (empty : blank before = true) (found : phrase <:+: before ++ text) : phrase <:+: text := by
  obtain ⟨c, rest, rfl⟩ := List.exists_cons_of_ne_nil some
  have fresh : c ∉ before := by
    intro member
    have white := List.all_eq_true.mp empty c member
    rw [filled c (List.mem_cons_self ..)] at white
    cases white
  exact (infix_append_of_not_mem fresh).mp found

/-- ... or after it. -/
theorem infix_of_append_blank (filled : ∀ c ∈ phrase, isBlank c = false) (some : phrase ≠ [])
    (empty : blank after = true) (found : phrase <:+: text ++ after) : phrase <:+: text := by
  rw [← List.reverse_infix] at found ⊢
  rw [List.reverse_append] at found
  exact infix_of_blank_append (by simpa using filled) (by simpa using some)
    (by rw [blank, List.all_reverse]; exact empty) found

/-- A block whose last line has no white space after its dashes. -/
def FencedBlock.tight (block : FencedBlock) : FencedBlock :=
  { block with
    closing := FrontMatter.fence
    closes := isFence_fence
    closing_line := fence_line }

/-- White space around a block is left out, and so is what follows the dashes of its last line. -/
theorem FencedBlock.trim_text (block : FencedBlock) (empty : blank before = true)
    (empty' : blank after = true) : trim (before ++ block.text ++ after) = block.tight.text := by
  obtain ⟨white, white_blank, closing⟩ := isFence_iff.mp block.closes
  obtain ⟨more, dash⟩ := block.tight.exists_text
  have whole : block.text = block.tight.text ++ white := by
    rw [FencedBlock.text, closing, FencedBlock.text, FencedBlock.tight]
    simp
  have kept : trimEnd block.tight.text = block.tight.text := by
    have split : block.tight.text = block.opening ++ '\n' :: block.inside ++ FrontMatter.fence := by
      simp [FencedBlock.text, FencedBlock.tight]
    rw [split, trimEnd_append (by decide)]
    rfl
  rw [trim_append_blank empty', trim, trimStart_append_blank empty, whole, dash, List.cons_append,
    trimStart_cons (by decide), ← List.cons_append, ← dash, trimEnd_append_blank white_blank, kept]

/-- A block in front of a page, on lines of its own. -/
theorem FencedBlock.begins_page (block : FencedBlock) (page : Text) :
    block.Begins ('\n' :: page) (block.text ++ '\n' :: page) := ⟨rfl, .inr ⟨page, rfl⟩⟩

theorem FencedBlock.extract_page (block : FencedBlock) (codec : Codec) (page : Text) :
    extractWith codec (block.text ++ '\n' :: dropBreaks page) =
      (ofBlock codec block.inside).map fun fm => (fm, dropBreaks page) := by
  have begins := block.begins_page (dropBreaks page)
  rw [begins.extract, ← begins.dropBreaks_tail, List.tail_cons, dropBreaks_dropBreaks]

/-- A comment that holds a block, and nothing else but white space, becomes the block. -/
theorem Commented.unwrapComment_block (comment : Commented kind) {block : FencedBlock}
    (held : trim comment.inside = block.text) :
    unwrapComment? kind comment.source = some (block.text ++ '\n' :: dropBreaks comment.page) := by
  have begins : block.Begins [] block.text := ⟨(List.append_nil _).symm, .inl rfl⟩
  rw [comment.unwrapComment_eq, held, begins.afterFence]
  rfl

/-- A source whose comment holds a block between fences, and nothing else but white space, is read as if
the block stood in front of the page without a comment: its front matter is that of the block, or the error
is the same, and its page is what follows the comment, without the line breaks it begins with. -/
theorem extract_lifted (codec : Codec) (marks : IsComment kind opening closing) (block : FencedBlock)
    (free : ¬closing <:+: block.text) (empty : blank lead = true) (empty' : blank before = true)
    (empty'' : blank after = true) (page : Text) :
    let source := lead ++ opening ++ before ++ block.text ++ after ++ closing ++ page
    let read := extractWith codec ((unwrapComment? kind source).getD source)
    read = extractWith codec (block.text ++ '\n' :: dropBreaks page) ∧
      read = (ofBlock codec block.inside).map fun fm => (fm, dropBreaks page) := by
  intro source read
  have open_inside : ¬closing <:+: before ++ block.text ++ after := by
    intro found
    have left := infix_of_append_blank marks.closing_filled marks.closing_ne_nil empty'' found
    exact free (infix_of_blank_append marks.closing_filled marks.closing_ne_nil empty' left)
  let comment : Commented kind := ⟨opening, closing, marks, lead, empty, _, open_inside, page⟩
  have whole : source = comment.source := by simp [source, comment, Commented.source]
  have lifted : read = extractWith codec (block.tight.text ++ '\n' :: dropBreaks page) := by
    have taken := comment.unwrapComment_block (block.trim_text empty' empty'')
    rw [← whole] at taken
    simp only [read, taken, Option.getD_some, comment]
  have result : read = (ofBlock codec block.inside).map fun fm => (fm, dropBreaks page) :=
    lifted.trans (block.tight.extract_page codec page)
  exact ⟨result.trans (block.extract_page codec page).symm, result⟩

/-- A block that gives a title. -/
def titleBlock : FencedBlock where
  opening := "---".toList
  inside := "title: X\n".toList
  closing := "---".toList
  opens := isFence_fence
  opening_line := fence_line
  ended := by decide
  open_lines := by decide
  closes := isFence_fence
  closing_line := fence_line

/-- A source with a title in a comment. The dashes of the block stand right before those of the comment. -/
def titledSource : Text := "\n <!--\r\n---\ntitle: X\n----->\n\n---\nHi".toList

theorem title_is_lifted :
    ¬"-->".toList <:+: titleBlock.text ∧ blank ['\n', ' '] = true ∧ blank ['\r', '\n'] = true ∧
      blank [] = true ∧
      (FrontMatter.extract ((unwrapComment? .verbatim titledSource).getD titledSource)).toOption.map
        (fun (fm, page) => (fm.title?, page)) = some (some "X".toList, "---\nHi".toList) := by
  have free : ¬"-->".toList <:+: titleBlock.text := by decide
  have lead : blank ['\n', ' '] = true := by decide
  have before : blank ['\r', '\n'] = true := by decide
  have after : blank [] = true := rfl
  have lifted := (extract_lifted .yaml .markup titleBlock free lead before after "\n\n---\nHi".toList).2
  have whole : ['\n', ' '] ++ "<!--".toList ++ ['\r', '\n'] ++ titleBlock.text ++ [] ++ "-->".toList ++
      "\n\n---\nHi".toList = titledSource := by decide
  rw [whole] at lifted
  refine ⟨free, lead, before, after, ?_⟩
  rw [FrontMatter.extract, lifted]
  decide +kernel

/-! ## Comments and pages that stay apart -/

/-- Whether what is read of a text in two parts keeps to them: the mapping ends in the first part, and the
page begins in the second. -/
def KeepsApart (codec : Codec) (first second : Text) : Prop :=
  ∃ (block : FencedBlock) (rest : Text), block.Begins rest (first ++ '\n' :: second) ∧
    extractWith codec (first ++ '\n' :: second) =
      (ofBlock codec block.inside).map (fun fm => (fm, dropBreaks rest)) ∧
    block.opening ++ '\n' :: block.inside <+: first ∧ dropBreaks rest <:+ second

/-- Whether a text begins with a block between fences, both of them complete. -/
def IsComplete (text : Text) : Prop := ∃ (block : FencedBlock) (rest : Text), block.Begins rest text

/-- The reader finds both fences of a block just if both of them are there. -/
theorem isComplete_iff {text : Text} :
    IsComplete text ↔
      ((afterFence? text).bind fun rest => FrontMatter.splitAtFence? (linesKept rest)).isSome = true := by
  constructor
  · rintro ⟨block, rest, begins⟩
    rw [begins.afterFence, Option.bind_some, begins.splitAtFence]
    rfl
  · intro found
    obtain ⟨⟨inside, after⟩, both⟩ := Option.isSome_iff_exists.mp found
    obtain ⟨rest, opened, closed⟩ := Option.bind_eq_some_iff.mp both
    obtain ⟨block, more, begins, -⟩ := exists_begins opened closed
    exact ⟨block, more, begins⟩

namespace Commented

/-- Whether a comment and the page after it are not mixed up: if the comment is taken off, the mapping is
read from the comment and the page from behind it; and a comment without a complete block is left where it
is, so that the source has no front matter and is all page. -/
structure StaysApart (codec : Codec) (comment : Commented kind) : Prop where
  keeps : ∀ text, unwrapComment? kind comment.source = some text →
    text = trim comment.inside ++ '\n' :: dropBreaks comment.page ∧
      KeepsApart codec (trim comment.inside) (dropBreaks comment.page)
  left : ¬IsComplete (trim comment.inside) →
    unwrapComment? kind comment.source = none ∧
      extractWith codec comment.source = .ok (.empty, comment.source)

end Commented

/-- A block stays apart from the page it stands in front of. -/
theorem keepsApart_block (codec : Codec) (block : FencedBlock) (page : Text) :
    KeepsApart codec block.text (dropBreaks page) := by
  have begins := block.begins_page (dropBreaks page)
  refine ⟨block, _, begins, begins.extract codec, ⟨block.closing, by simp [FencedBlock.text]⟩, ?_⟩
  rw [← begins.dropBreaks_tail]
  exact List.dropWhile_suffix _

/-- Text that follows a block in a comment becomes part of the page. -/
theorem not_keepsApart {block : FencedBlock} {first rest second : Text} (begins : block.Begins rest first)
    (filled : blank rest.tail = false) : ¬KeepsApart codec first second := by
  rintro ⟨block', rest', begins', -, -, inside⟩
  rcases begins.apart with rfl | ⟨after, rfl⟩
  · cases filled
  · have longer : block.Begins ('\n' :: (after ++ '\n' :: second)) (first ++ '\n' :: second) :=
      { whole := by rw [begins.whole]; simp
        apart := .inr ⟨_, rfl⟩ }
    obtain ⟨-, same⟩ := longer.unique begins'
    rw [List.tail_cons] at filled
    rw [← begins'.dropBreaks_tail, ← same, List.tail_cons, dropBreaks_append filled] at inside
    have lengths := inside.length_le
    rw [List.length_append, List.length_cons] at lengths
    omega

namespace Commented

/-- A source that begins with a comment does not begin with front matter. -/
theorem extract_source (comment : Commented kind) (codec : Codec) :
    extractWith codec comment.source = .ok (.empty, comment.source) := by
  obtain ⟨c, rest, start, filled, other⟩ := comment.marks.head_filled
  have none : afterFence? (trimStart comment.source) = none := by
    rw [source, List.append_assoc, trimStart_append_blank comment.lead_blank, start, List.cons_append,
      trimStart_cons filled, afterFence_of_ne other]
  rw [extractWith, none]

/-- A comment stays apart from the page after it just if its text, without white space at its ends, does not
begin with a fence or is a block between fences and no more. -/
theorem stays_apart_iff (codec : Codec) (comment : Commented kind) :
    comment.StaysApart codec ↔
      afterFence? (trim comment.inside) = none ∨
        ∃ block : FencedBlock, trim comment.inside = block.text := by
  constructor
  · intro apart
    by_cases complete : IsComplete (trim comment.inside)
    · obtain ⟨block, rest, begins⟩ := complete
      rcases begins.apart with rfl | ⟨after, rfl⟩
      · exact .inr ⟨block, begins.whole.trans (List.append_nil _)⟩
      · have taken : unwrapComment? kind comment.source = _ := comment.unwrapComment_eq
        rw [begins.afterFence] at taken
        have filled := filled_of_trim_eq begins.whole (List.cons_ne_nil '\n' after)
        exact absurd (apart.keeps _ taken).2 (not_keepsApart begins filled)
    · have left := (apart.left complete).1
      rw [comment.unwrapComment_eq] at left
      exact .inl (by simpa using left)
  · rintro (plain | ⟨block, held⟩)
    · have left : unwrapComment? kind comment.source = none := by
        rw [comment.unwrapComment_eq, plain]
        rfl
      exact
        { keeps := fun text taken => by rw [left] at taken; cases taken
          left := fun _ => ⟨left, comment.extract_source codec⟩ }
    · have taken := comment.unwrapComment_block held
      exact
        { keeps := fun text same => by
            rw [taken] at same
            cases same
            rw [held]
            exact ⟨rfl, keepsApart_block codec block comment.page⟩
          left := fun incomplete =>
            absurd ⟨block, [], held.trans (List.append_nil _).symm, .inl rfl⟩ incomplete }

/-- A comment with the block of a title. -/
def titleNote : Commented .verbatim where
  opening := "<!--".toList
  closing := "-->".toList
  marks := .markup
  lead := []
  lead_blank := rfl
  inside := "\n---\ntitle: X\n---\n".toList
  open_inside := by decide
  page := "\nHi\n".toList

theorem title_note_stays_apart : titleNote.StaysApart .yaml :=
  (stays_apart_iff .yaml titleNote).mpr (.inr ⟨titleBlock, by decide⟩)

/-- A comment with a block that is not closed. -/
def openNote : Commented .verbatim :=
  { titleNote with
    inside := "\n---\ntitle: X\n".toList
    open_inside := by decide }

theorem open_note_does_not_stay_apart : ¬openNote.StaysApart .yaml := by
  intro apart
  have incomplete : ¬IsComplete (trim openNote.inside) := by
    rw [isComplete_iff]
    decide
  have taken : unwrapComment? .verbatim openNote.source = some _ := openNote.unwrapComment_eq
  rw [(apart.left incomplete).1] at taken
  cases taken

end Commented

end DocSite.Page
