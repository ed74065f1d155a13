/-
# DocSite.Proofs.Page.Block -- front matter that stays in front of a page

A page may keep its front matter in front of its rendered text. The block can be taken off again
whatever the text is: no line of the mapping is a fence, so that it is written as a block between fences
(`keptBlock`), and what follows the block begins a line of its own (`extractWith_block`). So reading
gives back the mapping and the text (`extract_kept`).

How mappings are written and read is a parameter of this; `Codec.Keeps` holds what is relied on.
-/
import DocSite.Proofs.Page.Fences
import DocSite.Site.Rendering

set_option autoImplicit false

namespace DocSite

namespace Page

open Text

/-- What is relied on of a way of writing and reading mappings, at one mapping: the text that it is
written as is read back, is not blank, ends with a line feed, and has no line that is a fence. -/
structure Codec.Keeps (codec : Codec) (entries : Yaml.Entries) (text : Text) : Prop where
  printed : codec.print? entries = some text
  read : codec.read? text = some (.mapping entries)
  filled : blank text = false
  ended : text.getLast? = some '\n'
  open_lines : ∀ line ∈ linesKept text, FrontMatter.isFence line = false

namespace FrontMatter

variable {codec : Codec} {fm : FrontMatter} {text : Text}

/-! ## Reading a block back -/

theorem ofBlock_kept (kept : codec.Keeps fm.entries text) : ofBlock codec text = .ok fm := by
  simp [ofBlock, kept.filled, kept.read]

/-- The block that a mapping is written as. -/
def keptBlock (kept : codec.Keeps fm.entries text) : FencedBlock where
  opening := fence
  inside := text
  closing := fence
  opens := isFence_fence
  opening_line := fence_line
  ended := .inr kept.ended
  open_lines := kept.open_lines
  closes := isFence_fence
  closing_line := fence_line

/-- Whatever follows a block is what is left when the front matter is taken off. -/
theorem extractWith_block (kept : codec.Keeps fm.entries text) (after : Text) :
    extractWith codec (fence ++ '\n' :: text ++ fence ++ '\n' :: after) =
      .ok (fm, dropBreaks after) := by
  have begins : (keptBlock kept).Begins ('\n' :: after)
      (fence ++ '\n' :: text ++ fence ++ '\n' :: after) :=
    { whole := by simp [FencedBlock.text, keptBlock]
      apart := .inr ⟨after, rfl⟩ }
  rw [begins.extract codec, ← begins.dropBreaks_tail, keptBlock, ofBlock_kept kept]
  rfl

/-! ## Pages with their front matter -/

/-- A renderer that keeps front matter puts its block, and an empty line, in front of what it would write
otherwise. -/
theorem renderWith_keeping {renderer : Site.Renderer} {files : FileTree} {layouts : Site.Kept}
    {record : Record} {site : Template.Value} {block page : Text}
    (keeping : renderer.keepFrontMatter = true) (written : record.frontMatter.toBlock? = some block)
    (plain : ({ renderer with keepFrontMatter := false }.renderWith files layouts record site).text =
      .ok page) :
    (renderer.renderWith files layouts record site).text = .ok (block ++ '\n' :: page) := by
  have context : ({ renderer with keepFrontMatter := false }.contextOf record site) =
      renderer.contextOf record site := rfl
  unfold Site.Renderer.renderWith at plain ⊢
  dsimp only at plain ⊢
  rw [context] at plain
  split at plain
  next text rendered =>
    obtain rfl : text = page := by simpa using plain
    simp [keeping, written]
  · cases plain
  · cases plain

/-- Front matter that stands in front of a rendered page is read back from there, and what is left is the
page without the line breaks it begins with; a block alone leaves nothing. A renderer that keeps front
matter writes just this, where it would write `page` otherwise. -/
theorem extract_kept (kept : codec.Keeps fm.entries text) (page : Text) :
    ∃ block, fm.toBlockWith? codec = some block ∧
      extractWith codec (block ++ '\n' :: page) = .ok (fm, dropBreaks page) ∧
      extractWith codec block = .ok (fm, []) ∧
      (codec = .yaml → ∀ (renderer : Site.Renderer) (files : FileTree) (layouts : Site.Kept)
        (record : Record) (site : Template.Value),
        renderer.keepFrontMatter = true → record.frontMatter = fm →
        ({ renderer with keepFrontMatter := false }.renderWith files layouts record site).text =
          .ok page →
        (renderer.renderWith files layouts record site).text = .ok (block ++ '\n' :: page)) := by
  have written : fm.toBlockWith? codec = some (fence ++ '\n' :: text ++ fence ++ ['\n']) := by
    rw [toBlockWith?, kept.printed]
    rfl
  refine ⟨_, written, ?_, ?_, ?_⟩
  · have whole := extractWith_block kept ('\n' :: page)
    rw [List.append_cons] at whole
    rw [whole]
    rfl
  · exact extractWith_block kept []
  · rintro rfl renderer files layouts record site keeping rfl plain
    exact renderWith_keeping keeping written plain

/-! ## A mapping with fences in a text -/

/-- The keys and values of a mapping of strings to strings. -/
def strings? : Yaml.Entries → Option (List (Text × Text))
  | [] => some []
  | (.string key, .string value) :: rest => (strings? rest).map ((key, value) :: ·)
  | _ => none

/-- The keys and values of a value that is a mapping of strings to strings. -/
def mappingStrings? : Yaml.Value → Option (List (Text × Text))
  | .mapping entries => strings? entries
  | _ => none

theorem eq_of_strings {entries : Yaml.Entries} {pairs : List (Text × Text)}
    (read : strings? entries = some pairs) :
    entries = pairs.map fun (key, value) => (.string key, .string value) := by
  fun_induction strings? entries generalizing pairs with
  | case1 =>
    cases read
    rfl
  | case2 key value rest ih =>
    obtain ⟨later, found, rfl⟩ := Option.map_eq_some_iff.mp read
    rw [ih found]
    rfl
  | case3 => cases read

/-- Front matter with a text one of whose lines is a fence, which is indented when it is written. -/
def ruled : FrontMatter :=
  ⟨[(.string "title".toList, .string "A: b".toList),
    (.string "note".toList, .string "one\n---\ntwo".toList)]⟩

/-- The mapping of `ruled` as it is written. -/
def ruledText : Text := "title: 'A: b'\nnote: |-\n  one\n  ---\n  two\n".toList

theorem ruled_read : Yaml.read? ruledText = some (.mapping ruled.entries) := by
  have pairs : (Yaml.read? ruledText).bind mappingStrings? =
      some [("title".toList, "A: b".toList), ("note".toList, "one\n---\ntwo".toList)] := by
    decide +kernel
  obtain ⟨value, read, strings⟩ := Option.bind_eq_some_iff.mp pairs
  unfold mappingStrings? at strings
  split at strings
  · rw [read, eq_of_strings strings]
    rfl
  · cases strings

theorem ruled_is_read_back : Codec.yaml.Keeps ruled.entries ruledText ∧
    ∃ block, ruled.toBlock? = some block ∧
      extract (block ++ '\n' :: ('\r' :: '\n' :: (fence ++ ['\n', 'x']))) =
        .ok (ruled, fence ++ ['\n', 'x']) := by
  have reader : Codec.yaml.read? = Yaml.read? := rfl
  have kept : Codec.yaml.Keeps ruled.entries ruledText :=
    { printed := by decide +kernel
      read := by rw [reader, ruled_read]
      filled := by decide +kernel
      ended := by decide +kernel
      open_lines := by decide +kernel }
  obtain ⟨block, written, whole, -⟩ := extract_kept kept ('\r' :: '\n' :: (fence ++ ['\n', 'x']))
  exact ⟨kept, block, written, whole⟩

end FrontMatter

end Page

end DocSite
