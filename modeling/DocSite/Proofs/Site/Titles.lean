/-
# DocSite.Proofs.Site.Titles -- every page has a title

A page has one title, from one of three places (`TitledBy`): what its front matter declares, else the first
heading of a Markdown text that shows something, else the name of its file. A place that has nothing but white
space does not count, and the last one always has a text: paths that end with dots or with nothing make the page
untitled. This says all about the title that is found and the text that is left with it (`resolveTitle_iff`), so no
page that is read is without a title (`titled_pages`).
-/
import DocSite.Proofs.Markdown.Headings
import DocSite.Proofs.Page.Location
import DocSite.Proofs.Site.Reachable

set_option autoImplicit false

namespace DocSite.Page

open Text
open Markdown (Event Heading cut headings shown wholeLines)

variable {fm : FrontMatter} {kind : Kind} {value : Yaml.Value} {title name body outputPath : Text} {heading : Heading}
  {titled : Titled}

/-! ## Declared titles -/

/-- The text of a string, a number or a truth value. -/
inductive ScalarText : Yaml.Value → Text → Prop
  | string (text : Text) : ScalarText (.string text) text
  | int (n : Int) : ScalarText (.int n) (NumberLayout.ofInt n)
  | float (number : Binary64) : ScalarText (.float number) (Yaml.numberText number)
  | bool (truth : Bool) : ScalarText (.bool truth) (if truth then "true" else "false").toList

/-- Front matter declares a title with a value that has a text, unless it is blank. -/
def DeclaresTitle (fm : FrontMatter) (title : Text) : Prop :=
  ∃ value, fm.get? "title".toList = some value ∧ ScalarText value title ∧ blank title = false

theorem scalarText_iff : FrontMatter.titleText? value = some title ↔ ScalarText value title := by
  constructor
  · intro text
    cases value with
    | string text' => cases text; exact .string _
    | int n => cases text; exact .int n
    | float number => cases text; exact .float number
    | bool truth => cases truth <;> cases text <;> exact .bool _
    | null => cases text
    | sequence items => cases text
    | mapping entries => cases text
    | tagged tag value => cases text
  · rintro (_ | _ | _ | truth)
    · rfl
    · rfl
    · rfl
    · cases truth <;> rfl

theorem declaresTitle_iff : fm.title? = some title ↔ DeclaresTitle fm title := by
  rw [FrontMatter.title?, Option.filter_eq_some_iff, Option.bind_eq_some_iff]
  constructor
  · rintro ⟨⟨value, found, text⟩, filled⟩
    exact ⟨value, found, scalarText_iff.mp text, by simpa using filled⟩
  · rintro ⟨value, found, text, filled⟩
    exact ⟨⟨value, found, scalarText_iff.mpr text⟩, by simpa using filled⟩

theorem not_declaresTitle_iff : fm.title? = none ↔ ∀ title, ¬DeclaresTitle fm title := by
  rw [Option.eq_none_iff_forall_ne_some]
  exact forall_congr' fun title => not_congr declaresTitle_iff

/-! ## Headings -/

/-- The first heading of level one that shows a text. -/
def Heads (heading : Heading) (body : Text) : Prop :=
  ∃ before after, headings (Event.ofSource body) = before ++ heading :: after ∧
    blank (shown [] heading.inner) = false ∧ ∀ earlier ∈ before, blank (shown [] earlier.inner) = true

theorem headline_eq_some {found : Text × Markdown.Span} : Markdown.headline? body = some found ↔
    ∃ heading, Heads heading body ∧ found = (trim (shown [] heading.inner), heading.span) := by
  rw [Markdown.headline_eq_named, Markdown.named?, Option.map_eq_some_iff]
  refine exists_congr fun heading => and_congr ?_ eq_comm
  rw [List.find?_eq_some_iff_append, Bool.not_eq_true']
  constructor
  · rintro ⟨filled, before, after, parts, empty⟩
    exact ⟨before, after, parts, filled, fun earlier member => by simpa using empty earlier member⟩
  · rintro ⟨before, after, parts, filled, empty⟩
    exact ⟨filled, before, after, parts, fun earlier member => by simpa using empty earlier member⟩

theorem headline_eq_none : Markdown.headline? body = none ↔ ∀ heading, ¬Heads heading body := by
  rw [Option.eq_none_iff_forall_ne_some]
  constructor
  · exact fun none heading heads => none _ (headline_eq_some.mpr ⟨heading, heads, rfl⟩)
  · rintro none found some
    obtain ⟨heading, heads, -⟩ := headline_eq_some.mp some
    exact none heading heads

/-! ## File names -/

/-- What the name of a file gives as a title: the name up to its last dot, or all of it if no other character is
before a dot. Without a name there is still a title. -/
inductive FileTitle (outputPath : Text) : Text → Prop
  | stem {stem extension : Text} (last : Path.name? ⟨outputPath⟩ = some (stem ++ '.' :: extension))
      (plain : '.' ∉ extension) (filled : stem ≠ []) : FileTitle outputPath stem
  | hidden {rest : Text} (last : Path.name? ⟨outputPath⟩ = some ('.' :: rest)) (plain : '.' ∉ rest) :
      FileTitle outputPath ('.' :: rest)
  | whole {name : Text} (last : Path.name? ⟨outputPath⟩ = some name) (plain : '.' ∉ name) :
      FileTitle outputPath name
  | nameless (nameless : Path.name? ⟨outputPath⟩ = none) : FileTitle outputPath "Untitled".toList

/-- A name is a title as far as it is not its extension. -/
theorem fileTitle_of_name (last : Path.name? ⟨outputPath⟩ = some name) :
    FileTitle outputPath (Path.cutName name).1 := by
  rcases exists_last_split '.' name with plain | ⟨stem, extension, rfl, plain⟩
  · rw [Path.cutName_plain plain]
    exact .whole last plain
  · by_cases filled : stem = []
    · subst filled
      rw [List.nil_append, Path.cutName_dotted plain]
      exact .hidden last plain
    · rw [Path.cutName_append plain filled]
      exact .stem last plain filled

theorem FileTitle.ne_nil (named : FileTitle outputPath title) : title ≠ [] := by
  cases named with
  | stem _ _ filled => exact filled
  | hidden => exact List.cons_ne_nil _ _
  | whole last _ =>
    obtain ⟨before, parts⟩ := parts_of_name last
    have member : .name title ∈ Path.parts ⟨outputPath⟩ := by simp [parts]
    exact (Path.isName_of_mem_parts member).1
  | nameless => decide

theorem fileTitle_eq (last : Path.name? ⟨outputPath⟩ = some name) :
    fileTitle outputPath = (Path.cutName name).1 := by
  have filled := (fileTitle_of_name last).ne_nil
  rw [fileTitle, Path.stem?, last, Option.map_some, Option.filter_some, if_pos (by simp [filled]), Option.getD_some]

theorem fileTitle_iff : fileTitle outputPath = title ↔ FileTitle outputPath title := by
  constructor
  · rintro rfl
    cases last : Path.name? ⟨outputPath⟩ with
    | none =>
      rw [fileTitle, Path.stem?, last]
      exact .nameless last
    | some name =>
      rw [fileTitle_eq last]
      exact fileTitle_of_name last
  · intro named
    cases named with
    | stem last plain filled => rw [fileTitle_eq last, Path.cutName_append plain filled]
    | hidden last plain => rw [fileTitle_eq last, Path.cutName_dotted plain]
    | whole last plain => rw [fileTitle_eq last, Path.cutName_plain plain]
    | nameless nameless =>
      rw [fileTitle, Path.stem?, nameless]
      rfl

example : ["", ".", "a/..", "a/.html", "a/b.c.html"].map (fun path => fileTitle path.toList) =
    ["Untitled", "Untitled", "Untitled", ".html", "b.c"].map String.toList := by decide

/-! ## The title of a page -/

/-- A title with what is left of a text, each of the three places in its turn. -/
inductive TitledBy (fm : FrontMatter) (kind : Kind) (body outputPath : Text) : Titled → Prop
  | frontMatter {title : Text} (declared : DeclaresTitle fm title) :
      TitledBy fm kind body outputPath ⟨title, .frontMatter, body⟩
  | heading {heading : Heading} (undeclared : ∀ title, ¬DeclaresTitle fm title) (markdown : kind = .markdown)
      (heads : Heads heading body) : TitledBy fm kind body outputPath
        ⟨trim (shown [] heading.inner), .heading, cut body (wholeLines body heading.span)⟩
  | fileName {title : Text} (undeclared : ∀ title, ¬DeclaresTitle fm title)
      (headless : kind = .markdown → ∀ heading, ¬Heads heading body) (named : FileTitle outputPath title) :
      TitledBy fm kind body outputPath ⟨title, .fileName, body⟩

/-- The title that is found is the one that a page has. -/
theorem resolveTitle_iff :
    resolveTitle fm kind body outputPath = titled ↔ TitledBy fm kind body outputPath titled := by
  constructor
  · rintro rfl
    rw [resolveTitle]
    cases declared : fm.title? with
    | some title => exact .frontMatter (declaresTitle_iff.mp declared)
    | none =>
      have undeclared := not_declaresTitle_iff.mp declared
      by_cases markdown : kind = .markdown
      · simp only [markdown, if_true]
        cases found : Markdown.headline? body with
        | none => exact .fileName undeclared (fun _ => headline_eq_none.mp found) (fileTitle_iff.mp rfl)
        | some found' =>
          obtain ⟨heading, heads, rfl⟩ := headline_eq_some.mp found
          exact .heading undeclared rfl heads
      · simp only [markdown, if_false]
        exact .fileName undeclared (fun same => absurd same markdown) (fileTitle_iff.mp rfl)
  · rintro (declared | ⟨undeclared, rfl, heads⟩ | ⟨undeclared, headless, named⟩)
    · rw [resolveTitle, declaresTitle_iff.mpr declared]
    · rw [resolveTitle, not_declaresTitle_iff.mpr undeclared]
      simp only [if_true, headline_eq_some.mpr ⟨_, heads, rfl⟩]
    · rw [resolveTitle, not_declaresTitle_iff.mpr undeclared, fileTitle_iff.mpr named]
      have none : (if kind = .markdown then Markdown.headline? body else none) = none := by
        split
        next markdown => exact headline_eq_none.mpr (headless markdown)
        · rfl
      rw [none]

/-- A title is not empty, wherever it comes from. -/
theorem TitledBy.ne_nil (found : TitledBy fm kind body outputPath titled) : titled.title ≠ [] := by
  cases found with
  | frontMatter declared =>
    obtain ⟨value, -, -, filled⟩ := declared
    rintro rfl
    cases filled
  | heading undeclared markdown heads =>
    obtain ⟨before, after, -, filled, -⟩ := heads
    intro empty
    rw [trim_eq_nil.mp empty] at filled
    cases filled
  | fileName undeclared headless named => exact named.ne_nil

/-- Only a heading is taken out of the text that it names. -/
theorem TitledBy.body_eq (found : TitledBy fm kind body outputPath titled) (other : titled.origin ≠ .heading) :
    titled.body = body := by
  cases found with
  | frontMatter declared => rfl
  | heading undeclared markdown heads => exact absurd rfl other
  | fileName undeclared headless named => rfl

end DocSite.Page

namespace DocSite.Site

open Page (FrontMatter Kind Record TitledBy Titled resolveTitle)

/-- Every page has one title: what its front matter declares, else the first heading of a Markdown text that shows
something, else the name of its file. It is not empty, and the text of the page is left as it is unless the title is
a heading of it. So a page has a title whatever file it is read of. -/
theorem titled_pages :
    (∀ (fm : FrontMatter) (kind : Kind) (body outputPath : Text),
      (∀ titled, resolveTitle fm kind body outputPath = titled ↔ TitledBy fm kind body outputPath titled) ∧
      (resolveTitle fm kind body outputPath).title ≠ [] ∧
      ((resolveTitle fm kind body outputPath).origin ≠ .heading →
        (resolveTitle fm kind body outputPath).body = body)) ∧
    ∀ (reader : PageReader) (files : FileTree) (kept : Kept) (path : Path) (page : Record),
      (reader.read files kept path).page = .ok (some page) → page.title ≠ [] := by
  refine ⟨fun fm kind body outputPath => ?_, fun reader files kept path page read => ?_⟩
  · have found : TitledBy fm kind body outputPath (resolveTitle fm kind body outputPath) :=
      Page.resolveTitle_iff.mp rfl
    exact ⟨fun titled => Page.resolveTitle_iff, found.ne_nil, found.body_eq⟩
  · obtain ⟨text, body, -, -, -, -, title, -⟩ := exists_text_of_read read
    rw [title]
    exact (Page.resolveTitle_iff.mp rfl).ne_nil

/-- A page whose title and first heading are blank. -/
def blankFiles : FileTree where
  entries :=
    [(["docs".toList], .directory),
     (["docs".toList, "index.md".toList], .file (.text "---\ntitle: ' '\n---\n# \n\nText\n".toList))]
  home := []

def blankSite : Site := .create .standard .empty Layouts.builtin.engine .standard

theorem blank_page_is_titled :
    ∃ page, (blankSite.reader.read blankFiles [] ⟨"docs/index.md".toList⟩).page = .ok (some page) ∧
      page.frontMatter.string? "title".toList = some [' '] ∧ page.title = "index".toList ∧ page.title ≠ [] := by
  have titles : ((blankSite.reader.read blankFiles [] ⟨"docs/index.md".toList⟩).page.toOption.join).map
      (fun page => (page.frontMatter.string? "title".toList, page.title)) =
        some (some [' '], "index".toList) := by decide +kernel
  obtain ⟨page, read, same⟩ := Option.map_eq_some_iff.mp titles
  obtain ⟨declared, title⟩ := Prod.mk.inj same
  have found : (blankSite.reader.read blankFiles [] ⟨"docs/index.md".toList⟩).page = .ok (some page) :=
    reading_of_join read
  exact ⟨page, found, declared, title, titled_pages.2 _ _ _ _ page found⟩

end DocSite.Site
