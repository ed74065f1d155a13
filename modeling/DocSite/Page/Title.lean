/-
# DocSite.Page.Title -- the title of a page

The title is the first of these: what the front matter says, the first heading of a Markdown
text, which is then taken out of it, and the name of the page's file.
-/
import DocSite.Markdown.Headline
import DocSite.Page.FrontMatter
import DocSite.Page.Kind

set_option autoImplicit false

namespace DocSite.Page

/-- Where a title comes from. -/
inductive TitleOrigin where
  | frontMatter
  | heading
  | fileName
deriving DecidableEq, Repr

/-- A title, where it comes from, and the text of the page without it. -/
structure Titled where
  title : Text
  origin : TitleOrigin
  body : Text
deriving DecidableEq, Repr

/-- The title that a file name makes. -/
def fileTitle (outputPath : Text) : Text :=
  ((Path.stem? ⟨outputPath⟩).filter fun stem => !stem.isEmpty).getD "Untitled".toList

/-- The title of a page. -/
def resolveTitle (fm : FrontMatter) (kind : Kind) (body outputPath : Text) : Titled :=
  match fm.title? with
  | some title => ⟨title, .frontMatter, body⟩
  | none =>
    match if kind = .markdown then Markdown.headline? body else none with
    | some (title, span) =>
      ⟨title, .heading, Markdown.cut body (Markdown.wholeLines body span)⟩
    | none => ⟨fileTitle outputPath, .fileName, body⟩

end DocSite.Page
