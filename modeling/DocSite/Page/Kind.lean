/-
# DocSite.Page.Kind -- how a page source is turned into output

The extension of a source decides whether its text is Markdown, a template, or kept as it is.
-/
import DocSite.Path
import DocSite.Text.Case

set_option autoImplicit false

namespace DocSite.Page

/-- How the text of a page becomes output. -/
inductive Kind where
  | markdown
  | template
  | verbatim
deriving DecidableEq, Repr

namespace Kind

/-- The kind of sources with an extension, which is given without its dot. Case does not count. -/
def ofExtension (extension : Text) : Kind :=
  let folded := Text.toLower extension
  if folded = "md".toList || folded = "markdown".toList then markdown
  else if folded = "jinja".toList || folded = "j2".toList then template
  else verbatim

/-- The kind of the source at a path. -/
def ofPath (path : Path) : Kind :=
  match path.extension? with
  | some extension => ofExtension extension
  | none => verbatim

end Kind

end DocSite.Page
