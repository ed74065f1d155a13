/-
# DocSite.Site.Layouts -- the layouts of a site

A site has layouts of its own, the files of a directory, and built-in ones for the names `base.html`,
`nav.html` and `default.html` that the directory lacks. A file of the directory is read when it is
asked for, and what has been read is kept.
-/
import DocSite.FileTree
import DocSite.Template.Reader
import DocSite.Template.Render

set_option autoImplicit false

namespace DocSite.Site

open Text
open Template (Document Found)

/-! ## Built-in layouts -/

/-- The text of lines. -/
def linesText (lines : List String) : Text := join ['\n'] (lines.map String.toList)

/-- The frame of a page: its head, the navigation and a block for what it shows. -/
def baseLayout : Text := linesText [
  "<!DOCTYPE html>",
  "<html lang=\"en\">",
  "<head>",
  "  <meta charset=\"utf-8\">",
  "  <meta name=\"viewport\" content=\"width=device-width, initial-scale=1\">",
  "  <title>\x7b\x7b page.title \x7d\x7d\x7b% if site.title %\x7d - \x7b\x7b site.title \x7d\x7d\x7b% endif %\x7d</title>",
  "  \x7b% for style in site.styles %\x7d<link rel=\"stylesheet\" href=\"\x7b\x7b style \x7d\x7d\">",
  "  \x7b% endfor %\x7d",
  "</head>",
  "<body>",
  "  <div class=\"layout\">",
  "    <nav class=\"sidebar\">",
  "      \x7b% include \"nav.html\" %\x7d",
  "    </nav>",
  "    <main class=\"main\">",
  "      \x7b% block content %\x7d\x7b% endblock %\x7d",
  "    </main>",
  "  </div>",
  "  \x7b% for script in site.scripts %\x7d<script src=\"\x7b\x7b script \x7d\x7d\"></script>",
  "  \x7b% endfor %\x7d",
  "</body>",
  "</html>"]

/-- The navigation: pages by group. -/
def navLayout : Text := linesText [
  "<div class=\"nav-header\">",
  "  <a href=\"\x7b\x7b site.base_url or \"/\" \x7d\x7d\" class=\"nav-logo\">\x7b\x7b site.title or \"Documentation\" \x7d\x7d</a>",
  "</div>",
  "\x7b% for group in site.groups %\x7d",
  "<div class=\"nav-group\">",
  "  \x7b% if group.name %\x7d<h2 class=\"nav-group-title\">\x7b\x7b group.name \x7d\x7d</h2>\x7b% endif %\x7d",
  "  <ul class=\"nav-list\">",
  "  \x7b% for item in group.pages %\x7d",
  "    <li class=\"nav-item\x7b% if item.output_path == page.output_path %\x7d active\x7b% endif %\x7d\">",
  "      <a href=\"\x7b\x7b site.base_url or \"/\" \x7d\x7d\x7b\x7b item.output_path \x7d\x7d\">\x7b\x7b item.title \x7d\x7d</a>",
  "    </li>",
  "  \x7b% endfor %\x7d",
  "  </ul>",
  "</div>",
  "\x7b% endfor %\x7d"]

/-- The layout of pages that name none: the text of the page and its documentation. -/
def defaultLayout : Text := linesText [
  "\x7b% extends \"base.html\" %\x7d",
  "",
  "\x7b% block content %\x7d",
  "<article class=\"doc\">",
  "  <h1>\x7b\x7b page.title \x7d\x7d</h1>",
  "  <div class=\"content\">",
  "    \x7b\x7b page.body | safe \x7d\x7d",
  "  </div>",
  "</article>",
  "",
  "\x7b% for adapter, kinds in page.docs | items %\x7d\x7b% if kinds is mapping %\x7d",
  "<section class=\"docs docs-\x7b\x7b adapter \x7d\x7d\">",
  "\x7b% for kind, doclets in kinds | items %\x7d\x7b% if doclets %\x7d",
  "  <h2 id=\"\x7b\x7b adapter \x7d\x7d-\x7b\x7b kind \x7d\x7d\">\x7b\x7b kind | title \x7d\x7d</h2>",
  "  \x7b% for doclet in doclets %\x7d",
  "  \x7b% set label = doclet.name if doclet.name is defined else (doclet.context.name if doclet.context is defined else kind) %\x7d",
  "  <article class=\"doclet doclet-\x7b\x7b kind \x7d\x7d\" id=\"\x7b\x7b adapter \x7d\x7d-\x7b\x7b kind \x7d\x7d-\x7b\x7b helpers.slugify(label) \x7d\x7d\">",
  "    <h3><code>\x7b\x7b label \x7d\x7d</code></h3>",
  "    \x7b% if doclet.description %\x7d\x7b\x7b helpers.markdown(doclet.description) | safe \x7d\x7d\x7b% endif %\x7d",
  "  </article>",
  "  \x7b% endfor %\x7d",
  "\x7b% endif %\x7d\x7b% endfor %\x7d",
  "</section>",
  "\x7b% endif %\x7d\x7b% endfor %\x7d",
  "\x7b% endblock %\x7d"]

/-- The built-in layouts by file name. -/
def builtinLayouts : List (Text × Text) :=
  [("base.html".toList, baseLayout), ("nav.html".toList, navLayout),
    ("default.html".toList, defaultLayout)]

/-! ## Layouts -/

/-- The layouts of a site: those given by name, and the directory with others. -/
structure Layouts where
  given : List (Text × Document)
  directory : Option Path

/-- Layouts that have been read from the directory. -/
abbrev Kept := List (Text × Document)

/-- The file name of a layout; a name with an extension is one. -/
def layoutName (layout : Text) : Text :=
  if (Path.extension? ⟨layout⟩).isSome then layout else layout ++ ".html".toList

namespace Layouts

/-- Built-in layouts, those of some names left out. -/
def builtinExcept (skip : Text → Bool) : List (Text × Document) :=
  builtinLayouts.filterMap fun (name, source) =>
    if skip name then none else (Template.read? source).map (name, ·)

/-- The built-in layouts alone. -/
def builtin : Layouts := ⟨builtinExcept fun _ => false, none⟩

/-- The layouts of a directory, with the built-in ones that it lacks. -/
def ofDirectory (tree : FileTree) (directory : Path) : Layouts :=
  ⟨builtinExcept fun name => tree.isFile (directory.join ⟨name⟩), some directory⟩

/-- Adds a layout in place of the one of its name, if it is well-formed. -/
def add? (layout source : Text) (layouts : Layouts) : Option Layouts :=
  (Template.read? source).map fun template =>
    { layouts with given := (layoutName layout, template) :: layouts.given }

/-- The path of a layout below a directory. No part of its name begins with a dot. -/
def pathIn? (directory : Path) (name : Text) : Option Path :=
  (splitOn '/' name).foldlM
    (fun path piece =>
      if piece.head? = some '.' || piece.contains '\\' then none else some (path.join ⟨piece⟩))
    directory

/-- What a directory holds under the name of a layout. A name that leads through a file is not
missing but malformed, and so is one that no file can have. -/
def findIn (tree : FileTree) (directory : Path) (name : Text) : Found :=
  match pathIn? directory name with
  | none => .missing
  | some path =>
    if name.contains '\x00' || tree.isBlocked path then .malformed
    else if !tree.exists? path then .missing
    else match (tree.readText? path).bind Template.read? with
      | some template => .template template
      | none => .malformed

/-- What is found under the name of a layout. -/
def find (tree : FileTree) (layouts : Layouts) (kept : Kept) (name : Text) : Found :=
  match layouts.given.lookup name with
  | some template => .template template
  | none =>
    match kept.lookup name with
    | some template => .template template
    | none =>
      match layouts.directory with
      | some directory => findIn tree directory name
      | none => .missing

/-- Keeps the layouts of some names that the directory has. -/
def keep (tree : FileTree) (layouts : Layouts) (names : List Text) (kept : Kept) : Kept :=
  match layouts.directory with
  | none => kept
  | some directory =>
    names.foldl
      (fun kept name =>
        if (layouts.given.lookup name).isSome || (kept.lookup name).isSome then kept
        else match findIn tree directory name with
          | .template template => (name, template) :: kept
          | _ => kept)
      kept

end Layouts

end DocSite.Site
