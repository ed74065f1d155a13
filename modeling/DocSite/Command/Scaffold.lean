/-
# DocSite.Command.Scaffold -- starting a project

A new project gets a configuration file and a few pages and sources beside it. Files that exist are
kept, unless they are to be overwritten.
-/
import DocSite.Command.Build

set_option autoImplicit false

namespace DocSite.Command

open Text

/-- The configuration of a new project. -/
def configText : Text := Site.linesText [
  "# Lectern Configuration",
  "",
  "[pages]",
  "# Source directory for pages",
  "root = \"docs\"",
  "",
  "# Extension of generated pages",
  "extension = \"html\"",
  "",
  "[output]",
  "# Output directory for built site",
  "dir = \"dist\"",
  "",
  "# Prefix each page with its front matter",
  "keep_front_matter = false",
  "",
  "[theme]",
  "# Directory of layout templates; built-in layouts are used when missing",
  "layouts = \"layouts\"",
  "default_layout = \"default\"",
  "",
  "[adapters]",
  "# Directory adapter patterns are resolved against",
  "base_dir = \".\"",
  "enabled = [\"sass\", \"js\"]",
  "",
  "[watch]",
  "# Extra paths that trigger a rebuild in watch mode",
  "paths = [\"src\"]",
  "",
  "[site]",
  "title = \"My Documentation\"",
  ""]

/-- The first page of a new project. -/
def indexText : Text := Site.linesText [
  "---",
  "order: 0",
  "---",
  "",
  "# Welcome",
  "",
  "This is your documentation site, built by **lectern**.",
  "",
  "Start with [Getting Started](getting-started.md).",
  ""]

/-- A page that tells how to go on. -/
def guideText : Text := Site.linesText [
  "---",
  "order: 1",
  "---",
  "",
  "# Getting Started",
  "",
  "Pages are markdown files under `docs/`. A numeric prefix such as `01-` sets",
  "their position in the navigation and is dropped from the output name.",
  "",
  "## Front matter",
  "",
  "```yaml",
  "---",
  "title: Page Title",
  "group: Guides",
  "layout: default",
  "order: 2",
  "docs:",
  "  sass: src/scss/*.scss",
  "---",
  "```",
  "",
  "Without a `title`, the first `# Heading` is used.",
  "",
  "## Building",
  "",
  "```bash",
  "lectern build",
  "```",
  "",
  "Use `lectern watch` to rebuild pages as you edit them.",
  ""]

/-- A page that shows documentation of a style sheet. -/
def buttonText : Text := Site.linesText [
  "---",
  "title: Button",
  "group: Components",
  "docs:",
  "  sass: src/scss/_button.scss",
  "---",
  "",
  "Buttons trigger actions. The mixins and variables below are read from the",
  "stylesheet's doc comments.",
  ""]

/-- A documented style sheet. -/
def styleText : Text := Site.linesText [
  "/// Background of primary buttons.",
  "/// @type Color",
  "$button-primary: #0a7cff !default;",
  "",
  "/// Base button styles.",
  "/// @param \x7bColor\x7d $color [$button-primary] - Background color",
  "@mixin button($color: $button-primary) \x7b",
  "  background: $color;",
  "  border-radius: 4px;",
  "\x7d",
  ""]

/-- The files of a new project with a configuration file. -/
def scaffold (file : Path) : List (Path × Text) :=
  let directory := Config.directoryOf file
  [(file, configText),
    (directory.join ⟨"docs/index.md".toList⟩, indexText),
    (directory.join ⟨"docs/getting-started.md".toList⟩, guideText),
    (directory.join ⟨"docs/components/button.md".toList⟩, buttonText),
    (directory.join ⟨"src/scss/_button.scss".toList⟩, styleText)]

/-- Makes the directories that a file lies in; nothing is missing above a path without a parent. -/
def makeParents (file : Path) (files : FileTree) : Except Failure FileTree :=
  match file.parent? with
  | none => .ok files
  | some parent =>
    match files.makePath parent with
    | .ok files => .ok files
    | .error _ => .error (.uncreated parent)

/-- Writes files one after the other, as long as they can be written. -/
def writeAll (overwrite : Bool) (files : FileTree) :
    List (Path × Text) → FileTree × Except Failure Unit
  | [] => (files, .ok ())
  | (file, text) :: rest =>
    if files.exists? file && !overwrite then writeAll overwrite files rest
    else match makeParents file files with
      | .error e => (files, .error e)
      | .ok files =>
        match files.writeText file text with
        | .error _ => (files, .error (.unwritten file))
        | .ok files => writeAll overwrite files rest

/-- Starts a project with a configuration file. -/
def init (file : Path) (overwrite : Bool) (files : FileTree) : FileTree × Except Failure Unit :=
  writeAll overwrite files (scaffold file)

end DocSite.Command
