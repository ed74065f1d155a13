/-
# DocSite.Config -- the configuration of a project

A configuration file has a table for each part of a project, all of them optional, and so is
everything in them. What is not known is passed over; what does not fit is refused. Relative paths are
followed from the directory of the file.
-/
import DocSite.Toml.Reader
import DocSite.Toml.Reserved
import DocSite.Site.Project

set_option autoImplicit false

namespace DocSite

open Text

/-- The sources of pages, and the pages made of them. -/
structure Config.Pages where
  root : Path
  extension : Text
  sources : List Text
  concurrency : Nat

/-- Where pages are written, and whether with their front matter. -/
structure Config.Output where
  directory : Path
  keepFrontMatter : Bool

/-- The layouts. -/
structure Config.Theme where
  layouts : Path
  defaultLayout : Text

/-- Where documented sources are looked for, and the adapters for them. -/
structure Config.Adapters where
  base : Path
  enabled : List Text

/-- A configuration: the directory it applies to and what is chosen in it. The paths are as they
were written. -/
structure Config where
  base : Path
  pages : Config.Pages
  output : Config.Output
  theme : Config.Theme
  adapters : Config.Adapters
  watched : List Path
  site : Toml.Entries

namespace Config

/-! ## What is chosen if nothing else is -/

/-- Pages, unless chosen otherwise. -/
def Pages.standard : Pages :=
  ⟨⟨"docs".toList⟩, "html".toList, Site.Settings.standard.sources, Site.Settings.standard.concurrency⟩

/-- Output, unless chosen otherwise. -/
def Output.standard : Output := ⟨⟨"dist".toList⟩, false⟩

/-- Layouts, unless chosen otherwise. -/
def Theme.standard : Theme := ⟨⟨"layouts".toList⟩, "default".toList⟩

/-- Adapters, unless chosen otherwise. -/
def Adapters.standard : Adapters := ⟨⟨['.']⟩, ["sass".toList, "js".toList]⟩

/-- The configuration of a directory without a configuration file. -/
def standard (base : Path) : Config := ⟨base, .standard, .standard, .standard, .standard, [], []⟩

/-! ## Reading -/

/-- The text of a value. -/
def text? : Toml.Value → Option Text
  | .string t => some t
  | _ => none

/-- The path that a value gives. -/
def path? (value : Toml.Value) : Option Path := (text? value).map Path.mk

/-- The truth value of a value. -/
def bool? : Toml.Value → Option Bool
  | .bool b => some b
  | _ => none

/-- The count that a value gives. -/
def count? : Toml.Value → Option Nat
  | .integer n => if n < 0 then none else some n.toNat
  | _ => none

/-- The items of a list, if all of them are of a kind. -/
def list? {α : Type} (read? : Toml.Value → Option α) : Toml.Value → Option (List α)
  | .array items => items.mapM read?
  | _ => none

/-- The entries of a table that may hold anything. A date is a table of one entry. -/
def entries? : Toml.Value → Option Toml.Entries
  | .table entries => some entries
  | .moment m => some [(Toml.momentField, .string m.text)]
  | _ => none

/-- The entries of a table with known names. A list gives them in the order of the names. -/
def fields? (names : List String) : Toml.Value → Option Toml.Entries
  | .array items => some ((names.map String.toList).zip items)
  | value => entries? value

/-- What is chosen under a name, or what is chosen if there is nothing. -/
def chosen? {α : Type} (entries : Toml.Entries) (name : String) (read? : Toml.Value → Option α)
    (otherwise : α) : Option α :=
  match entries.lookup name.toList with
  | none => some otherwise
  | some value => read? value

/-- Reads the table of pages. -/
def Pages.ofValue? (value : Toml.Value) : Option Pages := do
  let entries ← fields? ["root", "extension", "sources", "concurrency"] value
  let root ← chosen? entries "root" path? standard.root
  let extension ← chosen? entries "extension" text? standard.extension
  let sources ← chosen? entries "sources" (list? text?) standard.sources
  let concurrency ← chosen? entries "concurrency" count? standard.concurrency
  return ⟨root, extension, sources, concurrency⟩

/-- Reads the table of output. -/
def Output.ofValue? (value : Toml.Value) : Option Output := do
  let entries ← fields? ["dir", "keep_front_matter"] value
  let directory ← chosen? entries "dir" path? standard.directory
  let keepFrontMatter ← chosen? entries "keep_front_matter" bool? standard.keepFrontMatter
  return ⟨directory, keepFrontMatter⟩

/-- Reads the table of layouts. -/
def Theme.ofValue? (value : Toml.Value) : Option Theme := do
  let entries ← fields? ["layouts", "default_layout"] value
  let layouts ← chosen? entries "layouts" path? standard.layouts
  let defaultLayout ← chosen? entries "default_layout" text? standard.defaultLayout
  return ⟨layouts, defaultLayout⟩

/-- Reads the table of adapters. -/
def Adapters.ofValue? (value : Toml.Value) : Option Adapters := do
  let entries ← fields? ["base_dir", "enabled"] value
  let base ← chosen? entries "base_dir" path? standard.base
  let enabled ← chosen? entries "enabled" (list? text?) standard.enabled
  return ⟨base, enabled⟩

/-- Reads the table of what is watched. -/
def watched? (value : Toml.Value) : Option (List Path) := do
  let entries ← fields? ["paths"] value
  chosen? entries "paths" (list? path?) []

/-- Reads the tables of a configuration file. -/
def ofEntries? (base : Path) (entries : Toml.Entries) : Option Config := do
  let pages ← chosen? entries "pages" Pages.ofValue? .standard
  let output ← chosen? entries "output" Output.ofValue? .standard
  let theme ← chosen? entries "theme" Theme.ofValue? .standard
  let adapters ← chosen? entries "adapters" Adapters.ofValue? .standard
  let watched ← chosen? entries "watch" watched? []
  let site ← chosen? entries "site" (fun value => (entries? value).bind Toml.entriesWithMoments?) []
  return ⟨base, pages, output, theme, adapters, watched, site⟩

/-- Why a configuration cannot be had. -/
inductive LoadError where
  | unresolved (directory : Path)
  | unreadable (file : Path)
  | malformed (file : Path)
deriving DecidableEq, Repr

/-- The text of an error. -/
def LoadError.message : LoadError → Text
  | unresolved directory => "Failed to resolve ".toList ++ directory.text
  | unreadable file => "Failed to read ".toList ++ file.text
  | malformed file => "Failed to parse ".toList ++ file.text

/-- The directory that a file lies in, as a path that is not empty. -/
def directoryOf (file : Path) : Path :=
  match file.parent? with
  | some parent => if parent.text.isEmpty then ⟨['.']⟩ else parent
  | none => ⟨['.']⟩

/-- The path of a place that exists, from the root and without detours. -/
def canonical? (files : FileTree) (path : Path) : Option Path :=
  ((files.locate? path).filter fun place => (files.lookup place).isSome).map FileTree.pathOf

/-- The configuration of a file; the standard one for its directory if there is no such file. -/
def load (files : FileTree) (file : Path) : Except LoadError Config :=
  match canonical? files (directoryOf file) with
  | none => .error (.unresolved (directoryOf file))
  | some base =>
    if files.exists? file then
      match files.readText? file with
      | none => .error (.unreadable file)
      | some text =>
        match (Toml.read? text).bind (ofEntries? base) with
        | none => .error (.malformed file)
        | some config => .ok config
    else .ok (standard base)

/-! ## What a configuration gives -/

/-- The page root. -/
def pageRoot (config : Config) : Path := config.base.join config.pages.root

/-- The directory of layouts. -/
def layoutsDirectory (config : Config) : Path := config.base.join config.theme.layouts

/-- The directory that pages are written to. -/
def outputDirectory (config : Config) : Path := config.base.join config.output.directory

/-- The paths that are watched beside sources and layouts. -/
def watchedPaths (config : Config) : List Path := config.watched.map config.base.join

/-- What layouts see of the site. -/
def siteData (config : Config) : Json.Fields := Toml.Value.jsonFields config.site

/-- The settings of the site. -/
def settings (config : Config) : Site.Settings where
  root := config.pageRoot
  extension := config.pages.extension
  sources := config.pages.sources
  concurrency := config.pages.concurrency
  defaultLayout := config.theme.defaultLayout
  keepFrontMatter := config.output.keepFrontMatter
  data := config.siteData

/-- The adapters that are enabled; names that are not known do not count. -/
def registry (config : Config) : Doclet.Registry :=
  let base := config.base.join config.adapters.base
  config.adapters.enabled.foldl
    (fun registry name =>
      if name = "sass".toList then registry.register name (.sass base)
      else if name = "js".toList then registry.register name (.script base)
      else registry)
    .empty

/-- The layouts: those of the directory, if there is one. -/
def layouts (files : FileTree) (config : Config) : Site.Layouts :=
  if files.isDirectory config.layoutsDirectory then .ofDirectory files config.layoutsDirectory
  else .builtin

/-- The site of a configuration, without pages. -/
def openSite (files : FileTree) (config : Config) : Site :=
  .create config.settings config.registry (config.layouts files).engine .standard

end Config

end DocSite
