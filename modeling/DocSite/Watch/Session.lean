/-
# DocSite.Watch.Session -- keeping a site up to date

A session begins with a build. After that each event at a file leads to an action: a page source is
read again or its page dropped, and all pages are written anew; anything else that is watched, such as
a layout, makes the whole site be built again. What lies in the output directory does not count, nor
what is no page source below the page root. Failures leave things as they are.
-/
import DocSite.Command.Build
import DocSite.Watch.Event

set_option autoImplicit false

namespace DocSite.Watch

open Command (Failure buildSite)

/-- What an event requires. -/
inductive Action where
  | reparse (source : Path)
  | remove (source : Path)
  | rebuild
  | ignore
deriving DecidableEq, Repr

/-- What an event requires of a site that is written to a directory. -/
def Action.ofEvent (site : Site) (config : Config) (output : Path) (event : Event) : Action :=
  if output.isWithin event.path then .ignore
  else if config.pageRoot.isWithin event.path then
    if !site.isPageSource event.path then .ignore
    else match event with
      | .changed path => .reparse path
      | .removed path => .remove path
  else .rebuild

/-- A site that is kept up to date, its configuration and where it is written to. -/
structure Session where
  config : Config
  output : Path
  site : Site

namespace Session

/-- The paths that are watched, as far as there is anything: the page root, the layouts and what the
configuration adds. -/
def scope (files : FileTree) (config : Config) : List Path :=
  (config.pageRoot :: config.layoutsDirectory :: config.watchedPaths).filter files.exists?

/-- Begins a session for a configuration file, with output to `output` if that is given. Pages that
fail do not matter. -/
def start (file : Path) (output : Option Path) (files : FileTree) :
    FileTree × Except Failure Session :=
  match Config.load files file with
  | .error e => (files, .error (.config e))
  | .ok config =>
    match (output.getD config.outputDirectory).absolute? (FileTree.pathOf files.home) with
    | none => (files, .error .noOutput)
    | some output =>
      match buildSite output files (config.openSite files) with
      | (_, files, .error e) => (files, .error (.build e))
      | (site, files, .ok _) => (files, .ok ⟨config, output, site⟩)

/-- Writes all pages anew. -/
def writePages (session : Session) (files : FileTree) : Session × FileTree :=
  let (site, files, _) := session.site.writeOutput session.output files
  ({ session with site := site }, files)

/-- Reads a source again, and writes all pages if there is a page. -/
def reparse (source : Path) (session : Session) (files : FileTree) : Session × FileTree :=
  let (site, outcome) := session.site.parse files source .incremental
  let session := { session with site := site }
  match outcome with
  | .ok (.stored _ _) => session.writePages files
  | _ => (session, files)

/-- Drops the page of a source with its file, and writes all other pages. -/
def remove (source : Path) (session : Session) (files : FileTree) : Session × FileTree :=
  let (site, removed) := session.site.remove source
  let session := { session with site := site }
  match removed with
  | none => (session, files)
  | some page => session.writePages (files.removeFile (session.output.join ⟨page.outputPath⟩))

/-- Builds the site from the beginning. -/
def rebuild (session : Session) (files : FileTree) : Session × FileTree :=
  let (site, files, _) := buildSite session.output files (session.config.openSite files)
  ({ session with site := site }, files)

/-- Does what an action says. -/
def perform (session : Session) (files : FileTree) : Action → Session × FileTree
  | .reparse source => session.reparse source files
  | .remove source => session.remove source files
  | .rebuild => session.rebuild files
  | .ignore => (session, files)

/-- Does what an event requires. -/
def handle (event : Event) (session : Session) (files : FileTree) : Session × FileTree :=
  session.perform files (.ofEvent session.site session.config session.output event)

/-- Does what a report requires, if it comes to an event. -/
def heed (report : Report) (session : Session) (files : FileTree) : Session × FileTree :=
  match report.event? files with
  | some event => session.handle event files
  | none => (session, files)

end Session

end DocSite.Watch
