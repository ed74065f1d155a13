/-
# DocSite.Command.Build -- building a project, and why commands fail

All pages that can be read and rendered are written, even if others fail. The command fails if any
page did.
-/
import DocSite.Config

set_option autoImplicit false

namespace DocSite.Command

open Text
open Site (BuildError BuildReport OutputReport)

/-- Why a command fails. -/
inductive Failure where
  | config (error : Config.LoadError)
  | build (error : Site.BuildError)
  | pages (failed all : Nat)
  | uncreated (directory : Path)
  | unwritten (file : Path)
  | noOutput
deriving DecidableEq, Repr

/-- The text of a failure. -/
def Failure.message : Failure → Text
  | config error => error.message
  | build error => error.message
  | pages failed all =>
    NumberLayout.ofNat failed ++ " of ".toList ++ NumberLayout.ofNat all ++ " pages failed".toList
  | uncreated directory => "Failed to create ".toList ++ directory.text
  | unwritten file => "Failed to write ".toList ++ file.text
  | noOutput => "Failed to resolve output directory".toList

/-! ## Builds -/

/-- Reads all sources of a site into it, and writes its pages below a directory. -/
def buildSite (directory : Path) (files : FileTree) (site : Site) :
    Site × FileTree × Except BuildError (BuildReport × OutputReport) :=
  match site.discover files with
  | .error e => (site, files, .error e)
  | .ok paths =>
    let (site, report) := site.build files paths
    let (site, files, written) := site.writeOutput directory files
    (site, files, written.map fun written => (report, written))

/-- What a build comes to: it fails if any page was not read or not rendered. -/
def verdict (report : BuildReport) (written : OutputReport) : Except Failure Unit :=
  let failed := report.failures.length + written.failures.length
  if failed = 0 then .ok () else .error (.pages failed (report.pages + report.failures.length))

/-- Builds the project of a configuration file, into `output` if that is given. -/
def build (file : Path) (output : Option Path) (files : FileTree) :
    FileTree × Except Failure Unit :=
  match Config.load files file with
  | .error e => (files, .error (.config e))
  | .ok config =>
    let directory := output.getD config.outputDirectory
    match buildSite directory files (config.openSite files) with
    | (_, files, .error e) => (files, .error (.build e))
    | (_, files, .ok (report, written)) => (files, verdict report written)

end DocSite.Command
