/-
# DocSite.Command.Program -- the program as a whole

The program follows a command line and tells by its exit code what came of it: 0 for success, 1 if
the command failed, 2 if the command line was misused.
-/
import DocSite.Command.Line
import DocSite.Command.Scaffold
import DocSite.Watch.Session

set_option autoImplicit false

namespace DocSite.Command

/-- The exit code of a command line that is not followed. -/
def Refusal.exitCode : Refusal → Nat
  | answered => 0
  | misused => 2

/-- The exit code of a command. -/
def exitCode {α : Type} : Except Failure α → Nat
  | .ok _ => 0
  | .error _ => 1

/-- Does a task with a configuration file. Watching comes down to its first build, since nothing
changes here. -/
def perform (file : Path) (task : Task) (files : FileTree) : FileTree × Except Failure Unit :=
  match task with
  | .init overwrite => init file overwrite files
  | .build output => build file output files
  | .watch output =>
    let (files, session) := Watch.Session.start file output files
    (files, session.map fun _ => ())

/-- Follows a command line. -/
def run (words : List Text) (files : FileTree) : FileTree × Nat :=
  match Line.ofWords words with
  | .error refusal => (files, refusal.exitCode)
  | .ok line =>
    let (files, result) := perform line.config line.task files
    (files, exitCode result)

end DocSite.Command
