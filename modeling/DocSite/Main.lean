/-
# DocSite.Main -- the program

Reads the files a command line can concern, follows it, and writes what has changed. Watching compares
the files with those seen last, again and again, and lets a session heed the changes.
-/
import DocSite.Command.Program
import DocSite.Watch.Change

set_option autoImplicit false

namespace DocSite.Program

open Command (Line Refusal Failure)
open Watch (Session Change)

/-! ## Files -/

/-- The name of a place, as the system takes it. -/
def nameOf (place : List Text) : String := String.ofList (FileTree.pathOf place).text

/-- What a file holds. -/
def readContent (name : String) : IO Content := do
  let bytes ← IO.FS.readBinFile name
  return match String.fromUTF8? bytes with
    | some text => .text text.toList
    | none => .bytes bytes.toList

/-- Takes in what is at a place, with all below it. What cannot be read does not count, and links to
directories are not followed. -/
partial def takeIn (place : List Text) (files : FileTree) : IO FileTree := do
  let name := nameOf place
  try
    if ← (← IO.FS.realPath name).isDir then
      let mut files := (files.makeDirectory? place).getD files
      for entry in ← (← IO.FS.realPath name).readDir do
        if (← entry.path.symlinkMetadata).type != .symlink || !(← entry.path.isDir) then
          files ← takeIn (place ++ [entry.fileName.toList]) files
      return files
    else
      return (files.writeWithDirectories? place (← readContent name)).getD files
  catch _ => return files

/-- The place of the working directory. -/
def here : IO (List Text) := do
  return Path.names (Path.parts ⟨(← IO.currentDir).toString.toList⟩)

/-- The files at some paths. -/
def survey (paths : List Path) : IO FileTree := do
  let home ← here
  let mut files := FileTree.empty home
  files := (files.makeDirectory? home).getD files
  for path in paths do
    let place := (path.parts.foldl (fun place part => match part with
      | .root => []
      | .here => place
      | .up => place.dropLast
      | .name name => place ++ [name]) home)
    files ← takeIn place files
  return files

/-- Makes the files of the system those of a tree, given those it began with. -/
def store (old new : FileTree) : IO Unit := do
  for change in Change.between old new do
    match change with
    | .makeDirectory place => IO.FS.createDirAll (nameOf place)
    | .delete place => IO.FS.removeFile (nameOf place)
    | .write place (.text text) => IO.FS.writeFile (nameOf place) (String.ofList text)
    | .write _ (.bytes _) => pure ()
    | .move _ _ => pure ()

/-! ## Following a command line -/

/-- The paths that a command line can concern: those of its configuration and of its output. -/
def concerned (line : Line) : IO (List Path) := do
  let near : List Path := [⟨['.']⟩, Config.directoryOf line.config]
  let output := match line.task with
    | .init _ => []
    | .build output => output.toList
    | .watch output => output.toList
  match Config.load (← survey near) line.config with
  | .error _ => return near ++ output
  | .ok config =>
    return near ++ output ++ [config.pageRoot, config.layoutsDirectory, config.outputDirectory,
      config.base.join config.adapters.base] ++ config.watchedPaths

/-- What is shown to who asks for help. -/
def usage : String :=
  "Usage: lectern [-c FILE] [-v] init [-y] | build [-o DIR] | watch [-o DIR]"

/-- Says why a command failed. -/
def complain (failure : Failure) : IO Unit :=
  IO.eprintln ("Error: " ++ String.ofList failure.message)

/-- Keeps a site up to date until the program is interrupted. -/
partial def watch (paths scope : List Path) (session : Session) (files : FileTree) : IO Unit := do
  IO.sleep 200
  let seen ← survey paths
  let (session, after) := (Change.between files seen).foldl
    (fun (session, files) change => session.follow scope change files) (session, files)
  store seen after
  watch paths scope session after

/-- Follows a command line, and gives the exit code. -/
def follow (line : Line) : IO Nat := do
  let paths ← concerned line
  let files ← survey paths
  match line.task with
  | .watch output =>
    let (after, started) := Session.start line.config output files
    store files after
    match started with
    | .error failure => complain failure
    | .ok session => watch paths (Session.scope after session.config) session after
    return Command.exitCode started
  | task =>
    let (after, result) := Command.perform line.config task files
    store files after
    if let .error failure := result then complain failure
    return Command.exitCode result

/-- Runs the program with the words of a command line. -/
def run (words : List String) : IO UInt32 := do
  match Line.ofWords (words.map String.toList) with
  | .error refusal =>
    if refusal = .answered then IO.println usage else IO.eprintln usage
    return UInt32.ofNat refusal.exitCode
  | .ok line => return UInt32.ofNat (← follow line)

end DocSite.Program

def main (words : List String) : IO UInt32 := DocSite.Program.run words
