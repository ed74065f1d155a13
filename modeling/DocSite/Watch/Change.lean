/-
# DocSite.Watch.Change -- changes of files and the reports they cause

A watcher looks at directories with all that is below them. It reports a change under the path by
which it watches the directory; if it watches one under several paths, the last of them counts. A file
that moves is reported at its old path, at its new path, and then at both again.
-/
import DocSite.Watch.Session

set_option autoImplicit false

namespace DocSite.Watch

/-- A change of files, at places below the root. -/
inductive Change where
  | write (place : List Text) (content : Content)
  | delete (place : List Text)
  | move (place target : List Text)
  | makeDirectory (place : List Text)

/-- The path by which a watcher of some paths reports a place. -/
def reportPath? (files : FileTree) (scope : List Path) (place : List Text) : Option Path :=
  (scope.filterMap fun watched =>
    (files.locate? watched).bind fun top =>
      if top = place then some watched
      else if top.isPrefixOf place then
        some (watched.join ⟨Text.join ['/'] (place.drop top.length)⟩)
      else none).getLast?

namespace Change

/-- The files after a change. What cannot be done leaves them as they are. -/
def apply (files : FileTree) : Change → FileTree
  | write place content => (files.writeWithDirectories? place content).getD files
  | delete place => files.remove place
  | move place target => files.move place target
  | makeDirectory place => (files.makeDirectory? place).getD files

/-- The reports that a change of files causes. -/
def reports (files : FileTree) (scope : List Path) (change : Change) : List Report :=
  let reported (sight : Sight) (place : List Text) : List Report :=
    ((reportPath? files scope place).map fun path => ⟨sight, path⟩).toList
  let isThere (place : List Text) : Bool := (files.lookup place).isSome
  match change with
  | .write place _ => reported .modified place
  | .delete place => if isThere place then reported .removed place else []
  | .move place target =>
    if isThere place then
      let old := reported .modified place
      let new := reported .modified target
      old ++ new ++ if old.isEmpty || new.isEmpty then [] else old ++ new
    else []
  | .makeDirectory place => if isThere place then [] else reported .created place

/-- The changes that make one tree of files another: what is new or differs, and the files that are
gone. -/
def between (old new : FileTree) : List Change :=
  let gone := old.entries.filterMap fun (place, entry) =>
    match entry, new.lookup place with
    | .file _, none => some (delete place)
    | _, _ => none
  let come := new.entries.filterMap fun (place, entry) =>
    if old.lookup place = some entry then none
    else match entry with
      | .file content => some (write place content)
      | .directory => some (makeDirectory place)
  gone ++ come

end Change

/-- Makes a change, and lets a session heed the reports. -/
def Session.follow (scope : List Path) (change : Change) (session : Session) (files : FileTree) :
    Session × FileTree :=
  (change.reports files scope).foldl
    (fun (session, files) report => session.heed report files) (session, change.apply files)

end DocSite.Watch
