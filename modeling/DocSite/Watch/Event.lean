/-
# DocSite.Watch.Event -- what happens to files

A watcher reports what it has seen at a path. What that comes to is decided by what is there when the
report is looked at: a file that is still there has changed, one that is not has been removed, and
directories do not matter. Of equal events in quick succession only the first is passed on.
-/
import DocSite.FileTree

set_option autoImplicit false

namespace DocSite.Watch

/-- What a watcher has seen. -/
inductive Sight where
  | created
  | modified
  | removed
  | accessed
  | unspecified
  | other
deriving DecidableEq, Repr

/-- What a watcher has seen at a path. -/
structure Report where
  sight : Sight
  path : Path
deriving DecidableEq, Repr

/-- What happened to a file. -/
inductive Event where
  | changed (path : Path)
  | removed (path : Path)
deriving DecidableEq, Repr

/-- The path of an event. -/
def Event.path : Event → Path
  | changed path => path
  | removed path => path

/-- What a report comes to, given the files that are there by now. -/
def Report.event? (files : FileTree) (report : Report) : Option Event :=
  match report.sight with
  | .created | .modified =>
    if files.isDirectory report.path then none
    else if files.exists? report.path then some (.changed report.path)
    else some (.removed report.path)
  | .removed => some (.removed report.path)
  | .accessed | .unspecified | .other => none

/-! ## Equal events in quick succession -/

/-- How long an event is not passed on again, in milliseconds. -/
def quietTime : Nat := 100

/-- The event passed on last, and when. -/
structure Debounce where
  last : Option (Event × Nat)
deriving DecidableEq, Repr

namespace Debounce

/-- Nothing has been passed on. -/
def start : Debounce := ⟨none⟩

/-- Whether an event at a time repeats the one passed on last. -/
def repeats (now : Nat) (event : Event) (d : Debounce) : Bool :=
  match d.last with
  | some (previous, time) => previous == event && now < time + quietTime
  | none => false

/-- Looks at an event at a time, and passes it on unless it repeats the last one. -/
def step (now : Nat) (event : Event) (d : Debounce) : Debounce × Option Event :=
  if d.repeats now event then (d, none) else (⟨some (event, now)⟩, some event)

/-- The events passed on out of a sequence with times. -/
def run (d : Debounce) : List (Nat × Event) → List Event
  | [] => []
  | (now, event) :: rest =>
    let (d, passed) := d.step now event
    passed.toList ++ run d rest

end Debounce

end DocSite.Watch
