/-
# DocSite.Watch.Pipeline -- from a file that is written to the file that is read

Between a file and a session there are two queues. Whoever writes a file causes a report of it. A watcher
looks at the reports one after the other, and passes on the events that they come to, unless one repeats
the last. The session handles these events one after the other, and reads files as it does. When each of
this happens is not theirs to say: it comes as a list of moves.
-/
import DocSite.Watch.Change

set_option autoImplicit false

namespace DocSite.Watch

/-- What can happen next: a file is written, a change at a path is reported once more, time passes, the
watcher looks at a report, or the session handles an event. -/
inductive Move where
  | write (place : List Text) (content : Content)
  | echo (path : Path)
  | wait (time : Nat)
  | look
  | handle

/-- Whether an action reads a path: its source, or all that there is. What a source names besides is not
counted. -/
def Action.reads (path : Path) : Action → Bool
  | .reparse source => source == path
  | .rebuild => true
  | .remove _ | .ignore => false

/-- Whether a session reads a path when it handles an event. -/
def Session.reads (session : Session) (event : Event) (path : Path) : Bool :=
  (Action.ofEvent session.site session.config session.output event).reads path

/-- Files, the time, the reports that have not been looked at, what the watcher has passed on last, the
events that have not been handled, and what has been read at each path last. -/
structure Pipeline where
  files : FileTree
  clock : Nat
  reports : List Report
  debounce : Debounce
  events : List Event
  read : Path → Option Entry

namespace Pipeline

/-- All files have been read, and nothing has been reported. -/
def start (files : FileTree) : Pipeline := ⟨files, 0, [], .start, [], files.entryAt?⟩

/-- Whether all reports have been looked at and all events have been handled. -/
def isQuiet (pipeline : Pipeline) : Bool := pipeline.reports.isEmpty && pipeline.events.isEmpty

/-- Writes a file. -/
def write (scope : List Path) (place : List Text) (content : Content) (pipeline : Pipeline) :
    Pipeline :=
  let change := Change.write place content
  { pipeline with
    files := change.apply pipeline.files
    reports := pipeline.reports ++ change.reports pipeline.files scope }

/-- Looks at the first report. -/
def look (pipeline : Pipeline) : Pipeline :=
  match pipeline.reports with
  | [] => pipeline
  | report :: rest =>
    match report.event? pipeline.files with
    | none => { pipeline with reports := rest }
    | some event =>
      let (debounce, passed) := pipeline.debounce.step pipeline.clock event
      { pipeline with
        reports := rest
        debounce := debounce
        events := pipeline.events ++ passed.toList }

/-- Handles the first event. -/
def handle (session : Session) (pipeline : Pipeline) : Pipeline :=
  match pipeline.events with
  | [] => pipeline
  | event :: rest =>
    { pipeline with
      events := rest
      read := fun path =>
        if session.reads event path then pipeline.files.entryAt? path else pipeline.read path }

/-- Makes a move, for a session that watches some paths. -/
def step (session : Session) (scope : List Path) (pipeline : Pipeline) : Move → Pipeline
  | .write place content => pipeline.write scope place content
  | .echo path => { pipeline with reports := pipeline.reports ++ [⟨.modified, path⟩] }
  | .wait time => { pipeline with clock := pipeline.clock + time }
  | .look => pipeline.look
  | .handle => pipeline.handle session

/-- Makes one move after the other. -/
def run (session : Session) (scope : List Path) (pipeline : Pipeline) (moves : List Move) : Pipeline :=
  moves.foldl (step session scope) pipeline

/-- What comes of some moves for a session that watches what there is, when all files have been read. -/
def follow (session : Session) (files : FileTree) (moves : List Move) : Pipeline :=
  (start files).run session (Session.scope files session.config) moves

end Pipeline

end DocSite.Watch
