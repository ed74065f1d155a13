/-
# DocSite.Site.Buffered -- sources that are read side by side

A build begins to read its sources in the order given, and reads several of them at a time. They are
done in any order, but what was read of a source is taken only after that of all sources before it.
Which source is done next is not the build's to say: it comes as a list of moves.
-/
import DocSite.Site.Project

set_option autoImplicit false

namespace DocSite.Site

open Page (Record)

/-- A source that is being read, and what was read of it once that is done. -/
structure ReadingTask where
  path : Path
  result : Option (Except PageError (Option Record))

/-- Sources that are read side by side: those not yet begun, those that have been begun, what has been
taken, and the layouts that are kept. -/
structure Readings where
  waiting : List Path
  tasks : List ReadingTask
  taken : List (Except PageError (Option Record))
  kept : Kept

/-- What can happen next: a source is begun, one that has been begun is done, or the result of the first
one is taken. -/
inductive ReadingMove where
  | begin
  | finish (task : Nat)
  | take
deriving DecidableEq, Repr

namespace Readings

/-- Nothing has been begun. -/
def start (paths : List Path) (kept : Kept) : Readings := ⟨paths, [], [], kept⟩

/-- Whether all results have been taken. -/
def isFinished (readings : Readings) : Bool := readings.waiting.isEmpty && readings.tasks.isEmpty

/-- Makes a move, if that can be. A source that is done has rendered its text, for which layouts may have
been kept; if its documentation takes longer, its result is taken later. -/
def step? (files : FileTree) (reader : PageReader) (limit : Nat) (readings : Readings) :
    ReadingMove → Option Readings
  | .begin =>
    match readings.waiting with
    | [] => none
    | path :: waiting =>
      if readings.tasks.length < limit then
        some { readings with waiting := waiting, tasks := readings.tasks ++ [⟨path, none⟩] }
      else none
  | .finish task =>
    match readings.tasks[task]? with
    | some ⟨path, none⟩ =>
      let reading := reader.read files readings.kept path
      some { readings with
        tasks := readings.tasks.set task ⟨path, some reading.page⟩
        kept := reading.kept }
    | _ => none
  | .take =>
    match readings.tasks with
    | ⟨_, some result⟩ :: tasks =>
      some { readings with tasks := tasks, taken := readings.taken ++ [result] }
    | _ => none

/-- Makes one move after the other. -/
def run? (files : FileTree) (reader : PageReader) (limit : Nat) (readings : Readings)
    (moves : List ReadingMove) : Option Readings :=
  moves.foldlM (step? files reader limit) readings

end Readings

/-- How many sources a site reads at a time. -/
def readingLimit (site : Site) : Nat := max site.settings.concurrency 1

/-- Begins to read sources for a site, and makes some moves. -/
def readSideBySide (files : FileTree) (paths : List Path) (moves : List ReadingMove) (site : Site) :
    Option Readings :=
  (Readings.start paths site.kept).run? files site.reader site.readingLimit moves

/-- Takes all pages out and reads sources side by side. It takes moves that finish all of them. -/
def buildBuffered (files : FileTree) (paths : List Path) (moves : List ReadingMove) (site : Site) :
    Option (Site × BuildReport) :=
  match site.readSideBySide files paths moves with
  | none => none
  | some readings =>
    if readings.isFinished then
      let (tree, failures) := readings.taken.foldl
        (fun (tree, failures) result => takeIn tree failures result) (site.pages.clear, [])
      some ({ site with pages := tree, kept := readings.kept }, ⟨tree.size, failures⟩)
    else none

end DocSite.Site
