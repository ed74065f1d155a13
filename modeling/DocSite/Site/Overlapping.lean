/-
# DocSite.Site.Overlapping -- sources that are read again at the same time

Single sources can be read again while others are. A source is first read, for which the pages of the site do
not matter, and then its page is put in. Between the two, other sources may be read and other pages put
in. What happens next is not the site's to say: it comes as a list of moves.
-/
import DocSite.Site.Project

set_option autoImplicit false

namespace DocSite.Site

open Page (Record)

/-- Sources that are read again at the same time: the site, the sources that have not been read yet, and the
pages that are yet to be put in. -/
structure Overlapping where
  site : Site
  waiting : List Path
  unstored : List Record

/-- What can happen next: one of the sources that wait is read, or one of the pages is put in. -/
inductive OverlappingMove where
  | read (source : Nat)
  | store (page : Nat)
deriving DecidableEq, Repr

namespace Overlapping

/-- Nothing has been read. -/
def start (paths : List Path) (site : Site) : Overlapping := ⟨site, paths, []⟩

/-- Whether all sources have been read and all pages have been put in. -/
def isFinished (overlapping : Overlapping) : Bool :=
  overlapping.waiting.isEmpty && overlapping.unstored.isEmpty

/-- Makes a move, if that can be. A source that gives no page is done when it has been read. -/
def step? (files : FileTree) (overlapping : Overlapping) : OverlappingMove → Option Overlapping
  | .read source =>
    match overlapping.waiting[source]? with
    | none => none
    | some path =>
      let reading := overlapping.site.reader.read files overlapping.site.kept path
      some {
        site := { overlapping.site with kept := reading.kept }
        waiting := overlapping.waiting.eraseIdx source
        unstored := match reading.page with
          | .ok (some page) => overlapping.unstored ++ [page]
          | _ => overlapping.unstored }
  | .store position =>
    match overlapping.unstored[position]? with
    | none => none
    | some page =>
      some { overlapping with
        site := { overlapping.site with pages := (overlapping.site.pages.upsert page .incremental).1 }
        unstored := overlapping.unstored.eraseIdx position }

/-- Makes one move after the other. -/
def run? (files : FileTree) (overlapping : Overlapping) (moves : List OverlappingMove) : Option Overlapping :=
  moves.foldlM (step? files) overlapping

end Overlapping

/-- Reads single sources again, one after the other. -/
def parseEach (files : FileTree) (paths : List Path) (site : Site) : Site :=
  paths.foldl (fun site path => (site.parse files path .incremental).1) site

end DocSite.Site
