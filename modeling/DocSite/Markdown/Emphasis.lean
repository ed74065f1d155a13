/-
# DocSite.Markdown.Emphasis -- emphasis

A run of emphasis marks may open emphasis, close it, or stand for itself. `Emphasis.State` takes the
parts of a text one after another; a run closes the innermost open one that it matches, and what is
open at the end stands for itself.
-/
import DocSite.Markdown.Block

set_option autoImplicit false

namespace DocSite.Markdown

/-- How a link is written. -/
inductive LinkKind where
  | inline
  | reference
  | autolink
  | email
deriving DecidableEq, Repr

/-- A piece of text. Links and images know the stretch of the source they were read from. -/
inductive Inline where
  | text (value : List Char)
  | code (value : List Char)
  | html (value : List Char)
  | softBreak
  | hardBreak
  | emphasis (children : List Inline)
  | strong (children : List Inline)
  | strikethrough (children : List Inline)
  | link (kind : LinkKind) (dest title : List Char) (span : Span) (children : List Inline)
  | image (dest title : List Char) (span : Span) (children : List Inline)
  | note (label : List Char)
deriving Repr

/-! ## Runs of marks -/

/-- A run of emphasis marks: how many of its `length` marks are left, whether it may open and close
emphasis, and what is shown after the marks if they stand for themselves. -/
structure Run where
  mark : Char
  count : Nat
  length : Nat
  opens : Bool
  closes : Bool
  tail : List Char
deriving DecidableEq, Repr

namespace Run

/-- The marks that are left, as text. -/
def text (run : Run) : Inline := .text (List.replicate run.count run.mark ++ run.tail)

/-- Whether `closer` may close what `opener` opened. The lengths of `~` runs agree; of other runs
that both open and close, the lengths must not add up to a multiple of three unless both are
one. -/
def matchesRun (opener closer : Run) : Bool :=
  opener.mark == closer.mark &&
    (closer.mark != '~' || opener.length == closer.length) &&
    ((!(closer.opens && closer.closes) && !(opener.opens && opener.closes)) ||
      (opener.length + closer.length) % 3 != 0 || closer.length % 3 == 0)

end Run

/-! ## Opening and closing -/

namespace Emphasis

/-- Children within `n` marks: two of them are strong emphasis and stand inside. -/
def wrap (mark : Char) : (n : Nat) → List Inline → List Inline
  | 0, children => children
  | 1, children => [if mark = '~' then .strikethrough children else .emphasis children]
  | n + 2, children =>
    wrap mark n [if mark = '~' then .strikethrough children else .strong children]

/-- A run that is open, and the text after it, last first. -/
structure Frame where
  run : Run
  inner : List Inline

/-- The open runs, the innermost first, and the text before them, last first. A `~` run is closed
only by one that stands after the `tildes` outermost frames. -/
structure State where
  frames : List Frame
  outer : List Inline
  tildes : Nat

/-- Nothing taken in yet. -/
def State.empty : State := ⟨[], [], 0⟩

/-- Adds text after the innermost open run; texts are given last first. -/
def State.append (pieces : List Inline) (s : State) : State :=
  match s.frames with
  | [] => { s with outer := pieces ++ s.outer }
  | frame :: rest => { s with frames := { frame with inner := pieces ++ frame.inner } :: rest }

/-- Opens a run. -/
def State.open (run : Run) (s : State) : State :=
  { s with
    frames := ⟨run, []⟩ :: s.frames
    tildes := if run.mark = '~' then min s.tildes s.frames.length else s.tildes }

/-- The innermost of the frames that `closer` closes, with the text of the frames within it, last
first, and the frames around it. -/
def findOpener? (closer : Run) (text : List Inline) :
    (eligible : Nat) → List Frame → Option (Run × List Inline × List Frame)
  | 0, _ => none
  | _, [] => none
  | eligible + 1, frame :: rest =>
    if frame.run.matchesRun closer then some (frame.run, text ++ frame.inner, rest)
    else findOpener? closer (text ++ frame.inner ++ [frame.run.text]) eligible rest

/-- Takes in a run: it closes what it can and opens what is left of it, or stands for itself.
`fuel` bounds the number of its marks. -/
def State.takeRun : (fuel : Nat) → Run → State → State
  | 0, run, s => s.append [run.text]
  | fuel + 1, run, s =>
    let settled (s : State) : State := if run.opens then s.open run else s.append [run.text]
    if !run.closes then settled s
    else
      let bound := if run.mark = '~' then s.tildes else 0
      match findOpener? run [] (s.frames.length - bound) s.frames with
      | none => settled (if run.mark = '~' then { s with tildes := s.frames.length } else s)
      | some (opener, text, frames) =>
        let used := min run.count opener.count
        let closed := wrap run.mark used text.reverse
        let s := { s with frames := frames, tildes := min s.tildes frames.length }
        let s := if used < opener.count then
            (s.open { opener with count := opener.count - used }).append closed
          else s.append closed
        if used < run.count then s.takeRun fuel { run with count := run.count - used } else s

/-- The whole text, with the runs that are still open standing for themselves. -/
def State.close (s : State) : List Inline :=
  (s.frames.flatMap (fun frame => frame.inner ++ [frame.run.text]) ++ s.outer).reverse

end Emphasis

end DocSite.Markdown
