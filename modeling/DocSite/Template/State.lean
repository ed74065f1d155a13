/-
# DocSite.Template.State -- what changes while a template is rendered

Names are looked up in frames, from the innermost to the outermost; a loop, a block and a scope
have a frame of their own, and the context that the template was given is part of the last one.
Macros remember the names that were known where they were defined. What is written is kept in
pieces, the last first.
-/
import DocSite.Template.Filter
import DocSite.Template.Mention

set_option autoImplicit false

namespace DocSite.Template

open Text

/-- A loop that is being run. -/
structure Loop where
  turn : Turn
  previous : Value
  next : Value
  changed : Option (List Value)
  recursive : Bool
  target : Target
  body : List Node
  otherwise : List Node

/-- The loop run once more within itself. What stands for no turns is then left out. -/
def Loop.inner (loop : Loop) : Loop :=
  { loop with turn := { loop.turn with depth := loop.turn.depth + 1 }, otherwise := [] }

/-- Names and what they stand for. -/
abbrev Names := List (Text × Value)

/-- A frame of names. `shared` tells where the names are that the macros defined in this frame
remember, and `remembered` where those are that the macro at hand remembers. -/
structure Frame where
  names : Names
  loop : Option Loop
  shared : Option Nat
  remembered : Option Nat
  context : Value

/-- A macro with the names and the context that it remembers. `asksCaller` tells whether it wants to
know what calls it. -/
structure Macro where
  name : Text
  signature : Signature
  body : List Node
  asksCaller : Bool
  remembered : Nat
  context : Value

/-- The state of rendering. `blocks` gives every block its contents, the innermost first, and
`current` tells which of them is being rendered; `parent` is the template that the one at hand
extends, with what had been written before; `inherited` names the templates that were extended,
and `asked` those that were looked for. -/
structure State where
  frames : List Frame
  depth : Nat
  heap : List Names
  macros : List Macro
  escaping : Bool
  blocks : List (Text × List (List Node))
  current : Option (Text × Nat)
  parent : Option (List Node × List Text)
  inherited : List Text
  asked : List Text
  written : List Text

/-- A step of rendering. -/
abbrev Eval := EStateM Failure State

/-- What a look for a template finds. -/
inductive Found where
  | template (template : Document)
  | malformed
  | missing

/-- What pages offer to templates besides their data. -/
structure Helpers where
  part? : Text → Option Value
  call : Text → Arguments → Result Value

/-- Helpers that offer nothing. -/
def Helpers.empty : Helpers := ⟨fun _ => none, fun _ _ => .error .unknownMethod⟩

/-- Calls a helper by name. What is offered as data cannot be called. -/
def Helpers.invoke (helpers : Helpers) (name : Text) (a : Arguments) : Result Value :=
  match helpers.call name a with
  | .error .unknownMethod =>
    .error (if (helpers.part? name).isSome then .invalidOperation else .unknownMethod)
  | result => result

/-- What rendering depends on. -/
structure Environment where
  find : Text → Found
  helpers : Helpers

namespace Eval

/-- The outcome of an operation as a step. -/
def ofResult {α : Type} : Result α → Eval α
  | .ok value => pure value
  | .error e => throw e

/-- The greatest number of frames within each other. -/
def maxDepth : Nat := 500

/-- Writes a text. -/
def write (text : Text) : Eval Unit :=
  if text.isEmpty then pure () else modify fun s => { s with written := text :: s.written }

/-- A frame without names. -/
def bareFrame : Frame := ⟨[], none, none, none, .undefined⟩

/-- Fails if frames lie too deep within each other. -/
def checkDepth : Eval Unit := do
  let s ← get
  if maxDepth < s.depth + s.frames.length then throw .invalidOperation

/-- Opens a frame. -/
def push (frame : Frame) : Eval Unit := do
  checkDepth
  modify fun s => { s with frames := frame :: s.frames }

/-- Closes the innermost frame. -/
def pop : Eval Unit := modify fun s => { s with frames := s.frames.drop 1 }

/-- Runs a step within a frame. -/
def within {α : Type} (frame : Frame) (step : Eval α) : Eval α := do
  push frame
  let result ← step
  pop
  return result

/-- Runs a step and gives what it writes. -/
def capture (step : Eval Unit) : Eval Text := do
  let before := (← get).written
  modify fun s => { s with written := [] }
  step
  let text := ((← get).written.reverse).flatten
  modify fun s => { s with written := before }
  return text

/-- Text that was written by a template, as a value. -/
def captured (text : Text) : Eval Value := do return .text text (← get).escaping

/-- Changes the innermost frame. -/
def changeFrame (change : Frame → Frame) : Eval Unit := modify fun s =>
  { s with frames := match s.frames with
    | [] => []
    | frame :: rest => change frame :: rest }

/-- Gives a name a value among others. -/
def bind (name : Text) (value : Value) : Names → Names
  | [] => [(name, value)]
  | (n, old) :: rest => if n = name then (name, value) :: rest else (n, old) :: bind name value rest

/-- Gives a name in shared names a value. -/
def bindShared (place : Nat) (name : Text) (value : Value) : Eval Unit := modify fun s =>
  { s with heap := s.heap.modify place (bind name value) }

/-- Gives a name a value in the innermost frame. -/
def store (name : Text) (value : Value) : Eval Unit := do
  changeFrame fun frame => { frame with names := bind name value frame.names }
  match (← get).frames.head?.bind (·.shared) with
  | some place => bindShared place name value
  | none => pure ()

/-- New shared names. -/
def newShared (names : Names) : Eval Nat := do
  let place := (← get).heap.length
  modify fun s => { s with heap := s.heap ++ [names] }
  return place

/-- The value of the loop that is being run. -/
def loopValue (loop : Loop) : Value :=
  .loop loop.turn loop.previous loop.next

/-- What a name stands for in a frame. -/
def findIn (heap : List Names) (name : Text) (frame : Frame) : Option Value :=
  match frame.names.lookup name with
  | some value => some value
  | none =>
    match if name = "loop".toList then frame.loop else none with
    | some loop => some (loopValue loop)
    | none =>
      match frame.remembered.bind fun place => (heap[place]?).bind (List.lookup name) with
      | some value => some value
      | none => frame.context.part? (.plain name)

/-- Names that stand for functions everywhere. -/
def functions : List Text := ["range".toList, "dict".toList, "namespace".toList, "debug".toList]

/-- The present entries of a name space. -/
def refreshed (heap : List Names) : Value → Value
  | .space id _ =>
    .space id (Value.entriesOf (((heap[id]?).getD []).map fun (name, value) => (.plain name, value)))
  | value => value

/-- What a name stands for. -/
def lookup? (name : Text) : Eval (Option Value) := do
  let s ← get
  match s.frames.findSome? (findIn s.heap name) with
  | some value => return some (refreshed s.heap value)
  | none => return if functions.contains name then some (.function name) else none

/-- All names that are known, with the loop. -/
def known : Eval Names := do
  let s ← get
  return s.frames.flatMap fun frame =>
    frame.names ++ (frame.loop.map fun loop => ("loop".toList, loopValue loop)).toList ++
      ((frame.remembered.bind fun place => s.heap[place]?).getD [])

/-- The context that the outermost frame holds. -/
def baseContext : Eval Value := do
  return (((← get).frames.getLast?).map (·.context)).getD .undefined

/-- The names shared by the macros of the innermost frame, with all names known now. -/
def shareNames : Eval Nat := do
  let now ← known
  match (← get).frames.head?.bind (·.shared) with
  | some place =>
    modify fun s => { s with heap := s.heap.modify place fun names => names ++ now }
    return place
  | none =>
    let place ← newShared now
    changeFrame fun frame => { frame with shared := some place }
    return place

/-- Looks for a template. -/
def findTemplate (env : Environment) (name : Text) : Eval Found := do
  modify fun s => { s with asked := name :: s.asked }
  return env.find name

end Eval

/-- Whether templates of a name escape values for HTML. -/
def escapesValues (name : Text) : Bool :=
  let name := match dropPhrase? ".j2".toList.reverse name.reverse with
    | some rest => rest.reverse
    | none => name
  ["html".toList, "htm".toList, "xml".toList].contains ((splitOn '.' name).getLast?.getD [])

/-- The contents of blocks, each alone. -/
def blockChains (template : Document) : List (Text × List (List Node)) :=
  template.blocks.map fun (name, body) => (name, [body])

/-- The contents of blocks followed by those of a template that is extended. -/
def inheritBlocks (template : Document) (chains : List (Text × List (List Node))) :
    List (Text × List (List Node)) :=
  template.blocks.foldl
    (fun chains (name, body) =>
      if (chains.lookup name).isSome then
        chains.map fun (n, bodies) => if n = name then (n, bodies ++ [body]) else (n, bodies)
      else chains ++ [(name, [body])])
    chains

end DocSite.Template
