/-
# DocSite.Template.Render -- rendering templates

Nodes are run one after the other and write text. A template that extends another one goes on
running, but what it writes is dropped; then the other one is run with the blocks of both. Fuel
bounds how deep nodes and expressions lie within each other, templates that are included and macros
that are called among them.
-/
import DocSite.Template.State

set_option autoImplicit false

namespace DocSite.Template

open Text

namespace Eval

/-- What a deeper template adds to the depth. -/
def includeCost : Nat := 10

/-- What a called macro adds to the depth. -/
def macroCost : Nat := 4

/-- Adds to the depth while a step runs. -/
def deeper {α : Type} (cost : Nat) (step : Eval α) : Eval α := do
  modify fun s => { s with depth := s.depth + cost }
  checkDepth
  let result ← step
  modify fun s => { s with depth := s.depth - cost }
  return result

/-- The part of a value that a key leads to; a missing value has no parts. -/
def part (env : Environment) (value key : Value) : Eval Value := do
  match value with
  | .undefined => throw .undefinedValue
  | .helpers _ => return ((key.text?.bind env.helpers.part?).getD .undefined)
  | value => return refreshed (← get).heap ((value.part? key).getD .undefined)

/-- The whole numbers of a range. -/
def range (a : Arguments) : Result Value := do
  a.upTo 3
  let first ← a.int? 0
  let second ← a.int? 1
  let step := (← a.int? 2).getD 1
  match first, second with
  | none, _ => .error .missingArgument
  | some upper, none => numbers 0 upper step
  | some lower, some upper => numbers lower upper step
where
  /-- The numbers from one on, in steps. -/
  numbers (lower upper step : Int) : Result Value :=
    let span := if 0 < step then upper - lower else lower - upper
    let size := if step = 0 then 0 else (span.toNat + step.natAbs - 1) / step.natAbs
    if step = 0 || 100000 < size then .error .invalidOperation
    else .ok (.series ((Value.places upper step size lower).map .int) true)

/-- The entries of a mapping that an argument is, with those that have names. -/
def namedEntries (a : Arguments) : Result (List (Value × Value)) :=
  let more := a.named.map fun (name, value) => (Value.plain name, value)
  match a.values with
  | [] => .ok more
  | [value] => match value.given?, value.kind, value.entries? with
    | none, _, _ => .ok more
    | _, .map, some entries => .ok (entries ++ more)
    | _, _, _ => .error .invalidOperation
  | _ => .error .tooManyArguments

/-- Calls a function that is known everywhere. -/
def callFunction (name : Text) (a : Arguments) : Eval Value := do
  match String.ofList name with
  | "range" => ofResult (range a)
  | "dict" => return .map (Value.entriesOf (← ofResult (namedEntries a)))
  | "namespace" =>
    let entries ← ofResult (namedEntries a)
    if entries.all fun (key, _) => key.text?.isSome then
      let id ← newShared ((Value.entriesOf entries).map fun (key, value) => (key.display, value))
      return refreshed (← get).heap (.space id [])
    else throw .invalidOperation
  | "debug" => match a.all with
    | [] => return .plain []
    | [value] => return .plain (value.pretty 0)
    | values => return .plain ((Value.list values).pretty 0)
  | _ => throw .invalidOperation

/-- The name of what calls a macro. -/
def caller : Text := "caller".toList

/-- The values of the parameters of a macro. -/
def parametersOf (found : Macro) (a : Arguments) : Result Names :=
  let parameters := found.signature.parameters
  let free := parameters.drop a.values.length ++ (if found.asksCaller then [caller] else [])
  if parameters.length < a.values.length then .error .tooManyArguments
  else if a.named.any fun (name, _) => !free.contains name then .error .tooManyArguments
  else
    .ok ((List.range parameters.length).filterMap fun i =>
      (parameters[i]?).map fun name =>
        (name, match a.values[i]? with
          | some value => value
          | none => (a.named.lookup name).getD .undefined))

/-- The default of a parameter; defaults belong to the last parameters. -/
def defaultOf? (signature : Signature) (i : Nat) : Option Expr :=
  let without := signature.parameters.length - signature.defaults.length
  if i < without then none else signature.defaults[i - without]?

/-- The loop that is being run. -/
def currentLoop? (frames : List Frame) : Option Loop := frames.findSome? (·.loop)

/-- Changes the loop that is being run. -/
def changeLoop (change : Loop → Loop) : List Frame → List Frame
  | [] => []
  | frame :: rest =>
    match frame.loop with
    | some loop => { frame with loop := some (change loop) } :: rest
    | none => frame :: changeLoop change rest

/-- Calls a method of the place within a loop. -/
def callLoopMethod (name : Text) (index : Nat) (a : List Value) : Eval Value := do
  match String.ofList name with
  | "cycle" => if a.isEmpty then throw .missingArgument else return a.getD (index % a.length) .undefined
  | "changed" =>
    match currentLoop? (← get).frames with
    | none => return .bool true
    | some loop =>
      let same := loop.changed.any fun before => Value.sameItems before a
      modify fun s => { s with frames := changeLoop (fun l => { l with changed := some a }) s.frames }
      return .bool (!same)
  | _ => throw .unknownMethod

/-- Defines a macro that remembers the names known now. -/
def defineMacro (name : Text) (signature : Signature) (body : List Node) : Eval Value := do
  let remembered ← shareNames
  let context ← baseContext
  let asksCaller := signature.asksFor caller (nodesMention caller body)
  let id := (← get).macros.length
  modify fun s => { s with
    macros := s.macros ++ [⟨name, signature, body, asksCaller, remembered, context⟩] }
  return .callable id name signature.parameters asksCaller

mutual
/-- The value of an expression. -/
def expr (env : Environment) : (fuel : Nat) → Expr → Eval Value
  | 0, _ => throw .invalidOperation
  | fuel + 1, e =>
    match e with
    | .const value => return value
    | .var name => return (← lookup? name).getD .undefined
    | .list items => return .list (← items.mapM (expr env fuel))
    | .map entries => do
      let pairs ← entries.mapM fun (key, value) => do
        return (← expr env fuel key, ← expr env fuel value)
      return .map (Value.entriesOf pairs)
    | .field of name => do part env (← expr env fuel of) (.plain name)
    | .item of key => do
      let value ← expr env fuel of
      part env value (← expr env fuel key)
    | .slice of start stop step => do
      let value ← expr env fuel of
      let bound (e : Option Expr) : Eval Value := match e with
        | some e => expr env fuel e
        | none => pure .none
      let start ← bound start
      let stop ← bound stop
      let step ← bound step
      ofResult (value.slice start stop step)
    | .not of => return .bool !(← expr env fuel of).isTrue
    | .negate of => do ofResult (← expr env fuel of).negated
    | .binary operator left right => do
      let a ← expr env fuel left
      match operator with
      | .and => if a.isTrue then expr env fuel right else return a
      | .or => if a.isTrue then return a else expr env fuel right
      | operator => ofResult (Value.apply operator a (← expr env fuel right))
    | .choose condition yes no => do
      if (← expr env fuel condition).isTrue then expr env fuel yes
      else match no with
        | some no => expr env fuel no
        | none => return .undefined
    | .filter of name args => do
      let value ← expr env fuel of
      ofResult (Filter.applied name value (← arguments env fuel args))
    | .test of name args => do
      let value ← expr env fuel of
      return .bool (← ofResult (Test.applied name value (← arguments env fuel args)))
    | .call of args =>
      match of with
      | .var name => do
        let a ← arguments env fuel args
        if name = "super".toList then
          if a.all.isEmpty then captured (← capture (outerBlock env fuel)) else throw .invalidOperation
        else if name = "loop".toList then
          match a.all, currentLoop? (← get).frames with
          | [subject], some loop =>
            if loop.recursive then
              captured (← capture (runLoop env fuel loop.inner subject))
            else throw .invalidOperation
          | _, _ => throw .invalidOperation
        else match ← lookup? name with
          | some value => callValue env fuel value a
          | none => throw .unknownName
      | .field (.var name) block => do
        if name = "self".toList then
          captured (← capture (do if (← get).parent.isNone then runBlock env fuel block))
        else
          let value := (← lookup? name).getD .undefined
          callMethod env fuel value block (← arguments env fuel args)
      | .field of method => do
        let value ← expr env fuel of
        callMethod env fuel value method (← arguments env fuel args)
      | of => do
        let value ← expr env fuel of
        callValue env fuel value (← arguments env fuel args)

/-- The values of arguments. -/
def arguments (env : Environment) : (fuel : Nat) → List Argument → Eval Arguments
  | 0, _ => throw .invalidOperation
  | fuel + 1, args =>
    args.foldlM (fun (found : Arguments) arg =>
      match arg with
      | .value e => return { found with values := found.values ++ [← expr env fuel e] }
      | .named name e => return { found with named := bind name (← expr env fuel e) found.named }
      | .spread e => do
        let items ← ofResult (← expr env fuel e).items
        return { found with values := found.values ++ items }
      | .spreadNamed e => do
        match (← expr env fuel e).entries? with
        | some entries =>
          return { found with
            named := entries.foldl (fun named (key, value) => bind key.display value named) found.named }
        | none => throw .invalidOperation) .empty

/-- Calls a value. -/
def callValue (env : Environment) : (fuel : Nat) → Value → Arguments → Eval Value
  | 0, _, _ => throw .invalidOperation
  | fuel + 1, value, a =>
    match value with
    | .function name => callFunction name a
    | .callable id _ _ _ => do
      match (← get).macros[id]? with
      | some found => callMacro env fuel found a
      | none => throw .invalidOperation
    | _ => throw .invalidOperation

/-- Calls a method of a value. -/
def callMethod (env : Environment) : (fuel : Nat) → Value → (method : Text) → Arguments → Eval Value
  | 0, _, _, _ => throw .invalidOperation
  | fuel + 1, value, method, a =>
    match value with
    | .helpers _ => ofResult (env.helpers.invoke method a)
    | .loop turn _ _ => callLoopMethod method turn.index a.all
    | value =>
      match value.part? (.plain method) with
      | some found => callValue env fuel found a
      | none => throw .unknownMethod

/-- Calls a macro; its result is what it writes. -/
def callMacro (env : Environment) : (fuel : Nat) → Macro → Arguments → Eval Value
  | 0, _, _ => throw .invalidOperation
  | fuel + 1, found, a => do
    let given ← ofResult (parametersOf found a)
    let outside ← get
    let calledBy : Names :=
      if found.asksCaller then [(caller, (a.named.lookup caller).getD .undefined)] else []
    modify fun s => { s with
      frames := [{ bareFrame with names := calledBy, remembered := some found.remembered },
        { bareFrame with context := found.context }]
      depth := s.depth + s.frames.length + macroCost
      blocks := []
      current := none }
    checkDepth
    let text ← capture do
      (List.range given.length).reverse.forM fun i =>
        match given[i]? with
        | none => pure ()
        | some (name, value) => do
          let value ← match value, defaultOf? found.signature i with
            | .undefined, some e => expr env fuel e
            | value, _ => pure value
          changeFrame fun frame => { frame with names := bind name value frame.names }
      runTemplate env fuel found.body
    modify fun s => { s with
      frames := outside.frames
      depth := outside.depth
      blocks := outside.blocks
      current := outside.current }
    captured text

/-- Assigns a value. -/
def assign (env : Environment) : (fuel : Nat) → Target → Value → Eval Unit
  | 0, _, _ => throw .invalidOperation
  | fuel + 1, target, value =>
    match target with
    | .name name => store name value
    | .field of name => do
      match ← expr env fuel of with
      | .space id _ => bindShared id name value
      | _ => throw .invalidOperation
    | .list targets => do
      match value.unpacked? with
      | some items =>
        if items.length = targets.length then
          (targets.zip items).forM fun (target, item) => assign env fuel target item
        else throw .invalidOperation
      | none => throw .invalidOperation

/-- Runs a node. -/
def node (env : Environment) : (fuel : Nat) → Node → Eval Unit
  | 0, _ => throw .invalidOperation
  | fuel + 1, n =>
    match n with
    | .data text => write text
    | .write e => do
      let value ← expr env fuel e
      write (if (← get).escaping then value.displayEscaped else value.display)
    | .ifElse condition yes no => do
      if (← expr env fuel condition).isTrue then nodes env fuel yes else nodes env fuel no
    | .loop target subject condition recursive body otherwise => do
      let value ← expr env fuel subject
      let value ← match condition with
        | none => pure value
        | some condition => within bareFrame (do
            return .list (← (← ofResult value.items).filterM fun item => do
              assign env fuel target item
              return (← expr env fuel condition).isTrue))
      let depth := match currentLoop? (← get).frames with
        | some outer => if outer.recursive then outer.turn.depth + 1 else 0
        | none => 0
      runLoop env fuel
        ⟨⟨0, depth, 0, true⟩, .undefined, .undefined, none, recursive, target, body, otherwise⟩ value
    | .scope assignments body => within bareFrame do
      assignments.forM fun (target, e) => do assign env fuel target (← expr env fuel e)
      nodes env fuel body
    | .set target e => do assign env fuel target (← expr env fuel e)
    | .setBlock target filters body => do
      let value ← captured (← capture (nodes env fuel body))
      assign env fuel target (← filtered env fuel filters value)
    | .escaping mode body => do
      let value ← expr env fuel mode
      let outside := (← get).escaping
      let inside ← match value.text? with
        | some name =>
          if name = "html".toList then pure true
          else if name = "none".toList then pure false
          else throw .invalidOperation
        | none => pure (value.same (.bool true))
      modify fun s => { s with escaping := inside }
      nodes env fuel body
      modify fun s => { s with escaping := outside }
    | .filtered filters body => do
      let value ← captured (← capture (nodes env fuel body))
      let value ← filtered env fuel filters value
      write (if (← get).escaping then value.displayEscaped else value.display)
    | .block name => do
      if (← get).parent.isNone then runBlock env fuel name
    | .inherit e => do
      match ← expr env fuel e with
      | .text name _ =>
        let s ← get
        if s.parent.isSome || s.inherited.contains name then throw .invalidOperation
        match ← findTemplate env name with
        | .missing => throw .missingTemplate
        | .malformed => throw .malformedTemplate
        | .template found =>
          modify fun s => { s with
            inherited := name :: s.inherited
            blocks := inheritBlocks found s.blocks
            parent := some (found.nodes, s.written) }
      | _ => throw .invalidOperation
    | .includes e ignoreMissing => do includeFirst env fuel (← expr env fuel e) ignoreMissing
    | .importAs e target => do
      push bareFrame
      let content ← captured (← capture (do includeFirst env fuel (← expr env fuel e) false))
      let names := (((← get).frames.head?).map (·.names)).getD []
      pop
      assign env fuel target (.module (Value.entriesOf (names.map fun (name, value) =>
        (.plain name, value))) content.display)
    | .importFrom e names => do
      push bareFrame
      let _ ← capture (do includeFirst env fuel (← expr env fuel e) false)
      let values ← names.mapM fun (name, given) => do return (given, (← lookup? name).getD .undefined)
      pop
      values.reverse.forM fun (given, value) => store given value
    | .macroDef name signature body => do
      let value ← defineMacro name signature body
      store name value
    | .callBlock signature call body => do
      let caller ← defineMacro "caller".toList signature body
      match call with
      | .call of args => do
        let value ← expr env fuel (.call of (args ++ [.named "caller".toList (.const caller)]))
        write (if (← get).escaping then value.displayEscaped else value.display)
      | _ => throw .invalidOperation
    | .run call => do
      let _ ← expr env fuel call
      pure ()

/-- Runs nodes one after the other. -/
def nodes (env : Environment) : (fuel : Nat) → List Node → Eval Unit
  | 0, _ => throw .invalidOperation
  | fuel + 1, list => list.forM (node env fuel)

/-- Applies filters to a value. -/
def filtered (env : Environment) : (fuel : Nat) → List FilterCall → Value → Eval Value
  | 0, _, _ => throw .invalidOperation
  | fuel + 1, filters, value =>
    filters.foldlM (fun value filter => do
      ofResult (Filter.applied filter.name value (← arguments env fuel filter.arguments))) value

/-- Runs a loop over the items of a value. -/
def runLoop (env : Environment) : (fuel : Nat) → Loop → Value → Eval Unit
  | 0, _, _ => throw .invalidOperation
  | fuel + 1, loop, subject => do
    let items ← ofResult subject.items
    if items.isEmpty then nodes env fuel loop.otherwise
    else
      let item (place : Nat) : Value := items.getD place .undefined
      let turn := { loop.turn with length := items.length, sized := subject.isSized }
      let frame := { bareFrame with loop := some { loop with turn := turn, changed := none } }
      within frame <| (List.range items.length).forM fun i => do
        changeFrame fun frame => { frame with
          loop := frame.loop.map fun l => { l with
            turn := { turn with index := i }
            previous := if i = 0 then .undefined else item (i - 1)
            next := item (i + 1) } }
        assign env fuel loop.target (item i)
        nodes env fuel loop.body

/-- Runs the innermost contents of a block. -/
def runBlock (env : Environment) : (fuel : Nat) → (name : Text) → Eval Unit
  | 0, _ => throw .invalidOperation
  | fuel + 1, name => do
    match (← get).blocks.lookup name with
    | some (body :: _) => blockBody env fuel (name, 0) body
    | _ => throw .unknownName

/-- Runs the contents of the current block one step further out. -/
def outerBlock (env : Environment) : (fuel : Nat) → Eval Unit
  | 0 => throw .invalidOperation
  | fuel + 1 => do
    let s ← get
    match s.current with
    | none => throw .invalidOperation
    | some (name, i) =>
      match ((s.blocks.lookup name).getD [])[i + 1]? with
      | some body => blockBody env fuel (name, i + 1) body
      | none => throw .invalidOperation

/-- Runs contents of a block. -/
def blockBody (env : Environment) : (fuel : Nat) → Text × Nat → List Node → Eval Unit
  | 0, _, _ => throw .invalidOperation
  | fuel + 1, place, body => do
    let outside := (← get).current
    modify fun s => { s with current := some place }
    within bareFrame (runTemplate env fuel body)
    modify fun s => { s with current := outside }

/-- Runs the nodes of a template, and then those of the templates it extends. -/
def runTemplate (env : Environment) : (fuel : Nat) → List Node → Eval Unit
  | 0, _ => throw .invalidOperation
  | fuel + 1, list => do
    let outside := (← get).parent
    modify fun s => { s with parent := none }
    nodes env fuel list
    match (← get).parent with
    | none => pure ()
    | some (parentNodes, before) =>
      modify fun s => { s with written := before }
      runTemplate env fuel parentNodes
    modify fun s => { s with parent := outside }

/-- Includes the first template that is found among some. -/
def includeFirst (env : Environment) : (fuel : Nat) → Value → (ignoreMissing : Bool) → Eval Unit
  | 0, _, _ => throw .invalidOperation
  | fuel + 1, value, ignoreMissing => do
    match value.sequence? with
    | some [] => pure ()
    | some (first :: rest) =>
      match first with
      | .text name _ =>
        match ← findTemplate env name with
        | .missing =>
          if rest.isEmpty then (if ignoreMissing then pure () else throw .missingTemplate)
          else includeFirst env fuel (.list rest) ignoreMissing
        | .malformed => throw .malformedTemplate
        | .template found => runIncluded env fuel name found
      | _ => throw .invalidOperation
    | none => includeFirst env fuel (.list [value]) ignoreMissing

/-- Runs a template within another one. -/
def runIncluded (env : Environment) : (fuel : Nat) → (name : Text) → Document → Eval Unit
  | 0, _, _ => throw .invalidOperation
  | fuel + 1, name, found => do
    let outside ← get
    let shared := outside.frames.head?.bind (·.shared)
    modify fun s => { s with escaping := escapesValues name, blocks := blockChains found }
    changeFrame fun frame => { frame with shared := none }
    deeper includeCost (runTemplate env fuel found.nodes)
    changeFrame fun frame => { frame with shared := shared }
    modify fun s => { s with
      escaping := outside.escaping
      blocks := outside.blocks
      inherited := outside.inherited }
end

end Eval

/-- What came of rendering: the text, unless it failed, and the templates that were looked for. -/
structure Rendered where
  text : Result Text
  asked : List Text

/-- The depth of nodes and expressions that is followed. -/
def fuel : Nat := 6000

/-- Renders a template of a name with a context. -/
def render (env : Environment) (name : Text) (template : Document) (context : Value) : Rendered :=
  let start : State :=
    { frames := [{ Eval.bareFrame with context := context }]
      depth := 0
      heap := []
      macros := []
      escaping := escapesValues name
      blocks := blockChains template
      current := none
      parent := none
      inherited := [name]
      asked := []
      written := [] }
  match (Eval.runTemplate env fuel template.nodes).run start with
  | .ok _ s => ⟨.ok s.written.reverse.flatten, s.asked⟩
  | .error e s => ⟨.error e, s.asked⟩

end DocSite.Template
