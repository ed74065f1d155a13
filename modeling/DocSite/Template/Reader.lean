/-
# DocSite.Template.Reader -- reading templates

The reader takes the tokens of a template apart from the left. What binds least is read first:
conditions, then `or`, `and`, `not`, comparisons, sums, `~`, products, powers, and last what stands
right behind a value: attributes, calls, filters and tests. A block may be defined once only, and
statements and bracketed values lie within each other only so deep.
-/
import DocSite.Template.Node
import DocSite.Template.Token

set_option autoImplicit false

namespace DocSite.Template

open Text

/-- What is left to read, and what has been found on the way. `depth` counts the statements and
values that the reader is in. -/
structure Reading where
  tokens : List Token
  depth : Nat
  blocks : List (Text × List Node)
  names : List Text
  inMacro : Bool

/-- A step of the reader; it fails where the template is malformed. -/
abbrev Read := StateT Reading Option

namespace Read

/-- Gives up. -/
def fail {α : Type} : Read α := fun _ => none

/-- The next token. -/
def peek : Read (Option Token) := do return (← get).tokens.head?

/-- Passes over a token. -/
def advance : Read Unit := modify fun s => { s with tokens := s.tokens.drop 1 }

/-- Passes over a token if it is the next one. -/
def skip (token : Token) : Read Bool := do
  if (← peek) = some token then
    advance
    return true
  else return false

/-- Passes over a token that must be the next one. -/
def expect (token : Token) : Read Unit := do
  if !(← skip token) then fail

/-- Whether the next token is a certain one. -/
def sees (token : Token) : Read Bool := do return (← peek) = some token

/-- Reads a name. -/
def name : Read Text := do
  match ← peek with
  | some (.name text) =>
    advance
    return text
  | _ => fail

/-- How deep statements and values may lie within each other. -/
def deepest : Nat := 150

/-- Reads something that lies within what is being read. -/
def nested {α : Type} (step : Read α) : Read α := do
  if deepest ≤ (← get).depth then fail
  modify fun s => { s with depth := s.depth + 1 }
  let found ← step
  modify fun s => { s with depth := s.depth - 1 }
  return found

/-- The token of a keyword. -/
def keyword (text : String) : Token := .name text.toList

/-- Names that cannot be assigned to. -/
def reserved : List Text :=
  ["true".toList, "True".toList, "false".toList, "False".toList, "none".toList, "None".toList,
    "loop".toList, "self".toList]

/-- Reads a name that something is assigned to. -/
def assignedName : Read Text := do
  let text ← name
  if reserved.contains text then fail else return text

/-- The value that a name stands for in itself. -/
def constant? (text : Text) : Option Value :=
  if text = "true".toList || text = "True".toList then some (.bool true)
  else if text = "false".toList || text = "False".toList then some (.bool false)
  else if text = "none".toList || text = "None".toList then some .none
  else none

/-- The operator at a level of binding. -/
def operator? (level : Nat) (token : Token) : Option Operator :=
  match level, token with
  | 0, .name text => if text = "or".toList then some .or else none
  | 1, .name text => if text = "and".toList then some .and else none
  | 3, .name text => if text = "in".toList then some .isIn else none
  | 3, .symbol .equal => some .equal
  | 3, .symbol .notEqual => some .notEqual
  | 3, .symbol .less => some .less
  | 3, .symbol .lessEqual => some .lessEqual
  | 3, .symbol .greater => some .greater
  | 3, .symbol .greaterEqual => some .greaterEqual
  | 4, .symbol .plus => some .add
  | 4, .symbol .minus => some .subtract
  | 5, .symbol .tilde => some .concatenate
  | 6, .symbol .times => some .multiply
  | 6, .symbol .divide => some .divide
  | 6, .symbol .floorDivide => some .floorDivide
  | 6, .symbol .remainder => some .remainder
  | 7, .symbol .power => some .power
  | _, _ => none

/-- Whether a token begins the argument of a test that is written without brackets. -/
def beginsTestArgument : Option Token → Bool
  | some (.name text) =>
    let words := ["and".toList, "or".toList, "else".toList, "is".toList]
    !words.contains text
  | some (.string _) => true
  | some (.int _) => true
  | some (.float _) => true
  | some (.symbol s) => s = .plus || s = .minus || s = .openBracket || s = .openBrace
  | _ => false

/-! ## Expressions -/

mutual
/-- Reads an expression with an optional condition behind it. -/
def expr : (fuel : Nat) → Read Expr
  | 0 => fail
  | fuel + 1 => do
    let value ← level fuel 0
    conditions fuel value

/-- Reads the conditions behind an expression. -/
def conditions : (fuel : Nat) → Expr → Read Expr
  | 0, _ => fail
  | fuel + 1, value => do
    if ← skip (keyword "if") then
      let condition ← level fuel 0
      let no ← if ← skip (keyword "else") then (do return some (← expr fuel)) else pure none
      conditions fuel (.choose condition value no)
    else return value

/-- Reads an expression of a level of binding. -/
def level : (fuel n : Nat) → Read Expr
  | 0, _ => fail
  | fuel + 1, n => do
    if n = 2 then
      if ← skip (keyword "not") then return .not (← level fuel 2) else level fuel 3
    else if 8 ≤ n then
      let value ← unary fuel
      filters fuel (← behind fuel value)
    else
      let left ← level fuel (n + 1)
      operators fuel n left

/-- Reads the operators of a level of binding and what they apply to. -/
def operators : (fuel n : Nat) → Expr → Read Expr
  | 0, _, _ => fail
  | fuel + 1, n, left => do
    match ← peek with
    | none => return left
    | some token =>
      match operator? n token with
      | some operator =>
        advance
        let right ← level fuel (n + 1)
        operators fuel n (.binary operator left right)
      | none =>
        if n = 3 && token = keyword "not" then
          advance
          expect (keyword "in")
          let right ← level fuel (n + 1)
          operators fuel n (.not (.binary .isIn left right))
        else return left

/-- Reads a value with minus signs before it. -/
def unary : (fuel : Nat) → Read Expr
  | 0 => fail
  | fuel + 1 => do
    if ← skip (.symbol .minus) then return .negate (← unary fuel) else nested (primary fuel)

/-- Reads a value. -/
def primary : (fuel : Nat) → Read Expr
  | 0 => fail
  | fuel + 1 => do
    let token ← peek
    advance
    match token with
    | some (.name text) =>
      match constant? text with
      | some value => return .const value
      | none => return .var text
    | some (.string text) => return .const (.plain text)
    | some (.int n) => return .const (.int n)
    | some (.float x) => return .const (.float x)
    | some (.symbol .openParen) =>
      if ← skip (.symbol .closeParen) then return .list []
      else
        let first ← expr fuel
        if ← sees (.symbol .comma) then
          return .list (first :: (← items fuel false .closeParen))
        else
          expect (.symbol .closeParen)
          return first
    | some (.symbol .openBracket) => return .list (← items fuel true .closeBracket)
    | some (.symbol .openBrace) => return .map (← entries fuel true)
    | _ => fail

/-- Reads items up to a closing bracket; `first` tells that no item has been read. -/
def items : (fuel : Nat) → (first : Bool) → Symbol → Read (List Expr)
  | 0, _, _ => fail
  | fuel + 1, first, closing => do
    if ← skip (.symbol closing) then return []
    if !first then
      expect (.symbol .comma)
      if ← skip (.symbol closing) then return []
    let item ← expr fuel
    return item :: (← items fuel false closing)

/-- Reads the entries of a mapping. -/
def entries : (fuel : Nat) → (first : Bool) → Read (List (Expr × Expr))
  | 0, _ => fail
  | fuel + 1, first => do
    if ← skip (.symbol .closeBrace) then return []
    if !first then
      expect (.symbol .comma)
      if ← skip (.symbol .closeBrace) then return []
    let key ← expr fuel
    expect (.symbol .colon)
    let value ← expr fuel
    return (key, value) :: (← entries fuel false)

/-- Reads attributes, items and calls behind a value. -/
def behind : (fuel : Nat) → Expr → Read Expr
  | 0, _ => fail
  | fuel + 1, value => do
    match ← peek with
    | some (.symbol .dot) =>
      advance
      behind fuel (.field value (← name))
    | some (.symbol .openBracket) =>
      advance
      behind fuel (← subscript fuel value)
    | some (.symbol .openParen) =>
      advance
      behind fuel (.call value (← arguments fuel true false))
    | _ => return value

/-- Reads the key or the range between square brackets. -/
def subscript : (fuel : Nat) → Expr → Read Expr
  | 0, _ => fail
  | fuel + 1, value => do
    let start ← if ← sees (.symbol .colon) then pure none else (do return some (← expr fuel))
    if ← skip (.symbol .colon) then
      let atEnd := (← sees (.symbol .closeBracket)) || (← sees (.symbol .colon))
      let stop ← if atEnd then pure none else (do return some (← expr fuel))
      let step ←
        if ← skip (.symbol .colon) then
          if ← sees (.symbol .closeBracket) then pure none else (do return some (← expr fuel))
        else pure none
      expect (.symbol .closeBracket)
      return .slice value start stop step
    else
      expect (.symbol .closeBracket)
      match start with
      | some key => return .item value key
      | none => fail

/-- Reads the arguments of a call; `named` tells that one with a name has been read. -/
def arguments : (fuel : Nat) → (first named : Bool) → Read (List Argument)
  | 0, _, _ => fail
  | fuel + 1, first, named => do
    if ← skip (.symbol .closeParen) then return []
    if !first then
      expect (.symbol .comma)
      if ← skip (.symbol .closeParen) then return []
    if ← skip (.symbol .power) then
      let value ← expr fuel
      return .spreadNamed value :: (← arguments fuel false true)
    else if ← skip (.symbol .times) then
      let value ← expr fuel
      return .spread value :: (← arguments fuel false named)
    else
      match ← expr fuel with
      | .var text =>
        if ← skip (.symbol .assign) then
          let value ← level fuel 0
          return .named text value :: (← arguments fuel false true)
        else if named then fail
        else return .value (.var text) :: (← arguments fuel false false)
      | value =>
        if named then fail else return .value value :: (← arguments fuel false false)

/-- Reads filters and tests behind a value. -/
def filters : (fuel : Nat) → Expr → Read Expr
  | 0, _ => fail
  | fuel + 1, value => do
    if ← skip (.symbol .pipe) then
      let text ← name
      let found ← if ← skip (.symbol .openParen) then arguments fuel true false else pure []
      filters fuel (.filter value text found)
    else if ← skip (keyword "is") then
      let negated ← skip (keyword "not")
      let text ← name
      let found ←
        if ← skip (.symbol .openParen) then arguments fuel true false
        else if beginsTestArgument (← peek) then (do
          let argument ← unary fuel
          return [.value (← behind fuel argument)])
        else pure []
      let test : Expr := .test value text found
      filters fuel (if negated then .not test else test)
    else return value
end

/-! ## Statements -/

/-- Reads filters in a row, up to the end of the mark. -/
def filterChain : (fuel : Nat) → (first : Bool) → Read (List FilterCall)
  | 0, _ => fail
  | fuel + 1, first => do
    if ← sees .closeBlock then (if first then fail else return [])
    else
      if !first then expect (.symbol .pipe)
      let text ← name
      let found ← if ← skip (.symbol .openParen) then arguments fuel true false else pure []
      return ⟨text, found⟩ :: (← filterChain fuel false)

/-- Whether a token ends what something is assigned to. -/
def endsTarget : Option Token → Bool
  | some (.symbol .closeParen) => true
  | some .closeValue => true
  | some .closeBlock => true
  | some (.name text) => text = "in".toList
  | _ => false

mutual
/-- Reads what something is assigned to: a name, or names with commas between them. There may be
none. -/
def target : (fuel : Nat) → Read Target
  | 0 => fail
  | fuel + 1 => do
    if endsTarget (← peek) then return .list []
    let first ← oneTarget fuel
    if ← sees (.symbol .comma) then return .list (first :: (← targets fuel)) else return first

/-- Reads the further targets behind a comma. -/
def targets : (fuel : Nat) → Read (List Target)
  | 0 => fail
  | fuel + 1 => do
    if ← skip (.symbol .comma) then
      if endsTarget (← peek) then return []
      let next ← oneTarget fuel
      return next :: (← targets fuel)
    else return []

/-- Reads a name or targets in brackets. -/
def oneTarget : (fuel : Nat) → Read Target
  | 0 => fail
  | fuel + 1 => do
    if ← skip (.symbol .openParen) then
      let found ← target fuel
      expect (.symbol .closeParen)
      return found
    else return .name (← assignedName)
end

/-- Reads the attributes behind an assigned name. -/
def dotted : (fuel : Nat) → Expr → Target → Read Target
  | 0, _, _ => fail
  | fuel + 1, value, found => do
    if ← skip (.symbol .dot) then
      let text ← name
      dotted fuel (.field value text) (.field value text)
    else return found

/-- Reads the parameters of a macro, up to the closing bracket. -/
def signature : (fuel : Nat) → (first : Bool) → (defaults : Bool) → Read Signature
  | 0, _, _ => fail
  | fuel + 1, first, defaults => do
    if ← skip (.symbol .closeParen) then return ⟨[], []⟩
    if !first then
      expect (.symbol .comma)
      if ← skip (.symbol .closeParen) then return ⟨[], []⟩
    let parameter ← assignedName
    if ← skip (.symbol .assign) then
      let value ← expr fuel
      let rest ← signature fuel false true
      return ⟨parameter :: rest.parameters, value :: rest.defaults⟩
    else if defaults then fail
    else
      let rest ← signature fuel false false
      return ⟨parameter :: rest.parameters, rest.defaults⟩

/-- Passes over the words that say whether another template sees the names known here. It always
does. -/
def contextMarker : Read Unit := do
  let found ← if ← skip (keyword "with") then pure true else skip (keyword "without")
  if found then expect (keyword "context")

/-- Whether a mark ends next, or the words about the names known here follow. -/
def endsNames : Read Bool := do
  return (← sees .closeBlock) || (← sees (keyword "with")) || (← sees (keyword "without"))

/-- Reads the names that are imported. -/
def importedNames : (fuel : Nat) → (first : Bool) → Read (List (Text × Text))
  | 0, _ => fail
  | fuel + 1, first => do
    if ← endsNames then return []
    if !first then
      expect (.symbol .comma)
    if ← endsNames then return []
    let text ← assignedName
    let given ← if ← skip (keyword "as") then assignedName else pure text
    return (text, given) :: (← importedNames fuel false)

/-- Reads the assignments of a scope. -/
def assignments : (fuel : Nat) → (first : Bool) → Read (List (Target × Expr))
  | 0, _ => fail
  | fuel + 1, first => do
    if ← sees .closeBlock then return []
    if !first then expect (.symbol .comma)
    let found ← oneTarget fuel
    expect (.symbol .assign)
    let value ← expr fuel
    return (found, value) :: (← assignments fuel false)

mutual
/-- Reads nodes up to a statement with one of some keywords, or to the end of the template. The
keyword is left to be read. -/
def nodes : (fuel : Nat) → (ends : List Text) → Read (List Node)
  | 0, _ => fail
  | fuel + 1, ends => do
    let token ← peek
    match token with
    | none => return []
    | some (.data text) =>
      advance
      return .data text :: (← nodes fuel ends)
    | some .openValue =>
      advance
      let value ← expr fuel
      expect .closeValue
      return .write value :: (← nodes fuel ends)
    | some .openBlock =>
      advance
      match ← peek with
      | none => fail
      | some (.name text) =>
        if ends.contains text then return []
        else
          advance
          let node ← nested (statement fuel (String.ofList text))
          expect .closeBlock
          return node :: (← nodes fuel ends)
      | _ => fail
    | _ => fail

/-- Reads the nodes of a statement and the keyword that ends them. -/
def body : (fuel : Nat) → (last : String) → Read (List Node)
  | 0, _ => fail
  | fuel + 1, last => do
    expect .closeBlock
    let found ← nodes fuel [last.toList]
    expect (keyword last)
    return found

/-- Reads what follows the condition of a choice. -/
def choice : (fuel : Nat) → Read Node
  | 0 => fail
  | fuel + 1 => do
    let condition ← expr fuel
    expect .closeBlock
    let yes ← nodes fuel ["endif".toList, "else".toList, "elif".toList]
    match String.ofList (← name) with
    | "else" => return .ifElse condition yes (← body fuel "endif")
    | "elif" => return .ifElse condition yes [← choice fuel]
    | _ => return .ifElse condition yes []

/-- Reads a statement after its keyword, up to the end of its last mark. -/
def statement : (fuel : Nat) → (text : String) → Read Node
  | 0, _ => fail
  | fuel + 1, "if" => choice fuel
  | fuel + 1, "for" => do
    let found ← target fuel
    expect (keyword "in")
    let subject ← level fuel 0
    let condition ← if ← skip (keyword "if") then (do return some (← expr fuel)) else pure none
    let recursive ← skip (keyword "recursive")
    expect .closeBlock
    let inside ← nodes fuel ["endfor".toList, "else".toList]
    if ← skip (keyword "else") then
      return .loop found subject condition recursive inside (← body fuel "endfor")
    else
      expect (keyword "endfor")
      return .loop found subject condition recursive inside []
  | fuel + 1, "with" => do
    let found ← assignments fuel true
    return .scope found (← body fuel "endwith")
  | fuel + 1, "set" => do
    let inParen ← sees (.symbol .openParen)
    let found ←
      if inParen then oneTarget fuel
      else (do
        let text ← assignedName
        dotted fuel (.var text) (.name text))
    if !inParen && (← sees .closeBlock) then
      return .setBlock found [] (← body fuel "endset")
    else if !inParen && (← skip (.symbol .pipe)) then
      let chain ← filterChain fuel true
      return .setBlock found chain (← body fuel "endset")
    else
      expect (.symbol .assign)
      return .set found (← expr fuel)
  | fuel + 1, "autoescape" => do
    let mode ← expr fuel
    return .escaping mode (← body fuel "endautoescape")
  | fuel + 1, "filter" => do
    let chain ← filterChain fuel true
    return .filtered chain (← body fuel "endfilter")
  | fuel + 1, "block" => do
    let text ← name
    let state ← get
    if state.inMacro || state.names.contains text then fail
    set { state with names := text :: state.names }
    let inside ← body fuel "endblock"
    match ← peek with
    | some (.name other) => if other = text then advance else fail
    | _ => pure ()
    modify fun s => { s with blocks := s.blocks ++ [(text, inside)] }
    return .block text
  | fuel + 1, "extends" => return .inherit (← expr fuel)
  | fuel + 1, "include" => do
    let value ← expr fuel
    contextMarker
    if ← skip (keyword "ignore") then
      expect (keyword "missing")
      contextMarker
      return .includes value true
    else return .includes value false
  | fuel + 1, "import" => do
    let value ← expr fuel
    expect (keyword "as")
    let found ← oneTarget fuel
    contextMarker
    return .importAs value found
  | fuel + 1, "from" => do
    let value ← expr fuel
    expect (keyword "import")
    let names ← importedNames fuel true
    contextMarker
    return .importFrom value names
  | fuel + 1, "macro" => do
    let text ← name
    expect (.symbol .openParen)
    let found ← signature fuel true false
    return .macroDef text found (← macroBody fuel "endmacro")
  | fuel + 1, "call" => do
    let found ← if ← skip (.symbol .openParen) then signature fuel true false else pure ⟨[], []⟩
    match ← expr fuel with
    | .call of arguments =>
      return .callBlock found (.call of arguments) (← macroBody fuel "endcall")
    | _ => fail
  | fuel + 1, "do" => do
    match ← expr fuel with
    | .call of arguments => return .run (.call of arguments)
    | _ => fail
  | _ + 1, _ => fail

/-- Reads the nodes of a macro, in which there are no blocks. -/
def macroBody : (fuel : Nat) → (last : String) → Read (List Node)
  | 0, _ => fail
  | fuel + 1, last => do
    let outside := (← get).inMacro
    modify fun s => { s with inMacro := true }
    let found ← body fuel last
    modify fun s => { s with inMacro := outside }
    return found
end

end Read

/-- Reads a template, if it is well-formed. -/
def read? (text : Text) : Option Document :=
  (Token.ofTemplate? text).bind fun tokens =>
    match (Read.nodes (20 * tokens.length + 40) []).run ⟨tokens, 0, [], [], false⟩ with
    | some (nodes, reading) => some ⟨nodes, reading.blocks⟩
    | none => none

end DocSite.Template
