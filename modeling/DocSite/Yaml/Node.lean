/-
# DocSite.Yaml.Node -- the tree of a YAML document

Tokens are put together to a tree in which scalars are still text and aliases still numbers.
An anchor gets the number of anchor names known before it, and an alias stands for the last node
that got its number. So an anchor that is declared twice leaves its second number to the next one.
-/
import DocSite.Yaml.Token

set_option autoImplicit false

namespace DocSite.Yaml

open Text

/-- A node of the tree, with its tag in full. -/
inductive Node where
  | scalar (tag : Option Text) (plain : Bool) (text : Text)
  | sequence (tag : Option Text) (items : List Node)
  | mapping (tag : Option Text) (entries : List (Node × Node))
  | alias (number : Nat)
deriving Repr

namespace Node

/-- What is known while a tree is read: the tokens left, the numbers of the anchor names, the
anchored nodes in order of their beginnings by number and place, the finished ones by place, the
short forms of tags, and the number of events so far. -/
structure Reading where
  tokens : List Token
  names : List (Text × Nat)
  places : List (Nat × Nat)
  finished : List (Nat × Node)
  shorts : List (Text × Text)
  events : Nat

/-- An empty text without quotes. -/
def nothing : Node := .scalar none true []

namespace Reading

/-- Drops the first token. -/
def next (r : Reading) : Reading := { r with tokens := r.tokens.drop 1 }

/-- Counts events. -/
def count (n : Nat) (r : Reading) : Reading := { r with events := r.events + n }

/-- Notes the beginning of a node with an anchor; answers its place. -/
def note (name : Text) (r : Reading) : Nat × Reading :=
  let number := r.names.length
  let place := r.places.length
  (place, { r with
    names := (name, number) :: r.names.filter fun known => known.1 != name
    places := (number, place) :: r.places })

/-- The full form of a tag. -/
def fullTag? (handle rest : Text) (r : Reading) : Option Text :=
  if handle.isEmpty then some rest else (r.shorts.lookup handle).map (· ++ rest)

/-- Takes the anchor and the tag before a node, in either order. -/
def properties? (r : Reading) : Option (Option Text × Option Text × Reading) :=
  match r.tokens with
  | .anchor name :: .tag handle rest :: tokens =>
    (r.fullTag? handle rest).map fun tag => (some name, some tag, { r with tokens := tokens })
  | .tag handle rest :: .anchor name :: tokens =>
    (r.fullTag? handle rest).map fun tag => (some name, some tag, { r with tokens := tokens })
  | .anchor name :: tokens => some (some name, none, { r with tokens := tokens })
  | .tag handle rest :: tokens =>
    (r.fullTag? handle rest).map fun tag => (none, some tag, { r with tokens := tokens })
  | _ => some (none, none, r)

end Reading

/-- Whether a list of tokens begins with one of those given. -/
def startsWith (marks : List Token) (tokens : List Token) : Bool :=
  match tokens with
  | token :: _ => marks.contains token
  | [] => false

mutual
/-- Reads a node. Blocks may begin here only if `block` holds, and entries of a sequence without
indentation only if `bare` does. -/
def node? : (fuel : Nat) → (block bare : Bool) → Reading → Option (Node × Reading)
  | 0, _, _, _ => none
  | fuel + 1, block, bare, r =>
    match r.tokens with
    | .alias name :: _ =>
      (r.names.lookup name).map fun number => (.alias number, r.next.count 1)
    | _ =>
      match r.properties? with
      | none => none
      | some (anchor, tag, r) =>
        let (place?, r) := match anchor with
          | some name => (some (r.note name).1, (r.note name).2)
          | none => (none, r)
        match content? fuel block bare (anchor.isSome || tag.isSome) tag r with
        | none => none
        | some (found, r) =>
          match place? with
          | some place => some (found, { r with finished := (place, found) :: r.finished })
          | none => some (found, r)

/-- Reads a node after its anchor and tag. -/
def content? : (fuel : Nat) → (block bare optional : Bool) → (tag : Option Text) → Reading →
    Option (Node × Reading)
  | 0, _, _, _, _, _ => none
  | fuel + 1, block, bare, optional, tag, r =>
    match r.tokens with
    | .entry :: _ =>
      if bare then
        (bareItems? fuel r).map fun (items, r) => (.sequence tag items, r.count 2)
      else if optional then some (.scalar tag true [], r.count 1) else none
    | .scalar plain text :: _ => some (.scalar tag plain text, r.next.count 1)
    | .flowSequence :: _ =>
      (flowItems? fuel true r.next).map fun (items, r) => (.sequence tag items, r.count 2)
    | .flowMapping :: _ =>
      (flowEntries? fuel true r.next).map fun (entries, r) => (.mapping tag entries, r.count 2)
    | .blockSequence :: _ =>
      if block then
        (blockItems? fuel r.next).map fun (items, r) => (.sequence tag items, r.count 2)
      else if optional then some (.scalar tag true [], r.count 1) else none
    | .blockMapping :: _ =>
      if block then
        (blockEntries? fuel r.next).map fun (entries, r) => (.mapping tag entries, r.count 2)
      else if optional then some (.scalar tag true [], r.count 1) else none
    | _ => if optional then some (.scalar tag true [], r.count 1) else none

/-- Reads a node, or nothing if one of the tokens `ends` comes next. -/
def optional? : (fuel : Nat) → (block bare : Bool) → (ends : List Token) → Reading →
    Option (Node × Reading)
  | 0, _, _, _, _ => none
  | fuel + 1, block, bare, ends, r =>
    if startsWith ends r.tokens then some (nothing, r.count 1) else node? fuel block bare r

/-- Reads the entries of a block sequence. -/
def blockItems? : (fuel : Nat) → Reading → Option (List Node × Reading)
  | 0, _ => none
  | fuel + 1, r =>
    match r.tokens with
    | .entry :: _ =>
      match optional? fuel true false [.entry, .blockEnd] r.next with
      | none => none
      | some (item, r) => (blockItems? fuel r).map fun (items, r) => (item :: items, r)
    | .blockEnd :: _ => some ([], r.next)
    | _ => none

/-- Reads the entries of a sequence that is not indented further than what it stands in. -/
def bareItems? : (fuel : Nat) → Reading → Option (List Node × Reading)
  | 0, _ => none
  | fuel + 1, r =>
    match r.tokens with
    | .entry :: _ =>
      match optional? fuel true false [.entry, .key, .value, .blockEnd] r.next with
      | none => none
      | some (item, r) => (bareItems? fuel r).map fun (items, r) => (item :: items, r)
    | _ => some ([], r)

/-- Reads the entries of a block mapping. -/
def blockEntries? : (fuel : Nat) → Reading → Option (List (Node × Node) × Reading)
  | 0, _ => none
  | fuel + 1, r =>
    let ends := [Token.key, .value, .blockEnd]
    match r.tokens with
    | .key :: _ =>
      match optional? fuel true true ends r.next with
      | none => none
      | some (key, r) =>
        let value? := match r.tokens with
          | .value :: _ => optional? fuel true true ends r.next
          | _ => some (nothing, r.count 1)
        match value? with
        | none => none
        | some (value, r) =>
          (blockEntries? fuel r).map fun (entries, r) => ((key, value) :: entries, r)
    | .blockEnd :: _ => some ([], r.next)
    | _ => none

/-- Reads the items of a sequence between brackets. -/
def flowItems? : (fuel : Nat) → (first : Bool) → Reading → Option (List Node × Reading)
  | 0, _, _ => none
  | fuel + 1, first, r =>
    match r.tokens with
    | .flowSequenceEnd :: _ => some ([], r.next)
    | token :: _ =>
      if !first && token != .comma then none
      else
        let r := if first then r else r.next
        match r.tokens with
        | .flowSequenceEnd :: _ => some ([], r.next)
        | .key :: _ =>
          match flowPair? fuel r.next with
          | none => none
          | some (pair, r) =>
            (flowItems? fuel false r).map fun (items, r) => (.mapping none [pair] :: items, r)
        | _ =>
          match node? fuel false false r with
          | none => none
          | some (item, r) => (flowItems? fuel false r).map fun (items, r) => (item :: items, r)
    | [] => none

/-- Reads a key and a value that stand alone in a sequence. -/
def flowPair? : (fuel : Nat) → Reading → Option ((Node × Node) × Reading)
  | 0, _ => none
  | fuel + 1, r =>
    let key? := if startsWith [.value, .comma, .flowSequenceEnd] r.tokens
      then some (nothing, r.next.count 1) else node? fuel false false r
    match key? with
    | none => none
    | some (key, r) =>
      let value? := match r.tokens with
        | .value :: _ => optional? fuel false false [.comma, .flowSequenceEnd] r.next
        | _ => some (nothing, r.count 1)
      value?.map fun (value, r) => ((key, value), r.count 2)

/-- Reads the entries of a mapping between brackets. -/
def flowEntries? : (fuel : Nat) → (first : Bool) → Reading → Option (List (Node × Node) × Reading)
  | 0, _, _ => none
  | fuel + 1, first, r =>
    match r.tokens with
    | .flowMappingEnd :: _ => some ([], r.next)
    | token :: _ =>
      if !first && token != .comma then none
      else
        let r := if first then r else r.next
        match r.tokens with
        | .flowMappingEnd :: _ => some ([], r.next)
        | .key :: _ =>
          match optional? fuel false false [.value, .comma, .flowMappingEnd] r.next with
          | none => none
          | some (key, r) =>
            let value? := match r.tokens with
              | .value :: _ => optional? fuel false false [.comma, .flowMappingEnd] r.next
              | _ => some (nothing, r.count 1)
            match value? with
            | none => none
            | some (value, r) =>
              (flowEntries? fuel false r).map fun (entries, r) => ((key, value) :: entries, r)
        | _ =>
          match node? fuel false false r with
          | none => none
          | some (key, r) =>
            (flowEntries? fuel false (r.count 1)).map fun (entries, r) =>
              ((key, nothing) :: entries, r)
    | [] => none
end

/-- The short forms that every document knows. -/
def standardShorts : List (Text × Text) :=
  [(['!'], ['!']), (['!', '!'], "tag:yaml.org,2002:".toList)]

/-- Reads the directives before a document. -/
def directives? (version : Bool) (own : List (Text × Text)) :
    List Token → Option (Bool × List (Text × Text) × List Token)
  | .version major minor :: rest =>
    if version || major ≠ 1 || !(minor = 1 || minor = 2) then none
    else directives? true own rest
  | .tagShort handle full :: rest =>
    if own.any fun known => known.1 == handle then none
    else directives? version (own ++ [(handle, full)]) rest
  | tokens => some (version || !own.isEmpty, own ++ standardShorts, tokens)

/-- The tree of the only document of a text, with what is known of its anchors; nothing, if the
text has no document. Fails on a text that is no YAML or has several documents. -/
def read? (text : Text) : Option (Option (Node × Reading)) :=
  (Token.scan? text).bind fun tokens =>
    let fuel := 4 * tokens.length + 8
    match directives? false [] tokens with
    | none => none
    | some (declared, shorts, tokens) =>
      let start (tokens : List Token) : Reading := ⟨tokens, [], [], [], shorts, 0⟩
      let found? : Option (Option (Node × Reading)) := match tokens with
        | .documentStart :: rest =>
          match rest with
          | .documentEnd :: _ => some (some (nothing, start rest))
          | [] => some (some (nothing, start rest))
          | _ => (node? fuel true false (start rest)).map some
        | [] => if declared then none else some none
        | tokens => if declared then none else (node? fuel true false (start tokens)).map some
      match found? with
      | none => none
      | some none => some none
      | some (some (node, r)) =>
        if r.tokens.all (· == .documentEnd) then some (some (node, r)) else none

end Node

end DocSite.Yaml
