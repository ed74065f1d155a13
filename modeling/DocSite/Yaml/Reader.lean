/-
# DocSite.Yaml.Reader -- values from YAML documents

The tree of a document becomes a value: scalars without quotes are resolved, aliases stand for
what they name, and tags of the document's own stay around their values. A mapping must not have
the same key twice, nesting is limited, and so is how often aliases are followed.
-/
import DocSite.Yaml.Node
import DocSite.Yaml.Scalar

set_option autoImplicit false

namespace DocSite.Yaml

/-- How deep values may be nested. -/
def maxDepth : Nat := 128

namespace Reader

/-- A name without the mark it begins with; a mark alone is a name. -/
def dropMark : Text → Text
  | '!' :: c :: rest => c :: rest
  | name => name

/-- The tag that stays around a value: one that begins with an exclamation mark. Its name has one
mark more in front, and up to two of the document's marks are none of its name. -/
def ownTag? (tag : Option Text) : Option Text :=
  (tag.filter fun text => text.head? == some '!').map fun text => '!' :: dropMark (dropMark text)

/-- A value within its tag. -/
def withTag (tag : Option Text) (value : Value) : Value :=
  match ownTag? tag with
  | some text => .tagged text value
  | none => value

/-- What aliases stand for, and how often they may be followed in all. -/
structure Context where
  target? : Nat → Option Node
  limit : Nat

/-- The context of a tree. -/
def contextOf (r : Node.Reading) : Context :=
  ⟨fun number => (r.places.lookup number).bind fun place => r.finished.lookup place, 100 * r.events⟩

/-- The value of a scalar. -/
def scalar? (tag : Option Text) (plain : Bool) (text : Text) : Option Value :=
  match ownTag? tag, tag with
  | some own, _ =>
    (if plain then Scalar.resolve? text else some (.string text)).map (.tagged own)
  | none, some known => Scalar.resolveTagged? known text plain
  | none, none => if plain then Scalar.resolve? text else some (.string text)

/-- Whether a key is among entries. -/
def hasKey (key : Value) (entries : List (Value × Value)) : Bool :=
  entries.any fun entry => key.same entry.1

/-- The values of items, read one after the other by `read`. -/
def items? (read : Nat → Node → Option (Value × Nat)) (jumps : Nat) :
    List Node → Option (List Value × Nat)
  | [] => some ([], jumps)
  | node :: rest =>
    (read jumps node).bind fun (value, jumps) =>
      (items? read jumps rest).map fun (values, jumps) => (value :: values, jumps)

/-- The entries of a mapping, read one after the other by `read`; `known` are those before, the
last first. -/
def entries? (read : Nat → Node → Option (Value × Nat)) (jumps : Nat)
    (known : List (Value × Value)) : List (Node × Node) → Option (List (Value × Value) × Nat)
  | [] => some (known.reverse, jumps)
  | (keyNode, valueNode) :: rest =>
    (read jumps keyNode).bind fun (key, jumps) =>
      if hasKey key known then none
      else (read jumps valueNode).bind fun (value, jumps) =>
        entries? read jumps ((key, value) :: known) rest

/-- The value of a node. `depth` is how much deeper values may be nested, and `jumps` counts the
aliases followed so far; `fuel` bounds both kinds of steps. -/
def value? (context : Context) : (fuel depth jumps : Nat) → Node → Option (Value × Nat)
  | 0, _, _, _ => none
  | fuel + 1, depth, jumps, node =>
    match node with
    | .alias number =>
      if context.limit ≤ jumps then none
      else (context.target? number).bind (value? context fuel depth (jumps + 1))
    | .scalar tag plain text => (scalar? tag plain text).map (·, jumps)
    | .sequence tag items =>
      if depth = 0 then none
      else (items? (value? context fuel (depth - 1)) jumps items).map fun (values, jumps) =>
        (withTag tag (.sequence values), jumps)
    | .mapping tag entries =>
      if depth = 0 then none
      else (entries? (value? context fuel (depth - 1)) jumps [] entries).map
        fun (values, jumps) => (withTag tag (.mapping values), jumps)

end Reader

/-- Reads the only document of a text; a text without one stands for nothing. -/
def read? (text : Text) : Option Value :=
  match Node.read? text with
  | none => none
  | some none => some .null
  | some (some (node, r)) =>
    (Reader.value? (Reader.contextOf r) (2 * maxDepth + 2) maxDepth 0 node).map (·.1)

end DocSite.Yaml
