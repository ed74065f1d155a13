/-
# DocSite.Path -- paths as they are written

A path is kept as it was written. What it means is the list of its parts: empty parts and dots
between slashes do not count, so that paths that are written differently may have the same parts.
-/
import DocSite.Text.Order

set_option autoImplicit false

namespace DocSite

open Text

/-- A path as written, with `/` between its parts. -/
structure Path where
  text : Text
deriving DecidableEq, Repr

namespace Path

/-- One part of a path. A dot counts only at the beginning of a relative path. -/
inductive Part where
  | root
  | here
  | up
  | name (text : Text)
deriving DecidableEq, Repr

/-- The part that stands between two slashes, if it counts. -/
def partOf? (piece : Text) : Option Part :=
  if piece.isEmpty || piece = ['.'] then none
  else if piece = ['.', '.'] then some .up
  else some (.name piece)

/-- The parts of a path. -/
def parts (p : Path) : List Part :=
  match splitOn '/' p.text with
  | [] => []
  | first :: rest =>
    let start : List Part :=
      if first.isEmpty then (if rest.isEmpty then [] else [.root])
      else if first = ['.'] then [.here]
      else (partOf? first).toList
    start ++ rest.filterMap partOf?

/-- Whether a path begins at the root. -/
def isAbsolute (p : Path) : Bool := p.text.head? == some '/'

/-- The last part of a path, if it is a name. -/
def name? (p : Path) : Option Text :=
  match p.parts.getLast? with
  | some (.name text) => some text
  | _ => none

/-- A file name cut at its last dot, if that is neither its first character nor missing. -/
def cutName (name : Text) : Text × Option Text :=
  match splitLast? '.' name with
  | some (before, after) => if before.isEmpty then (name, none) else (before, some after)
  | none => (name, none)

/-- The file name without its extension. -/
def stem? (p : Path) : Option Text := p.name?.map fun name => (cutName name).1

/-- The extension of the file name. -/
def extension? (p : Path) : Option Text := p.name?.bind fun name => (cutName name).2

/-- A file name up to the dot before its extension, this included. -/
def nameBase (name : Text) : Text :=
  match cutName name with
  | (before, some _) => before ++ ['.']
  | (before, none) => before

/-- A file name with another extension; an empty one leaves none. What would be one or two dots
alone without its extension is no file name, and gets none. -/
def nameWithExtension (extension name : Text) : Text :=
  let base := nameBase name
  if base.isEmpty || base = ['.'] || base = ['.', '.'] then base
  else if extension.isEmpty then (cutName name).1
  else (cutName name).1 ++ '.' :: extension

/-- What is left of `text` after `start`, if it begins so. -/
def dropParts? : (start parts : List Part) → Option (List Part)
  | [], parts => some parts
  | _ :: _, [] => none
  | s :: start, p :: parts => if s = p then dropParts? start parts else none

/-- The parts of a path below `root`, if it lies there. -/
def below? (root p : Path) : Option (List Part) := dropParts? root.parts p.parts

/-- Whether a path is `root` or lies below it. -/
def isWithin (root p : Path) : Bool := (below? root p).isSome

/-- The names among parts. -/
def names (parts : List Part) : List Text :=
  parts.filterMap fun
    | .name text => some text
    | _ => none

/-- A path followed from another one. An absolute path stands for itself. -/
def join (base p : Path) : Path :=
  if p.isAbsolute then p
  else if base.text.isEmpty || base.text.getLast? = some '/' then ⟨base.text ++ p.text⟩
  else ⟨base.text ++ '/' :: p.text⟩

/-- The shortest beginning of a text that has some parts as a path; `n` is the length to begin
with. -/
def shortestWith (parts : List Part) (text : Text) : (fuel n : Nat) → Text
  | 0, _ => text
  | fuel + 1, n =>
    if (Path.mk (text.take n)).parts = parts then text.take n
    else shortestWith parts text fuel (n + 1)

/-- The path without its last part, as it is written; nothing lies above the root, and nothing above
no path at all. -/
def parent? (p : Path) : Option Path :=
  match p.parts.getLast? with
  | none => none
  | some .root => none
  | some _ => some ⟨shortestWith p.parts.dropLast p.text p.text.length 0⟩

/-- The text of a part. -/
def Part.text : Part → Text
  | .root => ['/']
  | .here => ['.']
  | .up => ['.', '.']
  | .name text => text

/-- The path that stands for the same place wherever it is followed from, if it is not empty: one
that does not begin at the root is followed from `home`. Nothing is left out but dots and repeated
slashes; a slash at the end stays. -/
def absolute? (p home : Path) : Option Path :=
  if p.text.isEmpty then none
  else
    let twice := p.text.take 2 = ['/', '/'] && p.text.take 3 ≠ ['/', '/', '/']
    let start : Path := if twice then ⟨['/', '/']⟩ else if p.isAbsolute then ⟨['/']⟩ else home
    let rest := p.parts.filter fun part => part != .root && part != .here
    let path := rest.foldl (fun path part => path.join ⟨part.text⟩) start
    some (if p.text.getLast? = some '/' then path.join ⟨[]⟩ else path)

/-! ## Order -/

/-- The rank of a part among parts of other kinds. -/
def Part.rank : Part → Nat
  | .root => 0
  | .here => 1
  | .up => 2
  | .name _ => 3

/-- How two parts compare. -/
def Part.compare : Part → Part → Ordering
  | .name a, .name b => Text.compare a b
  | a, b => Ord.compare a.rank b.rank

/-- How two lists of parts compare. -/
def compareParts : List Part → List Part → Ordering
  | [], [] => .eq
  | [], _ :: _ => .lt
  | _ :: _, [] => .gt
  | a :: as, b :: bs =>
    match Part.compare a b with
    | .eq => compareParts as bs
    | other => other

/-- How two paths compare, part by part. -/
def compare (p q : Path) : Ordering := compareParts p.parts q.parts

/-! ## Texts of parts of a path -/

/-- Whether what stands between two slashes counts as a part. -/
def counts (piece : Text) : Bool := !piece.isEmpty && piece != ['.']

/-- The pieces after the first `n` that count. -/
def dropCounting : (n : Nat) → List Text → List Text
  | 0, pieces => pieces
  | _ + 1, [] => []
  | n + 1, piece :: rest =>
    if counts piece then dropCounting n rest else dropCounting (n + 1) rest

/-- A path below another one as it is written, if it lies there. What does not count as a part is
left out at its end; a path below no path keeps the slash or the dot that it begins with. -/
def textBelow? (root p : Path) : Option Text :=
  if isWithin root p then
    let dropEnd (pieces : List Text) := (pieces.reverse.dropWhile fun x => !counts x).reverse
    match root.parts with
    | [] =>
      let lead := match p.parts.head? with
        | some .root => 1
        | some .here => 1
        | _ => 0
      some (p.text.take lead ++ Text.join ['/'] (dropEnd (splitOn '/' (p.text.drop lead))))
    | parts =>
      let named := parts.countP fun part => part != .root && part != .here
      let pieces := dropCounting named (splitOn '/' p.text)
      some (Text.join ['/'] (dropEnd (pieces.dropWhile fun x => !counts x)))
  else none

end Path

end DocSite
