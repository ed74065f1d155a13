/-
# DocSite.Glob -- patterns of paths

A pattern is cut at its slashes, and each piece is matched against one name. `?` stands for a
character, `*` for any number of them, brackets for a set, and a piece `**` for any number of
directories. Pieces without such marks are followed without looking at names, so that they may be
dots.
-/
import DocSite.FileTree

set_option autoImplicit false

namespace DocSite.Glob

open Text

/-- A range of characters. -/
structure Range where
  first : Char
  last : Char
deriving DecidableEq, Repr

/-- One token of a pattern. -/
inductive Token where
  | char (c : Char)
  | anyChar
  | anyText
  | anyDirectories
  | oneOf (ranges : List Range)
  | noneOf (ranges : List Range)
deriving DecidableEq, Repr

/-- Whether a character is in one of some ranges. -/
def inRanges (ranges : List Range) (c : Char) : Bool :=
  ranges.any fun r => r.first.toNat ≤ c.toNat && c.toNat ≤ r.last.toNat

/-- The ranges written between brackets. -/
def readRanges : Text → List Range
  | a :: '-' :: b :: rest => ⟨a, b⟩ :: readRanges rest
  | a :: rest => ⟨a, a⟩ :: readRanges rest
  | [] => []

/-- What stands between brackets, and what follows them; the text begins after the opening
bracket. The first character of the set may be a closing bracket. -/
def splitBrackets? (text : Text) : Option (Text × Text) :=
  match text with
  | [] => none
  | c :: rest =>
    let inside := rest.takeWhile (· != ']')
    match rest.drop inside.length with
    | _ :: after => some (c :: inside, after)
    | [] => none

/-- Reads the tokens of a pattern; `fresh` tells that a piece has just begun, and `fuel` bounds
the characters read. -/
def tokens? (fresh : Bool) : (fuel : Nat) → Text → Option (List Token)
  | 0, _ => some []
  | _ + 1, [] => some []
  | fuel + 1, c :: rest =>
    if c = '?' then (tokens? false fuel rest).map (.anyChar :: ·)
    else if c = '*' then
      match rest with
      | '*' :: '*' :: _ => none
      | '*' :: after =>
        if !fresh then none
        else match after with
          | [] => some [.anyDirectories]
          | '/' :: after => (tokens? true fuel after).map (.anyDirectories :: ·)
          | _ => none
      | _ => (tokens? false fuel rest).map (.anyText :: ·)
    else if c = '[' then
      match rest with
      | '!' :: inside =>
        match splitBrackets? inside with
        | some (set, after) => (tokens? false fuel after).map (.noneOf (readRanges set) :: ·)
        | none => none
      | _ =>
        match splitBrackets? rest with
        | some (set, after) => (tokens? false fuel after).map (.oneOf (readRanges set) :: ·)
        | none => none
    else (tokens? (c == '/') fuel rest).map (.char c :: ·)

/-- The tokens of a pattern, if it is one. -/
def read? (text : Text) : Option (List Token) := tokens? true (text.length + 1) text

/-- Whether `more` accepts the text or the text without some of its first characters. -/
def anyEnd (more : Text → Bool) : Text → Bool
  | [] => more []
  | c :: rest => more (c :: rest) || anyEnd more rest

/-- Whether tokens match a name. -/
def accepts : List Token → Text → Bool
  | [], text => text.isEmpty
  | .anyText :: rest, text => anyEnd (accepts rest) text
  | .anyDirectories :: rest, text => anyEnd (accepts rest) text
  | _ :: _, [] => false
  | .char a :: rest, c :: text => a == c && accepts rest text
  | .anyChar :: rest, _ :: text => accepts rest text
  | .oneOf ranges :: rest, c :: text => inRanges ranges c && accepts rest text
  | .noneOf ranges :: rest, c :: text => !inRanges ranges c && accepts rest text

/-- The text that tokens without special meaning stand for. -/
def literal? : List Token → Option Text
  | [] => some []
  | .char c :: rest => (literal? rest).map (c :: ·)
  | _ => none

/-- Whether a piece of a pattern stands for any number of directories. -/
def isRecursive (piece : List Token) : Bool := piece.contains .anyDirectories

/-- The path of an entry of a directory. -/
def childPath (here : Path) (name : Text) : Path :=
  if here.text = ['.'] then ⟨name⟩ else here.join ⟨name⟩

/-- The names of what the directory at a path holds. -/
def namesIn (tree : FileTree) (here : Path) : List Text :=
  match tree.locate? here with
  | some place => (tree.children place).map Prod.fst
  | none => []

/-- The dots that a piece accepts, if it begins with one. -/
def dots (piece : List Token) : List Text :=
  if piece.head? = some (.char '.') then [['.', '.'], ['.']].filter (accepts piece ·) else []

/-- The paths that a piece with marks and those after it lead to through an entry of a directory.
`search` goes on from there. -/
def enter (tree : FileTree) (search : Path → List (List Token) → List Path) (here : Path)
    (piece : List Token) (rest : List (List Token)) (name : Text) : List Path :=
  let child := childPath here name
  if isRecursive piece then
    let collapsed := rest.dropWhile isRecursive
    let found := match collapsed with
      | [] => if tree.isDirectory child then [child] else []
      | next :: more =>
        if accepts next name then
          if more.isEmpty then [child] else search child more
        else []
    found ++ search child (piece :: collapsed)
  else if accepts piece name then
    if rest.isEmpty then [child] else search child rest
  else []

/-- The paths that pieces of a pattern lead to from a path, which is a directory or was found by
the piece before. `fuel` bounds the pieces and directories on the way. -/
def expand (tree : FileTree) : (fuel : Nat) → Path → List (List Token) → List Path
  | 0, _, _ => []
  | _ + 1, here, [] => [here]
  | fuel + 1, here, piece :: rest =>
    let isDirectory := tree.isDirectory here
    match literal? piece with
    | some name =>
      let next := childPath here name
      let dots := name = ['.'] || name = ['.', '.']
      if (dots && isDirectory) || (!dots && tree.exists? next) then expand tree fuel next rest
      else []
    | none =>
      if isDirectory then
        (dots piece).flatMap (fun name => expand tree fuel (here.join ⟨name⟩) rest) ++
          (namesIn tree here).flatMap (enter tree (expand tree fuel) here piece rest)
      else []

/-- The length of the longest place in a tree. -/
def depth (tree : FileTree) : Nat := (tree.entries.map fun entry => entry.1.length).foldl max 0

/-- As many pieces and directories as a pattern of some pieces can pass in a tree: between two pieces
it goes at most once from the root to the deepest place. -/
def bound (tree : FileTree) (pieces : Nat) : Nat := (pieces + 1) * (depth tree + 1)

/-- The pieces of a pattern between slashes; a slash at the end makes no piece. -/
def pieces (text : Text) : List Text :=
  let found := splitOn '/' text
  if found.getLast? = some [] then found.dropLast else found

/-- Where the search for a pattern begins. -/
def start (pattern : Path) : Path := ⟨if pattern.isAbsolute then ['/'] else ['.']⟩

/-- A pattern after the slash that it may begin with. -/
def afterRoot (pattern : Path) : Text :=
  if pattern.isAbsolute then pattern.text.drop 1 else pattern.text

/-- The paths that match a pattern, unless it is malformed. A pattern that ends with a slash
matches directories only. -/
def find? (pattern : Path) (tree : FileTree) : Option (List Path) :=
  if (read? pattern.text).isNone then none
  else
    match (pieces (afterRoot pattern)).mapM read? with
    | none => none
    | some found =>
      let found := if pattern.isAbsolute && (afterRoot pattern).isEmpty then [[]] else found
      if found.isEmpty then some []
      else
        let paths := expand tree (bound tree found.length) (start pattern) found
        some (if pattern.text.getLast? = some '/' then paths.filter (tree.isDirectory ·) else paths)

end DocSite.Glob
