/-
# DocSite.FileTree -- directories and files

A tree of files is a list of the absolute places that are taken, in order, each with what is
there; a place is given by the names that lead to it from the root. Every place below another one
lies in a directory. Relative paths are followed from the place `home`.
-/
import DocSite.Path

set_option autoImplicit false

namespace DocSite

/-- What a file holds: text, or bytes that are none. -/
inductive Content where
  | text (value : Text)
  | bytes (value : List UInt8)
deriving DecidableEq, Repr

/-- What is at a place. -/
inductive Entry where
  | file (content : Content)
  | directory
deriving DecidableEq, Repr

/-- A tree of files. -/
structure FileTree where
  entries : List (List Text × Entry)
  home : List Text
deriving DecidableEq, Repr

namespace FileTree

/-- How two places compare, name by name. -/
def comparePlaces : List Text → List Text → Ordering
  | [], [] => .eq
  | [], _ :: _ => .lt
  | _ :: _, [] => .gt
  | a :: as, b :: bs =>
    match Text.compare a b with
    | .eq => comparePlaces as bs
    | other => other

/-- The tree in which nothing but the root exists. -/
def empty (home : List Text) : FileTree := ⟨[], home⟩

/-- What is at a place. -/
def lookup (place : List Text) (t : FileTree) : Option Entry :=
  if place.isEmpty then some .directory else List.lookup place t.entries

/-- Whether a place is a directory. -/
def isDirectoryAt (place : List Text) (t : FileTree) : Bool := t.lookup place == some .directory

/-- Whether a place is a file. -/
def isFileAt (place : List Text) (t : FileTree) : Bool :=
  match t.lookup place with
  | some (.file _) => true
  | _ => false

/-- The list with a place taken, in order. -/
def insertEntry (place : List Text) (entry : Entry) :
    List (List Text × Entry) → List (List Text × Entry)
  | [] => [(place, entry)]
  | (p, e) :: rest =>
    match comparePlaces place p with
    | .lt => (place, entry) :: (p, e) :: rest
    | .eq => (place, entry) :: rest
    | .gt => (p, e) :: insertEntry place entry rest

/-- The tree with a place taken. -/
def put (place : List Text) (entry : Entry) (t : FileTree) : FileTree :=
  { t with entries := insertEntry place entry t.entries }

/-- The tree without a place and all below it. -/
def remove (place : List Text) (t : FileTree) : FileTree :=
  { t with entries := t.entries.filter fun (p, _) => !place.isPrefixOf p }

/-- What is below a place, in order; the names begin at that place. -/
def below (place : List Text) (t : FileTree) : List (List Text × Entry) :=
  t.entries.filterMap fun (p, e) =>
    if place.isPrefixOf p && p.length ≠ place.length then some (p.drop place.length, e) else none

/-- What is directly in a directory, in order. -/
def children (place : List Text) (t : FileTree) : List (Text × Entry) :=
  (t.below place).filterMap fun
    | ([name], e) => some (name, e)
    | _ => none

/-! ## Paths -/

/-- The place that parts lead to from another place, if the directories on the way exist. -/
def follow (t : FileTree) : List Text → List Path.Part → Option (List Text)
  | place, [] => some place
  | place, part :: rest =>
    match part with
    | .root => follow t [] rest
    | .here => follow t place rest
    | .up => if t.isDirectoryAt place then follow t place.dropLast rest else none
    | .name name => if t.isDirectoryAt place then follow t (place ++ [name]) rest else none

/-- The place of a path, if the directories on the way exist. -/
def locate? (p : Path) (t : FileTree) : Option (List Text) := t.follow t.home p.parts

/-- Whether a path ends with a name, and not with a slash or dots. -/
def endsWithName (p : Path) : Bool :=
  p.name?.isSome && (Text.splitOn '/' p.text).getLast? == p.name?

/-- What is at a path. A path that ends with a slash or dots must lead to a directory. -/
def entryAt? (p : Path) (t : FileTree) : Option Entry :=
  if p.text.isEmpty then none
  else ((t.locate? p).bind t.lookup).filter fun e => e == .directory || endsWithName p

/-- Whether a path leads to anything. -/
def exists? (p : Path) (t : FileTree) : Bool := (t.entryAt? p).isSome

/-- Whether a path leads to a directory. -/
def isDirectory (p : Path) (t : FileTree) : Bool := t.entryAt? p == some .directory

/-- Whether a path leads to a file. -/
def isFile (p : Path) (t : FileTree) : Bool :=
  match t.entryAt? p with
  | some (.file _) => true
  | _ => false

/-- The text of the file at a path, if there is one and it holds text. -/
def readText? (p : Path) (t : FileTree) : Option Text :=
  match t.entryAt? p with
  | some (.file (.text value)) => some value
  | _ => none

/-- Whether the way from a place along parts leads through a file. -/
def passesFile (t : FileTree) : List Text → List Path.Part → Bool
  | _, [] => false
  | place, part :: rest =>
    let next := match part with
      | .root => []
      | .here => place
      | .up => place.dropLast
      | .name name => place ++ [name]
    if t.isFileAt next then !rest.isEmpty else passesFile t next rest

/-- Whether a path leads to nothing because there is a file where it needs a directory. -/
def isBlocked (p : Path) (t : FileTree) : Bool :=
  t.passesFile t.home p.parts ||
    (p.text.getLast? == some '/' && (t.locate? p).any fun place => t.isFileAt place)

/-- The path of a place. -/
def pathOf (place : List Text) : Path := ⟨'/' :: Text.join ['/'] place⟩

/-! ## Changes -/

/-- Makes a directory and those it lies in; fails if a file is in the way. `made` is the place of
the directories already looked at. -/
def makeDirectories? (t : FileTree) (made : List Text) : List Text → Option FileTree
  | [] => some t
  | name :: rest =>
    let place := made ++ [name]
    match t.lookup place with
    | some .directory => makeDirectories? t place rest
    | some (.file _) => none
    | none => makeDirectories? (t.put place .directory) place rest

/-- Makes the directory at a place and those it lies in. -/
def makeDirectory? (place : List Text) (t : FileTree) : Option FileTree :=
  t.makeDirectories? [] place

/-- Writes a file into a directory that exists; fails if a directory is in the way. -/
def writeFile? (place : List Text) (content : Content) (t : FileTree) : Option FileTree :=
  if place.isEmpty || !t.isDirectoryAt place.dropLast || t.isDirectoryAt place then none
  else some (t.put place (.file content))

/-- Writes a file and makes the directories that it lies in. -/
def writeWithDirectories? (place : List Text) (content : Content) (t : FileTree) :
    Option FileTree :=
  (t.makeDirectory? place.dropLast).bind fun t => t.writeFile? place content

/-- Why a directory cannot be made, or a file not written. -/
inductive Fault where
  | taken
  | notDirectory
  | isDirectory
deriving DecidableEq, Repr

/-- The text of a fault. -/
def Fault.message : Fault → Text
  | taken => "File exists (os error 17)".toList
  | notDirectory => "Not a directory (os error 20)".toList
  | isDirectory => "Is a directory (os error 21)".toList

/-- Follows parts from a place and makes the directories that are missing on the way; fails if a
file is in the way. -/
def reach (t : FileTree) (place : List Text) : List Path.Part → Except Fault (FileTree × List Text)
  | [] => .ok (t, place)
  | .root :: rest => reach t [] rest
  | .here :: rest => reach t place rest
  | .up :: rest => reach t place.dropLast rest
  | .name name :: rest =>
    match t.lookup (place ++ [name]) with
    | some .directory => reach t (place ++ [name]) rest
    | some (.file _) => .error (if rest.isEmpty then .taken else .notDirectory)
    | none => reach (t.put (place ++ [name]) .directory) (place ++ [name]) rest

/-- Makes the directory at a path and those it lies in. -/
def makePath (p : Path) (t : FileTree) : Except Fault FileTree :=
  (t.reach t.home p.parts).map Prod.fst

/-- Makes the directories that the file at a path lies in. -/
def makeParents (p : Path) (t : FileTree) : Except Fault FileTree :=
  (t.reach t.home p.parts.dropLast).map Prod.fst

/-- Writes a text to the file at a path, in a directory that exists. -/
def writeText (p : Path) (text : Text) (t : FileTree) : Except Fault FileTree :=
  if !endsWithName p then .error .isDirectory
  else match t.locate? p with
    | none => .error .notDirectory
    | some place =>
      match t.writeFile? place (.text text) with
      | some t => .ok t
      | none => .error .isDirectory

/-- Removes the file at a path, if there is one. -/
def removeFile (p : Path) (t : FileTree) : FileTree :=
  match t.entryAt? p, t.locate? p with
  | some (.file _), some place => t.remove place
  | _, _ => t

/-- Moves what is at a place, with all below it, to another place in a directory that exists. What is
there is replaced. -/
def move (place target : List Text) (t : FileTree) : FileTree :=
  if (t.lookup place).isNone || !t.isDirectoryAt target.dropLast || place.isPrefixOf target then t
  else
    let moved := t.entries.filter fun (p, _) => place.isPrefixOf p
    moved.foldl (fun t (p, e) => t.put (target ++ p.drop place.length) e)
      ((t.remove place).remove target)

/-- The files below a directory with their places below it, and the directories that have no
entries. -/
def snapshot (place : List Text) (t : FileTree) : List (List Text × Option Content) :=
  (t.below place).filterMap fun (p, e) =>
    match e with
    | .file content => some (p, some content)
    | .directory =>
      if (t.children (place ++ p)).isEmpty then some (p, none) else none

end FileTree

end DocSite
