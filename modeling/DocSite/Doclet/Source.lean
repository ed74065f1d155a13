/-
# DocSite.Doclet.Source -- the files that patterns name

Patterns are taken relative to a base directory. One that names a directory stands for every file
below it with one of some extensions; any other one is matched against the paths that exist. Files
of tests do not count. The files come in the order of their paths, each path once.
-/
import DocSite.Glob

set_option autoImplicit false

namespace DocSite.Doclet

open Text

/-- Whether a file name is that of a test. -/
def isTestName (name : Text) : Bool :=
  containsPhrase ".test.".toList name || containsPhrase ".spec.".toList name

/-- Whether the file at a path is a test. -/
def isTest (p : Path) : Bool := isTestName (p.name?.getD [])

/-- Whether two texts are the same but for the case of the Latin letters `a` to `z`. -/
def sameLetters (a b : Text) : Bool := a.map Char.toLower == b.map Char.toLower

/-- Whether a path has one of some extensions. -/
def hasExtension (extensions : List Text) (p : Path) : Bool :=
  extensions.any (sameLetters (p.extension?.getD []))

/-- Puts a path into a list in order, unless the same path is there. -/
def insertPath (p : Path) : List Path → List Path
  | [] => [p]
  | q :: rest =>
    match Path.compare p q with
    | .lt => p :: q :: rest
    | .eq => q :: rest
    | .gt => q :: insertPath p rest

/-- The files below a directory, with paths that begin with the path of the directory. -/
def filesBelow (tree : FileTree) (directory : Path) : List Path :=
  match tree.locate? directory with
  | none => []
  | some place => (tree.below place).filterMap fun (names, entry) =>
    match entry with
    | .file _ => some (directory.join ⟨join ['/'] names⟩)
    | .directory => none

/-- The files that one pattern names, in no particular order, unless it is malformed. -/
def namedFiles? (tree : FileTree) (base : Path) (extensions : List Text) (pattern : Text) :
    Option (List Path) :=
  let full := base.join ⟨pattern⟩
  if tree.isDirectory full then
    some ((filesBelow tree full).filter fun p => hasExtension extensions p && !isTest p)
  else (Glob.find? full tree).map fun paths => paths.filter fun p => tree.isFile p && !isTest p

/-- Adds the files that a pattern names to those that have been found. -/
def addNamed (tree : FileTree) (base : Path) (extensions : List Text) (found : List Path)
    (pattern : Text) : Except Text (List Path) :=
  match namedFiles? tree base extensions pattern with
  | some paths => .ok (paths.foldl (fun found p => insertPath p found) found)
  | none => .error pattern

/-- The files that patterns name. Fails with the first pattern that is malformed. -/
def collect (tree : FileTree) (base : Path) (extensions : List Text) (patterns : List Text) :
    Except Text (List Path) := patterns.foldlM (addNamed tree base extensions) []

/-- A path as doclets show it: relative to the base directory if it lies there. -/
def displayPath (p base : Path) : Text :=
  ((Path.textBelow? base p).getD p.text).map fun c => if c == '\\' then '/' else c

end DocSite.Doclet
