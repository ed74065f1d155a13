/-
# DocSite.Page.Location -- where a page stands in the site

Sources may be given an order by a number and a hyphen in front of their names. The output path of
a page is its place below the page root, without this number and with the extension of the site.
-/
import DocSite.Number.Power
import DocSite.Path

set_option autoImplicit false

namespace DocSite.Page

open Text

/-- The greatest order that can be given. -/
def maxOrder : Nat := twoTo 63 - 1

/-- Splits a file name into the order in front of it and the name proper. -/
def splitOrder? (name : Text) : Option (Nat × Text) :=
  let digits := name.takeWhile Char.isDigit
  match name.drop digits.length with
  | '-' :: c :: rest =>
    if digits.isEmpty || maxOrder < readDecimal digits then none
    else some (readDecimal digits, c :: rest)
  | _ => none

/-- A file name without the order in front of it. -/
def withoutOrder (name : Text) : Text :=
  match splitOrder? name with
  | some (_, rest) => rest
  | none => name

/-- The names that lead to a page: below the page root, or the bare file name of a source outside
of it. -/
def sourceNames (path root : Path) : List Text :=
  match Path.below? root path with
  | some parts => Path.names parts
  | none => match path.name? with
    | some name => [name]
    | none => Path.names path.parts

/-- The file name of a page in the output. -/
def outputName (extension name : Text) : Text :=
  Path.nameWithExtension extension (withoutOrder name)

/-- The names that lead to a page in the output. -/
def outputNames (extension : Text) : List Text → List Text
  | [] => []
  | [name] => [outputName extension name]
  | name :: rest => name :: outputNames extension rest

/-- The path that identifies a page within the site. -/
def outputPath (path root : Path) (extension : Text) : Text :=
  join ['/'] (outputNames extension (sourceNames path root))

end DocSite.Page
