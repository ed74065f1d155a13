/-
# DocSite.Text.Slug -- texts as parts of addresses

A slug is made of words of letters and digits in lower case, with a hyphen between neighbours.
White space, hyphens and underscores separate words; other characters are dropped.
-/
import DocSite.Text.Basic
import DocSite.Text.Case
import DocSite.Text.Letter

set_option autoImplicit false

namespace DocSite.Text

/-- A character that separates the words of a slug. -/
def isSeparator (c : Char) : Bool := isBlank c || c == '-' || c == '_'

/-- What a character contributes to a slug, if anything. -/
def slugChar? (c : Char) : Option Char :=
  if isAlphanumeric c then some c else if isSeparator c then some '-' else none

/-- The words of the slug of a text. -/
def slugWords (text : Text) : List Text :=
  (splitOn '-' ((toLower text).filterMap slugChar?)).filter fun word => !word.isEmpty

/-- The slug of a text; it may be empty. -/
def slug (text : Text) : Text := join ['-'] (slugWords text)

end DocSite.Text
