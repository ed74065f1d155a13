/-
# DocSite.Page.Comment -- front matter within a comment

Sources that other tools read too may hide their front matter in a comment at their beginning.
The marks of the comment are taken off, so that the block stands alone.
-/
import DocSite.Page.FrontMatter
import DocSite.Page.Kind

set_option autoImplicit false

namespace DocSite.Page

open Text

/-- The marks of the comments that may hold the front matter of a source. -/
def commentMarks : Kind → List (Text × Text)
  | .markdown => []
  | .template => [(['\x7b', '#'], ['#', '\x7d']), ("<!--".toList, "-->".toList)]
  | .verbatim => [("<!--".toList, "-->".toList), (['/', '*'], ['*', '/'])]

/-- Takes the marks of one kind of comment off the front matter at the beginning of a source. -/
def unwrapMarks? (opening closing source : Text) : Option Text :=
  (dropPhrase? opening (trimStart source)).bind fun inner =>
    (splitFirst? closing inner).bind fun (before, after) =>
      let block := trim before
      if (FrontMatter.afterFence? block).isSome then some (block ++ '\n' :: dropBreaks after)
      else none

/-- Takes the marks of a comment off the front matter at the beginning of a source; nothing, if
there is no such comment. -/
def unwrapComment? (kind : Kind) (source : Text) : Option Text :=
  (commentMarks kind).findSome? fun (opening, closing) => unwrapMarks? opening closing source

end DocSite.Page
