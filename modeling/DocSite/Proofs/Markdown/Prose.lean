/-
# DocSite.Proofs.Markdown.Prose -- running text with links in it

A line of running text is text with elements between: code, addresses, images, links with a destination
of their own and links to a definition. Links and images have text inside, links no other links.
`Prose.source` is how such a line is written and `Prose.inlines` what it means; `Prose.isProper` bounds
the characters that may stand in its parts, so that none of them is a mark.
-/
import DocSite.Markdown.Retarget
import DocSite.Proofs.Markdown.Cutting

set_option autoImplicit false

namespace DocSite.Markdown

open Text

mutual

/-- A line of running text: text, and elements with text between them. -/
inductive Prose where
  | last (text : Text)
  | next (text : Text) (element : Element) (rest : Prose)

/-- An element of running text. -/
inductive Element where
  | code (text : Text)
  | address (scheme rest : Text)
  | image (alt : Prose) (dest : Text) (title : Option Text)
  | link (inner : Prose) (dest : Text) (title : Option Text)
  | reference (inner : Prose) (label : Text)

end

/-! ## Writing -/

/-- How a title is written. -/
def titleSource : Option Text → Text
  | none => []
  | some title => ' ' :: '"' :: (title ++ ['"'])

/-- How a destination and a title are written after the text of a link, up to the last parenthesis. -/
def targetSource (dest : Text) (title : Option Text) : Text := '(' :: (dest ++ titleSource title)

mutual

/-- How a line of running text is written. -/
def Prose.source : Prose → Text
  | .last text => text
  | .next text element rest => text ++ (element.source ++ rest.source)

/-- How an element is written. -/
def Element.source : Element → Text
  | .code text => '\x60' :: (text ++ ['\x60'])
  | .address scheme rest => '<' :: (scheme ++ ':' :: rest ++ ['>'])
  | .image alt dest title => '!' :: '[' :: (alt.source ++ ']' :: (targetSource dest title ++ [')']))
  | .link inner dest title => '[' :: (inner.source ++ ']' :: (targetSource dest title ++ [')']))
  | .reference inner label => '[' :: (inner.source ++ ']' :: '[' :: (label ++ [']']))

end

/-! ## Meaning -/

/-- Text as a piece, if there is any. -/
def textInlines (text : Text) : List Inline := if text.isEmpty then [] else [.text text]

mutual

/-- What a line of running text means that begins at an offset. -/
def Prose.inlines (targets : Targets) (offset : Nat) : Prose → List Inline
  | .last text => textInlines text
  | .next text element rest =>
    textInlines text ++ element.inline targets (offset + text.length) ::
      rest.inlines targets (offset + text.length + element.source.length)

/-- What an element means that begins at an offset. -/
def Element.inline (targets : Targets) (offset : Nat) (element : Element) : Inline :=
  let span : Span := ⟨offset, offset + element.source.length⟩
  match element with
  | .code text => .code (trimCode text)
  | .address scheme rest =>
    .link .autolink (scheme ++ ':' :: rest) [] span [.text (scheme ++ ':' :: rest)]
  | .image alt dest title => .image dest (title.getD []) span (alt.inlines targets (offset + 2))
  | .link inner dest title => .link .inline dest (title.getD []) span
    (inner.inlines targets (offset + 1))
  | .reference inner label =>
    let definition := (targets.definition? label).getD ⟨[], [], [], ⟨0, 0⟩⟩
    .link .reference definition.dest definition.title span (inner.inlines targets (offset + 1))

end

/-! ## What may stand where -/

/-- A visible character. -/
def isVisible (c : Char) : Bool := 32 < c.toNat

/-- A destination that is written as it stands. -/
def isDest (dest : Text) : Bool :=
  !dest.isEmpty && dest.head? != some '<' &&
    dest.all fun c => isMild c && isVisible c && c != '(' && c != ')'

/-- A title that is written as it stands. -/
def isTitle (title : Text) : Bool := title.all fun c => isMild c && c != '"'

/-- A label of visible ASCII characters that is not the label of a note. -/
def isLabel (label : Text) : Bool :=
  !label.isEmpty && label.head? != some '^' &&
    label.all fun c => isInert c && isVisible c && c.toNat < 128

/-- Code that is written as it stands. -/
def isCode (code : Text) : Bool := !code.isEmpty && code.all isMild

/-- A character of the scheme of an address. -/
def isScheme (c : Char) : Bool := c.isAlphanum || c == '.' || c == '-' || c == '+'

/-- An address with a scheme. -/
def isAddress (scheme rest : Text) : Bool :=
  scheme.head?.any Char.isAlpha && 2 ≤ scheme.length && scheme.length ≤ 32 && scheme.all isScheme &&
    rest.all fun c => isMild c && isVisible c && c != '<' && c != '>'

/-- Whether an element is code. -/
def Element.isCode : Element → Bool
  | .code _ => true
  | _ => false

mutual

/-- Whether a line of running text is written as it stands; `free` tells that links may stand in it,
and `labels` are the labels of the definitions. -/
def Prose.isProper (labels : List Text) (free : Bool) : Prose → Bool
  | .last text => text.all isInert
  | .next text element rest =>
    text.all isInert && element.isProper labels free && rest.isProper labels free &&
      !(element.isCode && rest.source.head? == some '\x60')

/-- Whether an element is written as it stands. -/
def Element.isProper (labels : List Text) (free : Bool) : Element → Bool
  | .code text => Markdown.isCode text
  | .address scheme rest => isAddress scheme rest
  | .image alt dest title => alt.isProper labels free && isDest dest && title.all isTitle
  | .link inner dest title =>
    free && inner.isProper labels false && isDest dest && title.all isTitle
  | .reference inner label =>
    free && inner.isProper labels false && isLabel label &&
      labels.any fun l => foldLabel l == foldLabel label

end

/-- Whether a line of running text ends without white space. -/
def Prose.isTidy : Prose → Bool
  | .last text => text.getLast?.all fun c => !isGap c
  | .next _ _ rest => rest.isTidy

/-! ## Small laws -/

theorem isCommon_of_isInert {c : Char} (inert : isInert c = true) : isCommon c = true := by
  simp [isCommon, isMild, inert]

theorem isCommon_of_isMild {c : Char} (mild : isMild c = true) : isCommon c = true := by
  simp [isCommon, mild]

end DocSite.Markdown
