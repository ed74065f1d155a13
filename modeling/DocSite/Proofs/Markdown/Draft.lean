/-
# DocSite.Proofs.Markdown.Draft -- documents of plain parts

A draft is a document made of paragraphs, link definitions and fenced code, with a blank line after
each part. `Draft.source` is how it is written and `Draft.events` what it means; `Draft.IsProper` tells
that no part is taken for something else: lines of text begin with a letter and end without white
space, and every label is defined once.
-/
import DocSite.Proofs.Markdown.Line

set_option autoImplicit false

namespace DocSite.Markdown

open Text

/-- A part of a draft: lines of running text, a link definition, or code between fences. -/
inductive Part where
  | paragraph (first : Prose) (more : List Prose)
  | definition (label dest : Text) (title : Option Text)
  | fenced (info : Text) (code : List Text)

/-- A document of plain parts. -/
abbrev Draft := List Part

/-! ## Writing -/

/-- Lines, each with the line feed that ends it. -/
def linesSource (lines : List Text) : Text := lines.flatMap fun line => line ++ ['\n']

@[simp] theorem linesSource_nil : linesSource [] = [] := rfl

theorem linesSource_cons (line : Text) (lines : List Text) :
    linesSource (line :: lines) = line ++ '\n' :: linesSource lines := by
  simp [linesSource]

/-- The fence of a block of code. -/
def fenceSource : Text := ['\x60', '\x60', '\x60']

/-- How a link definition is written. -/
def definitionSource (label dest : Text) (title : Option Text) : Text :=
  '[' :: (label ++ ']' :: ':' :: ' ' :: (dest ++ titleSource title))

/-- The lines of a part. -/
def Part.lines : Part → List Text
  | .paragraph first more => (first :: more).map Prose.source
  | .definition label dest title => [definitionSource label dest title]
  | .fenced info code => (fenceSource ++ info) :: (code ++ [fenceSource])

/-- How a part is written: its lines, and a blank line. -/
def Part.source (part : Part) : Text := linesSource part.lines ++ ['\n']

/-- How a draft is written. -/
def Draft.source : Draft → Text
  | [] => []
  | part :: parts => part.source ++ Draft.source parts

/-! ## Meaning -/

/-- What lines of running text mean, the first of which begins at an offset. -/
def linesInlines (targets : Targets) : Nat → List Prose → List Inline
  | _, [] => []
  | offset, [line] => line.inlines targets offset
  | offset, line :: next :: lines =>
    line.inlines targets offset ++
      .softBreak :: linesInlines targets (offset + line.source.length + 1) (next :: lines)

/-- The events of a part that begins at an offset. -/
def Part.events (targets : Targets) (offset : Nat) : Part → List Event
  | .paragraph first more =>
    Event.within .paragraph (Event.ofInlines (linesInlines targets offset (first :: more)))
  | .definition _ _ _ => []
  | .fenced info code => Event.within (.code (some info)) (code.map fun line => .text (line ++ ['\n']))

/-- The link definitions of a part that begins at an offset. -/
def Part.definitions (offset : Nat) : Part → List Definition
  | .definition label dest title =>
    [⟨label, dest, title.getD [], ⟨offset, offset + (definitionSource label dest title).length⟩⟩]
  | _ => []

/-- The events of a draft that begins at an offset. -/
def Draft.events (targets : Targets) : Nat → Draft → List Event
  | _, [] => []
  | offset, part :: parts =>
    part.events targets offset ++ Draft.events targets (offset + part.source.length) parts

/-- The link definitions of a draft that begins at an offset. -/
def Draft.definitions : Nat → Draft → List Definition
  | _, [] => []
  | offset, part :: parts =>
    part.definitions offset ++ Draft.definitions (offset + part.source.length) parts

/-! ## What may stand where -/

/-- The text that a line of running text begins with. -/
def Prose.opening : Prose → Text
  | .last text => text
  | .next text _ _ => text

/-- Whether a line of a paragraph is written as it stands. -/
def Prose.isLine (labels : List Text) (line : Prose) : Bool :=
  line.isProper labels true && line.isTidy && line.opening.head?.any isInitial

/-- The text after an opening fence, written as it stands. -/
def isInfo (info : Text) : Bool := info.all fun c => isMild c && isVisible c

/-- A line of code between fences. -/
def isCodeLine (line : Text) : Bool := line.all fun c => !isBreak c && c != '\x60'

/-- Whether a part is written as it stands. -/
def Part.isProper (labels : List Text) : Part → Bool
  | .paragraph first more => (first :: more).all (Prose.isLine labels)
  | .definition label dest title => isLabel label && isDest dest && title.all isTitle
  | .fenced info code => isInfo info && code.all isCodeLine

/-- The labels that a part defines. -/
def Part.labels : Part → List Text
  | .definition label _ _ => [label]
  | _ => []

/-- The labels that a draft defines. -/
def Draft.labels (draft : Draft) : List Text := draft.flatMap Part.labels

/-- Whether a draft is written as it stands: every part is, and no label is defined twice. -/
structure Draft.IsProper (draft : Draft) : Prop where
  parts : ∀ part ∈ draft, part.isProper draft.labels = true
  distinct : (draft.labels.map foldLabel).Nodup

/-! ## Small laws -/

theorem Part.lines_pos (part : Part) : 0 < part.lines.length := by
  cases part <;> simp [Part.lines]

theorem length_linesSource (lines : List Text) : lines.length ≤ (linesSource lines).length := by
  induction lines with
  | nil => exact Nat.le_refl _
  | cons line lines ih =>
    rw [linesSource_cons, List.length_cons, List.length_append, List.length_cons]
    omega

/-- A part takes two lines at least. -/
theorem Part.lines_lt (part : Part) : part.lines.length < part.source.length := by
  have enough := length_linesSource part.lines
  rw [Part.source, List.length_append, List.length_singleton]
  omega

theorem labels_definitions (offset : Nat) (part : Part) :
    (part.definitions offset).map Definition.label = part.labels := by
  cases part <;> rfl

theorem Draft.labels_definitions (offset : Nat) (draft : Draft) :
    (draft.definitions offset).map Definition.label = draft.labels := by
  induction draft generalizing offset with
  | nil => rfl
  | cons part parts ih =>
    rw [Draft.definitions, List.map_append, Markdown.labels_definitions, ih, Draft.labels, Draft.labels,
      List.flatMap_cons]

end DocSite.Markdown
