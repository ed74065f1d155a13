/-
# DocSite.Proofs.Markdown.Events -- what holds of the events of every document

The events of a document are composed of single events, elements around other events, headings, and blocks of code
around texts. What holds of these and survives composition holds of every document (`BlockComposable.ofSource`).
-/
import DocSite.Markdown.Event

set_option autoImplicit false

namespace DocSite.Markdown

variable {event : Event} {events rest inner : List Event}

/-- Whether an event neither begins nor ends an element. -/
def Event.isSingle : Event → Bool
  | .start _ => false
  | .stop _ => false
  | _ => true

/-- Whether an element is neither a heading nor a block of code. -/
def Tag.isPlain : Tag → Bool
  | .heading _ _ => false
  | .code _ => false
  | _ => true

/-- A property of events that single events have, and that is kept where events follow each other and where a
plain element encloses them. -/
structure Composable (P : List Event → Prop) : Prop where
  nil : P []
  append {events rest : List Event} : P events → P rest → P (events ++ rest)
  single {event : Event} : event.isSingle = true → P [event]
  within {tag : Tag} {inner : List Event} : tag.isPlain = true → P inner → P (Event.within tag inner)

namespace Composable

variable {P : List Event → Prop} (composable : Composable P)
include composable

theorem of_single (single : ∀ event ∈ events, event.isSingle = true) : P events := by
  induction events with
  | nil => exact composable.nil
  | cons event rest ih =>
    exact composable.append (composable.single (single event List.mem_cons_self))
      (ih fun event member => single event (.tail _ member))

theorem of_map {α : Type} {list : List α} {make : α → Event} (single : ∀ x, (make x).isSingle = true) :
    P (list.map make) := by
  refine composable.of_single fun event member => ?_
  obtain ⟨x, -, rfl⟩ := List.mem_map.mp member
  exact single x

theorem flatMap {α : Type} {list : List α} {make : α → List Event} (each : ∀ x, P (make x)) :
    P (list.flatMap make) := by
  induction list with
  | nil => exact composable.nil
  | cons x rest ih => exact composable.append (each x) ih

mutual
theorem ofInline (inline : Inline) : P (Event.ofInline inline) := by
  unfold Event.ofInline
  cases inline with
  | emphasis children => exact composable.within rfl (ofInlines children)
  | strong children => exact composable.within rfl (ofInlines children)
  | strikethrough children => exact composable.within rfl (ofInlines children)
  | link kind dest title span children => exact composable.within rfl (ofInlines children)
  | image dest title span children => exact composable.within rfl (ofInlines children)
  | _ => exact composable.single rfl

theorem ofInlines (inlines : List Inline) : P (Event.ofInlines inlines) := by
  unfold Event.ofInlines
  cases inlines with
  | nil => exact composable.nil
  | cons inline rest => exact composable.append (ofInline inline) (ofInlines rest)
end

/-- A text may stand after the mark of a task. -/
theorem withTask (done : Option Bool) (inlines : List Inline) :
    P (done.toList.map .task ++ Event.ofInlines inlines) :=
  composable.append (composable.of_map fun _ => rfl) (composable.ofInlines inlines)

theorem ofCells (targets : Targets) (cells : List Passage) : P (Event.ofCells targets cells) :=
  composable.flatMap fun _ => composable.within rfl (composable.ofInlines _)

end Composable

/-- A composable property that headings have, and blocks of code. -/
structure BlockComposable (P : List Event → Prop) : Prop extends Composable P where
  heading (level : Nat) (span : Span) (done : Option Bool) (inlines : List Inline) :
    P (Event.within (.heading level span) (done.toList.map .task ++ Event.ofInlines inlines))
  code (fence : Option (List Char)) (lines : List Chunk) :
    P (Event.within (.code fence) (lines.map fun c => .text (Event.chunkText c)))

namespace BlockComposable

variable {P : List Event → Prop} (composable : BlockComposable P)
include composable

mutual
theorem ofBlock (targets : Targets) (tight : Bool) (block : Block) :
    P (Event.ofBlock targets tight block) := by
  unfold Event.ofBlock
  cases block with
  | paragraph done content =>
    dsimp only
    split
    · exact composable.withTask done _
    · exact composable.within rfl (composable.withTask done _)
  | heading level span done content => exact composable.heading level span done _
  | fenced info lines => exact composable.code (some info) lines
  | indented lines => exact composable.code none lines
  | html lines => exact composable.within rfl (composable.of_map fun _ => rfl)
  | rule => exact composable.single rfl
  | table columns head rows =>
    refine composable.within rfl (composable.append ?_ (composable.flatMap fun row => ?_))
    · exact composable.within rfl (composable.ofCells targets head)
    · exact composable.within rfl (composable.ofCells targets row)
  | quote children => exact composable.within rfl (ofBlocks targets false children)
  | list first tight items => exact composable.within rfl (ofBlocks targets tight items)
  | item children => exact composable.within rfl (ofBlocks targets tight children)
  | task done => exact composable.single rfl
  | footnote label children => exact composable.within rfl (ofBlocks targets false children)

theorem ofBlocks (targets : Targets) (tight : Bool) (blocks : List Block) :
    P (Event.ofBlocks targets tight blocks) := by
  unfold Event.ofBlocks
  cases blocks with
  | nil => exact composable.nil
  | cons block rest => exact composable.append (ofBlock targets tight block) (ofBlocks targets tight rest)
end

theorem ofSource (source : List Char) : P (Event.ofSource source) :=
  composable.ofBlocks _ _ _

end BlockComposable

end DocSite.Markdown
