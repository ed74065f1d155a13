/-
# DocSite.Proofs.Markdown.Document -- a draft is read as it was meant

A document is read stretch by stretch: a `Stretch` is a stretch of a source with the link definitions and the
events that it gives, and stretches that are read one by one are read one after the other
(`Stretch.IsRead.append`). The parts of a draft, each with its blank line, are such stretches. So reading what
a draft is written as gives back what it means, spans included (`Event.ofSource_draft`).
-/
import DocSite.Proofs.Markdown.Part

set_option autoImplicit false

namespace DocSite.Markdown

open Text

theorem Event.ofBlocks_append (targets : Targets) (tight : Bool) (first second : List Block) :
    Event.ofBlocks targets tight (first ++ second) =
      Event.ofBlocks targets tight first ++ Event.ofBlocks targets tight second := by
  induction first with
  | nil => rfl
  | cons block first ih =>
    simp [Event.ofBlocks, ih]

/-- Where definitions of the same labels say the same, the references to them find the same. -/
theorem Targets.definition_congr {α : Type} {one other : List Definition} {p q : Definition → α}
    (same : one.map (fun d => (d.label, p d)) = other.map fun d => (d.label, q d)) (label : Text) :
    ((Targets.mk one.reverse []).definition? label).map p =
      ((Targets.mk other.reverse []).definition? label).map q := by
  have reversed := congrArg List.reverse same
  rw [← List.map_reverse, ← List.map_reverse] at reversed
  have found := congrArg (List.find? fun entry => foldLabel entry.1 == foldLabel label) reversed
  rw [List.find?_map, List.find?_map] at found
  have shown := congrArg (Option.map Prod.snd) found
  rw [Option.map_map, Option.map_map] at shown
  exact shown

/-! ## Reading on -/

/-- Whether reading block after block from a place on comes to another place. Every block uses a
character at least. -/
inductive Outline.Comes (limit : Nat) : Place → Outline → Place → Outline → Prop
  | stay (here : Place) (o : Outline) : Outline.Comes limit here o here o
  | step {here next last : Place} {o o' o'' : Outline} (read : o.readBlock limit here = (o', next))
      (shorter : next.rest.length < here.rest.length) (more : Outline.Comes limit next o' last o'') :
      Outline.Comes limit here o last o''

namespace Outline.Comes

variable {limit : Nat} {here next last : Place} {o o' o'' : Outline}

theorem trans (first : Outline.Comes limit here o next o') (second : Outline.Comes limit next o' last o'') :
    Outline.Comes limit here o last o'' := by
  induction first with
  | stay => exact second
  | step read shorter _ ih => exact .step read shorter (ih second)

theorem one (read : o.readBlock limit here = (o', next)) (shorter : next.rest.length < here.rest.length) :
    Outline.Comes limit here o next o' :=
  .step read shorter (.stay next o')

/-- If reading comes to the end of the source, nothing else is read. -/
theorem readBlocks_eq (comes : Outline.Comes limit here o last o') (ended : last.rest = []) (fuel : Nat)
    (enough : here.rest.length ≤ fuel) : Outline.readBlocks limit fuel here o = o' := by
  induction comes generalizing fuel with
  | stay here o => cases fuel <;> simp [Outline.readBlocks, ended]
  | @step here next last o o' o'' read shorter _ ih =>
    obtain ⟨fuel, rfl⟩ : ∃ n, fuel = n + 1 := ⟨fuel - 1, by omega⟩
    have filled : here.rest.isEmpty = false := by
      rw [← Bool.not_eq_true, List.isEmpty_iff_length_eq_zero]
      omega
    rw [Outline.readBlocks, filled, if_neg Bool.false_ne_true, read]
    exact ih ended fuel (by omega)

end Outline.Comes

/-! ## Pieces -/

/-- A stretch of a source: how it is written, the labels that it defines, and the link definitions and
events that it gives at an offset. -/
structure Stretch where
  source : Text
  labels : List Text
  definitions : Nat → List Definition
  events : Targets → Nat → List Event
  labelled : ∀ offset, (definitions offset).map Definition.label = labels

namespace Stretch

variable {labels : List Text} {rest : Text} {stretch first second : Stretch}

instance : Append Stretch where
  append first second :=
    { source := first.source ++ second.source
      labels := first.labels ++ second.labels
      definitions := fun offset => first.definitions offset ++ second.definitions (offset + first.source.length)
      events := fun targets offset =>
        first.events targets offset ++ second.events targets (offset + first.source.length)
      labelled := fun offset => by rw [List.map_append, first.labelled, second.labelled] }

theorem source_append (first second : Stretch) : (first ++ second).source = first.source ++ second.source := rfl

theorem labels_append (first second : Stretch) : (first ++ second).labels = first.labels ++ second.labels := rfl

theorem definitions_append (first second : Stretch) (offset : Nat) :
    (first ++ second).definitions offset =
      first.definitions offset ++ second.definitions (offset + first.source.length) := rfl

theorem events_append (first second : Stretch) (targets : Targets) (offset : Nat) :
    (first ++ second).events targets offset =
      first.events targets offset ++ second.events targets (offset + first.source.length) := rfl

/-- Whether a stretch before a text is read as it was meant, if all `labels` are defined that references
have. -/
def IsRead (labels : List Text) (rest : Text) (stretch : Stretch) : Prop :=
  ∀ (limit offset : Nat) (blocks : List Block) (gap : Bool) (definitions : List Definition),
    stretch.source.length ≤ limit →
    ((stretch.labels ++ definitions.map Definition.label).map foldLabel).Nodup →
    ∃ (made : List Block) (gap' : Bool),
      Outline.Comes limit ⟨offset, stretch.source ++ rest⟩ (Outline.between blocks gap definitions)
          ⟨offset + stretch.source.length, rest⟩
          (Outline.between (made ++ blocks) gap' ((stretch.definitions offset).reverse ++ definitions)) ∧
        ∀ targets, Covers targets labels →
          Event.ofBlocks targets false made.reverse = stretch.events targets offset

theorem IsRead.append (one : first.IsRead labels (second.source ++ rest)) (two : second.IsRead labels rest) :
    (first ++ second).IsRead labels rest := by
  intro limit offset blocks gap definitions enough distinct
  rw [source_append, List.length_append] at enough
  rw [labels_append] at distinct
  have apart : ((first.labels ++ definitions.map Definition.label).map foldLabel).Nodup := by
    refine List.Nodup.sublist (List.Sublist.map foldLabel ?_) distinct
    exact (List.sublist_append_left _ _).append (List.Sublist.refl _)
  obtain ⟨made, gap', read, meant⟩ := one limit offset blocks gap definitions (by omega) apart
  have distinct' : ((second.labels ++ ((first.definitions offset).reverse ++ definitions).map
      Definition.label).map foldLabel).Nodup := by
    rw [List.map_append (f := Definition.label), List.map_reverse, first.labelled]
    refine (List.Perm.map foldLabel ?_).nodup_iff.mp distinct
    rw [List.append_assoc]
    exact (List.perm_append_comm_assoc _ _ _).trans
      (((List.reverse_perm _).symm.append_right _).append_left _)
  obtain ⟨made', gap'', read', meant'⟩ := two limit (offset + first.source.length) (made ++ blocks) gap'
    ((first.definitions offset).reverse ++ definitions) (by omega) distinct'
  refine ⟨made' ++ made, gap'', ?_, fun targets covers => ?_⟩
  · rw [source_append, definitions_append, List.append_assoc, List.reverse_append, List.append_assoc,
      List.append_assoc, List.length_append, ← Nat.add_assoc]
    exact read.trans read'
  · rw [List.reverse_append, Event.ofBlocks_append, meant targets covers, meant' targets covers,
      events_append]

/-- A stretch that gives one block or no block in one step. -/
theorem IsRead.single (shorter : stretch.source ≠ [])
    (read : ∀ (limit offset : Nat) (blocks : List Block) (gap : Bool) (definitions : List Definition),
      stretch.source.length ≤ limit →
      ((stretch.labels ++ definitions.map Definition.label).map foldLabel).Nodup →
      ∃ (made : List Block) (gap' : Bool),
        (Outline.between blocks gap definitions).readBlock limit ⟨offset, stretch.source ++ rest⟩ =
            (Outline.between (made ++ blocks) gap' ((stretch.definitions offset).reverse ++ definitions),
              ⟨offset + stretch.source.length, rest⟩) ∧
          ∀ targets, Covers targets labels →
            Event.ofBlocks targets false made.reverse = stretch.events targets offset) :
    stretch.IsRead labels rest := by
  intro limit offset blocks gap definitions enough distinct
  obtain ⟨made, gap', once, meant⟩ := read limit offset blocks gap definitions enough distinct
  refine ⟨made, gap', .one once ?_, meant⟩
  have filled := List.length_pos_iff.mpr shorter
  simp only [List.length_append]
  omega

/-- What the references of a stretch refer to that is a document. -/
def targets (stretch : Stretch) : Targets := ⟨(stretch.definitions 0).reverse, []⟩

theorem covers (stretch : Stretch) : Covers stretch.targets stretch.labels := by
  intro label known
  rw [List.any_eq_true] at known
  obtain ⟨l, member, same⟩ := known
  rw [← stretch.labelled 0, List.mem_map] at member
  obtain ⟨d, among, rfl⟩ := member
  rw [Targets.definition?, List.find?_isSome]
  exact ⟨d, List.mem_reverse.mpr among, same⟩

/-- The outline of a stretch that is a document. -/
theorem IsRead.outline (read : stretch.IsRead labels []) (all : stretch.labels = labels)
    (distinct : (labels.map foldLabel).Nodup) :
    ∃ (blocks : List Block) (gap : Bool),
      Outline.ofSource stretch.source = Outline.between blocks gap (stretch.definitions 0).reverse ∧
        Event.ofBlocks stretch.targets false blocks.reverse = stretch.events stretch.targets 0 := by
  subst all
  obtain ⟨made, gap, comes, meant⟩ := read (stretch.source.length + 1) 0 [] false [] (Nat.le_succ _)
    (by simpa using distinct)
  rw [List.append_nil, List.append_nil, List.append_nil] at comes
  refine ⟨made, gap, ?_, meant _ stretch.covers⟩
  rw [Outline.ofSource]
  show (Outline.readBlocks _ _ _ (Outline.between [] false [])).closeAll = _
  rw [comes.readBlocks_eq rfl _ (Nat.le_refl _)]
  rfl

/-- A stretch that is a document is read as it was meant. -/
theorem IsRead.ofSource (read : stretch.IsRead labels []) (all : stretch.labels = labels)
    (distinct : (labels.map foldLabel).Nodup) :
    Event.ofSource stretch.source = stretch.events stretch.targets 0 := by
  obtain ⟨blocks, gap, outline, meant⟩ := read.outline all distinct
  rw [Event.ofSource, Event.ofOutline, outline]
  exact meant

/-- A stretch that defines no labels. -/
def unlabelled (source : Text) (events : Targets → Nat → List Event) : Stretch :=
  ⟨source, [], fun _ => [], events, fun _ => rfl⟩

/-- Nothing. -/
def nothing : Stretch := unlabelled [] fun _ _ => []

theorem isRead_nothing : nothing.IsRead labels rest :=
  fun _ _ _ gap _ _ _ => ⟨[], gap, .stay _ _, fun _ _ => rfl⟩

/-- A blank line. -/
def blank : Stretch := unlabelled ['\n'] fun _ _ => []

theorem isRead_blank : blank.IsRead labels rest :=
  .single (by simp [blank, unlabelled]) fun limit offset _ _ _ _ _ =>
    ⟨[], true, readBlock_blank limit offset rest, fun _ _ => rfl⟩

end Stretch

/-! ## Drafts -/

/-- A part of a draft as a stretch. -/
def Part.stretch (part : Part) : Stretch where
  source := part.source
  labels := part.labels
  definitions := fun offset => part.definitions offset
  events := fun targets offset => part.events targets offset
  labelled := fun offset => labels_definitions offset part

/-- A draft as a stretch. -/
def Draft.stretch (draft : Draft) : Stretch where
  source := draft.source
  labels := draft.labels
  definitions := fun offset => draft.definitions offset
  events := fun targets offset => draft.events targets offset
  labelled := fun offset => draft.labels_definitions offset

section Drafts

variable {labels : List Text} {rest : Text} {draft : Draft}

theorem Part.isRead_stretch {part : Part} (proper : part.isProper labels = true) :
    part.stretch.IsRead labels rest := by
  intro limit offset blocks gap definitions enough distinct
  have new : ∀ label ∈ part.labels, ∀ d ∈ definitions, foldLabel d.label ≠ foldLabel label := by
    intro label member d among same
    rw [List.map_append, List.nodup_append] at distinct
    exact distinct.2.2 _ (List.mem_map_of_mem member) _
      (List.mem_map_of_mem (List.mem_map_of_mem among)) same.symm
  obtain ⟨made, read, meant⟩ := part.read proper rest limit offset enough blocks gap definitions new
  have source : part.source = linesSource part.lines ++ ['\n'] := rfl
  have width : part.source.length = (linesSource part.lines).length + 1 := by simp [source]
  have filled : part.lines.length ≤ (linesSource part.lines).length := length_linesSource _
  have lines := part.lines_pos
  have blank : (Outline.between (made ++ blocks) false
      ((part.definitions offset).reverse ++ definitions)).readBlock limit
        ⟨offset + (linesSource part.lines).length, '\n' :: rest⟩ =
      (Outline.between (made ++ blocks) true ((part.definitions offset).reverse ++ definitions),
        ⟨offset + part.source.length, rest⟩) := by
    rw [readBlock_blank, width, Nat.add_assoc]
  refine ⟨made, true, (Outline.Comes.one read ?_).trans (.one blank (by simp)), meant⟩
  simp only [List.length_cons, List.length_append, width]
  omega

theorem Draft.isRead_stretch (proper : ∀ part ∈ draft, part.isProper labels = true) :
    draft.stretch.IsRead labels rest := by
  induction draft with
  | nil => exact Stretch.isRead_nothing
  | cons part parts ih =>
    have first : part.stretch.IsRead labels (Draft.source parts ++ rest) :=
      part.isRead_stretch (proper part (List.mem_cons_self ..))
    exact first.append (ih fun x member => proper x (List.mem_cons_of_mem _ member))

/-- What the references of a draft refer to. -/
def Draft.targets (draft : Draft) : Targets := ⟨(draft.definitions 0).reverse, []⟩

/-- The outline of what a draft is written as. -/
theorem Outline.ofSource_draft (proper : draft.IsProper) :
    ∃ (blocks : List Block) (gap : Bool),
      Outline.ofSource draft.source = Outline.between blocks gap (draft.definitions 0).reverse ∧
        Event.ofBlocks draft.targets false blocks.reverse = draft.events draft.targets 0 :=
  (Draft.isRead_stretch proper.parts).outline rfl proper.distinct

/-- A draft is read as it was meant. -/
theorem Event.ofSource_draft (proper : draft.IsProper) :
    Event.ofSource draft.source = draft.events draft.targets 0 :=
  (Draft.isRead_stretch proper.parts).ofSource rfl proper.distinct

theorem Outline.definitions_draft (proper : draft.IsProper) :
    (Outline.ofSource draft.source).definitions = (draft.definitions 0).reverse := by
  obtain ⟨blocks, gap, read, -⟩ := Outline.ofSource_draft proper
  rw [read]
  rfl

end Drafts

end DocSite.Markdown
