/-
# DocSite.Proofs.Markdown.Retargeted -- what retargeting leaves as it is

Reading a draft whose links were retargeted gives the events of the draft, with new destinations for
links of their own and links to definitions and nothing else changed, apart from where they stand in the
source (`retargetLinks_events`). The condition is that the destination of each link is found where it is
written. It fails for a link around an image to the same page: the image is edited in place of the link
(`not_every_source_is_retargeted`).
-/
import DocSite.Proofs.Markdown.Rewriting
import DocSite.Text.Letter

set_option autoImplicit false

namespace DocSite.Markdown

open Text

variable {extension : Text}

/-! ## New destinations -/

theorem dest_of_isAlphanumeric {c : Char} (named : isAlphanumeric c = true) :
    isMild c = true ∧ isVisible c = true ∧ c ≠ '(' ∧ c ≠ ')' := by
  have ne : ∀ d, isAlphanumeric d = false → c ≠ d := by
    rintro d other rfl
    rw [named] at other
    cases other
  have inert : isInert c = true := by
    rw [isInert_iff]
    refine ⟨by simp [isBreak, ne '\n' (by decide), ne '\r' (by decide)], fun member => ?_⟩
    have others : ['\\', '\x60', '<', '!', '[', ']', '&', '*', '_', '~'].all
        (fun d => !isAlphanumeric d) = true := by
      decide
    simpa [named] using List.all_eq_true.mp others c member
  have large : 32 < c.toNat := by
    refine Classical.byContradiction fun small => ?_
    have ascii : c.toNat < 128 := by omega
    rw [isAlphanumeric, if_pos ascii, isAlphanum_iff, isAlpha_iff, isDigit_iff] at named
    omega
  exact ⟨by simp [isMild, inert], by simpa [isVisible] using large, ne '(' (by decide),
    ne ')' (by decide)⟩

/-- Whether an extension is made of letters and digits. -/
structure IsExtension (extension : Text) : Prop where
  filled : extension ≠ []
  named : extension.all isAlphanumeric = true

/-- A new destination is written as it stands if the old one is. -/
theorem isDest_newDest {dest : Text} (proper : IsExtension extension) (destined : isDest dest = true) :
    isDest (newDest extension dest) = true := by
  rw [newDest]
  cases found : retarget? extension dest with
  | none => exact destined
  | some target =>
    obtain ⟨stem, ending, suffix, -, rfl, rfl⟩ := eq_of_retarget found
    obtain ⟨-, head, chars⟩ := isDest_iff.mp destined
    have written : newEnding extension = '.' :: extension := by
      rw [newEnding, if_neg]
      simpa using proper.filled
    rw [Option.getD_some, isDest_iff, written]
    refine ⟨by simp, ?_, fun c member => ?_⟩
    · cases stem with
      | nil => simp
      | cons c stem => simpa using head
    · simp only [List.mem_append, List.mem_cons] at member chars
      rcases member with (member | rfl | member) | member
      · exact chars c (.inl (.inl member))
      · decide
      · exact dest_of_isAlphanumeric (List.all_eq_true.mp proper.named c member)
      · exact chars c (.inr member)

/-! ## Retargeted drafts are proper -/

theorem Prose.head_retargeted (prose : Prose) :
    (prose.retargeted extension).source.head? = prose.source.head? := by
  cases prose with
  | last text => rfl
  | next text element rest => cases text <;> cases element <;> rfl

mutual

theorem Prose.isProper_retargeted (known : IsExtension extension) {labels : List Text} {free : Bool}
    (prose : Prose) (proper : prose.isProper labels free = true) :
    (prose.retargeted extension).isProper labels free = true := by
  cases prose with
  | last text => exact proper
  | next text element rest =>
    simp only [Prose.isProper, Bool.and_eq_true] at proper
    obtain ⟨⟨⟨inert, elementary⟩, proper⟩, apart⟩ := proper
    have code : (element.retargeted extension).isCode = element.isCode := by cases element <;> rfl
    simp only [Prose.retargeted, Prose.isProper, Bool.and_eq_true, code, rest.head_retargeted]
    exact ⟨⟨⟨inert, element.isProper_retargeted known elementary⟩,
      rest.isProper_retargeted known proper⟩,
      apart⟩

theorem Element.isProper_retargeted (known : IsExtension extension) {labels : List Text} {free : Bool}
    (element : Element) (proper : element.isProper labels free = true) :
    (element.retargeted extension).isProper labels free = true := by
  cases element with
  | code text => exact proper
  | address scheme rest => exact proper
  | image alt dest title =>
    simp only [Element.isProper, Bool.and_eq_true] at proper
    simp only [Element.retargeted, Element.isProper, Bool.and_eq_true]
    exact ⟨⟨alt.isProper_retargeted known proper.1.1, proper.1.2⟩, proper.2⟩
  | link inner dest title =>
    simp only [Element.isProper, Bool.and_eq_true] at proper
    simp only [Element.retargeted, Element.isProper, Bool.and_eq_true]
    exact ⟨⟨⟨proper.1.1.1, inner.isProper_retargeted known proper.1.1.2⟩,
      isDest_newDest known proper.1.2⟩,
      proper.2⟩
  | reference inner label =>
    simp only [Element.isProper, Bool.and_eq_true] at proper
    simp only [Element.retargeted, Element.isProper, Bool.and_eq_true]
    exact ⟨⟨⟨proper.1.1.1, inner.isProper_retargeted known proper.1.1.2⟩, proper.1.2⟩, proper.2⟩

end

theorem Prose.isTidy_retargeted (prose : Prose) :
    (prose.retargeted extension).isTidy = prose.isTidy := by
  cases prose with
  | last text => rfl
  | next text element rest => exact rest.isTidy_retargeted

theorem Prose.isLine_retargeted (known : IsExtension extension) {labels : List Text} {line : Prose}
    (proper : line.isLine labels = true) : (line.retargeted extension).isLine labels = true := by
  have opening : (line.retargeted extension).opening = line.opening := by cases line <;> rfl
  simp only [Prose.isLine, Bool.and_eq_true] at proper ⊢
  rw [line.isTidy_retargeted, opening]
  exact ⟨⟨line.isProper_retargeted known proper.1.1, proper.1.2⟩, proper.2⟩

theorem Part.isProper_retargeted (known : IsExtension extension) {labels : List Text} {part : Part}
    (proper : part.isProper labels = true) : (part.retargeted extension).isProper labels = true := by
  cases part with
  | paragraph first more =>
    simp only [Part.isProper, List.all_cons, List.all_eq_true, Bool.and_eq_true] at proper
    simp only [Part.retargeted, Part.isProper, List.all_cons, List.all_eq_true, Bool.and_eq_true]
    refine ⟨Prose.isLine_retargeted known proper.1, fun line member => ?_⟩
    obtain ⟨old, among, rfl⟩ := List.mem_map.mp member
    exact Prose.isLine_retargeted known (proper.2 old among)
  | definition label dest title =>
    simp only [Part.isProper, Bool.and_eq_true] at proper
    simp only [Part.retargeted, Part.isProper, Bool.and_eq_true]
    exact ⟨⟨proper.1.1, isDest_newDest known proper.1.2⟩, proper.2⟩
  | fenced info code => exact proper

theorem Draft.labels_retargeted (draft : Draft) :
    (draft.retargeted extension).labels = draft.labels := by
  have each : ∀ part : Part, (part.retargeted extension).labels = part.labels := fun part => by
    cases part <;> rfl
  simp only [Draft.labels, Draft.retargeted, List.flatMap_map, each]

theorem Draft.IsProper.retargeted (known : IsExtension extension) {draft : Draft}
    (proper : draft.IsProper) :
    (draft.retargeted extension).IsProper := by
  refine ⟨fun part member => ?_, ?_⟩
  · obtain ⟨old, among, rfl⟩ := List.mem_map.mp member
    rw [draft.labels_retargeted]
    exact Part.isProper_retargeted known (proper.parts old among)
  · rw [draft.labels_retargeted]
    exact proper.distinct

/-! ## Events -/

/-- An element without its place in the source. -/
def Tag.unplaced : Tag → Tag
  | .heading level _ => .heading level ⟨0, 0⟩
  | .link kind dest title _ => .link kind dest title ⟨0, 0⟩
  | .image dest title _ => .image dest title ⟨0, 0⟩
  | tag => tag

/-- An event without its place in the source. -/
def Event.unplaced : Event → Event
  | .start tag => .start tag.unplaced
  | .stop tag => .stop tag.unplaced
  | event => event

/-- An element with a new destination, if it is a link of its own or a link to a definition. -/
def Tag.retargeted (extension : Text) : Tag → Tag
  | .link .inline dest title span => .link .inline (newDest extension dest) title span
  | .link .reference dest title span => .link .reference (newDest extension dest) title span
  | tag => tag

/-- An event with a new destination, if it is the beginning or the end of such a link. -/
def Event.retargeted (extension : Text) : Event → Event
  | .start tag => .start (tag.retargeted extension)
  | .stop tag => .stop (tag.retargeted extension)
  | event => event

/-- Whether events differ from others, places aside, just by the new destinations of links. -/
def OnlyRetargeted (extension : Text) (before after : List Event) : Prop :=
  after.map Event.unplaced = (before.map (Event.retargeted extension)).map Event.unplaced

/-- Whether the definitions of one document are those of another with new destinations. -/
def Targets.Retargets (extension : Text) (old new : Targets) : Prop :=
  ∀ label, (new.definition? label).map (fun d => (d.dest, d.title)) =
    (old.definition? label).map fun d => (newDest extension d.dest, d.title)

section Events

variable {old new : Targets} {before before' after after' : List Event}

namespace OnlyRetargeted

theorem append (one : OnlyRetargeted extension before after)
    (two : OnlyRetargeted extension before' after') :
    OnlyRetargeted extension (before ++ before') (after ++ after') := by
  rw [OnlyRetargeted] at one two ⊢
  rw [List.map_append, List.map_append, List.map_append, one, two]

theorem within {tag tag' : Tag} (same : tag'.unplaced = (tag.retargeted extension).unplaced)
    (inner : OnlyRetargeted extension before after) :
    OnlyRetargeted extension (Event.within tag before) (Event.within tag' after) := by
  have beginning : OnlyRetargeted extension [.start tag] [.start tag'] :=
    congrArg (fun t => [Event.start t]) same
  have ending : OnlyRetargeted extension [.stop tag] [.stop tag'] :=
    congrArg (fun t => [Event.stop t]) same
  exact (beginning.append inner).append ending

end OnlyRetargeted

open OnlyRetargeted in
mutual

theorem Prose.onlyRetargeted (targets : old.Retargets extension new) (prose : Prose)
    (offset offset' : Nat) :
    OnlyRetargeted extension (Event.ofInlines (prose.inlines old offset))
      (Event.ofInlines ((prose.retargeted extension).inlines new offset')) := by
  have texts : ∀ text, OnlyRetargeted extension (Event.ofInlines (textInlines text))
      (Event.ofInlines (textInlines text)) := by
    intro text
    rw [textInlines]
    split <;> rfl
  cases prose with
  | last text => exact texts text
  | next text element rest =>
    simp only [Prose.retargeted, Prose.inlines, Event.ofInlines_append, Event.ofInlines]
    exact (texts text).append
      ((element.onlyRetargeted targets _ _).append (rest.onlyRetargeted targets _ _))

theorem Element.onlyRetargeted (targets : old.Retargets extension new) (element : Element)
    (offset offset' : Nat) :
    OnlyRetargeted extension (Event.ofInline (element.inline old offset))
      (Event.ofInline ((element.retargeted extension).inline new offset')) := by
  cases element with
  | code text => rfl
  | address scheme rest => rfl
  | image alt dest title => exact within rfl (alt.onlyRetargeted targets _ _)
  | link inner dest title => exact within rfl (inner.onlyRetargeted targets _ _)
  | reference inner label =>
    refine within ?_ (inner.onlyRetargeted targets _ _)
    have both := targets label
    cases found : old.definition? label with
    | none =>
      rw [found, Option.map_none, Option.map_eq_none_iff] at both
      rw [both]
      rfl
    | some d =>
      rw [found, Option.map_some, Option.map_eq_some_iff] at both
      obtain ⟨d', found', same⟩ := both
      obtain ⟨dest, title⟩ := Prod.mk.inj same
      rw [found']
      simp [Tag.retargeted, Tag.unplaced, dest, title]

end

theorem onlyRetargeted_lines (targets : old.Retargets extension new) (lines : List Prose)
    (offset offset' : Nat) :
    OnlyRetargeted extension (Event.ofInlines (linesInlines old offset lines))
      (Event.ofInlines (linesInlines new offset' (lines.map (Prose.retargeted extension)))) := by
  induction lines generalizing offset offset' with
  | nil => rfl
  | cons line lines ih =>
    cases lines with
    | nil => exact line.onlyRetargeted targets offset offset'
    | cons next lines =>
      rw [List.map_cons, List.map_cons, linesInlines, linesInlines, Event.ofInlines_append,
        Event.ofInlines_append]
      have lineBreak : OnlyRetargeted extension [.softBreak] [.softBreak] := rfl
      exact (line.onlyRetargeted targets offset offset').append (lineBreak.append (ih _ _))

theorem Part.onlyRetargeted (targets : old.Retargets extension new) (part : Part)
    (offset offset' : Nat) :
    OnlyRetargeted extension (part.events old offset)
      ((part.retargeted extension).events new offset') := by
  cases part with
  | paragraph first more => exact .within rfl (onlyRetargeted_lines targets (first :: more) _ _)
  | definition label dest title => rfl
  | fenced info code =>
    refine .within rfl ?_
    simp [OnlyRetargeted, Event.retargeted, Event.unplaced, Function.comp_def]

theorem Draft.onlyRetargeted (targets : old.Retargets extension new) (draft : Draft)
    (offset offset' : Nat) :
    OnlyRetargeted extension (Draft.events old offset draft)
      (Draft.events new offset' (draft.retargeted extension)) := by
  induction draft generalizing offset offset' with
  | nil => rfl
  | cons part parts ih => exact (part.onlyRetargeted targets offset offset').append (ih _ _)

end Events

/-! ## Definitions -/

theorem Draft.definitions_retargeted (extension : Text) (draft : Draft) (offset offset' : Nat) :
    (Draft.definitions offset' (draft.retargeted extension)).map (fun d => (d.label, d.dest, d.title)) =
      (Draft.definitions offset draft).map fun d => (d.label, newDest extension d.dest, d.title) := by
  induction draft generalizing offset offset' with
  | nil => rfl
  | cons part parts ih =>
    have one : ((part.retargeted extension).definitions offset').map
          (fun d => (d.label, d.dest, d.title)) =
        (part.definitions offset).map fun d => (d.label, newDest extension d.dest, d.title) := by
      cases part <;> rfl
    have more := ih (offset + part.source.length) (offset' + (part.retargeted extension).source.length)
    rw [Draft.retargeted, List.map_cons, Draft.definitions, Draft.definitions, List.map_append,
      List.map_append, one, ← more]
    rfl

/-- References find the definition with the new destination. -/
theorem Draft.retargets (draft : Draft) :
    draft.targets.Retargets extension (draft.retargeted extension).targets :=
  Targets.definition_congr (draft.definitions_retargeted extension 0 0)

/-- Retargeting changes the destinations of links and nothing else, if every destination is found. -/
theorem retargetLinks_events {draft : Draft} (proper : draft.IsProper) (known : IsExtension extension)
    (located : draft.isLocated extension = true) :
    OnlyRetargeted extension (Event.ofSource draft.source)
      (Event.ofSource (retargetLinks draft.source extension)) := by
  rw [retargetLinks_draft proper located, Event.ofSource_draft proper,
    Event.ofSource_draft (proper.retargeted known)]
  exact draft.onlyRetargeted draft.retargets 0 0

/-- A draft with links of its own, one of them around an image, a link to a definition, and links in
code. -/
def guide : Draft :=
  [.paragraph
      (.next "See ".toList (.link (.last "Setup".toList) "guides/setup.md#install".toList none)
        (.next ", ".toList (.link (.next [] (.image (.last "logo".toList) "logo.png".toList none)
        (.last []))
            "about.md".toList (some "About".toList))
          (.last ",".toList)))
      [.next "or ".toList (.reference (.last "home".toList) "home".toList)
        (.next " and ".toList (.code "[a](b.md)".toList) (.last ".".toList))],
    .definition "home".toList "index.md".toList (some "Home".toList),
    .fenced "md".toList ["[a](b.md)".toList]]

theorem guide_is_retargeted :
    guide.IsProper ∧ guide.isLocated "html".toList = true ∧
      OnlyRetargeted "html".toList (Event.ofSource guide.source)
        (Event.ofSource (retargetLinks guide.source "html".toList)) := by
  have proper : guide.IsProper := ⟨by decide +kernel, by decide +kernel⟩
  have located : guide.isLocated "html".toList = true := by decide +kernel
  exact ⟨proper, located, retargetLinks_events proper ⟨by decide, by decide⟩ located⟩

/-- A link around an image to the same page keeps its destination: the one of the image is edited. -/
theorem not_every_source_is_retargeted :
    ¬∀ source extension : Text, IsExtension extension →
      OnlyRetargeted extension (Event.ofSource source)
        (Event.ofSource (retargetLinks source extension)) := by
  intro all
  have kept := all "[![x](b.md)](b.md)".toList "html".toList ⟨by decide, by decide⟩
  have edited : ¬((Event.ofSource (retargetLinks "[![x](b.md)](b.md)".toList "html".toList)).map
        Event.unplaced =
      ((Event.ofSource "[![x](b.md)](b.md)".toList).map (Event.retargeted "html".toList)).map
        Event.unplaced) := by
    decide +kernel
  exact edited kept

/-- A destination with an escape in it is not found in the source, so that the link is left behind. -/
example : retargetLinks "[a](b\\_c.md)".toList "html".toList = "[a](b\\_c.md)".toList := by
  decide +kernel

end DocSite.Markdown
