/-
# DocSite.Proofs.Markdown.Rewriting -- a draft is rewritten to the draft with other destinations

The links of a draft ask for edits, each of which replaces a destination where it is written
(`Draft.edits`); together they make the source of the draft with its links retargeted
(`Draft.rewrites`). The links that the reader of the draft reports ask for just these edits, if the
destination of every link is found where it is written (`Draft.isLocated`). So retargeting the source
gives what the retargeted draft is written as (`retargetLinks_draft`).
-/
import DocSite.Proofs.Markdown.Document
import DocSite.Proofs.Markdown.Ending
import DocSite.Proofs.Markdown.Splicing

set_option autoImplicit false

namespace DocSite.Markdown

open Text

variable {extension : Text}

/-! ## Drafts with other destinations -/

/-- The destination of a link when links to sources are pointed at pages. -/
def newDest (extension dest : Text) : Text := (retarget? extension dest).getD dest

mutual

/-- A line of running text with its links retargeted. -/
def Prose.retargeted (extension : Text) : Prose → Prose
  | .last text => .last text
  | .next text element rest => .next text (element.retargeted extension) (rest.retargeted extension)

/-- An element with its links retargeted. -/
def Element.retargeted (extension : Text) : Element → Element
  | .code text => .code text
  | .address scheme rest => .address scheme rest
  | .image alt dest title => .image (alt.retargeted extension) dest title
  | .link inner dest title => .link (inner.retargeted extension) (newDest extension dest) title
  | .reference inner label => .reference (inner.retargeted extension) label

end

/-- A part with its links and definitions retargeted. -/
def Part.retargeted (extension : Text) : Part → Part
  | .paragraph first more =>
    .paragraph (first.retargeted extension) (more.map (Prose.retargeted extension))
  | .definition label dest title => .definition label (newDest extension dest) title
  | .fenced info code => .fenced info code

/-- A draft with its links and definitions retargeted. -/
def Draft.retargeted (extension : Text) (draft : Draft) : Draft := draft.map (Part.retargeted extension)

/-! ## Edits -/

/-- The edit of a destination that is written at an offset. -/
def destEdits (extension : Text) (offset : Nat) (dest : Text) : List Edit :=
  (retarget? extension dest).toList.map fun target => ⟨⟨offset, offset + dest.length⟩, target⟩

mutual

/-- The edits of a line of running text that begins at an offset. -/
def Prose.edits (extension : Text) (offset : Nat) : Prose → List Edit
  | .last _ => []
  | .next text element rest =>
    element.edits extension (offset + text.length) ++
      rest.edits extension (offset + text.length + element.source.length)

/-- The edits of an element that begins at an offset. -/
def Element.edits (extension : Text) (offset : Nat) : Element → List Edit
  | .code _ => []
  | .address _ _ => []
  | .image alt _ _ => alt.edits extension (offset + 2)
  | .link inner dest _ =>
    inner.edits extension (offset + 1) ++ destEdits extension (offset + inner.source.length + 3) dest
  | .reference inner _ => inner.edits extension (offset + 1)

end

/-- The edits of lines of running text. -/
def linesEdits (extension : Text) : Nat → List Prose → List Edit
  | _, [] => []
  | offset, line :: lines =>
    line.edits extension offset ++ linesEdits extension (offset + line.source.length + 1) lines

/-- The edits of a part. -/
def Part.edits (extension : Text) (offset : Nat) : Part → List Edit
  | .paragraph first more => linesEdits extension offset (first :: more)
  | .definition label dest _ => destEdits extension (offset + label.length + 4) dest
  | .fenced _ _ => []

/-- The edits of a draft. -/
def Draft.edits (extension : Text) : Nat → Draft → List Edit
  | _, [] => []
  | offset, part :: parts =>
    part.edits extension offset ++ Draft.edits extension (offset + part.source.length) parts

/-! ## What the edits make -/

theorem rewrites_dest (offset : Nat) (dest : Text) :
    Rewrites offset dest (destEdits extension offset dest) (newDest extension dest) := by
  rw [destEdits, newDest]
  cases found : retarget? extension dest with
  | none => exact .keep offset dest
  | some target =>
    refine .replace ?_ offset target
    rintro rfl
    cases found

mutual

theorem Prose.rewrites (offset : Nat) : (prose : Prose) →
    Rewrites offset prose.source (prose.edits extension offset) (prose.retargeted extension).source
  | .last text => .keep offset text
  | .next text element rest =>
    (Rewrites.keep offset text).append
      ((element.rewrites (offset + text.length)).append
        (rest.rewrites (offset + text.length + element.source.length)))

theorem Element.rewrites (offset : Nat) : (element : Element) →
    Rewrites offset element.source (element.edits extension offset)
      (element.retargeted extension).source
  | .code text => .keep offset _
  | .address scheme rest => .keep offset _
  | .image alt dest title =>
    .around ['!', '['] (']' :: (targetSource dest title ++ [')'])) rfl (alt.rewrites (offset + 2))
  | .link inner dest title => by
    have text := inner.rewrites (offset + 1)
    have target : Rewrites (offset + 1 + inner.source.length)
        ([']', '('] ++ (dest ++ (titleSource title ++ [')'])))
        (destEdits extension (offset + inner.source.length + 3) dest)
        ([']', '('] ++ (newDest extension dest ++ (titleSource title ++ [')']))) :=
      .around _ _ (by simp; omega) (rewrites_dest _ dest)
    have all := Rewrites.around ['['] [] rfl (text.append target)
    simpa [Element.source, Element.retargeted, Element.edits, targetSource] using all
  | .reference inner label =>
    .around ['['] (']' :: '[' :: (label ++ [']'])) rfl (inner.rewrites (offset + 1))

end

theorem rewrites_lines (offset : Nat) (lines : List Prose) :
    Rewrites offset (linesSource (lines.map Prose.source)) (linesEdits extension offset lines)
      (linesSource ((lines.map (Prose.retargeted extension)).map Prose.source)) := by
  induction lines generalizing offset with
  | nil => exact .keep offset []
  | cons line lines ih =>
    have first : Rewrites offset line.source (line.edits extension offset) _ := line.rewrites offset
    have ended := first.append (.keep _ ['\n'])
    rw [List.append_nil] at ended
    have all := ended.append (ih _)
    rw [List.length_append, List.length_singleton, ← Nat.add_assoc] at all
    rw [List.map_cons, List.map_cons, List.map_cons, linesSource_cons, linesSource_cons, linesEdits]
    simpa using all

theorem Part.rewrites (offset : Nat) (part : Part) :
    Rewrites offset part.source (part.edits extension offset) (part.retargeted extension).source := by
  cases part with
  | paragraph first more =>
    have lines : Rewrites offset _ (linesEdits extension offset (first :: more)) _ :=
        rewrites_lines offset _
    have all := lines.append (.keep _ ['\n'])
    rw [List.append_nil] at all
    exact all
  | definition label dest title =>
    have all : Rewrites offset _ (destEdits extension (offset + label.length + 4) dest) _ :=
      .around ('[' :: (label ++ [']', ':', ' '])) (titleSource title ++ ['\n', '\n']) (by simp; omega)
        (rewrites_dest _ dest)
    simpa [Part.source, Part.lines, linesSource, Part.retargeted, definitionSource,
      Part.edits] using all
  | fenced info code => exact .keep offset _

theorem Draft.rewrites (offset : Nat) (draft : Draft) :
    Rewrites offset (Draft.source draft) (Draft.edits extension offset draft)
      (Draft.source (draft.retargeted extension)) := by
  induction draft generalizing offset with
  | nil => exact .keep offset []
  | cons part parts ih => exact (part.rewrites offset).append (ih _)

/-! ## Where destinations are found -/

mutual

/-- Whether the destination of every link that is retargeted is found where it is written. -/
def Prose.isLocated (extension : Text) : Prose → Bool
  | .last _ => true
  | .next _ element rest => element.isLocated extension && rest.isLocated extension

/-- Whether the destination of every link in an element that is retargeted is found where it is
written. -/
def Element.isLocated (extension : Text) : Element → Bool
  | .code _ => true
  | .address _ _ => true
  | .image alt _ _ => alt.isLocated extension
  | .link inner dest title =>
    let source := (Element.link inner dest title).source
    let start := inner.source.length + 3
    inner.isLocated extension && ((retarget? extension dest).isNone ||
      locate? source ⟨0, source.length⟩ "](".toList dest == some ⟨start, start + dest.length⟩)
  | .reference inner _ => inner.isLocated extension

end

/-- Whether the destination of every link in a part that is retargeted is found where it is written. -/
def Part.isLocated (extension : Text) : Part → Bool
  | .paragraph first more => (first :: more).all (Prose.isLocated extension)
  | _ => true

/-- Whether the destination of every link in a draft that is retargeted is found where it is written. -/
def Draft.isLocated (extension : Text) (draft : Draft) : Bool := draft.all (Part.isLocated extension)

section Locating

variable {source text rest mark label dest : Text} {offset : Nat}

theorem drop_after (here : source.drop offset = text ++ rest) :
    source.drop (offset + text.length) = rest := by
  rw [← List.drop_drop, here, List.drop_left]

/-- A destination is looked for in the text of its link alone. -/
theorem locate_within (here : source.drop offset = text ++ rest) (filled : text ≠ []) :
    locate? source ⟨offset, offset + text.length⟩ mark dest =
      (locate? text ⟨0, text.length⟩ mark dest).map fun span =>
        ⟨offset + span.start, offset + span.stop⟩ := by
  have positive := List.length_pos_iff.mpr filled
  have width : source.length - offset = text.length + rest.length := by
    rw [← List.length_drop, here, List.length_append]
  have sliced : slice? source ⟨offset, offset + text.length⟩ = some text := by
    have fits : offset + text.length ≤ source.length := by omega
    simp [slice?, here, fits]
  have whole : slice? text ⟨0, text.length⟩ = some text := by simp [slice?]
  rw [locate?, locate?, sliced, whole]
  simp only [Option.bind_some, Option.map_map]
  congr 1
  funext i
  simp [Nat.add_assoc]

/-- A destination is looked for behind the first mark. -/
theorem locate_marked {before tail : Text} (whole : text = before ++ mark ++ tail)
    (first : indexOf? mark text = some before.length) :
    locate? text ⟨0, text.length⟩ mark dest =
      (indexOf? dest tail).map fun i =>
        ⟨before.length + mark.length + i, before.length + mark.length + i + dest.length⟩ := by
  have sliced : slice? text ⟨0, text.length⟩ = some text := by simp [slice?]
  have behind : text.drop (before.length + mark.length) = tail := by
    rw [whole, ← List.length_append, List.drop_left]
  simp [locate?, sliced, first, behind]

/-- The destination of a definition is found where it is written. -/
theorem locate_definition {title : Option Text} (labelled : isLabel label = true)
    (destined : isDest dest = true) :
    locate? (definitionSource label dest title) ⟨0, (definitionSource label dest title).length⟩
        "]:".toList dest =
      some ⟨label.length + 4, label.length + 4 + dest.length⟩ := by
  have unclosed : ']' ∉ '[' :: label := by
    simp only [isLabel, Bool.and_eq_true, List.all_eq_true] at labelled
    intro member
    rcases List.mem_cons.mp member with same | member
    · cases same
    · exact absurd (labelled.2 _ member).1.1 (by decide)
  have whole : definitionSource label dest title =
      '[' :: label ++ "]:".toList ++ (' ' :: (dest ++ titleSource title)) := by
    simp [definitionSource]
  have first : indexOf? "]:".toList (definitionSource label dest title) =
      some ('[' :: label).length := by
    rw [whole]
    exact indexOf_append unclosed _
  obtain ⟨d, more, rfl, visible⟩ := dest_cons destined
  have fresh : d ∉ [' '] := by
    rintro member
    rw [List.mem_singleton.mp member] at visible
    cases visible
  have found : indexOf? (d :: more) (' ' :: (d :: more ++ titleSource title)) = some 1 :=
    indexOf_append fresh (titleSource title)
  rw [locate_marked whole first, found]
  simp

/-- The destination of a link is found where it is written, if nothing before it looks like the mark. -/
theorem Element.isLocated_link {inner : Prose} {title : Option Text} (destined : isDest dest = true)
    (located : inner.isLocated extension = true) (unmarked : ¬"](".toList <:+: inner.source) :
    (Element.link inner dest title).isLocated extension = true := by
  have free : ¬[']', '('] <:+: '[' :: inner.source := by
    rw [List.infix_cons_iff, not_or]
    exact ⟨by simp, unmarked⟩
  have whole : (Element.link inner dest title).source =
      '[' :: inner.source ++ "](".toList ++ (dest ++ (titleSource title ++ [')'])) := by
    simp [Element.source, targetSource]
  have first : indexOf? "](".toList (Element.link inner dest title).source =
      some ('[' :: inner.source).length := by
    rw [whole]
    exact indexOf_pair (by decide) free _
  have found : indexOf? dest (dest ++ (titleSource title ++ [')'])) = some 0 := by
    obtain ⟨d, more, rfl, -⟩ := dest_cons destined
    exact indexOf_append List.not_mem_nil _
  rw [Element.isLocated, locate_marked whole first, found]
  simp [located]

end Locating

/-! ## Links that are reported -/

/-- The link that begins with an event, if it is one to be looked at. -/
def Event.reported? : Event → Option Reported
  | .start (.link .inline dest _ span) => some ⟨dest, span, "](".toList⟩
  | _ => none

/-- A definition as a link to be looked at. -/
def Definition.reported (d : Definition) : Reported := ⟨d.dest, d.span, "]:".toList⟩

theorem reportedLinks_eq (source : Text) :
    reportedLinks source = (Outline.ofSource source).definitions.reverse.map Definition.reported ++
      (Event.ofSource source).filterMap Event.reported? := by
  rw [reportedLinks]
  congr 1

theorem filterMap_singleton {α β : Type} (f : α → Option β) (a : α) :
    [a].filterMap f = (f a).toList := by
  simp only [List.filterMap_cons, List.filterMap_nil]
  cases f a <;> rfl

/-- The edits that events ask for. -/
def Event.edits (source extension : Text) (events : List Event) : List Edit :=
  (events.filterMap Event.reported?).filterMap (Reported.edit? source extension)

section Reports

variable {targets : Targets} {source rest : Text} {offset : Nat}

theorem Event.edits_append (first second : List Event) :
    Event.edits source extension (first ++ second) =
      Event.edits source extension first ++ Event.edits source extension second := by
  simp [Event.edits]

/-- An element asks for the edit of its beginning and those of what it encloses. -/
theorem Event.edits_within (tag : Tag) (inner : List Event) :
    Event.edits source extension (Event.within tag inner) =
      Event.edits source extension [.start tag] ++ Event.edits source extension inner := by
  have ending : Event.edits source extension [.stop tag] = [] := rfl
  have shape : Event.within tag inner = [.start tag] ++ inner ++ [.stop tag] := rfl
  rw [shape, Event.edits_append, Event.edits_append, ending, List.append_nil]

theorem Event.ofInlines_append (first second : List Inline) :
    Event.ofInlines (first ++ second) = Event.ofInlines first ++ Event.ofInlines second := by
  induction first with
  | nil => rfl
  | cons inline first ih => simp [Event.ofInlines, ih]

theorem Event.edits_text (text : Text) :
    Event.edits source extension (Event.ofInlines (textInlines text)) = [] := by
  rw [textInlines]
  split <;> rfl

/-- A link whose destination is found where it is written asks for the edit of it. -/
theorem Reported.edit_located {text dest : Text} {start : Nat} (mark : Text)
    (here : source.drop offset = text ++ rest) (filled : text ≠ [])
    (found : (retarget? extension dest).isNone = true ∨
      locate? text ⟨0, text.length⟩ mark dest = some ⟨start, start + dest.length⟩) :
    (Reported.edit? source extension ⟨dest, ⟨offset, offset + text.length⟩, mark⟩).toList =
      destEdits extension (offset + start) dest := by
  rw [Reported.edit?, destEdits]
  cases target : retarget? extension dest with
  | none => rfl
  | some new =>
    rcases found with missing | found
    · simp [target] at missing
    · rw [locate_within here filled, found]
      simp [Nat.add_assoc]

mutual

theorem Prose.edits_perm (targets : Targets) (offset : Nat) (rest : Text) (prose : Prose)
    (here : source.drop offset = prose.source ++ rest) (located : prose.isLocated extension = true) :
    (Event.edits source extension (Event.ofInlines (prose.inlines targets offset))).Perm
      (prose.edits extension offset) := by
  cases prose with
  | last text =>
    rw [Prose.inlines, Event.edits_text]
    exact .nil
  | next text element prose =>
    rw [Prose.isLocated, Bool.and_eq_true] at located
    rw [Prose.source, List.append_assoc] at here
    have behind := drop_after here
    rw [List.append_assoc] at behind
    have one := Element.edits_perm targets (offset + text.length) (prose.source ++ rest) element behind
      located.1
    have two := Prose.edits_perm targets (offset + text.length + element.source.length) rest prose
      (drop_after behind) located.2
    rw [Prose.inlines, Event.ofInlines_append, Event.edits_append, Event.edits_text, List.nil_append,
      Event.ofInlines, Event.edits_append]
    exact one.append two

theorem Element.edits_perm (targets : Targets) (offset : Nat) (rest : Text) (element : Element)
    (here : source.drop offset = element.source ++ rest)
    (located : element.isLocated extension = true) :
    (Event.edits source extension (Event.ofInline (element.inline targets offset))).Perm
      (element.edits extension offset) := by
  cases element with
  | code text => exact .nil
  | address scheme path => exact .nil
  | image alt dest title =>
    have shape : source.drop offset =
        ['!', '['] ++ (alt.source ++ (']' :: (targetSource dest title ++ [')']) ++ rest)) := by
      rw [here, Element.source]
      simp
    rw [Element.inline, Event.ofInline, Event.edits_within]
    exact Prose.edits_perm targets (offset + 2) _ alt (drop_after shape) located
  | link inner dest title =>
    have filled : (Element.link inner dest title).source ≠ [] := by simp [Element.source]
    have shape : source.drop offset =
        ['['] ++ (inner.source ++ (']' :: (targetSource dest title ++ [')']) ++ rest)) := by
      rw [here, Element.source]
      simp
    simp only [Element.isLocated, Bool.and_eq_true, Bool.or_eq_true, beq_iff_eq] at located
    obtain ⟨located, found⟩ := located
    have text := Prose.edits_perm targets (offset + 1) _ inner (drop_after shape) located
    have own : Event.edits source extension [.start (.link .inline dest (title.getD [])
          ⟨offset, offset + (Element.link inner dest title).source.length⟩)] =
        destEdits extension (offset + inner.source.length + 3) dest := by
      have asked := Reported.edit_located "](".toList here filled found
      rw [← Nat.add_assoc] at asked
      rw [← asked]
      exact filterMap_singleton _ _
    rw [Element.inline, Event.ofInline, Event.edits_within, own, Element.edits]
    exact List.perm_append_comm.trans (text.append_right _)
  | reference inner label =>
    have shape : source.drop offset =
        ['['] ++ (inner.source ++ (']' :: '[' :: (label ++ [']']) ++ rest)) := by
      rw [here, Element.source]
      simp
    rw [Element.inline, Event.ofInline, Event.edits_within]
    exact Prose.edits_perm targets (offset + 1) _ inner (drop_after shape) located

end

theorem linesEdits_perm (targets : Targets) (lines : List Prose) (rest : Text) (offset : Nat)
    (here : source.drop offset = linesSource (lines.map Prose.source) ++ rest)
    (located : ∀ line ∈ lines, line.isLocated extension = true) :
    (Event.edits source extension (Event.ofInlines (linesInlines targets offset lines))).Perm
      (linesEdits extension offset lines) := by
  induction lines generalizing offset with
  | nil => exact .nil
  | cons line lines ih =>
    rw [List.map_cons, linesSource_cons, List.append_assoc] at here
    have first := Prose.edits_perm targets offset _ line here (located line (List.mem_cons_self ..))
    have behind := drop_after here
    have fed : source.drop (offset + line.source.length) =
        ['\n'] ++ (linesSource (lines.map Prose.source) ++ rest) := behind
    have more := ih (offset + line.source.length + 1) (drop_after fed)
      fun x member => located x (List.mem_cons_of_mem _ member)
    cases lines with
    | nil =>
      rw [linesEdits, linesEdits, List.append_nil]
      exact first
    | cons next lines =>
      rw [linesInlines, Event.ofInlines_append, Event.edits_append, linesEdits]
      exact first.append more

/-- The edits that definitions ask for. -/
def Definition.edits (source extension : Text) (definitions : List Definition) : List Edit :=
  (definitions.map Definition.reported).filterMap (Reported.edit? source extension)

/-- A part asks for the edits of its links and definitions. -/
theorem Part.edits_perm {labels : List Text} (targets : Targets) (offset : Nat) (part : Part)
    (here : source.drop offset = part.source ++ rest) (proper : part.isProper labels = true)
    (located : part.isLocated extension = true) :
    (Definition.edits source extension (part.definitions offset) ++
        Event.edits source extension (part.events targets offset)).Perm
      (part.edits extension offset) := by
  cases part with
  | paragraph first more =>
    rw [Part.source, List.append_assoc] at here
    have all : ∀ line ∈ first :: more, line.isLocated extension = true := by
      simpa [Part.isLocated] using located
    rw [Part.events, Event.edits_within]
    exact linesEdits_perm targets (first :: more) _ offset here all
  | definition label dest title =>
    simp only [Part.isProper, Bool.and_eq_true] at proper
    have shape : source.drop offset = definitionSource label dest title ++ ('\n' :: '\n' :: rest) := by
      rw [here]
      simp [Part.source, Part.lines, linesSource]
    have asked : (Reported.edit? source extension ⟨dest, ⟨offset, _⟩, "]:".toList⟩).toList = _ :=
      Reported.edit_located "]:".toList shape (by simp [definitionSource])
        (.inr (locate_definition proper.1.1 proper.1.2))
    rw [← Nat.add_assoc] at asked
    rw [Part.edits, ← asked]
    exact .of_eq ((List.append_nil _).trans (filterMap_singleton _ _))
  | fenced info code =>
    have silent : Event.edits source extension ((Part.fenced info code).events targets offset) =
        [] := by
      rw [Part.events, Event.edits_within]
      simp [Event.edits, Event.reported?, Function.comp_def]
    rw [silent]
    exact .nil

theorem Draft.edits_perm {labels : List Text} (targets : Targets) (offset : Nat) (draft : Draft)
    (here : source.drop offset = Draft.source draft ++ rest)
    (proper : ∀ part ∈ draft, part.isProper labels = true)
    (located : ∀ part ∈ draft, part.isLocated extension = true) :
    (Definition.edits source extension (Draft.definitions offset draft) ++
        Event.edits source extension (Draft.events targets offset draft)).Perm
      (Draft.edits extension offset draft) := by
  induction draft generalizing offset with
  | nil => exact .nil
  | cons part parts ih =>
    rw [Draft.source, List.append_assoc] at here
    have first := part.edits_perm targets offset here (proper part (List.mem_cons_self ..))
      (located part (List.mem_cons_self ..))
    have more := ih (offset + part.source.length) (drop_after here)
      (fun x member => proper x (List.mem_cons_of_mem _ member))
      fun x member => located x (List.mem_cons_of_mem _ member)
    have split : Definition.edits source extension (Draft.definitions offset (part :: parts)) =
        Definition.edits source extension (part.definitions offset) ++
          Definition.edits source extension
            (Draft.definitions (offset + part.source.length) parts) := by
      simp [Definition.edits, Draft.definitions]
    rw [split, Draft.events, Event.edits_append, Draft.edits]
    refine List.Perm.trans ?_ (first.append more)
    rw [List.append_assoc, List.append_assoc]
    exact (List.perm_append_comm_assoc _ _ _).append_left _

end Reports

/-! ## Rewriting -/

/-- Retargeting carries out the edits that the links of a source ask for. -/
theorem retargetLinks_eq (source extension : Text) :
    retargetLinks source extension =
      splice 0 source
        (sortEdits ((reportedLinks source).filterMap (Reported.edit? source extension))) := by
  rw [retargetLinks, retargetLinks?, retargetReported?]
  split
  next none => rw [none]; rfl
  · rfl

/-- Retargeting what a draft is written as gives what the retargeted draft is written as. -/
theorem retargetLinks_draft {draft : Draft} (proper : draft.IsProper)
    (located : draft.isLocated extension = true) :
    retargetLinks draft.source extension = Draft.source (draft.retargeted extension) := by
  have links : (reportedLinks draft.source).filterMap (Reported.edit? draft.source extension) =
      Definition.edits draft.source extension (draft.definitions 0) ++
        Event.edits draft.source extension (draft.events draft.targets 0) := by
    rw [reportedLinks_eq, Outline.definitions_draft proper, List.reverse_reverse,
      Event.ofSource_draft proper,
      List.filterMap_append]
    rfl
  have whole : draft.source.drop 0 = Draft.source draft ++ [] := (List.append_nil _).symm
  have perm := draft.edits_perm draft.targets 0 whole proper.parts (List.all_eq_true.mp located)
  rw [retargetLinks_eq, links]
  exact (Draft.rewrites 0 draft).splice_eq perm

end DocSite.Markdown
