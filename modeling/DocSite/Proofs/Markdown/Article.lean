/-
# DocSite.Proofs.Markdown.Article -- a title among other text

An article has a title between other parts: drafts before and after it, and lines of a paragraph above
and below it, with any number of blank lines between. Its events are those of the text around the title
and of the title (`Article.ofSource_stretch`), and the title is the heading that names it
(`Article.headline_stretch`). Without the lines of the title the same text is left with the same events,
places aside, unless the paragraphs above and below it become one (`Article.leavesOut_iff`).
-/
import DocSite.Proofs.Markdown.Headings
import DocSite.Proofs.Markdown.Retargeted
import DocSite.Proofs.Markdown.Titling

set_option autoImplicit false

namespace DocSite.Markdown

open Text

/-! ## Events without a heading -/

/-- Events without the heading of level one that stands at a span. -/
def withoutHeading (span : Span) : List Event → List Event
  | [] => []
  | event :: rest =>
    if event = .start (.heading 1 span) then (rest.dropWhile fun event => !event.ofHeading).tail
    else event :: withoutHeading span rest

/-- Whether a source gives the events of another one without the heading at a span, places aside. -/
def LeavesOut (span : Span) (source body : Text) : Prop :=
  (Event.ofSource body).map Event.unplaced =
    (withoutHeading span (Event.ofSource source)).map Event.unplaced

instance (span : Span) (source body : Text) : Decidable (LeavesOut span source body) :=
  inferInstanceAs (Decidable (_ = _))

section Without

variable {before inner after : List Event} {span : Span}

theorem withoutHeading_within (outside : WithoutHeadings before) (inside : WithoutHeadings inner) :
    withoutHeading span (before ++ (Event.within (.heading 1 span) inner ++ after)) = before ++ after := by
  induction before with
  | nil =>
    have enclosed : (inner ++ .stop (.heading 1 span) :: after).dropWhile (fun event => !event.ofHeading) =
        .stop (.heading 1 span) :: after := by
      rw [List.dropWhile_append_of_pos fun event member => by simp [inside event member],
        List.dropWhile_cons_of_neg (by simp [Event.ofHeading, Tag.isHeading])]
    rw [Event.within, List.nil_append, List.nil_append, List.append_assoc, List.cons_append,
      List.singleton_append, withoutHeading, if_pos rfl, enclosed, List.tail_cons]
  | cons event before ih =>
    have other : event ≠ .start (.heading 1 span) := by
      rintro rfl
      exact absurd (outside _ List.mem_cons_self) (by simp [Event.ofHeading, Tag.isHeading])
    rw [List.cons_append, withoutHeading, if_neg other, ih fun event member => outside event (.tail _ member)]
    rfl

theorem headlineFrom_without (outside : WithoutHeadings before) (rest : List Event) :
    headlineFrom? none (before ++ rest) = headlineFrom? none rest := by
  induction before with
  | nil => rfl
  | cons event before ih =>
    rw [List.cons_append, headlineFrom_cons _ _ (outside event List.mem_cons_self),
      ih fun event member => outside event (.tail _ member)]

end Without

/-! ## Events in other places -/

/-- Whether references lead to the same destinations and titles. -/
def Targets.Agrees (one other : Targets) : Prop :=
  ∀ label, (one.definition? label).map (fun d => (d.dest, d.title)) =
    (other.definition? label).map fun d => (d.dest, d.title)

section Places

variable {one other : Targets}

mutual

theorem Prose.unplaced_events (agrees : one.Agrees other) (prose : Prose) (offset offset' : Nat) :
    (Event.ofInlines (prose.inlines one offset)).map Event.unplaced =
      (Event.ofInlines (prose.inlines other offset')).map Event.unplaced := by
  cases prose with
  | last text => rfl
  | next text element rest =>
    simp only [Prose.inlines, Event.ofInlines_append, Event.ofInlines, List.map_append]
    rw [element.unplaced_events agrees _ (offset' + text.length),
      rest.unplaced_events agrees _ (offset' + text.length + element.source.length)]

theorem Element.unplaced_events (agrees : one.Agrees other) (element : Element) (offset offset' : Nat) :
    (Event.ofInline (element.inline one offset)).map Event.unplaced =
      (Event.ofInline (element.inline other offset')).map Event.unplaced := by
  have within {tag tag' : Tag} {inner inner' : List Event} (same : tag.unplaced = tag'.unplaced)
      (inside : inner.map Event.unplaced = inner'.map Event.unplaced) :
      (Event.within tag inner).map Event.unplaced = (Event.within tag' inner').map Event.unplaced := by
    simp [Event.within, Event.unplaced, same, inside]
  cases element with
  | code text => rfl
  | address scheme rest => rfl
  | image alt dest title => exact within rfl (alt.unplaced_events agrees _ _)
  | link inner dest title => exact within rfl (inner.unplaced_events agrees _ _)
  | reference inner label =>
    refine within ?_ (inner.unplaced_events agrees _ _)
    have both := agrees label
    cases found : one.definition? label with
    | none =>
      rw [found, Option.map_none, eq_comm, Option.map_eq_none_iff] at both
      rw [both]
      rfl
    | some d =>
      rw [found, Option.map_some, eq_comm, Option.map_eq_some_iff] at both
      obtain ⟨d', found', same⟩ := both
      obtain ⟨dest, title⟩ := Prod.mk.inj same
      rw [found']
      simp [Tag.unplaced, dest, title]

end

theorem unplaced_lines (agrees : one.Agrees other) (lines : List Prose) (offset offset' : Nat) :
    (Event.ofInlines (linesInlines one offset lines)).map Event.unplaced =
      (Event.ofInlines (linesInlines other offset' lines)).map Event.unplaced := by
  induction lines generalizing offset offset' with
  | nil => rfl
  | cons line lines ih =>
    cases lines with
    | nil => exact line.unplaced_events agrees offset offset'
    | cons next lines =>
      simp only [linesInlines, Event.ofInlines_append, Event.ofInlines, List.map_append]
      rw [line.unplaced_events agrees offset offset',
        ih (offset + line.source.length + 1) (offset' + line.source.length + 1)]

end Places

/-! ## Lines -/

/-- Lines of running text begin with the text of the first. -/
theorem linesInlines_cons (targets : Targets) (offset : Nat) (first : Prose) (more : List Prose) :
    ∃ rest, linesInlines targets offset (first :: more) = textInlines first.opening ++ rest := by
  have line : ∃ rest, first.inlines targets offset = textInlines first.opening ++ rest := by
    cases first with
    | last text => exact ⟨[], (List.append_nil _).symm⟩
    | next text element rest => exact ⟨_, rfl⟩
  obtain ⟨rest, begins⟩ := line
  cases more with
  | nil => exact ⟨rest, begins⟩
  | cons next more => exact ⟨_, by rw [linesInlines, begins, List.append_assoc]⟩

theorem linesInlines_append (targets : Targets) (offset : Nat) {above below : List Prose} (some : above ≠ [])
    (more : below ≠ []) :
    linesInlines targets offset (above ++ below) =
      linesInlines targets offset above ++
        .softBreak :: linesInlines targets (offset + (linesSource (above.map Prose.source)).length) below := by
  induction above generalizing offset with
  | nil => exact absurd rfl some
  | cons line above ih =>
    cases above with
    | nil =>
      obtain ⟨next, below, rfl⟩ := List.exists_cons_of_ne_nil more
      simp [linesInlines, linesSource_cons, Nat.add_assoc]
    | cons next above =>
      have width : (linesSource ((line :: next :: above).map Prose.source)).length =
          line.source.length + 1 + (linesSource ((next :: above).map Prose.source)).length := by
        rw [List.map_cons, linesSource_cons, List.length_append, List.length_cons]
        omega
      rw [width, ← Nat.add_assoc, ← Nat.add_assoc, List.cons_append, List.cons_append, linesInlines,
        linesInlines, ← List.cons_append, ih _ (by simp), List.append_assoc, List.cons_append]

/-! ## Plain stretches -/

namespace Stretch

variable {labels : List Text} {rest : Text} {first second : Stretch}

/-- Whether a stretch is made of whole lines without headings, and gives the same events and definitions
at all offsets, places aside. -/
structure IsPlain (stretch : Stretch) : Prop where
  whole : stretch.source = [] ∨ stretch.source.getLast? = some '\n'
  without : ∀ targets offset, WithoutHeadings (stretch.events targets offset)
  moved : ∀ one other : Targets, one.Agrees other → ∀ offset offset',
    (stretch.events one offset).map Event.unplaced = (stretch.events other offset').map Event.unplaced
  defined : ∀ offset offset', (stretch.definitions offset).map (fun d => (d.label, d.dest, d.title)) =
    (stretch.definitions offset').map fun d => (d.label, d.dest, d.title)

theorem IsPlain.append (one : first.IsPlain) (two : second.IsPlain) : (first ++ second).IsPlain where
  whole := by
    rw [source_append]
    rcases two.whole with empty | ends
    · rw [empty, List.append_nil]
      exact one.whole
    · exact .inr (by rw [List.getLast?_append, ends]; rfl)
  without targets offset := (one.without targets _).append (two.without targets _)
  moved targets targets' agrees offset offset' := by
    rw [events_append, events_append, List.map_append, List.map_append, one.moved _ _ agrees offset offset',
      two.moved _ _ agrees _ (offset' + first.source.length)]
  defined offset offset' := by
    rw [definitions_append, definitions_append, List.map_append, List.map_append, one.defined offset offset',
      two.defined _ (offset' + first.source.length)]

theorem isPlain_nothing : nothing.IsPlain :=
  ⟨.inl rfl, fun _ _ => nofun, fun _ _ _ _ _ => rfl, fun _ _ => rfl⟩

theorem isPlain_blank : blank.IsPlain :=
  ⟨.inr rfl, fun _ _ => nofun, fun _ _ _ _ _ => rfl, fun _ _ => rfl⟩

/-- Blank lines. -/
def blanks : Nat → Stretch
  | 0 => nothing
  | n + 1 => blank ++ blanks n

theorem source_blanks (n : Nat) : (blanks n).source = List.replicate n '\n' := by
  induction n with
  | zero => rfl
  | succ n ih => rw [blanks, source_append, ih]; rfl

theorem events_blanks (targets : Targets) (n offset : Nat) : (blanks n).events targets offset = [] := by
  induction n generalizing offset with
  | zero => rfl
  | succ n ih => rw [blanks, events_append, ih]; rfl

theorem labels_blanks (n : Nat) : (blanks n).labels = [] := by
  induction n with
  | zero => rfl
  | succ n ih => rw [blanks, labels_append, ih]; rfl

theorem isRead_blanks (n : Nat) : (blanks n).IsRead labels rest := by
  induction n with
  | zero => exact isRead_nothing
  | succ n ih => exact isRead_blank.append ih

theorem isPlain_blanks (n : Nat) : (blanks n).IsPlain := by
  induction n with
  | zero => exact isPlain_nothing
  | succ n ih => exact isPlain_blank.append ih

/-- Lines of a paragraph, if there are any. -/
def paragraph (lines : List Prose) : Stretch :=
  unlabelled (linesSource (lines.map Prose.source)) fun targets offset =>
    if lines.isEmpty then [] else Event.within .paragraph (Event.ofInlines (linesInlines targets offset lines))

theorem isRead_paragraph {lines : List Prose} (lined : ∀ line ∈ lines, line.isLine labels = true)
    (ends : lines ≠ [] → EndsText rest .open 0) : (paragraph lines).IsRead labels rest := by
  cases lines with
  | nil => exact isRead_nothing
  | cons first more =>
    refine .single (by simp [paragraph, unlabelled, linesSource_cons]) ?_
    intro limit offset blocks gap definitions enough _
    have short := length_linesSource ((first :: more).map Prose.source)
    have read := readBlock_lines (isLine_of_mem_sources lined) (by simp) (ends (by simp)) limit offset
      (Nat.le_trans short enough) blocks gap definitions
    refine ⟨[_], false, read, fun targets covers => ?_⟩
    exact ofBlocks_lines covers lined .open _ rest offset _ (Nat.le_refl _)

theorem getLast_linesSource {lines : List Text} (some : lines ≠ []) :
    (linesSource lines).getLast? = Option.some '\n' := by
  induction lines with
  | nil => exact absurd rfl some
  | cons line lines ih =>
    cases lines with
    | nil => simp [linesSource_cons]
    | cons next lines =>
      have last := ih (by simp)
      rw [linesSource_cons, List.append_cons, List.getLast?_append, last]
      rfl

theorem isPlain_paragraph (lines : List Prose) : (paragraph lines).IsPlain := by
  cases lines with
  | nil => exact isPlain_nothing
  | cons first more =>
    refine ⟨.inr (getLast_linesSource (by simp)), fun _ _ => .within rfl (withoutHeadings_ofInlines _),
      fun one other agrees offset offset' => ?_, fun _ _ => rfl⟩
    · have same := unplaced_lines agrees (first :: more) offset offset'
      simp [paragraph, unlabelled, Event.within, same]

/-- A paragraph whose lines are those of two has the events of both but one. -/
theorem length_events_paragraph {above below : List Prose} (some : above ≠ []) (more : below ≠ [])
    {one other : Targets} (agrees : one.Agrees other) (offset offset' offset'' : Nat) :
    ((paragraph (above ++ below)).events one offset).length + 1 =
      ((paragraph above).events other offset').length + ((paragraph below).events other offset'').length := by
  have joins := linesInlines_append one offset some more
  have first := congrArg List.length (unplaced_lines agrees above offset offset')
  have second := congrArg List.length
    (unplaced_lines agrees below (offset + (linesSource (above.map Prose.source)).length) offset'')
  rw [List.length_map, List.length_map] at first second
  have lineBreak : Event.ofInline .softBreak = [.softBreak] := rfl
  simp only [paragraph, unlabelled, List.isEmpty_iff, List.append_eq_nil_iff, some, more, and_self,
    if_false, joins, Event.ofInlines_append, Event.ofInlines, lineBreak, Event.within, List.length_append, List.length_cons,
    List.length_nil, first, second]
  omega

/-- A stretch without labels has no definitions. -/
theorem definitions_eq_nil {stretch : Stretch} (unlabelled : stretch.labels = []) (offset : Nat) :
    stretch.definitions offset = [] :=
  List.map_eq_nil_iff.mp ((stretch.labelled offset).trans unlabelled)

theorem agrees_of_defined (same : (first.definitions 0).map (fun d => (d.label, d.dest, d.title)) =
    (second.definitions 0).map fun d => (d.label, d.dest, d.title)) : first.targets.Agrees second.targets :=
  Targets.definition_congr same

theorem IsPlain.length_events {stretch : Stretch} (plain : stretch.IsPlain) {one other : Targets}
    (agrees : one.Agrees other) (offset offset' : Nat) :
    (stretch.events one offset).length = (stretch.events other offset').length := by
  simpa using congrArg List.length (plain.moved one other agrees offset offset')

end Stretch

theorem Part.isPlain_stretch (part : Part) : part.stretch.IsPlain where
  whole := .inr (by simp [Part.stretch, Part.source])
  without targets offset := by
    cases part with
    | paragraph first more => exact .within rfl (withoutHeadings_ofInlines _)
    | definition label dest title => exact fun _ member => absurd member List.not_mem_nil
    | fenced info code =>
      refine .within rfl fun event member => ?_
      obtain ⟨line, -, rfl⟩ := List.mem_map.mp member
      rfl
  moved one other agrees offset offset' := by
    cases part with
    | paragraph first more =>
      exact (Stretch.isPlain_paragraph (first :: more)).moved one other agrees offset offset'
    | definition label dest title => rfl
    | fenced info code => rfl
  defined offset offset' := by cases part <;> rfl

theorem Draft.isPlain_stretch (draft : Draft) : draft.stretch.IsPlain := by
  induction draft with
  | nil => exact Stretch.isPlain_nothing
  | cons part parts ih => exact part.isPlain_stretch.append ih

/-! ## Titles -/

theorem EndsText.title {title : Titling} (marked : title.isMarked = true) (rest : Text) :
    EndsText (title.source ++ rest) .open 0 := by
  cases title with
  | marked line =>
    refine ⟨by simp [Titling.source], delimiterRow_cons rfl (by decide),
      .inl ⟨underline_cons (by decide), fun offset => ?_, rfl, rfl⟩⟩
    have level : ∀ text, headingLevel? ('#' :: ' ' :: text) = some 1 := fun text => by
      simp [headingLevel?, isSpacing, isGap]
    simp [Titling.source, interruptsParagraph, interruptsText, level]
  | underlined first more signs => cases marked

namespace Titling

variable {labels : List Text} {title : Titling}

/-- A title shows a text. -/
theorem blank_shown (proper : title.isProper labels = true) (targets : Targets) (offset : Nat) :
    blank (shown [] (Event.ofInlines (title.inlines targets offset))) = false := by
  simp only [isProper, Bool.and_eq_true] at proper
  obtain ⟨⟨-, filled⟩, -⟩ := proper
  rw [inlines]
  cases lines : title.texts with
  | nil =>
    rw [lines] at filled
    cases filled
  | cons first more =>
    have text : blank first.opening = false := by simpa [lines] using filled
    obtain ⟨rest, begins⟩ := linesInlines_cons targets (offset + title.mark) first more
    have shows : shown [] (Event.ofInlines (textInlines first.opening)) = first.opening := by
      rw [textInlines]
      split
      next empty => rw [List.isEmpty_iff.mp empty]; rfl
      · simp [Event.ofInlines, Event.ofInline, shown, Event.shown]
    rw [begins, Event.ofInlines_append, shown_append, blank_append, shows, text, Bool.false_and]

/-- The lines of a title. -/
theorem exists_line (proper : title.isProper labels = true) :
    ∃ line, title.source = line ++ ['\n'] ∧ ∀ c ∈ line.getLast?, isBreak c = false := by
  simp only [isProper, Bool.and_eq_true, List.all_eq_true] at proper
  obtain ⟨⟨lined, -⟩, -⟩ := proper
  cases title with
  | marked line =>
    have text := Prose.isLine_source (lined line (List.mem_singleton_self line))
    refine ⟨'#' :: ' ' :: line.source, by simp [Titling.source, linesSource_cons], fun c last => ?_⟩
    obtain ⟨d, more, begins, -⟩ := text.begins
    rw [begins, List.getLast?_cons_cons, List.getLast?_cons_cons, ← begins] at last
    exact isBreak_of_isCommon (text.common c (List.mem_of_getLast? last))
  | underlined first more signs =>
    refine ⟨linesSource ((first :: more).map Prose.source) ++ underline signs, by simp [Titling.source],
      fun c last => ?_⟩
    have ends : (underline signs).getLast? = some '=' := by simp [underline, List.getLast?_replicate]
    rw [List.getLast?_append, ends] at last
    cases last
    rfl

end Titling

theorem cut_wholeLines {before line after : Text} (starts : before = [] ∨ before.getLast? = some '\n')
    (ends : ∀ c ∈ line.getLast?, isBreak c = false) :
    cut (before ++ (line ++ '\n' :: after))
        (wholeLines (before ++ (line ++ '\n' :: after)) ⟨before.length, before.length + (line.length + 1)⟩) =
      before ++ after := by
  have begins : lineStart (before ++ (line ++ '\n' :: after)) before.length = before.length := by
    have none : before.reverse.takeWhile (· != '\n') = [] := by
      rcases starts with rfl | last
      · rfl
      · obtain ⟨more, rfl⟩ := List.getLast?_eq_some_iff.mp last
        simp
    rw [lineStart, List.take_left, none]
    rfl
  have text : (line ++ '\n' :: after).take (line.length + 1) = line ++ ['\n'] := by
    rw [List.append_cons, List.take_left' (by simp)]
  have size : dropEndWhile (fun c => c == '\r' || c == '\n') (line ++ ['\n']) = line := by
    have kept : line.reverse.dropWhile (fun c => c == '\r' || c == '\n') = line.reverse := by
      cases reversed : line.reverse with
      | nil => rfl
      | cons c more =>
        have inside := ends c (by rw [List.getLast?_eq_head?_reverse, reversed]; rfl)
        refine List.dropWhile_cons_of_neg ?_
        rwa [Bool.or_comm, Bool.not_eq_true]
    simp [dropEndWhile, kept]
  have rest : (before ++ (line ++ '\n' :: after)).drop (before.length + line.length) = '\n' :: after := by
    rw [← List.drop_drop, List.drop_left, List.drop_left]
  have last : (before ++ (line ++ '\n' :: after)).drop (before.length + line.length + 1) = after := by
    rw [← List.drop_drop, rest]
    rfl
  rw [wholeLines, begins]
  simp only [List.drop_left, Nat.add_sub_cancel_left, text, size, rest]
  simp [cut, last]

/-! ## Articles -/

/-- A title among other text: drafts before and after it, the lines of a paragraph above and below it, and
blank lines between. -/
structure Article where
  before : Draft
  above : List Prose
  gapAbove : Nat
  title : Titling
  gapBelow : Nat
  below : List Prose
  after : Draft

namespace Article

/-- What comes before the title. -/
def opening (article : Article) : Stretch :=
  article.before.stretch ++ (.paragraph article.above ++ .blanks article.gapAbove)

/-- What comes after the title. -/
def closing (article : Article) : Stretch :=
  .blanks article.gapBelow ++ (.paragraph article.below ++ (.blank ++ article.after.stretch))

/-- An article as a stretch. -/
def stretch (article : Article) : Stretch := article.opening ++ (article.title.stretch ++ article.closing)

/-- An article without the lines of its title. -/
def untitled (article : Article) : Stretch := article.opening ++ article.closing

/-- Where the title stands. -/
def span (article : Article) : Span :=
  ⟨article.opening.source.length, article.opening.source.length + article.title.source.length⟩

/-- The labels that an article defines. -/
def labels (article : Article) : List Text := article.before.labels ++ article.after.labels

/-- Whether an article is written as it stands. An underline makes a title of all lines that come before
it without a blank line. -/
structure IsProper (article : Article) : Prop where
  parts : ∀ part ∈ article.before ++ article.after, part.isProper article.labels = true
  lines : ∀ line ∈ article.above ++ article.below, line.isLine article.labels = true
  title : article.title.isProper article.labels = true
  apart : article.title.isMarked = true ∨ article.above = [] ∨ 0 < article.gapAbove
  distinct : (article.labels.map foldLabel).Nodup

/-- Whether nothing but the title stands between the paragraphs above and below it. -/
def IsJoined (article : Article) : Prop :=
  article.above ≠ [] ∧ article.below ≠ [] ∧ article.gapAbove = 0 ∧ article.gapBelow = 0

variable {article : Article} {rest : Text}

theorem labels_stretch (article : Article) : article.stretch.labels = article.labels := by
  simp only [stretch, opening, closing, Stretch.labels_append, Stretch.labels_blanks]
  simp only [Stretch.paragraph, Stretch.blank, Stretch.unlabelled, Titling.stretch, List.append_nil,
    List.nil_append]
  rfl

theorem labels_untitled (article : Article) : article.untitled.labels = article.labels := by
  simp only [untitled, opening, closing, Stretch.labels_append, Stretch.labels_blanks]
  simp only [Stretch.paragraph, Stretch.blank, Stretch.unlabelled, List.append_nil, List.nil_append]
  rfl

/-! ### Reading -/

theorem isRead_opening (proper : article.IsProper)
    (ends : article.above ≠ [] → EndsText (List.replicate article.gapAbove '\n' ++ rest) .open 0) :
    article.opening.IsRead article.labels rest := by
  refine .append (Draft.isRead_stretch fun part member => proper.parts part (List.mem_append_left _ member))
    (.append (Stretch.isRead_paragraph (fun line member => proper.lines line (List.mem_append_left _ member)) ?_)
      (Stretch.isRead_blanks _))
  rw [Stretch.source_blanks]
  exact ends

theorem isRead_closing (proper : article.IsProper) : article.closing.IsRead article.labels rest := by
  refine .append (Stretch.isRead_blanks _)
    (.append (Stretch.isRead_paragraph (fun line member => proper.lines line (List.mem_append_right _ member)) ?_)
      (.append Stretch.isRead_blank
        (Draft.isRead_stretch fun part member => proper.parts part (List.mem_append_right _ member))))
  intro _
  exact .blank _

theorem isRead_stretch (proper : article.IsProper) : article.stretch.IsRead article.labels [] := by
  refine .append (isRead_opening proper fun some => ?_)
    (.append (Titling.isRead_stretch proper.title) (isRead_closing proper))
  rw [List.append_nil, Stretch.source_append]
  -- The paragraph above the title ends at a blank line, or else at the mark of the title.
  rcases proper.apart with marked | none | gapAbove
  · cases blank : article.gapAbove with
    | zero => exact .title marked _
    | succ n => exact .blank _
  · exact absurd none some
  · obtain ⟨n, blank⟩ := Nat.exists_eq_add_of_lt gapAbove
    rw [blank, Nat.zero_add, List.replicate_succ]
    exact .blank _

theorem isRead_untitled (proper : article.IsProper) (apart : ¬article.IsJoined) :
    article.untitled.IsRead article.labels [] := by
  refine .append (isRead_opening proper fun some => ?_) (isRead_closing proper)
  rw [List.append_nil, closing, Stretch.source_append, Stretch.source_append, Stretch.source_blanks]
  -- The paragraph above ends at the first blank line on either side. If there is none, nothing is left of the
  -- paragraph below, and the blank line after it comes next.
  cases gapAbove : article.gapAbove with
  | succ n => exact .blank _
  | zero =>
    cases gapBelow : article.gapBelow with
    | succ n => exact .blank _
    | zero =>
      have none : article.below = [] := by
        by_contra below
        exact apart ⟨some, below, gapAbove, gapBelow⟩
      rw [none]
      exact .blank _

/-- An article is read as the text around its title and the title. -/
theorem ofSource_stretch (proper : article.IsProper) :
    Event.ofSource article.stretch.source = article.stretch.events article.stretch.targets 0 :=
  (isRead_stretch proper).ofSource (labels_stretch article) proper.distinct

theorem ofSource_untitled (proper : article.IsProper) (apart : ¬article.IsJoined) :
    Event.ofSource article.untitled.source = article.untitled.events article.untitled.targets 0 :=
  (isRead_untitled proper apart).ofSource (labels_untitled article) proper.distinct

theorem isPlain_opening (article : Article) : article.opening.IsPlain :=
  article.before.isPlain_stretch.append
    ((Stretch.isPlain_paragraph article.above).append (Stretch.isPlain_blanks article.gapAbove))

theorem isPlain_closing (article : Article) : article.closing.IsPlain :=
  (Stretch.isPlain_blanks article.gapBelow).append
    ((Stretch.isPlain_paragraph article.below).append
      (Stretch.isPlain_blank.append article.after.isPlain_stretch))

/-! ### The title -/

/-- The events of a title in its article. -/
def heading (article : Article) : List Event :=
  Event.ofInlines (article.title.inlines article.stretch.targets article.opening.source.length)

theorem withoutHeadings_heading (article : Article) : WithoutHeadings article.heading :=
  withoutHeadings_ofInlines _

theorem events_stretch (article : Article) :
    article.stretch.events article.stretch.targets 0 =
      article.opening.events article.stretch.targets 0 ++
        (Event.within (.heading 1 article.span) article.heading ++
          article.closing.events article.stretch.targets
            (article.opening.source.length + article.title.source.length)) := by
  rw [stretch, Stretch.events_append, Stretch.events_append, Nat.zero_add]
  rfl

/-- The title is the heading that names an article. -/
theorem headline_stretch (proper : article.IsProper) :
    headline? article.stretch.source = some (trim (shown [] article.heading), article.span) := by
  have filled : blank (shown [] article.heading) = false := Titling.blank_shown proper.title _ _
  rw [headline?, ofSource_stretch proper, events_stretch,
    headlineFrom_without (article.isPlain_opening.without _ _),
    headlineFrom_heading article.withoutHeadings_heading, filled]
  rfl

/-- The events of an article without its title. -/
theorem withoutHeading_stretch (proper : article.IsProper) :
    withoutHeading article.span (Event.ofSource article.stretch.source) =
      article.opening.events article.stretch.targets 0 ++
        article.closing.events article.stretch.targets
          (article.opening.source.length + article.title.source.length) := by
  rw [ofSource_stretch proper, events_stretch,
    withoutHeading_within (article.isPlain_opening.without _ _) article.withoutHeadings_heading]

/-- Just the lines of the title are cut. -/
theorem cut_stretch (proper : article.IsProper) :
    cut article.stretch.source (wholeLines article.stretch.source article.span) = article.untitled.source := by
  obtain ⟨line, lines, ends⟩ := Titling.exists_line proper.title
  have source : article.stretch.source = article.opening.source ++ (line ++ '\n' :: article.closing.source) := by
    have title : article.title.stretch.source = line ++ ['\n'] := lines
    rw [stretch, Stretch.source_append, Stretch.source_append, title, ← List.append_cons]
  have width : article.span =
      ⟨article.opening.source.length, article.opening.source.length + (line.length + 1)⟩ := by
    rw [span, lines, List.length_append, List.length_singleton]
  rw [source, width, cut_wholeLines article.isPlain_opening.whole ends]
  rfl

/-! ### Without the title -/

theorem events_untitled (article : Article) (targets : Targets) :
    article.untitled.events targets 0 =
      article.opening.events targets 0 ++ article.closing.events targets article.opening.source.length := by
  rw [untitled, Stretch.events_append, Nat.zero_add]

theorem leavesOut_of_not_isJoined (proper : article.IsProper) (apart : ¬article.IsJoined) :
    LeavesOut article.span article.stretch.source article.untitled.source := by
  have agrees : article.untitled.targets.Agrees article.stretch.targets := by
    refine Stretch.agrees_of_defined ?_
    rw [untitled, stretch, Stretch.definitions_append, Stretch.definitions_append, Stretch.definitions_append,
      List.map_append, List.map_append, article.isPlain_closing.defined _ (0 + article.opening.source.length +
        article.title.stretch.source.length)]
    rfl
  rw [LeavesOut, ofSource_untitled proper apart, withoutHeading_stretch proper, events_untitled,
    List.map_append, List.map_append, article.isPlain_opening.moved _ _ agrees 0 0,
    article.isPlain_closing.moved _ _ agrees _ (article.opening.source.length + article.title.source.length)]

/-- An article whose paragraphs above and below the title become one. -/
def joined (article : Article) : Stretch :=
  article.before.stretch ++
    (.paragraph (article.above ++ article.below) ++ (.blank ++ article.after.stretch))

theorem source_joined (joined : article.IsJoined) : article.joined.source = article.untitled.source := by
  obtain ⟨-, -, gapAbove, gapBelow⟩ := joined
  have lines : linesSource ((article.above ++ article.below).map Prose.source) =
      linesSource (article.above.map Prose.source) ++ linesSource (article.below.map Prose.source) := by
    simp [linesSource]
  simp only [Article.joined, untitled, opening, closing, Stretch.source_append, Stretch.source_blanks, gapAbove,
    gapBelow, Stretch.paragraph, Stretch.unlabelled, lines, List.replicate_zero, List.append_nil,
    List.nil_append, List.append_assoc]

theorem isRead_joined (proper : article.IsProper) : article.joined.IsRead article.labels [] :=
  .append (Draft.isRead_stretch fun part member => proper.parts part (List.mem_append_left _ member))
    (.append (Stretch.isRead_paragraph proper.lines fun _ => .blank _)
      (.append Stretch.isRead_blank
        (Draft.isRead_stretch fun part member => proper.parts part (List.mem_append_right _ member))))

theorem ofSource_joined (proper : article.IsProper) :
    Event.ofSource article.joined.source = article.joined.events article.joined.targets 0 :=
  (isRead_joined proper).ofSource rfl proper.distinct

/-- Paragraphs that become one give one event less. -/
theorem length_events_joined (joined : article.IsJoined) {one other : Targets} (agrees : one.Agrees other)
    (offset : Nat) :
    (article.joined.events one 0).length + 1 =
      (article.opening.events other 0).length + (article.closing.events other offset).length := by
  obtain ⟨above, below, -, -⟩ := joined
  have before := article.before.isPlain_stretch.length_events agrees
  have after := article.after.isPlain_stretch.length_events agrees
  have blank (targets : Targets) (offset : Nat) : Stretch.blank.events targets offset = [] := rfl
  simp only [Article.joined, opening, closing, Stretch.events_append, Stretch.events_blanks, blank,
    List.append_nil, List.nil_append, List.length_append]
  rw [before 0 0, after _ (offset + (Stretch.blanks article.gapBelow).source.length +
    (Stretch.paragraph article.below).source.length + Stretch.blank.source.length)]
  have lines := Stretch.length_events_paragraph above below agrees (0 + article.before.stretch.source.length)
    (0 + article.before.stretch.source.length) (offset + (Stretch.blanks article.gapBelow).source.length)
  omega

theorem not_leavesOut_of_isJoined (proper : article.IsProper) (joined : article.IsJoined) :
    ¬LeavesOut article.span article.stretch.source article.untitled.source := by
  have agrees : article.joined.targets.Agrees article.stretch.targets := by
    have empty (stretch : Stretch) (unlabelled : stretch.labels = []) (offset : Nat) :
        stretch.definitions offset = [] := Stretch.definitions_eq_nil unlabelled offset
    refine Stretch.agrees_of_defined ?_
    simp only [Article.joined, stretch, opening, closing, Stretch.definitions_append,
      empty (.paragraph _) rfl, empty (.blanks _) (Stretch.labels_blanks _), empty .blank rfl,
      empty article.title.stretch rfl, List.append_nil, List.nil_append, List.map_append]
    exact congrArg _ (article.after.isPlain_stretch.defined _ _)
  intro out
  rw [LeavesOut, ← source_joined joined, ofSource_joined proper, withoutHeading_stretch proper] at out
  have same := congrArg List.length out
  have less := length_events_joined joined agrees (article.opening.source.length + article.title.source.length)
  rw [List.length_map, List.length_map, List.length_append] at same
  omega

/-- Without the lines of its title an article gives the same events without the heading, places aside, just if
paragraphs above and below the title do not become one. -/
theorem leavesOut_iff (proper : article.IsProper) :
    LeavesOut article.span article.stretch.source article.untitled.source ↔ ¬article.IsJoined :=
  ⟨fun out joined => not_leavesOut_of_isJoined proper joined out, leavesOut_of_not_isJoined proper⟩

end Article

end DocSite.Markdown
