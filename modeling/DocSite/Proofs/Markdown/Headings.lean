/-
# DocSite.Proofs.Markdown.Headings -- the headings of a document

The events of every document are nested, and no heading holds another (`wellNested_ofSource`). So the headings of
level one stand one after the other among them (`headings`), and the reader who looks for the first of them with
text sees of each just what it encloses (`headlineFrom_append`). What is missed are the breaks between the lines of
a heading: the texts on both sides of a break are joined (`trim_shown_eq_iff`).
-/
import DocSite.Markdown.Headline
import DocSite.Proofs.Markdown.Events
import DocSite.Proofs.Text.Trimming

set_option autoImplicit false

namespace DocSite.Markdown

open Text

variable {event : Event} {events rest inner : List Event} {white text : Text} {span : Span}

/-! ## Nested events -/

/-- Whether an element is a heading. -/
def Tag.isHeading : Tag → Bool
  | .heading _ _ => true
  | _ => false

theorem Tag.isHeading_of_isPlain {tag : Tag} (plain : tag.isPlain = true) : tag.isHeading = false := by
  cases tag <;> first | rfl | cases plain

namespace Event

/-- Whether a heading begins or ends with an event. -/
def ofHeading : Event → Bool
  | .start tag => tag.isHeading
  | .stop tag => tag.isHeading
  | _ => false

theorem ofHeading_of_isSingle (single : event.isSingle = true) : event.ofHeading = false := by
  cases event <;> first | rfl | cases single

end Event

/-- Whether no heading begins or ends among events. -/
def WithoutHeadings (events : List Event) : Prop := ∀ event ∈ events, event.ofHeading = false

/-- Events whose elements are nested, headings without other headings in them. -/
inductive WellNested : List Event → Prop
  | nil : WellNested []
  | single {event : Event} {rest : List Event} (single : event.isSingle = true) (nested : WellNested rest) :
      WellNested (event :: rest)
  | within {inner rest : List Event} (tag : Tag) (inside : WellNested inner)
      (heading : tag.isHeading = true → WithoutHeadings inner) (nested : WellNested rest) :
      WellNested (Event.within tag inner ++ rest)

theorem WithoutHeadings.append (first : WithoutHeadings events) (second : WithoutHeadings rest) :
    WithoutHeadings (events ++ rest) :=
  fun event member => (List.mem_append.mp member).elim (first event) (second event)

theorem WithoutHeadings.within {tag : Tag} (other : tag.isHeading = false) (inside : WithoutHeadings inner) :
    WithoutHeadings (Event.within tag inner) := by
  intro event member
  rcases List.mem_append.mp member with rest | last
  · rcases List.mem_cons.mp rest with rfl | member
    · exact other
    · exact inside event member
  · cases List.mem_singleton.mp last
    exact other

namespace WellNested

theorem append (first : WellNested events) (second : WellNested rest) : WellNested (events ++ rest) := by
  induction first with
  | nil => exact second
  | single single _ ih => exact .single single ih
  | within tag inside heading _ _ ih =>
    rw [List.append_assoc]
    exact .within tag inside heading ih

theorem enclosed (tag : Tag) (inside : WellNested inner) (heading : tag.isHeading = true → WithoutHeadings inner) :
    WellNested (Event.within tag inner) := by
  have nested := WellNested.within tag inside heading .nil
  rwa [List.append_nil] at nested

theorem other {tag : Tag} (other : tag.isHeading = false) (inside : WellNested inner) :
    WellNested (Event.within tag inner) :=
  .enclosed tag inside fun heading => absurd heading (by simp [other])

theorem composable : Composable WellNested where
  nil := .nil
  append := append
  single single := .single single .nil
  within plain := .other (Tag.isHeading_of_isPlain plain)

end WellNested

theorem composable_withoutHeadings : Composable WithoutHeadings where
  nil := nofun
  append := .append
  single single other member := by
    cases List.mem_singleton.mp member
    exact Event.ofHeading_of_isSingle single
  within plain := .within (Tag.isHeading_of_isPlain plain)

theorem withoutHeadings_ofInlines (inlines : List Inline) : WithoutHeadings (Event.ofInlines inlines) :=
  composable_withoutHeadings.ofInlines inlines

theorem blockComposable_wellNested : BlockComposable WellNested where
  toComposable := WellNested.composable
  heading _ _ done inlines := .enclosed _ (WellNested.composable.withTask done inlines) fun _ =>
    composable_withoutHeadings.withTask done inlines
  code _ _ := .other rfl (WellNested.composable.of_map fun _ => rfl)

theorem wellNested_ofSource (source : Text) : WellNested (Event.ofSource source) :=
  blockComposable_wellNested.ofSource source

/-! ## Headings of level one -/

/-- A heading of level one: where it stands, and the events between its beginning and its end. -/
structure Heading where
  span : Span
  inner : List Event

/-- The headings of level one among events. -/
def headings : List Event → List Heading
  | [] => []
  | .start (.heading 1 span) :: rest => ⟨span, rest.takeWhile fun event => !event.ofHeading⟩ :: headings rest
  | _ :: rest => headings rest

theorem headings_cons (event : Event) (rest : List Event) (other : event.ofHeading = false) :
    headings (event :: rest) = headings rest := by
  cases event with
  | start tag => cases tag with
    | heading => cases other
    | _ => rfl
  | _ => rfl

theorem headings_without (without : WithoutHeadings inner) (rest : List Event) :
    headings (inner ++ rest) = headings rest := by
  induction inner with
  | nil => rfl
  | cons event inner ih =>
    rw [List.cons_append, headings_cons _ _ (without event List.mem_cons_self),
      ih fun event member => without event (.tail _ member)]

/-- A heading encloses what stands between its beginning and its end. -/
theorem headings_within (without : WithoutHeadings inner) (rest : List Event) :
    headings (Event.within (.heading 1 span) inner ++ rest) = ⟨span, inner⟩ :: headings rest := by
  have enclosed :
      (inner ++ .stop (.heading 1 span) :: rest).takeWhile (fun event => !event.ofHeading) = inner := by
    rw [List.takeWhile_append_of_pos fun event member => by simp [without event member],
      List.takeWhile_cons_of_neg (by simp [Event.ofHeading, Tag.isHeading]), List.append_nil]
  have later : headings (inner ++ .stop (.heading 1 span) :: rest) = headings rest :=
    headings_without without _
  rw [Event.within, List.append_assoc, List.cons_append, List.singleton_append, headings, enclosed, later]

/-- Other elements add no headings to those in them. -/
theorem headings_within_other {tag : Tag} (other : ∀ span, tag ≠ .heading 1 span) (rest : List Event) :
    headings (Event.within tag inner ++ rest) = headings (inner ++ .stop tag :: rest) := by
  rw [Event.within, List.append_assoc, List.cons_append, List.singleton_append, headings]
  rintro span same
  exact other span (Event.start.inj same)

theorem headings_append (nested : WellNested events) (rest : List Event) :
    headings (events ++ rest) = headings events ++ headings rest := by
  induction nested generalizing rest with
  | nil => rfl
  | @single event events single nested ih =>
    have other := Event.ofHeading_of_isSingle single
    rw [List.cons_append, headings_cons _ _ other, headings_cons _ _ other, ih]
  | @within inner events tag inside heading nested inside_ih ih =>
    rw [List.append_assoc]
    by_cases first : ∃ span, tag = .heading 1 span
    · obtain ⟨span, rfl⟩ := first
      rw [headings_within (heading rfl), headings_within (heading rfl), ih, List.cons_append]
    · have other : ∀ span, tag ≠ .heading 1 span := fun span same => first ⟨span, same⟩
      have stop (rest : List Event) : headings (.stop tag :: rest) = headings rest := rfl
      rw [headings_within_other other, headings_within_other other, inside_ih, inside_ih, stop, stop, ih,
        List.append_assoc]

/-! ## What a heading shows -/

/-- Whether an event breaks a line. -/
def Event.isBreak : Event → Bool
  | .softBreak => true
  | .hardBreak => true
  | _ => false

/-- The text that an event shows if line breaks are shown as `white`. -/
def Event.shown (white : Text) : Event → Text
  | .text value => value
  | .code value => value
  | event => if event.isBreak then white else []

/-- The text that events show if line breaks are shown as `white`. -/
def shown (white : Text) (events : List Event) : Text := events.flatMap (Event.shown white)

theorem shown_cons (white : Text) (event : Event) (rest : List Event) :
    shown white (event :: rest) = event.shown white ++ shown white rest := rfl

theorem shown_append (white : Text) (events rest : List Event) :
    shown white (events ++ rest) = shown white events ++ shown white rest := List.flatMap_append

/-- How line breaks are shown makes no difference to other events. -/
theorem shown_of_not_isBreak (other : event.isBreak = false) (white white' : Text) :
    event.shown white = event.shown white' := by
  cases event <;> first | rfl | cases other

theorem shown_of_isBreak (breaks : event.isBreak = true) (white : Text) : event.shown white = white := by
  cases event <;> first | rfl | cases breaks

theorem blank_shown_event (empty : blank white = true) (event : Event) :
    blank (event.shown white) = blank (event.shown []) := by
  cases breaks : event.isBreak with
  | false => rw [shown_of_not_isBreak breaks white []]
  | true => rw [shown_of_isBreak breaks, shown_of_isBreak breaks, empty, blank_nil]

/-- Whether events show a text does not depend on how line breaks are shown, as long as it is blank. -/
theorem blank_shown (empty : blank white = true) (events : List Event) :
    blank (shown white events) = blank (shown [] events) := by
  induction events with
  | nil => rfl
  | cons event rest ih =>
    rw [shown_cons, shown_cons, blank_append, blank_append, blank_shown_event empty, ih]

/-! ## The heading that names a document -/

/-- The first heading of level one that shows a text, and where it stands. Line breaks in it are shown as
`white`. -/
def named? (white : Text) (events : List Event) : Option (Text × Span) :=
  ((headings events).find? fun heading => !blank (shown white heading.inner)).map fun heading =>
    (trim (shown white heading.inner), heading.span)

theorem headlineFrom_cons (event : Event) (rest : List Event) (other : event.ofHeading = false) :
    headlineFrom? none (event :: rest) = headlineFrom? none rest := by
  cases event with
  | start tag => cases tag with
    | heading => cases other
    | _ => rfl
  | stop tag => cases tag with
    | heading => cases other
    | _ => rfl
  | _ => rfl

/-- Within a heading, the text that is shown is collected. -/
theorem headlineFrom_within (without : WithoutHeadings inner) (text : Text) (rest : List Event) :
    headlineFrom? (some (text, span)) (inner ++ rest) =
      headlineFrom? (some (text ++ shown [] inner, span)) rest := by
  induction inner generalizing text with
  | nil => rw [shown, List.flatMap_nil, List.append_nil, List.nil_append]
  | cons event inner ih =>
    have other := without event List.mem_cons_self
    have step : headlineFrom? (some (text, span)) (event :: (inner ++ rest)) =
        headlineFrom? (some (text ++ event.shown [], span)) (inner ++ rest) := by
      cases event with
      | start tag => cases tag with
        | heading => cases other
        | _ => simp [headlineFrom?, Event.shown, Event.isBreak]
      | stop tag => cases tag with
        | heading => cases other
        | _ => simp [headlineFrom?, Event.shown, Event.isBreak]
      | _ => simp [headlineFrom?, Event.shown, Event.isBreak]
    rw [List.cons_append, step, ih fun event member => without event (.tail _ member), shown_cons,
      List.append_assoc]

/-- A heading of level one is the one that names the document if it shows a text, and otherwise makes no
difference. -/
theorem headlineFrom_heading (without : WithoutHeadings inner) (rest : List Event) :
    headlineFrom? none (Event.within (.heading 1 span) inner ++ rest) =
      if blank (shown [] inner) then headlineFrom? none rest else some (trim (shown [] inner), span) := by
  have opened (after : List Event) : headlineFrom? none (.start (.heading 1 span) :: after) =
      headlineFrom? (some ([], span)) after := rfl
  have closed (text : Text) : headlineFrom? (some (text, span)) (.stop (.heading 1 span) :: rest) =
      if (trim text).isEmpty then headlineFrom? none rest else some (trim text, span) := rfl
  have filled : (trim (shown [] inner)).isEmpty = blank (shown [] inner) := by
    rw [Bool.eq_iff_iff, List.isEmpty_iff, trim_eq_nil]
  rw [Event.within, List.append_assoc, List.cons_append, List.singleton_append, opened,
    headlineFrom_within without, List.nil_append, closed, filled]

theorem headlineFrom_within_other {tag : Tag} (other : ∀ span, tag ≠ .heading 1 span) (rest : List Event) :
    headlineFrom? none (Event.within tag inner ++ rest) =
      headlineFrom? none (inner ++ .stop tag :: rest) := by
  rw [Event.within, List.append_assoc, List.cons_append, List.singleton_append, headlineFrom?]
  · exact fun span same => other span (Event.start.inj same)
  · nofun
  · nofun
  · nofun

theorem named_heading (without : WithoutHeadings inner) (rest : List Event) :
    named? white (Event.within (.heading 1 span) inner ++ rest) =
      if blank (shown white inner) then named? white rest else some (trim (shown white inner), span) := by
  rw [named?, headings_within without, List.find?_cons]
  cases blank (shown white inner) <;> simp [named?]

theorem named_append (white : Text) (nested : WellNested events) (rest : List Event) :
    named? white (events ++ rest) = (named? white events).or (named? white rest) := by
  rw [named?, headings_append nested, List.find?_append, Option.map_or]
  rfl

/-- Nested events name the document, or what comes after them does. -/
theorem headlineFrom_append (nested : WellNested events) (rest : List Event) :
    headlineFrom? none (events ++ rest) = (named? [] events).or (headlineFrom? none rest) := by
  induction nested generalizing rest with
  | nil => rfl
  | @single event events single nested ih =>
    have other := Event.ofHeading_of_isSingle single
    rw [List.cons_append, headlineFrom_cons _ _ other, ih, named?, named?, headings_cons _ _ other]
  | @within inner events tag inside heading nested inside_ih ih =>
    rw [List.append_assoc]
    by_cases first : ∃ span, tag = .heading 1 span
    · obtain ⟨span, rfl⟩ := first
      rw [headlineFrom_heading (heading rfl), ih, named_heading (heading rfl)]
      split <;> rfl
    · have other : ∀ span, tag ≠ .heading 1 span := fun span same => first ⟨span, same⟩
      have stop (rest : List Event) : headlineFrom? none (.stop tag :: rest) = headlineFrom? none rest := by
        simp [headlineFrom?]
      have stop' : named? [] (.stop tag :: events) = named? [] events := rfl
      have split : named? [] (Event.within tag inner ++ events) = (named? [] inner).or (named? [] events) := by
        rw [named?, headings_within_other other, ← named?, named_append [] inside, stop']
      rw [headlineFrom_within_other other, inside_ih, stop, ih, split, Option.or_assoc]

theorem headline_eq_named (source : Text) : headline? source = named? [] (Event.ofSource source) := by
  have named := headlineFrom_append (wellNested_ofSource source) []
  rw [List.append_nil] at named
  rw [headline?, named]
  exact Option.or_none

/-! ## Line breaks in headings -/

/-- Whether a line break stands between texts. -/
def Joins (events : List Event) : Prop :=
  ∃ before event after, events = before ++ event :: after ∧ event.isBreak = true ∧
    blank (shown [] before) = false ∧ blank (shown [] after) = false

theorem Joins.cons (event : Event) (joins : Joins events) : Joins (event :: events) := by
  obtain ⟨before, mark, after, rfl, breaks, filled, filled'⟩ := joins
  exact ⟨event :: before, mark, after, rfl, breaks, by rw [shown_cons, blank_append, filled, Bool.and_false],
    filled'⟩

theorem sublist_shown (white : Text) (events : List Event) : (shown [] events).Sublist (shown white events) := by
  induction events with
  | nil => exact .slnil
  | cons event rest ih =>
    refine List.Sublist.append ?_ ih
    cases breaks : event.isBreak with
    | false => rw [shown_of_not_isBreak breaks white []]
    | true => rw [shown_of_isBreak breaks, shown_of_isBreak breaks]; exact List.nil_sublist _

/-- After a text, line breaks do not show if there is no text after them. -/
theorem trimEnd_shown (empty : blank white = true)
    (last : ∀ before event after, events = before ++ event :: after → event.isBreak = true →
      blank (shown [] after) = true) :
    trimEnd (shown white events) = trimEnd (shown [] events) := by
  induction events with
  | nil => rfl
  | cons event rest ih =>
    have later := ih fun before mark after same => last (event :: before) mark after (congrArg (event :: ·) same)
    rw [shown_cons, shown_cons]
    cases breaks : event.isBreak with
    | false => rw [shown_of_not_isBreak breaks white [], trimEnd_append_congr later]
    | true =>
      have nothing := last [] event rest rfl breaks
      rw [shown_of_isBreak breaks, shown_of_isBreak breaks, trimEnd_eq_nil.mpr, trimEnd_eq_nil.mpr]
      · rw [blank_append, nothing, blank_nil, Bool.and_self]
      · rw [blank_append, blank_shown empty, nothing, empty, Bool.and_self]

theorem trim_shown_of_not_joins (empty : blank white = true) (apart : ¬Joins events) :
    trim (shown white events) = trim (shown [] events) := by
  induction events with
  | nil => rfl
  | cons event rest ih =>
    have later := ih fun joins => apart (joins.cons event)
    rw [shown_cons, shown_cons]
    cases filled : blank (event.shown []) with
    | true =>
      have filled' : blank (event.shown white) = true := by rw [blank_shown_event empty, filled]
      rw [trim, trim, trimStart_append_blank filled, trimStart_append_blank filled', ← trim, ← trim, later]
    | false =>
      have other : event.isBreak = false := by
        by_contra breaks
        rw [Bool.not_eq_false] at breaks
        rw [shown_of_isBreak breaks, blank_nil] at filled
        cases filled
      have last : ∀ before mark after, rest = before ++ mark :: after → mark.isBreak = true →
          blank (shown [] after) = true := by
        intro before mark after same breaks
        by_contra filled'
        rw [Bool.not_eq_true] at filled'
        refine apart ⟨event :: before, mark, after, congrArg (event :: ·) same, breaks, ?_, filled'⟩
        rw [shown_cons, blank_append, filled, Bool.false_and]
      rw [shown_of_not_isBreak other white [], trim, trim, trimStart_append filled, trimStart_append filled,
        trimEnd_append_congr (trimEnd_shown empty last)]

/-- A line break between texts shows. -/
theorem length_trim_shown_lt {c : Char} (empty : blank [c] = true) (joins : Joins events) :
    (trim (shown [] events)).length < (trim (shown [c] events)).length := by
  obtain ⟨before, event, after, rfl, breaks, filled, filled'⟩ := joins
  have trimmed (white : Text) (empty : blank white = true) : trim (shown white (before ++ event :: after)) =
      trimStart (shown white before) ++ (white ++ trimEnd (shown white after)) := by
    rw [← blank_shown empty] at filled filled'
    rw [shown_append, shown_cons, shown_of_isBreak breaks, trim, trimStart_append filled, ← List.append_assoc,
      trimEnd_append filled', List.append_assoc]
  have start := (trimStart_sublist (sublist_shown [c] before)).length_le
  have stop := (trimEnd_sublist (sublist_shown [c] after)).length_le
  rw [trimmed [c] empty, trimmed [] blank_nil]
  simp only [List.length_append, List.length_cons, List.length_nil]
  omega

theorem trim_shown_eq_iff {c : Char} (empty : blank [c] = true) :
    trim (shown [] events) = trim (shown [c] events) ↔ ¬Joins events := by
  constructor
  · intro same joins
    have less := length_trim_shown_lt empty joins
    rw [same] at less
    exact lt_irrefl _ less
  · intro apart
    exact (trim_shown_of_not_joins empty apart).symm

theorem named_eq_none {events : List Event} :
    named? white events = none ↔ ∀ heading ∈ headings events, blank (shown white heading.inner) = true := by
  rw [named?, Option.map_eq_none_iff, List.find?_eq_none]
  simp

theorem named_eq_iff {c : Char} (empty : blank [c] = true) (events : List Event) :
    named? [] events = named? [c] events ↔ ∀ heading,
      (headings events).find? (fun heading => !blank (shown [c] heading.inner)) = some heading →
        ¬Joins heading.inner := by
  have first : (fun heading : Heading => !blank (shown [] heading.inner)) =
      fun heading => !blank (shown [c] heading.inner) := by
    funext heading
    rw [blank_shown empty]
  rw [named?, named?, first]
  cases (headings events).find? fun heading => !blank (shown [c] heading.inner) with
  | none => simp
  | some heading => simp [trim_shown_eq_iff empty]

/-- A document is named by its first heading of level one that shows a text, and has no name if there is none. The
name is the text that the heading shows with its line breaks as white space, just if none of them stands between
texts: these are joined. -/
theorem headline_eq_named_iff {c : Char} (white : isBlank c = true) (source : Text) :
    headline? source = named? [] (Event.ofSource source) ∧
    (headline? source = none ↔
      ∀ heading ∈ headings (Event.ofSource source), blank (shown [c] heading.inner) = true) ∧
    (headline? source = named? [c] (Event.ofSource source) ↔ ∀ heading,
      (headings (Event.ofSource source)).find? (fun heading => !blank (shown [c] heading.inner)) = some heading →
        ¬Joins heading.inner) := by
  have empty : blank [c] = true := by rw [blank_cons, white, blank_nil, Bool.and_self]
  have named := headline_eq_named source
  refine ⟨named, ?_, ?_⟩
  · rw [named, named_eq_none]
    exact forall₂_congr fun heading _ => by rw [blank_shown empty]
  · rw [named]
    exact named_eq_iff empty _

/-- An underlined heading after one without text. -/
def underlined : Text := "#\n\nAbout `it`\n===\n".toList

theorem underlined_named :
    isBlank ' ' = true ∧ headline? underlined = named? [' '] (Event.ofSource underlined) := by
  refine ⟨by decide, ((headline_eq_named_iff (by decide) underlined).2.2).mpr fun heading first joins => ?_⟩
  have whole : ∀ heading ∈ headings (Event.ofSource underlined),
      ∀ event ∈ heading.inner, event.isBreak = false := by decide +kernel
  obtain ⟨before, event, after, parts, breaks, -⟩ := joins
  have other := whole heading (List.mem_of_find?_eq_some first) event (by simp [parts])
  rw [other] at breaks
  cases breaks

/-- Texts on different lines of a heading are joined. -/
theorem not_every_headline_keeps_lines_apart :
    ¬∀ source : Text, headline? source = named? [' '] (Event.ofSource source) := by
  intro every
  have joined : headline? "Foo\nBar\n===\n".toList ≠ named? [' '] (Event.ofSource "Foo\nBar\n===\n".toList) := by
    decide +kernel
  exact joined (every _)

end DocSite.Markdown
