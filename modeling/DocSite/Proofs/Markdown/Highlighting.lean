/-
# DocSite.Proofs.Markdown.Highlighting -- what a highlighter touches

Where blocks of code are closed and hold only texts, the events of a document are segments: a block of code, or one
event outside of blocks. A highlighter replaces the blocks that name a language, each by what it makes of the texts
of that block, and leaves every other segment as it is (`highlight_segments`). The events of every document are
such segments (`exists_segments`).
-/
import DocSite.Markdown.Highlight
import DocSite.Proofs.Markdown.Events

set_option autoImplicit false

namespace DocSite.Markdown

open Text

variable {event : Event}

/-- Whether an element is a block of code. -/
def Tag.isCode : Tag → Bool
  | .code _ => true
  | _ => false

theorem Tag.isCode_of_isPlain {tag : Tag} (plain : tag.isPlain = true) : tag.isCode = false := by
  cases tag <;> first | rfl | cases plain

namespace Event

/-- Whether a block of code begins or ends with an event. -/
def ofCode : Event → Bool
  | .start tag => tag.isCode
  | .stop tag => tag.isCode
  | _ => false

theorem ofCode_of_isSingle (single : event.isSingle = true) : event.ofCode = false := by
  cases event <;> first | rfl | cases single

/-- The language of the block that begins with an event. -/
def language? : Event → Option Text
  | .start (.code (some info)) => fenceLanguage? info
  | _ => none

theorem language?_of_not_ofCode (outside : event.ofCode = false) : event.language? = none := by
  cases event with
  | start tag => cases tag with
    | code => cases outside
    | _ => rfl
  | _ => rfl

end Event

/-- Whether no fence among events names a language. -/
def Unlabelled (events : List Event) : Prop := ∀ event ∈ events, event.language? = none

instance (events : List Event) : Decidable (Unlabelled events) :=
  inferInstanceAs (Decidable (∀ event ∈ events, event.language? = none))

/-- A block of code with its texts, or one event that neither begins nor ends such a block. -/
inductive Segment where
  | block (fence : Option Text) (texts : List Text)
  | other (event : Event) (outside : event.ofCode = false)

namespace Segment

/-- The events of a segment. -/
def events : Segment → List Event
  | .block fence texts => Event.within (.code fence) (texts.map .text)
  | .other event _ => [event]

/-- The language that the fence of a block names. -/
def language? : Segment → Option Text
  | .block (some info) _ => fenceLanguage? info
  | _ => none

/-- The code of a block. -/
def code : Segment → Text
  | .block _ texts => texts.flatten
  | .other _ _ => []

/-- The events of a segment as a highlighter shows them. -/
def shown (highlighter : Highlighter) (segment : Segment) : List Event :=
  match segment.language? with
  | none => segment.events
  | some language =>
    [.html ("<pre><code class=\"language-".toList ++ language ++ ['"', '>'] ++
      highlighter segment.code language ++ "</code></pre>\n".toList)]

theorem unlabelled_events {segment : Segment} (unnamed : segment.language? = none) :
    Unlabelled segment.events := by
  intro event member
  cases segment with
  | other event outside =>
    cases List.mem_singleton.mp member
    exact Event.language?_of_not_ofCode outside
  | block fence texts =>
    rw [events, Event.within] at member
    rcases List.mem_append.mp member with before | last
    · rcases List.mem_cons.mp before with rfl | inside
      · cases fence with
        | none => rfl
        | some info => exact unnamed
      · obtain ⟨text, -, rfl⟩ := List.mem_map.mp inside
        rfl
    · cases List.mem_singleton.mp last
      rfl

end Segment

/-! ## One segment after the other -/

section Steps

variable (highlighter : Highlighter)

theorem highlightFrom_cons (unlabelled : event.language? = none) (rest : List Event) :
    highlightFrom highlighter none (event :: rest) = event :: highlightFrom highlighter none rest := by
  cases event with
  | start tag => cases tag with
    | code fence => cases fence with
      | none => rfl
      | some info =>
        rw [Event.language?] at unlabelled
        rw [highlightFrom, unlabelled]
    | _ => rfl
  | _ => rfl

/-- Events stay where no fence names a language. -/
theorem highlightFrom_unlabelled {events : List Event} (unlabelled : Unlabelled events) (rest : List Event) :
    highlightFrom highlighter none (events ++ rest) = events ++ highlightFrom highlighter none rest := by
  induction events with
  | nil => rfl
  | cons event events ih =>
    rw [List.cons_append, highlightFrom_cons highlighter (unlabelled event List.mem_cons_self),
      ih fun event member => unlabelled event (.tail _ member), List.cons_append]

/-- Within a block that names a language, the texts are collected. -/
theorem highlightFrom_texts (language code : Text) (texts : List Text) (rest : List Event) :
    highlightFrom highlighter (some (language, code)) (texts.map .text ++ rest) =
      highlightFrom highlighter (some (language, code ++ texts.flatten)) rest := by
  induction texts generalizing code with
  | nil => rw [List.map_nil, List.nil_append, List.flatten_nil, List.append_nil]
  | cons text texts ih =>
    rw [List.map_cons, List.cons_append, highlightFrom, ih, List.flatten_cons, List.append_assoc]

theorem highlightFrom_block {info language : Text} (named : fenceLanguage? info = some language)
    (texts : List Text) (rest : List Event) :
    highlightFrom highlighter none (Event.within (.code (some info)) (texts.map .text) ++ rest) =
      .html (highlighted highlighter texts.flatten language) :: highlightFrom highlighter none rest := by
  rw [Event.within, List.append_assoc, List.cons_append, highlightFrom, named]
  dsimp only
  rw [highlightFrom_texts, List.nil_append, List.singleton_append, highlightFrom]

theorem highlightFrom_segment (segment : Segment) (rest : List Event) :
    highlightFrom highlighter none (segment.events ++ rest) =
      segment.shown highlighter ++ highlightFrom highlighter none rest := by
  rw [Segment.shown]
  split
  · next unnamed => exact highlightFrom_unlabelled highlighter (Segment.unlabelled_events unnamed) rest
  · next language named =>
    match segment, named with
    | .block (some info) texts, named => exact highlightFrom_block highlighter named texts rest

/-- Every block that names a language is replaced, and nothing else. -/
theorem highlight_segments (segments : List Segment) :
    highlight highlighter (segments.flatMap Segment.events) =
      segments.flatMap (Segment.shown highlighter) := by
  rw [highlight]
  induction segments with
  | nil => rfl
  | cons segment segments ih => rw [List.flatMap_cons, highlightFrom_segment, ih, List.flatMap_cons]

theorem highlight_unlabelled {events : List Event} (unlabelled : Unlabelled events) :
    highlight highlighter events = events := by
  have same := highlightFrom_unlabelled highlighter unlabelled []
  rwa [List.append_nil, highlightFrom, List.append_nil] at same

end Steps

/-! ## The segments of a document -/

/-- Whether events are segments. -/
def Segmented (events : List Event) : Prop := ∃ segments : List Segment, events = segments.flatMap Segment.events

namespace Segmented

variable {events rest : List Event}

theorem append (first : Segmented events) (second : Segmented rest) : Segmented (events ++ rest) := by
  obtain ⟨segments, rfl⟩ := first
  obtain ⟨segments', rfl⟩ := second
  exact ⟨segments ++ segments', List.flatMap_append.symm⟩

theorem segment (segment : Segment) : Segmented segment.events :=
  ⟨[segment], (List.flatMap_singleton _ _).symm⟩

theorem other (event : Event) (outside : event.ofCode = false) : Segmented [event] :=
  segment (.other event outside)

theorem within {tag : Tag} (outside : tag.isCode = false) (inside : Segmented events) :
    Segmented (Event.within tag events) :=
  ((other (.start tag) outside).append inside).append (other (.stop tag) outside)

theorem composable : Composable Segmented where
  nil := ⟨[], rfl⟩
  append := append
  single single := other _ (Event.ofCode_of_isSingle single)
  within plain := within (Tag.isCode_of_isPlain plain)

theorem blockComposable : BlockComposable Segmented where
  toComposable := composable
  heading _ _ done inlines := within rfl (composable.withTask done inlines)
  code fence lines := by
    have block := segment (.block fence (lines.map Event.chunkText))
    rwa [Segment.events, List.map_map] at block

end Segmented

theorem exists_segments (source : Text) :
    ∃ segments : List Segment, Event.ofSource source = segments.flatMap Segment.events :=
  Segmented.blockComposable.ofSource source

/-- A highlighter touches nothing but the blocks of code whose fence names a language. Of events that are segments,
each such block is replaced by the HTML of its own texts, and everything else stays in place. Where no fence names
a language, all events stay. The events of every document are segments, and its HTML is that of the events that
are shown; it is the same without a highlighter if no fence names a language. -/
theorem highlighter_touches_labelled (highlighter : Highlighter) :
    (∀ segments : List Segment, highlight highlighter (segments.flatMap Segment.events) =
      segments.flatMap (Segment.shown highlighter)) ∧
    (∀ events, Unlabelled events → highlight highlighter events = events) ∧
    ∀ source,
      (∃ segments : List Segment, Event.ofSource source = segments.flatMap Segment.events ∧
        render (some highlighter) source = Html.ofEvents (segments.flatMap (Segment.shown highlighter))) ∧
      (Unlabelled (Event.ofSource source) → render (some highlighter) source = render none source) := by
  refine ⟨highlight_segments highlighter, fun _ => highlight_unlabelled highlighter, fun source => ⟨?_, ?_⟩⟩
  · obtain ⟨segments, same⟩ := exists_segments source
    refine ⟨segments, same, ?_⟩
    rw [render, same, highlight_segments]
  · intro unlabelled
    rw [render, highlight_unlabelled highlighter unlabelled, render]

/-- A highlighter that names the language and writes the code in capitals. -/
def loud : Highlighter := fun code language => '[' :: language ++ ']' :: code.map Char.toUpper

/-- In a quotation, a block whose fence names a language, one whose fence does not, and an indented one. -/
def quotedCode : List Segment :=
  [.other (.start .quote) rfl, .block (some "js title=\"a.js\"".toList) ["let ".toList, "a\n".toList],
    .block (some " \x7b\x7d".toList) ["plain\n".toList], .other (.stop .quote) rfl, .block none ["let a\n".toList]]

/-- Just the first of the three blocks is replaced; and a document whose fences name no language stays. -/
theorem quoted_code_is_highlighted :
    highlight loud (quotedCode.flatMap Segment.events) =
      [.start .quote,
        .html "<pre><code class=\"language-javascript\">[javascript]LET A\n</code></pre>\n".toList,
        .start (.code (some " \x7b\x7d".toList)), .text "plain\n".toList, .stop (.code (some " \x7b\x7d".toList)),
        .stop .quote, .start (.code none), .text "let a\n".toList, .stop (.code none)] ∧
      Event.ofSource "> ```\n> a\n".toList =
        [.start .quote, .start (.code (some [])), .text "a\n".toList, .stop (.code (some [])), .stop .quote] ∧
      render (some loud) "> ```\n> a\n".toList = render none "> ```\n> a\n".toList := by
  obtain ⟨shown, -, documents⟩ := highlighter_touches_labelled loud
  have events : Event.ofSource "> ```\n> a\n".toList =
      [.start .quote, .start (.code (some [])), .text "a\n".toList, .stop (.code (some [])), .stop .quote] := by
    decide +kernel
  exact ⟨(shown quotedCode).trans (by decide +kernel), events, (documents _).2 (by rw [events]; decide)⟩

end DocSite.Markdown
