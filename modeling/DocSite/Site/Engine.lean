/-
# DocSite.Site.Engine -- what turns templates and Markdown into output

A site works with any engine for templates and any renderer for Markdown. Those of the library
render layouts and Markdown as the modules below `Template` and `Markdown` do.
-/
import DocSite.Markdown.Highlight
import DocSite.Site.Layouts

set_option autoImplicit false

namespace DocSite.Site

open Text
open Template (Document)

/-- What a template is rendered with. -/
structure Context where
  value : Template.Value
  helpers : Template.Helpers

/-- The context that says nothing. -/
def Context.empty : Context := ⟨.map [], .empty⟩

/-- Why an engine renders nothing; `reason` is there if it does not depend on the engine of the
library. -/
inductive EngineError where
  | missing (layout : Text)
  | failed (reason : Option Text)
deriving DecidableEq, Repr

/-- The text of an error, as far as it does not depend on the engine. -/
def EngineError.message? : EngineError → Option Text
  | missing layout => some ("Template not found: ".toList ++ layout)
  | failed reason => reason

/-- What an engine renders, and the layouts that are kept from now on. -/
structure Outcome where
  text : Except EngineError Text
  kept : Kept

/-- An engine for templates: it renders layouts by name, and templates given as text. -/
structure Engine where
  render : FileTree → Kept → (layout : Text) → Context → Outcome
  renderText : FileTree → Kept → (source : Text) → Context → Outcome

/-- A renderer for Markdown. It may fail with a reason. -/
structure MarkdownRenderer where
  render : Text → Except Text Text

/-- The Markdown renderer of the library. -/
def MarkdownRenderer.standard : MarkdownRenderer := ⟨fun source => .ok (Markdown.render none source)⟩

namespace Layouts

/-- Renders a template of a name. -/
def renderTemplate (tree : FileTree) (layouts : Layouts) (kept : Kept) (name : Text)
    (template : Document) (context : Context) : Outcome :=
  let rendered := Template.render ⟨layouts.find tree kept, context.helpers⟩ name template context.value
  { text := match rendered.text with
      | .ok text => .ok text
      | .error _ => .error (.failed none)
    kept := layouts.keep tree rendered.asked kept }

/-- Renders the layout of a name. -/
def render (tree : FileTree) (layouts : Layouts) (kept : Kept) (layout : Text) (context : Context) :
    Outcome :=
  let name := layoutName layout
  let kept := layouts.keep tree [name] kept
  match layouts.find tree kept name with
  | .template template => layouts.renderTemplate tree kept name template context
  | .malformed => ⟨.error (.failed none), kept⟩
  | .missing => ⟨.error (.missing layout), kept⟩

/-- The name of templates that are given as text. -/
def textName : Text := "<string>".toList

/-- Renders a template given as text. -/
def renderText (tree : FileTree) (layouts : Layouts) (kept : Kept) (source : Text)
    (context : Context) : Outcome :=
  match Template.read? source with
  | some template => layouts.renderTemplate tree kept textName template context
  | none => ⟨.error (.failed none), kept⟩

/-- The engine that renders layouts. -/
def engine (layouts : Layouts) : Engine where
  render := fun tree kept layout context => layouts.render tree kept layout context
  renderText := fun tree kept source context => layouts.renderText tree kept source context

end Layouts

end DocSite.Site
