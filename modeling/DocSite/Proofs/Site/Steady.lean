/-
# DocSite.Proofs.Site.Steady -- engines that render the same again and again

An engine is `Steady` if what it renders does not depend on what it has rendered before. An engine that
keeps layouts is, since it finds them all the same (`Layouts.engine_steady`). With a steady engine sources
that are read one after the other are read as each alone (`Engine.Steady.readAll`), and so are pages that
are rendered (`Engine.Steady.renderAll`).
-/
import DocSite.Proofs.Site.Kept

set_option autoImplicit false

namespace DocSite.Site

open Text
open Page (Record)

variable {site : Site} {files : FileTree} {kept other : Kept}

/-! ## Engines -/

/-- Whether an engine renders templates and layouts with some layouts kept as with others. -/
structure Engine.RendersAlike (engine : Engine) (files : FileTree) (kept other : Kept) : Prop where
  template : ∀ source context, (engine.renderText files other source context).text =
    (engine.renderText files kept source context).text
  layout : ∀ layout context, (engine.render files other layout context).text =
    (engine.render files kept layout context).text

/-- Whether what an engine renders does not depend on what it has rendered before. -/
structure Engine.Steady (engine : Engine) (files : FileTree) : Prop where
  template : ∀ kept source context,
    engine.RendersAlike files kept (engine.renderText files kept source context).kept
  layout : ∀ kept layout context,
    engine.RendersAlike files kept (engine.render files kept layout context).kept

theorem Engine.RendersAlike.refl (engine : Engine) (files : FileTree) (kept : Kept) :
    engine.RendersAlike files kept kept := ⟨fun _ _ => rfl, fun _ _ => rfl⟩

theorem Engine.RendersAlike.trans {engine : Engine} {kept other third : Kept}
    (first : engine.RendersAlike files kept other) (second : engine.RendersAlike files other third) :
    engine.RendersAlike files kept third where
  template source context := (second.template source context).trans (first.template source context)
  layout layout context := (second.layout layout context).trans (first.layout layout context)

/-- Layouts that are kept make no difference. -/
theorem Layouts.engine_steady (layouts : Layouts) (files : FileTree) :
    layouts.engine.Steady files := by
  have alike : ∀ {kept other : Kept}, layouts.find files other = layouts.find files kept →
      layouts.engine.RendersAlike files kept other :=
    fun same => ⟨renderText_text same, render_text same⟩
  exact {
    template := fun kept source context => alike (layouts.find_renderText files kept source context)
    layout := fun kept layout context => alike (layouts.find_render files kept layout context) }

section Steady

variable {reader : PageReader} (steady : reader.engine.Steady files)
include steady

theorem Engine.Steady.read (kept : Kept) (path : Path) :
    reader.engine.RendersAlike files kept (reader.read files kept path).kept := by
  rcases kept_read reader files kept path with same | ⟨source, same⟩
  · rw [same]
    exact .refl ..
  · rw [same]
    exact steady.template kept source .empty

/-- Sources that are read one after the other are read as each alone. -/
theorem Engine.Steady.readAll (kept : Kept) (paths : List Path) :
    (readAll files reader kept paths).1 = paths.map fun path => (reader.read files kept path).page := by
  induction paths generalizing kept with
  | nil => rfl
  | cons path rest ih =>
    have alone : ∀ other, (reader.read files (reader.read files kept path).kept other).page =
        (reader.read files kept other).page :=
      fun other => page_of_texts (steady.read kept path).template (fun _ _ _ _ => rfl) rfl
    simp only [Site.readAll, List.map_cons, ih, alone]

end Steady

section Rendering

variable {renderer : Renderer}

theorem renderWith_of_alike (alike : renderer.engine.RendersAlike files kept other) (page : Record)
    (value : Template.Value) :
    (renderer.renderWith files other page value).text =
      (renderer.renderWith files kept page value).text := by
  unfold Renderer.renderWith
  dsimp only
  rw [alike.layout]

/-- Pages that are rendered one after the other are rendered as each alone. -/
theorem Engine.Steady.renderEach (steady : renderer.engine.Steady files) (value : Template.Value)
    (kept : Kept) (pages : List Record) :
    (renderEach files renderer value kept pages).1 =
      pages.map fun page => (page.outputPath, (renderer.renderWith files kept page value).text) := by
  induction pages generalizing kept with
  | nil => rfl
  | cons page rest ih =>
    have alike : renderer.engine.RendersAlike files kept
        (renderer.renderWith files kept page value).kept := steady.layout kept _ _
    simp only [Site.renderEach, List.map_cons, ih, renderWith_of_alike alike]

theorem Engine.Steady.renderAll (steady : site.engine.Steady files) (indexed : site.pages.Indexed) :
    (site.renderAll files).2 = site.pages.list.map fun page =>
      (page.outputPath, (site.renderPage files page.outputPath).2) := by
  have steady' : site.renderer.engine.Steady files := steady
  refine (steady'.renderEach _ _ _).trans (List.map_congr_left fun page listed => ?_)
  have member : page ∈ site.pages.records := (sortBy_perm _).mem_iff.mp listed
  have found := indexed.get_eq_some.mpr ⟨member, rfl⟩
  simp only [Site.renderPage, found]
  rfl

end Rendering

end DocSite.Site
