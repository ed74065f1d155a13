/-
# DocSite.Proofs.Site.Unresolved -- documentation that was not found

The default layout tells documentation that was found from references that were not by their shape: it writes
a section for each mapping (`Docs.kind_value`). So a page is rendered as if references that were not found were
left out, whatever other values they have. A mapping leaves traces, and so does a tagged value, which layouts see
as a mapping, too: the text is then another one than without it, unless the page cannot be rendered at all
(`Renderer.render_apart`).
-/
import DocSite.Proofs.Page.Docs
import DocSite.Proofs.Template.Extending
import DocSite.Site.Rendering

set_option autoImplicit false

namespace DocSite

open Text
open Template (Value Seen Thinned Fits pageName docsName helpersName special)

namespace Page

/-- Whether a reference is seen as a mapping, as documentation that was found is. -/
def Docs.isMistaken : Docs → Bool
  | .unresolved (.mapping _) => true
  | .unresolved (.tagged _ _) => true
  | _ => false

/-- A page without the references that were not found. -/
def Record.withoutUnresolved (page : Record) : Record :=
  { page with docs := page.docs.filter fun entry => entry.2.isResolved }

namespace Docs

variable {docs : List (Text × Docs)} {name : Text}

theorem kind_value (entry : Docs) :
    entry.value.kind = .map ↔ entry.isResolved = true ∨ entry.isMistaken = true := by
  cases entry with
  | resolved categories => simp [value, Value.ofNames, Value.kind, isResolved]
  | unresolved reference =>
    cases reference <;> simp [value, Value.ofYaml, Value.kind, isResolved, isMistaken, Value.plain]

theorem not_mistaken_of_resolved {entry : Docs} (resolved : entry.isResolved = true) :
    entry.isMistaken = false := by
  cases entry with
  | resolved categories => rfl
  | unresolved reference => cases resolved

/-- What is left out of the documentation of a page as layouts see it. -/
theorem thinned_resolved (docs : List (Text × Docs)) :
    Thinned (docs.countP fun entry => entry.2.isMistaken) (docs.map seen)
      ((docs.filter fun entry => entry.2.isResolved).map seen) := by
  induction docs with
  | nil => exact .nil
  | cons entry rest ih =>
    rw [List.map_cons, List.filter_cons, List.countP_cons]
    by_cases resolved : entry.2.isResolved = true
    · rw [if_pos resolved, if_neg (by simp [not_mistaken_of_resolved resolved])]
      exact .keep _ ih
    · rw [if_neg resolved]
      by_cases mistaken : entry.2.isMistaken = true
      · rw [if_pos mistaken]
        exact .leak ((kind_value _).mpr (.inr mistaken)) ih
      · rw [if_neg mistaken]
        exact .drop (fun map => ((kind_value _).mp map).elim resolved mistaken) ih

end Docs

/-! ## What layouts see of a page -/

namespace Record

variable {page : Record} {name : Text}

theorem part_docs (page : Record) :
    page.value.part? (.plain docsName) = some (.map ((Docs.inOrder page.docs).map Docs.seen)) := by
  have order : Value.ofNames (page.docs.map fun entry => (entry.1, entry.2.value)) =
      .map ((Docs.inOrder page.docs).map Docs.seen) := by
    rw [← Docs.entriesOf_docs, Value.ofNames, List.map_map]
    rfl
  rw [← order]
  exact Value.part_ofNames ..

theorem part_other (page : Record) (docs : List (Text × Docs)) (other : name ≠ docsName) :
    ({ page with docs := docs }.value).part? (.plain name) = page.value.part? (.plain name) := by
  refine (Value.part_ofNames ..).trans (Eq.trans ?_ (Value.part_ofNames ..).symm)
  have miss : (name == ['d', 'o', 'c', 's']) = false := beq_false_of_ne other
  simp [List.lookup_cons, miss]

/-- A page as layouts see it, with the text of its helpers. -/
def seenWith (page : Record) (helpers : Text) : Seen where
  page := (page.value.entries?).getD []
  docs := (Docs.inOrder page.docs).map Docs.seen
  helpers := helpers
  hasDocs := part_docs page

theorem agree_withoutUnresolved (page : Record) (helpers helpers' : Text) :
    (page.seenWith helpers).Agree (page.withoutUnresolved.seenWith helpers') :=
  fun _ other => (part_other page _ other).symm

/-- A page without the references that were not found lacks what is no mapping, and what is mistaken. -/
theorem thinned_withoutUnresolved (distinct : (page.docs.map Prod.fst).Nodup) (helpers helpers' : Text) :
    Thinned (page.docs.countP fun entry => entry.2.isMistaken) (page.seenWith helpers).docs
      (page.withoutUnresolved.seenWith helpers').docs := by
  have thinned := Docs.thinned_resolved (Docs.inOrder page.docs)
  rw [(Docs.inOrder_perm distinct).countP_eq, ← Docs.inOrder_filter _ distinct] at thinned
  exact thinned

end Record

end Page

namespace Site

open Page (Record Docs)

variable {renderer : Renderer} {page : Record} {layouts : Layouts} {files : FileTree} {kept : Kept}

/-! ## Helpers -/

namespace Renderer

theorem find_resolved {docs : List (Text × Docs)} (distinct : (docs.map Prod.fst).Nodup) :
    find (docs.filter fun entry => entry.2.isResolved) = find docs := by
  funext adapter predicate
  rw [find, find, Association.lookup_filter_value Docs.isResolved distinct]
  cases found : docs.lookup adapter with
  | none => rfl
  | some entry => cases entry <;> rfl

/-- References that were not found make no difference to the helpers. -/
theorem helpers_withoutUnresolved (renderer : Renderer) (distinct : (page.docs.map Prod.fst).Nodup) :
    renderer.helpers page.withoutUnresolved.docs = renderer.helpers page.docs := by
  have called : renderer.callHelper page.withoutUnresolved.docs = renderer.callHelper page.docs := by
    funext name given
    unfold callHelper
    rw [Record.withoutUnresolved, find_resolved distinct]
  rw [helpers, helpers, called]

theorem shown_contextOf (renderer : Renderer) (page : Record) (site : Value) :
    (page.seenWith (renderer.helpersText page.docs)).Shown (renderer.contextOf page site).value where
  page := Value.part_ofNames ..
  helpers := Value.part_ofNames ..

/-- Apart from the page and its helpers, layouts see the same. -/
theorem part_contextOf (renderer : Renderer) (page page' : Record) (site : Value) {name : Text}
    (plain : name ∉ special) :
    (renderer.contextOf page site).value.part? (.plain name) =
      (renderer.contextOf page' site).value.part? (.plain name) := by
  obtain ⟨page_, helpers_, -⟩ := Template.special_ne plain
  refine (Value.part_ofNames ..).trans (Eq.trans ?_ (Value.part_ofNames ..).symm)
  have miss : (name == ['p', 'a', 'g', 'e']) = false := beq_false_of_ne page_
  have miss' : (name == ['h', 'e', 'l', 'p', 'e', 'r', 's']) = false := beq_false_of_ne helpers_
  simp [List.lookup_cons, miss, miss']

end Renderer

/-! ## Built-in layouts -/

/-- Whether the built-in layouts are among those of a site under their names. -/
def Layouts.HasBuiltin (layouts : Layouts) : Prop :=
  ∀ entry ∈ builtinLayouts, ∀ layout, Template.read? entry.2 = some layout →
    layouts.given.lookup entry.1 = some layout

/-- Layouts that can be read are found under their names, if these differ. -/
theorem lookup_read {sources : List (Text × Text)} (distinct : (sources.map Prod.fst).Nodup)
    {entry : Text × Text} (listed : entry ∈ sources) {layout : Template.Document}
    (read : Template.read? entry.2 = some layout) :
    (sources.filterMap fun entry => (Template.read? entry.2).map (entry.1, ·)).lookup entry.1 =
      some layout := by
  induction sources with
  | nil => cases listed
  | cons first rest ih =>
    rw [List.map_cons, List.nodup_cons] at distinct
    rcases List.mem_cons.mp listed with rfl | later
    · rw [List.filterMap_cons_some (by rw [read]; rfl), List.lookup_cons_self]
    · have other : (entry.1 == first.1) = false :=
        beq_false_of_ne fun same => distinct.1 (same ▸ List.mem_map_of_mem later)
      cases read' : Template.read? first.2 with
      | none => rw [List.filterMap_cons_none (by rw [read']; rfl), ih distinct.2 later]
      | some layout' =>
        rw [List.filterMap_cons_some (by rw [read']; rfl), List.lookup_cons, other]
        exact ih distinct.2 later

theorem Layouts.given_builtin :
    builtin.given = builtinLayouts.filterMap fun entry => (Template.read? entry.2).map (entry.1, ·) := by
  unfold builtin builtinExcept
  simp only [Bool.false_eq_true, if_false]

theorem Layouts.hasBuiltin_builtin : builtin.HasBuiltin := by
  have distinct : (builtinLayouts.map Prod.fst).Nodup :=
    (by decide : ["base.html".toList, "nav.html".toList, "default.html".toList].Nodup)
  intro entry listed layout read
  rw [given_builtin]
  exact lookup_read distinct listed read

theorem exists_layout {source : Text} {check : Template.Document → Bool}
    (checked : (Template.read? source).any check = true) :
    ∃ layout, Template.read? source = some layout ∧ check layout = true := by
  simpa [Option.any_eq_true] using checked

-- A string is known to be made of its characters before it is read: to find them by evaluation takes long.
theorem fills_defaultLayout :
    (Template.read? defaultLayout).any (Template.Document.fills "base.html".toList "content".toList) = true := by
  rw [defaultLayout, linesText]
  simp only [List.map_cons, List.map_nil]
  repeat rw [String.toList_ofList]
  decide +kernel

theorem surrounds_baseLayout :
    (Template.read? baseLayout).any (Template.Document.surrounds "nav.html".toList "content".toList) = true := by
  rw [baseLayout, linesText]
  simp only [List.map_cons, List.map_nil]
  repeat rw [String.toList_ofList]
  decide +kernel

theorem plain_navLayout :
    (Template.read? navLayout).any (fun layout => Template.nodesArePlain layout.nodes) = true := by
  rw [navLayout, linesText]
  simp only [List.map_cons, List.map_nil]
  repeat rw [String.toList_ofList]
  decide +kernel

/-- The default layout extends that of the frame of a page, and this one includes the navigation. -/
theorem Layouts.HasBuiltin.exists_fits (builtin : layouts.HasBuiltin) (files : FileTree) (kept : Kept) :
    ∃ layout, layouts.given.lookup "default.html".toList = some layout ∧ ∀ helpers,
      Fits ⟨layouts.find files kept, helpers⟩ "base.html".toList "nav.html".toList "content".toList layout := by
  obtain ⟨layout, read, fills⟩ := exists_layout fills_defaultLayout
  obtain ⟨base, read', surrounds⟩ := exists_layout surrounds_baseLayout
  obtain ⟨nav, read'', plain⟩ := exists_layout plain_navLayout
  have default_ : layouts.given.lookup "default.html".toList = some layout :=
    builtin (_, defaultLayout) (.tail _ (.tail _ (.head _))) layout read
  have base_ : layouts.given.lookup "base.html".toList = some base :=
    builtin (_, baseLayout) (.head _) base read'
  have nav_ : layouts.given.lookup "nav.html".toList = some nav :=
    builtin (_, navLayout) (.tail _ (.head _)) nav read''
  refine ⟨layout, default_, fun helpers => ⟨fills, ⟨base, ?_, surrounds⟩, ⟨nav, ?_, plain⟩⟩⟩
  · show layouts.find files kept _ = _
    rw [Layouts.find, base_]
  · show layouts.find files kept _ = _
    rw [Layouts.find, nav_]

/-! ## Rendering -/

/-- Whether a renderer renders a page in the built-in default layout. -/
structure Renderer.UsesDefault (renderer : Renderer) (layouts : Layouts) (page : Record) : Prop where
  engine : renderer.engine = layouts.engine
  builtin : layouts.HasBuiltin
  layout : layoutName (page.layout.getD renderer.defaultLayout) = "default.html".toList

namespace Renderer

/-- What becomes of the text of a layout, if there is one. -/
def finished (renderer : Renderer) (page : Record) (text : Option Text) : Except RenderError Text :=
  text.elim (.error (.template page.outputPath none)) fun text =>
    if renderer.keepFrontMatter then
      page.frontMatter.toBlock?.elim (.error .unwritableFrontMatter) fun block => .ok (block ++ '\n' :: text)
    else .ok text

/-- Different texts become different pages, unless no text becomes a page. -/
theorem eq_of_finished {text text' : Option Text}
    (same : (renderer.finished page text).toOption = (renderer.finished page text').toOption)
    (there : (renderer.finished page text').toOption ≠ none) : text = text' := by
  cases text' with
  | none => exact absurd rfl there
  | some text' =>
    cases text with
    | none => exact absurd same.symm there
    | some text =>
      unfold finished at same there
      cases keeping : renderer.keepFrontMatter with
      | false => simpa [keeping, Except.toOption] using same
      | true => cases block : page.frontMatter.toBlock? <;> simp_all [Except.toOption]

/-- Where a text becomes no page, none becomes one where there is no text without it. -/
theorem finished_none_of {text text' : Option Text} (without : text' = none → text = none)
    (missing : (renderer.finished page text').toOption = none) :
    (renderer.finished page text).toOption = none := by
  cases text with
  | none => rfl
  | some text =>
    cases text' with
    | none => cases without rfl
    | some text' =>
      unfold finished at missing ⊢
      cases keeping : renderer.keepFrontMatter with
      | false => simp [keeping, Except.toOption] at missing
      | true => cases block : page.frontMatter.toBlock? <;> simp_all [Except.toOption]

theorem finished_apart {n : Nat} {text text' : Option Text} (apart : Template.Apart n text text') :
    Template.Apart n (renderer.finished page text).toOption (renderer.finished page text').toOption where
  same none := by rw [apart.same none]
  missing := renderer.finished_none_of apart.missing
  different some same := by
    by_contra there
    obtain rfl := renderer.eq_of_finished same there
    rw [apart.different some rfl] at there
    exact there rfl

theorem renderWith_finished (uses : renderer.UsesDefault layouts page) {layout : Template.Document}
    (given : layouts.given.lookup "default.html".toList = some layout) (files : FileTree) (kept : Kept)
    (site : Value) :
    (renderer.renderWith files kept page site).text = renderer.finished page
      (Template.render ⟨layouts.find files (layouts.keep files ["default.html".toList] kept),
        renderer.helpers page.docs⟩ "default.html".toList layout
        (renderer.contextOf page site).value).text.toOption := by
  obtain ⟨engine, -, named⟩ := uses
  have found : layouts.find files (layouts.keep files ["default.html".toList] kept) "default.html".toList =
      .template layout := by rw [Layouts.find, given]
  rw [renderWith, engine, Layouts.engine]
  dsimp only
  rw [Layouts.render, named, found]
  dsimp only [Layouts.renderTemplate, contextOf]
  generalize (Template.render _ _ _ _).text = outcome
  cases outcome with
  | error e => rfl
  | ok text =>
    unfold finished
    cases page.frontMatter.toBlock? <;> rfl

end Renderer

/-- A page in the default layout and the page without the references that were not found. -/
theorem Renderer.render_apart (uses : renderer.UsesDefault layouts page)
    (distinct : (page.docs.map Prod.fst).Nodup) (files : FileTree) (kept : Kept) (tree : Tree) :
    Template.Apart (page.docs.countP fun entry => entry.2.isMistaken)
      (renderer.render files kept page tree).text.toOption
      (renderer.render files kept page.withoutUnresolved tree).text.toOption := by
  have uses' : renderer.UsesDefault layouts page.withoutUnresolved := ⟨uses.engine, uses.builtin, uses.layout⟩
  obtain ⟨layout, given, fits⟩ :=
    uses.builtin.exists_fits files (layouts.keep files ["default.html".toList] kept)
  have other : "base.html".toList ≠ "default.html".toList := by decide
  have apart := Template.render_apart (fits (renderer.helpers page.docs)) other
    (renderer.shown_contextOf page (renderer.siteValue tree))
    (renderer.shown_contextOf page.withoutUnresolved (renderer.siteValue tree))
    (page.agree_withoutUnresolved _ _) (fun _ => renderer.part_contextOf _ _ _)
    (page.thinned_withoutUnresolved distinct _ _)
  have same : renderer.finished page.withoutUnresolved = renderer.finished page := rfl
  rw [Renderer.render, Renderer.render, renderWith_finished uses given, renderWith_finished uses' given,
    renderer.helpers_withoutUnresolved distinct, same]
  exact renderer.finished_apart apart

/-- Rendering a page in the default layout gives the same text as rendering it without the references that were not
found, just if none of them is seen as a mapping, or the page without them cannot be rendered. -/
theorem renders_without_unresolved (uses : renderer.UsesDefault layouts page)
    (distinct : (page.docs.map Prod.fst).Nodup) (files : FileTree) (kept : Kept) (tree : Tree) :
    (renderer.render files kept page tree).text.toOption =
        (renderer.render files kept page.withoutUnresolved tree).text.toOption ↔
      (∀ entry ∈ page.docs, entry.2.isMistaken = false) ∨
        (renderer.render files kept page.withoutUnresolved tree).text.toOption = none := by
  have apart := Renderer.render_apart uses distinct files kept tree
  have counted : (page.docs.countP fun entry => entry.2.isMistaken) = 0 ↔
      ∀ entry ∈ page.docs, entry.2.isMistaken = false := by simp [List.countP_eq_zero]
  rw [← counted]
  constructor
  · intro same
    rcases Nat.eq_zero_or_pos (page.docs.countP fun entry => entry.2.isMistaken) with none | some
    · exact .inl none
    · exact .inr (apart.different some same)
  · rintro (none | missing)
    · exact apart.same none
    · rw [missing, apart.missing missing]

/-- A renderer with some layouts and nothing else. -/
def rendererOf (layouts : Layouts) : Renderer := ⟨layouts.engine, .standard, [], "default".toList, false, []⟩

/-- A renderer with the built-in layouts alone. -/
def plainRenderer : Renderer := rendererOf Layouts.builtin

/-- A page of which only the documentation matters. -/
def pageWith (docs : List (Text × Docs)) : Record :=
  ⟨⟨"a.md".toList⟩, "a.html".toList, ⟨[]⟩, [], "A".toList, none, none, docs, none⟩

theorem usesDefault_pageWith (docs : List (Text × Docs)) :
    plainRenderer.UsesDefault Layouts.builtin (pageWith docs) :=
  ⟨rfl, Layouts.hasBuiltin_builtin, (by decide : layoutName "default".toList = "default.html".toList)⟩

/-- References that were not found, none of which is seen as a mapping. -/
def harmless : List (Text × Docs) :=
  [("python".toList, .unresolved (.string "src".toList)),
    ("sass".toList, .resolved [("mixin".toList, [])]),
    ("rust".toList, .unresolved (.sequence [.mapping []]))]

theorem harmless_left_out :
    (plainRenderer.render (.empty []) [] (pageWith harmless) Tree.empty).text.toOption =
      (plainRenderer.render (.empty []) [] (pageWith harmless).withoutUnresolved Tree.empty).text.toOption :=
  (renders_without_unresolved (usesDefault_pageWith harmless) (by decide) (.empty []) [] Tree.empty).mpr
    (.inl (by decide))

/-- Layouts under the names of the built-in ones. -/
def named (base nav layout : Template.Document) : Layouts :=
  ⟨[("base.html".toList, base), ("nav.html".toList, nav), ("default.html".toList, layout)], none⟩

theorem builtin_eq_named {base nav layout : Template.Document} (read : Template.read? baseLayout = some base)
    (read' : Template.read? navLayout = some nav) (read'' : Template.read? defaultLayout = some layout) :
    Layouts.builtin = named base nav layout := by
  have given : Layouts.builtin.given = (named base nav layout).given := by
    rw [Layouts.given_builtin, builtinLayouts, List.filterMap_cons_some (by rw [read]; rfl),
      List.filterMap_cons_some (by rw [read']; rfl), List.filterMap_cons_some (by rw [read'']; rfl)]
    rfl
  have whole {layouts layouts' : Layouts} (given : layouts.given = layouts'.given)
      (directory : layouts.directory = layouts'.directory) : layouts = layouts' := by
    cases layouts
    cases given
    cases directory
    rfl
  exact whole given rfl

theorem rendered_bare :
    (Template.read? baseLayout).any (fun base => (Template.read? navLayout).any fun nav =>
      (Template.read? defaultLayout).any fun layout =>
        ((rendererOf (named base nav layout)).render (.empty []) [] (pageWith []) .empty).text.toOption.isSome) =
      true := by
  rw [baseLayout, navLayout, defaultLayout, linesText, linesText, linesText]
  simp only [List.map_cons, List.map_nil]
  repeat rw [String.toList_ofList]
  decide +kernel

theorem rendered_pageWith_nil :
    (plainRenderer.render (.empty []) [] (pageWith []) Tree.empty).text.toOption ≠ none := by
  obtain ⟨base, read, rest⟩ := exists_layout rendered_bare
  obtain ⟨nav, read', rest⟩ := exists_layout rest
  obtain ⟨layout, read'', rendered⟩ := exists_layout rest
  rw [plainRenderer, builtin_eq_named read read' read'']
  exact Option.isSome_iff_ne_none.mp rendered

/-- A reference that is a mapping is written as documentation. -/
theorem not_every_reference_left_out :
    ¬ ∀ (renderer : Renderer) (layouts : Layouts) (page : Record), renderer.UsesDefault layouts page →
      (page.docs.map Prod.fst).Nodup → ∀ (files : FileTree) (kept : Kept) (tree : Tree),
      (renderer.render files kept page tree).text.toOption =
        (renderer.render files kept page.withoutUnresolved tree).text.toOption := by
  intro every
  let mistaken : List (Text × Docs) :=
    [("python".toList, .unresolved (.mapping [(.string "path".toList, .string "src".toList)]))]
  have uses := usesDefault_pageWith mistaken
  have distinct : (mistaken.map Prod.fst).Nodup := by decide
  have apart := Renderer.render_apart uses distinct (.empty []) [] Tree.empty
  exact rendered_pageWith_nil (apart.different (by decide) (every _ _ _ uses distinct (.empty []) [] Tree.empty))

end Site

end DocSite
