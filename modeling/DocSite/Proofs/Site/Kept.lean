/-
# DocSite.Proofs.Site.Kept -- layouts that are kept make no difference

A site keeps the layouts that it has read, and finds all layouts as before (`find_keep`). What is
rendered, and what is read of a source, depends on the layouts that are found, what the adapters find,
and the source itself, and not on the rest of the files (`render_text`, `read_page`). So what comes of
one page does not depend on the pages before it (`renderEach_eq`, `readAll_eq`). What is kept is
`Faithful` if every layout is found as if none was kept. Which layouts there are depends on what is below
their directory (`findIn_congr`).
-/
import DocSite.Proofs.Mapping
import DocSite.Proofs.Site.Reachable

set_option autoImplicit false

namespace DocSite.Site

open Text
open Page (Record)
open DocSite.Path (IsName)
open Template (Document)

variable {layouts : Layouts} {t s : FileTree} {kept other : Kept}

namespace Layouts

/-! ## Finding layouts -/

/-- Whether every layout is found as if none was kept. -/
def Faithful (layouts : Layouts) (t : FileTree) (kept : Kept) : Prop :=
  layouts.find t kept = layouts.find t []

theorem faithful_nil (layouts : Layouts) (t : FileTree) : layouts.Faithful t [] := rfl

theorem find_of_given {name : Text} {template : Document}
    (given : layouts.given.lookup name = some template) :
    layouts.find t kept name = .template template := by
  simp only [find, given]

theorem find_of_kept {name : Text} {template : Document}
    (free : layouts.given.lookup name = none) (found : kept.lookup name = some template) :
    layouts.find t kept name = .template template := by
  simp only [find, free, found]

theorem find_of_not_kept {name : Text} (missing : kept.lookup name = none) :
    layouts.find t kept name = layouts.find t [] name := by
  simp only [find, missing, List.lookup_nil]

/-- What is kept stays faithful as long as the layouts stay. -/
theorem Faithful.transfer (faithful : layouts.Faithful t kept)
    (same : layouts.find s [] = layouts.find t []) : layouts.Faithful s kept := by
  funext name
  cases given : layouts.given.lookup name with
  | some template => rw [find_of_given given, find_of_given given]
  | none =>
    cases found : kept.lookup name with
    | some template =>
      rw [same, ← faithful, find_of_kept given found, find_of_kept given found]
    | none => exact find_of_not_kept found

/-- A layout that is found can be kept. -/
theorem find_cons {name : Text} {template : Document}
    (found : layouts.find t kept name = .template template) :
    layouts.find t ((name, template) :: kept) = layouts.find t kept := by
  funext name'
  by_cases here : name' = name
  · subst here
    cases given : layouts.given.lookup name' with
    | some template' => rw [find_of_given given, find_of_given given]
    | none => rw [found, find_of_kept given List.lookup_cons_self]
  · simp only [find, Association.lookup_cons_of_ne _ _ here]

/-- Keeping layouts makes no difference to those that are found. -/
theorem find_keep (layouts : Layouts) (t : FileTree) (names : List Text) (kept : Kept) :
    layouts.find t (layouts.keep t names kept) = layouts.find t kept := by
  unfold Layouts.keep
  split
  · rfl
  next directory place =>
    induction names generalizing kept with
    | nil => rfl
    | cons name names ih =>
      rw [List.foldl_cons, ih]
      split
      · rfl
      next new =>
        rw [Bool.or_eq_true, not_or] at new
        split
        next template found =>
          have free := Option.not_isSome_iff_eq_none.mp new.1
          have unkept := Option.not_isSome_iff_eq_none.mp new.2
          exact find_cons (by simp [find, free, unkept, place, found])
        · rfl

/-! ## A directory of layouts that stays as it is -/

/-- The path of a layout leads by names alone from the directory. -/
theorem pathIn_parts {directory path : Path} {name : Text} (filled : directory.text ≠ [])
    (found : pathIn? directory name = some path) :
    ∃ names : List Text, path.parts = directory.parts ++ names.map .name := by
  unfold pathIn? at found
  have plain : ∀ piece ∈ splitOn '/' name, '/' ∉ piece := fun _ => not_mem_of_mem_splitOn
  generalize splitOn '/' name = pieces at found plain
  induction pieces generalizing directory with
  | nil => exact ⟨[], by simpa using (congrArg Path.parts (Option.some.inj found)).symm⟩
  | cons piece pieces ih =>
    rw [List.foldlM_cons, Option.bind_eq_bind, Option.bind_eq_some_iff] at found
    obtain ⟨next, step, later⟩ := found
    split at step
    · cases step
    next shown =>
      cases step
      obtain ⟨names, below⟩ := ih (Path.join_ne_nil filled) later
        fun other member => plain other (List.mem_cons_of_mem _ member)
      have inside := plain piece (List.mem_cons_self ..)
      have relative : piece.head? ≠ some '/' := fun start => inside (List.mem_of_mem_head? start)
      have own : [piece].filterMap Path.partOf? = (if piece = [] then [] else [piece]).map .name := by
        have notDot : piece ≠ ['.'] ∧ piece ≠ ['.', '.'] := by
          constructor <;> rintro rfl <;> simp at shown
        by_cases empty : piece = []
        · simp [empty, Path.partOf?]
        · simp [empty, Path.partOf?, notDot]
      rw [Path.parts_join filled relative, splitOn_of_not_mem inside, own, List.append_assoc,
        ← List.map_append] at below
      exact ⟨_, below⟩

section Staying

variable {directory : Path} {place : List Text} (filled : directory.text ≠ [])
  (located : t.locate? directory = some place) (located' : s.locate? directory = some place)
  (same : ∀ names, s.lookup (place ++ names) = t.lookup (place ++ names))
include filled located located' same

/-- What a directory holds under the name of a layout depends on what is below it alone. -/
theorem findIn_congr (there : t.lookup place = some .directory) :
    findIn s directory = findIn t directory := by
  funext name
  unfold findIn
  cases found : pathIn? directory name with
  | none => rfl
  | some path =>
    obtain ⟨names, below⟩ := pathIn_parts filled found
    have entry := FileTree.entryAt_congr located located' same below
    have blocked := FileTree.isBlocked_congr located located' same below there
    have text : s.readText? path = t.readText? path := by
      rw [FileTree.readText?, entry, FileTree.readText?]
    have taken : s.exists? path = t.exists? path := by
      rw [FileTree.exists?, entry]
      rfl
    simp only [blocked, taken, text]

/-- The layouts of a directory are the same as long as what is below it is the same. -/
theorem ofDirectory_congr : ofDirectory s directory = ofDirectory t directory := by
  have files : ∀ name ∈ builtinLayouts.map Prod.fst,
      s.isFile (directory.join ⟨name⟩) = t.isFile (directory.join ⟨name⟩) := by
    intro name member
    have named : IsName name := by
      have all : ∀ name ∈ builtinLayouts.map Prod.fst, IsName name := by decide
      exact all name member
    have below := Path.parts_join_names filled (List.cons_ne_nil name []) (by simpa using named)
    have entry := FileTree.entryAt_congr located located' same below
    have single : join ['/'] [name] = name := by simp [join]
    rw [single] at entry
    rw [FileTree.isFile, entry, FileTree.isFile]
  unfold ofDirectory builtinExcept
  congr 1
  refine List.filterMap_congr fun layout member => ?_
  simp only [files layout.1 (List.mem_map_of_mem member)]

end Staying

/-! ## Rendering -/

section Rendering

variable (same : layouts.find s other = layouts.find t kept)
include same

theorem renderTemplate_text (name : Text) (template : Document) (context : Context) :
    (layouts.renderTemplate s other name template context).text =
      (layouts.renderTemplate t kept name template context).text := by
  unfold renderTemplate
  dsimp only
  rw [same]

/-- What is rendered depends on the layouts that are found alone. -/
theorem render_text (layout : Text) (context : Context) :
    (layouts.render s other layout context).text = (layouts.render t kept layout context).text := by
  have found : layouts.find s (layouts.keep s [layoutName layout] other) =
      layouts.find t (layouts.keep t [layoutName layout] kept) := by
    rw [find_keep, find_keep, same]
  unfold render
  dsimp only
  rw [found]
  split
  · exact renderTemplate_text found _ _ _
  · rfl
  · rfl

theorem renderText_text (source : Text) (context : Context) :
    (layouts.renderText s other source context).text =
      (layouts.renderText t kept source context).text := by
  unfold renderText
  split
  · exact renderTemplate_text same _ _ _
  · rfl

end Rendering

theorem find_render (layouts : Layouts) (t : FileTree) (kept : Kept) (layout : Text)
    (context : Context) :
    layouts.find t (layouts.render t kept layout context).kept = layouts.find t kept := by
  unfold render
  dsimp only
  split
  · exact (find_keep ..).trans (find_keep ..)
  · exact find_keep ..
  · exact find_keep ..

theorem find_renderText (layouts : Layouts) (t : FileTree) (kept : Kept) (source : Text)
    (context : Context) :
    layouts.find t (layouts.renderText t kept source context).kept = layouts.find t kept := by
  unfold renderText
  split
  · exact find_keep ..
  · rfl

end Layouts

/-! ## Pages in their layouts -/

section Rendering

variable {renderer : Renderer}

theorem renderWith_text (engine : renderer.engine = layouts.engine)
    (same : layouts.find s other = layouts.find t kept) (page : Record) (site : Template.Value) :
    (renderer.renderWith s other page site).text = (renderer.renderWith t kept page site).text := by
  unfold Renderer.renderWith
  dsimp only
  rw [engine]
  have texts := Layouts.render_text same (page.layout.getD renderer.defaultLayout)
    (renderer.contextOf page site)
  simp only [Layouts.engine, texts]

theorem find_renderWith (engine : renderer.engine = layouts.engine) (t : FileTree) (kept : Kept)
    (page : Record) (site : Template.Value) :
    layouts.find t (renderer.renderWith t kept page site).kept = layouts.find t kept := by
  unfold Renderer.renderWith
  rw [engine]
  exact layouts.find_render ..

/-- Pages that are rendered one after the other are rendered as each alone. -/
theorem renderEach_eq (engine : renderer.engine = layouts.engine) (t : FileTree) (kept : Kept)
    (site : Template.Value) (pages : List Record) :
    (renderEach t renderer site kept pages).1 =
        pages.map (fun page => (page.outputPath, (renderer.renderWith t kept page site).text)) ∧
      layouts.find t (renderEach t renderer site kept pages).2 = layouts.find t kept := by
  induction pages generalizing kept with
  | nil => exact ⟨rfl, rfl⟩
  | cons page rest ih =>
    obtain ⟨texts, found⟩ := ih (renderer.renderWith t kept page site).kept
    have same := find_renderWith engine t kept page site
    refine ⟨?_, found.trans same⟩
    simp only [renderEach, List.map_cons, texts, renderWith_text engine same]

end Rendering

/-! ## Pages from their sources -/

section Reading

variable {reader : PageReader} {path : Path}

/-- The documentation that the text of a source asks for. -/
def declared (path : Path) (text : Text) : List (Text × Yaml.Value) :=
  match Page.FrontMatter.extract ((Page.unwrapComment? (Page.Kind.ofPath path) text).getD text) with
  | .ok (frontMatter, _) => frontMatter.docs
  | .error _ => []

theorem resolveDocs_congr {declared : List (Text × Yaml.Value)}
    (adapters : ∀ docs ∈ declared, reader.registry.run s docs.1 docs.2 =
      reader.registry.run t docs.1 docs.2) (path : Path) :
    reader.resolveDocs s path declared = reader.resolveDocs t path declared := by
  rw [PageReader.resolveDocs_eq, PageReader.resolveDocs_eq, Mapping.mapM_congr fun asked member => ?_]
  simp only [PageReader.answer, adapters _ member]

section Texts

variable (texts : ∀ source context, (reader.engine.renderText s other source context).text =
  (reader.engine.renderText t kept source context).text)
include texts

theorem renderBody_fst (kind : Page.Kind) (body : Text) :
    (reader.renderBody s other kind body).1 = (reader.renderBody t kept kind body).1 := by
  cases kind with
  | verbatim => rfl
  | markdown => rfl
  | template => simp only [PageReader.renderBody, texts]

/-- What is read of a source depends on the source, what its text is rendered to, and what the adapters
find for it alone. -/
theorem page_of_texts
    (adapters : ∀ text, t.entryAt? path = some (.file (.text text)) → ∀ docs ∈ declared path text,
      reader.registry.run s docs.1 docs.2 = reader.registry.run t docs.1 docs.2)
    (source : s.entryAt? path = t.entryAt? path) :
    (reader.read s other path).page = (reader.read t kept path).page := by
  unfold PageReader.read
  rw [source]
  split
  · rfl
  · rfl
  · rfl
  next text found =>
    have adapters := adapters text found
    simp only [PageReader.readText]
    unfold declared at adapters
    split
    · rfl
    next frontMatter body extracted =>
      rw [extracted] at adapters
      have bodies := renderBody_fst texts (Page.Kind.ofPath path)
        (Page.resolveTitle frontMatter (Page.Kind.ofPath path) body (reader.outputPath path)).body
      rw [resolveDocs_congr adapters]
      generalize reader.renderBody s other _ _ = there at bodies ⊢
      generalize reader.renderBody t kept _ _ = here at bodies ⊢
      obtain ⟨result, _⟩ := there
      obtain ⟨result', _⟩ := here
      obtain rfl : result = result' := bodies
      cases result <;> rfl

end Texts

/-- What is read of a source depends on the source, the layouts and what the adapters find alone. -/
theorem read_page (engine : reader.engine = layouts.engine)
    (same : layouts.find s other = layouts.find t kept)
    (adapters : ∀ name reference, reader.registry.run s name reference =
      reader.registry.run t name reference)
    (source : s.entryAt? path = t.entryAt? path) :
    (reader.read s other path).page = (reader.read t kept path).page := by
  refine page_of_texts (fun source context => ?_) (fun _ _ docs _ => adapters docs.1 docs.2) source
  rw [engine]
  exact Layouts.renderText_text same source context

theorem kept_of_renderBody {kept later : Kept} {kind : Page.Kind} {body : Text} {result : Except (Option Text) Text}
    (rendered : reader.renderBody t kept kind body = (result, later)) :
    later = kept ∨ ∃ source, later = (reader.engine.renderText t kept source .empty).kept := by
  cases kind with
  | verbatim => exact Or.inl (congrArg Prod.snd rendered).symm
  | markdown => exact Or.inl (congrArg Prod.snd rendered).symm
  | template => exact Or.inr ⟨body, (congrArg Prod.snd rendered).symm⟩

/-- Layouts are kept when the text of a source is rendered, if it is a template. -/
theorem kept_read (reader : PageReader) (t : FileTree) (kept : Kept) (path : Path) :
    (reader.read t kept path).kept = kept ∨
      ∃ source, (reader.read t kept path).kept =
        (reader.engine.renderText t kept source .empty).kept := by
  rcases reader.read_cases t kept path with ⟨-, same⟩ | same | ⟨text, -, makes⟩
  · rw [same]
    exact Or.inl rfl
  · rw [same]
    exact Or.inl rfl
  · generalize reader.read t kept path = reading at makes
    cases makes with
    | unextracted => exact Or.inl rfl
    | unrendered _ rendered | undocumented _ rendered | page _ rendered => exact kept_of_renderBody rendered

theorem find_read (engine : reader.engine = layouts.engine) (t : FileTree) (kept : Kept)
    (path : Path) : layouts.find t (reader.read t kept path).kept = layouts.find t kept := by
  rcases kept_read reader t kept path with same | ⟨source, same⟩
  · rw [same]
  · rw [same, engine]
    exact layouts.find_renderText ..

/-- Sources that are read one after the other are read as each alone. -/
theorem readAll_eq (engine : reader.engine = layouts.engine) (t : FileTree) (kept : Kept)
    (paths : List Path) :
    (readAll t reader kept paths).1 = paths.map (fun path => (reader.read t kept path).page) ∧
      layouts.find t (readAll t reader kept paths).2 = layouts.find t kept := by
  induction paths generalizing kept with
  | nil => exact ⟨rfl, rfl⟩
  | cons path rest ih =>
    obtain ⟨pages, found⟩ := ih (reader.read t kept path).kept
    have same := find_read engine t kept path
    have alone : ∀ other, (reader.read t (reader.read t kept path).kept other).page =
        (reader.read t kept other).page := fun other => read_page engine same (fun _ _ => rfl) rfl
    refine ⟨?_, found.trans same⟩
    simp only [readAll, List.map_cons, pages, alone]

end Reading

end DocSite.Site
