/-
# DocSite.Proofs.Site.Again -- a site that is built a second time

Writing the same pages again changes nothing, whether the first run has come to its end or not
(`writePages_again`): the second run retraces the first one, file by file (`Repeats`). A site finds the same
sources in a tree that has grown, if all that it finds there are as they were (`discover_grown`). It makes the
same pages of them and renders them to the same texts if the layouts and what the adapters find for them are the
same (`build_grown`, `renderAll_grown`).
-/
import DocSite.Proofs.FileTree.Listing
import DocSite.Proofs.FileTree.Retracing
import DocSite.Proofs.Site.Kept
import DocSite.Proofs.Site.Output

set_option autoImplicit false

namespace DocSite.Site

open Text
open FileTree
open DocSite.Path (IsName Part)

variable {t t' s u : FileTree} {directory path : Path} {α β : Type}

/-- Whether a second run of something that is done to a tree retraces the first run: it gives the same
answer, and where the first run stops with an error, it stops with the tree of the first run. -/
structure Repeats (act : FileTree → FileTree × Except BuildError α) : Prop where
  grows : ∀ t, Extends t (act t).1
  wellformed : ∀ t : FileTree, t.Wellformed → t.lookup t.home = some .directory → (act t).1.Wellformed
  again : ∀ {t s u : FileTree}, Retraced t s u → Extends (act t).1 s →
    (∀ e, (act t).2 = .error e → (act t).1 = s) →
    (act u).2 = (act t).2 ∧ Retraced (act t).1 s (act u).1

/-- One thing after the other is done to a tree, unless the first one fails. -/
def chain (first : FileTree → FileTree × Except BuildError α)
    (next : α → FileTree → FileTree × Except BuildError β) (t : FileTree) :
    FileTree × Except BuildError β :=
  match first t with
  | (t, .ok a) => next a t
  | (t, .error e) => (t, .error e)

variable {first : FileTree → FileTree × Except BuildError α}
  {next : α → FileTree → FileTree × Except BuildError β}

/-- What repeats one thing after the other repeats both. -/
theorem Repeats.chain (begins : Repeats first) (goes : ∀ a, Repeats (next a)) :
    Repeats (chain first next) where
  grows t := by
    have grown := begins.grows t
    unfold Site.chain
    split
    next t' a done =>
      rw [done] at grown
      exact grown.trans ((goes a).grows t')
    next t' e failed =>
      rw [failed] at grown
      exact grown
  wellformed t wellformed home := by
    have grown := begins.grows t
    have wellformed' := begins.wellformed t wellformed home
    unfold Site.chain
    split
    next t' a done =>
      rw [done] at grown wellformed'
      exact (goes a).wellformed t' wellformed' (home_of_extends grown home)
    next t' e failed =>
      rw [failed] at wellformed'
      exact wellformed'
  again := by
    intro t s u retraced ahead stops
    unfold Site.chain at ahead stops ⊢
    have begun := begins.again (t := t) (s := s) (u := u) retraced
    generalize first t = done at begun ahead stops ⊢
    generalize first u = done' at begun ⊢
    obtain ⟨t', result⟩ := done
    obtain ⟨u', result'⟩ := done'
    cases result with
    | error e =>
      obtain ⟨same, retraced'⟩ := begun ahead fun _ _ => stops e rfl
      obtain rfl : result' = .error e := same
      exact ⟨rfl, retraced'⟩
    | ok a =>
      obtain ⟨same, retraced'⟩ := begun (((goes a).grows t').trans ahead) (by simp)
      obtain rfl : result' = .ok a := same
      exact (goes a).again retraced' ahead stops

/-- Giving an answer repeats. -/
theorem repeats_answer (answer : Except BuildError α) : Repeats fun t => (t, answer) where
  grows := Extends.refl
  wellformed _ wellformed _ := wellformed
  again retraced _ _ := ⟨rfl, retraced⟩

/-! ## Directories and files -/

/-- Makes directories on the way along some parts of a path. -/
def makeWay (path : Path) (parts : List Part) (t : FileTree) : FileTree × Except BuildError Unit :=
  match t.reach t.home parts with
  | .ok (t, _) => (t, .ok ())
  | .error fault => (t, .error (.unwritten path fault))

/-- Writes a text into a directory that exists. -/
def putText (path : Path) (text : Text) (t : FileTree) : FileTree × Except BuildError Unit :=
  match t.writeText path text with
  | .ok t => (t, .ok ())
  | .error fault => (t, .error (.unwritten path fault))

theorem repeats_makeWay {parts : List Part} (named : ∀ name, Part.name name ∈ parts → IsName name) :
    Repeats (makeWay path parts) where
  grows t := by
    unfold makeWay
    split
    next t' target made => exact extends_reach made
    · exact Extends.refl t
  wellformed t wellformed home := by
    unfold makeWay
    split
    next t' target made => exact (wellformed.reached home named made).1
    · exact wellformed
  again := by
    intro t s u retraced ahead stops
    unfold makeWay at ahead stops ⊢
    cases made : t.reach t.home parts with
    | error fault =>
      simp only [made] at ahead stops ⊢
      obtain rfl := stops _ rfl
      rw [retraced.eq, made]
      exact ⟨rfl, retraced.eq ▸ retraced⟩
    | ok result =>
      simp only [made] at ahead ⊢
      obtain ⟨made', retraced'⟩ := retraced.makes named made ahead
      rw [made']
      exact ⟨rfl, retraced'⟩

theorem repeats_putText (path : Path) (text : Text) : Repeats (putText path text) where
  grows t := by
    unfold putText
    split
    next t' written => exact extends_writeText written
    · exact Extends.refl t
  wellformed t wellformed home := by
    unfold putText
    split
    next t' written => exact wellformed.writeText written
    · exact wellformed
  again := by
    intro t s u retraced ahead stops
    unfold putText at ahead stops ⊢
    cases written : t.writeText path text with
    | error fault =>
      simp only [written] at ahead stops ⊢
      obtain rfl := stops _ rfl
      rw [retraced.eq, written]
      exact ⟨rfl, retraced.eq ▸ retraced⟩
    | ok t' =>
      simp only [written] at ahead ⊢
      obtain ⟨u', written', retraced'⟩ := retraced.writes written ahead
      rw [written']
      exact ⟨rfl, retraced'⟩

/-- A file that has been written, with its directories, is written again. -/
theorem repeats_writeFile (path : Path) (text : Text) : Repeats (writeFile path text) := by
  have steps : writeFile path text =
      chain (makeWay path path.parts.dropLast) fun _ => putText path text := by
    funext t
    unfold writeFile chain makeWay putText makeParents
    cases t.reach t.home path.parts.dropLast with
    | error fault => rfl
    | ok result =>
      dsimp only [Except.map]
      cases result.1.writeText path text <;> rfl
  rw [steps]
  exact (repeats_makeWay fun name member => Path.isName_of_mem_parts
    ((List.dropLast_sublist _).subset member)).chain fun _ => repeats_putText path text

/-! ## Pages -/

/-- Pages that have been written, as far as they could be, are written again. -/
theorem repeats_writeEach (directory : Path) (report : OutputReport)
    (rendered : List (Text × Except RenderError Text)) :
    Repeats fun t => writeEach directory t report rendered := by
  induction rendered generalizing report with
  | nil => exact repeats_answer _
  | cons page rest ih =>
    obtain ⟨outputPath, result⟩ := page
    cases result with
    | error e => exact ih _
    | ok text =>
      have steps : (fun t => writeEach directory t report ((outputPath, .ok text) :: rest)) =
          chain (writeFile (directory.join ⟨outputPath⟩) text) fun _ t =>
            writeEach directory t { report with written := report.written + 1 } rest := by
        funext t
        unfold chain
        rw [writeEach]
        rcases writeFile (directory.join ⟨outputPath⟩) text t with ⟨t', e | _⟩ <;> rfl
      rw [steps]
      exact (repeats_writeFile _ _).chain fun _ => ih _

theorem repeats_writePages (directory : Path) (rendered : List (Text × Except RenderError Text))
    (index : Text) : Repeats (writePages directory rendered index) := by
  have steps : writePages directory rendered index =
      chain (makeWay directory directory.parts) fun _ =>
        chain (fun t => writeEach directory t ⟨0, []⟩ rendered) fun report =>
          chain (writeFile (directory.join ⟨searchFile⟩) index) fun _ t => (t, .ok report) := by
    funext t
    unfold writePages chain makeWay makePath
    cases t.reach t.home directory.parts with
    | error fault => rfl
    | ok result =>
      dsimp only [Except.map]
      rcases writeEach directory result.1 ⟨0, []⟩ rendered with ⟨t', e | report⟩
      · rfl
      · dsimp only
        rcases writeFile (directory.join ⟨searchFile⟩) index t' with ⟨t'', e | _⟩ <;> rfl
  rw [steps]
  exact (repeats_makeWay fun name => Path.isName_of_mem_parts).chain fun _ =>
    (repeats_writeEach directory _ rendered).chain fun report =>
      (repeats_writeFile _ _).chain fun _ => repeats_answer _

/-- Writing the same pages again changes nothing and comes to the same. -/
theorem writePages_again (wellformed : t.Wellformed) (home : t.lookup t.home = some .directory)
    (directory : Path) (rendered : List (Text × Except RenderError Text)) (index : Text) :
    writePages directory rendered index (writePages directory rendered index t).1 =
      writePages directory rendered index t := by
  have repeats := repeats_writePages directory rendered index
  have grown := repeats.grows t
  have retraced : Retraced t (writePages directory rendered index t).1
      (writePages directory rendered index t).1 :=
    ⟨wellformed, repeats.wellformed t wellformed home, home, grown, Extends.refl _,
      fun _ => Or.inl rfl⟩
  obtain ⟨same, retraced'⟩ := repeats.again retraced (Extends.refl _) fun _ _ => rfl
  exact Prod.ext retraced'.eq same

/-! ## A tree that has grown -/

section Grown

variable {t s : FileTree} {site : Site} {layouts : Layouts} {paths : List Path}

/-- The sources that are found are as before if each of them is. -/
theorem discover_grown (grown : Extends t s) (wellformed : t.Wellformed) (wellformed' : s.Wellformed)
    (found : site.discover t = .ok paths)
    (same : ∀ paths', site.discover s = .ok paths' → ∀ path ∈ paths',
      s.entryAt? path = t.entryAt? path) : site.discover s = .ok paths := by
  unfold discover at found same ⊢
  dsimp only at found same ⊢
  cases there : t.isDirectory site.settings.root with
  | false => rw [there] at found; cases found
  | true =>
    obtain ⟨filled, place, located, -⟩ := FileTree.isDirectory_iff.mp there
    have located' := FileTree.locate_mono grown.home grown.directory located
    rw [there, located] at found
    rw [grown.isDirectory there, located'] at same ⊢
    have same := same _ rfl
    rw [← found]
    refine congrArg Except.ok (FileTree.filterMap_below_grown grown wellformed wellformed'
      (fun _ => rfl) (fun _ _ _ => rfl) fun names content nonempty named picked taken => ?_)
    have entry := wellformed.entryAt_join_names filled located nonempty named
    have entry' := wellformed'.entryAt_join_names filled located' nonempty named
    rw [← entry, ← entry']
    refine same _ (List.mem_filterMap.mpr
      ⟨(names, .file content), wellformed'.mem_below.mpr ⟨nonempty, taken⟩, ?_⟩)
    dsimp only at picked ⊢
    split at picked
    next counts => rw [if_pos counts]
    · cases picked

/-- The same pages are made of sources that are as they were. -/
theorem build_grown (engine : site.engine = layouts.engine)
    (alike : layouts.find s site.kept = layouts.find t site.kept)
    (adapters : ∀ path ∈ paths, ∀ text, t.entryAt? path = some (.file (.text text)) →
      ∀ docs ∈ declared path text,
        site.registry.run s docs.1 docs.2 = site.registry.run t docs.1 docs.2)
    (sources : ∀ path ∈ paths, s.entryAt? path = t.entryAt? path) :
    (site.build s paths).1 = { (site.build t paths).1 with kept := (site.build s paths).1.kept } ∧
      (site.build s paths).2 = (site.build t paths).2 ∧
      layouts.find s (site.build s paths).1.kept = layouts.find t (site.build t paths).1.kept := by
  have engine' : site.reader.engine = layouts.engine := engine
  obtain ⟨pages, found⟩ := readAll_eq engine' t site.kept paths
  obtain ⟨pages', found'⟩ := readAll_eq engine' s site.kept paths
  have same : (readAll s site.reader site.kept paths).1 = (readAll t site.reader site.kept paths).1 := by
    rw [pages, pages']
    refine List.map_congr_left fun path member => page_of_texts (fun source context => ?_)
      (adapters path member) (sources path member)
    rw [engine']
    exact Layouts.renderText_text alike source context
  simp only [build, same]
  exact ⟨trivial, trivial, (found'.trans alike).trans found.symm⟩

/-- The same pages are rendered to the same texts. -/
theorem renderAll_grown (engine : site.engine = layouts.engine) {kept : Kept}
    (alike : layouts.find s kept = layouts.find t site.kept) :
    (renderAll s { site with kept := kept }).2 = (site.renderAll t).2 := by
  have engine' : site.renderer.engine = layouts.engine := engine
  have texts := (renderEach_eq engine' t site.kept (site.renderer.siteValue site.pages)
    site.pages.list).1
  have texts' := (renderEach_eq engine' s kept (site.renderer.siteValue site.pages)
    site.pages.list).1
  refine texts'.trans (Eq.trans (List.map_congr_left fun page _ => ?_) texts.symm)
  rw [renderWith_text engine' alike]

end Grown

end DocSite.Site
