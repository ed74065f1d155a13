/-
# DocSite.Proofs.Watch.Agreement -- what is watched and what is built

A full build finds the sources below the page root on a walk that skips hidden directories. A session
looks at the last name of a changed file alone. The two agree on a file (`reparse_agrees`) unless it
looks like a source and lies in a hidden directory: a session reads such a file, and a build does not
(`hidden_draft_is_read`). What a build finds is never ignored.

What more than one page depends on lies in directories of its own. A change there makes a session build
the site again, unless it is below the page root: such a change is taken for one of a page. So all changes
in a directory have their effect just if neither it nor the page root lies in the other one, as far as the
output directory does not hide that (`shared_changes_rebuild_iff`).
-/
import DocSite.Proofs.Site.Sources
import DocSite.Watch.Session

set_option autoImplicit false

namespace DocSite.Watch

open Text
open Site (isHidden)

variable {site : Site} {config : Config} {output path : Path} {event : Event} {files : FileTree}
  {paths : List Path} {names : List Text}

/-! ## What an event requires -/

/-- Below the page root, only what looks like a source requires anything. -/
theorem ofEvent_below_root (within : config.pageRoot.isWithin event.path = true)
    (outside : output.isWithin event.path = false) :
    Action.ofEvent site config output event =
      if site.isPageSource event.path then
        match event with
        | .changed path => .reparse path
        | .removed path => .remove path
      else .ignore := by
  unfold Action.ofEvent
  rw [outside, within]
  cases site.isPageSource event.path <;> cases event <;> rfl

theorem changed_below_root (within : config.pageRoot.isWithin path = true)
    (outside : output.isWithin path = false) :
    Action.ofEvent site config output (.changed path) = .reparse path ↔
      site.isPageSource path = true := by
  rw [ofEvent_below_root within outside]
  cases looks : site.isPageSource path <;> simp [Event.path, looks]

/-! ## What a build finds -/

/-- A file below the page root is found by a build if it looks like a source and no name on the way
to it is hidden. -/
theorem listed_iff (wellformed : files.Wellformed) (found : site.discover files = .ok paths)
    (below : site.settings.root.below? path = some (names.map .name))
    (file : files.isFile path = true) :
    (∃ source ∈ paths, source.parts = path.parts) ↔
      names.any isHidden = false ∧ site.isPageSource path = true := by
  have parts := Path.below_eq_some.mp below
  obtain ⟨filled, place, located, directory, -⟩ := Site.discover_eq_ok.mp found
  obtain ⟨content, entry⟩ := FileTree.isFile_iff.mp file
  obtain ⟨-, -, target, reached, taken⟩ := FileTree.entryAt_eq_file.mp entry
  have way : files.locate? path = files.follow place (names.map .name) := by
    rw [FileTree.locate?, parts, FileTree.follow_append]
    exact congrArg (Option.bind · _) located
  rw [way] at reached
  have here := FileTree.eq_of_follow_names reached
  subst here
  have nonempty : names ≠ [] := by
    rintro rfl
    rw [List.append_nil, directory] at taken
    cases taken
  have named := Site.names_of_taken wellformed taken
  have same := Path.parts_join_names filled nonempty named
  constructor
  · rintro ⟨source, member, equal⟩
    obtain ⟨others, other, others_nonempty, others_taken, rfl, visible, looks⟩ :=
      (Site.mem_discover wellformed located found).mp member
    have others_named := Site.names_of_taken wellformed others_taken
    rw [Path.parts_join_names filled others_nonempty others_named, parts] at equal
    have names_equal := Path.map_name_injective (List.append_cancel_left equal)
    subst names_equal
    exact ⟨visible, (Site.isPageSource_congr (same.trans parts.symm)).symm.trans looks⟩
  · rintro ⟨visible, looks⟩
    refine ⟨_, (Site.mem_discover wellformed located found).mpr
      ⟨names, content, nonempty, taken, rfl, visible, ?_⟩, same.trans parts.symm⟩
    exact (Site.isPageSource_congr (same.trans parts.symm)).trans looks

/-! ## Agreement -/

/-- A file below the page root that a build finds is read again when it changes. A session and a build
agree on a file just if it is not one that looks like a source and lies in a hidden directory. -/
theorem reparse_agrees (wellformed : files.Wellformed) (settings : site.settings = config.settings)
    (found : site.discover files = .ok paths)
    (below : config.pageRoot.below? path = some (names.map .name))
    (file : files.isFile path = true) (outside : output.isWithin path = false) :
    ((∃ source ∈ paths, source.parts = path.parts) →
        Action.ofEvent site config output (.changed path) = .reparse path) ∧
      ((Action.ofEvent site config output (.changed path) = .reparse path ↔
          ∃ source ∈ paths, source.parts = path.parts) ↔
        ¬(site.isPageSource path = true ∧ ∃ name ∈ names.dropLast, isHidden name = true)) := by
  have root : site.settings.root = config.pageRoot := by rw [settings]; rfl
  have within : config.pageRoot.isWithin path = true := by rw [Path.isWithin, below]; rfl
  rw [changed_below_root within outside, listed_iff wellformed found (root ▸ below) file]
  refine ⟨And.right, ?_⟩
  cases looks : site.isPageSource path with
  | false => simp
  | true =>
    have shown : names.any isHidden = names.dropLast.any isHidden := by
      by_cases empty : names = []
      · rw [empty]; rfl
      · have last : path.name? = some (names.getLast empty) := by
          rw [Path.name?, Path.below_eq_some.mp below]
          simp [empty, List.getLast?_eq_getLast_of_ne_nil]
        have visible := Site.not_hidden_of_isPageSource looks last
        conv_lhs => rw [← List.dropLast_append_getLast empty]
        simp [visible]
    simp [shown]

/-- A project with a page, and with a draft in a hidden directory. -/
def draftProject : FileTree where
  entries := [
    (["work".toList], .directory),
    (["work".toList, "docs".toList], .directory),
    (["work".toList, "docs".toList, ".drafts".toList], .directory),
    (["work".toList, "docs".toList, ".drafts".toList, "secret.md".toList],
      .file (.text "# S".toList)),
    (["work".toList, "docs".toList, "index.md".toList], .file (.text "# I".toList))]
  home := []

/-- The standard configuration of the project. -/
def draftConfig : Config := .standard ⟨"/work".toList⟩

/-- The page of the project is one that a build finds, and that is read again when it changes. -/
theorem index_page_agrees :
    draftProject.Wellformed ∧
      draftConfig.pageRoot.below? ⟨"/work/docs/index.md".toList⟩ = some [.name "index.md".toList] ∧
      (Action.ofEvent (draftConfig.openSite draftProject) draftConfig draftConfig.outputDirectory
          (.changed ⟨"/work/docs/index.md".toList⟩) = .reparse ⟨"/work/docs/index.md".toList⟩ ↔
        ∃ source ∈ [(⟨"/work/docs/index.md".toList⟩ : Path)],
          source.parts = Path.parts ⟨"/work/docs/index.md".toList⟩) :=
  have wellformed : draftProject.Wellformed := by decide
  have found : (draftConfig.openSite draftProject).discover draftProject =
      .ok [⟨"/work/docs/index.md".toList⟩] := by decide
  have below : draftConfig.pageRoot.below? ⟨"/work/docs/index.md".toList⟩ =
      some (["index.md".toList].map .name) := by decide
  ⟨wellformed, below,
    (reparse_agrees wellformed rfl found below (by decide) (by decide)).2.mpr (by decide)⟩

/-- A build does not find the draft, and a session reads it when it changes. -/
theorem hidden_draft_is_read :
    (draftConfig.openSite draftProject).discover draftProject =
        .ok [⟨"/work/docs/index.md".toList⟩] ∧
      draftProject.isFile ⟨"/work/docs/.drafts/secret.md".toList⟩ = true ∧
      Action.ofEvent (draftConfig.openSite draftProject) draftConfig draftConfig.outputDirectory
          (.changed ⟨"/work/docs/.drafts/secret.md".toList⟩) =
        .reparse ⟨"/work/docs/.drafts/secret.md".toList⟩ := by
  decide

/-! ## What more than one page depends on -/

/-- The directories that more than one page depends on: the layouts, and what the configuration adds. -/
def shared (config : Config) : List Path := config.layoutsDirectory :: config.watchedPaths

/-- Whether every event in a directory makes the site be built again, unless it is one in the output
directory. -/
def Rebuilds (site : Site) (config : Config) (output directory : Path) : Prop :=
  ∀ event : Event, directory.isWithin event.path = true → output.isWithin event.path = false →
    Action.ofEvent site config output event = .rebuild

theorem ofEvent_eq_rebuild :
    Action.ofEvent site config output event = .rebuild ↔
      output.isWithin event.path = false ∧ config.pageRoot.isWithin event.path = false := by
  unfold Action.ofEvent
  cases output.isWithin event.path <;> cases config.pageRoot.isWithin event.path <;>
    cases site.isPageSource event.path <;> cases event <;> simp

/-- All events in a directory make the site be built again just if the page root and the directory are apart;
where one lies in the other, the inner one must be in the output directory. -/
theorem rebuilds_iff {directory : Path} :
    Rebuilds site config output directory ↔
      (config.pageRoot.isWithin directory = true → output.isWithin directory = true) ∧
        (directory.isWithin config.pageRoot = true → output.isWithin config.pageRoot = true) := by
  constructor
  · intro rebuilds
    -- The inner one of the two directories is itself a path at which events may happen.
    constructor
    · intro below
      by_contra outside
      rw [Bool.not_eq_true] at outside
      have apart := (ofEvent_eq_rebuild.mp (rebuilds (.changed directory) (Path.isWithin_self _) outside)).2
      exact Bool.false_ne_true (apart.symm.trans below)
    · intro above
      by_contra outside
      rw [Bool.not_eq_true] at outside
      have apart := (ofEvent_eq_rebuild.mp (rebuilds (.changed config.pageRoot) above outside)).2
      exact Bool.false_ne_true (apart.symm.trans (Path.isWithin_self _))
  · rintro ⟨below, above⟩ event inside outside
    refine ofEvent_eq_rebuild.mpr ⟨outside, ?_⟩
    by_contra within
    rw [Bool.not_eq_false] at within
    have covered : output.isWithin event.path = true := by
      rcases Path.isWithin_or_isWithin inside within with root | directory
      · exact Path.isWithin_trans (above root) within
      · exact Path.isWithin_trans (below directory) inside
    exact Bool.false_ne_true (outside.symm.trans covered)

/-- An event makes the site be built again just if it is neither in the output directory nor below the page
root. So every event in a directory that more than one page depends on does, unless it is in the output
directory, just as long as the page root and these directories are apart, or the inner one of two is in the
output directory. -/
theorem shared_changes_rebuild_iff (site : Site) (config : Config) (output : Path) :
    (∀ event, Action.ofEvent site config output event = .rebuild ↔
      output.isWithin event.path = false ∧ config.pageRoot.isWithin event.path = false) ∧
    ((∀ directory ∈ shared config, Rebuilds site config output directory) ↔
      ∀ directory ∈ shared config,
        (config.pageRoot.isWithin directory = true → output.isWithin directory = true) ∧
          (directory.isWithin config.pageRoot = true → output.isWithin config.pageRoot = true)) :=
  ⟨fun _ => ofEvent_eq_rebuild, forall₂_congr fun _ _ => rebuilds_iff⟩

/-- A configuration with layouts and documented sources below the page root. -/
def nestedConfig : Config :=
  { Config.standard ⟨"/work".toList⟩ with
    theme := ⟨⟨"docs/layouts".toList⟩, "default".toList⟩
    watched := [⟨"docs/scss".toList⟩] }

/-- A layout below the page root is taken for a page, and a documented source there is ignored. -/
theorem not_every_shared_change_rebuilds :
    let site := nestedConfig.openSite draftProject
    let output := nestedConfig.outputDirectory
    Action.ofEvent site nestedConfig output (.changed ⟨"/work/docs/layouts/default.html".toList⟩) =
        .reparse ⟨"/work/docs/layouts/default.html".toList⟩ ∧
      Action.ofEvent site nestedConfig output (.changed ⟨"/work/docs/scss/a.scss".toList⟩) = .ignore ∧
      ¬∀ (site : Site) (config : Config) (output : Path),
        ∀ directory ∈ shared config, Rebuilds site config output directory := by
  have ignored : Action.ofEvent (nestedConfig.openSite draftProject) nestedConfig
      nestedConfig.outputDirectory (.changed ⟨"/work/docs/scss/a.scss".toList⟩) = .ignore := by decide
  refine ⟨by decide, ignored, fun all => ?_⟩
  have rebuilt := all (nestedConfig.openSite draftProject) nestedConfig nestedConfig.outputDirectory
    ⟨"/work/docs/scss".toList⟩ (by decide) (.changed ⟨"/work/docs/scss/a.scss".toList⟩) (by decide) (by decide)
  rw [ignored] at rebuilt
  cases rebuilt

end DocSite.Watch
