/-
# DocSite.Proofs.Watch.Removal -- what becomes of the pages of removed files

The page of a source is dropped by the output path of the source. If no page of another source has this
output path, just the page of the source goes, and a session removes the file of this page alone
(`removal_drops_own_page`). Pages of files below a path stay when the path is removed: a session
ignores what does not look like a source, such as a directory (`directory_is_not_dropped`).
-/
import DocSite.Proofs.Site.Output
import DocSite.Proofs.Site.Reachable
import DocSite.Proofs.Watch.Agreement

set_option autoImplicit false

namespace DocSite.Watch

open Text

variable {session : Session} {files : FileTree} {site : Site} {path : Path}

/-! ## Sound sessions -/

/-- Whether the site of a session has come of a site with the settings of its configuration. -/
structure Session.Sound (session : Session) : Prop where
  reachable : session.site.Reachable
  settings : session.site.settings = session.config.settings
  filled : session.output.text ≠ []

namespace Session

theorem settings_of_bare {site other : Site} (same : site.bare = other.bare) :
    site.settings = other.settings := by
  have settings : site.bare.settings = other.bare.settings := by rw [same]
  exact settings

/-- Building a site leaves a site that can be reached, with the tools of the one it begins with. -/
theorem buildSite_sound (output : Path) (files : FileTree) (reachable : site.Reachable) :
    (Command.buildSite output files site).1.Reachable ∧
      (Command.buildSite output files site).1.bare = site.bare := by
  unfold Command.buildSite
  split
  · exact ⟨reachable, rfl⟩
  next paths _ => exact ⟨(reachable.build files paths).renderAll files, rfl⟩

theorem openSite_reachable (config : Config) (files : FileTree) :
    (config.openSite files).Reachable := .create _ _ _ _

theorem writePages_sound (sound : session.Sound) (files : FileTree) :
    (session.writePages files).1.Sound :=
  ⟨sound.reachable.renderAll files, sound.settings, sound.filled⟩

theorem reparse_sound (sound : session.Sound) (source : Path) (files : FileTree) :
    (session.reparse source files).1.Sound := by
  have parsed : Sound { session with site := (session.site.parse files source .incremental).1 } :=
    ⟨sound.reachable.parse files source .incremental,
      (settings_of_bare (Site.bare_parse files source .incremental session.site)).trans sound.settings,
      sound.filled⟩
  unfold reparse
  dsimp only
  split
  · exact writePages_sound parsed files
  · exact parsed

theorem remove_sound (sound : session.Sound) (source : Path) (files : FileTree) :
    (session.remove source files).1.Sound := by
  have dropped : Sound { session with site := (session.site.remove source).1 } :=
    ⟨sound.reachable.remove source, sound.settings, sound.filled⟩
  unfold remove
  dsimp only
  split
  · exact dropped
  · exact writePages_sound dropped _

theorem rebuild_sound (sound : session.Sound) (files : FileTree) :
    (session.rebuild files).1.Sound := by
  obtain ⟨reachable, same⟩ := buildSite_sound session.output files
    (openSite_reachable session.config files)
  exact ⟨reachable, settings_of_bare same, sound.filled⟩

/-- Whatever event is handled, a session stays sound. -/
theorem handle_sound (sound : session.Sound) (event : Event) (files : FileTree) :
    (session.handle event files).1.Sound := by
  unfold handle perform
  split
  · exact reparse_sound sound _ files
  · exact remove_sound sound _ files
  · exact rebuild_sound sound files
  · exact sound

/-- A session begins soundly. -/
theorem start_sound {file : Path} {output : Option Path} {files' : FileTree}
    (started : start file output files = (files', .ok session)) : session.Sound := by
  unfold start at started
  split at started
  · cases started
  next config _ =>
    split at started
    · cases started
    next place found =>
      have sound := buildSite_sound place files (openSite_reachable config files)
      split at started
      · cases started
      next site _ _ built =>
        rw [built] at sound
        cases started
        exact ⟨sound.1, settings_of_bare sound.2, Path.absolute_ne_nil (by simp [FileTree.pathOf]) found⟩

/-! ## Removing a source -/

theorem remove_pages (session : Session) (source : Path) (files : FileTree) :
    (session.remove source files).1.site.pages = (session.site.remove source).1.pages := by
  unfold remove
  dsimp only
  split <;> rfl

/-- A session that drops a page takes away no file but that of the page. -/
theorem isFile_remove (indexed : session.site.pages.Indexed) (wellformed : files.Wellformed)
    {source : Path} (file : files.isFile path = true)
    (different : files.isFile (session.output.join ⟨session.site.outputPath source⟩) = true →
      files.locate? path ≠
        files.locate? (session.output.join ⟨session.site.outputPath source⟩)) :
    (session.remove source files).2.isFile path = true := by
  unfold remove
  dsimp only
  split
  · exact file
  next page dropped =>
    have own : page.outputPath = session.site.outputPath source := by
      have found : session.site.pages.get? (session.site.outputPath source) = some page := by
        rw [← Site.Tree.removed_page]
        exact dropped
      exact (indexed.get_eq_some.mp found).2
    have kept : (files.removeFile (session.output.join ⟨page.outputPath⟩)).isFile path = true := by
      rw [own]
      cases there : files.isFile (session.output.join ⟨session.site.outputPath source⟩) with
      | true => exact wellformed.isFile_removeFile file (different there)
      | false => rw [FileTree.removeFile_of_not_isFile there, file]
    exact (Site.extends_writePages ..).isFile kept

end Session

/-- Removing a source drops the page of this source and no other page, unless the source of another page
has the same output path; the pages of files below the source stay. A session does just this when a file
below the page root is removed that looks like a source: every page that stays keeps its output file, if
this is not the file of the page that goes, which takes an extension with a slash. Nothing happens when
something else is removed below the page root, or anything in the output directory. -/
theorem removal_drops_own_page (reachable : site.Reachable) (path : Path)
    (alone : ∀ page ∈ site.pages.records, page.outputPath = site.outputPath path →
      page.source.parts = path.parts) :
    (site.remove path).2 =
        site.pages.records.find? (fun page => page.source.parts = path.parts) ∧
      (site.remove path).1.pages.records =
        site.pages.records.filter (fun page => page.source.parts ≠ path.parts) ∧
      ∀ (session : Session) (files : FileTree), session.Sound → session.site = site →
        files.Wellformed →
        (session.output.isWithin path = true →
          session.handle (.removed path) files = (session, files)) ∧
        (session.output.isWithin path = false → session.config.pageRoot.isWithin path = true →
          (site.isPageSource path = false →
            session.handle (.removed path) files = (session, files)) ∧
          (site.isPageSource path = true →
            (session.handle (.removed path) files).1.site.pages = (site.remove path).1.pages ∧
            ∀ page ∈ (site.remove path).1.pages.records,
              files.isFile (session.output.join ⟨page.outputPath⟩) = true →
              '/' ∉ session.config.pages.extension ∨
                files.locate? (session.output.join ⟨page.outputPath⟩) ≠
                  files.locate? (session.output.join ⟨site.outputPath path⟩) →
              (session.handle (.removed path) files).2.isFile
                (session.output.join ⟨page.outputPath⟩) = true)) := by
  have sourced := reachable.sourced
  obtain ⟨answer, rest⟩ := sourced.remove_source alone
  refine ⟨answer, rest, ?_⟩
  rintro session files sound rfl wellformed
  refine ⟨fun inside => ?_, fun outside within => ⟨fun other => ?_, fun source => ?_⟩⟩
  · have ignored : Action.ofEvent session.site session.config session.output (.removed path) =
        .ignore := by
      unfold Action.ofEvent
      exact if_pos inside
    rw [Session.handle, ignored]
    rfl
  · have ignored : Action.ofEvent session.site session.config session.output (.removed path) =
        .ignore := by
      rw [ofEvent_below_root within outside, if_neg]
      rw [Event.path, other]
      simp
    rw [Session.handle, ignored]
    rfl
  · have dropped : session.handle (.removed path) files = session.remove path files := by
      have action : Action.ofEvent session.site session.config session.output (.removed path) =
          .remove path := by
        rw [ofEvent_below_root within outside, if_pos]
        exact source
      rw [Session.handle, action]
      rfl
    rw [dropped]
    refine ⟨session.remove_pages path files, fun page member file apart => ?_⟩
    refine Session.isFile_remove sourced.indexed wellformed file fun there same => ?_
    rcases apart with plain | different
    · -- With a plain extension the two pages would have one output path.
      have stays : page ∈ session.site.pages.records ∧
          page.outputPath ≠ session.site.outputPath path := by
        have kept : page ∈ (session.site.pages.remove (session.site.outputPath path)).1.records :=
          member
        rw [sourced.indexed.records_without] at kept
        simpa using kept
      have own := sourced.outputPath page stays.1
      have extension : '/' ∉ session.site.settings.extension := by
        rw [sound.settings]
        exact plain
      rw [own] at file same
      exact stays.2 (own.trans (Site.outputPath_of_place extension file there same))
    · exact different same

/-- A project with two pages, one of them in a directory, that have been written. -/
def guideProject : FileTree where
  entries := [
    (["work".toList], .directory),
    (["work".toList, "dist".toList], .directory),
    (["work".toList, "dist".toList, "guide".toList], .directory),
    (["work".toList, "dist".toList, "guide".toList, "a.html".toList], .file (.text ['A'])),
    (["work".toList, "dist".toList, "index.html".toList], .file (.text ['I'])),
    (["work".toList, "docs".toList], .directory),
    (["work".toList, "docs".toList, "guide".toList], .directory),
    (["work".toList, "docs".toList, "guide".toList, "a.html".toList], .file (.text ['A'])),
    (["work".toList, "docs".toList, "index.html".toList], .file (.text ['I']))]
  home := []

/-- The site that is built from the project. -/
def guideSite : Site :=
  (((Config.standard ⟨"/work".toList⟩).openSite guideProject).build guideProject
    [⟨"/work/docs/guide/a.html".toList⟩, ⟨"/work/docs/index.html".toList⟩]).1

/-- A session for the project. -/
def guideSession : Session :=
  let config := Config.standard ⟨"/work".toList⟩
  ⟨config, config.outputDirectory, guideSite⟩

theorem guideSession_sound : guideSession.Sound where
  reachable := by
    have built : guideSite.Reachable := by
      unfold guideSite
      exact (Session.openSite_reachable _ guideProject).build guideProject _
    exact built
  settings := rfl
  filled := by decide

/-- When the source of one page is removed, its page goes, and the other page keeps its file. -/
theorem index_page_goes :
    (guideSession.site.remove ⟨"/work/docs/index.html".toList⟩).1.pages.records =
        guideSession.site.pages.records.filter (fun page =>
          page.source.parts ≠ Path.parts ⟨"/work/docs/index.html".toList⟩) ∧
      (guideSession.handle (.removed ⟨"/work/docs/index.html".toList⟩) guideProject).2.isFile
        (guideSession.output.join ⟨"guide/a.html".toList⟩) = true := by
  have alone : ∀ page ∈ guideSession.site.pages.records,
      page.outputPath = guideSession.site.outputPath ⟨"/work/docs/index.html".toList⟩ →
      page.source.parts = Path.parts ⟨"/work/docs/index.html".toList⟩ := by decide +kernel
  obtain ⟨-, rest, watched⟩ := removal_drops_own_page guideSession_sound.reachable _ alone
  obtain ⟨-, below⟩ := watched guideSession guideProject guideSession_sound rfl (by decide)
  obtain ⟨-, files⟩ := (below (by decide) (by decide)).2 (by decide)
  refine ⟨rest, ?_⟩
  have stays : ∃ page ∈ (guideSession.site.remove ⟨"/work/docs/index.html".toList⟩).1.pages.records,
      page.outputPath = "guide/a.html".toList := by decide +kernel
  obtain ⟨page, member, path⟩ := stays
  rw [← path]
  exact files page member (by rw [path]; decide) (Or.inl (by decide))

/-- When a directory is removed, the page of a file below it stays. -/
theorem directory_is_not_dropped :
    (guideSession.site.remove ⟨"/work/docs/guide".toList⟩).2.isNone = true ∧
      (∃ page ∈ (guideSession.site.remove ⟨"/work/docs/guide".toList⟩).1.pages.records,
        Path.isWithin ⟨"/work/docs/guide".toList⟩ page.source = true) ∧
      Action.ofEvent guideSession.site guideSession.config guideSession.output
        (.removed ⟨"/work/docs/guide".toList⟩) = .ignore := by
  decide +kernel

end DocSite.Watch
