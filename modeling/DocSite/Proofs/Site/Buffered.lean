/-
# DocSite.Proofs.Site.Buffered -- the order in which sources are done makes no difference

Sources that are read side by side are done in any order. All the same, what has been taken is what is read
of each source alone, in the order given: this holds of every state that moves lead to (`Readings.InOrder`,
`InOrder.step`, `InOrder.run`), as the engine renders a text no matter what it has rendered before. A move
can be made until all is taken, and there are three of them for each source (`exists_step`, `left_step`).
So every build comes to the same pages and the same report, whatever is done first and however many sources
are read at a time (`build_in_any_order`).
-/
import DocSite.Proofs.Site.Building
import DocSite.Site.Buffered

set_option autoImplicit false

namespace DocSite.Site

open Page (Record)

namespace Readings

variable {files : FileTree} {reader : PageReader} {limit : Nat} {readings next last : Readings}
  {move : ReadingMove} {moves : List ReadingMove} {paths : List Path} {kept : Kept}

/-! ## Moves -/

/-- What a move does: a source is begun, one is done between those before and after it, or the result of
the first one is taken. -/
theorem step_cases (step : readings.step? files reader limit move = some next) :
    (∃ path waiting, move = .begin ∧ readings.waiting = path :: waiting ∧
      next = { readings with waiting := waiting, tasks := readings.tasks ++ [⟨path, none⟩] }) ∨
    (∃ path before after, move = .finish before.length ∧
      readings.tasks = before ++ ⟨path, none⟩ :: after ∧
      next = { readings with
        tasks := before ++ ⟨path, some (reader.read files readings.kept path).page⟩ :: after
        kept := (reader.read files readings.kept path).kept }) ∨
    (∃ path result tasks, move = .take ∧ readings.tasks = ⟨path, some result⟩ :: tasks ∧
      next = { readings with tasks := tasks, taken := readings.taken ++ [result] }) := by
  cases move with
  | begin =>
    simp only [step?] at step
    split at step
    · cases step
    next path waiting rest =>
      split at step
      · exact Or.inl ⟨path, waiting, rfl, rest, (Option.some.inj step).symm⟩
      · cases step
  | finish task =>
    simp only [step?] at step
    split at step
    next path found =>
      obtain ⟨inside, here⟩ := List.getElem?_eq_some_iff.mp found
      have length : (readings.tasks.take task).length = task :=
        List.length_take_of_le (Nat.le_of_lt inside)
      refine Or.inr (Or.inl ⟨path, readings.tasks.take task, readings.tasks.drop (task + 1),
        by rw [length], ?_, ?_⟩)
      · rw [← here, List.getElem_cons_drop, List.take_append_drop]
      · rw [← Option.some.inj step, List.set_eq_take_append_cons_drop, if_pos inside]
    · cases step
  | take =>
    simp only [step?] at step
    split at step
    next path result tasks first =>
      exact Or.inr (Or.inr ⟨path, result, tasks, rfl, first, (Option.some.inj step).symm⟩)
    · cases step

/-! ## Every run comes to an end -/

/-- How many moves are left. -/
def left (readings : Readings) : Nat :=
  3 * readings.waiting.length + readings.tasks.length +
    readings.tasks.countP fun task => task.result.isNone

/-- Each move is one of those that were left. -/
theorem left_step (step : readings.step? files reader limit move = some next) :
    next.left + 1 = readings.left := by
  rcases step_cases step with ⟨path, waiting, -, rest, rfl⟩ | ⟨path, before, after, -, split, rfl⟩ |
    ⟨path, result, tasks, -, first, rfl⟩
  · simp [left, rest]
    omega
  · simp [left, split]
    omega
  · simp [left, first]
    omega

theorem left_run (run : readings.run? files reader limit moves = some last) :
    last.left + moves.length = readings.left := by
  induction moves generalizing readings with
  | nil =>
    cases run
    rfl
  | cons move moves ih =>
    obtain ⟨next, step, later⟩ := Option.bind_eq_some_iff.mp run
    have count := ih later
    have one := left_step step
    rw [List.length_cons]
    omega

/-- A move can be made until all results have been taken. -/
theorem exists_step (files : FileTree) (reader : PageReader) (positive : 0 < limit)
    (going : readings.isFinished = false) :
    ∃ move next, readings.step? files reader limit move = some next := by
  cases begun : readings.tasks with
  | nil =>
    cases rest : readings.waiting with
    | nil => simp [isFinished, begun, rest] at going
    | cons path waiting =>
      exact ⟨.begin, Option.isSome_iff_exists.mp (by simp [step?, rest, begun, positive])⟩
  | cons task tasks =>
    obtain ⟨path, result⟩ := task
    cases result with
    | none => exact ⟨.finish 0, Option.isSome_iff_exists.mp (by simp [step?, begun])⟩
    | some result => exact ⟨.take, Option.isSome_iff_exists.mp (by simp [step?, begun])⟩

/-- Whatever moves have been made, others finish all sources. -/
theorem exists_run (files : FileTree) (reader : PageReader) (positive : 0 < limit)
    (readings : Readings) :
    ∃ moves last, readings.run? files reader limit moves = some last ∧ last.isFinished = true := by
  generalize count : readings.left = n
  induction n generalizing readings with
  | zero =>
    cases done : readings.isFinished with
    | true => exact ⟨[], readings, rfl, done⟩
    | false =>
      obtain ⟨move, next, step⟩ := exists_step files reader positive done
      have := left_step step
      omega
  | succ n ih =>
    cases done : readings.isFinished with
    | true => exact ⟨[], readings, rfl, done⟩
    | false =>
      obtain ⟨move, next, step⟩ := exists_step files reader positive done
      have one := left_step step
      obtain ⟨moves, last, run, done'⟩ := ih next (by omega)
      exact ⟨move :: moves, last, Option.bind_eq_some_iff.mpr ⟨next, step, run⟩, done'⟩

/-! ## What has been taken -/

/-- Whether results are those of sources read alone, in their order, and layouts are kept as they may. -/
structure InOrder (files : FileTree) (reader : PageReader) (kept : Kept) (paths : List Path)
    (readings : Readings) : Prop where
  results : readings.taken ++
      readings.tasks.map (fun task => task.result.getD (reader.read files kept task.path).page) ++
      readings.waiting.map (fun path => (reader.read files kept path).page) =
    paths.map fun path => (reader.read files kept path).page
  alike : reader.engine.RendersAlike files kept readings.kept

theorem inOrder_start (files : FileTree) (reader : PageReader) (kept : Kept) (paths : List Path) :
    InOrder files reader kept paths (start paths kept) where
  results := rfl
  alike := .refl ..

section Steady

variable (steady : reader.engine.Steady files)
include steady

theorem InOrder.step (order : InOrder files reader kept paths readings)
    (step : readings.step? files reader limit move = some next) :
    InOrder files reader kept paths next := by
  have results := order.results
  rcases step_cases step with ⟨path, waiting, -, rest, rfl⟩ | ⟨path, before, after, -, split, rfl⟩ |
    ⟨path, result, tasks, -, first, rfl⟩
  · exact ⟨by simpa [rest] using results, order.alike⟩
  · have alone : (reader.read files readings.kept path).page = (reader.read files kept path).page :=
      page_of_texts order.alike.template (fun _ _ _ _ => rfl) rfl
    refine ⟨?_, order.alike.trans (steady.read readings.kept path)⟩
    simpa [split, alone] using results
  · exact ⟨by simpa [first] using results, order.alike⟩

theorem InOrder.run (order : InOrder files reader kept paths readings)
    (run : readings.run? files reader limit moves = some last) :
    InOrder files reader kept paths last := by
  induction moves generalizing readings with
  | nil =>
    cases run
    exact order
  | cons move moves ih =>
    obtain ⟨next, step, later⟩ := Option.bind_eq_some_iff.mp run
    exact ih (order.step steady step) later

/-- When all results have been taken, they are those of the sources read alone. -/
theorem taken_of_finished (run : (start paths kept).run? files reader limit moves = some last)
    (done : last.isFinished = true) :
    last.taken = paths.map fun path => (reader.read files kept path).page := by
  obtain ⟨waiting, tasks⟩ : last.waiting = [] ∧ last.tasks = [] := by simpa [isFinished] using done
  have results := ((inOrder_start files reader kept paths).run steady run).results
  simpa [waiting, tasks] using results

end Steady

end Readings

/-! ## Builds -/

variable {site : Site} {files : FileTree} {paths : List Path} {moves : List ReadingMove}
  {built : Site} {report : BuildReport}

/-- A build gathers what is read of each source alone, in whatever order they are done. -/
theorem gathers_buildBuffered (steady : site.engine.Steady files)
    (done : site.buildBuffered files paths moves = some (built, report)) :
    Gathers (site.resultOf files) paths built.pages report := by
  unfold buildBuffered at done
  split at done
  · cases done
  next readings run =>
    split at done
    next finished =>
      obtain ⟨rfl, rfl⟩ := Prod.mk.inj (Option.some.inj done)
      refine gathers_of_results (fun path e failed => path_of_error failed) ?_
      have steady' : site.reader.engine.Steady files := steady
      have taken := Readings.taken_of_finished steady' run finished
      rw [taken]
      rfl
    · cases done

/-- Moves that have been made can be followed by others that end the build. -/
theorem exists_buildBuffered {readings : Readings}
    (begun : site.readSideBySide files paths moves = some readings) :
    moves.length ≤ 3 * paths.length ∧
      ∃ more built, site.buildBuffered files paths (moves ++ more) = some built := by
  have positive : 0 < site.readingLimit := Nat.lt_of_lt_of_le Nat.zero_lt_one (Nat.le_max_right _ _)
  have count := Readings.left_run begun
  have all : (Readings.start paths site.kept).left = 3 * paths.length := by
    simp [Readings.start, Readings.left]
  refine ⟨by omega, ?_⟩
  obtain ⟨more, last, run, finished⟩ :=
    Readings.exists_run files site.reader positive readings
  have whole : site.readSideBySide files paths (moves ++ more) = some last := by
    rw [readSideBySide, Readings.run?, List.foldlM_append]
    exact Option.bind_eq_some_iff.mpr ⟨readings, begun, run⟩
  exact ⟨more, Option.isSome_iff_exists.mp (by simp [buildBuffered, whole, finished])⟩

/-- A site with some pages from before that reads some number of sources at a time. -/
def having (previous : Tree) (concurrency : Nat) (site : Site) : Site :=
  { site with pages := previous, settings := { site.settings with concurrency := concurrency } }

/-- Whatever pages there were before, however many sources are read at a time, and in whatever order they are
done: the build comes to an end, and its pages and its report are what is read of the sources in the order
given. They do not change if sources that give no page are left out. -/
theorem build_in_any_order (steady : site.engine.Steady files) (paths : List Path)
    (previous : Tree) (concurrency : Nat) (moves : List ReadingMove) :
    (∀ readings,
      (site.having previous concurrency).readSideBySide files paths moves = some readings →
      moves.length ≤ 3 * paths.length ∧ ∃ more built,
        (site.having previous concurrency).buildBuffered files paths (moves ++ more) = some built) ∧
    ∀ built report,
      (site.having previous concurrency).buildBuffered files paths moves = some (built, report) →
      Gathers (site.resultOf files) paths built.pages report ∧
        (built.pages = (site.build files paths).1.pages ∧ report = (site.build files paths).2) ∧
        ∀ moves' built' report', (site.having previous concurrency).buildBuffered files
          (paths.filter fun path => (pageOf? (site.resultOf files path)).isSome) moves' =
            some (built', report') → built'.pages = built.pages := by
  have steady' : (site.having previous concurrency).engine.Steady files := steady
  have reads : (site.having previous concurrency).resultOf files = site.resultOf files := rfl
  refine ⟨fun readings => exists_buildBuffered, fun built report done => ?_⟩
  have gathers := gathers_buildBuffered steady' done
  rw [reads] at gathers
  have once := gathers_build steady paths
  refine ⟨gathers, ⟨gathers.fill.trans once.fill.symm, ?_⟩, fun moves' built' report' done' => ?_⟩
  · obtain ⟨pages, failures⟩ := report
    have pages' := gathers.pages.trans once.pages.symm
    have failures' := gathers.failures.trans once.failures.symm
    exact congrArg₂ BuildReport.mk pages' failures'
  · have gathers' := gathers_buildBuffered steady' done'
    rw [reads] at gathers'
    rw [gathers'.fill, gathers.fill, pagesOf_filter]

/-- Two sources of one output path, one that fails, and a directory. -/
def draftFiles : FileTree where
  entries := [
    (["docs".toList], .directory),
    (["docs".toList, "01-a.md".toList], .file (.text ['x'])),
    (["docs".toList, "a.md".toList], .file (.text ['y'])),
    (["docs".toList, "b.md".toList], .file (.bytes [255])),
    (["docs".toList, "c".toList], .directory)]
  home := []

def draftPaths : List Path := [⟨"docs/01-a.md".toList⟩, ⟨"docs/b.md".toList⟩, ⟨"docs/c".toList⟩,
  ⟨"docs/a.md".toList⟩]

def draftSite : Site := .create .standard .empty Layouts.builtin.engine .standard

/-- The second source of each two is done before the first. -/
def draftMoves : List ReadingMove :=
  [.begin, .begin, .finish 1, .finish 0, .take, .take, .begin, .begin, .finish 1, .finish 0, .take, .take]

/-- The four drafts make one page, and one of them fails. -/
theorem drafts_in_any_order :
    draftSite.engine.Steady draftFiles ∧ ∃ built report,
      (draftSite.having .empty 2).buildBuffered draftFiles draftPaths draftMoves =
        some (built, report) ∧
      Gathers (draftSite.resultOf draftFiles) draftPaths built.pages report ∧
      report.pages = 1 ∧ report.failures = [.unreadable ⟨"docs/b.md".toList⟩] := by
  have steady : draftSite.engine.Steady draftFiles := Layouts.builtin.engine_steady draftFiles
  have counts : ((draftSite.having .empty 2).buildBuffered draftFiles draftPaths draftMoves).map
      (fun built => (built.2.pages, built.2.failures)) =
        some (1, [.unreadable ⟨"docs/b.md".toList⟩]) := by decide +kernel
  obtain ⟨⟨built, report⟩, done, same⟩ := Option.map_eq_some_iff.mp counts
  obtain ⟨pages, failures⟩ := Prod.mk.inj same
  obtain ⟨gathers, -⟩ :=
    (build_in_any_order steady draftPaths .empty 2 draftMoves).2 built report done
  exact ⟨steady, built, report, done, gathers, pages, failures⟩

end DocSite.Site
