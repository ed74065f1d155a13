/-
# DocSite.Proofs.Site.Overwriting -- the last text that is written to a file stays

Texts are written to files one after the other, wherever their paths lead. If all goes well, each of these
paths leads to a file with its text, unless another text has been written to this file
(`writeEach_ok`, `writePages_ok`), and all files that no text was written to are as they were.
-/
import DocSite.Proofs.Site.Output

set_option autoImplicit false

namespace DocSite.Site

open Text
open FileTree

variable {t s u : FileTree} {directory path : Path} {place : List Text} {text index outputPath : Text}
  {content : Content} {report report' : OutputReport}
  {rendered : List (Text × Except RenderError Text)}

/-- A text that has been written is in a file, and the other files are as they were. -/
theorem writeFile_ok (done : writeFile path text t = (s, .ok ())) :
    endsWithName path = true ∧ ∃ place, s.locate? path = some place ∧
      s.lookup place = some (.file (.text text)) ∧
      ∀ other content, other ≠ place → t.lookup other = some (.file content) →
        s.lookup other = some (.file content) := by
  unfold writeFile at done
  split at done
  · cases done
  next u made =>
    split at done
    · cases done
    next v written =>
      cases done
      have grown := extends_writeText written
      obtain ⟨ending, place, located, put⟩ := writeText_eq_ok.mp written
      obtain ⟨filled, -, -, rfl⟩ := writeFile_eq_some.mp put
      refine ⟨ending, place, locate_mono grown.home grown.directory located, ?_, ?_⟩
      · rw [lookup_put filled, if_pos rfl]
      · intro other content different there
        rw [lookup_put filled, if_neg different]
        obtain ⟨target, reached⟩ := makeParents_eq_ok.mp made
        exact lookup_reach reached there

/-- Where the paths of texts lead that are written below a directory. -/
def LeadsTo (directory : Path) (s : FileTree) (rendered : List (Text × Except RenderError Text))
    (place : List Text) : Prop :=
  ∃ outputPath text, (outputPath, .ok text) ∈ rendered ∧
    s.locate? (directory.join ⟨outputPath⟩) = some place

theorem LeadsTo.cons {first : Text × Except RenderError Text}
    (leads : LeadsTo directory s rendered place) : LeadsTo directory s (first :: rendered) place := by
  obtain ⟨outputPath, text, member, located⟩ := leads
  exact ⟨outputPath, text, List.mem_cons_of_mem _ member, located⟩

/-- Files that no text is written to stay as they were. -/
theorem writeEach_others (done : writeEach directory t report rendered = (s, .ok report'))
    (there : t.lookup place = some (.file content)) (apart : ¬LeadsTo directory s rendered place) :
    s.lookup place = some (.file content) := by
  induction rendered generalizing t report with
  | nil =>
    cases done
    exact there
  | cons first rest ih =>
    obtain ⟨outputPath, result⟩ := first
    have apart' : ¬LeadsTo directory s rest place := fun leads => apart leads.cons
    cases result with
    | error e => exact ih done there apart'
    | ok text =>
      rw [writeEach] at done
      split at done
      next u written =>
        obtain ⟨-, own, located, -, others⟩ := writeFile_ok written
        have grown := extends_writeEach directory u { report with written := report.written + 1 } rest
        rw [done] at grown
        have later := locate_mono grown.home grown.directory located
        have different : place ≠ own := by
          rintro rfl
          exact apart ⟨outputPath, text, List.mem_cons_self .., later⟩
        exact ih done (others place content different there) apart'
      · cases done

/-- What is reported counts the texts that have been rendered, and tells the other ones. -/
theorem report_of_writeEach (done : writeEach directory t report rendered = (s, .ok report')) :
    report' = ⟨report.written + (shown rendered).length, report.failures ++ unshown rendered⟩ := by
  induction rendered generalizing t report with
  | nil =>
    cases done
    simp [shown, unshown]
  | cons first rest ih =>
    obtain ⟨outputPath, result⟩ := first
    cases result with
    | error e =>
      rw [ih done]
      simp [shown, unshown, failure?]
    | ok text =>
      rw [writeEach] at done
      split at done
      · rw [ih done]
        simp [shown, unshown, failure?]
        omega
      · cases done

/-- Whether texts that are written below a directory are in a file at a place, with the text of an output
path or that of another one. -/
def Filled (directory : Path) (s : FileTree) (rendered : List (Text × Except RenderError Text))
    (outputPath text : Text) (place : List Text) : Prop :=
  s.isFileAt place = true ∧
    (s.lookup place = some (.file (.text text)) ∨
      ∃ other text', other ≠ outputPath ∧ (other, .ok text') ∈ rendered ∧
        s.locate? (directory.join ⟨other⟩) = some place)

theorem Filled.cons {first : Text × Except RenderError Text}
    (fills : Filled directory s rendered outputPath text place) :
    Filled directory s (first :: rendered) outputPath text place := by
  refine fills.imp id (Or.imp id ?_)
  rintro ⟨other, text', different, inside, same⟩
  exact ⟨other, text', different, List.mem_cons_of_mem _ inside, same⟩

/-- The first text is in its file, unless a later one is written there. -/
theorem filled_first (new : outputPath ∉ rendered.map Prod.fst)
    (done : writeEach directory t report rendered = (s, .ok report'))
    (taken : t.lookup place = some (.file (.text text))) :
    Filled directory s ((outputPath, .ok text) :: rendered) outputPath text place := by
  have grown := extends_writeEach directory t report rendered
  rw [done] at grown
  refine ⟨grown.file place (isFileAt_iff.mpr ⟨_, taken⟩), ?_⟩
  by_cases leads : LeadsTo directory s rendered place
  · obtain ⟨other, text', inside, same⟩ := leads
    refine Or.inr ⟨other, text', ?_, List.mem_cons_of_mem _ inside, same⟩
    rintro rfl
    exact new (List.mem_map.mpr ⟨_, inside, rfl⟩)
  · exact Or.inl (writeEach_others done taken leads)

/-- Each text that has been written is in a file, unless another path leads there. -/
theorem writeEach_ok (distinct : (rendered.map Prod.fst).Nodup)
    (done : writeEach directory t report rendered = (s, .ok report'))
    (member : (outputPath, .ok text) ∈ rendered) :
    endsWithName (directory.join ⟨outputPath⟩) = true ∧ ∃ place,
      s.locate? (directory.join ⟨outputPath⟩) = some place ∧
      Filled directory s rendered outputPath text place := by
  induction rendered generalizing t report with
  | nil => cases member
  | cons first rest ih =>
    obtain ⟨new, distinct'⟩ := List.nodup_cons.mp distinct
    obtain ⟨first, result⟩ := first
    cases result with
    | error e =>
      obtain ⟨ending, place, located, fills⟩ := ih distinct' done (by simpa using member)
      exact ⟨ending, place, located, fills.cons⟩
    | ok text' =>
      rw [writeEach] at done
      split at done
      next u written =>
        rcases List.mem_cons.mp member with here | later
        · obtain ⟨rfl, same⟩ := Prod.mk.inj here
          cases same
          obtain ⟨ending, place, located, taken, -⟩ := writeFile_ok written
          have grown := extends_writeEach directory u { report with written := report.written + 1 } rest
          rw [done] at grown
          exact ⟨ending, place, locate_mono grown.home grown.directory located,
            filled_first new done taken⟩
        · obtain ⟨ending, place, located, fills⟩ := ih distinct' done later
          exact ⟨ending, place, located, fills.cons⟩
      · cases done

/-- Whether another page than that of an output path is written to the file of this path. -/
def Overwritten (directory : Path) (s : FileTree) (rendered : List (Text × Except RenderError Text))
    (outputPath : Text) : Prop :=
  ∃ other text, other ≠ outputPath ∧ (other, .ok text) ∈ rendered ∧
    s.isFile (directory.join ⟨other⟩) = true ∧
    s.locate? (directory.join ⟨other⟩) = s.locate? (directory.join ⟨outputPath⟩)

/-- Each page that has been written is in a file, unless another page or the index is written to this
file. The index is in its file in any case. -/
theorem writePages_ok (distinct : (rendered.map Prod.fst).Nodup)
    (done : writePages directory rendered index t = (s, .ok report)) :
    report = ⟨(shown rendered).length, unshown rendered⟩ ∧
      s.readText? (directory.join ⟨searchFile⟩) = some index ∧
      ∀ outputPath text, (outputPath, .ok text) ∈ rendered →
        s.isFile (directory.join ⟨outputPath⟩) = true ∧
        (s.readText? (directory.join ⟨outputPath⟩) = some text ∨
          Overwritten directory s rendered outputPath ∨
          s.locate? (directory.join ⟨searchFile⟩) = s.locate? (directory.join ⟨outputPath⟩)) := by
  unfold writePages at done
  split at done
  · cases done
  next base made =>
    split at done
    · cases done
    next pages counted written =>
      split at done
      next last indexed =>
        cases done
        obtain ⟨ending, search, located, holds, others⟩ := writeFile_ok indexed
        have grown := extends_writeFile (directory.join ⟨searchFile⟩) index pages
        rw [indexed] at grown
        have stays : ∀ {path : Path} {place : List Text}, pages.locate? path = some place →
            s.locate? path = some place := locate_mono grown.home grown.directory
        have files : ∀ outputPath text, (outputPath, .ok text) ∈ rendered →
            s.isFile (directory.join ⟨outputPath⟩) = true := by
          intro outputPath text member
          obtain ⟨ending, place, located, file, -⟩ := writeEach_ok distinct written member
          obtain ⟨content, taken⟩ := isFileAt_iff.mp (grown.file place file)
          exact isFile_iff.mpr ⟨content, entryAt_of_ending ending (stays located) taken⟩
        refine ⟨by simpa using report_of_writeEach written, ?_, fun outputPath text member =>
          ⟨files outputPath text member, ?_⟩⟩
        · exact readText_eq_some.mpr (entryAt_of_ending ending located holds)
        · obtain ⟨ending', place, located', -, here | ⟨other, text', different, inside, same⟩⟩ :=
            writeEach_ok distinct written member
          · by_cases last_place : place = search
            · rw [last_place] at located'
              exact Or.inr (Or.inr (located.trans (stays located').symm))
            · have kept := others place _ last_place here
              exact Or.inl (readText_eq_some.mpr (entryAt_of_ending ending' (stays located') kept))
          · exact Or.inr (Or.inl ⟨other, text', different, inside, files other text' inside,
              (stays same).trans (stays located').symm⟩)
      · cases done

end DocSite.Site
