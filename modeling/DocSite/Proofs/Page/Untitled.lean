/-
# DocSite.Proofs.Page.Untitled -- the page that is left without its title

A title that is taken out of a source goes with one stretch of the source, up to a line feed or to the
end of it (`resolveTitle_body`). Of an article that is the title itself, and what is left gives the events
of the article without the heading, places aside, just if paragraphs above and below the title do not
become one (`resolveTitle_leavesOut_iff`). Lines that end otherwise than with a line feed are lost
(`not_every_title_is_left_out`).
-/
import DocSite.Page.Title
import DocSite.Proofs.Markdown.Article

set_option autoImplicit false

namespace DocSite.Page

open Text
open Markdown (Article LeavesOut Span cut wholeLines lineStart headline?)

variable {fm : FrontMatter}

/-- What is cut with the lines around a span ends with a line feed, or with the source. -/
theorem cut_wholeLines_eq (source : Text) (span : Span) :
    ∃ before lines after, source = before ++ (lines ++ after) ∧
      cut source (wholeLines source span) = before ++ after ∧
        (after = [] ∨ lines.getLast? = some '\n') := by
  generalize sized : (dropEndWhile (fun c => c == '\r' || c == '\n')
    ((source.drop span.start).take (span.stop - span.start))).length = size
  generalize ended : source.drop (span.start + size) = rest
  have whole : wholeLines source span = ⟨lineStart source span.start, span.start + size +
      (rest.takeWhile (· != '\n')).length +
        if (rest.takeWhile (· != '\n')).length < rest.length then 1 else 0⟩ := by
    rw [wholeLines, ← ended, ← sized]
  have early : lineStart source span.start ≤ span.start + size :=
    Nat.le_trans (Nat.sub_le _ _) (Nat.le_add_right _ _)
  have parts := List.takeWhile_append_dropWhile (p := (· != '\n')) (l := rest)
  rw [cut, whole]
  dsimp only
  generalize lineStart source span.start = start at *
  generalize rest.takeWhile (· != '\n') = line at *
  generalize found : rest.dropWhile (· != '\n') = tail at *
  cases tail with
  | nil =>
    rw [List.append_nil] at parts
    subst parts
    refine ⟨source.take start, source.drop start, [], by simp, ?_, .inl rfl⟩
    rw [if_neg (Nat.lt_irrefl _), Nat.add_zero, ← List.drop_drop, ended, List.drop_length]
  | cons c more =>
    have feed : c = '\n' := by
      have head := List.head?_dropWhile_not (· != '\n') rest
      simpa [found] using head
    subst feed
    have long : line.length < rest.length := by simp [← parts]
    refine ⟨source.take start, (source.take (span.start + size)).drop start ++ (line ++ ['\n']), more, ?_, ?_,
      .inr (by simp)⟩
    · have split := List.take_append_drop (span.start + size) source
      have front := List.take_append_drop start (source.take (span.start + size))
      rw [List.take_take, Nat.min_eq_left early] at front
      rw [ended, ← parts, ← front] at split
      simpa using split.symm
    · have split : rest.drop (line.length + 1) = more := by
        rw [← parts, ← List.drop_drop, List.drop_left]
        rfl
      rw [if_pos long, Nat.add_assoc, ← List.drop_drop, ended, split]

/-- What a source loses with its title ends with a line feed, or with the source. -/
theorem resolveTitle_body (untitled : fm.title? = none) (source outputPath : Text) :
    ∃ before lines after, source = before ++ (lines ++ after) ∧
      (resolveTitle fm .markdown source outputPath).body = before ++ after ∧
        (after = [] ∨ lines.getLast? = some '\n') := by
  rw [resolveTitle, untitled]
  simp only [if_true]
  cases headline? source with
  | none => exact ⟨source, [], [], by simp, by simp, .inl rfl⟩
  | some found => exact cut_wholeLines_eq source found.2

/-- The title of an article is taken out of it with its lines. -/
theorem resolveTitle_article (untitled : fm.title? = none) {article : Article} (proper : article.IsProper)
    (outputPath : Text) :
    resolveTitle fm .markdown article.stretch.source outputPath =
      ⟨trim (Markdown.shown [] article.heading), .heading, article.untitled.source⟩ := by
  rw [resolveTitle, untitled]
  simp only [if_true, Article.headline_stretch proper, Article.cut_stretch proper]

/-- A source without a title of its own loses one stretch of text up to a line feed or to its end. An article loses
the title that is found in it and nothing else, and gives the same events without the heading, places aside, just
if paragraphs above and below it do not become one. -/
theorem resolveTitle_leavesOut_iff (untitled : fm.title? = none) (outputPath : Text) :
    (∀ source, ∃ before lines after, source = before ++ (lines ++ after) ∧
      (resolveTitle fm .markdown source outputPath).body = before ++ after ∧
        (after = [] ∨ lines.getLast? = some '\n')) ∧
    ∀ article : Article, article.IsProper →
      let titled := resolveTitle fm .markdown article.stretch.source outputPath
      titled.origin = .heading ∧ headline? article.stretch.source = some (titled.title, article.span) ∧
        titled.body = article.untitled.source ∧
        (LeavesOut article.span article.stretch.source titled.body ↔ ¬article.IsJoined) := by
  refine ⟨fun source => resolveTitle_body untitled source outputPath, fun article proper => ?_⟩
  rw [resolveTitle_article untitled proper]
  exact ⟨rfl, Article.headline_stretch proper, rfl, Article.leavesOut_iff proper⟩

/-- A title right below a paragraph, with a link to a definition after it. -/
def manual : Article where
  before := [.fenced "sh".toList ["# make".toList]]
  above := [.last "Read on.".toList]
  gapAbove := 0
  title := .marked (.next "About ".toList (.reference (.last "it".toList) "home".toList) (.last []))
  gapBelow := 1
  below := [.last "More".toList, .last "of it".toList]
  after := [.definition "home".toList "index.md".toList none]

theorem manual_is_left : FrontMatter.empty.title? = none ∧ manual.IsProper ∧
    LeavesOut manual.span manual.stretch.source
      (resolveTitle .empty .markdown manual.stretch.source "manual.html".toList).body := by
  have untitled : FrontMatter.empty.title? = none := by decide +kernel
  have proper : manual.IsProper :=
    ⟨by decide +kernel, by decide +kernel, by decide +kernel, by decide +kernel, by decide +kernel⟩
  have apart : ¬manual.IsJoined := fun joined => absurd joined.2.2.2 (by decide)
  exact ⟨untitled, proper, ((resolveTitle_leavesOut_iff untitled _).2 manual proper).2.2.2.mpr apart⟩

/-- A line that ends with a carriage return takes the text after it along. -/
theorem not_every_title_is_left_out :
    ¬∀ (source title : Text) (span : Span), headline? source = some (title, span) →
      LeavesOut span source (resolveTitle .empty .markdown source "a.html".toList).body := by
  intro every
  have named : headline? "# A\rText".toList = some ("A".toList, ⟨0, 4⟩) := by decide +kernel
  have lost : ¬LeavesOut ⟨0, 4⟩ "# A\rText".toList
      (resolveTitle .empty .markdown "# A\rText".toList "a.html".toList).body := by
    decide +kernel
  exact lost (every _ _ _ named)

end DocSite.Page
