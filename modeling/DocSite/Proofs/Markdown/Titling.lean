/-
# DocSite.Proofs.Markdown.Titling -- how a title is written

A title is a heading of level one: a line after a number sign, or lines with an underline of equal signs.
It is read by itself (`Titling.isRead_stretch`), whatever comes after it.
-/
import DocSite.Proofs.Markdown.Document
import DocSite.Proofs.Text.Trimming

set_option autoImplicit false

namespace DocSite.Markdown

open Text

/-- A title as it is written: after a number sign, or with an underline of one equal sign and `signs`
more. -/
inductive Titling where
  | marked (line : Prose)
  | underlined (first : Prose) (more : List Prose) (signs : Nat)

namespace Titling

/-- The underline of a title. -/
def underline (signs : Nat) : Text := List.replicate (signs + 1) '='

/-- The lines of text of a title. -/
def texts : Titling → List Prose
  | .marked line => [line]
  | .underlined first more _ => first :: more

/-- Whether a title stands after a number sign. -/
def isMarked : Titling → Bool
  | .marked _ => true
  | .underlined _ _ _ => false

/-- How a title is written. -/
def source : Titling → Text
  | .marked line => '#' :: ' ' :: linesSource [line.source]
  | .underlined first more signs => linesSource ((first :: more).map Prose.source) ++ (underline signs ++ ['\n'])

/-- The size of the mark before a title. -/
def mark : Titling → Nat
  | .marked _ => 2
  | .underlined _ _ _ => 0

/-- Whether a title is written as it stands: it shows a text, and number signs at its end are not taken
for a mark. -/
def isProper (labels : List Text) (title : Titling) : Bool :=
  title.texts.all (Prose.isLine labels) && (title.texts.head?.any fun line => !blank line.opening) &&
    (!title.isMarked || title.texts.all fun line => line.source.getLast? != some '#')

/-- What the lines of a title mean that begins at an offset. -/
def inlines (targets : Targets) (offset : Nat) (title : Titling) : List Inline :=
  linesInlines targets (offset + title.mark) title.texts

/-- A title as a stretch of a source. -/
def stretch (title : Titling) : Stretch :=
  .unlabelled title.source fun targets offset =>
    Event.within (.heading 1 ⟨offset, offset + title.source.length⟩)
      (Event.ofInlines (title.inlines targets offset))

end Titling

/-! ## Titles after a number sign -/

section Marked

variable {line rest : Text}

theorem headingSize_line (text : IsLine line) (last : ∀ c ∈ line.getLast?, c ≠ '#') (rest : Text) :
    headingSize (line ++ '\n' :: rest) = line.length := by
  have inside := lineText_line (fun c member => isBreak_of_isCommon (text.common c member)) rest
  obtain ⟨before, c, ends⟩ : ∃ before c, line = before ++ [c] := by
    obtain ⟨c, more, begins, -⟩ := text.begins
    exact ⟨_, _, (List.dropLast_append_getLast (by simp [begins] : line ≠ [])).symm⟩
  have found : line.getLast? = some c := by simp [ends]
  have space : c ≠ ' ' := by
    rintro rfl
    exact absurd (text.filled ' ' found) (by decide)
  have sign : c ≠ '#' := last c found
  have kept : ∀ d, c ≠ d → dropEndWhile (· == d) line = line := by
    intro d other
    simp [dropEndWhile, ends, other]
  have reversed : line.reverse = c :: before.reverse := by simp [ends]
  rw [headingSize, inside, kept ' ' space, kept '#' sign, reversed]
  split
  next same => cases same
  next same => exact absurd (List.cons.inj same).1 space
  · rfl

theorem readHeading_line (text : IsLine line) (last : ∀ c ∈ line.getLast?, c ≠ '#') (offset : Nat) (rest : Text) :
    readHeading [] ⟨offset, line ++ '\n' :: rest⟩ =
      (⟨lineTokens rest offset [line], offset + line.length + 1, [], false⟩,
        ⟨offset + line.length + 1, rest⟩) := by
  obtain ⟨lineBreak, next, reaches⟩ := tokenLine_end text.common text.filled offset rest
  have size := headingSize_line text last rest
  have tokens : lastTokens (tokenLine false 0 ⟨offset, line ++ '\n' :: rest⟩) =
      (tokenLine false 0 ⟨offset, line ++ '\n' :: rest⟩).tokens := by
    rw [lastTokens, lineBreak]
    rfl
  rw [readHeading, tokens]
  dsimp only
  rw [size, next, lineTokens, tokensAt]
  generalize (tokenLine false 0 ⟨offset, line ++ '\n' :: rest⟩).tokens = found at *
  cases found with
  | nil => rfl
  | cons t before =>
    have whole : offset + line.length - t.start = t.size := by
      rw [← reaches t rfl, Token.stop, Token.start, Nat.add_sub_cancel_left]
    dsimp only
    rw [whole]

theorem readBlock_marked (text : IsLine line) (last : ∀ c ∈ line.getLast?, c ≠ '#') (limit offset : Nat)
    (blocks : List Block) (gap : Bool) (definitions : List Definition) :
    (Outline.between blocks gap definitions).readBlock limit ⟨offset, '#' :: ' ' :: (line ++ '\n' :: rest)⟩ =
      (Outline.between ((ParagraphEnd.underline 1).block ⟨offset, offset + (line.length + 3)⟩
          ⟨lineTokens rest (offset + 2) [line], offset + (line.length + 3), [], false⟩ :: blocks) false
            definitions,
        ⟨offset + (line.length + 3), rest⟩) := by
  obtain ⟨c, more, begins, initial⟩ := text.begins
  have nothing : OpensNothing ('#' :: ' ' :: (line ++ '\n' :: rest)) :=
    ⟨noteLabel_cons (by decide), isRule_cons (by decide), listMarker_cons rfl (by decide), by simp⟩
  have skip := @skip_filled ⟨offset, '#' :: ' ' :: (line ++ '\n' :: rest)⟩ (by simp) 3
  have place : (Cursor.start ⟨offset, '#' :: ' ' :: (line ++ '\n' :: rest)⟩).place =
      ⟨offset, '#' :: ' ' :: (line ++ '\n' :: rest)⟩ := rfl
  have level : headingLevel? ('#' :: ' ' :: (line ++ '\n' :: rest)) = some 1 := by
    simp [headingLevel?, isSpacing, isGap]
  have named : Place.advance 1 ⟨offset, '#' :: ' ' :: (line ++ '\n' :: rest)⟩ =
      ⟨offset + 1, ' ' :: (line ++ '\n' :: rest)⟩ := rfl
  have size : gapSize (' ' :: (line ++ '\n' :: rest)) = 1 := by
    have space : isGap ' ' = true := rfl
    simp [gapSize, begins, space, isGap_start (isStart_of_isInitial initial)]
  have next : Place.advance 1 ⟨offset + 1, ' ' :: (line ++ '\n' :: rest)⟩ =
      ⟨offset + 2, line ++ '\n' :: rest⟩ := rfl
  have read := readHeading_line text last (offset + 2) rest
  have width : offset + 2 + line.length + 1 = offset + (line.length + 3) := by omega
  rw [width] at read
  have containers : (Outline.between blocks false definitions).containers = [] := rfl
  rw [readBlock_leaf nothing (blankSize_cons rfl rfl), Outline.readLeaf]
  simp only [skip, place, isRule_cons (c := '#') (by decide), level, named, size, next, containers, read,
    Nat.sub_self]
  rfl

end Marked

/-! ## Underlined titles -/

theorem EndsText.underline (signs : Nat) (rest : Text) :
    EndsText (Titling.underline signs ++ '\n' :: rest) (.underline 1) (signs + 2) := by
  have begins : Titling.underline signs ++ '\n' :: rest = '=' :: (List.replicate signs '=' ++ '\n' :: rest) := rfl
  have after : (List.replicate signs '=' ++ '\n' :: rest).drop signs = '\n' :: rest := by
    rw [List.drop_append_of_le_length (by simp)]
    simp
  have blank : blankSize? ('\n' :: rest) = some 1 := rfl
  rw [begins]
  refine ⟨by simp, delimiterRow_cons rfl (by decide), .inr ⟨1, ?_, rfl⟩⟩
  simp [underline?, after, blank]

/-! ## Titles -/

namespace Titling

variable {labels : List Text} {rest : Text} {title : Titling}

theorem isRead_marked {line : Prose} (text : line.isLine labels = true)
    (last : ∀ c ∈ line.source.getLast?, c ≠ '#') : (marked line).stretch.IsRead labels rest := by
  have source : (marked line).source = '#' :: ' ' :: (line.source ++ ['\n']) := by
    rw [Titling.source, linesSource_cons]
    rfl
  have width : (marked line).source.length = line.source.length + 3 := by simp [source]
  have whole : (marked line).stretch.source ++ rest = '#' :: ' ' :: (line.source ++ '\n' :: rest) := by
    simp [stretch, Stretch.unlabelled, source]
  refine .single (by simp [stretch, Stretch.unlabelled, source]) fun limit offset blocks gap definitions _ _ => ?_
  have read := @readBlock_marked line.source rest (Prose.isLine_source text) last limit offset blocks gap
    definitions
  rw [← width, ← whole] at read
  refine ⟨[_], false, read, fun targets covers => ?_⟩
  have lined : ∀ prose ∈ [line], prose.isLine labels = true := by simpa using text
  refine ofBlocks_lines covers lined (.underline 1) _ rest (offset + 2) _ ?_
  simp only [List.map_cons, List.map_nil, linesSource_cons, linesSource_nil, List.length_append,
    List.length_cons, List.length_nil, width]
  omega

theorem isRead_underlined {first : Prose} {more : List Prose} (signs : Nat)
    (lined : ∀ line ∈ first :: more, line.isLine labels = true) :
    (underlined first more signs).stretch.IsRead labels rest := by
  have source : (underlined first more signs).source =
      linesSource ((first :: more).map Prose.source) ++ (underline signs ++ ['\n']) := rfl
  have width : (underlined first more signs).source.length =
      (linesSource ((first :: more).map Prose.source)).length + (signs + 2) := by
    simp [source, underline]
  have whole : (underlined first more signs).stretch.source ++ rest =
      linesSource ((first :: more).map Prose.source) ++ (underline signs ++ '\n' :: rest) := by
    simp [stretch, Stretch.unlabelled, source]
  have after : (underline signs ++ '\n' :: rest).drop (signs + 2) = rest := by
    have split : underline signs ++ '\n' :: rest = (underline signs ++ ['\n']) ++ rest := List.append_cons ..
    rw [split, List.drop_left' (by simp [underline])]
  refine .single (by simp [stretch, Stretch.unlabelled, source, underline]) ?_
  intro limit offset blocks gap definitions enough _
  have short := length_linesSource ((first :: more).map Prose.source)
  have read := readBlock_lines (isLine_of_mem_sources lined) (by simp) (.underline signs rest) limit offset
    (by simp only [stretch, Stretch.unlabelled, width] at enough; omega) blocks gap definitions
  rw [Nat.add_assoc, ← width, after, ← whole] at read
  refine ⟨[_], false, read, fun targets covers => ?_⟩
  refine ofBlocks_lines covers lined (.underline 1) _ (underline signs ++ '\n' :: rest) offset _ ?_
  rw [width]
  omega

/-- A title is read by itself. -/
theorem isRead_stretch (proper : title.isProper labels = true) : title.stretch.IsRead labels rest := by
  simp only [isProper, Bool.and_eq_true, List.all_eq_true] at proper
  obtain ⟨⟨lined, -⟩, unmarked⟩ := proper
  cases title with
  | marked line =>
    refine isRead_marked (lined line (List.mem_singleton_self line)) ?_
    rintro c found rfl
    simp [isMarked, texts, Option.mem_def.mp found] at unmarked
  | underlined first more signs => exact isRead_underlined signs lined

end Titling

end DocSite.Markdown
