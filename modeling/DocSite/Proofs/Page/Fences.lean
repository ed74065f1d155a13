/-
# DocSite.Proofs.Page.Fences -- blocks between fences

A block of front matter is a fence, lines that are none, and a fence again (`FencedBlock`). A text that
begins with a block is read as just this: the mapping is what the block has inside, and the page is what
follows the block, without the line breaks it begins with (`FencedBlock.Begins.extract`). Conversely
whatever the reader finds are the fences of such a block (`exists_begins`), and no text begins with two
blocks of different lengths (`FencedBlock.Begins.unique`).
-/
import DocSite.Page.FrontMatter
import DocSite.Proofs.Text.Lines
import DocSite.Proofs.Text.Phrases

set_option autoImplicit false

namespace DocSite.Page

open Text
open FrontMatter (fence isFence firstLine afterFence? splitAtFence? extractWith ofBlock)

/-- A block of front matter: a fence, lines that are no fences, and a fence. White space may follow the
dashes of a fence on its line. -/
structure FencedBlock where
  opening : Text
  inside : Text
  closing : Text
  opens : isFence opening = true
  opening_line : '\n' ∉ opening
  ended : inside = [] ∨ inside.getLast? = some '\n'
  open_lines : ∀ line ∈ linesKept inside, isFence line = false
  closes : isFence closing = true
  closing_line : '\n' ∉ closing

/-- How a block is written; there is no line feed after its last line. -/
def FencedBlock.text (block : FencedBlock) : Text :=
  block.opening ++ '\n' :: (block.inside ++ block.closing)

/-- A text begins with a block if what follows the block is not on its last line. -/
structure FencedBlock.Begins (block : FencedBlock) (rest text : Text) : Prop where
  whole : text = block.text ++ rest
  apart : rest = [] ∨ ∃ after, rest = '\n' :: after

variable {codec : Codec} {block other : FencedBlock} {text rest more line opening inside after white : Text}

/-! ## Fences -/

theorem isFence_fence : isFence fence = true := rfl

theorem fence_line : '\n' ∉ fence := by decide

theorem isFence_iff : isFence line = true ↔ ∃ white, blank white = true ∧ line = fence ++ white := by
  rw [isFence, beq_iff_eq]
  constructor
  · intro dashes
    obtain ⟨white, empty, whole⟩ := eq_trimEnd_append line
    exact ⟨white, empty, by rw [← dashes, ← whole]⟩
  · rintro ⟨white, empty, rfl⟩
    rw [trimEnd_append_blank empty]
    rfl

theorem isFence_append_blank (empty : blank white = true) : isFence (line ++ white) = isFence line := by
  rw [isFence, isFence, trimEnd_append_blank empty]

theorem firstLine_line (free : '\n' ∉ line) (rest : Text) :
    firstLine (line ++ '\n' :: rest) = (line, rest) := by
  rw [firstLine, takeWhile_mark free]
  simp

theorem firstLine_last (free : '\n' ∉ line) : firstLine line = (line, []) := by
  have whole := takeWhile_free free []
  rw [List.append_nil, List.takeWhile_nil, List.append_nil] at whole
  rw [firstLine, whole]
  simp

/-- A text whose first line is a fence goes on after this line. -/
theorem afterFence_opening (opens : isFence opening = true) (free : '\n' ∉ opening) (rest : Text) :
    afterFence? (opening ++ '\n' :: rest) = some rest := by
  rw [afterFence?, firstLine_line free]
  exact if_pos opens

theorem exists_opening (found : afterFence? text = some rest) :
    ∃ opening, isFence opening = true ∧ '\n' ∉ opening ∧
      (text = opening ++ '\n' :: rest ∨ text = opening ∧ rest = []) := by
  by_cases feed : '\n' ∈ text
  · obtain ⟨opening, later, rfl, free⟩ := List.eq_append_cons_of_mem feed
    rw [afterFence?, firstLine_line free, Option.ite_none_right_eq_some] at found
    obtain ⟨opens, same⟩ := found
    obtain rfl : later = rest := by simpa using same
    exact ⟨opening, opens, free, .inl rfl⟩
  · rw [afterFence?, firstLine_last feed, Option.ite_none_right_eq_some] at found
    obtain ⟨opens, same⟩ := found
    obtain rfl : [] = rest := by simpa using same
    exact ⟨text, opens, feed, .inr ⟨rfl, rfl⟩⟩

/-- A text that begins with another character than a dash does not begin with a fence. -/
theorem afterFence_of_ne {c : Char} (other : c ≠ '-') : afterFence? (c :: text) = none := by
  by_contra found
  obtain ⟨rest, found⟩ := Option.ne_none_iff_exists'.mp found
  obtain ⟨opening, opens, -, whole⟩ := exists_opening found
  obtain ⟨white, -, rfl⟩ := isFence_iff.mp opens
  rcases whole with whole | ⟨whole, -⟩ <;> exact other (List.cons.inj whole).1

/-- The first line that is a fence is found, and lines that are none stand before it. -/
theorem splitAtFence_lines {lines later : List Text} (open_lines : ∀ other ∈ lines, isFence other = false)
    (closes : isFence line = true) :
    splitAtFence? (lines ++ line :: later) = some (lines.flatten, later.flatten) := by
  induction lines with
  | nil => simp [splitAtFence?, closes]
  | cons first lines ih =>
    have opened := open_lines first (List.mem_cons_self ..)
    have rest := ih fun other member => open_lines other (List.mem_cons_of_mem _ member)
    simp [splitAtFence?, opened, rest]

theorem exists_closing {lines : List Text} (found : splitAtFence? lines = some (inside, after)) :
    ∃ earlier line later, lines = earlier ++ line :: later ∧
      (∀ other ∈ earlier, isFence other = false) ∧ isFence line = true ∧
      inside = earlier.flatten ∧ after = later.flatten := by
  induction lines generalizing inside with
  | nil => cases found
  | cons first lines ih =>
    cases closes : isFence first with
    | true =>
      rw [splitAtFence?, if_pos closes] at found
      cases found
      exact ⟨[], first, lines, rfl, by simp, closes, rfl, rfl⟩
    | false =>
      rw [splitAtFence?, if_neg (by simp [closes]), Option.map_eq_some_iff] at found
      obtain ⟨⟨more, _⟩, deeper, same⟩ := found
      cases same
      obtain ⟨earlier, line, later, rfl, open_lines, closed, rfl, rfl⟩ := ih deeper
      exact ⟨first :: earlier, line, later, rfl, by simpa [closes] using open_lines, closed, rfl, rfl⟩

/-! ## Texts that begin with a block -/

/-- A fence begins with a dash. -/
theorem FencedBlock.exists_text (block : FencedBlock) : ∃ more, block.text = '-' :: more := by
  obtain ⟨white, -, opening⟩ := isFence_iff.mp block.opens
  rw [FencedBlock.text, opening]
  exact ⟨_, rfl⟩

namespace FencedBlock.Begins

theorem afterFence (begins : block.Begins rest text) :
    afterFence? text = some (block.inside ++ (block.closing ++ rest)) := by
  have whole : text = block.opening ++ '\n' :: (block.inside ++ (block.closing ++ rest)) := by
    rw [begins.whole, FencedBlock.text]
    simp
  rw [whole, afterFence_opening block.opens block.opening_line]

/-- The line that closes a block ends where the block ends, or at the line feed behind it. -/
theorem linesKept_closing (begins : block.Begins rest text) :
    ∃ line, isFence line = true ∧ linesKept (block.closing ++ rest) = line :: linesKept rest.tail := by
  rcases begins.apart with rfl | ⟨after, rfl⟩
  · have filled : block.closing ≠ [] := by
      intro none
      have closes := block.closes
      rw [none] at closes
      cases closes
    refine ⟨block.closing, block.closes, ?_⟩
    rw [List.append_nil, linesKept_last block.closing_line filled]
    rfl
  · refine ⟨block.closing ++ ['\n'], ?_, linesKept_line block.closing_line after⟩
    rw [isFence_append_blank (by decide)]
    exact block.closes

theorem splitAtFence (begins : block.Begins rest text) :
    splitAtFence? (linesKept (block.inside ++ (block.closing ++ rest))) = some (block.inside, rest.tail) := by
  obtain ⟨line, closes, last⟩ := begins.linesKept_closing
  have lines : linesKept (block.inside ++ (block.closing ++ rest)) =
      linesKept block.inside ++ linesKept (block.closing ++ rest) := by
    rcases block.ended with none | feed
    · rw [none]
      rfl
    · exact linesKept_append feed
  rw [lines, last, splitAtFence_lines block.open_lines closes, flatten_linesKept, flatten_linesKept]

/-- The line feed between a block and the text after it is no part of the page. -/
theorem dropBreaks_tail (begins : block.Begins rest text) : dropBreaks rest.tail = dropBreaks rest := by
  rcases begins.apart with rfl | ⟨after, rfl⟩
  · rfl
  · simp [dropBreaks]

theorem trimStart (begins : block.Begins rest text) : Text.trimStart text = text := by
  obtain ⟨more, dash⟩ := block.exists_text
  rw [begins.whole, dash, List.cons_append, trimStart_cons (by decide)]

/-- The front matter of a text that begins with a block is what the block has inside. -/
theorem extract (begins : block.Begins rest text) (codec : Codec) :
    extractWith codec text = (ofBlock codec block.inside).map fun fm => (fm, dropBreaks rest) := by
  rw [extractWith, begins.trimStart, begins.afterFence]
  simp only [begins.splitAtFence, begins.dropBreaks_tail]

/-- Where the block ends that a text begins with is settled. -/
theorem unique (begins : block.Begins rest text) (begins' : other.Begins more text) :
    block.inside = other.inside ∧ rest.tail = more.tail := by
  have after := Option.some.inj (begins.afterFence.symm.trans begins'.afterFence)
  have found := begins.splitAtFence
  rw [after, begins'.splitAtFence] at found
  obtain ⟨inside, later⟩ := Prod.mk.inj (Option.some.inj found)
  exact ⟨inside.symm, later.symm⟩

end FencedBlock.Begins

/-- What the reader finds are the fences of a block. -/
theorem exists_begins (opened : afterFence? text = some rest)
    (closed : splitAtFence? (linesKept rest) = some (inside, after)) :
    ∃ block more, FencedBlock.Begins block more text ∧ block.inside = inside ∧ more.tail = after := by
  obtain ⟨earlier, line, later, cut, open_lines, closes, rfl, rfl⟩ := exists_closing closed
  obtain ⟨opening, opens, free, whole⟩ := exists_opening opened
  have rest_eq : rest = earlier.flatten ++ (line ++ later.flatten) := by
    rw [← flatten_linesKept rest, cut]
    simp
  obtain ⟨kept, ended, ending⟩ := linesKept_eq_append cut
  have text_eq : text = opening ++ '\n' :: rest := by
    rcases whole with whole | ⟨-, rfl⟩
    · exact whole
    · cases earlier <;> cases cut
  rw [← kept] at open_lines
  rcases ending with ⟨start, start_line, rfl⟩ | ⟨last, rfl⟩
  · rw [isFence_append_blank (by decide)] at closes
    refine ⟨⟨opening, earlier.flatten, start, opens, free, ended, open_lines, closes, start_line⟩,
      '\n' :: later.flatten, ⟨?_, .inr ⟨_, rfl⟩⟩, rfl, rfl⟩
    rw [text_eq, rest_eq, FencedBlock.text]
    simp
  · refine ⟨⟨opening, earlier.flatten, line, opens, free, ended, open_lines, closes, last⟩, [],
      ⟨?_, .inl rfl⟩, rfl, rfl⟩
    rw [text_eq, rest_eq, FencedBlock.text]
    simp

end DocSite.Page
