/-
# DocSite.Proofs.Page.Extraction -- which text is front matter, and which is the page

What `extract` answers is said here by where lines stand in a text and by what a line is, not by how the text is
read (`Extracts`): behind white space the first line is a fence or not; if it is, there is a later fence or
none; and what stands between the first two fences is the mapping. The answer for every text is the one that is
described (`extract_eq_iff`), since the block that the reader finds and the lines that stand in a text decide
each other (`FencedBlock.Begins.enclosed`, `Enclosed.exists_begins`).
-/
import DocSite.Proofs.Page.Fences

set_option autoImplicit false

namespace DocSite.Page

open Text
open FrontMatter (Error fence isFence firstLine afterFence? splitAtFence? extractWith ofBlock)

/-! ## What is to be extracted -/

/-- Whether a line is three dashes and white space. -/
def Fence (line : Text) : Prop := ∃ white, blank white = true ∧ line = ['-', '-', '-'] ++ white

/-- What a block declares: nothing, if it is blank or null, or its mapping; no other value and no text that is
not read as a value. -/
inductive Declares (codec : Codec) (text : Text) : Except Error FrontMatter → Prop
  | blank (empty : blank text = true) : Declares codec text (.ok ⟨[]⟩)
  | null (filled : Text.blank text = false) (read : codec.read? text = some .null) :
      Declares codec text (.ok ⟨[]⟩)
  | mapping {entries : Yaml.Entries} (filled : Text.blank text = false)
      (read : codec.read? text = some (.mapping entries)) : Declares codec text (.ok ⟨entries⟩)
  | other {value : Yaml.Value} (filled : Text.blank text = false) (read : codec.read? text = some value)
      (some_value : value ≠ .null) (no_mapping : ∀ entries, value ≠ .mapping entries) :
      Declares codec text (.error .notMapping)
  | invalid (filled : Text.blank text = false) (read : codec.read? text = none) :
      Declares codec text (.error .invalid)

/-- Whether a text is what is left of another one without the line breaks that it begins with. -/
structure WithoutBreaks (text left : Text) : Prop where
  whole : ∃ breaks, (∀ c ∈ breaks, c = '\r' ∨ c = '\n') ∧ text = breaks ++ left
  first : ∀ c rest, left = c :: rest → c ≠ '\r' ∧ c ≠ '\n'

/-- Whether the first line of a text is a fence, and the first later line that is a fence too stands after what
is inside and before what is after it. -/
structure Enclosed (opening inside closing after text : Text) : Prop where
  opens : IsLine [] opening ('\n' :: (inside ++ (closing ++ after))) text
  opening_fence : Fence opening
  closes : IsLine (opening ++ '\n' :: inside) closing after text
  closing_fence : Fence closing
  earliest : ∀ before line rest, IsLine before line rest text → before ≠ [] →
    before.length < (opening ++ '\n' :: inside).length → ¬ Fence line

/-- What is extracted from a source, of which white space at the beginning does not count: nothing, if the first
line is not a fence; an error, if it is and no later line is; and otherwise what is declared between the first
two fences, with what follows them. -/
inductive Extracts (codec : Codec) (source : Text) : Except Error (FrontMatter × Text) → Prop
  | plain {first after : Text} (here : IsLine [] first after (trimStart source)) (bare : ¬ Fence first) :
      Extracts codec source (.ok (⟨[]⟩, source))
  | unclosed {first after : Text} (here : IsLine [] first after (trimStart source)) (opens : Fence first)
      (alone : ∀ before line rest, IsLine before line rest (trimStart source) → before ≠ [] → ¬ Fence line) :
      Extracts codec source (.error .unclosed)
  | closed {opening inside closing after body : Text} {declared : Except Error FrontMatter}
      (enclosed : Enclosed opening inside closing after (trimStart source))
      (declares : Declares codec inside declared) (left : WithoutBreaks after body) :
      Extracts codec source (declared.map fun fm => (fm, body))

variable {codec : Codec} {block : FencedBlock}
  {source text rest more line opening inside closing before after body : Text}

/-! ## Fences, values and line breaks -/

theorem isFence_iff_fence : isFence line = true ↔ Fence line := isFence_iff

theorem isFence_of_kept {kept : Text} (same : kept = line ∨ kept = line ++ ['\n']) :
    isFence kept = isFence line := by
  rcases same with rfl | rfl
  · rfl
  · exact isFence_append_blank (by decide)

theorem Fence.filled (isFence : Fence line) : line ≠ [] := by
  obtain ⟨white, -, rfl⟩ := isFence
  simp

/-- A line that begins with white space is no fence. -/
theorem not_fence_indented {c : Char} (white : isBlank c = true) (line : Text) : ¬ Fence (c :: line) := by
  rintro ⟨rest, -, same⟩
  obtain ⟨rfl, -⟩ := List.cons.inj same
  exact absurd white (by decide)

/-- White space at the end of a line does not matter. -/
theorem fence_append_blank {white : Text} (empty : blank white = true) : Fence (line ++ white) ↔ Fence line := by
  rw [← isFence_iff_fence, ← isFence_iff_fence, isFence_append_blank empty]

theorem declares_ofBlock (codec : Codec) (text : Text) : Declares codec text (ofBlock codec text) := by
  unfold ofBlock
  split
  next empty => exact .blank empty
  next filled =>
    rw [Bool.not_eq_true] at filled
    split
    next entries read => exact .mapping filled read
    next read => exact .null filled read
    next value no_mapping some_value read =>
      refine .other filled read ?_ ?_
      · rintro rfl
        exact some_value rfl
      · rintro entries rfl
        exact no_mapping entries rfl
    next read => exact .invalid filled read

theorem Declares.eq {declared : Except Error FrontMatter} (declares : Declares codec text declared) :
    ofBlock codec text = declared := by
  unfold ofBlock
  cases declares with
  | blank empty => rw [if_pos empty]; rfl
  | null filled read => rw [if_neg (by simp [filled]), read]; rfl
  | mapping filled read => rw [if_neg (by simp [filled]), read]
  | @other value filled read some_value no_mapping =>
    rw [if_neg (by simp [filled]), read]
    cases value with
    | null => exact absurd rfl some_value
    | mapping entries => exact absurd rfl (no_mapping entries)
    | _ => rfl
  | invalid filled read => rw [if_neg (by simp [filled]), read]

theorem withoutBreaks_dropBreaks (text : Text) : WithoutBreaks text (dropBreaks text) where
  whole := by
    refine ⟨text.takeWhile fun c => c == '\r' || c == '\n', ?_, List.takeWhile_append_dropWhile.symm⟩
    intro c member
    simpa using List.mem_takeWhile_imp member
  first := by
    intro c rest same
    have kept := List.head?_dropWhile_not (fun c => c == '\r' || c == '\n') text
    rw [← dropBreaks, same] at kept
    simpa using kept

theorem WithoutBreaks.eq (left : WithoutBreaks text body) : dropBreaks text = body := by
  obtain ⟨breaks, all_breaks, rfl⟩ := left.whole
  have dropped : ∀ c ∈ breaks, (c == '\r' || c == '\n') = true := by
    intro c member
    simpa using all_breaks c member
  rw [dropBreaks, List.dropWhile_append_of_pos dropped]
  cases body with
  | nil => rfl
  | cons c rest =>
    have kept := left.first c rest rfl
    rw [List.dropWhile_cons_of_neg (by simpa using kept)]

/-! ## The first line -/

theorem firstLine_of_isLine (here : IsLine [] line after text) : firstLine text = (line, after.tail) := by
  have whole : text = line ++ after := here.whole
  cases after with
  | nil =>
    rw [whole, List.append_nil]
    exact firstLine_last here.free
  | cons c rest =>
    obtain rfl : c = '\n' := by simpa using here.ends
    rw [whole]
    exact firstLine_line here.free rest

theorem afterFence_of_isLine (here : IsLine [] line after text) :
    afterFence? text = if isFence line then some after.tail else none := by
  rw [afterFence?, firstLine_of_isLine here]

/-! ## The fences of a block -/

theorem splitAtFence_eq_none {lines : List Text} (missing : splitAtFence? lines = none) :
    ∀ line ∈ lines, isFence line = false := by
  intro line member
  by_contra closes
  rw [Bool.not_eq_false] at closes
  obtain ⟨before, later, rfl⟩ := List.append_of_mem member
  induction before with
  | nil => simp [splitAtFence?, closes] at missing
  | cons first before ih =>
    by_cases opens : isFence first = true
    · simp [splitAtFence?, opens] at missing
    · have shorter : splitAtFence? (before ++ line :: later) = none := by
        simpa [splitAtFence?, opens] using missing
      exact ih shorter (List.mem_append_right _ (List.mem_cons_self ..))

namespace FencedBlock.Begins

/-- The lines of a block stand in the text that begins with it. -/
theorem enclosed (begins : block.Begins rest text) :
    Enclosed block.opening block.inside block.closing rest text where
  opens := {
    whole := by
      rw [begins.whole, FencedBlock.text]
      simp
    free := block.opening_line
    begins := .inl rfl
    ends := .inr rfl }
  opening_fence := isFence_iff_fence.mp block.opens
  closes := {
    whole := by
      rw [begins.whole, FencedBlock.text]
      simp
    free := block.closing_line
    begins := by
      right
      exact getLast_feed.mpr block.ended
    ends := by
      rcases begins.apart with none | ⟨after, rfl⟩
      · exact .inl none
      · exact .inr rfl }
  closing_fence := isFence_iff_fence.mp block.closes
  earliest := by
    intro before line after here later earlier found
    have whole : text = block.opening ++ '\n' :: (block.inside ++ (block.closing ++ rest)) := by
      rw [begins.whole, FencedBlock.text]
      simp
    rw [whole] at here
    obtain ⟨more, same, inner⟩ := here.after_first block.opening_line later
    have shorter : more.length < block.inside.length := by
      rw [same, List.length_append, List.length_append, List.length_cons, List.length_cons] at earlier
      omega
    obtain ⟨tail, own⟩ := inner.within block.ended shorter
    obtain ⟨kept, line_kept, lines⟩ := own.exists_kept found.filled
    have open_line := block.open_lines kept (by rw [lines]; simp)
    rw [isFence_of_kept line_kept, isFence_iff_fence.mpr found] at open_line
    cases open_line

/-- White space before a block does not matter. -/
theorem extract_trimmed (begins : block.Begins rest (Text.trimStart source)) (codec : Codec) :
    extractWith codec source = (ofBlock codec block.inside).map fun fm => (fm, dropBreaks rest) := by
  rw [extractWith, begins.afterFence]
  simp only [begins.splitAtFence, begins.dropBreaks_tail]

end FencedBlock.Begins

/-- A text in which two fences stand begins with a block. -/
theorem Enclosed.exists_begins (enclosed : Enclosed opening inside closing after text) :
    ∃ block : FencedBlock, block.Begins after text ∧ block.inside = inside := by
  have ended : inside = [] ∨ inside.getLast? = some '\n' := by
    rcases enclosed.closes.begins with none | feed
    · simp at none
    · exact getLast_feed.mp feed
  have whole : text = opening ++ '\n' :: (inside ++ (closing ++ after)) := enclosed.opens.whole
  have open_lines : ∀ kept ∈ linesKept inside, isFence kept = false := by
    intro kept member
    by_contra found
    rw [Bool.not_eq_false] at found
    have feed : inside.getLast? = some '\n' := by
      rcases ended with rfl | feed
      · cases member
      · exact feed
    obtain ⟨earlier, later, cut⟩ := List.append_of_mem member
    obtain ⟨line, rfl, own⟩ := exists_isLine cut feed
    have here := own.behind opening (closing ++ after)
    rw [← whole] at here
    refine enclosed.earliest _ line _ here (by simp) ?_ ?_
    · have length := congrArg List.length own.whole
      simp only [List.length_append, List.length_cons] at length ⊢
      omega
    · rw [← isFence_iff_fence, ← isFence_of_kept (.inr rfl)]
      exact found
  refine ⟨{
    opening, inside, closing, ended, open_lines
    opens := isFence_iff_fence.mpr enclosed.opening_fence
    opening_line := enclosed.opens.free
    closes := isFence_iff_fence.mpr enclosed.closing_fence
    closing_line := enclosed.closes.free }, ⟨?_, ?_⟩, rfl⟩
  · subst whole
    simp [FencedBlock.text]
  · rcases enclosed.closes.ends with none | feed
    · exact .inl none
    · cases after with
      | nil => cases feed
      | cons c rest =>
        obtain rfl : c = '\n' := by simpa using feed
        exact .inr ⟨rest, rfl⟩

/-! ## What is extracted -/

/-- A fence stands after the opening fence of a text just if one is read of what follows it. -/
theorem later_fence_iff (here : IsLine [] opening after text) (opens : isFence opening = true) :
    (∃ before line rest, IsLine before line rest text ∧ before ≠ [] ∧ Fence line) ↔
      splitAtFence? (linesKept after.tail) ≠ none := by
  constructor
  · rintro ⟨before, line, rest, later, behind, found⟩ missing
    have whole : text = opening ++ after := here.whole
    cases after with
    | nil =>
      rw [later.whole, List.append_nil] at whole
      apply here.free
      rw [← whole]
      exact List.mem_append_left _ (later.feed_mem behind)
    | cons c after =>
      obtain rfl : c = '\n' := by simpa using here.ends
      rw [whole] at later
      obtain ⟨more, -, inner⟩ := later.after_first here.free behind
      obtain ⟨kept, same, lines⟩ := inner.exists_kept found.filled
      have no_fence := splitAtFence_eq_none missing kept (by rw [List.tail_cons, lines]; simp)
      rw [isFence_of_kept same, isFence_iff_fence.mpr found] at no_fence
      cases no_fence
  · intro closed
    obtain ⟨⟨inside, rest⟩, closed⟩ := Option.ne_none_iff_exists'.mp closed
    have opened := afterFence_of_isLine here
    rw [if_pos opens] at opened
    obtain ⟨block, more, begins, -⟩ := exists_begins opened closed
    exact ⟨_, block.closing, more, begins.enclosed.closes, by simp, begins.enclosed.closing_fence⟩

theorem extracts_extractWith (codec : Codec) (source : Text) :
    Extracts codec source (extractWith codec source) := by
  obtain ⟨first, after, here⟩ := exists_first_line (trimStart source)
  have opened := afterFence_of_isLine here
  by_cases opens : isFence first = true
  · rw [if_pos opens] at opened
    cases closed : splitAtFence? (linesKept after.tail) with
    | none =>
      have answer : extractWith codec source = .error .unclosed := by simp only [extractWith, opened, closed]
      rw [answer]
      apply Extracts.unclosed here (isFence_iff_fence.mp opens)
      intro before line rest later behind found
      exact (later_fence_iff here opens).mp ⟨before, line, rest, later, behind, found⟩ closed
    | some pair =>
      obtain ⟨inside, rest⟩ := pair
      obtain ⟨block, more, begins, same, -⟩ := exists_begins opened closed
      rw [begins.extract_trimmed]
      exact .closed begins.enclosed (declares_ofBlock codec block.inside) (withoutBreaks_dropBreaks more)
  · rw [if_neg opens] at opened
    have answer : extractWith codec source = .ok (.empty, source) := by simp only [extractWith, opened]
    rw [answer]
    apply Extracts.plain here
    rwa [← isFence_iff_fence]

theorem Extracts.eq {result : Except Error (FrontMatter × Text)} (extracts : Extracts codec source result) :
    extractWith codec source = result := by
  cases extracts with
  | plain here bare =>
    rw [← isFence_iff_fence] at bare
    have opened := afterFence_of_isLine here
    rw [if_neg bare] at opened
    simp only [extractWith, opened]
    rfl
  | @unclosed first after here opens alone =>
    have opened := afterFence_of_isLine here
    rw [if_pos (isFence_iff_fence.mpr opens)] at opened
    have missing : splitAtFence? (linesKept after.tail) = none := by
      by_contra closed
      obtain ⟨before, line, rest, later, behind, found⟩ :=
        (later_fence_iff here (isFence_iff_fence.mpr opens)).mpr closed
      exact alone before line rest later behind found
    simp only [extractWith, opened, missing]
  | closed enclosed declares left =>
    obtain ⟨block, begins, rfl⟩ := enclosed.exists_begins
    rw [begins.extract_trimmed, declares.eq, left.eq]

/-- The answer for a source is what is to be extracted from it. White space after the dashes of a fence does not
matter, a carriage return before the line feed is such white space, and a line that begins with white space
is no fence. -/
theorem extract_eq_iff :
    (∀ source result, FrontMatter.extract source = result ↔ Extracts .yaml source result) ∧
      (∀ line, Fence (line ++ ['\r']) ↔ Fence line) ∧
      ∀ c line, isBlank c = true → ¬ Fence (c :: line) := by
  refine ⟨?_, ?_, ?_⟩
  · intro source result
    constructor
    · rintro rfl
      exact extracts_extractWith .yaml source
    · intro extracts
      exact extracts.eq
  · intro line
    exact fence_append_blank (by decide)
  · intro c line white
    exact not_fence_indented white line

end DocSite.Page
