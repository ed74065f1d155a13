/-
# DocSite.Proofs.Text.Slugs -- slugs of texts that are put together

The runs of characters with a lower case lead to characters that are in none of them (`runs_lead_out`), so that lower
case stays as it is (`lowerChar_of_mem`). A character is put into lower case alone, but for a capital sigma, which looks
for letters around it; it does not look past a separator (`toLower_separator`). So the words of a slug are those of the
texts on both sides of a separator (`slugWords_separator`), and a slug is made of the same words again
(`slugWords_slug`).
-/
import DocSite.Proofs.Path.Parts
import DocSite.Proofs.Text.Ink
import DocSite.Text.Slug

set_option autoImplicit false

namespace DocSite.Text

variable {c d : Char} {x y text before : Text} {words : List Text}

/-! ## Characters in lower case -/

namespace CaseRun

variable {run other : CaseRun} {runs : Array CaseRun} {n m : Nat}

/-- Whether a character is in a run. -/
def Holds (run : CaseRun) (n : Nat) : Prop :=
  run.first ≤ n ∧ n ≤ run.last ∧ (n - run.first) % run.step = 0

instance (run : CaseRun) (n : Nat) : Decidable (run.Holds n) :=
  inferInstanceAs (Decidable (_ ≤ _ ∧ _ ≤ _ ∧ _ = 0))

/-- The last character that a run leads to. -/
def lastTarget (run : CaseRun) : Nat := run.target + (run.last - run.first)

/-- Whether none of the characters that a run leads to is in another run: the two lie apart, or every other character
belongs to the other run, and the ones between to this one. -/
def misses (run other : CaseRun) : Bool :=
  Nat.blt other.last run.target || Nat.blt run.lastTarget other.first ||
    (other.step == 2 && (run.step == 2 || run.first == run.last) && (run.target + other.first) % 2 == 1)

/-- Whether a run leads to characters. -/
def isScalar (run : CaseRun) : Bool :=
  Nat.blt run.lastTarget 55296 || (Nat.blt 57343 run.target && Nat.blt run.lastTarget 1114112)

theorem image_eq_some (found : image? runs n = some m) :
    ∃ run ∈ runs.toList, run.Holds n ∧ m = run.target + (n - run.first) := by
  obtain ⟨run, first, rfl⟩ := Option.map_eq_some_iff.mp found
  have holds := Array.find?_some first
  refine ⟨run, Array.mem_toList_iff.mpr (Array.mem_of_find?_eq_some first), ?_, rfl⟩
  simpa [Holds, and_assoc] using holds

theorem image_eq_none (away : ∀ run ∈ runs.toList, ¬run.Holds n) : image? runs n = none := by
  rw [image?, Option.map_eq_none_iff, Array.find?_eq_none]
  intro run member holds
  refine away run (Array.mem_toList_iff.mpr member) ?_
  simpa [Holds, and_assoc] using holds

theorem not_holds_of_misses (apart : run.misses other = true) (holds : run.Holds n) :
    ¬other.Holds (run.target + (n - run.first)) := by
  obtain ⟨start, stop, step⟩ := holds
  rintro ⟨start', stop', step'⟩
  simp only [misses, lastTarget, Bool.or_eq_true, Bool.and_eq_true, Nat.blt_eq, beq_iff_eq] at apart
  rcases apart with (below | above) | ⟨⟨two, single⟩, odd⟩
  · omega
  · omega
  · rw [two] at step'
    rcases single with two' | one
    · rw [two'] at step
      omega
    · omega

theorem toNat_of_isScalar (scalar : run.isScalar = true) (holds : run.Holds n) :
    (Char.ofNat (run.target + (n - run.first))).toNat = run.target + (n - run.first) := by
  obtain ⟨start, stop, -⟩ := holds
  simp only [isScalar, lastTarget, Bool.or_eq_true, Bool.and_eq_true, Nat.blt_eq] at scalar
  have valid : (run.target + (n - run.first)).isValidChar := by
    rcases scalar with low | ⟨high, bounded⟩
    · exact .inl (by omega)
    · exact .inr ⟨by omega, by omega⟩
  rw [Char.ofNat, dif_pos valid]
  rfl

end CaseRun

/-- The runs of characters that have a lower case. The capital letter with a dot, whose lower case is two characters,
is one by itself. -/
def cased : List CaseRun := ⟨304, 304, 1, 105⟩ :: (lowerRuns.toList ++ recentLowerRuns.toList)

/-- No run leads to a character that has a lower case. -/
theorem runs_lead_out :
    (cased.all fun run => run.isScalar && cased.all run.misses) = true := by decide +kernel

/-- Whether a character has no lower case but itself. -/
def Away (n : Nat) : Prop := ∀ run ∈ cased, ¬run.Holds n

instance (n : Nat) : Decidable (Away n) := inferInstanceAs (Decidable (∀ run ∈ cased, ¬run.Holds n))

theorem lowerChar_of_away (away : Away c.toNat) : lowerChar c = [c] := by
  have among {runs : Array CaseRun} (part : ∀ run ∈ runs.toList, run ∈ cased) :
      CaseRun.image? runs c.toNat = none :=
    CaseRun.image_eq_none fun run member => away run (part run member)
  have first : CaseRun.image? lowerRuns c.toNat = none := among fun run member => by simp [cased, member]
  have second : CaseRun.image? recentLowerRuns c.toNat = none := among fun run member => by simp [cased, member]
  have small : ¬(c.val ≥ 'A'.val ∧ c.val ≤ 'Z'.val) := by
    rintro ⟨start, stop⟩
    have capitals : ⟨65, 90, 1, 97⟩ ∈ lowerRuns.toList := List.mem_cons_self ..
    exact away ⟨65, 90, 1, 97⟩ (by simp [cased, capitals])
      ⟨UInt32.le_iff_toNat_le.mp start, UInt32.le_iff_toNat_le.mp stop, Nat.mod_one _⟩
  have dotless : c.toNat ≠ 304 := fun same =>
    away ⟨304, 304, 1, 105⟩ (List.mem_cons_self ..) ⟨Nat.le_of_eq same.symm, Nat.le_of_eq same, Nat.mod_one _⟩
  have ascii : c.toLower = c := dif_neg small
  rw [lowerChar, ascii, if_neg dotless, first, second]
  exact ite_self [c]

theorem lowerChar_toLower : ∀ n < 128, lowerChar (Char.ofNat n).toLower = [(Char.ofNat n).toLower] := by
  decide +kernel

/-- A character in lower case is its own lower case. -/
theorem lowerChar_of_mem (member : d ∈ lowerChar c) : lowerChar d = [d] := by
  have out {runs : Array CaseRun} {n : Nat} (part : ∀ run ∈ runs.toList, run ∈ cased)
      (found : CaseRun.image? runs c.toNat = some n) : lowerChar (Char.ofNat n) = [Char.ofNat n] := by
    obtain ⟨run, among, holds, rfl⟩ := CaseRun.image_eq_some found
    have leads := List.all_eq_true.mp runs_lead_out run (part run among)
    obtain ⟨scalar, misses⟩ := Bool.and_eq_true_iff.mp leads
    refine lowerChar_of_away fun other member => ?_
    rw [CaseRun.toNat_of_isScalar scalar holds]
    exact CaseRun.not_holds_of_misses (List.all_eq_true.mp misses other member) holds
  unfold lowerChar at member
  split at member
  next ascii =>
    obtain rfl := List.mem_singleton.mp member
    rw [← Char.ofNat_toNat c]
    exact lowerChar_toLower c.toNat ascii
  next high =>
    split at member
    next dotted =>
      rcases List.mem_cons.mp member with rfl | member
      · decide
      · obtain rfl := List.mem_singleton.mp member
        exact lowerChar_of_away (by decide +kernel)
    next undotted =>
      split at member
      next n found =>
        obtain rfl := List.mem_singleton.mp member
        rcases Option.or_eq_some_iff.mp found with first | ⟨-, second⟩
        · exact out (fun run member => by simp [cased, member]) first
        · exact out (fun run member => by simp [cased, member]) second
      next none =>
        obtain rfl := List.mem_singleton.mp member
        rw [lowerChar, if_neg high, if_neg undotted, none]

/-! ## Texts in lower case -/

theorem lowerChar_sigma : lowerChar 'Σ' = ['σ'] := by decide +kernel

theorem ne_sigma (lower : lowerChar c = [c]) : c ≠ 'Σ' := by
  rintro rfl
  rw [lowerChar_sigma] at lower
  exact absurd lower (by decide)

/-- A capital sigma becomes one of two small ones. -/
theorem lowerChar_of_mem_lowerAfter (member : d ∈ lowerAfter before text) : lowerChar d = [d] := by
  induction text generalizing before with
  | nil => cases member
  | cons c rest ih =>
    rcases List.mem_append.mp member with here | later
    · split at here
      · obtain rfl := List.mem_singleton.mp here
        split <;> exact lowerChar_of_away (by decide +kernel)
      · exact lowerChar_of_mem here
    · exact ih later

theorem lowerChar_of_mem_toLower (member : d ∈ toLower text) : lowerChar d = [d] :=
  lowerChar_of_mem_lowerAfter member

/-- A text of characters in lower case stays as it is. -/
theorem toLower_eq_self (lower : ∀ c ∈ text, lowerChar c = [c]) : toLower text = text := by
  have all : ∀ before, lowerAfter before text = text := by
    induction text with
    | nil => exact fun _ => rfl
    | cons c rest ih =>
      intro before
      have own := lower c (List.mem_cons_self ..)
      rw [lowerAfter, if_neg (ne_sigma own), own, ih (fun c member => lower c (List.mem_cons_of_mem _ member))]
      rfl
  exact all []

/-- Whether a character stops the search for letters around a sigma. -/
def Stops (c : Char) : Prop := isCaseIgnorable c = false ∧ isCased c = false

theorem meetsCased_append (stops : Stops c) (x y : Text) : meetsCased (x ++ c :: y) = meetsCased x := by
  induction x with
  | nil => simp [meetsCased, stops.1, stops.2]
  | cons a x ih =>
    cases ignored : isCaseIgnorable a with
    | true => simpa [meetsCased, ignored] using ih
    | false => simp [meetsCased, ignored]

/-- What comes after a character that stops the search makes no difference before it. -/
theorem lowerAfter_append (stops : Stops c) (before x y : Text) :
    lowerAfter before (x ++ c :: y) = lowerAfter before x ++ lowerAfter (x.reverse ++ before) (c :: y) := by
  induction x generalizing before with
  | nil => rfl
  | cons a x ih =>
    rw [List.cons_append, lowerAfter, lowerAfter, meetsCased_append stops, ih, List.reverse_cons,
      List.append_assoc, List.append_assoc]
    rfl

/-- What comes before it makes no difference after it. -/
theorem lowerAfter_stop (stops : Stops c) (done before y : Text) :
    lowerAfter (done ++ c :: before) y = lowerAfter done y := by
  induction y generalizing done with
  | nil => rfl
  | cons a y ih =>
    rw [lowerAfter, lowerAfter, meetsCased_append stops, ← List.cons_append, ih]

/-! ## Separators -/

/-- White space, the hyphen and the underscore. -/
def separators : List Char :=
  ([9, 10, 11, 12, 13, 32, 133, 160, 5760] ++ (List.range 11).map (8192 + ·) ++
    [8232, 8233, 8239, 8287, 12288, 45, 95]).map Char.ofNat

theorem mem_separators (separates : isSeparator c = true) : c ∈ separators := by
  rw [← Char.ofNat_toNat c]
  refine List.mem_map_of_mem ?_
  simp only [isSeparator, isBlank, Bool.or_eq_true, Bool.and_eq_true, decide_eq_true_eq, beq_iff_eq] at separates
  rcases separates with (blank | rfl) | rfl
  · simp only [List.mem_append, List.mem_map, List.mem_range, List.mem_cons, List.not_mem_nil, or_false]
    by_cases narrow : 8192 ≤ c.toNat ∧ c.toNat ≤ 8202
    · exact .inl (.inr ⟨c.toNat - 8192, by omega, by omega⟩)
    · omega
  · decide
  · decide

/-- A separator has no case, does not join letters, and becomes a hyphen. -/
theorem separators_apart : ∀ c ∈ separators, isCaseIgnorable c = false ∧ isCased c = false ∧
    Away c.toNat ∧ slugChar? c = some '-' := by
  -- By `List.all`, so that the separators are tried and not all characters.
  have checked : (separators.all fun c => decide (isCaseIgnorable c = false ∧ isCased c = false ∧
      Away c.toNat ∧ slugChar? c = some '-')) = true := by decide +kernel
  exact fun c member => of_decide_eq_true (List.all_eq_true.mp checked c member)

theorem toLower_separator (separates : isSeparator c = true) (x y : Text) :
    toLower (x ++ c :: y) = toLower x ++ c :: toLower y := by
  obtain ⟨joinless, caseless, away, -⟩ := separators_apart c (mem_separators separates)
  have stops : Stops c := ⟨joinless, caseless⟩
  have lower := lowerChar_of_away away
  have after : lowerAfter (c :: (x.reverse ++ [])) y = lowerAfter [] y := lowerAfter_stop stops [] _ y
  rw [toLower, lowerAfter_append stops, lowerAfter, if_neg (ne_sigma lower), lower, after]
  rfl

/-! ## Words -/

/-- Whether a text is a word of a slug: letters and digits, at least one. -/
def IsWord (word : Text) : Prop := word ≠ [] ∧ ∀ c ∈ word, isAlphanumeric c = true

theorem slugChar_eq_some : slugChar? c = some d ↔
    isAlphanumeric c = true ∧ d = c ∨ isAlphanumeric c = false ∧ isSeparator c = true ∧ d = '-' := by
  unfold slugChar?
  cases isAlphanumeric c <;> cases isSeparator c <;> simp [eq_comm]

theorem hyphen_apart : isAlphanumeric '-' = false := by decide

/-- What a word of a slug is made of: letters and digits of the text in lower case. -/
theorem letter_of_mem_slugWords {word : Text} (member : word ∈ slugWords text) (inside : c ∈ word) :
    c ∈ toLower text ∧ isAlphanumeric c = true := by
  obtain ⟨piece, -⟩ := List.mem_filter.mp member
  have among : c ∈ (toLower text).filterMap slugChar? := by
    rw [← join_splitOn '-' ((toLower text).filterMap slugChar?)]
    exact (infix_join piece).mem inside
  obtain ⟨a, lower, shown⟩ := List.mem_filterMap.mp among
  rcases slugChar_eq_some.mp shown with ⟨letter, rfl⟩ | ⟨-, -, rfl⟩
  · exact ⟨lower, letter⟩
  · exact absurd inside (not_mem_of_mem_splitOn piece)

theorem isWord_of_mem_slugWords {word : Text} (member : word ∈ slugWords text) : IsWord word := by
  obtain ⟨-, filled⟩ := List.mem_filter.mp member
  exact ⟨by simpa using filled, fun c inside => (letter_of_mem_slugWords member inside).2⟩

/-- The words of two texts with a separator between them are the words of both. -/
theorem slugWords_separator (separates : isSeparator c = true) (x y : Text) :
    slugWords (x ++ c :: y) = slugWords x ++ slugWords y := by
  obtain ⟨-, -, -, hyphen⟩ := separators_apart c (mem_separators separates)
  simp only [slugWords]
  rw [toLower_separator separates, List.filterMap_append, List.filterMap_cons_some hyphen, splitOn_append,
    List.filter_append]

/-! ## Words that are joined -/

theorem join_append {separator : Text} {first second : List Text} (filled : first ≠ []) (filled' : second ≠ []) :
    join separator (first ++ second) = join separator first ++ separator ++ join separator second := by
  induction first with
  | nil => exact absurd rfl filled
  | cons piece rest ih =>
    cases rest with
    | nil =>
      obtain ⟨next, more, rfl⟩ := List.exists_cons_of_ne_nil filled'
      rfl
    | cons next rest =>
      have later := ih (List.cons_ne_nil _ _)
      rw [List.cons_append] at later ⊢
      rw [List.cons_append, join_cons_cons, join_cons_cons, later]
      simp only [List.append_assoc]

theorem mem_join {separator : Text} (member : c ∈ join separator words) :
    c ∈ separator ∨ ∃ word ∈ words, c ∈ word := by
  induction words with
  | nil => cases member
  | cons first rest ih =>
    cases rest with
    | nil => exact .inr ⟨first, List.mem_cons_self .., member⟩
    | cons next rest =>
      rw [join_cons_cons] at member
      rcases List.mem_append.mp member with inside | later
      · rcases List.mem_append.mp inside with own | between
        · exact .inr ⟨first, List.mem_cons_self .., own⟩
        · exact .inl between
      · exact (ih later).imp id fun ⟨word, among, own⟩ => ⟨word, List.mem_cons_of_mem _ among, own⟩

theorem not_hyphen_of_isWord {word : Text} (proper : IsWord word) : '-' ∉ word := by
  intro member
  have letter := proper.2 '-' member
  rw [hyphen_apart] at letter
  cases letter

/-- Words that are joined begin and end with a letter or a digit. -/
theorem ends_of_join (proper : ∀ word ∈ words, IsWord word) (filled : words ≠ []) :
    (∃ c ∈ (join ['-'] words).head?, isAlphanumeric c = true) ∧
      ∃ c ∈ (join ['-'] words).getLast?, isAlphanumeric c = true := by
  induction words with
  | nil => exact absurd rfl filled
  | cons first rest ih =>
    obtain ⟨solid, letters⟩ := proper first (List.mem_cons_self ..)
    obtain ⟨c, more, whole⟩ := List.exists_cons_of_ne_nil solid
    have start : isAlphanumeric c = true := letters c (by rw [whole]; exact List.mem_cons_self ..)
    cases rest with
    | nil =>
      refine ⟨⟨c, by rw [join, whole]; rfl, start⟩, first.getLast solid, ?_, letters _ (List.getLast_mem solid)⟩
      exact List.getLast?_eq_some_getLast solid
    | cons next rest =>
      obtain ⟨-, last, ending, letter⟩ :=
        ih (fun word member => proper word (List.mem_cons_of_mem _ member)) (List.cons_ne_nil _ _)
      refine ⟨⟨c, by rw [join_cons_cons, whole]; rfl, start⟩, last, ?_, letter⟩
      obtain ⟨front, parts⟩ := List.getLast?_eq_some_iff.mp ending
      rw [join_cons_cons, parts, ← List.append_assoc]
      exact List.getLast?_concat

theorem join_ne_nil_of_words (proper : ∀ word ∈ words, IsWord word) (filled : words ≠ []) :
    join ['-'] words ≠ [] := by
  obtain ⟨⟨c, start, -⟩, -⟩ := ends_of_join proper filled
  rintro empty
  rw [empty] at start
  cases start

/-- Words in lower case that are joined have these words again. -/
theorem slugWords_join (proper : ∀ word ∈ words, IsWord word)
    (lower : ∀ word ∈ words, ∀ c ∈ word, lowerChar c = [c]) : slugWords (join ['-'] words) = words := by
  have hyphen : isSeparator '-' = true := rfl
  obtain ⟨-, -, away, shown⟩ := separators_apart '-' (mem_separators hyphen)
  have kept : toLower (join ['-'] words) = join ['-'] words := by
    refine toLower_eq_self fun c member => ?_
    rcases mem_join member with between | ⟨word, among, inside⟩
    · rw [List.mem_singleton.mp between]
      exact lowerChar_of_away away
    · exact lower word among c inside
  have seen : (join ['-'] words).filterMap slugChar? = join ['-'] words := by
    refine (List.filterMap_congr fun c member => ?_).trans (List.filterMap_some)
    rcases mem_join member with between | ⟨word, among, inside⟩
    · rw [List.mem_singleton.mp between]
      exact shown
    · exact slugChar_eq_some.mpr (.inl ⟨(proper word among).2 c inside, rfl⟩)
  have solid : words.filter (fun word => !word.isEmpty) = words :=
    List.filter_eq_self.mpr fun word member => by simpa using (proper word member).1
  rw [slugWords, kept, seen]
  by_cases none : words = []
  · rw [none]
    rfl
  · rw [splitOn_join none fun word member => not_hyphen_of_isWord (proper word member), solid]

theorem slugWords_slug (text : Text) : slugWords (slug text) = slugWords text :=
  slugWords_join (fun _ member => isWord_of_mem_slugWords member)
    fun _ member _ inside => lowerChar_of_mem_toLower (letter_of_mem_slugWords member inside).1

/-! ## Slugs -/

theorem slug_eq_nil : slug text = [] ↔ slugWords text = [] := by
  constructor
  · intro empty
    by_contra filled
    exact join_ne_nil_of_words (fun _ member => isWord_of_mem_slugWords member) filled empty
  · intro none
    rw [slug, none]
    rfl

/-- A hyphen in a slug stands between letters or digits. -/
theorem hyphen_between {after : Text} (whole : slug text = before ++ '-' :: after) :
    (∃ c ∈ before.getLast?, isAlphanumeric c = true) ∧ ∃ c ∈ after.head?, isAlphanumeric c = true := by
  have proper : ∀ word ∈ slugWords text, IsWord word := fun _ member => isWord_of_mem_slugWords member
  have filled : slugWords text ≠ [] := by
    rw [ne_eq, ← slug_eq_nil, whole]
    simp
  have pieces : slugWords text = splitOn '-' before ++ splitOn '-' after := by
    rw [← splitOn_append, ← whole, slug,
      splitOn_join filled fun word member => not_hyphen_of_isWord (proper word member)]
  have front : ∀ word ∈ splitOn '-' before, IsWord word := fun word member =>
    proper word (by rw [pieces]; exact List.mem_append_left _ member)
  have back : ∀ word ∈ splitOn '-' after, IsWord word := fun word member =>
    proper word (by rw [pieces]; exact List.mem_append_right _ member)
  have ending := (ends_of_join front (splitOn_ne_nil '-' before)).2
  have start := (ends_of_join back (splitOn_ne_nil '-' after)).1
  rw [join_splitOn] at ending start
  exact ⟨ending, start⟩

/-- Slugs are words of letters and digits with single hyphens between them. A slug is its own slug, and the slug of
two texts with white space, a hyphen or an underscore between them is that of the one, a hyphen and that of the other,
as far as they are not empty. -/
theorem slugs_join :
    (∀ text : Text, (∃ words : List Text, (∀ word ∈ words, IsWord word) ∧ slug text = join ['-'] words) ∧
      (∀ c ∈ slug text, c = '-' ∨ isAlphanumeric c = true) ∧
      (∀ before after, slug text = before ++ '-' :: after →
        (∃ c ∈ before.getLast?, isAlphanumeric c = true) ∧ ∃ c ∈ after.head?, isAlphanumeric c = true) ∧
      slug (slug text) = slug text) ∧
    ∀ (x y : Text) (c : Char), isBlank c = true ∨ c = '-' ∨ c = '_' →
      slug (x ++ c :: y) =
        if slug x = [] then slug y else if slug y = [] then slug x else slug x ++ '-' :: slug y := by
  have proper (text : Text) : ∀ word ∈ slugWords text, IsWord word := fun _ member => isWord_of_mem_slugWords member
  refine ⟨fun text => ⟨⟨slugWords text, proper text, rfl⟩, fun c member => ?_, fun before after whole => ?_, ?_⟩,
    fun x y c separates => ?_⟩
  · rcases mem_join member with between | ⟨word, among, inside⟩
    · exact .inl (List.mem_singleton.mp between)
    · exact .inr ((proper text word among).2 c inside)
  · exact hyphen_between whole
  · rw [slug, slugWords_slug]
    rfl
  · have words := slugWords_separator (by simpa [isSeparator, or_assoc] using separates) x y
    rw [slug, words]
    by_cases first : slugWords x = []
    · rw [if_pos (slug_eq_nil.mpr first), first]
      rfl
    by_cases second : slugWords y = []
    · rw [if_neg (mt slug_eq_nil.mp first), if_pos (slug_eq_nil.mpr second), second, List.append_nil]
      rfl
    · rw [if_neg (mt slug_eq_nil.mp first), if_neg (mt slug_eq_nil.mp second), join_append first second,
        List.append_assoc]
      rfl

/-- A no-break space stands between two Greek words, and in the second one a capital letter with a dot, whose lower case
is two characters. -/
theorem greek_words_join :
    isBlank '\u00a0' = true ∧
      slug ("ΟΔΟΣ!".toList ++ '\u00a0' :: "(Σ_İ)".toList) = "οδος".toList ++ '-' :: "σ-i".toList := by
  refine ⟨by decide, ?_⟩
  have first : slug "ΟΔΟΣ!".toList = "οδος".toList := by decide +kernel
  have second : slug "(Σ_İ)".toList = "σ-i".toList := by decide +kernel
  have joined := slugs_join.2 "ΟΔΟΣ!".toList "(Σ_İ)".toList '\u00a0' (.inl (by decide))
  rwa [first, second, if_neg (by decide), if_neg (by decide)] at joined

end DocSite.Text
