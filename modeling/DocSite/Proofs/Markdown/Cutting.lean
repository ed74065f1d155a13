/-
# DocSite.Proofs.Markdown.Cutting -- how a line is cut at its marks

A stretch of a line without escapes and entities is cut by itself: whatever tokens it gives end within
it, only the text at its end may go on into what follows (`lineFrom_stretch`). Three things follow. What
is read apart from its tokens, such as a destination, leaves the tokens of the text after it
(`dropTo_stretch`); code ends at the next backtick (`closingBackticks_code`); and a line of text ends
with its line break (`tokenLine_end`). Text without marks is one token (`tokensAt_text`).
-/
import DocSite.Markdown.Inline

set_option autoImplicit false

namespace DocSite.Markdown

open Text

variable {before : Option Char} {gap offset slashes : Nat} {held : Place} {tokens later : List Token}
variable {c : Char} {rest : Text}

/-! ## Places -/

theorem Place.advance_advance (p : Place) (m n : Nat) :
    (p.advance m).advance n = p.advance (m + n) := by
  simp [Place.advance, Nat.add_assoc]

theorem Place.advance_text (offset : Nat) (text rest : Text) :
    Place.advance text.length ⟨offset, text ++ rest⟩ = ⟨offset + text.length, rest⟩ := by
  rw [Place.advance, List.drop_left]

/-! ## Characters -/

/-- A character that stands for itself wherever it occurs in a line. -/
def isInert (c : Char) : Bool :=
  !isBreak c && !(['\\', '\x60', '<', '!', '[', ']', '&', '*', '_', '~'].contains c)

/-- A mark of emphasis. -/
def isEmphasis (c : Char) : Bool := c == '*' || c == '_' || c == '~'

/-- A character that stands for itself within code, destinations and titles. -/
def isMild (c : Char) : Bool := isInert c || isEmphasis c || ['[', ']', '<'].contains c

/-- A character that begins no entity, no escape and no line break. -/
def isCommon (c : Char) : Bool := isMild c || c == '!' || c == '\x60'

theorem isInert_iff : isInert c = true ↔ isBreak c = false ∧
    c ∉ ['\\', '\x60', '<', '!', '[', ']', '&', '*', '_', '~'] := by
  simp [isInert]

theorem isEmphasis_iff : isEmphasis c = true ↔ c = '*' ∨ c = '_' ∨ c = '~' := by
  simp [isEmphasis, or_assoc]

theorem isCommon_iff : isCommon c = true ↔
    isInert c = true ∨ isEmphasis c = true ∨ c = '[' ∨ c = ']' ∨ c = '<' ∨ c = '!' ∨ c = '\x60' := by
  simp [isCommon, isMild, or_assoc]

/-! ## Tokens cut before -/

/-- A line after tokens that were cut before. -/
def TokenLine.onto (tokens : List Token) (line : TokenLine) : TokenLine :=
  { line with tokens := line.tokens ++ tokens }

@[simp] theorem TokenLine.onto_onto (line : TokenLine) :
    (line.onto later).onto tokens = line.onto (later ++ tokens) := by
  simp [TokenLine.onto]

theorem addText_append (first : Place) (size : Nat) :
    addText first size (later ++ tokens) = addText first size later ++ tokens := by
  unfold addText
  split <;> rfl

theorem stop_of_mem_addText {first : Place} {size : Nat} {t : Token}
    (found : t ∈ addText first size []) : t.stop = first.offset + size := by
  unfold addText at found
  split at found
  · cases found
  · rw [List.mem_singleton.mp found]
    rfl

theorem mark_of_mem_addText {first : Place} {size : Nat} {t : Token}
    (found : t ∈ addText first size []) : t.mark = .text := by
  unfold addText at found
  split at found
  · cases found
  · rw [List.mem_singleton.mp found]

theorem endLine_append (cell : Bool) (here : Place) :
    endLine cell gap slashes held here (later ++ tokens) =
      (endLine cell gap slashes held here later).onto tokens := by
  unfold endLine TokenLine.onto
  simp only [addText_append]
  generalize (if cell = true then some 0 else breakSize? here.rest) = size
  rcases size with _ | _ | size
  · rfl
  · rfl
  · dsimp only
    split <;> rfl

theorem cutLine_append (cell : Bool) (skip : Nat) (cs : Text) :
    cutLine cell skip before gap slashes held (later ++ tokens) offset cs =
      (cutLine cell skip before gap slashes held later offset cs).onto tokens := by
  induction cs generalizing skip before gap slashes held later offset with
  | nil => simp only [cutLine, endLine_append]
  | cons c rest ih =>
    cases skip with
    | succ skip => simp only [cutLine, ih]
    | zero =>
      unfold cutLine
      dsimp only
      simp only [addText_append, endLine_append, ← List.cons_append, ih]
      split
      · rfl
      · split
        all_goals first | rfl | simp only [apply_ite (TokenLine.onto tokens)] | (split <;> rfl)

theorem cutLine_onto (cell : Bool) (skip : Nat) (cs : Text) :
    cutLine cell skip before gap slashes held tokens offset cs =
      (cutLine cell skip before gap slashes held [] offset cs).onto tokens :=
  @cutLine_append before gap offset slashes held tokens [] cell skip cs

/-! ## One step -/

theorem cutLine_skip (cell : Bool) {size : Nat} {cs : Text} (within : size ≤ cs.length) :
    cutLine cell size before gap slashes held tokens offset cs =
      cutLine cell 0 before gap slashes held tokens (offset + size) (cs.drop size) := by
  induction size generalizing offset cs with
  | zero => rfl
  | succ size ih =>
    cases cs with
    | nil => simp at within
    | cons c rest =>
      rw [cutLine, ih (by simpa using within), Nat.add_right_comm, Nat.add_assoc, List.drop_succ_cons]

/-- The character before a line counts only for marks of emphasis. -/
theorem cutLine_before {cs : Text} (free : ∀ c ∈ cs.head?, isEmphasis c = false)
    (other : Option Char) :
    cutLine false 0 before gap slashes held tokens offset cs =
      cutLine false 0 other gap slashes held tokens offset cs := by
  cases cs with
  | nil => rfl
  | cons c rest =>
    have plain : isEmphasis c = false := free c rfl
    simp only [isEmphasis, Bool.or_eq_false_iff, beq_eq_false_iff_ne, ne_eq, and_assoc] at plain
    obtain ⟨star, line, tilde⟩ := plain
    unfold cutLine
    simp only [Bool.false_and, Bool.or_false, star, line, tilde, decide_false, Bool.or_self,
      Bool.false_eq_true, if_false]

/-- A line that is cut from `here` on; the text from `held` on belongs to no token yet. -/
def lineFrom (before : Option Char) (gap : Nat) (held here : Place) : TokenLine :=
  cutLine false 0 before gap 0 held [] here.offset here.rest

theorem lineFrom_inert (plain : isInert c = true) :
    lineFrom before gap held ⟨offset, c :: rest⟩ =
      lineFrom (some c) (if isGap c then gap + 1 else 0) held ⟨offset + 1, rest⟩ := by
  obtain ⟨inside, named⟩ := isInert_iff.mp plain
  simp only [List.mem_cons, List.not_mem_nil, or_false, not_or] at named
  rw [lineFrom, cutLine]
  · simp [inside, named, lineFrom]
  all_goals simp [named]

theorem lineFrom_bang (alone : rest.head? ≠ some '[') :
    lineFrom before gap held ⟨offset, '!' :: rest⟩ =
      lineFrom (some '!') 0 held ⟨offset + 1, rest⟩ := by
  rw [lineFrom, cutLine]
  simp only [isBreak, alone, if_false]
  rfl

/-- The mark that a text begins with, its size, and its last character. -/
def sign? : Text → Option (Mark × Nat × Char)
  | '[' :: _ => some (.opening false, 1, '[')
  | ']' :: _ => some (.closing, 1, ']')
  | '!' :: '[' :: _ => some (.opening true, 2, '[')
  | '<' :: rest => if rest.head? = some '\\' then none else some (.pointed, 1, '<')
  | '\x60' :: rest => some (.backticks false, (rest.takeWhile (· == '\x60')).length + 1, '\x60')
  | _ => none

section Sign

variable {cs : Text} {mark : Mark} {size : Nat} {last : Char}

theorem sign_length (found : sign? cs = some (mark, size, last)) : 0 < size ∧ size ≤ cs.length := by
  unfold sign? at found
  split at found
  · cases found; simp
  · cases found; simp
  · cases found; simp
  · split at found
    · cases found
    · cases found; simp
  · next rest =>
    cases found
    have within : (rest.takeWhile (· == '\x60')).length ≤ rest.length :=
      (List.takeWhile_sublist _).length_le
    exact ⟨Nat.succ_pos _, Nat.succ_le_succ within⟩
  · cases found

/-- A mark ends the text before it. -/
theorem lineFrom_sign (found : sign? cs = some (mark, size, last)) :
    lineFrom before gap held ⟨offset, cs⟩ =
      (lineFrom (some last) 0 (Place.advance size ⟨offset, cs⟩)
        (Place.advance size ⟨offset, cs⟩)).onto
          (⟨mark, ⟨offset, cs⟩, size⟩ :: addText held (offset - held.offset) []) := by
  unfold sign? at found
  split at found
  · cases found
    rw [lineFrom, cutLine]
    exact cutLine_onto ..
  · cases found
    rw [lineFrom, cutLine]
    exact cutLine_onto ..
  · cases found
    rw [lineFrom, cutLine]
    exact cutLine_onto ..
  · split at found
    · cases found
    next free =>
      cases found
      rw [lineFrom, cutLine]
      simp only [isBreak, free, if_false]
      exact cutLine_onto ..
  · next rest =>
    cases found
    have count : (('\x60' :: rest).takeWhile (· == '\x60')).length =
        (rest.takeWhile (· == '\x60')).length + 1 := rfl
    have within : (rest.takeWhile (· == '\x60')).length ≤ rest.length :=
      (List.takeWhile_sublist _).length_le
    rw [lineFrom, cutLine]
    simp only [isBreak, count, Nat.add_sub_cancel]
    rw [cutLine_skip false within, cutLine_onto, Nat.add_assoc, Nat.add_comm 1]
    rfl
  · cases found

end Sign

theorem cutLine_emphasis (marked : isEmphasis c = true) :
    let size := ((c :: rest).takeWhile (· == c)).length
    cutLine false 0 before gap slashes held tokens offset (c :: rest) =
        cutLine false (size - 1) (some c) 0 0 held tokens (offset + 1) rest ∨
      ∃ opens closes, cutLine false 0 before gap slashes held tokens offset (c :: rest) =
        cutLine false (size - 1) (some c) 0 0 (Place.advance size ⟨offset, c :: rest⟩)
          (⟨.run c size opens closes, ⟨offset, c :: rest⟩, size⟩ ::
            addText held (offset - held.offset) tokens) (offset + 1) rest := by
  intro size
  have cut : cutLine false 0 before gap slashes held tokens offset (c :: rest) =
      let found := flanks false before c size ((c :: rest).drop size).head?
      if (found.1 || found.2) && (c != '~' || size ≤ 2) then
        cutLine false (size - 1) (some c) 0 0 (Place.advance size ⟨offset, c :: rest⟩)
          (⟨.run c size found.1 found.2, ⟨offset, c :: rest⟩, size⟩ ::
            addText held (offset - held.offset) tokens) (offset + 1) rest
      else cutLine false (size - 1) (some c) 0 0 held tokens (offset + 1) rest := by
    rcases isEmphasis_iff.mp marked with rfl | rfl | rfl
    all_goals
      rw [cutLine]
      · rfl
      all_goals simp
  dsimp only at cut
  split at cut
  · exact .inr ⟨_, _, cut⟩
  · exact .inl cut

/-- A run of marks of emphasis is text or a mark. -/
theorem lineFrom_emphasis (marked : isEmphasis c = true) :
    let size := ((c :: rest).takeWhile (· == c)).length
    let next := Place.advance size ⟨offset, c :: rest⟩
    lineFrom before gap held ⟨offset, c :: rest⟩ = lineFrom (some c) 0 held next ∨
      ∃ opens closes, lineFrom before gap held ⟨offset, c :: rest⟩ =
        (lineFrom (some c) 0 next next).onto
          (⟨.run c size opens closes, ⟨offset, c :: rest⟩, size⟩ ::
            addText held (offset - held.offset) []) := by
  intro size next
  have count : size = (rest.takeWhile (· == c)).length + 1 := by simp [size]
  have within : size - 1 ≤ rest.length := by
    rw [count]
    exact (List.takeWhile_sublist _).length_le
  have place : next = ⟨offset + 1 + (size - 1), rest.drop (size - 1)⟩ := by
    simp only [next, Place.advance, count, List.drop_succ_cons, Nat.add_sub_cancel]
    congr 1
    omega
  rcases cutLine_emphasis marked with plain | ⟨opens, closes, special⟩
  · refine .inl (plain.trans ?_)
    rw [cutLine_skip false within, place]
    rfl
  · refine .inr ⟨opens, closes, special.trans ?_⟩
    rw [cutLine_skip false within, cutLine_onto]
    show (lineFrom (some c) 0 next ⟨offset + 1 + (size - 1), rest.drop (size - 1)⟩).onto _ = _
    rw [← place]

/-! ## Stretches of a line -/

section Stretch

variable {stretch after : Text}

/-- Whether the text after a stretch of a line does not go on with the marks of the stretch. -/
def Apart (stretch after : Text) : Prop :=
  ∀ c ∈ after.head?, isBreak c || isInert c || (c == '\x60' && !stretch.contains '\x60')

theorem head_append (common : ∀ x ∈ stretch, isCommon x) (apart : Apart stretch after) :
    (stretch ++ after).head? ≠ some '\\' := by
  intro head
  cases stretch with
  | nil =>
    have stops := apart '\\' head
    exact absurd stops (by decide)
  | cons c stretch =>
    cases head
    exact absurd (common '\\' (List.mem_cons_self ..)) (by decide)

theorem takeWhile_append_apart (other : ∀ x ∈ after.head?, x ≠ c) :
    (stretch ++ after).takeWhile (· == c) = stretch.takeWhile (· == c) := by
  have stop : after.takeWhile (· == c) = [] := by
    cases after with
    | nil => rfl
    | cons x after => exact List.takeWhile_cons_of_neg (by simpa using other x rfl)
  induction stretch with
  | nil => exact stop
  | cons x stretch ih => rw [List.cons_append, List.takeWhile_cons, List.takeWhile_cons, ih]

/-- How a line is cut where it begins with some characters: they are text, or a mark that ends the text that was
held. -/
inductive LineStep (first rest after : Text) (before : Option Char) (gap : Nat) (held : Place) (offset : Nat)
    (last : Char) : Prop
  | text (between : Nat) (zero : (∀ x ∈ first.getLast?, isGap x = false) → between = 0)
      (cut : lineFrom before gap held ⟨offset, first ++ rest ++ after⟩ =
        lineFrom (some last) between held ⟨offset + first.length, rest ++ after⟩)
  | mark (mark : Mark) (quiet : (∃ escaped, mark = .backticks escaped) → '\x60' ∈ first ++ rest)
      (cut : lineFrom before gap held ⟨offset, first ++ rest ++ after⟩ =
        (lineFrom (some last) 0 ⟨offset + first.length, rest ++ after⟩
          ⟨offset + first.length, rest ++ after⟩).onto
            (⟨mark, ⟨offset, first ++ rest ++ after⟩, first.length⟩ ::
              addText held (offset - held.offset) []))

section Steps

variable {before : Option Char} {gap offset : Nat} {held : Place} {first rest : Text} {last : Char}

theorem LineStep.of_sign {mark : Mark} (found : sign? (first ++ rest ++ after) = some (mark, first.length, last))
    (quiet : (∃ escaped, mark = .backticks escaped) → '\x60' ∈ first ++ rest) :
    LineStep first rest after before gap held offset last := by
  refine .mark mark quiet ?_
  rw [lineFrom_sign found, List.append_assoc, Place.advance_text]

theorem lineStep_emphasis (marked : isEmphasis c = true) (apart : Apart (c :: stretch) after) :
    ∃ first rest last, c :: stretch = first ++ rest ∧ first ≠ [] ∧
      LineStep first rest after before gap held offset last := by
  have other : ∀ x ∈ after.head?, x ≠ c := by
    rintro x found rfl
    have stops := apart x found
    rcases isEmphasis_iff.mp marked with rfl | rfl | rfl <;> simp [isInert, isBreak] at stops
  have count : (c :: stretch ++ after).takeWhile (· == c) = (c :: stretch).takeWhile (· == c) :=
    takeWhile_append_apart other
  obtain ⟨first, rest, run, whole⟩ :
      ∃ first rest, (c :: stretch).takeWhile (· == c) = first ∧ c :: stretch = first ++ rest :=
    ⟨_, _, rfl, List.takeWhile_append_dropWhile.symm⟩
  have remains : (first ++ rest ++ after).drop first.length = rest ++ after := by
    rw [List.append_assoc, List.drop_left]
  have cut := @lineFrom_emphasis before gap offset held c (stretch ++ after) marked
  dsimp only at cut
  rw [← List.cons_append, count, run, whole, Place.advance, remains] at cut
  refine ⟨first, rest, c, whole, by simp [← run], ?_⟩
  rcases cut with text | ⟨opens, closes, run⟩
  · exact .text 0 (fun _ => rfl) text
  · exact .mark _ (by simp) run

theorem lineStep_pointed (common : ∀ x ∈ stretch, isCommon x) (apart : Apart ('<' :: stretch) after) :
    LineStep ['<'] stretch after before gap held offset '<' := by
  have slash : (stretch ++ after).head? ≠ some '\\' := by
    refine head_append common fun x found => ?_
    simpa using apart x found
  have found : sign? ('<' :: stretch ++ after) = some (.pointed, 1, '<') := by
    simp only [List.cons_append, sign?, slash, if_false]
  exact .of_sign found (by simp)

theorem lineStep_bang (apart : Apart ('!' :: stretch) after) :
    ∃ first rest last, '!' :: stretch = first ++ rest ∧ first ≠ [] ∧
      LineStep first rest after before gap held offset last := by
  by_cases image : (stretch ++ after).head? = some '['
  · cases stretch with
    | nil =>
      have stops := apart '[' image
      exact absurd stops (by decide)
    | cons x stretch =>
      cases image
      exact ⟨['!', '['], stretch, '[', rfl, by simp, .of_sign rfl (by simp)⟩
  · exact ⟨['!'], stretch, '!', rfl, by simp, .text 0 (fun _ => rfl) (lineFrom_bang image)⟩

theorem lineStep_backticks (apart : Apart ('\x60' :: stretch) after) :
    ∃ first rest last, '\x60' :: stretch = first ++ rest ∧ first ≠ [] ∧
      LineStep first rest after before gap held offset last := by
  have other : ∀ x ∈ after.head?, x ≠ '\x60' := by
    rintro x found rfl
    have stops := apart _ found
    simp [isInert, isBreak] at stops
  obtain ⟨run, rest, same, rfl⟩ :
      ∃ run rest, stretch.takeWhile (· == '\x60') = run ∧ stretch = run ++ rest :=
    ⟨_, _, rfl, List.takeWhile_append_dropWhile.symm⟩
  have found : sign? ('\x60' :: run ++ rest ++ after) =
      some (.backticks false, ('\x60' :: run).length, '\x60') := by
    rw [List.cons_append, List.cons_append, sign?, takeWhile_append_apart other, same]
    rfl
  exact ⟨'\x60' :: run, rest, '\x60', rfl, by simp, .of_sign found (by simp)⟩

end Steps

/-- What a stretch of a line begins with is text or a mark. -/
theorem lineFrom_step (common : ∀ x ∈ c :: stretch, isCommon x) (apart : Apart (c :: stretch) after)
    (before : Option Char) (gap : Nat) (held : Place) (offset : Nat) :
    ∃ first rest last, c :: stretch = first ++ rest ∧ first ≠ [] ∧
      LineStep first rest after before gap held offset last := by
  rcases isCommon_iff.mp (common c (List.mem_cons_self ..)) with
    plain | marked | rfl | rfl | rfl | rfl | rfl
  · refine ⟨[c], stretch, c, rfl, by simp, .text _ ?_ (lineFrom_inert plain)⟩
    intro filled
    simp [filled c rfl]
  · exact lineStep_emphasis marked apart
  · exact ⟨['['], stretch, '[', rfl, by simp, .of_sign rfl (by simp)⟩
  · exact ⟨[']'], stretch, ']', rfl, by simp, .of_sign rfl (by simp)⟩
  · exact ⟨['<'], stretch, '<', rfl, by simp,
      lineStep_pointed (fun x member => common x (List.mem_cons_of_mem _ member)) apart⟩
  · exact lineStep_bang apart
  · exact lineStep_backticks apart

end Stretch

/-- Whether a place lies on the way to another. -/
def Place.Reaches (first last : Place) : Prop := ∃ size, first.advance size = last

theorem Place.Reaches.offset_le {first last : Place} (reaches : first.Reaches last) :
    first.offset ≤ last.offset := by
  obtain ⟨size, rfl⟩ := reaches
  exact Nat.le_add_right ..

theorem addText_stop {first : Place} {offset : Nat} (start : first.offset ≤ offset) :
    ∀ t ∈ addText first (offset - first.offset) [], t.stop = offset := by
  intro t found
  rw [stop_of_mem_addText found]
  omega

/-- How a stretch of a line is cut by itself: its tokens end within it, and the text at its end is held. -/
structure CutsInto (stretch after : Text) (before : Option Char) (gap : Nat) (held : Place) (offset : Nat)
    (before' : Option Char) (gap' : Nat) (held' : Place) (tokens : List Token) : Prop where
  cut : lineFrom before gap held ⟨offset, stretch ++ after⟩ =
    (lineFrom before' gap' held' ⟨offset + stretch.length, after⟩).onto tokens
  reaches : held'.Reaches ⟨offset + stretch.length, after⟩
  within : ∀ t ∈ tokens, t.stop ≤ offset + stretch.length
  quiet : '\x60' ∉ stretch → ∀ t ∈ tokens, ∀ escaped, t.mark ≠ .backticks escaped
  gapless : (stretch = [] → gap = 0) → (∀ c ∈ stretch.getLast?, isGap c = false) → gap' = 0
  stays : tokens = [] → held' = held
  follows : ∀ t ∈ tokens.head?, t.stop = held'.offset

namespace CutsInto

variable {first rest after : Text} {before before' : Option Char} {gap gap' between offset : Nat}
  {held held' : Place} {last : Char} {tokens : List Token}

theorem nil (reaches : held.Reaches ⟨offset, after⟩) :
    CutsInto [] after before gap held offset before gap held [] where
  cut := by simp [TokenLine.onto]
  reaches := reaches
  within := by simp
  quiet := by simp
  gapless zero _ := zero rfl
  stays _ := rfl
  follows := by simp

/-- A stretch that begins with text. -/
theorem text (text : lineFrom before gap held ⟨offset, first ++ rest ++ after⟩ =
      lineFrom (some last) between held ⟨offset + first.length, rest ++ after⟩)
    (zero : (∀ c ∈ first.getLast?, isGap c = false) → between = 0)
    (tail : CutsInto rest after (some last) between held (offset + first.length) before' gap' held' tokens) :
    CutsInto (first ++ rest) after before gap held offset before' gap' held' tokens := by
  have total : offset + (first ++ rest).length = offset + first.length + rest.length := by
    rw [List.length_append, Nat.add_assoc]
  refine ⟨?_, ?_, ?_, fun free => tail.quiet fun inside => free (List.mem_append_right _ inside), ?_,
    tail.stays, tail.follows⟩
  · rw [text, tail.cut, total]
  · rw [total]
    exact tail.reaches
  · rw [total]
    exact tail.within
  · intro _ ending
    cases rest with
    | nil => exact tail.gapless (fun _ => zero (by simpa using ending)) (by simp)
    | cons c rest => exact tail.gapless (by simp) (by simpa [List.getLast?_append] using ending)

/-- A stretch that begins with a mark. -/
theorem mark {mark : Mark} (start : held.offset ≤ offset)
    (quiet : (∃ escaped, mark = .backticks escaped) → '\x60' ∈ first ++ rest)
    (marked : lineFrom before gap held ⟨offset, first ++ rest ++ after⟩ =
      (lineFrom (some last) 0 ⟨offset + first.length, rest ++ after⟩
        ⟨offset + first.length, rest ++ after⟩).onto
          (⟨mark, ⟨offset, first ++ rest ++ after⟩, first.length⟩ ::
            addText held (offset - held.offset) []))
    (tail : CutsInto rest after (some last) 0 ⟨offset + first.length, rest ++ after⟩
      (offset + first.length) before' gap' held' tokens) :
    CutsInto (first ++ rest) after before gap held offset before' gap' held'
      (tokens ++ ⟨mark, ⟨offset, first ++ rest ++ after⟩, first.length⟩ ::
        addText held (offset - held.offset) []) := by
  have total : offset + (first ++ rest).length = offset + first.length + rest.length := by
    rw [List.length_append, Nat.add_assoc]
  refine ⟨?_, ?_, ?_, ?_, ?_, by simp, ?_⟩
  · rw [marked, tail.cut, TokenLine.onto_onto, total]
  · rw [total]
    exact tail.reaches
  · intro t found
    rcases List.mem_append.mp found with found | found
    · rw [total]
      exact tail.within t found
    rcases List.mem_cons.mp found with rfl | found
    · simp only [Token.stop]
      omega
    · rw [addText_stop start t found]
      exact Nat.le_add_right ..
  · intro free t found escaped same
    rcases List.mem_append.mp found with found | found
    · exact tail.quiet (fun inside => free (List.mem_append_right _ inside)) t found escaped same
    rcases List.mem_cons.mp found with rfl | found
    · exact free (quiet ⟨escaped, same⟩)
    · rw [mark_of_mem_addText found] at same
      cases same
  · intro _ ending
    cases rest with
    | nil => exact tail.gapless (fun _ => rfl) (by simp)
    | cons c rest => exact tail.gapless (fun _ => rfl) (by simpa [List.getLast?_append] using ending)
  · intro t head
    cases tokens with
    | nil =>
      cases head
      rw [tail.stays rfl]
      rfl
    | cons x tokens => exact tail.follows t head

end CutsInto

theorem Apart.of_append {first rest after : Text} (apart : Apart (first ++ rest) after) : Apart rest after := by
  intro x found
  have stops := apart x found
  simp only [Bool.or_eq_true, Bool.and_eq_true, Bool.not_eq_true', List.contains_eq_mem,
    decide_eq_false_iff_not] at stops ⊢
  exact stops.imp_right fun both => ⟨both.1, fun inside => both.2 (List.mem_append_right _ inside)⟩

/-- Every stretch of a line is cut by itself, if what comes after it does not go on with its marks. -/
theorem lineFrom_stretch {stretch after : Text} (common : ∀ x ∈ stretch, isCommon x)
    (apart : Apart stretch after) (before : Option Char) (gap : Nat) (held : Place) (offset : Nat)
    (reaches : held.Reaches ⟨offset, stretch ++ after⟩) :
    ∃ before' gap' held' tokens, CutsInto stretch after before gap held offset before' gap' held' tokens := by
  -- A mark or a piece of text can take several characters, so the induction is on the length.
  induction length : stretch.length using Nat.strongRecOn
    generalizing stretch before gap held offset with
  | ind n ih =>
  cases stretch with
  | nil => exact ⟨before, gap, held, [], .nil reaches⟩
  | cons c stretch =>
    obtain ⟨first, rest, last, whole, filled, step⟩ := lineFrom_step common apart before gap held offset
    rw [whole] at common apart reaches length ⊢
    have shorter : rest.length < n := by
      have positive := List.length_pos_iff.mpr filled
      rw [List.length_append] at length
      omega
    have common' : ∀ x ∈ rest, isCommon x := fun x found => common x (List.mem_append_right _ found)
    cases step with
    | text between zero text =>
      have reaches' : held.Reaches ⟨offset + first.length, rest ++ after⟩ := by
        obtain ⟨width, found⟩ := reaches
        refine ⟨width + first.length, ?_⟩
        rw [← Place.advance_advance, found, List.append_assoc, Place.advance_text]
      obtain ⟨b, g, h, tokens, tail⟩ :=
        ih _ shorter common' apart.of_append (some last) between held (offset + first.length) reaches' rfl
      exact ⟨b, g, h, tokens, .text text zero tail⟩
    | mark mark quiet marked =>
      obtain ⟨b, g, h, tokens, tail⟩ :=
        ih _ shorter common' apart.of_append (some last) 0 ⟨offset + first.length, rest ++ after⟩
          (offset + first.length) ⟨0, rfl⟩ rfl
      exact ⟨b, g, h, _, .mark reaches.offset_le quiet marked tail⟩

/-! ## Tokens from a place on -/

/-- The tokens of the line that begins at a place, the first of them first. -/
def tokensAt (here : Place) : List Token := (tokenLine false 0 here).tokens.reverse

/-- The tokens of a line from a place on that comes after a mark, by the last character of the mark. -/
def tokensAfter (last : Char) (here : Place) : List Token :=
  (lineFrom (some last) 0 here here).tokens.reverse

/-- Whether text ends here: with a mark or with the line. -/
def Halts (text : Text) : Prop := (sign? text).isSome ∨ text.head? = some '\n'

/-- Whether a line goes on with text that ends with a mark or, without white space, with the line. -/
def Steady (text : Text) : Prop :=
  ∃ plain rest, text = plain ++ rest ∧ (∀ c ∈ plain, isInert c) ∧ Halts rest ∧
    (rest.head? = some '\n' → ∀ c ∈ plain.getLast?, isGap c = false)

/-- Whether tokens go on behind an offset. -/
def Fresh (offset : Nat) (tokens : List Token) : Prop :=
  ∀ t ∈ tokens.head?, offset ≤ t.start ∧ 0 < t.size

section Places

variable {text : Text}

theorem Halts.steady (halts : Halts text) : Steady text :=
  ⟨[], text, rfl, by simp, halts, by simp⟩

theorem Halts.free (halts : Halts text) : ∀ c ∈ text.head?, isEmphasis c = false := by
  intro c head
  cases text with
  | nil => cases head
  | cons x rest =>
    cases head
    rcases halts with marked | ended
    · unfold sign? at marked
      split at marked <;> first | (rename_i same; cases same; rfl) | cases marked
    · cases ended
      rfl

theorem Steady.free (steady : Steady text) : ∀ c ∈ text.head?, isEmphasis c = false := by
  obtain ⟨plain, rest, rfl, inert, halts, -⟩ := steady
  cases plain with
  | nil => exact halts.free
  | cons x plain =>
    intro c head
    cases head
    have named := (isInert_iff.mp (inert x (List.mem_cons_self ..))).2
    simp only [List.mem_cons, not_or] at named
    simp [isEmphasis, named]

/-- After a mark a line is cut as at its beginning. -/
theorem Steady.tokensAfter_eq (steady : Steady text) (last : Char) (offset : Nat) :
    tokensAfter last ⟨offset, text⟩ = tokensAt ⟨offset, text⟩ := by
  have cut : lineFrom (some last) 0 ⟨offset, text⟩ ⟨offset, text⟩ = tokenLine false 0 ⟨offset, text⟩ :=
    cutLine_before steady.free none
  rw [tokensAfter, cut, tokensAt]

theorem lineFrom_text (inert : ∀ c ∈ text, isInert c) (before : Option Char) (gap offset : Nat) :
    ∃ before' gap',
      ((text = [] → gap = 0) → (∀ c ∈ text.getLast?, isGap c = false) → gap' = 0) ∧
      lineFrom before gap held ⟨offset, text ++ rest⟩ =
        lineFrom before' gap' held ⟨offset + text.length, rest⟩ := by
  induction text generalizing before gap offset with
  | nil => exact ⟨before, gap, fun zero _ => zero rfl, rfl⟩
  | cons c text ih =>
    obtain ⟨before', gap', gapless, cut⟩ :=
      ih (fun x member => inert x (List.mem_cons_of_mem _ member)) (some c)
        (if isGap c then gap + 1 else 0) (offset + 1)
    refine ⟨before', gap', fun _ filled => ?_, ?_⟩
    · refine gapless (fun done => ?_) fun x found => filled x ?_
      · subst done
        simp [filled c rfl]
      · rw [List.getLast?_cons, Option.mem_def.mp found]
        rfl
    · rw [List.cons_append, lineFrom_inert (inert c (List.mem_cons_self ..)), cut, List.length_cons,
        Nat.add_assoc, Nat.add_comm 1]

theorem Halts.lineFrom_eq (halts : Halts text) (before : Option Char) (gap : Nat) (held : Place)
    (offset : Nat) (gapless : text.head? = some '\n' → gap = 0) :
    lineFrom before gap held ⟨offset, text⟩ =
      (tokenLine false 0 ⟨offset, text⟩).onto (addText held (offset - held.offset) []) := by
  rcases halts with marked | ended
  · obtain ⟨⟨mark, size, last⟩, found⟩ := Option.isSome_iff_exists.mp marked
    have cut : tokenLine false 0 ⟨offset, text⟩ = _ :=
      @lineFrom_sign none 0 offset ⟨offset, text⟩ text mark size last found
    rw [lineFrom_sign found, cut, TokenLine.onto_onto]
    simp [addText]
  · cases text with
    | nil => cases ended
    | cons c rest =>
      cases ended
      rw [gapless rfl]
      simp only [lineFrom, tokenLine, cutLine, isBreak, endLine, breakSize?, TokenLine.onto]
      simp [addText]

theorem Fresh.dropTo_eq (fresh : Fresh offset tokens) : Token.dropTo offset tokens = tokens := by
  cases tokens with
  | nil => rfl
  | cons t rest =>
    obtain ⟨behind, filled⟩ := fresh t rfl
    have later : ¬t.stop ≤ offset := by
      simp only [Token.stop]
      simp only [Token.start] at behind
      omega
    have whole : t.startAt offset = t := by
      have none : offset - t.start = 0 := by omega
      simp [Token.startAt, none, Place.advance]
    rw [Token.dropTo, if_neg later, whole]

theorem Fresh.mono (fresh : Fresh offset tokens) {earlier : Nat} (le : earlier ≤ offset) :
    Fresh earlier tokens := by
  intro t head
  obtain ⟨behind, filled⟩ := fresh t head
  exact ⟨Nat.le_trans le behind, filled⟩

theorem dropTo_append (stops : ∀ t ∈ tokens, t.stop ≤ offset) :
    Token.dropTo offset (tokens ++ later) = Token.dropTo offset later := by
  induction tokens with
  | nil => rfl
  | cons t tokens ih =>
    rw [List.cons_append, Token.dropTo, if_pos (stops t (List.mem_cons_self ..)),
      ih fun x member => stops x (List.mem_cons_of_mem _ member)]

theorem tokensAt_break (offset : Nat) (rest : Text) : tokensAt ⟨offset, '\n' :: rest⟩ = [] := by
  simp [tokensAt, tokenLine, cutLine, isBreak, endLine, breakSize?, addText]

/-- The mark that a text begins with is the first of its tokens. -/
theorem tokensAt_sign {mark : Mark} {size : Nat} {last : Char}
    (found : sign? text = some (mark, size, last)) (offset : Nat) :
    tokensAt ⟨offset, text⟩ =
      ⟨mark, ⟨offset, text⟩, size⟩ :: tokensAfter last (Place.advance size ⟨offset, text⟩) := by
  have cut : tokenLine false 0 ⟨offset, text⟩ = _ :=
    @lineFrom_sign none 0 offset ⟨offset, text⟩ text mark size last found
  rw [tokensAt, cut]
  simp [TokenLine.onto, addText, tokensAfter]

theorem Halts.fresh (halts : Halts text) (fresh : Fresh offset later) :
    Fresh offset (tokensAt ⟨offset, text⟩ ++ later) := by
  rcases halts with marked | ended
  · obtain ⟨⟨mark, size, last⟩, found⟩ := Option.isSome_iff_exists.mp marked
    rw [tokensAt_sign found]
    intro t head
    cases head
    exact ⟨Nat.le_refl _, (sign_length found).1⟩
  · cases text with
    | nil => cases ended
    | cons c rest =>
      cases ended
      rw [tokensAt_break]
      exact fresh

theorem reverse_addText (first : Place) (size : Nat) :
    (addText first size []).reverse = addText first size [] := by
  unfold addText
  split <;> rfl

/-- The tokens of text and of what comes after it. -/
theorem tokensAt_text (inert : ∀ c ∈ text, isInert c) (halts : Halts rest)
    (gapless : rest.head? = some '\n' → ∀ c ∈ text.getLast?, isGap c = false) (offset : Nat) :
    tokensAt ⟨offset, text ++ rest⟩ =
      addText ⟨offset, text ++ rest⟩ text.length [] ++ tokensAt ⟨offset + text.length, rest⟩ := by
  obtain ⟨before, gap, zero, cut⟩ :=
    @lineFrom_text ⟨offset, text ++ rest⟩ rest text inert none 0 offset
  have whole : tokenLine false 0 ⟨offset, text ++ rest⟩ = _ := cut
  rw [tokensAt, whole,
    halts.lineFrom_eq before gap _ _ fun ended => zero (fun _ => rfl) (gapless ended)]
  simp [TokenLine.onto, reverse_addText, tokensAt]

/-- Text that was begun before a place is cut off there. -/
theorem Steady.dropTo_eq (steady : Steady text) (before : Option Char)
    (reaches : held.Reaches ⟨offset, text⟩) (fresh : Fresh offset later) :
    Token.dropTo offset ((lineFrom before 0 held ⟨offset, text⟩).tokens.reverse ++ later) =
      tokensAt ⟨offset, text⟩ ++ later := by
  obtain ⟨plain, rest, rfl, inert, halts, gapless⟩ := steady
  obtain ⟨size, found⟩ := reaches
  have start : held.offset + size = offset := congrArg Place.offset found
  obtain ⟨before', gap, zero, cut⟩ := @lineFrom_text held rest plain inert before 0 offset
  have width : offset + plain.length - held.offset = size + plain.length := by omega
  rw [tokensAt_text inert halts gapless, cut,
    halts.lineFrom_eq before' gap _ _ fun ended => zero (fun _ => rfl) (gapless ended)]
  simp only [TokenLine.onto, List.reverse_append, width, reverse_addText, List.append_assoc]
  cases plain with
  | nil =>
    have dropped : ∀ t ∈ addText held (size + 0) [], t.stop ≤ offset := by
      intro t member
      rw [stop_of_mem_addText member]
      omega
    simp only [List.length_nil, Nat.add_zero] at dropped ⊢
    rw [dropTo_append dropped]
    exact (halts.fresh fresh).dropTo_eq
  | cons c plain =>
    have goesOn : ¬(Token.mk .text held (size + (c :: plain).length)).stop ≤ offset := by
      simp only [Token.stop, List.length_cons]
      omega
    have cutOff : (Token.mk .text held (size + (c :: plain).length)).startAt offset =
        ⟨.text, ⟨offset, c :: plain ++ rest⟩, (c :: plain).length⟩ := by
      have width : min (size + (c :: plain).length) (offset - held.offset) = size := by omega
      simp only [Token.startAt, Token.start, width, found, Nat.add_sub_cancel_left]
    have text : ∀ place : Place, ∀ n, n ≠ 0 → addText place n [] = [⟨.text, place, n⟩] := by
      intro place n some
      simp [addText, some]
    rw [text held _ (by simp), text _ _ (by simp), List.singleton_append, Token.dropTo,
      if_neg goesOn, cutOff]
    rfl

end Places

/-! ## What is read apart from its tokens -/

section Apart

variable {stretch text : Text}

/-- What is read apart from its tokens leaves the tokens of the text after it. -/
theorem dropTo_stretch (common : ∀ x ∈ stretch, isCommon x) (plain : isInert c = true)
    (filled : isGap c = false) (steady : Steady text) (offset : Nat)
    (fresh : Fresh (offset + stretch.length + 1) later) (last : Char) :
    Token.dropTo (offset + stretch.length + 1)
        (tokensAfter last ⟨offset, stretch ++ c :: text⟩ ++ later) =
      tokensAt ⟨offset + stretch.length + 1, text⟩ ++ later := by
  have apart : Apart stretch (c :: text) := by
    intro x head
    cases head
    simp [plain]
  obtain ⟨before', gap, held, tokens, alone⟩ :=
    lineFrom_stretch common apart (some last) 0 ⟨offset, stretch ++ c :: text⟩ offset ⟨0, rfl⟩
  have reaches : held.Reaches ⟨offset + stretch.length + 1, text⟩ := by
    obtain ⟨size, found⟩ := alone.reaches
    refine ⟨size + 1, ?_⟩
    rw [← Place.advance_advance, found]
    rfl
  rw [tokensAfter, alone.cut, lineFrom_inert plain, filled]
  simp only [TokenLine.onto, List.reverse_append, List.append_assoc]
  rw [dropTo_append fun t member => Nat.le_succ_of_le (alone.within t (List.mem_reverse.mp member))]
  exact steady.dropTo_eq (some c) reaches fresh

theorem closingBackticks_append {size : Nat}
    (quiet : ∀ t ∈ tokens, ∀ escaped, t.mark ≠ .backticks escaped) :
    closingBackticks? size (tokens ++ later) = closingBackticks? size later := by
  induction tokens with
  | nil => rfl
  | cons t tokens ih =>
    rw [List.cons_append, closingBackticks?]
    split
    · next escaped same => exact absurd same (quiet t (List.mem_cons_self ..) escaped)
    · exact ih fun x member => quiet x (List.mem_cons_of_mem _ member)

/-- A single backtick. -/
theorem sign_backtick (single : text.head? ≠ some '\x60') :
    sign? ('\x60' :: text) = some (.backticks false, 1, '\x60') := by
  have none : text.takeWhile (· == '\x60') = [] := by
    cases text with
    | nil => rfl
    | cons x text => exact List.takeWhile_cons_of_neg (by simpa using single)
  rw [sign?, none]
  rfl

/-- Code ends at the next backtick. -/
theorem closingBackticks_code (common : ∀ x ∈ stretch, isCommon x) (free : '\x60' ∉ stretch)
    (steady : Steady text) (single : text.head? ≠ some '\x60') (offset : Nat) (last : Char) :
    closingBackticks? 1 (tokensAfter last ⟨offset, stretch ++ '\x60' :: text⟩ ++ later) =
      some (⟨.backticks false, ⟨offset + stretch.length, '\x60' :: text⟩, 1⟩,
        tokensAt ⟨offset + stretch.length + 1, text⟩ ++ later) := by
  have apart : Apart stretch ('\x60' :: text) := by
    intro x head
    cases head
    simp [free]
  obtain ⟨before', gap, held, tokens, alone⟩ :=
    lineFrom_stretch common apart (some last) 0 ⟨offset, stretch ++ '\x60' :: text⟩ offset ⟨0, rfl⟩
  have closing := @lineFrom_sign before' gap (offset + stretch.length) held _ _ _ _
    (sign_backtick single)
  rw [tokensAfter, alone.cut, closing]
  simp only [TokenLine.onto, Place.advance, List.drop_succ_cons, List.drop_zero,
    List.reverse_append, List.reverse_cons, List.append_assoc]
  have silent : ∀ t ∈ (addText held (offset + stretch.length - held.offset) []).reverse,
      ∀ escaped, t.mark ≠ .backticks escaped := by
    intro t member escaped same
    rw [mark_of_mem_addText (List.mem_reverse.mp member)] at same
    cases same
  rw [closingBackticks_append fun t member => alone.quiet free t (List.mem_reverse.mp member),
    closingBackticks_append silent, List.singleton_append, closingBackticks?]
  simp [backtickCount, Token.chars]
  exact steady.tokensAfter_eq ..

/-- Where a line of text ends: its last token reaches to its line break. -/
theorem tokenLine_end (common : ∀ x ∈ stretch, isCommon x)
    (filled : ∀ x ∈ stretch.getLast?, isGap x = false) (offset : Nat) (rest : Text) :
    (tokenLine false 0 ⟨offset, stretch ++ '\n' :: rest⟩).lineBreak =
        some ⟨.softBreak, ⟨offset + stretch.length, '\n' :: rest⟩, 1⟩ ∧
      (tokenLine false 0 ⟨offset, stretch ++ '\n' :: rest⟩).next =
        ⟨offset + stretch.length + 1, rest⟩ ∧
      ∀ t ∈ (tokenLine false 0 ⟨offset, stretch ++ '\n' :: rest⟩).tokens.head?,
        t.stop = offset + stretch.length := by
  have apart : Apart stretch ('\n' :: rest) := by
    intro x head
    cases head
    simp [isBreak]
  obtain ⟨before, gap, held, tokens, alone⟩ :=
    lineFrom_stretch common apart none 0 ⟨offset, stretch ++ '\n' :: rest⟩ offset ⟨0, rfl⟩
  have whole : tokenLine false 0 ⟨offset, stretch ++ '\n' :: rest⟩ = _ := alone.cut
  rw [whole, alone.gapless (fun _ => rfl) filled]
  have ends : lineFrom before 0 held ⟨offset + stretch.length, '\n' :: rest⟩ =
      ⟨addText held (offset + stretch.length - held.offset) [],
        some ⟨.softBreak, ⟨offset + stretch.length, '\n' :: rest⟩, 1⟩,
        ⟨offset + stretch.length + 1, rest⟩⟩ := by
    simp [lineFrom, cutLine, isBreak, endLine, breakSize?, Place.advance]
  rw [ends]
  refine ⟨rfl, rfl, fun t head => ?_⟩
  have behind := alone.reaches.offset_le
  dsimp only [TokenLine.onto] at head behind
  unfold addText at head
  split at head
  next done =>
    rw [alone.follows t head]
    omega
  · cases head
    dsimp only [Token.stop]
    omega

end Apart

end DocSite.Markdown
