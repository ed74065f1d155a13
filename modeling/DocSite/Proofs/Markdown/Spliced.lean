/-
# DocSite.Proofs.Markdown.Spliced -- what edits leave as it is

Links may be reported at any spans, which may lie in each other or hold no destination. An edit is found for a link if
its destination is written in its span (`edit_eq_some`). The edits that are carried out are those that do not begin
within an earlier one (`carried`): they cut the source into stretches that are kept and destinations that give way
(`exists_swaps`), and one that is left out lies over one that is carried out (`carried_overlaps`). Offsets may as
well be counted in bytes: nothing is then taken out of a text that does not lie in it, between whole characters, and
what comes out is the same (`retargetBytes_eq`).
-/
import Mathlib.Data.List.Perm.Subperm
import DocSite.Proofs.Mapping
import DocSite.Proofs.Markdown.Splicing
import DocSite.Proofs.Text.Phrases

set_option autoImplicit false

namespace DocSite

namespace Text

variable {text before after : Text} {m n size : Nat}

/-! ## Sizes in bytes -/

theorem byteSize_append (before after : Text) : byteSize (before ++ after) = byteSize before + byteSize after := by
  induction before with
  | nil => exact (Nat.zero_add _).symm
  | cons c before ih => rw [List.cons_append, byteSize, byteSize, ih, Nat.add_assoc]

/-- The number of characters in the first bytes of a text, if these are whole characters. -/
def charsWithin? : (size : Nat) → Text → Option Nat
  | 0, _ => some 0
  | _ + 1, [] => none
  | size + 1, c :: rest =>
    if c.utf8Size ≤ size + 1 then (charsWithin? (size + 1 - c.utf8Size) rest).map (· + 1) else none

theorem charsWithin_append (before after : Text) :
    charsWithin? (byteSize before) (before ++ after) = some before.length := by
  induction before with
  | nil => rw [byteSize, charsWithin?]; rfl
  | cons c before ih =>
    have filled := c.utf8Size_pos
    obtain ⟨size, more⟩ : ∃ size, c.utf8Size + byteSize before = size + 1 :=
      Nat.exists_eq_add_of_lt (by omega : 0 < c.utf8Size + byteSize before) |>.imp fun size same => by omega
    rw [byteSize, more, List.cons_append, charsWithin?, if_pos (by omega), ← more, Nat.add_sub_cancel_left, ih]
    rfl

theorem exists_of_charsWithin (counted : charsWithin? size text = some n) :
    ∃ before after, text = before ++ after ∧ size = byteSize before ∧ n = before.length := by
  induction text generalizing size n with
  | nil =>
    cases size with
    | zero =>
      cases counted
      exact ⟨[], [], rfl, rfl, rfl⟩
    | succ size => cases counted
  | cons c rest ih =>
    cases size with
    | zero =>
      cases counted
      exact ⟨[], c :: rest, rfl, rfl, rfl⟩
    | succ size =>
      rw [charsWithin?] at counted
      split at counted
      next fits =>
        obtain ⟨k, later, rfl⟩ := Option.map_eq_some_iff.mp counted
        obtain ⟨before, after, rfl, same, rfl⟩ := ih later
        refine ⟨c :: before, after, rfl, ?_, rfl⟩
        rw [byteSize, ← same, Nat.add_sub_cancel' fits]
      · cases counted

/-- The size of what stands before a number of characters. -/
theorem eq_byteSize_of_charsWithin (counted : charsWithin? size (before ++ after) = some before.length) :
    size = byteSize before := by
  obtain ⟨front, back, same, rfl, length⟩ := exists_of_charsWithin counted
  rw [(List.append_inj same length).1]

/-- More characters have more bytes. -/
theorem byteSize_take_lt_iff (first : m ≤ text.length) (second : n ≤ text.length) :
    byteSize (text.take m) < byteSize (text.take n) ↔ m < n := by
  have grows {m n : Nat} (less : m < n) (within : n ≤ text.length) :
      byteSize (text.take m) < byteSize (text.take n) := by
    have inside : m < text.length := by omega
    obtain ⟨k, rfl⟩ := Nat.exists_eq_add_of_lt less
    rw [Nat.add_assoc, Nat.add_comm k, List.take_add, byteSize_append, List.drop_eq_getElem_cons inside,
      Nat.add_comm 1, List.take_succ_cons, byteSize]
    have filled := (text[m]).utf8Size_pos
    omega
  constructor
  · intro smaller
    by_contra notLess
    rcases Nat.eq_or_lt_of_le (Nat.le_of_not_lt notLess) with rfl | more
    · exact Nat.lt_irrefl _ smaller
    · exact Nat.lt_asymm smaller (grows more first)
  · exact fun less => grows less second

end Text

namespace Markdown

open Text

variable {source extension text dest mark : Text} {span found : Span} {link : Reported} {edit : Edit}
  {edits : List Edit} {here : Nat}

/-! ## Edits that are found -/

/-- A span has a slice if it is the place of a part of the source. -/
theorem slice_eq_some : slice? source span = some text ↔ ∃ before after, source = before ++ text ++ after ∧
    span.start = before.length ∧ span.stop = before.length + text.length := by
  unfold slice?
  constructor
  · intro sliced
    split at sliced
    next inside =>
      simp only [Bool.and_eq_true, decide_eq_true_eq] at inside
      obtain ⟨forward, within⟩ := inside
      injection sliced with same
      refine ⟨source.take span.start, source.drop span.stop, ?_, ?_, ?_⟩
      · have rest : (source.drop span.start).drop (span.stop - span.start) = source.drop span.stop := by
          rw [List.drop_drop, Nat.add_sub_cancel' forward]
        rw [← same, ← rest, List.append_assoc, List.take_append_drop, List.take_append_drop]
      · rw [List.length_take, Nat.min_eq_left (Nat.le_trans forward within)]
      · rw [← same, List.length_take, List.length_take, List.length_drop]
        omega
    · cases sliced
  · rintro ⟨before, after, rfl, start, stop⟩
    have inside : span.start ≤ span.stop ∧ span.stop ≤ (before ++ text ++ after).length := by
      rw [start, stop, List.length_append, List.length_append]
      omega
    rw [if_pos (by simpa using inside), start, stop, Nat.add_sub_cancel_left, List.append_assoc, List.drop_left,
      List.take_left]

/-- A text up to the end of its first mark, and the rest of it. A text without the mark is all rest. -/
def splitBehind (mark text : Text) : Text × Text :=
  match splitFirst? mark text with
  | some (before, after) => (before ++ mark, after)
  | none => ([], text)

theorem splitBehind_append (mark text : Text) : (splitBehind mark text).1 ++ (splitBehind mark text).2 = text := by
  unfold splitBehind
  split
  next split => exact append_of_splitFirst? split
  · rfl

/-- A destination is looked for in the text behind the mark. -/
theorem locate_eq (sliced : slice? source span = some text) :
    locate? source span mark dest = (splitFirst? dest (splitBehind mark text).2).map fun (before, _) =>
      ⟨span.start + (splitBehind mark text).1.length + before.length,
        span.start + (splitBehind mark text).1.length + before.length + dest.length⟩ := by
  rw [locate?, sliced, Option.bind_some]
  unfold indexOf? splitBehind
  cases split : splitFirst? mark text with
  | none => simp [Function.comp_def]
  | some parts =>
    obtain ⟨before, after⟩ := parts
    have rest : text.drop (before.length + mark.length) = after := by
      rw [← append_of_splitFirst? split, ← List.length_append]
      exact List.drop_left
    simp [rest, Function.comp_def]

/-- A destination that is found in a span is written there. -/
theorem locate_eq_some (located : locate? source span mark dest = some found) :
    slice? source found = some dest ∧ span.start ≤ found.start ∧ found.stop ≤ span.stop := by
  obtain ⟨text, sliced, -⟩ := Option.bind_eq_some_iff.mp located
  rw [locate_eq sliced] at located
  obtain ⟨⟨front, back⟩, split, rfl⟩ := Option.map_eq_some_iff.mp located
  have whole := splitBehind_append mark text
  rw [← append_of_splitFirst? split] at whole
  obtain ⟨before, after, rfl, start, stop⟩ := slice_eq_some.mp sliced
  have size := congrArg List.length whole
  simp only [List.length_append] at size
  refine ⟨slice_eq_some.mpr ⟨before ++ (splitBehind mark text).1 ++ front, back ++ after, ?_, ?_, ?_⟩, ?_, ?_⟩
  · conv => lhs; rw [← whole]
    simp only [List.append_assoc]
  · simp only [List.length_append, start]
  · simp only [List.length_append, start]
  · dsimp only
    omega
  · dsimp only
    omega

/-- The edit of a link puts the new destination in the place of the old one, within the span of the link. -/
theorem edit_eq_some (asked : link.edit? source extension = some edit) :
    retarget? extension link.dest = some edit.text ∧ slice? source edit.span = some link.dest ∧
      link.span.start ≤ edit.span.start ∧ edit.span.stop ≤ link.span.stop := by
  obtain ⟨target, retargeted, asked⟩ := Option.bind_eq_some_iff.mp asked
  obtain ⟨span, located, rfl⟩ := Option.map_eq_some_iff.mp asked
  exact ⟨retargeted, locate_eq_some located⟩

/-! ## Edits that are carried out -/

/-- The edits, which are sorted, that do not begin before `here` or within an earlier one. -/
def carried (here : Nat) : List Edit → List Edit
  | [] => []
  | edit :: edits =>
    if edit.span.start < here then carried here edits else edit :: carried edit.span.stop edits

theorem carried_sublist (here : Nat) (edits : List Edit) : (carried here edits).Sublist edits := by
  induction edits generalizing here with
  | nil => exact .slnil
  | cons edit edits ih =>
    rw [carried]
    split
    · exact (ih here).cons edit
    · exact (ih edit.span.stop).cons_cons edit

/-- Whether two edits replace some character both. -/
def Edit.Overlaps (first second : Edit) : Prop :=
  ∃ offset, (first.span.start ≤ offset ∧ offset < first.span.stop) ∧
    second.span.start ≤ offset ∧ offset < second.span.stop

/-- An edit that is left out begins within an earlier one that is carried out. -/
theorem carried_overlaps (sorted : edits.Pairwise Edit.Before) (filled : ∀ e ∈ edits, e.span.start < e.span.stop)
    (member : edit ∈ edits) : edit ∈ carried here edits ∨ edit.span.start < here ∨
      ∃ done ∈ carried here edits, done.Overlaps edit ∧ done.span.start ≤ edit.span.start := by
  induction edits generalizing here with
  | nil => cases member
  | cons first edits ih =>
    obtain ⟨least, sorted⟩ := List.pairwise_cons.mp sorted
    have filled' : ∀ e ∈ edits, e.span.start < e.span.stop := fun e later => filled e (List.mem_cons_of_mem _ later)
    rw [carried]
    split
    next begun =>
      rcases List.mem_cons.mp member with rfl | later
      · exact .inr (.inl begun)
      · exact ih sorted filled' later
    next free =>
      rcases List.mem_cons.mp member with rfl | later
      · exact .inl (List.mem_cons_self ..)
      rcases @ih first.span.stop sorted filled' later with done | within | ⟨done, among, overlaps⟩
      · exact .inl (List.mem_cons_of_mem _ done)
      · have before : first.span.start ≤ edit.span.start := least edit later
        exact .inr (.inr ⟨first, List.mem_cons_self ..,
          ⟨edit.span.start, ⟨before, within⟩, Nat.le_refl _, filled edit member⟩, before⟩)
      · exact .inr (.inr ⟨done, List.mem_cons_of_mem _ among, overlaps⟩)

/-! ## Stretches that are kept -/

/-- A text that is kept, and what gives way behind it. -/
structure Swap where
  kept : Text
  dest : Text
  target : Text

namespace Swap

/-- The text before anything gives way; the last of it is kept. -/
def before (last : Text) : List Swap → Text
  | [] => last
  | swap :: rest => swap.kept ++ swap.dest ++ before last rest

/-- The text after everything has given way. -/
def after (last : Text) : List Swap → Text
  | [] => last
  | swap :: rest => swap.kept ++ swap.target ++ after last rest

/-- What gives way, as edits of a text that begins at an offset. -/
def asEdits (here : Nat) : List Swap → List Edit
  | [] => []
  | swap :: rest =>
    let start := here + swap.kept.length
    let stop := start + swap.dest.length
    ⟨⟨start, stop⟩, swap.target⟩ :: asEdits stop rest

end Swap

/-- What is left of a source from an offset on is what stands before a slice, the slice and what stands behind it. -/
theorem cut_slice {span : Span} {dest : Text} (sliced : slice? source span = some dest)
    (free : here ≤ span.start) :
    ∃ kept, (source.drop here).take (span.start - here) = kept ∧
      source.drop here = kept ++ (dest ++ source.drop span.stop) ∧
      (source.drop here).drop (span.stop - here) = source.drop span.stop ∧
      here + kept.length = span.start ∧ span.start + dest.length = span.stop ∧
      span.stop ≤ source.length := by
  obtain ⟨front, back, parts, start, stop⟩ := slice_eq_some.mp sliced
  have behind : source.drop span.stop = back := by
    rw [stop, ← List.length_append, parts]
    exact List.drop_left
  have cut : source.drop here = front.drop here ++ (dest ++ back) := by
    rw [parts, List.append_assoc, List.drop_append_of_le_length (by omega)]
  refine ⟨front.drop here, ?_, by rw [cut, behind], ?_, ?_, by omega, ?_⟩
  · rw [cut, start, ← List.length_drop, List.take_left]
  · rw [List.drop_drop]
    congr 1
    omega
  · rw [List.length_drop]
    omega
  · rw [parts, List.length_append, List.length_append]
    omega

/-- Edits cut the rest of a source into stretches; the edits of these are those that are carried out. -/
theorem exists_swaps (written : ∀ e ∈ edits, ∃ dest, slice? source e.span = some dest)
    (within : here ≤ source.length) : ∃ swaps last,
      source.drop here = Swap.before last swaps ∧
      splice here (source.drop here) edits = Swap.after last swaps ∧
      Swap.asEdits here swaps = carried here edits ∧
      ∀ swap ∈ swaps, ∃ e ∈ edits, slice? source e.span = some swap.dest ∧ e.text = swap.target := by
  induction edits generalizing here with
  | nil => exact ⟨[], source.drop here, rfl, rfl, rfl, nofun⟩
  | cons edit edits ih =>
    obtain ⟨⟨dest, sliced⟩, written⟩ := List.forall_mem_cons.mp written
    rw [splice, carried]
    by_cases begun : edit.span.start < here
    · obtain ⟨swaps, last, whole, result, done, own⟩ := ih written within
      rw [if_pos begun, if_pos begun]
      refine ⟨swaps, last, whole, result, done, fun swap member => ?_⟩
      obtain ⟨e, later, same⟩ := own swap member
      exact ⟨e, List.mem_cons_of_mem _ later, same⟩
    · obtain ⟨kept, front, cut, rest, first, second, inside⟩ := cut_slice sliced (Nat.le_of_not_lt begun)
      obtain ⟨swaps, last, whole, result, done, own⟩ := ih written inside
      rw [if_neg begun, if_neg begun, rest, result, front]
      refine ⟨⟨kept, dest, edit.text⟩ :: swaps, last, ?_, rfl, ?_, ?_⟩
      · rw [Swap.before, ← whole, cut, List.append_assoc]
      · rw [Swap.asEdits, first, second, done]
      · intro swap member
        rcases List.mem_cons.mp member with rfl | member
        · exact ⟨edit, List.mem_cons_self .., sliced, rfl⟩
        · obtain ⟨e, later, same⟩ := own swap member
          exact ⟨e, List.mem_cons_of_mem _ later, same⟩

/-! ## Offsets in bytes -/

/-- The span whose offsets in bytes are given, if characters begin there. -/
def Span.ofBytes? (source : Text) (span : Span) : Option Span :=
  (charsWithin? span.start source).bind fun start => (charsWithin? span.stop source).map fun stop => ⟨start, stop⟩

/-- A span with its offsets in bytes. -/
def Span.inBytes (source : Text) (span : Span) : Span :=
  ⟨byteSize (source.take span.start), byteSize (source.take span.stop)⟩

/-- The part of a source between two offsets in bytes, if it lies within the source and characters begin there. -/
def sliceBytes? (source : Text) (span : Span) : Option Text := (span.ofBytes? source).bind (slice? source)

/-- The size of a text up to the end of its first mark. -/
def sizeBehind (mark text : Text) : Nat :=
  match splitFirst? mark text with
  | some (before, _) => byteSize before + byteSize mark
  | none => 0

/-- Where a destination stands in a span, if it does, with all offsets in bytes. There is no answer at all if a part of
the text is asked for that does not lie in it. -/
def locateBytes? (source : Text) (span : Span) (mark dest : Text) : Option (Option Span) :=
  match sliceBytes? source span with
  | none => some none
  | some text =>
    (sliceBytes? text ⟨sizeBehind mark text, byteSize text⟩).map fun rest =>
      (splitFirst? dest rest).map fun (before, _) =>
        ⟨span.start + sizeBehind mark text + byteSize before,
          span.start + sizeBehind mark text + byteSize before + byteSize dest⟩

/-- The edit that a link asks for, if it does, with all offsets in bytes. -/
def Reported.editBytes? (source extension : Text) (link : Reported) : Option (Option Edit) :=
  match retarget? extension link.dest with
  | none => some none
  | some target =>
    (locateBytes? source link.span link.mark link.dest).map fun found => found.map fun span => ⟨span, target⟩

/-- Carries out edits with offsets in bytes, which are sorted, on what is left of a source from `here` on. There is no
answer if a part of the source is asked for that does not lie in it. -/
def spliceBytes? (source : Text) (here : Nat) : List Edit → Option Text
  | [] => sliceBytes? source ⟨here, byteSize source⟩
  | edit :: edits =>
    if edit.span.start < here then spliceBytes? source here edits
    else (sliceBytes? source ⟨here, edit.span.start⟩).bind fun kept =>
      (spliceBytes? source edit.span.stop edits).map fun rest => kept ++ edit.text ++ rest

/-- Carries out the edits that links ask for, with all offsets in bytes. -/
def retargetBytes? (source extension : Text) (links : List Reported) : Option (Option Text) :=
  (links.mapM (Reported.editBytes? source extension)).bind fun found =>
    match found.filterMap id with
    | [] => some none
    | edits => (spliceBytes? source 0 (sortEdits edits)).map some

/-- A link whose span has its offsets in bytes. There is none if its span does not lie between whole characters. -/
def Reported.ofBytes? (source : Text) (link : Reported) : Option Reported :=
  (link.span.ofBytes? source).map fun span => ⟨link.dest, span, link.mark⟩

/-- An edit with its offsets in bytes. -/
def Edit.inBytes (source : Text) (edit : Edit) : Edit := ⟨edit.span.inBytes source, edit.text⟩

theorem sliceBytes_append (before text after : Text) :
    sliceBytes? (before ++ text ++ after) ⟨byteSize before, byteSize (before ++ text)⟩ = some text := by
  have start : charsWithin? (byteSize before) (before ++ text ++ after) = some before.length := by
    rw [List.append_assoc]
    exact charsWithin_append before _
  have stop := charsWithin_append (before ++ text) after
  simp only [sliceBytes?, Span.ofBytes?, start, stop, Option.bind_some, Option.map_some]
  exact slice_eq_some.mpr ⟨before, after, rfl, rfl, List.length_append⟩

theorem sizeBehind_eq (mark text : Text) : sizeBehind mark text = byteSize (splitBehind mark text).1 := by
  unfold sizeBehind splitBehind
  cases splitFirst? mark text with
  | none => rfl
  | some parts => exact (byteSize_append _ _).symm

/-- A destination is located at the same place, whether offsets count characters or bytes. -/
theorem locateBytes_eq (source : Text) (span : Span) (mark dest : Text) :
    locateBytes? source span mark dest = some ((span.ofBytes? source).bind fun inner =>
      (locate? source inner mark dest).map (Span.inBytes source)) := by
  unfold locateBytes? sliceBytes?
  cases chars : span.ofBytes? source with
  | none => rfl
  | some inner =>
    cases sliced : slice? source inner with
    | none => simp [locate?, sliced]
    | some text =>
      have whole := splitBehind_append mark text
      have rest := sliceBytes_append (splitBehind mark text).1 (splitBehind mark text).2 []
      rw [List.append_nil, whole, ← sizeBehind_eq, sliceBytes?] at rest
      simp only [Option.bind_some, sliced, rest, Option.map_some, locate_eq sliced, Option.map_map]
      congr 1
      cases split : splitFirst? dest (splitBehind mark text).2 with
      | none => rfl
      | some parts =>
        obtain ⟨front, back⟩ := parts
        obtain ⟨before, after, same, start, stop⟩ := slice_eq_some.mp sliced
        obtain ⟨first, counted, later⟩ := Option.bind_eq_some_iff.mp chars
        obtain ⟨second, -, rfl⟩ := Option.map_eq_some_iff.mp later
        obtain rfl : first = before.length := start
        have counted' : charsWithin? span.start (before ++ (text ++ after)) = some before.length := by
          rwa [← List.append_assoc, ← same]
        have size : span.start = byteSize before := eq_byteSize_of_charsWithin counted'
        have parts : source = before ++ (splitBehind mark text).1 ++ front ++ dest ++ (back ++ after) := by
          rw [same]
          conv => lhs; rw [← whole, ← append_of_splitFirst? split]
          simp only [List.append_assoc]
        have toDest : source.take (before.length + (splitBehind mark text).1.length + front.length) =
            before ++ (splitBehind mark text).1 ++ front := by
          rw [parts, ← List.length_append, ← List.length_append, List.append_assoc _ dest, List.take_left]
        have pastDest : source.take (before.length + (splitBehind mark text).1.length + front.length + dest.length) =
            before ++ (splitBehind mark text).1 ++ front ++ dest := by
          conv => lhs; rw [parts]
          rw [← List.length_append, ← List.length_append, ← List.length_append, List.take_left]
        simp only [Option.map_some, Function.comp_apply, Span.inBytes, toDest, pastDest, byteSize_append, size, sizeBehind_eq]

theorem editBytes_eq (source extension : Text) (link : Reported) :
    link.editBytes? source extension =
      some (((link.ofBytes? source).bind (Reported.edit? source extension)).map (Edit.inBytes source)) := by
  unfold Reported.editBytes? Reported.ofBytes?
  cases retargeted : retarget? extension link.dest with
  | none =>
    cases link.span.ofBytes? source with
    | none => rfl
    | some inner => simp [Reported.edit?, retargeted]
  | some target =>
    rw [locateBytes_eq]
    cases link.span.ofBytes? source with
    | none => rfl
    | some inner =>
      cases located : locate? source inner link.mark link.dest with
      | none => simp [Reported.edit?, retargeted, located]
      | some found => simp [Reported.edit?, retargeted, located, Edit.inBytes]

/-- An edit is put in at the same place, whether offsets count characters or bytes. -/
theorem insertEdit_inBytes (inside : edit.span.start ≤ source.length)
    (insides : ∀ e ∈ edits, e.span.start ≤ source.length) :
    insertEdit (edit.inBytes source) (edits.map (Edit.inBytes source)) =
      (insertEdit edit edits).map (Edit.inBytes source) := by
  induction edits with
  | nil => rfl
  | cons first rest ih =>
    have less : (edit.inBytes source).span.start < (first.inBytes source).span.start ↔
        edit.span.start < first.span.start :=
      byteSize_take_lt_iff inside (insides first (List.mem_cons_self ..))
    rw [List.map_cons, insertEdit, insertEdit, ih fun e later => insides e (List.mem_cons_of_mem _ later)]
    by_cases before : edit.span.start < first.span.start
    · rw [if_pos before, if_pos (less.mpr before)]
      rfl
    · rw [if_neg before, if_neg (mt less.mp before)]
      rfl

theorem sortEdits_inBytes (within : ∀ e ∈ edits, e.span.start ≤ source.length) :
    sortEdits (edits.map (Edit.inBytes source)) = (sortEdits edits).map (Edit.inBytes source) := by
  -- The induction is on the edits that are still to be put in; those that are sorted are in the source, too.
  have all {sorted : List Edit} (insides : ∀ e ∈ sorted, e.span.start ≤ source.length) :
      (edits.map (Edit.inBytes source)).foldl (fun sorted edit => insertEdit edit sorted)
          (sorted.map (Edit.inBytes source)) =
        (edits.foldl (fun sorted edit => insertEdit edit sorted) sorted).map (Edit.inBytes source) := by
    induction edits generalizing sorted with
    | nil => rfl
    | cons edit edits ih =>
      have inside := within edit (List.mem_cons_self ..)
      rw [List.map_cons, List.foldl_cons, List.foldl_cons, insertEdit_inBytes inside insides]
      refine ih (fun e later => within e (List.mem_cons_of_mem _ later)) fun e member => ?_
      rcases List.mem_cons.mp ((insertEdit_perm edit sorted).mem_iff.mp member) with rfl | member
      · exact inside
      · exact insides e member
  have empty : ∀ e ∈ ([] : List Edit), e.span.start ≤ source.length :=
    fun e member => absurd member List.not_mem_nil
  exact all empty

/-- Nothing is taken out of a source that does not lie in it, and the same comes out. -/
theorem spliceBytes_eq (within : ∀ e ∈ edits, e.span.start ≤ e.span.stop ∧ e.span.stop ≤ source.length)
    (inside : here ≤ source.length) :
    spliceBytes? source (byteSize (source.take here)) (edits.map (Edit.inBytes source)) =
      some (splice here (source.drop here) edits) := by
  induction edits generalizing here with
  | nil =>
    have rest := sliceBytes_append (source.take here) (source.drop here) []
    rw [List.append_nil, List.take_append_drop] at rest
    exact rest
  | cons edit edits ih =>
    obtain ⟨forward, bounded⟩ := within edit (List.mem_cons_self ..)
    have within' : ∀ e ∈ edits, e.span.start ≤ e.span.stop ∧ e.span.stop ≤ source.length :=
      fun e later => within e (List.mem_cons_of_mem _ later)
    have less : (edit.inBytes source).span.start < byteSize (source.take here) ↔ edit.span.start < here :=
      byteSize_take_lt_iff (Nat.le_trans forward bounded) inside
    rw [List.map_cons, spliceBytes?, splice]
    by_cases begun : edit.span.start < here
    · rw [if_pos begun, if_pos (less.mpr begun)]
      exact ih within' inside
    · have free : here ≤ edit.span.start := Nat.le_of_not_lt begun
      have kept := sliceBytes_append (source.take here) ((source.drop here).take (edit.span.start - here))
        (source.drop edit.span.start)
      have front : source.take here ++ (source.drop here).take (edit.span.start - here) =
          source.take edit.span.start := by
        rw [← List.take_add, Nat.add_sub_cancel' free]
      have rest : (source.drop here).drop (edit.span.stop - here) = source.drop edit.span.stop := by
        rw [List.drop_drop, Nat.add_sub_cancel' (Nat.le_trans free forward)]
      rw [front, List.take_append_drop] at kept
      have later := ih within' bounded
      rw [if_neg begun, if_neg (mt less.mp begun), rest]
      show (sliceBytes? source ⟨byteSize (source.take here), byteSize (source.take edit.span.start)⟩).bind _ = _
      rw [kept, Option.bind_some]
      show (spliceBytes? source (byteSize (source.take edit.span.stop)) _).map _ = _
      rw [later, Option.map_some]
      rfl

/-- Counting in bytes makes no difference to the links that are retargeted: every part that is taken out of a text lies
in it, between whole characters. A span that does not is that of a link without an edit. -/
theorem retargetBytes_eq (source extension : Text) (links : List Reported) :
    retargetBytes? source extension links =
      some (retargetReported? source extension (links.filterMap (Reported.ofBytes? source))) := by
  have mapped : links.mapM (Reported.editBytes? source extension) = some (links.map fun link =>
      ((link.ofBytes? source).bind (Reported.edit? source extension)).map (Edit.inBytes source)) := by
    rw [Mapping.mapM_eq_some_iff_map, List.map_map]
    exact List.map_congr_left fun link _ => editBytes_eq source extension link
  have found : (links.map fun link =>
      ((link.ofBytes? source).bind (Reported.edit? source extension)).map (Edit.inBytes source)).filterMap id =
        ((links.filterMap (Reported.ofBytes? source)).filterMap (Reported.edit? source extension)).map
          (Edit.inBytes source) := by
    rw [List.filterMap_map, List.filterMap_filterMap, List.map_filterMap]
    rfl
  rw [retargetBytes?, mapped, Option.bind_some, found, retargetReported?]
  have within : ∀ e ∈ (links.filterMap (Reported.ofBytes? source)).filterMap (Reported.edit? source extension),
      e.span.start ≤ e.span.stop ∧ e.span.stop ≤ source.length := fun e member => by
    obtain ⟨link, -, asked⟩ := List.mem_filterMap.mp member
    obtain ⟨before, after, whole, start, stop⟩ := slice_eq_some.mp (edit_eq_some asked).2.1
    rw [whole, List.length_append, List.length_append]
    omega
  generalize (links.filterMap (Reported.ofBytes? source)).filterMap (Reported.edit? source extension) = asked at within ⊢
  cases asked with
  | nil => rfl
  | cons edit edits =>
    have sorted : ∀ e ∈ sortEdits (edit :: edits), e.span.start ≤ e.span.stop ∧ e.span.stop ≤ source.length :=
      fun e member => within e ((sortEdits_perm _).mem_iff.mp member)
    have result := spliceBytes_eq sorted (Nat.zero_le source.length)
    rw [← sortEdits_inBytes fun e member => Nat.le_trans (within e member).1 (within e member).2] at result
    exact congrArg (Option.map some) result

/-! ## Links that are retargeted -/

theorem retargetReported_eq_none {links : List Reported} :
    retargetReported? source extension links = none ↔ ∀ link ∈ links, link.edit? source extension = none := by
  rw [← List.filterMap_eq_nil_iff, retargetReported?]
  cases links.filterMap (Reported.edit? source extension) with
  | nil => simp
  | cons edit edits => simp

theorem getD_retargetReported (source extension : Text) (links : List Reported) :
    (retargetReported? source extension links).getD source =
      splice 0 source (sortEdits (links.filterMap (Reported.edit? source extension))) := by
  rw [retargetReported?]
  cases links.filterMap (Reported.edit? source extension) with
  | nil => rfl
  | cons edit edits => rfl

/-- An edit is asked for by a link, whose destination is written where the edit stands. -/
theorem link_of_mem_sortEdits {links : List Reported}
    (member : edit ∈ sortEdits (links.filterMap (Reported.edit? source extension))) :
    ∃ link ∈ links, retarget? extension link.dest = some edit.text ∧ slice? source edit.span = some link.dest := by
  obtain ⟨link, reported, asked⟩ := List.mem_filterMap.mp ((sortEdits_perm _).mem_iff.mp member)
  obtain ⟨retargeted, written, -⟩ := edit_eq_some asked
  exact ⟨link, reported, retargeted, written⟩

/-- There is no edit of an empty stretch, since an empty destination leads to no source. -/
theorem filled_of_mem_sortEdits {links : List Reported}
    (member : edit ∈ sortEdits (links.filterMap (Reported.edit? source extension))) :
    edit.span.start < edit.span.stop := by
  obtain ⟨link, -, retargeted, written⟩ := link_of_mem_sortEdits member
  obtain ⟨before, rest, -, start, stop⟩ := slice_eq_some.mp written
  have solid : link.dest ≠ [] := by
    rintro empty
    rw [empty] at retargeted
    cases retargeted
  have positive := List.length_pos_iff.mpr solid
  omega

/-- Whatever links are reported, retargeting them puts new destinations in the place of old ones, which lie apart, and
keeps the stretches between them as they are and in their order. An edit is left out only if it lies over one that is
carried out and begins no later, and there is no new text just if no edit is found. The same comes out if offsets are
counted in bytes, and then no part is taken out of a text that does not lie in it. -/
theorem retargets_alone (source extension : Text) (links : List Reported) :
    (retargetReported? source extension links = none ↔ ∀ link ∈ links, link.edit? source extension = none) ∧
    (∃ swaps last,
      source = Swap.before last swaps ∧
      (retargetReported? source extension links).getD source = Swap.after last swaps ∧
      (∀ swap ∈ swaps, retarget? extension swap.dest = some swap.target ∧
        ∃ link ∈ links, link.dest = swap.dest) ∧
      (Swap.asEdits 0 swaps).Subperm (links.filterMap (Reported.edit? source extension)) ∧
      ∀ link ∈ links, ∀ edit, link.edit? source extension = some edit →
        edit ∈ Swap.asEdits 0 swaps ∨
          ∃ done ∈ Swap.asEdits 0 swaps, done.Overlaps edit ∧ done.span.start ≤ edit.span.start) ∧
    retargetBytes? source extension links =
      some (retargetReported? source extension (links.filterMap (Reported.ofBytes? source))) := by
  refine ⟨retargetReported_eq_none, ?_, retargetBytes_eq source extension links⟩
  have perm := sortEdits_perm (links.filterMap (Reported.edit? source extension))
  have written : ∀ e ∈ sortEdits (links.filterMap (Reported.edit? source extension)),
      ∃ dest, slice? source e.span = some dest := fun e member => by
    obtain ⟨link, -, -, written⟩ := link_of_mem_sortEdits member
    exact ⟨link.dest, written⟩
  obtain ⟨swaps, last, whole, after, done, own⟩ := exists_swaps written (Nat.zero_le source.length)
  refine ⟨swaps, last, whole, (getD_retargetReported source extension links).trans after, fun swap member => ?_, ?_,
    fun link member edit asked => ?_⟩
  · obtain ⟨e, among, sliced, target⟩ := own swap member
    obtain ⟨link, reported, retargeted, sliced'⟩ := link_of_mem_sortEdits among
    have same : link.dest = swap.dest := Option.some.inj (sliced'.symm.trans sliced)
    exact ⟨by rw [← same, retargeted, target], link, reported, same⟩
  · rw [done]
    exact (carried_sublist 0 _).subperm.trans perm.subperm
  · have among := perm.mem_iff.mpr (List.mem_filterMap.mpr ⟨link, member, asked⟩)
    have filled : ∀ e ∈ sortEdits (links.filterMap (Reported.edit? source extension)), e.span.start < e.span.stop :=
      fun e member => filled_of_mem_sortEdits member
    rw [done]
    rcases carried_overlaps (sortEdits_sorted _) filled among with carried | before | overlaid
    · exact .inl carried
    · exact absurd before (Nat.not_lt_zero _)
    · exact .inr overlaid

/-- Two links are reported at one span. The destination of the first is the end of that of the second, so that its edit
begins later and is left out. -/
def nestedLinks : List Reported :=
  [⟨"b.md".toList, ⟨0, 11⟩, "](".toList⟩, ⟨"a/b.md".toList, ⟨0, 11⟩, "](".toList⟩]

theorem inner_destination_is_left_out :
    retargetReported? "[x](a/b.md)é".toList "html".toList nestedLinks = some "[x](a/b.html)é".toList ∧
      ∃ link ∈ nestedLinks, link.edit? "[x](a/b.md)é".toList "html".toList = some ⟨⟨6, 10⟩, "b.html".toList⟩ ∧
        ∃ swaps last, "[x](a/b.md)é".toList = Swap.before last swaps ∧
          "[x](a/b.html)é".toList = Swap.after last swaps ∧
          (⟨⟨6, 10⟩, "b.html".toList⟩ ∈ Swap.asEdits 0 swaps ∨
            ∃ done ∈ Swap.asEdits 0 swaps, done.Overlaps ⟨⟨6, 10⟩, "b.html".toList⟩ ∧ done.span.start ≤ 6) := by
  have result : retargetReported? "[x](a/b.md)é".toList "html".toList nestedLinks =
      some "[x](a/b.html)é".toList := by decide +kernel
  have first : Reported.edit? "[x](a/b.md)é".toList "html".toList ⟨"b.md".toList, ⟨0, 11⟩, "](".toList⟩ =
      some ⟨⟨6, 10⟩, "b.html".toList⟩ := by decide +kernel
  obtain ⟨-, ⟨swaps, last, whole, changed, -, -, carriedOut⟩, -⟩ :=
    retargets_alone "[x](a/b.md)é".toList "html".toList nestedLinks
  rw [result] at changed
  exact ⟨result, _, List.mem_cons_self .., first, swaps, last, whole, changed,
    carriedOut _ (List.mem_cons_self ..) _ first⟩

end Markdown

end DocSite
