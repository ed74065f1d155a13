/-
# DocSite.Proofs.Markdown.Part -- the parts of a draft are read as they were meant

A link definition on a line of its own is read as it was written (`readDefinition_source`), and so is
code between fences, whatever its lines hold besides backticks (`readFenced_code`). `Part.read` says of
each part of a draft which block and which definitions it adds to the outline, and what the block means.
-/
import DocSite.Proofs.Markdown.Paragraph

set_option autoImplicit false

namespace DocSite.Markdown

open Text

section Definitions

variable {label dest title rest : Text}

/-! ## Link definitions -/

theorem skipSpace_space (filled : rest.head?.any fun c => !isSpacing c) (limit offset : Nat)
    (broken : Bool) :
    skipSpace? [] (limit + 1) broken ⟨offset, ' ' :: rest⟩ = some (⟨offset + 1, rest⟩, broken) := by
  cases rest with
  | nil => simp at filled
  | cons c rest =>
    have plain : isGap c = false ∧ isBreak c = false := by simpa [isSpacing] using filled
    have space : isGap ' ' = true := rfl
    have gap : gapSize (' ' :: c :: rest) = 1 := by simp [gapSize, plain, space]
    simp [skipSpace?, gap, Place.advance, breakSize_cons plain.2]

/-- A definition ends at a blank line. -/
theorem skipSpace_blank (limit offset : Nat) (rest : Text) :
    skipSpace? [] (limit + 1) false ⟨offset, '\n' :: '\n' :: rest⟩ = none := rfl

theorem definitionTitle_title (proper : isTitle title = true) (limit offset : Nat)
    (enough : title.length < limit) (read : Text) :
    definitionTitle? [] '"' limit read ⟨offset, title ++ '"' :: rest⟩ =
      some (read.reverse ++ title, ⟨offset + title.length + 1, rest⟩) := by
  induction title generalizing limit offset read with
  | nil =>
    obtain ⟨limit, rfl⟩ : ∃ n, limit = n + 1 := ⟨limit - 1, by omega⟩
    simp [definitionTitle?, Place.advance]
  | cons c title ih =>
    obtain ⟨limit, rfl⟩ : ∃ n, limit = n + 1 := ⟨limit - 1, by omega⟩
    simp only [isTitle, List.all_cons, Bool.and_eq_true, bne_iff_ne, ne_eq] at proper
    obtain ⟨⟨mild, quote⟩, proper⟩ := proper
    obtain ⟨inside, slash, -, -⟩ := isMild_plain mild
    have rested := ih (by simpa [isTitle] using proper) limit (offset + 1)
      (by simp only [List.length_cons] at enough; omega) (c :: read)
    rw [definitionTitle?]
    simp only [List.cons_append, quote, inside, slash, Place.advance, List.drop_succ_cons,
      List.drop_zero,
      if_false, Bool.false_eq_true]
    simp only [Char.reduceEq, decide_false, Bool.and_false, Bool.false_eq_true, if_false, rested]
    simp
    omega

/-- The colon of a definition stands behind its label. -/
theorem advance_label (offset : Nat) (label rest : Text) :
    Place.advance (label.length + 1 + 1) ⟨offset, '[' :: (label ++ ']' :: rest)⟩ =
      ⟨offset + label.length + 2, rest⟩ := by
  rw [Place.advance, List.drop_succ_cons, ← List.drop_drop, List.drop_left]
  rfl

/-- The destination of a definition stands after a space. -/
theorem skipSpace_dest (destined : isDest dest = true) (offset : Nat) (rest : Text) :
    skipSpace? [] 2 false ⟨offset, ' ' :: (dest ++ rest)⟩ = some (⟨offset + 1, dest ++ rest⟩, false) := by
  obtain ⟨first, dest', rfl, filled⟩ := dest_cons destined
  exact skipSpace_space (by simp [filled]) 1 offset false

/-- A title is read up to the quote that closes it, after a space and the quote that opens it. -/
theorem definitionTitle_source (titled : isTitle title = true) (limit offset : Nat)
    (enough : (titleSource (some title)).length ≤ limit) (rest : Text) :
    skipSpace? [] 2 false ⟨offset, titleSource (some title) ++ rest⟩ =
        some (⟨offset + 1, '"' :: (title ++ '"' :: rest)⟩, false) ∧
      definitionTitle? [] '"' limit [] ⟨offset + 2, title ++ '"' :: rest⟩ =
        some (title, ⟨offset + (titleSource (some title)).length, rest⟩) := by
  have text : titleSource (some title) ++ rest = ' ' :: '"' :: (title ++ '"' :: rest) := by
    simp [titleSource]
  have sizes : offset + 2 + title.length + 1 = offset + (titleSource (some title)).length := by
    simp only [titleSource, List.length_cons, List.length_append, List.length_nil]
    omega
  have shorter : title.length < limit := by
    simp only [titleSource, List.length_cons, List.length_append] at enough
    omega
  constructor
  · rw [text]
    exact skipSpace_space rfl 1 offset false
  · rw [definitionTitle_title titled limit (offset + 2) shorter [], sizes]
    rfl

/-- A link definition before a blank line is read as it was written. -/
theorem readDefinition_source {title : Option Text} (labelled : isLabel label = true)
    (destined : isDest dest = true) (titled : title.all isTitle = true) (limit offset : Nat)
    (enough : (definitionSource label dest title).length ≤ limit) :
    readDefinition? [] limit ⟨offset, definitionSource label dest title ++ '\n' :: '\n' :: rest⟩ =
      some (⟨label, dest, title.getD [], ⟨offset, offset + (definitionSource label dest title).length⟩⟩,
        ⟨offset + (definitionSource label dest title).length, '\n' :: '\n' :: rest⟩) := by
  have source : definitionSource label dest title ++ '\n' :: '\n' :: rest =
      '[' :: (label ++ ']' :: ':' :: ' ' :: (dest ++ (titleSource title ++ '\n' :: '\n' :: rest))) := by
    simp [definitionSource]
  have width : offset + (definitionSource label dest title).length =
      offset + label.length + 4 + dest.length + (titleSource title).length := by
    simp only [definitionSource, List.length_cons, List.length_append]
    omega
  have limited : (titleSource title).length ≤ limit := by
    simp only [definitionSource, List.length_cons, List.length_append] at enough
    omega
  have begun := skipSpace_dest destined (offset + label.length + 3) (titleSource title ++ '\n' :: '\n' :: rest)
  have after : ∀ tail : Text, Place.advance 1 ⟨offset + label.length + 2, ':' :: tail⟩ =
      ⟨offset + label.length + 3, tail⟩ := fun _ => rfl
  have read := @readDest_dest dest (titleSource title ++ '\n' :: '\n' :: rest) destined
    (by cases title <;> rfl)
  have filled : dest.length ≠ 0 := by
    obtain ⟨first, dest', rfl, -⟩ := dest_cons destined
    exact Nat.succ_ne_zero _
  rw [source, width]
  simp only [readDefinition?, readLabel_label _ labelled, Option.bind_some, advance_label, List.head?_cons,
    ne_eq, not_true_eq_false, if_false, after, begun, read, filled, Place.advance_text, unescape_dest destined]
  have sum : offset + label.length + 3 + 1 + dest.length = offset + label.length + 4 + dest.length := rfl
  rw [sum]
  generalize offset + label.length + 4 + dest.length = stop
  cases title with
  | none =>
    simp only [titleSource, List.nil_append, skipSpace_blank]
    rfl
  | some title =>
    have proper : isTitle title = true := by simpa using titled
    obtain ⟨spaced, quoted⟩ := definitionTitle_source proper limit stop limited ('\n' :: '\n' :: rest)
    have next : Place.advance 1 ⟨stop + 1, '"' :: (title ++ '"' :: '\n' :: '\n' :: rest)⟩ =
        ⟨stop + 2, title ++ '"' :: '\n' :: '\n' :: rest⟩ := rfl
    have mild : unescape false title = title := by
      refine unescape_mild fun c member => ?_
      rw [isTitle, List.all_eq_true] at proper
      exact (Bool.and_eq_true_iff.mp (proper c member)).1
    simp [spaced, titleEnd?, next, quoted, isBlankLine, blankSize?, gapSize, isGap, breakSize?, isBreak, mild]

theorem readBlock_definition {title : Option Text} (labelled : isLabel label = true)
    (destined : isDest dest = true) (titled : title.all isTitle = true) (limit offset : Nat)
    (enough : (definitionSource label dest title).length ≤ limit) (blocks : List Block) (gap : Bool)
    (definitions : List Definition) (new : ∀ d ∈ definitions, foldLabel d.label ≠ foldLabel label) :
    (Outline.between blocks gap definitions).readBlock limit
        ⟨offset, definitionSource label dest title ++ '\n' :: '\n' :: rest⟩ =
      (Outline.between blocks false
          (⟨label, dest, title.getD [],
            ⟨offset, offset + (definitionSource label dest title).length⟩⟩ :: definitions),
        ⟨offset + (definitionSource label dest title).length + 1, '\n' :: rest⟩) := by
  have read := @readDefinition_source label dest rest title labelled destined titled limit offset enough
  obtain ⟨limit, rfl⟩ : ∃ n, limit = n + 1 := ⟨limit - 1, by
    simp only [definitionSource, List.length_cons] at enough
    omega⟩
  generalize offset + (definitionSource label dest title).length = stop at *
  have unnoted : noteLabel? (definitionSource label dest title ++ '\n' :: '\n' :: rest) = none := by
    simp [definitionSource, noteLabel?, readNoteLabel_label labelled]
  have source : definitionSource label dest title ++ '\n' :: '\n' :: rest =
      '[' :: (label ++ ']' :: ':' :: ' ' :: (dest ++ titleSource title) ++ '\n' :: '\n' :: rest) := by
    simp [definitionSource]
  rw [source] at read unnoted ⊢
  generalize label ++ ']' :: ':' :: ' ' :: (dest ++ titleSource title) ++ '\n' :: '\n' :: rest =
    text at *
  have containers : (Outline.between blocks false definitions).containers = [] := rfl
  have fresh : (definitions.any fun d => foldLabel d.label == foldLabel label) = false := by
    simpa using new
  have defined : ∀ span, (Outline.between blocks false definitions).define
      ⟨label, dest, title.getD [], span⟩ =
      Outline.between blocks false (⟨label, dest, title.getD [], span⟩ :: definitions) := by
    intro span
    simp [Outline.define, Outline.between, fresh]
  rw [readBlock_start (by decide) unnoted, Outline.readDefinitions]
  simp only [containers, read, defined]
  rfl

end Definitions

/-! ## Code between fences -/

section Fences

variable {info line rest : Text}

/-- What is left of a line of code after white space is skipped. -/
theorem skipFrom_code (code : isCodeLine line = true) (offset column columns : Nat) :
    ∃ c more, (Cursor.skipFrom offset column columns (line ++ '\n' :: rest)).2.rest = c :: more ∧
      c ≠ '\x60' := by
  induction line generalizing offset column columns with
  | nil => cases columns <;> exact ⟨'\n', rest, rfl, by decide⟩
  | cons c line ih =>
    simp only [isCodeLine, List.all_cons, Bool.and_eq_true, bne_iff_ne, ne_eq] at code
    obtain ⟨⟨-, tick⟩, code⟩ := code
    have rested := ih (by simpa [isCodeLine] using code)
    rw [List.cons_append, Cursor.skipFrom.eq_def]
    split
    next same =>
      exact ⟨c, _, rfl, tick⟩
    next same =>
      obtain ⟨-, rfl⟩ := List.cons.inj same
      exact rested _ _ _
    next same =>
      obtain ⟨-, rfl⟩ := List.cons.inj same
      dsimp only
      split
      · exact rested _ _ _
      · cases line with
        | nil => exact ⟨'\n', rest, rfl, by decide⟩
        | cons d line =>
          simp only [List.all_cons, Bool.and_eq_true, bne_iff_ne, ne_eq] at code
          exact ⟨d, _, rfl, code.1.2⟩
    · exact ⟨c, _, rfl, tick⟩

theorem lineChunks_code (code : isCodeLine line = true) :
    lineChunks 0 (line ++ ['\n']) = [.source (line ++ ['\n'])] := by
  have other : ∀ before, line.reverse ≠ '\r' :: before := by
    intro before same
    have member : '\r' ∈ line := by
      rw [← List.mem_reverse, same]
      exact List.mem_cons_self ..
    simp only [isCodeLine, List.all_eq_true] at code
    exact absurd (code '\r' member) (by decide)
  have reversed : (line ++ ['\n']).reverse = '\n' :: line.reverse := by simp
  unfold lineChunks
  rw [reversed]
  dsimp only
  split
  next before same => exact absurd (List.cons.inj same).2 (other before)
  · simp [filler]

theorem visible_of_isInfo (informed : isInfo info = true) {c : Char} (member : c ∈ info) :
    isMild c = true ∧ isVisible c = true := by
  rw [isInfo, List.all_eq_true] at informed
  exact Bool.and_eq_true_iff.mp (informed c member)

theorem closingFence_other {c : Char} (other : c ≠ '\x60') (rest : Text) :
    closingFence? '\x60' 3 (c :: rest) = none := by
  simp [closingFence?, other]

/-- Code is read up to its closing fence, one line after another. -/
theorem readFenced_code {code : List Text} (proper : ∀ line ∈ code, isCodeLine line = true)
    (limit offset : Nat) (enough : code.length < limit) :
    readFenced [] 0 '\x60' 3 limit ⟨offset, linesSource (code ++ [fenceSource]) ++ '\n' :: rest⟩ =
      (code.map fun line => .source (line ++ ['\n']),
        ⟨offset + (linesSource (code ++ [fenceSource])).length, '\n' :: rest⟩) := by
  have enter : ∀ p : Place, Container.enter [] p = (true, Cursor.start p) := fun _ => rfl
  have stay : ∀ p : Place, (Cursor.start p).skip 0 = (0, Cursor.start p) := fun _ => rfl
  induction code generalizing limit offset with
  | nil =>
    obtain ⟨limit, rfl⟩ : ∃ n, limit = n + 1 := ⟨limit - 1, by omega⟩
    rfl
  | cons line code ih =>
    obtain ⟨limit, rfl⟩ : ∃ n, limit = n + 1 := ⟨limit - 1, by omega⟩
    have lined := proper line (List.mem_cons_self ..)
    have free : '\n' ∉ line := fun member => absurd (List.all_eq_true.mp lined _ member) (by decide)
    have source : linesSource (line :: code ++ [fenceSource]) ++ '\n' :: rest =
        line ++ '\n' :: (linesSource (code ++ [fenceSource]) ++ '\n' :: rest) := by
      simp [linesSource_cons]
    have rested := ih (fun x member => proper x (List.mem_cons_of_mem _ member)) limit
      (offset + line.length + 1) (by simpa using enough)
    have width : offset + (linesSource (line :: code ++ [fenceSource])).length =
        offset + line.length + 1 + (linesSource (code ++ [fenceSource])).length := by
      rw [List.cons_append, linesSource_cons, List.length_append, List.length_cons]
      omega
    rw [source, width]
    generalize linesSource (code ++ [fenceSource]) ++ '\n' :: rest = more at *
    obtain ⟨c, after, left, other⟩ := @skipFrom_code line more lined offset 0 4
    have open' : (if ((Cursor.start ⟨offset, line ++ '\n' :: more⟩).skip (4 - 0)).1 = 0 then none
        else closingFence? '\x60' 3
          ((Cursor.start ⟨offset, line ++ '\n' :: more⟩).skip (4 - 0)).2.rest) = none := by
      have skipped : (Cursor.start ⟨offset, line ++ '\n' :: more⟩).skip (4 - 0) =
          Cursor.skipFrom offset 0 4 (line ++ '\n' :: more) := rfl
      rw [skipped, left, closingFence_other other, ite_self]
    have begun : (Cursor.start ⟨offset, line ++ '\n' :: more⟩).rest = line ++ '\n' :: more := rfl
    have placed : (Cursor.start ⟨offset, line ++ '\n' :: more⟩).place =
        ⟨offset, line ++ '\n' :: more⟩ := rfl
    have pending : (Cursor.start ⟨offset, line ++ '\n' :: more⟩).pending = 0 := rfl
    rw [readFenced]
    simp only [enter, stay, open', begun, placed, feedSize_line free, take_line, Place.advance_line, pending,
      rested, lineChunks_code lined, Bool.not_true, Bool.false_eq_true, if_false, List.map_cons,
      List.singleton_append]

/-- What follows the dashes of a fence begins with neither a backtick nor a gap. -/
theorem exists_begins_info (informed : isInfo info = true) (more : Text) :
    ∃ c tail, info ++ '\n' :: more = c :: tail ∧ c ≠ '\x60' ∧ isGap c = false := by
  cases info with
  | nil => exact ⟨'\n', more, rfl, by decide, rfl⟩
  | cons d info =>
    obtain ⟨mild, visible⟩ := visible_of_isInfo informed (List.mem_cons_self ..)
    have plain : isGap d = false ∧ isBreak d = false := by simpa [isSpacing] using not_isSpacing visible
    refine ⟨d, _, rfl, ?_, plain.1⟩
    rintro rfl
    exact absurd mild (by decide)

theorem fence_info (informed : isInfo info = true) (more : Text) :
    fence? ('\x60' :: '\x60' :: '\x60' :: (info ++ '\n' :: more)) = some ('\x60', 3) := by
  obtain ⟨c, tail, begins, tick, -⟩ := exists_begins_info informed more
  have ticks : (info ++ '\n' :: more).takeWhile (· == '\x60') = [] := by
    rw [begins]
    exact List.takeWhile_cons_of_neg (by simpa using tick)
  have free : '\n' ∉ info := fun member => absurd (visible_of_isInfo informed member).1 (by decide)
  have free' : '\x60' ∉ info := fun member => absurd (visible_of_isInfo informed member).1 (by decide)
  simp [fence?, ticks, takeWhile_mark free, free']

theorem gapSize_info (informed : isInfo info = true) (more : Text) : gapSize (info ++ '\n' :: more) = 0 := by
  obtain ⟨c, tail, begins, -, filled⟩ := exists_begins_info informed more
  rw [begins]
  simp [gapSize, filled]

/-- The label of a fence is left as it is when its line is trimmed. -/
theorem dropEndWhile_info (informed : isInfo info = true) : dropEndWhile isSpacing (info ++ ['\n']) = info := by
  have kept : info.reverse.dropWhile isSpacing = info.reverse := by
    cases reversed : info.reverse with
    | nil => rfl
    | cons last before =>
      have member : last ∈ info := by
        rw [← List.mem_reverse, reversed]
        exact List.mem_cons_self ..
      have visible := (visible_of_isInfo informed member).2
      exact List.dropWhile_cons_of_neg (by simp [not_isSpacing visible])
  have feed : isSpacing '\n' = true := rfl
  simp [dropEndWhile, feed, kept]

theorem readBlock_fenced {code : List Text} (informed : isInfo info = true)
    (proper : ∀ line ∈ code, isCodeLine line = true) (limit offset : Nat) (enough : code.length < limit)
    (blocks : List Block) (gap : Bool) (definitions : List Definition) :
    (Outline.between blocks gap definitions).readBlock limit
        ⟨offset, linesSource ((fenceSource ++ info) :: (code ++ [fenceSource])) ++ '\n' :: rest⟩ =
      (Outline.between (.fenced info (code.map fun line => .source (line ++ ['\n'])) :: blocks) false
          definitions,
        ⟨offset + (linesSource ((fenceSource ++ info) :: (code ++ [fenceSource]))).length,
          '\n' :: rest⟩) := by
  have source : linesSource ((fenceSource ++ info) :: (code ++ [fenceSource])) ++ '\n' :: rest =
      '\x60' :: '\x60' :: '\x60' ::
        (info ++ '\n' :: (linesSource (code ++ [fenceSource]) ++ '\n' :: rest)) := by
    simp [linesSource_cons, fenceSource]
  have width : offset + (linesSource ((fenceSource ++ info) :: (code ++ [fenceSource]))).length =
      offset + 3 + info.length + 1 + (linesSource (code ++ [fenceSource])).length := by
    rw [linesSource_cons]
    simp only [List.length_append, List.length_cons, fenceSource, List.length_nil]
    omega
  have read := @readFenced_code rest code proper limit (offset + 3 + info.length + 1) enough
  rw [source, width]
  generalize linesSource (code ++ [fenceSource]) ++ '\n' :: rest = more at *
  have free : '\n' ∉ info := fun member => absurd (visible_of_isInfo informed member).1 (by decide)
  have nothing : OpensNothing ('\x60' :: '\x60' :: '\x60' :: (info ++ '\n' :: more)) :=
    ⟨noteLabel_cons (by decide), isRule_cons (by decide), listMarker_cons rfl (by decide), by simp⟩
  have skip := @skip_filled ⟨offset, '\x60' :: '\x60' :: '\x60' :: (info ++ '\n' :: more)⟩ (by simp) 3
  have place : (Cursor.start ⟨offset, '\x60' :: '\x60' :: '\x60' :: (info ++ '\n' :: more)⟩).place =
      ⟨offset, '\x60' :: '\x60' :: '\x60' :: (info ++ '\n' :: more)⟩ := rfl
  have named : Place.advance 3 ⟨offset, '\x60' :: '\x60' :: '\x60' :: (info ++ '\n' :: more)⟩ =
      ⟨offset + 3, info ++ '\n' :: more⟩ := rfl
  have stay : ∀ p : Place, p.advance 0 = p := fun _ => rfl
  have containers : (Outline.between blocks false definitions).containers = [] := rfl
  rw [readBlock_leaf nothing (blankSize_cons rfl rfl), Outline.readLeaf]
  simp only [skip, place, isRule_cons (c := '\x60') (by decide),
    headingLevel_cons (c := '\x60') (by decide), fence_info informed, named, gapSize_info informed, stay,
    feedSize_line free, take_line, dropEndWhile_info informed, Place.advance_line, containers, Nat.sub_self,
    read, unescape_mild fun c member => (visible_of_isInfo informed member).1]
  rfl

end Fences

/-! ## Parts -/

theorem Part.read {labels : List Text} (part : Part) (proper : part.isProper labels = true)
    (rest : Text)
    (limit offset : Nat) (enough : part.source.length ≤ limit) (blocks : List Block) (gap : Bool)
    (definitions : List Definition)
    (new : ∀ label ∈ part.labels, ∀ d ∈ definitions, foldLabel d.label ≠ foldLabel label) :
    ∃ made : List Block,
      (Outline.between blocks gap definitions).readBlock limit ⟨offset, part.source ++ rest⟩ =
          (Outline.between (made ++ blocks) false ((part.definitions offset).reverse ++ definitions),
            ⟨offset + (linesSource part.lines).length, '\n' :: rest⟩) ∧
        ∀ targets, Covers targets labels →
          Event.ofBlocks targets false made.reverse = part.events targets offset := by
  have short := part.lines_lt
  have source : part.source ++ rest = linesSource part.lines ++ '\n' :: rest := by
    rw [Part.source, List.append_assoc]
    rfl
  rw [source]
  cases part with
  | paragraph first more =>
    have lined : ∀ line ∈ first :: more, line.isLine labels = true := by
      simpa [Part.isProper] using proper
    have read := readBlock_lines (isLine_of_mem_sources lined) (by simp) (.blank rest) limit offset
      (Nat.le_trans (Nat.le_of_lt short) enough) blocks gap definitions
    refine ⟨[_], read, fun targets covers => ?_⟩
    exact ofBlocks_lines covers lined .open _ ('\n' :: rest) offset _ (Nat.le_refl _)
  | definition label dest title =>
    simp only [Part.isProper, Bool.and_eq_true] at proper
    obtain ⟨⟨labelled, destined⟩, titled⟩ := proper
    have lines : linesSource (Part.definition label dest title).lines =
        definitionSource label dest title ++ ['\n'] := by
      simp [Part.lines, linesSource_cons]
    have sized : (definitionSource label dest title).length ≤ limit := by
      rw [Part.source, lines] at enough
      simp only [List.length_append] at enough
      omega
    have read := @readBlock_definition label dest rest title labelled destined titled limit offset sized
      blocks gap definitions (new label (by simp [Part.labels]))
    refine ⟨[], ?_, fun targets covers => rfl⟩
    rw [lines, List.append_assoc, List.length_append]
    exact read
  | fenced info code =>
    simp only [Part.isProper, Bool.and_eq_true, List.all_eq_true] at proper
    have read := @readBlock_fenced info rest code proper.1 proper.2 limit offset (by
      simp only [Part.lines, List.length_cons, List.length_append, List.length_nil] at short
      omega) blocks gap definitions
    refine ⟨[_], read, fun targets covers => ?_⟩
    simp only [List.reverse_singleton, Event.ofBlocks, Event.ofBlock, List.append_nil, List.map_map]
    rfl

end DocSite.Markdown
