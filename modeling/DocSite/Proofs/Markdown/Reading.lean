/-
# DocSite.Proofs.Markdown.Reading -- running text is read as it was meant

The tokens of a line of running text are read one after another; every step uses a token, so that the
number of tokens is enough fuel (`Reading.step_length`), and what one stretch leads to is what the next
begins with (`Reading.Leads`). The elements of a line lead from their first token to the finished piece
(`Reading.leads_code`, `Reading.leads_address`, `Reading.leads_brackets`), and so do a line and what
stands in the brackets of a link, each by induction over the other (`Prose.leads`, `Element.leads`).
-/
import DocSite.Proofs.Markdown.Target

set_option autoImplicit false

namespace DocSite.Markdown

open Text

variable {targets : Targets} {passage : Passage}
namespace Reading
variable {r r' r'' : Reading} {ts ts' ts'' following : List Token} {t : Token}

theorem dropTo_length (offset : Nat) : (Token.dropTo offset ts).length ≤ ts.length := by
  induction ts with
  | nil => exact Nat.le_refl _
  | cons t ts ih =>
    rw [Token.dropTo]
    split
    · exact Nat.le_succ_of_le ih
    · exact Nat.le_refl _

theorem closingBackticks_length {size : Nat} (found : closingBackticks? size ts = some (t, following)) :
    following.length ≤ ts.length := by
  induction ts with
  | nil => cases found
  | cons first ts ih =>
    rw [closingBackticks?] at found
    split at found
    · split at found
      · cases found
        exact Nat.le_succ _
      · exact Nat.le_succ_of_le (ih found)
    · exact Nat.le_succ_of_le (ih found)

theorem closing_length {spent : Bool} {first last : Token} {kind : LinkKind}
    {dest title : List Char} {next : List Token}
    {stop : Nat}
    (found : closing targets passage spent first last following = .link kind dest title next stop) :
    next.length ≤ following.length := by
  have alone : ∀ next : List Token, next.length ≤ following.length → ∀ {kind dest title next' stop},
      (if spent then Closing.nothing none else shortcut targets passage first last next last.stop) =
        .link kind dest title next' stop → next'.length ≤ following.length := by
    intro next shorter kind dest title next' stop found
    split at found
    · cases found
    · unfold shortcut at found
      dsimp only at found
      repeat' split at found
      all_goals first | (cases found; done) | (cases found; exact shorter)
  unfold closing at found
  dsimp only at found
  split at found
  · cases found
    exact dropTo_length _
  · split at found
    · exact alone _ (List.drop_sublist ..).length_le found
    · split at found
      · exact alone _ (Nat.le_refl _) found
      · split at found
        · split at found
          · cases found
            exact ((List.drop_sublist ..).trans (List.dropWhile_sublist _)).length_le
          · cases found
        · exact alone _ (Nat.le_refl _) found
    · exact alone _ (Nat.le_refl _) found

theorem step_length : (r.step targets passage t following).2.length ≤ following.length := by
  unfold step
  split
  · exact Nat.le_refl _
  · exact Nat.le_refl _
  · exact Nat.le_refl _
  · next escaped _ =>
    unfold backticks
    dsimp only
    generalize (if escaped = true then backtickCount t - 1 else backtickCount t) = size
    split
    next last next found =>
      by_cases zero : size = 0
      · rw [if_pos zero] at found
        cases found
      · rw [if_neg zero] at found
        exact closingBackticks_length found
    · exact Nat.le_refl _
  · unfold pointed
    dsimp only
    split
    · exact dropTo_length _
    · split
      · exact dropTo_length _
      · exact Nat.le_refl _
  · exact Nat.le_refl _
  · unfold close
    split
    · exact Nat.le_refl _
    · dsimp only
      split
      · exact Nat.le_refl _
      · split
        · exact Nat.le_refl _
        · exact Nat.le_refl _
        next found =>
          split <;> exact closing_length found
  · exact Nat.le_refl _
  · exact Nat.le_refl _
  · exact Nat.le_refl _

/-- Whether reading comes from one state to another. -/
def Leads (targets : Targets) (passage : Passage) (before after : Reading × List Token) : Prop :=
  ∀ fuel, before.2.length ≤ fuel → ∃ fuel', after.2.length ≤ fuel' ∧
    readAll targets passage fuel before.1 before.2 = readAll targets passage fuel' after.1 after.2

theorem Leads.refl (state : Reading × List Token) : Leads targets passage state state :=
  fun fuel enough => ⟨fuel, enough, rfl⟩

theorem Leads.trans {first second third : Reading × List Token}
    (one : Leads targets passage first second)
    (two : Leads targets passage second third) : Leads targets passage first third := by
  intro fuel enough
  obtain ⟨fuel', enough', same⟩ := one fuel enough
  obtain ⟨fuel'', enough'', same'⟩ := two fuel' enough'
  exact ⟨fuel'', enough'', same.trans same'⟩

/-- A step uses a token. -/
theorem leads_step (r : Reading) (t : Token) (following : List Token) :
    Leads targets passage (r, t :: following) (r.step targets passage t following) := by
  intro fuel enough
  cases fuel with
  | zero => simp at enough
  | succ fuel => exact ⟨fuel, Nat.le_trans step_length (Nat.le_of_succ_le_succ enough), rfl⟩


/-! ## Settled pieces -/

/-- Reading that has taken in finished pieces. -/
def put (values : List Inline) (r : Reading) : Reading :=
  { r with pieces := (values.map Piece.settled).reverse ++ r.pieces }

theorem put_put (first second : List Inline) : (r.put first).put second = r.put (first ++ second) := by
  simp [put]

theorem leads_text (text rest : Text) (offset : Nat) (r : Reading) (ts : List Token) :
    Leads targets passage (r, addText ⟨offset, text ++ rest⟩ text.length [] ++ ts)
      (r.put (textInlines text), ts) := by
  cases text with
  | nil => exact Leads.refl _
  | cons c text =>
    have chars : (Token.mk .text ⟨offset, c :: text ++ rest⟩ (c :: text).length).chars = c :: text := by
      simp [Token.chars]
    have step := @leads_step targets passage r ⟨.text, ⟨offset, c :: text ++ rest⟩,
        (c :: text).length⟩ ts
    have result : r.step targets passage ⟨.text, ⟨offset, c :: text ++ rest⟩, (c :: text).length⟩ ts =
        (r.put [.text (c :: text)], ts) := by
      show (r.keep _, ts) = _
      rw [keep, chars]
      rfl
    rw [result] at step
    exact step

end Reading

namespace Emphasis

theorem takePiece_settled (values outer : List Inline) (tildes : Nat) :
    (values.map Piece.settled).foldl State.takePiece ⟨[], outer, tildes⟩ =
      ⟨[], values.reverse ++ outer, tildes⟩ := by
  induction values generalizing outer with
  | nil => rfl
  | cons v values ih =>
    rw [List.map_cons, List.foldl_cons]
    show (values.map Piece.settled).foldl State.takePiece ⟨[], v :: outer, tildes⟩ = _
    rw [ih]
    simp

theorem resolve_settled (values : List Inline) : resolve (values.map Piece.settled) = values := by
  rw [resolve, State.empty, takePiece_settled]
  simp [State.close]

end Emphasis

namespace Piece

theorem linkText_settled (values : List Inline) : linkText (values.map settled).reverse = values := by
  have noSlash : ∀ before, (values.map settled).reverse ≠ .slash :: before := by
    intro before same
    have member : Piece.slash ∈ (values.map settled).reverse := by
      rw [same]
      exact List.mem_cons_self ..
    simp at member
  unfold linkText
  split
  next before same => exact absurd same (noSlash before)
  · rw [List.reverse_reverse, Emphasis.resolve_settled]

theorem splitBracket_settled (values : List Inline) (image live : Bool) (token : Token)
    (outer : List Piece) :
    splitBracket? ((values.map settled).reverse ++ .bracket image live token :: outer) =
      some ((values.map settled).reverse, (image, live, token), outer) := by
  rw [← List.map_reverse]
  generalize values.reverse = values
  induction values with
  | nil => rfl
  | cons v values ih =>
    rw [List.map_cons, List.cons_append, splitBracket?, ih]
    · rfl
    · intro image live token same
      cases same

end Piece

namespace Reading
variable {r r' r'' : Reading} {ts ts' ts'' following : List Token} {t : Token}

/-- What stands in a passage up to a mark stands there still when what is behind the passage is cut off. -/
theorem within_mark (passage : Passage) {text rest : Text} {mark : Char} {offset : Nat}
    (inside : offset + text.length + 1 ≤ passage.stop) :
    within passage ⟨offset, text ++ mark :: rest⟩ =
      ⟨offset, text ++ mark :: rest.take (passage.stop - offset - (text.length + 1))⟩ := by
  have fits : text.length ≤ passage.stop - offset := by omega
  have one : passage.stop - offset - text.length = passage.stop - offset - (text.length + 1) + 1 := by omega
  rw [within, List.take_append, List.take_of_length_le fits, one, List.take_succ_cons]

theorem codeChars_mild (containers : List Container) {code : Text} (mild : ∀ c ∈ code, isMild c) :
    codeChars containers false 0 code = code := by
  induction code with
  | nil => rfl
  | cons c code ih =>
    obtain ⟨inside, -⟩ := isMild_plain (mild c (List.mem_cons_self ..))
    rw [codeChars, ih fun x member => mild x (List.mem_cons_of_mem _ member)]
    simp [inside]

/-- The conditions under which the elements of a line are read: the text is no cell and stands in no
container, and ends no earlier than what is read. -/
structure Flat (passage : Passage) (stop : Nat) : Prop where
  containers : passage.containers = []
  cell : passage.cell = false
  stop_le : stop ≤ passage.stop

variable {rest : Text} {later : List Token} {stop : Nat}

theorem leads_code {code : Text} (proper : isCode code = true) (steady : Steady rest)
    (single : rest.head? ≠ some '\x60') (flat : Flat passage stop) (offset : Nat) (r : Reading) :
    Leads targets passage (r, tokensAt ⟨offset, '\x60' :: (code ++ '\x60' :: rest)⟩ ++ later)
      (r.put [.code (trimCode code)], tokensAt ⟨offset + code.length + 2, rest⟩ ++ later) := by
  simp only [isCode, Bool.and_eq_true, Bool.not_eq_true', List.all_eq_true] at proper
  obtain ⟨nonempty, mild⟩ := proper
  have free : '\x60' ∉ code := fun member => (isMild_plain (mild _ member)).2.2.2 rfl
  have head : (code ++ '\x60' :: rest).head? ≠ some '\x60' := by
    cases code with
    | nil => cases nonempty
    | cons c code =>
      intro same
      cases same
      exact free (List.mem_cons_self ..)
  generalize mark : Token.mk (.backticks false) ⟨offset, '\x60' :: (code ++ '\x60' :: rest)⟩ 1 = t
  have size : backtickCount t = 1 := by rw [← mark]; rfl
  have after : t.after = ⟨offset + 1, code ++ '\x60' :: rest⟩ := by rw [← mark]; rfl
  have closed : closingBackticks? 1 (tokensAfter '\x60' t.after ++ later) =
      some (⟨.backticks false, ⟨offset + 1 + code.length, '\x60' :: rest⟩, 1⟩,
        tokensAt ⟨offset + 1 + code.length + 1, rest⟩ ++ later) := by
    rw [after]
    exact closingBackticks_code (fun c member => isCommon_of_isMild (mild c member)) free steady
      single (offset + 1) '\x60'
  have between : t.after.upTo ⟨offset + 1 + code.length, '\x60' :: rest⟩ = code := by
    rw [after]
    simp [Place.upTo]
  have behind : offset + 1 + code.length + 1 = offset + code.length + 2 := by omega
  have result : r.step targets passage t (tokensAfter '\x60' t.after ++ later) =
      (r.put [.code (trimCode code)], tokensAt ⟨offset + code.length + 2, rest⟩ ++ later) := by
    have kind : t.mark = .backticks false := by rw [← mark]
    simp only [step, kind, backticks, size, Bool.false_eq_true, if_false, Nat.one_ne_zero, closed,
      flat.cell, between, codeChars_mild _ mild, behind]
    rfl
  rw [tokensAt_sign (sign_backtick head), mark, List.cons_append, ← result]
  have next : Place.advance 1 ⟨offset, '\x60' :: (code ++ '\x60' :: rest)⟩ = t.after := after.symm
  rw [next]
  exact leads_step r t _

theorem isInert_of_isScheme {c : Char} (schemed : isScheme c = true) : isInert c = true := by
  have meaning : ['\n', '\r', '\\', '\x60', '<', '!', '[', ']', '&', '*', '_', '~'].all
      (fun d => !isScheme d) = true := by
    decide
  have other : ∀ d ∈ ['\n', '\r', '\\', '\x60', '<', '!', '[', ']', '&', '*', '_', '~'], c ≠ d := by
    rintro d member rfl
    simpa [schemed] using List.all_eq_true.mp meaning c member
  simp only [List.forall_mem_cons] at other
  simp [isInert, isBreak, other]

theorem isCommon_address {scheme path : Text} (proper : isAddress scheme path = true) :
    ∀ c ∈ scheme ++ ':' :: path, isCommon c := by
  simp only [isAddress, Bool.and_eq_true, decide_eq_true_eq, List.all_eq_true] at proper
  obtain ⟨⟨-, schemed⟩, proper⟩ := proper
  intro c member
  rcases List.mem_append.mp member with member | member
  · exact isCommon_of_isInert (isInert_of_isScheme (schemed c member))
  rcases List.mem_cons.mp member with rfl | member
  · decide
  · exact isCommon_of_isMild (proper c member).1.1.1

theorem leads_address {scheme path : Text} (proper : isAddress scheme path = true)
    (steady : Steady rest)
    (flat : Flat passage stop) (offset : Nat)
    (fits : offset + (scheme ++ ':' :: path).length + 2 ≤ stop)
    (fresh : Fresh stop later) (r : Reading) :
    Leads targets passage (r, tokensAt ⟨offset, '<' :: (scheme ++ ':' :: path ++ '>' :: rest)⟩ ++ later)
      (r.put [.link .autolink (scheme ++ ':' :: path) []
          ⟨offset, offset + (scheme ++ ':' :: path).length + 2⟩
          [.text (scheme ++ ':' :: path)]],
        tokensAt ⟨offset + (scheme ++ ':' :: path).length + 2, rest⟩ ++ later) := by
  have read := @readAutolink_address
      (rest.take (passage.stop - (offset + 1) - ((scheme ++ ':' :: path).length + 1))) _ _ proper
  have common := isCommon_address proper
  generalize address : scheme ++ ':' :: path = cs at *
  have head : (cs ++ '>' :: rest).head? ≠ some '\\' := by
    refine head_append common fun c first => ?_
    cases first
    rfl
  have signed : sign? ('<' :: (cs ++ '>' :: rest)) = some (.pointed, 1, '<') := by
    rw [sign?, if_neg head]
  generalize mark : Token.mk .pointed ⟨offset, '<' :: (cs ++ '>' :: rest)⟩ 1 = t
  have after : t.after = ⟨offset + 1, cs ++ '>' :: rest⟩ := by rw [← mark]; rfl
  have start : t.start = offset := by rw [← mark]; rfl
  have bound := flat.stop_le
  have inside : within passage t.after =
      ⟨offset + 1, cs ++ '>' :: rest.take (passage.stop - (offset + 1) - (cs.length + 1))⟩ := by
    rw [after, within_mark passage (by omega)]
  have behind : offset + 1 + cs.length + 1 = offset + cs.length + 2 := by omega
  have dropped : Token.dropTo (offset + 1 + cs.length + 1) (tokensAfter '<' t.after ++ later) =
      tokensAt ⟨offset + 1 + cs.length + 1, rest⟩ ++ later := by
    rw [after]
    refine dropTo_stretch common rfl rfl steady (offset + 1) (fresh.mono ?_) '<'
    omega
  rw [behind] at dropped
  have result : r.step targets passage t (tokensAfter '<' t.after ++ later) =
      (r.put [.link .autolink cs [] ⟨offset, offset + cs.length + 2⟩ [.text cs]],
        tokensAt ⟨offset + cs.length + 2, rest⟩ ++ later) := by
    have kind : t.mark = .pointed := by rw [← mark]
    simp only [step, kind, pointed, inside, read, start, dropped, behind]
    rfl
  rw [tokensAt_sign signed, mark, List.cons_append, ← result]
  have next : Place.advance 1 ⟨offset, '<' :: (cs ++ '>' :: rest)⟩ = t.after := after.symm
  rw [next]
  exact leads_step r t _


/-! ## Brackets -/

/-- A closing bracket that ends a link or an image takes in the pieces since the opening one. -/
theorem close_link {values : List Inline} {image : Bool} {first : Token} {kind : LinkKind}
    {dest title : List Char}
    {next : List Token}
    (found : closing targets passage (r.spent.contains t.start) first t following =
      .link kind dest title next stop)
    (calm : image = false → ∀ piece ∈ r.pieces, piece.disable = piece) :
    ((r.add (.bracket image true first)).put values).close targets passage t following =
      (r.put [if image then .image dest title ⟨first.start, stop⟩ values
        else .link kind dest title ⟨first.start, stop⟩ values], next) := by
  have pieces : ((r.add (.bracket image true first)).put values).pieces =
      (values.map Piece.settled).reverse ++ .bracket image true first :: r.pieces := rfl
  have spent : ((r.add (.bracket image true first)).put values).spent = r.spent := rfl
  unfold close
  rw [pieces, Piece.splitBracket_settled]
  simp only [spent, found, Piece.linkText_settled, Bool.not_true, Bool.false_eq_true, if_false]
  cases image with
  | true => rfl
  | false =>
    have same : r.pieces.map Piece.disable = r.pieces :=
      (List.map_congr_left (calm rfl)).trans (List.map_id r.pieces)
    simp only [Bool.false_eq_true, if_false, same]
    rfl

/-- How the brackets of a link or an image begin. -/
def openingSource (image : Bool) : Text := if image then ['!', '['] else ['[']

/-- An opening bracket waits for the one that closes it. -/
theorem leads_opening {text : Text} (image : Bool) (offset : Nat) (steady : Steady text) (r : Reading) :
    ∃ first : Token, first.start = offset ∧
      Leads targets passage (r, tokensAt ⟨offset, openingSource image ++ text⟩ ++ later)
        (r.add (.bracket image true first),
          tokensAt ⟨offset + (openingSource image).length, text⟩ ++ later) := by
  have signed : sign? (openingSource image ++ text) =
      some (.opening image, (openingSource image).length, '[') := by
    cases image <;> rfl
  have opened : Place.advance (openingSource image).length ⟨offset, openingSource image ++ text⟩ =
      ⟨offset + (openingSource image).length, text⟩ := by
    simp [Place.advance]
  refine ⟨⟨.opening image, ⟨offset, openingSource image ++ text⟩, (openingSource image).length⟩, rfl, ?_⟩
  rw [tokensAt_sign signed, opened, steady.tokensAfter_eq, List.cons_append]
  exact leads_step r _ _

/-- A closing bracket ends a link or an image. -/
theorem leads_closing {values : List Inline} {after : Text} {dest title : List Char} {next : List Token}
    {kind : LinkKind} {image : Bool} {first : Token} (offset : Nat) (r : Reading)
    (found : ∀ spent t, t.after = ⟨offset + 1, after⟩ →
      closing targets passage spent first t (tokensAfter ']' t.after ++ later) =
        .link kind dest title next stop)
    (calm : image = false → ∀ piece ∈ r.pieces, piece.disable = piece) :
    Leads targets passage
      ((r.add (.bracket image true first)).put values, tokensAt ⟨offset, ']' :: after⟩ ++ later)
      (r.put [if image then .image dest title ⟨first.start, stop⟩ values
          else .link kind dest title ⟨first.start, stop⟩ values],
        next) := by
  generalize mark : Token.mk .closing ⟨offset, ']' :: after⟩ 1 = t
  have behind : t.after = ⟨offset + 1, after⟩ := by rw [← mark]; rfl
  have kind' : t.mark = .closing := by rw [← mark]
  have closed : tokensAt ⟨offset, ']' :: after⟩ = t :: tokensAfter ']' t.after := by
    rw [tokensAt_sign rfl, mark, behind]
    rfl
  have result : ((r.add (.bracket image true first)).put values).step targets passage t
      (tokensAfter ']' t.after ++ later) =
      (r.put [if image then .image dest title ⟨first.start, stop⟩ values
          else .link kind dest title ⟨first.start, stop⟩ values],
        next) := by
    simp only [step, kind']
    exact close_link (found _ t behind) calm
  rw [closed, List.cons_append, ← result]
  exact leads_step _ t _

/-- Text in brackets is read first, then what its closing bracket ends. -/
theorem leads_brackets {values : List Inline} {text after : Text} {dest title : List Char}
    {next : List Token} (kind : LinkKind) (image : Bool) (offset : Nat) (r : Reading)
    (steady : Steady (text ++ ']' :: after))
    (inner : ∀ first, Leads targets passage
      (r.add (.bracket image true first),
        tokensAt ⟨offset + (openingSource image).length, text ++ ']' :: after⟩ ++ later)
      ((r.add (.bracket image true first)).put values,
        tokensAt ⟨offset + (openingSource image).length + text.length, ']' :: after⟩ ++ later))
    (found : ∀ spent first t,
      t.after = ⟨offset + (openingSource image).length + text.length + 1, after⟩ →
      closing targets passage spent first t (tokensAfter ']' t.after ++ later) =
        .link kind dest title next stop)
    (calm : image = false → ∀ piece ∈ r.pieces, piece.disable = piece) :
    Leads targets passage (r, tokensAt ⟨offset, openingSource image ++ (text ++ ']' :: after)⟩ ++ later)
      (r.put [if image then .image dest title ⟨offset, stop⟩ values
          else .link kind dest title ⟨offset, stop⟩ values],
        next) := by
  obtain ⟨first, start, opened⟩ := leads_opening image offset steady r
  subst start
  exact (opened.trans (inner first)).trans (leads_closing _ r (fun spent t => found spent first t) calm)

theorem closing_target {dest : Text} {title : Option Text} (destined : isDest dest = true)
    (titled : title.all isTitle = true) (flat : Flat passage stop) (spent : Bool) (first : Token)
    (offset : Nat)
    (after : t.after = ⟨offset, targetSource dest title ++ ')' :: rest⟩)
    (fits : offset + (targetSource dest title).length + 1 ≤ stop) :
    closing targets passage spent first t following =
      .link .inline dest (title.getD [])
        (Token.dropTo (offset + (targetSource dest title).length + 1) following)
        (offset + (targetSource dest title).length + 1) := by
  have bound := flat.stop_le
  have inside : within passage t.after = ⟨offset, targetSource dest title ++
      ')' :: rest.take (passage.stop - offset - ((targetSource dest title).length + 1))⟩ := by
    rw [after]
    exact within_mark passage (Nat.le_trans fits bound)
  unfold closing
  simp only [inside, flat.containers, flat.cell, readTarget_target destined titled]

theorem isCommon_target {dest : Text} {title : Option Text} (destined : isDest dest = true)
    (titled : title.all isTitle = true) : ∀ c ∈ targetSource dest title, isCommon c := by
  simp only [isDest, Bool.and_eq_true, List.all_eq_true] at destined
  intro c member
  rcases List.mem_cons.mp member with rfl | member
  · decide
  rcases List.mem_append.mp member with member | member
  · exact isCommon_of_isMild (destined.2 c member).1.1.1
  cases title with
  | none => cases member
  | some title =>
    simp only [Option.all_some, isTitle, List.all_eq_true, Bool.and_eq_true] at titled
    simp only [titleSource, List.mem_cons, List.mem_append, List.not_mem_nil, or_false] at member
    rcases member with rfl | rfl | member | rfl
    · decide
    · decide
    · exact isCommon_of_isMild (titled c member).1
    · decide

/-- Text in brackets with a target behind it is read up to the end of the target. -/
theorem leads_targeted {values : List Inline} {text dest : Text} {title : Option Text} (image : Bool)
    (destined : isDest dest = true) (titled : title.all isTitle = true) (flat : Flat passage stop)
    (fresh : Fresh stop later) (steady : Steady rest) (offset : Nat)
    (fits : offset + (openingSource image).length + text.length + 1 + (targetSource dest title).length + 1 ≤
      stop)
    (r : Reading) (steady' : Steady (text ++ ']' :: (targetSource dest title ++ ')' :: rest)))
    (inner : ∀ first, Leads targets passage
      (r.add (.bracket image true first),
        tokensAt ⟨offset + (openingSource image).length,
          text ++ ']' :: (targetSource dest title ++ ')' :: rest)⟩ ++ later)
      ((r.add (.bracket image true first)).put values,
        tokensAt ⟨offset + (openingSource image).length + text.length,
          ']' :: (targetSource dest title ++ ')' :: rest)⟩ ++ later))
    (calm : image = false → ∀ piece ∈ r.pieces, piece.disable = piece) :
    let last := offset + (openingSource image).length + text.length + 1 + (targetSource dest title).length + 1
    Leads targets passage
      (r, tokensAt ⟨offset, openingSource image ++
        (text ++ ']' :: (targetSource dest title ++ ')' :: rest))⟩ ++ later)
      (r.put [if image then .image dest (title.getD []) ⟨offset, last⟩ values
          else .link .inline dest (title.getD []) ⟨offset, last⟩ values],
        tokensAt ⟨last, rest⟩ ++ later) := by
  intro last
  refine leads_brackets .inline image offset r steady' inner (fun spent first t after => ?_) calm
  have dropped := @dropTo_stretch later ')' _ _ (isCommon_target destined titled) rfl rfl steady
    (offset + (openingSource image).length + text.length + 1) (fresh.mono fits) ']'
  rw [closing_target destined titled flat spent first _ after fits, after]
  exact congrArg (Closing.link .inline dest (title.getD []) · _) dropped

/-- The tokens of a label in brackets. -/
theorem tokensAfter_label {label : Text} (inert : ∀ c ∈ label, isInert c) (steady : Steady rest) (offset : Nat) :
    tokensAfter ']' ⟨offset, '[' :: (label ++ ']' :: rest)⟩ =
      ⟨.opening false, ⟨offset, '[' :: (label ++ ']' :: rest)⟩, 1⟩ ::
        (addText ⟨offset + 1, label ++ ']' :: rest⟩ label.length [] ++
          ⟨.closing, ⟨offset + 1 + label.length, ']' :: rest⟩, 1⟩ ::
            tokensAt ⟨offset + label.length + 2, rest⟩) := by
  have ends : Halts (']' :: rest) := .inl rfl
  have labelled : Steady (label ++ ']' :: rest) := ⟨label, _, rfl, inert, ends, by simp⟩
  have opened : Halts ('[' :: (label ++ ']' :: rest)) := .inl rfl
  have behind : offset + 1 + label.length + 1 = offset + label.length + 2 := by omega
  have closed : tokensAt ⟨offset + 1 + label.length, ']' :: rest⟩ =
      ⟨.closing, ⟨offset + 1 + label.length, ']' :: rest⟩, 1⟩ ::
        tokensAt ⟨offset + label.length + 2, rest⟩ := by
    rw [tokensAt_sign rfl, ← behind]
    exact congrArg _ (steady.tokensAfter_eq ']' _)
  rw [opened.steady.tokensAfter_eq, tokensAt_sign rfl]
  show _ :: tokensAfter '[' ⟨offset + 1, label ++ ']' :: rest⟩ = _
  rw [labelled.tokensAfter_eq, tokensAt_text inert ends (by simp), closed]

/-- Behind a label the tokens go on after its closing bracket. -/
theorem drop_label {label : Text} (inert : ∀ c ∈ label, isInert c) (steady : Steady rest) (offset : Nat) :
    ((tokensAfter ']' ⟨offset, '[' :: (label ++ ']' :: rest)⟩ ++ later).dropWhile
        fun t => t.stop < offset + 1 + (label.length + 1)).drop 1 =
      tokensAt ⟨offset + label.length + 2, rest⟩ ++ later := by
  have early : ∀ t ∈ ⟨.opening false, ⟨offset, '[' :: (label ++ ']' :: rest)⟩, 1⟩ ::
      addText ⟨offset + 1, label ++ ']' :: rest⟩ label.length [],
        t.stop < offset + 1 + (label.length + 1) := by
    intro t member
    rcases List.mem_cons.mp member with rfl | member
    · simp only [Token.stop]
      omega
    · rw [stop_of_mem_addText member]
      dsimp only
      omega
  have late : ¬(Token.mk .closing ⟨offset + 1 + label.length, ']' :: rest⟩ 1).stop <
      offset + 1 + (label.length + 1) := by
    simp only [Token.stop]
    omega
  rw [tokensAfter_label inert steady, ← List.cons_append, List.append_assoc,
    List.dropWhile_append_of_pos fun t member => by simpa using early t member, List.cons_append,
    List.dropWhile_cons_of_neg (by simpa using late)]
  rfl

theorem closing_label {label : Text} (proper : isLabel label = true) {d : Definition}
    (defined : targets.definition? label = some d) (flat : Flat passage stop) (spent : Bool)
    (first : Token) (offset : Nat)
    (after : t.after = ⟨offset, '[' :: (label ++ ']' :: rest)⟩) (steady : Steady rest)
    (fits : offset + label.length + 2 ≤ stop) :
    closing targets passage spent first t (tokensAfter ']' t.after ++ later) =
      .link .reference d.dest d.title (tokensAt ⟨offset + label.length + 2, rest⟩ ++ later)
        (offset + label.length + 2) := by
  have bound := flat.stop_le
  have inside : within passage t.after = ⟨offset, '[' :: (label ++
      ']' :: rest.take (passage.stop - offset - (('[' :: label).length + 1)))⟩ := by
    have short : offset + ('[' :: label).length + 1 ≤ passage.stop := by rw [List.length_cons]; omega
    rw [after]
    exact within_mark passage short
  have inert : ∀ c ∈ label, isInert c := by
    simp only [isLabel, Bool.and_eq_true, List.all_eq_true] at proper
    exact fun c member => (proper.2 c member).1.1
  have dropped := @drop_label rest later label inert steady offset
  have unnoted := fun x => @readNoteLabel_label label (']' :: x) proper
  have read := fun x => @readLabel_label label x (resumeWithin []) proper
  -- The label is not empty, so that the bracket begins no target and is not closed at once.
  obtain ⟨c, label', rfl⟩ : ∃ c label', label = c :: label' := by
    cases label with
    | nil => cases proper
    | cons c label' => exact ⟨c, label', rfl⟩
  have other : c ≠ ']' := by
    rintro rfl
    exact absurd (inert ']' (List.mem_cons_self ..)) (by decide)
  have noTarget : ∀ x, readTarget? [] false (tokensAfter ']' t.after ++ later)
      ⟨offset, '[' :: x⟩ = none :=
    fun _ => rfl
  unfold closing
  simp only [inside, flat.containers, flat.cell, noTarget]
  split
  next bracket =>
    exact absurd (List.cons.inj (List.cons.inj bracket).2).1 other
  next cs _ bracket =>
    obtain rfl := (List.cons.inj bracket).2
    rw [unnoted, read]
    simp only [Option.isSome_none, Bool.false_eq_true, if_false, defined]
    have stop' : offset + 1 + ((c :: label').length + 1) = offset + (c :: label').length + 2 := by omega
    show Closing.link .reference d.dest d.title
      (((tokensAfter ']' t.after ++ later).dropWhile
        (fun t => t.stop < offset + 1 + ((c :: label').length + 1))).drop 1)
      (offset + 1 + ((c :: label').length + 1)) = _
    rw [after, dropped, stop']
  next _ none =>
    exact (none _ rfl).elim

end Reading

/-! ## Lines -/

section Lines

variable {labels : List Text} {free : Bool} {rest : Text}

/-- Whether a text ends here: with the bracket after the text of a link or with the line. -/
def Ends (text : Text) : Prop := text.head? = some ']' ∨ text.head? = some '\n'

theorem Ends.halts {text : Text} (ends : Ends text) : Halts text := by
  rcases ends with closed | ended
  · cases text with
    | nil => cases closed
    | cons c text =>
      cases closed
      exact .inl rfl
  · exact .inr ended

/-- Where text ends, no backticks follow that do not belong to it. -/
theorem Ends.head_append {text : Text} (ends : Ends rest) (other : text.head? ≠ some '\x60') :
    (text ++ rest).head? ≠ some '\x60' := by
  cases text with
  | nil =>
    rcases ends with closed | ended
    · simp [closed]
    · simp [ended]
  | cons c text => exact other

theorem Element.halts {element : Element} (proper : element.isProper labels free = true) :
    Halts (element.source ++ rest) := by
  cases element with
  | code text => exact .inl rfl
  | address scheme path =>
    have common := Reading.isCommon_address proper
    have head : (scheme ++ ':' :: path ++ '>' :: rest).head? ≠ some '\\' := by
      refine head_append common fun c first => ?_
      cases first
      rfl
    have source : (Element.address scheme path).source ++ rest =
        '<' :: (scheme ++ ':' :: path ++ '>' :: rest) := by
      simp [Element.source]
    rw [source]
    refine .inl ?_
    rw [sign?, if_neg head]
    rfl
  | image alt dest title => exact .inl rfl
  | link inner dest title => exact .inl rfl
  | reference inner label => exact .inl rfl

theorem Element.head_ne_break (element : Element) : (element.source ++ rest).head? ≠ some '\n' := by
  cases element <;> simp [Element.source]

theorem Prose.steady {prose : Prose} (proper : prose.isProper labels free = true) (ends : Ends rest)
    (tidy : rest.head? = some '\n' → prose.isTidy = true) : Steady (prose.source ++ rest) := by
  cases prose with
  | last text =>
    refine ⟨text, rest, rfl, by simpa [Prose.isProper] using proper, ends.halts, fun ended c last => ?_⟩
    have filled := tidy ended
    rw [Prose.isTidy, Option.mem_def.mp last] at filled
    simpa using filled
  | next text element prose =>
    simp only [Prose.isProper, Bool.and_eq_true, List.all_eq_true] at proper
    obtain ⟨⟨⟨inert, proper⟩, -⟩, -⟩ := proper
    refine ⟨text, element.source ++ (prose.source ++ rest), by simp [Prose.source], inert,
      Element.halts proper, ?_⟩
    intro ended
    exact absurd ended (Element.head_ne_break element)

end Lines

/-- What a line is read under: it stands in a flat passage, what comes after it is behind it, and all
labels are defined. -/
structure Readable (targets : Targets) (passage : Passage) (labels : List Text) (stop : Nat)
    (later : List Token) : Prop where
  flat : Reading.Flat passage stop
  fresh : Fresh stop later
  covers : ∀ label, (labels.any fun l => foldLabel l == foldLabel label) = true →
    (targets.definition? label).isSome

/-- Whether no piece is a bracket that a link would keep from beginning another. -/
def Reading.Calm (r : Reading) : Prop := ∀ piece ∈ r.pieces, piece.disable = piece

theorem Reading.Calm.put {r : Reading} (calm : r.Calm) (values : List Inline) :
    (r.put values).Calm := by
  intro piece member
  rcases List.mem_append.mp member with settled | member
  · obtain ⟨v, -, rfl⟩ := List.mem_map.mp (List.mem_reverse.mp settled)
    rfl
  · exact calm piece member

theorem Reading.Calm.image {r : Reading} (calm : r.Calm) (token : Token) :
    (r.add (.bracket true true token)).Calm := by
  intro piece member
  rcases List.mem_cons.mp member with rfl | member
  · rfl
  · exact calm piece member

open Reading in
mutual

theorem Prose.leads {targets : Targets} {passage : Passage} {labels : List Text} {stop : Nat}
    {later : List Token} (readable : Readable targets passage labels stop later) (prose : Prose)
    (free : Bool) (offset : Nat) (rest : Text) (r : Reading)
    (proper : prose.isProper labels free = true) (ends : Ends rest)
    (tidy : rest.head? = some '\n' → prose.isTidy = true)
    (fits : offset + prose.source.length ≤ stop) (calm : free = true → r.Calm) :
    Leads targets passage (r, tokensAt ⟨offset, prose.source ++ rest⟩ ++ later)
      (r.put (prose.inlines targets offset),
        tokensAt ⟨offset + prose.source.length, rest⟩ ++ later) := by
  cases prose with
  | last text =>
    have inert : ∀ c ∈ text, isInert c := by simpa [Prose.isProper] using proper
    have gapless : rest.head? = some '\n' → ∀ c ∈ text.getLast?, isGap c = false := by
      intro ended c last
      have filled := tidy ended
      rw [Prose.isTidy, Option.mem_def.mp last] at filled
      simpa using filled
    rw [Prose.source, tokensAt_text inert ends.halts gapless, List.append_assoc]
    exact leads_text text rest offset r _
  | next text element prose =>
    simp only [Prose.isProper, Bool.and_eq_true, List.all_eq_true, Bool.not_eq_true'] at proper
    obtain ⟨⟨⟨inert, elementary⟩, proper⟩, apart⟩ := proper
    have source : (Prose.next text element prose).source ++ rest =
        text ++ (element.source ++ (prose.source ++ rest)) := by
      simp [Prose.source]
    have width : offset + (Prose.next text element prose).source.length =
        offset + text.length + element.source.length + prose.source.length := by
      simp only [Prose.source, List.length_append]
      omega
    rw [width] at fits
    have single : element.isCode = true → (prose.source ++ rest).head? ≠ some '\x60' := by
      intro code
      exact ends.head_append (by simpa [code] using apart)
    have one := @leads_text targets passage text (element.source ++ (prose.source ++ rest)) offset r
      (tokensAt ⟨offset + text.length, element.source ++ (prose.source ++ rest)⟩ ++ later)
    have two := Element.leads readable element free (offset + text.length) (prose.source ++ rest)
      (r.put (textInlines text)) elementary (Prose.steady proper ends tidy) single (by omega)
      fun unbound => (calm unbound).put _
    have three := Prose.leads readable prose free (offset + text.length + element.source.length) rest
      ((r.put (textInlines text)).put [element.inline targets (offset + text.length)]) proper ends tidy
      fits fun unbound => ((calm unbound).put _).put _
    have result := (one.trans two).trans three
    rw [put_put, put_put] at result
    rw [source, width, tokensAt_text inert (Element.halts elementary)
      (fun ended => absurd ended (Element.head_ne_break element)), List.append_assoc]
    simpa [Prose.inlines] using result

theorem Element.leads {targets : Targets} {passage : Passage} {labels : List Text} {stop : Nat}
    {later : List Token} (readable : Readable targets passage labels stop later) (element : Element)
    (free : Bool) (offset : Nat) (rest : Text) (r : Reading)
    (proper : element.isProper labels free = true) (steady : Steady rest)
    (single : element.isCode = true → rest.head? ≠ some '\x60')
    (fits : offset + element.source.length ≤ stop) (calm : free = true → r.Calm) :
    Leads targets passage (r, tokensAt ⟨offset, element.source ++ rest⟩ ++ later)
      (r.put [element.inline targets offset],
        tokensAt ⟨offset + element.source.length, rest⟩ ++ later) := by
  cases element with
  | code text =>
    have source : (Element.code text).source ++ rest = '\x60' :: (text ++ '\x60' :: rest) := by
      simp [Element.source]
    have width : offset + (Element.code text).source.length = offset + text.length + 2 := by
      simp [Element.source, Nat.add_assoc]
    rw [source, width]
    exact leads_code proper steady (single rfl) readable.flat offset r
  | address scheme path =>
    have source : (Element.address scheme path).source ++ rest =
        '<' :: (scheme ++ ':' :: path ++ '>' :: rest) := by
      simp [Element.source]
    have width : offset + (Element.address scheme path).source.length =
        offset + (scheme ++ ':' :: path).length + 2 := by
      simp [Element.source, Nat.add_assoc]
    rw [width] at fits
    rw [source, width, Element.inline, width]
    exact leads_address proper steady readable.flat offset fits readable.fresh r
  | image alt dest title =>
    simp only [Element.isProper, Bool.and_eq_true] at proper
    obtain ⟨⟨proper, destined⟩, titled⟩ := proper
    have source : (Element.image alt dest title).source ++ rest =
        openingSource true ++ (alt.source ++ ']' :: (targetSource dest title ++ ')' :: rest)) := by
      simp [Element.source, openingSource]
    have width : offset + (Element.image alt dest title).source.length =
        offset + 2 + alt.source.length + 1 + (targetSource dest title).length + 1 := by
      simp only [Element.source, List.length_append, List.length_cons, List.length_nil]
      omega
    rw [width] at fits
    rw [source, width, Element.inline, width]
    refine leads_targeted true destined titled readable.flat readable.fresh steady offset fits r
      (Prose.steady proper (.inl rfl) (by simp)) (fun first => ?_) nofun
    exact Prose.leads readable alt free (offset + 2) _ _ proper (.inl rfl) (by simp) (by omega)
      fun unbound => (calm unbound).image first
  | link inner dest title =>
    simp only [Element.isProper, Bool.and_eq_true] at proper
    obtain ⟨⟨⟨unbound, proper⟩, destined⟩, titled⟩ := proper
    have source : (Element.link inner dest title).source ++ rest =
        openingSource false ++ (inner.source ++ ']' :: (targetSource dest title ++ ')' :: rest)) := by
      simp [Element.source, openingSource]
    have width : offset + (Element.link inner dest title).source.length =
        offset + 1 + inner.source.length + 1 + (targetSource dest title).length + 1 := by
      simp only [Element.source, List.length_append, List.length_cons, List.length_nil]
      omega
    rw [width] at fits
    rw [source, width, Element.inline, width]
    refine leads_targeted false destined titled readable.flat readable.fresh steady offset fits r
      (Prose.steady proper (.inl rfl) (by simp)) (fun first => ?_) fun _ => calm unbound
    exact Prose.leads readable inner false (offset + 1) _ _ proper (.inl rfl) (by simp)
      (by omega) nofun
  | reference inner label =>
    simp only [Element.isProper, Bool.and_eq_true] at proper
    obtain ⟨⟨⟨unbound, proper⟩, labelled⟩, known⟩ := proper
    obtain ⟨d, defined⟩ := Option.isSome_iff_exists.mp (readable.covers label known)
    have source : (Element.reference inner label).source ++ rest =
        openingSource false ++ (inner.source ++ ']' :: ('[' :: (label ++ ']' :: rest))) := by
      simp [Element.source, openingSource]
    have width : offset + (Element.reference inner label).source.length =
        offset + 1 + inner.source.length + 1 + label.length + 2 := by
      simp only [Element.source, List.length_append, List.length_cons, List.length_nil]
      omega
    rw [width] at fits
    rw [source, width, Element.inline, width, defined]
    refine leads_brackets .reference false offset r (Prose.steady proper (.inl rfl) (by simp))
      (fun first => ?_)
      (fun spent first t after => ?_) fun _ => calm unbound
    · exact Prose.leads readable inner false (offset + 1) _ _ proper (.inl rfl) (by simp)
        (by omega) nofun
    · exact closing_label labelled defined readable.flat spent first _ after steady fits

end

end DocSite.Markdown
