/-
# DocSite.Proofs.Markdown.Ending -- the endings of destinations

A destination that gets a new one is a path that ends like a Markdown source, with a query or a place
behind it; only the ending changes (`retarget_eq_some`, `eq_of_retarget`). Conversely such a path gets a new
ending unless what follows it looks like an address with a host (`retarget_of_path`).
-/
import DocSite.Markdown.Retarget
import DocSite.Proofs.Text.Phrases

set_option autoImplicit false

namespace DocSite.Markdown

open Text

variable {extension dest stem suffix : Text}

theorem dropEnding_eq_some {ending text : Text} :
    dropEnding? ending text = some stem ↔ text = stem ++ ending := by
  rw [dropEnding?, Option.map_eq_some_iff]
  constructor
  · rintro ⟨rest, found, rfl⟩
    rw [dropPhrase_eq_some, ← List.reverse_inj] at found
    simpa using found
  · rintro rfl
    exact ⟨stem.reverse, dropPhrase_eq_some.mpr (by simp), by simp⟩

/-- Whether a text may follow the path of a destination: a query, a place in the page, or nothing. -/
def IsSuffix (suffix : Text) : Prop := ∀ c ∈ suffix.head?, c = '#' ∨ c = '?'

/-- What takes the place of the ending of a source. -/
def newEnding (extension : Text) : Text := if extension.isEmpty then [] else '.' :: extension

/-- The path of a destination ends where its suffix begins. -/
theorem path_of_dest (unmarked : ∀ c ∈ dest, c ≠ '#' ∧ c ≠ '?') (follows : IsSuffix suffix) :
    (dest ++ suffix).takeWhile (fun c => !(c == '#' || c == '?')) = dest := by
  have plain : ∀ c ∈ dest, (!(c == '#' || c == '?')) = true := fun c member => by
    simp [unmarked c member]
  rw [List.takeWhile_append_of_pos plain]
  cases suffix with
  | nil => simp
  | cons c rest =>
    have mark : c = '#' ∨ c = '?' := follows c rfl
    rw [List.takeWhile_cons_of_neg (by rcases mark with rfl | rfl <;> decide), List.append_nil]

/-- A path with a dot and without a colon is no address of another kind, but a host may stand behind
it. -/
theorem isElsewhere_iff (inside : dest.head? ≠ some '/')
    (unmarked : ∀ c ∈ dest, c ≠ '#' ∧ c ≠ '?' ∧ c ≠ ':') (dotted : '.' ∈ dest) (suffix : Text) :
    isElsewhere (dest ++ suffix) = true ↔ "://".toList <:+: suffix := by
  have uncoloned : ':' ∉ dest := fun member => (unmarked _ member).2.2 rfl
  cases dest with
  | nil => cases dotted
  | cons c rest =>
    have place : dropPhrase? ['#'] (c :: rest ++ suffix) = none := by
      rw [dropPhrase_eq_none, List.cons_append, List.cons_prefix_cons, not_and]
      exact fun same => absurd same.symm (unmarked c (List.mem_cons_self ..)).1
    have host : dropPhrase? ['/', '/'] (c :: rest ++ suffix) = none := by
      rw [dropPhrase_eq_none, List.cons_append, List.cons_prefix_cons, not_and]
      exact fun same => absurd (by rw [same]; rfl) inside
    have mail : dropPhrase? "mailto:".toList (c :: rest ++ suffix) = none := by
      rw [dropPhrase_eq_none]
      intro start
      rcases List.prefix_or_prefix_of_prefix start
        (List.prefix_append (c :: rest) suffix) with long | short
      · exact uncoloned (long.subset (by decide))
      · exact absurd (short.subset dotted) (by decide)
    have address : "://".toList <:+: c :: rest ++ suffix ↔ "://".toList <:+: suffix :=
      infix_append_of_not_mem uncoloned
    rw [← address, ← containsPhrase_iff (by decide), isElsewhere, place, host, mail]
    simp

/-- A path that ends like a Markdown source gets a new ending, unless a host stands behind it. -/
theorem retarget_of_path (inside : stem.head? ≠ some '/')
    (unmarked : ∀ c ∈ stem, c ≠ '#' ∧ c ≠ '?' ∧ c ≠ ':') (follows : IsSuffix suffix) :
    retarget? extension (stem ++ ".md".toList ++ suffix) =
      if "://".toList <:+: suffix then none else some (stem ++ newEnding extension ++ suffix) := by
  have ending : ∀ c ∈ ".md".toList, c ≠ '#' ∧ c ≠ '?' ∧ c ≠ ':' := by simp
  have unmarked' : ∀ c ∈ stem ++ ".md".toList, c ≠ '#' ∧ c ≠ '?' ∧ c ≠ ':' := by
    intro c member
    rcases List.mem_append.mp member with member | member
    · exact unmarked c member
    · exact ending c member
  have inside' : (stem ++ ".md".toList).head? ≠ some '/' := by
    cases stem with
    | nil => decide
    | cons c rest => simpa using inside
  have elsewhere := isElsewhere_iff inside' unmarked' (by simp) suffix
  have path := path_of_dest (fun c member => ⟨(unmarked' c member).1, (unmarked' c member).2.1⟩) follows
  have cut : dropEnding? ".md".toList (stem ++ ".md".toList) = some stem := dropEnding_eq_some.mpr rfl
  rw [retarget?]
  split
  next found => rw [if_pos (elsewhere.mp found)]
  next missing =>
    rw [if_neg fun found => missing (elsewhere.mpr found), path]
    dsimp only
    rw [cut]
    simp [newEnding]

/-! ## Destinations that get a new ending -/

/-- Whether a destination is a path that ends like a Markdown source after `stem`, with `suffix` behind it. -/
def IsCut (dest stem suffix : Text) : Prop :=
  (dest = stem ++ ".md".toList ++ suffix ∨ dest = stem ++ ".MD".toList ++ suffix) ∧
    (∀ c ∈ stem, c ≠ '#' ∧ c ≠ '?') ∧ IsSuffix suffix

/-- Whether `target` is `dest` with another ending in place of that of a Markdown source. -/
def Renames (extension dest target : Text) : Prop :=
  ∃ stem suffix, IsCut dest stem suffix ∧ target = stem ++ newEnding extension ++ suffix

/-- The path of a destination, up to a query or a place in the page. -/
def pathOf (dest : Text) : Text := dest.takeWhile fun c => !(c == '#' || c == '?')

/-- What follows the path of a destination. -/
theorem drop_pathOf (dest : Text) :
    dest.drop (pathOf dest).length = dest.dropWhile fun c => !(c == '#' || c == '?') := by
  have whole : pathOf dest ++ (dest.dropWhile fun c => !(c == '#' || c == '?')) = dest :=
    List.takeWhile_append_dropWhile
  calc dest.drop (pathOf dest).length
      = (pathOf dest ++ dest.dropWhile fun c => !(c == '#' || c == '?')).drop (pathOf dest).length := by
        rw [whole]
    _ = dest.dropWhile fun c => !(c == '#' || c == '?') := List.drop_left

theorem pathOf_append_drop (dest : Text) : pathOf dest ++ dest.drop (pathOf dest).length = dest := by
  rw [drop_pathOf]
  exact List.takeWhile_append_dropWhile

theorem unmarked_pathOf {c : Char} (member : c ∈ pathOf dest) : c ≠ '#' ∧ c ≠ '?' := by
  have plain := List.all_eq_true.mp List.all_takeWhile c member
  simpa using plain

theorem isSuffix_drop_pathOf (dest : Text) : IsSuffix (dest.drop (pathOf dest).length) := by
  intro c first
  have stopped := List.head?_dropWhile_not (fun c => !(c == '#' || c == '?')) dest
  rw [drop_pathOf, Option.mem_def] at first
  rw [first] at stopped
  simpa [or_iff_not_imp_left] using stopped

/-- A destination can be cut after a stem just if its path is the stem with the ending of a source. -/
theorem isCut_iff : IsCut dest stem suffix ↔
    (pathOf dest = stem ++ ".md".toList ∨ pathOf dest = stem ++ ".MD".toList) ∧
      suffix = dest.drop (pathOf dest).length := by
  constructor
  · rintro ⟨whole, unmarked, follows⟩
    have cut (ending : Text) (plain : ∀ c ∈ ending, c ≠ '#' ∧ c ≠ '?') (same : dest = stem ++ ending ++ suffix) :
        pathOf dest = stem ++ ending ∧ suffix = dest.drop (pathOf dest).length := by
      have path : pathOf dest = stem ++ ending := by
        rw [same]
        refine path_of_dest (fun c member => ?_) follows
        exact (List.mem_append.mp member).elim (unmarked c) (plain c)
      rw [path, same, List.drop_left]
      exact ⟨rfl, rfl⟩
    rcases whole with lower | upper
    · obtain ⟨path, rest⟩ := cut _ (by simp) lower
      exact ⟨.inl path, rest⟩
    · obtain ⟨path, rest⟩ := cut _ (by simp) upper
      exact ⟨.inr path, rest⟩
  · rintro ⟨path, rfl⟩
    refine ⟨?_, fun c member => ?_, isSuffix_drop_pathOf dest⟩
    · have whole := (pathOf_append_drop dest).symm
      rcases path with path | path
      · exact .inl (by rw [← path]; exact whole)
      · exact .inr (by rw [← path]; exact whole)
    · have inside : c ∈ pathOf dest := by rcases path with path | path <;> simp [path, member]
      exact unmarked_pathOf inside

/-- The stem that is found for a path is what stands before the ending of a source. -/
theorem stem_eq_some {path : Text} :
    (match dropEnding? ".md".toList path with
      | some stem => some stem
      | none => dropEnding? ".MD".toList path) = some stem ↔
      path = stem ++ ".md".toList ∨ path = stem ++ ".MD".toList := by
  have different (other stem : Text) : other ++ ".md".toList ≠ stem ++ ".MD".toList := by
    intro same
    have last := congrArg List.getLast? same
    simp at last
  split
  next other lower =>
    rw [dropEnding_eq_some.mp lower, or_iff_left (different other stem), Option.some.injEq,
      List.append_cancel_right_eq]
  next missing =>
    have single : path ≠ stem ++ ".md".toList := fun lower => by
      rw [dropEnding_eq_some.mpr lower] at missing
      cases missing
    rw [dropEnding_eq_some, or_iff_right single]

/-- The links that get a new destination are those that are not taken for links elsewhere and whose path ends
like a source; only the ending changes. -/
theorem retarget_eq_some {target : Text} :
    retarget? extension dest = some target ↔ isElsewhere dest = false ∧ Renames extension dest target := by
  rw [retarget?]
  cases isElsewhere dest with
  | true => simp
  | false =>
    rw [if_neg Bool.false_ne_true, Option.map_eq_some_iff]
    constructor
    · rintro ⟨stem, found, rfl⟩
      exact ⟨rfl, stem, _, isCut_iff.mpr ⟨stem_eq_some.mp found, rfl⟩, rfl⟩
    · rintro ⟨-, stem, suffix, cut, rfl⟩
      obtain ⟨path, rfl⟩ := isCut_iff.mp cut
      exact ⟨stem, stem_eq_some.mpr path, rfl⟩

/-- A destination that gets a new one is a path that ends like a source, and what follows it. -/
theorem eq_of_retarget {target : Text} (found : retarget? extension dest = some target) :
    ∃ stem ending suffix, (ending = ".md".toList ∨ ending = ".MD".toList) ∧
      dest = stem ++ ending ++ suffix ∧ target = stem ++ newEnding extension ++ suffix := by
  obtain ⟨-, stem, suffix, ⟨lower | upper, -, -⟩, same⟩ := retarget_eq_some.mp found
  · exact ⟨stem, _, suffix, .inl rfl, lower, same⟩
  · exact ⟨stem, _, suffix, .inr rfl, upper, same⟩

end DocSite.Markdown
