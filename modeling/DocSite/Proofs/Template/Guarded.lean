/-
# DocSite.Proofs.Template.Guarded -- loops over documentation that was found

A loop over the documentation of a page whose turns ask first whether they have a mapping (`guardedLoop`) writes
nothing for anything else. So when some entries are left out (`Thinned`), the loop writes the same if no mapping
is among them, and otherwise each mapping left out costs at least the text with which a turn begins
(`follows_guarded`).
-/
import DocSite.Proofs.Template.Turns

set_option autoImplicit false

namespace DocSite.Template

open Eval

/-! ## The loop -/

/-- A loop over the documentation of a page whose turns write something only for mappings. -/
def guardedLoop (adapter kinds lead : Text) (body : List Node) : Node :=
  .loop (.list [.name adapter, .name kinds])
    (.filter (.field (.var pageName) docsName) "items".toList []) none false
    [.ifElse (.test (.var kinds) "mapping".toList []) (.data lead :: body) []] []

/-- Whether a part of a template is a loop over the documentation of a page with a guard, and plain apart from
that. -/
def Node.isGuarded : Node → Bool
  | .loop (.list [.name adapter, .name kinds]) (.filter (.field (.var page) docs) items []) none false
      [.ifElse (.test (.var tested) test []) (.data lead :: body) []] [] =>
    page == pageName && docs == docsName && items == "items".toList && tested == kinds &&
      test == "mapping".toList && !special.contains adapter && !special.contains kinds &&
      !lead.isEmpty && nodesArePlain body
  | _ => false

/-- What a loop with a guard is made of. -/
structure IsGuarded (adapter kinds lead : Text) (body : List Node) : Prop where
  adapter : adapter ∉ special
  kinds : kinds ∉ special
  lead : lead ≠ []
  body : nodesArePlain body = true

theorem eq_guardedLoop {node : Node} (guarded : node.isGuarded = true) :
    ∃ adapter kinds lead body, node = guardedLoop adapter kinds lead body ∧
      IsGuarded adapter kinds lead body := by
  unfold Node.isGuarded at guarded
  split at guarded
  · simp only [Bool.and_eq_true, beq_iff_eq] at guarded
    obtain ⟨⟨⟨⟨⟨⟨⟨⟨rfl, rfl⟩, rfl⟩, rfl⟩, rfl⟩, adapter⟩, kinds⟩, lead⟩, body⟩ := guarded
    exact ⟨_, _, _, _, rfl, by simpa using adapter, by simpa using kinds, by simpa using lead, body⟩
  · cases guarded

/-! ## Documentation with some left out -/

/-- Whether entries are left out of a list, `n` of which are mappings. -/
inductive Thinned : Nat → List (Value × Value) → List (Value × Value) → Prop
  | nil : Thinned 0 [] []
  | keep {n : Nat} {l l' : List (Value × Value)} (entry : Value × Value) (rest : Thinned n l l') :
      Thinned n (entry :: l) (entry :: l')
  | drop {n : Nat} {l l' : List (Value × Value)} {entry : Value × Value} (other : entry.2.kind ≠ .map)
      (rest : Thinned n l l') : Thinned n (entry :: l) l'
  | leak {n : Nat} {l l' : List (Value × Value)} {entry : Value × Value} (map : entry.2.kind = .map)
      (rest : Thinned n l l') : Thinned (n + 1) (entry :: l) l'

section

variable {env : Environment} {a b : Seen} {m n : Nat} {s s' t t' : State}
  {adapter kinds lead : Text} {body : List Node}

theorem applied_mapping (value : Value) :
    Test.applied "mapping".toList value .empty = .ok (value.kind = .map) := rfl

theorem applied_items (entries : List (Value × Value)) :
    Filter.applied "items".toList (.map entries) .empty = .ok (Filter.pairs entries) := rfl

theorem kind_refreshed (heap : List Names) (value : Value) : (refreshed heap value).kind = value.kind := by
  cases value <;> rfl

/-! ## A turn -/

/-- A frame after a turn has given two names the key and the value of an entry. -/
def Frame.turned (frame : Frame) (change : Loop → Loop) (adapter kinds : Text) (entry : Value × Value) :
    Frame :=
  ({ frame with loop := frame.loop.map change }.bound adapter entry.1).bound kinds entry.2

/-- An entry as the filter for entries gives it. -/
def pairOf (entry : Value × Value) : Value := .list [entry.1, entry.2]

section

variable {frame frame' : Frame} {asked asked' written written' : List Text}

theorem turn_entry (unshared : frame.shared = none) (fuel : Nat) (change : Loop → Loop)
    (entry : Value × Value) :
    turn env (fuel + 2) (.list [.name adapter, .name kinds]) body change (pairOf entry)
        (s.atop frame asked written) =
      nodes env (fuel + 2) body (s.atop (frame.turned change adapter kinds entry) asked written) := by
  have assigned : assign env (fuel + 2) (.list [.name adapter, .name kinds]) (pairOf entry)
      (s.atop { frame with loop := frame.loop.map change } asked written) =
      .ok () (s.atop (frame.turned change adapter kinds entry) asked written) := by
    have started : { frame with loop := frame.loop.map change }.shared = none := unshared
    have first : ({ frame with loop := frame.loop.map change }.bound adapter entry.1).shared = none :=
      unshared
    show (store adapter entry.1 >>= fun _ => store kinds entry.2 >>= fun _ => pure ())
      (s.atop { frame with loop := frame.loop.map change } asked written) = _
    rw [bind_ok (store_atop started adapter entry.1), bind_ok (store_atop first kinds entry.2)]
    rfl
  show (assign env (fuel + 2) _ _ >>= fun _ => nodes env (fuel + 2) body)
    (s.atop { frame with loop := frame.loop.map change } asked written) = _
  rw [bind_ok assigned]

/-- Two states agree on an entry that both are in a turn for. -/
theorem Alike.turned (guarded : IsGuarded adapter kinds lead body)
    (alike : Alike a b [adapter, kinds] (s.atop frame asked written) (s'.atop frame' asked' written'))
    (change change' : Loop → Loop) (entry : Value × Value) :
    Alike a b [] (s.atop (frame.turned change adapter kinds entry) asked written)
      (s'.atop (frame'.turned change' adapter kinds entry) asked' written') := by
  have started := alike.like (s.like_loop frame (frame.loop.map change) asked written)
    (s'.like_loop frame' (frame'.loop.map change') asked' written') alike.height
  have first : Alike a b [kinds] _ _ := started.bound guarded.adapter entry.1 fun other hidden differ => by
    simp_all
  exact first.bound guarded.kinds entry.2 fun other _ differ => by simpa using differ

/-- The names of an entry are hidden from the state that is not in a turn for it. -/
theorem Alike.turned_left (guarded : IsGuarded adapter kinds lead body)
    (alike : Alike a b [adapter, kinds] (s.atop frame asked written) t') (change : Loop → Loop)
    (entry : Value × Value) :
    Alike a b [adapter, kinds] (s.atop (frame.turned change adapter kinds entry) asked written) t' where
  left := ((alike.left.like (s.like_loop ..)).bound guarded.adapter entry.1).bound guarded.kinds entry.2
  right := alike.right
  agree := alike.agree
  found := fun name plain visible => by
    rw [Frame.turned, found_bound, if_neg (by simp_all), found_bound, if_neg (by simp_all),
      found_of_loop _ _ (special_ne plain).2.2]
    exact alike.found name plain visible
  height := alike.height
  heap := alike.heap
  depth := alike.depth
  escaping := alike.escaping

end

/-! ## What a turn writes -/

/-- What stands in the loop: its text is guarded by a test. -/
def guardedBody (kinds lead : Text) (body : List Node) : List Node :=
  [.ifElse (.test (.var kinds) "mapping".toList []) (.data lead :: body) []]

theorem nodes_guarded (fuel : Nat) {value : Value} (found : s.found kinds = some value) :
    nodes env (fuel + 4) (guardedBody kinds lead body) s =
      nodes env (fuel + 2) (if value.kind = .map then .data lead :: body else []) s := by
  have looked : expr env (fuel + 1) (.var kinds) s = .ok (refreshed s.heap value) s := by
    rw [expr, bind_ok (lookup_eq kinds s), found]
    rfl
  have tested : expr env (fuel + 2) (.test (.var kinds) "mapping".toList []) s =
      .ok (.bool (value.kind = .map)) s := by
    have none : arguments env (fuel + 1) [] s = .ok .empty s := rfl
    rw [expr, bind_ok looked, bind_ok none, applied_mapping, kind_refreshed]
    rfl
  show (node env (fuel + 3) (.ifElse _ _ _) >>= fun _ => pure ()) s = _
  rw [bind_pure_unit, node, bind_ok tested]
  by_cases map : value.kind = .map
  · rw [if_pos map, if_pos (by simpa [Value.isTrue] using map)]
  · rw [if_neg map, if_neg (by simpa [Value.isTrue] using map)]

/-- Nothing is written for what is no mapping. -/
theorem nodes_other (fuel : Nat) {value : Value} (found : s.found kinds = some value)
    (other : value.kind ≠ .map) : nodes env (fuel + 4) (guardedBody kinds lead body) s = .ok () s := by
  rw [nodes_guarded fuel found, if_neg other]
  rfl

/-- Something is written for a mapping, unless the rest fails. -/
theorem nodes_map (env : Environment) (guarded : IsGuarded adapter kinds lead body)
    (alike : Alike a a [] s s) (fuel : Nat) {value : Value} (found : s.found kinds = some value)
    (map : value.kind = .map) :
    (∃ e t, nodes env (fuel + 4) (guardedBody kinds lead body) s = .error e t) ∨
      ∃ asked written, nodes env (fuel + 4) (guardedBody kinds lead body) s = .ok () (s.after asked written) ∧
        1 ≤ written.flatten.length := by
  have led : write lead s = .ok () (s.after [] [lead]) := by
    rw [write, if_neg (by simpa using guarded.lead)]
    rfl
  have unfolded : nodes env (fuel + 4) (guardedBody kinds lead body) s =
      nodes env (fuel + 2) body (s.after [] [lead]) := by
    rw [nodes_guarded fuel found, if_pos map]
    show (write lead >>= fun _ => nodes env (fuel + 2) body) s = _
    rw [bind_ok led]
  rw [unfolded]
  rcases (follows_nodes env (fuel + 2) guarded.body (alike.after [] [] [lead] [lead])).self_cases with
    failed | ⟨asked, written, done⟩
  · exact .inl failed
  · refine .inr ⟨asked, written ++ [lead], ?_, ?_⟩
    · rw [done, State.after_after, List.append_nil]
    · have := List.length_pos_of_ne_nil guarded.lead
      simp only [List.flatten_append, List.length_append, List.flatten_singleton]
      omega

theorem plain_guardedBody (guarded : IsGuarded adapter kinds lead body) :
    nodesArePlain (guardedBody kinds lead body) = true := by
  simp [guardedBody, nodesArePlain, Node.isPlain, Expr.isPlain, argumentsArePlain, guarded.kinds, guarded.body]

/-! ## The whole loop -/

/-- The turns of the loop from a place on. -/
def guardedTurns (env : Environment) (fuel : Nat) (adapter kinds lead : Text) (body : List Node)
    (change : Nat → Loop → Loop) (i : Nat) (entries : List (Value × Value)) : Eval Unit :=
  ((entries.map pairOf).zipIdx i).forM fun item =>
    turn env fuel (.list [.name adapter, .name kinds]) (guardedBody kinds lead body) (change item.2) item.1

theorem guardedTurns_cons {frame : Frame} {asked written : List Text} (unshared : frame.shared = none)
    (fuel : Nat) (change : Nat → Loop → Loop) (i : Nat) (entry : Value × Value)
    (rest : List (Value × Value)) :
    guardedTurns env (fuel + 2) adapter kinds lead body change i (entry :: rest) (s.atop frame asked written) =
      (nodes env (fuel + 2) (guardedBody kinds lead body) >>= fun _ =>
        guardedTurns env (fuel + 2) adapter kinds lead body change (i + 1) rest)
        (s.atop (frame.turned (change i) adapter kinds entry) asked written) :=
  bind_congr _ (turn_entry unshared fuel (change i) entry)

theorem found_turned (frame : Frame) (change : Loop → Loop) (entry : Value × Value) (asked written : List Text) :
    (s.atop (frame.turned change adapter kinds entry) asked written).found kinds = some entry.2 := by
  rw [Frame.turned, found_bound, if_pos rfl]

/-- The entries that are left out write something in the first run just if they are mappings. -/
theorem along_turns (env : Environment) (guarded : IsGuarded adapter kinds lead body) {alone : Prop} (fuel : Nat)
    (change change' : Nat → Loop → Loop) {l l' : List (Value × Value)} (thinned : Thinned n l l')
    (allow : 0 < n → alone) (i i' : Nat) (inside : Inside a b [adapter, kinds] m s s' t t') :
    Along alone (Inside a b [adapter, kinds] (m + n) s s')
      (guardedTurns env (fuel + 4) adapter kinds lead body change i l t)
      (guardedTurns env (fuel + 4) adapter kinds lead body change' i' l' t') := by
  induction thinned generalizing i i' m t t' with
  | nil => exact .done inside
  | @keep n l l' entry rest ih =>
    obtain ⟨unshared, unshared', ahead, alike⟩ := inside
    rw [guardedTurns_cons unshared, guardedTurns_cons unshared']
    have alike := alike.turned guarded (change i) (change' i') entry
    have inside : Inside a b [] m s s' _ _ := ⟨by exact unshared, by exact unshared', ahead, alike⟩
    have written := inside.follows (follows_nodes env (fuel + 4) (plain_guardedBody guarded) alike)
    refine (written.mono (absurd · (Nat.lt_irrefl 0)) fun _ _ inside => inside).bind fun t t' inside => ?_
    exact ih allow (i + 1) (i' + 1) inside.hide
  | @drop n l l' entry other rest ih =>
    obtain ⟨unshared, unshared', ahead, alike⟩ := inside
    rw [guardedTurns_cons unshared, bind_ok (nodes_other fuel (found_turned ..) other)]
    exact ih allow (i + 1) i'
      ⟨by exact unshared, unshared', ahead, alike.turned_left guarded (change i) entry⟩
  | @leak n l l' entry map rest ih =>
    obtain ⟨unshared, unshared', ahead, alike⟩ := inside
    rw [guardedTurns_cons unshared]
    have alike := alike.turned_left guarded (change i) entry
    rcases nodes_map env guarded alike.self fuel (found_turned ..) map with
      ⟨e, t, failed⟩ | ⟨asked, written, done, some⟩
    · rw [bind_error failed]
      exact .led (allow (Nat.succ_pos n))
    · have sum : m + (n + 1) = m + 1 + n := by omega
      have alike := alike.after asked [] written []
      rw [State.after_nothing, State.after_atop] at alike
      rw [bind_ok done, State.after_atop, sum]
      exact ih (fun _ => allow (Nat.succ_pos n)) (i + 1) i' ⟨by exact unshared, unshared', ahead.lead some, alike⟩

theorem expr_docs (inside : a.In s) (fuel : Nat) :
    expr env (fuel + 3) (.filter (.field (.var pageName) docsName) "items".toList []) s =
      .ok (Filter.pairs a.docs) s := by
  have field : expr env (fuel + 2) (.field (.var pageName) docsName) s = .ok (.map a.docs) s := by
    rw [expr_pageField inside, a.hasDocs]
    rfl
  have none : arguments env (fuel + 2) [] s = .ok .empty s := rfl
  rw [expr, bind_ok field, bind_ok none, applied_items]
  rfl

theorem within_nothing {frame : Frame} (room : s.depth + s.frames.length ≤ maxDepth) :
    within frame (pure ()) s = .ok () s := by
  rw [within, bind_ok (push_of_le frame room)]
  rfl

/-- The loop runs its turns over the documentation that a page is seen to have. -/
theorem node_guarded (env : Environment) (adapter kinds lead : Text) (body : List Node) (inside : a.In s)
    (room : s.depth + s.frames.length ≤ maxDepth) (fuel : Nat) :
    ∃ (frame : Frame) (change : Nat → Loop → Loop), frame.Fresh ∧
      node env (fuel + 6) (guardedLoop adapter kinds lead body) s =
        within frame (guardedTurns env (fuel + 4) adapter kinds lead body change 0 a.docs) s := by
  obtain ⟨loop, same, target, inner, otherwise⟩ : ∃ loop : Loop,
      node env (fuel + 6) (guardedLoop adapter kinds lead body) s =
        runLoop env (fuel + 5) loop (Filter.pairs a.docs) s ∧
      loop.target = .list [.name adapter, .name kinds] ∧ loop.body = guardedBody kinds lead body ∧
      loop.otherwise = [] := by
    rw [guardedLoop, node, bind_ok (expr_docs inside (fuel + 2))]
    exact ⟨_, rfl, rfl, rfl, rfl⟩
  have items : (Filter.pairs a.docs).items = .ok (a.docs.map pairOf) := rfl
  by_cases filled : a.docs.map pairOf = []
  · refine ⟨bareFrame, fun _ loop => loop, ⟨rfl, rfl, rfl, rfl⟩, ?_⟩
    rw [same, runLoop_empty (fuel + 4) loop (filled ▸ items), otherwise, guardedTurns, filled]
    exact (within_nothing room).symm
  · obtain ⟨frame, change, fresh, run⟩ := runLoop_items env (fuel + 4) loop items filled
    refine ⟨frame, change, fresh, ?_⟩
    rw [same, run, target, inner]
    rfl

/-- A loop with a guard gets ahead by what it writes for mappings that the other run does not have. -/
theorem follows_guarded (guarded : IsGuarded adapter kinds lead body) (alike : Alike a b [] s s')
    (thinned : Thinned n a.docs b.docs) (room : s.depth + s.frames.length ≤ maxDepth) (fuel : Nat) :
    Follows n s s' (node env (fuel + 6) (guardedLoop adapter kinds lead body) s)
      (node env (fuel + 6) (guardedLoop adapter kinds lead body) s') := by
  have room' : s'.depth + s'.frames.length ≤ maxDepth := by
    rw [← alike.depth, ← alike.height]
    exact room
  obtain ⟨frame, change, fresh, left⟩ := node_guarded env adapter kinds lead body alike.left room fuel
  obtain ⟨frame', change', fresh', right⟩ := node_guarded env adapter kinds lead body alike.right room' fuel
  rw [left, right]
  refine follows_within [adapter, kinds] alike fresh fresh' fun start => ?_
  have turns := along_turns env guarded fuel change change' thinned id 0 0 start.hide
  rwa [Nat.zero_add] at turns

end

end DocSite.Template
