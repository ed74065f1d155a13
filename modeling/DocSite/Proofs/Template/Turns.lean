/-
# DocSite.Proofs.Template.Turns -- plain parts write the same

In two states that agree but for the documentation of the page, plain parts of a template write the same
(`follows_nodes`). The proof is by induction on the fuel, kind of part by kind of part; a loop goes turn by turn,
and what its turns need is that each leaves two states within the frames of the loop that agree again
(`Inside`, `follows_runLoop`).
-/
import DocSite.Proofs.Template.Plain

set_option autoImplicit false

namespace DocSite.Template

open Eval

variable {env : Environment} {a b : Seen} {hidden : List Text} {n : Nat} {s s' t t' : State}

/-! ## Within a frame -/

/-- Two states within a frame each. -/
inductive Inside (a b : Seen) (hidden : List Text) (n : Nat) (s s' : State) : State → State → Prop
  | intro {frame frame' : Frame} {asked asked' written written' : List Text} (unshared : frame.shared = none)
      (unshared' : frame'.shared = none) (ahead : Ahead n written written')
      (alike : Alike a b hidden (s.atop frame asked written) (s'.atop frame' asked' written')) :
      Inside a b hidden n s s' (s.atop frame asked written) (s'.atop frame' asked' written')

theorem Inside.alike (inside : Inside a b hidden n s s' t t') : Alike a b hidden t t' := by
  obtain ⟨_, _, _, alike⟩ := inside
  exact alike

/-- More names may be hidden. -/
theorem Inside.hide (inside : Inside a b [] n s s' t t') : Inside a b hidden n s s' t t' := by
  obtain ⟨unshared, unshared', ahead, alike⟩ := inside
  exact ⟨unshared, unshared', ahead,
    { alike with found := fun name plain _ => alike.found name plain List.not_mem_nil }⟩

theorem Inside.follows {m : Nat} {r r' : Left Unit} (inside : Inside a b hidden n s s' t t')
    (follows : Follows m t t' r r') : Along (0 < m) (Inside a b hidden (n + m) s s') r r' := by
  obtain ⟨unshared, unshared', ahead, alike⟩ := inside
  refine follows.mono id ?_
  rintro _ _ ⟨asked, asked', written, written', rfl, rfl, further⟩
  have alike := alike.after asked asked' written written'
  rw [State.after_atop, State.after_atop] at alike ⊢
  exact ⟨unshared, unshared', further.append ahead, alike⟩

theorem Inside.store (inside : Inside a b [] n s s' t t') {name : Text} (plain : name ∉ special)
    (value : Value) : Along False (Inside a b [] n s s') (store name value t) (store name value t') := by
  obtain ⟨unshared, unshared', ahead, alike⟩ := inside
  rw [store_atop unshared, store_atop unshared']
  exact .done ⟨unshared, unshared', ahead, alike.bound plain value fun _ visible _ => visible⟩

theorem Inside.assignName (inside : Inside a b [] n s s' t t') (fuel : Nat) (target : Target)
    (plain : target.isName = true) (value : Value) :
    Along False (Inside a b [] n s s') (assign env fuel target value t) (assign env fuel target value t') := by
  cases fuel with
  | zero => exact .failed
  | succ fuel =>
    cases target with
    | name text =>
      have plain : text ∉ special := by simpa [Target.isName] using plain
      exact inside.store plain value
    | _ => cases plain

/-- The same value given to names leaves the states alike. -/
theorem Inside.assign (inside : Inside a b [] n s s' t t') (fuel : Nat) {target : Target}
    (plain : target.isPlain = true) (value : Value) :
    Along False (Inside a b [] n s s') (assign env fuel target value t) (assign env fuel target value t') := by
  cases target with
  | name text => exact inside.assignName fuel (.name text) plain value
  | list targets =>
    cases fuel with
    | zero => exact .failed
    | succ fuel =>
      simp only [Eval.assign]
      cases value.unpacked? with
      | none => exact .failed
      | some items =>
        dsimp only
        split
        · refine Along.forM (fun pair member t t' inside => ?_) inside
          have name := List.all_eq_true.mp plain pair.1 (List.of_mem_zip member).1
          exact inside.assignName fuel pair.1 name pair.2
        · exact .failed
  | field of name => cases plain

/-- Two runs within a frame that knows no names. -/
theorem follows_within {frame frame' : Frame} {step step' : Eval Unit} (hidden : List Text)
    (alike : Alike a b [] s s') (fresh : frame.Fresh) (fresh' : frame'.Fresh)
    (run : Inside a b [] 0 s s' (s.atop frame [] []) (s'.atop frame' [] []) →
      Along (0 < n) (Inside a b hidden n s s') (step (s.atop frame [] [])) (step' (s'.atop frame' [] []))) :
    Follows n s s' (within frame step s) (within frame' step' s') := by
  have same : s'.depth + s'.frames.length = s.depth + s.frames.length := by
    rw [alike.depth, alike.height]
  rw [within, within]
  by_cases room : s.depth + s.frames.length ≤ maxDepth
  · rw [bind_ok (push_of_le frame room), bind_ok (push_of_le frame' (same ▸ room))]
    refine (run ⟨fresh.shared, fresh'.shared, .refl _, ?_⟩).bind ?_
    · exact alike.like (fresh.like s) (fresh'.like s') (congrArg (· + 1) alike.height)
    · rintro _ _ ⟨_, _, ahead, _⟩
      exact .done ⟨_, _, _, _, rfl, rfl, ahead⟩
  · rw [bind_error (push_of_lt frame (Nat.lt_of_not_le room)),
      bind_error (push_of_lt frame' (same ▸ Nat.lt_of_not_le room))]
    exact .failed

/-! ## Loops -/

/-- A loop changed for its turn at a place. -/
def Loop.inTurn (place : Turn) (items : List Value) (i : Nat) (loop : Loop) : Loop :=
  { loop with
    turn := { place with index := i }
    previous := if i = 0 then .undefined else items.getD (i - 1) .undefined
    next := items.getD (i + 1) .undefined }

/-- A turn of a loop over an item. -/
def turn (env : Environment) (fuel : Nat) (target : Target) (body : List Node) (change : Loop → Loop)
    (item : Value) : Eval Unit := do
  changeFrame fun frame => { frame with loop := frame.loop.map change }
  assign env fuel target item
  nodes env fuel body

theorem forM_range_getD (items : List Value) (step : Nat → Value → Eval Unit) :
    (List.range items.length).forM (fun i => step i (items.getD i .undefined)) =
      items.zipIdx.forM fun item => step item.2 item.1 := by
  have places : items.zipIdx = (List.range items.length).map fun i => (items.getD i .undefined, i) := by
    refine List.ext_getElem (by simp) fun i inside inside' => ?_
    have inside : i < items.length := by simpa using inside
    simp [inside]
  rw [places, List.forM_eq_forM, List.forM_eq_forM, List.forM_map]

/-- A loop that has items runs its turns over them, within a frame of its own. -/
theorem runLoop_items (env : Environment) (fuel : Nat) (loop : Loop) {subject : Value} {items : List Value}
    (found : subject.items = .ok items) (filled : items ≠ []) :
    ∃ (frame : Frame) (change : Nat → Loop → Loop), frame.Fresh ∧
      runLoop env (fuel + 1) loop subject = within frame
        (items.zipIdx.forM fun item => turn env fuel loop.target loop.body (change item.2) item.1) := by
  let place := { loop.turn with length := items.length, sized := subject.isSized }
  let frame := { bareFrame with loop := some { loop with turn := place, changed := none } }
  have filled : items.isEmpty = false := by cases items <;> first | contradiction | rfl
  refine ⟨frame, Loop.inTurn place items, ⟨rfl, rfl, rfl, rfl⟩, ?_⟩
  rw [runLoop, found]
  show (if items.isEmpty then _ else _) = _
  rw [filled]
  exact congrArg (within frame) (forM_range_getD items fun i item =>
    turn env fuel loop.target loop.body (Loop.inTurn place items i) item)

theorem runLoop_empty (fuel : Nat) (loop : Loop) {subject : Value} (found : subject.items = .ok []) :
    runLoop env (fuel + 1) loop subject = nodes env fuel loop.otherwise := by
  rw [runLoop, found]
  rfl

theorem runLoop_error (fuel : Nat) (loop : Loop) {subject : Value} {e : Failure}
    (failed : subject.items = .error e) :
    runLoop env (fuel + 1) loop subject = throw e := by
  rw [runLoop, failed]
  rfl

theorem Inside.turn (inside : Inside a b [] n s s' t t') {fuel : Nat} {target : Target} {body : List Node}
    (plain : target.isPlain = true) (change change' : Loop → Loop) (item : Value)
    (run : ∀ t t', Inside a b [] n s s' t t' →
      Along False (Inside a b [] n s s') (nodes env fuel body t) (nodes env fuel body t')) :
    Along False (Inside a b [] n s s') (turn env fuel target body change item t)
      (turn env fuel target body change' item t') := by
  obtain ⟨unshared, unshared', ahead, alike⟩ := inside
  refine Along.bind (.done ?_) fun t t' inside => (Inside.assign inside fuel plain item).bind run
  exact ⟨unshared, unshared', ahead, alike.like (s.like_loop ..) (s'.like_loop ..) alike.height⟩

/-- A loop over the same items, if its turns leave the states alike. -/
theorem follows_runLoop (alike : Alike a b [] s s') {fuel : Nat} (loop loop' : Loop)
    (target : loop'.target = loop.target) (body : loop'.body = loop.body)
    (otherwise : loop'.otherwise = loop.otherwise) (plain : loop.target.isPlain = true)
    (run : ∀ t t', Inside a b [] 0 s s' t t' →
      Along False (Inside a b [] 0 s s') (nodes env fuel loop.body t) (nodes env fuel loop.body t'))
    (none : Follows 0 s s' (nodes env fuel loop.otherwise s) (nodes env fuel loop.otherwise s'))
    (subject : Value) :
    Follows 0 s s' (runLoop env (fuel + 1) loop subject s) (runLoop env (fuel + 1) loop' subject s') := by
  cases found : subject.items with
  | error e =>
    rw [runLoop_error fuel loop found, runLoop_error fuel loop' found]
    exact .failed
  | ok items =>
    by_cases filled : items = []
    · subst filled
      rw [runLoop_empty fuel loop found, runLoop_empty fuel loop' found, otherwise]
      exact none
    · obtain ⟨frame, change, fresh, left⟩ := runLoop_items env fuel loop found filled
      obtain ⟨frame', change', fresh', right⟩ := runLoop_items env fuel loop' found filled
      rw [left, right, target, body]
      refine follows_within [] alike fresh fresh' fun start => ?_
      refine (Along.forM (fun item _ t t' inside => ?_) start).mono False.elim fun _ _ inside => inside
      exact inside.turn plain _ _ _ run

/-! ## Plain parts -/

theorem mem_nodesArePlain {list : List Node} (plain : nodesArePlain list = true) {node : Node}
    (member : node ∈ list) : node.isPlain = true := by
  induction list with
  | nil => cases member
  | cons first rest ih =>
    obtain ⟨here, later⟩ := Bool.and_eq_true_iff.mp plain
    rcases List.mem_cons.mp member with rfl | inside
    · exact here
    · exact ih later inside

/-- What stands in a turn of a loop is plain, or sets names. -/
theorem mem_turnIsPlain {list : List Node} (plain : turnIsPlain list = true) {node : Node}
    (member : node ∈ list) : node.isPlain = true ∨
      ∃ target e, node = .set target e ∧ target.isPlain = true ∧ e.isPlain = true := by
  induction list with
  | nil => cases member
  | cons first rest ih =>
    rw [turnIsPlain.eq_def] at plain
    split at plain
    · contradiction
    next target e rest' list =>
      obtain ⟨rfl, rfl⟩ := List.cons.inj list
      obtain ⟨here, later⟩ := Bool.and_eq_true_iff.mp plain
      rcases List.mem_cons.mp member with rfl | inside
      · exact .inr ⟨target, e, rfl, Bool.and_eq_true_iff.mp here⟩
      · exact ih later inside
    next first' rest' list =>
      obtain ⟨rfl, rfl⟩ := List.cons.inj list
      obtain ⟨here, later⟩ := Bool.and_eq_true_iff.mp plain
      rcases List.mem_cons.mp member with rfl | inside
      · exact .inl here
      · exact ih later inside

theorem follows_write (text : Text) : Follows 0 s s' (write text s) (write text s') := by
  cases text with
  | nil => exact .stay
  | cons c text => exact .done ⟨[], [], [c :: text], [c :: text], rfl, rfl, .refl _⟩

/-- Whether plain parts write the same in two states that agree but for the documentation, as far as they are
followed to a depth below `fuel`. -/
def FollowBelow (env : Environment) (a b : Seen) (fuel : Nat) : Prop :=
  ∀ m < fuel, ∀ node : Node, node.isPlain = true → ∀ s s', Alike a b [] s s' →
    Follows 0 s s' (Eval.node env m node s) (Eval.node env m node s')

namespace FollowBelow

variable {fuel : Nat} {list : List Node}

theorem nodes (below : FollowBelow env a b fuel) (plain : nodesArePlain list = true)
    (alike : Alike a b [] s s') : Follows 0 s s' (nodes env fuel list s) (nodes env fuel list s') := by
  cases fuel with
  | zero => exact .failed
  | succ fuel =>
    exact Follows.forM (fun _ _ asked asked' w w' alike => alike.after asked asked' w w')
      (fun node member t t' => below fuel (Nat.lt_succ_self _) node (mem_nodesArePlain plain member) t t')
      alike

theorem turn (below : FollowBelow env a b fuel) (plain : turnIsPlain list = true)
    (inside : Inside a b [] n s s' t t') :
    Along False (Inside a b [] n s s') (Eval.nodes env fuel list t) (Eval.nodes env fuel list t') := by
  cases fuel with
  | zero => exact .failed
  | succ fuel =>
    refine Along.forM (fun node member t t' inside => ?_) inside
    rcases mem_turnIsPlain plain member with plain | ⟨target, e, rfl, plain, plain'⟩
    · have written := below fuel (Nat.lt_succ_self _) node plain t t' inside.alike
      exact (inside.follows written).mono (Nat.lt_irrefl 0) fun _ _ inside => inside
    · cases fuel with
      | zero => exact .failed
      | succ fuel =>
        exact (reads_expr inside.alike fuel e plain').along fun value => inside.assign fuel plain value

end FollowBelow

theorem followBelow (env : Environment) (a b : Seen) (fuel : Nat) : FollowBelow env a b fuel := by
  induction fuel with
  | zero => exact fun m less => absurd less (Nat.not_lt_zero m)
  | succ fuel below =>
    intro m less node plain s s' alike
    rcases Nat.lt_succ_iff_lt_or_eq.mp less with less | rfl
    · exact below m less node plain s s' alike
    cases m with
    | zero => exact .failed
    | succ fuel =>
      have below : FollowBelow env a b fuel := fun m less => below m (Nat.lt_succ_of_lt less)
      cases node with
      | data text => exact follows_write text
      | write e =>
        refine (reads_expr alike fuel e plain).along fun value => ?_
        show Follows 0 s s' (Eval.write (if s.escaping then value.displayEscaped else value.display) s)
          (Eval.write (if s'.escaping then value.displayEscaped else value.display) s')
        rw [alike.escaping]
        exact follows_write _
      | ifElse condition yes no =>
        obtain ⟨plain, no⟩ := Bool.and_eq_true_iff.mp plain
        obtain ⟨condition, yes⟩ := Bool.and_eq_true_iff.mp plain
        refine (reads_expr alike fuel _ condition).along fun value => ?_
        split
        · exact below.nodes yes alike
        · exact below.nodes no alike
      | loop target subject condition recursive body otherwise =>
        cases condition with
        | some condition => cases plain
        | none =>
          obtain ⟨plain, otherwise'⟩ := Bool.and_eq_true_iff.mp plain
          obtain ⟨plain, body'⟩ := Bool.and_eq_true_iff.mp plain
          obtain ⟨target', subject'⟩ := Bool.and_eq_true_iff.mp plain
          refine (reads_expr alike fuel _ subject').along fun value => ?_
          cases fuel with
          | zero => exact .failed
          | succ fuel =>
            have below : FollowBelow env a b fuel := fun m less => below m (Nat.lt_succ_of_lt less)
            -- How deep the loop lies is told by its frame, which plain parts do not ask.
            let loop (depth : Nat) : Loop :=
              ⟨⟨0, depth, 0, true⟩, .undefined, .undefined, none, recursive, target, body, otherwise⟩
            suffices each : ∀ depth depth', Follows 0 s s' (runLoop env (fuel + 1) (loop depth) value s)
              (runLoop env (fuel + 1) (loop depth') value s') from each _ _
            exact fun depth depth' => follows_runLoop alike (loop depth) (loop depth') rfl rfl rfl target'
              (fun t t' inside => below.turn body' inside) (below.nodes otherwise' alike) value
      | _ => cases plain

/-- Plain parts write the same in two states that agree but for the documentation. -/
theorem follows_nodes (env : Environment) (fuel : Nat) {list : List Node} (plain : nodesArePlain list = true)
    (alike : Alike a b [] s s') : Follows 0 s s' (nodes env fuel list s) (nodes env fuel list s') :=
  (followBelow env a b fuel).nodes plain alike

end DocSite.Template
