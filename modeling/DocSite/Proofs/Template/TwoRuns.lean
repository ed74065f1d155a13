/-
# DocSite.Proofs.Template.TwoRuns -- two runs side by side

Two steps that are run from two states either fail both, or leave two states that are related
(`Along`); where it is allowed, the first may also fail alone. Steps that only read give both runs the same
value or the same failure (`Reads`). Most steps of a template do nothing but write and ask for templates: then
the two runs go on in step, or the first gets ahead of the second by some characters (`Follows`). These notions
are kept by sequences and by passes over a list, so that what one step does to two states says what a whole run
does.
-/
import DocSite.Template.Render

set_option autoImplicit false

namespace DocSite.Template

open Eval

variable {α β γ : Type} {s s' : State}

/-- What a step leaves. -/
abbrev Left (α : Type) := EStateM.Result Failure State α

theorem Eval.bind_ok {x : Eval α} {f : α → Eval β} {a : α} {t : State} (done : x s = .ok a t) :
    (x >>= f) s = f a t := by
  show EStateM.bind x f s = _
  rw [EStateM.bind, done]

theorem Eval.bind_error {x : Eval α} {f : α → Eval β} {e : Failure} {t : State}
    (failed : x s = .error e t) : (x >>= f) s = .error e t := by
  show EStateM.bind x f s = _
  rw [EStateM.bind, failed]

theorem Eval.bind_congr {x y : Eval α} (f : α → Eval β) {s t : State} (same : x s = y t) :
    (x >>= f) s = (y >>= f) t := by
  show EStateM.bind x f s = EStateM.bind y f t
  rw [EStateM.bind, EStateM.bind, same]

/-! ## Steps that only read -/

/-- Whether two steps leave two states as they are and give the same value or the same failure. -/
def Reads (s s' : State) (x y : Eval α) : Prop :=
  ∃ result : Result α, x s = ofResult result s ∧ y s' = ofResult result s'

namespace Reads

theorem pure (a : α) : Reads s s' (pure a) (pure a) := ⟨.ok a, rfl, rfl⟩

theorem throw (e : Failure) : Reads (α := α) s s' (throw e) (throw e) := ⟨.error e, rfl, rfl⟩

theorem ofResult (result : Result α) : Reads s s' (ofResult result) (ofResult result) :=
  ⟨result, rfl, rfl⟩

theorem bind {x y : Eval α} {f g : α → Eval β} (first : Reads s s' x y)
    (next : ∀ a, Reads s s' (f a) (g a)) : Reads s s' (x >>= f) (y >>= g) := by
  obtain ⟨result, left, right⟩ := first
  cases result with
  | error e => exact ⟨.error e, bind_error left, bind_error right⟩
  | ok a =>
    obtain ⟨result, left', right'⟩ := next a
    exact ⟨result, (bind_ok left).trans left', (bind_ok right).trans right'⟩

theorem foldlM {f g : β → α → Eval β} {list : List α}
    (each : ∀ a ∈ list, ∀ b, Reads s s' (f b a) (g b a)) (b : β) :
    Reads s s' (list.foldlM f b) (list.foldlM g b) := by
  induction list generalizing b with
  | nil => exact .pure b
  | cons first rest ih =>
    rw [List.foldlM_cons, List.foldlM_cons]
    exact (each first (List.mem_cons_self ..) b).bind
      (ih fun a member => each a (List.mem_cons_of_mem _ member))

end Reads

/-! ## Steps that change the state -/

/-- Whether two runs leave related states, or fail both. If `alone`, the first may fail alone. -/
inductive Along (alone : Prop) (related : State → State → Prop) : Left Unit → Left Unit → Prop
  | done {t t' : State} (left : related t t') : Along alone related (.ok () t) (.ok () t')
  | failed {e e' : Failure} {t t' : State} : Along alone related (.error e t) (.error e' t')
  | led {e : Failure} {t : State} {r' : Left Unit} (allowed : alone) : Along alone related (.error e t) r'

variable {alone : Prop} {related next : State → State → Prop}

theorem Reads.along {x y : Eval α} {f g : α → Eval Unit} (first : Reads s s' x y)
    (then_ : ∀ a, Along alone related (f a s) (g a s')) :
    Along alone related ((x >>= f) s) ((y >>= g) s') := by
  obtain ⟨result, left, right⟩ := first
  cases result with
  | error e => rw [bind_error left, bind_error right]; exact .failed
  | ok a => rw [bind_ok left, bind_ok right]; exact then_ a

namespace Along

theorem mono {r r' : Left Unit} {alone' : Prop} (along : Along alone related r r')
    (allow : alone → alone') (weaker : ∀ t t', related t t' → next t t') : Along alone' next r r' := by
  cases along with
  | done left => exact .done (weaker _ _ left)
  | failed => exact .failed
  | led allowed => exact .led (allow allowed)

theorem bind {x y : Eval Unit} {f g : Unit → Eval Unit} (first : Along alone related (x s) (y s'))
    (later : ∀ t t', related t t' → Along alone next (f () t) (g () t')) :
    Along alone next ((x >>= f) s) ((y >>= g) s') := by
  generalize left : x s = r at first
  generalize right : y s' = r' at first
  cases first with
  | done both => rw [bind_ok left, bind_ok right]; exact later _ _ both
  | failed => rw [bind_error left, bind_error right]; exact .failed
  | led allowed => rw [bind_error left]; exact .led allowed

theorem forM {f g : α → Eval Unit} {list : List α}
    (each : ∀ a ∈ list, ∀ t t', related t t' → Along alone related (f a t) (g a t'))
    (start : related s s') : Along alone related (list.forM f s) (list.forM g s') := by
  induction list generalizing s s' with
  | nil => exact .done start
  | cons first rest ih =>
    show Along alone related ((f first >>= fun _ => rest.forM f) s)
      ((g first >>= fun _ => rest.forM g) s')
    exact (each first (List.mem_cons_self ..) s s' start).bind fun t t' =>
      ih fun a member => each a (List.mem_cons_of_mem _ member)

end Along

/-! ## Steps that write -/

/-- A state after more has been written and more templates have been asked for. -/
def State.after (s : State) (asked written : List Text) : State :=
  { s with asked := asked ++ s.asked, written := written ++ s.written }

namespace State

variable (s) (asked written : List Text)

@[simp] theorem after_frames : (s.after asked written).frames = s.frames := rfl

@[simp] theorem after_depth : (s.after asked written).depth = s.depth := rfl

@[simp] theorem after_heap : (s.after asked written).heap = s.heap := rfl

@[simp] theorem after_nothing : s.after [] [] = s := rfl

theorem after_after (asked' written' : List Text) :
    (s.after asked written).after asked' written' = s.after (asked' ++ asked) (written' ++ written) := by
  simp only [after, List.append_assoc]

end State

/-- Whether the first of two writings is at least `n` characters longer than the second; if `n` is zero, they
are the same. -/
structure Ahead (n : Nat) (written written' : List Text) : Prop where
  same : n = 0 → written = written'
  length : written'.flatten.length + n ≤ written.flatten.length

namespace Ahead

theorem refl (written : List Text) : Ahead 0 written written := ⟨fun _ => rfl, Nat.le_refl _⟩

theorem append {m n : Nat} {v v' w w' : List Text} (later : Ahead n w w') (first : Ahead m v v') :
    Ahead (m + n) (w ++ v) (w' ++ v') where
  same none := by
    obtain ⟨rfl, rfl⟩ := Nat.add_eq_zero_iff.mp none
    rw [first.same rfl, later.same rfl]
  length := by
    have := first.length
    have := later.length
    simp only [List.flatten_append, List.length_append]
    omega

/-- What the first writes alone gets it further ahead. -/
theorem lead {m : Nat} {v w w' : List Text} (ahead : Ahead m w w') (more : 1 ≤ v.flatten.length) :
    Ahead (m + 1) (v ++ w) w' where
  same none := absurd none (Nat.succ_ne_zero m)
  length := by
    have := ahead.length
    simp only [List.flatten_append, List.length_append]
    omega

theorem ne {n : Nat} {w w' : List Text} (ahead : Ahead n w w') (some : 0 < n) :
    w.flatten.length ≠ w'.flatten.length := by
  have := ahead.length
  omega

end Ahead

/-- Whether two runs, if they do not fail both, only write and ask for templates, and the first gets `n`
characters ahead. Unless `n` is zero, the first may fail alone. -/
def Follows (n : Nat) (s s' : State) : Left Unit → Left Unit → Prop :=
  Along (0 < n) fun t t' => ∃ asked asked' written written',
    t = s.after asked written ∧ t' = s'.after asked' written' ∧ Ahead n written written'

namespace Follows

variable {m n : Nat}

theorem stay : Follows 0 s s' (.ok () s) (.ok () s') := .done ⟨[], [], [], [], rfl, rfl, .refl _⟩

theorem bind {x y : Eval Unit} {f g : Unit → Eval Unit} (first : Follows m s s' (x s) (y s'))
    (later : ∀ asked asked' written written', Ahead m written written' →
      Follows n (s.after asked written) (s'.after asked' written') (f () (s.after asked written))
        (g () (s'.after asked' written'))) :
    Follows (m + n) s s' ((x >>= f) s) ((y >>= g) s') := by
  refine (first.mono (Nat.add_pos_left · n) fun _ _ both => both).bind ?_
  rintro _ _ ⟨asked, asked', written, written', rfl, rfl, ahead⟩
  refine (later asked asked' written written' ahead).mono (Nat.add_pos_right m) ?_
  rintro _ _ ⟨asked₁, asked₁', written₁, written₁', rfl, rfl, ahead₁⟩
  exact ⟨asked₁ ++ asked, asked₁' ++ asked', written₁ ++ written, written₁' ++ written',
    State.after_after .., State.after_after .., ahead₁.append ahead⟩

/-- A pass over a list whose steps keep two runs in step does so, too. What the steps ask of the states must not
depend on what is written. -/
theorem forM {f g : α → Eval Unit} {list : List α}
    (closed : ∀ t t' asked asked' written written', related t t' →
      related (t.after asked written) (t'.after asked' written'))
    (each : ∀ a ∈ list, ∀ t t', related t t' → Follows 0 t t' (f a t) (g a t'))
    (start : related s s') : Follows 0 s s' (list.forM f s) (list.forM g s') := by
  induction list generalizing s s' with
  | nil => exact .stay
  | cons first rest ih =>
    show Follows 0 s s' ((f first >>= fun _ => rest.forM f) s) ((g first >>= fun _ => rest.forM g) s')
    exact bind (m := 0) (n := 0) (each first (List.mem_cons_self ..) s s' start)
      fun asked asked' written written' _ =>
        ih (fun a member => each a (List.mem_cons_of_mem _ member))
          (closed _ _ asked asked' written written' start)

/-- A step that keeps a run in step with itself fails or only writes and asks for templates. -/
theorem self_cases {r : Left Unit} (follows : Follows 0 s s r r) :
    (∃ e t, r = .error e t) ∨ ∃ asked written, r = .ok () (s.after asked written) := by
  cases r with
  | error e t => exact .inl ⟨e, t, rfl⟩
  | ok _ t =>
    cases follows with
    | done left =>
      obtain ⟨asked, _, written, _, rfl, _, _⟩ := left
      exact .inr ⟨asked, written, rfl⟩

end Follows

end DocSite.Template
