/-
# DocSite.Proofs.Template.Plain -- parts of templates that do not look at the documentation of a page

An expression is plain if it is made of constants, names, fields, operators, filters, tests and calls of
helpers, and takes of the page anything but its documentation (`Expr.isPlain`). In two states that agree but for
the documentation of the page and its helpers' text (`Alike`), it has the same value (`reads_expr`).
-/
import DocSite.Proofs.Template.Frames
import DocSite.Proofs.Template.Named

set_option autoImplicit false

namespace DocSite.Template

open Eval

/-! ## Plain parts -/

/-- The name of the page in layouts. -/
def pageName : Text := "page".toList

/-- The name of the documentation of a page. -/
def docsName : Text := "docs".toList

/-- The name of the helpers in layouts. -/
def helpersName : Text := "helpers".toList

/-- The names that plain parts neither look up as a whole nor give values. -/
def special : List Text := [pageName, helpersName, "loop".toList]

/-- Whether an expression is a name. -/
def Expr.isVar (name : Text) : Expr → Bool
  | .var other => other == name
  | _ => false

mutual
/-- Whether an expression takes of the page anything but its documentation. -/
def Expr.isPlain : Expr → Bool
  | .const _ => true
  | .var name => !special.contains name
  | .field of name => of.isPlain || of.isVar pageName && name != docsName
  | .binary _ left right => left.isPlain && right.isPlain
  | .choose condition yes (some no) => condition.isPlain && yes.isPlain && no.isPlain
  | .filter of _ args => of.isPlain && argumentsArePlain args
  | .test of _ args => of.isPlain && argumentsArePlain args
  | .call (.field of _) args => of.isVar helpersName && argumentsArePlain args
  | _ => false

/-- Whether arguments are plain values in a row. -/
def argumentsArePlain : List Argument → Bool
  | [] => true
  | .value e :: args => e.isPlain && argumentsArePlain args
  | _ => false
end

/-- Whether a target is a name, and none of the special ones. -/
def Target.isName : Target → Bool
  | .name text => !special.contains text
  | _ => false

/-- Whether a target is a name or a row of names. -/
def Target.isPlain : Target → Bool
  | .name text => !special.contains text
  | .list targets => targets.all (·.isName)
  | _ => false

mutual
/-- Whether a part of a template writes what follows from plain expressions, and does nothing else. -/
def Node.isPlain : Node → Bool
  | .data _ => true
  | .write e => e.isPlain
  | .ifElse condition yes no => condition.isPlain && nodesArePlain yes && nodesArePlain no
  | .loop target subject none _ body otherwise =>
    target.isPlain && subject.isPlain && turnIsPlain body && nodesArePlain otherwise
  | _ => false

/-- Whether parts of a template are plain. -/
def nodesArePlain : List Node → Bool
  | [] => true
  | node :: nodes => node.isPlain && nodesArePlain nodes

/-- Whether the parts of a turn of a loop are plain. They may also set names, until the turn ends. -/
def turnIsPlain : List Node → Bool
  | [] => true
  | .set target e :: nodes => target.isPlain && e.isPlain && turnIsPlain nodes
  | node :: nodes => node.isPlain && turnIsPlain nodes
end

/-! ## States that agree but for the documentation -/

/-- What a page is seen as: its fields, with the documentation among them, and the text of its helpers. -/
structure Seen where
  page : List (Value × Value)
  docs : List (Value × Value)
  helpers : Text
  hasDocs : Value.lookupKey? (.plain docsName) page = some (.map docs)

/-- Whether two pages have the same fields but for the documentation. -/
def Seen.Agree (a b : Seen) : Prop :=
  ∀ name ≠ docsName, Value.lookupKey? (.plain name) a.page = Value.lookupKey? (.plain name) b.page

/-- Whether a page is the one that a state is about. -/
structure Seen.In (a : Seen) (s : State) : Prop where
  page : s.found pageName = some (.map a.page)
  helpers : s.found helpersName = some (.helpers a.helpers)

/-- Whether two states are about two pages and agree apart from that, some hidden names left out. -/
structure Alike (a b : Seen) (hidden : List Text) (s s' : State) : Prop where
  left : a.In s
  right : b.In s'
  agree : a.Agree b
  found : ∀ name ∉ special, name ∉ hidden → s.found name = s'.found name
  height : s.frames.length = s'.frames.length
  heap : s.heap = s'.heap
  depth : s.depth = s'.depth
  escaping : s.escaping = s'.escaping

section

variable {env : Environment} {a b : Seen} {hidden : List Text} {s s' t t' : State}

theorem Alike.self (alike : Alike a b hidden s s') : Alike a a [] s s where
  left := alike.left
  right := alike.left
  agree := fun _ _ => rfl
  found := fun _ _ _ => rfl
  height := rfl
  heap := rfl
  depth := rfl
  escaping := rfl

theorem special_ne {name : Text} (plain : name ∉ special) :
    name ≠ pageName ∧ name ≠ helpersName ∧ name ≠ "loop".toList := by
  simpa [special] using plain

theorem Seen.In.like (inside : a.In s) (like : s.Like t) : a.In t where
  page := (like.found _ (by decide)).trans inside.page
  helpers := (like.found _ (by decide)).trans inside.helpers

theorem Alike.like (alike : Alike a b hidden s s') (left : s.Like t) (right : s'.Like t')
    (height : t.frames.length = t'.frames.length) : Alike a b hidden t t' where
  left := alike.left.like left
  right := alike.right.like right
  agree := alike.agree
  found := fun name plain visible => by
    obtain ⟨-, -, loop⟩ := special_ne plain
    rw [left.found name loop, right.found name loop, alike.found name plain visible]
  height := height
  heap := by rw [left.heap, right.heap, alike.heap]
  depth := by rw [left.depth, right.depth, alike.depth]
  escaping := by rw [left.escaping, right.escaping, alike.escaping]

theorem Alike.after (alike : Alike a b hidden s s') (asked asked' written written' : List Text) :
    Alike a b hidden (s.after asked written) (s'.after asked' written') :=
  alike.like (s.like_after ..) (s'.like_after ..) alike.height

/-! ### Names that are given values -/

section Bound

variable {frame frame' : Frame} {asked asked' written written' : List Text}

theorem Seen.In.bound (inside : a.In (s.atop frame asked written)) {name : Text} (plain : name ∉ special)
    (value : Value) : a.In (s.atop (frame.bound name value) asked written) where
  page := by
    rw [found_bound, if_neg (Ne.symm (special_ne plain).1)]
    exact inside.page
  helpers := by
    rw [found_bound, if_neg (Ne.symm (special_ne plain).2.1)]
    exact inside.helpers

/-- A name that is given the same value in two states is no longer hidden. -/
theorem Alike.bound
    (alike : Alike a b hidden (s.atop frame asked written) (s'.atop frame' asked' written'))
    {name : Text} (plain : name ∉ special) (value : Value) {hidden' : List Text}
    (known : ∀ other ∉ hidden', other ≠ name → other ∉ hidden) :
    Alike a b hidden' (s.atop (frame.bound name value) asked written)
      (s'.atop (frame'.bound name value) asked' written') where
  left := alike.left.bound plain value
  right := alike.right.bound plain value
  agree := alike.agree
  found := fun other other' visible => by
    rw [found_bound, found_bound]
    split
    · rfl
    next differ => exact alike.found other other' (known other visible differ)
  height := alike.height
  heap := alike.heap
  depth := alike.depth
  escaping := alike.escaping

end Bound

/-! ## Plain expressions -/

theorem reads_lookup (alike : Alike a b [] s s') {name : Text} (plain : name ∉ special) :
    Reads s s' (lookup? name) (lookup? name) := by
  have same := alike.found name plain List.not_mem_nil
  refine ⟨.ok _, lookup_eq name s, ?_⟩
  rw [lookup_eq, same, alike.heap]
  rfl

theorem expr_page (inside : a.In s) (fuel : Nat) :
    expr env (fuel + 1) (.var pageName) s = .ok (.map a.page) s := by
  simp only [expr]
  rw [bind_ok (lookup_eq pageName s), inside.page]
  rfl

theorem Expr.eq_var {name : Text} {e : Expr} (var : e.isVar name = true) : e = .var name := by
  cases e with
  | var other => rw [eq_of_beq var]
  | _ => cases var

theorem reads_part (heap : s.heap = s'.heap) (value key : Value) :
    Reads s s' (part env value key) (part env value key) := by
  cases value with
  | undefined => exact .throw _
  | helpers _ => exact .pure _
  | _ => exact ⟨.ok _, rfl, by rw [heap]; rfl⟩

theorem expr_pageField (inside : a.In s) (fuel : Nat) (name : Text) :
    expr env (fuel + 2) (.field (.var pageName) name) s =
      .ok (refreshed s.heap ((Value.lookupKey? (.plain name) a.page).getD .undefined)) s := by
  rw [expr, bind_ok (expr_page inside fuel)]
  rfl

/-- A field of the page other than the documentation. -/
theorem reads_pageField (alike : Alike a b [] s s') {name : Text} (other : name ≠ docsName)
    (fuel : Nat) :
    Reads s s' (expr env fuel (.field (.var pageName) name)) (expr env fuel (.field (.var pageName) name)) := by
  match fuel with
  | 0 => exact .throw _
  | 1 => exact (Reads.throw _).bind fun value => reads_part alike.heap value _
  | fuel + 2 =>
    refine ⟨.ok _, expr_pageField alike.left fuel name, ?_⟩
    rw [expr_pageField alike.right, alike.heap, alike.agree name other]
    rfl

theorem exists_value {args : List Argument} (plain : argumentsArePlain args = true) {arg : Argument}
    (member : arg ∈ args) : ∃ e : Expr, arg = .value e ∧ e.isPlain = true := by
  induction args with
  | nil => cases member
  | cons first rest ih =>
    cases first with
    | value e =>
      obtain ⟨here, later⟩ := Bool.and_eq_true_iff.mp plain
      rcases List.mem_cons.mp member with rfl | inside
      · exact ⟨e, rfl, here⟩
      · exact ih later inside
    | _ => cases plain

theorem reads_arguments {fuel : Nat} {args : List Argument} (plain : argumentsArePlain args = true)
    (each : ∀ e : Expr, e.isPlain = true → Reads s s' (expr env fuel e) (expr env fuel e)) :
    Reads s s' (arguments env (fuel + 1) args) (arguments env (fuel + 1) args) := by
  rw [arguments]
  refine Reads.foldlM (fun arg member found => ?_) _
  obtain ⟨e, rfl, plain⟩ := exists_value plain member
  exact (each e plain).bind fun value => .pure _

theorem expr_helper (inside : a.In s) (fuel : Nat) (method : Text) (args : List Argument) :
    expr env (fuel + 1) (.call (.field (.var helpersName) method) args) s =
      (arguments env fuel args >>= callMethod env fuel (.helpers a.helpers) method) s := by
  have other : helpersName ≠ "self".toList := by decide
  rw [expr, if_neg other, bind_ok (lookup_eq helpersName s), inside.helpers]
  rfl

/-- A call of a helper gives the same in both states, whatever the helpers are written as. -/
theorem reads_helper (alike : Alike a b [] s s') {fuel : Nat} {method : Text} {args : List Argument}
    (given : Reads s s' (arguments env fuel args) (arguments env fuel args)) :
    Reads s s' (expr env (fuel + 1) (.call (.field (.var helpersName) method) args))
      (expr env (fuel + 1) (.call (.field (.var helpersName) method) args)) := by
  have called (found : Arguments) : Reads s s' (callMethod env fuel (.helpers a.helpers) method found)
      (callMethod env fuel (.helpers b.helpers) method found) := by
    cases fuel with
    | zero => exact .throw _
    | succ fuel => exact .ofResult _
  obtain ⟨result, left, right⟩ := given.bind called
  exact ⟨result, (expr_helper alike.left ..).trans left, (expr_helper alike.right ..).trans right⟩

/-- Plain expressions have the same values in two states that agree but for the documentation. -/
theorem reads_expr (alike : Alike a b [] s s') (fuel : Nat) (e : Expr) (plain : e.isPlain = true) :
    Reads s s' (expr env fuel e) (expr env fuel e) := by
  induction fuel using Nat.strongRecOn generalizing e with
  | _ fuel ih =>
    cases fuel with
    | zero => exact .throw _
    | succ fuel =>
      have below := fun e plain => ih fuel (Nat.lt_succ_self _) e plain
      have given {args : List Argument} (plain : argumentsArePlain args = true) :
          Reads s s' (arguments env fuel args) (arguments env fuel args) := by
        cases fuel with
        | zero => exact .throw _
        | succ fuel => exact reads_arguments plain fun e plain => ih fuel (by omega) e plain
      cases e with
      | const value => exact .pure _
      | var name =>
        exact (reads_lookup alike (by simpa [Expr.isPlain] using plain)).bind fun value => .pure _
      | field of name =>
        rcases Bool.or_eq_true_iff.mp plain with plain | page
        · exact (below of plain).bind fun value => reads_part alike.heap value _
        · obtain ⟨page, other⟩ := Bool.and_eq_true_iff.mp page
          obtain rfl := Expr.eq_var page
          exact reads_pageField alike (by simpa using other) _
      | binary operator left right =>
        obtain ⟨left, right⟩ := Bool.and_eq_true_iff.mp plain
        refine (below _ left).bind fun value => ?_
        cases operator with
        | and =>
          dsimp only
          split
          · exact below _ right
          · exact .pure _
        | or =>
          dsimp only
          split
          · exact .pure _
          · exact below _ right
        | _ => exact (below _ right).bind fun value => .ofResult _
      | choose condition yes no =>
        cases no with
        | none => cases plain
        | some no =>
          obtain ⟨plain, no⟩ := Bool.and_eq_true_iff.mp plain
          obtain ⟨condition, yes⟩ := Bool.and_eq_true_iff.mp plain
          refine (below _ condition).bind fun value => ?_
          split
          · exact below _ yes
          · exact below _ no
      | filter of name args =>
        obtain ⟨of, args⟩ := Bool.and_eq_true_iff.mp plain
        exact (below _ of).bind fun value => (given args).bind fun found => .ofResult _
      | test of name args =>
        obtain ⟨of, args⟩ := Bool.and_eq_true_iff.mp plain
        exact (below _ of).bind fun value => (given args).bind fun found =>
          (Reads.ofResult _).bind fun _ => .pure _
      | call of args =>
        cases of with
        | field of method =>
          obtain ⟨helpers, args⟩ := Bool.and_eq_true_iff.mp plain
          obtain rfl := Expr.eq_var helpers
          exact reads_helper alike (given args)
        | _ => cases plain
      | _ => cases plain

end

end DocSite.Template
