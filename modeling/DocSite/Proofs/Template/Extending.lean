/-
# DocSite.Proofs.Template.Extending -- layouts that extend others

A layout that fills a block of another one is run as the other one with these contents in its block
(`runTemplate_extending`), and what is around the block, included templates among it, may be plain. If the
contents are plain but for one loop with a guard, two runs that agree but for the documentation of the page
differ by what the loop writes for mappings (`follows_layout`): not at all where none is left out, and
otherwise by at least a character, unless one of the runs fails (`render_apart`).
-/
import DocSite.Proofs.Template.Guarded
import Mathlib.Data.List.TakeWhile

set_option autoImplicit false

namespace DocSite.Template

open Eval

/-! ## Shapes of layouts -/

/-- Whether the contents of a block are plain but for one loop with a guard. -/
def contentIsGuarded (body : List Node) : Bool :=
  match body.dropWhile Node.isPlain with
  | node :: after => node.isGuarded && nodesArePlain after
  | [] => false

/-- Whether a part is plain or includes a template of a name. -/
def Node.isAround (included : Text) : Node → Bool
  | .includes (.const (.text name false)) false => name == included
  | node => node.isPlain

/-- Whether a layout is made of one block and what is around it. -/
def Document.surrounds (included block : Text) (layout : Document) : Bool :=
  match layout.nodes.dropWhile (Node.isAround included) with
  | .block name :: after => name == block && after.all (Node.isAround included)
  | _ => false

/-- Whether a part is text or a block, which is not rendered where it stands in a layout that extends another. -/
def Node.isInert : Node → Bool
  | .data _ => true
  | .block _ => true
  | _ => false

/-- Whether a layout does nothing but extend another one and fill a block of it with contents that are plain but
for one loop with a guard. -/
def Document.fills (extended block : Text) (layout : Document) : Bool :=
  (match layout.nodes with
    | .inherit (.const (.text name false)) :: after => name == extended && after.all Node.isInert
    | _ => false) && (layout.blocks.lookup block).any contentIsGuarded

section

variable {env : Environment} {a b : Seen} {n : Nat} {s s' t t' : State}

/-! ## Contents of blocks -/

theorem nodes_append (env : Environment) (fuel : Nat) (list list' : List Node) (s : State) :
    nodes env (fuel + 1) (list ++ list') s =
      (nodes env (fuel + 1) list >>= fun _ => nodes env (fuel + 1) list') s := by
  show (list ++ list').forM (node env fuel) s =
    (list.forM (node env fuel) >>= fun _ => list'.forM (node env fuel)) s
  rw [List.forM_eq_forM, List.forM_append]

theorem nodes_cons (env : Environment) (fuel : Nat) (first : Node) (rest : List Node) (s : State) :
    nodes env (fuel + 1) (first :: rest) s = (node env fuel first >>= fun _ => nodes env (fuel + 1) rest) s :=
  rfl

theorem nodesArePlain_of_all {list : List Node} (plain : ∀ node ∈ list, node.isPlain = true) :
    nodesArePlain list = true := by
  induction list with
  | nil => rfl
  | cons first rest ih =>
    exact Bool.and_eq_true_iff.mpr ⟨plain first (List.mem_cons_self ..),
      ih fun node member => plain node (List.mem_cons_of_mem _ member)⟩

theorem exists_of_contentIsGuarded {body : List Node} (guarded : contentIsGuarded body = true) :
    ∃ before node after, body = before ++ node :: after ∧ nodesArePlain before = true ∧
      node.isGuarded = true ∧ nodesArePlain after = true := by
  unfold contentIsGuarded at guarded
  split at guarded
  next node after rest =>
    obtain ⟨guarded, plain⟩ := Bool.and_eq_true_iff.mp guarded
    refine ⟨body.takeWhile Node.isPlain, node, after, ?_, ?_, guarded, plain⟩
    · rw [← rest, List.takeWhile_append_dropWhile]
    · exact nodesArePlain_of_all fun node member => List.mem_takeWhile_imp member
  · cases guarded

/-- Contents with a guarded loop get ahead as the loop does. -/
theorem follows_content (env : Environment) {body : List Node} (guarded : contentIsGuarded body = true)
    (alike : Alike a b [] s s') (thinned : Thinned n a.docs b.docs)
    (room : s.depth + s.frames.length ≤ maxDepth) (fuel : Nat) :
    Follows n s s' (nodes env (fuel + 7) body s) (nodes env (fuel + 7) body s') := by
  obtain ⟨before, node, after, rfl, plain, loop, plain'⟩ := exists_of_contentIsGuarded guarded
  obtain ⟨adapter, kinds, lead, body, rfl, made⟩ := eq_guardedLoop loop
  rw [nodes_append, nodes_append]
  have whole := (follows_nodes env (fuel + 7) plain alike).bind (n := n)
    (f := fun _ => nodes env (fuel + 7) (guardedLoop adapter kinds lead body :: after))
    (g := fun _ => nodes env (fuel + 7) (guardedLoop adapter kinds lead body :: after)) ?_
  · rwa [Nat.zero_add] at whole
  intro asked asked' written written' _
  have alike := alike.after asked asked' written written'
  rw [nodes_cons, nodes_cons]
  exact (follows_guarded made alike thinned room fuel).bind (n := 0) fun asked asked' written written' _ =>
    follows_nodes env (fuel + 7) plain' (alike.after asked asked' written written')

/-! ## Templates within templates -/

/-- A step that starts from changed states, if what it leaves is changed back. -/
theorem Follows.framed {x y leave leave' : Eval Unit} (inner : Follows n t t' (x t) (y t'))
    (back : ∀ asked written, leave (t.after asked written) = .ok () (s.after asked written))
    (back' : ∀ asked written, leave' (t'.after asked written) = .ok () (s'.after asked written)) :
    Follows n s s' ((x >>= fun _ => leave) t) ((y >>= fun _ => leave') t') := by
  refine Along.bind inner ?_
  rintro _ _ ⟨asked, asked', written, written', rfl, rfl, ahead⟩
  rw [back, back']
  exact .done ⟨_, _, _, _, rfl, rfl, ahead⟩

/-- What is left to do after the nodes of a template: those of the one it extends, if there is one. -/
def goOn (env : Environment) (fuel : Nat) (outside : Option (List Node × List Text)) : Eval Unit := do
  match (← get).parent with
  | none => pure ()
  | some (parentNodes, before) =>
    modify fun s => { s with written := before }
    runTemplate env fuel parentNodes
  modify fun s => { s with parent := outside }

theorem runTemplate_eq (env : Environment) (fuel : Nat) (list : List Node) (s : State) :
    runTemplate env (fuel + 1) list s =
      (nodes env fuel list >>= fun _ => goOn env fuel s.parent) { s with parent := none } := by
  rw [runTemplate]
  rfl

/-- A template that extends no other one follows as its nodes do. -/
theorem follows_runTemplate {fuel : Nat} {list : List Node}
    (inner : Follows n { s with parent := none } { s' with parent := none }
      (nodes env fuel list { s with parent := none }) (nodes env fuel list { s' with parent := none })) :
    Follows n s s' (runTemplate env (fuel + 1) list s) (runTemplate env (fuel + 1) list s') := by
  rw [runTemplate_eq, runTemplate_eq]
  exact inner.framed (fun _ _ => rfl) fun _ _ => rfl

/-- Two states agree whatever templates they extend and whatever their blocks are. -/
theorem Alike.beside (alike : Alike a b [] s s') (parent parent' : Option (List Node × List Text))
    (current current' : Option (Text × Nat)) :
    Alike a b [] { s with parent := parent, current := current }
      { s' with parent := parent', current := current' } :=
  alike.like ⟨fun _ _ => rfl, rfl, rfl, rfl⟩ ⟨fun _ _ => rfl, rfl, rfl, rfl⟩ alike.height

/-! ### Included templates -/

/-- A state within a template that is included. -/
def State.entered (s : State) (name : Text) (template : Document) : State :=
  { s with
    frames := s.frames.modifyHead fun frame => { frame with shared := none }
    depth := s.depth + includeCost
    escaping := escapesValues name
    blocks := blockChains template }

theorem found_entered (s : State) (name : Text) (template : Document) (other : Text) :
    (s.entered name template).found other = s.found other := by
  unfold State.found State.entered
  cases s.frames <;> rfl

theorem height_entered (s : State) (name : Text) (template : Document) :
    (s.entered name template).frames.length = s.frames.length := by
  unfold State.entered
  cases s.frames <;> rfl

theorem Alike.entered (alike : Alike a b [] s s') (name : Text) (template : Document) :
    Alike a b [] (s.entered name template) (s'.entered name template) where
  left := ⟨(found_entered ..).trans alike.left.page, (found_entered ..).trans alike.left.helpers⟩
  right := ⟨(found_entered ..).trans alike.right.page, (found_entered ..).trans alike.right.helpers⟩
  agree := alike.agree
  found := fun other plain visible => by
    rw [found_entered, found_entered, alike.found other plain visible]
  height := by rw [height_entered, height_entered, alike.height]
  heap := alike.heap
  depth := congrArg (· + includeCost) alike.depth
  escaping := rfl

theorem checkDepth_eq (s : State) :
    checkDepth s =
      if maxDepth < s.depth + s.frames.length then .error .invalidOperation s else .ok () s := by
  show (if maxDepth < s.depth + s.frames.length then (throw .invalidOperation : Eval Unit) else pure ()) s = _
  split <;> rfl

/-- What is done after a template that is included. -/
def leaveIncluded (outside : State) : Eval Unit := do
  modify fun s => { s with depth := s.depth - includeCost }
  changeFrame fun frame => { frame with shared := outside.frames.head?.bind (·.shared) }
  modify fun s => { s with
    escaping := outside.escaping
    blocks := outside.blocks
    inherited := outside.inherited }

theorem leave_entered (s : State) (name : Text) (template : Document) (asked written : List Text) :
    leaveIncluded s ((s.entered name template).after asked written) = .ok () (s.after asked written) := by
  obtain ⟨frames, depth⟩ := s
  cases frames with
  | nil => rfl
  | cons frame rest => rfl

theorem runIncluded_eq (env : Environment) (fuel : Nat) (name : Text) (template : Document) (s : State) :
    runIncluded env (fuel + 1) name template s =
      (checkDepth >>= fun _ => runTemplate env fuel template.nodes >>= fun _ => leaveIncluded s)
        (s.entered name template) := by
  obtain ⟨frames⟩ := s
  rw [runIncluded]
  simp only [deeper, bind_assoc]
  cases frames <;> rfl

/-- A plain template that is included writes the same in two states that agree but for the documentation. -/
theorem follows_runIncluded (env : Environment) (alike : Alike a b [] s s') {template : Document}
    (plain : nodesArePlain template.nodes = true) (fuel : Nat) (name : Text) :
    Follows 0 s s' (runIncluded env (fuel + 2) name template s) (runIncluded env (fuel + 2) name template s') := by
  have inside := alike.entered name template
  rw [runIncluded_eq, runIncluded_eq]
  by_cases deep : maxDepth < (s.entered name template).depth + (s.entered name template).frames.length
  · have deep' := deep
    rw [inside.depth, inside.height] at deep'
    rw [bind_error ((checkDepth_eq _).trans (if_pos deep)), bind_error ((checkDepth_eq _).trans (if_pos deep'))]
    exact .failed
  · have room' := deep
    rw [inside.depth, inside.height] at room'
    rw [bind_ok ((checkDepth_eq _).trans (if_neg deep)), bind_ok ((checkDepth_eq _).trans (if_neg room'))]
    exact (follows_runTemplate (follows_nodes env fuel plain (inside.beside ..))).framed
      (leave_entered s name template) (leave_entered s' name template)

theorem node_includes {included : Text} {template : Document} (found : env.find included = .template template)
    (fuel : Nat) (s : State) :
    node env (fuel + 4) (.includes (.const (.text included false)) false) s =
      runIncluded env (fuel + 1) included template (s.after [included] []) := by
  have looked : findTemplate env included s = .ok (.template template) (s.after [included] []) := by
    rw [← found]
    rfl
  show includeFirst env (fuel + 3) (.text included false) false s = _
  rw [includeFirst]
  show includeFirst env (fuel + 2) (.list [.text included false]) false s = _
  rw [includeFirst]
  exact bind_ok looked

theorem follows_includes (alike : Alike a b [] s s') {included : Text} {template : Document}
    (found : env.find included = .template template) (plain : nodesArePlain template.nodes = true) (fuel : Nat) :
    Follows 0 s s' (node env (fuel + 5) (.includes (.const (.text included false)) false) s)
      (node env (fuel + 5) (.includes (.const (.text included false)) false) s') := by
  rw [node_includes found, node_includes found]
  have inner := follows_runIncluded env (alike.after [included] [included] [] []) plain fuel included
  refine inner.mono id ?_
  rintro _ _ ⟨asked, asked', written, written', rfl, rfl, ahead⟩
  refine ⟨asked ++ [included], asked' ++ [included], written, written', ?_, ?_, ahead⟩
  · rw [State.after_after, List.append_nil]
  · rw [State.after_after, List.append_nil]

/-- Parts around a block write the same. -/
theorem follows_around {included : Text} {template : Document} (found : env.find included = .template template)
    (plain : nodesArePlain template.nodes = true) {list : List Node}
    (around : ∀ node ∈ list, node.isAround included = true) (alike : Alike a b [] s s') (fuel : Nat) :
    Follows 0 s s' (nodes env (fuel + 6) list s) (nodes env (fuel + 6) list s') := by
  have closed (t t' : State) (asked asked' written written' : List Text) (alike : Alike a b [] t t') :
      Alike a b [] (t.after asked written) (t'.after asked' written') :=
    alike.after asked asked' written written'
  refine Follows.forM closed (fun node member t t' alike => ?_) alike
  have shape := around node member
  unfold Node.isAround at shape
  split at shape
  · obtain rfl := eq_of_beq shape
    exact follows_includes alike found plain fuel
  · exact followBelow env a b (fuel + 6) _ (Nat.lt_succ_self _) node shape t t' alike

/-! ### Blocks -/

theorem node_block {name : Text} {body : List Node} {outer : List (List Node)} (own : s.parent = none)
    (filled : s.blocks.lookup name = some (body :: outer)) (fuel : Nat) :
    node env (fuel + 3) (.block name) s =
      (within bareFrame (runTemplate env fuel body) >>= fun _ => modify fun t => { t with current := s.current })
        { s with current := some (name, 0) } := by
  have first : node env (fuel + 3) (.block name) s = runBlock env (fuel + 2) name s := by
    rw [node]
    show (if s.parent.isNone then runBlock env (fuel + 2) name else pure ()) s = _
    rw [own]
    rfl
  have second : runBlock env (fuel + 2) name s = blockBody env (fuel + 1) (name, 0) body s := by
    have started : (get : Eval State) s = .ok s s := rfl
    rw [runBlock, bind_ok started, filled]
  rw [first, second, blockBody]
  rfl

/-- A block with a guarded loop gets ahead as the loop does. -/
theorem follows_block {name : Text} {body : List Node} {outer outer' : List (List Node)}
    (guarded : contentIsGuarded body = true) (alike : Alike a b [] s s') (thinned : Thinned n a.docs b.docs)
    (own : s.parent = none) (own' : s'.parent = none) (filled : s.blocks.lookup name = some (body :: outer))
    (filled' : s'.blocks.lookup name = some (body :: outer')) (room : s.depth + s.frames.length < maxDepth)
    (fuel : Nat) :
    Follows n s s' (node env (fuel + 11) (.block name) s) (node env (fuel + 11) (.block name) s') := by
  have fresh : bareFrame.Fresh := ⟨rfl, rfl, rfl, rfl⟩
  rw [node_block own filled, node_block own' filled']
  refine Follows.framed ?_ (fun _ _ => rfl) fun _ _ => rfl
  refine follows_within [] (alike.beside s.parent s'.parent _ _) fresh fresh fun start => ?_
  have run := start.follows (follows_runTemplate
    (follows_content env guarded (start.alike.beside none none _ _) thinned room fuel))
  rwa [Nat.zero_add] at run

/-- A layout that surrounds a block gets ahead as the block does. -/
theorem follows_surrounding {layout template : Document} {included block : Text} {body : List Node}
    {outer outer' : List (List Node)} (surrounds : layout.surrounds included block = true)
    (found : env.find included = .template template) (plain : nodesArePlain template.nodes = true)
    (guarded : contentIsGuarded body = true) (alike : Alike a b [] s s') (thinned : Thinned n a.docs b.docs)
    (filled : s.blocks.lookup block = some (body :: outer))
    (filled' : s'.blocks.lookup block = some (body :: outer')) (room : s.depth + s.frames.length < maxDepth)
    (fuel : Nat) :
    Follows n s s' (runTemplate env (fuel + 13) layout.nodes s) (runTemplate env (fuel + 13) layout.nodes s') := by
  obtain ⟨before, after, shape, around, around'⟩ : ∃ before after,
      layout.nodes = before ++ .block block :: after ∧
      (∀ node ∈ before, node.isAround included = true) ∧ ∀ node ∈ after, node.isAround included = true := by
    unfold Document.surrounds at surrounds
    split at surrounds
    next name after rest =>
      obtain ⟨same, around⟩ := Bool.and_eq_true_iff.mp surrounds
      obtain rfl := eq_of_beq same
      refine ⟨layout.nodes.takeWhile (Node.isAround included), after, ?_, ?_, List.all_eq_true.mp around⟩
      · rw [← rest, List.takeWhile_append_dropWhile]
      · exact fun node member => List.mem_takeWhile_imp member
    · cases surrounds
  have alike := alike.beside none none s.current s'.current
  refine follows_runTemplate ?_
  rw [shape, nodes_append, nodes_append]
  have whole := (follows_around found plain around alike (fuel + 6)).bind (n := n)
    (f := fun _ => nodes env (fuel + 12) (.block block :: after))
    (g := fun _ => nodes env (fuel + 12) (.block block :: after)) ?_
  · rwa [Nat.zero_add] at whole
  intro asked asked' written written' _
  have alike := alike.after asked asked' written written'
  rw [nodes_cons, nodes_cons]
  exact (follows_block guarded alike thinned rfl rfl filled filled' room fuel).bind (n := 0)
    fun asked asked' written written' _ =>
      follows_around found plain around' (alike.after asked asked' written written') (fuel + 6)

/-! ## Layouts that extend others -/

/-- A state within a template that a template extends. -/
def State.extending (s : State) (name : Text) (layout : Document) : State :=
  { s with
    asked := name :: s.asked
    inherited := name :: s.inherited
    blocks := inheritBlocks layout s.blocks
    parent := some (layout.nodes, s.written) }

theorem node_inherit {extended : Text} {layout : Document} (own : s.parent = none)
    (new : s.inherited.contains extended = false) (found : env.find extended = .template layout) (fuel : Nat) :
    node env (fuel + 2) (.inherit (.const (.text extended false))) s = .ok () (s.extending extended layout) := by
  have check : (s.parent.isSome || s.inherited.contains extended) = false := by rw [own, new]; rfl
  rw [node]
  show (if s.parent.isSome || s.inherited.contains extended then throw .invalidOperation
    else findTemplate env extended >>= _ : Eval Unit) s = _
  rw [check, if_neg Bool.false_ne_true]
  have looked : findTemplate env extended s = .ok (.template layout) (s.after [extended] []) := by
    rw [← found]
    rfl
  rw [bind_ok looked]
  rfl

/-- Inert parts of a template that extends another one only write. -/
theorem nodes_inert (env : Environment) {list : List Node} (inert : list.all Node.isInert = true)
    (below : s.parent.isSome = true) (fuel : Nat) :
    ∃ written, nodes env (fuel + 2) list s = .ok () (s.after [] written) := by
  induction list generalizing s with
  | nil => exact ⟨[], rfl⟩
  | cons first rest ih =>
    obtain ⟨here, later⟩ := Bool.and_eq_true_iff.mp inert
    obtain ⟨written, done⟩ : ∃ written, node env (fuel + 1) first s = .ok () (s.after [] written) := by
      cases first with
      | data text => cases text with
        | nil => exact ⟨[], rfl⟩
        | cons c text => exact ⟨[c :: text], rfl⟩
      | block name =>
        refine ⟨[], ?_⟩
        rw [node]
        show (if s.parent.isNone then runBlock env fuel name else pure ()) s = _
        rw [if_neg (by simpa [Option.isSome_iff_ne_none] using below)]
        rfl
      | _ => cases here
    obtain ⟨written', done'⟩ := ih (s := s.after [] written) later below
    exact ⟨written' ++ written, by rw [nodes_cons, bind_ok done, done', State.after_after]; rfl⟩

theorem lookup_map_snoc (name other : Text) (body : List Node) (chains : List (Text × List (List Node))) :
    (chains.map fun (n, bodies) => if n = other then (n, bodies ++ [body]) else (n, bodies)).lookup name =
      (chains.lookup name).map fun bodies => if name = other then bodies ++ [body] else bodies := by
  induction chains with
  | nil => rfl
  | cons chain chains ih =>
    obtain ⟨first, bodies⟩ := chain
    rw [List.map_cons]
    by_cases same : name = first
    · subst same
      by_cases here : name = other <;> simp [here]
    · rw [Association.lookup_cons_of_ne _ _ same, ← ih]
      dsimp only
      split <;> rw [Association.lookup_cons_of_ne _ _ same]

/-- What a template gives a block stays the innermost contents. -/
theorem head_inheritBlocks (layout : Document) {block : Text} {body : List Node}
    {chains : List (Text × List (List Node))} {outer : List (List Node)}
    (filled : chains.lookup block = some (body :: outer)) :
    ∃ outer', (inheritBlocks layout chains).lookup block = some (body :: outer') := by
  unfold inheritBlocks
  induction layout.blocks generalizing chains outer with
  | nil => exact ⟨outer, filled⟩
  | cons first rest ih =>
    rw [List.foldl_cons]
    dsimp only
    split
    · have grown : (chains.map fun (n, bodies) =>
          if n = first.1 then (n, bodies ++ [first.2]) else (n, bodies)).lookup block =
            some (body :: if block = first.1 then outer ++ [first.2] else outer) := by
        rw [lookup_map_snoc, filled, Option.map_some]
        split <;> rfl
      exact ih grown
    · exact ih (by rw [List.lookup_append, filled]; rfl)

theorem lookup_blockChains (layout : Document) (block : Text) :
    (blockChains layout).lookup block = (layout.blocks.lookup block).map fun body => [body] :=
  Association.lookup_map_value (fun _ body => [body]) layout.blocks block

/-- The layouts that a layout depends on: the one it extends, and the one that is included there. -/
structure Fits (env : Environment) (extended included block : Text) (layout : Document) : Prop where
  fills : layout.fills extended block = true
  extended : ∃ base, env.find extended = .template base ∧ base.surrounds included block = true
  included : ∃ template, env.find included = .template template ∧ nodesArePlain template.nodes = true

/-- What is written by a layout that extends another one is what the other one writes. -/
theorem runTemplate_extending {layout base : Document} {extended : Text} {after : List Node}
    (shape : layout.nodes = .inherit (.const (.text extended false)) :: after)
    (inert : after.all Node.isInert = true) (based : env.find extended = .template base)
    (new : s.inherited.contains extended = false) (fuel : Nat) :
    runTemplate env (fuel + 4) layout.nodes s =
      (runTemplate env (fuel + 3) base.nodes >>= fun _ => modify fun t => { t with parent := s.parent })
        ({ s with parent := none }.extending extended base) := by
  have first := node_inherit (s := { s with parent := none }) rfl new based fuel
  obtain ⟨written, rest⟩ := nodes_inert env
    (s := { s with parent := none }.extending extended base) inert rfl (fuel + 1)
  have all : nodes env (fuel + 3) layout.nodes { s with parent := none } =
      .ok () (({ s with parent := none }.extending extended base).after [] written) := by
    rw [shape, nodes_cons, bind_ok first, rest]
  rw [runTemplate_eq, bind_ok all]
  rfl

/-- A layout that fills a block with a guarded loop gets ahead as the loop does. -/
theorem follows_layout {layout : Document} {extended included block : Text}
    (fits : Fits env extended included block layout) (alike : Alike a b [] s s')
    (thinned : Thinned n a.docs b.docs) (new : s.inherited.contains extended = false)
    (new' : s'.inherited.contains extended = false)
    (blocks : s.blocks = blockChains layout) (blocks' : s'.blocks = blockChains layout)
    (room : s.depth + s.frames.length < maxDepth) (fuel : Nat) :
    Along (0 < n) (fun t t' => ∃ written written', t.written = written ++ s.written ∧
        t'.written = written' ++ s'.written ∧ Ahead n written written')
      (runTemplate env (fuel + 14) layout.nodes s) (runTemplate env (fuel + 14) layout.nodes s') := by
  obtain ⟨fills, ⟨base, based, surrounds⟩, ⟨template, found, plain⟩⟩ := fits
  obtain ⟨after, shape, inert, body, given, guarded⟩ : ∃ after,
      layout.nodes = .inherit (.const (.text extended false)) :: after ∧ after.all Node.isInert = true ∧
      ∃ body, layout.blocks.lookup block = some body ∧ contentIsGuarded body = true := by
    unfold Document.fills at fills
    obtain ⟨first, given⟩ := Bool.and_eq_true_iff.mp fills
    split at first
    next name after rest =>
      obtain ⟨same, inert⟩ := Bool.and_eq_true_iff.mp first
      obtain rfl := eq_of_beq same
      obtain ⟨body, given, guarded⟩ := (Option.any_eq_true _ _).mp given
      exact ⟨after, rest, inert, body, given, guarded⟩
    · cases first
  have alike : Alike a b [] ({ s with parent := none }.extending extended base)
      ({ s' with parent := none }.extending extended base) :=
    alike.like ⟨fun _ _ => rfl, rfl, rfl, rfl⟩ ⟨fun _ _ => rfl, rfl, rfl, rfl⟩ alike.height
  have alone : (blockChains layout).lookup block = some [body] := by
    rw [lookup_blockChains, given]
    rfl
  obtain ⟨outer, filled⟩ := head_inheritBlocks base alone
  have run := follows_surrounding surrounds found plain guarded alike thinned (blocks ▸ filled)
    (blocks' ▸ filled) room fuel
  rw [runTemplate_extending shape inert based new, runTemplate_extending shape inert based new']
  refine Along.bind run ?_
  rintro _ _ ⟨asked, asked', written, written', rfl, rfl, ahead⟩
  exact .done ⟨written, written', rfl, rfl, ahead⟩

/-! ## Rendering -/

/-- Whether a context shows a page and its helpers. -/
structure Seen.Shown (a : Seen) (context : Value) : Prop where
  page : context.part? (.plain pageName) = some (.map a.page)
  helpers : context.part? (.plain helpersName) = some (.helpers a.helpers)

/-- The state that rendering starts from. -/
def startState (name : Text) (layout : Document) (context : Value) : State where
  frames := [{ bareFrame with context := context }]
  depth := 0
  heap := []
  macros := []
  escaping := escapesValues name
  blocks := blockChains layout
  current := none
  parent := none
  inherited := [name]
  asked := []
  written := []

theorem render_of_ok {name : Text} {layout : Document} {context : Value}
    (done : runTemplate env fuel layout.nodes (startState name layout context) = .ok () t) :
    (render env name layout context).text = .ok t.written.reverse.flatten := by
  have ran : (runTemplate env fuel layout.nodes).run (startState name layout context) = .ok () t := done
  unfold startState at ran
  simp only [render, ran]

theorem render_of_error {name : Text} {layout : Document} {context : Value} {e : Failure}
    (failed : runTemplate env fuel layout.nodes (startState name layout context) = .error e t) :
    (render env name layout context).text = .error e := by
  have ran : (runTemplate env fuel layout.nodes).run (startState name layout context) = .error e t := failed
  unfold startState at ran
  simp only [render, ran]

theorem found_start (name : Text) (layout : Document) (context : Value) (other : Text) :
    (startState name layout context).found other = context.part? (.plain other) := by
  show List.findSome? (findIn [] other) [{ bareFrame with context := context }] = _
  have loop : (if other = "loop".toList then (none : Option Loop) else none) = none := ite_self _
  simp only [List.findSome?, findIn, bareFrame, List.lookup_nil, loop, Option.bind_none]
  cases context.part? (.plain other) <;> rfl

theorem alike_start {context context' : Value} (shown : a.Shown context) (shown' : b.Shown context')
    (agree : a.Agree b)
    (others : ∀ name ∉ special, context.part? (.plain name) = context'.part? (.plain name))
    (name : Text) (layout : Document) :
    Alike a b [] (startState name layout context) (startState name layout context') where
  left := ⟨(found_start ..).trans shown.page, (found_start ..).trans shown.helpers⟩
  right := ⟨(found_start ..).trans shown'.page, (found_start ..).trans shown'.helpers⟩
  agree := agree
  found := fun other plain _ => by rw [found_start, found_start, others other plain]
  height := rfl
  heap := rfl
  depth := rfl
  escaping := rfl

/-- How two texts differ, of which the first has `n` mappings more, if they are there at all: they are the same
if `n` is zero, and different ones otherwise. Where the second is missing, the first is, too. -/
structure Apart (n : Nat) (text text' : Option Text) : Prop where
  same : n = 0 → text = text'
  missing : text' = none → text = none
  different : 0 < n → text = text' → text' = none

/-- A page with some of its documentation left out. -/
theorem render_apart {layout : Document} {extended included block name : Text} {context context' : Value}
    (fits : Fits env extended included block layout) (other : extended ≠ name) (shown : a.Shown context)
    (shown' : b.Shown context') (agree : a.Agree b)
    (others : ∀ name ∉ special, context.part? (.plain name) = context'.part? (.plain name))
    (thinned : Thinned n a.docs b.docs) :
    Apart n (render env name layout context).text.toOption (render env name layout context').text.toOption := by
  have new : [name].contains extended = false := by simpa using other
  have alike := alike_start shown shown' agree others name layout
  have room : (startState name layout context).depth + (startState name layout context).frames.length <
    maxDepth := Nat.lt_of_sub_pos (by decide : 0 < maxDepth - 1)
  have run := follows_layout fits alike thinned new new rfl rfl room (fuel - 14)
  generalize left : runTemplate env _ layout.nodes (startState name layout context) = r at run
  generalize right : runTemplate env _ layout.nodes (startState name layout context') = r' at run
  cases run with
  | done related =>
    obtain ⟨written, written', same, same', ahead⟩ := related
    rw [render_of_ok left, render_of_ok right, same, same']
    refine ⟨fun none => by rw [ahead.same none]; rfl, nofun, fun some texts => ?_⟩
    have lengths : (written ++ []).reverse.flatten.length = (written' ++ []).reverse.flatten.length :=
      congrArg List.length (Option.some.inj texts)
    have size (list : List Text) : list.reverse.flatten.length = list.flatten.length := by
      simp [List.length_flatten, List.sum_reverse]
    rw [List.append_nil, List.append_nil, size, size] at lengths
    exact absurd lengths (ahead.ne some)
  | failed =>
    rw [render_of_error left, render_of_error right]
    exact ⟨fun _ => rfl, fun _ => rfl, fun _ _ => rfl⟩
  | led allowed =>
    rw [render_of_error left]
    exact ⟨fun none => absurd allowed (by omega), fun _ => rfl, fun _ texts => texts.symm⟩

end

end DocSite.Template
