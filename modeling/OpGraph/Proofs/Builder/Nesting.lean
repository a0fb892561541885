import OpGraph.Builder.Call
import OpGraph.Proofs.Builder.Session

/-!
# Nested scopes

Scopes are isolated. In a row of actions that leaves all the scopes it enters, whatever fails, the
open scopes gain the nodes created in the row, and only the innermost of them the inputs and
outputs told outside of the blocks of the row (`run_nested`). So a scope that is about to be left
holds what was done in its own block and nothing else (`scopes_of_run`).

Proof strategy: what an action does to the scopes is a `gather`, and gatherings compose. A block
pushes an empty scope, gathers into it and the outer ones, and pops it again, which leaves the
gathering of its nodes.
-/
namespace OpGraph

namespace Scope

def addNodes (ids : List Nat) (scope : Scope) : Scope :=
  { scope with nodes := scope.nodes ++ ids }

end Scope

namespace ScopeStack

variable {scopes : ScopeStack}

/-- Nodes are created in all open scopes, inputs and outputs are told to the innermost one. -/
def gather (scopes : ScopeStack) (nodes inputs outputs : List Nat) : ScopeStack :=
  modifyInnermost { scopes with opened := scopes.opened.map (Scope.addNodes nodes) } fun scope =>
    (scope.addInputs inputs).addOutputs outputs

theorem gather_of_opened {scope : Scope} {outer : List Scope} (opened : scopes.opened = scope :: outer)
    (nodes inputs outputs : List Nat) :
    scopes.gather nodes inputs outputs =
      ⟨⟨scope.name, scope.nodes ++ nodes, scope.inputs ++ inputs, scope.outputs ++ outputs⟩ ::
        outer.map (Scope.addNodes nodes), scopes.root⟩ := by
  rw [gather, opened]
  rfl

theorem gather_of_none (opened : scopes.opened = []) (nodes inputs outputs : List Nat) :
    scopes.gather nodes inputs outputs =
      ⟨[], (scopes.root.addInputs inputs).addOutputs outputs⟩ := by
  rw [gather, opened]
  rfl

@[simp] theorem gather_nothing : scopes.gather [] [] [] = scopes := by
  have same : Scope.addNodes [] = id := by
    funext scope
    simp [Scope.addNodes]
  obtain ⟨opened, root⟩ := scopes
  cases opened <;> simp [gather, modifyInnermost, Scope.addInputs, Scope.addOutputs, same]

theorem gather_nodes (nodes : List Nat) :
    scopes.gather nodes [] [] = ⟨scopes.opened.map (Scope.addNodes nodes), scopes.root⟩ := by
  obtain ⟨opened, root⟩ := scopes
  cases opened <;> simp [gather, modifyInnermost, Scope.addInputs, Scope.addOutputs]

theorem gather_gather (nodes inputs outputs nodes' inputs' outputs' : List Nat) :
    (scopes.gather nodes inputs outputs).gather nodes' inputs' outputs' =
      scopes.gather (nodes ++ nodes') (inputs ++ inputs') (outputs ++ outputs') := by
  have composed : Scope.addNodes nodes' ∘ Scope.addNodes nodes = Scope.addNodes (nodes ++ nodes') := by
    funext scope
    simp [Scope.addNodes]
  obtain ⟨opened, root⟩ := scopes
  cases opened <;>
    simp [gather, modifyInnermost, Scope.addInputs, Scope.addOutputs, Scope.addNodes, composed]

@[simp] theorem length_gather (nodes inputs outputs : List Nat) :
    (scopes.gather nodes inputs outputs).opened.length = scopes.opened.length := by
  obtain ⟨opened, root⟩ := scopes
  cases opened <;> simp [gather, modifyInnermost]

theorem addNode_eq_gather (id : Nat) : scopes.addNode id = scopes.gather [id] [] [] := by
  have same : Scope.addNode id = Scope.addNodes [id] := rfl
  obtain ⟨opened, root⟩ := scopes
  cases opened <;>
    simp [addNode, gather, modifyInnermost, Scope.addInputs, Scope.addOutputs, same]

@[simp] theorem nodes_root_gather (nodes inputs outputs : List Nat) :
    (scopes.gather nodes inputs outputs).root.nodes = scopes.root.nodes := by
  obtain ⟨opened, root⟩ := scopes
  cases opened <;> rfl

theorem mem_gather {nodes inputs outputs : List Nat} {scope : Scope}
    (among : scope ∈ (scopes.gather nodes inputs outputs).opened) :
    ∃ before ∈ scopes.opened, scope.nodes = before.nodes ++ nodes := by
  cases opened : scopes.opened with
  | nil =>
    rw [gather_of_none opened] at among
    cases among
  | cons first outer =>
    rw [gather_of_opened opened] at among
    rcases List.mem_cons.mp among with rfl | later
    · exact ⟨first, List.mem_cons_self, rfl⟩
    · obtain ⟨before, member, rfl⟩ := List.mem_map.mp later
      exact ⟨before, List.mem_cons_of_mem _ member, rfl⟩

/-- The nodes that a gathering adds come after those of every scope alike. -/
theorem suffixes_gather (suffixes : scopes.opened.Pairwise fun inner outer => inner.nodes <:+ outer.nodes)
    (nodes inputs outputs : List Nat) :
    (scopes.gather nodes inputs outputs).opened.Pairwise fun inner outer =>
      inner.nodes <:+ outer.nodes := by
  have extended {inner outer : List Nat} (suffix : inner <:+ outer) :
      inner ++ nodes <:+ outer ++ nodes := by
    obtain ⟨before, rfl⟩ := suffix
    exact ⟨before, by simp⟩
  cases opened : scopes.opened with
  | nil =>
    rw [gather_of_none opened]
    exact .nil
  | cons scope outer =>
    rw [opened, List.pairwise_cons] at suffixes
    rw [gather_of_opened opened, List.pairwise_cons, List.pairwise_map]
    refine ⟨fun other among => ?_, suffixes.2.imp extended⟩
    obtain ⟨before, member, rfl⟩ := List.mem_map.mp among
    exact extended (suffixes.1 before member)

end ScopeStack

/-! ### Rows of actions -/

namespace Action

/-- Whether an action enters or leaves a scope. -/
def isScoping : Action → Bool
  | .enter _ _ | .exit _ _ => true
  | _ => false

def inputs : Action → List Nat
  | .addInputs ids => ids
  | _ => []

def outputs : Action → List Nat
  | .addOutputs ids => ids
  | _ => []

end Action

/-- A row of actions that leaves every scope it enters, and no other. The numbers count the
builders before and after it; any builder there is may leave a scope. -/
inductive IsNested : Nat → List Action → Nat → Prop
  | done (made : Nat) : IsNested made [] made
  | act {made later : Nat} {action : Action} {actions : List Action}
    (plain : action.isScoping = false) (rest : IsNested made actions later) :
    IsNested made (action :: actions) later
  | block {made within later builder : Nat} {body actions : List Action} (name : Option String)
    (infers failed : Bool) (inside : IsNested (made + 1) body within) (known : builder < within)
    (rest : IsNested within actions later) :
    IsNested made (.enter name infers :: (body ++ .exit builder failed :: actions)) later

namespace Workspace

variable {ws : Workspace}

/-! ### Single actions -/

/-- Leaving takes the innermost scope away and nothing else, whether or not it fails afterwards. -/
theorem scopes_exit {scope : Scope} {outer : List Scope} (opened : ws.scopes.opened = scope :: outer)
    (builder : Nat) (failed : Bool) :
    (ws.exit builder failed).1.scopes = ⟨outer, ws.scopes.root⟩ := by
  have popped : ws.scopes.pop? = some (scope, ⟨outer, ws.scopes.root⟩) := by
    rw [ScopeStack.pop?, opened]
  rw [exit_of_pop popped]
  split
  · rfl
  · rw [finish]
    split
    · rfl
    · dsimp only
      split <;> rfl

theorem builders_exit (builder : Nat) (failed : Bool) :
    (ws.exit builder failed).1.builders.size = ws.builders.size := by
  cases popped : ws.scopes.pop? with
  | none => rw [exit, popped]
  | some parts =>
    rw [exit_of_pop popped]
    split
    · rfl
    · rw [finish]
      split
      · rfl
      · dsimp only
        split <;> exact Array.size_modify

/-- A node that is created enters the scopes; the store keeps what was tried. -/
theorem create_eq (operator : Operator) (producers : List Nat) (name : Option String) :
    ws.create operator producers name =
      match ws.store.create operator producers name with
      | (store, .ok id) => ({ ws with store := store, scopes := ws.scopes.addNode id }, .ok id)
      | (store, .error failure) => ({ ws with store := store }, .error failure) := by
  unfold create createUnscoped
  rcases ws.store.create operator producers name with ⟨store, _ | _⟩ <;> rfl

private theorem scopes_create (operator : Operator) (producers : List Nat) (name : Option String) :
    (ws.create operator producers name).1.builders = ws.builders ∧
      (ws.create operator producers name).1.scopes =
        match (ws.create operator producers name).2 with
        | .ok id => ws.scopes.addNode id
        | .error _ => ws.scopes := by
  rw [create_eq]
  rcases ws.store.create operator producers name with ⟨store, _ | _⟩ <;> exact ⟨rfl, rfl⟩

/-- A call that fails, at the operator or at the node, leaves the scopes as they are. -/
theorem scopes_call (call : NodeCall) (name : Option String) :
    (ws.call call name).1.scopes =
      match (ws.call call name).2 with
      | .ok id => ws.scopes.addNode id
      | .error _ => ws.scopes := by
  unfold Workspace.call
  cases call.operator with
  | ok operator => exact (scopes_create operator call.producers name).2
  | error failure => rfl

private theorem scopes_inferNode (id : Nat) :
    (ws.inferNode id).1.scopes = ws.scopes ∧ (ws.inferNode id).1.builders = ws.builders :=
  ⟨rfl, rfl⟩

private theorem scopes_load [DescriptionReader] (text : String) :
    (ws.load text).1.scopes = ws.scopes ∧ (ws.load text).1.builders = ws.builders := by
  unfold load
  split <;> exact ⟨rfl, rfl⟩

private theorem scopes_changeGraph (id : Nat) (change : Store → Graph → Except Failure Graph) :
    (ws.changeGraph id change).1.scopes = ws.scopes ∧
      (ws.changeGraph id change).1.builders = ws.builders := by
  unfold changeGraph
  split <;> exact ⟨rfl, rfl⟩

/-! ### Rows of actions -/

variable [DescriptionReader] [Host] (ws)

/-- The node that an action creates in the open scopes, unless it fails. -/
def createdBy : Action → List Nat
  | .create true operator producers name =>
    match (ws.create operator producers name).2 with
    | .ok id => [id]
    | .error _ => []
  | _ => []

/-- What is read off the actions of a row, those that are passed over left out. -/
def collect (read : Workspace → Action → List Nat) (ws : Workspace) : List Action → List Nat
  | [] => []
  | action :: actions =>
    if ws.allows action then read ws action ++ collect read (ws.perform action).1 actions
    else collect read ws actions

/-- The nodes that a row of actions creates in scopes, in the order of their creation. -/
def created (actions : List Action) : List Nat :=
  collect createdBy ws actions

/-- What the actions of a row name while so many scopes are open. -/
def told (named : Action → List Nat) (level : Nat) (actions : List Action) : List Nat :=
  collect (fun ws action => if ws.scopes.opened.length = level then named action else []) ws actions

variable {ws}

theorem run_cons {action : Action} (allowed : ws.allows action = true) (actions : List Action) :
    ws.run (action :: actions) = (ws.perform action).1.run actions := by
  rw [run, if_pos allowed]

theorem run_append (actions later : List Action) :
    ws.run (actions ++ later) = (ws.run actions).run later := by
  induction actions generalizing ws with
  | nil => rfl
  | cons action actions ih =>
    rw [List.cons_append, run, run]
    split <;> exact ih

section Collect

variable {read : Workspace → Action → List Nat}

theorem collect_cons {action : Action} (allowed : ws.allows action = true) (actions : List Action) :
    collect read ws (action :: actions) =
      read ws action ++ collect read (ws.perform action).1 actions := by
  rw [collect, if_pos allowed]

theorem collect_append (actions later : List Action) :
    collect read ws (actions ++ later) =
      collect read ws actions ++ collect read (ws.run actions) later := by
  induction actions generalizing ws with
  | nil => rfl
  | cons action actions ih =>
    rw [List.cons_append, collect, collect, run]
    split
    · rw [ih, List.append_assoc]
    · exact ih

end Collect

/-- What an action does to the scopes unless it enters or leaves one. -/
theorem scopes_perform {action : Action} (plain : action.isScoping = false) :
    (ws.perform action).1.scopes =
        ws.scopes.gather (ws.createdBy action) action.inputs action.outputs ∧
      (ws.perform action).1.builders = ws.builders := by
  have unchanged {after : Workspace} (same : after.scopes = ws.scopes ∧ after.builders = ws.builders) :
      after.scopes = ws.scopes.gather [] [] [] ∧ after.builders = ws.builders := by
    rwa [ScopeStack.gather_nothing]
  cases action with
  | create inScope operator producers name =>
    cases inScope with
    | false => exact unchanged ⟨rfl, rfl⟩
    | true =>
      refine ⟨?_, (scopes_create operator producers name).1⟩
      simp only [perform, createdBy, Action.inputs, Action.outputs, if_true]
      rw [(scopes_create operator producers name).2]
      cases (ws.create operator producers name).2 with
      | ok id => exact ScopeStack.addNode_eq_gather id
      | error failure => exact ScopeStack.gather_nothing.symm
  | addInputs ids | addOutputs ids =>
    refine ⟨?_, rfl⟩
    -- Only the innermost scope gets them, which is the root when none is open.
    cases opened : ws.scopes.opened with
    | nil =>
      rw [ScopeStack.gather_of_none opened]
      simp [perform, addInputs, addOutputs, ScopeStack.modifyInnermost, opened, Action.inputs,
        Action.outputs, Scope.addInputs, Scope.addOutputs]
    | cons scope outer =>
      have none : Scope.addNodes [] = id := by
        funext scope
        simp [Scope.addNodes]
      rw [ScopeStack.gather_of_opened opened]
      simp [perform, addInputs, addOutputs, ScopeStack.modifyInnermost, opened, createdBy,
        Action.inputs, Action.outputs, Scope.addInputs, Scope.addOutputs, none]
  | enter name infers => cases plain
  | exit builder failed => cases plain
  | inferNode id => exact unchanged (scopes_inferNode id)
  | load text => exact unchanged (scopes_load text)
  | addNodes graph ids => exact unchanged (scopes_changeGraph graph _)
  | setInputs graph ids => exact unchanged (scopes_changeGraph graph _)
  | setOutputs graph ids => exact unchanged (scopes_changeGraph graph _)
  | register definition =>
    refine unchanged ?_
    rw [perform]
    split <;> exact ⟨rfl, rfl⟩
  | translateNode id dialect => exact unchanged ⟨rfl, rfl⟩
  | evaluateNode id operands => exact unchanged ⟨rfl, rfl⟩
  | newGraph name => exact unchanged ⟨rfl, rfl⟩
  | inferGraph graph => exact unchanged ⟨rfl, rfl⟩
  | translateGraph graph dialect => exact unchanged ⟨rfl, rfl⟩
  | evaluateGraph graph arrays => exact unchanged ⟨rfl, rfl⟩
  | loadLibrary => exact unchanged ⟨rfl, rfl⟩
  | clearRegistry => exact unchanged ⟨rfl, rfl⟩

/-! ### Nested rows -/

/-- What a nested row does: it gathers into the scopes that are open, and it tells nothing to any
but the innermost of them. -/
structure Gathers (ws : Workspace) (actions : List Action) (made : Nat) : Prop where
  builders : (ws.run actions).builders.size = made
  scopes : (ws.run actions).scopes =
    ws.scopes.gather (ws.created actions)
      (ws.told Action.inputs ws.scopes.opened.length actions)
      (ws.told Action.outputs ws.scopes.opened.length actions)
  outer : ∀ (named : Action → List Nat) (level : Nat), level < ws.scopes.opened.length →
    ws.told named level actions = []

namespace Gathers

variable {actions body : List Action} {made within : Nat}

theorem passedOver {action : Action} (refused : ws.allows action = false)
    (rest : ws.Gathers actions made) : ws.Gathers (action :: actions) made := by
  have skipped : ¬ws.allows action = true := by simp [refused]
  have same : ws.run (action :: actions) = ws.run actions := by rw [run, if_neg skipped]
  have unread (read : Workspace → Action → List Nat) :
      collect read ws (action :: actions) = collect read ws actions := by
    rw [collect, if_neg skipped]
  refine ⟨?_, ?_, fun named level below => (unread _).trans (rest.outer named level below)⟩
  · rw [same, rest.builders]
  · simp only [same, rest.scopes, created, told, unread]

theorem act {action : Action} (plain : action.isScoping = false) (allowed : ws.allows action = true)
    (rest : (ws.perform action).1.Gathers actions made) : ws.Gathers (action :: actions) made := by
  have step : (ws.perform action).1.scopes = ws.scopes.gather _ _ _ := (scopes_perform plain).1
  have level : (ws.perform action).1.scopes.opened.length = ws.scopes.opened.length := by
    rw [step, ScopeStack.length_gather]
  refine ⟨?_, ?_, fun named lower below => ?_⟩
  · rw [run_cons allowed, rest.builders]
  · rw [run_cons allowed, rest.scopes, level, step, ScopeStack.gather_gather]
    simp only [created, told, collect_cons allowed, if_true]
  · rw [told, collect_cons allowed, if_neg (Nat.ne_of_gt below), List.nil_append]
    exact rest.outer named lower (by rwa [level])

/-- At the end of a block its scope holds what was gathered in it. -/
theorem opened {name : Option String} {infers : Bool}
    (inside : (ws.enter name infers).1.Gathers body within) :
    ((ws.enter name infers).1.run body).scopes =
      ⟨⟨name, (ws.enter name infers).1.created body,
          (ws.enter name infers).1.told Action.inputs (ws.scopes.opened.length + 1) body,
          (ws.enter name infers).1.told Action.outputs (ws.scopes.opened.length + 1) body⟩ ::
        ws.scopes.opened.map (Scope.addNodes ((ws.enter name infers).1.created body)),
        ws.scopes.root⟩ := by
  have pushed : (ws.enter name infers).1.scopes.opened = .empty name :: ws.scopes.opened := rfl
  rw [inside.scopes, ScopeStack.gather_of_opened pushed]
  rfl

theorem block {name : Option String} {infers failed : Bool} {builder : Nat}
    (inside : (ws.enter name infers).1.Gathers body within) (known : builder < within)
    (rest : (((ws.enter name infers).1.run body).exit builder failed).1.Gathers actions made) :
    ws.Gathers (.enter name infers :: (body ++ .exit builder failed :: actions)) made := by
  have leaves : ((ws.enter name infers).1.run body).allows (.exit builder failed) = true := by
    rw [allows, inside.builders]
    exact decide_eq_true known
  have left : (((ws.enter name infers).1.run body).exit builder failed).1.scopes =
      ws.scopes.gather ((ws.enter name infers).1.created body) [] [] := by
    rw [scopes_exit (congrArg ScopeStack.opened inside.opened), inside.opened,
      ScopeStack.gather_nodes]
  have level := congrArg (fun scopes => scopes.opened.length) left
  simp only [ScopeStack.length_gather] at level
  have row : ws.run (.enter name infers :: (body ++ .exit builder failed :: actions)) =
      (((ws.enter name infers).1.run body).exit builder failed).1.run actions := by
    rw [run_cons rfl, run_append]
    exact run_cons leaves actions
  have read (read : Workspace → Action → List Nat) :
      collect read ws (.enter name infers :: (body ++ .exit builder failed :: actions)) =
        read ws (.enter name infers) ++ (collect read (ws.enter name infers).1 body ++
          (read ((ws.enter name infers).1.run body) (.exit builder failed) ++
            collect read (((ws.enter name infers).1.run body).exit builder failed).1 actions)) := by
    rw [collect_cons rfl, collect_append]
    exact congrArg (fun rest => _ ++ (_ ++ rest)) (collect_cons leaves actions)
  -- Within the block nothing is told to the scopes outside of it.
  have told_row (named : Action → List Nat) (lower : Nat) (below : lower ≤ ws.scopes.opened.length)
      (silent : lower < ws.scopes.opened.length ∨ named (.enter name infers) = []) :
      ws.told named lower (.enter name infers :: (body ++ .exit builder failed :: actions)) =
        (((ws.enter name infers).1.run body).exit builder failed).1.told named lower actions := by
    have deeper : ¬((ws.enter name infers).1.run body).scopes.opened.length = lower := by
      rw [inside.opened, List.length_cons, List.length_map]
      omega
    have nothing : (if ws.scopes.opened.length = lower then named (.enter name infers) else []) = [] := by
      split
      · exact silent.resolve_left (by omega)
      · rfl
    have within := inside.outer named lower (Nat.lt_succ_of_le below)
    rw [told] at within
    rw [told, read, nothing, within, if_neg deeper]
    rfl
  refine ⟨?_, ?_, fun named lower below => ?_⟩
  · rw [row, rest.builders]
  · rw [row, rest.scopes, level, left, ScopeStack.gather_gather, told_row _ _ le_rfl (.inr rfl),
      told_row _ _ le_rfl (.inr rfl), created, created, created, read]
    rfl
  · rw [told_row named lower (Nat.le_of_lt below) (.inl below)]
    exact rest.outer named lower (by rwa [level])

end Gathers

/-- A nested row gathers, from whatever workspace it starts. -/
theorem run_nested {made later : Nat} {actions : List Action} (nested : IsNested made actions later)
    (ws : Workspace) (counted : ws.builders.size = made) : ws.Gathers actions later := by
  -- For every workspace at once: a block starts where its scope has been entered, and what follows
  -- it where that scope has been left.
  induction nested generalizing ws with
  | done made =>
    subst counted
    exact ⟨rfl, ScopeStack.gather_nothing.symm, fun _ _ _ => rfl⟩
  | @act made later action actions plain _ ih =>
    cases allowed : ws.allows action with
    | false => exact (ih ws counted).passedOver allowed
    | true =>
      refine (ih _ ?_).act plain allowed
      rw [(scopes_perform plain).2, counted]
  | @block made within later builder body actions name infers failed _ known _ inner outer =>
    have inside := inner (ws.enter name infers).1 (by rw [← counted]; exact Array.size_push _)
    refine inside.block known (outer _ ?_)
    rw [builders_exit, inside.builders]

/-! ### Sessions -/

/-- What holds of the scopes at every point of a session. -/
structure IsStacked (ws : Workspace) : Prop where
  root : ws.scopes.root.nodes = []
  suffixes : ws.scopes.opened.Pairwise fun inner outer => inner.nodes <:+ outer.nodes
  ordered : ∀ scope ∈ ws.scopes.opened, scope.nodes.Pairwise (· < ·)
  known : ∀ id ∈ ws.scopes.members, ws.hasNode id = true

omit [DescriptionReader] [Host] in
theorem isStacked_initial : initial.IsStacked where
  root := rfl
  suffixes := .nil
  ordered _ among := by cases among
  known _ member := by cases member

omit [DescriptionReader] [Host] in
/-- A node that is created gets the next number. -/
theorem createdBy_eq (action : Action) :
    ws.createdBy action = [] ∨ ws.createdBy action = [ws.store.slots.size] := by
  unfold createdBy
  split
  next operator producers name =>
    rw [create_eq]
    cases stored : ws.store.create operator producers name with
    | mk store outcome =>
      cases outcome with
      | ok id => exact .inr (by rw [(Store.create_eq_ok stored).2.1])
      | error failure => exact .inl rfl
  · exact .inl rfl

namespace IsStacked

variable (stacked : ws.IsStacked)

include stacked

omit [DescriptionReader] [Host] in
theorem enter (name : Option String) (infers : Bool) : (ws.enter name infers).1.IsStacked where
  root := stacked.root
  suffixes := List.pairwise_cons.mpr ⟨fun _ _ => List.nil_suffix, stacked.suffixes⟩
  ordered scope among := by
    rcases List.mem_cons.mp among with rfl | outer
    · exact .nil
    · exact stacked.ordered scope outer
  known := stacked.known

omit [DescriptionReader] [Host] in
theorem exit (builder : Nat) (failed : Bool) : (ws.exit builder failed).1.IsStacked := by
  have becomes := ws.becomes_exit builder failed
  have known : ∀ id ∈ (ws.exit builder failed).1.scopes.members,
      (ws.exit builder failed).1.hasNode id = true := by
    intro id member
    rcases becomes.members id member with earlier | found
    · exact (becomes.evolves.keeps.becomes (stacked.known id earlier)).1
    · exact found
  cases opened : ws.scopes.opened with
  | nil =>
    have none : ws.scopes.pop? = none := by rw [ScopeStack.pop?, opened]
    have same : (ws.exit builder failed).1 = ws := by rw [Workspace.exit, none]
    rwa [same]
  | cons scope outer =>
    have left := scopes_exit opened builder failed
    have suffixes := stacked.suffixes
    rw [opened] at suffixes
    refine ⟨?_, ?_, ?_, known⟩
    · rw [left]
      exact stacked.root
    · rw [left]
      exact (List.pairwise_cons.mp suffixes).2
    · rw [left]
      intro other among
      exact stacked.ordered other (by rw [opened]; exact List.mem_cons_of_mem _ among)

theorem act {action : Action} (plain : action.isScoping = false) (allowed : ws.allows action = true) :
    (ws.perform action).1.IsStacked := by
  have step : (ws.perform action).1.scopes = ws.scopes.gather _ _ _ := (scopes_perform plain).1
  have becomes := ws.becomes_perform action allowed
  refine ⟨?_, ?_, ?_, ?_⟩
  · rw [step, ScopeStack.nodes_root_gather, stacked.root]
  · rw [step]
    exact ScopeStack.suffixes_gather stacked.suffixes _ _ _
  · rw [step]
    intro scope among
    obtain ⟨before, member, nodes⟩ := ScopeStack.mem_gather among
    have ordered := stacked.ordered before member
    rw [nodes]
    rcases ws.createdBy_eq action with none | fresh
    · rwa [none, List.append_nil]
    · -- All nodes of the scope are in the store, so the next number is above them.
      rw [fresh, List.pairwise_append]
      refine ⟨ordered, List.pairwise_singleton _ _, fun id own other new => ?_⟩
      obtain ⟨node, found⟩ := Option.isSome_iff_exists.mp
        (stacked.known id (ScopeStack.mem_members.mpr ⟨before, member, own⟩))
      rw [List.mem_singleton.mp new]
      exact Store.lt_size_of_find? found
  · intro id member
    rcases becomes.members id member with earlier | found
    · exact (becomes.evolves.keeps.becomes (stacked.known id earlier)).1
    · exact found

theorem perform (action : Action) (allowed : ws.allows action = true) :
    (ws.perform action).1.IsStacked := by
  cases plain : action.isScoping with
  | false => exact stacked.act plain allowed
  | true =>
    cases action with
    | enter name infers => exact stacked.enter name infers
    | exit builder failed => exact stacked.exit builder failed
    | _ => cases plain

theorem run (actions : List Action) : (ws.run actions).IsStacked := by
  induction actions generalizing ws with
  | nil => exact stacked
  | cons action actions ih =>
    rw [Workspace.run]
    split
    next allowed => exact ih (stacked.perform action allowed)
    · exact ih stacked

end IsStacked

/-- At every point of a session, however it came about: a call creates its node in all open scopes,
or fails and leaves them; leaving takes the innermost scope away and nothing else, whether it fails
or not; the nodes of a scope are a suffix of those of the scopes around it; and the root scope has
none. When a block is about to be left, its scope holds the nodes created in scopes since it was
entered, each once and in order, and the inputs and outputs told directly in it; the scopes around
it have gained these nodes and nothing else. -/
theorem scopes_of_run (before : List Action) :
    let ws := initial.run before
    ws.scopes.root.nodes = [] ∧
      ws.scopes.opened.Pairwise (fun inner outer => inner.nodes <:+ outer.nodes) ∧
      (∀ call name, (ws.call call name).1.scopes =
        match (ws.call call name).2 with
        | .ok id => ws.scopes.addNode id
        | .error _ => ws.scopes) ∧
      (∀ scope outer builder failed, ws.scopes.opened = scope :: outer →
        (ws.exit builder failed).1.scopes = ⟨outer, ws.scopes.root⟩) ∧
      ∀ name infers body made, IsNested (ws.builders.size + 1) body made →
        let entered := (ws.perform (.enter name infers)).1
        let level := ws.scopes.opened.length + 1
        let scope : Scope := ⟨name, entered.created body, entered.told Action.inputs level body,
          entered.told Action.outputs level body⟩
        let outer := ws.scopes.opened.map (Scope.addNodes scope.nodes)
        scope.nodes.Pairwise (· < ·) ∧
          (entered.run body).scopes = ⟨scope :: outer, ws.scopes.root⟩ ∧
          (entered.run body).scopes.pop? = some (scope, ⟨outer, ws.scopes.root⟩) ∧
          ∀ builder failed, ((entered.run body).exit builder failed).1.scopes =
            ⟨outer, ws.scopes.root⟩ := by
  intro ws
  have stacked : ws.IsStacked := isStacked_initial.run before
  refine ⟨stacked.root, stacked.suffixes, scopes_call,
    fun scope outer builder failed opened => scopes_exit opened builder failed, ?_⟩
  intro name infers body made nested entered level scope outer
  have inside : entered.Gathers body made := run_nested nested entered (Array.size_push _)
  have scopes : (entered.run body).scopes = ⟨scope :: outer, ws.scopes.root⟩ := inside.opened
  have ordered := ((stacked.enter name infers).run body).ordered scope
  refine ⟨ordered ?_, scopes, ?_, fun builder failed => ?_⟩
  · exact (congrArg ScopeStack.opened scopes).symm ▸ List.mem_cons_self
  · rw [scopes]
    rfl
  · rw [scopes_exit (congrArg ScopeStack.opened scopes), scopes]

omit [DescriptionReader] [Host] in
/-- A block in which a parameter is refused, a node is made in no scope, and an inner block fails
since two of its nodes have one name: the scope of the block holds the node made in the inner block
and the output it was told itself. -/
theorem scopes_of_run_failing :
    let _host : Host := .wide
    let _reader : DescriptionReader := .plain
    let before : List Action :=
      [.enter (some "outer") false, .create true (.parameter ⟨.ofLengths [2], .int32⟩) [] (some "x")]
    let inner : List Action := [.create true .dot [0, 0] (some "x"), .addInputs [0]]
    let body : List Action := .create true (.parameter ⟨.ofLengths [2], .int32⟩) [0] none ::
      .create false .dot [0, 0] none :: .enter none false ::
        (inner ++ .exit 2 false :: [.addOutputs [0]])
    let entered := ((initial.run before).perform (.enter (some "inner") false)).1
    (((entered.run (body.take 3)).run inner).exit 2 false).2.toOption = none ∧
      (entered.run body).scopes.pop? =
        some (⟨some "inner", [3], [], [0]⟩, ⟨[⟨some "outer", [0, 3], [], []⟩], .empty none⟩) := by
  intro _host _reader before inner body entered
  have nested : IsNested 2 body 3 := by
    have inside : IsNested 3 inner 3 := .act rfl (.act rfl (.done 3))
    have rest : IsNested 3 [.addOutputs [0]] 3 := .act rfl (.done 3)
    exact .act rfl (.act rfl (.block none false false inside (by decide) rest))
  have left := ((scopes_of_run before).2.2.2.2 (some "inner") false body 3 nested).2.2.1
  refine ⟨by decide +kernel, left.trans ?_⟩
  decide +kernel

end Workspace

end OpGraph
