import OpGraph.Proofs.Builder.Evaluation
import OpGraph.Proofs.Builder.Nesting
import OpGraph.Proofs.Graph.NameTable

/-!
# Names over a session

Nodes are added to a graph all together or not at all, and nothing else is done to the members of a
graph. So whatever is done in a session, and whatever fails, the names of the members of a graph
stay distinct, and none of them is lost in a table by name (`names_of_run`).
-/
namespace OpGraph

/-- The nodes exist and have distinct names. -/
structure Store.Distinguishes (store : Store) (ids : List Nat) : Prop where
  found : ∀ id ∈ ids, (store.find? id).isSome = true
  distinct : (ids.map store.name).Nodup

namespace Store.Distinguishes

variable {store later : Store} {ids : List Nat}

theorem nil (store : Store) : store.Distinguishes [] where
  found := nofun
  distinct := List.nodup_nil

theorem keeps (distinguishes : store.Distinguishes ids) (keeps : store.Keeps later) :
    later.Distinguishes ids where
  found id member := (keeps.becomes (distinguishes.found id member)).1
  distinct := by
    rw [keeps.names distinguishes.found]
    exact distinguishes.distinct

theorem append (distinguishes : store.Distinguishes ids) {more : List Nat}
    (others : store.Distinguishes more)
    (fresh : ∀ id ∈ more, store.name id ∉ ids.map store.name) :
    store.Distinguishes (ids ++ more) where
  found id member := (List.mem_append.mp member).elim (distinguishes.found id) (others.found id)
  distinct := by
    rw [List.map_append]
    refine List.nodup_append.mpr ⟨distinguishes.distinct, others.distinct, ?_⟩
    rintro _ held name among rfl
    obtain ⟨id, member, named⟩ := List.mem_map.mp among
    exact fresh id member (named ▸ held)

end Store.Distinguishes

namespace Workspace

open Traversal (IsOrder)

variable {ws after : Workspace}

/-! ### Adding nodes -/

/-- Nodes are added to a graph all together, or, where a name would repeat, not at all. -/
structure AddsTogether [DescriptionReader] [Host] (ws : Workspace) (graph : Nat)
    (ids : List Nat) : Prop where
  refused_iff : (∃ failure, (ws.perform (.addNodes graph ids)).2 = .error failure) ↔
    ¬(ids.map ws.store.name).Nodup ∨
      ∃ id ∈ ids, ws.store.name id ∈ (ws.graph graph).nodes.map ws.store.name
  refused : ∀ failure, (ws.perform (.addNodes graph ids)).2 = .error failure →
    (ws.perform (.addNodes graph ids)).1 = ws ∧
      ∃ name, failure = .duplicateNodeName name ∧ Graph.FirstRepeats
        ((ws.graph graph).nodes.map ws.store.name) (ids.map ws.store.name) name
  added : (ws.perform (.addNodes graph ids)).2 = .ok () →
    (ws.perform (.addNodes graph ids)).1 =
      ws.setGraph graph { ws.graph graph with nodes := (ws.graph graph).nodes ++ ids }

theorem addsTogether [DescriptionReader] [Host] (ws : Workspace) (graph : Nat) (ids : List Nat) :
    ws.AddsTogether graph ids := by
  -- The graph takes all of the nodes or none of them, and no other part of the workspace changes.
  cases added : (ws.graph graph).addNodes ws.store ids with
  | ok grown =>
    have performed : ws.perform (.addNodes graph ids) = (ws.setGraph graph grown, .ok ()) := by
      rw [perform, changeGraph, added]
    obtain ⟨⟨distinct, fresh⟩, rfl⟩ := Graph.addNodes_eq_ok.mp added
    constructor <;> rw [performed]
    · constructor
      · rintro ⟨_, failed⟩
        cases failed
      · rintro (repeated | ⟨id, member, clash⟩)
        · exact absurd distinct repeated
        · exact absurd clash (fresh id member)
    · intro _ failed
      cases failed
    · exact fun _ => rfl
  | error failure =>
    have performed : ws.perform (.addNodes graph ids) = (ws, .error failure) := by
      rw [perform, changeGraph, added]
    constructor <;> rw [performed]
    · refine ⟨fun _ => ?_, fun _ => ⟨failure, rfl⟩⟩
      by_contra accepted
      push Not at accepted
      rw [Graph.addNodes_eq_ok.mpr ⟨accepted, rfl⟩] at added
      cases added
    · intro failure' same
      cases same
      obtain ⟨name, first, rfl⟩ := Graph.addNodes_eq_error added
      exact ⟨rfl, name, rfl, first⟩
    · intro succeeded
      cases succeeded

/-- What is added of the nodes of a call: a failure adds none of them. -/
def accepted (ids : List Nat) : Except Failure Unit → List Nat
  | .ok () => ids
  | .error _ => []

@[simp] theorem accepted_nil (outcome : Except Failure Unit) : accepted [] outcome = [] := by
  cases outcome <;> rfl

/-- The nodes that an action adds to a graph. -/
def addedBy [DescriptionReader] [Host] (graph : Nat) (ws : Workspace) : Action → List Nat
  | .addNodes other ids =>
    if other = graph then accepted ids (ws.perform (.addNodes other ids)).2 else []
  | _ => []

/-- What a row of actions adds to a graph, in the order in which it is added. -/
def added [DescriptionReader] [Host] (ws : Workspace) (graph : Nat) (actions : List Action) :
    List Nat :=
  collect (addedBy graph) ws actions

/-! ### What actions do to graphs -/

/-- Graphs that were made before gain nodes at their ends, and the nodes of new graphs have
distinct names. -/
structure Gains (ws after : Workspace) (gained : Nat → List Nat) : Prop where
  size_le : ws.graphs.size ≤ after.graphs.size
  nodes : ∀ id < ws.graphs.size, (after.graph id).nodes = (ws.graph id).nodes ++ gained id
  made : ∀ id, ws.graphs.size ≤ id → after.store.Distinguishes (after.graph id).nodes

namespace Gains

theorem graph_of_size_le {id : Nat} (outside : ws.graphs.size ≤ id) : ws.graph id = default := by
  simp [Workspace.graph, outside]

theorem of_same (same : after.graphs = ws.graphs) : ws.Gains after fun _ => [] where
  size_le := by rw [same]
  nodes id _ := by rw [Workspace.graph, Workspace.graph, same, List.append_nil]
  made id outside := by
    rw [graph_of_size_le (by rwa [same])]
    exact .nil _

theorem of_push {graph : Graph} (pushed : after.graphs = ws.graphs.push graph)
    (named : after.store.Distinguishes graph.nodes) : ws.Gains after fun _ => [] where
  size_le := by simp [pushed]
  nodes id inside := by
    have old : after.graph id = ws.graph id := by
      simp [Workspace.graph, pushed, Array.getElem?_push, Nat.ne_of_lt inside]
    rw [old, List.append_nil]
  made id outside := by
    rcases Nat.eq_or_lt_of_le outside with rfl | beyond
    · have new : after.graph ws.graphs.size = graph := by simp [Workspace.graph, pushed]
      rwa [new]
    · have outside' : after.graphs.size ≤ id := by
        rw [pushed, Array.size_push]
        exact beyond
      rw [graph_of_size_le outside']
      exact .nil _

theorem of_set {target : Nat} (inside : target < ws.graphs.size) {graph : Graph}
    (ids : List Nat) (nodes : graph.nodes = (ws.graph target).nodes ++ ids) :
    ws.Gains (ws.setGraph target graph) fun id => if target = id then ids else [] where
  size_le := by simp [setGraph]
  nodes id _ := by
    by_cases same : target = id
    · subst same
      simp [Workspace.graph, setGraph, inside, nodes]
    · simp [Workspace.graph, setGraph, same]
  made id outside := by
    rw [graph_of_size_le (by simpa [setGraph] using outside)]
    exact .nil _

end Gains

theorem gains_changeGraph {target : Nat} (inside : target < ws.graphs.size)
    {change : Store → Graph → Except Failure Graph} (ids : List Nat)
    (nodes : ∀ graph, change ws.store (ws.graph target) = .ok graph →
      graph.nodes = (ws.graph target).nodes ++ ids) :
    ws.Gains (ws.changeGraph target change).1 fun id =>
      if target = id then accepted ids (ws.changeGraph target change).2 else [] := by
  unfold changeGraph
  split
  next graph changed => exact .of_set inside ids (nodes graph changed)
  next failure refused =>
    have kept : ws.Gains ws fun _ => [] := .of_same rfl
    simpa [accepted] using kept

theorem gains_changeGraph_nothing {target : Nat} (inside : target < ws.graphs.size)
    {change : Store → Graph → Except Failure Graph}
    (nodes : ∀ graph, change ws.store (ws.graph target) = .ok graph →
      graph.nodes = (ws.graph target).nodes) :
    ws.Gains (ws.changeGraph target change).1 fun _ => [] := by
  have changed := gains_changeGraph inside [] fun graph changed => by
    rw [nodes graph changed, List.append_nil]
  simpa using changed

/-- The members of a graph that a scope leaves are distinct nodes of the store. -/
theorem distinguishes_of_build {scope : Scope} {graph : Graph} {store later : Store}
    (known : ∀ id ∈ scope.nodes, (store.find? id).isSome = true)
    (built : scope.build store = .ok graph) (evolves : store.Evolves later) :
    later.Distinguishes graph.nodes :=
  .keeps ⟨Scope.found_of_build known built, (Scope.build_eq_ok built).2.1⟩ evolves.keeps

theorem gains_exit (known : ∀ id ∈ ws.scopes.members, ws.hasNode id = true) (builder : Nat)
    (failed : Bool) : ws.Gains (ws.exit builder failed).1 fun _ => [] := by
  cases popped : ws.scopes.pop? with
  | none =>
    rw [exit, popped]
    exact .of_same rfl
  | some parts =>
    obtain ⟨scope, scopes⟩ := parts
    rw [exit_of_pop popped]
    cases failed with
    | true => exact .of_same rfl
    | false =>
      rw [if_neg Bool.false_ne_true]
      let left : Workspace := { ws with scopes := scopes }
      have evolves := (left.becomes_finish builder scope).evolves
      cases built : scope.build ws.store with
      | error failure =>
        rw [finish, built]
        exact .of_same rfl
      | ok graph =>
        -- The types that are inferred at the end change no name.
        exact .of_push (graphs_finish left built builder)
          (distinguishes_of_build (found_of_pop popped known) built evolves)

theorem gains_load [DescriptionReader] (ws : Workspace) (text : String) :
    ws.Gains (ws.load text).1 fun _ => [] := by
  unfold load
  split
  next store graph loaded =>
    have selfContained := Description.selfContained_of_load loaded
    exact .of_push rfl ⟨selfContained.found, selfContained.distinct⟩
  · exact .of_same rfl

private theorem graphs_create (operator : Operator) (producers : List Nat) (name : Option String) :
    (ws.create operator producers name).1.graphs = ws.graphs := by
  rw [create_eq]
  split <;> rfl

private theorem graphs_inferNode (id : Nat) : (ws.inferNode id).1.graphs = ws.graphs :=
  rfl

private theorem inside_of_allowed {target : Nat} {others : Bool}
    (allowed : (decide (target < ws.graphs.size) && others) = true) : target < ws.graphs.size :=
  of_decide_eq_true (Bool.and_eq_true_iff.mp allowed).1

variable [DescriptionReader] [Host]

/-- Only additions change the members of a graph, and only loading a text, leaving a scope and
asking for an empty graph make one. -/
theorem gains_perform (known : ∀ id ∈ ws.scopes.members, ws.hasNode id = true) (action : Action)
    (allowed : ws.allows action = true) :
    ws.Gains (ws.perform action).1 fun graph => addedBy graph ws action := by
  cases action with
  | addNodes target ids =>
    exact gains_changeGraph (inside_of_allowed allowed) ids fun graph added => by
      rw [(Graph.addNodes_eq_ok.mp added).2]
  -- Setting the inputs or outputs changes a graph as well, but not its members.
  | setInputs target ids =>
    refine gains_changeGraph_nothing (inside_of_allowed allowed) fun graph set => ?_
    rw [Graph.setInputs] at set
    split at set
    · cases set
      rfl
    · cases set
  | setOutputs target ids =>
    refine gains_changeGraph_nothing (inside_of_allowed allowed) fun graph set => ?_
    cases set
    rfl
  | create inScope operator producers name =>
    cases inScope with
    | false => exact .of_same rfl
    | true => exact .of_same (graphs_create operator producers name)
  | inferNode id => exact .of_same (graphs_inferNode id)
  | inferGraph graph => exact .of_same rfl
  | exit builder failed => exact gains_exit known builder failed
  | load text => exact ws.gains_load text
  | addInputs ids => exact .of_same rfl
  | addOutputs ids => exact .of_same rfl
  | enter name infers => exact .of_same rfl
  | newGraph name => exact .of_push rfl (.nil _)
  | translateNode id dialect => exact .of_same rfl
  | evaluateNode id operands => exact .of_same rfl
  | translateGraph graph dialect => exact .of_same rfl
  | evaluateGraph graph arrays => exact .of_same rfl
  | register definition =>
    rw [perform]
    split <;> exact .of_same rfl
  | loadLibrary => exact .of_same rfl
  | clearRegistry => exact .of_same rfl

/-! ### Sessions -/

/-- The graphs hold distinct names, and the open scopes hold nodes of the store. -/
structure IsNamed (ws : Workspace) : Prop where
  graphs : ∀ id, ws.store.Distinguishes (ws.graph id).nodes
  scopes : ∀ id ∈ ws.scopes.members, ws.hasNode id = true

omit [DescriptionReader] [Host] in
theorem isNamed_initial : initial.IsNamed where
  graphs id := by
    rw [Gains.graph_of_size_le (Nat.zero_le id)]
    exact .nil _
  scopes id member := by cases member

/-- What is added are nodes of the store, under names that are new to the graph. -/
theorem distinguishes_addedBy {action : Action} (allowed : ws.allows action = true) {graph : Nat}
    (named : ws.store.Distinguishes (ws.graph graph).nodes) :
    ws.store.Distinguishes ((ws.graph graph).nodes ++ addedBy graph ws action) := by
  have nothing : ws.store.Distinguishes ((ws.graph graph).nodes ++ []) := by
    rwa [List.append_nil]
  cases action with
  | addNodes target ids =>
    have found : ∀ id ∈ ids, ws.hasNode id = true :=
      List.all_eq_true.mp (Bool.and_eq_true_iff.mp allowed).2
    rw [addedBy]
    split
    next same =>
      subst same
      -- What was compared with the members is what is now added to them.
      cases added : (ws.graph target).addNodes ws.store ids with
      | error failure => simpa [perform, changeGraph, added, accepted] using named
      | ok grown =>
        obtain ⟨⟨distinct, fresh⟩, -⟩ := Graph.addNodes_eq_ok.mp added
        simpa [perform, changeGraph, added, accepted] using named.append ⟨found, distinct⟩ fresh
    · exact nothing
  | _ => exact nothing

theorem IsNamed.perform (isNamed : ws.IsNamed) {action : Action}
    (allowed : ws.allows action = true) : (ws.perform action).1.IsNamed := by
  have becomes := ws.becomes_perform action allowed
  have gains := gains_perform isNamed.scopes action allowed
  refine ⟨fun id => ?_, fun id member => ?_⟩
  · by_cases old : id < ws.graphs.size
    · -- The names were compared in the store before the action; nodes keep them.
      rw [gains.nodes id old]
      exact (distinguishes_addedBy allowed (isNamed.graphs id)).keeps becomes.evolves.keeps
    · exact gains.made id (Nat.le_of_not_lt old)
  · rcases becomes.members id member with earlier | found
    · exact (becomes.evolves.keeps.becomes (isNamed.scopes id earlier)).1
    · exact found

theorem IsNamed.run (isNamed : ws.IsNamed) (actions : List Action) : (ws.run actions).IsNamed := by
  induction actions generalizing ws with
  | nil => exact isNamed
  | cons action actions ih =>
    rw [Workspace.run]
    split
    next allowed => exact ih (isNamed.perform allowed)
    · exact ih isNamed

theorem IsNamed.nodes_run (isNamed : ws.IsNamed) (actions : List Action) {id : Nat}
    (made : id < ws.graphs.size) :
    ((ws.run actions).graph id).nodes = (ws.graph id).nodes ++ ws.added id actions := by
  induction actions generalizing ws with
  | nil => exact (List.append_nil _).symm
  | cons action actions ih =>
    rw [Workspace.run, added, collect]
    split
    next allowed =>
      -- A graph keeps its number, since graphs are only ever added.
      have gains := gains_perform isNamed.scopes action allowed
      rw [ih (isNamed.perform allowed) (Nat.lt_of_lt_of_le made gains.size_le),
        gains.nodes id made, List.append_assoc]
      rfl
    · exact ih isNamed made

/-- At every point of a session, for every graph: its members have distinct names. Nodes are added
to it all together, or refused for a name that repeats that of a member or of another one of them,
which changes nothing; so its members are those added, in that order. The table of its nodes holds
each of them in this order. Each operation is translated after the operations that it reads, and has
its own kernel in the table of the kernels, however kernels are written, unless there is a first
operation for which it fails. -/
theorem names_of_run (actions : List Action) (id : Nat)
    (made : id < (initial.run actions).graphs.size) :
    let ws := initial.run actions
    let store := ws.store
    let graph := ws.graph id
    (graph.nodes.map store.name).Nodup ∧
      (∀ ids, ws.AddsTogether id ids) ∧
      (∀ later, ((ws.run later).graph id).nodes = graph.nodes ++ ws.added id later) ∧
      graph.nodeTable store = graph.nodes.map (fun member => (store.name member, member)) ∧
      (∀ name, (graph.nodeTable store).lookup name = graph.find? store name) ∧
      ∃ order, graph.topological store = .ok order ∧
        IsOrder store.producers graph.nodes order ∧
        IsOrder store.producers (Graph.operationsIn store graph.nodes)
          (Graph.operationsIn store order) ∧
        (∀ write, Graph.WritesEach store write (Graph.operationsIn store order)
          (graph.kernelTable write store)) ∧
        ∀ registry dialect, graph.translate registry store dialect =
          graph.kernelTable (fun member => registry.translate (store.view member) dialect)
            store := by
  intro ws store graph
  have isNamed : ws.IsNamed := isNamed_initial.run actions
  have distinct := (isNamed.graphs id).distinct
  have grounded := Store.isGrounded_empty.evolves (evolves_initial actions)
  obtain ⟨order, sorted, isOrder⟩ :=
    Graph.isOrder_of_descending distinct fun id _ => grounded.descending id
  exact ⟨distinct, ws.addsTogether id, fun later => isNamed.nodes_run later made,
    Graph.nodeTable_eq distinct, Graph.lookup_nodeTable distinct, order, sorted, isOrder,
    isOrder.filter _, fun write => Graph.writesEach_kernelTable distinct sorted isOrder,
    Graph.translate_eq_kernelTable distinct sorted isOrder⟩

omit [DescriptionReader] [Host] in
/-- Of four calls one clashes with itself and one with a member. -/
theorem names_of_run_clashing :
    let _host : Host := .wide
    let _reader : DescriptionReader := .plain
    let parameter : Operator := .parameter ⟨.ofLengths [2, 2], .int32⟩
    let actions : List Action :=
      [.create false parameter [] (some "x"), .create false parameter [] (some "y"),
        .create false .dot [0, 1] (some "z"), .create false .dot [2, 1] (some "w"),
        .create false parameter [] (some "x"), .newGraph none, .addNodes 0 [3, 0],
        .addNodes 0 [2, 2], .addNodes 0 [1, 4], .addNodes 0 [2, 1]]
    let ws := initial.run actions
    let graph := ws.graph 0
    graph.nodes = [3, 0, 2, 1] ∧
      graph.nodeTable ws.store = [("w", 3), ("x", 0), ("z", 2), ("y", 1)] ∧
      (∃ failure, (ws.perform (.addNodes 0 [4])).2 = .error failure) ∧
      graph.translate .empty ws.store .direct = .error (.unregistered "Dot") ∧
      ∀ fragment, graph.kernelTable (fun _ => .ok fragment) ws.store =
        .ok [("z", fragment), ("w", fragment)] := by
  intro _host _reader parameter actions ws graph
  obtain ⟨-, adds, -, table, -, order, sorted, -, -, writes, translated⟩ :=
    names_of_run actions 0 (by decide +kernel)
  have members : graph.nodes = [3, 0, 2, 1] := by decide +kernel
  have names : graph.nodes.map (fun member => (ws.store.name member, member)) =
      [("w", 3), ("x", 0), ("z", 2), ("y", 1)] := by
    decide +kernel
  have clashing : ∃ id ∈ [4], ws.store.name id ∈ graph.nodes.map ws.store.name := by decide +kernel
  have reads : [0, 1, 2, 3].map ws.store.producers = [[], [], [0, 1], [2, 1]] := by decide +kernel
  have operations : Graph.operationsIn ws.store [0, 1, 2, 3] = [2, 3] := by decide +kernel
  have named : ws.store.name 2 = "z" ∧ ws.store.name 3 = "w" := by decide +kernel
  have kind : (ws.store.view 2).kind = "Dot" := by decide +kernel
  have refused (view : NodeView) :
      Registry.empty.translate view .direct = .error (.unregistered view.kind) := rfl
  have traversed : graph.topological ws.store = .ok [0, 1, 2, 3] := by
    generalize ws.store = store at reads
    simp only [List.map_cons, List.map_nil, List.cons.injEq] at reads
    simp [Graph.topological, Traversal.topological, Traversal.fromSeed, Traversal.unique,
      Traversal.sinks, Traversal.walk, List.eraseDups_cons, members, reads]
  obtain rfl : [0, 1, 2, 3] = order := Except.ok.inj (traversed.symm.trans sorted)
  rw [operations] at writes
  refine ⟨members, table.trans names, (adds [4]).refused_iff.mpr (.inr clashing), ?_, ?_⟩
  · rw [translated]
    refine ((writes _).refused_iff _).mpr ⟨[], 2, [3], rfl, ?_, kind ▸ refused _⟩
    exact fun _ among => absurd among List.not_mem_nil
  · intro fragment
    refine ((writes _).written_iff _).mpr ?_
    exact .cons ⟨named.1.symm, rfl⟩ (.cons ⟨named.2.symm, rfl⟩ .nil)

end Workspace

end OpGraph
