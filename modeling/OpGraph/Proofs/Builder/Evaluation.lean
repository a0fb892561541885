import OpGraph.Proofs.Builder.Scope
import OpGraph.Proofs.Builder.Session
import OpGraph.Proofs.Graph.Meaning

/-!
# Evaluation over a session

The open scopes of a session hold nodes of its store only (`hasNode_of_run`). So the graph that is
loaded or that a scope builds is self-contained when it is made, and it stays so: at any later time
its evaluation is the recursive meaning of its nodes (`evaluate_of_run`).
-/
namespace OpGraph

namespace Workspace

variable [DescriptionReader] [Host]

/-- The open scopes of a session hold nodes of its store only. -/
theorem hasNode_of_run (actions : List Action) :
    ∀ id ∈ (initial.run actions).scopes.members, (initial.run actions).hasNode id = true := by
  intro id member
  rcases (initial.becomes_run actions).members id member with first | found
  · -- No scope is open at first.
    cases first
  · exact found

variable {ws : Workspace}

/-! ### Graphs that are handed out -/

/-- The action makes a graph: it reads one from a text, or it leaves a scope. That of a scope is
taken up only if its outputs are members of it. -/
inductive Returns (ws : Workspace) : Action → Graph → Prop
  | load {text : String} {graph : Graph}
    (added : (ws.perform (.load text)).1.graphs = ws.graphs.push graph) :
    Returns ws (.load text) graph
  | exit {builder : Nat} {failed : Bool} {graph : Graph}
    (added : (ws.perform (.exit builder failed)).1.graphs = ws.graphs.push graph)
    (inside : ∀ id ∈ graph.outputs, id ∈ graph.nodes) : Returns ws (.exit builder failed) graph

omit [DescriptionReader] [Host] in
private theorem ne_push (graphs : Array Graph) (graph : Graph) : graphs ≠ graphs.push graph := by
  intro same
  simpa using congrArg Array.size same

omit [Host] in
theorem load_of_graphs {text : String} {graph : Graph}
    (added : (ws.load text).1.graphs = ws.graphs.push graph) :
    Description.load ws.registry ws.store text = ((ws.load text).1.store, .ok graph) := by
  unfold load at added ⊢
  split at added
  next store graph' loaded =>
    obtain ⟨rfl, -⟩ := Array.push_eq_push.mp added
    rw [loaded]
    rfl
  · exact absurd added (ne_push _ _)

variable (ws) in
omit [DescriptionReader] [Host] in
theorem graphs_finish {scope : Scope} {graph : Graph} (built : scope.build ws.store = .ok graph)
    (builder : Nat) : (ws.finish builder scope).1.graphs = ws.graphs.push graph := by
  rw [finish_of_build built]
  split <;> rfl

omit [DescriptionReader] [Host] in
theorem build_of_graphs {builder : Nat} {failed : Bool} {graph : Graph}
    (added : (ws.exit builder failed).1.graphs = ws.graphs.push graph) :
    ∃ scope rest, ws.scopes.pop? = some (scope, rest) ∧ scope.build ws.store = .ok graph := by
  -- Closing a scope adds a graph only where the scope was open and its graph was built.
  cases popped : ws.scopes.pop? with
  | none =>
    rw [exit, popped] at added
    exact absurd added (ne_push _ _)
  | some parts =>
    obtain ⟨scope, scopes⟩ := parts
    rw [exit_of_pop popped] at added
    cases failed with
    | true => exact absurd added (ne_push _ _)
    | false =>
      refine ⟨scope, scopes, rfl, ?_⟩
      cases built : scope.build ws.store with
      | error failure =>
        simp only [finish, built, Bool.false_eq_true, if_false] at added
        exact absurd added (ne_push _ _)
      | ok graph' =>
        have pushed := graphs_finish { ws with scopes := scopes } built builder
        obtain ⟨rfl, -⟩ := Array.push_eq_push.mp (pushed.symm.trans added)
        rfl

omit [DescriptionReader] [Host] in
/-- The scope that is left holds nodes of the store. -/
theorem found_of_pop {scope : Scope} {rest : ScopeStack}
    (popped : ws.scopes.pop? = some (scope, rest))
    (known : ∀ id ∈ ws.scopes.members, ws.hasNode id = true) :
    ∀ id ∈ scope.nodes, (ws.store.find? id).isSome = true := by
  intro id member
  refine known id (ScopeStack.mem_members.mpr ⟨scope, ?_, member⟩)
  rw [ScopeStack.opened_of_pop popped]
  exact List.mem_cons_self

theorem Returns.selfContained (known : ∀ id ∈ ws.scopes.members, ws.hasNode id = true)
    (grounded : ws.store.IsGrounded) {action : Action} {graph : Graph}
    (returns : ws.Returns action graph) : graph.IsSelfContained (ws.perform action).1.store := by
  cases returns with
  | load added => exact Description.selfContained_of_load (load_of_graphs added)
  | exit added inside =>
    obtain ⟨scope, rest, popped, built⟩ := build_of_graphs added
    have nodes := found_of_pop popped known
    exact (Scope.selfContained_of_build grounded nodes built inside).keeps
      (ws.becomes_exit _ _).evolves.keeps

/-- Whenever a session has made a graph by loading a text, or by leaving a scope whose outputs are
among its nodes, and whatever is done afterwards: evaluation of the graph on the right number of
arrays is its recursive meaning. It succeeds just when every node has a value, it gives the values
of the outputs, and it fails only with an operation that fails on the values of its producers. -/
theorem evaluate_of_run (actions : List Action) (action : Action) (later : List Action)
    (graph : Graph) (arrays : List Tensor)
    (returns : (initial.run actions).Returns action graph)
    (counted : arrays.length = graph.inputs.length) :
    graph.EvaluatesAsMeant (((initial.run actions).perform action).1.run later).store arrays := by
  have known := hasNode_of_run actions
  have grounded := Store.isGrounded_empty.evolves (evolves_initial actions)
  have made := returns.selfContained known grounded
  have later := ((initial.run actions).perform action).1.evolves_run later
  exact Graph.evaluate_denotes (made.keeps later.keeps) counted

omit [DescriptionReader] [Host] in
/-- A node that reads one parameter twice, and replaces all of it by itself. -/
theorem evaluate_of_run_repeated :
    let _host : Host := .wide
    let _reader : DescriptionReader := .plain
    let built : Workspace := initial.run [.enter none false,
      .create true (.parameter ⟨.ofLengths [2], .int32⟩) [] (some "x"),
      .create true (.replaceSlice (.ofInts [0] [2] [1])) [0, 0] (some "y")]
    let graph : Graph := ⟨none, [0], [1], [0, 1]⟩
    let store := ((built.perform (.exit 0 false)).1.run [.inferNode 1]).store
    let array : Tensor := .ofElements .int32 (.ofFn [2] fun index => (index.sum : Nat))
    built.Returns (.exit 0 false) graph ∧
      ∃ value, graph.evaluate store [array] = .ok [value] ∧ value.elements.data = #[0, 1] := by
  intro _host _reader built graph store array
  have added : (built.perform (.exit 0 false)).1.graphs = built.graphs.push graph := by
    decide +kernel
  have returns : built.Returns (.exit 0 false) graph := .exit added (by decide)
  refine ⟨returns, ?_⟩
  have meant := evaluate_of_run _ _ [.inferNode 1] graph [array] returns rfl
  -- The replacement reads the array twice, as the target and as the replacement.
  have computed : (store.isParameter 1 = false ∧ store.producers 1 = [0, 0]) ∧
      ((store.valueFrom 1 [array, array]).toOption.map fun value => value.elements.data) =
        some #[0, 1] := by
    decide +kernel
  obtain ⟨⟨operation, reads⟩, evaluated⟩ := computed
  obtain ⟨value, valued, data⟩ := Option.map_eq_some_iff.mp evaluated
  have input : Graph.Denotes store graph [array] 0 array := .input 0 rfl rfl
  have output : Graph.Denotes store graph [array] 1 value := by
    refine .of_operands operation ?_ (Outcome.toOption_eq_some.mp valued)
    rw [reads]
    exact .cons input (.cons input .nil)
  have each : ∀ id ∈ graph.nodes, ∃ value, Graph.Denotes store graph [array] id value := by
    intro id member
    have listed : id = 0 ∨ id = 1 := by simpa [graph] using member
    rcases listed with rfl | rfl
    · exact ⟨array, input⟩
    · exact ⟨value, output⟩
  obtain ⟨results, succeeded⟩ := meant.succeeds_iff.mpr each
  refine ⟨value, ?_, data⟩
  cases (meant.results results succeeded).1 with
  | cons denotes rest =>
    cases rest
    rw [succeeded, meant.unique 1 _ _ denotes output]

end Workspace

end OpGraph
