import OpGraph.Proofs.Builder.Evaluation
import OpGraph.Proofs.Builder.Nesting

/-!
# What a scope yields

When the graph of a scope can be built, and which graph it is. Every list of it is laid down by
what the scope was told and what was created in it, up to repetitions, of which the first counts
(`Scope.Yields`). It cannot be built just when something other than a parameter would have to
come in from outside, or when two nodes of the graph would have one name (`graph_of_scope`).
-/
namespace OpGraph

/-! ### Lists without repetitions -/

namespace Traversal

/-- The members of a list, each once, in the order in which they first occur there. -/
structure ListsOnce (all once : List Nat) : Prop where
  nodup : once.Nodup
  mem : ∀ id, id ∈ once ↔ id ∈ all
  ordered : once.Pairwise fun a b => all.idxOf a < all.idxOf b

theorem listsOnce_unique (nodes : List Nat) : ListsOnce nodes (unique nodes) :=
  ⟨nodup_unique nodes, fun _ => mem_unique, Repetition.pairwise_idxOf_eraseDups nodes⟩

namespace ListsOnce

variable {all once front list : List Nat}

/-- What stands first in the list stands first in the list that it was made of. -/
theorem idxOf_lt (lists : ListsOnce all once) {a b : Nat} (member : a ∈ once) (member' : b ∈ once)
    (before : once.idxOf a < once.idxOf b) : all.idxOf a < all.idxOf b := by
  have ordered := List.pairwise_iff_getElem.mp lists.ordered _ _ (List.idxOf_lt_length_iff.mpr member)
    (List.idxOf_lt_length_iff.mpr member') before
  simpa only [List.getElem_idxOf] using ordered

/-- Repetitions may be left out of the end of a list beforehand. -/
theorem of_append (lists : ListsOnce all once) (whole : ListsOnce (front ++ once) list) :
    ListsOnce (front ++ all) list := by
  refine ⟨whole.nodup, fun id => ?_, whole.ordered.imp_of_mem fun {a b} member member' before => ?_⟩
  · rw [whole.mem, List.mem_append, List.mem_append, lists.mem]
  · by_cases inA : a ∈ front
    · rw [List.idxOf_append_of_mem inA] at before ⊢
      by_cases inB : b ∈ front
      · rwa [List.idxOf_append_of_mem inB] at before ⊢
      · rw [List.idxOf_append_of_notMem inB]
        exact Nat.lt_add_right _ (List.idxOf_lt_length_iff.mpr inA)
    · by_cases inB : b ∈ front
      · -- What is not in the front cannot stand before what is.
        rw [List.idxOf_append_of_notMem inA, List.idxOf_append_of_mem inB] at before
        have below := List.idxOf_lt_length_iff.mpr inB
        omega
      · rw [List.idxOf_append_of_notMem inA, List.idxOf_append_of_notMem inB] at before ⊢
        have rest {id : Nat} (member : id ∈ list) (out : id ∉ front) : id ∈ once :=
          (List.mem_append.mp ((whole.mem id).mp member)).resolve_left out
        have ordered := lists.idxOf_lt (rest member inA) (rest member' inB)
          (Nat.lt_of_add_lt_add_left before)
        exact Nat.add_lt_add_left ordered _

end ListsOnce

end Traversal

namespace Scope

variable {store : Store} {scope : Scope} {graph : Graph}

/-- What the nodes of a scope read from outside, as often as they read it. -/
def captured (store : Store) (scope : Scope) : List Nat :=
  (scope.nodes.flatMap store.producers).filter fun id => !scope.nodes.contains id

/-- A node that is told or captured is no parameter. -/
def IsForeign (store : Store) (scope : Scope) (id : Nat) : Prop :=
  (id ∈ scope.inputs ∨ id ∈ scope.captured store) ∧ store.isParameter id = false

/-- The nodes that the graph of a scope is to hold. -/
def Holds (store : Store) (scope : Scope) (id : Nat) : Prop :=
  id ∈ scope.inputs ∨ id ∈ scope.captured store ∨ id ∈ scope.nodes

/-- Two different nodes that the graph is to hold have one name. -/
def Clashes (store : Store) (scope : Scope) (name : String) : Prop :=
  ∃ a b, a ≠ b ∧ scope.Holds store a ∧ scope.Holds store b ∧ store.name a = name ∧
    store.name b = name

/-- The operations of a scope that none of its nodes reads, in the order of their creation. -/
def unread (store : Store) (scope : Scope) : List Nat :=
  scope.nodes.filter fun id =>
    !store.isParameter id && scope.nodes.all fun reader => !(store.producers reader).contains id

/-- The graph that a scope yields: its inputs are those told, then the parameters of the scope and
then what is captured; its nodes are the inputs from outside and then those of the scope; its
outputs are those told and then the operations that are not read. It is closed under reading. -/
structure Yields (store : Store) (scope : Scope) (graph : Graph) : Prop where
  name : graph.name = scope.name
  inputs : Traversal.ListsOnce
    (scope.inputs ++ scope.nodes.filter store.isParameter ++ scope.captured store) graph.inputs
  nodes : graph.nodes = (graph.inputs.filter fun id => !scope.nodes.contains id) ++ scope.nodes
  outputs : Traversal.ListsOnce (scope.outputs ++ scope.unread store) graph.outputs
  closed : ∀ id ∈ graph.nodes, ∀ p ∈ store.producers id, p ∈ graph.nodes

theorem mem_captured {id : Nat} :
    id ∈ scope.captured store ↔
      (∃ reader ∈ scope.nodes, id ∈ store.producers reader) ∧ id ∉ scope.nodes := by
  rw [captured, List.mem_filter, List.mem_flatMap]
  simp

theorem listsOnce_graphInputs : Traversal.ListsOnce
    (scope.inputs ++ scope.nodes.filter store.isParameter ++ scope.captured store)
    (scope.graphInputs store) :=
  (Traversal.listsOnce_unique _).of_append (Traversal.listsOnce_unique _)

theorem graphOutputs_eq :
    scope.graphOutputs store = Traversal.unique (scope.outputs ++ scope.unread store) := by
  have same : (Traversal.sinks store.producers scope.nodes).filter (fun id => !store.isParameter id) =
      scope.unread store := by
    rw [Traversal.sinks, unread, List.filter_filter]
    refine List.filter_congr fun id _ => congrArg _ ?_
    rw [Bool.eq_iff_iff]
    simp
  rw [graphOutputs, same]

theorem listsOnce_graphOutputs :
    Traversal.ListsOnce (scope.outputs ++ scope.unread store) (scope.graphOutputs store) := by
  rw [graphOutputs_eq]
  exact Traversal.listsOnce_unique _

/-! ### When there is a graph -/

/-- The nodes that the graph of a scope is made of. -/
def members (store : Store) (scope : Scope) : List Nat :=
  ((scope.graphInputs store).filter fun id => !scope.nodes.contains id) ++ scope.nodes

theorem mem_members {id : Nat} : id ∈ scope.members store ↔ scope.Holds store id := by
  rw [members, Holds, List.mem_append, List.mem_filter, mem_graphInputs, mem_captured]
  by_cases own : id ∈ scope.nodes <;> simp [own]

theorem nodup_members (once : scope.nodes.Nodup) : (scope.members store).Nodup := by
  refine List.nodup_append.mpr ⟨(Traversal.nodup_unique _).filter _, once, ?_⟩
  rintro id outer _ own rfl
  simpa [own] using List.mem_filter.mp outer

/-- The parameters of the scope itself are never refused. -/
theorem isForeign_iff {id : Nat} :
    scope.IsForeign store id ↔ id ∈ scope.graphInputs store ∧ store.isParameter id = false := by
  rw [IsForeign, mem_graphInputs, mem_captured]
  refine and_congr_left fun operation => ?_
  simp [operation]

theorem requireParameters_eq_error {ids : List Nat} {failure : Failure}
    (refused : requireParameters store ids = .error failure) :
    ∃ id ∈ ids, store.isParameter id = false ∧
      failure = .graphInputNotParameter (store.name id) (store.operator id).kind := by
  unfold requireParameters at refused
  split at refused
  next id found =>
    cases refused
    exact ⟨id, List.mem_of_find?_eq_some found, by simpa using List.find?_some found, rfl⟩
  · cases refused

/-- Where nothing is foreign, only a repeated name is refused. -/
theorem build_of_parameters
    (parameters : ∀ id ∈ scope.graphInputs store, store.isParameter id = true) :
    scope.build store =
      match Graph.firstRepeated? [] ((scope.members store).map store.name) with
      | some repeated => .error (.duplicateNodeName repeated)
      | none => .ok ⟨scope.name, scope.graphInputs store, scope.graphOutputs store,
          scope.members store⟩ := by
  have accepted := requireParameters_eq_ok.mpr parameters
  have added : (Graph.empty scope.name).addNodes store (scope.members store) =
      match Graph.firstRepeated? [] ((scope.members store).map store.name) with
      | some repeated => .error (.duplicateNodeName repeated)
      | none => .ok ⟨scope.name, [], [], scope.members store⟩ := rfl
  rw [build]
  dsimp only
  rw [accepted, Outcome.ok_bind, ← members, added]
  split
  · rfl
  · rw [Outcome.ok_bind, Graph.setInputs, if_pos (List.all_eq_true.mpr parameters)]
    rfl

/-- A repeated name is the name of two nodes, since no node stands twice among the members. -/
theorem clashes_of_repeated (once : scope.nodes.Nodup) {name : String}
    (repeated : Graph.firstRepeated? [] ((scope.members store).map store.name) = some name) :
    scope.Clashes store name := by
  obtain ⟨before, after, split, -, earlier | earlier⟩ := Graph.firstRepeated?_eq_some repeated
  · obtain ⟨front, rest, parts, rfl, tail⟩ := List.map_eq_append_iff.mp split
    obtain ⟨b, back, rfl, named, -⟩ := List.map_eq_cons_iff.mp tail
    obtain ⟨a, member, named'⟩ := List.mem_map.mp earlier
    have distinct : (scope.members store).Nodup := nodup_members once
    rw [parts] at distinct
    have different : a ≠ b := by
      rintro rfl
      exact (List.nodup_append.mp distinct).2.2 a member a List.mem_cons_self rfl
    refine ⟨a, b, different, mem_members.mp ?_, mem_members.mp ?_, named', named⟩
    · rw [parts]
      exact List.mem_append_left _ member
    · rw [parts]
      exact List.mem_append_right _ List.mem_cons_self
  · cases earlier

theorem repeated_of_clashes {name : String} (clashes : scope.Clashes store name) :
    Graph.firstRepeated? [] ((scope.members store).map store.name) ≠ none := by
  intro fresh
  obtain ⟨a, b, different, holds, holds', named, named'⟩ := clashes
  have distinct := ((Graph.firstRepeated?_eq_none _ _).mp fresh).1
  exact different (List.inj_on_of_nodup_map distinct (mem_members.mpr holds) (mem_members.mpr holds')
    (named.trans named'.symm))

theorem build_eq_error (once : scope.nodes.Nodup) {failure : Failure}
    (failed : scope.build store = .error failure) :
    (∃ id, scope.IsForeign store id ∧
        failure = .graphInputNotParameter (store.name id) (store.operator id).kind) ∨
      ∃ name, scope.Clashes store name ∧ failure = .duplicateNodeName name := by
  cases checked : requireParameters store (scope.graphInputs store) with
  | error refused =>
    rw [build, checked] at failed
    cases failed
    obtain ⟨id, input, operation, same⟩ := requireParameters_eq_error checked
    exact .inl ⟨id, isForeign_iff.mpr ⟨input, operation⟩, same⟩
  | ok _ =>
    rw [build_of_parameters (requireParameters_eq_ok.mp checked)] at failed
    split at failed
    next name repeated =>
      cases failed
      exact .inr ⟨name, clashes_of_repeated once repeated, rfl⟩
    · cases failed

theorem not_build_of_isForeign {id : Nat} (foreign : scope.IsForeign store id) :
    scope.build store ≠ .ok graph := by
  intro built
  obtain ⟨input, operation⟩ := isForeign_iff.mp foreign
  rw [(build_eq_ok built).1 id input] at operation
  cases operation

theorem not_build_of_clashes {name : String} (clashes : scope.Clashes store name) :
    scope.build store ≠ .ok graph := by
  intro built
  rw [build_of_parameters (build_eq_ok built).1] at built
  split at built
  · cases built
  next fresh => exact repeated_of_clashes clashes fresh

theorem yields_of_build (grounded : store.IsGrounded)
    (known : ∀ id ∈ scope.nodes, (store.find? id).isSome = true)
    (built : scope.build store = .ok graph) : scope.Yields store graph := by
  have closed := closed_of_build grounded known built
  rw [build_of_parameters (build_eq_ok built).1] at built
  split at built
  · cases built
  · cases built
    exact ⟨rfl, listsOnce_graphInputs, rfl, listsOnce_graphOutputs, closed⟩

end Scope

namespace Workspace

variable [DescriptionReader] [Host]

/-- At every point of a session, for every open scope: its graph cannot be built just when a node
that it was told as an input or that it captures is no parameter, or when two nodes that the graph
would hold have one name, and the failure says so; otherwise the graph is the one that the scope
yields. Leaving the innermost scope fails so too, or hands out this graph. -/
theorem graph_of_scope (actions : List Action) :
    let ws := initial.run actions
    ∀ scope ∈ ws.scopes.opened,
      ((∃ failure, scope.build ws.store = .error failure) ↔
        (∃ id, scope.IsForeign ws.store id) ∨ ∃ name, scope.Clashes ws.store name) ∧
      (∀ failure, scope.build ws.store = .error failure →
        (∃ id, scope.IsForeign ws.store id ∧
          failure = .graphInputNotParameter (ws.store.name id) (ws.store.operator id).kind) ∨
        ∃ name, scope.Clashes ws.store name ∧ failure = .duplicateNodeName name) ∧
      (∀ graph, scope.build ws.store = .ok graph → scope.Yields ws.store graph) ∧
      ∀ outer builder, ws.scopes.opened = scope :: outer →
        match scope.build ws.store with
        | .error failure => (ws.exit builder false).2 = .error failure ∧
            (ws.exit builder false).1.graphs = ws.graphs
        | .ok graph => (ws.exit builder false).1.graphs = ws.graphs.push graph := by
  intro ws scope opened
  have stacked : ws.IsStacked := isStacked_initial.run actions
  have once : scope.nodes.Nodup := (stacked.ordered scope opened).imp Nat.ne_of_lt
  have known : ∀ id ∈ scope.nodes, (ws.store.find? id).isSome = true := fun id member =>
    stacked.known id (ScopeStack.mem_members.mpr ⟨scope, opened, member⟩)
  have grounded := Store.isGrounded_empty.evolves (evolves_initial actions)
  refine ⟨⟨?_, ?_⟩, fun failure => Scope.build_eq_error once,
    fun graph => Scope.yields_of_build grounded known, fun outer builder innermost => ?_⟩
  · rintro ⟨failure, failed⟩
    rcases Scope.build_eq_error once failed with ⟨id, foreign, -⟩ | ⟨name, clashes, -⟩
    · exact .inl ⟨id, foreign⟩
    · exact .inr ⟨name, clashes⟩
  · intro refused
    cases built : scope.build ws.store with
    | error failure => exact ⟨failure, rfl⟩
    | ok graph =>
      rcases refused with ⟨id, foreign⟩ | ⟨name, clashes⟩
      · exact absurd built (Scope.not_build_of_isForeign foreign)
      · exact absurd built (Scope.not_build_of_clashes clashes)
  · have popped : ws.scopes.pop? = some (scope, ⟨outer, ws.scopes.root⟩) := by
      rw [ScopeStack.pop?, innermost]
    rw [exit_of_pop popped]
    cases built : scope.build ws.store with
    | error failure => simp [finish, built]
    | ok graph => exact graphs_finish { ws with scopes := ⟨outer, ws.scopes.root⟩ } built builder

omit [DescriptionReader] [Host] in
/-- An inner scope that is told its own parameter and captures the one outside of it. -/
theorem graph_of_scope_captured :
    let _host : Host := .wide
    let _reader : DescriptionReader := .plain
    let actions : List Action := [.enter none false,
      .create true (.parameter ⟨.ofLengths [2, 2], .int32⟩) [] (some "x"), .enter (some "inner") false,
      .create true (.parameter ⟨.ofLengths [2, 2], .int32⟩) [] (some "y"),
      .create true .dot [0, 1] (some "z"), .create true .dot [2, 0] (some "w"), .addInputs [1],
      .addOutputs [2]]
    let scope : Scope := ⟨some "inner", [1, 2, 3], [1], [2]⟩
    let graph : Graph := ⟨some "inner", [1, 0], [2, 3], [0, 1, 2, 3]⟩
    scope ∈ (initial.run actions).scopes.opened ∧
      scope.build (initial.run actions).store = .ok graph ∧
      scope.Yields (initial.run actions).store graph := by
  intro _host _reader actions scope graph
  have opened : scope ∈ (initial.run actions).scopes.opened := by decide +kernel
  have built : scope.build (initial.run actions).store = .ok graph :=
    Outcome.toOption_eq_some.mp (by decide +kernel)
  exact ⟨opened, built, (graph_of_scope actions scope opened).2.2.1 graph built⟩

end Workspace

end OpGraph
