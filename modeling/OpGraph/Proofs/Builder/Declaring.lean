import OpGraph.Proofs.Builder.ScopeGraph

/-!
# Nodes one after the other

A row of nodes that read only nodes before them is created one by one: they get the next numbers
and stand at the end of the store (`run_declarations`). When the row is created in a block of its
own, the parameters first and all names distinct, the block hands out a graph of just these nodes,
whose outputs are the operations that none of them reads (`run_block`).
-/
namespace OpGraph

namespace Node

/-- A node as it is when it is made. -/
def made (name : String) (operator : Operator) (producers : List Nat) : Node :=
  ⟨name, operator, producers, Store.initialTypes operator⟩

/-- The creation of a node in the open scopes. -/
def declaration (node : Node) : Action :=
  .create true node.operator node.producers (some node.name)

/-- A node that was just made; if it is a parameter it reads nothing. -/
structure IsFresh (node : Node) : Prop where
  types : node.types = Store.initialTypes node.operator
  parameter : node.operator.isParameter = true → node.producers = []

/-- A row of fresh nodes, numbered from `base` on, each of which reads only nodes before it. -/
def IsRow (base : Nat) (nodes : List Node) : Prop :=
  ∀ position node, nodes[position]? = some node →
    node.IsFresh ∧ ∀ p ∈ node.producers, base ≤ p ∧ p < base + position

end Node

namespace Store

/-- The store with nodes added at its end. -/
def append (store : Store) (nodes : List Node) : Store :=
  ⟨store.slots ++ (nodes.map some).toArray⟩

variable (store : Store)

@[simp] theorem append_nil : store.append [] = store := by
  simp [append]

theorem append_append (nodes later : List Node) :
    (store.append nodes).append later = store.append (nodes ++ later) := by
  simp [append]

@[simp] theorem size_append (nodes : List Node) :
    (store.append nodes).slots.size = store.slots.size + nodes.length := by
  simp [append]

theorem find?_append (nodes : List Node) (position : Nat) :
    (store.append nodes).find? (store.slots.size + position) = nodes[position]? := by
  rw [find?, append, Array.getElem?_append_right (Nat.le_add_right _ _), Nat.add_sub_cancel_left]
  cases found : nodes[position]? <;> simp [found]

theorem create_fresh {node : Node} (fresh : node.IsFresh) :
    store.create node.operator node.producers (some node.name) =
      (store.append [node], .ok store.slots.size) := by
  have accepted : (node.operator.isParameter && !node.producers.isEmpty) = false := by
    cases parameter : node.operator.isParameter with
    | false => rfl
    | true => rw [fresh.parameter parameter]; rfl
  have same : node = ⟨node.name, node.operator, node.producers, initialTypes node.operator⟩ := by
    rw [← fresh.types]
  rw [create, accepted, append]
  simp [← same]

/-- A fresh node gets the number after those added before it. -/
theorem create_append {node : Node} (fresh : node.IsFresh) (before : List Node) :
    (store.append before).create node.operator node.producers (some node.name) =
      (store.append (before ++ [node]), .ok (store.slots.size + before.length)) := by
  rw [create_fresh _ fresh, append_append, size_append]

end Store

namespace Workspace

variable [DescriptionReader] [Host]

theorem run_declarations (store : Store) (done nodes : List Node)
    (row : Node.IsRow store.slots.size (done ++ nodes)) (ws : Workspace)
    (stored : ws.store = store.append done) :
    ws.run (nodes.map Node.declaration) =
      { ws with
        store := store.append (done ++ nodes)
        scopes := ws.scopes.gather
          (List.range' (store.slots.size + done.length) nodes.length) [] [] } := by
  induction nodes generalizing done ws with
  | nil =>
    rw [List.append_nil, ← stored, List.length_nil, List.range'_zero, ScopeStack.gather_nothing]
    rfl
  | cons node nodes ih =>
    have found : (done ++ node :: nodes)[done.length]? = some node := by simp
    obtain ⟨fresh, reads⟩ := row done.length node found
    -- What the node reads was created before it, so that its creation is not passed over.
    have allowed : ws.allows node.declaration = true := by
      refine List.all_eq_true.mpr fun p read => ?_
      obtain ⟨above, below⟩ := reads p read
      obtain ⟨position, rfl⟩ := Nat.exists_eq_add_of_le above
      rw [hasNode, stored, store.find?_append]
      simpa using Nat.lt_of_add_lt_add_left below
    have created : ws.create node.operator node.producers (some node.name) =
        ({ ws with
            store := store.append (done ++ [node])
            scopes := ws.scopes.gather [store.slots.size + done.length] [] [] },
          .ok (store.slots.size + done.length)) := by
      rw [create_eq, stored, store.create_append fresh, ← ScopeStack.addNode_eq_gather]
    have performed : (ws.perform node.declaration).1 =
        { ws with
          store := store.append (done ++ [node])
          scopes := ws.scopes.gather [store.slots.size + done.length] [] [] } :=
      congrArg Prod.fst created
    rw [List.map_cons, run_cons allowed, performed,
      ih (done ++ [node]) (by rwa [List.append_assoc]) _ rfl]
    simp only [ScopeStack.gather_gather, List.append_assoc, List.cons_append, List.nil_append,
      List.length_append, List.length_cons, List.length_nil, List.range'_succ, Nat.add_assoc]

end Workspace

/-! ### The scope of a row -/

namespace Node

/-- A row of nodes as a block of its own lists them: parameters first, and all names distinct. -/
structure IsListing (base : Nat) (inputs operations : List Node) : Prop where
  row : IsRow base (inputs ++ operations)
  parameters : ∀ node ∈ inputs, node.operator.isParameter = true
  others : ∀ node ∈ operations, node.operator.isParameter = false
  distinct : ((inputs ++ operations).map Node.name).Nodup

variable {store : Store}

theorem node_append {nodes : List Node} {position : Nat} {node : Node}
    (found : nodes[position]? = some node) :
    (store.append nodes).node (store.slots.size + position) = node :=
  Store.node_of_find? _ _ _ ((store.find?_append nodes position).trans found)

/-- What is known of the nodes of a row by their numbers. -/
theorem map_range' {α : Type} (nodes : List Node) (ofId : Nat → α) (ofNode : Node → α)
    (same : ∀ position node, nodes[position]? = some node →
      ofId (store.slots.size + position) = ofNode node) :
    (List.range' store.slots.size nodes.length).map ofId = nodes.map ofNode := by
  refine List.ext_getElem (by simp) fun position below _ => ?_
  simp only [List.getElem_map, List.getElem_range', Nat.one_mul]
  exact same position _ (List.getElem?_eq_getElem (by simpa using below))

/-- What the nodes of a row read is in the row. -/
theorem IsRow.producers_mem {nodes : List Node} (row : IsRow store.slots.size nodes) {id : Nat}
    (member : id ∈ List.range' store.slots.size nodes.length) :
    ∀ p ∈ (store.append nodes).producers id, p ∈ List.range' store.slots.size nodes.length := by
  intro p read
  obtain ⟨above, below⟩ := List.mem_range'_1.mp member
  obtain ⟨position, rfl⟩ := Nat.exists_eq_add_of_le above
  have found := List.getElem?_eq_getElem (Nat.lt_of_add_lt_add_left below)
  rw [Store.producers, node_append found] at read
  obtain ⟨above', below'⟩ := (row position _ found).2 p read
  exact List.mem_range'_1.mpr ⟨above', below'.trans below⟩

namespace IsListing

variable {inputs operations : List Node} (listing : IsListing store.slots.size inputs operations)

include listing

theorem isParameter_input {position : Nat} (inside : position < inputs.length) :
    (store.append (inputs ++ operations)).isParameter (store.slots.size + position) = true := by
  have found : (inputs ++ operations)[position]? = some inputs[position] := by
    rw [List.getElem?_append_left inside]
    exact List.getElem?_eq_getElem _
  rw [Store.isParameter, Store.operator, node_append found]
  exact listing.parameters _ (List.getElem_mem _)

theorem isParameter_operation {position : Nat} (inside : position < operations.length) :
    (store.append (inputs ++ operations)).isParameter
      (store.slots.size + (inputs.length + position)) = false := by
  have found : (inputs ++ operations)[inputs.length + position]? = some operations[position] := by
    rw [List.getElem?_append_right (Nat.le_add_right _ _), Nat.add_sub_cancel_left]
    exact List.getElem?_eq_getElem _
  rw [Store.isParameter, Store.operator, node_append found]
  exact listing.others _ (List.getElem_mem _)

theorem isParameter_of_mem {id : Nat} (member : id ∈ List.range' store.slots.size inputs.length) :
    (store.append (inputs ++ operations)).isParameter id = true := by
  obtain ⟨above, below⟩ := List.mem_range'_1.mp member
  obtain ⟨position, rfl⟩ := Nat.exists_eq_add_of_le above
  exact listing.isParameter_input (Nat.lt_of_add_lt_add_left below)

theorem filter_isParameter :
    (List.range' store.slots.size (inputs ++ operations).length).filter
        (store.append (inputs ++ operations)).isParameter =
      List.range' store.slots.size inputs.length := by
  rw [List.length_append, ← List.range'_append_1, List.filter_append,
    List.filter_eq_self.mpr fun id => listing.isParameter_of_mem, List.filter_eq_nil_iff.mpr,
    List.append_nil]
  intro id member
  obtain ⟨above, below⟩ := List.mem_range'_1.mp member
  obtain ⟨position, rfl⟩ := Nat.exists_eq_add_of_le above
  rw [Nat.add_assoc, listing.isParameter_operation (Nat.lt_of_add_lt_add_left below)]
  exact Bool.false_ne_true

theorem firstRepeated?_names :
    Graph.firstRepeated? [] ((List.range' store.slots.size (inputs ++ operations).length).map
      (store.append (inputs ++ operations)).name) = none := by
  have names : (List.range' store.slots.size (inputs ++ operations).length).map
      (store.append (inputs ++ operations)).name = (inputs ++ operations).map Node.name := by
    refine map_range' _ _ _ fun position node found => ?_
    rw [Store.name, node_append found]
  rw [names]
  exact (Graph.firstRepeated?_eq_none _ _).mpr ⟨listing.distinct, fun _ _ => List.not_mem_nil⟩

theorem build (name : Option String) :
    let grown := store.append (inputs ++ operations)
    let ids := List.range' store.slots.size (inputs ++ operations).length
    let scope : Scope := ⟨name, ids, [], []⟩
    scope.build grown =
      .ok ⟨name, List.range' store.slots.size inputs.length, scope.unread grown, ids⟩ := by
  intro grown ids scope
  -- The nodes read each other only, so the scope captures nothing from around it.
  have captured : Traversal.external grown.producers ids = [] := by
    refine List.eq_nil_iff_forall_not_mem.mpr fun id member => ?_
    obtain ⟨⟨reader, among, read⟩, outside⟩ := Traversal.mem_external.mp member
    exact outside (listing.row.producers_mem among id read)
  have inputs' : scope.graphInputs grown = List.range' store.slots.size inputs.length := by
    rw [Scope.graphInputs, captured, listing.filter_isParameter]
    simp only [scope, List.nil_append, List.append_nil]
    exact Traversal.unique_of_nodup _ List.nodup_range'
  have outputs : scope.graphOutputs grown = scope.unread grown := by
    rw [Scope.graphOutputs_eq]
    exact Traversal.unique_of_nodup _ (List.Nodup.filter _ List.nodup_range')
  have members : scope.members grown = ids := by
    rw [Scope.members, inputs', List.filter_eq_nil_iff.mpr, List.nil_append]
    intro id member
    rw [← listing.filter_isParameter] at member
    have own : ids.contains id = true := List.contains_iff_mem.mpr (List.mem_filter.mp member).1
    exact Bool.not_eq_true _ ▸ congrArg (!·) own
  rw [Scope.build_of_parameters, members, listing.firstRepeated?_names, inputs', outputs]
  -- What remains is that the inputs are parameters.
  rw [inputs']
  exact fun id => listing.isParameter_of_mem

end IsListing

end Node

namespace Workspace

variable [DescriptionReader] [Host]

omit [DescriptionReader] [Host] in
/-- A builder that infers no types only holds the graph of its scope. -/
theorem finish_of_plain {ws : Workspace} {scope : Scope} {graph : Graph}
    (built : scope.build ws.store = .ok graph) {builder : Nat}
    (plain : (ws.builder builder).infers = false) :
    ws.finish builder scope = (ws.hold builder graph, .ok ()) := by
  have held : ((ws.hold builder graph).builder builder).infers = false := by
    rw [← plain, Workspace.builder, Workspace.builder, hold, Array.getD_eq_getD_getElem?,
      Array.getD_eq_getD_getElem?, Array.getElem?_modify, if_pos rfl]
    cases ws.builders[builder]? <;> rfl
  rw [finish_of_build built, held]
  rfl

/-- A block of its own that lists nodes hands out the graph of these nodes. -/
theorem run_block {inputs operations : List Node} (ws : Workspace) (name : Option String)
    (listing : Node.IsListing ws.store.slots.size inputs operations) :
    let row := inputs ++ operations
    let grown := ws.store.append row
    let ids := List.range' ws.store.slots.size row.length
    let scope : Scope := ⟨name, ids, [], []⟩
    let left := ws.run (.enter name false ::
      (row.map Node.declaration ++ [.exit ws.builders.size false]))
    left.store = grown ∧
      left.graphs = ws.graphs.push
        ⟨name, List.range' ws.store.slots.size inputs.length, scope.unread grown, ids⟩ := by
  intro row grown ids scope left
  let inside : Workspace := { (ws.enter name false).1 with
    store := grown
    scopes := (ws.enter name false).1.scopes.gather ids [] [] }
  have entered : (ws.enter name false).1.run (row.map Node.declaration) = inside :=
    run_declarations ws.store [] row listing.row (ws.enter name false).1 ws.store.append_nil.symm
  have popped : inside.scopes.pop? = some (scope, ⟨ws.scopes.opened.map (Scope.addNodes ids),
      ws.scopes.root⟩) := by
    have pushed : (ws.enter name false).1.scopes.opened = .empty name :: ws.scopes.opened := rfl
    simp only [inside, ScopeStack.gather_of_opened pushed]
    rfl
  have known : inside.allows (.exit ws.builders.size false) = true := by
    simp [allows, inside, enter]
  have same : left = (inside.exit ws.builders.size false).1 := by
    simp only [left]
    rw [run_cons rfl, run_append]
    exact (congrArg (run · _) entered).trans (run_cons known [])
  let closed : Workspace :=
    { inside with scopes := ⟨ws.scopes.opened.map (Scope.addNodes ids), ws.scopes.root⟩ }
  let graph : Graph :=
    ⟨name, List.range' ws.store.slots.size inputs.length, scope.unread grown, ids⟩
  have built : scope.build closed.store = .ok graph := listing.build name
  have plain : (closed.builder ws.builders.size).infers = false := by
    simp [Workspace.builder, closed, inside, enter]
  have closes : inside.exit ws.builders.size false = closed.finish ws.builders.size scope :=
    exit_of_pop popped _ _
  rw [same, closes, finish_of_plain built plain]
  exact ⟨rfl, rfl⟩

end Workspace

end OpGraph
