import OpGraph.Graph.NameTable
import OpGraph.Proofs.Description.Loading

/-!
# Tables of distinct names

No entry of a name table is lost where the names are distinct: the table is the list of what was
put (`putAll_distinct`). So the table of the nodes of such a graph holds every member, and the table
of its kernels every operation with its own kernel, in the order of the traversal, unless the first
one fails for which no kernel is written (`writesEach_kernelTable`).
-/
namespace OpGraph

namespace NameTable

variable {α : Type} {table : NameTable α}

theorem put_fresh {entry : String × α} (fresh : entry.1 ∉ table.map Prod.fst) :
    table.put entry = table ++ [entry] := by
  induction table with
  | nil => rfl
  | cons first rest ih =>
    rw [List.map_cons, List.mem_cons, not_or] at fresh
    rw [put, if_neg (Ne.symm fresh.1), ih fresh.2]
    rfl

theorem putAll_distinct {entries : List (String × α)}
    (distinct : ((table ++ entries).map Prod.fst).Nodup) :
    table.putAll entries = table ++ entries := by
  induction entries generalizing table with
  | nil => simp [putAll]
  | cons entry entries ih =>
    -- The name of the next entry is neither in the table nor among those that follow.
    have split := distinct
    rw [List.map_append, List.map_cons] at split
    have fresh : entry.1 ∉ table.map Prod.fst := fun held =>
      (List.nodup_append.mp split).2.2 _ held _ List.mem_cons_self rfl
    rw [List.append_cons] at distinct ⊢
    have rest := ih distinct
    rw [putAll] at rest ⊢
    rw [List.foldl_cons, put_fresh fresh, rest]

/-- Under distinct names every entry is found. -/
theorem lookup_of_mem (distinct : (table.map Prod.fst).Nodup) {name : String} {value : α}
    (held : (name, value) ∈ table) : table.lookup name = some value := by
  obtain ⟨before, after, rfl⟩ := List.append_of_mem held
  refine List.lookup_eq_some_iff.mpr ⟨before, after, rfl, fun entry earlier => ?_⟩
  rw [List.map_append, List.map_cons] at distinct
  have different := (List.nodup_append.mp distinct).2.2 entry.1
    (List.mem_map_of_mem earlier) name List.mem_cons_self
  simpa using different.symm

end NameTable

theorem Traversal.IsOrder.perm {producers : Nat → List Nat} {nodes order : List Nat}
    (isOrder : Traversal.IsOrder producers nodes order) (distinct : nodes.Nodup) :
    order.Perm nodes :=
  (List.perm_ext_iff_of_nodup isOrder.nodup distinct).mpr isOrder.mem_iff

/-- A part of the nodes keeps its order. -/
theorem Traversal.IsOrder.filter {producers : Nat → List Nat} {nodes order : List Nat}
    (isOrder : Traversal.IsOrder producers nodes order) (keep : Nat → Bool) :
    Traversal.IsOrder producers (nodes.filter keep) (order.filter keep) := by
  refine ⟨isOrder.nodup.filter keep, fun v => ?_, fun front v back split p read member => ?_⟩
  · rw [List.mem_filter, List.mem_filter, isOrder.mem_iff]
  · obtain ⟨before, rest, rfl, rfl, tail⟩ := List.filter_eq_append_iff.mp split
    obtain ⟨skipped, after, rfl, dropped, -, rfl⟩ := List.filter_eq_cons_iff.mp tail
    -- What is read stands before the node, and what is kept of that is not among the skipped.
    obtain ⟨inside, kept⟩ := List.mem_filter.mp member
    have earlier := isOrder.producersFirst (before ++ skipped) v after (by simp) p read inside
    rcases List.mem_append.mp earlier with first | skip
    · exact List.mem_filter.mpr ⟨first, kept⟩
    · exact absurd kept (dropped p skip)

namespace Graph

open Traversal (IsOrder)

variable {store : Store} {graph : Graph}

/-! ### Repeated names -/

/-- The first of the names that stands among those before it or among those seen already. -/
def FirstRepeats (seen names : List String) (name : String) : Prop :=
  ∃ before after, names = before ++ name :: after ∧ before.Nodup ∧
    (∀ earlier ∈ before, earlier ∉ seen) ∧ (name ∈ before ∨ name ∈ seen)

theorem firstRepeats_of_firstRepeated? {seen names : List String} {name : String}
    (repeated : firstRepeated? seen names = some name) : FirstRepeats seen names name := by
  obtain ⟨before, after, split, none, earlier⟩ := firstRepeated?_eq_some repeated
  obtain ⟨distinct, fresh⟩ := (firstRepeated?_eq_none seen before).mp none
  exact ⟨before, after, split, distinct, fresh, earlier⟩

/-- Nodes are added if no two of them have one name and none has the name of a member. -/
theorem addNodes_eq_ok {ids : List Nat} {grown : Graph} :
    graph.addNodes store ids = .ok grown ↔
      ((ids.map store.name).Nodup ∧
        ∀ id ∈ ids, store.name id ∉ graph.nodes.map store.name) ∧
      grown = { graph with nodes := graph.nodes ++ ids } := by
  have none := firstRepeated?_eq_none (graph.nodes.map store.name) (ids.map store.name)
  rw [List.forall_mem_map] at none
  rw [← none, addNodes]
  split
  next name repeated => simp [repeated]
  next fresh => simp [fresh, eq_comm]

theorem addNodes_eq_error {ids : List Nat} {failure : Failure}
    (refused : graph.addNodes store ids = .error failure) :
    ∃ name, FirstRepeats (graph.nodes.map store.name) (ids.map store.name) name ∧
      failure = .duplicateNodeName name := by
  rw [addNodes] at refused
  split at refused
  next name repeated =>
    cases refused
    exact ⟨name, firstRepeats_of_firstRepeated? repeated, rfl⟩
  · cases refused

/-! ### Nodes by name -/

theorem nodeTable_eq (distinct : (graph.nodes.map store.name).Nodup) :
    graph.nodeTable store = graph.nodes.map fun id => (store.name id, id) := by
  have names : (graph.nodes.map fun id => (store.name id, id)).map Prod.fst =
      graph.nodes.map store.name := by
    rw [List.map_map]
    rfl
  exact NameTable.putAll_distinct (names ▸ distinct)

theorem lookup_nodeTable (distinct : (graph.nodes.map store.name).Nodup) (name : String) :
    (graph.nodeTable store).lookup name = graph.find? store name := by
  rw [nodeTable_eq distinct, find?]
  clear distinct
  induction graph.nodes with
  | nil => rfl
  | cons id ids ih =>
    rw [List.map_cons, List.lookup_cons, List.find?_cons, ih, BEq.comm]

/-! ### Kernels by name -/

/-- The operations among nodes, in their order. -/
def operationsIn (store : Store) (ids : List Nat) : List Nat :=
  ids.filter fun id => !store.isParameter id

/-- The entry of a node. -/
def writeNode (write : Nat → Except Failure Fragment) (store : Store) (id : Nat) :
    Except Failure (String × Fragment) := do
  return (store.name id, ← write id)

variable {write : Nat → Except Failure Fragment}

/-- The entry holds the kernel of a node under the name of the node. -/
structure IsEntryOf (store : Store) (write : Nat → Except Failure Fragment) (id : Nat)
    (entry : String × Fragment) : Prop where
  name : entry.1 = store.name id
  kernel : write id = .ok entry.2

theorem writeNode_eq_ok {id : Nat} {entry : String × Fragment} :
    writeNode write store id = .ok entry ↔ IsEntryOf store write id entry := by
  rw [writeNode, Outcome.bind_eq_ok]
  constructor
  · rintro ⟨fragment, written, made⟩
    cases made
    exact ⟨rfl, written⟩
  · intro isEntry
    refine ⟨entry.2, isEntry.kernel, ?_⟩
    rw [← isEntry.name]
    rfl

theorem writeNode_eq_error {id : Nat} {failure : Failure} :
    writeNode write store id = .error failure ↔ write id = .error failure := by
  cases written : write id <;> simp [writeNode, written, pure, Except.pure]

theorem writeKernels_eq (table : NameTable Fragment) (ids : List Nat) :
    writeKernels write store table ids = do
      return table.putAll (← ids.mapM (writeNode write store)) := by
  induction ids generalizing table with
  | nil => rfl
  | cons id ids ih =>
    rw [writeKernels, List.mapM_cons, writeNode]
    cases write id with
    | error failure => rfl
    | ok fragment =>
      rw [Outcome.ok_bind, Outcome.ok_bind, ih]
      cases ids.mapM (writeNode write store) <;> rfl

theorem mapM_writeNode_eq_ok {ids : List Nat} {entries : List (String × Fragment)} :
    ids.mapM (writeNode write store) = .ok entries ↔
      List.Forall₂ (IsEntryOf store write) ids entries := by
  simp only [Outcome.mapM_eq_ok_iff, writeNode_eq_ok]

theorem names_of_mapM {ids : List Nat} {entries : List (String × Fragment)}
    (written : ids.mapM (writeNode write store) = .ok entries) :
    entries.map Prod.fst = ids.map store.name := by
  rw [← List.forall₂_eq_eq_eq, List.forall₂_map_left_iff, List.forall₂_map_right_iff]
  exact (mapM_writeNode_eq_ok.mp written).flip.imp fun _ _ isEntry => isEntry.name

/-- Under distinct names no entry of the table is replaced. -/
theorem writeKernels_distinct {ids : List Nat} (distinct : (ids.map store.name).Nodup) :
    writeKernels write store [] ids = ids.mapM (writeNode write store) := by
  rw [writeKernels_eq]
  cases written : ids.mapM (writeNode write store) with
  | error failure => rfl
  | ok entries =>
    rw [← names_of_mapM written] at distinct
    rw [Outcome.ok_bind, NameTable.putAll_distinct distinct]
    rfl

/-- The kernels of nodes are written under their names, unless there is a first node for which
none can be written. -/
structure WritesEach (store : Store) (write : Nat → Except Failure Fragment) (ids : List Nat)
    (outcome : Except Failure (NameTable Fragment)) : Prop where
  refused_iff : ∀ failure, outcome = .error failure ↔
    ∃ before id after, ids = before ++ id :: after ∧
      (∀ earlier ∈ before, ∃ fragment, write earlier = .ok fragment) ∧ write id = .error failure
  written_iff : ∀ table, outcome = .ok table ↔
    List.Forall₂ (IsEntryOf store write) ids table
  distinct : ∀ table, outcome = .ok table → (table.map Prod.fst).Nodup
  found : ∀ table, outcome = .ok table → ∀ id ∈ ids, ∃ fragment, write id = .ok fragment ∧
    table.lookup (store.name id) = some fragment

theorem writesEach_mapM {ids : List Nat} (distinct : (ids.map store.name).Nodup) :
    WritesEach store write ids (ids.mapM (writeNode write store)) := by
  have names (table : NameTable Fragment)
      (written : ids.mapM (writeNode write store) = .ok table) : (table.map Prod.fst).Nodup := by
    rwa [names_of_mapM written]
  refine ⟨fun failure => ?_, fun _ => mapM_writeNode_eq_ok, names,
    fun table written id member => ?_⟩
  · have succeeds (id : Nat) :
        (∃ entry, writeNode write store id = .ok entry) ↔ ∃ fragment, write id = .ok fragment := by
      simp only [writeNode_eq_ok]
      constructor
      · exact fun ⟨entry, isEntry⟩ => ⟨entry.2, isEntry.kernel⟩
      · exact fun ⟨fragment, written⟩ => ⟨(store.name id, fragment), rfl, written⟩
    simp only [Outcome.mapM_eq_error_iff, writeNode_eq_error, succeeds]
  · obtain ⟨⟨_, fragment⟩, held, rfl, kernel⟩ :=
      Outcome.forall₂_mem_left (mapM_writeNode_eq_ok.mp written) id member
    exact ⟨fragment, kernel, NameTable.lookup_of_mem (names table written) held⟩

theorem nodup_operationsIn (distinct : (graph.nodes.map store.name).Nodup) {order : List Nat}
    (isOrder : IsOrder store.producers graph.nodes order) :
    ((operationsIn store order).map store.name).Nodup := by
  have members := isOrder.perm (List.Nodup.of_map _ distinct)
  have all : (order.map store.name).Nodup := (members.map store.name).nodup_iff.mpr distinct
  exact all.sublist (List.filter_sublist.map store.name)

section Ordered

variable (distinct : (graph.nodes.map store.name).Nodup) {order : List Nat}
  (sorted : graph.topological store = .ok order)
  (isOrder : IsOrder store.producers graph.nodes order)

include distinct sorted isOrder

/-- The table is what the operations are written to. -/
theorem kernelTable_eq :
    graph.kernelTable write store = (operationsIn store order).mapM (writeNode write store) := by
  rw [kernelTable, sorted, Outcome.ok_bind]
  exact writeKernels_distinct (nodup_operationsIn distinct isOrder)

theorem writesEach_kernelTable :
    WritesEach store write (operationsIn store order) (graph.kernelTable write store) := by
  rw [kernelTable_eq distinct sorted isOrder]
  exact writesEach_mapM (nodup_operationsIn distinct isOrder)

/-- No kernel of a translation is lost in the table. -/
theorem translate_eq_kernelTable (registry : Registry) (dialect : Dialect) :
    graph.translate registry store dialect =
      graph.kernelTable (fun id => registry.translate (store.view id) dialect) store := by
  rw [kernelTable_eq distinct sorted isOrder, translate, sorted, Outcome.ok_bind]
  rfl

end Ordered

end Graph

end OpGraph
