import OpGraph.Graph.Store
import OpGraph.Proofs.Outcome

/-!
# Stores with types set

Setting the types of a node changes nothing else: names, operators and producers stay, and so
do the types of all other nodes.
-/
namespace OpGraph.Store

variable (store : Store) (id other : Nat) (types : List TensorType)

theorem find?_setTypes :
    (store.setTypes id types).find? other =
      if other = id then (store.find? id).map fun node => { node with types := some types }
      else store.find? other := by
  simp only [find?, setTypes, Array.getElem?_modify]
  by_cases same : id = other
  · subst same
    cases store.slots[id]? <;> simp
  · simp [same, Ne.symm same]

@[simp] theorem isSome_find?_setTypes :
    ((store.setTypes id types).find? other).isSome = (store.find? other).isSome := by
  rw [find?_setTypes]
  split
  next same => rw [Option.isSome_map, same]
  · rfl

theorem node_setTypes_of_ne (different : other ≠ id) :
    (store.setTypes id types).node other = store.node other := by
  rw [node, find?_setTypes, if_neg different, node]

theorem find?_setTypes_self (node : Node) (found : store.find? id = some node) :
    (store.setTypes id types).find? id = some { node with types := some types } := by
  rw [find?_setTypes, if_pos rfl, found, Option.map_some]

theorem node_of_find? (node : Node) (found : store.find? id = some node) :
    store.node id = node := by
  rw [Store.node, found, Option.getD_some]

@[simp] theorem outputTypes_eq_ok :
    store.outputTypes id = .ok types ↔ (store.node id).types = some types := by
  unfold outputTypes
  split <;> simp_all

/-- Nothing but the types of a node depends on its types. -/
private theorem node_setTypes :
    (store.setTypes id types).node other =
      { store.node other with types := ((store.setTypes id types).node other).types } := by
  by_cases same : other = id
  · subst same
    cases found : store.find? other with
    | none => simp [node, find?_setTypes, found]
    | some node => simp [Store.node, find?_setTypes, found]
  · rw [node_setTypes_of_ne store id other types same]

@[simp] theorem name_setTypes : (store.setTypes id types).name other = store.name other := by
  rw [name, node_setTypes, name]

@[simp] theorem operator_setTypes :
    (store.setTypes id types).operator other = store.operator other := by
  rw [operator, node_setTypes, operator]

@[simp] theorem producers_setTypes :
    (store.setTypes id types).producers other = store.producers other := by
  rw [producers, node_setTypes, producers]

@[simp] theorem isParameter_setTypes :
    (store.setTypes id types).isParameter other = store.isParameter other := by
  rw [isParameter, operator_setTypes, isParameter]

/-- The types of a node whose types were not set. -/
theorem outputType_setTypes_of_ne (different : other ≠ id) :
    (store.setTypes id types).outputType other = store.outputType other := by
  simp only [outputType, outputTypes, name_setTypes,
    node_setTypes_of_ne store id other types different]

theorem isResolved_setTypes (resolved : store.isResolved other = true) :
    (store.setTypes id types).isResolved other = true := by
  by_cases same : other = id
  · subst same
    cases found : store.find? other with
    | none =>
      rw [isResolved, node, found] at resolved
      cases resolved
    | some node => simp [isResolved, Store.node, find?_setTypes, found]
  · rwa [isResolved, node_setTypes_of_ne store id other types same, ← isResolved]

/-! ### New nodes -/

section Creation

variable {store grown : Store} {id : Nat} {node : Node}

/-- All nodes of one store are in another as they are. -/
def Extends (store grown : Store) : Prop :=
  ∀ id node, store.find? id = some node → grown.find? id = some node

theorem Extends.refl (store : Store) : store.Extends store :=
  fun _ _ found => found

theorem Extends.trans {final : Store} (first : store.Extends grown)
    (second : grown.Extends final) : store.Extends final :=
  fun id node found => second id node (first id node found)

theorem lt_size_of_find? (found : store.find? id = some node) : id < store.slots.size := by
  have stored : store.slots[id]? = some (some node) := Option.join_eq_some_iff.mp found
  obtain ⟨below, -⟩ := Array.getElem?_eq_some_iff.mp stored
  exact below

variable (store) (operator : Operator) (producers : List Nat) (name : Option String)

/-- What a construction leaves in the store: what was there, and the new node unless it was
refused. -/
theorem find?_create (other : Nat) :
    (store.create operator producers name).1.find? other =
      if other = store.slots.size then
        if operator.isParameter && !producers.isEmpty then none
        else some ⟨name.getD (defaultName other), operator, producers, initialTypes operator⟩
      else store.find? other := by
  unfold create
  by_cases refused : (operator.isParameter && !producers.isEmpty) = true
  · simp only [refused, if_true, find?, Array.getElem?_push]
    split <;> rfl
  · simp only [refused, Bool.false_eq_true, if_false, find?, Array.getElem?_push]
    split
    next new => rw [new]; rfl
    · rfl

theorem extends_create : store.Extends (store.create operator producers name).1 := by
  intro other node found
  rw [find?_create, if_neg (Nat.ne_of_lt (lt_size_of_find? found))]
  exact found

variable {store} in
/-- A construction that is not refused adds one node, under the next number. -/
theorem create_eq_ok {operator : Operator} {producers : List Nat} {name : Option String}
    (created : store.create operator producers name = (grown, .ok id)) :
    grown.find? id = some ⟨name.getD (defaultName id), operator, producers,
        initialTypes operator⟩ ∧
      id = store.slots.size ∧ store.Extends grown := by
  have stored : (store.create operator producers name).1 = grown := by rw [created]
  have grows := store.extends_create operator producers name
  have found := store.find?_create operator producers name id
  rw [stored] at grows found
  unfold create at created
  dsimp only at created
  split at created
  · cases created
  next accepted =>
    cases created
    rw [if_pos rfl, if_neg accepted] at found
    exact ⟨found, rfl, grows⟩

end Creation

end OpGraph.Store
