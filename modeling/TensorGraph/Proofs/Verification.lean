import Mathlib.Data.List.Forall2
import TensorGraph.Proofs.Cycles
import TensorGraph.Proofs.Representation

set_option autoImplicit false

namespace TensorGraph

def Operator.TakesInputs (operator : Operator) (count : Nat) : Prop :=
  match operator.inputCount? with
  | some expected => count = expected
  | none => 1 ≤ count

namespace Scope

def Leads (scope : Scope) (edge : Edge) : Prop :=
  match edge.producer with
  | .var id => edge.slot = 0 ∧ ∃ v ∈ scope.storage, v.id = id
  | .node id => ∃ node ∈ scope.function.nodes, node.id = id ∧ edge.slot < node.results.length

def Carries (scope : Scope) (edge : Edge) (type : TensorType) : Prop :=
  match edge.producer with
  | .var id => ∃ v ∈ scope.storage, v.id = id ∧ scope.types.get? v.type = some type
  | .node id => ∃ node ∈ scope.function.nodes, node.id = id ∧
      ∃ handle, node.results[edge.slot]? = some handle ∧ scope.types.get? handle = some type

structure Fits (scope : Scope) (node : Node) : Prop where
  inputs : node.operator.TakesInputs node.inputs.length
  results : node.results.length = node.operator.resultCount
  accepted : ∃ operands types, List.Forall₂ scope.Carries node.inputs operands ∧
    List.Forall₂ (fun handle type => scope.types.get? handle = some type) node.results types ∧
    node.operator.check operands types = .ok ()

-- What verification decides, said without the order in which it looks.
structure WellFormed (scope : Scope) : Prop where
  names : (scope.storage.values.map Variable.name ++ scope.function.nodes.map Node.name).Nodup
  edges : ∀ node ∈ scope.function.nodes, ∀ edge ∈ node.reads, scope.Leads edge
  nodes : ∀ node ∈ scope.function.nodes, scope.Fits node
  order : scope.function.Ordered

end Scope

-- No operator accepts lists of other lengths than those it names; the last branch of the check catches
-- them all.
theorem check_counts (operator : Operator) (operands results : List TensorType)
    (checked : operator.check operands results = .ok ()) :
    operator.TakesInputs operands.length ∧ results.length = operator.resultCount := by
  unfold Operator.check at checked
  split at checked
  all_goals first
    | exact ⟨by simp [Operator.TakesInputs, Operator.inputCount?, Operator.inputPins], rfl⟩
    | cases checked

theorem unseen_iff (seen : List (String × Producer)) (name : String) :
    seen.lookup name = none ↔ name ∉ seen.map Prod.fst := by
  rw [List.lookup_eq_none_iff, List.mem_map]
  constructor
  · rintro apart ⟨entry, member, rfl⟩
    simpa using apart entry member
  · intro absent entry member
    exact bne_iff_ne.mpr fun same => absent ⟨entry, member, same.symm⟩

theorem no_conflict_iff (seen entries : List (String × Producer)) : nameConflict? seen entries = none ↔
    (entries.map Prod.fst).Nodup ∧ ∀ name ∈ entries.map Prod.fst, name ∉ seen.map Prod.fst := by
  induction entries generalizing seen with
  | nil => simp [nameConflict?]
  | cons entry rest ih =>
      rw [nameConflict?, List.map_cons, List.nodup_cons, List.forall_mem_cons]
      cases repeated : seen.lookup entry.1 with
      | some previous =>
          have listed : entry.1 ∈ seen.map Prod.fst := by
            by_contra absent
            rw [(unseen_iff seen entry.1).mpr absent] at repeated
            cases repeated
          exact iff_of_false (by simp) fun right => right.2.1 listed
      | none =>
          have fresh := (unseen_iff seen entry.1).mp repeated
          simp only [ih, List.map_cons, List.mem_cons, not_or]
          constructor
          · rintro ⟨distinct, apart⟩
            exact ⟨⟨fun again => (apart entry.1 again).1 rfl, distinct⟩, fresh,
              fun name member => (apart name member).2⟩
          · rintro ⟨⟨once, distinct⟩, _, apart⟩
            exact ⟨distinct, fun name member => ⟨fun same => once (same ▸ member), apart name member⟩⟩

section Passes

variable (scope : Scope)

theorem check_names_iff : scope.checkNames = .ok () ↔
    (scope.storage.values.map Variable.name ++ scope.function.nodes.map Node.name).Nodup := by
  have listed : scope.names.map Prod.fst = scope.storage.values.map Variable.name ++
      scope.function.nodes.map Node.name := by
    simp [Scope.names, Function.comp_def]
  rw [← listed, Scope.checkNames]
  have none_iff := no_conflict_iff [] scope.names
  cases conflict : nameConflict? [] scope.names with
  | none => simpa [conflict] using none_iff
  | some found => simpa [conflict] using none_iff

section Conflicts

variable (name current previous : String)

theorem edges_name_no_conflict (node : Node) :
    scope.checkEdges node ≠ .error (.nameConflict name current previous) := by
  intro failed
  rcases then_error _ _ _ failed with inputs | predicate
  · obtain ⟨input, _, found⟩ := check_all_error _ _ _ inputs
    unfold Scope.checkInput at found
    split at found
    · cases found
    · split at found
      · cases found
      · cases found
  · unfold Scope.checkPredicate at predicate
    split at predicate
    · cases predicate
    · split at predicate
      · cases predicate
      · split at predicate
        · cases predicate
        · cases predicate

theorem node_names_no_conflict (node : Node) :
    scope.checkNode node ≠ .error (.nameConflict name current previous) := by
  unfold Scope.checkNode
  cases scope.nodeFault node with
  | ok value => nofun
  | error fault => nofun

-- Only the first pass reports names.
theorem conflict_of_names (failed : scope.verify = .error (.nameConflict name current previous)) :
    scope.checkNames = .error (.nameConflict name current previous) := by
  rcases then_error _ _ _ failed with names | later
  · exact names
  · rcases then_error _ _ _ later with edges | later
    · obtain ⟨node, _, found⟩ := check_all_error _ _ _ edges
      exact absurd found (edges_name_no_conflict scope name current previous node)
    · rcases then_error _ _ _ later with nodes | cycles
      · obtain ⟨node, _, found⟩ := check_all_error _ _ _ nodes
        exact absurd found (node_names_no_conflict scope name current previous node)
      · unfold Scope.checkAcyclic at cycles
        split at cycles
        · cases cycles
        · cases cycles

end Conflicts

variable (limit : Nat) (kept : VariablesKept scope.storage scope.types limit)
  (indexed : scope.function.Indexed)

include kept indexed

theorem leads_iff (edge : Edge) :
    scope.Leads edge ↔ ∃ available, scope.resultCount? edge.producer = some available ∧
      edge.slot < available := by
  obtain ⟨producer, slot⟩ := edge
  cases producer with
  | var id => simp [Scope.Leads, Scope.resultCount?, variable_iff _ _ _ kept, and_comm]
  | node id => simp [Scope.Leads, Scope.resultCount?, node_iff _ indexed, and_assoc]

theorem carries_iff (edge : Edge) (type : TensorType) :
    scope.Carries edge type ↔ scope.slotType? edge = some type := by
  obtain ⟨producer, slot⟩ := edge
  cases producer with
  | var id => simp [Scope.Carries, Scope.slotType?, Option.bind_eq_some_iff,
      variable_iff _ _ _ kept, and_assoc]
  | node id => simp [Scope.Carries, Scope.slotType?, Option.bind_eq_some_iff,
      node_iff _ indexed, and_assoc]

theorem check_input_iff (node : Node) (i : Nat) (edge : Edge) :
    scope.checkInput node i edge = .ok () ↔ scope.Leads edge := by
  rw [leads_iff scope limit kept indexed, Scope.checkInput]
  cases scope.resultCount? edge.producer with
  | none => simp
  | some available => by_cases inside : edge.slot < available <;> simp [inside]

theorem check_predicate_iff (node : Node) :
    scope.checkPredicate node = .ok () ↔ ∀ edge ∈ node.predicate, scope.Leads edge := by
  rw [Scope.checkPredicate]
  cases node.predicate with
  | none => simp
  | some edge =>
      simp only [Option.mem_some_iff, forall_eq']
      rw [leads_iff scope limit kept indexed]
      cases scope.resultCount? edge.producer with
      | none => simp
      | some available => by_cases inside : edge.slot < available <;> simp [inside]

theorem check_edges_iff (node : Node) : scope.checkEdges node = .ok () ↔
    ∀ edge ∈ node.reads, scope.Leads edge := by
  have inputs : (∀ input ∈ node.inputs.zipIdx, scope.checkInput node input.2 input.1 = .ok ()) ↔
      ∀ edge ∈ node.inputs, scope.Leads edge := by
    simp only [check_input_iff scope limit kept indexed]
    rw [← List.forall_mem_map (f := Prod.fst) (P := fun edge => scope.Leads edge), List.zipIdx_map_fst]
  rw [Scope.checkEdges, then_ok_iff, check_all_ok_iff, inputs,
    check_predicate_iff scope limit kept indexed]
  simp [Node.reads, or_imp, forall_and]

omit kept indexed

theorem headed_types_iff {ε : Type} (type : TensorType) (rest : Except ε (List TensorType))
    (types : List TensorType) (listed : List TensorType → Prop)
    (restListed : ∀ others, rest = .ok others ↔ listed others) :
    rest.map (type :: ·) = .ok types ↔ ∃ first others, some type = some first ∧ listed others ∧
      types = first :: others := by
  rw [map_ok_iff]
  constructor
  · rintro ⟨others, later, rfl⟩
    exact ⟨type, others, rfl, (restListed others).mp later, rfl⟩
  · rintro ⟨_, others, same, later, rfl⟩
    cases same
    exact ⟨others, (restListed others).mpr later, rfl⟩

include kept indexed

theorem input_types_iff (edges : List Edge) (types : List TensorType) :
    scope.inputTypes edges = .ok types ↔ List.Forall₂ scope.Carries edges types := by
  induction edges generalizing types with
  | nil => simp [Scope.inputTypes, eq_comm]
  | cons edge rest ih =>
      rw [List.forall₂_cons_left_iff, Scope.inputTypes]
      simp only [carries_iff scope limit kept indexed]
      cases scope.slotType? edge with
      | none => simp
      | some type => exact headed_types_iff type _ types _ ih

omit kept indexed

theorem result_types_iff (handles : List TypeHandle) (types : List TensorType) :
    scope.resultTypes handles = .ok types ↔
    List.Forall₂ (fun handle type => scope.types.get? handle = some type) handles types := by
  induction handles generalizing types with
  | nil => simp [Scope.resultTypes, eq_comm]
  | cons handle rest ih =>
      rw [List.forall₂_cons_left_iff, Scope.resultTypes]
      cases scope.types.get? handle with
      | none => simp
      | some type => exact headed_types_iff type _ types _ ih

include kept indexed

theorem check_node_iff (node : Node) : scope.checkNode node = .ok () ↔ scope.Fits node := by
  simp only [Scope.checkNode, Scope.nodeFault, map_error_ok_iff, bind_ok_iff,
    input_types_iff scope limit kept indexed, result_types_iff scope]
  constructor
  · rintro ⟨operands, carried, results, known, checked⟩
    obtain ⟨taken, produced⟩ := check_counts node.operator operands results checked
    rw [← carried.length_eq] at taken
    rw [← known.length_eq] at produced
    exact ⟨taken, produced, operands, results, carried, known, checked⟩
  · intro fits
    obtain ⟨operands, results, carried, known, checked⟩ := fits.accepted
    exact ⟨operands, carried, results, known, checked⟩

omit kept in
theorem check_acyclic_iff : scope.checkAcyclic = .ok () ↔ scope.function.Ordered := by
  rw [← acyclic_iff scope.function indexed, Scope.checkAcyclic]
  cases scope.function.cyclicNode? with
  | none => simp
  | some id => simp

theorem verify_scope_iff : scope.verify = .ok () ↔ scope.WellFormed := by
  rw [Scope.verify, then_ok_iff, then_ok_iff, then_ok_iff, check_all_ok_iff, check_all_ok_iff,
    check_names_iff, check_acyclic_iff scope indexed]
  simp only [check_edges_iff scope limit kept indexed, check_node_iff scope limit kept indexed]
  exact ⟨fun ⟨names, edges, nodes, order⟩ => ⟨names, edges, nodes, order⟩,
    fun sound => ⟨sound.names, sound.edges, sound.nodes, sound.order⟩⟩

end Passes

theorem verify_one_iff (settings : Settings) (network : Network) (function : Function) :
    (network.verifyOne settings function).1 = .ok () ↔ (network.scopeOf function).verify = .ok () := by
  unfold Network.verifyOne
  cases (network.scopeOf function).verify with
  | ok passed => simp
  | error found => simp

theorem verify_each_iff (settings : Settings) (network : Network) (functions : List Function) :
    (network.verifyEach settings functions).1 = .ok () ↔
      ∀ function ∈ functions, (network.scopeOf function).verify = .ok () := by
  induction functions with
  | nil => simp [Network.verifyEach]
  | cons function rest ih =>
      rw [List.forall_mem_cons, ← ih, Network.verifyEach, Network.verifyOne]
      cases (network.scopeOf function).verify with
      | ok passed => simp
      | error found => simp

-- The first part is about any identifier: one that names no function does not verify.
theorem verification_decides_well_formedness (settings : Settings) (actions : List Action) :
    let network := Network.run settings .empty actions
    (∀ id, (network.verifyFunction settings id).1 = .ok () ↔
      ∃ function, network.function? id = some function ∧ (network.scopeOf function).WellFormed) ∧
    ((network.verify settings).1 = .ok () ↔
      ∀ function ∈ network.functions, (network.scopeOf function).WellFormed) := by
  intro network
  have kept : network.Represented := run_represented settings .empty actions empty_represented
  have decides : ∀ function ∈ network.functions,
      ((network.scopeOf function).verify = .ok () ↔ (network.scopeOf function).WellFormed) := by
    intro function member
    exact verify_scope_iff (network.scopeOf function) network.nextVariable kept.storage
      (kept.functions.indexed function member)
  constructor
  · intro id
    unfold Network.verifyFunction
    cases found : network.function? id with
    | none => simp
    | some function =>
        simp only [verify_one_iff, decides function (List.mem_of_getElem? found), Option.some.injEq,
          exists_eq_left']
  · rw [Network.verify, verify_each_iff]
    exact forall₂_congr decides

end TensorGraph
