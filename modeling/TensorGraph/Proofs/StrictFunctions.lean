import TensorGraph.Graph.Verify
import TensorGraph.Network.Overview
import TensorGraph.Proofs.Cloning
import TensorGraph.Proofs.StrictOperators

set_option autoImplicit false

namespace TensorGraph

namespace Strict

variable {α β ε : Type}

theorem all_steps (step : α → Option β) (taken : α → β) (items : List α)
    (each : ∀ item ∈ items, step item = some (taken item)) :
      items.mapM step = some (items.map taken) := by
  induction items with
  | nil => rfl
  | cons item rest ih =>
      obtain ⟨head, later⟩ := List.forall_mem_cons.mp each
      rw [List.mapM_cons, head, ih later]
      rfl

-- A look-up by number reads the place that the table gives without a test.
def node (function : Function) (id : NodeId) : Option (Option Node) :=
  match function.positions.lookup id with
  | none => some none
  | some position => (function.nodes[position]?).map some

-- A function whose table gives no place outside of its list. Each look-up of an operation on it relies
-- on that, so it is asked once, when the operation gets hold of the function.
def opened (function : Function) : Option Function :=
  if function.positions.all fun entry => decide (entry.2 < function.nodes.length) then some function
  else none

theorem opened_looks_up (function other : Function) (opens : opened function = some other)
    (id : NodeId) :
    other = function ∧ node function id = some (function.node? id) := by
  unfold opened at opens
  split at opens
  · rename_i inside
    refine ⟨(Option.some.inj opens).symm, ?_⟩
    unfold node Function.node?
    cases stored : function.positions.lookup id with
    | none => rfl
    | some position =>
        obtain ⟨before, after, entries, _⟩ := List.lookup_eq_some_iff.mp stored
        have entry : (id, position) ∈ function.positions := entries ▸ List.mem_append_cons_self
        have place := of_decide_eq_true (List.all_eq_true.mp inside (id, position) entry)
        simp only [List.getElem?_eq_getElem place]
        rfl
  · cases opens

theorem opened_refines (function : Function) (indexed : function.Indexed) :
    opened function = some function := by
  refine if_pos (List.all_eq_true.mpr fun entry member => decide_eq_true ?_)
  obtain ⟨node, access, _⟩ := Option.map_eq_some_iff.mp ((indexed.entries entry.1 entry.2).mp member)
  exact (List.getElem?_eq_some_iff.mp access).1

theorem node_refines (function : Function) (indexed : function.Indexed) (id : NodeId) :
    node function id = some (function.node? id) :=
  (opened_looks_up function function (opened_refines function indexed) id).2

def remove? (list : List α) (i : Nat) : Option (List α) :=
  if i < list.length then some (list.eraseIdx i) else none

-- A place behind the gap is counted down.
def closeUp (gap position : Nat) : Option Nat :=
  if gap < position then (if 0 < position then some (position - 1) else none) else some position

theorem close_up_refines (gap position : Nat) :
    closeUp gap position = some (Function.closedUp gap position) := by
  unfold closeUp Function.closedUp
  by_cases behind : gap < position
  · rw [if_pos behind, if_pos behind, if_pos (Nat.zero_lt_of_lt behind)]
  · rw [if_neg behind, if_neg behind]

def erase (function : Function) (id : NodeId) : Option Function :=
  match function.positions.lookup id with
  | none => some function
  | some gap => do
      let nodes ← remove? function.nodes gap
      let positions ← (function.positions.filter fun entry => entry.1 != id).mapM fun entry =>
        (closeUp gap entry.2).map fun place => (entry.1, place)
      some { function with nodes := nodes, positions := positions }

theorem erase_refines (function : Function) (indexed : function.Indexed) (id : NodeId) :
    erase function id = some (function.erase id) := by
  unfold erase Function.erase
  cases stored : function.positions.lookup id with
  | none => rfl
  | some gap =>
      obtain ⟨erased, access, _⟩ := (position_iff function indexed id gap).mp stored
      have removed : remove? function.nodes gap = some (function.nodes.eraseIdx gap) :=
        if_pos (List.getElem?_eq_some_iff.mp access).1
      have closed := all_steps (fun entry => (closeUp gap entry.2).map fun place => (entry.1, place))
        (fun entry => (entry.1, Function.closedUp gap entry.2)) (function.positions.filter
          fun entry => entry.1 != id)
        fun entry _ => by rw [close_up_refines]; rfl
      dsimp only
      rw [removed, Option.bind_eq_bind, Option.bind_some, closed]
      rfl

-- Copies nodes under the numbers that the mapping holds for them.
def copyAll (mapping : NodeMapping) (storage : Variables) : List Node → Strict GraphFault (List Node)
  | [] => pure []
  | cloned :: rest => do
      let id ← must (mapping.lookup cloned.id)
      let copy ← tested (mapping.node storage cloned id)
      let copies ← copyAll mapping storage rest
      pure (copy :: copies)

theorem copy_all_refines (mapping : NodeMapping) (storage : Variables) (start : Nat) (nodes : List Node)
    (held : ∀ (i : Nat) (node : Node), nodes[i]? = some node →
      mapping.lookup node.id = some ⟨start + i⟩) :
    copyAll mapping storage nodes = tested (mapping.nodes storage start nodes) := by
  induction nodes generalizing start with
  | nil => rfl
  | cons cloned rest ih =>
      have later := ih (start + 1) fun i node access => by
        rw [Nat.add_assoc, Nat.add_comm 1]
        exact held (i + 1) node access
      rw [copyAll, must_step (held 0 cloned rfl), later]
      simp only [NodeMapping.nodes, tested_then]
      rfl

section Scopes

variable (scope : Scope)

def descriptor : Producer → Option String
  | .var id =>
      match scope.storage.get? id with
      | none => some ""
      | some v => (scope.types.get? v.type).map fun _ => v.descriptor scope.types
  | .node id => some (scope.descriptor (.node id))

def checkNames : Strict Violation Unit :=
  match nameConflict? [] scope.names with
  | none => pure ()
  | some (name, current, previous) => do
      let current ← must (descriptor scope current)
      let previous ← must (descriptor scope previous)
      tested (.error (.nameConflict name current previous))

def checkNode (node : Node) : Strict Violation Unit :=
  adapt (.inconsistent node.name) do
    let inputs ← tested (scope.inputTypes node.inputs)
    let results ← tested (scope.resultTypes node.results)
    adapt .operator (countedCheck node.operator inputs results)

def checkEach (check : α → Strict ε Unit) : List α → Strict ε Unit
  | [] => pure ()
  | item :: rest => do
      check item
      checkEach check rest

def verify : Strict Violation Unit := do
  checkNames scope
  tested (checkAll scope.checkEdges scope.function.nodes)
  checkEach (checkNode scope) scope.function.nodes
  tested scope.checkAcyclic

def vertex : Producer → Option (Option Vertex)
  | .var id =>
      match scope.storage.get? id with
      | none => some none
      | some v => (scope.types.get? v.type).map fun _ => some (v.vertex scope.types)
  | .node id => some (scope.vertex? (.node id))

def drawing : Option Drawing := do
  let function ← opened scope.function
  let vertices ← function.depthFirst.mapM (vertex scope)
  some { vertices := vertices.filterMap id, arrows := function.depthFirst.flatMap scope.arrowsInto }

theorem check_each_refines (check : α → Strict ε Unit) (other : α → Except ε Unit) (items : List α)
    (same : ∀ item, check item = tested (other item)) : checkEach check items = tested
    (checkAll other items) := by
  induction items with
  | nil => rfl
  | cons item rest ih =>
      rw [checkEach, check_all_step, same, ih, tested_then]

theorem check_node_refines (node : Node) : checkNode scope node = tested (scope.checkNode node) := by
  unfold checkNode Scope.checkNode Scope.nodeFault
  simp only [counted_check_refines, tested_adapt]
  rw [← tested_adapt]
  simp only [tested_then]

variable (typed : ∀ v ∈ scope.storage, ∃ type, scope.types.get? v.type = some type)

include typed

theorem stored_type (id : VariableId) (v : Variable) (found : scope.storage.get? id = some v) :
    ∃ type, scope.types.get? v.type = some type := typed v (scope.storage.found_stored id v found)

theorem descriptor_refines (producer : Producer) :
    descriptor scope producer = some (scope.descriptor producer) := by
  cases producer with
  | node id => rfl
  | var id =>
      cases found : scope.storage.get? id with
      | none => simp [descriptor, Scope.descriptor, found]
      | some v =>
          obtain ⟨type, known⟩ := stored_type scope typed id v found
          simp [descriptor, Scope.descriptor, found, known]

theorem check_names_refine : checkNames scope = tested scope.checkNames := by
  unfold checkNames Scope.checkNames
  cases nameConflict? [] scope.names with
  | none => rfl
  | some conflict =>
      simp only [descriptor_refines scope typed]
      rfl

theorem verify_refines : verify scope = tested scope.verify := by
  rw [verify, check_names_refine scope typed, check_each_refines _ _ _ (check_node_refines scope)]
  simp only [Scope.verify, tested_then]

theorem vertex_refines (producer : Producer) :
    vertex scope producer = some (scope.vertex? producer) := by
  cases producer with
  | node id => rfl
  | var id =>
      cases found : scope.storage.get? id with
      | none => simp [vertex, Scope.vertex?, found]
      | some v =>
          obtain ⟨type, known⟩ := stored_type scope typed id v found
          simp [vertex, Scope.vertex?, found, known]

theorem drawing_refines (indexed : scope.function.Indexed) : drawing scope = some scope.drawing := by
  have vertices := all_steps (vertex scope) scope.vertex? scope.function.depthFirst
    fun producer _ => vertex_refines scope typed producer
  rw [drawing, opened_refines scope.function indexed, Option.bind_eq_bind, Option.bind_some, vertices,
    Option.bind_eq_bind, Option.bind_some, List.filterMap_map]
  rfl

end Scopes

section Networks

variable (network : Network)

def dump : Option String := do
  let lines ← network.storage.values.mapM fun v => (network.types.get? v.type).map fun _ =>
    listingLine 2 (v.listed network.types)
  some (listingLine 0 "module \x7b" ++ listingLine 1 "variables:" ++ String.join lines ++
    listingLine 1 "functions:" ++
    String.join (network.functions.map fun function => listingLine 2 function.listed) ++
      listingLine 0 "\x7d")

def overview : Option Drawing := do
  let vertices ← network.storage.values.mapM fun v => (network.types.get? v.type).map fun _ =>
    v.vertex network.types
  some {
    vertices := vertices ++ network.functions.map Function.box
    arrows := network.functions.flatMap network.usageArrows }

variable (typed : ∀ v ∈ network.storage, ∃ type, network.types.get? v.type = some type)

include typed

theorem each_variable (read : Variable → α) :
    network.storage.values.mapM (fun v => (network.types.get? v.type).map fun _ => read v) =
      some (network.storage.values.map read) := by
  refine all_steps _ read _ fun v member => ?_
  obtain ⟨type, known⟩ := typed v member
  rw [known]
  rfl

theorem dump_refines : dump network = some network.dump := by
  rw [dump, each_variable network typed]
  rfl

theorem overview_refines : overview network = some network.drawing := by
  rw [overview, each_variable network typed]
  rfl

end Networks

end Strict

end TensorGraph
