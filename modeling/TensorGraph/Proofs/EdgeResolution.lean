import TensorGraph.Proofs.FunctionDrawings
import TensorGraph.Proofs.Redirections

set_option autoImplicit false

namespace TensorGraph

-- The name that a producer itself has for one of its results.
def Scope.NamesResult (scope : Scope) (edge : Edge) (pin : String) : Prop :=
  match edge.producer with
  | .var id => edge.slot = 0 ∧ (∃ v ∈ scope.storage, v.id = id) ∧ pin = Variable.outputName
  | .node id => ∃ node ∈ scope.function.nodes, node.id = id ∧ edge.slot < node.results.length ∧
      pin = node.operator.outputName edge.slot

-- What the other readers of an edge make of it: layers, verification, drawings and copies of the
-- function.
structure Network.Resolves (network : Network) (function : Function) (edge : Edge)
    (type : TensorType) : Prop where
  operand : ∀ label, (network.scopeOf function).operand label edge = .ok type
  verified : (network.scopeOf function).slotType? edge = some type
  pin : (network.scopeOf function).NamesResult edge ((network.scopeOf function).outputPin edge)
  drawn : ∃ inputs text outputs style,
    (network.scopeOf function).vertex? edge.producer =
      some (.record edge.producer inputs text outputs style) ∧
      outputs[edge.slot]? = some ((network.scopeOf function).outputPin edge)
  copied : ∀ node i, ∃ image,
    (NodeMapping.numberedFrom network.nextNode function.nodes).edge network.storage node i
      edge = .ok image ∧
      (NodeMapping.numberedFrom network.nextNode function.nodes).Sends edge image

section Led

variable (scope : Scope) (limit : Nat) (kept : VariablesKept scope.storage scope.types limit)
  (indexed : scope.function.Indexed) (edge : Edge) (leads : scope.Leads edge)

include indexed leads

theorem led_pin_named : scope.NamesResult edge (scope.outputPin edge) := by
  obtain ⟨producer, slot⟩ := edge
  cases producer with
  | var id => exact ⟨leads.1, leads.2, rfl⟩
  | node id =>
      obtain ⟨node, inside, rfl, below⟩ := leads
      have found := (node_iff _ indexed node.id node).mpr ⟨inside, rfl⟩
      exact ⟨node, inside, rfl, below, by simp only [Scope.outputPin, found]⟩

include kept

theorem led_pin_drawn : ∃ inputs text outputs style,
    scope.vertex? edge.producer = some (.record edge.producer inputs text outputs style) ∧
      outputs[edge.slot]? = some (scope.outputPin edge) := by
  obtain ⟨producer, slot⟩ := edge
  cases producer with
  | var id =>
      obtain ⟨first, v, stored, rfl⟩ := leads
      obtain rfl : slot = 0 := first
      have found := (variable_iff _ _ _ kept v.id v).mpr ⟨stored, rfl⟩
      exact ⟨_, _, _, _, congrArg (Option.map _) found, rfl⟩
  | node id =>
      obtain ⟨node, inside, rfl, below⟩ := leads
      have found := (node_iff _ indexed node.id node).mpr ⟨inside, rfl⟩
      have listed : slot < node.results.length := below
      refine ⟨_, _, _, _, congrArg (Option.map _) found, ?_⟩
      simp only [Scope.outputPin, found, List.getElem?_map, List.getElem?_range listed, Option.map_some]

end Led

section Represented

variable (network : Network) (kept : network.Represented) (function : Function)
  (member : function ∈ network.functions) (edge : Edge)

include kept member

-- Handles that are stored are valid, so whatever an edge leads to has a type.
theorem typed_iff_leads : (∃ type, (network.scopeOf function).typeOf edge = .ok type) ↔
    (network.scopeOf function).Leads edge := by
  have indexed := kept.functions.indexed function member
  have typed := fun type => (type_of_iff (network.scopeOf function) edge type).trans
    (yields_iff (network.scopeOf function) network.nextVariable kept.storage indexed edge type)
  simp only [typed]
  constructor
  · exact fun ⟨_, leads, _⟩ => leads
  · intro leads
    obtain ⟨type, known⟩ :=
      led_edge_typed (network.scopeOf function) network.nextVariable kept.storage indexed
      (kept.functions.typed function member) edge leads
    exact ⟨type, leads, (carries_iff _ network.nextVariable kept.storage indexed edge type).mpr known⟩

theorem typed_edge_resolves (type : TensorType)
    (typed : (network.scopeOf function).typeOf edge = .ok type) :
    network.Resolves function edge type := by
  have indexed := kept.functions.indexed function member
  have yields := (type_of_iff _ edge type).mp typed
  obtain ⟨leads, carries⟩ := (yields_iff _ network.nextVariable kept.storage indexed edge type).mp yields
  have holds := (typed_edge _ network.nextVariable kept.storage indexed edge type typed).2
  have covered := (covers_iff network kept network.nextNode function member edge.producer).mpr holds
  refine ⟨fun label => (operand_iff _ label edge type).mpr yields, ?_, ?_, ?_, fun node i => ?_⟩
  · exact (carries_iff _ network.nextVariable kept.storage indexed edge type).mp carries
  · exact led_pin_named _ indexed edge leads
  · exact led_pin_drawn _ network.nextVariable kept.storage indexed edge leads
  · obtain ⟨image, copied⟩ := (copied_edge_exists_iff _ network.storage node i edge).mpr covered
    exact ⟨image, copied, ((copied_edge_iff _ _ node i edge image).mp copied).2⟩

theorem untyped_edge_unresolved (untyped : ∀ type, (network.scopeOf function).typeOf edge ≠ .ok type) :
    (network.scopeOf function).handle? edge = none := by
  refine Option.eq_none_iff_forall_ne_some.mpr fun handle resolved => ?_
  obtain ⟨type, known⟩ := resolved_handle_known network kept function member edge handle resolved
  exact untyped type ((type_of_iff _ edge type).mpr ⟨handle, resolved, known⟩)

end Represented

-- An edge has a type exactly if it leaves its producer by a slot that verification counts, and then all
-- readers of edges agree on it. An edge without a type is refused for its producer, and never for a
-- handle that the pool does not know.
theorem edges_are_resolved_alike (settings : Settings) (actions : List Action) (id : FunctionId)
    (function : Function) (found : (Network.run settings .empty actions).function? id = some function)
    (edge : Edge) :
    let network := Network.run settings .empty actions
    let scope := network.scopeOf function
    ((∃ type, scope.typeOf edge = .ok type) ↔
        ∃ available, scope.resultCount? edge.producer = some available ∧ edge.slot < available) ∧
      (∀ type, scope.typeOf edge = .ok type → network.Resolves function edge type) ∧
      ((∀ type, scope.typeOf edge ≠ .ok type) →
        scope.typeOf edge = .error (.nodeNotFound edge.producer) ∧
        ∀ label, scope.operand label edge = .error (.unknownOperand label edge)) := by
  intro network scope
  have kept : network.Represented := run_represented settings .empty actions empty_represented
  have member : function ∈ network.functions := List.mem_of_getElem? found
  have indexed := kept.functions.indexed function member
  refine ⟨?_, typed_edge_resolves network kept function member edge, fun untyped => ?_⟩
  · rw [← leads_iff scope network.nextVariable kept.storage indexed]
    exact typed_iff_leads network kept function member edge
  · have unresolved : scope.handle? edge = none :=
      untyped_edge_unresolved network kept function member edge untyped
    refine ⟨?_, fun label => ?_⟩
    · rw [Scope.typeOf, unresolved]
    · rw [Scope.operand, unresolved, Option.bind_none]

-- The second result of a node has a name of its own and is read under it. There is no third one.
theorem second_result_is_resolved :
    let network := Network.run {} .empty [.createFunction "f",
      .createVariable ⟨.plain .float [4], "x", .external, .none⟩,
      .edit ⟨0⟩ (.addLayer "best" (.topK (.ofVariable ⟨0⟩) 2))]
    ∃ function, network.function? ⟨0⟩ = some function ∧
      network.Resolves function ⟨.node ⟨0⟩, 1⟩ (.plain .index [2]) ∧
      (network.scopeOf function).outputPin ⟨.node ⟨0⟩, 1⟩ = "Indices" ∧
      (network.scopeOf function).typeOf ⟨.node ⟨0⟩, 2⟩ = .error (.nodeNotFound (.node ⟨0⟩)) := by
  intro network
  let best : Node := ⟨⟨0⟩, "best__1", .topK 2, [.ofVariable ⟨0⟩], [⟨1⟩, ⟨2⟩], none⟩
  let home : Function := { id := ⟨0⟩, name := "f", nodes := [best], positions := [(⟨0⟩, 0)] }
  have found : network.function? ⟨0⟩ = some home := by decide +kernel
  have typed : (network.scopeOf home).typeOf ⟨.node ⟨0⟩, 1⟩ = .ok (.plain .index [2]) := by
    decide +kernel
  obtain ⟨_, resolves, _⟩ := edges_are_resolved_alike {} _ ⟨0⟩ home found ⟨.node ⟨0⟩, 1⟩
  obtain ⟨counted, _, refused⟩ := edges_are_resolved_alike {} _ ⟨0⟩ home found ⟨.node ⟨0⟩, 2⟩
  have beyond : ∀ type, (network.scopeOf home).typeOf ⟨.node ⟨0⟩, 2⟩ ≠ .ok type := by
    intro type third
    obtain ⟨available, count, below⟩ := counted.mp ⟨type, third⟩
    have two : (network.scopeOf home).resultCount? (.node ⟨0⟩) = some 2 := by decide +kernel
    obtain rfl := Option.some.inj (two.symm.trans count)
    exact Nat.lt_irrefl 2 below
  exact ⟨home, found, resolves _ typed, by decide +kernel, (refused beyond).1⟩

end TensorGraph
