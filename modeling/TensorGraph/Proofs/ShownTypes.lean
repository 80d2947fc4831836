import TensorGraph.Proofs.Additions

set_option autoImplicit false

namespace TensorGraph

-- The type that a function gives an edge.
def Network.Shows (network : Network) (id : FunctionId) (edge : Edge) (type : TensorType) : Prop :=
  ∃ function, network.function? id = some function ∧ (network.scopeOf function).typeOf edge = .ok type

-- What a layer that has added its node changes of what its function shows.
structure Network.Reveals (network : Network) (id : FunctionId) (draft : Draft) (made : NodeId)
    (next : Network) : Prop where
  number : made = ⟨network.nextNode⟩
  later : next.nextNode = network.nextNode + 1
  stored : next.nextVariable = network.nextVariable + draft.parameters.length
  results : ∀ slot type, next.Shows id ⟨.node made, slot⟩ type ↔ draft.results[slot]? = some type
  older : ∀ edge, network.Issued edge.producer → ∀ type, next.Shows id edge type ↔
    network.Shows id edge type

theorem shows_iff (network : Network) (id : FunctionId) (function : Function)
    (found : network.function? id = some function)
    (edge : Edge) (type : TensorType) : network.Shows id edge type ↔
      (network.scopeOf function).Yields edge type := by
  rw [Scope.Yields, ← type_of_iff]
  constructor
  · rintro ⟨other, again, typed⟩
    obtain rfl := Option.some.inj (found.symm.trans again)
    exact typed
  · exact fun typed => ⟨function, found, typed⟩

theorem shown_type_unique (network : Network) (id : FunctionId) (edge : Edge) (type other : TensorType)
    (shown : network.Shows id edge type) (again : network.Shows id edge other) : type = other := by
  obtain ⟨function, found, typed⟩ := shown
  have yields := (shows_iff network id function found edge other).mp again
  exact yields_unique _ ((type_of_iff _ edge type).mp typed) yields

theorem shown_edge_issued (network : Network) (kept : network.Represented) (id : FunctionId)
    (edge : Edge) (type : TensorType)
    (shown : network.Shows id edge type) : network.Issued edge.producer := by
  obtain ⟨function, found, typed⟩ := shown
  obtain ⟨handle, resolved, _⟩ := (type_of_iff _ edge type).mp typed
  exact resolved_issued network kept function (List.mem_of_getElem? found) edge handle resolved

-- A layer that is no conversion is accepted as soon as it can be drafted.
theorem layer_added_iff (network : Network) (kept : network.Represented) (id : FunctionId)
    (label : String) (layer : Layer) (spared : ∀ scope result, ¬ layer.Unscaled scope result) :
      (∃ made, (network.addLayer id label layer).1 = .ok made) ↔
      ∃ function draft, network.function? id = some function ∧
        (network.scopeOf function).draft label layer = .ok draft := by
  constructor
  · rintro ⟨made, answered⟩
    obtain ⟨function, draft, found, drafted, _⟩ :=
      added_layer_built network _ id label layer made (Prod.ext answered rfl)
    exact ⟨function, draft, found, drafted⟩
  · rintro ⟨function, draft, found, drafted⟩
    obtain ⟨types, granted⟩ := (draft_sound _ label draft layer drafted).granted.resolve_right
      fun ⟨result, unscaled, _⟩ =>
      spared _ result unscaled
    simp only [Network.addLayer, found, drafted]
    exact granted_draft_built network kept id function found draft types granted

theorem shown_all_iff (network : Network) (id : FunctionId) (function : Function)
    (found : network.function? id = some function) (edges : List Edge) (types : List TensorType) :
    List.Forall₂ (network.Shows id) edges types ↔
      List.Forall₂ (network.scopeOf function).Yields edges types :=
  ⟨List.Forall₂.imp fun edge type => (shows_iff network id function found edge type).mp,
    List.Forall₂.imp fun edge type => (shows_iff network id function found edge type).mpr⟩

-- What a layer asks of the types of its operands, if that is all it asks, decides whether it is
-- accepted.
theorem layer_accepted_iff (network : Network) (kept : network.Represented) (id : FunctionId)
    (label : String) (layer : Layer) (spared : ∀ scope result, ¬ layer.Unscaled scope result)
    (edges : List Edge) (filled : edges ≠ []) (accepts : List TensorType → Prop)
    (drafts : ∀ scope : Scope, (∃ draft, scope.draft label layer = .ok draft) ↔
      ∃ types, List.Forall₂ scope.Yields edges types ∧ accepts types) :
    (∃ made, (network.addLayer id label layer).1 = .ok made) ↔
      ∃ types, List.Forall₂ (network.Shows id) edges types ∧ accepts types := by
  rw [layer_added_iff network kept id label layer spared]
  constructor
  · rintro ⟨function, draft, found, drafted⟩
    obtain ⟨types, typed, accepted⟩ := (drafts _).mp ⟨draft, drafted⟩
    exact ⟨types, (shown_all_iff network id function found edges types).mpr typed, accepted⟩
  · rintro ⟨types, shown, accepted⟩
    obtain ⟨edge, rest, rfl⟩ := List.exists_cons_of_ne_nil filled
    obtain ⟨_, _, ⟨function, found, _⟩, _, _⟩ := List.forall₂_cons_left_iff.mp shown
    have typed := (shown_all_iff network id function found _ types).mp shown
    obtain ⟨draft, drafted⟩ := (drafts _).mpr ⟨types, typed, accepted⟩
    exact ⟨function, draft, found, drafted⟩

section Pushed

variable (function : Function) (indexed : function.Indexed) (node : Node)
  (still : (function.push node).Indexed)

include still

theorem pushed_node_found : (function.push node).node? node.id = some node :=
  (node_iff _ still node.id node).mpr ⟨List.mem_append_right _ (List.mem_singleton_self node), rfl⟩

include indexed

theorem other_node_found (id : NodeId) (apart : node.id ≠ id) :
    (function.push node).node? id = function.node? id := by
  refine Option.ext fun other => ?_
  rw [node_iff _ still, node_iff _ indexed]
  refine and_congr_left fun same => ?_
  have different : other ≠ node := fun equal => apart (equal ▸ same)
  exact List.mem_append.trans (or_iff_left fun listed => different (List.mem_singleton.mp listed))

end Pushed

section Built

variable (network next : Network) (kept : network.Represented) (id : FunctionId) (function : Function)
  (found : network.function? id = some function) (draft : Draft) (node : Node)
  (operands : List TensorType) (builds : network.Builds id function draft node operands next)

include found builds

theorem built_function : next.function? id = some (function.push node) := by
  rw [builds.adds.result]
  exact (List.getElem?_modify_eq ..).trans
    (congrArg (Option.map _) ((ready_function network draft id).trans found))

theorem built_results_shown (nextKept : next.Represented) (slot : Nat) (type : TensorType) :
    next.Shows id ⟨.node node.id, slot⟩ type ↔ draft.results[slot]? = some type := by
  have pushed := built_function network next id function found draft node operands builds
  have still := nextKept.functions.indexed _ (List.mem_of_getElem? pushed)
  have known : List.Forall₂ (fun handle type => next.types.get? handle =
    some type) node.results draft.results := by
    rw [builds.adds.result]
    exact builds.known
  rw [shows_iff next id _ pushed, Scope.Yields]
  simp only [node_handle_iff,
    show (next.scopeOf (function.push node)).function.node? node.id = some node
      from pushed_node_found function node still,
    Option.some.injEq, exists_eq_left']
  constructor
  · rintro ⟨handle, held, typed⟩
    obtain ⟨other, listed, again⟩ := related_at _ _ _ known.flip slot handle held
    rw [listed, ← typed]
    exact again.symm
  · exact fun listed => related_at _ _ _ known slot type listed

include kept

theorem older_edge_shown (nextKept : next.Represented) (edge : Edge)
    (issued : network.Issued edge.producer) (type : TensorType) :
    next.Shows id edge type ↔ network.Shows id edge type := by
  have pushed := built_function network next id function found draft node operands builds
  have member := List.mem_of_getElem? found
  have indexed := kept.functions.indexed function member
  have still := nextKept.functions.indexed _ (List.mem_of_getElem? pushed)
  have gains := built_gains network kept id draft function node operands next builds
  have number : node.id = ⟨network.nextNode⟩ := by
    rw [builds.adds.number]
    exact congrArg NodeId.mk (create_variables_number network draft.parameters)
  have same : (next.scopeOf (function.push node)).handle? edge =
      (network.scopeOf function).handle? edge := by
    obtain ⟨producer, slot⟩ := edge
    cases producer with
    | var v =>
        have stays := issued_variable_stays network next nextKept id _ gains v issued
        simp only [Scope.handle?, Network.scopeOf, stays]
    | node n =>
        have apart : node.id ≠ n :=
          fun equal => Nat.lt_irrefl n.index (by rw [← equal, number] at issued ⊢; exact issued)
        simp only [Scope.handle?, Network.scopeOf, other_node_found function indexed node still n apart]
  rw [shows_iff next id _ pushed, shows_iff network id function found, Scope.Yields, Scope.Yields, same]
  refine exists_congr fun handle => and_congr_right fun resolved => ?_
  obtain ⟨known, typed⟩ := resolved_handle_known network kept function member edge handle resolved
  have larger := gained_types network next id _ gains handle known typed
  rw [show (next.scopeOf (function.push node)).types.get? handle = some known from larger,
    show (network.scopeOf function).types.get? handle = some known from typed]

end Built

theorem added_layer_kept (network next : Network) (kept : network.Represented) (id : FunctionId)
    (label : String) (layer : Layer)
    (made : NodeId) (added : network.addLayer id label layer = (.ok made, next)) : next.Represented := by
  have changes := add_layer_changes .verify network id label layer
  rw [added] at changes
  exact changes_represented .verify _ _ changes kept

theorem added_layer_reveals (network next : Network) (kept : network.Represented) (id : FunctionId)
    (label : String) (layer : Layer) (made : NodeId)
    (added : network.addLayer id label layer = (.ok made, next)) :
    ∃ function draft, network.function? id = some function ∧
      (network.scopeOf function).draft label layer = .ok draft ∧
      network.Reveals id draft made next := by
  have nextKept := added_layer_kept network next kept id label layer made added
  obtain ⟨function, draft, found, drafted, built⟩ :=
    added_layer_built network next id label layer made added
  obtain ⟨node, operands, rfl, builds⟩ := build_done network next id function draft made built kept
  obtain ⟨stored, _, later⟩ :=
    Numbering.mk.inj (built_gains network kept id draft function node operands next builds).numbering
  refine ⟨function, draft, found, drafted, ?_, later, stored, ?_, ?_⟩
  · rw [builds.adds.number]
    exact congrArg NodeId.mk (create_variables_number network draft.parameters)
  · exact built_results_shown network next id function found draft node operands builds nextKept
  · exact older_edge_shown network next kept id function found draft node operands builds nextKept

section Lone

variable (network next : Network) (kept : network.Represented) (nextKept : next.Represented)
  (id : FunctionId) (draft : Draft) (made : NodeId) (reveals : network.Reveals id draft made next)
  (bare : draft.parameters = []) (result : TensorType) (single : draft.results = [result])

include reveals single

theorem lone_result_shown (type : TensorType) : next.Shows id (.ofNode made) type ↔ type = result := by
  refine (reveals.results 0 type).trans ?_
  rw [single, List.getElem?_cons_zero, Option.some.injEq]
  exact eq_comm

include kept nextKept bare

-- Nothing else comes into sight.
theorem lone_result_apart (edge : Edge) (apart : edge ≠ .ofNode made) (type : TensorType) :
    next.Shows id edge type ↔ network.Shows id edge type := by
  by_cases issued : network.Issued edge.producer
  · exact reveals.older edge issued type
  refine iff_of_false (fun shown => ?_) fun shown =>
    issued (shown_edge_issued network kept id edge type shown)
  have bound := shown_edge_issued next nextKept id edge type shown
  obtain ⟨producer, slot⟩ := edge
  cases producer with
  | var v =>
      rw [Network.Issued, reveals.stored, bare] at bound
      exact issued bound
  | node n =>
      rw [Network.Issued, reveals.later] at bound
      have newest : n = made := by
        rw [reveals.number]
        exact congrArg NodeId.mk (Nat.le_antisymm (Nat.le_of_lt_succ bound) (Nat.le_of_not_lt issued))
      subst newest
      have listed := (reveals.results slot type).mp shown
      rw [single] at listed
      cases slot with
      | zero => exact apart rfl
      | succ slot => cases listed

end Lone

end TensorGraph
