import TensorGraph.Proofs.Rebuilding
import TensorGraph.Proofs.Verification

set_option autoImplicit false

namespace TensorGraph

-- Only a destination to save to may be something that no layer can be asked for.
theorem agreeing_layer (scope : Scope) (operator : Operator) (inputs : List Edge)
    (operands results : List TensorType) (typed : List.Forall₂ scope.Yields inputs operands)
    (agree : operator.ShapesAgree operands results) :
    operator = .save ∨ ∃ layer, operator.asLayer? inputs results = some layer := by
  unfold Operator.ShapesAgree at agree
  split at agree
  case h_13 axis first rest result =>
    cases typed with
    | cons _ _ => exact .inr ⟨_, rfl⟩
  case h_14 start input result =>
    obtain ⟨stops, ended, _⟩ := within_stops _ _ _ agree
    obtain _ | ⟨_, ⟨⟩⟩ := typed
    exact .inr ⟨.slice _ start stops, congrArg (Option.map (Layer.slice _ start)) ended⟩
  case h_22 input output result => exact .inl rfl
  case h_29 => exact agree.elim
  all_goals
    obtain _ | ⟨_, _ | ⟨_, _ | ⟨_, _ | ⟨_, _ | ⟨_, ⟨⟩⟩⟩⟩⟩⟩ := typed
    exact .inr ⟨_, rfl⟩

section Carried

variable (scope : Scope) (limit : Nat) (kept : VariablesKept scope.storage scope.types limit)
  (indexed : scope.function.Indexed)

include kept indexed

theorem carried_yields (edge : Edge) (type : TensorType) (leads : scope.Leads edge)
    (carries : scope.Carries edge type) :
    scope.Yields edge type := by
  obtain ⟨producer, slot⟩ := edge
  cases producer with
  | var id =>
      obtain ⟨v, stored, rfl, known⟩ := carries
      have found := (variable_iff _ _ _ kept v.id v).mpr ⟨stored, rfl⟩
      exact ⟨v.type, (variable_handle_iff _ v.id slot _).mpr ⟨leads.1, v, found, rfl⟩, known⟩
  | node id =>
      obtain ⟨node, inside, rfl, handle, held, known⟩ := carries
      have found := (node_iff _ indexed node.id node).mpr ⟨inside, rfl⟩
      exact ⟨handle, (node_handle_iff _ node.id slot handle).mpr ⟨node, found, held⟩, known⟩

end Carried

-- Whatever its inputs have been rewired to, a node that verifies is one that each of its builders would
-- draft again on them, up to the kinds of the elements, the stretching of a broadcast and what new
-- parameters are to hold.
theorem verified_nodes_are_rebuildable (settings : Settings) (actions : List Action) (id : FunctionId)
    (function : Function) (node : Node)
    (found : (Network.run settings .empty actions).function? id = some function)
    (verified : ((Network.run settings .empty actions).verifyFunction settings id).1 = .ok ())
    (inside : node ∈ function.nodes) :
    let scope := (Network.run settings .empty actions).scopeOf function
    ∃ operands results, List.Forall₂ scope.Yields node.inputs operands ∧
      List.Forall₂ (fun handle type => scope.types.get? handle = some type) node.results results ∧
      node.operator.ShapesAgree operands results ∧
      (node.operator = .save ∨ ∃ layer, node.operator.asLayer? node.inputs results = some layer) ∧
      ∀ label layer, node.operator.AskedBy node.inputs results layer →
        ((∃ draft, scope.draft label layer = .ok draft) ↔ node.operator.Stretches operands ∧
          node.operator.ElementsAsked operands results ∧ layer.ParametersAsked operands) := by
  intro scope
  have kept := run_represented settings .empty actions empty_represented
  have indexed := kept.functions.indexed function (List.mem_of_getElem? found)
  rw [Network.verifyFunction, found] at verified
  have sound := (verify_scope_iff scope _ kept.storage indexed).mp
    ((verify_one_iff settings _ function).mp verified)
  obtain ⟨operands, results, carried, known, checked⟩ := (sound.nodes node inside).accepted
  obtain ⟨agree, _⟩ := (check_iff node.operator operands results).mp checked
  have leads : ∀ edge ∈ node.inputs, scope.Leads edge := fun edge reads =>
    sound.edges node inside edge (List.mem_append_left _ reads)
  have typed : List.Forall₂ scope.Yields node.inputs operands :=
    ((List.forall₂_and_left _ _).mpr ⟨leads, carried⟩).imp fun edge type both =>
      carried_yields scope _ kept.storage indexed edge type both.1 both.2
  refine ⟨operands, results, typed, known, agree, agreeing_layer scope _ _ _ _ typed agree, ?_⟩
  intro label layer asked
  exact asked_layer_drafted_iff scope label node.operator node.inputs operands results layer
    asked typed agree

-- A transposition whose input is rewired to a variable of the same shape and another kind.
theorem rewired_transposition_is_rebuildable :
    let network := Network.run {} .empty [.createFunction "f",
      .createVariable ⟨.plain .float [2, 3], "x", .external, .none⟩,
      .createVariable ⟨.plain .index [2, 3], "y", .external, .none⟩,
      .edit ⟨0⟩ (.addLayer "t" (.transpose (.ofVariable ⟨0⟩) [1, 0])),
      .edit ⟨0⟩ (.setInput ⟨0⟩ 0 (.ofVariable ⟨1⟩))]
    ∃ function, network.function? ⟨0⟩ = some function ∧
      ∃ draft,
        (network.scopeOf function).draft "again" (.transpose (.ofVariable ⟨1⟩) [1, 0]) = .ok draft := by
  intro network
  let node : Node := ⟨⟨0⟩, "t__2", .transpose [1, 0], [.ofVariable ⟨1⟩], [⟨2⟩], none⟩
  let function : Function := { id := ⟨0⟩, name := "f", nodes := [node], positions := [(⟨0⟩, 0)] }
  have found : network.function? ⟨0⟩ = some function := by decide
  have verified : (network.verifyFunction {} ⟨0⟩).1 = .ok () := by decide +kernel
  obtain ⟨operands, results, _, known, _, _, drafted⟩ :=
    verified_nodes_are_rebuildable {} _ ⟨0⟩ function node found verified (List.mem_singleton_self node)
  refine ⟨function, found, (drafted "again" _ (.given _ _ _ _ ?_)).mpr ⟨trivial, trivial, trivial⟩⟩
  cases known with
  | cons _ rest =>
      cases rest
      rfl

-- A broadcast of [1] to [2] whose input is rewired to a variable of shape [3].
theorem rewired_broadcast_verifies :
    let network := Network.run {} .empty [.createFunction "f",
      .createVariable ⟨.plain .float [1], "x", .external, .none⟩,
      .createVariable ⟨.plain .float [3], "y", .external, .none⟩,
      .edit ⟨0⟩ (.addLayer "b" (.broadcast (.ofVariable ⟨0⟩) [2] 0)),
      .edit ⟨0⟩ (.setInput ⟨0⟩ 0 (.ofVariable ⟨1⟩))]
    let node : Node := ⟨⟨0⟩, "b__2", .broadcast [2] 0, [.ofVariable ⟨1⟩], [⟨2⟩], none⟩
    let function : Function := { id := ⟨0⟩, name := "f", nodes := [node], positions := [(⟨0⟩, 0)] }
    network.function? ⟨0⟩ = some function ∧ (network.verifyFunction {} ⟨0⟩).1 = .ok () ∧
      (network.scopeOf function).Yields (.ofVariable ⟨1⟩) (.plain .float [3]) ∧
      ¬ node.operator.Stretches [.plain .float [3]] ∧
      (network.scopeOf function).draft "again" (.broadcast (.ofVariable ⟨1⟩) [2] 0) =
        .error (.invalidAttribute "again" (.stretch 3 0 2)) := by
  intro network node function
  refine ⟨by decide, by decide +kernel, ⟨⟨1⟩, by decide, by decide⟩, ?_, by decide⟩
  intro stretched
  have apart := stretched 0 3 2 rfl rfl
  revert apart
  decide

-- A convolution whose input and filter are rewired to variables of 2^62 channels, so that the weights
-- behind one entry of its result are 2^64.
theorem rewired_convolution_verifies :
    let wide := TensorType.plain .float [1, 2, 2, 4611686018427387904]
    let network := Network.run {} .empty [.createFunction "f",
      .createVariable ⟨.plain .float [1, 2, 2, 1], "x", .external, .none⟩,
      .createVariable ⟨wide, "y", .external, .none⟩,
      .edit ⟨0⟩ (.addLayer "c" (.convolution (.ofVariable ⟨0⟩) 1 ⟨2, 1, 0⟩)),
      .edit ⟨0⟩ (.setInput ⟨0⟩ 0 (.ofVariable ⟨1⟩)), .edit ⟨0⟩ (.setInput ⟨0⟩ 1 (.ofVariable ⟨1⟩))]
    let node : Node := ⟨⟨0⟩, "c__4", .convolution ⟨2, 1, 0⟩ 1,
      [.ofVariable ⟨1⟩, .ofVariable ⟨1⟩, .ofVariable ⟨3⟩], [⟨3⟩], none⟩
    let function : Function := { id := ⟨0⟩, name := "f", nodes := [node], positions := [(⟨0⟩, 0)] }
    network.function? ⟨0⟩ = some function ∧ (network.verifyFunction {} ⟨0⟩).1 = .ok () ∧
      (network.scopeOf function).draft "again" (.convolution (.ofVariable ⟨1⟩) 1 ⟨2, 1, 0⟩) =
        .error (.invalidAttribute "again" (.shape (.uncountable [2, 2, 4611686018427387904]))) := by
  intro wide network node function
  exact ⟨by decide, by decide +kernel, by decide⟩

end TensorGraph
