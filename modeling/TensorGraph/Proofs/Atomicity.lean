import TensorGraph.Proofs.Building
import TensorGraph.Proofs.Drafting

set_option autoImplicit false

namespace TensorGraph

-- Types and variables are added; those that were there are found as before.
structure Network.Larger (network larger : Network) : Prop where
  types : network.types.Extends larger.types
  storage : ∀ id v, network.storage.get? id = some v → larger.storage.get? id = some v

theorem larger_refl (network : Network) : network.Larger network :=
  ⟨pool_extends_refl _, fun _ _ found => found⟩

theorem larger_trans (a b c : Network) (first : a.Larger b) (second : b.Larger c) : a.Larger c :=
  ⟨pool_extends_trans _ _ _ first.types second.types,
    fun id v found => second.storage id v (first.storage id v found)⟩

theorem create_variable_larger (network : Network) (parameter : Parameter) :
    network.Larger (network.createVariable parameter).2 := by
  refine ⟨intern_extends network.types parameter.type, fun id v found => ?_⟩
  exact network.storage.pushed_found id _ _ v found

theorem create_variables_larger (network : Network) (wanted : List Parameter) :
    network.Larger (network.createVariables wanted) := by
  induction wanted generalizing network with
  | nil => exact larger_refl network
  | cons parameter rest ih =>
      exact larger_trans _ _ _ (create_variable_larger network parameter)
        (ih (network.createVariable parameter).2)

theorem supplied_larger (network : Network) (draft : Draft) :
    (network.createVariables draft.parameters).Larger (network.readyFor draft) :=
  ⟨intern_all_extends _ _, fun _ _ found => found⟩

theorem yields_larger (network larger : Network) (grown : network.Larger larger) (function : Function)
    (edge : Edge) (type : TensorType) (typed : (network.scopeOf function).Yields edge type) :
      (larger.scopeOf function).Yields edge type := by
  obtain ⟨handle, resolved, known⟩ := typed
  refine ⟨handle, ?_, grown.types handle type known⟩
  obtain ⟨producer, slot⟩ := edge
  cases producer with
  | node id => exact resolved
  | var id =>
      obtain ⟨first, v, found, same⟩ := (variable_handle_iff _ id slot handle).mp resolved
      exact (variable_handle_iff _ id slot handle).mpr ⟨first, v, grown.storage id v found, same⟩

theorem created_variable_yields (network : Network) (kept : network.Represented) (function : Function)
    (parameter : Parameter) : ((network.createVariable parameter).2.scopeOf function).Yields
      (.ofVariable ⟨network.nextVariable⟩) parameter.type := by
  have nextKept := change_represented .verify _ _ (.createVariable network parameter) kept
  have listed : (network.createVariable parameter).1 ∈ (network.createVariable parameter).2.storage :=
    (network.storage.pushed_iff _ _ _).mpr (.inr rfl)
  have found := (variable_iff _ _ _ nextKept.storage _ _).mpr ⟨listed, rfl⟩
  refine ⟨(network.types.intern parameter.type).1, ?_,
    intern_found network.types parameter.type kept.types⟩
  exact congrArg (Option.map Variable.type) found

theorem created_parameter_yields (network : Network) (kept : network.Represented) (function : Function)
    (wanted : List Parameter) (i : Nat) (type : TensorType)
    (listed : (wanted[i]?).map Parameter.type = some type) :
    ((network.createVariables wanted).scopeOf function).Yields
      (.ofVariable ⟨network.nextVariable + i⟩) type := by
  induction wanted generalizing network i with
  | nil => cases listed
  | cons parameter rest ih =>
      cases i with
      | zero =>
          obtain rfl := Option.some.inj listed
          have larger := create_variables_larger (network.createVariable parameter).2 rest
          exact yields_larger _ _ larger function _ _
            (created_variable_yields network kept function parameter)
      | succ i =>
          have nextKept := change_represented .verify _ _ (.createVariable network parameter) kept
          have later := ih (network.createVariable parameter).2 nextKept i listed
          rwa [show (network.createVariable parameter).2.nextVariable + i =
            network.nextVariable + (i + 1) from
            Nat.succ_add_eq_add_succ network.nextVariable i] at later

theorem supplied_yields (network : Network) (kept : network.Represented) (function : Function)
    (draft : Draft) (operand : Operand) (type : TensorType)
    (supplied : (network.scopeOf function).Supplies draft.parameters operand type) :
    ((network.readyFor draft).scopeOf function).Yields (operand.edge network.nextVariable) type := by
  refine yields_larger _ _ (supplied_larger network draft) function _ _ ?_
  cases operand with
  | given edge =>
      exact yields_larger _ _ (create_variables_larger network draft.parameters) function
        edge type supplied
  | fresh i => exact created_parameter_yields network kept function draft.parameters i type supplied

theorem resolved_node_added (network : Network) (id : FunctionId) (function : Function) (label : String)
    (operator : Operator) (inputs : List Edge) (results : List TypeHandle)
    (found : network.function? id = some function)
    (resolved : ∀ edge ∈ inputs, ∃ handle, (network.scopeOf function).handle? edge = some handle)
    (known : ∀ handle ∈ results, ∃ type, network.types.get? handle = some type) :
    ∃ made, (network.addNode id label operator inputs results).1 = .ok made := by
  have noEdge : (inputs.find? fun edge => ((network.scopeOf function).handle? edge).isNone) = none := by
    refine List.find?_eq_none.mpr fun edge reads => ?_
    obtain ⟨handle, leads⟩ := resolved edge reads
    simp [leads]
  have noHandle : (results.find? fun handle => (network.types.get? handle).isNone) = none := by
    refine List.find?_eq_none.mpr fun handle listed => ?_
    obtain ⟨type, issued⟩ := known handle listed
    simp [issued]
  simp only [Network.addNode, found, noEdge, noHandle]
  exact ⟨_, rfl⟩

section Supplied

variable (network : Network) (kept : network.Represented) (id : FunctionId) (function : Function)
  (found : network.function? id = some function) (draft : Draft) (types : List TensorType)
  (supplied : List.Forall₂ ((network.scopeOf function).Supplies draft.parameters) draft.operands types)

include kept

theorem ready_results_known :
    List.Forall₂ (fun handle type => (network.readyFor draft).types.get? handle = some type)
    ((network.createVariables draft.parameters).types.internAll draft.results).1 draft.results :=
  intern_all_found (network.createVariables draft.parameters).types draft.results
    (changes_represented .verify _ _
      (create_variables_changes .verify network draft.parameters) kept).types

include supplied

theorem ready_operands_yield : List.Forall₂ ((network.readyFor draft).scopeOf function).Yields
    (draft.operands.map (Operand.edge network.nextVariable)) types :=
  List.forall₂_map_left_iff.mpr (supplied.imp (supplied_yields network kept function draft))

theorem ready_operands_typed : ((network.readyFor draft).scopeOf function).typesOf
    (draft.operands.map (Operand.edge network.nextVariable)) = .ok types := by
  have yields := ready_operands_yield network kept function draft types supplied
  exact (types_of_iff _ _ _).mpr (yields.imp fun edge type => (type_of_iff _ edge type).mpr)

include found

-- Once the operator accepts the types there is nothing left to fail.
theorem checked_draft_built (checked : draft.operator.check types draft.results = .ok ()) :
    ∃ made, (network.build id function draft).1 = .ok made := by
  have yields := ready_operands_yield network kept function draft types supplied
  have stillFound := (ready_function network draft id).trans found
  rw [build_by_steps, ready_operands_typed network kept function draft types supplied]
  dsimp only
  rw [checked]
  refine resolved_node_added (network.readyFor draft) id function _ _ _ _ stillFound ?_ ?_
  · intro edge reads
    obtain ⟨type, _, handle, resolved, _⟩ := related_source _ _ _ yields.flip edge reads
    exact ⟨handle, resolved⟩
  · intro handle listed
    obtain ⟨type, _, issued⟩ :=
      related_source _ _ _ (ready_results_known network kept draft).flip handle listed
    exact ⟨type, issued⟩

end Supplied

theorem granted_draft_built (network : Network) (kept : network.Represented) (id : FunctionId)
    (function : Function) (found : network.function? id = some function) (draft : Draft)
    (types : List TensorType) (granted : (network.scopeOf function).Grants draft types) :
      ∃ made, (network.build id function draft).1 = .ok made :=
  checked_draft_built network kept id function found draft types granted.supplied
    (granted_checked _ draft types granted)

theorem failed_build (network next : Network) (id : FunctionId) (function : Function) (draft : Draft)
    (fault : GraphFault) (failed : network.build id function draft = (.error fault, next)) :
      next = network.readyFor draft := by
  rcases build_cases network id function draft with ⟨_, early⟩ | ⟨operands, _, _, reached⟩
  · exact congrArg Prod.snd (failed.symm.trans early)
  · rw [reached] at failed
    rcases add_node_cases (network.readyFor draft) id draft.label draft.operator _ _ with
      ⟨_, late⟩ | ⟨node, after, added, _, _, _, _⟩
    · exact congrArg Prod.snd (failed.symm.trans late)
    · cases failed.symm.trans added

-- A layer that fails leaves the network as it was, with one exception: the type of the result of a
-- conversion stays in the pool when the conversion is refused for the lack of parameters.
theorem failed_layers_leave_no_trace (settings : Settings) (actions : List Action) (id : FunctionId)
    (label : String) (layer : Layer) (fault : GraphFault) (next : Network)
    (failed : (Network.run settings .empty actions).addLayer id label layer = (.error fault, next)) :
    let network := Network.run settings .empty actions
    next = network ∨ ∃ function result, network.function? id = some function ∧
      layer.Unscaled (network.scopeOf function) result ∧ next = (network.intern result).2 := by
  have kept := run_represented settings .empty actions empty_represented
  generalize Network.run settings .empty actions = network at failed kept ⊢
  unfold Network.addLayer at failed
  split at failed
  · exact .inl (congrArg Prod.snd failed).symm
  · rename_i function found
    split at failed
    · exact .inl (congrArg Prod.snd failed).symm
    · rename_i draft drafted
      rcases (draft_sound (network.scopeOf function) label draft layer drafted).granted with
        ⟨types, granted⟩ | ⟨result, unscaled, noParameters, oneResult⟩
      · obtain ⟨made, built⟩ := granted_draft_built network kept id function found draft types granted
        rw [failed] at built
        cases built
      · refine .inr ⟨function, result, found, unscaled, ?_⟩
        rw [failed_build network next id function draft fault failed, Network.readyFor,
          noParameters, oneResult]
        rfl

theorem refused_transposition_leaves_no_trace :
    let network := Network.run {} .empty [.createFunction "f",
      .createVariable ⟨.plain .float [2, 3], "x", .external, .none⟩]
    network.addLayer ⟨0⟩ "t" (.transpose (.ofVariable ⟨0⟩) [0, 0]) =
      (.error (.invalidAttribute "t" (.shape (.notPermutation [0, 0]))), network) := by
  intro network
  have failed : (network.addLayer ⟨0⟩ "t" (.transpose (.ofVariable ⟨0⟩) [0, 0])).1 =
      .error (.invalidAttribute "t" (.shape (.notPermutation [0, 0]))) := by decide
  refine Prod.ext failed ?_
  rcases failed_layers_leave_no_trace {} _ ⟨0⟩ "t" _ _ _ (Prod.ext failed rfl)
    with same | ⟨_, _, _, unscaled, _⟩
  · exact same
  · cases unscaled

-- A variable of quantized kind without parameters: the dequantization is refused, and the pool has one
-- type more.
theorem refused_dequantization_leaves_a_type :
    let network := Network.run {} .empty [.createFunction "f",
      .createVariable ⟨.plain .int8Q [2], "x", .external, .none⟩]
    let outcome := network.addLayer ⟨0⟩ "d" (.dequantize (.ofVariable ⟨0⟩))
    outcome.1 = .error (.invalidAttribute "d"
      (.operator (.conversion .dequantize (.plain .int8Q [2]) (.plain .float [2])))) ∧
      network.types.types = [.plain .int8Q [2]] ∧
        outcome.2.types.types = [.plain .int8Q [2], .plain .float [2]] := by
  decide

end TensorGraph
