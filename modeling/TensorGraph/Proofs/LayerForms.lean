import TensorGraph.Proofs.Provisions

set_option autoImplicit false

namespace TensorGraph

-- The same layer on variables that are there already, numbered from `start` in the order in which it
-- makes its own.
def Layer.given? (type : TensorType) (start : Nat) : Layer → Option Layer
  | .convolution input depth window =>
      let height := window.span (type.dims.getD 1 0)
      let width := window.span (type.dims.getD 2 0)
      some (.convolutionWith input (.ofVariable ⟨start⟩) (.ofVariable ⟨start + 1⟩)
        (.plain .float [type.dims.getD 0 0, height, width, depth]) depth window)
  | .fullyConnected input _ =>
      some (.fullyConnectedWith input (.ofVariable ⟨start⟩) (.ofVariable ⟨start + 1⟩))
  | .batchNormalization input channel epsilon momentum =>
      some (.batchNormalizationWith input (.ofVariable ⟨start⟩) (.ofVariable ⟨start + 1⟩)
        (.ofVariable ⟨start + 2⟩) (.ofVariable ⟨start + 3⟩) channel epsilon momentum)
  | _ => none

-- The results of the two forms on an operand of the given type.
structure Layer.Twins (layer : Layer) (type result twin : TensorType) : Prop where
  element : twin.element = result.element
  dims : twin.dims = result.dims
  same : twin = result ↔ layer.shed? = none ∨ type.isQuantized = false
  shed : twin ≠ result → result.quantization = none ∧ twin.quantization = type.quantization

-- How the draft of the form with operands follows that of the form which brings its parameters along.
structure Layer.Follows (layer : Layer) (type : TensorType) (start : Nat)
    (draft twin : Draft) : Prop where
  operator : twin.operator = draft.operator
  operands : twin.operands = draft.operands.map fun operand => .given (operand.edge start)
  parameters : twin.parameters = []
  results : ∃ result other, draft.results = [result] ∧ twin.results = [other] ∧
    layer.Twins type result other

-- What a node computes from operands and results of which types.
def Network.Describes (network : Network) (id : FunctionId) (made : NodeId) (operator : Operator)
    (operands results : List TensorType) : Prop :=
  ∃ function node, network.function? id = some function ∧ function.node? made = some node ∧
    node.operator = operator ∧
    (network.scopeOf function).typesOf node.inputs = .ok operands ∧
    List.Forall₂ (fun handle type => network.types.get? handle = some type) node.results results

theorem same_twins (layer : Layer) (type result : TensorType) (unshed : layer.shed? = none) :
    layer.Twins type result result :=
  ⟨rfl, rfl, iff_of_true rfl (.inl unshed), fun apart => absurd rfl apart⟩

theorem shed_twins (layer : Layer) (type : TensorType) (dims : Dims) (sheds : layer.shed? ≠ none) :
    layer.Twins type (.plain type.element dims) (type.withDims dims) := by
  refine ⟨rfl, rfl, ?_, fun _ => ⟨rfl, rfl⟩⟩
  rw [or_iff_right sheds]
  cases type with
  | mk element old quantization =>
      cases quantization <;> simp [TensorType.withDims, TensorType.plain, TensorType.isQuantized]

section Drafts

variable (scope after : Scope) (label : String) (layer given : Layer) (start : Nat) (input : Edge)
  (type : TensorType) (draft : Draft) (provided : layer.provided? = some input)
  (forms : layer.given? type start = some given) (typed : scope.Yields input type)
  (still : after.Yields input type) (drafted : scope.draft label layer = .ok draft)
  (made : ∀ i other, (draft.parameters[i]?).map Parameter.type = some other →
    after.Yields (.ofVariable ⟨start + i⟩) other)

include provided forms typed still drafted made

open Layer in
theorem given_form_drafted : ∃ twin, after.draft label given = .ok twin ∧
    layer.Follows type start draft twin := by
  cases layer <;> cases provided <;> cases forms
  all_goals
    simp only [Scope.draft, bind_ok_iff, some_unit_iff, operand_iff, require_ok_iff, shaped_ok_iff,
      images_of_iff,
      window_output_iff, flattened_iff, channels_of_iff, count_iff, Except.ok.injEq] at drafted
    simp only [Scope.draft, bind_ok_iff, some_unit_iff, operand_iff, require_ok_iff, shaped_ok_iff,
      images_of_iff,
      window_output_iff, expectShape, expectCount, flattened_iff, matrix_dims_iff, channels_of_iff,
        Except.ok.injEq]
  case convolution depth window =>
    obtain ⟨again, yields, images, imaged, _, ⟨slides, rfl⟩, deep, fanIn, counted, rfl⟩ := drafted
    obtain rfl := yields_unique scope typed yields
    have filter := made 0 _ rfl
    have bias := made 1 _ rfl
    have twins := same_twins (.convolution input depth window) type
      (.plain .float [images.count, window.span images.height, window.span images.width, depth]) rfl
    simp only [imaged, Images.dims, List.getD_cons_zero, List.getD_cons_succ]
    exact ⟨_, ⟨type, still, _, filter, _, bias, images, imaged, _, ⟨slides, rfl⟩, rfl,
      vector_size _ _, rfl, rfl⟩, rfl, rfl, rfl, _, _, rfl, rfl, twins⟩
  case fullyConnected depth =>
    obtain ⟨again, yields, ⟨batch, features⟩, flat, deep, rfl⟩ := drafted
    obtain rfl := yields_unique scope typed yields
    have weights := made 0 _ rfl
    have bias := made 1 _ rfl
    have twins := shed_twins (.fullyConnected input depth) type [batch, depth]
      (Option.some_ne_none input)
    exact ⟨_, ⟨type, still, _, weights, _, bias, (batch, features), flat, (features, depth), rfl, rfl,
      vector_size _ _, rfl⟩, rfl, rfl, rfl, _, _, rfl, rfl, twins⟩
  case batchNormalization channel epsilon momentum =>
    obtain ⟨again, yields, channels, channelled, rfl⟩ := drafted
    obtain rfl := yields_unique scope typed yields
    have beta := made 0 _ rfl
    have gamma := made 1 _ rfl
    have mean := made 2 _ rfl
    have variance := made 3 _ rfl
    have count := vector_size .float channels
    have twins := same_twins (.batchNormalization input channel epsilon momentum) type type rfl
    exact ⟨_, ⟨type, still, channels, channelled, _, gamma, count, _, beta, count, _, mean, count, _,
      variance, count, rfl⟩, rfl, rfl, rfl, _, _, rfl, rfl, twins⟩

end Drafts

theorem pushed_yields (scope : Scope) (indexed : scope.function.Indexed) (node : Node)
    (still : (scope.function.push node).Indexed) (edge : Edge) (type : TensorType)
    (typed : scope.Yields edge type) :
    Scope.Yields { scope with function := scope.function.push node } edge type := by
  obtain ⟨handle, resolved, known⟩ := typed
  refine ⟨handle, ?_, known⟩
  obtain ⟨producer, slot⟩ := edge
  cases producer with
  | var id => exact resolved
  | node id =>
      obtain ⟨target, found, held⟩ := (node_handle_iff _ id slot handle).mp resolved
      obtain ⟨inside, same⟩ := (node_iff _ indexed id target).mp found
      have stands := (node_iff _ still id target).mpr ⟨List.mem_append_left _ inside, same⟩
      exact (node_handle_iff _ id slot handle).mpr ⟨target, stands, held⟩

section Described

variable (network : Network) (kept : network.Represented) (id : FunctionId) (function : Function)
  (found : network.function? id = some function) (draft : Draft) (types : List TensorType)
  (supplied : List.Forall₂ ((network.scopeOf function).Supplies draft.parameters) draft.operands types)

include kept found supplied

theorem built_draft_described (made : NodeId) (next : Network)
    (built : network.build id function draft = (.ok made, next)) :
    next.Describes id made draft.operator types draft.results := by
  have changes := build_changes .verify network id function draft
  rw [built] at changes
  have nextKept := changes_represented .verify _ _ changes kept
  obtain ⟨node, operands, rfl, builds⟩ := build_done network next id function draft made built kept
  have pushed : next.function? id = some (function.push node) := by
    rw [builds.adds.result]
    exact (List.getElem?_modify_eq ..).trans
      (congrArg (Option.map _) ((ready_function network draft id).trans found))
  have indexed := kept.functions.indexed function (List.mem_of_getElem? found)
  have still := nextKept.functions.indexed _ (List.mem_of_getElem? pushed)
  have inside : node ∈ (function.push node).nodes :=
    List.mem_append_right _ (List.mem_singleton_self node)
  have yields := ready_operands_yield network kept function draft types supplied
  rw [← builds.inputs] at yields
  have known := builds.known
  have operator := builds.operator
  obtain rfl := builds.adds.result
  refine ⟨_, node, pushed, (node_iff _ still node.id node).mpr ⟨inside, rfl⟩, operator,
    (types_of_iff _ _ _).mpr ?_, known⟩
  refine yields.imp fun edge type typed => (type_of_iff _ edge type).mpr ?_
  exact pushed_yields ((network.readyFor draft).scopeOf function) indexed node still edge type typed

theorem drafted_layer_described (label : String) (layer : Layer)
    (drafted : (network.scopeOf function).draft label layer = .ok draft)
    (checked : draft.operator.check types draft.results = .ok ()) :
    ∃ made next, network.addLayer id label layer = (.ok made, next) ∧
      next.Describes id made draft.operator types draft.results := by
  obtain ⟨made, built⟩ := checked_draft_built network kept id function found draft types supplied checked
  refine ⟨made, (network.build id function draft).2, ?_, ?_⟩
  · simp only [Network.addLayer, found, drafted]
    exact Prod.ext built rfl
  · exact built_draft_described network kept id function found draft types supplied made _
      (Prod.ext built rfl)

end Described

theorem supplies_unique (scope : Scope) (parameters : List Parameter) :
    Relator.RightUnique (scope.Supplies parameters) := by
  intro operand type other supplied again
  cases operand with
  | given edge => exact yields_unique scope supplied again
  | fresh i => exact Option.some.inj (Eq.trans (Eq.symm supplied) again)

-- Variables that match what is wanted, and were made for some parameters, make both ask for the same
-- types.
theorem matched_types (pool : TypePool) (exact : pool.Exact) (number suffix : Nat)
    (wanted asked : List Parameter) (known : ∀ parameter ∈ asked, parameter.type ∈ pool.types)
    (alike : List.Forall₂ (Parameter.Matches pool) wanted (variablesMade pool number suffix asked)) :
    wanted.map Parameter.type = asked.map Parameter.type := by
  induction asked generalizing wanted number suffix with
  | nil =>
      cases alike
      rfl
  | cons parameter rest ih =>
      cases alike with
      | @cons twin _ others _ here later =>
          obtain ⟨member, known⟩ := List.forall_mem_cons.mp known
          have same : twin.type = parameter.type :=
            Option.some.inj (here.type.symm.trans (handle_of_member pool exact parameter.type member))
          rw [List.map_cons, List.map_cons, same, ih _ _ others known later]

section Forms

variable (network : Network) (kept : network.Represented) (id : FunctionId) (label : String)
  (layer given : Layer) (input : Edge) (provided : layer.provided? = some input) (function : Function)
  (found : network.function? id = some function) (type : TensorType)
  (typed : (network.scopeOf function).Yields input type)
  (forms : layer.given? type network.nextVariable = some given) (draft : Draft)
  (drafted : (network.scopeOf function).draft label layer = .ok draft) (types : List TensorType)
  (supplied : List.Forall₂ ((network.scopeOf function).Supplies draft.parameters) draft.operands types)
  (wanted : List Parameter) (sameTypes : wanted.map Parameter.type = draft.parameters.map Parameter.type)

include kept sameTypes

theorem wanted_operand_yields (operand : Operand) (other : TensorType)
    (supplies : (network.scopeOf function).Supplies draft.parameters operand other) :
    ((network.createVariables wanted).scopeOf function).Yields
      (operand.edge network.nextVariable) other := by
  cases operand with
  | given edge =>
      exact yields_larger _ _ (create_variables_larger network wanted) function edge other supplies
  | fresh i =>
      refine created_parameter_yields network kept function wanted i other ?_
      rwa [← List.getElem?_map, sameTypes, List.getElem?_map]

include provided found typed forms drafted supplied

theorem given_form_described : ∃ twin after other result, draft.results = [result] ∧
    (network.createVariables wanted).addLayer id label given = (.ok twin, after) ∧
    after.Describes id twin draft.operator types [other] ∧ layer.Twins type result other := by
  have grown := create_variables_larger network wanted
  have supply := wanted_operand_yields network kept function draft wanted sameTypes
  have stillFound : (network.createVariables wanted).function? id = some function := by
    rw [Network.function?, create_variables_functions]
    exact found
  have suppliedKept :=
    changes_represented .verify _ _ (create_variables_changes .verify network wanted) kept
  obtain ⟨twin, twinDrafted, follows⟩ :=
    given_form_drafted _ ((network.createVariables wanted).scopeOf function) label layer
    given network.nextVariable input type draft provided forms typed
      (yields_larger _ _ grown function input type typed) drafted
    fun i other asked => supply (.fresh i) other asked
  obtain ⟨result, other, results, twinResults, twins⟩ := follows.results
  have twinSupplied :
      List.Forall₂ (((network.createVariables wanted).scopeOf function).Supplies twin.parameters)
      twin.operands types := by
    rw [follows.operands]
    exact List.forall₂_map_left_iff.mpr (supplied.imp supply)
  have checked : twin.operator.check types twin.results = .ok () := by
    rcases (draft_sound _ label twin given twinDrafted).granted with ⟨others, granted⟩ | ⟨_, unscaled, _⟩
    · obtain rfl := (supplies_unique _ _).forall₂ granted.supplied twinSupplied
      exact granted_checked _ twin others granted
    · cases layer <;> cases provided <;> cases forms <;> cases unscaled
  obtain ⟨made, after, added, describes⟩ :=
    drafted_layer_described _ suppliedKept id function stillFound twin types
    twinSupplied label given twinDrafted checked
  rw [follows.operator, twinResults] at describes
  exact ⟨made, after, other, result, results, added, describes, twins⟩

end Forms

-- The two forms agree but for the parameters of a quantized operand: a dense layer that brings its own
-- weights leaves them out of its result, and one that is given its weights keeps them.
theorem layer_forms_agree (settings : Settings) (actions : List Action) (id : FunctionId)
    (label : String) (layer : Layer) (input : Edge) (provided : layer.provided? = some input)
    (made : NodeId) (next : Network)
    (added : (Network.run settings .empty actions).addLayer id label layer = (.ok made, next)) :
    let network := Network.run settings .empty actions
    ∃ type, network.Admits id layer input type ∧
      ∀ given wanted, layer.given? type network.nextVariable = some given →
      List.Forall₂ (Parameter.Matches next.types) wanted
        (next.storage.values.drop network.storage.length) →
      ∃ operator operands result twin after other, next.Describes id made operator operands [result] ∧
        (network.createVariables wanted).addLayer id label given = (.ok twin, after) ∧
        after.Describes id twin operator operands [other] ∧ layer.Twins type result other := by
  intro network
  have kept : network.Represented := run_represented settings .empty actions empty_represented
  have nextKept :=
    changes_represented .verify _ _ (add_layer_changes .verify network id label layer) kept
  obtain ⟨function, draft, found, drafted, built⟩ :=
    added_layer_built network next id label layer made added
  obtain ⟨type, yields, admitted, _⟩ := provided_draft_serves _ label layer input provided draft drafted
  obtain ⟨types, granted⟩ := provided_draft_granted _ label layer input provided draft drafted
  obtain ⟨_, gains⟩ := planned_layer network kept id label layer _
    (.completed function found draft drafted types granted.supplied
      (granted_checked _ draft types granted))
  have describes :=
    built_draft_described network kept id function found draft types granted.supplied made next built
  rw [show network.addLayer id label layer = _ from added] at gains nextKept
  refine ⟨type, ⟨function, found, (type_of_iff _ input type).mpr yields, admitted⟩,
    fun given wanted forms alike => ?_⟩
  rw [gains.storage _ nextKept.types (pool_extends_refl _), Variables.pushed_all_values,
    Variables.length_values, List.drop_left] at alike
  have known := gained_parameter_known network _ kept id draft gains
  have sameTypes := matched_types _ nextKept.types _ _ wanted draft.parameters known alike
  obtain ⟨twin, after, other, result, results, twinAdded, twinDescribes, twins⟩ :=
    given_form_described network kept id label layer given input provided function found type yields
      forms draft drafted types granted.supplied wanted sameTypes
  exact ⟨draft.operator, types, result, twin, after, other, results ▸ describes, twinAdded,
    twinDescribes, twins⟩

theorem convolution_forms_agree :
    let network := Network.run {} .empty [.createFunction "f",
      .createVariable ⟨.quantized .int8Q [1, 2, 2, 1] ⟨0x3f000000⟩ 2, "x", .external, .none⟩]
    let input := Edge.ofVariable ⟨0⟩
    let next := (network.addLayer ⟨0⟩ "c" (.convolution input 3 ⟨1, 1, 0⟩)).2
    let filter := Parameter.internal .float [3, 1, 1, 1] "k" (.xavier (.ofNat 1))
    let bias := Parameter.internal .float [3] "b" (.broadcast biasFill)
    let given := Layer.convolutionWith input (.ofVariable ⟨1⟩) (.ofVariable ⟨2⟩)
      (.plain .float [1, 2, 2, 3]) 3 ⟨1, 1, 0⟩
    ∃ operator operands result twin after, next.Describes ⟨0⟩ ⟨0⟩ operator operands [result] ∧
      (network.createVariables [filter, bias]).addLayer ⟨0⟩ "c" given = (.ok twin, after) ∧
      after.Describes ⟨0⟩ twin operator operands [result] := by
  intro network input next filter bias given
  have added : (network.addLayer ⟨0⟩ "c" (.convolution input 3 ⟨1, 1, 0⟩)).1 = .ok ⟨0⟩ := by
    decide +kernel
  obtain ⟨type, ⟨function, found, typed, _⟩, agree⟩ :=
    layer_forms_agree {} _ ⟨0⟩ "c" (.convolution input 3 ⟨1, 1, 0⟩) input rfl ⟨0⟩ next
      (Prod.ext added rfl)
  have home : network.function? ⟨0⟩ = some { id := ⟨0⟩, name := "f" } := by decide +kernel
  obtain rfl := Option.some.inj (home.symm.trans found)
  have known : (network.scopeOf { id := ⟨0⟩, name := "f" }).typeOf input =
      .ok (.quantized .int8Q [1, 2, 2, 1] ⟨0x3f000000⟩ 2) := by decide +kernel
  obtain rfl := Except.ok.inj (known.symm.trans typed)
  have made : next.storage.values.drop network.storage.length =
      [⟨⟨1⟩, "filter__1", ⟨1⟩, .internal, .xavier (.ofNat 1), none⟩,
        ⟨⟨2⟩, "bias__2", ⟨2⟩, .internal, .broadcast biasFill, none⟩] := by
    decide +kernel
  obtain ⟨operator, operands, result, twin, after, other, own, twinAdded, twinOwn, twins⟩ :=
    agree given [filter, bias] (by decide +kernel)
      (made ▸ .cons ⟨by decide +kernel, rfl, rfl⟩ (.cons ⟨by decide +kernel, rfl, rfl⟩ .nil))
  exact ⟨operator, operands, result, twin, after, own, twinAdded, twins.same.mpr (.inl rfl) ▸ twinOwn⟩

-- A dense layer on a quantized variable, on weights and a bias that it makes and on equal ones that it
-- is given.
theorem dense_forms_differ :
    let quantized := TensorType.quantized .int8Q [1, 2] ⟨0x3f000000⟩ 2
    let weights := Parameter.internal .int8Q [2, 3] "weights" (.xavier (.ofNat 2))
    let bias := Parameter.internal .int8Q [3] "bias" (.broadcast biasFill)
    let network :=
      Network.run {} .empty [.createFunction "f", .createVariable ⟨quantized, "x", .external, .none⟩]
    let next := (network.addLayer ⟨0⟩ "d" (.fullyConnected (.ofVariable ⟨0⟩) 3)).2
    let after := ((network.createVariables [weights, bias]).addLayer ⟨0⟩ "d"
      (.fullyConnectedWith (.ofVariable ⟨0⟩) (.ofVariable ⟨1⟩) (.ofVariable ⟨2⟩))).2
    List.Forall₂ (Parameter.Matches next.types) [weights, bias]
      (next.storage.values.drop network.storage.length) ∧
    next.Describes ⟨0⟩ ⟨0⟩ .fullyConnected [quantized, weights.type, bias.type] [.plain .int8Q [1, 3]] ∧
    after.Describes ⟨0⟩ ⟨0⟩ .fullyConnected [quantized, weights.type, bias.type]
      [.quantized .int8Q [1, 3] ⟨0x3f000000⟩ 2] := by
  intro quantized weights bias network next after
  have made : next.storage.values.drop network.storage.length =
      [⟨⟨1⟩, "weights__1", ⟨1⟩, .internal, .xavier (.ofNat 2), none⟩,
        ⟨⟨2⟩, "bias__2", ⟨2⟩, .internal, .broadcast biasFill, none⟩] := by
    decide +kernel
  let dense : Node :=
    ⟨⟨0⟩, "d__3", .fullyConnected, [.ofVariable ⟨0⟩, .ofVariable ⟨1⟩, .ofVariable ⟨2⟩], [⟨3⟩], none⟩
  let home : Function := { id := ⟨0⟩, name := "f", nodes := [dense], positions := [(⟨0⟩, 0)] }
  refine ⟨made ▸ .cons ⟨by decide +kernel, rfl, rfl⟩ (.cons ⟨by decide +kernel, rfl, rfl⟩ .nil), ?_, ?_⟩
  all_goals exact ⟨home,
    dense, by decide +kernel, rfl, rfl, by decide +kernel, .cons (by decide +kernel) .nil⟩

end TensorGraph
