import TensorGraph.Proofs.ShownTypes

set_option autoImplicit false

namespace TensorGraph

-- The extent that a shape has the size of, as far as sizes tell: the largest extent stands for all that
-- is larger.
def Dims.Fills (dims : Dims) (extent : Extent) : Prop :=
  dims.product = extent.toNat ∨ extent = Extent.largest ∧ UInt64.size ≤ dims.product

namespace Layer

def TakesParameters : Layer → Prop
  | convolutionWith _ _ _ _ _ _ | fullyConnectedWith _ _ _
  | batchNormalizationWith _ _ _ _ _ _ _ _ => True
  | _ => False

-- What a layer on given parameters asks of its operands. How a size is held against an extent is left
-- open.
def Suits (sized : Dims → Extent → Prop) : Layer → List TensorType → Prop
  | convolutionWith _ _ _ result depth window, [input, filter, bias] =>
      ∃ images : Images, input.dims = images.dims ∧ window.Slides images.height images.width ∧
        filter.dims = [depth, window.kernel, window.kernel, images.channels] ∧
        result.dims = [images.count, window.span images.height, window.span images.width, depth] ∧
        sized bias.dims depth
  | fullyConnectedWith _ _ _, [input, weights, bias] =>
      ∃ batch entry features columns, input.dims = batch :: entry ∧ Dims.count? entry = some features ∧
        weights.dims = [features, columns] ∧ sized bias.dims columns
  | batchNormalizationWith _ _ _ _ _ channel _ _, [input, beta, gamma, mean, variance] =>
      ∃ channels, input.dims[channel.toNat]? = some channels ∧
        ∀ parameter ∈ [beta, gamma, mean, variance], sized parameter.dims channels
  | _, _ => False

end Layer

-- The sizes that an operator asks of those of its operands that are parameters of one axis.
def Operator.Sized (sized : Dims → Extent → Prop) : Operator → List TensorType → Prop
  | .convolution _ depth, [_, _, bias] => sized bias.dims depth
  | .fullyConnected, [_, weights, bias] => ∃ features columns, weights.dims = [features, columns] ∧
      sized bias.dims columns
  | .batchNormalization channel _ _, [input, scale, bias, mean, variance] =>
      ∃ channels, input.dims[channel.toNat]? = some channels ∧
        ∀ parameter ∈ [scale, bias, mean, variance], sized parameter.dims channels
  | .convolution _ _, _ | .fullyConnected, _ | .batchNormalization _ _ _, _ => False
  | _, _ => True

theorem saturating_product (a b : Extent) :
    (a.saturatingMul b).toNat = min (a.toNat * b.toNat) (UInt64.size - 1) := by
  unfold Extent.saturatingMul Extent.mul?
  by_cases fits : a.toNat * b.toNat < UInt64.size
  · rw [if_pos fits, Option.getD_some, UInt64.toNat_mul, Nat.mod_eq_of_lt fits,
      Nat.min_eq_left (Nat.le_sub_one_of_lt fits)]
  · rw [if_neg fits, Option.getD_none,
      Nat.min_eq_right (Nat.le_trans (Nat.sub_le _ _) (Nat.le_of_not_lt fits))]
    rfl

theorem capped_product (cap a b : Nat) : min (min a cap * b) cap = min (a * b) cap := by
  rcases Nat.le_total a cap with below | beyond
  · rw [Nat.min_eq_left below]
  rw [Nat.min_eq_right beyond]
  cases b with
  | zero => rfl
  | succ b =>
      have once : cap ≤ cap * (b + 1) := Nat.le_mul_of_pos_right cap (Nat.succ_pos b)
      rw [Nat.min_eq_right once, Nat.min_eq_right (Nat.le_trans once (Nat.mul_le_mul_right _ beyond))]

-- A cap on every partial product is one on the whole product.
theorem saturating_fold (start : Extent) (dims : Dims) :
    (dims.foldl Extent.saturatingMul start).toNat =
      min (start.toNat * dims.product) (UInt64.size - 1) := by
  induction dims generalizing start with
  | nil =>
      rw [List.foldl_nil, Dims.product, Nat.mul_one]
      exact (Nat.min_eq_left (Nat.le_sub_one_of_lt start.toNat_lt)).symm
  | cons extent rest ih =>
      rw [List.foldl_cons, ih, saturating_product, capped_product, Dims.product, Nat.mul_assoc]

theorem size_capped (type : TensorType) : type.size.toNat = min type.dims.product (UInt64.size - 1) := by
  rw [TensorType.size, Dims.saturatingCount, saturating_fold, UInt64.toNat_one, Nat.one_mul]

theorem size_iff (type : TensorType) (extent : Extent) :
    type.size = extent ↔ type.dims.Fills extent := by
  have size := size_capped type
  have largest : Extent.largest.toNat = UInt64.size - 1 := rfl
  have below : extent.toNat < UInt64.size := extent.toNat_lt
  rw [Dims.Fills, ← UInt64.toNat_inj, ← UInt64.toNat_inj, size, largest]
  omega

open Layer in
theorem given_parameters_drafted_iff (scope : Scope) (label : String) (layer : Layer)
    (takes : layer.TakesParameters) :
    (∃ draft, scope.draft label layer = .ok draft) ↔
      ∃ types, List.Forall₂ scope.Yields layer.edges types ∧ layer.Suits Dims.Fills types := by
  cases layer with
  | convolutionWith input filter bias result depth window =>
      simp only [Scope.draft, bind_ok_iff, some_unit_iff, operand_iff, shaped_ok_iff, images_of_iff,
        window_output_iff, expectShape, expectCount, require_ok_iff, size_iff]
      constructor
      · rintro ⟨_, type, typed, filterType, filterTyped, biasType, biasTyped, images, imaged, _,
          ⟨slides, rfl⟩, sameFilter, fills, sameResult, _⟩
        exact ⟨[type, filterType, biasType], .cons typed (.cons filterTyped (.cons biasTyped .nil)),
          images, imaged, slides, sameFilter, sameResult, fills⟩
      · rintro ⟨_, typed, suits⟩
        obtain _ | ⟨typed, _ | ⟨filterTyped, _ | ⟨biasTyped, ⟨⟩⟩⟩⟩ := typed
        obtain ⟨images, imaged, slides, sameFilter, sameResult, fills⟩ := suits
        exact ⟨_, _, typed, _, filterTyped, _, biasTyped, images, imaged, _, ⟨slides, rfl⟩, sameFilter,
          fills, sameResult, rfl⟩
  | fullyConnectedWith input weights bias =>
      simp only [Scope.draft, bind_ok_iff, some_unit_iff, operand_iff, shaped_ok_iff, flattened_iff,
        matrix_dims_iff, expectShape, expectCount, require_ok_iff, size_iff]
      constructor
      · rintro ⟨_, type, typed, weightsType, weightsTyped, biasType, biasTyped, ⟨batch, features⟩,
          ⟨entry, flat, counted⟩, ⟨_, columns⟩, _, sameWeights, fills, _⟩
        exact ⟨[type, weightsType, biasType], .cons typed (.cons weightsTyped (.cons biasTyped .nil)),
          batch, entry, features, columns, flat, counted, sameWeights, fills⟩
      · rintro ⟨_, typed, suits⟩
        obtain _ | ⟨typed, _ | ⟨weightsTyped, _ | ⟨biasTyped, ⟨⟩⟩⟩⟩ := typed
        obtain ⟨batch, entry, features, columns, flat, counted, sameWeights, fills⟩ := suits
        exact ⟨_, _, typed, _, weightsTyped, _, biasTyped, (batch, features), ⟨entry, flat, counted⟩,
          (features, columns), sameWeights, sameWeights, fills, rfl⟩
  | batchNormalizationWith input beta gamma mean variance channel epsilon momentum =>
      simp only [Scope.draft, bind_ok_iff, some_unit_iff, operand_iff, channels_of_iff, expectCount,
        require_ok_iff, size_iff]
      constructor
      · rintro ⟨_, type, typed, channels, channelled, gammaType, gammaTyped, gammaFills, betaType,
          betaTyped, betaFills, meanType,
          meanTyped, meanFills, varianceType, varianceTyped, varianceFills, _⟩
        refine ⟨[type, betaType, gammaType, meanType, varianceType],
          .cons typed (.cons betaTyped (.cons gammaTyped (.cons meanTyped (.cons varianceTyped .nil)))),
            channels, channelled, ?_⟩
        simp only [List.forall_mem_cons]
        exact ⟨betaFills, gammaFills, meanFills, varianceFills, List.forall_mem_nil _⟩
      · rintro ⟨_, typed, suits⟩
        obtain _ | ⟨typed, _ | ⟨betaTyped,
          _ | ⟨gammaTyped, _ | ⟨meanTyped, _ | ⟨varianceTyped, ⟨⟩⟩⟩⟩⟩⟩ := typed
        obtain ⟨channels, channelled, fill⟩ := suits
        simp only [List.forall_mem_cons] at fill
        obtain ⟨betaFills, gammaFills, meanFills, varianceFills, _⟩ := fill
        exact ⟨_, _, typed, channels, channelled, _, gammaTyped, gammaFills, _, betaTyped, betaFills, _,
          meanTyped, meanFills, _, varianceTyped, varianceFills, rfl⟩
  | _ => exact takes.elim

theorem given_parameters_unscaled (layer : Layer) (takes : layer.TakesParameters) (scope : Scope)
    (result : TensorType) :
    ¬ layer.Unscaled scope result := by
  intro unscaled
  cases unscaled with
  | dequantize _ _ _ _ _ => exact takes
  | rescaleQuantized _ _ _ _ _ _ => exact takes

theorem agreeing_sizes (operator : Operator) (operands results : List TensorType)
    (agree : operator.ShapesAgree operands results) : operator.Sized Dims.Fills operands := by
  unfold Operator.ShapesAgree at agree
  split at agree
  case h_1 window depth input filter bias result =>
    obtain ⟨_, _, _, _, fills, _⟩ := agree
    exact (size_iff bias depth).mp fills
  case h_3 input weights bias result =>
    obtain ⟨_, features, columns, _, sameWeights, fills, _⟩ := agree
    exact ⟨features, columns, sameWeights, (size_iff bias columns).mp fills⟩
  case h_15 channel epsilon momentum input scale bias mean variance result =>
    obtain ⟨channels, channelled, scaleFills, biasFills, meanFills, varianceFills, _⟩ := agree
    refine ⟨channels, channelled, ?_⟩
    simp only [List.forall_mem_cons, ← size_iff]
    exact ⟨scaleFills, biasFills, meanFills, varianceFills, List.forall_mem_nil _⟩
  case h_29 => exact agree.elim
  all_goals exact trivial

theorem verified_node_shapes (settings : Settings) (network : Network) (kept : network.Represented)
    (id : FunctionId) (function : Function) (found : network.function? id = some function)
    (verified : (network.verifyFunction settings id).1 = .ok ()) (node : Node)
    (inside : node ∈ function.nodes) :
    ∃ operands results, List.Forall₂ (network.Shows id) node.inputs operands ∧
      node.operator.ShapesAgree operands results := by
  have indexed := kept.functions.indexed function (List.mem_of_getElem? found)
  rw [Network.verifyFunction, found] at verified
  have sound := (verify_scope_iff _ _ kept.storage indexed).mp
    ((verify_one_iff settings _ function).mp verified)
  obtain ⟨operands, results, carried, _, checked⟩ := (sound.nodes node inside).accepted
  have leads : ∀ edge ∈ node.inputs, (network.scopeOf function).Leads edge := fun edge reads =>
    sound.edges node inside edge (List.mem_append_left _ reads)
  have typed : List.Forall₂ (network.scopeOf function).Yields node.inputs operands :=
    ((List.forall₂_and_left _ _).mpr ⟨leads, carried⟩).imp fun edge type both =>
      carried_yields _ _ kept.storage indexed edge type both.1 both.2
  exact ⟨operands, results, (shown_all_iff network id function found _ _).mpr typed,
    ((check_iff node.operator operands results).mp checked).1⟩

-- Sizes of parameters are held against extents that may be any 64-bit number, and that is exact but for
-- the largest of them, which all larger sizes pass for. Nothing else is missing from what the layers
-- ask, nor from what verified nodes have.
theorem parameter_sizes_are_exact_below_the_largest (settings : Settings) (actions : List Action)
    (id : FunctionId) :
    let network := Network.run settings .empty actions
    (∀ label layer, layer.TakesParameters → ((∃ made, (network.addLayer id label layer).1 = .ok made) ↔
      ∃ types, List.Forall₂ (network.Shows id) layer.edges types ∧ layer.Suits Dims.Fills types)) ∧
    (∀ function, network.function? id = some function → (network.verifyFunction settings id).1 = .ok () →
      ∀ node ∈ function.nodes, ∃ types, List.Forall₂ (network.Shows id) node.inputs types ∧
        node.operator.Sized Dims.Fills types) ∧
    ∀ (dims : Dims) (extent : Extent), extent ≠ Extent.largest ∨ dims.product < UInt64.size →
      (dims.Fills extent ↔ dims.product = extent.toNat) := by
  intro network
  have kept : network.Represented := run_represented settings .empty actions empty_represented
  refine ⟨fun label layer takes => ?_, fun function found verified node inside => ?_,
    fun dims extent small => ?_⟩
  · have filled : layer.edges ≠ [] := by
      cases layer <;> first | exact takes.elim | exact List.cons_ne_nil _ _
    exact layer_accepted_iff network kept id label layer
      (given_parameters_unscaled layer takes) layer.edges filled _
      fun scope => given_parameters_drafted_iff scope label layer takes
  · obtain ⟨operands, results, shown, agree⟩ :=
      verified_node_shapes settings network kept id function found verified node inside
    exact ⟨operands, shown, agreeing_sizes node.operator operands results agree⟩
  · refine or_iff_left fun ⟨largest, exceeds⟩ => ?_
    exact small.elim (fun apart => apart largest) fun fits => Nat.not_lt.mpr exceeds fits

-- A bias of two axes, on a node that is there and on one more.
theorem square_bias_has_its_size :
    let layer := Layer.fullyConnectedWith (.ofVariable ⟨0⟩) (.ofVariable ⟨1⟩) (.ofVariable ⟨2⟩)
    let network := Network.run {} .empty [.createFunction "f",
      .createVariable ⟨.plain .float [1, 3], "x", .external, .none⟩,
      .createVariable ⟨.plain .float [3, 4], "weights", .external, .none⟩,
      .createVariable ⟨.plain .float [2, 2], "bias", .external, .none⟩, .edit ⟨0⟩ (.addLayer "d" layer)]
    let node : Node := ⟨⟨0⟩, "d__3", .fullyConnected, layer.edges, [⟨3⟩], none⟩
    let function : Function := { id := ⟨0⟩, name := "f", nodes := [node], positions := [(⟨0⟩, 0)] }
    network.function? ⟨0⟩ = some function ∧ (network.verifyFunction {} ⟨0⟩).1 = .ok () ∧
      (∃ types, List.Forall₂ (network.Shows ⟨0⟩) node.inputs types ∧
        node.operator.Sized Dims.Fills types) ∧
      (∃ made, (network.addLayer ⟨0⟩ "e" layer).1 = .ok made) ∧
      Dims.product [2, 2] = UInt64.toNat 4 := by
  intro layer network node function
  have found : network.function? ⟨0⟩ = some function := by decide +kernel
  have verified : (network.verifyFunction {} ⟨0⟩).1 = .ok () := by decide +kernel
  obtain ⟨accepted, sized, exact⟩ := parameter_sizes_are_exact_below_the_largest {} [.createFunction "f",
    .createVariable ⟨.plain .float [1, 3], "x", .external, .none⟩,
    .createVariable ⟨.plain .float [3, 4], "weights", .external, .none⟩,
    .createVariable ⟨.plain .float [2, 2], "bias", .external, .none⟩,
    .edit ⟨0⟩ (.addLayer "d" layer)] ⟨0⟩
  have known : ∀ (i : Nat) (type : TensorType),
      (network.scopeOf function).typeOf (.ofVariable ⟨i⟩) = .ok type →
      network.Shows ⟨0⟩ (.ofVariable ⟨i⟩) type := fun _ _ typed => ⟨function, found, typed⟩
  have shown : List.Forall₂ (network.Shows ⟨0⟩) layer.edges [.plain .float [1, 3], .plain .float [3, 4],
    .plain .float [2, 2]] :=
    .cons (known 0 _ (by decide +kernel))
      (.cons (known 1 _ (by decide +kernel)) (.cons (known 2 _ (by decide +kernel)) .nil))
  have fills : Dims.Fills [2, 2] 4 := .inl (by decide +kernel)
  exact ⟨found, verified, sized function found verified node (List.mem_singleton_self node),
    (accepted "e" layer trivial).mpr ⟨_, shown, 1, [3], 3, 4, rfl, by decide +kernel, rfl, fills⟩,
    (exact [2, 2] 4 (.inl (by decide))).mp fills⟩

-- One bias of 2 ^ 64 entries, where the largest extent is asked for.
theorem oversized_parameters_pass :
    let network := Network.run {} .empty [.createFunction "f",
      .createVariable ⟨.plain .float [1, 1, 1, 1], "x", .external, .none⟩,
      .createVariable ⟨.plain .float [18446744073709551615, 1, 1, 1], "filter", .external, .none⟩,
      .createVariable ⟨.plain .float [1, 18446744073709551615], "weights", .external, .none⟩,
      .createVariable ⟨.plain .float [9223372036854775808, 2], "bias", .external, .none⟩]
    let input := Edge.ofVariable ⟨0⟩
    let filter := Edge.ofVariable ⟨1⟩
    let weights := Edge.ofVariable ⟨2⟩
    let bias := Edge.ofVariable ⟨3⟩
    Dims.product [9223372036854775808, 2] = Extent.largest.toNat + 1 ∧
      ∀ layer ∈ [Layer.convolutionWith input filter bias (.plain .float [1, 1, 1, 18446744073709551615])
          18446744073709551615 ⟨1, 1, 0⟩,
        .fullyConnectedWith input weights bias,
        .batchNormalizationWith weights bias bias bias bias 1 (.ofNat 0) (.ofNat 1)],
        let added := network.addLayer ⟨0⟩ "d" layer
        added.1 = .ok ⟨0⟩ ∧ (added.2.verifyFunction {} ⟨0⟩).1 = .ok () := by
  intro network input filter weights bias
  exact ⟨by decide +kernel, by decide +kernel⟩

end TensorGraph
