import TensorGraph.Proofs.ElementCounts

set_option autoImplicit false

namespace TensorGraph

-- Entries that 64 bits suffice to number.
def Dims.Addressable (dims : Dims) : Prop := dims.product < UInt64.size

def TypePool.Addressable (pool : TypePool) : Prop := ∀ type ∈ pool.types, type.dims.Addressable

instance (dims : Dims) : Decidable dims.Addressable := inferInstanceAs (Decidable (_ < _))

instance (pool : TypePool) : Decidable pool.Addressable :=
  inferInstanceAs (Decidable (∀ type ∈ pool.types, type.dims.Addressable))

-- The shapes that a layer derives from those of its operands with no count of their entries.
def Layer.grown : Layer → List TensorType → List Dims
  | .convolution _ depth window, [⟨_, [count, height, width, channels], _⟩] =>
      [[depth, window.kernel, window.kernel, channels],
        [count, window.span height, window.span width, depth]]
  | .pool _ _ window, [⟨_, [count, height, width, channels], _⟩] =>
      [[count, window.span height, window.span width, channels]]
  | .fullyConnected _ depth, [⟨_, batch :: entry, _⟩] =>
      [[UInt64.ofNat (Dims.product entry), depth], [batch, depth]]
  | .fullyConnectedWith _ _ _, [⟨_, batch :: _, _⟩, ⟨_, [_, columns], _⟩, _] => [[batch, columns]]
  | .broadcast _ shape _, [_] => [shape]
  | .concat _ axis, first :: rest =>
      [first.dims.set axis.toNat
        (UInt64.ofNat (Dims.stackedOn axis.toNat ((first :: rest).map TensorType.dims)))]
  | .matMul _ _, [⟨_, [rows, _], _⟩, ⟨_, [_, columns], _⟩] => [[rows, columns]]
  | .batchedReduceAdd _, [⟨_, _ :: entry, _⟩] => [entry]
  | .gather _ _, [⟨_, _ :: row, _⟩, indices] => [indices.dims ++ row]
  | _, _ => []

theorem vector_addressable (extent : Extent) : Dims.Addressable [extent] := by
  rw [Dims.Addressable, Dims.product, Dims.product, Nat.mul_one]
  exact extent.toNat_lt

theorem counted_addressable (dims : Dims) (count : Extent) (counted : dims.count? = some count) :
    dims.Addressable := by
  rw [Dims.Addressable, ← ((count_exact_iff dims count).mp counted).2]
  exact count.toNat_lt

theorem product_append (dims other : Dims) :
    Dims.product (dims ++ other) = dims.product * other.product := by
  rw [product_eq_prod, List.map_append, List.prod_append, product_eq_prod, product_eq_prod]

theorem shuffled_axes (dims result : Dims) (shuffle : List Extent)
    (shuffled : dims.ShuffledBy shuffle result) :
    (shuffle.map UInt64.toNat).Perm (List.range dims.length) := by
  have apart : (shuffle.map UInt64.toNat).Nodup :=
    shuffled.apart.map fun _ _ same => UInt64.toNat_inj.mp same
  have inside : shuffle.map UInt64.toNat ⊆ List.range dims.length := by
    intro axis listed
    obtain ⟨extent, member, rfl⟩ := List.mem_map.mp listed
    exact List.mem_range.mpr (shuffled.axes extent member)
  refine (List.subperm_of_subset apart inside).perm_of_length_le ?_
  rw [List.length_range, List.length_map, shuffled.count]

theorem shuffled_reordered (dims result : Dims) (shuffle : List Extent)
    (shuffled : dims.ShuffledBy shuffle result) :
    result.Perm dims := by
  have read : (List.range dims.length).map (fun axis => dims.getD axis 0) = dims := by
    refine List.ext_getElem (by simp) fun i inBoth within => ?_
    simp [List.getElem?_eq_getElem within]
  have moved := (shuffled_axes dims result shuffle shuffled).map fun axis => dims.getD axis 0
  rw [read, List.map_map] at moved
  rw [shuffled.moved]
  exact moved

theorem within_product (starts lengths extents : List Extent)
    (within : Dims.Within starts lengths extents) :
    Dims.product lengths ≤ Dims.product extents := by
  induction within with
  | nil => exact Nat.le_refl _
  | cons start length extent starts lengths extents filled inside rest ih =>
      exact Nat.mul_le_mul (Nat.le_trans (Nat.le_add_left _ _) inside) ih

theorem trimmed_product (dims result : Dims) (k : Extent) (trimmed : dims.TrimmedTo k result) :
    result.product ≤ dims.product := by
  obtain ⟨outer, extent, rfl, small, rfl⟩ := trimmed
  rw [product_append, product_append]
  exact Nat.mul_le_mul_left _ (Nat.mul_le_mul_right _ (UInt64.le_iff_toNat_le.mp small))

theorem beside_known (first known last : Dims) (bounded : known.Addressable) :
    (∀ dims ∈ [first, known, last], dims.Addressable) ↔ ∀ dims ∈ [first, last], dims.Addressable := by
  simp only [List.forall_mem_cons, bounded, true_and]

-- What a draft on operands of the given types brings to the pool can be counted as soon as the shapes
-- that have grown can.
def Scope.GrowsOnly (scope : Scope) (layer : Layer) (draft : Draft) : Prop :=
  ∃ types, List.Forall₂ scope.Yields layer.edges types ∧
    ((∀ dims ∈ draft.types.map TensorType.dims, dims.Addressable) ↔
      ∀ dims ∈ layer.grown types, dims.Addressable)

section Drafts

variable (scope : Scope) (label : String) (layer : Layer) (draft : Draft)
  (small : ∀ edge type, scope.Yields edge type → type.dims.Addressable)
  (supplied : ∀ type ∈ layer.supplied, type.dims.Addressable)

theorem nothing_grows (types : List TensorType) (typed : List.Forall₂ scope.Yields layer.edges types)
    (still : layer.grown types = [])
    (bounded : ∀ dims ∈ draft.types.map TensorType.dims, dims.Addressable) :
    scope.GrowsOnly layer draft :=
  ⟨types, typed, iff_of_true bounded (still ▸ List.forall_mem_nil _)⟩

open Layer

include small supplied

-- One case for each layer: stacks, then the layers whose shapes are given or no larger than those of
-- operands, then the rest of those that grow.
theorem draft_grows (drafted : scope.draft label layer = .ok draft) : scope.GrowsOnly layer draft := by
  have single : ∀ {dims : Dims}, dims.Addressable → ∀ other ∈ [dims], other.Addressable :=
    fun bounded => List.forall_mem_singleton.mpr bounded
  have empty : Dims.Addressable [] := by decide
  cases layer
  case concat inputs axis =>
    cases inputs with
    | nil => cases drafted
    | cons first rest =>
        simp only [Scope.draft, bind_ok_iff, some_unit_iff, operand_iff, require_ok_iff, stack_all_iff]
          at drafted
        obtain ⟨type, typed, inside, total, ⟨types, others, _, same⟩, ⟨⟩⟩ := drafted
        have sum :
            UInt64.ofNat (Dims.stackedOn axis.toNat ((type :: types).map TensorType.dims)) = total :=
          (congrArg UInt64.ofNat same.symm).trans UInt64.ofNat_toNat
        refine ⟨type :: types, .cons typed others, ?_⟩
        rw [Layer.grown, sum]
        rfl
  all_goals
    simp only [Scope.draft, bind_ok_iff, some_unit_iff, operand_iff, require_ok_iff, shaped_ok_iff,
      images_of_iff,
      window_output_iff, expectShape, expectCount, flattened_iff, matrix_dims_iff, entry_dims_iff,
      channels_of_iff,
      expect_int8_iff, transpose_iff, slice_iff, gather_iff, top_k_iff, count_iff, stretches_iff,
        Except.ok.injEq] at drafted
  case activation | localResponseNormalization | pow =>
    obtain ⟨type, typed, rfl⟩ := drafted
    exact nothing_grows scope _ _ [type] (.cons typed .nil) rfl (single (small _ type typed))
  case softMax input selected =>
    obtain ⟨type, typed, selectedType, selectedTyped, rfl⟩ := drafted
    exact nothing_grows scope _ _ [type, selectedType] (.cons typed (.cons selectedTyped .nil)) rfl
      (single (small _ type typed))
  case crossEntropyLoss input labels =>
    obtain ⟨type, typed, labelsType, labelsTyped, rfl⟩ := drafted
    exact nothing_grows scope _ _ [type, labelsType] (.cons typed (.cons labelsTyped .nil)) rfl
      (single (vector_addressable 1))
  case regression | arithmetic =>
    obtain ⟨type, typed, otherType, otherTyped, same, rfl⟩ := drafted
    exact nothing_grows scope _ _ [type, otherType] (.cons typed (.cons otherTyped .nil)) rfl
      (single (small _ type typed))
  case batchedAdd batch addend =>
    obtain ⟨type, typed, addendType, addendTyped, entry, sliced, same, rfl⟩ := drafted
    exact nothing_grows scope _ _ [type, addendType] (.cons typed (.cons addendTyped .nil)) rfl
      (single (small _ type typed))
  case select condition lhs rhs =>
    obtain ⟨conditionType, conditionTyped, lhsType, lhsTyped, rhsType, rhsTyped, sameRhs, sameCondition,
      rfl⟩ := drafted
    exact nothing_grows scope _ _ [conditionType, lhsType, rhsType]
      (.cons conditionTyped (.cons lhsTyped (.cons rhsTyped .nil))) rfl
        (single (small _ lhsType lhsTyped))
  case batchNormalizationWith input beta gamma mean variance channel epsilon momentum =>
    obtain ⟨type, typed, channels, channelled, gammaType, gammaTyped, sameGamma, betaType, betaTyped,
      sameBeta, meanType,
      meanTyped, sameMean, varianceType, varianceTyped, sameVariance, rfl⟩ := drafted
    exact nothing_grows scope _ _ [type, betaType, gammaType, meanType, varianceType]
      (.cons typed (.cons betaTyped (.cons gammaTyped (.cons meanTyped (.cons varianceTyped .nil))))) rfl
      (single (small _ type typed))
  case dequantize input =>
    obtain ⟨type, typed, kind, rfl⟩ := drafted
    exact nothing_grows scope _ _ [type] (.cons typed .nil) rfl (single (small _ type typed))
  case convolutionWith input filter bias result depth window =>
    obtain ⟨type, typed, filterType, filterTyped, biasType, biasTyped, images, imaged, _,
      ⟨slides, rfl⟩, sameFilter, sameBias, sameResult, rfl⟩ := drafted
    exact nothing_grows scope _ _ [type, filterType, biasType]
      (.cons typed (.cons filterTyped (.cons biasTyped .nil))) rfl
      (single (supplied result (List.mem_singleton_self result)))
  case splat type value =>
    obtain rfl := drafted
    exact nothing_grows scope _ _ [] .nil rfl (single (supplied type (List.mem_singleton_self type)))
  case quantize input result | rescaleQuantized input result =>
    obtain ⟨type, typed, kind, ⟨scaled, same⟩, rfl⟩ := drafted
    exact nothing_grows scope _ _ [type] (.cons typed .nil) rfl
      (single (supplied result (List.mem_singleton_self result)))
  case reshape input dims =>
    obtain ⟨type, typed, wanted, counted, given, sameCount, rfl, rfl⟩ := drafted
    exact nothing_grows scope _ _ [type] (.cons typed .nil) rfl
      (single (counted_addressable dims _ counted))
  case transpose input shuffle =>
    obtain ⟨type, typed, dims, shuffled, rfl⟩ := drafted
    have same := product_of_reordered dims type.dims (shuffled_reordered type.dims dims shuffle shuffled)
    exact nothing_grows scope _ _ [type] (.cons typed .nil) rfl
      (single (same.trans_lt (small _ type typed)))
  case slice input start stop =>
    obtain ⟨type, typed, dims, ⟨within, _⟩, rfl⟩ := drafted
    have smaller := within_product start dims type.dims within
    exact nothing_grows scope _ _ [type] (.cons typed .nil) rfl
      (single (Nat.lt_of_le_of_lt smaller (small _ type typed)))
  case topK input k =>
    obtain ⟨type, typed, dims, trimmed, rfl⟩ := drafted
    have bounded : dims.Addressable :=
      Nat.lt_of_le_of_lt (trimmed_product type.dims dims k trimmed) (small _ type typed)
    exact nothing_grows scope _ _ [type] (.cons typed .nil) rfl
      (List.forall_mem_cons.mpr ⟨bounded, single bounded⟩)
  case batchNormalization input channel epsilon momentum =>
    obtain ⟨type, typed, channels, channelled, rfl⟩ := drafted
    have parameter := vector_addressable channels
    refine nothing_grows scope _ _ [type] (.cons typed .nil) rfl ?_
    exact List.forall_mem_cons.mpr ⟨parameter,
      List.forall_mem_cons.mpr ⟨parameter, List.forall_mem_cons.mpr ⟨parameter,
      List.forall_mem_cons.mpr ⟨parameter, single (small _ type typed)⟩⟩⟩⟩
  case save input =>
    obtain ⟨type, typed, rfl⟩ := drafted
    exact nothing_grows scope _ _ [type] (.cons typed .nil) rfl
      (List.forall_mem_cons.mpr ⟨small _ type typed, single empty⟩)
  case saveTo input output =>
    obtain ⟨type, typed, outputType, outputTyped, same, rfl⟩ := drafted
    exact nothing_grows scope _ _ [type, outputType] (.cons typed (.cons outputTyped .nil)) rfl
      (single empty)
  case quantizationProfile input =>
    obtain ⟨type, typed, rfl⟩ := drafted
    exact nothing_grows scope _ _ [type] (.cons typed .nil) rfl
      (List.forall_mem_cons.mpr ⟨vector_addressable _,
      List.forall_mem_cons.mpr ⟨vector_addressable _, single empty⟩⟩)
  case convolution input depth window =>
    obtain ⟨⟨element, dims, quantization⟩, typed, images, rfl, _, ⟨slides, rfl⟩, _, fanIn, _, rfl⟩ :=
      drafted
    exact ⟨_, .cons typed .nil, beside_known _ _ _ (vector_addressable depth)⟩
  case pool method input window =>
    obtain ⟨⟨element, dims, quantization⟩, typed, images, rfl, _, ⟨slides, rfl⟩, rfl⟩ := drafted
    exact ⟨_, .cons typed .nil, Iff.rfl⟩
  case fullyConnected input depth =>
    obtain ⟨⟨element, dims, quantization⟩, typed, ⟨batch, features⟩, ⟨entry, rfl, counted⟩, _, rfl⟩ :=
      drafted
    have columns : UInt64.ofNat (Dims.product entry) = features :=
      (congrArg UInt64.ofNat ((count_exact_iff entry features).mp counted).2.symm).trans
        UInt64.ofNat_toNat
    refine ⟨_, .cons typed .nil, ?_⟩
    rw [Layer.grown, columns]
    exact beside_known _ _ _ (vector_addressable depth)
  case fullyConnectedWith input weights bias =>
    obtain ⟨⟨element, dims, quantization⟩, typed, ⟨weightsElement, weightsDims, weightsQuantization⟩,
      weightsTyped, biasType,
      biasTyped, ⟨batch, features⟩, ⟨entry, rfl, _⟩, ⟨_, columns⟩, _, rfl, sameBias, rfl⟩ := drafted
    exact ⟨_, .cons typed (.cons weightsTyped (.cons biasTyped .nil)), Iff.rfl⟩
  case broadcast input shape axis =>
    obtain ⟨type, typed, placed, _, rfl⟩ := drafted
    exact ⟨[type], .cons typed .nil, Iff.rfl⟩
  case matMul lhs rhs =>
    obtain ⟨⟨element, dims, quantization⟩, lhsTyped, ⟨rhsElement, rhsDims, rhsQuantization⟩, rhsTyped,
      ⟨rows, inner⟩, rfl, ⟨_, columns⟩, _, _, rfl, rfl⟩ := drafted
    exact ⟨_, .cons lhsTyped (.cons rhsTyped .nil), Iff.rfl⟩
  case batchedReduceAdd batch =>
    obtain ⟨⟨element, dims, quantization⟩, typed, entry, ⟨count, rfl⟩, rfl⟩ := drafted
    exact ⟨_, .cons typed .nil, Iff.rfl⟩
  case gather data indices =>
    obtain ⟨⟨element, dims, quantization⟩, dataTyped, indicesType, indicesTyped, dims,
      ⟨count, row, rfl, rfl⟩, rfl⟩ := drafted
    exact ⟨_, .cons dataTyped (.cons indicesTyped .nil), Iff.rfl⟩

end Drafts

section Answers

variable (network : Network) (kept : network.Represented) (addressable : network.types.Addressable)

include addressable in
theorem yielded_addressable (function : Function) (edge : Edge) (type : TensorType)
    (yields : (network.scopeOf function).Yields edge type) : type.dims.Addressable := by
  obtain ⟨handle, _, known⟩ := yields
  exact addressable type (List.mem_of_getElem? known)

include kept in
theorem layer_pool_iff (id : FunctionId) (label : String) (layer : Layer) (function : Function)
    (draft : Draft) (found : network.function? id = some function)
    (drafted : (network.scopeOf function).draft label layer = .ok draft) :
    (network.addLayer id label layer).2.types.Addressable ↔
      network.types.Addressable ∧ ∀ dims ∈ draft.types.map TensorType.dims, dims.Addressable := by
  have built : (network.addLayer id label layer).2.types = (network.types.internAll draft.types).2 := by
    simp only [Network.addLayer, found, drafted, build_types]
  rw [TypePool.Addressable, built, TypePool.Addressable, List.forall_mem_map]
  simp only [intern_all_member_iff network.types kept.types, or_imp, forall_and]

theorem unscaled_layer_steady (scope : Scope) (layer : Layer) (result : TensorType)
    (unscaled : layer.Unscaled scope result) (types : List TensorType) : layer.grown types = [] := by
  cases unscaled with
  | dequantize _ _ _ _ _ => rfl
  | rescaleQuantized _ _ _ _ _ _ => rfl

-- Only conversions are turned away once their types are in the pool, and those are no larger than the
-- types before.
include kept addressable in
theorem refused_pool_addressable (id : FunctionId) (label : String) (layer : Layer)
    (supplied : ∀ type ∈ layer.supplied, type.dims.Addressable) (fault : GraphFault)
    (refused : (network.addLayer id label layer).1 = .error fault) :
      (network.addLayer id label layer).2.types.Addressable := by
  cases found : network.function? id with
  | none =>
      simp only [Network.addLayer, found]
      exact addressable
  | some function =>
      cases drafted : (network.scopeOf function).draft label layer with
      | error fault =>
          simp only [Network.addLayer, found, drafted]
          exact addressable
      | ok draft =>
          rw [layer_pool_iff network kept id label layer function draft found drafted]
          rcases (draft_sound _ label draft layer drafted).granted
            with ⟨types, granted⟩ | ⟨result, unscaled, _⟩
          · obtain ⟨made, built⟩ :=
              granted_draft_built network kept id function found draft types granted
            simp only [Network.addLayer, found, drafted, built] at refused
            cases refused
          · have small := yielded_addressable network addressable function
            obtain ⟨types, _, grows⟩ := draft_grows _ label layer draft small supplied drafted
            rw [grows, unscaled_layer_steady _ layer result unscaled types]
            exact ⟨addressable, List.forall_mem_nil _⟩

end Answers

-- Layers bring shapes to the pool that cannot be counted only as those that grow unchecked, none of
-- which is turned away.
theorem only_grown_shapes_outgrow_the_count (settings : Settings) (actions : List Action)
    (addressable : (Network.run settings .empty actions).types.Addressable) (id : FunctionId)
    (label : String) (layer : Layer) (supplied : ∀ type ∈ layer.supplied, type.dims.Addressable) :
    let network := Network.run settings .empty actions
    let answer := network.addLayer id label layer
    (∀ made, answer.1 = .ok made → ∃ types, List.Forall₂ (network.Shows id) layer.edges types ∧
      (answer.2.types.Addressable ↔ ∀ dims ∈ layer.grown types, dims.Addressable)) ∧
    (∀ fault, answer.1 = .error fault → answer.2.types.Addressable) ∧
    ∀ wanted : Parameter, wanted.type.dims.Addressable →
      (network.createVariable wanted).2.types.Addressable := by
  intro network answer
  have kept : network.Represented := run_represented settings .empty actions empty_represented
  refine ⟨fun made answered => ?_, fun fault refused => ?_, fun wanted bounded type listed => ?_⟩
  · obtain ⟨function, draft, found, drafted, _⟩ :=
      added_layer_built network _ id label layer made (Prod.ext answered rfl)
    have small := yielded_addressable network addressable function
    obtain ⟨types, typed, grows⟩ := draft_grows _ label layer draft small supplied drafted
    refine ⟨types, (shown_all_iff network id function found _ types).mpr typed, ?_⟩
    rw [layer_pool_iff network kept id label layer function draft found drafted,
      and_iff_right addressable, grows]
  · exact refused_pool_addressable network kept addressable id label layer supplied fault refused
  · rcases (intern_member_iff network.types kept.types wanted.type type).mp listed with older | rfl
    · exact addressable type older
    · exact bounded

-- A tensor of 2 ^ 63 entries stays one when its axes change places.
theorem transposed_shape_is_addressable :
    let network := Network.run {} .empty [.createFunction "f",
      .createVariable ⟨.plain .float [4294967296, 2147483648], "x", .external, .none⟩]
    let layer := Layer.transpose (.ofVariable ⟨0⟩) [1, 0]
    let answer := network.addLayer ⟨0⟩ "t" layer
    network.types.Addressable ∧ (∀ type ∈ layer.supplied, type.dims.Addressable) ∧ answer.1 = .ok ⟨0⟩ ∧
      .plain .float [2147483648, 4294967296] ∈ answer.2.types.types ∧ answer.2.types.Addressable := by
  intro network layer answer
  have before : network.types.Addressable := by decide +kernel
  have none : ∀ type ∈ layer.supplied, type.dims.Addressable := List.forall_mem_nil _
  have added : answer.1 = .ok ⟨0⟩ := by decide +kernel
  obtain ⟨accepted, _⟩ := only_grown_shapes_outgrow_the_count {} _ before ⟨0⟩ "t" layer none
  obtain ⟨types, _, grows⟩ := accepted ⟨0⟩ added
  exact ⟨before, none, added, by decide +kernel, grows.mpr (List.forall_mem_nil _)⟩

-- Each of the layers that grow can outgrow the count.
theorem grown_shapes_are_accepted :
    let network := Network.run {} .empty [.createFunction "f",
      .createVariable ⟨.plain .float [9223372036854775808, 1], "tall", .external, .none⟩,
      .createVariable ⟨.plain .float [1, 4], "wide", .external, .none⟩,
      .createVariable ⟨.plain .float [4], "row", .external, .none⟩,
      .createVariable ⟨.plain .float [1, 1, 1, 9223372036854775808], "deep", .external, .none⟩,
      .createVariable ⟨.plain .float [0, 9223372036854775808, 4], "none", .external, .none⟩]
    let tall := Edge.ofVariable ⟨0⟩
    let wide := Edge.ofVariable ⟨1⟩
    let row := Edge.ofVariable ⟨2⟩
    let deep := Edge.ofVariable ⟨3⟩
    network.types.Addressable ∧ ∀ layer ∈ [Layer.convolution deep 4 ⟨1, 1, 0⟩, .pool .max deep ⟨1, 1, 1⟩,
        .fullyConnected tall 4, .fullyConnectedWith tall wide row,
        .broadcast row [9223372036854775808, 4] 1,
        .concat [tall, tall] 1, .matMul tall wide, .batchedReduceAdd (.ofVariable ⟨4⟩),
          .gather deep row],
      layer.supplied = [] ∧ (network.addLayer ⟨0⟩ "g" layer).1 = .ok ⟨0⟩ ∧
        ¬ (network.addLayer ⟨0⟩ "g" layer).2.types.Addressable := by
  intro network tall wide row deep
  exact ⟨by decide +kernel, by decide +kernel⟩

end TensorGraph
