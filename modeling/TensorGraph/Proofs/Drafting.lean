import Mathlib.Data.List.Forall2
import TensorGraph.Layer.Draft
import TensorGraph.Proofs.Acceptance

set_option autoImplicit false

namespace TensorGraph

-- The type behind an edge, by whichever of the lookups.
def Scope.Yields (scope : Scope) (edge : Edge) (type : TensorType) : Prop :=
  ∃ handle, scope.handle? edge = some handle ∧ scope.types.get? handle = some type

theorem operand_iff (scope : Scope) (label : String) (edge : Edge) (type : TensorType) :
    scope.operand label edge = .ok type ↔ scope.Yields edge type := by
  have bound : (scope.handle? edge).bind scope.types.get? = some type ↔ scope.Yields edge type :=
    Option.bind_eq_some_iff
  unfold Scope.operand
  rw [← bound]
  cases (scope.handle? edge).bind scope.types.get? with
  | none => simp
  | some found => simp

theorem yields_unique (scope : Scope) : Relator.RightUnique scope.Yields := by
  intro edge type other typed again
  obtain ⟨handle, resolved, known⟩ := typed
  obtain ⟨_, sameEdge, found⟩ := again
  obtain rfl := Option.some.inj (resolved.symm.trans sameEdge)
  exact Option.some.inj (known.symm.trans found)

section Helpers

variable (label : String)

open Layer

theorem shaped_ok_iff {α : Type} (shape : Except ShapeFault α) (value : α) :
    shaped label shape = .ok value ↔ shape = .ok value := map_error_ok_iff _ _ _

theorem images_of_iff (type : TensorType) (images : Images) :
    imagesOf label type = .ok images ↔ type.dims = images.dims := by
  simp only [imagesOf, bind_ok_iff, some_unit_iff, require_ok_iff, shaped_ok_iff, images_iff,
    and_iff_right_iff_imp]
  intro same
  rw [TensorType.rank, same]
  rfl

theorem stretches_iff (axis : Nat) (extents targets : Dims) :
    stretches label axis extents targets = .ok () ↔
    ∀ (i : Nat) (extent target : Extent), extents[i]? = some extent → targets[i]? = some target →
      extent = 1 ∨ extent = target := by
  induction extents generalizing axis targets with
  | nil => simp [stretches]
  | cons extent extents ih =>
      cases targets with
      | nil => simp [stretches]
      | cons target targets =>
          rw [stretches, then_ok_iff, require_ok_iff, ih]
          constructor
          · rintro ⟨head, later⟩ i x y atExtent atTarget
            cases i with
            | zero =>
                obtain rfl := Option.some.inj atExtent
                obtain rfl := Option.some.inj atTarget
                exact head
            | succ i => exact later i x y atExtent atTarget
          · intro all
            exact ⟨all 0 extent target rfl rfl, fun i x y atExtent atTarget =>
              all (i + 1) x y atExtent atTarget⟩

theorem channels_of_iff (input : TensorType) (channel extent : Extent) :
    channelsOf label input channel = .ok extent ↔ input.dims[channel.toNat]? = some extent := by
  unfold channelsOf
  split <;> simp_all

theorem matrix_dims_iff (dims : Dims) (matrix : Extent × Extent) :
    matrixDims label dims = .ok matrix ↔ dims = [matrix.1, matrix.2] := by
  unfold matrixDims
  split
  · constructor
    · rintro ⟨⟩
      rfl
    · rintro ⟨⟩
      rfl
  · rename_i other
    exact iff_of_false nofun fun same => other matrix.1 matrix.2 same

theorem entry_dims_iff (dims entry : Dims) :
    entryDims label dims = .ok entry ↔ ∃ count, dims = count :: entry := by
  cases dims with
  | nil => simp [entryDims]
  | cons count rest => simp [entryDims]

theorem expect_int8_iff (input result : TensorType) : expectInt8Result label input result = .ok () ↔
    (result.element = .int8Q ∧ result.isQuantized = true) ∧ result.dims = input.dims := by
  rw [expectInt8Result, then_ok_iff, require_ok_iff, expectShape, require_ok_iff]

theorem stacked_iff (axis : Extent) (first type : TensorType) (total sum : Extent) :
    stacked label axis first total type = .ok sum ↔ (type.element = first.element ∧
      first.dims.AgreesOff axis.toNat type.dims) ∧
        sum.toNat = total.toNat + (type.dims.getD axis.toNat 0).toNat := by
  have agreeing : type.rank = first.rank ∧ Dims.agreeFrom 0 axis.toNat type.dims first.dims = true ↔
      first.dims.AgreesOff axis.toNat type.dims := by
    rw [agrees_off_comm, ← agree_except_iff]
    simp [Dims.agreeExcept, TensorType.rank]
  unfold stacked
  simp only [bind_ok_iff, some_unit_iff, require_ok_iff, ← extent_sum_iff]
  rw [← agreeing, and_assoc, and_assoc]
  refine and_congr_right fun _ => and_congr_right fun _ => and_congr_right fun _ => ?_
  cases total.add? (type.dims.getD axis.toNat 0) with
  | none => simp
  | some larger => simp

end Helpers

theorem stack_all_iff (scope : Scope) (label : String) (axis : Extent) (first : TensorType)
    (total sum : Extent) (edges : List Edge) : scope.stackAll label axis first total edges = .ok sum ↔
      ∃ types, List.Forall₂ scope.Yields edges types ∧
        (∀ type ∈ types, type.element = first.element ∧ first.dims.AgreesOff axis.toNat type.dims) ∧
        sum.toNat = total.toNat + Dims.stackedOn axis.toNat (types.map TensorType.dims) := by
  induction edges generalizing total with
  | nil => simp [Scope.stackAll, Dims.stackedOn, UInt64.toNat_inj, eq_comm]
  | cons edge rest ih =>
      simp only [Scope.stackAll, bind_ok_iff, operand_iff, stacked_iff, ih, List.forall₂_cons_left_iff]
      constructor
      · rintro ⟨type, typed, larger, ⟨agrees, grown⟩, types, others, agree, same⟩
        refine ⟨type :: types, ⟨type, types, typed, others, rfl⟩,
          List.forall_mem_cons.mpr ⟨agrees, agree⟩, ?_⟩
        rw [same, grown, Nat.add_assoc]
        rfl
      · rintro ⟨_, ⟨type, types, typed, others, rfl⟩, agree, same⟩
        obtain ⟨agrees, agree⟩ := List.forall_mem_cons.mp agree
        rw [List.map_cons, Dims.stackedOn, ← Nat.add_assoc] at same
        obtain ⟨larger, grown⟩ := extent_below sum _ (same ▸ Nat.le_add_right _ _)
        exact ⟨type, typed, larger, ⟨agrees, grown⟩, types, others, agree, grown ▸ same⟩

-- The type of an operand of a draft: that of an edge of the scope, or that of a parameter which the
-- draft asks for.
def Scope.Supplies (scope : Scope) (parameters : List Parameter) : Operand → TensorType → Prop
  | .given edge, type => scope.Yields edge type
  | .fresh i, type => (parameters[i]?).map Parameter.type = some type

-- A layer that converts an operand of quantized kind whose type has no parameters, with the type of its
-- result.
inductive Layer.Unscaled (scope : Scope) : Layer → TensorType → Prop where
  | dequantize (input : Edge) (type : TensorType) (typed : scope.Yields input type)
      (kind : type.element = .int8Q)
      (bare : type.isQuantized = false) : Unscaled scope (.dequantize input) (.plain .float type.dims)
  | rescaleQuantized (input : Edge) (result type : TensorType) (typed : scope.Yields input type)
      (kind : type.element = .int8Q) (bare : type.isQuantized = false) :
      Unscaled scope (.rescaleQuantized input result) result

theorem vector_size (element : Element) (extent : Extent) :
    (TensorType.plain element [extent]).size = extent := by
  have fits : UInt64.toNat 1 * extent.toNat < UInt64.size := by
    rw [UInt64.toNat_one, Nat.one_mul]
    exact extent.toNat_lt
  rw [TensorType.size, TensorType.plain, Dims.saturatingCount, List.foldl_cons, List.foldl_nil,
    Extent.saturatingMul, Extent.mul?, if_pos fits, UInt64.one_mul]
  rfl

-- The types that a draft brings to the pool, in order.
def Draft.types (draft : Draft) : List TensorType := draft.parameters.map Parameter.type ++ draft.results

def Layer.supplied : Layer → List TensorType
  | .convolutionWith _ _ _ result _ _ => [result]
  | .splat type _ => [type]
  | .quantize _ result => [result]
  | .rescaleQuantized _ result => [result]
  | _ => []

-- The operand of a layer that takes over its element kind without its parameters.
def Layer.shed? : Layer → Option Edge
  | .fullyConnected input _ => some input
  | .broadcast input _ _ => some input
  | .batchedReduceAdd batch => some batch
  | .topK input _ => some input
  | _ => none

-- Where the types of a draft come from.
inductive Layer.Derives (scope : Scope) (layer : Layer) : TensorType → Prop where
  | supplied (type : TensorType) (listed : type ∈ layer.supplied) : Derives scope layer type
  | reshaped (edge : Edge) (base : TensorType) (dims : Dims) (typed : scope.Yields edge base) :
      Derives scope layer (base.withDims dims)
  | plain (element : Element) (dims : Dims) (unquantized : element.isQuantized = false) :
      Derives scope layer (.plain element dims)
  | shed (edge : Edge) (base : TensorType) (dims : Dims) (sheds : layer.shed? = some edge)
      (typed : scope.Yields edge base) : Derives scope layer (.plain base.element dims)

-- Types with which the check of its operator accepts a draft.
structure Scope.Grants (scope : Scope) (draft : Draft) (types : List TensorType) : Prop where
  supplied : List.Forall₂ (scope.Supplies draft.parameters) draft.operands types
  shapes : draft.operator.ShapesAgree types draft.results
  elements : draft.operator.ElementsAgree types draft.results

theorem granted_checked (scope : Scope) (draft : Draft) (types : List TensorType)
    (granted : scope.Grants draft types) :
    draft.operator.check types draft.results = .ok () :=
  (check_iff draft.operator types draft.results).mpr ⟨granted.shapes, granted.elements⟩

-- What becomes of a layer that is drafted.
structure Scope.Drafts (scope : Scope) (layer : Layer) (draft : Draft) : Prop where
  granted : (∃ types, scope.Grants draft types) ∨
    ∃ result, layer.Unscaled scope result ∧ draft.parameters = [] ∧ draft.results = [result]
  derived : ∀ type ∈ draft.types, layer.Derives scope type

section Drafts

variable (scope : Scope) (label : String) (draft : Draft)

open Layer

theorem reshaped_only (layer : Layer) (edge : Edge) (base : TensorType) (dims : Dims)
    (typed : scope.Yields edge base) :
    ∀ type ∈ [base.withDims dims], layer.Derives scope type :=
  List.forall_mem_singleton.mpr (.reshaped edge base dims typed)

theorem supplied_only (layer : Layer) (result : TensorType) (supplied : layer.supplied = [result]) :
    ∀ type ∈ [result], layer.Derives scope type :=
  List.forall_mem_singleton.mpr (.supplied result (supplied ▸ List.mem_singleton_self result))

-- One case for each layer. The types that the check is to see are read off the success of the draft;
-- only the two conversions from a quantized kind have drafts that the check can refuse.
theorem draft_sound (layer : Layer) (drafted : scope.draft label layer = .ok draft) :
    scope.Drafts layer draft := by
  cases layer
  case concat inputs axis =>
    cases inputs with
    | nil => cases drafted
    | cons first rest =>
        simp only [Scope.draft, bind_ok_iff, some_unit_iff, operand_iff, require_ok_iff, stack_all_iff]
          at drafted
        obtain ⟨type, typed, inside, total, ⟨types, others, agree, same⟩, ⟨⟩⟩ := drafted
        refine ⟨.inl ⟨type :: types, .cons typed ?_, ?_, trivial⟩, reshaped_only scope _ _ _ _ typed⟩
        · exact List.forall₂_map_left_iff.mpr others
        · exact ⟨inside, fun other member => (agree other member).2, total, same, rfl⟩
  all_goals
    simp only [Scope.draft, bind_ok_iff, some_unit_iff, operand_iff, require_ok_iff, shaped_ok_iff,
      images_of_iff,
      window_output_iff, expectShape, expectCount, flattened_iff, matrix_dims_iff, entry_dims_iff,
      channels_of_iff,
      expect_int8_iff, transpose_iff, slice_iff, gather_iff, top_k_iff, count_iff, stretches_iff,
        Except.ok.injEq] at drafted
  case convolution input depth window =>
    obtain ⟨type, typed, images, imaged, _, ⟨slides, rfl⟩, _, fanIn, _, rfl⟩ := drafted
    refine ⟨.inl ⟨[type, .plain .float [depth, window.kernel, window.kernel, images.channels],
      .plain .float [depth]], .cons typed (.cons rfl (.cons rfl .nil)),
        ⟨images, imaged, slides, rfl, vector_size _ _, rfl⟩, trivial⟩, ?_⟩
    exact List.forall_mem_cons.mpr ⟨.plain _ _ rfl, List.forall_mem_cons.mpr ⟨.plain _ _ rfl,
      List.forall_mem_singleton.mpr (.plain _ _ rfl)⟩⟩
  case convolutionWith input filter bias result depth window =>
    obtain ⟨type, typed, filterType, filterTyped, biasType, biasTyped, images, imaged, _,
      ⟨slides, rfl⟩, sameFilter, sameBias, sameResult, rfl⟩ := drafted
    refine ⟨.inl ⟨[type, filterType, biasType], .cons typed (.cons filterTyped (.cons biasTyped .nil)),
      ⟨images, imaged, slides, sameFilter, sameBias, sameResult⟩, trivial⟩, ?_⟩
    exact supplied_only scope _ result rfl
  case pool method input window =>
    obtain ⟨type, typed, images, imaged, _, ⟨slides, rfl⟩, rfl⟩ := drafted
    refine ⟨.inl ⟨[type], .cons typed .nil, ⟨images, imaged, slides, rfl⟩, trivial⟩, ?_⟩
    exact reshaped_only scope _ _ _ _ typed
  case fullyConnected input depth =>
    obtain ⟨type, typed, ⟨batch, features⟩, flat, _, rfl⟩ := drafted
    refine ⟨.inl ⟨[type, .plain type.element [features, depth], .plain type.element [depth]],
      .cons typed (.cons rfl (.cons rfl .nil)),
        ⟨batch, features, depth, flat, rfl, vector_size _ _, rfl⟩, trivial⟩, ?_⟩
    exact List.forall_mem_cons.mpr ⟨.shed input type _ rfl typed,
      List.forall_mem_cons.mpr ⟨.shed input type _ rfl typed,
      List.forall_mem_singleton.mpr (.shed input type _ rfl typed)⟩⟩
  case fullyConnectedWith input weights bias =>
    obtain ⟨type, typed, weightsType, weightsTyped, biasType, biasTyped, ⟨batch, features⟩, flat,
      ⟨_, columns⟩, _, sameWeights, sameBias, rfl⟩ := drafted
    refine ⟨.inl ⟨[type, weightsType, biasType], .cons typed (.cons weightsTyped (.cons biasTyped .nil)),
      ⟨batch, features, columns, flat, sameWeights, sameBias, rfl⟩, trivial⟩, ?_⟩
    exact reshaped_only scope _ _ _ _ typed
  case activation curve input =>
    obtain ⟨type, typed, rfl⟩ := drafted
    refine ⟨.inl ⟨[type], .cons typed .nil, rfl, trivial⟩, ?_⟩
    exact reshaped_only scope _ _ _ _ typed
  case softMax input selected =>
    obtain ⟨type, typed, selectedType, selectedTyped, rfl⟩ := drafted
    refine ⟨.inl ⟨[type, selectedType], .cons typed (.cons selectedTyped .nil), rfl, trivial⟩, ?_⟩
    exact reshaped_only scope _ _ _ _ typed
  case crossEntropyLoss input labels =>
    obtain ⟨type, typed, labelsType, labelsTyped, rfl⟩ := drafted
    refine ⟨.inl ⟨[type, labelsType], .cons typed (.cons labelsTyped .nil),
      vector_size type.element 1, trivial⟩, ?_⟩
    exact reshaped_only scope _ _ _ _ typed
  case regression input expected =>
    obtain ⟨type, typed, expectedType, expectedTyped, same, rfl⟩ := drafted
    refine ⟨.inl ⟨[type, expectedType], .cons typed (.cons expectedTyped .nil),
      ⟨same, rfl⟩, trivial⟩, ?_⟩
    exact reshaped_only scope _ _ _ _ typed
  case reshape input dims =>
    obtain ⟨type, typed, wanted, counted, given, sameCount, rfl, rfl⟩ := drafted
    refine ⟨.inl ⟨[type], .cons typed .nil, ⟨rfl, wanted, sameCount, counted⟩, trivial⟩, ?_⟩
    exact reshaped_only scope _ _ _ _ typed
  case transpose input shuffle =>
    obtain ⟨type, typed, dims, shuffled, rfl⟩ := drafted
    refine ⟨.inl ⟨[type], .cons typed .nil, shuffled, trivial⟩, ?_⟩
    exact reshaped_only scope _ _ _ _ typed
  case broadcast input shape axis =>
    obtain ⟨type, typed, placed, _, rfl⟩ := drafted
    refine ⟨.inl ⟨[type], .cons typed .nil, ⟨placed, rfl⟩, trivial⟩, ?_⟩
    exact List.forall_mem_singleton.mpr (.shed input type shape rfl typed)
  case slice input start stop =>
    obtain ⟨type, typed, dims, ⟨within, _⟩, rfl⟩ := drafted
    refine ⟨.inl ⟨[type], .cons typed .nil, within, trivial⟩, ?_⟩
    exact reshaped_only scope _ _ _ _ typed
  case batchNormalization input channel epsilon momentum =>
    obtain ⟨type, typed, channels, channelled, rfl⟩ := drafted
    have parameter := vector_size .float channels
    refine ⟨.inl ⟨[type, .plain .float [channels], .plain .float [channels], .plain .float [channels],
      .plain .float [channels]], .cons typed (.cons rfl (.cons rfl (.cons rfl (.cons rfl .nil)))),
      ⟨channels, channelled, parameter, parameter, parameter, parameter, rfl⟩, trivial⟩, ?_⟩
    have plain : Derives scope (.batchNormalization input channel epsilon momentum)
        (.plain .float [channels]) := .plain _ _ rfl
    exact List.forall_mem_cons.mpr ⟨plain,
      List.forall_mem_cons.mpr ⟨plain, List.forall_mem_cons.mpr ⟨plain,
      List.forall_mem_cons.mpr ⟨plain, reshaped_only scope _ _ _ _ typed⟩⟩⟩⟩
  case batchNormalizationWith input beta gamma mean variance channel epsilon momentum =>
    obtain ⟨type, typed, channels, channelled, gammaType, gammaTyped, sameGamma, betaType, betaTyped,
      sameBeta, meanType,
      meanTyped, sameMean, varianceType, varianceTyped, sameVariance, rfl⟩ := drafted
    refine ⟨.inl ⟨[type, gammaType, betaType, meanType, varianceType],
      .cons typed (.cons gammaTyped (.cons betaTyped (.cons meanTyped (.cons varianceTyped .nil)))),
      ⟨channels, channelled, sameGamma, sameBeta, sameMean, sameVariance, rfl⟩, trivial⟩, ?_⟩
    exact reshaped_only scope _ _ _ _ typed
  case localResponseNormalization input halfWindow alpha beta k =>
    obtain ⟨type, typed, rfl⟩ := drafted
    refine ⟨.inl ⟨[type], .cons typed .nil, rfl, trivial⟩, ?_⟩
    exact reshaped_only scope _ _ _ _ typed
  case arithmetic op lhs rhs =>
    obtain ⟨lhsType, lhsTyped, rhsType, rhsTyped, same, rfl⟩ := drafted
    refine ⟨.inl ⟨[lhsType, rhsType], .cons lhsTyped (.cons rhsTyped .nil), ⟨same, rfl⟩, trivial⟩, ?_⟩
    exact reshaped_only scope _ _ _ _ lhsTyped
  case pow base exponent =>
    obtain ⟨type, typed, rfl⟩ := drafted
    refine ⟨.inl ⟨[type], .cons typed .nil, rfl, trivial⟩, ?_⟩
    exact reshaped_only scope _ _ _ _ typed
  case select condition lhs rhs =>
    obtain ⟨conditionType, conditionTyped, lhsType, lhsTyped, rhsType, rhsTyped, sameRhs, sameCondition,
      rfl⟩ := drafted
    refine ⟨.inl ⟨[conditionType, lhsType, rhsType],
      .cons conditionTyped (.cons lhsTyped (.cons rhsTyped .nil)),
      ⟨(sameCondition.trans sameRhs).symm, sameCondition.symm, (sameCondition.trans sameRhs).symm⟩,
        trivial⟩, ?_⟩
    exact reshaped_only scope _ _ _ _ lhsTyped
  case splat type value =>
    obtain rfl := drafted
    refine ⟨.inl ⟨[], .nil, trivial, trivial⟩, ?_⟩
    exact supplied_only scope _ type rfl
  case matMul lhs rhs =>
    obtain ⟨lhsType, lhsTyped, rhsType, rhsTyped, ⟨rows, inner⟩, sameLhs, ⟨_, columns⟩, _, _, sameRhs,
      rfl⟩ := drafted
    refine ⟨.inl ⟨[lhsType, rhsType], .cons lhsTyped (.cons rhsTyped .nil),
      ⟨rows, inner, columns, sameLhs, sameRhs, rfl⟩, trivial⟩, ?_⟩
    exact reshaped_only scope _ _ _ _ lhsTyped
  case batchedReduceAdd batch =>
    obtain ⟨type, typed, entry, sliced, rfl⟩ := drafted
    refine ⟨.inl ⟨[type], .cons typed .nil, sliced, trivial⟩, ?_⟩
    exact List.forall_mem_singleton.mpr (.shed batch type entry rfl typed)
  case batchedAdd batch addend =>
    obtain ⟨type, typed, addendType, addendTyped, entry, sliced, same, rfl⟩ := drafted
    refine ⟨.inl ⟨[type, addendType], .cons typed (.cons addendTyped .nil),
      ⟨entry, sliced, same, rfl⟩, trivial⟩, ?_⟩
    exact reshaped_only scope _ _ _ _ typed
  case save input =>
    obtain ⟨type, typed, rfl⟩ := drafted
    refine ⟨.inl ⟨[type, type], .cons typed (.cons rfl .nil), rfl, trivial⟩, ?_⟩
    exact List.forall_mem_cons.mpr ⟨.reshaped input type type.dims typed,
      List.forall_mem_singleton.mpr (.plain .float [] rfl)⟩
  case saveTo input output =>
    obtain ⟨type, typed, outputType, outputTyped, same, rfl⟩ := drafted
    refine ⟨.inl ⟨[type, outputType], .cons typed (.cons outputTyped .nil), same, trivial⟩, ?_⟩
    exact List.forall_mem_singleton.mpr (.plain .float [] rfl)
  case quantizationProfile input =>
    obtain ⟨type, typed, rfl⟩ := drafted
    refine ⟨.inl ⟨[type, .plain .float [profileBuckets], .plain .float [2]],
      .cons typed (.cons rfl (.cons rfl .nil)),
      ⟨rfl, vector_size .float 2⟩, trivial⟩, ?_⟩
    exact List.forall_mem_cons.mpr ⟨.plain _ _ rfl, List.forall_mem_cons.mpr ⟨.plain _ _ rfl,
      List.forall_mem_singleton.mpr (.plain .float [] rfl)⟩⟩
  case topK input k =>
    obtain ⟨type, typed, dims, trimmed, rfl⟩ := drafted
    refine ⟨.inl ⟨[type], .cons typed .nil, ⟨dims, trimmed, rfl, rfl⟩, rfl⟩, ?_⟩
    exact List.forall_mem_cons.mpr ⟨.shed input type dims rfl typed,
      List.forall_mem_singleton.mpr (.plain .index dims rfl)⟩
  case gather data indices =>
    obtain ⟨dataType, dataTyped, indicesType, indicesTyped, dims, gathered, rfl⟩ := drafted
    refine ⟨.inl ⟨[dataType, indicesType], .cons dataTyped (.cons indicesTyped .nil),
      gathered, trivial⟩, ?_⟩
    exact reshaped_only scope _ _ _ _ dataTyped
  case quantize input result =>
    obtain ⟨type, typed, float, ⟨⟨_, scaled⟩, same⟩, rfl⟩ := drafted
    refine ⟨.inl ⟨[type], .cons typed .nil, same, by rw [float]; rfl, scaled⟩, ?_⟩
    exact supplied_only scope _ result rfl
  case dequantize input =>
    obtain ⟨type, typed, kind, rfl⟩ := drafted
    refine ⟨?_, List.forall_mem_singleton.mpr (.plain _ _ rfl)⟩
    cases bare : type.isQuantized with
    | true => exact .inl ⟨[type], .cons typed .nil, rfl, bare, rfl⟩
    | false => exact .inr ⟨_, .dequantize input type typed kind bare, rfl, rfl⟩
  case rescaleQuantized input result =>
    obtain ⟨type, typed, kind, ⟨⟨_, scaled⟩, same⟩, rfl⟩ := drafted
    refine ⟨?_, supplied_only scope _ result rfl⟩
    cases bare : type.isQuantized with
    | true => exact .inl ⟨[type], .cons typed .nil, same, bare, scaled⟩
    | false => exact .inr ⟨_, .rescaleQuantized input result type typed kind bare, rfl, rfl⟩

end Drafts

end TensorGraph
