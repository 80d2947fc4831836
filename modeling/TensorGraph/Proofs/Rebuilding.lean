import TensorGraph.Proofs.Drafting

set_option autoImplicit false

namespace TensorGraph

namespace Operator

-- The layer that asks for a node of this operator on these edges, with all parameters given. A
-- destination to save to can be asked for when it is a variable.
def asLayer? : Operator → List Edge → List TensorType → Option Layer
  | convolution window depth, [input, filter, bias], [result] =>
      some (.convolutionWith input filter bias result depth window)
  | pool method window, [input], [_] => some (.pool method input window)
  | fullyConnected, [input, weights, bias], [_] => some (.fullyConnectedWith input weights bias)
  | activation curve, [input], [_] => some (.activation curve input)
  | softMax, [input, selected], [_] => some (.softMax input selected)
  | crossEntropyLoss, [input, labels], [_] => some (.crossEntropyLoss input labels)
  | regression, [input, expected], [_] => some (.regression input expected)
  | reshape dims, [input], [_] => some (.reshape input dims)
  | transpose shuffle, [input], [_] => some (.transpose input shuffle)
  | broadcast shape axis, [input], [_] => some (.broadcast input shape axis)
  | concat axis, first :: rest, [_] => some (.concat (first :: rest) axis)
  | slice start, [input], [result] => (Dims.rangeStops? start result.dims).map fun stops =>
      .slice input start stops
  | batchNormalization channel epsilon momentum, [input, scale, bias, mean, variance], [_] =>
      some (.batchNormalizationWith input bias scale mean variance channel epsilon momentum)
  | localResponseNormalization halfWindow alpha beta k, [input], [_] =>
      some (.localResponseNormalization input halfWindow alpha beta k)
  | arithmetic op, [lhs, rhs], [_] => some (.arithmetic op lhs rhs)
  | pow exponent, [base], [_] => some (.pow base exponent)
  | select, [condition, lhs, rhs], [_] => some (.select condition lhs rhs)
  | splat value, [], [type] => some (.splat type value)
  | matMul, [lhs, rhs], [_] => some (.matMul lhs rhs)
  | batchedReduceAdd, [batch], [_] => some (.batchedReduceAdd batch)
  | batchedAdd, [batch, addend], [_] => some (.batchedAdd batch addend)
  | save, [input, ⟨.var output, 0⟩], [_] => some (.saveTo input output)
  | quantizationProfile _, [input, _, _], [_] => some (.quantizationProfile input)
  | topK k, [input], [_, _] => some (.topK input k)
  | gather, [data, indices], [_] => some (.gather data indices)
  | quantize, [input], [result] => some (.quantize input result)
  | dequantize, [input], [_] => some (.dequantize input)
  | rescaleQuantized, [input], [result] => some (.rescaleQuantized input result)
  | _, _, _ => none

-- The layers that ask for a node of this operator with these inputs and results: one that is given all
-- parameters, and for some operators one that makes them itself and is given the first input only. How
-- deep a dense layer is to be, its result alone tells.
inductive AskedBy : Operator → List Edge → List TensorType → Layer → Prop
  | given (operator : Operator) (inputs : List Edge) (results : List TensorType) (layer : Layer)
      (asked : operator.asLayer? inputs results = some layer) : AskedBy operator inputs results layer
  | convolution (window : Window) (depth : Extent) (input : Edge) (rest : List Edge)
      (results : List TensorType) :
      AskedBy (.convolution window depth) (input :: rest) results (.convolution input depth window)
  | fullyConnected (input : Edge) (rest : List Edge) (result : TensorType) (batch depth : Extent)
      (dims : result.dims = [batch, depth]) :
      AskedBy .fullyConnected (input :: rest) [result] (.fullyConnected input depth)
  | batchNormalization (channel : Extent) (epsilon momentum : Binary32) (input : Edge) (rest : List Edge)
      (results : List TensorType) :
      AskedBy (.batchNormalization channel epsilon momentum) (input :: rest) results
        (.batchNormalization input channel epsilon momentum)
  | save (input : Edge) (rest : List Edge) (results : List TensorType) :
      AskedBy .save (input :: rest) results (.save input)

-- What is asked of a shape that is broadcast to another, besides its place in it.
def Stretches : Operator → List TensorType → Prop
  | broadcast shape axis, [input] =>
      ∀ (i : Nat) (extent target : Extent), input.dims[i]? = some extent →
        shape[axis.toNat + i]? = some target → extent = 1 ∨ extent = target
  | _, _ => True

-- What is asked of element kinds when a layer is drafted.
def ElementsAsked : Operator → List TensorType → List TensorType → Prop
  | concat _, first :: rest, _ => ∀ type ∈ rest, type.element = first.element
  | matMul, [lhs, rhs], _ => lhs.element = rhs.element
  | quantize, [input], [result] => input.element = .float ∧ result.element = .int8Q ∧
      result.isQuantized = true
  | dequantize, [input], _ => input.element = .int8Q
  | rescaleQuantized, [input], [result] => input.element = .int8Q ∧ result.element = .int8Q ∧
      result.isQuantized = true
  | _, _, _ => True

end Operator

-- What is asked for the sake of parameters that are still to be made: the weights behind one entry of a
-- convolution have to be counted in a word, and no layer may be empty.
def Layer.ParametersAsked : Layer → List TensorType → Prop
  | convolution _ depth window, input :: _ =>
      depth ≠ 0 ∧ Dims.Countable [window.kernel, window.kernel, input.dims.getD 3 0]
  | fullyConnected _ depth, _ => depth ≠ 0
  | _, _ => True

section Rebuilt

variable (scope : Scope) (label : String) (operator : Operator) (inputs : List Edge)
  (operands results : List TensorType) (layer : Layer)

open Layer

-- One case for each layer that `asLayer?` can give; most ask no more than that the shapes agree.
theorem layer_drafted_iff (asked : operator.asLayer? inputs results = some layer)
    (typed : List.Forall₂ scope.Yields inputs operands) (agree : operator.ShapesAgree operands results) :
    (∃ draft, scope.draft label layer = .ok draft) ↔
      operator.Stretches operands ∧ operator.ElementsAsked operands results := by
  unfold Operator.asLayer? at asked
  split at asked
  case h_12 start input result =>
    obtain _ | ⟨typed, ⟨⟩⟩ := typed
    obtain ⟨stops, ended, rfl⟩ := Option.map_eq_some_iff.mp asked
    refine iff_of_true ?_ ⟨trivial, trivial⟩
    simp only [Scope.draft, bind_ok_iff, operand_iff, shaped_ok_iff, slice_iff]
    exact ⟨_, _, typed, result.dims, ⟨agree, ended⟩, rfl⟩
  case h_29 => cases asked
  all_goals
    obtain rfl := Option.some.inj asked
    simp only [Scope.draft, bind_ok_iff, some_unit_iff, operand_iff, require_ok_iff, shaped_ok_iff,
      images_of_iff,
      window_output_iff, expectShape, expectCount, flattened_iff, matrix_dims_iff, entry_dims_iff,
      channels_of_iff,
      expect_int8_iff, transpose_iff, gather_iff, top_k_iff, count_iff, stretches_iff, stack_all_iff,
        Except.ok.injEq]
  case h_1 window depth input filter bias result =>
    obtain _ | ⟨typed, _ | ⟨filterTyped, _ | ⟨biasTyped, ⟨⟩⟩⟩⟩ := typed
    obtain ⟨images, imaged, slides, sameFilter, sameBias, sameResult⟩ := agree
    exact iff_of_true ⟨_, _, typed, _, filterTyped, _, biasTyped, images, imaged, _, ⟨slides, rfl⟩,
      sameFilter, sameBias, sameResult, rfl⟩ ⟨trivial, trivial⟩
  case h_2 method window input result =>
    obtain _ | ⟨typed, ⟨⟩⟩ := typed
    obtain ⟨images, imaged, slides, _⟩ := agree
    exact iff_of_true ⟨_, _, typed, images, imaged, _, ⟨slides, rfl⟩, rfl⟩ ⟨trivial, trivial⟩
  case h_3 input weights bias result =>
    obtain _ | ⟨typed, _ | ⟨weightsTyped, _ | ⟨biasTyped, ⟨⟩⟩⟩⟩ := typed
    obtain ⟨batch, features, columns, flat, sameWeights, sameBias, _⟩ := agree
    exact iff_of_true ⟨_, _, typed, _, weightsTyped, _, biasTyped, (batch, features), flat,
      (features, columns), sameWeights, sameWeights, sameBias, rfl⟩ ⟨trivial, trivial⟩
  case h_4 curve input result | h_14 halfWindow alpha beta k input result | h_16 exponent input result =>
    obtain _ | ⟨typed, ⟨⟩⟩ := typed
    exact iff_of_true ⟨_, _, typed, rfl⟩ ⟨trivial, trivial⟩
  case h_5 input wanted result | h_6 input wanted result =>
    obtain _ | ⟨typed, _ | ⟨wantedTyped, ⟨⟩⟩⟩ := typed
    exact iff_of_true ⟨_, _, typed, _, wantedTyped, rfl⟩ ⟨trivial, trivial⟩
  case h_7 lhs rhs result | h_15 op lhs rhs result =>
    obtain _ | ⟨lhsTyped, _ | ⟨rhsTyped, ⟨⟩⟩⟩ := typed
    exact iff_of_true ⟨_, _, lhsTyped, _, rhsTyped, agree.1, rfl⟩ ⟨trivial, trivial⟩
  case h_8 dims input result =>
    obtain _ | ⟨typed, ⟨⟩⟩ := typed
    obtain ⟨rfl, count, given, wanted⟩ := agree
    exact iff_of_true ⟨_, _, typed, count, wanted, count, given, rfl, rfl⟩ ⟨trivial, trivial⟩
  case h_9 shuffle input result | h_20 input result =>
    obtain _ | ⟨typed, ⟨⟩⟩ := typed
    exact iff_of_true ⟨_, _, typed, _, agree, rfl⟩ ⟨trivial, trivial⟩
  case h_10 shape axis input result =>
    obtain _ | ⟨typed, ⟨⟩⟩ := typed
    simp only [List.getElem?_drop]
    constructor
    · rintro ⟨_, type, again, _, stretched, _⟩
      obtain rfl := yields_unique scope typed again
      exact ⟨stretched, trivial⟩
    · rintro ⟨stretched, _⟩
      exact ⟨_, _, typed, agree.1, stretched, rfl⟩
  case h_11 axis first rest result =>
    obtain _ | ⟨typed, restTyped⟩ := typed
    constructor
    · rintro ⟨_, type, again, _, _, ⟨types, restAgain, alike, _⟩, _⟩
      obtain rfl := yields_unique scope typed again
      obtain rfl := (yields_unique scope).forall₂ restTyped restAgain
      exact ⟨trivial, fun other member => (alike other member).1⟩
    · rintro ⟨_, alike⟩
      obtain ⟨inside, agrees, total, same, _⟩ := agree
      exact ⟨_, _, typed, inside, total,
        ⟨_, restTyped, fun other member => ⟨alike other member, agrees other member⟩, same⟩, rfl⟩
  case h_13 channel epsilon momentum input scale bias mean variance result =>
    obtain _ | ⟨typed, _ | ⟨scaleTyped, _ | ⟨biasTyped, _ | ⟨meanTyped, _ | ⟨varianceTyped, ⟨⟩⟩⟩⟩⟩⟩ :=
      typed
    obtain ⟨channels, channelled, sameScale, sameBias, sameMean, sameVariance, _⟩ := agree
    exact iff_of_true ⟨_, _, typed, channels, channelled, _, scaleTyped, sameScale, _, biasTyped,
      sameBias, _, meanTyped, sameMean, _, varianceTyped, sameVariance, rfl⟩ ⟨trivial, trivial⟩
  case h_17 condition lhs rhs result =>
    obtain _ | ⟨conditionTyped, _ | ⟨lhsTyped, _ | ⟨rhsTyped, ⟨⟩⟩⟩⟩ := typed
    obtain ⟨sameLhs, sameRhs, _⟩ := agree
    exact iff_of_true ⟨_, _, conditionTyped, _, lhsTyped, _, rhsTyped, sameRhs.trans sameLhs.symm,
      sameRhs.symm, rfl⟩ ⟨trivial, trivial⟩
  case h_18 value type =>
    obtain _ | _ := typed
    exact iff_of_true ⟨_, rfl⟩ ⟨trivial, trivial⟩
  case h_19 lhs rhs result =>
    obtain _ | ⟨lhsTyped, _ | ⟨rhsTyped, ⟨⟩⟩⟩ := typed
    constructor
    · rintro ⟨_, lhsType, lhsAgain, rhsType, rhsAgain, _, _, _, _, alike, _⟩
      obtain rfl := yields_unique scope lhsTyped lhsAgain
      obtain rfl := yields_unique scope rhsTyped rhsAgain
      exact ⟨trivial, alike⟩
    · rintro ⟨_, alike⟩
      obtain ⟨rows, inner, columns, sameLhs, sameRhs, _⟩ := agree
      exact ⟨_, _, lhsTyped, _, rhsTyped, (rows, inner), sameLhs, (inner, columns), sameRhs,
        alike, sameRhs, rfl⟩
  case h_21 batch addend result =>
    obtain _ | ⟨typed, _ | ⟨addendTyped, ⟨⟩⟩⟩ := typed
    obtain ⟨entry, sliced, same, _⟩ := agree
    exact iff_of_true ⟨_, _, typed, _, addendTyped, entry, sliced, same, rfl⟩ ⟨trivial, trivial⟩
  case h_22 input output result =>
    obtain _ | ⟨typed, _ | ⟨outputTyped, ⟨⟩⟩⟩ := typed
    exact iff_of_true ⟨_, _, typed, _, outputTyped, agree, rfl⟩ ⟨trivial, trivial⟩
  case h_23 profiled input histogram info result =>
    obtain _ | ⟨typed, _⟩ := typed
    exact iff_of_true ⟨_, _, typed, rfl⟩ ⟨trivial, trivial⟩
  case h_24 k input values indices =>
    obtain _ | ⟨typed, ⟨⟩⟩ := typed
    obtain ⟨dims, trimmed, _⟩ := agree
    exact iff_of_true ⟨_, _, typed, dims, trimmed, rfl⟩ ⟨trivial, trivial⟩
  case h_25 data indices result =>
    obtain _ | ⟨dataTyped, _ | ⟨indicesTyped, ⟨⟩⟩⟩ := typed
    exact iff_of_true ⟨_, _, dataTyped, _, indicesTyped, _, agree, rfl⟩ ⟨trivial, trivial⟩
  case h_27 input result =>
    obtain _ | ⟨typed, ⟨⟩⟩ := typed
    constructor
    · rintro ⟨_, type, again, kind, _⟩
      obtain rfl := yields_unique scope typed again
      exact ⟨trivial, kind⟩
    · rintro ⟨_, kind⟩
      exact ⟨_, _, typed, kind, rfl⟩
  case h_26 input result | h_28 input result =>
    obtain _ | ⟨typed, ⟨⟩⟩ := typed
    constructor
    · rintro ⟨_, type, again, kind, ⟨scaled, _⟩, _⟩
      obtain rfl := yields_unique scope typed again
      exact ⟨trivial, kind, scaled⟩
    · rintro ⟨_, kind, scaled⟩
      exact ⟨_, _, typed, kind, ⟨scaled, agree⟩, rfl⟩

theorem given_parameters_unasked (asked : operator.asLayer? inputs results = some layer) :
    layer.ParametersAsked operands := by
  unfold Operator.asLayer? at asked
  split at asked
  case h_12 =>
    obtain ⟨stops, _, rfl⟩ := Option.map_eq_some_iff.mp asked
    trivial
  case h_29 => cases asked
  all_goals
    obtain rfl := Option.some.inj asked
    trivial

-- The parameters of these layers have the shapes that the check asks for, whatever those of the node
-- were.
theorem asked_layer_drafted_iff (asked : operator.AskedBy inputs results layer)
    (typed : List.Forall₂ scope.Yields inputs operands) (agree : operator.ShapesAgree operands results) :
    (∃ draft, scope.draft label layer = .ok draft) ↔
      operator.Stretches operands ∧ operator.ElementsAsked operands results ∧
        layer.ParametersAsked operands := by
  cases asked with
  | given _ _ _ _ asked =>
      rw [layer_drafted_iff scope label operator inputs operands results layer asked typed agree,
        and_iff_left (given_parameters_unasked operator inputs operands results layer asked)]
  | convolution window depth input rest results =>
      obtain _ | ⟨yields, _⟩ := typed
      unfold Operator.ShapesAgree at agree
      split at agree
      case h_1 same sameOperands =>
        cases same
        cases sameOperands
        obtain ⟨images, imaged, slides, _⟩ := agree
        simp only [Scope.draft, bind_ok_iff, some_unit_iff, operand_iff, require_ok_iff, shaped_ok_iff,
          images_of_iff, window_output_iff, count_iff]
        constructor
        · rintro ⟨_, type, again, found, shown, _, _, deep, fanIn, counted, _⟩
          obtain rfl := yields_unique scope yields again
          rw [ParametersAsked, shown]
          exact ⟨trivial, trivial, deep, (countable_iff _).mpr ⟨fanIn, counted⟩⟩
        · rintro ⟨_, _, deep, countable⟩
          rw [imaged] at countable
          obtain ⟨fanIn, counted⟩ := (countable_iff _).mp countable
          exact ⟨_, _, yields, images, imaged, _, ⟨slides, rfl⟩, deep, fanIn, counted, rfl⟩
      all_goals contradiction
  | fullyConnected input rest result batch depth dims =>
      obtain _ | ⟨yields, _⟩ := typed
      unfold Operator.ShapesAgree at agree
      split at agree
      case h_3 sameOperands sameResults =>
        cases sameOperands
        cases sameResults
        obtain ⟨rows, features, columns, flat, _⟩ := agree
        simp only [Scope.draft, bind_ok_iff, some_unit_iff, operand_iff, require_ok_iff, shaped_ok_iff,
          flattened_iff]
        constructor
        · rintro ⟨_, _, _, _, _, deep, _⟩
          exact ⟨trivial, trivial, deep⟩
        · rintro ⟨_, _, deep⟩
          exact ⟨_, _, yields, (rows, features), flat, deep, rfl⟩
      all_goals contradiction
  | batchNormalization channel epsilon momentum input rest results =>
      obtain _ | ⟨yields, _⟩ := typed
      unfold Operator.ShapesAgree at agree
      split at agree
      case h_15 same sameOperands =>
        cases same
        cases sameOperands
        obtain ⟨channels, channelled, _⟩ := agree
        simp only [Scope.draft, bind_ok_iff, operand_iff, channels_of_iff]
        exact iff_of_true ⟨_, _, yields, channels, channelled, rfl⟩ ⟨trivial, trivial, trivial⟩
      all_goals contradiction
  | save input rest results =>
      obtain _ | ⟨yields, _⟩ := typed
      simp only [Scope.draft, bind_ok_iff, operand_iff]
      exact iff_of_true ⟨_, _, yields, rfl⟩ ⟨trivial, trivial, trivial⟩

end Rebuilt

end TensorGraph
