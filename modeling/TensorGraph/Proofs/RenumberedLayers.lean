import TensorGraph.Layer.Draft
import TensorGraph.Proofs.Renumbering

set_option autoImplicit false

namespace TensorGraph

def GraphFault.renumbered (image : NodeId → NodeId) : GraphFault → GraphFault
  | .nodeNotFound producer => .nodeNotFound (producer.renumbered image)
  | .unknownOperand label operand => .unknownOperand label (operand.renumbered image)
  | .violation found => .violation (found.renumbered image)
  | .missingMapping node input producer => .missingMapping node input (producer.renumbered image)
  | fault => fault

def Layer.renumbered (image : NodeId → NodeId) : Layer → Layer
  | .convolution input depth window => .convolution (input.renumbered image) depth window
  | .convolutionWith input filter bias result depth window =>
      .convolutionWith (input.renumbered image) (filter.renumbered image)
        (bias.renumbered image) result depth window
  | .pool method input window => .pool method (input.renumbered image) window
  | .fullyConnected input depth => .fullyConnected (input.renumbered image) depth
  | .fullyConnectedWith input weights bias =>
      .fullyConnectedWith (input.renumbered image) (weights.renumbered image) (bias.renumbered image)
  | .activation curve input => .activation curve (input.renumbered image)
  | .softMax input selected => .softMax (input.renumbered image) (selected.renumbered image)
  | .crossEntropyLoss input labels =>
      .crossEntropyLoss (input.renumbered image) (labels.renumbered image)
  | .regression input expected => .regression (input.renumbered image) (expected.renumbered image)
  | .reshape input dims => .reshape (input.renumbered image) dims
  | .transpose input shuffle => .transpose (input.renumbered image) shuffle
  | .broadcast input shape axis => .broadcast (input.renumbered image) shape axis
  | .concat inputs axis => .concat (inputs.map (Edge.renumbered image)) axis
  | .slice input start stop => .slice (input.renumbered image) start stop
  | .batchNormalization input channel epsilon momentum =>
      .batchNormalization (input.renumbered image) channel epsilon momentum
  | .batchNormalizationWith input beta gamma mean variance channel epsilon momentum =>
      .batchNormalizationWith (input.renumbered image) (beta.renumbered image) (gamma.renumbered image)
        (mean.renumbered image) (variance.renumbered image) channel epsilon momentum
  | .localResponseNormalization input halfWindow alpha beta k =>
      .localResponseNormalization (input.renumbered image) halfWindow alpha beta k
  | .arithmetic op lhs rhs => .arithmetic op (lhs.renumbered image) (rhs.renumbered image)
  | .pow base exponent => .pow (base.renumbered image) exponent
  | .select condition lhs rhs =>
      .select (condition.renumbered image) (lhs.renumbered image) (rhs.renumbered image)
  | .splat type value => .splat type value
  | .matMul lhs rhs => .matMul (lhs.renumbered image) (rhs.renumbered image)
  | .batchedReduceAdd batch => .batchedReduceAdd (batch.renumbered image)
  | .batchedAdd batch addend => .batchedAdd (batch.renumbered image) (addend.renumbered image)
  | .save input => .save (input.renumbered image)
  | .saveTo input output => .saveTo (input.renumbered image) output
  | .quantizationProfile input => .quantizationProfile (input.renumbered image)
  | .topK input k => .topK (input.renumbered image) k
  | .gather data indices => .gather (data.renumbered image) (indices.renumbered image)
  | .quantize input result => .quantize (input.renumbered image) result
  | .dequantize input => .dequantize (input.renumbered image)
  | .rescaleQuantized input result => .rescaleQuantized (input.renumbered image) result

def Operand.renumbered (image : NodeId → NodeId) : Operand → Operand
  | given edge => given (edge.renumbered image)
  | fresh parameter => fresh parameter

def Draft.renumbered (image : NodeId → NodeId) (draft : Draft) : Draft :=
  { draft with operands := draft.operands.map (Operand.renumbered image) }

-- An answer in other numbers, whether it is a value or a fault.
def retold {α β : Type} (image : NodeId → NodeId) (change : α → β) (answer : Except GraphFault α) :
    Except GraphFault β :=
  (answer.map change).mapError (GraphFault.renumbered image)

section Retelling

variable {α β γ : Type} (image : NodeId → NodeId)

theorem retold_bind (change : β → γ) (first : Except GraphFault α) (next : α → Except GraphFault β) :
    retold image change (first >>= next) =
      first.mapError (GraphFault.renumbered image) >>= fun value =>
        retold image change (next value) := by
  cases first with
  | error fault => rfl
  | ok value => rfl

-- An answer without numbers.
abbrev Plain (answer : Except GraphFault α) : Prop :=
  answer.mapError (GraphFault.renumbered image) = answer

theorem plain_bind (first : Except GraphFault α) (next : α → Except GraphFault β)
    (plain : Plain image first)
    (later : ∀ value, Plain image (next value)) : Plain image (first >>= next) := by
  cases first with
  | error fault => exact congrArg Except.error (Except.error.inj plain)
  | ok value => exact later value

theorem require_renumbered (p : Prop) [Decidable p] (fault : GraphFault) :
    (require p fault).mapError (GraphFault.renumbered image) = require p (fault.renumbered image) := by
  by_cases holds : p
  · rw [require, require, if_pos holds, if_pos holds]
    rfl
  · rw [require, require, if_neg holds, if_neg holds]
    rfl

open Layer

variable (label : String)

theorem plain_shaped (shape : Except ShapeFault α) : Plain image (shaped label shape) := by
  cases shape with
  | error fault => rfl
  | ok value => rfl

theorem plain_images (type : TensorType) : Plain image (imagesOf label type) :=
  plain_bind image _ _ (require_renumbered image _ _) fun _ => plain_shaped image label _

theorem plain_expect_shape (expected : Dims) (type : TensorType) :
    Plain image (expectShape label expected type) :=
  require_renumbered image _ _

theorem plain_expect_count (count : Extent) (type : TensorType) :
    Plain image (expectCount label count type) :=
  require_renumbered image _ _

theorem plain_expect_int8 (input result : TensorType) :
    Plain image (expectInt8Result label input result) :=
  plain_bind image _ _ (require_renumbered image _ _) fun _ => plain_expect_shape image label _ _

theorem plain_stretches (axis : Nat) (extents targets : Dims) :
    Plain image (stretches label axis extents targets) := by
  induction extents generalizing axis targets with
  | nil => rfl
  | cons extent extents ih =>
      cases targets with
      | nil => rfl
      | cons target targets =>
          exact plain_bind image _ _ (require_renumbered image _ _) fun _ => ih (axis + 1) targets

theorem plain_channels (input : TensorType) (channel : Extent) :
    Plain image (channelsOf label input channel) := by
  unfold channelsOf
  cases input.dims[channel.toNat]? with
  | none => rfl
  | some channels => rfl

theorem plain_matrix (dims : Dims) : Plain image (matrixDims label dims) := by
  unfold matrixDims
  split
  · rfl
  · rfl

theorem plain_entry (dims : Dims) : Plain image (entryDims label dims) := by
  cases dims with
  | nil => rfl
  | cons count entry => rfl

theorem plain_stacked (axis : Extent) (first type : TensorType) (total : Extent) :
    Plain image (stacked label axis first total type) := by
  refine plain_bind image _ _ (require_renumbered image _ _) fun _ => ?_
  refine plain_bind image _ _ (require_renumbered image _ _) fun _ => ?_
  refine plain_bind image _ _ (require_renumbered image _ _) fun _ => ?_
  cases total.add? (type.dims.getD axis.toNat 0) with
  | none => rfl
  | some larger => rfl

end Retelling

theorem among_all (producer : Producer) : producer.Among fun _ => True := by
  cases producer with
  | var id => trivial
  | node id => trivial

section Reflection

variable (image : NodeId → NodeId) (source copy : Scope)
  (reflects : source.Reflects image (fun _ => True) copy)

include reflects

theorem reflected_handle (edge : Edge) : copy.handle? (edge.renumbered image) = source.handle? edge := by
  obtain ⟨producer, slot⟩ := edge
  cases producer with
  | var id => simp only [Edge.renumbered, Producer.renumbered, Scope.handle?, reflects.storage]
  | node id =>
      simp only [Edge.renumbered, Producer.renumbered, Scope.handle?, reflects.lookup id trivial]
      cases source.function.node? id with
      | none => rfl
      | some node => rfl

theorem reflected_operand (label : String) (edge : Edge) : copy.operand label (edge.renumbered image) =
    (source.operand label edge).mapError (GraphFault.renumbered image) := by
  rw [Scope.operand, Scope.operand, reflected_handle image source copy reflects, reflects.types]
  cases (source.handle? edge).bind source.types.get? with
  | none => rfl
  | some type => rfl

theorem reflected_stack (label : String) (axis : Extent) (first : TensorType) (total : Extent)
    (edges : List Edge) :
    copy.stackAll label axis first total (edges.map (Edge.renumbered image)) =
      (source.stackAll label axis first total edges).mapError (GraphFault.renumbered image) := by
  induction edges generalizing total with
  | nil => rfl
  | cons edge rest ih =>
      rw [List.map_cons, Scope.stackAll, Scope.stackAll, reflected_operand image source copy reflects]
      cases source.operand label edge with
      | error fault => rfl
      | ok type =>
          have plain := plain_stacked image label axis first type total
          simp only [bind, Except.bind, Except.mapError]
          cases stacked : Layer.stacked label axis first total type with
          | error fault =>
              rw [stacked] at plain
              exact plain.symm
          | ok larger => exact ih larger

-- A draft depends on the numbers of its operands only in that it passes them on.
theorem draft_reflected (label : String) (layer : Layer) : copy.draft label (layer.renumbered image) =
    retold image (Draft.renumbered image) (source.draft label layer) := by
  have reading := reflected_operand image source copy reflects label
  have stored : ∀ id, copy.operand label (.ofVariable id) =
      (source.operand label (.ofVariable id)).mapError (GraphFault.renumbered image) :=
    fun id => reading (.ofVariable id)
  have named : ∀ edge : Edge, copy.producerName (edge.renumbered image).producer =
      source.producerName edge.producer :=
    fun edge => reflected_name image _ source copy reflects edge.producer (among_all edge.producer)
  cases layer
  case concat inputs axis =>
    cases inputs with
    | nil => rfl
    | cons first rest =>
        have stacking := reflected_stack image source copy reflects label
        have operands : ((first :: rest).map (Edge.renumbered image)).map Operand.given =
            ((first :: rest).map Operand.given).map (Operand.renumbered image) := by
          rw [List.map_map, List.map_map]
          rfl
        simp only [Layer.renumbered, List.map_cons] at operands ⊢
        simp only [Scope.draft, List.map_cons, retold_bind, reading, stacking,
          require_renumbered, operands]
        rfl
  all_goals
    simp only [Scope.draft, Layer.renumbered, retold_bind, reading, stored, named,
      require_renumbered, plain_shaped,
      plain_images, plain_expect_shape, plain_expect_count, plain_expect_int8, plain_stretches,
      plain_channels,
      plain_matrix, plain_entry]
    rfl

end Reflection

end TensorGraph
