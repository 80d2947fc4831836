import TensorGraph.Proofs.Demands

set_option autoImplicit false

namespace TensorGraph

-- The edges that a layer is asked for with.
def Layer.edges : Layer → List Edge
  | .convolution input _ _ | .pool _ input _ | .fullyConnected input _ | .activation _ input
  | .reshape input _ | .transpose input _ | .broadcast input _ _ | .slice input _ _
  | .batchNormalization input _ _ _ | .localResponseNormalization input _ _ _ _ | .pow input _
  | .batchedReduceAdd input | .save input | .quantizationProfile input | .topK input _
  | .quantize input _ | .dequantize input | .rescaleQuantized input _ => [input]
  | .softMax first second | .crossEntropyLoss first second | .regression first second
  | .arithmetic _ first second | .matMul first second | .batchedAdd first second
  | .gather first second => [first, second]
  | .convolutionWith first second third _ _ _ | .fullyConnectedWith first second third
  | .select first second third => [first, second, third]
  | .batchNormalizationWith input beta gamma mean variance _ _ _ => [input, beta, gamma, mean, variance]
  | .concat inputs _ => inputs
  | .splat _ _ => []
  | .saveTo input output => [input, .ofVariable output]

-- What a call comes to: it is turned away at once, or only by the check of the operator, or it adds its
-- node.
inductive Plan where
  | refuse (fault : GraphFault)
  | abandon (draft : Draft) (fault : GraphFault)
  | complete (draft : Draft)

inductive Network.Plans (network : Network) (id : FunctionId) (label : String) (layer : Layer) :
    Plan → Prop where
  | stray (missing : network.function? id = none) :
      Plans network id label layer (.refuse (.unknownFunction id))
  | refused (function : Function) (found : network.function? id = some function) (fault : GraphFault)
      (drafted : (network.scopeOf function).draft label layer = .error fault) :
        Plans network id label layer (.refuse fault)
  | abandoned (function : Function) (found : network.function? id = some function) (draft : Draft)
      (drafted : (network.scopeOf function).draft label layer = .ok draft) (types : List TensorType)
      (supplied : List.Forall₂ ((network.scopeOf function).Supplies draft.parameters)
        draft.operands types)
      (fault : OperatorFault) (failed : draft.operator.check types draft.results = .error fault) :
      Plans network id label layer (.abandon draft (.invalidAttribute draft.label (.operator fault)))
  | completed (function : Function) (found : network.function? id = some function) (draft : Draft)
      (drafted : (network.scopeOf function).draft label layer = .ok draft) (types : List TensorType)
      (supplied : List.Forall₂ ((network.scopeOf function).Supplies draft.parameters)
        draft.operands types)
      (checked : draft.operator.check types draft.results = .ok ()) :
      Plans network id label layer (.complete draft)

theorem layer_planned (network : Network) (id : FunctionId) (label : String) (layer : Layer) :
    ∃ plan, network.Plans id label layer plan := by
  cases found : network.function? id with
  | none => exact ⟨_, .stray found⟩
  | some function =>
      cases drafted : (network.scopeOf function).draft label layer with
      | error fault => exact ⟨_, .refused function found fault drafted⟩
      | ok draft =>
          obtain ⟨types, asks⟩ := draft_asks _ label draft layer drafted
          cases checked : draft.operator.check types draft.results with
          | error fault =>
              exact ⟨_, .abandoned function found draft drafted types asks.supplied fault checked⟩
          | ok passed => exact ⟨_, .completed function found draft drafted types asks.supplied checked⟩

section Drafts

variable (scope other : Scope)

theorem stack_agrees (label : String) (axis : Extent) (first : TensorType) (total : Extent)
    (edges : List Edge) (agree : ∀ edge ∈ edges, other.operand label edge = scope.operand label edge) :
    other.stackAll label axis first total edges = scope.stackAll label axis first total edges := by
  induction edges generalizing total with
  | nil => rfl
  | cons edge rest ih =>
      obtain ⟨here, later⟩ := List.forall_mem_cons.mp agree
      simp only [Scope.stackAll, here, ih _ later]

-- A draft depends on nothing of its scope but what the edges of the layer lead to.
theorem draft_agrees (label : String) (layer : Layer) (agree : ∀ edge ∈ layer.edges,
    other.operand label edge = scope.operand label edge ∧
      other.producerName edge.producer = scope.producerName edge.producer) :
    other.draft label layer = scope.draft label layer := by
  cases layer
  case concat inputs axis =>
    cases inputs with
    | nil => rfl
    | cons first rest =>
        obtain ⟨⟨here, _⟩, later⟩ := List.forall_mem_cons.mp agree
        simp only [Scope.draft, here, stack_agrees scope other label axis _ _ rest
          fun edge listed => (later edge listed).1]
  all_goals
    simp only [Layer.edges, List.forall_mem_cons] at agree
    simp only [Scope.draft, agree]

end Drafts

end TensorGraph
