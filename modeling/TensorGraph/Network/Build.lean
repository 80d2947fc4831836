import TensorGraph.Layer.Draft
import TensorGraph.Network.Basic

set_option autoImplicit false

namespace TensorGraph

namespace Scope

def typesOf (scope : Scope) : List Edge → Except GraphFault (List TensorType)
  | [] => .ok []
  | edge :: rest => do
      let type ← scope.typeOf edge
      let types ← scope.typesOf rest
      .ok (type :: types)

end Scope

-- The edge of an operand, the variables of a draft being numbered from `start`.
def Operand.edge (start : Nat) : Operand → Edge
  | given edge => edge
  | fresh parameter => .ofVariable ⟨start + parameter⟩

namespace Network

-- Creates the variables and result types of a draft and adds its node once the operator accepts them.
def build (network : Network) (id : FunctionId) (function : Function) (draft : Draft) : Outcome NodeId :=
  let inputs := draft.operands.map (Operand.edge network.nextVariable)
  let supplied := network.createVariables draft.parameters
  let handles := supplied.types.internAll draft.results
  let ready := { supplied with types := handles.2 }
  match (ready.scopeOf function).typesOf inputs with
  | .error fault => (.error fault, ready)
  | .ok types =>
      match draft.operator.check types draft.results with
      | .error fault => (.error (.invalidAttribute draft.label (.operator fault)), ready)
      | .ok _ => ready.addNode id draft.label draft.operator inputs handles.1

def addLayer (network : Network) (id : FunctionId) (label : String) (layer : Layer) : Outcome NodeId :=
  match network.function? id with
  | none => (.error (.unknownFunction id), network)
  | some function =>
      match (network.scopeOf function).draft label layer with
      | .error fault => (.error fault, network)
      | .ok draft => network.build id function draft

end Network

end TensorGraph
