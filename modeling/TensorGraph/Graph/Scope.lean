import TensorGraph.Graph.Fault
import TensorGraph.Graph.Function
import TensorGraph.Graph.Variable

set_option autoImplicit false

namespace TensorGraph

-- A function together with the types and variables of its network: all that its edges can refer to.
structure Scope where
  types : TypePool
  storage : Variables
  function : Function
deriving DecidableEq, Repr

namespace Scope

-- The type handle behind an edge. A variable has slot 0 only.
def handle? (scope : Scope) (edge : Edge) : Option TypeHandle :=
  match edge.producer with
  | .var id => if edge.slot = 0 then (scope.storage.get? id).map Variable.type else none
  | .node id => (scope.function.node? id).bind fun node => node.results[edge.slot]?

def typeOf (scope : Scope) (edge : Edge) : Except GraphFault TensorType :=
  match scope.handle? edge with
  | none => .error (.nodeNotFound edge.producer)
  | some handle =>
      match scope.types.get? handle with
      | some type => .ok type
      | none => .error (.unknownType edge.text handle)

-- The type of an operand of a node that is about to be added.
def operand (scope : Scope) (label : String) (edge : Edge) : Except GraphFault TensorType :=
  match (scope.handle? edge).bind scope.types.get? with
  | some type => .ok type
  | none => .error (.unknownOperand label edge)

def producerName (scope : Scope) : Producer → String
  | .var id => ((scope.storage.get? id).map Variable.name).getD ""
  | .node id => ((scope.function.node? id).map Node.name).getD ""

def descriptor (scope : Scope) : Producer → String
  | .var id => ((scope.storage.get? id).map fun v => v.descriptor scope.types).getD ""
  | .node id => ((scope.function.node? id).map fun node => node.descriptor scope.types).getD ""

-- The number of result slots, unless the producer does not resolve.
def resultCount? (scope : Scope) : Producer → Option Nat
  | .var id => (scope.storage.get? id).map fun _ => 1
  | .node id => (scope.function.node? id).map fun node => node.results.length

-- The type of an edge whose slot has been checked before.
def slotType? (scope : Scope) (edge : Edge) : Option TensorType :=
  match edge.producer with
  | .var id => (scope.storage.get? id).bind fun v => scope.types.get? v.type
  | .node id => (scope.function.node? id).bind fun node =>
      (node.results[edge.slot]?).bind scope.types.get?

-- The pin that an edge leaves its producer by; a producer that is gone keeps a plausible one.
def outputPin (scope : Scope) (edge : Edge) : String :=
  match edge.producer with
  | .var _ => Variable.outputName
  | .node id =>
      match scope.function.node? id with
      | some node => node.operator.outputName edge.slot
      | none => "Result" ++ toString edge.slot

end Scope

end TensorGraph
