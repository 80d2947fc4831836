set_option autoImplicit false

namespace TensorGraph

structure VariableId where
  index : Nat
deriving DecidableEq, Repr

structure NodeId where
  index : Nat
deriving DecidableEq, Repr

structure FunctionId where
  index : Nat
deriving DecidableEq, Repr

def VariableId.text (id : VariableId) : String := "VariableId(" ++ toString id.index ++ ")"

def FunctionId.text (id : FunctionId) : String := "FunctionId(" ++ toString id.index ++ ")"

-- Where a value comes from: a stored variable or a node that computes it.
inductive Producer where
  | var (id : VariableId)
  | node (id : NodeId)
deriving DecidableEq, Repr

namespace Producer

def variableId? : Producer → Option VariableId
  | var id => some id
  | node _ => none

def nodeId? : Producer → Option NodeId
  | var _ => none
  | node id => some id

def isVariable : Producer → Bool
  | var _ => true
  | node _ => false

def text : Producer → String
  | var id => "@v" ++ toString id.index
  | node id => "%" ++ toString id.index

-- Variables come before nodes; within a kind the identifiers decide.
def order : Producer → Producer → Ordering
  | var a, var b => compare a.index b.index
  | var _, node _ => .lt
  | node _, var _ => .gt
  | node a, node b => compare a.index b.index

end Producer

structure Edge where
  producer : Producer
  slot : Nat
deriving DecidableEq, Repr

namespace Edge

def ofProducer (producer : Producer) : Edge := ⟨producer, 0⟩

def ofVariable (id : VariableId) : Edge := ofProducer (.var id)

def ofNode (id : NodeId) : Edge := ofProducer (.node id)

def text (edge : Edge) : String :=
  if edge.slot = 0 then edge.producer.text else edge.producer.text ++ "#" ++ toString edge.slot

end Edge

end TensorGraph
