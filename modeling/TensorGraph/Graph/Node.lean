import TensorGraph.Graph.Edge
import TensorGraph.Operator.Pins
import TensorGraph.Types.Pool

set_option autoImplicit false

namespace TensorGraph

-- An operator at work: its operands, the types of its results, and an optional edge that decides at run
-- time whether it runs.
structure Node where
  id : NodeId
  name : String
  operator : Operator
  inputs : List Edge
  results : List TypeHandle
  predicate : Option Edge := none
deriving DecidableEq, Repr

namespace Node

-- All edges that the node reads, the predicate last.
def reads (node : Node) : List Edge := node.inputs ++ node.predicate.toList

def withInput (node : Node) (i : Nat) (edge : Edge) : Node :=
  { node with inputs := node.inputs.set i edge }

def resultLines (node : Node) (pool : TypePool) : List String :=
  node.results.zipIdx.map fun entry =>
    (node.operator.outputName entry.2).toLower ++ " : " ++ pool.textOf "<unknown type>" entry.1

def descriptor (node : Node) (pool : TypePool) : String :=
  String.intercalate "\n" ([node.operator.name, "name : " ++ node.name] ++
    node.operator.attributes.map (fun entry => entry.1 ++ " : " ++ entry.2) ++ node.resultLines pool)

end Node

end TensorGraph
