import TensorGraph.Export.Drawing
import TensorGraph.Export.Listing
import TensorGraph.Network.Basic

set_option autoImplicit false

namespace TensorGraph

def Variable.listed (v : Variable) (types : TypePool) : String :=
  "@v" ++ toString v.id.index ++ " " ++ v.name ++ " : " ++ types.textOf "" v.type ++ " " ++
    v.visibility.word ++ " init=" ++ v.initializer.name ++ "(" ++ v.initializer.argument.text ++ ")"

def Function.listed (function : Function) : String :=
  function.name ++ " (" ++ toString function.size ++ " nodes)"

def Function.box (function : Function) : Vertex := .box function.id function.name function.size

namespace Network

-- The variables and the functions, one a line.
def dump (network : Network) : String :=
  listingLine 0 "module \x7b" ++ listingLine 1 "variables:" ++
    String.join (network.storage.map fun v => listingLine 2 (v.listed network.types)) ++
    listingLine 1 "functions:" ++
    String.join (network.functions.map fun function => listingLine 2 function.listed) ++
      listingLine 0 "\x7d"

-- An arrow from a live variable that an input reads to the function around it.
def usageArrow? (network : Network) (id : FunctionId) (node : Node) (i : Nat) (edge : Edge) :
    Option Arrow :=
  match edge.producer with
  | .var v =>
      (network.storage.get? v).map fun _ =>
        ⟨edge.producer, Variable.outputName, .box id, node.operator.overwrites i⟩
  | .node _ => none

def usageArrows (network : Network) (function : Function) : List Arrow :=
  function.nodes.flatMap fun node =>
    node.inputs.zipIdx.filterMap fun input => network.usageArrow? function.id node input.2 input.1

def drawing (network : Network) : Drawing :=
  { vertices := network.storage.map (fun v => v.vertex network.types) ++
    network.functions.map Function.box
    arrows := network.functions.flatMap network.usageArrows }

end Network

end TensorGraph
