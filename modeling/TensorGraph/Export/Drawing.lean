import TensorGraph.Export.Palette
import TensorGraph.Export.Record
import TensorGraph.Graph.Scope
import TensorGraph.Graph.Walk

set_option autoImplicit false

namespace TensorGraph

inductive Vertex where
  | record (producer : Producer) (inputs : List String) (text : String) (outputs : List String)
      (style : String)
  | box (function : FunctionId) (name : String) (size : Nat)
deriving DecidableEq, Repr

-- Where an arrow ends: at a named pin, at the western side of a node, or at the box of a function.
inductive ArrowHead where
  | pin (producer : Producer) (input : String)
  | west (producer : Producer)
  | box (function : FunctionId)
deriving DecidableEq, Repr

structure Arrow where
  tail : Producer
  pin : String
  head : ArrowHead
  isTwoWay : Bool
deriving DecidableEq, Repr

structure Drawing where
  vertices : List Vertex
  arrows : List Arrow
deriving DecidableEq, Repr

def withoutRepeats {α : Type} [DecidableEq α] : List α → List α
  | [] => []
  | item :: rest => item :: (withoutRepeats rest).filter fun other => other ≠ item

def vertexName : Producer → String
  | .var id => "\"v" ++ toString id.index ++ "\""
  | .node id => "\"n" ++ toString id.index ++ "\""

def boxName (id : FunctionId) : String := "\"f" ++ toString id.index ++ "\""

def Vertex.text : Vertex → String
  | .record producer inputs text outputs style =>
      vertexName producer ++ "[\n\tlabel = \"" ++ String.ofList (recordLabel inputs text outputs) ++
        "\"\n\tshape = \"record\"\n\tstyle=\"filled,rounded\"\n\t" ++ style ++ "\npenwidth = 2];"
  | .box function name size =>
      boxName function ++ "[\n\tlabel = \"Function\\lname : " ++ quoted name ++ "\\lnode count : " ++
        toString size ++ "\\l\"\n\tshape = box\n\tfillcolor=gray89, style=\"filled,rounded\"\n];"

def ArrowHead.text : ArrowHead → String
  | .pin producer input => vertexName producer ++ ":" ++ input
  | .west producer => vertexName producer ++ ":w"
  | .box function => boxName function

def Arrow.text (arrow : Arrow) : String :=
  vertexName arrow.tail ++ ":" ++ arrow.pin ++ " -> " ++ arrow.head.text ++
    if arrow.isTwoWay then " [dir=\"both\"]" else ""

-- The lines of the arrows. Those that read the same are drawn once.
def Drawing.arrowLines (drawing : Drawing) : List String :=
  withoutRepeats (drawing.arrows.map Arrow.text)

def Drawing.text (drawing : Drawing) : String :=
  "digraph DAG \x7b\n\trankdir=TB;\n" ++
    String.join (drawing.vertices.map fun vertex => vertex.text ++ "\n") ++
    String.join (drawing.arrowLines.map fun line => line ++ ";\n") ++ "\x7d"

def Variable.vertex (v : Variable) (types : TypePool) : Vertex :=
  .record (.var v.id) [] (v.descriptor types) [Variable.outputName]
    (match v.visibility with
    | .external => "fillcolor=Snow2; color=DarkOliveGreen4"
    | .internal => "fillcolor=Snow3; color=DeepSkyBlue4")

def Node.vertex (node : Node) (types : TypePool) : Vertex :=
  .record (.node node.id) ((List.range node.inputs.length).map node.operator.inputName)
    (node.descriptor types) ((List.range node.results.length).map node.operator.outputName)
    ("fillcolor=" ++ nodeColor node.operator.name)

namespace Scope

def predicateArrow (scope : Scope) (node : Node) (edge : Edge) : Arrow :=
  ⟨edge.producer, scope.outputPin edge, .west (.node node.id), false⟩

def inputArrow (scope : Scope) (node : Node) (i : Nat) (edge : Edge) : Arrow :=
  ⟨edge.producer, scope.outputPin edge, .pin (.node node.id) (node.operator.inputName i),
    node.operator.overwrites i⟩

def nodeArrows (scope : Scope) (node : Node) : List Arrow :=
  node.predicate.toList.map (scope.predicateArrow node) ++
    node.inputs.zipIdx.map fun input => scope.inputArrow node input.2 input.1

def vertex? (scope : Scope) : Producer → Option Vertex
  | .var id => (scope.storage.get? id).map fun v => v.vertex scope.types
  | .node id => (scope.function.node? id).map fun node => node.vertex scope.types

def arrowsInto (scope : Scope) : Producer → List Arrow
  | .var _ => []
  | .node id =>
      match scope.function.node? id with
      | some node => scope.nodeArrows node
      | none => []

-- All that a walk over the function meets, with an arrow for each edge.
def drawing (scope : Scope) : Drawing :=
  { vertices := scope.function.depthFirst.filterMap scope.vertex?
    arrows := scope.function.depthFirst.flatMap scope.arrowsInto }

end Scope

end TensorGraph
