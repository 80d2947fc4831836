import TensorGraph.Graph.Scope

set_option autoImplicit false

namespace TensorGraph

-- An edge as a listing shows it, with the name of the variable that it reads.
structure ListedEdge where
  edge : Edge
  reads : Option String
deriving DecidableEq, Repr

structure ListedNode where
  id : NodeId
  name : String
  operator : Operator
  inputs : List ListedEdge
  results : List String
  predicate : Option ListedEdge
deriving DecidableEq, Repr

def ListedEdge.text (listed : ListedEdge) : String :=
  match listed.reads with
  | some name => listed.edge.text ++ ":" ++ name
  | none => listed.edge.text

namespace ListedNode

def attributesText (attributes : List (String × String)) : String :=
  match attributes with
  | [] => ""
  | _ => " \x7b" ++ String.intercalate ", " (attributes.map fun entry => entry.1 ++ ": " ++
      entry.2) ++ "\x7d"

def predicateText : Option ListedEdge → String
  | some listed => " if " ++ listed.text
  | none => ""

def text (listed : ListedNode) : String :=
  "%" ++ toString listed.id.index ++ " " ++ listed.name ++ " = " ++ listed.operator.name ++
    "(" ++ String.intercalate ", " (listed.inputs.map ListedEdge.text) ++ ") -> " ++
    String.intercalate ", " listed.results ++ attributesText listed.operator.attributes ++
    predicateText listed.predicate

end ListedNode

def listingLine (depth : Nat) (line : String) : String :=
  String.join (List.replicate depth "  ") ++ line ++ "\n"

namespace Scope

def listedEdge (scope : Scope) (edge : Edge) : ListedEdge :=
  match edge.producer with
  | .var id =>
      match scope.storage.get? id with
      | some v => ⟨edge, some v.name⟩
      | none => ⟨edge, some "<erased>"⟩
  | .node _ => ⟨edge, none⟩

def listedNode (scope : Scope) (node : Node) : ListedNode :=
  { id := node.id
    name := node.name
    operator := node.operator
    inputs := node.inputs.map scope.listedEdge
    results := node.results.map (scope.types.textOf "?")
    predicate := node.predicate.map scope.listedEdge }

def listing (scope : Scope) : List ListedNode := scope.function.nodes.map scope.listedNode

def dump (scope : Scope) : String :=
  listingLine 0 ("function " ++ scope.function.name ++ " \x7b") ++
    String.join (scope.listing.map fun listed => listingLine 1 listed.text) ++ listingLine 0 "\x7d"

end Scope

end TensorGraph
