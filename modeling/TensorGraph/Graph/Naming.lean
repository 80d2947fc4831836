import TensorGraph.Number.Decimal

set_option autoImplicit false

namespace TensorGraph

-- What separates the requested part of a name from the counter that makes it unique.
def nameDelimiter : List Char := ['_', '_']

def nameStem : List Char → List Char
  | [] => []
  | c :: rest => if nameDelimiter.isPrefixOf (c :: rest) then [] else c :: nameStem rest

def uniqueName (counter : Nat) (requested : String) : String :=
  String.ofList (nameStem requested.toList ++ (nameDelimiter ++ decimalDigits counter))

end TensorGraph
