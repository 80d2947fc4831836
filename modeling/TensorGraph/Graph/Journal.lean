import TensorGraph.Graph.Fault
import TensorGraph.Graph.Variable

set_option autoImplicit false

namespace TensorGraph

inductive Subject where
  | network
  | function
deriving DecidableEq, Repr

-- What a network reports about itself. Variables, nodes and functions are given by their names.
inductive Event where
  | createdVariable (name : String) (visibility : Visibility) (initializer : Initializer)
  | createdFunction (name : String)
  | erasedNode (function node : String)
  | erasedVariable (name : String)
  | clonedFunction (source clone : String) (nodes : Nat)
  | verificationFailed (function : String) (found : Violation)
  | functionDump (function dump : String)
  | wroteGraph (subject : Subject) (path : String)
deriving DecidableEq, Repr

inductive Severity where
  | debug
  | info
  | error
deriving DecidableEq, Repr

def Severity.word : Severity → String
  | debug => "DEBUG"
  | info => "INFO"
  | error => "ERROR"

namespace Event

def severity : Event → Severity
  | createdVariable _ _ _ | createdFunction _ | erasedNode _ _ | erasedVariable _
  | clonedFunction _ _ _ => .debug
  | verificationFailed _ _ | functionDump _ _ => .error
  | wroteGraph _ _ => .info

def message : Event → String
  | createdVariable _ _ _ => "created variable"
  | createdFunction _ => "created function"
  | erasedNode _ _ => "erased node"
  | erasedVariable _ => "erased variable"
  | clonedFunction _ _ _ => "cloned function"
  | verificationFailed _ _ => "verification failed"
  | functionDump _ dump => "function dump:\n" ++ dump
  | wroteGraph .network _ => "wrote module graph"
  | wroteGraph .function _ => "wrote function graph"

def fields : Event → List (String × String)
  | createdVariable name visibility initializer =>
      [("variable", name), ("visibility", visibility.title), ("init", initializer.name)]
  | createdFunction name => [("function", name)]
  | erasedNode function node => [("function", function), ("node", node)]
  | erasedVariable name => [("variable", name)]
  | clonedFunction source clone nodes =>
      [("source", source), ("clone", clone), ("nodes", toString nodes)]
  | verificationFailed function found => [("function", function), ("error", found.message)]
  | functionDump function _ => [("function", function)]
  | wroteGraph _ path => [("path", path)]

end Event

end TensorGraph
