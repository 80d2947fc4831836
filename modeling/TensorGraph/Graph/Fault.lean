import TensorGraph.Graph.Edge
import TensorGraph.Operator.Check
import TensorGraph.Types.Pool

set_option autoImplicit false

namespace TensorGraph

inductive NodeFault where
  | predicateSlot (slot : Nat) (producer : Producer) (available : Nat)
  | untypedInput (edge : Edge)
  | unknownResult (handle : TypeHandle)
  | operator (fault : OperatorFault)
deriving DecidableEq, Repr

def NodeFault.message : NodeFault → String
  | predicateSlot slot producer available =>
      "predicate reads result slot " ++ toString slot ++ " of " ++ producer.text ++ ", which has " ++
        toString available ++ " results"
  | untypedInput edge => "input " ++ edge.text ++ " has no type in this module"
  | unknownResult handle => "result type " ++ handle.text ++ " is not interned"
  | operator fault => fault.message

-- What verification finds wrong with a function. Nodes are given by their names, inputs by their
-- positions.
inductive Violation where
  | nameConflict (name current previous : String)
  | danglingEdge (node : String) (input : Nat) (producer : Producer)
  | danglingPredicate (node : String) (producer : Producer)
  | resultSlot (node : String) (input : Nat) (producer : Producer) (slot available : Nat)
  | inconsistent (node : String) (fault : NodeFault)
  | cycle (node : String)
deriving DecidableEq, Repr

def Violation.message : Violation → String
  | nameConflict name current previous =>
      "name '" ++ name ++ "' conflicts with a previous definition\ncurrent: " ++ current ++
        "\nprevious: " ++ previous
  | danglingEdge node input producer =>
      "input " ++ toString input ++ " of node '" ++ node ++ "' references " ++ producer.text ++
        ", which is neither a module variable nor a node of this function"
  | danglingPredicate node producer =>
      "predicate of node '" ++ node ++ "' references " ++ producer.text ++
        ", which is neither a module variable nor a node of this function"
  | resultSlot node input producer slot available =>
      "input " ++ toString input ++ " of node '" ++ node ++ "' reads result slot " ++
        toString slot ++ " of " ++ producer.text ++ ", which has " ++ toString available ++ " results"
  | inconsistent node fault => "node '" ++ node ++ "' is inconsistent: " ++ fault.message
  | cycle node => "node '" ++ node ++ "' is part of a cycle"

inductive ElementFault where
  | unequal (lhs rhs : TensorType)
  | unlikeFirst (type first : TensorType)
  | inputNotFloat (input : TensorType)
  | inputNotInt8 (input : TensorType)
  | outputNotInt8 (output : TensorType)
deriving DecidableEq, Repr

def ElementFault.message : ElementFault → String
  | unequal lhs rhs => lhs.text ++ " and " ++ rhs.text ++ " differ in element kind"
  | unlikeFirst type first => type.text ++ " does not match " ++ first.text
  | inputNotFloat input => "input " ++ input.text ++ " is not float"
  | inputNotInt8 input => "input " ++ input.text ++ " is not i8q"
  | outputNotInt8 output => "output " ++ output.text ++ " is not an i8q type"

inductive AttributeFault where
  | shape (fault : ShapeFault)
  | operator (fault : OperatorFault)
  | emptyDepth
  | emptyOutputDepth
  | reshape (given : Extent) (dims : Dims) (wanted : Extent)
  | placement (input : TensorType) (axis : Extent) (target : Dims)
  | stretch (extent : Extent) (axis : Nat) (target : Extent)
  | concatAxis (axis : Extent) (first : TensorType)
  | channelRange (channel : Extent) (input : TensorType)
deriving DecidableEq, Repr

def AttributeFault.message : AttributeFault → String
  | shape fault => fault.message
  | operator fault => fault.message
  | emptyDepth => "depth must be positive"
  | emptyOutputDepth => "output depth must be positive"
  | reshape given dims wanted =>
      "cannot reshape " ++ given.text ++ " elements into " ++ dims.text ++ " (" ++
        wanted.text ++ " elements)"
  | placement input axis target =>
      "input " ++ input.text ++ " placed at axis " ++ axis.text ++
        " does not fit target shape " ++ target.text
  | stretch extent axis target =>
      "extent " ++ extent.text ++ " on input axis " ++ toString axis ++
        " cannot broadcast to " ++ target.text
  | concatAxis axis first => "axis " ++ axis.text ++ " out of range for " ++ first.text
  | channelRange channel input => "channel index " ++ channel.text ++ " out of range for " ++ input.text

-- Why a file could not be written, by the kind of the error that the file system gave.
structure WriteFault where
  kind : String
deriving DecidableEq, Repr

-- Why a request on a network failed. A label is the name that was requested for the node in question.
inductive GraphFault where
  | duplicateFunction (name : String)
  | unknownFunction (id : FunctionId)
  | unknownVariable (id : VariableId)
  | nodeNotFound (producer : Producer)
  | unknownOperand (label : String) (operand : Edge)
  | unknownType (label : String) (handle : TypeHandle)
  | shapeMismatch (label : String) (expected given : Dims)
  | rankMismatch (label : String) (expected given : Nat)
  | elementMismatch (label : String) (fault : ElementFault)
  | invalidAttribute (label : String) (fault : AttributeFault)
  | unwritable (path : String) (cause : WriteFault)
  | violation (found : Violation)
  | missingMapping (node : String) (input : Nat) (producer : Producer)
deriving DecidableEq, Repr

def GraphFault.message : GraphFault → String
  | duplicateFunction name => "a function named '" ++ name ++ "' already exists"
  | unknownFunction id => "unknown function " ++ id.text
  | unknownVariable id => "unknown variable " ++ id.text
  | nodeNotFound producer => "node " ++ producer.text ++ " was not found"
  | unknownOperand label operand =>
      "operand " ++ operand.text ++ " of '" ++ label ++ "' does not resolve in this function"
  | unknownType label handle =>
      "'" ++ label ++ "': type handle " ++ handle.text ++ " was not issued by this module's type pool"
  | shapeMismatch label expected given =>
      "'" ++ label ++ "': shape mismatch, expected " ++ expected.text ++ ", got " ++ given.text
  | rankMismatch label expected given =>
      "'" ++ label ++ "': rank mismatch, expected " ++ toString expected ++ ", got " ++ toString given
  | elementMismatch label fault => "'" ++ label ++ "': element kind mismatch: " ++ fault.message
  | invalidAttribute label fault => "'" ++ label ++ "': invalid attribute: " ++ fault.message
  | unwritable path _ => "failed to write " ++ path
  | violation found => found.message
  | missingMapping node input producer =>
      "input " ++ toString input ++ " of node '" ++ node ++ "' references " ++ producer.text ++
        ", which has no clone and is not a variable"

end TensorGraph
