import TensorGraph.Operator.Basic

set_option autoImplicit false

namespace TensorGraph

namespace Operator

-- The names of the operands, or nothing for an operator that takes any positive number of them.
def inputPins : Operator → Option (List String)
  | convolution _ _ => some ["Input", "Filter", "Bias"]
  | fullyConnected => some ["Input", "Weights", "Bias"]
  | softMax => some ["Input", "Selected"]
  | crossEntropyLoss => some ["P", "Labels"]
  | regression => some ["Input", "Expected"]
  | concat _ => none
  | batchNormalization _ _ _ => some ["Input", "Scale", "Bias", "Mean", "Var"]
  | arithmetic _ | matMul => some ["LHS", "RHS"]
  | pow _ => some ["Base"]
  | select => some ["Cond", "LHS", "RHS"]
  | splat _ => some []
  | batchedReduceAdd => some ["Batch"]
  | batchedAdd => some ["Batch", "Slice"]
  | save => some ["Input", "Output"]
  | quantizationProfile _ => some ["Input", "Histogram", "ComputationInfo"]
  | gather => some ["Data", "Indices"]
  | pool _ _ | activation _ | reshape _ | transpose _ | broadcast _ _ | slice _
  | localResponseNormalization _ _ _ _ | topK _ | quantize | dequantize | rescaleQuantized =>
      some ["Input"]

def outputPins : Operator → List String
  | topK _ => ["Values", "Indices"]
  | crossEntropyLoss => ["CE"]
  | _ => ["Result"]

def inputCount? (operator : Operator) : Option Nat := operator.inputPins.map List.length

def resultCount (operator : Operator) : Nat := operator.outputPins.length

-- The name of operand `i`; operands beyond the named ones are numbered.
def inputName (operator : Operator) (i : Nat) : String :=
  match (operator.inputPins.getD [])[i]? with
  | some pin => pin
  | none => "Input" ++ toString i

-- The name of result `i`; results beyond the named ones are numbered.
def outputName (operator : Operator) (i : Nat) : String :=
  match operator.outputPins[i]? with
  | some pin => pin
  | none => "Result" ++ toString i

def overwrites : Operator → Nat → Bool
  | save, i => i == 1
  | quantizationProfile _, i => i == 1 || i == 2
  | _, _ => false

end Operator

end TensorGraph
