import TensorGraph.Graph.Edge
import TensorGraph.Types.Pool

set_option autoImplicit false

namespace TensorGraph

-- Whether a variable is an input or output of the network or one of its parameters.
inductive Visibility where
  | external
  | internal
deriving DecidableEq, Repr

namespace Visibility

def word : Visibility → String
  | external => "public"
  | internal => "private"

def title : Visibility → String
  | external => "Public"
  | internal => "Private"

end Visibility

-- How a variable is filled before the first run: not at all, with one value, or at random by fan-in.
inductive Initializer where
  | none
  | broadcast (value : Binary32)
  | xavier (fanIn : Binary32)
deriving DecidableEq, Repr

namespace Initializer

def name : Initializer → String
  | none => "none"
  | broadcast _ => "broadcast"
  | xavier _ => "xavier"

def argument : Initializer → Binary32
  | none => Binary32.zero
  | broadcast value => value
  | xavier fanIn => fanIn

-- The same policy with numerically equal arguments.
def agrees : Initializer → Initializer → Bool
  | none, none => true
  | broadcast a, broadcast b => a.sameNumber b
  | xavier a, xavier b => a.sameNumber b
  | _, _ => false

end Initializer

-- Storage that outlives a run and is shared by all functions. The payload is never interpreted.
structure Variable where
  id : VariableId
  name : String
  type : TypeHandle
  visibility : Visibility
  initializer : Initializer
  payload : Option (List UInt8) := none
deriving DecidableEq, Repr

namespace Variable

def outputName : String := "Output"

def descriptor (v : Variable) (pool : TypePool) : String :=
  "Variable\nname : " ++ v.name ++ "\noutput : " ++ pool.textOf "" v.type ++ "\nvisibility : " ++
    v.visibility.word ++ "\ninit : " ++ v.initializer.name ++ " (" ++ v.initializer.argument.text ++ ")"

end Variable

-- The live variables, each under its number, in the order of these numbers.
structure Variables where
  entries : List (VariableId × Variable) := []
deriving DecidableEq, Repr

namespace Variables

def values (storage : Variables) : List Variable := storage.entries.map Prod.snd

instance : Membership Variable Variables where
  mem storage v := v ∈ storage.values

instance (storage : Variables) (v : Variable) : Decidable (v ∈ storage) :=
  inferInstanceAs (Decidable (v ∈ storage.values))

instance (storage : Variables) (p : Variable → Prop) [DecidablePred p] :
    Decidable (∀ v ∈ storage, p v) :=
  inferInstanceAs (Decidable (∀ v ∈ storage.values, p v))

instance (storage : Variables) (p : Variable → Prop) [DecidablePred p] :
    Decidable (∃ v ∈ storage, p v) :=
  inferInstanceAs (Decidable (∃ v ∈ storage.values, p v))

def map {α : Type} (storage : Variables) (read : Variable → α) : List α := storage.values.map read

def length (storage : Variables) : Nat := storage.entries.length

def get? (storage : Variables) (id : VariableId) : Option Variable := storage.entries.lookup id

def named? (storage : Variables) (name : String) : Option Variable :=
  storage.values.find? fun v => v.name == name

-- Numbers are counted up, so the one of a new variable comes after all others.
def push (storage : Variables) (id : VariableId) (v : Variable) : Variables :=
  ⟨storage.entries ++ [(id, v)]⟩

def erase (storage : Variables) (id : VariableId) : Variables :=
  ⟨storage.entries.filter fun entry => entry.1 != id⟩

def setPayload (storage : Variables) (id : VariableId) (payload : Option (List UInt8)) : Variables :=
  ⟨storage.entries.map fun entry =>
    if entry.1 = id then (entry.1, { entry.2 with payload := payload }) else entry⟩

end Variables

end TensorGraph
