import TensorGraph.Network.Build
import TensorGraph.Network.Clone
import TensorGraph.Network.Export
import TensorGraph.Network.Verify

set_option autoImplicit false

namespace TensorGraph

inductive Edit where
  | addNode (label : String) (operator : Operator) (inputs : List Edge) (results : List TypeHandle)
  | addLayer (label : String) (layer : Layer)
  | erase (target : Producer)
  | rename (node : NodeId) (name : String)
  | setInput (node : NodeId) (i : Nat) (edge : Edge)
  | setPredicate (node : NodeId) (predicate : Option Edge)
deriving DecidableEq, Repr

-- A request that can change a network or its journal. A request to write a file says what comes of
-- writing it.
inductive Action where
  | intern (type : TensorType)
  | reshape (base : TypeHandle) (dims : Dims)
  | freshName (requested : String)
  | createFunction (name : String)
  | cloneFunction (source : FunctionId) (name : String)
  | createVariable (wanted : Parameter)
  | setPayload (id : VariableId) (payload : Option (List UInt8))
  | eraseVariable (id : VariableId)
  | edit (function : FunctionId) (change : Edit)
  | verify
  | verifyFunction (id : FunctionId)
  | writeDrawing (path : Option String) (refused : Option WriteFault := none)
  | writeFunctionDrawing (id : FunctionId) (path : Option String) (refused : Option WriteFault := none)
deriving DecidableEq, Repr

-- What an action answers. No handle comes of reshaping a type that was never issued.
inductive Reply where
  | done
  | type (handle : Option TypeHandle)
  | name (name : String)
  | function (id : FunctionId)
  | clone (id : FunctionId) (mapping : NodeMapping)
  | variable (v : Variable)
  | node (id : NodeId)
  | replaced (edge : Option Edge)
  | file (written : WrittenFile)
deriving DecidableEq, Repr

def Outcome.map {α β : Type} (answer : α → β) (outcome : Outcome α) : Outcome β :=
  (Except.map answer outcome.1, outcome.2)

namespace Network

def edit (network : Network) (id : FunctionId) : Edit → Outcome Reply
  | .addNode label operator inputs results =>
      (network.addNode id label operator inputs results).map .node
  | .addLayer label layer => (network.addLayer id label layer).map .node
  | .erase target => (network.erase id target).map fun _ => .done
  | .rename node name => (network.renameNode id node name).map fun _ => .done
  | .setInput node i edge => (network.setInput id node i edge).map .replaced
  | .setPredicate node predicate => (network.setPredicate id node predicate).map fun _ => .done

def perform (settings : Settings) (network : Network) : Action → Outcome Reply
  | .intern type =>
      let result := network.intern type
      (.ok (.type (some result.1)), result.2)
  | .reshape base dims =>
      match network.types.reshape? base dims with
      | some result => (.ok (.type (some result.1)), { network with types := result.2 })
      | none => (.ok (.type none), network)
  | .freshName requested =>
      let result := network.freshName requested
      (.ok (.name result.1), result.2)
  | .createFunction name => (network.createFunction name).map .function
  | .cloneFunction source name => (network.cloneFunction source name).map fun result =>
      .clone result.1 result.2
  | .createVariable wanted =>
      let result := network.createVariable wanted
      (.ok (.variable result.1), result.2)
  | .setPayload id payload => (network.setPayload id payload).map fun _ => .done
  | .eraseVariable id => (network.eraseVariable id).map .variable
  | .edit id change => network.edit id change
  | .verify => (network.verify settings).map fun _ => .done
  | .verifyFunction id => (network.verifyFunction settings id).map fun _ => .done
  | .writeDrawing path refused => (network.writeDrawing settings path refused).map .file
  | .writeFunctionDrawing id path refused =>
      (network.writeFunctionDrawing settings id path refused).map .file

def run (settings : Settings) (network : Network) (actions : List Action) : Network :=
  actions.foldl (fun network action => (network.perform settings action).2) network

end Network

end TensorGraph
