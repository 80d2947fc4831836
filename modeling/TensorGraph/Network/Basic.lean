import TensorGraph.Graph.Journal
import TensorGraph.Graph.Naming
import TensorGraph.Graph.Scope
import TensorGraph.Layer.Basic

set_option autoImplicit false

namespace TensorGraph

-- Functions over a common pool of types and common variables. Identifiers and name suffixes are counted
-- up and never given twice. The journal holds the oldest event first.
structure Network where
  functions : List Function := []
  types : TypePool := {}
  storage : Variables := {}
  nextVariable : Nat := 0
  nextNode : Nat := 0
  nextSuffix : Nat := 0
  journal : List Event := []
deriving DecidableEq, Repr

-- What came of a request, and the network after it.
abbrev Outcome (α : Type) : Type := Except GraphFault α × Network

namespace Network

def empty : Network := {}

def function? (network : Network) (id : FunctionId) : Option Function := network.functions[id.index]?

def functionNamed? (network : Network) (name : String) : Option Function :=
  network.functions.find? fun function => function.name == name

def hasFunction (network : Network) (name : String) : Bool := (network.functionNamed? name).isSome

def scopeOf (network : Network) (function : Function) : Scope :=
  ⟨network.types, network.storage, function⟩

def nodeCount (network : Network) : Nat :=
  network.functions.foldl (fun count function => count + function.size) 0

def report (network : Network) (event : Event) : Network :=
  { network with journal := network.journal ++ [event] }

def intern (network : Network) (type : TensorType) : TypeHandle × Network :=
  let result := network.types.intern type
  (result.1, { network with types := result.2 })

def freshName (network : Network) (requested : String) : String × Network :=
  (uniqueName network.nextSuffix requested, { network with nextSuffix := network.nextSuffix + 1 })

def createFunction (network : Network) (name : String) : Outcome FunctionId :=
  if network.hasFunction name then (.error (.duplicateFunction name), network)
  else
    let id : FunctionId := ⟨network.functions.length⟩
    (.ok id,
      report { network with functions := network.functions ++ [{ id := id, name := name }] }
        (.createdFunction name))

def createVariable (network : Network) (wanted : Parameter) : Variable × Network :=
  let handle := network.types.intern wanted.type
  let name := uniqueName network.nextSuffix wanted.name
  let created : Variable := {
    id := ⟨network.nextVariable⟩
    name := name
    type := handle.1
    visibility := wanted.visibility
    initializer := wanted.initializer }
  (created,
    report
      { network with
        types := handle.2
        storage := network.storage.push ⟨network.nextVariable⟩ created
        nextVariable := network.nextVariable + 1
        nextSuffix := network.nextSuffix + 1 }
      (.createdVariable name wanted.visibility wanted.initializer))

def createVariables (network : Network) (wanted : List Parameter) : Network :=
  wanted.foldl (fun network parameter => (network.createVariable parameter).2) network

def setPayload (network : Network) (id : VariableId) (payload : Option (List UInt8)) : Outcome Unit :=
  match network.storage.get? id with
  | some _ => (.ok (), { network with storage := network.storage.setPayload id payload })
  | none => (.error (.unknownVariable id), network)

def eraseVariable (network : Network) (id : VariableId) : Outcome Variable :=
  match network.storage.get? id with
  | some erased =>
      (.ok erased,
        report { network with storage := network.storage.erase id } (.erasedVariable erased.name))
  | none => (.error (.unknownVariable id), network)

def updateFunction (network : Network) (id : FunctionId) (change : Function → Function) : Network :=
  { network with functions := network.functions.modify id.index change }

-- Adds a node under a unique name. Its operands have to resolve and its result types have to be known.
def addNode (network : Network) (id : FunctionId) (label : String) (operator : Operator)
    (inputs : List Edge) (results : List TypeHandle) : Outcome NodeId :=
  match network.function? id with
  | none => (.error (.unknownFunction id), network)
  | some function =>
      match inputs.find? fun edge => ((network.scopeOf function).handle? edge).isNone with
      | some edge => (.error (.unknownOperand label edge), network)
      | none =>
          match results.find? fun handle => (network.types.get? handle).isNone with
          | some handle => (.error (.unknownType label handle), network)
          | none =>
              let node : Node := {
                id := ⟨network.nextNode⟩
                name := uniqueName network.nextSuffix label
                operator := operator
                inputs := inputs
                results := results }
              (.ok node.id,
                updateFunction
                  { network with
                    nextNode := network.nextNode + 1
                    nextSuffix := network.nextSuffix + 1 }
                  id fun function => function.push node)

-- Erases a node of a function, or a variable of the network. Edges to it are left as they are.
def erase (network : Network) (id : FunctionId) (target : Producer) : Outcome Unit :=
  match network.function? id with
  | none => (.error (.unknownFunction id), network)
  | some function =>
      match target with
      | .var v =>
          let result := network.eraseVariable v
          (result.1.map fun _ => (), result.2)
      | .node node =>
          match function.node? node with
          | none => (.error (.nodeNotFound target), network)
          | some erased =>
              (.ok (),
                (network.updateFunction id fun function => function.erase node).report
                  (.erasedNode function.name erased.name))

-- Changes a node in place; the answer is taken from the node as it was before.
def editNode {α : Type} (network : Network) (id : FunctionId) (node : NodeId) (answer : Node → α)
    (change : Node → Node) : Outcome α :=
  match network.function? id with
  | none => (.error (.unknownFunction id), network)
  | some function =>
      match function.node? node with
      | none => (.error (.nodeNotFound (.node node)), network)
      | some before =>
          (.ok (answer before), network.updateFunction id fun function => function.edit node change)

def renameNode (network : Network) (id : FunctionId) (node : NodeId) (name : String) : Outcome Unit :=
  network.editNode id node (fun _ => ()) fun node => { node with name := name }

-- Rewires an input and gives back the edge that was there; an input that does not exist stays so.
def setInput (network : Network) (id : FunctionId) (node : NodeId) (i : Nat) (edge : Edge) :
    Outcome (Option Edge) :=
  network.editNode id node (fun before => before.inputs[i]?) fun node => node.withInput i edge

def setPredicate (network : Network) (id : FunctionId) (node : NodeId) (predicate : Option Edge) :
    Outcome Unit :=
  network.editNode id node (fun _ => ()) fun node => { node with predicate := predicate }

end Network

end TensorGraph
