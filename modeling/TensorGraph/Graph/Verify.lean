import TensorGraph.Graph.Acyclic
import TensorGraph.Graph.Scope

set_option autoImplicit false

namespace TensorGraph

-- Checks the items from the left up to the first that fails.
def checkAll {α ε : Type} (check : α → Except ε Unit) : List α → Except ε Unit
  | [] => .ok ()
  | item :: rest =>
      match check item with
      | .ok _ => checkAll check rest
      | .error fault => .error fault

-- The first name that comes a second time, with its second and its first bearer.
def nameConflict? (seen : List (String × Producer)) :
    List (String × Producer) → Option (String × Producer × Producer)
  | [] => none
  | entry :: rest =>
      match seen.lookup entry.1 with
      | some previous => some (entry.1, entry.2, previous)
      | none => nameConflict? (entry :: seen) rest

namespace Scope

-- All names in use: those of the variables, then those of the nodes.
def names (scope : Scope) : List (String × Producer) :=
  scope.storage.map (fun v => (v.name, .var v.id)) ++
    scope.function.nodes.map (fun node => (node.name, .node node.id))

def checkNames (scope : Scope) : Except Violation Unit :=
  match nameConflict? [] scope.names with
  | none => .ok ()
  | some (name, current, previous) =>
      .error (.nameConflict name (scope.descriptor current) (scope.descriptor previous))

def checkInput (scope : Scope) (node : Node) (i : Nat) (edge : Edge) : Except Violation Unit :=
  match scope.resultCount? edge.producer with
  | none => .error (.danglingEdge node.name i edge.producer)
  | some available =>
      if edge.slot < available then .ok ()
      else .error (.resultSlot node.name i edge.producer edge.slot available)

def checkPredicate (scope : Scope) (node : Node) : Except Violation Unit :=
  match node.predicate with
  | none => .ok ()
  | some edge =>
      match scope.resultCount? edge.producer with
      | none => .error (.danglingPredicate node.name edge.producer)
      | some available =>
          if edge.slot < available then .ok ()
          else .error (.inconsistent node.name (.predicateSlot edge.slot edge.producer available))

def checkEdges (scope : Scope) (node : Node) : Except Violation Unit := do
  checkAll (fun input => scope.checkInput node input.2 input.1) node.inputs.zipIdx
  scope.checkPredicate node

def inputTypes (scope : Scope) : List Edge → Except NodeFault (List TensorType)
  | [] => .ok []
  | edge :: rest =>
      match scope.slotType? edge with
      | some type => (scope.inputTypes rest).map (type :: ·)
      | none => .error (.untypedInput edge)

def resultTypes (scope : Scope) : List TypeHandle → Except NodeFault (List TensorType)
  | [] => .ok []
  | handle :: rest =>
      match scope.types.get? handle with
      | some type => (scope.resultTypes rest).map (type :: ·)
      | none => .error (.unknownResult handle)

def nodeFault (scope : Scope) (node : Node) : Except NodeFault Unit := do
  let inputs ← scope.inputTypes node.inputs
  let results ← scope.resultTypes node.results
  (node.operator.check inputs results).mapError .operator

def checkNode (scope : Scope) (node : Node) : Except Violation Unit :=
  (scope.nodeFault node).mapError (.inconsistent node.name)

def checkAcyclic (scope : Scope) : Except Violation Unit :=
  match scope.function.cyclicNode? with
  | none => .ok ()
  | some id => .error (.cycle (scope.producerName (.node id)))

-- Unique names, then edges that lead somewhere, then nodes that agree with the types around them, then
-- no cycles.
def verify (scope : Scope) : Except Violation Unit := do
  scope.checkNames
  checkAll scope.checkEdges scope.function.nodes
  checkAll scope.checkNode scope.function.nodes
  scope.checkAcyclic

end Scope

end TensorGraph
