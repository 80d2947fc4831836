import TensorGraph.Graph.Pending

set_option autoImplicit false

namespace TensorGraph

-- The producers that a node reads, the predicate first.
def Node.sources (node : Node) : List Producer :=
  (node.predicate.toList ++ node.inputs).map Edge.producer

namespace Function

def sourceCount (function : Function) (id : NodeId) : Nat :=
  match function.node? id with
  | some node => node.sources.length
  | none => 0

def walkMeasure (function : Function) (visited waiting : List Producer) : Nat :=
  pendingWeight function.positions (fun id => visited.contains (.node id))
    (fun id => 1 + function.sourceCount id) +
    waiting.length

theorem walkMeasure_skip (function : Function) (visited : List Producer) (current : Producer)
    (waiting : List Producer) :
    function.walkMeasure visited waiting < function.walkMeasure visited (current :: waiting) := by
  simp [walkMeasure]

theorem walkMeasure_variable (function : Function) (visited : List Producer) (id : VariableId)
    (waiting : List Producer) :
    function.walkMeasure (.var id :: visited) waiting <
      function.walkMeasure visited (.var id :: waiting) := by
  have := pendingWeight_le function.positions (fun node => visited.contains (.node node))
    (fun node => (Producer.var id :: visited).contains (.node node))
      (fun node => 1 + function.sourceCount node)
    (by intro node seen; simp at seen ⊢; exact seen)
  simp only [walkMeasure, List.length_cons]
  omega

theorem walkMeasure_node (function : Function) (visited : List Producer) (id : NodeId) (node : Node)
    (waiting : List Producer) (found : function.node? id = some node)
    (fresh : visited.contains (.node id) = false) :
    function.walkMeasure (.node id :: visited) (node.sources ++ waiting) <
      function.walkMeasure visited (.node id :: waiting) := by
  obtain ⟨position, stored⟩ := lookup_of_node? found
  have := pendingWeight_drop function.positions (fun other => visited.contains (.node other))
    (fun other => (Producer.node id :: visited).contains (.node other))
      (fun other => 1 + function.sourceCount other)
    (by intro other seen; simp at seen ⊢; exact .inr seen) id position stored fresh (by simp)
  have weight : function.sourceCount id = node.sources.length := by simp [sourceCount, found]
  simp only [walkMeasure, List.length_cons, List.length_append]
  simp only [weight] at this
  omega

-- Takes producers off the front of the waiting list, last visit first in the result. What a node reads
-- goes before everything that still waits.
def walk (function : Function) (visited waiting : List Producer) : List Producer :=
  match waiting with
  | [] => visited
  | current :: waiting =>
      if _ : visited.contains current = true then function.walk visited waiting
      else
        match current with
        | .var id => function.walk (.var id :: visited) waiting
        | .node id =>
            match _ : function.node? id with
            | none => function.walk visited waiting
            | some node => function.walk (.node id :: visited) (node.sources ++ waiting)
termination_by function.walkMeasure visited waiting
decreasing_by
  · exact walkMeasure_skip function visited current waiting
  · exact walkMeasure_variable function visited id waiting
  · exact walkMeasure_skip function visited (.node id) waiting
  · exact walkMeasure_node function visited id node waiting (by assumption) (by simp_all)

-- Each node and each variable that some node reads, once, in depth-first order.
def depthFirst (function : Function) : List Producer :=
  (function.walk [] (function.nodes.map fun node => .node node.id)).reverse

end Function

end TensorGraph
