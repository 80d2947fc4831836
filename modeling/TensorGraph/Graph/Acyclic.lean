import TensorGraph.Graph.Pending

set_option autoImplicit false

namespace TensorGraph

-- The nodes that a node reads, the predicate last.
def Node.dependencies (node : Node) : List NodeId :=
  node.reads.filterMap fun edge => edge.producer.nodeId?

namespace Function

-- A node that a search is inside of, and the dependencies that it still has to follow.
structure Frame where
  node : NodeId
  pending : List NodeId
deriving DecidableEq, Repr

def dependencyCount (function : Function) (id : NodeId) : Nat :=
  match function.node? id with
  | some node => node.dependencies.length
  | none => 0

def isOpen (path : List Frame) (id : NodeId) : Bool := path.any fun frame => frame.node == id

def pathWeight : List Frame → Nat
  | [] => 0
  | frame :: rest => 1 + frame.pending.length + pathWeight rest

def searchMeasure (function : Function) (finished : List NodeId) (path : List Frame) : Nat :=
  pendingWeight function.positions (fun id => finished.contains id || isOpen path id)
    (fun id => 2 + function.dependencyCount id) + pathWeight path

theorem searchMeasure_leave (function : Function) (finished : List NodeId) (current : NodeId)
    (path : List Frame) :
    function.searchMeasure (current :: finished) path <
      function.searchMeasure finished (⟨current, []⟩ :: path) := by
  have := pendingWeight_le function.positions
    (fun id => finished.contains id || isOpen (⟨current, []⟩ :: path) id)
    (fun id => (current :: finished).contains id || isOpen path id)
      (fun id => 2 + function.dependencyCount id)
    (by
      intro id seen
      simp only [isOpen, List.any_cons, List.contains_cons, Bool.or_eq_true, beq_iff_eq] at seen ⊢
      rcases seen with seen | seen | seen
      · exact .inl (.inr seen)
      · exact .inl (.inl seen.symm)
      · exact .inr seen)
  simp only [searchMeasure, pathWeight, List.length_nil]
  omega

theorem searchMeasure_skip (function : Function) (finished : List NodeId) (current next : NodeId)
    (pending : List NodeId) (path : List Frame) :
    function.searchMeasure finished (⟨current, pending⟩ :: path) <
      function.searchMeasure finished (⟨current, next :: pending⟩ :: path) := by
  simp [searchMeasure, pathWeight, isOpen]

theorem searchMeasure_enter (function : Function) (finished : List NodeId) (current next : NodeId)
    (pending : List NodeId) (path : List Frame) (node : Node) (found : function.node? next = some node)
    (fresh : (finished.contains next || isOpen (⟨current, next :: pending⟩ :: path) next) = false) :
    function.searchMeasure finished (⟨next, node.dependencies.reverse⟩ :: ⟨current, pending⟩ :: path) <
      function.searchMeasure finished (⟨current, next :: pending⟩ :: path) := by
  obtain ⟨position, stored⟩ := lookup_of_node? found
  have := pendingWeight_drop function.positions
    (fun id => finished.contains id || isOpen (⟨current, next :: pending⟩ :: path) id)
    (fun id => finished.contains id || isOpen (⟨next, node.dependencies.reverse⟩ ::
      ⟨current, pending⟩ :: path) id)
    (fun id => 2 + function.dependencyCount id)
    (by
      intro id seen
      simp only [isOpen, List.any_cons, Bool.or_eq_true] at seen ⊢
      rcases seen with seen | seen | seen
      · exact .inl seen
      · exact .inr (.inr (.inl seen))
      · exact .inr (.inr (.inr seen)))
    next position stored fresh (by simp [isOpen])
  have weight : function.dependencyCount next = node.dependencies.length := by
    simp [dependencyCount, found]
  simp only [searchMeasure, pathWeight, List.length_cons, List.length_reverse]
  simp only [weight] at this
  omega

-- Follows dependencies from the innermost node of a path, the last one of each node first. The result is
-- a node that some path leads back to, or the nodes that lie on no such path.
def search (function : Function) (finished : List NodeId) (path : List Frame) :
    Except NodeId (List NodeId) :=
  match path with
  | [] => .ok finished
  | ⟨current, []⟩ :: path => function.search (current :: finished) path
  | ⟨current, next :: pending⟩ :: path =>
      if _ : isOpen (⟨current, next :: pending⟩ :: path) next = true then .error next
      else if _ : finished.contains next = true
        then function.search finished (⟨current, pending⟩ :: path)
      else
        match _ : function.node? next with
        | none => function.search finished (⟨current, pending⟩ :: path)
        | some node =>
            function.search finished (⟨next, node.dependencies.reverse⟩ :: ⟨current, pending⟩ :: path)
termination_by function.searchMeasure finished path
decreasing_by
  · exact searchMeasure_leave function finished current path
  · exact searchMeasure_skip function finished current next pending path
  · exact searchMeasure_skip function finished current next pending path
  · exact searchMeasure_enter function finished current next pending path node
      (by assumption) (by simp_all)

-- Searches from each node that no earlier search has finished.
def searchAll (function : Function) (finished : List NodeId) : List Node → Except NodeId (List NodeId)
  | [] => .ok finished
  | root :: rest =>
      if finished.contains root.id then function.searchAll finished rest
      else
        match function.search finished [⟨root.id, root.dependencies.reverse⟩] with
        | .ok finished => function.searchAll finished rest
        | .error id => .error id

def cyclicNode? (function : Function) : Option NodeId :=
  match function.searchAll [] function.nodes with
  | .ok _ => none
  | .error id => some id

end Function

end TensorGraph
