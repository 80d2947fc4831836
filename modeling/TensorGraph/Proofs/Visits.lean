import TensorGraph.Proofs.Loops
import TensorGraph.Proofs.Representation
import TensorGraph.Proofs.Walks

set_option autoImplicit false

namespace TensorGraph

namespace Function

-- How many nodes of the function are still to be reported.
def unseenCount (function : Function) (seen : List Producer) : Nat :=
  pendingWeight function.positions (fun id => seen.contains (.node id)) fun _ => 1

theorem unseenCount_falls (function : Function) (seen after : List Producer) (id : NodeId) (node : Node)
    (found : function.node? id = some node) (fresh : ¬ seen.contains (.node id) = true)
    (reported : .node id :: seen ⊆ after) : function.unseenCount after < function.unseenCount seen := by
  obtain ⟨position, stored⟩ := lookup_of_node? found
  have grows : ∀ other, seen.contains (.node other) = true → after.contains (.node other) = true := by
    intro other listed
    rw [List.contains_iff_mem] at listed ⊢
    exact reported (List.mem_cons_of_mem _ listed)
  have present : after.contains (.node id) = true :=
    List.contains_iff_mem.mpr (reported List.mem_cons_self)
  have dropped := pendingWeight_drop function.positions (fun other => seen.contains (.node other))
    (fun other => after.contains (.node other)) (fun _ => 1) grows id position stored
      (by simpa using fresh) present
  simp only [unseenCount]
  omega

-- Reports a producer unless it has been reported before, and after a node whatever the node reads, one
-- after the other. What has been reported comes last first.
def visit (function : Function) (seen : List Producer) (current : Producer) :
    { after : List Producer // seen ⊆ after } :=
  if _ : seen.contains current = true then ⟨seen, List.Subset.refl seen⟩
  else
    match current with
    | .var id => ⟨.var id :: seen, List.subset_cons_self _ seen⟩
    | .node id =>
        match _ : function.node? id with
        | none => ⟨seen, List.Subset.refl seen⟩
        | some node =>
            let inside := node.sources.foldl
              (fun (reached : { after : List Producer // Producer.node id :: seen ⊆ after }) source =>
                let next := function.visit reached.1 source
                ⟨next.1, List.Subset.trans reached.2 next.2⟩)
              ⟨.node id :: seen, List.Subset.refl _⟩
            ⟨inside.1, List.Subset.trans (List.subset_cons_self _ seen) inside.2⟩
termination_by function.unseenCount seen
decreasing_by
  exact unseenCount_falls function seen reached.1 id node (by assumption) (by assumption) reached.2

def visitEach (function : Function) (seen : List Producer) (producers : List Producer) : List Producer :=
  producers.foldl (fun seen current => (function.visit seen current).1) seen

-- The recursive walk from each node in turn.
def preorder (function : Function) : List Producer :=
  (function.visitEach [] (function.nodes.map fun node => .node node.id)).reverse

end Function

-- A walk with a stack on its way: what has been visited, what has been reported of it, last first, what
-- is on the stack, top first, and the nodes to start from later.
structure StackWalk where
  visited : List Producer
  order : List Producer
  stack : List Producer
  roots : List Node

-- Takes the top of the stack. What a node reads goes on top unless it has been visited; what is on the
-- stack by then may have been visited when its turn comes.
def Function.walkTurn (function : Function) (state : StackWalk) : Turn StackWalk (List Producer) :=
  match state.stack with
  | [] =>
      match state.roots with
      | [] => .finished state.order.reverse
      | root :: roots => .again { state with stack := [.node root.id], roots := roots }
  | current :: stack =>
      if state.visited.contains current then .again { state with stack := stack }
      else
        let visited := current :: state.visited
        match current with
        | .var _ =>
            .again { state with visited := visited, order := current :: state.order, stack := stack }
        | .node id =>
            match function.node? id with
            | none => .again { state with visited := visited, stack := stack }
            | some node =>
                .again { state with
                  visited := visited
                  order := current :: state.order
                  stack := (node.sources.filter fun source => !visited.contains source) ++ stack }

-- A stack beside the list of all that waits. What the stack lacks has been visited.
inductive Thinned (visited : List Producer) : List Producer → List Producer → Prop where
  | nil : Thinned visited [] []
  | keep (current : Producer) (stack waiting : List Producer) (rest : Thinned visited stack waiting) :
      Thinned visited (current :: stack) (current :: waiting)
  | drop (current : Producer) (stack waiting : List Producer) (seen : current ∈ visited)
      (rest : Thinned visited stack waiting) : Thinned visited stack (current :: waiting)

section Visit

variable (function : Function) (seen : List Producer)

theorem visit_seen (current : Producer) (reported : seen.contains current = true) :
    (function.visit seen current).1 = seen := by
  rw [Function.visit, dif_pos reported]

theorem visit_variable (id : VariableId) (fresh : ¬ seen.contains (.var id) = true) :
    (function.visit seen (.var id)).1 = .var id :: seen := by
  rw [Function.visit, dif_neg fresh]

theorem visit_missing (id : NodeId) (fresh : ¬ seen.contains (.node id) = true)
    (missing : function.node? id = none) :
    (function.visit seen (.node id)).1 = seen := by
  rw [Function.visit, dif_neg fresh]
  dsimp only
  split
  · rfl
  · rename_i node found
    cases missing.symm.trans found

theorem visit_node (id : NodeId) (fresh : ¬ seen.contains (.node id) = true) (node : Node)
    (found : function.node? id = some node) :
    (function.visit seen (.node id)).1 = function.visitEach (.node id :: seen) node.sources := by
  rw [Function.visit, dif_neg fresh]
  dsimp only
  split
  · rename_i missing
    cases found.symm.trans missing
  · rename_i other same
    cases found.symm.trans same
    exact (List.foldl_hom Subtype.val fun _ _ => rfl).symm

theorem visit_each_append (first second : List Producer) :
    function.visitEach seen (first ++ second) =
      function.visitEach (function.visitEach seen first) second :=
  List.foldl_append

end Visit

-- Putting what a node reads in front of everything that waits is the same as going into it.
theorem walk_visits (function : Function) (visited waiting : List Producer) :
    function.walk visited waiting = function.visitEach visited waiting := by
  induction visited, waiting using Function.walk.induct function with
  | case1 visited => rw [Function.walk]; rfl
  | case2 visited current waiting repeated ih =>
      rw [walk_seen _ _ _ _ repeated, ih]
      exact congrArg (function.visitEach · waiting) (visit_seen function visited current repeated).symm
  | case3 visited waiting id fresh _ ih =>
      rw [walk_variable _ _ _ _ fresh, ih]
      exact congrArg (function.visitEach · waiting) (visit_variable function visited id fresh).symm
  | case4 visited waiting id fresh missing _ ih =>
      rw [walk_missing _ _ _ _ fresh missing, ih]
      exact congrArg (function.visitEach · waiting)
        (visit_missing function visited id fresh missing).symm
  | case5 visited waiting id fresh node found _ ih =>
      rw [walk_node _ _ _ _ fresh _ found, ih, visit_each_append]
      exact congrArg (function.visitEach · waiting)
        (visit_node function visited id fresh node found).symm

theorem depth_first_preorder (function : Function) : function.depthFirst = function.preorder :=
  congrArg List.reverse (walk_visits function [] _)

theorem thinned_later (current : Producer) (visited stack waiting : List Producer)
    (thinned : Thinned visited stack waiting) : Thinned (current :: visited) stack waiting := by
  induction thinned with
  | nil => exact .nil
  | keep top stack waiting _ ih => exact .keep top stack waiting ih
  | drop gone stack waiting seen _ ih =>
      exact .drop gone stack waiting (List.mem_cons_of_mem current seen) ih

theorem thinned_sources (visited sources stack waiting : List Producer)
    (thinned : Thinned visited stack waiting) :
    Thinned visited ((sources.filter fun source => !visited.contains source) ++ stack)
      (sources ++ waiting) := by
  induction sources with
  | nil => exact thinned
  | cons source rest ih =>
      by_cases seen : source ∈ visited
      · rw [List.filter_cons_of_neg (by simpa using seen)]
        exact .drop source _ _ seen ih
      · rw [List.filter_cons_of_pos (by simpa using seen)]
        exact .keep source _ _ ih

section Stack

variable (function : Function)

-- Visited are the reported producers, and besides them only nodes that the function does not have.
def StackWalk.Accounts (function : Function) (visited order : List Producer) : Prop :=
  order ⊆ visited ∧ ∀ producer ∈ visited, function.Resolves producer → producer ∈ order

theorem accounts_reported (current : Producer) (visited order : List Producer)
    (accounts : StackWalk.Accounts function visited order) :
    StackWalk.Accounts function (current :: visited) (current :: order) := by
  refine ⟨List.cons_subset_cons _ accounts.1, ?_⟩
  intro producer listed resolves
  rcases List.mem_cons.mp listed with rfl | older
  · exact List.mem_cons_self
  · exact List.mem_cons_of_mem _ (accounts.2 producer older resolves)

-- The producer that waits first has been visited, or it is on top of the stack, if need be after the
-- next root is.
theorem first_waiting (visited order stack front : List Producer) (roots : List Node)
    (current : Producer) (later result : List Producer) (thinned : Thinned visited stack front)
    (covers : current :: later = front ++ roots.map fun node => .node node.id)
    (passed : current ∈ visited → ∀ stack front roots, Thinned visited stack front →
      later = front ++ roots.map (fun node => .node node.id) →
      Turn.Ends function.walkTurn ⟨visited, order, stack, roots⟩ result)
    (taken : current ∉ visited → ∀ stack front roots, Thinned visited stack front →
      later = front ++ roots.map (fun node => .node node.id) →
      Turn.Ends function.walkTurn ⟨visited, order, current :: stack, roots⟩ result) :
    Turn.Ends function.walkTurn ⟨visited, order, stack, roots⟩ result := by
  have onTop : ∀ stack front roots, Thinned visited stack front →
      later = front ++ roots.map (fun node => .node node.id) →
      Turn.Ends function.walkTurn ⟨visited, order, current :: stack, roots⟩ result := by
    intro stack front roots thinned covers
    by_cases seen : current ∈ visited
    · apply again_ends _ _ _ _ _ (passed seen stack front roots thinned covers)
      simp [Function.walkTurn, seen]
    · exact taken seen stack front roots thinned covers
  cases thinned with
  | nil =>
      cases roots with
      | nil => cases covers
      | cons root roots =>
          obtain ⟨rfl, remains⟩ := List.cons.inj covers
          exact again_ends _ _ _ _ rfl (onTop [] [] roots .nil remains)
  | keep top stack front rest =>
      obtain ⟨rfl, remains⟩ := List.cons.inj covers
      exact onTop stack front roots rest remains
  | drop gone stack front seen rest =>
      obtain ⟨rfl, remains⟩ := List.cons.inj covers
      exact passed seen stack front roots rest remains

theorem stack_turns (order waiting visited stack front : List Producer) (roots : List Node)
    (accounts : StackWalk.Accounts function visited order) (thinned : Thinned visited stack front)
    (covers : waiting = front ++ roots.map fun node => .node node.id) :
    Turn.Ends function.walkTurn ⟨visited, order, stack, roots⟩
      (function.walk order waiting).reverse := by
  induction order, waiting using Function.walk.induct function generalizing visited stack front roots
    with
  | case1 order =>
      obtain ⟨rfl, unrooted⟩ := List.append_eq_nil_iff.mp covers.symm
      obtain rfl := List.map_eq_nil_iff.mp unrooted
      cases thinned
      rw [Function.walk]
      exact finished_ends _ _ _ rfl
  | case2 order current waiting repeated ih =>
      rw [walk_seen _ _ _ _ repeated]
      have reported : current ∈ visited := accounts.1 (by simpa using repeated)
      apply first_waiting function visited order stack front roots current waiting _ thinned covers
      · intro _ stack front roots thinned covers
        exact ih visited stack front roots accounts thinned covers
      · intro fresh
        exact absurd reported fresh
  | case3 order waiting id fresh _ ih =>
      rw [walk_variable _ _ _ _ fresh]
      have unreported : .var id ∉ order := by simpa using fresh
      apply first_waiting function visited order stack front roots (.var id) waiting _ thinned covers
      · intro seen
        exact absurd (accounts.2 _ seen trivial) unreported
      · intro unseen stack front roots thinned covers
        have next := accounts_reported function (.var id) visited order accounts
        apply again_ends _ _ _ _ _ (ih _ stack front roots next (thinned_later _ _ _ _ thinned) covers)
        simp [Function.walkTurn, unseen]
  | case4 order waiting id fresh missing _ ih =>
      rw [walk_missing _ _ _ _ fresh missing]
      apply first_waiting function visited order stack front roots (.node id) waiting _ thinned covers
      · intro _ stack front roots thinned covers
        exact ih visited stack front roots accounts thinned covers
      · intro unseen stack front roots thinned covers
        have next : StackWalk.Accounts function (.node id :: visited) order := by
          refine ⟨fun _ listed => List.mem_cons_of_mem _ (accounts.1 listed), ?_⟩
          intro producer listed resolves
          rcases List.mem_cons.mp listed with rfl | older
          · obtain ⟨node, found⟩ := resolves
            cases missing.symm.trans found
          · exact accounts.2 producer older resolves
        apply again_ends _ _ _ _ _ (ih _ stack front roots next (thinned_later _ _ _ _ thinned) covers)
        simp [Function.walkTurn, unseen, missing]
  | case5 order waiting id fresh node found _ ih =>
      rw [walk_node _ _ _ _ fresh _ found]
      have unreported : .node id ∉ order := by simpa using fresh
      apply first_waiting function visited order stack front roots (.node id) waiting _ thinned covers
      · intro seen
        exact absurd (accounts.2 _ seen ⟨node, found⟩) unreported
      · intro unseen stack front roots thinned covers
        have next := accounts_reported function (.node id) visited order accounts
        have pushed := thinned_sources _ node.sources _ _ (thinned_later (.node id) _ _ _ thinned)
        have remains : node.sources ++ waiting = node.sources ++
            front ++ roots.map fun node => .node node.id := by
          rw [covers, List.append_assoc]
        apply again_ends _ _ _ _ _ (ih _ _ _ roots next pushed remains)
        simp [Function.walkTurn, unseen, found]

theorem depth_first_ends :
    Turn.Ends function.walkTurn ⟨[], [], [], function.nodes⟩ function.depthFirst :=
  stack_turns function [] _ [] [] [] function.nodes ⟨List.Subset.refl _, by simp⟩ .nil rfl

end Stack

-- The loop with a stack ends with the order of the recursive walk. Each node, and each variable that one
-- of them reads, is there once, and nothing else is.
theorem walk_is_the_recursive_one (function : Function) (indexed : function.Indexed) :
    Turn.Ends function.walkTurn ⟨[], [], [], function.nodes⟩ function.depthFirst ∧
      function.depthFirst = function.preorder ∧ function.depthFirst.Nodup ∧
      ∀ producer, producer ∈ function.depthFirst ↔ function.Involves producer :=
  ⟨depth_first_ends function, depth_first_preorder function, depth_first_distinct function indexed,
    depth_first_iff function indexed⟩

-- Two nodes that read each other, a guard, an operand read twice and an edge to a node that is gone.
theorem rewired_function_is_walked :
    let network := Network.run {} .empty [.createFunction "f",
      .createVariable ⟨.plain .float [2], "x", .external, .none⟩,
      .createVariable ⟨.plain .float [1], "go", .external, .none⟩,
      .edit ⟨0⟩ (.addLayer "a" (.activation .relu (.ofVariable ⟨0⟩))),
      .edit ⟨0⟩ (.addLayer "b" (.arithmetic .add (.ofNode ⟨0⟩) (.ofNode ⟨0⟩))),
      .edit ⟨0⟩ (.addLayer "c" (.activation .tanh (.ofNode ⟨1⟩))),
      .edit ⟨0⟩ (.addLayer "d" (.arithmetic .mul (.ofNode ⟨2⟩) (.ofVariable ⟨0⟩))),
      .edit ⟨0⟩ (.erase (.node ⟨2⟩)),
      .edit ⟨0⟩ (.setInput ⟨0⟩ 0 (.ofNode ⟨1⟩)), .edit ⟨0⟩ (.setPredicate ⟨1⟩ (some (.ofVariable ⟨1⟩)))]
    ∃ function, network.function? ⟨0⟩ = some function ∧ function.Indexed ∧
      function.preorder = [.node ⟨0⟩, .node ⟨1⟩, .var ⟨1⟩, .node ⟨3⟩, .var ⟨0⟩] := by
  intro network
  have kept : network.Represented := run_represented {} .empty _ empty_represented
  have answer : (network.function? ⟨0⟩).map Function.depthFirst =
      some [.node ⟨0⟩, .node ⟨1⟩, .var ⟨1⟩, .node ⟨3⟩, .var ⟨0⟩] := by decide +kernel
  obtain ⟨function, found, walked⟩ := Option.map_eq_some_iff.mp answer
  have indexed := kept.functions.indexed function (List.mem_of_getElem? found)
  obtain ⟨_, same, _⟩ := walk_is_the_recursive_one function indexed
  exact ⟨function, found, indexed, same.symm.trans walked⟩

end TensorGraph
