import TensorGraph.Graph.Verify
import TensorGraph.Proofs.Cycles
import TensorGraph.Proofs.Loops
import TensorGraph.Proofs.Representation

set_option autoImplicit false

namespace TensorGraph

-- How far a search has got with a node.
inductive Mark where
  | unvisited
  | active
  | done
deriving DecidableEq, Repr

abbrev Marks := NodeId → Option Mark

def Marks.set (marks : Marks) (id : NodeId) (mark : Mark) : Marks :=
  fun other => if other = id then some mark else marks other

-- A search by marks on its way: the frames it is inside of, innermost first, and the nodes it has yet to
-- start from.
structure MarkedSearch where
  marks : Marks
  path : List Function.Frame
  roots : List Node

namespace Function

def unvisited (function : Function) : Marks :=
  fun id => if function.nodes.any fun node => node.id == id then some .unvisited else none

-- Follows the last of the dependencies that the innermost node still has, or leaves it. Between two
-- roots the path is empty. The result is a node that was met again while it was active.
def searchTurn (function : Function) (state : MarkedSearch) : Turn MarkedSearch (Option NodeId) :=
  match state.path with
  | [] =>
      match state.roots with
      | [] => .finished none
      | root :: roots =>
          if state.marks root.id = some .unvisited then
            .again ⟨state.marks.set root.id .active, [⟨root.id, root.dependencies.reverse⟩], roots⟩
          else .again { state with roots := roots }
  | ⟨current, []⟩ :: path => .again { state with marks := state.marks.set current .done, path := path }
  | ⟨current, next :: pending⟩ :: path =>
      match state.marks next with
      | some .active => .finished (some next)
      | some .unvisited =>
          match function.node? next with
          | some node =>
              .again { state with
                marks := state.marks.set next .active
                path := ⟨next, node.dependencies.reverse⟩ :: ⟨current, pending⟩ :: path }
          | none => .again { state with path := ⟨current, pending⟩ :: path }
      | _ => .again { state with path := ⟨current, pending⟩ :: path }

-- The marks that stand while the nodes of a path are open and the finished ones left.
def marksOf (function : Function) (finished : List NodeId) (path : List Frame) : Marks := fun id =>
  if isOpen path id then some .active
  else if finished.contains id then some .done
  else (function.node? id).map fun _ => .unvisited

-- A node reads another one of the function, through an input or its predicate.
def ReadsFrom (function : Function) (node source : Node) : Prop :=
  node ∈ function.nodes ∧ source ∈ function.nodes ∧ ∃ edge ∈ node.reads, edge.producer = .node source.id

def OnCycle (function : Function) (node : Node) : Prop := Relation.TransGen function.ReadsFrom node node

end Function

theorem open_iff (path : List Function.Frame) (id : NodeId) :
    Function.isOpen path id = true ↔ id ∈ path.map Function.Frame.node := by
  simp [Function.isOpen]

section Marks

variable (function : Function) (finished : List NodeId) (current next : NodeId) (pending : List NodeId)
  (path : List Function.Frame)

theorem marks_leave (once : Function.isOpen path current = false) :
    (function.marksOf finished (⟨current, []⟩ :: path)).set current .done =
      function.marksOf (current :: finished) path := by
  funext id
  by_cases here : id = current
  · simp [Marks.set, Function.marksOf, here, once]
  · simp [Marks.set, Function.marksOf, Function.isOpen, here, Ne.symm here]

theorem marks_enter (pendingNext : List NodeId) :
    (function.marksOf finished path).set next .active =
      function.marksOf finished (⟨next, pendingNext⟩ :: path) := by
  funext id
  by_cases here : id = next
  · simp [Marks.set, Function.marksOf, Function.isOpen, here]
  · simp [Marks.set, Function.marksOf, Function.isOpen, here, Ne.symm here]

theorem mark_active (opened : Function.isOpen path next = true) :
    function.marksOf finished path next = some .active :=
  if_pos opened

theorem mark_done (unopened : ¬ Function.isOpen path next = true)
    (done : finished.contains next = true) :
    function.marksOf finished path next = some .done := by
  rw [Function.marksOf, if_neg unopened, if_pos done]

theorem mark_untouched (unopened : ¬ Function.isOpen path next = true)
    (undone : ¬ finished.contains next = true) :
    function.marksOf finished path next = (function.node? next).map fun _ => .unvisited := by
  rw [Function.marksOf, if_neg unopened, if_neg undone]

end Marks

section Turns

variable (function : Function) (roots : List Node)

theorem unvisited_iff (indexed : function.Indexed) : function.unvisited = function.marksOf [] [] := by
  funext id
  by_cases stands : ∃ node ∈ function.nodes, node.id = id
  · obtain ⟨node, inside, same⟩ := stands
    have found := (node_iff function indexed id node).mpr ⟨inside, same⟩
    have listed : (function.nodes.any fun node => node.id == id) = true :=
      List.any_eq_true.mpr ⟨node, inside, by simp [same]⟩
    simp [Function.unvisited, Function.marksOf, Function.isOpen, found, listed]
  · have missing : function.node? id = none := by
      cases found : function.node? id with
      | none => rfl
      | some node => exact absurd ⟨node, (node_iff function indexed id node).mp found⟩ stands
    have unlisted : ¬ (function.nodes.any fun node => node.id == id) = true := by simpa using stands
    simp only [Function.unvisited, if_neg unlisted, Function.marksOf, Function.isOpen, missing]
    rfl

-- While the marks stand for the path and the finished nodes, the turns do what the search does.
theorem search_turns (finished : List NodeId) (path : List Function.Frame)
    (once : (path.map Function.Frame.node).Nodup)
    (result : Option NodeId) (blames : ∀ id, function.search finished path = .error id →
      result = some id)
    (goesOn : ∀ after, function.search finished path = .ok after →
      Turn.Ends function.searchTurn ⟨function.marksOf after [], [], roots⟩ result) :
    Turn.Ends function.searchTurn ⟨function.marksOf finished path, path, roots⟩ result := by
  induction finished, path using Function.search.induct function with
  | case1 finished => exact goesOn finished (by rw [Function.search])
  | case2 finished current path ih =>
      rw [Function.search] at blames goesOn
      obtain ⟨outside, rest⟩ := List.nodup_cons.mp once
      have closed : Function.isOpen path current = false :=
        Bool.eq_false_iff.mpr fun opened => outside ((open_iff path current).mp opened)
      have left := ih rest blames goesOn
      rw [← marks_leave function finished current path closed] at left
      exact again_ends _ _ _ _ rfl left
  | case3 finished current next pending path opened =>
      rw [Function.search, dif_pos opened] at blames
      rw [blames next rfl]
      apply finished_ends
      simp only [Function.searchTurn, mark_active function finished next _ opened]
  | case4 finished current next pending path unopened done ih =>
      rw [search_done function finished current next pending path unopened done] at blames goesOn
      apply again_ends _ _ _ _ _ (ih once blames goesOn)
      simp only [Function.searchTurn, mark_done function finished next _ unopened done]
      rfl
  | case5 finished current next pending path unopened undone missing ih =>
      rw [search_missing function finished current next pending path unopened undone missing]
        at blames goesOn
      apply again_ends _ _ _ _ _ (ih once blames goesOn)
      simp only [Function.searchTurn, mark_untouched function finished next _ unopened undone, missing,
        Option.map_none]
      rfl
  | case6 finished current next pending path unopened undone node found ih =>
      rw [search_found function finished current next pending path unopened undone node found]
        at blames goesOn
      have fresh : next ∉ (⟨current, pending⟩ :: path : List Function.Frame).map Function.Frame.node :=
        fun listed => unopened ((open_iff _ next).mpr listed)
      have entered := ih (List.nodup_cons.mpr ⟨fresh, once⟩) blames goesOn
      rw [← marks_enter] at entered
      apply again_ends _ _ _ _ _ entered
      simp only [Function.searchTurn, mark_untouched function finished next _ unopened undone, found,
        Option.map_some]
      rfl

theorem search_all_turns (finished : List NodeId)
    (stand : ∀ root ∈ roots, function.node? root.id = some root)
    (result : Option NodeId) (blames : ∀ id, function.searchAll finished roots = .error id →
      result = some id)
    (passes : ∀ after, function.searchAll finished roots = .ok after → result = none) :
    Turn.Ends function.searchTurn ⟨function.marksOf finished [], [], roots⟩ result := by
  induction roots generalizing finished with
  | nil =>
      rw [passes finished rfl]
      exact finished_ends _ _ _ rfl
  | cons root rest ih =>
      obtain ⟨rootStands, restStand⟩ := List.forall_mem_cons.mp stand
      have closed : ¬ Function.isOpen [] root.id = true := Bool.false_ne_true
      rw [Function.searchAll] at blames passes
      by_cases done : finished.contains root.id = true
      · rw [if_pos done] at blames passes
        apply again_ends _ _ _ _ _ (ih finished restStand blames passes)
        simp [Function.searchTurn, mark_done function finished root.id [] closed done]
      · rw [if_neg done] at blames passes
        have entered : function.searchTurn ⟨function.marksOf finished [], [], root :: rest⟩ =
            .again ⟨function.marksOf finished [⟨root.id, root.dependencies.reverse⟩],
              [⟨root.id, root.dependencies.reverse⟩], rest⟩ := by
          rw [← marks_enter]
          simp [Function.searchTurn, mark_untouched function finished root.id [] closed done, rootStands]
        apply again_ends _ _ _ _ entered
        apply search_turns function rest finished _ (by simp) result
        · intro id searched
          exact blames id (by rw [searched])
        · intro after searched
          rw [searched] at blames passes
          exact ih after restStand blames passes

theorem search_ends (indexed : function.Indexed) :
    Turn.Ends function.searchTurn ⟨function.unvisited, [], function.nodes⟩ function.cyclicNode? := by
  have stand : ∀ root ∈ function.nodes, function.node? root.id = some root :=
    fun root inside => (node_iff function indexed root.id root).mpr ⟨inside, rfl⟩
  rw [unvisited_iff function indexed]
  apply search_all_turns function function.nodes [] stand
  · intro id searched
    rw [Function.cyclicNode?, searched]
  · intro after searched
    rw [Function.cyclicNode?, searched]

end Turns

section Graph

variable (function : Function) (indexed : function.Indexed)

include indexed

theorem depends_iff (id other : NodeId) : function.Depends id other ↔
    ∃ node source, node.id = id ∧ source.id = other ∧ function.ReadsFrom node source := by
  constructor
  · intro ⟨⟨node, found, listed⟩, source, resolved⟩
    obtain ⟨inside, same⟩ := (node_iff function indexed id node).mp found
    obtain ⟨present, there⟩ := (node_iff function indexed other source).mp resolved
    exact ⟨node, source, same, there, inside, present, there ▸ (dependency_iff node other).mp listed⟩
  · intro ⟨node, source, same, there, inside, present, reads⟩
    have found := (node_iff function indexed id node).mpr ⟨inside, same⟩
    have resolved := (node_iff function indexed other source).mpr ⟨present, there⟩
    exact ⟨⟨node, found, (dependency_iff node other).mpr (there ▸ reads)⟩, source, resolved⟩

theorem reading_path (id other : NodeId) (path : Relation.TransGen function.Depends id other) :
    ∃ node source, node.id = id ∧ source.id = other ∧ source ∈ function.nodes ∧
      Relation.TransGen function.ReadsFrom node source := by
  induction path with
  | single step =>
      obtain ⟨node, source, same, there, reads⟩ := (depends_iff function indexed _ _).mp step
      exact ⟨node, source, same, there, reads.2.1, .single reads⟩
  | tail _ step ih =>
      obtain ⟨node, middle, same, between, inside, earlier⟩ := ih
      obtain ⟨reader, source, again, there, reads⟩ := (depends_iff function indexed _ _).mp step
      have found := (node_iff function indexed _ middle).mpr ⟨inside, between⟩
      have repeated := (node_iff function indexed _ reader).mpr ⟨reads.1, again⟩
      rw [Option.some.inj (repeated.symm.trans found)] at reads
      exact ⟨node, source, same, there, reads.2.1, .tail earlier reads⟩

theorem cyclic_node_on_cycle (id : NodeId) (named : function.cyclicNode? = some id) :
    ∃ node ∈ function.nodes, node.id = id ∧ function.OnCycle node := by
  have stand : ∀ root ∈ function.nodes, function.node? root.id = some root :=
    fun root inside => (node_iff function indexed root.id root).mpr ⟨inside, rfl⟩
  cases searched : function.searchAll [] function.nodes with
  | ok finished => simp [Function.cyclicNode?, searched] at named
  | error blamed =>
      obtain rfl : blamed = id := by simpa [Function.cyclicNode?, searched] using named
      have path := search_all_blames function function.nodes stand [] blamed searched
      obtain ⟨node, source, same, there, inside, reading⟩ :=
        reading_path function indexed blamed blamed path
      obtain ⟨_, ⟨present, _⟩, _⟩ := Relation.TransGen.head'_iff.mp reading
      have found := (node_iff function indexed blamed node).mpr ⟨present, same⟩
      have repeated := (node_iff function indexed blamed source).mpr ⟨inside, there⟩
      rw [Option.some.inj (repeated.symm.trans found)] at reading
      exact ⟨node, present, same, reading⟩

theorem cycle_is_named (node : Node) (cyclic : function.OnCycle node) : function.cyclicNode? ≠ none := by
  intro unnamed
  obtain ⟨rank, falls⟩ := (ordered_iff function indexed).mp ((acyclic_iff function indexed).mp unnamed)
  have path : Relation.TransGen function.Depends node.id node.id :=
    cyclic.lift Node.id fun reader source reads =>
      (depends_iff function indexed _ _).mpr ⟨reader, source, rfl, rfl, reads⟩
  exact Nat.lt_irrefl _ (no_cycle_in_order function rank falls _ _ path)

-- The loop over marks ends with the node that the check names, if there is a cycle at all; that node
-- lies on one.
theorem cycle_check_is_exact :
    Turn.Ends function.searchTurn ⟨function.unvisited, [], function.nodes⟩ function.cyclicNode? ∧
    ((∃ id, function.cyclicNode? = some id) ↔ ∃ node, function.OnCycle node) ∧
    ∀ scope : Scope, scope.function = function →
      (scope.checkAcyclic = .ok () ↔ ¬ ∃ node, function.OnCycle node) ∧
      ∀ found, scope.checkAcyclic = .error found →
        ∃ node ∈ function.nodes, function.cyclicNode? = some node.id ∧ found = .cycle node.name ∧
          function.OnCycle node := by
  have named : (∃ id, function.cyclicNode? = some id) ↔ ∃ node, function.OnCycle node := by
    constructor
    · intro ⟨id, blamed⟩
      obtain ⟨node, _, _, cyclic⟩ := cyclic_node_on_cycle function indexed id blamed
      exact ⟨node, cyclic⟩
    · intro ⟨node, cyclic⟩
      exact Option.ne_none_iff_exists'.mp (cycle_is_named function indexed node cyclic)
  refine ⟨search_ends function indexed, named, ?_⟩
  intro scope same
  subst same
  rw [← named]
  cases blamed : scope.function.cyclicNode? with
  | none => simp [Scope.checkAcyclic, blamed]
  | some id =>
      obtain ⟨node, inside, rfl, cyclic⟩ := cyclic_node_on_cycle scope.function indexed id blamed
      have found := (node_iff scope.function indexed node.id node).mpr ⟨inside, rfl⟩
      have answer : scope.checkAcyclic = .error (.cycle node.name) := by
        simp [Scope.checkAcyclic, blamed, Scope.producerName, found]
      rw [answer]
      refine ⟨by simp, ?_⟩
      intro violation failed
      exact ⟨node, inside, rfl, (Except.error.inj failed).symm, cyclic⟩

end Graph

-- The first node reads the second, which reads it as a guard. The third one reads a node that is gone.
theorem rewired_pair_is_a_cycle :
    let network := Network.run {} .empty [.createFunction "f",
      .createVariable ⟨.plain .float [2], "x", .external, .none⟩,
      .edit ⟨0⟩ (.addLayer "a" (.activation .relu (.ofVariable ⟨0⟩))),
      .edit ⟨0⟩ (.addLayer "b" (.activation .tanh (.ofVariable ⟨0⟩))),
      .edit ⟨0⟩ (.addLayer "c" (.activation .relu (.ofNode ⟨1⟩))),
      .edit ⟨0⟩ (.addLayer "d" (.activation .relu (.ofNode ⟨2⟩))), .edit ⟨0⟩ (.erase (.node ⟨2⟩)),
      .edit ⟨0⟩ (.setInput ⟨0⟩ 0 (.ofNode ⟨1⟩)), .edit ⟨0⟩ (.setPredicate ⟨1⟩ (some (.ofNode ⟨0⟩)))]
    ∃ function, network.function? ⟨0⟩ = some function ∧ function.Indexed ∧
      ∃ node ∈ function.nodes, node.name = "a__1" ∧ function.OnCycle node := by
  intro network
  have kept : network.Represented := run_represented {} .empty _ empty_represented
  have answer : (network.function? ⟨0⟩).map (fun function => (network.scopeOf function).checkAcyclic) =
      some (.error (.cycle "a__1")) := by decide +kernel
  obtain ⟨function, found, failed⟩ := Option.map_eq_some_iff.mp answer
  have indexed := kept.functions.indexed function (List.mem_of_getElem? found)
  obtain ⟨_, _, checked⟩ := cycle_check_is_exact function indexed
  obtain ⟨node, inside, _, named, cyclic⟩ := (checked (network.scopeOf function) rfl).2 _ failed
  exact ⟨function, found, indexed, node, inside, (Violation.cycle.inj named).symm, cyclic⟩

end TensorGraph
