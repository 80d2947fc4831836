import TensorGraph.Proofs.IssuedNumbers
import TensorGraph.Proofs.RenumberedRequests

set_option autoImplicit false

namespace TensorGraph

-- The numbers from a limit on move up and leave a gap.
def NodeId.raised (limit gap : Nat) (id : NodeId) : NodeId :=
  if id.index < limit then id else ⟨id.index + gap⟩

-- The first edge of a function that leads nowhere, with its node and its place among the edges that the
-- node reads.
def Scope.FirstStray (scope : Scope) (node : Node) (i : Nat) (edge : Edge) : Prop :=
  ∃ before after passed rest, scope.function.nodes = before ++ node :: after ∧
    node.reads = passed ++ edge :: rest ∧
    passed.length = i ∧ (∀ earlier ∈ before, ∀ read ∈ earlier.reads, scope.Holds read.producer) ∧
    (∀ read ∈ passed, scope.Holds read.producer) ∧ ¬ scope.Holds edge.producer

section Raising

variable (limit gap : Nat)

theorem raised_below (id : NodeId) (below : id.index < limit) : id.raised limit gap = id := if_pos below

theorem raised_above (k : Nat) : NodeId.raised limit gap ⟨limit + k⟩ = ⟨limit + gap + k⟩ := by
  have above : ¬ limit + k < limit := by omega
  rw [NodeId.raised, if_neg above, Nat.add_right_comm]

theorem raised_index (id : NodeId) :
    (id.raised limit gap).index = if id.index < limit then id.index else id.index + gap :=
  apply_ite NodeId.index _ _ _

theorem raised_injective : Function.Injective (NodeId.raised limit gap) := by
  intro a b same
  have indices := congrArg NodeId.index same
  rw [raised_index, raised_index] at indices
  have equal : a.index = b.index := by
    split at indices <;> split at indices <;> omega
  cases a
  cases b
  exact congrArg NodeId.mk equal

theorem raised_edge (edge : Edge) (below : edge.producer.Among fun id => id.index < limit) :
    edge.renumbered (NodeId.raised limit gap) = edge := by
  obtain ⟨producer, slot⟩ := edge
  cases producer with
  | var id => rfl
  | node id => simp only [Edge.renumbered, Producer.renumbered, raised_below limit gap id below]

theorem raised_node (node : Node) (below : node.id.index < limit)
    (reads : node.ReadsBelow limit) :
    node.renumbered (NodeId.raised limit gap) = node := by
  have inputs : node.inputs.map (Edge.renumbered (NodeId.raised limit gap)) = node.inputs := by
    refine (List.map_congr_left fun edge listed => ?_).trans (List.map_id node.inputs)
    exact raised_edge limit gap edge (reads edge (List.mem_append_left _ listed))
  have predicate : node.predicate.map (Edge.renumbered (NodeId.raised limit gap)) = node.predicate := by
    cases guard : node.predicate with
    | none => rfl
    | some edge =>
        have listed : edge ∈ node.reads := List.mem_append_right _ (Option.mem_toList.mpr guard)
        exact congrArg some (raised_edge limit gap edge (reads edge listed))
  rw [Node.renumbered, inputs, predicate, raised_below limit gap node.id below]

theorem raised_function (function : Function) (indexed : function.Indexed)
    (below : ∀ node ∈ function.nodes, node.id.index < limit)
    (reads : ∀ node ∈ function.nodes, node.ReadsBelow limit) :
    function.renumbered (NodeId.raised limit gap) = function := by
  have nodes : function.nodes.map (Node.renumbered (NodeId.raised limit gap)) = function.nodes := by
    refine (List.map_congr_left fun node inside => ?_).trans (List.map_id function.nodes)
    exact raised_node limit gap node (below node inside) (reads node inside)
  have positions : function.positions.map (fun entry => (entry.1.raised limit gap, entry.2)) =
      function.positions := by
    refine (List.map_congr_left fun entry listed => ?_).trans (List.map_id function.positions)
    obtain ⟨node, access, same⟩ :=
      Option.map_eq_some_iff.mp ((indexed.entries entry.1 entry.2).mp listed)
    have number := below node (List.mem_of_getElem? access)
    rw [same] at number
    exact Prod.ext (raised_below limit gap entry.1 number) rfl
  rw [Function.renumbered, nodes, positions]

end Raising

theorem skipped_numbers (network : Network) (kept : network.Represented)
    (issued : network.ReadsIssued) (gap : Nat) :
    network.Renumbers (NodeId.raised network.nextNode gap)
      { network with nextNode := network.nextNode + gap } := by
  refine ⟨?_, rfl, rfl, rfl, rfl, raised_above network.nextNode gap⟩
  refine ((List.map_congr_left fun function member => ?_).trans (List.map_id network.functions)).symm
  exact raised_function network.nextNode gap function (kept.functions.indexed function member)
    (kept.functions.below function member) (issued function member)

section Strays

variable (mapping : NodeMapping) (storage : Variables)

theorem uncovered_edge (node : Node) (i : Nat) (edge : Edge) (fault : GraphFault)
    (failed : mapping.edge storage node i edge = .error fault) :
    ¬ mapping.Covers storage edge.producer ∧ fault = .missingMapping node.name i edge.producer := by
  constructor
  · intro covered
    obtain ⟨image, sent⟩ := (copied_edge_exists_iff mapping storage node i edge).mpr covered
    cases failed.symm.trans sent
  · obtain ⟨producer, slot⟩ := edge
    cases producer with
    | var id =>
        simp only [NodeMapping.edge] at failed
        cases found : storage.get? id with
        | none =>
            rw [found] at failed
            exact (Except.error.inj failed).symm
        | some v =>
            rw [found] at failed
            cases failed
    | node id =>
        simp only [NodeMapping.edge] at failed
        cases found : mapping.lookup id with
        | none =>
            rw [found] at failed
            exact (Except.error.inj failed).symm
        | some copy =>
            rw [found] at failed
            cases failed

-- The first of some edges without a copy.
def FirstUncovered (edges passed : List Edge) (edge : Edge) : Prop :=
  (∃ rest, edges = passed ++ edge :: rest) ∧ (∀ read ∈ passed, mapping.Covers storage read.producer) ∧
    ¬ mapping.Covers storage edge.producer

theorem uncovered_edges (node : Node) (i : Nat) (edges : List Edge) (fault : GraphFault)
    (failed : mapping.edges storage node i edges = .error fault) : ∃ passed edge,
      FirstUncovered mapping storage edges passed edge ∧
        fault = .missingMapping node.name (i + passed.length) edge.producer := by
  induction edges generalizing i with
  | nil => cases failed
  | cons head rest ih =>
      rcases (bind_error_iff _ _ _).mp failed with here | ⟨image, sent, later⟩
      · obtain ⟨uncovered, told⟩ := uncovered_edge mapping storage node i head fault here
        exact ⟨[], head, ⟨⟨rest, rfl⟩, nofun, uncovered⟩, told⟩
      · have covered := ((copied_edge_iff mapping storage node i head image).mp sent).1
        rcases (bind_error_iff _ _ _).mp later with there | ⟨images, _, done⟩
        · obtain ⟨passed, edge, ⟨⟨tail, split⟩, before, uncovered⟩, told⟩ := ih (i + 1) there
          refine ⟨head :: passed, edge, ⟨⟨tail, congrArg (head :: ·) split⟩, ?_, uncovered⟩, ?_⟩
          · exact List.forall_mem_cons.mpr ⟨covered, before⟩
          · rw [told, List.length_cons, Nat.add_assoc, Nat.add_comm 1]
        · cases done

-- The predicate comes after the inputs, in the order of the reads and in the count.
theorem uncovered_node (node : Node) (id : NodeId) (fault : GraphFault)
    (failed : mapping.node storage node id = .error fault) : ∃ passed edge,
      FirstUncovered mapping storage node.reads passed edge ∧
        fault = .missingMapping node.name passed.length edge.producer := by
  rcases (bind_error_iff _ _ _).mp failed with here | ⟨images, sent, later⟩
  · obtain ⟨passed, edge, ⟨⟨rest, split⟩, before, uncovered⟩, told⟩ :=
      uncovered_edges mapping storage node 0 _ fault here
    refine ⟨passed, edge, ⟨⟨rest ++ node.predicate.toList, ?_⟩, before, uncovered⟩, ?_⟩
    · rw [Node.reads, split, List.append_assoc, List.cons_append]
    · rw [told, Nat.zero_add]
  · have covered := (copied_edges_exist_iff mapping storage node 0 node.inputs).mp ⟨images, sent⟩
    rcases (bind_error_iff _ _ _).mp later with there | ⟨predicate, _, done⟩
    · rw [NodeMapping.predicate] at there
      cases guard : node.predicate with
      | none =>
          rw [guard] at there
          cases there
      | some edge =>
          rw [guard] at there
          obtain ⟨uncovered, told⟩ :=
            uncovered_edge mapping storage node _ edge fault ((map_fault_iff _ _ _).mp there)
          refine ⟨node.inputs, edge, ⟨⟨[], ?_⟩, covered, uncovered⟩, told⟩
          rw [Node.reads, guard, Option.toList_some]
    · cases done

theorem uncovered_nodes (start : Nat) (nodes : List Node) (fault : GraphFault)
    (failed : mapping.nodes storage start nodes = .error fault) : ∃ before node after passed edge,
      nodes = before ++ node :: after ∧
        (∀ earlier ∈ before, ∀ read ∈ earlier.reads, mapping.Covers storage read.producer) ∧
        FirstUncovered mapping storage node.reads passed edge ∧
        fault = .missingMapping node.name passed.length edge.producer := by
  induction nodes generalizing start with
  | nil => cases failed
  | cons head rest ih =>
      rcases (bind_error_iff _ _ _).mp failed with here | ⟨copy, copied, later⟩
      · obtain ⟨passed, edge, first, told⟩ := uncovered_node mapping storage head ⟨start⟩ fault here
        exact ⟨[], head, rest, passed, edge, rfl, nofun, first, told⟩
      · have covered := (copied_node_exists_iff mapping storage head ⟨start⟩).mp ⟨copy, copied⟩
        rcases (bind_error_iff _ _ _).mp later with there | ⟨copies, _, done⟩
        · obtain ⟨before, node, after, passed, edge, split, earlier, first, told⟩ := ih (start + 1) there
          refine ⟨head :: before, node, after, passed, edge, congrArg (head :: ·) split, ?_, first, told⟩
          exact List.forall_mem_cons.mpr ⟨covered, earlier⟩
        · cases done

end Strays

theorem failed_clone (network next : Network) (kept : network.Represented) (source : FunctionId)
    (name : String) (fault : GraphFault)
    (failed : network.cloneFunction source name = (.error fault, next)) :
    (next = network ∧ (fault = .duplicateFunction name ∨ fault = .unknownFunction source)) ∨
      ∃ cloned node i edge, network.function? source = some cloned ∧
        (network.scopeOf cloned).FirstStray node i edge ∧
        fault = .missingMapping node.name i edge.producer ∧
        next = { network with nextNode := network.nextNode + cloned.size } := by
  unfold Network.cloneFunction at failed
  split at failed
  · cases failed
    exact .inl ⟨rfl, .inl rfl⟩
  · split at failed
    · cases failed
      exact .inl ⟨rfl, .inr rfl⟩
    · rename_i cloned found
      dsimp only at failed
      split at failed
      · rename_i cause uncopied
        obtain ⟨same, rfl⟩ := Prod.mk.inj failed
        obtain rfl : cause = fault := Except.error.inj same
        have covers := covers_iff network kept network.nextNode cloned (List.mem_of_getElem? found)
        obtain ⟨before, node, after, passed, edge, split, earlier,
          ⟨⟨rest, reads⟩, covered, uncovered⟩, told⟩ :=
          uncovered_nodes _ _ _ _ _ uncopied
        refine .inr ⟨cloned, node, passed.length, edge, found, ?_, told, rfl⟩
        simp only [covers] at earlier covered uncovered
        exact ⟨before, after, passed, rest, split, reads, rfl, earlier, covered, uncovered⟩
      · cases failed

-- A clone that fails for its name or for its source leaves the network as it was. One that fails for an
-- edge has used up as many numbers of nodes as the function has nodes: nothing else is different, and if
-- no edge waits for a number that is still to be given, then everything that is done later comes to the
-- same in numbers that are that much higher.
theorem failed_clones_only_skip_numbers (settings : Settings) (actions : List Action)
    (source : FunctionId) (name : String) (fault : GraphFault) (next : Network)
    (failed : (Network.run settings .empty actions).cloneFunction source name = (.error fault, next)) :
    let network := Network.run settings .empty actions
    (next = network ∧ (fault = .duplicateFunction name ∨ fault = .unknownFunction source)) ∨
      ∃ cloned node i edge, network.function? source = some cloned ∧
        (network.scopeOf cloned).FirstStray node i edge ∧
        fault = .missingMapping node.name i edge.producer ∧
        next = { network with nextNode := network.nextNode + cloned.size } ∧
        (network.ReadsIssued → ∀ later action,
          let image := NodeId.raised network.nextNode cloned.size
          let reached := network.run settings later
          let other := next.run settings (later.map (Action.renumbered image))
          reached.Renumbers image other ∧
            Follows image (reached.perform settings action).1
              (other.perform settings (action.renumbered image)).1) := by
  intro network
  have kept : network.Represented := run_represented settings .empty actions empty_represented
  rcases failed_clone network next kept source name fault failed
    with unchanged | ⟨cloned, node, i, edge, found, stray, told, same⟩
  · exact .inl unchanged
  · refine .inr ⟨cloned, node, i, edge, found, stray, told, same, fun issued later action => ?_⟩
    have injective := raised_injective network.nextNode cloned.size
    have skipped := skipped_numbers network kept issued cloned.size
    rw [← same] at skipped
    have reached := renumbered_run _ injective settings network next skipped kept later
    have laterKept := run_represented settings network later kept
    exact ⟨reached, (renumbered_request _ _ _ reached injective settings laterKept action).1⟩

-- One node reads the other; both numbers are used up although the first node is already refused.
theorem orphaned_pair_skips_two_numbers :
    let network := Network.run {} .empty [.createFunction "f",
      .createVariable ⟨.plain .float [4], "x", .external, .none⟩,
      .edit ⟨0⟩ (.addLayer "r" (.activation .relu (.ofVariable ⟨0⟩))),
      .edit ⟨0⟩ (.addLayer "s" (.activation .relu (.ofNode ⟨0⟩))),
      .eraseVariable ⟨0⟩]
    let next := (network.cloneFunction ⟨0⟩ "g").2
    network.cloneFunction ⟨0⟩ "g" = (.error (.missingMapping "r__1" 0 (.var ⟨0⟩)), next) ∧
      next = { network with nextNode := 4 } ∧
      ∀ later, (network.run {} later).Renumbers (NodeId.raised 2 2)
        (next.run {} (later.map (Action.renumbered (NodeId.raised 2 2)))) := by
  intro network next
  have failed : network.cloneFunction ⟨0⟩ "g" =
      (.error (.missingMapping "r__1" 0 (.var ⟨0⟩)), next) := by
    refine Prod.ext ?_ rfl
    decide
  have issued : network.ReadsIssued := by
    refine run_reads_issued {} .empty empty_represented nofun _ ?_
    simp [Network.DrawsIssued, Action.drawn, Edit.drawn]
  obtain ⟨_, other⟩ | ⟨cloned, _, _, _, found, _, _, same, goesOn⟩ :=
    failed_clones_only_skip_numbers {} _ ⟨0⟩ "g" _ next failed
  · rcases other with taken | unknown
    · cases taken
    · cases unknown
  have size : cloned.size = 2 := by
    have functions : (network.function? ⟨0⟩).map Function.size = some 2 := by decide
    rw [show network.function? ⟨0⟩ = some cloned from found] at functions
    exact Option.some.inj functions
  rw [size] at same goesOn
  refine ⟨failed, same, fun later => ?_⟩
  exact (goesOn issued later .verify).1

-- The number of the next node tells whether a clone has failed before.
theorem failed_clone_shifts_the_next_number :
    let network := Network.run {} .empty [.createFunction "f",
      .createVariable ⟨.plain .float [4], "x", .external, .none⟩,
      .edit ⟨0⟩ (.addLayer "r" (.activation .relu (.ofVariable ⟨0⟩))), .eraseVariable ⟨0⟩]
    let outcome := network.cloneFunction ⟨0⟩ "g"
    let input := Action.createVariable ⟨.plain .float [4], "y", .external, .none⟩
    let layer := Action.edit ⟨0⟩ (.addLayer "s" (.activation .relu (.ofVariable ⟨1⟩)))
    outcome.1 = .error (.missingMapping "r__1" 0 (.var ⟨0⟩)) ∧ outcome.2 ≠ network ∧
      ((network.run {} [input]).perform {} layer).1 = .ok (.node ⟨1⟩) ∧
      ((outcome.2.run {} [input]).perform {} layer).1 = .ok (.node ⟨2⟩) := by
  decide

end TensorGraph
