import TensorGraph.Proofs.Violations

set_option autoImplicit false

namespace TensorGraph

-- What is left of a scope when one producer goes: all the others, in the order they had.
structure Scope.Loses (scope : Scope) (target : Producer) (rest : Scope) : Prop where
  types : rest.types = scope.types
  storagePart : rest.storage.values.Sublist scope.storage.values
  storage : ∀ v, v ∈ rest.storage ↔ v ∈ scope.storage ∧ Producer.var v.id ≠ target
  nodesPart : rest.function.nodes.Sublist scope.function.nodes
  nodes : ∀ node, node ∈ rest.function.nodes ↔ node ∈ scope.function.nodes ∧
    Producer.node node.id ≠ target

def Network.Loses (network : Network) (target : Producer) (rest : Network) : Prop :=
  ∀ left ∈ rest.functions, ∃ function ∈ network.functions,
  (network.scopeOf function).Loses target (rest.scopeOf left)

-- The reports that a node reads a producer which is not there.
inductive Node.Misses (node : Node) (target : Producer) : Violation → Prop where
  | input (i slot : Nat) (reads : node.inputs[i]? = some ⟨target, slot⟩) :
      Misses node target (.danglingEdge node.name i target)
  | predicate (slot : Nat) (reads : node.predicate = some ⟨target, slot⟩) :
      Misses node target (.danglingPredicate node.name target)

theorem erased_part (function : Function) (id : NodeId) :
    (function.erase id).nodes.Sublist function.nodes := by
  unfold Function.erase
  split
  · exact List.eraseIdx_sublist function.nodes _
  · exact .refl _

theorem missed_read (node : Node) (target : Producer) (violation : Violation)
    (misses : node.Misses target violation) :
    ∃ edge ∈ node.reads, edge.producer = target := by
  cases misses with
  | input i slot reads => exact ⟨_, List.mem_append_left _ (List.mem_of_getElem? reads), rfl⟩
  | predicate slot reads => exact ⟨⟨target, slot⟩, List.mem_append_right _ (by simp [reads]), rfl⟩

section Loss

variable (scope rest : Scope) (target : Producer) (loses : scope.Loses target rest)

include loses

theorem lost_leads_iff (edge : Edge) : rest.Leads edge ↔ scope.Leads edge ∧ edge.producer ≠ target := by
  obtain ⟨producer, slot⟩ := edge
  cases producer with
  | var id =>
      simp only [Scope.Leads, loses.storage]
      constructor
      · rintro ⟨first, v, ⟨stored, other⟩, rfl⟩
        exact ⟨⟨first, v, stored, rfl⟩, other⟩
      · rintro ⟨⟨first, v, stored, rfl⟩, other⟩
        exact ⟨first, v, ⟨stored, other⟩, rfl⟩
  | node id =>
      simp only [Scope.Leads, loses.nodes]
      constructor
      · rintro ⟨node, ⟨inside, other⟩, rfl, below⟩
        exact ⟨⟨node, inside, rfl, below⟩, other⟩
      · rintro ⟨⟨node, inside, rfl, below⟩, other⟩
        exact ⟨node, ⟨inside, other⟩, rfl, below⟩

theorem lost_carries (edge : Edge) (type : TensorType) (elsewhere : edge.producer ≠ target)
    (carries : scope.Carries edge type) : rest.Carries edge type := by
  obtain ⟨producer, slot⟩ := edge
  cases producer with
  | var id =>
      obtain ⟨v, stored, rfl, known⟩ := carries
      exact ⟨v, (loses.storage v).mpr ⟨stored, elsewhere⟩, rfl, loses.types ▸ known⟩
  | node id =>
      obtain ⟨node, inside, rfl, handle, held, known⟩ := carries
      exact ⟨node, (loses.nodes node).mpr ⟨inside, elsewhere⟩, rfl, handle, held, loses.types ▸ known⟩

theorem lost_fits (node : Node) (elsewhere : ∀ edge ∈ node.inputs, edge.producer ≠ target)
    (fits : scope.Fits node) :
    rest.Fits node := by
  obtain ⟨operands, types, carried, known, checked⟩ := fits.accepted
  refine ⟨fits.inputs, fits.results, operands, types, ?_, loses.types ▸ known, checked⟩
  refine ((List.forall₂_and_left _ _).mpr ⟨elsewhere, carried⟩).imp ?_
  rintro edge type ⟨other, carries⟩
  exact lost_carries scope rest target loses edge type other carries

theorem lost_ordered (order : scope.function.Ordered) : rest.function.Ordered := by
  obtain ⟨rank, falls⟩ := order
  refine ⟨rank, fun node inside edge reads other there leads => ?_⟩
  exact falls node (loses.nodesPart.subset inside) edge reads other (loses.nodesPart.subset there) leads

-- Names, slots, types and the order of what remains are not disturbed; only edges to the lost producer
-- can be.
theorem lost_well_formed_iff (sound : scope.WellFormed) : rest.WellFormed ↔
    ∀ node ∈ rest.function.nodes, ∀ edge ∈ node.reads, edge.producer ≠ target := by
  constructor
  · intro remains node inside edge reads
    exact ((lost_leads_iff scope rest target loses edge).mp (remains.edges node inside edge reads)).2
  · intro unread
    refine ⟨?_, ?_, ?_, lost_ordered scope rest target loses sound.order⟩
    · exact sound.names.sublist ((loses.storagePart.map _).append (loses.nodesPart.map _))
    · intro node inside edge reads
      have led := sound.edges node (loses.nodesPart.subset inside) edge reads
      exact (lost_leads_iff scope rest target loses edge).mpr ⟨led, unread node inside edge reads⟩
    · intro node inside
      have elsewhere : ∀ edge ∈ node.inputs, edge.producer ≠ target := fun edge listed =>
        unread node inside edge (List.mem_append_left _ listed)
      exact lost_fits scope rest target loses node elsewhere
        (sound.nodes node (loses.nodesPart.subset inside))

theorem lost_unheld : ¬ rest.Holds target := by
  cases target with
  | var id =>
      rintro ⟨v, stored, rfl⟩
      exact ((loses.storage v).mp stored).2 rfl
  | node id =>
      rintro ⟨node, inside, rfl⟩
      exact ((loses.nodes node).mp inside).2 rfl

variable (limit : Nat) (kept : VariablesKept rest.storage rest.types limit)
  (indexed : rest.function.Indexed)

include kept indexed

theorem lost_edge_target (edge : Edge) (led : scope.Leads edge) (astray : ¬ rest.Leads edge) :
    edge.producer = target ∧ rest.resultCount? edge.producer = none := by
  have same : edge.producer = target := by
    by_contra other
    exact astray ((lost_leads_iff scope rest target loses edge).mpr ⟨led, other⟩)
  rw [same]
  exact ⟨rfl, (unheld_iff rest limit kept indexed target).mpr (lost_unheld scope rest target loses)⟩

theorem lost_edges_missed (node : Node) (led : ∀ edge ∈ node.reads, scope.Leads edge)
    (violation : Violation)
    (failed : rest.checkEdges node = .error violation) : node.Misses target violation := by
  rw [Scope.checkEdges, then_error_iff] at failed
  rcases failed with inputs | ⟨_, predicate⟩
  · obtain ⟨⟨edge, i⟩, listed, found⟩ := check_all_error _ _ _ inputs
    have access := List.mem_zipIdx_iff_getElem?.mp listed
    have astray : ¬ rest.Leads edge := by
      intro leads
      rw [(check_input_iff rest limit kept indexed node i edge).mpr leads] at found
      cases found
    have reads : edge ∈ node.reads := List.mem_append_left _ (List.mem_of_getElem? access)
    obtain ⟨rfl, missing⟩ :=
      lost_edge_target scope rest target loses limit kept indexed edge (led edge reads) astray
    rw [Scope.checkInput, missing] at found
    cases found
    exact .input i edge.slot access
  · cases guard : node.predicate with
    | none =>
        rw [Scope.checkPredicate, guard] at predicate
        cases predicate
    | some edge =>
        have astray : ¬ rest.Leads edge := by
          intro leads
          rw [(check_predicate_iff rest limit kept indexed node).mpr (by simpa [guard] using leads)]
            at predicate
          cases predicate
        have reads : edge ∈ node.reads := List.mem_append_right _ (by simp [guard])
        obtain ⟨rfl, missing⟩ :=
          lost_edge_target scope rest target loses limit kept indexed edge (led edge reads) astray
        rw [Scope.checkPredicate, guard] at predicate
        simp only [missing] at predicate
        cases predicate
        exact .predicate edge.slot guard

theorem lost_fault_missed (sound : scope.WellFormed) (violation : Violation)
    (failed : rest.verify = .error violation) :
    ∃ node ∈ rest.function.nodes, node.Misses target violation := by
  have names : rest.checkNames = .ok () := by
    refine (check_names_iff rest).mpr ?_
    exact sound.names.sublist ((loses.storagePart.map _).append (loses.nodesPart.map _))
  rw [Scope.verify, then_error_iff, then_error_iff, names] at failed
  rcases failed with ⟨⟨⟩⟩ | ⟨_, edges | ⟨edges, later⟩⟩
  · obtain ⟨node, inside, found⟩ := check_all_error _ _ _ edges
    have led := sound.edges node (loses.nodesPart.subset inside)
    exact ⟨node, inside, lost_edges_missed scope rest target loses limit kept indexed node led
      violation found⟩
  · -- With every edge closed the rest is well formed, so no later pass can fail.
    have unread : ∀ node ∈ rest.function.nodes, ∀ edge ∈ node.reads, edge.producer ≠ target := by
      intro node inside edge reads
      have closed :=
        (check_edges_iff rest limit kept indexed node).mp ((check_all_ok_iff _ _).mp edges node inside)
      exact ((lost_leads_iff scope rest target loses edge).mp (closed edge reads)).2
    have passed := (verify_scope_iff rest limit kept indexed).mpr
      ((lost_well_formed_iff scope rest target loses sound).mpr unread)
    rw [Scope.verify, then_ok_iff, then_ok_iff] at passed
    cases later.symm.trans passed.2.2

end Loss

section Networks

variable (settings : Settings) (network rest : Network) (target : Producer)
  (loses : network.Loses target rest) (kept : rest.Represented)
  (sound : ∀ function ∈ network.functions, (network.scopeOf function).WellFormed)

include loses kept sound

theorem lost_network_verdict :
    ((rest.verify settings).1 = .ok () ↔
      ∀ function ∈ rest.functions, ∀ node ∈ function.nodes, ∀ edge ∈ node.reads,
        edge.producer ≠ target) ∧
    ∀ fault, (rest.verify settings).1 = .error fault →
      ∃ function ∈ rest.functions, ∃ node ∈ function.nodes,
      ∃ violation, node.Misses target violation ∧ fault = .violation violation := by
  constructor
  · rw [Network.verify, verify_each_iff]
    refine forall₂_congr fun left member => ?_
    obtain ⟨function, before, lost⟩ := loses left member
    rw [verify_scope_iff _ rest.nextVariable kept.storage (kept.functions.indexed left member)]
    exact lost_well_formed_iff _ _ target lost (sound function before)
  · intro fault failed
    obtain ⟨passed, left, _, violation, split, _, found, same⟩ :=
      verify_each_fault settings rest rest.functions fault failed
    have member : left ∈ rest.functions := by simp [split]
    obtain ⟨function, before, lost⟩ := loses left member
    obtain ⟨node, inside, misses⟩ := lost_fault_missed _ _ target lost rest.nextVariable kept.storage
      (kept.functions.indexed left member) (sound function before) violation found
    exact ⟨left, member, node, inside, violation, misses, same⟩

end Networks

section Erased

variable (network : Network) (kept : network.Represented)

include kept

theorem erased_variable_loses (v : Variable) (stored : v ∈ network.storage) :
    (network.eraseVariable v.id).1 = .ok v ∧
      (network.eraseVariable v.id).2.functions = network.functions ∧
      network.Loses (.var v.id) (network.eraseVariable v.id).2 := by
  have found := (variable_iff _ _ _ kept.storage v.id v).mpr ⟨stored, rfl⟩
  rw [Network.eraseVariable, found]
  refine ⟨rfl, rfl, fun function member => ⟨function, member, ?_⟩⟩
  refine ⟨rfl, network.storage.erased_sublist v.id, fun other => ?_,
    .refl _, by simp [Network.scopeOf, Network.report]⟩
  refine (network.storage.erased_iff kept.storage.keyed v.id other).trans ?_
  simp [Network.scopeOf]

theorem erased_node_loses (id : FunctionId) (function : Function)
    (found : network.function? id = some function) (node : Node) (inside : node ∈ function.nodes) :
    (network.erase id (.node node.id)).1 = .ok () ∧
      (network.erase id (.node node.id)).2.functions =
        network.functions.modify id.index (fun function => function.erase node.id) ∧
      network.Loses (.node node.id) (network.erase id (.node node.id)).2 := by
  have indexed := kept.functions.indexed function (List.mem_of_getElem? found)
  have present := (node_iff function indexed node.id node).mpr ⟨inside, rfl⟩
  simp only [Network.erase, found, present]
  refine ⟨trivial, rfl, fun left member => ?_⟩
  obtain ⟨i, access⟩ := List.mem_iff_getElem?.mp member
  obtain ⟨old, before, rfl⟩ := (updated_entry_iff network.functions id.index i _ left).mp access
  refine ⟨old, List.mem_of_getElem? before, ?_⟩
  have unstored : ∀ v, v ∈ network.storage ↔ v ∈ network.storage ∧
      Producer.var v.id ≠ .node node.id := by simp
  by_cases here : id.index = i
  · subst i
    cases found.symm.trans before
    rw [if_pos rfl]
    refine ⟨rfl, .refl _, unstored, erased_part function node.id, fun other => ?_⟩
    simp only [Network.scopeOf, erase_nodes function indexed, ne_eq, Producer.node.injEq]
  · rw [if_neg here]
    refine ⟨rfl, .refl _, unstored, .refl _,
      fun other => ⟨fun there => ⟨there, fun same => here ?_⟩, And.left⟩⟩
    exact kept.functions.apart _ _ _ _ found before node inside other there (Producer.node.inj same).symm

variable (sound : ∀ function ∈ network.functions, (network.scopeOf function).WellFormed)

include sound

-- Only the function that held a node has edges to it, so its other nodes are all that can miss it.
theorem erased_node_readers (id : FunctionId) (function : Function)
    (found : network.function? id = some function) (node : Node) (inside : node ∈ function.nodes)
    (other : Node) (reads : ∃ edge ∈ other.reads, edge.producer = .node node.id) :
    (∃ left ∈ (network.erase id (.node node.id)).2.functions, other ∈ left.nodes) ↔
      other ∈ function.nodes ∧ other ≠ node := by
  have indexed := kept.functions.indexed function (List.mem_of_getElem? found)
  have different : other ∈ (function.erase node.id).nodes ↔ other ∈ function.nodes ∧ other ≠ node := by
    rw [erase_nodes function indexed]
    refine and_congr_right fun there => not_congr ⟨fun same => ?_, congrArg Node.id⟩
    have again := (node_iff function indexed node.id other).mpr ⟨there, same⟩
    exact Option.some.inj (again.symm.trans ((node_iff function indexed node.id node).mpr ⟨inside, rfl⟩))
  rw [← different, (erased_node_loses network kept id function found node inside).2.1]
  constructor
  · rintro ⟨left, member, there⟩
    obtain ⟨i, access⟩ := List.mem_iff_getElem?.mp member
    obtain ⟨old, before, rfl⟩ := (updated_entry_iff network.functions id.index i _ left).mp access
    by_cases here : id.index = i
    · subst i
      cases found.symm.trans before
      rwa [if_pos rfl] at there
    · rw [if_neg here] at there
      obtain ⟨⟨producer, slot⟩, listed, rfl⟩ := reads
      obtain ⟨target, held, same, _⟩ :=
        (sound old (List.mem_of_getElem? before)).edges other there _ listed
      exact absurd (kept.functions.apart _ _ _ _ found before node inside target held same.symm) here
  · intro there
    refine ⟨function.erase node.id, ?_, there⟩
    refine List.mem_of_getElem? (i := id.index)
      ((updated_entry_iff network.functions id.index _ _ _).mpr ?_)
    exact ⟨function, found, (if_pos rfl).symm⟩

end Erased

-- A producer that is erased is missed exactly by the nodes that read it. The variable may be erased on
-- its own or through any of the functions.
theorem erasures_are_reported_exactly (settings : Settings) (actions : List Action)
    (sound : ((Network.run settings .empty actions).verify settings).1 = .ok ()) :
    let network := Network.run settings .empty actions
    (∀ id function, network.function? id = some function → ∀ node ∈ function.nodes,
      let outcome := network.perform settings (.edit id (.erase (.node node.id)))
      outcome.1 = .ok .done ∧
      ((outcome.2.verify settings).1 = .ok () ↔
        ∀ other ∈ function.nodes, other ≠ node → ∀ edge ∈ other.reads, edge.producer ≠ .node node.id) ∧
      ∀ fault, (outcome.2.verify settings).1 = .error fault → ∃ other ∈ function.nodes, other ≠ node ∧
        ∃ violation, other.Misses (.node node.id) violation ∧ fault = .violation violation) ∧
    ∀ v ∈ network.storage, ∀ action, (action = .eraseVariable v.id ∨ ∃ id function,
        network.function? id = some function ∧ action = .edit id (.erase (.var v.id))) →
      let outcome := network.perform settings action
      (∃ reply, outcome.1 = .ok reply) ∧
      ((outcome.2.verify settings).1 = .ok () ↔
        ∀ function ∈ network.functions, ∀ node ∈ function.nodes, ∀ edge ∈ node.reads,
          edge.producer ≠ .var v.id) ∧
      ∀ fault, (outcome.2.verify settings).1 = .error fault →
        ∃ function ∈ network.functions, ∃ node ∈ function.nodes,
        ∃ violation, node.Misses (.var v.id) violation ∧ fault = .violation violation := by
  intro network
  have kept : network.Represented := run_represented settings .empty actions empty_represented
  have formed : ∀ function ∈ network.functions, (network.scopeOf function).WellFormed := by
    intro function member
    have passed := (verify_each_iff settings network network.functions).mp sound function member
    exact (verify_scope_iff _ network.nextVariable kept.storage
      (kept.functions.indexed function member)).mp passed
  have nextKept : ∀ action, (network.perform settings action).2.Represented := fun action =>
    changes_represented action _ _ (perform_changes settings network action) kept
  constructor
  · intro id function found node inside outcome
    obtain ⟨done, _, loses⟩ := erased_node_loses network kept id function found node inside
    have readers := erased_node_readers network kept formed id function found node inside
    have verdict := lost_network_verdict settings network outcome.2 _ loses (nextKept _) formed
    refine ⟨congrArg (Except.map fun _ => Reply.done) done, verdict.1.trans ?_, fun fault failed => ?_⟩
    · constructor
      · intro unread other there different edge reads leads
        obtain ⟨left, member, stays⟩ := (readers other ⟨edge, reads, leads⟩).mpr ⟨there, different⟩
        exact unread left member other stays edge reads leads
      · intro unread left member other stays edge reads leads
        obtain ⟨there, different⟩ := (readers other ⟨edge, reads, leads⟩).mp ⟨left, member, stays⟩
        exact unread other there different edge reads leads
    · obtain ⟨left, member, other, stays, violation, misses, same⟩ := verdict.2 fault failed
      obtain ⟨there, different⟩ :=
        (readers other (missed_read other _ violation misses)).mp ⟨left, member, stays⟩
      exact ⟨other, there, different, violation, misses, same⟩
  · intro v stored action erases outcome
    obtain ⟨done, functions, loses⟩ := erased_variable_loses network kept v stored
    have removed : (∃ reply, outcome.1 = .ok reply) ∧ outcome.2 = (network.eraseVariable v.id).2 := by
      rcases erases with rfl | ⟨id, function, found, rfl⟩
      · exact ⟨⟨_, congrArg (Except.map Reply.variable) done⟩, rfl⟩
      · simp only [outcome, Network.perform, Network.edit, Outcome.map, Network.erase, found, done]
        exact ⟨⟨_, rfl⟩, trivial⟩
    obtain ⟨answered, same⟩ := removed
    have verdict :=
      lost_network_verdict settings network outcome.2 _ (same ▸ loses) (nextKept action) formed
    rw [same, functions] at verdict
    exact ⟨answered, same ▸ verdict⟩

-- The second function reads the variable `go` as a guard only, and the first one not at all.
theorem erased_guard_is_missed :
    let network := Network.run {} .empty [.createFunction "f", .createFunction "g",
      .createVariable ⟨.plain .float [2], "x", .external, .none⟩,
      .createVariable ⟨.plain .float [1], "go", .external, .none⟩,
      .edit ⟨0⟩ (.addLayer "a" (.activation .relu (.ofVariable ⟨0⟩))),
      .edit ⟨0⟩ (.addLayer "b" (.activation .tanh (.ofNode ⟨0⟩))),
      .edit ⟨1⟩ (.addLayer "c" (.activation .relu (.ofVariable ⟨0⟩))),
      .edit ⟨1⟩ (.setPredicate ⟨2⟩ (some (.ofVariable ⟨1⟩)))]
    let withoutLast := (network.perform {} (.edit ⟨0⟩ (.erase (.node ⟨1⟩)))).2
    let withoutFirst := (network.perform {} (.edit ⟨0⟩ (.erase (.node ⟨0⟩)))).2
    let withoutGuard := (network.perform {} (.edit ⟨0⟩ (.erase (.var ⟨1⟩)))).2
    (network.verify {}).1 = .ok () ∧ (withoutLast.verify {}).1 = .ok () ∧
      (withoutFirst.verify {}).1 ≠ .ok () ∧
      (withoutGuard.verify {}).1 = .error (.violation (.danglingPredicate "c__4" (.var ⟨1⟩))) ∧
      ∃ function ∈ network.functions, ∃ node ∈ function.nodes,
        node.Misses (.var ⟨1⟩) (.danglingPredicate "c__4" (.var ⟨1⟩)) := by
  intro network withoutLast withoutFirst withoutGuard
  have sound : (network.verify {}).1 = .ok () := by decide +kernel
  have failed : (withoutGuard.verify {}).1 =
      .error (.violation (.danglingPredicate "c__4" (.var ⟨1⟩))) := by decide +kernel
  obtain ⟨ofNodes, ofVariables⟩ := erasures_are_reported_exactly {} _ sound
  let first : Node := ⟨⟨0⟩, "a__2", .activation .relu, [.ofVariable ⟨0⟩], [⟨0⟩], none⟩
  let last : Node := ⟨⟨1⟩, "b__3", .activation .tanh, [.ofNode ⟨0⟩], [⟨0⟩], none⟩
  let home : Function :=
    { id := ⟨0⟩, name := "f", nodes := [first, last], positions := [(⟨1⟩, 1), (⟨0⟩, 0)] }
  have found : network.function? ⟨0⟩ = some home := by decide +kernel
  have stored : ∃ v ∈ network.storage, v.id = ⟨1⟩ := by decide +kernel
  refine ⟨sound, ?_, ?_, failed, ?_⟩
  · exact (ofNodes ⟨0⟩ home found last (by simp [home])).2.1.mpr (by decide)
  · exact fun passed =>
      absurd ((ofNodes ⟨0⟩ home found first (by simp [home])).2.1.mp passed) (by decide)
  · obtain ⟨v, listed, same⟩ := stored
    have erases : Action.edit ⟨0⟩ (.erase (.var ⟨1⟩)) = .edit ⟨0⟩ (.erase (.var v.id)) := by rw [same]
    obtain ⟨_, _, reported⟩ := ofVariables v listed _ (.inr ⟨⟨0⟩, home, found, erases⟩)
    obtain ⟨function, member, node, inside, violation, misses, again⟩ := reported _ failed
    rw [same, ← GraphFault.violation.inj again] at misses
    exact ⟨function, member, node, inside, misses⟩

end TensorGraph
