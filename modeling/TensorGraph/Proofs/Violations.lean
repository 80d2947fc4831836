import TensorGraph.Proofs.CopyVerification

set_option autoImplicit false

namespace TensorGraph

namespace Scope

-- A producer that the scope has, and how many results it offers.
def Offers (scope : Scope) (producer : Producer) (available : Nat) : Prop :=
  match producer with
  | .var id => available = 1 ∧ ∃ v ∈ scope.storage, v.id = id
  | .node id => ∃ node ∈ scope.function.nodes, node.id = id ∧ node.results.length = available

-- The bearers of names, each with its name and its descriptor.
inductive Bears (scope : Scope) : Producer → String → String → Prop where
  | variable (v : Variable) (stored : v ∈ scope.storage) :
      Bears scope (.var v.id) v.name (v.descriptor scope.types)
  | node (node : Node) (inside : node ∈ scope.function.nodes) :
      Bears scope (.node node.id) node.name (node.descriptor scope.types)

def NamesApart (scope : Scope) : Prop :=
  (scope.storage.values.map Variable.name ++ scope.function.nodes.map Node.name).Nodup

-- Names tell everything apart, and the given one is that of a node of which something is true.
structure Blames (scope : Scope) (name : String) (fault : Node → Prop) : Prop where
  apart : scope.NamesApart
  node : ∃ node ∈ scope.function.nodes,
    (∀ other ∈ scope.function.nodes, other.name = name ↔ other = node) ∧ fault node

def InputsLeadUpTo (scope : Scope) (node : Node) : Prop :=
  ∃ before after, scope.function.nodes = before ++ node :: after ∧
    (∀ earlier ∈ before, ∀ edge ∈ earlier.reads, scope.Leads edge) ∧
      ∀ edge ∈ node.inputs, scope.Leads edge

def Closed (scope : Scope) : Prop := ∀ node ∈ scope.function.nodes, ∀ edge ∈ node.reads, scope.Leads edge

-- The operator refuses the types around the node, or how many there are.
def Refuses (scope : Scope) (node : Node) (fault : OperatorFault) : Prop :=
  ∃ operands types, List.Forall₂ scope.Carries node.inputs operands ∧
    List.Forall₂ (fun handle type => scope.types.get? handle = some type) node.results types ∧
    node.operator.check operands types = .error fault

-- What each violation says of the function, part by part.
def Explains (scope : Scope) : Violation → Prop
  | .nameConflict name current previous =>
      ∃ a b, a ≠ b ∧ scope.Bears a name current ∧ scope.Bears b name previous
  | .danglingEdge name i producer => scope.Blames name fun node =>
      (∃ slot, node.inputs[i]? = some ⟨producer, slot⟩) ∧ ¬ scope.Holds producer
  | .danglingPredicate name producer => scope.Blames name fun node =>
      (∃ slot, node.predicate = some ⟨producer, slot⟩) ∧ ¬ scope.Holds producer
  | .resultSlot name i producer slot available => scope.Blames name fun node =>
      node.inputs[i]? = some ⟨producer, slot⟩ ∧ scope.Offers producer available ∧ available ≤ slot
  | .inconsistent name (.predicateSlot slot producer available) => scope.Blames name fun node =>
      scope.InputsLeadUpTo node ∧ node.predicate = some ⟨producer, slot⟩ ∧
        scope.Offers producer available ∧ available ≤ slot
  | .inconsistent name (.operator fault) => scope.Blames name fun node =>
      scope.Closed ∧ scope.Refuses node fault
  | .inconsistent _ (.untypedInput _) => False
  | .inconsistent _ (.unknownResult _) => False
  | .cycle name => scope.Blames name fun node =>
      scope.Closed ∧ (∀ other ∈ scope.function.nodes, scope.Fits other) ∧
        Relation.TransGen scope.function.Depends node.id node.id

end Scope

-- Both bearers of a name stand in the list, the earlier one perhaps among those that were seen before.
theorem conflict_apart (seen entries : List (String × Producer))
    (apart : ((seen ++ entries).map Prod.snd).Nodup) (name : String) (current previous : Producer)
    (conflict : nameConflict? seen entries = some (name, current, previous)) :
    (name, current) ∈ entries ∧ (name, previous) ∈ seen ++ entries ∧ current ≠ previous := by
  induction entries generalizing seen with
  | nil => cases conflict
  | cons entry rest ih =>
      rw [nameConflict?] at conflict
      cases repeated : seen.lookup entry.1 with
      | some first =>
          rw [repeated] at conflict
          cases conflict
          obtain ⟨_, _, listed, _⟩ := List.lookup_eq_some_iff.mp repeated
          have older : (entry.1, previous) ∈ seen := by simp [listed]
          refine ⟨List.mem_cons_self, List.mem_append_left _ older, ?_⟩
          rw [List.map_append, List.nodup_append] at apart
          exact (apart.2.2 previous (List.mem_map_of_mem older) entry.2 (by simp)).symm
      | none =>
          rw [repeated] at conflict
          have moved : (entry :: seen ++ rest).Perm (seen ++ entry :: rest) := List.perm_middle.symm
          obtain ⟨later, earlier, different⟩ :=
            ih (entry :: seen) ((moved.map Prod.snd).nodup_iff.mpr apart) conflict
          exact ⟨List.mem_cons_of_mem _ later, moved.mem_iff.mp earlier, different⟩

theorem inputs_known (scope : Scope) (edges : List Edge)
    (typed : ∀ edge ∈ edges, ∃ type, scope.slotType? edge = some type) :
      ∃ types, scope.inputTypes edges = .ok types := by
  induction edges with
  | nil => exact ⟨[], rfl⟩
  | cons edge rest ih =>
      obtain ⟨⟨type, known⟩, later⟩ := List.forall_mem_cons.mp typed
      obtain ⟨types, listed⟩ := ih later
      refine ⟨type :: types, ?_⟩
      simp only [Scope.inputTypes, known, listed]
      rfl

section Faults

variable (scope : Scope) (limit : Nat) (kept : VariablesKept scope.storage scope.types limit)
  (indexed : scope.function.Indexed)

include kept indexed

theorem offers_iff (producer : Producer) (available : Nat) :
    scope.resultCount? producer = some available ↔ scope.Offers producer available := by
  cases producer with
  | var id =>
      simp only [Scope.resultCount?, Scope.Offers, Option.map_eq_some_iff, variable_iff _ _ _ kept]
      constructor
      · rintro ⟨v, held, rfl⟩
        exact ⟨rfl, v, held⟩
      · rintro ⟨rfl, v, held⟩
        exact ⟨v, held, rfl⟩
  | node id => simp [Scope.resultCount?, Scope.Offers, node_iff _ indexed, and_assoc]

theorem unheld_iff (producer : Producer) : scope.resultCount? producer = none ↔
    ¬ scope.Holds producer := by
  have held : scope.Holds producer ↔ ∃ available, scope.Offers producer available := by
    cases producer with
    | var id => simp [Scope.Holds, Scope.Offers]
    | node id => simp [Scope.Holds, Scope.Offers]
  rw [held]
  simp only [← offers_iff scope limit kept indexed]
  rw [Option.eq_none_iff_forall_ne_some, not_exists]

theorem producers_apart : (scope.names.map Prod.snd).Nodup := by
  have listed : scope.names.map Prod.snd =
      (scope.storage.values.map Variable.id).map Producer.var ++
        (scope.function.nodes.map Node.id).map Producer.node := by
    simp [Scope.names, Function.comp_def]
  rw [listed]
  exact producers_of_ids_apart _ _ (variable_ids_apart _ _ _ kept)
    (node_ids_apart scope.function indexed)

theorem bearer_of_entry (name : String) (producer : Producer) (listed : (name, producer) ∈ scope.names) :
    scope.Bears producer name (scope.descriptor producer) := by
  rcases List.mem_append.mp listed with stored | inside
  · obtain ⟨v, live, same⟩ := List.mem_map.mp stored
    cases same
    have found := (variable_iff _ _ _ kept v.id v).mpr ⟨live, rfl⟩
    simpa [Scope.descriptor, found] using Scope.Bears.variable v live
  · obtain ⟨node, there, same⟩ := List.mem_map.mp inside
    cases same
    have found := (node_iff _ indexed node.id node).mpr ⟨there, rfl⟩
    simpa [Scope.descriptor, found] using Scope.Bears.node node there

theorem name_fault_explained (violation : Violation) (failed : scope.checkNames = .error violation) :
    scope.Explains violation := by
  rw [Scope.checkNames] at failed
  cases conflict : nameConflict? [] scope.names with
  | none =>
      rw [conflict] at failed
      cases failed
  | some found =>
      obtain ⟨name, current, previous⟩ := found
      rw [conflict] at failed
      cases failed
      obtain ⟨second, first, different⟩ :=
        conflict_apart [] scope.names (producers_apart scope limit kept indexed) name current
          previous conflict
      exact ⟨current, previous, different, bearer_of_entry scope limit kept indexed name current second,
        bearer_of_entry scope limit kept indexed name previous first⟩

omit kept indexed

theorem blamed_node (apart : scope.NamesApart) (node : Node) (inside : node ∈ scope.function.nodes)
    (fault : Node → Prop) (holds : fault node) : scope.Blames node.name fault := by
  have nodesApart := (List.nodup_append.mp apart).2.1
  refine ⟨apart, node, inside, fun other there => ?_, holds⟩
  exact ⟨List.inj_on_of_nodup_map nodesApart there inside, congrArg Node.name⟩

include kept indexed

variable (apart : scope.NamesApart) (node : Node) (inside : node ∈ scope.function.nodes)
  (violation : Violation)

include apart inside

theorem input_fault_explained (i : Nat) (edge : Edge) (access : node.inputs[i]? = some edge)
    (failed : scope.checkInput node i edge = .error violation) : scope.Explains violation := by
  rw [Scope.checkInput] at failed
  cases count : scope.resultCount? edge.producer with
  | none =>
      rw [count] at failed
      cases failed
      have missing := (unheld_iff scope limit kept indexed edge.producer).mp count
      exact blamed_node scope apart node inside _ ⟨⟨edge.slot, access⟩, missing⟩
  | some available =>
      rw [count] at failed
      by_cases below : edge.slot < available
      · simp [below] at failed
      · simp only [below, if_false] at failed
        cases failed
        have offered := (offers_iff scope limit kept indexed edge.producer available).mp count
        exact blamed_node scope apart node inside _ ⟨access, offered, Nat.le_of_not_lt below⟩

theorem predicate_fault_explained (leads : scope.InputsLeadUpTo node)
    (failed : scope.checkPredicate node = .error violation) : scope.Explains violation := by
  rw [Scope.checkPredicate] at failed
  cases guard : node.predicate with
  | none =>
      rw [guard] at failed
      cases failed
  | some edge =>
      rw [guard] at failed
      simp only at failed
      cases count : scope.resultCount? edge.producer with
      | none =>
          rw [count] at failed
          cases failed
          have missing := (unheld_iff scope limit kept indexed edge.producer).mp count
          exact blamed_node scope apart node inside _ ⟨⟨edge.slot, guard⟩, missing⟩
      | some available =>
          rw [count] at failed
          by_cases below : edge.slot < available
          · simp [below] at failed
          · simp only [below, if_false] at failed
            cases failed
            have offered := (offers_iff scope limit kept indexed edge.producer available).mp count
            exact blamed_node scope apart node inside _ ⟨leads, guard, offered, Nat.le_of_not_lt below⟩

theorem edges_fault_explained (before after : List Node)
    (split : scope.function.nodes = before ++ node :: after)
    (passed : ∀ earlier ∈ before, scope.checkEdges earlier = .ok ())
    (failed : scope.checkEdges node = .error violation) : scope.Explains violation := by
  rw [Scope.checkEdges, then_error_iff] at failed
  rcases failed with inputs | ⟨inputs, predicate⟩
  · obtain ⟨input, listed, found⟩ := check_all_error _ _ _ inputs
    have access := List.mem_zipIdx_iff_getElem?.mp listed
    exact input_fault_explained scope limit kept indexed apart node inside violation input.2
      input.1 access found
  · refine predicate_fault_explained scope limit kept indexed apart node inside violation ?_ predicate
    refine ⟨before, after, split, ?_, ?_⟩
    · intro earlier member
      exact (check_edges_iff scope limit kept indexed earlier).mp (passed earlier member)
    · intro edge member
      obtain ⟨i, access⟩ := List.mem_iff_getElem?.mp member
      have each := (check_all_ok_iff _ _).mp inputs (edge, i) (List.mem_zipIdx_iff_getElem?.mpr access)
      exact (check_input_iff scope limit kept indexed node i edge).mp each

-- With all edges closed, every type that a node reads or promises is known, and only its operator can
-- complain.
theorem node_fault_explained (known : ∀ node ∈ scope.function.nodes, ∀ handle ∈ node.results,
      ∃ type, scope.types.get? handle = some type) (closed : scope.Closed)
    (failed : scope.checkNode node = .error violation) : scope.Explains violation := by
  have typed : ∀ edge ∈ node.inputs, ∃ type, scope.slotType? edge = some type := by
    intro edge member
    have leads := closed node inside edge (List.mem_append_left _ member)
    exact led_edge_typed scope limit kept indexed known edge leads
  obtain ⟨operands, read⟩ := inputs_known scope node.inputs typed
  obtain ⟨types, promised⟩ := results_known scope node.results (known node inside)
  have outcome : scope.nodeFault node = (node.operator.check operands types).mapError .operator := by
    rw [Scope.nodeFault, read, promised]
    rfl
  rw [Scope.checkNode, outcome] at failed
  obtain ⟨_, refused, rfl⟩ := (map_error_error_iff _ _ _).mp failed
  obtain ⟨fault, cause, rfl⟩ := (map_error_error_iff _ _ _).mp refused
  have carried := (input_types_iff scope limit kept indexed node.inputs operands).mp read
  have results := (result_types_iff scope node.results types).mp promised
  exact blamed_node scope apart node inside _ ⟨closed, operands, types, carried, results, cause⟩

omit kept inside

theorem cycle_fault_explained (closed : scope.Closed)
    (fits : ∀ node ∈ scope.function.nodes, scope.Fits node)
    (failed : scope.checkAcyclic = .error violation) : scope.Explains violation := by
  have stand : ∀ root ∈ scope.function.nodes, scope.function.node? root.id = some root :=
    fun root member => (node_iff scope.function indexed root.id root).mpr ⟨member, rfl⟩
  rw [Scope.checkAcyclic, Function.cyclicNode?] at failed
  cases searched : scope.function.searchAll [] scope.function.nodes with
  | ok finished =>
      rw [searched] at failed
      cases failed
  | error id =>
      rw [searched] at failed
      cases failed
      have cycle := search_all_blames scope.function _ stand [] id searched
      obtain ⟨_, ⟨⟨node, found, _⟩, _⟩, _⟩ := Relation.TransGen.head'_iff.mp cycle
      obtain ⟨inside, rfl⟩ := (node_iff scope.function indexed id node).mp found
      have named : scope.producerName (.node node.id) = node.name := by simp [Scope.producerName, found]
      rw [named]
      exact blamed_node scope apart node inside _ ⟨closed, fits, cycle⟩

end Faults

theorem verify_fault_explained (scope : Scope) (limit : Nat)
    (kept : VariablesKept scope.storage scope.types limit)
    (indexed : scope.function.Indexed) (known : ∀ node ∈ scope.function.nodes, ∀ handle ∈ node.results,
      ∃ type, scope.types.get? handle = some type) (violation : Violation) (failed :
        scope.verify = .error violation) :
    scope.Explains violation := by
  -- One case for each of the four passes; a later pass knows what the ones before it have established.
  rw [Scope.verify, then_error_iff] at failed
  rcases failed with names | ⟨named, later⟩
  · exact name_fault_explained scope limit kept indexed violation names
  have apart : scope.NamesApart := (check_names_iff scope).mp named
  rw [then_error_iff] at later
  rcases later with edges | ⟨led, later⟩
  · obtain ⟨before, node, after, split, passed, found⟩ := check_all_first_error _ _ _ edges
    have inside : node ∈ scope.function.nodes := by simp [split]
    exact edges_fault_explained scope limit kept indexed apart node inside violation before after
      split passed found
  have closed : scope.Closed := by
    intro node inside
    exact (check_edges_iff scope limit kept indexed node).mp ((check_all_ok_iff _ _).mp led node inside)
  rw [then_error_iff] at later
  rcases later with nodes | ⟨fitted, cycle⟩
  · obtain ⟨node, inside, found⟩ := check_all_error _ _ _ nodes
    exact node_fault_explained scope limit kept indexed apart node inside violation known closed found
  have fits : ∀ node ∈ scope.function.nodes, scope.Fits node := by
    intro node inside
    exact (check_node_iff scope limit kept indexed node).mp
      ((check_all_ok_iff _ _).mp fitted node inside)
  exact cycle_fault_explained scope indexed apart violation closed fits cycle

theorem shared_name_reported (scope : Scope) (shared : ¬ scope.NamesApart) :
    ∃ name current previous, scope.verify = .error (.nameConflict name current previous) := by
  have conflict : scope.checkNames ≠ .ok () := fun passed => shared ((check_names_iff scope).mp passed)
  unfold Scope.checkNames at conflict
  cases found : nameConflict? [] scope.names with
  | none => simp [found] at conflict
  | some entry =>
      refine ⟨entry.1, scope.descriptor entry.2.1, scope.descriptor entry.2.2, ?_⟩
      rw [Scope.verify, Scope.checkNames, found]
      rfl

theorem verification_faults_are_explained (settings : Settings) (actions : List Action) (id : FunctionId)
    (function : Function) (found : (Network.run settings .empty actions).function? id = some function) :
    let network := Network.run settings .empty actions
    (∀ fault, (network.verifyFunction settings id).1 = .error fault →
      ∃ violation, fault = .violation violation ∧ (network.scopeOf function).Explains violation) ∧
    (¬ (network.scopeOf function).NamesApart → ∃ name current previous,
      (network.verifyFunction settings id).1 =
        .error (.violation (.nameConflict name current previous))) := by
  intro network
  have kept : network.Represented := run_represented settings .empty actions empty_represented
  have member : function ∈ network.functions := List.mem_of_getElem? found
  rw [verify_function_outcome settings network id function found]
  constructor
  · intro fault failed
    obtain ⟨violation, refused, rfl⟩ := (map_error_error_iff _ _ _).mp failed
    exact ⟨violation, rfl, verify_fault_explained
      (network.scopeOf function) network.nextVariable kept.storage
      (kept.functions.indexed function member) (kept.functions.typed function member) violation refused⟩
  · intro shared
    obtain ⟨name, current, previous, refused⟩ := shared_name_reported (network.scopeOf function) shared
    exact ⟨name, current, previous, by rw [refused]; rfl⟩

theorem erased_operand_is_blamed :
    let network := Network.run {} .empty [.createFunction "f",
      .createVariable ⟨.plain .float [2], "x", .external, .none⟩,
      .edit ⟨0⟩ (.addNode "a" (.activation .relu) [.ofVariable ⟨0⟩] [⟨0⟩]), .eraseVariable ⟨0⟩]
    let found := Violation.danglingEdge "a__1" 0 (.var ⟨0⟩)
    ∃ function, network.function? ⟨0⟩ = some function ∧
      (network.verifyFunction {} ⟨0⟩).1 = .error (.violation found) ∧
      (network.scopeOf function).Explains found := by
  intro network found
  have stands : (network.function? ⟨0⟩).isSome = true := by decide
  have failed : (network.verifyFunction {} ⟨0⟩).1 = .error (.violation found) := by decide
  obtain ⟨function, held⟩ := Option.isSome_iff_exists.mp stands
  obtain ⟨violation, same, explained⟩ :=
    (verification_faults_are_explained {} _ ⟨0⟩ function held).1 _ failed
  refine ⟨function, held, failed, ?_⟩
  rw [GraphFault.violation.inj same]
  exact explained

-- The verification of everything stops at the first function that fails, and reports it as if it had
-- been asked for.
theorem verify_each_fault (settings : Settings) (network : Network) (functions : List Function)
    (fault : GraphFault) (failed : (network.verifyEach settings functions).1 = .error fault) :
    ∃ before function after violation, functions = before ++ function :: after ∧
      (∀ earlier ∈ before, (network.scopeOf earlier).verify = .ok ()) ∧
      (network.scopeOf function).verify = .error violation ∧ fault = .violation violation := by
  induction functions with
  | nil => cases failed
  | cons function rest ih =>
      rw [Network.verifyEach, Network.verifyOne] at failed
      cases outcome : (network.scopeOf function).verify with
      | error violation =>
          rw [outcome] at failed
          exact ⟨[], function, rest, violation, rfl, by simp, outcome, (Except.error.inj failed).symm⟩
      | ok value =>
          rw [outcome] at failed
          obtain ⟨before, other, after, violation, rfl, passed, found, same⟩ := ih failed
          exact ⟨function :: before, other, after, violation, rfl,
            List.forall_mem_cons.mpr ⟨outcome, passed⟩, found, same⟩

theorem network_faults_are_explained (settings : Settings) (actions : List Action) (fault : GraphFault)
    (failed : ((Network.run settings .empty actions).verify settings).1 = .error fault) :
    let network := Network.run settings .empty actions
    ∃ before function after violation, network.functions = before ++ function :: after ∧
      (∀ earlier ∈ before, (network.scopeOf earlier).WellFormed) ∧ fault = .violation violation ∧
      (network.scopeOf function).Explains violation := by
  intro network
  have kept : network.Represented := run_represented settings .empty actions empty_represented
  obtain ⟨before, function, after, violation, split, passed, found, same⟩ :=
    verify_each_fault settings network network.functions fault failed
  have member : function ∈ network.functions := by simp [split]
  refine ⟨before, function, after, violation, split, ?_, same, ?_⟩
  · intro earlier inside
    have listed : earlier ∈ network.functions := by simp [split, inside]
    exact (verify_scope_iff _ network.nextVariable kept.storage
      (kept.functions.indexed earlier listed)).mp (passed earlier inside)
  · exact verify_fault_explained (network.scopeOf function) network.nextVariable kept.storage
      (kept.functions.indexed function member) (kept.functions.typed function member) violation found

end TensorGraph
