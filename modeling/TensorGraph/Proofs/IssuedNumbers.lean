import TensorGraph.Proofs.Renumbering

set_option autoImplicit false

namespace TensorGraph

def Node.ReadsBelow (limit : Nat) (node : Node) : Prop :=
  ∀ edge ∈ node.reads, edge.producer.Among fun id => id.index < limit

-- No edge leads to a number that is still to be given. One that is drawn by hand can.
def Network.ReadsIssued (network : Network) : Prop :=
  ∀ function ∈ network.functions, ∀ node ∈ function.nodes, node.ReadsBelow network.nextNode

def Edit.drawn : Edit → List Edge
  | .setInput _ _ edge => [edge]
  | .setPredicate _ predicate => predicate.toList
  | _ => []

def Action.drawn : Action → List Edge
  | .edit _ change => change.drawn
  | _ => []

def Network.DrawsIssued (settings : Settings) (network : Network) : List Action → Prop
  | [] => True
  | action :: rest =>
      (∀ edge ∈ action.drawn, edge.producer.Among fun id => id.index < network.nextNode) ∧
      DrawsIssued settings (network.perform settings action).2 rest

theorem among_rises (limit higher : Nat) (producer : Producer)
    (below : producer.Among fun id => id.index < limit)
    (rises : limit ≤ higher) : producer.Among fun id => id.index < higher := by
  cases producer with
  | var id => trivial
  | node id => exact Nat.lt_of_lt_of_le below rises

theorem reads_below_rises (limit higher : Nat) (node : Node) (below : node.ReadsBelow limit)
    (rises : limit ≤ higher) :
    node.ReadsBelow higher := fun edge reads =>
      among_rises limit higher edge.producer (below edge reads) rises

theorem resolved_below (network : Network) (kept : network.Represented) (function : Function)
    (member : function ∈ network.functions) (edge : Edge) (handle : TypeHandle)
    (resolved : (network.scopeOf function).handle? edge = some handle) :
    edge.producer.Among fun id => id.index < network.nextNode := by
  have issued := resolved_issued network kept function member edge handle resolved
  cases producer : edge.producer with
  | var id => trivial
  | node id =>
      rw [producer] at issued
      exact issued

theorem added_reads_below (network next : Network) (kept : network.Represented)
    (id : FunctionId) (node : Node)
    (label : String) (adds : network.Adds id node label next) : node.ReadsBelow network.nextNode := by
  obtain ⟨function, found, resolved⟩ := adds.resolved
  intro edge reads
  rw [Node.reads, adds.unguarded, Option.toList_none, List.append_nil] at reads
  obtain ⟨handle, leads⟩ := resolved edge reads
  exact resolved_below network kept function (List.mem_of_getElem? found) edge handle leads

theorem sent_below (network next : Network) (cloned copy : Function) (mapping : NodeMapping)
    (step : CloneStep network next cloned copy mapping) (edge image : Edge)
    (sends : mapping.Sends edge image) :
    image.producer.Among fun id => id.index < next.nextNode := by
  obtain ⟨producer, slot⟩ := edge
  obtain ⟨target, targetSlot⟩ := image
  obtain ⟨_, follows⟩ := sends
  cases producer with
  | var id =>
      obtain rfl : target = .var id := follows
      trivial
  | node id =>
      obtain ⟨number, found, rfl⟩ := follows
      have entry := image_entry network next cloned copy mapping step id number found
      obtain ⟨node, inside, rfl⟩ := image_node network next cloned copy mapping step id number entry
      exact (step.unissued node inside).2

theorem copy_reads_below (network next : Network) (cloned copy : Function) (mapping : NodeMapping)
    (step : CloneStep network next cloned copy mapping) (node : Node) (inside : node ∈ copy.nodes) :
    node.ReadsBelow next.nextNode := by
  obtain ⟨original, _, twin, _⟩ := copy_source network next cloned copy mapping step node inside
  intro image reads
  rcases List.mem_append.mp reads with input | guard
  · obtain ⟨edge, _, sends⟩ := related_source _ _ _ twin.inputs image input
    exact sent_below network next cloned copy mapping step edge image sends
  · have predicate := twin.predicate
    rw [Option.mem_toList.mp guard] at predicate
    generalize original.predicate = guarded at predicate
    cases predicate with
    | some sends => exact sent_below network next cloned copy mapping step _ image sends

theorem updated_reads_issued (network : Network) (issued : network.ReadsIssued) (id : FunctionId)
    (higher : Nat) (rises : network.nextNode ≤ higher) (change : Function → Function)
    (keeps : ∀ function, network.function? id = some function →
      ∀ node ∈ (change function).nodes, node.ReadsBelow higher) :
    ∀ function ∈ network.functions.modify id.index change, ∀ node ∈ function.nodes,
    node.ReadsBelow higher := by
  intro function member node inside
  obtain ⟨i, access⟩ := List.mem_iff_getElem?.mp member
  obtain ⟨old, before, rfl⟩ := (updated_entry_iff network.functions id.index i change function).mp access
  by_cases here : id.index = i
  · rw [if_pos here] at inside
    subst i
    exact keeps old before node inside
  · rw [if_neg here] at inside
    exact reads_below_rises _ _ node (issued old (List.mem_of_getElem? before) node inside) rises

theorem change_reads_issued (action : Action) (network next : Network)
    (change : Change action network next) (kept : network.Represented) (issued : network.ReadsIssued)
    (unedited : action.edited? = none) :
      next.ReadsIssued := by
  cases change with
  | journal | intern | freshName | createVariable | setPayload | eraseVariable => exact issued
  | numberNodes count =>
      intro function member node inside
      exact reads_below_rises _ _ node (issued function member node inside) (Nat.le_add_right _ _)
  | createFunction name free =>
      intro function member node inside
      rcases List.mem_append.mp member with older | last
      · exact issued function older node inside
      · rw [List.mem_singleton.mp last] at inside
        cases inside
  | addNode next id added label adds =>
      have below := added_reads_below network next kept id added label adds
      have rises := Nat.le_succ network.nextNode
      rw [adds.result]
      apply updated_reads_issued network issued id (network.nextNode + 1) rises
      intro function found node inside
      apply reads_below_rises network.nextNode _ node _ rises
      rcases List.mem_append.mp inside with older | last
      · exact issued function (List.mem_of_getElem? found) node older
      · rw [List.mem_singleton.mp last]
        exact below
  | eraseNode id target erased =>
      apply updated_reads_issued network issued id network.nextNode (Nat.le_refl _)
      intro function found node inside
      have listed := List.mem_of_getElem? found
      exact issued function listed node
        ((erase_nodes function (kept.functions.indexed function listed) target node).mp inside).1
  | editNode id target edit edited => cases unedited.symm.trans edited
  | cloneFunction name source cloned copies free found copied =>
      obtain ⟨_, _, sameNodes⟩ :=
        push_all_parts copies { id := ⟨network.functions.length⟩, name := name }
      have step := copies_step network { network with
          nextNode := network.nextNode + cloned.size
          functions := network.functions ++
            [copies.foldl Function.push { id := ⟨network.functions.length⟩, name := name }] }
        kept cloned _ copies (List.mem_of_getElem? found) copied sameNodes rfl
      intro function member node inside
      rcases List.mem_append.mp member with older | last
      · exact reads_below_rises _ _ node (issued function older node inside) (Nat.le_add_right _ _)
      · rw [List.mem_singleton.mp last] at inside
        exact copy_reads_below network _ cloned _ _ step node inside

theorem changes_read_issued (action : Action) (network next : Network)
    (changes : Changes action network next) (kept : network.Represented)
    (issued : network.ReadsIssued) (unedited : action.edited? = none) :
    next.Represented ∧ next.ReadsIssued := by
  induction changes with
  | refl => exact ⟨kept, issued⟩
  | tail _ change ih => exact ⟨change_represented action _ _ change ih.1,
      change_reads_issued action _ _ change ih.1 ih.2 unedited⟩

theorem edited_reads_issued {α : Type} (network : Network) (kept : network.Represented)
    (issued : network.ReadsIssued) (id : FunctionId) (target : NodeId) (answer : Node → α)
    (change : Node → Node)
    (keeps : ∀ node : Node, node.ReadsBelow network.nextNode →
      (change node).ReadsBelow network.nextNode) :
    (network.editNode id target answer change).2.ReadsIssued := by
  unfold Network.editNode
  cases found : network.function? id with
  | none => exact issued
  | some function =>
      cases present : function.node? target with
      | none => simpa only [present] using issued
      | some before =>
          simp only [present]
          apply updated_reads_issued network issued id network.nextNode (Nat.le_refl _)
          intro function found node inside
          have listed := List.mem_of_getElem? found
          obtain ⟨old, there, rfl⟩ :=
            (edit_nodes function (kept.functions.indexed function listed) target change node).mp inside
          have below := issued function listed old there
          by_cases here : old.id = target
          · rw [if_pos here]
            exact keeps old below
          · rw [if_neg here]
            exact below

theorem request_reads_issued (settings : Settings) (network : Network) (kept : network.Represented)
    (issued : network.ReadsIssued) (action : Action)
    (drawn : ∀ edge ∈ action.drawn, edge.producer.Among fun id => id.index < network.nextNode) :
    (network.perform settings action).2.ReadsIssued := by
  cases unedited : action.edited? with
  | none =>
      have changes := perform_changes settings network action
      exact (changes_read_issued action network _ changes kept issued unedited).2
  | some target =>
      cases action with
      | edit id change =>
          cases change with
          | rename node name => exact edited_reads_issued network kept issued id node _ _ fun _ below =>
              below
          | setInput node i edge =>
              apply edited_reads_issued network kept issued id node
              intro before below read reads
              rcases List.mem_append.mp reads with input | guard
              · rcases List.mem_or_eq_of_mem_set input with older | rfl
                · exact below read (List.mem_append_left _ older)
                · exact drawn read (List.mem_singleton_self _)
              · exact below read (List.mem_append_right _ guard)
          | setPredicate node predicate =>
              apply edited_reads_issued network kept issued id node
              intro before below read reads
              rcases List.mem_append.mp reads with input | guard
              · exact below read (List.mem_append_left _ input)
              · exact drawn read guard
          | _ => cases unedited
      | _ => cases unedited

-- An edge to a number that is still to be given comes from a request that drew it by hand.
theorem run_reads_issued (settings : Settings) (network : Network) (kept : network.Represented)
    (issued : network.ReadsIssued) (actions : List Action)
    (draws : network.DrawsIssued settings actions) :
    (network.run settings actions).ReadsIssued := by
  induction actions generalizing network with
  | nil => exact issued
  | cons action rest ih =>
      obtain ⟨drawn, later⟩ := draws
      have nextKept := changes_represented action _ _ (perform_changes settings network action) kept
      exact ih _ nextKept (request_reads_issued settings network kept issued action drawn) later

end TensorGraph
