import TensorGraph.Proofs.Construction
import TensorGraph.Proofs.Rebuilding

set_option autoImplicit false

namespace TensorGraph

-- Where nodes come from, kept beside the network: the nodes that layers brought and their copies, and
-- the inputs that were set since, with the same inputs of later copies. Edits do not take a node off the
-- list.
structure Origins where
  built : List NodeId := []
  rewired : List (NodeId × Nat) := []
deriving DecidableEq, Repr

namespace Origins

def joined (a b : Origins) : Origins := ⟨a.built ++ b.built, a.rewired ++ b.rewired⟩

def copied (origins : Origins) (mapping : NodeMapping) : Origins where
  built := (mapping.filter fun pair => origins.built.contains pair.1).map Prod.snd
  rewired := mapping.flatMap fun pair =>
    (origins.rewired.filter fun entry => entry.1 == pair.1).map fun entry => (pair.2, entry.2)

-- What an answered request adds. An input that does not exist is not rewired.
def gained (origins : Origins) : Action → Reply → Origins
  | .edit _ (.addLayer _ _), .node id => { built := [id] }
  | .edit _ (.setInput node i _), .replaced (some _) => { rewired := [(node, i)] }
  | .cloneFunction _ _, .clone _ mapping => origins.copied mapping
  | _, _ => {}

def ofRun (settings : Settings) (network : Network) (origins : Origins) : List Action → Origins
  | [] => origins
  | action :: rest =>
      match network.perform settings action with
      | (.ok reply, next) => ofRun settings next ((origins.gained action reply).joined origins) rest
      | (.error _, next) => ofRun settings next origins rest

def Spares (origins : Origins) (id : NodeId) (i : Nat) : Prop := (id, i) ∉ origins.rewired

end Origins

-- An input as the builder of its node left it: whatever it still leads to has the type that was read
-- there, and what is written to is a variable.
structure Network.Leaves (network : Network) (function : Function) (node : Node) (i : Nat) (edge : Edge)
    (type : TensorType) : Prop where
  backward : node.After network.nextVariable edge.producer
  recalled : (network.scopeOf function).Recalls edge type
  stored : node.operator.overwrites i = true → edge.producer.isVariable = true

-- The types that the builder of a node read were of the kinds it asks for, and the spared inputs still
-- lead to them.
def Network.Meets (network : Network) (function : Function) (node : Node) (spared : Nat → Prop) : Prop :=
  ∃ asked results, asked.length = node.inputs.length ∧
    List.Forall₂ (fun handle type => network.types.get? handle = some type) node.results results ∧
    node.operator.ElementsAsked asked results ∧
    ∀ i edge type, node.inputs[i]? = some edge → asked[i]? = some type → spared i →
      network.Leaves function node i edge type

structure Origins.Accounts (origins : Origins) (network : Network) : Prop where
  numbered : ∀ id ∈ origins.built, id.index < network.nextNode
  demands : ∀ function ∈ network.functions, ∀ node ∈ function.nodes, node.id ∈ origins.built →
    network.Meets function node (origins.Spares node.id)

theorem meets_fewer (network : Network) (function : Function) (node : Node) (spared fewer : Nat → Prop)
    (part : ∀ i, fewer i → spared i) (meets : network.Meets function node spared) :
      network.Meets function node fewer := by
  obtain ⟨asked, results, count, known, demanded, left⟩ := meets
  exact ⟨asked, results, count, known, demanded, fun i edge type access typed chosen =>
    left i edge type access typed (part i chosen)⟩

theorem joined_accounts (a b : Origins) (network : Network) (first : a.Accounts network)
    (second : b.Accounts network) :
    (a.joined b).Accounts network := by
  refine ⟨?_, ?_⟩
  · intro id listed
    exact (List.mem_append.mp listed).elim (first.numbered id) (second.numbered id)
  · intro function member node inside listed
    rcases List.mem_append.mp listed with fresh | older
    · refine meets_fewer network function node _ _ ?_ (first.demands function member node inside fresh)
      exact fun i spared rewired => spared (List.mem_append_left _ rewired)
    · refine meets_fewer network function node _ _ ?_ (second.demands function member node inside older)
      exact fun i spared rewired => spared (List.mem_append_right _ rewired)

theorem nothing_accounts (network : Network) (rewired : List (NodeId × Nat)) :
    Origins.Accounts ⟨[], rewired⟩ network :=
  ⟨fun _ listed => absurd listed List.not_mem_nil, fun _ _ _ _ listed => absurd listed List.not_mem_nil⟩

section Continuity

variable (action : Action) (network next : Network) (continues : network.Continues action next)

include continues

theorem meets_continues (before after : Function) (kept : before.Continues action network.nextNode after)
    (old node : Node) (became : old.Becomes action node) (below : node.id.index < network.nextNode)
    (count : node.inputs.length = old.inputs.length) (spared fewer : Nat → Prop)
    (stays : ∀ i, fewer i → spared i ∧ node.inputs[i]? = old.inputs[i]?)
    (meets : network.Meets before old spared) :
    next.Meets after node fewer := by
  obtain ⟨asked, results, length, known, demanded, left⟩ := meets
  refine ⟨asked, results, length.trans count.symm, ?_, ?_, ?_⟩
  · rw [← became.results]
    exact known.imp fun handle type => continues.types handle type
  · rw [← became.operator]
    exact demanded
  · intro i edge type access typed chosen
    obtain ⟨isSpared, same⟩ := stays i chosen
    rw [same] at access
    have leaves := left i edge type access typed isSpared
    have earlier : node.After network.nextVariable edge.producer := by
      simpa [Node.After, became.id] using leaves.backward
    refine ⟨after_rises node _ _ _ earlier continues.storage.count, ?_, ?_⟩
    · exact recalls_continues action network next continues before after kept node
        (Nat.le_of_lt below) edge earlier type leaves.recalled
    · rw [← became.operator]
      exact leaves.stored

theorem accounts_continue (unedited : action.edited? = none) (origins : Origins)
    (accounts : origins.Accounts network) :
    origins.Accounts next := by
  refine ⟨fun id listed => Nat.lt_of_lt_of_le (accounts.numbered id listed) continues.nodeCount, ?_⟩
  intro function member node inside listed
  have below := accounts.numbered node.id listed
  rcases continues.functions function member with ⟨old, older, kept⟩ | fresh
  · obtain ⟨before, there, became⟩ := kept.nodes node inside below
    obtain rfl : before = node := became.whole.resolve_left (by simp [unedited])
    exact meets_continues action network next continues old function kept before before
      became below rfl _ _
      (fun i spared => ⟨spared, rfl⟩) (accounts.demands old older before there listed)
  · exact absurd below (Nat.not_lt_of_le (fresh node inside))

end Continuity

theorem changes_account (action : Action) (network next : Network)
    (changes : Changes action network next) (kept : network.Represented)
    (unedited : action.edited? = none) (origins : Origins)
    (accounts : origins.Accounts network) : origins.Accounts next := by
  induction changes using Relation.ReflTransGen.head_induction_on with
  | refl => exact accounts
  | head change _ ih =>
      have continues := change_continues action _ _ change kept
      exact ih (change_represented action _ _ change kept)
        (accounts_continue action _ _ continues unedited origins accounts)

section Edits

variable (action : Action) (network : Network) (id : FunctionId) (target : NodeId)
  (change : Node → Node) (edited : action.edited? = some target) (preserves : Node.Preserves change)
  (named : action.renamed? = some target ∨ ∀ before, (change before).name = before.name)
  (kept : network.Represented) (origins : Origins) (rewired : List (NodeId × Nat))
  (accounts : origins.Accounts network)
  (inputs : ∀ before : Node, (change before).inputs.length = before.inputs.length ∧
    ∀ i, (target, i) ∉ rewired → (change before).inputs[i]? = before.inputs[i]?)

include edited preserves named kept accounts inputs

theorem edited_node_accounts : (Origins.joined ⟨[], rewired⟩ origins).Accounts
    (network.updateFunction id fun function => function.edit target change) := by
  have continues :=
    change_continues action network _ (.editNode network id target change edited preserves named) kept
  refine ⟨accounts.numbered, ?_⟩
  intro function member node inside listed
  have spared : ∀ i, (Origins.joined ⟨[], rewired⟩ origins).Spares node.id i → (node.id, i) ∉ rewired ∧
      origins.Spares node.id i :=
    fun i chosen => not_or.mp (mt List.mem_append.mpr chosen)
  obtain ⟨i, access⟩ := List.mem_iff_getElem?.mp member
  obtain ⟨old, before, rfl⟩ := (updated_entry_iff network.functions id.index i _ function).mp access
  have older := List.mem_of_getElem? before
  by_cases here : id.index = i
  · rw [if_pos here] at inside ⊢
    have keeps := edited_function_continues action network.nextNode old
      (kept.functions.indexed old older) target change edited
      preserves named
    obtain ⟨there, original, rfl⟩ :=
      (edit_nodes old (kept.functions.indexed old older) target change node).mp inside
    by_cases hit : there.id = target
    · rw [if_pos hit] at listed spared ⊢
      obtain ⟨sameId, sameOperator, sameResults⟩ := preserves there
      have became : there.Becomes action (change there) := by
        refine ⟨sameId.symm, sameOperator.symm, sameResults.symm, ?_, .inl ?_⟩
        · rw [sameId, hit]
          exact named.imp_right fun keeps => (keeps there).symm
        · rw [sameId, hit]
          exact edited
      have below := accounts.numbered (change there).id listed
      rw [sameId] at listed
      refine meets_continues action network _ continues old _ keeps there (change there) became below
        (inputs there).1
        (origins.Spares there.id) _ ?_ (accounts.demands old older there original listed)
      intro j chosen
      obtain ⟨unset, spares⟩ := spared j chosen
      rw [sameId] at unset spares
      exact ⟨spares, (inputs there).2 j (hit ▸ unset)⟩
    · rw [if_neg hit] at listed spared ⊢
      exact meets_continues action network _ continues old _ keeps there there
        (same_node_becomes action there)
        (accounts.numbered there.id listed) rfl _ _ (fun j chosen => ⟨(spared j chosen).2, rfl⟩)
        (accounts.demands old older there original listed)
  · rw [if_neg here] at inside ⊢
    exact meets_continues action network _ continues old old
      (same_function_continues action _ old) node node
      (same_node_becomes action node) (accounts.numbered node.id listed) rfl _ _
        (fun j chosen => ⟨(spared j chosen).2, rfl⟩)
      (accounts.demands old older node inside listed)

theorem edit_node_accounts {α : Type} (answer : Node → α) :
    (Origins.joined ⟨[], rewired⟩ origins).Accounts (network.editNode id target answer change).2 := by
  have unchanged := joined_accounts _ _ network (nothing_accounts network rewired) accounts
  unfold Network.editNode
  split
  · exact unchanged
  · split
    · exact unchanged
    · exact edited_node_accounts action network id target change edited preserves named kept origins
        rewired accounts inputs

end Edits

theorem rewired_input (node : Node) (i : Nat) (edge : Edge) :
    (node.withInput i edge).inputs.length = node.inputs.length ∧
    ∀ j, j ≠ i → (node.withInput i edge).inputs[j]? = node.inputs[j]? := by
  refine ⟨List.length_set, ?_⟩
  intro j other
  exact List.getElem?_set_ne other.symm

-- An edit that is answered leaves every input that it does not set.
theorem answered_edit_accounts (settings : Settings) (network next : Network) (action : Action)
    (reply : Reply) (performed : network.perform settings action = (.ok reply, next))
    (edits : action.edited? ≠ none) (kept : network.Represented) (origins : Origins)
    (accounts : origins.Accounts network) :
    ((origins.gained action reply).joined origins).Accounts next := by
  cases action with
  | edit id change =>
      cases change with
      | rename node name =>
          obtain ⟨_, done, rfl⟩ := outcome_map_ok _ _ _ _ performed
          have after := congrArg Prod.snd done
          subst after
          exact edit_node_accounts (.edit id (.rename node name)) network id node
            (fun node => { node with name := name })
            rfl (fun _ => ⟨rfl, rfl, rfl⟩) (.inl rfl) kept origins [] accounts
              (fun _ => ⟨rfl, fun _ _ => rfl⟩) fun _ => ()
      | setPredicate node predicate =>
          obtain ⟨_, done, rfl⟩ := outcome_map_ok _ _ _ _ performed
          have after := congrArg Prod.snd done
          subst after
          exact edit_node_accounts (.edit id (.setPredicate node predicate)) network id node
            (fun node => { node with predicate := predicate }) rfl (fun _ => ⟨rfl, rfl, rfl⟩) (.inr
              fun _ => rfl) kept origins [] accounts (fun _ => ⟨rfl, fun _ _ => rfl⟩) fun _ => ()
      | setInput node i edge =>
          obtain ⟨old, rewired, rfl⟩ := outcome_map_ok _ _ _ _ performed
          cases old with
          | none =>
              rw [absent_input_unchanged network next id node i edge rewired]
              exact joined_accounts _ _ network (nothing_accounts network []) accounts
          | some before =>
              have after := congrArg Prod.snd rewired
              subst after
              refine edit_node_accounts (.edit id (.setInput node i edge)) network id node
                (fun node => node.withInput i edge) rfl
                (fun _ => ⟨rfl, rfl, rfl⟩) (.inr fun _ => rfl) kept origins [(node, i)] accounts
                  (fun before => ?_) _
              obtain ⟨count, others⟩ := rewired_input before i edge
              exact ⟨count, fun j unset => others j fun same => unset (by simp [same])⟩
      | addNode label operator inputs results => exact absurd rfl edits
      | addLayer label layer => exact absurd rfl edits
      | erase target => exact absurd rfl edits
  | _ => exact absurd rfl edits

section Copies

variable (origins : Origins) (mapping : NodeMapping)

theorem copied_built_iff (id : NodeId) :
    id ∈ (origins.copied mapping).built ↔ ∃ source ∈ origins.built, (source, id) ∈ mapping := by
  simp [Origins.copied, and_comm]

theorem copied_rewired (source id : NodeId) (i : Nat) (entry : (source, id) ∈ mapping)
    (spared : (origins.copied mapping).Spares id i) : origins.Spares source i := by
  intro rewired
  refine spared (List.mem_flatMap.mpr ⟨(source, id), entry, ?_⟩)
  exact List.mem_map.mpr ⟨(source, i), List.mem_filter.mpr ⟨rewired, beq_self_eq_true source⟩, rfl⟩

variable (network next : Network) (cloned copy : Function)
  (step : CloneStep network next cloned copy mapping) (kept : network.Represented)
  (nextKept : next.Represented) (member : cloned ∈ network.functions) (made : copy ∈ next.functions)

include step kept nextKept member made

theorem copied_node_meets (original node : Node) (twin : mapping.Twin original node)
    (entry : (original.id, node.id) ∈ mapping) (spared : Nat → Prop)
    (meets : network.Meets cloned original spared) :
      next.Meets copy node spared := by
  obtain ⟨asked, results, count, known, demanded, left⟩ := meets
  refine ⟨asked, results, count.trans twin.inputs.length_eq, ?_, ?_, ?_⟩
  · rw [twin.results, step.types]
    exact known
  · rw [twin.operator]
    exact demanded
  · intro i image type access typed chosen
    obtain ⟨edge, read, sends⟩ := related_at _ _ _ twin.inputs i image access
    have leaves := left i edge type read typed chosen
    refine ⟨?_, ?_, ?_⟩
    · exact sent_after network next cloned copy mapping step (kept.functions.indexed cloned member)
        (nextKept.functions.indexed copy made) original node entry edge image sends leaves.backward
    · exact sent_recalls network next cloned copy mapping step edge image type sends leaves.recalled
    · intro overwrites
      have stored := leaves.stored (twin.operator ▸ overwrites)
      obtain ⟨_, follows⟩ := sends
      cases producer : edge.producer with
      | var id =>
          rw [producer] at follows
          rw [follows]
          rfl
      | node id =>
          rw [producer] at stored
          cases stored

theorem copied_nodes_account (accounts : origins.Accounts network) :
    (origins.copied mapping).Accounts next := by
  refine ⟨?_, ?_⟩
  · intro id listed
    obtain ⟨source, _, entry⟩ := (copied_built_iff origins mapping id).mp listed
    obtain ⟨node, inside, rfl⟩ := image_node network next cloned copy mapping step source id entry
    exact (step.unissued node inside).2
  · intro function listed node inside built
    obtain ⟨source, older, entry⟩ := (copied_built_iff origins mapping node.id).mp built
    obtain rfl := copied_node_place network next cloned copy mapping step kept function listed node
      inside source entry
    obtain ⟨original, there, twin, again⟩ :=
      copy_source network next cloned function mapping step node inside
    obtain rfl :=
      same_source network next cloned function mapping step source original.id node.id entry again
    refine copied_node_meets mapping network next cloned function step kept nextKept member made original
      node twin again _ ?_
    refine meets_fewer network cloned original _ _ ?_
      (accounts.demands cloned member original there older)
    exact fun i => copied_rewired origins mapping original.id node.id i again

end Copies

end TensorGraph
