import TensorGraph.Proofs.Cloning
import TensorGraph.Proofs.Continuity
import TensorGraph.Proofs.Verification

set_option autoImplicit false

namespace TensorGraph

-- What a run has done to nodes, kept beside the network. Pristine are the nodes that layers brought and
-- their copies, unless they were edited. Stranded are the nodes that still read a producer when it was
-- erased.
structure Ledger where
  pristine : List NodeId := []
  stranded : List NodeId := []
deriving DecidableEq, Repr

def Function.readers (function : Function) (target : Producer) : List NodeId :=
  (function.nodes.filter fun node => node.reads.any fun edge => edge.producer == target).map Node.id

def Network.readers (network : Network) (target : Producer) : List NodeId :=
  network.functions.flatMap fun function => function.readers target

-- The node that an action is held to have edited. An input that does not exist is not rewired, and a
-- predicate that is cleared was set by an edit before or was not there.
def Action.edits? : Action → Reply → Option NodeId
  | _, .replaced none => none
  | .edit _ (.setPredicate _ none), _ => none
  | action, _ => action.edited?

namespace Ledger

def gained (ledger : Ledger) : Action → Reply → List NodeId
  | .edit _ (.addLayer _ _), .node id => [id]
  | .cloneFunction _ _, .clone _ mapping =>
      (mapping.filter fun pair => ledger.pristine.contains pair.1).map Prod.snd
  | _, _ => []

def record (ledger : Ledger) (network : Network) (action : Action) (reply : Reply) : Ledger :=
  { pristine := ledger.gained action reply ++
    ledger.pristine.filter fun id => action.edits? reply != some id
    stranded :=
      match action.erased? with
      | some target => network.readers target ++ ledger.stranded
      | none => ledger.stranded }

-- Requests that fail leave no entry.
def ofRun (settings : Settings) (network : Network) (ledger : Ledger) : List Action → Ledger
  | [] => ledger
  | action :: rest =>
      match network.perform settings action with
      | (.ok reply, next) => ofRun settings next (ledger.record network action reply) rest
      | (.error _, next) => ofRun settings next ledger rest

end Ledger

-- Whatever an edge still leads to has the type that it had when the edge was drawn.
def Scope.Recalls (scope : Scope) (edge : Edge) (type : TensorType) : Prop :=
  match edge.producer with
  | .var id => edge.slot = 0 ∧ ∀ v ∈ scope.storage, v.id = id → scope.types.get? v.type = some type
  | .node id => ∀ node ∈ scope.function.nodes, node.id = id →
      ∃ handle, node.results[edge.slot]? = some handle ∧ scope.types.get? handle = some type

def Node.After (node : Node) (limit : Nat) : Producer → Prop
  | .var id => id.index < limit
  | .node id => id.index < node.id.index

structure Certified (network : Network) (function : Function) (node : Node) : Prop where
  unguarded : node.predicate = none
  backward : ∀ edge ∈ node.inputs, node.After network.nextVariable edge.producer
  typed : ∃ operands types, List.Forall₂ (network.scopeOf function).Recalls node.inputs operands ∧
    List.Forall₂ (fun handle type => network.types.get? handle = some type) node.results types ∧
    node.operator.check operands types = .ok ()

-- What the ledger promises about the nodes that it lists.
structure Backed (pristine stranded : NodeId → Prop) (network : Network) : Prop where
  numbered : ∀ id, pristine id → id.index < network.nextNode
  certified : ∀ function ∈ network.functions, ∀ node ∈ function.nodes, pristine node.id →
    Certified network function node
  closed : ∀ function ∈ network.functions, ∀ node ∈ function.nodes, pristine node.id →
    ¬ stranded node.id →
    ∀ edge ∈ node.inputs, (network.scopeOf function).Holds edge.producer

-- Each pristine reader of what an action erases counts as stranded already.
def Forewarned (action : Action) (pristine stranded : NodeId → Prop) (network : Network) : Prop :=
  ∀ target, action.erased? = some target → ∀ function ∈ network.functions, ∀ node ∈ function.nodes,
    pristine node.id → (∃ edge ∈ node.inputs, edge.producer = target) → stranded node.id

theorem after_rises (node : Node) (limit higher : Nat) (producer : Producer)
    (earlier : node.After limit producer) (rises : limit ≤ higher) : node.After higher producer := by
  cases producer with
  | var id => exact Nat.lt_of_lt_of_le earlier rises
  | node id => exact earlier

section Continuity

variable (action : Action) (network next : Network) (continues : network.Continues action next)

include continues

theorem recalls_continues (before after : Function)
    (kept : before.Continues action network.nextNode after) (node : Node)
    (below : node.id.index ≤ network.nextNode) (edge : Edge)
    (earlier : node.After network.nextVariable edge.producer)
    (type : TensorType) (recalls : (network.scopeOf before).Recalls edge type) :
      (next.scopeOf after).Recalls edge type := by
  obtain ⟨producer, slot⟩ := edge
  cases producer with
  | var id =>
      obtain ⟨first, typed⟩ := recalls
      refine ⟨first, ?_⟩
      rintro v member rfl
      obtain ⟨old, older, became⟩ := continues.storage.kept v member earlier
      rw [← became.type]
      exact continues.types _ _ (typed old older became.id)
  | node id =>
      rintro target member rfl
      obtain ⟨old, older, became⟩ := kept.nodes target member (Nat.lt_of_lt_of_le earlier below)
      obtain ⟨handle, held, known⟩ := recalls old older became.id
      exact ⟨handle, became.results ▸ held, continues.types _ _ known⟩

theorem certified_continues (before after : Function)
    (kept : before.Continues action network.nextNode after) (node : Node)
    (below : node.id.index < network.nextNode) (certified : Certified network before node) :
      Certified next after node := by
  refine ⟨certified.unguarded, ?_, ?_⟩
  · intro edge member
    exact after_rises node _ _ _ (certified.backward edge member) continues.storage.count
  · obtain ⟨operands, types, recalled, known, checked⟩ := certified.typed
    refine ⟨operands, types, ?_, known.imp fun handle type => continues.types handle type, checked⟩
    refine ((List.forall₂_and_left _ _).mpr ⟨certified.backward, recalled⟩).imp ?_
    rintro edge type ⟨earlier, recalls⟩
    exact recalls_continues action network next continues before after kept node
      (Nat.le_of_lt below) edge earlier type recalls

theorem holds_continues (before after : Function) (kept : before.Continues action network.nextNode after)
    (producer : Producer) (holds : (network.scopeOf before).Holds producer) :
    (next.scopeOf after).Holds producer ∨ action.erased? = some producer := by
  cases producer with
  | var id =>
      obtain ⟨v, member, rfl⟩ := holds
      exact continues.storage.live v member
  | node id =>
      obtain ⟨node, member, rfl⟩ := holds
      exact kept.live node member

variable (pristine stranded : NodeId → Prop) (backed : Backed pristine stranded network)
  (unedited : ∀ id, action.edited? = some id → ¬ pristine id)

include backed unedited

-- A pristine node was there before the change and is as it was: new numbers are not listed yet.
theorem pristine_origin (function : Function) (member : function ∈ next.functions) :
    (∃ old ∈ network.functions, old.Continues action network.nextNode function ∧
      ∀ node ∈ function.nodes, pristine node.id → node ∈ old.nodes) ∨
        ∀ node ∈ function.nodes, ¬ pristine node.id := by
  rcases continues.functions function member with ⟨old, older, kept⟩ | fresh
  · refine .inl ⟨old, older, kept, ?_⟩
    intro node inside listed
    obtain ⟨before, there, became⟩ := kept.nodes node inside (backed.numbered node.id listed)
    rcases became.whole with edited | same
    · exact absurd listed (unedited node.id edited)
    · exact same ▸ there
  · exact .inr fun node inside listed =>
      Nat.not_le_of_lt (backed.numbered node.id listed) (fresh node inside)

theorem forewarned_continues (forewarned : Forewarned action pristine stranded network) :
    Forewarned action pristine stranded next := by
  intro target erased function member node inside listed reads
  rcases pristine_origin action network next continues pristine stranded backed unedited function member
    with ⟨old, older, _, there⟩ | none
  · exact forewarned target erased old older node (there node inside listed) listed reads
  · exact absurd listed (none node inside)

theorem backed_continues (forewarned : Forewarned action pristine stranded network) :
    Backed pristine stranded next := by
  have origin := pristine_origin action network next continues pristine stranded backed unedited
  refine ⟨?_, ?_, ?_⟩
  · exact fun id listed => Nat.lt_of_lt_of_le (backed.numbered id listed) continues.nodeCount
  · intro function member node inside listed
    rcases origin function member with ⟨old, older, kept, there⟩ | none
    · exact certified_continues action network next continues old function kept node
        (backed.numbered node.id listed)
        (backed.certified old older node (there node inside listed) listed)
    · exact absurd listed (none node inside)
  · intro function member node inside listed unstranded edge reads
    rcases origin function member with ⟨old, older, kept, there⟩ | none
    · have held := backed.closed old older node (there node inside listed) listed unstranded edge reads
      refine (holds_continues action network next continues old function kept edge.producer
        held).resolve_right ?_
      intro erased
      exact unstranded (forewarned edge.producer erased old older node (there node inside listed) listed
        ⟨edge, reads, rfl⟩)
    · exact absurd listed (none node inside)

end Continuity

theorem changes_backed (action : Action) (pristine stranded : NodeId → Prop) (network next : Network)
    (changes : Changes action network next) (kept : network.Represented)
    (backed : Backed pristine stranded network)
    (unedited : ∀ id, action.edited? = some id → ¬ pristine id)
    (forewarned : Forewarned action pristine stranded network) :
    Backed pristine stranded next := by
  -- An action may change the network more than once, so the warning is carried along.
  induction changes using Relation.ReflTransGen.head_induction_on with
  | refl => exact backed
  | head change _ ih =>
      have continues := change_continues action _ _ change kept
      exact ih (change_represented action _ _ change kept)
        (backed_continues action _ _ continues pristine stranded backed unedited forewarned)
        (forewarned_continues action _ _ continues pristine stranded backed unedited forewarned)

end TensorGraph
