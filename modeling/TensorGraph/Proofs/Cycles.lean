import Mathlib.Logic.Relation
import TensorGraph.Graph.Acyclic
import TensorGraph.Proofs.Positions

set_option autoImplicit false

namespace TensorGraph

def Function.Depends (function : Function) (id other : NodeId) : Prop :=
  (∃ node, function.node? id = some node ∧ other ∈ node.dependencies) ∧
    ∃ target, function.node? other = some target

-- The nodes can be numbered so that each reads only nodes of smaller numbers.
def Function.Ordered (function : Function) : Prop :=
  ∃ rank : NodeId → Nat, ∀ node ∈ function.nodes, ∀ edge ∈ node.reads, ∀ other ∈ function.nodes,
    edge.producer = .node other.id → rank other.id < rank node.id

-- Each finished node depends on nodes that were finished before it only.
inductive Settled (function : Function) : List NodeId → Prop where
  | nil : Settled function []
  | cons (id : NodeId) (earlier : List NodeId) (settled : Settled function earlier)
      (below : ∀ other, function.Depends id other → other ∈ earlier) : Settled function (id :: earlier)

-- A path of frames, innermost first, from which the search has gone on to `entered`. Each dependency of
-- a frame is still pending, finished, or the one that was entered.
inductive Trail (function : Function) (finished : List NodeId) :
    List NodeId → List Function.Frame → Prop where
  | nil (entered : List NodeId) : Trail function finished entered []
  | cons (entered : List NodeId) (frame : Function.Frame) (node : Node) (outer : List Function.Frame)
      (stands : function.node? frame.node = some node)
      (due : ∀ other ∈ frame.pending, other ∈ node.dependencies)
      (taken : ∀ other ∈ entered, function.Depends frame.node other)
      (followed : ∀ other, function.Depends frame.node other →
        other ∈ frame.pending ∨ other ∈ finished ∨ other ∈ entered)
      (rest : Trail function finished [frame.node] outer) :
      Trail function finished entered (frame :: outer)

def settledRank : List NodeId → NodeId → Nat
  | [], _ => 0
  | _ :: earlier, id => if id ∈ earlier then settledRank earlier id else earlier.length + 1

theorem settled_rank_bound (finished : List NodeId) (id : NodeId) :
    settledRank finished id ≤ finished.length := by
  induction finished with
  | nil => exact Nat.le_refl 0
  | cons _ earlier ih =>
      rw [settledRank, List.length_cons]
      split
      · exact Nat.le_succ_of_le ih
      · exact Nat.le_refl _

theorem settled_rank_falls (function : Function) (finished : List NodeId)
    (settled : Settled function finished) (id other : NodeId) (member : id ∈ finished)
    (depends : function.Depends id other) :
    other ∈ finished ∧ settledRank finished other < settledRank finished id := by
  induction settled with
  | nil => simp at member
  | cons last earlier _ below ih =>
      by_cases older : id ∈ earlier
      · obtain ⟨inside, less⟩ := ih older
        refine ⟨List.mem_cons_of_mem last inside, ?_⟩
        rw [settledRank, settledRank, if_pos inside, if_pos older]
        exact less
      · have same : id = last := (List.mem_cons.mp member).resolve_right older
        subst id
        have inside := below other depends
        refine ⟨List.mem_cons_of_mem last inside, ?_⟩
        rw [settledRank, settledRank, if_pos inside, if_neg older]
        exact Nat.lt_succ_of_le (settled_rank_bound earlier other)

theorem trail_grow (function : Function) (finished : List NodeId) (id : NodeId) (entered : List NodeId)
    (path : List Function.Frame) (trail : Trail function finished entered path) :
    Trail function (id :: finished) entered path := by
  induction trail with
  | nil entered => exact .nil entered
  | cons entered frame node outer stands due taken followed _ ih =>
      refine .cons entered frame node outer stands due taken ?_ ih
      intro other depends
      rcases followed other depends with pending | done | next
      · exact .inl pending
      · exact .inr (.inl (List.mem_cons_of_mem id done))
      · exact .inr (.inr next)

theorem trail_leave (function : Function) (finished : List NodeId) (id : NodeId)
    (path : List Function.Frame)
    (trail : Trail function finished [id] path) : Trail function (id :: finished) [] path := by
  cases trail with
  | nil => exact .nil []
  | cons _ frame node outer stands due _ followed rest =>
      refine .cons [] frame node outer stands due (by simp) ?_ (trail_grow function finished id _ _ rest)
      intro other depends
      rcases followed other depends with pending | done | next
      · exact .inl pending
      · exact .inr (.inl (List.mem_cons_of_mem id done))
      · exact .inr (.inl (List.mem_singleton.mp next ▸ List.mem_cons_self))

theorem trail_skip (function : Function) (finished : List NodeId) (current next : NodeId)
    (pending : List NodeId) (path : List Function.Frame)
    (trail : Trail function finished [] (⟨current, next :: pending⟩ :: path))
    (closed : function.Depends current next → next ∈ finished) :
    Trail function finished [] (⟨current, pending⟩ :: path) := by
  cases trail with
  | cons _ _ node _ stands due taken followed rest =>
      refine .cons [] ⟨current, pending⟩ node path stands
        (fun other member => due other (List.mem_cons_of_mem next member)) (by simp) ?_ rest
      intro other depends
      rcases followed other depends with awaited | done | none
      · rcases List.mem_cons.mp awaited with rfl | later
        · exact .inr (.inl (closed depends))
        · exact .inl later
      · exact .inr (.inl done)
      · simp at none

theorem trail_missing (function : Function) (finished : List NodeId) (current next : NodeId)
    (pending : List NodeId) (path : List Function.Frame)
    (trail : Trail function finished [] (⟨current, next :: pending⟩ :: path))
    (missing : function.node? next = none) :
    Trail function finished [] (⟨current, pending⟩ :: path) := by
  refine trail_skip function finished current next pending path trail ?_
  rintro ⟨_, target, found⟩
  rw [missing] at found
  cases found

theorem trail_follow (function : Function) (finished : List NodeId) (current next : NodeId)
    (pending : List NodeId) (path : List Function.Frame)
    (trail : Trail function finished [] (⟨current, next :: pending⟩ :: path)) (node : Node)
    (found : function.node? next = some node) :
    Trail function finished [next] (⟨current, pending⟩ :: path) := by
  cases trail with
  | cons _ _ outer _ stands due _ followed rest =>
      have depends : function.Depends current next :=
        ⟨⟨outer, stands, due next List.mem_cons_self⟩, node, found⟩
      refine .cons [next] ⟨current, pending⟩ outer path stands
        (fun other member => due other (List.mem_cons_of_mem next member))
          (by simpa using depends) ?_ rest
      intro other reads
      rcases followed other reads with awaited | done | none
      · rcases List.mem_cons.mp awaited with rfl | later
        · exact .inr (.inr List.mem_cons_self)
        · exact .inl later
      · exact .inr (.inl done)
      · simp at none

theorem trail_enter (function : Function) (finished : List NodeId) (next : NodeId)
    (path : List Function.Frame) (trail : Trail function finished [next] path) (node : Node)
    (found : function.node? next = some node) :
    Trail function finished [] (⟨next, node.dependencies.reverse⟩ :: path) := by
  refine .cons [] ⟨next, node.dependencies.reverse⟩ node path found (by simp) (by simp) ?_ trail
  rintro other ⟨⟨owner, same, listed⟩, _⟩
  rw [show function.node? next = some owner from same] at found
  rw [← Option.some.inj found]
  exact .inl (List.mem_reverse.mpr listed)

theorem trail_stands (function : Function) (finished entered : List NodeId) (path : List Function.Frame)
    (trail : Trail function finished entered path) (id : NodeId)
    (opened : Function.isOpen path id = true) :
    ∃ node, function.node? id = some node := by
  induction trail with
  | nil => simp [Function.isOpen] at opened
  | cons _ frame node outer stands _ _ _ _ ih =>
      by_cases same : frame.node = id
      · exact ⟨node, same ▸ stands⟩
      · exact ih (by simpa [Function.isOpen, same] using opened)

-- Each open node leads to the one that was entered last, which is why entering it again would close a
-- cycle.
theorem trail_reaches (function : Function) (finished entered : List NodeId) (path : List Function.Frame)
    (trail : Trail function finished entered path) (id last : NodeId) (reached : last ∈ entered)
    (opened : Function.isOpen path id = true) : Relation.TransGen function.Depends id last := by
  induction trail generalizing last with
  | nil => simp [Function.isOpen] at opened
  | cons _ frame _ outer _ _ taken _ _ ih =>
      have step := taken last reached
      by_cases same : frame.node = id
      · exact .single (same ▸ step)
      · exact .tail (ih frame.node List.mem_cons_self
          (by simpa [Function.isOpen, same] using opened)) step

theorem trail_cycle (function : Function) (finished : List NodeId) (current next : NodeId)
    (pending : List NodeId) (path : List Function.Frame)
    (trail : Trail function finished [] (⟨current, next :: pending⟩ :: path))
    (opened : Function.isOpen (⟨current, next :: pending⟩ :: path) next = true) :
    Relation.TransGen function.Depends next next := by
  obtain ⟨node, found⟩ := trail_stands function finished [] _ trail next opened
  exact trail_reaches function finished [next] _
    (trail_follow function finished current next pending path trail node found)
    next next List.mem_cons_self (by simpa [Function.isOpen] using opened)

section Search

variable (function : Function) (finished : List NodeId) (current next : NodeId) (pending : List NodeId)
  (path : List Function.Frame)

theorem search_done (unopened : ¬ Function.isOpen (⟨current, next :: pending⟩ :: path) next = true)
    (done : finished.contains next = true) :
    function.search finished (⟨current, next :: pending⟩ :: path) =
      function.search finished (⟨current, pending⟩ :: path) := by
  rw [Function.search, dif_neg unopened, dif_pos done]

theorem search_missing (unopened : ¬ Function.isOpen (⟨current, next :: pending⟩ :: path) next = true)
    (undone : ¬ finished.contains next = true) (missing : function.node? next = none) :
    function.search finished (⟨current, next :: pending⟩ :: path) =
      function.search finished (⟨current, pending⟩ :: path) := by
  rw [Function.search, dif_neg unopened, dif_neg undone]
  split
  · rfl
  · rename_i node found
    rw [missing] at found
    cases found

theorem search_found (unopened : ¬ Function.isOpen (⟨current, next :: pending⟩ :: path) next = true)
    (undone : ¬ finished.contains next = true) (node : Node) (found : function.node? next = some node) :
    function.search finished (⟨current, next :: pending⟩ :: path) =
      function.search finished (⟨next, node.dependencies.reverse⟩ :: ⟨current, pending⟩ :: path) := by
  rw [Function.search, dif_neg unopened, dif_neg undone]
  split
  · rename_i missing
    rw [missing] at found
    cases found
  · rename_i other same
    rw [found] at same
    rw [Option.some.inj same]

end Search

theorem search_settles (function : Function) (finished : List NodeId) (path : List Function.Frame)
    (settled : Settled function finished) (trail : Trail function finished [] path)
    (result : List NodeId) (searched : function.search finished path = .ok result) :
    Settled function result ∧ (∀ id ∈ finished, id ∈ result) ∧ ∀ frame ∈ path, frame.node ∈ result := by
  -- One case for each move of the search; a node without pending dependencies leaves the path for the
  -- settled list.
  induction finished, path using Function.search.induct function generalizing result with
  | case1 finished =>
      rw [Function.search] at searched
      rw [← Except.ok.inj searched]
      exact ⟨settled, fun _ member => member, by simp⟩
  | case2 finished current path ih =>
      rw [Function.search] at searched
      cases trail with
      | cons _ _ node _ stands due taken followed rest =>
          have below : ∀ other, function.Depends current other → other ∈ finished := by
            intro other depends
            simpa using followed other depends
          obtain ⟨whole, grown, visited⟩ := ih (.cons current finished settled below)
            (trail_leave function finished current path rest) result searched
          refine ⟨whole, fun id member => grown id (List.mem_cons_of_mem current member), ?_⟩
          exact List.forall_mem_cons.mpr ⟨grown current List.mem_cons_self, visited⟩
  | case3 finished current next pending path opened =>
      rw [Function.search, dif_pos opened] at searched
      cases searched
  | case4 finished current next pending path unopened done ih =>
      rw [search_done function finished current next pending path unopened done] at searched
      obtain ⟨whole, grown, visited⟩ := ih settled
        (trail_skip function finished current next pending path trail
          fun _ => by simpa using done) result searched
      exact ⟨whole, grown, by simpa using visited⟩
  | case5 finished current next pending path unopened undone missing ih =>
      rw [search_missing function finished current next pending path unopened undone missing] at searched
      obtain ⟨whole, grown, visited⟩ := ih settled
        (trail_missing function finished current next pending path trail missing) result searched
      exact ⟨whole, grown, by simpa using visited⟩
  | case6 finished current next pending path unopened undone node found ih =>
      rw [search_found function finished current next pending path unopened undone node found]
        at searched
      have followed := trail_follow function finished current next pending path trail node found
      obtain ⟨whole, grown, visited⟩ :=
        ih settled (trail_enter function finished next _ followed node found) result searched
      exact ⟨whole, grown, by simpa using (List.forall_mem_cons.mp visited).2⟩

theorem search_blames (function : Function) (finished : List NodeId) (path : List Function.Frame)
    (trail : Trail function finished [] path) (id : NodeId)
    (searched : function.search finished path = .error id) :
    Relation.TransGen function.Depends id id := by
  induction finished, path using Function.search.induct function with
  | case1 finished =>
      rw [Function.search] at searched
      cases searched
  | case2 finished current path ih =>
      rw [Function.search] at searched
      cases trail with
      | cons _ _ _ _ _ _ _ _ rest => exact ih (trail_leave function finished current path rest) searched
  | case3 finished current next pending path opened =>
      rw [Function.search, dif_pos opened] at searched
      rw [← Except.error.inj searched]
      exact trail_cycle function finished current next pending path trail opened
  | case4 finished current next pending path unopened done ih =>
      rw [search_done function finished current next pending path unopened done] at searched
      exact ih (trail_skip function finished current next pending path trail
        fun _ => by simpa using done) searched
  | case5 finished current next pending path unopened undone missing ih =>
      rw [search_missing function finished current next pending path unopened undone missing] at searched
      exact ih (trail_missing function finished current next pending path trail missing) searched
  | case6 finished current next pending path unopened undone node found ih =>
      rw [search_found function finished current next pending path unopened undone node found]
        at searched
      have followed := trail_follow function finished current next pending path trail node found
      exact ih (trail_enter function finished next _ followed node found) searched

theorem root_trail (function : Function) (finished : List NodeId) (root : Node)
    (stands : function.node? root.id = some root) :
    Trail function finished [] [⟨root.id, root.dependencies.reverse⟩] :=
  trail_enter function finished root.id [] (.nil [root.id]) root stands

theorem search_all_settles (function : Function) (roots : List Node)
    (stand : ∀ root ∈ roots, function.node? root.id = some root) (finished : List NodeId)
    (settled : Settled function finished) (result : List NodeId)
    (searched : function.searchAll finished roots = .ok result) :
    Settled function result ∧ (∀ id ∈ finished, id ∈ result) ∧ ∀ root ∈ roots, root.id ∈ result := by
  induction roots generalizing finished with
  | nil =>
      rw [← Except.ok.inj searched]
      exact ⟨settled, fun _ member => member, by simp⟩
  | cons root rest ih =>
      obtain ⟨rootStands, restStand⟩ := List.forall_mem_cons.mp stand
      unfold Function.searchAll at searched
      split at searched
      · rename_i done
        obtain ⟨whole, grown, visited⟩ := ih restStand finished settled searched
        exact ⟨whole, grown, List.forall_mem_cons.mpr ⟨grown root.id (by simpa using done), visited⟩⟩
      · split at searched
        · rename_i next first
          obtain ⟨before, kept, reached⟩ := search_settles function finished _ settled
            (root_trail function finished root rootStands) next first
          obtain ⟨whole, grown, visited⟩ := ih restStand next before searched
          refine ⟨whole, fun id member => grown id (kept id member), ?_⟩
          exact List.forall_mem_cons.mpr ⟨grown root.id (reached _ List.mem_cons_self), visited⟩
        · cases searched

theorem search_all_blames (function : Function) (roots : List Node)
    (stand : ∀ root ∈ roots, function.node? root.id = some root) (finished : List NodeId) (id : NodeId)
    (searched : function.searchAll finished roots = .error id) :
      Relation.TransGen function.Depends id id := by
  induction roots generalizing finished with
  | nil => cases searched
  | cons root rest ih =>
      obtain ⟨rootStands, restStand⟩ := List.forall_mem_cons.mp stand
      unfold Function.searchAll at searched
      split at searched
      · exact ih restStand finished searched
      · split at searched
        · rename_i next _
          exact ih restStand next searched
        · rename_i blamed first
          rw [← Except.error.inj searched]
          exact search_blames function finished _
            (root_trail function finished root rootStands) blamed first

theorem dependency_iff (node : Node) (other : NodeId) :
    other ∈ node.dependencies ↔ ∃ edge ∈ node.reads, edge.producer = .node other := by
  have target : ∀ producer : Producer, producer.nodeId? = some other ↔ producer = .node other := by
    intro producer
    cases producer <;> simp [Producer.nodeId?]
  simp [Node.dependencies, target]

theorem no_cycle_in_order (function : Function) (rank : NodeId → Nat)
    (falls : ∀ id other, function.Depends id other → rank other < rank id) (id other : NodeId)
    (path : Relation.TransGen function.Depends id other) : rank other < rank id := by
  induction path with
  | single step => exact falls _ _ step
  | tail _ step ih => exact Nat.lt_trans (falls _ _ step) ih

theorem ordered_iff (function : Function) (indexed : function.Indexed) : function.Ordered ↔
    ∃ rank : NodeId → Nat, ∀ id other, function.Depends id other → rank other < rank id := by
  refine exists_congr fun rank => ?_
  constructor
  · rintro falls id other ⟨⟨node, found, listed⟩, target, resolved⟩
    obtain ⟨member, rfl⟩ := (node_iff function indexed id node).mp found
    obtain ⟨inside, rfl⟩ := (node_iff function indexed other target).mp resolved
    obtain ⟨edge, reads, leads⟩ := (dependency_iff node target.id).mp listed
    exact falls node member edge reads target inside leads
  · intro falls node member edge reads target inside leads
    have found := (node_iff function indexed node.id node).mpr ⟨member, rfl⟩
    have resolved := (node_iff function indexed target.id target).mpr ⟨inside, rfl⟩
    exact falls node.id target.id
      ⟨⟨node, found, (dependency_iff node target.id).mpr ⟨edge, reads, leads⟩⟩, target, resolved⟩

theorem acyclic_iff (function : Function) (indexed : function.Indexed) :
    function.cyclicNode? = none ↔ function.Ordered := by
  have stand : ∀ root ∈ function.nodes, function.node? root.id = some root :=
    fun root member => (node_iff function indexed root.id root).mpr ⟨member, rfl⟩
  rw [ordered_iff function indexed, Function.cyclicNode?]
  cases searched : function.searchAll [] function.nodes with
  | ok result =>
      obtain ⟨settled, _, visited⟩ := search_all_settles function _ stand [] .nil result searched
      refine iff_of_true rfl ⟨settledRank result, ?_⟩
      intro id other depends
      obtain ⟨node, found, _⟩ := depends.1
      obtain ⟨member, rfl⟩ := (node_iff function indexed id node).mp found
      exact (settled_rank_falls function result settled node.id other (visited node member) depends).2
  | error id =>
      have cycle := search_all_blames function _ stand [] id searched
      refine iff_of_false (by simp) ?_
      rintro ⟨rank, falls⟩
      exact Nat.lt_irrefl _ (no_cycle_in_order function rank falls id id cycle)

end TensorGraph
