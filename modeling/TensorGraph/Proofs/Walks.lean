import TensorGraph.Graph.Walk
import TensorGraph.Proofs.Positions

set_option autoImplicit false

namespace TensorGraph

namespace Function

-- The walk reports variables as they come, nodes only when the function has them.
def Resolves (function : Function) : Producer → Prop
  | .var _ => True
  | .node id => ∃ node, function.node? id = some node

-- A node of the function, or a variable that one of them reads.
def Involves (function : Function) : Producer → Prop
  | .var id => ∃ node ∈ function.nodes, ∃ edge ∈ node.reads, edge.producer = .var id
  | .node id => ∃ node ∈ function.nodes, node.id = id

-- A walk on its way. Whatever it started from, and whatever a visited node reads, is visited or waits.
structure Walking (function : Function) (roots visited waiting : List Producer) : Prop where
  distinct : visited.Nodup
  involved : ∀ producer ∈ visited, function.Involves producer
  due : ∀ id, .var id ∈ waiting → function.Involves (.var id)
  started : ∀ producer ∈ roots, function.Resolves producer → producer ∈ visited ∨ producer ∈ waiting
  closed : ∀ id node, .node id ∈ visited → function.node? id = some node →
    ∀ producer ∈ node.sources, function.Resolves producer → producer ∈ visited ∨ producer ∈ waiting

end Function

theorem source_iff (node : Node) (producer : Producer) :
    producer ∈ node.sources ↔ ∃ edge ∈ node.reads, edge.producer = producer := by
  rw [Node.sources, List.mem_map]
  simp only [Node.reads, List.mem_append, or_comm]

section Walk

variable (function : Function) (visited waiting : List Producer)

theorem walk_seen (current : Producer) (seen : visited.contains current = true) :
    function.walk visited (current :: waiting) = function.walk visited waiting := by
  rw [Function.walk, dif_pos seen]

theorem walk_variable (id : VariableId) (fresh : ¬ visited.contains (.var id) = true) :
    function.walk visited (.var id :: waiting) = function.walk (.var id :: visited) waiting := by
  rw [Function.walk, dif_neg fresh]

theorem walk_missing (id : NodeId) (fresh : ¬ visited.contains (.node id) = true)
    (missing : function.node? id = none) :
    function.walk visited (.node id :: waiting) = function.walk visited waiting := by
  rw [Function.walk, dif_neg fresh]
  dsimp only
  split
  · rfl
  · rename_i node found
    cases missing.symm.trans found

theorem walk_node (id : NodeId) (fresh : ¬ visited.contains (.node id) = true) (node : Node)
    (found : function.node? id = some node) :
    function.walk visited (.node id :: waiting) =
      function.walk (.node id :: visited) (node.sources ++ waiting) := by
  rw [Function.walk, dif_neg fresh]
  dsimp only
  split
  · rename_i missing
    cases found.symm.trans missing
  · rename_i other same
    rw [Option.some.inj (found.symm.trans same)]

-- The first of the waiting producers may leave when it is visited by then, or cannot be.
theorem walk_moves (roots before after left : List Producer) (current : Producer)
    (walking : function.Walking roots before (current :: waiting)) (distinct : after.Nodup)
    (settled : current ∈ after ∨ ¬ function.Resolves current) (grows : before ⊆ after)
    (remains : waiting ⊆ left) (involved : ∀ other ∈ after, other ∈ before ∨ function.Involves other)
    (due : ∀ id, .var id ∈ left → .var id ∈ waiting ∨ function.Involves (.var id))
    (opened : ∀ id node, .node id ∈ after → function.node? id = some node →
      .node id ∈ before ∨ ∀ producer ∈ node.sources, producer ∈ left) :
        function.Walking roots after left := by
  have covered : ∀ producer, function.Resolves producer →
      producer ∈ before ∨ producer ∈ current :: waiting → producer ∈ after ∨ producer ∈ left := by
    intro producer resolves covered
    rcases covered with seen | waits
    · exact .inl (grows seen)
    · rcases List.mem_cons.mp waits with rfl | later
      · exact .inl (settled.resolve_right fun unresolved => unresolved resolves)
      · exact .inr (remains later)
  refine ⟨distinct, ?_, ?_, ?_, ?_⟩
  · exact fun other listed => (involved other listed).elim (walking.involved other) id
  · exact fun v listed => (due v listed).elim
      (fun later => walking.due v (List.mem_cons_of_mem _ later)) id
  · exact fun producer root resolves =>
      covered producer resolves (walking.started producer root resolves)
  · intro id node listed found producer read resolves
    rcases opened id node listed found with older | waits
    · exact covered producer resolves (walking.closed id node older found producer read resolves)
    · exact .inr (waits producer read)

theorem walk_arrives (indexed : function.Indexed) (roots : List Producer)
    (walking : function.Walking roots visited waiting) :
    function.Walking roots (function.walk visited waiting) [] := by
  induction visited, waiting using Function.walk.induct function with
  | case1 visited => rwa [Function.walk]
  | case2 visited current waiting repeated ih =>
      rw [walk_seen _ _ _ _ repeated]
      refine ih (walk_moves function waiting roots visited visited waiting current walking
        walking.distinct ?_
        (.refl _) (.refl _) (fun _ => .inl) (fun _ => .inl) fun _ _ seen _ => .inl seen)
      exact .inl (by simpa using repeated)
  | case3 visited waiting id fresh _ ih =>
      rw [walk_variable _ _ _ _ fresh]
      refine ih (walk_moves function waiting roots visited _ waiting (.var id) walking ?_
        (.inl List.mem_cons_self) (List.subset_cons_self _ _) (.refl _) ?_ (fun _ => .inl) ?_)
      · exact List.nodup_cons.mpr ⟨by simpa using fresh, walking.distinct⟩
      · exact List.forall_mem_cons.mpr ⟨.inr (walking.due id List.mem_cons_self), fun _ => .inl⟩
      · exact fun _ _ listed _ => .inl ((List.mem_cons.mp listed).resolve_left nofun)
  | case4 visited waiting id fresh missing _ ih =>
      rw [walk_missing _ _ _ _ fresh missing]
      refine ih (walk_moves function waiting roots visited visited waiting
        (.node id) walking walking.distinct ?_
        (.refl _) (.refl _) (fun _ => .inl) (fun _ => .inl) fun _ _ seen _ => .inl seen)
      exact .inr fun ⟨node, found⟩ => nomatch missing.symm.trans found
  | case5 visited waiting id fresh node found _ ih =>
      rw [walk_node _ _ _ _ fresh _ found]
      obtain ⟨inside, same⟩ := (node_iff function indexed id node).mp found
      refine ih (walk_moves function waiting roots visited _ _ (.node id) walking ?_
        (.inl List.mem_cons_self) (List.subset_cons_self _ _) (List.subset_append_right _ _) ?_ ?_ ?_)
      · exact List.nodup_cons.mpr ⟨by simpa using fresh, walking.distinct⟩
      · exact List.forall_mem_cons.mpr ⟨.inr ⟨node, inside, same⟩, fun _ => .inl⟩
      · intro other listed
        exact (List.mem_append.mp listed).symm.imp_right fun read =>
          ⟨node, inside, (source_iff node _).mp read⟩
      · intro other target listed stands
        rcases List.mem_cons.mp listed with here | older
        · cases here
          cases found.symm.trans stands
          exact .inr fun producer => List.mem_append_left _
        · exact .inl older

theorem depth_first_arrives (indexed : function.Indexed) :
    function.Walking (function.nodes.map fun node => .node node.id) function.depthFirst.reverse [] := by
  rw [Function.depthFirst, List.reverse_reverse]
  refine walk_arrives function [] _ indexed _ ⟨List.nodup_nil, nofun, by simp, ?_, nofun⟩
  exact fun producer listed _ => .inr listed

theorem depth_first_distinct (indexed : function.Indexed) : function.depthFirst.Nodup :=
  (List.reverse_perm _).nodup_iff.mp (depth_first_arrives function indexed).distinct

theorem depth_first_iff (indexed : function.Indexed) (producer : Producer) :
    producer ∈ function.depthFirst ↔ function.Involves producer := by
  have arrives := depth_first_arrives function indexed
  have visited : ∀ other, function.Resolves other →
      other ∈ function.depthFirst.reverse ∨ other ∈ ([] : List Producer) →
        other ∈ function.depthFirst := by
    intro other _ covered
    exact List.mem_reverse.mp (covered.resolve_right List.not_mem_nil)
  have reached : ∀ node ∈ function.nodes, function.node? node.id = some node ∧
      .node node.id ∈ function.depthFirst := by
    intro node inside
    have stands := (node_iff function indexed node.id node).mpr ⟨inside, rfl⟩
    have root := arrives.started (.node node.id) (List.mem_map.mpr ⟨node, inside, rfl⟩) ⟨node, stands⟩
    exact ⟨stands, visited _ ⟨node, stands⟩ root⟩
  constructor
  · exact fun listed => arrives.involved producer (List.mem_reverse.mpr listed)
  · intro involved
    cases producer with
    | var id =>
        obtain ⟨node, inside, reads⟩ := involved
        obtain ⟨stands, listed⟩ := reached node inside
        have covered := arrives.closed node.id node (List.mem_reverse.mpr listed) stands _
          ((source_iff node _).mpr reads)
        exact visited _ trivial (covered trivial)
    | node id =>
        obtain ⟨node, inside, rfl⟩ := involved
        exact (reached node inside).2

end Walk

end TensorGraph
