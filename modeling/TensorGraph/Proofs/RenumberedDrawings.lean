import TensorGraph.Network.Overview
import TensorGraph.Proofs.RenumberedFunctions
import TensorGraph.Proofs.Walks

set_option autoImplicit false

namespace TensorGraph

def Vertex.renumbered (image : NodeId → NodeId) : Vertex → Vertex
  | .record producer inputs text outputs style =>
      .record (producer.renumbered image) inputs text outputs style
  | .box function name size => .box function name size

def ArrowHead.renumbered (image : NodeId → NodeId) : ArrowHead → ArrowHead
  | .pin producer input => .pin (producer.renumbered image) input
  | .west producer => .west (producer.renumbered image)
  | .box function => .box function

def Arrow.renumbered (image : NodeId → NodeId) (arrow : Arrow) : Arrow :=
  { arrow with tail := arrow.tail.renumbered image, head := arrow.head.renumbered image }

def Drawing.renumbered (image : NodeId → NodeId) (drawing : Drawing) : Drawing :=
  ⟨drawing.vertices.map (Vertex.renumbered image), drawing.arrows.map (Arrow.renumbered image)⟩

theorem renumbered_sources (image : NodeId → NodeId) (node : Node) :
    (node.renumbered image).sources = node.sources.map (Producer.renumbered image) := by
  cases guard : node.predicate with
  | none => simp [Node.sources, Node.renumbered, guard, Edge.renumbered]
  | some edge => simp [Node.sources, Node.renumbered, guard, Edge.renumbered]

section Reflection

variable (image : NodeId → NodeId) (among : NodeId → Prop) (source copy : Scope)
  (reflects : source.Reflects image among copy)

include reflects

theorem reflected_apart (a b : Producer) (mentionedA : a.Among among) (mentionedB : b.Among among)
    (same : a.renumbered image = b.renumbered image) : a = b := by
  cases a with
  | var id =>
      cases b with
      | var other => exact same
      | node other => cases same
  | node id =>
      cases b with
      | var other => cases same
      | node other => exact congrArg Producer.node (reflects.apart id other mentionedA mentionedB
          (Producer.node.inj same))

theorem visited_reflected (visited : List Producer)
    (mentioned : ∀ producer ∈ visited, producer.Among among)
    (current : Producer) (here : current.Among among) :
    (visited.map (Producer.renumbered image)).contains (current.renumbered image) = true ↔
      visited.contains current = true := by
  simp only [List.contains_iff_mem, List.mem_map]
  constructor
  · rintro ⟨other, member, same⟩
    rw [← reflected_apart image among source copy reflects other current
      (mentioned other member) here same]
    exact member
  · exact fun member => ⟨current, member, rfl⟩

theorem sources_mentioned (node : Node) (inside : node ∈ source.function.nodes) (producer : Producer)
    (listed : producer ∈ node.sources) : producer.Among among := by
  obtain ⟨edge, reads, rfl⟩ := List.mem_map.mp listed
  refine reflects.closed node inside edge ?_
  rw [Node.reads]
  exact List.mem_append.mpr (List.mem_append.mp reads).symm

-- The walk over the copy makes the moves of the walk over the source.
theorem walk_reflected (visited waiting : List Producer)
    (seen : ∀ producer ∈ visited, producer.Among among)
    (due : ∀ producer ∈ waiting, producer.Among among) :
    copy.function.walk (visited.map (Producer.renumbered image))
      (waiting.map (Producer.renumbered image)) =
        (source.function.walk visited waiting).map (Producer.renumbered image) ∧
      ∀ producer ∈ source.function.walk visited waiting, producer.Among among := by
  induction visited, waiting using Function.walk.induct source.function with
  | case1 visited =>
      rw [List.map_nil, Function.walk, Function.walk]
      exact ⟨rfl, seen⟩
  | case2 visited current waiting repeated ih =>
      obtain ⟨here, later⟩ := List.forall_mem_cons.mp due
      have again :=
        (visited_reflected image among source copy reflects visited seen current here).mpr repeated
      rw [List.map_cons, walk_seen _ _ _ _ again, walk_seen _ _ _ _ repeated]
      exact ih seen later
  | case3 visited waiting id fresh _ ih =>
      obtain ⟨here, later⟩ := List.forall_mem_cons.mp due
      have unseen :=
        mt (visited_reflected image among source copy reflects visited seen (.var id) here).mp fresh
      rw [Producer.renumbered] at unseen
      rw [List.map_cons, Producer.renumbered]
      rw [walk_variable _ _ _ _ unseen, walk_variable _ _ _ _ fresh]
      exact ih (List.forall_mem_cons.mpr ⟨here, seen⟩) later
  | case4 visited waiting id fresh missing _ ih =>
      obtain ⟨here, later⟩ := List.forall_mem_cons.mp due
      have unseen :=
        mt (visited_reflected image among source copy reflects visited seen (.node id) here).mp fresh
      have absent := reflects.lookup id here
      rw [missing, Option.map_none] at absent
      rw [Producer.renumbered] at unseen
      rw [List.map_cons, Producer.renumbered]
      rw [walk_missing _ _ _ _ unseen absent, walk_missing _ _ _ _ fresh missing]
      exact ih seen later
  | case5 visited waiting id fresh node found _ ih =>
      obtain ⟨here, later⟩ := List.forall_mem_cons.mp due
      have unseen :=
        mt (visited_reflected image among source copy reflects visited seen (.node id) here).mp fresh
      have copied := reflects.lookup id here
      rw [found, Option.map_some] at copied
      rw [Producer.renumbered] at unseen
      rw [List.map_cons, Producer.renumbered]
      rw [walk_node _ _ _ _ unseen _ copied, walk_node _ _ _ _ fresh _ found, renumbered_sources,
        ← List.map_append]
      refine ih (List.forall_mem_cons.mpr ⟨here, seen⟩) fun producer listed => ?_
      rcases List.mem_append.mp listed with read | waits
      · exact sources_mentioned image among source copy reflects node
          (found_listed _ id node found) producer read
      · exact later producer waits

theorem depth_first_reflected :
    copy.function.depthFirst = source.function.depthFirst.map (Producer.renumbered image) ∧
      ∀ producer ∈ source.function.depthFirst, producer.Among among := by
  have roots : ∀ producer ∈ source.function.nodes.map (fun node => Producer.node node.id),
      producer.Among among := by
    intro producer listed
    obtain ⟨node, inside, rfl⟩ := List.mem_map.mp listed
    exact reflects.listed node inside
  have copied : copy.function.nodes.map (fun node => Producer.node node.id) =
      (source.function.nodes.map fun node => Producer.node node.id).map (Producer.renumbered image) := by
    rw [reflects.nodes, List.map_map, List.map_map]
    rfl
  obtain ⟨walked, mentioned⟩ := walk_reflected image among source copy reflects [] _ nofun roots
  rw [Function.depthFirst, Function.depthFirst, copied, List.map_reverse]
  exact ⟨congrArg List.reverse walked, fun producer listed =>
    mentioned producer (List.mem_reverse.mp listed)⟩

theorem reflected_pin (edge : Edge) (mentioned : edge.producer.Among among) :
    copy.outputPin (edge.renumbered image) = source.outputPin edge := by
  obtain ⟨producer, slot⟩ := edge
  cases producer with
  | var id => rfl
  | node id =>
      simp only [Edge.renumbered, Producer.renumbered, Scope.outputPin, reflects.lookup id mentioned]
      cases source.function.node? id with
      | none => rfl
      | some node => rfl

theorem reflected_node_arrows (node : Node) (inside : node ∈ source.function.nodes) :
    copy.nodeArrows (node.renumbered image) = (source.nodeArrows node).map (Arrow.renumbered image) := by
  have pin : ∀ edge ∈ node.reads, copy.outputPin (edge.renumbered image) = source.outputPin edge :=
    fun edge reads =>
    reflected_pin image among source copy reflects edge (reflects.closed node inside edge reads)
  have guard : (node.renumbered image).predicate.toList =
      node.predicate.toList.map (Edge.renumbered image) :=
    Option.toList_map
  rw [Scope.nodeArrows, Scope.nodeArrows, List.map_append, renumbered_inputs, guard]
  simp only [List.map_map]
  refine congrArg₂ (· ++ ·) (List.map_congr_left fun edge listed => ?_) (List.map_congr_left
    fun input listed => ?_)
  · have same := pin edge (List.mem_append_right _ listed)
    simp only [Function.comp_apply, Scope.predicateArrow, same]
    rfl
  · have same := pin input.1 (List.mem_append_left _ (List.fst_mem_of_mem_zipIdx listed))
    simp only [Function.comp_apply, Scope.inputArrow, same]
    rfl

theorem reflected_vertex (producer : Producer) (mentioned : producer.Among among) :
    copy.vertex? (producer.renumbered image) =
      (source.vertex? producer).map (Vertex.renumbered image) := by
  cases producer with
  | var id =>
      simp only [Producer.renumbered, Scope.vertex?, reflects.storage, reflects.types, Option.map_map]
      rfl
  | node id =>
      simp only [Producer.renumbered, Scope.vertex?, reflects.lookup id mentioned, reflects.types,
        Option.map_map]
      refine congrArg (Option.map · (source.function.node? id)) (funext fun node => ?_)
      simp only [Function.comp_apply, Node.vertex, Node.renumbered, Vertex.renumbered,
        Producer.renumbered, List.length_map]
      rfl

theorem reflected_arrows (producer : Producer) (mentioned : producer.Among among) :
    copy.arrowsInto (producer.renumbered image) =
      (source.arrowsInto producer).map (Arrow.renumbered image) := by
  cases producer with
  | var id => rfl
  | node id =>
      simp only [Producer.renumbered, Scope.arrowsInto, reflects.lookup id mentioned]
      cases found : source.function.node? id with
      | none => rfl
      | some node =>
          exact reflected_node_arrows image among source copy reflects node
            (found_listed _ id node found)

theorem drawing_reflected : copy.drawing = source.drawing.renumbered image := by
  obtain ⟨same, mentioned⟩ := depth_first_reflected image among source copy reflects
  have vertices : copy.function.depthFirst.filterMap copy.vertex? =
      (source.function.depthFirst.filterMap source.vertex?).map (Vertex.renumbered image) := by
    rw [same, List.filterMap_map, List.map_filterMap]
    exact List.filterMap_congr fun producer listed =>
      reflected_vertex image among source copy reflects producer (mentioned producer listed)
  have arrows : copy.function.depthFirst.flatMap copy.arrowsInto =
      (source.function.depthFirst.flatMap source.arrowsInto).map (Arrow.renumbered image) := by
    rw [same, List.flatMap_map, List.map_flatMap]
    exact List.flatMap_congr fun producer listed =>
      reflected_arrows image among source copy reflects producer (mentioned producer listed)
  rw [Scope.drawing, Scope.drawing, vertices, arrows, Drawing.renumbered]

end Reflection

end TensorGraph
