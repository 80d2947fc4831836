import TensorGraph.Export.Listing
import TensorGraph.Proofs.CopyVerification
import TensorGraph.Proofs.FunctionDrawings
import TensorGraph.Proofs.RenumberedDrawings

set_option autoImplicit false

namespace TensorGraph

def ListedEdge.renumbered (image : NodeId → NodeId) (listed : ListedEdge) : ListedEdge :=
  { listed with edge := listed.edge.renumbered image }

def ListedNode.renumbered (image : NodeId → NodeId) (listed : ListedNode) : ListedNode :=
  { listed with
    id := image listed.id
    inputs := listed.inputs.map (ListedEdge.renumbered image)
    predicate := listed.predicate.map (ListedEdge.renumbered image) }

def ArrowHead.Among (among : NodeId → Prop) : ArrowHead → Prop
  | .pin producer _ => producer.Among among
  | .west producer => producer.Among among
  | .box _ => True

-- The text of a function of the given name, one line for each node.
def listingText (name : String) (nodes : List ListedNode) : String :=
  listingLine 0 ("function " ++ name ++ " \x7b") ++
    String.join (nodes.map fun listed => listingLine 1 listed.text) ++
    listingLine 0 "\x7d"

-- The text of a drawing in which no arrow is left out.
def Drawing.fullText (drawing : Drawing) : String :=
  "digraph DAG \x7b\n\trankdir=TB;\n" ++
    String.join (drawing.vertices.map fun vertex => vertex.text ++ "\n") ++
    String.join (drawing.arrows.map fun arrow => arrow.text ++ ";\n") ++ "\x7d"

-- The drawing with the first of several equal arrows only.
def Drawing.distinct (drawing : Drawing) : Drawing :=
  { drawing with arrows := withoutRepeats drawing.arrows }

theorem drawn_arrow_read (scope : Scope) (arrow : Arrow) (drawn : arrow ∈ scope.drawing.arrows) :
    ∃ reading ∈ scope.function.readings, scope.readingArrow reading = arrow := by
  obtain ⟨producer, _, enters⟩ := List.mem_flatMap.mp drawn
  cases producer with
  | var id => cases enters
  | node id =>
      simp only [Scope.arrowsInto] at enters
      cases found : scope.function.node? id with
      | none =>
          rw [found] at enters
          cases enters
      | some node =>
          simp only [found, node_arrows_listed] at enters
          obtain ⟨reading, listed, same⟩ := List.mem_map.mp enters
          exact ⟨reading, List.mem_flatMap.mpr ⟨node, found_listed _ id node found, listed⟩, same⟩

-- Lines that repeat are those of equal arrows.
theorem drawing_text_distinct (scope : Scope) :
    scope.drawing.text = scope.drawing.distinct.fullText := by
  have plain : ∀ arrow ∈ scope.drawing.arrows, arrow.IsPlain := by
    intro arrow drawn
    obtain ⟨reading, _, rfl⟩ := drawn_arrow_read scope arrow drawn
    exact reading_arrow_plain scope reading
  unfold Drawing.text Drawing.fullText
  rw [lines_of_arrows scope.drawing plain]
  simp only [Drawing.distinct, List.map_map, Function.comp_def]

section Reflection

variable (image : NodeId → NodeId) (among : NodeId → Prop) (source copy : Scope)
  (reflects : source.Reflects image among copy)

include reflects

theorem reflected_listed_edge (edge : Edge) :
    copy.listedEdge (edge.renumbered image) = (source.listedEdge edge).renumbered image := by
  obtain ⟨producer, slot⟩ := edge
  cases producer with
  | var id =>
      simp only [Edge.renumbered, Producer.renumbered, Scope.listedEdge, reflects.storage]
      cases source.storage.get? id with
      | none => rfl
      | some v => rfl
  | node id => rfl

theorem listing_reflected : copy.listing = source.listing.map (ListedNode.renumbered image) := by
  rw [Scope.listing, Scope.listing, reflects.nodes, List.map_map, List.map_map]
  refine List.map_congr_left fun node _ => ?_
  have edges := funext (reflected_listed_edge image among source copy reflects)
  simp only [Function.comp_apply, Scope.listedNode, Node.renumbered,
    ListedNode.renumbered, reflects.types, List.map_map,
    Option.map_map, Function.comp_def, edges]

theorem reflected_heads_apart (a b : ArrowHead) (mentionedA : a.Among among) (mentionedB : b.Among among)
    (same : a.renumbered image = b.renumbered image) : a = b := by
  have apart := reflected_apart image among source copy reflects
  cases a with
  | pin producer input =>
      cases b with
      | pin other output =>
          obtain ⟨producers, inputs⟩ := ArrowHead.pin.inj same
          rw [apart producer other mentionedA mentionedB producers, inputs]
      | west other => cases same
      | box function => cases same
  | west producer =>
      cases b with
      | pin other output => cases same
      | west other => exact congrArg ArrowHead.west (apart producer other mentionedA mentionedB
          (ArrowHead.west.inj same))
      | box function => cases same
  | box function =>
      cases b with
      | pin other output => cases same
      | west other => cases same
      | box other => exact same

-- An arrow that is drawn mentions no node but the one it ends at and the one it leaves, which are told
-- apart in the copy.
theorem drawn_arrow_mentions (arrow : Arrow) (drawn : arrow ∈ source.drawing.arrows) :
    arrow.tail.Among among ∧ arrow.head.Among among := by
  obtain ⟨⟨node, operand, edge⟩, listed, rfl⟩ := drawn_arrow_read source arrow drawn
  obtain ⟨inside, _, reads⟩ := reading_of_node source.function _ listed
  have tail := reflects.closed node inside edge reads
  cases operand with
  | none => exact ⟨tail, reflects.listed node inside⟩
  | some i => exact ⟨tail, reflects.listed node inside⟩

theorem reflected_arrows_apart (a b : Arrow) (drawnA : a ∈ source.drawing.arrows)
    (drawnB : b ∈ source.drawing.arrows) (same : a.renumbered image = b.renumbered image) : a = b := by
  obtain ⟨tailA, headA⟩ := drawn_arrow_mentions image among source copy reflects a drawnA
  obtain ⟨tailB, headB⟩ := drawn_arrow_mentions image among source copy reflects b drawnB
  obtain ⟨tail, pin, head, isTwoWay⟩ := a
  obtain ⟨other, otherPin, otherHead, otherWay⟩ := b
  obtain ⟨tails, rfl, heads, rfl⟩ := Arrow.mk.inj same
  obtain rfl := reflected_apart image among source copy reflects tail other tailA tailB tails
  obtain rfl := reflected_heads_apart image among source copy reflects head otherHead headA headB heads
  rfl

theorem distinct_reflected : copy.drawing.distinct = source.drawing.distinct.renumbered image := by
  have arrows := kept_items_map (Arrow.renumbered image) source.drawing.arrows
    fun a drawnA b drawnB => reflected_arrows_apart image among source copy reflects a b drawnA drawnB
  rw [drawing_reflected image among source copy reflects]
  simp only [Drawing.distinct, Drawing.renumbered, arrows]

end Reflection

-- The walk over a copy, its listing and its drawing are those of its source, told with the numbers of
-- the copies.
theorem clones_are_shown_alike (settings : Settings) (actions : List Action) (source id : FunctionId)
    (name : String) (mapping : NodeMapping) (next : Network)
    (cloned : (Network.run settings .empty actions).cloneFunction source name =
      (.ok (id, mapping), next)) :
    let network := Network.run settings .empty actions
    ∃ original copy, network.function? source = some original ∧ next.function? source = some original ∧
      next.function? id = some copy ∧ next.scopeOf original = network.scopeOf original ∧
      (∀ node, .node node ∈ original.depthFirst → mapping.lookup node = some (mapping.image node)) ∧
      copy.depthFirst = original.depthFirst.map (Producer.renumbered mapping.image) ∧
      let before := next.scopeOf original
      let after := next.scopeOf copy
      before.dump = listingText original.name before.listing ∧
      after.dump = listingText name (before.listing.map (ListedNode.renumbered mapping.image)) ∧
      before.drawing.text = before.drawing.distinct.fullText ∧
      after.drawing.text = (before.drawing.distinct.renumbered mapping.image).fullText := by
  intro network
  have kept : network.Represented := run_represented settings .empty actions empty_represented
  obtain ⟨_, original, copy, found, still, made, named, step, mirrors⟩ :=
    cloned_function_mirrors network kept source id name mapping next cloned
  have reflects := mirrors_reflect mapping.image _ _ mirrors
  obtain ⟨walked, met⟩ := depth_first_reflected mapping.image _ _ _ reflects
  refine ⟨original, copy, found, still, made, ?_, fun id listed => ?_, walked, rfl, ?_,
    drawing_text_distinct _, ?_⟩
  · rw [Network.scopeOf, Network.scopeOf, step.types, step.storage]
  · obtain ⟨node, inside, rfl⟩ := met (.node id) listed
    exact (lookup_iff_entry mapping step.sourcesApart _ _).mpr
      (node_mapped network next original copy mapping step node inside)
  · rw [Scope.dump, listing_reflected mapping.image _ _ _ reflects, ← named]
    rfl
  · rw [drawing_text_distinct, distinct_reflected mapping.image _ _ _ reflects]

-- Two nodes that read each other, the second one under a guard: 2 and 3 stand for 0 and 1.
theorem rewired_copy_is_shown_alike :
    let network := Network.run {} .empty [.createFunction "f",
      .createVariable ⟨.plain .float [2], "x", .external, .none⟩,
      .createVariable ⟨.plain .float [1], "go", .external, .none⟩,
      .edit ⟨0⟩ (.addLayer "a" (.activation .relu (.ofVariable ⟨0⟩))),
      .edit ⟨0⟩ (.addLayer "b" (.arithmetic .add (.ofNode ⟨0⟩) (.ofVariable ⟨0⟩))),
      .edit ⟨0⟩ (.setInput ⟨0⟩ 0 (.ofNode ⟨1⟩)), .edit ⟨0⟩ (.setPredicate ⟨1⟩ (some (.ofVariable ⟨1⟩)))]
    let mapping : NodeMapping := [(⟨0⟩, ⟨2⟩), (⟨1⟩, ⟨3⟩)]
    let next := (network.cloneFunction ⟨0⟩ "g").2
    network.cloneFunction ⟨0⟩ "g" = (.ok (⟨1⟩, mapping), next) ∧ ∃ original copy,
      next.function? ⟨0⟩ = some original ∧ next.function? ⟨1⟩ = some copy ∧
      original.depthFirst = [.node ⟨0⟩, .node ⟨1⟩, .var ⟨1⟩, .var ⟨0⟩] ∧
      copy.depthFirst = [.node ⟨2⟩, .node ⟨3⟩, .var ⟨1⟩, .var ⟨0⟩] ∧
      (next.scopeOf copy).dump =
        listingText "g" ((next.scopeOf original).listing.map (ListedNode.renumbered mapping.image)) ∧
      (next.scopeOf copy).drawing.text =
        ((next.scopeOf original).drawing.distinct.renumbered mapping.image).fullText := by
  intro network mapping next
  have cloned : network.cloneFunction ⟨0⟩ "g" = (.ok (⟨1⟩, mapping), next) :=
    Prod.ext (by decide +kernel) rfl
  obtain ⟨original, copy, _, found, made, _, _, walked, _, dumped, _, drawn⟩ :=
    clones_are_shown_alike {} _ ⟨0⟩ ⟨1⟩ "g" mapping next cloned
  have order : (next.function? ⟨0⟩).map Function.depthFirst =
      some [.node ⟨0⟩, .node ⟨1⟩, .var ⟨1⟩, .var ⟨0⟩] := by decide +kernel
  rw [found] at order
  have met : original.depthFirst = [.node ⟨0⟩, .node ⟨1⟩, .var ⟨1⟩, .var ⟨0⟩] := Option.some.inj order
  rw [met] at walked
  exact ⟨cloned, original, copy, found, made, met, walked, dumped, drawn⟩

end TensorGraph
