import TensorGraph.Proofs.Cloning
import TensorGraph.Proofs.DrawingTexts
import TensorGraph.Proofs.Walks

set_option autoImplicit false

namespace TensorGraph

-- One place where a node reads: an operand by its number, or the predicate, which has none.
structure Reading where
  node : Node
  operand : Option Nat
  edge : Edge

def Node.readings (node : Node) : List Reading :=
  (node.predicate.toList.map fun edge => ⟨node, none, edge⟩) ++ node.inputs.zipIdx.map fun input =>
    ⟨node, some input.2, input.1⟩

def Function.readings (function : Function) : List Reading := function.nodes.flatMap Node.readings

def Function.Uses (function : Function) (id : VariableId) : Prop :=
  ∃ node ∈ function.nodes, ∃ edge ∈ node.reads, edge.producer = .var id

instance (function : Function) (id : VariableId) : Decidable (function.Uses id) :=
  inferInstanceAs (Decidable (∃ node ∈ function.nodes, ∃ edge ∈ node.reads, edge.producer = .var id))

namespace Drawing

-- The arrow leaves the pin of the slot that is read and ends at the pin of the operand, or at the
-- western side.
structure Shows (drawing : Drawing) (reading : Reading) (arrow : Arrow) : Prop where
  tail : arrow.tail = reading.edge.producer
  source : ∃ inputs text outputs style, .record reading.edge.producer inputs text outputs style ∈
    drawing.vertices ∧
    outputs[reading.edge.slot]? = some arrow.pin
  target : ∃ inputs text outputs style, .record (.node reading.node.id) inputs text outputs style ∈
    drawing.vertices ∧
    match reading.operand with
    | some i => ∃ pin, inputs[i]? = some pin ∧ arrow.head = .pin (.node reading.node.id) pin
    | none => arrow.head = .west (.node reading.node.id)
  isTwoWay : arrow.isTwoWay = reading.operand.any reading.node.operator.overwrites

end Drawing

def Scope.readingArrow (scope : Scope) (reading : Reading) : Arrow :=
  match reading.operand with
  | some i => scope.inputArrow reading.node i reading.edge
  | none => scope.predicateArrow reading.node reading.edge

theorem node_arrows_listed (scope : Scope) (node : Node) :
    scope.nodeArrows node = node.readings.map scope.readingArrow := by
  simp [Scope.nodeArrows, Node.readings, Scope.readingArrow, Function.comp_def]

theorem reading_iff (node : Node) (reading : Reading) : reading ∈ node.readings ↔ reading.node = node ∧
    match reading.operand with
    | some i => node.inputs[i]? = some reading.edge
    | none => node.predicate = some reading.edge := by
  obtain ⟨reader, operand, edge⟩ := reading
  cases operand with
  | some i => simp [Node.readings, List.mem_zipIdx_iff_getElem?, eq_comm, and_comm]
  | none => simp [Node.readings, eq_comm, and_comm]

theorem reading_of_node (function : Function) (reading : Reading)
    (listed : reading ∈ function.readings) :
    reading.node ∈ function.nodes ∧ reading ∈ reading.node.readings ∧
      reading.edge ∈ reading.node.reads := by
  obtain ⟨node, inside, member⟩ := List.mem_flatMap.mp listed
  obtain ⟨rfl, held⟩ := (reading_iff node reading).mp member
  refine ⟨inside, member, ?_⟩
  cases place : reading.operand with
  | some i =>
      rw [place] at held
      exact List.mem_append_left _ (List.mem_of_getElem? held)
  | none =>
      rw [place] at held
      exact List.mem_append_right _ (by simp [held])

-- A node and the number of an operand occur once, and so does its predicate.
theorem readings_apart (function : Function) (indexed : function.Indexed) :
    function.readings.Pairwise fun a b => ¬ (a.node.id = b.node.id ∧ a.operand = b.operand) := by
  refine List.pairwise_flatMap.mpr ⟨fun node _ => ?_, ?_⟩
  · have numbers : (node.inputs.zipIdx.map fun input => some input.2).Nodup := by
      rw [show (fun input : Edge × Nat => some input.2) = some ∘ Prod.snd from rfl, ← List.map_map,
        List.zipIdx_map_snd]
      exact List.Nodup.map (fun _ _ same => Option.some.inj same) List.nodup_range'
    have places : (node.readings.map Reading.operand).Nodup := by
      simp only [Node.readings, List.map_append, List.map_map, Function.comp_def]
      cases node.predicate with
      | none => exact numbers
      | some edge => exact List.nodup_cons.mpr ⟨by simp, numbers⟩
    exact (List.pairwise_map.mp places).imp fun different same => different same.2
  · refine (List.pairwise_map.mp (node_ids_apart function indexed)).imp ?_
    intro a b different first fromA second fromB same
    rw [((reading_iff a first).mp fromA).1, ((reading_iff b second).mp fromB).1] at same
    exact different same.1

theorem reading_arrow_plain (scope : Scope) (reading : Reading) :
    (scope.readingArrow reading).IsPlain := by
  have leaves : PlainPin (scope.outputPin reading.edge) := by
    unfold Scope.outputPin
    split
    · exact variable_pin_plain
    · split
      · exact output_name_plain _ _
      · exact numbered_pin_plain "Result" 'R' "esult".toList (by decide) (by decide) (by decide) _
  obtain ⟨node, operand, edge⟩ := reading
  cases operand with
  | none => exact ⟨leaves, nofun⟩
  | some i =>
      refine ⟨leaves, fun producer input ends => ?_⟩
      cases ends
      exact input_name_plain _ i

section Accepted

variable (scope : Scope) (limit : Nat) (kept : VariablesKept scope.storage scope.types limit)
  (indexed : scope.function.Indexed) (formed : scope.WellFormed)

def Scope.usedVariables (scope : Scope) : List Variable :=
  scope.storage.values.filter fun v => scope.function.Uses v.id

def Scope.drawn (scope : Scope) : List Producer :=
  scope.usedVariables.map (fun v => .var v.id) ++ scope.function.nodes.map fun node => .node node.id

include kept indexed

theorem drawn_distinct : scope.drawn.Nodup := by
  have used : (scope.usedVariables.map Variable.id).Nodup :=
    (variable_ids_apart _ _ _ kept).sublist (List.filter_sublist.map Variable.id)
  have distinct := producers_of_ids_apart _ _ used (node_ids_apart _ indexed)
  simpa only [Scope.drawn, List.map_map, Function.comp_def] using distinct

include formed

-- The walk meets what is drawn and nothing else, once each. A variable that is read is live.
theorem walk_covers : scope.function.depthFirst.Perm scope.drawn := by
  refine (List.perm_ext_iff_of_nodup (depth_first_distinct _ indexed)
    (drawn_distinct scope limit kept indexed)).mpr ?_
  intro producer
  rw [depth_first_iff _ indexed, Scope.drawn, List.mem_append]
  cases producer with
  | var id =>
      constructor
      · rintro ⟨node, inside, ⟨producer, slot⟩, reads, rfl⟩
        obtain ⟨_, v, stored, rfl⟩ := formed.edges node inside _ reads
        refine .inl (List.mem_map.mpr ⟨v, List.mem_filter.mpr ⟨stored, ?_⟩, rfl⟩)
        exact decide_eq_true ⟨node, inside, _, reads, rfl⟩
      · rintro (used | listed)
        · obtain ⟨v, member, same⟩ := List.mem_map.mp used
          cases same
          have uses : scope.function.Uses v.id := of_decide_eq_true (List.mem_filter.mp member).2
          exact uses
        · simp at listed
  | node id => simp [Function.Involves]

theorem drawn_vertices : scope.drawing.vertices.Perm
    (scope.usedVariables.map (fun v => v.vertex scope.types) ++ scope.function.nodes.map
      fun node => node.vertex scope.types) := by
  have ofVariables : (scope.usedVariables.map fun v => Producer.var v.id).filterMap scope.vertex? =
      scope.usedVariables.map fun v => v.vertex scope.types := by
    rw [List.filterMap_map, ← List.filterMap_eq_map]
    refine List.filterMap_congr fun v used => ?_
    simp [Scope.vertex?, kept.found v (List.mem_filter.mp used).1]
  have ofNodes : (scope.function.nodes.map fun node => Producer.node node.id).filterMap scope.vertex? =
      scope.function.nodes.map fun node => node.vertex scope.types := by
    rw [List.filterMap_map, ← List.filterMap_eq_map]
    refine List.filterMap_congr fun node inside => ?_
    simp [Scope.vertex?, (node_iff _ indexed node.id node).mpr ⟨inside, rfl⟩]
  rw [← ofVariables, ← ofNodes, ← List.filterMap_append]
  exact (walk_covers scope limit kept indexed formed).filterMap scope.vertex?

theorem drawn_names_distinct : (scope.drawing.vertices.map Vertex.name).Nodup := by
  refine ((drawn_vertices scope limit kept indexed formed).map Vertex.name).nodup_iff.mpr ?_
  have named := List.Nodup.map (fun a b => vertex_name_injective a b)
    (drawn_distinct scope limit kept indexed)
  simpa [Scope.drawn, Variable.vertex, Node.vertex, Vertex.name, Function.comp_def] using named

theorem drawn_arrows : scope.drawing.arrows.Perm (scope.function.readings.map scope.readingArrow) := by
  have ofVariables :
      (scope.usedVariables.map fun v => Producer.var v.id).flatMap scope.arrowsInto = [] := by
    simp [List.flatMap_map, Scope.arrowsInto]
  have ofNodes : (scope.function.nodes.map fun node => Producer.node node.id).flatMap scope.arrowsInto =
      scope.function.readings.map scope.readingArrow := by
    rw [List.flatMap_map, Function.readings, List.map_flatMap]
    refine List.flatMap_congr fun node inside => ?_
    simp [Scope.arrowsInto, (node_iff _ indexed node.id node).mpr ⟨inside, rfl⟩, node_arrows_listed]
  have covered := (walk_covers scope limit kept indexed formed).flatMap_right scope.arrowsInto
  rwa [Scope.drawn, List.flatMap_append, ofVariables, ofNodes, List.nil_append] at covered

theorem node_drawn (node : Node) (inside : node ∈ scope.function.nodes) :
    node.vertex scope.types ∈ scope.drawing.vertices := by
  refine (drawn_vertices scope limit kept indexed formed).mem_iff.mpr (List.mem_append_right _ ?_)
  exact List.mem_map_of_mem inside

theorem variable_drawn (v : Variable) (stored : v ∈ scope.storage) (used : scope.function.Uses v.id) :
    v.vertex scope.types ∈ scope.drawing.vertices := by
  refine (drawn_vertices scope limit kept indexed formed).mem_iff.mpr (List.mem_append_left _ ?_)
  exact List.mem_map_of_mem (List.mem_filter.mpr ⟨stored, decide_eq_true used⟩)

theorem reading_shown (reading : Reading) (listed : reading ∈ scope.function.readings) :
    scope.drawing.Shows reading (scope.readingArrow reading) := by
  obtain ⟨inside, member, reads⟩ := reading_of_node scope.function reading listed
  obtain ⟨_, held⟩ := (reading_iff _ reading).mp member
  have leads := formed.edges reading.node inside reading.edge reads
  have target := node_drawn scope limit kept indexed formed reading.node inside
  have source : ∃ inputs text outputs style,
      .record reading.edge.producer inputs text outputs style ∈ scope.drawing.vertices ∧
        outputs[reading.edge.slot]? = some (scope.outputPin reading.edge) := by
    obtain ⟨node, operand, producer, slot⟩ := reading
    cases producer with
    | var id =>
        obtain ⟨first, v, stored, rfl⟩ := leads
        obtain rfl : slot = 0 := first
        exact ⟨_, _, _, _, variable_drawn scope limit kept indexed formed v stored ⟨node, inside, _,
          reads, rfl⟩, rfl⟩
    | node id =>
        obtain ⟨origin, there, rfl, below⟩ := leads
        refine ⟨_, _, _, _, node_drawn scope limit kept indexed formed origin there, ?_⟩
        simp only [Scope.outputPin, (node_iff _ indexed origin.id origin).mpr ⟨there, rfl⟩]
        simp [show slot < origin.results.length from below]
  obtain ⟨node, operand, edge⟩ := reading
  cases operand with
  | none => exact ⟨rfl, source, ⟨_, _, _, _, target, rfl⟩, rfl⟩
  | some i =>
      obtain ⟨below, _⟩ := List.getElem?_eq_some_iff.mp held
      exact ⟨rfl, source, ⟨_, _, _, _, target, _, by simp [below], rfl⟩, rfl⟩

omit kept in
-- Where an arrow ends tells the node and the place that it is drawn for.
theorem reading_arrows_distinct : (scope.function.readings.map scope.readingArrow).Nodup := by
  refine List.pairwise_map.mpr ((readings_apart scope.function indexed).imp_of_mem ?_)
  intro a b listedA listedB different same
  obtain ⟨insideA, memberA, _⟩ := reading_of_node scope.function a listedA
  obtain ⟨insideB, memberB, _⟩ := reading_of_node scope.function b listedB
  obtain ⟨_, heldA⟩ := (reading_iff _ a).mp memberA
  obtain ⟨_, heldB⟩ := (reading_iff _ b).mp memberB
  have ends := congrArg Arrow.head same
  obtain ⟨node, operand, edge⟩ := a
  obtain ⟨other, place, read⟩ := b
  cases operand with
  | none =>
      cases place with
      | none => exact different ⟨Producer.node.inj (ArrowHead.west.inj ends), rfl⟩
      | some j => cases ends
  | some i =>
      cases place with
      | none => cases ends
      | some j =>
          obtain ⟨producers, pins⟩ := ArrowHead.pin.inj ends
          have ids : node.id = other.id := Producer.node.inj producers
          have found := (node_iff _ indexed node.id node).mpr ⟨insideA, rfl⟩
          obtain rfl : node = other :=
            Option.some.inj (found.symm.trans
              ((node_iff _ indexed node.id other).mpr ⟨insideB, ids.symm⟩))
          obtain ⟨belowI, _⟩ := List.getElem?_eq_some_iff.mp heldA
          obtain ⟨belowJ, _⟩ := List.getElem?_eq_some_iff.mp heldB
          have fits := (formed.nodes node insideA).inputs
          exact different ⟨rfl,
            congrArg some (input_name_injective node.operator _ fits i j belowI belowJ pins)⟩

theorem drawn_arrows_plain : ∀ arrow ∈ scope.drawing.arrows, arrow.IsPlain := by
  intro arrow drawn
  have arranged := drawn_arrows scope limit kept indexed formed
  obtain ⟨reading, _, rfl⟩ := List.mem_map.mp (arranged.mem_iff.mp drawn)
  exact reading_arrow_plain scope reading

theorem drawn_arrows_distinct : scope.drawing.arrows.Nodup :=
  (drawn_arrows scope limit kept indexed formed).nodup_iff.mpr
    (reading_arrows_distinct scope indexed formed)

theorem drawn_lines_distinct : (scope.drawing.arrows.map Arrow.text).Nodup := by
  have plain := drawn_arrows_plain scope limit kept indexed formed
  have distinct := drawn_arrows_distinct scope limit kept indexed formed
  exact distinct.map_on fun a drawnA b drawnB same =>
    arrow_text_injective a b (plain a drawnA) (plain b drawnB) same

theorem drawn_text_read : readDrawing? scope.drawing.text =
    some (scope.drawing.vertices.map Vertex.statement ++ scope.drawing.arrows.map Arrow.statement) := by
  have distinct := drawn_arrows_distinct scope limit kept indexed formed
  rw [drawing_read scope.drawing (drawn_vertex_plain scope)
    (drawn_arrows_plain scope limit kept indexed formed),
    distinct_items_kept _ distinct]

theorem drawn_pins_distinct (vertex : Vertex) (listed : vertex ∈ scope.drawing.vertices) :
    vertex.pins.Nodup := by
  have drawn := (drawn_vertices scope limit kept indexed formed).mem_iff.mp listed
  rcases List.mem_append.mp drawn with used | inside
  · obtain ⟨v, _, rfl⟩ := List.mem_map.mp used
    simp [Variable.vertex, Vertex.pins]
  · obtain ⟨node, there, rfl⟩ := List.mem_map.mp inside
    have fits := formed.nodes node there
    have distinct := pins_distinct node.operator node.inputs.length fits.inputs
    rwa [← fits.results] at distinct

end Accepted

-- The vertices are the nodes and the variables they read, and the arrows are their readings. The text of
-- the drawing has one statement for each of them, with the ports of a vertex as they stand in its label,
-- and no other.
theorem accepted_function_is_drawn_faithfully (settings : Settings) (actions : List Action)
    (id : FunctionId)
    (accepted : ((Network.run settings .empty actions).verifyFunction settings id).1 = .ok ()) :
    let network := Network.run settings .empty actions
    ∃ function, network.function? id = some function ∧
      let drawing := (network.scopeOf function).drawing
      drawing.vertices.Perm (((network.storage.values.filter fun v => function.Uses v.id).map
        fun v => v.vertex network.types) ++
        function.nodes.map fun node => node.vertex network.types) ∧
      (drawing.vertices.map Vertex.name).Nodup ∧ (∀ vertex ∈ drawing.vertices, vertex.pins.Nodup) ∧
      (∃ arrows, arrows.Perm drawing.arrows ∧ List.Forall₂ drawing.Shows function.readings arrows) ∧
      (drawing.arrows.map Arrow.text).Nodup ∧ drawing.arrowLines = drawing.arrows.map Arrow.text ∧
      readDrawing? drawing.text = some (drawing.vertices.map Vertex.statement ++
        drawing.arrows.map Arrow.statement) := by
  intro network
  have kept : network.Represented := run_represented settings .empty actions empty_represented
  have verified : ∃ function, network.function? id = some function ∧
      (network.scopeOf function).verify = .ok () := by
    unfold Network.verifyFunction at accepted
    cases found : network.function? id with
    | none => simp [network, found] at accepted
    | some function =>
        simp only [show (Network.run settings .empty actions).function? id = some function
          from found] at accepted
        exact ⟨function, rfl, (verify_one_iff settings network function).mp accepted⟩
  obtain ⟨function, found, passed⟩ := verified
  have indexed := kept.functions.indexed function (List.mem_of_getElem? found)
  let scope := network.scopeOf function
  have formed : scope.WellFormed :=
    (verify_scope_iff scope network.nextVariable kept.storage indexed).mp passed
  have lines := drawn_lines_distinct scope network.nextVariable kept.storage indexed formed
  refine ⟨function, found, drawn_vertices scope network.nextVariable kept.storage indexed formed,
    drawn_names_distinct scope network.nextVariable kept.storage indexed formed,
    drawn_pins_distinct scope network.nextVariable kept.storage indexed formed,
    ⟨_, (drawn_arrows scope network.nextVariable kept.storage indexed formed).symm, ?_⟩, lines,
    distinct_items_kept _ lines,
    drawn_text_read scope network.nextVariable kept.storage indexed formed⟩
  refine List.forall₂_map_right_iff.mpr (List.forall₂_same.mpr fun reading listed => ?_)
  exact reading_shown scope network.nextVariable kept.storage indexed formed reading listed

-- The sum reads `x` twice under a guard. The drawing has all three arrows, and two for the node that
-- saves the sum. With the two nodes and the three variables that they read, its text has ten statements.
theorem doubled_reads_are_drawn :
    let network := Network.run {} .empty [.createFunction "f",
      .createVariable ⟨.plain .float [2], "x", .external, .none⟩,
      .createVariable ⟨.plain .float [1], "go", .external, .none⟩,
      .edit ⟨0⟩ (.addLayer "a" (.arithmetic .add (.ofVariable ⟨0⟩) (.ofVariable ⟨0⟩))),
      .edit ⟨0⟩ (.setPredicate ⟨0⟩ (some (.ofVariable ⟨1⟩))),
      .edit ⟨0⟩ (.addLayer "y" (.save (.ofNode ⟨0⟩)))]
    (network.verifyFunction {} ⟨0⟩).1 = .ok () ∧ ∃ function, network.function? ⟨0⟩ = some function ∧
      function.readings.length = 5 ∧ (network.scopeOf function).drawing.arrowLines.length = 5 ∧
      (readDrawing? (network.scopeOf function).drawing.text).map List.length = some 10 := by
  intro network
  have accepted : (network.verifyFunction {} ⟨0⟩).1 = .ok () := by decide +kernel
  obtain ⟨function, found, _, _, _, ⟨arrows, arranged, shown⟩, _, unfiltered, read⟩ :=
    accepted_function_is_drawn_faithfully {} _ ⟨0⟩ accepted
  have counted : (network.function? ⟨0⟩).map (fun function => (function.readings.length,
      (network.scopeOf function).drawing.vertices.length)) = some (5, 5) := by
    decide +kernel
  rw [show network.function? ⟨0⟩ = some function from found, Option.map_some] at counted
  obtain ⟨readings, vertices⟩ := Prod.mk.inj (Option.some.inj counted)
  have arrowCount : (network.scopeOf function).drawing.arrows.length = 5 := by
    rw [← arranged.length_eq, ← shown.length_eq, readings]
  refine ⟨accepted, function, found, readings, ?_, ?_⟩
  · rw [unfiltered, List.length_map, arrowCount]
  · rw [read, Option.map_some, List.length_append, List.length_map, List.length_map, vertices,
      arrowCount]

end TensorGraph
