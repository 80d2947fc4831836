import TensorGraph.Network.Overview
import TensorGraph.Proofs.FunctionDrawings

set_option autoImplicit false

namespace TensorGraph

-- The arrow that an overview has for a variable that a function uses.
def Arrow.ofUse (v : VariableId) (function : FunctionId) (isTwoWay : Bool) : Arrow :=
  ⟨.var v, Variable.outputName, .box function, isTwoWay⟩

-- A node of the function reads the variable as operand `i`, and the operator overwrites it there or does
-- not.
def Function.Takes (function : Function) (v : VariableId) (overwritten : Bool) : Prop :=
  ∃ node ∈ function.nodes, ∃ i slot, node.inputs[i]? = some ⟨.var v, slot⟩ ∧
    node.operator.overwrites i = overwritten

theorem use_plain (v : VariableId) (function : FunctionId) (isTwoWay : Bool) :
    (Arrow.ofUse v function isTwoWay).IsPlain :=
  ⟨variable_pin_plain, nofun⟩

theorem use_text_injective (v w : VariableId) (f g : FunctionId) (one two : Bool)
    (same : (Arrow.ofUse v f one).text = (Arrow.ofUse w g two).text) : v = w ∧ f = g ∧ one = two := by
  have arrows := arrow_text_injective _ _ (use_plain v f one) (use_plain w g two) same
  simp only [Arrow.ofUse, Arrow.mk.injEq, Producer.var.injEq, ArrowHead.box.injEq] at arrows
  exact ⟨arrows.1, arrows.2.2⟩

section Network

variable (network : Network) (kept : network.Represented)

include kept

theorem usage_arrow_iff (function : FunctionId) (node : Node) (i : Nat) (edge : Edge) (arrow : Arrow) :
    network.usageArrow? function node i edge = some arrow ↔
      ∃ v ∈ network.storage, edge.producer = .var v.id ∧
        arrow = .ofUse v.id function (node.operator.overwrites i) := by
  obtain ⟨producer, slot⟩ := edge
  cases producer with
  | node id => simp [Network.usageArrow?]
  | var id =>
      simp only [Network.usageArrow?, Option.map_eq_some_iff, variable_iff _ _ _ kept.storage]
      constructor
      · rintro ⟨v, ⟨stored, rfl⟩, rfl⟩
        exact ⟨v, stored, rfl, rfl⟩
      · rintro ⟨v, stored, same, rfl⟩
        cases same
        exact ⟨v, ⟨stored, rfl⟩, rfl⟩

theorem overview_arrow_iff (arrow : Arrow) : arrow ∈ network.drawing.arrows ↔
    ∃ v ∈ network.storage, ∃ function ∈ network.functions, ∃ overwritten,
    function.Takes v.id overwritten ∧
      arrow = .ofUse v.id function.id overwritten := by
  simp only [Network.drawing, Network.usageArrows, List.mem_flatMap, List.mem_filterMap,
    usage_arrow_iff network kept, List.mem_zipIdx_iff_getElem?]
  constructor
  · rintro ⟨function, member, node, inside, ⟨⟨producer, slot⟩, i⟩, access, v, stored, reads, rfl⟩
    obtain rfl : producer = .var v.id := reads
    exact ⟨v, stored, function, member, _, ⟨node, inside, i, slot, access, rfl⟩, rfl⟩
  · rintro ⟨v, stored, function, member, _, ⟨node, inside, i, slot, access, rfl⟩, rfl⟩
    exact ⟨function, member, node, inside, ⟨_, i⟩, access, v, stored, rfl, rfl⟩

theorem overview_line_iff (line : String) : line ∈ network.drawing.arrowLines ↔
    ∃ v ∈ network.storage, ∃ function ∈ network.functions, ∃ overwritten,
    function.Takes v.id overwritten ∧
      line = (Arrow.ofUse v.id function.id overwritten).text := by
  rw [Drawing.arrowLines, kept_item_iff, List.mem_map]
  simp only [overview_arrow_iff network kept]
  constructor
  · rintro ⟨_, ⟨v, stored, function, member, overwritten, takes, rfl⟩, rfl⟩
    exact ⟨v, stored, function, member, overwritten, takes, rfl⟩
  · rintro ⟨v, stored, function, member, overwritten, takes, rfl⟩
    exact ⟨_, ⟨v, stored, function, member, overwritten, takes, rfl⟩, rfl⟩

theorem overview_arrows_plain : ∀ arrow ∈ network.drawing.arrows, arrow.IsPlain := by
  intro arrow drawn
  obtain ⟨v, _, function, _, overwritten, _, rfl⟩ := (overview_arrow_iff network kept arrow).mp drawn
  exact use_plain v.id function.id overwritten

theorem use_line_iff (v : Variable) (stored : v ∈ network.storage) (function : Function)
    (member : function ∈ network.functions)
    (overwritten : Bool) : (Arrow.ofUse v.id function.id overwritten).text ∈ network.drawing.arrowLines ↔
      function.Takes v.id overwritten := by
  rw [overview_line_iff network kept]
  constructor
  · rintro ⟨w, _, other, there, both, takes, same⟩
    obtain ⟨ids, functions, ways⟩ := use_text_injective _ _ _ _ _ _ same
    obtain rfl : function = other :=
      List.inj_on_of_nodup_map (function_ids_apart _ _ _ kept.functions) member there functions
    rwa [ids, ways]
  · exact fun takes => ⟨v, stored, function, member, overwritten, takes, rfl⟩

theorem overview_names_distinct : (network.drawing.vertices.map Vertex.name).Nodup := by
  have recordsApart := List.Nodup.map (f := fun id => vertexName (.var id))
    (fun a b same => Producer.var.inj (vertex_name_injective _ _ same))
      (variable_ids_apart _ _ _ kept.storage)
  have boxesApart :=
    List.Nodup.map (fun a b => box_name_injective a b) (function_ids_apart _ _ _ kept.functions)
  rw [List.map_map] at recordsApart boxesApart
  simp only [Network.drawing, Variables.map_values, List.map_append, List.map_map]
  refine List.nodup_append.mpr ⟨recordsApart, boxesApart, ?_⟩
  intro a first b second
  obtain ⟨v, _, rfl⟩ := List.mem_map.mp first
  obtain ⟨function, _, rfl⟩ := List.mem_map.mp second
  exact (box_unlike_vertex function.id (.var v.id)).symm

end Network

-- A line of an overview stands for the operands of one function that are one variable. Guards have no
-- line. What the text is read as is a statement for each vertex and one for each line.
theorem overviews_show_operands (settings : Settings) (actions : List Action) :
    let network := Network.run settings .empty actions
    let lines := network.drawing.arrowLines
    network.drawing.vertices = network.storage.values.map (fun v => v.vertex network.types) ++
      network.functions.map Function.box ∧
      (network.drawing.vertices.map Vertex.name).Nodup ∧ lines.Nodup ∧
      (∀ line ∈ lines, ∃ v ∈ network.storage, ∃ function ∈ network.functions, ∃ isTwoWay,
        line = (Arrow.ofUse v.id function.id isTwoWay).text) ∧
      (∀ v ∈ network.storage, ∀ function ∈ network.functions,
        ((∃ isTwoWay, (Arrow.ofUse v.id function.id isTwoWay).text ∈ lines) ↔
          ∃ node ∈ function.nodes, ∃ edge ∈ node.inputs, edge.producer = .var v.id) ∧
        ((Arrow.ofUse v.id function.id true).text ∈ lines ↔ function.Takes v.id true)) ∧
      lines = (withoutRepeats network.drawing.arrows).map Arrow.text ∧
      readDrawing? network.drawing.text = some
        (network.drawing.vertices.map Vertex.statement ++
          (withoutRepeats network.drawing.arrows).map Arrow.statement) := by
  intro network lines
  have kept : network.Represented := run_represented settings .empty actions empty_represented
  have plain := overview_arrows_plain network kept
  refine ⟨rfl, overview_names_distinct network kept, kept_items_distinct _, ?_, ?_,
    lines_of_arrows _ plain, drawing_read _ (overview_vertex_plain network) plain⟩
  · intro line drawn
    obtain ⟨v, stored, function, member, both, _, same⟩ := (overview_line_iff network kept line).mp drawn
    exact ⟨v, stored, function, member, both, same⟩
  · intro v stored function member
    refine ⟨?_, use_line_iff network kept v stored function member true⟩
    simp only [lines, use_line_iff network kept v stored function member]
    constructor
    · rintro ⟨_, node, inside, i, slot, access, _⟩
      exact ⟨node, inside, _, List.mem_of_getElem? access, rfl⟩
    · rintro ⟨node, inside, ⟨producer, slot⟩, reads, rfl⟩
      obtain ⟨i, access⟩ := List.mem_iff_getElem?.mp reads
      exact ⟨_, node, inside, i, slot, access, rfl⟩

-- The only node runs when `go` says so, but the overview has no arrow from `go`.
theorem guards_have_no_line :
    let network := Network.run {} .empty [.createFunction "f",
      .createVariable ⟨.plain .float [2], "x", .external, .none⟩,
      .createVariable ⟨.plain .float [1], "go", .external, .none⟩,
      .edit ⟨0⟩ (.addLayer "r" (.activation .relu (.ofVariable ⟨0⟩))),
      .edit ⟨0⟩ (.setPredicate ⟨0⟩ (some (.ofVariable ⟨1⟩)))]
    (network.verify {}).1 = .ok () ∧ ∃ v ∈ network.storage, ∃ function ∈ network.functions,
    function.Uses v.id ∧
      ∀ isTwoWay, (Arrow.ofUse v.id function.id isTwoWay).text ∉ network.drawing.arrowLines := by
  intro network
  exact ⟨by decide +kernel, by decide +kernel⟩

end TensorGraph
