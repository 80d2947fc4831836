import TensorGraph.Proofs.Building
import TensorGraph.Proofs.RenumberedDrawings

set_option autoImplicit false

namespace TensorGraph

def Edit.renumbered (image : NodeId → NodeId) : Edit → Edit
  | .addNode label operator inputs results =>
      .addNode label operator (inputs.map (Edge.renumbered image)) results
  | .addLayer label layer => .addLayer label (layer.renumbered image)
  | .erase target => .erase (target.renumbered image)
  | .rename node name => .rename (image node) name
  | .setInput node i edge => .setInput (image node) i (edge.renumbered image)
  | .setPredicate node predicate => .setPredicate (image node) (predicate.map (Edge.renumbered image))

def Action.renumbered (image : NodeId → NodeId) : Action → Action
  | .edit function change => .edit function (change.renumbered image)
  | action => action

def Reply.renumbered (image : NodeId → NodeId) : Reply → Reply
  | .clone id mapping => .clone id (mapping.renumbered image)
  | .node id => .node (image id)
  | .replaced edge => .replaced (edge.map (Edge.renumbered image))
  | reply => reply

-- The answer to one request in two networks that differ in numbers. Those in a file are part of its
-- text.
inductive Follows (image : NodeId → NodeId) :
    Except GraphFault Reply → Except GraphFault Reply → Prop where
  | retold (answer : Except GraphFault Reply) :
      Follows image answer (retold image (Reply.renumbered image) answer)
  | drawn (path : String) (drawing : Drawing) : Follows image (.ok (.file ⟨path, drawing.text⟩))
      (.ok (.file ⟨path, (drawing.renumbered image).text⟩))

-- Networks that differ in the numbers of nodes, those still to be given included, and in what they have
-- reported.
structure Network.Renumbers (image : NodeId → NodeId) (network other : Network) : Prop where
  functions : other.functions = network.functions.map (Function.renumbered image)
  types : other.types = network.types
  storage : other.storage = network.storage
  variableCount : other.nextVariable = network.nextVariable
  suffix : other.nextSuffix = network.nextSuffix
  numbers : ∀ k, image ⟨network.nextNode + k⟩ = ⟨other.nextNode + k⟩

structure Retells {α : Type} (image : NodeId → NodeId) (change : α → α)
    (first second : Outcome α) : Prop where
  answer : second.1 = retold image change first.1
  network : first.2.Renumbers image second.2

section Types

variable (image : NodeId → NodeId) (source copy : Scope)
  (reflects : source.Reflects image (fun _ => True) copy)
  (known : ∀ edge handle, source.handle? edge = some handle →
    ∃ type, source.types.get? handle = some type)

include reflects known

-- Without the hypothesis the fault could quote the edge in a text.
theorem reflected_type_of (edge : Edge) :
    copy.typeOf (edge.renumbered image) =
      (source.typeOf edge).mapError (GraphFault.renumbered image) := by
  rw [Scope.typeOf, Scope.typeOf, reflected_handle image source copy reflects, reflects.types]
  cases resolved : source.handle? edge with
  | none => rfl
  | some handle =>
      obtain ⟨type, found⟩ := known edge handle resolved
      simp only [found]
      rfl

theorem reflected_types_of (edges : List Edge) : copy.typesOf (edges.map (Edge.renumbered image)) =
    (source.typesOf edges).mapError (GraphFault.renumbered image) := by
  induction edges with
  | nil => rfl
  | cons edge rest ih =>
      rw [List.map_cons, Scope.typesOf, Scope.typesOf,
        reflected_type_of image source copy reflects known, ih]
      cases source.typeOf edge with
      | error fault => rfl
      | ok type =>
          cases source.typesOf rest with
          | error fault => rfl
          | ok types => rfl

end Types

theorem retells_map {α β : Type} (image : NodeId → NodeId) (tell : α → α) (told : β → β)
    (first second : Outcome α) (retells : Retells image tell first second) (wrap : α → β)
    (same : ∀ value, told (wrap value) = wrap (tell value)) :
    Retells image told (first.map wrap) (second.map wrap) := by
  refine ⟨?_, retells.network⟩
  rw [Outcome.map, Outcome.map, retells.answer]
  cases first.1 with
  | error fault => rfl
  | ok value => exact congrArg Except.ok (same value).symm

section Requests

variable (image : NodeId → NodeId) (network other : Network) (renumbers : network.Renumbers image other)

include renumbers

theorem renumbered_function (id : FunctionId) :
    other.function? id = (network.function? id).map (Function.renumbered image) := by
  rw [Network.function?, Network.function?, renumbers.functions]
  exact List.getElem?_map

theorem renumbered_name (name : String) : other.hasFunction name = network.hasFunction name := by
  rw [Network.hasFunction, Network.hasFunction, Network.functionNamed?, Network.functionNamed?,
    renumbers.functions, List.find?_map, Option.isSome_map]
  rfl

theorem renumbered_journal (events others : List Event) :
    Network.Renumbers image { network with journal := events } { other with journal := others } :=
  ⟨renumbers.functions, renumbers.types, renumbers.storage, renumbers.variableCount, renumbers.suffix,
    renumbers.numbers⟩

theorem renumbered_update (id : FunctionId) (change copied : Function → Function)
    (commutes : ∀ function, copied (function.renumbered image) = (change function).renumbered image) :
    (network.updateFunction id change).Renumbers image (other.updateFunction id copied) := by
  refine ⟨?_, renumbers.types, renumbers.storage, renumbers.variableCount, renumbers.suffix,
    renumbers.numbers⟩
  rw [Network.updateFunction, Network.updateFunction, renumbers.functions]
  exact modify_map (Function.renumbered image) network.functions id.index change copied fun function _ =>
    commutes function

theorem renumbered_intern (type : TensorType) : (other.intern type).1 = (network.intern type).1 ∧
    (network.intern type).2.Renumbers image (other.intern type).2 := by
  rw [Network.intern, Network.intern, renumbers.types]
  exact ⟨rfl, renumbers.functions, rfl, renumbers.storage, renumbers.variableCount, renumbers.suffix,
    renumbers.numbers⟩

theorem renumbered_fresh_name (requested : String) :
    (other.freshName requested).1 = (network.freshName requested).1 ∧
    (network.freshName requested).2.Renumbers image (other.freshName requested).2 := by
  rw [Network.freshName, Network.freshName, renumbers.suffix]
  exact ⟨rfl, renumbers.functions, renumbers.types, renumbers.storage, renumbers.variableCount, rfl,
    renumbers.numbers⟩

theorem renumbered_variable (wanted : Parameter) :
    (other.createVariable wanted).1 = (network.createVariable wanted).1 ∧
    (network.createVariable wanted).2.Renumbers image (other.createVariable wanted).2 := by
  simp only [Network.createVariable, Network.report, renumbers.types, renumbers.storage,
    renumbers.variableCount, renumbers.suffix]
  exact ⟨trivial, renumbers.functions, rfl, rfl, rfl, rfl, renumbers.numbers⟩

theorem renumbered_variables (wanted : List Parameter) :
    (network.createVariables wanted).Renumbers image (other.createVariables wanted) := by
  induction wanted generalizing network other with
  | nil => exact renumbers
  | cons parameter rest ih =>
      exact ih _ _ (renumbered_variable image network other renumbers parameter).2

theorem renumbered_ready (draft : Draft) :
    (network.readyFor draft).Renumbers image (other.readyFor (draft.renumbered image)) := by
  have supplied := renumbered_variables image network other renumbers draft.parameters
  refine ⟨supplied.functions, ?_, supplied.storage, supplied.variableCount, supplied.suffix,
    supplied.numbers⟩
  exact congrArg (fun types : TypePool => (types.internAll draft.results).2) supplied.types

theorem renumbered_operands (draft : Draft) :
    (draft.renumbered image).operands.map (Operand.edge other.nextVariable) =
    (draft.operands.map (Operand.edge network.nextVariable)).map (Edge.renumbered image) := by
  rw [Draft.renumbered, List.map_map, List.map_map, renumbers.variableCount]
  refine List.map_congr_left fun operand _ => ?_
  cases operand with
  | given edge => rfl
  | fresh parameter => rfl

theorem renumbered_usage (function : Function) : other.usageArrows (function.renumbered image) =
    (network.usageArrows function).map (Arrow.renumbered image) := by
  have arrow : ∀ (node : Node) (i : Nat) (edge : Edge),
      other.usageArrow? function.id (node.renumbered image) i (edge.renumbered image) =
        (network.usageArrow? function.id node i edge).map (Arrow.renumbered image) := by
    intro node i edge
    obtain ⟨producer, slot⟩ := edge
    cases producer with
    | var v =>
        simp only [Edge.renumbered, Producer.renumbered, Network.usageArrow?, renumbers.storage]
        cases network.storage.get? v with
        | none => rfl
        | some _ => rfl
    | node id => rfl
  have nodes : (function.renumbered image).nodes = function.nodes.map (Node.renumbered image) := rfl
  rw [Network.usageArrows, Network.usageArrows, nodes, List.flatMap_map, List.map_flatMap]
  refine List.flatMap_congr fun node _ => ?_
  rw [renumbered_inputs, List.filterMap_map, List.map_filterMap]
  exact List.filterMap_congr fun input _ => arrow node input.2 input.1

-- The drawing of a network shows functions as boxes, and no arrow from a node.
theorem renumbered_overview : other.drawing = network.drawing.renumbered image := by
  have boxes : other.functions.map Function.box =
      (network.functions.map Function.box).map (Vertex.renumbered image) := by
    rw [renumbers.functions, List.map_map, List.map_map]
    refine List.map_congr_left fun function _ => ?_
    exact congrArg (Vertex.box function.id function.name) (List.length_map _)
  have vertices : other.storage.values.map (fun v => v.vertex other.types) =
      (network.storage.values.map fun v => v.vertex network.types).map (Vertex.renumbered image) := by
    rw [renumbers.storage, renumbers.types, List.map_map]
    rfl
  have arrows : other.functions.flatMap other.usageArrows =
      (network.functions.flatMap network.usageArrows).map (Arrow.renumbered image) := by
    rw [renumbers.functions, List.flatMap_map, List.map_flatMap]
    exact List.flatMap_congr fun function _ => renumbered_usage image network other renumbers function
  rw [Network.drawing, Network.drawing, Drawing.renumbered, Variables.map_values, Variables.map_values,
    vertices, boxes, arrows, List.map_append]

theorem renumbered_payload (id : VariableId) (payload : Option (List UInt8)) :
    Retells image (fun done => done) (network.setPayload id payload) (other.setPayload id payload) := by
  rw [Network.setPayload, Network.setPayload, renumbers.storage]
  cases network.storage.get? id with
  | none => exact ⟨rfl, renumbers⟩
  | some v =>
      exact ⟨rfl, renumbers.functions, renumbers.types, rfl, renumbers.variableCount, renumbers.suffix,
        renumbers.numbers⟩

theorem renumbered_erase_variable (id : VariableId) :
    Retells image (fun erased => erased) (network.eraseVariable id) (other.eraseVariable id) := by
  rw [Network.eraseVariable, Network.eraseVariable, renumbers.storage]
  cases network.storage.get? id with
  | none => exact ⟨rfl, renumbers⟩
  | some v =>
      exact ⟨rfl, renumbers.functions, renumbers.types, rfl, renumbers.variableCount, renumbers.suffix,
        renumbers.numbers⟩

theorem renumbered_create_function (name : String) :
    Retells image (fun id => id) (network.createFunction name) (other.createFunction name) := by
  have count : other.functions.length = network.functions.length := by
    rw [renumbers.functions, List.length_map]
  rw [Network.createFunction, Network.createFunction,
    renumbered_name image network other renumbers, count]
  by_cases taken : network.hasFunction name = true
  · rw [if_pos taken, if_pos taken]
    exact ⟨rfl, renumbers⟩
  · rw [if_neg taken, if_neg taken]
    refine ⟨rfl, ?_, renumbers.types, renumbers.storage, renumbers.variableCount, renumbers.suffix,
      renumbers.numbers⟩
    simp only [Network.report, renumbers.functions, List.map_append]
    rfl

section Injective

variable (injective : Function.Injective image)

include injective

theorem renumbered_scope (function : Function) :
    (network.scopeOf function).Reflects image (fun _ => True)
      (other.scopeOf (function.renumbered image)) :=
  renumbered_reflects image injective _ _ renumbers.types renumbers.storage rfl

theorem renumbered_add_node (id : FunctionId) (label : String) (operator : Operator) (inputs : List Edge)
    (results : List TypeHandle) : Retells image image (network.addNode id label operator inputs results)
      (other.addNode id label operator (inputs.map (Edge.renumbered image)) results) := by
  rw [Network.addNode, Network.addNode, renumbered_function image network other renumbers]
  cases network.function? id with
  | none => exact ⟨rfl, renumbers⟩
  | some function =>
      have reflects := renumbered_scope image network other renumbers injective function
      have unresolved : ((inputs.map (Edge.renumbered image)).find? fun edge =>
          ((other.scopeOf (function.renumbered image)).handle? edge).isNone) =
          (inputs.find? fun edge => ((network.scopeOf function).handle? edge).isNone).map
            (Edge.renumbered image) := by
        rw [List.find?_map]
        simp only [Function.comp_def, reflected_handle image _ _ reflects]
      simp only [Option.map_some, unresolved, renumbers.types]
      cases inputs.find? fun edge => ((network.scopeOf function).handle? edge).isNone with
      | some edge => exact ⟨rfl, renumbers⟩
      | none =>
          simp only [Option.map_none]
          cases results.find? fun handle => (network.types.get? handle).isNone with
          | some handle => exact ⟨rfl, renumbers⟩
          | none =>
              have number : (⟨other.nextNode⟩ : NodeId) = image ⟨network.nextNode⟩ :=
                (renumbers.numbers 0).symm
              refine ⟨congrArg Except.ok number, renumbered_update image _ _ ?_ id _ _
                fun function => ?_⟩
              · refine ⟨renumbers.functions, rfl, renumbers.storage, renumbers.variableCount,
                  ?_, fun k => ?_⟩
                · simp only [renumbers.suffix]
                · simp only [Nat.add_assoc]
                  exact renumbers.numbers (1 + k)
              · rw [← renumbered_push]
                simp only [Node.renumbered, renumbers.suffix, number, Option.map_none]

theorem renumbered_build (kept : network.Represented) (id : FunctionId) (function : Function)
    (member : function ∈ network.functions) (draft : Draft) :
    Retells image image (network.build id function draft)
      (other.build id (function.renumbered image) (draft.renumbered image)) := by
  have ready := renumbered_ready image network other renumbers draft
  have readyKept := changes_represented .verify _ _ (ready_changes .verify network draft) kept
  have supplied := (renumbered_variables image network other renumbers draft.parameters).types
  have stillMember : function ∈ (network.readyFor draft).functions := by
    rw [Network.readyFor, create_variables_functions]
    exact member
  have types := reflected_types_of image _ _ (renumbered_scope image _ _ ready injective function)
    (resolved_handle_known _ readyKept function stillMember)
      (draft.operands.map (Operand.edge network.nextVariable))
  rw [← renumbered_operands image network other renumbers draft] at types
  rw [build_by_steps, build_by_steps, types]
  cases ((network.readyFor draft).scopeOf function).typesOf
    (draft.operands.map (Operand.edge network.nextVariable)) with
  | error fault => exact ⟨rfl, ready⟩
  | ok operands =>
      have added := renumbered_add_node image _ _ ready injective id draft.label draft.operator
        (draft.operands.map (Operand.edge network.nextVariable))
        ((network.createVariables draft.parameters).types.internAll draft.results).1
      rw [← renumbered_operands image network other renumbers draft] at added
      have handles : (other.createVariables (draft.renumbered image).parameters).types =
        (network.createVariables draft.parameters).types := supplied
      simp only [Except.mapError, handles, show (draft.renumbered image).operator =
        draft.operator from rfl,
        show (draft.renumbered image).results = draft.results from rfl]
      cases draft.operator.check operands draft.results with
      | error fault => exact ⟨rfl, ready⟩
      | ok _ => exact added

theorem renumbered_removal (id : FunctionId) (target : Producer) :
    Retells image (fun done => done) (network.erase id target)
      (other.erase id (target.renumbered image)) := by
  rw [Network.erase, Network.erase, renumbered_function image network other renumbers]
  cases network.function? id with
  | none => exact ⟨rfl, renumbers⟩
  | some function =>
      cases target with
      | var v =>
          have erased := renumbered_erase_variable image network other renumbers v
          refine ⟨?_, erased.network⟩
          simp only [Producer.renumbered, Option.map_some, erased.answer]
          cases (network.eraseVariable v).1 with
          | error fault => rfl
          | ok v => rfl
      | node node =>
          simp only [Producer.renumbered, Option.map_some, renumbered_node image injective]
          cases function.node? node with
          | none => exact ⟨rfl, renumbers⟩
          | some erased =>
              refine ⟨rfl, renumbered_journal image _ _
                (renumbered_update image network other renumbers id _ _ ?_) _ _⟩
              exact fun function => renumbered_erase image injective function node

theorem renumbered_edit_node {α : Type} (id : FunctionId) (node : NodeId) (tell : α → α)
    (answer : Node → α) (change copied : Node → Node)
    (told : ∀ node : Node, answer (node.renumbered image) = tell (answer node))
    (commutes : ∀ node : Node, copied (node.renumbered image) = (change node).renumbered image) :
    Retells image tell (network.editNode id node answer change)
      (other.editNode id (image node) answer copied) := by
  rw [Network.editNode, Network.editNode, renumbered_function image network other renumbers]
  cases network.function? id with
  | none => exact ⟨rfl, renumbers⟩
  | some function =>
      simp only [Option.map_some, renumbered_node image injective]
      cases function.node? node with
      | none => exact ⟨rfl, renumbers⟩
      | some before =>
          refine ⟨congrArg Except.ok (told before),
            renumbered_update image network other renumbers id _ _ ?_⟩
          exact fun function => renumbered_edit image injective function node change copied commutes

theorem renumbered_add_layer (kept : network.Represented) (id : FunctionId) (label : String)
    (layer : Layer) :
    Retells image image (network.addLayer id label layer)
      (other.addLayer id label (layer.renumbered image)) := by
  rw [Network.addLayer, Network.addLayer, renumbered_function image network other renumbers]
  cases found : network.function? id with
  | none => exact ⟨rfl, renumbers⟩
  | some function =>
      have drafted := draft_reflected image _ _
        (renumbered_scope image network other renumbers injective function) label layer
      simp only [Option.map_some, drafted]
      cases (network.scopeOf function).draft label layer with
      | error fault => exact ⟨rfl, renumbers⟩
      | ok draft =>
          exact renumbered_build image network other renumbers injective kept id function
            (List.mem_of_getElem? found) draft

theorem renumbered_clone (source : FunctionId) (name : String) :
    Retells image (fun answer => (answer.1, answer.2.renumbered image))
      (network.cloneFunction source name) (other.cloneFunction source name) := by
  have count : other.functions.length = network.functions.length := by
    rw [renumbers.functions, List.length_map]
  rw [Network.cloneFunction, Network.cloneFunction, renumbered_name image network other renumbers,
    renumbered_function image network other renumbers]
  by_cases taken : network.hasFunction name = true
  · rw [if_pos taken, if_pos taken]
    exact ⟨rfl, renumbers⟩
  · rw [if_neg taken, if_neg taken]
    cases network.function? source with
    | none => exact ⟨rfl, renumbers⟩
    | some cloned =>
        have size : (cloned.renumbered image).size = cloned.size := List.length_map _
        have numbering :=
          renumbered_numbering image network.nextNode other.nextNode renumbers.numbers cloned.nodes
        have nodes : (cloned.renumbered image).nodes = cloned.nodes.map (Node.renumbered image) := rfl
        have copied := renumbered_copied_nodes image injective
          (NodeMapping.numberedFrom network.nextNode cloned.nodes)
          network.storage network.nextNode other.nextNode renumbers.numbers cloned.nodes 0
        simp only [Nat.add_zero] at copied
        have later : ∀ k, image ⟨network.nextNode + cloned.size + k⟩ =
            ⟨other.nextNode + cloned.size + k⟩ := by
          intro k
          rw [Nat.add_assoc, Nat.add_assoc]
          exact renumbers.numbers _
        simp only [Option.map_some, size, nodes, numbering, copied, renumbers.storage, count]
        cases (NodeMapping.numberedFrom network.nextNode cloned.nodes).nodes network.storage
          network.nextNode cloned.nodes with
        | error fault =>
            exact ⟨rfl, renumbers.functions, renumbers.types, rfl,
              renumbers.variableCount, renumbers.suffix, later⟩
        | ok copies =>
            refine ⟨rfl, ?_, renumbers.types, rfl, renumbers.variableCount, renumbers.suffix, later⟩
            have pushed :=
              renumbered_push_all image copies { id := ⟨network.functions.length⟩, name := name }
            simp only [Network.report, List.map_append, List.map_singleton, renumbers.functions]
            exact congrArg (fun copy => _ ++ [copy]) pushed

variable (settings : Settings) (kept : network.Represented)

include kept

theorem renumbered_verdict (function : Function) (member : function ∈ network.functions) :
    (other.scopeOf (function.renumbered image)).verify =
      (network.scopeOf function).verify.mapError (Violation.renumbered image) := by
  have reflects := renumbered_scope image network other renumbers injective function
  exact verify_reflected image _ _ _ reflects network.nextVariable
    (kept.functions.indexed function member) kept.storage
    (kept.functions.typed function member)

theorem renumbered_verify_one (function : Function) (member : function ∈ network.functions) :
    Retells image (fun done => done) (network.verifyOne settings function)
      (other.verifyOne settings (function.renumbered image)) := by
  have same := renumbered_verdict image network other renumbers injective kept function member
  rw [Network.verifyOne, Network.verifyOne, same]
  cases (network.scopeOf function).verify with
  | ok passed => exact ⟨rfl, renumbers⟩
  | error found => exact ⟨rfl, renumbered_journal image network other renumbers _ _⟩

theorem renumbered_verify_each (functions : List Function)
    (members : ∀ function ∈ functions, function ∈ network.functions) :
    Retells image (fun done => done) (network.verifyEach settings functions)
      (other.verifyEach settings (functions.map (Function.renumbered image))) := by
  induction functions with
  | nil => exact ⟨rfl, renumbers⟩
  | cons function rest ih =>
      obtain ⟨member, later⟩ := List.forall_mem_cons.mp members
      have same := renumbered_verdict image network other renumbers injective kept function member
      rw [List.map_cons, Network.verifyEach, Network.verifyEach, Network.verifyOne,
        Network.verifyOne, same]
      cases (network.scopeOf function).verify with
      | ok passed => exact ih later
      | error found => exact ⟨rfl, renumbered_journal image network other renumbers _ _⟩

theorem renumbered_edit_request (id : FunctionId) (change : Edit) :
    Retells image (Reply.renumbered image) (network.edit id change)
      (other.edit id (change.renumbered image)) := by
  cases change with
  | addNode label operator inputs results =>
      have added :=
        renumbered_add_node image network other renumbers injective id label operator inputs results
      exact retells_map image _ _ _ _ added _ fun _ => rfl
  | addLayer label layer =>
      have added := renumbered_add_layer image network other renumbers injective kept id label layer
      exact retells_map image _ _ _ _ added _ fun _ => rfl
  | erase target =>
      have erased := renumbered_removal image network other renumbers injective id target
      exact retells_map image _ _ _ _ erased _ fun _ => rfl
  | rename node name =>
      have renamed := renumbered_edit_node image network other renumbers injective id node
        (fun done => done) (fun _ => ())
        (fun node => { node with name := name }) (fun node => { node with name := name }) (fun _ => rfl)
          fun _ => rfl
      exact retells_map image _ _ _ _ renamed _ fun _ => rfl
  | setInput node i edge =>
      have rewired := renumbered_edit_node image network other renumbers injective id node
        (Option.map (Edge.renumbered image))
        (fun before => before.inputs[i]?) (fun node => node.withInput i edge)
        (fun node => node.withInput i (edge.renumbered image)) (fun _ => List.getElem?_map)
          fun node => by
          simp only [Node.withInput, Node.renumbered, List.map_set]
      exact retells_map image _ _ _ _ rewired _ fun _ => rfl
  | setPredicate node predicate =>
      have guarded := renumbered_edit_node image network other renumbers injective id node
        (fun done => done) (fun _ => ()) (fun node => { node with predicate := predicate })
        (fun node => { node with predicate := predicate.map (Edge.renumbered image) }) (fun _ => rfl)
          fun _ => rfl
      exact retells_map image _ _ _ _ guarded _ fun _ => rfl

omit injective kept in
theorem renumbered_write (subject : Subject) (path : String) (drawing copy : Drawing)
    (refused : Option WriteFault) (same : copy = drawing.renumbered image) :
    Follows image ((network.write subject path drawing.text refused).map Reply.file).1
        ((other.write subject path copy.text refused).map Reply.file).1 ∧
      (network.write subject path drawing.text refused).2.Renumbers image
        (other.write subject path copy.text refused).2 := by
  subst same
  cases refused with
  | some cause => exact ⟨.retold (.error (.unwritable path cause)), renumbers⟩
  | none => exact ⟨.drawn path drawing, renumbered_journal image network other renumbers _ _⟩

theorem renumbered_request (action : Action) :
    Follows image (network.perform settings action).1
      (other.perform settings (action.renumbered image)).1 ∧
      (network.perform settings action).2.Renumbers image
        (other.perform settings (action.renumbered image)).2 := by
  have whole : ∀ first second : Outcome Reply, Retells image (Reply.renumbered image) first second →
      Follows image first.1 second.1 ∧ first.2.Renumbers image second.2 := by
    intro first second retells
    rw [retells.answer]
    exact ⟨.retold first.1, retells.network⟩
  cases action with
  | intern type =>
      obtain ⟨same, interned⟩ := renumbered_intern image network other renumbers type
      simp only [Action.renumbered, Network.perform, same]
      exact ⟨.retold (.ok (.type _)), interned⟩
  | reshape base dims =>
      simp only [Action.renumbered, Network.perform, renumbers.types]
      cases network.types.reshape? base dims with
      | none => exact ⟨.retold (.ok (.type none)), renumbers⟩
      | some result =>
          exact ⟨.retold (.ok (.type (some result.1))), renumbers.functions, rfl, renumbers.storage,
            renumbers.variableCount, renumbers.suffix, renumbers.numbers⟩
  | freshName requested =>
      obtain ⟨same, named⟩ := renumbered_fresh_name image network other renumbers requested
      simp only [Action.renumbered, Network.perform, same]
      exact ⟨.retold (.ok (.name _)), named⟩
  | createFunction name =>
      have created := renumbered_create_function image network other renumbers name
      exact whole _ _ (retells_map image _ _ _ _ created _ fun _ => rfl)
  | cloneFunction source name =>
      have cloned := renumbered_clone image network other renumbers injective source name
      exact whole _ _ (retells_map image _ _ _ _ cloned _ fun _ => rfl)
  | createVariable wanted =>
      obtain ⟨same, created⟩ := renumbered_variable image network other renumbers wanted
      simp only [Action.renumbered, Network.perform, same]
      exact ⟨.retold (.ok (.variable _)), created⟩
  | setPayload id payload =>
      have paid := renumbered_payload image network other renumbers id payload
      exact whole _ _ (retells_map image _ _ _ _ paid _ fun _ => rfl)
  | eraseVariable id =>
      have erased := renumbered_erase_variable image network other renumbers id
      exact whole _ _ (retells_map image _ _ _ _ erased _ fun _ => rfl)
  | edit id change =>
      exact whole _ _ (renumbered_edit_request image network other renumbers injective kept id change)
  | verify =>
      have verified :=
        renumbered_verify_each image network other renumbers injective settings kept network.functions
        fun _ member => member
      rw [← renumbers.functions] at verified
      exact whole _ _ (retells_map image _ _ _ _ verified _ fun _ => rfl)
  | verifyFunction id =>
      simp only [Action.renumbered, Network.perform, Network.verifyFunction,
        renumbered_function image network other renumbers]
      cases found : network.function? id with
      | none => exact ⟨.retold (.error (.unknownFunction id)), renumbers⟩
      | some function =>
          have verified :=
            renumbered_verify_one image network other renumbers injective settings kept function
            (List.mem_of_getElem? found)
          exact whole _ _ (retells_map image _ _ _ _ verified _ fun _ => rfl)
  | writeDrawing path refused =>
      have drawing := renumbered_overview image network other renumbers
      exact renumbered_write image network other renumbers .network _ _ _ _ drawing
  | writeFunctionDrawing id path refused =>
      simp only [Action.renumbered, Network.perform, Network.writeFunctionDrawing,
        renumbered_function image network other renumbers]
      cases network.function? id with
      | none => exact ⟨.retold (.error (.unknownFunction id)), renumbers⟩
      | some function =>
          have drawing := drawing_reflected image _ _ _
            (renumbered_scope image network other renumbers injective function)
          exact renumbered_write image network other renumbers .function _ _ _ _ drawing

end Injective

end Requests

theorem renumbered_run (image : NodeId → NodeId) (injective : Function.Injective image)
    (settings : Settings) (network other : Network) (renumbers : network.Renumbers image other)
    (kept : network.Represented) (actions : List Action) :
    (network.run settings actions).Renumbers image
      (other.run settings (actions.map (Action.renumbered image))) := by
  induction actions generalizing network other with
  | nil => exact renumbers
  | cons action rest ih =>
      have step := renumbered_request image network other renumbers injective settings kept action
      exact ih _ _ step.2 (changes_represented action _ _ (perform_changes settings network action) kept)

end TensorGraph
