import TensorGraph.Proofs.ShortestDecimals
import TensorGraph.Stored.Graph
import TensorGraph.Stored.Types

set_option autoImplicit false

namespace TensorGraph

def AllFinite (floats : List Binary32) : Prop := ∀ x ∈ floats, x.isFinite = true

instance (floats : List Binary32) : Decidable (AllFinite floats) :=
  inferInstanceAs (Decidable (∀ x ∈ floats, x.isFinite = true))

theorem all_finite_nil : AllFinite [] := List.forall_mem_nil _

theorem all_finite_cons (x : Binary32) (rest : List Binary32) :
    AllFinite (x :: rest) ↔ x.isFinite = true ∧ AllFinite rest := List.forall_mem_cons

-- How values of a type are stored: the stored form, how it is read, and the floating-point numbers in a
-- value. Identifiers are kept as natural numbers and have to fit into 32 bits.
structure StoredForm {J : Type} (format : JsonFormat J) (α : Type) where
  toJson : α → J
  ofJson? : J → Option α
  floats : α → List Binary32 := fun _ => []
  fits : α → Prop := fun _ => True

namespace StoredForm

variable {J α : Type} {format : JsonFormat J}

def write (form : StoredForm format α) (x : α) : String := format.write (form.toJson x)

def read? (form : StoredForm format α) (text : String) : Option α :=
  (format.read? text).bind form.ofJson?

-- What is written is read back exactly when all its numbers are finite. What has been read stays the
-- same when it is written and read again, unless an infinity has been read.
structure RoundTrips (form : StoredForm format α) : Prop where
  written : ∀ x, form.fits x →
    form.read? (form.write x) = if AllFinite (form.floats x) then some x else none
  kept : ∀ text x, form.read? text = some x →
    (form.read? (form.write x) = some x ↔ AllFinite (form.floats x))
  accepted : format.ReadsFinite → ∀ text x, form.read? text = some x → form.read? (form.write x) = some x

-- The same for the values that texts stand for.
structure Sound (form : StoredForm format α) : Prop where
  built : ∀ x, format.Built (form.toJson x)
  back : ∀ x, form.fits x →
    form.ofJson? (form.toJson x) = if AllFinite (form.floats x) then some x else none
  fits : ∀ value x, form.ofJson? value = some x → form.fits x
  finite : format.ReadsFinite → ∀ value x, form.ofJson? value = some x → AllFinite (form.floats x)

theorem Sound.round_trips {form : StoredForm format α} (lawful : format.Lawful) (sound : form.Sound) :
    form.RoundTrips := by
  have written : ∀ x, form.fits x →
      form.read? (form.write x) = if AllFinite (form.floats x) then some x else none := by
    intro x fits
    rw [read?, write, lawful.reads _ (sound.built x)]
    exact sound.back x fits
  refine ⟨written, fun text x read => ?_, fun finite text x read => ?_⟩
  · obtain ⟨value, _, found⟩ := Option.bind_eq_some_iff.mp read
    rw [written x (sound.fits value x found)]
    simp
  · obtain ⟨value, _, found⟩ := Option.bind_eq_some_iff.mp read
    rw [written x (sound.fits value x found), if_pos (sound.finite finite value x found)]

end StoredForm

section Values

variable {J : Type} {format : JsonFormat J}

theorem fields_built (keys : List String) (values : List J)
    (all : ∀ value ∈ values, format.Built value) :
    format.Built (format.record (keys.zip values)) :=
  .record _ fun _ member => all _ (List.of_mem_zip member).2

theorem all_given (values : List J) : (values.map some).mapM id = some values := by
  induction values with
  | nil => rfl
  | cons value rest ih => simp [ih]

theorem extents_built (extents : List Extent) : format.Built (format.extents extents) :=
  .list _ (List.forall_mem_map.mpr fun extent _ => .extent extent)

variable (lawful : format.Lawful)

include lawful

theorem float_back (x : Binary32) :
    format.float? (format.float x) = if x.isFinite then some x else none := by
  by_cases finite : x.isFinite = true
  · obtain ⟨tie, written⟩ := lawful.shortest x finite
    rw [if_pos finite, written]
    exact lawful.nearest _ _ _ (Binary32.own_decimal x tie finite)
  · rw [if_neg finite, lawful.nonFinite x (Bool.eq_false_iff.mpr finite), lawful.nullNoFloat]

theorem float_payload_back {α : Type} (make : Binary32 → α) (x : Binary32) :
    (format.float? (format.float x)).map make = if AllFinite [x] then some (make x) else none := by
  rw [float_back lawful]
  by_cases finite : x.isFinite = true
  · simp [finite, all_finite_cons, all_finite_nil]
  · simp [finite, all_finite_cons]

theorem extents_back (extents : List Extent) :
    format.extents? (format.extents extents) = some extents := by
  rw [JsonFormat.extents, JsonFormat.extents?, lawful.list, Option.bind_some]
  induction extents with
  | nil => rfl
  | cons extent rest ih => simp [lawful.extent, ih]

theorem members_back (keys : List String) (values : List J) (distinct : keys.Nodup)
    (same : keys.length = values.length) :
    format.members? keys (format.record (keys.zip values)) = some (values.map some) := by
  have names : (keys.zip values).map Prod.fst = keys := List.map_fst_zip same.le
  have found := lawful.record (keys.zip values) (names.symm ▸ distinct)
  have others : (keys.zip values).map (fun field => some field.2) =
      ((keys.zip values).map Prod.snd).map some :=
    List.map_map.symm
  rwa [names, others, List.map_snd_zip same.ge] at found

theorem all_members_back (keys : List String) (values : List J) (distinct : keys.Nodup)
    (same : keys.length = values.length) :
    format.allMembers? keys (format.record (keys.zip values)) = some values := by
  rw [JsonFormat.allMembers?, members_back lawful keys values distinct same, Option.bind_some]
  exact all_given values

theorem bare_choice_back (tag : String) : format.bareChoice? (format.text tag) = some tag := by
  rw [JsonFormat.bareChoice?, lawful.bare]
  rfl

end Values

section Forms

variable {J : Type} (format : JsonFormat J)

def Visibility.stored : StoredForm format Visibility where
  toJson := Visibility.toJson format
  ofJson? := Visibility.ofJson? format

def Element.stored : StoredForm format Element where
  toJson := Element.toJson format
  ofJson? := Element.ofJson? format

def Quantization.stored : StoredForm format Quantization where
  toJson := Quantization.toJson format
  ofJson? := Quantization.ofJson? format
  floats q := [q.scale]

def TensorType.stored : StoredForm format TensorType where
  toJson := TensorType.toJson format
  ofJson? := TensorType.ofJson? format
  floats type := type.quantization.toList.map Quantization.scale

def Initializer.floats : Initializer → List Binary32
  | none => []
  | broadcast value => [value]
  | xavier fanIn => [fanIn]

def Initializer.stored : StoredForm format Initializer where
  toJson := Initializer.toJson format
  ofJson? := Initializer.ofJson? format
  floats := Initializer.floats

def Producer.Fits : Producer → Prop
  | var id => id.index < UInt32.size
  | node id => id.index < UInt32.size

def Producer.stored : StoredForm format Producer where
  toJson := Producer.toJson format
  ofJson? := Producer.ofJson? format
  fits := Producer.Fits

def Edge.stored : StoredForm format Edge where
  toJson := Edge.toJson format
  ofJson? := Edge.ofJson? format
  fits edge := edge.producer.Fits ∧ edge.slot < UInt32.size

end Forms

section Sound

variable {J : Type} {format : JsonFormat J} (lawful : format.Lawful)

include lawful

theorem visibility_sound : (Visibility.stored format).Sound where
  built _ := .text _
  back visibility _ := by
    show (format.bareChoice? (format.text visibility.title)).bind Visibility.ofTag? = some visibility
    rw [bare_choice_back lawful]
    cases visibility <;> rfl
  fits _ _ _ := trivial
  finite _ _ _ _ := all_finite_nil

theorem element_back (element : Element) :
    Element.ofJson? format (element.toJson format) = some element := by
  rw [Element.ofJson?, Element.toJson, bare_choice_back lawful]
  cases element <;> rfl

theorem element_sound : (Element.stored format).Sound where
  built _ := .text _
  back element _ := element_back lawful element
  fits _ _ _ := trivial
  finite _ _ _ _ := all_finite_nil

omit lawful in
theorem quantization_built (q : Quantization) : format.Built (q.toJson format) :=
  fields_built ["scale", "offset"] [format.float q.scale, format.int32 q.offset]
    (List.forall_mem_cons.mpr ⟨.float q.scale, List.forall_mem_singleton.mpr (.int32 q.offset)⟩)

theorem quantization_back (q : Quantization) :
    Quantization.ofJson? format (q.toJson format) = if AllFinite [q.scale] then some q else none := by
  have members : format.allMembers? ["scale", "offset"] (q.toJson format) =
      some [format.float q.scale, format.int32 q.offset] :=
    all_members_back lawful ["scale", "offset"] [_, _] (by decide) rfl
  simp only [Quantization.ofJson?, members, float_back lawful, lawful.int32]
  by_cases finite : q.scale.isFinite = true
  · simp [finite, all_finite_cons, all_finite_nil]
  · simp [finite, all_finite_cons]

omit lawful in
theorem quantization_finite (finite : format.ReadsFinite) (value : J) (q : Quantization)
    (read : Quantization.ofJson? format value = some q) : AllFinite [q.scale] := by
  rw [Quantization.ofJson?] at read
  split at read
  · split at read
    · rename_i scaled _
      rw [← Option.some.inj read]
      exact (all_finite_cons _ _).mpr ⟨finite _ _ scaled, all_finite_nil⟩
    · cases read
  · cases read

theorem quantization_sound : (Quantization.stored format).Sound where
  built := quantization_built
  back q _ := quantization_back lawful q
  fits _ _ _ := trivial
  finite := quantization_finite

omit lawful in
theorem quantization_member_finite (finite : format.ReadsFinite) (member : Option J)
    (quantization : Option Quantization)
    (read : Quantization.ofMember? format member = some quantization) :
    AllFinite (quantization.toList.map Quantization.scale) := by
  rw [Quantization.ofMember?.eq_def] at read
  split at read
  · cases read
    exact all_finite_nil
  · split at read
    · cases read
      exact all_finite_nil
    · obtain ⟨q, found, rfl⟩ := Option.map_eq_some_iff.mp read
      exact quantization_finite finite _ q found

theorem quantization_member_back (quantization : Option Quantization) :
    Quantization.ofMember? format (some (Quantization.toMember format quantization)) =
      if AllFinite (quantization.toList.map Quantization.scale) then some quantization else none := by
  cases quantization with
  | none => simp [Quantization.ofMember?, Quantization.toMember, lawful.null, all_finite_nil]
  | some q =>
      have given : format.isNull (q.toJson format) = false := lawful.recordNotNull _
      simp only [Quantization.ofMember?, Quantization.toMember, given, quantization_back lawful]
      by_cases finite : AllFinite [q.scale]
      · simp [finite]
      · simp [finite]

omit lawful in
theorem quantization_member_built (quantization : Option Quantization) :
    format.Built (Quantization.toMember format quantization) := by
  cases quantization with
  | none => exact .null
  | some q => exact quantization_built q

theorem tensor_type_sound : (TensorType.stored format).Sound where
  built type := by
    refine fields_built ["elem", "dims", "quant"] [_, _, _] ?_
    refine List.forall_mem_cons.mpr ⟨.text _, List.forall_mem_cons.mpr ⟨extents_built _, ?_⟩⟩
    exact List.forall_mem_singleton.mpr (quantization_member_built type.quantization)
  back type _ := by
    have members : format.members? ["elem", "dims", "quant"] (type.toJson format) = some
        [some (type.element.toJson format), some (format.extents type.dims),
          some (Quantization.toMember format type.quantization)] :=
      members_back lawful ["elem", "dims", "quant"] [_, _, _] (by decide) rfl
    show TensorType.ofJson? format (type.toJson format) = _
    simp only [TensorType.ofJson?, members, element_back lawful, extents_back lawful,
      quantization_member_back lawful]
    by_cases finite : AllFinite (type.quantization.toList.map Quantization.scale)
    · rw [if_pos finite]
      exact (if_pos finite).symm
    · rw [if_neg finite]
      exact (if_neg finite).symm
  fits _ _ _ := trivial
  finite finite value type read := by
    change TensorType.ofJson? format value = some type at read
    rw [TensorType.ofJson?] at read
    split at read
    · split at read
      · rename_i member _ _ _ quantization _ _ found
        rw [← Option.some.inj read]
        exact quantization_member_finite finite _ _ found
      · cases read
    · cases read

omit lawful in
theorem made_of_float {α : Type} (make : Binary32 → α) (found : Option Binary32) (made : α)
    (floats : α → List Binary32) (single : ∀ x, floats (make x) = [x])
    (finite : ∀ x, found = some x → x.isFinite = true)
    (read : found.map make = some made) : AllFinite (floats made) := by
  obtain ⟨x, same, rfl⟩ := Option.map_eq_some_iff.mp read
  rw [single]
  exact (all_finite_cons _ _).mpr ⟨finite x same, all_finite_nil⟩

theorem initializer_sound : (Initializer.stored format).Sound where
  built initializer := by
    cases initializer with
    | none => exact .text _
    | broadcast value => exact .tagged _ _ (.float value)
    | xavier fanIn => exact .tagged _ _ (.float fanIn)
  back initializer _ := by
    show Initializer.ofJson? format (initializer.toJson format) = _
    cases initializer with
    | none =>
        rw [Initializer.toJson, Initializer.ofJson?, lawful.bare]
        rfl
    | broadcast value =>
        rw [Initializer.toJson, Initializer.ofJson?, lawful.tagged]
        exact float_payload_back lawful Initializer.broadcast value
    | xavier fanIn =>
        rw [Initializer.toJson, Initializer.ofJson?, lawful.tagged]
        exact float_payload_back lawful Initializer.xavier fanIn
  fits _ _ _ := trivial
  finite finite value initializer read := by
    change Initializer.ofJson? format value = some initializer at read
    rw [Initializer.ofJson?] at read
    split at read
    · split at read
      · cases read
        exact all_finite_nil
      · cases read
    · exact made_of_float _ _ _ Initializer.floats (fun _ => rfl) (finite _) read
    · exact made_of_float _ _ _ Initializer.floats (fun _ => rfl) (finite _) read
    · cases read

theorem producer_fits (value : J) (producer : Producer)
    (read : Producer.ofJson? format value = some producer) : producer.Fits := by
  rw [Producer.ofJson?] at read
  split at read
  · obtain ⟨index, found, rfl⟩ := Option.map_eq_some_iff.mp read
    exact lawful.identifierBound _ index found
  · obtain ⟨index, found, rfl⟩ := Option.map_eq_some_iff.mp read
    exact lawful.identifierBound _ index found
  · cases read

theorem producer_back (producer : Producer) (fits : producer.Fits) :
    Producer.ofJson? format (producer.toJson format) = some producer := by
  cases producer with
  | var id =>
      rw [Producer.toJson, Producer.ofJson?, lawful.tagged]
      exact congrArg (Option.map fun index => Producer.var ⟨index⟩) (lawful.identifier id.index fits)
  | node id =>
      rw [Producer.toJson, Producer.ofJson?, lawful.tagged]
      exact congrArg (Option.map fun index => Producer.node ⟨index⟩) (lawful.identifier id.index fits)

omit lawful in
theorem producer_built (producer : Producer) : format.Built (producer.toJson format) := by
  cases producer with
  | var id => exact .tagged _ _ (.identifier _)
  | node id => exact .tagged _ _ (.identifier _)

theorem producer_sound : (Producer.stored format).Sound where
  built := producer_built
  back := producer_back lawful
  fits := producer_fits lawful
  finite _ _ _ _ := all_finite_nil

theorem edge_sound : (Edge.stored format).Sound where
  built edge := by
    refine fields_built ["producer", "res_no"] [_, _] ?_
    exact List.forall_mem_cons.mpr ⟨producer_built edge.producer,
      List.forall_mem_singleton.mpr (.identifier edge.slot)⟩
  back edge fits := by
    have members : format.allMembers? ["producer", "res_no"] (edge.toJson format) =
        some [edge.producer.toJson format, format.identifier edge.slot] :=
      all_members_back lawful ["producer", "res_no"] [_, _] (by decide) rfl
    show Edge.ofJson? format (edge.toJson format) = _
    simp only [Edge.ofJson?, members, producer_back lawful edge.producer fits.1,
      lawful.identifier edge.slot fits.2]
    rfl
  fits value edge read := by
    change Edge.ofJson? format value = some edge at read
    rw [Edge.ofJson?] at read
    split at read
    · split at read
      · rename_i produced slotted
        rw [← Option.some.inj read]
        exact ⟨producer_fits lawful _ _ produced, lawful.identifierBound _ _ slotted⟩
      · cases read
    · cases read
  finite _ _ _ _ := all_finite_nil

end Sound

end TensorGraph
