import TensorGraph.Proofs.JsonFormats
import TensorGraph.Proofs.StoredForms
import TensorGraph.Stored.Operator

set_option autoImplicit false

namespace TensorGraph

def Operator.floats : Operator → List Binary32
  | batchNormalization _ epsilon momentum => [epsilon, momentum]
  | localResponseNormalization _ alpha beta k => [alpha, beta, k]
  | pow exponent => [exponent]
  | splat value => [value]
  | _ => []

def Operator.stored {J : Type} (format : JsonFormat J) : StoredForm format Operator where
  toJson := Operator.toJson format
  ofJson? := Operator.ofJson? format
  floats := Operator.floats

section Built

variable {J : Type} {format : JsonFormat J}

theorem tagged_record_built (tag : String) (keys : List String) (values : List J)
    (all : ∀ value ∈ values, format.Built value) :
    format.Built (format.tagged tag (format.record (keys.zip values))) :=
  .tagged tag _ (fields_built keys values all)

theorem tagged_member_built (tag key : String) (value : J) (built : format.Built value) :
    format.Built (format.tagged tag (format.record [(key, value)])) :=
  tagged_record_built tag [key] [value] (List.forall_mem_singleton.mpr built)

theorem extent_list_built (extents : List Extent) :
    ∀ value ∈ extents.map format.extent, format.Built value :=
  List.forall_mem_map.mpr fun extent _ => .extent extent

theorem float_list_built (floats : List Binary32) :
    ∀ value ∈ floats.map format.float, format.Built value :=
  List.forall_mem_map.mpr fun x _ => .float x

theorem operator_built (operator : Operator) : format.Built (operator.toJson format) := by
  cases operator with
  | convolution window depth =>
      exact tagged_record_built _ ["kernel", "stride", "pad", "depth"] _
        (extent_list_built [window.kernel, window.stride, window.pad, depth])
  | pool method window =>
      exact tagged_record_built _ ["kernel", "stride", "pad"] _
        (extent_list_built [window.kernel, window.stride, window.pad])
  | reshape dims => exact tagged_member_built _ _ _ (extents_built dims)
  | transpose shuffle => exact tagged_member_built _ _ _ (extents_built shuffle)
  | broadcast shape axis =>
      refine tagged_record_built _ ["shape", "axis"] [_, _] ?_
      exact List.forall_mem_cons.mpr ⟨extents_built shape, List.forall_mem_singleton.mpr (.extent axis)⟩
  | concat axis => exact tagged_member_built _ _ _ (.extent axis)
  | slice start => exact tagged_member_built _ _ _ (extents_built start)
  | batchNormalization channel epsilon momentum =>
      refine tagged_record_built _ ["channel_idx", "epsilon", "momentum"]
        (format.extent channel :: [epsilon, momentum].map format.float) ?_
      exact List.forall_mem_cons.mpr ⟨.extent channel, float_list_built [epsilon, momentum]⟩
  | localResponseNormalization halfWindow alpha beta k =>
      refine tagged_record_built _ ["half_window_size", "alpha", "beta", "k"]
        (format.extent halfWindow :: [alpha, beta, k].map format.float) ?_
      exact List.forall_mem_cons.mpr ⟨.extent halfWindow, float_list_built [alpha, beta, k]⟩
  | arithmetic op => exact .tagged _ _ (.text _)
  | pow exponent => exact tagged_member_built _ _ _ (.float exponent)
  | splat value => exact tagged_member_built _ _ _ (.float value)
  | quantizationProfile profiled => exact tagged_member_built _ _ _ (.text profiled)
  | topK k => exact tagged_member_built _ _ _ (.extent k)
  | _ => exact .text _

end Built

section Back

variable {J : Type} {format : JsonFormat J} (lawful : format.Lawful)

include lawful

theorem bare_operator_back (tag : String) (operator : Operator)
    (known : Operator.ofBareTag? tag = some operator) :
    Operator.ofJson? format (format.text tag) = some operator := by
  rw [Operator.ofJson?, lawful.bare]
  simp only [known, JsonFormat.isBare, if_true]

theorem tagged_operator_back (tag : String) (payload : J) (loaded : Operator.ofBareTag? tag = none) :
    Operator.ofJson? format (format.tagged tag payload) = Operator.ofPayload? format tag payload := by
  rw [Operator.ofJson?, lawful.tagged]
  simp only [loaded]

theorem only_member_back (key : String) (value : J) :
    Operator.onlyMember? format key (format.record [(key, value)]) = some value := by
  have members : format.allMembers? [key] (format.record [(key, value)]) = some [value] :=
    all_members_back lawful [key] [value] (List.nodup_singleton key) rfl
  simp only [Operator.onlyMember?, members]

theorem member_payload_back {α : Type} (key : String) (value : J) (read? : J → Option α)
    (make : α → Operator) :
    ((Operator.onlyMember? format key (format.record [(key, value)])).bind read?).map make =
      (read? value).map make := by
  rw [only_member_back lawful, Option.bind_some]

theorem window_back (window : Window) :
    Window.ofMembers? format (format.extent window.kernel) (format.extent window.stride)
      (format.extent window.pad) = some window := by
  rw [Window.ofMembers?, lawful.extent, lawful.extent, lawful.extent]

theorem arithmetic_back (op : Arithmetic) : Arithmetic.ofJson? format (op.toJson format) = some op := by
  rw [Arithmetic.ofJson?, Arithmetic.toJson, bare_choice_back lawful]
  cases op <;> rfl

theorem convolution_back (window : Window) (depth : Extent) :
    Operator.readConvolution? format
        (format.record (window.fields format ++ [("depth", format.extent depth)])) =
      some (.convolution window depth) := by
  have members : format.allMembers? ["kernel", "stride", "pad", "depth"]
      (format.record (window.fields format ++ [("depth", format.extent depth)])) =
      some [format.extent window.kernel, format.extent window.stride, format.extent window.pad,
        format.extent depth] :=
    all_members_back lawful ["kernel", "stride", "pad", "depth"] [_, _, _, _] (by decide) rfl
  simp only [Operator.readConvolution?, members, window_back lawful, lawful.extent]

theorem window_record_back (window : Window) :
    Window.ofJson? format (format.record (window.fields format)) = some window := by
  have members : format.allMembers? ["kernel", "stride", "pad"] (format.record (window.fields format)) =
      some [format.extent window.kernel, format.extent window.stride, format.extent window.pad] :=
    all_members_back lawful ["kernel", "stride", "pad"] [_, _, _] (by decide) rfl
  simp only [Window.ofJson?, members, window_back lawful]

theorem broadcast_back (shape : Dims) (axis : Extent) :
    Operator.readBroadcast? format
        (format.record [("shape", format.extents shape), ("axis", format.extent axis)]) =
      some (.broadcast shape axis) := by
  have members : format.allMembers? ["shape", "axis"]
      (format.record [("shape", format.extents shape), ("axis", format.extent axis)]) =
      some [format.extents shape, format.extent axis] :=
    all_members_back lawful ["shape", "axis"] [_, _] (by decide) rfl
  simp only [Operator.readBroadcast?, members, extents_back lawful, lawful.extent]

theorem batch_normalization_back (channel : Extent) (epsilon momentum : Binary32) :
    Operator.readBatchNormalization? format (format.record [("channel_idx", format.extent channel),
        ("epsilon", format.float epsilon), ("momentum", format.float momentum)]) =
      if AllFinite [epsilon, momentum] then some (.batchNormalization channel epsilon momentum)
      else none := by
  have members : format.allMembers? ["channel_idx", "epsilon", "momentum"]
      (format.record [("channel_idx", format.extent channel), ("epsilon", format.float epsilon),
        ("momentum", format.float momentum)]) =
      some [format.extent channel, format.float epsilon, format.float momentum] :=
    all_members_back lawful ["channel_idx", "epsilon", "momentum"] [_, _, _] (by decide) rfl
  simp only [Operator.readBatchNormalization?, members, lawful.extent, float_back lawful]
  by_cases first : epsilon.isFinite = true
  · by_cases second : momentum.isFinite = true
    · simp [first, second, all_finite_cons, all_finite_nil]
    · simp [first, second, all_finite_cons]
  · simp [first, all_finite_cons]

theorem local_response_normalization_back (halfWindow : Extent) (alpha beta k : Binary32) :
    Operator.readLocalResponseNormalization? format
        (format.record [("half_window_size", format.extent halfWindow), ("alpha", format.float alpha),
          ("beta", format.float beta), ("k", format.float k)]) =
      if AllFinite [alpha, beta, k] then some (.localResponseNormalization halfWindow alpha beta k)
      else none := by
  have members : format.allMembers? ["half_window_size", "alpha", "beta", "k"]
      (format.record [("half_window_size", format.extent halfWindow), ("alpha", format.float alpha),
        ("beta", format.float beta), ("k", format.float k)]) =
      some [format.extent halfWindow, format.float alpha, format.float beta, format.float k] :=
    all_members_back lawful ["half_window_size", "alpha", "beta", "k"] [_, _, _, _] (by decide) rfl
  simp only [Operator.readLocalResponseNormalization?, members, lawful.extent, float_back lawful]
  by_cases first : alpha.isFinite = true
  · by_cases second : beta.isFinite = true
    · by_cases third : k.isFinite = true
      · simp [first, second, third, all_finite_cons, all_finite_nil]
      · simp [first, second, third, all_finite_cons]
    · simp [first, second, all_finite_cons]
  · simp [first, all_finite_cons]

theorem payload_back (operator : Operator) (tag : String) (payload : J)
    (written : operator.toJson format = format.tagged tag payload)
    (loaded : Operator.ofBareTag? tag = none) (floatless : operator.floats = [])
    (read : Operator.ofPayload? format tag payload = some operator) :
    Operator.ofJson? format (operator.toJson format) =
      if AllFinite operator.floats then some operator else none := by
  rw [written, tagged_operator_back lawful tag payload loaded, floatless, if_pos all_finite_nil, read]

theorem bare_back (operator : Operator) (tag : String)
    (written : operator.toJson format = format.text tag)
    (known : Operator.ofBareTag? tag = some operator) (floatless : operator.floats = []) :
    Operator.ofJson? format (operator.toJson format) =
      if AllFinite operator.floats then some operator else none := by
  rw [written, bare_operator_back lawful tag operator known, floatless, if_pos all_finite_nil]

theorem operator_back (operator : Operator) :
    Operator.ofJson? format (operator.toJson format) =
      if AllFinite operator.floats then some operator else none := by
  have extents {make : Dims → Operator} (key : String) (dims : Dims) :
      ((Operator.onlyMember? format key (format.record [(key, format.extents dims)])).bind
        format.extents?).map make = some (make dims) := by
    rw [member_payload_back lawful, extents_back lawful, Option.map_some]
  have extent {make : Extent → Operator} (key : String) (n : Extent) :
      ((Operator.onlyMember? format key (format.record [(key, format.extent n)])).bind
        format.extent?).map make = some (make n) := by
    rw [member_payload_back lawful, lawful.extent, Option.map_some]
  cases operator with
  | convolution window depth =>
      exact payload_back lawful _ "Convolution" _ rfl rfl rfl (convolution_back lawful window depth)
  | pool method window =>
      have read := window_record_back lawful window
      cases method with
      | max =>
          exact payload_back lawful _ "PoolMax" _ rfl rfl rfl
            (congrArg (Option.map (Operator.pool .max)) read)
      | avg =>
          exact payload_back lawful _ "PoolAvg" _ rfl rfl rfl
            (congrArg (Option.map (Operator.pool .avg)) read)
  | activation curve =>
      cases curve with
      | relu => exact bare_back lawful _ "Relu" rfl rfl rfl
      | sigmoid => exact bare_back lawful _ "Sigmoid" rfl rfl rfl
      | tanh => exact bare_back lawful _ "Tanh" rfl rfl rfl
  | reshape dims => exact payload_back lawful _ "Reshape" _ rfl rfl rfl (extents "dims" dims)
  | transpose shuffle =>
      exact payload_back lawful _ "Transpose" _ rfl rfl rfl (extents "shuffle" shuffle)
  | broadcast shape axis =>
      exact payload_back lawful _ "Broadcast" _ rfl rfl rfl (broadcast_back lawful shape axis)
  | concat axis => exact payload_back lawful _ "Concat" _ rfl rfl rfl (extent "axis" axis)
  | slice start => exact payload_back lawful _ "Slice" _ rfl rfl rfl (extents "start" start)
  | batchNormalization channel epsilon momentum =>
      exact (tagged_operator_back lawful _ _ rfl).trans
        (batch_normalization_back lawful channel epsilon momentum)
  | localResponseNormalization halfWindow alpha beta k =>
      exact (tagged_operator_back lawful _ _ rfl).trans
        (local_response_normalization_back lawful halfWindow alpha beta k)
  | arithmetic op =>
      exact payload_back lawful _ "Arithmetic" _ rfl rfl rfl
        (congrArg (Option.map Operator.arithmetic) (arithmetic_back lawful op))
  | pow exponent =>
      refine (tagged_operator_back lawful "Pow" _ rfl).trans ?_
      exact (member_payload_back lawful "exp" _ _ Operator.pow).trans
        (float_payload_back lawful Operator.pow exponent)
  | splat value =>
      refine (tagged_operator_back lawful "Splat" _ rfl).trans ?_
      exact (member_payload_back lawful "value" _ _ Operator.splat).trans
        (float_payload_back lawful Operator.splat value)
  | quantizationProfile profiled =>
      refine payload_back lawful _ "QuantizationProfile" _ rfl rfl rfl ?_
      refine (member_payload_back lawful "profiled_node_name" _ _ Operator.quantizationProfile).trans ?_
      rw [lawful.text, Option.map_some]
  | topK k => exact payload_back lawful _ "TopK" _ rfl rfl rfl (extent "k" k)
  | _ => exact bare_back lawful _ _ rfl rfl rfl

end Back

section Finite

variable {J : Type} {format : JsonFormat J} (payload : J) (operator : Operator)

theorem bare_tag_floatless (tag : String) (read : Operator.ofBareTag? tag = some operator) :
    operator.floats = [] := by
  rw [Operator.ofBareTag?.eq_def] at read
  split at read <;> cases read <;> rfl

theorem convolution_floatless (read : Operator.readConvolution? format payload = some operator) :
    AllFinite operator.floats := by
  rw [Operator.readConvolution?] at read
  split at read
  · split at read
    · cases read
      exact all_finite_nil
    · cases read
  · cases read

theorem broadcast_floatless (read : Operator.readBroadcast? format payload = some operator) :
    AllFinite operator.floats := by
  rw [Operator.readBroadcast?] at read
  split at read
  · split at read
    · cases read
      exact all_finite_nil
    · cases read
  · cases read

theorem made_floatless {α : Type} (make : α → Operator) (found : Option α)
    (floatless : ∀ x, (make x).floats = [])
    (read : found.map make = some operator) : AllFinite operator.floats := by
  obtain ⟨x, _, rfl⟩ := Option.map_eq_some_iff.mp read
  rw [floatless]
  exact all_finite_nil

variable (finite : format.ReadsFinite)

include finite

theorem only_float_finite (key : String) (x : Binary32)
    (read : (Operator.onlyMember? format key payload).bind format.float? = some x) :
    x.isFinite = true := by
  obtain ⟨value, _, found⟩ := Option.bind_eq_some_iff.mp read
  exact finite value x found

theorem batch_normalization_finite
    (read : Operator.readBatchNormalization? format payload = some operator) :
    AllFinite operator.floats := by
  rw [Operator.readBatchNormalization?] at read
  split at read
  · split at read
    · rename_i first second
      cases read
      simp [Operator.floats, all_finite_cons, all_finite_nil, finite _ _ first, finite _ _ second]
    · cases read
  · cases read

theorem local_response_normalization_finite
    (read : Operator.readLocalResponseNormalization? format payload = some operator) :
    AllFinite operator.floats := by
  rw [Operator.readLocalResponseNormalization?] at read
  split at read
  · split at read
    · rename_i first second third
      cases read
      simp [Operator.floats, all_finite_cons, all_finite_nil, finite _ _ first, finite _ _ second,
        finite _ _ third]
    · cases read
  · cases read

theorem payload_finite (tag : String) (read : Operator.ofPayload? format tag payload = some operator) :
    AllFinite operator.floats := by
  rw [Operator.ofPayload?.eq_def] at read
  split at read
  · exact convolution_floatless payload operator read
  · exact made_floatless operator _ _ (fun _ => rfl) read
  · exact made_floatless operator _ _ (fun _ => rfl) read
  · exact made_floatless operator _ _ (fun _ => rfl) read
  · exact made_floatless operator _ _ (fun _ => rfl) read
  · exact broadcast_floatless payload operator read
  · exact made_floatless operator _ _ (fun _ => rfl) read
  · exact made_floatless operator _ _ (fun _ => rfl) read
  · exact batch_normalization_finite payload operator finite read
  · exact local_response_normalization_finite payload operator finite read
  · exact made_floatless operator _ _ (fun _ => rfl) read
  · exact made_of_float _ _ operator Operator.floats (fun _ => rfl)
      (only_float_finite payload finite "exp") read
  · exact made_of_float _ _ operator Operator.floats (fun _ => rfl)
      (only_float_finite payload finite "value") read
  · exact made_floatless operator _ _ (fun _ => rfl) read
  · exact made_floatless operator _ _ (fun _ => rfl) read
  · cases read

theorem operator_finite (value : J) (read : Operator.ofJson? format value = some operator) :
    AllFinite operator.floats := by
  rw [Operator.ofJson?] at read
  split at read
  · cases read
  · split at read
    · split at read
      · cases read
        rename_i bare
        rw [bare_tag_floatless operator _ bare]
        exact all_finite_nil
      · cases read
    · exact payload_finite _ operator finite _ read
    · cases read

end Finite

theorem operator_sound {J : Type} {format : JsonFormat J} (lawful : format.Lawful) :
    (Operator.stored format).Sound where
  built := operator_built
  back operator _ := operator_back lawful operator
  fits _ _ _ := trivial
  finite finite value operator read := operator_finite operator finite value read

end TensorGraph
