import TensorGraph.Graph.Variable

set_option autoImplicit false

namespace TensorGraph

namespace Variables

@[simp] theorem stored_iff (storage : Variables) (v : Variable) :
    v ∈ storage ↔ v ∈ storage.values := Iff.rfl

@[simp] theorem map_values {α : Type} (storage : Variables) (read : Variable → α) :
    storage.map read = storage.values.map read := rfl

@[simp] theorem length_values (storage : Variables) : storage.length = storage.values.length :=
  (List.length_map Prod.snd).symm

def pushAll (storage : Variables) (added : List Variable) : Variables :=
  ⟨storage.entries ++ added.map fun v => (v.id, v)⟩

@[simp] theorem empty_values : ({} : Variables).values = [] := rfl

@[simp] theorem pushed_values (storage : Variables) (id : VariableId) (v : Variable) :
    (storage.push id v).values = storage.values ++ [v] :=
  List.map_append

@[simp] theorem pushed_all_values (storage : Variables) (added : List Variable) :
    (storage.pushAll added).values = storage.values ++ added := by
  rw [values, pushAll, List.map_append, List.map_map]
  exact congrArg (storage.values ++ ·) (List.map_id added)

theorem push_all_nil (storage : Variables) : storage.pushAll [] = storage := by
  rw [pushAll, List.map_nil, List.append_nil]

theorem push_all_append (storage : Variables) (first second : List Variable) :
    (storage.pushAll first).pushAll second = storage.pushAll (first ++ second) := by
  rw [pushAll, pushAll, pushAll, List.append_assoc, List.map_append]

theorem push_all_cons (storage : Variables) (first : Variable) (rest : List Variable) :
    (storage.push first.id first).pushAll rest = storage.pushAll (first :: rest) :=
  push_all_append storage [first] rest

theorem pushed_iff (storage : Variables) (id : VariableId) (added v : Variable) :
    v ∈ storage.push id added ↔ v ∈ storage ∨ v = added := by
  rw [stored_iff, pushed_values, List.mem_append, List.mem_singleton, stored_iff]

theorem found_stored (storage : Variables) (id : VariableId) (v : Variable)
    (found : storage.get? id = some v) :
    v ∈ storage := by
  obtain ⟨before, after, split, _⟩ := List.lookup_eq_some_iff.mp found
  refine List.mem_map.mpr ⟨(id, v), ?_, rfl⟩
  rw [split]
  exact List.mem_append_right before List.mem_cons_self

-- A variable that is stored is found first, whatever is added after it.
theorem pushed_found (storage : Variables) (id other : VariableId) (added v : Variable)
    (found : storage.get? id = some v) :
    (storage.push other added).get? id = some v := by
  rw [get?] at found
  rw [get?, push, List.lookup_append, found, Option.some_or]

theorem pushed_all_elsewhere (storage : Variables) (id : VariableId) (added : List Variable)
    (apart : ∀ v ∈ added, v.id ≠ id) : (storage.pushAll added).get? id = storage.get? id := by
  have absent : (added.map fun v => (v.id, v)).lookup id = none := by
    refine List.lookup_eq_none_iff.mpr fun entry member => ?_
    obtain ⟨v, listed, rfl⟩ := List.mem_map.mp member
    exact bne_iff_ne.mpr (apart v listed).symm
  rw [get?, pushAll, List.lookup_append, absent, Option.or_none]
  rfl

theorem erased_sublist (storage : Variables) (id : VariableId) :
    (storage.erase id).values.Sublist storage.values :=
  List.filter_sublist.map Prod.snd

-- Every variable stands under its own number, so the numbers and the variables tell the same.
def Keyed (storage : Variables) : Prop := ∀ entry ∈ storage.entries, entry.1 = entry.2.id

theorem pushed_keyed (storage : Variables) (v : Variable) (keyed : storage.Keyed) :
    (storage.push v.id v).Keyed := by
  intro entry member
  rcases List.mem_append.mp member with older | last
  · exact keyed entry older
  · rw [List.mem_singleton.mp last]

theorem erased_keyed (storage : Variables) (id : VariableId) (keyed : storage.Keyed) :
    (storage.erase id).Keyed :=
  fun entry member => keyed entry (List.mem_filter.mp member).1

theorem paid_keyed (storage : Variables) (id : VariableId) (payload : Option (List UInt8))
    (keyed : storage.Keyed) :
    (storage.setPayload id payload).Keyed := by
  intro entry member
  obtain ⟨old, older, rfl⟩ := List.mem_map.mp member
  have own := keyed old older
  split
  · exact own
  · exact own

section Own

variable (storage : Variables) (keyed : storage.Keyed)

include keyed

theorem keyed_entries : storage.entries = storage.values.map fun v => (v.id, v) := by
  have own : storage.entries.map (fun entry => (entry.2.id, entry.2)) = storage.entries := by
    refine (List.map_congr_left fun entry member => ?_).trans (List.map_id _)
    rw [← keyed entry member]
    rfl
  rw [values, List.map_map]
  exact own.symm

theorem looked_up (id : VariableId) : storage.get? id = storage.values.find? fun v => v.id == id := by
  rw [get?, keyed_entries storage keyed]
  induction storage.values with
  | nil => rfl
  | cons first rest ih =>
      rw [List.map_cons, List.lookup_cons, List.find?_cons, ih, Bool.beq_comm]

theorem erased_values (id : VariableId) :
    (storage.erase id).values = storage.values.filter fun v => v.id != id := by
  rw [values, erase, keyed_entries storage keyed, List.filter_map, List.map_map]
  exact List.map_id _

theorem paid_values (id : VariableId) (payload : Option (List UInt8)) :
    (storage.setPayload id payload).values =
    storage.values.map fun v => if v.id = id then { v with payload := payload } else v := by
  rw [values, setPayload, keyed_entries storage keyed, List.map_map, List.map_map]
  refine List.map_congr_left fun v _ => ?_
  simp only [Function.comp_apply]
  split <;> rfl

theorem erased_iff (id : VariableId) (v : Variable) :
    v ∈ storage.erase id ↔ v ∈ storage ∧ v.id ≠ id := by
  rw [stored_iff, erased_values storage keyed, List.mem_filter, bne_iff_ne, stored_iff]

theorem paid_iff (id : VariableId) (payload : Option (List UInt8)) (v : Variable) :
    v ∈ storage.setPayload id payload ↔
    ∃ old ∈ storage, (if old.id = id then { old with payload := payload } else old) = v := by
  rw [stored_iff, paid_values storage keyed]
  exact List.mem_map

end Own

end Variables

end TensorGraph
