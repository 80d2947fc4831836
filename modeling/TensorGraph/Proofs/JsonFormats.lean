import TensorGraph.Json.Access
import TensorGraph.Proofs.JsonTexts

set_option autoImplicit false

namespace TensorGraph

namespace Json

theorem float_plain (x : Binary32) : (ofBinary32 x).Plain := by
  rw [ofBinary32]
  split
  · rename_i finite
    exact .real _ _ (BinaryFormat.shortest_decimal_reads_back x.magnitude (of_decide_eq_true finite) _).2
  · exact .null

theorem built_plain (value : Json) (built : format.Built value) : value.Plain := by
  induction built with
  | null => exact .null
  | text text => exact .text text
  | extent n => exact .whole _ _
  | identifier n => exact .whole _ _
  | int32 n => exact .whole _ _
  | float x => exact float_plain x
  | list items all ih => exact .array items ih
  | record fields all ih => exact .record fields ih
  | tagged tag payload built ih => exact .record _ (List.forall_mem_singleton.mpr ih)

theorem float_within (value : Json) (x : Binary32) (read : value.binary32? = some x) :
    x.isFinite = true := by
  rw [binary32?.eq_def] at read
  split at read
  · rename_i negative n
    split at read
    · rename_i wide
      rw [isWideNegative, Bool.and_eq_true, Bool.and_eq_true] at wide
      rw [← Option.some.inj read]
      exact Binary32.through_double_finite negative n (of_decide_eq_true wide.2)
    · exact Binary32.of_decimal_finite negative _ x read
  · exact Binary32.of_decimal_finite _ _ x read
  · cases read

theorem extent_back (extent : Extent) : (ofExtent extent).extent? = some extent := by
  rw [ofExtent, extent?, if_pos extent.toNat_lt, UInt64.ofNat_toNat]

theorem int32_back (offset : Int32) : (ofInt offset.toInt).int32? = some offset := by
  have least := offset.le_toInt
  have most := offset.toInt_lt
  by_cases below : offset.toInt < 0
  · have opposite : -Int32.ofNat offset.toInt.natAbs = offset := by
      have magnitude : (offset.toInt.natAbs : Int) = -offset.toInt := by omega
      rw [← Int32.ofInt_eq_ofNat, ← Int32.ofInt_neg, magnitude, Int.neg_neg, Int32.ofInt_toInt]
    rw [ofInt, decide_eq_true below, int32?, if_pos (by omega), opposite]
  · have same : Int32.ofNat offset.toInt.natAbs = offset := by
      have magnitude : (offset.toInt.natAbs : Int) = offset.toInt := by omega
      rw [← Int32.ofInt_eq_ofNat, magnitude, Int32.ofInt_toInt]
    rw [ofInt, decide_eq_false below, int32?, if_pos (by omega), same]

theorem identifier_back (n : Nat) (fits : n < UInt32.size) :
    (whole false n).identifier? = some n := if_pos fits

theorem identifier_within (value : Json) (n : Nat) (read : value.identifier? = some n) :
    n < UInt32.size := by
  rw [identifier?.eq_def] at read
  split at read
  · split at read
    · rename_i fits
      rwa [← Option.some.inj read]
    · cases read
  · cases read

section Records

variable (fields : List (String × Json)) (key : String)

theorem absent_fields (absent : key ∉ fields.map Prod.fst) :
    (fields.map field).filter (fun field => field.1 == some key) = [] := by
  refine List.filter_eq_nil_iff.mpr (List.forall_mem_map.mpr fun other listed same => absent ?_)
  obtain rfl : other.1 = key := Option.some.inj (beq_iff_eq.mp same)
  exact List.mem_map_of_mem listed

theorem found_field (distinct : (fields.map Prod.fst).Nodup) (value : Json)
    (listed : (key, value) ∈ fields) :
    (fields.map field).filter (fun field => field.1 == some key) = [(some key, value)] := by
  induction fields with
  | nil => cases listed
  | cons first rest ih =>
      rw [List.map_cons, List.nodup_cons] at distinct
      rw [List.map_cons]
      rcases List.mem_cons.mp listed with here | later
      · have missing : key ∉ rest.map Prod.fst := by
          rw [← here] at distinct
          exact distinct.1
        rw [← here, List.filter_cons_of_pos (by simp [field]), absent_fields rest key missing]
        rfl
      · have other : first.1 ≠ key := fun same => distinct.1 (same ▸ List.mem_map_of_mem later)
        rw [List.filter_cons_of_neg (by simp [field, other])]
        exact ih distinct.2 later

theorem member_found (distinct : (fields.map Prod.fst).Nodup) (value : Json)
    (listed : (key, value) ∈ fields) :
    member? (fields.map field) key = some (some value) := by
  rw [member?, found_field fields key distinct value listed]

theorem members_found (distinct : (fields.map Prod.fst).Nodup) :
    members? (fields.map Prod.fst) (record fields) = some (fields.map fun field => some field.2) := by
  have named : (fields.map field).any (fun field => field.1.isNone) = false := by
    simp [field]
  have found : ∀ part : List (String × Json), (∀ entry ∈ part, entry ∈ fields) →
      (part.map Prod.fst).mapM (member? (fields.map field)) =
        some (part.map fun field => some field.2) := by
    intro part within
    induction part with
    | nil => rfl
    | cons entry rest ih =>
        obtain ⟨here, later⟩ := List.forall_mem_cons.mp within
        simp [member_found fields entry.1 distinct entry.2 here, ih later]
  show (if (fields.map field).any (fun field => field.1.isNone) then none
    else (fields.map Prod.fst).mapM (member? (fields.map field))) = _
  rw [named, if_neg (by decide), found fields fun _ => id]

end Records

end Json

theorem format_lawful : Json.format.Lawful where
  reads value built := plain_text_reads_back value (Json.built_plain value built)
  null := rfl
  text _ := rfl
  extent := Json.extent_back
  identifier := Json.identifier_back
  identifierBound := Json.identifier_within
  int32 := Json.int32_back
  list _ := rfl
  record := Json.members_found
  recordNotNull _ := rfl
  bare _ := rfl
  tagged _ _ := rfl
  shortest _ finite := ⟨Json.realLayout.tie, if_pos finite⟩
  nonFinite _ infinite := if_neg (Bool.eq_false_iff.mp infinite)
  nearest _ _ _ found := found
  nullNoFloat := rfl

theorem format_reads_finite : Json.format.ReadsFinite := Json.float_within

end TensorGraph
