import TensorGraph.Graph.Naming

set_option autoImplicit false

namespace TensorGraph

-- The name was made while the counter of names stood below the limit.
def Issued (limit : Nat) (name : String) : Prop :=
  ∃ counter label, counter < limit ∧ name = uniqueName counter label

theorem unique_name_last_part (counter : Nat) (label : String) :
    (uniqueName counter label).toList.reverse.takeWhile (· != '_') =
      (decimalDigits counter).reverse := by
  have plain : ∀ c ∈ (decimalDigits counter).reverse, (c != '_') = true := by
    intro c member
    have digit : c ∈ Nat.toDigits 10 counter := List.mem_reverse.mp member
    exact bne_iff_ne.mpr fun same => Nat.underscore_not_in_toDigits (same ▸ digit)
  rw [uniqueName, String.toList_ofList, List.reverse_append, List.reverse_append, List.append_assoc,
    List.takeWhile_append_of_pos plain]
  simp [nameDelimiter]

theorem unique_name_counter (counter other : Nat) (label text : String)
    (same : uniqueName counter label = uniqueName other text) : counter = other := by
  have parts := unique_name_last_part counter label
  rw [same, unique_name_last_part other text] at parts
  have digits : Nat.toDigits 10 other = Nat.toDigits 10 counter := List.reverse_inj.mp parts
  have numbers := congrArg (fun text => Nat.ofDigitChars 10 text 0) digits
  simpa only [Nat.ofDigitChars_ten_toDigits] using numbers.symm

theorem issued_rises (limit higher : Nat) (name : String) (issued : Issued limit name)
    (rises : limit ≤ higher) :
    Issued higher name := by
  obtain ⟨counter, label, below, same⟩ := issued
  exact ⟨counter, label, Nat.lt_of_lt_of_le below rises, same⟩

theorem next_name_issued (limit : Nat) (label : String) : Issued (limit + 1) (uniqueName limit label) :=
  ⟨limit, label, Nat.lt_succ_self limit, rfl⟩

theorem next_name_unissued (limit : Nat) (label : String) : ¬ Issued limit (uniqueName limit label) := by
  rintro ⟨counter, text, below, same⟩
  rw [unique_name_counter limit counter label text same] at below
  exact Nat.lt_irrefl counter below

-- Names that were made while the counter rose from the lower number to the higher one.
structure NamesBetween (low high : Nat) (names : List String) : Prop where
  rises : low ≤ high
  apart : names.Nodup
  issued : ∀ name ∈ names, Issued high name
  unissued : ∀ name ∈ names, ¬ Issued low name

theorem no_names_between (low high : Nat) (rises : low ≤ high) : NamesBetween low high [] :=
  ⟨rises, List.nodup_nil, by simp, by simp⟩

theorem fewer_names_between (low high higher : Nat) (names fewer : List String)
    (between : NamesBetween low high names)
    (part : fewer.Sublist names) (rises : high ≤ higher) : NamesBetween low higher fewer where
  rises := Nat.le_trans between.rises rises
  apart := between.apart.sublist part
  issued := fun name member => issued_rises high higher name
    (between.issued name (part.subset member)) rises
  unissued := fun name member => between.unissued name (part.subset member)

theorem next_name_between (low high : Nat) (label : String) (first second : List String)
    (between : NamesBetween low high (first ++ second)) :
    NamesBetween low (high + 1) (first ++ uniqueName high label :: second) := by
  have newest := next_name_unissued high label
  have members : ∀ name ∈ first ++ uniqueName high label :: second,
      name = uniqueName high label ∨ name ∈ first ++ second := by
    intro name member
    exact List.mem_cons.mp (List.perm_middle.mem_iff.mp member)
  refine ⟨Nat.le_succ_of_le between.rises, ?_, ?_, ?_⟩
  · refine List.perm_middle.nodup_iff.mpr (List.nodup_cons.mpr ⟨?_, between.apart⟩)
    exact fun listed => newest (between.issued _ listed)
  · intro name member
    rcases members name member with rfl | older
    · exact next_name_issued high label
    · exact issued_rises high _ name (between.issued name older) (Nat.le_succ high)
  · intro name member
    rcases members name member with rfl | older
    · exact fun issued => newest (issued_rises low high _ issued between.rises)
    · exact between.unissued name older

theorem names_between_append (low middle high : Nat) (first second : List String)
    (earlier : NamesBetween low middle first)
    (later : NamesBetween middle high second) : NamesBetween low high (first ++ second) := by
  refine ⟨Nat.le_trans earlier.rises later.rises, ?_, ?_, ?_⟩
  · refine List.nodup_append.mpr ⟨earlier.apart, later.apart, ?_⟩
    rintro name inFirst _ inSecond rfl
    exact later.unissued name inSecond (earlier.issued name inFirst)
  · intro name member
    rcases List.mem_append.mp member with inFirst | inSecond
    · exact issued_rises middle high name (earlier.issued name inFirst) later.rises
    · exact later.issued name inSecond
  · intro name member
    rcases List.mem_append.mp member with inFirst | inSecond
    · exact earlier.unissued name inFirst
    · exact fun issued => later.unissued name inSecond
        (issued_rises low middle name issued earlier.rises)

end TensorGraph
