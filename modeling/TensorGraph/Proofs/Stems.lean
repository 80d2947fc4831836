import TensorGraph.Network.Action
import TensorGraph.Proofs.Naming

set_option autoImplicit false

namespace TensorGraph

-- What is left of a stem once a name with it is requested again. An underscore at its end reads as the
-- start of the delimiter that was appended, so it is lost.
def settledStem (stem : List Char) : List Char :=
  if stem.getLast? = some '_' then stem.dropLast else stem

def numberedName (stem : List Char) (counter : Nat) : String :=
  String.ofList (stem ++ (nameDelimiter ++ decimalDigits counter))

namespace Network

-- The names of a chain that requests each name as it was issued before. Any actions stand between two
-- requests.
def reissued (settings : Settings) (network : Network) (name : String) : List (List Action) → List String
  | [] => []
  | pause :: rest =>
      let issued := (network.run settings pause).freshName name
      issued.1 :: issued.2.reissued settings issued.1 rest

end Network

theorem name_stem_starts (text : List Char) : nameStem text <+: text := by
  induction text with
  | nil => exact List.prefix_rfl
  | cons c rest ih =>
      rw [nameStem]
      split
      · exact List.nil_prefix
      · exact (List.prefix_cons_inj c).mpr ih

theorem name_stem_undivided (text : List Char) : ¬ nameDelimiter <:+: nameStem text := by
  induction text with
  | nil => decide
  | cons c rest ih =>
      rw [nameStem]
      split
      · decide
      · rename_i unmatched
        intro divided
        rcases List.infix_cons_iff.mp divided with first | later
        · have grown : c :: nameStem rest <+: c :: rest :=
            (List.prefix_cons_inj c).mpr (name_stem_starts rest)
          exact unmatched (List.isPrefixOf_iff_prefix.mpr (first.trans grown))
        · exact ih later

-- Past the end of such a stem no delimiter starts before the one that was appended.
theorem name_stem_append (stem rest : List Char) (undivided : ¬ nameDelimiter <:+: stem)
    (closed : stem.getLast? ≠ some '_') : nameStem (stem ++ (nameDelimiter ++ rest)) = stem := by
  induction stem with
  | nil => rfl
  | cons c others ih =>
      have unmatched : ¬ nameDelimiter <+: c :: (others ++ (nameDelimiter ++ rest)) := by
        intro first
        cases others with
        | nil =>
            obtain ⟨same, _⟩ := List.cons_prefix_cons.mp first
            exact closed (by rw [same]; rfl)
        | cons d others =>
            obtain ⟨sameFirst, second⟩ := List.cons_prefix_cons.mp first
            obtain ⟨sameSecond, _⟩ := List.cons_prefix_cons.mp second
            subst c d
            exact undivided (List.prefix_append nameDelimiter others).isInfix
      have otherwise : ¬ nameDelimiter <:+: others := fun inside => undivided (List.infix_cons inside)
      have othersClosed : others.getLast? ≠ some '_' := by
        cases others with
        | nil => simp
        | cons d others => simpa using closed
      rw [List.cons_append, nameStem, if_neg (mt List.isPrefixOf_iff_prefix.mp unmatched),
        ih otherwise othersClosed]

section Settling

variable (stem : List Char) (undivided : ¬ nameDelimiter <:+: stem)

include undivided

theorem settled_stem_closed : (settledStem stem).getLast? ≠ some '_' := by
  unfold settledStem
  split
  · rename_i ends
    intro again
    obtain ⟨shorter, rfl⟩ := List.getLast?_eq_some_iff.mp ends
    rw [List.dropLast_concat] at again
    obtain ⟨start, rfl⟩ := List.getLast?_eq_some_iff.mp again
    exact undivided ⟨start, [], by simp [nameDelimiter]⟩
  · assumption

theorem settled_stem_undivided : ¬ nameDelimiter <:+: settledStem stem := by
  unfold settledStem
  split
  · exact fun inside => undivided (inside.trans (List.dropLast_prefix stem).isInfix)
  · exact undivided

theorem name_stem_numbered (rest : List Char) :
    nameStem (stem ++ (nameDelimiter ++ rest)) = settledStem stem := by
  by_cases ends : stem.getLast? = some '_'
  · obtain ⟨shorter, rfl⟩ := List.getLast?_eq_some_iff.mp ends
    have settled : settledStem (shorter ++ ['_']) = shorter := by
      rw [settledStem, if_pos ends, List.dropLast_concat]
    have moved : shorter ++ ['_'] ++ (nameDelimiter ++ rest) = shorter ++
        (nameDelimiter ++ '_' :: rest) := by
      simp [nameDelimiter]
    have shorterUndivided := settled_stem_undivided _ undivided
    have shorterClosed := settled_stem_closed _ undivided
    rw [settled] at shorterUndivided shorterClosed
    rw [moved, settled]
    exact name_stem_append shorter _ shorterUndivided shorterClosed
  · rw [settledStem, if_neg ends]
    exact name_stem_append stem rest undivided ends

end Settling

theorem settled_closed_stem (stem : List Char) (closed : stem.getLast? ≠ some '_') :
    settledStem stem = stem :=
  if_neg closed

theorem unique_name_stem (counter : Nat) (requested : String) :
    nameStem (uniqueName counter requested).toList = settledStem (nameStem requested.toList) := by
  rw [uniqueName, String.toList_ofList]
  exact name_stem_numbered _ (name_stem_undivided _) _

theorem reissued_names_numbered (settings : Settings) (network : Network) (name again : String)
    (pauses : List (List Action)) (closed : (nameStem name.toList).getLast? ≠ some '_')
    (member : again ∈ network.reissued settings name pauses) :
    ∃ counter, again = numberedName (nameStem name.toList) counter := by
  induction pauses generalizing network name with
  | nil => cases member
  | cons pause rest ih =>
      have kept : nameStem ((network.run settings pause).freshName name).1.toList =
          nameStem name.toList :=
        (unique_name_stem _ name).trans (settled_closed_stem _ closed)
      rcases List.mem_cons.mp member with first | later
      · exact ⟨_, first⟩
      · have nextClosed := closed
        rw [← kept] at nextClosed
        obtain ⟨counter, numbered⟩ := ih _ _ nextClosed later
        exact ⟨counter, kept ▸ numbered⟩

-- A stem survives exactly when it does not end in an underscore; otherwise it loses that underscore and
-- is stable then.
theorem reissued_names_keep_the_settled_stem (settings : Settings) (network : Network)
    (requested : String) :
    let stem := nameStem requested.toList
    let issued := network.freshName requested
    issued.1 = numberedName stem network.nextSuffix ∧
      (∀ pauses, ∀ name ∈ issued.2.reissued settings issued.1 pauses,
        ∃ counter, name = numberedName (settledStem stem) counter) ∧
      ((∀ pauses, ∀ name ∈ issued.2.reissued settings issued.1 pauses, ∃ counter,
        name = numberedName stem counter) ↔
        stem.getLast? ≠ some '_') := by
  intro stem issued
  have undivided : ¬ nameDelimiter <:+: stem := name_stem_undivided requested.toList
  have issuedStem : nameStem issued.1.toList = settledStem stem :=
    unique_name_stem network.nextSuffix requested
  have settled : ∀ pauses, ∀ name ∈ issued.2.reissued settings issued.1 pauses,
      ∃ counter, name = numberedName (settledStem stem) counter := by
    intro pauses name member
    rw [← issuedStem]
    refine reissued_names_numbered settings issued.2 issued.1 name pauses ?_ member
    rw [issuedStem]
    exact settled_stem_closed stem undivided
  refine ⟨rfl, settled, ?_, ?_⟩
  · intro stable ends
    obtain ⟨counter, kept⟩ := stable [[]] _ (List.mem_singleton.mpr rfl)
    have lost : uniqueName issued.2.nextSuffix issued.1 =
        numberedName (settledStem stem) issued.2.nextSuffix := by
      rw [uniqueName, issuedStem, numberedName]
    -- One name under two stems: its counter is read off its end, so the stems would be equal.
    have same : uniqueName issued.2.nextSuffix issued.1 = uniqueName counter requested := kept
    have counters := unique_name_counter _ _ _ _ same
    rw [lost, counters] at same
    have stems : settledStem stem = stem := List.append_cancel_right (String.ofList_injective same)
    exact settled_stem_closed stem undivided (stems.symm ▸ ends)
  · intro closed
    rw [settled_closed_stem stem closed] at settled
    exact settled

-- The stem of the first name ends in an underscore; the second request cuts in front of it.
theorem underscore_at_the_seam_is_lost :
    let network := Network.run {} .empty []
    let first := network.freshName "a_"
    nameStem "a_".toList = ['a', '_'] ∧ first.1 = numberedName ['a', '_'] 0 ∧
      first.2.reissued {} first.1 [[]] = ["a__1"] ∧ "a__1" = numberedName ['a'] 1 ∧
      ∀ counter, "a__1" ≠ numberedName ['a', '_'] counter := by
  intro network first
  refine ⟨by decide, by decide, by decide, by decide, ?_⟩
  intro counter same
  have counters := unique_name_counter 1 counter "a" "a_" (Eq.trans (by decide) same)
  subst counter
  exact absurd same (by decide)

end TensorGraph
