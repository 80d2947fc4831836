import TensorGraph.Graph.Function

set_option autoImplicit false

/- The nodes of a function that a search has not seen yet, weighed: the measure by which searches end. -/
namespace TensorGraph

namespace Function

def pendingWeight (entries : List (NodeId × Nat)) (seen : NodeId → Bool) (weight : NodeId → Nat) : Nat :=
  match entries with
  | [] => 0
  | entry :: rest => (if seen entry.1 then 0 else weight entry.1) + pendingWeight rest seen weight

theorem pendingWeight_le (entries : List (NodeId × Nat)) (before after : NodeId → Bool)
    (weight : NodeId → Nat) (grows : ∀ id, before id = true → after id = true) :
    pendingWeight entries after weight ≤ pendingWeight entries before weight := by
  induction entries with
  | nil => simp [pendingWeight]
  | cons entry rest ih =>
      simp only [pendingWeight]
      cases earlier : before entry.1 with
      | true => simpa [grows entry.1 earlier] using ih
      | false =>
          simp only [Bool.false_eq_true, if_false]
          split <;> omega

theorem pendingWeight_drop (entries : List (NodeId × Nat)) (before after : NodeId → Bool)
    (weight : NodeId → Nat) (grows : ∀ id, before id = true → after id = true) (id : NodeId)
    (position : Nat) (found : entries.lookup id = some position) (unseen : before id = false)
    (seen : after id = true) :
    pendingWeight entries after weight + weight id ≤ pendingWeight entries before weight := by
  induction entries with
  | nil => simp at found
  | cons entry rest ih =>
      obtain ⟨key, place⟩ := entry
      simp only [pendingWeight]
      by_cases same : id = key
      · subst same
        have others := pendingWeight_le rest before after weight grows
        simp only [unseen, seen, Bool.false_eq_true, if_false, if_true]
        omega
      · have later := ih (by simpa [List.lookup_cons, beq_false_of_ne same] using found)
        cases earlier : before key with
        | true => simpa [grows key earlier] using later
        | false =>
            simp only [Bool.false_eq_true, if_false]
            split <;> omega

theorem lookup_of_node? {function : Function} {id : NodeId} {node : Node}
    (found : function.node? id = some node) :
    ∃ position, function.positions.lookup id = some position := by
  simp only [node?] at found
  split at found
  · exact ⟨_, by assumption⟩
  · simp at found

end Function

end TensorGraph
