set_option autoImplicit false

namespace TensorGraph

-- One turn of a loop: the loop goes on from another state, or it is over.
inductive Turn (σ ρ : Type) where
  | again (state : σ)
  | finished (result : ρ)

namespace Turn

variable {σ ρ : Type}

-- The result of a loop, unless it takes more turns than given.
def loop (turn : σ → Turn σ ρ) : Nat → σ → Option ρ
  | 0, _ => none
  | turns + 1, state =>
      match turn state with
      | again next => loop turn turns next
      | finished result => some result

def Ends (turn : σ → Turn σ ρ) (state : σ) (result : ρ) : Prop :=
  ∃ turns, loop turn turns state = some result

end Turn

variable {σ ρ : Type} (turn : σ → Turn σ ρ)

theorem finished_ends (state : σ) (result : ρ) (finished : turn state = .finished result) :
    Turn.Ends turn state result := by
  refine ⟨1, ?_⟩
  rw [Turn.loop, finished]

theorem again_ends (state next : σ) (result : ρ) (again : turn state = .again next)
    (ends : Turn.Ends turn next result) :
    Turn.Ends turn state result := by
  obtain ⟨turns, later⟩ := ends
  refine ⟨turns + 1, ?_⟩
  rw [Turn.loop, again]
  exact later

end TensorGraph
