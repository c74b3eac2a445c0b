import Mathlib.Logic.Function.Iterate
import PreimageSearch.Proofs.Continuation

/-!
# One amplitude for each mark

Amplification never tells two inputs with the same mark apart. The uniform state gives every mark
the same amplitude, and a round takes a state with one amplitude for each mark to another one
(`StateVector.round_map`), although the mean in it is a sum over the whole vector. So two amplitudes
determine the state after any number of rounds (`StateVector.rounds_map`). No law of the amplitudes
is used.
-/

namespace PreimageSearch.StateVector

open Amplitude

section Rounds

variable {α : Type} [Amplitude α]

/-- The amplitudes of the two marks after the phase of the oracle. -/
def flipped (amplitudes : Bool → α) (isMarked : Bool) : α :=
  if isMarked then neg (amplitudes isMarked) else amplitudes isMarked

/-- The amplitudes of the two marks after a round. -/
def amplified (marked : List Bool) (amplitudes : Bool → α) (isMarked : Bool) : α :=
  sub (mul (ofNat 2) (mean marked.length (marked.map (flipped amplitudes))))
    (flipped amplitudes isMarked)

theorem flip_map (marked : List Bool) (amplitudes : Bool → α) :
    flip marked (marked.map amplitudes) = marked.map (flipped amplitudes) := by
  rw [flip, List.zipWith_map_right, List.zipWith_self]
  rfl

/-- A round keeps one amplitude for each mark. -/
theorem round_map (marked : List Bool) (amplitudes : Bool → α) :
    round marked (marked.map amplitudes) = marked.map (amplified marked amplitudes) := by
  rw [round, flip_map, reflect, List.map_map]
  rfl

theorem rounds_map (marked : List Bool) (count : Nat) (amplitudes : Bool → α) :
    rounds marked count (marked.map amplitudes) =
      marked.map ((amplified marked)^[count] amplitudes) := by
  induction count generalizing amplitudes with
  | zero => rfl
  | succ count ih => rw [rounds, round_map, ih, Function.iterate_succ_apply]

/-- After any number of rounds there is one amplitude for each mark. -/
theorem exists_rounds_uniform (marked : List Bool) (count : Nat) :
    ∃ amplitudes : Bool → α, rounds marked count (uniform marked) = marked.map amplitudes :=
  ⟨_, rounds_map marked count _⟩

end Rounds

/-- Whatever the operations on amplitudes give, after every round the state has an amplitude for
each input, the same one for inputs with the same mark. What is measured is the state after one
round for each iteration; a measurement selects one of the inputs, and an attempt takes for it the
word at its position, leaving to the others those from the next one on. -/
theorem amplifyAndMeasure_invariants (α : Type) [Amplitude α] (marked : List Bool)
    (inhabited : marked ≠ []) (iterations : Nat) (word : UInt64) :
    (∀ count, let state : List α := rounds marked count (uniform marked)
      state = (round marked)^[count] (uniform marked) ∧
      state.length = marked.length ∧
      (∃ onMarked onOthers, state =
        marked.map fun isMarked => if isMarked then onMarked else onOthers) ∧
      ∀ i j : Nat, marked[i]? = marked[j]? → state[i]? = state[j]?) ∧
    amplifyAndMeasure α marked iterations word =
      measure (point word : α) (rounds marked iterations (uniform marked)) ∧
    amplifyAndMeasure α marked iterations word < marked.length ∧
    ∀ (count : Nat → Nat → Nat) (search : Search) (words : Nat → UInt64) (position : Nat)
      (done : List Measurement) (target : Nat) (rest : List Nat),
      Simulation.walk α count search marked words position done (target :: rest) = (do
        let iterations := count search.parameters.searchSpace target
        let measured := amplifyAndMeasure α marked iterations (words position)
        let matched ← search.oracle.matches measured search.parameters.inputWidth
          search.parameters.output
        let done := ⟨⟨target, iterations⟩, measured, matched⟩ :: done
        if matched then return (done.reverse, .found measured)
        else
          Simulation.walk α count search marked (fun later => words (position + 1 + later)) 0 done
            rest) := by
  refine ⟨fun count => ?_, rfl,
    amplifyAndMeasure_lt α (List.length_pos_iff.2 inhabited) iterations word,
    fun count search words position done target rest => ?_⟩
  · obtain ⟨amplitudes, held⟩ : ∃ amplitudes : Bool → α, _ := exists_rounds_uniform marked count
    refine ⟨rounds_eq_iterate marked count (uniform marked),
      length_rounds count (length_uniform marked), ⟨amplitudes true, amplitudes false, ?_⟩,
      fun i j same => ?_⟩
    · rw [held]
      congr 1
      funext isMarked
      cases isMarked <;> rfl
    · rw [held, List.getElem?_map, List.getElem?_map, same]
  · rw [Simulation.walk]
    simp only [Simulation.walk_shift words (position + 1)]

/-- Of three inputs the two that are not marked keep the same floating-point amplitude. -/
theorem amplifyAndMeasure_invariants_three :
    let marked := [true, false, false]
    let state : List Float := rounds marked 2 (uniform marked)
    marked ≠ [] ∧ state.length = 3 ∧ state[1]? = state[2]? ∧
      amplifyAndMeasure Float marked 2 7 < 3 := by
  intro marked state
  have inhabited : marked ≠ [] := by decide
  obtain ⟨held, -, inside, -⟩ := amplifyAndMeasure_invariants Float marked inhabited 2 7
  obtain ⟨-, number, -, same⟩ := held 2
  exact ⟨inhabited, number, same 1 2 rfl, inside⟩

end PreimageSearch.StateVector
