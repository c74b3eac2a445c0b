import Mathlib.Logic.Function.Iterate
import PreimageSearch.Simulate.StateVector

/-!
# Measured indices

An attempt measures the uniform state after one round for each iteration (`amplifyAndMeasure_eq`).
Every round keeps one amplitude for each input, and a measurement selects one of them. No law of the
amplitudes is used, so both hold of floating-point numbers, whatever they round to, and also where
no square ever crosses the threshold.
-/

namespace PreimageSearch.StateVector

variable {α : Type} [Amplitude α]

@[simp]
theorem length_uniform (marked : List Bool) : (uniform marked : List α).length = marked.length := by
  simp [uniform]

theorem length_round {marked : List Bool} {state : List α} (h : state.length = marked.length) :
    (round marked state).length = marked.length := by
  simp [round, reflect, flip, h]

theorem length_rounds {marked : List Bool} (count : Nat) {state : List α}
    (h : state.length = marked.length) : (rounds marked count state).length = marked.length := by
  induction count generalizing state with
  | zero => exact h
  | succ count ih => exact ih (length_round h)

/-- The state after a number of rounds comes about by making a round that often. -/
theorem rounds_eq_iterate (marked : List Bool) (count : Nat) (state : List α) :
    rounds marked count state = (round marked)^[count] state := by
  induction count generalizing state with
  | zero => rfl
  | succ count ih => rw [rounds, ih, Function.iterate_succ_apply]

/-- What is measured is the uniform state after as many rounds as there are iterations. -/
theorem amplifyAndMeasure_eq (marked : List Bool) (iterations : Nat) (word : UInt64) :
    amplifyAndMeasure α marked iterations word = measure (Amplitude.point word : α)
      ((round marked)^[iterations] (uniform marked)) := by
  rw [amplifyAndMeasure, rounds_eq_iterate]

theorem crossing?_lt {threshold : α} {index found : Nat} {state : List α}
    (h : crossing? threshold index state = some found) : found < index + state.length := by
  induction state generalizing threshold index with
  | nil => cases h
  | cons amplitude rest ih =>
    simp only [crossing?] at h
    rw [List.length_cons]
    split at h
    · cases h
      omega
    · have := ih h
      omega

theorem measure_lt (threshold : α) {state : List α} (h : 0 < state.length) :
    measure threshold state < state.length := by
  unfold measure
  rcases hc : crossing? threshold 0 state with _ | found
  · exact Nat.sub_lt h Nat.one_pos
  · have := crossing?_lt hc
    simpa using this

/-- A measurement gives the index of an input. -/
theorem amplifyAndMeasure_lt (α : Type) [Amplitude α] {marked : List Bool} (h : 0 < marked.length)
    (iterations : Nat) (word : UInt64) :
    amplifyAndMeasure α marked iterations word < marked.length := by
  have kept : (rounds marked iterations (uniform marked : List α)).length = marked.length :=
    length_rounds iterations (length_uniform marked)
  have inside := measure_lt (Amplitude.point word : α) (by rw [kept]; exact h)
  rwa [kept] at inside

end PreimageSearch.StateVector
