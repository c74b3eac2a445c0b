import Mathlib.Algebra.BigOperators.Group.List.Basic
import Mathlib.Algebra.Order.Field.Basic
import Mathlib.Algebra.Order.Ring.Rat
import Mathlib.Data.Rat.Sqrt
import Mathlib.Order.Bounds.Basic
import Mathlib.Tactic.Linarith
import Mathlib.Tactic.Ring
import PreimageSearch.Proofs.StateVector

/-!
# Amplification in exact arithmetic

Over an ordered field, `squares state` is the sum of the squared amplitudes. Flipping signs keeps
it, and so does the reflection about the mean, so every round keeps it (`squares_round`) and it
stays one from the uniform state on (`squares_amplified`). A threshold below one is therefore always
crossed, at the least index whose squares up to it exceed the threshold (`exists_crossing`), and the
amplitude there is not zero.
-/

namespace PreimageSearch

/-- The operations on amplitudes are those of the ordered field. Square roots and the points that
words select are left open. -/
class Amplitude.Exact (K : Type) [Field K] [LinearOrder K] [Amplitude K] : Prop where
  ofNat_eq (n : Nat) : (Amplitude.ofNat n : K) = n
  add_eq (a b : K) : Amplitude.add a b = a + b
  sub_eq (a b : K) : Amplitude.sub a b = a - b
  mul_eq (a b : K) : Amplitude.mul a b = a * b
  div_eq (a b : K) : Amplitude.div a b = a / b
  neg_eq (a : K) : Amplitude.neg a = -a
  less_iff (a b : K) : Amplitude.less a b = true ↔ a < b

/-- Amplitudes in an ordered field, with given square roots and points. -/
@[reducible]
def Amplitude.ofField (K : Type) [Field K] [LinearOrder K] (sqrt : K → K) (point : UInt64 → K) :
    Amplitude K where
  ofNat n := n
  add := (· + ·)
  sub := (· - ·)
  mul := (· * ·)
  div := (· / ·)
  neg := (- ·)
  sqrt := sqrt
  less a b := a < b
  point := point

theorem Amplitude.exact_ofField (K : Type) [Field K] [LinearOrder K] (sqrt : K → K)
    (point : UInt64 → K) :
    letI := Amplitude.ofField K sqrt point
    Amplitude.Exact K :=
  letI := Amplitude.ofField K sqrt point
  ⟨fun _ => rfl, fun _ _ => rfl, fun _ _ => rfl, fun _ _ => rfl, fun _ _ => rfl, fun _ => rfl,
    fun _ _ => decide_eq_true_iff⟩

namespace StateVector

open Amplitude

variable {K : Type} [Field K]

/-- The sum of the squared amplitudes. -/
def squares (state : List K) : K :=
  (state.map fun amplitude => amplitude * amplitude).sum

@[simp]
theorem squares_nil : squares ([] : List K) = 0 :=
  rfl

@[simp]
theorem squares_cons (amplitude : K) (rest : List K) :
    squares (amplitude :: rest) = amplitude * amplitude + squares rest := by
  simp [squares]

theorem squares_append (first second : List K) :
    squares (first ++ second) = squares first + squares second := by
  simp [squares]

theorem squares_replicate (count : Nat) (amplitude : K) :
    squares (List.replicate count amplitude) = amplitude * amplitude * count := by
  simp [squares, mul_comm]

/-- Reflecting about half of `doubled` changes the squares by a multiple of the error that
`doubled` makes as twice the mean. -/
theorem squares_map_sub (doubled : K) (state : List K) :
    squares (state.map fun amplitude => doubled - amplitude) =
      squares state + doubled * (doubled * state.length - 2 * state.sum) := by
  induction state with
  | nil => simp
  | cons amplitude rest ih =>
    simp only [List.map_cons, squares_cons, ih, List.sum_cons, List.length_cons, Nat.cast_succ]
    ring

/-! ## Rounds -/

section Rounds

variable [LinearOrder K] [Amplitude K] [Exact K]

theorem mean_eq (size : Nat) (state : List K) : mean size state = state.sum / size := by
  have added : (Amplitude.add : K → K → K) = (· + ·) := by
    funext a b
    exact Exact.add_eq a b
  rw [mean, Exact.div_eq, Exact.ofNat_eq, Exact.ofNat_eq, added, Nat.cast_zero,
    List.sum_eq_foldl]

theorem uniform_eq_replicate (marked : List Bool) :
    (uniform marked : List K) =
      List.replicate marked.length (1 / Amplitude.sqrt (marked.length : K)) := by
  simp [uniform, Exact.div_eq, Exact.ofNat_eq, List.map_const']

theorem squares_flip {marked : List Bool} {state : List K} (h : state.length = marked.length) :
    squares (flip marked state) = squares state := by
  induction marked generalizing state with
  | nil => simp [flip, List.length_eq_zero_iff.1 h]
  | cons isMarked marked ih =>
    obtain _ | ⟨amplitude, rest⟩ := state
    · cases h
    have kept : squares (flip marked rest) = squares rest := ih (Nat.succ.inj h)
    have head : flip (isMarked :: marked) (amplitude :: rest) =
        (if isMarked then -amplitude else amplitude) :: flip marked rest := by
      simp [flip, Exact.neg_eq]
    rw [head, squares_cons, squares_cons, kept]
    cases isMarked <;> simp

variable [IsStrictOrderedRing K]

theorem squares_reflect {size : Nat} {state : List K} (h : state.length = size)
    (inhabited : 0 < size) : squares (reflect size state) = squares state := by
  have nonzero : (size : K) ≠ 0 := Nat.cast_ne_zero.2 inhabited.ne'
  have balanced : mean size state * size = state.sum := by
    rw [mean_eq, div_mul_cancel₀ _ nonzero]
  have reflected : reflect size state =
      state.map fun amplitude => 2 * mean size state - amplitude := by
    simp [reflect, Exact.sub_eq, Exact.mul_eq, Exact.ofNat_eq]
  rw [reflected, squares_map_sub, h, ← balanced]
  ring

/-- A round keeps the sum of the squared amplitudes. -/
theorem squares_round {marked : List Bool} {state : List K} (h : state.length = marked.length)
    (inhabited : 0 < marked.length) : squares (round marked state) = squares state := by
  have flipped : (flip marked state).length = marked.length := by simp [flip, h]
  rw [round, squares_reflect flipped inhabited, squares_flip h]

theorem squares_rounds {marked : List Bool} (inhabited : 0 < marked.length) (count : Nat)
    {state : List K} (h : state.length = marked.length) :
    squares (rounds marked count state) = squares state := by
  induction count generalizing state with
  | zero => rfl
  | succ count ih => rw [rounds, ih (length_round h), squares_round h inhabited]

/-- The squares of an amplified state add up to one. -/
theorem squares_amplified {marked : List Bool} (inhabited : 0 < marked.length) {initial : K}
    (prepared : initial = 1 / Amplitude.sqrt (marked.length : K))
    (unit : initial * initial * marked.length = 1) (count : Nat) :
    squares (rounds marked count (uniform marked : List K)) = 1 := by
  rw [squares_rounds inhabited count (length_uniform marked), uniform_eq_replicate, ← prepared,
    squares_replicate, unit]

end Rounds

/-! ## Measuring -/

section Measuring

variable [LinearOrder K]

/-- The indices at which the squares so far, the one at the index included, exceed the threshold. -/
def Exceeding (threshold : K) (state : List K) : Set Nat :=
  {index | index < state.length ∧ threshold < squares (state.take (index + 1))}

/-- The squares first exceed a threshold at an amplitude that is not zero. -/
theorem exists_amplitude_of_isLeast {threshold : K} {state : List K} {index : Nat}
    (nonneg : 0 ≤ threshold) (h : IsLeast (Exceeding threshold state) index) :
    ∃ amplitude, state[index]? = some amplitude ∧ amplitude ≠ 0 := by
  obtain ⟨⟨inside, exceeds⟩, least⟩ := h
  have before : squares (state.take index) ≤ threshold := by
    obtain _ | previous := index
    · simpa using nonneg
    · exact not_lt.1 fun sooner => Nat.not_succ_le_self _ (least ⟨by omega, sooner⟩)
  refine ⟨state[index], List.getElem?_eq_getElem inside, fun zero => ?_⟩
  rw [List.take_add_one, List.getElem?_eq_getElem inside, zero, squares_append] at exceeds
  simp only [Option.toList_some, squares_cons, squares_nil, mul_zero, add_zero] at exceeds
  exact absurd exceeds (not_lt.2 before)

variable [IsStrictOrderedRing K]

theorem isLeast_exceeding_cons {threshold amplitude : K} {rest : List K} {index : Nat}
    (missed : amplitude * amplitude ≤ threshold)
    (h : IsLeast (Exceeding (threshold - amplitude * amplitude) rest) index) :
    IsLeast (Exceeding threshold (amplitude :: rest)) (index + 1) := by
  obtain ⟨⟨inside, exceeds⟩, least⟩ := h
  refine ⟨⟨Nat.succ_lt_succ inside, ?_⟩, ?_⟩
  · rw [List.take_succ_cons, squares_cons]
    linarith
  · rintro (_ | other) ⟨inside, exceeds⟩
    · rw [List.take_succ_cons, squares_cons, List.take_zero, squares_nil, add_zero] at exceeds
      exact absurd exceeds (not_lt.2 missed)
    · rw [List.take_succ_cons, squares_cons] at exceeds
      exact Nat.succ_le_succ (least ⟨Nat.lt_of_succ_lt_succ inside, by linarith⟩)

/-- A threshold below the sum of the squares is crossed at the least index that exceeds it. -/
theorem exists_crossing [Amplitude K] [Exact K] {threshold : K} {state : List K}
    (nonneg : 0 ≤ threshold) (below : threshold < squares state) (start : Nat) :
    ∃ index, crossing? threshold start state = some (start + index) ∧
      IsLeast (Exceeding threshold state) index := by
  induction state generalizing threshold start with
  | nil => exact absurd below (not_lt.2 nonneg)
  | cons amplitude rest ih =>
    rw [squares_cons] at below
    simp only [crossing?, Exact.sub_eq, Exact.mul_eq, Exact.ofNat_eq, Exact.less_iff,
      Nat.cast_zero, sub_neg]
    by_cases crossed : threshold < amplitude * amplitude
    · refine ⟨0, by rw [if_pos crossed, Nat.add_zero], ⟨by simp, ?_⟩, fun _ _ => Nat.zero_le _⟩
      rw [List.take_succ_cons, squares_cons, List.take_zero, squares_nil, add_zero]
      exact crossed
    · rw [not_lt] at crossed
      -- What is left of the threshold is still below what is left of the squares.
      obtain ⟨index, found, least⟩ := ih (sub_nonneg.2 crossed) (by linarith) (start + 1)
      refine ⟨index + 1, ?_, isLeast_exceeding_cons crossed least⟩
      rw [if_neg (not_lt.2 crossed), found]
      congr 1
      omega

end Measuring

/-- From a uniform state whose squares add up to one, with amplitudes of either sign, every round
keeps the sum of the squares. So a threshold in the unit interval selects the least index whose
squares up to it exceed the threshold; it is found before the amplitudes run out, and its own
amplitude is not zero. -/
theorem measure_isLeast (K : Type) [Field K] [LinearOrder K] [IsStrictOrderedRing K] [Amplitude K]
    [Exact K] (marked : List Bool) (inhabited : 1 ≤ marked.length) (initial : K)
    (prepared : initial = 1 / Amplitude.sqrt (marked.length : K))
    (unit : initial * initial * marked.length = 1) (iterations : Nat) (threshold : K)
    (nonneg : 0 ≤ threshold) (below : threshold < 1) :
    let state : List K := rounds marked iterations (uniform marked)
    let index := measure threshold state
    (∀ state : List K, state.length = marked.length →
      squares (round marked state) = squares state) ∧
    (∀ count, squares (rounds marked count (uniform marked : List K)) = 1) ∧
    IsLeast {i | i < marked.length ∧ threshold < squares (state.take (i + 1))} index ∧
    crossing? threshold 0 state = some index ∧
    (∃ amplitude, state[index]? = some amplitude ∧ amplitude ≠ 0) ∧
    ∀ word, (point word : K) = threshold → amplifyAndMeasure K marked iterations word = index := by
  intro state index
  have total : squares state = 1 := squares_amplified inhabited prepared unit iterations
  have kept : state.length = marked.length := length_rounds iterations (length_uniform marked)
  obtain ⟨found, crossed, least⟩ := exists_crossing nonneg (total.symm ▸ below) 0
  rw [Nat.zero_add] at crossed
  have selected : index = found := by
    show (crossing? threshold 0 state).getD _ = found
    rw [crossed, Option.getD_some]
  rw [selected]
  refine ⟨fun state h => squares_round h inhabited,
    squares_amplified inhabited prepared unit, ?_, crossed,
    exists_amplitude_of_isLeast nonneg least, ?_⟩
  · rw [← kept]
    exact least
  · rintro word rfl
    exact selected

/-- One round moves all of the amplitude to the one marked input of four, and the lowest threshold
passes over the empty one before it. -/
theorem measure_isLeast_four :
    let _ : Amplitude ℚ := .ofField ℚ Rat.sqrt fun word => (word >>> 11).toNat / 2 ^ 53
    let marked := [false, true, false, false]
    let state : List ℚ := rounds marked 1 (uniform marked)
    1 ≤ marked.length ∧ (1 / 2 : ℚ) = 1 / Amplitude.sqrt (marked.length : ℚ) ∧
      (1 / 2 : ℚ) * (1 / 2) * marked.length = 1 ∧ state = [0, 1, 0, 0] ∧ squares state = 1 ∧
      crossing? 0 0 state = some 1 ∧ amplifyAndMeasure ℚ marked 1 0 = 1 := by
  intro amplitudes marked state
  have _ := Amplitude.exact_ofField ℚ Rat.sqrt fun word => (word >>> 11).toNat / 2 ^ 53
  have prepared : (1 / 2 : ℚ) = 1 / Amplitude.sqrt (marked.length : ℚ) := by decide +kernel
  have unit : (1 / 2 : ℚ) * (1 / 2) * marked.length = 1 := by decide +kernel
  have amplified : state = [0, 1, 0, 0] := by decide +kernel
  obtain ⟨-, total, -, crossed, ⟨amplitude, held, nonzero⟩, measured⟩ :=
    measure_isLeast ℚ marked (by decide) (1 / 2) prepared unit 1 0 le_rfl one_pos
  have selected : measure 0 state = 1 := by
    have held : state[measure 0 state]? = some amplitude := held
    generalize measure 0 state = index at held
    rw [amplified] at held
    match index, held with
    | 0, held | 2, held | 3, held => cases held; exact absurd rfl nonzero
    | 1, _ => rfl
    | index + 4, held => cases held
  exact ⟨by decide, prepared, unit, amplified, total 1, crossed.trans (congrArg some selected),
    (measured 0 (by decide +kernel)).trans selected⟩

end StateVector

end PreimageSearch
