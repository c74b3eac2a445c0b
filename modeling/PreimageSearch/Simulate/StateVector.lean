/-!
# State vectors

Amplitude amplification on a vector with one real amplitude for each input, and its measurement. The
operations on amplitudes are a parameter: the program runs on floating-point numbers, and the same
definitions can be read over an exact field.
-/

namespace PreimageSearch

/-- The operations on amplitudes. No law is assumed of them. -/
class Amplitude (α : Type) where
  ofNat : Nat → α
  add : α → α → α
  sub : α → α → α
  mul : α → α → α
  div : α → α → α
  neg : α → α
  sqrt : α → α
  less : α → α → Bool
  /-- The point of the unit interval that a random word selects. -/
  point : UInt64 → α

/-- Floating-point amplitudes; a word selects a multiple of `2 ^ -53`. -/
instance : Amplitude Float where
  ofNat n := n.toUInt64.toFloat
  add := Float.add
  sub := Float.sub
  mul := Float.mul
  div := Float.div
  neg := Float.neg
  sqrt := Float.sqrt
  less a b := a < b
  point word := (word >>> 11).toFloat * (1.0 / 9007199254740992.0)

namespace StateVector

open Amplitude

variable {α : Type} [Amplitude α]

/-- The same amplitude for each of the inputs. -/
@[specialize]
def uniform (marked : List Bool) : List α :=
  let amplitude := div (ofNat 1) (sqrt (ofNat marked.length))
  marked.map fun _ => amplitude

/-- Flips the sign at the marked inputs. -/
@[specialize]
def flip (marked : List Bool) (state : List α) : List α :=
  List.zipWith (fun isMarked amplitude => if isMarked then neg amplitude else amplitude)
    marked state

/-- The mean, summed from the first amplitude to the last. -/
@[specialize]
def mean (size : Nat) (state : List α) : α :=
  div (state.foldl add (ofNat 0)) (ofNat size)

/-- Reflects every amplitude about the mean. -/
@[specialize]
def reflect (size : Nat) (state : List α) : List α :=
  let doubled := mul (ofNat 2) (mean size state)
  state.map fun amplitude => sub doubled amplitude

/-- One round: the phase of the oracle, then the reflection. -/
@[specialize]
def round (marked : List Bool) (state : List α) : List α :=
  reflect marked.length (flip marked state)

/-- The state after a number of rounds. -/
@[specialize]
def rounds (marked : List Bool) : Nat → List α → List α
  | 0, state => state
  | count + 1, state => rounds marked count (round marked state)

/-- The first index, counted from `index`, at which the squares so far exceed the threshold. -/
@[specialize]
def crossing? (threshold : α) (index : Nat) : List α → Option Nat
  | [] => none
  | amplitude :: rest =>
    let left := sub threshold (mul amplitude amplitude)
    if less left (ofNat 0) then some index else crossing? left (index + 1) rest

/-- The input that a threshold selects. Where rounding leaves the squares short of the threshold, it
is the last one. -/
@[specialize]
def measure (threshold : α) (state : List α) : Nat :=
  (crossing? threshold 0 state).getD (state.length - 1)

/-- Amplifies the marked inputs from the uniform state and measures with one random word. -/
@[specialize]
def amplifyAndMeasure (α : Type) [Amplitude α] (marked : List Bool) (iterations : Nat)
    (word : UInt64) : Nat :=
  measure (point word : α) (rounds marked iterations (uniform marked))

end StateVector

end PreimageSearch
