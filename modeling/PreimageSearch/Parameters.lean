import PreimageSearch.Bits
import PreimageSearch.Targets

/-!
# Search parameters

What a search looks for: the operation, the target sequence, the width of the inputs and the output
to match. Values of this type satisfy all bounds; `SearchParameters.make` reports the first one that
fails.
-/

namespace PreimageSearch

structure SearchParameters where
  operation : String
  targets : TargetSequence
  /-- The width of the search space in bits. -/
  inputWidth : Nat
  outputWidth : Nat
  /-- The output for which an input is wanted. -/
  output : Nat
  minInputWidth_le : Limits.minInputWidth ≤ inputWidth
  inputWidth_le : inputWidth ≤ Limits.maxInputWidth
  outputWidth_pos : 0 < outputWidth
  output_fits : bitLength output ≤ outputWidth
  deriving DecidableEq, Repr

namespace SearchParameters

/-- The parameters given, or the first bound they miss: input width, then output width, then the
size of the output. -/
def make (operation : String) (targets : TargetSequence) (inputWidth outputWidth output : Nat) :
    Except ParameterError SearchParameters :=
  if input : Limits.minInputWidth ≤ inputWidth ∧ inputWidth ≤ Limits.maxInputWidth then
    if width : outputWidth = 0 then .error .zeroOutputWidth
    else if fits : bitLength output ≤ outputWidth then
      .ok ⟨operation, targets, inputWidth, outputWidth, output, input.1, input.2,
        Nat.pos_of_ne_zero width, fits⟩
    else .error (.outputTooWide output outputWidth)
  else .error (.inputWidth inputWidth)

/-- The number of inputs searched. -/
def searchSpace (parameters : SearchParameters) : Nat :=
  twoPow parameters.inputWidth

end SearchParameters

/-- How a search ends. -/
inductive SearchOutcome where
  | found (input : Nat)
  /-- Every attempt measured an input that does not match. -/
  | exhausted
  deriving DecidableEq, Repr

/-- The outcome in one word, the input in hexadecimal. -/
def SearchOutcome.text : SearchOutcome → String
  | found input => "Found(" ++ Hex.text input ++ ")"
  | exhausted => "Exhausted"

end PreimageSearch
