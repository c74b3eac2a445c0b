import PreimageSearch.Bits
import PreimageSearch.Limits
import PreimageSearch.Text.Hex

/-!
# Assumed target counts

A search makes one attempt for each entry of its target sequence; the entry is the number of
matching inputs that the attempt assumes. A sequence is never empty and never assumes zero targets.
-/

namespace PreimageSearch

/-- Why a target sequence or a set of search parameters is refused. -/
inductive ParameterError where
  | noTargets
  | zeroTarget
  | tooFewTargets (given : Nat)
  | tooManyTargets (given most : Nat)
  | geometricAttempts (given : Nat)
  | inputWidth (given : Nat)
  | zeroOutputWidth
  | outputTooWide (output width : Nat)
  deriving DecidableEq, Repr

/-- The wording of a refusal. -/
def ParameterError.message : ParameterError → String
  | noTargets => "Target sequence must not be empty"
  | zeroTarget => "Target counts must be positive"
  | tooFewTargets given => s!"At least 2 search targets are required, got {given}"
  | tooManyTargets given most => s!"At most {most} search targets are allowed, got {given}"
  | geometricAttempts given =>
    s!"Number of geometric attempts must be between 2 and 31, got {given}"
  | inputWidth given => s!"Input width must be between 1 and 62 bits, got {given}"
  | zeroOutputWidth => "Output width must be positive"
  | outputTooWide output width =>
    "Output " ++ Hex.text output ++ s!" does not fit in {width} bits"

/-- The target counts that the attempts of a search assume, in order. -/
structure TargetSequence where
  counts : List Nat
  nonempty : counts ≠ []
  positive : ∀ t ∈ counts, 0 < t
  deriving DecidableEq, Repr

namespace TargetSequence

/-- Any non-empty list of positive counts; emptiness is reported before a zero. -/
def ofList (counts : List Nat) : Except ParameterError TargetSequence :=
  if empty : counts = [] then .error .noTargets
  else if zero : ∃ t ∈ counts, t = 0 then .error .zeroTarget
  else .ok ⟨counts, empty, fun t member => Nat.pos_of_ne_zero fun h => zero ⟨t, member, h⟩⟩

/-- One attempt that assumes one target. -/
def single : TargetSequence :=
  ⟨[1], by simp, by simp⟩

/-- One attempt that assumes `n` targets, at least two. -/
def multiple (n : Nat) : Except ParameterError TargetSequence :=
  if few : n < Limits.minTargets then .error (.tooFewTargets n)
  else if n > Limits.maxTargets then .error (.tooManyTargets n Limits.maxTargets)
  else .ok ⟨[n], by simp, by simp [Limits.minTargets] at few ⊢; omega⟩

/-- Attempts that assume `1, 2, …, n` targets. -/
def arithmetic (n : Nat) : Except ParameterError TargetSequence :=
  if few : n < Limits.minTargets then .error (.tooFewTargets n)
  else if n > Limits.maxArithmeticTargets then
    .error (.tooManyTargets n Limits.maxArithmeticTargets)
  else .ok ⟨List.range' 1 n, by simp [Limits.minTargets] at few ⊢; omega,
    fun t member => by simp [List.mem_range'] at member; omega⟩

/-- A run of `n` attempts that assume `1, 2, 4, …` targets. -/
def geometric (n : Nat) : Except ParameterError TargetSequence :=
  if outside : n < Limits.minGeometricAttempts ∨ n > Limits.maxGeometricAttempts then
    .error (.geometricAttempts n)
  else .ok ⟨(List.range n).map twoPow,
    by simp [Limits.minGeometricAttempts] at outside ⊢; omega,
    fun t member => by
      obtain ⟨i, _, rfl⟩ := List.mem_map.1 member
      exact twoPow_pos i⟩

/-- The number of attempts. -/
def length (targets : TargetSequence) : Nat :=
  targets.counts.length

/-- The counts between brackets, separated by commas. -/
def text (targets : TargetSequence) : String :=
  "[" ++ ", ".intercalate (targets.counts.map toString) ++ "]"

end TargetSequence

/-- The ways to choose a target sequence. -/
inductive SearchMethod where
  | single
  | multiple
  | arithmetic
  | geometric
  deriving DecidableEq, Repr

namespace SearchMethod

/-- Every method, in menu order. -/
def all : List SearchMethod :=
  [single, multiple, arithmetic, geometric]

def label : SearchMethod → String
  | single => "single"
  | multiple => "multiple"
  | arithmetic => "arithmetic"
  | geometric => "geometric"

/-- The method of a label. -/
def ofLabel? (label : String) : Option SearchMethod :=
  all.find? fun method => method.label == label

theorem ofLabel?_label (method : SearchMethod) : ofLabel? method.label = some method := by
  cases method <;> decide

end SearchMethod

end PreimageSearch
