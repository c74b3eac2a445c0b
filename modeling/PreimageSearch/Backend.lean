import PreimageSearch.Fault

/-!
# Failures of a run

Why pricing or simulating a search gives no result.
-/

namespace PreimageSearch

inductive BackendError where
  /-- The search space is wider than the simulator accepts. -/
  | inputTooWide (width most : Nat)
  /-- The state vector takes more bytes than there are. -/
  | insufficientMemory (required available : Nat)
  /-- The run was abandoned. -/
  | taskFailed (cause : Fault)
  deriving DecidableEq, Repr

/-- Names the cause of an abandoned run. -/
def Fault.message : Fault → String
  | overflow => "arithmetic overflow"
  | divisionByZero => "division by zero"
  | outOfBounds => "position out of bounds"

/-- The wording of a failure. -/
def BackendError.message : BackendError → String
  | inputTooWide width most =>
    s!"Input width {width} exceeds the simulator limit of {most} bits"
  | insufficientMemory required available =>
    s!"Simulation needs {required} bytes but only {available} bytes are available"
  | taskFailed cause => "Backend task failed: " ++ cause.message

end PreimageSearch
