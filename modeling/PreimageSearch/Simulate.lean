import PreimageSearch.Backend
import PreimageSearch.Journal
import PreimageSearch.Schedule
import PreimageSearch.Simulate.Random
import PreimageSearch.Simulate.StateVector

/-!
# Simulating a search

A simulation marks the inputs that match, walks the target sequence with one amplified measurement
for each target, checks every measured input against the oracle and stops at the first match. It
takes one word of a random stream for each measurement.
-/

namespace PreimageSearch

/-- One attempt that was carried out. -/
structure Measurement where
  attempt : Attempt
  measured : Nat
  matched : Bool
  deriving DecidableEq, Repr

/-- The course of a simulation. -/
structure Simulation where
  /-- The number of inputs that match. -/
  solutions : Nat
  /-- The attempts carried out, in order; each took one random word. -/
  measurements : List Measurement
  outcome : SearchOutcome
  deriving DecidableEq, Repr

namespace Simulation

/-- Which inputs of the search space match. -/
def mark (search : Search) : Except Fault (List Bool) :=
  (List.range search.parameters.searchSpace).mapM fun input =>
    search.oracle.matches input search.parameters.inputWidth search.parameters.output

/-- Walks the targets that are left, where `count` gives the iterations for a search space and a
number of targets; `done` are the measurements behind, the latest first, and `position` is the next
random word. -/
@[specialize]
def walk (α : Type) [Amplitude α] (count : Nat → Nat → Nat) (search : Search) (marked : List Bool)
    (words : Nat → UInt64) :
    (position : Nat) → (done : List Measurement) → (targets : List Nat) →
      Except Fault (List Measurement × SearchOutcome)
  | _, done, [] => .ok (done.reverse, .exhausted)
  | position, done, assumed :: rest => do
    let iterations := count search.parameters.searchSpace assumed
    let measured := StateVector.amplifyAndMeasure α marked iterations (words position)
    let matched ← search.oracle.matches measured search.parameters.inputWidth
      search.parameters.output
    let done := ⟨⟨assumed, iterations⟩, measured, matched⟩ :: done
    if matched then return (done.reverse, .found measured)
    else walk α count search marked words (position + 1) done rest

/-- The simulation over any amplitudes and any counts of iterations. -/
@[specialize]
def simulateWith (α : Type) [Amplitude α] (count : Nat → Nat → Nat) (search : Search)
    (words : Nat → UInt64) : Except Fault Simulation := do
  let marked ← mark search
  let (measurements, outcome) ←
    walk α count search marked words 0 [] search.parameters.targets.counts
  return ⟨marked.count true, measurements, outcome⟩

/-- The simulation on floating-point amplitudes with a stream of random words. -/
def simulate (search : Search) (words : Nat → UInt64) : Except Fault Simulation :=
  simulateWith Float groverIterations search words

/-- The number of random words that were taken. -/
def drawn (simulation : Simulation) : Nat :=
  simulation.measurements.length

/-- The events of one measurement, of which `number` were made before. -/
def measurementEvents (number : Nat) (measurement : Measurement) : List Journal.Event :=
  let attempt := measurement.attempt
  [Journal.detail "measured" [("attempt", number), ("assumed", attempt.assumed),
      ("iterations", attempt.iterations), ("measured", measurement.measured)],
    Journal.note "SIMULATOR" <| s!"Attempt {number + 1} (assumed {attempt.assumed} targets, " ++
      s!"{attempt.iterations} iterations) measured " ++ Hex.text measurement.measured ++
      (if measurement.matched then ": match" else ": no match")]

/-- What a simulation notes. -/
def journal (search : Search) (simulation : Simulation) : List Journal.Event :=
  let parameters := search.parameters
  [Journal.detail "oracle diagonal built"
      [("solutions", simulation.solutions), ("inputs", parameters.searchSpace)],
    Journal.note "SIMULATOR" <| parameters.operation ++
      s!" has {simulation.solutions} preimage(s) of " ++ Hex.text parameters.output ++
      s!" among {parameters.searchSpace} inputs"] ++
  simulation.measurements.zipIdx.flatMap fun entry => measurementEvents entry.2 entry.1

end Simulation

/-- The simulator: what it accepts and where its random words come from. -/
structure Simulator where
  maxInputWidth : Nat := Limits.defaultSimulatedWidth
  /-- The seed of the random words; without one they are not reproducible. -/
  seed : Option UInt64 := none
  /-- Whether a state vector larger than the available memory is refused. -/
  checkMemory : Bool := true
  deriving DecidableEq, Repr

namespace Simulator

/-- The name in notes. -/
def name : String := "full simulator"

/-- The bytes for each input: its amplitude and its mark. -/
def bytesPerInput : Nat := 9

/-- Whether a search of `width` bits may run. A state vector whose size is no 64-bit number is
refused in any case; an unknown amount of memory, given as zero, refuses nothing. -/
def approve (simulator : Simulator) (available width : Nat) : Except BackendError Unit :=
  if width > simulator.maxInputWidth then .error (.inputTooWide width simulator.maxInputWidth)
  else
    let required := bytesPerInput * twoPow width
    if required ≥ Word.limit64 then .error (.insufficientMemory (Word.limit64 - 1) available)
    else if simulator.checkMemory ∧ available > 0 ∧ required > available then
      .error (.insufficientMemory required available)
    else .ok ()

/-- The random words of a run; `entropy` is used when there is no seed. -/
def words (simulator : Simulator) (entropy : Nat → UInt64) : Nat → UInt64 :=
  match simulator.seed with
  | some seed => Random.word seed
  | none => entropy

/-- Simulates a search that is approved, from the first random word on; a fault fails the run. -/
def run (simulator : Simulator) (available : Nat) (entropy : Nat → UInt64) (search : Search) :
    Except BackendError Simulation := do
  simulator.approve available search.parameters.inputWidth
  match Simulation.simulate search (simulator.words entropy) with
  | .ok simulation => return simulation
  | .error fault => throw (.taskFailed fault)

/-- What a run notes, given its result. -/
def journal (search : Search) : Except BackendError Simulation → List Journal.Event
  | .ok simulation => simulation.journal search
  | .error _ => []

end Simulator

end PreimageSearch
