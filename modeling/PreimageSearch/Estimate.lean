import PreimageSearch.Backend
import PreimageSearch.Estimate.Report
import PreimageSearch.Journal
import PreimageSearch.Schedule

/-!
# Pricing a search

The estimator adds up what the attempt for every target would cost, without evaluating the oracle:
an iteration computes and uncomputes the oracle once and reflects about the mean once.
-/

namespace PreimageSearch.Estimator

/-- The name in notes. -/
def name : String := "resource estimator"

/-- The search register, the oracle's workspace, the register of the output and the phase qubit. -/
def qubits (search : Search) : Nat :=
  search.parameters.inputWidth + search.oracle.stateWidth + search.parameters.outputWidth + 1

/-- What one attempt adds to each metric, when one evaluation of the oracle takes `calls`
compression calls. -/
def costs (search : Search) (calls : Nat) (attempt : Attempt) :
    Except Fault (List (String × Nat)) := do
  let evaluations := 2 * attempt.iterations
  let compressions ← Word.fit Word.limit128 (evaluations * calls)
  return [("Attempts", 1), ("GroverIterations", attempt.iterations),
    ("OracleEvaluations", evaluations), ("OracleCompressionCalls", compressions),
    ("DiffusionOperations", attempt.iterations), ("Measurements", search.parameters.inputWidth),
    ("QubitCount", qubits search)]

/-- The report of a search, where `count` gives the iterations for a search space and a number of
targets. -/
def estimateWith (count : Nat → Nat → Nat) (search : Search) : Except Fault ResourceReport := do
  let calls ← search.oracle.compressionCalls (encodedLength search.parameters.inputWidth)
  search.parameters.targets.counts.foldlM (fun report target => do
    let iterations := count search.parameters.searchSpace target
    let entries ← costs search calls ⟨target, iterations⟩
    report.recordAll entries) ResourceReport.empty

def estimate (search : Search) : Except Fault ResourceReport :=
  estimateWith groverIterations search

/-- The details noted while pricing: one for each target. -/
def details (search : Search) : List Journal.Event :=
  search.parameters.targets.counts.map fun target =>
    let iterations := groverIterations search.parameters.searchSpace target
    Journal.detail "attempt priced" [("assumed", target), ("iterations", iterations)]

/-- Prices a search; a fault fails the run. -/
def run (search : Search) : Except BackendError ResourceReport :=
  match estimate search with
  | .ok report => .ok report
  | .error fault => .error (.taskFailed fault)

/-- What a run notes, given its result. -/
def journal (search : Search) (result : Except BackendError ResourceReport) :
    List Journal.Event :=
  let parameters := search.parameters
  let opening := Journal.note "ESTIMATOR" <| "Estimating " ++ parameters.operation ++
    s!" over {parameters.inputWidth} bits with targets " ++ parameters.targets.text
  match result with
  | .ok report => opening :: (details search ++
      [Journal.note "ESTIMATOR" s!"Report has {report.rows.length} metrics"])
  | .error _ => [opening]

end PreimageSearch.Estimator
