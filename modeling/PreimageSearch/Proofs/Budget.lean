import PreimageSearch.Proofs.CostTable
import PreimageSearch.Proofs.Simulation

/-!
# The estimate bounds every simulation

The simulator and the estimator walk over the targets of a search independently, and both follow its
schedule: a simulation carries out the attempts that an estimate prices, in the same order and each
with as many rounds of amplification as are priced for it, and stops early only with a match. So it
never measures more often, nor amplifies longer, than the estimate says, and a simulation that
exhausts its attempts reaches both bounds.
-/

namespace PreimageSearch

namespace Simulation

/-- The attempts that were carried out, in order. -/
def executed (simulation : Simulation) : List Attempt :=
  simulation.measurements.map Measurement.attempt

/-- How many rounds of amplification the attempts that were carried out ask for; each makes as many
(`measured_eq`). -/
def amplified (simulation : Simulation) : Nat :=
  (simulation.executed.map Attempt.iterations).sum

@[simp]
theorem length_executed (simulation : Simulation) :
    simulation.executed.length = simulation.drawn := by
  simp [executed, drawn]

section Executed

variable {α : Type} [Amplitude α] {count : Nat → Nat → Nat} {search : Search}
  {words : Nat → UInt64} {simulation : Simulation}

theorem map_attempt_trials :
    (trials α count search words).map Measurement.attempt =
      scheduleWith count search.parameters := by
  apply List.ext_getElem?
  intro i
  simp [trials, trial, Function.comp_def]

theorem executed_isPrefix (h : search.Evaluates)
    (run : simulateWith α count search words = .ok simulation) :
    simulation.executed <+: scheduleWith count search.parameters := by
  rw [simulateWith_eq h] at run
  cases run
  have attempts : (trials α count search words).map Measurement.attempt = _ := map_attempt_trials
  rw [← attempts]
  exact (List.take_prefix _ _).map _

/-- No more rounds are made than all attempts ask for. -/
theorem amplified_le (h : search.Evaluates)
    (run : simulateWith α count search words = .ok simulation) :
    simulation.amplified ≤
      ((scheduleWith count search.parameters).map Attempt.iterations).sum := by
  obtain ⟨left, whole⟩ := executed_isPrefix h run
  rw [← whole, List.map_append, List.sum_append]
  exact Nat.le_add_right _ _

theorem executed_of_exhausted (h : search.Evaluates)
    (run : simulateWith α count search words = .ok simulation)
    (exhausted : simulation.outcome = .exhausted) :
    simulation.executed = scheduleWith count search.parameters := by
  rw [simulateWith_eq h] at run
  cases run
  rw [executed, upToMatch_of_exhausted exhausted, map_attempt_trials]

/-- An attempt makes a round for each of its iterations, from the uniform state, and measures with
the word at its position. -/
theorem measured_eq (h : search.Evaluates)
    (run : simulateWith α count search words = .ok simulation) {position : Nat}
    {measurement : Measurement} (made : simulation.measurements[position]? = some measurement) :
    measurement.measured = StateVector.measure (Amplitude.point (words position) : α)
      ((StateVector.round search.diagonal)^[measurement.attempt.iterations]
        (StateVector.uniform search.diagonal)) := by
  rw [simulateWith_eq h] at run
  cases run
  have listed : (trials α count search words)[position]? = some measurement := by
    simp only [upToMatch, List.getElem?_take] at made
    split at made
    · exact made
    · cases made
  rw [trials, List.getElem?_mapIdx] at listed
  obtain ⟨attempt, -, rfl⟩ := Option.map_eq_some_iff.1 listed
  exact StateVector.amplifyAndMeasure_eq search.diagonal attempt.iterations (words position)

end Executed

end Simulation

namespace Estimator

variable {count : Nat → Nat → Nat} {search : Search} {calls : Nat} {report : ResourceReport}

/-- The report counts the attempts. -/
theorem metric?_attempts
    (called : search.oracle.compressionCalls (encodedLength search.parameters.inputWidth) =
      .ok calls)
    (priced : estimateWith count search = .ok report) :
    ∃ row, report.metric? "Attempts" = some row ∧
      row.sum = (scheduleWith count search.parameters).length := by
  rw [eq_costTable_of_ok called priced]
  exact ⟨_, rfl, by simp [rowOver]⟩

/-- The report adds up the iterations of the attempts. -/
theorem metric?_groverIterations
    (called : search.oracle.compressionCalls (encodedLength search.parameters.inputWidth) =
      .ok calls)
    (priced : estimateWith count search = .ok report) :
    ∃ row, report.metric? "GroverIterations" = some row ∧
      row.sum = ((scheduleWith count search.parameters).map Attempt.iterations).sum := by
  rw [eq_costTable_of_ok called priced]
  refine ⟨_, rfl, ?_⟩
  simp only [rowOver, scheduleWith, List.map_map]
  rfl

end Estimator

namespace Simulation

open Estimator

/-- How a simulation of a search keeps to an estimate of it, when one evaluation of the oracle takes
`calls` compression calls. -/
structure WithinEstimate (α : Type) [Amplitude α] (count : Nat → Nat → Nat) (search : Search)
    (words : Nat → UInt64) (calls : Nat) (estimated : Except Fault ResourceReport)
    (simulation : Simulation) : Prop where
  /-- The estimate records what the attempts of the schedule cost, one after another. -/
  priced : estimated = (scheduleWith count search.parameters).foldlM (fun report attempt => do
    let entries ← costs search calls attempt
    report.recordAll entries) ResourceReport.empty
  /-- It ends with a report if the sums are words. -/
  reported : (∀ row ∈ costTable count search calls, row.sum < 2 ^ 128) →
    ∃ report, estimated = .ok report
  /-- The attempts that are carried out are the first ones of those that are priced. -/
  executed : simulation.executed <+: scheduleWith count search.parameters
  exhausted : simulation.outcome = .exhausted →
    simulation.executed = scheduleWith count search.parameters
  /-- Each of them makes a round for each iteration that is priced, starting from the uniform state,
  and measures what these rounds lead to. -/
  measured : ∀ position measurement, simulation.measurements[position]? = some measurement →
    measurement.measured = StateVector.measure (Amplitude.point (words position) : α)
      ((StateVector.round search.diagonal)^[measurement.attempt.iterations]
        (StateVector.uniform search.diagonal))
  /-- The sums of the report bound the measurements and the rounds, and are reached if nothing is
  found. -/
  bounds : ∀ report, estimated = .ok report →
    ∃ attempts iterations, report.metric? "Attempts" = some attempts ∧
      report.metric? "GroverIterations" = some iterations ∧
      simulation.drawn ≤ attempts.sum ∧ simulation.amplified ≤ iterations.sum ∧
      (simulation.outcome = .exhausted →
        simulation.drawn = attempts.sum ∧ simulation.amplified = iterations.sum)

section Within

variable {α : Type} [Amplitude α] {count : Nat → Nat → Nat} {search : Search}
  {words : Nat → UInt64} {calls : Nat}

theorem bounds_of_report (evaluates : search.Evaluates)
    (called : search.oracle.compressionCalls (encodedLength search.parameters.inputWidth) =
      .ok calls) {simulation : Simulation}
    (run : simulateWith α count search words = .ok simulation) {report : ResourceReport}
    (given : estimateWith count search = .ok report) :
    ∃ attempts iterations, report.metric? "Attempts" = some attempts ∧
      report.metric? "GroverIterations" = some iterations ∧
      simulation.drawn ≤ attempts.sum ∧ simulation.amplified ≤ iterations.sum ∧
      (simulation.outcome = .exhausted →
        simulation.drawn = attempts.sum ∧ simulation.amplified = iterations.sum) := by
  obtain ⟨attempts, counted, number⟩ := metric?_attempts called given
  obtain ⟨iterations, added, rounds⟩ := metric?_groverIterations called given
  refine ⟨attempts, iterations, counted, added, ?_, ?_, fun exhausted => ?_⟩
  · rw [number, ← length_executed]
    exact (executed_isPrefix evaluates run).length_le
  · rw [rounds]
    exact amplified_le evaluates run
  · have all := executed_of_exhausted evaluates run exhausted
    rw [number, rounds, ← all, length_executed]
    exact ⟨rfl, rfl⟩

theorem withinEstimate_simulateWith (evaluates : search.Evaluates)
    (called : search.oracle.compressionCalls (encodedLength search.parameters.inputWidth) =
      .ok calls) :
    ∃ simulation, simulateWith α count search words = .ok simulation ∧
      simulation.WithinEstimate α count search words calls (estimateWith count search) := by
  have run : simulateWith α count search words = _ := simulateWith_eq evaluates
  refine ⟨_, run, estimateWith_eq_foldlM called, fun small => ?_, executed_isPrefix evaluates run,
    executed_of_exhausted evaluates run, fun _ _ made => measured_eq evaluates run made,
    fun _ given => bounds_of_report evaluates called run given⟩
  exact ⟨_, estimateWith_of_fits called (fits_of_costTable small)⟩

end Within

/-- For an oracle that evaluates every input and whose calls are counted, every simulation keeps to
the estimate of its search: on floating-point numbers, and whatever the amplitudes and the counts of
iterations are. -/
theorem simulate_within_estimate (search : Search) (words : Nat → UInt64) (calls : Nat)
    (evaluates : search.Evaluates)
    (called : search.oracle.compressionCalls ((search.parameters.inputWidth + 7) / 8) =
      .ok calls) :
    (∃ simulation, simulate search words = .ok simulation ∧
      simulation.WithinEstimate Float groverIterations search words calls (estimate search)) ∧
    ∀ (α : Type) [Amplitude α] (count : Nat → Nat → Nat),
      ∃ simulation, simulateWith α count search words = .ok simulation ∧
        simulation.WithinEstimate α count search words calls (estimateWith count search) :=
  ⟨withinEstimate_simulateWith evaluates called,
    fun _ _ _ => withinEstimate_simulateWith evaluates called⟩

/-- No input of one bit has the check `1`, so both attempts are carried out, with two rounds and
with one, and the two measurements are those of the report. -/
theorem simulate_within_estimate_crc8 :
    let search : Search := ⟨.ofChecksum .crc8,
      ⟨"CRC-8", ⟨[1, 2], by decide, by decide⟩, 1, 8, 1, by decide, by decide, by decide,
        by decide⟩⟩
    search.Evaluates ∧
      search.oracle.compressionCalls ((search.parameters.inputWidth + 7) / 8) = .ok 1 ∧
      (∃ simulation, simulate search (fun _ => 0) = .ok simulation ∧
        simulation.executed <+: scheduleWith groverIterations search.parameters) ∧
      ∃ simulation report attempts iterations,
        simulateWith Float (· / ·) search (fun _ => 0) = .ok simulation ∧
        estimateWith (· / ·) search = .ok report ∧
        report.metric? "Attempts" = some attempts ∧
        report.metric? "GroverIterations" = some iterations ∧
        simulation.executed = [⟨1, 2⟩, ⟨2, 1⟩] ∧
        simulation.drawn = attempts.sum ∧ simulation.amplified = iterations.sum := by
  intro search
  have evaluates : search.Evaluates := Search.evaluates_of_total fun _ => ⟨_, rfl⟩
  have called :
      search.oracle.compressionCalls ((search.parameters.inputWidth + 7) / 8) = .ok 1 := by decide
  obtain ⟨⟨first, ran, keeps⟩, every⟩ :=
    simulate_within_estimate search (fun _ => 0) 1 evaluates called
  obtain ⟨simulation, run, within⟩ := every Float (· / ·)
  obtain ⟨report, priced⟩ := within.reported (by decide)
  obtain ⟨attempts, iterations, counted, added, -, -, equal⟩ := within.bounds report priced
  have exhausted : simulation.outcome = .exhausted := by
    obtain ⟨other, same, accounts⟩ : ∃ other,
        simulateWith Float (· / ·) search (fun _ => 0) = .ok other ∧
          other.Accounts Float (· / ·) search (fun _ => 0) := accounts_simulateWith evaluates
    obtain rfl : simulation = other := Except.ok.inj (run.symm.trans same)
    exact accounts.exhausted_of_none (by decide)
  exact ⟨evaluates, called, ⟨first, ran, keeps.executed⟩, simulation, report, attempts, iterations,
    run, priced, counted, added, (within.exhausted exhausted).trans (by decide), equal exhausted⟩

end Simulation

end PreimageSearch
