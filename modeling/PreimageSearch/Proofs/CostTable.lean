import Mathlib.Algebra.BigOperators.Group.List.Basic
import PreimageSearch.Proofs.Estimation

/-!
# The table of costs

A report has the seven rows of `costTable`, whatever the counts of iterations are: each holds the
sum and the maximum of what the target counts add to it. Pricing gives this table exactly if no sum
outgrows its word (`Fits`), and the only fault is such a sum. Sums and maxima do not depend on the
order of the targets, so neither does pricing.
-/

namespace PreimageSearch.Estimator

/-! ## Overflow -/

section Overflow

variable {search : Search} {calls : Nat}

theorem costs_overflow {attempt : Attempt}
    (outgrown : ¬ Metric.oracleCompressionCalls.amount search calls attempt < Word.limit128) :
    costs search calls attempt = .error .overflow := by
  change ¬ 2 * attempt.iterations * calls < Word.limit128 at outgrown
  rw [costs, Word.fit, if_neg outgrown]
  rfl

/-- One more attempt fails if a sum outgrows its word. The first attempt is another matter, since it
adds nothing up. -/
theorem record_attempt_overflow {done : List Attempt} {attempt : Attempt} (begun : done ≠ [])
    (outgrown : ∃ metric, Word.limit128 ≤ total search calls (done ++ [attempt]) metric) :
    (do
      let entries ← costs search calls attempt
      (tally search calls done).recordAll entries) = .error .overflow := by
  obtain ⟨metric, large⟩ := outgrown
  by_cases priced : Metric.oracleCompressionCalls.amount search calls attempt < Word.limit128
  · rw [costs_eq priced]
    change (tally search calls done).recordAll _ = _
    rw [tally_of_ne_nil begun]
    have listed : metric ∈ Metric.all := by cases metric <;> simp [Metric.all]
    have recorded := ResourceReport.recordAll_overflow (total search calls done)
      (peak search calls done) (fun metric => metric.amount search calls attempt)
      Metric.nodup_names ⟨metric, listed, by simpa [total_append, total] using large⟩
      (fun _ member => absurd member List.not_mem_nil)
    simpa using recorded
  · rw [costs_overflow priced]
    rfl

/-- The attempts that are left fail if a sum outgrows its word in the end. -/
theorem record_attempts_overflow {done rest : List Attempt} (begun : done ≠ [])
    (more : rest ≠ [])
    (outgrown : ∃ metric, Word.limit128 ≤ total search calls (done ++ rest) metric) :
    rest.foldlM (fun report attempt => do
        let entries ← costs search calls attempt
        report.recordAll entries) (tally search calls done) = .error .overflow := by
  induction rest generalizing done with
  | nil => exact absurd rfl more
  | cons attempt rest ih =>
    rw [List.foldlM_cons]
    by_cases fits : ∀ metric, total search calls (done ++ [attempt]) metric < Word.limit128
    · rw [record_attempt fits]
      rw [List.append_cons] at outgrown
      refine ih (by simp) (fun last => ?_) outgrown
      -- The attempt was not the last one, because with it the sums still fit.
      obtain ⟨metric, large⟩ := outgrown
      rw [last, List.append_nil] at large
      exact absurd (fits metric) (by omega)
    · simp only [not_forall, Nat.not_lt] at fits
      rw [record_attempt_overflow begun fits]
      rfl

variable (search calls) in
/-- The sums over the attempts are words. A single attempt adds nothing up, but it multiplies. -/
def Fits (attempts : List Attempt) : Prop :=
  total search calls attempts .oracleCompressionCalls < Word.limit128 ∧
    (1 < attempts.length → ∀ metric, total search calls attempts metric < Word.limit128)

theorem record_schedule_of_fits {attempts : List Attempt} (some_attempt : attempts ≠ [])
    (fits : Fits search calls attempts) :
    attempts.foldlM (fun report attempt => do
        let entries ← costs search calls attempt
        report.recordAll entries) (tally search calls []) =
      .ok (tally search calls attempts) := by
  rcases attempts with _ | ⟨first, _ | ⟨second, rest⟩⟩
  · exact absurd rfl some_attempt
  · have single : Metric.oracleCompressionCalls.amount search calls first < Word.limit128 := by
      simpa [total] using fits.1
    rw [List.foldlM_cons, record_first single]
    rfl
  · exact record_attempts [] (fits.2 (by simp))

theorem record_schedule_of_not_fits {attempts : List Attempt} (some_attempt : attempts ≠ [])
    (outgrown : ¬ Fits search calls attempts) :
    attempts.foldlM (fun report attempt => do
        let entries ← costs search calls attempt
        report.recordAll entries) (tally search calls []) = .error .overflow := by
  rcases attempts with _ | ⟨first, rest⟩
  · exact absurd rfl some_attempt
  rw [List.foldlM_cons]
  by_cases priced : Metric.oracleCompressionCalls.amount search calls first < Word.limit128
  · rw [record_first priced]
    have more : rest ≠ [] := by
      rintro rfl
      exact outgrown ⟨by simpa [total] using priced, fun many => absurd many (by simp)⟩
    have begun : [first] ≠ [] := by simp
    refine record_attempts_overflow begun more ?_
    by_contra small
    simp only [not_exists, Nat.not_le] at small
    exact outgrown ⟨small _, fun _ => small⟩
  · rw [costs_overflow priced]
    rfl

variable {count : Nat → Nat → Nat}

theorem estimateWith_of_fits
    (priced : search.oracle.compressionCalls (encodedLength search.parameters.inputWidth) =
      .ok calls)
    (fits : Fits search calls (scheduleWith count search.parameters)) :
    estimateWith count search =
      .ok (tally search calls (scheduleWith count search.parameters)) := by
  rw [estimateWith_eq_foldlM priced]
  exact record_schedule_of_fits (scheduleWith_ne_nil count _) fits

theorem estimateWith_of_not_fits
    (priced : search.oracle.compressionCalls (encodedLength search.parameters.inputWidth) =
      .ok calls)
    (outgrown : ¬ Fits search calls (scheduleWith count search.parameters)) :
    estimateWith count search = .error .overflow := by
  rw [estimateWith_eq_foldlM priced]
  exact record_schedule_of_not_fits (scheduleWith_ne_nil count _) outgrown

end Overflow

/-! ## The rows -/

/-- The row of a metric to which each target count adds its amount. -/
def rowOver (targets : List Nat) (metric : String) (amount : Nat → Nat) : MetricRow :=
  ⟨metric, (targets.map amount).sum, (targets.map amount).foldl max 0⟩

/-- The rows of a report, when `count` gives the iterations for a search space and a number of
targets, and one evaluation of the oracle takes `calls` compression calls. -/
def costTable (count : Nat → Nat → Nat) (search : Search) (calls : Nat) : List MetricRow :=
  let width := search.parameters.inputWidth
  let iterations := count (2 ^ width)
  [("Attempts", fun _ => 1),
    ("GroverIterations", iterations),
    ("OracleEvaluations", fun target => 2 * iterations target),
    ("OracleCompressionCalls", fun target => 2 * iterations target * calls),
    ("DiffusionOperations", iterations),
    ("Measurements", fun _ => width),
    ("QubitCount", fun _ =>
      width + search.oracle.stateWidth + search.parameters.outputWidth + 1)].map
    fun metric => rowOver search.parameters.targets.counts metric.1 metric.2

section Rows

variable {search other : Search} {calls : Nat} {count : Nat → Nat → Nat}

theorem costTable_eq : costTable count search calls = Metric.all.map fun metric =>
    ⟨metric.name, total search calls (scheduleWith count search.parameters) metric,
      peak search calls (scheduleWith count search.parameters) metric⟩ := by
  simp only [total, peak, scheduleWith, List.map_map]
  rfl

theorem tally_eq_costTable :
    tally search calls (scheduleWith count search.parameters) =
      ⟨costTable count search calls⟩ := by
  rw [tally_of_ne_nil (scheduleWith_ne_nil count _), costTable_eq]

theorem fits_of_costTable (small : ∀ row ∈ costTable count search calls, row.sum < 2 ^ 128) :
    Fits search calls (scheduleWith count search.parameters) := by
  have totals (metric : Metric) :
      total search calls (scheduleWith count search.parameters) metric < Word.limit128 := by
    have listed : metric ∈ Metric.all := by cases metric <;> simp [Metric.all]
    rw [costTable_eq] at small
    exact small _ (List.mem_map_of_mem listed)
  exact ⟨totals _, fun _ => totals⟩

/-- Whenever pricing gives a report, it is the table. -/
theorem eq_costTable_of_ok {report : ResourceReport}
    (called : search.oracle.compressionCalls (encodedLength search.parameters.inputWidth) =
      .ok calls)
    (priced : estimateWith count search = .ok report) :
    report = ⟨costTable count search calls⟩ := by
  by_cases fits : Fits search calls (scheduleWith count search.parameters)
  · rw [estimateWith_of_fits called fits, tally_eq_costTable] at priced
    exact (Except.ok.inj priced).symm
  · rw [estimateWith_of_not_fits called fits] at priced
    cases priced

/-! ## Searches of equal cost -/

/-- The widths that a search is priced by are the same, and its target counts are the same up to
their order. -/
structure SamePrice (search other : Search) : Prop where
  targets : other.parameters.targets.counts.Perm search.parameters.targets.counts
  inputWidth : other.parameters.inputWidth = search.parameters.inputWidth
  outputWidth : other.parameters.outputWidth = search.parameters.outputWidth
  stateWidth : other.oracle.stateWidth = search.oracle.stateWidth

theorem SamePrice.schedule (same : SamePrice search other) :
    (scheduleWith count other.parameters).Perm (scheduleWith count search.parameters) := by
  unfold scheduleWith attemptFor SearchParameters.searchSpace
  rw [same.inputWidth]
  exact same.targets.map _

theorem SamePrice.amounts (same : SamePrice search other) (metric : Metric) :
    (fun attempt => metric.amount other calls attempt) =
      fun attempt => metric.amount search calls attempt := by
  funext attempt
  cases metric <;> simp [Metric.amount, qubits, same.inputWidth, same.outputWidth, same.stateWidth]

theorem SamePrice.total (same : SamePrice search other) (metric : Metric) :
    Estimator.total other calls (scheduleWith count other.parameters) metric =
      Estimator.total search calls (scheduleWith count search.parameters) metric := by
  unfold Estimator.total
  rw [same.amounts]
  exact (same.schedule.map _).sum_eq

theorem SamePrice.peak (same : SamePrice search other) (metric : Metric) :
    Estimator.peak other calls (scheduleWith count other.parameters) metric =
      Estimator.peak search calls (scheduleWith count search.parameters) metric := by
  unfold Estimator.peak
  rw [same.amounts]
  exact (same.schedule.map _).foldl_eq 0

theorem SamePrice.fits_iff (same : SamePrice search other) :
    Fits other calls (scheduleWith count other.parameters) ↔
      Fits search calls (scheduleWith count search.parameters) := by
  simp only [Fits, same.total, same.schedule.length_eq]

theorem SamePrice.costTable (same : SamePrice search other) :
    Estimator.costTable count other calls = Estimator.costTable count search calls := by
  simp only [costTable_eq, same.total, same.peak]

end Rows

/-- Pricing gives the table of costs and has no other fault than a sum or a product that outgrows
its word. The order of the targets, the output to match and the function that the oracle evaluates
make no difference. -/
theorem estimateWith_eq_costTable (count : Nat → Nat → Nat) (search : Search) (calls : Nat)
    (called : search.oracle.compressionCalls ((search.parameters.inputWidth + 7) / 8) =
      .ok calls) :
    ((∀ row ∈ costTable count search calls, row.sum < 2 ^ 128) →
      estimateWith count search = .ok ⟨costTable count search calls⟩) ∧
    (∀ report, estimateWith count search = .ok report →
      report.rows = costTable count search calls) ∧
    (∀ fault, estimateWith count search = .error fault →
      fault = .overflow ∧ ∃ row ∈ costTable count search calls, 2 ^ 128 ≤ row.sum) ∧
    ∀ other : Search, SamePrice search other →
      other.oracle.compressionCalls ((search.parameters.inputWidth + 7) / 8) = .ok calls →
        estimateWith count other = estimateWith count search := by
  refine ⟨fun small => ?_, fun report priced => ?_, fun fault failed => ?_,
    fun other same called' => ?_⟩
  · rw [estimateWith_of_fits called (fits_of_costTable small), tally_eq_costTable]
  · rw [eq_costTable_of_ok called priced]
  · have outgrown : ¬ Fits search calls (scheduleWith count search.parameters) := by
      intro fits
      rw [estimateWith_of_fits called fits] at failed
      cases failed
    rw [estimateWith_of_not_fits called outgrown] at failed
    cases failed
    refine ⟨rfl, ?_⟩
    by_contra none
    simp only [not_exists, not_and, Nat.not_le] at none
    exact outgrown (fits_of_costTable none)
  · rw [← same.inputWidth] at called'
    by_cases fits : Fits search calls (scheduleWith count search.parameters)
    · rw [estimateWith_of_fits called fits, estimateWith_of_fits called' (same.fits_iff.2 fits),
        tally_eq_costTable, tally_eq_costTable, same.costTable]
    · rw [estimateWith_of_not_fits called fits,
        estimateWith_of_not_fits called' (mt same.fits_iff.1 fits)]

/-- Two attempts over twelve bits, with as many iterations as there are inputs for each target. -/
theorem estimateWith_eq_costTable_crc8 :
    let search : Search := ⟨.ofChecksum .crc8,
      ⟨"CRC-8", ⟨[1, 3], by decide, by decide⟩, 12, 8, 7, by decide, by decide, by decide,
        by decide⟩⟩
    search.oracle.compressionCalls ((search.parameters.inputWidth + 7) / 8) = .ok 2 ∧
      estimateWith (· / ·) search = .ok ⟨[⟨"Attempts", 2, 1⟩, ⟨"GroverIterations", 5461, 4096⟩,
        ⟨"OracleEvaluations", 10922, 8192⟩, ⟨"OracleCompressionCalls", 21844, 16384⟩,
        ⟨"DiffusionOperations", 5461, 4096⟩, ⟨"Measurements", 24, 12⟩,
        ⟨"QubitCount", 58, 29⟩]⟩ := by
  intro search
  have called :
      search.oracle.compressionCalls ((search.parameters.inputWidth + 7) / 8) = .ok 2 := by decide
  have priced := (estimateWith_eq_costTable (· / ·) search 2 called).1 (by decide)
  exact ⟨called, priced.trans (by decide)⟩

end PreimageSearch.Estimator
