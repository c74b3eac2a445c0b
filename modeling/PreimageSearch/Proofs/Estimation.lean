import Mathlib.Algebra.Order.BigOperators.Group.List
import Mathlib.Algebra.Order.Ring.Nat
import PreimageSearch.Proofs.Catalog
import PreimageSearch.Proofs.Schedule

/-!
# What a report holds

A report of attempts has one row for each metric, in the order of `Metric.all`, with the sum and the
maximum of what the attempts add to it (`tally`). Recording one more attempt keeps this
(`record_attempt`), so a whole schedule is priced exactly if no sum outgrows its word
(`estimateWith_eq`), and for operations of a reliable catalog none does.
-/

namespace PreimageSearch

namespace ResourceReport

/-! ## Recording -/

theorem recordIn_append {metric : String} {before : List MetricRow}
    (h : ∀ row ∈ before, row.metric ≠ metric) (value : Nat) (rows : List MetricRow) :
    recordIn metric value (before ++ rows) = (recordIn metric value rows).map (before ++ ·) := by
  induction before with
  | nil => cases hr : recordIn metric value rows <;> simp [hr, Except.map]
  | cons row before ih =>
    rw [List.cons_append, recordIn, if_neg (h row (by simp)),
      ih fun other member => h other (by simp [member])]
    cases recordIn metric value rows <;> rfl

theorem recordAll_cons {report next : ResourceReport} {metric : String} {value : Nat}
    (h : report.record metric value = .ok next) (entries : List (String × Nat)) :
    report.recordAll ((metric, value) :: entries) = next.recordAll entries := by
  rw [recordAll, List.foldlM_cons, h]
  rfl

section Rows

variable {κ : Type} {name : κ → String}

theorem fresh_append {key : κ} {keys : List κ} {before : List MetricRow}
    (distinct : ((key :: keys).map name).Nodup)
    (fresh : ∀ row ∈ before, row.metric ∉ (key :: keys).map name) {last : MetricRow}
    (named : last.metric = name key) :
    ∀ row ∈ before ++ [last], row.metric ∉ keys.map name := by
  intro row member inside
  rcases List.mem_append.1 member with earlier | latest
  · exact fresh row earlier (List.mem_cons_of_mem _ inside)
  · rw [List.mem_singleton.1 latest, named] at inside
    exact (List.nodup_cons.1 distinct).1 inside

/-- A metric that has no row yet gets one after all others. -/
theorem record_new {before : List MetricRow} {metric : String}
    (other : ∀ row ∈ before, row.metric ≠ metric) (value : Nat) :
    record ⟨before⟩ metric value = .ok ⟨before ++ [⟨metric, value, value⟩]⟩ := by
  have appended := recordIn_append other value []
  rw [List.append_nil] at appended
  rw [record, appended]
  rfl

/-- Metrics that have no rows yet get one each. -/
theorem recordAll_new (value : κ → Nat) {keys : List κ} (distinct : (keys.map name).Nodup)
    {before : List MetricRow} (fresh : ∀ row ∈ before, row.metric ∉ keys.map name) :
    recordAll ⟨before⟩ (keys.map fun key => (name key, value key)) =
      .ok ⟨before ++ keys.map fun key => ⟨name key, value key, value key⟩⟩ := by
  induction keys generalizing before with
  | nil => simp [recordAll, pure, Except.pure]
  | cons key keys ih =>
    have other : ∀ row ∈ before, row.metric ≠ name key := fun row member same =>
      fresh row member (by simp [same])
    refine (recordAll_cons (record_new other (value key)) _).trans ?_
    rw [ih (List.nodup_cons.1 distinct).2 (fresh_append distinct fresh rfl)]
    simp

/-- A metric that has a row adds to it. -/
theorem record_known {before : List MetricRow} {metric : String}
    (other : ∀ row ∈ before, row.metric ≠ metric) (sum most value : Nat) (rows : List MetricRow) :
    record ⟨before ++ ⟨metric, sum, most⟩ :: rows⟩ metric value =
      (Word.fit Word.limit128 (sum + value)).map fun sum =>
        ⟨before ++ [⟨metric, sum, Nat.max most value⟩] ++ rows⟩ := by
  rw [record, recordIn_append other, recordIn, if_pos rfl]
  cases Word.fit Word.limit128 (sum + value) <;>
    simp [bind, Except.bind, pure, Except.pure, Except.map]

/-- The rows of metrics that have one grow by the values recorded. -/
theorem recordAll_known (sum most value : κ → Nat) {keys : List κ}
    (distinct : (keys.map name).Nodup) (fits : ∀ key ∈ keys, sum key + value key < Word.limit128)
    {before : List MetricRow} (fresh : ∀ row ∈ before, row.metric ∉ keys.map name) :
    recordAll ⟨before ++ keys.map fun key => ⟨name key, sum key, most key⟩⟩
        (keys.map fun key => (name key, value key)) =
      .ok ⟨before ++ keys.map fun key =>
        ⟨name key, sum key + value key, Nat.max (most key) (value key)⟩⟩ := by
  induction keys generalizing before with
  | nil => simp [recordAll, pure, Except.pure]
  | cons key keys ih =>
    have other : ∀ row ∈ before, row.metric ≠ name key := fun row member same =>
      fresh row member (by simp [same])
    have recorded := record_known other (sum key) (most key) (value key)
      (keys.map fun key => ⟨name key, sum key, most key⟩)
    rw [Word.fit_of_lt (fits key (by simp))] at recorded
    refine (recordAll_cons recorded _).trans ?_
    rw [ih (List.nodup_cons.1 distinct).2 (fun other member => fits other (by simp [member]))
        (fresh_append distinct fresh rfl)]
    simp

/-- One sum that outgrows its word is enough for recording to fail. -/
theorem recordAll_overflow (sum most value : κ → Nat) {keys : List κ}
    (distinct : (keys.map name).Nodup)
    (outgrown : ∃ key ∈ keys, Word.limit128 ≤ sum key + value key)
    {before : List MetricRow} (fresh : ∀ row ∈ before, row.metric ∉ keys.map name) :
    recordAll ⟨before ++ keys.map fun key => ⟨name key, sum key, most key⟩⟩
        (keys.map fun key => (name key, value key)) = .error .overflow := by
  induction keys generalizing before with
  | nil =>
    obtain ⟨key, member, -⟩ := outgrown
    cases member
  | cons key keys ih =>
    have other : ∀ row ∈ before, row.metric ≠ name key := fun row member same =>
      fresh row member (by simp [same])
    have recorded := record_known other (sum key) (most key) (value key)
      (keys.map fun key => ⟨name key, sum key, most key⟩)
    by_cases fits : sum key + value key < Word.limit128
    · rw [Word.fit_of_lt fits] at recorded
      refine (recordAll_cons recorded _).trans (ih (List.nodup_cons.1 distinct).2 ?_
        (fresh_append distinct fresh rfl))
      obtain ⟨found, member, large⟩ := outgrown
      rcases List.mem_cons.1 member with rfl | later
      · omega
      · exact ⟨found, later, large⟩
    · rw [Word.fit, if_neg fits] at recorded
      rw [List.map_cons, List.map_cons, recordAll, List.foldlM_cons, recorded]
      rfl

end Rows

end ResourceReport

namespace Estimator

/-! ## Metrics -/

inductive Metric where
  | attempts
  | groverIterations
  | oracleEvaluations
  | oracleCompressionCalls
  | diffusionOperations
  | measurements
  | qubitCount

namespace Metric

/-- Every metric, in the order of the rows. -/
def all : List Metric :=
  [attempts, groverIterations, oracleEvaluations, oracleCompressionCalls, diffusionOperations,
    measurements, qubitCount]

def name : Metric → String
  | attempts => "Attempts"
  | groverIterations => "GroverIterations"
  | oracleEvaluations => "OracleEvaluations"
  | oracleCompressionCalls => "OracleCompressionCalls"
  | diffusionOperations => "DiffusionOperations"
  | measurements => "Measurements"
  | qubitCount => "QubitCount"

/-- What an attempt adds to the metric, when one evaluation takes `calls` compression calls. -/
def amount (search : Search) (calls : Nat) (attempt : Attempt) : Metric → Nat
  | attempts => 1
  | groverIterations => attempt.iterations
  | oracleEvaluations => 2 * attempt.iterations
  | oracleCompressionCalls => 2 * attempt.iterations * calls
  | diffusionOperations => attempt.iterations
  | measurements => search.parameters.inputWidth
  | qubitCount => qubits search

theorem nodup_names : (all.map name).Nodup := by
  decide

end Metric

section Tally

variable (search : Search) (calls : Nat)

/-- The sum of what the attempts add to a metric. -/
def total (attempts : List Attempt) (metric : Metric) : Nat :=
  (attempts.map fun attempt => metric.amount search calls attempt).sum

/-- The most that one of the attempts adds to a metric. -/
def peak (attempts : List Attempt) (metric : Metric) : Nat :=
  (attempts.map fun attempt => metric.amount search calls attempt).foldl Nat.max 0

/-- The report of attempts; without any it has no rows. -/
def tally (attempts : List Attempt) : ResourceReport :=
  if attempts = [] then .empty
  else ⟨Metric.all.map fun metric =>
    ⟨metric.name, total search calls attempts metric, peak search calls attempts metric⟩⟩

end Tally

variable {search : Search} {calls : Nat}

theorem tally_of_ne_nil {attempts : List Attempt} (h : attempts ≠ []) :
    tally search calls attempts = ⟨Metric.all.map fun metric =>
      ⟨metric.name, total search calls attempts metric, peak search calls attempts metric⟩⟩ :=
  if_neg h

theorem total_append (earlier later : List Attempt) (metric : Metric) :
    total search calls (earlier ++ later) metric =
      total search calls earlier metric + total search calls later metric := by
  simp [total]

theorem peak_snoc (attempts : List Attempt) (attempt : Attempt) (metric : Metric) :
    peak search calls (attempts ++ [attempt]) metric =
      Nat.max (peak search calls attempts metric) (metric.amount search calls attempt) := by
  simp [peak]

theorem costs_eq {attempt : Attempt}
    (fits : Metric.oracleCompressionCalls.amount search calls attempt < Word.limit128) :
    costs search calls attempt =
      .ok (Metric.all.map fun metric => (metric.name, metric.amount search calls attempt)) := by
  change 2 * attempt.iterations * calls < Word.limit128 at fits
  rw [costs, Word.fit_of_lt fits]
  rfl

/-- The first attempt makes the rows. -/
theorem record_first {attempt : Attempt}
    (fits : Metric.oracleCompressionCalls.amount search calls attempt < Word.limit128) :
    (do
      let entries ← costs search calls attempt
      (tally search calls []).recordAll entries) = .ok (tally search calls [attempt]) := by
  have new := ResourceReport.recordAll_new
    (fun metric => metric.amount search calls attempt) Metric.nodup_names
    (fun _ member => absurd member List.not_mem_nil)
  rw [costs_eq fits]
  change (tally search calls []).recordAll _ = _
  simpa [tally, ResourceReport.empty, total, peak] using new

/-- One more attempt grows every row by what it adds. -/
theorem record_attempt {done : List Attempt} {attempt : Attempt}
    (fits : ∀ metric, total search calls (done ++ [attempt]) metric < Word.limit128) :
    (do
      let entries ← costs search calls attempt
      (tally search calls done).recordAll entries) =
        .ok (tally search calls (done ++ [attempt])) := by
  have small (metric : Metric) :
      total search calls done metric + metric.amount search calls attempt < Word.limit128 := by
    have := fits metric
    rw [total_append] at this
    simpa [total] using this
  have priced : Metric.oracleCompressionCalls.amount search calls attempt < Word.limit128 :=
    Nat.lt_of_le_of_lt (Nat.le_add_left _ _) (small .oracleCompressionCalls)
  -- The first attempt makes the rows, and the later ones find them.
  by_cases none : done = []
  · rw [none]
    exact record_first priced
  · rw [costs_eq priced]
    change (tally search calls done).recordAll _ = _
    rw [tally_of_ne_nil (List.append_ne_nil_of_right_ne_nil done (List.cons_ne_nil attempt [])),
      tally_of_ne_nil none]
    have known := ResourceReport.recordAll_known (total search calls done) (peak search calls done)
      (fun metric => metric.amount search calls attempt) Metric.nodup_names
      (fun metric _ => small metric)
      (fun _ member => absurd member List.not_mem_nil)
    simpa [total_append, peak_snoc, total] using known

/-- The attempts that are left grow the report of those behind. -/
theorem record_attempts (done : List Attempt) {rest : List Attempt}
    (fits : ∀ metric, total search calls (done ++ rest) metric < Word.limit128) :
    rest.foldlM (fun report attempt => do
        let entries ← costs search calls attempt
        report.recordAll entries) (tally search calls done) =
      .ok (tally search calls (done ++ rest)) := by
  induction rest generalizing done with
  | nil => rw [List.append_nil]; rfl
  | cons attempt rest ih =>
    rw [List.append_cons] at fits ⊢
    have first := record_attempt fun metric =>
      Nat.lt_of_le_of_lt (Nat.le_add_right _ _) (total_append _ rest metric ▸ fits metric)
    rw [List.foldlM_cons, first]
    exact ih (done ++ [attempt]) fits

/-- A schedule is priced exactly, unless one of the sums outgrows its word. -/
theorem estimateWith_eq {count : Nat → Nat → Nat}
    (priced : search.oracle.compressionCalls (encodedLength search.parameters.inputWidth) =
      .ok calls)
    (fits : ∀ metric,
      total search calls (scheduleWith count search.parameters) metric < Word.limit128) :
    estimateWith count search =
      .ok (tally search calls (scheduleWith count search.parameters)) := by
  rw [estimateWith_eq_foldlM priced]
  exact record_attempts [] fits

/-! ## Operations of a reliable catalog -/

/-- No attempt adds `2 ^ 87` to any metric. -/
theorem amount_lt {attempt : Attempt} (iterations : attempt.iterations < Word.limit64)
    (called : calls < twoPow 22) (state : search.oracle.stateWidth ≤ keccakStateWidth)
    (width : search.parameters.outputWidth < twoPow 32) (metric : Metric) :
    metric.amount search calls attempt < twoPow 87 := by
  have powers : twoPow 87 = 2 * Word.limit64 * twoPow 22 := by decide
  have input := search.parameters.inputWidth_le
  cases metric with
  | oracleCompressionCalls =>
    rw [powers]
    exact Nat.mul_lt_mul_of_lt_of_lt (by omega) called
  | qubitCount =>
    change search.parameters.inputWidth + search.oracle.stateWidth +
      search.parameters.outputWidth + 1 < twoPow 87
    have small : 62 + 1600 + twoPow 32 + 1 < twoPow 87 := by decide
    unfold Limits.maxInputWidth keccakStateWidth at *
    omega
  | attempts =>
    change 1 < twoPow 87
    decide
  | measurements =>
    have small : 62 < twoPow 87 := by decide
    exact Nat.lt_of_le_of_lt input small
  | groverIterations | oracleEvaluations | diffusionOperations =>
    have small : 2 * Word.limit64 < twoPow 87 := by decide
    simp only [Metric.amount]
    omega

/-- The sums of up to `2 ^ 40` attempts are 128-bit words. -/
theorem total_lt {attempts : List Attempt} (few : attempts.length ≤ twoPow 40)
    (iterations : ∀ attempt ∈ attempts, attempt.iterations < Word.limit64)
    (called : calls < twoPow 22) (state : search.oracle.stateWidth ≤ keccakStateWidth)
    (width : search.parameters.outputWidth < twoPow 32) (metric : Metric) :
    total search calls attempts metric < Word.limit128 := by
  have each : ∀ n ∈ attempts.map (fun attempt => metric.amount search calls attempt),
      n ≤ twoPow 87 := by
    intro n member
    obtain ⟨attempt, listed, rfl⟩ := List.mem_map.1 member
    exact Nat.le_of_lt (amount_lt (iterations attempt listed) called state width metric)
  have bound := List.sum_le_card_nsmul _ _ each
  rw [List.length_map, nsmul_eq_mul] at bound
  calc total search calls attempts metric
    _ ≤ attempts.length * twoPow 87 := bound
    _ ≤ twoPow 40 * twoPow 87 := Nat.mul_le_mul_right _ few
    _ < Word.limit128 := by decide

/-- The calls for a message of a search over an operation of a reliable catalog are counted. -/
theorem exists_calls {operation : Operation} (reliable : operation.Reliable)
    (bound : search.oracle = operation.oracle search.parameters.outputWidth)
    (width : search.parameters.outputWidth < twoPow 32) :
    ∃ calls, search.oracle.compressionCalls (encodedLength search.parameters.inputWidth) =
      .ok calls ∧ calls < twoPow 22 := by
  have short : encodedLength search.parameters.inputWidth ≤ 8 := by
    have := search.parameters.inputWidth_le
    unfold encodedLength Limits.maxInputWidth at *
    omega
  rw [bound]
  exact reliable.priced _ _ width short

theorem stateWidth_le {operation : Operation} (reliable : operation.Reliable)
    (bound : search.oracle = operation.oracle search.parameters.outputWidth) :
    search.oracle.stateWidth ≤ keccakStateWidth := by
  rw [bound]
  exact reliable.state _

/-- A search over an operation of a reliable catalog is priced, whatever the counts of iterations
are as long as they are 64-bit words. -/
theorem estimateWith_eq_ok {operation : Operation} (reliable : operation.Reliable)
    (bound : search.oracle = operation.oracle search.parameters.outputWidth)
    (width : search.parameters.outputWidth < twoPow 32)
    (few : search.parameters.targets.length ≤ twoPow 40) {count : Nat → Nat → Nat}
    (iterations : ∀ space targets, count space targets < Word.limit64) :
    ∃ calls, estimateWith count search =
      .ok (tally search calls (scheduleWith count search.parameters)) := by
  obtain ⟨calls, priced, called⟩ := exists_calls reliable bound width
  refine ⟨calls, estimateWith_eq priced (total_lt ?_ (fun _ => iterations_lt_of_mem iterations)
    called (stateWidth_le reliable bound) width)⟩
  rw [length_scheduleWith]
  exact few

theorem groverIterations_lt (space targets : Nat) :
    groverIterations space targets < Word.limit64 := by
  unfold groverIterations
  extract_lets
  split
  · exact UInt64.toNat_lt _
  · exact twoPow_pos 64

/-! ## The text of a report -/

theorem lacks_text_tally (attempts : List Attempt) :
    Lacks 'S' (tally search calls attempts).text := by
  apply Lacks.intercalate (by decide)
  intro text member
  rcases List.mem_cons.1 member with rfl | member
  · decide
  obtain ⟨row, listed, rfl⟩ := List.mem_map.1 member
  have named : Lacks 'S' row.metric := by
    unfold tally at listed
    split at listed
    · cases listed
    · obtain ⟨metric, -, rfl⟩ := List.mem_map.1 listed
      change Lacks 'S' metric.name
      cases metric <;> decide
  exact (((named.append (by decide)).append (Unmarked.natText _).search).append
    (by decide)).append (Unmarked.natText _).search

end Estimator

end PreimageSearch
