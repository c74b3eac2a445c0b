import Mathlib.Data.List.Induction
import Mathlib.Data.List.Nodup
import PreimageSearch.Proofs.Estimation

/-!
# Reports of any entries

Whatever metrics are recorded and however they alternate, the report of a sequence of entries is its
`summary`: one row for each metric, in the order of first occurrences, over all values recorded
under it. Recording one more entry keeps this (`record_summary_known`, `record_summary_new`), and it
fails only if a sum outgrows its word (`Fits`). A summary does not depend on the order of the values
of a metric, nor on how the metrics alternate after their first occurrences.
-/

namespace PreimageSearch.ResourceReport

/-! ## Metrics and their values -/

/-- The values recorded under a metric, in order. -/
def valuesOf (metric : String) (entries : List (String × Nat)) : List Nat :=
  (entries.filter fun entry => entry.1 = metric).map Prod.snd

/-- The metrics recorded, in the order of their first occurrences. -/
def metricsOf (entries : List (String × Nat)) : List String :=
  (entries.map Prod.fst).eraseDups

/-- The row of a metric over all values recorded under it. -/
def rowOf (entries : List (String × Nat)) (metric : String) : MetricRow :=
  ⟨metric, (valuesOf metric entries).sum, (valuesOf metric entries).foldl Nat.max 0⟩

def summary (entries : List (String × Nat)) : ResourceReport :=
  ⟨(metricsOf entries).map (rowOf entries)⟩

section Entries

variable {entries other : List (String × Nat)} {metric : String} {value : Nat}

theorem valuesOf_append (metric : String) (entries later : List (String × Nat)) :
    valuesOf metric (entries ++ later) = valuesOf metric entries ++ valuesOf metric later := by
  simp [valuesOf]

theorem valuesOf_snoc (entries : List (String × Nat)) (metric : String) (value : Nat) :
    valuesOf metric (entries ++ [(metric, value)]) = valuesOf metric entries ++ [value] := by
  simp [valuesOf]

theorem valuesOf_snoc_of_ne {another : String} (h : another ≠ metric) :
    valuesOf another (entries ++ [(metric, value)]) = valuesOf another entries := by
  simp [valuesOf, h.symm]

theorem mem_metricsOf_iff : metric ∈ metricsOf entries ↔ metric ∈ entries.map Prod.fst :=
  List.mem_eraseDups

theorem valuesOf_eq_nil_iff : valuesOf metric entries = [] ↔ metric ∉ metricsOf entries := by
  rw [mem_metricsOf_iff, valuesOf, List.map_eq_nil_iff, List.filter_eq_nil_iff]
  grind

theorem metricsOf_snoc_of_mem (known : metric ∈ metricsOf entries) :
    metricsOf (entries ++ [(metric, value)]) = metricsOf entries := by
  rw [mem_metricsOf_iff] at known
  simp [metricsOf, List.eraseDups_append, List.removeAll, known]

theorem metricsOf_snoc_of_notMem (new : metric ∉ metricsOf entries) :
    metricsOf (entries ++ [(metric, value)]) = metricsOf entries ++ [metric] := by
  rw [mem_metricsOf_iff] at new
  simp [metricsOf, List.eraseDups_append, List.removeAll, List.eraseDups_cons, new]

theorem nodup_metricsOf (entries : List (String × Nat)) : (metricsOf entries).Nodup := by
  induction entries using List.reverseRecOn with
  | nil => exact List.nodup_nil
  | append_singleton entries entry ih =>
    by_cases known : entry.1 ∈ metricsOf entries
    · rwa [metricsOf_snoc_of_mem known]
    · rw [metricsOf_snoc_of_notMem known]
      simpa [List.nodup_append] using ⟨ih, fun another member same => known (same ▸ member)⟩

theorem rowOf_snoc (entries : List (String × Nat)) (metric : String) (value : Nat) :
    rowOf (entries ++ [(metric, value)]) metric =
      ⟨metric, (rowOf entries metric).sum + value, Nat.max (rowOf entries metric).max value⟩ := by
  simp [rowOf, valuesOf_snoc]

/-- The rows of other metrics stay as they are. -/
theorem map_rowOf_snoc {metrics : List String} (others : metric ∉ metrics) :
    metrics.map (rowOf (entries ++ [(metric, value)])) = metrics.map (rowOf entries) := by
  apply List.map_congr_left
  intro another member
  have differs : another ≠ metric := ne_of_mem_of_not_mem member others
  simp [rowOf, valuesOf_snoc_of_ne differs]

/-! ## One more entry -/

theorem metric_ne_of_mem_rows (entries : List (String × Nat)) {metrics : List String}
    (others : metric ∉ metrics) :
    ∀ row ∈ metrics.map (rowOf entries), row.metric ≠ metric := by
  intro row member
  obtain ⟨another, listed, rfl⟩ := List.mem_map.1 member
  exact ne_of_mem_of_not_mem listed others

/-- A metric that was recorded before adds to its row. -/
theorem record_summary_known (known : metric ∈ metricsOf entries) (value : Nat) :
    (summary entries).record metric value =
      if (rowOf entries metric).sum + value < Word.limit128 then
        .ok (summary (entries ++ [(metric, value)]))
      else .error .overflow := by
  obtain ⟨before, after, split⟩ := List.append_of_mem known
  obtain ⟨earlier, later⟩ : metric ∉ before ∧ metric ∉ after := by
    have distinct := nodup_metricsOf entries
    rw [split, List.nodup_middle, List.nodup_cons, List.mem_append, not_or] at distinct
    exact distinct.1
  have recorded := record_known (metric_ne_of_mem_rows entries earlier) (rowOf entries metric).sum
    (rowOf entries metric).max value (after.map (rowOf entries))
  have held : summary entries = ⟨before.map (rowOf entries) ++
      ⟨metric, (rowOf entries metric).sum, (rowOf entries metric).max⟩ ::
        after.map (rowOf entries)⟩ := by
    rw [summary, split, List.map_append, List.map_cons]
    rfl
  rw [held, recorded]
  by_cases fits : (rowOf entries metric).sum + value < Word.limit128
  · rw [if_pos fits, Word.fit_of_lt fits, summary, metricsOf_snoc_of_mem known, split,
      List.map_append, List.map_cons, rowOf_snoc, map_rowOf_snoc earlier, map_rowOf_snoc later]
    simp [Except.map]
  · rw [if_neg fits, Word.fit, if_neg fits]
    rfl

/-- A metric that is new gets a row after all others. -/
theorem record_summary_new (new : metric ∉ metricsOf entries) (value : Nat) :
    (summary entries).record metric value = .ok (summary (entries ++ [(metric, value)])) := by
  have none : valuesOf metric entries = [] := valuesOf_eq_nil_iff.2 new
  rw [summary, record_new (metric_ne_of_mem_rows entries new), summary,
    metricsOf_snoc_of_notMem new, List.map_append, map_rowOf_snoc new, List.map_singleton,
    rowOf_snoc, rowOf, none]
  simp

/-! ## Any number of entries -/

/-- The sums that are formed are words. The first value of a metric is taken as it is, so none is
formed for a metric that is recorded only once. -/
def Fits (entries : List (String × Nat)) : Prop :=
  ∀ metric, 1 < (valuesOf metric entries).length →
    (valuesOf metric entries).sum < Word.limit128

theorem Fits.of_snoc {entry : String × Nat} (fits : Fits (entries ++ [entry])) : Fits entries := by
  intro metric many
  have small := fits metric
  rw [valuesOf_append, List.length_append, List.sum_append] at small
  have := small (by omega)
  omega

/-- One more entry forms a sum exactly if its metric was recorded before. -/
theorem fits_snoc_iff : Fits (entries ++ [(metric, value)]) ↔
    Fits entries ∧
      (metric ∈ metricsOf entries → (rowOf entries metric).sum + value < Word.limit128) := by
  have summed : 1 < (valuesOf metric (entries ++ [(metric, value)])).length ↔
      metric ∈ metricsOf entries := by
    rw [valuesOf_snoc, List.length_append, List.length_singleton, Nat.lt_add_left_iff_pos,
      List.length_pos_iff, ne_eq, valuesOf_eq_nil_iff, not_not]
  constructor
  · intro fits
    refine ⟨fits.of_snoc, fun known => ?_⟩
    have small := fits metric (summed.2 known)
    rwa [valuesOf_snoc, List.sum_append, List.sum_singleton] at small
  · rintro ⟨fits, small⟩ another many
    by_cases same : another = metric
    · subst same
      rw [valuesOf_snoc, List.sum_append, List.sum_singleton]
      exact small (summed.1 many)
    · rw [valuesOf_snoc_of_ne same] at many ⊢
      exact fits another many

theorem recordAll_snoc (report : ResourceReport) (entries : List (String × Nat)) (metric : String)
    (value : Nat) :
    report.recordAll (entries ++ [(metric, value)]) = (do
      let report ← report.recordAll entries
      report.record metric value) := by
  simp [recordAll, List.foldlM_append]

/-- Recording gives the summary if the sums are words, and else it fails. -/
theorem recordAll_cases (entries : List (String × Nat)) :
    (Fits entries ∧ recordAll .empty entries = .ok (summary entries)) ∨
      (¬ Fits entries ∧ recordAll .empty entries = .error .overflow) := by
  -- From the end: so far the report is the summary, or a sum is too large and stays so.
  induction entries using List.reverseRecOn with
  | nil => exact .inl ⟨fun _ many => absurd many (by simp [valuesOf]), rfl⟩
  | append_singleton entries entry ih =>
    obtain ⟨metric, value⟩ := entry
    rcases ih with ⟨fits, recorded⟩ | ⟨outgrown, failed⟩
    · have last : recordAll .empty (entries ++ [(metric, value)]) =
          (summary entries).record metric value := by
        rw [recordAll_snoc, recorded]
        rfl
      rw [last, fits_snoc_iff]
      by_cases known : metric ∈ metricsOf entries
      · rw [record_summary_known known]
        by_cases small : (rowOf entries metric).sum + value < Word.limit128
        · exact .inl ⟨⟨fits, fun _ => small⟩, if_pos small⟩
        · exact .inr ⟨fun both => small (both.2 known), if_neg small⟩
      · exact .inl ⟨⟨fits, fun again => absurd again known⟩, record_summary_new known value⟩
    · rw [recordAll_snoc, failed]
      exact .inr ⟨fun fits => outgrown fits.of_snoc, rfl⟩

theorem recordAll_eq_ok_iff {report : ResourceReport} :
    recordAll .empty entries = .ok report ↔ Fits entries ∧ report = summary entries := by
  rcases recordAll_cases entries with ⟨fits, recorded⟩ | ⟨outgrown, failed⟩
  · rw [recorded, Except.ok.injEq, eq_comm]
    exact (and_iff_right fits).symm
  · rw [failed]
    exact ⟨nofun, fun both => absurd both.1 outgrown⟩

theorem recordAll_eq_error_iff {fault : Fault} :
    recordAll .empty entries = .error fault ↔ ¬ Fits entries ∧ fault = .overflow := by
  rcases recordAll_cases entries with ⟨fits, recorded⟩ | ⟨outgrown, failed⟩
  · rw [recorded]
    exact ⟨nofun, fun both => absurd fits both.1⟩
  · rw [failed, Except.error.injEq, eq_comm]
    exact (and_iff_right outgrown).symm

/-! ## Rows and reordering -/

theorem of_metric?_summary {row : MetricRow} (found : (summary entries).metric? metric = some row) :
    metric ∈ metricsOf entries ∧ row = rowOf entries metric := by
  obtain ⟨another, known, rfl⟩ := List.mem_map.1 (List.mem_of_find?_eq_some found)
  have named := List.find?_some found
  obtain rfl : another = metric := by simpa [rowOf] using named
  exact ⟨known, rfl⟩

theorem metric?_summary (known : metric ∈ metricsOf entries) :
    (summary entries).metric? metric = some (rowOf entries metric) := by
  have listed : rowOf entries metric ∈ (summary entries).rows := List.mem_map_of_mem known
  have found : ((summary entries).metric? metric).isSome = true :=
    List.find?_isSome.2 ⟨_, listed, by simp [rowOf]⟩
  obtain ⟨row, found⟩ := Option.isSome_iff_exists.1 found
  rw [found, (of_metric?_summary found).2]

theorem max?_valuesOf (known : metric ∈ metricsOf entries) :
    (valuesOf metric entries).max? = some (rowOf entries metric).max := by
  have some_value : valuesOf metric entries ≠ [] := fun none => valuesOf_eq_nil_iff.1 none known
  change _ = some ((valuesOf metric entries).foldl max 0)
  rw [List.foldl_max]
  cases most : (valuesOf metric entries).max? with
  | none => exact absurd (List.max?_eq_none_iff.1 most) some_value
  | some most => simp

theorem perm_valuesOf (same : other.Perm entries) (metric : String) :
    (valuesOf metric other).Perm (valuesOf metric entries) :=
  (same.filter _).map _

theorem fits_iff_of_perm (same : other.Perm entries) : Fits other ↔ Fits entries := by
  simp only [Fits, (perm_valuesOf same _).length_eq, (perm_valuesOf same _).sum_eq]

theorem rowOf_eq_of_perm (same : other.Perm entries) : rowOf other = rowOf entries := by
  funext metric
  have values := perm_valuesOf same metric
  rw [rowOf, rowOf, values.sum_eq, values.foldl_eq 0]

/-- Entries may come in another order if the metrics first occur in the same one. -/
theorem recordAll_eq_of_perm (same : other.Perm entries)
    (firsts : metricsOf other = metricsOf entries) :
    recordAll .empty other = recordAll .empty entries := by
  have summaries : summary other = summary entries := by
    rw [summary, summary, firsts, rowOf_eq_of_perm same]
  cases result : recordAll .empty entries with
  | ok report =>
    obtain ⟨fits, rfl⟩ := recordAll_eq_ok_iff.1 result
    exact recordAll_eq_ok_iff.2 ⟨(fits_iff_of_perm same).2 fits, summaries.symm⟩
  | error fault =>
    obtain ⟨outgrown, rfl⟩ := recordAll_eq_error_iff.1 result
    exact recordAll_eq_error_iff.2 ⟨mt (fits_iff_of_perm same).1 outgrown, rfl⟩

end Entries

/-- Recording any entries, one after another, into an empty report. It fails only if a sum outgrows
its word, and a sum is formed where a metric is recorded more than once. The report has one row for
each metric that occurs, in the order of first occurrences, and no metric has two. A metric is found
exactly if it was recorded, and its row has the sum and the maximum of its values. Entries in
another order give the same, if the metrics first occur in the same order. -/
theorem recordAll_accumulates (entries : List (String × Nat)) :
    ((∃ report, recordAll .empty entries = .ok report) ↔
      ∀ metric, 1 < (valuesOf metric entries).length →
        (valuesOf metric entries).sum < 2 ^ 128) ∧
    (∀ fault, recordAll .empty entries = .error fault → fault = .overflow) ∧
    (∀ report, recordAll .empty entries = .ok report →
      (report.rows.map MetricRow.metric).Nodup ∧
      report.rows.map MetricRow.metric = (entries.map Prod.fst).eraseDups ∧
      (∀ metric, (report.metric? metric).isSome ↔ metric ∈ entries.map Prod.fst) ∧
      ∀ metric row, report.metric? metric = some row →
        row.metric = metric ∧ row.sum = (valuesOf metric entries).sum ∧
          (valuesOf metric entries).max? = some row.max) ∧
    ∀ other, other.Perm entries →
      (other.map Prod.fst).eraseDups = (entries.map Prod.fst).eraseDups →
        recordAll .empty other = recordAll .empty entries := by
  refine ⟨?_, fun fault failed => (recordAll_eq_error_iff.1 failed).2, fun report recorded => ?_,
    fun other same firsts => recordAll_eq_of_perm same firsts⟩
  · constructor
    · rintro ⟨report, recorded⟩
      exact (recordAll_eq_ok_iff.1 recorded).1
    · intro fits
      exact ⟨_, recordAll_eq_ok_iff.2 ⟨fits, rfl⟩⟩
  · obtain ⟨-, rfl⟩ := recordAll_eq_ok_iff.1 recorded
    have names : (summary entries).rows.map MetricRow.metric = metricsOf entries := by
      simp [summary, rowOf, Function.comp_def]
    refine ⟨names ▸ nodup_metricsOf entries, names, fun metric => ?_, fun metric row found => ?_⟩
    · rw [← mem_metricsOf_iff, Option.isSome_iff_exists]
      exact ⟨fun ⟨row, found⟩ => (of_metric?_summary found).1,
        fun known => ⟨_, metric?_summary known⟩⟩
    · obtain ⟨known, rfl⟩ := of_metric?_summary found
      exact ⟨rfl, rfl, max?_valuesOf known⟩

/-- Two metrics that alternate, and the same values in another order. -/
theorem recordAll_accumulates_alternating :
    ∃ report row, recordAll .empty [("Depth", 3), ("Width", 8), ("Depth", 4)] = .ok report ∧
      report.metric? "Depth" = some row ∧ row.sum = 7 ∧ row.max = 4 ∧
      recordAll .empty [("Depth", 4), ("Depth", 3), ("Width", 8)] = .ok report := by
  obtain ⟨-, -, rows, reordered⟩ := recordAll_accumulates [("Depth", 3), ("Width", 8), ("Depth", 4)]
  have recorded : recordAll .empty [("Depth", 3), ("Width", 8), ("Depth", 4)] =
      .ok ⟨[⟨"Depth", 7, 4⟩, ⟨"Width", 8, 8⟩]⟩ := by decide
  obtain ⟨-, -, -, found⟩ := rows _ recorded
  obtain ⟨-, sum, most⟩ := found "Depth" ⟨"Depth", 7, 4⟩ rfl
  have again := reordered [("Depth", 4), ("Depth", 3), ("Width", 8)] (by decide) (by decide)
  exact ⟨_, _, recorded, rfl, sum, Option.some.inj most.symm, again.trans recorded⟩

end PreimageSearch.ResourceReport
