import Mathlib.Data.List.Forall2
import PreimageSearch.Proofs.CostTable
import PreimageSearch.Text.Integer

/-!
# Reading a report back

The text of a report is a table of lines and fields. No decimal number holds a tab or a line feed,
and no metric of the estimator does, so the text falls apart into the fields that were put together
(`splitOn_text`, `splitOn_rowText`), and the numbers read as the sums and maxima. A report that the
estimator makes is therefore known from its text.
-/

namespace PreimageSearch

namespace Integer

theorem isDigit_of_mem_toDigits {n : Nat} {c : Char} (member : c ∈ Nat.toDigits 10 n) :
    isDigit c = true := by
  have digit : c.isDigit = true := Nat.isDigit_of_mem_toDigits (by decide) (by decide) member
  simpa [isDigit, Char.isDigit, Char.le_def] using digit

/-- The decimal digits of a number read as the number. -/
theorem readDigits?_toDigits (n : Nat) : readDigits? (Nat.toDigits 10 n) = some n := by
  have digits : (Nat.toDigits 10 n).all isDigit = true := by
    rw [List.all_eq_true]
    exact fun c => isDigit_of_mem_toDigits
  have value : digitsValue (Nat.toDigits 10 n) = n := by
    rw [digitsValue, ← Nat.ofDigitChars_eq_foldl, Nat.ofDigitChars_ten_toDigits]
  rw [readDigits?, if_pos ⟨Nat.toDigits_ne_nil, digits⟩, value]

end Integer

namespace ResourceReport

/-! ## Lines and fields -/

/-- The characters that end fields and lines. -/
def Separates (c : Char) : Prop :=
  c = '\t' ∨ c = '\n'

/-- No metric of the report holds a separator. -/
def Separable (report : ResourceReport) : Prop :=
  ∀ row ∈ report.rows, ∀ c ∈ row.metric.toList, ¬ Separates c

theorem not_separates_of_mem_toDigits {n : Nat} {c : Char} (member : c ∈ Nat.toDigits 10 n) :
    ¬ Separates c := by
  have digit := Integer.isDigit_of_mem_toDigits member
  rintro (rfl | rfl)
  · exact absurd digit (by decide)
  · exact absurd digit (by decide)

theorem toList_rowText (row : MetricRow) : (rowText row).toList =
    ['\t'].intercalate
      [row.metric.toList, Nat.toDigits 10 row.sum, Nat.toDigits 10 row.max] := by
  simp [rowText]

theorem splitOn_rowText {row : MetricRow} (plain : ∀ c ∈ row.metric.toList, ¬ Separates c) :
    (rowText row).toList.splitOn '\t' =
      [row.metric.toList, Nat.toDigits 10 row.sum, Nat.toDigits 10 row.max] := by
  rw [toList_rowText]
  apply List.splitOn_intercalate
  · intro part member inside
    simp only [List.mem_cons, List.not_mem_nil, or_false] at member
    rcases member with rfl | rfl | rfl
    · exact plain _ inside (.inl rfl)
    · exact not_separates_of_mem_toDigits inside (.inl rfl)
    · exact not_separates_of_mem_toDigits inside (.inl rfl)
  · exact List.cons_ne_nil _ _

theorem lineFeed_notMem_rowText {row : MetricRow}
    (plain : ∀ c ∈ row.metric.toList, ¬ Separates c) : '\n' ∉ (rowText row).toList := by
  intro inside
  simp only [rowText, String.toList_append, List.mem_append] at inside
  rcases inside with (((metric | tab) | sum) | tab) | most
  · exact plain _ metric (.inr rfl)
  · exact absurd tab (by decide)
  · exact not_separates_of_mem_toDigits (by simpa using sum) (.inr rfl)
  · exact absurd tab (by decide)
  · exact not_separates_of_mem_toDigits (by simpa using most) (.inr rfl)

theorem splitOn_text {report : ResourceReport} (plain : report.Separable) :
    report.text.toList.splitOn '\n' =
      "Metric\tSum\tMax".toList :: report.rows.map fun row => (rowText row).toList := by
  have lines : report.text.toList = ['\n'].intercalate
      ("Metric\tSum\tMax".toList :: report.rows.map fun row => (rowText row).toList) := by
    rw [text, String.toList_intercalate, List.map_cons, List.map_map]
    rfl
  rw [lines]
  apply List.splitOn_intercalate
  · intro line member
    rcases List.mem_cons.1 member with rfl | member
    · decide
    · obtain ⟨row, listed, rfl⟩ := List.mem_map.1 member
      exact lineFeed_notMem_rowText (plain row listed)
  · exact List.cons_ne_nil _ _

/-! ## Reading -/

/-- The line has three fields: the metric, and the sum and the maximum in decimal digits. -/
def LineReads (line : List Char) (row : MetricRow) : Prop :=
  ∃ sum most, line.splitOn '\t' = [row.metric.toList, sum, most] ∧
    Integer.readDigits? sum = some row.sum ∧ Integer.readDigits? most = some row.max

theorem LineReads.unique : Relator.RightUnique LineReads := by
  rintro line ⟨metric, sum, most⟩ ⟨metric', sum', most'⟩ ⟨s, m, fields, reads, reads'⟩
    ⟨s', m', fields', again, again'⟩
  rw [fields] at fields'
  simp only [List.cons.injEq, and_true] at fields'
  obtain ⟨named, rfl, rfl⟩ := fields'
  rw [reads, Option.some.injEq] at again
  rw [reads', Option.some.injEq] at again'
  rw [MetricRow.mk.injEq]
  exact ⟨String.toList_inj.1 named, again, again'⟩

theorem lineReads_rowText {row : MetricRow} (plain : ∀ c ∈ row.metric.toList, ¬ Separates c) :
    LineReads (rowText row).toList row :=
  ⟨_, _, splitOn_rowText plain, Integer.readDigits?_toDigits _, Integer.readDigits?_toDigits _⟩

/-- The lines below the header read as the rows. -/
theorem exists_lines {report : ResourceReport} (plain : report.Separable) :
    ∃ lines, report.text.toList.splitOn '\n' = "Metric\tSum\tMax".toList :: lines ∧
      List.Forall₂ LineReads lines report.rows := by
  refine ⟨_, splitOn_text plain, ?_⟩
  rw [List.forall₂_map_left_iff, List.forall₂_same]
  exact fun row listed => lineReads_rowText (plain row listed)

/-- Reports without separators in their metrics have texts of their own. -/
theorem text_injective {report other : ResourceReport} (plain : report.Separable)
    (plain' : other.Separable) (same : other.text = report.text) : other = report := by
  obtain ⟨lines, split, reads⟩ := exists_lines plain
  obtain ⟨lines', split', reads'⟩ := exists_lines plain'
  rw [same, split] at split'
  obtain ⟨-, rfl⟩ := List.cons.inj split'
  have rows : other.rows = report.rows := LineReads.unique.forall₂ reads' reads
  cases other
  cases report
  exact congrArg ResourceReport.mk rows

end ResourceReport

namespace Estimator

open ResourceReport (LineReads)

theorem Metric.not_separates (metric : Metric) :
    ∀ c ∈ metric.name.toList, ¬ ResourceReport.Separates c := by
  have plain : metric.name.toList.all (fun c => c != '\t' && c != '\n') = true := by
    cases metric <;> decide
  intro c member
  have apart := List.all_eq_true.1 plain c member
  simpa [ResourceReport.Separates] using apart

/-- No metric of the estimator holds a separator. -/
theorem separable_of_ok {count : Nat → Nat → Nat} {search : Search} {report : ResourceReport}
    (priced : estimateWith count search = .ok report) : report.Separable := by
  cases called : search.oracle.compressionCalls (encodedLength search.parameters.inputWidth) with
  | error fault =>
    rw [estimateWith, called] at priced
    cases priced
  | ok calls =>
    intro row listed
    rw [eq_costTable_of_ok called priced, costTable_eq] at listed
    obtain ⟨metric, -, rfl⟩ := List.mem_map.1 listed
    exact metric.not_separates

/-- The text of a report tells everything, whatever counts the iterations (`estimate` counts them by
`groverIterations`). It splits at line feeds into the header and one line for each row, in order;
each line splits at tabs into three fields, of which the first is the metric, and the second and
third read in decimal as the sum and the maximum. So reports that differ have texts that differ. -/
theorem text_loses_nothing (count : Nat → Nat → Nat) (search : Search) (report : ResourceReport)
    (priced : estimateWith count search = .ok report) :
    (∃ lines, report.text.toList.splitOn '\n' = "Metric\tSum\tMax".toList :: lines ∧
      List.Forall₂ LineReads lines report.rows) ∧
    ∀ count' search' other, estimateWith count' search' = .ok other → other ≠ report →
      other.text ≠ report.text := by
  have plain := separable_of_ok priced
  refine ⟨ResourceReport.exists_lines plain, fun count' search' other priced' differ same => ?_⟩
  exact differ (ResourceReport.text_injective plain (separable_of_ok priced') same)

/-- Two attempts over twelve bits, with as many iterations as there are inputs for each target. -/
theorem text_loses_nothing_crc8 :
    let search : Search := ⟨.ofChecksum .crc8,
      ⟨"CRC-8", ⟨[1, 3], by decide, by decide⟩, 12, 8, 7, by decide, by decide, by decide,
        by decide⟩⟩
    ∃ report, estimateWith (· / ·) search = .ok report ∧
      (⟨"OracleCompressionCalls", 21844, 16384⟩ : MetricRow) ∈ report.rows ∧
      ∃ lines, report.text.toList.splitOn '\n' = "Metric\tSum\tMax".toList :: lines ∧
        List.Forall₂ LineReads lines report.rows := by
  intro search
  have priced : estimateWith (· / ·) search = .ok ⟨[⟨"Attempts", 2, 1⟩,
      ⟨"GroverIterations", 5461, 4096⟩, ⟨"OracleEvaluations", 10922, 8192⟩,
      ⟨"OracleCompressionCalls", 21844, 16384⟩, ⟨"DiffusionOperations", 5461, 4096⟩,
      ⟨"Measurements", 24, 12⟩, ⟨"QubitCount", 58, 29⟩]⟩ := by decide
  exact ⟨_, priced, by decide, (text_loses_nothing _ _ _ priced).1⟩

end Estimator

end PreimageSearch
