import PreimageSearch.Fault

/-!
# Resource reports

A report has one row for each metric recorded, in the order of first records, with the sum and the
maximum of the values recorded. Sums are held in 128-bit words.
-/

namespace PreimageSearch

structure MetricRow where
  metric : String
  sum : Nat
  max : Nat
  deriving DecidableEq, Repr

structure ResourceReport where
  rows : List MetricRow
  deriving DecidableEq, Repr

namespace ResourceReport

def empty : ResourceReport := ⟨[]⟩

/-- Adds a value to the row of its metric, or a new row after all others. -/
def recordIn (metric : String) (value : Nat) : List MetricRow → Except Fault (List MetricRow)
  | [] => .ok [⟨metric, value, value⟩]
  | row :: rows =>
    if row.metric = metric then do
      let sum ← Word.fit Word.limit128 (row.sum + value)
      return ⟨metric, sum, Nat.max row.max value⟩ :: rows
    else do
      let rows ← recordIn metric value rows
      return row :: rows

def record (report : ResourceReport) (metric : String) (value : Nat) :
    Except Fault ResourceReport :=
  (recordIn metric value report.rows).map ResourceReport.mk

/-- Records metrics and values one after another. -/
def recordAll (report : ResourceReport) (entries : List (String × Nat)) :
    Except Fault ResourceReport :=
  entries.foldlM (fun report entry => report.record entry.1 entry.2) report

/-- The row of a metric. -/
def metric? (report : ResourceReport) (metric : String) : Option MetricRow :=
  report.rows.find? fun row => row.metric == metric

/-- The fields of a row, separated by tabs. -/
def rowText (row : MetricRow) : String :=
  row.metric ++ "\t" ++ toString row.sum ++ "\t" ++ toString row.max

/-- The rows as lines of tab-separated fields below a header; the last line is not ended. -/
def text (report : ResourceReport) : String :=
  "\n".intercalate ("Metric\tSum\tMax" :: report.rows.map rowText)

end ResourceReport

end PreimageSearch
