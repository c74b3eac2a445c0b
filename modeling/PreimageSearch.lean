import PreimageSearch.Main
import PreimageSearch.Proofs.Schedule
import PreimageSearch.Proofs.StateVector
import PreimageSearch.Proofs.Simulation
import PreimageSearch.Proofs.Transcript
import PreimageSearch.Proofs.Entries
import PreimageSearch.Proofs.Marker
import PreimageSearch.Proofs.Catalog
import PreimageSearch.Proofs.Interview
import PreimageSearch.Proofs.Described
import PreimageSearch.Proofs.Estimation
import PreimageSearch.Proofs.Turn
import PreimageSearch.Proofs.Ending
import PreimageSearch.Proofs.Hex
import PreimageSearch.Proofs.Printed
import PreimageSearch.Proofs.CostTable
import PreimageSearch.Proofs.Budget
import PreimageSearch.Proofs.LineEnd
import PreimageSearch.Proofs.SideBySide
import PreimageSearch.Proofs.Causality
import PreimageSearch.Proofs.Memoryless
import PreimageSearch.Proofs.Truncation
import PreimageSearch.Proofs.OtherLineEnds
import PreimageSearch.Proofs.Dispatch
import PreimageSearch.Proofs.LogHistory
import PreimageSearch.Proofs.Amplification
import PreimageSearch.Proofs.Continuation
import PreimageSearch.Proofs.MarkedAmplitudes
import PreimageSearch.Proofs.Admission
import PreimageSearch.Proofs.Positional
import PreimageSearch.Proofs.Encoding
import PreimageSearch.Proofs.Numerals
import PreimageSearch.Proofs.FirstValid
import PreimageSearch.Proofs.Headroom
import PreimageSearch.Proofs.StreamPrefix
import PreimageSearch.Proofs.CallCount
import PreimageSearch.Proofs.Targets
import PreimageSearch.Proofs.Lookup
import PreimageSearch.Proofs.Documents
import PreimageSearch.Proofs.LoggingSettings
import PreimageSearch.Proofs.ReportText
import PreimageSearch.Proofs.Settings
import PreimageSearch.Proofs.ConfigText
import PreimageSearch.Proofs.Accumulation
import PreimageSearch.Proofs.TimeOfDay
