import PreimageSearch.Estimate.Report
import PreimageSearch.Parameters
import PreimageSearch.Session.Duration

/-!
# Printed results

How the console shows the time a run took and what came of it.
-/

namespace PreimageSearch.Rendering

def runtime (elapsed : Duration) : String :=
  "\nRuntime: " ++ elapsed.text ++ "\n"

def estimation (report : ResourceReport) : String :=
  "\nResults\n--------------------\n" ++ report.text ++ "\n"

def outcome : SearchOutcome → String
  | .found input => "\nSearch result (hex): " ++ Hex.text input ++ "\n"
  | .exhausted => "\nSearch failed.\n"

end PreimageSearch.Rendering
