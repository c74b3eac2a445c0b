/-!
# Durations

An elapsed time and its text: hours, minutes, seconds and hundredths, whole days dropped.
-/

namespace PreimageSearch

structure Duration where
  seconds : Nat
  /-- The rest, in billionths of a second. -/
  nanoseconds : Nat
  nanoseconds_lt : nanoseconds < 1000000000 := by decide
  deriving DecidableEq, Repr

namespace Duration

/-- So many billionths of a second. -/
def ofNanoseconds (n : Nat) : Duration :=
  ⟨n / 1000000000, n % 1000000000, Nat.mod_lt n (by decide)⟩

/-- A number below 100 in two digits. -/
def twoDigits (n : Nat) : String :=
  String.ofList [Nat.digitChar (n / 10 % 10), Nat.digitChar (n % 10)]

/-- The duration as `HH:MM:SS.ff`. -/
def text (d : Duration) : String :=
  twoDigits (d.seconds / 3600 % 24) ++ ":" ++ twoDigits (d.seconds / 60 % 60) ++ ":" ++
    twoDigits (d.seconds % 60) ++ "." ++ twoDigits (d.nanoseconds / 10000000)

end Duration

end PreimageSearch
