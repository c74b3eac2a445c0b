import PreimageSearch.Catalog

/-!
# Attempts

A search makes one attempt for each entry of its target sequence, and each attempt amplifies for the
number of iterations that suits the number of targets it assumes.
-/

namespace PreimageSearch

/-- The number of iterations after which a measurement is most likely to hit one of `targets` marked
inputs among `searchSpace`: the whole number nearest to `π / (4 θ) - 1 / 2`, where `θ` is the arc
sine of the square root of the fraction marked. Assuming every input marked or more takes none. -/
def groverIterations (searchSpace targets : Nat) : Nat :=
  let fraction := targets.toUInt64.toFloat / searchSpace.toUInt64.toFloat
  let fraction := if fraction < 1.0 then fraction else 1.0
  let angle := fraction.sqrt.asin
  let iterations := (3.14159265358979323846 / (4.0 * angle) - 0.5).round
  if iterations.isFinite && iterations > 0.0 then iterations.toUInt64.toNat else 0

/-- One attempt: how many targets it assumes and how often it amplifies. -/
structure Attempt where
  assumed : Nat
  iterations : Nat
  deriving DecidableEq, Repr

end PreimageSearch
