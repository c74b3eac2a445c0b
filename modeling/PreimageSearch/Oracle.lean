import PreimageSearch.Bytes

/-!
# Oracles

An oracle is a function from messages to outputs, together with the data from which the cost of
evaluating it is computed. Evaluating it or counting its calls may fail with a `Fault`.
-/

namespace PreimageSearch

structure Oracle where
  name : String
  /-- The width of the outputs in bits. -/
  outputWidth : Nat
  /-- The number of message bytes that one compression call takes. -/
  blockSize : Nat
  /-- The width of the internal state in bits. -/
  stateWidth : Nat
  evaluate : Bytes → Except Fault Nat
  /-- The number of compression calls for a message of the given length. -/
  compressionCalls : Nat → Except Fault Nat
  /-- How the oracle was made, for diagnostics. -/
  description : String

/-- Whether the message for `input` has the output `target`. -/
def Oracle.matches (oracle : Oracle) (input width target : Nat) : Except Fault Bool := do
  let message ← encodeInput input width
  let output ← oracle.evaluate message
  return output == target

end PreimageSearch
