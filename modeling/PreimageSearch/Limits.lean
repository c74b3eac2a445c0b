/-!
# Limits

The bounds that prompts, constructors and the configuration all share, so that no two of them can
disagree about what is a valid search.
-/

namespace PreimageSearch.Limits

/-- The narrowest search space, in bits. -/
def minInputWidth : Nat := 1

/-- The widest search space, in bits: the number of inputs stays below `2 ^ 63`. -/
def maxInputWidth : Nat := 62

/-- The fewest targets of a search that assumes more than one. -/
def minTargets : Nat := 2

/-- The most targets a single attempt may assume, `2 ^ 31 - 1`. -/
def maxTargets : Nat := 2147483647

/-- The longest run of attempts that assume one target more each time, `2 ^ 20`. -/
def maxArithmeticTargets : Nat := 1048576

def minGeometricAttempts : Nat := 2

/-- The longest run of doubling attempts: the last one assumes `2 ^ 30` targets. -/
def maxGeometricAttempts : Nat := 31

/-- The narrowest output that may be asked of a function of variable output. -/
def minOutputWidth : Nat := 1

/-- The widest output that may be asked of a function of variable output. -/
def maxOutputWidth : Nat := 8192

/-- The widest search space that is simulated unless the configuration says otherwise. -/
def defaultSimulatedWidth : Nat := 20

end PreimageSearch.Limits
