/-!
# White space

The characters with the White_Space property, and texts without any at their ends.
-/

namespace PreimageSearch.Blank

/-- The first and last character of every run of white space, in order. -/
def ranges : List (Nat × Nat) :=
  [(0x09, 0x0D), (0x20, 0x20), (0x85, 0x85), (0xA0, 0xA0), (0x1680, 0x1680), (0x2000, 0x200A),
    (0x2028, 0x2029), (0x202F, 0x202F), (0x205F, 0x205F), (0x3000, 0x3000)]

def isBlank (c : Char) : Bool :=
  ranges.any fun range => range.1 ≤ c.toNat && c.toNat ≤ range.2

/-- The characters up to the last one that is not in the class `dropped`. -/
def trimRight (dropped : Char → Bool) (cs : List Char) : List Char :=
  (cs.reverse.dropWhile dropped).reverse

/-- The characters from the first to the last one that is not blank. -/
def trim (cs : List Char) : List Char :=
  trimRight isBlank (cs.dropWhile isBlank)

end PreimageSearch.Blank
