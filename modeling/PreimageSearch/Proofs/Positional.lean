import Mathlib.Data.List.Forall2
import Mathlib.Data.Nat.Digits.Defs

/-!
# Positional notation

Digits in a base, the most significant first. A number that is accumulated digit by digit is the
library's `Nat.ofDigits` of the digits in reverse (`foldl_eq_ofDigits`), and `Writes base cs n` says
that the characters `cs` write the number `n`. Entered integers, hexadecimal numbers and byte
strings are all read so.
-/

namespace PreimageSearch.Positional

/-- Accumulating digits from the most significant one on gives the number that they stand for. -/
theorem foldl_eq_ofDigits (base : Nat) (digits : List Nat) (n : Nat) :
    digits.foldl (fun n d => base * n + d) n =
      base ^ digits.length * n + Nat.ofDigits base digits.reverse := by
  induction digits generalizing n with
  | nil => simp
  | cons d digits ih =>
    rw [List.foldl_cons, ih, List.reverse_cons, Nat.ofDigits_append, Nat.ofDigits_singleton,
      List.length_cons, List.length_reverse]
    ring

/-- The character `c` is the digit of value `d` in a base up to sixteen, in either case. -/
def IsDigit (base : Nat) (c : Char) (d : Nat) : Prop :=
  d < base ∧ (c = Nat.digitChar d ∨ c = (Nat.digitChar d).toUpper)

instance (base : Nat) (c : Char) (d : Nat) : Decidable (IsDigit base c d) :=
  inferInstanceAs (Decidable (_ ∧ _))

/-- What holds of the characters counted from the first one of a range holds in the range. -/
theorem of_range {P : Char → Prop} {first last c : Char}
    (all : ∀ k ≤ last.toNat - first.toNat, P (Char.ofNat (first.toNat + k))) (least : first ≤ c)
    (greatest : c ≤ last) : P c := by
  have least' : first.toNat ≤ c.toNat := UInt32.le_iff_toNat_le.1 (Char.le_def.1 least)
  have greatest' : c.toNat ≤ last.toNat := UInt32.le_iff_toNat_le.1 (Char.le_def.1 greatest)
  have counted := all (c.toNat - first.toNat) (by omega)
  rwa [Nat.add_sub_cancel' least', Char.ofNat_toNat] at counted

/-- The characters `cs` are digits that write `n`, the most significant first; none write zero. -/
def Writes (base : Nat) (cs : List Char) (n : Nat) : Prop :=
  ∃ digits, List.Forall₂ (IsDigit base) cs digits ∧ Nat.ofDigits base digits.reverse = n

/-- A number is written by the digits from which it is accumulated. -/
theorem writes_iff_foldl {base n : Nat} {cs : List Char} :
    Writes base cs n ↔ ∃ digits, List.Forall₂ (IsDigit base) cs digits ∧
      digits.foldl (fun n d => base * n + d) 0 = n := by
  simp only [Writes, foldl_eq_ofDigits, Nat.mul_zero, Nat.zero_add]

end PreimageSearch.Positional
