import Mathlib.Data.List.TakeWhile
import PreimageSearch.Proofs.Entries

/-!
# Line ends

No answer depends on how its line ends: every question of the interview accepts a text by what is
left of it without the line feeds and carriage returns at its end (`IgnoresLineEnd`). An integer is
trimmed of all white space, of which these are a part, and a hexadecimal number of nothing else.
-/

namespace PreimageSearch

/-! ## Trimming -/

namespace Blank

theorem trimRight_append {dropped : Char → Bool} {ending : List Char}
    (h : ∀ c ∈ ending, dropped c = true) (cs : List Char) :
    trimRight dropped (cs ++ ending) = trimRight dropped cs := by
  unfold trimRight
  rw [List.reverse_append, List.dropWhile_append_of_pos (by simpa using h)]

theorem exists_trimmed (dropped : Char → Bool) (cs : List Char) :
    ∃ ending, (∀ c ∈ ending, dropped c = true) ∧ cs = trimRight dropped cs ++ ending := by
  refine ⟨(cs.reverse.takeWhile dropped).reverse, fun c member => ?_, ?_⟩
  · exact List.mem_takeWhile_imp (List.mem_reverse.1 member)
  · rw [trimRight, ← List.reverse_append, List.takeWhile_append_dropWhile, List.reverse_reverse]

theorem trim_append {ending : List Char} (h : ∀ c ∈ ending, isBlank c = true) (cs : List Char) :
    trim (cs ++ ending) = trim cs := by
  unfold trim
  rw [List.dropWhile_append]
  by_cases blank : (cs.dropWhile isBlank).isEmpty = true
  · rw [if_pos blank, List.isEmpty_iff.1 blank, List.dropWhile_eq_nil_iff.2 h]
  · rw [if_neg blank, trimRight_append h]

/-- Blanks that are trimmed at the end beforehand make no difference to a trimming of all. -/
theorem trim_trimRight {dropped : Char → Bool} (h : ∀ c, dropped c = true → isBlank c = true)
    (cs : List Char) : trim (trimRight dropped cs) = trim cs := by
  obtain ⟨ending, all, same⟩ := exists_trimmed dropped cs
  have blank : ∀ c ∈ ending, isBlank c = true := fun c member => h c (all c member)
  calc trim (trimRight dropped cs)
      = trim (trimRight dropped cs ++ ending) := (trim_append blank _).symm
    _ = trim cs := by rw [← same]

end Blank

namespace Dialogue

variable {α : Type}

/-- The characters that end a line. -/
def endsLine (c : Char) : Bool :=
  c == '\n' || c == '\r'

theorem withoutLineEnd_eq (text : String) :
    withoutLineEnd text = String.ofList (Blank.trimRight endsLine text.toList) :=
  rfl

theorem withoutLineEnd_append {ending : String} (h : ∀ c ∈ ending.toList, endsLine c = true)
    (text : String) : withoutLineEnd (text ++ ending) = withoutLineEnd text := by
  rw [withoutLineEnd_eq, withoutLineEnd_eq, String.toList_append, Blank.trimRight_append h]

theorem read?_withoutLineEnd (kind : IntegerKind) (text : String) :
    Integer.read? kind (withoutLineEnd text) = Integer.read? kind text := by
  have blank (c : Char) (h : endsLine c = true) : Blank.isBlank c = true := by
    obtain rfl | rfl : c = '\n' ∨ c = '\r' := by simpa [endsLine] using h
    · decide
    · decide
  rw [Integer.read?, Integer.read?, withoutLineEnd_eq, String.toList_ofList,
    Blank.trim_trimRight blank]

/-- Texts that differ only in their line ends are answered alike. -/
def IgnoresLineEnd (accept : String → Option α) : Prop :=
  ∀ text text', withoutLineEnd text = withoutLineEnd text' → accept text = accept text'

end Dialogue

namespace Interview

open Dialogue

theorem read?_eq_of_withoutLineEnd (kind : IntegerKind) {text text' : String}
    (same : withoutLineEnd text = withoutLineEnd text') :
    Integer.read? kind text = Integer.read? kind text' := by
  rw [← read?_withoutLineEnd, same, read?_withoutLineEnd]

theorem ignoresLineEnd_optionAt {α : Type} (options : List α) :
    IgnoresLineEnd (optionAt options) := by
  intro text text' same
  unfold optionAt
  rw [read?_eq_of_withoutLineEnd _ same]

theorem ignoresLineEnd_countIn (bits least greatest : Nat) :
    IgnoresLineEnd (countIn bits least greatest) := by
  intro text text' same
  unfold countIn
  rw [read?_eq_of_withoutLineEnd _ same]

theorem ignoresLineEnd_hexUpTo (greatest : Nat) : IgnoresLineEnd (hexUpTo greatest) := by
  intro text text' same
  unfold hexUpTo
  rw [same]

end Interview

end PreimageSearch
