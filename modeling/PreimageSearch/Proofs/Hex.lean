import Mathlib.Data.Nat.Size
import PreimageSearch.Parameters
import PreimageSearch.Proofs.Positional

/-!
# Hexadecimal notation

The text of a number reads as that number (`read?_text`), and it is made of digits only. What reads
as a number is a text of hexadecimal digits, which writes the number in base sixteen
(`read?_eq_some_iff`). The bound that a question sets on such a number is the one that the search
parameters check (`make_ne_outputTooWide_iff`).
-/

namespace PreimageSearch.Hex

open Positional

/-! ## What is written -/

theorem digitValue?_digit {d : Nat} (h : d < 16) : digitValue? (digit d) = some d := by
  have all : ∀ d < 16, digitValue? (digit d) = some d := by decide
  exact all d h

theorem readFrom_digitsBefore (n : Nat) (tail : List Char) :
    readFrom 0 (digitsBefore n tail) = readFrom n tail := by
  fun_induction digitsBefore n tail with
  | case1 n tail small => simp [readFrom, digitValue?_digit small]
  | case2 n tail large ih =>
    have last : n % 16 < 16 := Nat.mod_lt n (by decide)
    rw [ih, readFrom, digitValue?_digit last, Option.bind_some, Nat.div_add_mod]

/-- What is written is read again. -/
theorem read?_text (n : Nat) : read? (text n) = some n := by
  rw [read?, text, String.toList_ofList, digits, readFrom_digitsBefore, readFrom]

theorem exists_digit_of_mem {n : Nat} {tail : List Char} {c : Char}
    (h : c ∈ digitsBefore n tail) : (∃ d < 16, c = digit d) ∨ c ∈ tail := by
  fun_induction digitsBefore n tail with
  | case1 n tail small =>
    rcases List.mem_cons.1 h with rfl | member
    · exact .inl ⟨n, small, rfl⟩
    · exact .inr member
  | case2 n tail large ih =>
    rcases ih h with found | member
    · exact .inl found
    rcases List.mem_cons.1 member with rfl | member
    · exact .inl ⟨n % 16, Nat.mod_lt n (by decide), rfl⟩
    · exact .inr member

/-- The text of a number has no other characters than digits. -/
theorem exists_digit_of_mem_text {n : Nat} {c : Char} (h : c ∈ (text n).toList) :
    ∃ d < 16, c = digit d := by
  rw [text, String.toList_ofList] at h
  rcases exists_digit_of_mem h with found | member
  · exact found
  · cases member

/-- The digits of a number are the library's, in upper case. -/
theorem digitsBefore_eq (n : Nat) (tail : List Char) :
    digitsBefore n tail = (Nat.toDigits 16 n).map Char.toUpper ++ tail := by
  have same : ∀ d < 16, digit d = (Nat.digitChar d).toUpper := by decide
  fun_induction digitsBefore n tail with
  | case1 n tail small =>
    rw [Nat.toDigits_of_lt_base small, same n small]
    rfl
  | case2 n tail large ih =>
    have last : n % 16 < 16 := Nat.mod_lt n (by decide)
    have split : Nat.toDigits 16 n = Nat.toDigits 16 (n / 16) ++ [Nat.digitChar (n % 16)] :=
      Nat.toDigits_of_base_le (by decide) (Nat.le_of_not_lt large)
    rw [ih, split, same _ last, List.map_append, List.append_assoc]
    rfl

theorem text_eq_toDigits (n : Nat) :
    text n = String.ofList ((Nat.toDigits 16 n).map Char.toUpper) := by
  rw [text, digits, digitsBefore_eq, List.append_nil]

/-! ## What is read -/

theorem isDigit_of_digitValue? {c : Char} {d : Nat} (h : digitValue? c = some d) :
    IsDigit 16 c d := by
  unfold digitValue? at h
  split at h
  · next range =>
    obtain rfl := Option.some.inj h
    exact of_range (P := fun c => IsDigit 16 c (c.toNat - '0'.toNat)) (by decide) range.1 range.2
  split at h
  · next range =>
    obtain rfl := Option.some.inj h
    exact of_range (P := fun c => IsDigit 16 c (c.toNat - 'a'.toNat + 10)) (by decide) range.1
      range.2
  split at h
  · next range =>
    obtain rfl := Option.some.inj h
    exact of_range (P := fun c => IsDigit 16 c (c.toNat - 'A'.toNat + 10)) (by decide) range.1
      range.2
  · cases h

theorem digitValue?_eq_some_iff {c : Char} {d : Nat} :
    digitValue? c = some d ↔ IsDigit 16 c d := by
  refine ⟨isDigit_of_digitValue?, ?_⟩
  rintro ⟨small, rfl | rfl⟩
  · have all : ∀ d < 16, digitValue? (Nat.digitChar d) = some d := by decide
    exact all d small
  · have all : ∀ d < 16, digitValue? (Nat.digitChar d).toUpper = some d := by decide
    exact all d small

/-- Reading goes on from `m` exactly if all that follows are digits, which are then accumulated. -/
theorem readFrom_eq_some_iff {m n : Nat} {cs : List Char} :
    readFrom m cs = some n ↔ ∃ digits, List.Forall₂ (IsDigit 16) cs digits ∧
      digits.foldl (fun n d => 16 * n + d) m = n := by
  induction cs generalizing m with
  | nil => simp [readFrom]
  | cons c cs ih =>
    rw [readFrom, Option.bind_eq_some_iff]
    constructor
    · rintro ⟨d, value, later⟩
      obtain ⟨digits, all, same⟩ := ih.1 later
      exact ⟨d :: digits, .cons (digitValue?_eq_some_iff.1 value) all, same⟩
    · rintro ⟨_, _ | ⟨value, all⟩, same⟩
      exact ⟨_, digitValue?_eq_some_iff.2 value, ih.2 ⟨_, all, same⟩⟩

theorem read?_eq_some_iff {text : String} {n : Nat} :
    read? text = some n ↔ Writes 16 text.toList n := by
  rw [read?, readFrom_eq_some_iff, writes_iff_foldl]

/-- The characters that are read. -/
def alphabet : List Char :=
  "0123456789abcdefABCDEF".toList

theorem isSome_digitValue?_iff {c : Char} : (digitValue? c).isSome ↔ c ∈ alphabet := by
  constructor
  · intro h
    obtain ⟨d, value⟩ := Option.isSome_iff_exists.1 h
    obtain ⟨small, rfl | rfl⟩ := digitValue?_eq_some_iff.1 value
    · have all : ∀ d < 16, Nat.digitChar d ∈ alphabet := by decide
      exact all d small
    · have all : ∀ d < 16, (Nat.digitChar d).toUpper ∈ alphabet := by decide
      exact all d small
  · have all : alphabet.all (fun c => (digitValue? c).isSome) = true := by decide
    exact List.all_eq_true.1 all c

theorem isSome_readFrom_iff {m : Nat} {cs : List Char} :
    (readFrom m cs).isSome ↔ ∀ c ∈ cs, c ∈ alphabet := by
  induction cs generalizing m with
  | nil => simp [readFrom]
  | cons c cs ih =>
    rw [readFrom, List.forall_mem_cons, ← isSome_digitValue?_iff]
    cases digitValue? c with
    | none => simp
    | some d => simpa using ih

/-- Only the values of the digits count. -/
theorem readFrom_map {f : Char → Char} (same : ∀ c, digitValue? (f c) = digitValue? c) (m : Nat)
    (cs : List Char) : readFrom m (cs.map f) = readFrom m cs := by
  induction cs generalizing m with
  | nil => rfl
  | cons c cs ih =>
    rw [List.map_cons, readFrom, readFrom, same]
    exact congrArg _ (funext fun d => ih (16 * m + d))

theorem digitValue?_toLower (c : Char) : digitValue? c.toLower = digitValue? c := by
  by_cases range : 'A' ≤ c ∧ c ≤ 'Z'
  · exact of_range (P := fun c => digitValue? c.toLower = digitValue? c) (by decide) range.1 range.2
  · have kept : c.toLower = c := dif_neg range
    rw [kept]

/-- Texts that differ only in the case of their letters are read alike. -/
theorem read?_eq_of_toLower_eq {text recased : String}
    (same : recased.toList.map Char.toLower = text.toList.map Char.toLower) :
    read? recased = read? text := by
  rw [read?, read?, ← readFrom_map digitValue?_toLower, same, readFrom_map digitValue?_toLower]

theorem read?_zeros_append (zeros : Nat) (text : String) :
    read? (String.ofList (List.replicate zeros '0') ++ text) = read? text := by
  rw [read?, read?, String.toList_append, String.toList_ofList]
  induction zeros with
  | zero => rfl
  | succ zeros ih =>
    rw [List.replicate_succ, List.cons_append, readFrom]
    exact ih

end PreimageSearch.Hex

namespace PreimageSearch

/-! ## Bounds -/

/-- With the other bounds met, an output is too wide exactly if it takes more bits than it may. -/
theorem SearchParameters.make_ne_outputTooWide_iff {operation : String} {targets : TargetSequence}
    {inputWidth outputWidth output : Nat} (positive : 0 < outputWidth)
    (least : Limits.minInputWidth ≤ inputWidth) (greatest : inputWidth ≤ Limits.maxInputWidth) :
    (∀ value width, make operation targets inputWidth outputWidth output ≠
      .error (.outputTooWide value width)) ↔ bitLength output ≤ outputWidth := by
  rw [make, dif_pos ⟨least, greatest⟩, dif_neg (Nat.ne_of_gt positive)]
  by_cases fits : bitLength output ≤ outputWidth
  · simp [fits]
  · simp [fits]

/-- Hexadecimal texts and numbers correspond. A text is read exactly if all its characters are
hexadecimal digits, as the number that they write in base sixteen, whatever the case of its letters
and however many zeros stand in front of it. The text of a number, which is made of its upper-case
digits, reads as the number. The largest number of a width bounds exactly the numbers of at most so
many bits, and these are the outputs that search parameters of that width do not call too wide. -/
theorem Hex.reading_inverts_text (text : String) (n width : Nat) :
    ((read? text).isSome ↔ ∀ c ∈ text.toList, c ∈ alphabet) ∧
    (∀ value, read? text = some value ↔ Positional.Writes 16 text.toList value) ∧
    (∀ recased : String, recased.toList.map Char.toLower = text.toList.map Char.toLower →
      read? recased = read? text) ∧
    (∀ zeros, read? (String.ofList (List.replicate zeros '0') ++ text) = read? text) ∧
    Hex.text n = String.ofList ((Nat.toDigits 16 n).map Char.toUpper) ∧
    read? (Hex.text n) = some n ∧
    (n ≤ maxOfWidth width ↔ n.size ≤ width) ∧
    ∀ operation targets inputWidth, 0 < width → Limits.minInputWidth ≤ inputWidth →
      inputWidth ≤ Limits.maxInputWidth →
      (n ≤ maxOfWidth width ↔ ∀ value limit,
        SearchParameters.make operation targets inputWidth width n ≠
          .error (.outputTooWide value limit)) := by
  refine ⟨isSome_readFrom_iff, fun _ => read?_eq_some_iff, fun _ => read?_eq_of_toLower_eq,
    fun zeros => read?_zeros_append zeros text, text_eq_toDigits n, read?_text n,
    le_maxOfWidth_iff.trans Nat.size_le.symm, ?_⟩
  intro operation targets inputWidth positive least greatest
  rw [SearchParameters.make_ne_outputTooWide_iff positive least greatest, bitLength_le_iff,
    le_maxOfWidth_iff]

/-- The text `00fF` reads as `00Ff` does, and 256 is the first output too wide for eight bits. -/
theorem Hex.reading_inverts_text_byte :
    read? "00Ff" = read? "00fF" ∧
    (255 ≤ maxOfWidth 8 ↔ ∀ value limit, SearchParameters.make "CRC-8" .single 62 8 255 ≠
      .error (.outputTooWide value limit)) ∧
    (256 ≤ maxOfWidth 8 ↔ ∀ value limit, SearchParameters.make "CRC-8" .single 62 8 256 ≠
      .error (.outputTooWide value limit)) := by
  obtain ⟨-, -, recased, -, -, -, -, fits⟩ := reading_inverts_text "00fF" 255 8
  obtain ⟨-, -, -, -, -, -, -, exceeds⟩ := reading_inverts_text "00fF" 256 8
  exact ⟨recased "00Ff" (by decide), fits "CRC-8" .single 62 (by decide) (by decide) (by decide),
    exceeds "CRC-8" .single 62 (by decide) (by decide) (by decide)⟩

end PreimageSearch
