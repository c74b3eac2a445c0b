import PreimageSearch.Proofs.LineEnd
import PreimageSearch.Proofs.Positional

/-!
# Entered numerals

The grammar of an entered integer, said without the reader: `Numeral` is a run of decimal digits
with a sign in front or none, `Entered` is a text of such a numeral with white space around it. The
reader accepts exactly what is entered so and fits the machine integer (`read?_eq_some_iff`),
however long the run of digits is, and a question for an integer accepts what is also within its
range.
-/

namespace PreimageSearch

/-! ## White space around a text -/

namespace Blank

/-- What is trimmed off a text is white space. -/
theorem exists_blanks (cs : List Char) : ∃ before after, (∀ c ∈ before, isBlank c = true) ∧
    (∀ c ∈ after, isBlank c = true) ∧ cs = before ++ trim cs ++ after := by
  obtain ⟨after, blank, same⟩ := exists_trimmed isBlank (cs.dropWhile isBlank)
  refine ⟨cs.takeWhile isBlank, after, fun c member => List.mem_takeWhile_imp member, blank, ?_⟩
  calc cs = cs.takeWhile isBlank ++ cs.dropWhile isBlank := List.takeWhile_append_dropWhile.symm
    _ = cs.takeWhile isBlank ++ (trim cs ++ after) := by rw [trim, ← same]
    _ = cs.takeWhile isBlank ++ trim cs ++ after := (List.append_assoc ..).symm

theorem trim_blanks_append {before : List Char} (blank : ∀ c ∈ before, isBlank c = true)
    (cs : List Char) : trim (before ++ cs) = trim cs := by
  rw [trim, trim, List.dropWhile_append_of_pos blank]

theorem trim_eq_self {cs : List Char} (visible : ∀ c ∈ cs, isBlank c = false) : trim cs = cs := by
  have kept {cs : List Char} (visible : ∀ c ∈ cs, isBlank c = false) :
      cs.dropWhile isBlank = cs := by
    cases cs with
    | nil => rfl
    | cons c cs => rw [List.dropWhile_cons_of_neg (by simp [visible c])]
  rw [trim, trimRight, kept visible, kept fun c member => visible c (List.mem_reverse.1 member),
    List.reverse_reverse]

end Blank

namespace Integer

open Positional

/-! ## Digits -/

theorem isDigit_iff {c : Char} {d : Nat} :
    IsDigit 10 c d ↔ isDigit c = true ∧ c.toNat - '0'.toNat = d := by
  constructor
  · rintro ⟨small, rfl | rfl⟩
    · have all : ∀ d < 10, isDigit (Nat.digitChar d) = true ∧
          (Nat.digitChar d).toNat - '0'.toNat = d := by decide
      exact all d small
    · have all : ∀ d < 10, isDigit (Nat.digitChar d).toUpper = true ∧
          (Nat.digitChar d).toUpper.toNat - '0'.toNat = d := by decide
      exact all d small
  · rintro ⟨digit, rfl⟩
    obtain ⟨least, greatest⟩ : '0' ≤ c ∧ c ≤ '9' := by simpa [isDigit] using digit
    exact of_range (P := fun c => IsDigit 10 c (c.toNat - '0'.toNat)) (by decide) least greatest

theorem forall₂_isDigit_iff {cs : List Char} {digits : List Nat} :
    List.Forall₂ (IsDigit 10) cs digits ↔
      (∀ c ∈ cs, isDigit c = true) ∧ cs.map (fun c => c.toNat - '0'.toNat) = digits := by
  induction cs generalizing digits with
  | nil => simp
  | cons c cs ih =>
    rw [List.forall₂_cons_left_iff, List.forall_mem_cons, List.map_cons]
    constructor
    · rintro ⟨d, rest, first, later, rfl⟩
      obtain ⟨digit, rfl⟩ := isDigit_iff.1 first
      obtain ⟨all, rfl⟩ := ih.1 later
      exact ⟨⟨digit, all⟩, rfl⟩
    · rintro ⟨⟨digit, all⟩, rfl⟩
      exact ⟨_, _, isDigit_iff.2 ⟨digit, rfl⟩, ih.2 ⟨all, rfl⟩, rfl⟩

theorem writes_iff {cs : List Char} {n : Nat} :
    Writes 10 cs n ↔ (∀ c ∈ cs, isDigit c = true) ∧ digitsValue cs = n := by
  rw [writes_iff_foldl]
  simp only [forall₂_isDigit_iff, digitsValue]
  constructor
  · rintro ⟨_, ⟨all, rfl⟩, same⟩
    exact ⟨all, by rwa [List.foldl_map] at same⟩
  · rintro ⟨all, same⟩
    exact ⟨_, ⟨all, rfl⟩, by rwa [List.foldl_map]⟩

theorem readDigits?_eq_some_iff {cs : List Char} {n : Nat} :
    readDigits? cs = some n ↔ cs ≠ [] ∧ Writes 10 cs n := by
  rw [readDigits?, writes_iff, ← and_assoc, ← List.all_eq_true]
  by_cases run : cs ≠ [] ∧ cs.all isDigit = true
  · rw [if_pos run, Option.some.injEq]
    exact ⟨fun same => ⟨run, same⟩, And.right⟩
  · rw [if_neg run]
    exact ⟨nofun, fun read => absurd read.1 run⟩

theorem map_readDigits?_eq_some_iff {signed : Nat → Int} {cs : List Char} {n : Int} :
    (readDigits? cs).map signed = some n ↔
      ∃ value, (cs ≠ [] ∧ Writes 10 cs value) ∧ signed value = n := by
  simp only [Option.map_eq_some_iff, readDigits?_eq_some_iff]

/-! ## Numerals -/

/-- A run of decimal digits with a sign in front or none; only where `minus` is set may the sign be
a minus sign. -/
inductive Numeral (minus : Bool) : List Char → Int → Prop
  | plain {digits : List Char} {n : Nat} (run : digits ≠ [])
    (writes : Writes 10 digits n) : Numeral minus digits n
  | plus {digits : List Char} {n : Nat} (run : digits ≠ [])
    (writes : Writes 10 digits n) : Numeral minus ('+' :: digits) n
  | minus {digits : List Char} {n : Nat} (allowed : minus = true) (run : digits ≠ [])
    (writes : Writes 10 digits n) : Numeral minus ('-' :: digits) (-n)

theorem numeral_of_readSigned? {minus : Bool} {cs : List Char} {n : Int}
    (h : readSigned? minus cs = some n) : Numeral minus cs n := by
  unfold readSigned? at h
  split at h
  · obtain ⟨value, ⟨run, writes⟩, rfl⟩ := map_readDigits?_eq_some_iff.1 h
    exact .plus run writes
  · split at h
    · next allowed =>
      obtain ⟨value, ⟨run, writes⟩, rfl⟩ := map_readDigits?_eq_some_iff.1 h
      exact .minus allowed run writes
    · cases h
  · obtain ⟨value, ⟨run, writes⟩, rfl⟩ := map_readDigits?_eq_some_iff.1 h
    exact .plain run writes

theorem readSigned?_of_numeral {minus : Bool} {cs : List Char} {n : Int}
    (h : Numeral minus cs n) : readSigned? minus cs = some n := by
  cases h with
  | plain run writes =>
    have digits := (writes_iff.1 writes).1
    -- A digit in front is no sign.
    unfold readSigned?
    split
    · exact absurd (digits '+' (by simp)) (by decide)
    · exact absurd (digits '-' (by simp)) (by decide)
    · exact map_readDigits?_eq_some_iff.2 ⟨_, ⟨run, writes⟩, rfl⟩
  | plus run writes =>
    rw [readSigned?]
    exact map_readDigits?_eq_some_iff.2 ⟨_, ⟨run, writes⟩, rfl⟩
  | minus allowed run writes =>
    rw [readSigned?, if_pos allowed]
    exact map_readDigits?_eq_some_iff.2 ⟨_, ⟨run, writes⟩, rfl⟩

/-- A numeral has no white space in it. -/
theorem Numeral.visible {minus : Bool} {cs : List Char} {n : Int} (h : Numeral minus cs n) :
    ∀ c ∈ cs, Blank.isBlank c = false := by
  have digits {cs : List Char} {n : Nat} (writes : Writes 10 cs n) :
      ∀ c ∈ cs, Blank.isBlank c = false := by
    intro c member
    obtain ⟨least, greatest⟩ : '0' ≤ c ∧ c ≤ '9' := by
      simpa [isDigit] using (writes_iff.1 writes).1 c member
    exact of_range (P := fun c => Blank.isBlank c = false) (by decide) least greatest
  cases h with
  | plain run writes => exact digits writes
  | plus run writes => exact List.forall_mem_cons.2 ⟨by decide, digits writes⟩
  | minus allowed run writes => exact List.forall_mem_cons.2 ⟨by decide, digits writes⟩

/-- The text is a numeral for `n` with white space before and after it, or none. -/
def Entered (minus : Bool) (text : String) (n : Int) : Prop :=
  ∃ before numeral after, (∀ c ∈ before, Blank.isBlank c = true) ∧
    (∀ c ∈ after, Blank.isBlank c = true) ∧ text.toList = before ++ numeral ++ after ∧
    Numeral minus numeral n

theorem readSigned?_trim_eq_some_iff {minus : Bool} {text : String} {n : Int} :
    readSigned? minus (Blank.trim text.toList) = some n ↔ Entered minus text n := by
  constructor
  · intro read
    obtain ⟨before, after, blank, blank', same⟩ := Blank.exists_blanks text.toList
    exact ⟨before, _, after, blank, blank', same, numeral_of_readSigned? read⟩
  · rintro ⟨before, numeral, after, blank, blank', same, entered⟩
    rw [same, Blank.trim_append blank', Blank.trim_blanks_append blank,
      Blank.trim_eq_self entered.visible, readSigned?_of_numeral entered]

theorem read?_eq_some_iff {kind : IntegerKind} {text : String} {n : Int} :
    read? kind text = some n ↔
      Entered kind.signed text n ∧ kind.least ≤ n ∧ n ≤ kind.greatest := by
  rw [read?, ← readSigned?_trim_eq_some_iff]
  cases readSigned? kind.signed (Blank.trim text.toList) with
  | none => simp
  | some value =>
    have held : kind.contains value = true ↔ kind.least ≤ value ∧ value ≤ kind.greatest := by
      simp [IntegerKind.contains]
    by_cases fits : kind.contains value = true
    · simp only [fits, if_true, Option.some.injEq]
      constructor
      · rintro rfl
        exact ⟨rfl, held.1 fits⟩
      · exact And.left
    · simp only [fits, Option.some.injEq]
      constructor
      · intro read
        cases read
      · rintro ⟨rfl, fits'⟩
        exact absurd (held.2 fits') fits

/-! ## Bounds -/

theorem le_maxOfWidth_iff_lt {n : Int} {width : Nat} : n ≤ maxOfWidth width ↔ n < 2 ^ width := by
  have largest : (maxOfWidth width : Int) + 1 = 2 ^ width := by
    exact_mod_cast Nat.sub_add_cancel (twoPow_pos width)
  omega

/-- The integer keeps both bounds of the range, where they are set. -/
structure Range.Admits (range : Range) (n : Int) : Prop where
  least : ∀ least, range.lower = .inclusive least → least ≤ n
  below : ∀ below, range.lower = .exclusive below → below < n
  greatest : ∀ greatest, range.upper = .inclusive greatest → n ≤ greatest
  above : ∀ above, range.upper = .exclusive above → n < above

theorem Range.contains_iff {range : Range} {n : Int} :
    range.contains n = true ↔ range.Admits n := by
  rcases range with ⟨lower, upper⟩
  rw [Range.contains, Bool.and_eq_true]
  constructor
  · rintro ⟨from_lower, to_upper⟩
    constructor
    · rintro least rfl
      exact of_decide_eq_true from_lower
    · rintro below rfl
      exact of_decide_eq_true from_lower
    · rintro greatest rfl
      exact of_decide_eq_true to_upper
    · rintro above rfl
      exact of_decide_eq_true to_upper
  · rintro ⟨least, below, greatest, above⟩
    constructor
    · cases lower with
      | unbounded => rfl
      | inclusive bound => exact decide_eq_true (least bound rfl)
      | exclusive bound => exact decide_eq_true (below bound rfl)
    · cases upper with
      | unbounded => rfl
      | inclusive bound => exact decide_eq_true (greatest bound rfl)
      | exclusive bound => exact decide_eq_true (above bound rfl)

end Integer

namespace Dialogue

/-! ## Accepted lines -/

variable {α : Type}

/-- A question that finds this line first ends with the answer and takes no further line. -/
def AcceptsLine (question : Dialogue ConsoleError α) (line : Line) (answer : α) : Prop :=
  ∀ rest written, ∃ sink, question ⟨line :: rest, ⟨written, none⟩⟩ = (.ok answer, ⟨rest, sink⟩)

theorem acceptsLine_ask_iff {accept : String → Option α} {line : Line} {text : String}
    (read : line.text? = some text) (prompt : String) (answer : α) :
    AcceptsLine (ask prompt accept) line answer ↔ accept text = some answer := by
  constructor
  · intro accepted
    obtain ⟨sink, ends⟩ := accepted [] ByteArray.empty
    obtain ⟨result, left, count, hears⟩ := exists_hears accept [line]
    rw [eq_of_runs (runs_ask hears prompt)] at ends
    obtain ⟨rfl, -⟩ := Prod.mk.inj ends
    cases hears with
    | accepted read' accepts =>
      cases read.symm.trans read'
      exact accepts
    -- After a refused line there is none that could be accepted.
    | refused _ _ later => cases later
  · intro accepts rest written
    exact ⟨_, eq_of_runs (runs_ask (.accepted read accepts) prompt) written⟩

/-- A question for an integer accepts exactly its grammar. After white space is removed at both ends
the line has to be a run of decimal digits, with any number of leading zeros, behind a plus sign or
none, for signed integers also behind a minus sign; and the number so written has to fit the machine
integer and to keep both bounds of the range. The answer is that number. -/
theorem askInteger_accepts_iff (line : Line) (text : String) (read : line.text? = some text)
    (prompt : String) (range : Integer.Range) (n : Int) :
    (∀ bits, AcceptsLine (askInteger (.unsigned bits) prompt range) line n ↔
      Integer.Entered false text n ∧ 0 ≤ n ∧ n < 2 ^ bits ∧ range.Admits n) ∧
    (AcceptsLine (askInteger .signed64 prompt range) line n ↔
      Integer.Entered true text n ∧ -2 ^ 63 ≤ n ∧ n < 2 ^ 63 ∧ range.Admits n) := by
  have accepts (kind : IntegerKind) : AcceptsLine (askInteger kind prompt range) line n ↔
      Integer.Entered kind.signed text n ∧ kind.least ≤ n ∧ n ≤ kind.greatest ∧
        range.Admits n := by
    rw [askInteger, acceptsLine_ask_iff read, Option.filter_eq_some_iff,
      Integer.read?_eq_some_iff, Integer.Range.contains_iff, and_assoc, and_assoc]
  refine ⟨fun bits => (accepts (.unsigned bits)).trans ?_, (accepts .signed64).trans ?_⟩
  · rw [← Integer.le_maxOfWidth_iff_lt]
    rfl
  · rw [← Integer.le_maxOfWidth_iff_lt]
    rfl

/-- The line ` +0255` gives the greatest integer of eight bits where the range ends with it, and is
not accepted where the range ends before it. -/
theorem askInteger_accepts_iff_padded :
    Line.text? [32, 43, 48, 50, 53, 53, 10] = some " +0255\n" ∧
    AcceptsLine (askInteger (.unsigned 8) "Width?" ⟨.exclusive 254, .inclusive 255⟩)
      [32, 43, 48, 50, 53, 53, 10] 255 ∧
    ¬ AcceptsLine (askInteger (.unsigned 8) "Width?" ⟨.unbounded, .exclusive 255⟩)
      [32, 43, 48, 50, 53, 53, 10] 255 := by
  have read : Line.text? [32, 43, 48, 50, 53, 53, 10] = some " +0255\n" := by decide
  have entered : Integer.Entered false " +0255\n" 255 :=
    Integer.readSigned?_trim_eq_some_iff.1 (by decide)
  refine ⟨read, ?_, fun accepted => ?_⟩
  · have admits : Integer.Range.Admits ⟨.exclusive 254, .inclusive 255⟩ 255 :=
      Integer.Range.contains_iff.1 (by decide)
    exact ((askInteger_accepts_iff _ _ read "Width?" _ 255).1 8).2
      ⟨entered, by decide, by decide, admits⟩
  · obtain ⟨-, -, -, admits⟩ := ((askInteger_accepts_iff _ _ read "Width?" _ 255).1 8).1 accepted
    exact absurd (admits.above 255 rfl) (by decide)

end Dialogue

end PreimageSearch
