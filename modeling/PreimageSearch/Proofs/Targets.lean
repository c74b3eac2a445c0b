import PreimageSearch.Proofs.Described
import PreimageSearch.Proofs.FirstValid
import PreimageSearch.Proofs.Numerals

/-!
# Target sequences

`Makes` says when a constructor of target sequences succeeds and what the counts are then. The
interview of a method asks for a number in the bounds of its constructor, so the constructor behind
the question never refuses: `Generates` says how the interview ends on a stream of bytes, and there
is no refusal among its endings.
-/

namespace PreimageSearch

/-! ## Constructors -/

namespace TargetSequence

/-- A sequence is made exactly under the condition, and its counts are of the shape. -/
structure Makes (made : Except ParameterError TargetSequence) (condition : Prop)
    (shape : List Nat → Prop) : Prop where
  succeeds_iff : (∃ targets, made = .ok targets) ↔ condition
  shaped : ∀ targets, made = .ok targets → shape targets.counts

theorem Makes.of_cases {made : Except ParameterError TargetSequence} {condition : Prop}
    {shape : List Nat → Prop}
    (inside : condition → ∃ targets, made = .ok targets ∧ shape targets.counts)
    (outside : ¬ condition → ∃ error, made = .error error) : Makes made condition shape := by
  by_cases holds : condition
  · obtain ⟨targets, rfl, shaped⟩ := inside holds
    refine ⟨⟨fun _ => holds, fun _ => ⟨targets, rfl⟩⟩, ?_⟩
    rintro _ ⟨⟩
    exact shaped
  · obtain ⟨error, rfl⟩ := outside holds
    exact ⟨⟨nofun, fun h => absurd h holds⟩, nofun⟩

theorem makes_multiple (n : Nat) :
    Makes (multiple n) (Limits.minTargets ≤ n ∧ n ≤ Limits.maxTargets) (· = [n]) := by
  refine .of_cases (fun inside => Interview.multiple_eq_ok inside.1 inside.2) fun outside => ?_
  unfold multiple
  by_cases few : n < Limits.minTargets
  · exact ⟨_, dif_pos few⟩
  · rw [dif_neg few]
    exact ⟨_, if_pos (by omega)⟩

theorem makes_arithmetic (n : Nat) :
    Makes (arithmetic n) (Limits.minTargets ≤ n ∧ n ≤ Limits.maxArithmeticTargets)
      fun counts => counts.length = n ∧ ∀ i < n, counts[i]? = some (i + 1) := by
  refine .of_cases (fun inside => ?_) fun outside => ?_
  · obtain ⟨targets, made, counts⟩ := Interview.arithmetic_eq_ok inside.1 inside.2
    refine ⟨targets, made, ?_⟩
    rw [counts]
    refine ⟨List.length_range', fun i within => ?_⟩
    rw [List.getElem?_range' within, Nat.one_mul, Nat.add_comm]
  · unfold arithmetic
    by_cases few : n < Limits.minTargets
    · exact ⟨_, dif_pos few⟩
    · rw [dif_neg few]
      exact ⟨_, if_pos (by omega)⟩

theorem makes_geometric (n : Nat) :
    Makes (geometric n) (Limits.minGeometricAttempts ≤ n ∧ n ≤ Limits.maxGeometricAttempts)
      fun counts => counts.length = n ∧ ∀ i < n, counts[i]? = some (2 ^ i) := by
  refine .of_cases (fun inside => ?_) fun outside => ?_
  · obtain ⟨targets, made, counts⟩ := Interview.geometric_eq_ok inside.1 inside.2
    refine ⟨targets, made, ?_⟩
    rw [counts]
    refine ⟨by rw [List.length_map, List.length_range], fun i within => ?_⟩
    rw [List.getElem?_map, List.getElem?_range within]
    rfl
  · exact ⟨_, dif_pos (by omega)⟩

theorem makes_ofList (counts : List Nat) :
    Makes (ofList counts) (counts ≠ [] ∧ 0 ∉ counts) (· = counts) := by
  have zero_iff : (∃ t ∈ counts, t = 0) ↔ 0 ∈ counts := by simp
  refine .of_cases (fun inside => ?_) fun outside => ?_
  · rw [ofList, dif_neg inside.1, dif_neg (zero_iff.not.2 inside.2)]
    exact ⟨_, rfl, rfl⟩
  · unfold ofList
    by_cases empty : counts = []
    · exact ⟨_, dif_pos empty⟩
    · rw [dif_neg empty]
      have zero : 0 ∈ counts := by
        by_contra none
        exact outside ⟨empty, none⟩
      exact ⟨_, dif_pos (zero_iff.2 zero)⟩

theorem zero_notMem (targets : TargetSequence) : 0 ∉ targets.counts := fun member =>
  absurd (targets.positive 0 member) (Nat.lt_irrefl 0)

end TargetSequence

/-! ## The interview of a method -/

namespace Interview

open Dialogue
open TargetSequence (Makes)

/-- The text gives a number within the bounds. -/
def InRange (least greatest : Nat) (text : String) (n : Nat) : Prop :=
  Integer.Entered false text n ∧ least ≤ n ∧ n ≤ greatest

/-- The question of a method, with its bounds, and the constructor that the number is for. -/
inductive Asks : SearchMethod → (prompt : String) → (least greatest : Nat) →
    (Nat → Except ParameterError TargetSequence) → Prop
  | multiple :
    Asks .multiple "Number of search targets?" 2 (2 ^ 31 - 1) TargetSequence.multiple
  | arithmetic :
    Asks .arithmetic "Max number of search targets?" 2 (2 ^ 20) TargetSequence.arithmetic
  | geometric : Asks .geometric "Number of search attempts?" 2 31 TargetSequence.geometric

/-- How the interview of a method ends on a stream of bytes, with the lines left and what is
written: the first number in range goes to the constructor. A single target takes no line. -/
inductive Generates (script : Bytes) :
    SearchMethod → Except ConsoleError TargetSequence → List Line → String → Prop
  | single {lines : List Line} (divides : Line.Divides script lines) :
    Generates script .single (.ok .single) lines ""
  | made {method : SearchMethod} {prompt said : String} {least greatest n : Nat}
    {make : Nat → Except ParameterError TargetSequence} {targets : TargetSequence}
    {rest : List Line} (asks : Asks method prompt least greatest make)
    (first : FirstValid prompt (InRange least greatest) script (.ok n) rest said)
    (made : make n = .ok targets) : Generates script method (.ok targets) rest said
  | failed {method : SearchMethod} {prompt said : String} {least greatest : Nat}
    {make : Nat → Except ParameterError TargetSequence} {error : ConsoleError}
    {rest : List Line} (asks : Asks method prompt least greatest make)
    (first : FirstValid prompt (InRange least greatest) script (.error error) rest said) :
    Generates script method (.error error) rest said

theorem countIn_eq_some_iff {bits least greatest : Nat} (narrow : greatest < 2 ^ bits)
    (text : String) (n : Nat) :
    countIn bits least greatest text = some n ↔ InRange least greatest text n := by
  constructor
  · intro given
    obtain ⟨value, held, rfl⟩ := Option.map_eq_some_iff.1 given
    obtain ⟨read, -⟩ := Option.filter_eq_some_iff.1 held
    obtain ⟨entered, nonneg, -⟩ := Integer.read?_eq_some_iff.1 read
    refine ⟨?_, countIn_bounds given⟩
    rw [Int.toNat_of_nonneg nonneg]
    exact entered
  · rintro ⟨entered, few, many⟩
    have fits : (n : Int) ≤ maxOfWidth bits :=
      Integer.le_maxOfWidth_iff_lt.2 (by exact_mod_cast many.trans_lt narrow)
    have inside : (Integer.Range.closed least greatest).contains n = true := by
      simp [Integer.Range.contains, Integer.Range.closed, few, many]
    exact Option.map_eq_some_iff.2 ⟨n, Option.filter_eq_some_iff.2
      ⟨Integer.read?_eq_some_iff.2 ⟨entered, Int.natCast_nonneg n, fits⟩, inside⟩,
      Int.toNat_natCast n⟩

section Asks

variable {method : SearchMethod} {prompt : String} {least greatest : Nat}
  {make : Nat → Except ParameterError TargetSequence}

theorem Asks.targetsOf_eq (h : Asks method prompt least greatest make) :
    ∃ bits, greatest < 2 ^ bits ∧ targetsOf method =
      askCount bits prompt least greatest >>= fun count => accepted (make count) := by
  cases h with
  | multiple => exact ⟨64, by decide, rfl⟩
  | arithmetic => exact ⟨64, by decide, rfl⟩
  | geometric => exact ⟨32, by decide, rfl⟩

/-- The bounds of a question are those of the constructor. -/
theorem Asks.made {n : Nat} (h : Asks method prompt least greatest make) (few : least ≤ n)
    (many : n ≤ greatest) : ∃ targets, make n = .ok targets := by
  cases h with
  | multiple => exact (TargetSequence.makes_multiple n).succeeds_iff.2 ⟨few, many⟩
  | arithmetic => exact (TargetSequence.makes_arithmetic n).succeeds_iff.2 ⟨few, many⟩
  | geometric => exact (TargetSequence.makes_geometric n).succeeds_iff.2 ⟨few, many⟩

theorem Asks.exists_generates (h : Asks method prompt least greatest make) (script : Bytes) :
    ∃ result rest said, Generates script method result rest said := by
  obtain ⟨bits, narrow, -⟩ := h.targetsOf_eq
  obtain ⟨result, rest, said, first⟩ :=
    exists_firstValid (@countIn_eq_some_iff bits least greatest narrow) prompt script
  cases result with
  | ok n =>
    obtain ⟨few, many⟩ : least ≤ n ∧ n ≤ greatest := by
      cases first with
      | valid _ _ _ inRange => exact inRange.2
    obtain ⟨targets, made⟩ := h.made few many
    exact ⟨_, _, _, .made h first made⟩
  | error error => exact ⟨_, _, _, .failed h first⟩

end Asks

section Generates

variable {script : Bytes} {method : SearchMethod} {result : Except ConsoleError TargetSequence}
  {rest : List Line} {said : String}

theorem exists_generates (method : SearchMethod) (script : Bytes) :
    ∃ result rest said, Generates script method result rest said := by
  cases method with
  | single => exact ⟨_, _, _, .single (Line.divides_split script)⟩
  | multiple => exact Asks.multiple.exists_generates script
  | arithmetic => exact Asks.arithmetic.exists_generates script
  | geometric => exact Asks.geometric.exists_generates script

theorem Generates.runs (h : Generates script method result rest said) :
    Console.outlet.Runs (targetsOf method) (Line.split script) result rest said := by
  cases h with
  | single divides =>
    rw [divides.split_eq]
    exact Outlet.runs_pure _ _
  | made asks first made =>
    obtain ⟨bits, narrow, same⟩ := asks.targetsOf_eq
    rw [same]
    have asked := first.runs (countIn_eq_some_iff narrow)
    exact (asked.bind (runs_accepted made rest)).said_eq String.append_empty
  | failed asks first =>
    obtain ⟨bits, narrow, same⟩ := asks.targetsOf_eq
    rw [same]
    exact (first.runs (countIn_eq_some_iff narrow)).bind_error _

/-- A question fails for want of a line or of a text; nothing else goes wrong. -/
theorem Generates.ne_refused (h : Generates script method result rest said)
    (error : ParameterError) : result ≠ .error (.refused error) := by
  rintro rfl
  cases h with
  | failed _ first => cases first

/-- Whatever room there is, the interview ends by the law, or a write has failed. -/
theorem generates_or_full (method : SearchMethod) (script : Bytes) (sink : Sink) :
    let console : Console := ⟨Line.split script, sink⟩
    let ended := targetsOf method console
    (∃ said, Generates script method ended.1 ended.2.lines said) ∨
      ended.1 = .error .writeLimit ∧ ReaderFailure console .writeLimit ended.2 := by
  intro console ended
  obtain ⟨result, rest, said, law⟩ := exists_generates method script
  obtain ⟨same, left⟩ | ⟨cut, room, limited, full⟩ := law.runs.ends_or_full console rfl
  · rw [show ended.1 = result from same, show ended.2.lines = rest from left]
    exact .inl ⟨said, law⟩
  · exact .inr ⟨cut, .writeLimit limited full⟩

end Generates

/-- Target sequences have their documented shape, and the interview gives no others. Each
constructor succeeds exactly within its bounds, with the counts that it documents, so that every
sequence is non-empty and positive. On every stream of bytes the interview of a method gives what
the constructor makes of the first number in range: each line before it is refused and the question
asked again. If a write fails the interview fails with it, but never with the refusal of a
constructor. -/
theorem targetsOf_iff_generates :
    (∀ n, Makes (TargetSequence.multiple n) (2 ≤ n ∧ n ≤ 2 ^ 31 - 1) (· = [n])) ∧
    (∀ n, Makes (TargetSequence.arithmetic n) (2 ≤ n ∧ n ≤ 2 ^ 20)
      fun counts => counts.length = n ∧ ∀ i < n, counts[i]? = some (i + 1)) ∧
    (∀ n, Makes (TargetSequence.geometric n) (2 ≤ n ∧ n ≤ 31)
      fun counts => counts.length = n ∧ ∀ i < n, counts[i]? = some (2 ^ i)) ∧
    (∀ list, Makes (TargetSequence.ofList list) (list ≠ [] ∧ 0 ∉ list) (· = list)) ∧
    TargetSequence.single.counts = [1] ∧
    (∀ targets : TargetSequence, targets.counts ≠ [] ∧ 0 ∉ targets.counts) ∧
    ∀ method script,
      (∀ written result rest said,
        targetsOf method ⟨Line.split script, ⟨written, none⟩⟩ =
          (result, ⟨rest, ⟨written ++ said.toUTF8, none⟩⟩) ↔
            Generates script method result rest said) ∧
      ∀ sink,
        let console : Console := ⟨Line.split script, sink⟩
        let ended := targetsOf method console
        ((∃ said, Generates script method ended.1 ended.2.lines said) ∨
          ended.1 = .error .writeLimit ∧ ReaderFailure console .writeLimit ended.2) ∧
        ∀ error, ended.1 ≠ .error (.refused error) := by
  refine ⟨TargetSequence.makes_multiple, TargetSequence.makes_arithmetic,
    TargetSequence.makes_geometric, TargetSequence.makes_ofList, rfl,
    fun targets => ⟨targets.nonempty, targets.zero_notMem⟩, fun method script => ⟨?_, ?_⟩⟩
  · intro written result rest said
    exact eq_iff_of_runs (exists_generates method script) (fun _ _ _ law => law.runs)
      written result rest said
  · intro sink console ended
    have generates := generates_or_full method script sink
    refine ⟨generates, fun error refused => ?_⟩
    obtain ⟨said, law⟩ | ⟨full, -⟩ := generates
    · exact law.ne_refused error refused
    · cases full.symm.trans refused

/-- The lines `1048577` and `6`: the first is beyond the bound of the arithmetic method, the second
gives six attempts. -/
theorem targetsOf_iff_generates_retry :
    targetsOf .arithmetic ⟨Line.split [49, 48, 52, 56, 53, 55, 55, 10, 54, 10],
      ⟨ByteArray.empty, none⟩⟩ =
    (.ok ⟨[1, 2, 3, 4, 5, 6], by decide, by decide⟩, ⟨[], ⟨ByteArray.empty ++
      ("\nMax number of search targets?\n> Invalid input\n" ++
        "\nMax number of search targets?\n> ").toUTF8, none⟩⟩) := by
  have same := @countIn_eq_some_iff 64 2 (2 ^ 20) (by decide)
  have lines : Line.Divides [49, 48, 52, 56, 53, 55, 55, 10, 54, 10]
      ([[49, 48, 52, 56, 53, 55, 55, 10]] ++ [54, 10] :: []) :=
    .finished [49, 48, 52, 56, 53, 55, 55] (by decide) (.finished [54] (by decide) .nil)
  have rejects : ∀ line ∈ [[49, 48, 52, 56, 53, 55, 55, 10]],
      Rejects (InRange 2 (2 ^ 20)) line := by
    rintro line (_ | ⟨_, ⟨⟩⟩)
    exact (rejects_iff same).2 ⟨"1048577\n", by decide, by decide⟩
  have inRange : InRange 2 (2 ^ 20) "6\n" 6 := (same _ _).1 (by decide)
  obtain ⟨-, -, -, -, -, -, interview⟩ := targetsOf_iff_generates
  exact ((interview .arithmetic _).1 _ _ _ _).2
    (.made .arithmetic (.valid lines rejects (by decide) inRange) rfl)

end Interview

end PreimageSearch
