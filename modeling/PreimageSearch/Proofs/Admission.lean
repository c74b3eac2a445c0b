import PreimageSearch.Proofs.Simulation

/-!
# Admission to the simulator

The simulator decides whether a search runs from its width and from the memory there is, before it
evaluates anything. `Simulator.Refuses` lists the refusals with what they report, and
`approve_eq_error_iff` says that there are no others. A search that is not refused has every input
evaluated before the first attempt, so that its run fails exactly if the oracle has no output for
one of them (`Simulation.simulateWith_eq_error_iff`), whichever input an attempt would have
measured.
-/

namespace PreimageSearch

namespace Search

/-- The oracle has no output for some input of the search space. -/
def Faulty (search : Search) : Prop :=
  ∃ input < 2 ^ search.parameters.inputWidth, ∃ message fault,
    encodeInput input search.parameters.inputWidth = .ok message ∧
      search.oracle.evaluate message = .error fault

variable {search : Search}

theorem evaluates_of_not_faulty (h : ¬ search.Faulty) : search.Evaluates := by
  intro input inside
  obtain ⟨message, encoded⟩ := exists_message search input
  rw [encoded]
  change ∃ output, search.oracle.evaluate message = .ok output
  rcases evaluated : search.oracle.evaluate message with fault | output
  · exact absurd ⟨input, inside, message, fault, encoded, evaluated⟩ h
  · exact ⟨output, rfl⟩

end Search

namespace Simulation

theorem mapM_eq_error {ε α β : Type} {f : α → Except ε β} {l : List α} {a : α} {error : ε}
    (member : a ∈ l) (h : f a = .error error) : ∃ error, l.mapM f = .error error := by
  induction l with
  | nil => cases member
  | cons b l ih =>
    rw [List.mapM_cons]
    rcases hb : f b with earlier | value
    · exact ⟨earlier, rfl⟩
    · have later : a ∈ l := by
        rcases List.mem_cons.1 member with rfl | later
        · rw [h] at hb
          cases hb
        · exact later
      obtain ⟨error, failed⟩ := ih later
      exact ⟨error, by rw [failed]; rfl⟩

/-- Marking evaluates every input, so that none may be without an output. -/
theorem mark_eq_error {search : Search} (h : search.Faulty) :
    ∃ fault, mark search = .error fault := by
  obtain ⟨input, inside, message, fault, encoded, evaluated⟩ := h
  have failed : search.oracle.matches input search.parameters.inputWidth
      search.parameters.output = .error fault := by
    rw [Oracle.matches, encoded]
    change (search.oracle.evaluate message >>= _) = _
    rw [evaluated]
    rfl
  exact mapM_eq_error (List.mem_range.2 inside) failed

theorem simulateWith_eq_error_iff {α : Type} [Amplitude α] {count : Nat → Nat → Nat}
    {search : Search} {words : Nat → UInt64} :
    (∃ fault, simulateWith α count search words = .error fault) ↔ search.Faulty := by
  constructor
  · rintro ⟨fault, failed⟩
    by_contra sound
    rw [simulateWith_eq (Search.evaluates_of_not_faulty sound)] at failed
    cases failed
  · intro faulty
    obtain ⟨fault, failed⟩ := mark_eq_error faulty
    exact ⟨fault, by rw [simulateWith, failed]; rfl⟩

end Simulation

namespace Simulator

/-- Why a search of `width` bits is refused where `available` bytes of memory are left. -/
inductive Refuses (simulator : Simulator) (available width : Nat) : BackendError → Prop
  | tooWide (wide : simulator.maxInputWidth < width) :
    Refuses simulator available width (.inputTooWide width simulator.maxInputWidth)
  /-- The size of the state vector is no 64-bit number. -/
  | unaddressable (narrow : width ≤ simulator.maxInputWidth) (huge : 2 ^ 64 ≤ 9 * 2 ^ width) :
    Refuses simulator available width (.insufficientMemory (2 ^ 64 - 1) available)
  | outOfMemory (narrow : width ≤ simulator.maxInputWidth) (sized : 9 * 2 ^ width < 2 ^ 64)
    (checked : simulator.checkMemory = true) (known : 0 < available)
    (short : available < 9 * 2 ^ width) :
    Refuses simulator available width (.insufficientMemory (9 * 2 ^ width) available)

section Approval

variable {simulator : Simulator} {available width : Nat} {error : BackendError}

theorem approve_of_refuses (h : simulator.Refuses available width error) :
    simulator.approve available width = .error error := by
  unfold approve
  cases h with
  | tooWide wide => rw [if_pos wide]
  | unaddressable narrow huge =>
    rw [if_neg (Nat.not_lt.2 narrow)]
    exact if_pos huge
  | outOfMemory narrow sized checked known short =>
    rw [if_neg (Nat.not_lt.2 narrow)]
    exact (if_neg (Nat.not_le.2 sized)).trans (if_pos ⟨checked, known, short⟩)

theorem exists_refuses_iff :
    (∃ error, simulator.Refuses available width error) ↔
      simulator.maxInputWidth < width ∨ 2 ^ 64 ≤ 9 * 2 ^ width ∨
        simulator.checkMemory = true ∧ 0 < available ∧ available < 9 * 2 ^ width := by
  constructor
  · rintro ⟨error, reason⟩
    cases reason with
    | tooWide wide => exact .inl wide
    | unaddressable _ huge => exact .inr (.inl huge)
    | outOfMemory _ _ checked known short => exact .inr (.inr ⟨checked, known, short⟩)
  · intro reasons
    by_cases wide : simulator.maxInputWidth < width
    · exact ⟨_, .tooWide wide⟩
    by_cases huge : 2 ^ 64 ≤ 9 * 2 ^ width
    · exact ⟨_, .unaddressable (Nat.not_lt.1 wide) huge⟩
    obtain ⟨checked, known, short⟩ := (reasons.resolve_left wide).resolve_left huge
    exact ⟨_, .outOfMemory (Nat.not_lt.1 wide) (Nat.not_le.1 huge) checked known short⟩

theorem refuses_inputTooWide_iff :
    simulator.Refuses available width (.inputTooWide width simulator.maxInputWidth) ↔
      simulator.maxInputWidth < width :=
  ⟨fun reason => by cases reason; assumption, .tooWide⟩

theorem refuses_insufficientMemory_iff {required : Nat} :
    simulator.Refuses available width (.insufficientMemory required available) ↔
      width ≤ simulator.maxInputWidth ∧
        (2 ^ 64 ≤ 9 * 2 ^ width ∧ required = 2 ^ 64 - 1 ∨
          9 * 2 ^ width < 2 ^ 64 ∧ (simulator.checkMemory = true ∧ 0 < available ∧
            available < 9 * 2 ^ width) ∧ required = 9 * 2 ^ width) := by
  constructor
  · intro reason
    cases reason with
    | unaddressable narrow huge => exact ⟨narrow, .inl ⟨huge, rfl⟩⟩
    | outOfMemory narrow sized checked known short =>
      exact ⟨narrow, .inr ⟨sized, ⟨checked, known, short⟩, rfl⟩⟩
  · rintro ⟨narrow, ⟨huge, rfl⟩ | ⟨sized, ⟨checked, known, short⟩, rfl⟩⟩
    · exact .unaddressable narrow huge
    · exact .outOfMemory narrow sized checked known short

/-- The size that is reported for a state vector of no 64-bit size is odd, so that it is not
reported for any other. -/
theorem refuses_unaddressable_iff (inputs : 1 ≤ width) (narrow : width ≤ simulator.maxInputWidth) :
    simulator.Refuses available width (.insufficientMemory (2 ^ 64 - 1) available) ↔
      2 ^ 64 ≤ 9 * 2 ^ width := by
  have even : 9 * 2 ^ width ≠ 2 ^ 64 - 1 := by
    obtain ⟨half, rfl⟩ : ∃ half, width = half + 1 := ⟨width - 1, by omega⟩
    rw [Nat.pow_succ]
    omega
  rw [refuses_insufficientMemory_iff]
  constructor
  · rintro ⟨-, ⟨huge, -⟩ | ⟨-, -, same⟩⟩
    · exact huge
    · exact absurd same.symm even
  · intro huge
    exact ⟨narrow, .inl ⟨huge, rfl⟩⟩

theorem refuses_outOfMemory_iff (narrow : width ≤ simulator.maxInputWidth)
    (sized : 9 * 2 ^ width < 2 ^ 64) :
    simulator.Refuses available width (.insufficientMemory (9 * 2 ^ width) available) ↔
      simulator.checkMemory = true ∧ 0 < available ∧ available < 9 * 2 ^ width := by
  rw [refuses_insufficientMemory_iff]
  constructor
  · rintro ⟨-, ⟨huge, -⟩ | ⟨-, short, -⟩⟩
    · exact absurd sized (Nat.not_lt.2 huge)
    · exact short
  · intro short
    exact ⟨narrow, .inr ⟨sized, short, rfl⟩⟩

/-- A search is approved unless there is a reason to refuse it. -/
theorem refuses_or_approves (simulator : Simulator) (available width : Nat) :
    (∃ error, simulator.Refuses available width error) ∨
      simulator.approve available width = .ok () := by
  refine or_iff_not_imp_left.2 fun accepted => ?_
  rw [exists_refuses_iff, not_or, not_or] at accepted
  obtain ⟨wide, huge, short⟩ := accepted
  rw [approve, if_neg wide]
  exact (if_neg huge).trans (if_neg short)

theorem approve_eq_error_iff :
    simulator.approve available width = .error error ↔ simulator.Refuses available width error := by
  refine ⟨fun refused => ?_, approve_of_refuses⟩
  rcases refuses_or_approves simulator available width with ⟨other, reason⟩ | approved
  · have same := (approve_of_refuses reason).symm.trans refused
    cases same
    exact reason
  · rw [approved] at refused
    cases refused

end Approval

section Run

variable {simulator : Simulator} {available : Nat} {entropy : Nat → UInt64} {search : Search}

theorem run_of_refused {error : BackendError}
    (h : simulator.approve available search.parameters.inputWidth = .error error) :
    simulator.run available entropy search = .error error := by
  rw [run, h]
  rfl

theorem run_of_approved (h : simulator.approve available search.parameters.inputWidth = .ok ()) :
    simulator.run available entropy search =
      (Simulation.simulate search (simulator.words entropy)).mapError .taskFailed := by
  rw [run, h]
  rcases Simulation.simulate search (simulator.words entropy) with fault | simulation <;> rfl

/-- Any failure but that of the task is a refusal. -/
theorem run_eq_error_iff {error : BackendError} (other : ∀ fault, error ≠ .taskFailed fault) :
    simulator.run available entropy search = .error error ↔
      simulator.Refuses available search.parameters.inputWidth error := by
  refine ⟨fun failed => ?_, fun reason => run_of_refused (approve_of_refuses reason)⟩
  rcases decided : simulator.approve available search.parameters.inputWidth with reason | ⟨⟩
  · rw [run_of_refused decided] at failed
    cases failed
    exact approve_eq_error_iff.1 decided
  · rw [run_of_approved decided] at failed
    rcases ran : Simulation.simulate search (simulator.words entropy) with fault | simulation
    · rw [ran] at failed
      cases failed
      exact absurd rfl (other fault)
    · rw [ran] at failed
      cases failed

/-- The task of an approved search fails exactly if some input has no output. -/
theorem exists_taskFailed_iff
    (approved : simulator.approve available search.parameters.inputWidth = .ok ()) :
    (∃ fault, simulator.run available entropy search = .error (.taskFailed fault)) ↔
      search.Faulty := by
  have faults : (∃ fault, Simulation.simulate search (simulator.words entropy) = .error fault) ↔
    search.Faulty := Simulation.simulateWith_eq_error_iff
  rw [run_of_approved approved, ← faults]
  rcases Simulation.simulate search (simulator.words entropy) with fault | simulation <;>
    simp [Except.mapError]

theorem exists_simulation
    (approved : simulator.approve available search.parameters.inputWidth = .ok ())
    (sound : ¬ search.Faulty) :
    ∃ simulation, simulator.run available entropy search = .ok simulation ∧
      Simulation.simulate search (simulator.words entropy) = .ok simulation := by
  have simulated : Simulation.simulate search (simulator.words entropy) = .ok _ :=
    Simulation.simulateWith_eq (Search.evaluates_of_not_faulty sound)
  exact ⟨_, by rw [run_of_approved approved, simulated]; rfl, simulated⟩

end Run

/-- A search is refused for its width, for a state vector whose size is no 64-bit number, or for one
that is larger than the memory there is, in this order, and whatever its oracle would do. Otherwise
its run fails exactly if the oracle has no output for some input of the search space, and else gives
the simulation with the words of the seed from the first one on. -/
theorem run_admits (simulator : Simulator) (available : Nat) (entropy : Nat → UInt64)
    (search : Search) :
    let width := search.parameters.inputWidth
    let required := 9 * 2 ^ width
    let result := simulator.run available entropy search
    let refused := simulator.maxInputWidth < width ∨ 2 ^ 64 ≤ required ∨
      simulator.checkMemory = true ∧ 0 < available ∧ available < required
    let faulty := ∃ input < 2 ^ width, ∃ message fault,
      encodeInput input width = .ok message ∧ search.oracle.evaluate message = .error fault
    (result = .error (.inputTooWide width simulator.maxInputWidth) ↔
      simulator.maxInputWidth < width) ∧
    (width ≤ simulator.maxInputWidth →
      (result = .error (.insufficientMemory (2 ^ 64 - 1) available) ↔ 2 ^ 64 ≤ required)) ∧
    (width ≤ simulator.maxInputWidth → required < 2 ^ 64 →
      (result = .error (.insufficientMemory required available) ↔
        simulator.checkMemory = true ∧ 0 < available ∧ available < required)) ∧
    (refused → ∀ oracle entropy,
      simulator.run available entropy ⟨oracle, search.parameters⟩ = result) ∧
    (¬ refused →
      ((∃ fault, result = .error (.taskFailed fault)) ↔ faulty) ∧
      (¬ faulty → ∃ simulation, result = .ok simulation ∧
        Simulation.simulate search
          (match simulator.seed with
            | some seed => Random.word seed
            | none => entropy) = .ok simulation)) := by
  intro width required result refused faulty
  refine ⟨?_, fun narrow => ?_, fun narrow sized => ?_, fun reasons oracle other => ?_,
    fun accepted => ?_⟩
  · exact (run_eq_error_iff (by simp)).trans refuses_inputTooWide_iff
  · exact (run_eq_error_iff (by simp)).trans
      (refuses_unaddressable_iff search.parameters.minInputWidth_le narrow)
  · exact (run_eq_error_iff (by simp)).trans (refuses_outOfMemory_iff narrow sized)
  · obtain ⟨error, reason⟩ := exists_refuses_iff.2 reasons
    have here : result = .error error := run_of_refused (approve_of_refuses reason)
    rw [here]
    exact run_of_refused (approve_of_refuses reason)
  · have approved := (refuses_or_approves simulator available width).resolve_left
      (mt exists_refuses_iff.1 accepted)
    exact ⟨exists_taskFailed_iff approved, fun sound => exists_simulation approved sound⟩

/-- The limits are met at 62 and 61 bits without a check of the memory, and at two bits where one
byte is missing; with that byte, only the oracle decides. -/
theorem run_admits_at_limits :
    let entropy : Nat → UInt64 := fun _ => 0
    let wide : SearchParameters :=
      ⟨"CRC-8", .single, 62, 8, 7, by decide, by decide, by decide, by decide⟩
    let large : SearchParameters :=
      ⟨"CRC-8", .single, 61, 8, 7, by decide, by decide, by decide, by decide⟩
    let small : SearchParameters :=
      ⟨"CRC-8", .single, 2, 8, 7, by decide, by decide, by decide, by decide⟩
    let checksum : Oracle := .ofChecksum .crc8
    let broken : Oracle := { checksum with evaluate := fun _ => .error .outOfBounds }
    run ⟨61, some 1, false⟩ 0 entropy ⟨broken, wide⟩ = .error (.inputTooWide 62 61) ∧
      run ⟨61, some 1, false⟩ 0 entropy ⟨broken, large⟩ =
        .error (.insufficientMemory (2 ^ 64 - 1) 0) ∧
      run ⟨61, some 1, true⟩ 35 entropy ⟨broken, small⟩ = .error (.insufficientMemory 36 35) ∧
      (∃ fault, run ⟨61, some 1, true⟩ 36 entropy ⟨broken, small⟩ =
        .error (.taskFailed fault)) ∧
      ∃ simulation, run ⟨61, some 1, true⟩ 36 entropy ⟨checksum, small⟩ = .ok simulation ∧
        Simulation.simulate ⟨checksum, small⟩ (Random.word 1) = .ok simulation := by
  intro entropy wide large small checksum broken
  have tooWide := run_admits ⟨61, some 1, false⟩ 0 entropy ⟨broken, wide⟩
  have tooLarge := run_admits ⟨61, some 1, false⟩ 0 entropy ⟨broken, large⟩
  have tooShort := run_admits ⟨61, some 1, true⟩ 35 entropy ⟨broken, small⟩
  have failing := run_admits ⟨61, some 1, true⟩ 36 entropy ⟨broken, small⟩
  have succeeding := run_admits ⟨61, some 1, true⟩ 36 entropy ⟨checksum, small⟩
  refine ⟨tooWide.1.2 (by decide), (tooLarge.2.1 (by decide)).2 (by decide),
    (tooShort.2.2.1 (by decide) (by decide)).2 (by decide),
    (failing.2.2.2.2 (by decide)).1.2 ⟨0, by decide, [0], .outOfBounds, by decide, rfl⟩,
    (succeeding.2.2.2.2 (by decide)).2 ?_⟩
  rintro ⟨input, -, message, fault, -, evaluated⟩
  cases evaluated

end Simulator

end PreimageSearch
