import PreimageSearch.Proofs.CostTable
import PreimageSearch.Proofs.Dispatch

/-!
# Headroom of the estimator

Pricing computes with words of 64 and 128 bits, and `WithinWords` has a condition for each of its
operations. A search of the standard catalog meets them all as long as it makes at most `2 ^ 40`
attempts, however often each of them amplifies: an attempt adds less than `2 ^ 87` to any metric,
and `2 ^ 127` is still a word. So such a search is always priced.
-/

namespace PreimageSearch.Estimator

/-- Every number that pricing computes is a value of the word that holds it, when one evaluation of
the oracle takes `calls` compression calls. The calls themselves are counted with checks of their
own. -/
structure WithinWords (count : Nat → Nat → Nat) (search : Search) (calls : Nat) : Prop where
  searchSpace : search.parameters.searchSpace < 2 ^ 64
  compressionCalls : calls < 2 ^ 64
  qubits : qubits search < 2 ^ 128
  evaluations : ∀ attempt ∈ scheduleWith count search.parameters, 2 * attempt.iterations < 2 ^ 128
  compressions : ∀ attempt ∈ scheduleWith count search.parameters,
    2 * attempt.iterations * calls < 2 ^ 128
  /-- The sums that a report holds after any number of attempts. -/
  sums : ∀ done metric, done <+: scheduleWith count search.parameters →
    total search calls done metric < 2 ^ 128

section Standard

variable {search : Search} {calls : Nat} {count : Nat → Nat → Nat}

theorem searchSpace_lt (parameters : SearchParameters) : parameters.searchSpace < 2 ^ 64 := by
  apply Nat.pow_lt_pow_right (by decide)
  have := parameters.inputWidth_le
  unfold Limits.maxInputWidth at this
  omega

/-- The conditions hold where the calls are few and the widths moderate. -/
theorem withinWords_of_bounds (few : search.parameters.targets.length ≤ 2 ^ 40)
    (iterations : ∀ space targets, count space targets < 2 ^ 64) (called : calls < twoPow 22)
    (state : search.oracle.stateWidth ≤ keccakStateWidth)
    (width : search.parameters.outputWidth < 2 ^ 32) : WithinWords count search calls := by
  have counted (attempt : Attempt) (member : attempt ∈ scheduleWith count search.parameters) :
      attempt.iterations < Word.limit64 := iterations_lt_of_mem iterations member
  have room : twoPow 87 < 2 ^ 128 := by decide
  have amount (attempt : Attempt) (member : attempt ∈ scheduleWith count search.parameters)
      (metric : Metric) : metric.amount search calls attempt < 2 ^ 128 :=
    Nat.lt_trans (amount_lt (counted attempt member) called state width metric) room
  refine ⟨searchSpace_lt _, Nat.lt_trans called (by decide), ?_,
    fun attempt member => amount attempt member .oracleEvaluations,
    fun attempt member => amount attempt member .oracleCompressionCalls, ?_⟩
  · -- Each attempt records the qubits, and there is an attempt.
    obtain ⟨attempt, member⟩ := List.exists_mem_of_ne_nil _ (scheduleWith_ne_nil count
      search.parameters)
    exact amount attempt member .qubitCount
  · intro done metric earlier
    have short : done.length ≤ twoPow 40 := by
      have := earlier.length_le
      rw [length_scheduleWith] at this
      exact Nat.le_trans this few
    exact total_lt short (fun attempt member => counted attempt (earlier.subset member)) called
      state width metric

/-- A search within its words is priced, and its report is the table of costs. -/
theorem WithinWords.estimateWith_eq (h : WithinWords count search calls)
    (priced : search.oracle.compressionCalls (encodedLength search.parameters.inputWidth) =
      .ok calls) : estimateWith count search = .ok ⟨costTable count search calls⟩ := by
  rw [Estimator.estimateWith_eq priced fun metric => h.sums _ metric List.prefix_rfl,
    tally_eq_costTable]

/-- A search that the standard catalog has built is as it was asked for, over one of its
operations. -/
theorem exists_reliable {name : String} {targets : TargetSequence}
    {inputWidth outputWidth output : Nat}
    (built : Catalog.standard.search name targets inputWidth outputWidth output = .ok search) :
    ∃ operation : Operation, operation.Reliable ∧
      search.oracle = operation.oracle search.parameters.outputWidth ∧
      search.parameters.targets = targets ∧ search.parameters.inputWidth = inputWidth ∧
      search.parameters.outputWidth = outputWidth := by
  have accepted := (Catalog.search_eq_ok_iff Catalog.standard_distinct targets).1 ⟨search, built⟩
  obtain ⟨operation, member, -, -, same⟩ :=
    Catalog.search_of_accepts Catalog.standard_distinct targets accepted
  rw [built] at same
  cases same
  exact ⟨operation, Catalog.standard_reliable.operations operation member, rfl, rfl, rfl, rfl⟩

end Standard

/-- The estimator never overflows and never divides by zero. For every search that the standard
catalog builds, of at most `2 ^ 40` attempts and with a 32-bit word as output width, the compression
calls are counted without a fault; whatever 64-bit words the counts of iterations are, every number
that is computed from them is a word of its size, and the search is priced. So a run of the
estimator ends with the report and never abandons its task. -/
theorem estimateWith_within_words (name : String) (targets : TargetSequence)
    (inputWidth outputWidth output : Nat) (search : Search)
    (built : Catalog.standard.search name targets inputWidth outputWidth output = .ok search)
    (word : outputWidth < 2 ^ 32) (few : targets.length ≤ 2 ^ 40) :
    ∃ calls, search.oracle.compressionCalls (encodedLength inputWidth) = .ok calls ∧
      (∀ count, (∀ space targets, count space targets < 2 ^ 64) →
        WithinWords count search calls ∧
        estimateWith count search = .ok ⟨costTable count search calls⟩) ∧
      run search = .ok ⟨costTable groverIterations search calls⟩ ∧
      ∀ fault, run search ≠ .error (.taskFailed fault) := by
  obtain ⟨operation, reliable, bound, rfl, rfl, rfl⟩ := exists_reliable built
  obtain ⟨calls, priced, called⟩ := exists_calls reliable bound word
  have within {count : Nat → Nat → Nat}
      (iterations : ∀ space targets, count space targets < 2 ^ 64) :
      WithinWords count search calls :=
    withinWords_of_bounds few iterations called (stateWidth_le reliable bound) word
  have ran : run search = .ok ⟨costTable groverIterations search calls⟩ := by
    rw [run, estimate, (within groverIterations_lt).estimateWith_eq priced]
  refine ⟨calls, priced, fun count iterations => ⟨within iterations, ?_⟩, ran, ?_⟩
  · exact (within iterations).estimateWith_eq priced
  · intro fault failed
    rw [ran] at failed
    cases failed

/-- Three attempts for the widest output there is, each with the greatest count of iterations. -/
theorem estimateWith_within_words_shake256 :
    let search : Search := ⟨.ofStream "SHAKE256" .shake256 136 (2 ^ 32 - 1),
      ⟨"SHAKE256", ⟨[1, 2, 4], by decide, by decide⟩, 62, 2 ^ 32 - 1, 0, by decide, by decide,
        by decide, by decide⟩⟩
    Catalog.standard.search "SHAKE256" search.parameters.targets 62 (2 ^ 32 - 1) 0 = .ok search ∧
      estimateWith (fun _ _ => 2 ^ 64 - 1) search = .ok ⟨[⟨"Attempts", 3, 1⟩,
        ⟨"GroverIterations", 3 * (2 ^ 64 - 1), 2 ^ 64 - 1⟩,
        ⟨"OracleEvaluations", 6 * (2 ^ 64 - 1), 2 * (2 ^ 64 - 1)⟩,
        ⟨"OracleCompressionCalls", 23685486 * (2 ^ 64 - 1), 7895162 * (2 ^ 64 - 1)⟩,
        ⟨"DiffusionOperations", 3 * (2 ^ 64 - 1), 2 ^ 64 - 1⟩, ⟨"Measurements", 186, 62⟩,
        ⟨"QubitCount", 12884906874, 4294968958⟩]⟩ ∧
      ∃ report, run search = .ok report := by
  intro search
  have member : ⟨"SHAKE256", .dynamic, false, .ofStream "SHAKE256" .shake256 136⟩ ∈
      Catalog.standard.operations := by
    simp [Catalog.standard]
  have built : Catalog.standard.search "SHAKE256" search.parameters.targets 62 (2 ^ 32 - 1) 0 =
      .ok search := Catalog.search_eq_ok search.parameters
    (Catalog.find?_name Catalog.standard_distinct member) rfl trivial
  obtain ⟨calls, called, priced, ran, -⟩ := estimateWith_within_words "SHAKE256"
    search.parameters.targets 62 (2 ^ 32 - 1) 0 search built (by decide) (by decide)
  have counted : calls = 3947581 := by
    have evaluated : search.oracle.compressionCalls 8 = .ok 3947581 := by decide
    exact Except.ok.inj (called.symm.trans evaluated)
  have reported := (priced (fun _ _ => 2 ^ 64 - 1) fun _ _ => by decide).2
  rw [counted] at reported
  exact ⟨built, reported.trans (by decide +kernel), _, ran⟩

end PreimageSearch.Estimator
