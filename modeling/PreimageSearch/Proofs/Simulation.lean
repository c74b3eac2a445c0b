import Mathlib.Algebra.Order.Ring.Nat
import Mathlib.Data.Finset.Card
import PreimageSearch.Proofs.Schedule
import PreimageSearch.Proofs.StateVector
import PreimageSearch.Simulate

/-!
# What a simulation finds and how often it measures

A simulation marks exactly the preimages of its search space. It carries out its attempts in order,
each with the next random word, up to the first one that measures a preimage, and that preimage is
its outcome (`Simulation.simulateWith_eq`). All of this holds for any amplitudes, any counts of
iterations and any stream of words.
-/

namespace PreimageSearch

namespace Search

/-- The message for `input` has the output that is searched for. -/
def Preimage (search : Search) (input : Nat) : Prop :=
  (encodeInput input search.parameters.inputWidth).bind search.oracle.evaluate =
    .ok search.parameters.output

instance (search : Search) : DecidablePred search.Preimage := fun input =>
  match h : (encodeInput input search.parameters.inputWidth).bind search.oracle.evaluate with
  | .ok output => decidable_of_iff (output = search.parameters.output) (by simp [Preimage, h])
  | .error _ => isFalse (by simp [Preimage, h])

/-- The oracle has an output for every input of the search space. -/
def Evaluates (search : Search) : Prop :=
  ∀ input < search.parameters.searchSpace, ∃ output,
    (encodeInput input search.parameters.inputWidth).bind search.oracle.evaluate = .ok output

/-- Which inputs of the search space are preimages, in order. -/
def diagonal (search : Search) : List Bool :=
  (List.range search.parameters.searchSpace).map fun input => decide (search.Preimage input)

/-- The preimages in the search space. -/
def preimages (search : Search) : Finset Nat :=
  (Finset.range (2 ^ search.parameters.inputWidth)).filter search.Preimage

@[simp]
theorem length_diagonal (search : Search) :
    search.diagonal.length = search.parameters.searchSpace := by
  simp [diagonal]

theorem exists_message (search : Search) (input : Nat) :
    ∃ message, encodeInput input search.parameters.inputWidth = .ok message := by
  have narrow : encodedLength search.parameters.inputWidth ≤ 8 := by
    have := search.parameters.inputWidth_le
    unfold encodedLength Limits.maxInputWidth at *
    omega
  exact ⟨_, if_pos narrow⟩

theorem evaluates_of_total {search : Search}
    (h : ∀ message, ∃ output, search.oracle.evaluate message = .ok output) : search.Evaluates := by
  intro input _
  obtain ⟨message, encoded⟩ := exists_message search input
  rw [encoded]
  exact h message

theorem matches_eq {search : Search} (h : search.Evaluates) {input : Nat}
    (inside : input < search.parameters.searchSpace) :
    search.oracle.matches input search.parameters.inputWidth search.parameters.output =
      .ok (decide (search.Preimage input)) := by
  obtain ⟨output, ho⟩ := h input inside
  unfold Oracle.matches
  rcases he : encodeInput input search.parameters.inputWidth with fault | message
  · rw [he] at ho
    cases ho
  · rw [he] at ho
    change search.oracle.evaluate message = .ok output at ho
    have same : search.Preimage input ↔ output = search.parameters.output := by
      simp [Preimage, he, Except.bind, ho]
    simp [bind, Except.bind, ho, same, pure, Except.pure, beq_eq_decide]

end Search

namespace Simulation

theorem mapM_eq_ok {ε α β : Type} {f : α → Except ε β} {g : α → β} {l : List α}
    (h : ∀ a ∈ l, f a = .ok (g a)) : l.mapM f = .ok (l.map g) := by
  induction l with
  | nil => rfl
  | cons a l ih =>
    rw [List.mapM_cons, h a (by simp), ih fun b hb => h b (by simp [hb])]
    rfl

theorem mark_eq {search : Search} (h : search.Evaluates) : mark search = .ok search.diagonal :=
  mapM_eq_ok fun _ member => Search.matches_eq h (List.mem_range.1 member)

/-! ## Trials -/

section Trials

variable (α : Type) [Amplitude α] (count : Nat → Nat → Nat) (search : Search)
  (words : Nat → UInt64)

/-- What an attempt measures with the random word at `position`. -/
def trial (position : Nat) (attempt : Attempt) : Measurement :=
  let measured := StateVector.amplifyAndMeasure α search.diagonal attempt.iterations
    (words position)
  ⟨attempt, measured, decide (search.Preimage measured)⟩

/-- What the attempts of the schedule measure, each with the random word at its own position. -/
def trials : List Measurement :=
  (scheduleWith count search.parameters).mapIdx (trial α search words)

/-- What the attempts for `targets` measure, the first one with the random word at `position`. -/
def trialsFrom (position : Nat) (targets : List Nat) : List Measurement :=
  (targets.map (attemptFor count search.parameters)).mapIdx fun i =>
    trial α search words (position + i)

theorem trialsFrom_zero :
    trialsFrom α count search words 0 search.parameters.targets.counts =
      trials α count search words := by
  simp only [trialsFrom, Nat.zero_add]
  rfl

theorem trialsFrom_cons (position target : Nat) (rest : List Nat) :
    trialsFrom α count search words position (target :: rest) =
      trial α search words position (attemptFor count search.parameters target) ::
        trialsFrom α count search words (position + 1) rest := by
  have shift : (fun i => trial α search words (position + (i + 1))) =
      fun i => trial α search words (position + 1 + i) := by
    funext i
    rw [Nat.add_right_comm, Nat.add_assoc]
  rw [trialsFrom, List.map_cons, List.mapIdx_cons, shift, Nat.add_zero]
  rfl

end Trials

/-- The measurements up to the first match, which is included. -/
def upToMatch (trials : List Measurement) : List Measurement :=
  trials.take (trials.findIdx Measurement.matched + 1)

/-- The outcome of the first match. -/
def firstMatch (trials : List Measurement) : SearchOutcome :=
  match trials.find? Measurement.matched with
  | some trial => .found trial.measured
  | none => .exhausted

section

variable {α : Type} [Amplitude α] {count : Nat → Nat → Nat} {search : Search}
  {words : Nat → UInt64}

@[simp]
theorem length_trials :
    (trials α count search words).length = search.parameters.targets.counts.length := by
  simp [trials]

/-- Attempts measure inputs of the search space. -/
theorem trial_measured_lt (position : Nat) (attempt : Attempt) :
    (trial α search words position attempt).measured < search.parameters.searchSpace := by
  have inhabited : 0 < search.diagonal.length := by
    rw [Search.length_diagonal]
    exact twoPow_pos _
  have inside := StateVector.amplifyAndMeasure_lt α inhabited attempt.iterations (words position)
  rwa [Search.length_diagonal] at inside

theorem exists_trial {t : Measurement} (h : t ∈ trials α count search words) :
    ∃ position attempt, t = trial α search words position attempt := by
  obtain ⟨position, inside, rfl⟩ := List.mem_mapIdx.1 h
  exact ⟨_, _, rfl⟩

theorem upToMatch_cons_of_matched {t : Measurement} (h : t.matched = true)
    (rest : List Measurement) : upToMatch (t :: rest) = [t] := by
  simp [upToMatch, List.findIdx_cons, h]

theorem upToMatch_cons_of_not_matched {t : Measurement} (h : t.matched = false)
    (rest : List Measurement) : upToMatch (t :: rest) = t :: upToMatch rest := by
  simp [upToMatch, List.findIdx_cons, h]

theorem firstMatch_cons_of_matched {t : Measurement} (h : t.matched = true)
    (rest : List Measurement) : firstMatch (t :: rest) = .found t.measured := by
  simp [firstMatch, h]

theorem firstMatch_cons_of_not_matched {t : Measurement} (h : t.matched = false)
    (rest : List Measurement) : firstMatch (t :: rest) = firstMatch rest := by
  simp [firstMatch, h]

/-- One step of the walk carries out the trial of the attempt for its target. -/
theorem walk_cons (h : search.Evaluates) (position : Nat) (done : List Measurement) (target : Nat)
    (rest : List Nat) :
    let made := trial α search words position (attemptFor count search.parameters target)
    walk α count search search.diagonal words position done (target :: rest) =
      if made.matched then .ok ((made :: done).reverse, .found made.measured)
      else walk α count search search.diagonal words (position + 1) (made :: done) rest := by
  intro made
  have inside : made.measured < search.parameters.searchSpace := trial_measured_lt position _
  have checked := Search.matches_eq h inside
  rw [walk]
  change (search.oracle.matches made.measured _ _ >>= _) = _
  rw [checked]
  rfl

/-- The walk over the targets that are left carries out the trials of their attempts up to the first
match. -/
theorem walk_eq (h : search.Evaluates) (targets : List Nat) (position : Nat)
    (done : List Measurement) :
    walk α count search search.diagonal words position done targets =
      .ok (done.reverse ++ upToMatch (trialsFrom α count search words position targets),
        firstMatch (trialsFrom α count search words position targets)) := by
  induction targets generalizing position done with
  | nil => simp [walk, trialsFrom, upToMatch, firstMatch]
  | cons target rest ih =>
    rw [walk_cons h, trialsFrom_cons]
    rcases hm : (trial α search words position
      (attemptFor count search.parameters target)).matched with _ | _
    · rw [upToMatch_cons_of_not_matched hm, firstMatch_cons_of_not_matched hm, if_neg (by simp), ih]
      simp
    · rw [upToMatch_cons_of_matched hm, firstMatch_cons_of_matched hm, if_pos rfl]
      simp

/-- The whole course of a simulation, in terms of the trials of its attempts. -/
theorem simulateWith_eq (h : search.Evaluates) :
    simulateWith α count search words =
      .ok ⟨search.diagonal.count true, upToMatch (trials α count search words),
        firstMatch (trials α count search words)⟩ := by
  rw [simulateWith, mark_eq h]
  change (walk α count search search.diagonal words 0 [] _ >>= _) = _
  rw [walk_eq h, trialsFrom_zero]
  rfl

/-! ## The first match -/

theorem matched_iff {t : Measurement} (h : t ∈ trials α count search words) :
    t.matched = true ↔ search.Preimage t.measured := by
  obtain ⟨position, attempt, rfl⟩ := exists_trial h
  simp [trial]

theorem measured_lt {t : Measurement} (h : t ∈ trials α count search words) :
    t.measured < search.parameters.searchSpace := by
  obtain ⟨position, attempt, rfl⟩ := exists_trial h
  exact trial_measured_lt position attempt

theorem upToMatch_eq_take (l : List Measurement) : upToMatch l = l.take (upToMatch l).length := by
  rw [upToMatch, List.length_take, ← List.take_eq_take_min]

theorem upToMatch_append {earlier : List Measurement} (h : ∀ t ∈ earlier, t.matched = false)
    (later : List Measurement) : upToMatch (earlier ++ later) = earlier ++ upToMatch later := by
  induction earlier with
  | nil => rfl
  | cons t earlier ih =>
    rw [List.cons_append, upToMatch_cons_of_not_matched (h t (by simp)),
      ih fun u hu => h u (by simp [hu]), List.cons_append]

theorem exists_of_firstMatch_found {l : List Measurement} {input : Nat}
    (h : firstMatch l = .found input) :
    ∃ earlier hit later, l = earlier ++ hit :: later ∧ hit.matched = true ∧ hit.measured = input ∧
      ∀ t ∈ earlier, t.matched = false := by
  unfold firstMatch at h
  split at h
  · next hit found =>
    obtain ⟨matched, earlier, later, rfl, missed⟩ := List.find?_eq_some_iff_append.1 found
    cases h
    exact ⟨earlier, hit, later, rfl, matched, rfl, fun t ht => by simpa using missed t ht⟩
  · cases h

theorem firstMatch_eq_exhausted_iff {l : List Measurement} :
    firstMatch l = .exhausted ↔ ∀ t ∈ l, t.matched = false := by
  unfold firstMatch
  split
  · next hit found =>
    have matched := List.find?_some found
    have member := List.mem_of_find?_eq_some found
    refine iff_of_false (by simp) fun missed => ?_
    rw [missed hit member] at matched
    cases matched
  · next missed =>
    have missed := List.find?_eq_none.1 missed
    exact iff_of_true rfl fun t ht => by simpa using missed t ht

theorem upToMatch_of_exhausted {l : List Measurement} (h : firstMatch l = .exhausted) :
    upToMatch l = l := by
  simpa [upToMatch] using upToMatch_append (firstMatch_eq_exhausted_iff.1 h) []

/-- Only the trials up to the first match count. -/
theorem upToMatch_congr {l other : List Measurement} (same : other.length = l.length)
    (h : other.take (upToMatch l).length = upToMatch l) :
    upToMatch other = upToMatch l ∧ firstMatch other = firstMatch l := by
  induction l generalizing other with
  | nil =>
    rw [List.length_eq_zero_iff.1 same]
    exact ⟨rfl, rfl⟩
  | cons t l ih =>
    rcases other with _ | ⟨u, other⟩
    · cases same
    rcases hm : t.matched with _ | _
    · rw [upToMatch_cons_of_not_matched hm, List.length_cons, List.take_succ_cons] at h
      obtain ⟨rfl, rest⟩ := List.cons.inj h
      obtain ⟨measurements, outcome⟩ := ih (Nat.succ.inj same) rest
      rw [upToMatch_cons_of_not_matched hm, upToMatch_cons_of_not_matched hm,
        firstMatch_cons_of_not_matched hm, firstMatch_cons_of_not_matched hm, measurements, outcome]
      exact ⟨rfl, rfl⟩
    · rw [upToMatch_cons_of_matched hm, List.length_singleton, List.take_succ_cons] at h
      obtain ⟨rfl, -⟩ := List.cons.inj h
      rw [upToMatch_cons_of_matched hm, upToMatch_cons_of_matched hm,
        firstMatch_cons_of_matched hm, firstMatch_cons_of_matched hm]
      exact ⟨rfl, rfl⟩

/-- The first trials depend on the first words only. -/
theorem take_trials_congr {other : Nat → UInt64} {k : Nat}
    (h : ∀ position < k, other position = words position) :
    (trials α count search other).take k = (trials α count search words).take k := by
  apply List.ext_getElem?
  intro i
  by_cases hi : i < k
  · have same : trial α search other i = trial α search words i := by
      funext attempt
      rw [trial, trial, h i hi]
    simp [hi, trials, same]
  · simp [hi]

theorem count_diagonal (search : Search) :
    search.diagonal.count true = search.preimages.card := by
  change _ = ((List.range search.parameters.searchSpace).filter fun input =>
    decide (search.Preimage input)).length
  rw [Search.diagonal, List.count_eq_countP, List.countP_map, List.countP_eq_length_filter]
  congr 1
  apply List.filter_congr
  intro input _
  simp

end

/-! ## The account of a simulation -/

/-- What the course of a simulation says about its search, where `trials` are the measurements that
all attempts would make. -/
structure Accounts (α : Type) [Amplitude α] (count : Nat → Nat → Nat) (search : Search)
    (words : Nat → UInt64) (simulation : Simulation) : Prop where
  /-- Measurements are made in the order of the attempts, each with the word at its position. -/
  measured : simulation.measurements = (trials α count search words).take simulation.drawn
  /-- Words beyond those drawn have no influence. -/
  drawn_only : ∀ other : Nat → UInt64,
    (∀ position < simulation.drawn, other position = words position) →
      simulateWith α count search other = .ok simulation
  /-- What is found is a preimage, measured by the first attempt that measures one; as many words
  are drawn as that attempt's number. -/
  found : ∀ input, simulation.outcome = .found input →
    input < 2 ^ search.parameters.inputWidth ∧ search.Preimage input ∧
      simulation.drawn ≤ search.parameters.targets.counts.length ∧
      ∃ earlier hit later, trials α count search words = earlier ++ hit :: later ∧
        hit.measured = input ∧ (∀ trial ∈ earlier, ¬ search.Preimage trial.measured) ∧
        simulation.drawn = earlier.length + 1
  exhausted : simulation.outcome = .exhausted →
    simulation.drawn = search.parameters.targets.counts.length ∧
      ∀ measurement ∈ simulation.measurements, ¬ search.Preimage measurement.measured
  exhausted_of_none :
    (∀ input < 2 ^ search.parameters.inputWidth, ¬ search.Preimage input) →
      simulation.outcome = .exhausted
  found_of_all :
    (∀ input < 2 ^ search.parameters.inputWidth, search.Preimage input) →
      (∃ input, simulation.outcome = .found input) ∧ simulation.drawn = 1
  solutions : simulation.solutions = search.preimages.card
  /-- The journal opens with the number of preimages. -/
  logged : ∃ later, simulation.journal search =
    Journal.detail "oracle diagonal built"
      [("solutions", search.preimages.card), ("inputs", 2 ^ search.parameters.inputWidth)] ::
    Journal.note "SIMULATOR" (search.parameters.operation ++
      s!" has {search.preimages.card} preimage(s) of " ++ Hex.text search.parameters.output ++
      s!" among {2 ^ search.parameters.inputWidth} inputs") :: later

section

variable {α : Type} [Amplitude α] {count : Nat → Nat → Nat} {search : Search}
  {words : Nat → UInt64}

theorem accounts_found (h : search.Evaluates) {simulation : Simulation}
    (run : simulateWith α count search words = .ok simulation) {input : Nat}
    (found : simulation.outcome = .found input) :
    input < search.parameters.searchSpace ∧ search.Preimage input ∧
      ∃ earlier hit later, trials α count search words = earlier ++ hit :: later ∧
        hit.measured = input ∧ (∀ trial ∈ earlier, ¬ search.Preimage trial.measured) ∧
        simulation.drawn = earlier.length + 1 := by
  rw [simulateWith_eq h] at run
  cases run
  obtain ⟨earlier, hit, later, split, matched, rfl, missed⟩ := exists_of_firstMatch_found found
  have member (t : Measurement) (ht : t ∈ earlier ∨ t = hit) : t ∈ trials α count search words := by
    rw [split]
    rcases ht with ht | rfl <;> simp [*]
  refine ⟨measured_lt (member hit (.inr rfl)), (matched_iff (member hit (.inr rfl))).1 matched,
    earlier, hit, later, split, rfl, fun t ht preimage => ?_, ?_⟩
  · rw [← matched_iff (member t (.inl ht)), missed t ht] at preimage
    cases preimage
  · rw [drawn, split, upToMatch_append missed, upToMatch_cons_of_matched matched]
    simp

theorem accounts_exhausted (h : search.Evaluates) {simulation : Simulation}
    (run : simulateWith α count search words = .ok simulation)
    (exhausted : simulation.outcome = .exhausted) :
    simulation.drawn = search.parameters.targets.counts.length ∧
      ∀ measurement ∈ simulation.measurements, ¬ search.Preimage measurement.measured := by
  rw [simulateWith_eq h] at run
  cases run
  have missed := firstMatch_eq_exhausted_iff.1 exhausted
  simp only [drawn, upToMatch_of_exhausted exhausted]
  refine ⟨length_trials, fun t ht preimage => ?_⟩
  rw [← matched_iff ht, missed t ht] at preimage
  cases preimage

theorem accounts_simulateWith (h : search.Evaluates) :
    ∃ simulation, simulateWith α count search words = .ok simulation ∧
      simulation.Accounts α count search words := by
  have run : simulateWith α count search words = _ := simulateWith_eq h
  have number : (trials α count search words).length = _ := length_trials
  refine ⟨_, run, upToMatch_eq_take _, ?_, ?_, accounts_exhausted h run, ?_, ?_,
    count_diagonal search, ?_⟩
  · intro other same
    have kept :
        (trials α count search other).take (upToMatch (trials α count search words)).length =
          upToMatch (trials α count search words) :=
      (take_trials_congr same).trans (upToMatch_eq_take _).symm
    obtain ⟨measurements, outcome⟩ := upToMatch_congr (by simp) kept
    rw [simulateWith_eq h, measurements, outcome]
  · intro input found
    obtain ⟨inside, preimage, rest⟩ := accounts_found h run found
    refine ⟨inside, preimage, ?_, rest⟩
    rw [drawn, upToMatch_eq_take, List.length_take, ← number]
    exact Nat.min_le_right _ _
  · intro none
    rw [firstMatch_eq_exhausted_iff]
    intro t ht
    exact Bool.eq_false_iff.2 fun matched =>
      none _ (measured_lt ht) ((matched_iff ht).1 matched)
  · intro all
    rcases hl : trials α count search words with _ | ⟨first, rest⟩
    · rw [hl] at number
      exact absurd (List.length_eq_zero_iff.1 number.symm) search.parameters.targets.nonempty
    · have member : first ∈ trials α count search words := by simp [hl]
      have matched := (matched_iff member).2 (all _ (measured_lt member))
      rw [firstMatch_cons_of_matched matched, drawn, upToMatch_cons_of_matched matched]
      exact ⟨⟨_, rfl⟩, rfl⟩
  · rw [count_diagonal]
    exact ⟨_, rfl⟩

end

/-- For an oracle that evaluates every input, every simulation ends with a result, and its result,
its draws and its journal are accounted for: on floating-point numbers, and whatever the amplitudes
and the counts of iterations are. -/
theorem simulate_accounts (search : Search) (words : Nat → UInt64) (h : search.Evaluates) :
    (∃ simulation, simulate search words = .ok simulation ∧
      simulation.Accounts Float groverIterations search words) ∧
    ∀ (α : Type) [Amplitude α] (count : Nat → Nat → Nat),
      ∃ simulation, simulateWith α count search words = .ok simulation ∧
        simulation.Accounts α count search words :=
  ⟨accounts_simulateWith h, fun _ _ _ => accounts_simulateWith h⟩

/-- One of the four inputs of two bits has the check `7`, and one word is drawn to look for it. -/
theorem simulate_accounts_crc8 :
    let search : Search := ⟨.ofChecksum .crc8,
      ⟨"CRC-8", .single, 2, 8, 7, by decide, by decide, by decide, by decide⟩⟩
    search.Evaluates ∧ ∃ simulation, simulate search (fun _ => 0) = .ok simulation ∧
      simulation.solutions = 1 ∧ simulation.drawn = 1 := by
  intro search
  have evaluates : search.Evaluates := Search.evaluates_of_total fun _ => ⟨_, rfl⟩
  obtain ⟨⟨simulation, run, accounts⟩, -⟩ := simulate_accounts search (fun _ => 0) evaluates
  refine ⟨evaluates, simulation, run, accounts.solutions.trans (by decide), ?_⟩
  rcases hs : simulation.outcome with input | _
  · obtain ⟨-, -, few, earlier, -, -, -, -, -, drawn⟩ := accounts.found input hs
    have one : search.parameters.targets.counts.length = 1 := rfl
    omega
  · exact (accounts.exhausted hs).1

end Simulation

end PreimageSearch
