import PreimageSearch.Proofs.Simulation

/-!
# Simulations carried on

A simulation takes its words from the front of a stream and leaves the others (`Simulation.left`).
What an attempt does depends on its target and on the word that it takes, not on the attempts before
it (`Simulation.walk_cons_eq`), so walking over two lists of targets is walking over the first and,
unless that finds a match, over the second with the words that are left. No oracle is assumed to
have an output for every input: a fault on the one side is the same fault on the other.
-/

namespace PreimageSearch

/-- One target sequence after another. -/
def TargetSequence.append (first second : TargetSequence) : TargetSequence where
  counts := first.counts ++ second.counts
  nonempty := List.append_ne_nil_of_left_ne_nil first.nonempty second.counts
  positive := by
    intro target member
    rcases List.mem_append.1 member with earlier | later
    · exact first.positive target earlier
    · exact second.positive target later

/-- The same search with other targets. -/
def Search.withTargets (search : Search) (targets : TargetSequence) : Search :=
  { search with parameters := { search.parameters with targets } }

namespace Simulation

/-- The words that a simulation leaves of those that it was given. -/
def left (simulation : Simulation) (words : Nat → UInt64) : Nat → UInt64 :=
  fun position => words (simulation.drawn + position)

/-- What an attempt measures with a random word, checked against the oracle. -/
def attemptWith (α : Type) [Amplitude α] (search : Search) (marked : List Bool) (word : UInt64)
    (attempt : Attempt) : Except Fault Measurement := do
  let measured := StateVector.amplifyAndMeasure α marked attempt.iterations word
  let matched ← search.oracle.matches measured search.parameters.inputWidth
    search.parameters.output
  return ⟨attempt, measured, matched⟩

/-! ## Walks -/

section Walks

variable {α : Type} [Amplitude α] {count : Nat → Nat → Nat} {search : Search} {marked : List Bool}

/-- A step of the walk takes the word at its position. -/
theorem walk_cons_eq (words : Nat → UInt64) (position : Nat) (done : List Measurement)
    (target : Nat) (rest : List Nat) :
    walk α count search marked words position done (target :: rest) = (do
      let measurement ← attemptWith α search marked (words position)
        (attemptFor count search.parameters target)
      if measurement.matched then
        return ((measurement :: done).reverse, .found measurement.measured)
      else walk α count search marked words (position + 1) (measurement :: done) rest) := by
  rw [walk, attemptWith, attemptFor]
  rcases search.oracle.matches (StateVector.amplifyAndMeasure α marked
    (count search.parameters.searchSpace target) (words position)) search.parameters.inputWidth
    search.parameters.output with fault | matched <;> rfl

/-- Walking on is walking from the start with the words from the present position on. -/
theorem walk_eq_map (words : Nat → UInt64) (position : Nat) (done : List Measurement)
    (targets : List Nat) :
    walk α count search marked words position done targets =
      (walk α count search marked (fun later => words (position + later)) 0 [] targets).map
        fun walked => (done.reverse ++ walked.1, walked.2) := by
  induction targets generalizing words position done with
  | nil => simp [walk, Except.map]
  | cons target rest ih =>
    rw [walk_cons_eq, walk_cons_eq, Nat.add_zero]
    rcases attemptWith α search marked (words position)
      (attemptFor count search.parameters target) with fault | measurement
    · rfl
    simp only [bind, Except.bind]
    rcases measurement.matched with _ | _
    · have shift : (fun later => words (position + 1 + later)) =
          fun later => words (position + (0 + 1 + later)) := by
        funext later
        congr 1
        omega
      rw [if_neg Bool.false_ne_true, if_neg Bool.false_ne_true, ih,
        ih (fun later => words (position + later)), shift]
      rcases walk α count search marked (fun later => words (position + (0 + 1 + later))) 0 [] rest
        with fault | walked
      · rfl
      · simp [Except.map]
    · simp [Except.map, pure, Except.pure]

theorem walk_shift (words : Nat → UInt64) (position : Nat) (done : List Measurement)
    (targets : List Nat) :
    walk α count search marked words position done targets =
      walk α count search marked (fun later => words (position + later)) 0 done targets := by
  rw [walk_eq_map, walk_eq_map (fun later => words (position + later)) 0 done]
  simp only [Nat.zero_add]

/-- Walking over more targets is walking over the first ones and, if none of their attempts matches,
over the others. -/
theorem walk_append (words : Nat → UInt64) (position : Nat) (done : List Measurement)
    (first second : List Nat) :
    walk α count search marked words position done (first ++ second) = (do
      let walked ← walk α count search marked words position done first
      match walked.2 with
      | .found _ => return walked
      | .exhausted =>
        walk α count search marked words (position + first.length) walked.1.reverse second) := by
  induction first generalizing position done with
  | nil => simp [walk, bind, Except.bind]
  | cons target rest ih =>
    rw [List.cons_append, walk_cons_eq, walk_cons_eq]
    rcases attemptWith α search marked (words position)
      (attemptFor count search.parameters target) with fault | measurement
    · rfl
    simp only [bind, Except.bind]
    rcases measurement.matched with _ | _
    · have shift : position + (target :: rest).length = position + 1 + rest.length := by
        rw [List.length_cons]
        omega
      rw [shift, if_neg Bool.false_ne_true, if_neg Bool.false_ne_true]
      exact ih (position + 1) _
    · rfl

/-- A walk that finds nothing makes a measurement for each target. -/
theorem length_of_walk_exhausted {words : Nat → UInt64} {position : Nat} {done : List Measurement}
    {targets : List Nat} {measurements : List Measurement}
    (h : walk α count search marked words position done targets =
      .ok (measurements, .exhausted)) :
    measurements.length = done.length + targets.length := by
  induction targets generalizing position done with
  | nil =>
    cases h
    simp
  | cons target rest ih =>
    rw [walk_cons_eq] at h
    rcases tried : attemptWith α search marked (words position)
      (attemptFor count search.parameters target) with fault | measurement
    · rw [tried] at h
      cases h
    rw [tried] at h
    simp only [bind, Except.bind] at h
    split at h
    · cases h
    · have walked := ih h
      simp only [List.length_cons] at walked ⊢
      omega

/-- Of the targets of a search only those that are walked over have a part in the walk. -/
theorem walk_withTargets (targets : TargetSequence) (words : Nat → UInt64) (position : Nat)
    (done : List Measurement) (walked : List Nat) :
    walk α count (search.withTargets targets) marked words position done walked =
      walk α count search marked words position done walked := by
  induction walked generalizing position done with
  | nil => rfl
  | cons target rest ih =>
    rw [walk_cons_eq, walk_cons_eq]
    simp only [ih]
    rfl

end Walks

/-! ## Simulations -/

section Simulations

variable {α : Type} [Amplitude α] {count : Nat → Nat → Nat} {search : Search}

theorem simulateWith_withTargets (targets : TargetSequence) (words : Nat → UInt64) :
    simulateWith α count (search.withTargets targets) words = (do
      let marked ← mark search
      let walked ← walk α count search marked words 0 [] targets.counts
      return ⟨marked.count true, walked.1, walked.2⟩) := by
  rw [simulateWith]
  simp only [walk_withTargets]
  rfl

/-- A simulation over more targets is one over the first ones and, if that is exhausted, one over
the others with the words that it leaves. -/
theorem simulateWith_eq_continued (first second : TargetSequence) (words : Nat → UInt64) :
    simulateWith α count (search.withTargets (first.append second)) words = (do
      let earlier ← simulateWith α count (search.withTargets first) words
      match earlier.outcome with
      | .found _ => return earlier
      | .exhausted =>
        let later ← simulateWith α count (search.withTargets second) (earlier.left words)
        return ⟨earlier.solutions, earlier.measurements ++ later.measurements,
          later.outcome⟩) := by
  simp only [simulateWith_withTargets, TargetSequence.append, walk_append]
  rcases mark search with fault | marked
  · rfl
  simp only [bind, Except.bind]
  rcases hw : walk α count search marked words 0 [] first.counts with
    fault | ⟨measurements, outcome⟩
  · rfl
  rcases outcome with input | _
  · rfl
  have remaining :
      left ⟨marked.count true, measurements, .exhausted⟩ words = fun later =>
        words (0 + first.counts.length + later) := by
    funext later
    rw [left, drawn, length_of_walk_exhausted hw, List.length_nil]
  simp only [pure, Except.pure, remaining]
  rw [walk_eq_map]
  rcases walk α count search marked _ 0 [] second.counts with fault | walked
  · rfl
  · simp [Except.map]

variable {first second : TargetSequence} {words : Nat → UInt64} {earlier later : Simulation}

theorem simulateWith_append_of_found {input : Nat}
    (ran : simulateWith α count (search.withTargets first) words = .ok earlier)
    (found : earlier.outcome = .found input) :
    simulateWith α count (search.withTargets (first.append second)) words = .ok earlier := by
  rw [simulateWith_eq_continued, ran]
  simp only [bind, Except.bind, found]
  rfl

theorem simulateWith_append_of_exhausted
    (ran : simulateWith α count (search.withTargets first) words = .ok earlier)
    (exhausted : earlier.outcome = .exhausted)
    (ranOn : simulateWith α count (search.withTargets second) (earlier.left words) = .ok later) :
    simulateWith α count (search.withTargets (first.append second)) words =
      .ok ⟨earlier.solutions, earlier.measurements ++ later.measurements, later.outcome⟩ := by
  rw [simulateWith_eq_continued, ran]
  simp only [bind, Except.bind, exhausted, ranOn]
  rfl

end Simulations

/-- A simulation over one target sequence after another comes to the outcome of the first, and
otherwise to that of the second on the words that the first one leaves; in the end the same words
are left. What the first one finds is found with any targets after it. -/
theorem simulateWith_append (α : Type) [Amplitude α] (count : Nat → Nat → Nat) (search : Search)
    (first second : TargetSequence) (words : Nat → UInt64) :
    let run (targets : TargetSequence) (words : Nat → UInt64) : Except Fault Simulation :=
      simulateWith α count (search.withTargets targets) words
    (run (first.append second) words = do
      let earlier ← run first words
      match earlier.outcome with
      | .found _ => return earlier
      | .exhausted =>
        let later ← run second (earlier.left words)
        return ⟨earlier.solutions, earlier.measurements ++ later.measurements,
          later.outcome⟩) ∧
    (∀ earlier later, run first words = .ok earlier → earlier.outcome = .exhausted →
      run second (earlier.left words) = .ok later →
      ∃ whole, run (first.append second) words = .ok whole ∧ whole.outcome = later.outcome ∧
        whole.drawn = earlier.drawn + later.drawn ∧
        whole.left words = later.left (earlier.left words)) ∧
    ∀ earlier input, run first words = .ok earlier → earlier.outcome = .found input →
      run (first.append second) words = .ok earlier := by
  intro run
  refine ⟨simulateWith_eq_continued first second words, ?_, ?_⟩
  · intro earlier later ran exhausted ranOn
    refine ⟨_, simulateWith_append_of_exhausted ran exhausted ranOn, rfl, List.length_append, ?_⟩
    funext position
    simp only [left, drawn, List.length_append, Nat.add_assoc]
  · intro earlier input ran found
    exact simulateWith_append_of_found ran found

/-- No input of one bit has the check `1`, so two attempts and one more draw three words; any input
has a constant output, so one word is drawn whatever is appended. -/
theorem simulateWith_append_crc8 :
    let first : TargetSequence := ⟨[1, 2], by decide, by decide⟩
    let second : TargetSequence := ⟨[4], by decide, by decide⟩
    let words : Nat → UInt64 := fun position => UInt64.ofNat position
    let search : Search := ⟨.ofChecksum .crc8,
      ⟨"CRC-8", .single, 1, 8, 1, by decide, by decide, by decide, by decide⟩⟩
    let constant : Search :=
      { search with oracle := { search.oracle with evaluate := fun _ => .ok 1 } }
    (∃ earlier later whole, simulate (search.withTargets first) words = .ok earlier ∧
      earlier.outcome = .exhausted ∧
      simulate (search.withTargets second) (earlier.left words) = .ok later ∧
      simulate (search.withTargets (first.append second)) words = .ok whole ∧
      whole.outcome = .exhausted ∧ whole.drawn = 3) ∧
    ∃ earlier input, simulate (constant.withTargets first) words = .ok earlier ∧
      earlier.outcome = .found input ∧ earlier.drawn = 1 ∧
      simulate (constant.withTargets (first.append second)) words = .ok earlier := by
  intro first second words search constant
  have accounted (search : Search) (words : Nat → UInt64)
      (total : ∀ message, ∃ output, search.oracle.evaluate message = .ok output) :
      ∃ simulation, simulate search words = .ok simulation ∧
        simulation.Accounts Float groverIterations search words :=
    accounts_simulateWith (Search.evaluates_of_total total)
  constructor
  · obtain ⟨earlier, ran, accounts⟩ :=
      accounted (search.withTargets first) words fun _ => ⟨_, rfl⟩
    obtain ⟨later, ranOn, accountsOn⟩ :=
      accounted (search.withTargets second) (earlier.left words) fun _ => ⟨_, rfl⟩
    have exhausted := accounts.exhausted_of_none (by decide)
    have exhaustedOn := accountsOn.exhausted_of_none (by decide)
    obtain ⟨-, onward, -⟩ := simulateWith_append Float groverIterations search first second words
    obtain ⟨whole, both, outcome, drawn, -⟩ := onward earlier later ran exhausted ranOn
    refine ⟨earlier, later, whole, ran, exhausted, ranOn, both, outcome.trans exhaustedOn, ?_⟩
    rw [drawn, (accounts.exhausted exhausted).1, (accountsOn.exhausted exhaustedOn).1]
    rfl
  · obtain ⟨earlier, ran, accounts⟩ :=
      accounted (constant.withTargets first) words fun _ => ⟨_, rfl⟩
    obtain ⟨⟨input, found⟩, one⟩ := accounts.found_of_all (by decide)
    obtain ⟨-, -, stays⟩ := simulateWith_append Float groverIterations constant first second words
    exact ⟨earlier, input, ran, found, one, stays earlier input ran found⟩

end Simulation

end PreimageSearch
