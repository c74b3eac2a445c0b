import PreimageSearch.Estimate

/-!
# The schedule of a search

The attempts of a search, one for each of its targets. Neither backend builds this list: each walks
over the targets by itself and counts the iterations on the way. That the estimator prices the
attempts of the schedule is `Estimator.estimateWith_eq_foldlM`, and that a simulation carries them
out, up to a match, is `Simulation.walk_eq`.
-/

namespace PreimageSearch

/-- The attempt for a target, where `count` gives the iterations for a search space and a number of
targets. -/
def attemptFor (count : Nat → Nat → Nat) (parameters : SearchParameters) (target : Nat) : Attempt :=
  ⟨target, count parameters.searchSpace target⟩

/-- The attempts of a search, in order. -/
def scheduleWith (count : Nat → Nat → Nat) (parameters : SearchParameters) : List Attempt :=
  parameters.targets.counts.map (attemptFor count parameters)

@[simp]
theorem length_scheduleWith (count : Nat → Nat → Nat) (parameters : SearchParameters) :
    (scheduleWith count parameters).length = parameters.targets.counts.length :=
  List.length_map _

theorem scheduleWith_ne_nil (count : Nat → Nat → Nat) (parameters : SearchParameters) :
    scheduleWith count parameters ≠ [] := by
  simpa [scheduleWith] using parameters.targets.nonempty

theorem iterations_lt_of_mem {count : Nat → Nat → Nat}
    (iterations : ∀ space targets, count space targets < Word.limit64)
    {parameters : SearchParameters} {attempt : Attempt}
    (member : attempt ∈ scheduleWith count parameters) : attempt.iterations < Word.limit64 := by
  obtain ⟨target, -, rfl⟩ := List.mem_map.1 member
  exact iterations _ _

/-- The estimator records the costs of the attempts, one after another. -/
theorem Estimator.estimateWith_eq_foldlM {count : Nat → Nat → Nat} {search : Search} {calls : Nat}
    (called : search.oracle.compressionCalls (encodedLength search.parameters.inputWidth) =
      .ok calls) :
    estimateWith count search =
      (scheduleWith count search.parameters).foldlM (fun report attempt => do
        let entries ← costs search calls attempt
        report.recordAll entries) ResourceReport.empty := by
  rw [estimateWith, called, scheduleWith, List.foldlM_map]
  rfl

end PreimageSearch
