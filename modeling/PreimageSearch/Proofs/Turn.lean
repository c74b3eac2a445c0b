import PreimageSearch.Proofs.Admission
import PreimageSearch.Proofs.Described
import PreimageSearch.Proofs.Estimation

/-!
# Turns of the main menu

`Turn` lists all that a turn of the main menu can do, with the request that its lines make, the
lines and the number of runs it leaves, and what it says. Every turn of a session on a reliable
catalog is one of these (`exists_turn`): pricing never fails, and a simulation fails only if it is
not approved.
-/

namespace PreimageSearch

namespace Session

open Interview

/-- What a turn can come to. All that is said before a result is unmarked. -/
inductive Turn (session : Session) (conditions : Nat → Conditions) (lines : List Line)
    (runs : Nat) : Except SessionError Next → List Line → Nat → String → Prop
  | unread {error : ConsoleError} {rest : List Line} {opening : String}
    (failed : Unread lines error rest)
    (unfinished : ∀ request rest, ¬ Requested session.catalog lines request rest) :
    Turn session conditions lines runs (.error (.console error)) rest runs (opening ++ "> ")
  | quit {rest : List Line} {opening : String}
    (requested : Requested session.catalog lines .quit rest) (suffix : rest <:+ lines) :
    Turn session conditions lines runs (.ok .finished) rest runs (opening ++ "Exiting...\n")
  | help {rest : List Line} {opening : String}
    (requested : Requested session.catalog lines .help rest) (suffix : rest <:+ lines) :
    Turn session conditions lines runs (.ok .again) rest runs (opening ++ (Guide.help ++ "\n"))
  | analyze {rest : List Line} {opening : String} {search : Search} {report : ResourceReport}
    (requested : Requested session.catalog lines (.run .analyze search) rest)
    (suffix : rest <:+ lines) (unmarked : Unmarked opening)
    (priced : Estimator.estimate search = .ok report) (lacks : Lacks 'S' report.text) :
    Turn session conditions lines runs (.ok .again) rest (runs + 1)
      (opening ++ Rendering.estimation report)
  | refuse {rest : List Line} {opening : String} {search : Search} {error : BackendError}
    (requested : Requested session.catalog lines (.run .simulate search) rest)
    (suffix : rest <:+ lines)
    (refused : session.simulator.approve (conditions runs).availableMemory
      search.parameters.inputWidth = .error error) :
    Turn session conditions lines runs (.error (.backend error)) rest (runs + 1)
      (opening ++ "\nSimulating quantum program...")
  | simulate {rest : List Line} {opening : String} {search : Search} {simulation : Simulation}
    (requested : Requested session.catalog lines (.run .simulate search) rest)
    (suffix : rest <:+ lines) (unmarked : Unmarked opening) (evaluates : search.Evaluates)
    (approved : session.simulator.approve (conditions runs).availableMemory
      search.parameters.inputWidth = .ok ())
    (simulated : Simulation.simulate search
      (session.simulator.words (conditions runs).entropy) = .ok simulation) :
    Turn session conditions lines runs (.ok .again) rest (runs + 1)
      (opening ++ Rendering.outcome simulation.outcome)

/-! ## Runs -/

/-- What is said before a run. -/
def announcement : Mode → String
  | .analyze => "\nEstimating resources..."
  | .simulate => "\nSimulating quantum program..."

theorem runs_announce (conditions : Conditions) (mode : Mode) (search : Search)
    (view : List Line × Nat) :
    Desk.outlet.Runs (announce conditions mode search) view (.ok ()) view (announcement mode) := by
  cases mode with
  | analyze => exact ((runs_keep _ view).bind (runs_say _ view)).said_eq (by decide)
  | simulate => exact ((runs_keep _ view).bind (runs_say _ view)).said_eq (by decide)

/-- What is said after a run that succeeds, before its result. -/
def closing (conditions : Conditions) : String :=
  "Done\n" ++ Rendering.runtime conditions.elapsed

theorem unmarked_closing (conditions : Conditions) : Unmarked (closing conditions) :=
  Unmarked.append (by decide) (Unmarked.runtime conditions.elapsed)

theorem runs_conclude_estimated (conditions : Conditions) (search : Search)
    (report : ResourceReport) (view : List Line × Nat) :
    Desk.outlet.Runs (conclude conditions search (.estimated (.ok report))) view (.ok ()) view
      (closing conditions ++ Rendering.estimation report) := by
  refine ((runs_keep _ view).bind <| (runs_keep _ view).bind <|
    (Outlet.runs_pure report view).bind <| (runs_say _ view).bind <|
      (runs_say _ view).bind (runs_say _ view)).said_eq ?_
  simp [closing, String.append_assoc]

theorem runs_conclude_simulated (conditions : Conditions) (search : Search)
    (simulation : Simulation) (view : List Line × Nat) :
    Desk.outlet.Runs (conclude conditions search (.simulated (.ok simulation))) view (.ok ()) view
      (closing conditions ++ Rendering.outcome simulation.outcome) := by
  refine ((runs_keep _ view).bind <| (runs_keep _ view).bind <|
    (Outlet.runs_pure simulation view).bind <| (runs_say _ view).bind <|
      (runs_say _ view).bind <| (runs_say _ view).bind (runs_keep _ view)).said_eq ?_
  simp [closing, String.append_assoc]

theorem runs_conclude_failed (conditions : Conditions) (search : Search) (error : BackendError)
    (view : List Line × Nat) :
    Desk.outlet.Runs (conclude conditions search (.simulated (.error error))) view
      (.error (.backend error)) view "" :=
  ((runs_keep _ view).bind <| (runs_keep _ view).bind <|
    (Outlet.runs_throw (SessionError.backend error) view).bind_error _).said_eq (by decide)

theorem runs_run {session : Session} {conditions : Nat → Conditions} {mode : Mode}
    {search : Search} {lines : List Line} {runs : Nat} {result : Except SessionError Unit}
    {said : String}
    (h : Desk.outlet.Runs (conclude (conditions runs) search
      (session.carryOut (conditions runs) mode search)) (lines, runs + 1) result (lines, runs + 1)
        said) :
    Desk.outlet.Runs (session.run conditions mode search) (lines, runs) result (lines, runs + 1)
      (announcement mode ++ said) :=
  ((runs_beginRun conditions lines runs).bind ((runs_announce _ mode search _).bind h)).said_eq
    (by simp)

/-! ## Requested searches -/

theorem requested_search {catalog : Catalog} {lines rest : List Line} {mode : Mode}
    {search : Search} (h : Requested catalog lines (.run mode search) rest) :
    ∃ middle, SearchEntered catalog mode middle search rest := by
  obtain ⟨-, entered⟩ := h
  cases entered with
  | analyze entered => exact ⟨_, entered⟩
  | simulate entered => exact ⟨_, entered⟩

theorem length_targets_le {catalog : Catalog} {mode : Mode} {lines rest : List Line}
    {search : Search} (h : SearchEntered catalog mode lines search rest) :
    search.parameters.targets.length ≤ 1048576 := by
  obtain ⟨-, -, ⟨-, counts⟩, -, -, -, -, -⟩ := h
  unfold TargetSequence.length
  generalize search.parameters.targets.counts = entered at counts
  cases counts.shape with
  | single | multiple => simp
  | arithmetic few many => simpa using many
  | geometric few many => simp; omega

theorem evaluates_of_requested {catalog : Catalog} (reliable : catalog.Reliable)
    {lines rest : List Line} {mode : Mode} {search : Search}
    (h : Requested catalog lines (.run mode search) rest) : search.Evaluates := by
  obtain ⟨middle, entered⟩ := requested_search h
  obtain ⟨operation, listed, -, -, -, bound⟩ := entered.exists_operation
  apply Search.evaluates_of_total
  rw [bound]
  exact (reliable.operations operation listed).evaluates _

theorem estimate_of_requested {catalog : Catalog} (reliable : catalog.Reliable)
    {lines rest : List Line} {mode : Mode} {search : Search}
    (h : Requested catalog lines (.run mode search) rest) :
    ∃ report, Estimator.estimate search = .ok report ∧ Lacks 'S' report.text := by
  obtain ⟨middle, entered⟩ := requested_search h
  obtain ⟨operation, listed, -, -, admitted, bound⟩ := entered.exists_operation
  have operationReliable := reliable.operations operation listed
  have few : search.parameters.targets.length ≤ twoPow 40 :=
    Nat.le_trans (length_targets_le entered) (by decide)
  obtain ⟨calls, priced⟩ := Estimator.estimateWith_eq_ok operationReliable bound
    (operationReliable.narrow _ admitted) few Estimator.groverIterations_lt
  exact ⟨_, priced, Estimator.lacks_text_tally _⟩

/-! ## Turns -/

/-- A turn runs on from its request. -/
theorem runs_turn {session : Session} {conditions : Nat → Conditions} {lines rest : List Line}
    {runs : Nat} {request : Request} {said more : String} {result : Except SessionError Next}
    {after : List Line × Nat}
    (asked : Console.sessionOutlet.Runs (Interview.request session.catalog) lines (.ok request) rest
      said)
    (performed : Desk.outlet.Runs (session.perform conditions request) (rest, runs) result after
      more) :
    Desk.outlet.Runs (session.turn conditions) (lines, runs) result after (said ++ more) :=
  (runs_converse asked runs).bind performed

theorem runs_sayThen (text : String) (next : Next) (view : List Line × Nat) :
    Desk.outlet.Runs (say text >>= fun _ => pure next) view (.ok next) view text :=
  ((runs_say text view).bind (Outlet.runs_pure next view)).said_eq String.append_empty

theorem runs_perform_run {session : Session} {conditions : Nat → Conditions} {mode : Mode}
    {search : Search} {view after : List Line × Nat} {said : String}
    (h : Desk.outlet.Runs (session.run conditions mode search) view (.ok ()) after said) :
    Desk.outlet.Runs (session.perform conditions (.run mode search)) view (.ok .again) after said :=
  (h.bind (Outlet.runs_pure Next.again after)).said_eq String.append_empty

section Searches

variable {session : Session} {conditions : Nat → Conditions} {lines rest : List Line} {runs : Nat}
  {search : Search} {said : String}

theorem unmarked_opening (unmarked : Unmarked said) (mode : Mode) (conditions : Conditions) :
    Unmarked (said ++ (announcement mode ++ closing conditions)) := by
  have announced : Unmarked (announcement mode) := by cases mode <;> decide
  exact unmarked.append (announced.append (unmarked_closing conditions))

theorem turn_of_analyze (reliable : session.catalog.Reliable) (unmarked : Unmarked said)
    (requested : Requested session.catalog lines (.run .analyze search) rest)
    (suffix : rest <:+ lines)
    (asked : Console.sessionOutlet.Runs (Interview.request session.catalog) lines
      (.ok (.run .analyze search)) rest said) :
    ∃ result rest number said, session.Turn conditions lines runs result rest number said ∧
      Desk.outlet.Runs (session.turn conditions) (lines, runs) result (rest, number) said := by
  obtain ⟨report, priced, lacks⟩ := estimate_of_requested reliable requested
  have verdict : session.carryOut (conditions runs) .analyze search = .estimated (.ok report) := by
    rw [carryOut, Estimator.run, priced]
  have run := runs_run (verdict ▸ runs_conclude_estimated _ search report (rest, runs + 1))
  refine ⟨_, _, _, _, .analyze requested suffix
    (unmarked_opening unmarked .analyze (conditions runs))
    priced lacks, (runs_turn asked (runs_perform_run run)).said_eq ?_⟩
  simp only [String.append_assoc]

theorem turn_of_simulate (reliable : session.catalog.Reliable) (unmarked : Unmarked said)
    (requested : Requested session.catalog lines (.run .simulate search) rest)
    (suffix : rest <:+ lines)
    (asked : Console.sessionOutlet.Runs (Interview.request session.catalog) lines
      (.ok (.run .simulate search)) rest said) :
    ∃ result rest number said, session.Turn conditions lines runs result rest number said ∧
      Desk.outlet.Runs (session.turn conditions) (lines, runs) result (rest, number) said := by
  have evaluates := evaluates_of_requested reliable requested
  obtain ⟨simulation, simulated⟩ : ∃ simulation, Simulation.simulate search
      (session.simulator.words (conditions runs).entropy) = .ok simulation :=
    ⟨_, Simulation.simulateWith_eq evaluates⟩
  rcases ha : session.simulator.approve (conditions runs).availableMemory
    search.parameters.inputWidth with error | ⟨⟩
  · have verdict : session.carryOut (conditions runs) .simulate search =
        .simulated (.error error) := by
      rw [carryOut, Simulator.run_of_refused ha]
    have run := runs_run (verdict ▸ runs_conclude_failed _ search error (rest, runs + 1))
    refine ⟨_, _, _, said ++ announcement .simulate, .refuse requested suffix ha,
      (runs_turn asked (run.bind_error _)).said_eq ?_⟩
    rw [String.append_empty]
  · have verdict : session.carryOut (conditions runs) .simulate search =
        .simulated (.ok simulation) := by
      rw [carryOut, Simulator.run_of_approved ha, simulated, Except.mapError]
    have run := runs_run (verdict ▸ runs_conclude_simulated _ search simulation (rest, runs + 1))
    refine ⟨_, _, _, _, .simulate requested suffix
      (unmarked_opening unmarked .simulate (conditions runs)) evaluates ha simulated,
      (runs_turn asked (runs_perform_run run)).said_eq ?_⟩
    simp only [String.append_assoc]

end Searches

/-- Every turn on a reliable catalog is one of those of `Turn`. -/
theorem exists_turn (session : Session) (reliable : session.catalog.Reliable)
    (conditions : Nat → Conditions) (lines : List Line) (runs : Nat) :
    ∃ result rest number said, session.Turn conditions lines runs result rest number said ∧
      Desk.outlet.Runs (session.turn conditions) (lines, runs) result (rest, number) said := by
  obtain ⟨said, unmarked, ⟨request, rest, requested, suffix, asked⟩ |
    ⟨error, rest, opening, unread, rfl, asked⟩⟩ := conveys_request reliable lines
  · cases request with
    | quit =>
      exact ⟨_, _, _, _, .quit requested suffix, runs_turn asked (runs_sayThen _ .finished _)⟩
    | help => exact ⟨_, _, _, _, .help requested suffix, runs_turn asked (runs_sayThen _ .again _)⟩
    | run mode search =>
      cases mode with
      | analyze => exact turn_of_analyze reliable unmarked requested suffix asked
      | simulate => exact turn_of_simulate reliable unmarked requested suffix asked
  · exact ⟨_, _, _, _, .unread unread (not_requested_of_error asked),
      (runs_converse asked runs).bind_error _⟩

/-- Turns take lines from the front. -/
theorem Turn.suffix {session : Session} {conditions : Nat → Conditions} {lines rest : List Line}
    {runs number : Nat} {result : Except SessionError Next} {said : String}
    (h : session.Turn conditions lines runs result rest number said) : rest <:+ lines := by
  cases h with
  | unread failed =>
    cases failed with
    | closed => exact List.nil_suffix
    | notText consumed unread =>
      rw [consumed]
      exact (List.suffix_cons _ _).trans (List.suffix_append _ _)
  | quit _ suffix | help _ suffix | analyze _ suffix | refuse _ suffix | simulate _ suffix =>
    exact suffix

end Session

end PreimageSearch
