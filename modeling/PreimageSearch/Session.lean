import PreimageSearch.Estimate
import PreimageSearch.Session.Guide
import PreimageSearch.Session.Interview
import PreimageSearch.Session.Reading
import PreimageSearch.Session.Rendering
import PreimageSearch.Simulate

/-!
# Sessions

A session greets the operator and serves the main menu turn by turn, until the operator quits, the
console closes, or something fails. Each turn takes at least one line, so a session on a finite
script ends (`Session.serve` is defined by recursion on the number of lines left).
-/

namespace PreimageSearch

/-- What the surroundings contribute to one run. -/
structure Conditions where
  /-- The time of day at which it starts. -/
  started : String
  elapsed : Duration
  /-- The bytes of memory that are free; zero if that is unknown. -/
  availableMemory : Nat
  /-- Random words for a simulator without a seed. -/
  entropy : Nat → UInt64

/-- How a session is set up. -/
structure Session where
  catalog : Catalog := Catalog.standard
  simulator : Simulator := {}
  /-- Whether the operator is greeted. -/
  banner : Bool := true

/-- Where a session stands. -/
structure Desk where
  console : Console
  /-- Whether events are kept. -/
  recording : Bool
  journal : Array Journal.Event := #[]
  /-- The number of runs begun. -/
  runs : Nat := 0

/-- A part of a session, which may fail; what was read, written and noted stays so. -/
abbrev Work (α : Type) := ExceptT SessionError (StateM Desk) α

/-- What came of a run. -/
inductive Verdict where
  | estimated (result : Except BackendError ResourceReport)
  | simulated (result : Except BackendError Simulation)

namespace Session

/-- A conversation at the desk. -/
def converse {α : Type} (dialogue : Dialogue SessionError α) : Work α := fun desk =>
  let (result, console) := dialogue desk.console
  (result, { desk with console })

def say (text : String) : Work Unit :=
  converse (Dialogue.say text)

/-- Keeps events, which are only built if they are wanted. -/
def keep (events : Unit → List Journal.Event) : Work Unit := fun desk =>
  (.ok (), if desk.recording then { desk with journal := desk.journal ++ events () } else desk)

/-- Keeps a note of the session itself. -/
def note (text : String) : Work Unit :=
  keep fun _ => [Journal.note "DRIVER" text]

/-- The conditions of the run that begins now. -/
def beginRun (conditions : Nat → Conditions) : Work Conditions := fun desk =>
  (.ok (conditions desk.runs), { desk with runs := desk.runs + 1 })

/-! ## One run -/

/-- Says what is about to be done. -/
def announce (conditions : Conditions) (mode : Mode) (search : Search) : Work Unit := do
  let parameters := search.parameters
  keep fun _ => [Journal.note "DRIVER" <| "Run started at " ++ conditions.started ++ ": " ++
    mode.name ++ " " ++ parameters.operation ++ s!" over {parameters.inputWidth} bits, " ++
    s!"output width {parameters.outputWidth}, targets " ++ parameters.targets.text]
  match mode with
  | .analyze => say "\nEstimating resources..."
  | .simulate => say "\nSimulating quantum program..."

/-- Prices or simulates a search. -/
def carryOut (session : Session) (conditions : Conditions) (mode : Mode) (search : Search) :
    Verdict :=
  match mode with
  | .analyze => .estimated (Estimator.run search)
  | .simulate =>
    .simulated (session.simulator.run conditions.availableMemory conditions.entropy search)

/-- The result of a run, or its failure as that of the session. -/
def succeeded {α : Type} : Except BackendError α → Work α
  | .ok a => return a
  | .error error => throw (.backend error)

/-- Reports what came of a run. -/
def conclude (conditions : Conditions) (search : Search) : Verdict → Work Unit
  | .estimated result => do
    keep fun _ => Estimator.journal search result
    note (Estimator.name ++ " finished in " ++ conditions.elapsed.text)
    let report ← succeeded result
    say "Done\n"
    say (Rendering.runtime conditions.elapsed)
    say (Rendering.estimation report)
  | .simulated result => do
    keep fun _ => Simulator.journal search result
    note (Simulator.name ++ " finished in " ++ conditions.elapsed.text)
    let simulation ← succeeded result
    say "Done\n"
    say (Rendering.runtime conditions.elapsed)
    say (Rendering.outcome simulation.outcome)
    note ("Simulation outcome: " ++ simulation.outcome.text)

def run (session : Session) (conditions : Nat → Conditions) (mode : Mode) (search : Search) :
    Work Unit := do
  let conditions ← beginRun conditions
  announce conditions mode search
  conclude conditions search (session.carryOut conditions mode search)

/-! ## Turns of the main menu -/

/-- Takes leave of the operator. -/
def leave : Work Unit :=
  say "Exiting...\n"

/-- Whether the main menu is shown again. -/
inductive Next where
  | again
  | finished

def perform (session : Session) (conditions : Nat → Conditions) : Interview.Request → Work Next
  | .run mode search => do
    session.run conditions mode search
    return .again
  | .help => do
    say (Guide.help ++ "\n")
    return .again
  | .quit => do
    leave
    return .finished

/-- One turn: a request and what comes of it. -/
def turn (session : Session) (conditions : Nat → Conditions) : Work Next := do
  let request ← converse (Interview.request session.catalog)
  session.perform conditions request

/-! ## Reading

No part of a turn after the request touches the lines, so a turn that succeeds takes a line.
-/

/-- The number of lines that are still to be read. -/
def left (desk : Desk) : Nat :=
  desk.console.left

theorem takes_converse {α : Type} {dialogue : Dialogue SessionError α} {k : Nat}
    (h : Takes Console.left dialogue k) : Takes left (converse dialogue) k := by
  intro before a after run
  match hc : dialogue before.console with
  | (result, console) =>
    simp only [converse, hc] at run
    cases run
    exact h before.console a console hc

theorem takes_say (text : String) : Takes left (say text) 0 :=
  takes_converse (Interview.takes_lift (Dialogue.takes_say text))

theorem takes_keep (events : Unit → List Journal.Event) : Takes left (keep events) 0 := by
  intro before a after run
  cases run
  unfold left
  split <;> exact Nat.le_refl _

theorem takes_beginRun (conditions : Nat → Conditions) : Takes left (beginRun conditions) 0 := by
  intro before a after run
  cases run
  exact Nat.le_refl _

theorem takes_succeeded {α : Type} (result : Except BackendError α) :
    Takes left (succeeded result) 0 := by
  cases result with
  | ok a => exact takes_pure a
  | error error => exact takes_throw _ 0

theorem takes_announce (conditions : Conditions) (mode : Mode) (search : Search) :
    Takes left (announce conditions mode search) 0 := by
  cases mode with
  | analyze => exact (takes_keep _).bind fun _ => takes_say _
  | simulate => exact (takes_keep _).bind fun _ => takes_say _

theorem takes_conclude (conditions : Conditions) (search : Search) (verdict : Verdict) :
    Takes left (conclude conditions search verdict) 0 := by
  cases verdict with
  | estimated result =>
    exact (takes_keep _).bind fun _ => (takes_keep _).bind fun _ =>
      (takes_succeeded result).bind fun _ => (takes_say _).bind fun _ =>
        (takes_say _).bind fun _ => takes_say _
  | simulated result =>
    exact (takes_keep _).bind fun _ => (takes_keep _).bind fun _ =>
      (takes_succeeded result).bind fun _ => (takes_say _).bind fun _ =>
        (takes_say _).bind fun _ => (takes_say _).bind fun _ => takes_keep _

theorem takes_perform (session : Session) (conditions : Nat → Conditions)
    (request : Interview.Request) : Takes left (session.perform conditions request) 0 := by
  cases request with
  | run mode search =>
    exact ((takes_beginRun _).bind fun _ => (takes_announce _ _ _).bind fun _ =>
      takes_conclude _ _ _).bind fun _ => takes_pure _
  | help => exact (takes_say _).bind fun _ => takes_pure _
  | quit => exact (takes_say _).bind fun _ => takes_pure _

theorem takes_turn (session : Session) (conditions : Nat → Conditions) :
    Takes left (session.turn conditions) (1 + 0) :=
  (takes_converse (Interview.takes_request _)).bind fun _ => takes_perform _ _ _

/-! ## Whole sessions -/

/-- Serves the main menu until the operator quits or something fails. -/
def serve (session : Session) (conditions : Nat → Conditions) (desk : Desk) :
    Except SessionError Unit × Desk :=
  match _ : session.turn conditions desk with
  | (.ok .again, after) => serve session conditions after
  | (.ok .finished, after) => (.ok (), after)
  | (.error error, after) => (.error error, after)
termination_by left desk
decreasing_by exact takes_turn session conditions desk _ _ (by assumption)

/-- The greeting, where the session has one. -/
def greet (session : Session) : Work Unit :=
  if session.banner then say (Guide.banner ++ "\n") else pure ()

/-- Serves the main menu; a console that closes ends the session as if the operator had quit. -/
def serveUntilClosed (session : Session) (conditions : Nat → Conditions) : Work Unit := fun desk =>
  match session.serve conditions desk with
  | (.error (.console .closed), after) => (do note "Console closed"; leave : Work Unit) after
  | ended => ended

/-- A whole session. -/
def conduct (session : Session) (conditions : Nat → Conditions) : Work Unit := do
  session.greet
  session.serveUntilClosed conditions

/-- The result of a session on a script, and the desk that it leaves. -/
def onScript (session : Session) (conditions : Nat → Conditions) (recording : Bool)
    (script : Bytes) (room : Option Nat) : Except SessionError Unit × Desk :=
  session.conduct conditions { console := Console.ofScript script room, recording := recording }

end Session

end PreimageSearch
