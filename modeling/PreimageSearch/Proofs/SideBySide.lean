import PreimageSearch.Proofs.Ending
import PreimageSearch.Proofs.LineEnd

/-!
# Conversations side by side

Two conversations are compared on views that belong together (`Pairing.related`). `Outlet.Follows`
says that from such views they end with the same result, in views that belong together again, and
have said the same, except that the first one may end early with an error at which it is `behind`:
then the second one has said as much, and perhaps more. The comparison goes through question by
question (`Pairing.Asks`), from there to turns of the main menu and to whole sessions.
-/

namespace PreimageSearch

/-- How two conversations are compared: which views belong together, and at which errors of the
first one the second may go on. -/
structure Pairing (υ ε : Type) where
  related : υ → υ → Prop
  behind : ε → Prop

namespace Outlet

variable {σ ε υ α β : Type}

/-- What the work does and says depends on the view alone. -/
def Ends (outlet : Outlet σ ε υ) (work : ExceptT ε (StateM σ) α) : Prop :=
  ∀ view, ∃ result after said, outlet.Runs work view result after said

/-- `Follows` at two views. -/
def FollowsAt (outlet : Outlet σ ε υ) (pairing : Pairing υ ε) (work work' : ExceptT ε (StateM σ) α)
    (view view' : υ) : Prop :=
  ∃ result after said, outlet.Runs work view result after said ∧
    ((∃ after', pairing.related after after' ∧ outlet.Runs work' view' result after' said) ∨
      ∃ error result' after' more, result = .error error ∧ pairing.behind error ∧
        outlet.Runs work' view' result' after' (said ++ more))

/-- From views that belong together, `work'` does and says what `work` does and says, and goes on
only where `work` ends behind. -/
structure Follows (outlet : Outlet σ ε υ) (pairing : Pairing υ ε)
    (work work' : ExceptT ε (StateM σ) α) : Prop where
  ends : outlet.Ends work'
  follows : ∀ view view', pairing.related view view' →
    outlet.FollowsAt pairing work work' view view'

variable {outlet : Outlet σ ε υ} {pairing : Pairing υ ε}

/-! ## Rules for `Follows` -/

theorem ends_pure (a : α) : outlet.Ends (pure a : ExceptT ε (StateM σ) α) :=
  fun view => ⟨_, _, _, runs_pure a view⟩

theorem ends_bind {work : ExceptT ε (StateM σ) α} {next : α → ExceptT ε (StateM σ) β}
    (first : outlet.Ends work) (second : ∀ a, outlet.Ends (next a)) :
    outlet.Ends (work >>= next) := by
  intro view
  obtain ⟨result, middle, said, runs⟩ := first view
  cases result with
  | error error => exact ⟨_, _, _, runs.bind_error next⟩
  | ok a =>
    obtain ⟨_, _, _, runs'⟩ := second a middle
    exact ⟨_, _, _, runs.bind runs'⟩

/-- Comparison goes on after parts that say the same, whatever they come to. -/
theorem FollowsAt.of_runs {work work' : ExceptT ε (StateM σ) α}
    {next next' : α → ExceptT ε (StateM σ) β} {view view' middle middle' : υ} {a a' : α}
    {said : String} (runs : outlet.Runs work view (.ok a) middle said)
    (runs' : outlet.Runs work' view' (.ok a') middle' said)
    (follows : outlet.FollowsAt pairing (next a) (next' a') middle middle') :
    outlet.FollowsAt pairing (work >>= next) (work' >>= next') view view' := by
  obtain ⟨result, after, later, ran, ⟨after', related, ran'⟩ |
    ⟨error, result', after', more, rfl, behind, ran'⟩⟩ := follows
  · exact ⟨_, _, _, runs.bind ran, .inl ⟨after', related, runs'.bind ran'⟩⟩
  · exact ⟨_, _, _, runs.bind ran, .inr ⟨error, result', after', more, rfl, behind,
      (runs'.bind ran').said_eq (String.append_assoc ..).symm⟩⟩

theorem FollowsAt.bind {work work' : ExceptT ε (StateM σ) α}
    {next next' : α → ExceptT ε (StateM σ) β} {view view' : υ}
    (first : outlet.FollowsAt pairing work work' view view')
    (second : ∀ a middle middle' said, outlet.Runs work view (.ok a) middle said →
      pairing.related middle middle' → outlet.FollowsAt pairing (next a) (next' a) middle middle')
    (ends : ∀ a, outlet.Ends (next' a)) :
    outlet.FollowsAt pairing (work >>= next) (work' >>= next') view view' := by
  obtain ⟨result, middle, said, runs, ⟨middle', related, runs'⟩ |
    ⟨error, result', middle', more, rfl, behind, runs'⟩⟩ := first
  · cases result with
    | error error =>
      exact ⟨_, _, _, runs.bind_error next, .inl ⟨middle', related, runs'.bind_error next'⟩⟩
    | ok a => exact .of_runs runs runs' (second a middle middle' said runs related)
  -- The first work has ended, and the second goes on with whatever comes next.
  · cases result' with
    | error error' =>
      exact ⟨_, _, _, runs.bind_error next, .inr ⟨error, _, _, more, rfl, behind,
        runs'.bind_error next'⟩⟩
    | ok a =>
      obtain ⟨_, _, later, ran'⟩ := ends a middle'
      exact ⟨_, _, _, runs.bind_error next, .inr ⟨error, _, _, more ++ later, rfl, behind,
        (runs'.bind ran').said_eq (String.append_assoc ..)⟩⟩

theorem Follows.bind {work work' : ExceptT ε (StateM σ) α}
    {next next' : α → ExceptT ε (StateM σ) β} (first : outlet.Follows pairing work work')
    (second : ∀ a, outlet.Follows pairing (next a) (next' a)) :
    outlet.Follows pairing (work >>= next) (work' >>= next') where
  ends := ends_bind first.ends fun a => (second a).ends
  follows view view' related := (first.follows view view' related).bind
    (fun a middle middle' _ _ related' => (second a).follows middle middle' related')
    fun a => (second a).ends

/-- Work that says the same from every view and leaves the view as it is. -/
theorem follows_of_runs {work work' : ExceptT ε (StateM σ) α} {result : Except ε α}
    {said : String} (runs : ∀ view, outlet.Runs work view result view said)
    (runs' : ∀ view, outlet.Runs work' view result view said) :
    outlet.Follows pairing work work' where
  ends view := ⟨_, _, _, runs' view⟩
  follows view view' related := ⟨_, _, _, runs view, .inl ⟨view', related, runs' view'⟩⟩

theorem follows_pure (a : α) :
    outlet.Follows pairing (pure a : ExceptT ε (StateM σ) α) (pure a) :=
  follows_of_runs (runs_pure a) (runs_pure a)

theorem follows_throw (e : ε) :
    outlet.Follows pairing (throw e : ExceptT ε (StateM σ) α) (throw e) :=
  follows_of_runs (runs_throw e) (runs_throw e)

end Outlet

/-! ## Questions -/

namespace Pairing

/-- Lines that belong together answer alike every question that ignores line ends; where the first
ones are behind, the second ones have met with as many refusals. -/
def Asks (pairing : Pairing (List Line) ConsoleError) : Prop :=
  ∀ {α : Type} {accept : String → Option α}, Dialogue.IgnoresLineEnd accept →
    ∀ lines lines' : List Line, pairing.related lines lines' → ∃ result rest count,
      Dialogue.Hears accept lines result rest count ∧
      ((∃ rest', pairing.related rest rest' ∧ Dialogue.Hears accept lines' result rest' count) ∨
        ∃ error result' rest' later, result = .error error ∧ pairing.behind error ∧
          Dialogue.Hears accept lines' result' rest' (count + later))

/-- The comparison of consoles as part of a session. -/
def inSession (pairing : Pairing (List Line) ConsoleError) : Pairing (List Line) SessionError :=
  ⟨pairing.related, fun error => ∃ inner, error = .console inner ∧ pairing.behind inner⟩

/-- The comparison of desks, where the second session has begun `offset` runs more. -/
def atDesk (pairing : Pairing (List Line) ConsoleError) (offset : Nat) :
    Pairing (List Line × Nat) SessionError :=
  ⟨fun view view' => pairing.related view.1 view'.1 ∧ view'.2 = view.2 + offset,
    fun error => ∃ inner, error = .console inner ∧ pairing.behind inner⟩

end Pairing

namespace Dialogue

variable {α : Type} {pairing : Pairing (List Line) ConsoleError}

/-- What is said up to the last of `count` refusals. -/
def refusals (prompt : String) : (count : Nat) → String
  | 0 => ""
  | count + 1 => question prompt ++ ("Invalid input\n" ++ refusals prompt count)

theorem asked_add (prompt : String) (count later : Nat) :
    asked prompt (count + later) = refusals prompt count ++ asked prompt later := by
  induction count with
  | zero => rw [Nat.zero_add, refusals, String.empty_append]
  | succ count ih =>
    rw [Nat.add_right_comm, asked, refusals, ih]
    simp only [String.append_assoc]

theorem asked_eq (prompt : String) (count : Nat) :
    asked prompt count = refusals prompt count ++ question prompt :=
  asked_add prompt count 0

theorem exists_asked_add (prompt : String) (count later : Nat) :
    ∃ more, asked prompt (count + later) = asked prompt count ++ more := by
  rw [asked_add, asked_eq prompt count]
  cases later with
  | zero => exact ⟨"", String.append_empty.symm⟩
  | succ later => exact ⟨_, (String.append_assoc ..).symm⟩

theorem ends_ask (prompt : String) (accept : String → Option α) :
    Console.outlet.Ends (ask prompt accept) := by
  intro lines
  obtain ⟨result, rest, count, hears⟩ := exists_hears accept lines
  exact ⟨_, _, _, runs_ask hears prompt⟩

theorem follows_ask (asks : pairing.Asks) (prompt : String) {accept : String → Option α}
    (ignores : IgnoresLineEnd accept) :
    Console.outlet.Follows pairing (ask prompt accept) (ask prompt accept) where
  ends := ends_ask prompt accept
  follows lines lines' related := by
    obtain ⟨result, rest, count, hears, ⟨rest', related', hears'⟩ |
      ⟨error, result', rest', later, rfl, behind, hears'⟩⟩ := asks ignores lines lines' related
    · exact ⟨_, _, _, runs_ask hears prompt, .inl ⟨rest', related', runs_ask hears' prompt⟩⟩
    · obtain ⟨more, said⟩ := exists_asked_add prompt count later
      exact ⟨_, _, _, runs_ask hears prompt, .inr ⟨error, _, _, more, rfl, behind,
        (runs_ask hears' prompt).said_eq said⟩⟩

theorem follows_say (text : String) : Console.outlet.Follows pairing (say text) (say text) :=
  Outlet.follows_of_runs (runs_say text) (runs_say text)

theorem follows_choose (asks : pairing.Asks) (prompt : String) (label : α → String)
    (options : List α) :
    Console.outlet.Follows pairing (choose prompt label options)
      (choose prompt label options) := by
  by_cases none : options = []
  · rw [none]
    exact Outlet.follows_throw _
  · rw [Interview.choose_eq none]
    exact (follows_ask asks _ (Interview.ignoresLineEnd_optionAt options)).bind fun _ =>
      (follows_say _).bind fun _ => Outlet.follows_pure _

theorem follows_askCount (asks : pairing.Asks) (bits : Nat) (prompt : String)
    (least greatest : Nat) :
    Console.outlet.Follows pairing (askCount bits prompt least greatest)
      (askCount bits prompt least greatest) :=
  follows_ask asks prompt (Interview.ignoresLineEnd_countIn bits least greatest)

theorem follows_askHex (asks : pairing.Asks) (prompt : String) (greatest : Nat) :
    Console.outlet.Follows pairing (askHex prompt greatest) (askHex prompt greatest) :=
  follows_ask asks prompt (Interview.ignoresLineEnd_hexUpTo greatest)

end Dialogue

/-! ## The interview -/

namespace Interview

open Dialogue

variable {pairing : Pairing (List Line) ConsoleError}

theorem follows_lift {α : Type} {dialogue dialogue' : Dialogue ConsoleError α}
    (h : Console.outlet.Follows pairing dialogue dialogue') :
    Console.sessionOutlet.Follows pairing.inSession
      (liftM dialogue : Dialogue SessionError α) (liftM dialogue') where
  ends lines := by
    obtain ⟨_, _, _, runs⟩ := h.ends lines
    exact ⟨_, _, _, runs_lift runs⟩
  follows lines lines' related := by
    obtain ⟨result, rest, said, runs, ⟨rest', related', runs'⟩ |
      ⟨error, result', rest', more, rfl, behind, runs'⟩⟩ := h.follows lines lines' related
    · exact ⟨_, _, _, runs_lift runs, .inl ⟨rest', related', runs_lift runs'⟩⟩
    · exact ⟨_, _, _, runs_lift runs, .inr ⟨.console error, _, _, more, rfl,
        ⟨error, rfl, behind⟩, runs_lift runs'⟩⟩

theorem follows_accepted (targets : Except ParameterError TargetSequence) :
    Console.outlet.Follows pairing (accepted targets) (accepted targets) := by
  cases targets with
  | ok targets => exact Outlet.follows_pure targets
  | error error => exact Outlet.follows_throw _

theorem follows_targetsOf (asks : pairing.Asks) (method : SearchMethod) :
    Console.outlet.Follows pairing (targetsOf method) (targetsOf method) := by
  cases method with
  | single => exact Outlet.follows_pure _
  | multiple | arithmetic | geometric =>
    exact (follows_askCount asks _ _ _ _).bind fun _ => follows_accepted _

theorem follows_targets (asks : pairing.Asks) :
    Console.outlet.Follows pairing targets targets :=
  (follows_choose asks _ _ _).bind fun method => follows_targetsOf asks method

theorem follows_outputWidth (asks : pairing.Asks) (width : OutputWidth) :
    Console.outlet.Follows pairing (outputWidth width) (outputWidth width) := by
  cases width with
  | fixed width => exact Outlet.follows_pure width
  | dynamic => exact follows_askCount asks _ _ _ _

theorem follows_fromCatalog {α : Type} (result : Except CatalogError α) :
    Console.sessionOutlet.Follows pairing.inSession (fromCatalog result) (fromCatalog result) := by
  cases result with
  | ok a => exact Outlet.follows_pure a
  | error error => exact Outlet.follows_throw _

theorem follows_search (asks : pairing.Asks) (catalog : Catalog) (mode : Mode) :
    Console.sessionOutlet.Follows pairing.inSession (search catalog mode) (search catalog mode) :=
  (follows_lift (follows_choose asks _ _ _)).bind fun _ =>
    (follows_lift (follows_targets asks)).bind fun _ =>
      (follows_lift (follows_askCount asks _ _ _ _)).bind fun _ =>
        (follows_fromCatalog _).bind fun _ =>
          (follows_lift (follows_outputWidth asks _)).bind fun _ =>
            (follows_lift (follows_askHex asks _ _)).bind fun _ => follows_fromCatalog _

theorem follows_request (asks : pairing.Asks) (catalog : Catalog) :
    Console.sessionOutlet.Follows pairing.inSession (request catalog) (request catalog) := by
  refine (follows_lift (follows_choose asks _ _ _)).bind fun option => ?_
  cases option with
  | analyze => exact (follows_search asks catalog .analyze).bind fun _ => Outlet.follows_pure _
  | simulate => exact (follows_search asks catalog .simulate).bind fun _ => Outlet.follows_pure _
  | help => exact Outlet.follows_pure _
  | quit => exact Outlet.follows_pure _

end Interview

/-! ## Turns -/

/-- Surroundings that a run with seeded random words cannot tell apart. -/
structure Conditions.Alike (conditions other : Conditions) : Prop where
  elapsed : conditions.elapsed = other.elapsed
  availableMemory : conditions.availableMemory = other.availableMemory

namespace Session

variable {pairing : Pairing (List Line) ConsoleError} {offset : Nat}

theorem follows_converse {α : Type} {dialogue dialogue' : Dialogue SessionError α}
    (h : Console.sessionOutlet.Follows pairing.inSession dialogue dialogue') :
    Desk.outlet.Follows (pairing.atDesk offset) (converse dialogue) (converse dialogue') where
  ends view := by
    obtain ⟨_, _, _, runs⟩ := h.ends view.1
    exact ⟨_, _, _, runs_converse runs view.2⟩
  follows view view' related := by
    obtain ⟨result, rest, said, runs, ⟨rest', related', runs'⟩ |
      ⟨error, result', rest', more, rfl, behind, runs'⟩⟩ := h.follows view.1 view'.1 related.1
    · exact ⟨_, _, _, runs_converse runs view.2, .inl ⟨(rest', view'.2), ⟨related', related.2⟩,
        runs_converse runs' view'.2⟩⟩
    · exact ⟨_, _, _, runs_converse runs view.2, .inr ⟨error, _, _, more, rfl, behind,
        runs_converse runs' view'.2⟩⟩

theorem follows_say (text : String) :
    Desk.outlet.Follows (pairing.atDesk offset) (say text) (say text) :=
  Outlet.follows_of_runs (runs_say text) (runs_say text)

/-- Events are kept beside the conversation, so different ones change nothing of it. -/
theorem follows_keep (events events' : Unit → List Journal.Event) :
    Desk.outlet.Follows (pairing.atDesk offset) (keep events) (keep events') :=
  Outlet.follows_of_runs (runs_keep events) (runs_keep events')

theorem follows_announce (conditions other : Conditions) (mode : Mode) (search : Search) :
    Desk.outlet.Follows (pairing.atDesk offset) (announce conditions mode search)
      (announce other mode search) :=
  Outlet.follows_of_runs (runs_announce conditions mode search) (runs_announce other mode search)

theorem follows_succeeded {α : Type} (result : Except BackendError α) :
    Desk.outlet.Follows (pairing.atDesk offset) (succeeded result) (succeeded result) := by
  cases result with
  | ok a => exact Outlet.follows_pure a
  | error error => exact Outlet.follows_throw _

theorem follows_conclude {conditions other : Conditions} (alike : conditions.Alike other)
    (search : Search) (verdict : Verdict) :
    Desk.outlet.Follows (pairing.atDesk offset) (conclude conditions search verdict)
      (conclude other search verdict) := by
  cases verdict with
  | estimated result =>
    unfold conclude
    rw [alike.elapsed]
    exact (follows_keep _ _).bind fun _ => (follows_keep _ _).bind fun _ =>
      (follows_succeeded result).bind fun _ => (follows_say _).bind fun _ =>
        (follows_say _).bind fun _ => follows_say _
  | simulated result =>
    unfold conclude
    rw [alike.elapsed]
    exact (follows_keep _ _).bind fun _ => (follows_keep _ _).bind fun _ =>
      (follows_succeeded result).bind fun _ => (follows_say _).bind fun _ =>
        (follows_say _).bind fun _ => (follows_say _).bind fun _ => follows_keep _ _

/-- With a seed, every run starts from the first word of the same stream. -/
theorem carryOut_eq_of_alike {session : Session} {seed : UInt64}
    (seeded : session.simulator.seed = some seed) {conditions other : Conditions}
    (alike : conditions.Alike other) (mode : Mode) (search : Search) :
    session.carryOut conditions mode search = session.carryOut other mode search := by
  cases mode with
  | analyze => rfl
  | simulate =>
    have words (entropy : Nat → UInt64) : session.simulator.words entropy = Random.word seed := by
      rw [Simulator.words, seeded]
    simp only [carryOut, Simulator.run, words, alike.availableMemory]

section Turns

variable {session : Session} {seed : UInt64} {conditions other : Nat → Conditions}

theorem follows_run (seeded : session.simulator.seed = some seed)
    (alike : ∀ runs, (conditions runs).Alike (other (runs + offset))) (mode : Mode)
    (search : Search) :
    Desk.outlet.Follows (pairing.atDesk offset) (session.run conditions mode search)
      (session.run other mode search) := by
  -- The two runs begin with conditions of their own, so `Follows.bind` is of use only after that.
  have rest {first second : Conditions} (same : first.Alike second) :
      Desk.outlet.Follows (pairing.atDesk offset)
        (announce first mode search >>= fun _ =>
          conclude first search (session.carryOut first mode search))
        (announce second mode search >>= fun _ =>
          conclude second search (session.carryOut second mode search)) := by
    rw [carryOut_eq_of_alike seeded same]
    exact (follows_announce _ _ _ _).bind fun _ => follows_conclude same _ _
  constructor
  · rintro ⟨lines, runs⟩
    obtain ⟨_, _, _, ran⟩ := (rest ⟨rfl, rfl⟩).ends (lines, runs + 1)
    exact ⟨_, _, _, (runs_beginRun other lines runs).bind ran⟩
  · rintro ⟨lines, runs⟩ ⟨lines', _⟩ ⟨related, rfl⟩
    have begun : (pairing.atDesk offset).related (lines, runs + 1) (lines', runs + offset + 1) :=
      ⟨related, Nat.add_right_comm ..⟩
    refine .of_runs (runs_beginRun conditions lines runs)
      (runs_beginRun other lines' (runs + offset)) ?_
    exact (rest (alike runs)).follows _ _ begun

theorem follows_perform (seeded : session.simulator.seed = some seed)
    (alike : ∀ runs, (conditions runs).Alike (other (runs + offset)))
    (request : Interview.Request) :
    Desk.outlet.Follows (pairing.atDesk offset) (session.perform conditions request)
      (session.perform other request) := by
  cases request with
  | run mode search =>
    exact (follows_run seeded alike mode search).bind fun _ => Outlet.follows_pure _
  | help => exact (follows_say _).bind fun _ => Outlet.follows_pure _
  | quit => exact (follows_say _).bind fun _ => Outlet.follows_pure _

theorem follows_turn (asks : pairing.Asks) (seeded : session.simulator.seed = some seed)
    (alike : ∀ runs, (conditions runs).Alike (other (runs + offset))) :
    Desk.outlet.Follows (pairing.atDesk offset) (session.turn conditions) (session.turn other) :=
  (follows_converse (Interview.follows_request asks session.catalog)).bind fun request =>
    follows_perform seeded alike request

/-! ## Sessions -/

theorem serve_eq (session : Session) (conditions : Nat → Conditions) :
    (session.serve conditions : Work Unit) = session.turn conditions >>= fun next =>
      match next with
      | .again => session.serve conditions
      | .finished => pure () := by
  funext desk
  rcases turned : session.turn conditions desk with ⟨error | _ | _, after⟩
  · rw [serve_of_error turned, Outlet.bind_of_error (congrArg Prod.fst turned), turned]
  · rw [serve_of_again turned, Outlet.bind_of_ok (congrArg Prod.fst turned), turned]
  · rw [serve_of_finished turned, Outlet.bind_of_ok (congrArg Prod.fst turned), turned]
    rfl

theorem runs_serve_of_again {view middle after : List Line × Nat}
    {result : Except SessionError Unit} {said more : String}
    (turned : Desk.outlet.Runs (session.turn conditions) view (.ok .again) middle said)
    (served : Desk.outlet.Runs (session.serve conditions : Work Unit) middle result after more) :
    Desk.outlet.Runs (session.serve conditions : Work Unit) view result after (said ++ more) := by
  rw [serve_eq]
  exact turned.bind served

theorem runs_serve_of_finished {view after : List Line × Nat} {said : String}
    (turned : Desk.outlet.Runs (session.turn conditions) view (.ok .finished) after said) :
    Desk.outlet.Runs (session.serve conditions : Work Unit) view (.ok ()) after said := by
  rw [serve_eq]
  exact (turned.bind (Outlet.runs_pure () after)).said_eq String.append_empty

theorem runs_serve_of_error {view after : List Line × Nat} {error : SessionError} {said : String}
    (turned : Desk.outlet.Runs (session.turn conditions) view (.error error) after said) :
    Desk.outlet.Runs (session.serve conditions : Work Unit) view (.error error) after said := by
  rw [serve_eq]
  exact turned.bind_error _

theorem length_lt_of_runs_turn {view after : List Line × Nat} {next : Next} {said : String}
    (h : Desk.outlet.Runs (session.turn conditions) view (.ok next) after said) :
    after.1.length < view.1.length := by
  let desk : Desk := { console := ⟨view.1, {}⟩, recording := false, runs := view.2 }
  obtain ⟨ends, looks, -⟩ := h.unlimited desk rfl rfl
  have shorter := left_lt_of_turn (Prod.ext ends rfl : session.turn conditions desk = (.ok next, _))
  rwa [← looks]

theorem ends_serve (asks : pairing.Asks) (seeded : session.simulator.seed = some seed) :
    Desk.outlet.Ends (session.serve conditions : Work Unit) := by
  have turns : Desk.outlet.Follows (pairing.atDesk 0) (session.turn conditions)
      (session.turn conditions) :=
    follows_turn asks seeded fun _ => ⟨rfl, rfl⟩
  intro view
  -- On the number of lines left, which every turn but the last one lowers.
  induction hn : view.1.length using Nat.strongRecOn generalizing view with
  | _ n ih =>
    obtain ⟨result, middle, said, runs⟩ := turns.ends view
    cases result with
    | error error => exact ⟨_, _, _, runs_serve_of_error runs⟩
    | ok next =>
      cases next with
      | again =>
        obtain ⟨_, _, _, served⟩ := ih _ (hn ▸ length_lt_of_runs_turn runs) middle rfl
        exact ⟨_, _, _, runs_serve_of_again runs served⟩
      | finished => exact ⟨_, _, _, runs_serve_of_finished runs⟩

theorem follows_serve (asks : pairing.Asks) (seeded : session.simulator.seed = some seed)
    (alike : ∀ runs, (conditions runs).Alike (other (runs + offset))) :
    Desk.outlet.Follows (pairing.atDesk offset) (session.serve conditions : Work Unit)
      (session.serve other) := by
  have turns : Desk.outlet.Follows (pairing.atDesk offset) (session.turn conditions)
      (session.turn other) :=
    follows_turn asks seeded alike
  refine ⟨ends_serve asks seeded, fun view view' related => ?_⟩
  -- On the number of lines left to the first session; the second one may have more.
  induction hn : view.1.length using Nat.strongRecOn generalizing view view' with
  | _ n ih =>
    rw [serve_eq session conditions, serve_eq session other]
    refine (turns.follows view view' related).bind
      (fun next middle middle' said runs related' => ?_) fun next => ?_
    · cases next with
      | again => exact ih _ (hn ▸ length_lt_of_runs_turn runs) middle middle' related' rfl
      | finished => exact (Outlet.follows_pure ()).follows middle middle' related'
    · cases next with
      | again => exact ends_serve asks seeded
      | finished => exact Outlet.ends_pure ()

/-- What a session comes to, by what serving the main menu has come to. -/
def settled : Except SessionError Unit → Except SessionError Unit
  | .error (.console .closed) => .ok ()
  | result => result

/-- What is said after the main menu has been served. -/
def farewell : Except SessionError Unit → String
  | .error (.console .closed) => "Exiting...\n"
  | _ => ""

theorem settled_of_ne {result : Except SessionError Unit}
    (other : result ≠ .error (.console .closed)) :
    settled result = result ∧ farewell result = "" := by
  unfold settled farewell
  split <;> simp_all

theorem runs_serveUntilClosed {view after : List Line × Nat} {result : Except SessionError Unit}
    {said : String}
    (h : Desk.outlet.Runs (session.serve conditions : Work Unit) view result after said) :
    Desk.outlet.Runs (session.serveUntilClosed conditions) view (settled result) after
      (said ++ farewell result) := by
  intro desk looks
  obtain ⟨sink, ends⟩ := h desk looks
  rw [Sink.write_append]
  by_cases fits : ((Desk.outlet.sink desk).write said).1 = true
  · rw [if_pos fits] at ends ⊢
    rw [← sink]
    by_cases closed : result = .error (.console .closed)
    · subst closed
      rw [serveUntilClosed_of_closed (Prod.ext ends.1 rfl)]
      exact runs_leaveClosed after _ ends.2
    · obtain ⟨same, silent⟩ := settled_of_ne closed
      rw [serveUntilClosed_of_serve (Prod.ext ends.1 rfl) closed, same, silent, Sink.write_empty,
        if_pos rfl]
      exact ⟨rfl, rfl, ends.2⟩
  · rw [if_neg fits] at ends ⊢
    rw [serveUntilClosed_of_serve (Prod.ext ends rfl) nofun, if_neg fits]
    exact ⟨sink, rfl⟩

theorem runs_conduct {view after : List Line × Nat} {result : Except SessionError Unit}
    {said : String}
    (h : Desk.outlet.Runs (session.serve conditions : Work Unit) view result after said) :
    Desk.outlet.Runs (session.conduct conditions) view (settled result) after
      (session.greeting ++ (said ++ farewell result)) :=
  (runs_greet session view).bind (runs_serveUntilClosed h)

theorem onScript_of_runs (recording : Bool) {script : Bytes} {after : List Line × Nat}
    {result : Except SessionError Unit} {said : String}
    (h : Desk.outlet.Runs (session.serve conditions : Work Unit) (Line.split script, 0) result after
      said) :
    let ended := session.onScript conditions recording script none
    ended.1 = settled result ∧ ended.2.console.lines = after.1 ∧
      ended.2.console.sink.written =
        (session.greeting ++ (said ++ farewell result)).toUTF8 := by
  intro ended
  obtain ⟨ends, view, sink⟩ := (runs_conduct h).unlimited
    { console := Console.ofScript script none, recording } rfl rfl
  rw [ByteArray.empty_append] at sink
  exact ⟨ends, congrArg Prod.fst view, congrArg Sink.written sink⟩

end Turns

end Session

end PreimageSearch
