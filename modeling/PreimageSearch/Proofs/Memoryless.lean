import PreimageSearch.Proofs.Causality

/-!
# Nothing is remembered

Whenever the main menu is shown, a seeded session goes on as if it had just begun. So a script on
which the session comes to wait at the main menu can be put before any other script: the session on
both says what it says on the first one, up to the menu, and then what it says on the second one,
the greeting apart.
-/

namespace PreimageSearch

/-! ## Resumed work -/

namespace Outlet

variable {σ ε υ α β : Type} {outlet : Outlet σ ε υ}

/-- What work does and says is determined where there is a state to try it on. -/
theorem Runs.unique {work : ExceptT ε (StateM σ) α} {before after after' : υ}
    {result result' : Except ε α} {said said' : String}
    (h : outlet.Runs work before result after said)
    (h' : outlet.Runs work before result' after' said') (state : σ)
    (looks : outlet.view state = before) (sink : outlet.sink state = {}) :
    result = result' ∧ after = after' ∧ said = said' := by
  obtain ⟨ends, view, written⟩ := h.unlimited state looks sink
  obtain ⟨ends', view', written'⟩ := h'.unlimited state looks sink
  have same := congrArg Sink.written (written.symm.trans written')
  rw [ByteArray.empty_append, ByteArray.empty_append] at same
  exact ⟨ends.symm.trans ends', view.symm.trans view', String.toByteArray_inj.1 same⟩

/-- From `view` the work says `lead`, and then goes on as it does from `later`. -/
def Resumes (outlet : Outlet σ ε υ) (work : ExceptT ε (StateM σ) α) (view later : υ)
    (lead : String) : Prop :=
  ∃ result after said, outlet.Runs work later result after said ∧
    outlet.Runs work view result after (lead ++ said)

theorem Resumes.bind {work : ExceptT ε (StateM σ) α} {next : α → ExceptT ε (StateM σ) β}
    {view later : υ} {lead : String} (h : outlet.Resumes work view later lead)
    (ends : ∀ a, outlet.Ends (next a)) : outlet.Resumes (work >>= next) view later lead := by
  obtain ⟨result, middle, said, runs, resumed⟩ := h
  cases result with
  | error error => exact ⟨_, _, _, runs.bind_error next, resumed.bind_error next⟩
  | ok a =>
    obtain ⟨_, _, more, ran⟩ := ends a middle
    exact ⟨_, _, _, runs.bind ran, (resumed.bind ran).said_eq (String.append_assoc ..)⟩

end Outlet

namespace Pairing

/-- The lines are the same. -/
def same : Pairing (List Line) ConsoleError :=
  ⟨fun lines lines' => lines' = lines, fun _ => False⟩

theorem asks_same : same.Asks := by
  rintro α accept - _ lines rfl
  obtain ⟨result, rest, count, hears⟩ := Dialogue.exists_hears accept lines
  exact ⟨_, _, _, hears, .inl ⟨_, rfl, hears⟩⟩

end Pairing

/-! ## The main menu -/

namespace Interview

open Dialogue

/-- The prompt of the main menu. -/
def mainPrompt : String :=
  menu "Main menu:" (MenuOption.all.map MenuOption.label)

theorem mainMenu_eq : mainMenu = ask mainPrompt (optionAt MenuOption.all) >>= fun option =>
    Dialogue.say (option.label ++ "\n") >>= fun _ => pure option :=
  choose_eq (by decide) _ _

section Closed

variable {lines rest : List Line} {count : Nat}

theorem runs_mainMenu {option : MenuOption}
    (h : Hears (optionAt MenuOption.all) lines (.ok option) rest count) :
    Console.outlet.Runs mainMenu lines (.ok option) rest
      (asked mainPrompt count ++ (option.label ++ "\n")) :=
  runs_choose h "Main menu:" MenuOption.label

theorem exists_runs_mainMenu {result : Except ConsoleError MenuOption}
    (h : Hears (optionAt MenuOption.all) lines result rest count) :
    ∃ said, Console.outlet.Runs mainMenu lines result rest said := by
  cases result with
  | ok option => exact ⟨_, runs_mainMenu h⟩
  | error error =>
    rw [mainMenu_eq]
    exact ⟨_, (runs_ask h mainPrompt).bind_error _⟩

/-- The lines before a main menu at which they end are refused. -/
theorem hears_of_mainMenu {console : Console} {written : ByteArray}
    (sink : console.sink = ⟨written, none⟩) (closed : (mainMenu console).1 = .error .closed) :
    ∃ rest count, Hears (optionAt MenuOption.all) console.lines (.error .closed) rest count := by
  obtain ⟨result, rest, count, hears⟩ := exists_hears (optionAt MenuOption.all) console.lines
  obtain ⟨said, runs⟩ := exists_runs_mainMenu hears
  obtain ⟨ends, -, -⟩ := runs.unlimited console rfl sink
  obtain rfl : result = .error .closed := ends.symm.trans closed
  exact ⟨rest, count, hears⟩

theorem runs_request_of_closed (catalog : Catalog)
    (h : Hears (optionAt MenuOption.all) lines (.error .closed) rest count) :
    Console.sessionOutlet.Runs (request catalog) lines (.error (.console .closed)) rest
      (asked mainPrompt count) := by
  have menu : Console.outlet.Runs mainMenu lines (.error .closed) rest
      (asked mainPrompt count) := by
    rw [mainMenu_eq]
    exact (runs_ask h mainPrompt).bind_error _
  exact (runs_lift menu).bind_error _

theorem resumes_mainMenu (h : Hears (optionAt MenuOption.all) lines (.error .closed) rest count)
    (extra : List Line) :
    Console.outlet.Resumes mainMenu (lines ++ extra) extra (refusals mainPrompt count) := by
  have ask : Console.outlet.Resumes (ask mainPrompt (optionAt MenuOption.all)) (lines ++ extra)
      extra (refusals mainPrompt count) := by
    obtain ⟨result, rest', later, hears⟩ := exists_hears (optionAt MenuOption.all) extra
    exact ⟨_, _, _, runs_ask hears mainPrompt,
      (runs_ask (h.append_of_closed hears) mainPrompt).said_eq (asked_add ..)⟩
  rw [mainMenu_eq]
  exact ask.bind fun _ => Outlet.ends_bind (fun lines => ⟨_, _, _, runs_say _ lines⟩)
    fun _ => Outlet.ends_pure _

theorem resumes_request (catalog : Catalog)
    (h : Hears (optionAt MenuOption.all) lines (.error .closed) rest count) (extra : List Line) :
    Console.sessionOutlet.Resumes (request catalog) (lines ++ extra) extra
      (refusals mainPrompt count) := by
  have menu : Console.sessionOutlet.Resumes (liftM mainMenu : Dialogue SessionError MenuOption)
      (lines ++ extra) extra (refusals mainPrompt count) := by
    obtain ⟨_, _, _, runs, resumed⟩ := resumes_mainMenu h extra
    exact ⟨_, _, _, runs_lift runs, runs_lift resumed⟩
  refine menu.bind fun option => ?_
  have search (mode : Mode) := (follows_search Pairing.asks_same catalog mode).ends
  cases option with
  | analyze => exact Outlet.ends_bind (search .analyze) fun _ => Outlet.ends_pure _
  | simulate => exact Outlet.ends_bind (search .simulate) fun _ => Outlet.ends_pure _
  | help => exact Outlet.ends_pure _
  | quit => exact Outlet.ends_pure _

end Closed

end Interview

/-! ## Sessions -/

namespace Session

open Interview Dialogue

section Resumed

variable {session : Session} {seed : UInt64} {conditions : Nat → Conditions}
  {lines rest : List Line} {count : Nat}

theorem runs_serve_of_closed
    (h : Hears (optionAt MenuOption.all) lines (.error .closed) rest count) (runs : Nat) :
    Desk.outlet.Runs (session.serve conditions : Work Unit) (lines, runs)
      (.error (.console .closed)) (rest, runs) (asked mainPrompt count) :=
  runs_serve_of_error ((runs_converse (runs_request_of_closed _ h) runs).bind_error _)

theorem resumes_serve (seeded : session.simulator.seed = some seed)
    (h : Hears (optionAt MenuOption.all) lines (.error .closed) rest count) (extra : List Line)
    (runs : Nat) :
    Desk.outlet.Resumes (session.serve conditions : Work Unit) (lines ++ extra, runs)
      (extra, runs) (refusals mainPrompt count) := by
  have asked : Desk.outlet.Resumes (converse (request session.catalog)) (lines ++ extra, runs)
      (extra, runs) (refusals mainPrompt count) := by
    obtain ⟨_, _, _, ran, resumed⟩ := resumes_request session.catalog h extra
    exact ⟨_, _, _, runs_converse ran runs, runs_converse resumed runs⟩
  have performs (request : Request) : Desk.outlet.Follows (Pairing.same.atDesk 0)
      (session.perform conditions request) (session.perform conditions request) :=
    follows_perform seeded (fun _ => ⟨rfl, rfl⟩) request
  have turned : Desk.outlet.Resumes (session.turn conditions) (lines ++ extra, runs) (extra, runs)
      (refusals mainPrompt count) :=
    asked.bind fun request => (performs request).ends
  rw [serve_eq]
  refine turned.bind fun next => ?_
  cases next with
  | again => exact ends_serve Pairing.asks_same seeded
  | finished => exact Outlet.ends_pure ()

theorem runs_serve_of_refused (seeded : session.simulator.seed = some seed)
    (h : Hears (optionAt MenuOption.all) lines (.error .closed) rest count) {extra : List Line}
    {runs : Nat} {result : Except SessionError Unit} {after : List Line × Nat} {said : String}
    (served : Desk.outlet.Runs (session.serve conditions : Work Unit) (extra, runs) result after
      said) :
    Desk.outlet.Runs (session.serve conditions : Work Unit) (lines ++ extra, runs) result after
      (refusals mainPrompt count ++ said) := by
  obtain ⟨result', after', said', served', resumed⟩ := resumes_serve seeded h extra runs
  obtain ⟨rfl, rfl, rfl⟩ := served.unique served'
    { console := ⟨extra, {}⟩, recording := false, runs } rfl rfl
  exact resumed

end Resumed

section Reached

variable {session : Session} {conditions : Nat → Conditions} {recording : Bool} {desk : Desk}

/-- The session on a script is what is left of it at any of its desks. -/
theorem Reaches.onScript_eq {script : Bytes} {room : Option Nat}
    (h : session.Reaches conditions recording script room desk) :
    session.onScript conditions recording script room =
      session.serveUntilClosed conditions desk := by
  induction h with
  | greeted greeting =>
    refine (Outlet.bind_of_ok (congrArg Prod.fst greeting)).trans ?_
    rw [greeting]
  | again _ turned ih => exact ih.trans (serveUntilClosed_congr (serve_of_again turned))

theorem Reaches.onScript_of_runs {script : Bytes} {text said : String}
    {result : Except SessionError Unit} {after : List Line × Nat}
    (h : session.Reaches conditions recording script none desk)
    (sink : desk.console.sink = ⟨text.toUTF8, none⟩)
    (served : Desk.outlet.Runs (session.serve conditions : Work Unit)
      (desk.console.lines, desk.runs) result after said) :
    (session.onScript conditions recording script none).1 = settled result ∧
      (session.onScript conditions recording script none).2.console.sink.written =
        (text ++ (said ++ farewell result)).toUTF8 := by
  obtain ⟨ends, -, written⟩ := (runs_serveUntilClosed served).unlimited desk rfl sink
  rw [← toUTF8_append] at written
  rw [h.onScript_eq]
  exact ⟨ends, congrArg Sink.written written⟩

/-- If more lines come, the main menu is shown with them after the same turns. -/
theorem Reaches.extended {seed : UInt64} {first : Bytes} {other : Nat → Conditions}
    (h : session.Reaches conditions recording first none desk)
    (reliable : session.catalog.Reliable) (seeded : session.simulator.seed = some seed)
    (alike : ∀ run, (conditions run).Alike (other run)) (complete : Line.Complete first)
    (second : Bytes) :
    ∃ desk', session.Reaches other recording (first ++ second) none desk' ∧
      Desk.outlet.view desk' = (desk.console.lines ++ Line.split second, desk.runs) ∧
      desk'.console.sink = desk.console.sink := by
  induction h with
  | @greeted desk greeting =>
    obtain ⟨-, view, sink⟩ := (runs_greet session _).unlimited
      { console := Console.ofScript first none, recording } rfl rfl
    obtain ⟨greeted', view', sink'⟩ := (runs_greet session _).unlimited
      { console := Console.ofScript (first ++ second) none, recording } rfl rfl
    rw [greeting] at view sink
    refine ⟨_, .greeted (Prod.ext greeted' rfl), view'.trans ?_, sink'.trans sink.symm⟩
    obtain ⟨lines, runs⟩ := Prod.mk.inj view
    rw [lines, runs]
    exact congrArg (·, 0) (Line.split_append complete second)
  | @again before after earlier turned ih =>
    obtain ⟨before', reached', view', sink'⟩ := ih
    obtain ⟨text, sink⟩ := earlier.exists_text reliable
    have turns : Desk.outlet.Follows ((Pairing.extended (Line.split second)).atDesk 0)
        (session.turn conditions) (session.turn other) :=
      follows_turn (Pairing.asks_extended _) seeded alike
    obtain ⟨result, _, said, runs, follows⟩ := turns.follows
      (before.console.lines, before.runs) (before.console.lines ++ Line.split second, before.runs)
      ⟨rfl, rfl⟩
    obtain ⟨ends, looks, written⟩ := runs.unlimited before rfl sink
    rw [turned] at ends looks written
    obtain rfl : result = .ok .again := ends.symm
    obtain ⟨middle, ⟨lines, number⟩, runs'⟩ | ⟨_, _, _, _, failed, -⟩ := follows
    · obtain ⟨ends', looks', written'⟩ := runs'.unlimited before' view' (sink'.trans sink)
      have turned' : session.turn other before' = (.ok .again, _) := Prod.ext ends' rfl
      refine ⟨_, .again reached' turned', looks'.trans ?_, written'.trans written.symm⟩
      rw [← looks] at lines number
      exact Prod.ext lines number
    · cases failed

end Reached

/-- On this script the session finds no further line while it waits at the main menu, after so many
runs. -/
def WaitsAtMenu (session : Session) (conditions : Nat → Conditions) (recording : Bool)
    (script : Bytes) (runs : Nat) : Prop :=
  ∃ desk, session.Reaches conditions recording script none desk ∧ desk.runs = runs ∧
    (mainMenu desk.console).1 = .error .closed

theorem exists_outcome (search : Search) (words : Nat → UInt64) :
    ∃ outcome, ∀ simulation : Simulation, Simulation.simulate search words = .ok simulation →
      simulation.outcome = outcome := by
  rcases Simulation.simulate search words with fault | simulation
  · exact ⟨.exhausted, nofun⟩
  · exact ⟨simulation.outcome, fun _ same => congrArg _ (Except.ok.inj same).symm⟩

/-- Where a search is simulated, its outcome is that of the seeded words from the first one on. -/
theorem turn_of_requested {session : Session} {seed : UInt64}
    (reliable : session.catalog.Reliable) (seeded : session.simulator.seed = some seed)
    (conditions : Nat → Conditions) {desk : Desk} {text : String}
    (sink : desk.console.sink = ⟨text.toUTF8, none⟩) {search : Search} {rest : List Line}
    (requested : Requested session.catalog desk.console.lines (.run .simulate search) rest) :
    (∃ error, session.simulator.approve (conditions desk.runs).availableMemory
        search.parameters.inputWidth = .error error ∧
      (session.turn conditions desk).1 = .error (.backend error)) ∨
    (session.turn conditions desk).1 = .ok .again ∧
      Desk.outlet.view (session.turn conditions desk).2 = (rest, desk.runs + 1) ∧
      ∃ (opening : String) (simulation : Simulation),
        Simulation.simulate search (Random.word seed) = .ok simulation ∧
        (session.turn conditions desk).2.console.sink.written = desk.console.sink.written ++
          (opening ++ Rendering.outcome simulation.outcome).toUTF8 := by
  obtain ⟨result, left, number, said, turn, runs⟩ :=
    exists_turn session reliable conditions desk.console.lines desk.runs
  obtain ⟨ends, view, written⟩ := runs.unlimited desk rfl sink
  cases turn with
  | unread _ unfinished => exact absurd requested (unfinished _ _)
  | quit other | help other | analyze other => cases (requested.unique other).1
  | refuse other _ refused =>
    cases (requested.unique other).1
    exact .inl ⟨_, refused, ends⟩
  | @simulate _ opening _ simulation other _ _ _ _ simulated =>
    obtain ⟨⟨⟩, rfl⟩ := requested.unique other
    rw [Simulator.words, seeded] at simulated
    refine .inr ⟨ends, view, opening, simulation, simulated, ?_⟩
    rw [sink]
    exact congrArg Sink.written written

/-- Nothing survives a turn of the main menu. If the session on whole lines comes to wait at the
menu, then on the same lines and others it says all that it said before the last prompt, goes on as
the session on the others alone does after its greeting, and comes to the same. And for each search
there is one outcome, which every turn that simulates it shows, whatever has been before. -/
theorem onScript_restarts (config : Config) (seed : Nat)
    (seeded : config.simulator.seed = some seed) (recording : Bool) :
    let session := Program.session config
    let ended (conditions : Nat → Conditions) (script : Bytes) :=
      session.onScript conditions recording script none
    (∀ (earlier later whole : Nat → Conditions) (first second : Bytes) (runs : Nat),
      Line.Complete first → session.WaitsAtMenu earlier recording first runs →
      (∀ run, (earlier run).Alike (whole run)) →
      (∀ run, (later run).Alike (whole (run + runs))) →
      (ended whole (first ++ second)).1 = (ended later second).1 ∧
      ∃ before after : String,
        (ended earlier first).2.console.sink.written =
          (before ++ (question mainPrompt ++ "Exiting...\n")).toUTF8 ∧
        (ended later second).2.console.sink.written = (session.greeting ++ after).toUTF8 ∧
        (ended whole (first ++ second)).2.console.sink.written = (before ++ after).toUTF8) ∧
    ∀ search, ∃ outcome, ∀ conditions script desk rest,
      session.Reaches conditions recording script none desk →
      Requested .standard desk.console.lines (.run .simulate search) rest →
      (∃ error, session.simulator.approve (conditions desk.runs).availableMemory
          search.parameters.inputWidth = .error error ∧
        (session.turn conditions desk).1 = .error (.backend error)) ∨
      (session.turn conditions desk).1 = .ok .again ∧ ∃ opening : String,
        (session.turn conditions desk).2.console.sink.written = desk.console.sink.written ++
          (opening ++ Rendering.outcome outcome).toUTF8 := by
  intro session ended
  have reliable : session.catalog.Reliable := Catalog.standard_reliable
  have seeded' := Program.seed_session seeded
  constructor
  · rintro earlier later whole first second _ complete ⟨desk, reached, rfl, waits⟩ alike alike'
    obtain ⟨text, sink⟩ := reached.exists_text reliable
    obtain ⟨rest, count, hears⟩ := hears_of_mainMenu sink waits
    -- The first script alone.
    obtain ⟨-, written₁⟩ := reached.onScript_of_runs sink (runs_serve_of_closed hears _)
    -- The second script alone, and after as many runs as the first one has begun.
    have serves : Desk.outlet.Follows (Pairing.same.atDesk desk.runs)
        (session.serve later : Work Unit) (session.serve whole) :=
      follows_serve Pairing.asks_same seeded' alike'
    obtain ⟨result, after, said, runs, ⟨after', -, runs'⟩ | ⟨_, _, _, _, -, ⟨_, -, ⟨⟩⟩, -⟩⟩ :=
      serves.follows (Line.split second, 0) (Line.split second, desk.runs)
        ⟨rfl, (Nat.zero_add _).symm⟩
    obtain ⟨ends₂, -, written₂⟩ := onScript_of_runs recording runs
    -- Both: the lines refused at the menu are refused again, and then the second script is read.
    obtain ⟨desk', reached', view', sink'⟩ :=
      reached.extended reliable seeded' alike complete second
    have resumed := runs_serve_of_refused seeded' hears runs'
    rw [← view'] at resumed
    obtain ⟨ends, written⟩ := reached'.onScript_of_runs (sink'.trans sink) resumed
    refine ⟨ends.trans ends₂.symm, text ++ refusals mainPrompt count, said ++ farewell result,
      written₁.trans (congrArg _ ?_), written₂, written.trans (congrArg _ ?_)⟩
    · rw [asked_eq]
      simp only [String.append_assoc]
      rfl
    · simp only [String.append_assoc]
  · intro search
    obtain ⟨outcome, unique⟩ := exists_outcome search (Random.word (UInt64.ofNat seed))
    refine ⟨outcome, fun conditions script desk rest reached requested => ?_⟩
    obtain ⟨text, sink⟩ := reached.exists_text reliable
    obtain refused | ⟨again, -, opening, simulation, simulated, written⟩ :=
      turn_of_requested reliable seeded' conditions sink requested
    · exact .inl refused
    · rw [unique simulation simulated] at written
      exact .inr ⟨again, opening, written⟩

/-- The lines `2`, `1`, `1`, `1` and `0` simulate `CRC-8` for one target over one bit with the check
zero. Entered twice in one session, they show one outcome. -/
theorem onScript_restarts_crc8 :
    let conditions : Nat → Conditions := fun _ => ⟨"", ⟨0, 0, by decide⟩, 0, fun _ => 0⟩
    let script : Bytes := [50, 10, 49, 10, 49, 10, 49, 10, 48, 10]
    let session := Program.session { simulator := { seed := some 7 } }
    let ended (script : Bytes) := session.onScript conditions false script none
    ((ended (script ++ script)).1 = (ended script).1 ∧ ∃ before after : String,
      (ended script).2.console.sink.written =
        (before ++ (question mainPrompt ++ "Exiting...\n")).toUTF8 ∧
      (ended script).2.console.sink.written = (session.greeting ++ after).toUTF8 ∧
      (ended (script ++ script)).2.console.sink.written = (before ++ after).toUTF8) ∧
    ∃ outcome, ∀ run < 2, ∃ desk, ∃ opening : String, desk.runs = run ∧
      session.Reaches conditions false (script ++ script) none desk ∧
      (session.turn conditions desk).2.console.sink.written = desk.console.sink.written ++
        (opening ++ Rendering.outcome outcome).toUTF8 := by
  intro conditions script session ended
  have reliable : session.catalog.Reliable := Catalog.standard_reliable
  have seeded : session.simulator.seed = some 7 := rfl
  have alike (run : Nat) : (conditions run).Alike (conditions run) := ⟨rfl, rfl⟩
  have complete : Line.Complete script := by decide
  let search : Search := ⟨.ofChecksum .crc8,
    ⟨"CRC-8", .single, 1, 8, 0, by decide, by decide, by decide, by decide⟩⟩
  have requested (rest : List Line) :
      Requested .standard (Line.split script ++ rest) (.run .simulate search) rest := by
    have split : Line.split script = [[50, 10], [49, 10], [49, 10], [49, 10], [48, 10]] := by decide
    rw [split]
    exact requested_crc8 rest
  -- The first run completes, and then the session waits at the main menu.
  obtain ⟨first, -, greeted, view, -, -⟩ := exists_greeted session conditions false script
  obtain ⟨second, again, view'⟩ : ∃ second,
      session.Reaches conditions false script none second ∧
      Desk.outlet.view second = ([], 1) := by
    obtain ⟨text, sink⟩ := greeted.exists_text reliable
    obtain ⟨lines, runs⟩ := Prod.mk.inj view
    have entered : Requested .standard first.console.lines (.run .simulate search) [] := by
      rw [lines, ← List.append_nil (Line.split script)]
      exact requested []
    obtain ⟨error, refused, -⟩ | ⟨completed, left, -⟩ :=
      turn_of_requested reliable seeded conditions sink entered
    · cases refused
    · rw [runs] at left
      exact ⟨_, .again greeted (Prod.ext completed rfl), left⟩
  have waits : session.WaitsAtMenu conditions false script 1 := by
    obtain ⟨text, sink⟩ := again.exists_text reliable
    obtain ⟨lines, runs⟩ := Prod.mk.inj view'
    obtain ⟨said, menu⟩ := exists_runs_mainMenu .closed
    exact ⟨second, again, runs, (menu.unlimited second.console lines sink).1⟩
  obtain ⟨appended, shown⟩ := onScript_restarts { simulator := { seed := some 7 } } 7 rfl false
  refine ⟨appended conditions conditions conditions script script 1 complete waits alike alike, ?_⟩
  obtain ⟨outcome, shown⟩ := shown search
  have prints {desk : Desk} {run : Nat} {lines rest : List Line}
      (reached : session.Reaches conditions false script none desk)
      (looks : Desk.outlet.view desk = (lines, run))
      (entered : Requested .standard (lines ++ Line.split script) (.run .simulate search) rest) :
      ∃ desk, ∃ opening : String, desk.runs = run ∧
        session.Reaches conditions false (script ++ script) none desk ∧
        (session.turn conditions desk).2.console.sink.written = desk.console.sink.written ++
          (opening ++ Rendering.outcome outcome).toUTF8 := by
    obtain ⟨desk', reached', looks', -⟩ := reached.extended reliable seeded alike complete script
    obtain ⟨rfl, rfl⟩ := Prod.mk.inj looks
    obtain ⟨same, runs⟩ := Prod.mk.inj looks'
    obtain ⟨_, refused, -⟩ | ⟨-, opening, written⟩ :=
      shown conditions (script ++ script) desk' rest reached' (same ▸ entered)
    · cases refused
    · exact ⟨desk', opening, runs, reached', written⟩
  refine ⟨outcome, fun run few => ?_⟩
  rcases run with _ | _ | run
  · exact prints greeted view (requested _)
  · exact prints again view' (requested [])
  · omega

end Session

end PreimageSearch
