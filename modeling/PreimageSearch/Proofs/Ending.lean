import PreimageSearch.Program
import PreimageSearch.Proofs.Turn

/-!
# How sessions end

`Session.Reaches` holds of the desks at which the main menu is shown. From each of them the session
comes to a last one, after whose turn the menu is not shown again (`exists_last`), since every other
turn takes a line. The last turn decides how the session ends, and there are only the ways that
`Ending` lists.
-/

namespace PreimageSearch

namespace Session

open Interview

/-- The desks at which the main menu is shown in a session on a script. -/
inductive Reaches (session : Session) (conditions : Nat → Conditions) (recording : Bool)
    (script : Bytes) (room : Option Nat) : Desk → Prop
  | greeted {desk : Desk}
    (greeting : session.greet { console := Console.ofScript script room, recording } =
      (.ok (), desk)) :
    Reaches session conditions recording script room desk
  | again {before after : Desk} (earlier : Reaches session conditions recording script room before)
    (turned : session.turn conditions before = (.ok .again, after)) :
    Reaches session conditions recording script room after

/-! ## Serving -/

section Serving

variable {session : Session} {conditions : Nat → Conditions} {desk after : Desk}

theorem serve_of_again (h : session.turn conditions desk = (.ok .again, after)) :
    session.serve conditions desk = session.serve conditions after := by
  rw [serve]
  split <;> rename_i turned <;> rw [h] at turned <;> cases turned
  rfl

theorem serve_of_finished (h : session.turn conditions desk = (.ok .finished, after)) :
    session.serve conditions desk = (.ok (), after) := by
  rw [serve]
  split <;> rename_i turned <;> rw [h] at turned <;> cases turned
  rfl

theorem serve_of_error {error : SessionError}
    (h : session.turn conditions desk = (.error error, after)) :
    session.serve conditions desk = (.error error, after) := by
  rw [serve]
  split <;> rename_i turned <;> rw [h] at turned <;> cases turned
  rfl

theorem left_lt_of_turn {next : Next} (h : session.turn conditions desk = (.ok next, after)) :
    left after < left desk :=
  takes_turn session conditions desk next after h

variable {recording : Bool} {script : Bytes} {room : Option Nat}

/-- Serving comes to a last turn. -/
theorem exists_last (h : session.Reaches conditions recording script room desk) :
    ∃ last, session.Reaches conditions recording script room last ∧
      (∀ after, session.turn conditions last ≠ (.ok .again, after)) ∧
      session.serve conditions desk = session.serve conditions last := by
  -- On the number of lines left, which every turn but the last one lowers.
  induction hn : left desk using Nat.strongRecOn generalizing desk with
  | _ n ih =>
    by_cases again : ∃ after, session.turn conditions desk = (.ok .again, after)
    · obtain ⟨after, turned⟩ := again
      obtain ⟨last, reached, ends, served⟩ :=
        ih (left after) (hn ▸ left_lt_of_turn turned) (.again h turned) rfl
      exact ⟨last, reached, ends, (serve_of_again turned).trans served⟩
    · exact ⟨desk, h, fun after turned => again ⟨after, turned⟩, rfl⟩

theorem serveUntilClosed_of_closed
    (h : session.serve conditions desk = (.error (.console .closed), after)) :
    session.serveUntilClosed conditions desk =
      (do note "Console closed"; leave : Work Unit) after := by
  rw [serveUntilClosed, h]

theorem serveUntilClosed_of_serve {result : Except SessionError Unit}
    (h : session.serve conditions desk = (result, after))
    (other : result ≠ .error (.console .closed)) :
    session.serveUntilClosed conditions desk = (result, after) := by
  rw [serveUntilClosed, h]
  split <;> simp_all

theorem serveUntilClosed_congr {other : Desk}
    (h : session.serve conditions desk = session.serve conditions other) :
    session.serveUntilClosed conditions desk = session.serveUntilClosed conditions other := by
  rw [serveUntilClosed, serveUntilClosed, h]

end Serving

/-! ## Reached desks -/

section Reached

variable {session : Session} {conditions : Nat → Conditions} {recording : Bool} {script : Bytes}
  {desk : Desk}

/-- What the operator is greeted with. -/
def greeting (session : Session) : String :=
  if session.banner then Guide.banner ++ "\n" else ""

theorem runs_greet (session : Session) (view : List Line × Nat) :
    Desk.outlet.Runs session.greet view (.ok ()) view session.greeting := by
  unfold greet greeting
  split
  · exact runs_say _ view
  · exact Outlet.runs_pure () view

/-- Lines are taken from the front. -/
theorem Reaches.suffix {room : Option Nat} (reliable : session.catalog.Reliable)
    (h : session.Reaches conditions recording script room desk) :
    desk.console.lines <:+ Line.split script := by
  induction h with
  | greeted greeting =>
    obtain ⟨-, view, -⟩ := (runs_greet session _).of_ok rfl greeting
    rw [(Prod.mk.inj view).1]
    exact List.suffix_rfl
  | @again before after earlier turned ih =>
    obtain ⟨result, rest, number, said, turn, runs⟩ :=
      exists_turn session reliable conditions before.console.lines before.runs
    obtain ⟨-, view, -⟩ := runs.of_ok rfl turned
    rw [(Prod.mk.inj view).1]
    exact turn.suffix.trans ih

/-! ## Unlimited output -/

theorem exists_greeted (session : Session) (conditions : Nat → Conditions) (recording : Bool)
    (script : Bytes) :
    ∃ desk written, session.Reaches conditions recording script none desk ∧
      Desk.outlet.view desk = (Line.split script, 0) ∧ Desk.outlet.sink desk = ⟨written, none⟩ ∧
      session.onScript conditions recording script none =
        session.serveUntilClosed conditions desk := by
  obtain ⟨greeted, view, sink⟩ := (runs_greet session _).unlimited
    { console := Console.ofScript script none, recording } rfl rfl
  exact ⟨_, _, .greeted (Prod.ext greeted rfl), view, sink, Outlet.bind_of_ok greeted⟩

/-- While output is unlimited, what is written is a text. -/
theorem Reaches.exists_text (reliable : session.catalog.Reliable)
    (h : session.Reaches conditions recording script none desk) :
    ∃ text : String, desk.console.sink = ⟨text.toUTF8, none⟩ := by
  induction h with
  | greeted greeting =>
    obtain ⟨-, -, sink⟩ := (runs_greet session _).unlimited
      { console := Console.ofScript script none, recording } rfl rfl
    rw [greeting, ByteArray.empty_append] at sink
    exact ⟨session.greeting, sink⟩
  | @again before after earlier turned ih =>
    obtain ⟨text, sink⟩ := ih
    obtain ⟨result, rest, number, said, -, runs⟩ :=
      exists_turn session reliable conditions before.console.lines before.runs
    obtain ⟨-, -, written⟩ := runs.unlimited before rfl sink
    rw [turned, ← toUTF8_append] at written
    exact ⟨text ++ said, written⟩

end Reached

/-! ## The ways to end -/

/-- The state vector has no 64-bit size, or it is checked against a known amount of memory and is
larger; `required` is the number of bytes reported. -/
def MemoryGuard (checked : Bool) (available width required : Nat) : Prop :=
  twoPow 64 ≤ 9 * twoPow width ∧ required = twoPow 64 - 1 ∨
    9 * twoPow width < twoPow 64 ∧ checked = true ∧ 0 < available ∧ available < 9 * twoPow width ∧
      required = 9 * twoPow width

/-- How a session of the program ends, by the lines before its last turn, the lines left after it,
the whole output and the conditions of a run in that turn. -/
inductive Ending (config : Config) (conditions : Conditions) (lines rest : List Line)
    (text : String) : Except SessionError Unit → Prop
  | quit {earlier : String} (requested : Requested .standard lines .quit rest)
    (exits : text = earlier ++ "Exiting...\n") : Ending config conditions lines rest text (.ok ())
  /-- The lines end before a request is complete. -/
  | closed {earlier : String} (used : rest = [])
    (unfinished : ∀ request rest, ¬ Requested .standard lines request rest)
    (exits : text = earlier ++ "Exiting...\n") : Ending config conditions lines rest text (.ok ())
  /-- The last line taken is no text. -/
  | notText {taken : List Line} {line : Line} (consumed : lines = taken ++ line :: rest)
    (unread : line.text? = none)
    (unfinished : ∀ request rest, ¬ Requested .standard lines request rest)
    (silent : ¬ "Exiting...\n".toList <:+ text.toList) :
    Ending config conditions lines rest text (.error (.console .notText))
  | inputTooWide {search : Search}
    (requested : Requested .standard lines (.run .simulate search) rest)
    (wide : config.simulator.maxInputWidth < search.parameters.inputWidth)
    (silent : ¬ "Exiting...\n".toList <:+ text.toList) :
    Ending config conditions lines rest text (.error (.backend
      (.inputTooWide search.parameters.inputWidth config.simulator.maxInputWidth)))
  | insufficientMemory {search : Search} {required : Nat}
    (requested : Requested .standard lines (.run .simulate search) rest)
    (narrow : search.parameters.inputWidth ≤ config.simulator.maxInputWidth)
    (guarded : MemoryGuard config.simulator.checkMemory conditions.availableMemory
      search.parameters.inputWidth required)
    (silent : ¬ "Exiting...\n".toList <:+ text.toList) :
    Ending config conditions lines rest text (.error (.backend
      (.insufficientMemory required conditions.availableMemory)))

theorem approve_eq_error {simulator : Simulator} {available width : Nat} {error : BackendError}
    (h : simulator.approve available width = .error error) :
    simulator.maxInputWidth < width ∧ error = .inputTooWide width simulator.maxInputWidth ∨
      width ≤ simulator.maxInputWidth ∧ ∃ required, error = .insufficientMemory required available ∧
        MemoryGuard simulator.checkMemory available width required := by
  cases Simulator.approve_eq_error_iff.1 h with
  | tooWide wide => exact .inl ⟨wide, rfl⟩
  | unaddressable narrow huge => exact .inr ⟨narrow, _, rfl, .inl ⟨huge, rfl⟩⟩
  | outOfMemory narrow sized checked known short =>
    exact .inr ⟨narrow, _, rfl, .inr ⟨sized, checked, known, short, rfl⟩⟩

theorem runs_leaveClosed (view : List Line × Nat) :
    Desk.outlet.Runs (do note "Console closed"; leave : Work Unit) view (.ok ()) view
      "Exiting...\n" :=
  ((runs_keep _ view).bind (runs_say _ view)).said_eq String.empty_append

theorem not_exits (text opening : String) {ending : String} {last : Char}
    (ends : ending.toList.getLast? = some last) (other : last ≠ '\n') :
    ¬ "Exiting...\n".toList <:+ (text ++ (opening ++ ending)).toList := by
  rintro ⟨earlier, same⟩
  have final := congrArg List.getLast? same
  rw [← String.append_assoc, String.toList_append, List.getLast?_append, List.getLast?_append,
    ends] at final
  exact other (Option.some.inj final).symm

/-- The last turn decides how the session ends. -/
theorem ending_of_last (config : Config) (conditions : Nat → Conditions) {last : Desk}
    {text : String} (sink : last.console.sink = ⟨text.toUTF8, none⟩)
    (ends : ∀ after, (Program.session config).turn conditions last ≠ (.ok .again, after)) :
    ∃ whole : String,
      ((Program.session config).serveUntilClosed conditions last).2.console.sink.written =
        whole.toUTF8 ∧
      Ending config (conditions last.runs) last.console.lines
        ((Program.session config).serveUntilClosed conditions last).2.console.lines whole
        ((Program.session config).serveUntilClosed conditions last).1 := by
  obtain ⟨result, rest, number, said, turn, runs⟩ := exists_turn (Program.session config)
    Catalog.standard_reliable conditions last.console.lines last.runs
  obtain ⟨result_eq, view, written⟩ := runs.unlimited last rfl sink
  have turned : (Program.session config).turn conditions last =
    (result, ((Program.session config).turn conditions last).2) := Prod.ext result_eq rfl
  generalize ((Program.session config).turn conditions last).2 = after at turned view written
  have left : after.console.lines = rest := (Prod.mk.inj view).1
  rw [← toUTF8_append] at written
  change after.console.sink = _ at written
  cases turn with
  | unread failed unfinished =>
    cases failed with
    -- A console that closes is left like one whose operator quits.
    | closed =>
      rw [serveUntilClosed_of_closed (serve_of_error turned)]
      obtain ⟨done, kept, exited⟩ := (runs_leaveClosed _).unlimited after rfl written
      rw [← toUTF8_append] at exited
      refine ⟨_, congrArg Sink.written exited, ?_⟩
      rw [done, (Prod.mk.inj kept).1, left]
      exact .closed rfl unfinished rfl
    | notText consumed unread =>
      rw [serveUntilClosed_of_serve (serve_of_error turned) (by simp), written, left]
      exact ⟨_, rfl, .notText consumed unread unfinished
        (not_exits _ _ (by decide : "> ".toList.getLast? = some ' ') (by decide))⟩
  | quit requested =>
    rw [serveUntilClosed_of_serve (serve_of_finished turned) (by simp), written, left]
    exact ⟨_, rfl, .quit requested (String.append_assoc ..).symm⟩
  | help | analyze | simulate => exact absurd turned (ends after)
  | refuse requested suffix refused =>
    rw [serveUntilClosed_of_serve (serve_of_error turned) (by simp), written, left]
    have silent (opening : String) := not_exits text opening
      (by decide : "\nSimulating quantum program...".toList.getLast? = some '.') (by decide)
    obtain ⟨wide, rfl⟩ | ⟨narrow, required, rfl, guarded⟩ := approve_eq_error refused
    · exact ⟨_, rfl, .inputTooWide requested wide (silent _)⟩
    · exact ⟨_, rfl, .insufficientMemory requested narrow guarded (silent _)⟩

/-- The session fails with a search that is too wide exactly if its last turn asks to simulate
one. -/
theorem Ending.inputTooWide_iff {config : Config} {conditions : Conditions}
    {lines rest : List Line} {text : String} {result : Except SessionError Unit}
    (h : Ending config conditions lines rest text result) (width most : Nat) :
    result = .error (.backend (.inputTooWide width most)) ↔
      ∃ search left, Requested .standard lines (.run .simulate search) left ∧
        search.parameters.inputWidth = width ∧ config.simulator.maxInputWidth = most ∧
        most < width := by
  constructor
  · rintro rfl
    cases h with
    | inputTooWide requested wide => exact ⟨_, _, requested, rfl, rfl, wide⟩
  · rintro ⟨search, left, requested, rfl, rfl, wide⟩
    cases h with
    | quit other => cases (requested.unique other).1
    | closed _ unfinished => exact absurd requested (unfinished _ _)
    | notText _ _ unfinished => exact absurd requested (unfinished _ _)
    | inputTooWide other =>
      cases (requested.unique other).1
      rfl
    | insufficientMemory other narrow =>
      cases (requested.unique other).1
      omega

/-- Every session of the program with unlimited output ends. Each turn after which there is another
one takes a line, so there is a last one, and it decides which of the ways of `Ending` is taken.
Looking up the label chosen from the main menu adds no other way. -/
theorem onScript_ends (config : Config) (conditions : Nat → Conditions) (recording : Bool)
    (script : Bytes) :
    let session := Program.session config
    let ended := session.onScript conditions recording script none
    (∀ desk next after, session.turn conditions desk = (.ok next, after) →
      after.console.lines.length < desk.console.lines.length) ∧
    (∃ last text, session.Reaches conditions recording script none last ∧
      (∀ after, session.turn conditions last ≠ (.ok .again, after)) ∧
      last.console.lines <:+ Line.split script ∧
      ended.2.console.sink.written = String.toUTF8 text ∧
      Ending config (conditions last.runs) last.console.lines ended.2.console.lines text ended.1 ∧
      ∀ width most, ended.1 = .error (.backend (.inputTooWide width most)) ↔
        ∃ search rest, Requested .standard last.console.lines (.run .simulate search) rest ∧
          search.parameters.inputWidth = width ∧ config.simulator.maxInputWidth = most ∧
          most < width) ∧
    ∀ unknown : ConsoleError, mainMenu = (do
      let label ← Dialogue.choose "Main menu:" id (MenuOption.all.map MenuOption.label)
      match MenuOption.ofInput? label with
      | some option => pure option
      | none => throw unknown) := by
  intro session ended
  refine ⟨fun desk next after turned => left_lt_of_turn turned, ?_, mainMenu_labelled⟩
  obtain ⟨first, _, greeted, -, -, started⟩ := exists_greeted session conditions recording script
  obtain ⟨last, reached, ends, served⟩ := exists_last greeted
  obtain ⟨earlier, sink⟩ := reached.exists_text Catalog.standard_reliable
  obtain ⟨text, written, ending⟩ := ending_of_last config conditions sink ends
  rw [← serveUntilClosed_congr served, ← started] at written ending
  exact ⟨last, text, reached, ends, reached.suffix Catalog.standard_reliable, written, ending,
    ending.inputTooWide_iff⟩

end Session

end PreimageSearch
