import PreimageSearch.Proofs.Memoryless

/-!
# Output that is cut short

A sink that takes only so many bytes changes nothing of a session but its end: if the whole output
fits, the session is the one without a limit, and otherwise it fails with the write that does not
fit, after exactly the bytes that do.
-/

namespace PreimageSearch

namespace Outlet

variable {σ ε υ α : Type} {outlet : Outlet σ ε υ}

/-- If all that is said fits, a limited sink makes no difference. -/
theorem Runs.of_fits {work : ExceptT ε (StateM σ) α} {before after : υ} {result : Except ε α}
    {said : String} (h : outlet.Runs work before result after said) (state : σ)
    {written : ByteArray} {room : Nat} (looks : outlet.view state = before)
    (sink : outlet.sink state = ⟨written, some room⟩) (fits : said.toUTF8.size ≤ room) :
    (work state).1 = result ∧ outlet.view (work state).2 = after ∧
      (outlet.sink (work state).2).written = written ++ said.toUTF8 := by
  obtain ⟨kept, ends⟩ := h state looks
  rw [sink, Sink.write_of_fits fits] at kept ends
  rw [if_pos rfl] at ends
  exact ⟨ends.1, ends.2, congrArg Sink.written kept⟩

/-- If it does not fit, the work fails with the write that goes beyond the limit, and what does fit
has been written. -/
theorem Runs.of_not_fits {work : ExceptT ε (StateM σ) α} {before after : υ} {result : Except ε α}
    {said : String} (h : outlet.Runs work before result after said) (state : σ)
    {written : ByteArray} {room : Nat} (looks : outlet.view state = before)
    (sink : outlet.sink state = ⟨written, some room⟩) (long : room < said.toUTF8.size) :
    (work state).1 = .error outlet.cut ∧
      (outlet.sink (work state).2).written = written ++ said.toUTF8.extract 0 room := by
  obtain ⟨kept, ends⟩ := h state looks
  rw [sink, Sink.write_of_not_fits (by omega)] at kept ends
  rw [if_neg (by simp)] at ends
  exact ⟨ends, congrArg Sink.written kept⟩

end Outlet

namespace Session

open Interview Dialogue

/-- A session in which the operator quits ends there. -/
theorem runs_serve_of_quit {session : Session} {conditions : Nat → Conditions}
    {lines rest : List Line} {count : Nat}
    (h : Hears (optionAt MenuOption.all) lines (.ok .quit) rest count) (runs : Nat) :
    Desk.outlet.Runs (session.serve conditions : Work Unit) (lines, runs) (.ok ()) (rest, runs)
      (asked mainPrompt count ++ "quit\n" ++ "Exiting...\n") := by
  have requested : Console.sessionOutlet.Runs (Interview.request session.catalog) lines (.ok .quit)
      rest (asked mainPrompt count ++ "quit\n") :=
    ((runs_lift (runs_mainMenu h)).bind (Outlet.runs_pure Request.quit rest)).said_eq
      String.append_empty
  exact runs_serve_of_finished
    (runs_turn requested (runs_sayThen "Exiting...\n" .finished (rest, runs)))

/-- A limit on the output only cuts it short. Within the limit the session ends as without one, with
the same output and the same lines left. Beyond it the session fails because of the write, and its
output is the beginning of the other one, as long as the limit. -/
theorem onScript_limited (config : Config) (seed : Nat)
    (seeded : config.simulator.seed = some seed) (conditions other : Nat → Conditions)
    (alike : ∀ run, (conditions run).Alike (other run)) (recording : Bool) (script : Bytes)
    (limit : Nat) :
    let session := Program.session config
    let whole := session.onScript conditions recording script none
    let limited := session.onScript other recording script (some limit)
    (whole.2.console.sink.written.size ≤ limit →
      limited.1 = whole.1 ∧ limited.2.console.lines = whole.2.console.lines ∧
      limited.2.console.sink.written = whole.2.console.sink.written) ∧
    (limit < whole.2.console.sink.written.size →
      limited.1 = .error (.console .writeLimit) ∧
      limited.2.console.sink.written = whole.2.console.sink.written.extract 0 limit) := by
  intro session whole limited
  have serves : Desk.outlet.Follows (Pairing.same.atDesk 0) (session.serve conditions : Work Unit)
      (session.serve other) :=
    follows_serve Pairing.asks_same (Program.seed_session seeded) alike
  obtain ⟨result, after, said, runs, ⟨after', related, runs'⟩ | ⟨_, _, _, _, -, ⟨_, -, ⟨⟩⟩, -⟩⟩ :=
    serves.follows (Line.split script, 0) (Line.split script, 0) ⟨rfl, rfl⟩
  obtain ⟨ends, left, written⟩ := onScript_of_runs recording runs
  -- The same course on a sink with a limit.
  let desk : Desk := { console := Console.ofScript script (some limit), recording }
  have sink : Desk.outlet.sink desk = ⟨ByteArray.empty, some limit⟩ := rfl
  rw [show whole.2.console.sink.written = _ from written]
  constructor
  · intro fits
    obtain ⟨ends', view', written'⟩ := (runs_conduct runs').of_fits desk rfl sink fits
    rw [ByteArray.empty_append] at written'
    refine ⟨ends'.trans ends.symm, ?_, written'⟩
    exact (congrArg Prod.fst view').trans (related.1.trans left.symm)
  · intro long
    obtain ⟨ends', written'⟩ := (runs_conduct runs').of_not_fits desk rfl sink long
    rw [ByteArray.empty_append] at written'
    exact ⟨ends', written'⟩

/-- The beginning of a text that is as long as the limit. -/
theorem extract_toUTF8 {whole kept rest : String} {limit : Nat} (parts : whole = kept ++ rest)
    (size : kept.toUTF8.size = limit) : whole.toUTF8.extract 0 limit = kept.toUTF8 := by
  rw [parts, toUTF8_append]
  exact ByteArray.extract_append_eq_left size.symm

/-- Without a greeting, a session on the lines `9` and `4` refuses the first and quits at the
second, in 152 bytes. If 68 of them are taken, the refusal has begun, and if 138 are taken, so has
the echo of the option. -/
theorem onScript_limited_menu :
    let config : Config := { simulator := { seed := some 7 }, display := { banner := false } }
    let conditions : Nat → Conditions := fun _ => ⟨"", ⟨0, 0, by decide⟩, 0, fun _ => 0⟩
    let ended (room : Option Nat) :=
      (Program.session config).onScript conditions false [57, 10, 52, 10] room
    let refused := question mainPrompt ++ ("Invalid input\n" ++ question mainPrompt)
    ((ended (some 152)).1 = .ok () ∧ (ended (some 152)).2.console.sink.written =
      (refused ++ "quit\n" ++ "Exiting...\n").toUTF8) ∧
    ((ended (some 68)).1 = .error (.console .writeLimit) ∧
      (ended (some 68)).2.console.sink.written = (question mainPrompt ++ "Invalid").toUTF8) ∧
    (ended (some 138)).1 = .error (.console .writeLimit) ∧
      (ended (some 138)).2.console.sink.written = (refused ++ "qu").toUTF8 := by
  intro config conditions ended refused
  have hears : Hears (optionAt MenuOption.all) (Line.split [57, 10, 52, 10]) (.ok .quit) [] 1 := by
    have nine : Line.text? [57, 10] = some "9\n" := by decide
    have four : Line.text? [52, 10] = some "4\n" := by decide
    exact .refused nine (by decide) (.accepted four (by decide))
  obtain ⟨ends, -, written⟩ :=
    onScript_of_runs false (runs_serve_of_quit hears 0 : Desk.outlet.Runs
      ((Program.session config).serve conditions : Work Unit) _ _ _ _)
  have whole : (ended none).2.console.sink.written =
      (refused ++ "quit\n" ++ "Exiting...\n").toUTF8 := written
  have menu : (question mainPrompt).toUTF8.size = 61 := by decide
  have size : (refused ++ "quit\n" ++ "Exiting...\n").toUTF8.size = 152 := by
    simp only [refused, toUTF8_append, ByteArray.size_append, menu]
    decide
  have refusal : (refused ++ "quit\n" ++ "Exiting...\n").toUTF8.extract 0 68 =
      (question mainPrompt ++ "Invalid").toUTF8 := by
    have words : "Invalid input\n" = "Invalid" ++ " input\n" := by decide
    have parts : refused ++ "quit\n" ++ "Exiting...\n" = question mainPrompt ++ "Invalid" ++
        (" input\n" ++ question mainPrompt ++ "quit\n" ++ "Exiting...\n") := by
      simp only [refused, words, String.append_assoc]
    apply extract_toUTF8 parts
    rw [toUTF8_append, ByteArray.size_append, menu]
    decide
  have echo : (refused ++ "quit\n" ++ "Exiting...\n").toUTF8.extract 0 138 =
      (refused ++ "qu").toUTF8 := by
    have words : "quit\n" = "qu" ++ "it\n" := by decide
    have parts : refused ++ "quit\n" ++ "Exiting...\n" =
        refused ++ "qu" ++ ("it\n" ++ "Exiting...\n") := by
      simp only [words, String.append_assoc]
    apply extract_toUTF8 parts
    simp only [refused, toUTF8_append, ByteArray.size_append, menu]
    decide
  have alike (run : Nat) : (conditions run).Alike (conditions run) := ⟨rfl, rfl⟩
  have limited := onScript_limited config 7 rfl conditions conditions alike false [57, 10, 52, 10]
  obtain ⟨ends', -, written'⟩ := (limited 152).1 (by rw [whole, size])
  obtain ⟨refusing, cut⟩ := (limited 68).2 (by rw [whole, size]; decide)
  obtain ⟨echoing, cut'⟩ := (limited 138).2 (by rw [whole, size]; decide)
  rw [whole] at cut cut'
  exact ⟨⟨ends'.trans ends, written'.trans whole⟩, ⟨refusing, cut.trans refusal⟩, echoing,
    cut'.trans echo⟩

end Session

end PreimageSearch
