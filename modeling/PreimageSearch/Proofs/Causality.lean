import PreimageSearch.Proofs.SideBySide

/-!
# Nothing is read ahead

Two sessions, one on a script of whole lines and one on a script that goes on after it, say the same
up to the point at which the first one finds no further line. If that point never comes, they end
alike, and the second one leaves all that goes on unread.
-/

namespace PreimageSearch

/-! ## Scripts that go on -/

namespace Line

/-- Every line of the script ends with a line feed. -/
def Complete (script : Bytes) : Prop :=
  script = [] ∨ script.getLast? = some 0x0A

instance (script : Bytes) : Decidable (Complete script) :=
  inferInstanceAs (Decidable (_ ∨ _))

theorem split_eq_nil {script : Bytes} (h : split script = []) : script = [] := by
  cases script with
  | nil => rfl
  | cons byte rest =>
    rw [split] at h
    split at h
    · cases h
    · split at h <;> cases h

theorem Complete.of_cons {byte : UInt8} {rest : Bytes} (h : Complete (byte :: rest)) :
    rest = [] ∧ byte = 0x0A ∨ Complete rest := by
  obtain empty | ends := h
  · cases empty
  cases rest with
  | nil => exact .inl ⟨rfl, Option.some.inj ends⟩
  | cons next rest => exact .inr (.inr ends)

theorem split_append {first : Bytes} (complete : Complete first) (second : Bytes) :
    split (first ++ second) = split first ++ split second := by
  induction first with
  | nil => rfl
  | cons byte rest ih =>
    obtain ⟨rfl, rfl⟩ | complete' := complete.of_cons
    · rfl
    rw [List.cons_append, split, split, ih complete']
    by_cases feed : byte = 0x0A
    · rw [if_pos feed, if_pos feed, List.cons_append]
    rw [if_neg feed, if_neg feed]
    cases lines : split rest with
    | cons line lines => rfl
    -- A line that has begun has not ended with the script.
    | nil =>
      rw [split_eq_nil lines] at complete
      obtain empty | ends := complete
      · cases empty
      · exact absurd (Option.some.inj ends) feed

end Line

namespace Dialogue

variable {α : Type} {accept : String → Option α}

theorem Hears.append {lines rest : List Line} {result : Except ConsoleError α} {count : Nat}
    (h : Hears accept lines result rest count) (answered : result ≠ .error .closed)
    (extra : List Line) : Hears accept (lines ++ extra) result (rest ++ extra) count := by
  induction h with
  | closed => exact absurd rfl answered
  | notText unread => exact .notText unread
  | accepted read accepts => exact .accepted read accepts
  | refused read refuses _ ih => exact .refused read refuses (ih answered)

/-- Lines that are all refused leave the question to the lines after them. -/
theorem Hears.append_of_closed {lines rest extra rest' : List Line}
    {result : Except ConsoleError α} {count later : Nat}
    (h : Hears accept lines (.error .closed) rest count)
    (h' : Hears accept extra result rest' later) :
    Hears accept (lines ++ extra) result rest' (count + later) := by
  generalize hr : (Except.error .closed : Except ConsoleError α) = ended at h
  induction h with
  | closed => rwa [List.nil_append, Nat.zero_add]
  | notText => cases hr
  | accepted => cases hr
  | refused read refuses _ ih =>
    rw [Nat.add_right_comm]
    exact .refused read refuses (ih hr)

end Dialogue

namespace Pairing

/-- The second lines go on with `extra` where the first ones end. -/
def extended (extra : List Line) : Pairing (List Line) ConsoleError :=
  ⟨fun lines lines' => lines' = lines ++ extra, fun error => error = .closed⟩

theorem asks_extended (extra : List Line) : (extended extra).Asks := by
  rintro α accept - lines _ rfl
  obtain ⟨result, rest, count, hears⟩ := Dialogue.exists_hears accept lines
  by_cases closed : result = .error .closed
  · subst closed
    obtain ⟨result', rest', later, hears'⟩ := Dialogue.exists_hears accept extra
    exact ⟨_, _, _, hears, .inr ⟨.closed, _, _, later, rfl, rfl, hears.append_of_closed hears'⟩⟩
  · exact ⟨_, _, _, hears, .inl ⟨_, rfl, hears.append closed extra⟩⟩

end Pairing

/-! ## Sessions that close -/

theorem Program.seed_session {config : Config} {seed : Nat}
    (seeded : config.simulator.seed = some seed) :
    (Program.session config).simulator.seed = some (UInt64.ofNat seed) :=
  congrArg (Option.map UInt64.ofNat) seeded

namespace Session

/-- The session ends because there is no further line. -/
def Closes (session : Session) (conditions : Nat → Conditions) (recording : Bool)
    (script : Bytes) : Prop :=
  ((do session.greet; session.serve conditions : Work Unit)
    { console := Console.ofScript script none, recording }).1 = .error (.console .closed)

theorem closes_iff_of_runs {session : Session} {conditions : Nat → Conditions} (recording : Bool)
    {script : Bytes} {result : Except SessionError Unit} {after : List Line × Nat} {said : String}
    (h : Desk.outlet.Runs (session.serve conditions : Work Unit) (Line.split script, 0) result after
      said) :
    session.Closes conditions recording script ↔ result = .error (.console .closed) := by
  have course : Desk.outlet.Runs (session.greet >>= fun _ => session.serve conditions : Work Unit)
      (Line.split script, 0) result after (session.greeting ++ said) :=
    (runs_greet session _).bind h
  obtain ⟨ends, -, -⟩ := course.unlimited
    { console := Console.ofScript script none, recording } rfl rfl
  rw [← ends]
  rfl

/-- A seeded session on whole lines that ends before they are used up ends so whatever lines come
after them, and leaves these unread. If it ends because the lines are used up, all that it has said
until then is said, too, if more lines come. -/
theorem onScript_append (config : Config) (seed : Nat)
    (seeded : config.simulator.seed = some seed) (conditions other : Nat → Conditions)
    (alike : ∀ run, (conditions run).Alike (other run)) (recording : Bool) (first second : Bytes)
    (complete : Line.Complete first) :
    let session := Program.session config
    let alone := session.onScript conditions recording first none
    let whole := session.onScript other recording (first ++ second) none
    (¬ session.Closes conditions recording first →
      whole.1 = alone.1 ∧ whole.2.console.sink.written = alone.2.console.sink.written ∧
      whole.2.console.lines = alone.2.console.lines ++ Line.split second) ∧
    (session.Closes conditions recording first →
      alone.1 = .ok () ∧ ∃ text more : String,
        alone.2.console.sink.written = (text ++ "Exiting...\n").toUTF8 ∧
        whole.2.console.sink.written = (text ++ more).toUTF8) := by
  intro session alone whole
  have serves : Desk.outlet.Follows ((Pairing.extended (Line.split second)).atDesk 0)
      (session.serve conditions : Work Unit) (session.serve other) :=
    follows_serve (Pairing.asks_extended _) (Program.seed_session seeded) alike
  obtain ⟨result, after, said, runs, follows⟩ :=
    serves.follows (Line.split first, 0) (Line.split (first ++ second), 0)
      ⟨Line.split_append complete second, rfl⟩
  obtain ⟨ends, left, written⟩ := onScript_of_runs recording runs
  rw [closes_iff_of_runs recording runs]
  constructor
  · intro answered
    obtain ⟨after', related, runs'⟩ | ⟨_, _, _, _, rfl, ⟨_, rfl, rfl⟩, -⟩ := follows
    · obtain ⟨ends', left', written'⟩ := onScript_of_runs recording runs'
      refine ⟨ends'.trans ends.symm, written'.trans written.symm, ?_⟩
      exact left'.trans (related.1.trans (congrArg (· ++ Line.split second) left.symm))
    · exact absurd rfl answered
  · rintro rfl
    obtain ⟨more, result', after', runs'⟩ : ∃ more result' after',
        Desk.outlet.Runs (session.serve other : Work Unit) (Line.split (first ++ second), 0) result'
          after' (said ++ more) := by
      obtain ⟨after', -, runs'⟩ | ⟨-, result', after', more, -, -, runs'⟩ := follows
      · exact ⟨"", _, _, runs'.said_eq String.append_empty.symm⟩
      · exact ⟨more, _, _, runs'⟩
    obtain ⟨-, -, written'⟩ := onScript_of_runs recording runs'
    refine ⟨ends, session.greeting ++ said, more ++ farewell result', ?_, ?_⟩
    · exact written.trans (congrArg _ (String.append_assoc ..).symm)
    · exact written'.trans (congrArg _ (by simp only [String.append_assoc]))

/-- After the line `4`, with which the operator quits, the line `3` is left unread. A session
without any line closes, and what it says comes first if there is the line `4`. -/
theorem onScript_append_quit :
    let config : Config := { simulator := { seed := some 7 } }
    let conditions : Nat → Conditions := fun _ => ⟨"", ⟨0, 0, by decide⟩, 0, fun _ => 0⟩
    let session := Program.session config
    let ended (script : Bytes) := session.onScript conditions false script none
    (¬ session.Closes conditions false [52, 10] ∧
      (ended [52, 10, 51, 10]).1 = (ended [52, 10]).1 ∧
      (ended [52, 10, 51, 10]).2.console.sink.written = (ended [52, 10]).2.console.sink.written ∧
      (ended [52, 10, 51, 10]).2.console.lines = (ended [52, 10]).2.console.lines ++ [[51, 10]]) ∧
    session.Closes conditions false [] ∧ (ended []).1 = .ok () ∧ ∃ text more : String,
      (ended []).2.console.sink.written = (text ++ "Exiting...\n").toUTF8 ∧
      (ended [52, 10]).2.console.sink.written = (text ++ more).toUTF8 := by
  intro config conditions session ended
  have answered : ¬ session.Closes conditions false [52, 10] := by
    have four : Line.text? [52, 10] = some "4\n" := by decide
    have requested : Interview.Requested .standard (Line.split [52, 10]) .quit [] :=
      .intro ⟨0, .accepted four (by decide)⟩ (.quit _)
    obtain ⟨result, rest, number, said, turn, runs⟩ :=
      exists_turn session Catalog.standard_reliable conditions (Line.split [52, 10]) 0
    cases turn with
    | unread _ unfinished => exact absurd requested (unfinished _ _)
    | quit =>
      rw [closes_iff_of_runs false (runs_serve_of_finished runs)]
      exact nofun
    | help other | analyze other | refuse other | simulate other =>
      cases (requested.unique other).1
  have closes : session.Closes conditions false [] := by
    obtain ⟨result, rest, number, said, turn, runs⟩ :=
      exists_turn session Catalog.standard_reliable conditions (Line.split []) 0
    have nothing {request : Interview.Request} {rest : List Line}
        (requested : Interview.Requested .standard [] request rest) : False := by
      obtain ⟨⟨_, answer⟩, -⟩ := requested
      cases answer
    cases turn with
    | unread failed =>
      cases failed with
      | closed => exact (closes_iff_of_runs false (runs_serve_of_error runs)).2 rfl
      | notText consumed => simp [Line.split] at consumed
    | quit requested | help requested | analyze requested | refuse requested
    | simulate requested => exact (nothing requested).elim
  have alike (run : Nat) : (conditions run).Alike (conditions run) := ⟨rfl, rfl⟩
  exact ⟨⟨answered, (onScript_append config 7 rfl conditions conditions alike false [52, 10]
    [51, 10] (by decide)).1 answered⟩, closes, (onScript_append config 7 rfl conditions conditions
      alike false [] [52, 10] (by decide)).2 closes⟩

end Session

end PreimageSearch
