import PreimageSearch.Session

/-!
# What is said

`Outlet.Runs work before result after said` is the judgement by which everything on the console is
followed: from any state that looks like `before`, `work` ends with `result` in a state that looks
like `after`, and has written `said`. If the sink does not take all of `said`, it has taken what
fits and the work has failed with that write.

A question is followed by `Hears`, which says what a list of lines answers, what it leaves and how
many lines are refused on the way.
-/

namespace PreimageSearch

theorem toUTF8_append (first second : String) :
    (first ++ second).toUTF8 = first.toUTF8 ++ second.toUTF8 :=
  String.toByteArray_append

namespace Sink

theorem write_of_fits {written : ByteArray} {room : Nat} {text : String}
    (h : text.toUTF8.size ≤ room) : (⟨written, some room⟩ : Sink).write text =
      (true, ⟨written ++ text.toUTF8, some (room - text.toUTF8.size)⟩) :=
  if_pos h

theorem write_of_not_fits {written : ByteArray} {room : Nat} {text : String}
    (h : ¬ text.toUTF8.size ≤ room) : (⟨written, some room⟩ : Sink).write text =
      (false, ⟨written ++ text.toUTF8.extract 0 room, some 0⟩) :=
  if_neg h

/-- Two texts are written like one, and the second is not begun if the first does not fit. -/
theorem write_append (sink : Sink) (first second : String) :
    sink.write (first ++ second) =
      if (sink.write first).1 then (sink.write first).2.write second else sink.write first := by
  rcases sink with ⟨written, _ | room⟩
  · simp [write, ByteArray.append_assoc]
  have joined := toUTF8_append first second
  have total : (first ++ second).toUTF8.size = first.toUTF8.size + second.toUTF8.size := by
    rw [joined, ByteArray.size_append]
  by_cases h₁ : first.toUTF8.size ≤ room
  · rw [write_of_fits h₁, if_pos rfl]
    by_cases h₂ : second.toUTF8.size ≤ room - first.toUTF8.size
    · rw [write_of_fits h₂, write_of_fits (by omega), total, joined, ByteArray.append_assoc,
        Nat.sub_sub]
    · have whole : first.toUTF8.extract 0 room = first.toUTF8 := by
        rw [← Nat.max_eq_left h₁, ByteArray.extract_zero_max_size]
      rw [write_of_not_fits h₂, write_of_not_fits (by omega), joined, ByteArray.extract_append,
        whole, Nat.zero_sub, ByteArray.append_assoc]
  · have none : second.toUTF8.extract 0 (room - first.toUTF8.size) = ByteArray.empty := by
      rw [Nat.sub_eq_zero_of_le (by omega), ByteArray.extract_same]
    rw [write_of_not_fits h₁, if_neg (by simp), write_of_not_fits (by omega), joined,
      ByteArray.extract_append, Nat.zero_sub, none, ByteArray.append_empty]

theorem write_empty (sink : Sink) : sink.write "" = (true, sink) := by
  rcases sink with ⟨written, _ | room⟩ <;> simp [write]

theorem written_of_write {sink after : Sink} {text : String}
    (h : sink.write text = (true, after)) : after.written = sink.written ++ text.toUTF8 := by
  rcases sink with ⟨written, _ | room⟩
  · exact congrArg (fun result => result.2.written) h.symm
  by_cases fits : text.toUTF8.size ≤ room
  · rw [write_of_fits fits] at h
    exact congrArg (fun result => result.2.written) h.symm
  · rw [write_of_not_fits fits] at h
    cases h

/-- A write that fails has met a limit and used it up. -/
theorem room_of_not_written {sink : Sink} {text : String} (h : ¬ (sink.write text).1 = true) :
    ∃ room, sink.room = some room ∧ (sink.write text).2.room = some 0 := by
  rcases sink with ⟨written, _ | room⟩
  · exact absurd rfl h
  by_cases fits : text.toUTF8.size ≤ room
  · rw [write_of_fits fits] at h
    exact absurd rfl h
  · rw [write_of_not_fits fits]
    exact ⟨room, rfl, rfl⟩

end Sink

/-- How the state of a conversation is looked at: what counts of it, where the output goes, and the
error of a write that fails. -/
structure Outlet (σ ε υ : Type) where
  view : σ → υ
  sink : σ → Sink
  cut : ε

namespace Outlet

variable {σ ε υ α β : Type} {outlet : Outlet σ ε υ}

/-- From any state that looks like `before`, the work ends with `result`, looks like `after` and has
written `said`, as far as the sink takes it. -/
def Runs (outlet : Outlet σ ε υ) (work : ExceptT ε (StateM σ) α) (before : υ)
    (result : Except ε α) (after : υ) (said : String) : Prop :=
  ∀ state, outlet.view state = before →
    outlet.sink (work state).2 = ((outlet.sink state).write said).2 ∧
    if ((outlet.sink state).write said).1 then
      (work state).1 = result ∧ outlet.view (work state).2 = after
    else (work state).1 = .error outlet.cut

/-! ## Rules for `Runs` -/

theorem Runs.of_state {work : ExceptT ε (StateM σ) α} {before after : υ} {result : Except ε α}
    (h : ∀ state, outlet.view state = before → (work state).1 = result ∧
      outlet.view (work state).2 = after ∧ outlet.sink (work state).2 = outlet.sink state) :
    outlet.Runs work before result after "" := by
  intro state looks
  obtain ⟨ends, view, sink⟩ := h state looks
  rw [Sink.write_empty, if_pos rfl]
  exact ⟨sink, ends, view⟩

theorem runs_pure (a : α) (view : υ) :
    outlet.Runs (pure a : ExceptT ε (StateM σ) α) view (.ok a) view "" :=
  .of_state fun _ looks => ⟨rfl, looks, rfl⟩

theorem runs_throw (e : ε) (view : υ) :
    outlet.Runs (throw e : ExceptT ε (StateM σ) α) view (.error e) view "" :=
  .of_state fun _ looks => ⟨rfl, looks, rfl⟩

theorem bind_of_ok {work : ExceptT ε (StateM σ) α} {next : α → ExceptT ε (StateM σ) β} {state : σ}
    {a : α} (h : (work state).1 = .ok a) : (work >>= next) state = next a (work state).2 := by
  change (ExceptT.bindCont next (work state).1 : StateM σ (Except ε β)) (work state).2 = _
  rw [h]
  rfl

theorem bind_of_error {work : ExceptT ε (StateM σ) α} {next : α → ExceptT ε (StateM σ) β}
    {state : σ} {e : ε} (h : (work state).1 = .error e) :
    (work >>= next) state = (.error e, (work state).2) := by
  change (ExceptT.bindCont next (work state).1 : StateM σ (Except ε β)) (work state).2 = _
  rw [h]
  rfl

theorem Runs.bind {work : ExceptT ε (StateM σ) α} {next : α → ExceptT ε (StateM σ) β}
    {before middle after : υ} {a : α} {result : Except ε β} {said more : String}
    (first : outlet.Runs work before (.ok a) middle said)
    (second : outlet.Runs (next a) middle result after more) :
    outlet.Runs (work >>= next) before result after (said ++ more) := by
  intro state looks
  obtain ⟨sink, ends⟩ := first state looks
  rw [Sink.write_append]
  by_cases fits : ((outlet.sink state).write said).1 = true
  · rw [if_pos fits] at ends ⊢
    rw [bind_of_ok ends.1, ← sink]
    exact second (work state).2 ends.2
  · rw [if_neg fits] at ends ⊢
    rw [bind_of_error ends, if_neg fits]
    exact ⟨sink, rfl⟩

theorem Runs.bind_error {work : ExceptT ε (StateM σ) α} {before after : υ} {e : ε} {said : String}
    (h : outlet.Runs work before (.error e) after said) (next : α → ExceptT ε (StateM σ) β) :
    outlet.Runs (work >>= next) before (.error e) after said := by
  intro state looks
  obtain ⟨sink, ends⟩ := h state looks
  by_cases fits : ((outlet.sink state).write said).1 = true
  · rw [if_pos fits] at ends ⊢
    rw [bind_of_error ends.1]
    exact ⟨sink, rfl, ends.2⟩
  · rw [if_neg fits] at ends ⊢
    rw [bind_of_error ends]
    exact ⟨sink, rfl⟩

theorem Runs.said_eq {work : ExceptT ε (StateM σ) α} {before after : υ} {result : Except ε α}
    {said other : String} (h : outlet.Runs work before result after said) (same : said = other) :
    outlet.Runs work before result after other :=
  same ▸ h

/-- A run that succeeds is the one of the judgement, and all was written. -/
theorem Runs.of_ok {work : ExceptT ε (StateM σ) α} {before after : υ} {result : Except ε α}
    {said : String} (h : outlet.Runs work before result after said) {state last : σ} {a : α}
    (looks : outlet.view state = before) (run : work state = (.ok a, last)) :
    result = .ok a ∧ outlet.view last = after ∧
      (outlet.sink state).write said = (true, outlet.sink last) := by
  obtain ⟨sink, ends⟩ := h state looks
  rw [run] at sink ends
  by_cases fits : ((outlet.sink state).write said).1 = true
  · rw [if_pos fits] at ends
    exact ⟨ends.1.symm, ends.2, Prod.ext fits sink.symm⟩
  · rw [if_neg fits] at ends
    cases ends

/-- A run is the one of the judgement, or a write has failed and used up the limit. -/
theorem Runs.ends_or_full {work : ExceptT ε (StateM σ) α} {before after : υ} {result : Except ε α}
    {said : String} (h : outlet.Runs work before result after said) (state : σ)
    (looks : outlet.view state = before) :
    ((work state).1 = result ∧ outlet.view (work state).2 = after) ∨
      (work state).1 = .error outlet.cut ∧ ∃ room, (outlet.sink state).room = some room ∧
        (outlet.sink (work state).2).room = some 0 := by
  obtain ⟨sink, ends⟩ := h state looks
  by_cases fits : ((outlet.sink state).write said).1 = true
  · rw [if_pos fits] at ends
    exact .inl ends
  · rw [if_neg fits] at ends
    rw [sink]
    exact .inr ⟨ends, Sink.room_of_not_written fits⟩

/-- On a sink without a limit the run is the one of the judgement. -/
theorem Runs.unlimited {work : ExceptT ε (StateM σ) α} {before after : υ} {result : Except ε α}
    {said : String} (h : outlet.Runs work before result after said) (state : σ)
    {written : ByteArray} (looks : outlet.view state = before)
    (sink : outlet.sink state = ⟨written, none⟩) :
    (work state).1 = result ∧ outlet.view (work state).2 = after ∧
      outlet.sink (work state).2 = ⟨written ++ said.toUTF8, none⟩ := by
  obtain ⟨kept, ends⟩ := h state looks
  rw [sink] at kept ends
  rw [if_pos (by rfl)] at ends
  exact ⟨ends.1, ends.2, kept⟩

end Outlet

/-! ## Dialogues -/

namespace Console

/-- Of a console the lines left count. -/
def outlet : Outlet Console ConsoleError (List Line) :=
  ⟨Console.lines, Console.sink, .writeLimit⟩

/-- The console as part of a session. -/
def sessionOutlet : Outlet Console SessionError (List Line) :=
  ⟨Console.lines, Console.sink, .console .writeLimit⟩

end Console

namespace Dialogue

variable {α : Type}

theorem runs_say (text : String) (lines : List Line) :
    Console.outlet.Runs (say text) lines (.ok ()) lines text := by
  rintro ⟨_, sink⟩ rfl
  change _ = (sink.write text).2 ∧ if (sink.write text).1 = true then _ else _
  unfold say
  rcases hw : sink.write text with ⟨_ | _, after⟩
  · simp [Console.outlet]
  · simp [Console.outlet]

/-- On a sink without a limit a dialogue ends as it runs, and all that it says is written. -/
theorem eq_of_runs {dialogue : Dialogue ConsoleError α} {lines rest : List Line}
    {result : Except ConsoleError α} {said : String}
    (h : Console.outlet.Runs dialogue lines result rest said) (written : ByteArray) :
    dialogue ⟨lines, ⟨written, none⟩⟩ = (result, ⟨rest, ⟨written ++ said.toUTF8, none⟩⟩) := by
  obtain ⟨ends, left, sink⟩ := h.unlimited ⟨lines, ⟨written, none⟩⟩ rfl rfl
  rcases run : dialogue ⟨lines, ⟨written, none⟩⟩ with ⟨ended, after⟩
  rw [run] at ends left sink
  cases after
  cases ends
  cases left
  cases sink
  rfl

/-- What lines answer to a question: the result, the lines left and the number of refused lines. -/
inductive Hears (accept : String → Option α) :
    List Line → Except ConsoleError α → List Line → Nat → Prop
  | closed : Hears accept [] (.error .closed) [] 0
  | notText {line : Line} {rest : List Line} (unread : line.text? = none) :
    Hears accept (line :: rest) (.error .notText) rest 0
  | accepted {line : Line} {rest : List Line} {text : String} {answer : α}
    (read : line.text? = some text) (accepts : accept text = some answer) :
    Hears accept (line :: rest) (.ok answer) rest 0
  | refused {line : Line} {lines rest : List Line} {text : String} {result : Except ConsoleError α}
    {count : Nat} (read : line.text? = some text) (refuses : accept text = none)
    (later : Hears accept lines result rest count) :
    Hears accept (line :: lines) result rest (count + 1)

/-- What is said while a question is asked and `count` lines are refused. -/
def asked (prompt : String) : (count : Nat) → String
  | 0 => question prompt
  | count + 1 => question prompt ++ ("Invalid input\n" ++ asked prompt count)

theorem exists_hears (accept : String → Option α) (lines : List Line) :
    ∃ result rest count, Hears accept lines result rest count := by
  induction lines with
  | nil => exact ⟨_, _, _, .closed⟩
  | cons line lines ih =>
    rcases hr : line.text? with _ | text
    · exact ⟨_, _, _, .notText hr⟩
    rcases ha : accept text with _ | answer
    · obtain ⟨result, rest, count, later⟩ := ih
      exact ⟨_, _, _, .refused hr ha later⟩
    · exact ⟨_, _, _, .accepted hr ha⟩

theorem Hears.unique {accept : String → Option α} {lines rest rest' : List Line}
    {result result' : Except ConsoleError α} {count count' : Nat}
    (h : Hears accept lines result rest count) (h' : Hears accept lines result' rest' count') :
    result = result' ∧ rest = rest' := by
  induction h generalizing count' with
  | closed =>
    cases h'
    exact ⟨rfl, rfl⟩
  | notText unread =>
    cases h' <;> simp_all
  | accepted read accepts =>
    cases h' <;> simp_all
  | refused read refuses later ih =>
    cases h' with
    | notText unread => simp_all
    | accepted read' accepts' => simp_all
    | refused read' refuses' later' => exact ih later'

theorem runs_ask {accept : String → Option α} {lines rest : List Line}
    {result : Except ConsoleError α} {count : Nat} (h : Hears accept lines result rest count)
    (prompt : String) :
    Console.outlet.Runs (ask prompt accept) lines result rest (asked prompt count) := by
  rintro ⟨held, sink⟩ looks
  obtain rfl : held = lines := looks
  change (askLines prompt accept held sink).2.sink = (sink.write _).2 ∧
    if (sink.write _).1 = true then
      (askLines prompt accept held sink).1 = result ∧
        (askLines prompt accept held sink).2.lines = rest
    else (askLines prompt accept held sink).1 = .error .writeLimit
  induction h generalizing sink with
  | closed =>
    rw [askLines, asked]
    rcases hw : sink.write (question prompt) with ⟨_ | _, after⟩ <;> simp
  | notText unread =>
    rw [askLines, asked]
    rcases hw : sink.write (question prompt) with ⟨_ | _, after⟩ <;> simp [unread]
  | accepted read accepts =>
    rw [askLines, asked]
    rcases hw : sink.write (question prompt) with ⟨_ | _, after⟩ <;> simp [read, accepts]
  | refused read refuses later ih =>
    rw [askLines, asked, Sink.write_append]
    rcases hw : sink.write (question prompt) with ⟨_ | _, after⟩
    · simp
    · rw [if_pos rfl, Sink.write_append]
      rcases hi : after.write "Invalid input\n" with ⟨_ | _, again⟩
      · simp [read, refuses, hi]
      · simpa [read, refuses, hi] using ih again

end Dialogue

namespace Interview

theorem runs_lift {α : Type} {dialogue : Dialogue ConsoleError α} {lines rest : List Line}
    {result : Except ConsoleError α} {said : String}
    (h : Console.outlet.Runs dialogue lines result rest said) :
    Console.sessionOutlet.Runs (liftM dialogue : Dialogue SessionError α) lines
      (result.mapError SessionError.console) rest said := by
  intro console looks
  obtain ⟨sink, ends⟩ := h console looks
  refine ⟨sink, ?_⟩
  change if ((Console.outlet.sink console).write said).1 = true then
    (dialogue console).1.mapError SessionError.console = _ ∧ _
    else (dialogue console).1.mapError SessionError.console = _
  by_cases fits : ((Console.outlet.sink console).write said).1 = true
  · rw [if_pos fits] at ends ⊢
    rw [ends.1]
    exact ⟨rfl, ends.2⟩
  · rw [if_neg fits] at ends ⊢
    rw [ends]
    rfl

end Interview

/-! ## Sessions -/

/-- Of a desk the lines left and the number of runs begun count. -/
def Desk.outlet : Outlet Desk SessionError (List Line × Nat) :=
  ⟨fun desk => (desk.console.lines, desk.runs), fun desk => desk.console.sink,
    .console .writeLimit⟩

namespace Session

theorem runs_converse {α : Type} {dialogue : Dialogue SessionError α} {lines rest : List Line}
    {result : Except SessionError α} {said : String}
    (h : Console.sessionOutlet.Runs dialogue lines result rest said) (runs : Nat) :
    Desk.outlet.Runs (converse dialogue) (lines, runs) result (rest, runs) said := by
  intro desk looks
  obtain ⟨rfl, rfl⟩ := Prod.mk.inj looks
  obtain ⟨sink, ends⟩ := h desk.console rfl
  refine ⟨sink, ?_⟩
  change if (desk.console.sink.write said).1 = true then _ else _ at ends
  change if (desk.console.sink.write said).1 = true then
    (dialogue desk.console).1 = _ ∧ ((dialogue desk.console).2.lines, desk.runs) = _
    else (dialogue desk.console).1 = _
  by_cases fits : (desk.console.sink.write said).1 = true
  · rw [if_pos fits] at ends ⊢
    exact ⟨ends.1, Prod.ext ends.2 rfl⟩
  · rw [if_neg fits] at ends ⊢
    exact ends

theorem runs_say (text : String) (view : List Line × Nat) :
    Desk.outlet.Runs (say text) view (.ok ()) view text :=
  runs_converse (Interview.runs_lift (Dialogue.runs_say text view.1)) view.2

theorem runs_keep (events : Unit → List Journal.Event) (view : List Line × Nat) :
    Desk.outlet.Runs (keep events) view (.ok ()) view "" := by
  refine .of_state fun desk looks => ⟨rfl, ?_, ?_⟩
  · rw [← looks]
    unfold keep
    split <;> rfl
  · unfold keep
    split <;> rfl

theorem runs_beginRun (conditions : Nat → Conditions) (lines : List Line) (runs : Nat) :
    Desk.outlet.Runs (beginRun conditions) (lines, runs) (.ok (conditions runs)) (lines, runs + 1)
      "" := by
  refine .of_state fun desk looks => ?_
  obtain ⟨rfl, rfl⟩ := Prod.mk.inj looks
  exact ⟨rfl, rfl, rfl⟩

end Session

end PreimageSearch
