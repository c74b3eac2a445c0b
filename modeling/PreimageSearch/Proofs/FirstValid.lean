import PreimageSearch.Proofs.Interview

/-!
# The first valid line

A question on a working console is decided by the first line that is not a rejected text.
`FirstValid` says how, for a stream of bytes: such a line is valid and gives the answer, or it is no
text, or there is none and the stream is used up. In each case it says what is left and what was
written, one refusal for each rejected line before. Questions for integers, questions for
hexadecimal numbers and menus all follow this law exactly.
-/

namespace PreimageSearch

/-! ## The lines of a stream -/

namespace Line

/-- A stream of bytes is divided into lines: each one goes on to its first line feed, which belongs
to it, and only the last one may end without. -/
inductive Divides : Bytes → List Line → Prop
  | nil : Divides [] []
  | unfinished {line : Line} (begun : line ≠ []) (unbroken : 0x0A ∉ line) : Divides line [line]
  | finished (body : Bytes) {rest : Bytes} {lines : List Line} (unbroken : 0x0A ∉ body)
    (later : Divides rest lines) : Divides (body ++ 0x0A :: rest) ((body ++ [0x0A]) :: lines)

theorem divides_split (script : Bytes) : Divides script (split script) := by
  induction script with
  | nil => exact .nil
  | cons byte rest ih =>
    rw [split]
    by_cases feed : byte = 0x0A
    · rw [if_pos feed, feed]
      exact .finished [] List.not_mem_nil ih
    rw [if_neg feed]
    generalize split rest = lines at ih
    -- The byte belongs to the line that comes next, if there is one.
    cases ih with
    | nil => exact .unfinished (List.cons_ne_nil _ _) (by simpa using Ne.symm feed)
    | unfinished begun unbroken =>
      exact .unfinished (List.cons_ne_nil _ _) (by simp [Ne.symm feed, unbroken])
    | finished body unbroken later =>
      exact .finished (byte :: body) (by simp [Ne.symm feed, unbroken]) later

theorem split_of_not_mem {line : Line} (begun : line ≠ []) (unbroken : 0x0A ∉ line) :
    split line = [line] := by
  induction line with
  | nil => exact absurd rfl begun
  | cons byte rest ih =>
    obtain ⟨other, later⟩ := List.ne_and_not_mem_of_not_mem_cons unbroken
    rw [split, if_neg other.symm]
    by_cases last : rest = []
    · rw [last]
      rfl
    · rw [ih last later]

theorem split_append_feed {body : Bytes} (unbroken : 0x0A ∉ body) (rest : Bytes) :
    split (body ++ 0x0A :: rest) = (body ++ [0x0A]) :: split rest := by
  induction body with
  | nil => rfl
  | cons byte body ih =>
    obtain ⟨other, later⟩ := List.ne_and_not_mem_of_not_mem_cons unbroken
    rw [List.cons_append, split, if_neg other.symm, ih later]
    rfl

theorem Divides.split_eq {script : Bytes} {lines : List Line} (h : Divides script lines) :
    split script = lines := by
  induction h with
  | nil => rfl
  | unfinished begun unbroken => exact split_of_not_mem begun unbroken
  | finished body unbroken _ ih => rw [split_append_feed unbroken, ih]

end Line

namespace Dialogue

variable {α : Type}

/-! ## Questions -/

/-- What is written by a question that refuses `count` lines. -/
def transcript (prompt : String) (count : Nat) : String :=
  String.join (List.replicate count (question prompt ++ "Invalid input\n")) ++ question prompt

theorem asked_eq_transcript (prompt : String) (count : Nat) :
    asked prompt count = transcript prompt count := by
  induction count with
  | zero => exact String.empty_append.symm
  | succ count ih =>
    rw [asked, ih, transcript, transcript, List.replicate_succ, String.join_cons]
    simp only [String.append_assoc]

/-- The line is a text, but not a valid one. -/
def Rejects (Valid : String → α → Prop) (line : Line) : Prop :=
  ∃ text, line.text? = some text ∧ ∀ answer, ¬ Valid text answer

/-- How a question ends on a stream of bytes, with the lines left and what is written. -/
inductive FirstValid (prompt : String) (Valid : String → α → Prop) (script : Bytes) :
    Except ConsoleError α → List Line → String → Prop
  | valid {rejected rest : List Line} {line : Line} {text : String} {answer : α}
    (lines : Line.Divides script (rejected ++ line :: rest))
    (rejects : ∀ line ∈ rejected, Rejects Valid line)
    (read : line.text? = some text) (valid : Valid text answer) :
    FirstValid prompt Valid script (.ok answer) rest (transcript prompt rejected.length)
  | notText {rejected rest : List Line} {line : Line}
    (lines : Line.Divides script (rejected ++ line :: rest))
    (rejects : ∀ line ∈ rejected, Rejects Valid line) (unread : line.text? = none) :
    FirstValid prompt Valid script (.error .notText) rest (transcript prompt rejected.length)
  | closed {rejected : List Line} (lines : Line.Divides script rejected)
    (rejects : ∀ line ∈ rejected, Rejects Valid line) :
    FirstValid prompt Valid script (.error .closed) [] (transcript prompt rejected.length)

section Law

variable {accept : String → Option α} {Valid : String → α → Prop}

theorem rejects_iff (same : ∀ text answer, accept text = some answer ↔ Valid text answer)
    {line : Line} : Rejects Valid line ↔ ∃ text, line.text? = some text ∧ accept text = none := by
  simp only [Rejects, ← same, ← Option.eq_none_iff_forall_ne_some]

/-- The lines that are refused come first. -/
theorem Hears.exists_rejected {lines rest : List Line} {result : Except ConsoleError α}
    {count : Nat} (same : ∀ text answer, accept text = some answer ↔ Valid text answer)
    (h : Hears accept lines result rest count) :
    ∃ rejected last, lines = rejected ++ last ∧ rejected.length = count ∧
      (∀ line ∈ rejected, Rejects Valid line) ∧ Hears accept last result rest 0 := by
  induction h with
  | closed => exact ⟨[], _, rfl, rfl, nofun, .closed⟩
  | notText unread => exact ⟨[], _, rfl, rfl, nofun, .notText unread⟩
  | accepted read accepts => exact ⟨[], _, rfl, rfl, nofun, .accepted read accepts⟩
  | @refused line _ _ _ _ _ read refuses _ ih =>
    obtain ⟨rejected, last, rfl, rfl, rejects, hears⟩ := ih
    refine ⟨line :: rejected, last, rfl, rfl, ?_, hears⟩
    exact List.forall_mem_cons.2 ⟨(rejects_iff same).2 ⟨_, read, refuses⟩, rejects⟩

theorem hears_append {rejected last rest : List Line} {result : Except ConsoleError α}
    (same : ∀ text answer, accept text = some answer ↔ Valid text answer)
    (rejects : ∀ line ∈ rejected, Rejects Valid line) (h : Hears accept last result rest 0) :
    Hears accept (rejected ++ last) result rest rejected.length := by
  induction rejected with
  | nil => exact h
  | cons line rejected ih =>
    obtain ⟨first, later⟩ := List.forall_mem_cons.1 rejects
    obtain ⟨text, read, refuses⟩ := (rejects_iff same).1 first
    exact .refused read refuses (ih later)

/-- The law says of a stream what is heard on its lines. -/
theorem firstValid_iff_hears (same : ∀ text answer, accept text = some answer ↔ Valid text answer)
    {prompt : String} {script : Bytes} {result : Except ConsoleError α} {rest : List Line}
    {said : String} : FirstValid prompt Valid script result rest said ↔
      ∃ count, Hears accept (Line.split script) result rest count ∧ said = asked prompt count := by
  constructor
  · rintro (⟨lines, rejects, read, valid⟩ | ⟨lines, rejects, unread⟩ | ⟨lines, rejects⟩)
    · rw [lines.split_eq, ← asked_eq_transcript]
      exact ⟨_, hears_append same rejects (.accepted read ((same _ _).2 valid)), rfl⟩
    · rw [lines.split_eq, ← asked_eq_transcript]
      exact ⟨_, hears_append same rejects (.notText unread), rfl⟩
    · rw [lines.split_eq, ← asked_eq_transcript]
      have hears := hears_append same rejects .closed
      rw [List.append_nil] at hears
      exact ⟨_, hears, rfl⟩
  · rintro ⟨count, hears, rfl⟩
    obtain ⟨rejected, last, split, rfl, rejects, hears⟩ := hears.exists_rejected same
    have lines := Line.divides_split script
    rw [split] at lines
    rw [asked_eq_transcript]
    cases hears with
    | closed => exact .closed (by rwa [List.append_nil] at lines) rejects
    | notText unread => exact .notText lines rejects unread
    | accepted read accepts => exact .valid lines rejects read ((same _ _).1 accepts)

theorem exists_firstValid (same : ∀ text answer, accept text = some answer ↔ Valid text answer)
    (prompt : String) (script : Bytes) :
    ∃ result rest said, FirstValid prompt Valid script result rest said := by
  obtain ⟨result, rest, count, hears⟩ := exists_hears accept (Line.split script)
  exact ⟨_, _, _, (firstValid_iff_hears same).2 ⟨count, hears, rfl⟩⟩

theorem FirstValid.runs {prompt : String} {script : Bytes} {result : Except ConsoleError α}
    {rest : List Line} {said : String} (h : FirstValid prompt Valid script result rest said)
    (same : ∀ text answer, accept text = some answer ↔ Valid text answer) :
    Console.outlet.Runs (ask prompt accept) (Line.split script) result rest said := by
  obtain ⟨count, hears, rfl⟩ := (firstValid_iff_hears same).1 h
  exact runs_ask hears prompt

end Law

/-- A dialogue that runs by a law ends by this law and no other way. -/
theorem eq_iff_of_runs {dialogue : Dialogue ConsoleError α} {lines : List Line}
    {Law : Except ConsoleError α → List Line → String → Prop}
    (total : ∃ result rest said, Law result rest said)
    (runs : ∀ result rest said, Law result rest said →
      Console.outlet.Runs dialogue lines result rest said)
    (written : ByteArray) (result : Except ConsoleError α) (rest : List Line) (said : String) :
    dialogue ⟨lines, ⟨written, none⟩⟩ = (result, ⟨rest, ⟨written ++ said.toUTF8, none⟩⟩) ↔
      Law result rest said := by
  constructor
  · intro ends
    obtain ⟨result', rest', said', law⟩ := total
    rw [eq_of_runs (runs _ _ _ law)] at ends
    obtain ⟨rfl, after⟩ := Prod.mk.inj ends
    injection after with left sink
    injection sink with same
    subst left
    rwa [String.toByteArray_inj.1 ((ByteArray.append_right_inj written).1 same)] at law
  · intro law
    exact eq_of_runs (runs _ _ _ law) written

theorem ask_eq_iff {accept : String → Option α} {Valid : String → α → Prop}
    (same : ∀ text answer, accept text = some answer ↔ Valid text answer) (prompt : String)
    (script : Bytes) (written : ByteArray) (result : Except ConsoleError α) (rest : List Line)
    (said : String) : ask prompt accept ⟨Line.split script, ⟨written, none⟩⟩ =
      (result, ⟨rest, ⟨written ++ said.toUTF8, none⟩⟩) ↔
        FirstValid prompt Valid script result rest said :=
  eq_iff_of_runs (exists_firstValid same prompt script) (fun _ _ _ law => law.runs same) written
    result rest said

/-! ## Menus -/

/-- The text is the position of the option in the list, the first being 1. -/
def Positioned (options : List α) (text : String) (option : α) : Prop :=
  ∃ index : Fin options.length, Integer.read? (.unsigned 64) text = some (index.val + 1) ∧
    options.get index = option

theorem optionAt_eq_some_iff (options : List α) (text : String) (option : α) :
    Interview.optionAt options text = some option ↔ Positioned options text option := by
  constructor
  · intro h
    unfold Interview.optionAt at h
    split at h
    · next position read =>
      obtain ⟨inside, same⟩ := List.getElem?_eq_some_iff.1 h
      exact ⟨⟨position, inside⟩, read, same⟩
    · cases h
  · rintro ⟨⟨position, inside⟩, read, same⟩
    have read' : Integer.read? (.unsigned 64) text = some (.ofNat (position + 1)) := read
    rw [Interview.optionAt, read']
    exact List.getElem?_eq_some_iff.2 ⟨inside, same⟩

/-- How a menu ends on a stream of bytes: as a question for a position, and the option there is
echoed. -/
inductive Chosen (prompt : String) (label : α → String) (options : List α) (script : Bytes) :
    Except ConsoleError α → List Line → String → Prop
  | option {option : α} {rest : List Line} {said : String}
    (law : FirstValid (menu prompt (options.map label)) (Positioned options) script (.ok option)
      rest said) :
    Chosen prompt label options script (.ok option) rest (said ++ (label option ++ "\n"))
  | failed {error : ConsoleError} {rest : List Line} {said : String}
    (law : FirstValid (menu prompt (options.map label)) (Positioned options) script (.error error)
      rest said) :
    Chosen prompt label options script (.error error) rest said

theorem choose_eq_iff {options : List α} (some_option : options ≠ []) (prompt : String)
    (label : α → String) (script : Bytes) (written : ByteArray) (result : Except ConsoleError α)
    (rest : List Line) (said : String) :
    choose prompt label options ⟨Line.split script, ⟨written, none⟩⟩ =
      (result, ⟨rest, ⟨written ++ said.toUTF8, none⟩⟩) ↔
        Chosen prompt label options script result rest said := by
  have same := optionAt_eq_some_iff options
  refine eq_iff_of_runs ?_ (fun result rest said law => ?_) written result rest said
  · obtain ⟨result, rest, said, law⟩ :=
      exists_firstValid same (menu prompt (options.map label)) script
    cases result with
    | ok option => exact ⟨_, _, _, .option law⟩
    | error error => exact ⟨_, _, _, .failed law⟩
  · cases law with
    | option law =>
      obtain ⟨count, hears, rfl⟩ := (firstValid_iff_hears same).1 law
      exact Interview.runs_choose hears prompt label
    | failed law =>
      rw [Interview.choose_eq some_option]
      exact (law.runs same).bind_error _

/-- Questions return the first valid line and nothing else. For every stream of bytes, on a sink
without a limit, a question for an integer ends exactly as `FirstValid` says for the texts that read
as an integer in the range, and a question for a hexadecimal number as it says for the texts that
read as a number up to the greatest. A menu of some options ends so for the positions of the
options, so that none outside the list is looked up, and echoes the one chosen; a menu without
options fails, and nothing is read or written. -/
theorem questions_first_valid (kind : IntegerKind) (range : Integer.Range) (greatest : Nat)
    (label : α → String) (options : List α) (prompt : String) (script : Bytes)
    (written : ByteArray) :
    let console : Console := ⟨Line.split script, ⟨written, none⟩⟩
    let after (rest : List Line) (said : String) : Console :=
      ⟨rest, ⟨written ++ said.toUTF8, none⟩⟩
    (∀ result rest said, askInteger kind prompt range console = (result, after rest said) ↔
      FirstValid prompt (fun text n => Integer.read? kind text = some n ∧ range.contains n = true)
        script result rest said) ∧
    (∀ result rest said, askHex prompt greatest console = (result, after rest said) ↔
      FirstValid prompt (fun text n => Hex.read? (withoutLineEnd text) = some n ∧ n ≤ greatest)
        script result rest said) ∧
    (options ≠ [] → ∀ result rest said,
      choose prompt label options console = (result, after rest said) ↔
        Chosen prompt label options script result rest said) ∧
    (options = [] → ∀ console : Console,
      choose prompt label options console = (.error .noOptions, console)) := by
  intro console after
  refine ⟨ask_eq_iff ?_ prompt script written, ask_eq_iff ?_ prompt script written,
    fun some_option => choose_eq_iff some_option prompt label script written, ?_⟩
  · intro text n
    exact Option.filter_eq_some_iff
  · intro text n
    rw [Option.filter_eq_some_iff, decide_eq_true_iff]
  · rintro rfl console
    rfl

/-- The lines `3` and `2` and the unfinished line `x` before a menu of two options: the first is
rejected, the second chooses `b`, and the last is left. -/
theorem questions_first_valid_retry :
    let console : Console := ⟨Line.split [51, 10, 50, 10, 120], ⟨ByteArray.empty, none⟩⟩
    let said := "\nPick:\n [1] a\n [2] b\n> Invalid input\n" ++
      "\nPick:\n [1] a\n [2] b\n> b\n"
    choose "Pick:" id ["a", "b"] console =
      (.ok "b", ⟨[[120]], ⟨ByteArray.empty ++ said.toUTF8, none⟩⟩) ∧
    choose "Pick:" id [] console = (.error .noOptions, console) := by
  intro console said
  have lines : Line.Divides [51, 10, 50, 10, 120] ([[51, 10]] ++ [50, 10] :: [[120]]) :=
    .finished [51] (by decide)
      (.finished [50] (by decide) (.unfinished (by decide) (by decide)))
  have rejects : ∀ line ∈ [[51, 10]], Rejects (Positioned ["a", "b"]) line := by
    rintro line (_ | ⟨_, ⟨⟩⟩)
    exact (rejects_iff (optionAt_eq_some_iff _)).2 ⟨"3\n", by decide, by decide⟩
  have valid : Positioned ["a", "b"] "2\n" "b" := (optionAt_eq_some_iff _ _ _).1 (by decide)
  have law : Chosen "Pick:" id ["a", "b"] [51, 10, 50, 10, 120] (.ok "b") [[120]] said :=
    .option (.valid lines rejects (by decide) valid)
  obtain ⟨-, -, chosen, -⟩ := questions_first_valid (.unsigned 8) (.closed 0 0) 0 id ["a", "b"]
    "Pick:" [51, 10, 50, 10, 120] ByteArray.empty
  obtain ⟨-, -, -, refused⟩ := questions_first_valid (.unsigned 8) (.closed 0 0) 0 id []
    "Pick:" [51, 10, 50, 10, 120] ByteArray.empty
  exact ⟨(chosen (by decide) _ _ _).2 law, refused rfl console⟩

end Dialogue

end PreimageSearch
