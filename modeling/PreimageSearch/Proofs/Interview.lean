import PreimageSearch.Proofs.Catalog
import PreimageSearch.Proofs.Entries

/-!
# The interview

`Conveys dialogue answers` says all that a conversation can do: it succeeds with an answer that the
lines give (`answers`), or it fails at a prompt because the lines end or one of them is no text. The
bounds of the questions imply those of the constructors, so the interview of a search has no other
failures (`conveys_search`).
-/

namespace PreimageSearch

namespace Interview

open Dialogue

/-- The reader's own failures: the lines are used up, or the last one taken is no text. -/
inductive Unread : List Line → ConsoleError → List Line → Prop
  | closed (lines : List Line) : Unread lines .closed []
  | notText {lines taken rest : List Line} {line : Line} (consumed : lines = taken ++ line :: rest)
    (unread : line.text? = none) : Unread lines .notText rest

theorem Unread.of_suffix {lines whole rest : List Line} {error : ConsoleError}
    (h : Unread lines error rest) (suffix : lines <:+ whole) : Unread whole error rest := by
  cases h with
  | closed => exact .closed whole
  | notText consumed unread =>
    obtain ⟨before, rfl⟩ := suffix
    exact .notText (by rw [consumed, ← List.append_assoc]) unread

section Conveys

variable {ε α β : Type} {outlet : Outlet Console ε (List Line)} {embed : ConsoleError → ε}

/-- On these lines the dialogue succeeds with one of the `answers`, which come with the lines left,
or fails at a prompt because of the lines; what it says shows no result. -/
def Conveys (outlet : Outlet Console ε (List Line)) (embed : ConsoleError → ε)
    (dialogue : Dialogue ε α) (lines : List Line) (answers : α → List Line → Prop) : Prop :=
  ∃ said, Unmarked said ∧
    ((∃ answer rest, answers answer rest ∧ rest <:+ lines ∧
        outlet.Runs dialogue lines (.ok answer) rest said) ∨
      ∃ error rest opening, Unread lines error rest ∧ said = opening ++ "> " ∧
        outlet.Runs dialogue lines (.error (embed error)) rest said)

/-! ## Rules for `Conveys` -/

theorem conveys_pure {a : α} {lines : List Line} {answers : α → List Line → Prop}
    (h : answers a lines) : Conveys outlet embed (pure a) lines answers :=
  ⟨"", by decide, .inl ⟨a, lines, h, List.suffix_rfl, Outlet.runs_pure a lines⟩⟩

theorem Conveys.mono {dialogue : Dialogue ε α} {lines : List Line}
    {answers more : α → List Line → Prop} (h : Conveys outlet embed dialogue lines answers)
    (weaker : ∀ answer rest, answers answer rest → more answer rest) :
    Conveys outlet embed dialogue lines more := by
  obtain ⟨said, unmarked, ⟨answer, rest, given, ends⟩ | failed⟩ := h
  · exact ⟨said, unmarked, .inl ⟨answer, rest, weaker _ _ given, ends⟩⟩
  · exact ⟨said, unmarked, .inr failed⟩

theorem Conveys.bind {dialogue : Dialogue ε α} {next : α → Dialogue ε β} {lines : List Line}
    {answers : α → List Line → Prop} {more : β → List Line → Prop}
    (first : Conveys outlet embed dialogue lines answers)
    (second : ∀ a middle, answers a middle → Conveys outlet embed (next a) middle more) :
    Conveys outlet embed (dialogue >>= next) lines more := by
  obtain ⟨said, unmarked, ⟨a, middle, given, suffix, ends⟩ |
    ⟨error, rest, opening, unread, prompted, ends⟩⟩ := first
  · obtain ⟨later, unmarked', ⟨answer, rest, given', suffix', ends'⟩ |
      ⟨error, rest, opening, unread, prompted, ends'⟩⟩ := second a middle given
    · exact ⟨said ++ later, unmarked.append unmarked', .inl ⟨answer, rest, given',
        suffix'.trans suffix, ends.bind ends'⟩⟩
    · refine ⟨said ++ later, unmarked.append unmarked', .inr ⟨error, rest, said ++ opening,
        unread.of_suffix suffix, ?_, ends.bind ends'⟩⟩
      rw [prompted, String.append_assoc]
  · exact ⟨said, unmarked, .inr ⟨error, rest, opening, unread, prompted, ends.bind_error next⟩⟩

end Conveys

/-! ## Questions -/

section Questions

variable {α β γ : Type}

theorem unmarked_asked {prompt : String} (h : Unmarked prompt) (count : Nat) :
    Unmarked (asked prompt count) := by
  induction count with
  | zero => exact h.question
  | succ count ih => exact h.question.append (Unmarked.append (by decide) ih)

theorem asked_prompted (prompt : String) (count : Nat) :
    ∃ opening, asked prompt count = opening ++ "> " := by
  induction count with
  | zero => exact ⟨"\n" ++ (prompt ++ "\n"), by
      simp [asked, question, String.append_assoc]⟩
  | succ count ih =>
    obtain ⟨opening, ho⟩ := ih
    exact ⟨question prompt ++ ("Invalid input\n" ++ opening), by
      rw [asked, ho]; simp only [String.append_assoc]⟩

theorem reads_of_hears {accept : String → Option α} {lines rest : List Line}
    {result : Except ConsoleError α} {count : Nat} (h : Hears accept lines result rest count) :
    (∃ answer, result = .ok answer ∧ rest <:+ lines) ∨
      ∃ error, result = .error error ∧ Unread lines error rest := by
  induction h with
  | closed => exact .inr ⟨_, rfl, .closed _⟩
  | notText unread => exact .inr ⟨_, rfl, .notText (List.nil_append _).symm unread⟩
  | accepted => exact .inl ⟨_, rfl, List.suffix_cons _ _⟩
  | refused _ _ _ ih =>
    obtain ⟨answer, ends, suffix⟩ | ⟨error, ends, unread⟩ := ih
    · exact .inl ⟨answer, ends, suffix.trans (List.suffix_cons _ _)⟩
    · exact .inr ⟨error, ends, unread.of_suffix (List.suffix_cons _ _)⟩

theorem conveys_ask {prompt : String} (h : Unmarked prompt) (accept : String → Option α)
    (lines : List Line) :
    Conveys Console.outlet id (ask prompt accept) lines (Answers accept lines) := by
  obtain ⟨result, rest, count, hears⟩ := exists_hears accept lines
  refine ⟨asked prompt count, unmarked_asked h count, ?_⟩
  obtain ⟨answer, rfl, suffix⟩ | ⟨error, rfl, unread⟩ := reads_of_hears hears
  · exact .inl ⟨answer, rest, ⟨count, hears⟩, suffix, runs_ask hears prompt⟩
  · obtain ⟨opening, prompted⟩ := asked_prompted prompt count
    exact .inr ⟨error, rest, opening, unread, prompted, runs_ask hears prompt⟩

theorem conveys_say {text : String} (h : Unmarked text) (lines : List Line) :
    Conveys Console.outlet id (Dialogue.say text) lines (fun _ rest => rest = lines) :=
  ⟨text, h, .inl ⟨(), lines, rfl, List.suffix_rfl, runs_say text lines⟩⟩

theorem askLines_map (f : α → β) (prompt : String) (accept : String → Option α)
    (lines : List Line) (sink : Sink) :
    askLines prompt (fun line => (accept line).map f) lines sink =
      ((askLines prompt accept lines sink).1.map f, (askLines prompt accept lines sink).2) := by
  induction lines generalizing sink with
  | nil =>
    rw [askLines, askLines]
    rcases sink.write (question prompt) with ⟨_ | _, after⟩ <;> rfl
  | cons line lines ih =>
    rw [askLines, askLines]
    rcases sink.write (question prompt) with ⟨_ | _, after⟩
    · rfl
    rcases line.text? with _ | text
    · rfl
    rcases ha : accept text with _ | answer
    · simp only [ha, Option.map_none]
      rcases after.write "Invalid input\n" with ⟨_ | _, again⟩
      · rfl
      · exact ih again
    · simp only [ha, Option.map_some]
      rfl

theorem ask_map (f : α → β) (prompt : String) (accept : String → Option α) :
    ask prompt (fun line => (accept line).map f) = (do
      let answer ← ask prompt accept
      return f answer) := by
  funext console
  have mapped : ask prompt (fun line => (accept line).map f) console =
      ((ask prompt accept console).1.map f, (ask prompt accept console).2) :=
    askLines_map f prompt accept console.lines console.sink
  rw [mapped]
  rcases ha : (ask prompt accept console).1 with error | answer
  · rw [Outlet.bind_of_error ha]
    rfl
  · rw [Outlet.bind_of_ok ha]
    rfl

/-- Looking an answer up afterwards, where every answer is found, is asking for what it stands
for. -/
theorem ask_bind_found {accept : String → Option α} {look : α → Option β}
    (found : ∀ line answer, accept line = some answer → ∃ b, look answer = some b)
    (prompt : String) (next : Option β → Dialogue ConsoleError γ) :
    (ask prompt accept >>= fun answer => next (look answer)) =
      ask prompt (fun line => (accept line).bind look) >>= fun b => next (some b) := by
  have mapped : (fun line => (accept line).map look) =
      fun line => ((accept line).bind look).map some := by
    funext line
    rcases accepted : accept line with _ | answer
    · rfl
    · obtain ⟨b, looked⟩ := found line answer accepted
      simp [looked]
  calc (ask prompt accept >>= fun answer => next (look answer))
    _ = ask prompt (fun line => (accept line).map look) >>= next := by
      rw [ask_map, bind_assoc]
      simp only [pure_bind]
    _ = ask prompt (fun line => (accept line).bind look) >>= fun b => next (some b) := by
      rw [mapped, ask_map, bind_assoc]
      simp only [pure_bind]

/-- A menu asks for a position and looks the option up, which is there for every position that is
accepted. -/
theorem choose_eq {options : List α} (some_option : options ≠ []) (prompt : String)
    (label : α → String) :
    choose prompt label options = (do
      let option ← ask (menu prompt (options.map label)) (optionAt options)
      Dialogue.say (label option ++ "\n")
      return option) := by
  have options_eq : optionAt options = fun line =>
      (countIn 64 1 options.length line).bind fun selection => options[selection - 1]? :=
    funext (optionAt_eq_bind options)
  have found (line : String) (selection : Nat)
      (accepted : countIn 64 1 options.length line = some selection) :
      ∃ option, options[selection - 1]? = some option := exists_option_of_countIn accepted
  rw [choose, if_neg (by simpa using some_option), options_eq]
  exact ask_bind_found found (menu prompt (options.map label)) fun found => do
    let option ← inBounds found
    Dialogue.say (label option ++ "\n")
    return option

theorem runs_choose {options : List α} {lines rest : List Line} {option : α} {count : Nat}
    (h : Hears (optionAt options) lines (.ok option) rest count) (prompt : String)
    (label : α → String) :
    Console.outlet.Runs (choose prompt label options) lines (.ok option) rest
      (asked (menu prompt (options.map label)) count ++ (label option ++ "\n")) := by
  have listed : option ∈ options := Answers.mem ⟨count, h⟩
  have echoed : Console.outlet.Runs
      (Dialogue.say (label option ++ "\n") >>= fun _ => pure option) rest (.ok option) rest
      (label option ++ "\n") :=
    ((runs_say _ rest).bind (Outlet.runs_pure option rest)).said_eq String.append_empty
  rw [choose_eq (List.ne_nil_of_mem listed)]
  exact (runs_ask h _).bind echoed

theorem conveys_choose {prompt : String} (h : Unmarked prompt) {label : α → String}
    {options : List α} (some_option : options ≠ [])
    (hl : ∀ option ∈ options, Unmarked (label option)) (lines : List Line) :
    Conveys Console.outlet id (choose prompt label options) lines
      (Answers (optionAt options) lines) := by
  have listed : ∀ text ∈ options.map label, Unmarked text := by
    intro text member
    obtain ⟨option, offered, rfl⟩ := List.mem_map.1 member
    exact hl option offered
  rw [choose_eq some_option]
  refine (conveys_ask (h.menu listed) _ lines).bind fun option rest given => ?_
  refine (conveys_say ((hl option given.mem).append (by decide)) rest).bind ?_
  rintro _ _ rfl
  exact conveys_pure given

theorem conveys_askCount (bits : Nat) {prompt : String} (h : Unmarked prompt)
    (least greatest : Nat) (lines : List Line) :
    Conveys Console.outlet id (askCount bits prompt least greatest) lines
      (Answers (countIn bits least greatest) lines) :=
  conveys_ask h _ lines

theorem conveys_askHex {prompt : String} (h : Unmarked prompt) (greatest : Nat)
    (lines : List Line) :
    Conveys Console.outlet id (askHex prompt greatest) lines (Answers (hexUpTo greatest) lines) :=
  conveys_ask h _ lines

theorem conveys_lift {dialogue : Dialogue ConsoleError α} {lines : List Line}
    {answers : α → List Line → Prop} (h : Conveys Console.outlet id dialogue lines answers) :
    Conveys Console.sessionOutlet .console (liftM dialogue : Dialogue SessionError α) lines
      answers := by
  obtain ⟨said, unmarked, ⟨answer, rest, given, suffix, ends⟩ |
    ⟨error, rest, opening, unread, prompted, ends⟩⟩ := h
  · exact ⟨said, unmarked, .inl ⟨answer, rest, given, suffix, runs_lift ends⟩⟩
  · exact ⟨said, unmarked, .inr ⟨error, rest, opening, unread, prompted, runs_lift ends⟩⟩

end Questions

/-! ## Target sequences -/

theorem multiple_eq_ok {n : Nat} (few : Limits.minTargets ≤ n) (many : n ≤ Limits.maxTargets) :
    ∃ targets, TargetSequence.multiple n = .ok targets ∧ targets.counts = [n] := by
  rw [TargetSequence.multiple, dif_neg (by omega), if_neg (by omega)]
  exact ⟨_, rfl, rfl⟩

theorem arithmetic_eq_ok {n : Nat} (few : Limits.minTargets ≤ n)
    (many : n ≤ Limits.maxArithmeticTargets) :
    ∃ targets, TargetSequence.arithmetic n = .ok targets ∧ targets.counts = List.range' 1 n := by
  rw [TargetSequence.arithmetic, dif_neg (by omega), if_neg (by omega)]
  exact ⟨_, rfl, rfl⟩

theorem geometric_eq_ok {n : Nat} (few : Limits.minGeometricAttempts ≤ n)
    (many : n ≤ Limits.maxGeometricAttempts) :
    ∃ targets, TargetSequence.geometric n = .ok targets ∧
      targets.counts = (List.range n).map twoPow := by
  rw [TargetSequence.geometric, dif_neg (by omega)]
  exact ⟨_, rfl, rfl⟩

/-- A number within the bounds of its question is never refused by the constructor behind it. -/
theorem conveys_counted {bits least greatest : Nat} {prompt : String} (h : Unmarked prompt)
    {make : Nat → Except ParameterError TargetSequence} {shape : Nat → List Nat}
    (made : ∀ {n}, least ≤ n → n ≤ greatest →
      ∃ targets, make n = .ok targets ∧ targets.counts = shape n)
    {lines : List Line} {answers : TargetSequence → List Line → Prop}
    (entered : ∀ {n targets rest}, Answers (countIn bits least greatest) lines n rest →
      targets.counts = shape n → answers targets rest) :
    Conveys Console.outlet id
      (askCount bits prompt least greatest >>= fun count => accepted (make count)) lines
      answers := by
  refine (conveys_askCount bits h least greatest lines).bind fun n rest given => ?_
  obtain ⟨few, many⟩ := given.bounds
  obtain ⟨targets, ok, counts⟩ := made few many
  rw [ok]
  exact conveys_pure (entered given counts)

theorem conveys_targetsOf (method : SearchMethod) (lines : List Line) :
    Conveys Console.outlet id (targetsOf method) lines
      (fun targets rest => CountsEntered method lines targets.counts rest) := by
  cases method with
  | single => exact conveys_pure (.single lines)
  | multiple =>
    refine conveys_counted (by decide) multiple_eq_ok fun given counts => ?_
    rw [counts]
    exact .multiple given
  | arithmetic =>
    refine conveys_counted (by decide) arithmetic_eq_ok fun given counts => ?_
    rw [counts]
    exact .arithmetic given
  | geometric =>
    refine conveys_counted (by decide) geometric_eq_ok fun given counts => ?_
    rw [counts]
    exact .geometric given

theorem conveys_targets (lines : List Line) :
    Conveys Console.outlet id targets lines (TargetsEntered lines) := by
  refine (conveys_choose (by decide) (by decide) (by decide) lines).bind
    fun method middle chosen => ?_
  exact (conveys_targetsOf method middle).mono fun _ _ counts => .intro chosen counts

theorem conveys_outputWidth (width : OutputWidth) (lines : List Line) :
    Conveys Console.outlet id (outputWidth width) lines (WidthEntered width lines) := by
  cases width with
  | fixed own => exact conveys_pure (.fixed own lines)
  | dynamic => exact (conveys_askCount 32 (by decide) _ _ lines).mono fun _ _ => .dynamic

/-! ## Searches -/

/-- A width that is entered is one that the operation admits. -/
theorem WidthEntered.admits {width : OutputWidth} {lines rest : List Line} {n : Nat}
    (h : WidthEntered width lines n rest) : width.Admits n := by
  cases h with
  | fixed => rfl
  | dynamic entered => exact entered.bounds

theorem operationNames_subset (catalog : Catalog) (mode : Mode) :
    operationNames catalog mode ⊆ catalog.analysisNames := by
  cases mode with
  | analyze => exact List.Subset.refl _
  | simulate => exact catalog.simulationNames_subset

theorem operationNames_ne_nil {catalog : Catalog} (h : catalog.Reliable) (mode : Mode) :
    operationNames catalog mode ≠ [] := by
  cases mode with
  | analyze => exact h.analysis
  | simulate => exact h.simulation

theorem unmarked_operationPrompt (mode : Mode) : Unmarked (operationPrompt mode) := by
  cases mode <;> decide

theorem find_eq_ok {catalog : Catalog} {operation : Operation}
    (h : catalog.find? operation.name = some operation) :
    catalog.find operation.name = .ok operation := by
  rw [Catalog.find_eq, h]

/-- The interview of a search on a reliable catalog gives what is entered, and has no failures but
those of the console. -/
theorem conveys_search {catalog : Catalog} (h : catalog.Reliable) (mode : Mode)
    (lines : List Line) :
    Conveys Console.sessionOutlet .console (search catalog mode) lines
      (SearchEntered catalog mode lines) := by
  have offered {name : String} (member : name ∈ operationNames catalog mode) :
      ∃ operation ∈ catalog.operations, operation.name = name ∧
        catalog.find? name = some operation :=
    Catalog.exists_find? (operationNames_subset catalog mode member)
  have labels (name : String) (member : name ∈ operationNames catalog mode) :
      Unmarked (id name) := by
    obtain ⟨operation, listed, rfl, -⟩ := offered member
    exact (h.operations operation listed).unmarked
  refine (conveys_lift (conveys_choose (unmarked_operationPrompt mode)
    (operationNames_ne_nil h mode) labels lines)).bind fun name afterName chosen => ?_
  obtain ⟨operation, listed, rfl, found⟩ := offered chosen.mem
  have reliable := h.operations operation listed
  refine (conveys_lift (conveys_targets afterName)).bind fun targets afterTargets entered => ?_
  refine (conveys_lift (conveys_askCount 32 (by decide) _ _ afterTargets)).bind
    fun inputWidth afterInput input => ?_
  rw [find_eq_ok found]
  change Conveys _ _ (pure operation >>= _) _ _
  rw [pure_bind]
  refine (conveys_lift (conveys_outputWidth operation.outputWidth afterInput)).bind
    fun outputWidth afterWidth width => ?_
  refine (conveys_lift (conveys_askHex (by decide +kernel) (maxOfWidth outputWidth)
    afterWidth)).bind fun output rest digest => ?_
  -- What the questions have accepted is within the bounds of the parameters.
  obtain ⟨least, most⟩ := input.bounds
  have positive : 0 < outputWidth := reliable.positive outputWidth width.admits
  have fits : bitLength output ≤ outputWidth :=
    bitLength_le_iff.2 (le_maxOfWidth_iff.1 (digest.le))
  rw [Catalog.search_eq_ok ⟨operation.name, targets, inputWidth, outputWidth, output, least, most,
    positive, fits⟩ found rfl width.admits.allows]
  exact conveys_pure (.intro chosen found entered input width digest rfl rfl)

theorem conveys_request {catalog : Catalog} (h : catalog.Reliable) (lines : List Line) :
    Conveys Console.sessionOutlet .console (request catalog) lines (Requested catalog lines) := by
  refine (conveys_lift (conveys_choose (by decide) (by decide) (by decide) lines)).bind
    fun option middle chosen => ?_
  cases option with
  | analyze =>
    exact (conveys_search h .analyze middle).bind fun search rest entered =>
      conveys_pure (.intro chosen (.analyze entered))
  | simulate =>
    exact (conveys_search h .simulate middle).bind fun search rest entered =>
      conveys_pure (.intro chosen (.simulate entered))
  | help => exact conveys_pure (.intro chosen (.help middle))
  | quit => exact conveys_pure (.intro chosen (.quit middle))

end Interview

end PreimageSearch
