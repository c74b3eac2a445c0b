import PreimageSearch.Proofs.Interview

/-!
# Searches as they are described

The interview of a search on the standard catalog gives the search that the lines describe, and
every such search is `Described`: an operation that the mode offers, targets of one of four shapes,
widths and an output within their bounds, and the oracle of the operation. It fails only as the
reader does (`ReaderFailure`). Nothing depends on whether menus hand on options or their labels
(`choose_labelled`).
-/

namespace PreimageSearch

namespace Interview

open Dialogue

/-! ## Labels -/

section Labels

variable {α β : Type}

theorem optionAt_map (f : α → β) (options : List α) :
    optionAt (options.map f) = fun line => (optionAt options line).map f := by
  funext line
  unfold optionAt
  split <;> simp

/-- A menu of labels, of which the chosen one is looked up, is the menu of the options. -/
theorem choose_labelled {label : α → String} {find? : String → Option α}
    (found : ∀ option, find? (label option) = some option) (prompt : String) (options : List α)
    (next : α → Dialogue ConsoleError β) (unknown : ConsoleError) :
    choose prompt label options >>= next = (do
      let chosen ← choose prompt id (options.map label)
      match find? chosen with
      | some option => next option
      | none => throw unknown) := by
  by_cases none : options = []
  · rw [none]
    rfl
  rw [choose_eq none, choose_eq (by simpa using none), optionAt_map, ask_map]
  simp only [List.map_id, id_eq, bind_assoc, pure_bind, found]

theorem mainMenu_labelled (unknown : ConsoleError) : mainMenu = (do
    let label ← choose "Main menu:" id (MenuOption.all.map MenuOption.label)
    match MenuOption.ofInput? label with
    | some option => pure option
    | none => throw unknown) := by
  have found (option : MenuOption) : MenuOption.ofInput? option.label = some option := by
    cases option <;> decide
  have menu := choose_labelled found "Main menu:" MenuOption.all pure unknown
  rw [bind_pure] at menu
  refine menu.trans (bind_congr fun label => ?_)
  cases MenuOption.ofInput? label <;> rfl

theorem targets_labelled (unknown : ConsoleError) : targets = (do
    let label ← choose "Choose a search method:" id (SearchMethod.all.map SearchMethod.label)
    match SearchMethod.ofLabel? label with
    | some method => targetsOf method
    | none => throw unknown) := by
  rw [targets, choose_labelled SearchMethod.ofLabel?_label _ _ _ unknown]
  refine bind_congr fun label => ?_
  cases SearchMethod.ofLabel? label <;> rfl

end Labels

/-! ## Descriptions are understood -/

theorem exists_runs_choose {α : Type} {options : List α} {lines rest : List Line} {option : α}
    (h : Answers (optionAt options) lines option rest) (prompt : String) (label : α → String) :
    ∃ said, Console.outlet.Runs (choose prompt label options) lines (.ok option) rest said := by
  obtain ⟨count, hears⟩ := h
  exact ⟨_, runs_choose hears prompt label⟩

theorem runs_accepted {made : Except ParameterError TargetSequence} {targets : TargetSequence}
    (h : made = .ok targets) (lines : List Line) :
    Console.outlet.Runs (accepted made) lines (.ok targets) lines "" := by
  rw [h]
  exact Outlet.runs_pure targets lines

theorem runs_counted {bits least greatest n : Nat} {lines rest : List Line}
    (given : Answers (countIn bits least greatest) lines n rest) (prompt : String)
    {make : Nat → Except ParameterError TargetSequence} {targets : TargetSequence}
    (made : make n = .ok targets) :
    ∃ said, Console.outlet.Runs
      (askCount bits prompt least greatest >>= fun count => accepted (make count)) lines
      (.ok targets) rest said := by
  obtain ⟨count, hears⟩ := given
  exact ⟨_, (runs_ask hears prompt).bind (runs_accepted made rest)⟩

theorem runs_targetsOf {method : SearchMethod} {lines rest : List Line} {targets : TargetSequence}
    (h : CountsEntered method lines targets.counts rest) :
    ∃ said, Console.outlet.Runs (targetsOf method) lines (.ok targets) rest said := by
  -- A constructor gives `targets` itself, since it gives a sequence of the same counts.
  have given {bits least greatest n : Nat} {shape : Nat → List Nat}
      {make : Nat → Except ParameterError TargetSequence}
      (made : ∀ {n}, least ≤ n → n ≤ greatest →
        ∃ targets, make n = .ok targets ∧ targets.counts = shape n)
      (entered : Answers (countIn bits least greatest) lines n rest)
      (same : targets.counts = shape n) : make n = .ok targets := by
    obtain ⟨few, many⟩ := entered.bounds
    obtain ⟨built, ok, counts⟩ := made few many
    rw [ok, targets_ext (same.trans counts.symm)]
  generalize hc : targets.counts = counts at h
  cases h with
  | single =>
    obtain rfl : targets = .single := targets_ext hc
    exact ⟨_, Outlet.runs_pure _ _⟩
  | multiple entered => exact runs_counted entered _ (given multiple_eq_ok entered hc)
  | arithmetic entered => exact runs_counted entered _ (given arithmetic_eq_ok entered hc)
  | geometric entered => exact runs_counted entered _ (given geometric_eq_ok entered hc)

theorem runs_targets {lines rest : List Line} {targets : TargetSequence}
    (h : TargetsEntered lines targets rest) :
    ∃ said, Console.outlet.Runs Interview.targets lines (.ok targets) rest said := by
  obtain ⟨chosen, counts⟩ := h
  obtain ⟨_, choice⟩ := exists_runs_choose chosen "Choose a search method:" SearchMethod.label
  obtain ⟨_, generated⟩ := runs_targetsOf counts
  exact ⟨_, choice.bind generated⟩

theorem runs_outputWidth {width : OutputWidth} {lines rest : List Line} {n : Nat}
    (h : WidthEntered width lines n rest) :
    ∃ said, Console.outlet.Runs (outputWidth width) lines (.ok n) rest said := by
  cases h with
  | fixed => exact ⟨_, Outlet.runs_pure _ _⟩
  | dynamic entered =>
    obtain ⟨_, hears⟩ := entered
    exact ⟨_, runs_ask hears _⟩

theorem runs_fromCatalog {α : Type} {result : Except CatalogError α} {a : α} (h : result = .ok a)
    (lines : List Line) :
    Console.sessionOutlet.Runs (fromCatalog result) lines (.ok a) lines "" := by
  rw [h]
  exact Outlet.runs_pure a lines

/-- A description is understood as the search that it describes. -/
theorem runs_search {catalog : Catalog} {mode : Mode} {lines rest : List Line} {search : Search}
    (h : SearchEntered catalog mode lines search rest) :
    ∃ said, Console.sessionOutlet.Runs (Interview.search catalog mode) lines (.ok search) rest
      said := by
  obtain ⟨name, found, targets, inputWidth, outputWidth, output, named, bound⟩ := h
  obtain ⟨_, first⟩ := exists_runs_choose name (operationPrompt mode) id
  obtain ⟨_, second⟩ := runs_targets targets
  obtain ⟨_, third⟩ := inputWidth
  obtain ⟨_, fourth⟩ := runs_outputWidth outputWidth
  obtain ⟨_, fifth⟩ := output
  have made := Catalog.search_eq_ok search.parameters found named outputWidth.admits.allows
  rw [← bound] at made
  exact ⟨_, (runs_lift first).bind ((runs_lift second).bind ((runs_lift (runs_ask third _)).bind
    ((runs_fromCatalog (find_eq_ok found) _).bind ((runs_lift fourth).bind
      ((runs_lift (runs_ask fifth _)).bind (runs_fromCatalog made _))))))⟩

theorem runs_request {catalog : Catalog} {lines rest : List Line} {request : Request}
    (h : Requested catalog lines request rest) :
    ∃ said, Console.sessionOutlet.Runs (Interview.request catalog) lines (.ok request) rest
      said := by
  obtain ⟨chosen, entered⟩ := h
  obtain ⟨_, first⟩ := exists_runs_choose chosen "Main menu:" MenuOption.label
  cases entered with
  | analyze entered | simulate entered =>
    obtain ⟨_, second⟩ := runs_search entered
    exact ⟨_, (runs_lift first).bind (second.bind (Outlet.runs_pure _ _))⟩
  | help | quit => exact ⟨_, (runs_lift first).bind (Outlet.runs_pure _ _)⟩

/-- No request is made where the interview fails for want of lines. -/
theorem not_requested_of_error {catalog : Catalog} {lines rest : List Line} {error : SessionError}
    {said : String}
    (h : Console.sessionOutlet.Runs (Interview.request catalog) lines (.error error) rest said)
    (request : Request) (left : List Line) : ¬ Requested catalog lines request left := by
  intro requested
  obtain ⟨more, runs⟩ := runs_request requested
  have failed := (h.unlimited ⟨lines, {}⟩ rfl rfl).1
  rw [(runs.unlimited ⟨lines, {}⟩ rfl rfl).1] at failed
  cases failed

/-! ## What can be described -/

/-- The four shapes of target counts. -/
inductive TargetShape : List Nat → Prop
  | single : TargetShape [1]
  | multiple {n : Nat} (few : 2 ≤ n) (many : n ≤ 2147483647) : TargetShape [n]
  | arithmetic {n : Nat} (few : 2 ≤ n) (many : n ≤ 1048576) : TargetShape (List.range' 1 n)
  | geometric {n : Nat} (few : 2 ≤ n) (many : n ≤ 31) : TargetShape ((List.range n).map twoPow)

/-- What holds of a search that was described for the standard catalog. -/
structure Described (mode : Mode) (search : Search) : Prop where
  offered : search.parameters.operation ∈ operationNames .standard mode
  targets : TargetShape search.parameters.targets.counts
  inputWidth : 1 ≤ search.parameters.inputWidth ∧ search.parameters.inputWidth ≤ 62
  outputWidth : ∃ operation ∈ Catalog.standard.operations,
    operation.name = search.parameters.operation ∧
      (operation.outputWidth = .fixed search.parameters.outputWidth ∨
        operation.outputWidth = .dynamic ∧ 1 ≤ search.parameters.outputWidth ∧
          search.parameters.outputWidth ≤ 8192)
  output : search.parameters.output < twoPow search.parameters.outputWidth
  oracle_name : search.oracle.name = search.parameters.operation
  oracle_outputWidth : search.oracle.outputWidth = search.parameters.outputWidth

/-- The console's own failures: the end of the lines, a line that is no text, a write beyond the
limit. -/
inductive ReaderFailure (before : Console) : ConsoleError → Console → Prop
  | closed {after : Console} (used : after.lines = []) : ReaderFailure before .closed after
  | notText {after : Console} {taken : List Line} {line : Line}
    (consumed : before.lines = taken ++ line :: after.lines) (unread : line.text? = none) :
    ReaderFailure before .notText after
  | writeLimit {after : Console} {room : Nat} (limited : before.sink.room = some room)
    (full : after.sink.room = some 0) : ReaderFailure before .writeLimit after

theorem Unread.failure {before after : Console} {error : ConsoleError} {rest : List Line}
    (h : Unread before.lines error rest) (left : after.lines = rest) :
    ReaderFailure before error after := by
  cases h with
  | closed => exact .closed left
  | notText consumed unread => exact .notText (by rw [left]; exact consumed) unread

/-- A run is the one of the judgement, or a write has failed. -/
theorem ends_or_full {α : Type} {dialogue : Dialogue SessionError α} {console : Console}
    {result : Except SessionError α} {rest : List Line} {said : String}
    (h : Console.sessionOutlet.Runs dialogue console.lines result rest said) :
    ((dialogue console).1 = result ∧ (dialogue console).2.lines = rest) ∨
      (dialogue console).1 = .error (.console .writeLimit) ∧
        ReaderFailure console .writeLimit (dialogue console).2 := by
  obtain ends | ⟨cut, room, limited, full⟩ := h.ends_or_full console rfl
  · exact .inl ends
  · exact .inr ⟨cut, .writeLimit limited full⟩

theorem CountsEntered.shape {method : SearchMethod} {lines rest : List Line} {counts : List Nat}
    (h : CountsEntered method lines counts rest) : TargetShape counts := by
  cases h with
  | single => exact .single
  | multiple entered => exact .multiple entered.bounds.1 entered.bounds.2
  | arithmetic entered => exact .arithmetic entered.bounds.1 entered.bounds.2
  | geometric entered => exact .geometric entered.bounds.1 entered.bounds.2

/-- The operation of a description is in the catalog. -/
theorem SearchEntered.exists_operation {catalog : Catalog} {mode : Mode} {lines rest : List Line}
    {search : Search} (h : SearchEntered catalog mode lines search rest) :
    ∃ operation ∈ catalog.operations, search.parameters.operation = operation.name ∧
      operation.name ∈ operationNames catalog mode ∧
      operation.outputWidth.Admits search.parameters.outputWidth ∧
      search.oracle = operation.oracle search.parameters.outputWidth := by
  obtain ⟨name, found, -, -, outputWidth, -, named, bound⟩ := h
  have listed := List.mem_of_find?_eq_some found
  exact ⟨_, by simpa using listed, named, name.mem, outputWidth.admits, bound⟩

theorem described_of_entered {mode : Mode} {lines rest : List Line} {search : Search}
    (h : SearchEntered .standard mode lines search rest) : Described mode search := by
  obtain ⟨operation, listed, named, offered, admitted, bound⟩ := h.exists_operation
  have reliable := Catalog.standard_reliable.operations operation listed
  obtain ⟨-, -, ⟨-, counts⟩, -, -, -, -, -⟩ := h
  refine ⟨by rw [named]; exact offered, counts.shape,
    ⟨search.parameters.minInputWidth_le, search.parameters.inputWidth_le⟩,
    ⟨operation, listed, named.symm, ?_⟩, bitLength_le_iff.1 search.parameters.output_fits, ?_, ?_⟩
  · rcases hw : operation.outputWidth with own | _
    · rw [hw] at admitted
      exact .inl (congrArg OutputWidth.fixed (Eq.symm admitted))
    · rw [hw] at admitted
      exact .inr ⟨rfl, admitted⟩
  · rw [bound, named, reliable.named]
  · rw [bound, reliable.outputWidth _ admitted]

/-- The interview of a search on the standard catalog succeeds with the search that the lines
describe, or fails as the reader does; if the lines describe a search and output is not limited, it
succeeds. Looking labels up adds no failure, whatever error stood there. -/
theorem search_described (mode : Mode) (console : Console) :
    let ended := Interview.search .standard mode console
    ((∃ search, ended.1 = .ok search ∧
        SearchEntered .standard mode console.lines search ended.2.lines ∧ Described mode search) ∨
      ∃ error, ended.1 = .error (.console error) ∧ ReaderFailure console error ended.2) ∧
    (∀ search rest, console.sink.room = none →
      SearchEntered .standard mode console.lines search rest → ended.1 = .ok search) ∧
    ∀ unknown : ConsoleError, targets = (do
      let label ← choose "Choose a search method:" id (SearchMethod.all.map SearchMethod.label)
      match SearchMethod.ofLabel? label with
      | some method => targetsOf method
      | none => throw unknown) := by
  intro ended
  refine ⟨?_, ?_, ?_⟩
  · obtain ⟨said, -, ⟨search, rest, entered, -, runs⟩ | ⟨error, rest, opening, unread, -, runs⟩⟩ :=
      conveys_search Catalog.standard_reliable mode console.lines
    · obtain ⟨ends, left⟩ | failed := ends_or_full runs
      · refine .inl ⟨search, ends, ?_, described_of_entered entered⟩
        rw [left]
        exact entered
      · exact .inr ⟨.writeLimit, failed⟩
    · obtain ⟨ends, left⟩ | failed := ends_or_full runs
      · exact .inr ⟨error, ends, unread.failure left⟩
      · exact .inr ⟨.writeLimit, failed⟩
  · rintro search rest unlimited entered
    obtain ⟨said, runs⟩ := runs_search entered
    rcases console with ⟨lines, ⟨written, room⟩⟩
    cases unlimited
    exact (runs.unlimited _ rfl rfl).1
  · exact targets_labelled

end Interview

end PreimageSearch
