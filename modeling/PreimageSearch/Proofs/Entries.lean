import PreimageSearch.Proofs.Transcript

/-!
# What is entered

The lines that an operator enters are read as a request of the main menu by relations that mention
neither prompts nor output: `Answers` for one question, `TargetsEntered` and `SearchEntered` for the
interview of a search, `Requested` for a turn of the main menu. Lines are read in one way only
(`Requested.unique`).
-/

namespace PreimageSearch.Interview

open Dialogue

variable {α : Type}

/-! ## Accepted lines -/

/-- The option at the position that a line gives, the first being 1. -/
def optionAt (options : List α) (line : String) : Option α :=
  match Integer.read? (.unsigned 64) line with
  | some (.ofNat (position + 1)) => options[position]?
  | _ => none

/-- The count from `least` to `greatest` that a line gives. -/
def countIn (bits least greatest : Nat) (line : String) : Option Nat :=
  ((Integer.read? (.unsigned bits) line).filter
    (Integer.Range.closed least greatest).contains).map Int.toNat

/-- The hexadecimal number up to `greatest` that a line gives. -/
def hexUpTo (greatest : Nat) (line : String) : Option Nat :=
  (Hex.read? (withoutLineEnd line)).filter (· ≤ greatest)

theorem mem_of_optionAt {options : List α} {line : String} {option : α}
    (h : optionAt options line = some option) : option ∈ options := by
  unfold optionAt at h
  split at h
  · exact List.mem_of_getElem? h
  · cases h

theorem countIn_bounds {bits least greatest : Nat} {line : String} {n : Nat}
    (h : countIn bits least greatest line = some n) : least ≤ n ∧ n ≤ greatest := by
  obtain ⟨value, held, rfl⟩ := Option.map_eq_some_iff.1 h
  obtain ⟨-, inside⟩ := Option.filter_eq_some_iff.1 held
  simp only [Integer.Range.contains, Integer.Range.closed, Bool.and_eq_true,
    decide_eq_true_eq] at inside
  omega

/-- The option of a line is the one at the position that the line gives. -/
theorem optionAt_eq_bind (options : List α) (line : String) :
    optionAt options line =
      (countIn 64 1 options.length line).bind fun selection => options[selection - 1]? := by
  unfold optionAt countIn
  rcases Integer.read? (.unsigned 64) line with _ | value
  · rfl
  have holds : (Integer.Range.closed (1 : Nat) options.length).contains value = true ↔
      1 ≤ value ∧ value ≤ options.length := by
    simp [Integer.Range.contains, Integer.Range.closed]
  by_cases inside : 1 ≤ value ∧ value ≤ options.length
  · obtain ⟨position, rfl⟩ : ∃ position : Nat, value = .ofNat (position + 1) := by
      refine ⟨value.toNat - 1, ?_⟩
      rw [Int.ofNat_eq_natCast]
      omega
    rw [Option.filter_some_pos (holds.2 inside)]
    rfl
  · rw [Option.filter_some_neg (Bool.eq_false_iff.2 (mt holds.1 inside))]
    split
    · next position same =>
      cases same
      rw [Int.ofNat_eq_natCast] at inside
      exact List.getElem?_eq_none (by omega)
    · rfl

theorem exists_option_of_countIn {options : List α} {line : String} {selection : Nat}
    (h : countIn 64 1 options.length line = some selection) :
    ∃ option, options[selection - 1]? = some option := by
  have bounds := countIn_bounds h
  exact ⟨_, List.getElem?_eq_getElem (by omega)⟩

theorem hexUpTo_le {greatest : Nat} {line : String} {n : Nat}
    (h : hexUpTo greatest line = some n) : n ≤ greatest := by
  obtain ⟨-, inside⟩ := Option.filter_eq_some_iff.1 h
  simpa using inside

/-! ## Answers -/

/-- Some refused lines and then one that is accepted as `answer`; `rest` is left. -/
def Answers (accept : String → Option α) (lines : List Line) (answer : α) (rest : List Line) :
    Prop :=
  ∃ count, Hears accept lines (.ok answer) rest count

theorem Answers.unique {accept : String → Option α} {lines rest rest' : List Line}
    {answer answer' : α} (h : Answers accept lines answer rest)
    (h' : Answers accept lines answer' rest') : answer = answer' ∧ rest = rest' := by
  obtain ⟨_, hears⟩ := h
  obtain ⟨_, hears'⟩ := h'
  obtain ⟨same, left⟩ := hears.unique hears'
  exact ⟨Except.ok.inj same, left⟩

theorem Answers.exists_accepted {accept : String → Option α} {lines rest : List Line} {answer : α}
    (h : Answers accept lines answer rest) : ∃ text, accept text = some answer := by
  obtain ⟨count, hears⟩ := h
  generalize hr : (Except.ok answer : Except ConsoleError α) = result at hears
  induction hears with
  | closed => cases hr
  | notText => cases hr
  | accepted read accepts =>
    cases hr
    exact ⟨_, accepts⟩
  | refused _ _ _ ih => exact ih hr

theorem Answers.mem {options : List α} {lines rest : List Line} {option : α}
    (h : Answers (optionAt options) lines option rest) : option ∈ options := by
  obtain ⟨text, accepts⟩ := h.exists_accepted
  exact mem_of_optionAt accepts

theorem Answers.bounds {bits least greatest n : Nat} {lines rest : List Line}
    (h : Answers (countIn bits least greatest) lines n rest) : least ≤ n ∧ n ≤ greatest := by
  obtain ⟨text, accepts⟩ := h.exists_accepted
  exact countIn_bounds accepts

theorem Answers.le {greatest n : Nat} {lines rest : List Line}
    (h : Answers (hexUpTo greatest) lines n rest) : n ≤ greatest := by
  obtain ⟨text, accepts⟩ := h.exists_accepted
  exact hexUpTo_le accepts

/-! ## Requests -/

/-- The target counts of a search method, after the number that it takes. -/
inductive CountsEntered : SearchMethod → List Line → List Nat → List Line → Prop
  | single (lines : List Line) : CountsEntered .single lines [1] lines
  | multiple {lines rest : List Line} {n : Nat}
    (entered : Answers (countIn 64 Limits.minTargets Limits.maxTargets) lines n rest) :
    CountsEntered .multiple lines [n] rest
  | arithmetic {lines rest : List Line} {n : Nat}
    (entered : Answers (countIn 64 Limits.minTargets Limits.maxArithmeticTargets) lines n rest) :
    CountsEntered .arithmetic lines (List.range' 1 n) rest
  | geometric {lines rest : List Line} {n : Nat}
    (entered : Answers (countIn 32 Limits.minGeometricAttempts Limits.maxGeometricAttempts) lines n
      rest) :
    CountsEntered .geometric lines ((List.range n).map twoPow) rest

/-- The operator chooses a search method and gives its number. -/
inductive TargetsEntered : List Line → TargetSequence → List Line → Prop
  | intro {lines middle rest : List Line} {method : SearchMethod} {targets : TargetSequence}
    (chosen : Answers (optionAt SearchMethod.all) lines method middle)
    (counts : CountsEntered method middle targets.counts rest) :
    TargetsEntered lines targets rest

/-- The output width of an operation: its own, without any line, or the one that is entered. -/
inductive WidthEntered : OutputWidth → List Line → Nat → List Line → Prop
  | fixed (width : Nat) (lines : List Line) : WidthEntered (.fixed width) lines width lines
  | dynamic {lines rest : List Line} {width : Nat}
    (entered : Answers (countIn 32 Limits.minOutputWidth Limits.maxOutputWidth) lines width rest) :
    WidthEntered .dynamic lines width rest

/-- The operator describes a search: the operation, the targets, the width of the inputs, the width
of the output and the output to match, in this order. -/
inductive SearchEntered (catalog : Catalog) (mode : Mode) :
    List Line → Search → List Line → Prop
  | intro {lines afterName afterTargets afterInput afterWidth rest : List Line}
    {operation : Operation} {search : Search}
    (name : Answers (optionAt (operationNames catalog mode)) lines operation.name afterName)
    (operation_eq : catalog.find? operation.name = some operation)
    (targets : TargetsEntered afterName search.parameters.targets afterTargets)
    (inputWidth : Answers (countIn 32 Limits.minInputWidth Limits.maxInputWidth) afterTargets
      search.parameters.inputWidth afterInput)
    (outputWidth : WidthEntered operation.outputWidth afterInput search.parameters.outputWidth
      afterWidth)
    (output : Answers (hexUpTo (maxOfWidth search.parameters.outputWidth)) afterWidth
      search.parameters.output rest)
    (named : search.parameters.operation = operation.name)
    (bound : search.oracle = operation.oracle search.parameters.outputWidth) :
    SearchEntered catalog mode lines search rest

/-- What an option of the main menu takes. -/
inductive OptionEntered (catalog : Catalog) : MenuOption → List Line → Request → List Line → Prop
  | analyze {lines rest : List Line} {search : Search}
    (entered : SearchEntered catalog .analyze lines search rest) :
    OptionEntered catalog .analyze lines (.run .analyze search) rest
  | simulate {lines rest : List Line} {search : Search}
    (entered : SearchEntered catalog .simulate lines search rest) :
    OptionEntered catalog .simulate lines (.run .simulate search) rest
  | help (lines : List Line) : OptionEntered catalog .help lines .help lines
  | quit (lines : List Line) : OptionEntered catalog .quit lines .quit lines

/-- The operator chooses an option of the main menu and gives what it takes. -/
inductive Requested (catalog : Catalog) : List Line → Request → List Line → Prop
  | intro {lines middle rest : List Line} {option : MenuOption} {request : Request}
    (chosen : Answers (optionAt MenuOption.all) lines option middle)
    (entered : OptionEntered catalog option middle request rest) :
    Requested catalog lines request rest

/-! ## Lines are read in one way -/

theorem targets_ext {targets targets' : TargetSequence}
    (h : targets.counts = targets'.counts) : targets = targets' := by
  rcases targets
  rcases targets'
  simpa using h

theorem CountsEntered.unique {method : SearchMethod} {lines rest rest' : List Line}
    {counts counts' : List Nat} (h : CountsEntered method lines counts rest)
    (h' : CountsEntered method lines counts' rest') : counts = counts' ∧ rest = rest' := by
  cases h with
  | single =>
    cases h'
    exact ⟨rfl, rfl⟩
  | multiple entered | arithmetic entered | geometric entered =>
    cases h' with
    | _ entered' =>
      obtain ⟨rfl, rfl⟩ := entered.unique entered'
      exact ⟨rfl, rfl⟩

theorem TargetsEntered.unique {lines rest rest' : List Line} {targets targets' : TargetSequence}
    (h : TargetsEntered lines targets rest) (h' : TargetsEntered lines targets' rest') :
    targets = targets' ∧ rest = rest' := by
  obtain ⟨chosen, counts⟩ := h
  obtain ⟨chosen', counts'⟩ := h'
  obtain ⟨rfl, rfl⟩ := chosen.unique chosen'
  obtain ⟨same, rfl⟩ := counts.unique counts'
  exact ⟨targets_ext same, rfl⟩

theorem WidthEntered.unique {width : OutputWidth} {lines rest rest' : List Line} {n n' : Nat}
    (h : WidthEntered width lines n rest) (h' : WidthEntered width lines n' rest') :
    n = n' ∧ rest = rest' := by
  cases h with
  | fixed =>
    cases h'
    exact ⟨rfl, rfl⟩
  | dynamic entered =>
    cases h' with
    | dynamic entered' => exact entered.unique entered'

theorem SearchEntered.unique {catalog : Catalog} {mode : Mode} {lines rest rest' : List Line}
    {search search' : Search} (h : SearchEntered catalog mode lines search rest)
    (h' : SearchEntered catalog mode lines search' rest') : search = search' ∧ rest = rest' := by
  obtain ⟨name, operation_eq, targets, inputWidth, outputWidth, output, named, bound⟩ := h
  obtain ⟨name', operation_eq', targets', inputWidth', outputWidth', output', named', bound'⟩ := h'
  obtain ⟨sameName, rfl⟩ := name.unique name'
  rw [sameName, operation_eq'] at operation_eq
  cases operation_eq
  obtain ⟨sameTargets, rfl⟩ := targets.unique targets'
  obtain ⟨sameInput, rfl⟩ := inputWidth.unique inputWidth'
  obtain ⟨sameWidth, rfl⟩ := outputWidth.unique outputWidth'
  rw [sameWidth] at output bound
  obtain ⟨sameOutput, rfl⟩ := output.unique output'
  refine ⟨?_, rfl⟩
  rcases search with ⟨oracle, parameters⟩
  rcases search' with ⟨oracle', parameters'⟩
  rcases parameters
  rcases parameters'
  simp_all

theorem OptionEntered.unique {catalog : Catalog} {option : MenuOption}
    {lines rest rest' : List Line} {request request' : Request}
    (h : OptionEntered catalog option lines request rest)
    (h' : OptionEntered catalog option lines request' rest') :
    request = request' ∧ rest = rest' := by
  cases h with
  | analyze entered | simulate entered =>
    cases h' with
    | _ entered' =>
      obtain ⟨rfl, rfl⟩ := entered.unique entered'
      exact ⟨rfl, rfl⟩
  | help | quit =>
    cases h'
    exact ⟨rfl, rfl⟩

theorem Requested.unique {catalog : Catalog} {lines rest rest' : List Line}
    {request request' : Request} (h : Requested catalog lines request rest)
    (h' : Requested catalog lines request' rest') : request = request' ∧ rest = rest' := by
  obtain ⟨chosen, entered⟩ := h
  obtain ⟨chosen', entered'⟩ := h'
  obtain ⟨rfl, rfl⟩ := chosen.unique chosen'
  exact entered.unique entered'

/-- The lines `2`, `1`, `1`, `1` and `0` ask to simulate `CRC-8` for one target over one bit with
the check zero, whatever comes after them. -/
theorem requested_crc8 (rest : List Line) :
    Requested .standard ([[50, 10], [49, 10], [49, 10], [49, 10], [48, 10]] ++ rest)
      (.run .simulate ⟨.ofChecksum .crc8,
        ⟨"CRC-8", .single, 1, 8, 0, by decide, by decide, by decide, by decide⟩⟩) rest := by
  have two : Line.text? [50, 10] = some "2\n" := by decide
  have one : Line.text? [49, 10] = some "1\n" := by decide
  have zero : Line.text? [48, 10] = some "0\n" := by decide
  let operation : Operation := ⟨"CRC-8", .fixed 8, true, fun _ => .ofChecksum .crc8⟩
  have found : Catalog.standard.find? operation.name = some operation := rfl
  have targets : TargetsEntered ([[49, 10], [49, 10], [48, 10]] ++ rest) .single
      ([[49, 10], [48, 10]] ++ rest) := .intro ⟨0, .accepted one (by decide)⟩ (.single _)
  exact .intro ⟨0, .accepted two (by decide)⟩ (.simulate (.intro ⟨0, .accepted one (by decide)⟩
    found targets ⟨0, .accepted one (by decide)⟩ (.fixed 8 _) ⟨0, .accepted zero (by decide)⟩ rfl
    rfl))

end PreimageSearch.Interview
