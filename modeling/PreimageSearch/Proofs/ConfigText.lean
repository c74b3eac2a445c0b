import PreimageSearch.Proofs.Settings

/-!
# Configurations from texts

A text whose document has only tables describes a configuration exactly if the document is well
typed and its values are in range, and that configuration is the one that the document holds. Which
of the two fails decides the kind of error: types and names come first.
-/

namespace PreimageSearch

/-- The text cannot be decoded, whatever the ranges are. -/
def ConfigError.IsParseError : ConfigError → Prop
  | malformed => True
  | undecodable _ _ => True
  | _ => False

/-- A decoded value is out of range. -/
def ConfigError.IsValidationError : ConfigError → Prop
  | widthOutOfRange _ => True
  | emptyLogFile => True
  | _ => False

theorem ConfigError.IsValidationError.not_isParseError {error : ConfigError}
    (h : error.IsValidationError) : ¬ error.IsParseError := by
  cases error with
  | widthOutOfRange given => exact id
  | emptyLogFile => exact id
  | unreadable error => exact h.elim
  | malformed => exact h.elim
  | undecodable error excerpt => exact h.elim

namespace Config

open Toml

variable {entries other : Entries} {config config' : Config} {text : String}

/-! ## Ranges -/

/-- A width that is given is from 1 to 62, and a log file that is given has a name. -/
structure InRange (entries : Entries) : Prop where
  width : ∀ n : Int, Given entries "simulator" "max_input_width" (.integer n) → 1 ≤ n ∧ n ≤ 62
  logFile : ¬ Given entries "logging" "log_file" (.string "")

/-- The width is within its limits, and a log file has a name. -/
structure Valid (config : Config) : Prop where
  least : Limits.minInputWidth ≤ config.simulator.maxInputWidth
  most : config.simulator.maxInputWidth ≤ Limits.maxInputWidth
  logFile : config.logging.logFile ≠ some ""

theorem validate_of_valid (h : Valid config) : validate config = .ok config := by
  have inside : ¬ (config.simulator.maxInputWidth < Limits.minInputWidth ∨
      Limits.maxInputWidth < config.simulator.maxInputWidth) := by
    rw [not_or, not_lt, not_lt]
    exact ⟨h.least, h.most⟩
  unfold validate
  rw [if_neg inside, if_neg h.logFile]

theorem validate_of_not_valid (h : ¬ Valid config) :
    ∃ error : ConfigError, error.IsValidationError ∧ validate config = .error error := by
  unfold validate
  by_cases outside : config.simulator.maxInputWidth < Limits.minInputWidth ∨
      Limits.maxInputWidth < config.simulator.maxInputWidth
  · exact ⟨.widthOutOfRange _, trivial, if_pos outside⟩
  · rw [if_neg outside]
    rw [not_or, not_lt, not_lt] at outside
    have empty : config.logging.logFile = some "" := by
      by_contra named
      exact h ⟨outside.1, outside.2, named⟩
    exact ⟨.emptyLogFile, trivial, if_pos empty⟩

/-- The defaults are in range, so the settings are exactly if the values given are. -/
theorem Holds.valid_iff (h : Holds entries config) : Valid config ↔ InRange entries := by
  constructor
  · intro valid
    constructor
    · intro n given
      have written : Value.integer n = .integer config.simulator.maxInputWidth :=
        h.maxInputWidth.given _ given
      have least : 1 ≤ config.simulator.maxInputWidth := valid.least
      have most : config.simulator.maxInputWidth ≤ 62 := valid.most
      rw [Value.integer.inj written]
      omega
    · intro given
      obtain ⟨name, set, written⟩ := h.logFile.given _ given
      obtain rfl : "" = name := Value.string.inj written
      exact valid.logFile set
  · intro inRange
    have width : 1 ≤ config.simulator.maxInputWidth ∧ config.simulator.maxInputWidth ≤ 62 := by
      by_cases given : ∃ v, Given entries "simulator" "max_input_width" v
      · obtain ⟨v, given⟩ := given
        have written : v = .integer config.simulator.maxInputWidth := h.maxInputWidth.given v given
        have range := inRange.width _ (written ▸ given)
        omega
      · have default := h.maxInputWidth.absent (not_exists.1 given)
        omega
    refine ⟨width.1, width.2, ?_⟩
    intro empty
    by_cases given : ∃ v, Given entries "logging" "log_file" v
    · obtain ⟨v, given⟩ := given
      obtain ⟨name, named, written⟩ := h.logFile.given v given
      obtain rfl : name = "" := Option.some.inj (named.symm.trans empty)
      exact inRange.logFile (written ▸ given)
    · have default := h.logFile.absent (not_exists.1 given)
      rw [empty] at default
      cases default

/-! ## Order -/

/-- The documents have the same sections and give the same values, in whatever order. Where a value
stands in its text does not come into this, as long as it is of one of the kinds of fields. -/
structure SameContents (entries other : Entries) : Prop where
  sections : ∀ name, name ∈ entries.keys ↔ name ∈ other.keys
  given : ∀ sectionName key v, Given entries sectionName key v ↔ Given other sectionName key v

/-- The ways of writing settings in which no value is written for two settings. -/
def Unambiguous {β : Type} (written : β → Value → Prop) : Prop :=
  ∀ ⦃a b v⦄, written a v → written b v → a = b

theorem unambiguous_nat : Unambiguous WrittenNat := by
  rintro a b v rfl written
  exact Int.ofNat_inj.1 (Value.integer.inj written)

theorem unambiguous_bool : Unambiguous WrittenBool := by
  rintro a b v rfl written
  exact Value.boolean.inj written

theorem unambiguous_text : Unambiguous WrittenText := by
  rintro a b v rfl written
  exact Value.string.inj written

theorem Unambiguous.some {β : Type} {written : β → Value → Prop} (h : Unambiguous written) :
    Unambiguous (WrittenSome written) := by
  rintro - - v ⟨a, rfl, first⟩ ⟨b, rfl, second⟩
  rw [h first second]

theorem Settles.eq_of_sameContents {β : Type} {name key : String} {written : β → Value → Prop}
    {default a b : β} (h : Settles entries name key written default a)
    (h' : Settles other name key written default b) (same : SameContents entries other)
    (unambiguous : Unambiguous written) : a = b := by
  by_cases given : ∃ v, Given entries name key v
  · obtain ⟨v, given⟩ := given
    exact unambiguous (h.given v given) (h'.given v ((same.given name key v).1 given))
  · have absent := not_exists.1 given
    rw [h.absent absent, h'.absent fun v given => absent v ((same.given name key v).2 given)]

theorem Holds.eq_of_sameContents (h : Holds entries config) (h' : Holds other config')
    (same : SameContents entries other) : config = config' := by
  have width := h.maxInputWidth.eq_of_sameContents h'.maxInputWidth same unambiguous_nat
  have seed := h.seed.eq_of_sameContents h'.seed same unambiguous_nat.some
  have memory := h.checkMemory.eq_of_sameContents h'.checkMemory same unambiguous_bool
  have enabled := h.enabled.eq_of_sameContents h'.enabled same unambiguous_bool
  have file := h.logFile.eq_of_sameContents h'.logFile same unambiguous_text.some
  have banner := h.banner.eq_of_sameContents h'.banner same unambiguous_bool
  have progress := h.progress.eq_of_sameContents h'.progress same unambiguous_bool
  rcases config with ⟨⟨_, _, _⟩, ⟨_, _⟩, ⟨_, _⟩⟩
  rcases config' with ⟨⟨_, _, _⟩, ⟨_, _⟩, ⟨_, _⟩⟩
  cases width
  cases seed
  cases memory
  cases enabled
  cases file
  cases banner
  cases progress
  rfl

theorem WellTyped.of_sameContents (h : WellTyped entries) (same : SameContents entries other) :
    WellTyped other where
  sections entry member := by
    have present := (same.sections entry.1.value).2 (List.mem_map_of_mem member)
    obtain ⟨entry', member', named⟩ := List.mem_map.1 present
    exact named ▸ h.sections entry' member'
  fields name key v given := h.fields name key v ((same.given name key v).2 given)

theorem InRange.of_sameContents (h : InRange entries) (same : SameContents entries other) :
    InRange other where
  width n given := h.width n ((same.given _ _ _).2 given)
  logFile given := h.logFile ((same.given _ _ _).2 given)

/-! ## Texts -/

/-- The three ways in which reading a document with only tables ends. -/
theorem ofText_cases (accepted : Document.read? text = some entries) (tables : OnlyTables entries) :
    (WellTyped entries ∧ InRange entries ∧
      ∃ config, Holds entries config ∧ ofText text = .ok config) ∨
    (WellTyped entries ∧ ¬ InRange entries ∧
      ∃ error : ConfigError, error.IsValidationError ∧ ofText text = .error error) ∨
    (¬ WellTyped entries ∧
      ∃ error : ConfigError, error.IsParseError ∧ ofText text = .error error) := by
  have wf := Document.read?_wellFormed accepted
  unfold ofText
  simp only [accepted]
  cases decoded : decode entries with
  | error error =>
    refine .inr (.inr ⟨fun wellTyped => ?_, .undecodable _ _, trivial, rfl⟩)
    obtain ⟨config, decoded'⟩ := (exists_decode_iff wf tables).2 wellTyped
    rw [decoded] at decoded'
    cases decoded'
  | ok config =>
    have wellTyped := (exists_decode_iff wf tables).1 ⟨config, decoded⟩
    have holds := decode_holds wf tables decoded
    by_cases valid : Valid config
    · exact .inl ⟨wellTyped, holds.valid_iff.1 valid, config, holds, validate_of_valid valid⟩
    · refine .inr (.inl ⟨wellTyped, ?_, validate_of_not_valid valid⟩)
      exact fun inRange => valid (holds.valid_iff.2 inRange)

theorem ofText_eq_ok_of_sameContents {text' : String}
    (accepted : Document.read? text = some entries) (tables : OnlyTables entries)
    (accepted' : Document.read? text' = some other) (tables' : OnlyTables other)
    (same : SameContents entries other) (done : ofText text = .ok config) :
    ofText text' = .ok config := by
  rcases ofText_cases accepted tables with ⟨wellTyped, inRange, found, holds, done'⟩ |
    ⟨-, -, error, -, failed⟩ | ⟨-, error, -, failed⟩
  · obtain rfl : found = config := Except.ok.inj (done'.symm.trans done)
    rcases ofText_cases accepted' tables' with ⟨-, -, config', holds', read⟩ |
      ⟨-, outside, -⟩ | ⟨illTyped, -⟩
    · rw [read, holds.eq_of_sameContents holds' same]
    · exact absurd (inRange.of_sameContents same) outside
    · exact absurd (wellTyped.of_sameContents same) illTyped
  · cases done.symm.trans failed
  · cases done.symm.trans failed

/-- Whether a configuration is read, which, and what kind of error there is otherwise are decided by
what is given in the document. -/
theorem ofText_decodes_exactly {text : String} {entries : Entries}
    (accepted : Document.read? text = some entries) (tables : OnlyTables entries) :
    ((∃ config, ofText text = .ok config) ↔ WellTyped entries ∧ InRange entries) ∧
    (∀ config, ofText text = .ok config → Holds entries config) ∧
    (∀ text' other, Document.read? text' = some other → OnlyTables other →
      SameContents entries other → ∀ config, ofText text = .ok config → ofText text' = .ok config) ∧
    ((∃ error : ConfigError, error.IsParseError ∧ ofText text = .error error) ↔
      ¬ WellTyped entries) ∧
    ((∃ error : ConfigError, error.IsValidationError ∧ ofText text = .error error) ↔
      WellTyped entries ∧ ¬ InRange entries) := by
  have order : ∀ text' other, Document.read? text' = some other → OnlyTables other →
      SameContents entries other → ∀ config, ofText text = .ok config →
        ofText text' = .ok config :=
    fun text' other accepted' tables' same config done =>
      ofText_eq_ok_of_sameContents accepted tables accepted' tables' same done
  rcases ofText_cases accepted tables with ⟨wellTyped, inRange, config, holds, done⟩ |
    ⟨wellTyped, outside, error, isValidation, failed⟩ | ⟨illTyped, error, isParse, failed⟩
  · refine ⟨?_, ?_, order, ?_, ?_⟩
    · simp [done, wellTyped, inRange]
    · simp [done, holds]
    · simp [done, wellTyped]
    · simp [done, inRange]
  · refine ⟨?_, ?_, order, ?_, ?_⟩
    · simp [failed, outside]
    · simp [failed]
    · simp [failed, wellTyped, isValidation.not_isParseError]
    · simp [failed, wellTyped, outside, isValidation]
  · have isNot : ¬ error.IsValidationError := fun h => h.not_isParseError isParse
    refine ⟨?_, ?_, order, ?_, ?_⟩
    · simp [failed, illTyped]
    · simp [failed]
    · simp [failed, illTyped, isParse]
    · simp [failed, illTyped, isNot]

/-- The document of a text with two sections, each with one switch. -/
theorem exists_two_switches (text first key : String) (b : Bool) (second key' : String) (b' : Bool)
    (shape : (match Document.read? text with
      | some [(s, ⟨.table _ [(k, ⟨.boolean c, _⟩)], _⟩),
          (s', ⟨.table _ [(k', ⟨.boolean c', _⟩)], _⟩)] =>
        decide ((s.value = first ∧ k.value = key ∧ c = b) ∧
          s'.value = second ∧ k'.value = key' ∧ c' = b')
      | _ => false) = true) :
    ∃ entries, Document.read? text = some entries ∧ OnlyTables entries ∧
      entries.keys = [first, second] ∧
      ∀ name k v, Given entries name k v ↔
        (first = name ∧ key = k ∧ .boolean b = v) ∨
          (second = name ∧ key' = k ∧ .boolean b' = v) := by
  split at shape
  · next accepted =>
    obtain ⟨⟨rfl, rfl, rfl⟩, rfl, rfl, rfl⟩ := of_decide_eq_true shape
    exact ⟨_, accepted, by simp [OnlyTables], rfl, by simp [Given]⟩
  · cases shape

theorem ofText_decodes_exactly_reordered :
    ∃ config, config.simulator.checkMemory = false ∧ config.display.banner = false ∧
      config.simulator.maxInputWidth = 20 ∧
      ofText "[simulator]\ncheck_memory = false\n[display]\nbanner = false\n" = .ok config ∧
      ofText "[display]\nbanner = false\n[simulator]\ncheck_memory = false\n" = .ok config := by
  obtain ⟨entries, accepted, tables, keys, given⟩ := exists_two_switches
    "[simulator]\ncheck_memory = false\n[display]\nbanner = false\n"
    "simulator" "check_memory" false "display" "banner" false (by decide +kernel)
  obtain ⟨other, accepted', tables', keys', given'⟩ := exists_two_switches
    "[display]\nbanner = false\n[simulator]\ncheck_memory = false\n"
    "display" "banner" false "simulator" "check_memory" false (by decide +kernel)
  obtain ⟨succeeds, holds, order, -⟩ := ofText_decodes_exactly accepted tables
  have same : SameContents entries other := by
    refine ⟨fun name => ?_, fun name key v => ?_⟩
    · simp [keys, keys', or_comm]
    · rw [given, given', or_comm]
  have wellTyped : WellTyped entries := by
    constructor
    · intro entry member
      have named : entry.1.value ∈ entries.keys := List.mem_map_of_mem member
      rw [keys, List.mem_pair] at named
      rcases named with named | named
      · exact exists_mem_schema_iff.2 (.inl named)
      · exact exists_mem_schema_iff.2 (.inr (.inr named))
    · intro name key v found
      rcases (given name key v).1 found with ⟨rfl, rfl, rfl⟩ | ⟨rfl, rfl, rfl⟩
      · exact fits_simulator_iff.2 (.inr (.inr ⟨rfl, false, rfl⟩))
      · exact fits_display_iff.2 (.inl ⟨rfl, false, rfl⟩)
  have inRange : InRange entries := ⟨by simp [given], by simp [given]⟩
  obtain ⟨config, done⟩ := succeeds.2 ⟨wellTyped, inRange⟩
  have settings := holds config done
  have memory := settings.checkMemory.given (.boolean false) (by simp [given])
  have banner := settings.banner.given (.boolean false) (by simp [given])
  refine ⟨config, unambiguous_bool memory rfl, unambiguous_bool banner rfl, ?_, done,
    order _ _ accepted' tables' same config done⟩
  exact settings.maxInputWidth.absent (by simp [given])

/-- A value out of range is not reported while another is of the wrong kind. -/
example : (match ofText "[simulator]\nmax_input_width = 0\n[display]\nbanner = 1\n" with
    | .error (.undecodable _ _) => true
    | _ => false) = true := by
  decide +kernel

end Config

end PreimageSearch
