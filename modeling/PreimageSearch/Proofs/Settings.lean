import PreimageSearch.Config
import PreimageSearch.Proofs.Documents
import PreimageSearch.Proofs.Numerals

/-!
# What a document says about the settings

A document whose entries are all tables gives values under a section and a key (`Given`). The fields
of the sections and the kinds of their values are listed in `schema`; a document is well typed if it
has no other sections, keys or kinds. Decoding succeeds on exactly the well-typed documents
(`exists_decode_iff`), and then each setting is the value given for it, or its default if none is
given (`Holds`). Everything is said by membership, so the order of sections and keys does not
matter.
-/

namespace PreimageSearch.Config

open Toml

/-- A key with its value. -/
abbrev Entry := Located String × Located Value

/-! ## What is said -/

/-- The kinds of values of fields. -/
inductive Kind where
  /-- An integer from zero to `2 ^ 32 - 1`. -/
  | word
  /-- An integer from zero on. -/
  | natural
  | boolean
  | text
  deriving DecidableEq, Repr

/-- The values of a kind. -/
def Kind.Admits : Kind → Value → Prop
  | word, v => ∃ n : Int, v = .integer n ∧ 0 ≤ n ∧ n < 2 ^ 32
  | natural, v => ∃ n : Int, v = .integer n ∧ 0 ≤ n
  | boolean, v => ∃ b, v = .boolean b
  | text, v => ∃ s, v = .string s

/-- The fields of each section, with the kinds of their values. -/
def schema : List (String × List (String × Kind)) :=
  [("simulator", [("max_input_width", .word), ("seed", .natural), ("check_memory", .boolean)]),
    ("logging", [("enabled", .boolean), ("log_file", .text)]),
    ("display", [("banner", .boolean), ("progress", .boolean)])]

/-- The value is of the kind that the section has for the key. -/
def Fits (sectionName key : String) (v : Value) : Prop :=
  ∃ fields, (sectionName, fields) ∈ schema ∧ ∃ kind, (key, kind) ∈ fields ∧ kind.Admits v

/-- All entries are tables. -/
def OnlyTables (entries : Entries) : Prop :=
  ∀ entry ∈ entries, ∃ origin inner, entry.2.value = .table origin inner

/-- There is the value under the key in the table of the section. -/
def Given (entries : Entries) (sectionName key : String) (v : Value) : Prop :=
  ∃ entry ∈ entries, entry.1.value = sectionName ∧
    ∃ origin inner, entry.2.value = .table origin inner ∧
      ∃ field ∈ inner, field.1.value = key ∧ field.2.value = v

/-- Every section and every key in it is known, and every value is of the kind of its field. -/
structure WellTyped (entries : Entries) : Prop where
  sections : ∀ entry ∈ entries, ∃ fields, (entry.1.value, fields) ∈ schema
  fields : ∀ sectionName key v, Given entries sectionName key v → Fits sectionName key v

/-- The setting is the value given, or the default if there is none. -/
structure Settles {β : Type} (entries : Entries) (sectionName key : String)
    (written : β → Value → Prop) (default setting : β) : Prop where
  given : ∀ v, Given entries sectionName key v → written setting v
  absent : (∀ v, ¬ Given entries sectionName key v) → setting = default

/-- The number is written as an integer. -/
def WrittenNat (n : Nat) (v : Value) : Prop :=
  v = .integer n

def WrittenBool (b : Bool) (v : Value) : Prop :=
  v = .boolean b

def WrittenText (s : String) (v : Value) : Prop :=
  v = .string s

/-- A setting that may be missing is there, and it is written so. -/
def WrittenSome {α : Type} (written : α → Value → Prop) (setting : Option α) (v : Value) : Prop :=
  ∃ a, setting = some a ∧ written a v

/-- Each setting is the value given for it, or its default. -/
structure Holds (entries : Entries) (config : Config) : Prop where
  maxInputWidth : Settles entries "simulator" "max_input_width" WrittenNat 20
    config.simulator.maxInputWidth
  seed : Settles entries "simulator" "seed" (WrittenSome WrittenNat) none config.simulator.seed
  checkMemory : Settles entries "simulator" "check_memory" WrittenBool true
    config.simulator.checkMemory
  enabled : Settles entries "logging" "enabled" WrittenBool false config.logging.enabled
  logFile : Settles entries "logging" "log_file" (WrittenSome WrittenText) none
    config.logging.logFile
  banner : Settles entries "display" "banner" WrittenBool true config.display.banner
  progress : Settles entries "display" "progress" WrittenBool true config.display.progress

/-! ## One setting after another -/

section Fold

variable {σ β ε : Type} {set : σ → Entry → Except ε σ} {P taken : Entry → Prop} {key : String}
  {get : σ → β} {written : β → Value → Prop} {entries : Entries} {s s' : σ}

theorem bind_eq_ok_iff {α : Type} {given : Except ε α} {next : α → Except ε σ} :
    given >>= next = .ok s ↔ ∃ a, given = .ok a ∧ next a = .ok s := by
  cases given with
  | error error => exact ⟨nofun, nofun⟩
  | ok a =>
    change next a = .ok s ↔ _
    simp

theorem return_eq_ok_iff {α : Type} {given : Except ε α} {f : α → σ} :
    (do return f (← given)) = .ok s ↔ ∃ a, given = .ok a ∧ f a = s := by
  rw [bind_eq_ok_iff]
  simp only [pure, Except.pure, Except.ok.injEq]

/-- All entries are set exactly if each of them is one that the setter takes. -/
theorem exists_foldlM_iff (hP : ∀ entry ∈ entries, P entry)
    (takes : ∀ s entry, P entry → ((∃ s', set s entry = .ok s') ↔ taken entry)) (s : σ) :
    (∃ s', entries.foldlM set s = .ok s') ↔ ∀ entry ∈ entries, taken entry := by
  induction entries generalizing s with
  | nil => simpa using ⟨s, rfl⟩
  | cons entry entries ih =>
    rw [List.forall_mem_cons] at hP ⊢
    simp only [List.foldlM_cons, bind_eq_ok_iff]
    constructor
    · rintro ⟨s', middle, first, rest⟩
      exact ⟨(takes s entry hP.1).1 ⟨middle, first⟩, (ih hP.2 middle).1 ⟨s', rest⟩⟩
    · rintro ⟨first, rest⟩
      obtain ⟨middle, set⟩ := (takes s entry hP.1).2 first
      obtain ⟨s', done⟩ := (ih hP.2 middle).2 rest
      exact ⟨s', middle, set, done⟩

/-- The entries of a key, and no others, write what `get` looks at. -/
structure Sets (P : Entry → Prop) (set : σ → Entry → Except ε σ) (key : String) (get : σ → β)
    (written : β → Value → Prop) : Prop where
  own : ∀ {s s' entry}, P entry → set s entry = .ok s' → entry.1.value = key →
    written (get s') entry.2.value
  other : ∀ {s s' entry}, P entry → set s entry = .ok s' → entry.1.value ≠ key → get s' = get s

/-- Where keys are distinct, the one entry of a key decides; without one nothing changes. -/
theorem Sets.foldlM (h : Sets P set key get written) (hP : ∀ entry ∈ entries, P entry)
    (distinct : entries.keys.Nodup) (done : entries.foldlM set s = .ok s') :
    (∀ entry ∈ entries, entry.1.value = key → written (get s') entry.2.value) ∧
      (key ∉ entries.keys → get s' = get s) := by
  induction entries generalizing s with
  | nil =>
    cases done
    exact ⟨by simp, fun _ => rfl⟩
  | cons first entries ih =>
    rw [List.foldlM_cons, bind_eq_ok_iff] at done
    obtain ⟨middle, set, done⟩ := done
    rw [List.forall_mem_cons] at hP
    have apart : first.1.value ∉ Entries.keys entries := (List.nodup_cons.1 distinct).1
    obtain ⟨own, other⟩ := ih hP.2 (List.nodup_cons.1 distinct).2 done
    constructor
    · intro entry member named
      rcases List.mem_cons.1 member with rfl | later
      · rw [other (named ▸ apart)]
        exact h.own hP.1 set named
      · exact own entry later named
    · intro absent
      have absent' : key ≠ first.1.value ∧ key ∉ Entries.keys entries := by
        simpa [Entries.keys, not_or] using absent
      rw [other absent'.2, h.other hP.1 set absent'.1.symm]

end Fold

/-! ## Fields -/

section Fields

variable {v : Located Value} {entry : Entry} {s s' : SimulatorSettings} {l l' : LoggingSettings}
  {d d' : DisplaySettings}

theorem read_eq_ok_iff {α : Type} {meaning : Value → Except DecodeError α} {a : α} :
    read meaning v = .ok a ↔ meaning v.value = .ok a := by
  unfold read
  cases meaning v.value <;> simp [Except.mapError]

theorem contains_unsigned_iff {bits : Nat} {n : Int} :
    (IntegerKind.unsigned bits).contains n = true ↔ 0 ≤ n ∧ n < 2 ^ bits := by
  unfold IntegerKind.contains
  rw [Bool.and_eq_true, decide_eq_true_iff, decide_eq_true_iff]
  exact and_congr Iff.rfl Integer.le_maxOfWidth_iff_lt

theorem read_unsigned_iff {bits n : Nat} :
    read (unsigned bits) v = .ok n ↔ WrittenNat n v.value ∧ n < 2 ^ bits := by
  rw [read_eq_ok_iff]
  unfold unsigned WrittenNat
  split
  · next m written =>
    rw [written, Value.integer.injEq]
    split
    · next held =>
      obtain ⟨least, most⟩ := contains_unsigned_iff.1 held
      rw [Except.ok.injEq]
      obtain ⟨k, rfl⟩ := Int.eq_ofNat_of_zero_le least
      rw [Int.toNat_natCast, Nat.cast_inj]
      constructor
      · rintro rfl
        exact ⟨rfl, by exact_mod_cast most⟩
      · exact And.left
    · next outside =>
      refine ⟨nofun, ?_⟩
      rintro ⟨rfl, small⟩
      exact absurd (contains_unsigned_iff.2 ⟨by omega, by exact_mod_cast small⟩) outside
  · next other => exact ⟨nofun, fun written => absurd written.1 (other n)⟩

theorem read_boolean_iff {b : Bool} : read boolean v = .ok b ↔ WrittenBool b v.value := by
  rw [read_eq_ok_iff]
  unfold boolean WrittenBool
  split
  · next given written => simp [written]
  · next other => exact ⟨nofun, fun written => absurd written (other b)⟩

theorem read_path_iff {text : String} : read path v = .ok text ↔ WrittenText text v.value := by
  rw [read_eq_ok_iff]
  unfold path WrittenText
  split
  · next given written => simp [written]
  · next other => exact ⟨nofun, fun written => absurd written (other text)⟩

/-- What setting a field of the simulator can do. -/
theorem setSimulator_eq_ok_iff : setSimulator s entry = .ok s' ↔
    (entry.1.value = "max_input_width" ∧ ∃ n : Nat, (WrittenNat n entry.2.value ∧ n < 2 ^ 32) ∧
      { s with maxInputWidth := n } = s') ∨
    (entry.1.value = "seed" ∧ ∃ n : Nat, (WrittenNat n entry.2.value ∧ n < 2 ^ 64) ∧
      { s with seed := some n } = s') ∨
    (entry.1.value = "check_memory" ∧ ∃ b, WrittenBool b entry.2.value ∧
      { s with checkMemory := b } = s') := by
  unfold setSimulator
  split
  · next named =>
    rw [return_eq_ok_iff]
    simp [named, read_unsigned_iff]
  · next named =>
    rw [return_eq_ok_iff]
    simp [named, read_unsigned_iff]
  · next named =>
    rw [return_eq_ok_iff]
    simp [named, read_boolean_iff]
  · next other width seed memory =>
    refine ⟨nofun, ?_⟩
    rintro (⟨named, -⟩ | ⟨named, -⟩ | ⟨named, -⟩)
    · exact absurd named width
    · exact absurd named seed
    · exact absurd named memory

theorem setLogging_eq_ok_iff : setLogging l entry = .ok l' ↔
    (entry.1.value = "enabled" ∧ ∃ b, WrittenBool b entry.2.value ∧ { l with enabled := b } = l') ∨
    (entry.1.value = "log_file" ∧ ∃ text, WrittenText text entry.2.value ∧
      { l with logFile := some text } = l') := by
  unfold setLogging
  split
  · next named =>
    rw [return_eq_ok_iff]
    simp [named, read_boolean_iff]
  · next named =>
    rw [return_eq_ok_iff]
    simp [named, read_path_iff]
  · next other enabled file =>
    refine ⟨nofun, ?_⟩
    rintro (⟨named, -⟩ | ⟨named, -⟩)
    · exact absurd named enabled
    · exact absurd named file

theorem setDisplay_eq_ok_iff : setDisplay d entry = .ok d' ↔
    (entry.1.value = "banner" ∧ ∃ b, WrittenBool b entry.2.value ∧ { d with banner := b } = d') ∨
    (entry.1.value = "progress" ∧ ∃ b, WrittenBool b entry.2.value ∧
      { d with progress := b } = d') := by
  unfold setDisplay
  split
  · next named =>
    rw [return_eq_ok_iff]
    simp [named, read_boolean_iff]
  · next named =>
    rw [return_eq_ok_iff]
    simp [named, read_boolean_iff]
  · next other banner progress =>
    refine ⟨nofun, ?_⟩
    rintro (⟨named, -⟩ | ⟨named, -⟩)
    · exact absurd named banner
    · exact absurd named progress

/-! ### Which values are taken -/

theorem admits_word_iff {v : Value} :
    Kind.word.Admits v ↔ ∃ n : Nat, WrittenNat n v ∧ n < 2 ^ 32 := by
  constructor
  · rintro ⟨n, rfl, least, most⟩
    obtain ⟨k, rfl⟩ := Int.eq_ofNat_of_zero_le least
    exact ⟨k, rfl, by omega⟩
  · rintro ⟨n, rfl, most⟩
    exact ⟨n, rfl, by omega, by omega⟩

/-- An integer of a document never outgrows the 64 bits of a natural number. -/
theorem admits_natural_iff {v : Value} (h : v.WellFormed) :
    Kind.natural.Admits v ↔ ∃ n : Nat, WrittenNat n v ∧ n < 2 ^ 64 := by
  constructor
  · rintro ⟨n, rfl, least⟩
    obtain ⟨k, rfl⟩ := Int.eq_ofNat_of_zero_le least
    cases h with
    | integer held =>
      have most : (k : Int) ≤ maxOfWidth 63 := of_decide_eq_true (Bool.and_eq_true_iff.1 held).2
      have wide : maxOfWidth 63 < 2 ^ 64 := by decide
      exact ⟨k, rfl, by omega⟩
  · rintro ⟨n, rfl, -⟩
    exact ⟨n, rfl, by omega⟩

theorem fits_simulator_iff {key : String} {v : Value} : Fits "simulator" key v ↔
    (key = "max_input_width" ∧ Kind.word.Admits v) ∨ (key = "seed" ∧ Kind.natural.Admits v) ∨
      (key = "check_memory" ∧ Kind.boolean.Admits v) := by
  simp [Fits, schema, or_and_right, exists_or, and_assoc]

theorem fits_logging_iff {key : String} {v : Value} : Fits "logging" key v ↔
    (key = "enabled" ∧ Kind.boolean.Admits v) ∨ (key = "log_file" ∧ Kind.text.Admits v) := by
  simp [Fits, schema, or_and_right, exists_or, and_assoc]

theorem fits_display_iff {key : String} {v : Value} : Fits "display" key v ↔
    (key = "banner" ∧ Kind.boolean.Admits v) ∨ (key = "progress" ∧ Kind.boolean.Admits v) := by
  simp [Fits, schema, or_and_right, exists_or, and_assoc]

theorem exists_setSimulator_iff (s : SimulatorSettings) (entry : Entry)
    (h : entry.2.value.WellFormed) : (∃ s', setSimulator s entry = .ok s') ↔
      Fits "simulator" entry.1.value entry.2.value := by
  rw [fits_simulator_iff, admits_word_iff, admits_natural_iff h]
  simp only [setSimulator_eq_ok_iff, exists_or]
  refine or_congr ?_ (or_congr ?_ ?_)
  · simp
  · simp
  · simp [Kind.Admits, WrittenBool]

theorem exists_setLogging_iff (l : LoggingSettings) (entry : Entry) :
    (∃ l', setLogging l entry = .ok l') ↔ Fits "logging" entry.1.value entry.2.value := by
  rw [fits_logging_iff]
  simp only [setLogging_eq_ok_iff, exists_or]
  refine or_congr ?_ ?_
  · simp [Kind.Admits, WrittenBool]
  · simp [Kind.Admits, WrittenText]

theorem exists_setDisplay_iff (d : DisplaySettings) (entry : Entry) :
    (∃ d', setDisplay d entry = .ok d') ↔ Fits "display" entry.1.value entry.2.value := by
  rw [fits_display_iff]
  simp only [setDisplay_eq_ok_iff, exists_or]
  refine or_congr ?_ ?_
  · simp [Kind.Admits, WrittenBool]
  · simp [Kind.Admits, WrittenBool]

/-! ### What the fields write -/

variable {P : Entry → Prop}

theorem sets_maxInputWidth : Sets P setSimulator "max_input_width" SimulatorSettings.maxInputWidth
    WrittenNat where
  own _ set named := by
    rw [setSimulator_eq_ok_iff] at set
    grind
  other _ set named := by
    rw [setSimulator_eq_ok_iff] at set
    grind

theorem sets_seed : Sets P setSimulator "seed" SimulatorSettings.seed
    (WrittenSome WrittenNat) where
  own _ set named := by
    rw [setSimulator_eq_ok_iff] at set
    grind [WrittenSome]
  other _ set named := by
    rw [setSimulator_eq_ok_iff] at set
    grind

theorem sets_checkMemory : Sets P setSimulator "check_memory" SimulatorSettings.checkMemory
    WrittenBool where
  own _ set named := by
    rw [setSimulator_eq_ok_iff] at set
    grind
  other _ set named := by
    rw [setSimulator_eq_ok_iff] at set
    grind

theorem sets_enabled : Sets P setLogging "enabled" LoggingSettings.enabled
    WrittenBool where
  own _ set named := by
    rw [setLogging_eq_ok_iff] at set
    grind
  other _ set named := by
    rw [setLogging_eq_ok_iff] at set
    grind

theorem sets_logFile : Sets P setLogging "log_file" LoggingSettings.logFile
    (WrittenSome WrittenText) where
  own _ set named := by
    rw [setLogging_eq_ok_iff] at set
    grind [WrittenSome]
  other _ set named := by
    rw [setLogging_eq_ok_iff] at set
    grind

theorem sets_banner : Sets P setDisplay "banner" DisplaySettings.banner
    WrittenBool where
  own _ set named := by
    rw [setDisplay_eq_ok_iff] at set
    grind
  other _ set named := by
    rw [setDisplay_eq_ok_iff] at set
    grind

theorem sets_progress : Sets P setDisplay "progress" DisplaySettings.progress
    WrittenBool where
  own _ set named := by
    rw [setDisplay_eq_ok_iff] at set
    grind
  other _ set named := by
    rw [setDisplay_eq_ok_iff] at set
    grind

end Fields

/-! ## Sections -/

section Sections

variable {config config' : Config} {entry : Entry} {origin : Origin} {inner entries : Entries}

theorem sectionEntries_of_table {v : Located Value} (table : v.value = .table origin inner)
    (name : String) (fields : List String) : sectionEntries name fields v = .ok inner := by
  simp only [sectionEntries, table]

theorem bind_sectionEntries_eq_ok_iff {σ : Type} {set : σ → Entry → Except (Located DecodeError) σ}
    {start : σ} {place : σ → Config} {v : Located Value} (table : v.value = .table origin inner)
    (name : String) (fields : List String) :
    (do
      let entries ← sectionEntries name fields v
      return place (← entries.foldlM set start)) = .ok config ↔
        ∃ settings, inner.foldlM set start = .ok settings ∧ place settings = config := by
  rw [sectionEntries_of_table table, bind_eq_ok_iff]
  simp only [Except.ok.injEq, exists_eq_left', return_eq_ok_iff]

/-- What setting a section to a table can do. -/
theorem setSection_eq_ok_iff (table : entry.2.value = .table origin inner) :
    setSection config entry = .ok config' ↔
      (entry.1.value = "simulator" ∧ ∃ settings, inner.foldlM setSimulator {} = .ok settings ∧
        { config with simulator := settings } = config') ∨
      (entry.1.value = "logging" ∧ ∃ settings, inner.foldlM setLogging {} = .ok settings ∧
        { config with logging := settings } = config') ∨
      (entry.1.value = "display" ∧ ∃ settings, inner.foldlM setDisplay {} = .ok settings ∧
        { config with display := settings } = config') := by
  unfold setSection
  split
  · next named =>
    rw [bind_sectionEntries_eq_ok_iff table]
    simp [named]
  · next named =>
    rw [bind_sectionEntries_eq_ok_iff table]
    simp [named]
  · next named =>
    rw [bind_sectionEntries_eq_ok_iff table]
    simp [named]
  · next other simulator logging display =>
    refine ⟨nofun, ?_⟩
    rintro (⟨named, -⟩ | ⟨named, -⟩ | ⟨named, -⟩)
    · exact absurd named simulator
    · exact absurd named logging
    · exact absurd named display

/-- The entry of a section: a table that is well formed. -/
def IsSection (entry : Entry) : Prop :=
  ∃ origin inner, entry.2.value = .table origin inner ∧ Entries.WellFormed inner

/-- The settings are what the table says, entry after entry. -/
def WrittenTable {σ ε : Type} (set : σ → Entry → Except ε σ) (start settings : σ) (v : Value) :
    Prop :=
  ∀ origin inner, v = .table origin inner → inner.foldlM set start = .ok settings

theorem sets_simulator : Sets IsSection setSection "simulator" Config.simulator
    (WrittenTable setSimulator {}) where
  own := by
    rintro s s' entry ⟨origin, inner, table, -⟩ set named origin' inner' same
    rw [setSection_eq_ok_iff table] at set
    grind
  other := by
    rintro s s' entry ⟨origin, inner, table, -⟩ set named
    rw [setSection_eq_ok_iff table] at set
    grind

theorem sets_logging : Sets IsSection setSection "logging" Config.logging
    (WrittenTable setLogging {}) where
  own := by
    rintro s s' entry ⟨origin, inner, table, -⟩ set named origin' inner' same
    rw [setSection_eq_ok_iff table] at set
    grind
  other := by
    rintro s s' entry ⟨origin, inner, table, -⟩ set named
    rw [setSection_eq_ok_iff table] at set
    grind

theorem sets_display : Sets IsSection setSection "display" Config.display
    (WrittenTable setDisplay {}) where
  own := by
    rintro s s' entry ⟨origin, inner, table, -⟩ set named origin' inner' same
    rw [setSection_eq_ok_iff table] at set
    grind
  other := by
    rintro s s' entry ⟨origin, inner, table, -⟩ set named
    rw [setSection_eq_ok_iff table] at set
    grind

theorem isSection_of_mem (wf : entries.WellFormed) (tables : OnlyTables entries) :
    ∀ entry ∈ entries, IsSection entry := by
  intro entry member
  obtain ⟨origin, inner, table⟩ := tables entry member
  exact ⟨origin, inner, table, Entries.wellFormed_table_iff.1 (table ▸ wf.each entry member)⟩

/-- A section is decoded to what its table says, and a field of it is what that table has under its
key. -/
theorem settles_of_sets {σ β : Type} {set : σ → Entry → Except (Located DecodeError) σ} {start : σ}
    {name key : String} {part : Config → σ} {get : σ → β} {written : β → Value → Prop}
    (wf : entries.WellFormed) (tables : OnlyTables entries)
    (whole : Sets IsSection setSection name part (WrittenTable set start))
    (field : Sets (fun _ => True) set key get written) (begins : part {} = start)
    (done : decode entries = .ok config) :
    Settles entries name key written (get start) (get (part config)) := by
  have sections := isSection_of_mem wf tables
  obtain ⟨own, other⟩ := whole.foldlM sections wf.distinct done
  -- what holds of the one table of the section, if there is one
  have inside : ∀ entry ∈ entries, entry.1.value = name → ∀ origin inner,
      entry.2.value = .table origin inner →
        (∀ field ∈ inner, field.1.value = key → written (get (part config)) field.2.value) ∧
        (key ∉ Entries.keys inner → get (part config) = get start) := by
    intro entry member named origin inner table
    have distinct := (Entries.wellFormed_table_iff.1 (table ▸ wf.each entry member)).distinct
    exact field.foldlM (by simp) distinct (own entry member named origin inner table)
  constructor
  · rintro v ⟨entry, member, named, origin, inner, table, field, inField, keyed, rfl⟩
    exact (inside entry member named origin inner table).1 field inField keyed
  · intro absent
    by_cases present : name ∈ entries.keys
    · obtain ⟨entry, member, named⟩ := List.mem_map.1 present
      obtain ⟨origin, inner, table⟩ := tables entry member
      refine (inside entry member named origin inner table).2 fun inKeys => ?_
      obtain ⟨field, inField, keyed⟩ := List.mem_map.1 inKeys
      exact absent _ ⟨entry, member, named, origin, inner, table, field, inField, keyed, rfl⟩
    · rw [other present, begins]

/-- Decoding gives each setting the value that is given for it, or its default. -/
theorem decode_holds (wf : entries.WellFormed) (tables : OnlyTables entries)
    (done : decode entries = .ok config) : Holds entries config where
  maxInputWidth := settles_of_sets wf tables sets_simulator sets_maxInputWidth rfl done
  seed := settles_of_sets wf tables sets_simulator sets_seed rfl done
  checkMemory := settles_of_sets wf tables sets_simulator sets_checkMemory rfl done
  enabled := settles_of_sets wf tables sets_logging sets_enabled rfl done
  logFile := settles_of_sets wf tables sets_logging sets_logFile rfl done
  banner := settles_of_sets wf tables sets_display sets_banner rfl done
  progress := settles_of_sets wf tables sets_display sets_progress rfl done

/-! ### Which documents are decoded -/

/-- The entries of a table all fit the section. -/
def AllFit (entry : Entry) : Prop :=
  ∀ origin inner, entry.2.value = .table origin inner →
    ∀ field ∈ inner, Fits entry.1.value field.1.value field.2.value

theorem exists_mem_schema_iff {name : String} : (∃ fields, (name, fields) ∈ schema) ↔
    name = "simulator" ∨ name = "logging" ∨ name = "display" := by
  simp [schema, exists_or]

theorem exists_setSection_iff (config : Config) (entry : Entry) (isSection : IsSection entry) :
    (∃ config', setSection config entry = .ok config') ↔
      (∃ fields, (entry.1.value, fields) ∈ schema) ∧ AllFit entry := by
  obtain ⟨origin, inner, table, wf⟩ := isSection
  have simulator := exists_foldlM_iff wf.each exists_setSimulator_iff {}
  have logging := exists_foldlM_iff wf.each (fun s field _ => exists_setLogging_iff s field) {}
  have display := exists_foldlM_iff wf.each (fun s field _ => exists_setDisplay_iff s field) {}
  have allFit : AllFit entry ↔ ∀ field ∈ inner, Fits entry.1.value field.1.value field.2.value := by
    simp [AllFit, table]
  rw [allFit, exists_mem_schema_iff]
  simp only [setSection_eq_ok_iff table, exists_or, or_and_right]
  refine or_congr ?_ (or_congr ?_ ?_)
  · rw [exists_and_left]
    refine and_congr_right fun named => ?_
    rw [named, ← simulator]
    simp
  · rw [exists_and_left]
    refine and_congr_right fun named => ?_
    rw [named, ← logging]
    simp
  · rw [exists_and_left]
    refine and_congr_right fun named => ?_
    rw [named, ← display]
    simp

/-- The documents that are decoded are the well-typed ones. -/
theorem exists_decode_iff (wf : entries.WellFormed) (tables : OnlyTables entries) :
    (∃ config, decode entries = .ok config) ↔ WellTyped entries := by
  have sections := isSection_of_mem wf tables
  unfold decode
  rw [exists_foldlM_iff sections exists_setSection_iff]
  constructor
  · intro taken
    refine ⟨fun entry member => (taken entry member).1, ?_⟩
    rintro name key v ⟨entry, member, rfl, origin, inner, table, field, inField, rfl, rfl⟩
    exact (taken entry member).2 origin inner table field inField
  · intro wellTyped entry member
    refine ⟨wellTyped.sections entry member, ?_⟩
    intro origin inner table field inField
    exact wellTyped.fields _ _ _
      ⟨entry, member, rfl, origin, inner, table, field, inField, rfl, rfl⟩

end Sections

end PreimageSearch.Config
