import Mathlib.Data.List.Nodup
import PreimageSearch.Toml.Document

/-!
# Well-formed documents

In the entries of a document no table defines a key twice, and every integer is one of 64 bits
(`Value.WellFormed`). Every operation that adds to a table keeps this, and everything that a reader
of values gives has it, so it holds of the entries of every text that is read
(`Document.read?_wellFormed`).
-/

namespace PreimageSearch.Toml

/-! ## What readers give -/

namespace Reader

variable {α β : Type} {P Q : α → Prop} {reader other : Reader α}

/-- Whatever the reader gives has the property. -/
def Gives (reader : Reader α) (P : α → Prop) : Prop :=
  ∀ ⦃input a rest⦄, reader input = some (a, rest) → P a

theorem gives_pure {a : α} (h : P a) : Gives (pure a) P := by
  intro input b rest read
  cases read
  exact h

theorem gives_failure : Gives (failure : Reader α) P := by
  intro input a rest read
  cases read

theorem Gives.bind {next : α → Reader β} {R : β → Prop} (h : Gives reader P)
    (h' : ∀ a, P a → Gives (next a) R) : Gives (reader >>= next) R := by
  intro input b rest read
  obtain ⟨⟨a, middle⟩, first, second⟩ := Option.bind_eq_some_iff.1 read
  exact h' a (h first) second

/-- What was read before may be left out of account. -/
theorem gives_bind {next : α → Reader β} {R : β → Prop} (h : ∀ a, Gives (next a) R) :
    Gives (reader >>= next) R := by
  have any : Gives reader fun _ => True := fun _ _ _ _ => trivial
  exact any.bind fun a _ => h a

theorem Gives.map {f : α → β} {R : β → Prop} (h : Gives reader P) (h' : ∀ a, P a → R (f a)) :
    Gives (do return f (← reader)) R :=
  h.bind fun a ha => gives_pure (h' a ha)

theorem Gives.orElse (h : Gives reader P) (h' : Gives other P) : Gives (reader <|> other) P := by
  intro input a rest read
  change (reader input <|> other input) = some (a, rest) at read
  cases first : reader input with
  | none =>
    rw [first] at read
    exact h' read
  | some given =>
    rw [first] at read
    cases read
    exact h first

theorem Gives.located (h : Gives reader P) :
    Gives (Reader.located reader) fun given => P given.value := by
  intro input given rest read
  unfold Reader.located at read
  split at read
  · next a behind first =>
    cases read
    exact h first
  · cases read

theorem Gives.maybe (h : Gives reader P) :
    Gives (Reader.maybe reader) fun given => ∀ a, given = some a → P a := by
  rintro input given rest read a rfl
  unfold Reader.maybe at read
  split at read
  · next first =>
    cases read
    exact h first
  · cases read

theorem forall_mem_manyFrom (h : Gives reader P) {given : List α} (before : ∀ a ∈ given, P a)
    (input : Input) : ∀ a ∈ (manyFrom reader given input).1, P a := by
  fun_induction manyFrom reader given input with
  | case1 given input stopped => simpa using before
  | case2 given input a rest read shorter ih =>
    apply ih
    rw [List.forall_mem_cons]
    exact ⟨h read, before⟩
  | case3 given input a rest read longer => simpa using before

theorem Gives.many (h : Gives reader P) :
    Gives (Reader.many reader) fun given => ∀ a ∈ given, P a := by
  intro input given rest read
  have none : ∀ a ∈ ([] : List α), P a := by simp
  have all := forall_mem_manyFrom h none input
  rwa [Option.some.inj read] at all

theorem Gives.separated (separator : Reader Unit) (h : Gives reader P) :
    Gives (Reader.separated separator reader) fun given => ∀ a ∈ given, P a := by
  refine h.bind fun first hfirst => ?_
  have later : Gives (do separator; reader) P := gives_bind fun _ => h
  refine later.many.map fun rest hrest => ?_
  rw [List.forall_mem_cons]
  exact ⟨hfirst, hrest⟩

end Reader

/-! ## Well-formed values -/

/-- No table in the value defines a key twice, and its integers are of 64 bits. -/
inductive Value.WellFormed : Value → Prop
  | string (text : String) : WellFormed (.string text)
  | integer {n : Int} (held : IntegerKind.signed64.contains n = true) : WellFormed (.integer n)
  | float (x : Float) : WellFormed (.float x)
  | boolean (b : Bool) : WellFormed (.boolean b)
  | datetime : WellFormed .datetime
  | array {items : List (Located Value)} (each : ∀ item ∈ items, WellFormed item.value) :
    WellFormed (.array items)
  | table {origin : Origin} {entries : List (Located String × Located Value)}
    (distinct : (entries.map fun entry => entry.1.value).Nodup)
    (each : ∀ entry ∈ entries, WellFormed entry.2.value) : WellFormed (.table origin entries)
  | tables {items : List (Located (List (Located String × Located Value)))}
    (distinct : ∀ item ∈ items, (item.value.map fun entry => entry.1.value).Nodup)
    (each : ∀ item ∈ items, ∀ entry ∈ item.value, WellFormed entry.2.value) :
    WellFormed (.tables items)

namespace Entries

/-- The keys of the entries. -/
def keys (entries : Entries) : List String :=
  entries.map fun entry => entry.1.value

/-- No key is defined twice, here or further inside, and integers are of 64 bits. -/
structure WellFormed (entries : Entries) : Prop where
  distinct : entries.keys.Nodup
  each : ∀ entry ∈ entries, entry.2.value.WellFormed

variable {entries after inner : Entries} {key : Located String} {value : Located Value}
  {origin : Origin} {items : List (Located Entries)} {name : String}

theorem wellFormed_nil : WellFormed [] :=
  ⟨List.nodup_nil, by simp⟩

theorem wellFormed_table_iff : (Value.table origin entries).WellFormed ↔ entries.WellFormed := by
  constructor
  · intro h
    cases h with
    | table distinct each => exact ⟨distinct, each⟩
  · rintro ⟨distinct, each⟩
    exact .table distinct each

theorem wellFormed_tables_iff :
    (Value.tables items).WellFormed ↔ ∀ item ∈ items, Entries.WellFormed item.value := by
  constructor
  · intro h item member
    cases h with
    | tables distinct each => exact ⟨distinct item member, each item member⟩
  · intro h
    exact .tables (fun item member => (h item member).distinct)
      fun item member => (h item member).each

theorem notMem_keys_of_find? (missing : entries.find? name = none) : name ∉ entries.keys := by
  rw [find?, Option.map_eq_none_iff, List.find?_eq_none] at missing
  intro member
  obtain ⟨entry, listed, named⟩ := List.mem_map.1 member
  exact missing entry listed (by simpa using named)

theorem WellFormed.of_find? (h : entries.WellFormed) (found : entries.find? name = some value) :
    value.value.WellFormed := by
  obtain ⟨entry, first, rfl⟩ := Option.map_eq_some_iff.1 found
  exact h.each entry (List.mem_of_find?_eq_some first)

theorem WellFormed.append (h : entries.WellFormed) (new : key.value ∉ entries.keys)
    (hv : value.value.WellFormed) : WellFormed (append key value entries) := by
  constructor
  · rw [keys, Entries.append, List.map_append, List.map_singleton]
    rw [List.nodup_append]
    refine ⟨h.distinct, List.nodup_singleton _, fun earlier member last same => ?_⟩
    rw [List.mem_singleton] at same
    rintro rfl
    exact new (same ▸ member)
  · intro entry member
    rcases List.mem_append.1 member with earlier | last
    · exact h.each entry earlier
    · rw [List.mem_singleton.1 last]
      exact hv

theorem keys_replace : keys (replace name value entries) = entries.keys := by
  unfold keys replace
  rw [List.map_map]
  apply List.map_congr_left
  intro entry member
  simp only [Function.comp_apply]
  split <;> rfl

theorem WellFormed.replace (h : entries.WellFormed) (hv : value.value.WellFormed) :
    WellFormed (replace name value entries) := by
  constructor
  · rw [keys_replace]
    exact h.distinct
  · intro entry member
    obtain ⟨old, listed, rfl⟩ := List.mem_map.1 member
    split
    · exact hv
    · exact h.each old listed

theorem WellFormed.erase (h : entries.WellFormed) : WellFormed (erase name entries) := by
  have kept : (Entries.erase name entries).Sublist entries := List.filter_sublist
  exact ⟨h.distinct.sublist (kept.map _), fun entry member => h.each entry (kept.subset member)⟩

theorem notMem_keys_erase : name ∉ keys (erase name entries) := by
  intro member
  obtain ⟨entry, listed, named⟩ := List.mem_map.1 member
  have other := (List.mem_filter.1 listed).2
  simp [named] at other

/-- Another table in place of the last of several keeps all of them well formed. -/
theorem wellFormed_dropLast_append {last : Located Entries}
    (h : ∀ item ∈ items, WellFormed item.value) (hl : WellFormed last.value) :
    (Value.tables (items.dropLast ++ [last])).WellFormed := by
  rw [wellFormed_tables_iff]
  intro item member
  rcases List.mem_append.1 member with earlier | latest
  · exact h item ((List.dropLast_sublist items).subset earlier)
  · rw [List.mem_singleton.1 latest]
    exact hl

/-! ## Definitions and headers -/

theorem exists_of_return {α β : Type} {given : Option α} {f : α → β} {b : β}
    (h : (do return f (← given)) = some b) : ∃ a, given = some a ∧ f a = b := by
  cases given with
  | none => cases h
  | some a => exact ⟨a, rfl, Option.some.inj h⟩

theorem WellFormed.define {path : List (Located String)} (h : entries.WellFormed)
    (hv : value.value.WellFormed) (defined : define key value path entries = some after) :
    after.WellFormed := by
  induction path generalizing entries after with
  | nil =>
    rw [Entries.define] at defined
    split at defined
    · next missing =>
      cases defined
      exact h.append (notMem_keys_of_find? missing) hv
    · cases defined
  | cons name path ih =>
    rw [Entries.define] at defined
    split at defined
    · next missing =>
      obtain ⟨inner, made, rfl⟩ := exists_of_return defined
      exact h.append (notMem_keys_of_find? missing)
        (wellFormed_table_iff.2 (ih wellFormed_nil made))
    · next outer span found =>
      obtain ⟨inner, made, rfl⟩ := exists_of_return defined
      have old := wellFormed_table_iff.1 (h.of_find? found)
      exact h.replace (wellFormed_table_iff.2 (ih old made))
    · next outer span found =>
      split at defined
      · cases defined
      obtain ⟨inner, made, rfl⟩ := exists_of_return defined
      have old := wellFormed_table_iff.1 (h.of_find? found)
      exact h.replace (wellFormed_table_iff.2 (ih old made))
    · next items span found =>
      split at defined
      · cases defined
      obtain ⟨last, latest, defined⟩ := Option.bind_eq_some_iff.1 defined
      obtain ⟨inner, made, rfl⟩ := exists_of_return defined
      have old := wellFormed_tables_iff.1 (h.of_find? found)
      have opened := ih (old last (List.mem_of_getLast? latest)) made
      exact h.replace (wellFormed_dropLast_append old opened)
    · cases defined

theorem WellFormed.defineAll {definitions : List Definition} (h : entries.WellFormed)
    (hd : ∀ d ∈ definitions, d.value.value.WellFormed)
    (defined : defineAll definitions entries = some after) : after.WellFormed := by
  induction definitions generalizing entries with
  | nil =>
    cases defined
    exact h
  | cons d definitions ih =>
    rw [Entries.defineAll, List.foldlM_cons] at defined
    obtain ⟨next, first, rest⟩ := Option.bind_eq_some_iff.1 defined
    rw [List.forall_mem_cons] at hd
    exact ih (h.define hd.1 first) hd.2 rest

/-- What a header changes stays well formed if the table that it means does. -/
theorem WellFormed.alter {change : Entries → Option Entries}
    (hc : ∀ {entries after : Entries}, entries.WellFormed → change entries = some after →
      after.WellFormed)
    {path : List (Located String)} (h : entries.WellFormed)
    (altered : alter change path entries = some after) : after.WellFormed := by
  induction path generalizing entries after with
  | nil => exact hc h altered
  | cons name path ih =>
    rw [Entries.alter] at altered
    split at altered
    · next missing =>
      obtain ⟨inner, made, rfl⟩ := exists_of_return altered
      exact h.append (notMem_keys_of_find? missing)
        (wellFormed_table_iff.2 (ih wellFormed_nil made))
    · cases altered
    · next origin outer span _ found =>
      obtain ⟨inner, made, rfl⟩ := exists_of_return altered
      have old := wellFormed_table_iff.1 (h.of_find? found)
      exact h.replace (wellFormed_table_iff.2 (ih old made))
    · next items span found =>
      obtain ⟨last, latest, altered⟩ := Option.bind_eq_some_iff.1 altered
      obtain ⟨inner, made, rfl⟩ := exists_of_return altered
      have old := wellFormed_tables_iff.1 (h.of_find? found)
      have opened := ih (old last (List.mem_of_getLast? latest)) made
      exact h.replace (wellFormed_dropLast_append old opened)
    · cases altered

variable {part : Part}

theorem WellFormed.openTable (hd : ∀ d ∈ part.definitions, d.value.value.WellFormed)
    (h : entries.WellFormed) (opened : openTable part entries = some after) :
    after.WellFormed := by
  unfold Entries.openTable at opened
  split at opened
  · next missing =>
    obtain ⟨inner, made, rfl⟩ := exists_of_return opened
    exact h.append (notMem_keys_of_find? missing)
      (wellFormed_table_iff.2 (wellFormed_nil.defineAll hd made))
  · next outer span found =>
    obtain ⟨inner, made, rfl⟩ := exists_of_return opened
    have old := wellFormed_table_iff.1 (h.of_find? found)
    exact h.erase.append notMem_keys_erase (wellFormed_table_iff.2 (old.defineAll hd made))
  · cases opened

theorem WellFormed.addTable (hd : ∀ d ∈ part.definitions, d.value.value.WellFormed)
    (h : entries.WellFormed) (added : addTable part entries = some after) : after.WellFormed := by
  unfold Entries.addTable at added
  split at added
  · next missing =>
    obtain ⟨inner, made, rfl⟩ := exists_of_return added
    have new := wellFormed_nil.defineAll hd made
    exact h.append (notMem_keys_of_find? missing) (wellFormed_tables_iff.2 (by simpa using new))
  · next items span found =>
    obtain ⟨inner, made, rfl⟩ := exists_of_return added
    have new := wellFormed_nil.defineAll hd made
    have old := wellFormed_tables_iff.1 (h.of_find? found)
    refine h.replace (wellFormed_tables_iff.2 fun item member => ?_)
    rcases List.mem_append.1 member with earlier | last
    · exact old item earlier
    · rw [List.mem_singleton.1 last]
      exact new
  · cases added

theorem WellFormed.addPart (hd : ∀ d ∈ part.definitions, d.value.value.WellFormed)
    (h : entries.WellFormed) (added : addPart entries part = some after) : after.WellFormed := by
  refine h.alter (fun old changed => ?_) added
  split at changed
  · exact old.addTable hd changed
  · exact old.openTable hd changed

theorem WellFormed.addParts {parts : List Part}
    (hd : ∀ part ∈ parts, ∀ d ∈ part.definitions, d.value.value.WellFormed)
    (h : entries.WellFormed) (added : parts.foldlM Entries.addPart entries = some after) :
    after.WellFormed := by
  induction parts generalizing entries with
  | nil =>
    cases added
    exact h
  | cons part parts ih =>
    rw [List.foldlM_cons] at added
    obtain ⟨next, first, rest⟩ := Option.bind_eq_some_iff.1 added
    rw [List.forall_mem_cons] at hd
    exact ih hd.2 (h.addPart hd.1 first) rest

end Entries

/-! ## Readers of values -/

open Reader

theorem gives_inRange (n : Int) :
    Gives (inRange n) fun given => IntegerKind.signed64.contains given = true := by
  unfold inRange
  split
  · next held => exact gives_pure held
  · exact gives_failure

theorem gives_based (letter : Char) (base : Nat) (accepts : Char → Bool) :
    Gives (based letter base accepts) fun n => IntegerKind.signed64.contains n = true :=
  gives_bind fun _ => gives_bind fun _ => gives_inRange _

theorem gives_integer : Gives integer fun n => IntegerKind.signed64.contains n = true := by
  refine (gives_based ..).orElse ((gives_based ..).orElse ((gives_based ..).orElse ?_))
  exact gives_bind fun _ => gives_bind fun _ => gives_inRange _

theorem gives_scalar : Gives scalar Value.WellFormed := by
  have any {α : Type} (reader : Reader α) : Gives reader fun _ => True := fun _ _ _ _ => trivial
  refine ((any string).map fun text _ => .string text).orElse ?_
  refine Gives.orElse (gives_bind fun _ => gives_pure .datetime) ?_
  refine ((any decimalFloat).map fun x _ => .float x).orElse ?_
  refine ((any specialFloat).map fun x _ => .float x).orElse ?_
  refine (gives_integer.map fun n held => .integer held).orElse ?_
  refine Gives.orElse (gives_bind fun _ => gives_pure (.boolean true)) ?_
  exact gives_bind fun _ => gives_pure (.boolean false)

variable {reader : Reader Value}

theorem gives_definition (h : Gives reader Value.WellFormed) :
    Gives (definition reader) fun d => d.value.value.WellFormed := by
  refine gives_bind fun parts => gives_bind fun _ => gives_bind fun _ => ?_
  refine h.located.bind fun v hv => ?_
  split
  · exact gives_pure hv
  · exact gives_failure

theorem gives_array (h : Gives reader Value.WellFormed) :
    Gives (array reader) Value.WellFormed := by
  have item : Gives (do filler; let v ← located reader; filler; return v)
      fun v => v.value.WellFormed :=
    gives_bind fun _ => h.located.bind fun v hv => gives_bind fun _ => gives_pure hv
  have items : Gives (do
      let items ← separated (exactly ',') do filler; let v ← located reader; filler; return v
      let _ ← maybe (exactly ',')
      return items) fun items => ∀ v ∈ items, v.value.WellFormed :=
    (item.separated _).bind fun items each => gives_bind fun _ => gives_pure each
  refine gives_bind fun _ => items.maybe.bind fun items each => ?_
  refine gives_bind fun _ => gives_bind fun _ => gives_pure (.array ?_)
  cases items with
  | none => simp
  | some items => exact each items rfl

theorem gives_inlineTable (h : Gives reader Value.WellFormed) :
    Gives (inlineTable reader) Value.WellFormed := by
  have item : Gives (do let d ← definition reader; spaces; return d)
      fun d => d.value.value.WellFormed :=
    (gives_definition h).bind fun d hd => gives_bind fun _ => gives_pure hd
  refine gives_bind fun _ => (item.separated _).maybe.bind fun given each => ?_
  refine gives_bind fun _ => gives_bind fun _ => ?_
  split
  · next entries defined =>
    refine gives_pure (Entries.wellFormed_table_iff.2
      (Entries.wellFormed_nil.defineAll (fun d member => ?_) defined))
    cases given with
    | none => simp at member
    | some definitions => exact each definitions rfl d member
  · exact gives_failure

theorem gives_value (depth : Nat) : Gives (value depth) Value.WellFormed := by
  induction depth with
  | zero => exact gives_scalar
  | succ depth ih => exact gives_scalar.orElse ((gives_array ih).orElse (gives_inlineTable ih))

theorem gives_definitions :
    Gives definitions fun given => ∀ d ∈ given, d.value.value.WellFormed := by
  refine gives_bind fun _ => Gives.many ?_
  refine (gives_definition (gives_value _)).bind fun d hd => ?_
  exact gives_bind fun _ => gives_bind fun _ => gives_pure hd

theorem gives_part : Gives part fun part => ∀ d ∈ part.definitions, d.value.value.WellFormed := by
  refine gives_bind fun header => gives_bind fun _ => gives_definitions.bind fun given each => ?_
  extract_lets behind
  split
  · exact gives_pure each
  · exact gives_failure

namespace Document

/-- The values that a document defines are well formed. -/
structure WellFormed (document : Document) : Prop where
  opening : ∀ d ∈ document.opening, d.value.value.WellFormed
  parts : ∀ part ∈ document.parts, ∀ d ∈ part.definitions, d.value.value.WellFormed

theorem gives_document : Gives document WellFormed := by
  refine gives_bind fun _ => gives_definitions.bind fun opening hopening => ?_
  refine gives_part.many.bind fun parts hparts => gives_bind fun _ => ?_
  exact gives_pure ⟨hopening, hparts⟩

/-- The entries of a text are well formed. -/
theorem read?_wellFormed {text : String} {entries : Entries}
    (accepted : read? text = some entries) : entries.WellFormed := by
  unfold read? at accepted
  split at accepted
  · next document rest parsed =>
    have sound := gives_document parsed
    obtain ⟨opening, first, added⟩ := Option.bind_eq_some_iff.1 accepted
    have begun := Entries.wellFormed_nil.defineAll sound.opening first
    exact begun.addParts sound.parts added
  · cases accepted

end Document

end PreimageSearch.Toml
