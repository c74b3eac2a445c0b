import Mathlib.Data.List.Induction
import PreimageSearch.Catalog
import PreimageSearch.Proofs.Marker

/-!
# The standard operations

What the interview and both backends rely on for every operation of a catalog is gathered in
`Operation.Reliable` and `Catalog.Reliable`, and the standard catalog has it (`standard_reliable`).
The place that the index of a catalog has for a name is that of the last operation of this name
(`find_eq`). From a reliable catalog, parameters within the bounds of the questions always give a
search (`search_eq_ok`).
-/

namespace PreimageSearch

/-- The widths that an operation may be searched with. -/
def OutputWidth.Admits : OutputWidth → Nat → Prop
  | fixed own, width => width = own
  | dynamic, width => Limits.minOutputWidth ≤ width ∧ width ≤ Limits.maxOutputWidth

/-- The widths that the oracles of an operation can have: its own, or any. -/
def OutputWidth.Allows : OutputWidth → Nat → Prop
  | fixed own, width => width = own
  | dynamic, _ => True

theorem OutputWidth.Admits.allows {own : OutputWidth} {width : Nat} (h : own.Admits width) :
    own.Allows width := by
  cases own with
  | fixed own => exact h
  | dynamic => trivial

/-- The oracles of the operation are what the operation says, and they never fault on messages of
inputs. -/
structure Operation.Reliable (operation : Operation) : Prop where
  unmarked : Unmarked operation.name
  positive : ∀ width, operation.outputWidth.Admits width → 0 < width
  named : ∀ width, (operation.oracle width).name = operation.name
  outputWidth : ∀ width, operation.outputWidth.Admits width →
    (operation.oracle width).outputWidth = width
  evaluates : ∀ width message, ∃ output, (operation.oracle width).evaluate message = .ok output
  narrow : ∀ width, operation.outputWidth.Admits width → width < twoPow 32
  state : ∀ width, (operation.oracle width).stateWidth ≤ keccakStateWidth
  /-- Messages of inputs take less than `2 ^ 22` compression calls, even for the widest outputs. -/
  priced : ∀ width length, width < twoPow 32 → length ≤ 8 →
    ∃ calls, (operation.oracle width).compressionCalls length = .ok calls ∧ calls < twoPow 22

/-- Both menus offer an operation, and every operation is reliable. -/
structure Catalog.Reliable (catalog : Catalog) : Prop where
  analysis : catalog.analysisNames ≠ []
  simulation : catalog.simulationNames ≠ []
  operations : ∀ operation ∈ catalog.operations, operation.Reliable

/-! ## Oracles of hash functions -/

/-- The oracle never faults on messages of inputs, its outputs have the width it states, and its
cost is moderate. -/
structure Oracle.Sound (oracle : Oracle) : Prop where
  evaluates : ∀ message, ∃ output, oracle.evaluate message = .ok output ∧
    output < twoPow oracle.outputWidth
  state : oracle.stateWidth ≤ keccakStateWidth
  priced : oracle.outputWidth < twoPow 32 → ∀ length ≤ 8,
    ∃ calls, oracle.compressionCalls length = .ok calls ∧ calls < twoPow 22

namespace Oracle

theorem sound_ofChecksum (checksum : Checksum) : (ofChecksum checksum).Sound where
  evaluates message := ⟨_, rfl, Checksum.value_lt message checksum⟩
  state := by
    change checksum.width ≤ keccakStateWidth
    cases checksum <;> decide
  priced _ length short := by
    have small : 8 < twoPow 22 := by decide
    exact ⟨length, rfl, by omega⟩

/-- Parts are never more than what they cover. -/
theorem parts_le {d : Nat} (positive : 0 < d) (n : Nat) : (n + (d - 1)) / d ≤ n := by
  obtain ⟨e, rfl⟩ := Nat.exists_eq_add_of_lt positive
  rcases Nat.eq_zero_or_pos n with rfl | some
  · rw [Nat.div_eq_of_lt (by omega)]
  · have : e ≤ e * n := Nat.le_mul_of_pos_right e some
    apply Nat.div_le_of_le_mul
    rw [Nat.zero_add, Nat.add_mul]
    omega

theorem exists_filled (filling : BlockFilling) {length : Nat} (short : length ≤ 8)
    (field : ∀ n, filling = .strengthened n → n ≤ 16) :
    ∃ filled, filling.filled length = .ok filled ∧ filled ≤ 25 := by
  have small : 25 < Word.limit64 := by decide
  cases filling with
  | strengthened n =>
    have := field n rfl
    exact ⟨_, Word.fit_of_lt (by omega), by omega⟩
  | sponge => exact ⟨_, Word.fit_of_lt (by omega), by omega⟩

/-- Digests are sound in blocks of any size and states of moderate width. -/
theorem sound_ofDigest {name : String} {digest : Digest} {blockSize stateWidth : Nat}
    {filling : BlockFilling} (block : 0 < blockSize) (state : stateWidth ≤ keccakStateWidth)
    (field : ∀ n, filling = .strengthened n → n ≤ 16) :
    (ofDigest name digest blockSize stateWidth filling).Sound where
  evaluates message := by
    -- A digest is as many bytes as its size says, whatever the blocks it is made of.
    have fits := Bytes.value_lt (digest.hash message)
    rw [Digest.length_hash] at fits
    exact ⟨_, rfl, fits⟩
  state := state
  priced _ length short := by
    obtain ⟨filled, fits, bounded⟩ := exists_filled filling short field
    have parts := parts_le block filled
    have small : 25 < twoPow 22 := by decide
    exact ⟨_, compressionCalls_ofDigest name digest block stateWidth fits, by omega⟩

/-- Streams are sound at a rate of at least that of SHAKE256. -/
theorem sound_ofStream {name : String} {stream : OutputStream} {rate : Nat} (fast : 136 ≤ rate)
    (width : Nat) : (ofStream name stream rate width).Sound where
  -- The bytes of a stream may have up to seven bits too many, which are left out.
  evaluates _ := ⟨_, rfl, Nat.mod_lt _ (twoPow_pos width)⟩
  state := Nat.le_refl _
  priced narrow length short := by
    change width < twoPow 32 at narrow
    have absorbed : (length + 1 + (rate - 1)) / rate = 1 :=
      Nat.div_eq_of_lt_le (by omega) (by omega)
    have squeezed : (encodedLength width + (rate - 1)) / rate < 3947582 := by
      have : twoPow 32 = 4294967296 := rfl
      apply Nat.div_lt_of_lt_mul
      unfold encodedLength
      omega
    have small : 3947582 < twoPow 22 ∧ twoPow 22 < Word.limit64 := by decide
    refine ⟨1 + ((encodedLength width + (rate - 1)) / rate - 1), ?_, by omega⟩
    rw [compressionCalls_ofStream name stream (by omega) width (by omega), absorbed]
    exact Word.fit_of_lt (by omega)

end Oracle

namespace Catalog

/-! ## What the standard catalog states -/

/-- The names of the catalog are those of the oracles. -/
theorem standard_named : ∀ operation ∈ standard.operations, ∀ width,
    (operation.oracle width).name = operation.name := by
  simp [standard, Oracle.ofChecksum, Oracle.ofDigest, Oracle.ofStream]

/-- The widths of the catalog are those of the oracles. -/
theorem standard_sized : ∀ operation ∈ standard.operations, ∀ width,
    operation.outputWidth.Allows width → (operation.oracle width).outputWidth = width := by
  simp [standard, OutputWidth.Allows, Oracle.ofChecksum, Oracle.ofDigest, Oracle.ofStream,
    Checksum.width, Digest.size]

theorem standard_unmarked : ∀ operation ∈ standard.operations, Unmarked operation.name := by
  decide

theorem standard_admits : ∀ operation ∈ standard.operations, ∀ width,
    operation.outputWidth.Admits width → 0 < width ∧ width < twoPow 32 := by
  have large : twoPow 32 = 4294967296 := rfl
  have fixed : ∀ operation ∈ standard.operations, ∀ own,
      operation.outputWidth = .fixed own → 0 < own ∧ own < twoPow 32 := by
    simp [standard, large]
  intro operation member width admitted
  rcases stated : operation.outputWidth with own | _
  · rw [stated] at admitted
    rw [show width = own from admitted]
    exact fixed operation member own stated
  · rw [stated] at admitted
    obtain ⟨least, most⟩ := admitted
    unfold Limits.minOutputWidth at least
    unfold Limits.maxOutputWidth at most
    omega

/-- An oracle of a fixed width is narrow whatever width is asked for. -/
theorem standard_narrow : ∀ operation ∈ standard.operations, ∀ width < twoPow 32,
    (operation.oracle width).outputWidth < twoPow 32 := by
  have large : twoPow 32 = 4294967296 := rfl
  simp [standard, large, Oracle.ofChecksum, Oracle.ofDigest, Oracle.ofStream, Checksum.width,
    Digest.size]

theorem standard_sound : ∀ operation ∈ standard.operations, ∀ width,
    (operation.oracle width).Sound := by
  have iterated {name : String} {digest : Digest} {blockSize stateWidth lengthField : Nat}
      (h : 0 < blockSize ∧ stateWidth ≤ keccakStateWidth ∧ lengthField ≤ 16) :
      (Oracle.ofDigest name digest blockSize stateWidth (.strengthened lengthField)).Sound :=
    Oracle.sound_ofDigest h.1 h.2.1 fun n same => by cases same; exact h.2.2
  have sponge {name : String} {digest : Digest} {rate : Nat} (h : 0 < rate) :
      (Oracle.ofDigest name digest rate keccakStateWidth .sponge).Sound :=
    Oracle.sound_ofDigest h (Nat.le_refl _) nofun
  simp only [standard, List.forall_mem_cons, List.not_mem_nil, false_imp_iff, implies_true,
    and_true]
  exact ⟨fun _ => Oracle.sound_ofChecksum _, fun _ => Oracle.sound_ofChecksum _,
    fun _ => Oracle.sound_ofChecksum _, fun _ => iterated (by decide),
    fun _ => iterated (by decide), fun _ => iterated (by decide), fun _ => iterated (by decide),
    fun _ => iterated (by decide), fun _ => iterated (by decide), fun _ => iterated (by decide),
    fun _ => iterated (by decide), fun _ => sponge (by decide), fun _ => sponge (by decide),
    fun _ => sponge (by decide), fun _ => sponge (by decide), Oracle.sound_ofStream (by decide),
    Oracle.sound_ofStream (by decide)⟩

theorem standard_reliable : standard.Reliable where
  analysis := by decide
  simulation := by decide
  operations operation member :=
    { unmarked := standard_unmarked operation member
      positive := fun width admitted => (standard_admits operation member width admitted).1
      named := standard_named operation member
      outputWidth := fun width admitted => standard_sized operation member width admitted.allows
      evaluates := fun width message => by
        obtain ⟨output, evaluated, -⟩ := (standard_sound operation member width).evaluates message
        exact ⟨output, evaluated⟩
      narrow := fun width admitted => (standard_admits operation member width admitted).2
      state := fun width => (standard_sound operation member width).state
      priced := fun width length narrow short =>
        (standard_sound operation member width).priced
          (standard_narrow operation member width narrow) length short }

/-! ## The index of names -/

theorem index_append (operations : List Operation) (operation : Operation) (name : String) :
    index ⟨operations ++ [operation]⟩ name =
      if name = operation.name then some operations.length else index ⟨operations⟩ name := by
  simp only [index, List.zipIdx_append, List.foldl_append, List.zipIdx_singleton, List.foldl_cons,
    List.foldl_nil, enter, Nat.zero_add]

/-- No place is outside the list. -/
theorem index_lt {operations : List Operation} {name : String} {i : Nat}
    (entered : index ⟨operations⟩ name = some i) : i < operations.length := by
  induction operations using List.reverseRecOn with
  | nil => cases entered
  | append_singleton operations operation ih =>
    rw [index_append] at entered
    rw [List.length_append, List.length_singleton]
    split at entered
    · cases entered
      omega
    · have := ih entered
      omega

theorem find?_append (operations : List Operation) (operation : Operation) (name : String) :
    find? ⟨operations ++ [operation]⟩ name =
      if name = operation.name then some operation else find? ⟨operations⟩ name := by
  unfold find?
  rw [List.reverse_append, List.reverse_singleton, List.singleton_append, List.find?_cons]
  by_cases same : name = operation.name
  · simp [same]
  · have other : (operation.name == name) = false := by simpa using Ne.symm same
    rw [other, if_neg same]

/-- The operation at the place of a name is the last one of this name. -/
theorem index_bind (operations : List Operation) (name : String) :
    ((index ⟨operations⟩ name).bind fun i => operations[i]?) = find? ⟨operations⟩ name := by
  induction operations using List.reverseRecOn with
  | nil => rfl
  | append_singleton operations operation ih =>
    rw [index_append, find?_append, ← ih]
    split
    · simp
    -- An earlier operation is still at its place.
    · cases entered : index ⟨operations⟩ name with
      | none => rfl
      | some i => simp [List.getElem?_append_left (index_lt entered)]

theorem find_eq (catalog : Catalog) (name : String) :
    catalog.find name = match catalog.find? name with
      | some operation => .ok operation
      | none => .error (.unknownOperation name) := by
  have found := index_bind catalog.operations name
  unfold find
  exact congrArg (fun found : Option Operation => match found with
    | some operation => Except.ok operation
    | none => Except.error (CatalogError.unknownOperation name)) found

/-! ## Searches from a reliable catalog -/

/-- A name that is offered is found. -/
theorem exists_find? {catalog : Catalog} {name : String} (h : name ∈ catalog.analysisNames) :
    ∃ operation ∈ catalog.operations, operation.name = name ∧
      catalog.find? name = some operation := by
  rcases hf : catalog.find? name with _ | operation
  · obtain ⟨operation, member, rfl⟩ := List.mem_map.1 h
    have missed := List.find?_eq_none.1 hf operation (by simpa using member)
    simp at missed
  · have member := List.mem_of_find?_eq_some hf
    have same := List.find?_some hf
    exact ⟨operation, by simpa using member, by simpa using same, rfl⟩

theorem simulationNames_subset (catalog : Catalog) :
    catalog.simulationNames ⊆ catalog.analysisNames := by
  intro name member
  obtain ⟨operation, offered, rfl⟩ := List.mem_map.1 member
  exact List.mem_map_of_mem (List.mem_filter.1 offered).1

/-- Parameters that satisfy their bounds are made again from their parts. -/
theorem make_eq_ok (parameters : SearchParameters) :
    SearchParameters.make parameters.operation parameters.targets parameters.inputWidth
      parameters.outputWidth parameters.output = .ok parameters := by
  have := parameters.outputWidth_pos
  rw [SearchParameters.make, dif_pos ⟨parameters.minInputWidth_le, parameters.inputWidth_le⟩,
    dif_neg (by omega), dif_pos parameters.output_fits]

/-- For a width that the operation allows, it is left to the parameters whether there is a
search. -/
theorem search_of_allowed {catalog : Catalog} {operation : Operation} {name : String}
    {outputWidth : Nat} (found : catalog.find? name = some operation)
    (allowed : operation.outputWidth.Allows outputWidth) (targets : TargetSequence)
    (inputWidth output : Nat) :
    catalog.search name targets inputWidth outputWidth output =
      match SearchParameters.make operation.name targets inputWidth outputWidth output with
      | .ok parameters => .ok ⟨operation.oracle outputWidth, parameters⟩
      | .error error => .error (.parameters error) := by
  have known : catalog.find name = .ok operation := by rw [find_eq, found]
  rw [search, known]
  rcases hw : operation.outputWidth with own | _
  · rw [hw] at allowed
    cases allowed
    simp only [bind, Except.bind, hw, ne_eq, not_true_eq_false, if_false]
    rfl
  · simp only [bind, Except.bind, hw]
    rfl

/-- Parameters of a width that the operation allows are never refused. -/
theorem search_eq_ok {catalog : Catalog} {operation : Operation} (parameters : SearchParameters)
    (found : catalog.find? operation.name = some operation)
    (named : parameters.operation = operation.name)
    (allowed : operation.outputWidth.Allows parameters.outputWidth) :
    catalog.search operation.name parameters.targets parameters.inputWidth parameters.outputWidth
      parameters.output = .ok ⟨operation.oracle parameters.outputWidth, parameters⟩ := by
  have made := make_eq_ok parameters
  rw [named] at made
  rw [search_of_allowed found allowed, made]

end Catalog

end PreimageSearch
