import PreimageSearch.Proofs.Dispatch

/-!
# Looking up names

Any list of operations makes a catalog, also one in which names repeat. A name is found exactly if
the menu for analysis offers it, and it stands for the last operation of that name (`LastOf`). The
menus list names by position, so a name that repeats may be offered for simulation and still stand
for an operation that is not; where names are distinct, this cannot happen.
-/

namespace PreimageSearch.Catalog

/-- The operation bears the name, and none behind it does. -/
def LastOf (operations : List Operation) (name : String) (operation : Operation) : Prop :=
  ∃ before after, operations = before ++ operation :: after ∧ operation.name = name ∧
    ∀ later ∈ after, later.name ≠ name

variable {operations : List Operation} {operation : Operation} {name : String}

theorem find?_eq_some_iff : find? ⟨operations⟩ name = some operation ↔
    LastOf operations name operation := by
  unfold find?
  rw [List.find?_eq_some_iff_append]
  constructor
  · rintro ⟨named, after, before, split, others⟩
    refine ⟨before.reverse, after.reverse, ?_, by simpa using named, fun later member => ?_⟩
    · simpa using congrArg List.reverse split
    · simpa using others later (List.mem_reverse.1 member)
  · rintro ⟨before, after, rfl, named, others⟩
    refine ⟨by simpa using named, after.reverse, before.reverse, by simp, fun later member => ?_⟩
    simpa using others later (List.mem_reverse.1 member)

theorem find_eq_ok_iff : find ⟨operations⟩ name = .ok operation ↔
    LastOf operations name operation := by
  rw [← find?_eq_some_iff, find_eq]
  cases find? ⟨operations⟩ name <;> simp

theorem find_eq_error_iff {error : CatalogError} : find ⟨operations⟩ name = .error error ↔
    name ∉ analysisNames ⟨operations⟩ ∧ error = .unknownOperation name := by
  rw [find_eq]
  constructor
  · intro failed
    split at failed
    · cases failed
    · next missed =>
      cases failed
      refine ⟨fun offered => ?_, rfl⟩
      obtain ⟨found, -, -, same⟩ := exists_find? offered
      rw [missed] at same
      cases same
  · rintro ⟨unknown, rfl⟩
    have missed : find? ⟨operations⟩ name = none :=
      find?_unknown fun other member named => unknown (named ▸ List.mem_map_of_mem member)
    rw [missed]

theorem exists_find_eq_ok_iff :
    (∃ operation, find ⟨operations⟩ name = .ok operation) ↔
      name ∈ analysisNames ⟨operations⟩ := by
  constructor
  · rintro ⟨operation, found⟩
    obtain ⟨before, after, rfl, rfl, -⟩ := find_eq_ok_iff.1 found
    simp [analysisNames]
  · intro offered
    cases result : find ⟨operations⟩ name with
    | ok operation => exact ⟨operation, rfl⟩
    | error error => exact absurd offered (find_eq_error_iff.1 result).1

/-! ## Menus by position -/

/-- The positions of the operations that may be simulated, in order. -/
def simulatablePositions (operations : List Operation) : List Nat :=
  (operations.zipIdx.filter fun entry => entry.1.simulatable).map Prod.snd

theorem pairwise_simulatablePositions : (simulatablePositions operations).Pairwise (· < ·) := by
  have all : operations.zipIdx.map Prod.snd = List.range operations.length := by
    simp [List.range_eq_range']
  have kept : (simulatablePositions operations).Sublist (List.range operations.length) := by
    rw [← all]
    exact List.filter_sublist.map _
  exact List.pairwise_lt_range.sublist kept

theorem mem_simulatablePositions_iff {i : Nat} : i ∈ simulatablePositions operations ↔
    ∃ operation, operations[i]? = some operation ∧ operation.simulatable = true := by
  simp [simulatablePositions, List.mem_zipIdx_iff_getElem?]

theorem getElem?_analysisNames (i : Nat) :
    (analysisNames ⟨operations⟩)[i]? = operations[i]?.map Operation.name :=
  List.getElem?_map ..

theorem simulationNames_eq : (simulationNames ⟨operations⟩).map some =
    (simulatablePositions operations).map fun i => (analysisNames ⟨operations⟩)[i]? := by
  have entries : operations.filter Operation.simulatable =
      (operations.zipIdx.filter fun entry => entry.1.simulatable).map Prod.fst := by
    calc operations.filter Operation.simulatable
      _ = (operations.zipIdx.map Prod.fst).filter Operation.simulatable := by
        rw [List.zipIdx_map_fst]
      _ = _ := List.filter_map
  rw [simulationNames, entries, simulatablePositions, List.map_map, List.map_map, List.map_map]
  apply List.map_congr_left
  rintro ⟨operation, i⟩ member
  have listed := List.mem_zipIdx_iff_getElem?.1 (List.mem_of_mem_filter member)
  simp [getElem?_analysisNames, listed]

/-- Looking up names over any list of operations. A name is found exactly if the menu for analysis
has it; no place of the index is outside the list; and what is found is the last operation of the
name. The menu for analysis has the name of each operation at its position, and the menu for
simulation has those of the positions of operations that may be simulated, in the same order. Where
names are distinct, each operation is found under its own name, and whatever is offered for
simulation stands for an operation that may be simulated. -/
theorem find_over_any_operations (operations : List Operation) :
    let catalog : Catalog := ⟨operations⟩
    (∀ name, (∃ operation, catalog.find name = .ok operation) ↔ name ∈ catalog.analysisNames) ∧
    (∀ name error, catalog.find name = .error error ↔
      name ∉ catalog.analysisNames ∧ error = .unknownOperation name) ∧
    (∀ name i, catalog.index name = some i → i < operations.length) ∧
    (∀ name operation, catalog.find name = .ok operation ↔
      ∃ before after, operations = before ++ operation :: after ∧ operation.name = name ∧
        ∀ later ∈ after, later.name ≠ name) ∧
    (∀ i : Nat, catalog.analysisNames[i]? = operations[i]?.map Operation.name) ∧
    (∃ positions : List Nat, positions.Pairwise (· < ·) ∧
      (∀ i, i ∈ positions ↔
        ∃ operation, operations[i]? = some operation ∧ operation.simulatable = true) ∧
      catalog.simulationNames.map some = positions.map fun i => catalog.analysisNames[i]?) ∧
    ((operations.map Operation.name).Nodup →
      (∀ operation ∈ operations, catalog.find operation.name = .ok operation) ∧
      ∀ name ∈ catalog.simulationNames,
        ∃ operation, catalog.find name = .ok operation ∧ operation.simulatable = true) := by
  intro catalog
  refine ⟨fun _ => exists_find_eq_ok_iff, fun _ _ => find_eq_error_iff, fun _ _ => index_lt,
    fun _ _ => find_eq_ok_iff, getElem?_analysisNames, ⟨simulatablePositions operations,
      pairwise_simulatablePositions, fun _ => mem_simulatablePositions_iff, simulationNames_eq⟩,
    fun distinct => ?_⟩
  have own : ∀ operation ∈ operations, catalog.find operation.name = .ok operation := by
    intro operation member
    rw [find_eq, find?_name distinct member]
  refine ⟨own, fun name offered => ?_⟩
  obtain ⟨operation, kept, rfl⟩ := List.mem_map.1 offered
  obtain ⟨member, simulatable⟩ := List.mem_filter.1 kept
  exact ⟨operation, own operation member, simulatable⟩

/-- In a catalog that repeats a name, the name is offered for simulation, and it stands for an
operation that may not be simulated. Without the repetition it stands for the one offered. -/
theorem find_over_any_operations_repeated :
    let crc8 (simulatable : Bool) : Operation :=
      ⟨"CRC-8", .fixed 8, simulatable, fun _ => .ofChecksum .crc8⟩
    let crc16 : Operation := ⟨"CRC-16", .fixed 16, true, fun _ => .ofChecksum .crc16⟩
    (∃ operation, find ⟨[crc8 true, crc16, crc8 false]⟩ "CRC-8" = .ok operation ∧
      operation.simulatable = false) ∧
    "CRC-8" ∈ simulationNames ⟨[crc8 true, crc16, crc8 false]⟩ ∧
    ([crc8 true, crc16].map Operation.name).Nodup ∧
    ∃ operation, find ⟨[crc8 true, crc16]⟩ "CRC-8" = .ok operation ∧
      operation.simulatable = true := by
  intro crc8 crc16
  obtain ⟨-, -, -, last, -⟩ := find_over_any_operations [crc8 true, crc16, crc8 false]
  have hidden := (last "CRC-8" (crc8 false)).2
    ⟨[crc8 true, crc16], [], rfl, rfl, by simp⟩
  have distinct : ([crc8 true, crc16].map Operation.name).Nodup := by
    decide
  obtain ⟨-, -, -, -, -, -, named⟩ := find_over_any_operations [crc8 true, crc16]
  exact ⟨⟨_, hidden, rfl⟩, by decide, distinct, (named distinct).2 "CRC-8" (by decide)⟩

end PreimageSearch.Catalog
