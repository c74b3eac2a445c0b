import Mathlib.Data.List.Nodup
import PreimageSearch.Proofs.Catalog

/-!
# Requests to the catalog

A request is answered by a search exactly if it is accepted, and otherwise by the first condition
that it misses. `Catalog.Accepts` and `Catalog.Refuses` say when that is, in terms of the operations
and of bounds on the numbers; that one of them holds of every request is `refuses_or_accepts`.

A search that is built is coherent: the oracle is that of the operation, it has the width that was
asked for, and each of its outputs fits into that width. So an output of the oracle may always be
searched for.
-/

namespace PreimageSearch

/-! ## Oracles keep to their widths -/

/-- The oracles of the operation have the widths they are built for, and so have their outputs. -/
structure Operation.Coherent (operation : Operation) : Prop where
  outputWidth : ∀ width, operation.outputWidth.Allows width →
    (operation.oracle width).outputWidth = width
  evaluates : ∀ width message, operation.outputWidth.Allows width →
    ∃ output, (operation.oracle width).evaluate message = .ok output ∧ output < twoPow width

namespace Catalog

theorem standard_coherent : ∀ operation ∈ standard.operations, operation.Coherent := by
  intro operation member
  refine ⟨standard_sized operation member, fun width message allowed => ?_⟩
  obtain ⟨output, evaluated, fits⟩ := (standard_sound operation member width).evaluates message
  rw [standard_sized operation member width allowed] at fits
  exact ⟨output, evaluated, fits⟩

/-! ## Which requests are accepted -/

/-- There is an operation of the name, and its oracles can have the width. -/
def Offers (catalog : Catalog) (name : String) (width : Nat) : Prop :=
  ∃ operation ∈ catalog.operations,
    operation.name = name ∧ operation.outputWidth.Allows width

/-- The conditions on a request. -/
structure Accepts (catalog : Catalog) (name : String) (inputWidth outputWidth output : Nat) :
    Prop where
  offered : catalog.Offers name outputWidth
  inputWidth_pos : 1 ≤ inputWidth
  inputWidth_le : inputWidth ≤ 62
  outputWidth_pos : 0 < outputWidth
  output_lt : output < twoPow outputWidth

/-- The first condition that a request misses: a request is refused for a reason only if it meets
all conditions that come before. -/
inductive Refuses (catalog : Catalog) (name : String) (inputWidth outputWidth output : Nat) :
    CatalogError → Prop
  | unknownOperation (unknown : ∀ operation ∈ catalog.operations, operation.name ≠ name) :
    Refuses catalog name inputWidth outputWidth output (.unknownOperation name)
  | widthMismatch (operation : Operation) (member : operation ∈ catalog.operations)
    (named : operation.name = name) (own : Nat) (fixed : operation.outputWidth = .fixed own)
    (other : own ≠ outputWidth) :
    Refuses catalog name inputWidth outputWidth output (.widthMismatch name own outputWidth)
  | inputWidth (offered : catalog.Offers name outputWidth)
    (outside : inputWidth < 1 ∨ 62 < inputWidth) :
    Refuses catalog name inputWidth outputWidth output (.parameters (.inputWidth inputWidth))
  | zeroOutputWidth (offered : catalog.Offers name outputWidth) (least : 1 ≤ inputWidth)
    (most : inputWidth ≤ 62) (zero : outputWidth = 0) :
    Refuses catalog name inputWidth outputWidth output (.parameters .zeroOutputWidth)
  | outputTooWide (offered : catalog.Offers name outputWidth) (least : 1 ≤ inputWidth)
    (most : inputWidth ≤ 62) (positive : 0 < outputWidth) (wide : twoPow outputWidth ≤ output) :
    Refuses catalog name inputWidth outputWidth output
      (.parameters (.outputTooWide output outputWidth))

variable {catalog : Catalog} {name : String} {inputWidth outputWidth output : Nat}

/-- The parameters of a request that is accepted. -/
def Accepts.parameters (accepted : catalog.Accepts name inputWidth outputWidth output)
    (targets : TargetSequence) : SearchParameters :=
  ⟨name, targets, inputWidth, outputWidth, output, accepted.inputWidth_pos,
    accepted.inputWidth_le, accepted.outputWidth_pos, bitLength_le_iff.2 accepted.output_lt⟩

/-- Nothing else can happen to a request. -/
theorem refuses_or_accepts (catalog : Catalog) (name : String)
    (inputWidth outputWidth output : Nat) :
    (∃ error, catalog.Refuses name inputWidth outputWidth output error) ∨
      catalog.Accepts name inputWidth outputWidth output := by
  by_cases known : ∃ operation ∈ catalog.operations, operation.name = name
  swap
  · exact .inl ⟨_, .unknownOperation fun operation member named => known ⟨operation, member, named⟩⟩
  obtain ⟨operation, member, named⟩ := known
  have allowed : (∃ own, operation.outputWidth = .fixed own ∧ own ≠ outputWidth) ∨
      operation.outputWidth.Allows outputWidth := by
    rcases operation.outputWidth with own | _
    · by_cases same : own = outputWidth
      · exact .inr same.symm
      · exact .inl ⟨own, rfl, same⟩
    · exact .inr trivial
  rcases allowed with ⟨own, fixed, other⟩ | allowed
  · exact .inl ⟨_, .widthMismatch operation member named own fixed other⟩
  have offered : catalog.Offers name outputWidth := ⟨operation, member, named, allowed⟩
  by_cases outside : inputWidth < 1 ∨ 62 < inputWidth
  · exact .inl ⟨_, .inputWidth offered outside⟩
  have least : 1 ≤ inputWidth := by omega
  have most : inputWidth ≤ 62 := by omega
  rcases Nat.eq_zero_or_pos outputWidth with zero | positive
  · exact .inl ⟨_, .zeroOutputWidth offered least most zero⟩
  rcases Nat.lt_or_ge output (twoPow outputWidth) with fits | wide
  · exact .inr ⟨offered, least, most, positive, fits⟩
  · exact .inl ⟨_, .outputTooWide offered least most positive wide⟩

/-! ## What the catalog answers -/

/-- Where names are distinct, each operation is found under its own. -/
theorem find?_name (distinct : catalog.analysisNames.Nodup) {operation : Operation}
    (member : operation ∈ catalog.operations) : catalog.find? operation.name = some operation := by
  obtain ⟨other, among, named, found⟩ := exists_find? (List.mem_map_of_mem member)
  have same : other = operation := List.inj_on_of_nodup_map distinct among member named
  rw [found, same]

theorem find?_unknown (unknown : ∀ operation ∈ catalog.operations, operation.name ≠ name) :
    catalog.find? name = none := by
  apply List.find?_eq_none.2
  intro operation member
  simpa using unknown operation (List.mem_reverse.1 member)

/-- A request for an operation that is offered is left to the parameters, and so to their bounds. -/
theorem search_of_offers (distinct : catalog.analysisNames.Nodup)
    (offered : catalog.Offers name outputWidth) :
    ∃ operation ∈ catalog.operations, operation.name = name ∧
      operation.outputWidth.Allows outputWidth ∧
      ∀ targets inputWidth output,
        catalog.search name targets inputWidth outputWidth output =
          match SearchParameters.make name targets inputWidth outputWidth output with
          | .ok parameters => .ok ⟨operation.oracle outputWidth, parameters⟩
          | .error error => .error (.parameters error) := by
  obtain ⟨operation, member, rfl, allowed⟩ := offered
  exact ⟨operation, member, rfl, allowed, fun targets inputWidth output =>
    search_of_allowed (find?_name distinct member) allowed targets inputWidth output⟩

/-- Every refusal is given. -/
theorem search_of_refuses (distinct : catalog.analysisNames.Nodup) (targets : TargetSequence)
    {error : CatalogError} (refused : catalog.Refuses name inputWidth outputWidth output error) :
    catalog.search name targets inputWidth outputWidth output = .error error := by
  cases refused with
  | unknownOperation unknown =>
    rw [search, find_eq, find?_unknown unknown]
    rfl
  | widthMismatch operation member named own fixed other =>
    subst named
    rw [search, find_eq, find?_name distinct member]
    simp [bind, Except.bind, fixed, other, throw, throwThe, MonadExceptOf.throw]
  | inputWidth offered outside =>
    obtain ⟨operation, -, -, -, answer⟩ := search_of_offers distinct offered
    rw [answer, SearchParameters.make, dif_neg]
    unfold Limits.minInputWidth Limits.maxInputWidth
    omega
  | zeroOutputWidth offered least most zero =>
    obtain ⟨operation, -, -, -, answer⟩ := search_of_offers distinct offered
    rw [answer, SearchParameters.make, dif_pos ⟨least, most⟩, dif_pos zero]
  | outputTooWide offered least most positive wide =>
    obtain ⟨operation, -, -, -, answer⟩ := search_of_offers distinct offered
    rw [answer, SearchParameters.make, dif_pos ⟨least, most⟩, dif_neg (by omega), dif_neg]
    rw [bitLength_le_iff]
    omega

/-- A request that is accepted gives a search with the parameters asked for and an oracle of the
operation. -/
theorem search_of_accepts (distinct : catalog.analysisNames.Nodup) (targets : TargetSequence)
    (accepted : catalog.Accepts name inputWidth outputWidth output) :
    ∃ operation ∈ catalog.operations, operation.name = name ∧
      operation.outputWidth.Allows outputWidth ∧
      catalog.search name targets inputWidth outputWidth output =
        .ok ⟨operation.oracle outputWidth, accepted.parameters targets⟩ := by
  obtain ⟨operation, member, named, allowed, answer⟩ :=
    search_of_offers distinct accepted.offered
  have made : SearchParameters.make name targets inputWidth outputWidth output =
    .ok (accepted.parameters targets) := make_eq_ok (accepted.parameters targets)
  exact ⟨operation, member, named, allowed, by rw [answer, made]⟩

theorem search_eq_ok_iff (distinct : catalog.analysisNames.Nodup) (targets : TargetSequence) :
    (∃ search, catalog.search name targets inputWidth outputWidth output = .ok search) ↔
      catalog.Accepts name inputWidth outputWidth output := by
  constructor
  · rintro ⟨search, built⟩
    rcases refuses_or_accepts catalog name inputWidth outputWidth output with ⟨error, refused⟩ | h
    · rw [search_of_refuses distinct targets refused] at built
      cases built
    · exact h
  · intro accepted
    obtain ⟨operation, -, -, -, built⟩ := search_of_accepts distinct targets accepted
    exact ⟨_, built⟩

theorem search_eq_error_iff (distinct : catalog.analysisNames.Nodup) (targets : TargetSequence)
    (error : CatalogError) :
    catalog.search name targets inputWidth outputWidth output = .error error ↔
      catalog.Refuses name inputWidth outputWidth output error := by
  constructor
  · intro failed
    rcases refuses_or_accepts catalog name inputWidth outputWidth output with ⟨other, refused⟩ | h
    · rw [search_of_refuses distinct targets refused] at failed
      cases failed
      exact refused
    · obtain ⟨operation, -, -, -, built⟩ := search_of_accepts distinct targets h
      rw [built] at failed
      cases failed
  · exact search_of_refuses distinct targets

/-! ## The standard catalog -/

/-- The operations of the console by name, with the widths of their outputs. -/
def standardWidths : List (String × OutputWidth) :=
  [("CRC-8", .fixed 8), ("CRC-16", .fixed 16), ("CRC-32", .fixed 32),
    ("MD5", .fixed 128), ("SHA-1", .fixed 160),
    ("SHA-224", .fixed 224), ("SHA-256", .fixed 256), ("SHA-384", .fixed 384),
    ("SHA-512", .fixed 512), ("SHA-512/224", .fixed 224), ("SHA-512/256", .fixed 256),
    ("SHA3-224", .fixed 224), ("SHA3-256", .fixed 256), ("SHA3-384", .fixed 384),
    ("SHA3-512", .fixed 512), ("SHAKE128", .dynamic), ("SHAKE256", .dynamic)]

theorem standard_widths :
    standard.operations.map (fun operation => (operation.name, operation.outputWidth)) =
      standardWidths := by
  decide

theorem standard_distinct : standard.analysisNames.Nodup := by
  decide

/-- The standard catalog answers a request exactly as the conditions say, of which those on the name
and the width can be read off a table. A search that it builds carries what was asked for; its
oracle is that of the operation in the width asked for, and has an output of that width for every
message, which could be searched for in turn. -/
theorem search_dispatches (name : String) (targets : TargetSequence)
    (inputWidth outputWidth output : Nat) :
    standard.operations.map (fun operation => (operation.name, operation.outputWidth)) =
      standardWidths ∧
    ((∃ search, standard.search name targets inputWidth outputWidth output = .ok search) ↔
      standard.Accepts name inputWidth outputWidth output) ∧
    (∀ error, standard.search name targets inputWidth outputWidth output = .error error ↔
      standard.Refuses name inputWidth outputWidth output error) ∧
    ∀ search, standard.search name targets inputWidth outputWidth output = .ok search →
      (search.parameters.operation = name ∧ search.parameters.targets = targets ∧
        search.parameters.inputWidth = inputWidth ∧
        search.parameters.outputWidth = outputWidth ∧ search.parameters.output = output) ∧
      (∃ operation ∈ standard.operations,
        operation.name = name ∧ search.oracle = operation.oracle outputWidth) ∧
      search.oracle.name = name ∧ search.oracle.outputWidth = outputWidth ∧
      ∀ message, ∃ digest, search.oracle.evaluate message = .ok digest ∧
        digest < twoPow outputWidth ∧
        ∃ again, standard.search name targets inputWidth outputWidth digest = .ok again := by
  refine ⟨standard_widths, search_eq_ok_iff standard_distinct targets,
    search_eq_error_iff standard_distinct targets, ?_⟩
  intro search built
  have accepted := (search_eq_ok_iff standard_distinct targets).1 ⟨search, built⟩
  obtain ⟨operation, member, named, allowed, same⟩ :=
    search_of_accepts standard_distinct targets accepted
  rw [built] at same
  cases same
  have coherent := standard_coherent operation member
  refine ⟨⟨rfl, rfl, rfl, rfl, rfl⟩, ⟨operation, member, named, rfl⟩, ?_,
    coherent.outputWidth outputWidth allowed, fun message => ?_⟩
  · exact (standard_named operation member outputWidth).trans named
  · obtain ⟨digest, evaluated, fits⟩ := coherent.evaluates outputWidth message allowed
    refine ⟨digest, evaluated, fits, ?_⟩
    exact (search_eq_ok_iff standard_distinct targets).2 { accepted with output_lt := fits }

theorem search_dispatches_shake128 :
    (∃ search, standard.search "SHAKE128" .single 16 20 0xFFFFF = .ok search ∧
      search.oracle.name = "SHAKE128" ∧ search.oracle.outputWidth = 20 ∧
      ∀ message, ∃ digest, search.oracle.evaluate message = .ok digest ∧ digest < twoPow 20) ∧
    standard.search "CRC-8" .single 0 16 0x10000 = .error (.widthMismatch "CRC-8" 8 16) := by
  have offered : standard.Offers "SHAKE128" 20 :=
    ⟨⟨"SHAKE128", .dynamic, false, .ofStream "SHAKE128" .shake128 168⟩, by simp [standard], rfl,
      trivial⟩
  have crc8 : ⟨"CRC-8", .fixed 8, true, fun _ => .ofChecksum .crc8⟩ ∈ standard.operations := by
    simp [standard]
  have dispatched := search_dispatches "SHAKE128" .single 16 20 0xFFFFF
  obtain ⟨search, built⟩ := dispatched.2.1.2 ⟨offered, by decide, by decide, by decide, by decide⟩
  obtain ⟨-, -, named, width, evaluates⟩ := dispatched.2.2.2 search built
  refine ⟨⟨search, built, named, width, fun message => ?_⟩, ?_⟩
  · obtain ⟨digest, evaluated, fits, -⟩ := evaluates message
    exact ⟨digest, evaluated, fits⟩
  · exact ((search_dispatches "CRC-8" .single 0 16 0x10000).2.2.1 _).2
      (.widthMismatch _ crc8 rfl 8 rfl (by decide))

end Catalog

end PreimageSearch
