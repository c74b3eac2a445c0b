import PreimageSearch.Oracle.Hashed
import PreimageSearch.Parameters

/-!
# The catalog of operations

An operation names a hash function, says how wide its output is and builds its oracle. The catalog
binds an operation to checked parameters, which gives a search.
-/

namespace PreimageSearch

/-- The output width of an operation. -/
inductive OutputWidth where
  | fixed (width : Nat)
  /-- Each search chooses the width. -/
  | dynamic
  deriving DecidableEq, Repr

structure Operation where
  name : String
  outputWidth : OutputWidth
  /-- Whether the operation is offered for simulation. -/
  simulatable : Bool
  /-- The oracle for an output width, which only a dynamic operation heeds. -/
  oracle : Nat → Oracle

/-- An oracle together with the parameters of a search for one of its inputs. -/
structure Search where
  oracle : Oracle
  parameters : SearchParameters

/-- Why the catalog refuses to build a search. -/
inductive CatalogError where
  | unknownOperation (name : String)
  | widthMismatch (name : String) (fixed given : Nat)
  | parameters (error : ParameterError)
  deriving DecidableEq, Repr

/-- The wording of a refusal. -/
def CatalogError.message : CatalogError → String
  | unknownOperation name => "Unknown operation: " ++ name
  | widthMismatch name fixed given =>
    "Operation " ++ name ++ s!" has a fixed output width of {fixed} bits, got {given}"
  | parameters error => "Invalid search parameters: " ++ error.message

/-- Operations in menu order. -/
structure Catalog where
  operations : List Operation

namespace Catalog

/-- The operation of a name; of several, the last. -/
def find? (catalog : Catalog) (name : String) : Option Operation :=
  catalog.operations.reverse.find? fun operation => operation.name == name

/-- The places with one more operation entered under its name, instead of any earlier one. -/
def enter (places : String → Option Nat) (entry : Operation × Nat) (name : String) : Option Nat :=
  if name = entry.1.name then some entry.2 else places name

/-- The place of each name among the operations, which are entered in menu order. -/
def index (catalog : Catalog) : String → Option Nat :=
  catalog.operations.zipIdx.foldl enter fun _ => none

/-- The operation at the place of a name. -/
def find (catalog : Catalog) (name : String) : Except CatalogError Operation :=
  match (catalog.index name).bind fun i => catalog.operations[i]? with
  | some operation => .ok operation
  | none => .error (.unknownOperation name)

/-- The names offered for analysis: all of them. -/
def analysisNames (catalog : Catalog) : List String :=
  catalog.operations.map Operation.name

/-- The names offered for simulation. -/
def simulationNames (catalog : Catalog) : List String :=
  (catalog.operations.filter Operation.simulatable).map Operation.name

/-- The search of the named operation, or the first reason against it: the name, then the output
width, then the parameters. -/
def search (catalog : Catalog) (name : String) (targets : TargetSequence)
    (inputWidth outputWidth output : Nat) : Except CatalogError Search := do
  let operation ← catalog.find name
  match operation.outputWidth with
  | .fixed width =>
    if width ≠ outputWidth then throw (.widthMismatch name width outputWidth)
  | .dynamic => pure ()
  match SearchParameters.make operation.name targets inputWidth outputWidth output with
  | .ok parameters => return ⟨operation.oracle outputWidth, parameters⟩
  | .error error => throw (.parameters error)

/-! ## The standard operations -/

/-- The operations of the console; only the two short checksums are small enough to simulate. -/
def standard : Catalog where
  operations :=
    [⟨"CRC-8", .fixed 8, true, fun _ => .ofChecksum .crc8⟩,
      ⟨"CRC-16", .fixed 16, true, fun _ => .ofChecksum .crc16⟩,
      ⟨"CRC-32", .fixed 32, false, fun _ => .ofChecksum .crc32⟩,
      ⟨"MD5", .fixed 128, false, fun _ => .ofDigest "MD5" .md5 64 128 (.strengthened 8)⟩,
      ⟨"SHA-1", .fixed 160, false, fun _ => .ofDigest "SHA-1" .sha1 64 160 (.strengthened 8)⟩,
      ⟨"SHA-224", .fixed 224, false, fun _ => .ofDigest "SHA-224" .sha224 64 256 (.strengthened 8)⟩,
      ⟨"SHA-256", .fixed 256, false, fun _ => .ofDigest "SHA-256" .sha256 64 256 (.strengthened 8)⟩,
      ⟨"SHA-384", .fixed 384, false,
        fun _ => .ofDigest "SHA-384" .sha384 128 512 (.strengthened 16)⟩,
      ⟨"SHA-512", .fixed 512, false,
        fun _ => .ofDigest "SHA-512" .sha512 128 512 (.strengthened 16)⟩,
      ⟨"SHA-512/224", .fixed 224, false,
        fun _ => .ofDigest "SHA-512/224" .sha512t224 128 512 (.strengthened 16)⟩,
      ⟨"SHA-512/256", .fixed 256, false,
        fun _ => .ofDigest "SHA-512/256" .sha512t256 128 512 (.strengthened 16)⟩,
      ⟨"SHA3-224", .fixed 224, false,
        fun _ => .ofDigest "SHA3-224" .sha3t224 144 keccakStateWidth .sponge⟩,
      ⟨"SHA3-256", .fixed 256, false,
        fun _ => .ofDigest "SHA3-256" .sha3t256 136 keccakStateWidth .sponge⟩,
      ⟨"SHA3-384", .fixed 384, false,
        fun _ => .ofDigest "SHA3-384" .sha3t384 104 keccakStateWidth .sponge⟩,
      ⟨"SHA3-512", .fixed 512, false,
        fun _ => .ofDigest "SHA3-512" .sha3t512 72 keccakStateWidth .sponge⟩,
      ⟨"SHAKE128", .dynamic, false, fun width => .ofStream "SHAKE128" .shake128 168 width⟩,
      ⟨"SHAKE256", .dynamic, false, fun width => .ofStream "SHAKE256" .shake256 136 width⟩]

end Catalog

end PreimageSearch
