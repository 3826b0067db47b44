import Mathlib.Logic.Function.Basic
import PneumaLab.Foundation.Records
import PneumaLab.Library.JsonLines
import PneumaLab.Library.TextFile
import PneumaLab.Library.Values

namespace PneumaLab.Foundation

structure Inventory where
  tokenCount : Number
  fields : Json

structure ShardRuntime where
  sha256 : Bytes → Digest
  floatRepr : String → String
  schemaMessage : Json → String
  dedupFingerprint : Json → Py String
  buildDiversityInventory : List Json → Py Inventory
  validateOutputPath : Py Unit
  bindArtifactPublication : Py Unit

abbrev ShardFiles := String → Option Bytes

section Build
variable (runtime : ShardRuntime)

def duplicateId (example_ : Json) : String :=
  match ((lookupField example_ "source").bind (lookupField · "source_record_id")) with
  | some (.str text) => text
  | _ => "<missing>"

structure Deduplication where
  seen : List String
  unique : List Json
  duplicateIds : List String

def addExample (state : Deduplication) (example_ : Json) : Py Deduplication := do
  validateExample runtime.schemaMessage example_
  let fingerprint ← runtime.dedupFingerprint example_
  if fingerprint ∈ state.seen then return { state with duplicateIds := state.duplicateIds ++ [duplicateId example_] }
  else return ⟨fingerprint :: state.seen,state.unique ++ [example_],state.duplicateIds⟩

def deduplicateExamples (examples : List Json) : Py (List Json × List String) := do
  let state ← examples.foldlM (addExample runtime) ⟨[],[],[]⟩
  return (state.unique,state.duplicateIds)

def shardText (unique : List Json) : List Char := unique.flatMap fun record => record.dumps ++ ['\n']

theorem lineFeeds_space (depth : ℕ) : Json.Space ('\n' :: List.replicate (4 * depth) ' ') := by
  intro c hc
  rcases List.mem_cons.mp hc with rfl | hc
  · exact .inr (.inr (.inl rfl))
  · exact .inl (List.eq_of_mem_replicate hc)

theorem blank_space : Json.Space [' '] := fun _ hc => .inl (List.mem_singleton.mp hc)

def indented : Json.Layout := ⟨fun depth => '\n' :: List.replicate (4 * depth) ' ',[' '],lineFeeds_space,blank_space⟩

def prettyBytes (value : Json) : Bytes := utf8 (String.ofList (value.render indented 0 ++ ['\n']))

def shardManifest (digest : String) (unique : List Json) (duplicateIds : List String) (inventory : Json)
    (tokenCeiling : Option ℤ) : Json :=
  .obj ([("duplicate_example_ids",.arr (duplicateIds.map .str)),("example_count",.int unique.length),
    ("inventory",inventory),("manifest_kind",.str "pneuma_foundation_shard"),("schema_version",.str "0.1.0"),
    ("sha256",.str digest),("source_policy",.str "read_only_external_corpus")] ++
      tokenCeiling.toList.map fun ceiling => ("token_ceiling",.int ceiling))

structure ShardResult where
  shardPath : String
  manifestPath : String
  sha256 : String
  exampleCount : ℕ
  duplicateIds : List String

def requireTokenCeiling (inventory : Inventory) (tokenCeiling : Option ℤ) : Py Unit :=
  demand (tokenCeiling.all fun ceiling => decide (0 < ceiling) && !inventory.tokenCount.gt ceiling)
    (.dataAuthorizationError "shard token ceiling must be a positive bound on inventory tokens")

def shardPathOf (outputRoot digest : String) : String := outputRoot ++ "/" ++ digest ++ ".jsonl"

def manifestPathOf (outputRoot digest : String) : String := outputRoot ++ "/" ++ digest ++ ".manifest.json"

def publishFile (files : ShardFiles) (path : String) (payload : Bytes) : ShardFiles :=
  Function.update files path (some payload)

def buildContentAddressedShard (outputRoot : String) (examples : List Json) (tokenCeiling : Option ℤ)
    (files : ShardFiles) : Py (ShardResult × ShardFiles) := do
  runtime.validateOutputPath
  examples.forM (validateExample runtime.schemaMessage)
  let (unique,duplicateIds) ← deduplicateExamples runtime examples
  let payload := utf8 (String.ofList (shardText unique))
  let digest := (runtime.sha256 payload).hex
  let inventory ← runtime.buildDiversityInventory unique
  requireTokenCeiling inventory tokenCeiling
  let manifest := shardManifest digest unique duplicateIds inventory.fields tokenCeiling
  runtime.bindArtifactPublication
  return (⟨shardPathOf outputRoot digest,manifestPathOf outputRoot digest,digest,unique.length,duplicateIds⟩,
    publishFile (publishFile files (shardPathOf outputRoot digest) payload) (manifestPathOf outputRoot digest)
      (prettyBytes manifest))

end Build

section Load
variable (runtime : ShardRuntime) (files : ShardFiles)

def pythonReader : Json.Reader := .python runtime.floatRepr

-- str.isspace
def isPythonSpace (c : Char) : Bool :=
  decide (c.toNat ∈ [0x09,0x0A,0x0B,0x0C,0x0D,0x1C,0x1D,0x1E,0x1F,0x20,0x85,0xA0,0x1680,0x2000,0x2001,0x2002,0x2003,
    0x2004,0x2005,0x2006,0x2007,0x2008,0x2009,0x200A,0x2028,0x2029,0x202F,0x205F,0x3000])

def readManifest (manifestPath : String) : Py Json := do
  let raw ← required (.foundationDatasetError "shard manifest cannot be read") (files manifestPath)
  let text ← required (.foundationDatasetError "shard manifest cannot be read") (fromUtf8 raw)
  required (.foundationDatasetError "shard manifest cannot be read")
    (Json.loadsWith (pythonReader runtime) (universalNewlines text.toList))

def expectedDigest (manifest : Json) : Py String :=
  match lookupField manifest "sha256" with
  | some (.str digest) =>
    if digest = "" then .error (.foundationDatasetError "shard manifest sha256 digest is missing") else .ok digest
  | _ => .error (.foundationDatasetError "shard manifest sha256 digest is missing")

def readRecord (line : List Char) : Py Json := do
  let record ← required (.foundationDatasetError "shard line is not valid JSON")
    (Json.loadsWith (pythonReader runtime) line)
  demand (isMapping record) (.foundationDatasetError "shard records must be JSON objects")
  return record

def readRecords (text : List Char) : Py (List Json) :=
  ((Json.splitLines text).filter fun line => !line.all isPythonSpace).mapM (readRecord runtime)

def requireExampleCount (manifest : Json) (records : List Json) : Py Unit :=
  demand (decide (lookupField manifest "example_count" = some (.int records.length)))
    (.foundationDatasetError "shard manifest example_count does not match its records")

def foundationShardDataset (shardPath manifestPath : String) : Py (List Json) := do
  let manifest ← readManifest runtime files manifestPath
  demand (isMapping manifest) (.foundationDatasetError "shard manifest must be a JSON object")
  let expected ← expectedDigest manifest
  let payload ← required (.foundationDatasetError "shard cannot be read") (files shardPath)
  demand (decide ((runtime.sha256 payload).hex = expected))
    (.foundationDatasetError "shard hash does not match manifest")
  let text ← required (.foundationDatasetError "shard bytes are not valid UTF-8") (fromUtf8 payload)
  let records ← readRecords runtime text.toList
  requireExampleCount manifest records
  return records

end Load

end PneumaLab.Foundation
