import Mathlib.Data.List.Sort
import Mathlib.Logic.Function.Basic
import PneumaLab.Library.Json
import PneumaLab.Library.Table
import PneumaLab.Library.TextFile
import PneumaLab.Library.Values

namespace PneumaLab.Foundation

structure LineageRow where
  era : String
  parentEra : Option String
  checkpoint : String
  createdAt : String
  deriving DecidableEq

structure EventRow where
  receiptId : String
  payloadHash : String
  payloadPath : String
  era : String
  provenance : Json
  uncertainty : PyFloat
  suppressed : Bool
  suppressionReason : Option String
  createdAt : String
  deriving DecidableEq

structure SearchRow where
  receiptId : String
  text : String
  deriving DecidableEq

structure EmbeddingRow where
  receiptId : String
  contentPath : String
  sha256 : String
  deriving DecidableEq

structure SummaryRow where
  receiptId : String
  summary : String
  deriving DecidableEq

structure LinkRow where
  sourceReceipt : String
  targetReceipt : String
  relation : String
  deriving DecidableEq

structure EncryptionKeyRow where
  receiptId : String
  keyMaterial : Bytes
  deriving DecidableEq

structure KnowledgeRow where
  knowledgeId : String
  knowledgeKind : String
  claim : String
  sourceReceipts : List String
  contradictions : List String
  uncertainty : PyFloat
  createdAt : String
  deriving DecidableEq

inductive AdapterStatus where
  | active
  | revokedHardDelete
  deriving DecidableEq

structure AdapterRow where
  adapterId : String
  era : String
  sourceReceipts : List String
  status : AdapterStatus
  deriving DecidableEq

structure ErasureRow where
  receiptId : String
  payloadHash : String
  deletedAt : String
  payloadRetained : Bool
  deriving DecidableEq

structure MemoryStore where
  lineage : Table LineageRow.era
  events : Table EventRow.receiptId
  eventSearch : List SearchRow
  embeddings : List EmbeddingRow
  summaries : List SummaryRow
  memoryLinks : List LinkRow
  encryptionKeys : Table EncryptionKeyRow.receiptId
  semanticKnowledge : Table KnowledgeRow.knowledgeId
  adapters : Table AdapterRow.adapterId
  erasures : Table ErasureRow.receiptId
  content : String → Option Bytes

def MemoryStore.empty : MemoryStore := ⟨.empty,.empty,[],[],[],[],.empty,.empty,.empty,.empty,fun _ => none⟩

structure MemoryRuntime where
  sha256 : Bytes → Digest
  contentRoot : String
  -- What json.loads reads back of json.dumps(provenance, sort_keys=True).
  provenanceJson : Mapping → Py Json
  -- The receipts of the rows that match a query, by rank.
  matchRows : String → List SearchRow → Py (List String)

def sortedSet (values : List String) : List String := values.dedup.insertionSort (· ≤ ·)

@[simp] theorem mem_sortedSet {values : List String} {value : String} : value ∈ sortedSet values ↔ value ∈ values := by
  rw [sortedSet,List.mem_insertionSort,List.mem_dedup]

def isUnitInterval : PyFloat → Bool
  | .finite value _ => decide (0 ≤ value ∧ value ≤ 1)
  | _ => false

def commit {α : Type} (store : MemoryStore) (result : α) : Py MemoryStore → Py α × MemoryStore
  | .ok next => (.ok result,next)
  | .error e => (.error e,store)

section Events
variable (runtime : MemoryRuntime)

def contentPath (payload : Bytes) (suffix : String) : String :=
  runtime.contentRoot ++ "/" ++ (runtime.sha256 payload).hex ++ "." ++ suffix

def writeContent (store : MemoryStore) (payload : Bytes) (suffix : String) : MemoryStore :=
  let path := contentPath runtime payload suffix
  if (store.content path).isSome then store
  else { store with content := Function.update store.content path (some payload) }

def interruptContent (store : MemoryStore) (payload : Bytes) (suffix : String) (written : ℕ) : MemoryStore :=
  let path := contentPath runtime payload suffix
  if (store.content path).isSome then store
  else { store with content := Function.update store.content path (some (payload.take written)) }

def recordLineage (store : MemoryStore) (era : String) (parentEra : Option String) (checkpoint now : String) :
    Py Unit × MemoryStore :=
  match parentEra.filter fun parent => (store.lineage.find parent).isNone with
  | some parent => (.error (.memoryIntegrityError ("unknown parent era: " ++ parent)),store)
  | none => commit store () do
    let lineage ← required (.integrityError "UNIQUE constraint failed: lineage.era")
      (store.lineage.insert ⟨era,parentEra,checkpoint,now⟩)
    return { store with lineage := lineage }

def requireEra (store : MemoryStore) (era : String) : Py Unit :=
  demand (store.lineage.find era).isSome (.integrityError "FOREIGN KEY constraint failed")

structure AppendRequest where
  -- The receipt that uuid4 draws and the time of the call.
  receiptId : String
  now : String
  payload : String
  era : String
  provenance : Mapping
  uncertainty : PyFloat

def insertEvent (store : MemoryStore) (request : AppendRequest) : Py MemoryStore := do
  let provenance ← runtime.provenanceJson request.provenance
  let encoded := utf8 request.payload
  let events ← required (.integrityError "UNIQUE constraint failed: events.receipt_id")
    (store.events.insert ⟨request.receiptId,(runtime.sha256 encoded).hex,contentPath runtime encoded "event",request.era,
      provenance,request.uncertainty,false,none,request.now⟩)
  requireEra store request.era
  return { store with
    events := events
    eventSearch := store.eventSearch ++ [⟨request.receiptId,request.payload⟩] }

def appendEvent (store : MemoryStore) (request : AppendRequest) : Py String × MemoryStore :=
  if isUnitInterval request.uncertainty then
    let written := writeContent runtime store (utf8 request.payload) "event"
    commit written request.receiptId (insertEvent runtime written request)
  else (.error (.memoryIntegrityError "uncertainty must be between zero and one"),store)

structure EventView where
  receiptId : String
  payload : String
  era : String
  provenance : Json
  uncertainty : PyFloat
  suppressed : Bool
  deriving DecidableEq

-- Path.read_text
def readPayload (store : MemoryStore) (path : String) : Py String := do
  let raw ← required (.fileNotFoundError path) (store.content path)
  required (.unicodeDecodeError path) (readText raw)

def readEvent (store : MemoryStore) (receiptId : String) (includeSuppressed : Bool) : Py (Option EventView) :=
  match store.events.find receiptId with
  | none => .ok none
  | some row =>
    if row.suppressed && !includeSuppressed then .ok none
    else do
      let payload ← readPayload store row.payloadPath
      return some ⟨receiptId,payload,row.era,row.provenance,row.uncertainty,row.suppressed⟩

def search (store : MemoryStore) (query : String) : Py (List EventView) := do
  let receipts ← runtime.matchRows query store.eventSearch
  let events ← receipts.mapM fun receiptId => readEvent store receiptId false
  return events.reduceOption

def unknownReceipt (receiptId : String) : Raised := .memoryIntegrityError ("unknown receipt: " ++ receiptId)

def setSuppressed (receiptId : String) (suppressed : Bool) (reason : Option String) (row : EventRow) : EventRow :=
  if row.receiptId = receiptId then { row with suppressed := suppressed, suppressionReason := reason } else row

theorem setSuppressed_key (receiptId : String) (suppressed : Bool) (reason : Option String) (row : EventRow) :
    (setSuppressed receiptId suppressed reason row).receiptId = row.receiptId := by
  rw [setSuppressed]
  split <;> rfl

def suppress (store : MemoryStore) (receiptId reason : String) : Py Unit × MemoryStore :=
  match store.events.find receiptId with
  | none => (.error (unknownReceipt receiptId),store)
  | some _ => (.ok (),{ store with
      events := store.events.update (setSuppressed receiptId true (some reason)) (setSuppressed_key _ _ _)
      eventSearch := store.eventSearch.filter fun row => row.receiptId ≠ receiptId })

def unsuppress (store : MemoryStore) (receiptId : String) : Py Unit × MemoryStore :=
  match readEvent store receiptId true with
  | .error e => (.error e,store)
  | .ok none => (.error (unknownReceipt receiptId),store)
  | .ok (some event) => (.ok (),{ store with
      events := store.events.update (setSuppressed receiptId false none) (setSuppressed_key _ _ _)
      eventSearch := (store.eventSearch.filter fun row => row.receiptId ≠ receiptId) ++ [⟨receiptId,event.payload⟩] })

structure AutobiographyEntry where
  receiptId : String
  era : String
  payload : String
  provenance : Json
  uncertainty : PyFloat
  deriving DecidableEq

def chronological (left right : EventRow) : Bool :=
  decide (left.createdAt < right.createdAt) ||
    (decide (left.createdAt = right.createdAt) && decide (left.receiptId ≤ right.receiptId))

def autobiographicalView (store : MemoryStore) (era : Option String) : Py (List AutobiographyEntry) := do
  let rows := store.events.rows.filter fun row => !row.suppressed && era.all fun era => decide (row.era = era)
  let events ← (rows.insertionSort fun left right => chronological left right).mapM fun row =>
    readEvent store row.receiptId false
  return events.reduceOption.map fun event =>
    ⟨event.receiptId,event.era,event.payload,event.provenance,event.uncertainty⟩

end Events

section Derived
variable (runtime : MemoryRuntime)

def addDerivedArtifacts (store : MemoryStore) (receiptId : String) (embedding : Bytes) (summary : String)
    (encryptionKey : Bytes) : Py (String × String) × MemoryStore :=
  match store.events.find receiptId with
  | none => (.error (unknownReceipt receiptId),store)
  | some row =>
    let written := writeContent runtime store embedding "embedding"
    let embeddingPath := contentPath runtime embedding "embedding"
    (.ok (row.payloadPath,embeddingPath),{ written with
      embeddings := written.embeddings ++ [⟨receiptId,embeddingPath,(runtime.sha256 embedding).hex⟩]
      summaries := written.summaries ++ [⟨receiptId,summary⟩]
      encryptionKeys := written.encryptionKeys.put ⟨receiptId,encryptionKey⟩ })

def link (store : MemoryStore) (source target relation : String) : Py Unit × MemoryStore :=
  if (store.events.find source).isNone || (store.events.find target).isNone then
    (.error (.memoryIntegrityError "memory links require two valid receipts"),store)
  else (.ok (),{ store with memoryLinks := store.memoryLinks ++ [⟨source,target,relation⟩] })

def requireSource (store : MemoryStore) (receipt : String) : Py Unit :=
  demand ((store.events.find receipt).any fun row => !row.suppressed)
    (.memoryIntegrityError ("invalid source receipt: " ++ receipt))

def validSourceReceipts (store : MemoryStore) (receipts : List String) : Py (List String) := do
  let values := sortedSet receipts
  demand (!values.isEmpty) (.memoryIntegrityError "at least one source receipt is required")
  values.forM (requireSource store)
  return values

structure ConsolidateRequest where
  -- The identifier that uuid4 draws and the time of the call.
  knowledgeId : String
  now : String
  claim : String
  sourceReceipts : List String
  contradictions : List String
  uncertainty : PyFloat
  knowledgeKind : String

structure Consolidation where
  knowledgeId : String
  knowledgeKind : String
  claim : String
  sourceReceipts : List String
  contradictions : List String
  uncertainty : PyFloat

def requireConsolidation (sources : List String) (request : ConsolidateRequest) : Py Unit := do
  demand ((sortedSet request.contradictions).all (· ∈ sources))
    (.memoryIntegrityError "contradictions must reference source receipts")
  demand (isUnitInterval request.uncertainty) (.memoryIntegrityError "uncertainty must be between zero and one")
  demand (decide (request.knowledgeKind ∈ ["semantic","procedural"]))
    (.memoryIntegrityError "knowledge_kind must be semantic or procedural")

def consolidateRows (store : MemoryStore) (request : ConsolidateRequest) : Py (Consolidation × MemoryStore) := do
  let sources ← validSourceReceipts store request.sourceReceipts
  requireConsolidation sources request
  let contradictions := sortedSet request.contradictions
  let knowledge ← required (.integrityError "UNIQUE constraint failed: semantic_knowledge.knowledge_id")
    (store.semanticKnowledge.insert ⟨request.knowledgeId,request.knowledgeKind,request.claim,sources,contradictions,
      request.uncertainty,request.now⟩)
  return (⟨request.knowledgeId,request.knowledgeKind,request.claim,sources,contradictions,request.uncertainty⟩,
    { store with semanticKnowledge := knowledge })

def transact {α : Type} (store : MemoryStore) : Py (α × MemoryStore) → Py α × MemoryStore
  | .ok (result,next) => (.ok result,next)
  | .error e => (.error e,store)

def consolidate (store : MemoryStore) (request : ConsolidateRequest) : Py Consolidation × MemoryStore :=
  transact store (consolidateRows store request)

def registerRows (store : MemoryStore) (adapterId era : String) (sourceReceipts : List String) :
    Py (Unit × MemoryStore) := do
  let sources ← validSourceReceipts store sourceReceipts
  let adapters ← required (.integrityError "UNIQUE constraint failed: adapters.adapter_id")
    (store.adapters.insert ⟨adapterId,era,sources,.active⟩)
  requireEra store era
  return ((),{ store with adapters := adapters })

def registerAdapter (store : MemoryStore) (adapterId era : String) (sourceReceipts : List String) :
    Py Unit × MemoryStore := transact store (registerRows store adapterId era sourceReceipts)

end Derived

section Erasure

structure Removed where
  payloads : ℕ
  embeddings : ℕ
  summaries : ℕ
  links : ℕ
  encryptionKeys : ℕ
  deriving DecidableEq

structure ErasureReceipt where
  receiptId : String
  revokedAdapters : List String
  rebuildFromCheckpoint : Option String
  removed : Removed
  deletedAt : String
  deriving DecidableEq

def contentPaths (store : MemoryStore) (receiptId : String) (row : EventRow) : List String :=
  row.payloadPath :: (store.embeddings.filter fun row => row.receiptId = receiptId).map (·.contentPath)

def listsSource (receiptId : String) (row : AdapterRow) : Bool :=
  decide (row.status = .active) && decide (receiptId ∈ row.sourceReceipts)

def affectedAdapters (store : MemoryStore) (receiptId : String) : List AdapterRow :=
  store.adapters.rows.filter (listsSource receiptId)

def semanticIds (store : MemoryStore) (receiptId : String) : List String :=
  (store.semanticKnowledge.rows.filter fun row => receiptId ∈ row.sourceReceipts).map (·.knowledgeId)

def rebuildCheckpoint (store : MemoryStore) (adapter : AdapterRow) : Option String := do
  let lineage ← store.lineage.find adapter.era
  let parentEra ← lineage.parentEra
  guard (parentEra ≠ "")
  let parent ← store.lineage.find parentEra
  return parent.checkpoint

def linksReceipt (receiptId : String) (row : LinkRow) : Bool :=
  decide (row.sourceReceipt = receiptId) || decide (row.targetReceipt = receiptId)

def removedRows (store : MemoryStore) (receiptId : String) : Removed where
  payloads := 1
  embeddings := (store.embeddings.filter fun row => row.receiptId = receiptId).length
  summaries := (store.summaries.filter fun row => row.receiptId = receiptId).length
  links := (store.memoryLinks.filter (linksReceipt receiptId)).length
  encryptionKeys := (store.encryptionKeys.rows.filter fun row => row.receiptId = receiptId).length

def revoke (row : AdapterRow) : AdapterRow := { row with status := .revokedHardDelete }

theorem revoke_key (row : AdapterRow) : (revoke row).adapterId = row.adapterId := rfl

theorem revoke_revoke (row : AdapterRow) : revoke (revoke row) = revoke row := rfl

def deleteRows (store : MemoryStore) (receiptId : String) : MemoryStore := { store with
  semanticKnowledge := store.semanticKnowledge.deleteKeys (semanticIds store receiptId)
  adapters := store.adapters.updateKeys revoke revoke_key ((affectedAdapters store receiptId).map (·.adapterId))
  eventSearch := store.eventSearch.filter fun row => row.receiptId ≠ receiptId
  memoryLinks := store.memoryLinks.filter fun row => !linksReceipt receiptId row
  encryptionKeys := store.encryptionKeys.delete fun row => row.receiptId = receiptId
  summaries := store.summaries.filter fun row => row.receiptId ≠ receiptId
  embeddings := store.embeddings.filter fun row => row.receiptId ≠ receiptId
  events := store.events.delete fun row => row.receiptId = receiptId }

structure Erased where
  contentPaths : List String
  receipt : ErasureReceipt
  store : MemoryStore

def eraseRows (store : MemoryStore) (receiptId now : String) : Py Erased := do
  let row ← required (unknownReceipt receiptId) (store.events.find receiptId)
  let affected := affectedAdapters store receiptId
  let deleted := deleteRows store receiptId
  let erasures ← required (.integrityError "UNIQUE constraint failed: erasures.receipt_id")
    (store.erasures.insert ⟨receiptId,row.payloadHash,now,false⟩)
  return ⟨contentPaths store receiptId row,
    ⟨receiptId,(affected.map (·.adapterId)).insertionSort (· ≤ ·),
      (sortedSet (affected.filterMap (rebuildCheckpoint store))).head?,removedRows store receiptId,now⟩,
    { deleted with erasures := erasures }⟩

def isReferenced (store : MemoryStore) (path : String) : Bool :=
  store.events.rows.any (fun row => row.payloadPath = path) || store.embeddings.any (fun row => row.contentPath = path)

def safeUnlinkUnreferenced (store : MemoryStore) (path : String) : MemoryStore :=
  if !isReferenced store path && (store.content path).isSome then
    { store with content := Function.update store.content path none }
  else store

def hardDelete (store : MemoryStore) (receiptId now : String) : Py ErasureReceipt × MemoryStore :=
  match eraseRows store receiptId now with
  | .ok erased => (.ok erased.receipt,erased.contentPaths.foldl safeUnlinkUnreferenced erased.store)
  | .error e => (.error e,store)

-- The process stops, or an unlink fails, after this many paths.
def interruptErasure (store : MemoryStore) (receiptId now : String) (unlinked : ℕ) : MemoryStore :=
  match eraseRows store receiptId now with
  | .ok erased => (erased.contentPaths.take unlinked).foldl safeUnlinkUnreferenced erased.store
  | .error _ => store

end Erasure

end PneumaLab.Foundation
