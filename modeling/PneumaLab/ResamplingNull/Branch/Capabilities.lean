import Mathlib.Data.List.Infix
import PneumaLab.ResamplingNull.Assignment.Records
import PneumaLab.ResamplingNull.Branch.Records

namespace PneumaLab.ResamplingNull

structure Provenance where
  designSha256 : String
  codeSha256 : String
  deriving DecidableEq

structure Envelope where
  studyId : String
  frozenCreatedAt : String
  provenance : Provenance
  deriving DecidableEq

structure SealedRecord (α : Type) where
  envelope : Envelope
  payload : α

structure PacketParents where
  assignmentRef : ArtifactRef
  prefixIndexRef : ArtifactRef
  tokenizerRef : ArtifactRef
  packetTemplateRef : ArtifactRef
  packetPolicyRef : ArtifactRef
  padUnitSetRef : ArtifactRef
  deriving DecidableEq

structure PacketPair where
  taskId : String
  donorTaskId : String
  prefixIndexSha256 : String
  realRef : ArtifactRef
  shamRef : ArtifactRef
  focalVerifierRef : ArtifactRef
  donorVerifierRef : ArtifactRef
  assignmentRef : ArtifactRef
  tokenizerRef : ArtifactRef
  packetTemplateRef : ArtifactRef
  packetPolicyRef : ArtifactRef
  padUnitSetRef : ArtifactRef
  deriving DecidableEq

inductive PacketEntry where
  | marker (taskId prefixIndexSha256 triggerReason : String)
  | pair (packets : PacketPair)
  deriving DecidableEq

namespace PacketEntry

def taskId : PacketEntry → String
  | .marker taskId _ _ => taskId
  | .pair packets => packets.taskId

def prefixIndexSha256 : PacketEntry → String
  | .marker _ prefixIndexSha256 _ => prefixIndexSha256
  | .pair packets => packets.prefixIndexSha256

end PacketEntry

structure PacketCandidate extends PacketParents where
  entries : List PacketEntry

structure PacketSealed extends PacketParents where
  candidateRef : ArtifactRef

structure OpaqueSlotGrant where
  slotId : String
  opaqueCapabilityId : String
  guidanceRef : Option ArtifactRef
  deriving DecidableEq

structure CapabilitiesRow where
  taskId : String
  triggered : Bool
  grants : List OpaqueSlotGrant
  deriving DecidableEq

def refused (message : String) : Raised := .recordValidationError message

def guidanceRole : String := "private_guidance"

def guidanceMediaType : String := "text/plain"

def armWords : List (List Char) := ["real".toList,"sham".toList,"none".toList,"resample".toList]

-- No letter outside ASCII is lowered into a letter of an arm word.
def lowered (text : String) : List Char := text.toList.map Char.toLower

def armOpaque (relativePath : String) : Bool :=
  armWords.all fun word => !decide (word <:+: lowered relativePath)

def canonicalGuidance (relativePath : String) : Bool :=
  let text := relativePath.toList
  decide (text.take 12 = "packet-work/".toList) && isSha256 (String.ofList ((text.drop 12).take 64)) &&
    decide ((text.drop 76).take 10 = "/guidance-".toList) && isSha256 (String.ofList ((text.drop 86).take 64)) &&
    decide (text.drop 150 = ".txt".toList)

def requireCanonicalGuidancePath (relativePath field : String) : Py Unit := do
  demand (relativePath ≠ "") (refused (field ++ " must be non-empty exact text"))
  demand (armOpaque relativePath) (refused (field ++ " must be arm-opaque"))
  demand (canonicalGuidance relativePath) (refused (field ++ " is not a canonical guidance name"))

def guidanceTail (opaqueCapabilityId : String) : String := "/guidance-" ++ opaqueCapabilityId ++ ".txt"

def OpaqueSlotGrant.postInit (grant : OpaqueSlotGrant) : Py Unit := do
  demand (grant.slotId ≠ "") (refused "slot_id must be non-empty exact text")
  demand (isSha256 grant.opaqueCapabilityId) (refused "opaque_capability_id must be lowercase SHA-256 hexadecimal")
  match grant.guidanceRef with
  | none => return ()
  | some ref => do
    demand (ref.role = guidanceRole) (refused "guidance_ref must use the private_guidance role")
    demand (ref.mediaType = guidanceMediaType) (refused "guidance_ref media type is not registered")
    requireCanonicalGuidancePath ref.relativePath "guidance_ref relative_path"
    demand (decide ((guidanceTail grant.opaqueCapabilityId).toList <:+ ref.relativePath.toList))
      (refused "guidance_ref is not bound to this slot's capability digest")

def CapabilitiesRow.postInit (row : CapabilitiesRow) : Py Unit := do
  row.grants.forM OpaqueSlotGrant.postInit
  demand (row.taskId ≠ "") (refused "task_id must be non-empty exact text")
  demand (row.grants.length = 4) (refused "grants must be an exact four-tuple")
  demand (decide (row.grants.map OpaqueSlotGrant.slotId).Nodup &&
      decide (row.grants.map OpaqueSlotGrant.opaqueCapabilityId).Nodup)
    (refused "grants must name four distinct opaque slots")
  let granted := row.grants.filterMap OpaqueSlotGrant.guidanceRef
  demand (!row.triggered || granted.length = 2)
    (refused "a triggered task must grant exactly two packet-bearing slots")
  demand (row.triggered || granted.isEmpty)
    (refused "an untriggered task must grant no packet-bearing slot")
  demand (decide (granted.map ArtifactRef.relativePath).Nodup)
    (refused "granted slots must not share one packet path")

structure TaskPacketCapabilities where
  row : CapabilitiesRow
  built : row.postInit = .ok ()
  deriving DecidableEq

def CapabilitiesRow.build (row : CapabilitiesRow) : Py TaskPacketCapabilities := construct row.postInit fun h => ⟨row,h⟩

def TaskPacketCapabilities.grantFor (capabilities : TaskPacketCapabilities) (opaqueCapabilityId : String) :
    Py OpaqueSlotGrant :=
  match capabilities.row.grants.filter fun grant => grant.opaqueCapabilityId = opaqueCapabilityId with
  | [grant] => .ok grant
  | _ => .error (refused "capability does not own exactly one slot")

structure PacketDecoders where
  sealed : Bytes → Py (SealedRecord PacketSealed)
  candidate : Bytes → Py (SealedRecord PacketCandidate)
  ledger : Bytes → Py (SealedRecord LedgerPayload)

structure PacketRecords where
  prefixIndexRef : ArtifactRef
  entries : List PacketEntry
  assignments : List TaskAssignment
  allocations : List AllocationReceipt

def slotOrder (allocation : AllocationReceipt) (taskId : String) : Py (List (String × String)) := do
  demand (allocation.taskId = taskId) (refused "allocation receipt names a different task")
  demand (allocation.slotIdsByOrdinal.length = 4 && allocation.slotCapabilities.length = 4)
    (refused "allocation receipt must close exactly four slots")
  (allocation.slotIdsByOrdinal.zip allocation.slotCapabilities).forM fun (slotId,entry) => do
    demand (slotId ≠ "") (refused "slot_ids_by_ordinal is malformed")
    demand (entry.1 = slotId && isSha256 entry.2) (refused "slot_capabilities is malformed")
  demand (decide (allocation.slotCapabilities.map Prod.fst).Nodup &&
      decide (allocation.slotCapabilities.map Prod.snd).Nodup)
    (refused "allocation receipt slots must be distinct")
  return allocation.slotCapabilities

def addArm (arms : List (Arm × String)) (entry : String × Arm) : Py (List (Arm × String)) := do
  demand (entry.1 ≠ "" && arms.all fun known => known.1 ≠ entry.2) (refused "slot_arms is malformed")
  return arms ++ [(entry.2,entry.1)]

def armSlots (assignment : TaskAssignment) (taskId : String) : Py (List (Arm × String)) := do
  demand (assignment.taskId = taskId) (refused "assignment row names a different task")
  demand (assignment.slotArms.length = 4) (refused "slot_arms must close exactly four arms")
  let arms ← assignment.slotArms.foldlM addArm []
  demand ([Arm.REAL,.SHAM,.NONE,.RESAMPLE].all fun arm => (arms.lookup arm).isSome)
    (refused "slot_arms must assign every arm exactly once")
  return arms

variable (platform : Platform)

def opaqueGuidancePath (taskId opaqueCapabilityId : String) : String :=
  "packet-work/" ++ (platform.sha256 (utf8 taskId)).hex ++ guidanceTail opaqueCapabilityId

def readBytes (files : Files) (ref : ArtifactRef) : Py Bytes :=
  match files ref.relativePath with
  | none => .error (refused "unreadable artifact_ref")
  | some payload => do
    demand (payload.length = ref.byteCount && (platform.sha256 payload).hex = ref.sha256)
      (refused "artifact_ref bytes mismatch")
    return payload

def loadSealed {α : Type} (files : Files) (ref : ArtifactRef) (role field : String)
    (decode : Bytes → Py (SealedRecord α)) : Py (SealedRecord α) := do
  demand (ref.role = role) (refused (field ++ " must use the " ++ role ++ " role"))
  demand (ref.mediaType = "application/json") (refused (field ++ " must be canonical JSON"))
  let record ← decode (← readBytes platform files ref)
  demand (record.envelope.studyId ≠ "" && record.envelope.frozenCreatedAt ≠ "") (refused (field ++ " is malformed"))
  return record

def requireSameIdentity (left right : Envelope) (leftName rightName : String) : Py Unit := do
  demand (left.studyId = right.studyId) (refused (leftName ++ " study_id differs from " ++ rightName))
  demand (left.frozenCreatedAt = right.frozenCreatedAt)
    (refused (leftName ++ " frozen_created_at differs from " ++ rightName))
  demand (left.provenance = right.provenance) (refused (leftName ++ " provenance differs from " ++ rightName))

def loadPacketRecords (decode : PacketDecoders) (files : Files) (packetIndexRef : ArtifactRef) :
    Py PacketRecords := do
  let sealed ← loadSealed platform files packetIndexRef "packet_index_sealed" "sealed packet index" decode.sealed
  let candidate ← loadSealed platform files sealed.payload.candidateRef "packet_index_candidate"
    "packet candidate index" decode.candidate
  demand (candidate.payload.assignmentRef = sealed.payload.assignmentRef)
    (refused "sealed and candidate packet indexes disagree on assignment_ref")
  demand (candidate.payload.prefixIndexRef = sealed.payload.prefixIndexRef)
    (refused "sealed and candidate packet indexes disagree on prefix_index_ref")
  let ledger ← loadSealed platform files sealed.payload.assignmentRef "resampling_assignment_ledger"
    "assignment ledger" decode.ledger
  requireSameIdentity sealed.envelope ledger.envelope "sealed packet index" "its assignment ledger"
  requireSameIdentity candidate.envelope sealed.envelope "packet candidate index" "its sealed packet index"
  demand (ledger.payload.prefixIndexRef = sealed.payload.prefixIndexRef)
    (refused "assignment ledger names a different prefix index than the packet index")
  return ⟨sealed.payload.prefixIndexRef,candidate.payload.entries,ledger.payload.assignments,
    ledger.payload.allocationReceipts⟩

def guidanceRef (files : Files) (ref : ArtifactRef) (field taskId opaqueCapabilityId : String) :
    Py ArtifactRef := do
  demand (ref.role = guidanceRole && ref.mediaType = guidanceMediaType)
    (refused ("packet entry " ++ field ++ " is not private guidance"))
  requireCanonicalGuidancePath ref.relativePath ("packet entry " ++ field ++ " relative_path")
  demand (ref.relativePath = opaqueGuidancePath platform taskId opaqueCapabilityId)
    (refused ("packet entry " ++ field ++ " is not bound to its allocated slot capability"))
  let _ ← readBytes platform files ref
  return ref

def resolvePair (files : Files) (packets : PacketPair) (row : TaskAssignment) (ordered : List (String × String))
    (arms : List (Arm × String)) : Py TaskPacketCapabilities := do
  demand (row.donorMatchKind = .matched) (refused "a packet pair requires a matched donor assignment")
  demand (some packets.donorTaskId = row.donorTaskId)
    (refused "packet entry donor differs from its sealed assignment donor")
  let realSlot ← required (.keyError "REAL") (arms.lookup .REAL)
  let shamSlot ← required (.keyError "SHAM") (arms.lookup .SHAM)
  let realCapability ← required (.keyError realSlot) (ordered.lookup realSlot)
  let shamCapability ← required (.keyError shamSlot) (ordered.lookup shamSlot)
  let granted := [(realSlot,← guidanceRef platform files packets.realRef "real_ref" row.taskId realCapability),
    (shamSlot,← guidanceRef platform files packets.shamRef "sham_ref" row.taskId shamCapability)]
  CapabilitiesRow.build ⟨row.taskId,true,ordered.map fun slot => ⟨slot.1,slot.2,granted.lookup slot.1⟩⟩

def resolveMarker (triggerReason : String) (row : TaskAssignment) (ordered : List (String × String)) :
    Py TaskPacketCapabilities := do
  demand (triggerReason = "no_intervention_opportunity") (refused "packet entry trigger_reason is not registered")
  demand (row.donorMatchKind = .notApplicableNoTrigger)
    (refused "no-intervention packet marker contradicts its assignment donor")
  CapabilitiesRow.build ⟨row.taskId,false,ordered.map fun slot => ⟨slot.1,slot.2,none⟩⟩

def resolveTask (files : Files) (records : PacketRecords) (rows : TaskAssignment × AllocationReceipt) :
    Py TaskPacketCapabilities := do
  let (row,allocation) := rows
  demand (row.taskId ≠ "") (refused "assignment row task_id is malformed")
  let entry ← required (.keyError row.taskId) (records.entries.find? fun entry => entry.taskId = row.taskId)
  let ordered ← slotOrder allocation row.taskId
  let arms ← armSlots row row.taskId
  demand ((ordered.all fun slot => decide (slot.1 ∈ arms.map Prod.snd)) &&
      arms.all fun arm => decide (arm.2 ∈ ordered.map Prod.fst))
    (refused "assignment and allocation receipts name different slots")
  demand (entry.prefixIndexSha256 = records.prefixIndexRef.sha256)
    (refused "packet entry names a different prefix index than its sealed parent")
  match entry with
  | .marker _ _ triggerReason => resolveMarker triggerReason row ordered
  | .pair packets => resolvePair platform files packets row ordered arms

def resolveRecords (files : Files) (records : PacketRecords) : Py (List TaskPacketCapabilities) := do
  demand (records.assignments.length = records.allocations.length)
    (refused "ledger assignment and allocation arrays differ")
  demand ((records.entries.all fun entry => decide (entry.taskId ≠ "")) &&
      decide (records.entries.map PacketEntry.taskId).Nodup)
    (refused "packet entries must have unique task IDs")
  demand (records.entries.map PacketEntry.taskId = records.assignments.map TaskAssignment.taskId)
    (refused "packet entries must follow the frozen assignment task order")
  (records.assignments.zip records.allocations).mapM (resolveTask platform files records)

def resolvePacketCapabilities (decode : PacketDecoders) (files : Files) (packetIndexRef : ArtifactRef) :
    Py (List TaskPacketCapabilities) := do
  resolveRecords platform files (← loadPacketRecords platform decode files packetIndexRef)

end PneumaLab.ResamplingNull
