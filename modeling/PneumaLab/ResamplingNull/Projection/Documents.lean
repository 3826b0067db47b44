import PneumaLab.ResamplingNull.Branch.TaskChain
import PneumaLab.ResamplingNull.Projection.Candidate

namespace PneumaLab.ResamplingNull

structure Document (α : Type) where
  relativePath : String
  sha256 : String
  byteCount : ℕ
  envelope : Envelope
  payload : α

structure PacketSources where
  tokenizerRef : ArtifactRef
  packetTemplateRef : ArtifactRef
  packetPolicyRef : ArtifactRef
  padUnitSetRef : ArtifactRef
  deriving DecidableEq

structure StudyManifest extends PacketSources where
  rosterRef : ArtifactRef
  assignmentProgramRef : ArtifactRef
  assignmentMasterKeyCommitmentSha256 : String

structure FrozenSchedule where
  manifestRef : ArtifactRef
  tasks : List TaskSchedule
  distinct : (tasks.map fun entry => entry.task.taskId).Nodup

def FrozenSchedule.taskIds (schedule : FrozenSchedule) : List String := schedule.tasks.map fun entry => entry.task.taskId

structure PrefixIndex where
  scheduleRef : ArtifactRef
  taskReceipts : List FrozenPrefixReceipt

inductive PacketIndex where
  | candidate (payload : PacketCandidate)
  | sealed (payload : PacketSealed)

namespace PacketIndex

def parents : PacketIndex → PacketParents
  | .candidate payload => payload.toPacketParents
  | .sealed payload => payload.toPacketParents

def candidate? : PacketIndex → Option PacketCandidate
  | .candidate payload => some payload
  | .sealed _ => none

def sealed? : PacketIndex → Option PacketSealed
  | .candidate _ => none
  | .sealed payload => some payload

end PacketIndex

def PacketParents.sources (parents : PacketParents) : PacketSources where
  tokenizerRef := parents.tokenizerRef
  packetTemplateRef := parents.packetTemplateRef
  packetPolicyRef := parents.packetPolicyRef
  padUnitSetRef := parents.padUnitSetRef

def PacketPair.sources (packets : PacketPair) : PacketSources where
  tokenizerRef := packets.tokenizerRef
  packetTemplateRef := packets.packetTemplateRef
  packetPolicyRef := packets.packetPolicyRef
  padUnitSetRef := packets.padUnitSetRef

structure AnalysisFreeze where
  packetIndexRef : ArtifactRef
  sourceRefs : List ArtifactRef
  configRef : ArtifactRef
  projectionSchemaRef : ArtifactRef

structure ProjectionRow where
  taskId : String
  benchmark : String
  stratum : String
  lineage : String
  sensitivityGroups : List GroupLabel
  prefixSuccess : ℕ
  triggered : Bool
  slots : List BlindedSlot
  pipelineValid : Bool
  validityCodes : List String
  deriving DecidableEq

structure BlindedProjection where
  scheduleRef : ArtifactRef
  analysisFreezeRef : ArtifactRef
  taskBlockRefs : List ArtifactRef
  rows : List ProjectionRow
  projectionCandidateSha256 : String
  expectedTaskCount : ℕ

structure UnblindReceipt where
  projectionRef : ArtifactRef
  assignmentLedgerRef : ArtifactRef
  analysisFreezeRef : ArtifactRef
  expectedTaskCount : ℕ

structure AnalysisReport where
  analysisFreezeRef : ArtifactRef
  projectionRef : ArtifactRef
  unblindReceiptRef : ArtifactRef
  configRef : ArtifactRef
  rowCount : ℕ

-- The documents of one root by kind, each at a path of its own.
structure ScientificGraph where
  manifests : List (Document StudyManifest)
  schedules : List (Document FrozenSchedule)
  prefixes : List (Document PrefixIndex)
  assignments : List (Document LedgerPayload)
  packets : List (Document PacketIndex)
  freezes : List (Document AnalysisFreeze)
  blocks : List (Document TaskBlockPayload)
  projections : List (Document BlindedProjection)
  unblinds : List (Document UnblindReceipt)
  analyses : List (Document AnalysisReport)
  powerRosterRefs : List ArtifactRef
  paths_distinct : (blocks.map Document.relativePath).Nodup

def ArtifactRef.names {α : Type} (ref : ArtifactRef) (document : Document α) : Bool :=
  decide (ref.relativePath = document.relativePath) && decide (ref.sha256 = document.sha256) &&
    decide (ref.byteCount = document.byteCount) && decide (ref.mediaType = "application/json")

def requireRefMatches {α : Type} (ref : ArtifactRef) (document : Document α) (field kind : String) : Py Unit :=
  demand (ref.names document) (refused (field ++ " does not identify the exact " ++ kind ++ " parent"))

def requireArtifactRefEqual (value expected : ArtifactRef) (field : String) : Py Unit :=
  demand (value = expected) (refused (field ++ " does not identify the exact frozen source ref"))

def requireDigestEqual {α : Type} (value : String) (document : Document α) (field kind : String) : Py Unit :=
  demand (value = document.sha256) (refused (field ++ " hash does not bind the exact " ++ kind ++ " parent"))

def requireSources (value expected : PacketSources) (field : String) : Py Unit := do
  requireArtifactRefEqual value.tokenizerRef expected.tokenizerRef (field ++ "tokenizer_ref")
  requireArtifactRefEqual value.packetTemplateRef expected.packetTemplateRef (field ++ "packet_template_ref")
  requireArtifactRefEqual value.packetPolicyRef expected.packetPolicyRef (field ++ "packet_policy_ref")
  requireArtifactRefEqual value.padUnitSetRef expected.padUnitSetRef (field ++ "pad_unit_set_ref")

def singletonDocument {α : Type} (documents : List (Document α)) (kind : String) : Py (Option (Document α)) :=
  match documents with
  | [] => .ok none
  | [document] => .ok (some document)
  | _ => .error (refused (kind ++ " must be singleton"))

def present {α : Type} (value : Option α) (check : α → Py Unit) : Py Unit :=
  match value with
  | none => .ok ()
  | some a => check a

@[simp] theorem present_none {α : Type} {check : α → Py Unit} : present none check = .ok () := rfl

@[simp] theorem present_some {α : Type} {a : α} {check : α → Py Unit} : present (some a) check = check a := rfl

@[simp] theorem present_ok {α : Type} {value : Option α} : present value (fun _ => .ok ()) = .ok () := by
  cases value <;> rfl

theorem present_eq_ok {α : Type} {value : Option α} {check : α → Py Unit} {u : Unit} :
    present value check = .ok u ↔ ∀ a, value = some a → check a = .ok () := by
  cases value <;> simp

theorem names_iff {α : Type} {ref : ArtifactRef} {document : Document α} : ref.names document = true ↔
    ref.relativePath = document.relativePath ∧ ref.sha256 = document.sha256 ∧ ref.byteCount = document.byteCount ∧
      ref.mediaType = "application/json" := by
  simp only [ArtifactRef.names,Bool.and_eq_true,decide_eq_true_eq,and_assoc]

theorem requireRefMatches_eq_ok {α : Type} {ref : ArtifactRef} {document : Document α} {field kind : String} {u : Unit} :
    requireRefMatches ref document field kind = .ok u ↔ ref.names document = true :=
  demand_eq_ok

theorem singletonDocument_eq_ok {α : Type} {documents : List (Document α)} {kind : String}
    {document : Option (Document α)} :
    singletonDocument documents kind = .ok document ↔ documents = document.toList := by
  match documents with
  | [] => cases document <;> simp [singletonDocument]
  | [other] => cases document <;> simp [singletonDocument]
  | _ :: _ :: _ => cases document <;> simp [singletonDocument]

end PneumaLab.ResamplingNull
