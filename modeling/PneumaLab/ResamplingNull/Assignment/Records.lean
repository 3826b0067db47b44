import PneumaLab.ResamplingNull.Artifacts

namespace PneumaLab.ResamplingNull

structure TaskSpec where
  taskId : String
  benchmark : String
  stratum : String
  lineage : String
  sensitivityGroups : List GroupLabel
  taskId_nonempty : taskId ≠ ""
  benchmark_nonempty : benchmark ≠ ""
  stratum_nonempty : stratum ≠ ""
  lineage_nonempty : lineage ≠ ""
  groups_nonempty : sensitivityGroups ≠ []
  groups_distinct : (sensitivityGroups.map GroupLabel.kind).Nodup

structure TaskSchedule where
  task : TaskSpec
  slotIds : List String
  four : slotIds.length = 4
  distinct : slotIds.Nodup

structure ManifestPayload where
  studyId : String
  assignmentProgramRef : ArtifactRef
  assignmentMasterKeyCommitmentSha256 : String

structure SchedulePayload where
  studyId : String
  manifestRef : ArtifactRef
  tasks : List TaskSchedule
  distinct : (tasks.map fun row => row.task.taskId).Nodup

structure PrefixReceipt where
  taskId : String
  scheduleSha256 : String
  triggerReason : TriggerReason
  verifierComponentClass : String
  objectiveFindingCount : ℕ
  normalizedReportTokenCount : ℕ
  class_nonempty : verifierComponentClass ≠ ""

structure PrefixPayload where
  studyId : String
  scheduleRef : ArtifactRef
  taskReceipts : List PrefixReceipt
  distinct : (taskReceipts.map PrefixReceipt.taskId).Nodup

structure AssignmentPrefixTaskView where
  task : TaskSpec
  triggerReason : TriggerReason
  verifierComponentClass : String
  objectiveFindingCount : ℕ
  normalizedReportTokenCount : ℕ
  telecomIssueFamily : Option String
  class_nonempty : verifierComponentClass ≠ ""

namespace AssignmentPrefixTaskView

abbrev taskId (view : AssignmentPrefixTaskView) : String := view.task.taskId

abbrev lineage (view : AssignmentPrefixTaskView) : String := view.task.lineage

end AssignmentPrefixTaskView

inductive DonorMatchKind where
  | matched
  | notApplicableNoTrigger
  deriving DecidableEq, Repr

structure TaskAssignment where
  taskId : String
  taskLineage : String
  donorMatchKind : DonorMatchKind
  donorTaskId : Option String
  donorLineage : Option String
  slotArms : List (String × Arm)
  scheduleSha256 : String
  prefixIndexSha256 : String
  deriving DecidableEq

structure AllocationReceipt where
  taskId : String
  slotIdsByOrdinal : List String
  treatmentAllocationIndex : ℤ
  allocationRejectionCounter : ℤ
  noPacketOrientationBit : ℤ
  orientationRejectionCounter : ℤ
  slotCapabilities : List (String × String)
  deriving DecidableEq

structure DonorCandidateReceipt where
  donorTaskId : String
  donorLineage : String
  primaryCost : List ℤ
  fallbackCode : Option String
  tieHmacSha256 : String
  deriving DecidableEq

inductive AssignmentMode where
  | syntheticDerangement
  | confirmationLineageMatching
  deriving DecidableEq, Repr

inductive MatchingAlgorithm where
  | syntheticCyclicOffsetV1
  | exactConstrainedMinCostV1
  deriving DecidableEq, Repr

structure MatchedDonorReceipt where
  taskId : String
  donorTaskId : String
  taskLineage : String
  donorLineage : String
  assignmentMode : AssignmentMode
  matchingAlgorithm : MatchingAlgorithm
  stratumKey : List String
  assignmentPrefixViewSha256 : String
  candidates : List DonorCandidateReceipt
  chosenPrimaryCost : List ℤ
  matchingProofRef : ArtifactRef
  deriving DecidableEq

structure NoTriggerDonorReceipt where
  taskId : String
  triggerReason : TriggerReason
  assignmentPrefixViewSha256 : String
  deriving DecidableEq

inductive DonorMatchReceipt where
  | matched (receipt : MatchedDonorReceipt)
  | noTrigger (receipt : NoTriggerDonorReceipt)
  deriving DecidableEq

def DonorMatchReceipt.taskId : DonorMatchReceipt → String
  | .matched receipt => receipt.taskId
  | .noTrigger receipt => receipt.taskId

structure LedgerPayload where
  manifestRef : ArtifactRef
  scheduleRef : ArtifactRef
  prefixIndexRef : ArtifactRef
  matchingProgramRef : ArtifactRef
  assignmentMasterKeyCommitmentSha256 : String
  assignmentPrefixViewSha256 : String
  assignmentMode : AssignmentMode
  matchingProofRefs : List ArtifactRef
  assignments : List TaskAssignment
  allocationReceipts : List AllocationReceipt
  donorMatchReceipts : List DonorMatchReceipt
  deriving DecidableEq

-- The schema-checked scientific documents of a run root, beside its plain files.
structure RunRoot where
  files : Files
  ledger : ArtifactRef → Py LedgerPayload
  schedule : ArtifactRef → Py SchedulePayload
  prefixIndex : ArtifactRef → Py PrefixPayload
  manifest : ArtifactRef → Py ManifestPayload
  stratumKeys : ArtifactRef → Py (List String)

end PneumaLab.ResamplingNull
