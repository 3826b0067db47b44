import PneumaLab.ResamplingNull.Branch.Capabilities
import PneumaLab.ResamplingNull.Branch.TaskBlock

namespace PneumaLab.ResamplingNull

structure GradeReceipt where
  row : GradeRow
  built : row.postInit = .ok ()

structure UnscoredSlotReceipt where
  row : UnscoredSlotRow
  built : row.postInit = .ok ()

structure FrozenVerifierReceipt where
  taskId : String
  scheduleSha256 : String
  verifierArtifactRef : ArtifactRef

structure FrozenPrefixReceipt where
  taskId : String
  scheduleSha256 : String
  snapshotRef : ArtifactRef
  visibleSha256 : String
  tokenIdsSha256 : String
  triggerReason : TriggerReason
  y0Grade : GradeReceipt
  verifierReceipt : FrozenVerifierReceipt
  counters : ResourceCounters
  taskId_nonempty : taskId ≠ ""
  snapshot_role : snapshotRef.role = "composite_snapshot"
  visible_digest : isSha256 visibleSha256 = true
  tokens_digest : isSha256 tokenIdsSha256 = true
  verifier_task : verifierReceipt.taskId = taskId
  verifier_schedule : verifierReceipt.scheduleSha256 = scheduleSha256

structure FrozenPrefixView where
  taskId : String
  snapshotRef : ArtifactRef
  visibleSha256 : String
  tokenIdsSha256 : String
  triggerReason : TriggerReason
  prefixSuccess : ℕ
  y0Grade : GradeReceipt

structure BranchSlot where
  slotId : String
  seed : ℕ
  executionOrder : ℕ
  hardwareLane : ℕ
  deriving DecidableEq

structure SlotIdentityRow where
  slotId : String
  opaqueCapabilityId : String
  seed : ℕ
  executionOrder : ℕ
  hardwareLane : ℕ
  deriving DecidableEq

structure BranchCaps where
  generatedTokens : ℕ
  modelCalls : ℕ
  toolCalls : ℕ
  wallClockMs : ℕ
  deriving DecidableEq

structure WorkOrderRow where
  studyId : String
  taskId : String
  benchmark : String
  slot : SlotIdentityRow
  snapshotRef : ArtifactRef
  privateGuidanceRef : Option ArtifactRef
  prefixVisibleSha256 : String
  packetIndexSha256 : String
  analysisFreezeSha256 : String
  branchCaps : BranchCaps
  deriving DecidableEq

-- "$" also stops before a closing newline.
def componentTexts (component : List Char) : List (List Char) :=
  [component,if component.getLast? = some '\n' then component.dropLast else component]

def spellsArm (relativePath : String) : Bool :=
  ((lowered relativePath).splitOn '/').any fun component => (componentTexts component).any fun text =>
    (text.splitOnP fun c => decide (c ∈ ['-','_','.'])).any fun word => decide (word ∈ armWords)

def SlotIdentityRow.postInit (slot : SlotIdentityRow) : Py Unit := do
  requireText slot.slotId "slot_id"
  requireSha256 slot.opaqueCapabilityId "opaque_capability_id"
  demand (slot.seed < 2 ^ 64) (.valueError "seed must be smaller than 2**64")

def WorkOrderRow.postInit (order : WorkOrderRow) : Py Unit := do
  order.slot.postInit
  requireText order.studyId "study_id"
  requireText order.taskId "task_id"
  requireText order.benchmark "benchmark"
  demand (order.snapshotRef.role = "composite_snapshot")
    (.valueError "snapshot_ref must be the composite snapshot role")
  match order.privateGuidanceRef with
  | none => pure ()
  | some ref => do
    demand (ref.role = guidanceRole) (.valueError "private_guidance_ref must use private_guidance role")
    demand (!spellsArm ref.relativePath) (.valueError "private_guidance_ref path must be arm-opaque")
  requireSha256 order.prefixVisibleSha256 "prefix_visible_sha256"
  requireSha256 order.packetIndexSha256 "packet_index_sha256"
  requireSha256 order.analysisFreezeSha256 "analysis_freeze_sha256"

structure OpaqueSlotIdentity where
  row : SlotIdentityRow
  built : row.postInit = .ok ()
  deriving DecidableEq

structure OpaqueSlotWorkOrder where
  row : WorkOrderRow
  built : row.postInit = .ok ()
  deriving DecidableEq

def SlotIdentityRow.json (slot : SlotIdentityRow) : Json := .obj [
  ("execution_order",.int slot.executionOrder),
  ("hardware_lane",.int slot.hardwareLane),
  ("opaque_capability_id",.str slot.opaqueCapabilityId),
  ("seed",.int slot.seed),
  ("slot_id",.str slot.slotId)]

def BranchCaps.json (caps : BranchCaps) : Json := .obj [
  ("generated_tokens",.int caps.generatedTokens),
  ("model_calls",.int caps.modelCalls),
  ("pending_prefix_calls_count_against_tool_cap",.bool true),
  ("tool_calls",.int caps.toolCalls),
  ("wall_clock_ms",.int caps.wallClockMs)]

def WorkOrderRow.json (order : WorkOrderRow) : Json := .obj [
  ("analysis_freeze_sha256",.str order.analysisFreezeSha256),
  ("benchmark",.str order.benchmark),
  ("branch_caps",order.branchCaps.json),
  ("packet_index_sha256",.str order.packetIndexSha256),
  ("prefix_visible_sha256",.str order.prefixVisibleSha256),
  ("private_guidance_ref",(order.privateGuidanceRef.map refJson).getD .null),
  ("slot",order.slot.json),
  ("snapshot_ref",refJson order.snapshotRef),
  ("study_id",.str order.studyId),
  ("task_id",.str order.taskId)]

def attemptJson (attemptIndex : ℕ) (complete : Bool) (digests : List String) (receipts : List UnscoredSlotRow) :
    Json := .obj [
  ("attempt_index",.int attemptIndex),
  ("complete",.bool complete),
  ("endpoint_readable",.bool false),
  ("record_kind",.str "branch_attempt_v1"),
  ("terminal_receipts",.arr (receipts.map UnscoredSlotRow.json)),
  ("work_order_sha256s",.arr (digests.map Json.str))]

def loadFrozenPrefixView (prefixIndexRef : ArtifactRef) (taskReceipts : List FrozenPrefixReceipt)
    (taskId : String) : Py FrozenPrefixView := do
  demand (prefixIndexRef.role = "resampling_prefix_receipt")
    (refused "prefix_index_ref must use the resampling_prefix_receipt role")
  demand (!taskReceipts.isEmpty) (refused "prefix index task_receipts is malformed")
  match taskReceipts.filter fun row => row.taskId = taskId with
  | [row] => return {
      taskId := taskId
      snapshotRef := row.snapshotRef
      visibleSha256 := row.visibleSha256
      tokenIdsSha256 := row.tokenIdsSha256
      triggerReason := row.triggerReason
      prefixSuccess := row.y0Grade.row.success
      y0Grade := row.y0Grade }
  | _ => .error (refused "sealed prefix index does not cover this task exactly once")

def capabilitiesFor (capabilities : List TaskPacketCapabilities) (taskId : String) :
    Py TaskPacketCapabilities :=
  match capabilities.filter fun item => item.row.taskId = taskId with
  | [item] => .ok item
  | _ => .error (refused "sealed packet capabilities do not cover this task exactly once")

def orderedSlots (slots : List BranchSlot) (capabilities : TaskPacketCapabilities) :
    Py (List (BranchSlot × String)) := do
  let ordered ← slots.mapM fun slot => do
    let grant ← required (refused "scheduled slot has no sealed packet capability")
      (capabilities.row.grants.find? fun grant => grant.slotId = slot.slotId)
    return (slot,grant.opaqueCapabilityId)
  demand (slots.map BranchSlot.slotId = capabilities.row.grants.map OpaqueSlotGrant.slotId)
    (refused "scheduled slot order differs from the preregistered allocation order")
  return ordered

def identityRow (slot : BranchSlot × String) : SlotIdentityRow where
  slotId := slot.1.slotId
  opaqueCapabilityId := slot.2
  seed := slot.1.seed
  executionOrder := slot.1.executionOrder
  hardwareLane := slot.1.hardwareLane

def identitiesOf (slots : List BranchSlot) (capabilities : TaskPacketCapabilities) : Py (List OpaqueSlotIdentity) := do
  demand (!capabilities.row.triggered) (refused "sealed packet capabilities mark this task as triggered")
  let identities ← (← orderedSlots slots capabilities).mapM fun slot =>
    construct (identityRow slot).postInit fun h => OpaqueSlotIdentity.mk (identityRow slot) h
  demand (identities.length = 4) (refused "a task must prepare exactly four opaque slots")
  return identities

def workOrderRow (studyId benchmark : String) (view : FrozenPrefixView) (branchCaps : BranchCaps)
    (packetIndexSha256 analysisFreezeSha256 : String) (slot : BranchSlot × String)
    (privateGuidanceRef : Option ArtifactRef) : WorkOrderRow where
  studyId := studyId
  taskId := view.taskId
  benchmark := benchmark
  slot := identityRow slot
  snapshotRef := view.snapshotRef
  privateGuidanceRef := privateGuidanceRef
  prefixVisibleSha256 := view.visibleSha256
  packetIndexSha256 := packetIndexSha256
  analysisFreezeSha256 := analysisFreezeSha256
  branchCaps := branchCaps

def blockFields : List (String × (WorkOrderRow → WorkOrderRow → Bool)) := [
  ("study_id",fun order head => order.studyId = head.studyId),
  ("task_id",fun order head => order.taskId = head.taskId),
  ("benchmark",fun order head => order.benchmark = head.benchmark),
  ("snapshot_ref",fun order head => order.snapshotRef = head.snapshotRef),
  ("prefix_visible_sha256",fun order head => order.prefixVisibleSha256 = head.prefixVisibleSha256),
  ("packet_index_sha256",fun order head => order.packetIndexSha256 = head.packetIndexSha256),
  ("analysis_freeze_sha256",fun order head => order.analysisFreezeSha256 = head.analysisFreezeSha256),
  ("branch_caps",fun order head => order.branchCaps = head.branchCaps)]

def positionOf (orders : List OpaqueSlotWorkOrder) (receipt : UnscoredSlotReceipt) : Py ℕ := do
  let index ← required (refused "attempt receipt does not belong to these work orders")
    (orders.findIdx? fun order => order.row.slot.opaqueCapabilityId = receipt.row.opaqueCapabilityId)
  demand (orders[index]?.map (fun order => order.row.slot.slotId) = some receipt.row.slotId)
    (refused "attempt receipt slot differs from its work order slot")
  return index

variable (platform : Platform)

def prepareOpaqueWorkOrders (decode : PacketDecoders) (files : Files) (studyId benchmark : String)
    (view : FrozenPrefixView) (slots : List BranchSlot) (branchCaps : BranchCaps)
    (packetIndexRef analysisFreezeRef : ArtifactRef) : Py (List OpaqueSlotWorkOrder) := do
  demand (view.triggerReason ≠ .noInterventionOpportunity)
    (refused "an untriggered task must use prepare_no_intervention_slots")
  demand (packetIndexRef.role = "packet_index_sealed") (refused "packet_index_ref must be the sealed packet index")
  demand (analysisFreezeRef.role = "analysis_freeze") (refused "analysis_freeze_ref must be the analysis freeze")
  let capabilities ← capabilitiesFor (← resolvePacketCapabilities platform decode files packetIndexRef) view.taskId
  demand capabilities.row.triggered (refused "sealed packet capabilities mark this task no-intervention")
  let orders ← (← orderedSlots slots capabilities).mapM fun slot => do
    (identityRow slot).postInit
    let grant ← capabilities.grantFor slot.2
    let row := workOrderRow studyId benchmark view branchCaps packetIndexRef.sha256 analysisFreezeRef.sha256 slot
      grant.guidanceRef
    construct row.postInit fun h => OpaqueSlotWorkOrder.mk row h
  demand (orders.length = 4) (refused "a task must prepare exactly four opaque slots")
  demand (decide (orders.map fun order => jsonSha256 platform order.row.json).Nodup)
    (refused "prepared work orders must be pairwise distinct")
  return orders

def prepareNoInterventionSlots (decode : PacketDecoders) (files : Files) (view : FrozenPrefixView)
    (slots : List BranchSlot) (packetIndexRef : ArtifactRef) : Py (List OpaqueSlotIdentity) := do
  demand (view.triggerReason = .noInterventionOpportunity)
    (refused "a triggered task must use prepare_opaque_work_orders")
  identitiesOf slots (← capabilitiesFor (← resolvePacketCapabilities platform decode files packetIndexRef)
    view.taskId)

def workOrderDigest (order : OpaqueSlotWorkOrder) : String := jsonSha256 platform order.row.json

def orderDigests (orders : List OpaqueSlotWorkOrder) : Py (List String) := do
  demand (orders.length = 4) (refused "an attempt must cover exactly four work orders")
  let head ← required (refused "an attempt must cover exactly four work orders") orders.head?
  blockFields.forM fun (name,same) => demand (orders.all fun order => same order.row head.row)
    (refused ("work orders in one block must share " ++ name))
  demand (decide (orders.map fun order => order.row.slot.slotId).Nodup &&
      decide (orders.map fun order => order.row.slot.opaqueCapabilityId).Nodup)
    (refused "work orders must name four distinct opaque slots")
  let digests := orders.map (workOrderDigest platform)
  demand (decide digests.Nodup) (refused "work orders must be pairwise distinct")
  return digests

def storedRef (role mediaType : String) (payload : Bytes) : ArtifactRef :=
  let digest := (platform.sha256 payload).hex
  ⟨role,"controller-artifacts/" ++ role ++ "/" ++ digest,digest,payload.length,mediaType⟩

def sealUnscoredAttempt (orders : List OpaqueSlotWorkOrder) (receipts : List UnscoredSlotReceipt)
    (attemptIndex : ℕ) : Py AttemptReceipt := do
  demand (attemptIndex ≤ 1) (refused "attempt_index must be 0 or 1")
  let digests ← orderDigests platform orders
  let positions ← receipts.mapM (positionOf orders)
  demand (decide positions.Nodup) (refused "an attempt may embed each slot at most once")
  -- Receipts stand in slot order, not in completion order.
  let ordered := ((positions.zip receipts).insertionSort fun left right => left.1 ≤ right.1).map fun pair =>
    pair.2.row
  let complete := decide (ordered.length = 4)
  let row : AttemptRow := {
    attemptIndex := attemptIndex
    attemptRef := storedRef platform "branch_attempt" "application/json"
      (canonicalJsonBytes (attemptJson attemptIndex complete digests ordered))
    workOrderSha256s := digests
    terminalReceipts := ordered
    complete := complete }
  construct row.postInit fun h => AttemptReceipt.mk row h

def authorizeFullBlockRerun (files : Files) (orders : List OpaqueSlotWorkOrder) (firstAttempt : AttemptReceipt)
    (outage : OutageReceipt) : Py (List OpaqueSlotWorkOrder) := do
  let digests ← orderDigests platform orders
  demand (firstAttempt.row.attemptIndex = 0) (refused "only attempt 0 may authorize a rerun")
  demand (!firstAttempt.row.complete) (refused "a complete attempt may not be rerun")
  demand (outage.row.firstAttempt = firstAttempt.row)
    (refused "the outage must embed the exact interrupted first attempt")
  demand (outage.row.workOrderSha256s = digests && firstAttempt.row.workOrderSha256s = digests)
    (refused "rerun authority requires the identical four work orders")
  demand (orders.all fun order => outage.row.taskId = order.row.taskId) (refused "the outage names a different task")
  let _ ← readBytes platform files outage.row.providerEventRef
  return orders

def failedSlotRow (failedSecond : AttemptReceipt) (adverseEventRef : ArtifactRef)
    (slot : OpaqueSlotWorkOrder × ArtifactRef) : FailedSlotRow where
  slotId := slot.1.row.slot.slotId
  opaqueCapabilityId := slot.1.row.slot.opaqueCapabilityId
  failedAttemptRef := failedSecond.row.attemptRef
  adverseEventRef := adverseEventRef
  providerCostRef := slot.2

def failedExecutionRow (adverseEventRef : ArtifactRef) (prefixSuccess : ℕ)
    (slot : OpaqueSlotWorkOrder × FailedSlotRow) : ExecutionRow where
  sourceReceiptSha256 := terminalReceiptDigest platform (.failed slot.2)
  sourceKind := .failedSecondAttempt
  gradeReceipt := none
  outcome := {
    taskId := slot.1.row.taskId
    benchmark := slot.1.row.benchmark
    opaqueArmId := slot.1.row.slot.opaqueCapabilityId
    success := 0
    prefixSuccess := prefixSuccess
    partialReward := 0
    infrastructureFailure := true
    counters := .zero
    artifactRef := adverseEventRef }

def requireInterrupted (digests : List String) (attempt : AttemptReceipt) (name : String) : Py Unit := do
  demand (!attempt.row.complete) (refused (name ++ " must be incomplete to finalize a failed block"))
  demand (attempt.row.workOrderSha256s = digests) (refused (name ++ " does not use the frozen four work orders"))

def finalizeFailedSecondAttempt (files : Files) (orders : List OpaqueSlotWorkOrder)
    (firstAttempt failedSecond : AttemptReceipt) (outage : OutageReceipt) (adverseEventRef : ArtifactRef)
    (providerCostRefs : List ArtifactRef) (prefixSuccess : ℕ) :
    Py (List TerminalSlotReceipt × List SlotExecutionReceipt) := do
  let digests ← orderDigests platform orders
  requireInterrupted digests firstAttempt "first_attempt"
  requireInterrupted digests failedSecond "failed_second_attempt"
  demand (firstAttempt.row.attemptIndex = 0 && failedSecond.row.attemptIndex = 1)
    (refused "failed finalization requires attempts 0 then 1")
  demand (failedSecond.row.attemptRef ≠ firstAttempt.row.attemptRef)
    (refused "the second attempt must be a distinct sealed attempt")
  demand (outage.row.firstAttempt = firstAttempt.row)
    (refused "the outage must embed the exact interrupted first attempt")
  demand (adverseEventRef.role = "branch_adverse_event")
    (refused "adverse_event_ref must use the branch_adverse_event role")
  let _ ← readBytes platform files adverseEventRef
  demand (providerCostRefs.length = 4) (refused "failed finalization requires four cost refs")
  let failed := (orders.zip providerCostRefs).map (failedSlotRow failedSecond adverseEventRef)
  let terminals ← failed.mapM fun row =>
    construct (TerminalSlotRow.failed row).postInit fun h => TerminalSlotReceipt.mk (.failed row) h
  let executions ← (orders.zip failed).mapM fun slot =>
    let row := failedExecutionRow platform adverseEventRef prefixSuccess slot
    construct row.postInit fun h => SlotExecutionReceipt.mk row h
  return (terminals,executions)

structure BlockParents where
  scheduleRef : ArtifactRef
  prefixIndexRef : ArtifactRef
  assignmentRef : ArtifactRef
  packetIndexRef : ArtifactRef
  analysisFreezeRef : ArtifactRef
  validityEventRefs : List ArtifactRef

structure AttemptHistory where
  attempts : List AttemptReceipt
  terminalReceipts : List TerminalSlotReceipt
  executionReceipts : List SlotExecutionReceipt
  selectedAttemptIndex : ℕ
  outageReceipt : Option OutageReceipt

def triggeredBlock (parent : Envelope) (view : FrozenPrefixView) (taskSpec : TaskSpec) (history : AttemptHistory)
    (parents : BlockParents) (outcomes : List BranchOutcome) : TaskBlock where
  studyId := parent.studyId
  taskId := view.taskId
  benchmark := taskSpec.benchmark
  stratum := taskSpec.stratum
  sensitivityGroups := taskSpec.sensitivityGroups
  frozenCreatedAt := parent.frozenCreatedAt
  triggered := true
  prefixSuccess := view.prefixSuccess
  slotOutcomes := outcomes
  scheduleRef := parents.scheduleRef
  prefixIndexRef := parents.prefixIndexRef
  assignmentRef := parents.assignmentRef
  packetIndexRef := parents.packetIndexRef
  analysisFreezeRef := parents.analysisFreezeRef
  attempts := some history.attempts
  selectedAttemptIndex := some history.selectedAttemptIndex
  terminalSlotReceipts := some history.terminalReceipts
  executionReceipts := some history.executionReceipts
  outageReceipt := history.outageReceipt
  validityEventRefs := parents.validityEventRefs
  pipelineValid := history.outageReceipt.isNone
  validityCodes := if history.outageReceipt.isNone then [] else ["provider_outage_rerun"]

def SlotExecutionReceipt.outcome (receipt : SlotExecutionReceipt) : Py BranchOutcome :=
  construct receipt.row.outcome.postInit fun h => ⟨receipt.row.outcome,h⟩

def sealTaskBlock (parent : Envelope) (view : FrozenPrefixView) (taskSpec : TaskSpec)
    (orders : List OpaqueSlotWorkOrder) (history : AttemptHistory) (parents : BlockParents) : Py TaskBlock := do
  let digests ← orderDigests platform orders
  demand (history.terminalReceipts.length = 4 && history.executionReceipts.length = 4)
    (refused "a task block requires exactly four slot closures")
  demand (history.terminalReceipts.map (fun receipt => receipt.row.slotId) =
        orders.map (fun order => order.row.slot.slotId) &&
      history.terminalReceipts.map (fun receipt => receipt.row.opaqueCapabilityId) =
        orders.map fun order => order.row.slot.opaqueCapabilityId)
    (refused "terminal receipts must follow the preregistered work-order slot order")
  demand (history.attempts.all fun attempt => attempt.row.workOrderSha256s = digests)
    (refused "every attempt must use the frozen four work orders")
  let block := triggeredBlock parent view taskSpec history parents
    (← history.executionReceipts.mapM SlotExecutionReceipt.outcome)
  block.postInit platform
  return block

def copiedOutcomeRow (view : FrozenPrefixView) (taskSpec : TaskSpec) (y0Grade : GradeReceipt)
    (slot : OpaqueSlotIdentity) : OutcomeRow where
  taskId := view.taskId
  benchmark := taskSpec.benchmark
  opaqueArmId := slot.row.opaqueCapabilityId
  success := y0Grade.row.success
  prefixSuccess := view.prefixSuccess
  partialReward := y0Grade.row.partialReward
  infrastructureFailure := y0Grade.row.infrastructureFailure
  counters := .zero
  artifactRef := y0Grade.row.artifactRef

def copiedBlock (parent : Envelope) (view : FrozenPrefixView) (taskSpec : TaskSpec) (parents : BlockParents)
    (outcomes : List BranchOutcome) : TaskBlock where
  studyId := parent.studyId
  taskId := view.taskId
  benchmark := taskSpec.benchmark
  stratum := taskSpec.stratum
  sensitivityGroups := taskSpec.sensitivityGroups
  frozenCreatedAt := parent.frozenCreatedAt
  triggered := false
  prefixSuccess := view.prefixSuccess
  slotOutcomes := outcomes
  scheduleRef := parents.scheduleRef
  prefixIndexRef := parents.prefixIndexRef
  assignmentRef := parents.assignmentRef
  packetIndexRef := parents.packetIndexRef
  analysisFreezeRef := parents.analysisFreezeRef
  attempts := none
  selectedAttemptIndex := none
  terminalSlotReceipts := none
  executionReceipts := none
  outageReceipt := none
  validityEventRefs := []
  pipelineValid := true
  validityCodes := []

def sealNoInterventionBlock (parent : Envelope) (view : FrozenPrefixView) (taskSpec : TaskSpec)
    (slots : List OpaqueSlotIdentity) (y0Grade : GradeReceipt) (parents : BlockParents) : Py TaskBlock := do
  demand (view.triggerReason = .noInterventionOpportunity)
    (refused "a no-intervention block requires the no-intervention trigger reason")
  demand (slots.length = 4 && decide (slots.map fun slot => slot.row.opaqueCapabilityId).Nodup)
    (refused "a task block requires four distinct opaque slots")
  demand (y0Grade.row.success = view.prefixSuccess) (refused "y0_grade must agree with the frozen prefix success")
  let outcomes ← slots.mapM fun slot =>
    let row := copiedOutcomeRow view taskSpec y0Grade slot
    construct row.postInit fun h => BranchOutcome.mk row h
  let block := copiedBlock parent view taskSpec parents outcomes
  block.postInit platform
  return block

end PneumaLab.ResamplingNull
