import PneumaLab.ResamplingNull.Branch.Records

namespace PneumaLab.ResamplingNull

structure TaskBlock where
  studyId : String
  taskId : String
  benchmark : String
  stratum : String
  sensitivityGroups : List GroupLabel
  frozenCreatedAt : String
  triggered : Bool
  prefixSuccess : ℕ
  slotOutcomes : List BranchOutcome
  scheduleRef : ArtifactRef
  prefixIndexRef : ArtifactRef
  assignmentRef : ArtifactRef
  packetIndexRef : ArtifactRef
  analysisFreezeRef : ArtifactRef
  attempts : Option (List AttemptReceipt)
  selectedAttemptIndex : Option ℕ
  terminalSlotReceipts : Option (List TerminalSlotReceipt)
  executionReceipts : Option (List SlotExecutionReceipt)
  outageReceipt : Option OutageReceipt
  validityEventRefs : List ArtifactRef
  pipelineValid : Bool
  validityCodes : List String

def refJson (ref : ArtifactRef) : Json := .obj [
  ("byte_count",.int ref.byteCount),
  ("media_type",.str ref.mediaType),
  ("relative_path",.str ref.relativePath),
  ("role",.str ref.role),
  ("sha256",.str ref.sha256)]

def ResourceCounters.json (counters : ResourceCounters) : Json := .obj [
  ("generated_tokens",.int counters.generatedTokens),
  ("model_calls",.int counters.modelCalls),
  ("tool_calls",.int counters.toolCalls),
  ("wall_clock_ms",.int counters.wallClockMs)]

def CallSeedReceipt.json (seed : CallSeedReceipt) : Json := .obj [
  ("call_index",.int seed.callIndex),
  ("seed",.int seed.seed),
  ("subject_role",.str seed.subjectRole.value)]

def UnscoredSlotRow.json (receipt : UnscoredSlotRow) : Json := .obj [
  ("call_seeds",.arr (receipt.callSeeds.map CallSeedReceipt.json)),
  ("counters",receipt.counters.json),
  ("endpoint_readable",.bool false),
  ("failure_kind",.str receipt.failureKind.value),
  ("final_snapshot_ref",refJson receipt.finalSnapshotRef),
  ("opaque_capability_id",.str receipt.opaqueCapabilityId),
  ("pre_injection_token_ids_sha256",.str receipt.preInjectionTokenIdsSha256),
  ("pre_injection_visible_sha256",.str receipt.preInjectionVisibleSha256),
  ("provider_cost_ref",refJson receipt.providerCostRef),
  ("slot_id",.str receipt.slotId)]

def FailedSlotRow.json (receipt : FailedSlotRow) : Json := .obj [
  ("adverse_event_ref",refJson receipt.adverseEventRef),
  ("endpoint_readable",.bool false),
  ("failed_attempt_ref",refJson receipt.failedAttemptRef),
  ("failure_kind",.str FailureKind.INFRASTRUCTURE.value),
  ("opaque_capability_id",.str receipt.opaqueCapabilityId),
  ("provider_cost_ref",refJson receipt.providerCostRef),
  ("slot_id",.str receipt.slotId)]

namespace TerminalSlotRow

def json : TerminalSlotRow → Json
  | .unscored receipt => receipt.json
  | .failed receipt => receipt.json

def kind : TerminalSlotRow → String
  | .unscored _ => "unscored_slot_receipt"
  | .failed _ => "failed_slot_receipt"

def sourceJson (receipt : TerminalSlotRow) : Json :=
  .obj [("kind",.str receipt.kind),("receipt",receipt.json)]

end TerminalSlotRow

variable (platform : Platform)

def jsonSha256 (value : Json) : String := (platform.sha256 (canonicalJsonBytes value)).hex

def terminalReceiptDigest (receipt : TerminalSlotRow) : String := jsonSha256 platform receipt.sourceJson

structure TaskBlockParts where
  attempts : List AttemptReceipt
  selectedAttemptIndex : ℕ
  selected : AttemptReceipt
  terminals : List TerminalSlotReceipt
  executions : List SlotExecutionReceipt

def TaskBlock.requireEnvelope (block : TaskBlock) : Py Unit := do
  requireText block.studyId "study_id"
  requireText block.taskId "task_id"
  requireText block.benchmark "benchmark"
  requireText block.stratum "stratum"
  requireText block.frozenCreatedAt "frozen_created_at"
  demand (1 ≤ block.sensitivityGroups.length && block.sensitivityGroups.length ≤ 3)
    (.valueError "sensitivity_groups must carry one to three labels")
  demand (decide (block.sensitivityGroups.map GroupLabel.kind).Nodup)
    (.valueError "sensitivity_groups must not repeat a GroupKind")
  demand (block.prefixSuccess ≤ 1) (.valueError "prefix_success must be 0 or 1")
  demand (block.slotOutcomes.length = 4) (.valueError "slot_outcomes must contain exactly four outcomes")
  block.slotOutcomes.forM fun outcome => do
    demand (outcome.row.taskId = block.taskId) (.valueError "slot_outcomes must share the block task_id")
    demand (outcome.row.benchmark = block.benchmark) (.valueError "slot_outcomes must share the block benchmark")
    demand (outcome.row.prefixSuccess = block.prefixSuccess)
      (.valueError "slot_outcomes must share the block prefix_success")
  demand (decide (block.slotOutcomes.map fun outcome => outcome.row.opaqueArmId).Nodup)
    (.valueError "slot_outcomes must have unique opaque_arm_id values")
  requireArtifactRef block.scheduleRef "schedule_ref" "resampling_prefix_schedule"
  requireArtifactRef block.prefixIndexRef "prefix_index_ref" "resampling_prefix_receipt"
  requireArtifactRef block.assignmentRef "assignment_ref" "resampling_assignment_ledger"
  requireArtifactRef block.packetIndexRef "packet_index_ref" "packet_index_sealed"
  requireArtifactRef block.analysisFreezeRef "analysis_freeze_ref" "analysis_freeze"
  block.validityEventRefs.forM fun ref => requireArtifactRef ref "validity_event_refs item" ref.role
  demand (decide block.validityEventRefs.Nodup) (.valueError "validity_event_refs must be pairwise distinct")
  block.validityCodes.forM fun code => requireText code "validity_codes item"
  demand (decide block.validityCodes.Nodup) (.valueError "validity_codes must be pairwise distinct")

def TaskBlock.requireNulls (block : TaskBlock) : Py Unit := do
  demand block.attempts.isNone (.valueError "an untriggered task block requires null attempts")
  demand block.selectedAttemptIndex.isNone
    (.valueError "an untriggered task block requires null selected_attempt_index")
  demand block.terminalSlotReceipts.isNone
    (.valueError "an untriggered task block requires null terminal_slot_receipts")
  demand block.executionReceipts.isNone
    (.valueError "an untriggered task block requires null execution_receipts")
  demand block.outageReceipt.isNone (.valueError "an untriggered task block requires null outage_receipt")

def TaskBlock.requireParts (block : TaskBlock) : Py TaskBlockParts := do
  let attempts ← required (.typeError "a triggered task block requires an attempts tuple") block.attempts
  demand (1 ≤ attempts.length && attempts.length ≤ 2)
    (.valueError "attempts must contain one or two branch attempts")
  demand ((attempts.map fun attempt => attempt.row.attemptIndex) = List.range attempts.length)
    (.valueError "attempts must number attempt_index from 0 in order")
  let index ← required (.typeError "selected_attempt_index must be an exact int") block.selectedAttemptIndex
  demand (index ≤ 1) (.valueError "selected_attempt_index must be 0 or 1")
  let selected ← required (.valueError "selected_attempt_index must address a recorded attempt") attempts[index]?
  let terminals ← required (.typeError "a triggered task block requires a terminal_slot_receipts tuple")
    block.terminalSlotReceipts
  demand (terminals.length = 4) (.valueError "terminal_slot_receipts must contain exactly four receipts")
  let executions ← required (.typeError "a triggered task block requires an execution_receipts tuple")
    block.executionReceipts
  demand (executions.length = 4) (.valueError "execution_receipts must contain exactly four receipts")
  demand (decide (terminals.map fun receipt => receipt.row.slotId).Nodup)
    (.valueError "terminal_slot_receipts must have unique slot IDs")
  demand (decide (terminals.map fun receipt => receipt.row.opaqueCapabilityId).Nodup)
    (.valueError "terminal_slot_receipts must have unique opaque_capability_id values")
  demand (attempts.all fun attempt => attempt.row.workOrderSha256s = selected.row.workOrderSha256s)
    (.valueError "every attempt must reuse the selected attempt work orders")
  return ⟨attempts,index,selected,terminals,executions⟩

def TaskBlockParts.failedSecondAttempt (parts : TaskBlockParts) : Bool :=
  decide (parts.attempts.length = 2) && decide (parts.selectedAttemptIndex = 1) &&
    parts.attempts.all fun attempt => !attempt.row.complete

def TaskBlockParts.requireFailed (parts : TaskBlockParts) (outage : Option OutageReceipt) : Py Unit := do
  demand (parts.terminals.all fun receipt => receipt.row.isFailed)
    (.valueError "a failed second attempt requires four failed slot receipts")
  demand (parts.executions.all fun receipt => receipt.row.sourceKind = .failedSecondAttempt)
    (.valueError "a failed second attempt requires failed execution receipts")
  let outage ← required (.valueError "a failed second attempt requires an outage receipt") outage
  demand (parts.terminals.all fun receipt => match receipt.row with
      | .failed failed => decide (failed.failedAttemptRef = parts.selected.row.attemptRef)
      | .unscored _ => false)
    (.valueError "failed slot receipts must name the selected failed attempt")
  demand (some outage.row.firstAttempt = parts.attempts.head?.map AttemptReceipt.row)
    (.valueError "the outage receipt must embed this block's first attempt")

def TaskBlockParts.requireGraded (parts : TaskBlockParts) : Py Unit := do
  demand parts.selected.row.complete (.valueError "the selected attempt must be complete")
  demand (parts.terminals.all fun receipt => !receipt.row.isFailed)
    (.valueError "a graded task block requires four unscored slot receipts")
  demand ((parts.terminals.map TerminalSlotReceipt.row) = parts.selected.row.terminalReceipts.map .unscored)
    (.valueError "terminal_slot_receipts must equal the selected attempt receipts")
  demand (parts.executions.all fun receipt => receipt.row.sourceKind = .gradedUnscored)
    (.valueError "a graded task block requires graded execution receipts")

def TaskBlockParts.requireDescent (parts : TaskBlockParts) (outcomes : List BranchOutcome) : Py Unit := do
  demand ((parts.executions.map fun receipt => receipt.row.outcome) = outcomes.map BranchOutcome.row)
    (.valueError "execution receipt outcomes must equal slot_outcomes in order")
  (parts.terminals.zip parts.executions).forM fun (terminal,execution) => do
    demand (execution.row.sourceReceiptSha256 = terminalReceiptDigest platform terminal.row)
      (.valueError "execution_receipts do not descend from terminal_slot_receipts")
    demand (execution.row.outcome.opaqueArmId = terminal.row.opaqueCapabilityId)
      (.valueError "execution_receipts outcome names a different opaque slot than its terminal receipt")

def TaskBlockParts.requireClosure (parts : TaskBlockParts) (outage : Option OutageReceipt) : Py Unit :=
  if parts.failedSecondAttempt then parts.requireFailed outage else parts.requireGraded

def TaskBlock.postInit (block : TaskBlock) : Py Unit := do
  block.requireEnvelope
  if block.triggered then do
    let parts ← block.requireParts
    parts.requireClosure block.outageReceipt
    parts.requireDescent platform block.slotOutcomes
  else block.requireNulls

end PneumaLab.ResamplingNull
