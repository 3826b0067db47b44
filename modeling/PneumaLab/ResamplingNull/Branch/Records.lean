import Mathlib.Data.Rat.Defs
import PneumaLab.ResamplingNull.Artifacts

namespace PneumaLab.ResamplingNull

inductive FailureKind where
  | NONE
  | MODEL
  | MALFORMED_ACTION
  | TOKEN_CAP
  | MODEL_CALL_CAP
  | TURN_CAP
  | TOOL_CAP
  | TIMEOUT
  | REFUSAL
  | INFRASTRUCTURE
  deriving DecidableEq, Repr

namespace FailureKind

def value : FailureKind → String
  | .NONE => "none"
  | .MODEL => "model"
  | .MALFORMED_ACTION => "malformed_action"
  | .TOKEN_CAP => "token_cap"
  | .MODEL_CALL_CAP => "model_call_cap"
  | .TURN_CAP => "turn_cap"
  | .TOOL_CAP => "tool_cap"
  | .TIMEOUT => "timeout"
  | .REFUSAL => "refusal"
  | .INFRASTRUCTURE => "infrastructure"

def unscored : List FailureKind :=
  [.NONE,.MODEL,.MALFORMED_ACTION,.TOKEN_CAP,.TOOL_CAP,.TIMEOUT,.INFRASTRUCTURE]

end FailureKind

structure ResourceCounters where
  generatedTokens : ℕ
  modelCalls : ℕ
  toolCalls : ℕ
  wallClockMs : ℕ
  deriving DecidableEq, Repr

def ResourceCounters.zero : ResourceCounters := ⟨0,0,0,0⟩

inductive SubjectRole where
  | primarySubject
  | userSimulator
  deriving DecidableEq, Repr

def SubjectRole.value : SubjectRole → String
  | .primarySubject => "primary_subject"
  | .userSimulator => "user_simulator"

structure CallSeedReceipt where
  subjectRole : SubjectRole
  callIndex : ℕ
  seed : ℕ
  deriving DecidableEq, Repr

structure GradeRow where
  success : ℕ
  partialReward : ℚ
  infrastructureFailure : Bool
  artifactRef : ArtifactRef
  deriving DecidableEq

structure OutcomeRow where
  taskId : String
  benchmark : String
  opaqueArmId : String
  success : ℕ
  prefixSuccess : ℕ
  partialReward : ℚ
  infrastructureFailure : Bool
  counters : ResourceCounters
  artifactRef : ArtifactRef
  deriving DecidableEq

structure UnscoredSlotRow where
  slotId : String
  opaqueCapabilityId : String
  preInjectionVisibleSha256 : String
  preInjectionTokenIdsSha256 : String
  finalSnapshotRef : ArtifactRef
  counters : ResourceCounters
  callSeeds : List CallSeedReceipt
  failureKind : FailureKind
  providerCostRef : ArtifactRef
  deriving DecidableEq

structure AttemptRow where
  attemptIndex : ℕ
  attemptRef : ArtifactRef
  workOrderSha256s : List String
  terminalReceipts : List UnscoredSlotRow
  complete : Bool
  deriving DecidableEq

structure FailedSlotRow where
  slotId : String
  opaqueCapabilityId : String
  failedAttemptRef : ArtifactRef
  adverseEventRef : ArtifactRef
  providerCostRef : ArtifactRef
  deriving DecidableEq

inductive TerminalSlotRow where
  | unscored (receipt : UnscoredSlotRow)
  | failed (receipt : FailedSlotRow)
  deriving DecidableEq

namespace TerminalSlotRow

def slotId : TerminalSlotRow → String
  | .unscored receipt => receipt.slotId
  | .failed receipt => receipt.slotId

def opaqueCapabilityId : TerminalSlotRow → String
  | .unscored receipt => receipt.opaqueCapabilityId
  | .failed receipt => receipt.opaqueCapabilityId

def isFailed : TerminalSlotRow → Bool
  | .unscored _ => false
  | .failed _ => true

end TerminalSlotRow

inductive SourceKind where
  | gradedUnscored
  | failedSecondAttempt
  deriving DecidableEq, Repr

structure ExecutionRow where
  sourceReceiptSha256 : String
  sourceKind : SourceKind
  gradeReceipt : Option GradeRow
  outcome : OutcomeRow
  deriving DecidableEq

structure OutageRow where
  taskId : String
  providerEventRef : ArtifactRef
  firstAttempt : AttemptRow
  workOrderSha256s : List String
  deriving DecidableEq

def jsonRoles : List String := [
  "selected_task","initial_restore_qualification","composite_snapshot","visible_context","token_ids",
  "input_token_ids","output_token_ids","provider_request","provider_dispatch_intent","provider_event",
  "provider_attempt","provider_attempt_ledger","provider_settlement","provider_cost_closure","tool_call",
  "tool_boundary_ledger","subject_stateless_attestation","simulator_stateless_attestation",
  "runtime_attestation","container_attestation","grade_restore_receipt","verifier_restore_receipt",
  "grade_evidence_receipt","verifier_evidence_receipt","prefix_candidate_receipt","branch_work_order",
  "branch_attempt","branch_adverse_event","verifier_source","verifier_report","verifier_feature"]

def octetRoles : List String := [
  "environment_snapshot","provider_response","tool_result","grade_evidence","verifier_evidence"]

def roleMedia (role : String) : Option String :=
  if role ∈ jsonRoles then some "application/json"
  else if role ∈ octetRoles then some "application/octet-stream"
  else none

def requireArtifactRef (ref : ArtifactRef) (name role : String) : Py Unit := do
  demand (ref.role = role) (.valueError (name ++ " role must equal '" ++ role ++ "'"))
  match roleMedia ref.role with
  | some media => demand (ref.mediaType = media) (.valueError (name ++ " media_type must equal '" ++ media ++ "'"))
  | none => return ()

def requireText (value name : String) : Py Unit :=
  demand (value ≠ "") (.valueError (name ++ " must be non-empty"))

def requireSha256 (value name : String) : Py Unit := do
  requireText value name
  demand (isSha256 value) (.valueError (name ++ " must be 64 lowercase hexadecimal characters"))

theorem requireSha256_eq_ok {value name : String} {u : Unit} :
    requireSha256 value name = .ok u ↔ isSha256 value = true := by
  have hempty : isSha256 "" = false := rfl
  simp only [requireSha256,requireText,bind_eq_ok,demand_eq_ok,decide_eq_true_eq]
  constructor
  · rintro ⟨_,_,hsha⟩
    exact hsha
  · intro hsha
    refine ⟨(),?_,hsha⟩
    rintro rfl
    rw [hempty] at hsha
    cases hsha

def requireWorkOrders (digests : List String) (name : String) : Py Unit := do
  demand (digests.length = 4) (.valueError (name ++ " must contain exactly four work-order digests"))
  digests.forM fun digest => requireSha256 digest (name ++ " item")
  demand (decide digests.Nodup) (.valueError (name ++ " must be pairwise distinct"))

def requireConsecutive : List CallSeedReceipt → (SubjectRole → ℕ) → Py Unit
  | [], _ => .ok ()
  | seed :: rest, next => do
    demand (seed.callIndex = next seed.subjectRole)
      (.valueError "call_seeds must number each subject_role consecutively from 0")
    requireConsecutive rest fun role => if role = seed.subjectRole then seed.callIndex + 1 else next role

def CallSeedReceipt.postInit (seed : CallSeedReceipt) : Py Unit := do
  demand (seed.callIndex < 2 ^ 64) (.valueError "call_index must be smaller than 2**64")
  demand (seed.seed < 2 ^ 64) (.valueError "seed must be smaller than 2**64")

def GradeRow.postInit (grade : GradeRow) : Py Unit := do
  demand (grade.success ≤ 1) (.valueError "success must be 0 or 1")
  demand (!grade.infrastructureFailure || grade.success = 0)
    (.valueError "infrastructure failure requires success == 0")

def OutcomeRow.postInit (outcome : OutcomeRow) : Py Unit := do
  requireText outcome.taskId "task_id"
  requireText outcome.benchmark "benchmark"
  requireText outcome.opaqueArmId "opaque_arm_id"
  demand (outcome.success ≤ 1) (.valueError "success must be 0 or 1")
  demand (outcome.prefixSuccess ≤ 1) (.valueError "prefix_success must be 0 or 1")
  demand (!outcome.infrastructureFailure || outcome.success = 0)
    (.valueError "infrastructure_failure requires success == 0")

def UnscoredSlotRow.postInit (receipt : UnscoredSlotRow) : Py Unit := do
  requireText receipt.slotId "slot_id"
  requireSha256 receipt.opaqueCapabilityId "opaque_capability_id"
  requireSha256 receipt.preInjectionVisibleSha256 "pre_injection_visible_sha256"
  requireSha256 receipt.preInjectionTokenIdsSha256 "pre_injection_token_ids_sha256"
  requireArtifactRef receipt.finalSnapshotRef "final_snapshot_ref" "composite_snapshot"
  receipt.callSeeds.forM CallSeedReceipt.postInit
  demand (decide (receipt.callSeeds.map fun seed => (seed.subjectRole,seed.callIndex)).Nodup)
    (.valueError "call_seeds must not repeat a (subject_role, call_index) pair")
  requireConsecutive receipt.callSeeds fun _ => 0
  demand (receipt.failureKind ∈ FailureKind.unscored)
    (.valueError "failure_kind is not registered for an unscored slot receipt")
  requireArtifactRef receipt.providerCostRef "provider_cost_ref" "provider_cost_closure"

def AttemptRow.postInit (attempt : AttemptRow) : Py Unit := do
  demand (attempt.attemptIndex ≤ 1) (.valueError "attempt_index must be 0 or 1")
  requireArtifactRef attempt.attemptRef "attempt_ref" "branch_attempt"
  requireWorkOrders attempt.workOrderSha256s "work_order_sha256s"
  attempt.terminalReceipts.forM UnscoredSlotRow.postInit
  demand (attempt.terminalReceipts.length ≤ 4)
    (.valueError "terminal_receipts must contain at most four receipts")
  demand (!attempt.complete || attempt.terminalReceipts.length = 4)
    (.valueError "a complete attempt requires exactly four receipts")
  demand (attempt.complete || attempt.terminalReceipts.length ≤ 3)
    (.valueError "an incomplete attempt requires at most three receipts")
  demand (decide (attempt.terminalReceipts.map UnscoredSlotRow.slotId).Nodup)
    (.valueError "terminal_receipts must not repeat a slot_id")
  demand (decide (attempt.terminalReceipts.map UnscoredSlotRow.opaqueCapabilityId).Nodup)
    (.valueError "terminal_receipts must not repeat an opaque_capability_id")

def FailedSlotRow.postInit (receipt : FailedSlotRow) : Py Unit := do
  requireText receipt.slotId "slot_id"
  requireSha256 receipt.opaqueCapabilityId "opaque_capability_id"
  requireArtifactRef receipt.failedAttemptRef "failed_attempt_ref" "branch_attempt"
  requireArtifactRef receipt.adverseEventRef "adverse_event_ref" "branch_adverse_event"
  requireArtifactRef receipt.providerCostRef "provider_cost_ref" "provider_cost_closure"

def TerminalSlotRow.postInit : TerminalSlotRow → Py Unit
  | .unscored receipt => receipt.postInit
  | .failed receipt => receipt.postInit

def ExecutionRow.postInit (receipt : ExecutionRow) : Py Unit := do
  requireSha256 receipt.sourceReceiptSha256 "source_receipt_sha256"
  match receipt.sourceKind, receipt.gradeReceipt with
  | .gradedUnscored, none => .error (.typeError "a graded execution receipt requires a GradeReceipt")
  | .gradedUnscored, some grade => grade.postInit
  | .failedSecondAttempt, some _ => .error (.valueError "a failed execution receipt must not carry a grade")
  | .failedSecondAttempt, none => .ok ()
  receipt.outcome.postInit

def OutageRow.postInit (outage : OutageRow) : Py Unit := do
  requireText outage.taskId "task_id"
  requireArtifactRef outage.providerEventRef "provider_event_ref" "provider_event"
  outage.firstAttempt.postInit
  demand (!outage.firstAttempt.complete) (.valueError "an outage receipt requires an incomplete first attempt")
  requireWorkOrders outage.workOrderSha256s "work_order_sha256s"
  demand (outage.workOrderSha256s = outage.firstAttempt.workOrderSha256s)
    (.valueError "work_order_sha256s must equal the first attempt work orders")

structure BranchOutcome where
  row : OutcomeRow
  built : row.postInit = .ok ()
  deriving DecidableEq

structure AttemptReceipt where
  row : AttemptRow
  built : row.postInit = .ok ()
  deriving DecidableEq

structure TerminalSlotReceipt where
  row : TerminalSlotRow
  built : row.postInit = .ok ()
  deriving DecidableEq

structure SlotExecutionReceipt where
  row : ExecutionRow
  built : row.postInit = .ok ()
  deriving DecidableEq

structure OutageReceipt where
  row : OutageRow
  built : row.postInit = .ok ()
  deriving DecidableEq

end PneumaLab.ResamplingNull
