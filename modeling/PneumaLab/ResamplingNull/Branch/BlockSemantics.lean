import PneumaLab.ResamplingNull.Branch.AttemptClosure
import PneumaLab.ResamplingNull.Branch.Digests

namespace PneumaLab.ResamplingNull

structure TaskBlockPayload where
  taskId : String
  benchmark : String
  stratum : String
  sensitivityGroups : List GroupLabel
  triggered : Bool
  prefixSuccess : ℕ
  slotOutcomes : List OutcomeRow
  scheduleRef : ArtifactRef
  prefixIndexRef : ArtifactRef
  assignmentRef : ArtifactRef
  packetIndexRef : ArtifactRef
  analysisFreezeRef : ArtifactRef
  attempts : Option (List AttemptRow)
  selectedAttemptIndex : Option ℕ
  terminalSlotReceipts : Option (List TerminalSlotRow)
  executionReceipts : Option (List ExecutionRow)
  outageReceipt : Option OutageRow
  validityEventRefs : List ArtifactRef
  pipelineValid : Bool
  validityCodes : List String

def TaskBlock.publish (block : TaskBlock) : TaskBlockPayload where
  taskId := block.taskId
  benchmark := block.benchmark
  stratum := block.stratum
  sensitivityGroups := block.sensitivityGroups
  triggered := block.triggered
  prefixSuccess := block.prefixSuccess
  slotOutcomes := block.slotOutcomes.map BranchOutcome.row
  scheduleRef := block.scheduleRef
  prefixIndexRef := block.prefixIndexRef
  assignmentRef := block.assignmentRef
  packetIndexRef := block.packetIndexRef
  analysisFreezeRef := block.analysisFreezeRef
  attempts := block.attempts.map (List.map AttemptReceipt.row)
  selectedAttemptIndex := block.selectedAttemptIndex
  terminalSlotReceipts := block.terminalSlotReceipts.map (List.map TerminalSlotReceipt.row)
  executionReceipts := block.executionReceipts.map (List.map SlotExecutionReceipt.row)
  outageReceipt := block.outageReceipt.map OutageReceipt.row
  validityEventRefs := block.validityEventRefs
  pipelineValid := block.pipelineValid
  validityCodes := block.validityCodes

namespace TaskBlockPayload

def invalid (message : String) : Raised := .recordValidationError message

def requireOutcomes (payload : TaskBlockPayload) : Py Unit := do
  demand (decide (payload.sensitivityGroups.map GroupLabel.kind).Nodup)
    (invalid "payload.sensitivity_groups must have unique kind values")
  demand (decide (payload.slotOutcomes.map OutcomeRow.opaqueArmId).Nodup)
    (invalid "payload.slot_outcomes must have unique opaque_arm_id values")
  payload.slotOutcomes.forM fun outcome => do
    demand (outcome.taskId = payload.taskId && outcome.benchmark = payload.benchmark)
      (invalid "slot outcome task/benchmark must match its task block")
    demand (!outcome.infrastructureFailure || outcome.success = 0)
      (invalid "infrastructure-failure outcomes must have success == 0")
    demand (outcome.prefixSuccess = payload.prefixSuccess)
      (invalid "slot outcome prefix_success must equal the task block's frozen prefix_success")

structure Selection where
  index : ℕ
  attempt : AttemptRow
  failedSecond : Bool
  terminals : List TerminalSlotRow

def select (payload : TaskBlockPayload) (attempts : List AttemptRow) : Py Selection := do
  let indices := attempts.map AttemptRow.attemptIndex
  demand (indices = List.range indices.length) (invalid "payload.attempts must be chronological from attempt 0")
  let index ← required (invalid "selected_attempt_index must identify an embedded attempt")
    (payload.selectedAttemptIndex.filter fun index => decide (index ∈ indices))
  let attempt ← required (invalid "selected attempt must be an embedded attempt receipt") attempts[index]?
  let failedSecond := decide (index = 1) && decide (attempts.length = 2) && !attempt.complete
  demand (failedSecond || attempt.complete) (invalid "successful selected attempt must be complete")
  let terminals ← required (.typeError "terminal_slot_receipts must be an array") payload.terminalSlotReceipts
  return ⟨index,attempt,failedSecond,terminals⟩

def requireTerminals (attempts : List AttemptRow) (selection : Selection) : Py Unit :=
  if selection.failedSecond then do
    demand (attempts.all fun attempt => !attempt.complete)
      (invalid "failed second-attempt finalization must preserve two incomplete attempts")
    demand (selection.terminals.all TerminalSlotRow.isFailed)
      (invalid "failed second-attempt finalization requires four FailedSlotReceipt terminals")
  else do
    demand (selection.attempt.terminalReceipts.map .unscored = selection.terminals)
      (invalid "successful terminal receipts must descend from the selected complete attempt")
    demand (selection.terminals.all fun terminal => !terminal.isFailed)
      (invalid "successful finalization requires four unscored terminals")

def orderedSubset (slots identities : List (String × String)) : Bool :=
  decide identities.Nodup && identities.all (fun identity => decide (identity ∈ slots)) &&
    decide ((identities.map fun identity => slots.idxOf identity).Pairwise (· ≤ ·))

def requirePositions (attempts : List AttemptRow) (selection : Selection) : Py Unit := do
  let slots := selection.terminals.map fun terminal => (terminal.slotId,terminal.opaqueCapabilityId)
  demand (decide (slots.map Prod.fst).Nodup && decide (slots.map Prod.snd).Nodup)
    (invalid "terminal receipts must identify four unique opaque slots")
  attempts.forM fun attempt => do
    demand (attempt.workOrderSha256s = selection.attempt.workOrderSha256s)
      (invalid "every attempt must use the selected attempt's four work-order positions")
    demand (orderedSubset slots (attempt.terminalReceipts.map fun receipt =>
        (receipt.slotId,receipt.opaqueCapabilityId)))
      (invalid "attempt terminal receipts must be a unique canonical-order subset of slot identities")
  demand (decide (attempts.map AttemptRow.attemptRef).Nodup)
    (invalid "attempt receipts must have unique attempt_ref identities")

def requireFailedSlot (payload : TaskBlockPayload) (selection : Selection) (terminal : TerminalSlotRow)
    (execution : ExecutionRow) (outcome : OutcomeRow) : Py Unit :=
  match terminal with
  | .unscored _ => .error (invalid "FailedSlotReceipt does not bind the incomplete second attempt")
  | .failed failed => do
    demand (failed.failedAttemptRef = selection.attempt.attemptRef)
      (invalid "FailedSlotReceipt does not bind the incomplete second attempt")
    demand (execution.gradeReceipt.isNone && outcome.success = 0 &&
        outcome.prefixSuccess = payload.prefixSuccess && outcome.partialReward = 0 &&
        outcome.infrastructureFailure && outcome.counters = .zero &&
        outcome.artifactRef = failed.adverseEventRef)
      (invalid "failed second-attempt slot is not an exact adverse-zero execution/outcome")

def requireGradedSlot (terminal : TerminalSlotRow) (execution : ExecutionRow) (outcome : OutcomeRow) : Py Unit := do
  let grade ← required (invalid "successful execution requires an exact grade receipt") execution.gradeReceipt
  match terminal with
  | .failed _ => .error (invalid "successful execution/grade/terminal receipts differ")
  | .unscored receipt =>
    demand (outcome.success = grade.success && outcome.partialReward = grade.partialReward &&
        outcome.infrastructureFailure = grade.infrastructureFailure &&
        outcome.artifactRef = grade.artifactRef && outcome.counters = receipt.counters)
      (invalid "successful execution/grade/terminal receipts differ")

def requireSlot (platform : Platform) (payload : TaskBlockPayload) (selection : Selection)
    (slot : TerminalSlotRow × ExecutionRow × OutcomeRow) : Py Unit := do
  let (terminal,execution,outcome) := slot
  demand (execution.sourceReceiptSha256 = jsonSha256 platform terminal.json)
    (invalid "execution receipt source digest does not bind its terminal receipt")
  demand (execution.outcome = outcome)
    (invalid "execution receipt outcome differs from its top-level slot outcome")
  demand (outcome.opaqueArmId = terminal.opaqueCapabilityId) (invalid "opaque slot identity differs")
  demand (execution.sourceKind = if selection.failedSecond then .failedSecondAttempt else .gradedUnscored)
    (invalid "execution receipt source kind differs")
  if selection.failedSecond then requireFailedSlot payload selection terminal execution outcome
  else requireGradedSlot terminal execution outcome

def requireOutage (payload : TaskBlockPayload) (attempts : List AttemptRow) (selection : Selection) : Py Unit :=
  if attempts.length = 1 then
    demand (selection.index = 0 && payload.outageReceipt.isNone)
      (invalid "one-attempt success must select attempt 0 without outage")
  else do
    let unbound := invalid "a two-attempt task requires a selected rerun and outage receipt"
    demand (selection.index = 1) unbound
    let outage ← required unbound payload.outageReceipt
    let first ← required unbound attempts.head?
    demand (!first.complete && outage.taskId = payload.taskId && outage.firstAttempt = first &&
        outage.workOrderSha256s = first.workOrderSha256s)
      (invalid "outage receipt is not bound to the actual first attempt")

def requireAttempts (platform : Platform) (payload : TaskBlockPayload) (attempts : List AttemptRow) :
    Py Unit := do
  let selection ← payload.select attempts
  requireTerminals attempts selection
  requirePositions attempts selection
  let executions ← required (.typeError "execution_receipts must be an array") payload.executionReceipts
  demand (executions.length = selection.terminals.length)
    (invalid "execution receipts must cover every terminal slot receipt")
  demand (payload.slotOutcomes.length = selection.terminals.length) (.valueError "zip() arguments differ in length")
  (selection.terminals.zip (executions.zip payload.slotOutcomes)).forM (requireSlot platform payload selection)
  requireOutage payload attempts selection

def copiedOutcome (outcome : OutcomeRow) : ℕ × ℕ × ℚ × Bool × ResourceCounters × ArtifactRef :=
  (outcome.success,outcome.prefixSuccess,outcome.partialReward,outcome.infrastructureFailure,outcome.counters,
    outcome.artifactRef)

def requireCopied (payload : TaskBlockPayload) : Py Unit := do
  demand (payload.slotOutcomes.all fun outcome => outcome.success = payload.prefixSuccess)
    (invalid "no-trigger slot outcomes must copy frozen Y_0 success from task-block prefix_success")
  demand ((payload.slotOutcomes.map copiedOutcome).dedup.length = 1)
    (invalid "no-trigger slot_outcomes must be four copied Y_0 outcomes")

def validate (platform : Platform) (payload : TaskBlockPayload) : Py Unit := do
  payload.requireOutcomes
  match payload.attempts with
  | some attempts => requireAttempts platform payload attempts
  | none => pure ()
  if payload.triggered then return () else payload.requireCopied

end TaskBlockPayload

theorem source_ne (terminal : TerminalSlotRow) : terminal.sourceJson ≠ terminal.json := by
  cases terminal with
  | unscored receipt => simp [TerminalSlotRow.sourceJson,TerminalSlotRow.json,UnscoredSlotRow.json]
  | failed receipt => simp [TerminalSlotRow.sourceJson,TerminalSlotRow.json,FailedSlotRow.json]

def TaskBlock.hashedTexts (block : TaskBlock) : List Bytes :=
  (block.terminalSlotReceipts.getD []).flatMap fun terminal =>
    [canonicalJsonBytes terminal.row.json,canonicalJsonBytes terminal.row.sourceJson]

theorem digests_differ {platform : Platform} {block : TaskBlock} {terminals : List TerminalSlotReceipt}
    {terminal : TerminalSlotReceipt} (hcollision : CollisionFree platform block.hashedTexts)
    (hterminals : block.terminalSlotReceipts = some terminals) (hmem : terminal ∈ terminals) :
    terminalReceiptDigest platform terminal.row ≠ jsonSha256 platform terminal.row.json := by
  intro hsame
  have htexts : ∀ text ∈ [canonicalJsonBytes terminal.row.json,canonicalJsonBytes terminal.row.sourceJson],
      text ∈ block.hashedTexts := by
    intro text htext
    rw [TaskBlock.hashedTexts,hterminals]
    exact List.mem_flatMap.mpr ⟨terminal,hmem,htext⟩
  have hbytes := hcollision _ (htexts _ (List.mem_cons_of_mem _ List.mem_cons_self)) _
    (htexts _ List.mem_cons_self) hsame
  exact source_ne terminal.row (canonicalJsonBytes_injective (source_exact _) (terminal_exact _) hbytes)

theorem descent_of_accepted {platform : Platform} {block : TaskBlock} (htriggered : block.triggered = true)
    (h : block.postInit platform = .ok ()) : ∃ attempts terminal terminals execution executions,
      block.attempts = some attempts ∧ block.terminalSlotReceipts = some (terminal :: terminals) ∧
      block.executionReceipts = some (execution :: executions) ∧
      execution.row.sourceReceiptSha256 = terminalReceiptDigest platform terminal.row := by
  simp only [TaskBlock.postInit,bind_eq_ok,htriggered,if_true] at h
  obtain ⟨_,_,parts,hparts,_,_,hdescent⟩ := h
  simp only [TaskBlock.requireParts,bind_eq_ok,required_eq_ok,demand_eq_ok,decide_eq_true_eq] at hparts
  obtain ⟨attempts,hattempts,_,_,_,_,_,_,_,_,_,_,terminals,hterminals,_,hfour,executions,hexecutions,_,hmany,_,_,_,
    _,_,_,hreturn⟩ := hparts
  cases hreturn
  simp only [TaskBlockParts.requireDescent,bind_eq_ok,forM_eq_ok,demand_eq_ok,decide_eq_true_eq] at hdescent
  obtain ⟨_,_,hpairs⟩ := hdescent
  obtain ⟨terminal,terminals,rfl⟩ := List.exists_cons_of_length_pos (show 0 < terminals.length by omega)
  obtain ⟨execution,executions,rfl⟩ := List.exists_cons_of_length_pos (show 0 < executions.length by omega)
  have hpair := hpairs (terminal,execution) (by rw [List.zip_cons_cons]; exact List.mem_cons_self)
  obtain ⟨_,hsource,_⟩ := hpair
  exact ⟨attempts,terminal,terminals,execution,executions,hattempts,hterminals,hexecutions,hsource⟩

theorem bound_of_valid {platform : Platform} {payload : TaskBlockPayload} {attempts : List AttemptRow}
    {terminal : TerminalSlotRow} {terminals : List TerminalSlotRow} {execution : ExecutionRow}
    {executions : List ExecutionRow} (hattempts : payload.attempts = some attempts)
    (hterminals : payload.terminalSlotReceipts = some (terminal :: terminals))
    (hexecutions : payload.executionReceipts = some (execution :: executions))
    (h : payload.validate platform = .ok ()) :
    execution.sourceReceiptSha256 = jsonSha256 platform terminal.json := by
  simp only [TaskBlockPayload.validate,bind_eq_ok,hattempts] at h
  obtain ⟨_,_,_,hrequired,_⟩ := h
  simp only [TaskBlockPayload.requireAttempts,bind_eq_ok,required_eq_ok,demand_eq_ok,decide_eq_true_eq,
    forM_eq_ok,hexecutions,Option.some.injEq,exists_eq_left'] at hrequired
  obtain ⟨selection,hselect,_,_,_,_,_,_,_,houtcomes,_,hslots,_⟩ := hrequired
  have hselected : selection.terminals = terminal :: terminals := by
    simp only [TaskBlockPayload.select,bind_eq_ok,required_eq_ok,demand_eq_ok,hterminals,Option.some.injEq,
      exists_eq_left'] at hselect
    obtain ⟨_,_,_,_,_,_,_,_,hreturn⟩ := hselect
    cases hreturn
    rfl
  rw [hselected] at hslots houtcomes
  obtain ⟨outcome,outcomes,hpayload⟩ := List.exists_cons_of_length_pos
    (show 0 < payload.slotOutcomes.length by rw [houtcomes]; exact Nat.succ_pos _)
  have hslot := hslots (terminal,execution,outcome) (by
    rw [hpayload,List.zip_cons_cons,List.zip_cons_cons]
    exact List.mem_cons_self)
  simp only [TaskBlockPayload.requireSlot,bind_eq_ok,demand_eq_ok,decide_eq_true_eq] at hslot
  obtain ⟨_,hsource,_⟩ := hslot
  exact hsource

theorem block_refused {platform : Platform} {block : TaskBlock} (htriggered : block.triggered = true)
    (haccepted : block.postInit platform = .ok ()) (hcollision : CollisionFree platform block.hashedTexts) :
    block.publish.validate platform ≠ .ok () := by
  intro hvalid
  obtain ⟨attempts,terminal,terminals,execution,executions,hattempts,hterminals,hexecutions,hsource⟩ :=
    descent_of_accepted htriggered haccepted
  have hbound := @bound_of_valid platform block.publish (attempts.map AttemptReceipt.row) terminal.row
    (terminals.map TerminalSlotReceipt.row) execution.row (executions.map SlotExecutionReceipt.row)
    (by rw [TaskBlock.publish,hattempts]; rfl) (by rw [TaskBlock.publish,hterminals]; rfl)
    (by rw [TaskBlock.publish,hexecutions]; rfl) hvalid
  exact digests_differ hcollision hterminals List.mem_cons_self (hsource.symm.trans hbound)

def AttemptHistory.hashedTexts (history : AttemptHistory) : List Bytes :=
  history.terminalReceipts.flatMap fun terminal =>
    [canonicalJsonBytes terminal.row.json,canonicalJsonBytes terminal.row.sourceJson]

theorem sealed_of_ok {platform : Platform} {parent : Envelope} {view : FrozenPrefixView} {taskSpec : TaskSpec}
    {orders : List OpaqueSlotWorkOrder} {history : AttemptHistory} {parents : BlockParents} {block : TaskBlock}
    (h : sealTaskBlock platform parent view taskSpec orders history parents = .ok block) :
    block.postInit platform = .ok () ∧
      ∃ outcomes, block = triggeredBlock parent view taskSpec history parents outcomes := by
  simp only [sealTaskBlock,bind_eq_ok] at h
  obtain ⟨_,_,_,_,_,_,_,_,outcomes,_,_,hbuilt,hreturn⟩ := h
  cases hreturn
  exact ⟨hbuilt,outcomes,rfl⟩

theorem sealed_task_block_refused (platform : Platform) (parent : Envelope) (view : FrozenPrefixView)
    (taskSpec : TaskSpec) (orders : List OpaqueSlotWorkOrder) (history : AttemptHistory) (parents : BlockParents)
    (hcollision : CollisionFree platform history.hashedTexts) :
    ¬ ∃ block, sealTaskBlock platform parent view taskSpec orders history parents = .ok block ∧
      block.publish.validate platform = .ok () := by
  rintro ⟨block,hsealed,hvalid⟩
  obtain ⟨haccepted,outcomes,rfl⟩ := sealed_of_ok hsealed
  exact block_refused rfl haccepted hcollision hvalid

def Descends (platform : Platform) (slot : TerminalSlotRow × ExecutionRow) : Prop :=
  slot.2.sourceReceiptSha256 = terminalReceiptDigest platform slot.1 ∧
    slot.2.outcome.opaqueArmId = slot.1.opaqueCapabilityId ∧
    match slot.1 with
    | .unscored receipt => slot.2.outcome.counters = receipt.counters
    | .failed _ => slot.2.outcome.counters = .zero

def AttemptHistory.Descending (platform : Platform) (history : AttemptHistory) : Prop :=
  List.Forall₂ (fun terminal execution => Descends platform (terminal.row,execution.row)) history.terminalReceipts
    history.executionReceipts

inductive FollowsProtocol (platform : Platform) (files : Files) (orders : List OpaqueSlotWorkOrder) :
    AttemptHistory → Prop
  | complete {receipts : List UnscoredSlotReceipt} {attempt : AttemptReceipt} {history : AttemptHistory}
      (sealed : sealUnscoredAttempt platform orders receipts 0 = .ok attempt)
      (complete : attempt.row.complete = true)
      (attempts : history.attempts = [attempt]) (selected : history.selectedAttemptIndex = 0)
      (outage : history.outageReceipt = none)
      (terminals : history.terminalReceipts.map TerminalSlotReceipt.row =
        attempt.row.terminalReceipts.map .unscored)
      (descending : history.Descending platform) : FollowsProtocol platform files orders history
  | rerun {receipts again : List UnscoredSlotReceipt} {first second : AttemptReceipt} {outage : OutageReceipt}
      {history : AttemptHistory} (sealed : sealUnscoredAttempt platform orders receipts 0 = .ok first)
      (authorized : authorizeFullBlockRerun platform files orders first outage = .ok orders)
      (resealed : sealUnscoredAttempt platform orders again 1 = .ok second)
      (complete : second.row.complete = true)
      (attempts : history.attempts = [first,second]) (selected : history.selectedAttemptIndex = 1)
      (bought : history.outageReceipt = some outage)
      (terminals : history.terminalReceipts.map TerminalSlotReceipt.row =
        second.row.terminalReceipts.map .unscored)
      (descending : history.Descending platform) : FollowsProtocol platform files orders history
  | failed {receipts again : List UnscoredSlotReceipt} {first second : AttemptReceipt} {outage : OutageReceipt}
      {adverseEventRef : ArtifactRef} {costRefs : List ArtifactRef} {prefixSuccess : ℕ} {history : AttemptHistory}
      (sealed : sealUnscoredAttempt platform orders receipts 0 = .ok first)
      (authorized : authorizeFullBlockRerun platform files orders first outage = .ok orders)
      (resealed : sealUnscoredAttempt platform orders again 1 = .ok second)
      (attempts : history.attempts = [first,second]) (selected : history.selectedAttemptIndex = 1)
      (bought : history.outageReceipt = some outage)
      (finalized : finalizeFailedSecondAttempt platform files orders first second outage adverseEventRef costRefs
        prefixSuccess = .ok (history.terminalReceipts,history.executionReceipts)) :
      FollowsProtocol platform files orders history

section Sample

def indexDigest (n : ℕ) : Digest := ⟨UInt8.ofNat n :: List.replicate 31 0,rfl⟩

def indexPlatform (texts : List Bytes) : Platform := { zeroPlatform with sha256 := fun raw => indexDigest (texts.idxOf raw) }

theorem indexPlatform_collisionFree {texts : List Bytes} (hsmall : texts.length ≤ 256) :
    CollisionFree (indexPlatform texts) texts := by
  intro left hleft right hright hsame
  have hdigest : indexDigest (texts.idxOf left) = indexDigest (texts.idxOf right) := Digest.hex_injective hsame
  have hbyte : UInt8.ofNat (texts.idxOf left) = UInt8.ofNat (texts.idxOf right) := by
    simpa [indexDigest] using hdigest
  have hleftlt := List.idxOf_lt_length_of_mem hleft
  have hrightlt := List.idxOf_lt_length_of_mem hright
  have hnat := congrArg UInt8.toNat hbyte
  rw [UInt8.toNat_ofNat',UInt8.toNat_ofNat',Nat.mod_eq_of_lt (by omega),Nat.mod_eq_of_lt (by omega)] at hnat
  exact (List.idxOf_inj hleft).mp hnat

def sampleOrder (slot : String × Char) : WorkOrderRow where
  studyId := "study"
  taskId := "task"
  benchmark := "swe"
  slot := ⟨slot.1,blockSha slot.2,0,0,0⟩
  snapshotRef := blockRef "composite_snapshot"
  privateGuidanceRef := none
  prefixVisibleSha256 := blockSha 'b'
  packetIndexSha256 := blockSha 'd'
  analysisFreezeSha256 := blockSha 'e'
  branchCaps := ⟨0,0,0,0⟩

theorem sampleOrder_built : ∀ slot ∈ sampleSlots, (sampleOrder slot).postInit = .ok () := by
  intro slot hslot
  obtain ⟨hid,hhex⟩ := sampleSlots_regular slot hslot
  have hidentity : (sampleOrder slot).slot.postInit = .ok () := by
    simp only [SlotIdentityRow.postInit,sampleOrder,bind_eq_ok]
    exact ⟨(),demand_eq_ok.mpr (decide_eq_true hid),(),requireSha256_blockSha hhex _,rfl⟩
  simp only [WorkOrderRow.postInit,hidentity,ok_bind]
  simp only [sampleOrder,bind_eq_ok]
  exact ⟨(),rfl,(),rfl,(),rfl,(),rfl,(),requireSha256_blockSha (by decide) _,(),
    requireSha256_blockSha (by decide) _,requireSha256_blockSha (by decide) _⟩

def sampleOrders : List OpaqueSlotWorkOrder :=
  List.pmap OpaqueSlotWorkOrder.mk (sampleSlots.map sampleOrder) (List.forall_mem_map.mpr sampleOrder_built)

def sampleReceipts : List UnscoredSlotReceipt :=
  List.pmap UnscoredSlotReceipt.mk (sampleSlots.map sampleUnscored) (List.forall_mem_map.mpr sampleUnscored_built)

def sampleTexts : List Bytes := orderTexts (sampleSlots.map sampleOrder) ++ sampleTerminals.flatMap fun terminal =>
  [canonicalJsonBytes terminal.row.json,canonicalJsonBytes terminal.row.sourceJson]

def blockPlatform : Platform := indexPlatform sampleTexts

theorem sampleTexts_collisionFree : CollisionFree blockPlatform sampleTexts :=
  indexPlatform_collisionFree (by decide)

def sampleDigests : List String := sampleSlots.map fun slot => jsonSha256 blockPlatform (sampleOrder slot).json

theorem sampleDigests_nodup : sampleDigests.Nodup := by
  have horders : CollisionFree blockPlatform (orderTexts (sampleSlots.map sampleOrder)) :=
    sampleTexts_collisionFree.mono fun text htext => List.mem_append_left _ htext
  have hslots : ((sampleSlots.map sampleOrder).map fun order => order.slot.slotId).Nodup := by decide
  have hdigests := digests_nodup horders hslots
  rw [List.map_map] at hdigests
  exact hdigests

theorem sample_orderDigests : orderDigests blockPlatform sampleOrders = .ok sampleDigests := by
  simp only [orderDigests,bind_eq_ok]
  exact ⟨(),rfl,_,rfl,(),by decide,(),by decide,(),demand_eq_ok.mpr (decide_eq_true sampleDigests_nodup),rfl⟩

def sealedRow : AttemptRow where
  attemptIndex := 0
  attemptRef := storedRef blockPlatform "branch_attempt" "application/json"
    (canonicalJsonBytes (attemptJson 0 true sampleDigests (sampleSlots.map sampleUnscored)))
  workOrderSha256s := sampleDigests
  terminalReceipts := sampleSlots.map sampleUnscored
  complete := true

theorem sealedRow_built : sealedRow.postInit = .ok () := by
  have horders : requireWorkOrders sampleDigests "work_order_sha256s" = .ok () := by
    simp only [requireWorkOrders,bind_eq_ok,forM_eq_ok]
    refine ⟨(),rfl,(),?_,demand_eq_ok.mpr (decide_eq_true sampleDigests_nodup)⟩
    intro digest hdigest
    obtain ⟨_,_,rfl⟩ := List.mem_map.mp hdigest
    exact requireSha256_eq_ok.mpr (Digest.isSha256_hex _)
  exact attempt_built (Nat.zero_le 1) rfl horders rfl rfl

def sealedAttempt : AttemptReceipt := ⟨sealedRow,sealedRow_built⟩

theorem sample_sealUnscoredAttempt :
    sealUnscoredAttempt blockPlatform sampleOrders sampleReceipts 0 = .ok sealedAttempt := by
  have hpositions : sampleReceipts.mapM (positionOf sampleOrders) = .ok [0,1,2,3] := by decide
  have hordered : ((([0,1,2,3].zip sampleReceipts).insertionSort fun left right => left.1 ≤ right.1).map
      fun pair => pair.2.row) = sampleSlots.map sampleUnscored := by
    decide
  simp only [sealUnscoredAttempt,bind_eq_ok]
  refine ⟨(),rfl,sampleDigests,sample_orderDigests,[0,1,2,3],hpositions,(),rfl,?_⟩
  simp only [hordered]
  exact construct_eq_ok.mpr ⟨sealedRow_built,rfl⟩

def sampleHistory : AttemptHistory where
  attempts := [sealedAttempt]
  terminalReceipts := sampleTerminals
  executionReceipts := sampleExecutions blockPlatform
  selectedAttemptIndex := 0
  outageReceipt := none

def sampleParents : BlockParents where
  scheduleRef := blockRef "resampling_prefix_schedule"
  prefixIndexRef := blockRef "resampling_prefix_receipt"
  assignmentRef := blockRef "resampling_assignment_ledger"
  packetIndexRef := blockRef "packet_index_sealed"
  analysisFreezeRef := blockRef "analysis_freeze"
  validityEventRefs := []

def sampleEnvelope : Envelope := ⟨"study","2026-01-01",⟨blockSha 'a',blockSha 'b'⟩⟩

def sampleView : FrozenPrefixView where
  taskId := "task"
  snapshotRef := blockRef "composite_snapshot"
  visibleSha256 := blockSha 'b'
  tokenIdsSha256 := blockSha 'c'
  triggerReason := .fourthToolCall
  prefixSuccess := 0
  y0Grade := ⟨⟨0,0,false,blockRef "grade_evidence"⟩,rfl⟩

theorem sampleStratum_nonempty : "s" ≠ "" := by decide

theorem sampleTaskId_nonempty : "task" ≠ "" := by decide

def sampleSpec : TaskSpec where
  taskId := "task"
  benchmark := "swe"
  stratum := "s"
  lineage := "l"
  sensitivityGroups := [⟨.domain,"shop",by decide⟩]
  taskId_nonempty := sampleTaskId_nonempty
  benchmark_nonempty := by decide
  stratum_nonempty := sampleStratum_nonempty
  lineage_nonempty := by decide
  groups_nonempty := by decide
  groups_distinct := by decide

def sampleBlock : TaskBlock := triggeredBlock sampleEnvelope sampleView sampleSpec sampleHistory sampleParents sampleOutcomes

theorem sampleBlock_accepted : sampleBlock.postInit blockPlatform = .ok () := by
  have henvelope : sampleBlock.requireEnvelope = .ok () := by decide
  have hsame : ([sealedAttempt].all fun attempt => attempt.row.workOrderSha256s = sealedAttempt.row.workOrderSha256s) =
      true := List.all_eq_true.mpr fun attempt hattempt => by rw [List.mem_singleton.mp hattempt,decide_eq_true_eq]
  have hparts : sampleBlock.requireParts =
      .ok ⟨[sealedAttempt],0,sealedAttempt,sampleTerminals,sampleExecutions blockPlatform⟩ := by
    simp only [TaskBlock.requireParts,bind_eq_ok]
    exact ⟨_,rfl,(),rfl,(),rfl,0,rfl,(),rfl,sealedAttempt,rfl,sampleTerminals,rfl,(),rfl,
      sampleExecutions blockPlatform,rfl,(),rfl,(),by decide,(),by decide,(),
      demand_eq_ok.mpr hsame,rfl⟩
  have hgraded : TaskBlockParts.requireGraded
      ⟨[sealedAttempt],0,sealedAttempt,sampleTerminals,sampleExecutions blockPlatform⟩ = .ok () := by
    simp only [TaskBlockParts.requireGraded,bind_eq_ok]
    exact ⟨(),rfl,(),rfl,(),demand_eq_ok.mpr (decide_eq_true rfl),rfl⟩
  have hdescent : TaskBlockParts.requireDescent blockPlatform
      ⟨[sealedAttempt],0,sealedAttempt,sampleTerminals,sampleExecutions blockPlatform⟩ sampleBlock.slotOutcomes =
        .ok () := by
    simp only [TaskBlockParts.requireDescent,bind_eq_ok,forM_eq_ok]
    refine ⟨(),by decide,?_⟩
    have hpairs : sampleTerminals.zip (sampleExecutions blockPlatform) = sampleSlots.attach.map fun slot =>
        (⟨.unscored (sampleUnscored slot.1),sampleUnscored_built slot.1 slot.2⟩,
          ⟨sampleExecution blockPlatform slot.1,sampleExecution_built blockPlatform slot.1 slot.2⟩) := rfl
    rw [hpairs,List.forall_mem_map]
    intro slot _
    exact ⟨(),demand_eq_ok.mpr (decide_eq_true rfl),demand_eq_ok.mpr (decide_eq_true rfl)⟩
  have hsingle : TaskBlockParts.failedSecondAttempt
      ⟨[sealedAttempt],0,sealedAttempt,sampleTerminals,sampleExecutions blockPlatform⟩ = false := by
    rw [TaskBlockParts.failedSecondAttempt]
    exact Bool.and_eq_false_imp.mpr fun hboth => by cases hboth
  have hclosure : TaskBlockParts.requireClosure
      ⟨[sealedAttempt],0,sealedAttempt,sampleTerminals,sampleExecutions blockPlatform⟩ sampleBlock.outageReceipt =
        .ok () := by
    rw [TaskBlockParts.requireClosure,hsingle,if_neg Bool.false_ne_true]
    exact hgraded
  have htriggered : sampleBlock.triggered = true := rfl
  rw [TaskBlock.postInit,if_pos htriggered]
  exact bind_eq_ok.mpr ⟨(),henvelope,bind_eq_ok.mpr ⟨_,hparts,bind_eq_ok.mpr ⟨(),hclosure,hdescent⟩⟩⟩

theorem sample_sealTaskBlock : sealTaskBlock blockPlatform sampleEnvelope sampleView sampleSpec sampleOrders
    sampleHistory sampleParents = .ok sampleBlock := by
  have houtcomes : (sampleExecutions blockPlatform).mapM SlotExecutionReceipt.outcome = .ok sampleOutcomes := rfl
  have hdigests : ([sealedAttempt].all fun attempt => attempt.row.workOrderSha256s = sampleDigests) = true :=
    List.all_eq_true.mpr fun attempt hattempt => by
      rw [List.mem_singleton.mp hattempt,decide_eq_true_eq]
      rfl
  simp only [sealTaskBlock,bind_eq_ok]
  exact ⟨sampleDigests,sample_orderDigests,(),rfl,(),rfl,(),demand_eq_ok.mpr hdigests,sampleOutcomes,houtcomes,(),
    sampleBlock_accepted,rfl⟩

theorem sampleHistory_collisionFree : CollisionFree blockPlatform sampleHistory.hashedTexts :=
  sampleTexts_collisionFree.mono fun _ htext => List.mem_append_right _ htext

theorem sample_block_unpublishable : ¬ ∃ block, sealTaskBlock blockPlatform sampleEnvelope sampleView sampleSpec
    sampleOrders sampleHistory sampleParents = .ok block ∧ block.publish.validate blockPlatform = .ok () :=
  sealed_task_block_refused blockPlatform sampleEnvelope sampleView sampleSpec sampleOrders sampleHistory
    sampleParents sampleHistory_collisionFree

theorem protocol_block_refused : FollowsProtocol blockPlatform (fun _ => none) sampleOrders sampleHistory ∧
    CollisionFree blockPlatform sampleHistory.hashedTexts ∧
    sealTaskBlock blockPlatform sampleEnvelope sampleView sampleSpec sampleOrders sampleHistory sampleParents =
      .ok sampleBlock ∧
    sampleBlock.publish.validate blockPlatform ≠ .ok () := by
  have hfollows : FollowsProtocol blockPlatform (fun _ => none) sampleOrders sampleHistory := by
    refine .complete sample_sealUnscoredAttempt rfl rfl rfl rfl rfl ?_
    repeat' constructor
  exact ⟨hfollows,sampleHistory_collisionFree,sample_sealTaskBlock,
    block_refused rfl sampleBlock_accepted sampleHistory_collisionFree⟩

end Sample

end PneumaLab.ResamplingNull
