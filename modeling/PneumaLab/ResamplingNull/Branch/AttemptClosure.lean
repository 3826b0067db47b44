import PneumaLab.ResamplingNull.Branch.TaskBlock

namespace PneumaLab.ResamplingNull

namespace TaskBlock

def ClosedAttempts (block : TaskBlock) : Prop :=
  (∃ attempt, block.attempts = some [attempt] ∧ attempt.row.complete = true ∧
    block.selectedAttemptIndex = some 0 ∧ block.outageReceipt = none) ∨
  ∃ first second outage, block.attempts = some [first,second] ∧ first.row.complete = false ∧
    block.selectedAttemptIndex = some 1 ∧ block.outageReceipt = some outage ∧
    outage.row.firstAttempt = first.row ∧ outage.row.workOrderSha256s = first.row.workOrderSha256s ∧
    outage.row.workOrderSha256s = second.row.workOrderSha256s ∧ outage.row.taskId = block.taskId

def OutageBound (block : TaskBlock) : Prop :=
  match block.attempts, block.outageReceipt with
  | some [_], none => True
  | some [first,_], some outage => block.selectedAttemptIndex = some 1 ∧
      outage.row.firstAttempt = first.row ∧ outage.row.taskId = block.taskId
  | _, _ => False

end TaskBlock

variable {platform : Platform} {block : TaskBlock}

theorem parts_of_accepted (htriggered : block.triggered = true) (h : block.postInit platform = .ok ()) :
    ∃ parts, block.requireParts = .ok parts ∧ parts.requireClosure block.outageReceipt = .ok () := by
  simp only [TaskBlock.postInit,bind_eq_ok,htriggered,if_true] at h
  obtain ⟨_,_,parts,hparts,_,hbranch,_⟩ := h
  exact ⟨parts,hparts,hbranch⟩

structure PartsOf (block : TaskBlock) (parts : TaskBlockParts) : Prop where
  attempts : block.attempts = some parts.attempts
  some_attempt : 1 ≤ parts.attempts.length
  two_attempts : parts.attempts.length ≤ 2
  index : block.selectedAttemptIndex = some parts.selectedAttemptIndex
  selected : parts.attempts[parts.selectedAttemptIndex]? = some parts.selected
  orders : ∀ attempt ∈ parts.attempts, attempt.row.workOrderSha256s = parts.selected.row.workOrderSha256s

theorem partsOf_of_ok {parts : TaskBlockParts} (h : block.requireParts = .ok parts) : PartsOf block parts := by
  simp only [TaskBlock.requireParts,bind_eq_ok,required_eq_ok,demand_eq_ok,Bool.and_eq_true,decide_eq_true_eq,
    List.all_eq_true] at h
  obtain ⟨attempts,hattempts,_,⟨hsome,htwo⟩,_,_,index,hindex,_,_,selected,hselected,_,_,_,_,_,_,_,_,_,_,_,_,_,
    horders,hreturn⟩ := h
  cases hreturn
  exact ⟨hattempts,hsome,htwo,hindex,hselected,horders⟩

theorem outage_incomplete (outage : OutageReceipt) : outage.row.firstAttempt.complete = false ∧
    outage.row.workOrderSha256s = outage.row.firstAttempt.workOrderSha256s := by
  have hbuilt := outage.built
  simp only [OutageRow.postInit,bind_eq_ok,demand_eq_ok,Bool.not_eq_true',decide_eq_true_eq] at hbuilt
  obtain ⟨_,_,_,_,_,_,_,hincomplete,_,_,horders⟩ := hbuilt
  exact ⟨hincomplete,horders⟩

theorem graded_complete {parts : TaskBlockParts} (h : parts.requireGraded = .ok ()) :
    parts.selected.row.complete = true := by
  simp only [TaskBlockParts.requireGraded,bind_eq_ok,demand_eq_ok] at h
  obtain ⟨_,hcomplete,_⟩ := h
  exact hcomplete

namespace PartsOf

variable {parts : TaskBlockParts}

theorem single (h : PartsOf block parts) {attempt : AttemptReceipt} (hattempts : parts.attempts = [attempt]) :
    parts.selectedAttemptIndex = 0 ∧ parts.selected = attempt := by
  have hselected := h.selected
  rw [hattempts] at hselected
  obtain ⟨hlt,hget⟩ := List.getElem?_eq_some_iff.mp hselected
  have hzero : parts.selectedAttemptIndex = 0 := by
    rw [List.length_singleton] at hlt
    omega
  simp only [hzero,List.getElem_cons_zero] at hget
  exact ⟨hzero,hget.symm⟩

theorem shape (h : PartsOf block parts) :
    (∃ attempt, parts.attempts = [attempt]) ∨ ∃ first second, parts.attempts = [first,second] := by
  have hsome := h.some_attempt
  have htwo := h.two_attempts
  match hattempts : parts.attempts with
  | [] => simp [hattempts] at hsome
  | [attempt] => exact .inl ⟨attempt,rfl⟩
  | [first,second] => exact .inr ⟨first,second,rfl⟩
  | _ :: _ :: _ :: _ =>
    rw [hattempts] at htwo
    simp at htwo

theorem closed_single (h : PartsOf block parts)
    (hbranch : parts.requireClosure block.outageReceipt = .ok ()) {attempt : AttemptReceipt} (hattempts : parts.attempts = [attempt]) :
    block.ClosedAttempts ↔ block.OutageBound := by
  obtain ⟨hzero,hselected⟩ := h.single hattempts
  have hblock : block.attempts = some [attempt] := hattempts ▸ h.attempts
  have hnot : parts.failedSecondAttempt = false := by simp [TaskBlockParts.failedSecondAttempt,hattempts]
  rw [TaskBlockParts.requireClosure,hnot,if_neg Bool.false_ne_true] at hbranch
  have hcomplete := graded_complete hbranch
  rw [hselected] at hcomplete
  have hindex : block.selectedAttemptIndex = some 0 := hzero ▸ h.index
  rw [TaskBlock.OutageBound,hblock]
  constructor
  · rintro (⟨_,_,_,_,hnone⟩ | ⟨_,_,_,htwo,_⟩)
    · rw [hnone]
      trivial
    · cases hblock.symm.trans htwo
  · intro hbound
    cases houtage : block.outageReceipt with
    | none => exact .inl ⟨attempt,hblock,hcomplete,hindex,houtage⟩
    | some outage =>
      rw [houtage] at hbound
      exact hbound.elim

theorem closed_double (h : PartsOf block parts) {first second : AttemptReceipt}
    (hattempts : parts.attempts = [first,second]) : block.ClosedAttempts ↔ block.OutageBound := by
  have hblock : block.attempts = some [first,second] := hattempts ▸ h.attempts
  have horders := h.orders
  rw [hattempts] at horders
  have hfirst := horders first List.mem_cons_self
  have hsecond := horders second (List.mem_cons_of_mem _ List.mem_cons_self)
  rw [TaskBlock.OutageBound,hblock]
  constructor
  · rintro (⟨_,hone,_⟩ | ⟨first',second',outage,htwo,_,hindex,houtage,hembeds,_,_,htask⟩)
    · cases hblock.symm.trans hone
    · cases hblock.symm.trans htwo
      rw [houtage]
      exact ⟨hindex,hembeds,htask⟩
  · intro hbound
    cases houtage : block.outageReceipt with
    | none =>
      rw [houtage] at hbound
      exact hbound.elim
    | some outage =>
      rw [houtage] at hbound
      obtain ⟨hindex,hembeds,htask⟩ := hbound
      obtain ⟨hincomplete,hsame⟩ := outage_incomplete outage
      rw [hembeds] at hincomplete hsame
      exact .inr ⟨first,second,outage,hblock,hincomplete,hindex,houtage,hembeds,hsame,
        hsame.trans (hfirst.trans hsecond.symm),htask⟩

end PartsOf

theorem accepted_attempts_closed_iff (htriggered : block.triggered = true)
    (h : block.postInit platform = .ok ()) : block.ClosedAttempts ↔ block.OutageBound := by
  obtain ⟨parts,hparts,hbranch⟩ := parts_of_accepted htriggered h
  have hof := partsOf_of_ok hparts
  rcases hof.shape with ⟨attempt,hattempts⟩ | ⟨first,second,hattempts⟩
  · exact hof.closed_single hbranch hattempts
  · exact hof.closed_double hattempts

section Sample

def blockSha (c : Char) : String := String.ofList (List.replicate 64 c)

def blockRef (role : String) : ArtifactRef := ⟨role,"blobs/" ++ role ++ ".json",blockSha 'a',1,"application/json"⟩

def zeroPlatform : Platform where
  sha256 := fun _ => ⟨List.replicate 32 0,rfl⟩
  hmac := fun _ _ => ⟨List.replicate 32 0,rfl⟩
  normalized := fun _ => true
  otherCategory := fun _ => false
  floatRepr := id

def sampleSlots : List (String × Char) := [("s0",'0'),("s1",'1'),("s2",'2'),("s3",'3')]

def sampleUnscored (slot : String × Char) : UnscoredSlotRow where
  slotId := slot.1
  opaqueCapabilityId := blockSha slot.2
  preInjectionVisibleSha256 := blockSha 'b'
  preInjectionTokenIdsSha256 := blockSha 'c'
  finalSnapshotRef := blockRef "composite_snapshot"
  counters := .zero
  callSeeds := []
  failureKind := .NONE
  providerCostRef := blockRef "provider_cost_closure"

def sampleAttempt (index : ℕ) (receipts : List UnscoredSlotRow) : AttemptRow where
  attemptIndex := index
  attemptRef := blockRef "branch_attempt"
  workOrderSha256s := ['4','5','6','7'].map blockSha
  terminalReceipts := receipts
  complete := receipts.length = 4

def sampleOutcome (slot : String × Char) : OutcomeRow where
  taskId := "task"
  benchmark := "swe"
  opaqueArmId := blockSha slot.2
  success := 1
  prefixSuccess := 0
  partialReward := 1
  infrastructureFailure := false
  counters := .zero
  artifactRef := blockRef "grade_evidence"

def sampleExecution (platform : Platform) (slot : String × Char) : ExecutionRow where
  sourceReceiptSha256 := terminalReceiptDigest platform (.unscored (sampleUnscored slot))
  sourceKind := .gradedUnscored
  gradeReceipt := some ⟨1,1,false,blockRef "grade_evidence"⟩
  outcome := sampleOutcome slot

theorem isSha256_blockSha {c : Char} (hc : c ∈ lowerHex) : isSha256 (blockSha c) = true := by
  have hlist : (blockSha c).toList = List.replicate 64 c := String.toList_ofList
  rw [isSha256,hlist,List.length_replicate,Bool.and_eq_true,List.all_eq_true]
  exact ⟨rfl,fun x hx => decide_eq_true (List.eq_of_mem_replicate hx ▸ hc)⟩

theorem requireSha256_blockSha {c : Char} (hc : c ∈ lowerHex) (name : String) :
    requireSha256 (blockSha c) name = .ok () := requireSha256_eq_ok.mpr (isSha256_blockSha hc)

theorem sampleSlots_regular : ∀ slot ∈ sampleSlots, slot.1 ≠ "" ∧ slot.2 ∈ lowerHex := by decide

theorem sampleUnscored_built : ∀ slot ∈ sampleSlots, (sampleUnscored slot).postInit = .ok () := by
  intro slot hslot
  obtain ⟨hid,hhex⟩ := sampleSlots_regular slot hslot
  simp only [UnscoredSlotRow.postInit,sampleUnscored,bind_eq_ok]
  refine ⟨(),demand_eq_ok.mpr (decide_eq_true hid),(),requireSha256_blockSha hhex _,(),
    requireSha256_blockSha (by decide) _,(),requireSha256_blockSha (by decide) _,(),?_,(),rfl,(),rfl,(),rfl,(),rfl,?_⟩
  · decide
  · decide

theorem sampleOutcome_built : ∀ slot ∈ sampleSlots, (sampleOutcome slot).postInit = .ok () := by
  decide

theorem sampleExecution_built (platform : Platform) :
    ∀ slot ∈ sampleSlots, (sampleExecution platform slot).postInit = .ok () := by
  intro slot hslot
  simp only [ExecutionRow.postInit,sampleExecution,bind_eq_ok]
  exact ⟨(),requireSha256_eq_ok.mpr (Digest.isSha256_hex _),(),rfl,sampleOutcome_built slot hslot⟩

theorem attempt_built {row : AttemptRow} (hindex : row.attemptIndex ≤ 1)
    (href : requireArtifactRef row.attemptRef "attempt_ref" "branch_attempt" = .ok ())
    (horders : requireWorkOrders row.workOrderSha256s "work_order_sha256s" = .ok ())
    (hreceipts : row.terminalReceipts = sampleSlots.map sampleUnscored) (hcomplete : row.complete = true) :
    row.postInit = .ok () := by
  have hslots : ((sampleSlots.map sampleUnscored).map UnscoredSlotRow.slotId).Nodup := by decide
  have hcapabilities : ((sampleSlots.map sampleUnscored).map UnscoredSlotRow.opaqueCapabilityId).Nodup := by
    decide
  simp only [AttemptRow.postInit,bind_eq_ok,hreceipts,hcomplete]
  exact ⟨(),demand_eq_ok.mpr (decide_eq_true hindex),(),href,(),horders,(),
    forM_eq_ok.mpr (List.forall_mem_map.mpr sampleUnscored_built),(),rfl,(),rfl,(),rfl,(),
    demand_eq_ok.mpr (decide_eq_true hslots),demand_eq_ok.mpr (decide_eq_true hcapabilities)⟩

theorem completeAttempt_built :
    ∀ index ∈ [0,1], (sampleAttempt index (sampleSlots.map sampleUnscored)).postInit = .ok () := by
  intro index hindex
  have hsmall : index ≤ 1 := by
    rcases List.mem_pair.mp hindex with rfl | rfl <;> decide
  have horders : requireWorkOrders (['4','5','6','7'].map blockSha) "work_order_sha256s" = .ok () := by
    simp only [requireWorkOrders,bind_eq_ok,forM_eq_ok,List.forall_mem_map]
    refine ⟨(),rfl,(),fun c hc => requireSha256_blockSha ?_ _,?_⟩
    · have hall : ['4','5','6','7'].all (fun c => decide (c ∈ lowerHex)) = true := by decide
      exact of_decide_eq_true (List.all_eq_true.mp hall c hc)
    · decide
  exact attempt_built hsmall rfl horders rfl rfl

def completeAttempt (index : ℕ) (hindex : index ∈ [0,1]) : AttemptReceipt :=
  ⟨sampleAttempt index (sampleSlots.map sampleUnscored),completeAttempt_built index hindex⟩

def sampleOutcomes : List BranchOutcome := List.pmap BranchOutcome.mk (sampleSlots.map sampleOutcome)
  (List.forall_mem_map.mpr sampleOutcome_built)

def sampleTerminals : List TerminalSlotReceipt :=
  List.pmap TerminalSlotReceipt.mk (sampleSlots.map fun slot => .unscored (sampleUnscored slot))
    (List.forall_mem_map.mpr sampleUnscored_built)

def sampleExecutions (platform : Platform) : List SlotExecutionReceipt :=
  List.pmap SlotExecutionReceipt.mk (sampleSlots.map (sampleExecution platform))
    (List.forall_mem_map.mpr (sampleExecution_built platform))

def shoppedBlock (attempts : List AttemptReceipt) (selected : ℕ) : TaskBlock where
  studyId := "study"
  taskId := "task"
  benchmark := "swe"
  stratum := "s"
  sensitivityGroups := [⟨.domain,"web",by decide⟩]
  frozenCreatedAt := "2026-01-01"
  triggered := true
  prefixSuccess := 0
  slotOutcomes := sampleOutcomes
  scheduleRef := blockRef "resampling_prefix_schedule"
  prefixIndexRef := blockRef "resampling_prefix_receipt"
  assignmentRef := blockRef "resampling_assignment_ledger"
  packetIndexRef := blockRef "packet_index_sealed"
  analysisFreezeRef := blockRef "analysis_freeze"
  attempts := some attempts
  selectedAttemptIndex := some selected
  terminalSlotReceipts := some sampleTerminals
  executionReceipts := some (sampleExecutions zeroPlatform)
  outageReceipt := none
  validityEventRefs := []
  pipelineValid := true
  validityCodes := []

theorem single_attempt_closed : (shoppedBlock [completeAttempt 0 (by decide)] 0).ClosedAttempts :=
  (accepted_attempts_closed_iff rfl
    (show (shoppedBlock [completeAttempt 0 (by decide)] 0).postInit zeroPlatform = .ok () by decide)).mpr trivial

theorem two_complete_attempts_accepted :
    (shoppedBlock [completeAttempt 0 (by decide),completeAttempt 1 (by decide)] 0).postInit zeroPlatform = .ok () ∧
      (shoppedBlock [completeAttempt 0 (by decide),completeAttempt 1 (by decide)] 0).triggered = true ∧
      ¬ (shoppedBlock [completeAttempt 0 (by decide),completeAttempt 1 (by decide)] 0).ClosedAttempts := by
  refine ⟨by decide,rfl,?_⟩
  rintro (⟨_,hone,_⟩ | ⟨_,_,_,_,_,hindex,_⟩)
  · cases hone
  · cases hindex

end Sample

end PneumaLab.ResamplingNull
