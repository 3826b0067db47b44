import PneumaLab.ResamplingNull.Assignment.SealAgreement
import PneumaLab.ResamplingNull.Branch.BlockSemantics
import PneumaLab.ResamplingNull.Branch.Grants

namespace PneumaLab.ResamplingNull

def FrozenPrefixReceipt.triggered (receipt : FrozenPrefixReceipt) : Bool :=
  decide (receipt.triggerReason ≠ .noInterventionOpportunity)

def FrozenPrefixReceipt.copiedOutcome (receipt : FrozenPrefixReceipt) :
    ℕ × ℕ × ℚ × Bool × ResourceCounters × ArtifactRef :=
  let grade := receipt.y0Grade.row
  (grade.success,grade.success,grade.partialReward,grade.infrastructureFailure,receipt.counters,grade.artifactRef)

def validateTaskChain (payload : TaskBlockPayload) (entry : TaskSchedule) (receipt : FrozenPrefixReceipt)
    (assignment : TaskAssignment) (allocation : AllocationReceipt) : Py Unit := do
  demand (payload.taskId = entry.task.taskId) (refused "task block task_id differs from the frozen schedule")
  demand (payload.benchmark = entry.task.benchmark) (refused "task block benchmark differs from the frozen schedule")
  demand (payload.stratum = entry.task.stratum) (refused "task block stratum differs from the frozen schedule")
  demand (payload.sensitivityGroups = entry.task.sensitivityGroups)
    (refused "task block sensitivity_groups differs from the frozen schedule")
  demand (receipt.verifierReceipt.taskId = payload.taskId) (refused "prefix verifier task_id differs")
  demand (payload.prefixSuccess = receipt.y0Grade.row.success)
    (refused "task block prefix_success differs from the frozen prefix Y_0 grade")
  demand (payload.triggered = receipt.triggered)
    (refused "task block triggered state differs from the frozen prefix trigger")
  demand (assignment.slotArms.map Prod.fst = entry.slotIds &&
      allocation.slotCapabilities.map Prod.fst = entry.slotIds)
    (refused "task assignment/allocation slots differ from the frozen schedule")
  let capabilityIds := allocation.slotCapabilities.map Prod.snd
  let identities := entry.slotIds.zip capabilityIds
  demand (payload.slotOutcomes.map OutcomeRow.opaqueArmId = capabilityIds)
    (refused "task outcomes differ from allocated capabilities")
  match payload.terminalSlotReceipts with
  | some terminals =>
    demand ((terminals.map fun terminal => (terminal.slotId,terminal.opaqueCapabilityId)) = identities)
      (refused "task terminal slot identities differ from the schedule/assignment")
  | none => pure ()
  match payload.attempts with
  | some attempts =>
    attempts.forM fun attempt =>
      demand (TaskBlockPayload.orderedSubset identities (attempt.terminalReceipts.map fun terminal =>
          (terminal.slotId,terminal.opaqueCapabilityId)))
        (refused "task attempt slot identities must be a unique canonical-order subset")
  | none => pure ()
  if receipt.triggered then return ()
  else
    payload.slotOutcomes.forM fun outcome =>
      demand (TaskBlockPayload.copiedOutcome outcome = receipt.copiedOutcome)
        (refused "no-trigger task does not copy the complete frozen prefix Y_0 outcome")

section SealedSlots

variable {platform : Platform} {root : RunRoot} {scheduleRef prefixIndexRef : ArtifactRef} {master : Bytes}
  {ledger : LedgerPayload} {files : Files} {schedule : SchedulePayload} {entry : TaskSchedule}
  {assignment : TaskAssignment} {allocation : AllocationReceipt}

theorem treatments_length : ∀ index : Fin 12, (allocationTable.getD index.val []).length = 4 := by decide

theorem reconstructArms_length {arms : List Arm} (h : reconstructArms allocation = .ok arms) : arms.length = 4 := by
  simp only [reconstructArms,bind_eq_ok,demand_eq_ok,Bool.and_eq_true,decide_eq_true_eq] at h
  obtain ⟨_,⟨hlow,hhigh⟩,_,_,hreturn⟩ := h
  cases hreturn
  have hlength : allocationTable.length = 12 := rfl
  rw [hlength] at hhigh
  rw [List.length_map,List.length_zipIdx]
  exact treatments_length ⟨allocation.treatmentAllocationIndex.toNat,by omega⟩

theorem Allocated.slotArms_slots {manifestSha256 scheduleSha256 prefixIndexSha256 : String}
    {donor : Option AssignmentPrefixTaskView}
    (h : Allocated manifestSha256 scheduleSha256 prefixIndexSha256 entry donor assignment allocation) :
    assignment.slotArms.map Prod.fst = entry.slotIds := by
  have harms := h.arms
  cases hreconstructed : reconstructArms allocation with
  | error e =>
    rw [hreconstructed] at harms
    cases harms
  | ok arms =>
    rw [hreconstructed] at harms
    have hzip : entry.slotIds.zip arms = assignment.slotArms := Except.ok.inj harms
    rw [← hzip,List.map_fst_zip (by rw [entry.four,reconstructArms_length hreconstructed])]

theorem sealed_tasks (hsealed : sealBranchAssignment platform root scheduleRef prefixIndexRef master = .ok (ledger,files))
    (hschedule : root.schedule scheduleRef = .ok schedule) : ∃ tasks : List SealedTask,
      ledger.assignments = tasks.map SealedTask.assignment ∧
      ledger.allocationReceipts = tasks.map SealedTask.allocation ∧
      List.Forall₂ (fun (row : TaskSchedule) task => ∃ manifestSha256 scheduleSha256 prefixIndexSha256 donor,
        Allocated manifestSha256 scheduleSha256 prefixIndexSha256 row donor task.assignment task.allocation)
        schedule.tasks tasks := by
  simp only [sealBranchAssignment,bind_eq_ok] at hsealed
  obtain ⟨inputs,hinputs,hprepare⟩ := hsealed
  obtain ⟨views,viewSha256,keys,keyed,tasks,hruns,rfl,_⟩ := sealed_of_prepare hprepare
  obtain ⟨rfl,rfl,hloaded,_⟩ := authority_of_load hinputs
  obtain rfl := Except.ok.inj (hschedule.symm.trans hloaded)
  refine ⟨tasks,rfl,rfl,hruns.row_of_task.imp ?_⟩
  rintro row task ⟨view,_,_,hseal⟩
  exact ⟨_,_,_,_,allocated_of_seal hseal⟩

theorem sealed_slots (hsealed : sealBranchAssignment platform root scheduleRef prefixIndexRef master = .ok (ledger,files))
    (hschedule : root.schedule scheduleRef = .ok schedule) (hentry : entry ∈ schedule.tasks)
    (hassignment : assignment ∈ ledger.assignments) (hassigned : assignment.taskId = entry.task.taskId)
    (hallocation : allocation ∈ ledger.allocationReceipts) (hallocated : allocation.taskId = entry.task.taskId) :
    assignment.slotArms.map Prod.fst = entry.slotIds ∧ allocation.slotCapabilities.map Prod.fst = entry.slotIds := by
  obtain ⟨tasks,hassignments,hallocations,hrows⟩ := sealed_tasks hsealed hschedule
  rw [hassignments] at hassignment
  rw [hallocations] at hallocation
  obtain ⟨assigned,hassignedMem,rfl⟩ := List.mem_map.mp hassignment
  obtain ⟨allocated,hallocatedMem,rfl⟩ := List.mem_map.mp hallocation
  obtain ⟨row,hrow,_,_,_,_,hleft⟩ := exists_right_of_forall₂ hrows.flip hassignedMem
  obtain ⟨other,hother,_,_,_,_,hright⟩ := exists_right_of_forall₂ hrows.flip hallocatedMem
  have hrowEq : row = entry :=
    List.inj_on_of_nodup_map schedule.distinct hrow hentry (hleft.assignedId.symm.trans hassigned)
  have hotherEq : other = entry :=
    List.inj_on_of_nodup_map schedule.distinct hother hentry (hright.allocatedId.symm.trans hallocated)
  subst hrowEq hotherEq
  exact ⟨hleft.slotArms_slots,hright.capabilityIds⟩

theorem sealed_allocation_unique
    (hsealed : sealBranchAssignment platform root scheduleRef prefixIndexRef master = .ok (ledger,files))
    (hschedule : root.schedule scheduleRef = .ok schedule) :
    (ledger.allocationReceipts.map AllocationReceipt.taskId).Nodup := by
  obtain ⟨tasks,_,hallocations,hrows⟩ := sealed_tasks hsealed hschedule
  have hids : schedule.tasks.map (fun row => row.task.taskId) = tasks.map fun task => task.allocation.taskId :=
    map_eq_of_forall₂ (hrows.imp fun row task hrow => by
      obtain ⟨_,_,_,_,hallocated⟩ := hrow
      exact hallocated.allocatedId.symm)
  rw [hallocations,List.map_map,Function.comp_def,← hids]
  exact schedule.distinct

end SealedSlots

structure NoInterventionRun (platform : Platform) where
  root : RunRoot
  scheduleRef : ArtifactRef
  prefixIndexRef : ArtifactRef
  master : Bytes
  ledger : LedgerPayload
  ledger_sealed : ∃ files, sealBranchAssignment platform root scheduleRef prefixIndexRef master = .ok (ledger,files)
  schedule : SchedulePayload
  schedule_loaded : root.schedule scheduleRef = .ok schedule
  entry : TaskSchedule
  entry_scheduled : entry ∈ schedule.tasks
  assignment : TaskAssignment
  assignment_sealed : assignment ∈ ledger.assignments
  assignment_task : assignment.taskId = entry.task.taskId
  allocation : AllocationReceipt
  allocation_sealed : allocation ∈ ledger.allocationReceipts
  allocation_task : allocation.taskId = entry.task.taskId
  taskReceipts : List FrozenPrefixReceipt
  receipt : FrozenPrefixReceipt
  receipt_indexed : receipt ∈ taskReceipts
  receipt_task : receipt.taskId = entry.task.taskId
  receipt_untriggered : receipt.triggerReason = .noInterventionOpportunity
  view : FrozenPrefixView
  view_loaded : loadFrozenPrefixView prefixIndexRef taskReceipts entry.task.taskId = .ok view
  decode : PacketDecoders
  packetFiles : Files
  packetIndexRef : ArtifactRef
  records : PacketRecords
  records_loaded : loadPacketRecords platform decode packetFiles packetIndexRef = .ok records
  records_sealed : records.assignments = ledger.assignments ∧ records.allocations = ledger.allocationReceipts
  slots : List BranchSlot
  identities : List OpaqueSlotIdentity
  identities_prepared : prepareNoInterventionSlots platform decode packetFiles view slots packetIndexRef = .ok identities
  parent : Envelope
  parents : BlockParents
  block : TaskBlock
  block_sealed : sealNoInterventionBlock platform parent view entry.task identities view.y0Grade parents = .ok block

theorem view_of_load {prefixIndexRef : ArtifactRef} {taskReceipts : List FrozenPrefixReceipt} {taskId : String}
    {view : FrozenPrefixView} {receipt : FrozenPrefixReceipt}
    (h : loadFrozenPrefixView prefixIndexRef taskReceipts taskId = .ok view) (hreceipt : receipt ∈ taskReceipts)
    (htask : receipt.taskId = taskId) : view.taskId = taskId ∧ view.triggerReason = receipt.triggerReason ∧
      view.prefixSuccess = receipt.y0Grade.row.success ∧ view.y0Grade = receipt.y0Grade := by
  simp only [loadFrozenPrefixView,bind_eq_ok] at h
  obtain ⟨_,_,_,_,hmatch⟩ := h
  split at hmatch
  · next row hfilter =>
    have hmem : receipt ∈ taskReceipts.filter fun row => row.taskId = taskId :=
      List.mem_filter.mpr ⟨hreceipt,decide_eq_true htask⟩
    rw [hfilter] at hmem
    obtain rfl := List.mem_singleton.mp hmem
    cases hmatch
    exact ⟨rfl,rfl,rfl,rfl⟩
  · cases hmatch

theorem identities_capabilities {slots : List BranchSlot} {capabilities : TaskPacketCapabilities}
    {identities : List OpaqueSlotIdentity} (h : identitiesOf slots capabilities = .ok identities) :
    identities.map (fun identity => identity.row.opaqueCapabilityId) =
      capabilities.row.grants.map OpaqueSlotGrant.opaqueCapabilityId := by
  simp only [identitiesOf,bind_eq_ok,mapM_eq_ok,construct_eq_ok] at h
  obtain ⟨_,_,ordered,hordered,made,hmade,_,_,hreturn⟩ := h
  cases hreturn
  obtain ⟨hids,rfl⟩ := orderedSlots_eq_ok hordered
  have hsame := map_eq_of_forall₂ (f := fun slot : BranchSlot × String => slot.2)
    (g := fun identity : OpaqueSlotIdentity => identity.row.opaqueCapabilityId) (hmade.imp fun slot identity hmade => by
      obtain ⟨_,rfl⟩ := hmade
      rfl)
  have hlength := congrArg List.length hids
  rw [List.length_map,List.length_map] at hlength
  rw [← hsame]
  exact List.map_snd_zip (by rw [List.length_map,hlength])

theorem copied_of_ok {platform : Platform} {parent : Envelope} {view : FrozenPrefixView} {taskSpec : TaskSpec}
    {slots : List OpaqueSlotIdentity} {y0Grade : GradeReceipt} {parents : BlockParents} {block : TaskBlock}
    (h : sealNoInterventionBlock platform parent view taskSpec slots y0Grade parents = .ok block) :
    slots.length = 4 ∧ y0Grade.row.success = view.prefixSuccess ∧ block.requireEnvelope = .ok () ∧
      ∃ outcomes, block = copiedBlock parent view taskSpec parents outcomes ∧
        outcomes.map BranchOutcome.row = slots.map (copiedOutcomeRow view taskSpec y0Grade) := by
  simp only [sealNoInterventionBlock,bind_eq_ok,demand_eq_ok,Bool.and_eq_true,decide_eq_true_eq,mapM_eq_ok,
    construct_eq_ok] at h
  obtain ⟨_,_,_,⟨hfour,_⟩,_,hsuccess,outcomes,houtcomes,_,hbuilt,hreturn⟩ := h
  cases hreturn
  simp only [TaskBlock.postInit,bind_eq_ok] at hbuilt
  obtain ⟨_,henvelope,_⟩ := hbuilt
  refine ⟨hfour,hsuccess,henvelope,outcomes,rfl,(map_eq_of_forall₂ (houtcomes.imp fun slot outcome hmade => ?_)).symm⟩
  obtain ⟨_,rfl⟩ := hmade
  rfl

namespace NoInterventionRun

variable {platform : Platform} (run : NoInterventionRun platform)

theorem capabilities : run.identities.map (fun identity => identity.row.opaqueCapabilityId) =
    run.allocation.slotCapabilities.map Prod.snd := by
  have hprepared := run.identities_prepared
  simp only [prepareNoInterventionSlots,resolvePacketCapabilities,bind_eq_ok] at hprepared
  obtain ⟨_,_,resolved,⟨records,hrecords,hresolved⟩,capabilities,hcapabilities,hidentities⟩ := hprepared
  obtain rfl := Except.ok.inj (run.records_loaded.symm.trans hrecords)
  obtain ⟨hmem,htask⟩ := capabilitiesFor_eq_ok hcapabilities
  obtain ⟨⟨assignment,allocation⟩,hrows,htaskRows⟩ := resolved_mem hresolved hmem
  obtain ⟨hassigned,hallocated,hslots⟩ := resolveTask_slots htaskRows
  have hview := (view_of_load run.view_loaded run.receipt_indexed run.receipt_task).1
  have hallocation : allocation = run.allocation := by
    obtain ⟨_,hsealed⟩ := run.ledger_sealed
    refine List.inj_on_of_nodup_map (sealed_allocation_unique hsealed run.schedule_loaded) ?_
      run.allocation_sealed ?_
    · rw [← run.records_sealed.2]
      exact (List.of_mem_zip hrows).2
    · rw [hallocated,← hassigned,htask,hview,run.allocation_task]
  rw [identities_capabilities hidentities,← hallocation,← hslots,List.map_map]
  rfl

theorem payload : run.identities.length = 4 ∧ ∃ outcomes,
    run.block = copiedBlock run.parent run.view run.entry.task run.parents outcomes ∧
      run.block.publish.slotOutcomes =
        run.identities.map (copiedOutcomeRow run.view run.entry.task run.receipt.y0Grade) := by
  obtain ⟨hfour,_,_,outcomes,hblock,houtcomes⟩ := copied_of_ok run.block_sealed
  have hgrade := (view_of_load run.view_loaded run.receipt_indexed run.receipt_task).2.2.2
  rw [hgrade] at houtcomes
  refine ⟨hfour,outcomes,hblock,?_⟩
  rw [hblock]
  exact houtcomes

theorem copied_iff (slot : OpaqueSlotIdentity) : TaskBlockPayload.copiedOutcome
    (copiedOutcomeRow run.view run.entry.task run.receipt.y0Grade slot) = run.receipt.copiedOutcome ↔
      run.receipt.counters = .zero := by
  have hsuccess := (view_of_load run.view_loaded run.receipt_indexed run.receipt_task).2.2.1
  simp only [TaskBlockPayload.copiedOutcome,copiedOutcomeRow,FrozenPrefixReceipt.copiedOutcome,hsuccess,Prod.mk.injEq,
    true_and,and_true]
  exact eq_comm

theorem chain_accepts_iff : validateTaskChain run.block.publish run.entry run.receipt run.assignment run.allocation =
    .ok () ↔ run.receipt.counters = .zero := by
  obtain ⟨hfour,outcomes,hblock,houtcomes⟩ := run.payload
  obtain ⟨htask,hreason,hsuccess,_⟩ := view_of_load run.view_loaded run.receipt_indexed run.receipt_task
  obtain ⟨_,hsealed⟩ := run.ledger_sealed
  obtain ⟨harms,hcapabilities⟩ := sealed_slots hsealed run.schedule_loaded run.entry_scheduled
    run.assignment_sealed run.assignment_task run.allocation_sealed run.allocation_task
  have huntriggered : run.receipt.triggered = false := by
    rw [FrozenPrefixReceipt.triggered,run.receipt_untriggered]
    rfl
  have harmIds : run.block.publish.slotOutcomes.map OutcomeRow.opaqueArmId =
      run.allocation.slotCapabilities.map Prod.snd := by
    rw [houtcomes,List.map_map,← run.capabilities]
    rfl
  have hterminals : run.block.publish.terminalSlotReceipts = none := by
    rw [hblock]
    rfl
  have hattempts : run.block.publish.attempts = none := by
    rw [hblock]
    rfl
  simp only [validateTaskChain,bind_eq_ok,demand_eq_ok,decide_eq_true_eq,Bool.and_eq_true,huntriggered,
    Bool.false_eq_true,if_false,hterminals,hattempts,forM_eq_ok]
  constructor
  · rintro ⟨_,_,_,_,_,_,_,_,_,_,_,_,_,_,_,_,_,_,hcopied⟩
    obtain ⟨slot,rest,hslots⟩ := List.exists_cons_of_length_eq_add_one hfour
    refine (run.copied_iff slot).mp (hcopied _ ?_)
    rw [houtcomes,hslots]
    exact List.mem_cons_self
  · intro hzero
    refine ⟨(),?_,(),?_,(),?_,(),?_,(),?_,(),?_,(),?_,(),⟨harms,hcapabilities⟩,(),harmIds,?_⟩
    · rw [hblock]
      exact htask
    · rw [hblock]
      rfl
    · rw [hblock]
      rfl
    · rw [hblock]
      rfl
    · rw [run.receipt.verifier_task,run.receipt_task,hblock]
      exact htask.symm
    · rw [hblock]
      exact hsuccess
    · rw [hblock]
      rfl
    · intro outcome houtcome
      rw [houtcomes] at houtcome
      obtain ⟨slot,_,rfl⟩ := List.mem_map.mp houtcome
      exact (run.copied_iff slot).mpr hzero

end NoInterventionRun

theorem outcomes_of_envelope {block : TaskBlock} (h : block.requireEnvelope = .ok ()) :
    block.publish.requireOutcomes = .ok () := by
  simp only [TaskBlock.requireEnvelope,bind_eq_ok,demand_eq_ok,decide_eq_true_eq,forM_eq_ok] at h
  obtain ⟨_,_,_,_,_,_,_,_,_,_,_,_,_,hgroups,_,_,_,_,_,hshared,_,harms,_⟩ := h
  simp only [TaskBlockPayload.requireOutcomes,bind_eq_ok,demand_eq_ok,decide_eq_true_eq,forM_eq_ok,
    Bool.and_eq_true]
  refine ⟨(),hgroups,(),?_,?_⟩
  · rw [TaskBlock.publish,List.map_map]
    exact harms
  · intro row hrow
    obtain ⟨outcome,houtcome,rfl⟩ := List.mem_map.mp hrow
    obtain ⟨_,htask,_,hbenchmark,hfrozen⟩ := hshared outcome houtcome
    have hbuilt := outcome.built
    simp only [OutcomeRow.postInit,bind_eq_ok,demand_eq_ok] at hbuilt
    obtain ⟨_,_,_,_,_,_,_,_,_,_,hfailure⟩ := hbuilt
    exact ⟨(),⟨htask,hbenchmark⟩,(),hfailure,hfrozen⟩

namespace NoInterventionRun

variable {platform : Platform} (run : NoInterventionRun platform)

theorem validated : run.block.publish.validate platform = .ok () := by
  obtain ⟨hfour,hsuccess,henvelope,outcomes,hblock,houtcomes⟩ := copied_of_ok run.block_sealed
  have hslots : run.block.publish.slotOutcomes =
      run.identities.map (copiedOutcomeRow run.view run.entry.task run.view.y0Grade) := by
    rw [hblock]
    exact houtcomes
  have hfrozen : run.block.publish.prefixSuccess = run.view.prefixSuccess := by
    rw [hblock]
    rfl
  have hattempts : run.block.publish.attempts = none := by
    rw [hblock]
    rfl
  have htriggered : run.block.publish.triggered = false := by
    rw [hblock]
    rfl
  have hcopied : run.block.publish.requireCopied = .ok () := by
    have hsame : run.block.publish.slotOutcomes.map TaskBlockPayload.copiedOutcome = List.replicate 4
        (run.view.y0Grade.row.success,run.view.prefixSuccess,run.view.y0Grade.row.partialReward,
          run.view.y0Grade.row.infrastructureFailure,ResourceCounters.zero,run.view.y0Grade.row.artifactRef) := by
      refine List.eq_replicate_iff.mpr ⟨by rw [hslots,List.length_map,List.length_map,hfour],?_⟩
      intro copied hcopied
      rw [hslots,List.map_map] at hcopied
      obtain ⟨_,_,rfl⟩ := List.mem_map.mp hcopied
      rfl
    simp only [TaskBlockPayload.requireCopied,bind_eq_ok,demand_eq_ok,decide_eq_true_eq,List.all_eq_true]
    refine ⟨(),?_,?_⟩
    · intro outcome houtcome
      rw [hslots] at houtcome
      obtain ⟨slot,_,rfl⟩ := List.mem_map.mp houtcome
      rw [hfrozen]
      exact hsuccess
    · rw [hsame,List.replicate_dedup (by decide)]
      rfl
  simp only [TaskBlockPayload.validate,bind_eq_ok,hattempts,htriggered,Bool.false_eq_true,if_false]
  exact ⟨(),outcomes_of_envelope henvelope,hcopied⟩

theorem published_iff : (run.block.publish.validate platform = .ok () ∧
    validateTaskChain run.block.publish run.entry run.receipt run.assignment run.allocation = .ok ()) ↔
      run.receipt.counters = .zero := by
  rw [run.chain_accepts_iff]
  exact and_iff_right run.validated

end NoInterventionRun

section Sample

theorem copiedSlots_four : ["s0","s1","s2","s3"].length = 4 := rfl

theorem copiedSlots_distinct : ["s0","s1","s2","s3"].Nodup := by decide

def copiedEntry : TaskSchedule := ⟨sampleSpec,["s0","s1","s2","s3"],copiedSlots_four,copiedSlots_distinct⟩

def copiedSchedule : SchedulePayload where
  studyId := "study"
  manifestRef := sampleRef "manifest" '5'
  tasks := [copiedEntry]
  distinct := List.nodup_singleton _

def copiedPrefix : PrefixReceipt where
  taskId := "task"
  scheduleSha256 := sampleSha '1'
  triggerReason := .noInterventionOpportunity
  verifierComponentClass := "none"
  objectiveFindingCount := 0
  normalizedReportTokenCount := 0
  class_nonempty := by decide

def copiedRoot : RunRoot where
  files := fun _ => none
  ledger := fun _ => .error .stopIteration
  schedule := fun _ => .ok copiedSchedule
  prefixIndex := fun _ => .ok ⟨"study",sampleRef "schedule" '1',[copiedPrefix],List.nodup_singleton _⟩
  manifest := fun _ => .ok ⟨"study",sampleRef "program" '4',(sampleDigest 1).hex⟩
  stratumKeys := fun _ => .ok ["benchmark"]

abbrev copiedSealing : Py (LedgerPayload × Files) := sealBranchAssignment sealingPlatform copiedRoot
  (sampleRef "schedule" '1') (sampleRef "resampling_prefix_receipt" '2') (List.replicate 32 7)

def copiedAssignment : TaskAssignment where
  taskId := "task"
  taskLineage := "l"
  donorMatchKind := .notApplicableNoTrigger
  donorTaskId := none
  donorLineage := none
  slotArms := [("s0",.NONE),("s1",.RESAMPLE),("s2",.REAL),("s3",.SHAM)]
  scheduleSha256 := sampleSha '1'
  prefixIndexSha256 := sampleSha '2'

def copiedCapability (digit : UInt8) (arm : Bytes) : Digest where
  bytes := (arm ++ [UInt8.ofNat arm.length,0,0,0,2,digit,115,2,0,0,0,2,107,115,97,116,4,0,0,0,2] ++
    List.replicate 32 34).take 32
  size := by simp

def copiedDigests : List Digest := [copiedCapability 48 [69,78,79,78],copiedCapability 49 [69,76,80,77,65,83,69,82],
  copiedCapability 50 [76,65,69,82],copiedCapability 51 [77,65,72,83]]

def copiedAllocation : AllocationReceipt where
  taskId := "task"
  slotIdsByOrdinal := ["s0","s1","s2","s3"]
  treatmentAllocationIndex := 0
  allocationRejectionCounter := 0
  noPacketOrientationBit := 0
  orientationRejectionCounter := 0
  slotCapabilities := ["s0","s1","s2","s3"].zip (copiedDigests.map Digest.hex)

theorem copiedDigests_nodup : (copiedDigests.map Digest.hex).Nodup := by
  have hbytes : (copiedDigests.map Digest.bytes).Nodup := by decide +kernel
  exact (List.Nodup.of_map _ hbytes).map fun _ _ => Digest.hex_injective

theorem copiedDigest_sha {text : String} (h : text ∈ copiedDigests.map Digest.hex) : isSha256 text = true := by
  obtain ⟨digest,_,rfl⟩ := List.mem_map.mp h
  exact Digest.isSha256_hex digest

def copiedLedger : LedgerPayload where
  manifestRef := sampleRef "manifest" '5'
  scheduleRef := sampleRef "schedule" '1'
  prefixIndexRef := sampleRef "resampling_prefix_receipt" '2'
  matchingProgramRef := sampleRef "program" '4'
  assignmentMasterKeyCommitmentSha256 := (sampleDigest 1).hex
  assignmentPrefixViewSha256 := (sampleDigest 1).hex
  assignmentMode := .syntheticDerangement
  matchingProofRefs := []
  assignments := [copiedAssignment]
  allocationReceipts := [copiedAllocation]
  donorMatchReceipts := [.noTrigger ⟨"task",.noInterventionOpportunity,(sampleDigest 1).hex⟩]

theorem copiedSealing_ledger : copiedSealing.map Prod.fst = .ok copiedLedger := by decide +kernel

theorem copiedSealing_sealed : ∃ files, copiedSealing = .ok (copiedLedger,files) := by
  have hledger := copiedSealing_ledger
  cases hsealed : copiedSealing with
  | error e =>
    rw [hsealed] at hledger
    cases hledger
  | ok result =>
    rw [hsealed] at hledger
    exact ⟨result.2,congrArg Except.ok (Prod.ext (Except.ok.inj hledger) rfl)⟩

def copiedReceipt (counters : ResourceCounters) : FrozenPrefixReceipt where
  taskId := "task"
  scheduleSha256 := sampleSha '1'
  snapshotRef := blockRef "composite_snapshot"
  visibleSha256 := blockSha 'b'
  tokenIdsSha256 := blockSha 'c'
  triggerReason := .noInterventionOpportunity
  y0Grade := ⟨⟨1,1,false,blockRef "grade_evidence"⟩,rfl⟩
  verifierReceipt := ⟨"task",sampleSha '1',blockRef "verifier_evidence"⟩
  counters := counters
  taskId_nonempty := sampleTaskId_nonempty
  snapshot_role := rfl
  visible_digest := isSha256_blockSha (by decide)
  tokens_digest := isSha256_blockSha (by decide)
  verifier_task := rfl
  verifier_schedule := rfl

def copiedView : FrozenPrefixView where
  taskId := "task"
  snapshotRef := blockRef "composite_snapshot"
  visibleSha256 := blockSha 'b'
  tokenIdsSha256 := blockSha 'c'
  triggerReason := .noInterventionOpportunity
  prefixSuccess := 1
  y0Grade := ⟨⟨1,1,false,blockRef "grade_evidence"⟩,rfl⟩

def packetRef (role : String) : ArtifactRef := ⟨role,"records/" ++ role ++ ".json",(sampleDigest 1).hex,0,"application/json"⟩

def packetParents : PacketParents where
  assignmentRef := packetRef "resampling_assignment_ledger"
  prefixIndexRef := sampleRef "resampling_prefix_receipt" '2'
  tokenizerRef := packetRef "tokenizer"
  packetTemplateRef := packetRef "packet_template"
  packetPolicyRef := packetRef "packet_policy"
  padUnitSetRef := packetRef "pad_unit_set"

def copiedDecoders : PacketDecoders where
  sealed := fun _ => .ok ⟨sampleEnvelope,⟨packetParents,packetRef "packet_index_candidate"⟩⟩
  candidate := fun _ => .ok ⟨sampleEnvelope,⟨packetParents,
    [.marker "task" (sampleSha '2') "no_intervention_opportunity"]⟩⟩
  ledger := fun _ => .ok ⟨sampleEnvelope,copiedLedger⟩

def copiedRecords : PacketRecords where
  prefixIndexRef := sampleRef "resampling_prefix_receipt" '2'
  entries := [.marker "task" (sampleSha '2') "no_intervention_opportunity"]
  assignments := [copiedAssignment]
  allocations := [copiedAllocation]

theorem copiedRecord_loaded {α : Type} {role : String} (field : String) {decode : Bytes → Py (SealedRecord α)}
    {record : SealedRecord α} (hdecode : decode [] = .ok record) (henvelope : record.envelope = sampleEnvelope) :
    loadSealed sealingPlatform (fun _ => some []) (packetRef role) role field decode = .ok record := by
  have hread : readBytes sealingPlatform (fun _ => some []) (packetRef role) = .ok [] := by
    simp only [readBytes,bind_eq_ok]
    exact ⟨(),demand_eq_ok.mpr (Bool.and_eq_true_iff.mpr ⟨rfl,decide_eq_true rfl⟩),rfl⟩
  simp only [loadSealed,hread,ok_bind,hdecode,henvelope,bind_eq_ok,demand_eq_ok]
  exact ⟨(),decide_eq_true rfl,(),rfl,(),by decide,rfl⟩

theorem copiedRecords_loaded : loadPacketRecords sealingPlatform copiedDecoders (fun _ => some [])
    (packetRef "packet_index_sealed") = .ok copiedRecords := by
  simp only [loadPacketRecords,bind_eq_ok]
  exact ⟨_,copiedRecord_loaded _ rfl rfl,_,copiedRecord_loaded _ rfl rfl,(),demand_eq_ok.mpr (decide_eq_true rfl),(),
    demand_eq_ok.mpr (decide_eq_true rfl),_,copiedRecord_loaded _ rfl rfl,(),rfl,(),rfl,(),
    demand_eq_ok.mpr (decide_eq_true rfl),rfl⟩

def copiedSlots : List BranchSlot := [⟨"s0",0,0,0⟩,⟨"s1",1,1,0⟩,⟨"s2",2,2,0⟩,⟨"s3",3,3,0⟩]

theorem copiedIdentities_built : ∀ slot ∈ copiedSlots.zip (copiedDigests.map Digest.hex),
    (identityRow slot).postInit = .ok () := by
  intro slot hslot
  obtain ⟨hbranch,hdigest⟩ := List.of_mem_zip hslot
  have hregular : ∀ branch ∈ copiedSlots, branch.slotId ≠ "" ∧ branch.seed < 2 ^ 64 := by decide
  obtain ⟨hid,hseed⟩ := hregular slot.1 hbranch
  simp only [SlotIdentityRow.postInit,identityRow,bind_eq_ok]
  exact ⟨(),demand_eq_ok.mpr (decide_eq_true hid),(),requireSha256_eq_ok.mpr (copiedDigest_sha hdigest),
    demand_eq_ok.mpr (decide_eq_true hseed)⟩

def copiedIdentities : List OpaqueSlotIdentity :=
  List.pmap (fun slot h => ⟨identityRow slot,h⟩) (copiedSlots.zip (copiedDigests.map Digest.hex)) copiedIdentities_built

def copiedGrants : CapabilitiesRow :=
  ⟨"task",false,copiedAllocation.slotCapabilities.map fun slot => ⟨slot.1,slot.2,none⟩⟩

theorem copiedGrants_built : copiedGrants.postInit = .ok () := by
  simp only [CapabilitiesRow.postInit,bind_eq_ok,forM_eq_ok,copiedGrants,List.forall_mem_map]
  refine ⟨(),?_,(),rfl,(),rfl,(),?_,(),rfl,(),rfl,rfl⟩
  · intro slot hslot
    obtain ⟨hid,hdigest⟩ := List.of_mem_zip hslot
    have hregular : ∀ id ∈ ["s0","s1","s2","s3"], id ≠ "" := by decide
    simp only [OpaqueSlotGrant.postInit,bind_eq_ok]
    exact ⟨(),demand_eq_ok.mpr (decide_eq_true (hregular _ hid)),(),
      demand_eq_ok.mpr (copiedDigest_sha hdigest),rfl⟩
  · exact demand_eq_ok.mpr (Bool.and_eq_true_iff.mpr ⟨rfl,decide_eq_true copiedDigests_nodup⟩)

theorem copiedSlots_ordered : slotOrder copiedAllocation "task" = .ok copiedAllocation.slotCapabilities := by
  simp only [slotOrder,bind_eq_ok,forM_eq_ok]
  refine ⟨(),rfl,(),rfl,(),?_,(),?_,rfl⟩
  · intro pair hpair
    have hregular : ∀ pair ∈ ["s0","s1","s2","s3"].zip copiedAllocation.slotCapabilities,
        pair.1 ≠ "" ∧ pair.2.1 = pair.1 :=
      List.forall_mem_cons.mpr ⟨⟨by decide,rfl⟩,List.forall_mem_cons.mpr ⟨⟨by decide,rfl⟩,
        List.forall_mem_cons.mpr ⟨⟨by decide,rfl⟩,List.forall_mem_cons.mpr ⟨⟨by decide,rfl⟩,
          fun _ h => absurd h List.not_mem_nil⟩⟩⟩⟩
    obtain ⟨hid,hsame⟩ := hregular pair hpair
    have hdigest := (List.of_mem_zip (List.of_mem_zip hpair).2).2
    exact ⟨(),demand_eq_ok.mpr (decide_eq_true hid),demand_eq_ok.mpr
      (Bool.and_eq_true_iff.mpr ⟨decide_eq_true hsame,copiedDigest_sha hdigest⟩)⟩
  · exact demand_eq_ok.mpr (Bool.and_eq_true_iff.mpr ⟨rfl,decide_eq_true copiedDigests_nodup⟩)

theorem copiedIdentities_prepared : prepareNoInterventionSlots sealingPlatform copiedDecoders (fun _ => some [])
    copiedView copiedSlots (packetRef "packet_index_sealed") = .ok copiedIdentities := by
  have htask : resolveTask sealingPlatform (fun _ => some []) copiedRecords (copiedAssignment,copiedAllocation) =
      .ok ⟨copiedGrants,copiedGrants_built⟩ := by
    simp only [resolveTask,bind_eq_ok]
    exact ⟨(),rfl,_,rfl,_,copiedSlots_ordered,_,rfl,(),rfl,(),demand_eq_ok.mpr (decide_eq_true rfl),
      bind_eq_ok.mpr ⟨(),rfl,bind_eq_ok.mpr ⟨(),rfl,build_eq_ok.mpr rfl⟩⟩⟩
  have hresolved : resolveRecords sealingPlatform (fun _ => some []) copiedRecords =
      .ok [⟨copiedGrants,copiedGrants_built⟩] := by
    simp only [resolveRecords,bind_eq_ok,mapM_eq_ok]
    exact ⟨(),rfl,(),rfl,(),rfl,.cons htask .nil⟩
  have hidentities : identitiesOf copiedSlots ⟨copiedGrants,copiedGrants_built⟩ = .ok copiedIdentities := by
    simp only [identitiesOf,bind_eq_ok,mapM_eq_ok,construct_eq_ok]
    refine ⟨(),rfl,copiedSlots.zip (copiedDigests.map Digest.hex),rfl,copiedIdentities,?_,(),rfl,rfl⟩
    exact .cons ⟨_,rfl⟩ (.cons ⟨_,rfl⟩ (.cons ⟨_,rfl⟩ (.cons ⟨_,rfl⟩ .nil)))
  simp only [prepareNoInterventionSlots,resolvePacketCapabilities,copiedRecords_loaded,ok_bind,hresolved]
  exact bind_eq_ok.mpr ⟨(),rfl,bind_eq_ok.mpr ⟨_,rfl,hidentities⟩⟩

theorem copiedOutcomes_built : ∀ identity ∈ copiedIdentities,
    (copiedOutcomeRow copiedView sampleSpec copiedView.y0Grade identity).postInit = .ok () := by
  intro identity _
  have hsha := identity.built
  simp only [SlotIdentityRow.postInit,bind_eq_ok] at hsha
  obtain ⟨_,_,_,hsha,_⟩ := hsha
  simp only [requireSha256,bind_eq_ok] at hsha
  obtain ⟨_,htext,_⟩ := hsha
  simp only [requireText,demand_eq_ok] at htext
  simp only [OutcomeRow.postInit,copiedOutcomeRow,bind_eq_ok]
  exact ⟨(),rfl,(),rfl,(),demand_eq_ok.mpr htext,(),rfl,(),rfl,rfl⟩

def copiedOutcomes : List BranchOutcome := List.pmap
  (fun identity h => ⟨copiedOutcomeRow copiedView sampleSpec copiedView.y0Grade identity,h⟩) copiedIdentities
  copiedOutcomes_built

def copiedSealedBlock : TaskBlock := copiedBlock sampleEnvelope copiedView sampleSpec sampleParents copiedOutcomes

theorem copiedSealedBlock_built : copiedSealedBlock.postInit sealingPlatform = .ok () := by
  have hparts : ∀ outcome ∈ copiedOutcomes, outcome.row.taskId = "task" ∧ outcome.row.benchmark = "swe" ∧
      outcome.row.prefixSuccess = 1 := by
    intro outcome houtcome
    obtain ⟨_,_,_,rfl⟩ := List.mem_pmap.mp houtcome
    exact ⟨rfl,rfl,rfl⟩
  have henvelope : copiedSealedBlock.requireEnvelope = .ok () := by
    simp only [TaskBlock.requireEnvelope,bind_eq_ok,forM_eq_ok]
    refine ⟨(),rfl,(),rfl,(),rfl,(),rfl,(),rfl,(),rfl,(),rfl,(),rfl,(),rfl,(),?_,(),?_,(),rfl,(),rfl,(),rfl,(),rfl,(),rfl,
      (),?_,(),rfl,(),?_,rfl⟩
    · intro outcome houtcome
      obtain ⟨htask,hbenchmark,hsuccess⟩ := hparts outcome houtcome
      exact ⟨(),demand_eq_ok.mpr (decide_eq_true htask),(),demand_eq_ok.mpr (decide_eq_true hbenchmark),
        demand_eq_ok.mpr (decide_eq_true hsuccess)⟩
    · exact demand_eq_ok.mpr (decide_eq_true copiedDigests_nodup)
    · exact fun _ h => absurd h List.not_mem_nil
    · exact fun _ h => absurd h List.not_mem_nil
  have huntriggered : copiedSealedBlock.triggered = false := rfl
  rw [TaskBlock.postInit,huntriggered,if_neg Bool.false_ne_true]
  exact bind_eq_ok.mpr ⟨(),henvelope,rfl⟩

theorem copiedSeal_sealed : sealNoInterventionBlock sealingPlatform sampleEnvelope copiedView sampleSpec copiedIdentities
    copiedView.y0Grade sampleParents = .ok copiedSealedBlock := by
  simp only [sealNoInterventionBlock,bind_eq_ok,mapM_eq_ok,construct_eq_ok]
  refine ⟨(),rfl,(),?_,(),rfl,copiedOutcomes,?_,(),copiedSealedBlock_built,rfl⟩
  · exact demand_eq_ok.mpr (Bool.and_eq_true_iff.mpr ⟨rfl,decide_eq_true copiedDigests_nodup⟩)
  · exact .cons ⟨_,rfl⟩ (.cons ⟨_,rfl⟩ (.cons ⟨_,rfl⟩ (.cons ⟨_,rfl⟩ .nil)))

def copiedRun (counters : ResourceCounters) : NoInterventionRun sealingPlatform where
  root := copiedRoot
  scheduleRef := sampleRef "schedule" '1'
  prefixIndexRef := sampleRef "resampling_prefix_receipt" '2'
  master := List.replicate 32 7
  ledger := copiedLedger
  ledger_sealed := copiedSealing_sealed
  schedule := copiedSchedule
  schedule_loaded := rfl
  entry := copiedEntry
  entry_scheduled := List.mem_singleton_self _
  assignment := copiedAssignment
  assignment_sealed := List.mem_singleton_self _
  assignment_task := rfl
  allocation := copiedAllocation
  allocation_sealed := List.mem_singleton_self _
  allocation_task := rfl
  taskReceipts := [copiedReceipt counters]
  receipt := copiedReceipt counters
  receipt_indexed := List.mem_singleton_self _
  receipt_task := rfl
  receipt_untriggered := rfl
  view := copiedView
  view_loaded := rfl
  decode := copiedDecoders
  packetFiles := fun _ => some []
  packetIndexRef := packetRef "packet_index_sealed"
  records := copiedRecords
  records_loaded := copiedRecords_loaded
  records_sealed := ⟨rfl,rfl⟩
  slots := copiedSlots
  identities := copiedIdentities
  identities_prepared := copiedIdentities_prepared
  parent := sampleEnvelope
  parents := sampleParents
  block := copiedSealedBlock
  block_sealed := copiedSeal_sealed

theorem free_prefix_published : (copiedRun .zero).block.publish.validate sealingPlatform = .ok () ∧
    validateTaskChain (copiedRun .zero).block.publish copiedEntry (copiedReceipt .zero) copiedAssignment
      copiedAllocation = .ok () :=
  (copiedRun .zero).published_iff.mpr rfl

theorem costly_prefix_refused : (copiedRun ⟨7,1,0,250⟩).receipt.counters = ⟨7,1,0,250⟩ ∧
    validateTaskChain (copiedRun ⟨7,1,0,250⟩).block.publish copiedEntry (copiedReceipt ⟨7,1,0,250⟩) copiedAssignment
      copiedAllocation ≠ .ok () := by
  refine ⟨rfl,fun haccepted => ?_⟩
  have hcounters : (⟨7,1,0,250⟩ : ResourceCounters) = .zero :=
    (copiedRun ⟨7,1,0,250⟩).chain_accepts_iff.mp haccepted
  exact absurd hcounters (by decide)

end Sample

end PneumaLab.ResamplingNull
