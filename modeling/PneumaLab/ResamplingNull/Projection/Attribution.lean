import PneumaLab.ResamplingNull.Projection.Ancestry
import PneumaLab.ResamplingNull.Projection.Sealability

namespace PneumaLab.ResamplingNull

def DonorMatchReceipt.kind : DonorMatchReceipt → DonorMatchKind
  | .matched _ => .matched
  | .noTrigger _ => .notApplicableNoTrigger

def DonorMatchReceipt.viewSha256 : DonorMatchReceipt → String
  | .matched receipt => receipt.assignmentPrefixViewSha256
  | .noTrigger receipt => receipt.assignmentPrefixViewSha256

def DonorMatchReceipt.matched? : DonorMatchReceipt → Option MatchedDonorReceipt
  | .matched receipt => some receipt
  | .noTrigger _ => none

def MatchedDonorReceipt.validate (receipt : MatchedDonorReceipt) (row : TaskAssignment) (mode : AssignmentMode) :
    Py Unit := do
  demand (receipt.taskId = row.taskId) (refused "matched donor receipt task_id differs from assignment")
  demand (receipt.taskLineage = row.taskLineage) (refused "matched donor receipt task_lineage differs from assignment")
  demand (some receipt.donorTaskId = row.donorTaskId)
    (refused "matched donor receipt donor_task_id differs from assignment")
  demand (some receipt.donorLineage = row.donorLineage)
    (refused "matched donor receipt donor_lineage differs from assignment")
  demand (receipt.assignmentMode = mode) (refused "matched donor receipt assignment mode differs from ledger")
  demand (decide (receipt.candidates.map DonorCandidateReceipt.donorTaskId).Nodup)
    (refused "payload.donor_match_receipts.candidates must have unique donor_task_id values")
  let chosen := receipt.candidates.filter fun candidate => decide (candidate.donorTaskId = receipt.donorTaskId) &&
    decide (candidate.donorLineage = receipt.donorLineage) &&
    decide (candidate.primaryCost = receipt.chosenPrimaryCost)
  demand (chosen.length = 1) (refused "matched donor and chosen cost must identify one candidate")

namespace LedgerPayload

def validateRow (ledger : LedgerPayload) (row : TaskAssignment) : Py Unit := do
  demand (row.donorMatchKind ≠ .matched || some row.taskId ≠ row.donorTaskId)
    (refused "assignment task_id and donor_task_id must differ")
  demand (row.donorMatchKind ≠ .matched || some row.taskLineage ≠ row.donorLineage)
    (refused "assignment task and donor lineages must differ")
  demand (decide (row.slotArms.map Prod.fst).Nodup) (refused "assignment slot_arms must have unique slot IDs")
  demand (decide ((row.slotArms.map Prod.snd).Perm [.NONE,.REAL,.RESAMPLE,.SHAM]))
    (refused "assignment slot_arms must contain every arm exactly once")
  let allocation ← required (.keyError row.taskId)
    (ledger.allocationReceipts.find? fun allocation => allocation.taskId = row.taskId)
  demand (allocation.slotIdsByOrdinal = row.slotArms.map Prod.fst)
    (refused "allocation slot_ids_by_ordinal must equal assignment slot order")
  demand (allocation.slotCapabilities.map Prod.fst = allocation.slotIdsByOrdinal)
    (refused "allocation slot capabilities must follow slot_ids_by_ordinal")
  let receipt ← required (.keyError row.taskId)
    (ledger.donorMatchReceipts.find? fun receipt => receipt.taskId = row.taskId)
  demand (receipt.kind = row.donorMatchKind) (refused "task assignment and donor receipt matching kinds differ")
  demand (receipt.viewSha256 = ledger.assignmentPrefixViewSha256)
    (refused "donor receipt assignment prefix view digest differs from ledger")
  present receipt.matched? fun matched => matched.validate row ledger.assignmentMode

def validate (ledger : LedgerPayload) : Py Unit := do
  demand (decide (ledger.assignments.map TaskAssignment.taskId).Nodup)
    (refused "payload.assignments must have unique task_id values")
  demand (decide (ledger.allocationReceipts.map AllocationReceipt.taskId).Nodup)
    (refused "payload.allocation_receipts must have unique task_id values")
  demand (decide (ledger.donorMatchReceipts.map DonorMatchReceipt.taskId).Nodup)
    (refused "payload.donor_match_receipts must have unique task_id values")
  demand (ledger.assignments.map TaskAssignment.taskId = ledger.allocationReceipts.map AllocationReceipt.taskId &&
      ledger.allocationReceipts.map AllocationReceipt.taskId = ledger.donorMatchReceipts.map DonorMatchReceipt.taskId)
    (refused "assignment, allocation, and donor receipt task order must match")
  ledger.assignments.forM ledger.validateRow
  let matched := ledger.donorMatchReceipts.filterMap DonorMatchReceipt.matched?
  demand (!matched.isEmpty || ledger.matchingProofRefs.isEmpty)
    (refused "matching_proof_refs must be empty when every donor receipt is N/A")
  demand (matched.isEmpty ||
      decide (ledger.matchingProofRefs.length = (matched.map MatchedDonorReceipt.stratumKey).dedup.length))
    (refused "matching_proof_refs must contain exactly one ref per triggered matching stratum")
  matched.forM fun receipt => demand (decide (receipt.matchingProofRef ∈ ledger.matchingProofRefs))
    (refused "matched donor receipt points outside matching_proof_refs")

end LedgerPayload

structure ClearSlot extends BlindedSlot where
  arm : Arm
  deriving DecidableEq

structure ClearRow where
  taskId : String
  benchmark : String
  stratum : String
  lineage : String
  sensitivityGroups : List GroupLabel
  prefixSuccess : ℕ
  triggered : Bool
  slots : List ClearSlot
  pipelineValid : Bool
  validityCodes : List String
  deriving DecidableEq

-- Later rows and later pairs overwrite earlier ones, as in a dict.
def armsByTask (ledger : LedgerPayload) (taskId : String) : Option (List (String × Arm)) :=
  (ledger.assignments.reverse.find? fun row => row.taskId = taskId).map TaskAssignment.slotArms

def clearSlot (slotArms : List (String × Arm)) (slot : BlindedSlot) : Py ClearSlot := do
  return ⟨slot,← required (.keyError slot.slotId) (slotArms.reverse.lookup slot.slotId)⟩

def clearRow (ledger : LedgerPayload) (row : ProjectionRow) : Py ClearRow := do
  let slotArms ← required (refused "ledger does not cover blinded projection") (armsByTask ledger row.taskId)
  let slots ← row.slots.mapM (clearSlot slotArms)
  return {
    taskId := row.taskId
    benchmark := row.benchmark
    stratum := row.stratum
    lineage := row.lineage
    sensitivityGroups := row.sensitivityGroups
    prefixSuccess := row.prefixSuccess
    triggered := row.triggered
    slots := slots
    pipelineValid := row.pipelineValid
    validityCodes := row.validityCodes }

def clearRows (ledger : LedgerPayload) (projection : BlindedProjection) : Py (List ClearRow) :=
  projection.rows.mapM (clearRow ledger)

section Joins

theorem mem_zip_tail {α β γ : Type} {xs : List α} {ys : List β} {zs : List γ} {x : α} {y : β} {z : γ}
    (h : ((x,y),z) ∈ (xs.zip ys).zip zs) : (y,z) ∈ ys.zip zs := by
  induction xs generalizing ys zs with
  | nil => cases h
  | cons first xs ih =>
    cases ys with
    | nil => cases h
    | cons second ys =>
      cases zs with
      | nil => cases h
      | cons third zs =>
        rcases List.mem_cons.mp h with heq | h
        · cases heq
          exact List.mem_cons_self
        · exact List.mem_cons_of_mem _ (ih h)

theorem zip_of_maps {α β : Type} {pairs : List (α × β)} {xs : List α} {ys : List β} (hfst : pairs.map Prod.fst = xs)
    (hsnd : pairs.map Prod.snd = ys) : pairs = xs.zip ys := by
  rw [← hfst,← hsnd,List.zip_map']
  exact (List.map_id pairs).symm

theorem mem_blindedSlots {slotIds : List String} {outcomes : List OutcomeRow} {slot : BlindedSlot}
    (h : slot ∈ blindedSlots slotIds (outcomes.map stripped)) :
    ∃ outcome, (slot.slotId,outcome) ∈ slotIds.zip outcomes ∧ slot.outcome = stripped outcome := by
  obtain ⟨⟨⟨label,slotId⟩,copied⟩,hmem,rfl⟩ := List.mem_map.mp h
  have hpair := mem_zip_tail hmem
  rw [List.zip_map_right] at hpair
  obtain ⟨⟨_,outcome⟩,hjoined,heq⟩ := List.mem_map.mp hpair
  cases heq
  exact ⟨outcome,hjoined,rfl⟩

theorem blindedSlots_ids {slotIds : List String} {outcomes : List StrippedOutcome} (hslots : slotIds.length = 4)
    (houtcomes : outcomes.length = 4) : (blindedSlots slotIds outcomes).map BlindedSlot.slotId = slotIds ∧
      (blindedSlots slotIds outcomes).map BlindedSlot.outcome = outcomes := by
  match slotIds,outcomes,hslots,houtcomes with
  | [_,_,_,_],[_,_,_,_],_,_ => exact ⟨rfl,rfl⟩

end Joins

section Clear

variable {ledger : LedgerPayload} {row : ProjectionRow} {clear : ClearRow}

theorem clearRow_eq_ok (h : clearRow ledger row = .ok clear) : clear.taskId = row.taskId ∧
    ∃ assignment ∈ ledger.assignments, assignment.taskId = row.taskId ∧
      List.Forall₂ (fun slot shown => shown.toBlindedSlot = slot ∧ (slot.slotId,shown.arm) ∈ assignment.slotArms)
        row.slots clear.slots := by
  simp only [clearRow,bind_eq_ok,required_eq_ok,armsByTask,Option.map_eq_some_iff,mapM_eq_ok] at h
  obtain ⟨slotArms,⟨assignment,hfind,rfl⟩,slots,hslots,hreturn⟩ := h
  cases hreturn
  obtain ⟨hmem,htask⟩ := key_of_find hfind
  refine ⟨rfl,assignment,List.mem_reverse.mp hmem,htask,hslots.imp ?_⟩
  intro slot shown hshown
  simp only [clearSlot,bind_eq_ok,required_eq_ok] at hshown
  obtain ⟨arm,harm,hreturn⟩ := hshown
  cases hreturn
  exact ⟨rfl,List.mem_reverse.mp (mem_of_lookup harm)⟩

theorem arms_of_validate (h : ledger.validate = .ok ()) {assignment : TaskAssignment}
    (hmem : assignment ∈ ledger.assignments) : (assignment.slotArms.map Prod.fst).Nodup ∧
      (assignment.slotArms.map Prod.snd).Perm [.NONE,.REAL,.RESAMPLE,.SHAM] := by
  simp only [LedgerPayload.validate,bind_eq_ok,forM_eq_ok] at h
  obtain ⟨_,_,_,_,_,_,_,_,_,hrows,_⟩ := h
  have hrow := hrows assignment hmem
  simp only [LedgerPayload.validateRow,bind_eq_ok,demand_eq_ok,decide_eq_true_eq] at hrow
  obtain ⟨_,_,_,_,_,hslots,_,harms,_⟩ := hrow
  exact ⟨hslots,harms⟩

theorem unique_rows (h : ledger.validate = .ok ()) : (ledger.assignments.map TaskAssignment.taskId).Nodup ∧
    (ledger.allocationReceipts.map AllocationReceipt.taskId).Nodup := by
  simp only [LedgerPayload.validate,bind_eq_ok,demand_eq_ok,decide_eq_true_eq] at h
  obtain ⟨_,hassignments,_,hallocations,_⟩ := h
  exact ⟨hassignments,hallocations⟩

end Clear

def Attributed (graph : ScientificGraph) (ledger : LedgerPayload) (clear : ClearRow) : Prop :=
  ∃ block assignment allocation,
    graph.blocks.filter (fun block => block.payload.taskId = clear.taskId) = [block] ∧
    ledger.assignments.filter (fun row => row.taskId = clear.taskId) = [assignment] ∧
    ledger.allocationReceipts.filter (fun receipt => receipt.taskId = clear.taskId) = [allocation] ∧
    clear.slots.map (fun slot => slot.outcome) = block.payload.slotOutcomes.map stripped ∧
    ∀ arm, ∃ slot capability outcome,
      clear.slots.filter (fun slot => slot.arm = arm) = [slot] ∧
      assignment.slotArms.filter (fun pair => pair.2 = arm) = [(slot.slotId,arm)] ∧
      allocation.slotCapabilities.filter (fun pair => pair.1 = slot.slotId) = [(slot.slotId,capability)] ∧
      block.payload.slotOutcomes.filter (fun outcome => outcome.opaqueArmId = capability) = [outcome] ∧
      slot.outcome = stripped outcome

structure Chained (entry : TaskSchedule) (block : TaskBlockPayload) (assignment : TaskAssignment)
    (allocation : AllocationReceipt) : Prop where
  assigned : assignment.slotArms.map Prod.fst = entry.slotIds
  allocated : allocation.slotCapabilities.map Prod.fst = entry.slotIds
  capabilities : (allocation.slotCapabilities.map Prod.snd).Nodup
  outcomes : block.slotOutcomes.map OutcomeRow.opaqueArmId = allocation.slotCapabilities.map Prod.snd

namespace Chained

variable {entry : TaskSchedule} {block : TaskBlockPayload} {assignment : TaskAssignment} {allocation : AllocationReceipt}

theorem capability_of_slot (h : Chained entry block assignment allocation) {slotId : String} {outcome : OutcomeRow}
    (hjoined : (slotId,outcome) ∈ entry.slotIds.zip block.slotOutcomes) :
    allocation.slotCapabilities.filter (fun pair => pair.1 = slotId) = [(slotId,outcome.opaqueArmId)] ∧
      block.slotOutcomes.filter (fun other => other.opaqueArmId = outcome.opaqueArmId) = [outcome] := by
  have hpairs := zip_of_maps h.allocated h.outcomes.symm
  have hmem : (slotId,outcome.opaqueArmId) ∈ allocation.slotCapabilities := by
    rw [hpairs,List.zip_map_right]
    exact List.mem_map_of_mem (f := Prod.map id OutcomeRow.opaqueArmId) hjoined
  have hslots : (allocation.slotCapabilities.map Prod.fst).Nodup := h.allocated.symm ▸ entry.distinct
  have hids : (block.slotOutcomes.map OutcomeRow.opaqueArmId).Nodup := h.outcomes.symm ▸ h.capabilities
  exact ⟨filter_key hslots hmem,filter_key hids (List.of_mem_zip hjoined).2⟩

theorem attributed (h : Chained entry block assignment allocation)
    (harms : (assignment.slotArms.map Prod.snd).Perm [.NONE,.REAL,.RESAMPLE,.SHAM]) {slots : List ClearSlot}
    (houtcomes : block.slotOutcomes.length = 4)
    (hslots : List.Forall₂ (fun slot shown => shown.toBlindedSlot = slot ∧ (slot.slotId,shown.arm) ∈ assignment.slotArms)
      (blindedSlots entry.slotIds (block.slotOutcomes.map stripped)) slots) :
    slots.map (fun slot => slot.outcome) = block.slotOutcomes.map stripped ∧
      ∀ arm, ∃ slot capability outcome, slots.filter (fun slot => slot.arm = arm) = [slot] ∧
        assignment.slotArms.filter (fun pair => pair.2 = arm) = [(slot.slotId,arm)] ∧
        allocation.slotCapabilities.filter (fun pair => pair.1 = slot.slotId) = [(slot.slotId,capability)] ∧
        block.slotOutcomes.filter (fun outcome => outcome.opaqueArmId = capability) = [outcome] ∧
        slot.outcome = stripped outcome := by
  have hstripped : (block.slotOutcomes.map stripped).length = 4 := by rw [List.length_map,houtcomes]
  obtain ⟨hids,hcopied⟩ := blindedSlots_ids entry.four hstripped
  have hshown : slots.map ClearSlot.toBlindedSlot = blindedSlots entry.slotIds (block.slotOutcomes.map stripped) := by
    have hsame : List.Forall₂ (fun slot shown => id slot = ClearSlot.toBlindedSlot shown)
        (blindedSlots entry.slotIds (block.slotOutcomes.map stripped)) slots := hslots.imp fun _ _ h => h.1.symm
    rw [← map_eq_of_forall₂ hsame,List.map_id]
  have hslotIds : (slots.map fun slot => slot.slotId) = entry.slotIds := by
    rw [← hids,← hshown,List.map_map]
    rfl
  have hunique : (assignment.slotArms.map Prod.snd).Nodup := harms.nodup_iff.mpr (by decide)
  have hassigned : ∀ slot ∈ slots, (slot.slotId,slot.arm) ∈ assignment.slotArms := by
    intro slot hslot
    obtain ⟨base,_,hbase,hmem⟩ := exists_right_of_forall₂ hslots.flip hslot
    rw [← hbase] at hmem
    exact hmem
  have hone : (slots.map ClearSlot.arm).Nodup := by
    refine List.Nodup.map_on ?_ (List.Nodup.of_map _ (hslotIds ▸ entry.distinct))
    intro slot hslot other hother hsame
    have hpair : (slot.slotId,slot.arm) = (other.slotId,other.arm) :=
      List.inj_on_of_nodup_map hunique (hassigned slot hslot) (hassigned other hother) hsame
    exact List.inj_on_of_nodup_map (hslotIds ▸ entry.distinct) hslot hother (congrArg Prod.fst hpair)
  refine ⟨?_,fun arm => ?_⟩
  · rw [← hcopied,← hshown,List.map_map]
    rfl
  · have hcovered : arm ∈ assignment.slotArms.map Prod.snd := harms.mem_iff.mpr (by cases arm <;> decide)
    obtain ⟨⟨slotId,_⟩,hpair,rfl⟩ := List.mem_map.mp hcovered
    have hslotId : slotId ∈ slots.map fun slot => slot.slotId := by
      rw [hslotIds,← h.assigned]
      exact List.mem_map_of_mem hpair
    obtain ⟨slot,hslot,rfl⟩ := List.mem_map.mp hslotId
    have harm : slot.arm = _ := congrArg Prod.snd (List.inj_on_of_nodup_map (h.assigned.symm ▸ entry.distinct)
      (hassigned slot hslot) hpair rfl)
    obtain ⟨outcome,hjoined,hstrip⟩ := mem_blindedSlots (hshown ▸ List.mem_map_of_mem hslot)
    obtain ⟨hcapability,houtcome⟩ := h.capability_of_slot hjoined
    refine ⟨slot,outcome.opaqueArmId,outcome,?_,filter_key hunique hpair,hcapability,houtcome,hstrip⟩
    rw [← harm]
    exact filter_key hone hslot

end Chained

section Accepted

variable {platform : Platform} {rewardText : ℚ → String} {graph : ScientificGraph} {parents : Parents}
  {schedule : Document FrozenSchedule} {ledger : Document LedgerPayload} {projection : Document BlindedProjection}

theorem parts_of_ancestry (h : validateScientificAncestry platform rewardText graph = .ok ())
    (hschedules : graph.schedules = [schedule]) (hassignments : graph.assignments = [ledger])
    (hprojections : graph.projections = [projection]) : ∃ parents,
      graph.prefixes = parents.prefixIndex.toList ∧ parents.schedule = some schedule ∧
      parents.assignment = some ledger ∧ requireParents graph parents = .ok () ∧
      Reconstructed platform rewardText graph.blocks schedule.payload projection.payload ∧
      requireProjectionRefs parents graph.blocks projection.payload = .ok () := by
  simp only [validateScientificAncestry,bind_eq_ok] at h
  obtain ⟨parents,hparents,_,hrequired,_,hreconstruct,_,hrefs,_⟩ := h
  obtain ⟨_,hschedule,hprefixes,hassignment,hprojection,_⟩ := ScientificGraph.parents_eq_ok.mp hparents
  have hschedule' := Option.toList_eq_singleton_iff.mp (hschedule.symm.trans hschedules)
  have hassignment' := Option.toList_eq_singleton_iff.mp (hassignment.symm.trans hassignments)
  have hprojection' := Option.toList_eq_singleton_iff.mp (hprojection.symm.trans hprojections)
  rw [hschedule',hprojection',present_some,present_some] at hreconstruct
  rw [hprojection',present_some] at hrefs
  exact ⟨parents,hprefixes,hschedule',hassignment',hrequired,requireReconstruction_eq_ok.mp hreconstruct,hrefs⟩

theorem blocks_unique {frozen : FrozenSchedule} {payload : BlindedProjection}
    (h : Reconstructed platform rewardText graph.blocks frozen payload)
    (hrefs : requireProjectionRefs parents graph.blocks payload = .ok ()) :
    (graph.blocks.map fun block => block.payload.taskId).Nodup := by
  simp only [requireProjectionRefs,bind_eq_ok,demand_eq_ok,Bool.and_eq_true,List.all_eq_true,decide_eq_true_eq] at hrefs
  obtain ⟨_,_,_,_,hcovered,_⟩ := hrefs
  have howned : ∀ block ∈ graph.blocks, taskById graph.blocks block.payload.taskId = some block := by
    intro block hblock
    obtain ⟨ref,href,hpath⟩ := List.mem_map.mp (hcovered block hblock)
    obtain ⟨taskId,_,named,hnamed,hnames⟩ := exists_right_of_forall₂ h.refs href
    obtain ⟨hmem,htask⟩ := mem_of_taskById hnamed
    have hsame : named = block := List.inj_on_of_nodup_map graph.paths_distinct hmem hblock
      ((names_iff.mp hnames).1.symm.trans hpath)
    subst hsame
    rw [htask,hnamed]
  refine List.Nodup.map_on ?_ (List.Nodup.of_map _ graph.paths_distinct)
  intro block hblock other hother hsame
  have hfound := howned block hblock
  rw [hsame,howned other hother] at hfound
  exact (Option.some.inj hfound).symm

theorem capabilities_of_assigned {frozen : FrozenSchedule} {allocations : List AllocationReceipt} {entry : TaskSchedule}
    (h : parents.requireAssignedTask frozen allocations entry = .ok ()) : ∃ allocation,
      allocations.find? (fun allocation => allocation.taskId = entry.task.taskId) = some allocation ∧
        (allocation.slotCapabilities.map Prod.snd).Nodup := by
  simp only [Parents.requireAssignedTask,bind_eq_ok,required_eq_ok] at h
  obtain ⟨row,_,_,_,receipt,_,_,_,hrest⟩ := h
  split at hrest
  · simp only [bind_eq_ok,required_eq_ok,demand_eq_ok,Bool.and_eq_true,decide_eq_true_eq] at hrest
    obtain ⟨_,_,_,_,allocation,hfind,_,hnodup⟩ := hrest
    exact ⟨allocation,hfind,hnodup⟩
  · simp only [bind_eq_ok,required_eq_ok,demand_eq_ok,Bool.and_eq_true,decide_eq_true_eq] at hrest
    obtain ⟨allocation,hfind,_,hnodup⟩ := hrest
    exact ⟨allocation,hfind,hnodup⟩

theorem chained_of_parents {index : Document PrefixIndex} (hrequired : requireParents graph parents = .ok ())
    (hschedule : parents.schedule = some schedule) (hindex : parents.prefixIndex = some index)
    (hassignment : parents.assignment = some ledger) {block : Document TaskBlockPayload} (hblock : block ∈ graph.blocks)
    {entry : TaskSchedule} (hentry : entry ∈ schedule.payload.tasks) (htask : block.payload.taskId = entry.task.taskId) :
    ∃ assignment ∈ ledger.payload.assignments, ∃ allocation ∈ ledger.payload.allocationReceipts,
      assignment.taskId = entry.task.taskId ∧ allocation.taskId = entry.task.taskId ∧
        Chained entry block.payload assignment allocation := by
  simp only [requireParents,bind_eq_ok] at hrequired
  obtain ⟨_,_,_,_,_,_,_,_,_,_,_,_,_,_,_,_,_,_,_,hcoverage,hchains⟩ := hrequired
  rw [Parents.requireCoverage,hschedule,hassignment] at hcoverage
  simp only [present_some,bind_eq_ok,forM_eq_ok] at hcoverage
  obtain ⟨_,_,_,_,hassigned⟩ := hcoverage
  have hentryAssigned := hassigned entry hentry
  rw [Parents.requireChains,hschedule,hindex,hassignment] at hchains
  simp only [present_some,forM_eq_ok] at hchains
  have hchain := hchains block hblock
  simp only [Parents.requireChain,bind_eq_ok,required_eq_ok] at hchain
  obtain ⟨other,hother,receipt,_,assignment,hrow,allocation,hallocation,hvalid⟩ := hchain
  obtain ⟨hotherMem,hotherTask⟩ := key_of_find hother
  have hsame : other = entry :=
    List.inj_on_of_nodup_map schedule.payload.distinct hotherMem hentry (hotherTask.trans htask)
  subst hsame
  obtain ⟨hrowMem,hrowTask⟩ := key_of_find hrow
  rw [Parents.rows,hassignment] at hrowMem
  obtain ⟨hallocationMem,hallocationTask⟩ := key_of_find hallocation
  simp only [validateTaskChain,bind_eq_ok,demand_eq_ok,Bool.and_eq_true,decide_eq_true_eq] at hvalid
  obtain ⟨_,_,_,_,_,_,_,_,_,_,_,_,_,_,_,⟨hslots,hcapabilities⟩,_,houtcomes,_⟩ := hvalid
  obtain ⟨owned,howned,hnodup⟩ := capabilities_of_assigned hentryAssigned
  rw [← htask,hallocation,Option.some.injEq] at howned
  refine ⟨assignment,hrowMem,allocation,hallocationMem,hrowTask.trans htask,hallocationTask.trans htask,
    hslots,hcapabilities,howned ▸ hnodup,houtcomes⟩

end Accepted

theorem outcomes_reach_their_arms (platform : Platform) (rewardText : ℚ → String) (graph : ScientificGraph)
    (schedule : Document FrozenSchedule) (index : Document PrefixIndex) (ledger : Document LedgerPayload)
    (projection : Document BlindedProjection) (hschedules : graph.schedules = [schedule])
    (hprefixes : graph.prefixes = [index]) (hassignments : graph.assignments = [ledger])
    (hprojections : graph.projections = [projection])
    (haccepted : validateScientificAncestry platform rewardText graph = .ok ())
    (hvalid : ledger.payload.validate = .ok ()) (clear : List ClearRow)
    (hclear : clearRows ledger.payload projection.payload = .ok clear) :
    clear.map ClearRow.taskId = schedule.payload.taskIds ∧ ∀ row ∈ clear, Attributed graph ledger.payload row := by
  obtain ⟨parents,hindexes,hschedule,hassignment,hrequired,hreconstructed,hrefs⟩ :=
    parts_of_ancestry haccepted hschedules hassignments hprojections
  have hindex := Option.toList_eq_singleton_iff.mp (hindexes.symm.trans hprefixes)
  have hkeys := blocks_unique hreconstructed hrefs
  obtain ⟨scheduled,hscheduled,hrows,hcandidate,_⟩ := hreconstructed.rows
  have hids : (scheduled.map fun pair => pair.1.task.taskId).Nodup :=
    scheduled_ids hscheduled ▸ schedule.payload.distinct
  obtain ⟨_,hfour⟩ := candidateFrom_rows hids hcandidate
  have hshown := mapM_eq_ok.mp hclear
  rw [hrows,List.forall₂_map_left_iff] at hshown
  constructor
  · have htasks : List.Forall₂ (fun pair row => pair.1.task.taskId = ClearRow.taskId row) scheduled clear :=
      hshown.imp fun pair row hrow => (clearRow_eq_ok hrow).1.symm
    rw [← map_eq_of_forall₂ htasks,scheduled_ids hscheduled]
  · intro row hrow
    obtain ⟨pair,hpair,hcleared⟩ := exists_right_of_forall₂ hshown.flip hrow
    obtain ⟨hentry,block,hblock,hpayload⟩ := scheduled_block hscheduled hpair
    obtain ⟨hblockMem,hblockTask⟩ := mem_of_taskById hblock
    obtain ⟨htask,cleared,hclearedMem,hclearedTask,hslots⟩ := clearRow_eq_ok hcleared
    obtain ⟨assignment,hassigned,allocation,hallocated,hassignedTask,hallocatedTask,hchained⟩ :=
      chained_of_parents hrequired hschedule hindex hassignment hblockMem hentry hblockTask
    have hunique := unique_rows hvalid
    have hsame : cleared = assignment :=
      List.inj_on_of_nodup_map hunique.1 hclearedMem hassigned (hclearedTask.trans hassignedTask.symm)
    subst hsame
    have hrowTask : row.taskId = pair.1.task.taskId := htask
    rw [← hpayload] at hchained
    obtain ⟨hcopied,harms⟩ := hchained.attributed (arms_of_validate hvalid hassigned).2 (hfour pair hpair).1 hslots
    refine ⟨block,cleared,allocation,?_,?_,?_,hpayload ▸ hcopied,fun arm => ?_⟩
    · rw [hrowTask,← hblockTask]
      exact filter_key hkeys hblockMem
    · rw [hrowTask,← hassignedTask]
      exact filter_key hunique.1 hassigned
    · rw [hrowTask,← hallocatedTask]
      exact filter_key hunique.2 hallocated
    · rw [← hpayload]
      exact harms arm

section Sample

def twinUnblindGraph : ScientificGraph :=
  twinGraph.withProjection (twinDocument "records/projection.json" (twinProjection false))

theorem twinUnblindGraph_accepted : validateScientificAncestry zeroPlatform twinReward twinUnblindGraph = .ok () := by
  have hsettled := (twinInputs false).sealed_of_ok (twin_sealed false)
  have hordered : InScheduleOrder (twinRefs false) twinGraph.blocks twinSchedule.payload :=
    .cons ⟨twinBlock false,List.mem_cons_self,rfl,rfl⟩
      (.cons ⟨twinBlock true,List.mem_cons_of_mem _ List.mem_cons_self,rfl,rfl⟩ .nil)
  have hparents : twinGraph.parents = .ok twinParents := rfl
  have hextended : twinUnblindGraph.parents =
      .ok { twinParents with projection := some (twinDocument "records/projection.json" (twinProjection false)) } := rfl
  obtain ⟨hrequired,hrosters⟩ := (ancestry_unprojected hparents rfl rfl rfl).mp (twinGraph_accepted twinReward)
  exact (ancestry_projected hextended rfl rfl rfl rfl).mpr ⟨hrequired,hrosters,
    ((twinInputs false).reconstructed_iff hsettled).mpr hordered,(twinInputs false).projection_refs hsettled rfl rfl⟩

def twinClearSlots : List ClearSlot :=
  ((blindedSlots ["s0","s1","s2","s3"] (List.replicate 4 (stripped (twinOutcome false "c0")))).zip
    [Arm.NONE,.RESAMPLE,.REAL,.SHAM]).map fun pair => ⟨pair.1,pair.2⟩

def twinClear (second : Bool) : ClearRow where
  taskId := twinId second
  benchmark := "swe"
  stratum := "s"
  lineage := "l"
  sensitivityGroups := sampleSpec.sensitivityGroups
  prefixSuccess := 1
  triggered := false
  slots := twinClearSlots
  pipelineValid := true
  validityCodes := []

theorem twin_outcomes_attributed : [twinClear false,twinClear true].map ClearRow.taskId = twinSchedule.payload.taskIds ∧
    Attributed twinUnblindGraph twinLedger.payload (twinClear false) ∧
      Attributed twinUnblindGraph twinLedger.payload (twinClear true) := by
  obtain ⟨hids,hrows⟩ := outcomes_reach_their_arms zeroPlatform twinReward twinUnblindGraph twinSchedule twinPrefix
    twinLedger _ rfl rfl rfl rfl twinUnblindGraph_accepted (by decide +kernel) [twinClear false,twinClear true] rfl
  exact ⟨hids,hrows _ List.mem_cons_self,hrows _ (List.mem_cons_of_mem _ List.mem_cons_self)⟩

end Sample

end PneumaLab.ResamplingNull
