import PneumaLab.ResamplingNull.Assignment.SealedTasks

namespace PneumaLab.ResamplingNull

section Tasks

variable {platform : Platform} {inputs : AssignmentInputs} {viewSha256 : String} {keys : AssignmentKeys}
  {keyed : Keyed} {views : List AssignmentPrefixTaskView} {strata : StrataState}

theorem sealTasks_eq_ok {rows : List (TaskSchedule × AssignmentPrefixTaskView)} {seen : List String}
    {tasks : List SealedTask} :
    sealTasks platform inputs viewSha256 keys keyed views strata seen rows = .ok tasks ↔
      List.Forall₂ (fun row task =>
        sealTask platform inputs viewSha256 keys keyed views strata row.1 row.2 = .ok task) rows tasks ∧
      (∀ task ∈ tasks, ∀ capability ∈ task.capabilities, capability ∉ seen) ∧
      tasks.Pairwise fun left right => ∀ capability ∈ right.capabilities, capability ∉ left.capabilities := by
  induction rows generalizing seen tasks with
  | nil =>
    constructor
    · intro h
      cases h
      exact ⟨.nil,fun _ h => absurd h List.not_mem_nil,.nil⟩
    · rintro ⟨h,_⟩
      cases h
      rfl
  | cons pair rows ih =>
    obtain ⟨row,view⟩ := pair
    simp only [sealTasks,bind_eq_ok,demand_eq_ok,List.all_eq_true,decide_eq_true_eq]
    constructor
    · rintro ⟨task,htask,_,hfresh,rest,hrest,hreturn⟩
      cases hreturn
      obtain ⟨hrows,hseen,hpairwise⟩ := ih.mp hrest
      refine ⟨.cons htask hrows,List.forall_mem_cons.mpr ⟨hfresh,?_⟩,.cons ?_ hpairwise⟩
      · intro other hother capability hcapability hmem
        exact hseen other hother capability hcapability (List.mem_append_left _ hmem)
      · intro other hother capability hcapability hmem
        exact hseen other hother capability hcapability (List.mem_append_right _ hmem)
    · rintro ⟨hrows,hseen,hpairwise⟩
      cases hrows with
      | cons htask hrows =>
        obtain ⟨hfresh,hseen⟩ := List.forall_mem_cons.mp hseen
        cases hpairwise with
        | cons hhead hpairwise =>
          refine ⟨_,htask,(),hfresh,_,ih.mpr ⟨hrows,?_,hpairwise⟩,rfl⟩
          intro other hother capability hcapability hmem
          rcases List.mem_append.mp hmem with hold | hnew
          · exact hseen other hother capability hcapability hold
          · exact hhead other hother capability hcapability hnew

def graphRow (row : TaskSchedule) (task : SealedTask) : GraphRow :=
  (row,task.assignment,task.allocation,task.donorReceipt)

theorem zip_ledger (rows : List TaskSchedule) (tasks : List SealedTask) :
    rows.zip ((tasks.map SealedTask.assignment).zip ((tasks.map SealedTask.allocation).zip
      (tasks.map SealedTask.donorReceipt))) = List.zipWith graphRow rows tasks := by
  induction rows generalizing tasks with
  | nil => rfl
  | cons row rows ih =>
    cases tasks with
    | nil => rfl
    | cons task tasks =>
      rw [List.map_cons,List.map_cons,List.map_cons,List.zip_cons_cons,List.zip_cons_cons,List.zip_cons_cons,
        List.zipWith_cons_cons,ih]
      rfl

theorem flatMap_capabilities {rows : List TaskSchedule} {tasks : List SealedTask}
    (hlength : rows.length = tasks.length) :
    (List.zipWith graphRow rows tasks).flatMap GraphRow.capabilities = tasks.flatMap SealedTask.capabilities := by
  induction rows generalizing tasks with
  | nil =>
    obtain rfl := List.length_eq_zero_iff.mp hlength.symm
    rfl
  | cons row rows ih =>
    cases tasks with
    | nil => exact absurd hlength (by simp)
    | cons task tasks =>
      rw [List.zipWith_cons_cons,List.flatMap_cons,List.flatMap_cons,ih (Nat.succ_injective hlength)]
      rfl

theorem allocated_of_seal {row : TaskSchedule} {view : AssignmentPrefixTaskView} {task : SealedTask}
    (h : sealTask platform inputs viewSha256 keys keyed views strata row view = .ok task) :
    Allocated inputs.manifestRef.sha256 inputs.scheduleRef.sha256 inputs.prefixIndexRef.sha256 row
      (strata.donors.lookup view.taskId) task.assignment task.allocation := by
  simp only [sealTask,bind_eq_ok,demand_eq_ok] at h
  obtain ⟨_,_,⟨assignment,allocation⟩,hallocate,hrest⟩ := h
  have hallocated := allocated_of_ok hallocate
  cases hdonor : strata.donors.lookup view.taskId with
  | none =>
    rw [hdonor] at hrest hallocated
    cases hrest
    exact hallocated
  | some donor =>
    rw [hdonor] at hrest hallocated
    simp only [bind_eq_ok] at hrest
    obtain ⟨_,_,_,_,_,_,_,_,_,_,hreturn⟩ := hrest
    cases hreturn
    exact hallocated

theorem receipt_id {row : TaskSchedule} {view : AssignmentPrefixTaskView} {task : SealedTask}
    (h : sealTask platform inputs viewSha256 keys keyed views strata row view = .ok task) :
    task.donorReceipt.taskId = view.taskId := by
  simp only [sealTask,bind_eq_ok,demand_eq_ok] at h
  obtain ⟨_,_,_,_,hrest⟩ := h
  cases hdonor : strata.donors.lookup view.taskId with
  | none =>
    rw [hdonor] at hrest
    cases hrest
    rfl
  | some donor =>
    rw [hdonor] at hrest
    simp only [bind_eq_ok] at hrest
    obtain ⟨_,_,_,_,_,_,_,_,_,_,hreturn⟩ := hrest
    cases hreturn
    rfl

theorem receipt_of_untriggered {row : TaskSchedule} {view : AssignmentPrefixTaskView} {task : SealedTask}
    (h : sealTask platform inputs viewSha256 keys keyed views strata row view = .ok task)
    (hdonor : strata.donors.lookup view.taskId = none) :
    task.donorReceipt = .noTrigger ⟨view.taskId,.noInterventionOpportunity,viewSha256⟩ := by
  simp only [sealTask,bind_eq_ok,demand_eq_ok,hdonor] at h
  obtain ⟨_,_,_,_,hreturn⟩ := h
  cases hreturn
  rfl

theorem receipt_of_triggered {row : TaskSchedule} {view donor : AssignmentPrefixTaskView} {task : SealedTask}
    {key : List String} {ref : ArtifactRef} {tasks : List AssignmentPrefixTaskView}
    (h : sealTask platform inputs viewSha256 keys keyed views strata row view = .ok task)
    (hdonor : strata.donors.lookup view.taskId = some donor)
    (hkey : (stratumByTask keyed).lookup view.taskId = some key)
    (htasks : (((stratumByTask keyed).filter fun other => other.2 = key).mapM fun other =>
      viewById views other.1) = .ok tasks)
    (href : strata.proofByTask.lookup view.taskId = some ref) :
    ∃ candidates chosen, candidateReceipts platform view tasks keys.donor = .ok candidates ∧
      candidates.find? (fun candidate => candidate.donorTaskId = donor.taskId) = some chosen ∧
        task.donorReceipt = .matched (matchedReceipt view donor key viewSha256 candidates chosen ref) := by
  simp only [sealTask,bind_eq_ok,demand_eq_ok,hdonor,hkey,href,required_eq_ok,Option.some.injEq,
    exists_eq_left'] at h
  obtain ⟨_,_,_,_,others,hothers,candidates,hcandidates,chosen,hchosen,hreturn⟩ := h
  obtain rfl := Except.ok.inj (htasks.symm.trans hothers)
  cases hreturn
  exact ⟨candidates,chosen,hcandidates,hchosen,rfl⟩

end Tasks

section Candidates

variable {platform : Platform} {donorKey : Digest} {focal : AssignmentPrefixTaskView}
  {tasks : List AssignmentPrefixTaskView} {candidates : List DonorCandidateReceipt}

def eligible (focal : AssignmentPrefixTaskView) (tasks : List AssignmentPrefixTaskView) :
    List AssignmentPrefixTaskView :=
  tasks.filter fun donor => decide (donor.taskId ≠ focal.taskId) && decide (donor.lineage ≠ focal.lineage)

structure CandidateOf (focal donor : AssignmentPrefixTaskView) (candidate : DonorCandidateReceipt) : Prop where
  id : candidate.donorTaskId = donor.taskId
  lineage : candidate.donorLineage = donor.lineage
  cost : candidate.primaryCost = primaryCost focal donor
  fallback : candidate.fallbackCode = none
  tie : isSha256 candidate.tieHmacSha256 = true

theorem candidates_of_ok (h : candidateReceipts platform focal tasks donorKey = .ok candidates) :
    ∃ rows, candidates.Perm rows ∧ List.Forall₂ (CandidateOf focal) (eligible focal tasks) rows := by
  simp only [candidateReceipts,bind_eq_ok,demand_eq_ok] at h
  obtain ⟨rows,hrows,_,_,hreturn⟩ := h
  cases hreturn
  refine ⟨rows.map Prod.snd,(List.perm_insertionSort _ _).map Prod.snd,?_⟩
  rw [List.forall₂_map_right_iff]
  refine (mapM_eq_ok.mp hrows).imp fun donor row hrow => ?_
  simp only [tieRow,bind_eq_ok] at hrow
  obtain ⟨_,_,hpair⟩ := hrow
  cases hpair
  exact ⟨rfl,rfl,rfl,rfl,Digest.isSha256_hex _⟩

theorem candidate_ids (h : candidateReceipts platform focal tasks donorKey = .ok candidates) :
    (candidates.map DonorCandidateReceipt.donorTaskId).Perm
      ((eligible focal tasks).map AssignmentPrefixTaskView.taskId) := by
  obtain ⟨rows,hperm,hrows⟩ := candidates_of_ok h
  refine (hperm.map DonorCandidateReceipt.donorTaskId).trans (List.Perm.of_eq ?_)
  generalize eligible focal tasks = donors at hrows
  clear hperm
  induction hrows with
  | nil => rfl
  | cons hrow _ ih => rw [List.map_cons,List.map_cons,ih,hrow.id]

theorem candidate_mem (h : candidateReceipts platform focal tasks donorKey = .ok candidates)
    {candidate : DonorCandidateReceipt} (hmem : candidate ∈ candidates) :
    ∃ donor ∈ eligible focal tasks, CandidateOf focal donor candidate := by
  obtain ⟨rows,hperm,hrows⟩ := candidates_of_ok h
  exact exists_right_of_forall₂ hrows.flip (hperm.mem_iff.mp hmem)

theorem eligible_ids {lineages : List (String × String)} {focalIds : List String}
    (hlineage : ∀ task ∈ tasks, lineageAt lineages task.taskId = task.lineage)
    (hfocal : lineageAt lineages focal.taskId = focal.lineage)
    (hperm : focalIds.Perm (tasks.map AssignmentPrefixTaskView.taskId)) :
    ((eligible focal tasks).map AssignmentPrefixTaskView.taskId).Perm
      (eligibleDonors lineages focalIds focal.taskId) := by
  have hfilter : (eligible focal tasks).map AssignmentPrefixTaskView.taskId =
      eligibleDonors lineages (tasks.map AssignmentPrefixTaskView.taskId) focal.taskId := by
    rw [eligibleDonors,List.filter_map,eligible]
    congr 1
    apply List.filter_congr
    intro task htask
    simp only [Function.comp_apply,hlineage task htask,hfocal]
  rw [hfilter]
  exact (hperm.filter _).symm

theorem chosen_reverse (hids : (candidates.map DonorCandidateReceipt.donorTaskId).Nodup) {donorId : String}
    {chosen : DonorCandidateReceipt}
    (hchosen : candidates.find? (fun candidate => candidate.donorTaskId = donorId) = some chosen) :
    candidates.reverse.find? (fun candidate => candidate.donorTaskId = donorId) = some chosen := by
  have hid : chosen.donorTaskId = donorId := by simpa using List.find?_some hchosen
  have hmem : chosen ∈ candidates := List.mem_of_find?_eq_some hchosen
  cases hfind : candidates.reverse.find? fun candidate => candidate.donorTaskId = donorId with
  | none =>
    have hmiss := List.find?_eq_none.mp hfind chosen (List.mem_reverse.mpr hmem)
    exact absurd (decide_eq_true hid) hmiss
  | some other =>
    have hother : other.donorTaskId = donorId := by simpa using List.find?_some hfind
    have hotherMem : other ∈ candidates := List.mem_reverse.mp (List.mem_of_find?_eq_some hfind)
    rw [List.inj_on_of_nodup_map hids hotherMem hmem (hother.trans hid.symm)]

theorem candidates_accepted {lineages : List (String × String)} {proved : ProvedDonor}
    {receipt : MatchedDonorReceipt} {chosen : DonorCandidateReceipt}
    (h : candidateReceipts platform focal tasks donorKey = .ok candidates)
    (hchosen : candidates.find? (fun candidate => candidate.donorTaskId = proved.donor) = some chosen)
    (hids : (tasks.map AssignmentPrefixTaskView.taskId).Nodup)
    (hlineage : ∀ task ∈ tasks, lineageAt lineages task.taskId = task.lineage)
    (hfocal : lineageAt lineages focal.taskId = focal.lineage)
    (hperm : proved.focalIds.Perm (tasks.map AssignmentPrefixTaskView.taskId))
    (hreceipt : receipt.candidates = candidates) (hcost : receipt.chosenPrimaryCost = chosen.primaryCost) :
    CandidatesAccepted lineages focal.taskId proved receipt := by
  have hdonors := (candidate_ids h).trans (eligible_ids hlineage hfocal hperm)
  have hnodup : (candidates.map DonorCandidateReceipt.donorTaskId).Nodup :=
    hdonors.nodup_iff.mpr ((hperm.nodup_iff.mpr hids).filter _)
  constructor
  · intro candidate hmem
    rw [hreceipt] at hmem
    obtain ⟨donor,hdonor,hof⟩ := candidate_mem h hmem
    have hin : candidate.donorTaskId ∈ eligibleDonors lineages proved.focalIds focal.taskId :=
      hdonors.mem_iff.mp (List.mem_map_of_mem hmem)
    have hline : candidate.donorLineage = lineageAt lineages candidate.donorTaskId := by
      rw [hof.lineage,hof.id,hlineage donor (List.mem_of_mem_filter hdonor)]
    simp [acceptsCandidate,hin,hline,hof.fallback,hof.tie,hof.cost,primaryCost]
  · rw [hreceipt,← hdonors.length_eq,List.length_map]
  · intro x
    rw [hreceipt]
    exact hdonors.mem_iff
  · rw [hreceipt,chosen_reverse hnodup hchosen,hcost]
    rfl

end Candidates

namespace Prepared

variable {platform : Platform} {inputs : AssignmentInputs} {views : List AssignmentPrefixTaskView}
  {keyed : Keyed} {programSha256 viewSha256 : String} {donorKey : Digest}

theorem lookup_lineage (h : Prepared inputs views keyed) {view : AssignmentPrefixTaskView} (hview : view ∈ views) :
    (lineagesOf inputs.schedule).lookup view.taskId = some view.lineage := by
  obtain ⟨row,hrow,htask⟩ := exists_right_of_forall₂ h.tasks.flip hview
  have hkeys : ((lineagesOf inputs.schedule).map Prod.fst).Nodup := by
    rw [lineagesOf,List.map_map]
    exact inputs.schedule.distinct
  rw [AssignmentPrefixTaskView.taskId,AssignmentPrefixTaskView.lineage,htask]
  exact lookup_of_mem hkeys (List.mem_map_of_mem (f := fun row : TaskSchedule =>
    (row.task.taskId,row.task.lineage)) hrow)

theorem stratum_mem (h : Prepared inputs views keyed) {key : List String} {task : AssignmentPrefixTaskView}
    (htask : task ∈ stratumTasks keyed key) : task ∈ views := (h.mem_keyed (mem_stratumTasks.mp htask)).1

theorem trigger_of_view (h : Prepared inputs views keyed) {view : AssignmentPrefixTaskView} (hview : view ∈ views) :
    (inputs.taskReceipts.find? fun receipt => receipt.taskId = view.taskId).map PrefixReceipt.triggerReason =
      some view.triggerReason := by
  obtain ⟨receipt,hreceipt,hid,htrigger⟩ := exists_right_of_forall₂ h.triggers.flip hview
  have hkeys : (inputs.taskReceipts.map PrefixReceipt.taskId).Nodup := by
    rw [h.order]
    exact inputs.schedule.distinct
  rw [← hid,find_of_nodup hkeys hreceipt,Option.map_some,htrigger]

theorem triggered_iff (h : Prepared inputs views keyed) (x : String) :
    x ∈ triggeredIds inputs.schedule inputs.taskReceipts ↔
      ∃ view ∈ views, view.taskId = x ∧ view.triggerReason ≠ .noInterventionOpportunity := by
  rw [triggeredIds,List.mem_filter,← h.ids,List.mem_map]
  constructor
  · rintro ⟨⟨view,hview,rfl⟩,htrigger⟩
    rw [h.trigger_of_view hview] at htrigger
    exact ⟨view,hview,rfl,by simpa using htrigger⟩
  · rintro ⟨view,hview,rfl,htrigger⟩
    refine ⟨⟨view,hview,rfl⟩,?_⟩
    rw [h.trigger_of_view hview]
    simpa using htrigger

def verifiedPart (lineages : List (String × String)) (viewSha256 programSha256 : String)
    (fields : List (String × Json)) : VerifiedPart :=
  match verifyProof lineages viewSha256 programSha256 fields with
  | .ok part => part
  | .error _ => (⟨[],[],[],[],0,[]⟩,[])

structure PartOf (inputs : AssignmentInputs) (keyed : Keyed) (viewSha256 programSha256 : String)
    (fields : List (String × Json)) (selected : List (String × AssignmentPrefixTaskView)) (key : List String)
    (part : VerifiedPart) (canonical : List AssignmentPrefixTaskView) (cycle : List CycleRow) (count : ℕ) :
    Prop where
  solved : Solved (stratumTasks keyed key) key viewSha256 programSha256 fields selected canonical cycle count
  verified : verifyProof (lineagesOf inputs.schedule) viewSha256 programSha256 fields = .ok part
  stratumKey : part.1.stratumKey = key
  focalIds : part.1.focalIds = Solved.ids canonical
  rows : part.2 = Solved.mapping canonical cycle count

theorem part_of_key (h : Prepared inputs views keyed) {key : List String}
    (hsolves : StratumSolves platform programSha256 viewSha256 donorKey keyed key) :
    ∃ canonical cycle count, PartOf inputs keyed viewSha256 programSha256
      (solution platform programSha256 viewSha256 donorKey keyed key).1
      (solution platform programSha256 viewSha256 donorKey keyed key).2 key
      (verifiedPart (lineagesOf inputs.schedule) viewSha256 programSha256
        (solution platform programSha256 viewSha256 donorKey keyed key).1) canonical cycle count := by
  obtain ⟨canonical,cycle,count,hsolved⟩ := solved_of_solves hsolves
  obtain ⟨trials,hverified⟩ := hsolved.verified (h.stratum_nodup key)
    (fun task htask => h.lookup_lineage (h.stratum_mem htask))
  have hpart : verifiedPart (lineagesOf inputs.schedule) viewSha256 programSha256
      (solution platform programSha256 viewSha256 donorKey keyed key).1 =
        (Solved.grammar canonical cycle count trials key,Solved.mapping canonical cycle count) := by
    rw [verifiedPart,hverified]
  refine ⟨canonical,cycle,count,hsolved,?_,?_,?_,?_⟩
  · rw [hpart]
    exact hverified
  · rw [hpart]
    rfl
  · rw [hpart]
    rfl
  · rw [hpart]

def stratumRows (platform : Platform) (inputs : AssignmentInputs) (programSha256 viewSha256 : String)
    (donorKey : Digest) (keyed : Keyed) (key : List String) : List ProvedDonor :=
  provedRows (stratumRef platform programSha256 viewSha256 donorKey keyed key,
      (solution platform programSha256 viewSha256 donorKey keyed key).1)
    (verifiedPart (lineagesOf inputs.schedule) viewSha256 programSha256
      (solution platform programSha256 viewSha256 donorKey keyed key).1)

def provedAll (platform : Platform) (inputs : AssignmentInputs) (programSha256 viewSha256 : String)
    (donorKey : Digest) (keyed : Keyed) : List ProvedDonor :=
  (sortedStrata keyed).flatMap (stratumRows platform inputs programSha256 viewSha256 donorKey keyed)

theorem stratumRows_eq {key : List String} {canonical : List AssignmentPrefixTaskView} {cycle : List CycleRow}
    {count : ℕ} (hpart : PartOf inputs keyed viewSha256 programSha256
      (solution platform programSha256 viewSha256 donorKey keyed key).1
      (solution platform programSha256 viewSha256 donorKey keyed key).2 key
      (verifiedPart (lineagesOf inputs.schedule) viewSha256 programSha256
        (solution platform programSha256 viewSha256 donorKey keyed key).1) canonical cycle count) :
    stratumRows platform inputs programSha256 viewSha256 donorKey keyed key =
      canonical.map fun task => ⟨task.taskId,cyclicDonor (cycle.map CycleRow.taskId) (1 + count) task.taskId,
        stratumRef platform programSha256 viewSha256 donorKey keyed key,key,Solved.ids canonical⟩ := by
  rw [stratumRows,provedRows,hpart.rows,hpart.stratumKey,hpart.focalIds,Solved.mapping,Solved.ids,List.map_map,
    List.map_map]
  rfl

theorem stratumRows_focals (h : Prepared inputs views keyed) {key : List String}
    (hsolves : StratumSolves platform programSha256 viewSha256 donorKey keyed key) :
    ((stratumRows platform inputs programSha256 viewSha256 donorKey keyed key).map ProvedDonor.focal).Nodup ∧
      ∀ x, x ∈ (stratumRows platform inputs programSha256 viewSha256 donorKey keyed key).map ProvedDonor.focal ↔
        ∃ task ∈ stratumTasks keyed key, task.taskId = x := by
  obtain ⟨canonical,cycle,count,hpart⟩ := h.part_of_key hsolves
  rw [stratumRows_eq hpart,List.map_map]
  refine ⟨hpart.solved.ids_nodup (h.stratum_nodup key),fun x => ?_⟩
  simp only [List.mem_map,Function.comp_apply,h.canonical_mem hpart.solved]

theorem provedAll_nodup (h : Prepared inputs views keyed)
    (hsolves : ∀ key ∈ sortedStrata keyed, StratumSolves platform programSha256 viewSha256 donorKey keyed key) :
    ((provedAll platform inputs programSha256 viewSha256 donorKey keyed).map ProvedDonor.focal).Nodup := by
  rw [provedAll,List.map_flatMap,List.nodup_flatMap]
  refine ⟨fun key hkey => (h.stratumRows_focals (hsolves key hkey)).1,?_⟩
  refine (sortedStrata_nodup keyed).pairwise_of_forall_ne ?_
  intro left hleft right hright hne x hx hy
  obtain ⟨task,htask,rfl⟩ := ((h.stratumRows_focals (hsolves left hleft)).2 x).mp hx
  obtain ⟨other,hother,hid⟩ := ((h.stratumRows_focals (hsolves right hright)).2 _).mp hy
  exact hne (h.key_of_task (mem_stratumTasks.mp htask) hother hid).symm

theorem provedAll_cover (h : Prepared inputs views keyed)
    (hsolves : ∀ key ∈ sortedStrata keyed, StratumSolves platform programSha256 viewSha256 donorKey keyed key)
    (x : String) : x ∈ (provedAll platform inputs programSha256 viewSha256 donorKey keyed).map ProvedDonor.focal ↔
      x ∈ triggeredIds inputs.schedule inputs.taskReceipts := by
  rw [h.triggered_iff,provedAll,List.map_flatMap,List.mem_flatMap]
  constructor
  · rintro ⟨key,hkey,hx⟩
    obtain ⟨task,htask,rfl⟩ := ((h.stratumRows_focals (hsolves key hkey)).2 x).mp hx
    obtain ⟨hview,htriggered⟩ := h.mem_keyed (mem_stratumTasks.mp htask)
    exact ⟨task,hview,rfl,htriggered⟩
  · rintro ⟨view,hview,rfl,htriggered⟩
    obtain ⟨key,hrow⟩ := h.keyed_of_triggered hview htriggered
    have hkey := mem_sortedStrata.mpr ⟨view,hrow⟩
    exact ⟨key,hkey,((h.stratumRows_focals (hsolves key hkey)).2 _).mpr
      ⟨view,mem_stratumTasks.mpr hrow,rfl⟩⟩

theorem stratumRef_injective {files : Files} {left right : List String}
    (hleft : StratumSolves platform programSha256 viewSha256 donorKey keyed left)
    (hright : StratumSolves platform programSha256 viewSha256 donorKey keyed right)
    (hleftFile : StratumInstalled platform programSha256 viewSha256 donorKey keyed files left)
    (hrightFile : StratumInstalled platform programSha256 viewSha256 donorKey keyed files right)
    (href : stratumRef platform programSha256 viewSha256 donorKey keyed left =
      stratumRef platform programSha256 viewSha256 donorKey keyed right) : left = right := by
  obtain ⟨_,_,_,hleftSolved⟩ := solved_of_solves hleft
  obtain ⟨_,_,_,hrightSolved⟩ := solved_of_solves hright
  rw [StratumInstalled,href,hrightFile] at hleftFile
  have hobjects := canonicalJsonBytes_injective hrightSolved.proof_exact hleftSolved.proof_exact
    (Option.some.inj hleftFile)
  have hkeys := hleftSolved.proof_key
  rw [← Json.obj.inj hobjects,hrightSolved.proof_key] at hkeys
  exact (List.map_injective_iff.mpr (fun _ _ he => Json.str.inj he) (Json.arr.inj hkeys)).symm

theorem allocation_accepted (h : Prepared inputs views keyed) {strata : StrataState} {keys : AssignmentKeys}
    {row : TaskSchedule} {view : AssignmentPrefixTaskView} {task : SealedTask} (hview : view ∈ views)
    (hrow : view.task = row.task)
    (hseal : sealTask platform inputs viewSha256 keys keyed views strata row view = .ok task)
    (tasks : List SealedTask) :
    AllocationAccepted (lineagesOf inputs.schedule) (ledgerPayload inputs viewSha256 strata tasks) row
      task.assignment task.allocation := by
  have hallocated := allocated_of_seal hseal
  refine ⟨hallocated.slots,?_,hallocated.scheduleSha,hallocated.prefixSha,hallocated.arms,
    hallocated.capabilityIds,hallocated.capabilityText⟩
  rw [hallocated.lineage,← hrow]
  exact h.lookup_lineage hview

theorem donor_accepted (h : Prepared inputs views keyed) {files : Files} {keys : AssignmentKeys}
    (hsolves : ∀ key ∈ sortedStrata keyed,
      StratumSolves platform inputs.matchingProgramRef.sha256 viewSha256 keys.donor keyed key)
    (hinstalled : ∀ key ∈ sortedStrata keyed,
      StratumInstalled platform inputs.matchingProgramRef.sha256 viewSha256 keys.donor keyed files key)
    {row : TaskSchedule} {view : AssignmentPrefixTaskView} {task : SealedTask} (hview : view ∈ views)
    (hrow : view.task = row.task)
    (hseal : sealTask platform inputs viewSha256 keys keyed views (sealedState platform
      inputs.matchingProgramRef.sha256 viewSha256 keys.donor keyed (sortedStrata keyed)) row view = .ok task)
    (tasks : List SealedTask) :
    DonorAccepted (lineagesOf inputs.schedule)
      (ledgerPayload inputs viewSha256 (sealedState platform inputs.matchingProgramRef.sha256 viewSha256
        keys.donor keyed (sortedStrata keyed)) tasks)
      (provedAll platform inputs inputs.matchingProgramRef.sha256 viewSha256 keys.donor keyed) row
      task.assignment task.donorReceipt := by
  have hallocated := allocated_of_seal hseal
  have hid : view.taskId = row.task.taskId := congrArg TaskSpec.taskId hrow
  have hlineageAt : ∀ other ∈ views, lineageAt (lineagesOf inputs.schedule) other.taskId = other.lineage :=
    fun other hother => lineageAt_of_lookup (h.lookup_lineage hother)
  by_cases htrigger : view.triggerReason = .noInterventionOpportunity
  · have hnone := h.donor_of_untriggered hsolves hview htrigger
    rw [hnone] at hallocated
    rw [receipt_of_untriggered hseal hnone]
    refine ⟨?_,by rw [hid]; rfl,hallocated.kind,hallocated.donorId,hallocated.donorLineage⟩
    rw [List.find?_eq_none]
    intro proved hproved hfocal
    have hmem : row.task.taskId ∈ (provedAll platform inputs inputs.matchingProgramRef.sha256 viewSha256
        keys.donor keyed).map ProvedDonor.focal :=
      List.mem_map.mpr ⟨proved,hproved,of_decide_eq_true hfocal⟩
    obtain ⟨other,hother,he,htriggered⟩ := (h.triggered_iff _).mp ((h.provedAll_cover hsolves _).mp hmem)
    exact htriggered (h.view_unique hother hview (he.trans hid.symm) ▸ htrigger)
  · obtain ⟨key,hkeyed⟩ := h.keyed_of_triggered hview htrigger
    have hkey : key ∈ sortedStrata keyed := mem_sortedStrata.mpr ⟨view,hkeyed⟩
    obtain ⟨canonical,cycle,count,hpart⟩ := h.part_of_key (hsolves key hkey)
    obtain ⟨donor,hdonor,hlookup,hdonorId⟩ := h.donor_of_solved hsolves hkeyed hpart.solved
    have hdonorMem := h.stratum_mem hdonor
    rw [hlookup] at hallocated
    obtain ⟨candidates,chosen,hcandidates,hchosen,hreceipt⟩ := receipt_of_triggered hseal hlookup
      (h.lookup_key hkeyed) (h.sealed_candidates key) (h.ref_of_keyed hkeyed)
    let proved : ProvedDonor := ⟨view.taskId,donor.taskId,
      stratumRef platform inputs.matchingProgramRef.sha256 viewSha256 keys.donor keyed key,key,
      Solved.ids canonical⟩
    have hproved : proved ∈ provedAll platform inputs inputs.matchingProgramRef.sha256 viewSha256 keys.donor
        keyed := by
      refine List.mem_flatMap.mpr ⟨key,hkey,?_⟩
      rw [stratumRows_eq hpart]
      refine List.mem_map.mpr ⟨view,(h.canonical_mem hpart.solved).mpr (mem_stratumTasks.mpr hkeyed),?_⟩
      rw [← hdonorId]
    have hfind : (provedAll platform inputs inputs.matchingProgramRef.sha256 viewSha256 keys.donor keyed).find?
        (fun other => other.focal = row.task.taskId) = some proved := by
      rw [← hid]
      exact find_of_nodup (h.provedAll_nodup hsolves) hproved
    have hother : ∃ other, (provedAll platform inputs inputs.matchingProgramRef.sha256 viewSha256 keys.donor
        keyed).find? (fun other => other.ref = proved.ref) = some other ∧ other.stratumKey = key := by
      cases hsome : (provedAll platform inputs inputs.matchingProgramRef.sha256 viewSha256 keys.donor
          keyed).find? fun other => other.ref = proved.ref with
      | none => exact absurd (decide_eq_true rfl) (List.find?_eq_none.mp hsome proved hproved)
      | some other =>
        refine ⟨other,rfl,?_⟩
        have href : other.ref = proved.ref := by simpa using List.find?_some hsome
        obtain ⟨key',hkey',hmem⟩ := List.mem_flatMap.mp (List.mem_of_find?_eq_some hsome)
        obtain ⟨_,_,_,hpart'⟩ := h.part_of_key (hsolves key' hkey')
        rw [stratumRows_eq hpart'] at hmem
        obtain ⟨_,_,rfl⟩ := List.mem_map.mp hmem
        exact stratumRef_injective (hsolves key' hkey') (hsolves key hkey) (hinstalled key' hkey')
          (hinstalled key hkey) href
    obtain ⟨other,hotherFind,hotherKey⟩ := hother
    have hcandidatesAccepted : CandidatesAccepted (lineagesOf inputs.schedule) view.taskId proved
        (matchedReceipt view donor key viewSha256 candidates chosen proved.ref) := by
      refine candidates_accepted hcandidates hchosen (h.stratum_nodup key)
        (fun task htask => hlineageAt task (h.stratum_mem htask)) (hlineageAt view hview) ?_ rfl rfl
      have hperm := hpart.solved.canonical_perm
      rw [h.stratum_triggered] at hperm
      exact hperm.map AssignmentPrefixTaskView.taskId
    rw [hreceipt]
    refine ⟨proved,other,hfind,hotherFind,rfl,?_,(hlineageAt donor hdonorMem).symm,
      rfl,rfl,rfl,hotherKey.symm,hallocated.kind,hallocated.donorId,?_,rfl,hid ▸ hcandidatesAccepted⟩
    · rw [← hid]
      exact (hlineageAt view hview).symm
    · rw [hallocated.donorLineage,Option.map_some,hlineageAt donor hdonorMem]

end Prepared

end PneumaLab.ResamplingNull
