import Mathlib.Data.List.Dedup
import PneumaLab.ResamplingNull.Assignment.SealedStrata

namespace PneumaLab.ResamplingNull

section Allocation

variable {platform : Platform}

theorem uniformLoop_lt {key messageFrame : Bytes} {upper fuel counter : ℕ} {draw : UniformDraw}
    (hupper : 0 < upper) (h : uniformLoop platform key messageFrame upper fuel counter = .ok draw) :
    draw.value < upper := by
  induction fuel generalizing counter with
  | zero => cases h
  | succ fuel ih =>
    simp only [uniformLoop,bind_eq_ok] at h
    obtain ⟨frame,_,hdraw⟩ := h
    split at hdraw
    · cases hdraw
      exact Nat.mod_lt _ hupper
    · exact ih hdraw

theorem uniformBelow_lt {key messageFrame : Bytes} {upper : ℕ} {draw : UniformDraw}
    (h : uniformBelow platform key messageFrame upper = .ok draw) : draw.value < upper := by
  simp only [uniformBelow,bind_eq_ok,demand_eq_ok,Bool.and_eq_true,decide_eq_true_eq] at h
  obtain ⟨_,⟨hpos,_⟩,_,_,hloop⟩ := h
  exact uniformLoop_lt hpos hloop

theorem reconstructArms_drawn : ∀ (index : Fin 12) (bit : Fin 2),
    reconstructArms ⟨"",[],index.val,0,bit.val,0,[]⟩ =
      .ok (armsOf (allocationTable.getD index.val []) (nullArms bit.val)) := by decide

theorem reconstructArms_eq {receipt : AllocationReceipt} {index bit : ℕ}
    (hindex : receipt.treatmentAllocationIndex = index) (hbit : receipt.noPacketOrientationBit = bit)
    (hindexLt : index < 12) (hbitLt : bit < 2) : reconstructArms receipt =
      .ok (armsOf (allocationTable.getD index []) (nullArms bit)) := by
  have hfields : reconstructArms receipt = reconstructArms
      ⟨"",[],receipt.treatmentAllocationIndex,0,receipt.noPacketOrientationBit,0,[]⟩ := rfl
  rw [hfields,hindex,hbit]
  exact reconstructArms_drawn ⟨index,hindexLt⟩ ⟨bit,hbitLt⟩

theorem arms_length : ∀ (index : Fin 12) (bit : Fin 2),
    (armsOf (allocationTable.getD index.val []) (nullArms bit.val)).length = 4 := by decide

theorem capabilities_of_ok {key : Digest} {studyId manifestSha256 scheduleSha256 prefixIndexSha256 taskId : String}
    {pairs : List (String × Arm)} {capabilities : List (String × String)}
    (h : (pairs.mapM fun (slotId,arm) => do
      return (slotId,← slotCapability platform key studyId manifestSha256 scheduleSha256 prefixIndexSha256 taskId
        slotId arm)) = .ok capabilities) :
    capabilities.map Prod.fst = pairs.map Prod.fst ∧
      ∀ capability ∈ capabilities, isSha256 capability.2 = true := by
  rw [mapM_eq_ok] at h
  induction h with
  | nil => exact ⟨rfl,fun _ h => absurd h List.not_mem_nil⟩
  | cons hrow _ ih =>
    simp only [slotCapability,bind_eq_ok] at hrow
    obtain ⟨_,⟨_,_,_,_,_,_,_,_,htext⟩,hpair⟩ := hrow
    cases htext
    cases hpair
    refine ⟨?_,List.forall_mem_cons.mpr ⟨Digest.isSha256_hex _,ih.2⟩⟩
    rw [List.map_cons,List.map_cons,ih.1]

structure Allocated (manifestSha256 scheduleSha256 prefixIndexSha256 : String) (row : TaskSchedule)
    (donor : Option AssignmentPrefixTaskView) (assignment : TaskAssignment) (allocation : AllocationReceipt) :
    Prop where
  assignedId : assignment.taskId = row.task.taskId
  lineage : assignment.taskLineage = row.task.lineage
  kind : assignment.donorMatchKind = if donor.isNone then .notApplicableNoTrigger else .matched
  donorId : assignment.donorTaskId = donor.map AssignmentPrefixTaskView.taskId
  donorLineage : assignment.donorLineage = donor.map AssignmentPrefixTaskView.lineage
  scheduleSha : assignment.scheduleSha256 = scheduleSha256
  prefixSha : assignment.prefixIndexSha256 = prefixIndexSha256
  allocatedId : allocation.taskId = row.task.taskId
  slots : allocation.slotIdsByOrdinal = row.slotIds
  arms : (reconstructArms allocation).map (row.slotIds.zip ·) = .ok assignment.slotArms
  capabilityIds : allocation.slotCapabilities.map Prod.fst = row.slotIds
  capabilityText : ∀ capability ∈ allocation.slotCapabilities, isSha256 capability.2 = true
  capabilityNodup : (allocation.slotCapabilities.map Prod.snd).Nodup

theorem allocated_of_ok {studyId manifestSha256 scheduleSha256 prefixIndexSha256 : String} {row : TaskSchedule}
    {donor : Option AssignmentPrefixTaskView} {keys : AssignmentKeys} {assignment : TaskAssignment}
    {allocation : AllocationReceipt}
    (h : allocateTask platform studyId manifestSha256 scheduleSha256 prefixIndexSha256 row donor keys =
      .ok (assignment,allocation)) :
    Allocated manifestSha256 scheduleSha256 prefixIndexSha256 row donor assignment allocation := by
  simp only [allocateTask,bind_eq_ok,demand_eq_ok,decide_eq_true_eq] at h
  obtain ⟨_,_,_,_,index,hindex,_,_,bit,hbit,capabilities,hcapabilities,_,_,_,_,_,hnodup,hreturn⟩ := h
  cases hreturn
  have hindexLt : index.value < 12 := uniformBelow_lt hindex
  have hbitLt : bit.value < 2 := uniformBelow_lt hbit
  have hlength : (armsOf (allocationTable.getD index.value []) (nullArms bit.value)).length = 4 :=
    arms_length ⟨index.value,hindexLt⟩ ⟨bit.value,hbitLt⟩
  obtain ⟨hfst,htext⟩ := capabilities_of_ok hcapabilities
  constructor
  all_goals try rfl
  · rw [reconstructArms_eq rfl rfl hindexLt hbitLt]
    rfl
  · rw [hfst,List.map_fst_zip (by rw [hlength,row.four])]
  · exact htext
  · exact hnodup

end Allocation

structure Prepared (inputs : AssignmentInputs) (views : List AssignmentPrefixTaskView) (keyed : Keyed) :
    Prop where
  order : inputs.taskReceipts.map PrefixReceipt.taskId = inputs.schedule.tasks.map fun row => row.task.taskId
  tasks : List.Forall₂ (fun (row : TaskSchedule) view => view.task = row.task) inputs.schedule.tasks views
  triggers : List.Forall₂ (fun (receipt : PrefixReceipt) (view : AssignmentPrefixTaskView) =>
    receipt.taskId = view.taskId ∧ receipt.triggerReason = view.triggerReason) inputs.taskReceipts views
  keyedViews : keyed.map Prod.fst = views.filter fun view => view.triggerReason ≠ .noInterventionOpportunity

theorem forall₂_zip_left {α β γ : Type} {R : α → β → γ → Prop} {xs : List α} {ys : List β} {zs : List γ}
    (hlength : xs.length = ys.length) (h : List.Forall₂ (fun p z => R p.1 p.2 z) (xs.zip ys) zs) :
    List.Forall₂ (fun x z => ∃ y, R x y z) xs zs ∧ List.Forall₂ (fun y z => ∃ x, R x y z) ys zs := by
  induction xs generalizing ys zs with
  | nil =>
    obtain rfl := List.length_eq_zero_iff.mp hlength.symm
    cases h
    exact ⟨.nil,.nil⟩
  | cons x xs ih =>
    cases ys with
    | nil => exact absurd hlength (by simp)
    | cons y ys =>
      rw [List.zip_cons_cons] at h
      cases h with
      | cons hhead htail =>
        obtain ⟨hleft,hright⟩ := ih (Nat.succ_injective hlength) htail
        exact ⟨.cons ⟨y,hhead⟩ hleft,.cons ⟨x,hhead⟩ hright⟩

theorem prepared_of_ok {inputs : AssignmentInputs} {views : List AssignmentPrefixTaskView} {keyed : Keyed}
    (hviews : prepareViews inputs = .ok views) (hkeyed : stratumKeyed inputs.stratumFields views = .ok keyed) :
    Prepared inputs views keyed := by
  simp only [prepareViews,bind_eq_ok,demand_eq_ok,decide_eq_true_eq] at hviews
  obtain ⟨_,horder,hrows⟩ := hviews
  have hlength : inputs.schedule.tasks.length = inputs.taskReceipts.length := by
    have h := congrArg List.length horder
    rw [List.length_map,List.length_map] at h
    exact h.symm
  have hread : List.Forall₂ (fun (p : TaskSchedule × PrefixReceipt) (view : AssignmentPrefixTaskView) =>
      view.task = p.1.task ∧ p.2.taskId = view.taskId ∧ p.2.triggerReason = view.triggerReason)
      (inputs.schedule.tasks.zip inputs.taskReceipts) views := by
    refine (mapM_eq_ok.mp hrows).imp ?_
    rintro ⟨row,receipt⟩ view hview
    simp only [prefixTaskView,bind_eq_ok,demand_eq_ok,Bool.and_eq_true,decide_eq_true_eq] at hview
    obtain ⟨_,⟨hid,_⟩,hreturn⟩ := hview
    cases hreturn
    exact ⟨rfl,hid,rfl⟩
  obtain ⟨htasks,htriggers⟩ := forall₂_zip_left (R := fun (row : TaskSchedule) (receipt : PrefixReceipt)
    (view : AssignmentPrefixTaskView) => view.task = row.task ∧ receipt.taskId = view.taskId ∧
      receipt.triggerReason = view.triggerReason) hlength hread
  refine ⟨horder,htasks.imp ?_,htriggers.imp ?_,?_⟩
  · rintro row view ⟨_,htask,_⟩
    exact htask
  · rintro receipt view ⟨_,_,htrigger⟩
    exact htrigger
  · rw [stratumKeyed,mapM_eq_ok] at hkeyed
    generalize views.filter (fun view => decide (view.triggerReason ≠ .noInterventionOpportunity)) = triggered
      at hkeyed
    induction hkeyed with
    | nil => rfl
    | cons hrow _ ih =>
      simp only [bind_eq_ok] at hrow
      obtain ⟨_,_,hpair⟩ := hrow
      cases hpair
      rw [List.map_cons,ih]

namespace Prepared

variable {inputs : AssignmentInputs} {views : List AssignmentPrefixTaskView} {keyed : Keyed}

theorem ids (h : Prepared inputs views keyed) : views.map AssignmentPrefixTaskView.taskId =
    inputs.schedule.tasks.map fun row => row.task.taskId := by
  have htasks := h.tasks
  generalize inputs.schedule.tasks = rows at htasks
  clear h
  induction htasks with
  | nil => rfl
  | cons hrow _ ih => rw [List.map_cons,List.map_cons,ih,AssignmentPrefixTaskView.taskId,hrow]

theorem ids_nodup (h : Prepared inputs views keyed) : (views.map AssignmentPrefixTaskView.taskId).Nodup := by
  rw [h.ids]
  exact inputs.schedule.distinct

theorem view_unique (h : Prepared inputs views keyed) {left right : AssignmentPrefixTaskView}
    (hleft : left ∈ views) (hright : right ∈ views) (hid : left.taskId = right.taskId) : left = right :=
  List.inj_on_of_nodup_map h.ids_nodup hleft hright hid

theorem mem_keyed (h : Prepared inputs views keyed) {row : AssignmentPrefixTaskView × List String}
    (hrow : row ∈ keyed) : row.1 ∈ views ∧ row.1.triggerReason ≠ .noInterventionOpportunity := by
  have hmem := List.mem_map_of_mem (f := Prod.fst) hrow
  rw [h.keyedViews,List.mem_filter,decide_eq_true_eq] at hmem
  exact hmem

theorem keyed_of_triggered (h : Prepared inputs views keyed) {view : AssignmentPrefixTaskView}
    (hview : view ∈ views) (htriggered : view.triggerReason ≠ .noInterventionOpportunity) :
    ∃ key, (view,key) ∈ keyed := by
  have hmem : view ∈ keyed.map Prod.fst := by
    rw [h.keyedViews,List.mem_filter,decide_eq_true_eq]
    exact ⟨hview,htriggered⟩
  obtain ⟨⟨_,key⟩,hrow,rfl⟩ := List.mem_map.mp hmem
  exact ⟨key,hrow⟩

theorem keyed_nodup (h : Prepared inputs views keyed) : (keyed.map fun row => row.1.taskId).Nodup := by
  have hsub := (List.filter_sublist (l := views) (p := fun view =>
    decide (view.triggerReason ≠ .noInterventionOpportunity))).map AssignmentPrefixTaskView.taskId
  have hnodup := h.ids_nodup.sublist hsub
  rw [← h.keyedViews,List.map_map] at hnodup
  exact hnodup

theorem key_unique (h : Prepared inputs views keyed) {left right : AssignmentPrefixTaskView × List String}
    (hleft : left ∈ keyed) (hright : right ∈ keyed) (hid : left.1.taskId = right.1.taskId) : left = right :=
  List.inj_on_of_nodup_map h.keyed_nodup hleft hright hid

theorem lookup_key (h : Prepared inputs views keyed) {view : AssignmentPrefixTaskView} {key : List String}
    (hrow : (view,key) ∈ keyed) : (stratumByTask keyed).lookup view.taskId = some key := by
  refine lookup_of_mem ?_ (List.mem_map_of_mem (f := fun row : AssignmentPrefixTaskView × List String =>
    (row.1.taskId,row.2)) hrow)
  rw [stratumByTask,List.map_map]
  exact h.keyed_nodup

theorem mem_stratumTasks {view : AssignmentPrefixTaskView} {key : List String} :
    view ∈ stratumTasks keyed key ↔ (view,key) ∈ keyed := by
  simp only [stratumTasks,List.mem_map,List.mem_filter,decide_eq_true_eq]
  constructor
  · rintro ⟨⟨_,_⟩,⟨hrow,rfl⟩,rfl⟩
    exact hrow
  · intro hrow
    exact ⟨(view,key),⟨hrow,rfl⟩,rfl⟩

theorem stratum_nodup (h : Prepared inputs views keyed) (key : List String) :
    ((stratumTasks keyed key).map AssignmentPrefixTaskView.taskId).Nodup := by
  rw [stratumTasks,List.map_map]
  exact h.keyed_nodup.sublist (List.filter_sublist.map _)

theorem stratum_triggered (h : Prepared inputs views keyed) (key : List String) :
    (stratumTasks keyed key).filter (fun task => task.triggerReason ≠ .noInterventionOpportunity) =
      stratumTasks keyed key := by
  rw [List.filter_eq_self]
  intro task htask
  exact decide_eq_true (h.mem_keyed (mem_stratumTasks.mp htask)).2

theorem viewById_eq (h : Prepared inputs views keyed) {view : AssignmentPrefixTaskView} (hview : view ∈ views) :
    viewById views view.taskId = .ok view := by
  rw [viewById,find_of_nodup h.ids_nodup hview]
  rfl

-- The two ways the source picks the tasks of one stratum.
theorem sealed_candidates (h : Prepared inputs views keyed) (key : List String) :
    (((stratumByTask keyed).filter fun other => other.2 = key).mapM fun other => viewById views other.1) =
      .ok (stratumTasks keyed key) := by
  rw [mapM_eq_ok,stratumByTask,List.filter_map,List.forall₂_map_left_iff,stratumTasks,
    List.forall₂_map_right_iff]
  refine List.forall₂_same.mpr fun row hrow => ?_
  exact h.viewById_eq (h.mem_keyed (List.mem_of_mem_filter hrow)).1

theorem rebuilt_candidates (h : Prepared inputs views keyed) (key : List String) :
    (views.filter fun other => (stratumByTask keyed).lookup other.taskId = some key) =
      stratumTasks keyed key := by
  have honly : ∀ view ∈ views, (stratumByTask keyed).lookup view.taskId = some key →
      view.triggerReason ≠ .noInterventionOpportunity := by
    intro view hview hlookup
    obtain ⟨row,hrow,hpair⟩ := List.mem_map.mp (mem_of_lookup hlookup)
    obtain ⟨hmem,htriggered⟩ := h.mem_keyed hrow
    rwa [← h.view_unique hmem hview (congrArg Prod.fst hpair)]
  have hsplit : (views.filter fun other => (stratumByTask keyed).lookup other.taskId = some key) =
      (views.filter fun view => view.triggerReason ≠ .noInterventionOpportunity).filter
        fun other => (stratumByTask keyed).lookup other.taskId = some key := by
    rw [List.filter_filter]
    apply List.filter_congr
    intro view hview
    by_cases hlookup : (stratumByTask keyed).lookup view.taskId = some key
    · simp [hlookup,honly view hview hlookup]
    · simp [hlookup]
  rw [hsplit,← h.keyedViews,List.filter_map,stratumTasks]
  congr 1
  apply List.filter_congr
  rintro ⟨view,other⟩ hrow
  simp only [Function.comp_apply,h.lookup_key hrow,Option.some.injEq]

theorem mem_sortedStrata {key : List String} : key ∈ sortedStrata keyed ↔ ∃ view, (view,key) ∈ keyed := by
  rw [sortedStrata,(List.perm_insertionSort _ _).mem_iff,List.mem_dedup,List.mem_map]
  constructor
  · rintro ⟨⟨view,_⟩,hrow,rfl⟩
    exact ⟨view,hrow⟩
  · rintro ⟨view,hrow⟩
    exact ⟨(view,key),hrow,rfl⟩

theorem sortedStrata_nodup (keyed : Keyed) : (sortedStrata keyed).Nodup := by
  rw [sortedStrata,(List.perm_insertionSort _ _).nodup_iff]
  exact List.nodup_dedup _

theorem key_of_task (h : Prepared inputs views keyed) {left right : AssignmentPrefixTaskView}
    {key other : List String} (hleft : (left,key) ∈ keyed) (hright : right ∈ stratumTasks keyed other)
    (hid : right.taskId = left.taskId) : other = key :=
  congrArg Prod.snd (h.key_unique (mem_stratumTasks.mp hright) hleft hid)

section Strata

variable {platform : Platform} {programSha256 viewSha256 : String} {donorKey : Digest}

theorem solved_of_solves {key : List String}
    (hsolves : StratumSolves platform programSha256 viewSha256 donorKey keyed key) :
    ∃ canonical cycle count, Solved (stratumTasks keyed key) key viewSha256 programSha256
      (solution platform programSha256 viewSha256 donorKey keyed key).1
      (solution platform programSha256 viewSha256 donorKey keyed key).2 canonical cycle count :=
  solved_of_solve hsolves

theorem selected_tasks {key : List String}
    (hsolves : StratumSolves platform programSha256 viewSha256 donorKey keyed key) {x : String}
    (hx : x ∈ (solution platform programSha256 viewSha256 donorKey keyed key).2.map Prod.fst) :
    ∃ task ∈ stratumTasks keyed key, task.taskId = x := by
  obtain ⟨canonical,_,_,hsolved⟩ := solved_of_solves hsolves
  obtain ⟨task,htask,rfl⟩ := List.mem_map.mp ((hsolved.selected_ids x).mp hx)
  exact ⟨task,(hsolved.mem_tasks htask).1,rfl⟩

theorem canonical_mem (h : Prepared inputs views keyed) {key : List String} {proof : List (String × Json)}
    {selected : List (String × AssignmentPrefixTaskView)} {canonical : List AssignmentPrefixTaskView}
    {cycle : List CycleRow} {count : ℕ}
    (hsolved : Solved (stratumTasks keyed key) key viewSha256 programSha256 proof selected canonical cycle count)
    {task : AssignmentPrefixTaskView} : task ∈ canonical ↔ task ∈ stratumTasks keyed key := by
  rw [hsolved.canonical_perm.mem_iff,h.stratum_triggered]

theorem lookup_flatMap {β : Type} {keys : List (List String)} {block : List String → List (String × β)}
    {key : List String} (hkey : key ∈ keys) {x : String}
    (honly : ∀ other ∈ keys, x ∈ (block other).map Prod.fst → other = key) :
    (keys.flatMap block).lookup x = (block key).lookup x := by
  induction keys with
  | nil => exact absurd hkey List.not_mem_nil
  | cons first keys ih =>
    obtain ⟨hfirst,hrest⟩ := List.forall_mem_cons.mp honly
    rw [List.flatMap_cons,List.lookup_append]
    cases hlookup : (block first).lookup x with
    | some value =>
      rw [← hfirst (List.mem_map_of_mem (f := Prod.fst) (mem_of_lookup hlookup)),hlookup]
      rfl
    | none =>
      rw [Option.none_or]
      by_cases hmem : key ∈ keys
      · exact ih hmem hrest
      · obtain rfl : key = first := (List.mem_cons.mp hkey).resolve_right hmem
        rw [hlookup,List.lookup_eq_none_iff]
        rintro ⟨id,value⟩ hpair
        obtain ⟨other,hother,hblock⟩ := List.mem_flatMap.mp hpair
        by_contra he
        obtain rfl : x = id := by simpa using he
        exact hmem (hrest other hother (List.mem_map_of_mem (f := Prod.fst) hblock) ▸ hother)

theorem donor_of_solved (h : Prepared inputs views keyed)
    (hsolves : ∀ key ∈ sortedStrata keyed, StratumSolves platform programSha256 viewSha256 donorKey keyed key)
    {view : AssignmentPrefixTaskView} {key : List String} (hrow : (view,key) ∈ keyed)
    {canonical : List AssignmentPrefixTaskView} {cycle : List CycleRow} {count : ℕ}
    (hsolved : Solved (stratumTasks keyed key) key viewSha256 programSha256
      (solution platform programSha256 viewSha256 donorKey keyed key).1
      (solution platform programSha256 viewSha256 donorKey keyed key).2 canonical cycle count) :
    ∃ donor ∈ stratumTasks keyed key,
      (sealedState platform programSha256 viewSha256 donorKey keyed (sortedStrata keyed)).donors.lookup
        view.taskId = some donor ∧
      donor.taskId = cyclicDonor (cycle.map CycleRow.taskId) (1 + count) view.taskId := by
  obtain ⟨donor,hdonor,hlookup,hid⟩ := hsolved.donors view
    ((h.canonical_mem hsolved).mpr (mem_stratumTasks.mpr hrow))
  refine ⟨donor,(h.canonical_mem hsolved).mp hdonor,?_,hid⟩
  rw [sealedState,lookup_flatMap (mem_sortedStrata.mpr ⟨view,hrow⟩) ?_,hlookup]
  intro other hother hmem
  obtain ⟨task,htask,he⟩ := selected_tasks (hsolves other hother) hmem
  exact h.key_of_task hrow htask he

theorem donor_of_untriggered (h : Prepared inputs views keyed)
    (hsolves : ∀ key ∈ sortedStrata keyed, StratumSolves platform programSha256 viewSha256 donorKey keyed key)
    {view : AssignmentPrefixTaskView} (hview : view ∈ views)
    (huntriggered : view.triggerReason = .noInterventionOpportunity) :
    (sealedState platform programSha256 viewSha256 donorKey keyed (sortedStrata keyed)).donors.lookup
      view.taskId = none := by
  rw [sealedState,List.lookup_eq_none_iff]
  rintro ⟨id,donor⟩ hpair
  obtain ⟨key,hkey,hblock⟩ := List.mem_flatMap.mp hpair
  obtain ⟨task,htask,he⟩ := selected_tasks (hsolves key hkey) (List.mem_map_of_mem (f := Prod.fst) hblock)
  obtain ⟨hmem,htriggered⟩ := h.mem_keyed (mem_stratumTasks.mp htask)
  by_contra hid
  obtain rfl : view.taskId = id := by simpa using hid
  exact htriggered (h.view_unique hmem hview he ▸ huntriggered)

theorem ref_of_keyed (h : Prepared inputs views keyed) {view : AssignmentPrefixTaskView} {key : List String}
    (hrow : (view,key) ∈ keyed) :
    (sealedState platform programSha256 viewSha256 donorKey keyed (sortedStrata keyed)).proofByTask.lookup
      view.taskId = some (stratumRef platform programSha256 viewSha256 donorKey keyed key) := by
  rw [sealedState,lookup_flatMap (mem_sortedStrata.mpr ⟨view,hrow⟩) ?_]
  · refine lookup_of_mem ?_ (List.mem_map_of_mem (f := fun task : AssignmentPrefixTaskView =>
      (task.taskId,stratumRef platform programSha256 viewSha256 donorKey keyed key)) (mem_stratumTasks.mpr hrow))
    rw [List.map_map]
    exact h.stratum_nodup key
  · intro other _ hmem
    rw [List.map_map] at hmem
    obtain ⟨task,htask,he⟩ := List.mem_map.mp hmem
    exact h.key_of_task hrow htask he

theorem rebuildTask_eq (h : Prepared inputs views keyed)
    (hsolves : ∀ key ∈ sortedStrata keyed, StratumSolves platform programSha256 viewSha256 donorKey keyed key)
    (keys : AssignmentKeys) (row : TaskSchedule) {view : AssignmentPrefixTaskView} (hview : view ∈ views) :
    rebuildTask platform inputs viewSha256 keys keyed views
        (sealedState platform programSha256 viewSha256 donorKey keyed (sortedStrata keyed)) row view =
      sealTask platform inputs viewSha256 keys keyed views
        (sealedState platform programSha256 viewSha256 donorKey keyed (sortedStrata keyed)) row view := by
  by_cases htrigger : view.triggerReason = .noInterventionOpportunity
  · have hnone := h.donor_of_untriggered hsolves hview htrigger
    simp only [rebuildTask,sealTask,hnone,htrigger,decide_true,Option.isNone_none,demand,if_true,ok_bind]
  · obtain ⟨key,hrow⟩ := h.keyed_of_triggered hview htrigger
    obtain ⟨_,_,_,hsolved⟩ := solved_of_solves (hsolves key (mem_sortedStrata.mpr ⟨view,hrow⟩))
    obtain ⟨donor,hdonor,hlookup,_⟩ := h.donor_of_solved hsolves hrow hsolved
    have hmem := (h.mem_keyed (mem_stratumTasks.mp hdonor)).1
    have hkey := h.lookup_key hrow
    simp only [rebuildTask,sealTask,hlookup,decide_eq_false htrigger,Option.isNone_some,demand,decide_true,
      if_true,ok_bind,h.viewById_eq hmem,hkey,required,h.rebuilt_candidates,h.sealed_candidates]

end Strata

end Prepared

end PneumaLab.ResamplingNull
