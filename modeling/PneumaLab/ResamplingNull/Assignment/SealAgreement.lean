import PneumaLab.ResamplingNull.Assignment.FirstOffset
import PneumaLab.ResamplingNull.Assignment.SealedAcceptance

namespace PneumaLab.ResamplingNull

structure Sealed (platform : Platform) (inputs : AssignmentInputs) (views : List AssignmentPrefixTaskView)
    (viewSha256 : String) (keys : AssignmentKeys) (keyed : Keyed) (tasks : List SealedTask) (files : Files) :
    Prop where
  fields : (!inputs.stratumFields.isEmpty && inputs.stratumFields.all fun field => field ≠ "") = true
  views_eq : prepareViews inputs = .ok views
  view_eq : prefixViewSha256 platform inputs.studyId inputs.scheduleRef.sha256 views = .ok viewSha256
  keys_eq : readCommitted platform inputs = .ok keys
  keyed_eq : stratumKeyed inputs.stratumFields views = .ok keyed
  solves : ∀ key ∈ sortedStrata keyed,
    StratumSolves platform inputs.matchingProgramRef.sha256 viewSha256 keys.donor keyed key
  installed : ∀ key ∈ sortedStrata keyed,
    StratumInstalled platform inputs.matchingProgramRef.sha256 viewSha256 keys.donor keyed files key
  tasks_eq : sealTasks platform inputs viewSha256 keys keyed views (sealedState platform
    inputs.matchingProgramRef.sha256 viewSha256 keys.donor keyed (sortedStrata keyed)) []
      (inputs.schedule.tasks.zip views) = .ok tasks

def sealedPayload (platform : Platform) (inputs : AssignmentInputs) (viewSha256 : String)
    (keys : AssignmentKeys) (keyed : Keyed) (tasks : List SealedTask) : LedgerPayload :=
  ledgerPayload inputs viewSha256 (sealedState platform inputs.matchingProgramRef.sha256 viewSha256 keys.donor
    keyed (sortedStrata keyed)) tasks

section Runs

variable {platform : Platform} {inputs : AssignmentInputs} {files files' : Files} {payload : LedgerPayload}

theorem start_append (strata : StrataState) : StrataState.append ⟨[],[],[]⟩ strata = strata := rfl

theorem sealed_of_prepare (h : prepare platform inputs files = .ok (payload,files')) :
    ∃ views viewSha256 keys keyed tasks, Sealed platform inputs views viewSha256 keys keyed tasks files' ∧
      payload = sealedPayload platform inputs viewSha256 keys keyed tasks ∧
        ∀ path bytes, files path = some bytes → files' path = some bytes := by
  simp only [prepare,bind_eq_ok,demand_eq_ok] at h
  obtain ⟨_,hfields,views,hviews,viewSha256,hview,keys,hkeys,keyed,hkeyed,⟨written,strata⟩,hstrata,tasks,htasks,
    hreturn⟩ := h
  cases hreturn
  obtain ⟨hsolves,rfl,hinstalled,hgrown⟩ := sealStrata_sound hstrata
  exact ⟨views,viewSha256,keys,keyed,tasks,
    ⟨hfields,hviews,hview,hkeys,hkeyed,hsolves,hinstalled,htasks⟩,rfl,hgrown⟩

namespace Sealed

variable {views : List AssignmentPrefixTaskView} {viewSha256 : String} {keys : AssignmentKeys} {keyed : Keyed}
  {tasks : List SealedTask}

theorem prepared (h : Sealed platform inputs views viewSha256 keys keyed tasks files) :
    Prepared inputs views keyed := prepared_of_ok h.views_eq h.keyed_eq

theorem prepare_eq (h : Sealed platform inputs views viewSha256 keys keyed tasks files) :
    prepare platform inputs files = .ok (sealedPayload platform inputs viewSha256 keys keyed tasks,files) := by
  simp only [prepare,bind_eq_ok,demand_eq_ok]
  exact ⟨(),h.fields,_,h.views_eq,_,h.view_eq,_,h.keys_eq,_,h.keyed_eq,_,
    sealStrata_complete ⟨[],[],[]⟩ h.solves h.installed,_,h.tasks_eq,rfl⟩

theorem each (h : Sealed platform inputs views viewSha256 keys keyed tasks files) :
    List.Forall₂ (fun row task => sealTask platform inputs viewSha256 keys keyed views (sealedState platform
      inputs.matchingProgramRef.sha256 viewSha256 keys.donor keyed (sortedStrata keyed)) row.1 row.2 = .ok task)
      (inputs.schedule.tasks.zip views) tasks := (sealTasks_eq_ok.mp h.tasks_eq).1

theorem rebuilt (h : Sealed platform inputs views viewSha256 keys keyed tasks files) :
    ((inputs.schedule.tasks.zip views).mapM fun (row,view) =>
      rebuildTask platform inputs viewSha256 keys keyed views (sealedState platform
        inputs.matchingProgramRef.sha256 viewSha256 keys.donor keyed (sortedStrata keyed)) row view) =
      .ok tasks := by
  rw [mapM_eq_ok]
  have hrows : ∀ row ∈ inputs.schedule.tasks.zip views, row.2 ∈ views := fun _ hrow => (List.of_mem_zip hrow).2
  have heach := (List.forall₂_and_left (p := fun row => row.2 ∈ views) _ _).mpr ⟨hrows,h.each⟩
  refine heach.imp fun row task htask => ?_
  exact (h.prepared.rebuildTask_eq h.solves keys row.1 htask.1).trans htask.2

theorem compareKeyed_eq (h : Sealed platform inputs views viewSha256 keys keyed tasks files) :
    compareKeyed platform inputs files (sealedPayload platform inputs viewSha256 keys keyed tasks) = .ok () := by
  simp only [compareKeyed,bind_eq_ok,demand_eq_ok]
  refine ⟨(),h.fields,_,h.views_eq,_,h.view_eq,(),decide_eq_true rfl,_,h.keys_eq,_,h.keyed_eq,(),?_,_,
    rebuildStrata_complete ⟨[],[],[]⟩ h.solves h.installed,_,h.rebuilt,?_⟩
  · rw [decide_eq_true_eq,sealedPayload,ledgerPayload,sealedState,List.length_map]
  · simp [sealedPayload,ledgerPayload,start_append]

theorem row_of_task (h : Sealed platform inputs views viewSha256 keys keyed tasks files) :
    List.Forall₂ (fun (row : TaskSchedule) task => ∃ view ∈ views, view.task = row.task ∧
      sealTask platform inputs viewSha256 keys keyed views (sealedState platform
        inputs.matchingProgramRef.sha256 viewSha256 keys.donor keyed (sortedStrata keyed)) row view = .ok task)
      inputs.schedule.tasks tasks := by
  have hpairs : ∀ pair ∈ inputs.schedule.tasks.zip views, pair.2.task = pair.1.task :=
    fun _ hpair => List.forall₂_zip h.prepared.tasks hpair
  have hlength := h.prepared.tasks.length_eq
  have hzip : List.Forall₂ (fun (pair : TaskSchedule × AssignmentPrefixTaskView) task =>
      pair.2 ∈ views ∧ pair.2.task = pair.1.task ∧ sealTask platform inputs viewSha256 keys keyed views
        (sealedState platform inputs.matchingProgramRef.sha256 viewSha256 keys.donor keyed (sortedStrata keyed))
        pair.1 pair.2 = .ok task) (inputs.schedule.tasks.zip views) tasks :=
    (List.forall₂_and_left (p := fun pair => pair.2 ∈ views) _ _).mpr
      ⟨fun _ hpair => (List.of_mem_zip hpair).2,
        (List.forall₂_and_left (p := fun pair => pair.2.task = pair.1.task) _ _).mpr ⟨hpairs,h.each⟩⟩
  exact (forall₂_zip_left (R := fun row view task => view ∈ views ∧ view.task = row.task ∧
    sealTask platform inputs viewSha256 keys keyed views (sealedState platform
      inputs.matchingProgramRef.sha256 viewSha256 keys.donor keyed (sortedStrata keyed)) row view = .ok task)
    hlength hzip).1

theorem ids (h : Sealed platform inputs views viewSha256 keys keyed tasks files) :
    tasks.map (fun task => task.assignment.taskId) = inputs.schedule.tasks.map (fun row => row.task.taskId) ∧
      tasks.map (fun task => task.allocation.taskId) = inputs.schedule.tasks.map (fun row => row.task.taskId) ∧
        tasks.map (fun task => task.donorReceipt.taskId) =
          inputs.schedule.tasks.map (fun row => row.task.taskId) := by
  have hrows := h.row_of_task
  generalize inputs.schedule.tasks = rows at hrows
  clear h
  induction hrows with
  | nil => exact ⟨rfl,rfl,rfl⟩
  | cons hrow _ ih =>
    obtain ⟨view,_,hview,hseal⟩ := hrow
    have hallocated := allocated_of_seal hseal
    obtain ⟨hassigned,hallocation,hreceipt⟩ := ih
    simp only [List.map_cons,hassigned,hallocation,hreceipt,hallocated.assignedId,hallocated.allocatedId,
      receipt_id hseal,AssignmentPrefixTaskView.taskId,hview]
    exact ⟨trivial,trivial,trivial⟩

theorem refs_nodup (h : Sealed platform inputs views viewSha256 keys keyed tasks files) :
    (sealedPayload platform inputs viewSha256 keys keyed tasks).matchingProofRefs.Nodup := by
  refine List.Nodup.map_on ?_ (Prepared.sortedStrata_nodup keyed)
  intro left hleft right hright href
  exact Prepared.stratumRef_injective (h.solves left hleft) (h.solves right hright) (h.installed left hleft)
    (h.installed right hright) href

def proofs (platform : Platform) (inputs : AssignmentInputs) (viewSha256 : String) (keys : AssignmentKeys)
    (keyed : Keyed) : List LoadedProof :=
  (sortedStrata keyed).map fun key =>
    (stratumRef platform inputs.matchingProgramRef.sha256 viewSha256 keys.donor keyed key,
      (solution platform inputs.matchingProgramRef.sha256 viewSha256 keys.donor keyed key).1)

theorem proofs_loaded (h : Sealed platform inputs views viewSha256 keys keyed tasks files) :
    ((sealedPayload platform inputs viewSha256 keys keyed tasks).matchingProofRefs.mapM fun ref => do
      return (ref,← loadProof platform files ref)) = .ok (proofs platform inputs viewSha256 keys keyed) := by
  rw [mapM_eq_ok,sealedPayload,ledgerPayload,sealedState,proofs,List.forall₂_map_left_iff,
    List.forall₂_map_right_iff,List.forall₂_same]
  intro key hkey
  obtain ⟨_,_,_,hsolved⟩ := Prepared.solved_of_solves (h.solves key hkey)
  simp only [bind_eq_ok]
  exact ⟨_,loadProof_published platform hsolved.proof_exact hsolved.proof_closed (h.installed key hkey),rfl⟩

theorem merged (h : Sealed platform inputs views viewSha256 keys keyed tasks files) :
    (proofs platform inputs viewSha256 keys keyed).foldlM (mergeProof (lineagesOf inputs.schedule) viewSha256
      inputs.matchingProgramRef.sha256) [] = .ok (Prepared.provedAll platform inputs
        inputs.matchingProgramRef.sha256 viewSha256 keys.donor keyed) := by
  have hparts : List.Forall₂ (fun (proof : LoadedProof) part =>
      verifyProof (lineagesOf inputs.schedule) viewSha256 inputs.matchingProgramRef.sha256 proof.2 = .ok part)
      (proofs platform inputs viewSha256 keys keyed)
      ((proofs platform inputs viewSha256 keys keyed).map fun proof =>
        Prepared.verifiedPart (lineagesOf inputs.schedule) viewSha256 inputs.matchingProgramRef.sha256 proof.2) := by
    rw [List.forall₂_map_right_iff,List.forall₂_same]
    intro proof hproof
    obtain ⟨key,hkey,rfl⟩ := List.mem_map.mp hproof
    obtain ⟨_,_,_,hpart⟩ := h.prepared.part_of_key (h.solves key hkey)
    exact hpart.verified
  have hrows : (List.zipWith provedRows (proofs platform inputs viewSha256 keys keyed)
      ((proofs platform inputs viewSha256 keys keyed).map fun proof =>
        Prepared.verifiedPart (lineagesOf inputs.schedule) viewSha256 inputs.matchingProgramRef.sha256
          proof.2)).flatten = Prepared.provedAll platform inputs inputs.matchingProgramRef.sha256 viewSha256
            keys.donor keyed := by
    rw [List.zipWith_map_right,List.zipWith_self,proofs,List.map_map,Prepared.provedAll,List.flatMap_def]
    rfl
  have hmerge := @mergeProofs_ok _ _ _ _ _ [] hparts (by
    rw [hrows]
    exact h.prepared.provedAll_nodup h.solves)
  rwa [hrows] at hmerge

theorem graph_rows (h : Sealed platform inputs views viewSha256 keys keyed tasks files) :
    ∀ task ∈ List.zipWith graphRow inputs.schedule.tasks tasks, TaskAccepted (lineagesOf inputs.schedule)
      (sealedPayload platform inputs viewSha256 keys keyed tasks)
      (Prepared.provedAll platform inputs inputs.matchingProgramRef.sha256 viewSha256 keys.donor keyed) task := by
  have haccepted : List.Forall₂ (fun row task => TaskAccepted (lineagesOf inputs.schedule)
      (sealedPayload platform inputs viewSha256 keys keyed tasks)
      (Prepared.provedAll platform inputs inputs.matchingProgramRef.sha256 viewSha256 keys.donor keyed)
      (graphRow row task)) inputs.schedule.tasks tasks := by
    refine h.row_of_task.imp fun row task hrow => ?_
    obtain ⟨view,hview,htask,hseal⟩ := hrow
    exact ⟨h.prepared.allocation_accepted hview htask hseal tasks,
      h.prepared.donor_accepted h.solves h.installed hview htask hseal tasks⟩
  intro task htask
  rw [← List.map_uncurry_zip_eq_zipWith] at htask
  obtain ⟨⟨row,sealed⟩,hpair,rfl⟩ := List.mem_map.mp htask
  exact List.forall₂_zip haccepted hpair

theorem capabilities_nodup (h : Sealed platform inputs views viewSha256 keys keyed tasks files) :
    (tasks.flatMap SealedTask.capabilities).Nodup := by
  rw [List.nodup_flatMap]
  constructor
  · intro task htask
    obtain ⟨row,_,view,_,_,hseal⟩ := exists_right_of_forall₂ h.row_of_task.flip htask
    exact (allocated_of_seal hseal).capabilityNodup
  · refine (sealTasks_eq_ok.mp h.tasks_eq).2.2.imp ?_
    intro left right hdisjoint capability hleft hright
    exact hdisjoint capability hright hleft

theorem verifyGraph_eq (h : Sealed platform inputs views viewSha256 keys keyed tasks files) :
    verifyGraph platform files inputs.schedule inputs.taskReceipts
      (sealedPayload platform inputs viewSha256 keys keyed tasks) = .ok () := by
  obtain ⟨hassigned,hallocated,hreceipts⟩ := h.ids
  have hzip := zip_ledger inputs.schedule.tasks tasks
  simp only [verifyGraph,bind_eq_ok,demand_eq_ok]
  refine ⟨(),?_,(),decide_eq_true h.refs_nodup,_,h.proofs_loaded,?_⟩
  · simp only [Bool.and_eq_true,decide_eq_true_eq,sealedPayload,ledgerPayload,List.map_map]
    exact ⟨⟨⟨h.prepared.order,hassigned⟩,hallocated⟩,hreceipts⟩
  · refine verifyProofs_ok h.merged (h.prepared.provedAll_cover h.solves) ?_ ?_ ?_
    · rw [sealedPayload,ledgerPayload,hzip]
      exact h.graph_rows
    · rw [sealedPayload,ledgerPayload,hzip,flatMap_capabilities h.row_of_task.length_eq]
      exact h.capabilities_nodup
    · intro row hrow
      obtain ⟨key,hkey,hmem⟩ := List.mem_flatMap.mp hrow
      obtain ⟨_,_,rfl⟩ := List.mem_map.mp hmem
      exact List.mem_map_of_mem hkey

end Sealed

theorem capabilities_of_verifyGraph {schedule : SchedulePayload} {taskReceipts : List PrefixReceipt}
    (h : verifyGraph platform files schedule taskReceipts payload = .ok ()) :
    (payload.allocationReceipts.flatMap fun allocation => allocation.slotCapabilities.map Prod.snd).Nodup := by
  simp only [verifyGraph,verifyProofs,bind_eq_ok,demand_eq_ok,Bool.and_eq_true,decide_eq_true_eq,
    verifyTasks_eq_ok] at h
  obtain ⟨_,⟨⟨⟨_,hassigned⟩,hallocated⟩,hreceipts⟩,_,_,_,_,_,_,_,_,_,⟨_,hnodup,_⟩,_⟩ := h
  have hassigned := congrArg List.length hassigned
  have hallocated := congrArg List.length hallocated
  have hreceipts := congrArg List.length hreceipts
  simp only [List.length_map] at hassigned hallocated hreceipts
  have hrows : (schedule.tasks.zip (payload.assignments.zip (payload.allocationReceipts.zip
      payload.donorMatchReceipts))).map (fun task : GraphRow => task.2.2.1) = payload.allocationReceipts := by
    calc (schedule.tasks.zip (payload.assignments.zip (payload.allocationReceipts.zip
        payload.donorMatchReceipts))).map (fun task : GraphRow => task.2.2.1)
      _ = (((schedule.tasks.zip (payload.assignments.zip (payload.allocationReceipts.zip
          payload.donorMatchReceipts))).map Prod.snd).map Prod.snd).map Prod.fst := by
        rw [List.map_map,List.map_map]
        rfl
      _ = payload.allocationReceipts := by
        rw [List.map_snd_zip,List.map_snd_zip,List.map_fst_zip]
        · omega
        · rw [List.length_zip]
          omega
        · rw [List.length_zip,List.length_zip]
          omega
  rw [← hrows,List.flatMap_map]
  exact hnodup

theorem sealed_of_compareKeyed
    (hloaded : ∀ ref ∈ payload.matchingProofRefs, ∃ fields, loadProof platform files ref = .ok fields)
    (hdistinct : (payload.allocationReceipts.flatMap fun allocation =>
      allocation.slotCapabilities.map Prod.snd).Nodup)
    (h : compareKeyed platform inputs files payload = .ok ()) :
    ∃ views viewSha256 keys keyed tasks, Sealed platform inputs views viewSha256 keys keyed tasks files ∧
      payload.matchingProofRefs = (sealedPayload platform inputs viewSha256 keys keyed tasks).matchingProofRefs ∧
      payload.assignments = tasks.map SealedTask.assignment ∧
      payload.allocationReceipts = tasks.map SealedTask.allocation ∧
      payload.donorMatchReceipts = tasks.map SealedTask.donorReceipt := by
  simp only [compareKeyed,bind_eq_ok,demand_eq_ok,Bool.and_eq_true,decide_eq_true_eq] at h
  obtain ⟨_,hfields,views,hviews,viewSha256,hview,_,_,keys,hkeys,keyed,hkeyed,_,hlength,strata,hstrata,tasks,
    htasks,⟨⟨hrefs,hassignments⟩,hallocations⟩,hreceipts⟩ := h
  have hprepared := prepared_of_ok hviews hkeyed
  obtain ⟨hsolves,rfl,hinstalled⟩ := rebuildStrata_sound hlength hloaded hstrata
  rw [start_append] at htasks hrefs
  refine ⟨views,viewSha256,keys,keyed,tasks,⟨?_,hviews,hview,hkeys,hkeyed,hsolves,hinstalled,?_⟩,hrefs,
    hassignments,hallocations,hreceipts⟩
  · rw [Bool.and_eq_true]
    exact hfields
  · refine sealTasks_eq_ok.mpr ⟨?_,fun _ _ _ _ => List.not_mem_nil,?_⟩
    · have hrows : ∀ row ∈ inputs.schedule.tasks.zip views, row.2 ∈ views :=
        fun _ hrow => (List.of_mem_zip hrow).2
      have heach := (List.forall₂_and_left (p := fun row => row.2 ∈ views) _ _).mpr ⟨hrows,mapM_eq_ok.mp htasks⟩
      refine heach.imp fun row task htask => ?_
      exact (hprepared.rebuildTask_eq hsolves keys row.1 htask.1).symm.trans htask.2
    · rw [hallocations,List.flatMap_map,List.nodup_flatMap] at hdistinct
      refine hdistinct.2.imp ?_
      intro left right hdisjoint capability hright hleft
      exact hdisjoint hleft hright

end Runs

theorem authority_of_load {root : RunRoot} {scheduleRef prefixIndexRef : ArtifactRef} {master : Bytes}
    {inputs : AssignmentInputs} (h : loadInputs root scheduleRef prefixIndexRef master = .ok inputs) :
    inputs.scheduleRef = scheduleRef ∧ inputs.prefixIndexRef = prefixIndexRef ∧
      root.schedule scheduleRef = .ok inputs.schedule ∧
      ∃ receipts, root.prefixIndex prefixIndexRef = .ok receipts ∧ receipts.scheduleRef = scheduleRef ∧
        receipts.taskReceipts = inputs.taskReceipts := by
  simp only [loadInputs,loadAssignmentAuthority,bind_eq_ok,demand_eq_ok,decide_eq_true_eq] at h
  obtain ⟨_,⟨_,_,_,_,receipts,hreceipts,_,hscheduleRef,_,_,hauthority⟩,_,_,schedule,hschedule,receipts',hreceipts',
    _,_,hreturn⟩ := h
  cases hauthority
  cases hreturn
  obtain rfl := Except.ok.inj (hreceipts.symm.trans hreceipts')
  exact ⟨rfl,rfl,hschedule,receipts,hreceipts,hscheduleRef,rfl⟩

def publishLedger (root : RunRoot) (files : Files) (ledgerRef : ArtifactRef) (payload : LedgerPayload) : RunRoot :=
  { root with
    files := files
    ledger := fun ref => if ref = ledgerRef then .ok payload else root.ledger ref }

section Agreement

variable (platform : Platform) (root : RunRoot) (ledgerRef : ArtifactRef) (master : Bytes)

theorem sealed_accepted {scheduleRef prefixIndexRef : ArtifactRef} {payload : LedgerPayload} {files : Files}
    (h : sealBranchAssignment platform root scheduleRef prefixIndexRef master = .ok (payload,files)) :
    verifySyntheticAssignmentGraph platform (publishLedger root files ledgerRef payload) ledgerRef = .ok payload ∧
      requireAssignmentReconstruction platform (publishLedger root files ledgerRef payload) ledgerRef master =
        .ok payload := by
  simp only [sealBranchAssignment,bind_eq_ok] at h
  obtain ⟨inputs,hinputs,hprepare⟩ := h
  obtain ⟨views,viewSha256,keys,keyed,tasks,hsealed,rfl,_⟩ := sealed_of_prepare hprepare
  obtain ⟨rfl,rfl,hschedule,receipts,hreceipts,hscheduleRef,htasks⟩ := authority_of_load hinputs
  have hgraph : verifySyntheticAssignmentGraph platform (publishLedger root files ledgerRef
      (sealedPayload platform inputs viewSha256 keys keyed tasks)) ledgerRef =
        .ok (sealedPayload platform inputs viewSha256 keys keyed tasks) := by
    simp only [verifySyntheticAssignmentGraph,bind_eq_ok,demand_eq_ok,decide_eq_true_eq]
    refine ⟨_,if_pos rfl,(),rfl,_,hschedule,_,hreceipts,(),hscheduleRef,(),?_,rfl⟩
    rw [htasks]
    exact hsealed.verifyGraph_eq
  refine ⟨hgraph,?_⟩
  simp only [requireAssignmentReconstruction,bind_eq_ok,demand_eq_ok,Bool.and_eq_true,decide_eq_true_eq]
  exact ⟨_,hgraph,inputs,hinputs,(),⟨rfl,rfl⟩,(),hsealed.compareKeyed_eq,rfl⟩

theorem accepted_sealed {payload : LedgerPayload}
    (h : requireAssignmentReconstruction platform root ledgerRef master = .ok payload) :
    ∃ sealed, sealBranchAssignment platform root payload.scheduleRef payload.prefixIndexRef master =
        .ok (sealed,root.files) ∧
      payload.matchingProofRefs = sealed.matchingProofRefs ∧ payload.assignments = sealed.assignments ∧
      payload.allocationReceipts = sealed.allocationReceipts ∧
      payload.donorMatchReceipts = sealed.donorMatchReceipts := by
  simp only [requireAssignmentReconstruction,bind_eq_ok] at h
  obtain ⟨read,hgraph,inputs,hinputs,_,_,_,hkeyed,hreturn⟩ := h
  cases hreturn
  simp only [verifySyntheticAssignmentGraph,bind_eq_ok,demand_eq_ok] at hgraph
  obtain ⟨_,_,_,_,schedule,_,receipts,_,_,_,_,hverify,hreturn⟩ := hgraph
  cases hreturn
  have hloaded : ∀ ref ∈ payload.matchingProofRefs, ∃ fields, loadProof platform root.files ref = .ok fields := by
    intro ref href
    obtain ⟨fields,_,_,hload,_⟩ := proofs_of_verifyGraph hverify ref href
    exact ⟨fields,hload⟩
  obtain ⟨views,viewSha256,keys,keyed,tasks,hsealed,hrefs,hassignments,hallocations,hreceipts⟩ :=
    sealed_of_compareKeyed hloaded (capabilities_of_verifyGraph hverify) hkeyed
  refine ⟨sealedPayload platform inputs viewSha256 keys keyed tasks,?_,hrefs,hassignments,hallocations,hreceipts⟩
  simp only [sealBranchAssignment,bind_eq_ok]
  exact ⟨inputs,hinputs,hsealed.prepare_eq⟩

theorem seal_verify_agree :
    (∀ scheduleRef prefixIndexRef payload files,
      sealBranchAssignment platform root scheduleRef prefixIndexRef master = .ok (payload,files) →
        verifySyntheticAssignmentGraph platform (publishLedger root files ledgerRef payload) ledgerRef = .ok payload ∧
        requireAssignmentReconstruction platform (publishLedger root files ledgerRef payload) ledgerRef master =
          .ok payload) ∧
    ∀ payload, requireAssignmentReconstruction platform root ledgerRef master = .ok payload →
      ∃ sealed, sealBranchAssignment platform root payload.scheduleRef payload.prefixIndexRef master =
          .ok (sealed,root.files) ∧
        payload.matchingProofRefs = sealed.matchingProofRefs ∧ payload.assignments = sealed.assignments ∧
        payload.allocationReceipts = sealed.allocationReceipts ∧
        payload.donorMatchReceipts = sealed.donorMatchReceipts :=
  ⟨fun _ _ _ _ h => sealed_accepted platform root ledgerRef master h,
    fun _ h => accepted_sealed platform root ledgerRef master h⟩

end Agreement

section Sample

def tailDigest (message : Bytes) : Digest where
  bytes := (message.reverse ++ List.replicate 32 0).take 32
  size := by simp

def sealingPlatform : Platform where
  sha256 := fun _ => sampleDigest 1
  hmac := fun _ message => tailDigest message
  normalized := fun _ => true
  otherCategory := fun _ => false
  floatRepr := id

def sealingRoot : RunRoot :=
  { sampleRoot 1 with
    files := fun _ => none
    manifest := fun _ => .ok ⟨"study",sampleRef "program" '4',(sampleDigest 1).hex⟩ }

theorem sample_sealed : ∃ payload files, sealBranchAssignment sealingPlatform sealingRoot
    (sampleRef "schedule" '1') (sampleRef "prefix" '2') (List.replicate 32 7) = .ok (payload,files) := by
  have hok : (sealBranchAssignment sealingPlatform sealingRoot (sampleRef "schedule" '1')
      (sampleRef "prefix" '2') (List.replicate 32 7)).isOk = true := by decide +kernel
  cases hsealed : sealBranchAssignment sealingPlatform sealingRoot (sampleRef "schedule" '1')
      (sampleRef "prefix" '2') (List.replicate 32 7) with
  | error e =>
    rw [hsealed] at hok
    cases hok
  | ok result => exact ⟨result.1,result.2,rfl⟩

theorem sample_seal_verified : ∃ payload files,
    verifySyntheticAssignmentGraph sealingPlatform (publishLedger sealingRoot files (sampleRef "ledger" '7') payload)
        (sampleRef "ledger" '7') = .ok payload ∧
      requireAssignmentReconstruction sealingPlatform
        (publishLedger sealingRoot files (sampleRef "ledger" '7') payload) (sampleRef "ledger" '7')
          (List.replicate 32 7) = .ok payload ∧
      ∃ sealed, sealBranchAssignment sealingPlatform
          (publishLedger sealingRoot files (sampleRef "ledger" '7') payload) payload.scheduleRef
            payload.prefixIndexRef (List.replicate 32 7) = .ok (sealed,files) ∧
        payload.assignments = sealed.assignments := by
  obtain ⟨payload,files,hsealed⟩ := sample_sealed
  obtain ⟨hgraph,hkeyed⟩ := (seal_verify_agree sealingPlatform sealingRoot (sampleRef "ledger" '7')
    (List.replicate 32 7)).1 _ _ payload files hsealed
  obtain ⟨sealed,hagain,_,hassignments,_⟩ := (seal_verify_agree sealingPlatform
    (publishLedger sealingRoot files (sampleRef "ledger" '7') payload) (sampleRef "ledger" '7')
      (List.replicate 32 7)).2 payload hkeyed
  exact ⟨payload,files,hgraph,hkeyed,sealed,hagain,hassignments⟩

end Sample

end PneumaLab.ResamplingNull
