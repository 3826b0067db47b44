import PneumaLab.ResamplingNull.Assignment.Sealing
import PneumaLab.ResamplingNull.Assignment.SolverVerified

namespace PneumaLab.ResamplingNull

variable (platform : Platform)

def rebuildStratum (programSha256 viewSha256 : String) (donorKey : Digest) (files : Files) (keyed : Keyed)
    (state : StrataState) (row : List String × ArtifactRef) : Py StrataState := do
  let tasks := stratumTasks keyed row.1
  let (proof,selected) ← solveSyntheticStratum platform tasks row.1 viewSha256 programSha256 donorKey
  let raw ← readRef platform files row.2
  let persisted ← loadJsonBytes platform raw
  demand (decide (persisted = .obj proof) && decide (proofBytes proof = raw))
    (.recordValidationError "keyed synthetic proof reconstruction differs")
  return state.add tasks row.2 selected

def rebuildTask (inputs : AssignmentInputs) (viewSha256 : String) (keys : AssignmentKeys) (keyed : Keyed)
    (views : List AssignmentPrefixTaskView) (strata : StrataState) (row : TaskSchedule)
    (view : AssignmentPrefixTaskView) : Py SealedTask := do
  let donor := strata.donors.lookup view.taskId
  let (assignment,allocation) ← allocateTask platform inputs.studyId inputs.manifestRef.sha256
    inputs.scheduleRef.sha256 inputs.prefixIndexRef.sha256 row donor keys
  match donor with
  | none => return ⟨assignment,allocation,
      .noTrigger ⟨view.taskId,.noInterventionOpportunity,viewSha256⟩⟩
  | some donor => do
    let typedDonor ← viewById views donor.taskId
    let byTask := stratumByTask keyed
    let key ← required (.keyError view.taskId) (byTask.lookup view.taskId)
    let candidates ← candidateReceipts platform view
      (views.filter fun other => byTask.lookup other.taskId = some key) keys.donor
    let chosen ← required .stopIteration
      (candidates.find? fun candidate => candidate.donorTaskId = typedDonor.taskId)
    let ref ← required (.keyError view.taskId) (strata.proofByTask.lookup view.taskId)
    return ⟨assignment,allocation,.matched (matchedReceipt view typedDonor key viewSha256 candidates chosen ref)⟩

def compareKeyed (inputs : AssignmentInputs) (files : Files) (payload : LedgerPayload) : Py Unit := do
  demand (!inputs.stratumFields.isEmpty && inputs.stratumFields.all fun field => field ≠ "")
    (.recordValidationError "reconstruction stratum keys are malformed")
  let views ← prepareViews inputs
  let viewSha256 ← prefixViewSha256 platform inputs.studyId inputs.scheduleRef.sha256 views
  demand (payload.assignmentPrefixViewSha256 = viewSha256)
    (.recordValidationError "reconstructed prefix view digest differs")
  let keys ← readCommitted platform inputs
  let keyed ← stratumKeyed inputs.stratumFields views
  demand (payload.matchingProofRefs.length = (sortedStrata keyed).length)
    (.recordValidationError "reconstruction proof count differs")
  let strata ← ((sortedStrata keyed).zip payload.matchingProofRefs).foldlM
    (rebuildStratum platform inputs.matchingProgramRef.sha256 viewSha256 keys.donor files keyed) ⟨[],[],[]⟩
  let tasks ← (inputs.schedule.tasks.zip views).mapM fun (row,view) =>
    rebuildTask platform inputs viewSha256 keys keyed views strata row view
  demand (payload.matchingProofRefs = strata.proofRefs &&
      payload.assignments = tasks.map SealedTask.assignment &&
      payload.allocationReceipts = tasks.map SealedTask.allocation &&
      payload.donorMatchReceipts = tasks.map SealedTask.donorReceipt)
    (.recordValidationError "keyed assignment reconstruction differs from ledger")

def requireAssignmentReconstruction (root : RunRoot) (ledgerRef : ArtifactRef) (master : Bytes) :
    Py LedgerPayload := do
  let payload ← verifySyntheticAssignmentGraph platform root ledgerRef
  let inputs ← loadInputs root payload.scheduleRef payload.prefixIndexRef master
  demand (inputs.manifestRef = payload.manifestRef && inputs.matchingProgramRef = payload.matchingProgramRef)
    (.recordValidationError "ledger manifest ancestry differs")
  compareKeyed platform inputs root.files payload
  return payload

namespace StrataState

def append (left right : StrataState) : StrataState :=
  ⟨left.proofRefs ++ right.proofRefs,left.donors ++ right.donors,left.proofByTask ++ right.proofByTask⟩

end StrataState

section Strata

variable (platform : Platform) (programSha256 viewSha256 : String) (donorKey : Digest) (keyed : Keyed)

def solution (key : List String) : List (String × Json) × List (String × AssignmentPrefixTaskView) :=
  match solveSyntheticStratum platform (stratumTasks keyed key) key viewSha256 programSha256 donorKey with
  | .ok solved => solved
  | .error _ => ([],[])

def stratumRef (key : List String) : ArtifactRef :=
  proofRef platform (solution platform programSha256 viewSha256 donorKey keyed key).1

def sealedState (keys : List (List String)) : StrataState where
  proofRefs := keys.map (stratumRef platform programSha256 viewSha256 donorKey keyed)
  donors := keys.flatMap fun key => (solution platform programSha256 viewSha256 donorKey keyed key).2
  proofByTask := keys.flatMap fun key => (stratumTasks keyed key).map fun task =>
    (task.taskId,stratumRef platform programSha256 viewSha256 donorKey keyed key)

def StratumSolves (key : List String) : Prop :=
  solveSyntheticStratum platform (stratumTasks keyed key) key viewSha256 programSha256 donorKey =
    .ok (solution platform programSha256 viewSha256 donorKey keyed key)

def StratumInstalled (files : Files) (key : List String) : Prop :=
  files (stratumRef platform programSha256 viewSha256 donorKey keyed key).relativePath =
    some (proofBytes (solution platform programSha256 viewSha256 donorKey keyed key).1)

variable {platform programSha256 viewSha256 donorKey keyed}

theorem stratumSolves_of_ok {key : List String} {solved}
    (h : solveSyntheticStratum platform (stratumTasks keyed key) key viewSha256 programSha256 donorKey =
      .ok solved) : solution platform programSha256 viewSha256 donorKey keyed key = solved := by
  rw [solution,h]

theorem sealedState_cons (key : List String) (keys : List (List String)) (start : StrataState) :
    start.append (sealedState platform programSha256 viewSha256 donorKey keyed (key :: keys)) =
      (start.add (stratumTasks keyed key) (stratumRef platform programSha256 viewSha256 donorKey keyed key)
        (solution platform programSha256 viewSha256 donorKey keyed key).2).append
          (sealedState platform programSha256 viewSha256 donorKey keyed keys) := by
  simp [StrataState.append,StrataState.add,sealedState]

theorem installProof_eq_ok {files files' : Files} {fields : List (String × Json)} {ref : ArtifactRef}
    (h : installProof platform files fields = .ok (ref,files')) :
    ref = proofRef platform fields ∧ files' ref.relativePath = some (proofBytes fields) ∧
      ∀ path payload, files path = some payload → files' path = some payload := by
  simp only [installProof] at h
  cases hfile : files (proofRef platform fields).relativePath with
  | none =>
    rw [hfile] at h
    cases h
    refine ⟨rfl,if_pos rfl,fun path payload hpath => ?_⟩
    have hne : path ≠ (proofRef platform fields).relativePath := by
      rintro rfl
      exact absurd (hfile.symm.trans hpath) (by simp)
    exact (if_neg hne).trans hpath
  | some payload =>
    rw [hfile] at h
    simp only [bind_eq_ok,demand_eq_ok,decide_eq_true_eq] at h
    obtain ⟨_,rfl,hreturn⟩ := h
    cases hreturn
    exact ⟨rfl,hfile,fun _ _ hpath => hpath⟩

theorem sealStrata_sound {keys : List (List String)} {files files' : Files} {start strata : StrataState}
    (h : keys.foldlM (sealStratum platform programSha256 viewSha256 donorKey keyed) (files,start) =
      .ok (files',strata)) :
    (∀ key ∈ keys, StratumSolves platform programSha256 viewSha256 donorKey keyed key) ∧
      strata = start.append (sealedState platform programSha256 viewSha256 donorKey keyed keys) ∧
      (∀ key ∈ keys, StratumInstalled platform programSha256 viewSha256 donorKey keyed files' key) ∧
      ∀ path payload, files path = some payload → files' path = some payload := by
  induction keys generalizing files start with
  | nil =>
    cases h
    refine ⟨fun _ h => absurd h List.not_mem_nil,?_,fun _ h => absurd h List.not_mem_nil,fun _ _ h => h⟩
    simp [StrataState.append,sealedState]
  | cons key keys ih =>
    rw [List.foldlM_cons,bind_eq_ok] at h
    obtain ⟨⟨mid,state⟩,hstep,hrest⟩ := h
    simp only [sealStratum,bind_eq_ok] at hstep
    obtain ⟨⟨fields,selected⟩,hsolve,⟨ref,written⟩,hinstall,hreturn⟩ := hstep
    cases hreturn
    have hsolution := stratumSolves_of_ok hsolve
    obtain ⟨rfl,hwritten,hkept⟩ := installProof_eq_ok hinstall
    obtain ⟨hsolves,hstrata,hinstalled,hgrown⟩ := ih hrest
    have hfields : (solution platform programSha256 viewSha256 donorKey keyed key).1 = fields := by
      rw [hsolution]
    refine ⟨List.forall_mem_cons.mpr ⟨?_,hsolves⟩,?_,List.forall_mem_cons.mpr ⟨?_,hinstalled⟩,
      fun path payload hpath => hgrown path payload (hkept path payload hpath)⟩
    · rw [StratumSolves,hsolution]
      exact hsolve
    · rw [hstrata,sealedState_cons,stratumRef,hsolution]
    · rw [StratumInstalled,stratumRef,hfields]
      exact hgrown _ _ hwritten

theorem sealStrata_complete {keys : List (List String)} {files : Files} (start : StrataState)
    (hsolves : ∀ key ∈ keys, StratumSolves platform programSha256 viewSha256 donorKey keyed key)
    (hinstalled : ∀ key ∈ keys, StratumInstalled platform programSha256 viewSha256 donorKey keyed files key) :
    keys.foldlM (sealStratum platform programSha256 viewSha256 donorKey keyed) (files,start) =
      .ok (files,start.append (sealedState platform programSha256 viewSha256 donorKey keyed keys)) := by
  induction keys generalizing start with
  | nil => simp [StrataState.append,sealedState,pure,Except.pure]
  | cons key keys ih =>
    rw [List.forall_mem_cons] at hsolves hinstalled
    have hinstall : installProof platform files (solution platform programSha256 viewSha256 donorKey keyed key).1 =
        .ok (stratumRef platform programSha256 viewSha256 donorKey keyed key,files) := by
      have hfile := hinstalled.1
      rw [StratumInstalled,stratumRef] at hfile
      simp only [installProof,hfile,bind_eq_ok,demand_eq_ok,decide_eq_true_eq]
      exact ⟨(),trivial,rfl⟩
    have hstep : sealStratum platform programSha256 viewSha256 donorKey keyed (files,start) key =
        .ok (files,start.add (stratumTasks keyed key) (stratumRef platform programSha256 viewSha256 donorKey keyed key)
          (solution platform programSha256 viewSha256 donorKey keyed key).2) := by
      have hsolve := hsolves.1
      rw [StratumSolves] at hsolve
      simp only [sealStratum,bind_eq_ok]
      exact ⟨_,hsolve,_,hinstall,rfl⟩
    rw [List.foldlM_cons,hstep,ok_bind,sealedState_cons]
    exact ih _ hsolves.2 hinstalled.2

theorem proofRef_of_load {files : Files} {ref : ArtifactRef} {fields read : List (String × Json)}
    (hload : loadProof platform files ref = .ok read)
    (hraw : readRef platform files ref = .ok (proofBytes fields)) : ref = proofRef platform fields := by
  obtain ⟨_,_,hsha,hlength⟩ := readRef_eq_ok.mp hraw
  simp only [loadProof,bind_eq_ok,demand_eq_ok,Bool.and_eq_true,decide_eq_true_eq] at hload
  obtain ⟨_,⟨⟨⟨hrole,hpath⟩,hmedia⟩,_⟩,_⟩ := hload
  obtain ⟨role,path,sha256,byteCount,mediaType⟩ := ref
  simp only at hrole hpath hmedia hsha hlength
  rw [proofRef,hrole,hpath,hmedia,hsha,hlength]

theorem rebuildStrata_sound {keys : List (List String)} {refs : List ArtifactRef} {files : Files}
    {start strata : StrataState} (hlength : refs.length = keys.length)
    (hloaded : ∀ ref ∈ refs, ∃ fields, loadProof platform files ref = .ok fields)
    (h : (keys.zip refs).foldlM (rebuildStratum platform programSha256 viewSha256 donorKey files keyed) start =
      .ok strata) :
    (∀ key ∈ keys, StratumSolves platform programSha256 viewSha256 donorKey keyed key) ∧
      strata = start.append (sealedState platform programSha256 viewSha256 donorKey keyed keys) ∧
      ∀ key ∈ keys, StratumInstalled platform programSha256 viewSha256 donorKey keyed files key := by
  induction keys generalizing refs start with
  | nil =>
    cases h
    refine ⟨fun _ h => absurd h List.not_mem_nil,?_,fun _ h => absurd h List.not_mem_nil⟩
    simp [StrataState.append,sealedState]
  | cons key keys ih =>
    cases refs with
    | nil => exact absurd hlength (by simp)
    | cons ref refs =>
      rw [List.zip_cons_cons,List.foldlM_cons,bind_eq_ok] at h
      obtain ⟨mid,hstep,hrest⟩ := h
      simp only [rebuildStratum,bind_eq_ok,demand_eq_ok,Bool.and_eq_true,decide_eq_true_eq] at hstep
      obtain ⟨⟨fields,selected⟩,hsolve,raw,hraw,_,_,_,⟨_,rfl⟩,hreturn⟩ := hstep
      cases hreturn
      rw [List.forall_mem_cons] at hloaded
      obtain ⟨read,hread⟩ := hloaded.1
      have hsolution := stratumSolves_of_ok hsolve
      have href : ref = stratumRef platform programSha256 viewSha256 donorKey keyed key := by
        rw [stratumRef,hsolution]
        exact proofRef_of_load hread hraw
      obtain ⟨hsolves,hstrata,hinstalled⟩ := ih (Nat.succ_injective hlength) hloaded.2 hrest
      refine ⟨List.forall_mem_cons.mpr ⟨?_,hsolves⟩,?_,List.forall_mem_cons.mpr ⟨?_,hinstalled⟩⟩
      · rw [StratumSolves,hsolution]
        exact hsolve
      · rw [hstrata,sealedState_cons,← href,hsolution]
      · rw [StratumInstalled,← href,hsolution]
        exact (readRef_eq_ok.mp hraw).2.1

theorem rebuildStrata_complete {keys : List (List String)} {files : Files} (start : StrataState)
    (hsolves : ∀ key ∈ keys, StratumSolves platform programSha256 viewSha256 donorKey keyed key)
    (hinstalled : ∀ key ∈ keys, StratumInstalled platform programSha256 viewSha256 donorKey keyed files key) :
    (keys.zip (keys.map (stratumRef platform programSha256 viewSha256 donorKey keyed))).foldlM
        (rebuildStratum platform programSha256 viewSha256 donorKey files keyed) start =
      .ok (start.append (sealedState platform programSha256 viewSha256 donorKey keyed keys)) := by
  induction keys generalizing start with
  | nil => simp [StrataState.append,sealedState,pure,Except.pure]
  | cons key keys ih =>
    rw [List.forall_mem_cons] at hsolves hinstalled
    have hstep : rebuildStratum platform programSha256 viewSha256 donorKey files keyed start
        (key,stratumRef platform programSha256 viewSha256 donorKey keyed key) =
        .ok (start.add (stratumTasks keyed key) (stratumRef platform programSha256 viewSha256 donorKey keyed key)
          (solution platform programSha256 viewSha256 donorKey keyed key).2) := by
      have hsolve := hsolves.1
      rw [StratumSolves] at hsolve
      obtain ⟨_,_,_,hsolved⟩ := solved_of_solve hsolve
      simp only [rebuildStratum,bind_eq_ok,demand_eq_ok,Bool.and_eq_true,decide_eq_true_eq]
      exact ⟨_,hsolve,_,readRef_proofRef platform hinstalled.1,_,loadJsonBytes_canonical platform hsolved.proof_exact,(),
        ⟨rfl,rfl⟩,rfl⟩
    rw [List.map_cons,List.zip_cons_cons,List.foldlM_cons,hstep,ok_bind,sealedState_cons]
    exact ih _ hsolves.2 hinstalled.2

end Strata

end PneumaLab.ResamplingNull
