import PneumaLab.ResamplingNull.Assignment.ProofAcceptance

namespace PneumaLab.ResamplingNull

structure ClosedProof (fields : List (String × Json)) : Prop where
  keys : fields.map Prod.fst = proofKeys
  kind : Json.get fields "proof_kind" = .str "synthetic_cyclic_offset_v1"
  schema : Json.get fields "schema_version" = .str "1"
  invocations : Json.get fields "invocation_receipt_refs" = .arr []

theorem closedProof_of_load {platform : Platform} {files : Files} {ref : ArtifactRef}
    {fields : List (String × Json)} (h : loadProof platform files ref = .ok fields) : ClosedProof fields := by
  simp only [loadProof,bind_eq_ok,demand_eq_ok] at h
  obtain ⟨_,_,raw,_,value,_,hvalue⟩ := h
  cases value with
  | obj read =>
    simp only [bind_eq_ok,demand_eq_ok,Bool.and_eq_true,decide_eq_true_eq] at hvalue
    obtain ⟨_,_,_,⟨⟨⟨hkeys,hkind⟩,hschema⟩,hinvocations⟩,hret⟩ := hvalue
    cases hret
    exact ⟨hkeys,hkind,hschema,hinvocations⟩
  | null => exact absurd hvalue (by simp)
  | bool b => exact absurd hvalue (by simp)
  | int n => exact absurd hvalue (by simp)
  | float t => exact absurd hvalue (by simp)
  | str t => exact absurd hvalue (by simp)
  | arr xs => exact absurd hvalue (by simp)

theorem trialRow_exact (failure : Option OffsetFailure) (offset : ℕ) : (trialRow failure offset).Exact := by
  have hkeys : ["failure_code","offset","valid"].Pairwise (· < ·) := by decide
  have hcode : (failureJson failure).Exact := by cases failure <;> exact trivial
  exact ⟨hkeys,hcode,trivial,trivial,trivial⟩

theorem cycleRow_exact (row : CycleRow) : row.json.Exact := by
  have hkeys : ["order_hmac_sha256","task_id"].Pairwise (· < ·) := by decide
  exact ⟨hkeys,trivial,trivial,trivial⟩

theorem proofObject_exact (viewSha256 programSha256 : String) (canonical : List String) (cycle : List CycleRow)
    {trials : List Json} (htrials : ∀ trial ∈ trials, trial.Exact) (offset : ℕ) (stratumKey : List String) :
    (Json.obj (proofObject viewSha256 programSha256 canonical cycle trials offset stratumKey)).Exact := by
  have hcycle : (Json.arr (cycle.map CycleRow.json)).Exact := by
    rw [Json.Exact,Json.exactItems_iff]
    intro item hitem
    obtain ⟨row,_,rfl⟩ := List.mem_map.mp hitem
    exact cycleRow_exact row
  have hdonors : (Json.arr (canonical.map fun focal =>
      .arr [.str focal,.str (cyclicDonor (cycle.map CycleRow.taskId) offset focal)])).Exact := by
    rw [Json.Exact,Json.exactItems_iff]
    intro item hitem
    obtain ⟨focal,_,rfl⟩ := List.mem_map.mp hitem
    exact ⟨trivial,trivial,trivial⟩
  have htrials' : (Json.arr trials).Exact := by rwa [Json.Exact,Json.exactItems_iff]
  have hkeys : proofKeys.Pairwise (· < ·) := by decide
  exact ⟨hkeys,trivial,trivial,Json.exact_texts _,
    hcycle,hdonors,trivial,htrials',trivial,trivial,trivial,Json.exact_texts _,trivial⟩

theorem proofObject_closed (viewSha256 programSha256 : String) (canonical : List String) (cycle : List CycleRow)
    (trials : List Json) (offset : ℕ) (stratumKey : List String) :
    ClosedProof (proofObject viewSha256 programSha256 canonical cycle trials offset stratumKey) :=
  ⟨rfl,rfl,rfl,rfl⟩

section Published

variable (platform : Platform)

def proofBytes (fields : List (String × Json)) : Bytes := canonicalJsonBytes (.obj fields)

def proofRef (fields : List (String × Json)) : ArtifactRef :=
  let digest := (platform.sha256 (proofBytes fields)).hex
  ⟨proofRole,proofPath digest,digest,(proofBytes fields).length,proofMediaType⟩

theorem topLevel_proofPath (sha256 : String) : topLevel (proofPath sha256) = "blobs" := by
  have hhead : "blobs/matching/proof/".toList = "blobs".toList ++ '/' :: "matching/proof/".toList := by
    decide +kernel
  have hname : ∀ c ∈ "blobs".toList, c ≠ '/' := by simp
  exact topLevel_append hname hhead sha256 ".json"

theorem readRef_proofRef {files : Files} {fields : List (String × Json)}
    (hfile : files (proofRef platform fields).relativePath = some (proofBytes fields)) :
    readRef platform files (proofRef platform fields) = .ok (proofBytes fields) := by
  refine readRef_eq_ok.mpr ⟨?_,hfile,rfl,rfl⟩
  rw [proofRef,topLevel_proofPath]
  decide

theorem loadProof_published {files : Files} {fields : List (String × Json)} (hexact : (Json.obj fields).Exact)
    (hclosed : ClosedProof fields)
    (hfile : files (proofRef platform fields).relativePath = some (proofBytes fields)) :
    loadProof platform files (proofRef platform fields) = .ok fields := by
  have hpos : 0 < (proofBytes fields).length := canonicalJsonBytes_length_pos _
  simp only [loadProof,bind_eq_ok,demand_eq_ok]
  refine ⟨(),by simp [proofRef,hpos],_,readRef_proofRef platform hfile,_,loadJsonBytes_canonical platform hexact,?_⟩
  simp only [bind_eq_ok,demand_eq_ok]
  exact ⟨(),decide_eq_true rfl,(),by simp [hclosed.keys,hclosed.kind,hclosed.schema,hclosed.invocations],rfl⟩

end Published

end PneumaLab.ResamplingNull
