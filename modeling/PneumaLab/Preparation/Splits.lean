import PneumaLab.Library.Text
import PneumaLab.Traces.Adapters
import PneumaLab.Traces.LaneObservables

namespace PneumaLab.Preparation

open Foundation Traces

section Names
variable (python : Interpreter)

def normalizeIdentityText (text : String) : Option String :=
  let normalized := " ".intercalate ((wordsFrom [] (python.casefold text).toList).map String.ofList)
  if normalized = "" then none else some normalized

def canonicalRepoKey (repo : String) : Py String := do
  let canonical ← required (.valueError "converted example repository identity is unusable")
    (normalizeIdentityText python repo)
  demand (canonical.toList.all fun c => decide (32 ≤ c.toNat ∧ c.toNat ≠ 127))
    (.valueError "converted example repository identity is unusable")
  return canonical

-- int(hexdigest[:8], 16) % 100
def bucketOf (canonicalRepo : String) : ℕ := readBigEndian ((python.sha256 (utf8 canonicalRepo)).bytes.take 4) % 100

def splitFromCanonicalRepo (canonicalRepo : String) : String :=
  if bucketOf python canonicalRepo < 80 then "train"
  else if bucketOf python canonicalRepo < 90 then "validation" else "held_out"

end Names

section LeakageRegistry
variable (python : Interpreter)

def digestStart : String := "sha256:"

def repoDigest (repo : String) : String := digestStart ++ sha256Hex python repo

def canonicalizeRepo (repo : String) : String :=
  let value := strip repo
  if digestStart.toList.isPrefixOf value.toList then value else repoDigest python value

def checkOverlap (datasetA datasetB : List String) : List String :=
  Traces.sortedSet ((datasetA.map (canonicalizeRepo python)).filter fun digest =>
    decide (digest ∈ datasetB.map (canonicalizeRepo python)))

end LeakageRegistry

section Assignments
variable (python : Interpreter)

def evalRepoQuarantineId : String := "eval-repo-overlap"

def crossDatasetLeakageQuarantineId : String := "cross-dataset-leakage"

def evalOverlapQuarantine (includeRepoDigests : Bool) : List (Option String) → Py (List String)
  | [] => .ok []
  | identity :: rest => do
    match identity.filter fun repo => hasText repo with
    | some repo =>
      let key ← canonicalRepoKey python repo
      return key :: ((if includeRepoDigests then [canonicalizeRepo python repo] else []) ++
        (← evalOverlapQuarantine includeRepoDigests rest))
    | none => evalOverlapQuarantine includeRepoDigests rest

structure Assignment where
  recordSourceId : Json
  repo : String
  canonicalRepo : String
  splitId : String
  quarantineId : Option String

def Assignment.json (assignment : Assignment) : Json := .obj [
  ("canonical_repo",.str assignment.canonicalRepo),
  ("quarantine_id",assignment.quarantineId.elim .null .str),
  ("record_source_id",assignment.recordSourceId),
  ("repo",.str assignment.repo),
  ("split_id",.str assignment.splitId)]

def quarantineOf (quarantinedRepos leakageDigests : List String) (repo canonicalRepo : String) : Option String :=
  if canonicalRepo ∈ quarantinedRepos then some evalRepoQuarantineId
  else if leakageDigests ≠ [] ∧ canonicalizeRepo python repo ∈ leakageDigests then some crossDatasetLeakageQuarantineId
  else none

def assign (quarantinedRepos leakageDigests : List String) (example_ : Json) : Py Assignment := do
  let splitGroup ← getField example_ "split_group" .null
  demand (isMapping splitGroup) (.valueError "converted example split_group must be a mapping")
  match lookupField splitGroup "repo" with
  | some (.str repo) =>
    demand (hasText repo) (.valueError "converted example repository must be a nonempty string")
    let canonicalRepo ← canonicalRepoKey python repo
    let recordSourceId ← getField example_ "example_id" .null
    return {
      recordSourceId,repo,canonicalRepo
      splitId := splitFromCanonicalRepo python canonicalRepo
      quarantineId := quarantineOf python quarantinedRepos leakageDigests repo canonicalRepo}
  | _ => .error (.valueError "converted example repository must be a nonempty string")

def splitAssignments (quarantinedRepos leakageDigests : List String) :
    List (String × String) → List Json → Py (List Assignment)
  | _, [] => .ok []
  | repositorySplits, example_ :: rest => do
    let assignment ← assign python quarantinedRepos leakageDigests example_
    let previous := (repositorySplits.lookup assignment.canonicalRepo).getD assignment.splitId
    demand (previous = assignment.splitId) (.valueError "one repository cannot be assigned to multiple splits")
    return assignment :: (← splitAssignments quarantinedRepos leakageDigests
      ((assignment.canonicalRepo,previous) :: repositorySplits) rest)

end Assignments

section Facts
variable {python : Interpreter} {quarantinedRepos leakageDigests : List String}

theorem assign_ok {example_ : Json} {assignment : Assignment}
    (h : assign python quarantinedRepos leakageDigests example_ = .ok assignment) :
    ((lookupField example_ "split_group").bind fun splitGroup => lookupField splitGroup "repo") = some (.str assignment.repo) ∧
      normalizeIdentityText python assignment.repo = some assignment.canonicalRepo ∧
      assignment.splitId = splitFromCanonicalRepo python assignment.canonicalRepo ∧
      assignment.quarantineId =
        quarantineOf python quarantinedRepos leakageDigests assignment.repo assignment.canonicalRepo := by
  simp only [assign,bind_eq_ok] at h
  obtain ⟨splitGroup,hgroup,_,hmapping,h⟩ := h
  obtain ⟨_,hread⟩ := getField_ok hgroup
  split at h
  · next repo hrepo =>
    simp only [bind_eq_ok,pure,Except.pure,Except.ok.injEq] at h
    obtain ⟨_,_,canonicalRepo,hcanonical,sourceId,_,rfl⟩ := h
    simp only [canonicalRepoKey,bind_eq_ok,required_eq_ok,pure,Except.pure,Except.ok.injEq] at hcanonical
    obtain ⟨canonical,hnormal,_,_,rfl⟩ := hcanonical
    refine ⟨?_,hnormal,rfl,rfl⟩
    cases hlookup : lookupField example_ "split_group" with
    | none =>
      rw [hlookup,Option.getD_none] at hread
      rw [hread] at hmapping
      cases demand_eq_ok.mp hmapping
    | some held =>
      rw [hlookup,Option.getD_some] at hread
      rw [Option.bind_some,← hread]
      exact hrepo
  · cases h

theorem splitAssignments_ok {splits : List (String × String)} {examples : List Json} {assignments : List Assignment}
    (h : splitAssignments python quarantinedRepos leakageDigests splits examples = .ok assignments) :
    List.Forall₂ (fun example_ assignment => assign python quarantinedRepos leakageDigests example_ = .ok assignment)
      examples assignments := by
  induction examples generalizing splits assignments with
  | nil =>
    cases h
    exact .nil
  | cons example_ rest ih =>
    simp only [splitAssignments,bind_eq_ok,pure,Except.pure,Except.ok.injEq] at h
    obtain ⟨assignment,hassignment,_,_,others,hothers,rfl⟩ := h
    exact .cons hassignment (ih hothers)

theorem evalOverlapQuarantine_mem {identities : List (Option String)} {keys : List String}
    (h : evalOverlapQuarantine python true identities = .ok keys) {repo : String} (hrepo : some repo ∈ identities)
    (htext : hasText repo = true) :
    (∃ key, normalizeIdentityText python repo = some key ∧ key ∈ keys) ∧ canonicalizeRepo python repo ∈ keys := by
  induction identities generalizing keys with
  | nil => cases hrepo
  | cons identity rest ih =>
    rw [evalOverlapQuarantine] at h
    split at h
    · next held hheld =>
      simp only [bind_eq_ok,pure,Except.pure,Except.ok.injEq] at h
      obtain ⟨key,hkey,others,hothers,rfl⟩ := h
      rcases List.mem_cons.mp hrepo with rfl | hrest
      · rw [Option.filter_some,if_pos htext] at hheld
        cases hheld
        simp only [canonicalRepoKey,bind_eq_ok,required_eq_ok,pure,Except.pure,Except.ok.injEq] at hkey
        obtain ⟨canonical,hnormal,_,_,rfl⟩ := hkey
        exact ⟨⟨canonical,hnormal,List.mem_cons_self⟩,List.mem_cons_of_mem _ List.mem_cons_self⟩
      · obtain ⟨⟨key',hnormal,hmem⟩,hdigest⟩ := ih hothers hrest
        exact ⟨⟨key',hnormal,List.mem_cons_of_mem _ (List.mem_append_right _ hmem)⟩,
          List.mem_cons_of_mem _ (List.mem_append_right _ hdigest)⟩
    · next hnone =>
      rcases List.mem_cons.mp hrepo with rfl | hrest
      · rw [Option.filter_some,if_pos htext] at hnone
        cases hnone
      · exact ih h hrest

theorem checkOverlap_mem {datasetA datasetB : List String} {digest : String} :
    digest ∈ checkOverlap python datasetA datasetB ↔
      digest ∈ datasetA.map (canonicalizeRepo python) ∧ digest ∈ datasetB.map (canonicalizeRepo python) := by
  rw [checkOverlap,Traces.mem_sortedSet,List.mem_filter,decide_eq_true_eq]

end Facts

end PneumaLab.Preparation
