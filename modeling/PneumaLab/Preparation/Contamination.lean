import PneumaLab.Library.InvertedIndex
import PneumaLab.Preparation.Splits

namespace PneumaLab.Preparation

open Traces InvertedIndex

inductive Dimension where
  | repository
  | repoIssueOrPr
  | task
  | baseCommit
  | patch
  | testPatch
  | fuzzyText
  deriving DecidableEq, Repr

def canonicalDimensions : List Dimension :=
  [.repository,.repoIssueOrPr,.task,.baseCommit,.patch,.testPatch,.fuzzyText]

structure IdentityRecord where
  family : String
  laneId : String
  repo : Option String
  issueOrPr : Option String
  taskId : Option String
  baseCommit : Option String
  patchSha256 : Option String
  testPatchSha256 : Option String
  fuzzyTextSha256 : Option String
  family_nonempty : family ≠ ""
  lane_nonempty : laneId ≠ ""

structure NormalizedIdentity where
  laneId : String
  values : List (Dimension × Option String)
  dimensions : values.map Prod.fst = canonicalDimensions

def NormalizedIdentity.value (identity : NormalizedIdentity) (dimension : Dimension) : Option String :=
  entry none identity.values dimension

def NormalizedIdentity.hasUsableIdentity (identity : NormalizedIdentity) : Bool :=
  identity.values.any fun field => field.2.isSome

structure Finding where
  trainingLane : String
  evaluationLane : String
  dimensions : List Dimension
  deriving DecidableEq, Repr

structure ContaminationReceipt where
  manifestKind : String
  manifestSchemaVersion : String
  trainingIdentityCount : ℕ
  evaluationIdentityCount : ℕ
  requiredEvaluationFamilies : List String
  evaluationFamilyCounts : List (String × ℕ)
  blockedEvaluationFamilyStatus : List (String × String)
  evaluationCoverageComplete : Bool
  findingCount : ℕ
  findings : List Finding
  repoIssueDisjoint : Bool
  deriving DecidableEq, Repr

section Normalization
variable (python : Interpreter)

def prefixedDigest (normalized : String) : String :=
  let suffix := String.ofList (normalized.toList.drop digestStart.toList.length)
  if digestStart.toList.isPrefixOf normalized.toList && isSha256 suffix then digestStart ++ suffix
  else if isSha256 normalized then digestStart ++ normalized
  else digestStart ++ sha256Hex python normalized

def normalizeIdentityDigest (value : Option String) : Option String :=
  (value.bind (normalizeIdentityText python)).map (prefixedDigest python)

def normalizeIdentity (identity : IdentityRecord) : NormalizedIdentity :=
  let repo := identity.repo.bind (normalizeIdentityText python)
  let issue := identity.issueOrPr.bind (normalizeIdentityText python)
  { laneId := identity.laneId
    values := [
      (.repository,repo),
      (.repoIssueOrPr,match repo,issue with
        | some repo, some issue => some (repo ++ "#" ++ issue)
        | _, _ => none),
      (.task,identity.taskId.bind (normalizeIdentityText python)),
      (.baseCommit,identity.baseCommit.bind (normalizeIdentityText python)),
      (.patch,normalizeIdentityDigest python identity.patchSha256),
      (.testPatch,normalizeIdentityDigest python identity.testPatchSha256),
      (.fuzzyText,normalizeIdentityDigest python identity.fuzzyTextSha256)]
    dimensions := rfl }

def validatedIdentity (role : String) (numbered : IdentityRecord × ℕ) : Py NormalizedIdentity := do
  let (identity,index) := numbered
  let place := role ++ " identity " ++ toString index
  demand (normalizeIdentityText python identity.family).isSome
    (.contaminationIndexError (place ++ " family must be a nonempty string"))
  demand (normalizeIdentityText python identity.laneId).isSome
    (.contaminationIndexError (place ++ " lane_id must be a nonempty string"))
  let normalized := normalizeIdentity python identity
  demand normalized.hasUsableIdentity
    (.contaminationIndexError (place ++ " must contain a usable identity dimension"))
  return normalized

def validatedNormalizedIdentities (role : String) (identities : List IdentityRecord) :
    Py (List NormalizedIdentity) := do
  demand (!identities.isEmpty)
    (.contaminationIndexError (role ++ " identities must contain at least one record"))
  identities.zipIdx.mapM (validatedIdentity python role)

end Normalization

section Receipt

def blockedUnavailable : String := "blocked_unavailable"

def familyCounts (families : List String) (evaluation : List IdentityRecord) : List (String × ℕ) :=
  families.map fun family => (family,evaluation.countP fun identity => identity.family = family)

def blockedFamilyStatus (families : List String) (evaluation : List IdentityRecord) : List (String × String) :=
  families.map fun family =>
    (family,if evaluation.all (fun identity => identity.family ≠ family) then blockedUnavailable
      else "unexpectedly_present")

def evaluationCoverageComplete (required blocked : List String) (evaluation : List IdentityRecord) : Bool :=
  ((evaluation.all fun identity => decide (identity.family ∈ required)) &&
    required.all fun family => evaluation.any fun identity => identity.family = family) &&
  (familyCounts required evaluation).all (fun count => decide (0 < count.2)) &&
  (blockedFamilyStatus blocked evaluation).all (fun status => status.2 = blockedUnavailable)

def pairDimensions (training evaluation : NormalizedIdentity) : List Dimension :=
  (training.values.filter fun field =>
    field.2.isSome && decide (field.2 = evaluation.value field.1)).map Prod.fst

def findingOf (training evaluation : NormalizedIdentity) : Option Finding :=
  let dimensions := pairDimensions training evaluation
  if dimensions = [] then none
  else some { trainingLane := training.laneId, evaluationLane := evaluation.laneId, dimensions := dimensions }

def indexedFindings (training evaluation : List NormalizedIdentity) : List Finding :=
  let index := build (evaluation.map NormalizedIdentity.values)
  training.flatMap fun identity =>
    (candidates index identity.values).filterMap fun i => evaluation[i]?.bind (findingOf identity)

variable (python : Interpreter) {Policy : Type}
variable (evaluationIdentityScope : Policy → Except String (List String × List String))

def identityScope (suitePolicy : Policy) : Py (List String × List String) :=
  match evaluationIdentityScope suitePolicy with
  | .ok scope => .ok scope
  | .error refusal =>
    .error (.contaminationIndexError ("suite evaluation identity policy is invalid: " ++ refusal))

def buildContaminationReceipt (training evaluation : List IdentityRecord) (suitePolicy : Policy) :
    Py ContaminationReceipt := do
  let normalizedTraining ← validatedNormalizedIdentities python "training" training
  let normalizedEvaluation ← validatedNormalizedIdentities python "evaluation" evaluation
  let (required,blocked) ← identityScope evaluationIdentityScope suitePolicy
  let complete := evaluationCoverageComplete required blocked evaluation
  demand complete (.contaminationIndexError
    ("evaluation families must contain at least one identity for every " ++
      "required family and no extra or blocked families"))
  let findings := indexedFindings normalizedTraining normalizedEvaluation
  return {
    manifestKind := "pneuma_foundation_contamination_receipt"
    manifestSchemaVersion := "0.1.0"
    trainingIdentityCount := training.length
    evaluationIdentityCount := evaluation.length
    requiredEvaluationFamilies := required
    evaluationFamilyCounts := familyCounts required evaluation
    blockedEvaluationFamilyStatus := blockedFamilyStatus blocked evaluation
    evaluationCoverageComplete := complete
    findingCount := findings.length
    findings := findings
    repoIssueDisjoint := complete && findings.isEmpty }

end Receipt

end PneumaLab.Preparation
