import PneumaLab.Exceptions
import PneumaLab.Library.Json
import PneumaLab.Library.Text

namespace PneumaLab.AdversarialReview

inductive Severity where
  | blocker
  | major
  | minor
  | speculation
  deriving DecidableEq, Repr

namespace Severity

def text : Severity → String
  | .blocker => "blocker"
  | .major => "major"
  | .minor => "minor"
  | .speculation => "speculation"

def ofText (value : String) : Option Severity :=
  [blocker,major,minor,speculation].find? fun severity => severity.text = value

def rank : Severity → ℕ
  | .blocker => 0
  | .major => 1
  | .minor => 2
  | .speculation => 3

def requiresEvidence (severity : Severity) : Bool := decide (severity ∈ [blocker,major,minor])

end Severity

def majorQuorum : ℕ := 3

inductive EvidenceKind where
  | repoLine
  | receipt
  | artifactDigest
  | externalSource
  | command
  | manuscriptSpan
  deriving DecidableEq, Repr

namespace EvidenceKind

def text : EvidenceKind → String
  | .repoLine => "repo_line"
  | .receipt => "receipt"
  | .artifactDigest => "artifact_digest"
  | .externalSource => "external_source"
  | .command => "command"
  | .manuscriptSpan => "manuscript_span"

def ofText (value : String) : Option EvidenceKind :=
  [repoLine,receipt,artifactDigest,externalSource,command,manuscriptSpan].find? fun kind => kind.text = value

def isSpan (kind : EvidenceKind) : Bool := decide (kind = repoLine ∨ kind = manuscriptSpan)

end EvidenceKind

-- The repr of a text, as the messages quote it.
structure Quoting where
  repr : String → String
  reprTexts : List String → String

def requireText (value label : String) : Py Text :=
  if h : hasText value = true then .ok ⟨value,h⟩ else .error (.inputContractError (label ++ " must be non-empty text"))

structure ProposedEvidence where
  kind : String
  locator : String
  detail : String
  startLine : Option ℤ
  endLine : Option ℤ
  expectedDigest : Option String
  quoted : Option String

def spanOk (kind : EvidenceKind) (startLine endLine : Option ℤ) : Bool :=
  !kind.isSpan || startLine.any fun start => decide (1 ≤ start ∧ start ≤ endLine.getD start)

structure EvidenceRef where
  kind : EvidenceKind
  locator : Text
  detail : Text
  startLine : Option ℤ
  endLine : Option ℤ
  expectedDigest : Option String
  quoted : Option String
  span : spanOk kind startLine endLine = true
  digestForm : expectedDigest.all isSha256 = true
  deriving DecidableEq

namespace EvidenceRef

def fromMapping (quoting : Quoting) (payload : ProposedEvidence) : Py EvidenceRef := do
  let kind ← required (.inputContractError ("unknown evidence kind " ++ quoting.repr payload.kind)) (EvidenceKind.ofText payload.kind)
  let locator ← requireText payload.locator "evidence locator"
  let detail ← requireText payload.detail "evidence detail"
  demand (!kind.isSpan || payload.startLine.any fun start => decide (1 ≤ start))
    (.inputContractError (kind.text ++ " evidence requires a 1-indexed start_line"))
  if hspan : spanOk kind payload.startLine payload.endLine = true then
    if hform : payload.expectedDigest.all isSha256 = true then
      return ⟨kind,locator,detail,payload.startLine,payload.endLine,payload.expectedDigest,payload.quoted,hspan,hform⟩
    else .error (.inputContractError "expected_digest must be lowercase hex sha256")
  else .error (.inputContractError (kind.text ++ " evidence requires end_line >= start_line"))

def toCanonical (ref : EvidenceRef) : Json :=
  let line (number : Option ℤ) : Json := number.elim .null .int
  let text (value : Option String) : Json := value.elim .null .str
  .obj [("detail",.str ref.detail),("end_line",line ref.endLine),("expected_digest",text ref.expectedDigest),
    ("kind",.str ref.kind.text),("locator",.str ref.locator),("quoted",text ref.quoted),("start_line",line ref.startLine)]

end EvidenceRef

structure ProposedFinding where
  findingId : String
  severity : String
  title : String
  statement : String
  failureMode : String
  evidence : List ProposedEvidence
  claimIds : List String
  reproduction : List String
  whatWouldRefute : String
  confidence : String

structure Finding where
  findingId : Text
  roleId : Text
  severity : Severity
  title : Text
  statement : Text
  failureMode : Text
  evidence : List EvidenceRef
  claimIds : List String
  reproduction : List String
  whatWouldRefute : String
  confidence : String
  deriving DecidableEq

namespace Finding

def fromMapping (quoting : Quoting) (roleId : String) (payload : ProposedFinding) : Py Finding := do
  let evidence ← payload.evidence.mapM (EvidenceRef.fromMapping quoting)
  let findingId ← requireText payload.findingId "finding_id"
  let roleId ← requireText roleId "role_id"
  let severity ← required (.inputContractError "severity must be one of ('blocker', 'major', 'minor', 'speculation')")
    (Severity.ofText payload.severity)
  let title ← requireText payload.title "finding title"
  let statement ← requireText payload.statement "finding statement"
  let failureMode ← requireText payload.failureMode "failure_mode"
  return ⟨findingId,roleId,severity,title,statement,failureMode,evidence,payload.claimIds,payload.reproduction,
    payload.whatWouldRefute,payload.confidence⟩

def toCanonical (finding : Finding) : Json :=
  .obj [("claim_ids",.arr (finding.claimIds.map .str)),("confidence",.str finding.confidence),
    ("evidence",.arr (finding.evidence.map EvidenceRef.toCanonical)),("failure_mode",.str finding.failureMode),
    ("finding_id",.str finding.findingId),("reproduction",.arr (finding.reproduction.map .str)),
    ("role_id",.str finding.roleId),("severity",.str finding.severity.text),("statement",.str finding.statement),
    ("title",.str finding.title),("what_would_refute",.str finding.whatWouldRefute)]

end Finding

structure SubprocessReceipt where
  roleId : String
  promptDigest : String

structure ReviewerReport where
  roleId : String
  findings : List Finding
  declaredDependencies : List String
  receipt : Option SubprocessReceipt

structure VerificationOutcome where
  findingDigest : String
  admissible : Bool
  checkedRefs : ℕ
  failures : List String
  downgradedTo : Option Severity

inductive ChairDisposition where
  | blocking
  | nonBlockingTracked
  | refuted
  | deferredPostResults
  deriving DecidableEq, Repr

structure FalsificationItem where
  findingDigest : String
  roleId : String
  severity : Severity
  testStatement : String
  requiredEvidence : List String
  owner : String
  disposition : ChairDisposition
  gate : String
  deriving DecidableEq

structure Override where
  findingDigest : Text
  signer : Text
  signerRole : Text
  rationale : String
  signature : Text
  acceptedRisk : Text
  substantive : 40 ≤ (stripChars rationale.toList).length

inductive Verdict where
  | launchBlocked
  | launchBlockedByConflict
  | noBlockingFindings
  deriving DecidableEq, Repr

structure ReadinessDisposition where
  campaignId : String
  stage : String
  verdict : Verdict
  inputsDigest : String
  blockingFindingDigests : List String
  overriddenFindingDigests : List String

structure ReviewerRole where
  roleId : String
  stage : String
  requiredInputs : List String
  conflictGroup : String

def roles : List ReviewerRole :=
  [⟨"R01-novelty","reviewers",["manuscript","design","bibliography","citation_queue"],"claims"⟩,
    ⟨"R02-identification","reviewers",["design","manuscript"],"inference"⟩,
    ⟨"R03-statistics","reviewers",["design","power_report","manuscript"],"inference"⟩,
    ⟨"R04-blinding","reviewers",["design","artifact_root","manifest"],"integrity"⟩,
    ⟨"R05-benchmarks","reviewers",["design","input_lock","manifest"],"environment"⟩,
    ⟨"R06-infrastructure","reviewers",["design","artifact_root","environment"],"integrity"⟩,
    ⟨"R07-feasibility","reviewers",["design","spend_ledger","environment"],"operations"⟩,
    ⟨"R08-reproducibility","reviewers",["manuscript","artifact_root","environment","repo_commit"],"operations"⟩,
    ⟨"R09-manuscript","reviewers",["manuscript","design"],"claims"⟩,
    ⟨"R10-compliance","reviewers",["manuscript","venue_policy"],"claims"⟩,
    ⟨"R11-editor","synthesis",["reviewer_reports","manuscript","design"],"synthesis"⟩,
    ⟨"R12-chair","synthesis",["reviewer_reports","editor_synthesis"],"synthesis"⟩]

def roleById (roleId : String) : Option ReviewerRole := roles.find? fun role => role.roleId = roleId

def reviewerRoleIds : List String := (roles.filter fun role => role.stage = "reviewers").map ReviewerRole.roleId

end PneumaLab.AdversarialReview
