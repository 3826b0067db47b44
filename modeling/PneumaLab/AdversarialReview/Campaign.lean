import PneumaLab.AdversarialReview.Records
import PneumaLab.Library.JsonLines
import PneumaLab.Library.TextFile
import Mathlib.Data.List.Dedup

namespace PneumaLab.AdversarialReview

structure InputObject where
  slot : String
  path : String
  declaredDigest : String
  optional : Bool

inductive Located where
  | escapes
  | absent
  | file (raw : Bytes)
  | tree (digest : String)

structure CampaignInputs where
  stage : String
  digest : String
  objects : List InputObject
  receiptIndex : String → Option String
  externalSources : List String
  resolve : String → Located

structure Runtime extends Quoting where
  digestBytes : Bytes → String
  digestValue : Json → String
  isDecimal : Char → Bool

section Verification
variable (runtime : Runtime) (inputs : CampaignInputs)

def Finding.digest (finding : Finding) : String := runtime.digestValue finding.toCanonical

-- A pattern that ends in $ also matches before one closing newline.
def matchesWhole (body : List Char → Bool) (text : List Char) : Bool :=
  body text || (decide (text.getLast? = some '\n') && body text.dropLast)

def arxivDigits (text : List Char) : Bool :=
  let version := text.dropWhile runtime.isDecimal
  decide ((text.takeWhile runtime.isDecimal).length ∈ [4,5]) &&
    (decide (version = []) || (decide (version.head? = some 'v' ∧ 2 ≤ version.length) && version.tail.all runtime.isDecimal))

def isArxiv (locator : String) : Bool :=
  matchesWhole (fun text =>
    let after := text.drop 6
    decide ("arXiv:".toList <+: text) && (after.take 4).all runtime.isDecimal && decide (after[4]? = some '.') &&
      arxivDigits runtime (after.drop 5)) locator.toList

def isDoi (locator : String) : Bool :=
  matchesWhole (fun text =>
    let registrant := (text.drop 3).takeWhile runtime.isDecimal
    let suffix := (text.drop 3).dropWhile runtime.isDecimal
    decide ("10.".toList <+: text) && decide (4 ≤ registrant.length ∧ registrant.length ≤ 9) &&
      decide (suffix.head? = some '/' ∧ 2 ≤ suffix.length) && suffix.tail.all fun c => !isSpace c) locator.toList

def isUrl (locator : String) : Bool :=
  matchesWhole (fun text =>
    decide ("https://".toList <+: text ∧ 8 < text.length) && (text.drop 8).all fun c => !isSpace c) locator.toList

def verifySpan (ref : EvidenceRef) : List String :=
  let subject := ref.kind.text ++ " evidence "
  let quoted := runtime.repr ref.locator
  match inputs.resolve ref.locator with
  | .escapes => [subject ++ "path " ++ quoted ++ " does not resolve inside the campaign root"]
  | .absent | .tree _ => [subject ++ "path " ++ quoted ++ " is not a file"]
  | .file raw =>
    match readText raw with
    | none => [subject ++ "path " ++ quoted ++ " is not UTF-8 text"]
    | some text =>
      let lines := Json.splitLines text.toList
      let start := ref.startLine.getD 0
      let «end» := if ref.endLine.getD 0 = 0 then start else ref.endLine.getD 0
      let range := toString start ++ "-" ++ toString «end»
      if start < 1 ∨ lines.length < «end» then
        [subject ++ "cites lines " ++ range ++ " of " ++ quoted ++ ", which has " ++ toString lines.length ++ " lines"]
      else
        let window := List.intercalate ['\n'] ((lines.take «end».toNat).drop (start - 1).toNat)
        let quote := ref.quoted.getD ""
        if quote ≠ "" ∧ ¬ stripChars quote.toList <:+: window then
          [subject ++ "quotes text absent from " ++ ref.locator ++ ":" ++ range]
        else []

def verifyArtifact (ref : EvidenceRef) : List String :=
  let subject := "artifact " ++ runtime.repr ref.locator
  match inputs.resolve ref.locator with
  | .file raw =>
    match ref.expectedDigest with
    | none => ["artifact_digest evidence must cite the expected sha256"]
    | some expected =>
      let actual := runtime.digestBytes raw
      if actual = expected then [] else [subject ++ " digest mismatch: cited " ++ expected ++ ", observed " ++ actual]
  | _ => [subject ++ " does not resolve to a file in the campaign root"]

def verifyEvidence (ref : EvidenceRef) : List String :=
  let quoted := runtime.repr ref.locator
  match ref.kind with
  | .repoLine | .manuscriptSpan => verifySpan runtime inputs ref
  | .receipt =>
    match inputs.receiptIndex ref.locator with
    | none => ["receipt " ++ quoted ++ " is not in the campaign receipt index"]
    | some expected =>
      if ref.expectedDigest.any (· ≠ expected) then
        ["receipt " ++ quoted ++ " digest mismatch: cited " ++ ref.expectedDigest.getD "" ++ ", index holds " ++ expected]
      else []
  | .artifactDigest => verifyArtifact runtime inputs ref
  | .externalSource =>
    if isArxiv runtime ref.locator || isDoi runtime ref.locator || isUrl ref.locator then
      if ref.locator.val ∈ inputs.externalSources then []
      else ["external source " ++ quoted ++ " is not in the campaign's declared source list; " ++
        "a reviewer may not introduce an unregistered source"]
    else ["external source " ++ quoted ++ " is not a DOI, arXiv id, or https URL"]
  -- The constructor already refused a blank locator and a blank detail.
  | .command => []

def verifyFinding (finding : Finding) : VerificationOutcome :=
  let cited := finding.evidence.zipIdx.flatMap fun (ref,index) =>
    (verifyEvidence runtime inputs ref).map fun message => "evidence[" ++ toString index ++ "]: " ++ message
  let severity := "severity " ++ runtime.repr finding.severity.text
  let ungrounded :=
    if finding.severity.requiresEvidence && finding.evidence.isEmpty then
      [severity ++ " requires at least one evidence reference"]
    else []
  let unrefutable :=
    if finding.severity.requiresEvidence && !hasText finding.whatWouldRefute then
      [severity ++ " requires a stated refutation condition"]
    else []
  let failures := cited ++ ungrounded ++ unrefutable
  ⟨finding.digest runtime,failures.isEmpty,finding.evidence.length,failures,
    if failures.isEmpty then none else some .speculation⟩

def applyOutcome (finding : Finding) (outcome : VerificationOutcome) : Finding :=
  match outcome.admissible,outcome.downgradedTo with
  | false,some severity =>
    let note := " [DOWNGRADED from " ++ finding.severity.text ++ " to " ++ severity.text ++ ": " ++
      "; ".intercalate outcome.failures ++ "]"
    {finding with severity,statement := finding.statement.append note,confidence := "unverified"}
  | _,_ => finding

def verifyAll (findings : List Finding) : List Finding × List VerificationOutcome :=
  let outcomes := findings.map (verifyFinding runtime inputs)
  (List.zipWith applyOutcome findings outcomes,outcomes)

def duplicateFindingIds (findings : List Finding) : List String :=
  let ids := findings.map fun finding => finding.findingId.val
  (ids.filter fun id => 1 < ids.count id).dedup.insertionSort (· ≤ ·)

end Verification

section Chair

def roleGates : List (String × String) :=
  [("R01-novelty","pre_submission"),("R02-identification","pre_launch"),("R03-statistics","pre_launch"),
    ("R04-blinding","pre_execution"),("R05-benchmarks","pre_launch"),("R06-infrastructure","pre_execution"),
    ("R07-feasibility","pre_execution"),("R08-reproducibility","pre_submission"),("R09-manuscript","pre_submission"),
    ("R10-compliance","pre_submission")]

def roleOwners : List (String × String) :=
  [("R01-novelty","manuscript-owner"),("R02-identification","design-owner"),("R03-statistics","analysis-owner"),
    ("R04-blinding","controller-owner"),("R05-benchmarks","roster-owner"),("R06-infrastructure","execution-owner"),
    ("R07-feasibility","operations-owner"),("R08-reproducibility","release-owner"),
    ("R09-manuscript","manuscript-owner"),("R10-compliance","submission-owner")]

def dispositionOf (finding : Finding) : ChairDisposition :=
  match finding.severity with
  | .blocker => .blocking
  | _ => .nonBlockingTracked

def testStatement (finding : Finding) : String :=
  let refutation := strip finding.whatWouldRefute
  if refutation = "" then
    "UNDER-SPECIFIED: " ++ finding.title ++ ". The finding states no condition " ++
      "that would discharge it, so it cannot be converted into a test. " ++
      "The reviewer must supply a refutation condition or the finding " ++
      "remains recorded without a falsification path."
  else
    "Test: " ++ refutation ++ " PASS means the finding is discharged and the claim survives. " ++
      "FAIL means the stated failure mode stands: " ++ finding.failureMode

def requiredEvidence (finding : Finding) : List String :=
  let cited := finding.evidence.map fun ref =>
    let start := ref.startLine.getD 0
    let «end» := if ref.endLine.getD 0 = 0 then start else ref.endLine.getD 0
    ref.kind.text ++ ":" ++ ref.locator ++ if start = 0 then "" else ":" ++ toString start ++ "-" ++ toString «end»
  let required := cited ++ finding.reproduction.map fun command => "command:" ++ command
  if required.isEmpty then ["NONE CITED — the chair cannot state required evidence for an ungrounded finding"] else required

-- What the wording must contain for a finding to wait for measured outcomes. No character outside ASCII lowers to a
-- letter of these words without a mark behind it.
def resultWords : List String :=
  ["observed effect","measured effect","reported estimate","post-unblind","the results show"]

def needsResults (finding : Finding) : Bool :=
  let haystack := lowerAscii (finding.statement ++ " " ++ finding.whatWouldRefute ++ " " ++ finding.failureMode)
  resultWords.any fun word => decide (word.toList <:+: haystack)

variable (runtime : Runtime)

def itemOf (resultsExist : Bool) (finding : Finding) : FalsificationItem :=
  let deferred := !resultsExist && needsResults finding
  { findingDigest := finding.digest runtime
    roleId := finding.roleId
    severity := finding.severity
    testStatement := testStatement finding
    requiredEvidence := requiredEvidence finding
    owner := (roleOwners.lookup finding.roleId.val).getD "design-owner"
    disposition := if deferred then .deferredPostResults else dispositionOf finding
    gate := if deferred then "pre_submission" else (roleGates.lookup finding.roleId.val).getD "pre_launch" }

def itemBefore (left right : FalsificationItem) : Bool :=
  decide (left.gate < right.gate ∨ left.gate = right.gate ∧ (left.severity.text < right.severity.text ∨
    left.severity.text = right.severity.text ∧ left.findingDigest ≤ right.findingDigest))

def convert (resultsExist : Bool) (findings : List Finding) : List FalsificationItem :=
  ((findings.filter fun finding => finding.severity ≠ .speculation).map (itemOf runtime resultsExist)).insertionSort
    fun left right => itemBefore left right

end Chair

section Conflicts

structure ConflictFinding where
  kind : String
  roleIds : List String
  blocking : Bool
  deriving DecidableEq

def sharedContext (reports : List ReviewerReport) : List ConflictFinding :=
  let promptOf (report : ReviewerReport) := report.receipt.map SubprocessReceipt.promptDigest
  (reports.filterMap promptOf).dedup.filterMap fun promptDigest =>
    let roleIds := (reports.filter fun report => promptOf report = some promptDigest).map ReviewerReport.roleId
    let groups := (roleIds.filterMap fun roleId => (roleById roleId).map ReviewerRole.conflictGroup).dedup
    if roleIds.length < 2 then none
    else some ⟨"shared_context",roleIds.insertionSort (· ≤ ·),decide (groups.length = 1)⟩

def declaredDependencies (reports : List ReviewerReport) : List ConflictFinding :=
  (reports.filter fun report => report.roleId ∈ reviewerRoleIds).flatMap fun report =>
    (report.declaredDependencies.filter fun peer => peer ∈ reviewerRoleIds ∧ peer ≠ report.roleId).map fun peer =>
      ⟨"declared_dependency",[report.roleId,peer],true⟩

def crossRoleCitations (reports : List ReviewerReport) : List ConflictFinding :=
  (reports.filter fun report => report.roleId ∈ reviewerRoleIds).flatMap fun report =>
    report.findings.flatMap fun finding => finding.evidence.flatMap fun ref =>
      (reviewerRoleIds.filter fun peer => peer ≠ report.roleId ∧ hasInfix ref.locator peer = true).map fun peer =>
        ⟨"cross_role_citation",[report.roleId,peer],true⟩

def detectConflicts (reports : List ReviewerReport) : List ConflictFinding :=
  sharedContext reports ++ declaredDependencies reports ++ crossRoleCitations reports

def blockingConflicts (conflicts : List ConflictFinding) : List ConflictFinding := conflicts.filter ConflictFinding.blocking

end Conflicts

section Editor
variable (runtime : Runtime)

def findingBefore (left right : Finding) : Bool :=
  let claims (finding : Finding) := finding.claimIds.dedup.length
  decide (left.severity.rank < right.severity.rank ∨ left.severity.rank = right.severity.rank ∧
    (claims right < claims left ∨ claims left = claims right ∧
      (right.evidence.length < left.evidence.length ∨ left.evidence.length = right.evidence.length ∧
        left.digest runtime ≤ right.digest runtime)))

def collectFindings (reports : List ReviewerReport) : List Finding :=
  (reports.flatMap ReviewerReport.findings).insertionSort fun left right => findingBefore runtime left right

def sufficientRejectionSet (findings : List Finding) : List String :=
  let blockers := findings.filter fun finding => finding.severity = .blocker
  let majors := findings.filter fun finding => finding.severity = .major
  if blockers ≠ [] then blockers.map (Finding.digest runtime)
  else if majorQuorum ≤ majors.length then (majors.take majorQuorum).map (Finding.digest runtime)
  else []

end Editor

section Disposition

def validateOverrides (known : List String) : List String → List Override → Py Unit
  | _, [] => return ()
  | seen, override :: rest => do
    let named := override.findingDigest.val
    demand (named ∈ known) (.overrideContractError ("override targets unknown finding " ++ String.ofList (named.toList.take 16) ++
      "...; an override may only attach to a recorded finding"))
    demand (named ∉ seen) (.overrideContractError ("duplicate override for finding " ++ String.ofList (named.toList.take 16) ++ "..."))
    validateOverrides known (named :: seen) rest

structure Rulings where
  overrides : List Override
  discharged : String → Option String

def Rulings.clears (rulings : Rulings) (findingDigest : String) : Bool :=
  (rulings.discharged findingDigest).any (fun receiptId => decide (receiptId ≠ "")) ||
    decide (findingDigest ∈ rulings.overrides.map fun override => override.findingDigest.val)

def blockingOf (rulings : Rulings) (items : List FalsificationItem) : List FalsificationItem :=
  items.filter fun item => decide (item.disposition = .blocking) && !rulings.clears item.findingDigest

def standingMajors (rulings : Rulings) (items : List FalsificationItem) : List FalsificationItem :=
  items.filter fun item => decide (item.severity = .major) && !rulings.clears item.findingDigest

def decideReadiness (campaignId stage inputsDigest : String) (items : List FalsificationItem)
    (conflicts : List ConflictFinding) (rulings : Rulings) : Py ReadinessDisposition := do
  validateOverrides (items.map FalsificationItem.findingDigest) [] rulings.overrides
  let blocking := blockingOf rulings items
  let majors := standingMajors rulings items
  let verdict :=
    if blockingConflicts conflicts ≠ [] then .launchBlockedByConflict
    else if blocking ≠ [] ∨ majorQuorum ≤ majors.length then .launchBlocked
    else .noBlockingFindings
  let named := if blocking = [] ∧ majorQuorum ≤ majors.length then majors.take majorQuorum else blocking
  return ⟨campaignId,stage,verdict,inputsDigest,(named.map FalsificationItem.findingDigest).insertionSort (· ≤ ·),
    (rulings.overrides.map fun override => override.findingDigest.val).insertionSort (· ≤ ·)⟩

end Disposition

section Campaign

structure Proposal where
  roleId : String
  findings : List ProposedFinding
  declaredDependencies : List String

-- The k-th run of the proposal source, which may raise.
abbrev ProposalSource := ℕ → ReviewerRole → Py (Proposal × SubprocessReceipt)

structure Campaign where
  campaignId : String
  stage : String
  inputs : CampaignInputs
  source : ProposalSource
  roleIds : List String
  rulings : Rulings

structure CampaignResult where
  campaignId : String
  stage : String
  inputsDigest : String
  reports : List ReviewerReport
  verifications : List VerificationOutcome
  conflicts : List ConflictFinding
  falsification : List FalsificationItem
  disposition : ReadinessDisposition

variable (runtime : Runtime)

def stages : List String := ["stage_1_pre_launch","stage_2_pre_submission"]

def preflight (inputs : CampaignInputs) (requiredSlots : List String) : Py Unit := do
  let missing := (requiredSlots.dedup.filter fun slot => slot ∉ inputs.objects.map InputObject.slot).insertionSort (· ≤ ·)
  demand missing.isEmpty (.inputContractError ("campaign is missing required input slots: " ++ ", ".intercalate missing))
  inputs.objects.forM fun item => do
    let subject := "input " ++ runtime.repr item.slot
    let observed (actual : String) : Py Unit := demand (actual = item.declaredDigest) (.staleInputError
      (subject ++ " at " ++ runtime.repr item.path ++ " is stale: declared " ++ item.declaredDigest ++ ", observed " ++ actual))
    match inputs.resolve item.path with
    | .escapes => .error (.inputContractError (subject ++ " path " ++ runtime.repr item.path ++ " escapes the campaign root"))
    | .absent => demand item.optional (.inputContractError (subject ++ " path " ++ runtime.repr item.path ++ " does not exist"))
    | .file raw => observed (runtime.digestBytes raw)
    | .tree digest => observed digest

def parseProposal (role : ReviewerRole) (proposal : Proposal) (receipt : SubprocessReceipt) : Py ReviewerReport := do
  demand (proposal.roleId = role.roleId) (.inputContractError ("proposal claims role " ++ runtime.repr proposal.roleId ++
    " but was produced for " ++ runtime.repr role.roleId))
  let findings ← proposal.findings.mapM (Finding.fromMapping runtime.toQuoting role.roleId)
  return ⟨role.roleId,findings,proposal.declaredDependencies,some receipt⟩

def propose (source : ProposalSource) (turn : String × ℕ) : Py ReviewerReport := do
  let role ← required (.keyError turn.1) (roleById turn.1)
  let (proposal,receipt) ← source turn.2 role
  parseProposal runtime role proposal receipt

def record (inputs : CampaignInputs) (proposed : ReviewerReport) : Py (ReviewerReport × List VerificationOutcome) := do
  let (recorded,outcomes) := verifyAll runtime inputs proposed.findings
  let duplicates := duplicateFindingIds recorded
  demand duplicates.isEmpty (.inputContractError ("role " ++ proposed.roleId ++ " emitted duplicate finding ids: " ++
    runtime.reprTexts duplicates))
  return ({proposed with findings := recorded},outcomes)

def Campaign.turns (campaign : Campaign) : List (String × ℕ) := (campaign.roleIds.insertionSort (· ≤ ·)).zipIdx

def runCampaign (campaign : Campaign) : Py CampaignResult := do
  let inputs := campaign.inputs
  demand (campaign.stage ∈ stages) (.inputContractError ("unknown campaign stage " ++ runtime.repr campaign.stage))
  demand (inputs.stage = campaign.stage) (.inputContractError ("input bundle declares stage " ++ runtime.repr inputs.stage ++
    " but campaign is " ++ runtime.repr campaign.stage))
  let unknown := campaign.roleIds.filter fun roleId => (roleById roleId).isNone
  demand unknown.isEmpty (.inputContractError ("unknown reviewer roles: " ++ runtime.reprTexts (unknown.insertionSort (· ≤ ·))))
  preflight runtime inputs ((campaign.roleIds.filterMap roleById).flatMap ReviewerRole.requiredInputs)
  let reviewed ← campaign.turns.mapM fun turn => do
    let proposed ← propose runtime campaign.source turn
    record runtime inputs proposed
  let reports := (reviewed.map Prod.fst).insertionSort fun left right => left.roleId ≤ right.roleId
  let conflicts := detectConflicts reports
  let items := convert runtime (campaign.stage = "stage_2_pre_submission") (reports.flatMap ReviewerReport.findings)
  let disposition ← decideReadiness campaign.campaignId campaign.stage inputs.digest items conflicts campaign.rulings
  return ⟨campaign.campaignId,campaign.stage,inputs.digest,reports,reviewed.flatMap Prod.snd,conflicts,items,disposition⟩

end Campaign

end PneumaLab.AdversarialReview
