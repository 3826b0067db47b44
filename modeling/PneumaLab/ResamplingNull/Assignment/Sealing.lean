import PneumaLab.ResamplingNull.Assignment.PublishedProof

namespace PneumaLab.ResamplingNull

def GroupKind.ofValue (field : String) : Option GroupKind :=
  [GroupKind.language,.domain,.issueFamily].find? fun kind => kind.value = field

def TriggerReason.value : TriggerReason → String
  | .firstEligibleMutation => "first_eligible_mutation"
  | .fourthToolCall => "fourth_tool_call"
  | .noInterventionOpportunity => "no_intervention_opportunity"

structure AssignmentAuthority where
  studyId : String
  manifestRef : ArtifactRef
  scheduleRef : ArtifactRef
  prefixIndexRef : ArtifactRef

def loadAssignmentAuthority (root : RunRoot) (scheduleRef prefixIndexRef : ArtifactRef) :
    Py AssignmentAuthority := do
  let schedule ← root.schedule scheduleRef
  let manifest ← root.manifest schedule.manifestRef
  let receipts ← root.prefixIndex prefixIndexRef
  demand (receipts.scheduleRef = scheduleRef)
    (.recordValidationError "prefix index does not descend from schedule_ref")
  demand (schedule.studyId = manifest.studyId && receipts.studyId = manifest.studyId)
    (.recordValidationError "assignment authority has inconsistent study_id")
  return ⟨schedule.studyId,schedule.manifestRef,scheduleRef,prefixIndexRef⟩

structure AssignmentInputs extends AssignmentAuthority where
  matchingProgramRef : ArtifactRef
  commitmentSha256 : String
  stratumFields : List String
  schedule : SchedulePayload
  taskReceipts : List PrefixReceipt
  master : Bytes

def loadInputs (root : RunRoot) (scheduleRef prefixIndexRef : ArtifactRef) (master : Bytes) :
    Py AssignmentInputs := do
  let authority ← loadAssignmentAuthority root scheduleRef prefixIndexRef
  let manifest ← root.manifest authority.manifestRef
  let schedule ← root.schedule scheduleRef
  let receipts ← root.prefixIndex prefixIndexRef
  let stratumFields ← root.stratumKeys manifest.assignmentProgramRef
  return {
    toAssignmentAuthority := authority
    matchingProgramRef := manifest.assignmentProgramRef
    commitmentSha256 := manifest.assignmentMasterKeyCommitmentSha256
    stratumFields := stratumFields
    schedule := schedule
    taskReceipts := receipts.taskReceipts
    master := master }

def prefixTaskView (scheduleSha256 : String) (row : TaskSchedule) (receipt : PrefixReceipt) :
    Py AssignmentPrefixTaskView := do
  demand (receipt.taskId = row.task.taskId && receipt.scheduleSha256 = scheduleSha256)
    (.recordValidationError "prefix task ancestry differs from schedule")
  return {
    task := row.task
    triggerReason := receipt.triggerReason
    verifierComponentClass := receipt.verifierComponentClass
    objectiveFindingCount := receipt.objectiveFindingCount
    normalizedReportTokenCount := receipt.normalizedReportTokenCount
    telecomIssueFamily := (row.task.sensitivityGroups.find? fun group => group.kind = .issueFamily).map
      GroupLabel.value
    class_nonempty := receipt.class_nonempty }

def taskViewJson (view : AssignmentPrefixTaskView) : Json := .obj [
  ("benchmark",.str view.task.benchmark),
  ("lineage",.str view.lineage),
  ("normalized_report_token_count",.int view.normalizedReportTokenCount),
  ("objective_finding_count",.int view.objectiveFindingCount),
  ("sensitivity_groups",.arr (view.task.sensitivityGroups.map fun group =>
    .obj [("kind",.str group.kind.value),("value",.str group.value)])),
  ("stratum",.str view.task.stratum),
  ("task_id",.str view.taskId),
  ("telecom_issue_family",(view.telecomIssueFamily.map Json.str).getD .null),
  ("trigger_reason",.str view.triggerReason.value),
  ("verifier_component_class",.str view.verifierComponentClass)]

def prefixViewJson (studyId scheduleSha256 : String) (views : List AssignmentPrefixTaskView) : Json := .obj [
  ("schedule_sha256",.str scheduleSha256),
  ("study_id",.str studyId),
  ("tasks",.arr (views.map taskViewJson))]

def stratumComponent (view : AssignmentPrefixTaskView) (field : String) : Py String :=
  if field = "benchmark" then .ok view.task.benchmark
  else if field = "stratum" then .ok view.task.stratum
  else if field = "lineage" then .ok view.lineage
  else if field = "verifier_component_class" then .ok view.verifierComponentClass
  else match GroupKind.ofValue field with
    | none => .error (.recordValidationError "synthetic stratum field is unsupported")
    | some kind =>
      match (view.task.sensitivityGroups.filter fun group => group.kind = kind).map GroupLabel.value with
      | [value] => .ok value
      | _ => .error (.recordValidationError "task lacks one stratum label")

abbrev Keyed := List (AssignmentPrefixTaskView × List String)

def stratumKeyed (fields : List String) (views : List AssignmentPrefixTaskView) : Py Keyed :=
  (views.filter fun view => view.triggerReason ≠ .noInterventionOpportunity).mapM fun view => do
    return (view,← fields.mapM (stratumComponent view))

def sortedStrata (keyed : Keyed) : List (List String) :=
  (keyed.map Prod.snd).dedup.insertionSort fun left right => left ≤ right

def stratumTasks (keyed : Keyed) (key : List String) : List AssignmentPrefixTaskView :=
  (keyed.filter fun row => row.2 = key).map Prod.fst

def stratumByTask (keyed : Keyed) : List (String × List String) := keyed.map fun row => (row.1.taskId,row.2)

def viewById (views : List AssignmentPrefixTaskView) (taskId : String) : Py AssignmentPrefixTaskView :=
  required (.keyError taskId) (views.find? fun view => view.taskId = taskId)

structure StrataState where
  proofRefs : List ArtifactRef
  donors : List (String × AssignmentPrefixTaskView)
  proofByTask : List (String × ArtifactRef)

def StrataState.add (state : StrataState) (tasks : List AssignmentPrefixTaskView) (ref : ArtifactRef)
    (selected : List (String × AssignmentPrefixTaskView)) : StrataState :=
  ⟨state.proofRefs ++ [ref],state.donors ++ selected,
    state.proofByTask ++ tasks.map fun task => (task.taskId,ref)⟩

def primaryCost (focal donor : AssignmentPrefixTaskView) : List ℤ :=
  [0,((focal.objectiveFindingCount : ℤ) - donor.objectiveFindingCount).natAbs,
    ((focal.normalizedReportTokenCount : ℤ) - donor.normalizedReportTokenCount).natAbs]

def matchedReceipt (view donor : AssignmentPrefixTaskView) (stratumKey : List String) (viewSha256 : String)
    (candidates : List DonorCandidateReceipt) (chosen : DonorCandidateReceipt) (ref : ArtifactRef) :
    MatchedDonorReceipt where
  taskId := view.taskId
  donorTaskId := donor.taskId
  taskLineage := view.lineage
  donorLineage := donor.lineage
  assignmentMode := .syntheticDerangement
  matchingAlgorithm := .syntheticCyclicOffsetV1
  stratumKey := stratumKey
  assignmentPrefixViewSha256 := viewSha256
  candidates := candidates
  chosenPrimaryCost := chosen.primaryCost
  matchingProofRef := ref

structure SealedTask where
  assignment : TaskAssignment
  allocation : AllocationReceipt
  donorReceipt : DonorMatchReceipt

def SealedTask.capabilities (task : SealedTask) : List String := task.allocation.slotCapabilities.map Prod.snd

variable (platform : Platform)

def prefixViewSha256 (studyId scheduleSha256 : String) (views : List AssignmentPrefixTaskView) : Py String := do
  demand (studyId ≠ "") (.valueError "study_id must be non-empty")
  demand (isSha256 scheduleSha256) (.valueError "schedule_sha256 must be a lowercase SHA-256 digest")
  demand (!views.isEmpty) (.typeError "tasks must be a non-empty tuple")
  demand (decide (views.map AssignmentPrefixTaskView.taskId).Nodup)
    (.valueError "prefix-view task IDs must be unique")
  return (platform.sha256 (canonicalJsonBytes (prefixViewJson studyId scheduleSha256 views))).hex

def tieRow (donorKey : Digest) (focal donor : AssignmentPrefixTaskView) :
    Py (Digest × DonorCandidateReceipt) := do
  let frame ← kdfFrame platform "donor-tie-v1" [.text focal.taskId,.text donor.taskId]
  let tie := platform.hmac donorKey.bytes frame
  return (tie,⟨donor.taskId,donor.lineage,primaryCost focal donor,none,tie.hex⟩)

def tieBefore (left right : Digest × DonorCandidateReceipt) : Bool :=
  decide (left.1.bytes < right.1.bytes) ||
    (decide (left.1.bytes = right.1.bytes) && decide (left.2.donorTaskId ≤ right.2.donorTaskId))

def candidateReceipts (focal : AssignmentPrefixTaskView) (tasks : List AssignmentPrefixTaskView)
    (donorKey : Digest) : Py (List DonorCandidateReceipt) := do
  let rows ← (tasks.filter fun donor =>
    decide (donor.taskId ≠ focal.taskId) && decide (donor.lineage ≠ focal.lineage)).mapM
      (tieRow platform donorKey focal)
  demand (!rows.isEmpty) (.recordValidationError "triggered task has no eligible donor")
  return (rows.insertionSort fun left right => tieBefore left right).map Prod.snd

def readCommitted (inputs : AssignmentInputs) : Py AssignmentKeys := do
  demand ((← commitmentSha256 platform "assignment-master-key" inputs.studyId inputs.master) =
    inputs.commitmentSha256) (.recordValidationError "assignment master key does not match commitment")
  deriveAssignmentSubkeys platform inputs.master inputs.studyId inputs.manifestRef inputs.scheduleRef

def writeFile (files : Files) (path : String) (payload : Bytes) : Files := fun other =>
  if other = path then some payload else files other

def installProof (files : Files) (fields : List (String × Json)) : Py (ArtifactRef × Files) := do
  let ref := proofRef platform fields
  match files ref.relativePath with
  | some payload => do
    demand (payload = proofBytes fields) (.recordValidationError "matching proof CAS bytes differ")
    return (ref,files)
  | none => return (ref,writeFile files ref.relativePath (proofBytes fields))

def sealStratum (programSha256 viewSha256 : String) (donorKey : Digest) (keyed : Keyed)
    (state : Files × StrataState) (key : List String) : Py (Files × StrataState) := do
  let tasks := stratumTasks keyed key
  let (proof,selected) ← solveSyntheticStratum platform tasks key viewSha256 programSha256 donorKey
  let (ref,files) ← installProof platform state.1 proof
  return (files,state.2.add tasks ref selected)

def sealTask (inputs : AssignmentInputs) (viewSha256 : String) (keys : AssignmentKeys) (keyed : Keyed)
    (views : List AssignmentPrefixTaskView) (strata : StrataState) (row : TaskSchedule)
    (view : AssignmentPrefixTaskView) : Py SealedTask := do
  let donor := strata.donors.lookup view.taskId
  demand (decide (view.triggerReason = .noInterventionOpportunity) = donor.isNone)
    (.recordValidationError "trigger state and donor assignment differ")
  let (assignment,allocation) ← allocateTask platform inputs.studyId inputs.manifestRef.sha256
    inputs.scheduleRef.sha256 inputs.prefixIndexRef.sha256 row donor keys
  match donor with
  | none => return ⟨assignment,allocation,
      .noTrigger ⟨view.taskId,.noInterventionOpportunity,viewSha256⟩⟩
  | some donor => do
    let byTask := stratumByTask keyed
    let key ← required (.keyError view.taskId) (byTask.lookup view.taskId)
    let tasks ← (byTask.filter fun other => other.2 = key).mapM fun other => viewById views other.1
    let candidates ← candidateReceipts platform view tasks keys.donor
    let chosen ← required .stopIteration
      (candidates.find? fun candidate => candidate.donorTaskId = donor.taskId)
    let ref ← required (.keyError view.taskId) (strata.proofByTask.lookup view.taskId)
    return ⟨assignment,allocation,.matched (matchedReceipt view donor key viewSha256 candidates chosen ref)⟩

def sealTasks (inputs : AssignmentInputs) (viewSha256 : String) (keys : AssignmentKeys) (keyed : Keyed)
    (views : List AssignmentPrefixTaskView) (strata : StrataState) :
    List String → List (TaskSchedule × AssignmentPrefixTaskView) → Py (List SealedTask)
  | _, [] => .ok []
  | seen, (row,view) :: rest => do
    let task ← sealTask platform inputs viewSha256 keys keyed views strata row view
    demand (task.capabilities.all fun capability => decide (capability ∉ seen))
      (.recordValidationError "slot capabilities are not globally unique")
    return task :: (← sealTasks inputs viewSha256 keys keyed views strata (seen ++ task.capabilities) rest)

def ledgerPayload (inputs : AssignmentInputs) (viewSha256 : String) (strata : StrataState)
    (tasks : List SealedTask) : LedgerPayload where
  manifestRef := inputs.manifestRef
  scheduleRef := inputs.scheduleRef
  prefixIndexRef := inputs.prefixIndexRef
  matchingProgramRef := inputs.matchingProgramRef
  assignmentMasterKeyCommitmentSha256 := inputs.commitmentSha256
  assignmentPrefixViewSha256 := viewSha256
  assignmentMode := .syntheticDerangement
  matchingProofRefs := strata.proofRefs
  assignments := tasks.map SealedTask.assignment
  allocationReceipts := tasks.map SealedTask.allocation
  donorMatchReceipts := tasks.map SealedTask.donorReceipt

def prepareViews (inputs : AssignmentInputs) : Py (List AssignmentPrefixTaskView) := do
  demand (inputs.taskReceipts.map PrefixReceipt.taskId = inputs.schedule.tasks.map fun row => row.task.taskId)
    (.recordValidationError "prefix task order/coverage differs from schedule")
  (inputs.schedule.tasks.zip inputs.taskReceipts).mapM fun (row,receipt) =>
    prefixTaskView inputs.scheduleRef.sha256 row receipt

def prepare (inputs : AssignmentInputs) (files : Files) : Py (LedgerPayload × Files) := do
  demand (!inputs.stratumFields.isEmpty && inputs.stratumFields.all fun field => field ≠ "")
    (.recordValidationError "synthetic assignment stratum keys are malformed")
  let views ← prepareViews inputs
  let viewSha256 ← prefixViewSha256 platform inputs.studyId inputs.scheduleRef.sha256 views
  let keys ← readCommitted platform inputs
  let keyed ← stratumKeyed inputs.stratumFields views
  let (files,strata) ← (sortedStrata keyed).foldlM
    (sealStratum platform inputs.matchingProgramRef.sha256 viewSha256 keys.donor keyed) (files,⟨[],[],[]⟩)
  let tasks ← sealTasks platform inputs viewSha256 keys keyed views strata [] (inputs.schedule.tasks.zip views)
  return (ledgerPayload inputs viewSha256 strata tasks,files)

def sealBranchAssignment (root : RunRoot) (scheduleRef prefixIndexRef : ArtifactRef) (master : Bytes) :
    Py (LedgerPayload × Files) := do
  let inputs ← loadInputs root scheduleRef prefixIndexRef master
  prepare platform inputs root.files

end PneumaLab.ResamplingNull
