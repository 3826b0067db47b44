import PneumaLab.ResamplingNull.Assignment.Derivation

namespace PneumaLab.ResamplingNull

inductive OffsetFailure where
  | sameLineage
  | reciprocalTwoCycle
  deriving DecidableEq, Repr

def OffsetFailure.code : OffsetFailure → String
  | .sameLineage => "same_lineage"
  | .reciprocalTwoCycle => "reciprocal_two_cycle"

def cyclicDonor (cycle : List String) (offset : ℕ) (focal : String) : String :=
  cycle.getD ((cycle.idxOf focal + offset) % cycle.length) ""

def offsetFailure (lineage : String → String) (canonical cycle : List String) (offset : ℕ) :
    Option OffsetFailure :=
  canonical.findSome? fun focal =>
    let donor := cyclicDonor cycle offset focal
    if lineage focal = lineage donor then some .sameLineage
    else if cyclicDonor cycle offset donor = focal then some .reciprocalTwoCycle
    else none

def failureJson : Option OffsetFailure → Json
  | none => .null
  | some failure => .str failure.code

def trialRow (failure : Option OffsetFailure) (offset : ℕ) : Json :=
  .obj [("failure_code",failureJson failure),("offset",.int offset),("valid",.bool failure.isNone)]

def searchOffsets (failure : ℕ → Option OffsetFailure) : ℕ → ℕ → List Json × Option ℕ
  | 0, _ => ([],none)
  | remaining + 1, offset =>
    match failure offset with
    | none => ([trialRow none offset],some offset)
    | some code =>
      let found := searchOffsets failure remaining (offset + 1)
      (trialRow (some code) offset :: found.1,found.2)

structure CycleRow where
  orderHmacSha256 : String
  taskId : String
  deriving DecidableEq

def CycleRow.json (row : CycleRow) : Json :=
  .obj [("order_hmac_sha256",.str row.orderHmacSha256),("task_id",.str row.taskId)]

def proofObject (viewSha256 programSha256 : String) (canonical : List String) (cycle : List CycleRow)
    (trials : List Json) (offset : ℕ) (stratumKey : List String) : List (String × Json) := [
  ("assignment_prefix_view_sha256",.str viewSha256),
  ("assignment_program_sha256",.str programSha256),
  ("canonical_focal_task_ids",.arr (canonical.map .str)),
  ("cycle_order",.arr (cycle.map CycleRow.json)),
  ("donor_by_task",.arr (canonical.map fun focal =>
    .arr [.str focal,.str (cyclicDonor (cycle.map CycleRow.taskId) offset focal)])),
  ("invocation_receipt_refs",.arr []),
  ("offset_trials",.arr trials),
  ("proof_kind",.str "synthetic_cyclic_offset_v1"),
  ("schema_version",.str "1"),
  ("selected_offset",.int offset),
  ("stratum_key",.arr (stratumKey.map .str))]

def solveCycle (lineage : String → String) (canonical : List String) (cycle : List CycleRow)
    (stratumKey : List String) (viewSha256 programSha256 : String) :
    Py (List (String × Json) × ℕ) := do
  demand (3 ≤ (canonical.map lineage).dedup.length)
    (.recordValidationError "synthetic triggered stratum requires at least three lineages")
  match searchOffsets (offsetFailure lineage canonical (cycle.map CycleRow.taskId)) (cycle.length - 1) 1 with
  | (trials,some offset) =>
    return (proofObject viewSha256 programSha256 canonical cycle trials offset stratumKey,offset)
  | (_,none) => .error (.recordValidationError "synthetic stratum has no valid cyclic offset")

def lineageIn (tasks : List AssignmentPrefixTaskView) (taskId : String) : String :=
  ((tasks.find? fun task => task.taskId = taskId).map AssignmentPrefixTaskView.lineage).getD ""

def selectedDonors (ordered : List AssignmentPrefixTaskView) (offset : ℕ) :
    List (String × AssignmentPrefixTaskView) :=
  ordered.zipIdx.map fun (focal,index) =>
    (focal.taskId,ordered.getD ((index + offset) % ordered.length) focal)

def orderBefore (left right : Digest × AssignmentPrefixTaskView) : Bool :=
  decide (left.1.bytes < right.1.bytes) ||
    (decide (left.1.bytes = right.1.bytes) && decide (left.2.taskId ≤ right.2.taskId))

variable (platform : Platform)

def orderDigest (donorKey : Digest) (viewSha256 : String) (stratumKey : List String)
    (task : AssignmentPrefixTaskView) : Py (Digest × AssignmentPrefixTaskView) := do
  let frame ← kdfFrame platform "synthetic-order-v1"
    (.bytes (← fromHex viewSha256) :: (stratumKey.map .text ++ [.text task.taskId]))
  return (platform.hmac donorKey.bytes frame,task)

def solveSyntheticStratum (tasks : List AssignmentPrefixTaskView) (stratumKey : List String)
    (viewSha256 programSha256 : String) (donorKey : Digest) :
    Py (List (String × Json) × List (String × AssignmentPrefixTaskView)) := do
  demand (!stratumKey.isEmpty && stratumKey.all fun component => component ≠ "")
    (.valueError "stratum_key must be a non-empty strict-text tuple")
  demand (isSha256 viewSha256 && isSha256 programSha256)
    (.valueError "must be a lowercase SHA-256 digest")
  let triggered := tasks.filter fun task => task.triggerReason ≠ .noInterventionOpportunity
  let canonical := triggered.insertionSort fun left right => left.taskId ≤ right.taskId
  let keyed ← canonical.mapM (orderDigest platform donorKey viewSha256 stratumKey)
  let ordered := keyed.insertionSort fun left right => orderBefore left right
  let cycle := ordered.map fun row => ⟨row.1.hex,row.2.taskId⟩
  let (proof,offset) ← solveCycle (lineageIn triggered) (canonical.map AssignmentPrefixTaskView.taskId) cycle
    stratumKey viewSha256 programSha256
  return (proof,selectedDonors (ordered.map Prod.snd) offset)

def asText : Json → Option String
  | .str text => some text
  | _ => none

def asItems : Json → Option (List Json)
  | .arr items => some items
  | _ => none

def asTexts (value : Json) : Option (List String) := (asItems value).bind fun items => items.mapM asText

def nonEmptyTexts (value : Json) : Option (List String) :=
  (asTexts value).filter fun texts => decide (texts ≠ []) && decide ("" ∉ texts)

def positiveInt : Json → Option ℕ
  | .int value => if 1 ≤ value then some value.toNat else none
  | _ => none

def sameMembers {α : Type} [DecidableEq α] (left right : List α) : Bool :=
  left.all (fun x => decide (x ∈ right)) && right.all (fun x => decide (x ∈ left))

def proofKeys : List String :=
  ["assignment_prefix_view_sha256","assignment_program_sha256","canonical_focal_task_ids","cycle_order",
    "donor_by_task","invocation_receipt_refs","offset_trials","proof_kind","schema_version",
    "selected_offset","stratum_key"]

def proofPath (sha256 : String) : String := "blobs/matching/proof/" ++ sha256 ++ ".json"

def proofRole : String := "assignment_matching_proof"

def proofMediaType : String := "application/vnd.pneuma.assignment-matching-proof+json"

structure ProofGrammar where
  focalIds : List String
  donorRows : List Json
  cycleRows : List Json
  trials : List Json
  selectedOffset : ℕ
  stratumKey : List String

def proofGrammar (fields : List (String × Json)) : Option ProofGrammar := do
  let focalIds ← nonEmptyTexts (Json.get fields "canonical_focal_task_ids")
  let donorRows ← asItems (Json.get fields "donor_by_task")
  let cycleRows ← asItems (Json.get fields "cycle_order")
  let trials ← asItems (Json.get fields "offset_trials")
  let selectedOffset ← positiveInt (Json.get fields "selected_offset")
  let stratumKey ← nonEmptyTexts (Json.get fields "stratum_key")
  guard (focalIds.Nodup ∧ focalIds = focalIds.mergeSort (fun left right => left ≤ right) ∧
    donorRows.length = focalIds.length ∧ trials.length = selectedOffset)
  return ⟨focalIds,donorRows,cycleRows,trials,selectedOffset,stratumKey⟩

def donorRow (focal : String) : Json → Option (String × String)
  | .arr [.str left,.str right] => if left = focal then some (left,right) else none
  | _ => none

def donorMapping (focalIds : List String) (donorRows : List Json) : Option (List (String × String)) :=
  (focalIds.zip donorRows).mapM fun (focal,row) => donorRow focal row

def lineageOf (lineages : List (String × String)) (taskId : String) : Py String :=
  match lineages.lookup taskId with
  | some lineage => .ok lineage
  | none => .error (.keyError taskId)

def lineageAt (lineages : List (String × String)) (taskId : String) : String :=
  (lineages.lookup taskId).getD ""

def sharesLineage (lineages : List (String × String)) (row : String × String) : Py Bool := do
  return decide ((← lineageOf lineages row.1) = (← lineageOf lineages row.2))

def infeasibleMapping (lineages mapping : List (String × String)) (focalIds : List String) : Py Bool := do
  if !sameMembers (mapping.map Prod.fst) focalIds || !sameMembers (mapping.map Prod.snd) focalIds ||
      mapping.any (fun row => decide (row.1 = row.2)) then
    return true
  let shared ← mapping.anyM (sharesLineage lineages)
  return shared || mapping.any fun row => decide (mapping.lookup row.2 = some row.1)

def objectGet (key : String) : Json → Option Json
  | .obj fields => some (Json.get fields key)
  | _ => none

def hashable : Json → Bool
  | .arr _ => false
  | .obj _ => false
  | _ => true

def cycleTaskId : Json → Option String
  | .obj fields => do
    let taskId ← asText (Json.get fields "task_id")
    let digest ← asText (Json.get fields "order_hmac_sha256")
    guard (isSha256 digest)
    return taskId
  | _ => none

def cycleTaskIds (focalIds : List String) (cycleRows : List Json) : Py (List String) := do
  demand (cycleRows.length = focalIds.length)
    (.recordValidationError "synthetic proof cycle order is incomplete")
  let published := cycleRows.filterMap (objectGet "task_id")
  demand (published.all hashable) (.typeError "unhashable type")
  demand (sameMembers published (focalIds.map .str))
    (.recordValidationError "synthetic proof cycle order is incomplete")
  required (.recordValidationError "synthetic cycle row is malformed") (cycleRows.mapM cycleTaskId)

def offsetMapping (cycle : List String) (offset : ℕ) : List (String × String) :=
  cycle.zipIdx.map fun (focal,index) => (focal,cycle.getD ((index + offset) % cycle.length) "")

def sameDict (left right : List (String × String)) : Bool :=
  decide (left.length = right.length) && left.all fun row => decide (right.lookup row.1 = some row.2)

def expectedFailure (lineages trial : List (String × String)) (focalIds : List String) : Option String :=
  focalIds.findSome? fun focal =>
    let donor := (trial.lookup focal).getD ""
    if lineageAt lineages focal = lineageAt lineages donor then some "same_lineage"
    else if trial.lookup donor = some focal then some "reciprocal_two_cycle"
    else none

-- A list is shorter than 10 ** 16, below which repr writes an integral float as its digits and ".0".
def equalsIndex (index : ℕ) : Json → Bool
  | .int value => decide (value = index)
  | .bool value => value && decide (index = 1)
  | .float text => decide (text = String.ofList (Json.intText index ++ ['.','0']))
  | _ => false

def acceptsTrial (index : ℕ) (failure : Option String) : Json → Bool
  | .obj fields =>
    equalsIndex index (Json.get fields "offset") &&
      decide (Json.get fields "valid" = .bool failure.isNone) &&
      decide (Json.get fields "failure_code" = (failure.map Json.str).getD .null)
  | _ => false

def acceptsTrials (lineages : List (String × String)) (focalIds cycle : List String)
    (trials : List Json) : Bool :=
  (trials.zipIdx 1).all fun (trial,index) =>
    acceptsTrial index (expectedFailure lineages (offsetMapping cycle index) focalIds) trial

def verifyProof (lineages : List (String × String)) (viewSha256 programSha256 : String)
    (fields : List (String × Json)) : Py (ProofGrammar × List (String × String)) := do
  demand (Json.get fields "assignment_prefix_view_sha256" = .str viewSha256 &&
      Json.get fields "assignment_program_sha256" = .str programSha256)
    (.recordValidationError "matching proof ancestry differs")
  let grammar ← required (.recordValidationError "synthetic proof order/trial grammar differs")
    (proofGrammar fields)
  let mapping ← required (.recordValidationError "proof donor mapping order differs")
    (donorMapping grammar.focalIds grammar.donorRows)
  demand (!(← infeasibleMapping lineages mapping grammar.focalIds))
    (.recordValidationError "synthetic proof mapping is infeasible")
  let cycle ← cycleTaskIds grammar.focalIds grammar.cycleRows
  demand (sameDict mapping (offsetMapping cycle grammar.selectedOffset))
    (.recordValidationError "synthetic mapping does not follow selected cyclic offset")
  demand (acceptsTrials lineages grammar.focalIds cycle grammar.trials)
    (.recordValidationError "synthetic proof trial prefix differs")
  return (grammar,mapping)

structure ProvedDonor where
  focal : String
  donor : String
  ref : ArtifactRef
  stratumKey : List String
  focalIds : List String

def mergeProof (lineages : List (String × String)) (viewSha256 programSha256 : String)
    (mapping : List ProvedDonor) (proof : ArtifactRef × List (String × Json)) : Py (List ProvedDonor) := do
  let (grammar,rows) ← verifyProof lineages viewSha256 programSha256 proof.2
  demand (rows.all fun row => decide (row.1 ∉ mapping.map ProvedDonor.focal))
    (.recordValidationError "matching proofs overlap focal tasks")
  return mapping ++ rows.map fun row => ⟨row.1,row.2,proof.1,grammar.stratumKey,grammar.focalIds⟩

def reconstructArms (allocation : AllocationReceipt) : Py (List Arm) := do
  demand (0 ≤ allocation.treatmentAllocationIndex &&
      allocation.treatmentAllocationIndex < allocationTable.length)
    (.recordValidationError "allocation index is outside the frozen table")
  demand (allocation.noPacketOrientationBit = 0 || allocation.noPacketOrientationBit = 1)
    (.recordValidationError "null orientation bit is not exact")
  let treatments := allocationTable.getD allocation.treatmentAllocationIndex.toNat []
  let nullOrdinals := treatments.zipIdx.filterMap fun (treatment,ordinal) =>
    if treatment = .NO_PACKET then some ordinal else none
  let nulls := if allocation.noPacketOrientationBit = 0 then [Arm.NONE,.RESAMPLE] else [.RESAMPLE,.NONE]
  return treatments.zipIdx.map fun (treatment,ordinal) =>
    match treatment with
    | .REAL => .REAL
    | .SHAM => .SHAM
    | .NO_PACKET => nulls.getD (nullOrdinals.idxOf ordinal) .NONE

structure GraphState where
  capabilities : List String
  reachable : List ArtifactRef

def addCapability (seen : List String) (row : String × String × String) : Py (List String) := do
  demand (row.2.1 = row.1 && isSha256 row.2.2 && decide (row.2.2 ∉ seen))
    (.recordValidationError "slot capability identity is invalid")
  return seen ++ [row.2.2]

def verifyAllocation (lineages : List (String × String)) (payload : LedgerPayload) (row : TaskSchedule)
    (assignment : TaskAssignment) (allocation : AllocationReceipt) (seen : List String) :
    Py (List String) := do
  demand (allocation.slotIdsByOrdinal = row.slotIds &&
      assignment.taskLineage = (← lineageOf lineages row.task.taskId) &&
      assignment.scheduleSha256 = payload.scheduleRef.sha256 &&
      assignment.prefixIndexSha256 = payload.prefixIndexRef.sha256)
    (.recordValidationError "assignment schedule ancestry differs")
  let reconstructed ← reconstructArms allocation
  demand (assignment.slotArms = allocation.slotIdsByOrdinal.zip reconstructed)
    (.recordValidationError "assignment arms differ from public draws")
  demand (allocation.slotCapabilities.length = 4)
    (.recordValidationError "slot capability rows are incomplete")
  (allocation.slotIdsByOrdinal.zip allocation.slotCapabilities).foldlM addCapability seen

def acceptsCandidate (lineages : List (String × String)) (expectedDonors : List String)
    (candidate : DonorCandidateReceipt) : Bool :=
  decide (candidate.donorTaskId ∈ expectedDonors) &&
    decide (candidate.donorLineage = lineageAt lineages candidate.donorTaskId) &&
    candidate.fallbackCode.isNone && isSha256 candidate.tieHmacSha256 &&
    decide (candidate.primaryCost.length = 3) && candidate.primaryCost.all (fun value => decide (0 ≤ value)) &&
    decide (candidate.primaryCost.head? = some 0)

def verifyCandidates (lineages : List (String × String)) (taskId : String) (proved : ProvedDonor)
    (receipt : MatchedDonorReceipt) : Py Unit := do
  let expectedDonors := proved.focalIds.filter fun candidate =>
    decide (candidate ≠ taskId) && decide (lineageAt lineages candidate ≠ lineageAt lineages taskId)
  demand (receipt.candidates.all (acceptsCandidate lineages expectedDonors))
    (.recordValidationError "matched candidate ancestry is invalid")
  let chosenCost := (receipt.candidates.reverse.find? fun candidate =>
    candidate.donorTaskId = proved.donor).map DonorCandidateReceipt.primaryCost
  demand (receipt.candidates.length = expectedDonors.length &&
      sameMembers (receipt.candidates.map DonorCandidateReceipt.donorTaskId) expectedDonors &&
      decide (some receipt.chosenPrimaryCost = chosenCost))
    (.recordValidationError "matched candidates are incomplete or chosen cost differs")

def verifyMatched (lineages : List (String × String)) (payload : LedgerPayload)
    (mapping : List ProvedDonor) (row : TaskSchedule) (assignment : TaskAssignment) (proved : ProvedDonor)
    (receipt : MatchedDonorReceipt) : Py Unit := do
  let disagree := Raised.recordValidationError "matched donor receipt/assignment/proof disagree"
  demand (receipt.donorTaskId = proved.donor &&
      receipt.taskLineage = lineageAt lineages row.task.taskId &&
      receipt.donorLineage = lineageAt lineages proved.donor &&
      receipt.assignmentMode = .syntheticDerangement &&
      receipt.matchingAlgorithm = .syntheticCyclicOffsetV1 &&
      receipt.assignmentPrefixViewSha256 = payload.assignmentPrefixViewSha256) disagree
  match mapping.find? fun other => other.ref = receipt.matchingProofRef with
  | none => .error (.keyError receipt.matchingProofRef.relativePath)
  | some other => do
    demand (receipt.stratumKey = other.stratumKey &&
      assignment.donorMatchKind = .matched &&
      assignment.donorTaskId = some proved.donor &&
      assignment.donorLineage = some (lineageAt lineages proved.donor) &&
      receipt.matchingProofRef = proved.ref) disagree
    verifyCandidates lineages row.task.taskId proved receipt

def verifyTask (lineages : List (String × String)) (payload : LedgerPayload) (mapping : List ProvedDonor)
    (state : GraphState)
    (task : TaskSchedule × TaskAssignment × AllocationReceipt × DonorMatchReceipt) : Py GraphState := do
  let (row,assignment,allocation,donorReceipt) := task
  let capabilities ← verifyAllocation lineages payload row assignment allocation state.capabilities
  match mapping.find? fun proved => proved.focal = row.task.taskId, donorReceipt with
  | some proved, .matched receipt => do
    verifyMatched lineages payload mapping row assignment proved receipt
    return ⟨capabilities,receipt.matchingProofRef :: state.reachable⟩
  | some _, .noTrigger _ => .error (.recordValidationError "donor receipt proof must be an ArtifactRef")
  | none, receipt => do
    demand (receipt = .noTrigger ⟨row.task.taskId,.noInterventionOpportunity,
        payload.assignmentPrefixViewSha256⟩ &&
      assignment.donorMatchKind = .notApplicableNoTrigger &&
      assignment.donorTaskId.isNone && assignment.donorLineage.isNone)
      (.recordValidationError "no-trigger donor ancestry is not closed")
    return ⟨capabilities,state.reachable⟩

def lineagesOf (schedule : SchedulePayload) : List (String × String) :=
  schedule.tasks.map fun row => (row.task.taskId,row.task.lineage)

def triggeredIds (schedule : SchedulePayload) (taskReceipts : List PrefixReceipt) : List String :=
  (schedule.tasks.map fun row => row.task.taskId).filter fun taskId =>
    (taskReceipts.find? fun receipt => receipt.taskId = taskId).map PrefixReceipt.triggerReason ≠
      some .noInterventionOpportunity

def verifyProofs (schedule : SchedulePayload) (taskReceipts : List PrefixReceipt) (payload : LedgerPayload)
    (proofs : List (ArtifactRef × List (String × Json))) : Py Unit := do
  let lineages := lineagesOf schedule
  let mapping ← proofs.foldlM (mergeProof lineages payload.assignmentPrefixViewSha256
    payload.matchingProgramRef.sha256) []
  demand (sameMembers (mapping.map ProvedDonor.focal) (triggeredIds schedule taskReceipts))
    (.recordValidationError "matching proofs do not exactly cover triggered tasks")
  let state ← (schedule.tasks.zip (payload.assignments.zip
    (payload.allocationReceipts.zip payload.donorMatchReceipts))).foldlM
      (verifyTask lineages payload mapping) ⟨[],payload.matchingProofRefs⟩
  demand (sameMembers state.reachable payload.matchingProofRefs)
    (.recordValidationError "matching proof graph has unreachable refs")

variable (platform : Platform)

def loadProof (files : Files) (ref : ArtifactRef) : Py (List (String × Json)) := do
  demand (ref.role = proofRole && ref.relativePath = proofPath ref.sha256 &&
      ref.mediaType = proofMediaType && 0 < ref.byteCount)
    (.recordValidationError "matching proof ref has wrong identity")
  let raw ← readRef platform files ref
  match ← loadJsonBytes platform raw with
  | .obj fields => do
    demand (canonicalJsonBytes (.obj fields) = raw)
      (.recordValidationError "matching proof is not compact canonical JSON")
    demand (fields.map Prod.fst = proofKeys &&
        Json.get fields "proof_kind" = .str "synthetic_cyclic_offset_v1" &&
        Json.get fields "schema_version" = .str "1" &&
        Json.get fields "invocation_receipt_refs" = .arr [])
      (.recordValidationError "synthetic matching proof shape is not closed")
    return fields
  | _ => .error (.recordValidationError "matching proof is not compact canonical JSON")

def verifyGraph (files : Files) (schedule : SchedulePayload) (taskReceipts : List PrefixReceipt)
    (payload : LedgerPayload) : Py Unit := do
  let taskIds := schedule.tasks.map fun row => row.task.taskId
  demand (taskReceipts.map PrefixReceipt.taskId = taskIds &&
      payload.assignments.map TaskAssignment.taskId = taskIds &&
      payload.allocationReceipts.map AllocationReceipt.taskId = taskIds &&
      payload.donorMatchReceipts.map DonorMatchReceipt.taskId = taskIds)
    (.recordValidationError "assignment graph arrays do not share exact schedule order")
  demand (decide payload.matchingProofRefs.Nodup) (.recordValidationError "matching proof refs repeat")
  let proofs ← payload.matchingProofRefs.mapM fun ref => do return (ref,← loadProof platform files ref)
  verifyProofs schedule taskReceipts payload proofs

def verifySyntheticAssignmentGraph (root : RunRoot) (ledgerRef : ArtifactRef) : Py LedgerPayload := do
  let payload ← root.ledger ledgerRef
  demand (payload.assignmentMode = .syntheticDerangement)
    (.recordValidationError "unkeyed synthetic verifier rejects other modes")
  let schedule ← root.schedule payload.scheduleRef
  let receipts ← root.prefixIndex payload.prefixIndexRef
  demand (receipts.scheduleRef = payload.scheduleRef)
    (.recordValidationError "prefix receipt does not descend from schedule")
  verifyGraph platform root.files schedule receipts.taskReceipts payload
  return payload

end PneumaLab.ResamplingNull
