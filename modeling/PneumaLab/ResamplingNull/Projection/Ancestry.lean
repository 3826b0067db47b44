import PneumaLab.ResamplingNull.Projection.Documents

namespace PneumaLab.ResamplingNull

def manifestKind : String := "resampling_study_manifest"

def scheduleKind : String := "resampling_prefix_schedule"

def prefixKind : String := "resampling_prefix_receipt"

def ledgerKind : String := "resampling_assignment_ledger"

def packetKind : String := "resampling_packet_index"

def freezeKind : String := "resampling_analysis_freeze"

def blockKind : String := "resampling_task_block"

def projectionKind : String := "resampling_blinded_projection"

def unblindKind : String := "resampling_unblind_receipt"

def analysisKind : String := "resampling_analysis"

structure Parents where
  manifest : Option (Document StudyManifest)
  schedule : Option (Document FrozenSchedule)
  prefixIndex : Option (Document PrefixIndex)
  assignment : Option (Document LedgerPayload)
  projection : Option (Document BlindedProjection)
  freeze : Option (Document AnalysisFreeze)
  analysis : Option (Document AnalysisReport)
  unblind : Option (Document UnblindReceipt)

def ScientificGraph.parents (graph : ScientificGraph) : Py Parents := do
  let manifest ← singletonDocument graph.manifests manifestKind
  let schedule ← singletonDocument graph.schedules scheduleKind
  let prefixIndex ← singletonDocument graph.prefixes prefixKind
  let assignment ← singletonDocument graph.assignments ledgerKind
  let projection ← singletonDocument graph.projections projectionKind
  let freeze ← singletonDocument graph.freezes freezeKind
  let analysis ← singletonDocument graph.analyses analysisKind
  let unblind ← singletonDocument graph.unblinds unblindKind
  return ⟨manifest,schedule,prefixIndex,assignment,projection,freeze,analysis,unblind⟩

namespace Parents

variable (parents : Parents)

def receipts : List FrozenPrefixReceipt := (parents.prefixIndex.map fun index => index.payload.taskReceipts).getD []

def rows : List TaskAssignment := (parents.assignment.map fun ledger => ledger.payload.assignments).getD []

def receiptFor (taskId : String) : Option FrozenPrefixReceipt :=
  parents.receipts.find? fun receipt => receipt.taskId = taskId

def rowFor (taskId : String) : Option TaskAssignment := parents.rows.find? fun row => row.taskId = taskId

def requireSchedule : Py Unit :=
  present parents.schedule fun schedule => present parents.manifest fun manifest =>
    requireRefMatches schedule.payload.manifestRef manifest "prefix schedule manifest_ref" manifestKind

def requireAssignmentProgram : Py Unit :=
  present parents.assignment fun ledger => present parents.manifest fun manifest => do
    requireRefMatches ledger.payload.manifestRef manifest "assignment manifest_ref" manifestKind
    requireArtifactRefEqual ledger.payload.matchingProgramRef manifest.payload.assignmentProgramRef
      "assignment matching_program_ref"
    demand (ledger.payload.assignmentMasterKeyCommitmentSha256 =
        manifest.payload.assignmentMasterKeyCommitmentSha256)
      (refused "assignment master-key commitment differs from manifest")

def requirePrefix : Py Unit :=
  present parents.prefixIndex fun index => present parents.schedule fun schedule => do
    requireRefMatches index.payload.scheduleRef schedule "prefix receipt schedule_ref" scheduleKind
    index.payload.taskReceipts.forM fun receipt => do
      requireDigestEqual receipt.scheduleSha256 schedule "prefix receipt task_receipts.schedule_sha256" scheduleKind
      requireDigestEqual receipt.verifierReceipt.scheduleSha256 schedule
        "prefix receipt task_receipts.verifier_receipt.schedule_sha256" scheduleKind

def requireAssignment : Py Unit :=
  present parents.assignment fun ledger => do
    present parents.schedule fun schedule =>
      requireRefMatches ledger.payload.scheduleRef schedule "assignment schedule_ref" scheduleKind
    present parents.prefixIndex fun index =>
      requireRefMatches ledger.payload.prefixIndexRef index "assignment prefix_index_ref" prefixKind
    ledger.payload.assignments.forM fun row => do
      present parents.schedule fun schedule =>
        requireDigestEqual row.scheduleSha256 schedule "assignment assignments.schedule_sha256" scheduleKind
      present parents.prefixIndex fun index =>
        requireDigestEqual row.prefixIndexSha256 index "assignment assignments.prefix_index_sha256" prefixKind

def requireUnique : Py Unit := do
  demand (decide (parents.receipts.map FrozenPrefixReceipt.taskId).Nodup)
    (refused "prefix receipt task coverage must be unique by task_id")
  demand (decide (parents.rows.map TaskAssignment.taskId).Nodup)
    (refused "assignment packet coverage must be unique by task_id")

def requirePair (packets : PacketPair) : Py Unit := do
  demand (match parents.rowFor packets.taskId with
      | none => false
      | some row => decide (row.donorTaskId = some packets.donorTaskId))
    (refused "packet pair task/donor IDs differ from the assignment ledger")
  let focal ← required (refused "packet pair lacks focal/donor prefix coverage") (parents.receiptFor packets.taskId)
  let donor ← required (refused "packet pair lacks focal/donor prefix coverage")
    (parents.receiptFor packets.donorTaskId)
  requireArtifactRefEqual packets.focalVerifierRef focal.verifierReceipt.verifierArtifactRef
    "packet pair focal_verifier_ref"
  requireArtifactRefEqual packets.donorVerifierRef donor.verifierReceipt.verifierArtifactRef
    "packet pair donor_verifier_ref"
  present parents.assignment fun ledger =>
    requireRefMatches packets.assignmentRef ledger "packet entries.assignment_ref" ledgerKind
  present parents.manifest fun manifest =>
    requireSources packets.sources manifest.payload.toPacketSources "packet entries."

def requireEntry (entry : PacketEntry) : Py Unit := do
  present parents.prefixIndex fun index => do
    requireDigestEqual entry.prefixIndexSha256 index "packet entries.prefix_index_sha256" prefixKind
    let receipt ← required (refused "packet entry lacks frozen prefix coverage") (parents.receiptFor entry.taskId)
    demand ((match entry with
        | .marker _ _ _ => false
        | .pair _ => true) = receipt.triggered)
      (refused "packet entry must be a pair exactly when its frozen prefix triggers intervention")
  match entry with
  | .marker _ _ _ => pure ()
  | .pair packets => parents.requirePair packets

def requirePacket (packet : Document PacketIndex) : Py Unit := do
  present parents.assignment fun ledger =>
    requireRefMatches packet.payload.parents.assignmentRef ledger "packet assignment_ref" ledgerKind
  present parents.prefixIndex fun index =>
    requireRefMatches packet.payload.parents.prefixIndexRef index "packet prefix_index_ref" prefixKind
  present parents.manifest fun manifest =>
    requireSources packet.payload.parents.sources manifest.payload.toPacketSources "packet "
  present packet.payload.candidate? fun candidate => do
    demand (parents.assignment.isNone ||
        (candidate.entries.all fun entry => decide (entry.taskId ∈ parents.rows.map TaskAssignment.taskId)) &&
          parents.rows.all fun row => decide (row.taskId ∈ candidate.entries.map PacketEntry.taskId))
      (refused "candidate packet task coverage differs from the assignment ledger")
    candidate.entries.forM fun entry => parents.requireEntry entry

def requireBlock (sealed : Option (Document PacketIndex)) (block : Document TaskBlockPayload) : Py Unit := do
  present parents.schedule fun schedule =>
    requireRefMatches block.payload.scheduleRef schedule "task block schedule_ref" scheduleKind
  present parents.prefixIndex fun index =>
    requireRefMatches block.payload.prefixIndexRef index "task block prefix_index_ref" prefixKind
  present parents.assignment fun ledger =>
    requireRefMatches block.payload.assignmentRef ledger "task block assignment_ref" ledgerKind
  present sealed fun packet =>
    requireRefMatches block.payload.packetIndexRef packet "task block packet_index_ref" packetKind
  present parents.freeze fun freeze =>
    requireRefMatches block.payload.analysisFreezeRef freeze "task block analysis_freeze_ref" freezeKind

def requireAssignedTask (schedule : FrozenSchedule) (allocations : List AllocationReceipt) (entry : TaskSchedule) :
    Py Unit := do
  let row ← required (.keyError entry.task.taskId) (parents.rowFor entry.task.taskId)
  demand (row.taskLineage = entry.task.lineage) (refused "assignment lineage differs for task")
  let receipt ← required (.keyError entry.task.taskId) (parents.receiptFor entry.task.taskId)
  demand (decide (row.donorMatchKind = .matched) = receipt.triggered)
    (refused "assignment matching kind differs from frozen trigger for task")
  if row.donorMatchKind = .matched then do
    let donor ← required (refused "assignment donor is not scheduled")
      (schedule.tasks.find? fun other => some other.task.taskId = row.donorTaskId)
    demand (row.donorLineage = some donor.task.lineage) (refused "assignment donor lineage differs for task")
  let allocation ← required (.keyError entry.task.taskId)
    (allocations.find? fun allocation => allocation.taskId = entry.task.taskId)
  demand (row.slotArms.map Prod.fst = entry.slotIds && allocation.slotCapabilities.map Prod.fst = entry.slotIds &&
      decide (allocation.slotCapabilities.map Prod.snd).Nodup)
    (refused "assignment slot/capability order differs for task")

def requireCoverage : Py Unit :=
  present parents.schedule fun schedule => do
    present parents.prefixIndex fun index =>
      demand (index.payload.taskReceipts.map FrozenPrefixReceipt.taskId = schedule.payload.taskIds)
        (refused "prefix receipts must exactly cover frozen schedule task IDs in order")
    present parents.assignment fun ledger => do
      demand (ledger.payload.assignments.map TaskAssignment.taskId = schedule.payload.taskIds &&
          ledger.payload.allocationReceipts.map AllocationReceipt.taskId = schedule.payload.taskIds &&
          ledger.payload.donorMatchReceipts.map DonorMatchReceipt.taskId = schedule.payload.taskIds)
        (refused ("assignment rows, allocations, and donor receipts must exactly cover frozen schedule task IDs " ++
          "in order"))
      schedule.payload.tasks.forM (parents.requireAssignedTask schedule.payload ledger.payload.allocationReceipts)

def requireChain (block : TaskBlockPayload) (schedule : FrozenSchedule) (ledger : LedgerPayload) : Py Unit := do
  let lacking := refused "task block lacks exact schedule, prefix, or assignment ancestry"
  let entry ← required lacking (schedule.tasks.find? fun entry => entry.task.taskId = block.taskId)
  let receipt ← required lacking (parents.receiptFor block.taskId)
  let row ← required lacking (parents.rowFor block.taskId)
  let allocation ← required lacking
    (ledger.allocationReceipts.find? fun allocation => allocation.taskId = block.taskId)
  validateTaskChain block entry receipt row allocation

def requireChains (blocks : List (Document TaskBlockPayload)) : Py Unit :=
  present parents.schedule fun schedule => present parents.prefixIndex fun _ => present parents.assignment fun ledger =>
    blocks.forM fun block => parents.requireChain block.payload schedule.payload ledger.payload

def requireUnblind : Py Unit :=
  present parents.unblind fun unblind => do
    present parents.projection fun projection =>
      requireRefMatches unblind.payload.projectionRef projection "unblind projection_ref" projectionKind
    present parents.assignment fun ledger =>
      requireRefMatches unblind.payload.assignmentLedgerRef ledger "unblind assignment_ledger_ref" ledgerKind
    present parents.freeze fun freeze =>
      requireRefMatches unblind.payload.analysisFreezeRef freeze "unblind analysis_freeze_ref" freezeKind
    present parents.projection fun projection =>
      demand (unblind.payload.expectedTaskCount = projection.payload.expectedTaskCount)
        (refused "unblind expected_task_count differs from the frozen projection")

def requireAnalysis : Py Unit :=
  present parents.analysis fun analysis => do
    present parents.freeze fun freeze =>
      requireRefMatches analysis.payload.analysisFreezeRef freeze "analysis analysis_freeze_ref" freezeKind
    present parents.projection fun projection =>
      requireRefMatches analysis.payload.projectionRef projection "analysis projection_ref" projectionKind
    present parents.unblind fun unblind =>
      requireRefMatches analysis.payload.unblindReceiptRef unblind "analysis unblind_receipt_ref" unblindKind
    present parents.freeze fun freeze =>
      requireArtifactRefEqual analysis.payload.configRef freeze.payload.configRef "analysis config_ref"
    present parents.projection fun projection =>
      demand (analysis.payload.rowCount = projection.payload.expectedTaskCount)
        (refused "analysis row_count differs from the frozen projection")

end Parents

def taskById (blocks : List (Document TaskBlockPayload)) (taskId : String) : Option (Document TaskBlockPayload) :=
  blocks.reverse.find? fun block => block.payload.taskId = taskId

def frozenRow (entry : TaskSchedule) (block : TaskBlockPayload) : FrozenRow where
  taskId := entry.task.taskId
  prefixSuccess := block.prefixSuccess
  slotIds := entry.slotIds

def projectionRow (entry : TaskSchedule) (block : TaskBlockPayload) (slots : List BlindedSlot) : ProjectionRow where
  taskId := entry.task.taskId
  benchmark := block.benchmark
  stratum := block.stratum
  lineage := entry.task.lineage
  sensitivityGroups := block.sensitivityGroups
  prefixSuccess := block.prefixSuccess
  triggered := block.triggered
  slots := slots
  pipelineValid := block.pipelineValid
  validityCodes := block.validityCodes

def closedOutcomes (entry : TaskSchedule) (block : TaskBlockPayload) : String × List StrippedOutcome :=
  (entry.task.taskId,block.slotOutcomes.map stripped)

def sealedPacket (packets : List (Document PacketIndex)) : Option (Document PacketIndex) :=
  packets.find? fun packet => packet.payload.sealed?.isSome

def candidatePacket (packets : List (Document PacketIndex)) : Option (Document PacketIndex) :=
  packets.find? fun packet => packet.payload.candidate?.isSome

def requirePacketStages (packets : List (Document PacketIndex)) : Py Unit :=
  present (sealedPacket packets) fun sealed => present (candidatePacket packets) fun candidate => do
    present sealed.payload.sealed? fun payload =>
      requireRefMatches payload.candidateRef candidate "sealed packet candidate_ref" packetKind
    requireArtifactRefEqual sealed.payload.parents.assignmentRef candidate.payload.parents.assignmentRef
      "sealed/candidate packet assignment_ref"
    requireArtifactRefEqual sealed.payload.parents.prefixIndexRef candidate.payload.parents.prefixIndexRef
      "sealed/candidate packet prefix_index_ref"
    requireSources sealed.payload.parents.sources candidate.payload.parents.sources "sealed/candidate packet "

variable (platform : Platform) (rewardText : ℚ → String)

def requireProjectedRow (blocks : List (Document TaskBlockPayload)) (pair : TaskSchedule × ProjectionRow) : Py Unit := do
  let block ← required (.keyError pair.1.task.taskId) (taskById blocks pair.1.task.taskId)
  let reconstructed ← buildCandidate platform rewardText [frozenRow pair.1 block.payload]
    [closedOutcomes pair.1 block.payload]
  let base ← required (.valueError "tuple index out of range") reconstructed.rows.head?
  demand (pair.2 = projectionRow pair.1 block.payload base.slots)
    (refused "projection row is not the exact frozen reconstruction of task block")

def scheduledBlocks (blocks : List (Document TaskBlockPayload)) (schedule : FrozenSchedule) :
    Py (List (TaskSchedule × TaskBlockPayload)) :=
  schedule.tasks.mapM fun entry => do
    return (entry,(← required (.keyError entry.task.taskId) (taskById blocks entry.task.taskId)).payload)

def candidateFrom (scheduled : List (TaskSchedule × TaskBlockPayload)) : Py ProjectionCandidate :=
  buildCandidate platform rewardText (scheduled.map fun pair => frozenRow pair.1 pair.2)
    (scheduled.map fun pair => closedOutcomes pair.1 pair.2)

def requireReconstruction (blocks : List (Document TaskBlockPayload)) (schedule : FrozenSchedule)
    (projection : BlindedProjection) : Py Unit := do
  demand ((blocks.all fun block => decide (block.payload.taskId ∈ schedule.taskIds)) &&
      (schedule.taskIds.all fun taskId => decide (taskId ∈ blocks.map fun block => block.payload.taskId)) &&
      decide (projection.rows.map ProjectionRow.taskId = schedule.taskIds))
    (refused "projection rows and task blocks must exactly cover frozen schedule task IDs in order")
  demand (projection.taskBlockRefs.length = schedule.taskIds.length)
    (refused "projection task_block_refs must follow frozen schedule order")
  (projection.taskBlockRefs.zip schedule.taskIds).forM fun (ref,taskId) => do
    let block ← required (.keyError taskId) (taskById blocks taskId)
    requireRefMatches ref block "projection task_block_refs" blockKind
  (schedule.tasks.zip projection.rows).forM (requireProjectedRow platform rewardText blocks)
  let candidate ← candidateFrom platform rewardText (← scheduledBlocks blocks schedule)
  demand (projection.projectionCandidateSha256 = candidate.sha256)
    (refused "projection_candidate_sha256 does not match stripped reconstruction")

def requireProjectionRefs (parents : Parents) (blocks : List (Document TaskBlockPayload))
    (projection : BlindedProjection) : Py Unit := do
  present parents.schedule fun schedule =>
    requireRefMatches projection.scheduleRef schedule "projection schedule_ref" scheduleKind
  present parents.freeze fun freeze =>
    requireRefMatches projection.analysisFreezeRef freeze "projection analysis_freeze_ref" freezeKind
  demand ((blocks.all fun block => decide (block.relativePath ∈ projection.taskBlockRefs.map ArtifactRef.relativePath)) &&
      projection.taskBlockRefs.all fun ref => decide (ref.relativePath ∈ blocks.map Document.relativePath))
    (refused "projection task_block_refs do not exactly cover task blocks")

def requireParents (graph : ScientificGraph) (parents : Parents) : Py Unit := do
  parents.requireSchedule
  parents.requireAssignmentProgram
  parents.requirePrefix
  parents.requireAssignment
  parents.requireUnique
  graph.packets.forM parents.requirePacket
  requirePacketStages graph.packets
  present parents.freeze fun freeze => present (sealedPacket graph.packets) fun sealed =>
    requireRefMatches freeze.payload.packetIndexRef sealed "analysis freeze packet_index_ref" packetKind
  graph.blocks.forM (parents.requireBlock (sealedPacket graph.packets))
  parents.requireCoverage
  parents.requireChains graph.blocks

def validateScientificAncestry (graph : ScientificGraph) : Py Unit := do
  let parents ← graph.parents
  requireParents graph parents
  present parents.schedule fun schedule => present parents.projection fun projection =>
    requireReconstruction platform rewardText graph.blocks schedule.payload projection.payload
  present parents.projection fun projection => requireProjectionRefs parents graph.blocks projection.payload
  parents.requireUnblind
  parents.requireAnalysis
  present parents.manifest fun manifest => graph.powerRosterRefs.forM fun rosterRef =>
    requireArtifactRefEqual rosterRef manifest.payload.rosterRef "power report roster_ref"

end PneumaLab.ResamplingNull
