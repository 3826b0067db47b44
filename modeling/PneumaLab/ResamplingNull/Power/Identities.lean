import Mathlib.Data.List.MinMax
import Mathlib.Data.List.Sort
import Mathlib.Data.Prod.Lex
import PneumaLab.ResamplingNull.Power.Records
import Mathlib.Data.Finset.Dedup

namespace PneumaLab.ResamplingNull

def nonfinalDocuments (documents : List PowerDocument) : List PowerDocument :=
  documents.filter fun document => document.payload.stage ≠ .final

def attemptDocuments (nonfinal : List PowerDocument) (attempt : PowerPhase × ℕ) : List PowerDocument :=
  nonfinal.filter fun document => document.payload.attempt = attempt

def orderedShards (documents : List PowerDocument) : List (Staged PowerShard) :=
  (staged StagePayload.shard? documents).insertionSort fun left right =>
    left.detail.shardIndex ≤ right.detail.shardIndex

def terminalGaussianValidation (nonfinal : List PowerDocument) : Option (Staged GaussianValidation) :=
  (staged StagePayload.gaussianValidation? nonfinal).argmax fun validation => validation.document.payload.generation

def requireSharedContract (payload baseline : PowerPayload) : Py Unit := do
  [(payload.authorityRef,baseline.authorityRef,"authority_ref"),
    (payload.rosterRef,baseline.rosterRef,"roster_ref"),
    (payload.gridRef,baseline.gridRef,"grid_ref"),
    (payload.screenTopologyRef,baseline.screenTopologyRef,"screen_topology_ref"),
    (payload.configRef,baseline.configRef,"config_ref"),
    (payload.numericFixtureRef,baseline.numericFixtureRef,"numeric_fixture_ref")].forM fun mirror =>
      requireArtifactRefEqual mirror.1 mirror.2.1 ("power authority " ++ mirror.2.2)
  demand (payload.decisionAuthority = baseline.decisionAuthority)
    (refused "power authority decision_authority differs")
  demand (payload.tierMembershipSha256 = baseline.tierMembershipSha256)
    (refused "power authority tier_membership_sha256 differs")
  demand (payload.rngContractSha256 = baseline.rngContractSha256)
    (refused "power authority rng_contract_sha256 differs")
  demand (payload.numericContract = baseline.numericContract)
    (refused "power authority numeric source contract differs")

def requireFrozenAttempt (screen : Staged PowerScreen) (phase : PowerPhase) (document : PowerDocument) : Py Unit := do
  demand (document.payload.shardCount = screen.document.payload.shardCount)
    (refused "power shard_count differs from the screen-frozen count")
  demand (powerKernelId document.payload.stage phase = some document.payload.kernelId)
    (refused "power kernel_id is not derived from stage and phase")

def requireScreenParents (terminal : Option (Staged GaussianValidation)) (screen : Staged PowerScreen) :
    PowerPhase → Py Unit
  | .gaussianApproximation =>
    requireParentChain screen.document.payload.parentRefs [] "Gaussian screen parent_refs"
  | .fullMultiplierFallback => do
    demand (screen.document.payload.parentRefs.length = 1)
      (refused "full-multiplier screen must parent one Gaussian trigger")
    let trigger ← required (refused "full-multiplier screen must parent one Gaussian trigger")
      screen.document.payload.parentRefs.head?
    let fallback ← required (.keyError "fallback_trigger_ref") screen.detail.fallbackTriggerRef
    demand (refIdentity fallback = refIdentity trigger)
      (refused "full-multiplier screen fallback_trigger_ref differs from its explicit parent")
    demand (terminal.any fun validation => refIdentity trigger = documentRefIdentity validation.document &&
        !validation.detail.approximationReceipt.passed)
      (refused "full-multiplier fallback must parent the terminal failed Gaussian validation")

def shardCellIds (shard : Staged PowerShard) : List String := shard.detail.cellResults.map CellResult.cellId

def requireShardSet (orderedGridCellIds : List String) (screen : Staged PowerScreen)
    (shards : List (Staged PowerShard)) : Py Bool := do
  demand ((shards.map fun shard => shard.document.payload.shardCount).eraseDups.length = 1)
    (refused "power shard_count must be identical across the shard set")
  demand ((shards.map fun shard => shard.detail.datasetCount).eraseDups.length = 1)
    (refused "power dataset_count must be identical across the shard set")
  let shardCount ← required .stopIteration (shards.map fun shard => shard.document.payload.shardCount).eraseDups.head?
  demand (shards.length ≤ shardCount &&
      (shards.map fun shard => shard.detail.shardIndex) = List.range shards.length)
    (refused "power shards must be contiguous and zero-based without gaps")
  shards.forM fun shard => do
    requireParentChain shard.document.payload.parentRefs [documentRefIdentity screen.document]
      "power shard parent_refs"
    demand (decide (shardCellIds shard).Nodup) (refused "power shard contains duplicate cell IDs")
  let mergedCellIds := shards.flatMap shardCellIds
  let complete := decide (shards.length = shardCount)
  demand (mergedCellIds = if complete then orderedGridCellIds else orderedGridCellIds.take mergedCellIds.length)
    (refused "power shard cell coverage has gaps, overlap, or wrong order")
  return complete

def requireGaussianDownstream (complete : Bool) (chain : List RefIdentity)
    (selections : List (Staged PowerSelection)) (validations : List PowerDocument) : Py Unit := do
  demand (validations.isEmpty || !selections.isEmpty) (refused "Gaussian validation requires a selection parent")
  present selections.head? fun selection => do
    demand complete (refused "Gaussian selection requires complete shard coverage")
    requireParentChain selection.document.payload.parentRefs chain "power selection parent_refs"
  present validations.head? fun validation =>
    present selections.head? fun selection =>
      requireParentChain validation.payload.parentRefs (chain ++ [documentRefIdentity selection.document])
        "Gaussian validation parent_refs"

def requireFallbackDownstream (terminal : Option (Staged GaussianValidation)) (orderedGridCellIds : List String)
    (complete : Bool) (chain : List RefIdentity) (selections : List (Staged PowerSelection))
    (validations : List (Staged FullGridValidation)) : Py Unit := do
  demand selections.isEmpty (refused "full-multiplier fallback forbids a selection stage")
  present validations.head? fun validation => do
    demand complete (refused "full-multiplier validation requires complete shards")
    requireParentChain validation.document.payload.parentRefs
      (refIdentity validation.detail.fallbackTriggerRef :: chain) "full-multiplier validation parent_refs"
    demand (terminal.any fun trigger =>
        refIdentity validation.detail.fallbackTriggerRef = documentRefIdentity trigger.document)
      (refused "full-multiplier validation does not use the terminal failed Gaussian validation")
    demand (validation.detail.completeCellIds = orderedGridCellIds)
      (refused "full-multiplier validation lacks full ordered cell coverage")

def requireDownstream (terminal : Option (Staged GaussianValidation)) (orderedGridCellIds : List String)
    (phase : PowerPhase) (documents : List PowerDocument) (screen : Staged PowerScreen) (complete : Bool) : Py Unit :=
  let chain := documentRefIdentity screen.document ::
    (orderedShards documents).map fun shard => documentRefIdentity shard.document
  let selections := staged StagePayload.selection? documents
  match phase with
  | .gaussianApproximation => requireGaussianDownstream complete chain selections
      (documents.filter fun document => document.payload.stage = .validation)
  | .fullMultiplierFallback => requireFallbackDownstream terminal orderedGridCellIds complete chain selections
      (staged StagePayload.fullGridValidation? documents)

def validatePowerAttempt (terminal : Option (Staged GaussianValidation)) (orderedGridCellIds : List String)
    (phase : PowerPhase) (documents : List PowerDocument) : Py Unit := do
  let screens := staged StagePayload.screen? documents
  demand (screens.length = 1) (refused "each power phase/generation requires exactly one screen")
  let screen ← required .stopIteration screens.head?
  demand (screen.detail.cellCount = orderedGridCellIds.length)
    (refused "power screen cell_count differs from the ordered grid")
  documents.forM (requireFrozenAttempt screen phase)
  let shards := orderedShards documents
  let selections := staged StagePayload.selection? documents
  let validations := documents.filter fun document => document.payload.stage = .validation
  demand (selections.length ≤ 1 && validations.length ≤ 1)
    (refused "power attempt has duplicate downstream stage identities")
  requireScreenParents terminal screen phase
  if shards.isEmpty then
    demand (selections.isEmpty && validations.isEmpty)
      (refused "power downstream stages require a complete shard set")
  else do
    let complete ← requireShardSet orderedGridCellIds screen shards
    requireDownstream terminal orderedGridCellIds phase documents screen complete

def powerAttempts (nonfinal : List PowerDocument) : List (PowerPhase × ℕ) :=
  (nonfinal.map fun document => document.payload.attempt).eraseDups

section
variable {Layout : Type} (sources : PowerSources Layout)

-- One authority digest behind all reports makes the code's loop over authorities a single round.
def validatePowerAttemptTopology (documents : List PowerDocument) : Py Unit :=
  match documents with
  | [] => .error (refused "power reports must share exactly one authority_ref SHA-256")
  | baseline :: others => do
    demand (others.all fun document => document.payload.authorityRef.sha256 = baseline.payload.authorityRef.sha256)
      (refused "power reports must share exactly one authority_ref SHA-256")
    others.forM fun document => requireSharedContract document.payload baseline.payload
    let orderedGridCellIds ← powerGridCellIds sources baseline.payload
    let nonfinal := nonfinalDocuments documents
    (powerAttempts nonfinal).forM fun attempt =>
      validatePowerAttempt (terminalGaussianValidation nonfinal) orderedGridCellIds attempt.1
        (attemptDocuments nonfinal attempt)

end

def powerPhaseOrder : PowerPhase → ℕ
  | .gaussianApproximation => 0
  | .fullMultiplierFallback => 1

def powerAttemptOrder (attempt : PowerPhase × ℕ) : ℕ ×ₗ ℕ := toLex (powerPhaseOrder attempt.1,attempt.2)

def later (left right : PowerPhase × ℕ) : Bool := decide (powerAttemptOrder right < powerAttemptOrder left)

def isTerminalPowerValidation (document : PowerDocument) : Bool :=
  match document.payload.body with
  | .fullGridValidation _ => true
  | .gaussianValidation validation => validation.approximationReceipt.passed
  | _ => false

def requireNoSuccessor (nonfinal : List PowerDocument) (validation : PowerDocument) : Py Unit :=
  let laterDocuments := nonfinal.filter fun document => later document.payload.attempt validation.payload.attempt
  if laterDocuments.isEmpty then .ok ()
  else if validation.payload.phase = .gaussianApproximation && !isTerminalPowerValidation validation then
    demand (laterDocuments.all fun document => document.payload.phase = .fullMultiplierFallback)
      (refused "a failed Gaussian approximation validation may transition only to full-multiplier fallback")
  else .error (refused "a persisted terminal power validation cannot be superseded by a later phase or generation")

def validatePowerTransitions (nonfinal : List PowerDocument) : Py Unit :=
  (nonfinal.filter fun document => document.payload.stage = .validation).forM (requireNoSuccessor nonfinal)

section Authority
variable {Layout : Type} (sources : PowerSources Layout)

def requirePowerAuthority (payload : PowerPayload) : Py Unit := do
  let authority ← sources.loadPowerAuthority payload.authorityRef
  let config ← sources.loadPowerConfig payload.authorityRef payload.gridRef payload.screenTopologyRef
  demand (payload.decisionAuthority = authority.authorityKind)
    (refused "power decision_authority is not derived from authority_ref")
  requireArtifactRefEqual payload.rosterRef authority.rosterRef "power roster_ref"
  demand (payload.tierMembershipSha256 = authority.tierMembershipSha256)
    (refused "power tier_membership_sha256 is not derived from authority_ref")
  demand (payload.rngContractSha256 = config.rngContractSha256)
    (refused "power rng_contract_sha256 differs from frozen grid contract")
  let gridContent ← sources.gridContentSha256 payload.gridRef authority.authorityKind
  demand (payload.gridContentSha256 = gridContent)
    (refused "power grid_content_sha256 differs from closed grid bytes")
  present payload.body.shard? fun shard => do
    let layout ← sources.replayLayout authority payload.gridRef
    shard.cellResults.forM fun result =>
      sources.validatePowerExecutionReceipt result authority payload.gridContentSha256 layout

end Authority

def attemptIdentity (document : PowerDocument) : PowerPhase × ℕ × PowerStage × Option ℕ :=
  (document.payload.phase,document.payload.generation,document.payload.stage,
    document.payload.body.shard?.map PowerShard.shardIndex)

-- A dict keyed by path keeps the last document of each.
def documentByPath (nonfinal : List PowerDocument) (path : String) : Option PowerDocument :=
  nonfinal.reverse.find? fun document => document.relativePath = path

def selectedDocument {σ : Type} (nonfinal : List PowerDocument) (attempt : PowerPhase × ℕ)
    (view : StagePayload → Option σ) (ref : ArtifactRef) (field : String) : Py (Staged σ) := do
  let document ← required (refused ("power finalization " ++ field ++ " is not an attempted report"))
    (documentByPath nonfinal ref.relativePath)
  let detail ← required (refused ("power finalization " ++ field ++ " has wrong stage, phase, or generation"))
    (view document.payload.body)
  demand (document.payload.attempt = attempt)
    (refused ("power finalization " ++ field ++ " has wrong stage, phase, or generation"))
  return ⟨document,detail⟩

def requireVerdict (authority : DecisionAuthority) (chain : CompletedChain) : Py Unit :=
  match authority with
  | .rosterBoundSelection => demand (chain.selectedTier.isSome && decide (chain.decision = .go))
      (refused "roster-bound completed power chain requires a selected passing C120/C160 tier and GO decision")
  | .implementationVerification =>
    demand (chain.selectedTier.isNone && decide (chain.decision = .implementationVerificationOnly))
      (refused "implementation-verification completed power chain must be IMPLEMENTATION_VERIFICATION_ONLY without tier-selection authority")
  | .syntheticValidation => demand (chain.selectedTier.isNone && decide (chain.decision = .conditionalOnly))
      (refused "synthetic completed power chain must be CONDITIONAL_ONLY without tier-selection authority")

def expectedTierDecision (authority : DecisionAuthority) (selectedTier : Option Tier) : Option TierDecision :=
  match authority with
  | .rosterBoundSelection => selectedTier.map .tier
  | _ => some .conditionalOnly

def requireGaussianCompletion (nonfinal : List PowerDocument) (attempt : PowerPhase × ℕ)
    (authority : DecisionAuthority) (chain : CompletedChain) (selectionRef validationRef : ArtifactRef) : Py Unit := do
  let selection ← selectedDocument nonfinal attempt StagePayload.selection? selectionRef "selected_selection_ref"
  let validation ← selectedDocument nonfinal attempt StagePayload.gaussianValidation? validationRef
    "selected_validation_ref"
  demand (selection.detail.selectedCells.length = 5 && selection.detail.selectionCount = 5)
    (refused "Gaussian completed chain requires the frozen worst five cells")
  demand validation.detail.approximationReceipt.passed
    (refused "Gaussian completed chain requires a passing approximation validation receipt")
  demand (some validation.detail.approximationReceipt.gaussianTierDecision =
        expectedTierDecision authority chain.selectedTier &&
      some validation.detail.approximationReceipt.fullMultiplierTierDecision =
        expectedTierDecision authority chain.selectedTier)
    (refused "Gaussian completed verdict differs from its authority-bound approximation receipt")
  demand (validation.detail.selectedCells = selection.detail.selectedCells)
    (refused "Gaussian validation cells differ from the frozen selection")
  demand ((validation.detail.intervalReceipts.map IntervalReceipt.cellId).toFinset =
      selection.detail.selectedCells.toFinset)
    (refused "Gaussian validation intervals do not cover the worst five")

def requireFallbackCompletion (nonfinal : List PowerDocument) (attempt : PowerPhase × ℕ) (chain : CompletedChain)
    (fallbackRef validationRef : ArtifactRef) : Py Unit := do
  let validation ← selectedDocument nonfinal attempt StagePayload.fullGridValidation? validationRef
    "full_grid_validation_ref"
  let fallback ← required (refused "full-multiplier chain must parent a failed Gaussian trigger")
    (documentByPath nonfinal fallbackRef.relativePath)
  demand (fallback.payload.phase = .gaussianApproximation)
    (refused "full-multiplier chain must parent a failed Gaussian trigger")
  demand (validation.detail.selectedTier = chain.selectedTier && validation.detail.decision = chain.decision)
    (refused "full-multiplier completed verdict differs from its full-grid validation receipt")
  demand (validation.detail.fallbackTriggerRef.relativePath = fallback.relativePath &&
      validation.detail.fallbackTriggerRef.sha256 = fallback.sha256)
    (refused "full-grid validation uses a different fallback trigger")

def requireNoSuperseded (nonfinal : List PowerDocument) (attempt : PowerPhase × ℕ) (error : Raised) : Py Unit :=
  demand (nonfinal.all fun document => !(later attempt document.payload.attempt && isTerminalPowerValidation document))
    error

def requireCompletedChain (nonfinal : List PowerDocument) (authority : DecisionAuthority)
    (finalAttempt : PowerPhase × ℕ) (chain : CompletedChain) : Py Unit := do
  let attempt := (chain.branch.phase,chain.selectedGeneration)
  demand (powerKernelId .final chain.branch.phase = some chain.selectedKernelId)
    (refused "completed power finalization selected_kernel_id is not derived from selected_phase")
  demand (finalAttempt = attempt)
    (refused "final power report phase/generation differs from its completed selection")
  demand (nonfinal.all fun document => !later document.payload.attempt attempt)
    (refused "completed power finalization must select the terminal latest phase/generation attempt")
  requireNoSuperseded nonfinal attempt (refused
    "a terminal power validation cannot be superseded; only an earlier incomplete attempt or failed Gaussian approximation transition may precede finalization")
  requireVerdict authority chain
  let screen ← selectedDocument nonfinal attempt StagePayload.screen? chain.selectedScreenRef "selected_screen_ref"
  demand (chain.selectedShardCount = screen.document.payload.shardCount)
    (refused "power finalization selected_shard_count differs from the selected screen")
  demand (!chain.selectedShardRefs.isEmpty) (refused "selected power chain lacks a shard")
  let selectedShards ← chain.selectedShardRefs.mapM fun ref =>
    selectedDocument nonfinal attempt StagePayload.shard? ref "selected_shard_refs"
  demand ((selectedShards.map fun shard => documentRefIdentity shard.document) =
      (orderedShards (attemptDocuments nonfinal attempt)).map fun shard => documentRefIdentity shard.document)
    (refused "power finalization selected_shard_refs do not exactly cover the selected shard set")
  match chain.branch with
  | .gaussian selectionRef validationRef =>
    requireGaussianCompletion nonfinal attempt authority chain selectionRef validationRef
  | .fullMultiplier fallbackRef validationRef =>
    requireFallbackCompletion nonfinal attempt chain fallbackRef validationRef

def allowedReasons (kind : PowerFailureKind) (phase : PowerPhase) : PowerStage → List PowerFailureReason
  | .screen =>
    [match phase with
      | .gaussianApproximation => .gaussianScreenExhausted
      | .fullMultiplierFallback => .fullMultiplierScreenExhausted,.numericFixtureFailed,.runtimeBoundExceeded]
  | .validation =>
    match kind with
    | .syntheticValidationFailed => [.syntheticValidationGateFailed]
    | .feasibilityNoGo => [.powerOrTypeIGateFailed]
  | _ => [.attemptIncomplete]

def requireGateFailure (reason : PowerFailureReason) (terminal : PowerDocument) : Py Unit :=
  if reason ≠ .powerOrTypeIGateFailed then .ok ()
  else match terminal.payload.body with
  | .fullGridValidation validation =>
    demand (validation.selectedTier.isNone && decide (validation.decision = .noGo))
      (refused "full-multiplier gate-failure no-go differs from its validation tier/decision receipt")
  | .gaussianValidation validation =>
    demand (validation.approximationReceipt.passed &&
        validation.approximationReceipt.gaussianTierDecision = .feasibilityNoGo &&
        validation.approximationReceipt.fullMultiplierTierDecision = .feasibilityNoGo)
      (refused "Gaussian gate-failure no-go differs from its validation tier-decision receipt")
  | _ => .error (.keyError "approximation_receipt")

-- The documents of one scan have paths of their own, so the code's identity test is one of paths.
def requireTerminalStage (documents : List PowerDocument) (terminal : PowerDocument) : Py Unit :=
  let stages := documents.map fun document => document.payload.stage
  match terminal.payload.stage with
  | .screen => demand (stages.all fun stage => stage = .screen)
      (refused "screen no-go has fictitious downstream attempt refs")
  | .shard => do
    demand (stages.all fun stage => stage = .screen || stage = .shard)
      (refused "shard no-go has fictitious downstream attempt refs")
    demand ((orderedShards documents).getLast?.any fun shard => shard.document.relativePath = terminal.relativePath)
      (refused "shard no-go must name the last contiguous shard")
  | .selection => demand (!stages.contains .validation)
      (refused "selection no-go has a fictitious validation attempt")
  | _ => .ok ()

def requireFailure (nonfinal : List PowerDocument) (authority : DecisionAuthority)
    (finalAttempt : PowerPhase × ℕ) (failure : PowerFailure) : Py Unit := do
  demand (!(failure.kind = .feasibilityNoGo && authority ≠ .rosterBoundSelection))
    (refused "synthetic power authority cannot finalize FEASIBILITY_NO_GO")
  demand (!(failure.kind = .syntheticValidationFailed && authority ≠ .syntheticValidation))
    (refused "roster-bound power authority cannot finalize synthetic_validation_failed")
  let terminal ← required (refused "feasibility no-go terminal attempt is not in all_attempt_refs")
    (nonfinal.find? fun document => document.relativePath = failure.terminalAttemptRef.relativePath)
  let attempt := terminal.payload.attempt
  demand (terminal.payload.stage = failure.terminalStage)
    (refused "feasibility no-go terminal_stage does not match its attempt")
  demand (failure.terminalPhase = terminal.payload.phase)
    (refused "power finalization terminal_phase does not match its attempt")
  demand (powerKernelId .final terminal.payload.phase = some failure.terminalKernelId)
    (refused "power finalization terminal_kernel_id is not derived from terminal_phase")
  demand (failure.terminalShardCount = terminal.payload.shardCount)
    (refused "power finalization terminal_shard_count differs from its terminal attempt")
  demand (finalAttempt = attempt)
    (refused "final power report phase/generation differs from its terminal attempt")
  demand ((allowedReasons failure.kind terminal.payload.phase terminal.payload.stage).contains failure.reason)
    (refused "power failure reason does not match its terminal phase/stage")
  requireGateFailure failure.reason terminal
  demand (refIdentity failure.terminalAttemptRef = documentRefIdentity terminal)
    (refused "feasibility no-go terminal_attempt_ref metadata differs from the terminal attempt")
  requireTerminalStage (attemptDocuments nonfinal attempt) terminal
  demand (nonfinal.all fun document => !later document.payload.attempt attempt)
    (refused "feasibility no-go does not name the terminal power attempt")
  requireNoSuperseded nonfinal attempt
    (refused "feasibility no-go cannot supersede an earlier terminal power validation")

def requireFinalization (nonfinal : List PowerDocument) (final : Staged PowerFinal) : Py Unit := do
  let attempted := (nonfinal.map Document.relativePath).toFinset
  demand (attempted = (final.detail.allAttemptRefs.map ArtifactRef.relativePath).toFinset)
    (refused "final all_attempt_refs must parent every immutable power attempt")
  demand ((final.document.payload.parentRefs.map ArtifactRef.relativePath).toFinset = attempted)
    (refused "final parent_refs must parent every immutable power attempt")
  validatePowerTransitions nonfinal
  let authority := final.document.payload.decisionAuthority
  match final.detail.finalization with
  | .completedChain chain => requireCompletedChain nonfinal authority final.document.payload.attempt chain
  | .failed failure => requireFailure nonfinal authority final.document.payload.attempt failure

section Identities
variable {Layout : Type} (sources : PowerSources Layout)

def validatePowerIdentities (documents : List PowerDocument) (requireFinal : Bool) : Py Unit := do
  documents.forM fun document => requirePowerAuthority sources document.payload
  validatePowerAttemptTopology sources documents
  let nonfinal := nonfinalDocuments documents
  let finals := staged StagePayload.final? documents
  demand (decide (nonfinal.map attemptIdentity).Nodup) (refused "duplicate power attempt identity")
  demand (finals.length ≤ 1 && (!requireFinal || finals.length = 1))
    (refused "power authority requires exactly one final")
  match finals.head? with
  | none => validatePowerTransitions nonfinal
  | some final => requireFinalization nonfinal final

end Identities

end PneumaLab.ResamplingNull
