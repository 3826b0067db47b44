import PneumaLab.Library.Json
import PneumaLab.ResamplingNull.Projection.Documents

namespace PneumaLab.ResamplingNull

inductive PowerPhase where
  | gaussianApproximation
  | fullMultiplierFallback
  deriving DecidableEq, Repr

inductive PowerStage where
  | screen
  | shard
  | selection
  | validation
  | final
  deriving DecidableEq, Repr

inductive DecisionAuthority where
  | syntheticValidation
  | rosterBoundSelection
  | implementationVerification
  deriving DecidableEq, Repr

inductive PowerDecision where
  | go
  | noGo
  | conditionalOnly
  | implementationVerificationOnly
  deriving DecidableEq, Repr

inductive Tier where
  | c120
  | c160
  deriving DecidableEq, Repr

inductive TierDecision where
  | tier (value : Tier)
  | feasibilityNoGo
  | conditionalOnly
  | implementationVerificationOnly
  deriving DecidableEq, Repr

-- The schema fixes every other number of the contract.
structure NumericContract where
  numpyVersion : String
  deriving DecidableEq

structure CellResult where
  cellId : String
  receipt : Json

structure ApproximationReceipt where
  gaussianTierDecision : TierDecision
  fullMultiplierTierDecision : TierDecision
  passed : Bool

structure IntervalReceipt where
  cellId : String

structure PowerScreen where
  phase : PowerPhase
  cellCount : ℕ
  fallbackTriggerRef : Option ArtifactRef

structure PowerShard where
  phase : PowerPhase
  shardIndex : ℕ
  cellResults : List CellResult
  datasetCount : ℕ

structure PowerSelection where
  selectedCells : List String
  selectionCount : ℕ

structure GaussianValidation where
  selectedCells : List String
  intervalReceipts : List IntervalReceipt
  approximationReceipt : ApproximationReceipt

structure FullGridValidation where
  fallbackTriggerRef : ArtifactRef
  completeCellIds : List String
  selectedTier : Option Tier
  decision : PowerDecision

inductive CompletedBranch where
  | gaussian (selectedSelectionRef selectedValidationRef : ArtifactRef)
  | fullMultiplier (fallbackTriggerRef fullGridValidationRef : ArtifactRef)

def CompletedBranch.phase : CompletedBranch → PowerPhase
  | .gaussian _ _ => .gaussianApproximation
  | .fullMultiplier _ _ => .fullMultiplierFallback

structure CompletedChain where
  selectedGeneration : ℕ
  selectedKernelId : String
  selectedShardCount : ℕ
  selectedScreenRef : ArtifactRef
  selectedShardRefs : List ArtifactRef
  selectedTier : Option Tier
  decision : PowerDecision
  branch : CompletedBranch

inductive PowerFailureKind where
  | feasibilityNoGo
  | syntheticValidationFailed
  deriving DecidableEq

inductive PowerFailureReason where
  | gaussianScreenExhausted
  | fullMultiplierScreenExhausted
  | numericFixtureFailed
  | runtimeBoundExceeded
  | attemptIncomplete
  | powerOrTypeIGateFailed
  | syntheticValidationGateFailed
  deriving DecidableEq

structure PowerFailure where
  kind : PowerFailureKind
  terminalAttemptRef : ArtifactRef
  terminalStage : PowerStage
  terminalPhase : PowerPhase
  terminalKernelId : String
  terminalShardCount : ℕ
  reason : PowerFailureReason

inductive Finalization where
  | completedChain (chain : CompletedChain)
  | failed (failure : PowerFailure)

structure PowerFinal where
  phase : PowerPhase
  allAttemptRefs : List ArtifactRef
  finalization : Finalization

inductive StagePayload where
  | screen (screen : PowerScreen)
  | shard (shard : PowerShard)
  | selection (selection : PowerSelection)
  | gaussianValidation (validation : GaussianValidation)
  | fullGridValidation (validation : FullGridValidation)
  | final (final : PowerFinal)

namespace StagePayload

def stage : StagePayload → PowerStage
  | .screen _ => .screen
  | .shard _ => .shard
  | .selection _ => .selection
  | .gaussianValidation _ => .validation
  | .fullGridValidation _ => .validation
  | .final _ => .final

-- The schema gives each validation, and every selection, the one phase it can have.
def phase : StagePayload → PowerPhase
  | .screen payload => payload.phase
  | .shard payload => payload.phase
  | .selection _ => .gaussianApproximation
  | .gaussianValidation _ => .gaussianApproximation
  | .fullGridValidation _ => .fullMultiplierFallback
  | .final payload => payload.phase

def screen? : StagePayload → Option PowerScreen
  | .screen payload => some payload
  | _ => none

def shard? : StagePayload → Option PowerShard
  | .shard payload => some payload
  | _ => none

def selection? : StagePayload → Option PowerSelection
  | .selection payload => some payload
  | _ => none

def gaussianValidation? : StagePayload → Option GaussianValidation
  | .gaussianValidation validation => some validation
  | _ => none

def fullGridValidation? : StagePayload → Option FullGridValidation
  | .fullGridValidation validation => some validation
  | _ => none

def final? : StagePayload → Option PowerFinal
  | .final payload => some payload
  | _ => none

end StagePayload

structure PowerPayload where
  authorityRef : ArtifactRef
  decisionAuthority : DecisionAuthority
  generation : ℕ
  rosterRef : ArtifactRef
  tierMembershipSha256 : String
  gridRef : ArtifactRef
  screenTopologyRef : ArtifactRef
  rngContractSha256 : String
  gridContentSha256 : String
  kernelId : String
  shardCount : ℕ
  parentRefs : List ArtifactRef
  configRef : ArtifactRef
  numericFixtureRef : ArtifactRef
  numericContract : NumericContract
  body : StagePayload

abbrev PowerDocument := Document PowerPayload

namespace PowerPayload

def stage (payload : PowerPayload) : PowerStage := payload.body.stage

def phase (payload : PowerPayload) : PowerPhase := payload.body.phase

def attempt (payload : PowerPayload) : PowerPhase × ℕ := (payload.phase,payload.generation)

end PowerPayload

structure RefIdentity where
  relativePath : String
  sha256 : String
  byteCount : ℕ
  mediaType : String
  deriving DecidableEq

def refIdentity (ref : ArtifactRef) : RefIdentity :=
  ⟨ref.relativePath,ref.sha256,ref.byteCount,ref.mediaType⟩

def documentRefIdentity {α : Type} (document : Document α) : RefIdentity :=
  ⟨document.relativePath,document.sha256,document.byteCount,"application/json"⟩

def powerKernelId : PowerStage → PowerPhase → Option String
  | .screen, .gaussianApproximation => some "power-screen-gaussian-v1"
  | .shard, .gaussianApproximation => some "power-grid-gaussian-v1"
  | .selection, .gaussianApproximation => some "power-worst-five-selection-v1"
  | .validation, .gaussianApproximation => some "power-gaussian-vs-multiplier-validation-v1"
  | .final, .gaussianApproximation => some "power-final-gaussian-v1"
  | .screen, .fullMultiplierFallback => some "power-screen-full-multiplier-v1"
  | .shard, .fullMultiplierFallback => some "power-grid-full-multiplier-v1"
  | .selection, .fullMultiplierFallback => none
  | .validation, .fullMultiplierFallback => some "power-full-grid-validation-v1"
  | .final, .fullMultiplierFallback => some "power-final-full-multiplier-v1"

structure Staged (σ : Type) where
  document : PowerDocument
  detail : σ

def staged {σ : Type} (view : StagePayload → Option σ) (documents : List PowerDocument) : List (Staged σ) :=
  documents.filterMap fun document => (view document.payload.body).map (Staged.mk document)

theorem mem_staged {σ : Type} {view : StagePayload → Option σ} {documents : List PowerDocument}
    {entry : Staged σ} : entry ∈ staged view documents ↔
      entry.document ∈ documents ∧ view entry.document.payload.body = some entry.detail := by
  simp only [staged,List.mem_filterMap,Option.map_eq_some_iff]
  constructor
  · rintro ⟨document,hmem,detail,hview,rfl⟩
    exact ⟨hmem,hview⟩
  · rintro ⟨hmem,hview⟩
    exact ⟨entry.document,hmem,entry.detail,hview,rfl⟩

def requireParentChain (value : List ArtifactRef) (expected : List RefIdentity) (field : String) : Py Unit :=
  demand (value.map refIdentity = expected)
    (refused (field ++ " does not exactly parent the frozen power stage chain"))

structure PowerAuthority where
  authorityKind : DecisionAuthority
  rosterRef : ArtifactRef
  tierMembershipSha256 : String

structure PowerConfig where
  rngContractSha256 : String

-- What the run root's files yield: the closed authority and grid contracts, and the replay of a
-- shard's receipts, which the code takes from its power module.
structure PowerSources (Layout : Type) where
  loadPowerAuthority : ArtifactRef → Py PowerAuthority
  loadPowerConfig : ArtifactRef → ArtifactRef → ArtifactRef → Py PowerConfig
  gridContentSha256 : ArtifactRef → DecisionAuthority → Py String
  readGrid : ArtifactRef → Py Json
  frozenPowerCells : ArtifactRef → DecisionAuthority → Py (List String)
  replayLayout : PowerAuthority → ArtifactRef → Py Layout
  validatePowerExecutionReceipt : CellResult → PowerAuthority → String → Layout → Py Unit

def cellIdText : Json → Option String
  | .str cellId => if cellId = "" then none else some cellId
  | _ => none

def extractOrderedCellIds (value : Json) : Option (List String) :=
  let candidate := match value with
    | .obj fields =>
      match ["cells","cell_ids","grid"].find? fun key => fields.any fun field => field.1 = key with
      | some key => Json.get fields key
      | none => value
    | _ => value
  match candidate with
  | .arr items => items.mapM fun item =>
    match item with
    | .obj fields => cellIdText (Json.get fields "cell_id")
    | item => cellIdText item
  | _ => none

variable {Layout : Type} (sources : PowerSources Layout)

def orderedCellIds (payload : PowerPayload) (decoded : Json) : Py (List String) :=
  match extractOrderedCellIds decoded with
  | some cellIds => .ok cellIds
  | none => sources.frozenPowerCells payload.gridRef payload.decisionAuthority

def powerGridCellIds (payload : PowerPayload) : Py (List String) := do
  let decoded ← sources.readGrid payload.gridRef
  let cellIds ← orderedCellIds sources payload decoded
  demand (!cellIds.isEmpty && decide cellIds.Nodup)
    (refused "power grid_ref must expose unique ordered cell IDs")
  return cellIds

theorem powerGridCellIds_nodup {payload : PowerPayload} {cellIds : List String}
    (h : powerGridCellIds sources payload = .ok cellIds) : cellIds.Nodup := by
  simp only [powerGridCellIds,bind_eq_ok,demand_eq_ok,Bool.and_eq_true,decide_eq_true_eq] at h
  obtain ⟨_,_,_,_,_,⟨_,hnodup⟩,hreturn⟩ := h
  cases hreturn
  exact hnodup

end PneumaLab.ResamplingNull
