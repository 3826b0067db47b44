import PneumaLab.Library.Slices
import PneumaLab.ResamplingNull.Analysis.BatchIndependence
import PneumaLab.ResamplingNull.Power.Merkle

namespace PneumaLab.ResamplingNull
open Slices

abbrev GroupSizes := List ℕ × List ℕ

abbrev JointGroupLabels := List (List GroupLabel) × List (List GroupLabel)

structure GateInputs where
  authority : PowerAuthority
  digest : String
  phase : PowerPhase
  rosterGroupSizes : GroupSizes
  drawDomain : DrawDomain
  criticalValue : ℝ
  jointGroupLabels : Option JointGroupLabels

def PowerCell.inputs (cell : PowerCell) (gate : GateInputs) (nuisance : Nuisance) (sizes : List ℕ) : SimulationInputs where
  nuisance := nuisance
  family := cell.family
  taskCount := sizes.sum
  authorityKind := gate.authority.authorityKind
  tierMembershipSha256 := gate.authority.tierMembershipSha256
  gridContentDigest := gate.digest
  phase := gate.phase
  cellId := cell.cellId
  jointGroupSizes := sizes
  drawDomain := gate.drawDomain

section Batch

def labelBefore (left right : GroupLabel) : Bool :=
  decide (left.kind.value < right.kind.value) ||
    (decide (left.kind.value = right.kind.value) && !decide (right.value < left.value))

def sortedLabels (cells : List (List GroupLabel)) : List GroupLabel := cells.flatten.dedup.mergeSort labelBefore

def labelCounts (counts : BenchmarkPatternCounts) (cells : List (List GroupLabel)) (label : GroupLabel) : PatternCounts :=
  fun index => (((counts.jointGroupPatternCounts.zip cells).filter fun entry => label ∈ entry.2).map
    fun entry => entry.1 index).sum

def groupManifest (jointGroupLabels : Option JointGroupLabels) : List (Benchmark × Option GroupLabel) :=
  [(.SWE,none),(.TAU,none)] ++
    match jointGroupLabels with
    | none => []
    | some (sweCells,tauCells) => (sortedLabels sweCells).map (fun label => (.SWE,some label)) ++
        (sortedLabels tauCells).map fun label => (.TAU,some label)

def groupEntries (counts : BenchmarkPatternCounts) (cells : List (List GroupLabel)) : Py (List PatternCounts) := do
  demand (decide (counts.jointGroupPatternCounts.length = cells.length))
    (.recordValidationError "joint group labels do not match simulated group cells")
  return (sortedLabels cells).map (labelCounts counts cells)

def tensorEntries (jointGroupLabels : Option JointGroupLabels) (row : ReplayRow) : Py (List PatternCounts) := do
  let overall := [row.1.patternCounts,row.2.patternCounts]
  match jointGroupLabels with
  | none => return overall
  | some (sweCells,tauCells) => do
    let sweEntries ← groupEntries row.1 sweCells
    let tauEntries ← groupEntries row.2 tauCells
    return overall ++ (sweEntries ++ tauEntries)

def batchGroupManifestAndPatterns (rows : List ReplayRow) (jointGroupLabels : Option JointGroupLabels) :
    Py (List (Benchmark × Option GroupLabel) × List (List PatternCounts)) := do
  let tensor ← rows.mapM (tensorEntries jointGroupLabels)
  return (groupManifest jointGroupLabels,tensor)

def simulatedBatch (rosterRef : ArtifactRef) (manifest : List (Benchmark × Option GroupLabel))
    (tensor : List (List PatternCounts)) : BinarySufficientStatisticsBatch tensor.length manifest.length where
  rosterRef := rosterRef
  groupManifest := manifest.get
  patternCounts := fun run entry => (tensor.get run).getD entry fun _ => 0
  armFailureCounts := fun _ _ _ => 0
  pipelineInvalidCounts := fun _ => 0

def countNonzero {runs : ℕ} (flags : Fin runs → Bool) : ℕ := (List.finRange runs).countP flags

end Batch

structure GateTotals where
  datasetCount : ℕ
  causalPassCount : ℕ
  deriving DecidableEq

structure ChunkReceipt where
  start : ℕ
  datasetCount : ℕ
  causalPassCount : ℕ
  merkleRootSha256 : String

structure ExecutionReceipt where
  contractId : String
  cellId : String
  authorityKind : DecisionAuthority
  tierMembershipSha256 : String
  gridContentSha256 : String
  phase : PowerPhase
  drawDomain : DrawDomain
  criticalValue : ℝ
  datasetCount : ℕ
  groupLayoutSha256 : String
  jointGroupLabels : Option JointGroupLabels
  chunkSize : ℕ
  chunkCount : ℕ
  chunks : List ChunkReceipt
  fullMerkleRootSha256 : String
  aggregateGateTotals : GateTotals

def labelJson (label : GroupLabel) : Json := .obj [("kind",.str label.kind.value),("value",.str label.value)]

def receiptJointGroupLabels : Option JointGroupLabels → Json
  | none => .null
  | some (sweCells,tauCells) => .arr ([sweCells,tauCells].map fun benchmark =>
      .arr (benchmark.map fun cell => .arr (cell.map labelJson)))

def layoutJson (gate : GateInputs) : Json :=
  .obj [("SWE",.arr (gate.rosterGroupSizes.1.map fun size => .int size)),
    ("TAU",.arr (gate.rosterGroupSizes.2.map fun size => .int size)),
    ("joint_group_labels",receiptJointGroupLabels gate.jointGroupLabels)]

structure GateProgress where
  causalCount : ℕ
  leaves : List String
  chunks : List ChunkReceipt

def GateProgress.empty : GateProgress := ⟨0,[],[]⟩

section Execution
variable {G S : Type} (numpy : Numpy G) (patternProbabilities : (Fin 4 → ℚ) → ℚ → Py (Fin 16 → ℚ))
variable (generator : Generator S) (platform : Platform)

def replayRow (cell : PowerCell) (gate : GateInputs) (replicate : ℕ) : Program G Raised ReplayRow := do
  let swe ← simulateBenchmarkPatternCounts numpy patternProbabilities
    (cell.inputs gate cell.swe gate.rosterGroupSizes.1) replicate
  let tau ← simulateBenchmarkPatternCounts numpy patternProbabilities
    (cell.inputs gate cell.tau gate.rosterGroupSizes.2) replicate
  return (swe,tau)

def replayPatternChunk (cell : PowerCell) (gate : GateInputs) (start count : ℕ) : Program G Raised (List ReplayRow) := do
  Program.lift (demand (decide (0 < count ∧ count ≤ 256))
    (.recordValidationError "replay chunks must be bounded to 1..256 exact replicates"))
  (List.range' start count).mapM (replayRow numpy patternProbabilities cell gate)

noncomputable def evaluateRows (gate : GateInputs) (rows : List ReplayRow) : Py ℕ := do
  let (manifest,patterns) ← batchGroupManifestAndPatterns rows gate.jointGroupLabels
  let result ← evaluateBinaryGateBatch generator (simulatedBatch gate.authority.rosterRef manifest patterns)
    AnalysisConfig.default fun _ => gate.criticalValue
  return countNonzero result.causalPass

noncomputable def gateChunk (cell : PowerCell) (gate : GateInputs) (chunkSize datasetCount : ℕ) (progress : GateProgress)
    (start : ℕ) : Program G Raised GateProgress := do
  let count := min chunkSize (datasetCount - start)
  let rows ← replayPatternChunk numpy patternProbabilities cell gate start count
  let chunkPasses ← Program.lift (evaluateRows generator gate rows)
  let chunkLeaves := rows.map (replayLeaf platform)
  let chunkRoot ← Program.lift (merkleRoot platform chunkLeaves)
  return {
    causalCount := progress.causalCount + chunkPasses
    leaves := progress.leaves ++ chunkLeaves
    chunks := progress.chunks ++ [⟨start,count,chunkPasses,chunkRoot⟩] }

-- range(0, datasetCount, chunkSize)
def chunkStarts (datasetCount chunkSize : ℕ) : List ℕ :=
  (List.range (chunkCount datasetCount chunkSize)).map fun index => index * chunkSize

-- The source fixes the chunk size at 128.
noncomputable def gateTotalsForCell (chunkSize : ℕ) (cell : PowerCell) (gate : GateInputs) (datasetCount : ℕ) :
    Program G Raised (GateTotals × ExecutionReceipt) := do
  let progress ← (chunkStarts datasetCount chunkSize).foldlM
    (gateChunk numpy patternProbabilities generator platform cell gate chunkSize datasetCount) .empty
  let totals : GateTotals := ⟨datasetCount,progress.causalCount⟩
  let layout := (platform.sha256 (canonicalJsonBytes (layoutJson gate))).hex
  let fullRoot ← Program.lift (merkleRoot platform progress.leaves)
  return (totals,{
    contractId := "p0-count-replay-merkle-v2"
    cellId := cell.cellId
    authorityKind := gate.authority.authorityKind
    tierMembershipSha256 := gate.authority.tierMembershipSha256
    gridContentSha256 := gate.digest
    phase := gate.phase
    drawDomain := gate.drawDomain
    criticalValue := gate.criticalValue
    datasetCount := datasetCount
    groupLayoutSha256 := layout
    jointGroupLabels := gate.jointGroupLabels
    chunkSize := chunkSize
    chunkCount := progress.chunks.length
    chunks := progress.chunks
    fullMerkleRootSha256 := fullRoot
    aggregateGateTotals := totals })

structure SimulatedCell where
  cellId : String
  family : CellFamily
  gateTotals : GateTotals
  replayReceipt : ExecutionReceipt

structure SimulatedShard where
  shardIndex : ℕ
  cellResults : List SimulatedCell
  datasetCount : ℕ
  executionComplete : Bool

structure ShardSources where
  shardCount : ℕ
  phase : PowerPhase
  cells : List PowerCell
  datasetsPerCell : ℕ
  authority : PowerAuthority
  digest : String
  rosterGroupSizes : GroupSizes
  jointGroupLabels : JointGroupLabels

noncomputable def ShardSources.gate (sources : ShardSources) : GateInputs where
  authority := sources.authority
  digest := sources.digest
  phase := sources.phase
  rosterGroupSizes := sources.rosterGroupSizes
  drawDomain := .grid
  criticalValue := 49 / 25
  jointGroupLabels := some sources.jointGroupLabels

noncomputable def simulateCell (chunkSize datasetCount : ℕ) (gate : GateInputs) (cell : PowerCell) :
    Program G Raised SimulatedCell := do
  let (totals,receipt) ← gateTotalsForCell numpy patternProbabilities generator platform chunkSize cell gate datasetCount
  return ⟨cell.cellId,cell.family,totals,receipt⟩

noncomputable def simulatePowerShard (chunkSize : ℕ) (sources : ShardSources) (shardIndex : ℕ)
    (maxDatasets maxCells : Option ℕ) : Program G Raised SimulatedShard := do
  let count := sources.shardCount
  Program.lift (demand (decide (shardIndex < count))
    (.recordValidationError "shard_index lies outside the frozen screen topology"))
  let start := sources.cells.length * shardIndex / count
  let stop := sources.cells.length * (shardIndex + 1) / count
  Program.lift (demand (maxDatasets.all fun limit => decide (0 < limit ∧ limit ≤ sources.datasetsPerCell))
    (.recordValidationError "max_datasets must be a positive bounded integer"))
  Program.lift (demand (maxCells.all fun limit => decide (0 < limit ∧ limit ≤ stop - start))
    (.recordValidationError "max_cells must be a positive bounded integer"))
  Program.lift (demand ((maxDatasets.isNone && maxCells.isNone) ||
      decide (sources.authority.authorityKind = .syntheticValidation))
    (.recordValidationError "only synthetic fixtures may use incomplete P0 shard execution"))
  let datasetCount := maxDatasets.getD sources.datasetsPerCell
  let last := match maxCells with
    | none => stop
    | some limit => min stop (start + limit)
  let results ← (slice sources.cells start last).mapM
    (simulateCell numpy patternProbabilities generator platform chunkSize datasetCount sources.gate)
  return ⟨shardIndex,results,datasetCount,decide (datasetCount = sources.datasetsPerCell) && maxCells.isNone⟩

end Execution

end PneumaLab.ResamplingNull
