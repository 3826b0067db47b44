import Mathlib
import PneumaLab.ResamplingNull.Types
import PneumaLab.Library.MassFunction

namespace PneumaLab.ResamplingNull

-- One named fact behind every index of the benchmark axis, one behind every outcome pattern.
instance benchmarks_ne_zero : NeZero 2 := ⟨two_ne_zero⟩

instance patterns_ne_zero : NeZero 16 := ⟨by decide⟩

inductive Benchmark where
  | SWE
  | TAU
  deriving DecidableEq, Repr

def Benchmark.text : Benchmark → String
  | .SWE => "SWE"
  | .TAU => "TAU"

inductive Bit where
  | zero
  | one
  deriving DecidableEq, Repr

def Bit.toInt : Bit → ℤ
  | .zero => 0
  | .one => 1

structure AnalysisRow where
  taskId : String
  benchmark : Benchmark
  stratum : String
  lineage : String
  sensitivityGroups : List GroupLabel
  triggered : Bool
  prefixOutcome : Bit
  real : Bit
  sham : Bit
  none : Bit
  resample : Bit
  realInfrastructureFailure : Bool
  shamInfrastructureFailure : Bool
  noneInfrastructureFailure : Bool
  resampleInfrastructureFailure : Bool
  pipelineValid : Bool
  invalidCodes : List String
  deriving DecidableEq

structure AnalysisConfig where
  alpha : ℚ
  deltaStar : ℚ
  sharpDraws : ℕ
  multiplierDraws : ℕ
  maxDifferentialFailureGap : ℚ
  frozen : alpha = 1 / 20 ∧ deltaStar = 1 / 20 ∧ sharpDraws = 999999 ∧
    multiplierDraws = 99999 ∧ maxDifferentialFailureGap = 1 / 50

def AnalysisConfig.default : AnalysisConfig where
  alpha := 1 / 20
  deltaStar := 1 / 20
  sharpDraws := 999999
  multiplierDraws := 99999
  maxDifferentialFailureGap := 1 / 50
  frozen := by simp

abbrev PatternCounts := Fin 16 → ℤ

abbrev ArmCounts := Fin 4 → ℤ

structure BinarySufficientStatistics where
  rosterRef : ArtifactRef
  benchmarkGroupPatternCounts : List (Benchmark × List GroupLabel × PatternCounts)
  armFailureCounts : List (Benchmark × ArmCounts)
  pipelineInvalidCount : ℤ

structure BinarySufficientStatisticsBatch (runs entries : ℕ) where
  rosterRef : ArtifactRef
  groupManifest : Fin entries → Benchmark × Option GroupLabel
  patternCounts : Fin runs → Fin entries → PatternCounts
  armFailureCounts : Fin runs → Fin 2 → ArmCounts
  pipelineInvalidCounts : Fin runs → ℤ

inductive RandomizationMode where
  | enumeratedExact
  | dynamicProgramExact
  | addOneMonteCarlo
  deriving DecidableEq, Repr

structure RandomizationResult where
  statistic : ℚ
  pValue : ℚ
  mode : RandomizationMode
  supportSize : Option ℕ
  draws : Option ℤ
  deriving DecidableEq

inductive ResolutionMode where
  | equalRosterExactBinomial
  | unequalRosterExactWeightedConvolution
  deriving DecidableEq, Repr

structure ResolutionResult where
  q0 : ℚ
  r95 : ℚ
  discordantTaskCount : ℕ
  mode : ResolutionMode
  deriving DecidableEq

structure SimultaneousBounds where
  estimates : List ℚ
  standardErrors : List (WithTop ℝ)
  lowers : List EReal
  uppers : List EReal
  criticalValue : WithTop ℝ
  draws : ℤ
  seed : ℤ
  quantileOrder : ℕ

inductive GateValue where
  | number (value : EReal)
  | flag (value : Bool)

structure GateResult where
  code : String
  passed : Bool
  observed : GateValue
  comparator : String
  threshold : GateValue

structure GateBatchResult (runs : ℕ) where
  causalPass : Fin runs → Bool
  contentEstimate : Fin runs → ℚ
  excessEstimate : Fin runs → ℚ
  contentSharpP : Fin runs → ℚ
  excessSharpP : Fin runs → ℚ
  primaryLowers : Fin runs → Fin 2 → EReal
  r95 : Fin runs → ℚ
  differentialFailureGap : Fin runs → ℚ
  allBenchmarkNonnegative : Fin runs → Bool
  allLeaveOneNonnegative : Fin runs → Bool

open MassFunction

def enumerationLimit : ℕ := 100000

def dynamicStateLimit : ℕ := 100000

inductive Domain where
  | content
  | excess
  | omnibus
  | multiplier
  deriving DecidableEq, Repr

def Domain.code : Domain → ℕ
  | .content => 0x43544E54
  | .excess => 0x45584353
  | .omnibus => 0x4F4D4E49
  | .multiplier => 0x4D554C54

structure Generator (G : Type) where
  seeded : ℕ × ℕ → G
  integers : G → ℕ → ℕ × G
  integersBlock : G → ℕ → ℕ → List ℕ × G
  integers_lt : ∀ g bound, 0 < bound → (integers g bound).1 < bound

inductive ContrastName where
  | content
  | excess
  | shamPacket
  | continuation
  | total
  | null
  deriving DecidableEq, Repr

def taskContrasts (row : AnalysisRow) : ContrastName → ℚ :=
  let noFeedback : ℚ := (row.none.toInt + row.resample.toInt) / 2
  fun
  | .content => row.real.toInt - row.sham.toInt
  | .excess => row.real.toInt - noFeedback
  | .shamPacket => row.sham.toInt - noFeedback
  | .continuation => noFeedback - row.prefixOutcome.toInt
  | .total => row.real.toInt - row.prefixOutcome.toInt
  | .null => row.resample.toInt - row.none.toInt

def benchmarkCount (rows : List AnalysisRow) (benchmark : Benchmark) : ℕ :=
  rows.countP fun row => row.benchmark = benchmark

def weights (rows : List AnalysisRow) : Py (Benchmark → ℚ) := do
  demand (0 < benchmarkCount rows .SWE && 0 < benchmarkCount rows .TAU)
    (.valueError "registered analysis requires exactly SWE and TAU rows")
  return fun benchmark => 1 / (2 * benchmarkCount rows benchmark)

def observed (rows : List AnalysisRow) (name : ContrastName) : Py ℚ := do
  let weight ← weights rows
  return (rows.map fun row => weight row.benchmark * taskContrasts row name).sum

variable {G : Type} (generator : Generator G)

def rng (seed : ℤ) (domain : Domain) : Py G := do
  demand (0 ≤ seed && seed < 2 ^ 64) (.valueError "seed must be an unsigned 64-bit integer")
  return generator.seeded (seed.toNat,domain.code)

section Draws
variable {K : Type} [AddCommMonoid K] [LinearOrder K]

def drawStatistic : List (List K) → K → G → K × G
  | [], statistic, g => (statistic,g)
  | options :: rest, statistic, g =>
    let (index,g') := generator.integers g options.length
    drawStatistic rest (statistic + options.getD index 0) g'

def exceedances (choices : List (List K)) (threshold : K) : ℕ → G → ℕ
  | 0, _ => 0
  | draws + 1, g =>
    let (statistic,g') := drawStatistic generator choices 0 g
    (if threshold ≤ statistic then 1 else 0) + exceedances choices threshold draws g'

end Draws

def tailResult (statistic : ℚ) (distribution : List (ℚ × ℕ)) (supportSize : ℕ)
    (mode : RandomizationMode) : RandomizationResult where
  statistic := statistic
  pValue := tail distribution statistic / total distribution
  mode := mode
  supportSize := some supportSize
  draws := none

def monteCarlo (statistic : ℚ) (choices : List (List ℚ)) (draws seed : ℤ) (domain : Domain) :
    Py RandomizationResult := do
  demand (0 < draws) (.valueError "draws must be a positive exact int")
  let g ← rng generator seed domain
  return {
    statistic := statistic
    pValue := (1 + exceedances generator choices statistic draws.toNat g) / (1 + draws)
    mode := .addOneMonteCarlo
    supportSize := none
    draws := some draws }

def productTail (statistic : ℚ) (choices : List (List ℚ)) (draws seed : ℤ) (domain : Domain) :
    Py RandomizationResult :=
  let supportSize := (choices.map List.length).prod
  if supportSize ≤ enumerationLimit then
    .ok (tailResult statistic (counted ((product choices).map List.sum)) supportSize .enumeratedExact)
  else
    match sequential dynamicStateLimit choices [(0,1)] with
    | none => monteCarlo generator statistic choices draws seed domain
    | some distribution => .ok (tailResult statistic distribution supportSize .dynamicProgramExact)

def contentOptions (weight : ℚ) (row : AnalysisRow) : List ℚ :=
  [weight * (row.real.toInt - row.sham.toInt),weight * (row.sham.toInt - row.real.toInt)]

def excessOptions (weight : ℚ) (row : AnalysisRow) : List ℚ :=
  let values := [row.real.toInt,row.none.toInt,row.resample.toInt]
  values.map fun value => weight * ((3 * value - values.sum : ℤ) / 2)

def sharpContentPvalue (rows : List AnalysisRow) (draws seed : ℤ) : Py RandomizationResult := do
  let weight ← weights rows
  let statistic ← observed rows .content
  let choices := rows.map fun row => contentOptions (weight row.benchmark) row
  productTail generator statistic choices draws seed .content

def sharpExcessPvalue (rows : List AnalysisRow) (draws seed : ℤ) : Py RandomizationResult := do
  let weight ← weights rows
  let statistic ← observed rows .excess
  let choices := rows.map fun row => excessOptions (weight row.benchmark) row
  productTail generator statistic choices draws seed .excess

end PneumaLab.ResamplingNull
