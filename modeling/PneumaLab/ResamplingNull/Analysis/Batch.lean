import PneumaLab.ResamplingNull.Analysis.Kernel

namespace PneumaLab.ResamplingNull
open MassFunction

def optionLow (options : List ℤ) : ℤ := options.foldr min (options.headD 0)

def optionHigh (options : List ℤ) : ℤ := options.foldr max (options.headD 0)

def choiceSpan (groups : List (List ℤ × ℕ)) : ℤ :=
  (groups.map fun group => (optionHigh group.1 - optionLow group.1) * group.2).sum

def choiceStep (groups : List (List ℤ × ℕ)) : ℕ :=
  groups.foldl (fun step group =>
    group.1.foldl (fun step option => Nat.gcd step (option - optionLow group.1).natAbs) step) 0

def sequentialStateBound (groups : List (List ℤ × ℕ)) : Option ℤ :=
  if choiceSpan groups = 0 then some 1
  else if choiceStep groups = 0 then none
  else some (choiceSpan groups / choiceStep groups + 1)

def groupedConvolution (groups : List (List ℤ × ℕ)) : List (ℤ × ℕ) :=
  groups.foldl (fun distribution group =>
    groupedPower group.2 distribution (counted group.1) group.2) [(0,1)]

def groupedExactTail (groups : List (List ℤ × ℕ)) (threshold : ℤ) : ℚ :=
  let distribution := groupedConvolution groups
  tail distribution threshold / total distribution

abbrev RunCounts := Fin 2 → PatternCounts

def rosterOf (counts : RunCounts) (benchmark : Fin 2) : ℤ := countTotal (counts benchmark)

def commonDenominator (counts : RunCounts) : ℕ :=
  Nat.lcm (4 * (rosterOf counts 0).toNat) (4 * (rosterOf counts 1).toNat)

def optionScale (counts : RunCounts) (benchmark : Fin 2) : ℤ :=
  commonDenominator counts / (4 * rosterOf counts benchmark)

def countOptions (excess : Bool) (scale : ℤ) (pattern : Pattern) : List ℤ :=
  if excess then
    let values := [pattern.real.toInt,pattern.none.toInt,pattern.resample.toInt]
    values.map fun value => (3 * value - values.sum) * scale
  else
    [(pattern.real.toInt - pattern.sham.toInt) * 2 * scale,
      (pattern.sham.toInt - pattern.real.toInt) * 2 * scale]

def countContrast (excess : Bool) (pattern : Pattern) : ℤ :=
  if excess then 2 * pattern.real.toInt - pattern.none.toInt - pattern.resample.toInt
  else (pattern.real.toInt - pattern.sham.toInt) * 2

def countCells : List (Fin 2 × Fin 16) :=
  (List.finRange 2).flatMap fun benchmark => (List.finRange 16).map fun index => (benchmark,index)

def countChoices (counts : RunCounts) (excess : Bool) : List (List ℤ) :=
  countCells.flatMap fun cell => List.replicate (counts cell.1 cell.2).toNat
    (countOptions excess (optionScale counts cell.1) (patterns cell.2))

def countObserved (counts : RunCounts) (excess : Bool) : ℤ :=
  (countCells.map fun cell =>
    countContrast excess (patterns cell.2) * optionScale counts cell.1 * counts cell.1 cell.2).sum

def countGroups (counts : RunCounts) (excess : Bool) : List (List ℤ × ℕ) :=
  let multiset := countCells.foldl (fun multiset cell =>
    let repeats := (counts cell.1 cell.2).toNat
    if repeats = 0 then multiset
    else bump multiset (countOptions excess (optionScale counts cell.1) (patterns cell.2)) repeats) []
  multiset.mergeSort fun left right => !decide (right.1 < left.1)

variable {G : Type} (generator : Generator G)

def sequentialTail (choices : List (List ℤ)) (threshold : ℤ) (draws : ℕ) (seed : ℤ)
    (domain : Domain) : Py ℚ :=
  match sequential dynamicStateLimit choices [(0,1)] with
  | some distribution => .ok (tail distribution threshold / total distribution)
  | none => do
    let g ← rng generator seed domain
    return (1 + exceedances generator choices threshold draws g) / (1 + draws)

def countSharpTail (counts : RunCounts) (excess : Bool) (draws : ℕ) (seed : ℤ) : Py ℚ :=
  let groups := countGroups counts excess
  let threshold := countObserved counts excess
  let fallback := sequentialTail generator (countChoices counts excess) threshold draws seed
    (if excess then .excess else .content)
  match sequentialStateBound groups with
  | some bound =>
    if bound ≤ dynamicStateLimit then .ok (groupedExactTail groups threshold) else fallback
  | none => fallback

def discordantCount (counts : RunCounts) (benchmark : Fin 2) : ℤ :=
  (((List.finRange 16).filter fun index => (patterns index).none ≠ (patterns index).resample).map
    (counts benchmark)).sum

def countResolution (counts : RunCounts) : Py ℚ :=
  resolutionValue (fun benchmark => (rosterOf counts benchmark).toNat)
    (fun benchmark => (discordantCount counts benchmark).toNat)

def contrastMatrix (index : Fin 16) (contrast : Fin 2) : ℚ :=
  let bits := patterns index
  if contrast = 0 then bits.real.toInt - bits.sham.toInt
  else bits.real.toInt - (bits.none.toInt + bits.resample.toInt : ℚ) / 2

def contrastTotal (counts : PatternCounts) (value : Fin 16 → ℚ) : ℚ :=
  ((List.finRange 16).map fun index => counts index * value index).sum

def meanByBenchmark (counts : RunCounts) (benchmark contrast : Fin 2) : ℚ :=
  contrastTotal (counts benchmark) (fun index => contrastMatrix index contrast) /
    rosterOf counts benchmark

def runEstimate (counts : RunCounts) (contrast : Fin 2) : ℚ :=
  (meanByBenchmark counts 0 contrast + meanByBenchmark counts 1 contrast) / 2

def covarianceEntry (counts : RunCounts) (benchmark contrast : Fin 2) : ℚ :=
  let second := contrastTotal (counts benchmark)
    (fun index => contrastMatrix index contrast * contrastMatrix index contrast) /
      rosterOf counts benchmark
  (second - meanByBenchmark counts benchmark contrast * meanByBenchmark counts benchmark contrast) /
    max 1 (rosterOf counts benchmark - 1)

def pooledCovariance (counts : RunCounts) (contrast : Fin 2) : ℚ :=
  (covarianceEntry counts 0 contrast + covarianceEntry counts 1 contrast) / 4

noncomputable def batchStandardError (counts : RunCounts) (contrast : Fin 2) : WithTop ℝ :=
  if rosterOf counts 0 < 2 ∨ rosterOf counts 1 < 2 then ⊤
  else ((Real.sqrt (max 0 (pooledCovariance counts contrast : ℝ)) : ℝ) : WithTop ℝ)

noncomputable def batchLower (counts : RunCounts) (criticalValue : ℝ) (contrast : Fin 2) : EReal :=
  match batchStandardError counts contrast with
  | some error => ((runEstimate counts contrast - criticalValue * error : ℝ) : EReal)
  | ⊤ => ⊥

def equalRate (counts : RunCounts) (failures : Fin 2 → ArmCounts) (arm : Fin 4) : ℚ :=
  ((failures 0 arm : ℚ) / rosterOf counts 0 + (failures 1 arm : ℚ) / rosterOf counts 1) / 2

def benchmarkNonnegative (counts : RunCounts) : Bool :=
  decide (∀ benchmark contrast, 0 ≤ meanByBenchmark counts benchmark contrast)

def benchmarkAxis : Benchmark → Fin 2
  | .SWE => 0
  | .TAU => 1

def retainedTotal (counts : RunCounts) (base : Fin 2) (group : PatternCounts) : ℤ :=
  rosterOf counts base - countTotal group

def retainedEstimate (counts : RunCounts) (base : Fin 2) (group : PatternCounts)
    (contrast : Fin 2) : ℚ :=
  let retainedMean := contrastTotal (fun index => counts base index - group index)
    (fun index => contrastMatrix index contrast) / retainedTotal counts base group
  (retainedMean + meanByBenchmark counts (1 - base) contrast) / 2

-- The exact -1/20, which doubles of the same mean can miss.
def retainedHolds (counts : RunCounts) (base : Fin 2) (group : PatternCounts) : Bool :=
  decide (∀ contrast, -(1 / 20) ≤ retainedEstimate counts base group contrast)

section Tensor
variable {runs entries : ℕ} (statistics : BinarySufficientStatisticsBatch runs entries)

def overallEntry (benchmark : Benchmark) : Option (Fin entries) :=
  (List.finRange entries).find? fun entry => statistics.groupManifest entry = (benchmark,none)

def overallEntries : List (Fin entries) :=
  (List.finRange entries).filter fun entry => (statistics.groupManifest entry).2.isNone

def runCounts (swe tau : Fin entries) (run : Fin runs) : RunCounts :=
  ![statistics.patternCounts run swe,statistics.patternCounts run tau]

def batchLeaveOneStep (counts : Fin runs → RunCounts) (passing : Fin runs → Bool)
    (entry : Fin entries) : Fin runs → Bool :=
  if (statistics.groupManifest entry).2.isNone then passing
  else
    let base := benchmarkAxis (statistics.groupManifest entry).1
    let retained := fun run => retainedTotal (counts run) base (statistics.patternCounts run entry)
    if ∃ run, retained run ≤ 0 then fun _ => false
    else fun run => passing run && retainedHolds (counts run) base (statistics.patternCounts run entry)

def batchLeaveOne (counts : Fin runs → RunCounts) : Fin runs → Bool :=
  (List.finRange entries).foldl (batchLeaveOneStep statistics counts) fun _ => true

def collect {α : Type} [Inhabited α] (values : Fin runs → Py α) : Py (Fin runs → α) := do
  let gathered ← (List.finRange runs).mapM values
  return fun run => gathered.getD run default

open Classical in
noncomputable def evaluateBinaryGateBatch (config : AnalysisConfig) (criticalValues : Fin runs → ℝ) :
    Py (GateBatchResult runs) :=
  match overallEntry statistics .SWE, overallEntry statistics .TAU with
  | some swe, some tau => do
    demand ((overallEntries statistics).length = 2)
      (.valueError "batch requires one SWE and one TAU overall count row")
    let counts := runCounts statistics swe tau
    demand (decide (∀ run, (∀ benchmark, rosterOf (counts run) benchmark ≠ 0) ∧
        (∀ benchmark index, 0 ≤ counts run benchmark index) ∧
        (∀ benchmark arm, 0 ≤ statistics.armFailureCounts run benchmark arm)))
      (.valueError "batch counts must be non-negative with both rosters non-empty")
    let lowers := fun run => batchLower (counts run) (criticalValues run)
    let contentP ← collect fun run => countSharpTail generator (counts run) false config.sharpDraws 0
    let excessP ← collect fun run => countSharpTail generator (counts run) true config.sharpDraws 0
    let r95 ← collect fun run => countResolution (counts run)
    let gap := fun run => maximumGap (equalRate (counts run) (statistics.armFailureCounts run))
    let benchmarkOk := fun run => benchmarkNonnegative (counts run)
    let leaveOneOk := batchLeaveOne statistics counts
    return {
      causalPass := fun run => decide (statistics.pipelineInvalidCounts run = 0) &&
        decide (contentP run ≤ config.alpha) && decide (excessP run ≤ config.alpha) &&
        decide (∀ contrast, 0 < lowers run contrast) &&
        decide (∀ contrast, config.deltaStar ≤ runEstimate (counts run) contrast) &&
        decide (∀ contrast, r95 run < runEstimate (counts run) contrast) &&
        benchmarkOk run && leaveOneOk run &&
        decide (gap run ≤ config.maxDifferentialFailureGap)
      contentEstimate := fun run => runEstimate (counts run) 0
      excessEstimate := fun run => runEstimate (counts run) 1
      contentSharpP := contentP
      excessSharpP := excessP
      primaryLowers := lowers
      r95 := r95
      differentialFailureGap := gap
      allBenchmarkNonnegative := benchmarkOk
      allLeaveOneNonnegative := leaveOneOk }
  | _, _ => .error (.valueError "batch requires one SWE and one TAU overall count row")

end Tensor

end PneumaLab.ResamplingNull
