import PneumaLab.ResamplingNull.Analysis.Randomization

namespace PneumaLab.ResamplingNull

def mean (values : List ℚ) : ℚ := values.sum / values.length

def sampleVariance (values : List ℚ) : ℚ :=
  (values.map fun value => (value - mean values) ^ 2).sum / (values.length - 1)

def rowBefore (left right : AnalysisRow) : Bool :=
  left.benchmark.text < right.benchmark.text ||
    (left.benchmark = right.benchmark && !(right.taskId < left.taskId))

def canonicalRows (rows : List AnalysisRow) : List AnalysisRow := rows.mergeSort rowBefore

def benchmarkRows (rows : List AnalysisRow) (benchmark : Benchmark) : List AnalysisRow :=
  rows.filter fun row => row.benchmark = benchmark

def column (rows : List AnalysisRow) (name : ContrastName) : List ℚ :=
  rows.map fun row => taskContrasts row name

def covarianceDiagonal (grouped : List (List AnalysisRow)) (name : ContrastName) : ℚ :=
  (grouped.map fun rows => sampleVariance (column rows name) / rows.length).sum / grouped.length ^ 2

noncomputable def standardError (covariance : ℚ) : WithTop ℝ :=
  if 0 < covariance then (Real.sqrt covariance : ℝ) else ⊤

noncomputable def conservativeMultiplierQuantile (draws : List ℝ) (alpha : ℚ) : Py (ℝ × ℕ) := do
  demand (!draws.isEmpty && 0 < alpha && alpha < 1)
    (.valueError "draws must be non-empty and alpha must lie in (0, 1)")
  let order := min draws.length (Nat.ceil ((draws.length + 1) * (1 - alpha)))
  return ((draws.mergeSort fun x y => x ≤ y).getD (order - 1) 0,order)

variable {G : Type} (generator : Generator G)

noncomputable def signedTotal (name : ContrastName) (signs : List ℕ) (rows : List AnalysisRow) : ℝ :=
  let values := column rows name
  let n : ℝ := rows.length
  (List.zipWith (fun (sign : ℕ) (value : ℚ) =>
    ((2 * sign - 1 : ℤ) : ℝ) * ((value - mean values : ℚ) : ℝ)) signs values).sum *
      Real.sqrt (n / (n - 1)) / n

noncomputable def multiplierMaximum (grouped : List (List AnalysisRow))
    (named : List (ContrastName × ℝ)) (g : G) : ℝ × G :=
  let (signs,g') := grouped.foldl
    (fun (acc : List (List ℕ) × G) rows =>
      let (block,g') := generator.integersBlock acc.2 2 rows.length
      (acc.1 ++ [block],g')) ([],g)
  let z := named.map fun (name,error) =>
    (List.zipWith (signedTotal name) signs grouped).sum / (2 * grouped.length) / error
  (z.foldr max (z.headD 0),g')

noncomputable def multiplierMaxima (grouped : List (List AnalysisRow))
    (named : List (ContrastName × ℝ)) : ℕ → G → List ℝ
  | 0, _ => []
  | draws + 1, g =>
    let (maximum,g') := multiplierMaximum generator grouped named g
    maximum :: multiplierMaxima grouped named draws g'

noncomputable def multiplierLowerBounds (rows : List AnalysisRow) (contrastNames : List ContrastName)
    (draws seed : ℤ) : Py SimultaneousBounds := do
  demand (!contrastNames.isEmpty && 0 < draws)
    (.valueError "contrast_names and a positive exact draws are required")
  let canonical := canonicalRows rows
  demand (decide (canonical.map fun row => (row.benchmark,row.taskId)).Nodup)
    (.valueError "(benchmark, task_id) pairs must be unique")
  let _ ← weights canonical
  let grouped := [benchmarkRows canonical .SWE,benchmarkRows canonical .TAU]
  let estimates ← contrastNames.mapM (observed canonical)
  let standardErrors := contrastNames.map fun name =>
    if grouped.any (fun benchmark => benchmark.length < 2) then ⊤
    else standardError (covarianceDiagonal grouped name)
  if ⊤ ∈ standardErrors then
    return {
      estimates := estimates
      standardErrors := standardErrors
      lowers := estimates.map fun _ => ⊥
      uppers := estimates.map fun _ => ⊤
      criticalValue := ⊤
      draws := draws
      seed := seed
      quantileOrder := 0 }
  let g ← rng generator seed .multiplier
  let finite := standardErrors.map fun error => error.untopD 0
  let maxima := multiplierMaxima generator grouped (contrastNames.zip finite) draws.toNat g
  let (critical,order) ← conservativeMultiplierQuantile maxima (1 / 20)
  return {
    estimates := estimates
    standardErrors := standardErrors
    lowers := List.zipWith (fun estimate error => ((estimate - critical * error : ℝ) : EReal)) (estimates.map (↑)) finite
    uppers := List.zipWith (fun estimate error => ((estimate + critical * error : ℝ) : EReal)) (estimates.map (↑)) finite
    criticalValue := critical
    draws := draws
    seed := seed
    quantileOrder := order }

open MassFunction

def flipStep (distribution : List (ℚ × ℕ)) (weight : ℚ) : List (ℚ × ℕ) :=
  distribution.foldl
    (fun next p => bump (bump next (p.1 + weight) p.2) (p.1 - weight) p.2) []

def absoluteMasses (raw : List (ℚ × ℕ)) : List (ℚ × ℕ) :=
  raw.foldl (fun distribution p => bump distribution |p.1| p.2) []

def binomialMasses (n m : ℕ) : List (ℚ × ℕ) :=
  (List.range (m + 1)).foldl
    (fun distribution (k : ℕ) => bump distribution |((2 * k - m : ℤ) : ℚ) / (2 * n)| (m.choose k)) []

def firstAtQuantile (totalMass : ℕ) : List (ℚ × ℕ) → ℕ → Option ℚ
  | [], _ => none
  | (value,mass) :: rest, cumulative =>
    if totalMass * 19 ≤ (cumulative + mass) * 20 then some value
    else firstAtQuantile totalMass rest (cumulative + mass)

def quantile95 (distribution : List (ℚ × ℕ)) : Option ℚ :=
  firstAtQuantile (total distribution) (distribution.mergeSort fun p q => p.1 ≤ q.1) 0

-- The quantile stays exact, its float() is left out.
def resamplingResolution (rows : List AnalysisRow) : Py ResolutionResult := do
  let weight ← weights rows
  let q0 := (rows.map fun row =>
    weight row.benchmark * |((row.resample.toInt - row.none.toInt : ℤ) : ℚ)|).sum
  let discordant := rows.filter fun row => row.resample ≠ row.none
  let equal := benchmarkCount rows .SWE = benchmarkCount rows .TAU
  let distribution :=
    if equal then binomialMasses (benchmarkCount rows .SWE) discordant.length
    else absoluteMasses
      (discordant.foldl (fun dist row => flipStep dist (weight row.benchmark)) [(0,1)])
  return {
    q0 := q0
    r95 := (quantile95 distribution).getD 0
    discordantTaskCount := discordant.length
    mode := if equal then .equalRosterExactBinomial else .unequalRosterExactWeightedConvolution }

def resolutionValue (roster discordant : Fin 2 → ℕ) : Py ℚ :=
  let masses :=
    if roster 0 = roster 1 then binomialMasses (roster 0) (discordant 0 + discordant 1)
    else absoluteMasses
      ([0,1].foldl (fun dist benchmark =>
        (List.replicate (discordant benchmark) (1 / (2 * roster benchmark) : ℚ)).foldl flipStep dist)
        [(0,1)])
  match quantile95 masses with
  | some value => .ok value
  | none => .error (.valueError "resolution mass function has no registered 95% quantile")

structure Pattern where
  real : Bit
  sham : Bit
  none : Bit
  resample : Bit
  deriving DecidableEq

def bitAt (index place : ℕ) : Bit := if index / 2 ^ place % 2 = 1 then .one else .zero

def patterns (index : Fin 16) : Pattern where
  real := bitAt index 3
  sham := bitAt index 2
  none := bitAt index 1
  resample := bitAt index 0

def statisticsRow (benchmark : Benchmark) (index : Fin 16) (ordinal : ℕ) : AnalysisRow where
  taskId := benchmark.text ++ "-" ++ toString index.val ++ "-" ++ toString ordinal
  benchmark := benchmark
  stratum := "sufficient-statistics"
  lineage := "sufficient-statistics"
  sensitivityGroups := []
  triggered := true
  prefixOutcome := .zero
  real := (patterns index).real
  sham := (patterns index).sham
  none := (patterns index).none
  resample := (patterns index).resample
  realInfrastructureFailure := false
  shamInfrastructureFailure := false
  noneInfrastructureFailure := false
  resampleInfrastructureFailure := false
  pipelineValid := true
  invalidCodes := []

def patternRows (benchmark : Benchmark) (counts : PatternCounts) : List AnalysisRow :=
  (List.finRange 16).flatMap fun index =>
    (List.range (counts index).toNat).map (statisticsRow benchmark index)

def statisticsRows (statistics : BinarySufficientStatistics) : Py (List AnalysisRow) := do
  let overall := statistics.benchmarkGroupPatternCounts.filter fun entry => entry.2.1.isEmpty
  demand (overall.all fun entry => decide (∀ index, 0 ≤ entry.2.2 index))
    (.typeError "pattern counts must be non-negative exact ints")
  let rows := overall.flatMap fun entry => patternRows entry.1 entry.2.2
  let _ ← weights rows
  return rows

def countTotal (counts : PatternCounts) : ℤ := ((List.finRange 16).map counts).sum

def dictGet {α : Type} (items : List (Benchmark × α)) (benchmark : Benchmark) : Option α :=
  (items.reverse.find? fun item => item.1 = benchmark).map Prod.snd

def maximumGap (rates : Fin 4 → ℚ) : ℚ :=
  (((List.finRange 4).flatMap fun left =>
    (List.finRange 4).map fun right => |rates left - rates right|)).foldr max 0

def failureGap (statistics : BinarySufficientStatistics) : Py ℚ := do
  let overall := (statistics.benchmarkGroupPatternCounts.filter fun entry => entry.2.1.isEmpty).map
    fun entry => (entry.1,countTotal entry.2.2)
  match dictGet overall .SWE, dictGet overall .TAU with
  | some swe, some tau => do
    demand (swe ≠ 0 && tau ≠ 0)
      (.valueError "statistics requires non-empty SWE and TAU overall counts")
    match dictGet statistics.armFailureCounts .SWE, dictGet statistics.armFailureCounts .TAU with
    | some sweFailures, some tauFailures =>
      return maximumGap fun arm => 1 / 2 * (sweFailures arm / swe + tauFailures arm / tau)
    | _, _ => .error (.keyError "benchmark")
  | _, _ => .error (.valueError "statistics requires non-empty SWE and TAU overall counts")

def overallCounts (statistics : BinarySufficientStatistics) (select : Benchmark → Bool) :
    Py PatternCounts :=
  match statistics.benchmarkGroupPatternCounts.find? fun entry => select entry.1 && entry.2.1.isEmpty with
  | some entry => .ok entry.2.2
  | none => .error .stopIteration

def otherBenchmark : Benchmark → Benchmark
  | .SWE => .TAU
  | .TAU => .SWE

def leaveOneStep (statistics : BinarySufficientStatistics) (passing : Bool)
    (entry : Benchmark × List GroupLabel × PatternCounts) : Py Bool := do
  if entry.2.1.isEmpty then return passing
  let overall ← overallCounts statistics fun benchmark => benchmark = entry.1
  let retained : PatternCounts := fun index => overall index - entry.2.2 index
  if countTotal retained = 0 then return false
  let other ← overallCounts statistics fun benchmark => benchmark ≠ entry.1
  let rows ← statisticsRows {
    rosterRef := statistics.rosterRef
    benchmarkGroupPatternCounts := [(entry.1,[],retained),(otherBenchmark entry.1,[],other)]
    armFailureCounts := statistics.armFailureCounts
    pipelineInvalidCount := 0 }
  let content ← observed rows .content
  let excess ← observed rows .excess
  return passing && (-(1 / 20) ≤ content && -(1 / 20) ≤ excess)

def benchmarkMean (weight : Benchmark → ℚ) (rows : List AnalysisRow) (benchmark : Benchmark)
    (name : ContrastName) : ℚ :=
  ((benchmarkRows rows benchmark).map fun row => weight row.benchmark * taskContrasts row name).sum * 2

noncomputable section

def primaryLower (criticalValue : ℝ) (estimate : ℚ) : WithTop ℝ → EReal
  | some error => ((estimate - criticalValue * error : ℝ) : EReal)
  | ⊤ => if criticalValue = 0 then 0 else ⊥

open Classical in
def gate (code : String) (passed : Prop) (value : GateValue) (comparator : String)
    (threshold : GateValue) : GateResult :=
  { code := code
    passed := decide passed
    observed := value
    comparator := comparator
    threshold := threshold }

def rational (value : ℚ) : GateValue := .number ((value : ℝ) : EReal)

variable {G : Type} (generator : Generator G)

open Classical in
def evaluateBinaryGateKernel (statistics : BinarySufficientStatistics) (config : AnalysisConfig)
    (criticalValue : ℝ) (seed : ℤ) (drawsOverride : Option ℤ) : Py (List GateResult) := do
  demand (decide (0 ≤ criticalValue)) (.valueError "critical_value must be finite and non-negative")
  let sharpDraws : ℤ := drawsOverride.getD config.sharpDraws
  let rows ← statisticsRows statistics
  let content ← observed rows .content
  let excess ← observed rows .excess
  let contentP ← sharpContentPvalue generator rows sharpDraws seed
  let excessP ← sharpExcessPvalue generator rows sharpDraws seed
  let bounds ← multiplierLowerBounds generator rows [.content,.excess] 1 0
  let primaryLowers := List.zipWith (primaryLower criticalValue) bounds.estimates bounds.standardErrors
  let contentLower := primaryLowers.getD 0 ⊥
  let excessLower := primaryLowers.getD 1 ⊥
  let resolution ← resamplingResolution rows
  let weight ← weights rows
  let benchmarkOk := [Benchmark.SWE,.TAU].all fun benchmark =>
    [ContrastName.content,.excess].all fun name => 0 ≤ benchmarkMean weight rows benchmark name
  let leaveOneOk ← statistics.benchmarkGroupPatternCounts.foldlM (leaveOneStep statistics) true
  let gap ← failureGap statistics
  return [
    gate "pipeline_valid" (statistics.pipelineInvalidCount = 0)
      (rational statistics.pipelineInvalidCount) "==" (rational 0),
    gate "content_sharp" (contentP.pValue ≤ config.alpha)
      (rational contentP.pValue) "<=" (rational config.alpha),
    gate "excess_sharp" (excessP.pValue ≤ config.alpha)
      (rational excessP.pValue) "<=" (rational config.alpha),
    gate "content_lower" (0 < contentLower) (.number contentLower) ">" (rational 0),
    gate "excess_lower" (0 < excessLower) (.number excessLower) ">" (rational 0),
    gate "content_materiality" (config.deltaStar ≤ content)
      (rational content) ">=" (rational config.deltaStar),
    gate "excess_materiality" (config.deltaStar ≤ excess)
      (rational excess) ">=" (rational config.deltaStar),
    gate "content_resolution" (resolution.r95 < content)
      (rational content) ">" (rational resolution.r95),
    gate "excess_resolution" (resolution.r95 < excess)
      (rational excess) ">" (rational resolution.r95),
    gate "benchmark_nonnegative" (benchmarkOk = true) (.flag benchmarkOk) "is" (.flag true),
    gate "leave_one_nonnegative" (leaveOneOk = true) (.flag leaveOneOk) "is" (.flag true),
    gate "differential_failure_gap" (gap ≤ config.maxDifferentialFailureGap)
      (rational gap) "<=" (rational config.maxDifferentialFailureGap)]

end

end PneumaLab.ResamplingNull
