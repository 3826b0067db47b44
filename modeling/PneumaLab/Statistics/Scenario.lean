import Mathlib
import PneumaLab.Exceptions
import PneumaLab.Library.IntervalCounts

namespace PneumaLab.Statistics

-- Named, so that a real literal of this module carries no proof of its own.
local instance two_large : Nat.AtLeastTwo 2 := ⟨by omega⟩
local instance twentyFive_large : Nat.AtLeastTwo 25 := ⟨by omega⟩

inductive Comparator where
  | base
  | retrieval
  | scalar
  deriving DecidableEq, Repr

inductive Utility where
  | attempt
  | completion
  | verifiedSuccess
  | normalizedSeverity
  | falseAvoidance
  | nonengagementRuntime
  | resourceCapBinding
  | compositeAdverse
  deriving DecidableEq, Repr

inductive CausalComponent where
  | influenceOff
  | fullStateClamp
  deriving DecidableEq, Repr

inductive Component where
  | repeatHarm (comparator : Comparator)
  | utility (name : Utility) (comparator : Comparator)
  | h2 (name : CausalComponent)
  deriving DecidableEq, Repr

inductive Tier where
  | core
  | floor
  deriving DecidableEq, Repr

inductive Scope where
  | u0
  | u1
  deriving DecidableEq, Repr

def comparators : List Comparator := [.base,.retrieval,.scalar]

def utilityU0 : List Utility := [.attempt,.completion,.verifiedSuccess,.normalizedSeverity,.falseAvoidance,
  .nonengagementRuntime,.resourceCapBinding]

def utilityU1 : List Utility := [.verifiedSuccess,.compositeAdverse,.resourceCapBinding]

def h2Components : List CausalComponent := [.influenceOff,.fullStateClamp]

noncomputable def utilityMargin : ℝ := 5 / 100

noncomputable def oneSidedZ95 : ℝ := 16448536269514715 / 10 ^ 16

def nestedSequencesPerLineage : ℝ := 2

structure NuisanceProfile where
  attrition : ℝ
  evaluatorError : ℝ
  utilityEventRate : ℝ
  utilityDiscordance : ℝ
  weight : ℝ

noncomputable def deltaValues : List ℝ := [5 / 100,10 / 100,15 / 100]

noncomputable def nuisanceProfiles : List (ℝ × ℝ × ℝ × ℝ) :=
  [(0,0,5 / 100,5 / 100),(25 / 1000,5 / 100,15 / 100,15 / 100),(5 / 100,10 / 100,30 / 100,30 / 100)]

structure PriorCell where
  baseHarm : ℝ
  pairedDiscordance : ℝ
  lineageIcc : ℝ
  crossComponentCorrelation : ℝ
  nuisance : NuisanceProfile
  weight : ℝ

abbrev Draw := Component → ℝ

structure PowerCounts where
  conjunction : List (ℕ × ℤ)
  components : List (Component × List (ℕ × ℤ))
  draws : ℕ

section Intervals

-- numpy's quotient of a positive number by zero is infinite.
noncomputable def squaredQuotient (numerator denominator : ℝ) : EReal :=
  if denominator = 0 then ⊤ else (((numerator / denominator) ^ 2 : ℝ) : EReal)

-- The sample sizes at which one draw passes one test; the tolerance of the gate is read as zero.
noncomputable def testInterval (theta scale critical : ℝ) (pointGate : Option ℝ) (z : ℝ) : EReal × EReal :=
  let lower : EReal := if z < critical then squaredQuotient (scale * (critical - z)) theta else 0
  match pointGate with
  | none => (lower,⊤)
  | some pointGate =>
    let gap := theta - pointGate
    if 0 < gap then
      let pointLower : ℝ := if z < 0 then (scale * -z / gap) ^ 2 else 0
      (max lower (pointLower : EReal),⊤)
    else if gap < 0 then (lower,((if 0 < z then (scale * z / -gap) ^ 2 else -1 : ℝ) : EReal))
    else (lower,if z < 0 then ((-1 : ℝ) : EReal) else ⊤)

noncomputable def ceil (bound : EReal) : EReal :=
  if bound = ⊥ then ⊥ else if bound = ⊤ then ⊤ else (((⌈bound.toReal⌉ : ℤ) : ℝ) : EReal)

noncomputable def floor (bound : EReal) : EReal :=
  if bound = ⊥ then ⊥ else if bound = ⊤ then ⊤ else (((⌊bound.toReal⌋ : ℤ) : ℝ) : EReal)

noncomputable def clip (bound : EReal) (low high : ℤ) : ℤ :=
  if bound ≤ ((low : ℝ) : EReal) then low
  else if ((high : ℝ) : EReal) ≤ bound then high
  else ⌊bound.toReal⌋

def isfinite (bound : EReal) : Prop := bound ≠ ⊥ ∧ bound ≠ ⊤

open Classical in
-- Every interval adds one where it begins and takes one off after it ends; the tolerances are read as zero.
noncomputable def countsForIntervals (intervals : List (EReal × EReal)) (supportCounts : List ℕ) : Py (List (ℕ × ℤ)) := do
  demand (!supportCounts.isEmpty) (.valueError "min() iterable argument is empty")
  let minimum : ℤ := supportCounts.min?.getD 0
  let maximum : ℤ := supportCounts.max?.getD 0
  let bounds := intervals.map fun interval => (ceil interval.1,floor interval.2)
  let valid := bounds.filter fun bound => isfinite bound.1 ∧ ((minimum : ℝ) : EReal) ≤ bound.2 ∧
    bound.1 ≤ ((maximum : ℝ) : EReal)
  let values := valid.map fun bound => (clip bound.1 minimum (maximum + 1),clip bound.2 (minimum - 1) maximum)
  let validRanges := values.filter fun value => value.1 ≤ value.2
  let width := (maximum - minimum + 2).toNat
  let startOffsets := validRanges.map fun value => (value.1 - minimum).toNat
  let endOffsets := validRanges.map fun value => (value.2 - minimum + 1).toNat
  let cumulative := IntervalCounts.cumsum (IntervalCounts.changes startOffsets endOffsets width)
  return supportCounts.map fun support => (support,(cumulative[((support : ℤ) - minimum).toNat]?).getD 0)

end Intervals

def componentNames (tier : Tier) (scope : Scope) : List Component :=
  let compared := match tier with
    | .core => comparators
    | .floor => comparators.take 1
  let utilities := match scope with
    | .u0 => utilityU0
    | .u1 => utilityU1
  compared.map .repeatHarm ++ compared.flatMap (fun comparator => utilities.map fun name => .utility name comparator) ++
    h2Components.map .h2

section Scales

def observedDiscordance (discordance errorRate : ℝ) : ℝ :=
  let retainedDifference := (1 - 2 * errorRate) ^ 2
  let introducedDifference := 2 * errorRate * (1 - errorRate)
  discordance * retainedDifference + introducedDifference

def observedDelta (cell : PriorCell) (deltaPower : ℝ) : ℝ := (1 - 2 * cell.nuisance.evaluatorError) * deltaPower

def behaviorVariance (cell : PriorCell) (deltaPower : ℝ) : ℝ :=
  observedDiscordance cell.pairedDiscordance cell.nuisance.evaluatorError - observedDelta cell deltaPower ^ 2

noncomputable def pyDiv (numerator denominator : ℝ) : Py ℝ :=
  if denominator = 0 then .error (.zeroDivisionError "float division by zero") else .ok (numerator / denominator)

noncomputable def pySqrt (value : ℝ) : Py ℝ :=
  if value < 0 then .error (.valueError "math domain error") else .ok (Real.sqrt value)

structure Scales where
  behavior : ℝ
  utility : ℝ

open Classical in
noncomputable def scales (cell : PriorCell) (deltaPower : ℝ) : Py Scales := do
  let effectiveMultiplier ← pyDiv (nestedSequencesPerLineage * (1 - cell.nuisance.attrition)) (1 + cell.lineageIcc)
  demand (decide (0 < behaviorVariance cell deltaPower))
    (.priorAnchorError "behavior variance is non-positive after error model")
  let behaviorScale ← pySqrt (← pyDiv (behaviorVariance cell deltaPower) effectiveMultiplier)
  let utilityDiscordance := observedDiscordance cell.nuisance.utilityDiscordance cell.nuisance.evaluatorError
  let utilityScale ← pySqrt (← pyDiv utilityDiscordance effectiveMultiplier)
  return ⟨behaviorScale,utilityScale⟩

end Scales

structure ComponentTest where
  theta : ℝ
  scale : ℝ
  critical : ℝ
  pointGate : Option ℝ

noncomputable def ComponentTest.interval (test : ComponentTest) (z : ℝ) : EReal × EReal :=
  testInterval test.theta test.scale test.critical test.pointGate z

noncomputable def componentTest (cell : PriorCell) (deltaPower maxTCritical : ℝ) (scales : Scales) : Component → ComponentTest
  | .repeatHarm _ => ⟨observedDelta cell deltaPower,scales.behavior,max maxTCritical oneSidedZ95,some (5 / 100)⟩
  | .utility _ _ => ⟨utilityMargin,scales.utility,oneSidedZ95,none⟩
  | .h2 _ => ⟨observedDelta cell deltaPower,scales.behavior,oneSidedZ95,none⟩

-- numpy's maximum.reduce and minimum.reduce over the components of one draw.
noncomputable def combine (intervals : List (EReal × EReal)) : EReal × EReal :=
  (intervals.foldr (fun interval lower => max interval.1 lower) ⊥,intervals.foldr (fun interval upper => min interval.2 upper) ⊤)

noncomputable def scenarioCounts (zValues : List Draw) (cell : PriorCell) (deltaPower : ℝ) (tier : Tier) (scope : Scope)
    (supportCounts : List ℕ) (maxTCritical : ℝ) : Py PowerCounts := do
  let names := componentNames tier scope
  let scales ← scales cell deltaPower
  let interval (name : Component) (draw : Draw) := (componentTest cell deltaPower maxTCritical scales name).interval (draw name)
  let combined := zValues.map fun draw => combine (names.map fun name => interval name draw)
  let conjunction ← countsForIntervals combined supportCounts
  let components ← names.mapM fun name => do
    return (name,← countsForIntervals (zValues.map (interval name)) supportCounts)
  return ⟨conjunction,components,zValues.length⟩

end PneumaLab.Statistics
