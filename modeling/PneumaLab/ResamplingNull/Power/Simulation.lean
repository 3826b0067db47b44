import PneumaLab.Library.Rounding
import PneumaLab.Library.StateFree
import PneumaLab.ResamplingNull.Analysis.Kernel
import PneumaLab.ResamplingNull.Artifacts
import PneumaLab.ResamplingNull.Power.Records

namespace PneumaLab.ResamplingNull

structure BenchmarkPatternCounts where
  patternCounts : PatternCounts
  triggeredPatternCounts : PatternCounts
  noTriggerPatternCounts : PatternCounts
  jointGroupPatternCounts : List PatternCounts
  triggeredCount : ℕ
  expectedContent : ℚ
  expectedExcess : ℚ

def countsJson (counts : PatternCounts) : Json := .arr ((List.ofFn counts).map .int)

namespace BenchmarkPatternCounts

def json (counts : BenchmarkPatternCounts) : Json :=
  .obj [("joint_group_pattern_counts",.arr (counts.jointGroupPatternCounts.map countsJson)),
    ("pattern_counts",countsJson counts.patternCounts),("triggered_count",.int counts.triggeredCount)]

def tensor (counts : BenchmarkPatternCounts) : PatternCounts × ℕ × List PatternCounts :=
  (counts.patternCounts,counts.triggeredCount,counts.jointGroupPatternCounts)

theorem countsJson_exact (counts : PatternCounts) : (countsJson counts).Exact := by
  rw [countsJson,Json.Exact,Json.exactItems_iff]
  intro item hitem
  obtain ⟨value,_,rfl⟩ := List.mem_map.mp hitem
  exact trivial

theorem json_exact (counts : BenchmarkPatternCounts) : counts.json.Exact := by
  have hkeys : ["joint_group_pattern_counts","pattern_counts","triggered_count"].Pairwise (· < ·) := by decide
  have hjoint : (Json.arr (counts.jointGroupPatternCounts.map countsJson)).Exact := by
    rw [Json.Exact,Json.exactItems_iff]
    intro item hitem
    obtain ⟨row,_,rfl⟩ := List.mem_map.mp hitem
    exact countsJson_exact row
  exact ⟨hkeys,hjoint,countsJson_exact _,trivial,trivial⟩

theorem countsJson_injective : Function.Injective countsJson := by
  intro left right h
  have hitems := Json.arr.inj h
  have hints : Function.Injective Json.int := fun _ _ hint => Json.int.inj hint
  exact List.ofFn_injective (List.map_injective_iff.mpr hints hitems)

theorem tensor_of_json {left right : BenchmarkPatternCounts} (h : left.json = right.json) : left.tensor = right.tensor := by
  simp only [json,Json.obj.injEq,List.cons.injEq,Prod.mk.injEq,true_and,and_true,Json.arr.injEq,Json.int.injEq,
    Nat.cast_inj] at h
  obtain ⟨hjoint,hcounts,htriggered⟩ := h
  rw [tensor,tensor,countsJson_injective hcounts,htriggered,List.map_injective_iff.mpr countsJson_injective hjoint]

end BenchmarkPatternCounts

structure Nuisance where
  p0 : ℚ
  triggerRate : ℚ
  rho : ℚ
  deriving DecidableEq

inductive CellFamily where
  | alternative
  | nullBoth
  | nullContent
  | nullExcess
  deriving DecidableEq

structure PowerCell where
  cellId : String
  family : CellFamily
  swe : Nuisance
  tau : Nuisance

inductive DrawDomain where
  | screen
  | grid
  | validation
  deriving DecidableEq

def DrawDomain.kindPrefix : DrawDomain → String
  | .screen => "screen"
  | .grid => "grid"
  | .validation => "gaussian_validation"

structure DrawIdentity where
  authorityKind : DecisionAuthority
  tierMembershipSha256 : String
  gridContentDigest : String
  drawDomain : DrawDomain
  phase : PowerPhase
  cellId : String
  replicateIndex : ℕ
  drawKind : String
  drawIndex : ℕ

-- numpy: a generator for each draw identity, and samplers with the ranges numpy documents.
structure Numpy (G : Type) where
  philox : DrawIdentity → G
  multivariateHypergeometric : G → List ℕ → ℕ → List ℕ × G
  multinomial : G → ℕ → (Fin 16 → ℚ) → PatternCounts × G
  binomial : G → ℕ → ℚ → ℕ × G
  hypergeometric_le : ∀ g sizes n, n ≤ sizes.sum → List.Forall₂ (· ≤ ·) (multivariateHypergeometric g sizes n).1 sizes
  multinomial_total : ∀ g n probabilities, countTotal (multinomial g n probabilities).1 = n
  multinomial_nonneg : ∀ g n probabilities pattern, 0 ≤ (multinomial g n probabilities).1 pattern
  binomial_le : ∀ g n p, (binomial g n p).1 ≤ n

section Draws
variable {G : Type} (numpy : Numpy G)

def strictSha256 (value field : String) : Py Unit :=
  demand (isSha256 value) (.recordValidationError (field ++ " must be a lowercase SHA-256 digest"))

-- The slot of the thread is reseeded to the state of the identity.
def philoxDraw (identity : DrawIdentity) : Program G Raised Unit := do
  Program.lift (strictSha256 identity.tierMembershipSha256 "tier_membership_sha256")
  Program.lift (strictSha256 identity.gridContentDigest "grid_content_sha256")
  Program.modify fun _ => numpy.philox identity

def consume {α : Type} (sample : G → α × G) : Program G Raised α := fun slot => (.ok (sample slot).1,(sample slot).2)

def draw {α : Type} (identity : DrawIdentity) (sample : G → α × G) : Program G Raised α := do
  philoxDraw numpy identity
  consume sample

end Draws

def triggeredMarginals (p0 gamma : ℚ) (family : CellFamily) : Py (Fin 4 → ℚ) := do
  let uplift := 3 / 20 / gamma
  let values : Fin 4 → ℚ := match family with
    | .alternative => ![p0 + uplift,p0,p0,p0]
    | .nullBoth => ![p0,p0,p0,p0]
    | .nullContent => ![p0 + uplift,p0 + uplift,p0,p0]
    | .nullExcess => ![p0 + uplift,p0,p0 + uplift,p0 + uplift]
  demand (decide (∀ arm, 1 / 10 ≤ values arm ∧ values arm ≤ 19 / 20))
    (.recordValidationError "registered triggered marginal lies outside [0.10, 0.95]")
  return values

structure SimulationInputs where
  nuisance : Nuisance
  family : CellFamily
  taskCount : ℕ
  authorityKind : DecisionAuthority
  tierMembershipSha256 : String
  gridContentDigest : String
  phase : PowerPhase
  cellId : String
  jointGroupSizes : List ℕ
  drawDomain : DrawDomain

namespace SimulationInputs

def identity (inputs : SimulationInputs) (replicateIndex : ℕ) (kind : String) (drawIndex : ℕ) : DrawIdentity where
  authorityKind := inputs.authorityKind
  tierMembershipSha256 := inputs.tierMembershipSha256
  gridContentDigest := inputs.gridContentDigest
  drawDomain := inputs.drawDomain
  phase := inputs.phase
  cellId := inputs.cellId
  replicateIndex := replicateIndex
  drawKind := inputs.drawDomain.kindPrefix ++ kind
  drawIndex := drawIndex

end SimulationInputs

structure GroupTotals where
  triggeredPatterns : PatternCounts
  noTriggerPatterns : PatternCounts
  jointPatterns : List PatternCounts

def GroupTotals.zero : GroupTotals where
  triggeredPatterns := fun _ => 0
  noTriggerPatterns := fun _ => 0
  jointPatterns := []

def addNoTrigger (counts : PatternCounts) (successes failures : ℤ) : PatternCounts := fun pattern =>
  counts pattern + (if pattern = 15 then successes else 0) + (if pattern = 0 then failures else 0)

section Simulation
variable {G : Type} (numpy : Numpy G) (patternProbabilities : (Fin 4 → ℚ) → ℚ → Py (Fin 16 → ℚ))

-- Named, so that an index of the four arms carries no proof of its own.
local instance four_neZero : NeZero 4 := ⟨by omega⟩

def simulateGroup (inputs : SimulationInputs) (replicateIndex : ℕ) (probabilities : Fin 16 → ℚ) (totals : GroupTotals)
    (entry : (ℕ × ℕ) × ℕ) : Program G Raised GroupTotals := do
  let ((groupSize,triggeredHere),groupIndex) := entry
  let triggeredHerePatterns ← draw numpy (inputs.identity replicateIndex "_triggered_pattern" groupIndex)
    fun g => numpy.multinomial g triggeredHere probabilities
  let successes ← draw numpy (inputs.identity replicateIndex "_no_trigger_success" groupIndex)
    fun g => numpy.binomial g (groupSize - triggeredHere) inputs.nuisance.p0
  let failures : ℤ := groupSize - triggeredHere - successes
  return {
    triggeredPatterns := fun pattern => totals.triggeredPatterns pattern + triggeredHerePatterns pattern
    noTriggerPatterns := addNoTrigger totals.noTriggerPatterns successes failures
    jointPatterns := totals.jointPatterns ++ [addNoTrigger triggeredHerePatterns successes failures] }

def simulateBenchmarkPatternCounts (inputs : SimulationInputs) (replicateIndex : ℕ) :
    Program G Raised BenchmarkPatternCounts := do
  let nuisance := inputs.nuisance
  Program.lift (demand (decide (0 < inputs.taskCount) && inputs.jointGroupSizes.all (fun size => decide (0 < size)) &&
      decide (inputs.jointGroupSizes.sum = inputs.taskCount))
    (.recordValidationError "joint sensitivity-group sizes must exactly partition the benchmark roster"))
  Program.lift (demand (decide (nuisance.p0 ∈ [1 / 10,2 / 5,7 / 10]) &&
      decide (nuisance.triggerRate ∈ [3 / 5,3 / 4,9 / 10]) && decide (nuisance.rho ∈ [0,2 / 5,4 / 5]))
    (.recordValidationError "P0 nuisance values differ from the frozen grid"))
  let triggeredExact := nuisance.triggerRate * inputs.taskCount
  let triggeredCount := (Rounding.halfEven triggeredExact).toNat
  Program.lift (demand (decide ((triggeredCount : ℚ) = triggeredExact))
    (.recordValidationError "gamma * benchmark roster count must be exact"))
  let triggeredByGroup ← draw numpy (inputs.identity replicateIndex "_trigger_partition" 0)
    fun g => numpy.multivariateHypergeometric g inputs.jointGroupSizes triggeredCount
  let marginals ← Program.lift (triggeredMarginals nuisance.p0 nuisance.triggerRate inputs.family)
  let probabilities ← Program.lift (patternProbabilities marginals nuisance.rho)
  Program.lift (demand (decide (inputs.jointGroupSizes.length = triggeredByGroup.length))
    (.valueError "zip() argument 2 is shorter than argument 1"))
  let totals ← (inputs.jointGroupSizes.zip triggeredByGroup).zipIdx.foldlM
    (simulateGroup numpy inputs replicateIndex probabilities) .zero
  return {
    patternCounts := fun pattern => totals.triggeredPatterns pattern + totals.noTriggerPatterns pattern
    triggeredPatternCounts := totals.triggeredPatterns
    noTriggerPatternCounts := totals.noTriggerPatterns
    jointGroupPatternCounts := totals.jointPatterns
    triggeredCount := triggeredCount
    expectedContent := nuisance.triggerRate * (marginals 0 - marginals 1)
    expectedExcess := nuisance.triggerRate * (marginals 0 - (marginals 2 + marginals 3) / 2) }

end Simulation

section StateFree
variable {G : Type} {numpy : Numpy G} {patternProbabilities : (Fin 4 → ℚ) → ℚ → Py (Fin 16 → ℚ)}
open Program

theorem draw_stateFree {α : Type} (identity : DrawIdentity) (sample : G → α × G) : StateFree (draw numpy identity sample) := by
  intro s t
  rw [draw,philoxDraw]
  cases htier : strictSha256 identity.tierMembershipSha256 "tier_membership_sha256" with
  | error e => rfl
  | ok _ =>
    cases hdigest : strictSha256 identity.gridContentDigest "grid_content_sha256" with
    | error e => rfl
    | ok _ => rfl

theorem draw_eq_ok {α : Type} {identity : DrawIdentity} {sample : G → α × G} {s : G} {a : α}
    (h : (draw numpy identity sample s).1 = .ok a) : a = (sample (numpy.philox identity)).1 := by
  rw [draw,philoxDraw] at h
  cases htier : strictSha256 identity.tierMembershipSha256 "tier_membership_sha256" with
  | error e =>
    rw [htier] at h
    cases h
  | ok _ =>
    cases hdigest : strictSha256 identity.gridContentDigest "grid_content_sha256" with
    | error e =>
      rw [htier,hdigest] at h
      cases h
    | ok _ =>
      rw [htier,hdigest] at h
      exact (Except.ok.inj h).symm

theorem simulateGroup_stateFree (inputs : SimulationInputs) (replicateIndex : ℕ) (probabilities : Fin 16 → ℚ)
    (totals : GroupTotals) (entry : (ℕ × ℕ) × ℕ) :
    StateFree (simulateGroup numpy inputs replicateIndex probabilities totals entry) :=
  (draw_stateFree _ _).bind fun _ => (draw_stateFree _ _).bind fun _ => .returned _

theorem simulate_stateFree (inputs : SimulationInputs) (replicateIndex : ℕ) :
    StateFree (simulateBenchmarkPatternCounts numpy patternProbabilities inputs replicateIndex) :=
  (StateFree.lifted _).bind fun _ => (StateFree.lifted _).bind fun _ => (StateFree.lifted _).bind fun _ =>
    (draw_stateFree _ _).bind fun _ => (StateFree.lifted _).bind fun _ => (StateFree.lifted _).bind fun _ =>
      (StateFree.lifted _).bind fun _ => (StateFree.foldlM (simulateGroup_stateFree _ _ _) _ _).bind fun _ => .returned _

end StateFree

section Totals

theorem countTotal_add (left right : PatternCounts) :
    countTotal (fun pattern => left pattern + right pattern) = countTotal left + countTotal right := by
  simp only [countTotal,List.sum_map_add]

theorem countTotal_single (pattern : Fin 16) (value : ℤ) :
    countTotal (fun index => if index = pattern then value else 0) = value := by
  rw [countTotal,← Fin.sum_univ_def,Finset.sum_ite_eq',if_pos (Finset.mem_univ pattern)]

theorem countTotal_addNoTrigger (counts : PatternCounts) (successes failures : ℤ) :
    countTotal (addNoTrigger counts successes failures) = countTotal counts + successes + failures := by
  have hsplit : addNoTrigger counts successes failures = fun pattern => counts pattern +
      (if pattern = 15 then successes else 0) + (if pattern = 0 then failures else 0) := rfl
  rw [hsplit,countTotal_add,countTotal_add,countTotal_single,countTotal_single]

theorem addNoTrigger_nonneg {counts : PatternCounts} {successes failures : ℤ} (hcounts : ∀ pattern, 0 ≤ counts pattern)
    (hsuccesses : 0 ≤ successes) (hfailures : 0 ≤ failures) (pattern : Fin 16) :
    0 ≤ addNoTrigger counts successes failures pattern := by
  have hcount := hcounts pattern
  rw [addNoTrigger]
  split <;> split <;> omega

end Totals

structure Sized (sizes : List ℕ) (counts : BenchmarkPatternCounts) : Prop where
  positive : 0 < sizes.sum
  total : countTotal counts.patternCounts = sizes.sum
  nonneg : ∀ pattern, 0 ≤ counts.patternCounts pattern
  joint : counts.jointGroupPatternCounts.map countTotal = sizes.map Nat.cast

structure GroupTotals.Covers (totals : GroupTotals) (sizes : List ℕ) : Prop where
  total : countTotal totals.triggeredPatterns + countTotal totals.noTriggerPatterns = sizes.sum
  triggered : ∀ pattern, 0 ≤ totals.triggeredPatterns pattern
  noTrigger : ∀ pattern, 0 ≤ totals.noTriggerPatterns pattern
  joint : totals.jointPatterns.map countTotal = sizes.map Nat.cast

section Spec
variable {G : Type} {numpy : Numpy G} {patternProbabilities : (Fin 4 → ℚ) → ℚ → Py (Fin 16 → ℚ)}
open Program

theorem simulateGroup_covers {inputs : SimulationInputs} {replicateIndex : ℕ} {probabilities : Fin 16 → ℚ}
    {totals next : GroupTotals} {entry : (ℕ × ℕ) × ℕ} {sizes : List ℕ} {s : G} (htotals : totals.Covers sizes)
    (hentry : entry.1.2 ≤ entry.1.1)
    (h : (simulateGroup numpy inputs replicateIndex probabilities totals entry s).1 = .ok next) :
    next.Covers (sizes ++ [entry.1.1]) := by
  obtain ⟨⟨groupSize,triggeredHere⟩,groupIndex⟩ := entry
  simp only [simulateGroup,bind_result,bind_eq_ok] at h
  obtain ⟨patterns,hpatterns,successes,hsuccesses,hnext⟩ := h
  cases hnext
  have htotal : countTotal patterns = triggeredHere := by
    rw [draw_eq_ok hpatterns]
    exact numpy.multinomial_total _ _ _
  have hnonneg (pattern : Fin 16) : 0 ≤ patterns pattern := by
    rw [draw_eq_ok hpatterns]
    exact numpy.multinomial_nonneg _ _ _ pattern
  have hle : successes ≤ groupSize - triggeredHere := by
    rw [draw_eq_ok hsuccesses]
    exact numpy.binomial_le _ _ _
  have hentry' : triggeredHere ≤ groupSize := hentry
  have hfailures : 0 ≤ (groupSize : ℤ) - triggeredHere - successes := by omega
  constructor
  · have hbefore := htotals.total
    simp only [countTotal_add,countTotal_addNoTrigger,htotal,List.sum_append,List.sum_singleton,Nat.cast_add]
    omega
  · exact fun pattern => add_nonneg (htotals.triggered pattern) (hnonneg pattern)
  · exact addNoTrigger_nonneg htotals.noTrigger (by omega) hfailures
  · simp only [List.map_append,List.map_cons,List.map_nil,htotals.joint,countTotal_addNoTrigger,htotal]
    congr 2
    omega

theorem simulate_sized {inputs : SimulationInputs} {replicateIndex : ℕ} {counts : BenchmarkPatternCounts} {s : G}
    (h : (simulateBenchmarkPatternCounts numpy patternProbabilities inputs replicateIndex s).1 = .ok counts) :
    Sized inputs.jointGroupSizes counts := by
  simp only [simulateBenchmarkPatternCounts,bind_result,bind_eq_ok,lift_run,demand_eq_ok,Bool.and_eq_true,
    decide_eq_true_eq,exists_const] at h
  obtain ⟨⟨⟨hpositive,_⟩,hsum⟩,⟨⟨_,hgamma⟩,_⟩,hexact,triggered,htriggered,marginals,_,probabilities,_,hlength,totals,
    htotals,hcounts⟩ := h
  cases hcounts
  have hle : List.Forall₂ (· ≤ ·) triggered inputs.jointGroupSizes := by
    rw [draw_eq_ok htriggered]
    refine numpy.hypergeometric_le _ _ _ ?_
    have hrate : inputs.nuisance.triggerRate ≤ 1 := by
      simp only [List.mem_cons,List.not_mem_nil,or_false] at hgamma
      rcases hgamma with h | h | h <;> rw [h] <;> norm_num
    have htasks : (0 : ℚ) ≤ inputs.taskCount := Nat.cast_nonneg _
    have hbound := mul_le_mul_of_nonneg_right hrate htasks
    rw [← hexact,one_mul,Nat.cast_le] at hbound
    rwa [hsum]
  have hentries : ∀ entry ∈ (inputs.jointGroupSizes.zip triggered).zipIdx, entry.1.2 ≤ entry.1.1 := by
    intro entry hentry
    have hpair := List.fst_mem_of_mem_zipIdx hentry
    exact (List.forall₂_zip hle.flip hpair)
  have hsizes : ((inputs.jointGroupSizes.zip triggered).zipIdx).map (fun entry => entry.1.1) = inputs.jointGroupSizes := by
    have hfst := congrArg (List.map Prod.fst) (List.zipIdx_map_fst 0 (inputs.jointGroupSizes.zip triggered))
    rw [List.map_map,List.map_fst_zip (le_of_eq hlength)] at hfst
    exact hfst
  rw [StateFree.foldlM_run (simulateGroup_stateFree inputs replicateIndex probabilities) s] at htotals
  have hcovers := foldlM_reaches (P := fun done totals => GroupTotals.Covers totals (done.map fun entry => entry.1.1))
    ⟨rfl,fun _ => le_rfl,fun _ => le_rfl,rfl⟩ (fun done entry totals next hprefix htotals hnext => by
      rw [List.map_append,List.map_singleton]
      exact simulateGroup_covers htotals (hentries entry ( hprefix.subset (by simp))) hnext) htotals
  rw [hsizes] at hcovers
  refine ⟨by omega,?_,fun pattern => add_nonneg (hcovers.triggered pattern) (hcovers.noTrigger pattern),hcovers.joint⟩
  rw [countTotal_add]
  exact hcovers.total

end Spec

end PneumaLab.ResamplingNull
