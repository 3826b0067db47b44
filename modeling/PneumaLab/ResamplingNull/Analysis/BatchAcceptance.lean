import PneumaLab.ResamplingNull.Analysis.Batch

namespace PneumaLab.ResamplingNull
open MassFunction

theorem firstAtQuantile_isSome (totalMass : ℕ) (dist : List (ℚ × ℕ)) (cumulative : ℕ)
    (hne : dist ≠ []) (h : totalMass ≤ cumulative + total dist) :
    (firstAtQuantile totalMass dist cumulative).isSome := by
  induction dist generalizing cumulative with
  | nil => exact absurd rfl hne
  | cons p rest ih =>
    obtain ⟨value,mass⟩ := p
    rw [firstAtQuantile]
    split
    · rfl
    · next hlow =>
      simp only [total,List.map_cons,List.sum_cons] at h
      by_cases hr : rest = []
      · subst hr
        simp only [List.map_nil,List.sum_nil] at h
        omega
      · exact ih _ hr (by simp only [total]; omega)

theorem quantile95_isSome {dist : List (ℚ × ℕ)} (h : dist ≠ []) : (quantile95 dist).isSome := by
  have hp := List.mergeSort_perm dist fun p q => decide (p.1 ≤ q.1)
  refine firstAtQuantile_isSome _ _ 0 (fun hnil => h ?_) ?_
  · exact List.perm_nil.mp (hnil ▸ hp.symm)
  · have hsum : total (dist.mergeSort fun p q => p.1 ≤ q.1) = total dist :=
      (hp.map Prod.snd).sum_eq
    omega

theorem bump_ne_nil {K : Type} [DecidableEq K] (dist : List (K × ℕ)) (k : K) (m : ℕ) :
    bump dist k m ≠ [] := by
  cases dist with
  | nil => simp [bump]
  | cons p rest =>
    rw [bump]
    split <;> simp

theorem foldl_bump_ne_nil {K I : Type} [DecidableEq K] (f : I → K) (g : I → ℕ) {xs : List I}
    (h : xs ≠ []) : xs.foldl (fun acc x => bump acc (f x) (g x)) [] ≠ [] := by
  obtain ⟨ys,y,rfl⟩ := List.eq_nil_or_concat xs |>.resolve_left h
  simp [bump_ne_nil]

theorem flipStep_ne_nil {dist : List (ℚ × ℕ)} (h : dist ≠ []) (weight : ℚ) :
    flipStep dist weight ≠ [] := by
  obtain ⟨ys,y,rfl⟩ := List.eq_nil_or_concat dist |>.resolve_left h
  simp [flipStep,bump_ne_nil]

theorem foldl_flipStep_ne_nil {dist : List (ℚ × ℕ)} (h : dist ≠ []) (flips : List ℚ) :
    flips.foldl flipStep dist ≠ [] := by
  induction flips generalizing dist with
  | nil => exact h
  | cons weight rest ih => exact ih (flipStep_ne_nil h weight)

theorem absoluteMasses_ne_nil {raw : List (ℚ × ℕ)} (h : raw ≠ []) : absoluteMasses raw ≠ [] :=
  foldl_bump_ne_nil (fun p : ℚ × ℕ => |p.1|) Prod.snd h

theorem binomialMasses_ne_nil (n m : ℕ) : binomialMasses n m ≠ [] :=
  foldl_bump_ne_nil (fun k : ℕ => |((2 * k - m : ℤ) : ℚ) / (2 * n)|) (fun k => m.choose k) (by simp)

def resolutionMasses (roster discordant : Fin 2 → ℕ) : List (ℚ × ℕ) :=
  if roster 0 = roster 1 then binomialMasses (roster 0) (discordant 0 + discordant 1)
  else absoluteMasses
    ((List.replicate (discordant 1) (1 / (2 * roster 1) : ℚ)).foldl flipStep
      ((List.replicate (discordant 0) (1 / (2 * roster 0) : ℚ)).foldl flipStep [(0,1)]))

theorem resolutionMasses_ne_nil (roster discordant : Fin 2 → ℕ) :
    resolutionMasses roster discordant ≠ [] := by
  unfold resolutionMasses
  split
  · exact binomialMasses_ne_nil _ _
  · exact absoluteMasses_ne_nil (foldl_flipStep_ne_nil (foldl_flipStep_ne_nil (by simp) _) _)

theorem resolutionValue_eq (roster discordant : Fin 2 → ℕ) :
    resolutionValue roster discordant =
      .ok ((quantile95 (resolutionMasses roster discordant)).getD 0) := by
  obtain ⟨value,hv⟩ :=
    Option.isSome_iff_exists.mp (quantile95_isSome (resolutionMasses_ne_nil roster discordant))
  rw [resolutionValue]
  split
  · rename_i found hfound
    have hsame : quantile95 (resolutionMasses roster discordant) = some found := hfound
    rw [hsame]
    rfl
  · rename_i hnone
    have hmissing : quantile95 (resolutionMasses roster discordant) = none := hnone
    exact absurd (hmissing.symm.trans hv) (by simp)

def countResolutionValue (counts : RunCounts) : ℚ :=
  (quantile95 (resolutionMasses (fun benchmark => (rosterOf counts benchmark).toNat)
    (fun benchmark => (discordantCount counts benchmark).toNat))).getD 0

theorem countResolution_eq (counts : RunCounts) :
    countResolution counts = .ok (countResolutionValue counts) := resolutionValue_eq _ _

variable {G : Type} (generator : Generator G)

theorem rng_zero (domain : Domain) : rng generator 0 domain = .ok (generator.seeded (0,domain.code)) := rfl

def sequentialTailValue (choices : List (List ℤ)) (threshold : ℤ) (draws : ℕ) (domain : Domain) : ℚ :=
  match sequential dynamicStateLimit choices [(0,1)] with
  | some distribution => tail distribution threshold / total distribution
  | none =>
    (1 + exceedances generator choices threshold draws (generator.seeded (0,domain.code))) / (1 + draws)

theorem sequentialTail_eq (choices : List (List ℤ)) (threshold : ℤ) (draws : ℕ) (domain : Domain) :
    sequentialTail generator choices threshold draws 0 domain =
      .ok (sequentialTailValue generator choices threshold draws domain) := by
  unfold sequentialTail sequentialTailValue
  cases sequential dynamicStateLimit choices [(0,1)] <;> rfl

def countSharpTailValue (counts : RunCounts) (excess : Bool) (draws : ℕ) : ℚ :=
  let fallback := sequentialTailValue generator (countChoices counts excess)
    (countObserved counts excess) draws (if excess then .excess else .content)
  match sequentialStateBound (countGroups counts excess) with
  | some bound =>
    if bound ≤ dynamicStateLimit then
      groupedExactTail (countGroups counts excess) (countObserved counts excess)
    else fallback
  | none => fallback

theorem countSharpTail_eq (counts : RunCounts) (excess : Bool) (draws : ℕ) :
    countSharpTail generator counts excess draws 0 =
      .ok (countSharpTailValue generator counts excess draws) := by
  simp only [countSharpTail,countSharpTailValue,sequentialTail_eq]
  cases sequentialStateBound (countGroups counts excess) with
  | none => rfl
  | some bound => exact (apply_ite Except.ok _ _ _).symm

theorem mapM_ok {α β : Type} {f : α → Py β} {g : α → β} (xs : List α) (h : ∀ x, f x = .ok (g x)) :
    xs.mapM f = .ok (xs.map g) := by
  induction xs with
  | nil => rfl
  | cons x xs ih =>
    rw [List.mapM_cons,h,ih]
    rfl

theorem collect_ok {α : Type} [Inhabited α] {runs : ℕ} {values : Fin runs → Py α}
    {f : Fin runs → α} (h : ∀ run, values run = .ok (f run)) : collect values = .ok f := by
  rw [collect,mapM_ok _ h]
  refine congrArg Except.ok ?_
  funext run
  simp [List.getD_eq_getElem?_getD]

section Tensor
variable {runs entries : ℕ} (statistics : BinarySufficientStatisticsBatch runs entries)

def registeredCounts (run : Fin runs) : RunCounts := fun benchmark =>
  match overallEntry statistics (if benchmark = 0 then .SWE else .TAU) with
  | some entry => statistics.patternCounts run entry
  | none => fun _ => 0

structure Admissible : Prop where
  swe : (overallEntry statistics .SWE).isSome
  tau : (overallEntry statistics .TAU).isSome
  two : (overallEntries statistics).length = 2
  occupied : ∀ run benchmark, rosterOf (registeredCounts statistics run) benchmark ≠ 0
  counts : ∀ run benchmark index, 0 ≤ registeredCounts statistics run benchmark index
  failures : ∀ run benchmark arm, 0 ≤ statistics.armFailureCounts run benchmark arm

open Classical in
noncomputable def gateBatchResult (config : AnalysisConfig) (criticalValues : Fin runs → ℝ) :
    GateBatchResult runs :=
  let counts := registeredCounts statistics
  { causalPass := fun run => decide (statistics.pipelineInvalidCounts run = 0) &&
      decide (countSharpTailValue generator (counts run) false config.sharpDraws ≤ config.alpha) &&
      decide (countSharpTailValue generator (counts run) true config.sharpDraws ≤ config.alpha) &&
      decide (∀ contrast, 0 < batchLower (counts run) (criticalValues run) contrast) &&
      decide (∀ contrast, config.deltaStar ≤ runEstimate (counts run) contrast) &&
      decide (∀ contrast, countResolutionValue (counts run) < runEstimate (counts run) contrast) &&
      benchmarkNonnegative (counts run) && batchLeaveOne statistics counts run &&
      decide (maximumGap (equalRate (counts run) (statistics.armFailureCounts run)) ≤
        config.maxDifferentialFailureGap)
    contentEstimate := fun run => runEstimate (counts run) 0
    excessEstimate := fun run => runEstimate (counts run) 1
    contentSharpP := fun run => countSharpTailValue generator (counts run) false config.sharpDraws
    excessSharpP := fun run => countSharpTailValue generator (counts run) true config.sharpDraws
    primaryLowers := fun run => batchLower (counts run) (criticalValues run)
    r95 := fun run => countResolutionValue (counts run)
    differentialFailureGap := fun run =>
      maximumGap (equalRate (counts run) (statistics.armFailureCounts run))
    allBenchmarkNonnegative := fun run => benchmarkNonnegative (counts run)
    allLeaveOneNonnegative := batchLeaveOne statistics counts }

variable {statistics}

theorem runCounts_registered {swe tau : Fin entries} (hs : overallEntry statistics .SWE = some swe)
    (ht : overallEntry statistics .TAU = some tau) :
    runCounts statistics swe tau = registeredCounts statistics := by
  funext run benchmark
  fin_cases benchmark
  · simp [runCounts,registeredCounts,hs]
  · simp [runCounts,registeredCounts,ht]

theorem evaluate_admissible (h : Admissible statistics) (config : AnalysisConfig)
    (criticalValues : Fin runs → ℝ) :
    evaluateBinaryGateBatch generator statistics config criticalValues =
      .ok (gateBatchResult generator statistics config criticalValues) := by
  obtain ⟨swe,hs⟩ := Option.isSome_iff_exists.mp h.swe
  obtain ⟨tau,ht⟩ := Option.isSome_iff_exists.mp h.tau
  have hd : demand (decide (∀ run,
      (∀ benchmark, rosterOf (registeredCounts statistics run) benchmark ≠ 0) ∧
      (∀ benchmark index, 0 ≤ registeredCounts statistics run benchmark index) ∧
      (∀ benchmark arm, 0 ≤ statistics.armFailureCounts run benchmark arm)))
      (.valueError "batch counts must be non-negative with both rosters non-empty") = .ok () :=
    demand_eq_ok.mpr (decide_eq_true fun run => ⟨h.occupied run,h.counts run,h.failures run⟩)
  have htwo : demand (decide ((overallEntries statistics).length = 2))
      (.valueError "batch requires one SWE and one TAU overall count row") = .ok () :=
    demand_eq_ok.mpr (decide_eq_true h.two)
  simp only [evaluateBinaryGateBatch,hs,ht,htwo,runCounts_registered hs ht,hd,
    collect_ok fun run => countSharpTail_eq generator (registeredCounts statistics run) _ _,
    collect_ok fun run => countResolution_eq (registeredCounts statistics run)]
  rfl

theorem admissible_of_evaluate {config : AnalysisConfig} {criticalValues : Fin runs → ℝ}
    {result : GateBatchResult runs}
    (h : evaluateBinaryGateBatch generator statistics config criticalValues = .ok result) :
    Admissible statistics := by
  unfold evaluateBinaryGateBatch at h
  split at h
  · next swe tau hs ht =>
    simp only [runCounts_registered hs ht,bind_eq_ok,demand_eq_ok,decide_eq_true_eq,
      exists_const] at h
    obtain ⟨htwo,hchecks,_⟩ := h
    refine ⟨by simp [hs],by simp [ht],htwo,fun run => (hchecks run).1,
      fun run => (hchecks run).2.1,fun run => (hchecks run).2.2⟩
  · cases h

end Tensor

end PneumaLab.ResamplingNull
