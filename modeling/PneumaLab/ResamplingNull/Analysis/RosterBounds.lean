import Std.Data.String.ToNat
import PneumaLab.ResamplingNull.Analysis.RosterTails

namespace PneumaLab.ResamplingNull

theorem hyphen_notMem_toString (n : ℕ) : '-' ∉ (toString n).toList := by
  intro h
  rw [show toString n = Nat.repr n from rfl,Nat.toList_repr] at h
  have hd := Nat.isDigit_of_mem_toDigits (by decide) (by decide) h
  simp [Char.isDigit] at hd

theorem statisticsRow_taskId_inj (benchmark : Benchmark) {left right : Fin 16} {m n : ℕ}
    (h : (statisticsRow benchmark left m).taskId = (statisticsRow benchmark right n).taskId) :
    left = right ∧ m = n := by
  have hlist := congrArg String.toList h
  simp only [statisticsRow,String.toList_append,List.append_assoc] at hlist
  have hcut := List.append_cancel_left (List.append_cancel_left hlist)
  have hparts := (List.append_cons_inj_of_notMem (hyphen_notMem_toString left.val)
    (hyphen_notMem_toString m)).mp hcut
  exact ⟨Fin.ext (Nat.repr_injective (String.toList_injective hparts.1)),
    Nat.repr_injective (String.toList_injective hparts.2.2)⟩

theorem patternRows_taskId_nodup (benchmark : Benchmark) (counts : PatternCounts) :
    ((patternRows benchmark counts).map fun row => (row.benchmark,row.taskId)).Nodup := by
  have hrow {left right : Fin 16} {m n : ℕ}
      (h : ((statisticsRow benchmark left m).benchmark,(statisticsRow benchmark left m).taskId) =
        ((statisticsRow benchmark right n).benchmark,(statisticsRow benchmark right n).taskId)) :
      left = right ∧ m = n := statisticsRow_taskId_inj benchmark (Prod.ext_iff.mp h).2
  rw [patternRows,List.map_flatMap,List.nodup_flatMap]
  constructor
  · intro index _
    rw [List.map_map]
    exact List.Nodup.map (fun m n hmn => (hrow hmn).2) List.nodup_range
  · refine (List.nodup_finRange 16).imp ?_
    intro left right hne
    rw [Function.onFun,List.disjoint_left]
    intro key hleft hright
    simp only [List.map_map,List.mem_map,List.mem_range,Function.comp_apply] at hleft hright
    obtain ⟨m,_,rfl⟩ := hleft
    obtain ⟨n,_,hn⟩ := hright
    exact hne (hrow hn).1.symm

theorem tableRows_taskId_nodup (counts : RunCounts) :
    ((tableRows counts).map fun row => (row.benchmark,row.taskId)).Nodup := by
  have hrows : tableRows counts = patternRows .SWE (counts 0) ++ patternRows .TAU (counts 1) := rfl
  rw [hrows,List.map_append]
  refine List.Nodup.append (patternRows_taskId_nodup _ _) (patternRows_taskId_nodup _ _) ?_
  rw [List.disjoint_left]
  intro key hleft hright
  obtain ⟨left,hl,rfl⟩ := List.mem_map.mp hleft
  obtain ⟨right,hr,he⟩ := List.mem_map.mp hright
  have hS := patternRows_benchmark _ _ left hl
  have hT := patternRows_benchmark _ _ right hr
  have hb := (Prod.ext_iff.mp he).1
  simp [hS,hT] at hb

section Variance

theorem mean_perm {left right : List ℚ} (h : left.Perm right) : mean left = mean right := by
  rw [mean,mean,h.sum_eq,h.length_eq]

theorem sampleVariance_perm {left right : List ℚ} (h : left.Perm right) :
    sampleVariance left = sampleVariance right := by
  rw [sampleVariance,sampleVariance,mean_perm h,(h.map _).sum_eq,h.length_eq]

theorem sum_squared_deviation {values : List ℚ} (h : values ≠ []) :
    (values.map fun value => (value - mean values) ^ 2).sum =
      (values.map fun value => value * value).sum - values.length * (mean values * mean values) := by
  have hn : (values.length : ℚ) ≠ 0 := by simpa using h
  have hsum : values.sum = values.length * mean values := by
    rw [mean]
    field_simp
  have hexpand (center : ℚ) (xs : List ℚ) :
      (xs.map fun value => (value - center) ^ 2).sum =
        (xs.map fun value => value * value).sum - 2 * center * xs.sum + xs.length * (center * center) := by
    induction xs with
    | nil => simp
    | cons x xs ih =>
      simp only [List.map_cons,List.sum_cons,List.length_cons,ih]
      push_cast
      ring
  rw [hexpand,hsum]
  ring

end Variance

section Table
variable {counts : RunCounts} (h : ∀ benchmark, Occupied (counts benchmark))

theorem tableRows_benchmarkRows (counts : RunCounts) (benchmark : Fin 2) :
    benchmarkRows (tableRows counts) (sideOf benchmark) =
      patternRows (sideOf benchmark) (counts benchmark) := by
  have hself (b : Benchmark) (c : PatternCounts) : benchmarkRows (patternRows b c) b = patternRows b c :=
    List.filter_eq_self.mpr fun row hrow => by simp [patternRows_benchmark b c row hrow]
  have hnone {b b' : Benchmark} (c : PatternCounts) (hne : b ≠ b') :
      benchmarkRows (patternRows b c) b' = [] :=
    List.filter_eq_nil_iff.mpr fun row hrow => by simp [patternRows_benchmark b c row hrow,hne]
  have hsplit (b : Benchmark) : benchmarkRows (tableRows counts) b =
      benchmarkRows (patternRows .SWE (counts 0)) b ++ benchmarkRows (patternRows .TAU (counts 1)) b :=
    List.filter_append ..
  rw [hsplit]
  fin_cases benchmark
  · rw [show sideOf ⟨0,by decide⟩ = .SWE from rfl,hself,hnone _ (by decide),List.append_nil]
    rfl
  · rw [show sideOf ⟨1,by decide⟩ = .TAU from rfl,hself,hnone _ (by decide),List.nil_append]
    rfl

theorem canonicalRows_benchmarkRows (counts : RunCounts) (benchmark : Fin 2) :
    (benchmarkRows (canonicalRows (tableRows counts)) (sideOf benchmark)).Perm
      (patternRows (sideOf benchmark) (counts benchmark)) := by
  rw [← tableRows_benchmarkRows]
  exact (List.mergeSort_perm _ _).filter _

include h

theorem canonicalRows_length (benchmark : Fin 2) :
    ((benchmarkRows (canonicalRows (tableRows counts)) (sideOf benchmark)).length : ℤ) =
      rosterOf counts benchmark := by
  rw [(canonicalRows_benchmarkRows counts benchmark).length_eq,patternRows_length _ (h benchmark).nonneg,
    rosterOf]

theorem canonicalRows_variance (benchmark contrast : Fin 2) (htwo : 2 ≤ rosterOf counts benchmark) :
    let rows := benchmarkRows (canonicalRows (tableRows counts)) (sideOf benchmark)
    sampleVariance (column rows (contrastAxis contrast)) / rows.length =
      covarianceEntry counts benchmark contrast := by
  intro rows
  let block := patternRows (sideOf benchmark) (counts benchmark)
  let values := column block (contrastAxis contrast)
  have hperm : rows.Perm block := canonicalRows_benchmarkRows counts benchmark
  have hlen : (values.length : ℚ) = rosterOf counts benchmark := by
    have := patternRows_length (sideOf benchmark) (h benchmark).nonneg
    rw [rosterOf,← this,Int.cast_natCast]
    simp [values,column,block]
  have hvalues : values ≠ [] := by
    intro hnil
    rw [hnil,List.length_nil,Nat.cast_zero] at hlen
    have : rosterOf counts benchmark = 0 := by exact_mod_cast hlen.symm
    omega
  have hsum : values.sum = contrastTotal (counts benchmark) fun index => contrastMatrix index contrast :=
    patternRows_sum _ (h benchmark).nonneg fun index ordinal => taskContrasts_statisticsRow _ _ _ _
  have hsquares : (values.map fun value => value * value).sum = contrastTotal (counts benchmark)
      fun index => contrastMatrix index contrast * contrastMatrix index contrast := by
    rw [show values = block.map fun row => taskContrasts row (contrastAxis contrast) from rfl,List.map_map]
    refine patternRows_sum _ (h benchmark).nonneg fun index ordinal => ?_
    rw [Function.comp_apply,taskContrasts_statisticsRow]
  have hmean : mean values = meanByBenchmark counts benchmark contrast := by
    rw [mean,hsum,hlen,meanByBenchmark]
  have hvariance : sampleVariance (column rows (contrastAxis contrast)) = sampleVariance values :=
    sampleVariance_perm (hperm.map _)
  have hrows : (rows.length : ℚ) = values.length := by
    rw [hperm.length_eq]
    simp [values,column]
  have hmax : max 1 (rosterOf counts benchmark - 1) = rosterOf counts benchmark - 1 := by omega
  have hq : (2 : ℚ) ≤ rosterOf counts benchmark := by exact_mod_cast htwo
  have hn1 : (rosterOf counts benchmark : ℚ) - 1 ≠ 0 := by linarith
  have hn : (rosterOf counts benchmark : ℚ) ≠ 0 := by linarith
  rw [hvariance,hrows,sampleVariance,sum_squared_deviation hvalues,hsquares,hmean,hlen,covarianceEntry,hmax,
    Int.cast_sub,Int.cast_one]
  field_simp

theorem covarianceDiagonal_table (contrast : Fin 2) (htwo : ∀ benchmark, 2 ≤ rosterOf counts benchmark) :
    covarianceDiagonal [benchmarkRows (canonicalRows (tableRows counts)) .SWE,
      benchmarkRows (canonicalRows (tableRows counts)) .TAU] (contrastAxis contrast) =
        pooledCovariance counts contrast := by
  have hS := canonicalRows_variance h 0 contrast (htwo 0)
  have hT := canonicalRows_variance h 1 contrast (htwo 1)
  rw [show sideOf 0 = .SWE from rfl] at hS
  rw [show sideOf 1 = .TAU from rfl] at hT
  rw [covarianceDiagonal,pooledCovariance,← hS,← hT]
  simp only [List.map_cons,List.map_nil,List.sum_cons,List.sum_nil,List.length_cons,List.length_nil]
  norm_num

omit h

noncomputable def kernelStandardError (counts : RunCounts) (contrast : Fin 2) : WithTop ℝ :=
  if rosterOf counts 0 < 2 ∨ rosterOf counts 1 < 2 then ⊤
  else standardError (pooledCovariance counts contrast)

theorem weights_perm {left right : List AnalysisRow} (hp : left.Perm right) :
    weights left = weights right := by
  have hcount (benchmark : Benchmark) : benchmarkCount left benchmark = benchmarkCount right benchmark :=
    hp.countP_eq _
  rw [weights,weights]
  simp only [hcount]

theorem observed_perm {left right : List AnalysisRow} (hp : left.Perm right) (name : ContrastName) :
    observed left name = observed right name := by
  rw [observed,observed,weights_perm hp]
  refine congrArg _ (funext fun weight => ?_)
  rw [(hp.map _).sum_eq]

include h

omit h in
theorem conservativeMultiplierQuantile_ok {draws : List ℝ} (hd : draws ≠ []) :
    ∃ quantile, conservativeMultiplierQuantile draws (1 / 20) = .ok quantile := by
  have hdemand : demand (!draws.isEmpty && decide ((0 : ℚ) < 1 / 20) && decide ((1 / 20 : ℚ) < 1))
      (.valueError "draws must be non-empty and alpha must lie in (0, 1)") = .ok () := by
    simp only [demand_eq_ok,Bool.and_eq_true,Bool.not_eq_true',decide_eq_true_eq]
    exact ⟨⟨by simpa using hd,by norm_num⟩,by norm_num⟩
  rw [conservativeMultiplierQuantile,hdemand]
  exact ⟨_,rfl⟩

omit h in
theorem multiplierMaxima_ne_nil {G : Type} (generator : Generator G)
    (grouped : List (List AnalysisRow)) (named : List (ContrastName × ℝ)) (g : G) :
    multiplierMaxima generator grouped named (1 : ℤ).toNat g ≠ [] := by
  rw [show (1 : ℤ).toNat = 0 + 1 from rfl,multiplierMaxima]
  simp

theorem standardErrors_table (contrast : Fin 2) :
    (if [benchmarkRows (canonicalRows (tableRows counts)) .SWE,
        benchmarkRows (canonicalRows (tableRows counts)) .TAU].any (fun rows => rows.length < 2) then ⊤
      else standardError (covarianceDiagonal [benchmarkRows (canonicalRows (tableRows counts)) .SWE,
        benchmarkRows (canonicalRows (tableRows counts)) .TAU] (contrastAxis contrast))) =
      kernelStandardError counts contrast := by
  have hS := canonicalRows_length h 0
  have hT := canonicalRows_length h 1
  rw [show sideOf 0 = .SWE from rfl] at hS
  rw [show sideOf 1 = .TAU from rfl] at hT
  by_cases hsmall : rosterOf counts 0 < 2 ∨ rosterOf counts 1 < 2
  · rw [kernelStandardError,if_pos hsmall,if_pos]
    simp only [List.any_cons,List.any_nil,Bool.or_false,Bool.or_eq_true,decide_eq_true_eq]
    omega
  · have htwo : ∀ benchmark, 2 ≤ rosterOf counts benchmark := by
      rw [Fin.forall_fin_two]
      omega
    rw [kernelStandardError,if_neg hsmall,if_neg,covarianceDiagonal_table h contrast htwo]
    simp only [List.any_cons,List.any_nil,Bool.or_false,Bool.or_eq_true,decide_eq_true_eq]
    omega

theorem multiplierLowerBounds_table {G : Type} (generator : Generator G) :
    ∃ bounds, multiplierLowerBounds generator (tableRows counts) [.content,.excess] 1 0 = .ok bounds ∧
      bounds.estimates = [runEstimate counts 0,runEstimate counts 1] ∧
      bounds.standardErrors = [kernelStandardError counts 0,kernelStandardError counts 1] := by
  have hperm : (canonicalRows (tableRows counts)).Perm (tableRows counts) := List.mergeSort_perm _ _
  have hnodup : demand (decide ((canonicalRows (tableRows counts)).map fun row =>
      (row.benchmark,row.taskId)).Nodup)
      (.valueError "(benchmark, task_id) pairs must be unique") = .ok () :=
    demand_eq_ok.mpr (decide_eq_true ((hperm.map _).nodup_iff.mpr (tableRows_taskId_nodup counts)))
  have hweights : weights (canonicalRows (tableRows counts)) = .ok (tableWeight counts) := by
    rw [weights_perm hperm,weights_table h]
  have hestimates : [ContrastName.content,.excess].mapM (observed (canonicalRows (tableRows counts))) =
      .ok [runEstimate counts 0,runEstimate counts 1] := by
    have h0 : observed (canonicalRows (tableRows counts)) .content = .ok (runEstimate counts 0) := by
      rw [observed_perm hperm]
      exact observed_table h 0
    have h1 : observed (canonicalRows (tableRows counts)) .excess = .ok (runEstimate counts 1) := by
      rw [observed_perm hperm]
      exact observed_table h 1
    simp only [List.mapM_cons,List.mapM_nil,h0,h1]
    rfl
  have herrors : [ContrastName.content,.excess].map (fun name =>
      if [benchmarkRows (canonicalRows (tableRows counts)) .SWE,
        benchmarkRows (canonicalRows (tableRows counts)) .TAU].any (fun rows => rows.length < 2) then ⊤
      else standardError (covarianceDiagonal [benchmarkRows (canonicalRows (tableRows counts)) .SWE,
        benchmarkRows (canonicalRows (tableRows counts)) .TAU] name)) =
      [kernelStandardError counts 0,kernelStandardError counts 1] := by
    rw [List.map_cons,List.map_cons,List.map_nil]
    exact congrArg₂ _ (standardErrors_table h 0) (congrArg (fun e => [e]) (standardErrors_table h 1))
  have hdraws : demand (!([ContrastName.content,.excess] : List ContrastName).isEmpty &&
      decide ((0 : ℤ) < 1))
      (.valueError "contrast_names and a positive exact draws are required") = .ok () := rfl
  simp only [multiplierLowerBounds,hdraws,hnodup,hweights,hestimates,herrors]
  by_cases hinfinite : ⊤ ∈ [kernelStandardError counts 0,kernelStandardError counts 1]
  · refine ⟨_,by simp only [if_pos hinfinite]; rfl,rfl,rfl⟩
  · obtain ⟨quantile,hquantile⟩ := conservativeMultiplierQuantile_ok
      (multiplierMaxima_ne_nil generator
        [benchmarkRows (canonicalRows (tableRows counts)) .SWE,
          benchmarkRows (canonicalRows (tableRows counts)) .TAU]
        ([ContrastName.content,.excess].zip (([kernelStandardError counts 0,
          kernelStandardError counts 1] : List (WithTop ℝ)).map fun error => error.untopD 0))
        (generator.seeded (0,Domain.multiplier.code)))
    refine ⟨_,by
      simp only [if_neg hinfinite,rng_zero,ok_bind,hquantile]
      rfl,rfl,rfl⟩

end Table

section Degenerate
variable {counts : RunCounts}

def ConstantContrast (counts : RunCounts) (contrast : Fin 2) : Prop :=
  ∀ benchmark left right, counts benchmark left ≠ 0 → counts benchmark right ≠ 0 →
    contrastMatrix left contrast = contrastMatrix right contrast

theorem contrastTotal_eq_sum (block : PatternCounts) (value : Fin 16 → ℚ) :
    contrastTotal block value = ∑ index, block index * value index := by
  rw [contrastTotal,Fin.sum_univ_def]

theorem countTotal_eq_sum (block : PatternCounts) : (countTotal block : ℚ) = ∑ index, (block index : ℚ) := by
  rw [countTotal,Fin.sum_univ_def,Int.cast_list_sum,List.map_map]
  rfl

theorem squared_deviation_total (block : PatternCounts) (value : Fin 16 → ℚ) (center : ℚ) :
    contrastTotal block (fun index => (value index - center) ^ 2) =
      contrastTotal block (fun index => value index * value index) -
        2 * center * contrastTotal block value + center * center * countTotal block := by
  rw [contrastTotal_eq_sum,contrastTotal_eq_sum,contrastTotal_eq_sum,countTotal_eq_sum,
    Finset.mul_sum,Finset.mul_sum,← Finset.sum_sub_distrib,← Finset.sum_add_distrib]
  refine Finset.sum_congr rfl fun index _ => ?_
  ring

variable (h : ∀ benchmark, Occupied (counts benchmark))

include h

theorem covarianceEntry_eq (benchmark contrast : Fin 2) :
    covarianceEntry counts benchmark contrast =
      contrastTotal (counts benchmark) (fun index =>
        (contrastMatrix index contrast - meanByBenchmark counts benchmark contrast) ^ 2) /
          rosterOf counts benchmark / (max 1 (rosterOf counts benchmark - 1) : ℤ) := by
  have hn : (rosterOf counts benchmark : ℚ) ≠ 0 := by exact_mod_cast (h benchmark).total.ne'
  rw [squared_deviation_total,covarianceEntry]
  congr 1
  · simp only [meanByBenchmark,rosterOf] at hn ⊢
    field_simp
    ring

theorem covarianceEntry_nonneg (benchmark contrast : Fin 2) : 0 ≤ covarianceEntry counts benchmark contrast := by
  have hpos : (0 : ℚ) ≤ rosterOf counts benchmark := by exact_mod_cast (h benchmark).total.le
  have hn := (h benchmark).nonneg
  rw [covarianceEntry_eq h,contrastTotal_eq_sum]
  have hmax : (0 : ℚ) ≤ (max 1 (rosterOf counts benchmark - 1) : ℤ) := by
    exact_mod_cast zero_le_one.trans (le_max_left _ _)
  refine div_nonneg (div_nonneg (Finset.sum_nonneg fun index _ => ?_) hpos) hmax
  exact mul_nonneg (by exact_mod_cast hn index) (sq_nonneg _)

theorem covarianceEntry_eq_zero (benchmark contrast : Fin 2) :
    covarianceEntry counts benchmark contrast = 0 ↔
      ∀ index, counts benchmark index ≠ 0 →
        contrastMatrix index contrast = meanByBenchmark counts benchmark contrast := by
  have hroster : (rosterOf counts benchmark : ℚ) ≠ 0 := by exact_mod_cast (h benchmark).total.ne'
  have hmax : ((max 1 (rosterOf counts benchmark - 1) : ℤ) : ℚ) ≠ 0 := by
    exact_mod_cast (zero_lt_one.trans_le (le_max_left _ _)).ne'
  have hterm (index : Fin 16) : 0 ≤ (counts benchmark index : ℚ) *
      (contrastMatrix index contrast - meanByBenchmark counts benchmark contrast) ^ 2 :=
    mul_nonneg (by exact_mod_cast (h benchmark).nonneg index) (sq_nonneg _)
  rw [covarianceEntry_eq h,contrastTotal_eq_sum,div_eq_zero_iff,div_eq_zero_iff,or_iff_left hmax,
    or_iff_left hroster,Finset.sum_eq_zero_iff_of_nonneg fun index _ => hterm index]
  refine forall_congr' fun index => ?_
  rw [forall_prop_of_true (Finset.mem_univ index),mul_eq_zero,pow_eq_zero_iff two_ne_zero,sub_eq_zero,
    Int.cast_eq_zero,or_iff_not_imp_left]

theorem meanByBenchmark_of_constant {benchmark contrast : Fin 2} {value : ℚ}
    (hv : ∀ index, counts benchmark index ≠ 0 → contrastMatrix index contrast = value) :
    meanByBenchmark counts benchmark contrast = value := by
  have hn : (rosterOf counts benchmark : ℚ) ≠ 0 := by exact_mod_cast (h benchmark).total.ne'
  have htotal : contrastTotal (counts benchmark) (fun index => contrastMatrix index contrast) =
      value * rosterOf counts benchmark := by
    rw [contrastTotal_eq_sum,rosterOf,countTotal_eq_sum,Finset.mul_sum]
    refine Finset.sum_congr rfl fun index _ => ?_
    by_cases hz : counts benchmark index = 0
    · simp [hz]
    · rw [hv index hz,mul_comm]
  rw [meanByBenchmark,htotal,mul_div_assoc,div_self hn,mul_one]

theorem pooledCovariance_eq_zero (contrast : Fin 2) :
    pooledCovariance counts contrast = 0 ↔ ConstantContrast counts contrast := by
  have h0 := covarianceEntry_nonneg h 0 contrast
  have h1 := covarianceEntry_nonneg h 1 contrast
  have hsides : pooledCovariance counts contrast = 0 ↔
      ∀ benchmark, covarianceEntry counts benchmark contrast = 0 := by
    rw [pooledCovariance,Fin.forall_fin_two]
    constructor
    · intro hsum
      constructor <;> linarith
    · rintro ⟨hS,hT⟩
      rw [hS,hT]
      norm_num
  rw [hsides]
  refine forall_congr' fun benchmark => ?_
  rw [covarianceEntry_eq_zero h]
  constructor
  · intro hmean left right hleft hright
    rw [hmean left hleft,hmean right hright]
  · intro hconst index hindex
    exact (meanByBenchmark_of_constant h fun other hother => hconst other index hother hindex).symm

theorem primaryLower_pos {criticalValue : ℝ} (contrast : Fin 2) :
    0 < primaryLower criticalValue (runEstimate counts contrast) (kernelStandardError counts contrast) ↔
      0 < batchLower counts criticalValue contrast ∧
        ¬ ((∀ benchmark, 2 ≤ rosterOf counts benchmark) ∧ ConstantContrast counts contrast) := by
  have htop : ¬ 0 < primaryLower criticalValue (runEstimate counts contrast) ⊤ := by
    change ¬ 0 < (if criticalValue = 0 then (0 : EReal) else ⊥)
    split <;> simp
  by_cases hsmall : rosterOf counts 0 < 2 ∨ rosterOf counts 1 < 2
  · rw [kernelStandardError,if_pos hsmall,batchLower,batchStandardError,if_pos hsmall]
    simp [htop]
  · have htwo : ∀ benchmark, 2 ≤ rosterOf counts benchmark := by
      rw [Fin.forall_fin_two]
      omega
    have hnonneg : 0 ≤ pooledCovariance counts contrast := by
      have h0 := covarianceEntry_nonneg h 0 contrast
      have h1 := covarianceEntry_nonneg h 1 contrast
      rw [pooledCovariance]
      linarith
    rw [kernelStandardError,if_neg hsmall,batchLower,batchStandardError,if_neg hsmall,
      and_iff_right htwo,← pooledCovariance_eq_zero h,standardError]
    by_cases hzero : pooledCovariance counts contrast = 0
    · rw [hzero,if_neg (lt_irrefl 0)]
      simp [htop]
    · have hpos : 0 < pooledCovariance counts contrast := lt_of_le_of_ne hnonneg (Ne.symm hzero)
      have hmax : max 0 (pooledCovariance counts contrast : ℝ) = pooledCovariance counts contrast :=
        max_eq_right (by exact_mod_cast hnonneg)
      rw [if_pos hpos,hmax]
      simp only [hzero,not_false_eq_true,and_true]
      rfl

end Degenerate

end PneumaLab.ResamplingNull
