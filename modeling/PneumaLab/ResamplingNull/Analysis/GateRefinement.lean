import PneumaLab.ResamplingNull.Analysis.BatchIndependence
import PneumaLab.ResamplingNull.Analysis.RosterBounds

namespace PneumaLab.ResamplingNull

structure GateTable where
  rosterRef : ArtifactRef
  entries : List (Benchmark × Option GroupLabel × PatternCounts)
  overall : RunCounts
  failures : Fin 2 → ArmCounts
  invalid : ℤ
  registered : (entries.filter fun entry => entry.2.1.isNone) =
    [(.SWE,none,overall 0),(.TAU,none,overall 1)]
  occupied : ∀ benchmark, Occupied (overall benchmark)
  contained : ∀ entry ∈ entries, ∀ index,
    0 ≤ entry.2.2 index ∧ entry.2.2 index ≤ overall (benchmarkAxis entry.1) index
  failed : ∀ benchmark arm, 0 ≤ failures benchmark arm

namespace GateTable

def scalarEntry (entry : Benchmark × Option GroupLabel × PatternCounts) :
    Benchmark × List GroupLabel × PatternCounts := (entry.1,entry.2.1.toList,entry.2.2)

def scalar (table : GateTable) : BinarySufficientStatistics where
  rosterRef := table.rosterRef
  benchmarkGroupPatternCounts := table.entries.map scalarEntry
  armFailureCounts := [(.SWE,table.failures 0),(.TAU,table.failures 1)]
  pipelineInvalidCount := table.invalid

def batch (table : GateTable) : BinarySufficientStatisticsBatch 1 table.entries.length where
  rosterRef := table.rosterRef
  groupManifest := fun entry => ((table.entries.get entry).1,(table.entries.get entry).2.1)
  patternCounts := fun _ entry => (table.entries.get entry).2.2
  armFailureCounts := fun _ => table.failures
  pipelineInvalidCounts := fun _ => table.invalid

def LeavesOne (table : GateTable) : Prop :=
  ∀ entry ∈ table.entries, entry.2.1.isSome →
    0 < retainedTotal table.overall (benchmarkAxis entry.1) entry.2.2 ∧
      retainedHolds table.overall (benchmarkAxis entry.1) entry.2.2 = true

section Batch
variable (table : GateTable)

theorem entries_find (benchmark : Benchmark) :
    table.entries.find? (fun entry => (entry.1,entry.2.1) = (benchmark,none)) =
      some (benchmark,none,table.overall (benchmarkAxis benchmark)) := by
  have hp : (fun entry : Benchmark × Option GroupLabel × PatternCounts =>
      decide ((entry.1,entry.2.1) = (benchmark,none))) =
      fun entry => decide (entry.2.1.isNone = true ∧ decide (entry.1 = benchmark) = true) := by
    funext entry
    refine decide_eq_decide.mpr ?_
    rw [Prod.mk.injEq,Option.isNone_iff_eq_none,decide_eq_true_eq,and_comm]
  rw [hp,← List.find?_filter,table.registered]
  cases benchmark <;> rfl

theorem overallEntry_spec (benchmark : Benchmark) :
    ∃ entry, overallEntry table.batch benchmark = some entry ∧
      table.entries.get entry = (benchmark,none,table.overall (benchmarkAxis benchmark)) := by
  have hfind := table.entries_find benchmark
  rw [← List.map_get_finRange table.entries,List.find?_map] at hfind
  obtain ⟨entry,hentry,hget⟩ := Option.map_eq_some_iff.mp hfind
  exact ⟨entry,hentry,hget⟩

theorem registeredCounts_batch (run : Fin 1) : registeredCounts table.batch run = table.overall := by
  obtain ⟨swe,hs,hgs⟩ := table.overallEntry_spec .SWE
  obtain ⟨tau,ht,hgt⟩ := table.overallEntry_spec .TAU
  rw [← runCounts_registered hs ht]
  funext benchmark
  fin_cases benchmark
  · exact congrArg (fun entry => entry.2.2) hgs
  · exact congrArg (fun entry => entry.2.2) hgt

theorem admissible_batch : Admissible table.batch where
  swe := by
    obtain ⟨entry,hentry,_⟩ := table.overallEntry_spec .SWE
    rw [hentry]
    rfl
  tau := by
    obtain ⟨entry,hentry,_⟩ := table.overallEntry_spec .TAU
    rw [hentry]
    rfl
  two := by
    have h := congrArg List.length table.registered
    rw [← List.map_get_finRange table.entries,List.filter_map,List.length_map] at h
    exact h
  occupied := fun run benchmark => by
    rw [registeredCounts_batch]
    exact (table.occupied benchmark).total.ne'
  counts := fun run benchmark => by
    rw [registeredCounts_batch]
    exact (table.occupied benchmark).nonneg
  failures := fun _ => table.failed

theorem leaveOne_entry (run : Fin 1) (entry : Fin table.entries.length) :
    (Retains table.batch (registeredCounts table.batch) run entry ∧
      RemainderHolds table.batch (registeredCounts table.batch) run entry) ↔
    (0 < retainedTotal table.overall (benchmarkAxis (table.entries.get entry).1)
        (table.entries.get entry).2.2 ∧
      retainedHolds table.overall (benchmarkAxis (table.entries.get entry).1)
        (table.entries.get entry).2.2 = true) := by
  rw [Retains,RemainderHolds,table.registeredCounts_batch]
  rfl

theorem batchLeaveOne_table (run : Fin 1) :
    batchLeaveOne table.batch (registeredCounts table.batch) run = true ↔ table.LeavesOne := by
  rw [batchLeaveOne_iff]
  constructor
  · intro h entry hentry hgroup
    obtain ⟨position,rfl⟩ := List.get_of_mem hentry
    exact (table.leaveOne_entry run position).mp (h.1 position hgroup)
  · intro h
    have hentry (entry : Fin table.entries.length) (hgroup : IsGroup table.batch entry) (other : Fin 1) :=
      (table.leaveOne_entry other entry).mpr (h _ (List.get_mem table.entries entry) hgroup)
    exact ⟨fun entry hgroup => hentry entry hgroup run,
      fun entry hgroup other => (hentry entry hgroup other).1⟩

end Batch

section Scalar
variable (table : GateTable)

theorem scalar_overall :
    (table.scalar.benchmarkGroupPatternCounts.filter fun entry => entry.2.1.isEmpty) =
      [(.SWE,[],table.overall 0),(.TAU,[],table.overall 1)] := by
  have hp : (fun entry : Benchmark × List GroupLabel × PatternCounts => entry.2.1.isEmpty) ∘ scalarEntry =
      fun entry => entry.2.1.isNone := by
    funext entry
    obtain ⟨benchmark,label,counts⟩ := entry
    cases label <;> rfl
  rw [scalar,List.filter_map,hp,table.registered]
  rfl

theorem statisticsRows_scalar : statisticsRows table.scalar = .ok (tableRows table.overall) :=
  statisticsRows_pair .SWE (table.occupied 0) (table.occupied 1) table.scalar table.scalar_overall

theorem overallCounts_scalar {select : Benchmark → Bool} (benchmark : Benchmark)
    (h : ∀ other, select other = decide (other = benchmark)) :
    overallCounts table.scalar select = .ok (table.overall (benchmarkAxis benchmark)) := by
  have hp : (fun entry : Benchmark × List GroupLabel × PatternCounts =>
      select entry.1 && entry.2.1.isEmpty) =
      fun entry => decide (entry.2.1.isEmpty = true ∧ select entry.1 = true) := by
    funext entry
    rw [Bool.decide_and,Bool.decide_eq_true,Bool.decide_eq_true,Bool.and_comm]
  rw [overallCounts,hp,← List.find?_filter,scalar_overall]
  cases benchmark <;> simp [h,benchmarkAxis]

theorem countTotal_sub (left right : PatternCounts) :
    countTotal (fun index => left index - right index) = countTotal left - countTotal right := by
  have hq : ((countTotal fun index => left index - right index : ℤ) : ℚ) =
      ((countTotal left - countTotal right : ℤ) : ℚ) := by
    rw [Int.cast_sub,countTotal_eq_sum,countTotal_eq_sum,countTotal_eq_sum,← Finset.sum_sub_distrib]
    exact Finset.sum_congr rfl fun index _ => Int.cast_sub _ _
  exact_mod_cast hq

def leaveOneEntry (counts : RunCounts) (entry : Benchmark × Option GroupLabel × PatternCounts) : Bool :=
  entry.2.1.isNone || (decide (0 < retainedTotal counts (benchmarkAxis entry.1) entry.2.2) &&
    retainedHolds counts (benchmarkAxis entry.1) entry.2.2)

theorem leaveOneStep_scalar (passing : Bool) {entry : Benchmark × Option GroupLabel × PatternCounts}
    (hentry : entry ∈ table.entries) :
    leaveOneStep table.scalar passing (scalarEntry entry) =
      .ok (passing && leaveOneEntry table.overall entry) := by
  obtain ⟨benchmark,label,group⟩ := entry
  cases label with
  | none => simp [leaveOneStep,scalarEntry,leaveOneEntry,pure,Except.pure]
  | some label =>
    let base := benchmarkAxis benchmark
    let retained : PatternCounts := fun index => table.overall base index - group index
    have hself : overallCounts table.scalar (fun other => decide (other = benchmark)) =
        .ok (table.overall base) := table.overallCounts_scalar benchmark fun _ => rfl
    have hother : overallCounts table.scalar (fun other => decide (other ≠ benchmark)) =
        .ok (table.overall (1 - base)) := by
      rw [table.overallCounts_scalar (otherBenchmark benchmark)]
      · cases benchmark <;> rfl
      · intro other
        cases other <;> cases benchmark <;> rfl
    have htotal : countTotal retained = retainedTotal table.overall base group :=
      countTotal_sub _ _
    have hnonneg : ∀ index, 0 ≤ retained index := fun index =>
      sub_nonneg.mpr (table.contained _ hentry index).2
    have hpos := countTotal_nonneg hnonneg
    have hstep : leaveOneStep table.scalar passing (scalarEntry (benchmark,some label,group)) =
        (do
          let overall ← overallCounts table.scalar fun other => decide (other = benchmark)
          if countTotal (fun index => overall index - group index) = 0 then return false
          let other ← overallCounts table.scalar fun other => decide (other ≠ benchmark)
          let rows ← statisticsRows {
            rosterRef := table.rosterRef
            benchmarkGroupPatternCounts := [(benchmark,[],fun index => overall index - group index),
              (otherBenchmark benchmark,[],other)]
            armFailureCounts := table.scalar.armFailureCounts
            pipelineInvalidCount := 0 }
          let content ← observed rows .content
          let excess ← observed rows .excess
          return passing && (-(1 / 20) ≤ content && -(1 / 20) ≤ excess)) := rfl
    rw [hstep,hself,ok_bind]
    by_cases hzero : countTotal retained = 0
    · rw [if_pos hzero]
      have hempty : ¬ 0 < retainedTotal table.overall base group := by omega
      simp only [leaveOneEntry,Option.isNone_some,Bool.false_or]
      rw [decide_eq_false hempty]
      simp [pure,Except.pure]
    · have hretained : Occupied retained := ⟨hnonneg,by omega⟩
      have hrows (statistics : BinarySufficientStatistics)
          (hs : statistics.benchmarkGroupPatternCounts =
            [(benchmark,[],retained),(otherBenchmark benchmark,[],table.overall (1 - base))]) :
          statisticsRows statistics = .ok (rosterRows benchmark retained (table.overall (1 - base))) :=
        statisticsRows_pair benchmark hretained (table.occupied _) statistics (by rw [hs]; rfl)
      have hestimate (contrast : Fin 2) :
          observed (rosterRows benchmark retained (table.overall (1 - base))) (contrastAxis contrast) =
            .ok (retainedEstimate table.overall base group contrast) := by
        rw [observed_roster benchmark hretained (table.occupied _),retainedEstimate,← htotal]
        rfl
      have hcontent := hestimate 0
      have hexcess := hestimate 1
      rw [show contrastAxis 0 = .content from rfl] at hcontent
      rw [show contrastAxis 1 = .excess from rfl] at hexcess
      have hret : 0 < retainedTotal table.overall base group := by omega
      rw [if_neg hzero,hother,ok_bind,hrows _ rfl,ok_bind,hcontent,ok_bind,hexcess,ok_bind]
      simp only [leaveOneEntry,Option.isNone_some,Bool.false_or]
      rw [decide_eq_true hret,Bool.true_and,retainedHolds]
      simp only [Fin.forall_fin_two,Bool.decide_and]
      rfl

theorem leaveOneFold_scalar (passing : Bool) :
    table.scalar.benchmarkGroupPatternCounts.foldlM (leaveOneStep table.scalar) passing =
      .ok (passing && table.entries.all (leaveOneEntry table.overall)) := by
  have hall (entries : List (Benchmark × Option GroupLabel × PatternCounts))
      (hmem : ∀ entry ∈ entries, entry ∈ table.entries) (passing : Bool) :
      (entries.map scalarEntry).foldlM (leaveOneStep table.scalar) passing =
        .ok (passing && entries.all (leaveOneEntry table.overall)) := by
    induction entries generalizing passing with
    | nil => simp [pure,Except.pure]
    | cons entry rest ih =>
      rw [List.map_cons,List.foldlM_cons,table.leaveOneStep_scalar passing (hmem entry (by simp)),ok_bind,
        ih (fun other hother => hmem other (by simp [hother])),List.all_cons,Bool.and_assoc]
  exact hall table.entries (fun _ h => h) passing

theorem leavesOne_iff : table.entries.all (leaveOneEntry table.overall) = true ↔ table.LeavesOne := by
  rw [List.all_eq_true]
  refine forall₂_congr fun entry _ => ?_
  cases hlabel : entry.2.1 <;> simp [leaveOneEntry,hlabel]

theorem failureGap_scalar :
    failureGap table.scalar = .ok (maximumGap (equalRate table.overall table.failures)) := by
  have hS := (table.occupied 0).total
  have hT := (table.occupied 1).total
  have hd : demand (decide (countTotal (table.overall 0) ≠ 0) && decide (countTotal (table.overall 1) ≠ 0))
      (.valueError "statistics requires non-empty SWE and TAU overall counts") = .ok () := by
    simp only [demand_eq_ok,Bool.and_eq_true,decide_eq_true_eq]
    omega
  rw [failureGap,scalar_overall]
  refine Eq.trans (congrArg (fun checked => checked >>= _) hd) ?_
  refine congrArg (fun rates => Except.ok (maximumGap rates)) (funext fun arm => ?_)
  rw [equalRate,rosterOf,rosterOf]
  ring

theorem benchmarkMeans_scalar :
    ([Benchmark.SWE,.TAU].all fun benchmark => [ContrastName.content,.excess].all fun name =>
      decide (0 ≤ benchmarkMean (tableWeight table.overall) (tableRows table.overall) benchmark name)) =
        benchmarkNonnegative table.overall := by
  have hmean (benchmark : Benchmark) (contrast : Fin 2) :
      benchmarkMean (tableWeight table.overall) (tableRows table.overall) benchmark
        (contrastAxis contrast) = meanByBenchmark table.overall (benchmarkAxis benchmark) contrast := by
    refine (benchmarkMean_roster .SWE (table.occupied 0) (table.occupied 1) contrast benchmark).trans ?_
    cases benchmark <;> rfl
  have h0 (benchmark : Benchmark) := hmean benchmark 0
  have h1 (benchmark : Benchmark) := hmean benchmark 1
  simp only [show contrastAxis 0 = .content from rfl] at h0
  simp only [show contrastAxis 1 = .excess from rfl] at h1
  simp [h0,h1,benchmarkNonnegative,Fin.forall_fin_two,benchmarkAxis]

end Scalar

section Agreement
variable {G : Type} (generator : Generator G) (table : GateTable) (config : AnalysisConfig)

structure OtherGatesHold : Prop where
  clean : table.invalid = 0
  contentSharp : countSharpTailValue generator table.overall false config.sharpDraws ≤ config.alpha
  excessSharp : countSharpTailValue generator table.overall true config.sharpDraws ≤ config.alpha
  material : ∀ contrast, config.deltaStar ≤ runEstimate table.overall contrast
  resolved : ∀ contrast, countResolutionValue table.overall < runEstimate table.overall contrast
  nonnegative : benchmarkNonnegative table.overall = true
  leavesOne : table.LeavesOne
  balanced : maximumGap (equalRate table.overall table.failures) ≤ config.maxDifferentialFailureGap

def VanishingError (contrast : Fin 2) : Prop :=
  (∀ benchmark, 2 ≤ rosterOf table.overall benchmark) ∧ ConstantContrast table.overall contrast

variable (criticalValue : ℝ)

theorem batch_ok : ∃ result, evaluateBinaryGateBatch generator table.batch config (fun _ => criticalValue) =
    .ok result ∧ (result.causalPass 0 = true ↔ table.OtherGatesHold generator config ∧
      ∀ contrast, 0 < batchLower table.overall criticalValue contrast) := by
  refine ⟨_,evaluate_admissible generator table.admissible_batch config _,?_⟩
  have hcounts := table.registeredCounts_batch 0
  have hleave := table.batchLeaveOne_table 0
  simp only [gateBatchResult,hcounts,Bool.and_eq_true,decide_eq_true_eq]
  constructor
  · rintro ⟨⟨⟨⟨⟨⟨⟨⟨hclean,hcontent⟩,hexcess⟩,hlower⟩,hmaterial⟩,hresolved⟩,hmeans⟩,hone⟩,hgap⟩
    exact ⟨⟨hclean,hcontent,hexcess,hmaterial,hresolved,hmeans,hleave.mp hone,hgap⟩,hlower⟩
  · rintro ⟨hgates,hlower⟩
    exact ⟨⟨⟨⟨⟨⟨⟨⟨hgates.clean,hgates.contentSharp⟩,hgates.excessSharp⟩,hlower⟩,hgates.material⟩,
      hgates.resolved⟩,hgates.nonnegative⟩,hleave.mpr hgates.leavesOne⟩,hgates.balanced⟩

theorem gate_passed (code : String) (passed : Prop) (value : GateValue) (comparator : String)
    (threshold : GateValue) : (gate code passed value comparator threshold).passed = true ↔ passed := by
  simp [gate]

theorem kernel_ok {criticalValue : ℝ} (hc : 0 ≤ criticalValue) {draws : Option ℤ}
    (hd : draws.getD config.sharpDraws = config.sharpDraws) :
    ∃ gates, evaluateBinaryGateKernel generator table.scalar config criticalValue 0 draws = .ok gates ∧
      gates.length = 12 ∧ ((∀ gate ∈ gates, gate.passed = true) ↔ table.OtherGatesHold generator config ∧
        ∀ contrast, 0 < primaryLower criticalValue (runEstimate table.overall contrast)
          (kernelStandardError table.overall contrast)) := by
  have h := table.occupied
  have hpos : 0 < config.sharpDraws := by
    rw [config.frozen.2.2.1]
    decide
  obtain ⟨contentP,hcontentP,hcontentValue⟩ := sharpContentPvalue_table h generator hpos
  obtain ⟨excessP,hexcessP,hexcessValue⟩ := sharpExcessPvalue_table h generator hpos
  obtain ⟨bounds,hbounds,hestimates,herrors⟩ := multiplierLowerBounds_table h generator
  obtain ⟨resolution,hresolution,hr95⟩ := resamplingResolution_table h
  have hcontent : observed (tableRows table.overall) .content = .ok (runEstimate table.overall 0) :=
    observed_table h 0
  have hexcess : observed (tableRows table.overall) .excess = .ok (runEstimate table.overall 1) :=
    observed_table h 1
  have hcritical : demand (decide (0 ≤ criticalValue))
      (.valueError "critical_value must be finite and non-negative") = .ok () :=
    demand_eq_ok.mpr (decide_eq_true hc)
  have hlowers : List.zipWith (primaryLower criticalValue) bounds.estimates bounds.standardErrors =
      [primaryLower criticalValue (runEstimate table.overall 0) (kernelStandardError table.overall 0),
        primaryLower criticalValue (runEstimate table.overall 1) (kernelStandardError table.overall 1)] := by
    rw [hestimates,herrors]
    rfl
  refine ⟨_,by
    simp only [evaluateBinaryGateKernel,hcritical,ok_bind,hd,table.statisticsRows_scalar,hcontent,hexcess,
      hcontentP,hexcessP,hbounds,hresolution,weights_table h,table.leaveOneFold_scalar,
      table.failureGap_scalar,table.benchmarkMeans_scalar,hlowers]
    rfl,rfl,?_⟩
  simp only [List.forall_mem_cons,gate_passed,hcontentValue,hexcessValue,hr95,Bool.true_and,
    table.leavesOne_iff,List.getD_cons_zero,List.getD_cons_succ,Fin.forall_fin_two]
  constructor
  · rintro ⟨hclean,hcp,hep,hcl,hel,hcm,hem,hcr,her,hmeans,hone,hgap,_⟩
    exact ⟨⟨hclean,hcp,hep,Fin.forall_fin_two.mpr ⟨hcm,hem⟩,Fin.forall_fin_two.mpr ⟨hcr,her⟩,hmeans,hone,
      hgap⟩,hcl,hel⟩
  · rintro ⟨hgates,hcl,hel⟩
    exact ⟨hgates.clean,hgates.contentSharp,hgates.excessSharp,hcl,hel,hgates.material 0,
      hgates.material 1,hgates.resolved 0,hgates.resolved 1,hgates.nonnegative,hgates.leavesOne,
      hgates.balanced,by simp⟩

theorem batchLower_pos {criticalValue : ℝ} (htwo : ∀ benchmark, 2 ≤ rosterOf table.overall benchmark)
    (contrast : Fin 2) :
    0 < batchLower table.overall criticalValue contrast ↔
      criticalValue * Real.sqrt (pooledCovariance table.overall contrast) <
        runEstimate table.overall contrast := by
  have hS := htwo 0
  have hT := htwo 1
  have hsmall : ¬ (rosterOf table.overall 0 < 2 ∨ rosterOf table.overall 1 < 2) := by omega
  have hsqrt : Real.sqrt (max 0 (pooledCovariance table.overall contrast : ℝ)) =
      Real.sqrt (pooledCovariance table.overall contrast) := by
    rcases le_total (pooledCovariance table.overall contrast : ℝ) 0 with hneg | hpos
    · rw [max_eq_left hneg,Real.sqrt_eq_zero_of_nonpos hneg,Real.sqrt_zero]
    · rw [max_eq_right hpos]
  rw [batchLower,batchStandardError,if_neg hsmall,hsqrt]
  exact EReal.coe_pos.trans sub_pos

theorem gates_agree_iff {criticalValue : ℝ} (hc : 0 ≤ criticalValue) {draws : Option ℤ}
    (hd : draws.getD config.sharpDraws = config.sharpDraws) {gates : List GateResult}
    {result : GateBatchResult 1}
    (hkernel : evaluateBinaryGateKernel generator table.scalar config criticalValue 0 draws = .ok gates)
    (hbatch : evaluateBinaryGateBatch generator table.batch config (fun _ => criticalValue) = .ok result) :
    (result.causalPass 0 = true ↔ ∀ gate ∈ gates, gate.passed = true) ↔
    ¬ ((∃ contrast, table.VanishingError contrast) ∧ table.OtherGatesHold generator config ∧
      ∀ contrast, ¬ ConstantContrast table.overall contrast →
        criticalValue * Real.sqrt (pooledCovariance table.overall contrast) <
          runEstimate table.overall contrast) := by
  obtain ⟨_,hkernel',_,hscalar⟩ := table.kernel_ok generator config hc hd
  obtain ⟨_,hbatch',hcausal⟩ := table.batch_ok generator config criticalValue
  cases hkernel.symm.trans hkernel'
  cases hbatch.symm.trans hbatch'
  rw [hcausal,hscalar]
  simp only [primaryLower_pos table.occupied]
  constructor
  · rintro hiff ⟨⟨contrast,htwo,hconstant⟩,hgates,hlower⟩
    have hpositive (other : Fin 2) : 0 < batchLower table.overall criticalValue other := by
      rw [table.batchLower_pos htwo]
      by_cases hother : ConstantContrast table.overall other
      · -- a constant contrast has no variance, so materiality alone keeps the batch bound positive
        rw [(pooledCovariance_eq_zero table.occupied other).mpr hother]
        have hmaterial := hgates.material other
        rw [config.frozen.2.1] at hmaterial
        have hreal : ((1 / 20 : ℚ) : ℝ) ≤ runEstimate table.overall other := by exact_mod_cast hmaterial
        norm_num at hreal ⊢
        linarith
      · exact hlower other hother
    exact ((hiff.mp ⟨hgates,hpositive⟩).2 contrast).2 ⟨htwo,hconstant⟩
  · intro hregular
    constructor
    · rintro ⟨hgates,hpositive⟩
      refine ⟨hgates,fun contrast => ⟨hpositive contrast,?_⟩⟩
      rintro ⟨htwo,hconstant⟩
      exact hregular ⟨⟨contrast,htwo,hconstant⟩,hgates,fun other _ =>
        (table.batchLower_pos htwo other).mp (hpositive other)⟩
    · rintro ⟨hgates,hpositive⟩
      exact ⟨hgates,fun contrast => (hpositive contrast).1⟩

theorem batch_refines_scalar_iff {criticalValue : ℝ} (hc : 0 ≤ criticalValue) {draws : Option ℤ}
    (hd : draws.getD config.sharpDraws = config.sharpDraws) :
    (∃ gates result,
      evaluateBinaryGateKernel generator table.scalar config criticalValue 0 draws = .ok gates ∧
      gates.length = 12 ∧
      evaluateBinaryGateBatch generator table.batch config (fun _ => criticalValue) = .ok result ∧
      (result.causalPass 0 = true ↔ ∀ gate ∈ gates, gate.passed = true)) ↔
    ¬ ((∃ contrast, table.VanishingError contrast) ∧ table.OtherGatesHold generator config ∧
      ∀ contrast, ¬ ConstantContrast table.overall contrast →
        criticalValue * Real.sqrt (pooledCovariance table.overall contrast) <
          runEstimate table.overall contrast) := by
  constructor
  · rintro ⟨gates,result,hkernel,_,hbatch,hiff⟩
    exact (table.gates_agree_iff generator config hc hd hkernel hbatch).mp hiff
  · intro hregular
    obtain ⟨gates,hkernel,hlength,_⟩ := table.kernel_ok generator config hc hd
    obtain ⟨result,hbatch,_⟩ := table.batch_ok generator config criticalValue
    exact ⟨gates,result,hkernel,hlength,hbatch,
      (table.gates_agree_iff generator config hc hd hkernel hbatch).mpr hregular⟩

end Agreement

def uniformSuccess : GateTable where
  rosterRef := ⟨"roster","roster.json","".pushn '0' 64,1,"application/json"⟩
  entries := [(.SWE,none,cellCounts 8 3),(.TAU,none,cellCounts 8 3)]
  overall := fun _ => cellCounts 8 3
  failures := fun _ _ => 0
  invalid := 0
  registered := rfl
  occupied := fun _ => ⟨by decide,by decide⟩
  contained := by decide
  failed := fun _ _ => le_rfl

theorem uniformSuccess_constant (contrast : Fin 2) : ConstantContrast uniformSuccess.overall contrast := by
  intro benchmark left right hleft hright
  have honly : ∀ index : Fin 16, cellCounts 8 3 index ≠ 0 → index = 8 := by decide
  rw [honly left hleft,honly right hright]

theorem uniformSuccess_gates : uniformSuccess.OtherGatesHold Generator.lowest .default where
  clean := rfl
  contentSharp := by decide +kernel
  excessSharp := by decide +kernel
  material := by decide +kernel
  resolved := by decide +kernel
  nonnegative := by decide +kernel
  leavesOne := by
    intro entry hentry hgroup
    rcases List.mem_pair.mp hentry with rfl | rfl <;> cases hgroup
  balanced := by decide +kernel

theorem uniform_success_splits_kernels :
    ¬ ∀ gates result,
      evaluateBinaryGateKernel Generator.lowest uniformSuccess.scalar .default 0 0 none = .ok gates →
      evaluateBinaryGateBatch Generator.lowest uniformSuccess.batch .default (fun _ => 0) = .ok result →
      (result.causalPass 0 = true ↔ ∀ gate ∈ gates, gate.passed = true) := by
  intro hagree
  obtain ⟨gates,hkernel,_⟩ :=
    uniformSuccess.kernel_ok Generator.lowest .default (le_refl 0) (show none.getD _ = _ from rfl)
  obtain ⟨result,hbatch,_⟩ := uniformSuccess.batch_ok Generator.lowest .default 0
  refine (uniformSuccess.gates_agree_iff Generator.lowest .default (le_refl 0) rfl hkernel hbatch).mp
    (hagree gates result hkernel hbatch) ⟨⟨0,by decide,uniformSuccess_constant 0⟩,uniformSuccess_gates,?_⟩
  exact fun contrast hvarying => absurd (uniformSuccess_constant contrast) hvarying

-- Three tasks of each benchmark succeed on the real arm only, one on no arm.
def variedCounts : PatternCounts := fun i => if i = 8 then 3 else if i = 0 then 1 else 0

def variedRosters : GateTable where
  rosterRef := ⟨"roster","roster.json","".pushn '0' 64,1,"application/json"⟩
  entries := [(.SWE,none,variedCounts),(.TAU,none,variedCounts)]
  overall := fun _ => variedCounts
  failures := fun _ _ => 0
  invalid := 0
  registered := rfl
  occupied := fun _ => ⟨by decide,by decide⟩
  contained := by decide
  failed := fun _ _ => le_rfl

theorem variedRosters_varies (contrast : Fin 2) : ¬ ConstantContrast variedRosters.overall contrast := by
  have hdiffers : ∀ contrast : Fin 2, contrastMatrix 8 contrast ≠ contrastMatrix 0 contrast := by decide +kernel
  exact fun hconstant => hdiffers contrast (hconstant 0 8 0 (by decide) (by decide))

theorem variedRosters_groups : countGroups variedRosters.overall false = [([0,0],2),([2,-2],6)] ∧
    countGroups variedRosters.overall true = [([0,0,0],2),([2,-1,-1],6)] := by
  constructor
  · have hsorted : ([([0,0],2),([2,-2],6)] : List (List ℤ × ℕ)).Pairwise fun left right => (!decide (right.1 < left.1)) = true := by
      decide
    rw [← List.mergeSort_of_pairwise hsorted]
    exact congrArg (List.mergeSort · _) (by decide +kernel)
  · have hsorted : ([([0,0,0],2),([2,-1,-1],6)] : List (List ℤ × ℕ)).Pairwise
        fun left right => (!decide (right.1 < left.1)) = true := by
      decide
    rw [← List.mergeSort_of_pairwise hsorted]
    exact congrArg (List.mergeSort · _) (by decide +kernel)

theorem variedRosters_gates : variedRosters.OtherGatesHold Generator.lowest .default where
  clean := rfl
  contentSharp := by
    rw [countSharpTailValue,variedRosters_groups.1]
    decide +kernel
  excessSharp := by
    rw [countSharpTailValue,variedRosters_groups.2]
    decide +kernel
  material := by decide +kernel
  resolved := by decide +kernel
  nonnegative := by decide +kernel
  leavesOne := by
    intro entry hentry hgroup
    rcases List.mem_pair.mp hentry with rfl | rfl <;> cases hgroup
  balanced := by decide +kernel

theorem variedRosters_positive (contrast : Fin 2) : 0 < batchLower variedRosters.overall 2 contrast := by
  have htwo : ∀ benchmark, 2 ≤ rosterOf variedRosters.overall benchmark := by decide
  have hestimate : runEstimate variedRosters.overall contrast = 3 / 4 := by
    revert contrast
    decide +kernel
  have hspread : pooledCovariance variedRosters.overall contrast < 9 / 64 := by
    revert contrast
    decide +kernel
  rw [variedRosters.batchLower_pos htwo,hestimate]
  have hreal : (pooledCovariance variedRosters.overall contrast : ℝ) < (3 / 8) ^ 2 := by
    have hcast : (pooledCovariance variedRosters.overall contrast : ℝ) < ((9 / 64 : ℚ) : ℝ) := by exact_mod_cast hspread
    norm_num at hcast ⊢
    exact hcast
  have hroot := (Real.sqrt_lt' (by norm_num)).mpr hreal
  push_cast
  linarith

theorem varied_rosters_pass :
    ∃ gates result,
      evaluateBinaryGateKernel Generator.lowest variedRosters.scalar .default 2 0 none = .ok gates ∧
      gates.length = 12 ∧
      evaluateBinaryGateBatch Generator.lowest variedRosters.batch .default (fun _ => 2) = .ok result ∧
      result.causalPass 0 = true ∧ ∀ gate ∈ gates, gate.passed = true := by
  obtain ⟨gates,result,hkernel,hlength,hbatch,hiff⟩ :=
    (variedRosters.batch_refines_scalar_iff Generator.lowest .default zero_le_two (show none.getD _ = _ from rfl)).mpr
      fun ⟨⟨contrast,_,hconstant⟩,_⟩ => variedRosters_varies contrast hconstant
  obtain ⟨_,hbatch',hcausal⟩ := variedRosters.batch_ok Generator.lowest .default 2
  cases hbatch.symm.trans hbatch'
  have hpass : result.causalPass 0 = true := hcausal.mpr ⟨variedRosters_gates,variedRosters_positive⟩
  exact ⟨gates,result,hkernel,hlength,hbatch,hpass,hiff.mp hpass⟩

end GateTable

end PneumaLab.ResamplingNull
