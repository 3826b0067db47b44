import PneumaLab.ResamplingNull.Analysis.BatchAcceptance

namespace PneumaLab.ResamplingNull

variable {runs entries : ℕ}

def BinarySufficientStatisticsBatch.alone (statistics : BinarySufficientStatisticsBatch runs entries)
    (run : Fin runs) : BinarySufficientStatisticsBatch 1 entries where
  rosterRef := statistics.rosterRef
  groupManifest := statistics.groupManifest
  patternCounts := fun _ => statistics.patternCounts run
  armFailureCounts := fun _ => statistics.armFailureCounts run
  pipelineInvalidCounts := fun _ => statistics.pipelineInvalidCounts run

def GateBatchResult.alone (result : GateBatchResult runs) (run : Fin runs) : GateBatchResult 1 where
  causalPass := fun _ => result.causalPass run
  contentEstimate := fun _ => result.contentEstimate run
  excessEstimate := fun _ => result.excessEstimate run
  contentSharpP := fun _ => result.contentSharpP run
  excessSharpP := fun _ => result.excessSharpP run
  primaryLowers := fun _ => result.primaryLowers run
  r95 := fun _ => result.r95 run
  differentialFailureGap := fun _ => result.differentialFailureGap run
  allBenchmarkNonnegative := fun _ => result.allBenchmarkNonnegative run
  allLeaveOneNonnegative := fun _ => result.allLeaveOneNonnegative run

section Flags
variable (statistics : BinarySufficientStatisticsBatch runs entries) (counts : Fin runs → RunCounts)

def IsGroup (entry : Fin entries) : Prop := (statistics.groupManifest entry).2.isSome

def entryAxis (entry : Fin entries) : Fin 2 := benchmarkAxis (statistics.groupManifest entry).1

def Retains (run : Fin runs) (entry : Fin entries) : Prop :=
  0 < retainedTotal (counts run) (entryAxis statistics entry) (statistics.patternCounts run entry)

def RemainderHolds (run : Fin runs) (entry : Fin entries) : Prop :=
  retainedHolds (counts run) (entryAxis statistics entry) (statistics.patternCounts run entry) = true

def LeaveOneHolds (run : Fin runs) : Prop :=
  ∀ entry, IsGroup statistics entry →
    Retains statistics counts run entry ∧ RemainderHolds statistics counts run entry

theorem leaveOneStep_iff (passing : Fin runs → Bool) (entry : Fin entries) (run : Fin runs) :
    batchLeaveOneStep statistics counts passing entry run = true ↔
      passing run = true ∧ (IsGroup statistics entry →
        (∀ other, Retains statistics counts other entry) ∧
          RemainderHolds statistics counts run entry) := by
  unfold batchLeaveOneStep IsGroup Retains RemainderHolds entryAxis
  by_cases hg : (statistics.groupManifest entry).2.isNone = true
  · simp [Option.isNone_iff_eq_none.mp hg]
  · have hs : (statistics.groupManifest entry).2.isSome = true := by
      simpa [Option.isSome_iff_ne_none] using hg
    rw [if_neg hg]
    by_cases he : ∃ other, retainedTotal (counts other)
        (benchmarkAxis (statistics.groupManifest entry).1) (statistics.patternCounts other entry) ≤ 0
    · simp only [if_pos he,Bool.false_eq_true,hs,forall_const,false_iff]
      obtain ⟨other,ho⟩ := he
      rintro ⟨_,hall,_⟩
      exact absurd (hall other) (not_lt.mpr ho)
    · simp only [if_neg he,Bool.and_eq_true,hs,forall_const]
      have hall : ∀ other, 0 < retainedTotal (counts other)
          (benchmarkAxis (statistics.groupManifest entry).1) (statistics.patternCounts other entry) :=
        fun other => not_le.mp fun ho => he ⟨other,ho⟩
      tauto

theorem leaveOneFold_iff (listed : List (Fin entries)) (passing : Fin runs → Bool) (run : Fin runs) :
    listed.foldl (batchLeaveOneStep statistics counts) passing run = true ↔
      passing run = true ∧ ∀ entry ∈ listed, IsGroup statistics entry →
        (∀ other, Retains statistics counts other entry) ∧
          RemainderHolds statistics counts run entry := by
  induction listed generalizing passing with
  | nil => simp
  | cons entry rest ih =>
    rw [List.foldl_cons,ih,leaveOneStep_iff]
    simp only [List.mem_cons,forall_eq_or_imp,and_assoc]

theorem batchLeaveOne_iff (run : Fin runs) :
    batchLeaveOne statistics counts run = true ↔
      LeaveOneHolds statistics counts run ∧
        ∀ entry, IsGroup statistics entry → ∀ other, Retains statistics counts other entry := by
  rw [batchLeaveOne,leaveOneFold_iff]
  simp only [List.mem_finRange,forall_const,true_and,LeaveOneHolds]
  constructor
  · intro h
    exact ⟨fun entry hg => ⟨(h entry hg).1 run,(h entry hg).2⟩,fun entry hg => (h entry hg).1⟩
  · rintro ⟨hrun,hall⟩ entry hg
    exact ⟨hall entry hg,(hrun entry hg).2⟩

end Flags

section Alone
variable {statistics : BinarySufficientStatisticsBatch runs entries}

theorem admissible_alone (h : Admissible statistics) (run : Fin runs) :
    Admissible (statistics.alone run) where
  swe := h.swe
  tau := h.tau
  two := h.two
  occupied := fun _ => h.occupied run
  counts := fun _ => h.counts run
  failures := fun _ => h.failures run

theorem leaveOneHolds_alone (run : Fin runs) :
    batchLeaveOne (statistics.alone run) (registeredCounts (statistics.alone run)) 0 = true ↔
      LeaveOneHolds statistics (registeredCounts statistics) run := by
  rw [batchLeaveOne_iff]
  constructor
  · exact fun h => h.1
  · exact fun h => ⟨h,fun entry hg _ => (h entry hg).1⟩

variable {G : Type} (generator : Generator G)

theorem gateBatchResult_alone (config : AnalysisConfig) (criticalValues : Fin runs → ℝ)
    (run : Fin runs) :
    (gateBatchResult generator statistics config criticalValues).alone run =
        gateBatchResult generator (statistics.alone run) config (fun _ => criticalValues run) ↔
      batchLeaveOne statistics (registeredCounts statistics) run =
        batchLeaveOne (statistics.alone run) (registeredCounts (statistics.alone run)) 0 := by
  constructor
  · intro h
    exact congrFun (congrArg GateBatchResult.allLeaveOneNonnegative h) 0
  · intro h
    simp only [gateBatchResult,GateBatchResult.alone,h]
    congr 1
    · funext only
      rw [Subsingleton.elim only 0]
      rfl
    · funext only
      rw [Subsingleton.elim only 0]

theorem batch_replicates_independent_iff (statistics : BinarySufficientStatisticsBatch runs entries)
    (config : AnalysisConfig) (criticalValues : Fin runs → ℝ) :
    (∀ result, evaluateBinaryGateBatch generator statistics config criticalValues = .ok result →
      ∀ run, evaluateBinaryGateBatch generator (statistics.alone run) config
        (fun _ => criticalValues run) = .ok (result.alone run)) ↔
    (Admissible statistics → ∀ run,
      LeaveOneHolds statistics (registeredCounts statistics) run →
        ∀ other entry, IsGroup statistics entry →
          Retains statistics (registeredCounts statistics) other entry) := by
  constructor
  · intro h ha run hrun other entry hg
    have hr := h _ (evaluate_admissible generator ha config criticalValues) run
    rw [evaluate_admissible generator (admissible_alone ha run)] at hr
    have hflag := (gateBatchResult_alone generator config criticalValues run).mp
      (Except.ok.inj hr).symm
    rw [(leaveOneHolds_alone run).mpr hrun] at hflag
    exact ((batchLeaveOne_iff _ _ run).mp hflag).2 entry hg other
  · intro h result hr run
    have ha := admissible_of_evaluate generator hr
    rw [evaluate_admissible generator ha] at hr
    cases hr
    rw [evaluate_admissible generator (admissible_alone ha run)]
    refine congrArg Except.ok ((gateBatchResult_alone generator config criticalValues run).mpr ?_).symm
    rw [Bool.eq_iff_iff,leaveOneHolds_alone,batchLeaveOne_iff]
    exact ⟨fun hl => hl.1,fun hl => ⟨hl,fun entry hg other => h ha run hl other entry hg⟩⟩

end Alone

def Generator.lowest : Generator Unit where
  seeded := fun _ => ()
  integers := fun _ _ => (0,())
  integersBlock := fun _ _ size => (List.replicate size 0,())
  integers_lt := fun _ _ h => h

def cellCounts (index : Fin 16) (count : ℤ) : PatternCounts := fun i => if i = index then count else 0

def emptyRemainderBatch : BinarySufficientStatisticsBatch 2 3 where
  rosterRef := ⟨"roster","roster.json","".pushn '0' 64,1,"application/json"⟩
  groupManifest := ![(.SWE,none),(.TAU,none),(.SWE,some ⟨.language,"python",by decide⟩)]
  patternCounts := ![![cellCounts 8 2,cellCounts 8 2,cellCounts 8 1],
    ![cellCounts 8 2,cellCounts 8 2,cellCounts 8 2]]
  armFailureCounts := fun _ _ _ => 0
  pipelineInvalidCounts := fun _ => 0

theorem emptyRemainderBatch_admissible : Admissible emptyRemainderBatch where
  swe := by decide
  tau := by decide
  two := by decide
  occupied := by decide
  counts := by decide
  failures := by decide

theorem empty_remainder_reaches_other_runs :
    ¬ ∀ result, evaluateBinaryGateBatch Generator.lowest emptyRemainderBatch .default (fun _ => 0) =
        .ok result →
      ∀ run, evaluateBinaryGateBatch Generator.lowest (emptyRemainderBatch.alone run) .default
        (fun _ => 0) = .ok (result.alone run) := by
  intro h
  have ha := emptyRemainderBatch_admissible
  have hr := h _ (evaluate_admissible Generator.lowest ha .default fun _ => 0) 0
  rw [evaluate_admissible Generator.lowest (admissible_alone ha 0)] at hr
  have hflag := (gateBatchResult_alone Generator.lowest .default (fun _ => 0) 0).mp
    (Except.ok.inj hr).symm
  revert hflag
  decide +kernel

end PneumaLab.ResamplingNull
