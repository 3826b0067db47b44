import PneumaLab.Statistics.IntervalSweep

namespace PneumaLab.Statistics

section Governed

def NuisanceProfile.Frozen (nuisance : NuisanceProfile) : Prop :=
  (nuisance.attrition,nuisance.evaluatorError,nuisance.utilityEventRate,nuisance.utilityDiscordance) ∈ nuisanceProfiles

theorem NuisanceProfile.Frozen.error_lt {nuisance : NuisanceProfile} (h : nuisance.Frozen) :
    nuisance.evaluatorError ≤ 1 / 10 := by
  simp only [NuisanceProfile.Frozen,nuisanceProfiles,List.mem_cons,Prod.mk.injEq,List.not_mem_nil,or_false] at h
  rcases h with ⟨_,herror,_⟩ | ⟨_,herror,_⟩ | ⟨_,herror,_⟩ <;> rw [herror] <;> norm_num

theorem pos_of_mem_deltaValues {delta : ℝ} (h : delta ∈ deltaValues) : 0 < delta := by
  simp only [deltaValues,List.mem_cons,List.not_mem_nil,or_false] at h
  rcases h with rfl | rfl | rfl <;> norm_num

theorem observedDelta_nonneg {cell : PriorCell} {delta : ℝ} (hprofile : cell.nuisance.Frozen) (hdelta : delta ∈ deltaValues) :
    0 ≤ observedDelta cell delta := by
  have herror := hprofile.error_lt
  exact mul_nonneg (by linarith) (pos_of_mem_deltaValues hdelta).le

end Governed

section Decision
variable (cell : PriorCell) (deltaPower maxTCritical : ℝ) (found : Scales)

def DrawPasses (names : List Component) (draw : Draw) (support : ℕ) : Prop :=
  ∀ name ∈ names, (componentTest cell deltaPower maxTCritical found name).Passes (draw name) support

theorem componentTest_proper {cell : PriorCell} {deltaPower : ℝ} {found : Scales} (hbehavior : 0 < found.behavior)
    (hutility : 0 < found.utility) (hdelta : 0 ≤ observedDelta cell deltaPower) (name : Component) :
    (componentTest cell deltaPower maxTCritical found name).Proper := by
  cases name with
  | repeatHarm comparator => exact ⟨hdelta,hbehavior⟩
  | utility name comparator => exact ⟨by norm_num [componentTest,utilityMargin],hutility⟩
  | h2 name => exact ⟨hdelta,hbehavior⟩

open Classical in
theorem scenarioCounts_decides (zValues : List Draw) (tier : Tier) (scope : Scope) (supportCounts : List ℕ)
    (hfound : scales cell deltaPower = .ok found) (hbehavior : 0 < found.behavior) (hutility : 0 < found.utility)
    (hdelta : 0 ≤ observedDelta cell deltaPower) (hne : supportCounts ≠ []) (hpositive : ∀ support ∈ supportCounts, 0 < support) :
    scenarioCounts zValues cell deltaPower tier scope supportCounts maxTCritical = .ok {
        conjunction := supportCounts.map fun support => (support,(zValues.countP fun draw =>
          DrawPasses cell deltaPower maxTCritical found (componentNames tier scope) draw support : ℤ))
        components := (componentNames tier scope).map fun name => (name,supportCounts.map fun support =>
          (support,(zValues.countP fun draw =>
            (componentTest cell deltaPower maxTCritical found name).Passes (draw name) support : ℤ)))
        draws := zValues.length } ∧
      ∀ intervals : List (EReal × EReal), (∀ interval ∈ intervals, interval.1 ≠ ⊥) →
        countsForIntervals intervals supportCounts =
          .ok (supportCounts.map fun support => (support,(intervals.countP fun interval => Contains interval support : ℤ))) := by
  have hsweep : ∀ intervals : List (EReal × EReal), (∀ interval ∈ intervals, interval.1 ≠ ⊥) →
      countsForIntervals intervals supportCounts =
        .ok (supportCounts.map fun support => (support,(intervals.countP fun interval => Contains interval support : ℤ))) :=
    fun intervals hlower => countsForIntervals_eq hlower hne
  refine ⟨?_,hsweep⟩
  have hproper := componentTest_proper maxTCritical hbehavior hutility hdelta
  have hpasses : ∀ name (draw : Draw), ∀ support ∈ supportCounts,
      (Contains ((componentTest cell deltaPower maxTCritical found name).interval (draw name)) support ↔
        (componentTest cell deltaPower maxTCritical found name).Passes (draw name) support) :=
    fun name draw support hsupport => interval_iff (hproper name) (draw name) (hpositive support hsupport)
  have hconjunction := hsweep (zValues.map fun draw => combine ((componentNames tier scope).map fun name =>
      (componentTest cell deltaPower maxTCritical found name).interval (draw name))) (by
    intro interval hinterval
    obtain ⟨draw,_,rfl⟩ := List.mem_map.mp hinterval
    refine combine_lower_ne_bot (mt List.map_eq_nil_iff.mp (componentNames_ne_nil tier scope)) ?_
    intro interval hinterval
    obtain ⟨name,_,rfl⟩ := List.mem_map.mp hinterval
    exact interval_lower_ne_bot _ _)
  have hcomponent : ∀ name, countsForIntervals (zValues.map fun draw =>
        (componentTest cell deltaPower maxTCritical found name).interval (draw name)) supportCounts =
      .ok (supportCounts.map fun support => (support,(zValues.countP fun draw =>
        (componentTest cell deltaPower maxTCritical found name).Passes (draw name) support : ℤ))) := by
    intro name
    rw [hsweep]
    · refine congrArg Except.ok (List.map_congr_left fun support hsupport => congrArg (Prod.mk support) (congrArg Nat.cast ?_))
      rw [List.countP_map]
      refine List.countP_congr fun draw _ => ?_
      rw [Function.comp_apply,decide_eq_true_eq,decide_eq_true_eq]
      exact hpasses name draw support hsupport
    · intro interval hinterval
      obtain ⟨draw,_,rfl⟩ := List.mem_map.mp hinterval
      exact interval_lower_ne_bot _ _
  have hcombined : ∀ support ∈ supportCounts, (zValues.map fun draw => combine ((componentNames tier scope).map fun name =>
        (componentTest cell deltaPower maxTCritical found name).interval (draw name))).countP
          (fun interval => Contains interval support) =
      zValues.countP fun draw => DrawPasses cell deltaPower maxTCritical found (componentNames tier scope) draw support := by
    intro support hsupport
    rw [List.countP_map]
    refine List.countP_congr fun draw _ => ?_
    rw [Function.comp_apply,decide_eq_true_eq,decide_eq_true_eq,combine_contains,List.forall_mem_map]
    exact forall₂_congr fun name _ => hpasses name draw support hsupport
  have hcomponents : ((componentNames tier scope).mapM fun name => do
        return (name,← countsForIntervals (zValues.map fun draw =>
          (componentTest cell deltaPower maxTCritical found name).interval (draw name)) supportCounts) : Py _) =
      .ok ((componentNames tier scope).map fun name => (name,supportCounts.map fun support => (support,(zValues.countP fun draw =>
        (componentTest cell deltaPower maxTCritical found name).Passes (draw name) support : ℤ)))) := by
    refine mapM_eq_ok.mpr (List.forall₂_map_right_iff.mpr (List.forall₂_same.mpr fun name _ => ?_))
    rw [hcomponent name]
    rfl
  rw [scenarioCounts,hfound]
  simp only [ok_bind]
  rw [hconjunction,ok_bind,hcomponents,ok_bind]
  refine congrArg Except.ok ?_
  congr 1
  exact List.map_congr_left fun support hsupport => congrArg (Prod.mk support) (congrArg Nat.cast (hcombined support hsupport))

end Decision

section Sample

-- Named, so that a real literal of the sample carries no proof of its own.
local instance five_large : Nat.AtLeastTwo 5 := ⟨by omega⟩
local instance twentyOne_large : Nat.AtLeastTwo 21 := ⟨by omega⟩
local instance twentyFive_at_least : Nat.AtLeastTwo 25 := ⟨by omega⟩
local instance twentyNine_large : Nat.AtLeastTwo 29 := ⟨by omega⟩
local instance thirty_large : Nat.AtLeastTwo 30 := ⟨by omega⟩
local instance forty_large : Nat.AtLeastTwo 40 := ⟨by omega⟩
local instance hundred_large : Nat.AtLeastTwo 100 := ⟨by omega⟩

noncomputable def sampleNuisance : NuisanceProfile := ⟨0,0,5 / 100,5 / 100,1⟩

noncomputable def sampleCell : PriorCell := ⟨30 / 100,30 / 100,5 / 100,25 / 100,sampleNuisance,1⟩

noncomputable def sampleScales : Scales := ⟨Real.sqrt (29 / 100 / (40 / 21)),Real.sqrt (5 / 100 / (40 / 21))⟩

theorem sample_scales : scales sampleCell (10 / 100) = .ok sampleScales := by
  have hmultiplier : nestedSequencesPerLineage * (1 - sampleCell.nuisance.attrition) / (1 + sampleCell.lineageIcc) = 40 / 21 := by
    norm_num [nestedSequencesPerLineage,sampleCell,sampleNuisance]
  have hvariance : behaviorVariance sampleCell (10 / 100) = 29 / 100 := by
    norm_num [behaviorVariance,observedDiscordance,observedDelta,sampleCell,sampleNuisance]
  have hutility : observedDiscordance sampleCell.nuisance.utilityDiscordance sampleCell.nuisance.evaluatorError = 5 / 100 := by
    norm_num [observedDiscordance,sampleCell,sampleNuisance]
  have hicc : ¬ (1 : ℝ) + sampleCell.lineageIcc = 0 := by norm_num [sampleCell]
  have hbehaviorSquare : ¬ (29 / 100 / (40 / 21) : ℝ) < 0 := by norm_num
  have hutilitySquare : ¬ (5 / 100 / (40 / 21) : ℝ) < 0 := by norm_num
  have hnonzero : ¬ (40 / 21 : ℝ) = 0 := by norm_num
  have hpositive : (0 : ℝ) < 29 / 100 := by norm_num
  have hinflation : pyDiv (nestedSequencesPerLineage * (1 - sampleCell.nuisance.attrition)) (1 + sampleCell.lineageIcc) =
      .ok (40 / 21) := by rw [pyDiv,if_neg hicc,hmultiplier]
  have hquotient : ∀ numerator : ℝ, pyDiv numerator (40 / 21) = .ok (numerator / (40 / 21)) := fun numerator => if_neg hnonzero
  have hbehavior : pySqrt (29 / 100 / (40 / 21)) = .ok (Real.sqrt (29 / 100 / (40 / 21))) := if_neg hbehaviorSquare
  have hroot : pySqrt (5 / 100 / (40 / 21)) = .ok (Real.sqrt (5 / 100 / (40 / 21))) := if_neg hutilitySquare
  simp only [scales,hinflation,ok_bind,hvariance,hutility,hpositive,decide_true,demand,if_true,hquotient,hbehavior,hroot]
  rfl

theorem two_passes (name : Component) (support : ℕ) :
    (componentTest sampleCell (10 / 100) oneSidedZ95 sampleScales name).Passes 2 support := by
  have hdelta : observedDelta sampleCell (10 / 100) = 10 / 100 := by norm_num [observedDelta,sampleCell,sampleNuisance]
  have hnonneg : 0 ≤ observedDelta sampleCell (10 / 100) := by
    rw [hdelta]
    norm_num
  have hcritical : oneSidedZ95 ≤ 2 := by norm_num [oneSidedZ95]
  have hproper : (componentTest sampleCell (10 / 100) oneSidedZ95 sampleScales name).Proper :=
    componentTest_proper _ (Real.sqrt_pos.mpr (by norm_num)) (Real.sqrt_pos.mpr (by norm_num)) hnonneg name
  refine hproper.passes zero_le_two ?_ ?_ support
  · cases name with
    | repeatHarm comparator => exact max_le hcritical hcritical
    | utility name comparator => exact hcritical
    | h2 name => exact hcritical
  · intro pointGate hgate
    cases name with
    | repeatHarm comparator =>
      cases hgate
      change (5 / 100 : ℝ) ≤ observedDelta sampleCell (10 / 100)
      rw [hdelta]
      norm_num
    | utility name comparator => cases hgate
    | h2 name => cases hgate

theorem one_draw_decided :
    scenarioCounts [fun _ => 2] sampleCell (10 / 100) .floor .u1 [24,96] oneSidedZ95 = .ok {
        conjunction := [(24,1),(96,1)]
        components := (componentNames .floor .u1).map fun name => (name,[(24,1),(96,1)])
        draws := 1 } := by
  have hfrozen : sampleCell.nuisance.Frozen := List.mem_cons_self
  have hdecided := (scenarioCounts_decides sampleCell (10 / 100) oneSidedZ95 sampleScales [fun _ => 2] .floor .u1 [24,96]
    sample_scales (Real.sqrt_pos.mpr (by norm_num)) (Real.sqrt_pos.mpr (by norm_num))
    (observedDelta_nonneg hfrozen (by simp [deltaValues])) (List.cons_ne_nil _ _) (by simp)).1
  have hall (support : ℕ) : DrawPasses sampleCell (10 / 100) oneSidedZ95 sampleScales (componentNames .floor .u1) (fun _ => 2)
      support := fun name _ => two_passes name support
  refine hdecided.trans (congrArg Except.ok ?_)
  simp [hall,two_passes]

end Sample

end PneumaLab.Statistics
