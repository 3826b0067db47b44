import PneumaLab.ResamplingNull.Analysis.SharpTails

namespace PneumaLab.ResamplingNull
open MassFunction

section Pattern
variable (benchmark : Benchmark) (counts : PatternCounts)

theorem patternRows_map {α : Type} {f : AnalysisRow → α} {v : Fin 16 → α}
    (hf : ∀ index ordinal, f (statisticsRow benchmark index ordinal) = v index) :
    (patternRows benchmark counts).map f =
      (List.finRange 16).flatMap fun index => List.replicate (counts index).toNat (v index) := by
  rw [patternRows,List.map_flatMap]
  congr 1
  funext index
  rw [List.map_map,show f ∘ statisticsRow benchmark index = Function.const ℕ (v index) from
    funext (hf index),List.map_const,List.length_range]

theorem patternRows_benchmark : ∀ row ∈ patternRows benchmark counts, row.benchmark = benchmark := by
  intro row hrow
  obtain ⟨index,_,hindex⟩ := List.mem_flatMap.mp hrow
  obtain ⟨ordinal,_,rfl⟩ := List.mem_map.mp hindex
  rfl

variable {counts} (hn : ∀ index, 0 ≤ counts index)

include hn

theorem patternRows_sum {f : AnalysisRow → ℚ} {v : Fin 16 → ℚ}
    (hf : ∀ index ordinal, f (statisticsRow benchmark index ordinal) = v index) :
    ((patternRows benchmark counts).map f).sum = contrastTotal counts v := by
  rw [patternRows_map benchmark counts hf,List.flatMap_def,List.sum_flatten,List.map_map,
    contrastTotal]
  congr 2
  funext index
  have hcast : (((counts index).toNat : ℤ) : ℚ) = counts index := by rw [Int.toNat_of_nonneg (hn index)]
  rw [Function.comp_apply,List.sum_replicate,nsmul_eq_mul,← hcast,Int.cast_natCast]

theorem patternRows_length : ((patternRows benchmark counts).length : ℤ) = countTotal counts := by
  have h := patternRows_map benchmark counts (f := fun _ => ()) (v := fun _ => ()) (fun _ _ => rfl)
  have hlen := congrArg List.length h
  rw [List.length_map,List.length_flatMap] at hlen
  rw [hlen,countTotal,Nat.cast_list_sum,List.map_map]
  congr 2
  funext index
  simp [hn index]

theorem countTotal_nonneg : 0 ≤ countTotal counts := by
  rw [← patternRows_length .SWE hn]
  positivity

theorem patternRows_count (other : Benchmark) :
    (benchmarkCount (patternRows benchmark counts) other : ℤ) =
      if other = benchmark then countTotal counts else 0 := by
  split
  · next h =>
    rw [← patternRows_length benchmark hn,benchmarkCount,List.countP_eq_length.mpr]
    intro row hrow
    simp [patternRows_benchmark benchmark counts row hrow,h]
  · next h =>
    rw [benchmarkCount,List.countP_eq_zero.mpr]
    · rfl
    · intro row hrow
      simp [patternRows_benchmark benchmark counts row hrow,Ne.symm h]

end Pattern

theorem contrastTotal_mul (counts : PatternCounts) (scale : ℚ) (value : Fin 16 → ℚ) :
    contrastTotal counts (fun index => scale * value index) = scale * contrastTotal counts value := by
  rw [contrastTotal,contrastTotal,← List.sum_map_mul_left]
  congr 2
  funext index
  ring

def contrastAxis : Fin 2 → ContrastName := ![.content,.excess]

theorem taskContrasts_statisticsRow (benchmark : Benchmark) (index : Fin 16) (ordinal : ℕ)
    (contrast : Fin 2) :
    taskContrasts (statisticsRow benchmark index ordinal) (contrastAxis contrast) =
      contrastMatrix index contrast := by
  fin_cases contrast <;> simp [contrastAxis,taskContrasts,contrastMatrix,statisticsRow]

def contrastMean (counts : PatternCounts) (contrast : Fin 2) : ℚ :=
  contrastTotal counts (fun index => contrastMatrix index contrast) / countTotal counts

structure Occupied (counts : PatternCounts) : Prop where
  nonneg : ∀ index, 0 ≤ counts index
  total : 0 < countTotal counts

theorem otherBenchmark_ne (benchmark : Benchmark) : otherBenchmark benchmark ≠ benchmark := by
  cases benchmark <;> simp [otherBenchmark]

section Roster
variable (first : Benchmark) (left right : PatternCounts)

def rosterRows : List AnalysisRow :=
  patternRows first left ++ patternRows (otherBenchmark first) right

def rosterWeight (benchmark : Benchmark) : ℚ :=
  1 / (2 * countTotal (if benchmark = first then left else right))

variable {left right} (hl : Occupied left) (hr : Occupied right)

include hl hr

theorem rosterRows_count (benchmark : Benchmark) :
    (benchmarkCount (rosterRows first left right) benchmark : ℤ) =
      countTotal (if benchmark = first then left else right) := by
  have hsum : benchmarkCount (rosterRows first left right) benchmark =
      benchmarkCount (patternRows first left) benchmark +
        benchmarkCount (patternRows (otherBenchmark first) right) benchmark := List.countP_append
  rw [hsum,Nat.cast_add,patternRows_count _ hl.nonneg,patternRows_count _ hr.nonneg]
  cases benchmark <;> cases first <;> simp [otherBenchmark]

theorem rosterRows_occupied (benchmark : Benchmark) :
    0 < benchmarkCount (rosterRows first left right) benchmark := by
  have h := rosterRows_count first hl hr benchmark
  have hpos : 0 < countTotal (if benchmark = first then left else right) := by
    split
    · exact hl.total
    · exact hr.total
  omega

theorem weights_roster :
    weights (rosterRows first left right) = .ok (rosterWeight first left right) := by
  have hd : demand (0 < benchmarkCount (rosterRows first left right) .SWE &&
      0 < benchmarkCount (rosterRows first left right) .TAU)
      (.valueError "registered analysis requires exactly SWE and TAU rows") = .ok () := by
    simp [rosterRows_occupied first hl hr]
  have hw : (fun benchmark => 1 / (2 * (benchmarkCount (rosterRows first left right) benchmark : ℚ))) =
      rosterWeight first left right := by
    funext benchmark
    have h := rosterRows_count first hl hr benchmark
    rw [rosterWeight,← h,Int.cast_natCast]
  rw [weights,hd,← hw]
  rfl

theorem rosterRows_sum {f : AnalysisRow → ℚ} {v : Benchmark → Fin 16 → ℚ}
    (hf : ∀ benchmark index ordinal, f (statisticsRow benchmark index ordinal) = v benchmark index) :
    ((rosterRows first left right).map f).sum =
      contrastTotal left (v first) + contrastTotal right (v (otherBenchmark first)) := by
  rw [rosterRows,List.map_append,List.sum_append,patternRows_sum first hl.nonneg (hf _),
    patternRows_sum _ hr.nonneg (hf _)]

theorem observed_roster (contrast : Fin 2) :
    observed (rosterRows first left right) (contrastAxis contrast) =
      .ok ((contrastMean left contrast + contrastMean right contrast) / 2) := by
  have hsum := rosterRows_sum first hl hr
    (f := fun row => rosterWeight first left right row.benchmark *
      taskContrasts row (contrastAxis contrast))
    (v := fun benchmark index => rosterWeight first left right benchmark *
      contrastMatrix index contrast)
    (fun benchmark index ordinal => by rw [taskContrasts_statisticsRow]; rfl)
  have h := weights_roster first hl hr
  rw [observed,h]
  refine congrArg Except.ok ?_
  rw [hsum,contrastTotal_mul,contrastTotal_mul,rosterWeight,rosterWeight,if_pos rfl,
    if_neg (otherBenchmark_ne first),contrastMean,contrastMean]
  have hlt := hl.total
  have hrt := hr.total
  have hl0 : (countTotal left : ℚ) ≠ 0 := by exact_mod_cast hlt.ne'
  have hr0 : (countTotal right : ℚ) ≠ 0 := by exact_mod_cast hrt.ne'
  field_simp

theorem benchmarkMean_roster (contrast : Fin 2) (benchmark : Benchmark) :
    benchmarkMean (rosterWeight first left right) (rosterRows first left right) benchmark
      (contrastAxis contrast) = contrastMean (if benchmark = first then left else right) contrast := by
  have hfilter : benchmarkRows (rosterRows first left right) benchmark =
      patternRows benchmark (if benchmark = first then left else right) := by
    have hself (b : Benchmark) (c : PatternCounts) :
        (patternRows b c).filter (fun row => row.benchmark = b) = patternRows b c :=
      List.filter_eq_self.mpr fun row hrow => by simp [patternRows_benchmark b c row hrow]
    have hnone (b b' : Benchmark) (c : PatternCounts) (hne : b ≠ b') :
        (patternRows b c).filter (fun row => row.benchmark = b') = [] :=
      List.filter_eq_nil_iff.mpr fun row hrow => by simp [patternRows_benchmark b c row hrow,hne]
    rw [benchmarkRows,rosterRows,List.filter_append]
    by_cases hb : benchmark = first
    · subst hb
      rw [hself,hnone _ _ _ (otherBenchmark_ne benchmark),if_pos rfl,List.append_nil]
    · have ho : otherBenchmark first = benchmark := by
        cases benchmark <;> cases first <;> simp_all [otherBenchmark]
      rw [hnone _ _ _ (Ne.symm hb),ho,hself,if_neg hb,List.nil_append]
  have hocc : Occupied (if benchmark = first then left else right) := by
    split
    · exact hl
    · exact hr
  rw [benchmarkMean,hfilter,patternRows_sum benchmark hocc.nonneg
    (v := fun index => rosterWeight first left right benchmark * contrastMatrix index contrast)
    (fun index ordinal => by rw [taskContrasts_statisticsRow]; rfl),contrastTotal_mul,rosterWeight,
    contrastMean]
  have hpos := hocc.total
  have h0 : (countTotal (if benchmark = first then left else right) : ℚ) ≠ 0 := by
    exact_mod_cast hpos.ne'
  field_simp

theorem statisticsRows_pair (statistics : BinarySufficientStatistics)
    (h : (statistics.benchmarkGroupPatternCounts.filter fun entry => entry.2.1.isEmpty) =
      [(first,[],left),(otherBenchmark first,[],right)]) :
    statisticsRows statistics = .ok (rosterRows first left right) := by
  have hrows : (([(first,[],left),(otherBenchmark first,[],right)] :
      List (Benchmark × List GroupLabel × PatternCounts)).flatMap
        fun entry => patternRows entry.1 entry.2.2) = rosterRows first left right := by
    simp [rosterRows]
  have hw := weights_roster first hl hr
  have hcounts := hl.nonneg
  have hcounts' := hr.nonneg
  have hd : demand (([(first,[],left),(otherBenchmark first,[],right)] :
      List (Benchmark × List GroupLabel × PatternCounts)).all
        fun entry => decide (∀ index, 0 ≤ entry.2.2 index))
      (.typeError "pattern counts must be non-negative exact ints") = .ok () := by
    simp [hcounts,hcounts']
  simp only [statisticsRows,h,hd,hrows,hw]
  rfl

end Roster

end PneumaLab.ResamplingNull
