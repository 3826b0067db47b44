import PneumaLab.ResamplingNull.Analysis.StatisticsRows

namespace PneumaLab.ResamplingNull
open MassFunction

def tableRows (counts : RunCounts) : List AnalysisRow := rosterRows .SWE (counts 0) (counts 1)

def tableWeight (counts : RunCounts) : Benchmark → ℚ := rosterWeight .SWE (counts 0) (counts 1)

def sideOf (benchmark : Fin 2) : Benchmark := if benchmark = 0 then .SWE else .TAU

theorem runEstimate_eq (counts : RunCounts) (contrast : Fin 2) :
    runEstimate counts contrast = (contrastMean (counts 0) contrast + contrastMean (counts 1) contrast) / 2 :=
  rfl

def unitScale (denominator : ℕ) : ℤ →+ ℚ :=
  (AddMonoidHom.mulRight (1 / denominator : ℚ)).comp (Int.castAddHom ℚ)

@[simp] theorem unitScale_apply (denominator : ℕ) (value : ℤ) :
    unitScale denominator value = value / denominator := by
  simp [unitScale,div_eq_mul_inv]

theorem unitScale_strictMono {denominator : ℕ} (h : 0 < denominator) :
    StrictMono (unitScale denominator) := by
  intro x y hxy
  have hd : (0 : ℚ) < denominator := by exact_mod_cast h
  have hq : (x : ℚ) < y := by exact_mod_cast hxy
  simpa using div_lt_div_of_pos_right hq hd

theorem sum_filter_map {I : Type} (select : I → Bool) (value : I → ℤ) (xs : List I) :
    ((xs.filter select).map value).sum = (xs.map fun x => if select x then value x else 0).sum := by
  induction xs with
  | nil => rfl
  | cons x xs ih =>
    cases h : select x <;> simp [h,ih]

theorem patternRows_countP (benchmark : Benchmark) {counts : PatternCounts}
    (hn : ∀ index, 0 ≤ counts index) {p : AnalysisRow → Bool} {q : Fin 16 → Bool}
    (hp : ∀ index ordinal, p (statisticsRow benchmark index ordinal) = q index) :
    ((patternRows benchmark counts).countP p : ℤ) =
      (((List.finRange 16).filter q).map counts).sum := by
  rw [patternRows,List.countP_flatMap,Nat.cast_list_sum,List.map_map,sum_filter_map]
  congr 2
  funext index
  have hc : (p ∘ statisticsRow benchmark index) = fun _ => q index := funext (hp index)
  have hi := hn index
  rw [Function.comp_apply,Function.comp_apply,List.countP_map,hc]
  cases q index <;> simp [hi]

theorem countCells_eq : countCells = (List.finRange 16).map (fun index => ((0 : Fin 2),index)) ++
    (List.finRange 16).map (fun index => ((1 : Fin 2),index)) := rfl

section Table
variable {counts : RunCounts} (h : ∀ benchmark, Occupied (counts benchmark))

include h

theorem table_count (benchmark : Fin 2) :
    benchmarkCount (tableRows counts) (sideOf benchmark) = (rosterOf counts benchmark).toNat := by
  have hcount := rosterRows_count .SWE (h 0) (h 1) (sideOf benchmark)
  have hside : (if sideOf benchmark = .SWE then counts 0 else counts 1) = counts benchmark := by
    fin_cases benchmark <;> rfl
  rw [hside] at hcount
  rw [tableRows,rosterOf,← hcount,Int.toNat_natCast]

theorem weights_table : weights (tableRows counts) = .ok (tableWeight counts) :=
  weights_roster .SWE (h 0) (h 1)

theorem observed_table (contrast : Fin 2) :
    observed (tableRows counts) (contrastAxis contrast) = .ok (runEstimate counts contrast) :=
  observed_roster .SWE (h 0) (h 1) contrast

omit h in
theorem tableWeight_eq (benchmark : Fin 2) :
    tableWeight counts (sideOf benchmark) = 1 / (2 * rosterOf counts benchmark) := by
  fin_cases benchmark <;> rfl

omit h in
theorem table_map {α : Type} {f : AnalysisRow → α} {value : Fin 2 → Fin 16 → α}
    (hf : ∀ benchmark index ordinal,
      f (statisticsRow (sideOf benchmark) index ordinal) = value benchmark index) :
    (tableRows counts).map f = countCells.flatMap fun cell =>
      List.replicate (counts cell.1 cell.2).toNat (value cell.1 cell.2) := by
  have hrows : tableRows counts = patternRows (sideOf 0) (counts 0) ++ patternRows (sideOf 1) (counts 1) :=
    rfl
  rw [hrows,List.map_append,patternRows_map _ _ (hf 0),patternRows_map _ _ (hf 1),countCells_eq,
    List.flatMap_append,List.flatMap_map,List.flatMap_map]

theorem scale_denominator (benchmark : Fin 2) :
    optionScale counts benchmark * (4 * rosterOf counts benchmark) = commonDenominator counts := by
  have hpos := (h benchmark).total
  have hdvd : 4 * (rosterOf counts benchmark).toNat ∣ commonDenominator counts := by
    fin_cases benchmark
    · exact Nat.dvd_lcm_left _ _
    · exact Nat.dvd_lcm_right _ _
  have hcast : (4 * rosterOf counts benchmark : ℤ) ∣ commonDenominator counts := by
    have hz : ((4 * (rosterOf counts benchmark).toNat : ℕ) : ℤ) = 4 * rosterOf counts benchmark := by
      rw [rosterOf]
      omega
    rw [← hz]
    exact_mod_cast hdvd
  exact Int.ediv_mul_cancel hcast

theorem commonDenominator_pos : 0 < commonDenominator counts := by
  have h0 := (h 0).total
  have h1 := (h 1).total
  refine Nat.lcm_pos ?_ ?_
  · rw [rosterOf]
    omega
  · rw [rosterOf]
    omega

theorem scale_quotient (benchmark : Fin 2) :
    (optionScale counts benchmark : ℚ) / commonDenominator counts =
      1 / (4 * rosterOf counts benchmark) := by
  have hscale : (optionScale counts benchmark : ℚ) * (4 * rosterOf counts benchmark) =
      commonDenominator counts := by exact_mod_cast scale_denominator h benchmark
  have hd : (commonDenominator counts : ℚ) ≠ 0 := by exact_mod_cast (commonDenominator_pos h).ne'
  have hroster : (rosterOf counts benchmark : ℚ) ≠ 0 := by
    exact_mod_cast (h benchmark).total.ne'
  rw [div_eq_div_iff hd (by simpa using hroster),hscale,one_mul]

theorem contentOptions_table (benchmark : Fin 2) (index : Fin 16) (ordinal : ℕ) :
    contentOptions (tableWeight counts (sideOf benchmark))
      (statisticsRow (sideOf benchmark) index ordinal) =
        (countOptions false (optionScale counts benchmark) (patterns index)).map
          (unitScale (commonDenominator counts)) := by
  have hq := scale_quotient h benchmark
  have hoption (v : ℤ) : tableWeight counts (sideOf benchmark) * v =
      unitScale (commonDenominator counts) (v * 2 * optionScale counts benchmark) := by
    rw [unitScale_apply,tableWeight_eq]
    push_cast
    rw [mul_div_assoc,hq]
    ring
  have h0 := hoption ((patterns index).real.toInt - (patterns index).sham.toInt)
  have h1 := hoption ((patterns index).sham.toInt - (patterns index).real.toInt)
  push_cast at h0 h1
  simp only [contentOptions,countOptions,Bool.false_eq_true,if_false,List.map_cons,List.map_nil,
    ← h0,← h1]
  rfl

theorem excessOptions_table (benchmark : Fin 2) (index : Fin 16) (ordinal : ℕ) :
    excessOptions (tableWeight counts (sideOf benchmark))
      (statisticsRow (sideOf benchmark) index ordinal) =
        (countOptions true (optionScale counts benchmark) (patterns index)).map
          (unitScale (commonDenominator counts)) := by
  have hq := scale_quotient h benchmark
  have hoption (v : ℤ) : tableWeight counts (sideOf benchmark) * (v / 2) =
      unitScale (commonDenominator counts) (v * optionScale counts benchmark) := by
    rw [unitScale_apply,tableWeight_eq]
    push_cast
    rw [mul_div_assoc,hq]
    ring
  simp only [excessOptions,countOptions,if_true,List.map_map]
  refine List.map_congr_left fun value _ => ?_
  exact hoption _

theorem countObserved_table (excess : Bool) :
    unitScale (commonDenominator counts) (countObserved counts excess) =
      runEstimate counts (if excess then 1 else 0) := by
  let contrast : Fin 2 := if excess then 1 else 0
  have hcontrast (index : Fin 16) :
      (countContrast excess (patterns index) : ℚ) = 2 * contrastMatrix index contrast := by
    cases excess
    · simp [countContrast,contrastMatrix,contrast,mul_comm]
    · simp only [countContrast,contrastMatrix,contrast,if_true,one_ne_zero,if_false]
      push_cast
      ring
  have hcell (benchmark : Fin 2) :
      ((((List.finRange 16).map fun index => countContrast excess (patterns index) *
        optionScale counts benchmark * counts benchmark index).sum : ℤ) : ℚ) /
          commonDenominator counts = contrastMean (counts benchmark) contrast / 2 := by
    have hq := scale_quotient h benchmark
    have hsum : ((((List.finRange 16).map fun index => countContrast excess (patterns index) *
        optionScale counts benchmark * counts benchmark index).sum : ℤ) : ℚ) =
        2 * optionScale counts benchmark *
          contrastTotal (counts benchmark) fun index => contrastMatrix index contrast := by
      rw [← contrastTotal_mul,contrastTotal,Int.cast_list_sum,List.map_map]
      congr 2
      funext index
      simp only [Function.comp_apply,Int.cast_mul,hcontrast]
      ring
    calc _ = 2 * (optionScale counts benchmark / commonDenominator counts : ℚ) *
          contrastTotal (counts benchmark) (fun index => contrastMatrix index contrast) := by
          rw [hsum]
          ring
      _ = _ := by
          rw [hq,contrastMean,rosterOf]
          ring
  have hsplit : countObserved counts excess =
      ((List.finRange 16).map fun index => countContrast excess (patterns index) *
        optionScale counts 0 * counts 0 index).sum +
      ((List.finRange 16).map fun index => countContrast excess (patterns index) *
        optionScale counts 1 * counts 1 index).sum := by
    rw [countObserved,countCells_eq,List.map_append,List.sum_append,List.map_map,List.map_map]
    rfl
  rw [hsplit,map_add,unitScale_apply,unitScale_apply,hcell,hcell,runEstimate_eq]
  ring

variable {G : Type} (generator : Generator G) {draws : ℕ} (hd : 0 < draws)

include hd

theorem sharpContentPvalue_table :
    ∃ result, sharpContentPvalue generator (tableRows counts) draws 0 = .ok result ∧
      result.pValue = countSharpTailValue generator counts false draws := by
  obtain ⟨result,hresult,hp⟩ :=
    productTail_pValue generator (unitScale_strictMono (commonDenominator_pos h)) counts false hd
  have hchoices : (tableRows counts).map (fun row => contentOptions (tableWeight counts row.benchmark) row) =
      (countChoices counts false).map (List.map (unitScale (commonDenominator counts))) := by
    rw [table_map (contentOptions_table h),countChoices,List.map_flatMap]
    simp only [List.map_replicate]
  rw [countObserved_table h,← hchoices] at hresult
  refine ⟨result,?_,hp⟩
  have hobs : observed (tableRows counts) .content = .ok (runEstimate counts 0) := observed_table h 0
  rw [sharpContentPvalue,weights_table h,hobs]
  exact hresult

theorem sharpExcessPvalue_table :
    ∃ result, sharpExcessPvalue generator (tableRows counts) draws 0 = .ok result ∧
      result.pValue = countSharpTailValue generator counts true draws := by
  obtain ⟨result,hresult,hp⟩ :=
    productTail_pValue generator (unitScale_strictMono (commonDenominator_pos h)) counts true hd
  have hchoices : (tableRows counts).map (fun row => excessOptions (tableWeight counts row.benchmark) row) =
      (countChoices counts true).map (List.map (unitScale (commonDenominator counts))) := by
    rw [table_map (excessOptions_table h),countChoices,List.map_flatMap]
    simp only [List.map_replicate]
  rw [countObserved_table h,← hchoices] at hresult
  refine ⟨result,?_,hp⟩
  have hobs : observed (tableRows counts) .excess = .ok (runEstimate counts 1) := observed_table h 1
  rw [sharpExcessPvalue,weights_table h,hobs]
  exact hresult

omit hd

theorem resamplingResolution_table :
    ∃ result, resamplingResolution (tableRows counts) = .ok result ∧
      result.r95 = countResolutionValue counts := by
  let discordant := fun row : AnalysisRow => decide (row.resample ≠ row.none)
  have hside (benchmark : Fin 2) :
      ((patternRows (sideOf benchmark) (counts benchmark)).filter discordant).map
        (fun row => tableWeight counts row.benchmark) =
      List.replicate (discordantCount counts benchmark).toNat
        (1 / (2 * ((rosterOf counts benchmark).toNat : ℕ)) : ℚ) := by
    have hlen := patternRows_countP (sideOf benchmark) (h benchmark).nonneg (p := discordant)
      (q := fun index => decide ((patterns index).none ≠ (patterns index).resample))
      (fun index ordinal => decide_eq_decide.mpr ne_comm)
    rw [List.eq_replicate_iff]
    constructor
    · rw [List.length_map,← List.countP_eq_length_filter,discordantCount,← hlen,Int.toNat_natCast]
    · intro weight hweight
      obtain ⟨row,hrow,rfl⟩ := List.mem_map.mp hweight
      have hb := patternRows_benchmark _ _ row (List.mem_of_mem_filter hrow)
      have hroster : (((rosterOf counts benchmark).toNat : ℤ) : ℚ) = rosterOf counts benchmark := by
        rw [rosterOf,Int.toNat_of_nonneg (h benchmark).total.le]
      rw [hb,tableWeight_eq,← hroster,Int.cast_natCast]
  have hflips : ((tableRows counts).filter discordant).map (fun row => tableWeight counts row.benchmark) =
      List.replicate (discordantCount counts 0).toNat (1 / (2 * ((rosterOf counts 0).toNat : ℕ)) : ℚ) ++
        List.replicate (discordantCount counts 1).toNat
          (1 / (2 * ((rosterOf counts 1).toNat : ℕ)) : ℚ) := by
    rw [← hside 0,← hside 1,← List.map_append,← List.filter_append]
    rfl
  have hlength : ((tableRows counts).filter discordant).length =
      (discordantCount counts 0).toNat + (discordantCount counts 1).toNat := by
    have := congrArg List.length hflips
    simpa using this
  have hS := table_count h 0
  have hT := table_count h 1
  rw [show sideOf 0 = .SWE from rfl] at hS
  rw [show sideOf 1 = .TAU from rfl] at hT
  refine ⟨_,by rw [resamplingResolution,weights_table h]; rfl,?_⟩
  rw [countResolutionValue,resolutionMasses]
  simp only [hS,hT]
  congr 2
  refine if_congr Iff.rfl ?_ ?_
  · rw [hlength]
  · rw [← List.foldl_append,← hflips,List.foldl_map]

end Table

end PneumaLab.ResamplingNull
