import PneumaLab.Library.Rounding
import PneumaLab.Library.TailTest
import PneumaLab.ResamplingNull.Analysis.BatchIndependence
import PneumaLab.ResamplingNull.Analysis.SharpTails

namespace PneumaLab.ResamplingNull
open MassFunction TailTest Rounding

def AnalysisRow.swapped (row : AnalysisRow) : AnalysisRow :=
  { row with
    real := row.sham
    sham := row.real
    realInfrastructureFailure := row.shamInfrastructureFailure
    shamInfrastructureFailure := row.realInfrastructureFailure }

def AnalysisRow.rotated (row : AnalysisRow) : AnalysisRow :=
  { row with
    real := row.none
    none := row.resample
    resample := row.real
    realInfrastructureFailure := row.noneInfrastructureFailure
    noneInfrastructureFailure := row.resampleInfrastructureFailure
    resampleInfrastructureFailure := row.realInfrastructureFailure }

theorem excessOptions_rotated (weight : ℚ) (row : AnalysisRow) :
    (excessOptions weight row.rotated).Perm (excessOptions weight row) := by
  have hvalues : ([row.none.toInt,row.resample.toInt] ++ [row.real.toInt]).Perm
      ([row.real.toInt] ++ [row.none.toInt,row.resample.toInt]) :=
    List.perm_append_comm
  simp only [List.cons_append,List.nil_append] at hvalues
  simp only [excessOptions,AnalysisRow.rotated,hvalues.sum_eq]
  exact hvalues.map _

-- A one-sided test of a contrast, with the relabellings of a row that its null leaves exchangeable.
structure SharpTest where
  contrast : ContrastName
  domain : Domain
  options : ℚ → AnalysisRow → List ℚ
  images : AnalysisRow → List AnalysisRow
  self_mem : ∀ row, row ∈ images row
  images_benchmark : ∀ row, ∀ image ∈ images row, image.benchmark = row.benchmark
  images_options : ∀ weight row,
    (images row).map (fun image => weight * taskContrasts image contrast) = options weight row
  options_perm : ∀ weight row, ∀ image ∈ images row, (options weight image).Perm (options weight row)

def contentTest : SharpTest where
  contrast := .content
  domain := .content
  options := contentOptions
  images row := [row,row.swapped]
  self_mem row := by simp
  images_benchmark row := by simp [AnalysisRow.swapped]
  images_options weight row := rfl
  options_perm weight row := by
    simp only [List.mem_cons,List.not_mem_nil,or_false,forall_eq_or_imp,forall_eq]
    exact ⟨.refl _,.swap _ _ _⟩

def excessTest : SharpTest where
  contrast := .excess
  domain := .excess
  options := excessOptions
  images row := [row,row.rotated,row.rotated.rotated]
  self_mem row := by simp
  images_benchmark row := by simp [AnalysisRow.rotated]
  images_options weight row := by
    simp only [List.map_cons,List.map_nil,taskContrasts,excessOptions,AnalysisRow.rotated,List.sum_cons,
      List.sum_nil,List.cons.injEq,and_true]
    push_cast
    refine ⟨?_,?_,?_⟩ <;> ring
  options_perm weight row := by
    simp only [List.mem_cons,List.not_mem_nil,or_false,forall_eq_or_imp,forall_eq]
    have hfirst := excessOptions_rotated weight row
    exact ⟨.refl _,hfirst,(excessOptions_rotated weight row.rotated).trans hfirst⟩

def Exact (choices : List (List ℚ)) : Prop :=
  (choices.map List.length).prod ≤ enumerationLimit ∨
    (sequential dynamicStateLimit choices [(0,1)]).isSome

theorem Exact.perm {xs ys : List (List ℚ)} (h : List.Forall₂ List.Perm xs ys) (hy : Exact ys) : Exact xs := by
  have hlengths : xs.map List.length = ys.map List.length := by
    clear hy
    induction h with
    | nil => rfl
    | cons hperm _ ih => rw [List.map_cons,List.map_cons,hperm.length_eq,ih]
  rw [Exact,hlengths,sequential_isSome_forall₂ dynamicStateLimit h unit_supported unit_supported rfl]
  exact hy

section Results
variable {G : Type} (generator : Generator G) {choices : List (List ℚ)} {statistic : ℚ}
variable {draws seed : ℤ} {domain : Domain}

theorem productTail_exact (h : Exact choices) (statistic : ℚ) (draws seed : ℤ) (domain : Domain) :
    ∃ result, productTail generator statistic choices draws seed domain = .ok result ∧
      result.mode ≠ .addOneMonteCarlo ∧ result.supportSize = some (choices.map List.length).prod ∧
      result.pValue = share (outcomes choices) statistic := by
  by_cases henum : (choices.map List.length).prod ≤ enumerationLimit
  · refine ⟨_,by simp only [productTail]; rw [if_pos henum],by simp [tailResult],rfl,?_⟩
    rw [tailResult,tail_div_total,spread_counted,outcomes_product]
    rfl
  · obtain ⟨distribution,hd⟩ := Option.isSome_iff_exists.mp (h.resolve_left henum)
    refine ⟨_,by simp only [productTail]; rw [if_neg henum,hd],by simp [tailResult],rfl,?_⟩
    exact sequential_exact hd statistic

theorem exact_of_productTail {result : RandomizationResult}
    (h : productTail generator statistic choices draws seed domain = .ok result)
    (hmode : result.mode ≠ .addOneMonteCarlo) : Exact choices := by
  by_contra hnot
  obtain ⟨henum,hsequential⟩ := not_or.mp hnot
  simp only [productTail,if_neg henum,Option.not_isSome_iff_eq_none.mp hsequential,monteCarlo,
    bind_eq_ok] at h
  obtain ⟨_,_,g,_,hresult⟩ := h
  cases hresult
  exact hmode rfl

end Results

def rejects (reading : ℚ → ℚ) (alpha : ℚ) (result : Py RandomizationResult) : Bool :=
  result.toOption.any fun own => reading own.pValue ≤ alpha

structure ValidTest (reading : ℚ → ℚ) (pvalue : List AnalysisRow → Py RandomizationResult)
    (tables : List (List AnalysisRow)) (result : RandomizationResult) : Prop where
  supportSize : result.supportSize = some tables.length
  exact : ∀ table ∈ tables, ∃ own, pvalue table = .ok own ∧ own.mode ≠ .addOneMonteCarlo
  least : reading (1 / tables.length) ≤ reading result.pValue
  level : ∀ alpha, 0 ≤ alpha →
    reading (tables.countP (fun table => rejects reading alpha (pvalue table)) / tables.length) ≤ alpha

namespace SharpTest
variable (test : SharpTest)

def pvalue {G : Type} (generator : Generator G) (rows : List AnalysisRow) (draws seed : ℤ) :
    Py RandomizationResult := do
  let weight ← weights rows
  let statistic ← observed rows test.contrast
  let choices := rows.map fun row => test.options (weight row.benchmark) row
  productTail generator statistic choices draws seed test.domain

def tables (rows : List AnalysisRow) : List (List AnalysisRow) := product (rows.map test.images)

def statistic (weight : Benchmark → ℚ) (rows : List AnalysisRow) : ℚ :=
  (rows.map fun row => weight row.benchmark * taskContrasts row test.contrast).sum

def choices (weight : Benchmark → ℚ) (rows : List AnalysisRow) : List (List ℚ) :=
  rows.map fun row => test.options (weight row.benchmark) row

theorem mem_tables {table rows : List AnalysisRow} :
    table ∈ test.tables rows ↔ List.Forall₂ (fun image row => image ∈ test.images row) table rows := by
  rw [tables,mem_product,List.forall₂_map_right_iff]

theorem self_mem_tables (rows : List AnalysisRow) : rows ∈ test.tables rows :=
  test.mem_tables.mpr (List.forall₂_same.mpr fun row _ => test.self_mem row)

theorem benchmarks_of_mem {table rows : List AnalysisRow} (h : table ∈ test.tables rows) :
    table.map AnalysisRow.benchmark = rows.map AnalysisRow.benchmark := by
  have hrows := test.mem_tables.mp h
  clear h
  induction hrows with
  | nil => rfl
  | cons himage _ ih => rw [List.map_cons,List.map_cons,ih,test.images_benchmark _ _ himage]

theorem weights_of_mem {table rows : List AnalysisRow} (h : table ∈ test.tables rows) :
    weights table = weights rows := by
  have hcount : benchmarkCount table = benchmarkCount rows := by
    funext benchmark
    have hmap (rs : List AnalysisRow) :
        benchmarkCount rs benchmark = (rs.map AnalysisRow.benchmark).countP (· = benchmark) := by
      rw [List.countP_map]
      rfl
    rw [hmap,hmap,test.benchmarks_of_mem h]
  rw [weights,weights,hcount]

theorem choices_perm (weight : Benchmark → ℚ) {table rows : List AnalysisRow} (h : table ∈ test.tables rows) :
    List.Forall₂ List.Perm (test.choices weight table) (test.choices weight rows) := by
  rw [choices,choices,List.forall₂_map_left_iff,List.forall₂_map_right_iff]
  refine (test.mem_tables.mp h).imp fun image row himage => ?_
  rw [test.images_benchmark row image himage]
  exact test.options_perm _ row image himage

theorem tables_statistics (weight : Benchmark → ℚ) (rows : List AnalysisRow) :
    (((test.tables rows).map (test.statistic weight) : List ℚ) : Multiset ℚ) =
      outcomes (test.choices weight rows) := by
  have hchoices : test.choices weight rows = (rows.map test.images).map
      (List.map fun image => weight image.benchmark * taskContrasts image test.contrast) := by
    rw [choices,List.map_map]
    refine List.map_congr_left fun row _ => ?_
    rw [← test.images_options,Function.comp_apply]
    refine List.map_congr_left fun image himage => ?_
    rw [test.images_benchmark row image himage]
  rw [← outcomes_product,hchoices,product_map,List.map_map]
  rfl

section Validity
variable {G : Type} (generator : Generator G) {weight : Benchmark → ℚ} {rows : List AnalysisRow}

theorem pvalue_eq (h : weights rows = .ok weight) (draws seed : ℤ) :
    test.pvalue generator rows draws seed =
      productTail generator (test.statistic weight rows) (test.choices weight rows) draws seed test.domain := by
  have hobserved : observed rows test.contrast = .ok (test.statistic weight rows) := by
    rw [observed,h]
    rfl
  rw [pvalue,h,hobserved]
  rfl

theorem pvalue_table (h : weights rows = .ok weight) (hexact : Exact (test.choices weight rows))
    {table : List AnalysisRow} (ht : table ∈ test.tables rows) (draws seed : ℤ) :
    ∃ own, test.pvalue generator table draws seed = .ok own ∧ own.mode ≠ .addOneMonteCarlo ∧
      own.pValue = share (outcomes (test.choices weight rows)) (test.statistic weight table) := by
  have hperm := test.choices_perm weight ht
  obtain ⟨own,hown,hmode,_,hvalue⟩ := productTail_exact generator (hexact.perm hperm)
    (test.statistic weight table) draws seed test.domain
  rw [test.pvalue_eq generator ((test.weights_of_mem ht).trans h)]
  exact ⟨own,hown,hmode,by rw [hvalue,outcomes_forall₂ hperm]⟩

theorem valid {reading : ℚ → ℚ} (hreading : MonotoneOn reading (Set.Ici 0)) (hzero : reading 0 = 0)
    {draws seed : ℤ} {result : RandomizationResult} (h : test.pvalue generator rows draws seed = .ok result)
    (hmode : result.mode ≠ .addOneMonteCarlo) :
    ValidTest reading (fun table => test.pvalue generator table draws seed) (test.tables rows) result := by
  obtain ⟨weight,hweight⟩ : ∃ weight, weights rows = .ok weight := by
    obtain ⟨weight,hweight,_⟩ := bind_eq_ok.mp h
    exact ⟨weight,hweight⟩
  have hexact : Exact (test.choices weight rows) := by
    rw [test.pvalue_eq generator hweight] at h
    exact exact_of_productTail generator h hmode
  let population := outcomes (test.choices weight rows)
  have hpopulation : (((test.tables rows).map (test.statistic weight) : List ℚ) : Multiset ℚ) = population :=
    test.tables_statistics weight rows
  have hcard : population.card = (test.tables rows).length := by
    rw [← hpopulation,Multiset.coe_card,List.length_map]
  have hown := fun table (ht : table ∈ test.tables rows) =>
    test.pvalue_table generator hweight hexact ht draws seed
  obtain ⟨own,hself,_,hvalue⟩ := hown rows (test.self_mem_tables rows)
  obtain rfl : own = result := by
    rw [hself] at h
    exact Except.ok.inj h
  refine ⟨?_,fun table ht => ?_,?_,fun alpha halpha => ?_⟩
  · obtain ⟨other,hother,_,hsize,_⟩ := productTail_exact generator hexact
      (test.statistic weight rows) draws seed test.domain
    rw [test.pvalue_eq generator hweight,hother] at h
    rw [← Except.ok.inj h,hsize,← card_outcomes,← hcard]
  · obtain ⟨other,hother,hexactMode,_⟩ := hown table ht
    exact ⟨other,hother,hexactMode⟩
  · rw [hvalue,← hcard]
    refine hreading (Set.mem_Ici.mpr (by positivity)) (share_nonneg _ _) (inv_card_le_share ?_)
    rw [← hpopulation]
    exact List.mem_map_of_mem (test.self_mem_tables rows)
  · have hcount : (test.tables rows).countP
        (fun table => rejects reading alpha (test.pvalue generator table draws seed)) =
        population.countP (fun x => reading (share population x) ≤ alpha) := by
      rw [← hpopulation,Multiset.coe_countP,List.countP_map]
      refine List.countP_congr fun table ht => ?_
      obtain ⟨other,hother,_,hshare⟩ := hown table ht
      rw [hother,Function.comp_apply,hpopulation]
      simp only [rejects,Except.toOption,Option.any_some,hshare,population]
    rw [hcount,← hcard]
    exact round_countP_le hreading population (hzero.trans_le halpha)

end Validity

end SharpTest

theorem exact_tests_valid {G : Type} (generator : Generator G) {rows : List AnalysisRow}
    {contentDraws contentSeed excessDraws excessSeed : ℤ} {content excess : RandomizationResult}
    (hcontent : sharpContentPvalue generator rows contentDraws contentSeed = .ok content)
    (hexcess : sharpExcessPvalue generator rows excessDraws excessSeed = .ok excess)
    (hcontentMode : content.mode ≠ .addOneMonteCarlo) (hexcessMode : excess.mode ≠ .addOneMonteCarlo) :
    (∀ reading ∈ [id,double],
      ValidTest reading (fun table => sharpContentPvalue generator table contentDraws contentSeed)
        (product (rows.map fun row => [row,row.swapped])) content) ∧
    ∀ reading ∈ [id,double],
      ValidTest reading (fun table => sharpExcessPvalue generator table excessDraws excessSeed)
        (product (rows.map fun row => [row,row.rotated,row.rotated.rotated])) excess := by
  have hreadings : ∀ reading ∈ [id,double], MonotoneOn reading (Set.Ici 0) ∧ reading 0 = 0 := by
    simp only [List.mem_cons,List.not_mem_nil,or_false,forall_eq_or_imp,forall_eq]
    exact ⟨⟨monotone_id.monotoneOn _,rfl⟩,double_mono,double_zero⟩
  constructor
  · intro reading hreading
    obtain ⟨hmono,hzero⟩ := hreadings reading hreading
    exact contentTest.valid generator hmono hzero hcontent hcontentMode
  · intro reading hreading
    obtain ⟨hmono,hzero⟩ := hreadings reading hreading
    exact excessTest.valid generator hmono hzero hexcess hexcessMode

def perfectRows : List AnalysisRow := [statisticsRow .SWE 8 0,statisticsRow .TAU 8 0]

def perfectContent : RandomizationResult where
  statistic := 1
  pValue := 1 / 4
  mode := .enumeratedExact
  supportSize := some 4
  draws := none

def perfectExcess : RandomizationResult where
  statistic := 1
  pValue := 1 / 9
  mode := .enumeratedExact
  supportSize := some 9
  draws := none

theorem perfectRows_content : sharpContentPvalue Generator.lowest perfectRows 1 0 = .ok perfectContent := by
  decide +kernel

theorem perfectRows_excess : sharpExcessPvalue Generator.lowest perfectRows 1 0 = .ok perfectExcess := by
  decide +kernel

theorem double_ninth : double (1 / 9) = 2001599834386887 / 2 ^ 54 := by
  have hlog : Int.log 2 (1 / 9 : ℚ) = -4 := by
    rw [Int.log_of_right_le_one _ (by norm_num)]
    norm_num
  have hunit : unitExponent (1 / 9) = -56 := by
    rw [unitExponent,hlog]
    rfl
  have hfloor : ⌊(1 / 9 : ℚ) / 2 ^ (-56 : ℤ)⌋ = 8006399337547548 := by norm_num
  have hround : halfEven (1 / 9 / 2 ^ (-56 : ℤ)) = 8006399337547548 := by
    rw [halfEven,hfloor,if_pos (by norm_num)]
  rw [double,hunit,hround]
  norm_num

theorem perfectRows_valid :
    ValidTest double (fun table => sharpExcessPvalue Generator.lowest table 1 0)
      (product (perfectRows.map fun row => [row,row.rotated,row.rotated.rotated])) perfectExcess :=
  (exact_tests_valid Generator.lowest perfectRows_content perfectRows_excess (by decide) (by decide)).2
    double (by simp)

theorem ninth_reported_below_share :
    ∃ content excess tables, sharpContentPvalue Generator.lowest perfectRows 1 0 = .ok content ∧
      content.mode ≠ .addOneMonteCarlo ∧
      sharpExcessPvalue Generator.lowest perfectRows 1 0 = .ok excess ∧ excess.mode ≠ .addOneMonteCarlo ∧
      tables = product (perfectRows.map fun row => [row,row.rotated,row.rotated.rotated]) ∧
      excess.supportSize = some 9 ∧ tables.length = 9 ∧ double excess.pValue < 1 / 9 ∧
      ∃ alpha, 0 ≤ alpha ∧ alpha ≤ 1 ∧ alpha <
        (tables.countP fun table => rejects double alpha
          (sharpExcessPvalue Generator.lowest table 1 0) : ℚ) / tables.length := by
  refine ⟨_,_,_,perfectRows_content,by decide,perfectRows_excess,by decide,rfl,rfl,rfl,?_,
    double (1 / 9),?_,?_,?_⟩
  · rw [show perfectExcess.pValue = 1 / 9 from rfl,double_ninth]
    norm_num
  · exact double_nonneg (by norm_num)
  · rw [double_ninth]
    norm_num
  · have hcount : 0 < (product (perfectRows.map fun row => [row,row.rotated,row.rotated.rotated])).countP
        fun table => rejects double (double (1 / 9)) (sharpExcessPvalue Generator.lowest table 1 0) := by
      refine List.countP_pos_iff.mpr ⟨perfectRows,excessTest.self_mem_tables perfectRows,?_⟩
      rw [perfectRows_excess]
      exact decide_eq_true le_rfl
    calc double (1 / 9) < 1 / 9 := by rw [double_ninth]; norm_num
      _ ≤ _ := by
        rw [show (product (perfectRows.map fun row => [row,row.rotated,row.rotated.rotated])).length = 9
          from rfl]
        gcongr
        · exact_mod_cast hcount
        · norm_num

end PneumaLab.ResamplingNull
