import PneumaLab.Gauge.Isotonic
import PneumaLab.Gauge.Resolution

namespace PneumaLab.Gauge

open InvertedIndex RankOrder

section Auroc
variable {K : Type} [Field K] [LinearOrder K] [IsStrictOrderedRing K] {g : K → K}

omit [Field K] [IsStrictOrderedRing K] in
theorem sortBy_map_on {rows : List (K × ℤ)} (hg : StrictMonoOn g {x | x ∈ rows.map Prod.fst}) :
    sortBy Prod.fst (rows.map (Prod.map g id)) = (sortBy Prod.fst rows).map (Prod.map g id) := by
  refine (List.map_mergeSort fun a ha b hb => ?_).symm
  exact decide_eq_decide.mpr (hg.le_iff_le (List.mem_map_of_mem ha) (List.mem_map_of_mem hb)).symm

omit [IsStrictOrderedRing K] in
theorem midrank_map_on {keys : List K} (hg : StrictMonoOn g {x | x ∈ keys}) {x : K} (hx : x ∈ keys) :
    midrank (K := K) (keys.map g) (g x) = midrank keys x := by
  have hbelow : below (keys.map g) (g x) = below keys x := by
    rw [below,List.countP_map]
    exact List.countP_congr fun y hy => by simp [hg.lt_iff_lt hy hx]
  have hties : ties (keys.map g) (g x) = ties keys x := by
    rw [ties,List.countP_map]
    exact List.countP_congr fun y hy => by simp [hg.injOn.eq_iff hy hx]
  rw [midrank,hbelow,hties,midrank]

theorem ranksFrom_map_on {keys : List K} (hsorted : keys.Pairwise (· ≤ ·)) (hg : StrictMonoOn g {x | x ∈ keys}) :
    ranksFrom (K := K) 0 (keys.map g) = ranksFrom 0 keys := by
  have hsorted' : (keys.map g).Pairwise (· ≤ ·) := by
    refine List.pairwise_map.mpr (hsorted.imp_of_mem fun {a b} ha hb hab => ?_)
    exact (hg.le_iff_le ha hb).mpr hab
  rw [ranksFrom_zero hsorted',ranksFrom_zero hsorted,List.map_map]
  exact List.map_congr_left fun x hx => midrank_map_on hg hx

theorem zipStrict_map {A B : Type} (f : A → A) (xs : List A) (ys : List B) :
    zipStrict (xs.map f) ys = (zipStrict xs ys).map fun rows => rows.map (Prod.map f id) := by
  simp only [zipStrict,List.length_map,List.zip_map_left]
  split
  · rfl
  · split <;> rfl

theorem auroc_map {scores : List K} (labels : List ℤ) (hg : StrictMonoOn g {x | x ∈ scores}) :
    auroc (scores.map g) labels = auroc scores labels := by
  rw [auroc,auroc,zipStrict_map]
  cases hrows : zipStrict scores labels with
  | error message => rfl
  | ok rows =>
    have hsub : ∀ x ∈ rows.map Prod.fst, x ∈ scores := by
      rw [zipStrict] at hrows
      split at hrows
      · cases hrows
      · split at hrows
        · cases hrows
        · cases hrows
          intro x hx
          obtain ⟨row,hrow,rfl⟩ := List.mem_map.mp hx
          exact (List.of_mem_zip hrow).1
    have hon : StrictMonoOn g {x | x ∈ rows.map Prod.fst} := hg.mono hsub
    have hon' : StrictMonoOn g {x | x ∈ (sortBy Prod.fst rows).map Prod.fst} :=
      hg.mono fun x hx => hsub x (((sortBy_perm Prod.fst rows).map Prod.fst).mem_iff.mp hx)
    have hranks := ranksFrom_map_on ((sortBy_pairwise Prod.fst rows).map Prod.fst fun _ _ => id) hon'
    have hkeys : ((sortBy Prod.fst rows).map (Prod.map g id)).map Prod.fst = ((sortBy Prod.fst rows).map Prod.fst).map g := by
      rw [List.map_map,List.map_map]
      rfl
    have hcount : ((sortBy Prod.fst rows).map (Prod.map g id)).countP (fun row => decide (row.2 = 1)) =
        (sortBy Prod.fst rows).countP fun row => decide (row.2 = 1) := by
      rw [List.countP_map]
      rfl
    have hsum (ranks : List K) :
        ((ranks.zip ((sortBy Prod.fst rows).map (Prod.map g id))).filter fun row => decide (row.2.2 = 1)).map Prod.fst =
          ((ranks.zip (sortBy Prod.fst rows)).filter fun row => decide (row.2.2 = 1)).map Prod.fst := by
      rw [List.zip_map_right,List.filter_map,List.map_map]
      rfl
    simp only [Except.map,bind,Except.bind,sortBy_map_on hon,hkeys,hranks,hcount,hsum,List.length_map]

end Auroc

noncomputable section

def logitBound : ℝ := (60 : ℤ)

def tiny (digits : ℕ) : ℝ := 1 / ((10 ^ digits : ℕ) : ℝ)

def clamp (z : ℝ) : ℝ := max (-logitBound) (min logitBound z)

def sigmoid (z : ℝ) : ℝ := 1 / (1 + Real.exp (-clamp z))

structure PlattSums where
  gA : ℝ
  gB : ℝ
  hAA : ℝ
  hAB : ℝ
  hBB : ℝ

def PlattSums.add (a b : ℝ) (sums : PlattSums) (row : ℝ × ℤ) : PlattSums :=
  let s := row.1
  let p := sigmoid (a * s + b)
  let r := p - row.2
  let w := max (p * (1 - p)) (tiny 12)
  ⟨sums.gA + r * s,sums.gB + r,sums.hAA + w * s * s,sums.hAB + w * s,sums.hBB + w⟩

def newton (rows : List (ℝ × ℤ)) : ℕ → ℝ × ℝ → ℝ × ℝ
  | 0, (a,b) => (a,b)
  | rounds + 1, (a,b) =>
    let sums := rows.foldl (PlattSums.add a b) ⟨0,0,0,0,0⟩
    let det := sums.hAA * sums.hBB - sums.hAB * sums.hAB
    if |det| < tiny 12 then (a,b)
    else
      let da := (sums.gA * sums.hBB - sums.gB * sums.hAB) / det
      let db := (sums.gB * sums.hAA - sums.gA * sums.hAB) / det
      if |da| < tiny 10 ∧ |db| < tiny 10 then (a - da,b - db) else newton rows rounds (a - da,b - db)

def plattCoefficients (rows : List (ℝ × ℤ)) : ℝ × ℝ :=
  let fitted := newton rows 100 (1,0)
  if fitted.1 ≤ 0 then (1,0) else fitted

def plattMap (rows : List (ℝ × ℤ)) (s : ℝ) : ℝ := sigmoid ((plattCoefficients rows).1 * s + (plattCoefficients rows).2)

def plattFit (scores : List ℝ) (labels : List ℤ) : Except String (ℝ → ℝ) := do
  let rows ← zipStrict scores labels
  return plattMap rows

structure ReportEntry where
  ece : ℝ
  auroc : Option ℝ
  d : Option ℝ
  resolvingPower : Option ℝ

structure CalibrationDetail where
  before : ReportEntry
  platt : ReportEntry
  isotonic : ReportEntry
  plattCoefficients : ℝ × ℝ

def calibrationFacets : List Facet := [.wordingId,.scaleId]

def itemRow (cells : List (Key ℝ × List ℝ)) (item : String) : List (List (FacetValue ℝ) × List ℝ) :=
  (cells.filter fun cell => cell.1.1 = item).map fun cell => (cell.1.2,cell.2)

def subMatrix (cells : List (Key ℝ × List ℝ)) (items : List String) : List (Key ℝ × List ℝ) :=
  items.zipIdx.flatMap fun draw => (itemRow cells draw.1).map fun row => ((s!"{draw.1}#{draw.2}",row.1),row.2)

def knownItems (truth : String → Option ℤ) (m : BalancedMatrix ℝ) : List String :=
  sortedItems (m.items.filter fun i => (truth i).isSome).toFinset

def flatRows (truth : String → Option ℤ) (m : BalancedMatrix ℝ) : List (ℝ × ℤ) :=
  (knownItems truth m).flatMap fun i => (itemRow m.cells i).flatMap fun row => row.2.map fun v => (v,(truth i).getD 0)

def reportEntry (scores : List ℝ) (labels : List ℤ) (cells : List (Key ℝ × List ℝ)) : Except String ReportEntry := do
  return ⟨← expectedCalibrationError scores labels 10,← auroc scores labels,discriminationIndex cells,resolvingPower cells⟩

def calibrated (truth : String → Option ℤ) (cube : ResponseCube ℝ) (flat : List (ℝ × ℤ)) (g : ℝ → ℝ) : Except String ReportEntry :=
  let mapped := (cube.mapValues g).balancedMatrix calibrationFacets
  reportEntry ((flat.map Prod.fst).map g) (flat.map Prod.snd) (subMatrix mapped.cells (knownItems truth mapped))

def calibration (cube : ResponseCube ℝ) (truth : String → Option ℤ) : Except String CalibrationDetail := do
  let m := cube.balancedMatrix calibrationFacets
  let flat := flatRows truth m
  let platt ← plattFit (flat.map Prod.fst) (flat.map Prod.snd)
  let iso ← isotonicFit (flat.map Prod.fst) (flat.map Prod.snd)
  let before ← reportEntry (flat.map Prod.fst) (flat.map Prod.snd) (subMatrix m.cells (knownItems truth m))
  return ⟨before,← calibrated truth cube flat platt,← calibrated truth cube flat iso,plattCoefficients flat⟩

def fittedRows (cube : ResponseCube ℝ) (truth : String → Option ℤ) : List (ℝ × ℤ) :=
  flatRows truth (cube.balancedMatrix calibrationFacets)

def cubeScores (cube : ResponseCube ℝ) : Set ℝ := {v | ∃ r ∈ cube.rows, r.value = some v}

def Unclamped (coefficients : ℝ × ℝ) (scores : Set ℝ) : Prop :=
  ∀ v ∈ scores, ∀ w ∈ scores, v < w →
    coefficients.1 * v + coefficients.2 < logitBound ∧ -logitBound < coefficients.1 * w + coefficients.2

structure CalibrationBlind (cube : ResponseCube ℝ) (truth : String → Option ℤ) : Prop where
  matrix : ∀ (facets : List Facet) (g : ℝ → ℝ), Monotone g →
    (cube.mapValues g).balancedMatrix facets = (cube.balancedMatrix facets).mapEntries g
  strict : ∀ (facets : List Facet) (g : ℝ → ℝ), StrictMono g →
    discriminationIndex ((cube.mapValues g).balancedMatrix facets).cells = discriminationIndex (cube.balancedMatrix facets).cells ∧
      resolvingPower ((cube.mapValues g).balancedMatrix facets).cells = resolvingPower (cube.balancedMatrix facets).cells ∧
        ∀ scores labels, auroc (scores.map g) labels = auroc scores labels
  weak : ∀ (facets : List Facet) (g : ℝ → ℝ), Monotone g →
    (resolvingPower ((cube.mapValues g).balancedMatrix facets).cells = none ∧ resolvingPower (cube.balancedMatrix facets).cells = none) ∨
      ∃ after before, resolvingPower ((cube.mapValues g).balancedMatrix facets).cells = some after ∧
        resolvingPower (cube.balancedMatrix facets).cells = some before ∧ after ≤ before
  plattWeak : Monotone (plattMap (fittedRows cube truth))
  plattStrict : StrictMonoOn (plattMap (fittedRows cube truth)) (cubeScores cube) ↔
    Unclamped (plattCoefficients (fittedRows cube truth)) (cubeScores cube)
  isotonic : Monotone (isotonicMap (fittedRows cube truth))
  entry : ∃ detail, calibration cube truth = .ok detail ∧
    (Unclamped (plattCoefficients (fittedRows cube truth)) (cubeScores cube) →
      detail.platt.d = detail.before.d ∧ detail.platt.auroc = detail.before.auroc ∧
        detail.platt.resolvingPower = detail.before.resolvingPower)

theorem plattCoefficients_pos (rows : List (ℝ × ℤ)) : 0 < (plattCoefficients rows).1 := by
  rw [plattCoefficients]
  split
  · exact zero_lt_one
  · next h => exact not_le.mp h

theorem sigmoid_le_iff (y z : ℝ) : sigmoid y ≤ sigmoid z ↔ clamp y ≤ clamp z := by
  have hpos (x : ℝ) : 0 < 1 + Real.exp (-clamp x) := add_pos zero_lt_one (Real.exp_pos _)
  rw [sigmoid,sigmoid,one_div_le_one_div (hpos y) (hpos z),add_le_add_iff_left,Real.exp_le_exp,neg_le_neg_iff]

theorem logitBound_pos : 0 < logitBound := by norm_num [logitBound]

theorem clamp_mono : Monotone clamp := fun _ _ h => max_le_max_left _ (min_le_min_left _ h)

theorem clamp_lt_iff {y z : ℝ} (h : y < z) : clamp y < clamp z ↔ y < logitBound ∧ -logitBound < z := by
  have hbound := logitBound_pos
  constructor
  · intro hlt
    constructor
    · by_contra hge
      have hy := not_lt.mp hge
      rw [clamp,clamp,min_eq_left hy,min_eq_left (hy.trans h.le)] at hlt
      exact lt_irrefl _ hlt
    · by_contra hge
      have hz := not_lt.mp hge
      rw [clamp,clamp,max_eq_left ((min_le_right _ _).trans (h.le.trans hz)),max_eq_left ((min_le_right _ _).trans hz)] at hlt
      exact lt_irrefl _ hlt
  · rintro ⟨hy,hz⟩
    rw [clamp,clamp,min_eq_right hy.le]
    refine max_lt ?_ ?_
    · exact lt_max_of_lt_right (lt_min (by linarith) hz)
    · exact lt_max_of_lt_right (lt_min hy h)

theorem plattMap_mono (rows : List (ℝ × ℤ)) : Monotone (plattMap rows) := by
  intro v w h
  refine (sigmoid_le_iff _ _).mpr (clamp_mono ?_)
  have := mul_le_mul_of_nonneg_left h (plattCoefficients_pos rows).le
  linarith

theorem plattMap_strict_iff (rows : List (ℝ × ℤ)) (scores : Set ℝ) :
    StrictMonoOn (plattMap rows) scores ↔ Unclamped (plattCoefficients rows) scores := by
  refine forall_congr' fun v => forall_congr' fun hv => forall_congr' fun w => forall_congr' fun hw => forall_congr' fun h => ?_
  have hlogit : (plattCoefficients rows).1 * v + (plattCoefficients rows).2 < (plattCoefficients rows).1 * w + (plattCoefficients rows).2 := by
    have := mul_lt_mul_of_pos_left h (plattCoefficients_pos rows)
    linarith
  rw [← clamp_lt_iff hlogit,← not_le,plattMap,plattMap,sigmoid_le_iff,not_le]

section Cells
variable {cells : List (Key ℝ × List ℝ)} {items : List String} {g : ℝ → ℝ}

theorem itemRow_mapCells (item : String) :
    itemRow (mapCells g cells) item = (itemRow cells item).map fun row => (row.1,row.2.map g) := by
  rw [itemRow,itemRow,mapCells,List.filter_map,List.map_map,List.map_map]
  rfl

theorem subMatrix_mapCells : subMatrix (mapCells g cells) items = mapCells g (subMatrix cells items) := by
  rw [subMatrix,subMatrix,mapCells.eq_def g (List.flatMap _ _),List.map_flatMap]
  refine List.flatMap_congr fun draw _ => ?_
  rw [itemRow_mapCells,List.map_map,List.map_map]
  rfl

theorem mem_itemRow {item : String} {row : List (FacetValue ℝ) × List ℝ} (h : row ∈ itemRow cells item) :
    ∃ cell ∈ cells, cell.2 = row.2 := by
  obtain ⟨cell,hcell,rfl⟩ := List.mem_map.mp h
  exact ⟨cell,(List.mem_filter.mp hcell).1,rfl⟩

theorem mem_subMatrix {cell : Key ℝ × List ℝ} (h : cell ∈ subMatrix cells items) : ∃ cell' ∈ cells, cell'.2 = cell.2 := by
  obtain ⟨draw,_,hdraw⟩ := List.mem_flatMap.mp h
  obtain ⟨row,hrow,rfl⟩ := List.mem_map.mp hdraw
  exact mem_itemRow hrow

theorem mem_flatRows {truth : String → Option ℤ} {m : BalancedMatrix ℝ} {row : ℝ × ℤ} (h : row ∈ flatRows truth m) :
    ∃ cell ∈ m.cells, row.1 ∈ cell.2 := by
  obtain ⟨item,_,hitem⟩ := List.mem_flatMap.mp h
  obtain ⟨series,hseries,hv⟩ := List.mem_flatMap.mp hitem
  obtain ⟨v,hseen,rfl⟩ := List.mem_map.mp hv
  obtain ⟨cell,hcell,heq⟩ := mem_itemRow hseries
  exact ⟨cell,hcell,heq ▸ hseen⟩

end Cells

section Scores
variable {cube : ResponseCube ℝ} {truth : String → Option ℤ}

theorem mem_valuesAt {facets : List Facet} {key : Key ℝ} {v : ℝ} (h : v ∈ valuesAt facets cube.rows key) : v ∈ cubeScores cube := by
  rw [valuesAt,ResponseCube.inOrder] at h
  obtain ⟨reading,hreading,rfl⟩ := List.mem_map.mp h
  obtain ⟨r,hr,hsome⟩ := List.mem_filterMap.mp ((List.mergeSort_perm _ _).mem_iff.mp hreading)
  refine ⟨r,hr,?_⟩
  rw [Response.reading] at hsome
  split at hsome
  · split at hsome
    · obtain ⟨v,hv,rfl⟩ := Option.map_eq_some_iff.mp hsome
      exact hv
    · cases hsome
  · cases hsome

theorem mem_balanced {facets : List Facet} {cell : Key ℝ × List ℝ} (h : cell ∈ (cube.balancedMatrix facets).cells) {v : ℝ}
    (hv : v ∈ cell.2) : v ∈ cubeScores cube := by
  rw [ResponseCube.balancedMatrix_eq] at h
  obtain ⟨key,_,hkey⟩ := List.mem_filterMap.mp h
  split at hkey
  · cases hkey
    exact mem_valuesAt (List.take_subset _ _ hv)
  · cases hkey

theorem fitted_scores {row : ℝ × ℤ} (h : row ∈ fittedRows cube truth) : row.1 ∈ cubeScores cube := by
  obtain ⟨cell,hcell,hv⟩ := mem_flatRows h
  exact mem_balanced hcell hv

theorem reportEntry_ok (scores : List ℝ) (labels : List ℤ) (cells : List (Key ℝ × List ℝ)) (h : scores.length = labels.length) :
    ∃ e a, auroc scores labels = .ok a ∧ reportEntry scores labels cells = .ok ⟨e,a,discriminationIndex cells,resolvingPower cells⟩ := by
  have hzip : zipStrict scores labels = .ok (scores.zip labels) := by
    rw [zipStrict,if_neg (by omega),if_neg (by omega)]
  obtain ⟨e,he⟩ : ∃ e, expectedCalibrationError scores labels 10 = .ok e := by
    rw [expectedCalibrationError,hzip]
    split
    · exact ⟨_,rfl⟩
    · exact ⟨_,rfl⟩
  obtain ⟨a,ha⟩ : ∃ a, auroc scores labels = .ok a := by
    rw [auroc,hzip]
    simp only [bind,Except.bind]
    split
    · exact ⟨_,rfl⟩
    · exact ⟨_,rfl⟩
  refine ⟨e,a,ha,?_⟩
  rw [reportEntry,he,ha]
  rfl

theorem calibrated_ok (cube : ResponseCube ℝ) (truth : String → Option ℤ) {g : ℝ → ℝ} (hg : Monotone g) : ∃ e a,
    auroc (((fittedRows cube truth).map Prod.fst).map g) ((fittedRows cube truth).map Prod.snd) = .ok a ∧
      calibrated truth cube (fittedRows cube truth) g = .ok ⟨e,a,
        discriminationIndex (mapCells g (subMatrix (cube.balancedMatrix calibrationFacets).cells
          (knownItems truth (cube.balancedMatrix calibrationFacets)))),
        resolvingPower (mapCells g (subMatrix (cube.balancedMatrix calibrationFacets).cells
          (knownItems truth (cube.balancedMatrix calibrationFacets))))⟩ := by
  rw [calibrated,balancedMatrix_mapValues calibrationFacets cube hg]
  simp only [BalancedMatrix.mapEntries,subMatrix_mapCells]
  exact reportEntry_ok _ _ _ (by rw [List.length_map,List.length_map,List.length_map])

theorem strict_entry {g : ℝ → ℝ} (hg : StrictMonoOn g (cubeScores cube)) (items : List String) :
    pairStats (mapCells g (subMatrix (cube.balancedMatrix calibrationFacets).cells items)) =
      pairStats (subMatrix (cube.balancedMatrix calibrationFacets).cells items) := by
  refine pairStats_map (hg.mono ?_)
  rintro v ⟨cell,hcell,hv⟩
  obtain ⟨cell',hcell',heq⟩ := mem_subMatrix hcell
  exact mem_balanced hcell' (heq ▸ hv)

def knownCells (cube : ResponseCube ℝ) (truth : String → Option ℤ) : List (Key ℝ × List ℝ) :=
  subMatrix (cube.balancedMatrix calibrationFacets).cells (knownItems truth (cube.balancedMatrix calibrationFacets))

theorem calibration_detail (cube : ResponseCube ℝ) (truth : String → Option ℤ) : ∃ detail, calibration cube truth = .ok detail ∧
    auroc ((fittedRows cube truth).map Prod.fst) ((fittedRows cube truth).map Prod.snd) = .ok detail.before.auroc ∧
    auroc (((fittedRows cube truth).map Prod.fst).map (plattMap (fittedRows cube truth))) ((fittedRows cube truth).map Prod.snd) =
      .ok detail.platt.auroc ∧
    detail.before.d = discriminationIndex (knownCells cube truth) ∧
    detail.before.resolvingPower = resolvingPower (knownCells cube truth) ∧
    detail.platt.d = discriminationIndex (mapCells (plattMap (fittedRows cube truth)) (knownCells cube truth)) ∧
    detail.platt.resolvingPower = resolvingPower (mapCells (plattMap (fittedRows cube truth)) (knownCells cube truth)) := by
  obtain ⟨e,a,ha,hbefore⟩ := reportEntry_ok ((fittedRows cube truth).map Prod.fst) ((fittedRows cube truth).map Prod.snd)
    (knownCells cube truth) (by rw [List.length_map,List.length_map])
  obtain ⟨e',a',ha',hplatt⟩ := calibrated_ok cube truth (plattMap_mono (fittedRows cube truth))
  obtain ⟨e'',a'',_,hiso⟩ := calibrated_ok cube truth (isotonicMap_mono (fittedRows cube truth))
  have hdetail := show calibration cube truth = .ok ⟨_,_,_,plattCoefficients (fittedRows cube truth)⟩ by
    rw [calibration,← fittedRows,← knownCells,plattFit,zipStrict_rows,isotonicFit_rows,hbefore]
    simp only [bind,Except.bind,pure,Except.pure]
    rw [hplatt,hiso]
  exact ⟨_,hdetail,ha,ha',rfl,rfl,rfl,rfl⟩

theorem calibration_entry (cube : ResponseCube ℝ) (truth : String → Option ℤ) : ∃ detail, calibration cube truth = .ok detail ∧
    (StrictMonoOn (plattMap (fittedRows cube truth)) (cubeScores cube) →
      detail.platt.d = detail.before.d ∧ detail.platt.auroc = detail.before.auroc ∧
        detail.platt.resolvingPower = detail.before.resolvingPower) := by
  obtain ⟨detail,hdetail,ha,ha',hd,hpower,hd',hpower'⟩ := calibration_detail cube truth
  refine ⟨detail,hdetail,fun hstrict => ?_⟩
  have hscores : {v | v ∈ (fittedRows cube truth).map Prod.fst} ⊆ cubeScores cube := by
    intro v hv
    obtain ⟨row,hrow,rfl⟩ := List.mem_map.mp hv
    exact fitted_scores hrow
  have hauroc := auroc_map ((fittedRows cube truth).map Prod.snd) (hstrict.mono hscores)
  have hcells : pairStats (mapCells (plattMap (fittedRows cube truth)) (knownCells cube truth)) = pairStats (knownCells cube truth) :=
    strict_entry hstrict _
  rw [ha',ha] at hauroc
  refine ⟨?_,Except.ok.inj hauroc,?_⟩
  · rw [hd,hd']
    exact congrArg (Option.map Prod.fst) hcells
  · rw [hpower,hpower']
    exact congrArg (Option.map Prod.snd) hcells

end Scores

theorem calibration_blind (cube : ResponseCube ℝ) (truth : String → Option ℤ) : CalibrationBlind cube truth where
  matrix facets g hg := balancedMatrix_mapValues facets cube hg
  strict facets g hg := by
    have hcells : pairStats (mapCells g (cube.balancedMatrix facets).cells) = pairStats (cube.balancedMatrix facets).cells :=
      pairStats_map (hg.strictMonoOn _)
    rw [balancedMatrix_mapValues facets cube hg.monotone]
    refine ⟨congrArg (Option.map _) hcells,congrArg (Option.map _) hcells,fun scores labels => ?_⟩
    exact auroc_map labels (hg.strictMonoOn _)
  weak facets g hg := by
    rw [balancedMatrix_mapValues facets cube hg]
    exact resolvingPower_map hg
  plattWeak := plattMap_mono _
  plattStrict := plattMap_strict_iff _ _
  isotonic := isotonicMap_mono _
  entry := by
    obtain ⟨detail,hdetail,hequal⟩ := calibration_entry cube truth
    exact ⟨detail,hdetail,fun h => hequal ((plattMap_strict_iff _ _).mpr h)⟩

section Saturated

def reading (item : String) (replicate : ℤ) (v : ℕ) : Response ℝ := ⟨item,"m","w","s","p","r",0,replicate,"",some (v : ℝ),true⟩

def saturatedCube : ResponseCube ℝ := ⟨[reading "a" 0 100,reading "a" 1 100,reading "b" 0 200,reading "b" 1 200]⟩

def saturatedTruth (item : String) : Option ℤ := some (if item = "b" then 1 else 0)

def oneCondition : List (FacetValue ℝ) := [.text "w",.text "s"]

theorem saturated_sorted : saturatedCube.cellsSorted calibrationFacets = [(("a",oneCondition),[100,100]),(("b",oneCondition),[200,200])] := by
  have hsorted (v : ℝ) : [toLex ((0 : ℤ),v),toLex (1,v)].mergeSort (fun x y => decide (x ≤ y)) = [toLex (0,v),toLex (1,v)] := by
    refine List.mergeSort_of_pairwise ?_
    simp [Prod.Lex.le_iff]
  simp [saturatedCube,reading,oneCondition,ResponseCube.cellsSorted,ResponseCube.raw,ResponseCube.addReading,Response.reading,
    Response.key,Response.condition,Response.facet,calibrationFacets,setDefault,ResponseCube.inOrder,hsorted]

theorem saturated_matrix : (saturatedCube.balancedMatrix calibrationFacets).cells =
      [(("a",oneCondition),[100,100]),(("b",oneCondition),[200,200])] ∧
    (saturatedCube.balancedMatrix calibrationFacets).items = ["a","b"] := by
  have hitems : sortedItems {"a","b"} = ["a","b"] := by
    rw [sortedItems,Finset.sort_insert (r := (· ≤ ·)) (by simp) (by simp),Finset.sort_singleton]
  have hconditions : sortedConditions {oneCondition} = [oneCondition] := by
    rw [sortedConditions,Finset.sort_singleton]
  have hcross : eliminate (present (saturatedCube.cellsSorted calibrationFacets)) ["a","b"] [oneCondition] =
      (["a","b"],[oneCondition]) := by
    rw [eliminate,dif_pos]
    rw [saturated_sorted]
    simp [missingItems,missingConditions,present]
  rw [saturated_sorted] at hcross
  rw [ResponseCube.balancedMatrix]
  simp only [saturated_sorted]
  simp [hitems,hconditions,balance,hcross,depthSearch,candidates,full,present,depth,entry,attempt,keptAt]

theorem saturated_known : knownItems saturatedTruth (saturatedCube.balancedMatrix calibrationFacets) = ["a","b"] := by
  rw [knownItems,saturated_matrix.2]
  simp [saturatedTruth,sortedItems,Finset.sort_insert]

theorem saturated_rows : fittedRows saturatedCube saturatedTruth = [(100,0),(100,0),(200,1),(200,1)] := by
  rw [fittedRows,flatRows,saturated_known,saturated_matrix.1]
  simp [itemRow,saturatedTruth]

theorem sigmoid_saturated {z : ℝ} (h : logitBound ≤ z) : sigmoid z = sigmoid logitBound := by
  rw [sigmoid,clamp,min_eq_left h,sigmoid,clamp,min_self]

theorem saturated_weight : max (sigmoid logitBound * (1 - sigmoid logitBound)) (tiny 12) = tiny 12 := by
  have hexp : (10 : ℝ) ^ 12 ≤ Real.exp 60 := by
    have := Real.add_one_le_exp (1 : ℝ)
    calc (10 : ℝ) ^ 12 ≤ 2 ^ 60 := by norm_num
      _ ≤ Real.exp 1 ^ 60 := by gcongr; linarith
      _ = Real.exp 60 := by rw [← Real.exp_nat_mul]; norm_num
  have hclamp : clamp logitBound = 60 := by
    rw [clamp,min_self,max_eq_right (by have := logitBound_pos; linarith),logitBound]
    norm_num
  have hpos := Real.exp_pos 60
  refine max_eq_right ?_
  rw [sigmoid,hclamp,Real.exp_neg,tiny]
  have hdiff : 1 / (1 + (Real.exp 60)⁻¹) * (1 - 1 / (1 + (Real.exp 60)⁻¹)) = Real.exp 60 / (Real.exp 60 + 1) ^ 2 := by
    field_simp
    ring
  rw [hdiff,div_le_div_iff₀ (by positivity) (by positivity)]
  push_cast
  nlinarith

theorem saturated_coefficients : plattCoefficients (fittedRows saturatedCube saturatedTruth) = (1,0) := by
  have hlow : sigmoid (1 * 100 + 0) = sigmoid logitBound := sigmoid_saturated (by norm_num [logitBound])
  have hhigh : sigmoid (1 * 200 + 0) = sigmoid logitBound := sigmoid_saturated (by norm_num [logitBound])
  have hstop : newton [(100,0),(100,0),(200,1),(200,1)] 100 (1,0) = (1,0) := by
    rw [newton,if_pos]
    simp only [List.foldl_cons,List.foldl_nil,PlattSums.add,hlow,hhigh,saturated_weight]
    norm_num [tiny,abs_lt]
  rw [saturated_rows,plattCoefficients,hstop]
  simp

theorem saturated_map {v : ℝ} (h : 60 ≤ v) : plattMap (fittedRows saturatedCube saturatedTruth) v = sigmoid logitBound := by
  rw [plattMap,saturated_coefficients]
  refine sigmoid_saturated ?_
  norm_num [logitBound]
  exact h

theorem saturated_index (x y : ℝ) : discriminationIndex [(("a#0",oneCondition),[x,x]),(("b#1",oneCondition),[y,y])] =
    some (agreement (sign (x - y),sign (x - y))) := by
  have hitems : matrixItems [(("a#0",oneCondition),[x,x]),(("b#1",oneCondition),[y,y])] = ["a#0","b#1"] := by
    simp [matrixItems,sortedItems,Finset.sort_insert]
  have hconditions : matrixConditions [(("a#0",oneCondition),[x,x]),(("b#1",oneCondition),[y,y])] = [oneCondition] := by
    simp [matrixConditions,sortedConditions]
  have hsigns : comparisons [(("a#0",oneCondition),[x,x]),(("b#1",oneCondition),[y,y])] = [(sign (x - y),sign (x - y))] := by
    rw [comparisons,hitems,hconditions]
    simp [itemPairs,entry,cellSigns,passes,evens,odds]
  rw [discriminationIndex,pairStats,hitems,hsigns]
  simp

theorem saturated_cells : subMatrix (saturatedCube.balancedMatrix calibrationFacets).cells
    (knownItems saturatedTruth (saturatedCube.balancedMatrix calibrationFacets)) =
      [(("a#0",oneCondition),[100,100]),(("b#1",oneCondition),[200,200])] := by
  rw [saturated_matrix.1,saturated_known]
  simp [subMatrix,itemRow]
  decide

theorem saturated_scores_tied : ∃ detail : CalibrationDetail,
    ¬StrictMonoOn (plattMap (fittedRows saturatedCube saturatedTruth)) (cubeScores saturatedCube) ∧
      calibration saturatedCube saturatedTruth = .ok detail ∧ detail.platt.d ≠ detail.before.d := by
  obtain ⟨detail,hdetail,_,_,hd,_,hd',_⟩ := calibration_detail saturatedCube saturatedTruth
  have hlow := saturated_map (show (60 : ℝ) ≤ 100 by norm_num)
  have hhigh := saturated_map (show (60 : ℝ) ≤ 200 by norm_num)
  refine ⟨detail,?_,hdetail,?_⟩
  · intro hstrict
    have hseen : (100 : ℝ) ∈ cubeScores saturatedCube := by simp [cubeScores,saturatedCube,reading]
    have hseen' : (200 : ℝ) ∈ cubeScores saturatedCube := by simp [cubeScores,saturatedCube,reading]
    have hlt := hstrict hseen hseen' (by norm_num)
    rw [hlow,hhigh] at hlt
    exact lt_irrefl _ hlt
  · rw [hd,hd',knownCells,saturated_cells]
    simp only [mapCells,List.map_cons,List.map_nil,hlow,hhigh,saturated_index]
    norm_num [agreement,sign]

end Saturated

end

end PneumaLab.Gauge
