import PneumaLab.Gauge.Stats

namespace PneumaLab.Estimators

open RankOrder Gauge

variable {K : Type} [Field K] [LinearOrder K]

def eceNBins : ℕ := 15

def auroc (scores : List K) (labels : List ℤ) : Except String (Option K) :=
  if scores.length ≠ labels.length then .error "scores/labels length mismatch"
  else
    let n := scores.length
    let nPos := labels.countP (· = 1)
    let nNeg := n - nPos
    if nPos = 0 ∨ nNeg = 0 then .ok none
    else
      let order := sortBy (fun i => scores.getD i 0) (List.range n)
      let midranks : List K := ranksFrom 0 (order.map fun i => scores.getD i 0)
      let ranks := (order.zip midranks).foldl (fun ranks row => ranks.set row.1 row.2) (List.replicate n 0)
      let rankSumPos := (((List.range n).filter fun i => labels.getD i 0 = 1).map fun i => ranks.getD i 0).sum
      .ok (some ((rankSumPos - triangle nPos) / (nPos * nNeg)))

def brier (probs : List K) (labels : List ℤ) : Except String K :=
  if probs = [] ∨ probs.length ≠ labels.length then .error "probs/labels empty or mismatched"
  else .ok (((probs.zip labels).map fun row => (row.1 - (row.2 : K)) ^ 2).sum / probs.length)

def binStart (n nBins k : ℕ) : ℕ := k * n / nBins

def ece (probs : List K) (labels : List ℤ) (nBins : ℕ) : Except String K :=
  if probs = [] ∨ probs.length ≠ labels.length then .error "probs/labels empty or mismatched"
  else
    let n := probs.length
    let order := sortBy (fun i => probs.getD i 0) (List.range n)
    .ok ((List.range nBins).map fun k =>
      let lo := binStart n nBins k
      let hi := binStart n nBins (k + 1)
      if hi ≤ lo then 0
      else
        let idx := slice order lo hi
        let meanP := (idx.map fun i => probs.getD i 0).sum / idx.length
        let meanY := (idx.map fun i => (labels.getD i 0 : K)).sum / idx.length
        (idx.length : K) / n * |meanP - meanY|).sum

structure Scores (K : Type) where
  auroc : Option K
  brier : K
  ece15bin : K

def scoreProbs (probs : List K) (labels : List ℤ) : Except String (Scores K) := do
  return ⟨← auroc probs labels,← brier probs labels,← ece probs labels eceNBins⟩

section Rows
variable {rows others : List (K × ℤ)}

omit [LinearOrder K] in
theorem rows_range (rows : List (K × ℤ)) :
    ((List.range rows.length).map fun i => ((rows.map Prod.fst).getD i 0,(rows.map Prod.snd).getD i 0)) = rows := by
  apply List.ext_getElem
  · simp
  · intro i hi hi'
    simp [hi']

omit [LinearOrder K] in
theorem keys_range (rows : List (K × ℤ)) :
    ((List.range rows.length).map fun i => (rows.map Prod.fst).getD i 0) = rows.map Prod.fst := by
  conv_rhs => rw [← rows_range rows,List.map_map]
  rfl

omit [LinearOrder K] in
theorem getD_foldl_set (f : ℕ → K) (ks : List ℕ) (ranks : List K) (k : ℕ) (hk : k < ranks.length) :
    ((ks.map fun k => (k,f k)).foldl (fun ranks row => ranks.set row.1 row.2) ranks).getD k 0 =
      if k ∈ ks then f k else ranks.getD k 0 := by
  induction ks generalizing ranks with
  | nil => simp
  | cons j ks ih =>
    rw [List.map_cons,List.foldl_cons,ih _ (by simpa using hk)]
    by_cases hmem : k ∈ ks
    · simp [hmem]
    · obtain rfl | hne := eq_or_ne k j
      · simp [hmem,hk]
      · simp [hmem,hne,List.getElem?_set_ne hne.symm]

theorem sorted_rows (rows : List (K × ℤ)) :
    ((sortBy (fun i => (rows.map Prod.fst).getD i 0) (List.range rows.length)).map fun i =>
      ((rows.map Prod.fst).getD i 0,(rows.map Prod.snd).getD i 0)) = sortBy Prod.fst rows := by
  have hmap := map_sortBy Prod.fst (fun i => ((rows.map Prod.fst).getD i (0 : K),(rows.map Prod.snd).getD i 0))
    (List.range rows.length)
  rw [rows_range] at hmap
  exact hmap

section Auroc
variable [CharZero K]

theorem ranks_getD (rows : List (K × ℤ)) {k : ℕ} (hk : k < rows.length) :
    ((((sortBy (fun i => (rows.map Prod.fst).getD i 0) (List.range rows.length)).zip
      (ranksFrom (K := K) 0 ((sortBy (fun i => (rows.map Prod.fst).getD i 0) (List.range rows.length)).map fun i =>
        (rows.map Prod.fst).getD i 0))).foldl (fun ranks row => ranks.set row.1 row.2)
          (List.replicate rows.length 0)).getD k 0) = midrank (rows.map Prod.fst) ((rows.map Prod.fst).getD k 0) := by
  have hperm := sortBy_perm (fun i => (rows.map Prod.fst).getD i 0) (List.range rows.length)
  have hsorted : ((sortBy (fun i => (rows.map Prod.fst).getD i 0) (List.range rows.length)).map fun i =>
      (rows.map Prod.fst).getD i 0).Pairwise (· ≤ ·) := (sortBy_pairwise _ _).map _ fun _ _ => id
  have hkeys := hperm.map fun i => (rows.map Prod.fst).getD i 0
  rw [keys_range] at hkeys
  have hranks : ranksFrom (K := K) 0 ((sortBy (fun i => (rows.map Prod.fst).getD i 0) (List.range rows.length)).map fun i =>
      (rows.map Prod.fst).getD i 0) = (sortBy (fun i => (rows.map Prod.fst).getD i 0) (List.range rows.length)).map fun i =>
        midrank (rows.map Prod.fst) ((rows.map Prod.fst).getD i 0) := by
    rw [ranksFrom_zero hsorted,List.map_map]
    exact List.map_congr_left fun i _ => midrank_perm hkeys _
  have hzip := @List.zip_map' _ _ _ id (fun i => midrank (K := K) (rows.map Prod.fst) ((rows.map Prod.fst).getD i 0))
    (sortBy (fun i => (rows.map Prod.fst).getD i 0) (List.range rows.length))
  simp only [List.map_id,id] at hzip
  rw [hranks,hzip]
  rw [getD_foldl_set _ _ _ _ (by simpa using hk),if_pos]
  exact hperm.mem_iff.mpr (List.mem_range.mpr hk)

theorem auroc_eq (h : ∀ row ∈ rows, row.2 = 0 ∨ row.2 = 1) : auroc (rows.map Prod.fst) (rows.map Prod.snd) =
    Gauge.auroc (rows.map Prod.fst) (rows.map Prod.snd) := by
  have hcount : (rows.map Prod.snd).countP (fun y => decide (y = 1)) = (positives rows).length := by
    rw [List.countP_map,List.countP_eq_length_filter]
    rfl
  have hsum : (((List.range rows.length).filter fun i => decide ((rows.map Prod.snd).getD i 0 = 1)).map fun i =>
      midrank (K := K) (rows.map Prod.fst) ((rows.map Prod.fst).getD i 0)) =
        (positives rows).map fun row => midrank (rows.map Prod.fst) row.1 := by
    rw [positives]
    conv_rhs => rw [← rows_range rows,List.filter_map,List.map_map,rows_range]
    rfl
  have hranks := List.map_congr_left (l := (List.range rows.length).filter fun i => decide ((rows.map Prod.snd).getD i 0 = 1))
    fun i hi => ranks_getD rows (List.mem_range.mp (List.mem_filter.mp hi).1)
  rw [Gauge.auroc_eq h,auroc,if_neg (by simp)]
  simp only [List.length_map,hcount,counts_eq h,List.length_eq_zero_iff]
  rw [hranks,hsum,rank_sum h]
  split <;> rfl

end Auroc

omit [LinearOrder K] in
theorem brier_perm (h : others.Perm rows) :
    brier (others.map Prod.fst) (others.map Prod.snd) = brier (rows.map Prod.fst) (rows.map Prod.snd) := by
  have hzip (rows : List (K × ℤ)) : (rows.map Prod.fst).zip (rows.map Prod.snd) = rows := by
    rw [← List.unzip_fst,← List.unzip_snd,List.zip_unzip]
  simp only [brier,hzip,List.length_map,h.length_eq,← List.length_eq_zero_iff,(h.map _).sum_eq]

section Bins

def TiesSettled (nBins : ℕ) (rows others : List (K × ℤ)) : Prop :=
  ∀ x : K, (others.filter fun row => row.1 = x) = (rows.filter fun row => row.1 = x) ∨
    ∃ k, binStart rows.length nBins k ≤ below (rows.map Prod.fst) x ∧
      below (rows.map Prod.fst) x + ties (rows.map Prod.fst) x ≤ binStart rows.length nBins (k + 1)

def gap (n : ℕ) (bin : List (K × ℤ)) : K :=
  (bin.length : K) / n * |(bin.map Prod.fst).sum / bin.length - (bin.map fun row => (row.2 : K)).sum / bin.length|

theorem gap_perm {n : ℕ} {bin bin' : List (K × ℤ)} (h : bin'.Perm bin) : gap n bin' = gap n bin := by
  rw [gap,h.length_eq,(h.map _).sum_eq,(h.map _).sum_eq,gap]

theorem ece_eq (nBins : ℕ) (h : rows ≠ []) : ece (rows.map Prod.fst) (rows.map Prod.snd) nBins =
    .ok ((List.range nBins).map fun k => if binStart rows.length nBins (k + 1) ≤ binStart rows.length nBins k then 0
      else gap rows.length (slice (sortBy Prod.fst rows) (binStart rows.length nBins k) (binStart rows.length nBins (k + 1)))).sum := by
  have hslice (lo hi : ℕ) : slice (sortBy Prod.fst rows) lo hi =
      (slice (sortBy (fun i => (rows.map Prod.fst).getD i 0) (List.range rows.length)) lo hi).map fun i =>
        ((rows.map Prod.fst).getD i 0,(rows.map Prod.snd).getD i 0) := by
    rw [← sorted_rows,slice,← List.map_take,← List.map_drop]
    rfl
  rw [ece,if_neg (by simp [h])]
  simp only [List.length_map,hslice,gap,List.map_map]
  rfl

theorem binStart_mono (n nBins : ℕ) {j k : ℕ} (h : j ≤ k) : binStart n nBins j ≤ binStart n nBins k :=
  Nat.div_le_div_right (Nat.mul_le_mul_right n h)

omit [Field K] in
theorem count_slice (hsorted : rows.Pairwise fun a b => a.1 ≤ b.1) (lo hi : ℕ) (row : K × ℤ) :
    (slice rows lo hi).count row =
      (slice (rows.filter fun r => r.1 = row.1) (lo - below (rows.map Prod.fst) row.1) (hi - below (rows.map Prod.fst) row.1)).count row := by
  have hbelow : (rows.filter fun r => r.1 < row.1).length = below (rows.map Prod.fst) row.1 := by
    rw [below,List.countP_map,List.countP_eq_length_filter]
    rfl
  have hnone (p : K × ℤ → Bool) (hp : p row = false) (lo hi : ℕ) : (slice (rows.filter p) lo hi).count row = 0 := by
    refine List.count_eq_zero.mpr fun hmem => ?_
    have hrow := (List.mem_filter.mp ((List.take_sublist _ _).subset ((List.drop_sublist _ _).subset hmem))).2
    rw [hp] at hrow
    cases hrow
  conv_lhs => rw [@split_sorted _ _ _ Prod.fst _ hsorted row.1]
  rw [slice_append,slice_append,List.count_append,List.count_append,hnone (fun r => r.1 < row.1) (by simp),
    hnone (fun r => row.1 < r.1) (by simp),hbelow,Nat.zero_add,Nat.add_zero]

theorem slice_whole {α : Type} {xs : List α} {lo hi : ℕ} (hlo : lo = 0) (hhi : xs.length ≤ hi) : slice xs lo hi = xs := by
  rw [slice,List.take_of_length_le hhi,hlo,List.drop_zero]

theorem slice_none {α : Type} {xs : List α} {lo hi : ℕ} (h : hi = 0 ∨ xs.length ≤ lo) : slice xs lo hi = [] := by
  obtain rfl | h := h
  · simp [slice]
  · refine List.drop_eq_nil_of_le ?_
    rw [List.length_take]
    omega

omit [Field K] in
theorem slice_perm {nBins : ℕ} (hperm : others.Perm rows) (hties : TiesSettled nBins rows others) (k : ℕ) :
    (slice (sortBy Prod.fst others) (binStart rows.length nBins k) (binStart rows.length nBins (k + 1))).Perm
      (slice (sortBy Prod.fst rows) (binStart rows.length nBins k) (binStart rows.length nBins (k + 1))) := by
  refine List.perm_iff_count.mpr fun row => ?_
  have hsorted := (sortBy_perm Prod.fst others).trans (hperm.trans (sortBy_perm Prod.fst rows).symm)
  have hbelow : below ((sortBy Prod.fst others).map Prod.fst) row.1 = below (rows.map Prod.fst) row.1 :=
    below_perm (((sortBy_perm _ _).trans hperm).map _) _
  have hbelow' : below ((sortBy Prod.fst rows).map Prod.fst) row.1 = below (rows.map Prod.fst) row.1 :=
    below_perm ((sortBy_perm _ _).map _) _
  rw [count_slice (sortBy_pairwise _ _),count_slice (sortBy_pairwise _ _),hbelow,hbelow',filter_sortBy,filter_sortBy]
  obtain hsame | ⟨home,hstart,hend⟩ := hties row.1
  · rw [hsame]
  · have hgroup := hperm.filter fun r => decide (r.1 = row.1)
    have hlength : (rows.filter fun r => r.1 = row.1).length = ties (rows.map Prod.fst) row.1 := by
      rw [ties,List.countP_map,List.countP_eq_length_filter]
      rfl
    -- the whole group lies in one bin, so every other bin misses all of it
    obtain hk | rfl | hk := lt_trichotomy k home
    · have hbins := binStart_mono rows.length nBins (show k + 1 ≤ home from hk)
      rw [slice_none (.inl (by omega)),slice_none (.inl (by omega))]
    · rw [slice_whole (by omega) (by rw [hgroup.length_eq]; omega),slice_whole (by omega) (by omega)]
      exact hgroup.count_eq _
    · have hbins := binStart_mono rows.length nBins (show home + 1 ≤ k from hk)
      rw [slice_none (.inr (by rw [hgroup.length_eq]; omega)),slice_none (.inr (by omega))]

theorem ece_perm {nBins : ℕ} (hperm : others.Perm rows) (hties : TiesSettled nBins rows others) :
    ece (others.map Prod.fst) (others.map Prod.snd) nBins = ece (rows.map Prod.fst) (rows.map Prod.snd) nBins := by
  by_cases hrows : rows = []
  · obtain rfl := hrows
    rw [hperm.eq_nil]
  · have hothers : others ≠ [] := fun hnil => hrows (hnil ▸ hperm.symm).eq_nil
    rw [ece_eq nBins hrows,ece_eq nBins hothers,hperm.length_eq]
    simp only [gap_perm (slice_perm hperm hties _)]

end Bins

structure RankedAlike (rows : List (K × ℤ)) : Prop where
  stats : Gauge.auroc (rows.map Prod.fst) (rows.map Prod.snd) = .ok (some (pairShare rows))
  metrics : auroc (rows.map Prod.fst) (rows.map Prod.snd) = .ok (some (pairShare rows))

structure OrderFree (rows others : List (K × ℤ)) : Prop where
  statsAuroc : Gauge.auroc (others.map Prod.fst) (others.map Prod.snd) = Gauge.auroc (rows.map Prod.fst) (rows.map Prod.snd)
  auroc : auroc (others.map Prod.fst) (others.map Prod.snd) = auroc (rows.map Prod.fst) (rows.map Prod.snd)
  brier : brier (others.map Prod.fst) (others.map Prod.snd) = brier (rows.map Prod.fst) (rows.map Prod.snd)
  ece : TiesSettled eceNBins rows others →
    ece (others.map Prod.fst) (others.map Prod.snd) eceNBins = ece (rows.map Prod.fst) (rows.map Prod.snd) eceNBins

theorem metrics_of_the_set [CharZero K] (h : ∀ row ∈ rows, row.2 = 0 ∨ row.2 = 1) (hpos : positives rows ≠ [])
    (hneg : negatives rows ≠ []) : RankedAlike rows ∧ ∀ others : List (K × ℤ), others.Perm rows → OrderFree rows others := by
  have hstats : Gauge.auroc (rows.map Prod.fst) (rows.map Prod.snd) = .ok (some (pairShare rows)) := by
    rw [Gauge.auroc_eq h,if_neg (by simp [hpos,hneg])]
  refine ⟨⟨hstats,(auroc_eq h).trans hstats⟩,fun others hperm => ?_⟩
  have hothers : ∀ row ∈ others, row.2 = 0 ∨ row.2 = 1 := fun row hrow => h row (hperm.mem_iff.mp hrow)
  refine ⟨auroc_perm h hperm,?_,brier_perm hperm,ece_perm hperm⟩
  rw [auroc_eq h,auroc_eq hothers,auroc_perm h hperm]

theorem tied_scores_ranked : RankedAlike [((2 : ℚ),1),(1,1),(1,0)] ∧
    ∀ others : List (ℚ × ℤ), others.Perm [(2,1),(1,1),(1,0)] → OrderFree [(2,1),(1,1),(1,0)] others :=
  metrics_of_the_set (by simp) (by simp [positives]) (by simp [negatives])

end Rows

def constantRows (labels : List ℤ) : List (ℚ × ℤ) := labels.map fun y => (1 / 2,y)

def earlyPositive : List (ℚ × ℤ) := constantRows (1 :: List.replicate 15 0)

def latePositive : List (ℚ × ℤ) := constantRows (List.replicate 15 0 ++ [1])

theorem constant_ece (labels : List ℤ) (h : labels ≠ []) (nBins : ℕ) :
    ece ((constantRows labels).map Prod.fst) ((constantRows labels).map Prod.snd) nBins =
      .ok ((List.range nBins).map fun k => if binStart labels.length nBins (k + 1) ≤ binStart labels.length nBins k then 0
        else gap labels.length (slice (constantRows labels) (binStart labels.length nBins k) (binStart labels.length nBins (k + 1)))).sum := by
  have hsorted : (constantRows labels).Pairwise fun a b => a.1 ≤ b.1 := by
    rw [constantRows,List.pairwise_map]
    exact List.pairwise_of_forall fun _ _ => le_rfl
  rw [ece_eq nBins (by simpa [constantRows] using h),sortBy_eq_self hsorted]
  simp only [constantRows,List.length_map]

theorem constant_ece_order_dependent : positives latePositive ≠ [] ∧ negatives latePositive ≠ [] ∧ earlyPositive.Perm latePositive ∧
    ece (earlyPositive.map Prod.fst) (earlyPositive.map Prod.snd) eceNBins ≠
      ece (latePositive.map Prod.fst) (latePositive.map Prod.snd) eceNBins := by
  refine ⟨?_,?_,?_,?_⟩
  · simp [positives,latePositive,constantRows]
  · simp [negatives,latePositive,constantRows]
  · exact (List.perm_append_singleton 1 _).symm.map _
  · rw [earlyPositive,latePositive,constant_ece _ (by simp),constant_ece _ (by simp)]
    decide +kernel

end PneumaLab.Estimators
