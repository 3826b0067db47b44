import Mathlib
import PneumaLab.Library.RankOrder

namespace PneumaLab.Gauge

open RankOrder

variable {K : Type} [Field K] [LinearOrder K]

def zipStrict {α β : Type} (xs : List α) (ys : List β) : Except String (List (α × β)) :=
  if ys.length < xs.length then .error "zip() argument 2 is shorter than argument 1"
  else if xs.length < ys.length then .error "zip() argument 2 is longer than argument 1"
  else .ok (xs.zip ys)

theorem zipStrict_rows {α β : Type} (rows : List (α × β)) : zipStrict (rows.map Prod.fst) (rows.map Prod.snd) = .ok rows := by
  rw [zipStrict,if_neg (by simp),if_neg (by simp),← List.unzip_fst,← List.unzip_snd,List.zip_unzip]

def auroc (scores : List K) (labels : List ℤ) : Except String (Option K) := do
  let zipped ← zipStrict scores labels
  let pairs := sortBy Prod.fst zipped
  let nPos := pairs.countP fun row => row.2 = 1
  let nNeg := pairs.length - nPos
  if nPos = 0 ∨ nNeg = 0 then return none
  let ranks : List K := ranksFrom 0 (pairs.map Prod.fst)
  let rankSumPos := (((ranks.zip pairs).filter fun row => row.2.2 = 1).map Prod.fst).sum
  return some ((rankSumPos - triangle nPos) / (nPos * nNeg))

def truncate [FloorRing K] (x : K) : ℤ := if 0 ≤ x then ⌊x⌋ else ⌈x⌉

def expectedCalibrationError [FloorRing K] (scores : List K) (labels : List ℤ) (bins : ℕ) : Except String K := do
  if scores = [] then return 0
  let rows ← zipStrict scores labels
  let bin := fun s : K => min ((bins : ℤ) - 1) (max 0 (truncate (s * bins)))
  return ((List.range bins).map fun b =>
    let members := rows.filter fun row => bin row.1 = (b : ℤ)
    if members = [] then 0
    else (members.length : K) / rows.length *
      |(members.map fun row => (row.2 : K)).sum / members.length - (members.map Prod.fst).sum / members.length|).sum

section Pairs

def positives (rows : List (K × ℤ)) : List (K × ℤ) := rows.filter fun row => row.2 = 1

def negatives (rows : List (K × ℤ)) : List (K × ℤ) := rows.filter fun row => row.2 = 0

def pairsWon (rows : List (K × ℤ)) : K :=
  ((positives rows).map fun p => ((negatives rows).map fun q => wins p.1 q.1).sum).sum

def pairShare (rows : List (K × ℤ)) : K := pairsWon rows / ((positives rows).length * (negatives rows).length)

variable {rows others : List (K × ℤ)}

theorem pairShare_perm (h : others.Perm rows) : pairShare others = pairShare rows := by
  have hpos : (positives others).Perm (positives rows) := h.filter _
  have hneg : (negatives others).Perm (negatives rows) := h.filter _
  rw [pairShare,pairsWon,hpos.length_eq,hneg.length_eq,(hpos.map _).sum_eq,pairShare,pairsWon]
  simp only [fun p : K × ℤ => (hneg.map fun q => wins (K := K) p.1 q.1).sum_eq]

theorem sum_split {α : Type} (p : α → Bool) (f : α → K) (xs : List α) :
    (xs.map f).sum = ((xs.filter p).map f).sum + ((xs.filter fun x => !p x).map f).sum := by
  induction xs with
  | nil => simp
  | cons x xs ih =>
    rw [List.map_cons,List.sum_cons,ih,List.filter_cons,List.filter_cons]
    cases p x with
    | true => simp [add_assoc]
    | false =>
      simp only [Bool.false_eq_true,if_false,Bool.not_false,if_true,List.map_cons,List.sum_cons]
      ring

variable [CharZero K]

theorem negatives_eq (h : ∀ row ∈ rows, row.2 = 0 ∨ row.2 = 1) : negatives rows = rows.filter fun row => !decide (row.2 = 1) := by
  refine List.filter_congr fun row hrow => ?_
  obtain h0 | h1 := h row hrow
  · simp [h0]
  · simp [h1]

theorem rank_sum (h : ∀ row ∈ rows, row.2 = 0 ∨ row.2 = 1) :
    ((positives rows).map fun row => midrank (rows.map Prod.fst) row.1).sum -
      triangle (positives rows).length = pairsWon rows := by
  have hrow (x : K) : midrank (K := K) (rows.map Prod.fst) x =
      ((positives rows).map fun q => wins x q.1).sum + ((negatives rows).map fun q => wins x q.1).sum + 1 / 2 := by
    rw [midrank_eq_sum,List.map_map,sum_split (fun row => decide (row.2 = 1)),negatives_eq h]
    rfl
  have hself : ((positives rows).map fun p => ((positives rows).map fun q => wins (K := K) p.1 q.1).sum).sum =
      ((positives rows).length : K) ^ 2 / 2 := by
    have hsum := sum_wins_self (K := K) ((positives rows).map Prod.fst)
    rw [List.map_map,List.length_map] at hsum
    rw [← hsum]
    congr 1
    refine List.map_congr_left fun p _ => ?_
    rw [Function.comp_apply,List.map_map]
    rfl
  simp only [hrow,List.sum_map_add,hself]
  rw [pairsWon,triangle,List.map_const',List.sum_replicate,nsmul_eq_mul]
  ring

theorem zip_map_rows {α β : Type} (f : α → β) (xs : List α) : (xs.map f).zip xs = xs.map fun x => (f x,x) := by
  induction xs with
  | nil => rfl
  | cons x xs ih => simp [ih]

theorem counts_eq (h : ∀ row ∈ rows, row.2 = 0 ∨ row.2 = 1) :
    rows.length - (positives rows).length = (negatives rows).length := by
  have hsplit := List.length_eq_length_filter_add (l := rows) fun row => decide (row.2 = 1)
  rw [negatives_eq h,positives]
  omega

theorem auroc_eq (h : ∀ row ∈ rows, row.2 = 0 ∨ row.2 = 1) : auroc (rows.map Prod.fst) (rows.map Prod.snd) =
    .ok (if positives rows = [] ∨ negatives rows = [] then none else some (pairShare rows)) := by
  have hperm := sortBy_perm (Prod.fst : K × ℤ → K) rows
  have hpos : (positives (sortBy Prod.fst rows)).Perm (positives rows) := hperm.filter _
  have hranks : ranksFrom (K := K) 0 ((sortBy Prod.fst rows).map Prod.fst) =
      (sortBy Prod.fst rows).map fun row => midrank (rows.map Prod.fst) row.1 := by
    rw [ranksFrom_zero ((sortBy_pairwise _ _).map _ fun _ _ => id),List.map_map]
    exact List.map_congr_left fun row _ => midrank_perm (hperm.map _) _
  have hcount : (sortBy Prod.fst rows).countP (fun row => decide (row.2 = 1)) = (positives rows).length := by
    rw [List.countP_eq_length_filter]
    exact hpos.length_eq
  have hnegs : (sortBy Prod.fst rows).length - (positives rows).length = (negatives rows).length := by
    rw [hperm.length_eq,counts_eq h]
  have hsum : ((((sortBy Prod.fst rows).map fun row => midrank (K := K) (rows.map Prod.fst) row.1).zip (sortBy Prod.fst rows)).filter
      (fun row => decide (row.2.2 = 1))).map Prod.fst = (positives (sortBy Prod.fst rows)).map fun row =>
        midrank (rows.map Prod.fst) row.1 := by
    rw [zip_map_rows,List.filter_map,List.map_map]
    rfl
  rw [auroc,zipStrict_rows]
  simp only [bind,Except.bind,pure,Except.pure,hcount,hnegs,hranks,hsum,(hpos.map _).sum_eq,rank_sum h,
    List.length_eq_zero_iff]
  split <;> rfl

theorem auroc_perm (h : ∀ row ∈ rows, row.2 = 0 ∨ row.2 = 1) (hperm : others.Perm rows) :
    auroc (others.map Prod.fst) (others.map Prod.snd) = auroc (rows.map Prod.fst) (rows.map Prod.snd) := by
  have hpos : (positives others).Perm (positives rows) := hperm.filter _
  have hneg : (negatives others).Perm (negatives rows) := hperm.filter _
  rw [auroc_eq h,auroc_eq fun row hrow => h row (hperm.mem_iff.mp hrow),pairShare_perm hperm]
  simp only [← List.length_eq_zero_iff,hpos.length_eq,hneg.length_eq]

end Pairs

end PneumaLab.Gauge
