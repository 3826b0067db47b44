import Mathlib.Algebra.BigOperators.Intervals
import Mathlib.Algebra.Order.BigOperators.Ring.Finset
import Mathlib.Algebra.Order.Field.Basic
import Mathlib.Data.List.GetD
import Mathlib.Tactic

namespace Isotonic

open Finset

variable {K : Type} [Field K] [LinearOrder K]

def Increasing (n : ℕ) (z : ℕ → K) : Prop := ∀ i j, i ≤ j → j < n → z i ≤ z j

def cost (n : ℕ) (y z : ℕ → K) : K := ∑ i ∈ range n, (y i - z i) ^ 2

structure Regression (n : ℕ) (y f : ℕ → K) : Prop where
  increasing : Increasing n f
  against : ∀ z, Increasing n z → ∑ i ∈ range n, (y i - f i) * z i ≤ 0
  level : ∀ φ : K → K, ∑ i ∈ range n, (y i - f i) * φ (f i) = 0

variable [IsStrictOrderedRing K] {n : ℕ} {y f h : ℕ → K}

namespace Regression

theorem least (hf : Regression n y f) {z : ℕ → K} (hz : Increasing n z) : cost n y f ≤ cost n y z := by
  have hsplit : cost n y z = cost n y f + ∑ i ∈ range n, (f i - z i) ^ 2 + 2 * ∑ i ∈ range n, (y i - f i) * f i -
      2 * ∑ i ∈ range n, (y i - f i) * z i := by
    rw [cost,cost,mul_sum,mul_sum,← sum_add_distrib,← sum_add_distrib,← sum_sub_distrib]
    exact sum_congr rfl fun i _ => by ring
  have hsquares : 0 ≤ ∑ i ∈ range n, (f i - z i) ^ 2 := sum_nonneg fun i _ => sq_nonneg _
  linarith [hf.level (fun v => v),hf.against z hz]

theorem unique (hf : Regression n y f) (hh : Regression n y h) {i : ℕ} (hi : i < n) : f i = h i := by
  have hsplit : ∑ i ∈ range n, (f i - h i) ^ 2 = ∑ i ∈ range n, (y i - f i) * h i - ∑ i ∈ range n, (y i - f i) * f i +
      ∑ i ∈ range n, (y i - h i) * f i - ∑ i ∈ range n, (y i - h i) * h i := by
    rw [← sum_sub_distrib,← sum_add_distrib,← sum_sub_distrib]
    exact sum_congr rfl fun i _ => by ring
  have hnonneg : ∀ i ∈ range n, 0 ≤ (f i - h i) ^ 2 := fun i _ => sq_nonneg _
  have hzero : ∑ i ∈ range n, (f i - h i) ^ 2 = 0 := by
    refine le_antisymm ?_ (sum_nonneg hnonneg)
    linarith [hf.against h hh.increasing,hh.against f hf.increasing,hf.level (fun v => v),hh.level (fun v => v)]
  have hterm := (sum_eq_zero_iff_of_nonneg hnonneg).mp hzero i (mem_range.mpr hi)
  exact sub_eq_zero.mp (pow_eq_zero_iff two_ne_zero |>.mp hterm)

omit [LinearOrder K] [IsStrictOrderedRing K] in
theorem sum_from (k : ℕ) (d : ℕ → K) : ∑ i ∈ range n, d i * (if k ≤ i then 1 else 0) = ∑ i ∈ Ico k n, d i := by
  simp only [mul_ite,mul_one,mul_zero]
  rw [← sum_filter]
  congr 1
  ext i
  simp [and_comm]

theorem tail (hf : Regression n y f) (k : ℕ) : ∑ i ∈ Ico k n, (y i - f i) ≤ 0 := by
  rw [← sum_from]
  refine hf.against _ fun i j hij _ => ?_
  split
  · next hi => rw [if_pos (hi.trans hij)]
  · split
    · exact zero_le_one
    · exact le_rfl

theorem from_level (hf : Regression n y f) (p : K → Prop) [DecidablePred p] {k : ℕ} (hk : ∀ i < n, p (f i) ↔ k ≤ i) :
    ∑ i ∈ Ico k n, (y i - f i) = 0 := by
  rw [← sum_from]
  refine Eq.trans (sum_congr rfl fun i hi => ?_) (hf.level fun v => if p v then 1 else 0)
  simp only [hk i (mem_range.mp hi)]

end Regression

def average (y : ℕ → K) (s e : ℕ) : K := (∑ i ∈ Ico s e, y i) / (e - s : ℕ)

theorem average_le {s e : ℕ} (hse : s < e) {v : K} (hf : ∀ i ∈ Ico s e, f i ≤ v) (hsum : ∑ i ∈ Ico s e, (y i - f i) ≤ 0) :
    average y s e ≤ v := by
  have hpos : (0 : K) < (e - s : ℕ) := by exact_mod_cast Nat.sub_pos_of_lt hse
  have hbound := sum_le_card_nsmul (Ico s e) f v hf
  rw [sum_sub_distrib] at hsum
  rw [Nat.card_Ico,nsmul_eq_mul] at hbound
  rw [average,div_le_iff₀ hpos]
  linarith

theorem le_average {s e : ℕ} (hse : s < e) {v : K} (hf : ∀ i ∈ Ico s e, v ≤ f i) (hsum : 0 ≤ ∑ i ∈ Ico s e, (y i - f i)) :
    v ≤ average y s e := by
  have hpos : (0 : K) < (e - s : ℕ) := by exact_mod_cast Nat.sub_pos_of_lt hse
  have hbound := card_nsmul_le_sum (Ico s e) f v hf
  rw [sum_sub_distrib] at hsum
  rw [Nat.card_Ico,nsmul_eq_mul] at hbound
  rw [average,le_div_iff₀ hpos]
  linarith

namespace Regression

omit [LinearOrder K] [IsStrictOrderedRing K] in
theorem window (s : ℕ) {c e : ℕ} (hsc : s ≤ c) (hce : c ≤ e) (d : ℕ → K) :
    ∑ i ∈ Ico s c, d i = ∑ i ∈ Ico s e, d i - ∑ i ∈ Ico c e, d i := by
  rw [← sum_Ico_consecutive d hsc hce,add_sub_cancel_right]

theorem averages_of_cut (hf : Regression n y f) {c : ℕ} (hc : c + 1 < n) (hlt : f c < f (c + 1)) {s e : ℕ} (hs : s ≤ c)
    (he : c + 1 < e) (hen : e ≤ n) : average y s (c + 1) < average y (c + 1) e := by
  have hcut : ∑ i ∈ Ico (c + 1) n, (y i - f i) = 0 := by
    refine hf.from_level (f c < ·) fun i hi => ⟨fun habove => ?_,fun hle => hlt.trans_le (hf.increasing _ _ hle hi)⟩
    by_contra hshort
    exact absurd (hf.increasing i c (by omega) (by omega)) (not_le.mpr habove)
  have hbefore : average y s (c + 1) ≤ f c := by
    refine average_le (f := f) (by omega) (fun i hi => hf.increasing _ _ (by simp at hi; omega) (by omega)) ?_
    rw [window s (by omega) hc.le,hcut,sub_zero]
    exact hf.tail s
  have hafter : f (c + 1) ≤ average y (c + 1) e := by
    refine le_average (f := f) he (fun i hi => hf.increasing _ _ (mem_Ico.mp hi).1 (by simp at hi; omega)) ?_
    rw [window (c + 1) he.le hen,hcut,zero_sub]
    exact neg_nonneg.mpr (hf.tail e)
  exact (hbefore.trans_lt hlt).trans_le hafter

theorem exists_averages (hf : Regression n y f) {c : ℕ} (hc : c + 1 < n) (heq : f c = f (c + 1)) :
    ∃ s e, s ≤ c ∧ c + 1 < e ∧ e ≤ n ∧ average y (c + 1) e ≤ average y s (c + 1) := by
  classical
  -- the window of all places at the level of c
  have hstart : ∃ s, f c ≤ f s := ⟨c,le_rfl⟩
  have hend : ∃ e, n ≤ e ∨ f c < f e := ⟨n,.inl le_rfl⟩
  obtain ⟨s,hs,hsmin⟩ : ∃ s, f c ≤ f s ∧ ∀ i < s, ¬f c ≤ f i := ⟨_,Nat.find_spec hstart,fun i hi => Nat.find_min hstart hi⟩
  obtain ⟨e,he,hemin⟩ : ∃ e, (n ≤ e ∨ f c < f e) ∧ ∀ i < e, ¬(n ≤ i ∨ f c < f i) :=
    ⟨_,Nat.find_spec hend,fun i hi => Nat.find_min hend hi⟩
  have hsc : s ≤ c := by
    by_contra hlt
    exact hsmin c (by omega) le_rfl
  have hen : e ≤ n := by
    by_contra hlt
    exact hemin n (by omega) (.inl le_rfl)
  have hce : c + 1 < e := by
    by_contra hle
    obtain he | he := he
    · omega
    · exact absurd (heq ▸ hf.increasing e (c + 1) (by omega) hc) (not_le.mpr he)
  have hfrom : ∑ i ∈ Ico s n, (y i - f i) = 0 := by
    refine hf.from_level (f c ≤ ·) fun i hi => ⟨fun hle => ?_,fun hle => hs.trans (hf.increasing _ _ hle hi)⟩
    by_contra hlt
    exact hsmin i (by omega) hle
  have hrest : ∑ i ∈ Ico e n, (y i - f i) = 0 := by
    refine hf.from_level (f c < ·) fun i hi => ⟨fun hlt => ?_,fun hle => ?_⟩
    · by_contra hshort
      exact hemin i (by omega) (.inr hlt)
    · obtain he | he := he
      · omega
      · exact he.trans_le (hf.increasing _ _ hle hi)
  refine ⟨s,e,hsc,hce,hen,?_⟩
  have hafter : average y (c + 1) e ≤ f c := by
    refine average_le (f := f) hce (fun i hi => ?_) ?_
    · exact not_lt.mp fun hlt => hemin i (mem_Ico.mp hi).2 (.inr hlt)
    · rw [window (c + 1) hce.le hen,hrest,sub_zero]
      exact hf.tail _
  have hbefore : f c ≤ average y s (c + 1) := by
    refine le_average (f := f) (by omega) (fun i hi => ?_) ?_
    · simp only [mem_Ico] at hi
      exact hs.trans (hf.increasing _ _ hi.1 (by omega))
    · rw [window s (by omega) hc.le,hfrom,zero_sub]
      exact neg_nonneg.mpr (hf.tail _)
  exact hafter.trans hbefore

theorem joined_iff (hf : Regression n y f) {c : ℕ} (hc : c + 1 < n) : f c = f (c + 1) ↔
    ∃ s e, s ≤ c ∧ c + 1 < e ∧ e ≤ n ∧ average y (c + 1) e ≤ average y s (c + 1) := by
  refine ⟨hf.exists_averages hc,?_⟩
  rintro ⟨s,e,hs,he,hen,hle⟩
  by_contra hne
  have hlt := lt_of_le_of_ne (hf.increasing c (c + 1) (by omega) hc) hne
  exact absurd hle (not_le.mpr (hf.averages_of_cut hc hlt hs he hen))

end Regression

section FirstOrder

omit [LinearOrder K] [IsStrictOrderedRing K] in
theorem cost_toward (t : K) (q : ℕ → K) : cost n y (fun i => h i + t * (q i - h i)) =
    cost n y h - 2 * t * ∑ i ∈ range n, (y i - h i) * (q i - h i) + t ^ 2 * ∑ i ∈ range n, (q i - h i) ^ 2 := by
  rw [cost,cost,mul_sum,mul_sum,← sum_sub_distrib,← sum_add_distrib]
  exact sum_congr rfl fun i _ => by ring

theorem first_order {q : ℕ → K} (hleast : ∀ t, 0 ≤ t → t ≤ 1 → cost n y h ≤ cost n y (fun i => h i + t * (q i - h i))) :
    ∑ i ∈ range n, (y i - h i) * (q i - h i) ≤ 0 := by
  by_contra hpos
  have hgain : 0 < ∑ i ∈ range n, (y i - h i) * (q i - h i) := not_le.mp hpos
  have hsquares : 0 ≤ ∑ i ∈ range n, (q i - h i) ^ 2 := sum_nonneg fun i _ => sq_nonneg _
  have hsum : 0 < ∑ i ∈ range n, (y i - h i) * (q i - h i) + ∑ i ∈ range n, (q i - h i) ^ 2 := by linarith
  -- a step short enough that the squares do not eat the gain
  obtain ⟨t,ht⟩ : ∃ t, t = (∑ i ∈ range n, (y i - h i) * (q i - h i)) /
      (∑ i ∈ range n, (y i - h i) * (q i - h i) + ∑ i ∈ range n, (q i - h i) ^ 2) := ⟨_,rfl⟩
  have htpos : 0 < t := ht ▸ div_pos hgain hsum
  have htone : t ≤ 1 := by
    rw [ht,div_le_one hsum]
    linarith
  have hstep : t * (∑ i ∈ range n, (y i - h i) * (q i - h i) + ∑ i ∈ range n, (q i - h i) ^ 2) =
      ∑ i ∈ range n, (y i - h i) * (q i - h i) := by rw [ht,div_mul_cancel₀ _ hsum.ne']
  have hle := hleast t htpos.le htone
  rw [cost_toward] at hle
  have hshort : t ^ 2 * ∑ i ∈ range n, (q i - h i) ^ 2 ≤ t * ∑ i ∈ range n, (y i - h i) * (q i - h i) := by
    rw [pow_two,mul_assoc]
    refine mul_le_mul_of_nonneg_left ?_ htpos.le
    linarith [mul_pos htpos hgain]
  linarith [mul_pos htpos hgain]

theorem level_gain (hf : Regression n y f) (hh : Increasing n h) (hle : ∀ i < n, h i ≤ f i) {b : ℕ} (hb : b < n)
    (hlt : h b < f b) (hfirst : ∀ i < b, h i = f i) : 0 < ∑ i ∈ range n, if h i = h b then y i - h b else 0 := by
  have habove : ∑ i ∈ range n, (y i - f i) * (if h b < h i then 1 else 0) ≤ 0 := by
    refine hf.against _ fun i j hij hj => ?_
    split
    · next hi => rw [if_pos (hi.trans_le (hh i j hij hj))]
    · split
      · exact zero_le_one
      · exact le_rfl
  have hparts : ∀ i ∈ range n, (if h i = h b then y i - h b else 0) = (y i - f i) * (if f i = h b then 1 else 0) +
      (y i - f i) * (if h b < f i then 1 else 0) - (y i - f i) * (if h b < h i then 1 else 0) +
        if h i = h b then f i - h b else 0 := by
    intro i hi
    have hi' := mem_range.mp hi
    obtain hib | hib := lt_or_ge i b
    · rw [hfirst i hib]
      obtain hlow | heq | hhigh := lt_trichotomy (f i) (h b)
      · simp [hlow.ne,hlow.not_gt]
      · simp [heq]
      · simp [hhigh.ne',hhigh]
    · have hfi : h b < f i := hlt.trans_le (hf.increasing b i hib hi')
      obtain heq | hhigh := (hh b i hib hi').eq_or_lt
      · simp [← heq,hfi,hfi.ne']
      · simp [hhigh.ne',hhigh,hfi,hfi.ne']
  have hextra : 0 < ∑ i ∈ range n, if h i = h b then f i - h b else 0 := by
    refine sum_pos' (fun i hi => ?_) ⟨b,mem_range.mpr hb,?_⟩
    · split
      · next heq => exact sub_nonneg.mpr (heq ▸ hle i (mem_range.mp hi))
      · exact le_rfl
    · rw [if_pos rfl]
      exact sub_pos.mpr hlt
  rw [sum_congr rfl hparts,sum_add_distrib,sum_sub_distrib,sum_add_distrib,hf.level fun v => if v = h b then 1 else 0,
    hf.level fun v => if h b < v then 1 else 0]
  linarith

theorem not_least (hf : Regression n y f) (hh : Increasing n h) (hle : ∀ i < n, h i ≤ f i) {b : ℕ} (hb : b < n)
    (hlt : h b < f b) (hfirst : ∀ i < b, h i = f i) {v : K} (hv : h b < v) :
    ¬∀ t, 0 ≤ t → t ≤ 1 → cost n y h ≤ cost n y (fun i => h i + t * ((if h i = h b then v else h i) - h i)) := by
  intro hleast
  have hfirstOrder := first_order hleast
  have hgain := level_gain hf hh hle hb hlt hfirst
  have hsum : ∑ i ∈ range n, (y i - h i) * ((if h i = h b then v else h i) - h i) =
      (v - h b) * ∑ i ∈ range n, if h i = h b then y i - h b else 0 := by
    rw [mul_sum]
    refine sum_congr rfl fun i _ => ?_
    split
    · next heq =>
      rw [heq]
      ring
    · ring
  rw [hsum] at hfirstOrder
  exact absurd (mul_pos (sub_pos.mpr hv) hgain) (not_lt.mpr hfirstOrder)

end FirstOrder

section Pooling

omit [IsStrictOrderedRing K]

def merge (front back : K × ℕ) : K × ℕ :=
  ((front.1 * front.2 + back.1 * back.2) / ((front.2 : K) + back.2),front.2 + back.2)

def push : List (K × ℕ) → K × ℕ → List (K × ℕ)
  | [], back => [back]
  | front :: rest, back => if back.1 < front.1 then push rest (merge front back) else back :: front :: rest

def pool (ys : List K) : List (K × ℕ) := ys.foldl (fun blocks y => push blocks (y,1)) []

def expand (blocks : List (K × ℕ)) : List K := blocks.reverse.flatMap fun block => List.replicate block.2 block.1

def fit (ys : List K) : List K := expand (pool ys)

theorem expand_cons (block : K × ℕ) (blocks : List (K × ℕ)) :
    expand (block :: blocks) = expand blocks ++ List.replicate block.2 block.1 := by
  simp [expand]

structure Block (block : K × ℕ) (seg : List K) : Prop where
  length : seg.length = block.2
  pos : 0 < block.2
  sum : seg.sum = block.1 * block.2
  front : ∀ k ≤ block.2, block.1 * k ≤ (seg.take k).sum

inductive Pooled : List (K × ℕ) → List K → Prop
  | nil : Pooled [] []
  | cons {block rest seg ys} : Pooled rest ys → Block block seg → (∀ front ∈ rest.head?, front.1 ≤ block.1) →
      Pooled (block :: rest) (ys ++ seg)

variable [IsStrictOrderedRing K]

theorem Block.single (y : K) : Block (y,1) [y] := by
  refine ⟨rfl,Nat.one_pos,by simp,fun k hk => ?_⟩
  obtain rfl | rfl : k = 0 ∨ k = 1 := by omega
  · simp
  · simp

theorem Block.merge {front back : K × ℕ} {first second : List K} (hfront : Block front first) (hback : Block back second)
    (hlt : back.1 < front.1) : Block (merge front back) (first ++ second) := by
  have hf : (0 : K) < front.2 := by exact_mod_cast hfront.pos
  have hb : (0 : K) < back.2 := by exact_mod_cast hback.pos
  have htotal : (Isotonic.merge front back).1 * ((front.2 : K) + back.2) = front.1 * front.2 + back.1 * back.2 := by
    rw [Isotonic.merge,div_mul_cancel₀]
    exact (add_pos hf hb).ne'
  have hbetween : back.1 ≤ (Isotonic.merge front back).1 ∧ (Isotonic.merge front back).1 ≤ front.1 := by
    constructor
    · refine le_of_mul_le_mul_right ?_ (add_pos hf hb)
      linarith [mul_lt_mul_of_pos_right hlt hf]
    · refine le_of_mul_le_mul_right ?_ (add_pos hf hb)
      linarith [mul_lt_mul_of_pos_right hlt hb]
  refine ⟨?_,Nat.add_pos_left hfront.pos _,?_,fun k hk => ?_⟩
  · rw [List.length_append,hfront.length,hback.length]
    rfl
  · rw [List.sum_append,hfront.sum,hback.sum,← htotal]
    exact congrArg _ (Nat.cast_add _ _).symm
  · rw [List.take_append,List.sum_append,hfront.length]
    obtain hk' | hk' := le_total k front.2
    · rw [Nat.sub_eq_zero_of_le hk',List.take_zero,List.sum_nil,add_zero]
      exact (mul_le_mul_of_nonneg_right hbetween.2 (Nat.cast_nonneg k)).trans (hfront.front k hk')
    · obtain ⟨j,rfl⟩ := Nat.exists_eq_add_of_le hk'
      have hj : j ≤ back.2 := Nat.le_of_add_le_add_left hk
      have hrest := hback.front j hj
      have hj' : (j : K) ≤ back.2 := by exact_mod_cast hj
      have hgap := mul_le_mul_of_nonneg_left hj' (sub_nonneg.mpr hbetween.1)
      rw [Nat.add_sub_cancel_left,List.take_of_length_le (by rw [hfront.length]; exact hk'),hfront.sum]
      push_cast
      linarith

theorem Pooled.push {blocks : List (K × ℕ)} {ys : List K} (h : Pooled blocks ys) {back : K × ℕ} {seg : List K}
    (hback : Block back seg) : Pooled (push blocks back) (ys ++ seg) := by
  induction h generalizing back seg with
  | nil => exact .cons .nil hback (by simp)
  | @cons front rest first ys hrest hfront hle ih =>
    rw [Isotonic.push]
    split
    · next hlt =>
      rw [List.append_assoc]
      exact ih (hfront.merge hback hlt)
    · next hge => exact .cons (.cons hrest hfront hle) hback (by simpa using hge)

theorem pool_pooled (ys : List K) : Pooled (pool ys) ys := by
  have hrun (blocks : List (K × ℕ)) (front : List K) (h : Pooled blocks front) :
      Pooled (ys.foldl (fun blocks y => Isotonic.push blocks (y,1)) blocks) (front ++ ys) := by
    induction ys generalizing blocks front with
    | nil => simpa using h
    | cons y ys ih => simpa using ih _ _ (h.push (Block.single y))
  exact hrun [] [] .nil

theorem Pooled.length {blocks : List (K × ℕ)} {ys : List K} (h : Pooled blocks ys) : (expand blocks).length = ys.length := by
  induction h with
  | nil => rfl
  | cons _ hblock _ ih => rw [expand_cons,List.length_append,List.length_append,ih,hblock.length,List.length_replicate]

theorem fit_length (ys : List K) : (fit ys).length = ys.length := (pool_pooled ys).length

theorem abel {d z : ℕ → K} (hz : Increasing n z) (hd : ∀ k ≤ n, 0 ≤ ∑ i ∈ range k, d i) :
    ∑ i ∈ range n, d i * z i ≤ (∑ i ∈ range n, d i) * z (n - 1) := by
  induction n with
  | zero => simp
  | succ n ih =>
    have hprev := ih (fun i j hij hj => hz i j hij (by omega)) fun k hk => hd k (by omega)
    have hstep := mul_le_mul_of_nonneg_left (hz (n - 1) n (by omega) (by omega)) (hd n (by omega))
    rw [sum_range_succ,sum_range_succ,add_mul,Nat.add_sub_cancel]
    linarith

omit [LinearOrder K] [IsStrictOrderedRing K] in
theorem sum_range_getD (xs : List K) {k : ℕ} (hk : k ≤ xs.length) : ∑ i ∈ range k, xs.getD i 0 = (xs.take k).sum := by
  induction k with
  | zero => simp
  | succ k ih =>
    rw [sum_range_succ,ih (by omega),List.sum_take_succ _ _ hk,List.getD_eq_getElem _ _ hk]

theorem Block.residuals {block : K × ℕ} {seg : List K} (h : Block block seg) {k : ℕ} (hk : k ≤ block.2) :
    ∑ i ∈ range k, (seg.getD i 0 - (List.replicate block.2 block.1).getD i 0) = (seg.take k).sum - block.1 * k := by
  have hconst : ∑ i ∈ range k, (List.replicate block.2 block.1).getD i 0 = block.1 * k := by
    rw [sum_congr rfl fun i hi => List.getD_replicate _ (lt_of_lt_of_le (mem_range.mp hi) hk),sum_const,card_range,nsmul_eq_mul,
      mul_comm]
  rw [sum_sub_distrib,sum_range_getD seg (h.length ▸ hk),hconst]

theorem Block.regression {block : K × ℕ} {seg : List K} (h : Block block seg) :
    Regression block.2 (seg.getD · 0) ((List.replicate block.2 block.1).getD · 0) := by
  have htotal : ∑ i ∈ range block.2, (seg.getD i 0 - (List.replicate block.2 block.1).getD i 0) = 0 := by
    rw [h.residuals le_rfl,List.take_of_length_le h.length.le,h.sum,sub_self]
  have hconst (i : ℕ) (hi : i < block.2) : (List.replicate block.2 block.1).getD i 0 = block.1 := List.getD_replicate _ hi
  constructor
  · intro i j hij hj
    exact ((hconst i (by omega)).trans (hconst j hj).symm).le
  · intro z hz
    refine (abel hz fun k hk => ?_).trans_eq (by rw [htotal,zero_mul])
    rw [h.residuals hk]
    exact sub_nonneg.mpr (h.front k hk)
  · intro φ
    have hfactor : ∑ i ∈ range block.2, (seg.getD i 0 - (List.replicate block.2 block.1).getD i 0) * φ block.1 = 0 := by
      rw [← sum_mul,htotal,zero_mul]
    refine Eq.trans (sum_congr rfl fun i hi => ?_) hfactor
    simp only [hconst i (mem_range.mp hi)]

theorem Regression.append {m : ℕ} {ys fs seg gs : List K} (hys : ys.length = n) (hfs : fs.length = n)
    (hfront : Regression n (ys.getD · 0) (fs.getD · 0)) (hback : Regression m (seg.getD · 0) (gs.getD · 0))
    (hle : ∀ i < n, ∀ j < m, fs.getD i 0 ≤ gs.getD j 0) :
    Regression (n + m) ((ys ++ seg).getD · 0) ((fs ++ gs).getD · 0) := by
  have hsplit (g : ℕ → K → K) : ∑ i ∈ range (n + m), ((ys ++ seg).getD i 0 - (fs ++ gs).getD i 0) * g i ((fs ++ gs).getD i 0) =
      ∑ i ∈ range n, (ys.getD i 0 - fs.getD i 0) * g i (fs.getD i 0) +
        ∑ i ∈ range m, (seg.getD i 0 - gs.getD i 0) * g (n + i) (gs.getD i 0) := by
    rw [sum_range_add]
    congr 1
    · refine sum_congr rfl fun i hi => ?_
      have hi' := mem_range.mp hi
      rw [List.getD_append _ _ _ _ (by omega),List.getD_append _ _ _ _ (by omega)]
    · refine sum_congr rfl fun i _ => ?_
      rw [List.getD_append_right _ _ _ _ (by omega),List.getD_append_right _ _ _ _ (by omega),hys,hfs,Nat.add_sub_cancel_left]
  constructor
  · intro i j hij hj
    dsimp only
    obtain hjn | hjn := lt_or_ge j n
    · rw [List.getD_append _ _ _ _ (by omega),List.getD_append _ _ _ _ (by omega)]
      exact hfront.increasing i j hij hjn
    · rw [List.getD_append_right fs gs _ j (by omega),hfs]
      obtain hin | hin := lt_or_ge i n
      · rw [List.getD_append _ _ _ _ (by omega)]
        exact hle i hin _ (by omega)
      · rw [List.getD_append_right _ _ _ _ (by omega),hfs]
        exact hback.increasing _ _ (by omega) (by omega)
  · intro z hz
    rw [hsplit fun i _ => z i]
    refine add_nonpos (hfront.against z fun i j hij hj => hz i j hij (by omega)) ?_
    exact hback.against (fun i => z (n + i)) fun i j hij hj => hz _ _ (by omega) (by omega)
  · intro φ
    rw [hsplit fun _ v => φ v,hfront.level φ,hback.level φ,add_zero]

theorem Pooled.bounded {block : K × ℕ} {rest : List (K × ℕ)} {ys : List K} (h : Pooled rest ys)
    (hle : ∀ front ∈ rest.head?, front.1 ≤ block.1) : ∀ v ∈ expand rest, v ≤ block.1 := by
  induction h generalizing block with
  | nil => simp [expand]
  | @cons front rest seg ys hrest hfront hchain ih =>
    have hfirst : front.1 ≤ block.1 := hle front (by simp)
    intro v hv
    rw [expand_cons] at hv
    obtain hv | hv := List.mem_append.mp hv
    · exact (ih hchain v hv).trans hfirst
    · exact (List.eq_of_mem_replicate hv).trans_le hfirst

theorem Pooled.regression {blocks : List (K × ℕ)} {ys : List K} (h : Pooled blocks ys) :
    Regression ys.length (ys.getD · 0) ((expand blocks).getD · 0) := by
  induction h with
  | nil => exact ⟨fun i j _ hj => absurd hj (Nat.not_lt_zero _),fun z _ => by simp,fun φ => by simp⟩
  | @cons block rest seg ys hrest hblock hle ih =>
    rw [expand_cons,List.length_append,hblock.length]
    refine ih.append rfl hrest.length hblock.regression fun i hi j hj => ?_
    rw [List.getD_replicate _ hj,List.getD_eq_getElem _ _ (by rw [hrest.length]; exact hi)]
    exact hrest.bounded hle _ (List.getElem_mem _)

theorem fit_regression (ys : List K) : Regression ys.length (ys.getD · 0) ((fit ys).getD · 0) :=
  (pool_pooled ys).regression

end Pooling

end Isotonic
