import Mathlib.Data.Prod.Lex
import PneumaLab.Gauge.Stats
import PneumaLab.Library.IsotonicRegression

namespace PneumaLab.Gauge

open RankOrder Isotonic

variable {K : Type} [Field K] [LinearOrder K]

def knots (rows : List (K × ℤ)) : List K := (sortBy Prod.fst rows).map Prod.fst

def sortedLabels (rows : List (K × ℤ)) : List K := (sortBy Prod.fst rows).map fun row => (row.2 : K)

-- bisect_left returns the number of knots before s
def isotonicMap (rows : List (K × ℤ)) (s : K) : K :=
  let fitted := fit (sortedLabels rows)
  if knots rows = [] then s else fitted.getD (min (fitted.length - 1) (below (knots rows) s)) 0

def isotonicFit (scores : List K) (labels : List ℤ) : Except String (K → K) := do
  let pairs ← zipStrict scores labels
  return isotonicMap pairs

def squaredError (rows : List (K × ℤ)) (g : K → K) : K := (rows.map fun row => ((row.2 : K) - g row.1) ^ 2).sum

structure ScoreRegression (rows : List (K × ℤ)) : Prop where
  increasing : ∃ g, isotonicFit (rows.map Prod.fst) (rows.map Prod.snd) = .ok g ∧ Monotone g
  least : ∀ g, isotonicFit (rows.map Prod.fst) (rows.map Prod.snd) = .ok g →
    ∀ z : K → K, Monotone z → squaredError rows g ≤ squaredError rows z
  orderFree : ∀ others : List (K × ℤ), others.Perm rows →
    isotonicFit (others.map Prod.fst) (others.map Prod.snd) = isotonicFit (rows.map Prod.fst) (rows.map Prod.snd)

def zerosFirst (rows : List (K × ℤ)) : List (K × ℤ) := sortBy toLex rows

def labelAt (rows : List (K × ℤ)) (i : ℕ) : K := (rows.map fun row => (row.2 : K)).getD i 0

def TiesMerge (rows : List (K × ℤ)) : Prop :=
  ∀ (x : K) (c : ℕ), (zerosFirst rows)[c]? = some (x,0) → (zerosFirst rows)[c + 1]? = some (x,1) →
    ∃ s e, s ≤ c ∧ c + 1 < e ∧ e ≤ rows.length ∧
      average (labelAt (zerosFirst rows)) (c + 1) e ≤ average (labelAt (zerosFirst rows)) s (c + 1)

theorem isotonicFit_rows (rows : List (K × ℤ)) : isotonicFit (rows.map Prod.fst) (rows.map Prod.snd) = .ok (isotonicMap rows) := by
  rw [isotonicFit,zipStrict_rows]
  rfl

section Sorted
variable {rows others : List (K × ℤ)}

omit [Field K] in
theorem knots_length (rows : List (K × ℤ)) : (knots rows).length = rows.length := by
  rw [knots,List.length_map,(sortBy_perm _ _).length_eq]

theorem sortedLabels_length (rows : List (K × ℤ)) : (sortedLabels rows).length = rows.length := by
  rw [sortedLabels,List.length_map,(sortBy_perm _ _).length_eq]

omit [Field K] in
theorem knots_sorted (rows : List (K × ℤ)) : (knots rows).Pairwise (· ≤ ·) := (sortBy_pairwise _ _).map _ fun _ _ => id

omit [Field K] in
theorem knots_perm (h : others.Perm rows) : knots others = knots rows := by
  have hperm : (knots others).Perm (knots rows) := ((sortBy_perm _ _).trans (h.trans (sortBy_perm _ _).symm)).map _
  exact hperm.eq_of_pairwise (fun _ _ _ _ => le_antisymm) (knots_sorted _) (knots_sorted _)

omit [Field K] in
theorem below_mono (keys : List K) {s t : K} (h : s ≤ t) : below keys s ≤ below keys t :=
  List.countP_mono_left fun key _ hkey => decide_eq_true ((of_decide_eq_true hkey).trans_le h)

theorem lt_below_iff {keys : List K} (h : keys.Pairwise (· ≤ ·)) {i : ℕ} (hi : i < keys.length) (s : K) :
    i < below keys s ↔ keys.getD i 0 < s := by
  have hsplit := @split_sorted _ _ _ id _ h s
  have hlength : (keys.filter fun key => decide (id key < s)).length = below keys s := by
    rw [below,List.countP_eq_length_filter]
    rfl
  rw [List.append_assoc] at hsplit
  constructor
  · intro hlt
    rw [hsplit,List.getD_append _ _ _ _ (by omega),List.getD_eq_getElem _ _ (by omega)]
    have hmem := List.getElem_mem (show i < (keys.filter fun key => decide (id key < s)).length by omega)
    exact of_decide_eq_true (List.mem_filter.mp hmem).2
  · intro hlt
    by_contra hge
    have hlong := congrArg List.length hsplit
    rw [List.length_append] at hlong
    rw [hsplit,List.getD_append_right _ _ _ _ (by omega),List.getD_eq_getElem _ _ (by omega)] at hlt
    have hmem := List.getElem_mem (l := keys.filter (fun key => decide (id key = s)) ++ keys.filter fun key => decide (s < id key))
      (n := i - (keys.filter fun key => decide (id key < s)).length) (by omega)
    obtain hmem | hmem := List.mem_append.mp hmem
    · exact absurd (of_decide_eq_true (List.mem_filter.mp hmem).2) hlt.ne
    · exact absurd (of_decide_eq_true (List.mem_filter.mp hmem).2) hlt.not_gt

def knotAt (rows : List (K × ℤ)) (i : ℕ) : K := (knots rows).getD i 0

def fittedAt (rows : List (K × ℤ)) (i : ℕ) : K := (fit (sortedLabels rows)).getD i 0

def start (rows : List (K × ℤ)) (i : ℕ) : ℕ := below (knots rows) (knotAt rows i)

theorem knotAt_mono {i j : ℕ} (hij : i ≤ j) (hj : j < rows.length) : knotAt rows i ≤ knotAt rows j := by
  have hj' : j < (knots rows).length := by rwa [knots_length]
  rw [knotAt,knotAt,List.getD_eq_getElem _ _ hj',List.getD_eq_getElem _ _ (by omega)]
  obtain rfl | hlt := hij.eq_or_lt
  · exact le_rfl
  · exact List.pairwise_iff_getElem.mp (knots_sorted rows) i j (by omega) hj' hlt

theorem lt_start_iff {i j : ℕ} (hi : i < rows.length) : i < start rows j ↔ knotAt rows i < knotAt rows j :=
  lt_below_iff (knots_sorted rows) (by rwa [knots_length]) _

theorem start_le {i : ℕ} (hi : i < rows.length) : start rows i ≤ i := by
  by_contra hlt
  exact absurd ((lt_start_iff hi).mp (not_le.mp hlt)) (lt_irrefl _)

variable [IsStrictOrderedRing K]

theorem fitted_regression (rows : List (K × ℤ)) :
    Regression rows.length ((sortedLabels rows).getD · 0) (fittedAt rows) := by
  have hfit := fit_regression (sortedLabels rows)
  rw [sortedLabels_length] at hfit
  exact hfit

theorem isotonicMap_eq (h : rows ≠ []) (s : K) :
    isotonicMap rows s = fittedAt rows (min (rows.length - 1) (below (knots rows) s)) := by
  have hknots : knots rows ≠ [] := by
    intro hnil
    rw [← List.length_eq_zero_iff,knots_length,List.length_eq_zero_iff] at hnil
    exact h hnil
  rw [isotonicMap,if_neg hknots,fit_length,sortedLabels_length]
  rfl

theorem isotonicMap_knot {i : ℕ} (hi : i < rows.length) : isotonicMap rows (knotAt rows i) = fittedAt rows (start rows i) := by
  have hne : rows ≠ [] := List.ne_nil_of_length_pos (by omega)
  have hle := start_le hi
  rw [isotonicMap_eq hne,min_eq_right]
  · rfl
  · change start rows i ≤ _
    omega

theorem isotonicMap_mono (rows : List (K × ℤ)) : Monotone (isotonicMap rows) := by
  intro s t hst
  by_cases hne : rows = []
  · subst hne
    simpa [isotonicMap,knots,sortBy] using hst
  · have hpos := List.length_pos_iff.mpr hne
    rw [isotonicMap_eq hne,isotonicMap_eq hne]
    exact (fitted_regression rows).increasing _ _ (min_le_min_left _ (below_mono _ hst)) (by omega)

omit [LinearOrder K] [IsStrictOrderedRing K] in
theorem squaredError_perm (h : others.Perm rows) (g : K → K) : squaredError others g = squaredError rows g := (h.map _).sum_eq

omit [IsStrictOrderedRing K] in
theorem sum_sorted (rows : List (K × ℤ)) (F : K → K → K) : (rows.map fun row => F row.1 row.2).sum =
    ∑ i ∈ Finset.range rows.length, F (knotAt rows i) ((sortedLabels rows).getD i 0) := by
  have hperm := (sortBy_perm Prod.fst rows).map fun row => F row.1 row.2
  have hlength : ((sortBy Prod.fst rows).map fun row => F row.1 (row.2 : K)).length = rows.length := by
    rw [List.length_map,(sortBy_perm _ _).length_eq]
  rw [← hperm.sum_eq,← List.take_of_length_le hlength.le,← sum_range_getD _ hlength.ge]
  refine Finset.sum_congr rfl fun i hi => ?_
  have hi' : i < (sortBy Prod.fst rows).length := by
    rw [(sortBy_perm _ _).length_eq]
    exact Finset.mem_range.mp hi
  rw [knotAt,knots,sortedLabels,List.getD_eq_getElem _ _ (by simpa using hi'),List.getD_eq_getElem _ _ (by simpa using hi'),
    List.getD_eq_getElem _ _ (by simpa using hi'),List.getElem_map,List.getElem_map,List.getElem_map]

omit [IsStrictOrderedRing K] in
theorem squaredError_eq (rows : List (K × ℤ)) (g : K → K) :
    squaredError rows g = cost rows.length ((sortedLabels rows).getD · 0) (fun i => g (knotAt rows i)) :=
  sum_sorted rows fun x y => (y - g x) ^ 2

def Whole (rows : List (K × ℤ)) : Prop := ∀ i < rows.length, fittedAt rows (start rows i) = fittedAt rows i

omit [LinearOrder K] [IsStrictOrderedRing K] in
theorem cost_congr {n : ℕ} {y z z' : ℕ → K} (h : ∀ i < n, z i = z' i) : cost n y z = cost n y z' :=
  Finset.sum_congr rfl fun i hi => by rw [h i (Finset.mem_range.mp hi)]

theorem least_of_whole (h : Whole rows) {z : K → K} (hz : Monotone z) :
    squaredError rows (isotonicMap rows) ≤ squaredError rows z := by
  have hmap : ∀ i < rows.length, isotonicMap rows (knotAt rows i) = fittedAt rows i :=
    fun i hi => (isotonicMap_knot hi).trans (h i hi)
  rw [squaredError_eq,squaredError_eq,cost_congr hmap]
  exact (fitted_regression rows).least fun i j hij hj => hz (knotAt_mono hij hj)

theorem whole_of_least (h : ∀ z : K → K, Monotone z → squaredError rows (isotonicMap rows) ≤ squaredError rows z) : Whole rows := by
  classical
  by_contra hsplit
  obtain ⟨i,hi⟩ := not_forall.mp hsplit
  have hreg := fitted_regression rows
  have hexists : ∃ b, b < rows.length ∧ fittedAt rows (start rows b) ≠ fittedAt rows b := ⟨i,by simpa using hi⟩
  obtain ⟨b,⟨hb,hne⟩,hmin⟩ : ∃ b, (b < rows.length ∧ fittedAt rows (start rows b) ≠ fittedAt rows b) ∧
      ∀ i < b, ¬(i < rows.length ∧ fittedAt rows (start rows i) ≠ fittedAt rows i) :=
    ⟨_,Nat.find_spec hexists,fun i hi => Nat.find_min hexists hi⟩
  have hfirst : ∀ i < b, isotonicMap rows (knotAt rows i) = fittedAt rows i := by
    intro i hib
    rw [isotonicMap_knot (by omega)]
    by_contra hneq
    exact hmin i hib ⟨by omega,hneq⟩
  have hincreasing : Increasing rows.length fun i => isotonicMap rows (knotAt rows i) :=
    fun i j hij hj => isotonicMap_mono rows (knotAt_mono hij hj)
  have hle : ∀ i < rows.length, isotonicMap rows (knotAt rows i) ≤ fittedAt rows i := by
    intro i hi
    rw [isotonicMap_knot hi]
    exact hreg.increasing _ _ (start_le hi) hi
  have hlt : isotonicMap rows (knotAt rows b) < fittedAt rows b :=
    lt_of_le_of_ne (hle b hb) (by rwa [isotonicMap_knot hb])
  have hnonempty : rows ≠ [] := List.ne_nil_of_length_pos (by omega)
  -- past the level of b the map takes no value below the fitted one
  have hjump : ∀ s, isotonicMap rows (knotAt rows b) < isotonicMap rows s → fittedAt rows b ≤ isotonicMap rows s := by
    intro s hs
    rw [isotonicMap_eq hnonempty s] at hs ⊢
    obtain hk | hk := lt_or_ge (min (rows.length - 1) (below (knots rows) s)) b
    · rw [← hfirst _ hk] at hs
      exact absurd (hincreasing _ b hk.le hb) (not_le.mpr hs)
    · exact hreg.increasing _ _ hk (by omega)
  refine not_least hreg hincreasing hle hb hlt hfirst hlt fun t ht ht' => ?_
  have hraised : Monotone fun s => isotonicMap rows s + t *
      ((if isotonicMap rows s = isotonicMap rows (knotAt rows b) then fittedAt rows b else isotonicMap rows s) - isotonicMap rows s) := by
    intro s s' hss
    have hmono := isotonicMap_mono rows hss
    have hnext : (if isotonicMap rows s = isotonicMap rows (knotAt rows b) then fittedAt rows b else isotonicMap rows s) ≤
        if isotonicMap rows s' = isotonicMap rows (knotAt rows b) then fittedAt rows b else isotonicMap rows s' := by
      split
      · next heq =>
        split
        · exact le_rfl
        · next hne' => exact hjump s' (lt_of_le_of_ne (heq ▸ hmono) (Ne.symm hne'))
      · split
        · next heq' => exact (hmono.trans_eq heq').trans hlt.le
        · exact hmono
    have hscaled := mul_le_mul_of_nonneg_left hnext ht
    have hkept := mul_le_mul_of_nonneg_left hmono (sub_nonneg.mpr ht')
    dsimp only
    linarith
  have hleast := h _ hraised
  rw [squaredError_eq,squaredError_eq] at hleast
  exact hleast

end Sorted

section Orders

omit [LinearOrder K] in
theorem sum_take_cast (rows : List (K × ℤ)) (k : ℕ) :
    (((rows.map fun row => (row.2 : K)).take k).sum) = (((rows.take k).map Prod.snd).sum : ℤ) := by
  rw [← List.map_take,Int.cast_list_sum,List.map_map]
  rfl

omit [Field K] in
theorem first_erased {rows : List (K × ℤ)} {first : K × ℤ} (hsorted : rows.Pairwise fun a b => a.1 ≤ b.1)
    (hmem : first ∈ rows) (hleast : ∀ row ∈ rows, toLex first ≤ toLex row) (k : ℕ) :
    first.2 + (((rows.erase first).take k).map Prod.snd).sum ≤ ((rows.take (k + 1)).map Prod.snd).sum := by
  induction rows generalizing k with
  | nil => cases hmem
  | cons row rows ih =>
    obtain ⟨hrow,hrows⟩ := List.pairwise_cons.mp hsorted
    by_cases heq : row = first
    · simp [heq]
    · have hfirst : first ∈ rows := (List.mem_cons.mp hmem).resolve_left (Ne.symm heq)
      have hlabel : first.2 ≤ row.2 := by
        obtain hlt | ⟨-,hle⟩ := Prod.Lex.toLex_le_toLex.mp (hleast row List.mem_cons_self)
        · exact absurd (hrow first hfirst) (not_le.mpr hlt)
        · exact hle
      rw [List.erase_cons_tail (by simpa using heq),List.take_succ_cons,List.map_cons,List.sum_cons]
      cases k with
      | zero => simpa using hlabel
      | succ k =>
        have hrest := ih hrows hfirst (fun other hother => hleast other (List.mem_cons_of_mem _ hother)) k
        rw [List.take_succ_cons,List.map_cons,List.sum_cons]
        omega

omit [Field K] in
theorem labels_before {rows others : List (K × ℤ)} (hlex : rows.Pairwise fun a b => toLex a ≤ toLex b)
    (hsorted : others.Pairwise fun a b => a.1 ≤ b.1) (hperm : others.Perm rows) (k : ℕ) :
    ((rows.take k).map Prod.snd).sum ≤ ((others.take k).map Prod.snd).sum := by
  induction rows generalizing others k with
  | nil => simp [hperm.eq_nil]
  | cons first rows ih =>
    cases k with
    | zero => simp
    | succ k =>
      obtain ⟨hfirst,hrows⟩ := List.pairwise_cons.mp hlex
      have hmem : first ∈ others := hperm.mem_iff.mpr List.mem_cons_self
      have hleast : ∀ row ∈ others, toLex first ≤ toLex row := by
        intro row hrow
        obtain rfl | hrow := List.mem_cons.mp (hperm.mem_iff.mp hrow)
        · exact le_rfl
        · exact hfirst row hrow
      have herased : (others.erase first).Perm rows := by
        have hcons := hperm.erase first
        rwa [List.erase_cons_head] at hcons
      have hrest := ih hrows (hsorted.sublist List.erase_sublist) herased k
      have hstep := first_erased hsorted hmem hleast k
      rw [List.take_succ_cons,List.map_cons,List.sum_cons]
      omega

variable {rows others : List (K × ℤ)}

omit [Field K] in
theorem zerosFirst_perm (rows : List (K × ℤ)) : (zerosFirst rows).Perm rows := sortBy_perm _ _

omit [Field K] in
theorem zerosFirst_lex (rows : List (K × ℤ)) : (zerosFirst rows).Pairwise fun a b => toLex a ≤ toLex b := sortBy_pairwise _ _

omit [Field K] in
theorem sortBy_zerosFirst (rows : List (K × ℤ)) : sortBy Prod.fst (zerosFirst rows) = zerosFirst rows := by
  refine sortBy_eq_self ((zerosFirst_lex rows).imp fun {a b} hab => ?_)
  obtain hlt | ⟨heq,-⟩ := Prod.Lex.toLex_le_toLex.mp hab
  · exact hlt.le
  · exact heq.le

variable [IsStrictOrderedRing K]

theorem fittedAt_others (hwhole : Whole (zerosFirst rows)) (hperm : others.Perm rows) {i : ℕ} (hi : i < rows.length) :
    fittedAt others i = fittedAt (zerosFirst rows) i := by
  have hzeros := hperm.trans (zerosFirst_perm rows).symm
  have hlength := (zerosFirst_perm rows).length_eq
  have hmap : ∀ j < rows.length, isotonicMap (zerosFirst rows) (knotAt (zerosFirst rows) j) = fittedAt (zerosFirst rows) j := by
    intro j hj
    rw [← hlength] at hj
    exact (isotonicMap_knot hj).trans (hwhole j hj)
  have hknots : knotAt others = knotAt (zerosFirst rows) := by
    funext j
    rw [knotAt,knotAt,knots_perm hzeros]
  have hzero := fitted_regression (zerosFirst rows)
  rw [hlength] at hzero
  -- the labels differ only within groups, on which the fit is constant
  have hlevel (φ : K → K) : ∑ j ∈ Finset.range rows.length,
      ((sortedLabels others).getD j 0 - (sortedLabels (zerosFirst rows)).getD j 0) * φ (fittedAt (zerosFirst rows) j) = 0 := by
    have hothers := sum_sorted others fun x y => y * φ (isotonicMap (zerosFirst rows) x)
    have hrows := sum_sorted (zerosFirst rows) fun x y => y * φ (isotonicMap (zerosFirst rows) x)
    rw [(hzeros.map _).sum_eq,hrows,hlength,hperm.length_eq,hknots] at hothers
    rw [← sub_eq_zero,← Finset.sum_sub_distrib,← neg_eq_zero,← Finset.sum_neg_distrib] at hothers
    refine Eq.trans (Finset.sum_congr rfl fun j hj => ?_) hothers
    rw [hmap j (Finset.mem_range.mp hj)]
    ring
  have hprefix : ∀ k ≤ rows.length, 0 ≤ ∑ j ∈ Finset.range k,
      ((sortedLabels others).getD j 0 - (sortedLabels (zerosFirst rows)).getD j 0) := by
    intro k hk
    rw [Finset.sum_sub_distrib,sum_range_getD _ (by rwa [sortedLabels_length,hperm.length_eq]),
      sum_range_getD _ (by rwa [sortedLabels_length,hlength]),sortedLabels,sortedLabels,sum_take_cast,sum_take_cast,
      sortBy_zerosFirst,sub_nonneg]
    exact_mod_cast labels_before (zerosFirst_lex rows) (sortBy_pairwise _ _) ((sortBy_perm _ _).trans hzeros) k
  have htotal : ∑ j ∈ Finset.range rows.length,
      ((sortedLabels others).getD j 0 - (sortedLabels (zerosFirst rows)).getD j 0) = 0 := by
    simpa using hlevel fun _ => 1
  have hother : Regression rows.length ((sortedLabels others).getD · 0) (fittedAt (zerosFirst rows)) := by
    constructor
    · exact hzero.increasing
    · intro z hz
      have hshift := abel hz hprefix
      rw [htotal,zero_mul] at hshift
      have hsplit : ∑ j ∈ Finset.range rows.length, ((sortedLabels others).getD j 0 - fittedAt (zerosFirst rows) j) * z j =
          ∑ j ∈ Finset.range rows.length, ((sortedLabels others).getD j 0 - (sortedLabels (zerosFirst rows)).getD j 0) * z j +
            ∑ j ∈ Finset.range rows.length, ((sortedLabels (zerosFirst rows)).getD j 0 - fittedAt (zerosFirst rows) j) * z j := by
        rw [← Finset.sum_add_distrib]
        exact Finset.sum_congr rfl fun j _ => by ring
      rw [hsplit]
      exact add_nonpos hshift (hzero.against z hz)
    · intro φ
      have hsplit : ∑ j ∈ Finset.range rows.length, ((sortedLabels others).getD j 0 - fittedAt (zerosFirst rows) j) *
          φ (fittedAt (zerosFirst rows) j) = ∑ j ∈ Finset.range rows.length,
            ((sortedLabels others).getD j 0 - (sortedLabels (zerosFirst rows)).getD j 0) * φ (fittedAt (zerosFirst rows) j) +
          ∑ j ∈ Finset.range rows.length, ((sortedLabels (zerosFirst rows)).getD j 0 - fittedAt (zerosFirst rows) j) *
            φ (fittedAt (zerosFirst rows) j) := by
        rw [← Finset.sum_add_distrib]
        exact Finset.sum_congr rfl fun j _ => by ring
      rw [hsplit,hlevel φ,hzero.level φ,add_zero]
  have hown := fitted_regression others
  rw [hperm.length_eq] at hown
  exact hown.unique hother hi

theorem isotonicMap_others (hwhole : Whole (zerosFirst rows)) (hperm : others.Perm rows) :
    isotonicMap others = isotonicMap (zerosFirst rows) := by
  by_cases hrows : rows = []
  · subst hrows
    rw [hperm.eq_nil,(zerosFirst_perm []).eq_nil]
  · have hzeros := hperm.trans (zerosFirst_perm rows).symm
    have hpos := List.length_pos_iff.mpr hrows
    have hothers : others ≠ [] := List.ne_nil_of_length_pos (by rwa [hperm.length_eq])
    have hzero : zerosFirst rows ≠ [] := List.ne_nil_of_length_pos (by rwa [(zerosFirst_perm rows).length_eq])
    funext s
    rw [isotonicMap_eq hothers,isotonicMap_eq hzero,knots_perm hzeros,hperm.length_eq,(zerosFirst_perm rows).length_eq]
    exact fittedAt_others hwhole hperm (by omega)

omit [IsStrictOrderedRing K] in
theorem zerosFirst_at {i : ℕ} (hi : i < rows.length) : ∃ y, (zerosFirst rows)[i]? = some (knotAt (zerosFirst rows) i,y) ∧
    labelAt (zerosFirst rows) i = (y : K) := by
  have hi' : i < (zerosFirst rows).length := by rwa [(zerosFirst_perm rows).length_eq]
  refine ⟨(zerosFirst rows)[i].2,?_,?_⟩
  · rw [List.getElem?_eq_getElem hi',knotAt,knots,sortBy_zerosFirst,List.getD_eq_getElem _ _ (by simpa using hi'),List.getElem_map]
  · rw [labelAt,List.getD_eq_getElem _ _ (by simpa using hi'),List.getElem_map]

theorem zerosFirst_regression (rows : List (K × ℤ)) :
    Regression rows.length (labelAt (zerosFirst rows)) (fittedAt (zerosFirst rows)) := by
  have hreg := fitted_regression (zerosFirst rows)
  rw [(zerosFirst_perm rows).length_eq,sortedLabels,sortBy_zerosFirst] at hreg
  exact hreg

omit [LinearOrder K] [IsStrictOrderedRing K] in
theorem average_single (y : ℕ → K) (s : ℕ) : average y s (s + 1) = y s := by simp [average]

theorem joined_of_merge (hlabels : ∀ row ∈ rows, row.2 = 0 ∨ row.2 = 1) (hmerge : TiesMerge rows) {c : ℕ} (hc : c + 1 < rows.length)
    (hx : knotAt (zerosFirst rows) c = knotAt (zerosFirst rows) (c + 1)) :
    fittedAt (zerosFirst rows) c = fittedAt (zerosFirst rows) (c + 1) := by
  have hreg := zerosFirst_regression rows
  obtain ⟨y,hy,hlabel⟩ := @zerosFirst_at K _ _ rows c (by omega)
  obtain ⟨z,hz,hlabel'⟩ := @zerosFirst_at K _ _ rows _ hc
  have hzero (w : ℤ) {i : ℕ} (hw : (zerosFirst rows)[i]? = some (knotAt (zerosFirst rows) i,w)) : w = 0 ∨ w = 1 :=
    hlabels _ ((zerosFirst_perm rows).mem_iff.mp (List.mem_of_getElem? hw))
  refine (hreg.joined_iff hc).mpr ?_
  by_cases hup : y = 0 ∧ z = 1
  · obtain ⟨rfl,rfl⟩ := hup
    exact hmerge _ c hy (hx ▸ hz)
  · -- equal labels, or a step down that the order of the zeros rules out
    refine ⟨c,c + 2,le_rfl,by omega,hc,?_⟩
    rw [average_single,average_single,hlabel,hlabel']
    have hle : z ≤ y := by
      obtain rfl | rfl := hzero y hy
      · obtain rfl | rfl := hzero z hz
        · exact le_rfl
        · exact absurd ⟨rfl,rfl⟩ hup
      · obtain rfl | rfl := hzero z hz <;> omega
    exact_mod_cast hle

theorem whole_iff (hlabels : ∀ row ∈ rows, row.2 = 0 ∨ row.2 = 1) : Whole (zerosFirst rows) ↔ TiesMerge rows := by
  have hlength := (zerosFirst_perm rows).length_eq
  constructor
  · intro hwhole x c hc hc'
    have hbound : c + 1 < rows.length := by
      rw [← hlength]
      exact (List.getElem?_eq_some_iff.mp hc').1
    obtain ⟨y,hy,-⟩ := @zerosFirst_at K _ _ rows c (by omega)
    obtain ⟨z,hz,-⟩ := @zerosFirst_at K _ _ rows _ hbound
    have hx : knotAt (zerosFirst rows) c = knotAt (zerosFirst rows) (c + 1) := by
      have hfirst := Prod.mk.inj (Option.some.inj (hy.symm.trans hc))
      have hsecond := Prod.mk.inj (Option.some.inj (hz.symm.trans hc'))
      exact hfirst.1.trans hsecond.1.symm
    refine ((zerosFirst_regression rows).joined_iff hbound).mp ?_
    rw [← hwhole c (by omega),← hwhole (c + 1) (by omega),start,start,hx]
  · intro hmerge i hi
    rw [hlength] at hi
    induction i with
    | zero => rw [Nat.le_zero.mp (start_le (by omega))]
    | succ i ih =>
      obtain hstart | hstart := (@start_le K _ _ (zerosFirst rows) (i + 1) (by omega)).lt_or_eq
      · have hx : knotAt (zerosFirst rows) i = knotAt (zerosFirst rows) (i + 1) := by
          refine le_antisymm (knotAt_mono (by omega) (by omega)) (not_lt.mp fun hlt => ?_)
          have := (lt_start_iff (by omega)).mpr hlt
          omega
        rw [← joined_of_merge hlabels hmerge hi hx,← ih (by omega),start,start,hx]
      · rw [hstart]

theorem isotonic_regression_iff (hlabels : ∀ row ∈ rows, row.2 = 0 ∨ row.2 = 1) : ScoreRegression rows ↔ TiesMerge rows := by
  rw [← whole_iff hlabels]
  constructor
  · intro h
    have hsame := h.orderFree _ (zerosFirst_perm rows)
    rw [isotonicFit_rows,isotonicFit_rows,Except.ok.injEq] at hsame
    refine whole_of_least fun z hz => ?_
    rw [hsame,squaredError_perm (zerosFirst_perm rows),squaredError_perm (zerosFirst_perm rows)]
    exact h.least _ (isotonicFit_rows rows) z hz
  · intro hwhole
    constructor
    · exact ⟨_,isotonicFit_rows rows,isotonicMap_mono rows⟩
    · intro g hg z hz
      rw [isotonicFit_rows,Except.ok.injEq] at hg
      subst hg
      rw [isotonicMap_others hwhole (List.Perm.refl rows),← squaredError_perm (zerosFirst_perm rows),
        ← squaredError_perm (zerosFirst_perm rows)]
      exact least_of_whole hwhole hz
    · intro others hperm
      rw [isotonicFit_rows,isotonicFit_rows,isotonicMap_others hwhole hperm,isotonicMap_others hwhole (List.Perm.refl rows)]

end Orders

section Samples

def tiedBetween : List (ℚ × ℤ) := [(0,1),(1,0),(1,1),(2,0)]

theorem tied_between_merges : TiesMerge tiedBetween := by
  have hsorted : zerosFirst tiedBetween = tiedBetween := sortBy_eq_self (by decide)
  intro x c hc hc'
  rw [hsorted] at hc hc' ⊢
  obtain rfl | hne := eq_or_ne c 1
  · exact ⟨0,4,by decide,by decide,by decide,by decide +kernel⟩
  · have hlt : c + 1 < 4 := (List.getElem?_eq_some_iff.mp hc').1
    obtain rfl | rfl : c = 0 ∨ c = 2 := by omega
    · simp [tiedBetween] at hc
    · simp [tiedBetween] at hc'

theorem tied_between_fitted : ScoreRegression tiedBetween :=
  (isotonic_regression_iff (by decide)).mpr tied_between_merges

theorem tied_pair_order_dependent : isotonicMap [((1 : ℚ),0),(1,1)] 1 = 0 ∧ isotonicMap [((1 : ℚ),1),(1,0)] 1 = 1 / 2 ∧
    ¬ScoreRegression [((1 : ℚ),0),(1,1)] := by
  have hup : isotonicMap [((1 : ℚ),0),(1,1)] 1 = 0 := by
    rw [isotonicMap,knots,sortedLabels,sortBy_eq_self (by decide)]
    decide
  have hdown : isotonicMap [((1 : ℚ),1),(1,0)] 1 = 1 / 2 := by
    rw [isotonicMap,knots,sortedLabels,sortBy_eq_self (by decide)]
    decide +kernel
  refine ⟨hup,hdown,fun h => ?_⟩
  have hsame := h.orderFree [(1,1),(1,0)] (List.Perm.swap _ _ _)
  rw [isotonicFit_rows,isotonicFit_rows,Except.ok.injEq] at hsame
  rw [hsame,hup] at hdown
  norm_num at hdown

end Samples

end PneumaLab.Gauge
