import PneumaLab.ResamplingNull.Analysis.BatchAcceptance

namespace PneumaLab.ResamplingNull
open MassFunction

section ExactTail
variable {K L : Type} [LinearOrder K] [LinearOrder L]

def exactTail (outcomes : Multiset K) (threshold : K) : ℚ :=
  outcomes.countP (threshold ≤ ·) / outcomes.card

theorem tail_div_total (dist : List (K × ℕ)) (threshold : K) :
    (tail dist threshold / total dist : ℚ) = exactTail (spread dist) threshold := by
  rw [tail_eq_countP,total_eq_card,exactTail]

theorem exactTail_map {f : K → L} (hf : StrictMono f) (outcomes : Multiset K) (threshold : K) :
    exactTail (outcomes.map f) (f threshold) = exactTail outcomes threshold := by
  rw [exactTail,countP_map_strictMono hf,Multiset.card_map,exactTail]

end ExactTail

section Draws
variable {K L G : Type} [AddCommMonoid K] [LinearOrder K] [AddCommMonoid L] [LinearOrder L]
variable (generator : Generator G)

omit [LinearOrder K] [LinearOrder L] in
theorem drawStatistic_map (f : K →+ L) (choices : List (List K)) (statistic : K) (g : G) :
    drawStatistic generator (choices.map (List.map f)) (f statistic) g =
      (f (drawStatistic generator choices statistic g).1,
        (drawStatistic generator choices statistic g).2) := by
  induction choices generalizing statistic g with
  | nil => rfl
  | cons options rest ih =>
    have hget (i : ℕ) : (options.map f).getD i 0 = f (options.getD i 0) := by
      rw [List.getD_eq_getElem?_getD,List.getD_eq_getElem?_getD,List.getElem?_map]
      cases options[i]? with
      | none => exact (map_zero f).symm
      | some v => rfl
    simp only [List.map_cons,drawStatistic,List.length_map,hget,← map_add,ih]

theorem exceedances_map {f : K →+ L} (hf : StrictMono f) (choices : List (List K)) (threshold : K)
    (draws : ℕ) (g : G) :
    exceedances generator (choices.map (List.map f)) (f threshold) draws g =
      exceedances generator choices threshold draws g := by
  induction draws generalizing g with
  | zero => rfl
  | succ draws ih =>
    have h := drawStatistic_map generator f choices 0 g
    rw [map_zero] at h
    simp only [exceedances,h,ih,hf.le_iff_le]

end Draws

section Expanded
variable {K : Type} [AddCommMonoid K] [DecidableEq K]

theorem spread_groupedFold (groups : List (List K × ℕ)) (dist : List (K × ℕ)) {choices : List (List K)}
    (h : spread groups = (choices : Multiset (List K))) :
    spread (groups.foldl (fun distribution group =>
      groupedPower group.2 distribution (counted group.1) group.2) dist) =
      convolve (spread dist) (outcomes choices) := by
  induction groups generalizing dist choices with
  | nil =>
    obtain rfl : choices = [] := by simpa using h.symm
    simp [outcomes]
  | cons group rest ih =>
    let tailChoices := (spread rest).toList
    have htail : spread rest = (tailChoices : Multiset (List K)) := by simp [tailChoices]
    have hperm : (List.replicate group.2 group.1 ++ tailChoices).Perm choices := by
      rw [← Multiset.coe_eq_coe,← h,spread_cons,htail]
      rfl
    rw [List.foldl_cons,ih _ htail,spread_groupedPower _ _ _ _ le_rfl,spread_counted,
      ← outcomes_perm hperm,outcomes_append,outcomes_replicate,convolve_assoc]

end Expanded

theorem optionLow_le {options : List ℤ} {v : ℤ} (h : v ∈ options) : optionLow options ≤ v := by
  have hall (xs : List ℤ) (base : ℤ) : ∀ v ∈ xs, xs.foldr min base ≤ v := by
    induction xs with
    | nil => simp
    | cons x xs ih =>
      intro v hv
      rcases List.mem_cons.mp hv with rfl | hv
      · exact min_le_left _ _
      · exact (min_le_right _ _).trans (ih v hv)
  exact hall options _ v h

theorem le_optionHigh {options : List ℤ} {v : ℤ} (h : v ∈ options) : v ≤ optionHigh options := by
  have hall (xs : List ℤ) (base : ℤ) : ∀ v ∈ xs, v ≤ xs.foldr max base := by
    induction xs with
    | nil => simp
    | cons x xs ih =>
      intro v hv
      rcases List.mem_cons.mp hv with rfl | hv
      · exact le_max_left _ _
      · exact (ih v hv).trans (le_max_right _ _)
  exact hall options _ v h

theorem optionSpan_nonneg (options : List ℤ) : 0 ≤ optionHigh options - optionLow options := by
  cases options with
  | nil => simp [optionHigh,optionLow]
  | cons v rest =>
    have hl := optionLow_le (List.mem_cons_self (a := v) (l := rest))
    have hh := le_optionHigh (List.mem_cons_self (a := v) (l := rest))
    omega

theorem gcdFold_dvd (low : ℤ) (options : List ℤ) (step : ℕ) :
    options.foldl (fun step option => Nat.gcd step (option - low).natAbs) step ∣ step ∧
      ∀ v ∈ options,
        options.foldl (fun step option => Nat.gcd step (option - low).natAbs) step ∣
          (v - low).natAbs := by
  induction options generalizing step with
  | nil => simp
  | cons option rest ih =>
    obtain ⟨hstep,hall⟩ := ih (Nat.gcd step (option - low).natAbs)
    refine ⟨hstep.trans (Nat.gcd_dvd_left _ _),?_⟩
    intro v hv
    rcases List.mem_cons.mp hv with rfl | hv
    · exact hstep.trans (Nat.gcd_dvd_right _ _)
    · exact hall v hv

theorem choiceStep_dvd (groups : List (List ℤ × ℕ)) :
    ∀ group ∈ groups, ∀ v ∈ group.1, (choiceStep groups : ℤ) ∣ v - optionLow group.1 := by
  have hall (gs : List (List ℤ × ℕ)) (step : ℕ) :
      gs.foldl (fun step group => group.1.foldl
        (fun step option => Nat.gcd step (option - optionLow group.1).natAbs) step) step ∣ step ∧
      ∀ group ∈ gs, ∀ v ∈ group.1,
        gs.foldl (fun step group => group.1.foldl
          (fun step option => Nat.gcd step (option - optionLow group.1).natAbs) step) step ∣
            (v - optionLow group.1).natAbs := by
    induction gs generalizing step with
    | nil => simp
    | cons group rest ih =>
      obtain ⟨hstep,hrest⟩ := ih (group.1.foldl
        (fun step option => Nat.gcd step (option - optionLow group.1).natAbs) step)
      obtain ⟨hg,hv⟩ := gcdFold_dvd (optionLow group.1) group.1 step
      refine ⟨hstep.trans hg,?_⟩
      intro other ho v hov
      rcases List.mem_cons.mp ho with rfl | ho
      · exact hstep.trans (hv v hov)
      · exact hrest other ho v hov
  intro group hgroup v hv
  exact Int.natCast_dvd.mpr ((hall groups 0).2 group hgroup v hv)

section Bound
variable {groups : List (List ℤ × ℕ)} {choices : List (List ℤ)}
variable (h : spread groups = (choices : Multiset (List ℤ)))

include h

theorem choiceSpan_eq :
    choiceSpan groups = (choices.map fun options => optionHigh options - optionLow options).sum := by
  have hsum (gs : List (List ℤ × ℕ)) :
      choiceSpan gs = ((spread gs).map fun options => optionHigh options - optionLow options).sum := by
    induction gs with
    | nil => rfl
    | cons group rest ih =>
      simp only [choiceSpan,List.map_cons,List.sum_cons,spread_cons,Multiset.map_add,
        Multiset.sum_add,Multiset.map_replicate,Multiset.sum_replicate,nsmul_eq_mul] at ih ⊢
      rw [ih,mul_comm]
  rw [hsum,h]
  rfl

theorem mem_groups {options : List ℤ} (ho : options ∈ choices) : ∃ group ∈ groups, group.1 = options := by
  have hm : options ∈ spread groups := h ▸ ho
  clear h ho
  induction groups with
  | nil => simp at hm
  | cons group rest ih =>
    rcases Multiset.mem_add.mp (spread_cons group rest ▸ hm) with hm | hm
    · exact ⟨group,by simp,(Multiset.eq_of_mem_replicate hm).symm⟩
    · obtain ⟨other,hother,he⟩ := ih hm
      exact ⟨other,by simp [hother],he⟩

theorem prefix_support_le {initial : List (List ℤ)} (hi : initial <+: choices) {bound : ℤ}
    (hb : sequentialStateBound groups = some bound) :
    ((outcomes initial).toFinset.card : ℤ) ≤ bound := by
  let low := fun options : List ℤ => optionLow options
  let span := fun options : List ℤ => optionHigh options - optionLow options
  obtain ⟨rest,hrest⟩ := hi
  have hspan : (initial.map span).sum ≤ choiceSpan groups := by
    rw [choiceSpan_eq h,← hrest,List.map_append,List.sum_append]
    have := List.sum_nonneg (l := rest.map span) (by
      intro x hx
      obtain ⟨options,_,rfl⟩ := List.mem_map.mp hx
      exact optionSpan_nonneg options)
    simp only [span] at this ⊢
    omega
  have hspan0 : 0 ≤ (initial.map span).sum := List.sum_nonneg (by
    intro x hx
    obtain ⟨options,_,rfl⟩ := List.mem_map.mp hx
    exact optionSpan_nonneg options)
  have hmem : ∀ options ∈ initial, options ∈ choices := fun options ho => hrest ▸ by simp [ho]
  have hlat (step : ℤ) (hstep : ∀ options ∈ initial, ∀ v ∈ options, step ∣ v - low options) :
      ∀ x ∈ (outcomes initial).toFinset,
        0 ≤ x - (initial.map low).sum ∧ x - (initial.map low).sum ≤ (initial.map span).sum ∧
          step ∣ x - (initial.map low).sum := by
    intro x hx
    refine outcomes_lattice (fun options ho v hv => ⟨?_,?_,hstep options ho v hv⟩)
      (Multiset.mem_toFinset.mp hx)
    · have := optionLow_le hv
      simp only [low]
      omega
    · have := le_optionHigh hv
      simp only [low,span]
      omega
  unfold sequentialStateBound at hb
  split at hb
  · next hzero =>
    cases hb
    have hz : (initial.map span).sum = 0 := by omega
    have := lattice_card _ _ _ 1 one_pos hspan0 (hlat 1 (fun _ _ _ _ => one_dvd _))
    simpa [hz] using this
  · split at hb
    · cases hb
    · next hs =>
      cases hb
      have hpos : (0 : ℤ) < choiceStep groups := by exact_mod_cast Nat.pos_of_ne_zero hs
      have hcard := lattice_card _ _ _ (choiceStep groups) hpos hspan0 (hlat _ (by
        intro options ho v hv
        obtain ⟨group,hg,rfl⟩ := mem_groups h (hmem options ho)
        exact choiceStep_dvd groups group hg v hv))
      have := Int.ediv_le_ediv hpos hspan
      omega

end Bound

theorem countGroups_spread (counts : RunCounts) (excess : Bool) :
    spread (countGroups counts excess) = (countChoices counts excess : Multiset (List ℤ)) := by
  have hsort : spread (countGroups counts excess) = spread (countCells.foldl (fun multiset cell =>
      let repeats := (counts cell.1 cell.2).toNat
      if repeats = 0 then multiset
      else bump multiset (countOptions excess (optionScale counts cell.1) (patterns cell.2)) repeats) []) := by
    unfold countGroups spread
    exact (((List.mergeSort_perm _ _).map _).sum_eq)
  have hfold (cells : List (Fin 2 × Fin 16)) (dist : List (List ℤ × ℕ)) :
      spread (cells.foldl (fun multiset cell =>
        let repeats := (counts cell.1 cell.2).toNat
        if repeats = 0 then multiset
        else bump multiset (countOptions excess (optionScale counts cell.1) (patterns cell.2)) repeats) dist) =
      spread dist + ((cells.flatMap fun cell => List.replicate (counts cell.1 cell.2).toNat
        (countOptions excess (optionScale counts cell.1) (patterns cell.2)) : List (List ℤ)) :
          Multiset (List ℤ)) := by
    induction cells generalizing dist with
    | nil => simp
    | cons cell rest ih =>
      rw [List.foldl_cons,ih,List.flatMap_cons,← Multiset.coe_add,← add_assoc,
        Multiset.coe_replicate]
      congr 1
      by_cases hz : (counts cell.1 cell.2).toNat = 0
      · simp [hz]
      · simp [hz]
  rw [hsort,hfold]
  simp [countChoices]

theorem countOptions_length_pos (excess : Bool) (scale : ℤ) (pattern : Pattern) :
    1 ≤ (countOptions excess scale pattern).length := by
  cases excess <;> simp [countOptions]

theorem countChoices_length_pos (counts : RunCounts) (excess : Bool) :
    ∀ options ∈ countChoices counts excess, 1 ≤ options.length := by
  intro options ho
  obtain ⟨cell,_,hc⟩ := List.mem_flatMap.mp ho
  rw [List.eq_of_mem_replicate hc]
  exact countOptions_length_pos _ _ _

theorem prod_lengths_prefix {K : Type} {initial choices : List (List K)} (hi : initial <+: choices)
    (h : ∀ options ∈ choices, 1 ≤ options.length) :
    (initial.map List.length).prod ≤ (choices.map List.length).prod := by
  obtain ⟨rest,rfl⟩ := hi
  rw [List.map_append,List.prod_append]
  refine Nat.le_mul_of_pos_right _ (List.prod_pos ?_)
  intro n hn
  obtain ⟨options,ho,rfl⟩ := List.mem_map.mp hn
  exact h options (by simp [ho])

theorem unit_supported {K : Type} [Zero K] : Supported [((0 : K),1)] := by simp [Supported]

section Agreement
variable {G : Type} (generator : Generator G)

theorem sequential_isSome_of_support {choices : List (List ℤ)}
    (h : ∀ options ∈ choices, 1 ≤ options.length)
    (hs : (choices.map List.length).prod ≤ enumerationLimit) :
    (sequential dynamicStateLimit choices [(0,1)]).isSome := by
  refine sequential_isSome unit_supported fun initial hi => ?_
  rw [show spread [((0 : ℤ),1)] = {0} by rfl,unit_convolve]
  calc (outcomes initial).toFinset.card ≤ (outcomes initial).card := Multiset.toFinset_card_le _
    _ = (initial.map List.length).prod := card_outcomes _
    _ ≤ (choices.map List.length).prod := prod_lengths_prefix hi h
    _ ≤ dynamicStateLimit := hs

theorem sequential_isSome_of_bound {groups : List (List ℤ × ℕ)} {choices : List (List ℤ)}
    (h : spread groups = (choices : Multiset (List ℤ))) {bound : ℤ}
    (hb : sequentialStateBound groups = some bound) (hl : bound ≤ dynamicStateLimit) :
    (sequential dynamicStateLimit choices [(0,1)]).isSome := by
  refine sequential_isSome unit_supported fun initial hi => ?_
  rw [show spread [((0 : ℤ),1)] = {0} by rfl,unit_convolve]
  have := prefix_support_le h hi hb
  omega

theorem sequential_exact {K : Type} [AddCommMonoid K] [LinearOrder K] {choices : List (List K)}
    {result : List (K × ℕ)} (h : sequential dynamicStateLimit choices [(0,1)] = some result)
    (threshold : K) :
    (tail result threshold / total result : ℚ) = exactTail (outcomes choices) threshold := by
  rw [tail_div_total,spread_sequential h,show spread [((0 : K),1)] = {0} by rfl,unit_convolve]

theorem countSharpTailValue_exact (counts : RunCounts) (excess : Bool) (draws : ℕ)
    (h : (sequential dynamicStateLimit (countChoices counts excess) [(0,1)]).isSome) :
    countSharpTailValue generator counts excess draws =
      exactTail (outcomes (countChoices counts excess)) (countObserved counts excess) := by
  obtain ⟨result,hr⟩ := Option.isSome_iff_exists.mp h
  have hseq : sequentialTailValue generator (countChoices counts excess) (countObserved counts excess)
      draws (if excess then .excess else .content) =
      exactTail (outcomes (countChoices counts excess)) (countObserved counts excess) := by
    rw [sequentialTailValue,hr]
    exact sequential_exact hr _
  have hgrouped : groupedExactTail (countGroups counts excess) (countObserved counts excess) =
      exactTail (outcomes (countChoices counts excess)) (countObserved counts excess) := by
    unfold groupedExactTail groupedConvolution
    rw [tail_div_total,spread_groupedFold _ _ (countGroups_spread counts excess),
      show spread [((0 : ℤ),1)] = {0} by rfl,unit_convolve]
  simp only [countSharpTailValue,hseq,hgrouped,ite_self]
  split <;> rfl

theorem productTail_pValue {f : ℤ →+ ℚ} (hf : StrictMono f) (counts : RunCounts) (excess : Bool)
    {draws : ℕ} (hd : 0 < draws) :
    ∃ result, productTail generator (f (countObserved counts excess))
        ((countChoices counts excess).map (List.map f)) draws 0
        (if excess then .excess else .content) = .ok result ∧
      result.pValue = countSharpTailValue generator counts excess draws := by
  let choices := countChoices counts excess
  let threshold := countObserved counts excess
  have hlen : ((choices.map (List.map f)).map List.length) = choices.map List.length := by
    simp [Function.comp_def]
  have hexact : exactTail (outcomes (choices.map (List.map f))) (f threshold) =
      exactTail (outcomes choices) threshold := by rw [outcomes_map,exactTail_map hf]
  have hmap : sequential dynamicStateLimit (choices.map (List.map f)) [(0,1)] =
      (sequential dynamicStateLimit choices [(0,1)]).map (rekey f) := by
    rw [← rekey_sequential hf.injective]
    simp [rekey]
  by_cases henum : (choices.map List.length).prod ≤ enumerationLimit
  · refine ⟨_,by simp only [productTail]; rw [hlen,if_pos henum],?_⟩
    rw [tailResult,tail_div_total,spread_counted,outcomes_product,hexact,
      countSharpTailValue_exact generator counts excess draws
        (sequential_isSome_of_support (countChoices_length_pos counts excess) henum)]
  · cases hs : sequential dynamicStateLimit choices [(0,1)] with
    | some result =>
      rw [hs] at hmap
      refine ⟨_,by simp only [productTail]; rw [hlen,if_neg henum,hmap]; rfl,?_⟩
      rw [countSharpTailValue_exact generator counts excess draws (by rw [hs]; rfl),← hexact]
      exact sequential_exact hmap _
    | none =>
      rw [hs] at hmap
      have hbatch : countSharpTailValue generator counts excess draws =
          sequentialTailValue generator choices threshold draws
            (if excess then .excess else .content) := by
        simp only [countSharpTailValue]
        split
        · next bound hb =>
          rw [if_neg]
          intro hl
          have := sequential_isSome_of_bound (countGroups_spread counts excess) hb hl
          rw [show countChoices counts excess = choices from rfl,hs] at this
          cases this
        · rfl
      have hpos : demand (decide ((0 : ℤ) < (draws : ℤ)))
          (.valueError "draws must be a positive exact int") = .ok () :=
        demand_eq_ok.mpr (decide_eq_true (by exact_mod_cast hd))
      refine ⟨_,by
        simp only [productTail]
        rw [hlen,if_neg henum,hmap]
        simp only [Option.map_none,monteCarlo,hpos,rng_zero]
        rfl,?_⟩
      simp only [hbatch,sequentialTailValue,hs,Int.toNat_natCast]
      rw [exceedances_map generator hf]
      simp only [Int.cast_natCast,choices,threshold]

end Agreement

end PneumaLab.ResamplingNull
