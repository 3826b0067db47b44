import PneumaLab.ResamplingNull.Analysis.SharpTails

namespace PneumaLab.ResamplingNull
open MassFunction

structure Regrouping (choices : List (List ℤ)) where
  groups : List (List ℤ × ℕ)
  repeated : ∀ group ∈ groups, 0 < group.2
  nonempty : ∀ group ∈ groups, group.1 ≠ []
  regroups : spread groups = (choices : Multiset (List ℤ))

def perChoice (choices : List (List ℤ)) : List (ℤ × ℕ) := choices.foldl stepChoice [(0,1)]

def partialSums (choices : List (List ℤ)) : List ℤ := (product choices).map List.sum

theorem spread_perChoice (choices : List (List ℤ)) : spread (perChoice choices) = outcomes choices := by
  rw [perChoice,spread_foldl_stepChoice]
  exact unit_convolve _

theorem supported_perChoice (choices : List (List ℤ)) : Supported (perChoice choices) :=
  supported_foldl_stepChoice choices unit_supported

theorem supported_groupedConvolution (groups : List (List ℤ × ℕ)) :
    Supported (groupedConvolution groups) := by
  have hall (gs : List (List ℤ × ℕ)) (dist : List (ℤ × ℕ)) (hd : Supported dist) :
      Supported (gs.foldl (fun distribution group =>
        groupedPower group.2 distribution (counted group.1) group.2) dist) := by
    induction gs generalizing dist with
    | nil => exact hd
    | cons group rest ih =>
      apply ih
      exact supported_groupedPower _ hd (supported_counted _) _
  exact hall groups _ unit_supported

theorem card_outcomes_support (choices : List (List ℤ)) :
    (outcomes choices).toFinset.card = (partialSums choices).dedup.length := by
  rw [← outcomes_product]
  exact List.card_toFinset (partialSums choices)

theorem length_perChoice (choices : List (List ℤ)) :
    (perChoice choices).length = (partialSums choices).dedup.length := by
  rw [length_eq_support (supported_perChoice choices),spread_perChoice,card_outcomes_support]

section Regrouped
variable {choices ordering : List (List ℤ)} (regrouping : Regrouping choices)

theorem Regrouping.spread_grouped : spread (groupedConvolution regrouping.groups) = outcomes choices := by
  rw [groupedConvolution,spread_groupedFold _ _ regrouping.regroups]
  exact unit_convolve _

theorem Regrouping.reorders (h : ordering.Perm choices) :
    spread regrouping.groups = (ordering : Multiset (List ℤ)) := by
  rw [regrouping.regroups]
  exact (Multiset.coe_eq_coe.mpr h).symm

theorem Regrouping.spread_eq (h : ordering.Perm choices) :
    spread (groupedConvolution regrouping.groups) = spread (perChoice ordering) := by
  rw [regrouping.spread_grouped,spread_perChoice,outcomes_perm h]

theorem Regrouping.sequential_eq (h : ordering.Perm choices) {bound : ℤ}
    (hb : sequentialStateBound regrouping.groups = some bound) (hl : bound ≤ dynamicStateLimit) :
    sequential dynamicStateLimit ordering [(0,1)] = some (perChoice ordering) := by
  obtain ⟨result,hresult⟩ := Option.isSome_iff_exists.mp
    (sequential_isSome_of_bound (regrouping.reorders h) hb hl)
  rw [hresult,sequential_eq_foldl hresult,perChoice]

end Regrouped

section Counted
variable {G : Type} (generator : Generator G) (counts : RunCounts) (excess : Bool)

theorem countGroups_repeated : ∀ group ∈ countGroups counts excess, 0 < group.2 := by
  have hall (cells : List (Fin 2 × Fin 16)) (dist : List (List ℤ × ℕ)) (hd : Supported dist) :
      Supported (cells.foldl (fun multiset cell =>
        let repeats := (counts cell.1 cell.2).toNat
        if repeats = 0 then multiset
        else bump multiset (countOptions excess (optionScale counts cell.1) (patterns cell.2)) repeats) dist) := by
    induction cells generalizing dist with
    | nil => exact hd
    | cons cell rest ih =>
      apply ih
      dsimp only
      split
      · exact hd
      · next hne => exact supported_bump hd _ (Nat.pos_of_ne_zero hne)
  intro group hgroup
  exact (hall countCells [] supported_nil).2 group ((List.mergeSort_perm _ _).mem_iff.mp hgroup)

theorem countGroups_nonempty : ∀ group ∈ countGroups counts excess, group.1 ≠ [] := by
  intro group hgroup hnil
  have hspread := mem_spread_of_mem hgroup (countGroups_repeated counts excess group hgroup)
  rw [countGroups_spread,Multiset.mem_coe] at hspread
  have hlength := countChoices_length_pos counts excess _ hspread
  simp [hnil] at hlength

def countRegrouping : Regrouping (countChoices counts excess) where
  groups := countGroups counts excess
  repeated := countGroups_repeated counts excess
  nonempty := countGroups_nonempty counts excess
  regroups := countGroups_spread counts excess

theorem countSharpTail_unregrouped {bound : ℤ} (draws : ℕ) (seed : ℤ)
    (hb : sequentialStateBound (countGroups counts excess) = some bound) (hl : bound ≤ dynamicStateLimit) :
    countSharpTail generator counts excess draws seed =
      sequentialTail generator (countChoices counts excess) (countObserved counts excess) draws seed
        (if excess then .excess else .content) := by
  have hsequential := (countRegrouping counts excess).sequential_eq (.refl _) hb hl
  have hspread := (countRegrouping counts excess).spread_eq (.refl _)
  simp only [countSharpTail,hb,if_pos hl,sequentialTail,hsequential,groupedExactTail]
  simp only [tail_div_total]
  rw [← hspread]
  rfl

end Counted

theorem regrouped_tail_exact {choices ordering : List (List ℤ)} (regrouping : Regrouping choices)
    (h : ordering.Perm choices) (observed : ℤ) :
    (groupedConvolution regrouping.groups).Perm (perChoice ordering) ∧
    (groupedConvolution regrouping.groups).Perm (counted (partialSums choices)) ∧
    (tail (groupedConvolution regrouping.groups) observed = tail (perChoice ordering) observed ∧
      tail (groupedConvolution regrouping.groups) observed =
        ((partialSums choices).filter fun total => observed ≤ total).length) ∧
    (total (groupedConvolution regrouping.groups) = total (perChoice ordering) ∧
      total (groupedConvolution regrouping.groups) = (product choices).length) ∧
    (∀ bound, sequentialStateBound regrouping.groups = some bound →
      (∀ initial, initial <+: ordering →
        (perChoice initial).length = (partialSums initial).dedup.length ∧
          ((partialSums initial).dedup.length : ℤ) ≤ bound) ∧
      (bound ≤ dynamicStateLimit →
        sequential dynamicStateLimit ordering [(0,1)] = some (perChoice ordering))) ∧
    ∀ {G : Type} (generator : Generator G) (counts : RunCounts) (excess : Bool) (draws : ℕ) (seed bound : ℤ),
      sequentialStateBound (countGroups counts excess) = some bound → bound ≤ dynamicStateLimit →
      (sequential dynamicStateLimit (countChoices counts excess) [(0,1)]).isSome ∧
        countSharpTail generator counts excess draws seed =
          sequentialTail generator (countChoices counts excess) (countObserved counts excess) draws seed
            (if excess then .excess else .content) := by
  have hgrouped := supported_groupedConvolution regrouping.groups
  have hspread := regrouping.spread_eq h
  have hsums : spread (groupedConvolution regrouping.groups) = (partialSums choices : Multiset ℤ) := by
    rw [regrouping.spread_grouped,← outcomes_product,partialSums]
  refine ⟨perm_of_spread hgrouped (supported_perChoice ordering) hspread,?_,⟨?_,?_⟩,⟨?_,?_⟩,?_,?_⟩
  · apply perm_of_spread hgrouped (supported_counted _)
    rw [hsums,spread_counted]
  · rw [tail_eq_countP,tail_eq_countP,hspread]
  · rw [tail_eq_countP,hsums,Multiset.coe_countP,List.countP_eq_length_filter]
  · rw [total_eq_card,total_eq_card,hspread]
  · rw [total_eq_card,hsums,Multiset.coe_card,partialSums,List.length_map]
  · intro bound hbound
    refine ⟨?_,regrouping.sequential_eq h hbound⟩
    intro initial hinitial
    refine ⟨length_perChoice initial,?_⟩
    rw [← card_outcomes_support]
    exact prefix_support_le (regrouping.reorders h) hinitial hbound
  · intro G generator counts excess draws seed bound hbound hlimit
    refine ⟨?_,countSharpTail_unregrouped generator counts excess draws seed hbound hlimit⟩
    rw [(countRegrouping counts excess).sequential_eq (.refl _) hbound hlimit]
    rfl

def coinRegrouping : Regrouping [[0,2],[1,1],[0,2]] where
  groups := [([0,2],2),([1,1],1)]
  repeated := by decide
  nonempty := by decide
  regroups := by decide

theorem coin_regrouped :
    (groupedConvolution coinRegrouping.groups).Perm (perChoice [[1,1],[0,2],[0,2]]) ∧
      tail (groupedConvolution coinRegrouping.groups) 3 = 6 := by
  obtain ⟨hperm,-,⟨-,htail⟩,-,-,-⟩ := regrouped_tail_exact coinRegrouping
    (show List.Perm [[1,1],[0,2],[0,2]] [[0,2],[1,1],[0,2]] by decide) 3
  refine ⟨hperm,htail.trans ?_⟩
  decide

end PneumaLab.ResamplingNull
