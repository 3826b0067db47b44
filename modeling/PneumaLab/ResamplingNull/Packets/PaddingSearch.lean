import PneumaLab.Library.LevelSearch
import PneumaLab.ResamplingNull.Packets.Padding

namespace PneumaLab.ResamplingNull

section Units

theorem mem_validatedPadUnits {neutralPadUnits units : List String} (h : validatedPadUnits neutralPadUnits = .ok units) :
    units.Nodup ∧ ∀ unit, unit ∈ units ↔ unit ∈ neutralPadUnits := by
  simp only [validatedPadUnits,bind_eq_ok,pure,Except.pure,Except.ok.injEq] at h
  obtain ⟨_,-,rfl⟩ := h
  constructor
  · exact (List.mergeSort_perm _ _).nodup_iff.mpr (List.nodup_dedup _)
  · intro unit
    rw [List.mem_mergeSort,List.mem_dedup]

end Units

def UnitCounts (units : List String) (padding : String) (counts : List ℕ) : Prop :=
  ∃ word : List String, (∀ unit ∈ word, unit ∈ units) ∧ LevelSearch.value (· ++ ·) "" word = padding ∧
    counts = units.map fun unit => word.count unit

section Frontiers
variable {units : List String}

theorem keys_offer (candidate : String) (counts : List ℕ) (frontier : Frontier) (key : String) :
    key ∈ (offer candidate counts frontier).map Prod.fst ↔ key ∈ frontier.map Prod.fst ∨ key = candidate := by
  induction frontier with
  | nil => simp [offer]
  | cons state rest ih =>
    obtain ⟨first,prior⟩ := state
    rw [offer]
    by_cases hfirst : first = candidate
    · subst hfirst
      rw [if_pos rfl]
      simp only [List.map_cons,List.mem_cons]
      tauto
    · rw [if_neg hfirst]
      simp only [List.map_cons,List.mem_cons,ih]
      tauto

theorem nodup_offer (candidate : String) (counts : List ℕ) {frontier : Frontier} (h : (frontier.map Prod.fst).Nodup) :
    ((offer candidate counts frontier).map Prod.fst).Nodup := by
  induction frontier with
  | nil => exact List.nodup_singleton _
  | cons state rest ih =>
    obtain ⟨first,prior⟩ := state
    obtain ⟨hfresh,hrest⟩ := List.nodup_cons.mp h
    rw [offer]
    by_cases hfirst : first = candidate
    · rw [if_pos hfirst]
      exact List.nodup_cons.mpr ⟨hfresh,hrest⟩
    · rw [if_neg hfirst]
      apply List.nodup_cons.mpr
      refine ⟨fun hmem => ?_,ih hrest⟩
      obtain hmem | hmem := (keys_offer candidate counts rest first).mp hmem
      · exact hfresh hmem
      · exact hfirst hmem

theorem counted_offer {candidate : String} {counts : List ℕ} {frontier : Frontier} (hcandidate : UnitCounts units candidate counts)
    (h : ∀ state ∈ frontier, UnitCounts units state.1 state.2) :
    ∀ state ∈ offer candidate counts frontier, UnitCounts units state.1 state.2 := by
  induction frontier with
  | nil =>
    intro state hstate
    exact List.mem_singleton.mp hstate ▸ hcandidate
  | cons first rest ih =>
    obtain ⟨key,prior⟩ := first
    have hrest := ih fun state hstate => h state (List.mem_cons_of_mem _ hstate)
    have hprior : UnitCounts units key prior := h (key,prior) List.mem_cons_self
    intro state hstate
    rw [offer] at hstate
    by_cases hkey : key = candidate
    · rw [if_pos hkey] at hstate
      obtain rfl | hstate := List.mem_cons.mp hstate
      · dsimp only
        split
        · exact hkey ▸ hcandidate
        · exact hprior
      · exact h state (List.mem_cons_of_mem _ hstate)
    · rw [if_neg hkey] at hstate
      obtain rfl | hstate := List.mem_cons.mp hstate
      · exact hprior
      · exact hrest state hstate

theorem UnitCounts.extend {padding : String} {counts : List ℕ} (h : UnitCounts units padding counts) (hnodup : units.Nodup)
    {unit : String} {index : ℕ} (hunit : (unit,index) ∈ units.zipIdx) :
    UnitCounts units (padding ++ unit) (counts.modify index (· + 1)) := by
  obtain ⟨word,hword,rfl,rfl⟩ := h
  have hget : units[index]? = some unit := List.mem_zipIdx_iff_getElem?.mp hunit
  refine ⟨word ++ [unit],?_,LevelSearch.value_append word unit,?_⟩
  · intro other hother
    obtain hother | hother := List.mem_append.mp hother
    · exact hword other hother
    · exact List.mem_singleton.mp hother ▸ List.mem_of_getElem? hget
  · apply List.ext_getElem?
    intro i
    rw [List.getElem?_modify,List.getElem?_map,List.getElem?_map]
    cases hi : units[i]? with
    | none => simp
    | some other =>
      by_cases hindex : index = i
      · subst hindex
        have hsame : other = unit := Option.some.inj (hi.symm.trans hget)
        subst hsame
        simp
      · have hother : other ≠ unit := by
          rintro rfl
          obtain ⟨hlt,hgeti⟩ := List.getElem?_eq_some_iff.mp hi
          obtain ⟨hlt',hgeti'⟩ := List.getElem?_eq_some_iff.mp hget
          exact hindex ((hnodup.getElem_inj_iff.mp (hgeti'.trans hgeti.symm)))
        simp [hindex,List.count_append,List.count_singleton,Ne.symm hother]

theorem mem_extendPadding {padding : String} {counts : List ℕ} {next : Frontier} {key : String} :
    key ∈ (extendPadding units padding counts next).map Prod.fst ↔
      key ∈ next.map Prod.fst ∨ ∃ unit ∈ units, key = padding ++ unit := by
  have hfold (numbered : List (String × ℕ)) (next : Frontier) :
      key ∈ ((numbered.foldl (fun next unit => offer (padding ++ unit.1) (counts.modify unit.2 (· + 1)) next) next).map
        Prod.fst) ↔ key ∈ next.map Prod.fst ∨ ∃ unit ∈ numbered, key = padding ++ unit.1 := by
    induction numbered generalizing next with
    | nil => simp
    | cons unit rest ih =>
      rw [List.foldl_cons,ih,keys_offer]
      simp only [List.mem_cons,exists_eq_or_imp,or_assoc]
  rw [extendPadding,hfold]
  constructor
  · rintro (hmem | ⟨unit,hunit,rfl⟩)
    · exact .inl hmem
    · exact .inr ⟨unit.1,List.mem_of_getElem? (List.mem_zipIdx_iff_getElem?.mp hunit),rfl⟩
  · rintro (hmem | ⟨unit,hunit,rfl⟩)
    · exact .inl hmem
    · obtain ⟨i,hi⟩ := List.mem_iff_getElem?.mp hunit
      exact .inr ⟨(unit,i),List.mem_zipIdx_iff_getElem?.mpr hi,rfl⟩

theorem extendPadding_sound (hnodup : units.Nodup) {padding : String} {counts : List ℕ} (hcounts : UnitCounts units padding counts)
    {next : Frontier} (hkeys : (next.map Prod.fst).Nodup) (hnext : ∀ state ∈ next, UnitCounts units state.1 state.2) :
    ((extendPadding units padding counts next).map Prod.fst).Nodup ∧
      ∀ state ∈ extendPadding units padding counts next, UnitCounts units state.1 state.2 := by
  have hfold (numbered : List (String × ℕ)) (hnumbered : ∀ unit ∈ numbered, unit ∈ units.zipIdx) (next : Frontier)
      (hkeys : (next.map Prod.fst).Nodup) (hnext : ∀ state ∈ next, UnitCounts units state.1 state.2) :
      ((numbered.foldl (fun next unit => offer (padding ++ unit.1) (counts.modify unit.2 (· + 1)) next) next).map
        Prod.fst).Nodup ∧ ∀ state ∈ numbered.foldl
          (fun next unit => offer (padding ++ unit.1) (counts.modify unit.2 (· + 1)) next) next,
          UnitCounts units state.1 state.2 := by
    induction numbered generalizing next with
    | nil => exact ⟨hkeys,hnext⟩
    | cons unit rest ih =>
      have hunit := hcounts.extend hnodup (hnumbered unit List.mem_cons_self)
      exact ih (fun other hother => hnumbered other (List.mem_cons_of_mem _ hother)) _ (nodup_offer _ _ hkeys)
        (counted_offer hunit hnext)
  exact hfold units.zipIdx (fun _ h => h) next hkeys hnext

end Frontiers

section Levels
variable {tokens : String → ℤ} {target : ℤ} {units : List String}

theorem exploreLevel_hit (units : List String) {frontier : Frontier} (h : ∃ state ∈ frontier, tokens state.1 = target) (explored : ℕ)
    (next : Frontier) : ∃ state ∈ frontier, tokens state.1 = target ∧
      (exploreLevel tokens target units frontier explored next).found = some state := by
  induction frontier generalizing explored next with
  | nil =>
    obtain ⟨state,hmem,-⟩ := h
    exact absurd hmem List.not_mem_nil
  | cons first rest ih =>
    obtain ⟨padding,counts⟩ := first
    rw [exploreLevel]
    by_cases hfirst : tokens padding = target
    · rw [if_pos hfirst]
      exact ⟨(padding,counts),List.mem_cons_self,hfirst,rfl⟩
    · rw [if_neg hfirst]
      have hrest : ∃ state ∈ rest, tokens state.1 = target := by
        obtain ⟨state,hmem,hstate⟩ := h
        obtain rfl | hmem := List.mem_cons.mp hmem
        · exact absurd hstate hfirst
        · exact ⟨state,hmem,hstate⟩
      split
      · obtain ⟨state,hmem,hfound⟩ := ih hrest (explored + 1) next
        exact ⟨state,List.mem_cons_of_mem _ hmem,hfound⟩
      · obtain ⟨state,hmem,hfound⟩ := ih hrest (explored + 1) (extendPadding units padding counts next)
        exact ⟨state,List.mem_cons_of_mem _ hmem,hfound⟩

structure Explored (tokens : String → ℤ) (target : ℤ) (units : List String) (frontier : Frontier) (explored : ℕ)
    (next : Frontier) (exploration : Exploration) : Prop where
  found : exploration.found = none
  explored : exploration.explored = explored + frontier.length
  nodup : (exploration.next.map Prod.fst).Nodup
  counted : ∀ state ∈ exploration.next, UnitCounts units state.1 state.2
  keys : ∀ key, key ∈ exploration.next.map Prod.fst ↔ key ∈ next.map Prod.fst ∨
    ∃ state ∈ frontier, tokens state.1 < target ∧ ∃ unit ∈ units, key = state.1 ++ unit

theorem exploreLevel_miss (hnodup : units.Nodup) {frontier : Frontier} (h : ∀ state ∈ frontier, tokens state.1 ≠ target)
    (hcounted : ∀ state ∈ frontier, UnitCounts units state.1 state.2) (explored : ℕ) {next : Frontier}
    (hkeys : (next.map Prod.fst).Nodup) (hnext : ∀ state ∈ next, UnitCounts units state.1 state.2) :
    Explored tokens target units frontier explored next (exploreLevel tokens target units frontier explored next) := by
  induction frontier generalizing explored next with
  | nil => exact ⟨rfl,rfl,hkeys,hnext,fun key => by simp [exploreLevel]⟩
  | cons first rest ih =>
    obtain ⟨padding,counts⟩ := first
    have hfirst : tokens padding ≠ target := h (padding,counts) List.mem_cons_self
    have hrest : ∀ state ∈ rest, tokens state.1 ≠ target := fun state hmem => h state (List.mem_cons_of_mem _ hmem)
    have hcounts : UnitCounts units padding counts := hcounted (padding,counts) List.mem_cons_self
    have hcountedRest : ∀ state ∈ rest, UnitCounts units state.1 state.2 :=
      fun state hmem => hcounted state (List.mem_cons_of_mem _ hmem)
    rw [exploreLevel,if_neg hfirst]
    by_cases hover : target < tokens padding
    · rw [if_pos hover]
      have hlater := ih hrest hcountedRest (explored + 1) hkeys hnext
      refine ⟨hlater.found,?_,hlater.nodup,hlater.counted,fun key => ?_⟩
      · rw [hlater.explored,List.length_cons]
        omega
      · rw [hlater.keys key]
        simp only [List.exists_mem_cons_iff,not_lt_of_gt hover,false_and,false_or]
    · rw [if_neg hover]
      obtain ⟨hextended,hsound⟩ := extendPadding_sound hnodup hcounts hkeys hnext
      have hlater := ih hrest hcountedRest (explored + 1) hextended hsound
      have hbelow : tokens padding < target := lt_of_le_of_ne (not_lt.mp hover) hfirst
      refine ⟨hlater.found,?_,hlater.nodup,hlater.counted,fun key => ?_⟩
      · rw [hlater.explored,List.length_cons]
        omega
      · rw [hlater.keys key,mem_extendPadding]
        simp only [List.exists_mem_cons_iff,hbelow,true_and,or_assoc]

def paddingLevel (tokens : String → ℤ) (target : ℤ) (units : List String) : ℕ → Set String :=
  LevelSearch.level (· ++ ·) "" units tokens target

structure AtLevel (tokens : String → ℤ) (target : ℤ) (units : List String) (j : ℕ) (frontier : Frontier) : Prop where
  nodup : (frontier.map Prod.fst).Nodup
  counted : ∀ state ∈ frontier, UnitCounts units state.1 state.2
  keys : ∀ key, key ∈ frontier.map Prod.fst ↔ key ∈ paddingLevel tokens target units j

theorem AtLevel.perm {j : ℕ} {frontier other : Frontier} (h : AtLevel tokens target units j frontier)
    (hperm : other.Perm frontier) : AtLevel tokens target units j other where
  nodup := (hperm.map Prod.fst).nodup_iff.mpr h.nodup
  counted := fun state hstate => h.counted state (hperm.mem_iff.mp hstate)
  keys := fun key => (hperm.map Prod.fst).mem_iff.trans (h.keys key)

theorem AtLevel.length {j : ℕ} {frontier : Frontier} (h : AtLevel tokens target units j frontier) :
    frontier.length = (paddingLevel tokens target units j).ncard := by
  have hset : paddingLevel tokens target units j = ((frontier.map Prod.fst).toFinset : Set String) := by
    ext key
    rw [List.coe_toFinset]
    exact (h.keys key).symm
  rw [hset,Set.ncard_coe_finset,List.toFinset_card_of_nodup h.nodup,List.length_map]

theorem atLevel_zero : AtLevel tokens target units 0 [("",units.map fun _ => 0)] where
  nodup := List.nodup_singleton _
  counted := by
    intro state hstate
    obtain rfl := List.mem_singleton.mp hstate
    exact ⟨[],fun unit hunit => absurd hunit List.not_mem_nil,rfl,by simp⟩
  keys := fun key => List.mem_singleton

theorem AtLevel.next (hnodup : units.Nodup) {j : ℕ} {frontier : Frontier} (h : AtLevel tokens target units j frontier)
    (hmiss : ∀ state ∈ frontier, tokens state.1 ≠ target) (explored : ℕ) :
    (exploreLevel tokens target units frontier explored []).found = none ∧
    (exploreLevel tokens target units frontier explored []).explored = explored + frontier.length ∧
    AtLevel tokens target units (j + 1) (exploreLevel tokens target units frontier explored []).next := by
  have hexplored : Explored tokens target units frontier explored [] (exploreLevel tokens target units frontier explored []) :=
    exploreLevel_miss hnodup hmiss h.counted explored List.nodup_nil fun state hstate => absurd hstate List.not_mem_nil
  refine ⟨hexplored.found,hexplored.explored,hexplored.nodup,hexplored.counted,fun key => ?_⟩
  rw [hexplored.keys key]
  constructor
  · rintro (hmem | ⟨state,hstate,hbelow,unit,hunit,rfl⟩)
    · exact absurd hmem List.not_mem_nil
    · exact ⟨state.1,(h.keys state.1).mp (List.mem_map_of_mem hstate),hbelow,unit,hunit,rfl⟩
  · rintro ⟨padding,hpadding,hbelow,unit,hunit,rfl⟩
    obtain ⟨state,hstate,rfl⟩ := List.mem_map.mp ((h.keys padding).mpr hpadding)
    exact .inr ⟨state,hstate,hbelow,unit,hunit,rfl⟩

noncomputable def statesBefore (tokens : String → ℤ) (target : ℤ) (units : List String) (m : ℕ) : ℕ :=
  ∑ j ∈ Finset.range m, (paddingLevel tokens target units j).ncard

def FirstHit (tokens : String → ℤ) (target : ℤ) (units : List String) (m : ℕ) : Prop :=
  (∃ padding ∈ paddingLevel tokens target units m, tokens padding = target) ∧
    ∀ i < m, ∀ padding ∈ paddingLevel tokens target units i, tokens padding ≠ target

structure Searched (tokens : String → ℤ) (target : ℤ) (units : List String) (result : Py (String × List ℕ × ℕ)) : Prop where
  returned : ∀ found, result = .ok found → ∃ m, found.1 ∈ paddingLevel tokens target units m ∧ tokens found.1 = target ∧
    FirstHit tokens target units m ∧ statesBefore tokens target units m < maxStates target units ∧
    UnitCounts units found.1 found.2.1
  raised : ∀ e, result = .error e → e = .packetInvalid "exact neutral padding target is unreachable" ∧
    ∀ m, FirstHit tokens target units m → maxStates target units ≤ statesBefore tokens target units m

theorem searchLevels_searched (hnodup : units.Nodup) (frontier : Frontier) (explored j : ℕ)
    (h : AtLevel tokens target units j frontier) (hexplored : explored = statesBefore tokens target units j)
    (hfresh : ∀ i < j, ∀ padding ∈ paddingLevel tokens target units i, tokens padding ≠ target) :
    Searched tokens target units (searchLevels tokens target units frontier explored) := by
  induction hfuel : (maxStates target units - explored).toNat using Nat.strongRecOn generalizing frontier explored j with
  | ind fuel ih =>
  rw [searchLevels]
  by_cases hopen : frontier ≠ [] ∧ (explored : ℤ) < maxStates target units
  · rw [dif_pos hopen]
    have hsorted : AtLevel tokens target units j (sortedFrontier frontier) :=
      h.perm (List.mergeSort_perm frontier fun x y => utf8Le x.1 y.1)
    by_cases hhit : ∃ state ∈ sortedFrontier frontier, tokens state.1 = target
    · obtain ⟨state,hstate,htarget,hfound⟩ := exploreLevel_hit units hhit explored []
      rw [hfound]
      have hlevel := (hsorted.keys state.1).mp (List.mem_map_of_mem hstate)
      refine ⟨?_,fun e he => by cases he⟩
      rintro found hok
      cases hok
      exact ⟨j,hlevel,htarget,⟨⟨state.1,hlevel,htarget⟩,hfresh⟩,hexplored ▸ hopen.2,hsorted.counted state hstate⟩
    · have hmiss : ∀ state ∈ sortedFrontier frontier, tokens state.1 ≠ target :=
        fun state hstate heq => hhit ⟨state,hstate,heq⟩
      obtain ⟨hnone,hcount,hnext⟩ := AtLevel.next hnodup hsorted hmiss explored
      rw [hnone]
      have hless := states_decrease tokens target units hopen []
      refine ih _ (hfuel ▸ hless) _ _ (j + 1) hnext ?_ ?_ rfl
      · have hsucc : statesBefore tokens target units (j + 1) =
            statesBefore tokens target units j + (paddingLevel tokens target units j).ncard := LevelSearch.statesBefore_succ j
        rw [hsucc,← hexplored,← hsorted.length]
        exact hcount
      · intro i hi padding hpadding
        obtain hi | rfl := Nat.lt_succ_iff_lt_or_eq.mp hi
        · exact hfresh i hi padding hpadding
        · obtain ⟨state,hstate,rfl⟩ := List.mem_map.mp ((hsorted.keys padding).mpr hpadding)
          exact hmiss state hstate
  · rw [dif_neg hopen]
    refine ⟨fun found hok => (by cases hok),fun e he => ?_⟩
    cases he
    refine ⟨rfl,fun m hm => ?_⟩
    have hle : j ≤ m := by
      by_contra hlt
      obtain ⟨⟨padding,hpadding,heq⟩,-⟩ := hm
      exact hfresh m (by omega) padding hpadding heq
    by_cases hnil : frontier = []
    · have hempty : paddingLevel tokens target units j = ∅ := by
        apply Set.eq_empty_of_forall_notMem
        intro padding hpadding
        have hmem := (h.keys padding).mpr hpadding
        rw [hnil] at hmem
        exact List.not_mem_nil hmem
      obtain ⟨⟨padding,hpadding,-⟩,-⟩ := hm
      have hnone : paddingLevel tokens target units m = ∅ := LevelSearch.level_empty hempty hle
      rw [hnone] at hpadding
      exact absurd hpadding (Set.notMem_empty padding)
    · have hfull : maxStates target units ≤ explored := not_lt.mp fun hlt => hopen ⟨hnil,hlt⟩
      have hmono : statesBefore tokens target units j ≤ statesBefore tokens target units m := LevelSearch.statesBefore_mono hle
      omega

end Levels

end PneumaLab.ResamplingNull
