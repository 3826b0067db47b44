import PneumaLab.Gauge.Anova

namespace PneumaLab.Gauge

open InvertedIndex

variable {K : Type} [LinearOrder K]

theorem mergeSort_of_perm {α : Type} [LinearOrder α] {xs ys : List α} (h : xs.Perm ys) :
    xs.mergeSort (· ≤ ·) = ys.mergeSort (· ≤ ·) := by
  refine List.Perm.eq_of_sortedLE List.sortedLE_mergeSort List.sortedLE_mergeSort ?_
  exact (List.mergeSort_perm _ _).trans (h.trans (List.mergeSort_perm _ _).symm)

theorem entry_map {A B C : Type} [DecidableEq A] (f : B → C) (absent : B) (dict : List (A × B)) (key : A) :
    entry (f absent) (dict.map fun cell => (cell.1,f cell.2)) key = f (entry absent dict key) := by
  induction dict with
  | nil => rfl
  | cons cell dict ih =>
    rw [List.map_cons,entry,entry,ih]
    split <;> rfl

section Readings
variable (facets : List Facet) (rows : List (Response K))

def readingsAt (key : Key K) : List (ℤ ×ₗ K) :=
  rows.filterMap fun r => if r.key facets = key then r.reading else none

def valuesAt (key : Key K) : List K := ResponseCube.inOrder (readingsAt facets rows key)

def Occupied (key : Key K) : Prop := ∃ r ∈ rows, r.key facets = key ∧ r.reading.isSome = true

instance (key : Key K) : Decidable (Occupied facets rows key) :=
  inferInstanceAs (Decidable (∃ r ∈ rows, _))

variable {facets rows}

theorem readingsAt_perm {others : List (Response K)} (h : others.Perm rows) (key : Key K) :
    (readingsAt facets others key).Perm (readingsAt facets rows key) := h.filterMap _

theorem valuesAt_perm {others : List (Response K)} (h : others.Perm rows) (key : Key K) :
    valuesAt facets others key = valuesAt facets rows key := by
  rw [valuesAt,valuesAt,ResponseCube.inOrder,mergeSort_of_perm (readingsAt_perm h key),ResponseCube.inOrder]

omit [LinearOrder K] in
theorem occupied_perm {others : List (Response K)} (h : others.Perm rows) (key : Key K) :
    Occupied facets others key ↔ Occupied facets rows key := by
  simp only [Occupied,h.mem_iff]

theorem entry_raw (key : Key K) (raw : List (Key K × List (ℤ ×ₗ K))) :
    entry [] (rows.foldl (ResponseCube.addReading facets) raw) key = entry [] raw key ++ readingsAt facets rows key := by
  induction rows generalizing raw with
  | nil => simp [readingsAt]
  | cons r rows ih =>
    rw [List.foldl_cons,ih,ResponseCube.addReading,readingsAt,readingsAt,List.filterMap_cons]
    cases hr : r.reading with
    | none => simp
    | some reading =>
      simp only [entry_setDefault]
      split
      · rw [List.append_assoc,List.singleton_append]
      · rfl

theorem keys_raw (key : Key K) (raw : List (Key K × List (ℤ ×ₗ K))) :
    key ∈ (rows.foldl (ResponseCube.addReading facets) raw).map Prod.fst ↔
      key ∈ raw.map Prod.fst ∨ Occupied facets rows key := by
  induction rows generalizing raw with
  | nil => simp [Occupied]
  | cons r rows ih =>
    rw [List.foldl_cons,ih,ResponseCube.addReading]
    have hcons : Occupied facets (r :: rows) key ↔
        (r.key facets = key ∧ r.reading.isSome = true) ∨ Occupied facets rows key := List.exists_mem_cons_iff _ _ _
    cases hr : r.reading with
    | none => simp [hcons,hr]
    | some reading =>
      rw [keys_setDefault,hcons,hr,← or_assoc]
      refine or_congr_left ?_
      split
      · next hmem =>
        refine (or_iff_left_of_imp ?_).symm
        rintro ⟨rfl,-⟩
        exact hmem
      · simp [eq_comm]

end Readings

namespace ResponseCube
variable (facets : List Facet) (cube : ResponseCube K)

theorem entry_cellsSorted : entry [] (cube.cellsSorted facets) = valuesAt facets cube.rows := by
  funext key
  have hnil : inOrder ([] : List (ℤ ×ₗ K)) = [] := by simp [inOrder]
  have hmap := entry_map inOrder ([] : List (ℤ ×ₗ K)) (cube.raw facets) key
  rw [hnil] at hmap
  rw [cellsSorted,hmap,raw,entry_raw]
  rfl

theorem mem_keys_cellsSorted (key : Key K) :
    key ∈ (cube.cellsSorted facets).map Prod.fst ↔ Occupied facets cube.rows key := by
  have hkeys : (cube.cellsSorted facets).map Prod.fst = (cube.raw facets).map Prod.fst := by
    simp [cellsSorted]
  rw [hkeys,raw,keys_raw]
  exact or_iff_right List.not_mem_nil

theorem present_cellsSorted : present (cube.cellsSorted facets) = fun key => decide (Occupied facets cube.rows key) := by
  funext key
  exact decide_eq_decide.mpr (mem_keys_cellsSorted facets cube key)

def parsedItems : Finset String := ((cube.rows.filter fun r => r.reading.isSome).map Response.itemId).toFinset

def parsedConditions : Finset (List (FacetValue K)) :=
  ((cube.rows.filter fun r => r.reading.isSome).map (Response.condition facets)).toFinset

variable {facets cube}

omit [LinearOrder K] in
theorem mem_parsedItems {i : String} :
    i ∈ cube.parsedItems ↔ ∃ r ∈ cube.rows, r.itemId = i ∧ r.reading.isSome = true := by
  simp only [parsedItems,List.mem_toFinset,List.mem_map,List.mem_filter]
  exact exists_congr fun r => by rw [and_assoc,and_comm (a := r.itemId = i)]

theorem mem_parsedConditions {c : List (FacetValue K)} :
    c ∈ cube.parsedConditions facets ↔ ∃ r ∈ cube.rows, r.condition facets = c ∧ r.reading.isSome = true := by
  simp only [parsedConditions,List.mem_toFinset,List.mem_map,List.mem_filter]
  exact exists_congr fun r => by rw [and_assoc,and_comm (a := r.condition facets = c)]

theorem cell_items : ((cube.cellsSorted facets).map fun cell => cell.1.1).toFinset = cube.parsedItems := by
  ext i
  have hkeys : (∃ c, (i,c) ∈ (cube.cellsSorted facets).map Prod.fst) ↔ i ∈ cube.parsedItems := by
    simp only [mem_keys_cellsSorted,Occupied,mem_parsedItems,Response.key,Prod.mk.injEq]
    constructor
    · rintro ⟨c,r,hr,⟨hi,-⟩,hread⟩
      exact ⟨r,hr,hi,hread⟩
    · rintro ⟨r,hr,hi,hread⟩
      exact ⟨_,r,hr,⟨hi,rfl⟩,hread⟩
  rw [← hkeys]
  simp

theorem cell_conditions :
    ((cube.cellsSorted facets).map fun cell => cell.1.2).toFinset = cube.parsedConditions facets := by
  ext c
  have hkeys : (∃ i, (i,c) ∈ (cube.cellsSorted facets).map Prod.fst) ↔ c ∈ cube.parsedConditions facets := by
    simp only [mem_keys_cellsSorted,Occupied,mem_parsedConditions,Response.key,Prod.mk.injEq]
    constructor
    · rintro ⟨i,r,hr,⟨-,hc⟩,hread⟩
      exact ⟨r,hr,hc,hread⟩
    · rintro ⟨r,hr,hc,hread⟩
      exact ⟨_,r,hr,⟨rfl,hc⟩,hread⟩
  rw [← hkeys]
  simp

variable [Field K]

theorem balancedMatrix_eq : cube.balancedMatrix facets =
    balance (fun key => decide (Occupied facets cube.rows key)) (valuesAt facets cube.rows) cube.parsedItems
      (cube.parsedConditions facets) cube.parseFailureRate := by
  rw [balancedMatrix,entry_cellsSorted,present_cellsSorted,cell_items,cell_conditions]

variable {responses others : List (Response K)}

theorem rows_perm : (ofResponses responses).rows.Perm responses := List.mergeSort_perm _ _

theorem balancedMatrix_perm (h : others.Perm responses) :
    (ofResponses others).balancedMatrix facets = (ofResponses responses).balancedMatrix facets := by
  have hrows : (ofResponses others).rows.Perm (ofResponses responses).rows := rows_perm.trans (h.trans rows_perm.symm)
  have hitems : (ofResponses others).parsedItems = (ofResponses responses).parsedItems := by
    ext i
    simp only [mem_parsedItems,hrows.mem_iff]
  have hconditions : (ofResponses others).parsedConditions facets = (ofResponses responses).parsedConditions facets := by
    ext c
    simp only [mem_parsedConditions,hrows.mem_iff]
  have hfailures : (ofResponses others).parseFailureRate = (ofResponses responses).parseFailureRate := by
    rw [parseFailureRate,parseFailureRate,hrows.countP_eq,hrows.length_eq]
    simp only [← List.length_eq_zero_iff,hrows.length_eq]
  rw [balancedMatrix_eq,balancedMatrix_eq,hitems,hconditions,hfailures,funext (valuesAt_perm hrows)]
  simp only [occupied_perm hrows]

end ResponseCube

section Crossing
variable {present : Key K → Bool} {values : Key K → List K}

theorem without_sublist {α : Type} [DecidableEq α] (xs gone : List α) : (without xs gone).Sublist xs := List.filter_sublist

omit [LinearOrder K] in
theorem crossed_of_none {items : List String} {conditions : List (List (FacetValue K))}
    (h : missingItems present items conditions = []) {i : String} (hi : i ∈ items) {c : List (FacetValue K)}
    (hc : c ∈ conditions) : present (i,c) = true := by
  have hany := List.filter_eq_nil_iff.mp h i hi
  simp only [List.any_eq_true,not_exists,not_and,Bool.not_eq_true',Bool.not_eq_false] at hany
  exact hany c hc

theorem eliminate_sublist (items : List String) (conditions : List (List (FacetValue K))) :
    (eliminate present items conditions).1.Sublist items ∧ (eliminate present items conditions).2.Sublist conditions := by
  fun_induction eliminate present items conditions with
  | case1 items conditions => exact ⟨.refl _,.refl _⟩
  | case2 items conditions => exact ⟨without_sublist _ _,.refl _⟩
  | case3 items conditions _ _ _ _ _ _ ih => exact ⟨ih.1.trans (without_sublist _ _),ih.2⟩
  | case4 items conditions => exact ⟨.refl _,without_sublist _ _⟩
  | case5 items conditions _ _ _ _ _ _ ih => exact ⟨ih.1,ih.2.trans (without_sublist _ _)⟩

theorem eliminate_crossed (items : List String) (conditions : List (List (FacetValue K)))
    (hitems : 2 ≤ (eliminate present items conditions).1.length)
    (hconditions : 2 ≤ (eliminate present items conditions).2.length) :
    ∀ i ∈ (eliminate present items conditions).1, ∀ c ∈ (eliminate present items conditions).2, present (i,c) = true := by
  fun_induction eliminate present items conditions with
  | case1 items conditions _ _ hfull => exact fun i hi c hc => crossed_of_none hfull.1 hi hc
  | case2 items conditions _ _ _ _ rest hshort =>
    dsimp only at hitems hconditions
    omega
  | case3 items conditions _ _ _ _ _ _ ih => exact ih hitems hconditions
  | case4 items conditions _ _ _ _ rest hshort =>
    dsimp only at hitems hconditions
    omega
  | case5 items conditions _ _ _ _ _ _ ih => exact ih hitems hconditions

omit [LinearOrder K] in
theorem depth_le {conditions : List (List (FacetValue K))} {c : List (FacetValue K)} (hc : c ∈ conditions) (i : String) :
    depth values conditions i ≤ (values (i,c)).length := by
  have hmem : (values (i,c)).length ∈ conditions.map fun c => (values (i,c)).length := List.mem_map.mpr ⟨c,hc,rfl⟩
  obtain ⟨least,hleast⟩ := Option.isSome_iff_exists.mp (List.isSome_min?_of_mem hmem)
  rw [depth,hleast]
  exact (List.min?_eq_some_iff.mp hleast).2 _ hmem

omit [LinearOrder K] in
theorem le_depth {conditions : List (List (FacetValue K))} (hne : conditions ≠ []) {i : String} {d : ℕ}
    (h : ∀ c ∈ conditions, d ≤ (values (i,c)).length) : d ≤ depth values conditions i := by
  have hne' : (conditions.map fun c => (values (i,c)).length) ≠ [] := by simpa using hne
  obtain ⟨least,hleast⟩ := Option.isSome_iff_exists.mp (List.isSome_min?_of_ne_nil hne')
  obtain ⟨c,hc,rfl⟩ := List.mem_map.mp (List.min?_eq_some_iff.mp hleast).1
  rw [depth,hleast]
  exact h c hc

variable {items : List String} {conditions : List (List (FacetValue K))}

omit [LinearOrder K] in
theorem mem_keptAt {i : String} {d : ℕ} (hne : conditions ≠ []) : i ∈ keptAt present values items conditions d ↔
    i ∈ items ∧ ∀ c ∈ conditions, present (i,c) = true ∧ d ≤ (values (i,c)).length := by
  simp only [keptAt,full,List.mem_filter,Bool.and_eq_true,List.all_eq_true,decide_eq_true_eq]
  refine and_congr_right fun _ => ⟨?_,?_⟩
  · rintro ⟨hfull,hdepth⟩ c hc
    exact ⟨hfull c hc,hdepth.trans (depth_le hc i)⟩
  · exact fun h => ⟨fun c hc => (h c hc).1,le_depth hne fun c hc => (h c hc).2⟩

omit [LinearOrder K] in
theorem keptAt_deep {d : ℕ} (hd : 2 ≤ d) (h : d ∉ candidates present values items conditions) :
    keptAt present values items conditions d = [] := by
  refine List.filter_eq_nil_iff.mpr fun i hi hkept => h ?_
  obtain ⟨hfull,hdepth⟩ := (Bool.and_eq_true _ _).mp hkept
  have hmem : depth values conditions i ∈ (items.filter (full present conditions)).map (depth values conditions) :=
    List.mem_map_of_mem (List.mem_filter.mpr ⟨hi,hfull⟩)
  obtain ⟨most,hmost⟩ := Option.isSome_iff_exists.mp (List.isSome_max?_of_mem hmem)
  have hle := (List.max?_eq_some_iff.mp hmost).2 _ hmem
  have hdepth' : d ≤ depth values conditions i := of_decide_eq_true hdepth
  rw [candidates,List.mem_reverse,List.mem_range'_1,hmost,Option.getD_some]
  omega

section Search
variable (present values items conditions)

def Searched (tried : List ℕ) (best : DepthSearch) : Prop :=
  (best = ⟨-1,0,items⟩ ∧ ∀ d ∈ tried, (keptAt present values items conditions d).length < 2) ∨
    best.nReps ∈ tried ∧ best.kept = keptAt present values items conditions best.nReps ∧ 2 ≤ best.kept.length ∧
      best.bestScore = (best.kept.length * best.nReps : ℕ) ∧ ∀ d ∈ tried, 2 ≤ (keptAt present values items conditions d).length →
        (keptAt present values items conditions d).length * d ≤ best.kept.length * best.nReps

variable {present values items conditions}

omit [LinearOrder K] in
theorem Searched.attempt {tried : List ℕ} {best : DepthSearch} (h : Searched present values items conditions tried best) (d : ℕ) :
    Searched present values items conditions (tried ++ [d]) (attempt present values items conditions best d) := by
  have hsplit (P : ℕ → Prop) (htried : ∀ e ∈ tried, P e) (hd : P d) : ∀ e ∈ tried ++ [d], P e := by
    intro e he
    obtain he | he := List.mem_append.mp he
    · exact htried e he
    · exact List.mem_singleton.mp he ▸ hd
  rw [Gauge.attempt]
  split
  · next hfew =>
    obtain ⟨hbest,htried⟩ | ⟨hmem,hkept,htwo,hscore,htried⟩ := h
    · exact .inl ⟨hbest,hsplit _ htried hfew⟩
    · exact .inr ⟨List.mem_append_left _ hmem,hkept,htwo,hscore,hsplit _ htried fun hmany => absurd hfew (not_lt.mpr hmany)⟩
  · next hmany =>
    split
    · next hbetter =>
      refine .inr ⟨by simp,rfl,not_lt.mp hmany,rfl,hsplit _ ?_ fun _ => le_rfl⟩
      intro e he htwo
      obtain ⟨-,htried⟩ | ⟨-,-,-,hscore,htried⟩ := h
      · exact absurd (htried e he) (not_lt.mpr htwo)
      · rw [hscore] at hbetter
        exact (htried e he htwo).trans (by exact_mod_cast hbetter.le)
    · next hworse =>
      obtain ⟨rfl,-⟩ | ⟨hmem,hkept,htwo,hscore,htried⟩ := h
      · exact absurd (lt_of_lt_of_le (show (-1 : ℤ) < 0 by decide) (Int.natCast_nonneg _)) hworse
      · refine .inr ⟨List.mem_append_left _ hmem,hkept,htwo,hscore,hsplit _ htried fun _ => ?_⟩
        rw [hscore] at hworse
        exact_mod_cast not_lt.mp hworse

omit [LinearOrder K] in
theorem Searched.run {tried : List ℕ} {best : DepthSearch} (h : Searched present values items conditions tried best)
    (depths : List ℕ) : Searched present values items conditions (tried ++ depths)
      (depths.foldl (Gauge.attempt present values items conditions) best) := by
  induction depths generalizing tried best with
  | nil => simpa using h
  | cons d depths ih => simpa using ih (h.attempt d)

omit [LinearOrder K] in
theorem depthSearch_searched :
    Searched present values items conditions (candidates present values items conditions)
      (depthSearch present values items conditions) := by
  have hstart : Searched present values items conditions [] ⟨-1,0,items⟩ := .inl ⟨rfl,by simp⟩
  exact hstart.run _

theorem depthSearch_deepest (h : 2 ≤ (depthSearch present values items conditions).nReps) :
    (depthSearch present values items conditions).kept =
        keptAt present values items conditions (depthSearch present values items conditions).nReps ∧
      ∀ d, 2 ≤ d → 2 ≤ (keptAt present values items conditions d).length →
        (keptAt present values items conditions d).length * d ≤
          (depthSearch present values items conditions).kept.length * (depthSearch present values items conditions).nReps := by
  obtain ⟨hbest,-⟩ | ⟨-,hkept,-,-,htried⟩ := @depthSearch_searched K present values items conditions
  · rw [hbest] at h
    exact absurd h (by simp)
  · refine ⟨hkept,fun d hd htwo => ?_⟩
    by_cases hmem : d ∈ candidates present values items conditions
    · exact htried d hmem htwo
    · rw [keptAt_deep hd hmem] at htwo
      exact absurd htwo (by decide)

theorem depthSearch_kept : (depthSearch present values items conditions).kept.Sublist items := by
  obtain ⟨hbest,-⟩ | ⟨-,hkept,-⟩ := @depthSearch_searched K present values items conditions
  · rw [hbest]
  · rw [hkept]
    exact List.filter_sublist

end Search

end Crossing

section Design
variable [Field K]

theorem varianceComponents_crossed {items : List String} {conditions : List (List (FacetValue K))} {n : ℕ} {values : Key K → List K}
    (hitems : items.Nodup) (hconditions : conditions.Nodup) (htwo : 2 ≤ items.length) (htwo' : 2 ≤ conditions.length) (hn : 2 ≤ n)
    (h : ∀ key ∈ items ×ˢ conditions, (values key).length = n) :
    ∃ vc, varianceComponents ((items ×ˢ conditions).map fun key => (key,values key)) = .ok vc := by
  obtain ⟨i,hi⟩ := List.exists_mem_of_length_pos (l := items) (by omega)
  obtain ⟨c,hc⟩ := List.exists_mem_of_length_pos (l := conditions) (by omega)
  have hrows : (matrixItems ((items ×ˢ conditions).map fun key => (key,values key))).length = items.length := by
    rw [matrixItems,sortedItems,Finset.length_sort,← List.toFinset_card_of_nodup hitems]
    congr 1
    ext j
    simp only [List.map_map,List.mem_toFinset,List.mem_map,List.mem_product,Function.comp_apply,Prod.exists]
    exact ⟨fun ⟨_,_,⟨hj,_⟩,he⟩ => he ▸ hj,fun hj => ⟨j,c,⟨hj,hc⟩,rfl⟩⟩
  have hcolumns : (matrixConditions ((items ×ˢ conditions).map fun key => (key,values key))).length = conditions.length := by
    rw [matrixConditions,sortedConditions,Finset.length_sort,← List.toFinset_card_of_nodup hconditions]
    congr 1
    ext d
    simp only [List.map_map,List.mem_toFinset,List.mem_map,List.mem_product,Function.comp_apply,Prod.exists]
    exact ⟨fun ⟨_,_,⟨_,hd⟩,he⟩ => he ▸ hd,fun hd => ⟨i,d,⟨hi,hd⟩,rfl⟩⟩
  have hcounts : repCounts ((items ×ˢ conditions).map fun key => (key,values key)) = [n] := by
    rw [repCounts,← Finset.sort_singleton (r := (· ≤ ·)) n]
    congr 1
    ext d
    simp only [List.map_map,List.mem_toFinset,List.mem_map,Function.comp_apply,Finset.mem_singleton]
    constructor
    · rintro ⟨key,hkey,rfl⟩
      exact h key hkey
    · rintro rfl
      exact ⟨(i,c),List.mem_product.mpr ⟨hi,hc⟩,h _ (List.mem_product.mpr ⟨hi,hc⟩)⟩
  have hsome : ((items ×ˢ conditions).map fun key => (key,values key)).isEmpty = false := by
    rw [List.isEmpty_eq_false_iff]
    exact List.ne_nil_of_mem (List.mem_map_of_mem (List.mem_product.mpr ⟨hi,hc⟩))
  have hcells : ((items ×ˢ conditions).map fun key => (key,values key)).length = items.length * conditions.length := by
    rw [List.length_map,List.length_product]
  rw [varianceComponents,hsome,hcounts]
  simp only [hrows,hcolumns,hcells,Bool.false_eq_true,if_false,ne_eq,not_true_eq_false]
  rw [if_neg (by omega),if_neg (by omega)]
  exact ⟨_,rfl⟩

section Balance
variable (present : Key K → Bool) (values : Key K → List K) (items : Finset String)
  (conditions : Finset (List (FacetValue K))) (failures : K)

def survivors : List String × List (List (FacetValue K)) := eliminate present (sortedItems items) (sortedConditions conditions)

variable {present values items conditions failures}

theorem balance_items_sublist : (balance present values items conditions failures).items.Sublist (survivors present items conditions).1 :=
  depthSearch_kept

theorem balance_items_nodup : (balance present values items conditions failures).items.Nodup :=
  (Finset.sort_nodup _ _).sublist (balance_items_sublist.trans (eliminate_sublist _ _).1)

theorem balance_conditions_nodup : (balance present values items conditions failures).conditions.Nodup :=
  (Finset.sort_nodup _ _).sublist (eliminate_sublist _ _).2

theorem balance_deepest (h : (balance present values items conditions failures).usable) :
    (balance present values items conditions failures).items =
        keptAt present values (survivors present items conditions).1 (survivors present items conditions).2
          (balance present values items conditions failures).nReps ∧
      ∀ d, 2 ≤ d → 2 ≤ (keptAt present values (survivors present items conditions).1 (survivors present items conditions).2 d).length →
        (keptAt present values (survivors present items conditions).1 (survivors present items conditions).2 d).length * d ≤
          (balance present values items conditions failures).items.length * (balance present values items conditions failures).nReps :=
  depthSearch_deepest h.2.2

theorem balance_crossed (h : (balance present values items conditions failures).usable) :
    ∀ i ∈ (survivors present items conditions).1, ∀ c ∈ (survivors present items conditions).2, present (i,c) = true :=
  eliminate_crossed _ _ (h.1.trans balance_items_sublist.length_le) h.2.1

theorem conditions_ne_nil (h : (balance present values items conditions failures).usable) :
    (survivors present items conditions).2 ≠ [] := by
  intro hnil
  have htwo : 2 ≤ (survivors present items conditions).2.length := h.2.1
  rw [hnil] at htwo
  exact absurd htwo (by simp)

theorem balance_deep (h : (balance present values items conditions failures).usable) {i : String}
    (hi : i ∈ (balance present values items conditions failures).items) {c : List (FacetValue K)}
    (hc : c ∈ (balance present values items conditions failures).conditions) :
    present (i,c) = true ∧ (balance present values items conditions failures).nReps ≤ (values (i,c)).length := by
  rw [(balance_deepest h).1,mem_keptAt (conditions_ne_nil h)] at hi
  exact hi.2 c hc

theorem balance_cells (h : (balance present values items conditions failures).usable) :
    (balance present values items conditions failures).cells =
      ((balance present values items conditions failures).items ×ˢ
        (balance present values items conditions failures).conditions).map fun key =>
          (key,(values key).take (balance present values items conditions failures).nReps) := by
  rw [← List.filterMap_eq_map]
  refine List.filterMap_congr fun key hkey => ?_
  obtain ⟨hi,hc⟩ := List.mem_product.mp hkey
  exact if_pos (balance_deep h hi hc).1

theorem balance_accepted (h : (balance present values items conditions failures).usable) :
    ∃ vc, varianceComponents (balance present values items conditions failures).cells = .ok vc := by
  rw [balance_cells h]
  refine varianceComponents_crossed balance_items_nodup balance_conditions_nodup h.1 h.2.1 h.2.2 fun key hkey => ?_
  obtain ⟨hi,hc⟩ := List.mem_product.mp hkey
  rw [List.length_take]
  exact min_eq_left (balance_deep h hi hc).2

theorem balance_books_items {i : String} : i ∈ (balance present values items conditions failures).items ∨
    i ∈ (balance present values items conditions failures).droppedItems ↔ i ∈ items := by
  have hkept : i ∈ (balance present values items conditions failures).items → i ∈ (survivors present items conditions).1 :=
    fun hi => balance_items_sublist.subset hi
  have hleft : i ∈ (survivors present items conditions).1 → i ∈ items :=
    fun hi => (Finset.mem_sort _).mp ((eliminate_sublist _ _).1.subset hi)
  change _ ∨ i ∈ sortedItems ((items \ (survivors present items conditions).1.toFinset) ∪
    ((survivors present items conditions).1.toFinset \ (balance present values items conditions failures).items.toFinset)) ↔ _
  simp only [sortedItems,Finset.mem_sort,Finset.mem_union,Finset.mem_sdiff,List.mem_toFinset]
  tauto

theorem balance_books_conditions {c : List (FacetValue K)} :
    c ∈ (balance present values items conditions failures).conditions ∨
      c ∈ (balance present values items conditions failures).droppedConditions ↔ c ∈ conditions := by
  have hleft : c ∈ (survivors present items conditions).2 → c ∈ conditions :=
    fun hc => (Finset.mem_sort _).mp ((eliminate_sublist _ _).2.subset hc)
  change c ∈ (survivors present items conditions).2 ∨ c ∈ sortedConditions (conditions \ (survivors present items conditions).2.toFinset) ↔ _
  simp only [sortedConditions,Finset.mem_sort,Finset.mem_sdiff,List.mem_toFinset]
  tauto

end Balance

section Responses
variable (facets : List Facet) (responses : List (Response K))

def matrixOf : BalancedMatrix K := (ResponseCube.ofResponses responses).balancedMatrix facets

def survivingCross : List String × List (List (FacetValue K)) :=
  survivors (fun key => decide (Occupied facets responses key)) (ResponseCube.ofResponses responses).parsedItems
    ((ResponseCube.ofResponses responses).parsedConditions facets)

def survivorsAt (d : ℕ) : List String :=
  (survivingCross facets responses).1.filter fun i =>
    decide (∀ c ∈ (survivingCross facets responses).2, d ≤ (valuesAt facets responses (i,c)).length)

structure BalancedDesign : Prop where
  orderFree : ∀ others : List (Response K), others.Perm responses → matrixOf facets others = matrixOf facets responses
  cells : (matrixOf facets responses).usable → (matrixOf facets responses).cells =
    ((matrixOf facets responses).items ×ˢ (matrixOf facets responses).conditions).map fun key =>
      (key,(valuesAt facets responses key).take (matrixOf facets responses).nReps)
  deep : (matrixOf facets responses).usable → ∀ i ∈ (matrixOf facets responses).items,
    ∀ c ∈ (matrixOf facets responses).conditions, (matrixOf facets responses).nReps ≤ (valuesAt facets responses (i,c)).length
  accepted : (matrixOf facets responses).usable → ∃ vc, varianceComponents (matrixOf facets responses).cells = .ok vc
  kept : (matrixOf facets responses).usable →
    (matrixOf facets responses).items = survivorsAt facets responses (matrixOf facets responses).nReps
  deepest : (matrixOf facets responses).usable → ∀ d, 2 ≤ d → 2 ≤ (survivorsAt facets responses d).length →
    (survivorsAt facets responses d).length * d ≤ (matrixOf facets responses).items.length * (matrixOf facets responses).nReps
  bookedItems : ∀ r ∈ responses, r.itemId ∈ (matrixOf facets responses).items ∨ r.itemId ∈ (matrixOf facets responses).droppedItems
  bookedConditions : ∀ r ∈ responses, r.condition facets ∈ (matrixOf facets responses).conditions ∨
    r.condition facets ∈ (matrixOf facets responses).droppedConditions

def Answered : Prop := ∀ r ∈ responses,
  (∃ s ∈ responses, s.itemId = r.itemId ∧ s.reading.isSome = true) ∧
    ∃ s ∈ responses, s.condition facets = r.condition facets ∧ s.reading.isSome = true

variable {facets responses}

theorem matrixOf_eq : matrixOf facets responses =
    balance (fun key => decide (Occupied facets responses key)) (valuesAt facets responses)
      (ResponseCube.ofResponses responses).parsedItems ((ResponseCube.ofResponses responses).parsedConditions facets)
      (ResponseCube.ofResponses responses).parseFailureRate := by
  rw [matrixOf,ResponseCube.balancedMatrix_eq,funext (valuesAt_perm ResponseCube.rows_perm)]
  simp only [occupied_perm ResponseCube.rows_perm]

theorem survivorsAt_eq (h : (matrixOf facets responses).usable) (d : ℕ) : survivorsAt facets responses d =
    keptAt (fun key => decide (Occupied facets responses key)) (valuesAt facets responses) (survivingCross facets responses).1
      (survivingCross facets responses).2 d := by
  rw [matrixOf_eq] at h
  have hne := conditions_ne_nil h
  refine List.filter_congr fun i hi => Bool.eq_iff_iff.mpr ?_
  have hcross := balance_crossed h i hi
  simp only [full,Bool.and_eq_true,List.all_eq_true,decide_eq_true_eq]
  constructor
  · exact fun hdeep => ⟨fun c hc => of_decide_eq_true (hcross c hc),le_depth hne hdeep⟩
  · exact fun hdeep c hc => hdeep.2.trans (depth_le hc i)

theorem mem_ofResponses {r : Response K} : r ∈ (ResponseCube.ofResponses responses).rows ↔ r ∈ responses :=
  ResponseCube.rows_perm.mem_iff

theorem booked_items {i : String} : i ∈ (matrixOf facets responses).items ∨ i ∈ (matrixOf facets responses).droppedItems ↔
    ∃ s ∈ responses, s.itemId = i ∧ s.reading.isSome = true := by
  rw [matrixOf_eq,balance_books_items,ResponseCube.mem_parsedItems]
  simp only [mem_ofResponses]

theorem booked_conditions {c : List (FacetValue K)} :
    c ∈ (matrixOf facets responses).conditions ∨ c ∈ (matrixOf facets responses).droppedConditions ↔
      ∃ s ∈ responses, s.condition facets = c ∧ s.reading.isSome = true := by
  rw [matrixOf_eq,balance_books_conditions,ResponseCube.mem_parsedConditions]
  simp only [mem_ofResponses]

theorem balanced_design_iff : BalancedDesign facets responses ↔ Answered facets responses := by
  constructor
  · intro h r hr
    exact ⟨booked_items.mp (h.bookedItems r hr),booked_conditions.mp (h.bookedConditions r hr)⟩
  · intro h
    constructor
    · exact fun others hothers => ResponseCube.balancedMatrix_perm hothers
    · intro hu
      rw [matrixOf_eq] at hu ⊢
      exact balance_cells hu
    · intro hu
      rw [matrixOf_eq] at hu ⊢
      exact fun i hi c hc => (balance_deep hu hi hc).2
    · intro hu
      rw [matrixOf_eq] at hu ⊢
      exact balance_accepted hu
    · intro hu
      rw [survivorsAt_eq hu]
      rw [matrixOf_eq] at hu ⊢
      exact (balance_deepest hu).1
    · intro hu d hd
      rw [survivorsAt_eq hu]
      rw [matrixOf_eq] at hu ⊢
      exact (balance_deepest hu).2 d hd
    · exact fun r hr => booked_items.mpr (h r hr).1
    · exact fun r hr => booked_conditions.mpr (h r hr).2

end Responses

def unreadReply : Response ℚ := ⟨"item-1","m","w1","s1","p","base",0,0,"no idea",none,false⟩

theorem unread_item_unbooked : ¬BalancedDesign conditionFacets [unreadReply] := by
  intro h
  obtain ⟨s,hs,-,hread⟩ := booked_items.mp (h.bookedItems unreadReply (List.mem_singleton_self _))
  obtain rfl := List.mem_singleton.mp hs
  exact absurd hread (by decide)

end Design

end PneumaLab.Gauge
