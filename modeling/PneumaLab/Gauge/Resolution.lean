import PneumaLab.Gauge.Balance

namespace PneumaLab.Gauge

open InvertedIndex

variable {K : Type}

def evens : List K → List K
  | [] => []
  | [x] => [x]
  | x :: _ :: rest => x :: evens rest

def odds : List K → List K
  | [] => []
  | [_] => []
  | _ :: y :: rest => y :: odds rest

def passes (values : List K) : List K × List K := (evens values,odds values)

def itemPairs : List String → List (String × String)
  | [] => []
  | a :: rest => rest.map (fun b => (a,b)) ++ itemPairs rest

variable [Field K] [LinearOrder K]

def sign (x : K) : ℤ := if 0 < x then 1 else if x < 0 then -1 else 0

def cellSigns (va vb : List K) : List (ℤ × ℤ) :=
  ((passes va).1.zip (passes vb).1).flatMap fun first =>
    ((passes va).2.zip (passes vb).2).map fun second => (sign (first.1 - first.2),sign (second.1 - second.2))

def comparisons (cells : List (Key K × List K)) : List (ℤ × ℤ) :=
  (itemPairs (matrixItems cells)).flatMap fun items =>
    (matrixConditions cells).flatMap fun cond => cellSigns (entry [] cells (items.1,cond)) (entry [] cells (items.2,cond))

def agreement (signs : ℤ × ℤ) : K := if signs.1 = 0 ∨ signs.2 = 0 then 1 / (2 : ℕ) else if signs.1 = signs.2 then 1 else 0

def agreesBeyondTies (signs : ℤ × ℤ) : Bool := signs.1 ≠ 0 ∧ signs.2 ≠ 0 ∧ signs.1 = signs.2

-- none stands for the pair of NaNs
def pairStats (cells : List (Key K × List K)) : Option (K × K) :=
  if (matrixItems cells).length < 2 ∨ comparisons cells = [] then none
  else some (((comparisons cells).map agreement).sum / (comparisons cells).length,
    ((comparisons cells).countP agreesBeyondTies : K) / (comparisons cells).length)

def discriminationIndex (cells : List (Key K × List K)) : Option K := (pairStats cells).map Prod.fst

def resolvingPower (cells : List (Key K × List K)) : Option K := (pairStats cells).map Prod.snd

def mapCells (g : K → K) (cells : List (Key K × List K)) : List (Key K × List K) :=
  cells.map fun cell => (cell.1,cell.2.map g)

def BalancedMatrix.mapEntries (g : K → K) (m : BalancedMatrix K) : BalancedMatrix K := { m with cells := mapCells g m.cells }

section Readings
variable {g : K → K}

def mapValue (g : K → K) (r : Response K) : Response K := { r with value := r.value.map g }

def mapReading (g : K → K) (reading : ℤ ×ₗ K) : ℤ ×ₗ K := toLex ((ofLex reading).1,g (ofLex reading).2)

omit [Field K] in
theorem mapReading_mono (hg : Monotone g) : Monotone (mapReading g) := by
  intro a b hab
  obtain hlt | ⟨heq,hle⟩ := Prod.Lex.le_iff.mp hab
  · exact Prod.Lex.toLex_le_toLex.mpr (.inl hlt)
  · exact Prod.Lex.toLex_le_toLex.mpr (.inr ⟨heq,hg hle⟩)

omit [Field K] [LinearOrder K] in
theorem reading_mapValue (r : Response K) : (mapValue g r).reading = r.reading.map (mapReading g) := by
  rw [Response.reading,Response.reading,mapValue]
  split
  · cases r.value <;> rfl
  · rfl

omit [Field K] in
theorem inOrder_map (hg : Monotone g) (readings : List (ℤ ×ₗ K)) :
    ResponseCube.inOrder (readings.map (mapReading g)) = (ResponseCube.inOrder readings).map g := by
  have hsort : (readings.map (mapReading g)).mergeSort (· ≤ ·) = (readings.mergeSort (· ≤ ·)).map (mapReading g) := by
    refine List.Perm.eq_of_sortedLE List.sortedLE_mergeSort ?_ ?_
    · refine List.Pairwise.sortedLE ((List.sortedLE_mergeSort.pairwise).map _ fun a b hab => mapReading_mono hg hab)
    · exact (List.mergeSort_perm _ _).trans ((List.mergeSort_perm _ _).symm.map _)
  rw [ResponseCube.inOrder,hsort,ResponseCube.inOrder,List.map_map,List.map_map]
  rfl

omit [Field K] in
theorem readingsAt_map (facets : List Facet) (rows : List (Response K)) (key : Key K) :
    readingsAt facets (rows.map (mapValue g)) key = (readingsAt facets rows key).map (mapReading g) := by
  rw [readingsAt,readingsAt,List.filterMap_map,List.map_filterMap]
  refine List.filterMap_congr fun r _ => ?_
  rw [Function.comp_apply,reading_mapValue]
  change (if r.key facets = key then _ else _) = _
  split <;> rfl

variable (facets : List Facet) (cube : ResponseCube K)

theorem mapValues_rows : (cube.mapValues g).rows.Perm (cube.rows.map (mapValue g)) := ResponseCube.rows_perm

theorem valuesAt_mapValues (hg : Monotone g) (key : Key K) :
    valuesAt facets (cube.mapValues g).rows key = (valuesAt facets cube.rows key).map g := by
  rw [valuesAt_perm (mapValues_rows cube),valuesAt,readingsAt_map,inOrder_map hg,valuesAt]

theorem exists_mapValues (p : Response K → Prop) (hp : ∀ r, p (mapValue g r) ↔ p r) :
    (∃ r ∈ (cube.mapValues g).rows, p r) ↔ ∃ r ∈ cube.rows, p r := by
  simp only [(mapValues_rows cube).mem_iff,List.mem_map]
  constructor
  · rintro ⟨_,⟨r,hr,rfl⟩,h⟩
    exact ⟨r,hr,(hp r).mp h⟩
  · rintro ⟨r,hr,h⟩
    exact ⟨_,⟨r,hr,rfl⟩,(hp r).mpr h⟩

omit [Field K] [LinearOrder K] in
theorem isSome_mapValue (r : Response K) : (mapValue g r).reading.isSome = r.reading.isSome := by
  rw [reading_mapValue,Option.isSome_map]

theorem balance_map (present : Key K → Bool) (values : Key K → List K) (items : Finset String)
    (conditions : Finset (List (FacetValue K))) (failures : K) :
    balance present (fun key => (values key).map g) items conditions failures =
      (balance present values items conditions failures).mapEntries g := by
  have hdepth : depth (fun key => (values key).map g) = depth values := by
    funext conditions item
    simp only [depth,List.length_map]
  have hkept : keptAt present (fun key => (values key).map g) = keptAt present values := by
    funext items conditions candidate
    simp only [keptAt,hdepth]
  have hattempt : attempt present (fun key => (values key).map g) = attempt present values := by
    funext items conditions best candidate
    rw [attempt,attempt,hkept]
  have hsearch : depthSearch present (fun key => (values key).map g) = depthSearch present values := by
    funext items conditions
    simp only [depthSearch,candidates,hdepth,hattempt]
  simp only [balance,hsearch,BalancedMatrix.mapEntries,mapCells,List.map_filterMap]
  congr 1
  refine List.filterMap_congr fun key _ => ?_
  split
  · rw [Option.map_some,List.map_take]
  · rfl

theorem balancedMatrix_mapValues (hg : Monotone g) :
    (cube.mapValues g).balancedMatrix facets = (cube.balancedMatrix facets).mapEntries g := by
  have hitems : (cube.mapValues g).parsedItems = cube.parsedItems := by
    ext i
    rw [ResponseCube.mem_parsedItems,ResponseCube.mem_parsedItems]
    exact exists_mapValues cube _ fun r => by rw [isSome_mapValue]; rfl
  have hconditions : (cube.mapValues g).parsedConditions facets = cube.parsedConditions facets := by
    ext c
    rw [ResponseCube.mem_parsedConditions,ResponseCube.mem_parsedConditions]
    exact exists_mapValues cube _ fun r => by rw [isSome_mapValue]; rfl
  have hoccupied (key : Key K) : Occupied facets (cube.mapValues g).rows key ↔ Occupied facets cube.rows key :=
    exists_mapValues cube _ fun r => by rw [isSome_mapValue]; rfl
  have hfailures : (cube.mapValues g).parseFailureRate = cube.parseFailureRate := by
    have hcount : (cube.mapValues g).rows.countP (fun r => !r.parseOk) = cube.rows.countP fun r => !r.parseOk := by
      rw [(mapValues_rows cube).countP_eq,List.countP_map]
      rfl
    have hlength : (cube.mapValues g).rows.length = cube.rows.length := by
      rw [(mapValues_rows cube).length_eq,List.length_map]
    simp only [ResponseCube.parseFailureRate,hcount,hlength,← List.length_eq_zero_iff]
  rw [ResponseCube.balancedMatrix_eq,ResponseCube.balancedMatrix_eq,hitems,hconditions,hfailures,
    funext (valuesAt_mapValues facets cube hg),balance_map]
  simp only [hoccupied]

end Readings

section Signs
variable {g : K → K}

omit [Field K] [LinearOrder K] in
theorem evens_map (values : List K) : evens (values.map g) = (evens values).map g := by
  fun_induction evens values with
  | case1 => rfl
  | case2 => rfl
  | case3 x y rest ih => simp [evens,ih]

omit [Field K] [LinearOrder K] in
theorem odds_map (values : List K) : odds (values.map g) = (odds values).map g := by
  fun_induction odds values with
  | case1 => rfl
  | case2 => rfl
  | case3 x y rest ih => simp [odds,ih]

omit [Field K] [LinearOrder K] in
theorem evens_sublist (values : List K) : (evens values).Sublist values := by
  fun_induction evens values with
  | case1 => exact .refl _
  | case2 => exact .refl _
  | case3 x y rest ih => exact (ih.cons y).cons_cons x

omit [Field K] [LinearOrder K] in
theorem odds_sublist (values : List K) : (odds values).Sublist values := by
  fun_induction odds values with
  | case1 => exact .refl _
  | case2 x => exact .cons x .slnil
  | case3 x y rest ih => exact (ih.cons_cons y).cons x

variable [IsStrictOrderedRing K]

theorem sign_map (hg : Monotone g) (x y : K) : sign (g x - g y) = sign (x - y) ∨ sign (g x - g y) = 0 := by
  obtain hlt | rfl | hgt := lt_trichotomy x y
  · obtain hless | heq := (hg hlt.le).lt_or_eq
    · left
      simp [sign,hless.not_gt,hlt.not_gt,hless,hlt]
    · right
      simp [sign,heq]
  · simp
  · obtain hless | heq := (hg hgt.le).lt_or_eq
    · left
      simp [sign,hless,hgt]
    · right
      simp [sign,heq]

theorem sign_map_of_lt {x y : K} (hup : x < y → g x < g y) (hdown : y < x → g y < g x) : sign (g x - g y) = sign (x - y) := by
  obtain hlt | rfl | hgt := lt_trichotomy x y
  · simp [sign,(hup hlt).not_gt,hlt.not_gt,hup hlt,hlt]
  · simp
  · simp [sign,hdown hgt,hgt]

theorem forall₂_flatMap {A B C D : Type} {R : A → B → Prop} {S : C → D → Prop} {xs : List A} {ys : List B} {f : A → List C}
    {f' : B → List D} (h : List.Forall₂ R xs ys) (hf : ∀ x y, R x y → List.Forall₂ S (f x) (f' y)) :
    List.Forall₂ S (xs.flatMap f) (ys.flatMap f') := by
  induction h with
  | nil => exact .nil
  | cons hxy _ ih =>
    rw [List.flatMap_cons,List.flatMap_cons]
    exact List.rel_append (hf _ _ hxy) ih

omit [IsStrictOrderedRing K] in
theorem cellSigns_map {R : ℤ × ℤ → ℤ × ℤ → Prop} {va vb : List K}
    (h : ∀ x ∈ va, ∀ y ∈ vb, ∀ x' ∈ va, ∀ y' ∈ vb,
      R (sign (x - y),sign (x' - y')) (sign (g x - g y),sign (g x' - g y'))) :
    List.Forall₂ R (cellSigns va vb) (cellSigns (va.map g) (vb.map g)) := by
  have hself {A : Type} (f : A → A) (xs : List A) : List.Forall₂ (fun p q => p ∈ xs ∧ q = f p) xs (xs.map f) := by
    rw [List.forall₂_map_right_iff,List.forall₂_same]
    exact fun x hx => ⟨hx,rfl⟩
  have hfirst := hself (Prod.map g g) ((evens va).zip (evens vb))
  have hsecond := hself (Prod.map g g) ((odds va).zip (odds vb))
  rw [← List.zip_map] at hfirst hsecond
  rw [cellSigns,cellSigns,passes,passes,passes,passes,evens_map,evens_map,odds_map,odds_map]
  refine forall₂_flatMap hfirst ?_
  rintro ⟨x,y⟩ _ ⟨hxy,rfl⟩
  rw [List.forall₂_map_left_iff,List.forall₂_map_right_iff]
  refine hsecond.imp ?_
  rintro ⟨x',y'⟩ _ ⟨hxy',rfl⟩
  obtain ⟨hx,hy⟩ := List.of_mem_zip hxy
  obtain ⟨hx',hy'⟩ := List.of_mem_zip hxy'
  exact h x ((evens_sublist va).subset hx) y ((evens_sublist vb).subset hy) x' ((odds_sublist va).subset hx') y'
    ((odds_sublist vb).subset hy')

omit [Field K] [IsStrictOrderedRing K] in
theorem entry_mapCells (cells : List (Key K × List K)) (key : Key K) : entry [] (mapCells g cells) key = (entry [] cells key).map g :=
  entry_map (List.map g) [] cells key

omit [Field K] [LinearOrder K] [IsStrictOrderedRing K] in
theorem matrixItems_mapCells (cells : List (Key K × List K)) : matrixItems (mapCells g cells) = matrixItems cells := by
  rw [matrixItems,mapCells,List.map_map]
  rfl

omit [IsStrictOrderedRing K] in
theorem matrixConditions_mapCells (cells : List (Key K × List K)) : matrixConditions (mapCells g cells) = matrixConditions cells := by
  rw [matrixConditions,mapCells,List.map_map]
  rfl

omit [IsStrictOrderedRing K] in
theorem comparisons_map {R : ℤ × ℤ → ℤ × ℤ → Prop} {cells : List (Key K × List K)}
    (h : ∀ a b x y x' y', x ∈ entry [] cells a → y ∈ entry [] cells b → x' ∈ entry [] cells a → y' ∈ entry [] cells b →
      R (sign (x - y),sign (x' - y')) (sign (g x - g y),sign (g x' - g y'))) :
    List.Forall₂ R (comparisons cells) (comparisons (mapCells g cells)) := by
  have hsame {A : Type} (xs : List A) : List.Forall₂ Eq xs xs := List.forall₂_same.mpr fun _ _ => rfl
  rw [comparisons,comparisons,matrixItems_mapCells,matrixConditions_mapCells]
  refine forall₂_flatMap (hsame _) ?_
  rintro items _ rfl
  refine forall₂_flatMap (hsame _) ?_
  rintro cond _ rfl
  rw [entry_mapCells,entry_mapCells]
  exact cellSigns_map fun x hx y hy x' hx' y' hy' => h _ _ x y x' y' hx hy hx' hy'

omit [Field K] [IsStrictOrderedRing K] in
theorem mem_entry {cells : List (Key K × List K)} {key : Key K} {x : K} (h : x ∈ entry [] cells key) :
    ∃ cell ∈ cells, x ∈ cell.2 := by
  induction cells with
  | nil => cases h
  | cons cell cells ih =>
    rw [entry] at h
    split at h
    · exact ⟨cell,List.mem_cons_self,h⟩
    · obtain ⟨cell',hcell,hx⟩ := ih h
      exact ⟨cell',List.mem_cons_of_mem _ hcell,hx⟩

theorem pairStats_map {cells : List (Key K × List K)} (hg : StrictMonoOn g {x | ∃ cell ∈ cells, x ∈ cell.2}) :
    pairStats (mapCells g cells) = pairStats cells := by
  have hequal : List.Forall₂ Eq (comparisons cells) (comparisons (mapCells g cells)) := by
    refine comparisons_map fun a b x y x' y' hx hy hx' hy' => ?_
    rw [sign_map_of_lt (hg (mem_entry hx) (mem_entry hy)) (hg (mem_entry hy) (mem_entry hx)),
      sign_map_of_lt (hg (mem_entry hx') (mem_entry hy')) (hg (mem_entry hy') (mem_entry hx'))]
  rw [List.forall₂_eq_eq_eq] at hequal
  rw [pairStats,pairStats,matrixItems_mapCells,← hequal]

theorem countP_tied {before after : List (ℤ × ℤ)}
    (h : List.Forall₂ (fun b a : ℤ × ℤ => (a.1 = b.1 ∨ a.1 = 0) ∧ (a.2 = b.2 ∨ a.2 = 0)) before after) :
    after.countP agreesBeyondTies ≤ before.countP agreesBeyondTies := by
  induction h with
  | nil => exact le_rfl
  | @cons b a before after hab _ ih =>
    rw [List.countP_cons,List.countP_cons]
    refine Nat.add_le_add ih ?_
    split
    · next ha =>
      simp only [agreesBeyondTies,decide_eq_true_eq] at ha
      have hb : agreesBeyondTies b = true := by
        simp only [agreesBeyondTies,decide_eq_true_eq]
        rw [← hab.1.resolve_right ha.1,← hab.2.resolve_right ha.2.1]
        exact ha
      rw [if_pos hb]
    · exact Nat.zero_le _

theorem resolvingPower_map {cells : List (Key K × List K)} (hg : Monotone g) :
    (resolvingPower (mapCells g cells) = none ∧ resolvingPower cells = none) ∨
      ∃ after before, resolvingPower (mapCells g cells) = some after ∧ resolvingPower cells = some before ∧ after ≤ before := by
  have htied : List.Forall₂ (fun b a : ℤ × ℤ => (a.1 = b.1 ∨ a.1 = 0) ∧ (a.2 = b.2 ∨ a.2 = 0))
      (comparisons cells) (comparisons (mapCells g cells)) :=
    comparisons_map fun a b x y x' y' _ _ _ _ => ⟨sign_map hg x y,sign_map hg x' y'⟩
  rw [resolvingPower,resolvingPower,pairStats,pairStats,matrixItems_mapCells]
  simp only [← List.length_eq_zero_iff,← htied.length_eq]
  split
  · exact .inl ⟨rfl,rfl⟩
  · refine .inr ⟨_,_,rfl,rfl,?_⟩
    exact div_le_div_of_nonneg_right (by exact_mod_cast countP_tied htied) (Nat.cast_nonneg _)

end Signs

end PneumaLab.Gauge
