import Mathlib
import PneumaLab.Exceptions
import PneumaLab.Library.Bytes
import PneumaLab.Library.GreedyFill
import PneumaLab.Library.InvertedIndex
import PneumaLab.Library.Rounding
import PneumaLab.Library.Keyed

namespace PneumaLab.Training
open InvertedIndex

inductive Split where
  | train
  | validation
  | test
  deriving DecidableEq, Repr

def splits : List Split := [.train,.validation,.test]

theorem splits_nodup : splits.Nodup := by decide

theorem mem_splits (split : Split) : split ∈ splits := by
  cases split <;> decide

instance : Fintype Split := ⟨⟨splits,splits_nodup⟩,mem_splits⟩

def Split.index : Split → ℕ
  | .train => 0
  | .validation => 1
  | .test => 2

inductive TaskId where
  | absent
  | text (value : String)
  | other
  deriving DecidableEq

structure Example where
  exampleId : String
  repo : Option String
  taskId : TaskId
  resolved : Option Bool

structure Ratios where
  train : ℚ
  validation : ℚ
  test : ℚ

def Ratios.Nonneg (ratios : Ratios) : Prop := 0 ≤ ratios.train ∧ 0 ≤ ratios.validation ∧ 0 ≤ ratios.test

def Ratios.Valid (ratios : Ratios) : Prop :=
  ratios.Nonneg ∧ ratios.train + ratios.validation + ratios.test = 1

section Groups

def requiredSplitGroup (row : Example) : Py (String × Option String) := do
  let repo ← required (.valueError ("example " ++ row.exampleId ++ " is missing split_group.repo")) row.repo
  demand (decide (repo ≠ "")) (.valueError ("example " ++ row.exampleId ++ " is missing split_group.repo"))
  match row.taskId with
  | .absent => return (repo,none)
  | .text value => return (repo,some value)
  | .other => .error (.valueError ("example " ++ row.exampleId ++ " has non-string task_id"))

def isResolved (row : Example) : Py Bool :=
  required (.valueError ("example " ++ row.exampleId ++ " is missing boolean target.resolved")) row.resolved

abbrev Groups := List (String × List Example)

def groupExamples (examples : List Example) : Py Groups := do
  let placed ← examples.mapM fun row => do
    return ((← requiredSplitGroup row).1,row)
  let groups := buckets (fun row => [row.1]) placed
  let ordered := groups.map fun group =>
    (group.1,(group.2.map Prod.snd).insertionSort fun left right => left.exampleId ≤ right.exampleId)
  return ordered.insertionSort fun left right => left.1 ≤ right.1

end Groups

section Assigning
variable (sha256 : Bytes → String) (datasetId : String)

def groupOrderKey (repo : String) : String := sha256 (utf8 (datasetId ++ "|repo|" ++ repo))

-- total * ratio: the int becomes a double and so does the product.
def product (total : ℕ) (ratio : ℚ) : ℚ := Rounding.nearest (Rounding.nearest total * ratio)

def targetCounts (total : ℕ) (ratios : Ratios) : Split → ℤ :=
  let trainTarget := Rounding.halfEven (product total ratios.train)
  let validationTarget := Rounding.halfEven (product total ratios.validation)
  fun
    | .train => trainTarget
    | .validation => validationTarget
    | .test => total - trainTarget - validationTarget

def totalOf (groups : Groups) : ℕ := (groups.map fun group => group.2.length).sum

abbrev SplitKey := ℤ ×ₗ ℤ ×ₗ ℕ

def splitKey (counts targets : Split → ℤ) (size : ℤ) (split : Split) : SplitKey :=
  toLex (counts split + size - targets split,toLex (|(counts split + size) - targets split|,split.index))

-- min returns the first of the least.
def bestSplit (counts targets : Split → ℤ) (size : ℤ) : Split :=
  [Split.validation,Split.test].foldl (fun best split =>
    if splitKey counts targets size split < splitKey counts targets size best then split else best) .train

structure Placing where
  counts : Split → ℤ
  assignments : List (String × Split)

def assignGroup (targets : Split → ℤ) (placing : Placing) (group : String × List Example) : Placing :=
  let best := bestSplit placing.counts targets group.2.length
  ⟨GreedyFill.place placing.counts best group.2.length,placing.assignments ++ [(group.1,best)]⟩

def orderedGroups (groups : Groups) : Groups :=
  groups.insertionSort fun left right =>
    groupOrderKey sha256 datasetId left.1 < groupOrderKey sha256 datasetId right.1 ∨
      groupOrderKey sha256 datasetId left.1 = groupOrderKey sha256 datasetId right.1 ∧ left.1 ≤ right.1

def placeGroups (groups : Groups) (ratios : Ratios) : Placing :=
  (orderedGroups sha256 datasetId groups).foldl (assignGroup (targetCounts (totalOf groups) ratios)) ⟨fun _ => 0,[]⟩

def assignGroups (groups : Groups) (ratios : Ratios) : List (String × Split) :=
  (placeGroups sha256 datasetId groups ratios).assignments

end Assigning

section Artifacts
variable (sha256 : Bytes → String) (datasetId : String)

structure Assignment where
  exampleId : String
  split : Split
  repo : String
  taskId : Option String
  resolved : Bool

structure SplitArtifacts where
  assignments : List Assignment
  splitExamples : Split → ℕ
  targets : Split → ℤ
  repoGroups : ℕ
  assignedOnce : Bool

def assignmentRows (groups : Groups) (repoAssignments : List (String × Split)) : Py (List Assignment) :=
  (groups.flatMap fun group => group.2.map fun row => (group.1,row)).mapM fun (repo,row) => do
    let split ← required (.keyError repo) ((repoAssignments.find? fun pair => pair.1 = repo).map Prod.snd)
    let placed ← requiredSplitGroup row
    return ⟨row.exampleId,split,repo,placed.2,← isResolved row⟩

def artifactsOf (groups : Groups) (rows : List Assignment) (ratios : Ratios) : SplitArtifacts :=
  let assignments := rows.insertionSort fun left right => left.exampleId ≤ right.exampleId
  { assignments
    splitExamples := fun split => (assignments.filter fun row => row.split = split).length
    targets := targetCounts assignments.length ratios
    repoGroups := groups.length
    assignedOnce := decide ((assignments.map Assignment.exampleId).dedup.length = assignments.length) }

def buildSplitArtifacts (examples : List Example) (policy : String) (ratios : Ratios) : Py SplitArtifacts := do
  demand (decide (policy = "repo_grouped")) (.valueError ("unsupported split policy: " ++ policy))
  let groups ← groupExamples examples
  let rows ← assignmentRows groups (assignGroups sha256 datasetId groups ratios)
  return artifactsOf groups rows ratios

end Artifacts

section Targets

theorem nearest_nonneg {q : ℚ} (h : 0 ≤ q) : 0 ≤ Rounding.nearest q := by
  rw [Rounding.nearest_of_nonneg h]
  exact Rounding.double_nonneg h

theorem product_nonneg (total : ℕ) {ratio : ℚ} (h : 0 ≤ ratio) : 0 ≤ product total ratio :=
  nearest_nonneg (mul_nonneg (nearest_nonneg (Nat.cast_nonneg total)) h)

theorem halfEven_nonneg {q : ℚ} (h : 0 ≤ q) : 0 ≤ Rounding.halfEven q :=
  (Int.floor_nonneg.mpr h).trans (Rounding.floor_le_halfEven q)

def GoesUp (q : ℚ) : Prop := 1 / 2 < Int.fract q ∨ Int.fract q = 1 / 2 ∧ ⌊q⌋ % 2 = 1

instance : DecidablePred GoesUp := fun _ => inferInstanceAs (Decidable (_ ∨ _))

theorem halfEven_of_goesUp {q : ℚ} (h : GoesUp q) : Rounding.halfEven q = ⌊q⌋ + 1 ∧ 1 / 2 ≤ Int.fract q := by
  rw [Rounding.halfEven,Int.self_sub_floor]
  obtain hup | ⟨htie,hodd⟩ := h
  · exact ⟨by rw [if_neg (not_lt.mpr hup.le),if_pos hup],hup.le⟩
  · exact ⟨by rw [if_neg htie.not_lt,if_neg htie.not_gt,if_neg (by omega)],htie.ge⟩

theorem halfEven_of_not_goesUp {q : ℚ} (h : ¬ GoesUp q) : Rounding.halfEven q = ⌊q⌋ ∧ Int.fract q ≤ 1 / 2 := by
  rw [Rounding.halfEven,Int.self_sub_floor]
  obtain ⟨hup,htie⟩ := not_or.mp h
  refine ⟨?_,not_lt.mp hup⟩
  obtain hlow | heq := (not_lt.mp hup).lt_or_eq
  · rw [if_pos hlow]
  · have heven : ⌊q⌋ % 2 = 0 := by
      have hnot : ¬ ⌊q⌋ % 2 = 1 := fun hodd => htie ⟨heq,hodd⟩
      omega
    rw [if_neg heq.not_lt,if_neg heq.not_gt,if_pos heven]

def Overfull (total : ℕ) (ratios : Ratios) : Prop :=
  let train := product total ratios.train
  let validation := product total ratios.validation
  (GoesUp train ∧ GoesUp validation ∧ (total : ℚ) ≤ train + validation) ∨
    (¬ (GoesUp train ↔ GoesUp validation) ∧ (total : ℚ) + 1 / 2 ≤ train + validation) ∨
      (¬ GoesUp train ∧ ¬ GoesUp validation ∧ (total : ℤ) < ⌊train⌋ + ⌊validation⌋)

instance (total : ℕ) (ratios : Ratios) : Decidable (Overfull total ratios) := inferInstanceAs (Decidable (_ ∨ _))

variable {total : ℕ} {ratios : Ratios}

theorem sum_targetCounts (total : ℕ) (ratios : Ratios) : ∑ split, targetCounts total ratios split = total := by
  have hsum : ∑ split, targetCounts total ratios split = targetCounts total ratios .train +
      (targetCounts total ratios .validation + (targetCounts total ratios .test + 0)) := rfl
  rw [hsum]
  simp only [targetCounts]
  omega

theorem both_up {train validation : ℚ} (htrain : GoesUp train) (hvalidation : GoesUp validation) :
    (total : ℤ) < Rounding.halfEven train + Rounding.halfEven validation ↔ (total : ℚ) ≤ train + validation := by
  obtain ⟨hleft,hhalf⟩ := halfEven_of_goesUp htrain
  obtain ⟨hright,hhalf'⟩ := halfEven_of_goesUp hvalidation
  have hlt := Int.fract_lt_one train
  have hlt' := Int.fract_lt_one validation
  have hself := Int.floor_add_fract train
  have hself' := Int.floor_add_fract validation
  rw [hleft,hright]
  constructor
  · intro h
    have hcast : (total : ℚ) ≤ ⌊train⌋ + ⌊validation⌋ + 1 := by exact_mod_cast (by omega : (total : ℤ) ≤ ⌊train⌋ + ⌊validation⌋ + 1)
    linarith
  · intro h
    have hcast : (total : ℚ) < ((⌊train⌋ + 1 + (⌊validation⌋ + 1) : ℤ) : ℚ) := by
      push_cast
      linarith
    exact_mod_cast hcast

theorem one_up {train validation : ℚ} (htrain : GoesUp train) (hvalidation : ¬ GoesUp validation) :
    (total : ℤ) < Rounding.halfEven train + Rounding.halfEven validation ↔ (total : ℚ) + 1 / 2 ≤ train + validation := by
  obtain ⟨hleft,hhalf⟩ := halfEven_of_goesUp htrain
  obtain ⟨hright,hhalf'⟩ := halfEven_of_not_goesUp hvalidation
  have hlt := Int.fract_lt_one train
  have hnonneg := Int.fract_nonneg validation
  have hself := Int.floor_add_fract train
  have hself' := Int.floor_add_fract validation
  rw [hleft,hright]
  constructor
  · intro h
    have hcast : (total : ℚ) ≤ ⌊train⌋ + ⌊validation⌋ := by exact_mod_cast (by omega : (total : ℤ) ≤ ⌊train⌋ + ⌊validation⌋)
    linarith
  · intro h
    have hcast : (total : ℚ) < ((⌊train⌋ + 1 + ⌊validation⌋ : ℤ) : ℚ) := by
      push_cast
      linarith
    exact_mod_cast hcast

theorem overfull_iff (total : ℕ) (ratios : Ratios) : Overfull total ratios ↔ targetCounts total ratios .test < 0 := by
  have htest : targetCounts total ratios .test < 0 ↔ (total : ℤ) <
      Rounding.halfEven (product total ratios.train) + Rounding.halfEven (product total ratios.validation) := by
    simp only [targetCounts]
    omega
  rw [htest,Overfull]
  by_cases htrain : GoesUp (product total ratios.train) <;>
    by_cases hvalidation : GoesUp (product total ratios.validation)
  · rw [both_up htrain hvalidation]
    simp [htrain,hvalidation]
  · rw [one_up htrain hvalidation]
    simp [htrain,hvalidation]
  · rw [add_comm (Rounding.halfEven _),one_up hvalidation htrain,add_comm (product total ratios.validation)]
    simp [htrain,hvalidation]
  · rw [(halfEven_of_not_goesUp htrain).1,(halfEven_of_not_goesUp hvalidation).1]
    simp [htrain,hvalidation]

theorem targets_nonneg_iff (h : ratios.Nonneg) :
    (∀ split, 0 ≤ targetCounts total ratios split) ↔ ¬ Overfull total ratios := by
  rw [overfull_iff,not_lt]
  refine ⟨fun hall => hall .test,fun htest split => ?_⟩
  cases split with
  | train => exact halfEven_nonneg (product_nonneg total h.1)
  | validation => exact halfEven_nonneg (product_nonneg total h.2.1)
  | test => exact htest

end Targets

section Greedy

theorem bestSplit_le (counts targets : Split → ℤ) (size : ℤ) (split : Split) :
    splitKey counts targets size (bestSplit counts targets size) ≤ splitKey counts targets size split := by
  have hfold : ∀ (others : List Split) (best : Split), (∀ s, s = best ∨ s ∈ others →
      splitKey counts targets size (others.foldl (fun best split =>
        if splitKey counts targets size split < splitKey counts targets size best then split else best) best) ≤
          splitKey counts targets size s) := by
    intro others
    induction others with
    | nil =>
      rintro best s (rfl | hs)
      · exact le_rfl
      · cases hs
    | cons other others ih =>
      intro best s hs
      rw [List.foldl_cons]
      by_cases hlt : splitKey counts targets size other < splitKey counts targets size best
      · rw [if_pos hlt]
        obtain rfl | hs := hs
        · exact (ih other other (.inl rfl)).trans hlt.le
        · exact ih other s (List.mem_cons.mp hs)
      · rw [if_neg hlt]
        obtain rfl | hs := hs
        · exact ih s s (.inl rfl)
        · obtain rfl | hs := List.mem_cons.mp hs
          · exact (ih best best (.inl rfl)).trans (not_lt.mp hlt)
          · exact ih best s (.inr hs)
  refine hfold _ _ split ?_
  cases split <;> simp

theorem room_le_best (counts targets : Split → ℤ) (size : ℤ) (split : Split) :
    targets split - counts split ≤ targets (bestSplit counts targets size) - counts (bestSplit counts targets size) := by
  have hle := bestSplit_le counts targets size split
  rw [splitKey,splitKey,Prod.Lex.toLex_le_toLex] at hle
  obtain hlt | ⟨heq,_⟩ := hle <;> omega

end Greedy

section Grouping

def repoOf (row : Example) : String := row.repo.getD ""

def Grouped (row : Example) : Prop := ∃ group, requiredSplitGroup row = .ok group

theorem requiredSplitGroup_repo {row : Example} {group : String × Option String} (h : requiredSplitGroup row = .ok group) :
    row.repo = some group.1 := by
  simp only [requiredSplitGroup,bind_eq_ok,demand_eq_ok,required_eq_ok] at h
  obtain ⟨repo,hrepo,_,_,h⟩ := h
  cases htask : row.taskId with
  | absent =>
    rw [htask] at h
    obtain rfl := Except.ok.inj h
    exact hrepo
  | text value =>
    rw [htask] at h
    obtain rfl := Except.ok.inj h
    exact hrepo
  | other =>
    rw [htask] at h
    cases h

theorem repoOf_group {row : Example} {group : String × Option String} (h : requiredSplitGroup row = .ok group) :
    repoOf row = group.1 := by rw [repoOf,requiredSplitGroup_repo h,Option.getD_some]

def sortedRows (examples : List Example) (repo : String) : List Example :=
  (examples.filter fun row => repoOf row = repo).insertionSort fun left right => left.exampleId ≤ right.exampleId

def sortedRepos (examples : List Example) : List String := (examples.map repoOf).dedup.insertionSort (· ≤ ·)

theorem bucket_rows (rows : List (String × Example)) (repo : String) :
    (rows.flatMap fun row => List.replicate ([row.1].count repo) row) = rows.filter fun row => row.1 = repo := by
  induction rows with
  | nil => rfl
  | cons row rows ih =>
    rw [List.flatMap_cons,ih,List.count_singleton]
    by_cases h : row.1 = repo
    · simp [h]
    · simp [h]

theorem groupExamples_ok {examples : List Example} (h : ∀ row ∈ examples, Grouped row) :
    groupExamples examples = .ok ((sortedRepos examples).map fun repo => (repo,sortedRows examples repo)) := by
  have hplaced : (examples.mapM fun row => do return ((← requiredSplitGroup row).1,row) : Py _) =
      .ok (examples.map fun row => (repoOf row,row)) := by
    refine mapM_eq_ok.mpr (List.forall₂_map_right_iff.mpr (List.forall₂_same.mpr fun row hrow => ?_))
    obtain ⟨group,hgroup⟩ := h row hrow
    rw [hgroup,ok_bind,repoOf_group hgroup]
    rfl
  have hkeys : ∀ repo, repo ∈ (buckets (fun row : String × Example => [row.1]) (examples.map fun row => (repoOf row,row))).map Prod.fst ↔
      repo ∈ (examples.map repoOf).dedup := by
    intro repo
    rw [mem_keys_buckets,List.mem_dedup,List.mem_map]
    constructor
    · rintro ⟨_,hrow,hrepo⟩
      obtain ⟨row,hmem,rfl⟩ := List.mem_map.mp hrow
      exact ⟨row,hmem,(List.mem_singleton.mp hrepo).symm⟩
    · rintro ⟨row,hmem,rfl⟩
      exact ⟨_,List.mem_map_of_mem hmem,List.mem_singleton_self _⟩
  have hperm : ((buckets (fun row : String × Example => [row.1]) (examples.map fun row => (repoOf row,row))).map Prod.fst).Perm
      (examples.map repoOf).dedup :=
    (List.perm_ext_iff_of_nodup (nodup_buckets _ _) (List.nodup_dedup _)).mpr hkeys
  have hgroups : ((buckets (fun row : String × Example => [row.1]) (examples.map fun row => (repoOf row,row))).map fun group =>
      (group.1,(group.2.map Prod.snd).insertionSort fun left right => left.exampleId ≤ right.exampleId)) =
      ((buckets (fun row : String × Example => [row.1]) (examples.map fun row => (repoOf row,row))).map Prod.fst).map
        fun repo => (repo,sortedRows examples repo) := by
    rw [List.map_map]
    refine List.map_congr_left ?_
    rintro ⟨repo,rows⟩ hmem
    obtain ⟨_,rfl⟩ := (mem_buckets _ _ _ _).mp hmem
    rw [bucket_rows,Function.comp_apply,List.filter_map,List.map_map]
    exact congrArg (fun rows => (repo,List.insertionSort _ rows)) (List.map_id _)
  have hsorted : (((buckets (fun row : String × Example => [row.1]) (examples.map fun row => (repoOf row,row))).map Prod.fst).map
      fun repo => (repo,sortedRows examples repo)).insertionSort (fun left right => left.1 ≤ right.1) =
      (sortedRepos examples).map fun repo => (repo,sortedRows examples repo) := by
    rw [← List.map_insertionSort (· ≤ ·) (fun left right : String × List Example => left.1 ≤ right.1)
      (fun repo => (repo,sortedRows examples repo)) _ fun _ _ _ _ => Iff.rfl,sortedRepos]
    congr 1
    exact ((List.perm_insertionSort _ _).trans (hperm.trans (List.perm_insertionSort _ _).symm)).eq_of_sortedLE
      List.sortedLE_insertionSort List.sortedLE_insertionSort
  rw [groupExamples,hplaced,ok_bind]
  exact congrArg Except.ok ((congrArg (List.insertionSort _) hgroups).trans hsorted)

theorem length_sortedRows (examples : List Example) (repo : String) :
    (sortedRows examples repo).length = (examples.map repoOf).count repo := by
  rw [sortedRows,List.length_insertionSort,List.count,List.countP_map,List.countP_eq_length_filter]
  rfl

end Grouping

section Blind
variable (sha256 : Bytes → String) (datasetId : String)

def sizesOf (groups : Groups) : List (String × ℕ) := groups.map fun group => (group.1,group.2.length)

def assignSize (targets : Split → ℤ) (placing : Placing) (group : String × ℕ) : Placing :=
  let best := bestSplit placing.counts targets group.2
  ⟨GreedyFill.place placing.counts best group.2,placing.assignments ++ [(group.1,best)]⟩

theorem assignGroups_sizes {groups others : Groups} (h : sizesOf groups = sizesOf others) (ratios : Ratios) :
    assignGroups sha256 datasetId groups ratios = assignGroups sha256 datasetId others ratios := by
  have htotal : ∀ groups, totalOf groups = ((sizesOf groups).map Prod.snd).sum := by
    intro groups
    rw [sizesOf,List.map_map]
    rfl
  have hordered : ∀ groups, sizesOf (orderedGroups sha256 datasetId groups) = (sizesOf groups).insertionSort fun left right =>
      groupOrderKey sha256 datasetId left.1 < groupOrderKey sha256 datasetId right.1 ∨
        groupOrderKey sha256 datasetId left.1 = groupOrderKey sha256 datasetId right.1 ∧ left.1 ≤ right.1 :=
    fun groups => List.map_insertionSort _ _ _ _ fun _ _ _ _ => Iff.rfl
  have hfold : ∀ targets groups placing, List.foldl (assignGroup targets) placing groups =
      (sizesOf groups).foldl (assignSize targets) placing := by
    intro targets groups placing
    rw [sizesOf,List.foldl_map]
    rfl
  rw [assignGroups,assignGroups,placeGroups,placeGroups,hfold,hfold,hordered,hordered,htotal,htotal,h]

theorem sizes_sorted (examples : List Example) :
    sizesOf ((sortedRepos examples).map fun repo => (repo,sortedRows examples repo)) =
      (sortedRepos examples).map fun repo => (repo,(examples.map repoOf).count repo) := by
  rw [sizesOf,List.map_map]
  exact List.map_congr_left fun repo _ => congrArg (Prod.mk repo) (length_sortedRows examples repo)

theorem sizes_perm {examples others : List Example} (h : (others.map repoOf).Perm (examples.map repoOf)) :
    sizesOf ((sortedRepos others).map fun repo => (repo,sortedRows others repo)) =
      sizesOf ((sortedRepos examples).map fun repo => (repo,sortedRows examples repo)) := by
  have hrepos : sortedRepos others = sortedRepos examples :=
    ((List.perm_insertionSort _ _).trans (h.dedup.trans (List.perm_insertionSort _ _).symm)).eq_of_sortedLE
      List.sortedLE_insertionSort List.sortedLE_insertionSort
  rw [sizes_sorted,sizes_sorted,hrepos]
  exact List.map_congr_left fun repo _ => congrArg (Prod.mk repo) (h.count_eq repo)

end Blind

section Placement
variable {examples : List Example} {targets : Split → ℤ}

def held (examples : List Example) (assignments : List (String × Split)) (split : Split) : ℕ :=
  examples.countP fun row => (repoOf row,split) ∈ assignments

structure Placed (examples : List Example) (targets : Split → ℤ) (largest remaining : ℤ) (placing : Placing) : Prop where
  counted : ∀ split, placing.counts split = held examples placing.assignments split
  within : GreedyFill.Within targets largest remaining placing.counts

theorem held_append (assignments : List (String × Split)) {repo : String} (hfresh : repo ∉ assignments.map Prod.fst)
    (best split : Split) : held examples (assignments ++ [(repo,best)]) split =
      held examples assignments split + if split = best then examples.countP (fun row => repoOf row = repo) else 0 := by
  rw [held,held]
  induction examples with
  | nil => simp
  | cons row rows ih =>
    rw [List.countP_cons,List.countP_cons,List.countP_cons,ih]
    have hmem : (repoOf row,split) ∈ assignments ++ [(repo,best)] ↔
        (repoOf row,split) ∈ assignments ∨ repoOf row = repo ∧ split = best := by
      rw [List.mem_append,List.mem_singleton,Prod.mk.injEq]
    have happart : repoOf row = repo → (repoOf row,split) ∉ assignments := fun heq hin =>
      hfresh (heq ▸ List.mem_map_of_mem hin)
    simp only [hmem,decide_eq_true_eq]
    by_cases hrepo : repoOf row = repo
    · have hnot := happart hrepo
      subst hrepo
      by_cases hsplit : split = best
      · subst hsplit
        simp only [hnot,true_and,or_true,if_true,if_false]
        omega
      · simp only [hnot,hsplit,and_false,or_false,if_false]
    · simp only [hrepo,false_and,or_false,if_false]
      split_ifs <;> omega

theorem Placed.assign {placing : Placing} {largest rest : ℤ} {group : String × List Example}
    (h : Placed examples targets largest (group.2.length + rest) placing) (hfresh : group.1 ∉ placing.assignments.map Prod.fst)
    (hlength : group.2.length = examples.countP fun row => repoOf row = group.1) (hpositive : 0 < group.2.length)
    (hlargest : (group.2.length : ℤ) ≤ largest) (hrest : 0 ≤ rest) :
    Placed examples targets largest rest (assignGroup targets placing group) := by
  refine ⟨fun split => ?_,h.within.place (room_le_best _ _ _) (by exact_mod_cast hpositive) hlargest hrest⟩
  rw [assignGroup]
  dsimp only
  rw [held_append _ hfresh,GreedyFill.place]
  by_cases hsplit : split = bestSplit placing.counts targets group.2.length
  · subst hsplit
    rw [Function.update_self,if_pos rfl,h.counted,← hlength]
    push_cast
    rfl
  · rw [Function.update_of_ne hsplit,if_neg hsplit,h.counted,add_zero]

theorem keys_assigned (targets : Split → ℤ) (groups : Groups) (placing : Placing) :
    (groups.foldl (assignGroup targets) placing).assignments.map Prod.fst =
      placing.assignments.map Prod.fst ++ groups.map Prod.fst := by
  induction groups generalizing placing with
  | nil => simp
  | cons group groups ih =>
    rw [List.foldl_cons,ih,assignGroup,List.map_append,List.map_cons,List.append_assoc]
    rfl

theorem Placed.run {placing : Placing} {largest : ℤ} {groups : Groups}
    (h : Placed examples targets largest ((groups.map fun group => group.2.length).sum : ℕ) placing)
    (hkeys : (placing.assignments.map Prod.fst ++ groups.map Prod.fst).Nodup)
    (hgroups : ∀ group ∈ groups, group.2.length = (examples.countP fun row => repoOf row = group.1) ∧ 0 < group.2.length ∧
      (group.2.length : ℤ) ≤ largest) : Placed examples targets largest 0 (groups.foldl (assignGroup targets) placing) := by
  induction groups generalizing placing with
  | nil => exact h
  | cons group groups ih =>
    obtain ⟨⟨hlength,hpositive,hlargest⟩,hrest⟩ := List.forall_mem_cons.mp hgroups
    have hfresh : group.1 ∉ placing.assignments.map Prod.fst := by
      rw [List.map_cons] at hkeys
      have hmiddle := (List.nodup_cons.mp (List.nodup_middle.mp hkeys)).1
      rw [List.mem_append,not_or] at hmiddle
      exact hmiddle.1
    rw [List.map_cons,List.sum_cons,Nat.cast_add] at h
    refine ih (h.assign hfresh hlength hpositive hlargest (Int.natCast_nonneg _)) ?_ hrest
    rw [assignGroup,List.map_append,List.append_assoc]
    simpa using hkeys

end Placement

section Covering
variable (examples : List Example)

def groupsOf : Groups := (sortedRepos examples).map fun repo => (repo,sortedRows examples repo)

theorem keys_groupsOf : (groupsOf examples).map Prod.fst = sortedRepos examples := by
  rw [groupsOf,List.map_map]
  exact List.map_id _

theorem nodup_sortedRepos : (sortedRepos examples).Nodup :=
  (List.perm_insertionSort _ _).nodup_iff.mpr (List.nodup_dedup _)

theorem mem_sortedRepos {repo : String} : repo ∈ sortedRepos examples ↔ ∃ row ∈ examples, repoOf row = repo := by
  rw [sortedRepos,List.mem_insertionSort,List.mem_dedup,List.mem_map]

theorem mem_sortedRows {repo : String} {row : Example} : row ∈ sortedRows examples repo ↔ row ∈ examples ∧ repoOf row = repo := by
  rw [sortedRows,List.mem_insertionSort,List.mem_filter,decide_eq_true_eq]

theorem flatMap_groupsOf : ((groupsOf examples).flatMap Prod.snd).Perm examples := by
  have hall : (examples.filter fun row => decide (∃ repo ∈ sortedRepos examples, some (repoOf row) = some repo)) = examples :=
    List.filter_eq_self.mpr fun row hrow => decide_eq_true ⟨_,(mem_sortedRepos examples).mpr ⟨row,hrow,rfl⟩,rfl⟩
  have hcover := flatMap_filter_perm (nodup_sortedRepos examples) (fun row => some (repoOf row)) examples
  rw [hall] at hcover
  rw [groupsOf,List.flatMap_map]
  refine List.Perm.trans (List.Perm.flatMap_left _ fun repo _ => ?_) hcover
  simp only [Option.some.injEq]
  exact List.perm_insertionSort _ _

theorem totalOf_groupsOf : totalOf (groupsOf examples) = examples.length := by
  have hlength := (flatMap_groupsOf examples).length_eq
  rwa [List.length_flatMap] at hlength

def largestGroup (groups : Groups) : ℕ := (groups.map fun group => group.2.length).max?.getD 0

theorem length_le_largest {groups : Groups} {group : String × List Example} (h : group ∈ groups) :
    group.2.length ≤ largestGroup groups := by
  have hmem : group.2.length ∈ groups.map fun group => group.2.length := List.mem_map_of_mem h
  obtain ⟨most,hmost⟩ := Option.ne_none_iff_exists'.mp (mt List.max?_eq_none_iff.mp (List.ne_nil_of_mem hmem))
  rw [largestGroup,hmost]
  exact (List.max?_eq_some_iff.mp hmost).2 _ hmem

theorem group_facts {group : String × List Example} (h : group ∈ groupsOf examples) :
    group.2.length = (examples.countP fun row => repoOf row = group.1) ∧ 0 < group.2.length := by
  obtain ⟨repo,hrepo,rfl⟩ := List.mem_map.mp h
  obtain ⟨row,hrow,heq⟩ := (mem_sortedRepos examples).mp hrepo
  refine ⟨?_,List.length_pos_of_mem ((mem_sortedRows examples).mpr ⟨hrow,heq⟩)⟩
  rw [length_sortedRows,List.count,List.countP_map]
  rfl

end Covering

section Soundness
variable (sha256 : Bytes → String) (datasetId : String) (ratios : Ratios)

theorem ordered_perm (groups : Groups) : (orderedGroups sha256 datasetId groups).Perm groups := List.perm_insertionSort _ _

theorem keys_assignGroups (groups : Groups) :
    ((assignGroups sha256 datasetId groups ratios).map Prod.fst).Perm (groups.map Prod.fst) := by
  rw [assignGroups,placeGroups,keys_assigned,List.map_nil,List.nil_append]
  exact (ordered_perm sha256 datasetId groups).map _

theorem assigned_once {examples : List Example} {row : Example} (hrow : row ∈ examples) :
    ∃! split, (repoOf row,split) ∈ assignGroups sha256 datasetId (groupsOf examples) ratios := by
  have hkeys := keys_assignGroups sha256 datasetId ratios (groupsOf examples)
  rw [keys_groupsOf] at hkeys
  have hnodup := hkeys.nodup_iff.mpr (nodup_sortedRepos examples)
  have hmem := hkeys.mem_iff.mpr ((mem_sortedRepos examples).mpr ⟨row,hrow,rfl⟩)
  obtain ⟨⟨repo,split⟩,hpair,heq⟩ := List.mem_map.mp hmem
  obtain rfl : repo = repoOf row := heq
  refine ⟨split,hpair,fun other hother => ?_⟩
  exact (Prod.mk.inj (List.inj_on_of_nodup_map hnodup hother hpair rfl)).2

theorem placed_groups {examples : List Example} (hnonneg : ∀ split, 0 ≤ targetCounts examples.length ratios split) :
    Placed examples (targetCounts examples.length ratios) (largestGroup (groupsOf examples)) 0
      (placeGroups sha256 datasetId (groupsOf examples) ratios) := by
  have hperm := ordered_perm sha256 datasetId (groupsOf examples)
  have htotal : ((orderedGroups sha256 datasetId (groupsOf examples)).map fun group => group.2.length).sum = examples.length :=
    ((hperm.map _).sum_eq).trans (totalOf_groupsOf examples)
  have hstart : Placed examples (targetCounts examples.length ratios) (largestGroup (groupsOf examples))
      (((orderedGroups sha256 datasetId (groupsOf examples)).map fun group => group.2.length).sum : ℕ) ⟨fun _ => 0,[]⟩ := by
    refine ⟨fun split => by simp [held],?_,fun split => ?_⟩
    · rw [htotal]
      simp only [sub_zero]
      exact sum_targetCounts _ _
    · exact add_nonneg (hnonneg split) (Int.natCast_nonneg _)
  rw [placeGroups,totalOf_groupsOf]
  refine hstart.run ?_ fun group hgroup => ?_
  · rw [List.map_nil,List.nil_append,(hperm.map _).nodup_iff,keys_groupsOf]
    exact nodup_sortedRepos examples
  · have hin := hperm.mem_iff.mp hgroup
    obtain ⟨hlength,hpositive⟩ := group_facts examples hin
    exact ⟨hlength,hpositive,by exact_mod_cast length_le_largest hin⟩

def taskOf : TaskId → Option String
  | .text value => some value
  | _ => none

theorem requiredSplitGroup_task {row : Example} {group : String × Option String} (h : requiredSplitGroup row = .ok group) :
    group.2 = taskOf row.taskId := by
  simp only [requiredSplitGroup,bind_eq_ok,demand_eq_ok,required_eq_ok] at h
  obtain ⟨repo,_,_,_,h⟩ := h
  cases htask : row.taskId with
  | absent =>
    rw [htask] at h
    obtain rfl := Except.ok.inj h
    rfl
  | text value =>
    rw [htask] at h
    obtain rfl := Except.ok.inj h
    rfl
  | other =>
    rw [htask] at h
    cases h

structure Listed (examples : List Example) (assignments : List (String × Split)) (artifacts : SplitArtifacts) : Prop where
  ids : (artifacts.assignments.map Assignment.exampleId).Perm (examples.map Example.exampleId)
  rows : ∀ row ∈ artifacts.assignments, (row.repo,row.split) ∈ assignments ∧
    ∃ source ∈ examples, source.exampleId = row.exampleId ∧ source.repo = some row.repo ∧ source.resolved = some row.resolved
  targets : artifacts.targets = targetCounts examples.length ratios
  once : artifacts.assignedOnce = true

theorem artifacts_listed {examples : List Example} (hgrouped : ∀ row ∈ examples, Grouped row)
    (hids : (examples.map Example.exampleId).Nodup) (hlabels : ∀ row ∈ examples, row.resolved.isSome = true) :
    ∃ artifacts, buildSplitArtifacts sha256 datasetId examples "repo_grouped" ratios = .ok artifacts ∧
      Listed ratios examples (assignGroups sha256 datasetId (groupsOf examples) ratios) artifacts := by
  obtain ⟨splitOf,hsplit⟩ : ∃ splitOf : String → Split, ∀ row ∈ examples,
      (repoOf row,splitOf (repoOf row)) ∈ assignGroups sha256 datasetId (groupsOf examples) ratios ∧
      ((assignGroups sha256 datasetId (groupsOf examples) ratios).find? fun pair => pair.1 = repoOf row).map Prod.snd =
        some (splitOf (repoOf row)) := by
    refine ⟨fun repo => (((assignGroups sha256 datasetId (groupsOf examples) ratios).find? fun pair => pair.1 = repo).map
      Prod.snd).getD .train,fun row hrow => ?_⟩
    obtain ⟨split,hpair,_⟩ := assigned_once sha256 datasetId ratios hrow
    have hkeys := keys_assignGroups sha256 datasetId ratios (groupsOf examples)
    rw [keys_groupsOf] at hkeys
    have hnodup := hkeys.nodup_iff.mpr (nodup_sortedRepos examples)
    have hfind : ((assignGroups sha256 datasetId (groupsOf examples) ratios).find? fun pair => pair.1 = repoOf row) =
        some (repoOf row,split) := find_of_nodup hnodup hpair
    dsimp only
    rw [hfind]
    exact ⟨hpair,rfl⟩
  have hrows : ((groupsOf examples).flatMap fun group => group.2.map fun row => (group.1,row)) =
      ((groupsOf examples).flatMap Prod.snd).map fun row => (repoOf row,row) := by
    rw [List.map_flatMap]
    refine List.flatMap_congr fun group hgroup => List.map_congr_left fun row hrow => ?_
    obtain ⟨repo,_,rfl⟩ := List.mem_map.mp hgroup
    rw [((mem_sortedRows examples).mp hrow).2]
  have hperm := flatMap_groupsOf examples
  have hbuilt : assignmentRows (groupsOf examples) (assignGroups sha256 datasetId (groupsOf examples) ratios) =
      .ok (((groupsOf examples).flatMap Prod.snd).map fun row =>
        ⟨row.exampleId,splitOf (repoOf row),repoOf row,taskOf row.taskId,row.resolved.getD false⟩) := by
    rw [assignmentRows,hrows]
    refine mapM_eq_ok.mpr (List.forall₂_map_right_iff.mpr (List.forall₂_map_left_iff.mpr (List.forall₂_same.mpr fun row hrow => ?_)))
    have hin := hperm.mem_iff.mp hrow
    obtain ⟨group,hgroup⟩ := hgrouped row hin
    obtain ⟨label,hlabel⟩ := Option.isSome_iff_exists.mp (hlabels row hin)
    simp only [(hsplit row hin).2,required,ok_bind,hgroup,isResolved,hlabel,requiredSplitGroup_task hgroup,Option.getD_some]
    rfl
  refine ⟨artifactsOf (groupsOf examples) (((groupsOf examples).flatMap Prod.snd).map fun row =>
    ⟨row.exampleId,splitOf (repoOf row),repoOf row,taskOf row.taskId,row.resolved.getD false⟩) ratios,?_,?_⟩
  · rw [buildSplitArtifacts,demand,if_pos (decide_eq_true rfl),ok_bind,groupExamples_ok hgrouped,ok_bind]
    rw [← groupsOf,hbuilt]
    rfl
  · have hsorted := List.perm_insertionSort (fun left right : Assignment => left.exampleId ≤ right.exampleId)
      (((groupsOf examples).flatMap Prod.snd).map fun row =>
        ⟨row.exampleId,splitOf (repoOf row),repoOf row,taskOf row.taskId,row.resolved.getD false⟩)
    have hunsorted : ((((groupsOf examples).flatMap Prod.snd).map fun row => (⟨row.exampleId,splitOf (repoOf row),repoOf row,
        taskOf row.taskId,row.resolved.getD false⟩ : Assignment)).map Assignment.exampleId).Perm
          (examples.map Example.exampleId) := by
      rw [List.map_map]
      exact hperm.map Example.exampleId
    have hlisted := (hsorted.map Assignment.exampleId).trans hunsorted
    refine ⟨hlisted,fun row hrow => ?_,?_,?_⟩
    · obtain ⟨source,hsource,rfl⟩ := List.mem_map.mp (hsorted.mem_iff.mp hrow)
      have hin := hperm.mem_iff.mp hsource
      obtain ⟨group,hgroup⟩ := hgrouped source hin
      obtain ⟨label,hlabel⟩ := Option.isSome_iff_exists.mp (hlabels source hin)
      refine ⟨(hsplit source hin).1,source,hin,rfl,?_,by rw [hlabel]; rfl⟩
      rw [requiredSplitGroup_repo hgroup,repoOf_group hgroup]
    · have hlength := hsorted.length_eq
      rw [List.length_map,hperm.length_eq] at hlength
      exact congrArg (targetCounts · ratios) hlength
    · have hnodup := hlisted.nodup_iff.mpr hids
      refine decide_eq_true ?_
      rw [hnodup.dedup,List.length_map]

def SplitsSound (examples : List Example) : Prop :=
  ∃ groups, groupExamples examples = .ok groups ∧
    (∀ others, (others.map repoOf).Perm (examples.map repoOf) → (∀ row ∈ others, Grouped row) →
      ∃ regrouped, groupExamples others = .ok regrouped ∧
        assignGroups sha256 datasetId regrouped ratios = assignGroups sha256 datasetId groups ratios) ∧
    (∀ row ∈ examples, ∃! split, (repoOf row,split) ∈ assignGroups sha256 datasetId groups ratios) ∧
    ((∀ row ∈ examples, row.resolved.isSome = true) →
      ∃ artifacts, buildSplitArtifacts sha256 datasetId examples "repo_grouped" ratios = .ok artifacts ∧
        Listed ratios examples (assignGroups sha256 datasetId groups ratios) artifacts) ∧
    (∀ split, 0 ≤ targetCounts examples.length ratios split) ∧
    ∑ split, targetCounts examples.length ratios split = examples.length ∧
    ∀ split, (held examples (assignGroups sha256 datasetId groups ratios) split : ℤ) ≤
      targetCounts examples.length ratios split + largestGroup groups

theorem splitsSound_iff (hratios : ratios.Nonneg) (examples : List Example)
    (hids : (examples.map Example.exampleId).Nodup) (hgrouped : ∀ row ∈ examples, Grouped row) :
    SplitsSound sha256 datasetId ratios examples ↔ ¬ Overfull examples.length ratios := by
  have hnonneg := @targets_nonneg_iff examples.length ratios hratios
  constructor
  · rintro ⟨_,_,_,_,_,hall,_⟩
    exact hnonneg.mp hall
  · intro hfits
    have hplaced := placed_groups sha256 datasetId ratios (hnonneg.mpr hfits)
    refine ⟨groupsOf examples,groupExamples_ok hgrouped,fun others hperm hothers => ?_,
      fun row hrow => assigned_once sha256 datasetId ratios hrow,
      artifacts_listed sha256 datasetId ratios hgrouped hids,hnonneg.mpr hfits,sum_targetCounts _ _,fun split => ?_⟩
    · exact ⟨groupsOf others,groupExamples_ok hothers,assignGroups_sizes sha256 datasetId (sizes_perm hperm) ratios⟩
    · rw [assignGroups,← hplaced.counted split]
      exact hplaced.within.bound split

end Soundness

section Halves

def halves : Ratios := ⟨1 / 2,1 / 2,0⟩

-- The doubles of .70, .15 and .15.
def defaultRatios : Ratios := ⟨Rounding.nearest (7 / 10),Rounding.nearest (3 / 20),Rounding.nearest (3 / 20)⟩

def threeRows : List Example :=
  [⟨"e1",some "org/a",.absent,some true⟩,⟨"e2",some "org/b",.text "t2",some false⟩,⟨"e3",some "org/c",.absent,some true⟩]

theorem threeRows_grouped : ∀ row ∈ threeRows, Grouped row := by
  intro row hrow
  simp only [threeRows,List.mem_cons,List.not_mem_nil,or_false] at hrow
  rcases hrow with rfl | rfl | rfl <;> exact ⟨_,rfl⟩

theorem threeRows_ids : (threeRows.map Example.exampleId).Nodup := by decide

-- The digests of the three repos.
def repoDigest (raw : Bytes) : String :=
  if raw = utf8 "swe|repo|org/a" then "065558377e63a7376d40f07b5365e4217c3694a90507eef893a8eebbccf55f91"
  else if raw = utf8 "swe|repo|org/b" then "eeb399a90ebbb893d13690ff81f267df3d325f50b05f6ce6d3af1dadf5117cc7"
  else "8e9b469049795d731d6b6331394d2e7f1aff2026d437b34c773d64be2a869758"

theorem halved_target_negative : ¬ ∀ (ratios : Ratios) (examples : List Example), ratios.Valid → examples ≠ [] →
    (examples.map Example.exampleId).Nodup → (∀ row ∈ examples, Grouped row) →
      SplitsSound repoDigest "swe" ratios examples := by
  intro h
  have hnonneg : halves.Nonneg := by norm_num [Ratios.Nonneg,halves]
  have hvalid : halves.Valid := ⟨hnonneg,by norm_num [halves]⟩
  obtain ⟨_,_,_,_,_,hall,_⟩ := h halves threeRows hvalid (List.cons_ne_nil _ _) threeRows_ids threeRows_grouped
  exact (targets_nonneg_iff hnonneg).mp hall (by decide +kernel)

theorem defaultRatios_nonneg : defaultRatios.Nonneg :=
  ⟨nearest_nonneg (by norm_num),nearest_nonneg (by norm_num),nearest_nonneg (by norm_num)⟩

theorem default_ratios_sound : SplitsSound repoDigest "swe" defaultRatios threeRows :=
  (splitsSound_iff repoDigest "swe" defaultRatios defaultRatios_nonneg threeRows threeRows_ids threeRows_grouped).mpr
    (by decide +kernel)

-- The double of twenty-five times .86 is a tie that its decimal product misses.
example : Overfull 25 ⟨Rounding.nearest (14 / 100),Rounding.nearest (86 / 100),0⟩ ∧
    ¬ Overfull 45 ⟨Rounding.nearest (3 / 10),Rounding.nearest (7 / 10),0⟩ := by decide +kernel

end Halves

end PneumaLab.Training
