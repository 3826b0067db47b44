import Mathlib.Data.List.Nodup
import Mathlib.Data.List.Perm.Basic
import Mathlib.Tactic

namespace InvertedIndex

variable {α K V D W : Type}

section Dictionary
variable [DecidableEq K]

def entry (absent : V) : List (K × V) → K → V
  | [], _ => absent
  | (key,value) :: rest, k => if key = k then value else entry absent rest k

-- setdefault(k, absent), changed in place
def setDefault (absent : V) (change : V → V) : List (K × V) → K → List (K × V)
  | [], k => [(k,change absent)]
  | (key,value) :: rest, k =>
    if key = k then (key,change value) :: rest else (key,value) :: setDefault absent change rest k

theorem entry_setDefault (absent : V) (change : V → V) (dict : List (K × V)) (k l : K) :
    entry absent (setDefault absent change dict k) l =
      if k = l then change (entry absent dict l) else entry absent dict l := by
  induction dict with
  | nil => by_cases h : k = l <;> simp [setDefault,entry,h]
  | cons row rest ih =>
    obtain ⟨key,value⟩ := row
    by_cases hk : key = k
    · subst hk
      by_cases hl : key = l <;> simp [setDefault,entry,hl]
    · by_cases hl : key = l
      · subst hl
        simp [setDefault,entry,hk,Ne.symm hk]
      · simp [setDefault,entry,hk,hl,ih]

theorem entry_eq_iff {absent v : V} {dict : List (K × V)} {k : K} (h : (dict.map Prod.fst).Nodup)
    (hk : k ∈ dict.map Prod.fst) : entry absent dict k = v ↔ (k,v) ∈ dict := by
  induction dict with
  | nil => cases hk
  | cons row rest ih =>
    obtain ⟨key,value⟩ := row
    obtain ⟨hfresh,hrest⟩ := List.nodup_cons.mp h
    by_cases he : key = k
    · subst he
      have hnot : (key,v) ∉ rest := fun hmem => hfresh (List.mem_map.mpr ⟨_,hmem,rfl⟩)
      simp [entry,hnot,eq_comm]
    · have hk' : k ∈ rest.map Prod.fst := (List.mem_cons.mp hk).resolve_left (Ne.symm he)
      simp [entry,he,ih hrest hk',Ne.symm he]

theorem eq_map_entry (absent : V) {dict : List (K × V)} (h : (dict.map Prod.fst).Nodup) :
    dict = (dict.map Prod.fst).map fun k => (k,entry absent dict k) := by
  rw [List.map_map]
  refine (List.map_id dict).symm.trans (List.map_congr_left ?_)
  rintro ⟨k,v⟩ hmem
  exact Prod.ext rfl ((entry_eq_iff h (List.mem_map_of_mem hmem)).mpr hmem).symm

end Dictionary

section Collected
variable [DecidableEq α]

def collect (found : List α) (x : α) : List α := if x ∈ found then found else found ++ [x]

theorem foldl_collect {xs : List α} (h : xs.Nodup) (found : List α) :
    xs.foldl collect found = found ++ xs.filter fun x => x ∉ found := by
  induction xs generalizing found with
  | nil => simp
  | cons x xs ih =>
    obtain ⟨hx,hxs⟩ := List.nodup_cons.mp h
    rw [List.foldl_cons,ih hxs]
    by_cases hfound : x ∈ found
    · simp [collect,hfound]
    · have hrest : xs.filter (fun y => decide (y ∉ found ++ [x])) = xs.filter fun y => decide (y ∉ found) := by
        apply List.filter_congr
        intro y hy
        have hne : y ≠ x := fun he => hx (he ▸ hy)
        simp [hne]
      rw [collect,if_neg hfound,hrest,List.filter_cons_of_pos (by simpa using hfound),
        List.append_assoc,List.singleton_append]

end Collected

section Buckets
variable [DecidableEq K]

theorem keys_setDefault (absent : V) (change : V → V) (dict : List (K × V)) (k : K) :
    (setDefault absent change dict k).map Prod.fst =
      if k ∈ dict.map Prod.fst then dict.map Prod.fst else dict.map Prod.fst ++ [k] := by
  induction dict with
  | nil => rfl
  | cons row rest ih =>
    obtain ⟨key,value⟩ := row
    by_cases hkey : key = k
    · simp [setDefault,hkey]
    · have hmem : k ∈ key :: rest.map Prod.fst ↔ k ∈ rest.map Prod.fst := by simp [Ne.symm hkey]
      simp only [setDefault,if_neg hkey,List.map_cons,ih]
      by_cases hrest : k ∈ rest.map Prod.fst
      · rw [if_pos hrest,if_pos (hmem.mpr hrest)]
      · rw [if_neg hrest,if_neg (mt hmem.mp hrest),List.cons_append]

theorem nodup_setDefault (absent : V) (change : V → V) {dict : List (K × V)} (h : (dict.map Prod.fst).Nodup) (k : K) :
    ((setDefault absent change dict k).map Prod.fst).Nodup := by
  rw [keys_setDefault]
  split
  · exact h
  · next hfresh => exact List.nodup_append.mpr ⟨h,List.nodup_singleton k,by simpa using fun l hl => ne_of_mem_of_not_mem hl hfresh⟩

def bucket (keys : α → List K) (groups : List (K × List α)) (x : α) : List (K × List α) :=
  (keys x).foldl (setDefault [] (· ++ [x])) groups

theorem entry_bucket (keys : α → List K) (groups : List (K × List α)) (x : α) (k : K) :
    entry [] (bucket keys groups x) k = entry [] groups k ++ List.replicate ((keys x).count k) x := by
  rw [bucket]
  induction keys x generalizing groups with
  | nil => simp
  | cons l ls ih =>
    rw [List.foldl_cons,ih,entry_setDefault,List.count_cons]
    by_cases hl : l = k
    · simp [hl,List.replicate_succ,List.append_assoc]
    · simp [hl]

theorem mem_keys_bucket (keys : α → List K) (groups : List (K × List α)) (x : α) (k : K) :
    k ∈ (bucket keys groups x).map Prod.fst ↔ k ∈ groups.map Prod.fst ∨ k ∈ keys x := by
  rw [bucket]
  induction keys x generalizing groups with
  | nil => simp
  | cons l ls ih =>
    rw [List.foldl_cons,ih,keys_setDefault,List.mem_cons]
    by_cases hl : l ∈ groups.map Prod.fst
    · rw [if_pos hl]
      constructor
      · exact Or.imp_right Or.inr
      · rintro (hk | rfl | hk)
        · exact .inl hk
        · exact .inl hl
        · exact .inr hk
    · rw [if_neg hl,List.mem_append,List.mem_singleton,or_assoc]

theorem nodup_bucket (keys : α → List K) {groups : List (K × List α)} (h : (groups.map Prod.fst).Nodup) (x : α) :
    ((bucket keys groups x).map Prod.fst).Nodup := by
  rw [bucket]
  induction keys x generalizing groups with
  | nil => exact h
  | cons l ls ih => exact ih (nodup_setDefault _ _ h l)

def buckets (keys : α → List K) (xs : List α) : List (K × List α) := xs.foldl (bucket keys) []

theorem entry_buckets (keys : α → List K) (xs : List α) (k : K) :
    entry [] (buckets keys xs) k = xs.flatMap fun x => List.replicate ((keys x).count k) x := by
  have hfold : ∀ groups : List (K × List α), entry [] (xs.foldl (bucket keys) groups) k =
      entry [] groups k ++ xs.flatMap fun x => List.replicate ((keys x).count k) x := by
    induction xs with
    | nil => simp
    | cons x xs ih =>
      intro groups
      rw [List.foldl_cons,ih,entry_bucket,List.flatMap_cons,List.append_assoc]
  exact hfold []

theorem mem_keys_buckets (keys : α → List K) (xs : List α) (k : K) :
    k ∈ (buckets keys xs).map Prod.fst ↔ ∃ x ∈ xs, k ∈ keys x := by
  have hfold : ∀ groups : List (K × List α), k ∈ (xs.foldl (bucket keys) groups).map Prod.fst ↔
      k ∈ groups.map Prod.fst ∨ ∃ x ∈ xs, k ∈ keys x := by
    induction xs with
    | nil => simp
    | cons x xs ih =>
      intro groups
      rw [List.foldl_cons,ih,mem_keys_bucket,List.exists_mem_cons_iff,or_assoc]
  exact (hfold []).trans (or_iff_right List.not_mem_nil)

theorem nodup_buckets (keys : α → List K) (xs : List α) : ((buckets keys xs).map Prod.fst).Nodup := by
  have hfold : ∀ groups : List (K × List α), (groups.map Prod.fst).Nodup → ((xs.foldl (bucket keys) groups).map Prod.fst).Nodup := by
    induction xs with
    | nil => exact fun _ h => h
    | cons x xs ih => exact fun groups h => ih _ (nodup_bucket keys h x)
  exact hfold [] List.nodup_nil

theorem mem_buckets (keys : α → List K) (xs : List α) (k : K) (group : List α) :
    (k,group) ∈ buckets keys xs ↔ (∃ x ∈ xs, k ∈ keys x) ∧ group = xs.flatMap fun x => List.replicate ((keys x).count k) x := by
  rw [← mem_keys_buckets,← entry_buckets]
  constructor
  · intro h
    have hkey : k ∈ (buckets keys xs).map Prod.fst := List.mem_map_of_mem h
    exact ⟨hkey,((entry_eq_iff (nodup_buckets keys xs) hkey).mpr h).symm⟩
  · rintro ⟨hkey,rfl⟩
    exact (entry_eq_iff (nodup_buckets keys xs) hkey).mp rfl

end Buckets

section Keys
variable [DecidableEq K]

theorem flatMap_filter_perm {keys : List K} (h : keys.Nodup) (key : α → Option K) (xs : List α) :
    (keys.flatMap fun k => xs.filter fun x => key x = some k).Perm
      (xs.filter fun x => decide (∃ k ∈ keys, key x = some k)) := by
  induction keys with
  | nil => simp
  | cons k keys ih =>
    obtain ⟨hk,hkeys⟩ := List.nodup_cons.mp h
    rw [List.flatMap_cons]
    have hfirst : xs.filter (fun x => decide (key x = some k)) =
        (xs.filter fun x => decide (∃ l ∈ k :: keys, key x = some l)).filter
          fun x => decide (key x = some k) := by
      rw [List.filter_filter]
      apply List.filter_congr
      intro x _
      by_cases hx : key x = some k <;> simp [hx]
    have hrest : xs.filter (fun x => decide (∃ l ∈ keys, key x = some l)) =
        (xs.filter fun x => decide (∃ l ∈ k :: keys, key x = some l)).filter
          fun x => !decide (key x = some k) := by
      rw [List.filter_filter]
      apply List.filter_congr
      intro x _
      by_cases hx : key x = some k
      · have hnone : ¬ ∃ l ∈ keys, key x = some l := by
          rintro ⟨l,hl,hxl⟩
          rw [hx,Option.some.injEq] at hxl
          exact hk (hxl ▸ hl)
        rw [decide_eq_false hnone,decide_eq_true hx,Bool.not_true,Bool.false_and]
      · simp [hx]
    calc (xs.filter (fun x => decide (key x = some k)) ++
          keys.flatMap fun l => xs.filter fun x => decide (key x = some l)).Perm
          (xs.filter (fun x => decide (key x = some k)) ++
            xs.filter fun x => decide (∃ l ∈ keys, key x = some l)) := (ih hkeys).append_left _
      _ |>.Perm _ := by
        rw [hfirst,hrest]
        exact List.filter_append_perm _ _

end Keys

section Index
variable [DecidableEq D] [DecidableEq W]

abbrev Index (D W : Type) := List (D × List (W × List ℕ))

def postings (index : Index D W) (d : D) (w : W) : List ℕ := entry [] (entry [] index d) w

def post (index : Index D W) (d : D) (w : W) (i : ℕ) : Index D W :=
  setDefault [] (fun values => setDefault [] (· ++ [i]) values w) index d

def postRow (index : Index D W) (row : List (D × Option W)) (i : ℕ) : Index D W :=
  row.foldl (fun index field =>
    match field.2 with
    | some w => post index field.1 w i
    | none => index) index

def build (rows : List (List (D × Option W))) : Index D W :=
  rows.zipIdx.foldl (fun index row => postRow index row.1 row.2) []

def candidates (index : Index D W) (row : List (D × Option W)) : List ℕ :=
  row.foldl (fun found field =>
    match field.2 with
    | some w => (postings index field.1 w).foldl collect found
    | none => found) []

def shared (row other : List (D × Option W)) : List D :=
  (row.filter fun field => field.2.isSome && decide (field ∈ other)).map Prod.fst

theorem postings_post (index : Index D W) (d e : D) (w x : W) (i : ℕ) :
    postings (post index d w i) e x = postings index e x ++ if d = e ∧ w = x then [i] else [] := by
  simp only [postings,post,entry_setDefault]
  by_cases hd : d = e
  · by_cases hw : w = x <;> simp [hd,hw,entry_setDefault]
  · simp [hd]

theorem postings_postRow {row : List (D × Option W)} (h : (row.map Prod.fst).Nodup) (index : Index D W)
    (i : ℕ) (d : D) (w : W) :
    postings (postRow index row i) d w =
      postings index d w ++ if (d,some w) ∈ row then [i] else [] := by
  induction row generalizing index with
  | nil => simp [postRow]
  | cons field rest ih =>
    obtain ⟨hfresh,hrest⟩ := List.nodup_cons.mp h
    obtain ⟨e,value⟩ := field
    have hother (hd : e = d) : (d,some w) ∉ rest := fun hmem => hfresh (List.mem_map.mpr ⟨_,hmem,hd.symm⟩)
    have hstep := ih hrest
    simp only [postRow] at hstep
    cases value with
    | none => simp [postRow,hstep]
    | some x =>
      simp only [postRow,List.foldl_cons,hstep,postings_post,List.append_assoc]
      congr 1
      by_cases hd : e = d
      · by_cases hw : x = w
        · simp [hd,hw,hother hd]
        · simp [hd,hw,hother hd,Ne.symm hw]
      · simp [hd,Ne.symm hd]

theorem postings_build {rows : List (List (D × Option W))}
    (h : ∀ row ∈ rows, (row.map Prod.fst).Nodup) (d : D) (w : W) :
    postings (build rows) d w =
      (rows.zipIdx.filter fun row => decide ((d,some w) ∈ row.1)).map Prod.snd := by
  have hall (numbered : List (List (D × Option W) × ℕ))
      (hn : ∀ row ∈ numbered, (row.1.map Prod.fst).Nodup) (index : Index D W) :
      postings (numbered.foldl (fun index row => postRow index row.1 row.2) index) d w =
        postings index d w ++ (numbered.filter fun row => decide ((d,some w) ∈ row.1)).map Prod.snd := by
    induction numbered generalizing index with
    | nil => simp
    | cons row rest ih =>
      rw [List.foldl_cons,ih (fun other ho => hn other (List.mem_cons_of_mem _ ho)),
        postings_postRow (hn row (List.mem_cons_self ..))]
      by_cases hmem : (d,some w) ∈ row.1 <;> simp [hmem]
  refine (hall rows.zipIdx ?_ []).trans (by simp [postings,entry])
  intro row hrow
  exact h row.1 (List.fst_mem_of_mem_zipIdx hrow)

theorem shared_append (row more other : List (D × Option W)) :
    shared (row ++ more) other = shared row other ++ shared more other := by
  simp [shared]

theorem mem_shared {row other : List (D × Option W)} {d : D} :
    d ∈ shared row other ↔ ∃ w, (d,some w) ∈ row ∧ (d,some w) ∈ other := by
  simp only [shared,List.mem_map,List.mem_filter,Bool.and_eq_true,decide_eq_true_eq]
  constructor
  · rintro ⟨⟨e,value⟩,⟨hrow,hsome,hother⟩,rfl⟩
    obtain ⟨w,rfl⟩ := Option.isSome_iff_exists.mp hsome
    exact ⟨w,hrow,hother⟩
  · rintro ⟨w,hrow,hother⟩
    exact ⟨(d,some w),⟨hrow,rfl,hother⟩,rfl⟩

theorem shared_keys (row other : List (D × Option W)) : shared row other ⊆ row.map Prod.fst := by
  intro d hd
  obtain ⟨w,hrow,-⟩ := mem_shared.mp hd
  exact List.mem_map_of_mem hrow

theorem head_shared_mem {row other : List (D × Option W)} {d : D} (h : (shared row other).head? = some d) :
    d ∈ row.map Prod.fst := shared_keys row other (List.mem_of_head? h)

def sharing (rows : List (List (D × Option W))) (row : List (D × Option W)) (d : D) :
    List (List (D × Option W) × ℕ) :=
  rows.zipIdx.filter fun other => decide ((shared row other.1).head? = some d)

theorem nodup_positions (xs : List α) : (xs.zipIdx.map Prod.snd).Nodup := by
  rw [List.zipIdx_map_snd]
  exact List.nodup_range'

theorem mem_sharing {rows : List (List (D × Option W))} (row : List (D × Option W)) {numbered}
    (h : numbered ∈ rows.zipIdx) :
    numbered.2 ∈ (row.flatMap fun field => (sharing rows row field.1).map Prod.snd) ↔
      shared row numbered.1 ≠ [] := by
  simp only [sharing,List.mem_flatMap,List.mem_map,List.mem_filter,decide_eq_true_eq]
  constructor
  · rintro ⟨field,-,other,⟨hother,hhead⟩,heq⟩ hnil
    have hnumber := List.mem_zipIdx_iff_getElem?.mp h
    have hsame := List.mem_zipIdx_iff_getElem?.mp hother
    rw [heq,hnumber,Option.some.injEq] at hsame
    rw [← hsame,hnil] at hhead
    cases hhead
  · intro hne
    obtain ⟨d,rest,hshared⟩ := List.exists_cons_of_ne_nil hne
    have hhead : (shared row numbered.1).head? = some d := by rw [hshared,List.head?_cons]
    obtain ⟨field,hfield,rfl⟩ := List.mem_map.mp (head_shared_mem hhead)
    exact ⟨field,hfield,numbered,⟨h,hhead⟩,rfl⟩

theorem candidates_build {rows : List (List (D × Option W))} {row : List (D × Option W)}
    (hrows : ∀ other ∈ rows, (other.map Prod.fst).Nodup) (hrow : (row.map Prod.fst).Nodup) :
    candidates (build rows) row = row.flatMap fun field => (sharing rows row field.1).map Prod.snd := by
  induction row using List.reverseRecOn with
  | nil => rfl
  | append_singleton pre field ih =>
    obtain ⟨d,value⟩ := field
    rw [List.map_append,List.nodup_append] at hrow
    obtain ⟨hpre,-,hapart⟩ := hrow
    have hfresh : d ∉ pre.map Prod.fst := fun hd => hapart d hd d (by simp) rfl
    have hkept : ∀ f ∈ pre, sharing rows (pre ++ [(d,value)]) f.1 = sharing rows pre f.1 := by
      intro f hf
      apply List.filter_congr
      intro other _
      rw [shared_append,List.head?_append]
      cases hs : (shared pre other.1).head? with
      | some e => rfl
      | none =>
        have hne : (shared [(d,value)] other.1).head? ≠ some f.1 := by
          intro he
          have hd : f.1 = d := by simpa using head_shared_mem he
          exact hfresh (hd ▸ List.mem_map_of_mem hf)
        rw [Option.none_or,decide_eq_decide]
        exact ⟨fun he => absurd he hne,fun he => nomatch he⟩
    have hbefore : candidates (build rows) pre =
        pre.flatMap fun f => (sharing rows (pre ++ [(d,value)]) f.1).map Prod.snd := by
      rw [ih hpre]
      exact List.flatMap_congr fun f hf => by rw [hkept f hf]
    rw [List.flatMap_append,← hbefore,candidates,List.foldl_append,← candidates,List.flatMap_singleton]
    cases value with
    | none =>
      have hnone : sharing rows (pre ++ [(d,none)]) d = [] := by
        apply List.filter_eq_nil_iff.mpr
        intro other _
        rw [decide_eq_true_eq]
        intro hhead
        rw [shared_append,List.head?_append] at hhead
        cases hs : (shared pre other.1).head? with
        | some e =>
          rw [hs,Option.some_or,Option.some.injEq] at hhead
          exact hfresh (hhead ▸ head_shared_mem hs)
        | none =>
          rw [hs,Option.none_or] at hhead
          simp [shared] at hhead
      simp [hnone]
    | some w =>
      have hnodup : ((rows.zipIdx.filter fun other => decide ((d,some w) ∈ other.1)).map Prod.snd).Nodup :=
        (nodup_positions rows).sublist (List.filter_sublist.map _)
      simp only [List.foldl_cons,List.foldl_nil,postings_build hrows,foldl_collect hnodup]
      congr 1
      rw [List.filter_map,List.filter_filter]
      congr 1
      apply List.filter_congr
      intro other hother
      have hseen := mem_sharing pre hother
      rw [ih hpre]
      simp only [Function.comp_apply,hseen,shared_append,List.head?_append]
      cases hs : shared pre other.1 with
      | cons e rest =>
        have hne : e ≠ d := fun he => hfresh (he ▸ shared_keys pre other.1 (hs ▸ List.mem_cons_self ..))
        simp [hne]
      | nil =>
        by_cases hmem : (d,some w) ∈ other.1 <;> simp [shared,hmem]

theorem candidates_rows {α : Type} (xs : List α) (fields : α → List (D × Option W))
    {row : List (D × Option W)} (hrows : ∀ x ∈ xs, ((fields x).map Prod.fst).Nodup)
    (hrow : (row.map Prod.fst).Nodup) :
    (candidates (build (xs.map fields)) row).filterMap (xs[·]?) =
      row.flatMap fun field => xs.filter fun x => decide ((shared row (fields x)).head? = some field.1) := by
  have hkeys : ∀ other ∈ xs.map fields, (other.map Prod.fst).Nodup := by
    intro other ho
    obtain ⟨x,hx,rfl⟩ := List.mem_map.mp ho
    exact hrows x hx
  rw [candidates_build hkeys hrow,List.filterMap_flatMap]
  apply List.flatMap_congr
  intro field _
  have hread (numbered : List (α × ℕ)) (hn : ∀ other ∈ numbered, xs[other.2]? = some other.1) (p : α → Bool) :
      ((numbered.filter fun other => p other.1).map Prod.snd).filterMap (xs[·]?) =
        (numbered.map Prod.fst).filter p := by
    induction numbered with
    | nil => rfl
    | cons other rest ih =>
      have hrest := ih fun o ho => hn o (List.mem_cons_of_mem _ ho)
      by_cases hp : p other.1
      · simp [hp,hn other (List.mem_cons_self ..),hrest]
      · simp [hp,hrest]
  have hnumbered := hread xs.zipIdx (fun other ho => List.mem_zipIdx_iff_getElem?.mp ho)
    fun x => decide ((shared row (fields x)).head? = some field.1)
  rw [List.zipIdx_map_fst] at hnumbered
  rw [← hnumbered,sharing,List.zipIdx_map,List.filter_map,List.map_map]
  rfl

end Index

end InvertedIndex
