import Mathlib.Tactic

namespace MerkleTree

section Levels
variable {D E : Type}

def padded (level : List D) : List D :=
  match level.getLast? with
  | some last => if level.length % 2 = 1 then level ++ [last] else level
  | none => level

def pairUp (combine : D → D → D) : List D → List D
  | left :: right :: rest => combine left right :: pairUp combine rest
  | _ => []

def levelPairs : List D → List (D × D)
  | left :: right :: rest => (left,right) :: levelPairs rest
  | _ => []

def nextLevel (combine : D → D → D) (level : List D) : List D := pairUp combine (padded level)

def climb (combine : D → D → D) : ℕ → List D → Option D
  | _,[top] => some top
  | 0,_ => none
  | fuel + 1,level => climb combine fuel (nextLevel combine level)

def root (combine : D → D → D) (level : List D) : Option D := climb combine level.length level

def climbPairs (combine : D → D → D) : ℕ → List D → List (D × D)
  | _,[_] => []
  | 0,_ => []
  | fuel + 1,level => levelPairs (padded level) ++ climbPairs combine fuel (nextLevel combine level)

def rootPairs (combine : D → D → D) (level : List D) : List (D × D) := climbPairs combine level.length level

variable (combine : D → D → D)

theorem length_padded (level : List D) : (padded level).length = level.length + level.length % 2 := by
  rw [padded]
  split
  · split
    · next hodd => rw [List.length_append,List.length_singleton,hodd]
    · next heven => omega
  · next hnone =>
    rw [List.getLast?_eq_none_iff.mp hnone]
    rfl

theorem length_pairUp (level : List D) : (pairUp combine level).length = level.length / 2 := by
  fun_induction pairUp combine level with
  | case1 left right rest ih =>
    rw [List.length_cons,ih,List.length_cons,List.length_cons]
    omega
  | case2 level hshort =>
    match level,hshort with
    | [],_ => simp
    | [_],_ => simp
    | left :: right :: rest,h => exact absurd rfl (h left right rest)

theorem length_nextLevel (level : List D) : (nextLevel combine level).length = (level.length + 1) / 2 := by
  rw [nextLevel,length_pairUp,length_padded]
  omega

theorem climb_of_length_ne_one {level : List D} (h : level.length ≠ 1) (fuel : ℕ) :
    climb combine (fuel + 1) level = climb combine fuel (nextLevel combine level) ∧
      climbPairs combine (fuel + 1) level =
        levelPairs (padded level) ++ climbPairs combine fuel (nextLevel combine level) := by
  match level,h with
  | [],_ => exact ⟨rfl,rfl⟩
  | [_],h => exact absurd rfl h
  | _ :: _ :: _,_ => exact ⟨rfl,rfl⟩

theorem climb_total (fuel : ℕ) (level : List D) (hne : level ≠ []) (hfuel : level.length ≤ fuel) :
    ∃ top, climb combine fuel level = some top := by
  induction fuel generalizing level with
  | zero => exact absurd (List.length_eq_zero_iff.mp (Nat.le_zero.mp hfuel)) hne
  | succ fuel ih =>
    have hpos := List.length_pos_iff.mpr hne
    by_cases hone : level.length = 1
    · obtain ⟨top,rfl⟩ := List.length_eq_one_iff.mp hone
      exact ⟨top,rfl⟩
    · have hnext := length_nextLevel combine level
      rw [(climb_of_length_ne_one combine hone fuel).1]
      refine ih _ (List.length_pos_iff.mp ?_) ?_ <;> omega

theorem root_total {level : List D} (hne : level ≠ []) : ∃ top, root combine level = some top :=
  climb_total combine _ level hne le_rfl

section Closed
variable {combine} {P : D → Prop} (hcombine : ∀ left right, P (combine left right))

theorem padded_forall {level : List D} (hlevel : ∀ digest ∈ level, P digest) : ∀ digest ∈ padded level, P digest := by
  intro digest hdigest
  rw [padded] at hdigest
  split at hdigest
  · next last hlast =>
    split at hdigest
    · obtain hmem | hrepeat := List.mem_append.mp hdigest
      · exact hlevel digest hmem
      · rw [List.mem_singleton.mp hrepeat]
        exact hlevel last (List.mem_of_getLast? hlast)
    · exact hlevel digest hdigest
  · exact hlevel digest hdigest

theorem levelPairs_forall {level : List D} (hlevel : ∀ digest ∈ level, P digest) :
    ∀ pair ∈ levelPairs level, P pair.1 ∧ P pair.2 := by
  fun_induction levelPairs level with
  | case1 left right rest ih =>
    obtain ⟨hleft,htail⟩ := List.forall_mem_cons.mp hlevel
    obtain ⟨hright,hrest⟩ := List.forall_mem_cons.mp htail
    exact List.forall_mem_cons.mpr ⟨⟨hleft,hright⟩,ih hrest⟩
  | case2 => simp

include hcombine

theorem nextLevel_forall (level : List D) : ∀ digest ∈ nextLevel combine level, P digest := by
  rw [nextLevel]
  fun_induction pairUp combine (padded level) with
  | case1 left right rest ih => exact List.forall_mem_cons.mpr ⟨hcombine left right,ih⟩
  | case2 => simp

theorem climbPairs_forall (fuel : ℕ) {level : List D} (hlevel : ∀ digest ∈ level, P digest) :
    ∀ pair ∈ climbPairs combine fuel level, P pair.1 ∧ P pair.2 := by
  induction fuel generalizing level with
  | zero =>
    match level with
    | [] => simp [climbPairs]
    | [_] => simp [climbPairs]
    | _ :: _ :: _ => simp [climbPairs]
  | succ fuel ih =>
    by_cases hone : level.length = 1
    · obtain ⟨top,rfl⟩ := List.length_eq_one_iff.mp hone
      simp [climbPairs]
    · rw [(climb_of_length_ne_one combine hone fuel).2]
      intro pair hpair
      obtain hlow | hhigh := List.mem_append.mp hpair
      · exact levelPairs_forall (padded_forall hlevel) pair hlow
      · exact ih (nextLevel_forall hcombine level) pair hhigh

theorem rootPairs_forall {level : List D} (hlevel : ∀ digest ∈ level, P digest) :
    ∀ pair ∈ rootPairs combine level, P pair.1 ∧ P pair.2 := climbPairs_forall hcombine _ hlevel

end Closed

section Naturality
variable {combine} {other : E → E → E} {f : D → E} (hf : ∀ left right, f (combine left right) = other (f left) (f right))

theorem padded_map (level : List D) : padded (level.map f) = (padded level).map f := by
  rw [padded,padded,List.getLast?_map,List.length_map]
  cases level.getLast? with
  | none => rfl
  | some last =>
    simp only [Option.map_some]
    split <;> simp

include hf

theorem nextLevel_map (level : List D) : nextLevel other (level.map f) = (nextLevel combine level).map f := by
  rw [nextLevel,nextLevel,padded_map]
  fun_induction pairUp combine (padded level) with
  | case1 left right rest ih => simp only [List.map_cons,pairUp,ih,hf]
  | case2 level hshort =>
    match level,hshort with
    | [],_ => rfl
    | [_],_ => rfl
    | left :: right :: rest,h => exact absurd rfl (h left right rest)

theorem climb_map (fuel : ℕ) (level : List D) : climb other fuel (level.map f) = (climb combine fuel level).map f := by
  induction fuel generalizing level with
  | zero =>
    match level with
    | [] => rfl
    | [_] => rfl
    | _ :: _ :: _ => rfl
  | succ fuel ih =>
    by_cases hone : level.length = 1
    · obtain ⟨top,rfl⟩ := List.length_eq_one_iff.mp hone
      rfl
    · rw [(climb_of_length_ne_one combine hone fuel).1,
        (climb_of_length_ne_one other (by rwa [List.length_map]) fuel).1,nextLevel_map hf,ih]

end Naturality

end Levels

section Trees
variable {D : Type}

inductive Tree (D : Type) where
  | leaf (digest : D)
  | node (left right : Tree D)

namespace Tree

def leaves : Tree D → List D
  | .leaf digest => [digest]
  | .node left right => left.leaves ++ right.leaves

def digest (combine : D → D → D) : Tree D → D
  | .leaf digest => digest
  | .node left right => combine (left.digest combine) (right.digest combine)

theorem digest_node (combine : D → D → D) (left right : Tree D) :
    (node left right).digest combine = combine (left.digest combine) (right.digest combine) := rfl

def pairs (combine : D → D → D) : Tree D → List (D × D)
  | .leaf _ => []
  | .node left right => (left.digest combine,right.digest combine) :: (left.pairs combine ++ right.pairs combine)

end Tree

def treeOf (level : List D) : Option (Tree D) := root Tree.node (level.map Tree.leaf)

variable (combine : D → D → D)

theorem root_eq_digest (level : List D) : root combine level = (treeOf level).map (Tree.digest combine) := by
  have hclimb := climb_map (Tree.digest_node combine) (level.map Tree.leaf).length (level.map Tree.leaf)
  rw [List.map_map,show Tree.digest combine ∘ Tree.leaf = id from rfl,List.map_id,List.length_map] at hclimb
  rw [root,hclimb,treeOf,root,List.length_map]

theorem leaves_pairUp {level : List (Tree D)} (heven : level.length % 2 = 0) :
    (pairUp Tree.node level).flatMap Tree.leaves = level.flatMap Tree.leaves := by
  fun_induction pairUp Tree.node level with
  | case1 left right rest ih =>
    rw [List.length_cons,List.length_cons] at heven
    rw [List.flatMap_cons,List.flatMap_cons,List.flatMap_cons,ih (by omega),Tree.leaves,List.append_assoc]
  | case2 level hshort =>
    match level,hshort with
    | [],_ => rfl
    | [_],_ => exact absurd heven (by simp)
    | left :: right :: rest,h => exact absurd rfl (h left right rest)

theorem leaves_nextLevel (level : List (Tree D)) :
    level.flatMap Tree.leaves <+: (nextLevel Tree.node level).flatMap Tree.leaves := by
  have heven : (padded level).length % 2 = 0 := by
    rw [length_padded]
    omega
  rw [nextLevel,leaves_pairUp heven,padded]
  split
  · split
    · rw [List.flatMap_append]
      exact List.prefix_append _ _
    · exact List.prefix_refl _
  · exact List.prefix_refl _

theorem leaves_climb (fuel : ℕ) {level : List (Tree D)} {tree : Tree D} (h : climb Tree.node fuel level = some tree) :
    level.flatMap Tree.leaves <+: tree.leaves := by
  induction fuel generalizing level with
  | zero =>
    match level,h with
    | [_],h =>
      cases h
      rw [List.flatMap_singleton]
  | succ fuel ih =>
    by_cases hone : level.length = 1
    · obtain ⟨top,rfl⟩ := List.length_eq_one_iff.mp hone
      cases h
      rw [List.flatMap_singleton]
    · rw [(climb_of_length_ne_one _ hone fuel).1] at h
      exact (leaves_nextLevel level).trans (ih h)

theorem leaves_treeOf {level : List D} {tree : Tree D} (h : treeOf level = some tree) : level <+: tree.leaves := by
  have hleaves := leaves_climb _ h
  rw [List.flatMap_map] at hleaves
  simpa [Tree.leaves] using hleaves

theorem pairs_pairUp {level : List (Tree D)} {pair : D × D}
    (h : pair ∈ (pairUp Tree.node level).flatMap (Tree.pairs combine)) :
    pair ∈ level.flatMap (Tree.pairs combine) ∨ pair ∈ levelPairs (level.map (Tree.digest combine)) := by
  fun_induction pairUp Tree.node level with
  | case1 left right rest ih =>
    rw [List.flatMap_cons,Tree.pairs,List.mem_append,List.mem_cons,List.mem_append] at h
    rw [List.flatMap_cons,List.flatMap_cons,List.mem_append,List.mem_append,List.map_cons,List.map_cons,levelPairs,
      List.mem_cons]
    obtain (hpair | hleft | hright) | hrest := h
    · exact .inr (.inl hpair)
    · exact .inl (.inl hleft)
    · exact .inl (.inr (.inl hright))
    · exact (ih hrest).imp (fun hmem => .inr (.inr hmem)) .inr
  | case2 => cases h

theorem pairs_padded {level : List (Tree D)} {pair : D × D}
    (h : pair ∈ (padded level).flatMap (Tree.pairs combine)) : pair ∈ level.flatMap (Tree.pairs combine) := by
  rw [padded] at h
  split at h
  · next last hlast =>
    split at h
    · rw [List.flatMap_append,List.mem_append,List.flatMap_singleton] at h
      exact h.elim id fun hmem => List.mem_flatMap.mpr ⟨last,List.mem_of_getLast? hlast,hmem⟩
    · exact h
  · exact h

theorem pairs_climb (fuel : ℕ) {level : List (Tree D)} {tree : Tree D} (h : climb Tree.node fuel level = some tree)
    {pair : D × D} (hpair : pair ∈ tree.pairs combine) : pair ∈ level.flatMap (Tree.pairs combine) ∨
      pair ∈ climbPairs combine fuel (level.map (Tree.digest combine)) := by
  induction fuel generalizing level with
  | zero =>
    match level,h with
    | [_],h =>
      cases h
      rw [List.flatMap_singleton]
      exact .inl hpair
  | succ fuel ih =>
    by_cases hone : level.length = 1
    · obtain ⟨top,rfl⟩ := List.length_eq_one_iff.mp hone
      cases h
      rw [List.flatMap_singleton]
      exact .inl hpair
    · rw [(climb_of_length_ne_one _ hone fuel).1] at h
      rw [(climb_of_length_ne_one combine (by rwa [List.length_map]) fuel).2,List.mem_append,padded_map,
        nextLevel_map (Tree.digest_node combine)]
      obtain hbelow | habove := ih h
      · obtain hmem | hlevel := pairs_pairUp combine hbelow
        · exact .inl (pairs_padded combine hmem)
        · exact .inr (.inl hlevel)
      · exact .inr (.inr habove)

theorem pairs_treeOf {level : List D} {tree : Tree D} (h : treeOf level = some tree) {pair : D × D}
    (hpair : pair ∈ tree.pairs combine) : pair ∈ rootPairs combine level := by
  have hpairs := pairs_climb combine _ h hpair
  rw [List.map_map,show Tree.digest combine ∘ Tree.leaf = id from rfl,List.map_id,List.length_map] at hpairs
  refine hpairs.resolve_left fun hleaf => ?_
  obtain ⟨leaf,hmem,hnone⟩ := List.mem_flatMap.mp hleaf
  obtain ⟨digest,_,rfl⟩ := List.mem_map.mp hmem
  cases hnone

theorem mem_leaves_pairUp {level : List (Tree D)} {digest : D}
    (h : digest ∈ (pairUp Tree.node level).flatMap Tree.leaves) : digest ∈ level.flatMap Tree.leaves := by
  fun_induction pairUp Tree.node level with
  | case1 left right rest ih =>
    rw [List.flatMap_cons,Tree.leaves,List.mem_append] at h
    rw [List.flatMap_cons,List.flatMap_cons,← List.append_assoc,List.mem_append]
    exact h.imp_right ih
  | case2 => cases h

theorem mem_leaves_climb (fuel : ℕ) {level : List (Tree D)} {tree : Tree D}
    (h : climb Tree.node fuel level = some tree) {digest : D} (hdigest : digest ∈ tree.leaves) :
    digest ∈ level.flatMap Tree.leaves := by
  induction fuel generalizing level with
  | zero =>
    match level,h with
    | [_],h =>
      cases h
      rwa [List.flatMap_singleton]
  | succ fuel ih =>
    by_cases hone : level.length = 1
    · obtain ⟨top,rfl⟩ := List.length_eq_one_iff.mp hone
      cases h
      rwa [List.flatMap_singleton]
    · rw [(climb_of_length_ne_one _ hone fuel).1] at h
      obtain ⟨node,hnode,hmem⟩ := List.mem_flatMap.mp (mem_leaves_pairUp (ih h))
      exact List.mem_flatMap.mpr ⟨node,padded_forall (fun _ hin => hin) node hnode,hmem⟩

theorem mem_of_treeOf {level : List D} {tree : Tree D} (h : treeOf level = some tree) {digest : D}
    (hdigest : digest ∈ tree.leaves) : digest ∈ level := by
  have hmem := mem_leaves_climb _ h hdigest
  rw [List.flatMap_map] at hmem
  simpa [Tree.leaves] using hmem

theorem digest_injective {left right : Tree D}
    (hcollision : ∀ p ∈ left.pairs combine, ∀ q ∈ right.pairs combine,
      combine p.1 p.2 = combine q.1 q.2 → p = q)
    (hleft : ∀ digest ∈ left.leaves, ∀ q ∈ right.pairs combine, digest ≠ combine q.1 q.2)
    (hright : ∀ digest ∈ right.leaves, ∀ p ∈ left.pairs combine, digest ≠ combine p.1 p.2)
    (h : left.digest combine = right.digest combine) : left = right := by
  induction left generalizing right with
  | leaf digest =>
    cases right with
    | leaf other => exact congrArg Tree.leaf h
    | node l r => exact absurd h (hleft _ (List.mem_singleton.mpr rfl) _ List.mem_cons_self)
  | node l r ihl ihr =>
    cases right with
    | leaf other => exact absurd h.symm (hright _ (List.mem_singleton.mpr rfl) _ List.mem_cons_self)
    | node l' r' =>
      obtain ⟨hl,hr⟩ := Prod.mk.inj (hcollision _ List.mem_cons_self _ List.mem_cons_self h)
      have hlp (p : D × D) (hp : p ∈ l.pairs combine) : p ∈ (Tree.node l r).pairs combine :=
        List.mem_cons_of_mem _ (List.mem_append_left _ hp)
      have hrp (p : D × D) (hp : p ∈ r.pairs combine) : p ∈ (Tree.node l r).pairs combine :=
        List.mem_cons_of_mem _ (List.mem_append_right _ hp)
      have hlp' (p : D × D) (hp : p ∈ l'.pairs combine) : p ∈ (Tree.node l' r').pairs combine :=
        List.mem_cons_of_mem _ (List.mem_append_left _ hp)
      have hrp' (p : D × D) (hp : p ∈ r'.pairs combine) : p ∈ (Tree.node l' r').pairs combine :=
        List.mem_cons_of_mem _ (List.mem_append_right _ hp)
      rw [ihl (fun p hp q hq => hcollision p (hlp p hp) q (hlp' q hq))
          (fun d hd q hq => hleft d (List.mem_append_left _ hd) q (hlp' q hq))
          (fun d hd p hp => hright d (List.mem_append_left _ hd) p (hlp p hp)) hl,
        ihr (fun p hp q hq => hcollision p (hrp p hp) q (hrp' q hq))
          (fun d hd q hq => hleft d (List.mem_append_right _ hd) q (hrp' q hq))
          (fun d hd p hp => hright d (List.mem_append_right _ hd) p (hrp p hp)) hr]

variable {combine}

theorem root_binding {level other : List D} (hne : level ≠ [])
    (hcollision : ∀ p ∈ rootPairs combine level, ∀ q ∈ rootPairs combine other,
      combine p.1 p.2 = combine q.1 q.2 → p = q)
    (hleft : ∀ digest ∈ level, ∀ q ∈ rootPairs combine other, digest ≠ combine q.1 q.2)
    (hright : ∀ digest ∈ other, ∀ p ∈ rootPairs combine level, digest ≠ combine p.1 p.2)
    (h : root combine level = root combine other) : treeOf level = treeOf other := by
  obtain ⟨top,htop⟩ := root_total combine hne
  rw [htop,root_eq_digest] at h
  rw [root_eq_digest] at htop
  obtain ⟨tree,htree,hdigest⟩ := Option.map_eq_some_iff.mp htop
  obtain ⟨tree',htree',hdigest'⟩ := Option.map_eq_some_iff.mp h.symm
  rw [htree,htree',digest_injective combine
    (fun p hp q hq => hcollision p (pairs_treeOf combine htree hp) q (pairs_treeOf combine htree' hq))
    (fun d hd q hq => hleft d (mem_of_treeOf htree hd) q (pairs_treeOf combine htree' hq))
    (fun d hd p hp => hright d (mem_of_treeOf htree' hd) p (pairs_treeOf combine htree hp))
    (hdigest.trans hdigest'.symm)]

theorem prefix_of_treeOf {level other : List D} (hne : level ≠ []) (h : treeOf level = treeOf other) :
    level <+: other ∨ other <+: level := by
  have hleaves : level.map Tree.leaf ≠ [] := by simpa using hne
  obtain ⟨tree,htree⟩ := root_total Tree.node hleaves
  exact List.prefix_or_prefix_of_prefix (leaves_treeOf htree) (leaves_treeOf (h ▸ htree))

theorem eq_of_treeOf {level other : List D} (hne : level ≠ []) (h : treeOf level = treeOf other)
    (hlength : level.length = other.length) : level = other :=
  (prefix_of_treeOf hne h).elim (fun hprefix => hprefix.eq_of_length hlength)
    fun hprefix => ( hprefix.eq_of_length hlength.symm).symm

end Trees

end MerkleTree
