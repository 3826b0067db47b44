import Mathlib.Algebra.BigOperators.Group.Finset.Basic
import Mathlib.Data.Set.Card
import Mathlib.Algebra.Order.Ring.Int

namespace PneumaLab.LevelSearch

variable {S U : Type} (act : S → U → S) (root : S) (units : List U) (measure : S → ℤ) (target : ℤ)

def value (word : List U) : S := word.foldl act root

def Reaches (word : List U) : Prop := (∀ u ∈ word, u ∈ units) ∧ measure (value act root word) = target

def level : ℕ → Set S
  | 0 => {root}
  | j + 1 => {t | ∃ s ∈ level j, measure s < target ∧ ∃ u ∈ units, t = act s u}

def Shortest (m : ℕ) : Prop :=
  (∃ word, Reaches act root units measure target word ∧ word.length = m) ∧
    ∀ word, Reaches act root units measure target word → m ≤ word.length

noncomputable def statesBefore (m : ℕ) : ℕ := ∑ j ∈ Finset.range m, (level act root units measure target j).ncard

section Levels
variable {act root units measure target}

theorem value_append (word : List U) (u : U) : value act root (word ++ [u]) = act (value act root word) u := by
  rw [value,List.foldl_append]
  rfl

theorem exists_shortest {word : List U} (h : Reaches act root units measure target word) :
    ∃ m, Shortest act root units measure target m := by
  classical
  have hsome : ∃ m, ∃ word, Reaches act root units measure target word ∧ word.length = m := ⟨word.length,word,h,rfl⟩
  refine ⟨Nat.find hsome,Nat.find_spec hsome,fun other hother => ?_⟩
  exact Nat.find_min' hsome ⟨other,hother,rfl⟩

theorem finite_level (j : ℕ) : (level act root units measure target j).Finite := by
  induction j with
  | zero => exact Set.finite_singleton root
  | succ j ih =>
    apply (ih.image2 act (List.finite_toSet units)).subset
    rintro t ⟨s,hs,-,u,hu,rfl⟩
    exact ⟨s,hs,u,hu,rfl⟩

theorem word_of_level {j : ℕ} {s : S} (h : s ∈ level act root units measure target j) :
    ∃ word : List U, word.length = j ∧ (∀ u ∈ word, u ∈ units) ∧ value act root word = s := by
  induction j generalizing s with
  | zero => exact ⟨[],rfl,fun u hu => absurd hu List.not_mem_nil,h.symm⟩
  | succ j ih =>
    obtain ⟨prev,hprev,-,u,hu,rfl⟩ := h
    obtain ⟨word,hlength,hword,rfl⟩ := ih hprev
    refine ⟨word ++ [u],by rw [List.length_append,hlength]; rfl,?_,value_append word u⟩
    intro v hv
    obtain hv | hv := List.mem_append.mp hv
    · exact hword v hv
    · exact List.mem_singleton.mp hv ▸ hu

theorem mem_level (hmono : ∀ s u, u ∈ units → measure s ≤ measure (act s u)) (word : List U)
    (hword : ∀ u ∈ word, u ∈ units) (hle : measure (value act root word) ≤ target)
    (hfirst : ∀ other, Reaches act root units measure target other → word.length ≤ other.length) :
    value act root word ∈ level act root units measure target word.length := by
  induction word using List.reverseRecOn with
  | nil => exact rfl
  | append_singleton word u ih =>
    have hu : u ∈ units := hword u (List.mem_append_right word (List.mem_singleton_self u))
    have hinit : ∀ v ∈ word, v ∈ units := fun v hv => hword v (List.mem_append_left [u] hv)
    rw [value_append] at hle
    have hstep : measure (value act root word) ≤ target := (hmono _ u hu).trans hle
    have hne : measure (value act root word) ≠ target := by
      intro heq
      have hlong := hfirst word ⟨hinit,heq⟩
      rw [List.length_append,List.length_singleton] at hlong
      omega
    have hprev := ih hinit hstep fun other hother => by
      have hlong := hfirst other hother
      rw [List.length_append,List.length_singleton] at hlong
      omega
    rw [List.length_append,List.length_singleton,value_append]
    exact ⟨_,hprev,lt_of_le_of_ne hstep hne,u,hu,rfl⟩

theorem level_empty {j m : ℕ} (h : level act root units measure target j = ∅) (hle : j ≤ m) :
    level act root units measure target m = ∅ := by
  induction hle with
  | refl => exact h
  | step _ ih =>
    apply Set.eq_empty_of_forall_notMem
    rintro t ⟨s,hs,-⟩
    rw [ih] at hs
    exact hs

theorem shortest_iff (hmono : ∀ s u, u ∈ units → measure s ≤ measure (act s u)) (m : ℕ) :
    Shortest act root units measure target m ↔
      (∃ s ∈ level act root units measure target m, measure s = target) ∧
        ∀ i < m, ∀ s ∈ level act root units measure target i, measure s ≠ target := by
  have hforward (m : ℕ) (h : Shortest act root units measure target m) :
      (∃ s ∈ level act root units measure target m, measure s = target) ∧
        ∀ i < m, ∀ s ∈ level act root units measure target i, measure s ≠ target := by
    obtain ⟨⟨word,hreaches,rfl⟩,hfirst⟩ := h
    refine ⟨⟨_,mem_level hmono word hreaches.1 hreaches.2.le hfirst,hreaches.2⟩,?_⟩
    intro i hi s hs heq
    obtain ⟨other,rfl,hother,rfl⟩ := word_of_level hs
    exact absurd (hfirst other ⟨hother,heq⟩) (not_le_of_gt hi)
  constructor
  · exact hforward m
  · rintro ⟨⟨s,hs,heq⟩,hfresh⟩
    obtain ⟨word,hlength,hword,rfl⟩ := word_of_level hs
    refine ⟨⟨word,⟨hword,heq⟩,hlength⟩,fun other hother => ?_⟩
    obtain ⟨first,hshortest⟩ := exists_shortest hother
    have hle : m ≤ first := by
      by_contra hlt
      obtain ⟨⟨t,ht,hhit⟩,-⟩ := hforward first hshortest
      exact hfresh first (by omega) t ht hhit
    exact hle.trans (hshortest.2 other hother)

theorem statesBefore_succ (m : ℕ) : statesBefore act root units measure target (m + 1) =
    statesBefore act root units measure target m + (level act root units measure target m).ncard :=
  Finset.sum_range_succ _ _

theorem statesBefore_mono {j m : ℕ} (h : j ≤ m) :
    statesBefore act root units measure target j ≤ statesBefore act root units measure target m := by
  induction h with
  | refl => exact le_rfl
  | step h ih =>
    rw [statesBefore_succ]
    omega

end Levels

end PneumaLab.LevelSearch
