import Mathlib.Tactic

namespace IntervalCounts

def bincount (offsets : List ℕ) (width : ℕ) : List ℤ := (List.range width).map fun k => (offsets.count k : ℤ)

def changes (starts ends : List ℕ) (width : ℕ) : List ℤ :=
  List.zipWith (· - ·) (bincount starts width) (bincount ends width)

def cumsum (xs : List ℤ) : List ℤ := (List.range xs.length).map fun k => (xs.take (k + 1)).sum

theorem length_bincount (offsets : List ℕ) (width : ℕ) : (bincount offsets width).length = width := by
  rw [bincount,List.length_map,List.length_range]

theorem countP_le_succ (offsets : List ℕ) (k : ℕ) :
    offsets.countP (fun offset => decide (offset ≤ k + 1)) =
      offsets.countP (fun offset => decide (offset ≤ k)) + offsets.count (k + 1) := by
  induction offsets with
  | nil => rfl
  | cons offset offsets ih =>
    rw [List.countP_cons,List.countP_cons,List.count_cons,ih]
    by_cases hle : offset ≤ k
    · have hne : ¬ offset = k + 1 := by omega
      have hle' : offset ≤ k + 1 := by omega
      simp only [hle,hle',hne,decide_true,beq_iff_eq,if_true,if_false]
      omega
    · by_cases heq : offset = k + 1
      · simp only [heq,le_refl,beq_self_eq_true,decide_true,if_true]
        have hnot : ¬ k + 1 ≤ k := by omega
        simp only [hnot,decide_false,Bool.false_eq_true,if_false]
        omega
      · have hle' : ¬ offset ≤ k + 1 := by omega
        simp only [hle,hle',heq,decide_false,beq_iff_eq,Bool.false_eq_true,if_false]
        omega

theorem sum_take_bincount (offsets : List ℕ) {width k : ℕ} (hk : k < width) :
    ((bincount offsets width).take (k + 1)).sum = (offsets.countP fun offset => decide (offset ≤ k) : ℤ) := by
  induction k with
  | zero =>
    have hzero : offsets.countP (fun offset => decide (offset ≤ 0)) = offsets.count 0 := by
      rw [List.count]
      refine List.countP_congr fun offset _ => ?_
      simp
    rw [bincount,← List.map_take,List.take_range,min_eq_left (by omega),hzero]
    simp
  | succ k ih =>
    have hlength : k + 1 < (bincount offsets width).length := by rwa [length_bincount]
    have hget : (bincount offsets width)[k + 1] = (offsets.count (k + 1) : ℤ) := by simp [bincount]
    rw [List.take_succ_eq_append_getElem hlength,List.sum_append,ih (by omega),countP_le_succ,hget]
    simp

theorem length_changes (starts ends : List ℕ) (width : ℕ) : (changes starts ends width).length = width := by
  rw [changes,List.length_zipWith,length_bincount,length_bincount,min_self]

theorem sum_take_zipWith_sub (xs ys : List ℤ) (h : xs.length = ys.length) (n : ℕ) :
    ((List.zipWith (· - ·) xs ys).take n).sum = (xs.take n).sum - (ys.take n).sum := by
  induction xs generalizing ys n with
  | nil =>
    cases ys with
    | nil => simp
    | cons y ys => cases h
  | cons x xs ih =>
    cases ys with
    | nil => cases h
    | cons y ys =>
      cases n with
      | zero => rfl
      | succ n =>
        have hrest := ih ys (Nat.succ.inj h) n
        rw [List.zipWith_cons_cons,List.take_succ_cons,List.take_succ_cons,List.take_succ_cons,List.sum_cons,List.sum_cons,
          List.sum_cons,hrest]
        omega

theorem cumsum_changes (starts ends : List ℕ) {width k : ℕ} (hk : k < width) :
    (cumsum (changes starts ends width))[k]? =
      some ((starts.countP fun start => decide (start ≤ k) : ℤ) - (ends.countP fun stop => decide (stop ≤ k) : ℤ)) := by
  rw [cumsum,List.getElem?_map,List.getElem?_range (by rwa [length_changes]),Option.map_some,changes,
    sum_take_zipWith_sub _ _ (by rw [length_bincount,length_bincount]),sum_take_bincount starts hk,
    sum_take_bincount ends hk]

theorem countP_open {α : Type} (ranges : List α) (start stop : α → ℕ) (h : ∀ range ∈ ranges, start range ≤ stop range)
    (k : ℕ) : ((ranges.map start).countP (fun offset => decide (offset ≤ k)) : ℤ) -
        ((ranges.map stop).countP fun offset => decide (offset ≤ k)) =
      ranges.countP fun range => decide (start range ≤ k ∧ k < stop range) := by
  induction ranges with
  | nil => rfl
  | cons range ranges ih =>
    obtain ⟨hrange,hrest⟩ := List.forall_mem_cons.mp h
    have hcount := ih hrest
    simp only [List.map_cons,List.countP_cons,decide_eq_true_eq]
    split_ifs <;> omega

end IntervalCounts
