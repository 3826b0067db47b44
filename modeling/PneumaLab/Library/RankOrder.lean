import Mathlib.Algebra.Field.Basic
import Mathlib.Algebra.CharZero.Defs
import Mathlib.Algebra.Order.BigOperators.Group.List
import Mathlib.Data.List.Sort
import Mathlib.Data.List.TakeWhile
import Mathlib.Tactic

namespace RankOrder

variable {α K : Type} [LinearOrder α] [Field K]

def below (keys : List α) (x : α) : ℕ := keys.countP (· < x)

def ties (keys : List α) (x : α) : ℕ := keys.countP (· = x)

def midrank (keys : List α) (x : α) : K := below keys x + (ties keys x + 1) / (2 : ℕ)

def ranksFrom (i : ℕ) : List α → List K
  | [] => []
  | x :: rest =>
    List.replicate ((rest.takeWhile (· = x)).length + 1) (((i : K) + (i + (rest.takeWhile (· = x)).length : ℕ)) / (2 : ℕ) + 1) ++
      ranksFrom (i + (rest.takeWhile (· = x)).length + 1) (rest.dropWhile (· = x))
termination_by keys => keys.length
decreasing_by
  exact Nat.lt_succ_of_le (List.dropWhile_sublist _).length_le

def triangle (n : ℕ) : K := n * (n + 1) / (2 : ℕ)

def wins (x y : α) : K := if y < x then 1 else if y = x then 1 / (2 : ℕ) else 0

theorem below_perm {keys others : List α} (h : others.Perm keys) (x : α) : below others x = below keys x := h.countP_eq _

theorem ties_perm {keys others : List α} (h : others.Perm keys) (x : α) : ties others x = ties keys x := h.countP_eq _

theorem midrank_perm {keys others : List α} (h : others.Perm keys) (x : α) : midrank (K := K) others x = midrank keys x := by
  rw [midrank,below_perm h,ties_perm h,midrank]

theorem dropWhile_gt {x : α} {rest : List α} (h : (x :: rest).Pairwise (· ≤ ·)) {y : α} (hy : y ∈ rest.dropWhile (· = x)) : x < y := by
  obtain ⟨hx,hrest⟩ := List.pairwise_cons.mp h
  induction rest with
  | nil => cases hy
  | cons z rest ih =>
    rw [List.dropWhile_cons] at hy
    split at hy
    · exact ih (h.sublist (by simp)) hy (fun w hw => hx w (List.mem_cons_of_mem _ hw)) hrest.of_cons
    · next hne =>
      have hz : x < z := lt_of_le_of_ne (hx z List.mem_cons_self) (Ne.symm (by simpa using hne))
      obtain rfl | hmem := List.mem_cons.mp hy
      · exact hz
      · exact hz.trans_le (List.rel_of_pairwise_cons hrest hmem)

section Runs
variable [CharZero K]

theorem midrank_run {before run after : List α} {x : α} (hbefore : ∀ a ∈ before, a < x) (hrun : ∀ a ∈ run, a = x)
    (hafter : ∀ a ∈ after, x < a) :
    midrank (before ++ run ++ after) x = ((before.length : K) + (before.length + run.length : ℕ) - 1) / 2 + 1 := by
  have hbelow : below (before ++ run ++ after) x = before.length := by
    have hfirst : before.countP (· < x) = before.length := List.countP_eq_length.mpr (by simpa using hbefore)
    have hsecond : run.countP (· < x) = 0 := List.countP_eq_zero.mpr fun a ha => by simp [hrun a ha]
    have hthird : after.countP (· < x) = 0 := List.countP_eq_zero.mpr fun a ha => by simpa using (hafter a ha).le
    simp only [below,List.countP_append,hfirst,hsecond,hthird,Nat.add_zero]
  have hties : ties (before ++ run ++ after) x = run.length := by
    have hfirst : before.countP (· = x) = 0 := List.countP_eq_zero.mpr fun a ha => by simpa using (hbefore a ha).ne
    have hsecond : run.countP (· = x) = run.length := List.countP_eq_length.mpr (by simpa using hrun)
    have hthird : after.countP (· = x) = 0 := List.countP_eq_zero.mpr fun a ha => by simpa using (hafter a ha).ne'
    simp only [ties,List.countP_append,hfirst,hsecond,hthird,Nat.zero_add,Nat.add_zero]
  rw [midrank,hbelow,hties]
  push_cast
  ring

theorem ranksFrom_eq (before rest : List α) (hsorted : rest.Pairwise (· ≤ ·)) (hlt : ∀ a ∈ before, ∀ b ∈ rest, a < b) :
    ranksFrom (K := K) before.length rest = rest.map (midrank (before ++ rest)) := by
  induction hn : rest.length using Nat.strong_induction_on generalizing before rest with
  | _ n ih =>
    cases rest with
    | nil => rw [ranksFrom,List.map_nil]
    | cons x rest =>
      have hrun : ∀ a ∈ x :: rest.takeWhile (· = x), a = x := by
        intro a ha
        obtain rfl | ha := List.mem_cons.mp ha
        · rfl
        · simpa using List.mem_takeWhile_imp ha
      have hafter : ∀ a ∈ rest.dropWhile (· = x), x < a := fun a ha => dropWhile_gt hsorted ha
      have hsplit : x :: rest = (x :: rest.takeWhile (· = x)) ++ rest.dropWhile (· = x) := by
        rw [List.cons_append,List.takeWhile_append_dropWhile]
      have hnext := ih (rest.dropWhile (· = x)).length
        (hn ▸ Nat.lt_succ_of_le (List.dropWhile_sublist _).length_le) (before ++ (x :: rest.takeWhile (· = x)))
        (rest.dropWhile (· = x)) (hsorted.sublist ((List.dropWhile_sublist _).cons _)) ?_ rfl
      · rw [List.append_assoc,← hsplit] at hnext
        have hhead := midrank_run (K := K) (fun a ha => hlt a ha x List.mem_cons_self) hrun hafter
        rw [List.append_assoc,← hsplit] at hhead
        have hmap : (x :: rest.takeWhile (· = x)).map (midrank (K := K) (before ++ x :: rest)) =
            List.replicate ((rest.takeWhile (· = x)).length + 1) (midrank (before ++ x :: rest) x) := by
          rw [List.eq_replicate_iff]
          refine ⟨by simp,fun r hr => ?_⟩
          obtain ⟨a,ha,rfl⟩ := List.mem_map.mp hr
          rw [hrun a ha]
        have hlength : (before ++ x :: rest.takeWhile (· = x)).length = before.length + (rest.takeWhile (· = x)).length + 1 := by
          simp [Nat.add_assoc]
        rw [hlength] at hnext
        rw [ranksFrom,hnext]
        conv_rhs => rw [hsplit,List.map_append,← hsplit,hmap,hhead]
        congr 2
        simp only [List.length_cons]
        push_cast
        ring
      · intro a ha b hb
        obtain ha | ha := List.mem_append.mp ha
        · exact hlt a ha b (List.mem_cons_of_mem _ ((List.dropWhile_sublist _).subset hb))
        · exact hrun a ha ▸ hafter b hb

theorem ranksFrom_zero {keys : List α} (h : keys.Pairwise (· ≤ ·)) : ranksFrom (K := K) 0 keys = keys.map (midrank keys) :=
  ranksFrom_eq [] keys h (by simp)

theorem midrank_eq_sum (keys : List α) (x : α) :
    midrank (K := K) keys x = (keys.map (wins x)).sum + 1 / 2 := by
  have hsum : (below keys x : K) + ties keys x / 2 = (keys.map (wins x)).sum := by
    induction keys with
    | nil => simp [below,ties]
    | cons y keys ih =>
      rw [List.map_cons,List.sum_cons,← ih,below,below,ties,ties,List.countP_cons,List.countP_cons,wins]
      obtain hy | rfl | hy := lt_trichotomy y x
      · simp [hy,hy.ne]
        ring
      · simp
        ring
      · simp [hy.not_gt,hy.ne']
  rw [midrank,← hsum]
  ring

theorem wins_add_wins (x y : α) : wins (K := K) x y + wins y x = 1 := by
  obtain h | rfl | h := lt_trichotomy x y
  · simp [wins,h,h.not_gt,h.ne']
  · simp only [wins,lt_irrefl,if_false,if_true]
    ring
  · simp [wins,h,h.not_gt,h.ne']

omit [CharZero K] in
theorem sum_map_swap {β γ : Type} (f : β → γ → K) (xs : List β) (ys : List γ) :
    (xs.map fun x => (ys.map fun y => f x y).sum).sum = (ys.map fun y => (xs.map fun x => f x y).sum).sum := by
  induction xs with
  | nil => simp
  | cons x xs ih =>
    rw [List.map_cons,List.sum_cons,ih,← List.sum_map_add]
    simp only [List.map_cons,List.sum_cons]

theorem sum_wins_self (keys : List α) : (keys.map fun x => (keys.map (wins x)).sum).sum = (keys.length : K) ^ 2 / 2 := by
  have hrow (y : α) : (keys.map fun x => wins y x).sum + (keys.map fun x => wins x y).sum = (keys.length : K) := by
    rw [← List.sum_map_add]
    simp [wins_add_wins]
  have hboth : (keys.map fun y => (keys.map fun x => wins y x).sum).sum +
      (keys.map fun y => (keys.map fun x => wins x y).sum).sum = (keys.length : K) ^ 2 := by
    rw [← List.sum_map_add]
    simp only [hrow]
    simp [sq]
  rw [← sum_map_swap (wins (K := K)) keys keys,← mul_two] at hboth
  rw [eq_div_iff two_ne_zero]
  exact hboth

end Runs

section Sorting
variable {β : Type}

def sortBy (key : β → α) (rows : List β) : List β := rows.mergeSort fun a b => key a ≤ key b

theorem sortBy_perm (key : β → α) (rows : List β) : (sortBy key rows).Perm rows := List.mergeSort_perm _ _

theorem sortBy_pairwise (key : β → α) (rows : List β) : (sortBy key rows).Pairwise fun a b => key a ≤ key b := by
  refine (List.pairwise_mergeSort ?_ ?_ rows).imp fun hle => of_decide_eq_true hle
  · intro a b c hab hbc
    exact decide_eq_true ((of_decide_eq_true hab).trans (of_decide_eq_true hbc))
  · intro a b
    simpa using le_total (key a) (key b)

theorem sortBy_eq_self {key : β → α} {rows : List β} (h : rows.Pairwise fun a b => key a ≤ key b) : sortBy key rows = rows :=
  List.mergeSort_of_pairwise (h.imp fun hle => decide_eq_true hle)

theorem map_sortBy {γ : Type} (key : β → α) (f : γ → β) (rows : List γ) :
    (sortBy (fun row => key (f row)) rows).map f = sortBy key (rows.map f) :=
  List.map_mergeSort fun _ _ _ _ => rfl

theorem filter_sortBy (key : β → α) (rows : List β) (x : α) :
    (sortBy key rows).filter (key · = x) = rows.filter (key · = x) := by
  have hequal : (rows.filter (key · = x)).Pairwise fun a b => decide (key a ≤ key b) = true := by
    refine List.pairwise_iff_forall_sublist.mpr fun {a b} hab => ?_
    have hmem (c : β) (hc : c ∈ [a,b]) : key c = x := by simpa using (List.mem_filter.mp (hab.subset hc)).2
    rw [hmem a (by simp),hmem b (by simp)]
    exact decide_eq_true le_rfl
  have hsub : (rows.filter (key · = x)).Sublist (sortBy key rows) := by
    refine List.sublist_mergeSort ?_ ?_ hequal List.filter_sublist
    · intro a b c hab hbc
      exact decide_eq_true ((of_decide_eq_true hab).trans (of_decide_eq_true hbc))
    · intro a b
      simpa using le_total (key a) (key b)
  have hfiltered := hsub.filter (key · = x)
  rw [List.filter_filter] at hfiltered
  simp only [Bool.and_self] at hfiltered
  exact (hfiltered.eq_of_length ((sortBy_perm key rows).filter _).length_eq.symm).symm

theorem split_sorted {key : β → α} {rows : List β} (h : rows.Pairwise fun a b => key a ≤ key b) (x : α) :
    rows = rows.filter (key · < x) ++ rows.filter (key · = x) ++ rows.filter (x < key ·) := by
  induction rows with
  | nil => rfl
  | cons row rows ih =>
    obtain ⟨hrow,hrows⟩ := List.pairwise_cons.mp h
    have hrest := ih hrows
    obtain hlt | heq | hgt := lt_trichotomy (key row) x
    · simp only [List.filter_cons,hlt,hlt.ne,hlt.not_gt,decide_true,decide_false,if_true,Bool.false_eq_true,if_false,List.cons_append]
      rw [← hrest]
    · have hnone : rows.filter (key · < x) = [] :=
        List.filter_eq_nil_iff.mpr fun b hb => by simpa [← heq] using hrow b hb
      rw [hnone,List.nil_append] at hrest
      simp only [List.filter_cons,heq,lt_irrefl,decide_true,decide_false,if_true,Bool.false_eq_true,if_false,hnone,List.nil_append,
        List.cons_append]
      rw [← hrest]
    · have hnone : rows.filter (key · < x) = [] :=
        List.filter_eq_nil_iff.mpr fun b hb => by simpa using (hgt.trans_le (hrow b hb)).le
      have hnone' : rows.filter (key · = x) = [] :=
        List.filter_eq_nil_iff.mpr fun b hb => by simpa using (hgt.trans_le (hrow b hb)).ne'
      rw [hnone,hnone',List.nil_append,List.nil_append] at hrest
      simp only [List.filter_cons,hgt,hgt.ne',hgt.not_gt,decide_true,decide_false,if_true,Bool.false_eq_true,if_false,hnone,hnone',
        List.nil_append]
      rw [← hrest]

end Sorting

section Slices
variable {β : Type}

def slice (xs : List β) (lo hi : ℕ) : List β := (xs.take hi).drop lo

theorem slice_append (xs ys : List β) (lo hi : ℕ) :
    slice (xs ++ ys) lo hi = slice xs lo hi ++ slice ys (lo - xs.length) (hi - xs.length) := by
  rw [slice,List.take_append,List.drop_append,slice,slice,List.length_take]
  congr 1
  obtain h | h := le_total hi xs.length
  · simp [Nat.sub_eq_zero_of_le h]
  · rw [min_eq_right h]

end Slices

end RankOrder
