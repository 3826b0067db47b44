import Mathlib.Algebra.Order.BigOperators.Group.List
import Mathlib.Algebra.Order.Group.Defs
import Mathlib.Algebra.Order.Sub.Basic
import Mathlib.Order.Basic
import Mathlib.Tactic.Linarith

namespace PneumaLab.SlidingWindow

section Total
variable {T M : Type} [AddCommGroup T] [LinearOrder T] [AddCommMonoid M]

def inside (width : T) (instant : T) (entry : T × M) : Bool :=
  decide (instant - width ≤ entry.1 ∧ entry.1 ≤ instant)

def total (width : T) (entries : List (T × M)) (instant : T) : M :=
  ((entries.filter (inside width instant)).map Prod.snd).sum

theorem total_concat (width : T) (entries : List (T × M)) (entry : T × M) (instant : T) :
    total width (entries ++ [entry]) instant =
      total width entries instant + if inside width instant entry then entry.2 else 0 := by
  rw [total,List.filter_append,List.map_append,List.sum_append]
  by_cases hinside : inside width instant entry <;> simp [total,hinside]

variable [IsOrderedAddMonoid T] [PartialOrder M] [IsOrderedAddMonoid M]
variable {width : T} {bound : M} {entries : List (T × M)} {entry : T × M}

theorem total_le_last (hnonneg : ∀ e ∈ entries, 0 ≤ e.2) {last : T} (hlast : ∀ e ∈ entries, e.1 ≤ last)
    {instant : T} (h : last ≤ instant) : total width entries instant ≤ total width entries last := by
  have hinside : ∀ e ∈ entries, inside width instant e = (inside width instant e && inside width last e) := by
    intro e he
    have himp : inside width instant e = true → inside width last e = true := by
      simp only [inside,decide_eq_true_eq]
      exact fun ⟨hlow,_⟩ => ⟨(sub_le_sub_right h width).trans hlow,hlast e he⟩
    cases hin : inside width instant e with
    | false => rfl
    | true => rw [himp hin,Bool.and_true]
  have hsub : (entries.filter (inside width instant)).Sublist (entries.filter (inside width last)) := by
    rw [List.filter_congr hinside,← List.filter_filter]
    exact List.filter_sublist
  apply (hsub.map Prod.snd).sum_le_sum
  intro amount hamount
  obtain ⟨e,he,rfl⟩ := List.mem_map.mp hamount
  exact hnonneg e (List.mem_of_mem_filter he)

theorem total_concat_le_iff (hwidth : 0 ≤ width) (hnonneg : ∀ e ∈ entries, 0 ≤ e.2) (hentry : 0 ≤ entry.2)
    (hlast : ∀ e ∈ entries, e.1 ≤ entry.1) :
    (∀ instant, total width (entries ++ [entry]) instant ≤ bound) ↔
      (∀ instant, total width entries instant ≤ bound) ∧ total width entries entry.1 + entry.2 ≤ bound := by
  simp only [total_concat]
  constructor
  · intro h
    have hown : inside width entry.1 entry = true := decide_eq_true ⟨sub_le_self _ hwidth,le_rfl⟩
    refine ⟨fun instant => le_trans (le_add_of_nonneg_right ?_) (h instant),?_⟩
    · split
      · exact hentry
      · exact le_rfl
    · have hself := h entry.1
      rw [if_pos hown] at hself
      exact hself
  · rintro ⟨hbefore,hown⟩ instant
    by_cases hinside : inside width instant entry = true
    · rw [if_pos hinside]
      have hlater : entry.1 ≤ instant := (of_decide_eq_true hinside).2
      exact (add_le_add_left (total_le_last hnonneg hlast hlater) entry.2).trans hown
    · rw [if_neg hinside,add_zero]
      exact hbefore instant

end Total

end PneumaLab.SlidingWindow
