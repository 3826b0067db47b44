import Mathlib.Data.List.Nodup

namespace PneumaLab

section Keyed

variable {α κ : Type} [DecidableEq κ]

theorem find_of_nodup {key : α → κ} {xs : List α} (hkeys : (xs.map key).Nodup) {x : α} (hx : x ∈ xs) :
    xs.find? (fun other => key other = key x) = some x := by
  induction xs with
  | nil => exact absurd hx List.not_mem_nil
  | cons other xs ih =>
    obtain ⟨hfresh,hrest⟩ := List.nodup_cons.mp hkeys
    rcases List.mem_cons.mp hx with rfl | hx
    · exact List.find?_cons_of_pos (by simp)
    · have hne : key other ≠ key x := fun he => hfresh (he ▸ List.mem_map_of_mem hx)
      rw [List.find?_cons_of_neg (by simpa using hne)]
      exact ih hrest hx

theorem key_of_find {key : α → κ} {xs : List α} {k : κ} {x : α}
    (h : xs.find? (fun other => key other = k) = some x) : x ∈ xs ∧ key x = k :=
  ⟨List.mem_of_find?_eq_some h,of_decide_eq_true (@List.find?_some _ (fun other => decide (key other = k)) _ _ h)⟩

theorem find_key_eq_some {key : α → κ} {xs : List α} (hkeys : (xs.map key).Nodup) {k : κ} {x : α} :
    xs.find? (fun other => key other = k) = some x ↔ x ∈ xs ∧ key x = k := by
  constructor
  · exact key_of_find
  · rintro ⟨hx,rfl⟩
    exact find_of_nodup hkeys hx

theorem filter_key {key : α → κ} {xs : List α} (hkeys : (xs.map key).Nodup) {x : α} (hx : x ∈ xs) :
    xs.filter (fun other => key other = key x) = [x] := by
  induction xs with
  | nil => exact absurd hx List.not_mem_nil
  | cons other xs ih =>
    obtain ⟨hfresh,hrest⟩ := List.nodup_cons.mp hkeys
    rcases List.mem_cons.mp hx with rfl | hx
    · rw [List.filter_cons_of_pos (by simp),List.filter_eq_nil_iff.mpr]
      intro y hy he
      exact hfresh (of_decide_eq_true he ▸ List.mem_map_of_mem hy)
    · have hne : key other ≠ key x := fun he => hfresh (he ▸ List.mem_map_of_mem hx)
      rw [List.filter_cons_of_neg (by simpa using hne)]
      exact ih hrest hx

theorem lookup_of_mem {rows : List (κ × α)} (hkeys : (rows.map Prod.fst).Nodup) {key : κ} {value : α}
    (h : (key,value) ∈ rows) : rows.lookup key = some value := by
  induction rows with
  | nil => exact absurd h List.not_mem_nil
  | cons row rows ih =>
    obtain ⟨hfresh,hrest⟩ := List.nodup_cons.mp hkeys
    rcases List.mem_cons.mp h with rfl | h
    · simp
    · have hne : key ≠ row.1 := fun he => hfresh (he ▸ List.mem_map_of_mem h)
      rw [List.lookup_cons,beq_false_of_ne hne]
      exact ih hrest h

theorem mem_of_lookup {rows : List (κ × α)} {key : κ} {value : α} (h : rows.lookup key = some value) :
    (key,value) ∈ rows := by
  induction rows with
  | nil => cases h
  | cons row rows ih =>
    rw [List.lookup_cons] at h
    by_cases he : key = row.1
    · subst he
      rw [beq_self_eq_true] at h
      exact List.mem_cons.mpr (.inl (Prod.ext rfl (Option.some.inj h).symm))
    · rw [beq_false_of_ne he] at h
      exact List.mem_cons_of_mem _ (ih h)

end Keyed

end PneumaLab
