import Mathlib.Tactic

namespace Slices

section Lists
variable {α : Type}

def slice (xs : List α) (low high : ℕ) : List α := (xs.take high).drop low

theorem slice_take (xs : List α) {low high : ℕ} (h : low ≤ high) : xs.take low ++ slice xs low high = xs.take high := by
  have htake : xs.take low = (xs.take high).take low := by rw [List.take_take,min_eq_left h]
  rw [slice,htake,List.take_append_drop]

theorem slices_flatMap {bound : ℕ → ℕ} (hmono : Monotone bound) (hzero : bound 0 = 0) (xs : List α) (parts : ℕ) :
    (List.range parts).flatMap (fun i => slice xs (bound i) (bound (i + 1))) = xs.take (bound parts) := by
  induction parts with
  | zero => simp [hzero]
  | succ parts ih =>
    rw [List.range_succ,List.flatMap_append,ih,List.flatMap_singleton]
    exact slice_take xs (hmono (Nat.le_succ parts))

theorem slices_cover {bound : ℕ → ℕ} (hmono : Monotone bound) (hzero : bound 0 = 0) {xs : List α} {parts : ℕ}
    (hlast : bound parts = xs.length) :
    (List.range parts).flatMap (fun i => slice xs (bound i) (bound (i + 1))) = xs := by
  rw [slices_flatMap hmono hzero,hlast,List.take_length]

theorem slice_range {n low high : ℕ} (h : high ≤ n) : slice (List.range n) low high = List.range' low (high - low) := by
  rw [slice,List.range_eq_range',List.take_range'_of_length_ge h,List.drop_range']
  simp

end Lists

section Shares

def share (n c i : ℕ) : ℕ := n * i / c

theorem share_zero (n c : ℕ) : share n c 0 = 0 := by simp [share]

theorem share_last {c : ℕ} (n : ℕ) (hc : 0 < c) : share n c c = n := Nat.mul_div_cancel n hc

theorem share_mono (n c : ℕ) : Monotone (share n c) := fun _ _ h =>
  Nat.div_le_div_right (Nat.mul_le_mul_left n h)

def chunkStart (n size i : ℕ) : ℕ := min (i * size) n

def chunkCount (n size : ℕ) : ℕ := (n + size - 1) / size

theorem chunkStart_zero (n size : ℕ) : chunkStart n size 0 = 0 := by simp [chunkStart]

theorem chunkStart_mono (n size : ℕ) : Monotone (chunkStart n size) := fun _ _ h =>
  min_le_min (Nat.mul_le_mul_right size h) le_rfl

theorem chunkStart_last {size : ℕ} (n : ℕ) (hsize : 0 < size) : chunkStart n size (chunkCount n size) = n := by
  have hdiv := Nat.div_add_mod (n + size - 1) size
  have hmod := Nat.mod_lt (n + size - 1) hsize
  have hcomm : size * ((n + size - 1) / size) = (n + size - 1) / size * size := Nat.mul_comm _ _
  rw [chunkStart,chunkCount]
  omega

theorem chunkStart_lt {n size i : ℕ} (hsize : 0 < size) (h : i < chunkCount n size) : chunkStart n size i = i * size := by
  have hle : (i + 1) * size ≤ n + size - 1 :=
    (Nat.mul_le_mul_right size h).trans (Nat.div_mul_le_self (n + size - 1) size)
  rw [chunkStart]
  rw [Nat.succ_mul] at hle
  omega

end Shares

section Traverse
variable {α β ι : Type} {m : Type → Type} [Monad m] [LawfulMonad m]

theorem mapM_flatMap (f : α → m β) (part : ι → List α) (parts : List ι) :
    (parts.flatMap part).mapM f = List.flatten <$> parts.mapM fun i => (part i).mapM f := by
  induction parts with
  | nil => simp
  | cons i parts ih =>
    rw [List.flatMap_cons,List.mapM_append,ih,List.mapM_cons]
    simp [map_eq_bind_pure_comp]

theorem mapM_congr {f g : α → m β} {xs : List α} (h : ∀ x ∈ xs, f x = g x) : xs.mapM f = xs.mapM g := by
  induction xs with
  | nil => rfl
  | cons x xs ih =>
    obtain ⟨hx,hxs⟩ := List.forall_mem_cons.mp h
    rw [List.mapM_cons,List.mapM_cons,hx,ih hxs]

theorem foldlM_add {σ : Type} (f : α → m β) (add : σ → β → σ) (xs : List α) (s : σ) :
    xs.foldlM (fun s x => f x >>= fun y => pure (add s y)) s = (fun ys => ys.foldl add s) <$> xs.mapM f := by
  induction xs generalizing s with
  | nil => simp
  | cons x xs ih =>
    rw [List.foldlM_cons,List.mapM_cons]
    simp only [bind_assoc,pure_bind,ih,map_eq_bind_pure_comp,Function.comp_def,List.foldl_cons]

end Traverse

end Slices
