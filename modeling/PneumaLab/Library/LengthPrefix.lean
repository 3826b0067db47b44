import Mathlib.Data.UInt
import Mathlib.Tactic
import PneumaLab.Library.Bytes

namespace PneumaLab

theorem length_bigEndian (width value : ℕ) : (bigEndian width value).length = width := by
  induction width generalizing value with
  | zero => rfl
  | succ width ih => rw [bigEndian,List.length_append,ih,List.length_singleton]

theorem readBigEndian_append (raw : Bytes) (byte : UInt8) :
    readBigEndian (raw ++ [byte]) = readBigEndian raw * 256 + byte.toNat := by
  rw [readBigEndian,List.foldl_append]
  rfl

theorem readBigEndian_bigEndian (width value : ℕ) (h : value < 256 ^ width) :
    readBigEndian (bigEndian width value) = value := by
  induction width generalizing value with
  | zero =>
    have hzero : value = 0 := Nat.lt_one_iff.mp h
    rw [hzero]
    rfl
  | succ width ih =>
    have hhigh : value / 256 < 256 ^ width := Nat.div_lt_of_lt_mul (by rwa [pow_succ'] at h)
    have hlow : (UInt8.ofNat (value % 256)).toNat = value % 256 := by
      rw [UInt8.toNat_ofNat',Nat.mod_eq_of_lt (Nat.mod_lt _ (by decide))]
    rw [bigEndian,readBigEndian_append,ih _ hhigh,hlow]
    exact Nat.div_add_mod' value 256

theorem readBigEndian_lt (raw : Bytes) : readBigEndian raw < 256 ^ raw.length := by
  induction raw using List.reverseRecOn with
  | nil => exact Nat.one_pos
  | append_singleton raw byte ih =>
    have hbyte := byte.toNat_lt
    rw [readBigEndian_append,List.length_append,List.length_singleton,pow_succ]
    omega

theorem bigEndian_append_inj {width left right : ℕ} {rest other : Bytes} (hl : left < 256 ^ width)
    (hr : right < 256 ^ width) (h : bigEndian width left ++ rest = bigEndian width right ++ other) :
    left = right ∧ rest = other := by
  obtain ⟨hnumber,hrest⟩ := List.append_inj h (by rw [length_bigEndian,length_bigEndian])
  refine ⟨?_,hrest⟩
  rw [← readBigEndian_bigEndian width left hl,hnumber,readBigEndian_bigEndian width right hr]

theorem payload_append_inj {width : ℕ} {payload other rest tail : Bytes} (hp : payload.length < 256 ^ width)
    (ho : other.length < 256 ^ width)
    (h : bigEndian width payload.length ++ (payload ++ rest) = bigEndian width other.length ++ (other ++ tail)) :
    payload = other ∧ rest = tail := by
  obtain ⟨hlength,hrest⟩ := bigEndian_append_inj hp ho h
  exact List.append_inj hrest hlength

end PneumaLab
