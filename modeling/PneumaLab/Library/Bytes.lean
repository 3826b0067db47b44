import Mathlib.Data.String.Basic

namespace PneumaLab

abbrev Bytes := List UInt8

def utf8 (text : String) : Bytes := text.toUTF8.data.toList

def fromUtf8 (raw : Bytes) : Option String := String.fromUTF8? ⟨raw.toArray⟩

@[simp] theorem fromUtf8_utf8 (text : String) : fromUtf8 (utf8 text) = some text := by
  have hvalid : text.toUTF8.IsValidUTF8 := text.isValidUTF8
  rw [fromUtf8,utf8,Array.toArray_toList,String.fromUTF8?,dif_pos hvalid]
  rfl

theorem utf8_injective : Function.Injective utf8 := by
  intro x y h
  exact Option.some.inj ((fromUtf8_utf8 x).symm.trans ((congrArg fromUtf8 h).trans (fromUtf8_utf8 y)))

def bigEndian : ℕ → ℕ → Bytes
  | 0, _ => []
  | width + 1, value => bigEndian width (value / 256) ++ [UInt8.ofNat (value % 256)]

def readBigEndian (raw : Bytes) : ℕ := raw.foldl (fun value byte => value * 256 + byte.toNat) 0

def hexDigit (n : ℕ) : Char := if n < 10 then Char.ofNat (48 + n) else Char.ofNat (87 + n)

def hexValue (c : Char) : Option ℕ :=
  if '0' ≤ c ∧ c ≤ '9' then some (c.toNat - 48)
  else if 'a' ≤ c ∧ c ≤ 'f' then some (c.toNat - 87)
  else if 'A' ≤ c ∧ c ≤ 'F' then some (c.toNat - 55)
  else none

theorem hexValue_hexDigit : ∀ n : Fin 16, hexValue (hexDigit n.val) = some n.val := by decide

def hexChars (raw : Bytes) : List Char :=
  raw.flatMap fun byte => [hexDigit (byte.toNat / 16),hexDigit (byte.toNat % 16)]

def fromHexChars : List Char → Option Bytes
  | [] => some []
  | high :: low :: rest => do
    return UInt8.ofNat ((← hexValue high) * 16 + (← hexValue low)) :: (← fromHexChars rest)
  | _ => none

theorem hexDigit_value (n : ℕ) (hn : n < 16) : hexValue (hexDigit n) = some n := hexValue_hexDigit ⟨n,hn⟩

theorem fromHexChars_hexChars (raw : Bytes) : fromHexChars (hexChars raw) = some raw := by
  induction raw with
  | nil => rfl
  | cons byte rest ih =>
    have hhigh := hexDigit_value (byte.toNat / 16) (by have := byte.toNat_lt; omega)
    have hlow := hexDigit_value (byte.toNat % 16) (by omega)
    have hbyte : UInt8.ofNat (byte.toNat / 16 * 16 + byte.toNat % 16) = byte := by
      rw [Nat.div_add_mod']
      exact UInt8.ofNat_toNat
    have hcons : hexChars (byte :: rest) =
        hexDigit (byte.toNat / 16) :: hexDigit (byte.toNat % 16) :: hexChars rest := rfl
    rw [hcons,fromHexChars,hhigh,hlow,ih]
    simp only [Option.bind_eq_bind,Option.bind_some,Option.pure_def,hbyte]

def lowerHex : List Char := ['0','1','2','3','4','5','6','7','8','9','a','b','c','d','e','f']

def isSha256 (text : String) : Bool :=
  decide (text.toList.length = 64) && text.toList.all fun c => decide (c ∈ lowerHex)

structure Digest where
  bytes : Bytes
  size : bytes.length = 32

namespace Digest

def hex (digest : Digest) : String := String.ofList (hexChars digest.bytes)

theorem hexDigit_mem : ∀ n : Fin 16, hexDigit n.val ∈ lowerHex := by decide

theorem isSha256_hex (digest : Digest) : isSha256 digest.hex = true := by
  have hlength (raw : Bytes) : (hexChars raw).length = 2 * raw.length := by
    induction raw with
    | nil => rfl
    | cons byte rest ih =>
      rw [hexChars] at ih ⊢
      rw [List.flatMap_cons,List.length_append,ih,List.length_cons,List.length_cons,List.length_nil,
        List.length_cons]
      omega
  have hmem : ∀ c ∈ hexChars digest.bytes, c ∈ lowerHex := by
    intro c hc
    obtain ⟨byte,_,hbyte⟩ := List.mem_flatMap.mp hc
    have hhigh := hexDigit_mem ⟨byte.toNat / 16,by have := byte.toNat_lt; omega⟩
    have hlow := hexDigit_mem ⟨byte.toNat % 16,by omega⟩
    rcases List.mem_pair.mp hbyte with rfl | rfl
    · exact hhigh
    · exact hlow
  have hsize := hlength digest.bytes
  rw [digest.size] at hsize
  rw [isSha256,hex,String.toList_ofList,hsize,Bool.and_eq_true,List.all_eq_true]
  exact ⟨rfl,fun c hc => decide_eq_true (hmem c hc)⟩

theorem hex_injective {left right : Digest} (h : left.hex = right.hex) : left = right := by
  have hchars := congrArg String.toList h
  rw [hex,hex,String.toList_ofList,String.toList_ofList] at hchars
  have hread := congrArg fromHexChars hchars
  rw [fromHexChars_hexChars,fromHexChars_hexChars,Option.some.injEq] at hread
  cases left
  cases right
  cases hread
  rfl

end Digest

end PneumaLab
