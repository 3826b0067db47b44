import Mathlib.Algebra.GroupWithZero.Nat
import PneumaLab.Library.Bytes

namespace PneumaLab

-- Text is read with universal newlines.
def universalNewlines : List Char → List Char
  | [] => []
  | '\r' :: '\n' :: rest => '\n' :: universalNewlines rest
  | c :: rest => (if c = '\r' then '\n' else c) :: universalNewlines rest

theorem universalNewlines_of_no_return {text : List Char} (h : ∀ c ∈ text, c ≠ '\r') :
    universalNewlines text = text := by
  induction text with
  | nil => rfl
  | cons c text ih =>
    obtain ⟨hc,htext⟩ := List.forall_mem_cons.mp h
    rw [universalNewlines.eq_def]
    split
    · next he => cases he
    · next he => exact absurd (List.cons.inj he).1 hc
    · next he =>
      cases he
      rw [if_neg hc,ih htext]

theorem universalNewlines_no_return (text : List Char) : ∀ c ∈ universalNewlines text, c ≠ '\r' := by
  induction text using universalNewlines.induct with
  | case1 => exact List.forall_mem_nil _
  | case2 rest ih => exact List.forall_mem_cons.mpr ⟨by decide,ih⟩
  | case3 c rest hpair ih =>
    rw [universalNewlines.eq_def]
    split
    · exact List.forall_mem_nil _
    · next he => exact absurd (List.cons.inj he).2 (fun hrest => hpair _ (List.cons.inj he).1 hrest)
    · next he =>
      cases he
      refine List.forall_mem_cons.mpr ⟨?_,ih⟩
      split
      · decide
      · assumption

theorem universalNewlines_eq_self {text : List Char} : universalNewlines text = text ↔ ∀ c ∈ text, c ≠ '\r' := by
  constructor
  · intro h c hc
    exact universalNewlines_no_return text c (h.symm ▸ hc)
  · exact universalNewlines_of_no_return

def readText (raw : Bytes) : Option String :=
  (fromUtf8 raw).map fun text => String.ofList (universalNewlines text.toList)

theorem readText_utf8 {text : String} : readText (utf8 text) = some text ↔ ∀ c ∈ text.toList, c ≠ '\r' := by
  rw [readText,fromUtf8_utf8,Option.map_some,Option.some.injEq,← universalNewlines_eq_self]
  constructor
  · intro h
    rw [← String.toList_ofList (l := universalNewlines text.toList),h]
  · intro h
    rw [h,String.ofList_toList]

end PneumaLab
