import Mathlib.Data.List.Forall2

namespace SeparatedText
variable {separated : Char → Bool}

def pieces (separated : Char → Bool) (text : List Char) : List (List Char) :=
  (text.splitOnP separated).filter (· ≠ [])

theorem pieces_append (left right : List Char) {c : Char} (h : separated c = true) :
    pieces separated (left ++ c :: right) = pieces separated left ++ pieces separated right := by
  rw [pieces,List.splitOnP_append_cons left right h,List.filter_append]
  rfl

theorem pieces_plain {text : List Char} (h : ∀ c ∈ text, separated c = false) :
    pieces separated text = if text = [] then [] else [text] := by
  rw [pieces,List.splitOnP_eq_singleton h]
  by_cases hnil : text = []
  · rw [if_pos hnil,hnil]
    rfl
  · rw [if_neg hnil,List.filter_singleton,decide_eq_true hnil]
    rfl

theorem pieces_intercalate {c : Char} (hc : separated c = true) {names : List (List Char)}
    (h : ∀ name ∈ names, name ≠ [] ∧ ∀ d ∈ name, separated d = false) : pieces separated ([c].intercalate names) = names := by
  induction names with
  | nil => rfl
  | cons name rest ih =>
    obtain ⟨⟨hne,hplain⟩,hrest⟩ := List.forall_mem_cons.mp h
    have hname : pieces separated name = [name] := by rw [pieces_plain hplain,if_neg hne]
    cases rest with
    | nil => rw [List.intercalate_singleton,hname]
    | cons next rest =>
      rw [List.intercalate_cons_cons,List.append_assoc,List.singleton_append,pieces_append _ _ hc,ih hrest,hname]
      rfl

-- A map of texts that works on the pieces between separators one by one.
structure Folding (separated : Char → Bool) where
  fold : List Char → List Char
  nil : fold [] = []
  blank : ∀ text, fold text = [] → text = []
  plain : ∀ text, (∀ c ∈ text, separated c = false) → ∀ c ∈ fold text, separated c = false
  split : ∀ left c right, separated c = true →
    ∃ d, separated d = true ∧ fold (left ++ c :: right) = fold left ++ d :: fold right

namespace Folding
variable (folding : Folding separated)

theorem pieces_fold (text : List Char) :
    pieces separated (folding.fold text) = (pieces separated text).map folding.fold := by
  induction hlength : text.length using Nat.strongRecOn generalizing text with
  | ind n ih =>
    by_cases hplain : ∀ c ∈ text, separated c = false
    · rw [pieces_plain hplain,pieces_plain (folding.plain text hplain)]
      by_cases hnil : text = []
      · rw [if_pos hnil,hnil,if_pos folding.nil]
        rfl
      · rw [if_neg hnil,if_neg (mt (folding.blank text) hnil)]
        rfl
    · push Not at hplain
      obtain ⟨c,hmem,hc⟩ := hplain
      obtain ⟨left,right,rfl⟩ := List.append_of_mem hmem
      have hc : separated c = true := eq_true_of_ne_false hc
      obtain ⟨d,hd,hfold⟩ := folding.split left c right hc
      rw [List.length_append,List.length_cons] at hlength
      rw [hfold,pieces_append _ _ hd,pieces_append _ _ hc,List.map_append,ih left.length (by omega) left rfl,
        ih right.length (by omega) right rfl]

def chars (f : Char → Char) (h : ∀ c, separated (f c) = separated c) : Folding separated where
  fold := List.map f
  nil := rfl
  blank _ := List.map_eq_nil_iff.mp
  plain text htext c hc := by
    obtain ⟨d,hd,rfl⟩ := List.mem_map.mp hc
    exact (h d).trans (htext d hd)
  split left c right hc := ⟨f c,(h c).trans hc,by rw [List.map_append,List.map_cons]⟩

end Folding

end SeparatedText
