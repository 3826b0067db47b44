import PneumaLab.Library.JsonAscii
import PneumaLab.Library.JsonText
import PneumaLab.Library.Text

namespace PneumaLab

theorem stripChars_ends {c d : Char} (hc : isSpace c = false) (hd : isSpace d = false) (middle : List Char) :
    stripChars (c :: (middle ++ [d])) = c :: (middle ++ [d]) := by
  rw [stripChars,List.dropWhile_cons_of_neg (by simp [hc]),List.reverse_cons,List.reverse_append,List.reverse_singleton,
    List.singleton_append,List.cons_append,List.dropWhile_cons_of_neg (by simp [hd])]
  simp

namespace Json

section FlatRows

def Scalar : Json → Prop
  | .str _ => True
  | .int _ => True
  | _ => False

-- A flat dict with the default separators.
def spaces : Layout where
  line depth := if depth = 0 then [] else [' ']
  colon := [' ']
  line_space depth c hc := by
    split at hc
    · cases hc
    · exact .inl (List.mem_singleton.mp hc)
  colon_space c hc := .inl (List.mem_singleton.mp hc)

theorem spaced_scalar {v : Json} (h : Scalar v) (depth : ℕ) : spaced v = render spaces depth v := by
  cases v with
  | str text => rfl
  | int n => rfl
  | _ => exact h.elim

theorem spacedFields_scalar {fields : List (String × Json)} (h : ∀ field ∈ fields, Scalar field.2) :
    spacedFields fields = renderFields spaces 0 fields := by
  induction fields with
  | nil => rfl
  | cons field fields ih =>
    obtain ⟨hfield,hfields⟩ := List.forall_mem_cons.mp h
    obtain ⟨key,v⟩ := field
    rw [spacedFields,renderFields,ih hfields,spaced_scalar hfield 1]
    rfl

theorem Scalar.readable {v : Json} (h : Scalar v) (floatRepr : String → String) : Readable floatRepr v := by
  cases v with
  | str text => exact trivial
  | int n => exact trivial
  | _ => exact h.elim

theorem readableFields_scalar {fields : List (String × Json)} (h : ∀ field ∈ fields, Scalar field.2)
    (floatRepr : String → String) : ReadableFields floatRepr fields := by
  induction fields with
  | nil => exact trivial
  | cons field fields ih =>
    obtain ⟨hfield,hfields⟩ := List.forall_mem_cons.mp h
    exact ⟨hfield.readable floatRepr,ih hfields⟩

theorem loadsWith_spaced (reader : Reader) {field : String × Json} {rest : List (String × Json)}
    (hkeys : ((field :: rest).map Prod.fst).Pairwise (· < ·)) (hscalar : ∀ other ∈ field :: rest, Scalar other.2) :
    loadsWith reader (spaced (.obj (field :: rest))) = some (.obj (field :: rest)) := by
  obtain ⟨key,v⟩ := field
  obtain ⟨hv,hrest⟩ := List.forall_mem_cons.mp hscalar
  have htext : spaced (.obj ((key,v) :: rest)) = '{' :: (quote key ++ (':' :: (spaces.colon ++
      (render spaces 1 v ++ renderFields spaces 0 rest)) ++ [])) := by
    rw [spaced,spacedFields_scalar hrest,spaced_scalar hv 1,List.append_nil]
    rfl
  have hsize := @size_le_render reader.floatRepr spaces v 1 (hv.readable _)
  have hsizes := @sizeFields_le_render reader.floatRepr spaces rest 0 (readableFields_scalar hrest _)
  have hread := @members_render spaces reader key v rest 0 (spaced (.obj ((key,v) :: rest))).length [] (hv.readable _)
    (readableFields_scalar hrest _) (by
      rw [htext]
      simp only [List.length_cons,List.length_append]
      omega)
  have hvalue : value reader ((spaced (.obj ((key,v) :: rest))).length + 1) (spaced (.obj ((key,v) :: rest))) =
      some (.obj ((key,v) :: rest),[]) := by
    conv_lhs => rw [htext]
    rw [value,skipSpace_quote]
    split
    · next he => exact absurd (List.cons.inj he).1 (by decide)
    · rw [← htext,hread]
      simp only [Option.bind_some,reader.close_sorted hkeys,Option.map_some]
  have hskip : skipSpace (spaced (.obj ((key,v) :: rest))) = spaced (.obj ((key,v) :: rest)) := by
    rw [htext,skipSpace_cons (by decide)]
  rw [loadsWith,hskip,hvalue]
  rfl

theorem spacedFields_last (fields : List (String × Json)) : ∃ front, spacedFields fields = front ++ ['}'] := by
  induction fields with
  | nil => exact ⟨[],rfl⟩
  | cons field fields ih =>
    obtain ⟨front,hfront⟩ := ih
    obtain ⟨key,v⟩ := field
    exact ⟨',' :: ' ' :: (quote key ++ ':' :: ' ' :: (spaced v ++ front)),by rw [spacedFields,hfront]; simp⟩

theorem stripChars_spaced (field : String × Json) (rest : List (String × Json)) :
    stripChars (spaced (.obj (field :: rest))) = spaced (.obj (field :: rest)) := by
  obtain ⟨front,hfront⟩ := spacedFields_last rest
  obtain ⟨key,v⟩ := field
  have htext : spaced (.obj ((key,v) :: rest)) = '{' :: ((quote key ++ ':' :: ' ' :: (spaced v ++ front)) ++ ['}']) := by
    rw [spaced,hfront]
    simp
  rw [htext]
  exact stripChars_ends (by decide) (by decide) _

theorem quote_printable (text : String) : ∀ c ∈ quote text, 32 ≤ c.toNat := by
  intro c hc
  rw [quote,List.mem_cons,List.mem_append,List.mem_flatMap,List.mem_singleton] at hc
  obtain rfl | ⟨d,_,hd⟩ | rfl := hc
  · decide
  · exact escape_printable d c hd
  · decide

theorem intText_printable (n : ℤ) : ∀ c ∈ intText n, 32 ≤ c.toNat := by
  have hdigits : ∀ c ∈ Nat.toDigits 10 n.natAbs, 32 ≤ c.toNat := by
    intro c hc
    have hdigit := Nat.isDigit_of_mem_toDigits (by decide) (le_refl 10) hc
    simp only [Char.isDigit,Bool.and_eq_true,decide_eq_true_eq] at hdigit
    have hlow : '0'.toNat ≤ c.toNat := hdigit.1
    exact le_trans (by decide) hlow
  intro c hc
  rw [intText] at hc
  split at hc
  · obtain rfl | hc := List.mem_cons.mp hc
    · decide
    · exact hdigits c hc
  · exact hdigits c hc

theorem scalar_printable {v : Json} (h : Scalar v) : ∀ c ∈ spaced v, 32 ≤ c.toNat := by
  cases v with
  | str text => exact quote_printable text
  | int n => exact intText_printable n
  | _ => exact h.elim

theorem spacedFields_printable {fields : List (String × Json)} (h : ∀ field ∈ fields, Scalar field.2) :
    ∀ c ∈ spacedFields fields, 32 ≤ c.toNat := by
  induction fields with
  | nil => simp [spacedFields]
  | cons field fields ih =>
    obtain ⟨hfield,hfields⟩ := List.forall_mem_cons.mp h
    obtain ⟨key,v⟩ := field
    intro c hc
    simp only [spacedFields,List.mem_cons,List.mem_append] at hc
    obtain rfl | rfl | hc | rfl | rfl | hc | hc := hc
    · decide
    · decide
    · exact quote_printable key c hc
    · decide
    · decide
    · exact scalar_printable hfield c hc
    · exact ih hfields c hc

theorem spaced_printable {fields : List (String × Json)} (h : ∀ field ∈ fields, Scalar field.2) :
    ∀ c ∈ spaced (.obj fields), 32 ≤ c.toNat := by
  cases fields with
  | nil => simp [spaced]
  | cons field fields =>
    obtain ⟨hfield,hfields⟩ := List.forall_mem_cons.mp h
    obtain ⟨key,v⟩ := field
    intro c hc
    simp only [spaced,List.mem_cons,List.mem_append] at hc
    obtain rfl | hc | rfl | rfl | hc | hc := hc
    · decide
    · exact quote_printable key c hc
    · decide
    · decide
    · exact scalar_printable hfield c hc
    · exact spacedFields_printable hfields c hc

theorem loadsWith_nested (reader : Reader) (text : List Char) : loadsWith reader ('{' :: '{' :: text) = none := by
  rw [loadsWith,skipSpace_cons (by decide),value,skipSpace_cons (by decide)]
  rfl

end FlatRows

end Json
end PneumaLab
