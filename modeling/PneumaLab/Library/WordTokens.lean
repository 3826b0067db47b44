import PneumaLab.Library.Text

namespace PneumaLab

section Tokens
variable {α : Type} (word space : α → Bool)

-- The matches of \w+|[^\w\s]: runs of word characters, and every other character that is no space.
def tokensFrom (current : List α) : List α → List (List α)
  | [] => if current.isEmpty then [] else [current]
  | c :: rest =>
    if word c then tokensFrom (current ++ [c]) rest
    else (if current.isEmpty then [] else [current]) ++ (if space c then [] else [[c]]) ++ tokensFrom [] rest

def tokenStarts (inside : Bool) : List α → ℕ
  | [] => 0
  | c :: rest => if word c then (!inside).toNat + tokenStarts true rest else (!space c).toNat + tokenStarts false rest

theorem tokensFrom_length (text current : List α) : (tokensFrom word space current text).length =
    (!current.isEmpty).toNat + tokenStarts word space (!current.isEmpty) text := by
  induction text generalizing current with
  | nil =>
    cases current with
    | nil => rfl
    | cons _ _ => rfl
  | cons c rest ih =>
    cases hword : word c with
    | true =>
      rw [tokensFrom,if_pos hword,ih,tokenStarts,if_pos hword]
      cases current with
      | nil => simp
      | cons _ _ => simp
    | false =>
      have hempty : (tokensFrom word space [] rest).length = tokenStarts word space false rest := by
        rw [ih]
        simp
      have hstep : tokenStarts word space (!current.isEmpty) (c :: rest) = (!space c).toNat + tokenStarts word space false rest := by
        simp [tokenStarts,hword]
      have hbreak : tokensFrom word space current (c :: rest) =
          (if current.isEmpty then [] else [current]) ++ (if space c then [] else [[c]]) ++ tokensFrom word space [] rest := by
        simp [tokensFrom,hword]
      have hlast : (if current.isEmpty then ([] : List (List α)) else [current]).length = (!current.isEmpty).toNat := by
        cases current.isEmpty <;> rfl
      have hown : (if space c then ([] : List (List α)) else [[c]]).length = (!space c).toNat := by
        cases space c <;> rfl
      rw [hstep,hbreak,List.length_append,List.length_append,hempty,hlast,hown,Nat.add_assoc]

variable {word space}

theorem tokenStarts_break {c : α} (hc : word c = false) (inside : Bool) (before after : List α) :
    tokenStarts word space inside (before ++ c :: after) =
      tokenStarts word space inside before + (!space c).toNat + tokenStarts word space false after := by
  induction before generalizing inside with
  | nil => simp [tokenStarts,hc]
  | cons d before ih =>
    rw [List.cons_append,tokenStarts,tokenStarts]
    split
    · rw [ih]
      omega
    · rw [ih]
      omega

theorem tokenStarts_behind {c : α} (hc : word c = false) (before after : List α) :
    tokenStarts word space false (before ++ [c] ++ after) =
      tokenStarts word space false (before ++ [c]) + tokenStarts word space false after := by
  rw [List.append_assoc,List.singleton_append,tokenStarts_break hc,tokenStarts_break hc,tokenStarts,Nat.add_zero]

theorem tokenStarts_pos {text : List α} (h : ∃ c ∈ text, space c = false) : 0 < tokenStarts word space false text := by
  induction text with
  | nil =>
    obtain ⟨c,hc,_⟩ := h
    cases hc
  | cons d rest ih =>
    rw [tokenStarts]
    split
    · rw [Bool.not_false,Bool.toNat_true]
      omega
    · cases hd : space d with
      | false =>
        rw [Bool.not_false,Bool.toNat_true]
        omega
      | true =>
        obtain ⟨c,hc,hspace⟩ := h
        obtain rfl | hc := List.mem_cons.mp hc
        · rw [hd] at hspace
          cases hspace
        · have hrest := ih ⟨c,hc,hspace⟩
          omega

section Spaces
variable (apart : ∀ c, space c = true → word c = false)
include apart

theorem tokenStarts_spaces_left {spaces : List α} (h : ∀ c ∈ spaces, space c = true) (text : List α) :
    tokenStarts word space false (spaces ++ text) = tokenStarts word space false text := by
  induction spaces with
  | nil => rfl
  | cons c spaces ih =>
    obtain ⟨hc,hspaces⟩ := List.forall_mem_cons.mp h
    rw [List.cons_append,tokenStarts,if_neg (by simp [apart c hc]),hc,ih hspaces,Bool.not_true,Bool.toNat_false,Nat.zero_add]

theorem tokenStarts_spaces_right {spaces : List α} (h : ∀ c ∈ spaces, space c = true) (text : List α) :
    tokenStarts word space false (text ++ spaces) = tokenStarts word space false text := by
  cases spaces with
  | nil => rw [List.append_nil]
  | cons c spaces =>
    obtain ⟨hc,hspaces⟩ := List.forall_mem_cons.mp h
    have hnone := tokenStarts_spaces_left apart hspaces []
    rw [List.append_nil] at hnone
    rw [tokenStarts_break (apart c hc),hc,hnone,Bool.not_true,Bool.toNat_false,tokenStarts,Nat.add_zero]

end Spaces

end Tokens

section Strip

theorem stripChars_between (text : List Char) : ∃ left right, text = left ++ stripChars text ++ right ∧
    (∀ c ∈ left, isSpace c = true) ∧ ∀ c ∈ right, isSpace c = true := by
  refine ⟨text.takeWhile isSpace,((text.dropWhile isSpace).reverse.takeWhile isSpace).reverse,?_,?_,?_⟩
  · have hinner : stripChars text ++ ((text.dropWhile isSpace).reverse.takeWhile isSpace).reverse = text.dropWhile isSpace := by
      rw [stripChars,← List.reverse_append,List.takeWhile_append_dropWhile,List.reverse_reverse]
    rw [List.append_assoc,hinner,List.takeWhile_append_dropWhile]
  · exact fun c hc => List.all_eq_true.mp List.all_takeWhile c hc
  · intro c hc
    exact List.all_eq_true.mp List.all_takeWhile c (List.mem_reverse.mp hc)

theorem tokenStarts_strip {word : Char → Bool} (apart : ∀ c, isSpace c = true → word c = false) (text : List Char) :
    tokenStarts word isSpace false (stripChars text) = tokenStarts word isSpace false text := by
  obtain ⟨left,right,htext,hleft,hright⟩ := stripChars_between text
  conv_rhs => rw [htext]
  rw [tokenStarts_spaces_right apart hright,tokenStarts_spaces_left apart hleft]

theorem mem_stripChars {text : List Char} {c : Char} (hc : c ∈ text) (hspace : isSpace c = false) : c ∈ stripChars text := by
  obtain ⟨left,right,htext,hleft,hright⟩ := stripChars_between text
  rw [htext] at hc
  obtain hc | hc := List.mem_append.mp hc
  · obtain hc | hc := List.mem_append.mp hc
    · rw [hleft c hc] at hspace
      cases hspace
    · exact hc
  · rw [hright c hc] at hspace
    cases hspace

theorem stripChars_first {text : List Char} (h : stripChars text ≠ []) : ∃ c ∈ stripChars text, isSpace c = false := by
  have hdropped : (text.dropWhile isSpace).reverse.dropWhile isSpace ≠ [] := by
    intro hempty
    exact h (by rw [stripChars,hempty]; rfl)
  have hhead := List.head_dropWhile_not isSpace hdropped
  exact ⟨_,List.mem_reverse.mpr (List.head_mem hdropped),by simpa using hhead⟩

end Strip

end PneumaLab
