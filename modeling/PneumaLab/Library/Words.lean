import PneumaLab.Library.Text

namespace PneumaLab

def wordEnds (inside : Bool) : List Char → ℕ
  | [] => 0
  | c :: rest => if isSpace c then inside.toNat + wordEnds false rest else wordEnds true rest

def insideWord (inside : Bool) : List Char → Bool
  | [] => inside
  | c :: rest => insideWord (!isSpace c) rest

theorem wordsFrom_length (text current : List Char) :
    (wordsFrom current text).length =
      wordEnds (decide (current ≠ [])) text + (insideWord (decide (current ≠ [])) text).toNat := by
  induction text generalizing current with
  | nil =>
    by_cases hcurrent : current = []
    · simp [wordsFrom,wordEnds,insideWord,hcurrent]
    · simp [wordsFrom,wordEnds,insideWord,hcurrent]
  | cons c rest ih =>
    by_cases hspace : isSpace c = true
    · by_cases hcurrent : current = []
      · simp [wordsFrom,wordEnds,insideWord,hspace,hcurrent,ih]
      · have hinside : decide (current ≠ []) = true := decide_eq_true hcurrent
        have hempty : decide (([] : List Char) ≠ []) = false := rfl
        rw [wordsFrom,if_pos hspace,if_neg hcurrent,List.length_cons,ih,hinside,hempty,wordEnds,if_pos hspace,insideWord,
          hspace]
        simp only [Bool.not_true,Bool.toNat_true]
        omega
    · simp [wordsFrom,wordEnds,insideWord,hspace,ih]

theorem insideWord_append (inside : Bool) (xs ys : List Char) :
    insideWord inside (xs ++ ys) = insideWord (insideWord inside xs) ys := by
  induction xs generalizing inside with
  | nil => rfl
  | cons c rest ih => exact ih (!isSpace c)

theorem wordEnds_append (inside : Bool) (xs ys : List Char) :
    wordEnds inside (xs ++ ys) = wordEnds inside xs + wordEnds (insideWord inside xs) ys := by
  induction xs generalizing inside with
  | nil => simp [wordEnds,insideWord]
  | cons c rest ih =>
    by_cases hspace : isSpace c = true
    · simp [wordEnds,insideWord,hspace,ih,Nat.add_assoc]
    · simp [wordEnds,insideWord,hspace,ih]

theorem wordEnds_le_append (inside : Bool) (xs ys : List Char) : wordEnds inside xs ≤ wordEnds inside (xs ++ ys) := by
  rw [wordEnds_append]
  exact Nat.le_add_right _ _

theorem wordEnds_le (inside : Bool) (text : List Char) : 2 * wordEnds inside text ≤ text.length + inside.toNat := by
  induction text generalizing inside with
  | nil => simp [wordEnds]
  | cons c rest ih =>
    by_cases hspace : isSpace c = true
    · have hrest := ih false
      cases inside with
      | false =>
        simp only [wordEnds,hspace,if_true,List.length_cons,Bool.toNat_false] at hrest ⊢
        omega
      | true =>
        simp only [wordEnds,hspace,if_true,List.length_cons,Bool.toNat_false,Bool.toNat_true] at hrest ⊢
        omega
    · have hrest := ih true
      simp only [wordEnds,hspace,Bool.false_eq_true,if_false,List.length_cons,Bool.toNat_true] at hrest ⊢
      omega

theorem words_between {before text after : List Char} {c : Char} (hbefore : insideWord false before = true)
    (hc : isSpace c = false) :
    (wordsFrom [] (before ++ (text ++ c :: after))).length =
      (wordsFrom [] (before ++ c :: after)).length + wordEnds true text := by
  rw [wordsFrom_length,wordsFrom_length]
  simp only [ne_eq,not_true_eq_false,decide_false,wordEnds_append,insideWord_append,hbefore,wordEnds,insideWord,hc,
    Bool.false_eq_true,if_false,Bool.not_false]
  omega

end PneumaLab
