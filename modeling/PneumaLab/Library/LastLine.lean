import PneumaLab.Library.JsonLines
import PneumaLab.Library.Text

namespace PneumaLab.Json

def lastLine (lines : List (List Char)) : Option (List Char) :=
  (splitLines (stripChars (lines.flatMap fun line => line ++ ['\n']))).getLast?

theorem linesFrom_unbroken {line : List Char} (h : Unbroken line) (current : List Char) (hne : current ++ line ≠ []) :
    linesFrom current line = [current.reverse ++ line] := by
  induction line generalizing current with
  | nil =>
    rw [List.append_nil] at hne
    rw [linesFrom,if_neg hne,List.append_nil]
  | cons c line ih =>
    obtain ⟨hc,hline⟩ := List.forall_mem_cons.mp h
    rw [linesFrom.eq_def]
    split
    · next he => cases he
    · next he =>
      rw [(List.cons.inj he).1] at hc
      exact absurd hc (by decide)
    · next he =>
      cases he
      rw [if_neg (by rw [hc]; exact Bool.false_ne_true),ih hline _ (by simp),List.reverse_cons,List.append_assoc]
      rfl

theorem linesFrom_cons (c : Char) (current rest : List Char) : linesFrom current (c :: rest) =
    if c = '\r' ∧ rest.head? = some '\n' then current.reverse :: linesFrom [] rest.tail
    else if isLineBreak c then current.reverse :: linesFrom [] rest else linesFrom (c :: current) rest := by
  rw [linesFrom.eq_def]
  split
  · next he => cases he
  · next he =>
    cases he
    rw [if_pos ⟨rfl,rfl⟩]
    rfl
  · next hpair he =>
    cases he
    have hapart : ¬(c = '\r' ∧ rest.head? = some '\n') := by
      rintro ⟨rfl,hhead⟩
      obtain ⟨tail,rfl⟩ := List.head?_eq_some_iff.mp hhead
      exact hpair tail rfl rfl
    rw [if_neg hapart]

theorem linesFrom_last {line : List Char} (h : Unbroken line) (hne : line ≠ []) (front current : List Char) :
    (linesFrom current (front ++ '\n' :: line)).getLast? = some line := by
  have hline : (linesFrom [] line).getLast? = some line := by
    rw [linesFrom_unbroken h [] (by simpa using hne)]
    rfl
  have hcons (first : List Char) {rest : List (List Char)} (hrest : rest.getLast? = some line) :
      (first :: rest).getLast? = some line := by
    rw [List.getLast?_cons,hrest,Option.getD_some]
  induction front using List.twoStepInduction generalizing current with
  | nil =>
    rw [List.nil_append,linesFrom_cons,if_neg (fun hpair => absurd hpair.1 (by decide)),if_pos (by decide)]
    exact hcons _ hline
  | singleton c =>
    rw [List.singleton_append,linesFrom_cons]
    have hnewline (more : List Char) : (linesFrom more ('\n' :: line)).getLast? = some line := by
      rw [linesFrom_cons,if_neg (fun hpair => absurd hpair.1 (by decide)),if_pos (by decide)]
      exact hcons _ hline
    split
    · exact hcons _ hline
    · split
      · exact hcons _ (hnewline [])
      · exact hnewline _
  | cons_cons c d front ih ih' =>
    rw [List.cons_append,linesFrom_cons]
    split
    · exact hcons _ (ih [])
    · split
      · exact hcons _ (ih' d [])
      · exact ih' d _

theorem lastLine_append {line middle : List Char} {c d : Char} (hline : line = c :: (middle ++ [d])) (hc : isSpace c = false)
    (hd : isSpace d = false) (h : Unbroken line) (lines : List (List Char)) : lastLine (lines ++ [line]) = some line := by
  have hne : line ≠ [] := by simp [hline]
  have hstart (rest : List Char) : (line ++ rest).dropWhile isSpace = line ++ rest := by
    rw [hline,List.cons_append,List.dropWhile_cons_of_neg (by simp [hc])]
  have hstop (rest : List Char) : ('\n' :: (line.reverse ++ rest)).dropWhile isSpace = line.reverse ++ rest := by
    rw [List.dropWhile_cons_of_pos (by decide),hline,List.reverse_cons,List.reverse_append,List.reverse_singleton]
    simp [hd]
  have hstrip (front : List Char) : stripChars (front ++ (line ++ ['\n'])) = front.dropWhile isSpace ++ line := by
    have hdrop : (front ++ (line ++ ['\n'])).dropWhile isSpace = front.dropWhile isSpace ++ (line ++ ['\n']) := by
      rw [List.dropWhile_append]
      split
      · next hempty => rw [hstart,List.isEmpty_iff.mp hempty,List.nil_append]
      · rfl
    rw [stripChars,hdrop,List.reverse_append,List.reverse_append,List.reverse_singleton,List.singleton_append,List.cons_append,
      hstop,List.reverse_append,List.reverse_reverse,List.reverse_reverse]
  rw [lastLine,List.flatMap_append,List.flatMap_singleton,hstrip]
  obtain hempty | ⟨front,hfront⟩ : (lines.flatMap fun line => line ++ ['\n']).dropWhile isSpace = [] ∨
      ∃ front, (lines.flatMap fun line => line ++ ['\n']).dropWhile isSpace = front ++ ['\n'] := by
    induction lines using List.reverseRecOn with
    | nil => exact .inl rfl
    | append_singleton lines last ih =>
      rw [List.flatMap_append,List.flatMap_singleton,← List.append_assoc,List.dropWhile_append]
      split
      · exact .inl rfl
      · exact .inr ⟨_,rfl⟩
  · rw [hempty,List.nil_append,splitLines,linesFrom_unbroken h [] (by simpa using hne)]
    rfl
  · rw [hfront,List.append_assoc,List.singleton_append]
    exact linesFrom_last h hne front []

end PneumaLab.Json
