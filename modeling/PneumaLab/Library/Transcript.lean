import Mathlib.Data.List.Induction

namespace PneumaLab

namespace Transcript

variable {σ ι ο : Type} (step : σ → ι → ο × σ)

def final (s : σ) (calls : List ι) : σ := calls.foldl (fun t call => (step t call).2) s

def exchanges : σ → List ι → List (ι × ο)
  | _, [] => []
  | s, call :: rest => (call,(step s call).1) :: exchanges (step s call).2 rest

theorem final_snoc (s : σ) (calls : List ι) (call : ι) :
    final step s (calls ++ [call]) = (step (final step s calls) call).2 := by
  rw [final,List.foldl_append]
  rfl

theorem exchanges_append (s : σ) (before after : List ι) :
    exchanges step s (before ++ after) = exchanges step s before ++ exchanges step (final step s before) after := by
  induction before generalizing s with
  | nil => rfl
  | cons call rest ih =>
    rw [List.cons_append,exchanges,ih,exchanges,List.cons_append]
    rfl

theorem exchanges_snoc (s : σ) (calls : List ι) (call : ι) :
    exchanges step s (calls ++ [call]) = exchanges step s calls ++ [(call,(step (final step s calls) call).1)] := by
  rw [exchanges_append]
  rfl

end Transcript

end PneumaLab
