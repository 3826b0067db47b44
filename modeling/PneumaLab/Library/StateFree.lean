import PneumaLab.Library.Program
import PneumaLab.Library.Traversal

namespace PneumaLab.Program
variable {σ ε α β : Type}

instance : LawfulMonad (Program σ ε) := LawfulMonad.mk' (Program σ ε)
  (fun x => by
    funext s
    change bind x _ s = x s
    rw [bind]
    cases x s with
    | mk result t => cases result <;> rfl)
  (fun _ _ => rfl)
  (fun x f g => by
    funext s
    change bind (bind x f) g s = bind x (fun a => bind (f a) g) s
    simp only [bind]
    cases x s with
    | mk result t => cases result <;> rfl)

def StateFree (x : Program σ ε α) : Prop := ∀ s t, (x s).1 = (x t).1

theorem StateFree.returned (a : α) : StateFree (Pure.pure a : Program σ ε α) := fun _ _ => rfl

theorem StateFree.lifted (x : Except ε α) : StateFree (lift x : Program σ ε α) := fun _ _ => rfl

theorem bind_result (x : Program σ ε α) (f : α → Program σ ε β) (s : σ) :
    ((x >>= f) s).1 = (x s).1 >>= fun a => (f a (x s).2).1 := by
  change (bind x f s).1 = _
  rw [bind]
  cases x s with
  | mk result t => cases result <;> rfl

theorem StateFree.bind_run {x : Program σ ε α} {f : α → Program σ ε β} (hf : ∀ a, StateFree (f a)) (s : σ)
    (states : α → σ) : ((x >>= f) s).1 = (x s).1 >>= fun a => (f a (states a)).1 := by
  rw [bind_result]
  congr 1
  funext a
  exact hf a _ _

theorem StateFree.bind {x : Program σ ε α} {f : α → Program σ ε β} (hx : StateFree x) (hf : ∀ a, StateFree (f a)) :
    StateFree (x >>= f) := by
  intro s t
  rw [bind_run hf s fun _ => s,bind_run hf t fun _ => s,hx s t]

theorem StateFree.mapM_run {f : α → Program σ ε β} (hf : ∀ a, StateFree (f a)) (states : α → σ) (xs : List α) (s : σ) :
    ((xs.mapM f) s).1 = xs.mapM fun a => (f a (states a)).1 := by
  induction xs generalizing s with
  | nil => rfl
  | cons x xs ih =>
    rw [List.mapM_cons,List.mapM_cons,bind_result,hf x s (states x)]
    congr 1
    funext b
    rw [bind_result,ih]
    congr 1

theorem StateFree.mapM {f : α → Program σ ε β} (hf : ∀ a, StateFree (f a)) (xs : List α) : StateFree (xs.mapM f) := by
  intro s t
  rw [mapM_run hf (fun _ => s),mapM_run hf (fun _ => s)]

theorem StateFree.foldlM {f : β → α → Program σ ε β} (hf : ∀ b a, StateFree (f b a)) (xs : List α) (b : β) :
    StateFree (xs.foldlM f b) := by
  induction xs generalizing b with
  | nil => exact .returned b
  | cons x xs ih => exact .bind (hf b x) ih

theorem StateFree.foldlM_run {f : β → α → Program σ ε β} (hf : ∀ b a, StateFree (f b a)) (state : σ) (xs : List α)
    (b : β) (s : σ) : ((xs.foldlM f b) s).1 = xs.foldlM (fun b a => (f b a state).1) b := by
  induction xs generalizing b s with
  | nil => rfl
  | cons x xs ih =>
    rw [List.foldlM_cons,List.foldlM_cons,bind_result,hf b x s state]
    congr 1
    funext c
    exact ih c _

end PneumaLab.Program
