import Mathlib.Data.Multiset.Bind
import Mathlib.Data.Multiset.Dedup
import Mathlib.Data.Finset.Card
import Mathlib.Data.Finset.Image
import Mathlib.Tactic

namespace MassFunction

variable {K L : Type}

section Convolution
variable [AddCommMonoid K] [AddCommMonoid L]

def convolve (s t : Multiset K) : Multiset K :=
  s.bind fun a => t.map fun b => a + b

def outcomes : List (List K) → Multiset K
  | [] => {0}
  | options :: rest => convolve (options : Multiset K) (outcomes rest)

@[simp] theorem zero_convolve (t : Multiset K) : convolve 0 t = 0 := rfl

@[simp] theorem unit_convolve (t : Multiset K) : convolve {0} t = t := by
  simp [convolve]

theorem add_convolve (s t u : Multiset K) :
    convolve (s + t) u = convolve s u + convolve t u :=
  Multiset.add_bind s t _

theorem convolve_comm (s t : Multiset K) : convolve s t = convolve t s := by
  rw [convolve,Multiset.bind_map_comm]
  simp only [convolve,add_comm]

theorem convolve_add (s t u : Multiset K) :
    convolve s (t + u) = convolve s t + convolve s u := by
  rw [convolve_comm,add_convolve,convolve_comm t,convolve_comm u]

@[simp] theorem convolve_unit (s : Multiset K) : convolve s {0} = s := by
  rw [convolve_comm,unit_convolve]

theorem convolve_assoc (s t u : Multiset K) :
    convolve (convolve s t) u = convolve s (convolve t u) := by
  simp only [convolve,Multiset.bind_assoc,Multiset.bind_map,Multiset.map_bind,
    Multiset.map_map,Function.comp_def,add_assoc]

theorem convolve_left_comm (s t u : Multiset K) :
    convolve s (convolve t u) = convolve t (convolve s u) := by
  rw [← convolve_assoc,convolve_comm s t,convolve_assoc]

theorem convolve_replicate (a b : K) (m n : ℕ) :
    convolve (Multiset.replicate m a) (Multiset.replicate n b) =
      Multiset.replicate (m * n) (a + b) := by
  induction m with
  | zero => simp
  | succ m ih =>
    rw [Multiset.replicate_succ,← Multiset.singleton_add,add_convolve,ih,add_mul,one_mul,
      add_comm (m * n),Multiset.replicate_add]
    simp [convolve]

theorem convolve_map (f : K →+ L) (s t : Multiset K) :
    convolve (s.map f) (t.map f) = (convolve s t).map f := by
  simp only [convolve,Multiset.bind_map,Multiset.map_bind,Multiset.map_map,
    Function.comp_def,map_add]

theorem card_convolve (s t : Multiset K) :
    (convolve s t).card = s.card * t.card := by
  simp [convolve,Multiset.card_bind]

theorem mem_convolve {s t : Multiset K} {x : K} :
    x ∈ convolve s t ↔ ∃ a ∈ s, ∃ b ∈ t, a + b = x := by
  simp [convolve]

theorem outcomes_append (xs ys : List (List K)) :
    outcomes (xs ++ ys) = convolve (outcomes xs) (outcomes ys) := by
  induction xs with
  | nil => simp [outcomes]
  | cons x xs ih => simp [outcomes,ih,convolve_assoc]

theorem outcomes_perm {xs ys : List (List K)} (h : xs.Perm ys) :
    outcomes xs = outcomes ys := by
  induction h with
  | nil => rfl
  | cons x _ ih => simp [outcomes,ih]
  | swap x y l => exact convolve_left_comm _ _ _
  | trans _ _ ih₁ ih₂ => exact ih₁.trans ih₂

theorem outcomes_forall₂ {xs ys : List (List K)} (h : List.Forall₂ List.Perm xs ys) :
    outcomes xs = outcomes ys := by
  induction h with
  | nil => rfl
  | cons hperm _ ih => rw [outcomes,outcomes,ih,Multiset.coe_eq_coe.mpr hperm]

theorem outcomes_map (f : K →+ L) (choices : List (List K)) :
    outcomes (choices.map (List.map f)) = (outcomes choices).map f := by
  induction choices with
  | nil => simp [outcomes]
  | cons options rest ih =>
    simp only [List.map_cons,outcomes,ih,← Multiset.map_coe,convolve_map]

theorem card_outcomes (choices : List (List K)) :
    (outcomes choices).card = (choices.map List.length).prod := by
  induction choices with
  | nil => rfl
  | cons options rest ih => simp [outcomes,card_convolve,ih]

def copies (s : Multiset K) : ℕ → Multiset K
  | 0 => {0}
  | n + 1 => convolve s (copies s n)

theorem copies_add (s : Multiset K) (m n : ℕ) :
    copies s (m + n) = convolve (copies s m) (copies s n) := by
  induction m with
  | zero => simp [copies]
  | succ m ih => rw [Nat.succ_add,copies,ih,copies,convolve_assoc]

theorem copies_double (s : Multiset K) (n : ℕ) :
    copies (convolve s s) n = copies s (2 * n) := by
  induction n with
  | zero => rfl
  | succ n ih => rw [copies,ih,Nat.mul_succ,Nat.add_comm,copies_add,copies,copies,copies,convolve_unit]

theorem outcomes_replicate (options : List K) (n : ℕ) :
    outcomes (List.replicate n options) = copies (options : Multiset K) n := by
  induction n with
  | zero => rfl
  | succ n ih => rw [List.replicate_succ,outcomes,ih,copies]

def product : List (List K) → List (List K)
  | [] => [[]]
  | options :: rest => options.flatMap fun v => (product rest).map (v :: ·)

theorem outcomes_product (choices : List (List K)) :
    (((product choices).map List.sum : List K) : Multiset K) = outcomes choices := by
  induction choices with
  | nil => rfl
  | cons options rest ih =>
    simp only [product,outcomes,← ih,convolve,List.map_flatMap,List.map_map,Function.comp_def,
      List.sum_cons,← Multiset.coe_bind,Multiset.map_coe]

end Convolution

section Product

theorem product_map (f : K → L) (choices : List (List K)) :
    product (choices.map (List.map f)) = (product choices).map (List.map f) := by
  induction choices with
  | nil => rfl
  | cons options rest ih =>
    simp only [List.map_cons,product,ih,List.map_map,List.flatMap_map,List.map_flatMap,Function.comp_def]

theorem mem_product {choices : List (List K)} {values : List K} :
    values ∈ product choices ↔ List.Forall₂ (fun value options => value ∈ options) values choices := by
  induction choices generalizing values with
  | nil => simp [product]
  | cons options rest ih =>
    simp only [product,List.mem_flatMap,List.mem_map,ih]
    constructor
    · rintro ⟨value,hvalue,others,hothers,rfl⟩
      exact .cons hvalue hothers
    · rintro (_ | ⟨hvalue,hothers⟩)
      exact ⟨_,hvalue,_,hothers,rfl⟩

theorem length_product (choices : List (List K)) :
    (product choices).length = (choices.map List.length).prod := by
  induction choices with
  | nil => rfl
  | cons options rest ih => simp [product,ih]

end Product

section Spread

def spread (dist : List (K × ℕ)) : Multiset K :=
  (dist.map fun p => Multiset.replicate p.2 p.1).sum

def total (dist : List (K × ℕ)) : ℕ := (dist.map Prod.snd).sum

@[simp] theorem spread_nil : spread ([] : List (K × ℕ)) = 0 := rfl

@[simp] theorem spread_cons (p : K × ℕ) (dist : List (K × ℕ)) :
    spread (p :: dist) = Multiset.replicate p.2 p.1 + spread dist := by simp [spread]

theorem spread_unit_masses (values : List K) :
    spread (values.map fun v => (v,1)) = (values : Multiset K) := by
  induction values with
  | nil => rfl
  | cons v vs ih => simp [ih]

theorem total_eq_card (dist : List (K × ℕ)) : total dist = (spread dist).card := by
  induction dist with
  | nil => rfl
  | cons p rest ih =>
    simp only [total,List.map_cons,List.sum_cons,spread_cons,Multiset.card_add,
      Multiset.card_replicate] at ih ⊢
    omega

def Supported (dist : List (K × ℕ)) : Prop :=
  (dist.map Prod.fst).Nodup ∧ ∀ p ∈ dist, 0 < p.2

theorem supported_nil : Supported ([] : List (K × ℕ)) := by simp [Supported]

theorem mem_spread {dist : List (K × ℕ)} (h : Supported dist) {k : K} :
    k ∈ spread dist ↔ k ∈ dist.map Prod.fst := by
  induction dist with
  | nil => simp
  | cons p rest ih =>
    have hr : Supported rest := ⟨(List.nodup_cons.mp h.1).2,fun q hq => h.2 q (by simp [hq])⟩
    have hp : p.2 ≠ 0 := (h.2 p (by simp)).ne'
    simp [ih hr,Multiset.mem_replicate,hp]

theorem mem_spread_of_mem {dist : List (K × ℕ)} {p : K × ℕ} (hp : p ∈ dist) (hpos : 0 < p.2) :
    p.1 ∈ spread dist := by
  induction dist with
  | nil => cases hp
  | cons q rest ih =>
    rw [spread_cons,Multiset.mem_add]
    rcases List.mem_cons.mp hp with rfl | hp
    · exact .inl (Multiset.mem_replicate.mpr ⟨hpos.ne',rfl⟩)
    · exact .inr (ih hp)

def rekey (f : K → L) (dist : List (K × ℕ)) : List (L × ℕ) :=
  dist.map fun p => (f p.1,p.2)

theorem spread_shift [AddCommMonoid K] (k : K) (m : ℕ) (dist : List (K × ℕ)) :
    spread (dist.map fun q => (k + q.1,m * q.2)) =
      convolve (Multiset.replicate m k) (spread dist) := by
  induction dist with
  | nil => simp [convolve]
  | cons q rest ih => simp [ih,convolve_add,convolve_replicate]

end Spread

section Counting
variable [DecidableEq K] [DecidableEq L]

def bump : List (K × ℕ) → K → ℕ → List (K × ℕ)
  | [], k, m => [(k,m)]
  | (l,n) :: rest, k, m => if l = k then (l,n + m) :: rest else (l,n) :: bump rest k m

def counted (values : List K) : List (K × ℕ) :=
  values.foldl (fun dist v => bump dist v 1) []

@[simp] theorem spread_bump (dist : List (K × ℕ)) (k : K) (m : ℕ) :
    spread (bump dist k m) = spread dist + Multiset.replicate m k := by
  induction dist with
  | nil => simp [bump]
  | cons p rest ih =>
    obtain ⟨l,n⟩ := p
    by_cases h : l = k
    · subst h
      simp only [bump,if_pos,spread_cons,Multiset.replicate_add]
      abel
    · simp only [bump,if_neg h,spread_cons,ih]
      abel

theorem spread_foldl_bump {I : Type} (f : I → K) (g : I → ℕ) (xs : List I) (dist : List (K × ℕ)) :
    spread (xs.foldl (fun acc x => bump acc (f x) (g x)) dist) =
      spread dist + spread (xs.map fun x => (f x,g x)) := by
  induction xs generalizing dist with
  | nil => simp
  | cons x xs ih => simp [ih,add_assoc]

theorem spread_counted (values : List K) : spread (counted values) = (values : Multiset K) := by
  rw [counted,spread_foldl_bump (fun v => v) (fun _ => 1)]
  simp [spread_unit_masses]

theorem mem_bump_key {dist : List (K × ℕ)} {k l : K} {m : ℕ} :
    l ∈ (bump dist k m).map Prod.fst ↔ l ∈ dist.map Prod.fst ∨ l = k := by
  induction dist with
  | nil => simp [bump]
  | cons p rest ih =>
    obtain ⟨a,n⟩ := p
    by_cases h : a = k
    · subst h
      simp only [bump,if_pos,List.map_cons,List.mem_cons]
      tauto
    · simp only [bump,if_neg h,List.map_cons,List.mem_cons,ih]
      tauto

theorem supported_bump {dist : List (K × ℕ)} (h : Supported dist) (k : K) {m : ℕ} (hm : 0 < m) :
    Supported (bump dist k m) := by
  induction dist with
  | nil => simpa [Supported,bump] using hm
  | cons p rest ih =>
    obtain ⟨a,n⟩ := p
    obtain ⟨hnodup,hpos⟩ := h
    obtain ⟨hnot,hrest⟩ := List.nodup_cons.mp hnodup
    have hn : 0 < n := hpos _ (List.mem_cons_self ..)
    have hr : Supported rest := ⟨hrest,fun q hq => hpos q (List.mem_cons_of_mem _ hq)⟩
    by_cases hk : a = k
    · simp only [bump,if_pos hk]
      refine ⟨hnodup,?_⟩
      intro q hq
      rcases List.mem_cons.mp hq with rfl | hq
      · exact Nat.add_pos_left hn m
      · exact hr.2 q hq
    · simp only [bump,if_neg hk]
      obtain ⟨hn',hp'⟩ := ih hr
      refine ⟨List.nodup_cons.mpr ⟨?_,hn'⟩,?_⟩
      · intro hmem
        rcases mem_bump_key.mp hmem with hmem | hmem
        · exact hnot hmem
        · exact hk hmem
      · intro q hq
        rcases List.mem_cons.mp hq with rfl | hq
        · exact hn
        · exact hp' q hq

theorem supported_foldl_bump {I : Type} (f : I → K) (g : I → ℕ) (xs : List I)
    {dist : List (K × ℕ)} (h : Supported dist) (hg : ∀ x ∈ xs, 0 < g x) :
    Supported (xs.foldl (fun acc x => bump acc (f x) (g x)) dist) := by
  induction xs generalizing dist with
  | nil => exact h
  | cons x xs ih =>
    exact ih (supported_bump h (f x) (hg x (by simp))) (fun y hy => hg y (by simp [hy]))

theorem length_eq_support {dist : List (K × ℕ)} (h : Supported dist) :
    dist.length = (spread dist).toFinset.card := by
  have hs : (spread dist).toFinset = (dist.map Prod.fst).toFinset := by
    ext k
    simp only [Multiset.mem_toFinset,mem_spread h,List.mem_toFinset]
  rw [hs,List.toFinset_card_of_nodup h.1,List.length_map]

theorem rekey_bump {f : K → L} (hf : Function.Injective f) (dist : List (K × ℕ)) (k : K) (m : ℕ) :
    rekey f (bump dist k m) = bump (rekey f dist) (f k) m := by
  induction dist with
  | nil => rfl
  | cons p rest ih =>
    obtain ⟨l,n⟩ := p
    by_cases h : l = k
    · simp [rekey,bump,h]
    · have hne : f l ≠ f k := fun e => h (hf e)
      simpa [rekey,bump,h,hne] using ih

theorem rekey_foldl_bump {I : Type} {f : K → L} (hf : Function.Injective f) (g : I → K) (m : I → ℕ)
    (xs : List I) (dist : List (K × ℕ)) :
    rekey f (xs.foldl (fun acc x => bump acc (g x) (m x)) dist) =
      xs.foldl (fun acc x => bump acc (f (g x)) (m x)) (rekey f dist) := by
  induction xs generalizing dist with
  | nil => rfl
  | cons x xs ih => simp only [List.foldl_cons,ih,rekey_bump hf]

end Counting

section Tail
variable [LinearOrder K]

def tail (dist : List (K × ℕ)) (observed : K) : ℕ :=
  ((dist.filter fun p => observed ≤ p.1).map Prod.snd).sum

theorem tail_eq_countP (dist : List (K × ℕ)) (observed : K) :
    tail dist observed = (spread dist).countP (observed ≤ ·) := by
  induction dist with
  | nil => rfl
  | cons p rest ih =>
    have hr : (Multiset.replicate p.2 p.1).countP (observed ≤ ·) = if observed ≤ p.1 then p.2 else 0 := by
      by_cases h : observed ≤ p.1
      · rw [Multiset.countP_eq_card.mpr (by
          intro a ha
          rwa [Multiset.eq_of_mem_replicate ha])]
        simp [h]
      · rw [if_neg h,Multiset.countP_eq_zero]
        intro a ha
        rwa [Multiset.eq_of_mem_replicate ha]
    rw [spread_cons,Multiset.countP_add,hr,← ih]
    by_cases h : observed ≤ p.1 <;> simp [tail,h]

theorem countP_map_strictMono {L : Type} [LinearOrder L] {f : K → L} (hf : StrictMono f)
    (s : Multiset K) (observed : K) :
    (s.map f).countP (f observed ≤ ·) = s.countP (observed ≤ ·) := by
  rw [Multiset.countP_map,Multiset.countP_eq_card_filter]
  simp only [hf.le_iff_le]

end Tail

section Sequential
variable [DecidableEq K] [AddCommMonoid K] [DecidableEq L] [AddCommMonoid L]

def stepChoice (dist : List (K × ℕ)) (options : List K) : List (K × ℕ) :=
  dist.foldl (fun acc p => options.foldl (fun acc v => bump acc (p.1 + v) p.2) acc) []

def convolveMasses (left right : List (K × ℕ)) : List (K × ℕ) :=
  left.foldl (fun acc p => right.foldl (fun acc q => bump acc (p.1 + q.1) (p.2 * q.2)) acc) []

theorem spread_convolveMasses (left right : List (K × ℕ)) :
    spread (convolveMasses left right) = convolve (spread left) (spread right) := by
  have h (xs acc : List (K × ℕ)) :
      spread (xs.foldl (fun acc p => right.foldl
        (fun acc q => bump acc (p.1 + q.1) (p.2 * q.2)) acc) acc) =
      spread acc + convolve (spread xs) (spread right) := by
    induction xs generalizing acc with
    | nil => simp
    | cons p rest ih =>
      rw [List.foldl_cons,ih,spread_foldl_bump (fun q : K × ℕ => p.1 + q.1) (fun q => p.2 * q.2),
        spread_shift,spread_cons,add_convolve,add_assoc]
  simpa [convolveMasses] using h left []

theorem stepChoice_eq (dist : List (K × ℕ)) (options : List K) :
    stepChoice dist options = convolveMasses dist (options.map fun v => (v,1)) := by
  simp [stepChoice,convolveMasses,List.foldl_map]

theorem spread_stepChoice (dist : List (K × ℕ)) (options : List K) :
    spread (stepChoice dist options) = convolve (spread dist) (options : Multiset K) := by
  rw [stepChoice_eq,spread_convolveMasses,spread_unit_masses]

theorem supported_convolveMasses {left right : List (K × ℕ)} (hl : Supported left)
    (hr : ∀ q ∈ right, 0 < q.2) : Supported (convolveMasses left right) := by
  have h (xs acc : List (K × ℕ)) (hx : ∀ p ∈ xs, 0 < p.2) (ha : Supported acc) :
      Supported (xs.foldl (fun acc p => right.foldl
        (fun acc q => bump acc (p.1 + q.1) (p.2 * q.2)) acc) acc) := by
    induction xs generalizing acc with
    | nil => exact ha
    | cons p rest ih =>
      refine ih _ (fun q hq => hx q (by simp [hq])) ?_
      exact supported_foldl_bump (fun q => p.1 + q.1) (fun q => p.2 * q.2) right ha
        (fun q hq => Nat.mul_pos (hx p (by simp)) (hr q hq))
  exact h left [] hl.2 supported_nil

theorem supported_stepChoice {dist : List (K × ℕ)} (h : Supported dist) (options : List K) :
    Supported (stepChoice dist options) := by
  rw [stepChoice_eq]
  exact supported_convolveMasses h (by simp)

def sequential (limit : ℕ) : List (List K) → List (K × ℕ) → Option (List (K × ℕ))
  | [], dist => some dist
  | options :: rest, dist =>
    let next := stepChoice dist options
    if limit < next.length then none else sequential limit rest next

theorem spread_sequential {limit : ℕ} {choices : List (List K)} {dist result : List (K × ℕ)}
    (h : sequential limit choices dist = some result) :
    spread result = convolve (spread dist) (outcomes choices) := by
  induction choices generalizing dist with
  | nil =>
    cases h
    simp [outcomes]
  | cons options rest ih =>
    simp only [sequential] at h
    split at h
    · cases h
    · rw [ih h,spread_stepChoice,outcomes,convolve_assoc]

theorem sequential_isSome {limit : ℕ} {choices : List (List K)} {dist : List (K × ℕ)}
    (hd : Supported dist)
    (h : ∀ initial, initial <+: choices →
      (convolve (spread dist) (outcomes initial)).toFinset.card ≤ limit) :
    (sequential limit choices dist).isSome := by
  induction choices generalizing dist with
  | nil => rfl
  | cons options rest ih =>
    have hs := supported_stepChoice hd options
    have hlen : (stepChoice dist options).length ≤ limit := by
      rw [length_eq_support hs,spread_stepChoice]
      simpa [outcomes] using h [options] (by simp)
    simp only [sequential,if_neg (Nat.not_lt.mpr hlen)]
    refine ih hs ?_
    intro initial hi
    have := h (options :: initial) (List.cons_prefix_cons.mpr ⟨rfl,hi⟩)
    rwa [outcomes,← convolve_assoc,← spread_stepChoice] at this

theorem sequential_isSome_forall₂ (limit : ℕ) {xs ys : List (List K)}
    (h : List.Forall₂ List.Perm xs ys) {dist other : List (K × ℕ)} (hd : Supported dist)
    (ho : Supported other) (heq : spread dist = spread other) :
    (sequential limit xs dist).isSome = (sequential limit ys other).isSome := by
  induction h generalizing dist other with
  | nil => rfl
  | @cons options image _ _ hperm _ ih =>
    have hstep := supported_stepChoice hd options
    have hother := supported_stepChoice ho image
    have hspread : spread (stepChoice dist options) = spread (stepChoice other image) := by
      rw [spread_stepChoice,spread_stepChoice,heq,Multiset.coe_eq_coe.mpr hperm]
    simp only [sequential,length_eq_support hstep,length_eq_support hother,hspread]
    split
    · rfl
    · exact ih hstep hother hspread

theorem rekey_stepChoice {f : K →+ L} (hf : Function.Injective f) (dist : List (K × ℕ))
    (options : List K) :
    rekey f (stepChoice dist options) = stepChoice (rekey f dist) (options.map f) := by
  have h (xs acc : List (K × ℕ)) :
      rekey f (xs.foldl (fun acc p => options.foldl (fun acc v => bump acc (p.1 + v) p.2) acc) acc) =
      (rekey f xs).foldl (fun acc p => (options.map f).foldl
        (fun acc v => bump acc (p.1 + v) p.2) acc) (rekey f acc) := by
    induction xs generalizing acc with
    | nil => rfl
    | cons p rest ih =>
      rw [List.foldl_cons,ih,rekey_foldl_bump hf (fun v => p.1 + v) (fun _ => p.2)]
      simp [rekey,List.foldl_map,map_add]
  exact h dist []

theorem rekey_sequential {f : K →+ L} (hf : Function.Injective f) (limit : ℕ)
    (choices : List (List K)) (dist : List (K × ℕ)) :
    sequential limit (choices.map (List.map f)) (rekey f dist) =
      (sequential limit choices dist).map (rekey f) := by
  induction choices generalizing dist with
  | nil => rfl
  | cons options rest ih =>
    simp only [List.map_cons,sequential,← rekey_stepChoice hf]
    rw [show (rekey f (stepChoice dist options)).length = (stepChoice dist options).length by
      simp [rekey]]
    split
    · rfl
    · exact ih _

end Sequential

section Powers
variable [DecidableEq K] [AddCommMonoid K]

def groupedPower : ℕ → List (K × ℕ) → List (K × ℕ) → ℕ → List (K × ℕ)
  | 0, dist, _, _ => dist
  | fuel + 1, dist, single, repeats =>
    if repeats = 0 then dist
    else
      let dist' := if repeats % 2 = 1 then convolveMasses dist single else dist
      let single' := if repeats / 2 ≠ 0 then convolveMasses single single else single
      groupedPower fuel dist' single' (repeats / 2)

theorem spread_groupedPower (fuel : ℕ) (dist single : List (K × ℕ)) (repeats : ℕ)
    (h : repeats ≤ fuel) :
    spread (groupedPower fuel dist single repeats) =
      convolve (spread dist) (copies (spread single) repeats) := by
  induction fuel generalizing dist single repeats with
  | zero =>
    obtain rfl : repeats = 0 := by omega
    simp [groupedPower,copies]
  | succ fuel ih =>
    by_cases hr : repeats = 0
    · simp [groupedPower,hr,copies]
    · simp only [groupedPower,if_neg hr]
      rw [ih _ _ _ (by omega)]
      have hhalf : copies (spread (if repeats / 2 ≠ 0 then convolveMasses single single else single))
          (repeats / 2) = copies (spread single) (2 * (repeats / 2)) := by
        split
        · rw [spread_convolveMasses,copies_double]
        · next h0 =>
          rw [ne_eq,not_not] at h0
          rw [h0]
      rw [hhalf]
      by_cases hodd : repeats % 2 = 1
      · have hrep : repeats = 1 + 2 * (repeats / 2) := by omega
        rw [if_pos hodd,spread_convolveMasses,convolve_assoc]
        congr 1
        conv_rhs => rw [hrep,copies_add]
        simp [copies]
      · rw [if_neg hodd,show 2 * (repeats / 2) = repeats by omega]

theorem supported_groupedPower (fuel : ℕ) {dist single : List (K × ℕ)} (hd : Supported dist)
    (hs : Supported single) (repeats : ℕ) : Supported (groupedPower fuel dist single repeats) := by
  induction fuel generalizing dist single repeats with
  | zero => exact hd
  | succ fuel ih =>
    by_cases hr : repeats = 0
    · simpa [groupedPower,hr] using hd
    · simp only [groupedPower,if_neg hr]
      apply ih
      · split
        · exact supported_convolveMasses hd hs.2
        · exact hd
      · split
        · exact supported_convolveMasses hs hs.2
        · exact hs

end Powers

section Tables
variable [DecidableEq K]

theorem supported_counted (values : List K) : Supported (counted values) :=
  supported_foldl_bump (fun v => v) (fun _ => 1) values supported_nil (fun _ _ => Nat.one_pos)

theorem mem_iff_count {dist : List (K × ℕ)} (h : Supported dist) {k : K} {m : ℕ} :
    (k,m) ∈ dist ↔ 0 < m ∧ (spread dist).count k = m := by
  induction dist with
  | nil =>
    simp only [List.not_mem_nil,spread_nil,Multiset.count_zero,false_iff]
    omega
  | cons p rest ih =>
    obtain ⟨l,n⟩ := p
    obtain ⟨hnot,hnodup⟩ := List.nodup_cons.mp h.1
    have hn : 0 < n := h.2 _ (List.mem_cons_self ..)
    have hr : Supported rest := ⟨hnodup,fun q hq => h.2 q (List.mem_cons_of_mem _ hq)⟩
    rw [List.mem_cons,ih hr,spread_cons,Multiset.count_add,Multiset.count_replicate]
    by_cases hk : l = k
    · subst hk
      have hzero : (spread rest).count l = 0 := by
        rw [Multiset.count_eq_zero,mem_spread hr]
        exact hnot
      simp only [hzero,Prod.mk.injEq,true_and,if_true,Nat.add_zero]
      constructor
      · rintro (rfl | ⟨hm,rfl⟩)
        · exact ⟨hn,rfl⟩
        · omega
      · rintro ⟨-,rfl⟩
        exact .inl rfl
    · have hne : ¬ (k,m) = (l,n) := fun heq => hk (Prod.mk.inj heq).1.symm
      simp [hne,hk]

theorem perm_of_spread {dist other : List (K × ℕ)} (hd : Supported dist) (ho : Supported other)
    (h : spread dist = spread other) : dist.Perm other := by
  rw [List.perm_ext_iff_of_nodup (List.Nodup.of_map _ hd.1) (List.Nodup.of_map _ ho.1)]
  rintro ⟨k,m⟩
  rw [mem_iff_count hd,mem_iff_count ho,h]

variable [AddCommMonoid K]

theorem spread_foldl_stepChoice (choices : List (List K)) (dist : List (K × ℕ)) :
    spread (choices.foldl stepChoice dist) = convolve (spread dist) (outcomes choices) := by
  induction choices generalizing dist with
  | nil => simp [outcomes]
  | cons options rest ih => rw [List.foldl_cons,ih,spread_stepChoice,outcomes,convolve_assoc]

theorem supported_foldl_stepChoice (choices : List (List K)) {dist : List (K × ℕ)}
    (h : Supported dist) : Supported (choices.foldl stepChoice dist) := by
  induction choices generalizing dist with
  | nil => exact h
  | cons options rest ih => exact ih (supported_stepChoice h options)

theorem sequential_eq_foldl {limit : ℕ} {choices : List (List K)} {dist result : List (K × ℕ)}
    (h : sequential limit choices dist = some result) : result = choices.foldl stepChoice dist := by
  induction choices generalizing dist with
  | nil =>
    cases h
    rfl
  | cons options rest ih =>
    simp only [sequential] at h
    split at h
    · cases h
    · exact ih h

end Tables

section Lattice

theorem outcomes_lattice {choices : List (List ℤ)} {low span : List ℤ → ℤ} {step : ℤ}
    (h : ∀ options ∈ choices, ∀ v ∈ options,
      0 ≤ v - low options ∧ v - low options ≤ span options ∧ step ∣ v - low options)
    {x : ℤ} (hx : x ∈ outcomes choices) :
    0 ≤ x - (choices.map low).sum ∧ x - (choices.map low).sum ≤ (choices.map span).sum ∧
      step ∣ x - (choices.map low).sum := by
  induction choices generalizing x with
  | nil =>
    obtain rfl : x = 0 := by simpa [outcomes] using hx
    simp
  | cons options rest ih =>
    obtain ⟨a,ha,b,hb,rfl⟩ := mem_convolve.mp hx
    obtain ⟨h1,h2,h3⟩ := h options (by simp) a (by simpa using ha)
    obtain ⟨g1,g2,g3⟩ := ih (fun o ho => h o (by simp [ho])) hb
    have hsplit : a + b - (low options + (rest.map low).sum) =
        (a - low options) + (b - (rest.map low).sum) := by ring
    simp only [List.map_cons,List.sum_cons,hsplit]
    exact ⟨by omega,by omega,dvd_add h3 g3⟩

theorem lattice_card (s : Finset ℤ) (base span step : ℤ) (hs : 0 < step) (hspan : 0 ≤ span)
    (h : ∀ x ∈ s, 0 ≤ x - base ∧ x - base ≤ span ∧ step ∣ x - base) :
    (s.card : ℤ) ≤ span / step + 1 := by
  have hsub : s ⊆ (Finset.Icc 0 (span / step)).image (fun k => base + step * k) := by
    intro x hx
    obtain ⟨h0,h1,k,hk⟩ := h x hx
    refine Finset.mem_image.mpr ⟨k,Finset.mem_Icc.mpr ⟨?_,?_⟩,by linarith⟩
    · rw [hk] at h0
      exact nonneg_of_mul_nonneg_right h0 hs
    · rw [hk] at h1
      exact (Int.le_ediv_iff_mul_le hs).mpr (by linarith)
  have hcard := (Finset.card_le_card hsub).trans Finset.card_image_le
  have hq : 0 ≤ span / step := Int.ediv_nonneg hspan hs.le
  simp only [Int.card_Icc] at hcard
  omega

end Lattice

end MassFunction
