import PneumaLab.Exceptions
import PneumaLab.Library.CyclicShuffle
import PneumaLab.Library.Table

namespace PneumaLab.Placebo
open CyclicShuffle

structure SelectionTarget where
  problemId : String
  taskText : String
  identified : problemId ≠ ""

-- A dict of donors by target.
abbrev Mapping := Table (Prod.fst : String × String → String)

def Mapping.donor (mapping : Mapping) (target : String) : Option String := (mapping.find target).map Prod.snd

def dictOf (pairs : List (String × String)) : Mapping := pairs.foldl Table.put Table.empty

-- repr of a text and of a list of texts, as the messages quote them
structure Reprs where
  text : String → String
  texts : List String → String

section Derangement
variable {σ : Type} (source : Source σ) (reprs : Reprs)

def maxDerangementAttempts : ℕ := 256

def attempts {n : ℕ} (last : ℕ) (h : last < n) (xs : Fin n → String) : ℕ → σ → Option (Fin n → String) × σ
  | 0, s => (none,s)
  | tries + 1, s =>
    let drawn := shuffle source last h xs s
    if ∀ k, xs k ≠ drawn.1 k then (some drawn.1,drawn.2) else attempts last h xs tries drawn.2

theorem last_lt {ids : List String} (h : 2 ≤ ids.length) : ids.length - 1 < ids.length := by omega

def shuffled (ids : List String) (h : 2 ≤ ids.length) (s : σ) : Fin ids.length → String :=
  let tried := attempts source (ids.length - 1) (last_lt h) ids.get maxDerangementAttempts s
  tried.1.getD (sattolo source (ids.length - 1) (last_lt h) ids.get tried.2).1

def buildDerangement (seeded : ℤ → σ) (ids : List String) (seed : ℤ) : Py Mapping :=
  if h : 2 ≤ ids.length then do
    demand (decide ids.Nodup) (.valueError "problem_ids must be unique")
    let mapping := dictOf (ids.zip (List.ofFn (shuffled source ids h (seeded seed))))
    match mapping.rows.find? fun pair => pair.1 = pair.2 with
    | some pair => .error (.assertionError ("self-donation produced for " ++ reprs.text pair.1))
    | none => return mapping
  else .error (.valueError ("a derangement needs at least 2 problems, got " ++ toString ids.length ++
    ": with one problem every assignment is a self-donation"))

end Derangement

section Repair
variable (banned : List (String × String))

-- Named, so that membership in the exclusions carries no proof of its own.
local instance pair_lawful : LawfulBEq (String × String) := inferInstance

def offer (mapping : Mapping) (target donorT other : String) : Option (String × String) :=
  match mapping.donor other with
  | none => none
  | some donorO =>
    if other = target ∨ donorO = target ∨ donorT = other ∨ (target,donorO) ∈ banned ∨ (other,donorT) ∈ banned then none
    else some (other,donorO)

def repairTarget (ids : List String) (state : Mapping × List String) (target : String) : Mapping × List String :=
  match state.1.donor target with
  | none => state
  | some donorT =>
    if (target,donorT) ∈ banned then
      match ids.findSome? (offer banned state.1 target donorT) with
      | some (other,donorO) => ((state.1.put (target,donorO)).put (other,donorT),state.2)
      | none => (state.1.delete fun pair => pair.1 = target,state.2 ++ [target])
    else state

def sortedTargets (mapping : Mapping) : List String := (mapping.rows.map Prod.fst).insertionSort (· ≤ ·)

def repairAgainstExclusions (mapping : Mapping) : Mapping × List String :=
  (sortedTargets mapping).foldl (repairTarget banned (sortedTargets mapping)) (mapping,[])

end Repair

structure DonorAssignment where
  seed : ℤ
  method : String
  mapping : Mapping
  unassigned : List String
  excludedPairs : List (String × String)

def DonorAssignment.assertNoSelfDonation (reprs : Reprs) (assignment : DonorAssignment) : Py Unit :=
  let offenders := ((assignment.mapping.rows.filter fun pair => pair.1 = pair.2).map Prod.fst).insertionSort (· ≤ ·)
  demand offenders.isEmpty (.assertionError ("self-donation in assignment: " ++ reprs.texts offenders))

def uniformAssignment (mapping : Mapping) (seed : ℤ) (excludedPairs : List (String × String)) : DonorAssignment :=
  let banned := excludedPairs.dedup
  let repaired := repairAgainstExclusions banned mapping
  { seed
    method := "uniform_random"
    mapping := repaired.1
    unassigned := repaired.2
    excludedPairs := banned.insertionSort fun left right => left.1 < right.1 ∨ left.1 = right.1 ∧ left.2 ≤ right.2 }

def assignDonorsUniform {σ : Type} (source : Source σ) (reprs : Reprs) (seeded : ℤ → σ) (targets : List SelectionTarget)
    (seed : ℤ) (excludedPairs : List (String × String)) : Py DonorAssignment := do
  let mapping ← buildDerangement source reprs seeded (targets.map SelectionTarget.problemId) seed
  let assignment := uniformAssignment mapping seed excludedPairs
  assignment.assertNoSelfDonation reprs
  return assignment

section Mappings

theorem donor_eq_some {mapping : Mapping} {target donor : String} :
    mapping.donor target = some donor ↔ (target,donor) ∈ mapping.rows := by
  rw [Mapping.donor,Option.map_eq_some_iff]
  constructor
  · rintro ⟨⟨key,value⟩,hfind,rfl⟩
    obtain ⟨hmem,rfl⟩ := Table.find_eq_some.mp hfind
    exact hmem
  · intro hmem
    exact ⟨(target,donor),Table.find_eq_some.mpr ⟨hmem,rfl⟩,rfl⟩

theorem donor_put (mapping : Mapping) (target donor other : String) :
    Mapping.donor (mapping.put (target,donor)) other = if target = other then some donor else mapping.donor other := by
  rw [Mapping.donor,Table.find_put]
  split <;> rfl

theorem donor_delete (mapping : Mapping) (target other : String) :
    Mapping.donor (mapping.delete fun pair => pair.1 = target) other = if target = other then none else mapping.donor other := by
  rw [Mapping.donor,Table.find_delete_key]
  split <;> rfl

theorem donor_dictOf {pairs : List (String × String)} (h : (pairs.map Prod.fst).Nodup) {target donor : String} :
    (dictOf pairs).donor target = some donor ↔ (target,donor) ∈ pairs := by
  rw [donor_eq_some,dictOf,Table.rows_foldl_put h]

end Mappings

section Drawn
variable {σ : Type} (source : Source σ)

structure Deranged {n : ℕ} (xs ys : Fin n → String) : Prop where
  rearranged : ∃ e : Equiv.Perm (Fin n), ys = xs ∘ e
  moved : ∀ k, xs k ≠ ys k

theorem attempts_deranged {n last : ℕ} (h : last < n) (xs : Fin n → String) (tries : ℕ) (s : σ) {ys : Fin n → String}
    (hys : (attempts source last h xs tries s).1 = some ys) : Deranged xs ys := by
  induction tries generalizing s with
  | zero => cases hys
  | succ tries ih =>
    rw [attempts] at hys
    split at hys
    · next hmoved =>
      obtain rfl := Option.some.inj hys
      exact ⟨swaps_perm source _ h xs s,hmoved⟩
    · exact ih _ hys

theorem shuffled_deranged {ids : List String} (h : 2 ≤ ids.length) (hids : ids.Nodup) (s : σ) :
    Deranged ids.get (shuffled source ids h s) := by
  rw [shuffled]
  cases htried : (attempts source (ids.length - 1) (last_lt h) ids.get maxDerangementAttempts s).1 with
  | some ys => exact attempts_deranged source _ _ _ s htried
  | none =>
    have hfree := sattolo_fixed_free source (show ids.length = (ids.length - 1) + 1 by omega) (last_lt h)
      (show 0 < ids.length - 1 by omega) (List.nodup_iff_injective_get.mp hids)
    exact ⟨swaps_perm source _ _ _ _,fun k heq => hfree _ k heq.symm⟩

structure Permutes (ids : List String) (mapping : Mapping) : Prop where
  assigned : ∀ target, (mapping.donor target).isSome = true ↔ target ∈ ids
  member : ∀ target donor, mapping.donor target = some donor → donor ∈ ids
  distinct : ∀ target other donor, mapping.donor target = some donor → mapping.donor other = some donor → target = other
  moved : ∀ target donor, mapping.donor target = some donor → donor ≠ target

theorem mem_zip_ofFn {ids : List String} (ys : Fin ids.length → String) (target donor : String) :
    (target,donor) ∈ ids.zip (List.ofFn ys) ↔ ∃ k, ids.get k = target ∧ ys k = donor := by
  rw [List.mem_iff_getElem]
  constructor
  · rintro ⟨k,hk,heq⟩
    rw [List.getElem_zip,Prod.mk.injEq,List.getElem_ofFn] at heq
    exact ⟨⟨k,by rw [List.length_zip] at hk; omega⟩,heq⟩
  · rintro ⟨k,rfl,rfl⟩
    refine ⟨k,by rw [List.length_zip,List.length_ofFn,min_self]; exact k.isLt,?_⟩
    rw [List.getElem_zip,List.getElem_ofFn]
    rfl

theorem buildDerangement_ok (reprs : Reprs) (seeded : ℤ → σ) (seed : ℤ) {ids : List String} (h : 2 ≤ ids.length) (hids : ids.Nodup) :
    ∃ mapping, buildDerangement source reprs seeded ids seed = .ok mapping ∧ Permutes ids mapping := by
  obtain ⟨⟨e,he⟩,hmoved⟩ := shuffled_deranged source h hids (seeded seed)
  have hinjective := List.nodup_iff_injective_get.mp hids
  have hkeys : ((ids.zip (List.ofFn (shuffled source ids h (seeded seed)))).map Prod.fst).Nodup := by
    rwa [List.map_fst_zip (by rw [List.length_ofFn])]
  have hdonor : ∀ target donor, (dictOf (ids.zip (List.ofFn (shuffled source ids h (seeded seed))))).donor target = some donor ↔
      ∃ k, ids.get k = target ∧ ids.get (e k) = donor := by
    intro target donor
    rw [donor_dictOf hkeys,mem_zip_ofFn,he]
    rfl
  have hown : ∀ target donor, (dictOf (ids.zip (List.ofFn (shuffled source ids h (seeded seed))))).donor target = some donor →
      donor ≠ target := by
    intro target donor hfound heq
    obtain ⟨k,rfl,rfl⟩ := (hdonor target donor).mp hfound
    refine hmoved k ?_
    rw [he]
    exact heq.symm
  have hnone : ((dictOf (ids.zip (List.ofFn (shuffled source ids h (seeded seed))))).rows.find? fun pair => pair.1 = pair.2) = none := by
    rw [List.find?_eq_none]
    rintro ⟨target,donor⟩ hmem hself
    exact hown target donor (donor_eq_some.mpr hmem) (of_decide_eq_true hself).symm
  refine ⟨_,?_,?_,?_,?_,hown⟩
  · rw [buildDerangement,dif_pos h,demand,if_pos (decide_eq_true hids),ok_bind]
    simp only [hnone]
    rfl
  · intro target
    rw [Option.isSome_iff_exists]
    constructor
    · rintro ⟨donor,hfound⟩
      obtain ⟨k,rfl,_⟩ := (hdonor target donor).mp hfound
      exact List.get_mem ids k
    · intro hmem
      obtain ⟨k,rfl⟩ := List.get_of_mem hmem
      exact ⟨_,(hdonor _ _).mpr ⟨k,rfl,rfl⟩⟩
  · intro target donor hfound
    obtain ⟨k,_,rfl⟩ := (hdonor target donor).mp hfound
    exact List.get_mem ids _
  · intro target other donor htarget hother
    obtain ⟨k,rfl,hk⟩ := (hdonor target donor).mp htarget
    obtain ⟨l,rfl,hl⟩ := (hdonor other donor).mp hother
    rw [e.injective (hinjective (hk.trans hl.symm))]

end Drawn

section Repairing
variable {banned : List (String × String)} {ids : List String}

structure Repaired (banned : List (String × String)) (ids examined : List String) (state : Mapping × List String) : Prop where
  assigned : ∀ target, (state.1.donor target).isSome = true ↔ target ∈ ids ∧ target ∉ state.2
  dropped : ∀ target ∈ state.2, target ∈ examined
  once : state.2.Nodup
  member : ∀ target donor, state.1.donor target = some donor → donor ∈ ids
  distinct : ∀ target other donor, state.1.donor target = some donor → state.1.donor other = some donor → target = other
  moved : ∀ target donor, state.1.donor target = some donor → donor ≠ target
  allowed : ∀ target ∈ examined, ∀ donor, state.1.donor target = some donor → (target,donor) ∉ banned

theorem offer_eq_some {mapping : Mapping} {target donorT other : String} {found : String × String} :
    offer banned mapping target donorT other = some found ↔ ∃ donorO, mapping.donor other = some donorO ∧ found = (other,donorO) ∧
      other ≠ target ∧ donorO ≠ target ∧ donorT ≠ other ∧ (target,donorO) ∉ banned ∧ (other,donorT) ∉ banned := by
  rw [offer]
  cases mapping.donor other with
  | none => simp
  | some donorO =>
    dsimp only
    split
    · next hbad =>
      constructor
      · intro h
        cases h
      · rintro ⟨_,heq,_,hother,hself,hback,hleft,hright⟩
        rw [← Option.some.inj heq] at hself hleft
        tauto
    · next hgood =>
      simp only [not_or] at hgood
      rw [Option.some.injEq]
      constructor
      · rintro rfl
        exact ⟨donorO,rfl,rfl,hgood⟩
      · rintro ⟨_,heq,rfl,_⟩
        rw [Option.some.inj heq]

theorem donor_swap (mapping : Mapping) (target other donorT donorO : String) (t : String) :
    Mapping.donor ((mapping.put (target,donorO)).put (other,donorT)) t =
      if other = t then some donorT else if target = t then some donorO else mapping.donor t := by
  rw [donor_put,donor_put]

theorem Repaired.swap {examined : List String} {state : Mapping × List String} (h : Repaired banned ids examined state)
    {target other donorT donorO : String} (htarget : state.1.donor target = some donorT) (hother : state.1.donor other = some donorO)
    (hne : other ≠ target) (hself : donorO ≠ target) (hback : donorT ≠ other) (hleft : (target,donorO) ∉ banned)
    (hright : (other,donorT) ∉ banned) :
    Repaired banned ids (examined ++ [target]) ((state.1.put (target,donorO)).put (other,donorT),state.2) := by
  have hcases : ∀ {t d : String}, Mapping.donor ((state.1.put (target,donorO)).put (other,donorT)) t = some d →
      (t = other ∧ d = donorT) ∨ (t = target ∧ d = donorO) ∨ (t ≠ other ∧ t ≠ target ∧ state.1.donor t = some d) := by
    intro t d hfound
    rw [donor_swap] at hfound
    split at hfound
    · next heq => exact .inl ⟨heq.symm,(Option.some.inj hfound).symm⟩
    · next hnot =>
      split at hfound
      · next heq => exact .inr (.inl ⟨heq.symm,(Option.some.inj hfound).symm⟩)
      · next hnot' => exact .inr (.inr ⟨Ne.symm hnot,Ne.symm hnot',hfound⟩)
  refine ⟨fun t => ?_,fun t ht => List.mem_append_left _ (h.dropped t ht),h.once,fun t d hfound => ?_,fun t u d ht hu => ?_,
    fun t d hfound => ?_,fun t ht d hfound => ?_⟩
  · have hsome : (Mapping.donor ((state.1.put (target,donorO)).put (other,donorT)) t).isSome = (state.1.donor t).isSome := by
      rw [donor_swap]
      split
      · next heq => rw [← heq,hother]; rfl
      · split
        · next heq => rw [← heq,htarget]; rfl
        · rfl
    rw [hsome]
    exact h.assigned t
  · obtain ⟨rfl,rfl⟩ | ⟨rfl,rfl⟩ | ⟨_,_,hfound⟩ := hcases hfound
    · exact h.member _ _ htarget
    · exact h.member _ _ hother
    · exact h.member _ _ hfound
  · obtain ⟨rfl,rfl⟩ | ⟨rfl,rfl⟩ | ⟨hto,htt,hfirst⟩ := hcases ht <;>
      obtain ⟨rfl,hd⟩ | ⟨rfl,hd⟩ | ⟨huo,hut,hsecond⟩ := hcases hu
    · rfl
    · exact absurd (h.distinct _ _ _ htarget (hd ▸ hother)).symm hne
    · exact absurd (h.distinct _ _ _ hsecond htarget) hut
    · exact absurd (h.distinct _ _ _ hother (hd ▸ htarget)) hne
    · rfl
    · exact absurd (h.distinct _ _ _ hsecond hother) huo
    · exact absurd (h.distinct _ _ _ hfirst (hd ▸ htarget)) htt
    · exact absurd (h.distinct _ _ _ hfirst (hd ▸ hother)) hto
    · exact h.distinct _ _ _ hfirst hsecond
  · obtain ⟨rfl,rfl⟩ | ⟨rfl,rfl⟩ | ⟨_,_,hfound⟩ := hcases hfound
    · exact hback
    · exact hself
    · exact h.moved _ _ hfound
  · obtain ⟨rfl,rfl⟩ | ⟨rfl,rfl⟩ | ⟨_,htt,hfound⟩ := hcases hfound
    · exact hright
    · exact hleft
    · obtain hexamined | hlast := List.mem_append.mp ht
      · exact h.allowed t hexamined d hfound
      · exact absurd (List.mem_singleton.mp hlast) htt

theorem Repaired.drop {examined : List String} {state : Mapping × List String} (h : Repaired banned ids examined state)
    {target donorT : String} (htarget : state.1.donor target = some donorT) :
    Repaired banned ids (examined ++ [target]) (state.1.delete fun pair => pair.1 = target,state.2 ++ [target]) := by
  have hkeep : ∀ {t d : String}, Mapping.donor (state.1.delete fun pair => pair.1 = target) t = some d →
      t ≠ target ∧ state.1.donor t = some d := by
    intro t d hfound
    rw [donor_delete] at hfound
    split at hfound
    · cases hfound
    · next hnot => exact ⟨Ne.symm hnot,hfound⟩
  have hpresent := (h.assigned target).mp (Option.isSome_iff_exists.mpr ⟨donorT,htarget⟩)
  refine ⟨fun t => ?_,fun t ht => ?_,?_,fun t d hfound => h.member t d (hkeep hfound).2,
    fun t u d ht hu => h.distinct t u d (hkeep ht).2 (hkeep hu).2,fun t d hfound => h.moved t d (hkeep hfound).2,fun t ht d hfound => ?_⟩
  · rw [donor_delete]
    by_cases heq : target = t
    · subst heq
      simp
    · rw [if_neg heq,h.assigned t,List.mem_append,List.mem_singleton,not_or]
      exact and_congr_right fun _ => (and_iff_left (Ne.symm heq)).symm
  · obtain hold | hnew := List.mem_append.mp ht
    · exact List.mem_append_left _ (h.dropped t hold)
    · exact List.mem_append_right _ hnew
  · exact List.nodup_append.mpr ⟨h.once,List.nodup_singleton target,by
      intro t ht u hu heq
      rw [List.mem_singleton.mp hu] at heq
      exact hpresent.2 (heq ▸ ht)⟩
  · obtain ⟨hne,hfound⟩ := hkeep hfound
    obtain hexamined | hlast := List.mem_append.mp ht
    · exact h.allowed t hexamined d hfound
    · exact absurd (List.mem_singleton.mp hlast) hne

theorem Repaired.step {examined : List String} {state : Mapping × List String} (order : List String)
    (h : Repaired banned ids examined state) (target : String) :
    Repaired banned ids (examined ++ [target]) (repairTarget banned order state target) := by
  have hsame (hallowed : ∀ donor, state.1.donor target = some donor → (target,donor) ∉ banned) :
      Repaired banned ids (examined ++ [target]) state := by
    refine ⟨h.assigned,fun t ht => List.mem_append_left _ (h.dropped t ht),h.once,h.member,h.distinct,h.moved,fun t ht d hfound => ?_⟩
    obtain hexamined | hlast := List.mem_append.mp ht
    · exact h.allowed t hexamined d hfound
    · rw [List.mem_singleton] at hlast
      subst hlast
      exact hallowed d hfound
  rw [repairTarget]
  cases htarget : state.1.donor target with
  | none => exact hsame fun donor hfound => by rw [htarget] at hfound; cases hfound
  | some donorT =>
    dsimp only
    split
    · cases hfound : order.findSome? (offer banned state.1 target donorT) with
      | none => exact h.drop htarget
      | some found =>
        obtain ⟨other,_,hoffer⟩ := List.exists_of_findSome?_eq_some hfound
        obtain ⟨donorO,hother,rfl,hne,hself,hback,hleft,hright⟩ := offer_eq_some.mp hoffer
        exact h.swap htarget hother hne hself hback hleft hright
    · next hallowed =>
      refine hsame fun donor hfound => ?_
      rw [htarget,Option.some.injEq] at hfound
      rwa [← hfound]

theorem Repaired.run {examined : List String} {state : Mapping × List String} (order rest : List String)
    (h : Repaired banned ids examined state) :
    Repaired banned ids (examined ++ rest) (rest.foldl (repairTarget banned order) state) := by
  induction rest generalizing examined state with
  | nil => simpa using h
  | cons target rest ih =>
    have hnext := ih (h.step order target)
    rwa [List.append_assoc,List.singleton_append] at hnext

theorem unassigned_step {order : List String} {state : Mapping × List String} {target left : String}
    (h : left ∈ (repairTarget banned order state target).2) : left ∈ state.2 ∨ (left = target ∧
      ∃ donorT, state.1.donor target = some donorT ∧ ∀ other ∈ order, offer banned state.1 target donorT other = none) := by
  rw [repairTarget] at h
  cases htarget : state.1.donor target with
  | none =>
    rw [htarget] at h
    exact .inl h
  | some donorT =>
    rw [htarget] at h
    dsimp only at h
    split at h
    · cases hfound : order.findSome? (offer banned state.1 target donorT) with
      | none =>
        rw [hfound] at h
        obtain hold | hnew := List.mem_append.mp h
        · exact .inl hold
        · exact .inr ⟨List.mem_singleton.mp hnew,donorT,rfl,List.findSome?_eq_none_iff.mp hfound⟩
      | some found =>
        rw [hfound] at h
        exact .inl h
    · exact .inl h

theorem unassigned_run {order rest : List String} {state : Mapping × List String} {left : String}
    (h : left ∈ (rest.foldl (repairTarget banned order) state).2) : left ∈ state.2 ∨ left ∈ rest := by
  induction rest generalizing state with
  | nil => exact .inl h
  | cons target rest ih =>
    obtain hstep | hrest := ih h
    · obtain hold | ⟨rfl,_⟩ := unassigned_step hstep
      · exact .inl hold
      · exact .inr List.mem_cons_self
    · exact .inr (List.mem_cons_of_mem _ hrest)

def Exchange (banned : List (String × String)) (mapping : Mapping) (target other : String) : Prop :=
  ∃ donorT donorO, mapping.donor target = some donorT ∧ mapping.donor other = some donorO ∧ other ≠ target ∧ donorO ≠ target ∧
    donorT ≠ other ∧ (target,donorO) ∉ banned ∧ (other,donorT) ∉ banned

theorem Repaired.stuck {state : Mapping × List String} {order before after : List String} (h : Repaired banned ids [] state)
    (hmem : ∀ target ∈ ids, target ∈ order) (hnodup : order.Nodup) {target : String} (hsplit : order = before ++ target :: after)
    (hleft : target ∈ (order.foldl (repairTarget banned order) state).2) (other : String) :
    ¬ Exchange banned (before.foldl (repairTarget banned order) state).1 target other := by
  rintro ⟨donorT,donorO,htarget,hother,hgood⟩
  have hbefore := h.run order before
  rw [List.nil_append] at hbefore
  have hrun : order.foldl (repairTarget banned order) state =
      after.foldl (repairTarget banned order) (repairTarget banned order (before.foldl (repairTarget banned order) state) target) := by
    conv_lhs => rw [hsplit]
    rw [List.foldl_append,List.foldl_cons,← hsplit]
  rw [hrun] at hleft
  have hfresh : target ∉ before ∧ target ∉ after := by
    rw [hsplit] at hnodup
    have hmiddle := List.nodup_middle.mp hnodup
    have hnot := (List.nodup_cons.mp hmiddle).1
    rw [List.mem_append,not_or] at hnot
    exact hnot
  have hstep := (unassigned_run hleft).resolve_right hfresh.2
  obtain hold | ⟨_,_,hdonor,hnone⟩ := unassigned_step hstep
  · exact hfresh.1 (hbefore.dropped target hold)
  · rw [htarget,Option.some.injEq] at hdonor
    subst hdonor
    have hpresent := (hbefore.assigned other).mp (Option.isSome_iff_exists.mpr ⟨donorO,hother⟩)
    have hoffer := offer_eq_some.mpr ⟨donorO,hother,rfl,hgood⟩
    rw [hnone other (hmem other hpresent.1)] at hoffer
    cases hoffer

end Repairing

section Uniform
variable {σ : Type} (source : Source σ) (reprs : Reprs) (seeded : ℤ → σ)

structure Respects (excludedPairs : List (String × String)) (ids : List String) (drawn : Mapping) (assignment : DonorAssignment) :
    Prop where
  covered : ∀ target, target ∈ ids ↔ (assignment.mapping.donor target).isSome = true ∨ target ∈ assignment.unassigned
  apart : ∀ target ∈ assignment.unassigned, assignment.mapping.donor target = none
  once : assignment.unassigned.Nodup
  moved : ∀ target donor, assignment.mapping.donor target = some donor → donor ≠ target
  allowed : ∀ target donor, assignment.mapping.donor target = some donor → (target,donor) ∉ excludedPairs
  distinct : ∀ target other donor, assignment.mapping.donor target = some donor → assignment.mapping.donor other = some donor →
    target = other
  member : ∀ target donor, assignment.mapping.donor target = some donor → donor ∈ ids
  stuck : ∀ before target after, sortedTargets drawn = before ++ target :: after → target ∈ assignment.unassigned →
    ∀ other, ¬ Exchange excludedPairs
      (before.foldl (repairTarget excludedPairs.dedup (sortedTargets drawn)) (drawn,[])).1 target other

theorem mem_sortedTargets {ids : List String} {mapping : Mapping} (h : Permutes ids mapping) (target : String) :
    target ∈ sortedTargets mapping ↔ target ∈ ids := by
  rw [sortedTargets,List.mem_insertionSort,← h.assigned,Mapping.donor,Option.isSome_map,Table.find_isSome]
  simp only [List.mem_map]

theorem nodup_sortedTargets (mapping : Mapping) : (sortedTargets mapping).Nodup :=
  (List.perm_insertionSort _ _).nodup_iff.mpr mapping.distinct

theorem Permutes.repaired {ids : List String} {mapping : Mapping} (h : Permutes ids mapping) (banned : List (String × String)) :
    Repaired banned ids [] (mapping,[]) where
  assigned target := by rw [h.assigned,and_iff_left List.not_mem_nil]
  dropped _ h := absurd h List.not_mem_nil
  once := List.nodup_nil
  member := h.member
  distinct := h.distinct
  moved := h.moved
  allowed _ h := absurd h List.not_mem_nil

theorem assignDonorsUniform_respects (targets : List SelectionTarget) (seed : ℤ) (excludedPairs : List (String × String))
    (hsize : 2 ≤ targets.length) (hdistinct : (targets.map SelectionTarget.problemId).Nodup) :
    ∃ drawn assignment, buildDerangement source reprs seeded (targets.map SelectionTarget.problemId) seed = .ok drawn ∧
      assignDonorsUniform source reprs seeded targets seed excludedPairs = .ok assignment ∧
      Respects excludedPairs (targets.map SelectionTarget.problemId) drawn assignment := by
  obtain ⟨drawn,hdrawn,hpermutes⟩ := buildDerangement_ok source reprs seeded seed
    (show 2 ≤ (targets.map SelectionTarget.problemId).length by rwa [List.length_map]) hdistinct
  have hstart := hpermutes.repaired excludedPairs.dedup
  have hrepaired := hstart.run (sortedTargets drawn) (sortedTargets drawn)
  rw [List.nil_append] at hrepaired
  have hmem := mem_sortedTargets hpermutes
  have hnone : ∀ pair ∈ (repairAgainstExclusions excludedPairs.dedup drawn).1.rows, ¬ pair.1 = pair.2 := by
    rintro ⟨target,donor⟩ hpair heq
    exact hrepaired.moved target donor (donor_eq_some.mpr hpair) heq.symm
  have hoffenders : (repairAgainstExclusions excludedPairs.dedup drawn).1.rows.filter (fun pair => pair.1 = pair.2) = [] :=
    List.filter_eq_nil_iff.mpr fun pair hpair => by simpa using hnone pair hpair
  refine ⟨drawn,uniformAssignment drawn seed excludedPairs,hdrawn,?_,?_⟩
  · rw [assignDonorsUniform,hdrawn,ok_bind]
    simp only [DonorAssignment.assertNoSelfDonation,uniformAssignment,hoffenders]
    rfl
  · refine ⟨fun target => ?_,fun target hleft => ?_,hrepaired.once,hrepaired.moved,fun target donor hfound => ?_,
      hrepaired.distinct,hrepaired.member,fun before target after hsplit hleft other => ?_⟩
    · constructor
      · intro hin
        by_cases hleft : target ∈ (repairAgainstExclusions excludedPairs.dedup drawn).2
        · exact .inr hleft
        · exact .inl ((hrepaired.assigned target).mpr ⟨hin,hleft⟩)
      · rintro (hsome | hleft)
        · exact ((hrepaired.assigned target).mp hsome).1
        · exact (hmem target).mp (hrepaired.dropped target hleft)
    · by_contra hne
      exact ((hrepaired.assigned target).mp (Option.isSome_iff_ne_none.mpr hne)).2 hleft
    · have hin := ((hrepaired.assigned target).mp (Option.isSome_iff_exists.mpr ⟨donor,hfound⟩)).1
      have hallowed := hrepaired.allowed target ((hmem target).mpr hin) donor hfound
      rwa [List.mem_dedup] at hallowed
    · have hstuck := hstart.stuck (fun t ht => (hmem t).mpr ht) (nodup_sortedTargets drawn) hsplit hleft other
      simp only [Exchange,List.mem_dedup] at hstuck ⊢
      exact hstuck

def lastSource : Source Unit where
  upTo most _ := (Fin.last most,())

def fourTargets : List SelectionTarget :=
  [⟨"HumanEval/0","first",by decide⟩,⟨"HumanEval/1","second",by decide⟩,⟨"HumanEval/2","third",by decide⟩,
    ⟨"HumanEval/3","fourth",by decide⟩]

def quotedReprs : Reprs := ⟨fun text => "'" ++ text ++ "'",fun texts => "[" ++ ", ".intercalate (texts.map fun text => "'" ++ text ++ "'") ++ "]"⟩

-- The draw gives the first target the last donor, which is excluded.
theorem four_targets_respected : ∃ drawn assignment,
    buildDerangement lastSource quotedReprs (fun _ => ()) (fourTargets.map SelectionTarget.problemId) 7 = .ok drawn ∧
      assignDonorsUniform lastSource quotedReprs (fun _ => ()) fourTargets 7 [("HumanEval/0","HumanEval/3")] = .ok assignment ∧
      Respects [("HumanEval/0","HumanEval/3")] (fourTargets.map SelectionTarget.problemId) drawn assignment :=
  assignDonorsUniform_respects lastSource quotedReprs (fun _ => ()) fourTargets 7 _ (by decide) (by decide)

end Uniform

end PneumaLab.Placebo
