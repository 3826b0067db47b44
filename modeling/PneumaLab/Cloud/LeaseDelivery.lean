import Mathlib.Data.Finset.Insert
import Mathlib.Logic.Function.Basic
import PneumaLab.Exceptions
import PneumaLab.Library.Transcript

namespace PneumaLab.Cloud

structure Lease where
  assignmentId : String
  owner : String
  expiresAt : ℤ
  state : String
  deriving DecidableEq, Repr

structure LocalLeaseStore where
  leases : String → Option Lease
  terminalIds : Finset String

namespace LocalLeaseStore

def empty : LocalLeaseStore := ⟨fun _ => none,∅⟩

def acquire (store : LocalLeaseStore) (assignmentId owner : String) (now ttl : ℤ) : Py Lease × LocalLeaseStore :=
  if assignmentId = "" ∨ owner = "" ∨ ttl ≤ 0 then
    (.error (.cloudManifestError "lease inputs must be nonempty with positive ttl"),store)
  else if assignmentId ∈ store.terminalIds then
    (.error (.cloudManifestError "terminal assignment cannot be delivered again"),store)
  else if (store.leases assignmentId).any (fun current => decide (now < current.expiresAt)) then
    (.error (.cloudManifestError "conditional lease contention"),store)
  else
    let lease : Lease := ⟨assignmentId,owner,now + ttl,"active"⟩
    (.ok lease,{store with leases := Function.update store.leases assignmentId (some lease)})

def settle (store : LocalLeaseStore) (result : Lease) : LocalLeaseStore :=
  ⟨Function.update store.leases result.assignmentId (some result),insert result.assignmentId store.terminalIds⟩

def terminal (store : LocalLeaseStore) (lease : Lease) (now : ℤ) (restoreMatches : Bool) : Py Lease × LocalLeaseStore :=
  if store.leases lease.assignmentId ≠ some lease ∨ lease.expiresAt ≤ now then
    (.error (.cloudManifestError "stale or expired lease"),store)
  else if !restoreMatches then
    let invalid := {lease with state := "invalid"}
    (.ok invalid,store.settle invalid)
  else
    let terminal := {lease with state := "terminal"}
    (.ok terminal,store.settle terminal)

end LocalLeaseStore

inductive LeaseCall where
  | acquire (assignmentId owner : String) (now ttl : ℤ)
  | terminal (lease : Lease) (now : ℤ) (restoreMatches : Bool)
  deriving DecidableEq, Repr

namespace LeaseCall

def assignmentId : LeaseCall → String
  | .acquire assignmentId _ _ _ => assignmentId
  | .terminal lease _ _ => lease.assignmentId

def now : LeaseCall → ℤ
  | .acquire _ _ now _ => now
  | .terminal _ now _ => now

def perform (store : LocalLeaseStore) : LeaseCall → Py Lease × LocalLeaseStore
  | .acquire assignmentId owner now ttl => store.acquire assignmentId owner now ttl
  | .terminal lease now restoreMatches => store.terminal lease now restoreMatches

end LeaseCall

abbrev storeAfter (calls : List LeaseCall) : LocalLeaseStore := Transcript.final LeaseCall.perform .empty calls

abbrev answers (calls : List LeaseCall) : List (LeaseCall × Py Lease) := Transcript.exchanges LeaseCall.perform .empty calls

def grantOf (assignmentId : String) : LeaseCall × Py Lease → Option Lease
  | (.acquire asked _ _ _,.ok lease) => if asked = assignmentId then some lease else none
  | _ => none

def resultOf (assignmentId : String) : LeaseCall × Py Lease → Option Lease
  | (.terminal passed _ _,.ok lease) => if passed.assignmentId = assignmentId then some lease else none
  | _ => none

def grants (calls : List LeaseCall) (assignmentId : String) : List Lease := (answers calls).filterMap (grantOf assignmentId)

def results (calls : List LeaseCall) (assignmentId : String) : List Lease := (answers calls).filterMap (resultOf assignmentId)

def Accepts (store : LocalLeaseStore) (lease : Lease) (now : ℤ) : Prop :=
  ∃ restoreMatches result, (store.terminal lease now restoreMatches).1 = .ok result

def Raises (store : LocalLeaseStore) (call : LeaseCall) : Prop := ∃ error, (call.perform store).1 = .error error

structure DeliversOnce (calls : List LeaseCall) : Prop where
  once : ∀ assignmentId, (results calls assignmentId).length ≤ 1
  holder : ∀ before lease now restoreMatches after, calls = before ++ .terminal lease now restoreMatches :: after →
    ∀ result, ((storeAfter before).terminal lease now restoreMatches).1 = .ok result →
      (result.state = "terminal" ∨ result.state = "invalid") ∧
        (grants before lease.assignmentId).getLast? = some lease ∧ now < lease.expiresAt
  closed : ∀ before lease now restoreMatches middle call after,
    calls = before ++ .terminal lease now restoreMatches :: middle ++ call :: after →
    ∀ result, ((storeAfter before).terminal lease now restoreMatches).1 = .ok result →
      call.assignmentId = lease.assignmentId →
        Raises (storeAfter (before ++ .terminal lease now restoreMatches :: middle)) call
  others : ∀ before call after, calls = before ++ call :: after → ∀ assignmentId, assignmentId ≠ call.assignmentId →
    (storeAfter (before ++ [call])).leases assignmentId = (storeAfter before).leases assignmentId ∧
      (assignmentId ∈ (storeAfter (before ++ [call])).terminalIds ↔ assignmentId ∈ (storeAfter before).terminalIds)
  unchanged : ∀ before call after, calls = before ++ call :: after → Raises (storeAfter before) call →
    storeAfter (before ++ [call]) = storeAfter before
  exclusive : calls.Pairwise (fun earlier later => earlier.now ≤ later.now) →
    ∀ before after, calls = before ++ after → ∀ now, (∀ call ∈ before, call.now ≤ now) → ∀ assignmentId,
      (grants before assignmentId).Pairwise (fun earlier later => ¬ (now < earlier.expiresAt ∧ now < later.expiresAt)) ∧
        ∀ lease other, lease.assignmentId = assignmentId → other.assignmentId = assignmentId →
          Accepts (storeAfter before) lease now → Accepts (storeAfter before) other now → lease = other

def Resubmits (store : LocalLeaseStore) : LeaseCall → Prop
  | .acquire _ _ _ _ => False
  | .terminal lease now _ => store.leases lease.assignmentId = some lease ∧ lease.state ≠ "active" ∧ now < lease.expiresAt

def NeverResubmits (calls : List LeaseCall) : Prop :=
  ∀ before call after, calls = before ++ call :: after → ¬ Resubmits (storeAfter before) call

section Steps
variable {store after : LocalLeaseStore} {lease : Lease} {now : ℤ}

theorem acquire_cases (store : LocalLeaseStore) (assignmentId owner : String) (now ttl : ℤ) :
    (∃ error, store.acquire assignmentId owner now ttl = (.error error,store)) ∨
      assignmentId ∉ store.terminalIds ∧ (∀ current, store.leases assignmentId = some current → current.expiresAt ≤ now) ∧
        store.acquire assignmentId owner now ttl = (.ok ⟨assignmentId,owner,now + ttl,"active"⟩,
          {store with leases := Function.update store.leases assignmentId (some ⟨assignmentId,owner,now + ttl,"active"⟩)}) := by
  rw [LocalLeaseStore.acquire]
  split_ifs with hinputs hterminal hheld
  · exact .inl ⟨_,rfl⟩
  · exact .inl ⟨_,rfl⟩
  · exact .inl ⟨_,rfl⟩
  · refine .inr ⟨hterminal,fun current hcurrent => ?_,rfl⟩
    simpa [hcurrent] using hheld

theorem terminal_cases (store : LocalLeaseStore) (lease : Lease) (now : ℤ) (restoreMatches : Bool) :
    (¬ (store.leases lease.assignmentId = some lease ∧ now < lease.expiresAt) ∧
        ∃ error, store.terminal lease now restoreMatches = (.error error,store)) ∨
      (store.leases lease.assignmentId = some lease ∧ now < lease.expiresAt) ∧
        ∃ state, (state = "terminal" ∨ state = "invalid") ∧
          store.terminal lease now restoreMatches = (.ok {lease with state := state},store.settle {lease with state := state}) := by
  rw [LocalLeaseStore.terminal]
  split_ifs with hstale hrestore
  · refine .inl ⟨fun ⟨hcurrent,hlive⟩ => ?_,_,rfl⟩
    rcases hstale with hother | hexpired
    · exact hother hcurrent
    · exact absurd hlive (not_lt.mpr hexpired)
  · obtain ⟨hcurrent,hlive⟩ := not_or.mp hstale
    exact .inr ⟨⟨not_not.mp hcurrent,not_le.mp hlive⟩,_,.inr rfl,rfl⟩
  · obtain ⟨hcurrent,hlive⟩ := not_or.mp hstale
    exact .inr ⟨⟨not_not.mp hcurrent,not_le.mp hlive⟩,_,.inl rfl,rfl⟩

theorem accepts_iff : Accepts store lease now ↔ store.leases lease.assignmentId = some lease ∧ now < lease.expiresAt := by
  constructor
  · rintro ⟨restoreMatches,result,hresult⟩
    obtain ⟨_,error,hraise⟩ | ⟨hlive,_⟩ := terminal_cases store lease now restoreMatches
    · rw [hraise] at hresult
      cases hresult
    · exact hlive
  · intro hlive
    obtain ⟨hstale,_⟩ | ⟨_,state,_,hreturn⟩ := terminal_cases store lease now true
    · exact absurd hlive hstale
    · exact ⟨true,_,congrArg Prod.fst hreturn⟩

theorem raises_unchanged {call : LeaseCall} (h : Raises store call) : (call.perform store).2 = store := by
  obtain ⟨error,herror⟩ := h
  cases call with
  | acquire assignmentId owner now ttl =>
    obtain ⟨_,hraise⟩ | ⟨_,_,hgrant⟩ := acquire_cases store assignmentId owner now ttl
    · exact congrArg Prod.snd hraise
    · rw [LeaseCall.perform,hgrant] at herror
      cases herror
  | terminal lease now restoreMatches =>
    obtain ⟨_,_,hraise⟩ | ⟨_,_,_,hreturn⟩ := terminal_cases store lease now restoreMatches
    · exact congrArg Prod.snd hraise
    · rw [LeaseCall.perform,hreturn] at herror
      cases herror

theorem others_unchanged (store : LocalLeaseStore) (call : LeaseCall) {assignmentId : String}
    (hother : assignmentId ≠ call.assignmentId) : (call.perform store).2.leases assignmentId = store.leases assignmentId ∧
      (assignmentId ∈ (call.perform store).2.terminalIds ↔ assignmentId ∈ store.terminalIds) := by
  cases call with
  | acquire asked owner now ttl =>
    obtain ⟨_,hraise⟩ | ⟨_,_,hgrant⟩ := acquire_cases store asked owner now ttl
    · rw [LeaseCall.perform,hraise]
      exact ⟨rfl,.rfl⟩
    · rw [LeaseCall.perform,hgrant]
      exact ⟨Function.update_of_ne hother _ _,.rfl⟩
  | terminal lease now restoreMatches =>
    obtain ⟨_,_,hraise⟩ | ⟨_,_,_,hreturn⟩ := terminal_cases store lease now restoreMatches
    · rw [LeaseCall.perform,hraise]
      exact ⟨rfl,.rfl⟩
    · rw [LeaseCall.perform,hreturn]
      exact ⟨Function.update_of_ne hother _ _,Finset.mem_insert.trans (or_iff_right hother)⟩

end Steps

inductive Standing (store : LocalLeaseStore) (assignmentId : String) (granted returned : List Lease) : Prop
  | vacant : store.leases assignmentId = none → assignmentId ∉ store.terminalIds → granted = [] → returned = [] →
      Standing store assignmentId granted returned
  | held (lease : Lease) : store.leases assignmentId = some lease → lease.state = "active" →
      assignmentId ∉ store.terminalIds → granted.getLast? = some lease → returned = [] →
      Standing store assignmentId granted returned
  | settled (result : Lease) : store.leases assignmentId = some result → result.state ≠ "active" →
      assignmentId ∈ store.terminalIds → returned ≠ [] → Standing store assignmentId granted returned

section Histories
variable {calls : List LeaseCall} {assignmentId : String}

theorem grants_snoc (calls : List LeaseCall) (call : LeaseCall) (assignmentId : String) :
    grants (calls ++ [call]) assignmentId =
      grants calls assignmentId ++ (grantOf assignmentId (call,(call.perform (storeAfter calls)).1)).toList := by
  rw [grants,answers,Transcript.exchanges_snoc,List.filterMap_append]
  cases h : grantOf assignmentId (call,(call.perform (storeAfter calls)).1) <;> simp [grants,h]

theorem results_snoc (calls : List LeaseCall) (call : LeaseCall) (assignmentId : String) :
    results (calls ++ [call]) assignmentId =
      results calls assignmentId ++ (resultOf assignmentId (call,(call.perform (storeAfter calls)).1)).toList := by
  rw [results,answers,Transcript.exchanges_snoc,List.filterMap_append]
  cases h : resultOf assignmentId (call,(call.perform (storeAfter calls)).1) <;> simp [results,h]

theorem storeAfter_snoc (calls : List LeaseCall) (call : LeaseCall) :
    storeAfter (calls ++ [call]) = (call.perform (storeAfter calls)).2 := Transcript.final_snoc _ _ _ _

theorem grantOf_other {call : LeaseCall} {answer : Py Lease} (hother : assignmentId ≠ call.assignmentId) :
    grantOf assignmentId (call,answer) = none := by
  cases call with
  | acquire asked owner now ttl =>
    cases answer with
    | ok lease => exact if_neg hother.symm
    | error error => rfl
  | terminal lease now restoreMatches => rfl

theorem resultOf_other {call : LeaseCall} {answer : Py Lease} (hother : assignmentId ≠ call.assignmentId) :
    resultOf assignmentId (call,answer) = none := by
  cases call with
  | acquire asked owner now ttl => rfl
  | terminal lease now restoreMatches =>
    cases answer with
    | ok lease => exact if_neg hother.symm
    | error error => rfl

theorem grantOf_error (call : LeaseCall) (error : Raised) : grantOf assignmentId (call,.error error) = none := by
  cases call <;> rfl

theorem resultOf_error (call : LeaseCall) (error : Raised) : resultOf assignmentId (call,.error error) = none := by
  cases call <;> rfl

theorem Standing.congr {store after : LocalLeaseStore} {granted returned : List Lease}
    (h : Standing store assignmentId granted returned) (hleases : after.leases assignmentId = store.leases assignmentId)
    (hterminal : assignmentId ∈ after.terminalIds ↔ assignmentId ∈ store.terminalIds) :
    Standing after assignmentId granted returned := by
  cases h with
  | vacant hnone hopen hgranted hreturned => exact .vacant (hleases.trans hnone) (hterminal.not.mpr hopen) hgranted hreturned
  | held lease hlease hactive hopen hlast hreturned =>
    exact .held lease (hleases.trans hlease) hactive (hterminal.not.mpr hopen) hlast hreturned
  | settled result hlease hstate hclosed hreturned =>
    exact .settled result (hleases.trans hlease) hstate (hterminal.mpr hclosed) hreturned

theorem Standing.returned_of_open {store : LocalLeaseStore} {granted returned : List Lease}
    (h : Standing store assignmentId granted returned) (hopen : assignmentId ∉ store.terminalIds) : returned = [] := by
  cases h with
  | vacant _ _ _ hreturned => exact hreturned
  | held _ _ _ _ _ hreturned => exact hreturned
  | settled _ _ _ hclosed _ => exact absurd hclosed hopen

theorem standing (calls : List LeaseCall) (assignmentId : String) :
    Standing (storeAfter calls) assignmentId (grants calls assignmentId) (results calls assignmentId) := by
  induction calls using List.reverseRecOn with
  | nil => exact .vacant rfl (Finset.notMem_empty _) rfl rfl
  | append_singleton calls call ih =>
    rw [grants_snoc,results_snoc,storeAfter_snoc]
    by_cases hid : assignmentId = call.assignmentId
    · cases call with
      | acquire asked owner now ttl =>
        obtain rfl : assignmentId = asked := hid
        obtain ⟨error,hraise⟩ | ⟨hopen,_,hgrant⟩ := acquire_cases (storeAfter calls) assignmentId owner now ttl
        · rw [LeaseCall.perform,hraise,grantOf_error,resultOf_error,Option.toList_none,List.append_nil,List.append_nil]
          exact ih
        · rw [LeaseCall.perform,hgrant]
          refine .held ⟨assignmentId,owner,now + ttl,"active"⟩ (Function.update_self _ _ _) rfl hopen ?_ ?_
          · simp [grantOf]
          · simpa [resultOf] using ih.returned_of_open hopen
      | terminal lease now restoreMatches =>
        obtain rfl : assignmentId = lease.assignmentId := hid
        obtain ⟨_,error,hraise⟩ | ⟨_,state,hstate,hreturn⟩ := terminal_cases (storeAfter calls) lease now restoreMatches
        · rw [LeaseCall.perform,hraise,grantOf_error,resultOf_error,Option.toList_none,List.append_nil,List.append_nil]
          exact ih
        · rw [LeaseCall.perform,hreturn]
          apply Standing.settled _ (Function.update_self _ _ _)
          · rcases hstate with rfl | rfl <;> simp
          · exact Finset.mem_insert_self _ _
          · simp [resultOf]
    · rw [grantOf_other hid,resultOf_other hid,Option.toList_none,List.append_nil,List.append_nil]
      obtain ⟨hleases,hterminal⟩ := others_unchanged (storeAfter calls) call hid
      exact ih.congr hleases hterminal

theorem Standing.held_of_active {store : LocalLeaseStore} {granted returned : List Lease} {lease : Lease}
    (h : Standing store assignmentId granted returned) (hlease : store.leases assignmentId = some lease)
    (hactive : lease.state = "active") : granted.getLast? = some lease ∧ returned = [] := by
  cases h with
  | vacant hnone _ _ _ => simp [hlease] at hnone
  | held current hcurrent _ _ hlast hreturned =>
    obtain rfl : lease = current := Option.some.inj (hlease.symm.trans hcurrent)
    exact ⟨hlast,hreturned⟩
  | settled result hresult hstate _ _ =>
    obtain rfl : lease = result := Option.some.inj (hlease.symm.trans hresult)
    exact absurd hactive hstate

theorem Standing.returned_of_settled {store : LocalLeaseStore} {granted returned : List Lease} {lease : Lease}
    (h : Standing store assignmentId granted returned) (hlease : store.leases assignmentId = some lease)
    (hstate : lease.state ≠ "active") : returned ≠ [] := by
  cases h with
  | vacant hnone _ _ _ => simp [hlease] at hnone
  | held current hcurrent hactive _ _ _ =>
    obtain rfl : lease = current := Option.some.inj (hlease.symm.trans hcurrent)
    exact absurd hactive hstate
  | settled _ _ _ _ hreturned => exact hreturned

theorem active_of_accepted {before after : List LeaseCall} {lease : Lease} {now : ℤ} {restoreMatches : Bool}
    (hnever : NeverResubmits (before ++ .terminal lease now restoreMatches :: after))
    (hcurrent : (storeAfter before).leases lease.assignmentId = some lease) (hlive : now < lease.expiresAt) :
    lease.state = "active" := by
  by_contra hstate
  exact hnever before _ after rfl ⟨hcurrent,hstate,hlive⟩

theorem NeverResubmits.of_append {before after : List LeaseCall} (h : NeverResubmits (before ++ after)) :
    NeverResubmits before := by
  intro earlier call later hsplit
  exact h earlier call (later ++ after) (by rw [hsplit,List.append_assoc,List.cons_append])

theorem results_length_le (hnever : NeverResubmits calls) (assignmentId : String) :
    (results calls assignmentId).length ≤ 1 := by
  induction calls using List.reverseRecOn with
  | nil => exact Nat.zero_le 1
  | append_singleton calls call ih =>
    have hbefore := ih hnever.of_append
    rw [results_snoc]
    cases call with
    | acquire asked owner now ttl => simpa [resultOf] using hbefore
    | terminal lease now restoreMatches =>
      by_cases hid : assignmentId = lease.assignmentId
      · subst hid
        obtain ⟨_,error,hraise⟩ | ⟨⟨hcurrent,hlive⟩,state,_,hreturn⟩ :=
          terminal_cases (storeAfter calls) lease now restoreMatches
        · rw [LeaseCall.perform,hraise,resultOf_error]
          simpa using hbefore
        · have hactive := active_of_accepted hnever hcurrent hlive
          obtain ⟨-,hnone⟩ := (standing calls lease.assignmentId).held_of_active hcurrent hactive
          rw [hnone,LeaseCall.perform,hreturn]
          simp [resultOf]
      · rw [resultOf_other hid]
        simpa using hbefore

theorem grants_expired (calls : List LeaseCall) (assignmentId : String) {now : ℤ} (hnow : ∀ call ∈ calls, call.now ≤ now) :
    ∀ lease ∈ (grants calls assignmentId).dropLast, lease.expiresAt ≤ now := by
  induction calls using List.reverseRecOn with
  | nil => exact fun lease hlease => absurd hlease List.not_mem_nil
  | append_singleton calls call ih =>
    have hbefore := ih fun call hcall => hnow call (List.mem_append_left _ hcall)
    rw [grants_snoc]
    cases call with
    | acquire asked owner reading ttl =>
      by_cases hid : assignmentId = asked
      · subst hid
        obtain ⟨error,hraise⟩ | ⟨hopen,hexpired,hgrant⟩ := acquire_cases (storeAfter calls) assignmentId owner reading ttl
        · rw [LeaseCall.perform,hraise,grantOf_error]
          simpa using hbefore
        · have hreading : reading ≤ now := hnow _ (List.mem_append_right _ (List.mem_singleton_self _))
          rw [LeaseCall.perform,hgrant]
          simp only [grantOf,if_true,Option.toList_some,List.dropLast_concat]
          intro lease hlease
          cases standing calls assignmentId with
          | vacant _ _ hgranted _ => simp [hgranted] at hlease
          | held current hcurrent _ _ hlast _ =>
            rw [← List.dropLast_append_getLast? current hlast,List.mem_append,List.mem_singleton] at hlease
            rcases hlease with hearlier | rfl
            · exact hbefore lease hearlier
            · exact (hexpired lease hcurrent).trans hreading
          | settled _ _ _ hclosed _ => exact absurd hclosed hopen
      · rw [grantOf_other hid]
        simpa using hbefore
    | terminal lease reading restoreMatches => simpa [grantOf] using hbefore

theorem pairwise_of_dropLast {α : Type} {P : α → Prop} {xs : List α} (h : ∀ x ∈ xs.dropLast, P x) :
    xs.Pairwise fun x _ => P x := by
  induction xs with
  | nil => exact .nil
  | cons x rest ih =>
    cases rest with
    | nil => exact List.pairwise_singleton _ _
    | cons y rest =>
      rw [List.dropLast_cons_cons,List.forall_mem_cons] at h
      exact .cons (fun _ _ => h.1) (ih h.2)

theorem terminalIds_grow (before after : List LeaseCall) (h : assignmentId ∈ (storeAfter before).terminalIds) :
    assignmentId ∈ (storeAfter (before ++ after)).terminalIds := by
  induction after using List.reverseRecOn with
  | nil => rwa [List.append_nil]
  | append_singleton after call ih =>
    rw [← List.append_assoc,storeAfter_snoc]
    cases call with
    | acquire asked owner now ttl =>
      obtain ⟨_,hraise⟩ | ⟨_,_,hgrant⟩ := acquire_cases (storeAfter (before ++ after)) asked owner now ttl
      · rw [LeaseCall.perform,hraise]
        exact ih
      · rw [LeaseCall.perform,hgrant]
        exact ih
    | terminal lease now restoreMatches =>
      obtain ⟨_,_,hraise⟩ | ⟨_,_,_,hreturn⟩ := terminal_cases (storeAfter (before ++ after)) lease now restoreMatches
      · rw [LeaseCall.perform,hraise]
        exact ih
      · rw [LeaseCall.perform,hreturn]
        exact Finset.mem_insert_of_mem ih

theorem closed_of_answered {before : List LeaseCall} {lease result : Lease} {now : ℤ} {restoreMatches : Bool}
    (h : ((storeAfter before).terminal lease now restoreMatches).1 = .ok result) :
    lease.assignmentId ∈ (storeAfter (before ++ [.terminal lease now restoreMatches])).terminalIds := by
  rw [storeAfter_snoc,LeaseCall.perform]
  obtain ⟨_,error,hraise⟩ | ⟨_,state,_,hreturn⟩ := terminal_cases (storeAfter before) lease now restoreMatches
  · rw [hraise] at h
    cases h
  · rw [hreturn]
    exact Finset.mem_insert_self _ _

theorem raises_of_closed {before after : List LeaseCall} {call : LeaseCall}
    (hnever : NeverResubmits (before ++ call :: after)) (h : call.assignmentId ∈ (storeAfter before).terminalIds) :
    Raises (storeAfter before) call := by
  cases call with
  | acquire asked owner now ttl =>
    obtain ⟨error,hraise⟩ | ⟨hopen,_,_⟩ := acquire_cases (storeAfter before) asked owner now ttl
    · exact ⟨error,congrArg Prod.fst hraise⟩
    · exact absurd h hopen
  | terminal lease now restoreMatches =>
    obtain ⟨_,error,hraise⟩ | ⟨⟨hcurrent,hlive⟩,_⟩ := terminal_cases (storeAfter before) lease now restoreMatches
    · exact ⟨error,congrArg Prod.fst hraise⟩
    · have hactive := active_of_accepted hnever hcurrent hlive
      cases standing before lease.assignmentId with
      | vacant hnone _ _ _ => simp [hcurrent] at hnone
      | held _ _ _ hopen _ _ => exact absurd h hopen
      | settled result hresult hstate _ _ =>
        obtain rfl : lease = result := Option.some.inj (hcurrent.symm.trans hresult)
        exact absurd hactive hstate

theorem deliversOnce_of_never (hnever : NeverResubmits calls) : DeliversOnce calls where
  once := results_length_le hnever
  holder := by
    rintro before lease now restoreMatches after rfl result hresult
    obtain ⟨_,error,hraise⟩ | ⟨⟨hcurrent,hlive⟩,state,hstate,hreturn⟩ :=
      terminal_cases (storeAfter before) lease now restoreMatches
    · rw [hraise] at hresult
      cases hresult
    · have hactive := active_of_accepted hnever hcurrent hlive
      obtain ⟨hlast,-⟩ := (standing before lease.assignmentId).held_of_active hcurrent hactive
      rw [hreturn] at hresult
      obtain rfl := Except.ok.inj hresult
      exact ⟨hstate,hlast,hlive⟩
  closed := by
    rintro before lease now restoreMatches middle call after rfl result hresult hid
    have hclosed := terminalIds_grow _ middle (closed_of_answered hresult)
    rw [List.append_assoc,List.singleton_append,← hid] at hclosed
    exact raises_of_closed (by simpa using hnever) hclosed
  others := by
    rintro before call after - assignmentId hother
    rw [storeAfter_snoc]
    exact others_unchanged _ call hother
  unchanged := by
    rintro before call after - hraises
    rw [storeAfter_snoc]
    exact raises_unchanged hraises
  exclusive := by
    rintro - before after - now hnow assignmentId
    have hexpired := pairwise_of_dropLast (grants_expired before assignmentId hnow)
    refine ⟨hexpired.imp fun hle hboth => absurd hboth.1 (not_lt.mpr hle),?_⟩
    intro lease other hlease hother haccepts hothers
    obtain ⟨hcurrent,-⟩ := accepts_iff.mp haccepts
    obtain ⟨hcurrent',-⟩ := accepts_iff.mp hothers
    rw [hlease] at hcurrent
    rw [hother,hcurrent] at hcurrent'
    exact Option.some.inj hcurrent'

theorem results_length_mono (before after : List LeaseCall) (assignmentId : String) :
    (results before assignmentId).length ≤ (results (before ++ after) assignmentId).length := by
  rw [results,results,answers,answers,Transcript.exchanges_append,List.filterMap_append,List.length_append]
  exact Nat.le_add_right _ _

theorem second_result {before after : List LeaseCall} {call : LeaseCall} (h : Resubmits (storeAfter before) call) :
    2 ≤ (results (before ++ call :: after) call.assignmentId).length := by
  cases call with
  | acquire asked owner now ttl => exact h.elim
  | terminal lease now restoreMatches =>
    obtain ⟨hcurrent,hstate,hlive⟩ := h
    have hfirst := (standing before lease.assignmentId).returned_of_settled hcurrent hstate
    have hlength := List.length_pos_iff.mpr hfirst
    obtain ⟨hstale,_⟩ | ⟨_,state,_,hreturn⟩ := terminal_cases (storeAfter before) lease now restoreMatches
    · exact absurd ⟨hcurrent,hlive⟩ hstale
    · have hmono := results_length_mono (before ++ [.terminal lease now restoreMatches]) after lease.assignmentId
      rw [results_snoc,LeaseCall.perform,hreturn] at hmono
      simp only [resultOf,if_true,Option.toList_some,List.length_append,List.length_singleton,List.append_assoc,
        List.singleton_append] at hmono
      exact le_trans (by omega) hmono

end Histories

theorem deliversOnce_iff (calls : List LeaseCall) : DeliversOnce calls ↔ NeverResubmits calls := by
  refine ⟨fun h before call after hsplit hresubmits => ?_,deliversOnce_of_never⟩
  have htwo : 2 ≤ (results (before ++ call :: after) call.assignmentId).length := second_result hresubmits
  rw [← hsplit] at htwo
  exact absurd (h.once call.assignmentId) (by omega)

def answeredTwice : List LeaseCall :=
  [.acquire "a" "one" 0 10,.terminal ⟨"a","one",10,"active"⟩ 1 true,.terminal ⟨"a","one",10,"terminal"⟩ 2 false]

theorem terminal_delivered_twice : ¬ DeliversOnce answeredTwice := by
  intro h
  exact absurd (h.once "a") (by decide)

end PneumaLab.Cloud
