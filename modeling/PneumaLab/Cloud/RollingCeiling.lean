import PneumaLab.Cloud.UnattendedPolicy
import PneumaLab.Library.SlidingWindow
import Mathlib.Algebra.Order.Monoid.WithTop

namespace PneumaLab.Cloud

structure Call where
  request : Mapping
  now : ℤ

section Run
variable (runtime : Runtime) (policy : UnattendedPolicy)

def admitCall (receipts : List AdmissionReceipt) (call : Call) : List AdmissionReceipt :=
  match admitUnattendedJob runtime policy call.request (receipts.map AdmissionReceipt.toMapping) call.now with
  | .ok receipt => receipts ++ [receipt]
  | .error _ => receipts

def admissions (calls : List Call) : List AdmissionReceipt := calls.foldl (admitCall runtime policy) []

def amountOf : PyFloat → WithTop ℚ
  | .finite value _ => value
  | _ => ⊤

def recorded (receipt : AdmissionReceipt) : Option (ℤ × WithTop ℚ) :=
  (parseTimestamp runtime (.str receipt.recordedAt) "recorded_at").toOption.map (·,amountOf receipt.reservedUsd)

def reservedWithin (receipts : List AdmissionReceipt) (instant : ℤ) : WithTop ℚ :=
  SlidingWindow.total policy.window (receipts.filterMap (recorded runtime)) instant

def jobCost (call : Call) : Py PyFloat := do
  let job ← requireJob runtime policy call.request call.now
  let _ ← astimezoneUtc (job.instant - policy.window)
  let reserved ← job.projected.toFloat
  let _ ← runtime.requestSha256 call.request
  return reserved

end Run

-- datetime.fromisoformat inverts isoformat, also after "+00:00" was written as "Z" and back.
def Runtime.Reads (runtime : Runtime) (instant : ℤ) : Prop :=
  runtime.fromisoformat (replaceText (recordedText runtime instant) "Z" "+00:00") = some (some instant)

section Facts
variable {runtime : Runtime} {policy : UnattendedPolicy}

theorem astimezoneUtc_eq_ok {instant result : ℤ} :
    astimezoneUtc instant = .ok result ↔ (0 ≤ instant ∧ instant ≤ lastInstant) ∧ result = instant := by
  rw [astimezoneUtc]
  split_ifs with h <;> simp [h,eq_comm]

theorem parse_recorded {instant : ℤ} (hreads : runtime.Reads instant)
    (hrange : 0 ≤ instant ∧ instant ≤ lastInstant) (field : String) :
    parseTimestamp runtime (.str (recordedText runtime instant)) field = .ok instant := by
  simp only [parseTimestamp,bind_eq_ok,required_eq_ok]
  exact ⟨_,rfl,_,hreads,_,rfl,astimezoneUtc_eq_ok.mpr ⟨hrange,rfl⟩⟩

structure Validated (policy : UnattendedPolicy) : Prop where
  days : policy.rollingWindowDays = 30
  small : policy.perJobCeilingUsd ≤ 5
  positive : 0 < policy.rollingCeilingUsd
  ceilings : policy.perJobCeilingUsd ≤ policy.rollingCeilingUsd

theorem Validated.window {policy : UnattendedPolicy} (h : Validated policy) : 0 ≤ policy.window := by
  rw [UnattendedPolicy.window,h.days]
  decide

theorem validate_eq_ok {checked : UnattendedPolicy} (h : validateUnattendedPolicy runtime policy = .ok checked) :
    Validated policy ∧ checked = policy := by
  simp only [validateUnattendedPolicy,bind_eq_ok,demand_eq_ok,decide_eq_true_eq] at h
  obtain ⟨_,_,_,hconforms,_,_,_,_,_,_,_,hceilings,_,_,hreturn⟩ := h
  simp only [UnattendedPolicy.conforms,Bool.and_eq_true,decide_eq_true_eq] at hconforms
  exact ⟨⟨by tauto,by tauto,by tauto,hceilings⟩,(Except.ok.inj hreturn).symm⟩

def Reservable (policy : UnattendedPolicy) (cost : PyFloat) : Prop :=
  cost = .nan ∨ ∃ value h, cost = .finite value h ∧ 0 < value ∧ value ≤ policy.perJobCeilingUsd

theorem Reservable.nonneg {cost : PyFloat} (h : Reservable policy cost) : 0 ≤ amountOf cost := by
  obtain rfl | ⟨value,hdouble,rfl,hpos,_⟩ := h
  · exact le_top
  · exact WithTop.coe_le_coe.mpr hpos.le

theorem Reservable.fits {cost : PyFloat} (h : Reservable policy cost)
    (hceilings : policy.perJobCeilingUsd ≤ policy.rollingCeilingUsd) : cost.gt policy.rollingCeilingUsd = false := by
  obtain rfl | ⟨value,hdouble,rfl,_,hle⟩ := h
  · rfl
  · exact decide_eq_false (not_lt.mpr (hle.trans hceilings))

theorem isDouble_small {value : ℤ} (hpos : 0 ≤ value) (hle : (value : ℚ) ≤ 5) : Rounding.IsDouble value := by
  have hsmall : value ≤ 5 := by exact_mod_cast hle
  have hnonneg : (0 : ℚ) ≤ value := by exact_mod_cast hpos
  have hscaled := Rounding.double_scaled (e := 0) hpos (by omega) (by decide)
  rw [zpow_zero,mul_one] at hscaled
  refine ⟨(Rounding.nearest_of_nonneg hnonneg).trans hscaled,?_⟩
  rw [abs_of_nonneg hnonneg]
  rcases hpos.eq_or_lt with rfl | hlt
  · rw [Int.cast_zero,Int.log_zero_right]
    decide
  · have hlog : Int.log 2 (value : ℚ) < 3 :=
      (Int.lt_zpow_iff_log_lt (by decide) (by exact_mod_cast hlt)).mp (hle.trans_lt (by norm_num))
    omega

theorem reservable_of_projected (hvalid : Validated policy) {projected : Number} {cost : PyFloat}
    (hpositive : projected.le 0 = false) (hceiling : projected.gt policy.perJobCeilingUsd = false)
    (h : projected.toFloat = .ok cost) : Reservable policy cost := by
  cases projected with
  | int value =>
    have hpos : (0 : ℚ) < value := not_le.mp (of_decide_eq_false hpositive)
    have hle : (value : ℚ) ≤ policy.perJobCeilingUsd := not_lt.mp (of_decide_eq_false hceiling)
    have hdouble := isDouble_small (by exact_mod_cast hpos.le) (hle.trans hvalid.small)
    rw [Number.toFloat_int hdouble] at h
    exact .inr ⟨value,hdouble,(Except.ok.inj h).symm,hpos,hle⟩
  | float value =>
    obtain rfl : value = cost := Except.ok.inj h
    cases value with
    | nan => exact .inl rfl
    | infinite negative =>
      cases negative with
      | false => cases hceiling
      | true => cases hpositive
    | finite value hdouble =>
      exact .inr ⟨value,hdouble,rfl,not_le.mp (of_decide_eq_false hpositive),
        not_lt.mp (of_decide_eq_false hceiling)⟩

structure Submitted (runtime : Runtime) (policy : UnattendedPolicy) (call : Call) (cost : PyFloat) : Prop where
  valid : Validated policy
  range : 0 ≤ call.now ∧ call.now ≤ lastInstant
  reservable : Reservable policy cost

theorem submitted_of_jobCost {call : Call} {cost : PyFloat} (h : jobCost runtime policy call = .ok cost) :
    Submitted runtime policy call cost := by
  simp only [jobCost,requireJob,bind_eq_ok] at h
  obtain ⟨job,⟨checked,hchecked,instant,hinstant,_,_,⟨projected,binding⟩,hrequest,hjob⟩,_,_,reserved,hreserved,
    _,_,hreturn⟩ := h
  cases hjob
  obtain rfl : reserved = cost := Except.ok.inj hreturn
  obtain ⟨hvalid,rfl⟩ := validate_eq_ok hchecked
  simp only [requireRequest,bind_eq_ok,demand_eq_ok,required_eq_ok,Bool.not_eq_true'] at hrequest
  obtain ⟨_,_,_,_,_,_,other,_,_,hpositive,_,hceiling,_,_,_,_,_,_,hpair⟩ := hrequest
  cases hpair
  exact ⟨hvalid,(astimezoneUtc_eq_ok.mp hinstant).1,reservable_of_projected hvalid hpositive hceiling hreserved⟩

structure OwnReceipt (runtime : Runtime) (receipt : AdmissionReceipt) (instant : ℤ) : Prop where
  text : receipt.recordedAt = recordedText runtime instant
  reads : runtime.Reads instant
  range : 0 ≤ instant ∧ instant ≤ lastInstant
  nonneg : 0 ≤ amountOf receipt.reservedUsd

theorem OwnReceipt.parsed {receipt : AdmissionReceipt} {instant : ℤ} (h : OwnReceipt runtime receipt instant)
    (field : String) : parseTimestamp runtime (.str receipt.recordedAt) field = .ok instant := by
  rw [h.text]
  exact parse_recorded h.reads h.range field

theorem OwnReceipt.recorded {receipt : AdmissionReceipt} {instant : ℤ} (h : OwnReceipt runtime receipt instant) :
    recorded runtime receipt = some (instant,amountOf receipt.reservedUsd) := by
  rw [Cloud.recorded,h.parsed]
  rfl

def DatedBy (runtime : Runtime) (instant : ℤ) (receipts : List AdmissionReceipt) : Prop :=
  ∀ receipt ∈ receipts, ∃ recordedAt ≤ instant, OwnReceipt runtime receipt recordedAt

theorem addReceipt_own {receipt : AdmissionReceipt} {recordedAt instant : ℤ}
    (hown : OwnReceipt runtime receipt recordedAt) (h : recordedAt ≤ instant) (windowStart : ℤ) (consumed : PyFloat) :
    addReceipt runtime policy windowStart instant consumed receipt.toMapping = .ok consumed := by
  have hdate : parseTimestamp runtime (receipt.toMapping.get "recorded_at") "history.recorded_at" =
      .ok recordedAt := hown.parsed _
  have hstate : counted (receipt.toMapping.get "state") = .ok false := rfl
  have hwithin : chargeWithin windowStart recordedAt consumed receipt.toMapping = .ok consumed := by
    rw [chargeWithin,hstate]
    split_ifs <;> rfl
  rw [addReceipt,hdate]
  split_ifs
  · rw [ok_bind,decide_eq_true h]
    exact hwithin
  · rfl

theorem foldlM_own {receipts : List AdmissionReceipt} {instant : ℤ} (hdated : DatedBy runtime instant receipts)
    (windowStart : ℤ) (consumed : PyFloat) :
    (receipts.map AdmissionReceipt.toMapping).foldlM (addReceipt runtime policy windowStart instant) consumed =
      .ok consumed := by
  induction receipts with
  | nil => rfl
  | cons receipt rest ih =>
    obtain ⟨recordedAt,hle,hreceipt⟩ := hdated receipt List.mem_cons_self
    rw [List.map_cons,List.foldlM_cons,addReceipt_own hreceipt hle,ok_bind]
    exact ih fun other hother => hdated other (List.mem_cons_of_mem _ hother)

variable {receipts : List AdmissionReceipt} {call : Call}

theorem instant_of_requireJob {request : Mapping} {now : ℤ} {job : Job}
    (h : requireJob runtime policy request now = .ok job) : job.instant = now := by
  simp only [requireJob,bind_eq_ok] at h
  obtain ⟨_,_,instant,hinstant,_,_,⟨_,_⟩,_,hjob⟩ := h
  cases hjob
  exact (astimezoneUtc_eq_ok.mp hinstant).2

theorem jobCost_of_admitted {receipt : AdmissionReceipt}
    (h : admitUnattendedJob runtime policy call.request (receipts.map AdmissionReceipt.toMapping) call.now =
      .ok receipt) :
    jobCost runtime policy call = .ok receipt.reservedUsd ∧ receipt.recordedAt = recordedText runtime call.now := by
  simp only [admitUnattendedJob,bind_eq_ok] at h
  obtain ⟨job,hjob,windowStart,hwindow,_,_,reserved,hreserved,_,_,digest,hdigest,hreturn⟩ := h
  cases hreturn
  refine ⟨?_,by rw [instant_of_requireJob hjob]⟩
  simp only [jobCost,bind_eq_ok]
  exact ⟨job,hjob,windowStart,hwindow,reserved,hreserved,digest,hdigest,rfl⟩

theorem admitted_of_jobCost {cost : PyFloat} (hdated : DatedBy runtime call.now receipts)
    (h : jobCost runtime policy call = .ok cost) :
    ∃ receipt, admitUnattendedJob runtime policy call.request (receipts.map AdmissionReceipt.toMapping) call.now =
      .ok receipt ∧ receipt.reservedUsd = cost := by
  obtain ⟨hvalid,_,hcost⟩ := submitted_of_jobCost h
  simp only [jobCost,bind_eq_ok] at h
  obtain ⟨job,hjob,windowStart,hwindow,reserved,hreserved,digest,hdigest,hreturn⟩ := h
  obtain rfl : reserved = cost := Except.ok.inj hreturn
  have hinstant := instant_of_requireJob hjob
  have hfits : (!(PyFloat.zero.add reserved).gt policy.rollingCeilingUsd) = true := by
    rw [PyFloat.zero_plus,hcost.fits hvalid.ceilings]
    rfl
  simp only [admitUnattendedJob,bind_eq_ok,demand_eq_ok]
  exact ⟨_,⟨job,hjob,windowStart,hwindow,_,foldlM_own (hinstant ▸ hdated) windowStart .zero,reserved,hreserved,(),hfits,digest,hdigest,rfl⟩,rfl⟩

theorem ownReceipt_of_admitted {receipt : AdmissionReceipt} (hreads : runtime.Reads call.now)
    (h : admitUnattendedJob runtime policy call.request (receipts.map AdmissionReceipt.toMapping) call.now =
      .ok receipt) : OwnReceipt runtime receipt call.now := by
  obtain ⟨hcost,htext⟩ := jobCost_of_admitted h
  obtain ⟨_,hrange,hreservable⟩ := submitted_of_jobCost hcost
  exact ⟨htext,hreads,hrange,hreservable.nonneg⟩

theorem admitCall_dated (hreads : runtime.Reads call.now) (hdated : DatedBy runtime call.now receipts) :
    DatedBy runtime call.now (admitCall runtime policy receipts call) := by
  rw [admitCall]
  cases hadmitted : admitUnattendedJob runtime policy call.request (receipts.map AdmissionReceipt.toMapping) call.now with
  | error e => exact hdated
  | ok receipt =>
    intro other hother
    rcases List.mem_append.mp hother with hother | hother
    · exact hdated other hother
    · obtain rfl := List.mem_singleton.mp hother
      exact ⟨call.now,le_rfl,ownReceipt_of_admitted hreads hadmitted⟩

theorem entries_dated {instant : ℤ} (hdated : DatedBy runtime instant receipts) :
    ∀ entry ∈ receipts.filterMap (recorded runtime), entry.1 ≤ instant ∧ 0 ≤ entry.2 := by
  intro entry hentry
  obtain ⟨receipt,hreceipt,hrecorded⟩ := List.mem_filterMap.mp hentry
  obtain ⟨recordedAt,hle,hown⟩ := hdated receipt hreceipt
  rw [hown.recorded,Option.some.injEq] at hrecorded
  subst hrecorded
  exact ⟨hle,hown.nonneg⟩

theorem reserved_admitCall_le_iff (hreads : runtime.Reads call.now) (hdated : DatedBy runtime call.now receipts)
    {ceiling : WithTop ℚ} :
    (∀ instant, reservedWithin runtime policy (admitCall runtime policy receipts call) instant ≤ ceiling) ↔
      (∀ instant, reservedWithin runtime policy receipts instant ≤ ceiling) ∧
        ∀ cost, jobCost runtime policy call = .ok cost →
          reservedWithin runtime policy receipts call.now + amountOf cost ≤ ceiling := by
  have hentries := entries_dated hdated
  rw [admitCall]
  cases hadmitted : admitUnattendedJob runtime policy call.request (receipts.map AdmissionReceipt.toMapping) call.now with
  | error e =>
    refine ⟨fun h => ⟨h,fun cost hcost => ?_⟩,fun h => h.1⟩
    obtain ⟨receipt,hreceipt,_⟩ := admitted_of_jobCost hdated hcost
    rw [hadmitted] at hreceipt
    cases hreceipt
  | ok receipt =>
    have hown := ownReceipt_of_admitted hreads hadmitted
    obtain ⟨hcost,_⟩ := jobCost_of_admitted hadmitted
    obtain ⟨hvalid,_,_⟩ := submitted_of_jobCost hcost
    have hlast : (receipts ++ [receipt]).filterMap (recorded runtime) =
        receipts.filterMap (recorded runtime) ++ [(call.now,amountOf receipt.reservedUsd)] := by
      rw [List.filterMap_append,List.filterMap_cons_some hown.recorded,List.filterMap_nil]
    simp only [reservedWithin,hlast]
    rw [SlidingWindow.total_concat_le_iff hvalid.window (fun entry hentry => (hentries entry hentry).2) hown.nonneg
      fun entry hentry => (hentries entry hentry).1]
    refine and_congr_right fun _ => ⟨fun h cost hother => ?_,fun h => h _ hcost⟩
    obtain rfl : receipt.reservedUsd = cost := Except.ok.inj (hcost.symm.trans hother)
    exact h

theorem admissions_dated {calls : List Call} (hreads : ∀ call ∈ calls, runtime.Reads call.now) {instant : ℤ}
    (hsorted : calls.Pairwise fun earlier later => earlier.now ≤ later.now)
    (hlast : ∀ call ∈ calls, call.now ≤ instant) : DatedBy runtime instant (admissions runtime policy calls) := by
  induction calls using List.reverseRecOn generalizing instant with
  | nil => exact fun receipt hreceipt => absurd hreceipt List.not_mem_nil
  | append_singleton calls call ih =>
    obtain ⟨hcalls,_,hearlier⟩ := List.pairwise_append.mp hsorted
    have hown := ih (fun other hother => hreads other (List.mem_append_left _ hother)) hcalls
      fun other hother => hearlier other hother call List.mem_cons_self
    have hcall := List.mem_append_right calls (List.mem_singleton_self call)
    rw [admissions,List.foldl_append]
    intro receipt hreceipt
    obtain ⟨recordedAt,hle,hreceipt⟩ := admitCall_dated (hreads call hcall) hown receipt hreceipt
    exact ⟨recordedAt,hle.trans (hlast call hcall),hreceipt⟩

end Facts

theorem rolling_ceiling_binds_iff (runtime : Runtime) (policy : UnattendedPolicy) (calls : List Call)
    (hvalid : validateUnattendedPolicy runtime policy = .ok policy)
    (hreads : ∀ call ∈ calls, runtime.Reads call.now)
    (hsorted : calls.Pairwise fun earlier later => earlier.now ≤ later.now) :
    (∀ instant, reservedWithin runtime policy (admissions runtime policy calls) instant ≤ policy.rollingCeilingUsd) ↔
      ∀ earlier call, earlier ++ [call] <+: calls → ∀ cost, jobCost runtime policy call = .ok cost →
        reservedWithin runtime policy (admissions runtime policy earlier) call.now + amountOf cost ≤
          policy.rollingCeilingUsd := by
  induction calls using List.reverseRecOn with
  | nil =>
    have hceiling : (0 : WithTop ℚ) ≤ policy.rollingCeilingUsd :=
      WithTop.coe_le_coe.mpr (validate_eq_ok hvalid).1.positive.le
    refine ⟨fun _ earlier call hlist => ?_,fun _ _ => hceiling⟩
    exact absurd (List.prefix_nil.mp hlist) (List.append_ne_nil_of_right_ne_nil _ (List.cons_ne_nil _ _))
  | append_singleton calls call ih =>
    obtain ⟨hcalls,_,hearlier⟩ := List.pairwise_append.mp hsorted
    have hrest := fun other hother => hreads other (List.mem_append_left [call] hother)
    have hdated : DatedBy runtime call.now (admissions runtime policy calls) :=
      admissions_dated hrest hcalls fun other hother => hearlier other hother call List.mem_cons_self
    have hcall := hreads call (List.mem_append_right calls (List.mem_singleton_self call))
    have hstep : admissions runtime policy (calls ++ [call]) =
        admitCall runtime policy (admissions runtime policy calls) call := by
      rw [admissions,List.foldl_append]
      rfl
    rw [hstep,reserved_admitCall_le_iff hcall hdated,ih hrest hcalls]
    constructor
    · rintro ⟨hbefore,hlast⟩ earlier other hother
      rcases List.prefix_concat_iff.mp hother with heq | hearly
      · obtain ⟨rfl,hsame⟩ := List.append_inj' heq rfl
        obtain rfl := List.singleton_inj.mp hsame
        exact hlast
      · exact hbefore earlier other hearly
    · intro h
      exact ⟨fun earlier other hother => h earlier other (hother.trans (List.prefix_append _ _)),
        h calls call List.prefix_rfl⟩

def fits (runtime : Runtime) (policy : UnattendedPolicy) (earlier : List Call) (call : Call) : Bool :=
  match jobCost runtime policy call with
  | .ok cost => decide (reservedWithin runtime policy (admissions runtime policy earlier) call.now + amountOf cost ≤
      policy.rollingCeilingUsd)
  | .error _ => true

theorem fits_iff {earlier : List Call} {call : Call} : fits runtime policy earlier call = true ↔
    ∀ cost, jobCost runtime policy call = .ok cost →
      reservedWithin runtime policy (admissions runtime policy earlier) call.now + amountOf cost ≤
        policy.rollingCeilingUsd := by
  rw [fits]
  cases jobCost runtime policy call with
  | error e => exact iff_of_true rfl fun cost hcost => nomatch hcost
  | ok reserved =>
    constructor
    · intro h cost hcost
      cases hcost
      exact of_decide_eq_true h
    · intro h
      exact decide_eq_true (h reserved rfl)

section Sample

def sampleTimes : List (String × ℤ) :=
  [("2026-07-31T00:00:00+00:00",63921052800000000),("2027-07-31T00:00:00+00:00",63952588800000000),
    ("2026-08-01T00:00:00+00:00",63921139200000000),("2026-08-02T00:00:00+00:00",63921225600000000),
    ("2026-09-01T00:00:00+00:00",63923817600000000)]

def sampleRuntime : Runtime where
  fromisoformat text := (sampleTimes.lookup text).map some
  isoformat instant := ((sampleTimes.map Prod.swap).lookup instant).getD ""
  schemaMessage _ := "policy does not conform"
  policySha256 _ := "a"
  requestSha256 _ := .ok "b"

def samplePolicy : UnattendedPolicy where
  recordKind := "cloud_unattended_spend_policy"
  schemaVersion := "0.1.0"
  policyId := "unattended-low-risk-v1"
  status := "active"
  providers := ["openai"]
  allowedActionClasses := ["bounded_api_pilot"]
  rollingWindowDays := 30
  rollingCeilingUsd := 5
  perJobCeilingUsd := 5
  maxRetriesPerJob := 2
  validFrom := "2026-07-31T00:00:00Z"
  expiresAt := "2027-07-31T00:00:00Z"
  operatorApproval := some ⟨"approval","operator",
    "Allow bounded_api_pilot on openai, up to USD 5.00 per job and USD 5.00 per 30 days, until 2027-07-31T00:00:00Z."⟩

def sampleRequest (cost : ℤ) : Mapping :=
  [("job_id",.str "pilot"),("provider",.str "openai"),("action_class",.str "bounded_api_pilot"),
    ("projected_cost_usd",.int cost),("retry_count",.int 0),
    ("input_binding_sha256",.str (String.ofList (List.replicate 64 'a')))]

def sampleCalls : List Call := [⟨sampleRequest 4,63921139200000000⟩,⟨sampleRequest 4,63921225600000000⟩]

def firstCall : Call := ⟨sampleRequest 4,63921139200000000⟩

-- The first call has left the window of thirty days.
def laterCall : Call := ⟨sampleRequest 4,63923817600000000⟩

theorem spaced_fit {earlier : List Call} {call : Call} (h : earlier ++ [call] <+: [firstCall,laterCall]) :
    fits sampleRuntime samplePolicy earlier call = true := by
  match earlier with
  | [] =>
    cases List.cons_prefix_cons.mp h |>.1
    decide +kernel
  | [first] =>
    obtain ⟨hfirst,hrest⟩ := List.cons_prefix_cons.mp h
    cases hfirst
    cases (List.cons_prefix_cons.mp hrest).1
    decide +kernel
  | first :: second :: rest =>
    have hlength := h.length_le
    simp at hlength

theorem spaced_read : ∀ call ∈ [firstCall,laterCall], sampleRuntime.Reads call.now := by
  simp only [List.forall_mem_cons,List.not_mem_nil,IsEmpty.forall_iff,implies_true,and_true,Runtime.Reads]
  exact ⟨by decide,by decide⟩

theorem spaced_ordered : [firstCall,laterCall].Pairwise fun earlier later => earlier.now ≤ later.now := by
  rw [List.pairwise_pair]
  decide

theorem spaced_admitted : validateUnattendedPolicy sampleRuntime samplePolicy = .ok samplePolicy ∧
    (admissions sampleRuntime samplePolicy [firstCall,laterCall]).length = 2 := by
  constructor <;> decide +kernel

theorem samplePolicy_bound : (admissions sampleRuntime samplePolicy [firstCall,laterCall]).length = 2 ∧ ∀ instant,
    reservedWithin sampleRuntime samplePolicy (admissions sampleRuntime samplePolicy [firstCall,laterCall]) instant ≤
      samplePolicy.rollingCeilingUsd :=
  ⟨spaced_admitted.2,(rolling_ceiling_binds_iff sampleRuntime samplePolicy [firstCall,laterCall] spaced_admitted.1 spaced_read
    spaced_ordered).mpr fun _ _ hprefix => fits_iff.mp (spaced_fit hprefix)⟩

theorem own_receipts_uncounted :
    ¬ ∀ instant, reservedWithin sampleRuntime samplePolicy (admissions sampleRuntime samplePolicy sampleCalls) instant ≤
      samplePolicy.rollingCeilingUsd := by
  intro h
  have hlast := h 63921225600000000
  revert hlast
  decide +kernel

end Sample

end PneumaLab.Cloud
