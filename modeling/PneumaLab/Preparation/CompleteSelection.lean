import PneumaLab.Library.JsonScan
import PneumaLab.Foundation.ShardLoading
import PneumaLab.Preparation.DiversityInventory
import PneumaLab.Preparation.Separation

namespace PneumaLab.Preparation

open Foundation Traces

section Greedy
variable {tokenCeiling : ℤ} {chosen : Chosen} {train rest : List Json} {record : Json}

def tokensOf (train : List Json) (selectedIds : List String) : ℤ :=
  ((train.filter fun record => recordIdOf record ∈ selectedIds).map totalTokensOf).sum

theorem tokensOf_nil : tokensOf train [] = 0 := by
  rw [tokensOf,List.filter_eq_nil_iff.mpr fun record _ => by simp]
  rfl

theorem tokensOf_first (selectedIds : List String) : tokensOf (record :: rest) selectedIds =
    (if recordIdOf record ∈ selectedIds then totalTokensOf record else 0) + tokensOf rest selectedIds := by
  rw [tokensOf,List.filter_cons]
  by_cases hheld : recordIdOf record ∈ selectedIds
  · rw [if_pos hheld,if_pos (decide_eq_true hheld),List.map_cons,List.sum_cons,tokensOf]
  · rw [if_neg hheld,if_neg (by simpa only [decide_eq_true_eq] using hheld),zero_add,tokensOf]

theorem tokensOf_cons {selectedIds : List String} (hdistinct : (train.map recordIdOf).Nodup) (hrecord : record ∈ train)
    (hnew : recordIdOf record ∉ selectedIds) :
    tokensOf train (recordIdOf record :: selectedIds) = tokensOf train selectedIds + totalTokensOf record := by
  induction train with
  | nil => cases hrecord
  | cons first rest ih =>
    obtain ⟨hfirst,hrest⟩ := List.nodup_cons.mp hdistinct
    rw [tokensOf_first,tokensOf_first]
    rcases List.mem_cons.mp hrecord with rfl | hlater
    · have hsame : tokensOf rest (recordIdOf record :: selectedIds) = tokensOf rest selectedIds := by
        rw [tokensOf,tokensOf]
        congr 2
        refine List.filter_congr fun other hother => ?_
        have hne : recordIdOf other ≠ recordIdOf record := fun heq => hfirst (heq ▸ List.mem_map_of_mem hother)
        simp only [List.mem_cons,hne,false_or]
      rw [hsame,if_pos List.mem_cons_self,if_neg hnew]
      omega
    · have hne : recordIdOf first ≠ recordIdOf record := fun heq => hfirst (heq ▸ List.mem_map_of_mem hlater)
      rw [ih hrest hlater]
      simp only [List.mem_cons,hne,false_or]
      omega

structure Filled (tokenCeiling : ℤ) (train : List Json) (chosen : Chosen) : Prop where
  total : chosen.totalTokens = tokensOf train chosen.selectedIds
  within : chosen.totalTokens ≤ tokenCeiling

theorem fillCeiling_filled (hdistinct : (train.map recordIdOf).Nodup) (hrecord : record ∈ train)
    (hfilled : Filled tokenCeiling train chosen) : Filled tokenCeiling train (fillCeiling tokenCeiling chosen record) := by
  rw [fillCeiling]
  split
  · exact hfilled
  · next hnew =>
    split
    · next hroom => exact ⟨by rw [tokensOf_cons hdistinct hrecord hnew,hfilled.total],hroom⟩
    · exact hfilled

theorem fillAll_filled (hdistinct : (train.map recordIdOf).Nodup) (hrest : ∀ record ∈ rest, record ∈ train)
    (hfilled : Filled tokenCeiling train chosen) :
    Filled tokenCeiling train (rest.foldl (fillCeiling tokenCeiling) chosen) := by
  induction rest generalizing chosen with
  | nil => exact hfilled
  | cons record rest ih =>
    obtain ⟨hrecord,hlater⟩ := List.forall_mem_cons.mp hrest
    exact ih hlater (fillCeiling_filled hdistinct hrecord hfilled)

theorem fillCeiling_grows : (∀ recordId ∈ chosen.selectedIds, recordId ∈ (fillCeiling tokenCeiling chosen record).selectedIds) ∧
    chosen.totalTokens ≤ (fillCeiling tokenCeiling chosen record).totalTokens := by
  rw [fillCeiling]
  split
  · exact ⟨fun _ hmem => hmem,le_rfl⟩
  · split
    · exact ⟨fun _ hmem => List.mem_cons_of_mem _ hmem,Int.le_add_of_nonneg_right (totalTokensOf_nonneg record)⟩
    · exact ⟨fun _ hmem => hmem,le_rfl⟩

theorem fillAll_grows : (∀ recordId ∈ chosen.selectedIds, recordId ∈ (rest.foldl (fillCeiling tokenCeiling) chosen).selectedIds) ∧
    chosen.totalTokens ≤ (rest.foldl (fillCeiling tokenCeiling) chosen).totalTokens := by
  induction rest generalizing chosen with
  | nil => exact ⟨fun _ hmem => hmem,le_rfl⟩
  | cons record rest ih =>
    obtain ⟨hkept,htotal⟩ := @fillCeiling_grows tokenCeiling chosen record
    obtain ⟨hafter,hgrown⟩ := @ih (fillCeiling tokenCeiling chosen record)
    exact ⟨fun recordId hmem => hafter recordId (hkept recordId hmem),htotal.trans hgrown⟩

theorem fillAll_maximal (hrecord : record ∈ rest)
    (hleft : recordIdOf record ∉ (rest.foldl (fillCeiling tokenCeiling) chosen).selectedIds) :
    tokenCeiling < (rest.foldl (fillCeiling tokenCeiling) chosen).totalTokens + totalTokensOf record := by
  induction rest generalizing chosen with
  | nil => cases hrecord
  | cons first rest ih =>
    rcases List.mem_cons.mp hrecord with rfl | hlater
    · obtain ⟨hkept,htotal⟩ := @fillAll_grows tokenCeiling (fillCeiling tokenCeiling chosen record) rest
      rw [List.foldl_cons] at hleft ⊢
      have hpassed : recordIdOf record ∉ (fillCeiling tokenCeiling chosen record).selectedIds := fun hmem =>
        hleft (hkept _ hmem)
      rw [fillCeiling] at hpassed htotal ⊢
      split at hpassed
      · next hheld => exact absurd hheld hpassed
      · next hnew =>
        split at hpassed
        · exact absurd List.mem_cons_self hpassed
        · next hfull =>
          rw [if_neg hnew,if_neg hfull] at htotal ⊢
          omega
    · exact ih hlater hleft

end Greedy

section Selected
variable {schemaMessage : Json → String} {tokenCeiling : ℤ} {records selection : List Json}

def firstEligible (label : Bool) (records : List Json) : Option Json := (trainRecords records).find? (isResolved label)

structure CompleteSelection (tokenCeiling : ℤ) (records selection : List Json) : Prop where
  eligible : ∀ record ∈ selection, record ∈ records ∧ isTrain record = true
  ordered : selection.Pairwise fun left right => recordIdOf left < recordIdOf right
  balanced : ∀ label, ∃ record ∈ selection, isResolved label record = true
  within : (selection.map totalTokensOf).sum ≤ tokenCeiling
  maximal : ∀ record ∈ records, isTrain record = true → record ∉ selection →
    tokenCeiling < (selection.map totalTokensOf).sum + totalTokensOf record

theorem trainRecords_nodup (hdistinct : (records.map recordIdOf).Nodup) : ((trainRecords records).map recordIdOf).Nodup :=
  ((List.mergeSort_perm _ _).map recordIdOf).nodup_iff.mpr ((List.filter_sublist.map recordIdOf).nodup hdistinct)

theorem trainRecords_pairwise :
    (trainRecords records).Pairwise fun left right => recordIdOf left ≤ recordIdOf right := by
  have hsorted := @List.pairwise_mergeSort _ (fun left right => decide (recordIdOf left ≤ recordIdOf right))
    (fun a b c hab hbc => decide_eq_true ((of_decide_eq_true hab).trans (of_decide_eq_true hbc)))
    (fun a b => by simpa only [Bool.or_eq_true,decide_eq_true_eq] using le_total (recordIdOf a) (recordIdOf b))
    (records.filter isTrain)
  exact hsorted.imp fun h => of_decide_eq_true h

theorem trainRecords_ordered (hdistinct : (records.map recordIdOf).Nodup) :
    (trainRecords records).Pairwise fun left right => recordIdOf left < recordIdOf right := by
  have hne : (trainRecords records).Pairwise fun left right => recordIdOf left ≠ recordIdOf right :=
    List.pairwise_map.mp (trainRecords_nodup hdistinct)
  exact (trainRecords_pairwise.and hne).imp fun h => lt_of_le_of_ne h.1 h.2

theorem trainRecords_perm {other : List Json} (hdistinct : (records.map recordIdOf).Nodup) (hperm : other.Perm records) :
    trainRecords other = trainRecords records := by
  have hother : (other.map recordIdOf).Nodup := (hperm.map recordIdOf).nodup_iff.mpr hdistinct
  refine List.Perm.eq_of_pairwise (fun left right _ _ hlt hgt => absurd hlt (lt_asymm hgt))
    (trainRecords_ordered hother) (trainRecords_ordered hdistinct) ?_
  exact (List.mergeSort_perm _ _).trans ((hperm.filter isTrain).trans (List.mergeSort_perm _ _).symm)

theorem isResolved_other {record : Json} (h : isResolved true record = true) : isResolved false record = false := by
  rw [isResolved,decide_eq_true_eq] at h
  rw [isResolved,h,decide_eq_false_iff_not]
  intro heq
  cases heq

theorem firstEligible_mem {label : Bool} {record : Json} (h : firstEligible label records = some record) :
    record ∈ trainRecords records ∧ isResolved label record = true := ⟨List.mem_of_find?_eq_some h,List.find?_some h⟩

theorem anchors_filled {resolved unresolved : Json} (hdistinct : (records.map recordIdOf).Nodup)
    (hresolved : firstEligible true records = some resolved) (hunresolved : firstEligible false records = some unresolved)
    (hroom : totalTokensOf resolved + totalTokensOf unresolved ≤ tokenCeiling) :
    Filled tokenCeiling (trainRecords records)
      ⟨[recordIdOf resolved,recordIdOf unresolved],totalTokensOf resolved + totalTokensOf unresolved⟩ := by
  obtain ⟨hfirst,hlabel⟩ := firstEligible_mem hresolved
  obtain ⟨hsecond,hother⟩ := firstEligible_mem hunresolved
  have htrain := trainRecords_nodup hdistinct
  have hne : recordIdOf resolved ∉ [recordIdOf unresolved] := by
    rw [List.mem_singleton]
    intro heq
    have hsame : resolved = unresolved := List.inj_on_of_nodup_map htrain hfirst hsecond heq
    rw [hsame] at hlabel
    exact Bool.false_ne_true ((isResolved_other hlabel).symm.trans hother)
  refine ⟨?_,hroom⟩
  rw [tokensOf_cons htrain hfirst hne,tokensOf_cons htrain hsecond List.not_mem_nil,tokensOf_nil,zero_add,add_comm]

theorem select_complete (h : selectCompleteRecords schemaMessage tokenCeiling records = .ok selection) :
    CompleteSelection tokenCeiling records selection := by
  simp only [selectCompleteRecords,bind_eq_ok,demand_eq_ok,required_eq_ok,decide_eq_true_eq,pure,Except.pure,
    Except.ok.injEq] at h
  obtain ⟨_,_,_,_,_,hdistinct,resolved,hresolved,unresolved,hunresolved,_,hroom,rfl⟩ := h
  let anchored : Chosen := ⟨[recordIdOf resolved,recordIdOf unresolved],totalTokensOf resolved + totalTokensOf unresolved⟩
  have htrain := trainRecords_nodup hdistinct
  have hfilled : Filled tokenCeiling (trainRecords records) ((trainRecords records).foldl (fillCeiling tokenCeiling) anchored) :=
    fillAll_filled htrain (fun _ hmem => hmem) (anchors_filled hdistinct hresolved hunresolved hroom)
  have hkept := (@fillAll_grows tokenCeiling anchored (trainRecords records)).1
  obtain ⟨hfirst,hlabel⟩ := firstEligible_mem hresolved
  obtain ⟨hsecond,hother⟩ := firstEligible_mem hunresolved
  have hsum := hfilled.total.symm
  rw [tokensOf] at hsum
  constructor
  case eligible =>
    intro record hrecord
    exact mem_trainRecords.mp (List.mem_filter.mp hrecord).1
  case ordered => exact (trainRecords_ordered hdistinct).filter _
  case balanced =>
    intro label
    cases label
    · exact ⟨unresolved,List.mem_filter.mpr ⟨hsecond,decide_eq_true (hkept _ (List.mem_cons_of_mem _ List.mem_cons_self))⟩,hother⟩
    · exact ⟨resolved,List.mem_filter.mpr ⟨hfirst,decide_eq_true (hkept _ List.mem_cons_self)⟩,hlabel⟩
  case within =>
    rw [hsum]
    exact hfilled.within
  case maximal =>
    intro record hrecord heligible hleft
    have hmem : record ∈ trainRecords records := mem_trainRecords.mpr ⟨hrecord,heligible⟩
    rw [hsum]
    exact fillAll_maximal hmem fun hid => hleft (List.mem_filter.mpr ⟨hmem,decide_eq_true hid⟩)

end Selected

section Rendered
variable {python : Interpreter} {runtime : ShardRuntime} {encode : String → List ℕ} {sourceReceiptHashes : List String}
variable {record : Json}

theorem compactText_obj (fields : List (String × Json)) : compactText (.obj fields) ≠ "" := by
  have hstart : ∃ rest, Json.dumps (.obj fields) = '{' :: rest := by
    cases fields with
    | nil => exact ⟨_,rfl⟩
    | cons field rest => exact ⟨_,rfl⟩
  obtain ⟨rest,hrest⟩ := hstart
  intro h
  rw [compactText,Json.ascii,hrest,List.flatMap_cons] at h
  have hempty := congrArg String.toList h
  rw [String.toList_ofList] at hempty
  exact List.cons_ne_nil _ _ hempty

theorem isMapping_obj {v : Json} (h : isMapping v = true) : ∃ fields, v = .obj fields := by
  cases v with
  | obj fields => exact ⟨fields,rfl⟩
  | _ => cases h

theorem rendered_texts {context : RenderContext} {example_ : Json} {parts : RenderedParts}
    (h : renderedParts python context example_ = .ok parts) :
    compactText parts.prompt ≠ "" ∧ compactText parts.target ≠ "" := by
  have hrenders := renderedParts_ok h
  have hprompt := hrenders.prompt
  have hresolved := hrenders.resolved
  rw [validatedResolvedTarget,hrenders.target,ok_bind] at hresolved
  simp only [renderPromptPayload,bind_eq_ok,pure,Except.pure,Except.ok.injEq] at hprompt
  obtain ⟨_,_,_,_,_,_,_,_,_,_,_,_,_,_,_,_,hpayload⟩ := hprompt
  obtain ⟨_,hmapping,_⟩ := bind_eq_ok.mp hresolved
  obtain ⟨fields,hfields⟩ := isMapping_obj (demand_eq_ok.mp hmapping)
  rw [← hpayload,hfields]
  exact ⟨compactText_obj _,compactText_obj _⟩

structure Rendered (record : Json) : Prop where
  mapping : isMapping record = true
  finite : record.finite = true
  conforms : conformsRecord record = true
  counts : ∃ promptTokens targetTokens : ℕ, 0 < promptTokens ∧ 0 < targetTokens ∧
    fieldAt record "tokenization" "prompt_tokens" = some (.int promptTokens) ∧
      fieldAt record "tokenization" "target_tokens" = some (.int targetTokens) ∧
        fieldAt record "tokenization" "total_tokens" = some (.int (promptTokens + targetTokens))

theorem renderRecord_rendered (hencode : ∀ text, text ≠ "" → encode text ≠ []) {example_ : Json} {assignment : Assignment}
    {laneId : String} (h : renderRecord python runtime encode sourceReceiptHashes example_ assignment laneId = .ok record) :
    Rendered record := by
  simp only [renderRecord,renderFoundationRecord,bind_eq_ok,pure,Except.pure,Except.ok.injEq] at h
  obtain ⟨disposition,_,_,⟨parts,hparts,_,hvalid,rfl⟩,_,_,rfl⟩ := h
  obtain ⟨hprompt,htarget⟩ := rendered_texts hparts
  rw [validateRendered] at hvalid
  obtain ⟨_,hfinite,hconforms⟩ := bind_eq_ok.mp hvalid
  exact {
    mapping := rfl
    finite := demand_eq_ok.mp hfinite
    conforms := demand_eq_ok.mp hconforms
    counts := ⟨_,_,List.length_pos_iff.mpr (hencode _ hprompt),List.length_pos_iff.mpr (hencode _ htarget),rfl,rfl,rfl⟩}

theorem renderEach_rendered (hencode : ∀ text, text ≠ "" → encode text ≠ []) {examples : List Json}
    {assignments : List Assignment} {laneIds : List String} {records : List Json}
    (h : renderEach python runtime encode sourceReceiptHashes examples assignments laneIds = .ok records) :
    ∀ record ∈ records, Rendered record := by
  induction examples generalizing assignments laneIds records with
  | nil =>
    cases assignments with
    | nil =>
      cases laneIds with
      | nil =>
        cases h
        exact List.forall_mem_nil _
      | cons laneId laneIds => cases h
    | cons assignment assignments => cases h
  | cons example_ examples ih =>
    cases assignments with
    | nil => cases h
    | cons assignment assignments =>
      cases laneIds with
      | nil => cases h
      | cons laneId laneIds =>
        simp only [renderEach,bind_eq_ok,pure,Except.pure,Except.ok.injEq] at h
        obtain ⟨record,hrecord,rest,hrest,rfl⟩ := h
        exact List.forall_mem_cons.mpr ⟨renderRecord_rendered hencode hrecord,ih hrest⟩

theorem positiveCount_int {count : ℕ} (h : 0 < count) : positiveCount (some (.int count)) = some (count : ℤ) := by
  rw [positiveCount,if_pos (Int.natCast_pos.mpr h)]

theorem rendered_valid {schemaMessage : Json → String} (h : Rendered record) (index : ℕ) :
    validatedSelectionRecord schemaMessage index record = .ok () := by
  obtain ⟨promptTokens,targetTokens,hprompt,htarget,hpromptField,htargetField,htotalField⟩ := h.counts
  have hfields := closedObject_field h.conforms
  simp only [List.forall_mem_cons] at hfields
  obtain ⟨-,-,-,-,-,-,-,-,-,-,-,⟨observations,hobservations,hobserved⟩,-⟩ := hfields
  replace hobserved := closedObject_field hobserved
  simp only [List.forall_mem_cons] at hobserved
  obtain ⟨-,-,-,⟨labels,hlabels,hlabelled⟩,-⟩ := hobserved
  obtain ⟨resolved,hresolved,hbool⟩ := closedObject_field hlabelled _ List.mem_cons_self
  have hlabel : (lookupField record "observations").any (fun held => (fieldAt held "labels" "resolved").any isBool) = true := by
    rw [hobservations,Option.any_some,fieldAt_eq hlabels hresolved]
    exact hbool
  have htotal : ((promptTokens + targetTokens : ℕ) : ℤ) = promptTokens + targetTokens := Nat.cast_add _ _
  rw [validatedSelectionRecord,h.mapping,h.finite,h.conforms,hpromptField,htargetField,htotalField,positiveCount_int hprompt,
    positiveCount_int htarget,← htotal,positiveCount_int (Nat.add_pos_left hprompt _),hlabel,htotal]
  simp only [demand,required,Bool.and_true,if_true,ok_bind,decide_true]

theorem rendered_total (h : Rendered record) :
    numberAt record "tokenization" "total_tokens" = .ok (.int (totalTokensOf record)) := by
  obtain ⟨promptTokens,targetTokens,hprompt,_,_,_,htotalField⟩ := h.counts
  have htotal : ((promptTokens + targetTokens : ℕ) : ℤ) = promptTokens + targetTokens := Nat.cast_add _ _
  rw [numberAt,heldAt,totalTokensOf,htotalField,← htotal,positiveCount_int (Nat.add_pos_left hprompt _)]
  rfl

end Rendered

section Unique
variable {runtime : ShardRuntime}

def fingerprintOf (runtime : ShardRuntime) (record : Json) : String := ((runtime.dedupFingerprint record).toOption).getD ""

structure Distinct (runtime : ShardRuntime) (seen : List String) (records : List Json) : Prop where
  valid : ∀ record ∈ records, validateExample runtime.schemaMessage record = .ok ()
  fingerprints : ∀ record ∈ records, runtime.dedupFingerprint record = .ok (fingerprintOf runtime record)
  nodup : (records.map (fingerprintOf runtime)).Nodup
  unseen : ∀ record ∈ records, fingerprintOf runtime record ∉ seen

theorem addExample_ok {state next : Deduplication} {record : Json} (h : addExample runtime state record = .ok next) :
    validateExample runtime.schemaMessage record = .ok () ∧
      runtime.dedupFingerprint record = .ok (fingerprintOf runtime record) ∧
        (fingerprintOf runtime record ∈ state.seen ∧ next.seen = state.seen ∧ next.unique = state.unique ∨
          fingerprintOf runtime record ∉ state.seen ∧ next.seen = fingerprintOf runtime record :: state.seen ∧
            next.unique = state.unique ++ [record]) := by
  obtain ⟨_,hvalid,h⟩ := bind_eq_ok.mp h
  obtain ⟨fingerprint,hfingerprint,h⟩ := bind_eq_ok.mp h
  have hsame : fingerprintOf runtime record = fingerprint := by
    rw [fingerprintOf,hfingerprint]
    rfl
  rw [hsame]
  refine ⟨hvalid,hfingerprint,?_⟩
  split at h
  · next hseen =>
    cases h
    exact .inl ⟨hseen,rfl,rfl⟩
  · next hnew =>
    cases h
    exact .inr ⟨hnew,rfl,rfl⟩

theorem deduplicated_distinct {examples : List Json} {state final : Deduplication}
    (h : examples.foldlM (addExample runtime) state = .ok final) :
    ∃ added, final.unique = state.unique ++ added ∧ (∀ record ∈ added, record ∈ examples) ∧
      Distinct runtime state.seen added := by
  induction examples generalizing state with
  | nil =>
    cases h
    exact ⟨[],(List.append_nil _).symm,List.forall_mem_nil _,
      ⟨List.forall_mem_nil _,List.forall_mem_nil _,List.nodup_nil,List.forall_mem_nil _⟩⟩
  | cons record rest ih =>
    rw [List.foldlM_cons] at h
    obtain ⟨next,hnext,hrest⟩ := bind_eq_ok.mp h
    obtain ⟨added,hunique,hmem,hdistinct⟩ := ih hrest
    obtain ⟨hvalid,hfingerprint,⟨_,hseen,hkept⟩ | ⟨hnew,hseen,hkept⟩⟩ := addExample_ok hnext
    · rw [hseen] at hdistinct
      exact ⟨added,by rw [hunique,hkept],fun other hother => List.mem_cons_of_mem _ (hmem other hother),hdistinct⟩
    · rw [hseen] at hdistinct
      have hlater : fingerprintOf runtime record ∉ added.map (fingerprintOf runtime) := by
        intro hheld
        obtain ⟨other,hother,heq⟩ := List.mem_map.mp hheld
        exact hdistinct.unseen other hother (heq ▸ List.mem_cons_self)
      refine ⟨record :: added,by rw [hunique,hkept,List.append_assoc,List.singleton_append],?_,?_⟩
      · exact List.forall_mem_cons.mpr ⟨List.mem_cons_self,fun other hother => List.mem_cons_of_mem _ (hmem other hother)⟩
      · exact {
          valid := List.forall_mem_cons.mpr ⟨hvalid,hdistinct.valid⟩
          fingerprints := List.forall_mem_cons.mpr ⟨hfingerprint,hdistinct.fingerprints⟩
          nodup := List.nodup_cons.mpr ⟨hlater,hdistinct.nodup⟩
          unseen := List.forall_mem_cons.mpr ⟨hnew,fun other hother hheld =>
            hdistinct.unseen other hother (List.mem_cons_of_mem _ hheld)⟩}

theorem distinct_deduplicated {examples : List Json} {state : Deduplication} (h : Distinct runtime state.seen examples) :
    ∃ seen, examples.foldlM (addExample runtime) state = .ok ⟨seen,state.unique ++ examples,state.duplicateIds⟩ := by
  induction examples generalizing state with
  | nil =>
    rw [List.append_nil]
    exact ⟨_,rfl⟩
  | cons record rest ih =>
    obtain ⟨hvalid,hvalidRest⟩ := List.forall_mem_cons.mp h.valid
    obtain ⟨hfingerprint,hfingerprints⟩ := List.forall_mem_cons.mp h.fingerprints
    obtain ⟨hnew,hunseen⟩ := List.forall_mem_cons.mp h.unseen
    obtain ⟨hlater,hnodup⟩ := List.nodup_cons.mp h.nodup
    let next : Deduplication := ⟨fingerprintOf runtime record :: state.seen,state.unique ++ [record],state.duplicateIds⟩
    have hnext : addExample runtime state record = .ok next := by
      rw [addExample,hvalid,ok_bind,hfingerprint,ok_bind,if_neg hnew]
      rfl
    have hrest : Distinct runtime next.seen rest := {
      valid := hvalidRest
      fingerprints := hfingerprints
      nodup := hnodup
      unseen := fun other hother hheld => by
        rcases List.mem_cons.mp hheld with heq | hheld
        · exact hlater (heq ▸ List.mem_map_of_mem hother)
        · exact hunseen other hother hheld}
    obtain ⟨seen,hseen⟩ := ih hrest
    refine ⟨seen,?_⟩
    rw [List.foldlM_cons,hnext,ok_bind,hseen,List.append_assoc,List.singleton_append]

theorem Distinct.subset {records selection : List Json} (h : Distinct runtime [] records) (hnodup : selection.Nodup)
    (hsubset : ∀ record ∈ selection, record ∈ records) : Distinct runtime [] selection where
  valid record hrecord := h.valid record (hsubset record hrecord)
  fingerprints record hrecord := h.fingerprints record (hsubset record hrecord)
  nodup := hnodup.map_on fun left hleft right hright heq =>
    List.inj_on_of_nodup_map h.nodup (hsubset left hleft) (hsubset right hright) heq
  unseen _ _ := List.not_mem_nil

end Unique

section Planned
variable (python : Interpreter)

def canonicalRecordBytes (record : Json) : Bytes := utf8 (String.ofList (record.dumps ++ ['\n']))

def plannedPayload (records : List Json) : Bytes := (records.map canonicalRecordBytes).flatten

def plannedDigest (records : List Json) : String := (python.sha256 (plannedPayload records)).hex

def plannedShardPaths (records : List Json) (outputRoot : String) : String × String :=
  let digest := plannedDigest python records
  let shardRoot := outputRoot ++ "/shards"
  (shardRoot ++ "/" ++ digest ++ ".jsonl",shardRoot ++ "/" ++ digest ++ ".manifest.json")

end Planned

section Publishing
variable {python : Interpreter} {floatText : PyFloat → String} {schemaMessage : Json → String} {storage : Storage}
variable {encode : String → List ℕ} {sourceReceiptHashes : List String}
variable {examples records selection : List Json} {assignments : List Assignment} {laneIds : List String} {tokenCeiling : ℤ}

theorem plannedPayload_eq (records : List Json) : plannedPayload records = utf8 (String.ofList (shardText records)) := by
  rw [plannedPayload,utf8_ofList,shardText]
  induction records with
  | nil => rfl
  | cons record rest ih =>
    rw [List.map_cons,List.flatten_cons,ih,List.flatMap_cons,encoded_append,canonicalRecordBytes,utf8_ofList]

theorem renderRecords_ok (hencode : ∀ text, text ≠ "" → encode text ≠ [])
    (h : renderRecords python (shardRuntime python floatText schemaMessage storage) encode sourceReceiptHashes examples
      assignments laneIds = .ok records) :
    (∀ record ∈ records, Rendered record) ∧ Distinct (shardRuntime python floatText schemaMessage storage) [] records := by
  simp only [renderRecords,deduplicateExamples,bind_eq_ok,pure,Except.pure,Except.ok.injEq] at h
  obtain ⟨rendered,hrendered,⟨unique,duplicateIds⟩,⟨final,hfinal,hunique⟩,rfl⟩ := h
  obtain ⟨added,hadded,hmem,hdistinct⟩ := deduplicated_distinct hfinal
  have hsame : unique = added := by
    rw [← (Prod.mk.inj hunique).1,hadded,List.nil_append]
  rw [hsame]
  exact ⟨fun record hrecord => renderEach_rendered hencode hrendered record (hmem record hrecord),hdistinct⟩

def publishedShard (python : Interpreter) (selection : List Json) (outputRoot : String) : ShardResult where
  shardPath := (plannedShardPaths python selection outputRoot).1
  manifestPath := (plannedShardPaths python selection outputRoot).2
  sha256 := plannedDigest python selection
  exampleCount := selection.length
  duplicateIds := []

theorem select_published (hpath : storage.validateOutputPath = .ok ()) (hbind : storage.bindArtifactPublication = .ok ())
    (hceiling : 0 < tokenCeiling) (hrendered : ∀ record ∈ records, Rendered record)
    (hdistinct : Distinct (shardRuntime python floatText schemaMessage storage) [] records)
    (hcomplete : CompleteSelection tokenCeiling records selection) (outputRoot : String) (files : ShardFiles) :
    ∃ published : PyFloat → ShardFiles,
      buildContentAddressedShard (shardRuntime python floatText schemaMessage storage) (outputRoot ++ "/shards") selection
        (some tokenCeiling) files = (fmean (selection.map trajectoryLengthOf)).map
          (fun mean => (publishedShard python selection outputRoot,published mean)) ∧
        ∀ mean, published mean (plannedShardPaths python selection outputRoot).1 = some (plannedPayload selection) := by
  have hmem (record : Json) (hrecord : record ∈ selection) : record ∈ records := (hcomplete.eligible record hrecord).1
  have hnodup : selection.Nodup := by
    refine List.Pairwise.imp ?_ hcomplete.ordered
    intro left right hlt heq
    rw [heq] at hlt
    exact lt_irrefl _ hlt
  have hkept := hdistinct.subset hnodup hmem
  obtain ⟨first,hfirst,_⟩ := hcomplete.balanced true
  have hne : selection ≠ [] := List.ne_nil_of_mem hfirst
  obtain ⟨fields,hinventory⟩ := @buildDiversityInventory_eq python floatText schemaMessage _ hne hkept.valid
    (fun record hrecord => rendered_total (hrendered record (hmem record hrecord)))
  have hvalid : selection.forM (validateExample schemaMessage) = .ok () := forM_eq_ok.mpr hkept.valid
  obtain ⟨seen,hseen⟩ := @distinct_deduplicated _ _ ⟨[],[],[]⟩ hkept
  have hroom (mean : PyFloat) :
      requireTokenCeiling ⟨.int (selection.map totalTokensOf).sum,fields mean⟩ (some tokenCeiling) = .ok () := by
    have hwithin : ¬ (tokenCeiling : ℚ) < ((selection.map totalTokensOf).sum : ℤ) := not_lt.mpr (Int.cast_le.mpr hcomplete.within)
    have hpositive : (0 : ℚ) < tokenCeiling := Int.cast_pos.mpr hceiling
    rw [requireTokenCeiling,demand_eq_ok]
    change (decide ((0 : ℚ) < tokenCeiling) && !decide ((tokenCeiling : ℚ) < ((selection.map totalTokensOf).sum : ℤ))) = true
    rw [decide_eq_false hwithin,decide_eq_true hpositive]
    rfl
  let runtime := shardRuntime python floatText schemaMessage storage
  let shardRoot := outputRoot ++ "/shards"
  have hunique : deduplicateExamples runtime selection = .ok (selection,[]) := by
    rw [deduplicateExamples,hseen]
    rfl
  have hdiffer := paths_differ shardRoot (plannedDigest python selection)
  let published (mean : PyFloat) : ShardFiles :=
    publishFile (publishFile files (shardPathOf shardRoot (plannedDigest python selection)) (plannedPayload selection))
      (manifestPathOf shardRoot (plannedDigest python selection))
      (prettyBytes (shardManifest (plannedDigest python selection) selection [] (fields mean) (some tokenCeiling)))
  refine ⟨published,?_,fun mean => (publishFile_other _ hdiffer _).trans (publishFile_self ..)⟩
  have hpayload := plannedPayload_eq selection
  have hvalidHeld : selection.forM (validateExample runtime.schemaMessage) = .ok () := hvalid
  have hinventoryHeld : runtime.buildDiversityInventory selection = (fmean (selection.map trajectoryLengthOf)).map
    fun mean => ⟨.int (selection.map totalTokensOf).sum,fields mean⟩ := hinventory
  have hpathHeld : runtime.validateOutputPath = .ok () := hpath
  have hbindHeld : runtime.bindArtifactPublication = .ok () := hbind
  change buildContentAddressedShard runtime shardRoot selection (some tokenCeiling) files = _
  simp only [published,publishedShard,plannedShardPaths,plannedDigest,hpayload]
  rw [buildContentAddressedShard,hpathHeld,ok_bind,hvalidHeld,ok_bind,hunique,ok_bind]
  dsimp only
  rw [hinventoryHeld]
  cases fmean (selection.map trajectoryLengthOf) with
  | error error => rfl
  | ok mean =>
    have hheld : requireTokenCeiling ⟨.int (selection.map totalTokensOf).sum,fields mean⟩ (some tokenCeiling) = .ok () :=
      hroom mean
    simp only [Except.map,ok_bind,hheld,hbindHeld]
    rfl

end Publishing

section Settled
variable {schemaMessage : Json → String} {tokenCeiling : ℤ} {records selection : List Json}

def anchorsOf (resolved unresolved : Json) : Chosen :=
  ⟨[recordIdOf resolved,recordIdOf unresolved],totalTokensOf resolved + totalTokensOf unresolved⟩

theorem select_iff (hceiling : 0 < tokenCeiling) (hrendered : ∀ record ∈ records, Rendered record) :
    selectCompleteRecords schemaMessage tokenCeiling records = .ok selection ↔
      (records.map recordIdOf).Nodup ∧ ∃ resolved unresolved, firstEligible true records = some resolved ∧
        firstEligible false records = some unresolved ∧ totalTokensOf resolved + totalTokensOf unresolved ≤ tokenCeiling ∧
          (trainRecords records).filter (fun record => recordIdOf record ∈
            ((trainRecords records).foldl (fillCeiling tokenCeiling) (anchorsOf resolved unresolved)).selectedIds) = selection := by
  have hforM : (records.zipIdx.forM fun (entry : Json × ℕ) => validatedSelectionRecord schemaMessage entry.2 entry.1) = .ok () := by
    rw [forM_eq_ok]
    intro entry hentry
    exact rendered_valid (hrendered entry.1 (List.fst_mem_of_mem_zipIdx hentry)) entry.2
  simp only [selectCompleteRecords,bind_eq_ok,demand_eq_ok,required_eq_ok,decide_eq_true_eq,pure,Except.pure,
    Except.ok.injEq]
  constructor
  · rintro ⟨_,_,_,_,_,hdistinct,resolved,hresolved,unresolved,hunresolved,_,hroom,hselection⟩
    exact ⟨hdistinct,resolved,unresolved,hresolved,hunresolved,hroom,hselection⟩
  · rintro ⟨hdistinct,resolved,unresolved,hresolved,hunresolved,hroom,hselection⟩
    exact ⟨(),hceiling,(),hforM,(),hdistinct,resolved,hresolved,unresolved,hunresolved,(),hroom,hselection⟩

theorem select_perm {other : List Json} (hceiling : 0 < tokenCeiling) (hrendered : ∀ record ∈ records, Rendered record)
    (h : selectCompleteRecords schemaMessage tokenCeiling records = .ok selection) (hperm : other.Perm records) :
    selectCompleteRecords schemaMessage tokenCeiling other = .ok selection := by
  have hother (record : Json) (hrecord : record ∈ other) : Rendered record := hrendered record (hperm.mem_iff.mp hrecord)
  have hsettled := (select_iff hceiling hrendered).mp h
  rw [select_iff hceiling hother,firstEligible,firstEligible,trainRecords_perm hsettled.1 hperm]
  exact ⟨(hperm.map recordIdOf).nodup_iff.mpr hsettled.1,hsettled.2⟩

theorem select_raises_iff (hceiling : 0 < tokenCeiling) (hrendered : ∀ record ∈ records, Rendered record) :
    (∃ error, selectCompleteRecords schemaMessage tokenCeiling records = .error error) ↔
      ¬ (records.map recordIdOf).Nodup ∨ (∃ label, firstEligible label records = none) ∨
        ∃ resolved unresolved, firstEligible true records = some resolved ∧ firstEligible false records = some unresolved ∧
          tokenCeiling < totalTokensOf resolved + totalTokensOf unresolved := by
  constructor
  · rintro ⟨error,herror⟩
    by_contra hnone
    simp only [not_or,not_not,not_exists,not_and,not_lt] at hnone
    obtain ⟨hdistinct,hlabels,hroom⟩ := hnone
    obtain ⟨resolved,hresolved⟩ := Option.ne_none_iff_exists'.mp (hlabels true)
    obtain ⟨unresolved,hunresolved⟩ := Option.ne_none_iff_exists'.mp (hlabels false)
    have hok := (@select_iff schemaMessage tokenCeiling records _ hceiling hrendered).mpr
      ⟨hdistinct,resolved,unresolved,hresolved,hunresolved,hroom resolved unresolved hresolved hunresolved,rfl⟩
    rw [herror] at hok
    cases hok
  · intro hwrong
    cases h : selectCompleteRecords schemaMessage tokenCeiling records with
    | error error => exact ⟨error,rfl⟩
    | ok selection =>
      obtain ⟨hdistinct,resolved,unresolved,hresolved,hunresolved,hroom,_⟩ := (select_iff hceiling hrendered).mp h
      rcases hwrong with hduplicate | ⟨label,hlabel⟩ | ⟨first,second,hfirst,hsecond,hover⟩
      · exact absurd hdistinct hduplicate
      · cases label
        · cases hunresolved.symm.trans hlabel
        · cases hresolved.symm.trans hlabel
      · cases hresolved.symm.trans hfirst
        cases hunresolved.symm.trans hsecond
        exact absurd hroom (not_le.mpr hover)

end Settled

section Selecting
variable {python : Interpreter} {floatText : PyFloat → String} {schemaMessage : Json → String} {storage : Storage}
variable {encode : String → List ℕ} {sourceReceiptHashes : List String}
variable {examples records : List Json} {assignments : List Assignment} {laneIds : List String} {tokenCeiling : ℤ}

theorem select_rendered (hencode : ∀ text, text ≠ "" → encode text ≠ []) (hpath : storage.validateOutputPath = .ok ())
    (hbind : storage.bindArtifactPublication = .ok ()) (hceiling : 0 < tokenCeiling)
    (hrecords : renderRecords python (shardRuntime python floatText schemaMessage storage) encode sourceReceiptHashes examples
      assignments laneIds = .ok records) :
    (∀ selection, selectCompleteRecords schemaMessage tokenCeiling records = .ok selection →
      CompleteSelection tokenCeiling records selection ∧
      (∀ other, other.Perm records → selectCompleteRecords schemaMessage tokenCeiling other = .ok selection) ∧
      ∀ outputRoot files, ∃ published : PyFloat → ShardFiles,
        buildContentAddressedShard (shardRuntime python floatText schemaMessage storage) (outputRoot ++ "/shards") selection
          (some tokenCeiling) files = (fmean (selection.map trajectoryLengthOf)).map
            (fun mean => (publishedShard python selection outputRoot,published mean)) ∧
        ∀ mean, published mean (plannedShardPaths python selection outputRoot).1 = some (plannedPayload selection)) ∧
    ((∃ error, selectCompleteRecords schemaMessage tokenCeiling records = .error error) ↔
      ¬ (records.map recordIdOf).Nodup ∨ (∃ label, firstEligible label records = none) ∨
        ∃ resolved unresolved, firstEligible true records = some resolved ∧ firstEligible false records = some unresolved ∧
          tokenCeiling < totalTokensOf resolved + totalTokensOf unresolved) := by
  obtain ⟨hrendered,hdistinct⟩ := renderRecords_ok hencode hrecords
  refine ⟨fun selection hselection => ?_,select_raises_iff hceiling hrendered⟩
  have hcomplete := select_complete hselection
  refine ⟨hcomplete,fun other hperm => select_perm hceiling hrendered hselection hperm,?_⟩
  intro outputRoot files
  exact select_published hpath hbind hceiling hrendered hdistinct hcomplete outputRoot files

end Selecting

section Runs

theorem marked_size (byte : UInt8) : (List.replicate 31 (UInt8.ofNat 0) ++ [byte]).length = 32 := rfl

def markedSha256 (raw : Bytes) : Digest :=
  ⟨List.replicate 31 (UInt8.ofNat 0) ++ [UInt8.ofNat (if raw.contains (UInt8.ofNat 113) then 1 else 0)],marked_size _⟩

def markedInterpreter : Interpreter := { djangoInterpreter with sha256 := markedSha256 }

def markedExample (repo exampleId : String) (resolved : Bool) (steps : ℤ) : Json := .obj [
  ("dataset_family",.str "swe-gym"),
  ("dataset_id",.str openHandsLaneId),
  ("example_id",.str exampleId),
  ("input",.obj [
    ("objective",.obj [("text_sha256",.str "issue")]),
    ("trajectory",.obj [("num_agent_steps",.int steps)])]),
  ("split_group",.obj [("repo",.str repo),("task_id",.str "task")]),
  ("target",.obj [("resolved",.bool resolved)])]

def markedAssignment (repo exampleId : String) : Assignment := ⟨.str exampleId,repo,repo,"train",none⟩

def markedRuntime : ShardRuntime := shardRuntime markedInterpreter noFloatText noMessage writableStorage

def markedRecords (firstId secondId : String) (steps : ℤ) : Py (List Json) :=
  renderRecords markedInterpreter markedRuntime wholeText []
    [markedExample "q" firstId true steps,markedExample "v" secondId false steps]
    [markedAssignment "q" firstId,markedAssignment "v" secondId] [openHandsLaneId,openHandsLaneId]

def markedRecord (repo exampleId : String) (resolved : Bool) : Py Json :=
  renderRecord markedInterpreter markedRuntime wholeText [] (markedExample repo exampleId resolved (2 ^ 1023))
    (markedAssignment repo exampleId) openHandsLaneId

def markedDigest (mark : ℕ) : Digest := ⟨List.replicate 31 (UInt8.ofNat 0) ++ [UInt8.ofNat mark],marked_size _⟩

structure MarkedAs (resolved : Bool) (idMark dedupMark : ℕ) (record : Json) : Prop where
  label : isResolved resolved record = true
  train : isTrain record = true
  tokens : totalTokensOf record = 2
  length : fieldAt record "observations" "trajectory_length" = some (.int (2 ^ 1023))
  named : recordIdOf record = "ftr:" ++ (markedDigest idMark).hex
  valid : (validateExample noMessage record).isOk = true
  fingerprint : (dedupFingerprint markedInterpreter noMessage record).toOption = some (markedDigest dedupMark).hex

def isMarkedAs (resolved : Bool) (idMark dedupMark : ℕ) (record : Json) : Bool :=
  isResolved resolved record && isTrain record && decide (totalTokensOf record = 2) &&
    decide (fieldAt record "observations" "trajectory_length" = some (.int (2 ^ 1023))) &&
      decide (recordIdOf record = "ftr:" ++ (markedDigest idMark).hex) && (validateExample noMessage record).isOk &&
        decide ((dedupFingerprint markedInterpreter noMessage record).toOption = some (markedDigest dedupMark).hex)

theorem marked_checked : (markedRecord "q" "a" true).toOption.any (isMarkedAs true 0 1) = true ∧
    (markedRecord "q" "q" true).toOption.any (isMarkedAs true 1 1) = true ∧
    (markedRecord "v" "a" false).toOption.any (isMarkedAs false 0 0) = true := by
  refine ⟨?_,?_,?_⟩
  · decide +kernel
  · decide +kernel
  · decide +kernel

theorem marked_of_checked {value : Py Json} {resolved : Bool} {idMark dedupMark : ℕ}
    (h : value.toOption.any (isMarkedAs resolved idMark dedupMark) = true) :
    ∃ record, value = .ok record ∧ MarkedAs resolved idMark dedupMark record := by
  cases value with
  | error error => cases h
  | ok record =>
    have hmarked : isMarkedAs resolved idMark dedupMark record = true := h
    simp only [isMarkedAs,Bool.and_eq_true,decide_eq_true_eq] at hmarked
    obtain ⟨⟨⟨⟨⟨⟨hlabel,htrain⟩,htokens⟩,hlength⟩,hnamed⟩,hvalid⟩,hfingerprint⟩ := hmarked
    exact ⟨record,rfl,hlabel,htrain,htokens,hlength,hnamed,hvalid,hfingerprint⟩

structure Balanced (steps : ℤ) (records : List Json) : Prop where
  size : records.length = 2
  labels : ∀ label, ∃ record ∈ records, isResolved label record = true
  eligible : ∀ record ∈ records, isTrain record = true
  tokens : ∀ record ∈ records, totalTokensOf record = 2
  lengths : ∀ record ∈ records, fieldAt record "observations" "trajectory_length" = some (.int steps)

section Pairs
variable {first second : Json} {firstId : String} {firstMark secondMark firstPrint secondPrint : ℕ}

theorem ok_of_isOk {value : Py Unit} (h : value.isOk = true) : value = .ok () := by
  cases value with
  | error error => cases h
  | ok u => rfl

theorem ok_of_toOption {value : Py String} {text : String} (h : value.toOption = some text) : value = .ok text := by
  cases value with
  | error error => cases h
  | ok held => exact congrArg Except.ok (Option.some.inj h)

theorem marked_rendered (hfirst : markedRecord "q" firstId true = .ok first) (hsecond : markedRecord "v" "a" false = .ok second)
    (hone : MarkedAs true firstMark 1 first) (htwo : MarkedAs false secondMark 0 second) :
    markedRecords firstId "a" (2 ^ 1023) = .ok [first,second] := by
  have hne : (markedDigest 1).hex ≠ (markedDigest 0).hex := by
    have hbytes : (markedDigest 1).bytes ≠ (markedDigest 0).bytes := by decide
    exact fun h => hbytes (congrArg Digest.bytes (Digest.hex_injective h))
  have hunique := @deduplicate_pair markedRuntime first second _ _ (ok_of_isOk hone.valid) (ok_of_isOk htwo.valid)
    (ok_of_toOption hone.fingerprint) (ok_of_toOption htwo.fingerprint) hne
  have heach : renderEach markedInterpreter markedRuntime wholeText []
      [markedExample "q" firstId true (2 ^ 1023),markedExample "v" "a" false (2 ^ 1023)]
      [markedAssignment "q" firstId,markedAssignment "v" "a"] [openHandsLaneId,openHandsLaneId] = .ok [first,second] := by
    rw [markedRecord] at hfirst hsecond
    simp only [renderEach,hfirst,hsecond,ok_bind]
    rfl
  rw [markedRecords,renderRecords,heach,ok_bind,hunique]
  rfl

theorem marked_balanced (hone : MarkedAs true firstMark firstPrint first) (htwo : MarkedAs false secondMark secondPrint second) :
    Balanced (2 ^ 1023) [first,second] where
  size := rfl
  labels label := by
    cases label
    · exact ⟨second,List.mem_pair.mpr (.inr rfl),htwo.label⟩
    · exact ⟨first,List.mem_pair.mpr (.inl rfl),hone.label⟩
  eligible := List.forall_mem_cons.mpr ⟨hone.train,List.forall_mem_singleton.mpr htwo.train⟩
  tokens := List.forall_mem_cons.mpr ⟨hone.tokens,List.forall_mem_singleton.mpr htwo.tokens⟩
  lengths := List.forall_mem_cons.mpr ⟨hone.length,List.forall_mem_singleton.mpr htwo.length⟩

end Pairs

theorem marked_duplicates : ∃ records, markedRecords "a" "a" (2 ^ 1023) = .ok records ∧ Balanced (2 ^ 1023) records ∧
    ¬ (records.map recordIdOf).Nodup := by
  obtain ⟨hleft,-,hright⟩ := marked_checked
  obtain ⟨first,hfirst,hone⟩ := marked_of_checked hleft
  obtain ⟨second,hsecond,htwo⟩ := marked_of_checked hright
  refine ⟨_,marked_rendered hfirst hsecond hone htwo,marked_balanced hone htwo,fun hnodup => ?_⟩
  have hsame : recordIdOf first = recordIdOf second := hone.named.trans htwo.named.symm
  exact (List.nodup_cons.mp hnodup).1 (List.mem_singleton.mpr hsame)

theorem marked_distinct : ∃ records, markedRecords "q" "a" (2 ^ 1023) = .ok records ∧ Balanced (2 ^ 1023) records ∧
    (records.map recordIdOf).Nodup := by
  obtain ⟨-,hleft,hright⟩ := marked_checked
  obtain ⟨first,hfirst,hone⟩ := marked_of_checked hleft
  obtain ⟨second,hsecond,htwo⟩ := marked_of_checked hright
  refine ⟨_,marked_rendered hfirst hsecond hone htwo,marked_balanced hone htwo,
    List.nodup_cons.mpr ⟨fun hmem => ?_,List.nodup_singleton _⟩⟩
  have htexts := hone.named.symm.trans ((List.mem_singleton.mp hmem).trans htwo.named)
  have hdigests := congrArg Digest.bytes (Digest.hex_injective ((String.append_right_inj _).mp htexts))
  exact absurd hdigests (by decide)

theorem wholeText_some (text : String) (_ : text ≠ "") : wholeText text ≠ [] := List.cons_ne_nil _ _

theorem Balanced.anchors {steps : ℤ} {records : List Json} (h : Balanced steps records) :
    ∃ resolved unresolved, firstEligible true records = some resolved ∧ firstEligible false records = some unresolved ∧
      totalTokensOf resolved + totalTokensOf unresolved ≤ 10 := by
  have hanchor (label : Bool) : ∃ record, firstEligible label records = some record ∧ totalTokensOf record = 2 := by
    obtain ⟨record,hrecord,hlabel⟩ := h.labels label
    have hmem : record ∈ trainRecords records := mem_trainRecords.mpr ⟨hrecord,h.eligible record hrecord⟩
    obtain ⟨first,hfirst⟩ := Option.isSome_iff_exists.mp (List.find?_isSome.mpr ⟨record,hmem,hlabel⟩)
    exact ⟨first,hfirst,h.tokens first (mem_trainRecords.mp (firstEligible_mem hfirst).1).1⟩
  obtain ⟨resolved,hresolved,hfirst⟩ := hanchor true
  obtain ⟨unresolved,hunresolved,hsecond⟩ := hanchor false
  exact ⟨resolved,unresolved,hresolved,hunresolved,by rw [hfirst,hsecond]; decide⟩

theorem Balanced.selection_size {steps : ℤ} {records selection : List Json} (h : Balanced steps records)
    (hcomplete : CompleteSelection 10 records selection) : selection.length = 2 := by
  have hnodup : selection.Nodup := by
    refine List.Pairwise.imp ?_ hcomplete.ordered
    intro left right hlt heq
    rw [heq] at hlt
    exact lt_irrefl _ hlt
  have hsub := hnodup.subperm fun record hrecord => (hcomplete.eligible record hrecord).1
  have hle := hsub.length_le
  rw [h.size] at hle
  obtain ⟨resolved,hresolved,hlabel⟩ := hcomplete.balanced true
  obtain ⟨unresolved,hunresolved,hother⟩ := hcomplete.balanced false
  cases selection with
  | nil => cases hresolved
  | cons first rest =>
    cases rest with
    | nil =>
      rw [List.mem_singleton] at hresolved hunresolved
      rw [hresolved] at hlabel
      rw [hunresolved] at hother
      exact absurd ((isResolved_other hlabel).symm.trans hother) Bool.false_ne_true
    | cons second rest =>
      rw [List.length_cons,List.length_cons] at hle ⊢
      omega

theorem Balanced.lengths_two {steps : ℤ} {records selection : List Json} (h : Balanced steps records)
    (hcomplete : CompleteSelection 10 records selection) :
    selection.map trajectoryLengthOf = [.int steps,.int steps] := by
  refine (List.eq_replicate_iff (n := 2)).mpr ⟨by rw [List.length_map,h.selection_size hcomplete],?_⟩
  intro length hlength
  obtain ⟨record,hrecord,rfl⟩ := List.mem_map.mp hlength
  rw [trajectoryLengthOf,numberAt,heldAt,h.lengths record (hcomplete.eligible record hrecord).1]
  rfl

theorem nearest_power (n : ℕ) : Rounding.nearest ((2 ^ n : ℤ) : ℚ) = (2 ^ n : ℤ) ∧ Int.log 2 |((2 ^ n : ℤ) : ℚ)| = n := by
  have hvalue : ((2 ^ n : ℤ) : ℚ) = (1 : ℤ) * 2 ^ (n : ℤ) := by
    rw [Int.cast_one,one_mul,zpow_natCast,Int.cast_pow,Int.cast_ofNat]
  have hnonneg : (0 : ℚ) ≤ (1 : ℤ) * 2 ^ (n : ℤ) := by positivity
  have hlog := Int.log_zpow (b := 2) (R := ℚ) (by decide) n
  rw [Nat.cast_ofNat] at hlog
  rw [hvalue,abs_of_nonneg hnonneg]
  refine ⟨(Rounding.nearest_of_nonneg hnonneg).trans (Rounding.double_scaled (by decide) (by decide) (by omega)),?_⟩
  rw [Int.cast_one,one_mul]
  exact hlog

theorem isDouble_vast : Rounding.IsDouble ((2 ^ 1023 : ℤ) : ℚ) := by
  obtain ⟨hnearest,hlog⟩ := nearest_power 1023
  exact ⟨hnearest,by rw [hlog]; decide⟩

theorem fmean_vast : fmean [.int (2 ^ 1023),.int (2 ^ 1023)] = .error (.overflowError "intermediate overflow in fsum") := by
  obtain ⟨hnearest,hlog⟩ := nearest_power 1024
  have hsum : ([.finite _ isDouble_vast,.finite _ isDouble_vast].map fun x => rationalOf (.float x)).sum = ((2 ^ 1024 : ℤ) : ℚ) := by
    rw [List.map_cons,List.map_singleton,List.sum_cons,List.sum_singleton]
    simp only [rationalOf]
    rw [← Int.cast_add,← two_mul,← pow_succ']
  have hfloats : [Number.int (2 ^ 1023),.int (2 ^ 1023)].mapM Number.toFloat =
      (.ok [.finite _ isDouble_vast,.finite _ isDouble_vast] : Py (List PyFloat)) := by
    rw [List.mapM_cons,List.mapM_cons,List.mapM_nil,Number.toFloat_int isDouble_vast]
    rfl
  have hbound : ¬ Int.log 2 |Rounding.nearest ((2 ^ 1024 : ℤ) : ℚ)| < 1024 := by
    rw [hnearest,hlog]
    decide
  rw [fmean,hfloats,ok_bind]
  simp only [hsum]
  rw [PyFloat.ofRat,dif_neg hbound]
  rfl

theorem marked_build {records selection : List Json} (hrecords : markedRecords "q" "a" (2 ^ 1023) = .ok records)
    (hbalanced : Balanced (2 ^ 1023) records) (hselection : selectCompleteRecords noMessage 10 records = .ok selection)
    (outputRoot : String) (files : ShardFiles) :
    buildContentAddressedShard markedRuntime (outputRoot ++ "/shards") selection (some 10) files =
      .error (.overflowError "intermediate overflow in fsum") := by
  obtain ⟨hrendered,hdistinct⟩ := renderRecords_ok wholeText_some hrecords
  have hcomplete := select_complete hselection
  have hlengths := hbalanced.lengths_two hcomplete
  obtain ⟨published,hbuilt,_⟩ := @select_published _ noFloatText _ writableStorage _ _ _ rfl rfl (by decide) hrendered hdistinct
    hcomplete outputRoot files
  rw [hlengths,fmean_vast] at hbuilt
  exact hbuilt

theorem select_rejects :
    (∃ records resolved unresolved error, markedRecords "a" "a" (2 ^ 1023) = .ok records ∧
      firstEligible true records = some resolved ∧ firstEligible false records = some unresolved ∧
        totalTokensOf resolved + totalTokensOf unresolved ≤ 10 ∧
          selectCompleteRecords noMessage 10 records = .error error) ∧
    (∃ records selection error, markedRecords "q" "a" (2 ^ 1023) = .ok records ∧
      selectCompleteRecords noMessage 10 records = .ok selection ∧ ∀ outputRoot files,
        buildContentAddressedShard markedRuntime (outputRoot ++ "/shards") selection (some 10) files = .error error) := by
  constructor
  · obtain ⟨records,hrecords,hbalanced,hduplicate⟩ := marked_duplicates
    obtain ⟨hrendered,_⟩ := renderRecords_ok wholeText_some hrecords
    obtain ⟨resolved,unresolved,hresolved,hunresolved,hroom⟩ := hbalanced.anchors
    obtain ⟨error,herror⟩ := (@select_raises_iff noMessage 10 records (by decide) hrendered).mpr
      (.inl hduplicate)
    exact ⟨records,resolved,unresolved,error,hrecords,hresolved,hunresolved,hroom,herror⟩
  · obtain ⟨records,hrecords,hbalanced,hdistinct⟩ := marked_distinct
    obtain ⟨hrendered,_⟩ := renderRecords_ok wholeText_some hrecords
    obtain ⟨resolved,unresolved,hresolved,hunresolved,hroom⟩ := hbalanced.anchors
    have hselection := (@select_iff noMessage 10 records _ (by decide) hrendered).mpr
      ⟨hdistinct,resolved,unresolved,hresolved,hunresolved,hroom,rfl⟩
    exact ⟨records,_,_,hrecords,hselection,fun outputRoot files =>
      marked_build hrecords hbalanced hselection outputRoot files⟩

def djangoRecords : List Json := [djangoRecord true,djangoRecord false]

theorem django_balanced : Balanced 0 djangoRecords := by
  have hlabel (label : Bool) : isResolved label (djangoRecord label) = true := decide_eq_true rfl
  have hall : ∀ P : Json → Prop, (∀ resolved, P (djangoRecord resolved)) → ∀ record ∈ djangoRecords, P record := by
    intro P h record hrecord
    rcases List.mem_pair.mp hrecord with rfl | rfl <;> exact h _
  refine ⟨rfl,fun label => ?_,hall _ fun resolved => django_train resolved,hall _ fun _ => rfl,hall _ fun _ => rfl⟩
  cases label
  · exact ⟨_,List.mem_cons_of_mem _ List.mem_cons_self,hlabel false⟩
  · exact ⟨_,List.mem_cons_self,hlabel true⟩

theorem fmean_zeros : ∃ mean, fmean [.int 0,.int 0] = .ok mean := by
  have hsome : (fmean [.int 0,.int 0]).toOption.isSome = true := by decide +kernel
  cases hmean : fmean [.int 0,.int 0] with
  | error error =>
    rw [hmean] at hsome
    cases hsome
  | ok mean => exact ⟨mean,rfl⟩

theorem select_rendered_django : ∃ selection, selectCompleteRecords noMessage 10 djangoRecords = .ok selection ∧
    CompleteSelection 10 djangoRecords selection ∧ selectCompleteRecords noMessage 10 djangoRecords.reverse = .ok selection ∧
      ∀ outputRoot files, ∃ published,
        buildContentAddressedShard djangoRuntime (outputRoot ++ "/shards") selection (some 10) files =
          .ok (publishedShard djangoInterpreter selection outputRoot,published) ∧
        published (plannedShardPaths djangoInterpreter selection outputRoot).1 = some (plannedPayload selection) := by
  obtain ⟨hrendered,hdistinct⟩ := renderRecords_ok wholeText_some django_records
  obtain ⟨resolved,unresolved,hresolved,hunresolved,hroom⟩ := django_balanced.anchors
  have hids : (djangoRecords.map recordIdOf).Nodup :=
    List.nodup_cons.mpr ⟨fun h => django_distinct (List.mem_singleton.mp h),List.nodup_singleton _⟩
  have hselection := (@select_iff noMessage 10 djangoRecords _ (by decide) hrendered).mpr
    ⟨hids,resolved,unresolved,hresolved,hunresolved,hroom,rfl⟩
  obtain ⟨hcomplete,hperm,hpublished⟩ := (select_rendered wholeText_some rfl rfl (by decide) django_records).1 _ hselection
  refine ⟨_,hselection,hcomplete,hperm _ (List.reverse_perm djangoRecords),fun outputRoot files => ?_⟩
  obtain ⟨published,hbuilt,hpayload⟩ := hpublished outputRoot files
  obtain ⟨mean,hmean⟩ := fmean_zeros
  rw [django_balanced.lengths_two hcomplete,hmean] at hbuilt
  exact ⟨published mean,hbuilt,hpayload mean⟩

end Runs

end PneumaLab.Preparation
