import Mathlib.Algebra.BigOperators.Group.List.Lemmas
import Mathlib.Data.List.Dedup
import PneumaLab.Traces.Rendering

namespace PneumaLab.Traces

open Foundation

section Fields
variable {v w : Json} {key : String} {items : List Json}

def itemsAt (v : Json) (key : String) : List Json :=
  match lookupField v key with
  | some (.arr items) => items
  | _ => []

theorem getField_ok {absent : Json} (h : getField v key absent = .ok w) :
    isMapping v = true ∧ w = (lookupField v key).getD absent := by
  cases v with
  | obj fields =>
    cases h
    exact ⟨rfl,rfl⟩
  | _ => cases h

theorem getField_obj (fields : List (String × Json)) (key : String) (absent : Json) :
    getField (.obj fields) key absent = .ok ((fields.lookup key).getD absent) := rfl

theorem listField_ok (h : listField v key = .ok items) :
    items = itemsAt v key ∨ (itemsAt v key = [] ∧ ∀ item ∈ items, ∃ text, item = .str text) := by
  rw [listField,bind_eq_ok] at h
  obtain ⟨value,hvalue,hitems⟩ := h
  obtain ⟨_,rfl⟩ := getField_ok hvalue
  rw [itemsAt]
  cases hlookup : lookupField v key with
  | none =>
    rw [hlookup] at hitems
    cases hitems
    exact .inl rfl
  | some value =>
    rw [hlookup,Option.getD_some,orElse] at hitems
    split at hitems
    · cases value with
      | arr values =>
        cases hitems
        exact .inl rfl
      | obj fields =>
        cases hitems
        refine .inr ⟨rfl,fun item hitem => ?_⟩
        obtain ⟨field,_,rfl⟩ := List.mem_map.mp hitem
        exact ⟨_,rfl⟩
      | str text =>
        cases hitems
        refine .inr ⟨rfl,fun item hitem => ?_⟩
        obtain ⟨c,_,rfl⟩ := List.mem_map.mp hitem
        exact ⟨_,rfl⟩
      | _ => cases hitems
    · next hfalsy =>
      cases hitems
      cases value with
      | arr values =>
        rw [truthy,Bool.not_eq_true,Bool.not_eq_false',List.isEmpty_iff] at hfalsy
        exact .inl hfalsy.symm
      | _ => exact .inl rfl

end Fields

section Calls
variable {python : Interpreter} {trace : Json} {frames : List Json} {names : List String}

def isAgentFrame (frame : Json) : Bool :=
  isMapping frame && decide (lookupField frame "frame_kind" = some (.str "agent_trace"))

def agentCalls (trace : Json) : List Json :=
  ((itemsAt trace "frames").filter isAgentFrame).flatMap fun frame => itemsAt frame "tool_calls"

theorem agentFrames_perm (h : agentFrames python trace = .ok frames) :
    frames.Perm ((itemsAt trace "frames").filter isAgentFrame) := by
  simp only [agentFrames,bind_eq_ok,mapM_eq_ok,pure,Except.pure,Except.ok.injEq] at h
  obtain ⟨listed,hlisted,keyed,hkeyed,rfl⟩ := h
  have hkept : listed.filter isAgentFrame = (itemsAt trace "frames").filter isAgentFrame := by
    rcases listField_ok hlisted with rfl | ⟨hnone,htexts⟩
    · rfl
    · rw [hnone,List.filter_nil,List.filter_eq_nil_iff]
      intro item hitem
      obtain ⟨text,rfl⟩ := htexts item hitem
      exact Bool.false_ne_true
  have hframes : keyed.map Prod.snd = listed.filter isAgentFrame := by
    rw [← List.forall₂_eq_eq_eq,List.forall₂_map_left_iff]
    refine hkeyed.flip.imp fun pair frame hpair => ?_
    obtain ⟨index,_,heq⟩ := hpair
    rw [← heq]
  rw [← hkept,← hframes]
  exact (List.mergeSort_perm keyed _).map Prod.snd

theorem toolName_text (text : String) (name : String) : toolName python (.str text) ≠ .ok name := by
  intro h
  cases h

theorem toolNames_ok (h : toolNames python frames = .ok names) :
    List.Forall₂ (fun call name => toolName python call = .ok name)
      (frames.flatMap fun frame => itemsAt frame "tool_calls") names := by
  simp only [toolNames,bind_eq_ok,mapM_eq_ok,pure,Except.pure,Except.ok.injEq] at h
  obtain ⟨rows,hrows,rfl⟩ := h
  induction hrows with
  | nil => exact .nil
  | cons hrow _ ih =>
    obtain ⟨calls,hcalls,hnames⟩ := hrow
    rw [List.flatMap_cons,List.flatten_cons]
    refine List.rel_append ?_ ih
    rcases listField_ok hcalls with rfl | ⟨hnone,htexts⟩
    · exact hnames
    · cases hnames with
      | nil =>
        rw [hnone]
        exact .nil
      | cons hname _ =>
        obtain ⟨text,rfl⟩ := htexts _ List.mem_cons_self
        exact absurd hname (toolName_text text _)

theorem toolNames_calls (hframes : agentFrames python trace = .ok frames) (hnames : toolNames python frames = .ok names) :
    names.length = (agentCalls trace).length ∧
      ∀ name, name ∈ names ↔ ∃ call ∈ agentCalls trace, toolName python call = .ok name := by
  have hcalls := toolNames_ok hnames
  have hperm := (agentFrames_perm hframes).flatMap_right fun frame => itemsAt frame "tool_calls"
  refine ⟨hcalls.length_eq.symm.trans hperm.length_eq,fun name => ?_⟩
  constructor
  · intro hname
    obtain ⟨call,hcall,hnamed⟩ := exists_right_of_forall₂ hcalls.flip hname
    exact ⟨call,hperm.mem_iff.mp hcall,hnamed⟩
  · rintro ⟨call,hcall,hnamed⟩
    obtain ⟨other,hother,hcalled⟩ := exists_right_of_forall₂ hcalls (hperm.mem_iff.mpr hcall)
    rw [hnamed] at hcalled
    cases hcalled
    exact hother

end Calls

section Counts
variable (names : List String)

theorem mem_sortedSet (name : String) : name ∈ sortedSet names ↔ name ∈ names := by
  rw [sortedSet,(List.mergeSort_perm _ _).mem_iff,List.mem_dedup]

theorem sortedSet_sorted : (sortedSet names).Pairwise (· < ·) := by
  have hnodup : (sortedSet names).Nodup := (List.mergeSort_perm _ _).nodup_iff.mpr (List.nodup_dedup names)
  have hsorted := @List.pairwise_mergeSort String (fun x y => decide (x ≤ y))
    (by intro a b c hab hbc; exact decide_eq_true ((of_decide_eq_true hab).trans (of_decide_eq_true hbc)))
    (by intro a b; simpa using le_total a b) names.dedup
  refine List.Pairwise.imp₂ ?_ hsorted hnodup
  intro a b hle hne
  exact lt_of_le_of_ne (of_decide_eq_true hle) hne

theorem toolCounts_names : (toolCounts names).map Prod.fst = sortedSet names := by
  rw [toolCounts,List.map_map]
  exact List.map_id _

theorem toolCounts_total : ((toolCounts names).map Prod.snd).sum = names.length := by
  rw [toolCounts,List.map_map]
  have hperm : ((sortedSet names).map fun name => names.count name).Perm (names.dedup.map fun name => names.count name) :=
    (List.mergeSort_perm _ _).map _
  exact hperm.sum_eq.trans (List.sum_map_count_dedup_eq_length names)

end Counts

section Prompt
variable {value : Json} {names : List String} {fields : List (String × Json)}

theorem renderNumericFields_lookup (h : renderNumericFields names value = .ok fields) (name : String) (feature : Json) :
    fields.lookup name = some feature ↔
      name ∈ names ∧ lookupField value name = some feature ∧ isSafeNumericFeature feature = .ok true := by
  simp only [renderNumericFields,bind_eq_ok,mapM_eq_ok,pure,Except.pure,Except.ok.injEq] at h
  obtain ⟨kept,hkept,rfl⟩ := h
  induction hkept with
  | nil => simp
  | @cons first piece rest pieces hpiece _ ih =>
    rw [List.flatten_cons,List.mem_cons]
    cases hfirst : lookupField value first with
    | none =>
      rw [hfirst] at hpiece
      cases hpiece
      rw [List.nil_append,ih]
      constructor
      · rintro ⟨hname,hrest⟩
        exact ⟨.inr hname,hrest⟩
      · rintro ⟨rfl | hname,hlookup,hsafe⟩
        · rw [hfirst] at hlookup
          cases hlookup
        · exact ⟨hname,hlookup,hsafe⟩
    | some held =>
      simp only [hfirst,bind_eq_ok] at hpiece
      obtain ⟨safe,hsafe,hpiece⟩ := hpiece
      cases hpiece
      by_cases heq : name = first
      · subst heq
        cases safe with
        | true =>
          simp only [if_true,List.cons_append,List.lookup_cons,beq_self_eq_true,hfirst,Option.some.injEq]
          constructor
          · rintro rfl
            exact ⟨.inl trivial,rfl,hsafe⟩
          · exact fun h => h.2.1
        | false =>
          simp only [Bool.false_eq_true,if_false,List.nil_append,ih,hfirst,Option.some.injEq]
          constructor
          · rintro ⟨hname,hrest⟩
            exact ⟨.inr hname,hrest⟩
          · rintro ⟨_,rfl,hsafe'⟩
            rw [hsafe] at hsafe'
            cases hsafe'
      · have hskip : (((if safe = true then [(first,held)] else []) ++ pieces.flatten).lookup name) =
            pieces.flatten.lookup name := by
          cases safe with
          | true =>
            have hne : (name == first) = false := by simpa using heq
            simp only [if_true,List.cons_append,List.nil_append,List.lookup_cons,hne]
          | false => rfl
        rw [hskip,ih]
        constructor
        · rintro ⟨hname,hrest⟩
          exact ⟨.inr hname,hrest⟩
        · rintro ⟨rfl | hname,hrest⟩
          · exact absurd rfl heq
          · exact ⟨hname,hrest⟩

theorem renderNumericFields_count (h : renderNumericFields names value = .ok fields) {name : String} (hname : name ∈ names)
    {count : ℕ} (hlookup : lookupField value name = some (.int count)) : fields.lookup name = some (.int count) := by
  rw [renderNumericFields_lookup h]
  refine ⟨hname,hlookup,?_⟩
  simp only [renderNumericFields,bind_eq_ok,mapM_eq_ok] at h
  obtain ⟨kept,hkept,_⟩ := h
  obtain ⟨piece,_,hpiece⟩ := exists_right_of_forall₂ hkept hname
  simp only [hlookup,bind_eq_ok] at hpiece
  obtain ⟨safe,hsafe,_⟩ := hpiece
  simp only [isSafeNumericFeature,bind_eq_ok,demand_eq_ok,pure,Except.pure] at hsafe ⊢
  obtain ⟨u,hlimit,_⟩ := hsafe
  exact ⟨u,hlimit,by simp⟩

theorem renderNumericFields_safe
    (h : ∀ name ∈ names, ∀ feature, lookupField value name = some feature → isSafeNumericFeature feature = .ok true) :
    renderNumericFields names value = .ok (names.filterMap fun name => (lookupField value name).map (Prod.mk name)) := by
  simp only [renderNumericFields,bind_eq_ok,mapM_eq_ok,pure,Except.pure,Except.ok.injEq]
  induction names with
  | nil => exact ⟨[],.nil,rfl⟩
  | cons name rest ih =>
    obtain ⟨hname,hrest⟩ := List.forall_mem_cons.mp h
    obtain ⟨kept,hkept,hflat⟩ := ih hrest
    cases hlookup : lookupField value name with
    | none => exact ⟨[] :: kept,.cons (by rw [hlookup]) hkept,by rw [List.filterMap_cons,hlookup]; exact hflat⟩
    | some feature =>
      refine ⟨[(name,feature)] :: kept,.cons ?_ hkept,?_⟩
      · rw [hlookup]
        dsimp only
        rw [hname feature hlookup]
        rfl
      · rw [List.filterMap_cons,hlookup,← hflat]
        rfl

theorem count_safe {n : ℕ} (h : n < 1000) : isSafeNumericFeature (.int n) = .ok true := by
  have hsmall : |(n : ℤ)| < floatLimit := by
    rw [abs_of_nonneg (Int.natCast_nonneg n)]
    exact (Int.ofNat_lt.mpr h).trans (by decide +kernel)
  rw [isSafeNumericFeature,decide_eq_true hsmall]
  simp [demand]

theorem renderTrajectoryPayload_lookup {payload : Json} (h : renderTrajectoryPayload value = .ok payload) {name : String}
    (hname : name ∈ trajectoryPromptFields) (feature : Json) :
    lookupField payload name = some feature ↔
      lookupField value name = some feature ∧ isSafeNumericFeature feature = .ok true := by
  rw [renderTrajectoryPayload] at h
  split at h
  · simp only [bind_eq_ok,pure,Except.pure,Except.ok.injEq] at h
    obtain ⟨fields,hfields,rfl⟩ := h
    have hother : name ≠ "timestamp_provenance" := by
      rintro rfl
      exact absurd hname (by decide)
    have hstamp : (if lookupField value "timestamp_provenance" = some (.str "synthetic-ordinal") then
        [("timestamp_provenance",Json.str "synthetic-ordinal")] else []).lookup name = none := by
      split
      · have hne : (name == "timestamp_provenance") = false := by simpa using hother
        rw [List.lookup_cons,hne]
        rfl
      · rfl
    rw [lookupField,List.lookup_append,hstamp,Option.or_none,renderNumericFields_lookup hfields]
    exact and_iff_right hname
  · next hmapping =>
    cases h
    cases value with
    | obj fields => exact absurd rfl hmapping
    | _ => simp [lookupField]

theorem renderObservableSummary_lookup {payload : Json} (h : renderObservableSummary value = .ok payload)
    (name : String) (feature : Json) :
    lookupField payload name = some feature ↔ name ∈ observableNumericPromptFields ∧
      lookupField value name = some feature ∧ isSafeNumericFeature feature = .ok true := by
  rw [renderObservableSummary] at h
  split at h
  · simp only [bind_eq_ok,pure,Except.pure,Except.ok.injEq] at h
    obtain ⟨fields,hfields,rfl⟩ := h
    exact renderNumericFields_lookup hfields name feature
  · next hmapping =>
    cases h
    cases value with
    | obj fields => exact absurd rfl hmapping
    | _ => simp [lookupField]

theorem renderObservableSummary_count {payload : Json} (h : renderObservableSummary value = .ok payload) {name : String}
    (hname : name ∈ observableNumericPromptFields) {count : ℕ} (hlookup : lookupField value name = some (.int count)) :
    lookupField payload name = some (.int count) := by
  rw [renderObservableSummary] at h
  split at h
  · simp only [bind_eq_ok,pure,Except.pure,Except.ok.injEq] at h
    obtain ⟨fields,hfields,rfl⟩ := h
    exact renderNumericFields_count hfields hname hlookup
  · next hmapping =>
    cases value with
    | obj fields => exact absurd rfl hmapping
    | _ => cases hlookup

theorem mapField_lookup {v w : Json} {key : String} (h : mapField v key = .ok w) (name : String) :
    lookupField w name = (lookupField v key).bind fun held => lookupField held name := by
  simp only [mapField,bind_eq_ok,pure,Except.pure,Except.ok.injEq] at h
  obtain ⟨held,hheld,rfl⟩ := h
  obtain ⟨_,rfl⟩ := getField_ok hheld
  rw [orElse]
  split
  · next htruthy =>
    cases hlookup : lookupField v key with
    | none =>
      rw [hlookup] at htruthy
      cases htruthy
    | some held => rfl
  · next hfalsy =>
    cases hlookup : lookupField v key with
    | none => rfl
    | some held =>
      rw [hlookup] at hfalsy
      cases held with
      | obj fields =>
        cases fields with
        | nil => rfl
        | cons field rest => exact absurd rfl hfalsy
      | _ => rfl

theorem mapField_obj {v : Json} {key : String} {field : String × Json} {rest : List (String × Json)}
    (h : lookupField v key = some (.obj (field :: rest))) : mapField v key = .ok (.obj (field :: rest)) := by
  cases v with
  | obj fields =>
    rw [lookupField] at h
    rw [mapField,getField_obj,h]
    rfl
  | _ => cases h

theorem renderPromptPayload_ok {example_ prompt input : Json} (h : renderPromptPayload example_ = .ok prompt)
    (hinput : mapField example_ "input" = .ok input) :
    ∃ trajectory summary, renderTrajectoryPayload ((lookupField input "trajectory").getD .null) = .ok trajectory ∧
      renderObservableSummary ((lookupField input "observable_summary").getD .null) = .ok summary ∧
      lookupField prompt "trajectory" = some trajectory ∧ lookupField prompt "observable_summary" = some summary := by
  rw [renderPromptPayload,hinput,ok_bind] at h
  simp only [bind_eq_ok,pure,Except.pure,Except.ok.injEq] at h
  obtain ⟨start,_,held,hheld,trajectory,htrajectory,kept,hkept,summary,hsummary,objective,_,refs,_,rfl⟩ := h
  obtain ⟨_,rfl⟩ := getField_ok hheld
  obtain ⟨_,rfl⟩ := getField_ok hkept
  exact ⟨trajectory,summary,htrajectory,hsummary,rfl,rfl⟩

end Prompt

section Observations
variable {python : Interpreter}

theorem foundationObservations_ok {example_ observations input : Json} {resolved : Bool}
    (h : foundationObservations python example_ resolved = .ok observations) (hinput : mapField example_ "input" = .ok input) :
    ∃ summary trajectory counts names length, mapField input "observable_summary" = .ok summary ∧
      mapField input "trajectory" = .ok trajectory ∧ mapField summary "tool_counts" = .ok counts ∧
      iterate counts = .ok names ∧ countField python trajectory "num_agent_steps" = .ok length ∧
      lookupField observations "tools" = some (.arr (((names.map (str python)).mergeSort fun x y => x ≤ y).map .str)) ∧
      lookupField observations "trajectory_length" = some (.int length) := by
  rw [foundationObservations,observedFields,hinput,ok_bind] at h
  simp only [bind_eq_ok,pure,Except.pure,Except.ok.injEq] at h
  obtain ⟨_,⟨summary,hsummary,trajectory,htrajectory,_,_,counts,hcounts,names,hnames,length,hlength,rfl⟩,rfl⟩ := h
  exact ⟨summary,trajectory,counts,names,length,hsummary,htrajectory,hcounts,hnames,hlength,rfl,rfl⟩

theorem renderFoundationRecord_ok {context : RenderContext} {example_ record : Json}
    (h : renderFoundationRecord python context example_ = .ok record) :
    ∃ parts, renderedParts python context example_ = .ok parts ∧ record = parts.record python context := by
  simp only [renderFoundationRecord,bind_eq_ok,pure,Except.pure,Except.ok.injEq] at h
  obtain ⟨parts,hparts,_,_,rfl⟩ := h
  exact ⟨parts,hparts,rfl⟩

theorem requiredNonemptyString_ok {v : Json} {field text : String} (h : requiredNonemptyString v field = .ok text) :
    v = .str text := by
  cases v with
  | str held =>
    simp only [requiredNonemptyString,bind_eq_ok,pure,Except.pure,Except.ok.injEq] at h
    obtain ⟨_,_,rfl⟩ := h
    rfl
  | _ => cases h

theorem validatedSourceRevision_ok {v w : Json} (h : validatedSourceRevision v = .ok w) : v = w := by
  simp only [validatedSourceRevision,bind_eq_ok,pure,Except.pure,Except.ok.injEq] at h
  exact h.choose_spec.2

theorem validatedTokenizerRevision_ok {revision text : String} (h : validatedTokenizerRevision revision = .ok text) :
    revision = text := by
  simp only [validatedTokenizerRevision,bind_eq_ok,pure,Except.pure,Except.ok.injEq] at h
  exact h.choose_spec.2

structure Renders (python : Interpreter) (context : RenderContext) (example_ : Json) (parts : RenderedParts) : Prop where
  resolved : validatedResolvedTarget example_ = .ok parts.resolved
  datasetFamily : getField example_ "dataset_family" .null = .ok (.str parts.datasetFamily)
  datasetId : getField example_ "dataset_id" .null = .ok (.str parts.datasetId)
  exampleId : getField example_ "example_id" .null = .ok (.str parts.exampleId)
  splitId : getField context.splitAssignment "split_id" .null = .ok (.str parts.splitId)
  sourceRevision : getField example_ "source_revision" .null = .ok parts.sourceRevision
  tokenizerRevision : context.tokenizerRevision = parts.tokenizerRevision
  prompt : renderPromptPayload example_ = .ok parts.prompt
  target : getField example_ "target" .null = .ok parts.target
  identity : foundationIdentity python example_ (compactText parts.prompt) = .ok parts.identity
  quarantineId : getField context.splitAssignment "quarantine_id" .null = .ok parts.quarantineId
  observations : foundationObservations python example_ parts.resolved = .ok parts.observations

theorem renderedParts_ok {context : RenderContext} {example_ : Json} {parts : RenderedParts}
    (h : renderedParts python context example_ = .ok parts) : Renders python context example_ parts := by
  simp only [renderedParts,bind_eq_ok,pure,Except.pure,Except.ok.injEq] at h
  obtain ⟨resolved,hresolved,familyValue,hfamilyValue,family,hfamily,idValue,hidValue,datasetId,hid,exampleValue,
    hexampleValue,exampleId,hexample,_,_,splitValue,hsplitValue,splitId,hsplit,revisionValue,hrevisionValue,revision,
    hrevision,tokenizer,htokenizer,prompt,hprompt,target,htarget,_,_,identity,hidentity,quarantine,hquarantine,
    observations,hobservations,rfl⟩ := h
  cases requiredNonemptyString_ok hfamily
  cases requiredNonemptyString_ok hid
  cases requiredNonemptyString_ok hexample
  cases requiredNonemptyString_ok hsplit
  cases validatedSourceRevision_ok hrevision
  exact {
    resolved := hresolved
    datasetFamily := hfamilyValue
    datasetId := hidValue
    exampleId := hexampleValue
    splitId := hsplitValue
    sourceRevision := hrevisionValue
    tokenizerRevision := validatedTokenizerRevision_ok htokenizer
    prompt := hprompt
    target := htarget
    identity := hidentity
    quarantineId := hquarantine
    observations := hobservations}

end Observations

end PneumaLab.Traces
