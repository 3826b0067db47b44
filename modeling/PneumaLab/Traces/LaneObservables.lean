import PneumaLab.Library.Keyed
import PneumaLab.Traces.Adapters
import PneumaLab.Traces.Observables

namespace PneumaLab.Traces

open Foundation

inductive Lane where
  | openHands
  | openSweTraces
  deriving DecidableEq, Repr

def Lane.convertTrace (lane : Lane) (python : Interpreter) (refs : ConversionRefs) (trace : Json) : Py Json :=
  match lane with
  | .openHands => OpenHands.convertTrace python refs trace
  | .openSweTraces => OpenSweTraces.convertTrace python refs trace

def Lane.inputPayload (lane : Lane) (python : Interpreter) (trace : Json) : Py Json :=
  match lane with
  | .openHands => OpenHands.inputPayload python trace
  | .openSweTraces => OpenSweTraces.inputPayload python trace

section Conversion
variable {python : Interpreter} {trace input : Json}

theorem input_read {shape : ExampleShape} {refs : ConversionRefs} {traceId sourceHash : String} {revision repo taskId : Json}
    {resolved : Bool} {field : String × Json} {rest : List (String × Json)} :
    mapField (exampleOf shape refs traceId sourceHash revision (.obj (field :: rest)) repo taskId resolved) "input" =
      .ok (.obj (field :: rest)) := mapField_obj rfl

theorem openHands_input (h : OpenHands.inputPayload python trace = .ok input) :
    ∃ frames summary trajectory stamp field rest, agentFrames python trace = .ok frames ∧
      observableSummary python frames = .ok summary ∧ mapField trace "trajectory" = .ok trajectory ∧
      input = .obj (field :: rest) ∧
      lookupField input "observable_summary" = some (.obj (summary.measures ++ summary.tools)) ∧
      lookupField input "trajectory" = some (.obj [
        ("num_agent_steps",(lookupField trajectory "num_agent_steps").getD (.int frames.length)),
        ("num_messages",(lookupField trajectory "num_messages").getD (.int 0)),
        ("timestamp_provenance",stamp)]) := by
  simp only [OpenHands.inputPayload,bind_eq_ok,pure,Except.pure,Except.ok.injEq] at h
  obtain ⟨frames,hframes,labels,_,provenance,_,trajectory,htrajectory,listed,_,world,_,objective,_,text,_,traceId,_,
    runId,_,taskId,_,repo,_,messages,hmessages,steps,hsteps,stamp,_,summary,hsummary,rfl⟩ := h
  obtain ⟨_,rfl⟩ := getField_ok hmessages
  obtain ⟨_,rfl⟩ := getField_ok hsteps
  exact ⟨frames,summary,trajectory,stamp,_,_,hframes,hsummary,htrajectory,rfl,rfl,rfl⟩

theorem openSweTraces_input (h : OpenSweTraces.inputPayload python trace = .ok input) :
    ∃ summary field rest, input = .obj (field :: rest) ∧
      lookupField input "observable_summary" = some (.obj (ObservableSummary.measures summary)) ∧
      lookupField input "trajectory" = none := by
  simp only [OpenSweTraces.inputPayload,bind_eq_ok,pure,Except.pure,Except.ok.injEq] at h
  obtain ⟨frames,_,labels,_,provenance,_,trajectory,_,summary,_,sourceGroup,_,revision,_,language,_,instanceId,_,repo,_,
    trajectoryId,_,license,_,messages,_,steps,_,objective,_,rfl⟩ := h
  exact ⟨summary,_,_,rfl,rfl,rfl⟩

theorem convertTrace_ok {lane : Lane} {refs : ConversionRefs} {example_ : Json}
    (h : lane.convertTrace python refs trace = .ok example_) :
    ∃ shape traceId sourceHash revision input repo taskId resolved, lane.inputPayload python trace = .ok input ∧
      example_ = exampleOf shape refs traceId sourceHash revision input repo taskId resolved := by
  cases lane with
  | openHands =>
    simp only [Lane.convertTrace,OpenHands.convertTrace,bind_eq_ok,pure,Except.pure,Except.ok.injEq] at h
    obtain ⟨resolved,_,traceId,_,labels,_,provenance,_,sourceHash,_,taskId,_,revision,_,input,hinput,repo,_,rfl⟩ := h
    exact ⟨_,_,_,_,input,_,_,_,hinput,rfl⟩
  | openSweTraces =>
    simp only [Lane.convertTrace,OpenSweTraces.convertTrace,bind_eq_ok,pure,Except.pure,Except.ok.injEq] at h
    obtain ⟨resolved,_,traceId,_,labels,_,provenance,_,sourceHash,_,input,hinput,_,_,revision,_,repo,_,taskId,_,rfl⟩ := h
    exact ⟨_,_,_,_,input,_,_,_,hinput,rfl⟩

theorem input_obj {lane : Lane} (h : lane.inputPayload python trace = .ok input) :
    ∃ field rest, input = .obj (field :: rest) := by
  cases lane with
  | openHands =>
    obtain ⟨_,_,_,_,field,rest,_,_,_,rfl,_⟩ := openHands_input h
    exact ⟨field,rest,rfl⟩
  | openSweTraces =>
    obtain ⟨_,field,rest,rfl,_⟩ := openSweTraces_input h
    exact ⟨field,rest,rfl⟩

end Conversion

section Numbers
variable {python : Interpreter}

def isWhole : Json → Bool
  | .int _ => true
  | .float text => decide ((floatValue text.toList).den = 1)
  | _ => false

theorem truncate_whole {q : ℚ} : (truncate q : ℚ) = q ↔ q.den = 1 := by
  constructor
  · intro h
    rw [← h]
    rfl
  · intro h
    have hwhole : q = (q.num : ℚ) := (Rat.coe_int_num_of_den_eq_one h).symm
    rw [hwhole,truncate]
    split
    · rw [Int.floor_intCast]
    · rw [Int.ceil_intCast]

theorem safe_count {v : Json} (hsafe : isSafeNumericFeature v = .ok true) {length : ℤ}
    (hcount : pyInt python (orElse v (.int 0)) = .ok length) : numberOf v = some (length : ℚ) ↔ isWhole v = true := by
  cases v with
  | int value =>
    have hvalue : value = length := by
      rw [orElse] at hcount
      split at hcount
      · exact Except.ok.inj hcount
      · next hzero =>
        rw [truthy,Bool.not_eq_true,decide_eq_false_iff_not,not_not] at hzero
        exact hzero.trans (Except.ok.inj hcount)
    simp [numberOf,isWhole,hvalue]
  | float text =>
    simp only [isSafeNumericFeature,Except.ok.injEq,Bool.and_eq_true,decide_eq_true_eq] at hsafe
    obtain ⟨hfinite,_⟩ := hsafe
    have hlength : truncate (floatValue text.toList) = length := by
      rw [orElse] at hcount
      split at hcount
      · rw [pyInt,if_neg fun he => hfinite (by rw [he]; decide),if_neg fun hmem => hfinite (List.mem_cons_of_mem _ hmem)]
          at hcount
        exact Except.ok.inj hcount
      · next hzero =>
        simp only [truthy,isZero,Bool.or_eq_true,decide_eq_true_eq,Bool.not_eq_true',decide_eq_false_iff_not,not_or,
          not_not] at hzero
        rw [hzero.2,← Except.ok.inj hcount]
        rfl
    rw [numberOf,if_neg hfinite,Option.some.injEq,isWhole,decide_eq_true_eq,← truncate_whole,hlength]
    exact eq_comm
  | _ => cases hsafe

end Numbers

section Carriage

def trajectoryField (trace : Json) (key : String) : Option Json :=
  (lookupField trace "trajectory").bind fun trajectory => lookupField trajectory key

def observed (record : Json) (key : String) : Option Json :=
  (lookupField record "observations").bind fun observations => lookupField observations key

def prompted (prompt : Json) (part key : String) : Option Json :=
  (lookupField prompt part).bind fun payload => lookupField payload key

structure Carries (python : Interpreter) (trace example_ record : Json) : Prop where
  length : ∃ steps length, trajectoryField trace "num_agent_steps" = some steps ∧
    observed record "trajectory_length" = some (.int length) ∧ numberOf steps = some (length : ℚ)
  tools : ∃ names : List String, observed record "tools" = some (.arr (names.map .str)) ∧ names.Pairwise (· < ·) ∧
    ∀ name, name ∈ names ↔ ∃ call ∈ agentCalls trace, toolName python call = .ok name
  prompt : ∃ prompt, renderPromptPayload example_ = .ok prompt ∧
    ((lookupField record "rendered").bind fun rendered => lookupField rendered "prompt_text") =
      some (.str (compactText prompt)) ∧
    (∃ steps, trajectoryField trace "num_agent_steps" = some steps ∧
      prompted prompt "trajectory" "num_agent_steps" = some steps) ∧
    (∃ messages, trajectoryField trace "num_messages" = some messages ∧
      prompted prompt "trajectory" "num_messages" = some messages) ∧
    prompted prompt "observable_summary" "tool_call_count" = some (.int (agentCalls trace).length)

structure Counted (trace : Json) : Prop where
  steps : ∃ steps, trajectoryField trace "num_agent_steps" = some steps ∧ isSafeNumericFeature steps = .ok true ∧
    isWhole steps = true
  messages : ∃ messages, trajectoryField trace "num_messages" = some messages ∧ isSafeNumericFeature messages = .ok true

end Carriage

section OpenHandsLane
variable {python : Interpreter} {trace input : Json} {frames : List Json} {summary : ObservableSummary}

theorem observableSummary_ok (h : observableSummary python frames = .ok summary) :
    ∃ names, toolNames python frames = .ok names ∧ summary.toolCounts = toolCounts names := by
  simp only [observableSummary,bind_eq_ok,pure,Except.pure,Except.ok.injEq] at h
  obtain ⟨names,hnames,retries,_,lengths,_,observations,_,retryMean,_,switches,_,density,_,mean,_,length,_,rfl⟩ := h
  exact ⟨names,hnames,rfl⟩

theorem summary_calls (hframes : agentFrames python trace = .ok frames) (h : observableSummary python frames = .ok summary) :
    summary.toolCallCount = (agentCalls trace).length ∧
      (summary.toolCounts.map Prod.fst).Pairwise (· < ·) ∧
      ∀ name, name ∈ summary.toolCounts.map Prod.fst ↔ ∃ call ∈ agentCalls trace, toolName python call = .ok name := by
  obtain ⟨names,hnames,hcounts⟩ := observableSummary_ok h
  obtain ⟨hlength,hmem⟩ := toolNames_calls hframes hnames
  rw [ObservableSummary.toolCallCount,hcounts,toolCounts_total,toolCounts_names]
  exact ⟨hlength,sortedSet_sorted names,fun name => (mem_sortedSet names name).trans (hmem name)⟩

theorem iterate_counts {fields : List (String × Json)} {counts : Json} {names : List Json} {summary : Json}
    (hheld : lookupField summary "tool_counts" = some (.obj fields)) (hcounts : mapField summary "tool_counts" = .ok counts)
    (hnames : iterate counts = .ok names) : names.map (str python) = fields.map Prod.fst := by
  have hobj : counts = .obj fields := by
    cases fields with
    | nil =>
      cases summary with
      | obj held =>
        rw [lookupField] at hheld
        rw [mapField,getField_obj,hheld] at hcounts
        exact (Except.ok.inj hcounts).symm
      | _ => cases hheld
    | cons field rest =>
      rw [mapField_obj hheld] at hcounts
      exact (Except.ok.inj hcounts).symm
  rw [hobj] at hnames
  rw [← Except.ok.inj hnames,List.map_map]
  rfl

theorem measures_lookup (summary : ObservableSummary) (rest : List (String × Json)) {key : String}
    (hkey : key ∈ ["tool_call_count","tool_counts"]) : (summary.measures ++ rest).lookup key = rest.lookup key := by
  have hnone : summary.measures.lookup key = none := by
    rcases List.mem_cons.mp hkey with rfl | hkey
    · rfl
    · rw [List.mem_singleton.mp hkey]
      rfl
  rw [List.lookup_append,hnone,Option.none_or]

theorem trajectory_prompt {steps messages stamp payload : Json}
    (h : renderTrajectoryPayload (.obj [("num_agent_steps",steps),("num_messages",messages),("timestamp_provenance",stamp)]) =
      .ok payload) :
    (∀ v, lookupField payload "num_agent_steps" = some v ↔ steps = v ∧ isSafeNumericFeature v = .ok true) ∧
      ∀ v, lookupField payload "num_messages" = some v ↔ messages = v ∧ isSafeNumericFeature v = .ok true := by
  constructor
  · intro v
    rw [renderTrajectoryPayload_lookup h (by decide) v]
    have hlookup : some steps = some v ↔ steps = v := Option.some_inj
    exact and_congr_left fun _ => hlookup
  · intro v
    rw [renderTrajectoryPayload_lookup h (by decide) v]
    have hlookup : some messages = some v ↔ messages = v := Option.some_inj
    exact and_congr_left fun _ => hlookup

end OpenHandsLane

section Statement
variable {python : Interpreter} {trace example_ record : Json} {refs : ConversionRefs} {context : RenderContext}

theorem rendered_input {lane : Lane} (hexample : lane.convertTrace python refs trace = .ok example_)
    (hrecord : renderFoundationRecord python context example_ = .ok record) :
    ∃ input parts, lane.inputPayload python trace = .ok input ∧ mapField example_ "input" = .ok input ∧
      Renders python context example_ parts ∧ record = parts.record python context := by
  obtain ⟨shape,traceId,sourceHash,revision,input,repo,taskId,resolved,hinput,rfl⟩ := convertTrace_ok hexample
  obtain ⟨field,rest,rfl⟩ := input_obj hinput
  obtain ⟨parts,hparts,hrecord⟩ := renderFoundationRecord_ok hrecord
  exact ⟨_,parts,hinput,input_read,renderedParts_ok hparts,hrecord⟩

theorem openSweTraces_blank (hexample : Lane.openSweTraces.convertTrace python refs trace = .ok example_)
    (hrecord : renderFoundationRecord python context example_ = .ok record) :
    observed record "trajectory_length" = some (.int 0) ∧ observed record "tools" = some (.arr []) ∧
      ∀ prompt, renderPromptPayload example_ = .ok prompt → lookupField prompt "trajectory" = some (.obj []) ∧
        prompted prompt "observable_summary" "tool_call_count" = none := by
  obtain ⟨input,parts,hpayload,hinput,hparts,rfl⟩ := rendered_input hexample hrecord
  obtain ⟨summary,field,rest,rfl,hsummary,htrajectory⟩ := openSweTraces_input hpayload
  obtain ⟨held,trajectory,counts,names,length,hheld,hmap,hcounts,hnames,hlength,htools,hobserved⟩ :=
    foundationObservations_ok hparts.observations hinput
  have hobj : mapField (.obj (field :: rest)) "trajectory" = .ok (.obj []) := by
    rw [lookupField] at htrajectory
    rw [mapField,getField_obj,htrajectory]
    rfl
  rw [hobj] at hmap
  cases hmap
  have hmeasures : held = .obj summary.measures := by
    have hread : mapField (.obj (field :: rest)) "observable_summary" = .ok (.obj summary.measures) := mapField_obj hsummary
    rw [hheld] at hread
    exact Except.ok.inj hread
  rw [hmeasures] at hcounts
  have hempty : counts = .obj [] := (Except.ok.inj hcounts).symm
  rw [hempty] at hnames
  cases hnames
  cases hlength
  rw [List.map_nil,List.map_nil,List.mergeSort_nil,List.map_nil] at htools
  refine ⟨hobserved,htools,fun prompt hprompt => ?_⟩
  obtain ⟨payload,kept,hpayload,hkept,hfirst,hsecond⟩ := renderPromptPayload_ok hprompt hinput
  rw [htrajectory] at hpayload
  rw [hsummary] at hkept
  cases hpayload
  refine ⟨hfirst,?_⟩
  rw [prompted,hsecond,Option.bind_some,Option.eq_none_iff_forall_ne_some]
  intro v hv
  obtain ⟨_,hlookup,_⟩ := (renderObservableSummary_lookup hkept _ v).mp hv
  have hnone : lookupField (.obj summary.measures) "tool_call_count" = none := rfl
  rw [Option.getD_some,hnone] at hlookup
  cases hlookup

theorem openHands_tools {input : Json} {parts : RenderedParts} {summary : ObservableSummary}
    (hparts : Renders python context example_ parts) (hinput : mapField example_ "input" = .ok input)
    (hobservable : lookupField input "observable_summary" = some (.obj (summary.measures ++ summary.tools)))
    (hsorted : (summary.toolCounts.map Prod.fst).Pairwise (· < ·)) :
    lookupField parts.observations "tools" = some (.arr ((summary.toolCounts.map Prod.fst).map .str)) ∧
      prompted parts.prompt "observable_summary" "tool_call_count" = some (.int summary.toolCallCount) := by
  have hread : mapField input "observable_summary" = .ok (.obj (summary.measures ++ summary.tools)) :=
    mapField_obj hobservable
  constructor
  · obtain ⟨held,_,counts,names,_,hheld,_,hcounts,hnames,_,htools,_⟩ := foundationObservations_ok hparts.observations hinput
    rw [hread] at hheld
    cases hheld
    have hheldCounts : lookupField (.obj (summary.measures ++ summary.tools)) "tool_counts" = some summary.countsJson :=
      (@measures_lookup summary summary.tools "tool_counts" (by decide)).trans rfl
    have hpairwise : (summary.toolCounts.map Prod.fst).Pairwise fun x y => decide (x ≤ y) = true :=
      hsorted.imp fun hlt => decide_eq_true hlt.le
    have hfirst : (Prod.fst ∘ fun entry : String × ℕ => (entry.1,Json.int entry.2)) = Prod.fst := rfl
    rw [iterate_counts hheldCounts hcounts hnames,List.map_map,hfirst,List.mergeSort_of_pairwise hpairwise] at htools
    exact htools
  · obtain ⟨_,observable,_,hkept,_,hsecond⟩ := renderPromptPayload_ok hparts.prompt hinput
    rw [hobservable] at hkept
    have hheldCalls : lookupField (.obj (summary.measures ++ summary.tools)) "tool_call_count" =
        some (.int summary.toolCallCount) := (@measures_lookup summary summary.tools "tool_call_count" (by decide)).trans rfl
    rw [prompted,hsecond,Option.bind_some]
    exact renderObservableSummary_count hkept (by decide) hheldCalls

theorem openHands_trajectory {input steps messages stamp : Json} {parts : RenderedParts}
    (hparts : Renders python context example_ parts) (hinput : mapField example_ "input" = .ok input)
    (htrajectory : lookupField input "trajectory" =
      some (.obj [("num_agent_steps",steps),("num_messages",messages),("timestamp_provenance",stamp)])) :
    ∃ length, lookupField parts.observations "trajectory_length" = some (.int length) ∧
      pyInt python (orElse steps (.int 0)) = .ok length ∧
      (∀ v, prompted parts.prompt "trajectory" "num_agent_steps" = some v ↔ steps = v ∧ isSafeNumericFeature v = .ok true) ∧
      ∀ v, prompted parts.prompt "trajectory" "num_messages" = some v ↔ messages = v ∧ isSafeNumericFeature v = .ok true := by
  obtain ⟨_,kept,_,_,length,_,hkept,_,_,hlength,_,hobserved⟩ := foundationObservations_ok hparts.observations hinput
  rw [mapField_obj htrajectory] at hkept
  cases hkept
  obtain ⟨payload,_,hrendered,_,hfirst,_⟩ := renderPromptPayload_ok hparts.prompt hinput
  rw [htrajectory] at hrendered
  have hprompted (key : String) : prompted parts.prompt "trajectory" key = lookupField payload key := by
    rw [prompted,hfirst,Option.bind_some]
  refine ⟨length,hobserved,hlength,?_,?_⟩
  · rw [hprompted]
    exact (trajectory_prompt hrendered).1
  · rw [hprompted]
    exact (trajectory_prompt hrendered).2

theorem openHands_carries_iff (hexample : Lane.openHands.convertTrace python refs trace = .ok example_)
    (hrecord : renderFoundationRecord python context example_ = .ok record) :
    Carries python trace example_ record ↔ Counted trace := by
  obtain ⟨input,parts,hpayload,hinput,hparts,rfl⟩ := rendered_input hexample hrecord
  obtain ⟨frames,summary,trajectory,stamp,field,rest,hframes,hsummary,hmapped,rfl,hobservable,htrajectory⟩ :=
    openHands_input hpayload
  obtain ⟨hcalls,hsorted,hnamed⟩ := summary_calls hframes hsummary
  obtain ⟨htools,hcallCount⟩ := openHands_tools hparts hinput hobservable hsorted
  obtain ⟨length,hobserved,hcount,hsteps,hmessages⟩ := openHands_trajectory hparts hinput htrajectory
  rw [hcalls] at hcallCount
  have hfield (key : String) : trajectoryField trace key = lookupField trajectory key := (mapField_lookup hmapped key).symm
  constructor
  · rintro ⟨⟨steps,counted,hstepsField,hcounted,hnumber⟩,_,prompt,hprompt,_,⟨steps',hstepsField',hpromptSteps⟩,
      ⟨messages,hmessagesField,hpromptMessages⟩,_⟩
    rw [hparts.prompt] at hprompt
    cases hprompt
    rw [hstepsField] at hstepsField'
    cases hstepsField'
    have hheldLength : observed (parts.record python context) "trajectory_length" = some (.int length) := hobserved
    rw [hcounted] at hheldLength
    cases hheldLength
    obtain ⟨hheldSteps,hsafe⟩ := (hsteps steps).mp hpromptSteps
    rw [hheldSteps] at hcount
    exact ⟨⟨steps,hstepsField,hsafe,(safe_count hsafe hcount).mp hnumber⟩,
      messages,hmessagesField,((hmessages messages).mp hpromptMessages).2⟩
  · rintro ⟨⟨steps,hstepsField,hsafe,hwhole⟩,messages,hmessagesField,hsafeMessages⟩
    have hstepsHeld : (lookupField trajectory "num_agent_steps").getD (.int frames.length) = steps := by
      rw [← hfield,hstepsField]
      rfl
    have hmessagesHeld : (lookupField trajectory "num_messages").getD (.int 0) = messages := by
      rw [← hfield,hmessagesField]
      rfl
    rw [hstepsHeld] at hcount
    exact ⟨⟨steps,length,hstepsField,hobserved,(safe_count hsafe hcount).mpr hwhole⟩,⟨_,htools,hsorted,hnamed⟩,
      parts.prompt,hparts.prompt,rfl,⟨steps,hstepsField,(hsteps steps).mpr ⟨hstepsHeld,hsafe⟩⟩,
      ⟨messages,hmessagesField,(hmessages messages).mpr ⟨hmessagesHeld,hsafeMessages⟩⟩,hcallCount⟩

theorem carries_iff {lane : Lane} (hexample : lane.convertTrace python refs trace = .ok example_)
    (hrecord : renderFoundationRecord python context example_ = .ok record) :
    Carries python trace example_ record ↔ lane = .openHands ∧ Counted trace := by
  cases lane with
  | openHands => rw [openHands_carries_iff hexample hrecord,and_iff_right rfl]
  | openSweTraces =>
    obtain ⟨_,_,hblank⟩ := openSweTraces_blank hexample hrecord
    constructor
    · rintro ⟨_,_,prompt,hprompt,_,_,_,hcalls⟩
      rw [(hblank prompt hprompt).2] at hcalls
      cases hcalls
    · rintro ⟨hlane,_⟩
      cases hlane

end Statement

section Sample

theorem zeros_size : (List.replicate 32 (0 : UInt8)).length = 32 := rfl

def sampleInterpreter : Interpreter where
  sha256 _ := ⟨List.replicate 32 0,zeros_size⟩
  blake2b count _ := List.replicate count 0
  strOf _ := ""
  intOf _ := none
  quotient total _ := if total = 0 then some "0.0" else some "1.0"
  loads _ := none
  lower := id
  casefold := id
  strip := id
  isDecimal := Char.isDigit

def sampleRefs : ConversionRefs := ⟨"reports/adapter_report.json",none,none⟩

def sampleRecording : Recording where
  errorMarker _ := false
  redactText text := (text,[])
  syntheticTimestamp _ := "1970-01-01T00:00:00+00:00"

def sampleOrigin : Origin := ⟨OpenSweTraces.sourceRevision,"shard-0.parquet",0,"qwen35_openhands_trajectories"⟩

def sampleRow (verdict : ℤ) : Fields := [
  ("instance_id",.str "a__b-1"),
  ("language",.str "python"),
  ("metadata",.obj []),
  ("repo",.str "a/b"),
  ("resolved",.int verdict),
  ("trajectory",.arr [
    .obj [("content",.str "fix"),("role",.str "user")],
    .obj [
      ("content",.str "done"),
      ("role",.str "assistant"),
      ("tool_calls",.arr [.obj [("function",.obj [("arguments",.str "ls"),("name",.str "bash")])]])]]),
  ("trajectory_id",.str "t")]

def sampleFrame : Json := .obj [
  ("assistant_text_length",.int 4),
  ("assistant_text_sha256",.str (sha256Hex sampleInterpreter "done")),
  ("frame_kind",.str "agent_trace"),
  ("observations",.arr []),
  ("phase",.str "execution"),
  ("retry_count",.int 0),
  ("run_id",.str (deriveIds sampleInterpreter "open-swe-traces" "a__b-1::t" sampleOrigin.hfRevision).runId),
  ("schema_version",.str "0.1.0"),
  ("selected_action",.obj [("description",.str "bash"),("kind",.str "tool_call")]),
  ("step_index",.int 0),
  ("strategy_switches",.int 0),
  ("timestamp",.str "1970-01-01T00:00:00+00:00"),
  ("timestamp_provenance",.str "synthetic-ordinal"),
  ("tool_calls",.arr [.obj [
    ("args_digest",.str (sha256Hex sampleInterpreter "ls")),("args_length",.int 2),("tool",.str "bash")]])]

def sampleRecorded : OpenSweTraces.Recorded where
  ids := deriveIds sampleInterpreter "open-swe-traces" "a__b-1::t" sampleOrigin.hfRevision
  sourceId := "a__b-1::t"
  trajectoryId := .str "t"
  extraction := ⟨[sampleFrame],2,1,"fix"⟩
  repoDigest := OpenSweTraces.digest sampleInterpreter "a/b"
  instanceDigest := OpenSweTraces.digest sampleInterpreter "a__b-1"
  trajectoryDigest := OpenSweTraces.digest sampleInterpreter "t"
  license := .null
  language := .str "python"

theorem sample_recorded (verdict : ℤ) :
    OpenSweTraces.recordedOf sampleInterpreter sampleRecording sampleOrigin (sampleRow verdict) (.str "a__b-1") (.str "t") =
      .ok sampleRecorded := rfl

def sampleSupervision : Json :=
  let stats : Json := .obj [
    ("length",.int 0),("num_modified_files",.int 0),("num_modified_lines",.int 0),
    ("sha256",.str (OpenSweTraces.digest sampleInterpreter ""))]
  .obj [("model_patch",stats),("reference_patch",stats)]

def sampleTrace (resolved : Bool) : Json :=
  sealTrace sampleInterpreter
    (OpenSweTraces.traceFields sampleInterpreter sampleRecording sampleOrigin sampleRecorded resolved false sampleSupervision)

theorem sample_built (resolved : Bool) : OpenSweTraces.buildTrace sampleInterpreter sampleRecording sampleOrigin
    (sampleRow (if resolved then 1 else 0)) = .ok (sampleTrace resolved) := by
  have hverdict : OpenSweTraces.resolvedToBool sampleInterpreter (.int (if resolved then 1 else 0)) = .ok resolved := by
    cases resolved <;> simp [OpenSweTraces.resolvedToBool,numberOf]
  have hheld : getField (.obj (sampleRow (if resolved then 1 else 0))) "resolved" .null =
    .ok (.int (if resolved then 1 else 0)) := rfl
  have hids : OpenSweTraces.identifiersOf (sampleRow (if resolved then 1 else 0)) = .ok (.str "a__b-1",.str "t") := rfl
  rw [OpenSweTraces.buildTrace,hids,ok_bind]
  dsimp only
  rw [hheld,ok_bind,hverdict,ok_bind,sample_recorded,ok_bind]
  rfl

def sampleSummary : ObservableSummary where
  toolCounts := [("bash",1)]
  retries := [0]
  assistantLengths := [4]
  observations := []
  strategySwitches := 0
  retryMean := .float "0.0"
  errorDensity := .float "0.0"
  assistantMean := .float "1.0"
  observationMean := .float "0.0"

def sampleInput : Json := .obj [
  ("dataset",.obj [
    ("dataset_family",.str "open-swe-traces"),
    ("dataset_id",.str "open-swe-traces"),
    ("hf_revision",.str OpenSweTraces.sourceRevision),
    ("source_group",.str "qwen35_openhands_trajectories")]),
  ("feature_refs",featureRefs OpenSweTraces.converterVersion),
  ("language",.str "python"),
  ("objective",.obj [
    ("mode",.str "digest_only"),("present",.bool true),("text_length",.int 3),
    ("text_sha256",.str (OpenSweTraces.digest sampleInterpreter "fix"))]),
  ("observable_summary",.obj sampleSummary.measures),
  ("source",.obj [
    ("instance_id_digest",.str sampleRecorded.instanceDigest),
    ("license",.null),
    ("repo_digest",.str sampleRecorded.repoDigest),
    ("trajectory_id_digest",.str sampleRecorded.trajectoryDigest)]),
  ("tool_summary",.obj sampleSummary.tools),
  ("trajectory_summary",.obj [("num_agent_steps",.int 1),("num_messages",.int 2)])]

theorem sample_frames (resolved : Bool) : agentFrames sampleInterpreter (sampleTrace resolved) = .ok [sampleFrame] := by
  have hlisted : listField (sampleTrace resolved) "frames" = .ok (itemsAt (sampleTrace resolved) "frames") := rfl
  rw [agentFrames,hlisted,ok_bind]
  exact congrArg Except.ok (congrArg (List.map Prod.snd) (List.mergeSort_singleton (0,sampleFrame)))

theorem sample_summary : observableSummary sampleInterpreter [sampleFrame] = .ok sampleSummary := by
  have hnames : toolNames sampleInterpreter [sampleFrame] = .ok ["bash"] := rfl
  have hcounts : toolCounts ["bash"] = [("bash",1)] := by
    rw [toolCounts,sortedSet]
    exact congrArg (List.map fun name => (name,List.count name ["bash"])) (List.mergeSort_singleton "bash")
  rw [observableSummary,hnames,ok_bind,hcounts]
  rfl

theorem sample_input (resolved : Bool) : OpenSweTraces.inputPayload sampleInterpreter (sampleTrace resolved) = .ok sampleInput := by
  have hlabels : mapField (sampleTrace resolved) "labels" = .ok ((lookupField (sampleTrace resolved) "labels").getD .null) := rfl
  have hprovenance : mapField (sampleTrace resolved) "provenance" =
    .ok ((lookupField (sampleTrace resolved) "provenance").getD .null) := rfl
  have htrajectory : mapField (sampleTrace resolved) "trajectory" =
    .ok ((lookupField (sampleTrace resolved) "trajectory").getD .null) := rfl
  rw [OpenSweTraces.inputPayload,sample_frames,ok_bind,hlabels,ok_bind,hprovenance,ok_bind,htrajectory,ok_bind,sample_summary,
    ok_bind]
  rfl

def sampleHash : String := blakeHex sampleInterpreter 32 ""

def sampleExample (resolved : Bool) : Json :=
  exampleOf (OpenSweTraces.shape sampleRefs) sampleRefs sampleRecorded.ids.traceId sampleHash
    (.str OpenSweTraces.sourceRevision) sampleInput (.str sampleRecorded.repoDigest) (.str sampleRecorded.instanceDigest)
    resolved

theorem sample_leakage : Governance.checkExampleInputLeakage sampleInterpreter taskType sampleInput = [] := by
  have hheld : orElse sampleInput (.obj []) = sampleInput := rfl
  rw [Governance.checkExampleInputLeakage,List.map_eq_nil_iff,List.filter_eq_nil_iff,List.forall_mem_map,hheld,sampleInput]
  -- Each leaf path is checked on its own.
  simp only [Governance.iterLeafPaths,Governance.leafPathsOfFields,ObservableSummary.measures,List.forall_mem_append]
  and_intros <;> decide +kernel

theorem sample_example (resolved : Bool) :
    Lane.openSweTraces.convertTrace sampleInterpreter sampleRefs (sampleTrace resolved) = .ok (sampleExample resolved) := by
  have hresolved : OpenSweTraces.resolvedOf (sampleTrace resolved) = .ok resolved := by
    cases resolved <;> rfl
  have htraceId : traceIdOf sampleInterpreter (sampleTrace resolved) = .ok sampleRecorded.ids.traceId := rfl
  have hlabels : mapField (sampleTrace resolved) "labels" = .ok ((lookupField (sampleTrace resolved) "labels").getD .null) := rfl
  have hprovenance : mapField (sampleTrace resolved) "provenance" =
    .ok ((lookupField (sampleTrace resolved) "provenance").getD .null) := rfl
  have hhash : sourceHashOf sampleInterpreter (sampleTrace resolved) sampleRecorded.ids.traceId = .ok sampleHash := rfl
  rw [Lane.convertTrace,OpenSweTraces.convertTrace,hresolved,ok_bind,htraceId,ok_bind,hlabels,ok_bind,hprovenance,ok_bind,
    hhash,ok_bind,sample_input,ok_bind]
  dsimp only
  rw [sample_leakage]
  rfl

def sampleContext : RenderContext where
  laneDisposition := ⟨.train,.firstStage,"cc-by-4.0","public","reviewed","none"⟩
  splitAssignment := .obj [("split_id",.str "train")]
  encode text := text.toList.map Char.toNat
  tokenizerRevision := "0123456789012345678901234567890123456789"
  sourceReceiptHashes := []
  schemaMessage _ := ""

def sampleParts (resolved : Bool) : RenderedParts where
  resolved
  datasetFamily := "open-swe-traces"
  datasetId := "open-swe-traces"
  exampleId := "pte:open-swe-traces:" ++ sampleHash ++ ":risk:full"
  splitId := "train"
  sourceRevision := .str OpenSweTraces.sourceRevision
  tokenizerRevision := sampleContext.tokenizerRevision
  prompt := .obj [
    ("feature_refs",.arr [.str "open-swe-traces-training/0.1.0",.str "pneuma-estimators-features/0.1.0"]),
    ("objective",.obj [("present",.bool true),("text_length",.int 3)]),
    ("observable_summary",.obj sampleSummary.measures),
    ("prefix",.null),
    ("trajectory",.obj [])]
  target := .obj [("resolved",.bool resolved)]
  identity := .obj [
    ("base_commit",.null),
    ("fuzzy_text_sha256",.str (digestText sampleInterpreter (OpenSweTraces.digest sampleInterpreter "fix"))),
    ("issue_or_pr",.str sampleRecorded.instanceDigest),
    ("patch_sha256",.null),
    ("repo",.str sampleRecorded.repoDigest),
    ("task_id",.str sampleRecorded.instanceDigest),
    ("test_patch_sha256",.null)]
  quarantineId := .null
  observations := .obj [
    ("labels",.obj [("resolved",.bool resolved)]),
    ("language",.str "python"),
    ("tools",.arr []),
    ("trajectory_length",.int 0)]

theorem sample_refs : renderFeatureRefs (featureRefs OpenSweTraces.converterVersion) =
    .arr [.str "open-swe-traces-training/0.1.0",.str "pneuma-estimators-features/0.1.0"] := by
  have hsorted : ["pneuma-estimators-features/0.1.0","open-swe-traces-training/0.1.0"].mergeSort (fun x y => x ≤ y) =
      ["open-swe-traces-training/0.1.0","pneuma-estimators-features/0.1.0"] := by
    simp [List.mergeSort]
  exact congrArg (fun names => Json.arr (names.map .str)) hsorted

theorem sample_features : ∀ field ∈ sampleSummary.measures, isSafeNumericFeature field.2 = .ok true := by
  simp only [ObservableSummary.measures,List.forall_mem_cons]
  have hzero : isSafeNumericFeature (.float "0.0") = .ok true := congrArg Except.ok (by decide +kernel)
  have hone : isSafeNumericFeature (.float "1.0") = .ok true := congrArg Except.ok (by decide +kernel)
  have hnone : isSafeNumericFeature (.int 0) = .ok true := count_safe (n := 0) (by decide)
  exact ⟨count_safe (n := 4) (by decide),hone,hzero,hnone,hnone,hnone,hzero,hnone,hzero,hnone,hnone,List.forall_mem_nil _⟩

theorem sample_observable : renderObservableSummary (.obj sampleSummary.measures) = .ok (.obj sampleSummary.measures) := by
  have hfields : renderNumericFields observableNumericPromptFields (.obj sampleSummary.measures) = .ok sampleSummary.measures := by
    rw [renderNumericFields_safe]
    · rfl
    · intro name _ feature hlookup
      exact sample_features _ (mem_of_lookup hlookup)
  rw [renderObservableSummary,hfields]
  rfl

theorem sample_prompt (resolved : Bool) : renderPromptPayload (sampleExample resolved) = .ok (sampleParts resolved).prompt := by
  have hinput : mapField (sampleExample resolved) "input" = .ok sampleInput := input_read
  have hsummary : getField sampleInput "observable_summary" .null = .ok (.obj sampleSummary.measures) := rfl
  have hrefs : getField sampleInput "feature_refs" .null = .ok (featureRefs OpenSweTraces.converterVersion) := rfl
  have hstart : getField sampleInput "prefix" .null = .ok .null := rfl
  have htrajectory : getField sampleInput "trajectory" .null = .ok .null := rfl
  have hobjective : renderObjectivePayload (lookupField sampleInput "objective") =
    .ok (.obj [("present",.bool true),("text_length",.int 3)]) := rfl
  rw [renderPromptPayload,hinput,ok_bind,hstart,ok_bind,htrajectory,ok_bind,hsummary,hrefs,hobjective]
  simp only [ok_bind,sample_observable,sample_refs]
  rfl

theorem sample_identity (resolved : Bool) : foundationIdentity sampleInterpreter (sampleExample resolved) (compactText (sampleParts resolved).prompt) =
    .ok (sampleParts resolved).identity := by
  rfl

theorem sample_observations (resolved : Bool) : foundationObservations sampleInterpreter (sampleExample resolved) resolved = .ok (sampleParts resolved).observations := by
  have hinput : mapField (sampleExample resolved) "input" = .ok sampleInput := input_read
  have hsummary : mapField sampleInput "observable_summary" = .ok (.obj sampleSummary.measures) := rfl
  have htrajectory : mapField sampleInput "trajectory" = .ok (.obj []) := rfl
  have hcounts : mapField (.obj sampleSummary.measures) "tool_counts" = .ok (.obj []) := rfl
  have hlanguage : getField sampleInput "language" .null = .ok (.str "python") := rfl
  have hnames : iterate (.obj []) = .ok [] := rfl
  have hlength : countField sampleInterpreter (.obj []) "num_agent_steps" = .ok 0 := rfl
  rw [foundationObservations,observedFields,hinput,ok_bind,hsummary,ok_bind,htrajectory,ok_bind,hlanguage,ok_bind,hcounts,ok_bind,hnames,
    ok_bind,hlength,ok_bind,List.map_nil,List.mergeSort_nil]
  rfl

theorem sample_parts (resolved : Bool) : renderedParts sampleInterpreter sampleContext (sampleExample resolved) = .ok (sampleParts resolved) := by
  have hresolved : validatedResolvedTarget (sampleExample resolved) = .ok resolved := rfl
  have hfamily : getField (sampleExample resolved) "dataset_family" .null = .ok (.str (sampleParts resolved).datasetFamily) := rfl
  have hdataset : getField (sampleExample resolved) "dataset_id" .null = .ok (.str (sampleParts resolved).datasetId) := rfl
  have hexample : getField (sampleExample resolved) "example_id" .null = .ok (.str (sampleParts resolved).exampleId) := rfl
  have hrevision : getField (sampleExample resolved) "source_revision" .null = .ok (sampleParts resolved).sourceRevision := rfl
  have htarget : getField (sampleExample resolved) "target" .null = .ok (sampleParts resolved).target := rfl
  have hfamilyText : requiredNonemptyString (.str (sampleParts resolved).datasetFamily) "dataset_family" = .ok (sampleParts resolved).datasetFamily := rfl
  have hdatasetText : requiredNonemptyString (.str (sampleParts resolved).datasetId) "dataset_id" = .ok (sampleParts resolved).datasetId := rfl
  have hexampleText : requiredNonemptyString (.str (sampleParts resolved).exampleId) "example_id" = .ok (sampleParts resolved).exampleId := rfl
  rw [renderedParts,hresolved,ok_bind,hfamily,ok_bind,hfamilyText,ok_bind,hdataset,ok_bind,hdatasetText,ok_bind,hexample,
    ok_bind,hexampleText,ok_bind,hrevision,sample_prompt,htarget]
  simp only [ok_bind,sample_identity,sample_observations]
  rfl

theorem closedObject_iff {properties : List (String × (Json → Bool))} {fields : Fields} :
    closedObject properties (.obj fields) = true ↔ (∀ property ∈ properties, (fields.lookup property.1).any property.2 = true) ∧
      (fields.all fun field => decide (field.1 ∈ properties.map Prod.fst)) = true := by
  rw [closedObject,Bool.and_eq_true,List.all_eq_true]

theorem isPattern_hex (start : String) (digest : Digest) : isPattern start 64 (.str (start ++ digest.hex)) = true := by
  obtain ⟨hlength,hdigits⟩ := Bool.and_eq_true_iff.mp digest.isSha256_hex
  have htext : (start ++ digest.hex).toList = start.toList ++ digest.hex.toList := String.toList_append
  have hhex : isHex start 64 (start ++ digest.hex).toList = true := by
    rw [isHex,htext,List.take_left,List.drop_left,Bool.and_eq_true,Bool.and_eq_true]
    exact ⟨⟨decide_eq_true (Eq.refl start.toList),hlength⟩,hdigits⟩
  rw [isPattern,hhex,Bool.true_or]

theorem any_of_eq {held : Option Json} {v : Json} {check : Json → Bool} (hheld : held = some v) (h : check v = true) :
    held.any check = true := by
  rw [hheld]
  exact h

theorem orNull_str (check : Json → Bool) (text : String) : orNull check (.str text) = check (.str text) := rfl

theorem isCount_nat (n : ℕ) : isCount (.int n) = true := decide_eq_true (Int.natCast_nonneg n)

theorem tokenization_conforms {revision : String} (h : isPattern "" 40 (.str revision) = true) (promptTokens targetTokens : ℕ) :
    closedObject [("tokenizer_id",oneOf [.str "Qwen/Qwen3.5-2B"]),("tokenizer_revision",isPattern "" 40),
      ("prompt_tokens",isCount),("target_tokens",isCount),("total_tokens",isCount)] (.obj [
        ("prompt_tokens",.int promptTokens),
        ("target_tokens",.int targetTokens),
        ("tokenizer_id",.str "Qwen/Qwen3.5-2B"),
        ("tokenizer_revision",.str revision),
        ("total_tokens",.int (promptTokens + targetTokens))]) = true := by
  rw [closedObject_iff]
  refine ⟨?_,by simp⟩
  simp only [List.forall_mem_cons,List.not_mem_nil,IsEmpty.forall_iff,implies_true,and_true]
  exact ⟨rfl,any_of_eq rfl h,any_of_eq rfl (isCount_nat _),any_of_eq rfl (isCount_nat _),
    any_of_eq rfl (isCount_nat (promptTokens + targetTokens))⟩

theorem sample_valid (resolved : Bool) : ((sampleParts resolved).record sampleInterpreter sampleContext).finite = true ∧
    conformsRecord ((sampleParts resolved).record sampleInterpreter sampleContext) = true := by
  have hrevision : isPattern "" 40 (.str sampleContext.tokenizerRevision) = true := by decide
  refine ⟨by cases resolved <;> decide +kernel,?_⟩
  rw [conformsRecord,RenderedParts.record,closedObject_iff]
  refine ⟨?_,by cases resolved <;> decide⟩
  simp only [List.forall_mem_cons,List.not_mem_nil,IsEmpty.forall_iff,implies_true,and_true]
  refine ⟨rfl,rfl,any_of_eq rfl (isPattern_hex _ _),?_,?_,?_,?_,?_,any_of_eq rfl (tokenization_conforms hrevision _ _),?_⟩
  all_goals cases resolved <;> decide +kernel

theorem sample_record (resolved : Bool) : renderFoundationRecord sampleInterpreter sampleContext (sampleExample resolved) =
    .ok ((sampleParts resolved).record sampleInterpreter sampleContext) := by
  obtain ⟨hfinite,hconforms⟩ := sample_valid resolved
  rw [renderFoundationRecord,sample_parts,ok_bind]
  dsimp only
  rw [validateRendered,hfinite,hconforms]
  rfl

theorem sample_blank :
    OpenSweTraces.buildTrace sampleInterpreter sampleRecording sampleOrigin (sampleRow 1) = .ok (sampleTrace true) ∧
    Lane.openSweTraces.convertTrace sampleInterpreter sampleRefs (sampleTrace true) = .ok (sampleExample true) ∧
    renderFoundationRecord sampleInterpreter sampleContext (sampleExample true) =
      .ok ((sampleParts true).record sampleInterpreter sampleContext) ∧
    ¬ Carries sampleInterpreter (sampleTrace true) (sampleExample true)
      ((sampleParts true).record sampleInterpreter sampleContext) := by
  refine ⟨sample_built true,sample_example true,sample_record true,?_⟩
  rintro ⟨_,_,prompt,hprompt,_,_,_,hcalls⟩
  rw [((openSweTraces_blank (sample_example true) (sample_record true)).2.2 prompt hprompt).2] at hcalls
  cases hcalls

def handsRow : Fields := [
  ("instance_id",.str "a__b-1"),
  ("messages",.arr [
    .obj [("content",.str "fix"),("role",.str "user")],
    .obj [
      ("content",.str "done"),
      ("role",.str "assistant"),
      ("tool_calls",.arr [.obj [("function",.obj [("arguments",.str "ls"),("name",.str "bash")])]])]]),
  ("resolved",.bool true),
  ("run_id",.str "t")]

def handsRecorded : OpenHands.Recorded where
  ids := deriveIds sampleInterpreter "swe-gym" "a__b-1::t" sampleOrigin.hfRevision
  sourceId := "a__b-1::t"
  instanceId := .str "a__b-1"
  agentRunId := .str "t"
  extraction := ⟨[sampleFrame],2,1,"fix"⟩
  repo := .str "a/b"
  baseCommit := .null
  joined := false

def handsJudged : OpenHands.Judged where
  resolved := true
  hasPatch := false
  hasTests := false
  outcome := .obj [("kind",.str "swe-gym-harness-report"),("resolved",.bool true)]
  supervision := .obj []
  failToPass := []
  passToPass := []

def handsTrace : Json :=
  sealTrace sampleInterpreter (OpenHands.traceFields sampleRecording sampleOrigin handsRecorded handsJudged)

theorem hands_built :
    OpenHands.buildTrace sampleInterpreter sampleRecording sampleOrigin handsRow none = .ok handsTrace := rfl

def handsInput : Json := .obj [
  ("feature_refs",featureRefs OpenHands.converterVersion),
  ("objective",OpenHands.objectiveMeta sampleInterpreter (.str "fix")),
  ("observable_summary",.obj (sampleSummary.measures ++ sampleSummary.tools)),
  ("prefix",.str "full"),
  ("repo",.str "a/b"),
  ("run_id",.str handsRecorded.ids.runId),
  ("task_id",.str "a__b-1"),
  ("trace_id",.str handsRecorded.ids.traceId),
  ("trajectory",.obj [
    ("num_agent_steps",.int 1),("num_messages",.int 2),("timestamp_provenance",.str "synthetic-ordinal")])]

theorem hands_frames : agentFrames sampleInterpreter handsTrace = .ok [sampleFrame] := by
  have hlisted : listField handsTrace "frames" = .ok (itemsAt handsTrace "frames") := rfl
  rw [agentFrames,hlisted,ok_bind]
  exact congrArg Except.ok (congrArg (List.map Prod.snd) (List.mergeSort_singleton (0,sampleFrame)))

theorem hands_input : OpenHands.inputPayload sampleInterpreter handsTrace = .ok handsInput := by
  have hlabels : mapField handsTrace "labels" = .ok ((lookupField handsTrace "labels").getD .null) := rfl
  have hprovenance : mapField handsTrace "provenance" = .ok ((lookupField handsTrace "provenance").getD .null) := rfl
  have htrajectory : mapField handsTrace "trajectory" = .ok ((lookupField handsTrace "trajectory").getD .null) := rfl
  have hlisted : listField handsTrace "frames" = .ok (itemsAt handsTrace "frames") := rfl
  have hworld : firstWorld (itemsAt handsTrace "frames") =
    .ok (worldFrame sampleRecording (.obj [("text",.str "fix")]) (OpenHands.repoState handsRecorded) handsRecorded.ids.runId) := rfl
  rw [OpenHands.inputPayload,hands_frames,ok_bind,hlabels,ok_bind,hprovenance,ok_bind,htrajectory,ok_bind,hlisted,ok_bind,
    hworld,ok_bind,sample_summary]
  rfl

def handsExample : Json :=
  exampleOf (OpenHands.shape sampleRefs) sampleRefs handsRecorded.ids.traceId sampleHash (.str sampleOrigin.hfRevision)
    handsInput (.str "a/b") (.str "a__b-1") true

theorem hands_example :
    Lane.openHands.convertTrace sampleInterpreter sampleRefs handsTrace = .ok handsExample := by
  have hresolved : OpenHands.resolvedOf handsTrace = .ok true := rfl
  have htraceId : traceIdOf sampleInterpreter handsTrace = .ok handsRecorded.ids.traceId := rfl
  have hlabels : mapField handsTrace "labels" = .ok ((lookupField handsTrace "labels").getD .null) := rfl
  have hprovenance : mapField handsTrace "provenance" = .ok ((lookupField handsTrace "provenance").getD .null) := rfl
  have hhash : sourceHashOf sampleInterpreter handsTrace handsRecorded.ids.traceId = .ok sampleHash := rfl
  rw [Lane.convertTrace,OpenHands.convertTrace,hresolved,ok_bind,htraceId,ok_bind,hlabels,ok_bind,hprovenance,ok_bind,
    hhash,ok_bind,hands_input]
  rfl

def handsParts : RenderedParts where
  resolved := true
  datasetFamily := OpenHands.datasetFamily
  datasetId := OpenHands.datasetId
  exampleId := "pte:" ++ OpenHands.datasetId ++ ":" ++ sampleHash ++ ":risk:full"
  splitId := "train"
  sourceRevision := .str sampleOrigin.hfRevision
  tokenizerRevision := sampleContext.tokenizerRevision
  prompt := .obj [
    ("feature_refs",.arr [.str "openhands-sampled-training/0.1.0",.str "pneuma-estimators-features/0.1.0"]),
    ("objective",.obj [("present",.bool true),("text_length",.int 3)]),
    ("observable_summary",.obj (sampleSummary.measures ++ [("tool_call_count",.int 1)])),
    ("prefix",.str "full"),
    ("trajectory",.obj [
      ("num_agent_steps",.int 1),("num_messages",.int 2),("timestamp_provenance",.str "synthetic-ordinal")])]
  target := .obj [("resolved",.bool true)]
  identity := .obj [
    ("base_commit",.null),
    ("fuzzy_text_sha256",.str (digestText sampleInterpreter ("sha256:" ++ sha256Hex sampleInterpreter "fix"))),
    ("issue_or_pr",.str "a__b-1"),
    ("patch_sha256",.null),
    ("repo",.str "a/b"),
    ("task_id",.str "a__b-1"),
    ("test_patch_sha256",.null)]
  quarantineId := .null
  observations := .obj [
    ("labels",.obj [("resolved",.bool true)]),
    ("language",.str "unknown"),
    ("tools",.arr [.str "bash"]),
    ("trajectory_length",.int 1)]

theorem hands_refs : renderFeatureRefs (featureRefs OpenHands.converterVersion) =
    .arr [.str "openhands-sampled-training/0.1.0",.str "pneuma-estimators-features/0.1.0"] := by
  have hsorted : ["pneuma-estimators-features/0.1.0","openhands-sampled-training/0.1.0"].mergeSort (fun x y => x ≤ y) =
      ["openhands-sampled-training/0.1.0","pneuma-estimators-features/0.1.0"] := by
    simp [List.mergeSort]
  exact congrArg (fun names => Json.arr (names.map .str)) hsorted

theorem hands_observable : renderObservableSummary (.obj (sampleSummary.measures ++ sampleSummary.tools)) =
    .ok (.obj (sampleSummary.measures ++ [("tool_call_count",.int 1)])) := by
  have hfields : renderNumericFields observableNumericPromptFields (.obj (sampleSummary.measures ++ sampleSummary.tools)) =
      .ok (sampleSummary.measures ++ [("tool_call_count",.int 1)]) := by
    rw [renderNumericFields_safe]
    · rfl
    · intro name hname feature hlookup
      obtain hmeasure | htool := List.mem_append.mp (mem_of_lookup hlookup)
      · exact sample_features _ hmeasure
      · obtain hcount | hcounts := List.mem_pair.mp htool
        · cases hcount
          exact count_safe (n := 1) (by decide)
        · cases hcounts
          exact absurd hname (by decide)
  rw [renderObservableSummary,hfields]
  rfl

theorem hands_trajectory : renderTrajectoryPayload (.obj [
      ("num_agent_steps",.int 1),("num_messages",.int 2),("timestamp_provenance",.str "synthetic-ordinal")]) =
    .ok (.obj [("num_agent_steps",.int 1),("num_messages",.int 2),("timestamp_provenance",.str "synthetic-ordinal")]) := by
  have hfields : renderNumericFields trajectoryPromptFields (.obj [
      ("num_agent_steps",.int 1),("num_messages",.int 2),("timestamp_provenance",.str "synthetic-ordinal")]) =
      .ok [("num_agent_steps",.int 1),("num_messages",.int 2)] := by
    rw [renderNumericFields_safe]
    · rfl
    · intro name hname feature hlookup
      obtain rfl | rfl := List.mem_pair.mp hname
      · cases hlookup
        exact count_safe (n := 1) (by decide)
      · cases hlookup
        exact count_safe (n := 2) (by decide)
  rw [renderTrajectoryPayload,hfields]
  rfl

theorem hands_prompt : renderPromptPayload handsExample = .ok handsParts.prompt := by
  have hinput : mapField handsExample "input" = .ok handsInput := input_read
  have hsummary : getField handsInput "observable_summary" .null = .ok (.obj (sampleSummary.measures ++ sampleSummary.tools)) := rfl
  have hrefs : getField handsInput "feature_refs" .null = .ok (featureRefs OpenHands.converterVersion) := rfl
  have hstart : getField handsInput "prefix" .null = .ok (.str "full") := rfl
  have htrajectory : getField handsInput "trajectory" .null = .ok (.obj [
    ("num_agent_steps",.int 1),("num_messages",.int 2),("timestamp_provenance",.str "synthetic-ordinal")]) := rfl
  have hobjective : renderObjectivePayload (lookupField handsInput "objective") =
    .ok (.obj [("present",.bool true),("text_length",.int 3)]) := rfl
  rw [renderPromptPayload,hinput,ok_bind,hstart,ok_bind,htrajectory,ok_bind,hands_trajectory,ok_bind,hsummary,hrefs,hobjective]
  simp only [ok_bind,hands_observable,hands_refs]
  rfl

theorem hands_identity : foundationIdentity sampleInterpreter handsExample (compactText handsParts.prompt) =
    .ok handsParts.identity := rfl

theorem hands_observations : foundationObservations sampleInterpreter handsExample true = .ok handsParts.observations := by
  have hinput : mapField handsExample "input" = .ok handsInput := input_read
  have hsummary : mapField handsInput "observable_summary" = .ok (.obj (sampleSummary.measures ++ sampleSummary.tools)) := rfl
  have htrajectory : mapField handsInput "trajectory" = .ok (.obj [
    ("num_agent_steps",.int 1),("num_messages",.int 2),("timestamp_provenance",.str "synthetic-ordinal")]) := rfl
  have hlanguage : getField handsInput "language" .null = .ok .null := rfl
  have hcounts : mapField (.obj (sampleSummary.measures ++ sampleSummary.tools)) "tool_counts" = .ok (.obj [("bash",.int 1)]) := rfl
  have hnames : iterate (.obj [("bash",.int 1)]) = .ok [.str "bash"] := rfl
  have hlength : countField sampleInterpreter (.obj [
    ("num_agent_steps",.int 1),("num_messages",.int 2),("timestamp_provenance",.str "synthetic-ordinal")]) "num_agent_steps" =
      .ok 1 := rfl
  rw [foundationObservations,observedFields,hinput,ok_bind,hsummary,ok_bind,htrajectory,ok_bind,hlanguage,ok_bind,hcounts,ok_bind,
    hnames,ok_bind,hlength,ok_bind,List.map_singleton,List.mergeSort_singleton]
  rfl

theorem hands_parts : renderedParts sampleInterpreter sampleContext handsExample = .ok handsParts := by
  have hresolved : validatedResolvedTarget handsExample = .ok true := rfl
  have hfamily : getField handsExample "dataset_family" .null = .ok (.str handsParts.datasetFamily) := rfl
  have hdataset : getField handsExample "dataset_id" .null = .ok (.str handsParts.datasetId) := rfl
  have hexample : getField handsExample "example_id" .null = .ok (.str handsParts.exampleId) := rfl
  have hrevision : getField handsExample "source_revision" .null = .ok handsParts.sourceRevision := rfl
  have htarget : getField handsExample "target" .null = .ok handsParts.target := rfl
  have hfamilyText : requiredNonemptyString (.str handsParts.datasetFamily) "dataset_family" = .ok handsParts.datasetFamily := rfl
  have hdatasetText : requiredNonemptyString (.str handsParts.datasetId) "dataset_id" = .ok handsParts.datasetId := rfl
  have hexampleText : requiredNonemptyString (.str handsParts.exampleId) "example_id" = .ok handsParts.exampleId := rfl
  rw [renderedParts,hresolved,ok_bind,hfamily,ok_bind,hfamilyText,ok_bind,hdataset,ok_bind,hdatasetText,ok_bind,hexample,
    ok_bind,hexampleText,ok_bind,hrevision,hands_prompt,htarget]
  simp only [ok_bind,hands_identity,hands_observations]
  rfl

theorem hands_valid : (handsParts.record sampleInterpreter sampleContext).finite = true ∧
    conformsRecord (handsParts.record sampleInterpreter sampleContext) = true := by
  have hrevision : isPattern "" 40 (.str sampleContext.tokenizerRevision) = true := by decide
  refine ⟨by decide +kernel,?_⟩
  rw [conformsRecord,RenderedParts.record,closedObject_iff]
  refine ⟨?_,by decide⟩
  simp only [List.forall_mem_cons,List.not_mem_nil,IsEmpty.forall_iff,implies_true,and_true]
  refine ⟨rfl,rfl,any_of_eq rfl (isPattern_hex _ _),?_,?_,?_,?_,?_,any_of_eq rfl (tokenization_conforms hrevision _ _),?_⟩
  all_goals decide +kernel

theorem hands_record : renderFoundationRecord sampleInterpreter sampleContext handsExample =
    .ok (handsParts.record sampleInterpreter sampleContext) := by
  obtain ⟨hfinite,hconforms⟩ := hands_valid
  rw [renderFoundationRecord,hands_parts,ok_bind]
  dsimp only
  rw [validateRendered,hfinite,hconforms]
  rfl

theorem hands_counted : Counted handsTrace where
  steps := ⟨.int 1,rfl,count_safe (n := 1) (by decide),rfl⟩
  messages := ⟨.int 2,rfl,count_safe (n := 2) (by decide)⟩

theorem sample_carries : OpenHands.buildTrace sampleInterpreter sampleRecording sampleOrigin handsRow none = .ok handsTrace ∧
    Carries sampleInterpreter handsTrace handsExample (handsParts.record sampleInterpreter sampleContext) :=
  ⟨hands_built,(carries_iff hands_example hands_record).mpr ⟨rfl,hands_counted⟩⟩

end Sample

end PneumaLab.Traces
