import PneumaLab.Traces.Adapters
import PneumaLab.Traces.LaneObservables

namespace PneumaLab.Traces

open Foundation

section Erasure

def erase : List String → Json → Json
  | key :: path, .obj fields => .obj (fields.map fun field => if field.1 = key then (key,erase path field.2) else field)
  | [], _ => .null
  | _, v => v

def eraseAll (paths : List (List String)) (v : Json) : Json := paths.foldl (fun v path => erase path v) v

def targetPaths : List (List String) :=
  [["forecast_targets"],["observations","labels"],["record_id"],["rendered","target_text"],["source","source_record_id"]]

def outcomePaths : List (List String) := targetPaths ++ [["tokenization","target_tokens"],["tokenization","total_tokens"]]

end Erasure

section Rows

def AgreeExcept (hidden : List String) (left right : Fields) : Prop :=
  ∀ key, key ∉ hidden → left.lookup key = right.lookup key

inductive RawRow where
  | openHands (row : Fields) (task : Option Fields)
  | openSweTraces (row : Fields)

def RawRow.lane : RawRow → Lane
  | .openHands _ _ => .openHands
  | .openSweTraces _ => .openSweTraces

def RawRow.buildTrace (python : Interpreter) (recording : Recording) (origin : Origin) : RawRow → Py Json
  | .openHands row task => OpenHands.buildTrace python recording origin row task
  | .openSweTraces row => OpenSweTraces.buildTrace python recording origin row

def verdictFields : List String := ["resolved","metadata"]

def harnessFields : List String := ["resolved","test_result"]

def goldFields : List String := ["patch","test_patch","FAIL_TO_PASS","PASS_TO_PASS"]

inductive SameButOutcome : RawRow → RawRow → Prop
  | openHands {left right : Fields} : AgreeExcept harnessFields left right →
      SameButOutcome (.openHands left none) (.openHands right none)
  | joined {left right task other : Fields} : AgreeExcept harnessFields left right → AgreeExcept goldFields task other →
      SameButOutcome (.openHands left (some task)) (.openHands right (some other))
  | openSweTraces {left right : Fields} : AgreeExcept verdictFields left right →
      SameButOutcome (.openSweTraces left) (.openSweTraces right)

theorem getField_agree {hidden : List String} {left right : Fields} (h : AgreeExcept hidden left right) {key : String}
    (hkey : key ∉ hidden) (absent : Json) : getField (.obj left) key absent = getField (.obj right) key absent := by
  rw [getField_obj,getField_obj,h key hkey]

end Rows

section Recordings
variable {python : Interpreter} {recording : Recording} {origin : Origin} {left right : Fields} {trace : Json}

theorem openSweTraces_built (h : OpenSweTraces.buildTrace python recording origin left = .ok trace) :
    ∃ instanceId trajectoryId recorded resolved hasPatch supervision,
      OpenSweTraces.identifiersOf left = .ok (instanceId,trajectoryId) ∧
      OpenSweTraces.recordedOf python recording origin left instanceId trajectoryId = .ok recorded ∧
      trace = sealTrace python (OpenSweTraces.traceFields python recording origin recorded resolved hasPatch supervision) := by
  simp only [OpenSweTraces.buildTrace,bind_eq_ok,pure,Except.pure,Except.ok.injEq] at h
  obtain ⟨⟨instanceId,trajectoryId⟩,hids,_,_,resolved,_,recorded,hrecorded,_,_,supervision,_,modelPatch,_,rfl⟩ := h
  exact ⟨instanceId,trajectoryId,recorded,resolved,truthy modelPatch,supervision,hids,hrecorded,rfl⟩

theorem openSweTraces_recorded (h : AgreeExcept verdictFields left right) :
    OpenSweTraces.identifiersOf left = OpenSweTraces.identifiersOf right ∧
      ∀ instanceId trajectoryId, OpenSweTraces.recordedOf python recording origin left instanceId trajectoryId =
        OpenSweTraces.recordedOf python recording origin right instanceId trajectoryId := by
  constructor
  · rw [OpenSweTraces.identifiersOf,OpenSweTraces.identifiersOf,getField_agree h (by decide),getField_agree h (by decide)]
  · intro instanceId trajectoryId
    rw [OpenSweTraces.recordedOf,OpenSweTraces.recordedOf,getField_agree h (by decide),getField_agree h (by decide),
      getField_agree h (by decide),getField_agree h (by decide)]

theorem openHands_built {task : Option Fields} (h : OpenHands.buildTrace python recording origin left task = .ok trace) :
    ∃ instanceId agentRunId recorded judged, OpenHands.identifiersOf left = .ok (instanceId,agentRunId) ∧
      OpenHands.recordedOf python recording origin left task instanceId agentRunId = .ok recorded ∧
      trace = sealTrace python (OpenHands.traceFields recording origin recorded judged) := by
  simp only [OpenHands.buildTrace,bind_eq_ok,pure,Except.pure,Except.ok.injEq] at h
  obtain ⟨⟨instanceId,agentRunId⟩,hids,_,_,_,_,recorded,hrecorded,judged,_,rfl⟩ := h
  exact ⟨instanceId,agentRunId,recorded,judged,hids,hrecorded,rfl⟩

theorem openHands_recorded {task other : Option Fields} (h : AgreeExcept harnessFields left right)
    (hjoined : task.isSome = other.isSome) (hrepo : OpenHands.taskField task "repo" = OpenHands.taskField other "repo")
    (hcommit : OpenHands.taskField task "base_commit" = OpenHands.taskField other "base_commit") :
    OpenHands.identifiersOf left = OpenHands.identifiersOf right ∧
      ∀ instanceId agentRunId, OpenHands.recordedOf python recording origin left task instanceId agentRunId =
        OpenHands.recordedOf python recording origin right other instanceId agentRunId := by
  constructor
  · rw [OpenHands.identifiersOf,OpenHands.identifiersOf,getField_agree h (by decide),getField_agree h (by decide)]
  · intro instanceId agentRunId
    rw [OpenHands.recordedOf,OpenHands.recordedOf,getField_agree h (by decide),OpenHands.repoOf,OpenHands.repoOf,hrepo,
      hcommit,hjoined]

end Recordings

section Examples
variable {python : Interpreter} {recording : Recording} {origin : Origin} {refs : ConversionRefs}

-- Two examples that differ in the source hash and in the resolved target alone.
def SameInput (refs : ConversionRefs) (left right : Json) : Prop :=
  ∃ shape traceId leftHash rightHash revision field rest repo taskId leftResolved rightResolved,
    left = exampleOf shape refs traceId leftHash revision (.obj (field :: rest)) repo taskId leftResolved ∧
      right = exampleOf shape refs traceId rightHash revision (.obj (field :: rest)) repo taskId rightResolved

theorem openSweTraces_visible (recorded : OpenSweTraces.Recorded) (resolved hasPatch : Bool) (supervision : Json) :
    OpenSweTraces.inputPayload python
        (sealTrace python (OpenSweTraces.traceFields python recording origin recorded resolved hasPatch supervision)) =
      OpenSweTraces.inputPayload python
        (.obj (OpenSweTraces.traceFields python recording origin recorded false false .null "")) := rfl

theorem openHands_visible (recorded : OpenHands.Recorded) (judged : OpenHands.Judged) :
    OpenHands.inputPayload python (sealTrace python (OpenHands.traceFields recording origin recorded judged)) =
      OpenHands.inputPayload python (.obj (OpenHands.traceFields recording origin recorded
        ⟨false,false,false,.null,.null,[],[]⟩ "")) := rfl

theorem read_field {trace block v w : Json} {key name : String} (hblock : mapField trace key = .ok block)
    (h : getField block name .null = .ok v)
    (hread : (mapField trace key >>= fun block => getField block name .null) = .ok w) : v = w := by
  rw [hblock,ok_bind,h] at hread
  exact Except.ok.inj hread

theorem traceIdOf_ok {trace : Json} {traceId held : String} (h : traceIdOf python trace = .ok traceId)
    (hheld : getField trace "trace_id" .null = .ok (.str held)) : traceId = held := by
  simp only [traceIdOf,bind_eq_ok,pure,Except.pure,Except.ok.injEq] at h
  obtain ⟨v,hv,_,_,rfl⟩ := h
  rw [hheld] at hv
  cases hv
  rw [orElse]
  split
  · rfl
  · next hempty =>
    rw [truthy,Bool.not_eq_true,decide_eq_false_iff_not,not_not] at hempty
    exact hempty.symm

theorem openSweTraces_example {recorded : OpenSweTraces.Recorded} {resolved hasPatch : Bool} {supervision example_ : Json}
    (h : OpenSweTraces.convertTrace python refs (sealTrace python
      (OpenSweTraces.traceFields python recording origin recorded resolved hasPatch supervision)) = .ok example_) :
    ∃ hash input label, OpenSweTraces.inputPayload python (.obj (OpenSweTraces.traceFields python recording origin recorded
        false false .null "")) = .ok input ∧
      example_ = exampleOf (OpenSweTraces.shape refs) refs recorded.ids.traceId hash
        (orElse (.str origin.hfRevision) (.str OpenSweTraces.sourceRevision)) input (.str recorded.repoDigest)
        (.str recorded.instanceDigest) label := by
  rw [OpenSweTraces.convertTrace,openSweTraces_visible] at h
  simp only [bind_eq_ok,pure,Except.pure,Except.ok.injEq] at h
  obtain ⟨label,_,traceId,htraceId,labels,hlabels,provenance,hprovenance,hash,_,input,hinput,_,_,revision,hrevision,repo,
    hrepo,taskId,htaskId,rfl⟩ := h
  cases read_field hlabels hrepo (w := .str recorded.repoDigest) rfl
  cases read_field hlabels htaskId (w := .str recorded.instanceDigest) rfl
  cases read_field hprovenance hrevision (w := .str origin.hfRevision) rfl
  have hid : traceId = recorded.ids.traceId := traceIdOf_ok htraceId rfl
  rw [hid]
  exact ⟨hash,input,label,hinput,rfl⟩

theorem openHands_example {recorded : OpenHands.Recorded} {judged : OpenHands.Judged} {example_ : Json}
    (h : OpenHands.convertTrace python refs (sealTrace python (OpenHands.traceFields recording origin recorded judged)) =
      .ok example_) :
    ∃ hash input label, OpenHands.inputPayload python (.obj (OpenHands.traceFields recording origin recorded
        ⟨false,false,false,.null,.null,[],[]⟩ "")) = .ok input ∧
      example_ = exampleOf (OpenHands.shape refs) refs recorded.ids.traceId hash
        (orElse (.str origin.hfRevision) (.str OpenHands.sourceRevision)) input recorded.repo
        (if truthy recorded.instanceId then recorded.instanceId else .str recorded.sourceId) label := by
  rw [OpenHands.convertTrace,openHands_visible] at h
  simp only [bind_eq_ok,pure,Except.pure,Except.ok.injEq] at h
  obtain ⟨label,_,traceId,htraceId,labels,hlabels,provenance,hprovenance,hash,_,taskId,htaskId,revision,hrevision,input,
    hinput,repo,hrepo,rfl⟩ := h
  cases read_field hlabels hrepo (w := recorded.repo) rfl
  cases read_field hprovenance hrevision (w := .str origin.hfRevision) rfl
  have htask : taskId = if truthy recorded.instanceId then recorded.instanceId else .str recorded.sourceId := by
    simp only [OpenHands.taskIdOf,bind_eq_ok] at htaskId
    obtain ⟨instanceId,hinstanceId,hchosen⟩ := htaskId
    cases read_field hlabels hinstanceId (w := recorded.instanceId) rfl
    split at hchosen
    · next htruthy =>
      rw [if_pos htruthy]
      exact (Except.ok.inj hchosen).symm
    · next hfalsy =>
      rw [if_neg hfalsy]
      exact read_field hprovenance hchosen rfl
  have hid : traceId = recorded.ids.traceId := traceIdOf_ok htraceId rfl
  rw [hid,htask]
  exact ⟨hash,input,label,hinput,rfl⟩

theorem openHands_sameInput {row other : Fields} {task gold : Option Fields} {trace otherTrace example_ otherExample : Json}
    (hrow : AgreeExcept harnessFields row other) (hjoined : task.isSome = gold.isSome)
    (hrepo : OpenHands.taskField task "repo" = OpenHands.taskField gold "repo")
    (hcommit : OpenHands.taskField task "base_commit" = OpenHands.taskField gold "base_commit")
    (hbuilt : OpenHands.buildTrace python recording origin row task = .ok trace)
    (hother : OpenHands.buildTrace python recording origin other gold = .ok otherTrace)
    (hexample : OpenHands.convertTrace python refs trace = .ok example_)
    (hotherExample : OpenHands.convertTrace python refs otherTrace = .ok otherExample) :
    SameInput refs example_ otherExample := by
  obtain ⟨instanceId,runId,recorded,judged,hids,hrecorded,rfl⟩ := openHands_built hbuilt
  obtain ⟨_,_,recorded',_,hids',hrecorded',rfl⟩ := openHands_built hother
  obtain ⟨hsameIds,hsame⟩ := @openHands_recorded python recording origin row other task gold hrow hjoined hrepo hcommit
  rw [← hsameIds,hids] at hids'
  cases hids'
  rw [← hsame,hrecorded] at hrecorded'
  cases hrecorded'
  obtain ⟨hash,input,label,hinput,rfl⟩ := openHands_example hexample
  obtain ⟨otherHash,_,otherLabel,hinput',rfl⟩ := openHands_example hotherExample
  rw [hinput] at hinput'
  cases hinput'
  obtain ⟨_,_,_,_,field,rest,_,_,_,rfl,_⟩ := openHands_input hinput
  exact ⟨_,_,hash,otherHash,_,field,rest,_,_,label,otherLabel,rfl,rfl⟩

theorem openSweTraces_sameInput {row other : Fields} {trace otherTrace example_ otherExample : Json}
    (hrow : AgreeExcept verdictFields row other)
    (hbuilt : OpenSweTraces.buildTrace python recording origin row = .ok trace)
    (hother : OpenSweTraces.buildTrace python recording origin other = .ok otherTrace)
    (hexample : OpenSweTraces.convertTrace python refs trace = .ok example_)
    (hotherExample : OpenSweTraces.convertTrace python refs otherTrace = .ok otherExample) :
    SameInput refs example_ otherExample := by
  obtain ⟨instanceId,trajectoryId,recorded,_,_,_,hids,hrecorded,rfl⟩ := openSweTraces_built hbuilt
  obtain ⟨_,_,recorded',_,_,_,hids',hrecorded',rfl⟩ := openSweTraces_built hother
  obtain ⟨hsameIds,hsame⟩ := @openSweTraces_recorded python recording origin row other hrow
  rw [← hsameIds,hids] at hids'
  cases hids'
  rw [← hsame,hrecorded] at hrecorded'
  cases hrecorded'
  obtain ⟨hash,input,label,hinput,rfl⟩ := openSweTraces_example hexample
  obtain ⟨otherHash,_,otherLabel,hinput',rfl⟩ := openSweTraces_example hotherExample
  rw [hinput] at hinput'
  cases hinput'
  obtain ⟨_,field,rest,rfl,_⟩ := openSweTraces_input hinput
  exact ⟨_,_,hash,otherHash,_,field,rest,_,_,label,otherLabel,rfl,rfl⟩

theorem sameInput_of_built {left right : RawRow} (h : SameButOutcome left right) {leftTrace rightTrace leftExample
    rightExample : Json} (hleft : left.buildTrace python recording origin = .ok leftTrace)
    (hright : right.buildTrace python recording origin = .ok rightTrace)
    (hleftExample : left.lane.convertTrace python refs leftTrace = .ok leftExample)
    (hrightExample : right.lane.convertTrace python refs rightTrace = .ok rightExample) :
    SameInput refs leftExample rightExample := by
  cases h with
  | openHands hrow => exact openHands_sameInput hrow rfl rfl rfl hleft hright hleftExample hrightExample
  | @joined row other task gold hrow htask =>
    have hread (key : String) (hkey : key ∉ goldFields) :
        OpenHands.taskField (some task) key = OpenHands.taskField (some gold) key := by
      rw [OpenHands.taskField,OpenHands.taskField,Option.getD_some,Option.getD_some,htask key hkey]
    have hrepo := hread "repo" (by decide)
    have hcommit := hread "base_commit" (by decide)
    have hjoined : (some task).isSome = (some gold).isSome := rfl
    exact openHands_sameInput hrow hjoined hrepo hcommit hleft hright hleftExample hrightExample
  | openSweTraces hrow => exact openSweTraces_sameInput hrow hleft hright hleftExample hrightExample

end Examples

section Records
variable {python : Interpreter} {refs : ConversionRefs} {context : RenderContext} {left right : Json}
  {leftParts rightParts : RenderedParts}

theorem foundationObservations_fields {example_ observations : Json} {resolved : Bool}
    (h : foundationObservations python example_ resolved = .ok observations) :
    ∃ fields, observedFields python example_ = .ok fields ∧
      observations = .obj (("labels",.obj [("resolved",.bool resolved)]) :: fields) := by
  simp only [foundationObservations,bind_eq_ok,pure,Except.pure,Except.ok.injEq] at h
  obtain ⟨fields,hfields,rfl⟩ := h
  exact ⟨fields,hfields,rfl⟩

structure SameParts (left right : RenderedParts) : Prop where
  datasetFamily : left.datasetFamily = right.datasetFamily
  datasetId : left.datasetId = right.datasetId
  splitId : left.splitId = right.splitId
  sourceRevision : left.sourceRevision = right.sourceRevision
  tokenizerRevision : left.tokenizerRevision = right.tokenizerRevision
  prompt : left.prompt = right.prompt
  identity : left.identity = right.identity
  quarantineId : left.quarantineId = right.quarantineId
  observations : ∃ labels other fields, left.observations = .obj (("labels",labels) :: fields) ∧
    right.observations = .obj (("labels",other) :: fields)

theorem sameParts_of_sameInput (h : SameInput refs left right) (hleft : Renders python context left leftParts)
    (hright : Renders python context right rightParts) : SameParts leftParts rightParts := by
  obtain ⟨shape,traceId,leftHash,rightHash,revision,field,rest,repo,taskId,leftResolved,rightResolved,rfl,rfl⟩ := h
  have hfamily := Except.ok.inj (hleft.datasetFamily.symm.trans hright.datasetFamily)
  have hdataset := Except.ok.inj (hleft.datasetId.symm.trans hright.datasetId)
  have hsplit := Except.ok.inj (hleft.splitId.symm.trans hright.splitId)
  have hprompt := Except.ok.inj (hleft.prompt.symm.trans hright.prompt)
  have hidentity := hright.identity
  rw [← hprompt] at hidentity
  obtain ⟨fields,hfields,hleftObserved⟩ := foundationObservations_fields hleft.observations
  obtain ⟨fields',hfields',hrightObserved⟩ := foundationObservations_fields hright.observations
  have hsame := Except.ok.inj (hfields.symm.trans hfields')
  rw [← hsame] at hrightObserved
  exact {
    datasetFamily := Json.str.inj hfamily
    datasetId := Json.str.inj hdataset
    splitId := Json.str.inj hsplit
    sourceRevision := Except.ok.inj (hleft.sourceRevision.symm.trans hright.sourceRevision)
    tokenizerRevision := hleft.tokenizerRevision.symm.trans hright.tokenizerRevision
    prompt := hprompt
    identity := Except.ok.inj (hleft.identity.symm.trans hidentity)
    quarantineId := Except.ok.inj (hleft.quarantineId.symm.trans hright.quarantineId)
    observations := ⟨_,_,fields,hleftObserved,hrightObserved⟩}

theorem sameParts_records (h : SameParts leftParts rightParts) :
    eraseAll outcomePaths (leftParts.record python context) = eraseAll outcomePaths (rightParts.record python context) := by
  obtain ⟨labels,other,fields,hleft,hright⟩ := h.observations
  simp only [RenderedParts.record,RenderedParts.source,h.datasetFamily,h.datasetId,h.splitId,h.sourceRevision,
    h.tokenizerRevision,h.prompt,h.identity,h.quarantineId,hleft,hright]
  simp [eraseAll,outcomePaths,targetPaths,erase]

end Records

section Statement
variable {python : Interpreter} {recording : Recording} {origin : Origin} {refs : ConversionRefs} {context : RenderContext}

theorem records_blind {left right : RawRow} (h : SameButOutcome left right)
    {leftTrace rightTrace leftExample rightExample leftRecord rightRecord : Json}
    (hleft : left.buildTrace python recording origin = .ok leftTrace)
    (hright : right.buildTrace python recording origin = .ok rightTrace)
    (hleftExample : left.lane.convertTrace python refs leftTrace = .ok leftExample)
    (hrightExample : right.lane.convertTrace python refs rightTrace = .ok rightExample)
    (hleftRecord : renderFoundationRecord python context leftExample = .ok leftRecord)
    (hrightRecord : renderFoundationRecord python context rightExample = .ok rightRecord) :
    eraseAll outcomePaths leftRecord = eraseAll outcomePaths rightRecord := by
  have hinput := sameInput_of_built h hleft hright hleftExample hrightExample
  obtain ⟨leftParts,hleftParts,rfl⟩ := renderFoundationRecord_ok hleftRecord
  obtain ⟨rightParts,hrightParts,rfl⟩ := renderFoundationRecord_ok hrightRecord
  exact sameParts_records (sameParts_of_sameInput hinput (renderedParts_ok hleftParts) (renderedParts_ok hrightParts))

end Statement

section Sample

def sampleRecord (resolved : Bool) : Json := (sampleParts resolved).record sampleInterpreter sampleContext

def targetTokens (record : Json) : Option Json :=
  (lookupField record "tokenization").bind fun counts => lookupField counts "target_tokens"

theorem sample_sameButOutcome : SameButOutcome (.openSweTraces (sampleRow 1)) (.openSweTraces (sampleRow 0)) := by
  refine .openSweTraces fun key hkey => ?_
  have hne : (key == "resolved") = false := beq_false_of_ne fun he => hkey (by rw [he]; decide)
  simp only [sampleRow,List.lookup_cons,hne]

theorem targetTokens_record (parts : RenderedParts) : targetTokens (eraseAll targetPaths
    (parts.record sampleInterpreter sampleContext)) = some (.int (tokenCount sampleContext parts.target)) := by
  simp [eraseAll,targetPaths,erase,RenderedParts.record,targetTokens,lookupField,List.lookup_cons]

theorem target_counts_differ : ¬ ∀ (left right : RawRow) (leftTrace rightTrace leftExample rightExample leftRecord
    rightRecord : Json), SameButOutcome left right →
    left.buildTrace sampleInterpreter sampleRecording sampleOrigin = .ok leftTrace →
    right.buildTrace sampleInterpreter sampleRecording sampleOrigin = .ok rightTrace →
    left.lane.convertTrace sampleInterpreter sampleRefs leftTrace = .ok leftExample →
    right.lane.convertTrace sampleInterpreter sampleRefs rightTrace = .ok rightExample →
    renderFoundationRecord sampleInterpreter sampleContext leftExample = .ok leftRecord →
    renderFoundationRecord sampleInterpreter sampleContext rightExample = .ok rightRecord →
    eraseAll targetPaths leftRecord = eraseAll targetPaths rightRecord := by
  intro h
  have hsame := h (.openSweTraces (sampleRow 1)) (.openSweTraces (sampleRow 0)) (sampleTrace true) (sampleTrace false)
    (sampleExample true) (sampleExample false) (sampleRecord true) (sampleRecord false) sample_sameButOutcome
    (sample_built true) (sample_built false) (sample_example true) (sample_example false) (sample_record true)
    (sample_record false)
  have hcounts := congrArg targetTokens hsame
  rw [sampleRecord,sampleRecord,targetTokens_record,targetTokens_record] at hcounts
  have htrue : tokenCount sampleContext (sampleParts true).target = 17 := by decide
  have hfalse : tokenCount sampleContext (sampleParts false).target = 18 := by decide
  rw [htrue,hfalse] at hcounts
  cases hcounts

theorem sample_records_blind :
    eraseAll outcomePaths (sampleRecord true) = eraseAll outcomePaths (sampleRecord false) :=
  records_blind sample_sameButOutcome (sample_built true) (sample_built false) (sample_example true) (sample_example false)
    (sample_record true) (sample_record false)

end Sample

end PneumaLab.Traces
