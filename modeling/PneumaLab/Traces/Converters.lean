import PneumaLab.Traces.Values
import PneumaLab.Traces.Governance

namespace PneumaLab.Traces

open Foundation

variable (python : Interpreter)

def agentFrames (trace : Json) : Py (List Json) := do
  let frames ← listField trace "frames"
  let kept := frames.filter fun frame =>
    isMapping frame && decide (lookupField frame "frame_kind" = some (.str "agent_trace"))
  let keyed ← kept.mapM fun frame => do return (← countField python frame "step_index",frame)
  return (keyed.mergeSort fun x y => x.1 ≤ y.1).map Prod.snd

def toolName (call : Json) : Py String := do
  return str python (orElse (← getField call "tool" .null) (.str "unknown"))

def toolNames (frames : List Json) : Py (List String) := do
  let names ← frames.mapM fun frame => do (← listField frame "tool_calls").mapM (toolName python)
  return names.flatten

def sortedSet (names : List String) : List String := names.dedup.mergeSort fun x y => x ≤ y

def toolCounts (names : List String) : List (String × ℕ) := (sortedSet names).map fun name => (name,names.count name)

def observationsOf (frames : List Json) : Py (List (ℤ × Bool)) := do
  let rows ← frames.mapM fun frame => do
    (← listField frame "observations").mapM fun observation => do
      return (← countField python observation "content_length",truthy (← getField observation "error_marker" .null))
  return rows.flatten

def largest (values : List ℤ) : ℤ := values.foldl max (values.headD 0)

structure ObservableSummary where
  toolCounts : List (String × ℕ)
  retries : List ℤ
  assistantLengths : List ℤ
  observations : List (ℤ × Bool)
  strategySwitches : ℤ
  retryMean : Json
  errorDensity : Json
  assistantMean : Json
  observationMean : Json

def ObservableSummary.toolCallCount (summary : ObservableSummary) : ℕ := (summary.toolCounts.map Prod.snd).sum

def finalSwitches (frames : List Json) : Py ℤ :=
  match frames.getLast? with
  | some frame => countField python frame "strategy_switches"
  | none => .ok 0

def observableSummary (frames : List Json) : Py ObservableSummary := do
  let names ← toolNames python frames
  let retries ← frames.mapM fun frame => countField python frame "retry_count"
  let assistantLengths ← frames.mapM fun frame => countField python frame "assistant_text_length"
  let observations ← observationsOf python frames
  let retryMean ← divide python retries.sum frames.length
  let strategySwitches ← finalSwitches python frames
  let errors := (observations.filter fun observation => observation.2).length
  let errorDensity ← divide python errors observations.length
  let assistantMean ← divide python assistantLengths.sum frames.length
  let observationMean ← divide python (observations.map Prod.fst).sum observations.length
  return {
    toolCounts := toolCounts names
    retries,assistantLengths,observations,strategySwitches,retryMean,errorDensity,assistantMean,observationMean}

def ObservableSummary.countsJson (summary : ObservableSummary) : Json :=
  .obj (summary.toolCounts.map fun entry => (entry.1,.int entry.2))

def ObservableSummary.measures (summary : ObservableSummary) : List (String × Json) := [
  ("assistant_text_length_max",.int (largest summary.assistantLengths)),
  ("assistant_text_length_mean",summary.assistantMean),
  ("error_density",summary.errorDensity),
  ("error_observation_count",.int (summary.observations.filter fun observation => observation.2).length),
  ("observation_count",.int summary.observations.length),
  ("observation_length_max",.int (largest (summary.observations.map Prod.fst))),
  ("observation_length_mean",summary.observationMean),
  ("retry_count_max",.int (largest summary.retries)),
  ("retry_count_mean",summary.retryMean),
  ("steps_retry_ge2",.int (summary.retries.filter fun retry => 2 ≤ retry).length),
  ("strategy_switches_final",.int summary.strategySwitches)]

def ObservableSummary.tools (summary : ObservableSummary) : List (String × Json) := [
  ("tool_call_count",.int summary.toolCallCount),
  ("tool_counts",summary.countsJson)]

def firstWorld : List Json → Py Json
  | [] => .ok (.obj [])
  | frame :: rest => do
    if (← getField frame "frame_kind" .null) = .str "world" then return frame
    firstWorld rest

def shortHash (value : String) : String := String.ofList ((sha256Hex python value).toList.take 16)

def resolvedLabel (observed : List Json) : Py Bool := do
  match (observed.filter fun value => decide (value ≠ .null)).map truthy with
  | [] => .error (.valueError "trace is missing resolved outcome")
  | first :: rest => do
    demand (rest.all fun value => value == first) (.valueError "trace has conflicting resolved labels")
    return first

def featureExtractorVersion : String := "pneuma-estimators-features/0.1.0"

variable (python : Interpreter)

structure ConversionRefs where
  adapterReport : String
  syntheticFixture : Option String
  manifest : Option String

def taskType : String := "RISK_PREDICTION"

def evidence (kind ref : String) : Json := .obj [("kind",.str kind),("ref",.str ref)]

def evidenceRefs (traceId : String) (refs : ConversionRefs) : Json :=
  .arr ([evidence "trace_id" traceId,evidence "adapter_report" refs.adapterReport,
    evidence "schema" "schemas/pneuma-training-example.schema.json"] ++
    ((refs.syntheticFixture.filter (· ≠ "")).map (evidence "synthetic_fixture")).toList ++
    ((refs.manifest.filter (· ≠ "")).map (evidence "manifest")).toList)

def allowedTrainingUses : List String :=
  ["schema validation","feature extraction planning","later modeling only after separate approval"]

def splitGroup (repo taskId : Json) : Json :=
  .obj [("era",.null),("repo",repo),("session_or_user",.null),("task_id",taskId)]

def traceIdOf (trace : Json) : Py String := do
  let traceId := str python (orElse (← getField trace "trace_id" .null) (.str ""))
  demand (traceId ≠ "") (.valueError "trace is missing trace_id")
  return traceId

def sourceHashOf (trace : Json) (traceId : String) : Py String := do
  return str python (orElse (← getField (← mapField trace "build") "content_hash" .null) (.str (shortHash python traceId)))

def featureRefs (converterVersion : String) : Json := .arr [.str featureExtractorVersion,.str converterVersion]

structure ExampleShape where
  datasetFamily : String
  datasetId : String
  converterVersion : String
  labelProvenance : Json
  privacyStatus : String
  redactionReceipt : Json
  blockedTrainingUses : List String

def exampleOf (shape : ExampleShape) (refs : ConversionRefs) (traceId sourceHash : String) (revision input repo taskId : Json)
    (resolved : Bool) : Json :=
  .obj [
    ("allowed_training_uses",.arr (allowedTrainingUses.map .str)),
    ("blocked_training_uses",.arr (shape.blockedTrainingUses.map .str)),
    ("canonical_feature_refs",featureRefs shape.converterVersion),
    ("dataset_family",.str shape.datasetFamily),
    ("dataset_id",.str shape.datasetId),
    ("evidence_refs",evidenceRefs traceId refs),
    ("example_id",.str ("pte:" ++ shape.datasetId ++ ":" ++ sourceHash ++ ":risk:full")),
    ("example_type",.str "TrajectoryExample"),
    ("input",input),
    ("input_modality",.str "structured_features"),
    ("label_provenance",shape.labelProvenance),
    ("leakage_risk",.str "medium"),
    ("model_use_tier",.str "train_after_adapter"),
    ("privacy_status",.str shape.privacyStatus),
    ("redaction_receipt",shape.redactionReceipt),
    ("source_path_or_hash",.str ("sha256:" ++ sourceHash)),
    ("source_revision",revision),
    ("split_group",splitGroup repo taskId),
    ("split_policy",.str "repo_grouped"),
    ("target",.obj [("resolved",.bool resolved)]),
    ("task_mask",.arr [.str taskType]),
    ("task_type",.str taskType),
    ("training_weight",.float "0.0")]

namespace OpenHands

def datasetId : String := "swe-gym-openhands-sampled"

def datasetFamily : String := "swe-gym"

def sourceRevision : String := "baf3a4e4bff514d48ddc08a93a2ade5c126212c7"

def converterVersion : String := "openhands-sampled-training/0.1.0"

def resolvedOf (trace : Json) : Py Bool := do
  let labels ← mapField trace "labels"
  let outcome ← mapField trace "outcome"
  let labelResolved ← getField labels "resolved" .null
  let outcomeResolved ← getField outcome "resolved" .null
  let reportResolved ← getField (← mapField outcome "report") "resolved" .null
  resolvedLabel [labelResolved,outcomeResolved,reportResolved]

def taskIdOf (labels provenance : Json) : Py Json := do
  let instanceId ← getField labels "instance_id" .null
  if truthy instanceId then return instanceId
  getField provenance "source_id" .null

def objectiveMeta (objectiveText : Json) : Json :=
  .obj ([("mode",.str "digest_only"),("present",.bool (truthy objectiveText))] ++
    match objectiveText with
    | .str text => [("text_length",.int text.length),("text_sha256",.str ("sha256:" ++ sha256Hex python text))]
    | _ => [])

def inputPayload (trace : Json) : Py Json := do
  let frames ← agentFrames python trace
  let labels ← mapField trace "labels"
  let provenance ← mapField trace "provenance"
  let trajectory ← mapField trace "trajectory"
  let world ← firstWorld (← listField trace "frames")
  let objectiveText ← getField (← mapField world "objective") "text" .null
  let traceId ← getField trace "trace_id" .null
  let runId ← getField trace "run_id" .null
  let taskId ← taskIdOf labels provenance
  let repo ← getField labels "repo" .null
  let numMessages ← getField trajectory "num_messages" (.int 0)
  let numAgentSteps ← getField trajectory "num_agent_steps" (.int frames.length)
  let timestampProvenance ← getField trajectory "timestamp_provenance" .null
  let summary ← observableSummary python frames
  return .obj [
    ("feature_refs",featureRefs converterVersion),
    ("objective",objectiveMeta python objectiveText),
    ("observable_summary",.obj (summary.measures ++ summary.tools)),
    ("prefix",.str "full"),
    ("repo",repo),
    ("run_id",runId),
    ("task_id",taskId),
    ("trace_id",traceId),
    ("trajectory",.obj [
      ("num_agent_steps",numAgentSteps),
      ("num_messages",numMessages),
      ("timestamp_provenance",timestampProvenance)])]

def shape (refs : ConversionRefs) : ExampleShape where
  datasetFamily
  datasetId
  converterVersion
  labelProvenance := .obj [
    ("confidence",.str "high"),
    ("description",.str "SWE-Gym/OpenHands sampled harness outcome carried through the PneumaTrace envelope."),
    ("kind",.str "harness_outcome")]
  privacyStatus := "redaction_verified"
  redactionReceipt := .obj [
    ("report_ref",.str (refs.adapterReport ++ "#privacy.redaction_totals")),
    ("status",.str "verified")]
  blockedTrainingUses := ["current-pass training","E1/E2 execution","calibration","runtime integration",
    "J-space/Jacobian Lens work","SWE-chat processing","consciousness claims"]

def convertTrace (refs : ConversionRefs) (trace : Json) : Py Json := do
  let resolved ← resolvedOf trace
  let traceId ← traceIdOf python trace
  let labels ← mapField trace "labels"
  let provenance ← mapField trace "provenance"
  let sourceHash ← sourceHashOf python trace traceId
  let taskId ← taskIdOf labels provenance
  let revision := orElse (← getField provenance "hf_revision" .null) (.str sourceRevision)
  let input ← inputPayload python trace
  let repo ← getField labels "repo" .null
  return exampleOf (shape refs) refs traceId sourceHash revision input repo taskId resolved

end OpenHands

namespace OpenSweTraces

def sourceRevision : String := "474d016b4a35a0411a7f57183579eab8924e9ea5"

def converterVersion : String := "open-swe-traces-training/0.1.0"

def resolvedOf (trace : Json) : Py Bool := do
  let labels ← mapField trace "labels"
  let outcome ← mapField trace "outcome"
  let labelResolved ← getField labels "resolved" .null
  let outcomeResolved ← getField outcome "resolved" .null
  resolvedLabel [labelResolved,outcomeResolved]

def objectiveMeta (trace : Json) : Py Json := do
  let world ← firstWorld (← listField trace "frames")
  let objective ← mapField world "objective"
  let present ← getField objective "present" .null
  let mode ← getField objective "mode" (.str "digest_only")
  let digest ← getField objective "text_sha256" .null
  let length ← getField objective "text_length" .null
  return .obj ([("mode",mode),("present",.bool (truthy present))] ++
    (if length = .null then [] else [("text_length",length)]) ++
    (if truthy digest then [("text_sha256",digest)] else []))

def sourceGroupOf (labels provenance : Json) : Py Json := do
  let sourceGroup ← getField labels "source_group" .null
  if truthy sourceGroup then return sourceGroup
  getField provenance "source_group" .null

def inputPayload (trace : Json) : Py Json := do
  let frames ← agentFrames python trace
  let labels ← mapField trace "labels"
  let provenance ← mapField trace "provenance"
  let trajectory ← mapField trace "trajectory"
  let summary ← observableSummary python frames
  let sourceGroup ← sourceGroupOf labels provenance
  let revision := orElse (← getField provenance "hf_revision" .null) (.str sourceRevision)
  let language ← getField labels "language" .null
  let instanceIdDigest ← getField labels "instance_id_digest" .null
  let repoDigest ← getField labels "repo_digest" .null
  let trajectoryIdDigest ← getField labels "trajectory_id_digest" .null
  let license ← getField labels "license" .null
  let numMessages ← getField trajectory "num_messages" (.int 0)
  let numAgentSteps ← getField trajectory "num_agent_steps" (.int frames.length)
  let objective ← objectiveMeta trace
  return .obj [
    ("dataset",.obj [
      ("dataset_family",.str Governance.datasetFamily),
      ("dataset_id",.str Governance.datasetId),
      ("hf_revision",revision),
      ("source_group",sourceGroup)]),
    ("feature_refs",featureRefs converterVersion),
    ("language",language),
    ("objective",objective),
    ("observable_summary",.obj summary.measures),
    ("source",.obj [
      ("instance_id_digest",instanceIdDigest),
      ("license",license),
      ("repo_digest",repoDigest),
      ("trajectory_id_digest",trajectoryIdDigest)]),
    ("tool_summary",.obj summary.tools),
    ("trajectory_summary",.obj [
      ("num_agent_steps",numAgentSteps),
      ("num_messages",numMessages)])]

def shape (refs : ConversionRefs) : ExampleShape where
  datasetFamily := Governance.datasetFamily
  datasetId := Governance.datasetId
  converterVersion
  labelProvenance := .obj [
    ("confidence",.str "medium"),
    ("description",.str ("Open-SWE-Traces resolved is an automated verifier outcome over " ++
      "synthetic Minimax-M2.5/Qwen3.5 trajectories, not a human-graded judgment and not a Pneuma/9to5 harness result.")),
    ("kind",.str "constructed_label")]
  privacyStatus := "public_or_benchmark"
  redactionReceipt := .obj [("report_ref",.str (refs.adapterReport ++ "#privacy")),("status",.str "not_needed")]
  blockedTrainingUses := Governance.blockedTrainingUses

def convertTrace (refs : ConversionRefs) (trace : Json) : Py Json := do
  let resolved ← resolvedOf trace
  let traceId ← traceIdOf python trace
  let labels ← mapField trace "labels"
  let provenance ← mapField trace "provenance"
  let sourceHash ← sourceHashOf python trace traceId
  let input ← inputPayload python trace
  let leakage := Governance.checkExampleInputLeakage python taskType input
  demand leakage.isEmpty (.valueError ("input payload failed leakage scan: " ++ str python (.arr leakage)))
  let revision := orElse (← getField provenance "hf_revision" .null) (.str sourceRevision)
  let repoDigest ← getField labels "repo_digest" .null
  let instanceIdDigest ← getField labels "instance_id_digest" .null
  return exampleOf (shape refs) refs traceId sourceHash revision input repoDigest instanceIdDigest resolved

end OpenSweTraces

end PneumaLab.Traces
