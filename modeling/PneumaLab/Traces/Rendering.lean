import PneumaLab.Library.JsonAscii
import PneumaLab.Traces.Converters

namespace PneumaLab.Traces

open Foundation

inductive TerminalRole where
  | train
  | eval
  | governance
  deriving DecidableEq, Repr

def TerminalRole.value : TerminalRole → String
  | .train => "train"
  | .eval => "eval"
  | .governance => "governance"

inductive GradientEligibility where
  | firstStage
  | later
  | never
  deriving DecidableEq, Repr

def GradientEligibility.value : GradientEligibility → String
  | .firstStage => "first_stage"
  | .later => "later"
  | .never => "never"

structure LaneDisposition where
  terminalRole : TerminalRole
  gradientEligibility : GradientEligibility
  licenseDisposition : String
  privacyDisposition : String
  dualUseDisposition : String
  oracleDisposition : String

def LaneDisposition.asdict (disposition : LaneDisposition) : Json := .obj [
  ("dual_use_disposition",.str disposition.dualUseDisposition),
  ("gradient_eligibility",.str disposition.gradientEligibility.value),
  ("license_disposition",.str disposition.licenseDisposition),
  ("oracle_disposition",.str disposition.oracleDisposition),
  ("privacy_disposition",.str disposition.privacyDisposition),
  ("terminal_role",.str disposition.terminalRole.value)]

def trajectoryPromptFields : List String := ["num_agent_steps","num_messages"]

def observableNumericPromptFields : List String := [
  "assistant_text_length_max","assistant_text_length_mean","error_density","error_observation_count","observation_count",
  "observation_length_max","observation_length_mean","retry_count_max","retry_count_mean","steps_retry_ge2",
  "strategy_switches_final","tool_call_count"]

def reviewedFeatureRefs : List String :=
  ["open-swe-traces-training/0.1.0","openhands-sampled-training/0.1.0","pneuma-estimators-features/0.1.0"]

def validatedResolvedTarget (example_ : Json) : Py Bool := do
  let target ← getField example_ "target" .null
  demand (isMapping target) (.foundationRecordError "target must be a mapping")
  match lookupField target "resolved" with
  | some (.bool resolved) => return resolved
  | _ => .error (.foundationRecordError "target.resolved must be a bool")

def requiredNonemptyString (value : Json) (field : String) : Py String :=
  match value with
  | .str text => do
    demand (text ≠ "") (.foundationRecordError (field ++ " must be a nonempty string"))
    return text
  | _ => .error (.foundationRecordError (field ++ " must be a nonempty string"))

def validatedTokenizerRevision (revision : String) : Py String := do
  demand (revision.length = 40 && revision.toList.all fun c => decide (c ∈ lowerHex))
    (.foundationRecordError "tokenizer_revision must be a lowercase 40-character hex string")
  return revision

def validatedSourceRevision (value : Json) : Py Json := do
  demand (orNull isText value) (.foundationRecordError "source_revision must be a string or null")
  return value

def forecastTarget (resolved : Bool) (name : String) : Json :=
  let value : Option Bool :=
    if name = "action_success" then some resolved else if name = "expected_error" then some !resolved else none
  match value with
  | some value => .obj [
    ("applicable",.bool true),("provenance",.str "observed_outcome"),("value",.float (if value then "1.0" else "0.0"))]
  | none => .obj [("applicable",.bool false),("provenance",.null),("value",.null)]

def forecastNames : List String :=
  ["action_success","expected_error","intervention_response","latency_cost","retrieval_usefulness","token_cost",
    "tool_cost","verifier_outcome"]

def renderForecastTargets (resolved : Bool) : Json := .obj (forecastNames.map fun name => (name,forecastTarget resolved name))

section Prompt

def floatLimit : ℤ := 2 ^ 1024 - 2 ^ 970

def isSafeNumericFeature : Json → Py Bool
  | .int value => do
    demand (decide (|value| < floatLimit)) (.overflowError "int too large to convert to float")
    return decide (0 ≤ value)
  | .float text => .ok (decide (text ∉ ["nan","inf","-inf"]) && decide (0 ≤ floatValue text.toList))
  | _ => .ok false

def renderNumericFields (names : List String) (value : Json) : Py (List (String × Json)) := do
  let kept ← names.mapM fun name => do
    match lookupField value name with
    | some feature => return if ← isSafeNumericFeature feature then [(name,feature)] else []
    | none => return []
  return kept.flatten

def renderTrajectoryPayload (value : Json) : Py Json :=
  if isMapping value then do
    let fields ← renderNumericFields trajectoryPromptFields value
    return .obj (fields ++ if lookupField value "timestamp_provenance" = some (.str "synthetic-ordinal") then
      [("timestamp_provenance",.str "synthetic-ordinal")] else [])
  else return .obj []

def renderObservableSummary (value : Json) : Py Json :=
  if isMapping value then do return .obj (← renderNumericFields observableNumericPromptFields value)
  else return .obj []

def renderFeatureRefs : Json → Json
  | .arr items => .arr (((items.filterMap fun item =>
      match item with
      | .str text => if text ∈ reviewedFeatureRefs then some text else none
      | _ => none).mergeSort fun x y => x ≤ y).map .str)
  | _ => .arr []

def renderObjectivePayload : Option Json → Py Json
  | none => return .obj [("present",.bool false),("text_length",.int 0)]
  | some value => do
    demand (isMapping value) (.foundationRecordError "objective must be a mapping")
    match (lookupField value "present").getD (.bool false) with
    | .bool present =>
      match (lookupField value "text_length").getD (.int 0) with
      | .int length => do
        demand (0 ≤ length) (.foundationRecordError "objective.text_length must be a nonnegative integer")
        return .obj [("present",.bool present),("text_length",.int length)]
      | _ => .error (.foundationRecordError "objective.text_length must be a nonnegative integer")
    | _ => .error (.foundationRecordError "objective.present must be a bool")

def renderPromptPayload (example_ : Json) : Py Json := do
  let input ← mapField example_ "input"
  let start ← getField input "prefix" .null
  let trajectory ← renderTrajectoryPayload (← getField input "trajectory" .null)
  let summary ← renderObservableSummary (← getField input "observable_summary" .null)
  let objective ← renderObjectivePayload (lookupField input "objective")
  let refs ← getField input "feature_refs" .null
  return .obj [
    ("feature_refs",renderFeatureRefs refs),
    ("objective",objective),
    ("observable_summary",summary),
    ("prefix",if start = .str "full" then start else .null),
    ("trajectory",trajectory)]

def compactText (v : Json) : String := Json.ascii (Json.dumps v)

end Prompt

section Record
variable (python : Interpreter)

def isHexDigest (text : List Char) : Bool := decide (text.length = 64) && text.all fun c => decide (c ∈ lowerHex)

def digestText (value : String) : String :=
  if "sha256:".toList.isPrefixOf value.toList && isHexDigest (python.casefold (String.ofList (value.toList.drop 7))).toList then
    python.casefold (String.ofList (value.toList.drop 7))
  else sha256Hex python value

def foundationIdentity (example_ : Json) (promptText : String) : Py Json := do
  let input ← mapField example_ "input"
  let splitGroup ← mapField example_ "split_group"
  let objective ← mapField input "objective"
  let fuzzySource := str python (orElse (← getField objective "text_sha256" .null) (.str promptText))
  let taskId := orElse (← getField splitGroup "task_id" .null) (← getField input "task_id" .null)
  let repo := orElse (← getField splitGroup "repo" .null) (← getField input "repo" .null)
  let issueOrPr := orElse (← getField input "issue_or_pr" .null) taskId
  let baseCommit ← getField input "base_commit" .null
  let patch ← getField input "patch_sha256" .null
  let testPatch ← getField input "test_patch_sha256" .null
  return .obj [
    ("base_commit",baseCommit),
    ("fuzzy_text_sha256",.str (digestText python fuzzySource)),
    ("issue_or_pr",issueOrPr),
    ("patch_sha256",patch),
    ("repo",repo),
    ("task_id",taskId),
    ("test_patch_sha256",testPatch)]

def observedFields (example_ : Json) : Py (List (String × Json)) := do
  let input ← mapField example_ "input"
  let summary ← mapField input "observable_summary"
  let trajectory ← mapField input "trajectory"
  let language := str python (orElse (← getField input "language" .null) (.str "unknown"))
  let names ← iterate (← mapField summary "tool_counts")
  let tools := (names.map (str python)).mergeSort fun x y => x ≤ y
  let length ← countField python trajectory "num_agent_steps"
  return [("language",.str language),("tools",.arr (tools.map .str)),("trajectory_length",.int length)]

def foundationObservations (example_ : Json) (resolved : Bool) : Py Json := do
  return .obj (("labels",.obj [("resolved",.bool resolved)]) :: (← observedFields python example_))

structure RenderContext where
  laneDisposition : LaneDisposition
  splitAssignment : Json
  encode : String → List ℕ
  tokenizerRevision : String
  sourceReceiptHashes : List String
  schemaMessage : Json → String

structure RenderedParts where
  resolved : Bool
  datasetFamily : String
  datasetId : String
  exampleId : String
  splitId : String
  sourceRevision : Json
  tokenizerRevision : String
  prompt : Json
  target : Json
  identity : Json
  quarantineId : Json
  observations : Json

def renderedParts (context : RenderContext) (example_ : Json) : Py RenderedParts := do
  let resolved ← validatedResolvedTarget example_
  let datasetFamily ← requiredNonemptyString (← getField example_ "dataset_family" .null) "dataset_family"
  let datasetId ← requiredNonemptyString (← getField example_ "dataset_id" .null) "dataset_id"
  let exampleId ← requiredNonemptyString (← getField example_ "example_id" .null) "example_id"
  demand (isMapping context.splitAssignment) (.foundationRecordError "split_assignment must be a mapping")
  let splitId ← requiredNonemptyString (← getField context.splitAssignment "split_id" .null) "split_id"
  let sourceRevision ← validatedSourceRevision (← getField example_ "source_revision" .null)
  let tokenizerRevision ← validatedTokenizerRevision context.tokenizerRevision
  let prompt ← renderPromptPayload example_
  let target ← getField example_ "target" .null
  demand target.finite (.foundationRecordError "target must be canonical JSON")
  let identity ← foundationIdentity python example_ (compactText prompt)
  let quarantineId ← getField context.splitAssignment "quarantine_id" .null
  let observations ← foundationObservations python example_ resolved
  return {
    resolved,datasetFamily,datasetId,exampleId,splitId,sourceRevision,tokenizerRevision,prompt,target,identity,
    quarantineId,observations}

def RenderedParts.source (parts : RenderedParts) (context : RenderContext) : Json := .obj [
  ("dataset_family",.str parts.datasetFamily),
  ("lane_id",.str parts.datasetId),
  ("receipt_hashes",.arr ((context.sourceReceiptHashes.mergeSort fun x y => x ≤ y).map .str)),
  ("source_record_id",.str parts.exampleId),
  ("source_revision",parts.sourceRevision)]

def recordId (source : Json) : String := "ftr:" ++ sha256Hex python (Json.ascii (Json.spaced source))

def tokenCount (context : RenderContext) (v : Json) : ℕ := (context.encode (compactText v)).length

def RenderedParts.record (parts : RenderedParts) (context : RenderContext) : Json := .obj [
  ("disposition",context.laneDisposition.asdict),
  ("forecast_targets",renderForecastTargets parts.resolved),
  ("identity",parts.identity),
  ("observations",parts.observations),
  ("record_id",.str (recordId python (parts.source context))),
  ("record_kind",.str "pneuma_foundation_training_record"),
  ("record_schema_version",.str "0.1.0"),
  ("rendered",.obj [
    ("prompt_text",.str (compactText parts.prompt)),
    ("target_text",.str (compactText parts.target))]),
  ("source",parts.source context),
  ("split",.obj [("quarantine_id",parts.quarantineId),("split_id",.str parts.splitId)]),
  ("tokenization",.obj [
    ("prompt_tokens",.int (tokenCount context parts.prompt)),
    ("target_tokens",.int (tokenCount context parts.target)),
    ("tokenizer_id",.str "Qwen/Qwen3.5-2B"),
    ("tokenizer_revision",.str parts.tokenizerRevision),
    ("total_tokens",.int (tokenCount context parts.prompt + tokenCount context parts.target))]),
  ("training_weight",.float "0.0")]

def validateRendered (context : RenderContext) (record : Json) : Py Unit := do
  demand record.finite (.foundationRecordError "foundation record must be canonical JSON")
  demand (conformsRecord record) (.foundationRecordError (context.schemaMessage record))

def renderFoundationRecord (context : RenderContext) (example_ : Json) : Py Json := do
  let parts ← renderedParts python context example_
  let record := parts.record python context
  validateRendered context record
  return record

end Record

end PneumaLab.Traces
