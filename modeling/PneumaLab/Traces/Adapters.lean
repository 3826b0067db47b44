import PneumaLab.Traces.Trajectory

namespace PneumaLab.Traces

open Foundation

variable (python : Interpreter) (recording : Recording)

structure TraceIds where
  traceId : String
  runId : String

def blakeHex (size : ℕ) (text : String) : String := String.ofList (hexChars (python.blake2b size (utf8 text)))

def deriveIds (dataset sourceId hfRevision : String) : TraceIds :=
  let identity := blakeHex python 16 (dataset ++ "\x00" ++ sourceId ++ "\x00" ++ hfRevision)
  ⟨"ptrace:" ++ identity,"run:" ++ identity⟩

def contentHash (trace : Json) : String := blakeHex python 32 (canonicalJson trace)

structure Origin where
  hfRevision : String
  sourceFile : String
  sourceRow : ℕ
  sourceGroup : String

def governanceFrame (runId : String) : Json := .obj [
  ("frame_kind",.str "governance"),
  ("kill_switch_state",.str "off"),
  ("run_id",.str runId),
  ("schema_version",.str "0.1.0"),
  ("timestamp",.str (recording.syntheticTimestamp 0)),
  ("timestamp_provenance",.str "synthetic-ordinal"),
  ("verifier_isolation",.bool true)]

def worldFrame (objective repoState : Json) (runId : String) : Json := .obj [
  ("frame_kind",.str "world"),
  ("objective",objective),
  ("phase",.str "preamble"),
  ("repo_state",repoState),
  ("run_id",.str runId),
  ("schema_version",.str "0.1.0"),
  ("test_state",.obj [("not_yet_run",.bool true),("ran",.bool false)]),
  ("timestamp",.str (recording.syntheticTimestamp 0)),
  ("timestamp_provenance",.str "synthetic-ordinal")]

def encodable (v : Json) : Py String :=
  match v with
  | .str text => .ok text
  | v => .error (.attributeError ("'" ++ typeName v ++ "' object has no attribute 'encode'"))

def trajectoryBlock (sourceKind : String) (agentRunId : Json) (extraction : Extraction) : Json := .obj [
  ("agent_run_id",agentRunId),
  ("num_agent_steps",.int extraction.numAgentSteps),
  ("num_messages",.int extraction.numMessages),
  ("present",.bool true),
  ("source_kind",.str sourceKind),
  ("timestamp_provenance",.str "synthetic-ordinal")]

def buildBlock (generatedFrom : List String) (hash : String) : Json := .obj [
  ("content_hash",.str hash),
  ("deterministic",.bool true),
  ("frame_sources",.obj [
    ("agent-trace-frame",.str "dataset-derived-trajectory"),
    ("governance-frame",.str "synthetic-contract-minimum"),
    ("world-frame",.str "dataset-derived")]),
  ("generated_from",.arr (generatedFrom.map .str))]

def validationBlock : Json := .obj [("schema",.str "pneuma-trace.schema.json"),("status",.str "valid")]

def sealTrace (traceOf : String → Fields) : Json :=
  .obj (traceOf (contentHash python (.obj (traceOf ""))) ++ [("validation",validationBlock)])

namespace OpenSweTraces

def resolvedToBool (value : Json) : Py Bool :=
  if numberOf value = some 1 then .ok true
  else if numberOf value = some 0 then .ok false
  else .error (.valueError ("resolved is unknown (" ++ python.strOf value ++ "); only 0/1 are convertible"))

def digest (text : String) : String := "sha256:" ++ sha256Hex python text

def adapterObjective (firstUserText : String) : Json :=
  .obj ([("mode",.str "digest_only"),("present",.bool (firstUserText ≠ ""))] ++
    if firstUserText = "" then [] else
      [("text_length",.int firstUserText.length),("text_sha256",.str (digest python firstUserText))])

def patchStats (patchStruct : Json) : Py Json := do
  let fields := orElse patchStruct (.obj [])
  let patch ← encodable (orElse (← getField fields "patch" .null) (.str ""))
  let files ← countField python fields "num_modified_files"
  let lines ← countField python fields "num_modified_lines"
  return .obj [
    ("length",.int patch.length),
    ("num_modified_files",.int files),
    ("num_modified_lines",.int lines),
    ("sha256",.str (digest python patch))]

def referenceSupervision (metadata : Json) : Py Json := do
  let fields := orElse metadata (.obj [])
  let reference ← patchStats python (← getField fields "reference_patch" .null)
  let model ← patchStats python (← getField fields "model_patch" .null)
  return .obj [("model_patch",model),("reference_patch",reference)]

structure Recorded where
  ids : TraceIds
  sourceId : String
  trajectoryId : Json
  extraction : Extraction
  repoDigest : String
  instanceDigest : String
  trajectoryDigest : String
  license : Json
  language : Json

def identifiersOf (row : Fields) : Py (Json × Json) := do
  let instanceId ← getField (.obj row) "instance_id" .null
  demand (truthy instanceId) (.valueError "missing instance_id")
  let trajectoryId ← getField (.obj row) "trajectory_id" .null
  demand (truthy trajectoryId) (.valueError "missing trajectory_id")
  return (instanceId,trajectoryId)

def repoDigestOf (repo : Json) : Py String := if truthy repo then (digest python) <$> encodable repo else .ok ""

def recordedOf (origin : Origin) (row : Fields) (instanceId trajectoryId : Json) : Py Recorded := do
  let sourceId := str python instanceId ++ "::" ++ str python trajectoryId
  let ids := deriveIds python "open-swe-traces" sourceId origin.hfRevision
  let messages ← getField (.obj row) "trajectory" .null
  let extraction ← extractAgentTraceFrames python recording messages ids.runId
  let repo ← getField (.obj row) "repo" .null
  let repoDigest ← repoDigestOf python repo
  let instanceText ← encodable instanceId
  let trajectoryText ← encodable trajectoryId
  let license ← getField (.obj row) "license" .null
  let language ← getField (.obj row) "language" .null
  return {
    ids,sourceId,trajectoryId,extraction,repoDigest
    instanceDigest := digest python instanceText
    trajectoryDigest := digest python trajectoryText
    license := orElse license .null
    language := orElse language .null}

def traceFields (origin : Origin) (recorded : Recorded) (resolved hasPatch : Bool) (supervision : Json) (hash : String) :
    Fields := [
  ("adapter",.obj [("name",.str "open-swe-traces"),("version",.str "0.1.0")]),
  ("build",buildBlock ["dataset","instance_id::trajectory_id","hf_revision"] hash),
  ("frames",.arr (worldFrame recording (adapterObjective python recorded.extraction.firstUserText)
      (.obj [("repo_digest",.str recorded.repoDigest)]) recorded.ids.runId ::
    governanceFrame recording recorded.ids.runId :: recorded.extraction.frames)),
  ("labels",.obj [
    ("benchmark",.str "open-swe-traces"),
    ("has_patch",.bool hasPatch),
    ("has_trajectory",.bool true),
    ("instance_id_digest",.str recorded.instanceDigest),
    ("language",recorded.language),
    ("license",recorded.license),
    ("repo_digest",.str recorded.repoDigest),
    ("resolved",.bool resolved),
    ("source_group",.str origin.sourceGroup),
    ("split",.str "train"),
    ("task_family",.str "issue-resolution"),
    ("trajectory_id_digest",.str recorded.trajectoryDigest)]),
  ("oracle",.obj [("kind",.str "synthetic-verifier-outcome")]),
  ("outcome",.obj [
    ("kind",.str "open-swe-traces-verifier-report"),
    ("label_semantics",.str "synthetic-automated-verifier"),
    ("resolved",.bool resolved)]),
  ("privacy",.obj [
    ("pii_scanned",.bool true),("protection",.str "digest-only-by-construction"),("redactions",.arr []),
    ("status",.str "clean")]),
  ("provenance",.obj [
    ("dataset",.str "open-swe-traces"),
    ("dataset_variant",.str origin.sourceGroup),
    ("hf_repo",.str "nvidia/Open-SWE-Traces"),
    ("hf_revision",.str origin.hfRevision),
    ("source_file",.str origin.sourceFile),
    ("source_group",.str origin.sourceGroup),
    ("source_id",.str recorded.sourceId),
    ("source_row",.int origin.sourceRow)]),
  ("reference_supervision",supervision),
  ("run_id",.str recorded.ids.runId),
  ("schema_version",.str "0.2.0"),
  ("trace_id",.str recorded.ids.traceId),
  ("trajectory",trajectoryBlock "open-swe-traces-trajectory" recorded.trajectoryId recorded.extraction)]

def buildTrace (origin : Origin) (row : Fields) : Py Json := do
  let (instanceId,trajectoryId) ← identifiersOf row
  let verdict ← getField (.obj row) "resolved" .null
  let resolved ← resolvedToBool python verdict
  let recorded ← recordedOf python recording origin row instanceId trajectoryId
  let metadata ← getField (.obj row) "metadata" .null
  let supervision ← referenceSupervision python metadata
  let modelPatch ← getField (orElse metadata (.obj [])) "model_patch" .null
  return sealTrace python (traceFields python recording origin recorded resolved (truthy modelPatch) supervision)

end OpenSweTraces

namespace OpenHands

def lastDash (text : List Char) : Option (List Char) :=
  match text.reverse.dropWhile fun c => decide (c ≠ '-') with
  | [] => none
  | _ :: before => some before.reverse

def replaceFirstDunder : List Char → Option (List Char)
  | '_' :: '_' :: rest => some ('/' :: rest)
  | c :: rest => (replaceFirstDunder rest).map (c :: ·)
  | [] => none

def repoFromInstanceId (instanceId : Json) : Py Json :=
  match instanceId with
  | .str text => .ok (.str (((lastDash text.toList).bind replaceFirstDunder).elim "" String.ofList))
  | v => .error (.attributeError ("'" ++ typeName v ++ "' object has no attribute 'rpartition'"))

def reportFlags : List String := ["empty_generation","error_eval","failed_apply_patch","resolved","test_timeout"]

def reportBlock (report : Json) : List (String × Json) :=
  if isMapping report then
    [("report",.obj (reportFlags.filterMap fun flag => (lookupField report flag).map fun v => (flag,.bool (truthy v))))]
  else []

def outcomeBlock (row : Fields) : Py Json := do
  let resolved ← getField (.obj row) "resolved" .null
  let held ← getField (.obj row) "test_result" .null
  let testResult := match held with
    | .str text => (python.loads text).getD .null
    | v => v
  match testResult with
  | .obj fields => do
    let patch ← encodable (orElse ((fields.lookup "git_patch").getD .null) (.str ""))
    return .obj ([
      ("git_patch_length",.int patch.length),
      ("git_patch_sha256",.str (sha256Hex python patch)),
      ("kind",.str "swe-gym-harness-report")] ++ reportBlock ((fields.lookup "report").getD .null) ++
      [("resolved",.bool (truthy resolved))])
  | _ => return .obj [("kind",.str "swe-gym-harness-report"),("resolved",.bool (truthy resolved))]

def asList (v : Json) : List String :=
  match v with
  | .arr items => items.map (str python)
  | .str text =>
    match python.loads text with
    | some (.arr items) => items.map (str python)
    | _ => []
  | _ => []

def taskField (task : Option Fields) (key : String) : Json := ((task.getD []).lookup key).getD .null

def goldSupervision (task : Option Fields) : Py Json :=
  if task.getD [] = [] then .ok (.obj [])
  else do
    let gold ← encodable (orElse (taskField task "patch") (.str ""))
    let test ← encodable (orElse (taskField task "test_patch") (.str ""))
    return .obj [("gold_patch_sha256",.str (sha256Hex python gold)),("test_patch_sha256",.str (sha256Hex python test))]

def hasTests (task : Option Fields) : Bool :=
  truthy (taskField task "test_patch") || !(asList python (taskField task "FAIL_TO_PASS")).isEmpty ||
    !(asList python (taskField task "PASS_TO_PASS")).isEmpty

structure Recorded where
  ids : TraceIds
  sourceId : String
  instanceId : Json
  agentRunId : Json
  extraction : Extraction
  repo : Json
  baseCommit : Json
  joined : Bool

def identifiersOf (row : Fields) : Py (Json × Json) := do
  let instanceId ← getField (.obj row) "instance_id" .null
  demand (truthy instanceId) (.valueError "missing instance_id")
  let agentRunId ← getField (.obj row) "run_id" .null
  demand (truthy agentRunId) (.valueError "missing run_id")
  return (instanceId,agentRunId)

def repoOf (instanceId : Json) (task : Option Fields) : Py Json :=
  if truthy (taskField task "repo") then .ok (taskField task "repo") else repoFromInstanceId instanceId

def recordedOf (origin : Origin) (row : Fields) (task : Option Fields) (instanceId agentRunId : Json) : Py Recorded := do
  let sourceId := str python instanceId ++ "::" ++ str python agentRunId
  let ids := deriveIds python "swe-gym" sourceId origin.hfRevision
  let messages ← getField (.obj row) "messages" .null
  let extraction ← extractAgentTraceFrames python recording messages ids.runId
  let repo ← repoOf instanceId task
  return {
    ids,sourceId,instanceId,agentRunId,extraction,repo
    baseCommit := taskField task "base_commit"
    joined := task.isSome}

structure Judged where
  resolved : Bool
  hasPatch : Bool
  hasTests : Bool
  outcome : Json
  supervision : Json
  failToPass : List String
  passToPass : List String

def judgedOf (row : Fields) (task : Option Fields) (resolved : Json) : Py Judged := do
  let supervision ← goldSupervision python task
  let outcome ← outcomeBlock python row
  return {
    resolved := truthy resolved
    hasPatch := truthy (taskField task "patch")
    hasTests := hasTests python task
    outcome,supervision
    failToPass := asList python (taskField task "FAIL_TO_PASS")
    passToPass := asList python (taskField task "PASS_TO_PASS")}

def repoState (recorded : Recorded) : Json :=
  .obj ((if truthy recorded.baseCommit then [("head_sha",recorded.baseCommit)] else []) ++ [("repo",recorded.repo)])

def redactionLedger (ledger : List (String × ℕ)) : Json :=
  .arr (ledger.map fun entry => .obj [("count",.int entry.2),("kind",.str entry.1)])

def traceFields (origin : Origin) (recorded : Recorded) (judged : Judged) (hash : String) : Fields :=
  let redacted := recording.redactText recorded.extraction.firstUserText
  [("adapter",.obj [("name",.str "openhands-sampled"),("version",.str "0.1.0")]),
  ("build",buildBlock ["dataset","instance_id::run_id","hf_revision"] hash),
  ("frames",.arr (worldFrame recording (.obj [("text",.str redacted.1)]) (repoState recorded) recorded.ids.runId ::
    governanceFrame recording recorded.ids.runId :: recorded.extraction.frames)),
  ("labels",.obj [
    ("benchmark",.str "swe-gym"),
    ("has_patch",.bool judged.hasPatch),
    ("has_tests",.bool judged.hasTests),
    ("has_trajectory",.bool true),
    ("instance_id",recorded.instanceId),
    ("language",.str "python"),
    ("repo",recorded.repo),
    ("resolved",.bool judged.resolved),
    ("split",.str "train"),
    ("task_family",.str "issue-resolution")]),
  ("oracle",.obj [
    ("fail_to_pass",.arr (judged.failToPass.map .str)),
    ("kind",.str "test-based"),
    ("pass_to_pass",.arr (judged.passToPass.map .str))]),
  ("outcome",judged.outcome),
  ("privacy",.obj [
    ("pii_scanned",.bool true),
    ("redactions",redactionLedger redacted.2),
    ("status",.str (if redacted.2 = [] then "clean" else "redacted"))]),
  ("provenance",.obj [
    ("dataset",.str "swe-gym"),
    ("dataset_variant",.str "OpenHands-Sampled-Trajectories"),
    ("hf_repo",.str "SWE-Gym/OpenHands-Sampled-Trajectories"),
    ("hf_revision",.str origin.hfRevision),
    ("source_file",.str origin.sourceFile),
    ("source_id",.str recorded.sourceId),
    ("source_row",.int origin.sourceRow),
    ("task_join",.obj [("hf_repo",.str "SWE-Gym/SWE-Gym"),("joined",.bool recorded.joined)])]),
  ("reference_supervision",judged.supervision),
  ("run_id",.str recorded.ids.runId),
  ("schema_version",.str "0.2.0"),
  ("trace_id",.str recorded.ids.traceId),
  ("trajectory",trajectoryBlock "openai-chat-messages" recorded.agentRunId recorded.extraction)]

def buildTrace (origin : Origin) (row : Fields) (task : Option Fields) : Py Json := do
  let (instanceId,agentRunId) ← identifiersOf row
  let resolved ← getField (.obj row) "resolved" .null
  demand (resolved ≠ .null) (.valueError "missing resolved label")
  let recorded ← recordedOf python recording origin row task instanceId agentRunId
  let judged ← judgedOf python row task resolved
  return sealTrace python (traceFields recording origin recorded judged)

end OpenHands

end PneumaLab.Traces
