import PneumaLab.Library.JsonAscii
import PneumaLab.Traces.Values

namespace PneumaLab.Traces

open Foundation

-- The patterns and the clock of adapters.trajectory.
structure Recording where
  errorMarker : String → Bool
  redactText : String → String × List (String × ℕ)
  syntheticTimestamp : ℕ → String

abbrev Fields := List (String × Json)

variable (python : Interpreter)

def canonicalJson (v : Json) : String := String.ofList (Json.dumps (Json.named v))

def contentText : Json → String
  | .null => ""
  | .str text => text
  | .arr parts => String.join (parts.map fun part =>
      match part with
      | .obj fields => str python ((fields.lookup "text").getD (.str ""))
      | v => str python v)
  | v => str python v

def argsDigest (arguments : Json) : String :=
  match arguments with
  | .str text => sha256Hex python text
  | v => sha256Hex python (canonicalJson v)

def decoded : Json → Py Json
  | .str text => required (.valueError "Expecting value") (python.loads text)
  | v => .ok v

def normalizeMessage (message : Json) : Py Json := do
  let message ← decoded python message
  demand (isMapping message) (.valueError ("message is not an object: " ++ typeName message))
  return message

def normalizeMessages (messages : Json) : Py (List Json) := do
  match ← decoded python messages with
  | .arr items => items.mapM (normalizeMessage python)
  | v => .error (.valueError ("messages is not a list: " ++ typeName v))

def toolCallRecord (call : Json) : Py Json := do
  let function ← mapField (orElse call (.obj [])) "function"
  let raw ← getField function "arguments" .null
  let arguments : Json := if raw = .null then .str "" else raw
  let name ← getField function "name" .null
  return .obj [
    ("args_digest",.str (argsDigest python arguments)),
    ("args_length",.int (str python arguments).length),
    ("tool",orElse name (.str "unknown"))]

def toolCallRecords (message : Json) : Py (List Json) := do
  (← listField message "tool_calls").mapM (toolCallRecord python)

def heldText (message : Json) : String := contentText python ((lookupField message "content").getD .null)

variable (recording : Recording)

def observationRecord (message : Json) : Json := .obj [
  ("content_length",.int (heldText python message).length),
  ("content_sha256",.str (sha256Hex python (heldText python message))),
  ("error_marker",.bool (recording.errorMarker (heldText python message)))]

structure Step where
  message : Json
  toolMessages : List Json

structure Grouping where
  steps : List Step
  firstUserText : Option String

def attach (message : Json) : List Step → List Step
  | [] => []
  | [step] => [{step with toolMessages := step.toolMessages ++ [message]}]
  | step :: rest => step :: attach message rest

def groupMessage (grouping : Grouping) (message : Json) : Grouping :=
  let role := lookupField message "role"
  if role = some (.str "user") ∧ grouping.firstUserText = none then
    {grouping with firstUserText := some (heldText python message)}
  else if role = some (.str "assistant") then {grouping with steps := grouping.steps ++ [⟨message,[]⟩]}
  else if role = some (.str "tool") then {grouping with steps := attach message grouping.steps}
  else grouping

def fieldOf (record : Json) (key : String) : Json := (lookupField record key).getD .null

def stepSignature (toolCalls : List Json) : List (Json × Json) :=
  toolCalls.map fun call => (fieldOf call "tool",fieldOf call "args_digest")

def toolTexts (toolCalls : List Json) : Py (List String) :=
  toolCalls.mapM fun call =>
    match fieldOf call "tool" with
    | .str name => .ok name
    | v => .error (.typeError ("sequence item 0: expected str instance, " ++ typeName v ++ " found"))

def selectedAction (names : List String) : Json :=
  if names = [] then .obj [("description",.str "assistant message"),("kind",.str "message")]
  else .obj [("description",.str (",".intercalate names)),("kind",.str "tool_call")]

structure Progress where
  signatures : List (List (Json × Json))
  strategySwitches : ℕ

def retryCount (signature : List (Json × Json)) (earlier : List (List (Json × Json))) : ℕ :=
  if signature = [] then 0 else (earlier.takeWhile fun other => decide (other = signature)).length

def switched (signature : List (Json × Json)) : List (List (Json × Json)) → Bool
  | [] => false
  | previous :: _ => decide (signature.map Prod.fst ≠ previous.map Prod.fst)

def agentTraceFrame (runId : String) (progress : Progress) (step : Step) : Py (Json × Progress) := do
  let toolCalls ← toolCallRecords python step.message
  let signature := stepSignature toolCalls
  let names ← toolTexts toolCalls
  let switches := progress.strategySwitches + if switched signature progress.signatures then 1 else 0
  let text := heldText python step.message
  let frame : Json := .obj [
    ("assistant_text_length",.int text.length),
    ("assistant_text_sha256",.str (sha256Hex python text)),
    ("frame_kind",.str "agent_trace"),
    ("observations",.arr (step.toolMessages.map (observationRecord python recording))),
    ("phase",.str (if toolCalls = [] then "other" else "execution")),
    ("retry_count",.int (retryCount signature progress.signatures)),
    ("run_id",.str runId),
    ("schema_version",.str "0.1.0"),
    ("selected_action",selectedAction names),
    ("step_index",.int progress.signatures.length),
    ("strategy_switches",.int switches),
    ("timestamp",.str (recording.syntheticTimestamp progress.signatures.length)),
    ("timestamp_provenance",.str "synthetic-ordinal"),
    ("tool_calls",.arr toolCalls)]
  return (frame,⟨signature :: progress.signatures,switches⟩)

def agentTraceFrames (runId : String) (progress : Progress) : List Step → Py (List Json)
  | [] => .ok []
  | step :: rest => do
    let (frame,progress) ← agentTraceFrame python recording runId progress step
    return frame :: (← agentTraceFrames runId progress rest)

structure Extraction where
  frames : List Json
  numMessages : ℕ
  numAgentSteps : ℕ
  firstUserText : String

def extractAgentTraceFrames (messages : Json) (runId : String) : Py Extraction := do
  let messages ← normalizeMessages python messages
  let grouping := messages.foldl (groupMessage python) ⟨[],none⟩
  demand (!grouping.steps.isEmpty) (.valueError "trajectory has no assistant step")
  let frames ← agentTraceFrames python recording runId ⟨[],0⟩ grouping.steps
  return {
    frames
    numMessages := messages.length
    numAgentSteps := grouping.steps.length
    firstUserText := grouping.firstUserText.getD ""}

end PneumaLab.Traces
