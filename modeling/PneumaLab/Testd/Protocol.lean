import PneumaLab.Exceptions
import PneumaLab.Library.JsonUnits

namespace PneumaLab.Testd

abbrev WireText := {text : CodePoints // text ≠ [] ∧ Document.IsText text}

inductive Command where
  | run
  | smoke
  | status
  | stop
  deriving DecidableEq, Repr

def Command.text : Command → CodePoints
  | run => codePoints "run"
  | smoke => codePoints "smoke"
  | status => codePoints "status"
  | stop => codePoints "stop"

def commands : List Command := [.run,.smoke,.status,.stop]

def commandOf (text : CodePoints) : Option Command := commands.find? fun command => command.text = text

inductive WireKey where
  | applicationFingerprint
  | command
  | dependencyFingerprint
  | exitCode
  | kind
  | nodeIds
  | paths
  | protocolVersion
  | wideningReason
  | workerPid
  deriving DecidableEq, Repr

namespace WireKey

def name : WireKey → String
  | applicationFingerprint => "application_fingerprint"
  | command => "command"
  | dependencyFingerprint => "dependency_fingerprint"
  | exitCode => "exit_code"
  | kind => "kind"
  | nodeIds => "node_ids"
  | paths => "paths"
  | protocolVersion => "protocol_version"
  | wideningReason => "widening_reason"
  | workerPid => "worker_pid"

def units (key : WireKey) : CodePoints := codePoints key.name

end WireKey

section Shapes

def isNameUnit (unit : ℕ) : Bool :=
  decide (48 ≤ unit ∧ unit ≤ 57) || decide (65 ≤ unit ∧ unit ≤ 90) || decide (97 ≤ unit ∧ unit ≤ 122) || unit == 95

def isPathUnit (unit : ℕ) : Bool := isNameUnit unit || decide (unit ∈ [45,46,47])

-- ^tests/[A-Za-z0-9_./-]+\.py::test_[A-Za-z0-9_]+$: no colon is a unit of a path, so the path ends where it has to.
def nodeIdShaped (text : CodePoints) : Bool :=
  let behind := text.drop (codePoints "tests/").length
  let path := behind.takeWhile isPathUnit
  let test := behind.dropWhile isPathUnit
  let name := test.drop (codePoints "::test_").length
  (codePoints "tests/").isPrefixOf text && (codePoints ".py").isSuffixOf path && decide (3 < path.length) &&
    (codePoints "::test_").isPrefixOf test && !name.isEmpty && name.all isNameUnit

end Shapes

section Messages

structure RunRequest where
  command : Command
  nodeIds : List WireText
  paths : List WireText
  nodeIds_unique : nodeIds.Nodup
  nodeIds_shaped : ∀ id ∈ nodeIds, nodeIdShaped id.val = true
  paths_unique : paths.Nodup

structure RunResult where
  exitCode : ℕ
  nodeIds : List WireText
  workerPid : Option {pid : ℕ // 0 < pid}
  applicationFingerprint : WireText
  dependencyFingerprint : WireText
  wideningReason : WireText
  nodeIds_unique : nodeIds.Nodup
  nodeIds_shaped : ∀ id ∈ nodeIds, nodeIdShaped id.val = true

inductive WireMessage where
  | request (message : RunRequest)
  | result (message : RunResult)

def protocolVersion : ℤ := 1

def maxMessageBytes : ℕ := 256 * 1024

def textDocument (text : WireText) : Document := .str text.val

def textArray (texts : List WireText) : Document := .arr (texts.map textDocument)

def pidDocument : Option {pid : ℕ // 0 < pid} → Document
  | none => .scalar .null
  | some pid => .scalar (.int pid.val)

-- The dict of a message, its keys in the order that sort_keys writes them.
def WireMessage.wireFields : WireMessage → List (WireKey × Document)
  | request message =>
    [(.command,.str message.command.text),(.kind,.str (codePoints "request")),(.nodeIds,textArray message.nodeIds),
      (.paths,textArray message.paths),(.protocolVersion,.scalar (.int protocolVersion))]
  | result message =>
    [(.applicationFingerprint,textDocument message.applicationFingerprint),
      (.dependencyFingerprint,textDocument message.dependencyFingerprint),(.exitCode,.scalar (.int message.exitCode)),
      (.kind,.str (codePoints "result")),(.nodeIds,textArray message.nodeIds),
      (.protocolVersion,.scalar (.int protocolVersion)),(.wideningReason,textDocument message.wideningReason),
      (.workerPid,pidDocument message.workerPid)]

def unitFields (fields : List (WireKey × Document)) : List (CodePoints × Document) :=
  fields.map fun field => (field.1.units,field.2)

def WireMessage.toWire (message : WireMessage) : Document := .obj (unitFields message.wireFields)

end Messages

section Codec

def encodeMessage (message : WireMessage) : Py Bytes :=
  let payload := utf8 (String.ofList (Document.dumps message.toWire))
  if maxMessageBytes < payload.length then .error (.valueError "message exceeds maximum size") else .ok payload

def lookup (fields : List (CodePoints × Document)) (key : WireKey) : Option Document :=
  (fields.find? fun field => field.1 = key.units).map Prod.snd

def item (fields : List (CodePoints × Document)) (key : WireKey) : Py Document := required (.keyError key.name) (lookup fields key)

def hasKeys (fields : List (CodePoints × Document)) (expected : List WireKey) : Bool :=
  fields.all (fun field => decide (field.1 ∈ expected.map WireKey.units)) &&
    expected.all fun key => decide (key.units ∈ fields.map Prod.fst)

def versionMatches (isOne : String → Bool) : Option Document → Bool
  | some (.scalar (.int value)) => value == 1
  | some (.scalar (.bool value)) => value
  | some (.scalar (.float text)) => isOne text
  | _ => false

def textOf : Document → Option WireText
  | .str text => if h : text ≠ [] ∧ Document.IsText text then some ⟨text,h⟩ else none
  | _ => none

def textsOf : List Document → Option (List WireText)
  | [] => some []
  | document :: rest => do return (← textOf document) :: (← textsOf rest)

def textTuple (field : String) : Document → Py {texts : List WireText // texts.Nodup}
  | .arr items =>
    match textsOf items with
    | none => .error (.valueError (field ++ " must be an array of non-empty text"))
    | some texts =>
      if h : texts.Nodup then .ok ⟨texts,h⟩ else .error (.valueError (field ++ " contains duplicates"))
  | _ => .error (.valueError (field ++ " must be an array of non-empty text"))

def nodeIdTuple (document : Document) :
    Py {texts : List WireText // texts.Nodup ∧ ∀ id ∈ texts, nodeIdShaped id.val = true} := do
  let texts ← textTuple "node_ids" document
  if h : ∀ id ∈ texts.val, nodeIdShaped id.val = true then .ok ⟨texts.val,texts.property,h⟩
  else .error (.valueError "node_ids are not manifest-shaped")

-- The str() of anything but a text is no command.
def commandText : Document → Option Command
  | .str text => commandOf text
  | _ => none

def requestKeys : List WireKey := [.command,.kind,.nodeIds,.paths,.protocolVersion]

def decodeRequest (fields : List (CodePoints × Document)) : Py WireMessage := do
  demand (hasKeys fields requestKeys) (.valueError "unknown fields")
  let command ← item fields .command
  let nodeIds ← nodeIdTuple (← item fields .nodeIds)
  let paths ← textTuple "paths" (← item fields .paths)
  let command ← required (.valueError "unknown command") (commandText command)
  return .request ⟨command,nodeIds.val,paths.val,nodeIds.property.1,nodeIds.property.2,paths.property⟩

def exactExitCode : Document → Py ℕ
  | .scalar (.int value) =>
    if 0 ≤ value then .ok value.toNat else .error (.valueError "exit_code must be a nonnegative exact integer")
  | _ => .error (.valueError "exit_code must be a nonnegative exact integer")

def exactPid : Document → Py (Option {pid : ℕ // 0 < pid})
  | .scalar .null => .ok none
  | .scalar (.int value) =>
    if h : 0 < value then .ok (some ⟨value.toNat,by omega⟩)
    else .error (.valueError "worker_pid must be a positive exact integer or null")
  | _ => .error (.valueError "worker_pid must be a positive exact integer or null")

def requiredText (key : WireKey) (document : Document) : Py WireText :=
  required (.valueError (key.name ++ " must be non-empty text")) (textOf document)

def resultKeys : List WireKey :=
  [.applicationFingerprint,.dependencyFingerprint,.exitCode,.kind,.nodeIds,.protocolVersion,.wideningReason,.workerPid]

def decodeResult (fields : List (CodePoints × Document)) : Py WireMessage := do
  demand (hasKeys fields resultKeys) (.valueError "unknown fields")
  let exitCode ← item fields .exitCode
  let nodeIds ← nodeIdTuple (← item fields .nodeIds)
  let workerPid ← item fields .workerPid
  let application ← item fields .applicationFingerprint
  let dependency ← item fields .dependencyFingerprint
  let widening ← item fields .wideningReason
  let exitCode ← exactExitCode exitCode
  let workerPid ← exactPid workerPid
  let application ← requiredText .applicationFingerprint application
  let dependency ← requiredText .dependencyFingerprint dependency
  let widening ← requiredText .wideningReason widening
  return .result ⟨exitCode,nodeIds.val,workerPid,application,dependency,widening,nodeIds.property.1,nodeIds.property.2⟩

def decodeMessage (isOne : String → Bool) (payload : Bytes) : Py WireMessage := do
  demand (decide (payload.length ≤ maxMessageBytes)) (.valueError "message exceeds maximum size")
  let text ← required (.valueError "invalid canonical JSON") (fromUtf8 payload)
  match ← required (.valueError "invalid canonical JSON") (Document.loads true text.toList) with
  | .obj fields => do
    demand (versionMatches isOne (lookup fields .protocolVersion)) (.valueError "wrong protocol version")
    match lookup fields .kind with
    | some (.str kind) =>
      if kind = codePoints "request" then decodeRequest fields
      else if kind = codePoints "result" then decodeResult fields
      else .error (.valueError "unknown message kind")
    | _ => .error (.valueError "unknown message kind")
  | _ => .error (.valueError "message must be one object")

end Codec

end PneumaLab.Testd
