import PneumaLab.Library.Program
import PneumaLab.ResamplingNull.Branch.Controller
import PneumaLab.ResamplingNull.Prefix.Environment

namespace PneumaLab.ResamplingNull

structure FrozenPrefix where
  state : WorkerState
  nonterminal : state.episodeTerminal = false
  unfailed : state.failureKind = .NONE

structure RestoredPrefixView where
  visibleSha256 : String
  tokenIdsSha256 : String
  branchPendingCalls : List ToolCall

structure SlotInputs where
  workOrder : OpaqueSlotWorkOrder
  view : RestoredPrefixView
  snapshot : FrozenPrefix
  taskInput : TaskInput
  program : SyntheticPrefixProgram
  programSha256 : String
  readBytes : ArtifactRef → Py Bytes
  elapsedMs : ℕ → ℕ

structure SubjectLoopState where
  handle : SyntheticEnvironmentHandle
  generatedTokens : ℕ
  modelCalls : ℕ
  toolCalls : ℕ
  callSeeds : List CallSeedReceipt
  failure : FailureKind

structure SlotResult where
  counters : ResourceCounters
  callSeeds : List CallSeedReceipt
  failureKind : FailureKind
  preInjectionVisibleSha256 : String
  preInjectionTokenIdsSha256 : String
  finalState : WorkerState

abbrev SubjectProgram := Program SubjectLoopState Raised

def tokenIdsBytes (visibleContext : Bytes) : Bytes :=
  canonicalJsonBytes (.obj [("token_ids",.arr ((SyntheticByteTokenizer.encode visibleContext).map fun n => .int n))])

def renderBranchRequest (subjectRole : SubjectRole) (contextBytes : Bytes) (guidanceBytes : Option Bytes) : Bytes :=
  canonicalJsonBytes (.obj [
    ("context_base64",.str (b64encode contextBytes)),
    ("grammar",.str "branch-request-v1"),
    ("guidance_base64",(guidanceBytes.map fun guidance => Json.str (b64encode guidance)).getD .null),
    ("subject_role",.str subjectRole.value)])

def SyntheticPrefixProgram.subjectRows (program : SyntheticPrefixProgram) : List SyntheticProviderTranscriptRow :=
  program.providerTranscript.filter fun row => decide (row.subjectRole = .primarySubject)

section Slot
variable (platform : Platform) (inputs : SlotInputs) (worker : SyntheticWorker) (guidanceBytes : Option Bytes)

def SlotInputs.caps (inputs : SlotInputs) : BranchCaps := inputs.workOrder.row.branchCaps

def exchangeBranch (operation : Operation) : SubjectProgram Unit :=
  .update fun s => do
    let handle ← s.handle.exchange worker operation
    return {s with handle}

def terminateBranch (kind : FailureKind) (pending : List ToolCall) : SubjectProgram Unit := do
  exchangeBranch worker (.terminate kind pending)
  .modify fun s => {s with failure := kind}

-- The cap that stops the subject before its next call, in the order of the code.
def boundCap (caps : BranchCaps) (elapsed : ℕ) (s : SubjectLoopState) : Option FailureKind :=
  if caps.wallClockMs ≤ elapsed then some .TIMEOUT
  else if caps.generatedTokens ≤ s.generatedTokens then some .TOKEN_CAP
  else if caps.modelCalls ≤ s.modelCalls then some .TOKEN_CAP
  else none

def runTools : List ToolCall → SubjectProgram Bool
  | [] => pure false
  | call :: rest => do
    let s ← Program.get
    if inputs.caps.toolCalls ≤ s.toolCalls then
      terminateBranch worker .TOOL_CAP (call :: rest)
      return true
    .modify fun s => {s with toolCalls := s.toolCalls + 1}
    exchangeBranch worker (.executeTool call)
    let s ← Program.get
    if s.handle.state.episodeTerminal then return false
    runTools rest

def subjectTurnOf (callIndex seed : ℕ) (row : SyntheticProviderTranscriptRow) (state : WorkerState) : Py SubjectTurn := do
  demand (row.seed = seed) (.recordValidationError "sealed transcript seed differs from the derived call seed")
  let request := renderBranchRequest .primarySubject state.visibleContext (if callIndex = 0 then guidanceBytes else none)
  let expected ← inputs.readBytes row.expectedRequestRef
  demand (request = expected) (.recordValidationError "rendered branch request differs from its sealed expectation")
  required (.recordValidationError "sealed branch transcript row carries no typed turn") row.typedTurn

def subjectCall (callIndex seed : ℕ) (row : SyntheticProviderTranscriptRow) : SubjectProgram Bool := do
  let s ← Program.get
  let turn ← Program.lift (subjectTurnOf inputs guidanceBytes callIndex seed row s.handle.state)
  .modify fun s => {s with
    modelCalls := s.modelCalls + 1
    callSeeds := s.callSeeds ++ [⟨.primarySubject,callIndex,seed⟩]}
  exchangeBranch worker (.appendTurn .primarySubject turn)
  .modify fun s => {s with generatedTokens := s.generatedTokens + turn.generatedTokens}
  runTools inputs worker turn.toolCalls

def runSubjectLoop (callIndex : ℕ) (rows : List SyntheticProviderTranscriptRow) : SubjectProgram Unit := do
  let s ← Program.get
  if s.handle.state.episodeTerminal then return ()
  match boundCap inputs.caps (inputs.elapsedMs callIndex) s with
  | some kind => terminateBranch worker kind []
  | none => do
    let seed ← Program.lift (deriveCallSeed platform inputs.workOrder.row.slot.seed .primarySubject callIndex)
    match rows with
    | [] => Program.raise (.recordValidationError "nonterminal branch outlived its sealed subject transcript")
    | row :: rest => do
      let capped ← subjectCall inputs worker guidanceBytes callIndex seed row
      if capped then return ()
      runSubjectLoop (callIndex + 1) rest

def restoreAndVerify : Py Unit := do
  let state := inputs.snapshot.state
  let order := inputs.workOrder.row
  demand ((platform.sha256 state.visibleContext).hex = order.prefixVisibleSha256)
    (.recordValidationError "restored visible context differs from the frozen prefix digest")
  demand (inputs.view.visibleSha256 = order.prefixVisibleSha256)
    (.recordValidationError "composite snapshot visible digest differs from the work order")
  demand ((platform.sha256 (tokenIdsBytes state.visibleContext)).hex = inputs.view.tokenIdsSha256)
    (.recordValidationError "restored token-id projection differs from the frozen prefix digest")
  demand (state.branchPendingCalls = inputs.view.branchPendingCalls)
    (.recordValidationError "composite snapshot pending calls differ from the restored environment")

def drainPending (executed : ℕ) : List ToolCall → SubjectProgram ℕ
  | [] => pure executed
  | call :: rest => do
    Program.lift (demand (executed < inputs.caps.toolCalls)
      (.recordValidationError "frozen pending prefix calls exceed the branch tool cap"))
    exchangeBranch worker (.executeTool call)
    drainPending (executed + 1) rest

def readGuidance : Py (Option Bytes) :=
  match inputs.workOrder.row.privateGuidanceRef with
  | none => .ok none
  | some ref => do return some (← inputs.readBytes ref)

def runRestoredSlot : SubjectProgram SlotResult := do
  let executed ← drainPending inputs worker 0 inputs.view.branchPendingCalls
  let s ← Program.get
  let preInjectionVisible := s.handle.state.visibleContext
  let guidanceBytes ← Program.lift (readGuidance inputs)
  .modify fun s => {s with toolCalls := executed}
  runSubjectLoop platform inputs worker guidanceBytes 0 inputs.program.subjectRows
  let s ← Program.get
  return {
    counters := ⟨s.generatedTokens,s.modelCalls,s.toolCalls,inputs.elapsedMs (s.modelCalls + 1)⟩
    callSeeds := s.callSeeds
    failureKind := if s.failure = .NONE then s.handle.state.failureKind else s.failure
    preInjectionVisibleSha256 := (platform.sha256 preInjectionVisible).hex
    preInjectionTokenIdsSha256 := (platform.sha256 (tokenIdsBytes preInjectionVisible)).hex
    finalState := s.handle.state}

def prepareSlot : Py SyntheticWorker := do
  demand (inputs.program.taskId = inputs.workOrder.row.taskId)
    (.recordValidationError "sealed program names a different task")
  let (worker,_) ← SyntheticWorker.start inputs.taskInput inputs.program inputs.programSha256
  restoreAndVerify platform inputs
  return worker

def SlotInputs.restored (inputs : SlotInputs) : SubjectLoopState where
  handle := .opened inputs.snapshot.state
  generatedTokens := 0
  modelCalls := 0
  toolCalls := 0
  callSeeds := []
  failure := .NONE

def runOpaqueSlot : Except Raised SlotResult × SubjectLoopState :=
  match prepareSlot platform inputs with
  | .error e => (.error e,inputs.restored)
  | .ok worker => runRestoredSlot platform inputs worker inputs.restored

end Slot

end PneumaLab.ResamplingNull
