import PneumaLab.ResamplingNull.Assignment.Derivation
import PneumaLab.ResamplingNull.Branch.Records

namespace PneumaLab.ResamplingNull

structure ToolCall where
  callId : String
  name : String
  canonicalArgumentsJson : String
  deriving DecidableEq

structure SubjectTurn where
  text : String
  toolCalls : List ToolCall
  generatedTokens : ℕ
  finishReason : Option String
  distinct : (toolCalls.map ToolCall.callId).Nodup
  deriving DecidableEq

inductive RawProviderCompletionKind where
  | COMPLETED
  | TIMEOUT_NO_RESPONSE
  | TIMEOUT_LATE_RESPONSE
  | REFUSAL
  | MALFORMED_RESPONSE
  | PROVIDER_ERROR
  | INFRASTRUCTURE_ERROR
  deriving DecidableEq, Repr

structure SyntheticProviderTranscriptRow where
  subjectRole : SubjectRole
  callIndex : ℕ
  seed : ℕ
  modelContractSha256 : String
  expectedRequestRef : ArtifactRef
  expectedRequestSha256 : String
  expectedInputTokenIds : List ℕ
  responseRef : Option ArtifactRef
  typedTurn : Option SubjectTurn
  reportedOutputTokenIds : Option (List ℕ)
  reportedGeneratedTokens : ℕ
  providerEventRef : ArtifactRef
  completionKind : RawProviderCompletionKind
  request : expectedRequestSha256 = expectedRequestRef.sha256
  jointly : responseRef.isSome = reportedOutputTokenIds.isSome
  responseless : responseRef = none → typedTurn = none ∧ reportedGeneratedTokens = 0
  simulated : subjectRole = .userSimulator → ∀ turn, typedTurn = some turn → turn.toolCalls = []
  deriving DecidableEq

structure SyntheticToolObservation where
  callId : String
  resultRef : ArtifactRef
  mutationCommitted : Bool
  verifierEligible : Bool
  episodeTerminal : Bool
  failureKind : FailureKind
  terminal : failureKind ≠ .NONE → episodeTerminal = true
  deriving DecidableEq

structure SyntheticClockRead where
  label : String
  uint64Ms : ℕ
  fits : uint64Ms < 2 ^ 64
  deriving DecidableEq

def roleIndexed (next : SubjectRole → ℕ) : List SyntheticProviderTranscriptRow → Bool
  | [] => true
  | row :: rest =>
    decide (row.callIndex = next row.subjectRole) &&
      roleIndexed (Function.update next row.subjectRole (next row.subjectRole + 1)) rest

structure SyntheticPrefixProgram where
  taskId : String
  expectedTriggerReason : TriggerReason
  providerTranscript : List SyntheticProviderTranscriptRow
  toolObservations : List SyntheticToolObservation
  clockTrace : List SyntheticClockRead
  labels : (clockTrace.map SyntheticClockRead.label).Nodup
  monotonic : (clockTrace.map SyntheticClockRead.uint64Ms).Pairwise (· ≤ ·)
  indexed : roleIndexed (fun _ => 0) providerTranscript = true
  observed : (toolObservations.map SyntheticToolObservation.callId).Nodup
  deriving DecidableEq

section Derivation
variable (platform : Platform)

def deriveCallSeed (slotSeed : ℕ) (subjectRole : SubjectRole) (callIndex : ℕ) : Py ℕ := do
  demand (slotSeed < 2 ^ 64) (.valueError "slot_seed must fit uint64")
  demand (callIndex < 2 ^ 64) (.valueError "call_index must fit uint64")
  let payload ← kdfFrame platform "call-seed-v1" [.u64 slotSeed,.text subjectRole.value,.u64 callIndex]
  return readBigEndian ((platform.sha256 payload).bytes.take 8)

end Derivation

section Bytes

def base64Alphabet : List Char :=
  "ABCDEFGHIJKLMNOPQRSTUVWXYZabcdefghijklmnopqrstuvwxyz0123456789+/".toList

def base64Digit (n : ℕ) : Char := base64Alphabet.getD n '='

def base64Chars : Bytes → List Char
  | [] => []
  | [a] =>
    let n := a.toNat * 16
    [base64Digit (n / 64),base64Digit (n % 64),'=','=']
  | [a,b] =>
    let n := (a.toNat * 256 + b.toNat) * 4
    [base64Digit (n / 4096),base64Digit (n / 64 % 64),base64Digit (n % 64),'=']
  | a :: b :: c :: rest =>
    let n := (a.toNat * 256 + b.toNat) * 256 + c.toNat
    base64Digit (n / 262144) :: base64Digit (n / 4096 % 64) :: base64Digit (n / 64 % 64) ::
      base64Digit (n % 64) :: base64Chars rest

def b64encode (payload : Bytes) : String := String.ofList (base64Chars payload)

def SyntheticByteTokenizer.encode (payload : Bytes) : List ℕ := payload.map UInt8.toNat

end Bytes

structure TaskInput where
  bytes : Bytes
  syntheticActorOrder : Option (List String)

-- The state dict of the worker.
structure WorkerState where
  branchPendingCalls : List ToolCall
  episodeTerminal : Bool
  failureKind : FailureKind
  mutationCommitted : Bool
  programSha256 : String
  simulatorContext : Option Bytes
  terminalUnexecutedRemainder : List ToolCall
  turns : List SubjectTurn
  verifierEligible : Bool
  visibleContext : Bytes
  deriving DecidableEq

structure SyntheticWorker where
  program : SyntheticPrefixProgram
  actorRoles : List SubjectRole

def syntheticSimulatorContext : Bytes := utf8 "synthetic-simulator-context"

def actorRole : String → Option SubjectRole
  | "primary_subject" => some .primarySubject
  | "user_simulator" => some .userSimulator
  | _ => none

def rejected (message : String) : Raised :=
  .recordValidationError ("synthetic environment rejected operation: ValueError: " ++ message)

def syntheticActorRoles (order : Option (List String)) (transcriptLength : ℕ) (invalid : Raised) : Py (List SubjectRole) :=
  match order with
  | none => .ok (List.replicate transcriptLength .primarySubject)
  | some roles => do
    demand (roles.length = transcriptLength) invalid
    required invalid (roles.mapM actorRole)

def simulatorContextAt (roles : List SubjectRole) (index : ℕ) : Option Bytes :=
  if roles[index]? = some .userSimulator then some syntheticSimulatorContext else none

def SyntheticWorker.start (task : TaskInput) (program : SyntheticPrefixProgram) (programSha256 : String) :
    Py (SyntheticWorker × WorkerState) := do
  let actorRoles ← syntheticActorRoles task.syntheticActorOrder program.providerTranscript.length
    (rejected "task actor order is invalid")
  return (⟨program,actorRoles⟩,{
    branchPendingCalls := []
    episodeTerminal := program.providerTranscript.isEmpty
    failureKind := .NONE
    mutationCommitted := false
    programSha256
    simulatorContext := simulatorContextAt actorRoles 0
    terminalUnexecutedRemainder := []
    turns := []
    verifierEligible := false
    visibleContext := task.bytes})

inductive Operation where
  | appendTurn (role : SubjectRole) (turn : SubjectTurn)
  | executeTool (call : ToolCall)
  | terminate (failure : FailureKind) (pendingQueue : List ToolCall)
  deriving DecidableEq

def WorkerState.terminate (state : WorkerState) (failure : FailureKind) (pendingQueue : List ToolCall) : Py WorkerState := do
  demand (failure ≠ .NONE) (rejected "terminate requires an adverse failure")
  return {state with
    branchPendingCalls := []
    terminalUnexecutedRemainder := pendingQueue
    episodeTerminal := true
    failureKind := failure}

namespace SyntheticWorker
variable (worker : SyntheticWorker)

def appendTurn (role : SubjectRole) (turn : SubjectTurn) (state : WorkerState) : Py WorkerState := do
  let index := state.turns.length
  demand (index < worker.program.providerTranscript.length ∧ index < worker.actorRoles.length)
    (rejected "turn has no sealed transcript row")
  demand (worker.actorRoles[index]? = some role) (rejected "append operation crosses derived role")
  demand (role = .primarySubject ∨ turn.toolCalls = []) (rejected "simulator turn cannot issue tools")
  return {state with
    turns := state.turns ++ [turn]
    branchPendingCalls := turn.toolCalls
    episodeTerminal := state.episodeTerminal || decide (turn.finishReason = some "terminal" ∧ turn.toolCalls = [])
    simulatorContext := simulatorContextAt worker.actorRoles (index + 1)}

def sealedObservation (callId : String) : Option SyntheticToolObservation :=
  match worker.program.toolObservations.filter fun observation => decide (observation.callId = callId) with
  | [observation] => some observation
  | _ => none

def executeTool (call : ToolCall) (state : WorkerState) : Py WorkerState := do
  demand (state.branchPendingCalls.head? = some call) (rejected "tool call differs from pending queue head")
  let observation ← required (rejected "tool call has no unique sealed observation") (worker.sealedObservation call.callId)
  return {state with
    branchPendingCalls := state.branchPendingCalls.tail
    mutationCommitted := observation.mutationCommitted
    verifierEligible := observation.verifierEligible
    episodeTerminal := observation.episodeTerminal
    failureKind := observation.failureKind}

def perform (state : WorkerState) : Operation → Py WorkerState
  | .appendTurn role turn => worker.appendTurn role turn state
  | .executeTool call => worker.executeTool call state
  | .terminate failure pendingQueue => state.terminate failure pendingQueue

end SyntheticWorker

structure Served where
  before : WorkerState
  operation : Operation
  after : WorkerState
  deriving DecidableEq

structure SyntheticEnvironmentHandle where
  state : WorkerState
  served : List Served

def SyntheticEnvironmentHandle.opened (state : WorkerState) : SyntheticEnvironmentHandle := ⟨state,[]⟩

def SyntheticEnvironmentHandle.exchange (worker : SyntheticWorker) (handle : SyntheticEnvironmentHandle)
    (operation : Operation) : Py SyntheticEnvironmentHandle := do
  let after ← worker.perform handle.state operation
  return ⟨after,handle.served ++ [⟨handle.state,operation,after⟩]⟩

section Rules
variable {worker : SyntheticWorker} {state after : WorkerState}

theorem sealedObservation_eq_some {callId : String} {observation : SyntheticToolObservation} :
    worker.sealedObservation callId = some observation ↔
      observation ∈ worker.program.toolObservations ∧ observation.callId = callId := by
  have hunique := worker.program.observed
  rw [SyntheticWorker.sealedObservation]
  generalize worker.program.toolObservations = observations at hunique
  induction observations with
  | nil => simp
  | cons first rest ih =>
    rw [List.map_cons,List.nodup_cons] at hunique
    obtain ⟨hfresh,hrest⟩ := hunique
    by_cases hid : first.callId = callId
    · have hnone : rest.filter (fun other => decide (other.callId = callId)) = [] := by
        rw [List.filter_eq_nil_iff]
        intro other hother hsame
        rw [decide_eq_true_eq] at hsame
        exact hfresh (List.mem_map.mpr ⟨other,hother,hsame.trans hid.symm⟩)
      rw [List.filter_cons,if_pos (decide_eq_true hid),hnone]
      constructor
      · intro h
        cases h
        exact ⟨List.mem_cons_self,hid⟩
      · rintro ⟨hmem,hcall⟩
        rcases List.mem_cons.mp hmem with rfl | hother
        · rfl
        · exact absurd (List.mem_map.mpr ⟨observation,hother,hcall.trans hid.symm⟩) hfresh
    · rw [List.filter_cons,if_neg (by rwa [decide_eq_true_eq]),List.mem_cons]
      refine (ih hrest).trans ?_
      constructor
      · rintro ⟨hmem,hcall⟩
        exact ⟨.inr hmem,hcall⟩
      · rintro ⟨rfl | hmem,hcall⟩
        · exact absurd hcall hid
        · exact ⟨hmem,hcall⟩

def WorkerState.observe (state : WorkerState) (observation : SyntheticToolObservation) : WorkerState := {state with
  branchPendingCalls := state.branchPendingCalls.tail
  mutationCommitted := observation.mutationCommitted
  verifierEligible := observation.verifierEligible
  episodeTerminal := observation.episodeTerminal
  failureKind := observation.failureKind}

theorem executeTool_eq_ok {call : ToolCall} : worker.executeTool call state = .ok after ↔
    state.branchPendingCalls.head? = some call ∧
      ∃ observation, worker.sealedObservation call.callId = some observation ∧ after = state.observe observation := by
  rw [SyntheticWorker.executeTool]
  simp only [bind_eq_ok,demand_eq_ok,required_eq_ok,decide_eq_true_eq]
  constructor
  · rintro ⟨_,hhead,observation,hsealed,hafter⟩
    exact ⟨hhead,observation,hsealed,(Except.ok.inj hafter).symm⟩
  · rintro ⟨hhead,observation,hsealed,rfl⟩
    exact ⟨(),hhead,observation,hsealed,rfl⟩

def SyntheticWorker.accepts (worker : SyntheticWorker) (index : ℕ) (role : SubjectRole) : Prop :=
  index < worker.program.providerTranscript.length ∧ worker.actorRoles[index]? = some role

def SyntheticWorker.appended (worker : SyntheticWorker) (turn : SubjectTurn) (state : WorkerState) : WorkerState :=
  {state with
    turns := state.turns ++ [turn]
    branchPendingCalls := turn.toolCalls
    episodeTerminal := state.episodeTerminal || decide (turn.finishReason = some "terminal" ∧ turn.toolCalls = [])
    simulatorContext := simulatorContextAt worker.actorRoles (state.turns.length + 1)}

theorem appendTurn_eq_ok {role : SubjectRole} {turn : SubjectTurn} : worker.appendTurn role turn state = .ok after ↔
    worker.accepts state.turns.length role ∧ (role = .primarySubject ∨ turn.toolCalls = []) ∧
      after = worker.appended turn state := by
  rw [SyntheticWorker.appendTurn]
  simp only [bind_eq_ok,demand_eq_ok,decide_eq_true_eq]
  constructor
  · rintro ⟨_,⟨hrow,_⟩,_,hrole,_,hcalls,hafter⟩
    exact ⟨⟨hrow,hrole⟩,hcalls,(Except.ok.inj hafter).symm⟩
  · rintro ⟨⟨hrow,hrole⟩,hcalls,rfl⟩
    obtain ⟨hlength,_⟩ := List.getElem?_eq_some_iff.mp hrole
    exact ⟨(),⟨hrow,hlength⟩,(),hrole,(),hcalls,rfl⟩

def WorkerState.terminated (state : WorkerState) (failure : FailureKind) (pendingQueue : List ToolCall) : WorkerState :=
  {state with
    branchPendingCalls := []
    terminalUnexecutedRemainder := pendingQueue
    episodeTerminal := true
    failureKind := failure}

theorem terminate_eq_ok {failure : FailureKind} {pendingQueue : List ToolCall} :
    state.terminate failure pendingQueue = .ok after ↔ failure ≠ .NONE ∧ after = state.terminated failure pendingQueue := by
  rw [WorkerState.terminate]
  simp only [bind_eq_ok,demand_eq_ok,decide_eq_true_eq]
  constructor
  · rintro ⟨_,hfailure,hafter⟩
    exact ⟨hfailure,(Except.ok.inj hafter).symm⟩
  · rintro ⟨hfailure,rfl⟩
    exact ⟨(),hfailure,rfl⟩

def SyntheticEnvironmentHandle.record (handle : SyntheticEnvironmentHandle) (operation : Operation) (after : WorkerState) :
    SyntheticEnvironmentHandle := ⟨after,handle.served ++ [⟨handle.state,operation,after⟩]⟩

theorem exchange_ok {handle : SyntheticEnvironmentHandle} {operation : Operation}
    (h : worker.perform handle.state operation = .ok after) :
    handle.exchange worker operation = .ok (handle.record operation after) := by
  rw [SyntheticEnvironmentHandle.exchange,h]
  rfl

theorem exchange_error {handle : SyntheticEnvironmentHandle} {operation : Operation} {e : Raised}
    (h : worker.perform handle.state operation = .error e) : handle.exchange worker operation = .error e := by
  rw [SyntheticEnvironmentHandle.exchange,h]
  rfl

end Rules

end PneumaLab.ResamplingNull
