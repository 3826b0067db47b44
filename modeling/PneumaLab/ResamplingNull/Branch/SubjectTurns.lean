import PneumaLab.ResamplingNull.Branch.SubjectLoop

namespace PneumaLab.ResamplingNull

section Course

structure Course where
  tokens : ℕ
  tools : ℕ
  ended : Bool

def endsEpisode (program : SyntheticPrefixProgram) (callId : String) : Bool :=
  program.toolObservations.any fun observation => decide (observation.callId = callId) && observation.episodeTerminal

def courseTools (toolCap : ℕ) (ends : String → Bool) : ℕ → Bool → List ToolCall → ℕ × Bool
  | tools, ended, [] => (tools,ended)
  | tools, _, call :: rest =>
    if toolCap ≤ tools then (tools,true)
    else if ends call.callId then (tools + 1,true)
    else courseTools toolCap ends (tools + 1) false rest

def Course.turn (toolCap : ℕ) (ends : String → Bool) (course : Course) (turn : SubjectTurn) : Course :=
  let (tools,ended) := courseTools toolCap ends course.tools
    (decide (turn.finishReason = some "terminal" ∧ turn.toolCalls = [])) turn.toolCalls
  ⟨course.tokens + turn.generatedTokens,tools,ended⟩

def SlotInputs.subjectTurns (inputs : SlotInputs) : List SubjectTurn := inputs.program.subjectRows.filterMap fun row => row.typedTurn

def SlotInputs.course (inputs : SlotInputs) (index : ℕ) : Course :=
  (inputs.subjectTurns.take index).foldl (Course.turn inputs.caps.toolCalls (endsEpisode inputs.program))
    ⟨0,inputs.view.branchPendingCalls.length,
      inputs.view.branchPendingCalls.getLast?.any fun call => endsEpisode inputs.program call.callId⟩

def SlotInputs.capped (inputs : SlotInputs) (index : ℕ) : Prop :=
  inputs.caps.wallClockMs ≤ inputs.elapsedMs index ∨ inputs.caps.generatedTokens ≤ (inputs.course index).tokens ∨
    inputs.caps.modelCalls ≤ index

def SlotInputs.reaches (inputs : SlotInputs) (index : ℕ) : Prop :=
  inputs.view.branchPendingCalls.length ≤ inputs.caps.toolCalls ∧ index < inputs.subjectTurns.length ∧
    ∀ earlier ≤ index, (inputs.course earlier).ended = false ∧ ¬ inputs.capped earlier

end Course

section Statement
variable (platform : Platform) (inputs : SlotInputs)

def Operation.turn? : Operation → Option SubjectTurn
  | .appendTurn _ turn => some turn
  | .executeTool _ => none
  | .terminate _ _ => none

def fedTurns (served : List Served) : List SubjectTurn := served.filterMap fun entry => entry.operation.turn?

structure CoveredSlot (guidanceBytes : Option Bytes) : Prop where
  task : inputs.program.taskId = inputs.workOrder.row.taskId
  restored : restoreAndVerify platform inputs = .ok ()
  guidance : readGuidance inputs = .ok guidanceBytes
  turns : ∀ index row, inputs.program.subjectRows[index]? = some row → ∃ turn, row.typedTurn = some turn ∧
    deriveCallSeed platform inputs.workOrder.row.slot.seed .primarySubject index = .ok row.seed ∧
    inputs.readBytes row.expectedRequestRef = .ok (renderBranchRequest .primarySubject inputs.snapshot.state.visibleContext
      (if index = 0 then guidanceBytes else none))
  pending : ∀ call ∈ inputs.view.branchPendingCalls,
    ∃ observation ∈ inputs.program.toolObservations, observation.callId = call.callId
  issued : ∀ turn ∈ inputs.subjectTurns, ∀ call ∈ turn.toolCalls,
    ∃ observation ∈ inputs.program.toolObservations, observation.callId = call.callId

structure FeedsRows : Prop where
  prepared : ∃ worker, prepareSlot platform inputs = .ok worker
  ordered : ∃ count, fedTurns (runOpaqueSlot platform inputs).2.handle.served = inputs.subjectTurns.take count
  ended : ∀ result, (runOpaqueSlot platform inputs).1 = .ok result → result.finalState.episodeTerminal = true
  exhausted : ∀ e, (runOpaqueSlot platform inputs).1 = .error e →
    fedTurns (runOpaqueSlot platform inputs).2.handle.served = inputs.subjectTurns ∨
      inputs.caps.toolCalls < inputs.view.branchPendingCalls.length

def SlotInputs.rowFor (inputs : SlotInputs) (roles : List SubjectRole) (index : ℕ) : Prop :=
  inputs.snapshot.state.turns.length + index < inputs.program.providerTranscript.length ∧
    roles[inputs.snapshot.state.turns.length + index]? = some .primarySubject

end Statement

section Rules
variable {worker : SyntheticWorker} {operation : Operation} {s : SubjectLoopState} {after : WorkerState}

theorem exchangeBranch_ok (h : worker.perform s.handle.state operation = .ok after) :
    exchangeBranch worker operation s = (.ok (),{s with handle := s.handle.record operation after}) := by
  apply Program.update_run_ok
  rw [exchange_ok h]
  rfl

theorem exchangeBranch_error {e : Raised} (h : worker.perform s.handle.state operation = .error e) :
    exchangeBranch worker operation s = (.error e,s) := by
  apply Program.update_run_error
  rw [exchange_error h]
  rfl

theorem terminateBranch_ok {kind : FailureKind} (hkind : kind ≠ .NONE) (pending : List ToolCall) :
    terminateBranch worker kind pending s = (.ok (),{s with
      handle := s.handle.record (.terminate kind pending) (s.handle.state.terminated kind pending)
      failure := kind}) := by
  have hperform : worker.perform s.handle.state (.terminate kind pending) = .ok (s.handle.state.terminated kind pending) :=
    terminate_eq_ok.mpr ⟨hkind,rfl⟩
  rw [terminateBranch,Program.bind_run_ok (exchangeBranch_ok hperform)]
  rfl

theorem fedTurns_record (handle : SyntheticEnvironmentHandle) (operation : Operation) (after : WorkerState) :
    fedTurns (handle.record operation after).served = fedTurns handle.served ++ operation.turn?.toList := by
  rw [fedTurns,SyntheticEnvironmentHandle.record,List.filterMap_append]
  cases operation <;> rfl

theorem endsEpisode_of_sealed {callId : String} {observation : SyntheticToolObservation}
    (h : worker.sealedObservation callId = some observation) :
    endsEpisode worker.program callId = observation.episodeTerminal := by
  obtain ⟨hmem,hid⟩ := sealedObservation_eq_some.mp h
  rw [endsEpisode,Bool.eq_iff_iff,List.any_eq_true]
  constructor
  · rintro ⟨other,hother,hends⟩
    rw [Bool.and_eq_true,decide_eq_true_eq] at hends
    have hsame := sealedObservation_eq_some.mpr ⟨hother,hends.1⟩
    rw [h,Option.some.injEq] at hsame
    rw [hsame]
    exact hends.2
  · intro hterminal
    exact ⟨observation,hmem,by rw [hid,hterminal]; simp⟩

end Rules

section Runs
variable {platform : Platform} {inputs : SlotInputs} {worker : SyntheticWorker} {guidanceBytes : Option Bytes}

structure Keeps (s t : SubjectLoopState) : Prop where
  turns : t.handle.state.turns = s.handle.state.turns
  visible : t.handle.state.visibleContext = s.handle.state.visibleContext
  fed : fedTurns t.handle.served = fedTurns s.handle.served
  tokens : t.generatedTokens = s.generatedTokens
  calls : t.modelCalls = s.modelCalls

theorem Keeps.trans {s t u : SubjectLoopState} (hst : Keeps s t) (htu : Keeps t u) : Keeps s u :=
  ⟨htu.turns.trans hst.turns,htu.visible.trans hst.visible,htu.fed.trans hst.fed,htu.tokens.trans hst.tokens,
    htu.calls.trans hst.calls⟩

theorem execute_run {call : ToolCall} {rest : List ToolCall} {s : SubjectLoopState}
    (hpending : s.handle.state.branchPendingCalls = call :: rest)
    (hobserved : ∃ observation ∈ worker.program.toolObservations, observation.callId = call.callId) :
    ∃ observation t, worker.sealedObservation call.callId = some observation ∧
      exchangeBranch worker (.executeTool call) s = (.ok (),t) ∧ Keeps s t ∧ t.toolCalls = s.toolCalls ∧
      t.handle.state = s.handle.state.observe observation := by
  obtain ⟨observation,hmem,hid⟩ := hobserved
  have hsealed := sealedObservation_eq_some.mpr ⟨hmem,hid⟩
  have hperform : worker.perform s.handle.state (.executeTool call) = .ok (s.handle.state.observe observation) :=
    executeTool_eq_ok.mpr ⟨by rw [hpending]; rfl,observation,hsealed,rfl⟩
  refine ⟨observation,_,hsealed,exchangeBranch_ok hperform,⟨rfl,rfl,?_,rfl,rfl⟩,rfl,rfl⟩
  rw [fedTurns_record]
  exact List.append_nil _

theorem drainPending_run (hprogram : worker.program = inputs.program) (calls : List ToolCall) (executed : ℕ)
    (s : SubjectLoopState) (hexecuted : executed ≤ inputs.caps.toolCalls) (hpending : s.handle.state.branchPendingCalls = calls)
    (hobserved : ∀ call ∈ calls, ∃ observation ∈ worker.program.toolObservations, observation.callId = call.callId) :
    ∃ t, Keeps s t ∧
      ((executed + calls.length ≤ inputs.caps.toolCalls ∧
          drainPending inputs worker executed calls s = (.ok (executed + calls.length),t) ∧
          t.handle.state.episodeTerminal =
            (calls.getLast?.map fun call => endsEpisode inputs.program call.callId).getD s.handle.state.episodeTerminal) ∨
        inputs.caps.toolCalls < executed + calls.length ∧
          ∃ e, drainPending inputs worker executed calls s = (.error e,t)) := by
  induction calls generalizing executed s with
  | nil => exact ⟨s,⟨rfl,rfl,rfl,rfl,rfl⟩,.inl ⟨hexecuted,rfl,rfl⟩⟩
  | cons call rest ih =>
    rw [List.forall_mem_cons] at hobserved
    obtain ⟨hcall,hrest⟩ := hobserved
    rw [drainPending]
    by_cases hcap : executed < inputs.caps.toolCalls
    · obtain ⟨observation,t,hsealed,hrun,hkeeps,-,hstate⟩ := execute_run hpending hcall
      have hdemand : demand (executed < inputs.caps.toolCalls)
          (.recordValidationError "frozen pending prefix calls exceed the branch tool cap") = .ok () := demand_eq_ok.mpr (decide_eq_true hcap)
      have hpending' : t.handle.state.branchPendingCalls = rest := by rw [hstate,WorkerState.observe,hpending]; rfl
      have hends : t.handle.state.episodeTerminal = endsEpisode inputs.program call.callId := by
        rw [hstate,← hprogram,endsEpisode_of_sealed hsealed]
        rfl
      obtain ⟨u,hkept,hcases⟩ := ih (executed + 1) t hcap hpending' hrest
      rw [hdemand,Program.bind_run_ok Program.lift_run,Program.bind_run_ok hrun]
      have hlength : executed + 1 + rest.length = executed + (call :: rest).length := by rw [List.length_cons]; omega
      rw [hlength,hends] at hcases
      refine ⟨u,hkeeps.trans hkept,?_⟩
      rcases hcases with ⟨hfits,hok,hterminal⟩ | hexceeds
      · refine .inl ⟨hfits,hok,?_⟩
        rw [hterminal,List.getLast?_cons]
        cases rest.getLast? <;> rfl
      · exact .inr hexceeds
    · have hdemand : demand (executed < inputs.caps.toolCalls)
          (.recordValidationError "frozen pending prefix calls exceed the branch tool cap") =
          .error (.recordValidationError "frozen pending prefix calls exceed the branch tool cap") := by
        rw [demand,if_neg (by simpa using hcap)]
      rw [hdemand,Program.bind_run_error Program.lift_run]
      refine ⟨s,⟨rfl,rfl,rfl,rfl,rfl⟩,.inr ⟨?_,_,rfl⟩⟩
      rw [List.length_cons]
      omega

theorem runTools_run (hprogram : worker.program = inputs.program) (calls : List ToolCall) (s : SubjectLoopState)
    (hpending : s.handle.state.branchPendingCalls = calls)
    (hobserved : ∀ call ∈ calls, ∃ observation ∈ worker.program.toolObservations, observation.callId = call.callId) :
    ∃ capped t, runTools inputs worker calls s = (.ok capped,t) ∧ Keeps s t ∧
      (t.toolCalls,t.handle.state.episodeTerminal) = courseTools inputs.caps.toolCalls (endsEpisode inputs.program)
        s.toolCalls s.handle.state.episodeTerminal calls ∧ (capped = true → t.handle.state.episodeTerminal = true) := by
  induction calls generalizing s with
  | nil => exact ⟨false,s,rfl,⟨rfl,rfl,rfl,rfl,rfl⟩,rfl,by simp⟩
  | cons call rest ih =>
    rw [List.forall_mem_cons] at hobserved
    obtain ⟨hcall,hrest⟩ := hobserved
    rw [runTools,Program.bind_run_ok Program.get_run,courseTools]
    by_cases hcap : inputs.caps.toolCalls ≤ s.toolCalls
    · rw [if_pos hcap,if_pos hcap,Program.bind_run_ok (terminateBranch_ok (by simp) _)]
      refine ⟨true,_,rfl,⟨rfl,rfl,?_,rfl,rfl⟩,rfl,fun _ => rfl⟩
      rw [fedTurns_record]
      exact List.append_nil _
    · rw [if_neg hcap,if_neg hcap,Program.bind_run_ok Program.modify_run]
      obtain ⟨observation,t,hsealed,hrun,hkeeps,htools,hstate⟩ :=
        @execute_run worker call rest {s with toolCalls := s.toolCalls + 1} hpending hcall
      have hends : t.handle.state.episodeTerminal = endsEpisode inputs.program call.callId := by
        rw [hstate,← hprogram,endsEpisode_of_sealed hsealed]
        rfl
      rw [Program.bind_run_ok hrun,Program.bind_run_ok Program.get_run]
      have hkept : Keeps s t := ⟨hkeeps.turns,hkeeps.visible,hkeeps.fed,hkeeps.tokens,hkeeps.calls⟩
      cases hterminal : t.handle.state.episodeTerminal with
      | true =>
        rw [← hends,hterminal]
        exact ⟨false,t,rfl,hkept,by rw [htools,hterminal]; rfl,by simp⟩
      | false =>
        have hpending' : t.handle.state.branchPendingCalls = rest := by
          rw [hstate,WorkerState.observe]
          dsimp only
          rw [hpending]
          rfl
        obtain ⟨capped,u,hu,hkeepsu,hcourse,hcapped⟩ := ih t hpending' hrest
        rw [← hends,hterminal]
        refine ⟨capped,u,hu,hkept.trans hkeepsu,?_,hcapped⟩
        rw [hcourse,htools,hterminal]
        rfl

theorem CoveredSlot.turn_at (h : CoveredSlot platform inputs guidanceBytes) (index : ℕ) :
    inputs.subjectTurns[index]? = inputs.program.subjectRows[index]?.bind fun row => row.typedTurn := by
  have hturns := h.turns
  rw [SlotInputs.subjectTurns]
  generalize inputs.program.subjectRows = rows at hturns
  have hsome : ∀ row ∈ rows, ∃ turn, row.typedTurn = some turn := by
    intro row hrow
    obtain ⟨position,hposition⟩ := List.mem_iff_getElem?.mp hrow
    obtain ⟨turn,hturn,-⟩ := hturns position row hposition
    exact ⟨turn,hturn⟩
  clear hturns
  induction rows generalizing index with
  | nil => rfl
  | cons row rest ih =>
    rw [List.forall_mem_cons] at hsome
    obtain ⟨⟨turn,hturn⟩,hrest⟩ := hsome
    rw [List.filterMap_cons_some hturn]
    cases index with
    | zero => exact hturn.symm
    | succ index => exact ih index hrest

theorem course_succ {index : ℕ} {turn : SubjectTurn} (h : inputs.subjectTurns[index]? = some turn) :
    inputs.course (index + 1) = (inputs.course index).turn inputs.caps.toolCalls (endsEpisode inputs.program) turn := by
  rw [SlotInputs.course,List.take_add_one,h,Option.toList_some,List.foldl_append]
  rfl

structure AtTurn (inputs : SlotInputs) (index : ℕ) (s : SubjectLoopState) : Prop where
  turns : s.handle.state.turns.length = inputs.snapshot.state.turns.length + index
  visible : s.handle.state.visibleContext = inputs.snapshot.state.visibleContext
  fed : fedTurns s.handle.served = inputs.subjectTurns.take index
  tokens : s.generatedTokens = (inputs.course index).tokens
  tools : s.toolCalls = (inputs.course index).tools
  calls : s.modelCalls = index
  ended : s.handle.state.episodeTerminal = (inputs.course index).ended

theorem subjectCall_rejected {index seed : ℕ} {row : SyntheticProviderTranscriptRow} {turn : SubjectTurn} {s : SubjectLoopState}
    (hturn : subjectTurnOf inputs guidanceBytes index seed row s.handle.state = .ok turn)
    (hrefused : ¬ worker.accepts s.handle.state.turns.length .primarySubject) :
    ∃ e t, subjectCall inputs worker guidanceBytes index seed row s = (.error e,t) ∧ t.handle = s.handle := by
  cases hperform : worker.perform s.handle.state (.appendTurn .primarySubject turn) with
  | ok after => exact absurd (appendTurn_eq_ok.mp hperform).1 hrefused
  | error e =>
    have hrun : exchangeBranch worker (.appendTurn .primarySubject turn) {s with
        modelCalls := s.modelCalls + 1
        callSeeds := s.callSeeds ++ [⟨.primarySubject,index,seed⟩]} = (.error e,_) := exchangeBranch_error hperform
    refine ⟨e,{s with modelCalls := s.modelCalls + 1,callSeeds := s.callSeeds ++ [⟨.primarySubject,index,seed⟩]},?_,rfl⟩
    rw [subjectCall,Program.bind_run_ok Program.get_run,hturn,Program.bind_run_ok Program.lift_run,
      Program.bind_run_ok Program.modify_run,Program.bind_run_error hrun]

theorem subjectCall_accepted (hcovered : CoveredSlot platform inputs guidanceBytes) (hprogram : worker.program = inputs.program)
    {index seed : ℕ} {row : SyntheticProviderTranscriptRow} {turn : SubjectTurn} {s : SubjectLoopState}
    (hat : AtTurn inputs index s) (hopen : s.handle.state.episodeTerminal = false)
    (hindex : inputs.subjectTurns[index]? = some turn)
    (hturn : subjectTurnOf inputs guidanceBytes index seed row s.handle.state = .ok turn)
    (haccepts : worker.accepts s.handle.state.turns.length .primarySubject) :
    ∃ capped t, subjectCall inputs worker guidanceBytes index seed row s = (.ok capped,t) ∧ AtTurn inputs (index + 1) t ∧
      (capped = true → t.handle.state.episodeTerminal = true) := by
  have hperform : worker.perform s.handle.state (.appendTurn .primarySubject turn) =
      .ok (worker.appended turn s.handle.state) := appendTurn_eq_ok.mpr ⟨haccepts,.inl rfl,rfl⟩
  have hexchange : exchangeBranch worker (.appendTurn .primarySubject turn) {s with
      modelCalls := s.modelCalls + 1
      callSeeds := s.callSeeds ++ [⟨.primarySubject,index,seed⟩]} = (.ok (),_) := exchangeBranch_ok hperform
  have hobserved := hcovered.issued turn (List.mem_of_getElem? hindex)
  rw [← hprogram] at hobserved
  rw [subjectCall,Program.bind_run_ok Program.get_run,hturn,Program.bind_run_ok Program.lift_run,
    Program.bind_run_ok Program.modify_run,Program.bind_run_ok hexchange,Program.bind_run_ok Program.modify_run]
  obtain ⟨capped,t,hrun,hkeeps,hcourse,hcapped⟩ := @runTools_run inputs worker hprogram turn.toolCalls {s with
    handle := s.handle.record (.appendTurn .primarySubject turn) (worker.appended turn s.handle.state)
    generatedTokens := s.generatedTokens + turn.generatedTokens
    modelCalls := s.modelCalls + 1
    callSeeds := s.callSeeds ++ [⟨.primarySubject,index,seed⟩]} rfl hobserved
  have hsucc := course_succ hindex
  have hended : (worker.appended turn s.handle.state).episodeTerminal =
      decide (turn.finishReason = some "terminal" ∧ turn.toolCalls = []) := by
    rw [SyntheticWorker.appended,hopen,Bool.false_or]
  have htools : courseTools inputs.caps.toolCalls (endsEpisode inputs.program) (inputs.course index).tools
      (decide (turn.finishReason = some "terminal" ∧ turn.toolCalls = [])) turn.toolCalls =
      (t.toolCalls,t.handle.state.episodeTerminal) := by
    rw [hcourse,← hat.tools,← hended]
    rfl
  refine ⟨capped,t,hrun,⟨?_,hkeeps.visible.trans hat.visible,?_,?_,?_,hkeeps.calls.trans (congrArg (· + 1) hat.calls),?_⟩,hcapped⟩
  · rw [hkeeps.turns]
    exact (List.length_append).trans (congrArg (· + 1) hat.turns)
  · rw [hkeeps.fed,fedTurns_record,hat.fed,List.take_add_one,hindex]
    rfl
  · rw [hkeeps.tokens,hsucc,Course.turn]
    exact congrArg (· + turn.generatedTokens) hat.tokens
  · rw [hsucc,Course.turn,htools]
  · rw [hsucc,Course.turn,htools]

theorem boundCap_eq_none {index : ℕ} {s : SubjectLoopState} (hat : AtTurn inputs index s) :
    boundCap inputs.caps (inputs.elapsedMs index) s = none ↔ ¬ inputs.capped index := by
  rw [boundCap,SlotInputs.capped,hat.tokens,hat.calls]
  split
  · next h => simp [h]
  · next hclock =>
    split
    · next h => simp [h]
    · next htokens =>
      split
      · next h => simp [h]
      · next hcalls => simp [hclock,htokens,hcalls]

theorem boundCap_adverse {elapsed : ℕ} {s : SubjectLoopState} {kind : FailureKind}
    (h : boundCap inputs.caps elapsed s = some kind) : kind ≠ .NONE := by
  rw [boundCap] at h
  split at h
  · cases h
    simp
  · split at h
    · cases h
      simp
    · split at h
      · cases h
        simp
      · cases h

theorem subjectTurnOf_ok (hcovered : CoveredSlot platform inputs guidanceBytes) {index : ℕ}
    {row : SyntheticProviderTranscriptRow} (hrow : inputs.program.subjectRows[index]? = some row) {state : WorkerState}
    (hvisible : state.visibleContext = inputs.snapshot.state.visibleContext) :
    ∃ turn, inputs.subjectTurns[index]? = some turn ∧
      deriveCallSeed platform inputs.workOrder.row.slot.seed .primarySubject index = .ok row.seed ∧
      subjectTurnOf inputs guidanceBytes index row.seed row state = .ok turn := by
  obtain ⟨turn,hturn,hseed,hread⟩ := hcovered.turns index row hrow
  refine ⟨turn,by rw [hcovered.turn_at,hrow]; exact hturn,hseed,?_⟩
  rw [subjectTurnOf]
  simp only [bind_eq_ok,demand_eq_ok,required_eq_ok,decide_eq_true_eq]
  exact ⟨(),trivial,_,hread,(),by rw [hvisible],hturn⟩

section Equations
variable {index : ℕ} {rows : List SyntheticProviderTranscriptRow} {s : SubjectLoopState}

theorem runSubjectLoop_terminal (h : s.handle.state.episodeTerminal = true) :
    runSubjectLoop platform inputs worker guidanceBytes index rows s = (.ok (),s) := by
  cases rows <;> rw [runSubjectLoop,Program.bind_run_ok Program.get_run,if_pos h] <;> rfl

theorem runSubjectLoop_capped (h : s.handle.state.episodeTerminal = false) {kind : FailureKind}
    (hbound : boundCap inputs.caps (inputs.elapsedMs index) s = some kind) :
    runSubjectLoop platform inputs worker guidanceBytes index rows s = terminateBranch worker kind [] s := by
  cases rows <;> rw [runSubjectLoop,Program.bind_run_ok Program.get_run,if_neg (by simp [h]),hbound]

theorem runSubjectLoop_nil (h : s.handle.state.episodeTerminal = false)
    (hbound : boundCap inputs.caps (inputs.elapsedMs index) s = none) :
    ∃ e, runSubjectLoop platform inputs worker guidanceBytes index [] s = (.error e,s) := by
  rw [runSubjectLoop,Program.bind_run_ok Program.get_run,if_neg (by simp [h]),hbound]
  cases hseed : deriveCallSeed platform inputs.workOrder.row.slot.seed .primarySubject index with
  | ok seed => exact ⟨_,Program.bind_run_ok Program.lift_run⟩
  | error e => exact ⟨e,Program.bind_run_error Program.lift_run⟩

theorem runSubjectLoop_cons (h : s.handle.state.episodeTerminal = false)
    (hbound : boundCap inputs.caps (inputs.elapsedMs index) s = none) {row : SyntheticProviderTranscriptRow} {seed : ℕ}
    (hseed : deriveCallSeed platform inputs.workOrder.row.slot.seed .primarySubject index = .ok seed) :
    runSubjectLoop platform inputs worker guidanceBytes index (row :: rows) s =
      (subjectCall inputs worker guidanceBytes index seed row >>= fun capped =>
        if capped then pure () else runSubjectLoop platform inputs worker guidanceBytes (index + 1) rows) s := by
  rw [runSubjectLoop,Program.bind_run_ok Program.get_run,if_neg (by simp [h]),hbound,hseed]
  exact Program.bind_run_ok Program.lift_run

end Equations

def Conforms (inputs : SlotInputs) (worker : SyntheticWorker) (index : ℕ) (run : Except Raised Unit × SubjectLoopState) : Prop :=
  (∃ count, fedTurns run.2.handle.served = inputs.subjectTurns.take count) ∧
    (((∀ later, index ≤ later → inputs.reaches later →
        worker.accepts (inputs.snapshot.state.turns.length + later) .primarySubject) ∧
      (∀ u, run.1 = .ok u → run.2.handle.state.episodeTerminal = true) ∧
      ∀ e, run.1 = .error e → fedTurns run.2.handle.served = inputs.subjectTurns) ∨
    (∃ later, inputs.reaches later ∧ ¬ worker.accepts (inputs.snapshot.state.turns.length + later) .primarySubject) ∧
      ∃ e, run.1 = .error e ∧ fedTurns run.2.handle.served ≠ inputs.subjectTurns)

theorem conforms_stopped {index : ℕ} {t : SubjectLoopState} {u : Unit}
    (hfed : fedTurns t.handle.served = inputs.subjectTurns.take index) (hterminal : t.handle.state.episodeTerminal = true)
    (hstops : (inputs.course index).ended = true ∨ inputs.capped index) : Conforms inputs worker index (.ok u,t) := by
  refine ⟨⟨index,hfed⟩,.inl ⟨?_,fun _ _ => hterminal,by simp⟩⟩
  intro later hlater hreaches
  obtain ⟨hended,hcapped⟩ := hreaches.2.2 index hlater
  rcases hstops with hstops | hstops
  · simp [hended] at hstops
  · exact absurd hstops hcapped

theorem runSubjectLoop_stopped {rows : List SyntheticProviderTranscriptRow} {index : ℕ} {s : SubjectLoopState}
    (hat : AtTurn inputs index s)
    (hstops : s.handle.state.episodeTerminal = true ∨ boundCap inputs.caps (inputs.elapsedMs index) s ≠ none) :
    Conforms inputs worker index (runSubjectLoop platform inputs worker guidanceBytes index rows s) := by
  cases hterminal : s.handle.state.episodeTerminal with
  | true =>
    rw [runSubjectLoop_terminal hterminal]
    exact conforms_stopped hat.fed hterminal (.inl (hat.ended ▸ hterminal))
  | false =>
    have hbound := hstops.resolve_left (by simp [hterminal])
    obtain ⟨kind,hkind⟩ := Option.ne_none_iff_exists'.mp hbound
    rw [runSubjectLoop_capped hterminal hkind,terminateBranch_ok (boundCap_adverse hkind)]
    refine conforms_stopped ?_ rfl (.inr (not_not.mp fun hnot => hbound ((boundCap_eq_none hat).mpr hnot)))
    rw [fedTurns_record]
    exact (List.append_nil _).trans hat.fed

theorem Conforms.before {index : ℕ} {run : Except Raised Unit × SubjectLoopState} (h : Conforms inputs worker (index + 1) run)
    (haccepts : worker.accepts (inputs.snapshot.state.turns.length + index) .primarySubject) :
    Conforms inputs worker index run := by
  obtain ⟨hfed,⟨hlater,hend⟩ | hrefused⟩ := h
  · refine ⟨hfed,.inl ⟨?_,hend⟩⟩
    intro later hle
    rcases Nat.eq_or_lt_of_le hle with rfl | hlt
    · exact fun _ => haccepts
    · exact hlater later hlt
  · exact ⟨hfed,.inr hrefused⟩

theorem runSubjectLoop_run (hcovered : CoveredSlot platform inputs guidanceBytes) (hprogram : worker.program = inputs.program)
    (hfits : inputs.view.branchPendingCalls.length ≤ inputs.caps.toolCalls) (rows : List SyntheticProviderTranscriptRow)
    (index : ℕ) (s : SubjectLoopState) (hrows : inputs.program.subjectRows.drop index = rows) (hat : AtTurn inputs index s)
    (hopen : ∀ earlier < index, (inputs.course earlier).ended = false ∧ ¬ inputs.capped earlier) :
    Conforms inputs worker index (runSubjectLoop platform inputs worker guidanceBytes index rows s) := by
  induction rows generalizing index s with
  | nil =>
    by_cases hstops : s.handle.state.episodeTerminal = true ∨ boundCap inputs.caps (inputs.elapsedMs index) s ≠ none
    · exact runSubjectLoop_stopped hat hstops
    · rw [not_or,not_not,Bool.not_eq_true] at hstops
      obtain ⟨e,he⟩ := @runSubjectLoop_nil platform inputs worker guidanceBytes index s hstops.1 hstops.2
      have hlength : inputs.subjectTurns.length ≤ index := by
        rw [← List.getElem?_eq_none_iff,hcovered.turn_at,List.getElem?_eq_none_iff.mpr (List.drop_eq_nil_iff.mp hrows)]
        rfl
      rw [he]
      refine ⟨⟨index,hat.fed⟩,.inl ⟨fun later hlater hreaches => ?_,by simp,fun _ _ => ?_⟩⟩
      · exact absurd hreaches.2.1 (not_lt.mpr (hlength.trans hlater))
      · exact hat.fed.trans (List.take_of_length_le hlength)
  | cons row rest ih =>
    by_cases hstops : s.handle.state.episodeTerminal = true ∨ boundCap inputs.caps (inputs.elapsedMs index) s ≠ none
    · exact runSubjectLoop_stopped hat hstops
    · rw [not_or,not_not,Bool.not_eq_true] at hstops
      obtain ⟨hterminal,hbound⟩ := hstops
      have hrow : inputs.program.subjectRows[index]? = some row := by
        rw [← List.head?_drop,hrows]
        rfl
      have hrest : inputs.program.subjectRows.drop (index + 1) = rest := by
        rw [← List.tail_drop,hrows]
        rfl
      obtain ⟨turn,hturn,hseed,hsubject⟩ := subjectTurnOf_ok hcovered hrow hat.visible
      obtain ⟨hlength,-⟩ := List.getElem?_eq_some_iff.mp hturn
      have hopened : ∀ earlier < index + 1, (inputs.course earlier).ended = false ∧ ¬ inputs.capped earlier := by
        intro earlier hearlier
        rcases Nat.lt_succ_iff_lt_or_eq.mp hearlier with hlt | rfl
        · exact hopen earlier hlt
        · exact ⟨hat.ended ▸ hterminal,(boundCap_eq_none hat).mp hbound⟩
      rw [runSubjectLoop_cons hterminal hbound hseed]
      by_cases haccepts : worker.accepts s.handle.state.turns.length .primarySubject
      · obtain ⟨capped,t,hcall,hat',hcapped⟩ :=
          subjectCall_accepted hcovered hprogram hat hterminal hturn hsubject haccepts
        rw [hat.turns] at haccepts
        rw [Program.bind_run_ok hcall]
        cases capped with
        | true => exact (conforms_stopped hat'.fed (hcapped rfl) (.inl (hat'.ended ▸ hcapped rfl))).before haccepts
        | false => exact (ih (index + 1) t hrest hat' hopened).before haccepts
      · obtain ⟨e,t,hcall,hhandle⟩ := subjectCall_rejected hsubject haccepts
        rw [hat.turns] at haccepts
        rw [Program.bind_run_error hcall]
        refine ⟨⟨index,hhandle ▸ hat.fed⟩,.inr ⟨⟨index,?_,haccepts⟩,e,rfl,fun hall => ?_⟩⟩
        · exact ⟨hfits,hlength,fun earlier hearlier => hopened earlier (Nat.lt_succ_of_le hearlier)⟩
        · rw [hhandle,hat.fed] at hall
          have hshort := congrArg List.length hall
          rw [List.length_take] at hshort
          omega

end Runs

section Slots
variable {platform : Platform} {inputs : SlotInputs} {guidanceBytes : Option Bytes}

def orderInvalid : Raised := rejected "task actor order is invalid"

theorem prepareSlot_eq_ok (hcovered : CoveredSlot platform inputs guidanceBytes) {worker : SyntheticWorker} :
    prepareSlot platform inputs = .ok worker ↔ ∃ roles, syntheticActorRoles inputs.taskInput.syntheticActorOrder
      inputs.program.providerTranscript.length orderInvalid = .ok roles ∧ worker = ⟨inputs.program,roles⟩ := by
  rw [prepareSlot,hcovered.restored]
  simp only [SyntheticWorker.start,hcovered.task,decide_true,demand,if_true,ok_bind,bind_eq_ok]
  constructor
  · rintro ⟨_,⟨roles,hroles,hstarted⟩,hworker⟩
    cases hstarted
    exact ⟨roles,hroles,(Except.ok.inj hworker).symm⟩
  · rintro ⟨roles,hroles,rfl⟩
    exact ⟨_,⟨roles,hroles,rfl⟩,rfl⟩

theorem atTurn_start (hcovered : CoveredSlot platform inputs guidanceBytes) {t : SubjectLoopState}
    (hkeeps : Keeps inputs.restored t)
    (hterminal : t.handle.state.episodeTerminal = (inputs.view.branchPendingCalls.getLast?.map fun call =>
      endsEpisode inputs.program call.callId).getD inputs.snapshot.state.episodeTerminal) :
    AtTurn inputs 0 {t with toolCalls := inputs.view.branchPendingCalls.length} := by
  refine ⟨congrArg List.length hkeeps.turns,hkeeps.visible,hkeeps.fed,hkeeps.tokens,rfl,hkeeps.calls,?_⟩
  refine hterminal.trans ?_
  rw [inputs.snapshot.nonterminal,SlotInputs.course]
  cases hlast : inputs.view.branchPendingCalls.getLast? <;> simp

theorem runRestoredSlot_drained {worker : SyntheticWorker} {t : SubjectLoopState} {executed : ℕ}
    (hguidance : readGuidance inputs = .ok guidanceBytes)
    (hdrain : drainPending inputs worker 0 inputs.view.branchPendingCalls inputs.restored = (.ok executed,t))
    {ran : Except Raised Unit × SubjectLoopState}
    (hran : runSubjectLoop platform inputs worker guidanceBytes 0 inputs.program.subjectRows {t with toolCalls := executed} = ran) :
    (runRestoredSlot platform inputs worker inputs.restored).2 = ran.2 ∧
      (∀ result, (runRestoredSlot platform inputs worker inputs.restored).1 = .ok result →
        ran.1 = .ok () ∧ result.finalState = ran.2.handle.state) ∧
      ∀ e, (runRestoredSlot platform inputs worker inputs.restored).1 = .error e ↔ ran.1 = .error e := by
  obtain ⟨outcome,u⟩ := ran
  rw [runRestoredSlot,Program.bind_run_ok hdrain,Program.bind_run_ok Program.get_run,hguidance,
    Program.bind_run_ok Program.lift_run,Program.bind_run_ok Program.modify_run]
  cases outcome with
  | ok _ =>
    rw [Program.bind_run_ok hran]
    refine ⟨rfl,fun result hresult => ⟨rfl,?_⟩,fun e => ⟨fun h => ?_,fun h => ?_⟩⟩
    · cases hresult
      rfl
    · cases h
    · cases h
  | error failed =>
    rw [Program.bind_run_error hran]
    refine ⟨rfl,fun result hresult => ?_,fun e => ⟨fun h => ?_,fun h => ?_⟩⟩
    · cases hresult
    · cases h
      rfl
    · cases h
      rfl

theorem feeds_rows_iff (platform : Platform) (inputs : SlotInputs) (guidanceBytes : Option Bytes)
    (hcovered : CoveredSlot platform inputs guidanceBytes) :
    FeedsRows platform inputs ↔ ∃ roles, syntheticActorRoles inputs.taskInput.syntheticActorOrder
      inputs.program.providerTranscript.length orderInvalid = .ok roles ∧
        ∀ index, inputs.reaches index → inputs.rowFor roles index := by
  cases hroles : syntheticActorRoles inputs.taskInput.syntheticActorOrder inputs.program.providerTranscript.length orderInvalid with
  | error e =>
    constructor
    · rintro ⟨⟨worker,hworker⟩,-⟩
      obtain ⟨roles,hsome,-⟩ := (prepareSlot_eq_ok hcovered).mp hworker
      rw [hroles] at hsome
      cases hsome
    · rintro ⟨roles,hsome,-⟩
      cases hsome
  | ok roles =>
    have hprepared : prepareSlot platform inputs = .ok ⟨inputs.program,roles⟩ := (prepareSlot_eq_ok hcovered).mpr ⟨roles,hroles,rfl⟩
    have hrun : runOpaqueSlot platform inputs = runRestoredSlot platform inputs ⟨inputs.program,roles⟩ inputs.restored := by
      rw [runOpaqueSlot,hprepared]
    have hpending : inputs.restored.handle.state.branchPendingCalls = inputs.view.branchPendingCalls := by
      have hrestored := hcovered.restored
      rw [restoreAndVerify] at hrestored
      simp only [bind_eq_ok,demand_eq_ok,decide_eq_true_eq] at hrestored
      obtain ⟨_,_,_,_,_,_,hsame⟩ := hrestored
      exact hsame
    obtain ⟨t,hkeeps,⟨hfits,hdrain,hterminal⟩ | ⟨hexceeds,e,hdrain⟩⟩ :=
      @drainPending_run inputs ⟨inputs.program,roles⟩ rfl inputs.view.branchPendingCalls 0 inputs.restored (Nat.zero_le _)
        hpending hcovered.pending
    · rw [Nat.zero_add] at hfits hdrain
      obtain ⟨hstate,hok,herror⟩ := @runRestoredSlot_drained platform inputs guidanceBytes _ t _ hcovered.guidance hdrain _ rfl
      obtain ⟨⟨count,hcount⟩,⟨haccepts,hended,hexhausted⟩ | ⟨⟨index,hreaches,hrefused⟩,e,he,hshort⟩⟩ :=
        @runSubjectLoop_run platform inputs ⟨inputs.program,roles⟩ guidanceBytes hcovered rfl hfits
          inputs.program.subjectRows 0 _ rfl (atTurn_start hcovered hkeeps hterminal) (by simp)
      · refine ⟨fun _ => ⟨roles,rfl,fun index hreaches => haccepts index (Nat.zero_le _) hreaches⟩,fun _ => ⟨⟨_,hprepared⟩,?_,?_,?_⟩⟩
        · rw [hrun,hstate]
          exact ⟨count,hcount⟩
        · intro result hresult
          rw [hrun] at hresult
          obtain ⟨hreturned,hfinal⟩ := hok result hresult
          rw [hfinal]
          exact hended _ hreturned
        · intro e he
          rw [hrun] at he ⊢
          rw [hstate]
          exact .inl (hexhausted e ((herror e).mp he))
      · constructor
        · rintro ⟨-,-,-,hexhausted⟩
          rw [hrun,hstate] at hexhausted
          rcases hexhausted e ((herror e).mpr he) with hall | hcap
          · exact absurd hall hshort
          · exact absurd hfits (not_le.mpr hcap)
        · rintro ⟨roles',hsame,hrows⟩
          cases hsame
          exact absurd (hrows index hreaches) hrefused
    · rw [Nat.zero_add] at hexceeds
      have hfailed : runRestoredSlot platform inputs ⟨inputs.program,roles⟩ inputs.restored = (.error e,t) := by
        rw [runRestoredSlot,Program.bind_run_error hdrain]
      refine ⟨fun _ => ⟨roles,rfl,fun index hreaches => absurd hreaches.1 (not_le.mpr hexceeds)⟩,fun _ => ⟨⟨_,hprepared⟩,?_,?_,?_⟩⟩
      · rw [hrun,hfailed]
        exact ⟨0,hkeeps.fed⟩
      · rw [hrun,hfailed]
        intro result hresult
        cases hresult
      · exact fun _ _ => .inr hexceeds

end Slots

section Sample

def slotDigestBytes : Fin 4 → Bytes
  | 0 => [0x44,0x13,0x6f,0xa3,0x55,0xb3,0x67,0x8a,0x11,0x46,0xad,0x16,0xf7,0xe8,0x64,0x9e,
    0x94,0xfb,0x4f,0xc2,0x1f,0xe7,0x7e,0x83,0x10,0xc0,0x60,0xf6,0x1c,0xaa,0xff,0x8a]
  | 1 => [0x32,0x8b,0x17,0x72,0x27,0xd7,0x8d,0x73,0x4f,0x77,0xa8,0x17,0x55,0x18,0xa8,0x62,
    0xc0,0x58,0x32,0x0f,0xe5,0x76,0x3a,0xec,0x7a,0x52,0xb7,0x8b,0x55,0xc9,0x71,0xb8]
  | 2 => [0xd5,0x14,0xf3,0xea,0x70,0xfc,0x99,0xa9,0x3a,0xba,0x65,0x91,0x28,0x63,0x28,0x3a,
    0x24,0xa5,0x1d,0xb5,0x19,0x3d,0x3f,0x19,0x11,0x17,0xa6,0x57,0x47,0x30,0x52,0x91]
  | 3 => [0x8f,0x76,0x6c,0xbe,0xc0,0x1a,0x31,0xf1,0x0e,0x75,0x1b,0x57,0xc8,0x80,0x86,0xa0,
    0xb0,0x9e,0x69,0xe3,0x01,0xb0,0xfe,0xcb,0x01,0xdc,0x23,0xe2,0xa2,0x0c,0xbd,0x0a]

theorem slot_digest_size : ∀ i, (slotDigestBytes i).length = 32 := by decide

def slotSha256 (raw : Bytes) : Digest :=
  let index : Fin 4 := if raw = utf8 "{}" then 0 else if raw = tokenIdsBytes (utf8 "{}") then 1
    else if raw.getLast? = some 0 then 2 else 3
  ⟨slotDigestBytes index,slot_digest_size index⟩

def slotPlatform : Platform where
  sha256 := slotSha256
  hmac _ := slotSha256
  normalized _ := true
  otherCategory _ := false
  floatRepr := id

def closingTurn : SubjectTurn := ⟨"done",[],4,some "terminal",List.nodup_nil⟩

def slotRef (role : String) : ArtifactRef :=
  ⟨role,"sources/request.json","79de741e993f10f2a88b6b8d3d89da1c2da558ea2c7f857f5491819cb8b89724",112,"application/json"⟩

def slotRow (index seed : ℕ) : SyntheticProviderTranscriptRow where
  subjectRole := .primarySubject
  callIndex := index
  seed := seed
  modelContractSha256 := "79de741e993f10f2a88b6b8d3d89da1c2da558ea2c7f857f5491819cb8b89724"
  expectedRequestRef := slotRef "synthetic_request"
  expectedRequestSha256 := "79de741e993f10f2a88b6b8d3d89da1c2da558ea2c7f857f5491819cb8b89724"
  expectedInputTokenIds := []
  responseRef := some (slotRef "synthetic_response")
  typedTurn := some closingTurn
  reportedOutputTokenIds := some [100,111,110,101]
  reportedGeneratedTokens := 4
  providerEventRef := slotRef "synthetic_provider_event"
  completionKind := .COMPLETED
  request := rfl
  jointly := rfl
  responseless := by simp
  simulated := by simp

def slotRows : List SyntheticProviderTranscriptRow := [slotRow 0 15354165217856362921,slotRow 1 10337569561198080497]

theorem slotRows_indexed : ∀ count ≤ 2, roleIndexed (fun _ => 0) (slotRows.take count) = true := by decide

def slotProgram (count : ℕ) (hcount : count ≤ 2) : SyntheticPrefixProgram where
  taskId := "task"
  expectedTriggerReason := .noInterventionOpportunity
  providerTranscript := slotRows.take count
  toolObservations := []
  clockTrace := []
  labels := List.nodup_nil
  monotonic := List.Pairwise.nil
  indexed := slotRows_indexed count hcount
  observed := List.nodup_nil

def slotPrefix : FrozenPrefix where
  state := {
    branchPendingCalls := []
    episodeTerminal := false
    failureKind := .NONE
    mutationCommitted := true
    programSha256 := "79de741e993f10f2a88b6b8d3d89da1c2da558ea2c7f857f5491819cb8b89724"
    simulatorContext := none
    terminalUnexecutedRemainder := []
    turns := [⟨"edit",[⟨"call-0","edit","{}\n"⟩],4,some "stop",List.nodup_singleton _⟩]
    verifierEligible := true
    visibleContext := utf8 "{}"}
  nonterminal := rfl
  unfailed := rfl

def slotWorkOrder : WorkOrderRow where
  studyId := "study"
  taskId := "task"
  benchmark := "swe"
  slot := ⟨"slot","44136fa355b3678a1146ad16f7e8649e94fb4fc21fe77e8310c060f61caaff8a",0,0,0⟩
  snapshotRef := slotRef "composite_snapshot"
  privateGuidanceRef := none
  prefixVisibleSha256 := "44136fa355b3678a1146ad16f7e8649e94fb4fc21fe77e8310c060f61caaff8a"
  packetIndexSha256 := "44136fa355b3678a1146ad16f7e8649e94fb4fc21fe77e8310c060f61caaff8a"
  analysisFreezeSha256 := "44136fa355b3678a1146ad16f7e8649e94fb4fc21fe77e8310c060f61caaff8a"
  branchCaps := ⟨100,5,5,1000⟩

theorem isSha256_chars {digits : List Char} (hsize : digits.length = 64)
    (hhex : digits.all (fun c => decide (c ∈ lowerHex)) = true) : isSha256 (String.ofList digits) = true := by
  rw [isSha256,String.toList_ofList,hhex,Bool.and_true,decide_eq_true hsize]

theorem visible_sha : isSha256 "44136fa355b3678a1146ad16f7e8649e94fb4fc21fe77e8310c060f61caaff8a" = true :=
  isSha256_chars rfl rfl

theorem cappedWorkOrder_built (caps : BranchCaps) : { slotWorkOrder with branchCaps := caps }.postInit = .ok () := by
  have hvisible (name : String) := (@requireSha256_eq_ok _ name ()).mpr visible_sha
  simp only [WorkOrderRow.postInit,SlotIdentityRow.postInit,slotWorkOrder,hvisible,ok_bind]
  rfl

theorem slotWorkOrder_built : slotWorkOrder.postInit = .ok () := cappedWorkOrder_built _

def slotInputs (count : ℕ) (hcount : count ≤ 2) : SlotInputs where
  workOrder := ⟨slotWorkOrder,slotWorkOrder_built⟩
  view := ⟨"44136fa355b3678a1146ad16f7e8649e94fb4fc21fe77e8310c060f61caaff8a","328b177227d78d734f77a8175518a862c058320fe5763aec7a52b78b55c971b8",[]⟩
  snapshot := slotPrefix
  taskInput := ⟨utf8 "{}",none⟩
  program := slotProgram count hcount
  programSha256 := "79de741e993f10f2a88b6b8d3d89da1c2da558ea2c7f857f5491819cb8b89724"
  readBytes _ := .ok (renderBranchRequest .primarySubject (utf8 "{}") none)
  elapsedMs _ := 0

theorem slot_checked : restoreAndVerify slotPlatform (slotInputs 0 (by decide)) = .ok () ∧
    deriveCallSeed slotPlatform 0 .primarySubject 0 = .ok 15354165217856362921 ∧
    deriveCallSeed slotPlatform 0 .primarySubject 1 = .ok 10337569561198080497 := by decide

theorem slotInputs_covered (count : ℕ) (hcount : count ≤ 2) : CoveredSlot slotPlatform (slotInputs count hcount) none where
  task := rfl
  restored := slot_checked.1
  guidance := rfl
  turns := by
    intro index row hrow
    have hrows : (slotInputs count hcount).program.subjectRows = slotRows.take count := by
      match count,hcount with
      | 0,_ => rfl
      | 1,_ => rfl
      | 2,_ => rfl
    rw [hrows] at hrow
    have hslot : slotRows[index]? = some row := by
      rw [List.getElem?_take] at hrow
      split at hrow
      · exact hrow
      · cases hrow
    match index with
    | 0 =>
      cases hslot
      exact ⟨closingTurn,rfl,slot_checked.2.1,rfl⟩
    | 1 =>
      cases hslot
      exact ⟨closingTurn,rfl,slot_checked.2.2,rfl⟩
    | n + 2 => cases hslot
  pending := by simp [slotInputs]
  issued := by
    intro turn hturn call hcall
    obtain ⟨row,hrow,hsome⟩ := List.mem_filterMap.mp hturn
    have hmem : row ∈ slotRows := List.mem_of_mem_take (List.mem_of_mem_filter hrow)
    have hclosing : turn = closingTurn := by
      rcases List.mem_pair.mp hmem with rfl | rfl
      · exact (Option.some.inj hsome).symm
      · exact (Option.some.inj hsome).symm
    rw [hclosing] at hcall
    cases hcall

theorem one_row_refused : ¬ FeedsRows slotPlatform (slotInputs 1 (by decide)) := by
  intro h
  obtain ⟨hfailed,hfed⟩ : (runOpaqueSlot slotPlatform (slotInputs 1 (by decide))).1.isOk = false ∧
      fedTurns (runOpaqueSlot slotPlatform (slotInputs 1 (by decide))).2.handle.served = [] := by decide +kernel
  cases hresult : (runOpaqueSlot slotPlatform (slotInputs 1 (by decide))).1 with
  | ok result =>
    rw [hresult] at hfailed
    cases hfailed
  | error e =>
    rcases h.exhausted e hresult with hall | hcap
    · rw [hfed] at hall
      cases hall
    · exact absurd hcap (by decide)

theorem padded_rows_fed : FeedsRows slotPlatform (slotInputs 2 (by decide)) := by
  refine (feeds_rows_iff slotPlatform (slotInputs 2 (by decide)) none (slotInputs_covered 2 (by decide))).mpr
    ⟨[.primarySubject,.primarySubject],rfl,fun index hreaches => ?_⟩
  obtain ⟨-,hlength,hopen⟩ := hreaches
  have hended : ((slotInputs 2 (by decide)).course 1).ended = true := by decide
  have hzero : index = 0 := by
    by_contra hne
    have hone := (hopen 1 (Nat.one_le_iff_ne_zero.mpr hne)).1
    rw [hended] at hone
    cases hone
  subst hzero
  exact ⟨by decide,rfl⟩

end Sample

end PneumaLab.ResamplingNull
