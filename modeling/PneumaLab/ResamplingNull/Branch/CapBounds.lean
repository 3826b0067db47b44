import Mathlib.Algebra.GroupWithZero.Nat
import PneumaLab.ResamplingNull.Branch.SubjectTurns

namespace PneumaLab.ResamplingNull

section Closing

def endsUnfailed (program : SyntheticPrefixProgram) (callId : String) : Bool :=
  program.toolObservations.any fun observation =>
    decide (observation.callId = callId) && observation.episodeTerminal && decide (observation.failureKind = .NONE)

def closesTools (toolCap : ℕ) (program : SyntheticPrefixProgram) : ℕ → Bool → List ToolCall → Bool
  | _, ended, [] => ended
  | tools, _, call :: rest =>
    if toolCap ≤ tools then false
    else if endsEpisode program call.callId then endsUnfailed program call.callId
    else closesTools toolCap program (tools + 1) false rest

def SlotInputs.closesTurn (inputs : SlotInputs) (index : ℕ) (turn : SubjectTurn) : Bool :=
  closesTools inputs.caps.toolCalls inputs.program (inputs.course index).tools
    (decide (turn.finishReason = some "terminal" ∧ turn.toolCalls = [])) turn.toolCalls

def SlotInputs.tokensThrough (inputs : SlotInputs) (index : ℕ) : ℕ :=
  ((inputs.subjectTurns.take (index + 1)).map (·.generatedTokens)).sum

def SlotInputs.ClosesWithinTokens (inputs : SlotInputs) : Prop :=
  ∀ index turn, inputs.reaches index → inputs.subjectTurns[index]? = some turn →
    inputs.closesTurn index turn = true → inputs.tokensThrough index ≤ inputs.caps.generatedTokens

def derivedSeeds (platform : Platform) (inputs : SlotInputs) (count : ℕ) : Py (List CallSeedReceipt) :=
  (List.range count).mapM fun index => do
    let seed ← deriveCallSeed platform inputs.workOrder.row.slot.seed .primarySubject index
    return ⟨.primarySubject,index,seed⟩

structure BranchCapsBind (platform : Platform) (inputs : SlotInputs) (result : SlotResult) : Prop where
  toolCalls : result.counters.toolCalls ≤ inputs.caps.toolCalls
  modelCalls : result.counters.modelCalls ≤ inputs.caps.modelCalls
  lastTurn : result.counters.modelCalls = 0 ∧ result.counters.generatedTokens = 0 ∨
    ∃ turn, result.finalState.turns.getLast? = some turn ∧
      result.counters.generatedTokens < inputs.caps.generatedTokens + turn.generatedTokens
  callSeeds : derivedSeeds platform inputs result.counters.modelCalls = .ok result.callSeeds
  unfailed : result.failureKind = .NONE →
    result.counters.generatedTokens ≤ inputs.caps.generatedTokens ∧
      result.counters.modelCalls ≤ inputs.caps.modelCalls ∧ result.counters.toolCalls ≤ inputs.caps.toolCalls

end Closing

section Courses
variable {inputs : SlotInputs}

theorem course_tokens (index : ℕ) :
    (inputs.course index).tokens = ((inputs.subjectTurns.take index).map (·.generatedTokens)).sum := by
  have hall (turns : List SubjectTurn) (course : Course) :
      (turns.foldl (Course.turn inputs.caps.toolCalls (endsEpisode inputs.program)) course).tokens =
        course.tokens + (turns.map (·.generatedTokens)).sum := by
    induction turns generalizing course with
    | nil => rfl
    | cons turn rest ih =>
      have hturn : (course.turn inputs.caps.toolCalls (endsEpisode inputs.program) turn).tokens =
        course.tokens + turn.generatedTokens := rfl
      rw [List.foldl_cons,ih,List.map_cons,List.sum_cons,hturn,Nat.add_assoc]
  rw [SlotInputs.course,hall]
  exact Nat.zero_add _

theorem courseTools_le {toolCap tools : ℕ} (ends : String → Bool) (h : tools ≤ toolCap) (ended : Bool)
    (calls : List ToolCall) : (courseTools toolCap ends tools ended calls).1 ≤ toolCap := by
  induction calls generalizing tools ended with
  | nil => exact h
  | cons call rest ih =>
    rw [courseTools]
    split
    · exact h
    · next hcap =>
      split
      · exact Nat.lt_of_not_le hcap
      · exact ih (Nat.lt_of_not_le hcap) false

theorem closesTools_ended {toolCap tools : ℕ} {program : SyntheticPrefixProgram} {ended : Bool} {calls : List ToolCall}
    (h : closesTools toolCap program tools ended calls = true) :
    (courseTools toolCap (endsEpisode program) tools ended calls).2 = true := by
  induction calls generalizing tools ended with
  | nil => exact h
  | cons call rest ih =>
    rw [closesTools] at h
    rw [courseTools]
    split
    · rfl
    · next hcap =>
      rw [if_neg hcap] at h
      split
      · rfl
      · next hends =>
        rw [if_neg hends] at h
        exact ih h

theorem closesTurn_ended {index : ℕ} {turn : SubjectTurn} (hturn : inputs.subjectTurns[index]? = some turn)
    (h : inputs.closesTurn index turn = true) : (inputs.course (index + 1)).ended = true := by
  rw [course_succ hturn,Course.turn]
  exact closesTools_ended h

end Courses

section Exits
variable {inputs : SlotInputs} {worker : SyntheticWorker} {s t : SubjectLoopState}

theorem exchangeBranch_eq_ok {operation : Operation} (h : exchangeBranch worker operation s = (.ok (),t)) :
    ∃ after, worker.perform s.handle.state operation = .ok after ∧
      t = {s with handle := s.handle.record operation after} := by
  cases hperform : worker.perform s.handle.state operation with
  | ok after =>
    rw [exchangeBranch_ok hperform] at h
    cases h
    exact ⟨after,rfl,rfl⟩
  | error e =>
    rw [exchangeBranch_error hperform] at h
    cases h

theorem endsUnfailed_of_sealed {callId : String} {observation : SyntheticToolObservation}
    (h : worker.sealedObservation callId = some observation) (hends : observation.episodeTerminal = true) :
    endsUnfailed worker.program callId = decide (observation.failureKind = .NONE) := by
  obtain ⟨hmem,hid⟩ := sealedObservation_eq_some.mp h
  rw [endsUnfailed,Bool.eq_iff_iff,List.any_eq_true,decide_eq_true_eq]
  constructor
  · rintro ⟨other,hother,hall⟩
    simp only [Bool.and_eq_true,decide_eq_true_eq] at hall
    have hsame := sealedObservation_eq_some.mpr ⟨hother,hall.1.1⟩
    rw [h,Option.some.injEq] at hsame
    rw [hsame]
    exact hall.2
  · intro hnone
    exact ⟨observation,hmem,by simp [hid,hends,hnone]⟩

structure ToolsRun (inputs : SlotInputs) (calls : List ToolCall) (s t : SubjectLoopState) (capped : Bool) : Prop where
  course : (t.toolCalls,t.handle.state.episodeTerminal) = courseTools inputs.caps.toolCalls (endsEpisode inputs.program)
    s.toolCalls s.handle.state.episodeTerminal calls
  tokens : t.generatedTokens = s.generatedTokens
  modelCalls : t.modelCalls = s.modelCalls
  seeds : t.callSeeds = s.callSeeds
  turns : t.handle.state.turns = s.handle.state.turns
  stopped : capped = true → t.failure = .TOOL_CAP ∧ t.handle.state.episodeTerminal = true ∧
    closesTools inputs.caps.toolCalls inputs.program s.toolCalls s.handle.state.episodeTerminal calls = false
  passed : capped = false → t.failure = s.failure ∧
    (t.handle.state.episodeTerminal = false → t.handle.state.failureKind = .NONE) ∧
    (t.handle.state.episodeTerminal = true → (t.handle.state.failureKind = .NONE ↔
      closesTools inputs.caps.toolCalls inputs.program s.toolCalls s.handle.state.episodeTerminal calls = true))

theorem runTools_ok (hprogram : worker.program = inputs.program) {calls : List ToolCall} {capped : Bool}
    (hunfailed : s.handle.state.failureKind = .NONE) (h : runTools inputs worker calls s = (.ok capped,t)) :
    ToolsRun inputs calls s t capped := by
  induction calls generalizing s with
  | nil =>
    cases h
    refine ⟨rfl,rfl,rfl,rfl,rfl,by simp,fun _ => ⟨rfl,fun _ => hunfailed,fun hended => ?_⟩⟩
    simp [hunfailed,closesTools,hended]
  | cons call rest ih =>
    rw [runTools,Program.bind_run_ok Program.get_run] at h
    by_cases hcap : inputs.caps.toolCalls ≤ s.toolCalls
    · rw [if_pos hcap,Program.bind_run_ok (terminateBranch_ok (by simp) _)] at h
      cases h
      refine ⟨by rw [courseTools,if_pos hcap]; rfl,rfl,rfl,rfl,rfl,fun _ => ⟨rfl,rfl,?_⟩,by simp⟩
      rw [closesTools,if_pos hcap]
    · rw [if_neg hcap,Program.bind_run_ok Program.modify_run,Program.bind_run_eq_ok] at h
      obtain ⟨_,u,hexchange,hrest⟩ := h
      obtain ⟨after,hperform,hu⟩ := exchangeBranch_eq_ok hexchange
      obtain ⟨-,observation,hsealed,hafter⟩ := executeTool_eq_ok.mp hperform
      have hended : u.handle.state.episodeTerminal = observation.episodeTerminal := by rw [hu,hafter]; rfl
      have hkind : u.handle.state.failureKind = observation.failureKind := by rw [hu,hafter]; rfl
      have hturns : u.handle.state.turns = s.handle.state.turns := by rw [hu,hafter]; rfl
      have htools : u.toolCalls = s.toolCalls + 1 := by rw [hu]
      have htokens : u.generatedTokens = s.generatedTokens := by rw [hu]
      have hmodel : u.modelCalls = s.modelCalls := by rw [hu]
      have hseeds : u.callSeeds = s.callSeeds := by rw [hu]
      have hfailure : u.failure = s.failure := by rw [hu]
      have hends : observation.episodeTerminal = endsEpisode inputs.program call.callId := by
        rw [← hprogram,endsEpisode_of_sealed hsealed]
      rw [Program.bind_run_ok Program.get_run,hended] at hrest
      cases hterminal : observation.episodeTerminal with
      | true =>
        rw [hterminal,if_pos rfl] at hrest
        cases hrest
        have hunfailed' := endsUnfailed_of_sealed hsealed hterminal
        rw [hprogram] at hunfailed'
        refine ⟨?_,htokens,hmodel,hseeds,hturns,by simp,fun _ => ⟨hfailure,fun hopen => ?_,fun _ => ?_⟩⟩
        · rw [courseTools,if_neg hcap,← hends,hterminal,if_pos rfl,htools,hended,hterminal]
        · rw [hended,hterminal] at hopen
          cases hopen
        · rw [closesTools,if_neg hcap,← hends,hterminal,if_pos rfl,hunfailed',decide_eq_true_eq,hkind]
      | false =>
        rw [hterminal,if_neg (by decide)] at hrest
        have hnone : observation.failureKind = .NONE := by
          by_contra hfailed
          rw [observation.terminal hfailed] at hterminal
          cases hterminal
        have hstep : closesTools inputs.caps.toolCalls inputs.program s.toolCalls s.handle.state.episodeTerminal
            (call :: rest) = closesTools inputs.caps.toolCalls inputs.program u.toolCalls
              u.handle.state.episodeTerminal rest := by
          rw [closesTools,if_neg hcap,← hends,hterminal,if_neg (by decide),htools,hended,hterminal]
        have hrun := ih (hkind.trans hnone) hrest
        refine ⟨?_,hrun.tokens.trans htokens,hrun.modelCalls.trans hmodel,hrun.seeds.trans hseeds,
          hrun.turns.trans hturns,?_,?_⟩
        · rw [hrun.course,courseTools,if_neg hcap,← hends,hterminal,if_neg (by decide),htools,hended,hterminal]
        · rw [hstep]
          exact hrun.stopped
        · rw [hstep,← hfailure]
          exact hrun.passed

end Exits

section Loop
variable {platform : Platform} {inputs : SlotInputs} {worker : SyntheticWorker} {guidanceBytes : Option Bytes}

def SubjectLoopState.reported (s : SubjectLoopState) : FailureKind :=
  if s.failure = .NONE then s.handle.state.failureKind else s.failure

structure Counted (platform : Platform) (inputs : SlotInputs) (index : ℕ) (s : SubjectLoopState) : Prop where
  available : index ≤ inputs.subjectTurns.length
  turns : s.handle.state.turns = inputs.snapshot.state.turns ++ inputs.subjectTurns.take index
  tokens : s.generatedTokens = (inputs.course index).tokens
  tools : s.toolCalls ≤ inputs.caps.toolCalls
  modelCalls : s.modelCalls = index
  seeds : derivedSeeds platform inputs index = .ok s.callSeeds
  opened : ∀ earlier < index, (inputs.course earlier).ended = false ∧ ¬ inputs.capped earlier

def Closed (inputs : SlotInputs) (index : ℕ) (reported : FailureKind) : Prop :=
  index = 0 ∨ ∃ prev turn, index = prev + 1 ∧ inputs.subjectTurns[prev]? = some turn ∧
    (reported = .NONE ↔ inputs.closesTurn prev turn = true)

structure BeforeTurn (platform : Platform) (inputs : SlotInputs) (index : ℕ) (s : SubjectLoopState) : Prop where
  counted : Counted platform inputs index s
  typed : ((inputs.program.subjectRows.take index).filterMap fun row => row.typedTurn).length = index
  tools : s.toolCalls = (inputs.course index).tools
  ended : s.handle.state.episodeTerminal = (inputs.course index).ended
  unfailed : s.failure = .NONE
  opened : s.handle.state.episodeTerminal = false → s.handle.state.failureKind = .NONE
  closed : s.handle.state.episodeTerminal = true → Closed inputs index s.handle.state.failureKind

structure AfterLoop (platform : Platform) (inputs : SlotInputs) (index : ℕ) (s : SubjectLoopState) : Prop where
  counted : Counted platform inputs index s
  outcome : ((inputs.course index).ended = true ∧ Closed inputs index s.reported) ∨
    ((inputs.course index).ended = false ∧ inputs.capped index ∧ s.reported ≠ .NONE)

theorem turn_of_row {index : ℕ} {row : SyntheticProviderTranscriptRow} {rest : List SyntheticProviderTranscriptRow}
    {turn : SubjectTurn}
    (htyped : ((inputs.program.subjectRows.take index).filterMap fun row => row.typedTurn).length = index)
    (hrows : inputs.program.subjectRows.drop index = row :: rest) (hturn : row.typedTurn = some turn) :
    inputs.subjectTurns[index]? = some turn ∧
      ((inputs.program.subjectRows.take (index + 1)).filterMap fun row => row.typedTurn).length = index + 1 := by
  have hrow : inputs.program.subjectRows[index]? = some row := by
    rw [← Nat.add_zero index,← List.getElem?_drop,hrows,List.getElem?_cons_zero]
  constructor
  · rw [SlotInputs.subjectTurns,← List.take_append_drop index inputs.program.subjectRows,List.filterMap_append,
      List.getElem?_append_right htyped.le,htyped,Nat.sub_self,hrows,List.filterMap_cons_some hturn]
    rfl
  · rw [List.take_add_one,hrow,Option.toList_some,List.filterMap_append,List.length_append,htyped]
    simp [hturn]

theorem derivedSeeds_succ {index seed : ℕ} {seeds : List CallSeedReceipt} (h : derivedSeeds platform inputs index = .ok seeds)
    (hseed : deriveCallSeed platform inputs.workOrder.row.slot.seed .primarySubject index = .ok seed) :
    derivedSeeds platform inputs (index + 1) = .ok (seeds ++ [⟨.primarySubject,index,seed⟩]) := by
  rw [derivedSeeds,mapM_eq_ok] at h ⊢
  rw [List.range_succ]
  apply List.rel_append h
  exact .cons (by rw [hseed]; rfl) .nil

theorem subjectTurnOf_typed {index seed : ℕ} {row : SyntheticProviderTranscriptRow} {turn : SubjectTurn}
    {state : WorkerState} (h : subjectTurnOf inputs guidanceBytes index seed row state = .ok turn) :
    row.typedTurn = some turn := by
  rw [subjectTurnOf] at h
  simp only [bind_eq_ok,required_eq_ok] at h
  obtain ⟨_,_,_,_,_,_,hturn⟩ := h
  exact hturn

theorem not_capped_of_boundCap {index : ℕ} {s : SubjectLoopState} (hat : BeforeTurn platform inputs index s)
    (h : boundCap inputs.caps (inputs.elapsedMs index) s = none) : ¬ inputs.capped index := by
  rw [boundCap] at h
  rw [SlotInputs.capped,← hat.counted.tokens,← hat.counted.modelCalls]
  split at h
  · cases h
  · next hclock =>
    split at h
    · cases h
    · next htokens =>
      split at h
      · cases h
      · next hcalls =>
        rintro (hclock' | htokens' | hcalls')
        · exact hclock (hat.counted.modelCalls ▸ hclock')
        · exact htokens htokens'
        · exact hcalls hcalls'

theorem capped_of_boundCap {index : ℕ} {s : SubjectLoopState} {kind : FailureKind} (hat : BeforeTurn platform inputs index s)
    (h : boundCap inputs.caps (inputs.elapsedMs index) s = some kind) : inputs.capped index := by
  rw [boundCap] at h
  rw [SlotInputs.capped,← hat.counted.tokens]
  split at h
  · next hclock => exact .inl hclock
  · split at h
    · next htokens => exact .inr (.inl htokens)
    · split at h
      · next hcalls => exact .inr (.inr (hat.counted.modelCalls ▸ hcalls))
      · cases h

theorem subjectCall_ok (hprogram : worker.program = inputs.program) {index seed : ℕ} {row : SyntheticProviderTranscriptRow}
    {rest : List SyntheticProviderTranscriptRow} {s t : SubjectLoopState} {capped : Bool}
    (hat : BeforeTurn platform inputs index s) (hopen : s.handle.state.episodeTerminal = false)
    (hbound : ¬ inputs.capped index) (hrows : inputs.program.subjectRows.drop index = row :: rest)
    (hseed : deriveCallSeed platform inputs.workOrder.row.slot.seed .primarySubject index = .ok seed)
    (h : subjectCall inputs worker guidanceBytes index seed row s = (.ok capped,t)) :
    (capped = true → AfterLoop platform inputs (index + 1) t) ∧
      (capped = false → BeforeTurn platform inputs (index + 1) t) := by
  rw [subjectCall,Program.bind_run_ok Program.get_run,Program.bind_run_eq_ok] at h
  obtain ⟨turn,_,hlift,h⟩ := h
  rw [Program.lift_run,Prod.mk.injEq] at hlift
  obtain ⟨hturn,rfl⟩ := hlift
  rw [Program.bind_run_ok Program.modify_run,Program.bind_run_eq_ok] at h
  obtain ⟨_,u,hexchange,h⟩ := h
  obtain ⟨after,hperform,hu⟩ := exchangeBranch_eq_ok hexchange
  obtain ⟨-,-,hafter⟩ := appendTurn_eq_ok.mp hperform
  rw [Program.bind_run_ok Program.modify_run] at h
  generalize hv : ({u with generatedTokens := u.generatedTokens + turn.generatedTokens} : SubjectLoopState) = v at h
  have htyped := subjectTurnOf_typed hturn
  obtain ⟨hindex,hlength⟩ := turn_of_row hat.typed hrows htyped
  have hended : v.handle.state.episodeTerminal = decide (turn.finishReason = some "terminal" ∧ turn.toolCalls = []) := by
    rw [← hv,hu,hafter,SyntheticWorker.appended]
    exact (congrArg (· || _) hopen).trans (Bool.false_or _)
  have hkind : v.handle.state.failureKind = .NONE := by
    rw [← hv,hu,hafter]
    exact hat.opened hopen
  have htools : v.toolCalls = (inputs.course index).tools := by
    rw [← hv,hu]
    exact hat.tools
  have hrun := runTools_ok hprogram hkind h
  have hcourse : (inputs.course (index + 1)).tools = t.toolCalls ∧
      (inputs.course (index + 1)).ended = t.handle.state.episodeTerminal := by
    have hsame := hrun.course
    rw [hended,htools] at hsame
    rw [course_succ hindex,Course.turn,← hsame]
    exact ⟨rfl,rfl⟩
  have hcloses : closesTools inputs.caps.toolCalls inputs.program v.toolCalls v.handle.state.episodeTerminal turn.toolCalls =
      inputs.closesTurn index turn := by rw [SlotInputs.closesTurn,hended,htools]
  have hcounted : Counted platform inputs (index + 1) t := by
    refine ⟨(List.getElem?_eq_some_iff.mp hindex).1,?_,?_,?_,?_,?_,?_⟩
    · rw [hrun.turns,← hv,hu,hafter,List.take_add_one,hindex,← List.append_assoc,← hat.counted.turns]
      rfl
    · rw [hrun.tokens,← hv,hu,course_succ hindex]
      exact congrArg (· + turn.generatedTokens) hat.counted.tokens
    · rw [← hcourse.1,course_succ hindex]
      exact courseTools_le _ (hat.tools ▸ hat.counted.tools) _ _
    · rw [hrun.modelCalls,← hv,hu]
      exact congrArg (· + 1) hat.counted.modelCalls
    · rw [hrun.seeds,← hv,hu]
      exact derivedSeeds_succ hat.counted.seeds hseed
    · intro earlier hearlier
      rcases Nat.lt_succ_iff_lt_or_eq.mp hearlier with hless | rfl
      · exact hat.counted.opened earlier hless
      · exact ⟨hat.ended ▸ hopen,hbound⟩
  constructor
  · intro hcapped
    obtain ⟨hfailure,hterminal,hnot⟩ := hrun.stopped hcapped
    refine ⟨hcounted,.inl ⟨hcourse.2.trans hterminal,.inr ⟨index,turn,rfl,hindex,?_⟩⟩⟩
    rw [SubjectLoopState.reported,hfailure,← hcloses,hnot,if_neg (by decide)]
    decide
  · intro hpassed
    obtain ⟨hfailure,hopened,hclosed⟩ := hrun.passed hpassed
    refine ⟨hcounted,hlength,hcourse.1.symm,hcourse.2.symm,?_,hopened,fun hterminal => .inr ⟨index,turn,rfl,hindex,?_⟩⟩
    · rw [hfailure,← hv,hu]
      exact hat.unfailed
    · rw [← hcloses]
      exact hclosed hterminal

theorem stopped_afterLoop {rows : List SyntheticProviderTranscriptRow} {index : ℕ} {s t : SubjectLoopState}
    (hat : BeforeTurn platform inputs index s)
    (hstop : s.handle.state.episodeTerminal = true ∨ (boundCap inputs.caps (inputs.elapsedMs index) s).isSome)
    (h : runSubjectLoop platform inputs worker guidanceBytes index rows s = (.ok (),t)) :
    AfterLoop platform inputs index t := by
  cases hterminal : s.handle.state.episodeTerminal with
  | true =>
    rw [runSubjectLoop_terminal hterminal] at h
    cases h
    refine ⟨hat.counted,.inl ⟨hat.ended ▸ hterminal,?_⟩⟩
    rw [SubjectLoopState.reported,if_pos hat.unfailed]
    exact hat.closed hterminal
  | false =>
    rw [hterminal] at hstop
    obtain ⟨kind,hbound⟩ := Option.isSome_iff_exists.mp (hstop.resolve_left (by decide))
    have hadverse := boundCap_adverse hbound
    rw [runSubjectLoop_capped hterminal hbound,terminateBranch_ok hadverse] at h
    cases h
    obtain ⟨havailable,hturns,htokens,htools,hcalls,hseeds,hopened⟩ := hat.counted
    refine ⟨⟨havailable,hturns,htokens,htools,hcalls,hseeds,hopened⟩,
      .inr ⟨hat.ended ▸ hterminal,capped_of_boundCap hat hbound,?_⟩⟩
    rw [SubjectLoopState.reported,if_neg hadverse]
    exact hadverse

theorem runSubjectLoop_unseeded {row : SyntheticProviderTranscriptRow} {rows : List SyntheticProviderTranscriptRow}
    {index : ℕ} {s : SubjectLoopState} {e : Raised} (hopen : s.handle.state.episodeTerminal = false)
    (hbound : boundCap inputs.caps (inputs.elapsedMs index) s = none)
    (hseed : deriveCallSeed platform inputs.workOrder.row.slot.seed .primarySubject index = .error e) :
    runSubjectLoop platform inputs worker guidanceBytes index (row :: rows) s = (.error e,s) := by
  rw [runSubjectLoop,Program.bind_run_ok Program.get_run,if_neg (by simp [hopen]),hbound,hseed]
  exact Program.bind_run_error Program.lift_run

theorem runSubjectLoop_ok (hprogram : worker.program = inputs.program) {rows : List SyntheticProviderTranscriptRow}
    {index : ℕ} {s t : SubjectLoopState} (hrows : inputs.program.subjectRows.drop index = rows)
    (hat : BeforeTurn platform inputs index s)
    (h : runSubjectLoop platform inputs worker guidanceBytes index rows s = (.ok (),t)) :
    ∃ last, AfterLoop platform inputs last t := by
  induction rows generalizing index s with
  | nil =>
    refine ⟨index,stopped_afterLoop hat ?_ h⟩
    by_contra hgoes
    rw [not_or,Bool.not_eq_true,Option.not_isSome_iff_eq_none] at hgoes
    obtain ⟨e,he⟩ := @runSubjectLoop_nil platform inputs worker guidanceBytes index s hgoes.1 hgoes.2
    rw [he] at h
    cases h
  | cons row rest ih =>
    by_cases hstop : s.handle.state.episodeTerminal = true ∨ (boundCap inputs.caps (inputs.elapsedMs index) s).isSome
    · exact ⟨index,stopped_afterLoop hat hstop h⟩
    · rw [not_or,Bool.not_eq_true,Option.not_isSome_iff_eq_none] at hstop
      obtain ⟨hopen,hbound⟩ := hstop
      cases hseed : deriveCallSeed platform inputs.workOrder.row.slot.seed .primarySubject index with
      | error e =>
        rw [runSubjectLoop_unseeded hopen hbound hseed] at h
        cases h
      | ok seed =>
        rw [runSubjectLoop_cons hopen hbound hseed,Program.bind_run_eq_ok] at h
        obtain ⟨capped,u,hcall,h⟩ := h
        obtain ⟨hcapped,hpassed⟩ := subjectCall_ok hprogram hat hopen (not_capped_of_boundCap hat hbound) hrows hseed hcall
        cases capped with
        | true =>
          cases h
          exact ⟨index + 1,hcapped rfl⟩
        | false =>
          refine ih ?_ (hpassed rfl) h
          rw [← List.drop_drop,hrows]
          rfl

structure Drained (inputs : SlotInputs) (calls : List ToolCall) (s t : SubjectLoopState) : Prop where
  turns : t.handle.state.turns = s.handle.state.turns
  tokens : t.generatedTokens = s.generatedTokens
  modelCalls : t.modelCalls = s.modelCalls
  seeds : t.callSeeds = s.callSeeds
  failure : t.failure = s.failure
  ended : t.handle.state.episodeTerminal =
    (calls.getLast?.map fun call => endsEpisode inputs.program call.callId).getD s.handle.state.episodeTerminal
  opened : t.handle.state.episodeTerminal = false → t.handle.state.failureKind = .NONE

theorem drainPending_ok (hprogram : worker.program = inputs.program) {calls : List ToolCall} {executed total : ℕ}
    {s t : SubjectLoopState} (hexecuted : executed ≤ inputs.caps.toolCalls)
    (hopened : s.handle.state.episodeTerminal = false → s.handle.state.failureKind = .NONE)
    (h : drainPending inputs worker executed calls s = (.ok total,t)) :
    total = executed + calls.length ∧ total ≤ inputs.caps.toolCalls ∧ Drained inputs calls s t := by
  induction calls generalizing executed s with
  | nil =>
    cases h
    exact ⟨rfl,hexecuted,rfl,rfl,rfl,rfl,rfl,rfl,hopened⟩
  | cons call rest ih =>
    rw [drainPending,Program.bind_run_eq_ok] at h
    obtain ⟨_,_,hlift,h⟩ := h
    rw [Program.lift_run,Prod.mk.injEq,demand_eq_ok,decide_eq_true_eq] at hlift
    obtain ⟨hcap,rfl⟩ := hlift
    rw [Program.bind_run_eq_ok] at h
    obtain ⟨_,u,hexchange,h⟩ := h
    obtain ⟨after,hperform,hu⟩ := exchangeBranch_eq_ok hexchange
    obtain ⟨-,observation,hsealed,hafter⟩ := executeTool_eq_ok.mp hperform
    have hended : u.handle.state.episodeTerminal = endsEpisode inputs.program call.callId := by
      rw [← hprogram,endsEpisode_of_sealed hsealed,hu,hafter]
      rfl
    have hkind : u.handle.state.episodeTerminal = false → u.handle.state.failureKind = .NONE := by
      rw [hu,hafter]
      intro hopen
      by_contra hfailed
      exact absurd (observation.terminal hfailed) (Bool.eq_false_iff.mp hopen)
    obtain ⟨htotal,hbound,hdrained⟩ := ih hcap hkind h
    refine ⟨?_,hbound,?_,?_,?_,?_,?_,?_,hdrained.opened⟩
    · rw [htotal,List.length_cons]
      omega
    · rw [hdrained.turns,hu,hafter]
      rfl
    · rw [hdrained.tokens,hu]
    · rw [hdrained.modelCalls,hu]
    · rw [hdrained.seeds,hu]
    · rw [hdrained.failure,hu]
    · rw [hdrained.ended,hended,List.getLast?_cons]
      cases rest.getLast? <;> rfl

theorem beforeTurn_start {executed : ℕ} {t : SubjectLoopState} (htotal : executed = inputs.view.branchPendingCalls.length)
    (hbound : executed ≤ inputs.caps.toolCalls) (hdrained : Drained inputs inputs.view.branchPendingCalls inputs.restored t) :
    BeforeTurn platform inputs 0 {t with toolCalls := executed} := by
  refine ⟨⟨Nat.zero_le _,?_,hdrained.tokens,hbound,hdrained.modelCalls,?_,?_⟩,rfl,htotal,?_,hdrained.failure,
    hdrained.opened,fun _ => .inl rfl⟩
  · rw [List.take_zero,List.append_nil]
    exact hdrained.turns
  · exact congrArg Except.ok hdrained.seeds.symm
  · intro earlier hearlier
    exact absurd hearlier (Nat.not_lt_zero earlier)
  · refine hdrained.ended.trans ?_
    rw [show inputs.restored.handle.state.episodeTerminal = false from inputs.snapshot.nonterminal]
    rw [SlotInputs.course,List.take_zero,List.foldl_nil]
    cases inputs.view.branchPendingCalls.getLast? <;> rfl

structure Slot (platform : Platform) (inputs : SlotInputs) (result : SlotResult) (last : ℕ) (t : SubjectLoopState) : Prop where
  pending : inputs.view.branchPendingCalls.length ≤ inputs.caps.toolCalls
  after : AfterLoop platform inputs last t
  tokens : result.counters.generatedTokens = t.generatedTokens
  modelCalls : result.counters.modelCalls = t.modelCalls
  toolCalls : result.counters.toolCalls = t.toolCalls
  seeds : result.callSeeds = t.callSeeds
  failure : result.failureKind = t.reported
  turns : result.finalState.turns = t.handle.state.turns

theorem slot_of_ok {result : SlotResult} (h : (runOpaqueSlot platform inputs).1 = .ok result) :
    ∃ last t, Slot platform inputs result last t := by
  cases hprepare : prepareSlot platform inputs with
  | error e =>
    rw [runOpaqueSlot,hprepare] at h
    cases h
  | ok worker =>
    have hprogram : worker.program = inputs.program := by
      simp only [prepareSlot,SyntheticWorker.start,bind_eq_ok] at hprepare
      obtain ⟨_,_,⟨_,_⟩,⟨roles,_,hstart⟩,_,_,hworker⟩ := hprepare
      cases hstart
      cases hworker
      rfl
    have hrun : ∃ final, runRestoredSlot platform inputs worker inputs.restored = (.ok result,final) := by
      rw [runOpaqueSlot,hprepare] at h
      exact ⟨_,Prod.ext h rfl⟩
    obtain ⟨final,hrun⟩ := hrun
    rw [runRestoredSlot,Program.bind_run_eq_ok] at hrun
    obtain ⟨executed,u,hdrain,hrun⟩ := hrun
    obtain ⟨htotal,hbound,hdrained⟩ := drainPending_ok hprogram (Nat.zero_le _) (fun _ => inputs.snapshot.unfailed) hdrain
    rw [Nat.zero_add] at htotal
    rw [Program.bind_run_ok Program.get_run,Program.bind_run_eq_ok] at hrun
    obtain ⟨guidance,_,hlift,hrun⟩ := hrun
    rw [Program.lift_run,Prod.mk.injEq] at hlift
    obtain ⟨-,rfl⟩ := hlift
    rw [Program.bind_run_ok Program.modify_run,Program.bind_run_eq_ok] at hrun
    obtain ⟨_,t,hloop,hrun⟩ := hrun
    obtain ⟨last,hafter⟩ := runSubjectLoop_ok hprogram rfl (beforeTurn_start htotal hbound hdrained) hloop
    rw [Program.bind_run_ok Program.get_run] at hrun
    cases hrun
    exact ⟨last,_,htotal ▸ hbound,hafter,rfl,rfl,rfl,rfl,rfl,rfl⟩

end Loop

section Bounds
variable {platform : Platform} {inputs : SlotInputs} {result : SlotResult} {last : ℕ} {t : SubjectLoopState}

theorem tokensThrough_eq (index : ℕ) : inputs.tokensThrough index = (inputs.course (index + 1)).tokens :=
  (course_tokens (index + 1)).symm

theorem Slot.modelCalls_le (h : Slot platform inputs result last t) : result.counters.modelCalls ≤ inputs.caps.modelCalls := by
  rw [h.modelCalls,h.after.counted.modelCalls]
  cases last with
  | zero => exact Nat.zero_le _
  | succ prev =>
    obtain ⟨-,hopen⟩ := h.after.counted.opened prev (Nat.lt_succ_self prev)
    by_contra hover
    exact hopen (.inr (.inr (by omega)))

theorem Slot.lastTurn (h : Slot platform inputs result last t) :
    result.counters.modelCalls = 0 ∧ result.counters.generatedTokens = 0 ∨
      ∃ turn, result.finalState.turns.getLast? = some turn ∧
        result.counters.generatedTokens < inputs.caps.generatedTokens + turn.generatedTokens := by
  have hcounted := h.after.counted
  rw [h.modelCalls,h.tokens,h.turns,hcounted.modelCalls,hcounted.tokens,hcounted.turns]
  cases last with
  | zero => exact .inl ⟨rfl,rfl⟩
  | succ prev =>
    obtain ⟨turn,hturn⟩ : ∃ turn, inputs.subjectTurns[prev]? = some turn :=
      ⟨_,List.getElem?_eq_getElem (Nat.lt_of_succ_le hcounted.available)⟩
    obtain ⟨-,hopen⟩ := hcounted.opened prev (Nat.lt_succ_self prev)
    have hless : (inputs.course prev).tokens < inputs.caps.generatedTokens := by
      by_contra hover
      exact hopen (.inr (.inl (Nat.le_of_not_lt hover)))
    refine .inr ⟨turn,?_,?_⟩
    · rw [List.take_add_one,hturn,Option.toList_some,← List.append_assoc,List.getLast?_concat]
    · rw [course_succ hturn]
      exact Nat.add_lt_add_right hless _

theorem Slot.tokens_le (h : Slot platform inputs result last t) (hcloses : inputs.ClosesWithinTokens)
    (hnone : result.failureKind = .NONE) : result.counters.generatedTokens ≤ inputs.caps.generatedTokens := by
  have hcounted := h.after.counted
  rw [h.failure] at hnone
  rw [h.tokens,hcounted.tokens]
  rcases h.after.outcome with ⟨-,hclosed⟩ | ⟨-,-,hfailed⟩
  · rcases hclosed with rfl | ⟨prev,turn,rfl,hturn,hiff⟩
    · exact Nat.zero_le _
    · rw [← tokensThrough_eq]
      refine hcloses prev turn ⟨h.pending,(List.getElem?_eq_some_iff.mp hturn).1,?_⟩ hturn (hiff.mp hnone)
      intro earlier hearlier
      exact hcounted.opened earlier (Nat.lt_succ_of_le hearlier)
  · exact absurd hnone hfailed

theorem Slot.last_of_closes (h : Slot platform inputs result last t) {index : ℕ} {turn : SubjectTurn}
    (hreaches : inputs.reaches index) (hturn : inputs.subjectTurns[index]? = some turn)
    (hcloses : inputs.closesTurn index turn = true) : last = index + 1 ∧ result.failureKind = .NONE := by
  have hended := closesTurn_ended hturn hcloses
  have hlast : last = index + 1 := by
    apply Nat.le_antisymm
    · by_contra hover
      have hopen := (h.after.counted.opened (index + 1) (Nat.lt_of_not_le hover)).1
      rw [hended] at hopen
      cases hopen
    · by_contra hunder
      obtain ⟨hopen,hfree⟩ := hreaches.2.2 last (by omega)
      rcases h.after.outcome with ⟨hlast,-⟩ | ⟨-,hcapped,-⟩
      · rw [hopen] at hlast
        cases hlast
      · exact hfree hcapped
  refine ⟨hlast,?_⟩
  subst hlast
  rw [h.failure]
  rcases h.after.outcome with ⟨-,hclosed⟩ | ⟨hopen,-,-⟩
  · rcases hclosed with hzero | ⟨prev,other,hprev,hother,hiff⟩
    · cases hzero
    · cases hprev
      rw [hturn] at hother
      cases hother
      exact hiff.mpr hcloses
  · rw [hended] at hopen
    cases hopen

end Bounds

theorem branch_caps_bind_iff (platform : Platform) (inputs : SlotInputs) (result : SlotResult)
    (h : (runOpaqueSlot platform inputs).1 = .ok result) :
    BranchCapsBind platform inputs result ↔ inputs.ClosesWithinTokens := by
  obtain ⟨last,t,hslot⟩ := slot_of_ok h
  have hcounted := hslot.after.counted
  have htools : result.counters.toolCalls ≤ inputs.caps.toolCalls := by
    rw [hslot.toolCalls]
    exact hcounted.tools
  have hseeds : derivedSeeds platform inputs result.counters.modelCalls = .ok result.callSeeds := by
    rw [hslot.modelCalls,hcounted.modelCalls,hslot.seeds]
    exact hcounted.seeds
  constructor
  · intro hbind index turn hreaches hturn hcloses
    obtain ⟨rfl,hnone⟩ := hslot.last_of_closes hreaches hturn hcloses
    rw [tokensThrough_eq,← hcounted.tokens,← hslot.tokens]
    exact (hbind.unfailed hnone).1
  · intro hcloses
    exact ⟨htools,hslot.modelCalls_le,hslot.lastTurn,hseeds,
      fun hnone => ⟨hslot.tokens_le hcloses hnone,hslot.modelCalls_le,htools⟩⟩

section Sample

theorem tightWorkOrder_built : ({slotWorkOrder with branchCaps := ⟨3,5,5,1000⟩} : WorkOrderRow).postInit = .ok () :=
  cappedWorkOrder_built _

def tightInputs : SlotInputs := {slotInputs 2 (by decide) with
  workOrder := ⟨{slotWorkOrder with branchCaps := ⟨3,5,5,1000⟩},tightWorkOrder_built⟩}

theorem tight_reported : ((runOpaqueSlot slotPlatform tightInputs).1.toOption.map fun result =>
    (result.failureKind,result.counters.generatedTokens)) = some (.NONE,4) := by decide +kernel

theorem closing_turn_overruns : ∃ result, (runOpaqueSlot slotPlatform tightInputs).1 = .ok result ∧
    ¬ BranchCapsBind slotPlatform tightInputs result := by
  have hreported := tight_reported
  cases hresult : (runOpaqueSlot slotPlatform tightInputs).1 with
  | error e =>
    rw [hresult] at hreported
    cases hreported
  | ok result =>
    rw [hresult,Except.toOption,Option.map_some,Option.some.injEq,Prod.mk.injEq] at hreported
    obtain ⟨hnone,htokens⟩ := hreported
    refine ⟨result,rfl,fun hbind => ?_⟩
    have hwithin := (hbind.unfailed hnone).1
    rw [htokens] at hwithin
    exact absurd hwithin (by decide)

theorem padded_slot_binds : ∃ result, (runOpaqueSlot slotPlatform (slotInputs 2 (by decide))).1 = .ok result ∧
    BranchCapsBind slotPlatform (slotInputs 2 (by decide)) result := by
  have hok : (runOpaqueSlot slotPlatform (slotInputs 2 (by decide))).1.isOk = true := by decide +kernel
  cases hresult : (runOpaqueSlot slotPlatform (slotInputs 2 (by decide))).1 with
  | error e =>
    rw [hresult] at hok
    cases hok
  | ok result =>
    refine ⟨result,rfl,(branch_caps_bind_iff _ _ result hresult).mpr ?_⟩
    intro index turn hreaches _ _
    have htwo : (slotInputs 2 (by decide)).subjectTurns.length = 2 := by decide
    have hindex := hreaches.2.1
    rw [htwo] at hindex
    match index,hindex with
    | 0,_ => decide
    | 1,_ => decide

end Sample

end PneumaLab.ResamplingNull
