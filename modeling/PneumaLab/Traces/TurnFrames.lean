import Mathlib.Data.List.Induction
import Mathlib.Data.List.TakeWhile
import PneumaLab.Traces.Trajectory

namespace PneumaLab.Traces

open Foundation

def HasRole (role : String) (message : Json) : Prop := lookupField message "role" = some (.str role)

instance (role : String) (message : Json) : Decidable (HasRole role message) := inferInstanceAs (Decidable (_ = _))

structure Turn where
  message : Json
  replies : List Json

def repliesIn (rest : List Json) : List Json :=
  (rest.takeWhile fun m => !decide (HasRole "assistant" m) && !decide (HasRole "user" m)).filter fun m => decide (HasRole "tool" m)

def turns : List Json → List Turn
  | [] => []
  | m :: rest => if HasRole "assistant" m then ⟨m,repliesIn rest⟩ :: turns rest else turns rest

def attachedIn (rest : List Json) : List Json :=
  (rest.takeWhile fun m => !decide (HasRole "assistant" m)).filter fun m => decide (HasRole "tool" m)

def groupedSteps : List Json → List Step
  | [] => []
  | m :: rest => if HasRole "assistant" m then ⟨m,attachedIn rest⟩ :: groupedSteps rest else groupedSteps rest

def Orderly (messages : List Json) : Prop :=
  ∀ before assistant middle user between tool after,
    messages = before ++ assistant :: middle ++ user :: between ++ tool :: after →
    HasRole "assistant" assistant → HasRole "user" user → HasRole "tool" tool → ∃ m ∈ between, HasRole "assistant" m

def WellFormedCall (call : Json) : Prop :=
  ∃ fields function name, call = .obj fields ∧ fields.lookup "function" = some (.obj function) ∧
    function.lookup "name" = some (.str name)

def WellFormedMessage (message : Json) : Prop :=
  ∃ fields, message = .obj fields ∧
    (fields.lookup "tool_calls" = none ∨ fields.lookup "tool_calls" = some .null ∨
      ∃ calls, fields.lookup "tool_calls" = some (.arr calls) ∧ ∀ call ∈ calls, WellFormedCall call)

variable (python : Interpreter)

def callsOf (message : Json) : List Json :=
  match toolCallRecords python message with
  | .ok calls => calls
  | .error _ => []

abbrev Signature := List (Json × Json)

def signatureOf (message : Json) : Signature := stepSignature (callsOf python message)

def toolNamesOf (message : Json) : List Json := (signatureOf python message).map Prod.fst

def RunBefore (signatures : List Signature) (i k : ℕ) : Prop :=
  k ≤ i ∧ (k = 0 ∨ signatures[i]? ≠ some []) ∧ ∀ j, i - k ≤ j → j < i → signatures[j]? = signatures[i]?

def switchesUpTo (names : List (List Json)) (i : ℕ) : ℕ := ((List.range i).filter fun j => decide (names[j]? ≠ names[j+1]?)).length

variable (recording : Recording)

structure FrameOf (messages : List Json) (i : ℕ) (turn : Turn) (frame : Json) : Prop where
  stepIndex : fieldOf frame "step_index" = .int i
  toolCalls : fieldOf frame "tool_calls" = .arr (callsOf python turn.message)
  text : fieldOf frame "assistant_text_sha256" = .str (sha256Hex python (heldText python turn.message))
  observations : fieldOf frame "observations" = .arr (turn.replies.map (observationRecord python recording))
  retryCount : ∃ k : ℕ, fieldOf frame "retry_count" = .int k ∧
    IsGreatest {k | RunBefore ((turns messages).map fun t => signatureOf python t.message) i k} k
  strategySwitches : fieldOf frame "strategy_switches" =
    .int (switchesUpTo ((turns messages).map fun t => toolNamesOf python t.message) i)

structure ExtractionOf (messages : List Json) (extraction : Extraction) : Prop where
  oneFrameEach : extraction.frames.length = (turns messages).length
  frames : ∀ i turn frame, (turns messages)[i]? = some turn → extraction.frames[i]? = some frame →
    FrameOf python recording messages i turn frame
  repliesApart : ((turns messages).flatMap Turn.replies).Sublist (messages.filter fun m => decide (HasRole "tool" m))
  firstUserText : extraction.firstUserText = ((messages.find? fun m => decide (HasRole "user" m)).map (heldText python)).getD ""

section Grouping

theorem attach_last (message : Json) (init : List Step) (last : Step) :
    attach message (init ++ [last]) = init ++ [{last with toolMessages := last.toolMessages ++ [message]}] := by
  induction init with
  | nil => rfl
  | cons step init ih =>
    cases init with
    | nil => rfl
    | cons next init => exact congrArg (step :: ·) ih

theorem group_user {grouping : Grouping} {m : Json} (h : HasRole "user" m) : groupMessage python grouping m =
    {grouping with firstUserText := grouping.firstUserText.or (some (heldText python m))} := by
  obtain ⟨steps,first⟩ := grouping
  rw [HasRole] at h
  cases first <;> simp [groupMessage,h]

theorem group_assistant {grouping : Grouping} {m : Json} (h : HasRole "assistant" m) : groupMessage python grouping m =
    {grouping with steps := grouping.steps ++ [⟨m,[]⟩]} := by
  rw [HasRole] at h
  simp [groupMessage,h]

theorem group_tool {grouping : Grouping} {m : Json} (h : HasRole "tool" m) : groupMessage python grouping m =
    {grouping with steps := attach m grouping.steps} := by
  rw [HasRole] at h
  simp [groupMessage,h]

theorem group_other {grouping : Grouping} {m : Json} (huser : ¬HasRole "user" m) (hassistant : ¬HasRole "assistant" m)
    (htool : ¬HasRole "tool" m) : groupMessage python grouping m = grouping := by
  rw [HasRole] at huser hassistant htool
  simp [groupMessage,huser,hassistant,htool]

theorem role_unique {role other : String} {m : Json} (h : HasRole role m) (hne : role ≠ other) : ¬HasRole other m := by
  intro hother
  rw [HasRole] at h hother
  rw [h] at hother
  exact hne (Json.str.inj (Option.some.inj hother))

theorem steps_unattached {grouping : Grouping} {m : Json} (hassistant : ¬HasRole "assistant" m) (htool : ¬HasRole "tool" m) :
    (groupMessage python grouping m).steps = grouping.steps := by
  by_cases huser : HasRole "user" m
  · rw [group_user python huser]
  · rw [group_other python huser hassistant htool]

theorem attachedIn_assistant {m : Json} (rest : List Json) (h : HasRole "assistant" m) : attachedIn (m :: rest) = [] := by
  simp [attachedIn,h]

theorem attachedIn_tool {m : Json} (rest : List Json) (h : HasRole "tool" m) : attachedIn (m :: rest) = m :: attachedIn rest := by
  simp [attachedIn,h,role_unique h (show "tool" ≠ "assistant" by decide)]

theorem attachedIn_other {m : Json} (rest : List Json) (hassistant : ¬HasRole "assistant" m) (htool : ¬HasRole "tool" m) :
    attachedIn (m :: rest) = attachedIn rest := by
  simp [attachedIn,hassistant,htool]

theorem open_steps (messages : List Json) (init : List Step) (last : Step) (grouping : Grouping)
    (h : grouping.steps = init ++ [last]) : (messages.foldl (groupMessage python) grouping).steps =
      init ++ {last with toolMessages := last.toolMessages ++ attachedIn messages} :: groupedSteps messages := by
  induction messages generalizing grouping init last with
  | nil => simp [h,attachedIn,groupedSteps]
  | cons m rest ih =>
    rw [List.foldl_cons]
    by_cases hassistant : HasRole "assistant" m
    · have hsteps : (groupMessage python grouping m).steps = (init ++ [last]) ++ [⟨m,[]⟩] := by
        rw [group_assistant python hassistant,h]
      rw [ih _ _ _ hsteps,attachedIn_assistant rest hassistant,groupedSteps,if_pos hassistant]
      simp
    · rw [groupedSteps,if_neg hassistant]
      by_cases htool : HasRole "tool" m
      · have hsteps : (groupMessage python grouping m).steps = init ++ [{last with toolMessages := last.toolMessages ++ [m]}] := by
          rw [group_tool python htool,h,attach_last]
        rw [ih _ _ _ hsteps,attachedIn_tool rest htool]
        simp
      · have hsteps : (groupMessage python grouping m).steps = init ++ [last] := by rw [steps_unattached python hassistant htool,h]
        rw [ih _ _ _ hsteps,attachedIn_other rest hassistant htool]

theorem grouped_steps (messages : List Json) (grouping : Grouping) (h : grouping.steps = []) :
    (messages.foldl (groupMessage python) grouping).steps = groupedSteps messages := by
  induction messages generalizing grouping with
  | nil => exact h
  | cons m rest ih =>
    rw [List.foldl_cons,groupedSteps]
    by_cases hassistant : HasRole "assistant" m
    · have hsteps : (groupMessage python grouping m).steps = [] ++ [⟨m,[]⟩] := by rw [group_assistant python hassistant,h]
      rw [open_steps python rest _ _ _ hsteps,if_pos hassistant]
      rfl
    · rw [if_neg hassistant]
      refine ih _ ?_
      by_cases htool : HasRole "tool" m
      · rw [group_tool python htool,h]
        rfl
      · rw [steps_unattached python hassistant htool,h]

theorem grouped_text (messages : List Json) (grouping : Grouping) : (messages.foldl (groupMessage python) grouping).firstUserText =
    grouping.firstUserText.or ((messages.find? fun m => decide (HasRole "user" m)).map (heldText python)) := by
  induction messages generalizing grouping with
  | nil => simp
  | cons m rest ih =>
    rw [List.foldl_cons,ih]
    by_cases huser : HasRole "user" m
    · simp [group_user python huser,huser]
    · have htext : (groupMessage python grouping m).firstUserText = grouping.firstUserText := by
        by_cases hassistant : HasRole "assistant" m
        · rw [group_assistant python hassistant]
        · by_cases htool : HasRole "tool" m
          · rw [group_tool python htool]
          · rw [group_other python huser hassistant htool]
      simp [htext,huser]

end Grouping

section Frames

structure Shows (progress : Progress) (step : Step) (frame : Json) : Prop where
  stepIndex : fieldOf frame "step_index" = .int progress.signatures.length
  toolCalls : fieldOf frame "tool_calls" = .arr (callsOf python step.message)
  text : fieldOf frame "assistant_text_sha256" = .str (sha256Hex python (heldText python step.message))
  observations : fieldOf frame "observations" = .arr (step.toolMessages.map (observationRecord python recording))
  retryCount : fieldOf frame "retry_count" = .int (Traces.retryCount (signatureOf python step.message) progress.signatures)
  strategySwitches : fieldOf frame "strategy_switches" =
    .int (progress.strategySwitches + if switched (signatureOf python step.message) progress.signatures then 1 else 0 : ℕ)

def next (progress : Progress) (step : Step) : Progress :=
  ⟨signatureOf python step.message :: progress.signatures,
    progress.strategySwitches + if switched (signatureOf python step.message) progress.signatures then 1 else 0⟩

theorem toolCallRecord_ok {call : Json} (h : WellFormedCall call) :
    ∃ record name, toolCallRecord python call = .ok record ∧ fieldOf record "tool" = .str name := by
  obtain ⟨fields,function,name,rfl,hfunction,hname⟩ := h
  have hfields : truthy (.obj fields) = true := by
    cases fields with
    | nil => cases hfunction
    | cons field fields => rfl
  have hheld : truthy (.obj function) = true := by
    cases function with
    | nil => cases hname
    | cons field function => rfl
  have hrecord : ∃ raw, toolCallRecord python (.obj fields) = .ok (.obj [
      ("args_digest",.str (argsDigest python raw)),("args_length",.int (str python raw).length),
      ("tool",orElse (.str name) (.str "unknown"))]) := by
    simp only [toolCallRecord,mapField,getField,orElse,hfields,hfunction,hheld,hname,if_true,bind,Except.bind,pure,Except.pure,
      Option.getD_some]
    exact ⟨_,rfl⟩
  obtain ⟨raw,hrecord⟩ := hrecord
  refine ⟨_,if name = "" then "unknown" else name,hrecord,?_⟩
  by_cases hempty : name = "" <;> simp [fieldOf,lookupField,List.lookup_cons,orElse,truthy,hempty]

theorem toolCallRecords_ok {message : Json} (h : WellFormedMessage message) :
    toolCallRecords python message = .ok (callsOf python message) ∧ ∃ names, toolTexts (callsOf python message) = .ok names := by
  obtain ⟨fields,rfl,hheld⟩ := h
  have hlist : ∃ calls, listField (.obj fields) "tool_calls" = .ok calls ∧ ∀ call ∈ calls, WellFormedCall call := by
    obtain hnone | hnull | ⟨calls,hcalls,hall⟩ := hheld
    · exact ⟨[],by simp [listField,getField,hnone,orElse,truthy,iterate,bind,Except.bind],nofun⟩
    · exact ⟨[],by simp [listField,getField,hnull,orElse,truthy,iterate,bind,Except.bind],nofun⟩
    · refine ⟨calls,?_,hall⟩
      cases calls <;> simp [listField,getField,hcalls,orElse,truthy,iterate,bind,Except.bind]
  obtain ⟨calls,hlist,hall⟩ := hlist
  have hrecords : ∃ records names, calls.mapM (toolCallRecord python) = .ok records ∧ toolTexts records = .ok names := by
    clear hlist
    induction calls with
    | nil => exact ⟨[],[],rfl,rfl⟩
    | cons call calls ih =>
      obtain ⟨hcall,hrest⟩ := List.forall_mem_cons.mp hall
      obtain ⟨record,name,hrecord,hname⟩ := toolCallRecord_ok python hcall
      obtain ⟨records,names,hrecords,hnames⟩ := ih hrest
      refine ⟨record :: records,name :: names,?_,?_⟩
      · rw [List.mapM_cons,hrecord]
        simp only [bind,Except.bind]
        rw [hrecords]
        rfl
      · rw [toolTexts] at hnames ⊢
        rw [List.mapM_cons,hname]
        simp only [bind,Except.bind]
        rw [hnames]
        rfl
  obtain ⟨records,names,hrecords,hnames⟩ := hrecords
  have hmade : toolCallRecords python (.obj fields) = .ok records := by
    rw [toolCallRecords,hlist]
    exact hrecords
  have hcalls : callsOf python (.obj fields) = records := by rw [callsOf,hmade]
  rw [hcalls]
  exact ⟨hmade,names,hnames⟩

theorem agentTraceFrame_made (runId : String) {step : Step} (h : WellFormedMessage step.message) (progress : Progress) :
    ∃ frame, agentTraceFrame python recording runId progress step = .ok (frame,next python progress step) ∧
      Shows python recording progress step frame := by
  obtain ⟨hcalls,names,hnames⟩ := toolCallRecords_ok python h
  have hmade : ∃ frame, agentTraceFrame python recording runId progress step = .ok (frame,next python progress step) := by
    rw [agentTraceFrame,hcalls]
    simp only [bind,Except.bind,hnames,pure,Except.pure]
    exact ⟨_,rfl⟩
  obtain ⟨frame,hframe⟩ := hmade
  refine ⟨frame,hframe,?_⟩
  rw [agentTraceFrame,hcalls] at hframe
  simp only [bind,Except.bind,hnames,pure,Except.pure,Except.ok.injEq,Prod.mk.injEq] at hframe
  obtain ⟨rfl,_⟩ := hframe
  constructor <;> rfl

theorem agentTraceFrames_made (runId : String) (steps : List Step) (h : ∀ step ∈ steps, WellFormedMessage step.message) (progress : Progress) :
    ∃ frames, agentTraceFrames python recording runId progress steps = .ok frames ∧ frames.length = steps.length ∧
      ∀ i step frame, steps[i]? = some step → frames[i]? = some frame →
        Shows python recording ((steps.take i).foldl (next python) progress) step frame := by
  induction steps generalizing progress with
  | nil => exact ⟨[],rfl,rfl,by simp⟩
  | cons step steps ih =>
    obtain ⟨hstep,hsteps⟩ := List.forall_mem_cons.mp h
    obtain ⟨frame,hframe,hshows⟩ := agentTraceFrame_made python recording runId hstep progress
    obtain ⟨frames,hframes,hlength,hall⟩ := ih hsteps (next python progress step)
    refine ⟨frame :: frames,?_,by rw [List.length_cons,List.length_cons,hlength],fun i => ?_⟩
    · rw [agentTraceFrames,hframe]
      simp only [bind,Except.bind]
      rw [hframes]
      rfl
    · cases i with
      | zero =>
        rintro s f hs hf
        cases hs
        cases hf
        exact hshows
      | succ i =>
        intro s f hs hf
        exact hall i s f hs hf

theorem signatures_after (steps : List Step) (progress : Progress) : (steps.foldl (next python) progress).signatures =
    (steps.map fun step => signatureOf python step.message).reverse ++ progress.signatures := by
  induction steps generalizing progress with
  | nil => rfl
  | cons step steps ih => simp [ih,next]

theorem switchesUpTo_congr {xs ys : List (List Json)} {i : ℕ} (h : ∀ j ≤ i, xs[j]? = ys[j]?) : switchesUpTo xs i = switchesUpTo ys i := by
  rw [switchesUpTo,switchesUpTo]
  congr 1
  refine List.filter_congr fun j hj => ?_
  have hlt := List.mem_range.mp hj
  rw [h j (by omega),h (j+1) (by omega)]

theorem switchesUpTo_succ (xs : List (List Json)) (i : ℕ) :
    switchesUpTo xs (i+1) = switchesUpTo xs i + if xs[i]? ≠ xs[i+1]? then 1 else 0 := by
  rw [switchesUpTo,switchesUpTo,List.range_succ,List.filter_append,List.length_append]
  by_cases h : xs[i]? = xs[i+1]? <;> simp [h]

theorem switches_after (steps : List Step) (step : Step) :
    ((steps ++ [step]).foldl (next python) ⟨[],0⟩).strategySwitches =
      switchesUpTo ((steps ++ [step]).map fun s => toolNamesOf python s.message) steps.length := by
  induction steps using List.reverseRecOn generalizing step with
  | nil => rfl
  | append_singleton steps previous ih =>
    rw [List.foldl_append,List.foldl_cons,List.foldl_nil,next,ih previous,List.length_append,List.length_singleton,switchesUpTo_succ]
    refine congrArg₂ (· + ·) ?_ ?_
    · refine switchesUpTo_congr fun j hj => ?_
      have hin : j < ((steps ++ [previous]).map fun s => toolNamesOf python s.message).length := by simp; omega
      exact ((congrArg (fun names => names[j]?) List.map_append).trans (List.getElem?_append_left hin)).symm
    · have hprevious : ((steps ++ [previous] ++ [step]).map fun s => toolNamesOf python s.message)[steps.length]? =
          some (toolNamesOf python previous.message) := by simp
      have hstep : ((steps ++ [previous] ++ [step]).map fun s => toolNamesOf python s.message)[steps.length+1]? =
          some (toolNamesOf python step.message) := by simp
      have hearlier : ((steps ++ [previous]).foldl (next python) ⟨[],0⟩).signatures =
          signatureOf python previous.message :: (steps.map fun s => signatureOf python s.message).reverse := by
        rw [signatures_after,List.map_append,List.reverse_append]
        simp
      rw [hearlier,hprevious,hstep,switched]
      by_cases hsame : toolNamesOf python previous.message = toolNamesOf python step.message
      · have hsame' : (signatureOf python step.message).map Prod.fst = (signatureOf python previous.message).map Prod.fst := hsame.symm
        simp [hsame,hsame']
      · have hdiffers : (signatureOf python step.message).map Prod.fst ≠ (signatureOf python previous.message).map Prod.fst :=
          fun h => hsame h.symm
        simp [hsame,hdiffers]

theorem run_isGreatest_of {signatures : List Signature} {i : ℕ} {signature : Signature} (hi : signatures[i]? = some signature)
    (hacts : signature ≠ []) (p : Signature → Bool) (hp : ∀ other, p other = true ↔ other = signature) :
    IsGreatest {k | RunBefore signatures i k} ((signatures.take i).reverse.takeWhile p).length := by
  obtain ⟨hlt,hat⟩ := List.getElem?_eq_some_iff.mp hi
  have hlength : (signatures.take i).reverse.length = i := by simp; omega
  have hback : ∀ j < i, (signatures.take i).reverse[j]? = signatures[i-1-j]? := by
    intro j hj
    rw [List.getElem?_reverse (by simp; omega),List.length_take,Nat.min_eq_left hlt.le,List.getElem?_take_of_lt (by omega)]
  generalize (signatures.take i).reverse = earlier at hback hlength ⊢
  have hprefix := List.takeWhile_prefix p (l := earlier)
  constructor
  · refine ⟨hlength ▸ hprefix.length_le,.inr fun h => hacts (Option.some.inj (hi.symm.trans h)),fun j hj hji => ?_⟩
    have hin : i - 1 - j < (earlier.takeWhile p).length := by omega
    have hsame : earlier[i-1-j]? = some (earlier.takeWhile p)[i-1-j] := hprefix.getElem hin ▸ List.getElem?_eq_getElem _
    have hmem := (hp _).mp (List.mem_takeWhile_imp (List.getElem_mem hin))
    rw [hback _ (by omega),hmem,show i - 1 - (i - 1 - j) = j by omega] at hsame
    rw [hsame,hi]
  · intro k hk
    obtain ⟨hki,_,hrun⟩ := hk
    have hall : ∀ other ∈ earlier.take k, p other = true := by
      intro other hother
      obtain ⟨j,hj⟩ := List.mem_iff_getElem?.mp hother
      have hjk : j < k := by
        have hin := (List.getElem?_eq_some_iff.mp hj).1
        simp at hin
        omega
      rw [List.getElem?_take_of_lt hjk,hback j (by omega),hrun _ (by omega) (by omega),hi] at hj
      exact (hp other).mpr (Option.some.inj hj).symm
    rw [← List.take_append_drop k earlier,List.takeWhile_append_of_pos hall]
    simp
    omega

theorem run_isGreatest {signatures : List Signature} {i : ℕ} {signature : Signature} (hi : signatures[i]? = some signature) :
    IsGreatest {k | RunBefore signatures i k} (retryCount signature (signatures.take i).reverse) := by
  by_cases hempty : signature = []
  · subst hempty
    rw [retryCount,if_pos rfl]
    refine ⟨⟨Nat.zero_le i,.inl rfl,fun j hj hji => by omega⟩,fun k hk => ?_⟩
    obtain ⟨_,hzero | hacts,_⟩ := hk
    · exact hzero.le
    · exact absurd hi hacts
  · rw [retryCount,if_neg hempty]
    exact run_isGreatest_of hi hempty _ fun other => decide_eq_true_iff

end Frames

section Replies

theorem repliesIn_assistant {m : Json} (rest : List Json) (h : HasRole "assistant" m) : repliesIn (m :: rest) = [] := by
  simp [repliesIn,h]

theorem repliesIn_user {m : Json} (rest : List Json) (h : HasRole "user" m) : repliesIn (m :: rest) = [] := by
  simp [repliesIn,h]

theorem repliesIn_tool {m : Json} (rest : List Json) (h : HasRole "tool" m) : repliesIn (m :: rest) = m :: repliesIn rest := by
  simp [repliesIn,h,role_unique h (show "tool" ≠ "assistant" by decide),role_unique h (show "tool" ≠ "user" by decide)]

theorem repliesIn_other {m : Json} (rest : List Json) (hassistant : ¬HasRole "assistant" m) (huser : ¬HasRole "user" m)
    (htool : ¬HasRole "tool" m) : repliesIn (m :: rest) = repliesIn rest := by
  simp [repliesIn,hassistant,huser,htool]

theorem replies_lead (rest : List Json) : repliesIn rest <+: attachedIn rest := by
  induction rest with
  | nil => exact List.prefix_rfl
  | cons m rest ih =>
    by_cases hassistant : HasRole "assistant" m
    · rw [repliesIn_assistant rest hassistant]
      exact List.nil_prefix
    · by_cases huser : HasRole "user" m
      · rw [repliesIn_user rest huser]
        exact List.nil_prefix
      · by_cases htool : HasRole "tool" m
        · rw [repliesIn_tool rest htool,attachedIn_tool rest htool]
          exact (List.prefix_cons_inj m).mpr ih
        · rw [repliesIn_other rest hassistant huser htool,attachedIn_other rest hassistant htool]
          exact ih

theorem attachedIn_ne_nil {rest : List Json} : attachedIn rest ≠ [] ↔
    ∃ between tool after, rest = between ++ tool :: after ∧ HasRole "tool" tool ∧ ∀ m ∈ between, ¬HasRole "assistant" m := by
  induction rest with
  | nil => simp [attachedIn]
  | cons m rest ih =>
    by_cases htool : HasRole "tool" m
    · rw [attachedIn_tool rest htool]
      exact ⟨fun _ => ⟨[],m,rest,rfl,htool,nofun⟩,fun _ => List.cons_ne_nil _ _⟩
    · have hskip : (∃ between tool after, m :: rest = between ++ tool :: after ∧ HasRole "tool" tool ∧
          ∀ x ∈ between, ¬HasRole "assistant" x) ↔ ¬HasRole "assistant" m ∧
            ∃ between tool after, rest = between ++ tool :: after ∧ HasRole "tool" tool ∧ ∀ x ∈ between, ¬HasRole "assistant" x := by
        constructor
        · rintro ⟨between,tool,after,heq,ht,hno⟩
          cases between with
          | nil =>
            cases heq
            exact absurd ht htool
          | cons x between =>
            cases heq
            obtain ⟨hx,hrest⟩ := List.forall_mem_cons.mp hno
            exact ⟨hx,between,tool,after,rfl,ht,hrest⟩
        · rintro ⟨hm,between,tool,after,rfl,ht,hno⟩
          exact ⟨m :: between,tool,after,rfl,ht,List.forall_mem_cons.mpr ⟨hm,hno⟩⟩
      rw [hskip]
      by_cases hassistant : HasRole "assistant" m
      · simp [attachedIn_assistant rest hassistant,hassistant]
      · rw [attachedIn_other rest hassistant htool,ih]
        exact ⟨fun h => ⟨hassistant,h⟩,And.right⟩

def Late (rest : List Json) : Prop :=
  ∃ middle user between tool after, rest = middle ++ user :: between ++ tool :: after ∧ HasRole "user" user ∧
    HasRole "tool" tool ∧ (∀ m ∈ middle, ¬HasRole "assistant" m) ∧ ∀ m ∈ between, ¬HasRole "assistant" m

theorem late_cons {m : Json} {rest : List Json} : Late (m :: rest) ↔ ¬HasRole "assistant" m ∧
    (HasRole "user" m ∧ attachedIn rest ≠ [] ∨ Late rest) := by
  rw [attachedIn_ne_nil]
  constructor
  · rintro ⟨middle,user,between,tool,after,heq,huser,htool,hmiddle,hbetween⟩
    cases middle with
    | nil =>
      cases heq
      exact ⟨role_unique huser (by decide),.inl ⟨huser,between,tool,after,rfl,htool,hbetween⟩⟩
    | cons x middle =>
      cases heq
      obtain ⟨hx,hrest⟩ := List.forall_mem_cons.mp hmiddle
      exact ⟨hx,.inr ⟨middle,user,between,tool,after,rfl,huser,htool,hrest,hbetween⟩⟩
  · rintro ⟨hm,⟨huser,between,tool,after,rfl,htool,hbetween⟩ | ⟨middle,user,between,tool,after,rfl,huser,htool,hmiddle,hbetween⟩⟩
    · exact ⟨[],m,between,tool,after,rfl,huser,htool,nofun,hbetween⟩
    · exact ⟨m :: middle,user,between,tool,after,rfl,huser,htool,List.forall_mem_cons.mpr ⟨hm,hmiddle⟩,hbetween⟩

theorem late_attached {rest : List Json} (h : Late rest) : attachedIn rest ≠ [] := by
  obtain ⟨middle,user,between,tool,after,rfl,huser,htool,hmiddle,hbetween⟩ := h
  refine attachedIn_ne_nil.mpr ⟨middle ++ user :: between,tool,after,rfl,htool,fun m hm => ?_⟩
  obtain hm | hm := List.mem_append.mp hm
  · exact hmiddle m hm
  · obtain rfl | hm := List.mem_cons.mp hm
    · exact role_unique huser (by decide)
    · exact hbetween m hm

theorem attached_eq_iff {rest : List Json} : attachedIn rest = repliesIn rest ↔ ¬Late rest := by
  induction rest with
  | nil => simp [attachedIn,repliesIn,Late]
  | cons m rest ih =>
    rw [late_cons]
    by_cases hassistant : HasRole "assistant" m
    · simp [attachedIn_assistant rest hassistant,repliesIn_assistant rest hassistant,hassistant]
    · by_cases huser : HasRole "user" m
      · have htool : ¬HasRole "tool" m := role_unique huser (by decide)
        rw [attachedIn_other rest hassistant htool,repliesIn_user rest huser]
        constructor
        · rintro hnil ⟨_,⟨_,hne⟩ | hlate⟩
          · exact hne hnil
          · exact late_attached hlate hnil
        · intro h
          by_contra hne
          exact h ⟨hassistant,.inl ⟨huser,hne⟩⟩
      · by_cases htool : HasRole "tool" m
        · rw [attachedIn_tool rest htool,repliesIn_tool rest htool,List.cons.injEq,ih]
          simp [hassistant,huser]
        · rw [attachedIn_other rest hassistant htool,repliesIn_other rest hassistant huser htool,ih]
          simp [hassistant,huser]

theorem last_assistant {messages : List Json} (h : ∃ m ∈ messages, HasRole "assistant" m) :
    ∃ before m after, messages = before ++ m :: after ∧ HasRole "assistant" m ∧ ∀ x ∈ after, ¬HasRole "assistant" x := by
  induction messages using List.reverseRecOn with
  | nil => obtain ⟨m,hm,_⟩ := h; cases hm
  | append_singleton messages last ih =>
    by_cases hlast : HasRole "assistant" last
    · exact ⟨messages,last,[],rfl,hlast,nofun⟩
    · obtain ⟨m,hm,hassistant⟩ := h
      obtain hm | hm := List.mem_append.mp hm
      · obtain ⟨before,a,after,rfl,ha,hno⟩ := ih ⟨m,hm,hassistant⟩
        refine ⟨before,a,after ++ [last],by simp,ha,fun x hx => ?_⟩
        obtain hx | hx := List.mem_append.mp hx
        · exact hno x hx
        · exact List.mem_singleton.mp hx ▸ hlast
      · exact absurd (List.mem_singleton.mp hm ▸ hassistant) hlast

theorem orderly_iff {messages : List Json} : Orderly messages ↔
    ∀ before m rest, messages = before ++ m :: rest → HasRole "assistant" m → attachedIn rest = repliesIn rest := by
  constructor
  · intro h before m rest heq hm
    rw [attached_eq_iff]
    rintro ⟨middle,user,between,tool,after,rfl,huser,htool,_,hbetween⟩
    obtain ⟨x,hx,hassistant⟩ := h before m middle user between tool after (by rw [heq]; simp) hm huser htool
    exact hbetween x hx hassistant
  · intro h before assistant middle user between tool after heq hassistant huser htool
    by_contra hno
    push Not at hno
    have hsome : ∃ m ∈ assistant :: middle, HasRole "assistant" m := ⟨assistant,List.mem_cons_self,hassistant⟩
    obtain ⟨before',m,middle',hsplit,hm,hmiddle⟩ := last_assistant hsome
    have heq' : messages = (before ++ before') ++ m :: (middle' ++ user :: between ++ tool :: after) := by
      rw [heq]
      have hcons : before ++ assistant :: middle ++ user :: between ++ tool :: after =
          before ++ (assistant :: middle) ++ user :: between ++ tool :: after := rfl
      rw [hcons,hsplit]
      simp
    exact attached_eq_iff.mp (h _ _ _ heq' hm) ⟨middle',user,between,tool,after,rfl,huser,htool,hmiddle,hno⟩

def Paired (messages : List Json) (turn : Turn) (step : Step) : Prop :=
  ∃ before rest, messages = before ++ turn.message :: rest ∧ HasRole "assistant" turn.message ∧ step.message = turn.message ∧
    turn.replies = repliesIn rest ∧ step.toolMessages = attachedIn rest

theorem paired (messages : List Json) : List.Forall₂ (Paired messages) (turns messages) (groupedSteps messages) := by
  have hall : ∀ before rest, messages = before ++ rest → List.Forall₂ (Paired messages) (turns rest) (groupedSteps rest) := by
    intro before rest heq
    induction rest generalizing before with
    | nil => exact .nil
    | cons m rest ih =>
      have htail := ih (before ++ [m]) (by rw [heq]; simp)
      rw [turns,groupedSteps]
      by_cases hassistant : HasRole "assistant" m
      · rw [if_pos hassistant,if_pos hassistant]
        exact .cons ⟨before,rest,heq,hassistant,rfl,rfl,rfl⟩ htail
      · rw [if_neg hassistant,if_neg hassistant]
        exact htail
  exact hall [] messages rfl

theorem turn_at (before rest : List Json) {m : Json} (hassistant : HasRole "assistant" m) :
    ∃ i : ℕ, (turns (before ++ m :: rest))[i]? = some ⟨m,repliesIn rest⟩ ∧
      (groupedSteps (before ++ m :: rest))[i]? = some ⟨m,attachedIn rest⟩ := by
  induction before with
  | nil => exact ⟨0,by rw [List.nil_append,turns,if_pos hassistant]; rfl,by rw [List.nil_append,groupedSteps,if_pos hassistant]; rfl⟩
  | cons x before ih =>
    obtain ⟨i,hturn,hstep⟩ := ih
    rw [List.cons_append,turns,groupedSteps]
    by_cases hx : HasRole "assistant" x
    · exact ⟨i+1,by rw [if_pos hx]; exact hturn,by rw [if_pos hx]; exact hstep⟩
    · exact ⟨i,by rw [if_neg hx]; exact hturn,by rw [if_neg hx]; exact hstep⟩

theorem turns_skip {skipped rest : List Json} (h : ∀ m ∈ skipped, ¬HasRole "assistant" m) : turns (skipped ++ rest) = turns rest := by
  induction skipped with
  | nil => rfl
  | cons m skipped ih =>
    obtain ⟨hm,hrest⟩ := List.forall_mem_cons.mp h
    rw [List.cons_append,turns,if_neg hm,ih hrest]

theorem replies_sublist (messages : List Json) :
    ((turns messages).flatMap Turn.replies).Sublist (messages.filter fun m => decide (HasRole "tool" m)) := by
  induction h : messages.length using Nat.strong_induction_on generalizing messages with
  | _ n ih =>
    cases messages with
    | nil => exact .slnil
    | cons m rest =>
      rw [turns]
      by_cases hassistant : HasRole "assistant" m
      · have htool : ¬HasRole "tool" m := role_unique hassistant (by decide)
        rw [if_pos hassistant,List.filter_cons_of_neg (by simpa using htool),List.flatMap_cons,repliesIn]
        generalize hp : (fun x => !decide (HasRole "assistant" x) && !decide (HasRole "user" x)) = p
        have hskip : ∀ x ∈ rest.takeWhile p, ¬HasRole "assistant" x := by
          intro x hx hassistant
          have hx := List.mem_takeWhile_imp hx
          rw [← hp] at hx
          simp [hassistant] at hx
        have hsplit := List.takeWhile_append_dropWhile (p := p) (l := rest)
        have hlater := ih (rest.dropWhile p).length (by
          have := (List.dropWhile_sublist p (l := rest)).length_le
          simp at h
          omega) (rest.dropWhile p) rfl
        conv => enter [1,2]; rw [← hsplit,turns_skip hskip]
        conv => enter [2]; rw [← hsplit,List.filter_append]
        exact (List.Sublist.refl _).append hlater
      · rw [if_neg hassistant]
        exact (ih rest.length (by simp at h; omega) rest rfl).trans (List.Sublist.filter _ (List.sublist_cons_self m rest))

end Replies

section Whole

variable (messages : List Json) (runId : String)

theorem normalizeMessages_ok (h : ∀ m ∈ messages, WellFormedMessage m) : normalizeMessages python (.arr messages) = .ok messages := by
  have hmembers : messages.mapM (normalizeMessage python) = .ok messages := by
    induction messages with
    | nil => rfl
    | cons m rest ih =>
      obtain ⟨⟨fields,rfl,_⟩,hrest⟩ := List.forall_mem_cons.mp h
      rw [List.mapM_cons,show normalizeMessage python (.obj fields) = .ok (.obj fields) from rfl]
      simp only [bind,Except.bind]
      rw [ih hrest]
      rfl
  exact hmembers

theorem grouped_mem {step : Step} (h : step ∈ groupedSteps messages) : step.message ∈ messages := by
  induction messages with
  | nil => cases h
  | cons m rest ih =>
    rw [groupedSteps] at h
    by_cases hassistant : HasRole "assistant" m
    · rw [if_pos hassistant] at h
      obtain rfl | hrest := List.mem_cons.mp h
      · exact List.mem_cons_self
      · exact List.mem_cons_of_mem m (ih hrest)
    · rw [if_neg hassistant] at h
      exact List.mem_cons_of_mem m (ih h)

theorem extraction_made (h : ∀ m ∈ messages, WellFormedMessage m) (hsome : ∃ m ∈ messages, HasRole "assistant" m) :
    ∃ extraction, extractAgentTraceFrames python recording (.arr messages) runId = .ok extraction ∧
      extraction.frames.length = (groupedSteps messages).length ∧
      extraction.firstUserText = ((messages.find? fun m => decide (HasRole "user" m)).map (heldText python)).getD "" ∧
      ∀ i step frame, (groupedSteps messages)[i]? = some step → extraction.frames[i]? = some frame →
        Shows python recording (((groupedSteps messages).take i).foldl (next python) ⟨[],0⟩) step frame := by
  have hsteps := grouped_steps python messages ⟨[],none⟩ rfl
  have htext := grouped_text python messages ⟨[],none⟩
  obtain ⟨frames,hframes,hlength,hall⟩ := agentTraceFrames_made python recording runId (groupedSteps messages)
    (fun step hstep => h _ (grouped_mem messages hstep)) ⟨[],0⟩
  have hopen : (!(groupedSteps messages).isEmpty) = true := by
    obtain ⟨m,hm,hassistant⟩ := hsome
    obtain ⟨before,rest,rfl⟩ := List.append_of_mem hm
    obtain ⟨i,_,hi⟩ := turn_at before rest hassistant
    cases hnil : groupedSteps (before ++ m :: rest) with
    | nil =>
      rw [hnil] at hi
      cases hi
    | cons step steps => rfl
  refine ⟨⟨frames,messages.length,(groupedSteps messages).length,
    ((messages.find? fun m => decide (HasRole "user" m)).map (heldText python)).getD ""⟩,?_,hlength,rfl,hall⟩
  rw [extractAgentTraceFrames,normalizeMessages_ok python messages h]
  simp only [bind,Except.bind]
  rw [hsteps,hopen,hframes,htext]
  rfl

theorem frameOf_of_shows {i : ℕ} {turn : Turn} {step : Step} {frame : Json} (hturn : (turns messages)[i]? = some turn)
    (hstep : (groupedSteps messages)[i]? = some step) (hreplies : step.toolMessages = turn.replies)
    (h : Shows python recording (((groupedSteps messages).take i).foldl (next python) ⟨[],0⟩) step frame) :
    FrameOf python recording messages i turn frame := by
  have hpaired := paired messages
  have hmessages : (turns messages).map Turn.message = (groupedSteps messages).map Step.message := by
    rw [← List.forall₂_eq_eq_eq,List.forall₂_map_left_iff,List.forall₂_map_right_iff]
    exact hpaired.imp fun turn step hpair => hpair.choose_spec.choose_spec.2.2.1.symm
  have hmessage : turn.message = step.message := by
    have hat := congrArg (fun xs => xs[i]?) hmessages
    simp only [List.getElem?_map,hturn,hstep,Option.map_some] at hat
    exact Option.some.inj hat
  have hsignatures : ((groupedSteps messages).map fun s => signatureOf python s.message) =
      (turns messages).map fun t => signatureOf python t.message := by
    have hmap := congrArg (List.map (signatureOf python)) hmessages
    rw [List.map_map,List.map_map] at hmap
    exact hmap.symm
  have hnames : ((groupedSteps messages).map fun s => toolNamesOf python s.message) =
      (turns messages).map fun t => toolNamesOf python t.message := by
    have hmap := congrArg (List.map (toolNamesOf python)) hmessages
    rw [List.map_map,List.map_map] at hmap
    exact hmap.symm
  obtain ⟨hlt,hat⟩ := List.getElem?_eq_some_iff.mp hstep
  have hafter : (((groupedSteps messages).take i).foldl (next python) ⟨[],0⟩).signatures =
      (((turns messages).map fun t => signatureOf python t.message).take i).reverse := by
    rw [signatures_after,List.append_nil,← hsignatures,List.map_take]
  have hindex : (((groupedSteps messages).take i).foldl (next python) ⟨[],0⟩).signatures.length = i := by
    rw [signatures_after]
    simp
    omega
  constructor
  · rw [h.stepIndex,hindex]
  · rw [h.toolCalls,hmessage]
  · rw [h.text,hmessage]
  · rw [h.observations,hreplies]
  · refine ⟨_,h.retryCount,?_⟩
    rw [hafter]
    refine run_isGreatest ?_
    rw [← hsignatures,List.getElem?_map,hstep]
    rfl
  · have hcount := switches_after python ((groupedSteps messages).take i) step
    rw [List.foldl_append,List.foldl_cons,List.foldl_nil,next,List.length_take,Nat.min_eq_left hlt.le] at hcount
    dsimp only at hcount
    rw [h.strategySwitches,hcount,← hnames]
    congr 2
    refine switchesUpTo_congr fun j hj => ?_
    have htake : (groupedSteps messages).take i ++ [step] = (groupedSteps messages).take (i+1) := by
      rw [List.take_add_one,hstep]
      rfl
    rw [htake,List.map_take,List.getElem?_take_of_lt (by omega)]

theorem extraction_iff (h : ∀ m ∈ messages, WellFormedMessage m) (hsome : ∃ m ∈ messages, HasRole "assistant" m) :
    ∃ extraction, extractAgentTraceFrames python recording (.arr messages) runId = .ok extraction ∧
      (ExtractionOf python recording messages extraction ↔ Orderly messages) := by
  obtain ⟨extraction,hextraction,hlength,htext,hshows⟩ := extraction_made python recording messages runId h hsome
  have hframes : ∀ (i : ℕ) step, (groupedSteps messages)[i]? = some step → ∃ frame, extraction.frames[i]? = some frame := by
    intro i step hstep
    obtain ⟨hlt,_⟩ := List.getElem?_eq_some_iff.mp hstep
    exact ⟨_,List.getElem?_eq_getElem (hlength ▸ hlt)⟩
  refine ⟨extraction,hextraction,?_⟩
  rw [orderly_iff]
  constructor
  · rintro hdescribed before m rest rfl hassistant
    obtain ⟨i,hturn,hstep⟩ := turn_at before rest hassistant
    obtain ⟨frame,hframe⟩ := hframes i _ hstep
    have hreplies := (hdescribed.frames i _ frame hturn hframe).observations
    rw [(hshows i _ frame hstep hframe).observations,Json.arr.injEq] at hreplies
    have hsize := congrArg List.length hreplies
    rw [List.length_map,List.length_map] at hsize
    exact ((replies_lead rest).eq_of_length hsize.symm).symm
  · intro hall
    refine ⟨by rw [hlength,(paired messages).length_eq],fun i turn frame hturn hframe => ?_,replies_sublist messages,htext⟩
    obtain ⟨hlt,hat⟩ := List.getElem?_eq_some_iff.mp hturn
    have hlt' := (paired messages).length_eq ▸ hlt
    obtain ⟨before,rest,heq,hassistant,_,hturn',hstep'⟩ := (paired messages).get hlt hlt'
    have hstep := List.getElem?_eq_getElem hlt'
    refine frameOf_of_shows python recording messages hturn hstep ?_ (hshows i _ frame hstep hframe)
    rw [List.get_eq_getElem] at hturn' hstep' heq hassistant
    rw [hat] at hturn' heq hassistant
    rw [hturn',← hall before turn.message rest heq hassistant]
    exact hstep'

end Whole

theorem quiet_size : (List.replicate 32 (UInt8.ofNat 0)).length = 32 := List.length_replicate

def quietInterpreter : Interpreter where
  sha256 _ := ⟨List.replicate 32 (UInt8.ofNat 0),quiet_size⟩
  blake2b size _ := List.replicate size (UInt8.ofNat 0)
  strOf _ := ""
  intOf _ := none
  quotient _ _ := none
  loads _ := none
  lower := id
  casefold := id
  strip := id
  isDecimal := Char.isDigit

def quietRecording : Recording := ⟨fun _ => false,fun text => (text,[]),fun _ => "1970-01-01T00:00:00+00:00"⟩

def said (role : String) : Json := .obj [("content",.str "done"),("role",.str role)]

theorem said_wellFormed (role : String) : WellFormedMessage (said role) := ⟨_,rfl,.inl rfl⟩

theorem answered_orderly : Orderly [said "user",said "assistant",said "tool"] := by
  intro before assistant middle user between tool after hparts hassistant _ _
  have hlength := congrArg List.length hparts
  simp only [List.length_append,List.length_cons,List.length_nil] at hlength
  obtain rfl : before = [] := List.eq_nil_of_length_eq_zero (by omega)
  obtain rfl : said "user" = assistant := (List.cons.inj hparts).1
  simp [HasRole,said,lookupField,List.lookup_cons] at hassistant

theorem answered_extraction : ∃ extraction,
    extractAgentTraceFrames quietInterpreter quietRecording (.arr [said "user",said "assistant",said "tool"]) "run" = .ok extraction ∧
      ExtractionOf quietInterpreter quietRecording [said "user",said "assistant",said "tool"] extraction := by
  obtain ⟨extraction,hmade,hiff⟩ := extraction_iff quietInterpreter quietRecording [said "user",said "assistant",said "tool"] "run"
    (fun m hm => by
      simp only [List.mem_cons,List.not_mem_nil,or_false] at hm
      obtain rfl | rfl | rfl := hm <;> exact said_wellFormed _) ⟨said "assistant",by simp,rfl⟩
  exact ⟨extraction,hmade,hiff.mpr answered_orderly⟩

theorem late_reply_attached : ¬∃ extraction,
    extractAgentTraceFrames quietInterpreter quietRecording (.arr [said "assistant",said "user",said "tool"]) "run" = .ok extraction ∧
      ExtractionOf quietInterpreter quietRecording [said "assistant",said "user",said "tool"] extraction := by
  rintro ⟨extraction,hextraction,hdescribed⟩
  obtain ⟨made,hmade,hlength,_,hshows⟩ := extraction_made quietInterpreter quietRecording
    [said "assistant",said "user",said "tool"] "run" (fun m hm => by
      simp only [List.mem_cons,List.not_mem_nil,or_false] at hm
      obtain rfl | rfl | rfl := hm <;> exact said_wellFormed _) ⟨said "assistant",by simp,rfl⟩
  rw [hextraction] at hmade
  obtain rfl := Except.ok.inj hmade
  have hturn : (turns [said "assistant",said "user",said "tool"])[0]? = some ⟨said "assistant",[]⟩ := by
    simp [turns,repliesIn,HasRole,said,lookupField,List.lookup_cons]
  have hstep : (groupedSteps [said "assistant",said "user",said "tool"])[0]? = some ⟨said "assistant",[said "tool"]⟩ := by
    simp [groupedSteps,attachedIn,HasRole,said,lookupField,List.lookup_cons]
  have hopen : 0 < extraction.frames.length := by
    rw [hlength]
    exact (List.getElem?_eq_some_iff.mp hstep).1
  have hframe := List.getElem?_eq_getElem hopen
  have hobserved := (hdescribed.frames 0 _ _ hturn hframe).observations
  rw [(hshows 0 _ _ hstep hframe).observations] at hobserved
  cases hobserved

end PneumaLab.Traces
