import PneumaLab.Foundation.SafeBoundaryLoop

namespace PneumaLab.Foundation

structure LoopCore where
  outputRoot : String
  status : RunStatus
  reason : TerminationReason
  windowsRun : ℕ
  boundaries : List Boundary

def LoopState.core (s : LoopState) : LoopCore :=
  ⟨s.telemetry.outputRoot,s.status,s.reason,s.windowsRun,s.boundaries⟩

def AtCore (c : LoopCore) (s : LoopState) : Prop := s.core = c

def Keeps {α : Type} (x : LoopProgram α) : Prop :=
  ∀ c, Program.Spec (AtCore c) x (fun _ => AtCore c) fun _ => AtCore c

section Frames
variable {α β : Type} {inputs : RunInputs}

theorem Keeps.bind {x : LoopProgram α} {f : α → LoopProgram β} (hx : Keeps x) (hf : ∀ a, Keeps (f a)) :
    Keeps (x >>= f) := fun c => .bind (hx c) fun a => hf a c

theorem Keeps.returned (a : α) : Keeps (pure a : LoopProgram α) := fun _ => .returned fun _ hs => hs

theorem Keeps.lifted (x : Py α) : Keeps (.lift x) := fun _ =>
  .lifted (fun _ _ _ hs => hs) fun _ _ _ hs => hs

theorem Keeps.modified {f : LoopState → LoopState} (h : ∀ s, (f s).core = s.core) : Keeps (.modify f) := fun _ =>
  .modified fun s hs => (h s).trans hs

theorem Keeps.got {f : LoopState → LoopProgram β} (hf : ∀ s, Keeps (f s)) : Keeps (.get >>= f) := fun c =>
  .got fun s => (hf s c).pre fun _ hs => hs.1

theorem Keeps.cond {p : Prop} [Decidable p] {x y : LoopProgram α} (hx : Keeps x) (hy : Keeps y) :
    Keeps (if p then x else y) := fun c => .cond (fun _ => hx c) fun _ => hy c

theorem Keeps.suppressed {x : LoopProgram Unit} (hx : Keeps x) : Keeps (suppressed x) := fun c =>
  .handled (hx c) fun _ => .returned fun _ hs => hs

theorem writeManifest_keeps (written : Py Unit) (status : RunStatus) (reason : Option TerminationReason) :
    Keeps (RunManifestWriter.writeManifest written status reason) :=
  .bind (.lifted _) fun _ => .modified fun _ => rfl

theorem appendEvent_keeps (written : Py Unit) (event : RunEvent) : Keeps (RunManifestWriter.appendEvent written event) :=
  .bind (.lifted _) fun _ => .modified fun _ => rfl

theorem saveCheckpoint_keeps (saved : Py String) : Keeps (saveCheckpoint saved) :=
  .bind (.lifted _) fun _ => .modified fun _ => rfl

theorem trainMicrobatch_keeps (index : ℕ) : Keeps (trainMicrobatch inputs index) :=
  .got fun _ => .bind (.lifted _) fun _ => .bind (.modified fun _ => rfl) fun _ => .returned _

theorem trainWindow_keeps (window : List ℕ) (step : Option OptimizerStep) : Keeps (trainWindow inputs window step) := by
  induction window generalizing step with
  | nil => exact .returned _
  | cons index rest ih => exact .bind (trainMicrobatch_keeps index) fun step => ih (some step)

theorem saveScheduled_keeps : Keeps (saveScheduled inputs) := by
  apply Keeps.got
  intro s
  apply Keeps.cond
  · refine .bind (.lifted _) fun path => ?_
    refine .bind (.modified fun _ => rfl) fun _ => ?_
    refine .bind (.lifted _) fun _ => ?_
    refine .bind (.modified fun _ => rfl) fun _ => ?_
    exact appendEvent_keeps _ _
  · exact .returned _

theorem recordFailure_keeps (e : Raised) (c : LoopCore) :
    Program.Spec (AtCore c) (recordFailure inputs e) (fun _ _ => False) fun _ => AtCore c := by
  apply Program.Spec.got
  intro s
  apply Program.Spec.pre _ fun _ hs => hs.1
  have hrest : Program.Spec (AtCore c) (do
      suppressed (.lift inputs.fallback.writeBatches)
      suppressed (RunManifestWriter.writeManifest inputs.fallback.writeManifest .failed none)
      suppressed (RunManifestWriter.appendEvent inputs.fallback.appendEvent
        (.terminated .failed none s.progress.optimizerStep))
      (.raise e : LoopProgram FoundationRunResult)) (fun _ _ => False) fun _ => AtCore c := by
    apply Program.Spec.bind ((Keeps.lifted _).suppressed c)
    intro _
    apply Program.Spec.bind ((writeManifest_keeps _ _ _).suppressed c)
    intro _
    apply Program.Spec.bind ((appendEvent_keeps _ _).suppressed c)
    intro _
    exact .raised fun _ hs => hs
  split
  · exact .bind ((saveCheckpoint_keeps _).suppressed c) fun _ => hrest
  · exact hrest

end Frames

section Judgement
variable (inputs : RunInputs)

inductive Judged (k : ℕ) (b : Boundary) : Prop where
  | sampled (sample : ResourceSample) (samples : List ResourceSample)
      (hread : (inputs.window k).probe.read inputs.telemetry.outputRoot b.lossFinite = .ok sample)
      (hmem : sample ∈ samples)
      (hdecision : b.decision = localGuard.evaluate samples true (operatorInterrupt inputs k) true true 0)
  | missed (message : String)
      (hread : (inputs.window k).probe.read inputs.telemetry.outputRoot b.lossFinite = .error (.telemetryError message))
      (hdecision : b.decision = localGuard.evaluate [] true (operatorInterrupt inputs k) true true 0)

structure Carrying (c : LoopCore) : Prop where
  root : c.outputRoot = inputs.telemetry.outputRoot
  status : c.status = .completed
  reason : c.reason = .completed
  judged : ∀ k b, c.boundaries[k]? = some b → Judged inputs k b ∧ b.decision.action = .carryOn

structure Halted (c : LoopCore) (earlier : List Boundary) (last : Boundary) (reason : GuardReason) : Prop where
  boundaries : c.boundaries = earlier ++ [last]
  carried : ∀ k b, earlier[k]? = some b → Judged inputs k b ∧ b.decision.action = .carryOn
  judged : Judged inputs earlier.length last
  action : last.decision.action ≠ .carryOn
  first : last.decision.reasons.head? = some reason
  status : c.status = stopStatus last.decision.action
  reason : c.reason = .guard reason

def Settled (c : LoopCore) : Prop :=
  Carrying inputs c ∨ ∃ earlier last reason, Halted inputs c earlier last reason

variable {inputs}

theorem Judged.lossFinite {k : ℕ} {b : Boundary} (h : Judged inputs k b) (hcarry : b.decision.action = .carryOn) :
    b.lossFinite = true := by
  by_contra hloss
  rw [Bool.not_eq_true] at hloss
  cases h with
  | sampled sample samples hread hmem hdecision =>
    have hflag := (Probe.read_lossFinite hread).trans hloss
    have hfail : (localGuard.evaluate samples true (operatorInterrupt inputs k) true true 0).action = .fail :=
      (ResourceGuard.evaluate_nonFinite hmem hflag).1
    rw [hdecision,hfail] at hcarry
    cases hcarry
  | missed message hread hdecision =>
    rw [hdecision,ResourceGuard.evaluate_missing] at hcarry
    cases hcarry

end Judgement

section Steps
variable {inputs : RunInputs}

theorem sampleBoundary_spec (probe : Probe) (finite : Bool) (c : LoopCore) :
    Program.Spec (AtCore c) (sampleBoundary probe finite)
      (fun samples s => AtCore c s ∧ ((∃ sample, probe.read c.outputRoot finite = .ok sample ∧ sample ∈ samples) ∨
        ∃ message, probe.read c.outputRoot finite = .error (.telemetryError message) ∧ samples = []))
      fun _ => AtCore c := by
  apply Program.Spec.handled (E := fun e s => AtCore c s ∧ probe.read c.outputRoot finite = .error e)
  · apply Program.Spec.bind (Q := fun _ s => AtCore c s ∧ ∃ sample, probe.read c.outputRoot finite = .ok sample ∧
      sample ∈ s.telemetry.samples)
    · apply Program.Spec.updated
      · intro s t hs hrun
        have hroot : s.telemetry.outputRoot = c.outputRoot := congrArg LoopCore.outputRoot hs
        simp only [LiveResourceSampler.sample,hroot] at hrun
        cases hread : probe.read c.outputRoot finite with
        | error e => simp [hread,Except.map,bind,Except.bind] at hrun
        | ok sample =>
          simp only [hread,Except.map,bind,Except.bind,pure,Except.pure,Except.ok.injEq] at hrun
          subst hrun
          exact ⟨hs,sample,rfl,s.telemetry.mem_record sample⟩
      · intro e s hs hrun
        have hroot : s.telemetry.outputRoot = c.outputRoot := congrArg LoopCore.outputRoot hs
        simp only [LiveResourceSampler.sample,hroot] at hrun
        cases hread : probe.read c.outputRoot finite with
        | error f =>
          simp only [hread,Except.map,bind,Except.bind,Except.error.injEq] at hrun
          exact ⟨hs,congrArg Except.error hrun⟩
        | ok sample => simp [hread,Except.map,bind,Except.bind,pure,Except.pure] at hrun
    · intro _
      apply Program.Spec.got
      intro s
      apply Program.Spec.returned
      rintro t ⟨⟨ht,sample,hread,hmem⟩,rfl⟩
      exact ⟨ht,.inl ⟨sample,hread,hmem⟩⟩
  · intro e
    split
    · next message =>
      apply Program.Spec.returned
      rintro s ⟨hs,hread⟩
      exact ⟨hs,.inr ⟨message,hread,rfl⟩⟩
    · exact .raised fun s hs => hs.1

def LoopCore.opened (c : LoopCore) : LoopCore := {c with windowsRun := c.windowsRun + 1}

def LoopCore.decided (c : LoopCore) (b : Boundary) : LoopCore := {c.opened with boundaries := c.boundaries ++ [b]}

theorem runWindow_spec (window : List ℕ × ℕ) (c : LoopCore) (hroot : c.outputRoot = inputs.telemetry.outputRoot) :
    Program.Spec (AtCore c) (runWindow inputs window)
      (fun decision s => ∃ b, b.decision = decision ∧ Judged inputs c.windowsRun b ∧ AtCore (c.decided b) s)
      fun _ s => AtCore c s ∨ AtCore c.opened s := by
  refine .bind (Q := fun _ => AtCore c) ((trainWindow_keeps window.1 none c).weaken (fun _ hs => hs) (fun _ _ hs => hs)
    fun _ _ hs => .inl hs) fun last => ?_
  refine .bind (Q := fun _ => AtCore c) (.lifted (fun _ _ _ hs => hs) fun _ _ _ hs => .inl hs) fun step => ?_
  refine .got fun s => ?_
  refine .bind (Q := fun _ t => AtCore c.opened t ∧ s.windowsRun = c.windowsRun) (.modified ?_) fun _ => ?_
  · rintro t ⟨ht,rfl⟩
    have hcount : t.windowsRun = c.windowsRun := congrArg LoopCore.windowsRun ht
    refine ⟨?_,hcount⟩
    rw [AtCore] at ht
    rw [AtCore,LoopCore.opened,← ht]
    rfl
  refine .assume fun hnumber => ?_
  rw [hnumber]
  refine .bind (Q := fun _ => AtCore c.opened) (.lifted (fun _ _ _ hs => hs) fun _ _ _ hs => .inr hs) fun _ => ?_
  refine .bind (Q := fun _ => AtCore c.opened) (.modified fun t ht => ht) fun _ => ?_
  refine .bind ((sampleBoundary_spec _ _ c.opened).weaken (fun _ hs => hs) (fun _ _ hs => hs) fun _ _ hs => .inr hs)
    fun samples => ?_
  refine .bind (Q := fun _ s => ∃ b, b.decision = localGuard.evaluate samples true
    (operatorInterrupt inputs c.windowsRun) true true 0 ∧ Judged inputs c.windowsRun b ∧ AtCore (c.decided b) s)
    (.modified ?_) fun _ => .returned fun _ hs => hs
  rintro t ⟨ht,hprobe⟩
  refine ⟨⟨step.languageLoss,step.forecastLoss,_⟩,rfl,?_,?_⟩
  · rw [LoopCore.opened,hroot] at hprobe
    obtain ⟨sample,hread,hmem⟩ | ⟨message,hread,rfl⟩ := hprobe
    · exact .sampled sample samples hread hmem rfl
    · exact .missed message hread rfl
  · rw [AtCore] at ht
    rw [AtCore,LoopCore.decided,← ht,LoopState.core,LoopState.core]
    have hboundaries : t.boundaries = c.boundaries := congrArg LoopCore.boundaries ht
    rw [hboundaries]
    rfl

theorem stopRun_spec {c : LoopCore} {earlier : List Boundary} {last : Boundary} (hboundaries : c.boundaries = earlier ++ [last])
    (hcarried : ∀ k b, earlier[k]? = some b → Judged inputs k b ∧ b.decision.action = .carryOn) (hjudged : Judged inputs earlier.length last)
    (haction : last.decision.action ≠ .carryOn) (E : Raised → LoopState → Prop) :
    Program.Spec (AtCore c) (stopRun last.decision)
      (fun _ s => ∃ reason, Halted inputs s.core earlier last reason) E := by
  obtain ⟨samples,interrupt,hdecision⟩ : ∃ samples interrupt,
      last.decision = localGuard.evaluate samples true interrupt true true 0 := by
    cases hjudged with
    | sampled sample samples hread hmem hdecision => exact ⟨samples,_,hdecision⟩
    | missed message hread hdecision => exact ⟨[],_,hdecision⟩
  have hnonempty : last.decision.reasons ≠ [] := by
    rw [hdecision] at haction ⊢
    exact fun hnil => haction (ResourceGuard.evaluate_carryOn_iff.mpr hnil)
  obtain ⟨reason,rest,hreasons⟩ := List.exists_cons_of_ne_nil hnonempty
  have hfirst : last.decision.reasons.head? = some reason := by rw [hreasons]; rfl
  rw [stopRun,hfirst]
  refine .bind (Q := fun r s => AtCore c s ∧ r = reason) (.lifted ?_ ?_) fun r => ?_
  · intro r s hr hs
    exact ⟨hs,(Except.ok.inj hr).symm⟩
  · intro e s he hs
    cases he
  · refine .assume fun hr => ?_
    subst hr
    refine .modified fun s hs => ⟨r,?_⟩
    have hkept : s.boundaries = c.boundaries := congrArg LoopCore.boundaries hs
    exact {
      boundaries := hkept.trans hboundaries
      carried := hcarried
      judged := hjudged
      action := haction
      first := hfirst
      status := rfl
      reason := rfl}

theorem Carrying.decided {c : LoopCore} (h : Carrying inputs c) {b : Boundary}
    (hjudged : Judged inputs c.boundaries.length b) (hcarry : b.decision.action = .carryOn) :
    Carrying inputs (c.decided b) where
  root := h.root
  status := h.status
  reason := h.reason
  judged := by
    intro k other hother
    rw [LoopCore.decided] at hother
    by_cases hk : k < c.boundaries.length
    · rw [List.getElem?_append_left hk] at hother
      exact h.judged k other hother
    · rw [List.getElem?_append_right (by omega)] at hother
      obtain ⟨hzero,hb⟩ := List.getElem?_eq_some_iff.mp hother
      have hk' : k = c.boundaries.length := by
        rw [List.length_singleton] at hzero
        omega
      subst hk'
      simp only [Nat.sub_self,List.getElem_cons_zero] at hb
      exact hb ▸ ⟨hjudged,hcarry⟩

theorem Carrying.opened {c : LoopCore} (h : Carrying inputs c) : Carrying inputs c.opened :=
  ⟨h.root,h.status,h.reason,h.judged⟩

theorem runWindows_spec (windows : List (List ℕ × ℕ)) (c : LoopCore) (hcarrying : Carrying inputs c)
    (hcount : c.boundaries.length = c.windowsRun) :
    Program.Spec (AtCore c) (runWindows inputs windows) (fun _ s => Settled inputs s.core) fun _ s => Settled inputs s.core := by
  induction windows generalizing c with
  | nil => exact .returned fun s hs => .inl (hs ▸ hcarrying)
  | cons window rest ih =>
    refine .bind ((runWindow_spec window c hcarrying.root).weaken (fun _ hs => hs) (fun _ _ hs => hs) ?_) fun decision => ?_
    · rintro e s (hs | hs)
      · exact .inl (hs ▸ hcarrying)
      · exact .inl (hs ▸ hcarrying.opened)
    · refine .some fun b => ?_
      intro s hs
      obtain ⟨rfl,hjudged,hs⟩ := hs
      rw [← hcount] at hjudged
      refine (Program.Spec.cond (fun haction => ?_) fun haction => ?_ :
        Program.Spec (AtCore (c.decided b)) _ (fun _ s => Settled inputs s.core) fun _ s => Settled inputs s.core) s hs
      · exact (stopRun_spec rfl hcarrying.judged hjudged haction _).post fun _ s hs => .inr ⟨_,_,hs⟩
      · have hcarry := not_not.mp haction
        refine .bind (Q := fun _ => AtCore (c.decided b)) ((saveScheduled_keeps _).weaken (fun _ hs => hs) (fun _ _ hs => hs)
          fun e s hs => .inl (hs ▸ hcarrying.decided hjudged hcarry)) fun _ => ?_
        exact ih (c.decided b) (hcarrying.decided hjudged hcarry) (by
          rw [LoopCore.decided,List.length_append,hcount]
          rfl)

def Recorded (result : FoundationRunResult) (s : LoopState) : Prop :=
  result.status = s.status ∧
    (s.manifests.getLast?.map fun manifest => (manifest.status,manifest.terminationReason)) =
      some (s.status,some s.reason)

theorem closeRun_spec (c : LoopCore) :
    Program.Spec (AtCore c) (closeRun inputs) (fun result s => AtCore c s ∧ Recorded result s) fun _ => AtCore c := by
  refine .got fun s => ?_
  intro s' hs
  obtain ⟨hs,rfl⟩ := hs
  refine (?_ : Program.Spec (AtCore c) _ (fun result s => AtCore c s ∧ Recorded result s) fun _ => AtCore c) s' hs
  have hrest : Program.Spec (AtCore c) (do
      saveCheckpoint inputs.closing.save
      Program.lift inputs.closing.writeBatches
      RunManifestWriter.writeManifest inputs.closing.writeManifest s'.status (some s'.reason)
      RunManifestWriter.appendEvent inputs.closing.appendEvent
        (.terminated s'.status (some s'.reason) s'.progress.optimizerStep)
      let t ← Program.get
      (pure ⟨t.status,t.progress,t.lastCheckpoint⟩ : LoopProgram FoundationRunResult))
      (fun result s => AtCore c s ∧ Recorded result s) fun _ => AtCore c := by
    refine .bind (saveCheckpoint_keeps _ c) fun _ => ?_
    refine .bind (Keeps.lifted _ c) fun _ => ?_
    refine .bind (Q := fun _ t => AtCore c t ∧ (t.manifests.getLast?.map fun manifest =>
      (manifest.status,manifest.terminationReason)) = some (s'.status,some s'.reason)) ?_ fun _ => ?_
    · refine .bind (Keeps.lifted _ c) fun _ => .modified fun t ht => ⟨ht,?_⟩
      simp [LoopState.manifest]
    · refine .bind (Q := fun _ t => AtCore c t ∧ (t.manifests.getLast?.map fun manifest =>
        (manifest.status,manifest.terminationReason)) = some (s'.status,some s'.reason)) ?_ fun _ => ?_
      · refine .bind (.lifted (fun _ _ _ ht => ht) fun _ _ _ ht => ht.1) fun _ => .modified fun t ht => ht
      · refine .got fun t => .returned ?_
        rintro u ⟨⟨hu,hmanifest⟩,rfl⟩
        have hstatus : u.status = s'.status := congrArg LoopCore.status (hu.trans hs.symm)
        have hreason : u.reason = s'.reason := congrArg LoopCore.reason (hu.trans hs.symm)
        refine ⟨hu,rfl,?_⟩
        rw [hmanifest,hstatus,hreason]
  split
  · exact .bind (appendEvent_keeps _ _ c) fun _ => hrest
  · exact hrest

theorem run_spec (inputs : RunInputs) :
    Program.Spec (AtCore inputs.start.core) (executeSafeBoundaryLoop inputs)
      (fun result s => Settled inputs s.core ∧ Recorded result s) fun _ s => Settled inputs s.core := by
  have hstart : Carrying inputs inputs.start.core := ⟨rfl,rfl,rfl,fun k b hb => by cases hb⟩
  have hopening {α : Type} {x : LoopProgram α} (hx : Keeps x) : Program.Spec (AtCore inputs.start.core) x
      (fun _ => AtCore inputs.start.core) fun _ s => Settled inputs s.core :=
    (hx _).weaken (fun _ hs => hs) (fun _ _ hs => hs) fun _ s hs => .inl (hs ▸ hstart)
  refine .bind (hopening (writeManifest_keeps _ _ _)) fun _ => ?_
  refine .bind (hopening (appendEvent_keeps _ _)) fun _ => ?_
  refine .handled (E := fun _ s => Settled inputs s.core) ?_ fun e => ?_
  · refine .bind (hopening (.lifted _)) fun _ => ?_
    refine .bind (runWindows_spec inputs.windows _ hstart rfl) fun _ => ?_
    intro s hs
    refine ((closeRun_spec s.core).weaken (fun _ h => h) (fun _ t ht => ?_) fun _ t ht => ?_) s rfl
    · exact ⟨ht.1 ▸ hs,ht.2⟩
    · exact ht ▸ hs
  · intro s hs
    refine ((recordFailure_keeps e s.core).weaken (fun _ h => h) (fun _ t ht => ht.elim) fun _ t ht => ?_) s rfl
    exact ht ▸ hs

end Steps

section Runs

def NonFiniteFails (run : Py FoundationRunResult × LoopState) : Prop :=
  ∀ k b, run.2.boundaries[k]? = some b → b.lossFinite = false →
    k + 1 = run.2.boundaries.length ∧ run.2.status = .failed ∧ run.2.reason = .guard .nonFiniteLoss ∧
    ∀ result, run.1 = .ok result → result.status = .failed ∧
      (run.2.manifests.getLast?.map fun manifest => (manifest.status,manifest.terminationReason)) =
        some (.failed,some (.guard .nonFiniteLoss))

def NonFiniteSampled (inputs : RunInputs) : Prop :=
  ∀ k b, inputs.run.2.boundaries[k]? = some b → b.lossFinite = false →
    ∃ sample, (inputs.window k).probe.read inputs.telemetry.outputRoot false = .ok sample

variable {inputs : RunInputs}

theorem run_settled (inputs : RunInputs) : Settled inputs inputs.run.2.core ∧
    ∀ result, inputs.run.1 = .ok result → Recorded result inputs.run.2 := by
  obtain ⟨hok,herror⟩ := run_spec inputs inputs.start rfl
  cases hrun : inputs.run with
  | mk result s =>
    cases result with
    | ok result =>
      obtain ⟨hsettled,hrecorded⟩ := hok result s hrun
      refine ⟨hsettled,fun other hother => ?_⟩
      cases hother
      exact hrecorded
    | error e => exact ⟨herror e s hrun,fun result hresult => by cases hresult⟩

theorem nonFinite_last {k : ℕ} {b : Boundary} (hb : inputs.run.2.boundaries[k]? = some b) (hloss : b.lossFinite = false) :
    ∃ earlier reason, Halted inputs inputs.run.2.core earlier b reason ∧ k = earlier.length := by
  obtain ⟨hsettled,-⟩ := run_settled inputs
  obtain hcarrying | ⟨earlier,last,reason,hstopped⟩ := hsettled
  · obtain ⟨hjudged,hcarry⟩ := hcarrying.judged k b hb
    rw [hjudged.lossFinite hcarry] at hloss
    cases hloss
  · have hboundaries : inputs.run.2.boundaries = earlier ++ [last] := hstopped.boundaries
    rw [hboundaries] at hb
    by_cases hk : k < earlier.length
    · rw [List.getElem?_append_left hk] at hb
      obtain ⟨hjudged,hcarry⟩ := hstopped.carried k b hb
      rw [hjudged.lossFinite hcarry] at hloss
      cases hloss
    · rw [List.getElem?_append_right (by omega)] at hb
      obtain ⟨hzero,hlast⟩ := List.getElem?_eq_some_iff.mp hb
      have hk' : k = earlier.length := by
        rw [List.length_singleton] at hzero
        omega
      subst hk'
      simp only [Nat.sub_self,List.getElem_cons_zero] at hlast
      subst hlast
      exact ⟨earlier,reason,hstopped,rfl⟩

theorem Halted.failed {c : LoopCore} {earlier : List Boundary} {last : Boundary} {reason : GuardReason}
    (h : Halted inputs c earlier last reason) (hloss : last.lossFinite = false)
    {sample : ResourceSample}
    (hsample : (inputs.window earlier.length).probe.read inputs.telemetry.outputRoot false = .ok sample) :
    c.status = .failed ∧ c.reason = .guard .nonFiniteLoss := by
  have hjudged := h.judged
  cases hjudged with
  | sampled other samples hread hmem hdecision =>
    have hflag := (Probe.read_lossFinite hread).trans hloss
    obtain ⟨hfail,hfirst⟩ : (localGuard.evaluate samples true (operatorInterrupt inputs earlier.length) true true 0).action =
        .fail ∧ (localGuard.evaluate samples true (operatorInterrupt inputs earlier.length) true true 0).reasons.head? =
        some .nonFiniteLoss := ResourceGuard.evaluate_nonFinite hmem hflag
    have hreason := h.first
    rw [hdecision,hfirst,Option.some.injEq] at hreason
    rw [h.status,h.reason,hdecision,hfail,hreason]
    exact ⟨rfl,rfl⟩
  | missed message hread hdecision =>
    rw [hloss,hsample] at hread
    cases hread

theorem Halted.paused {c : LoopCore} {earlier : List Boundary} {last : Boundary} {reason : GuardReason}
    (h : Halted inputs c earlier last reason) {message : String}
    (hmissed : (inputs.window earlier.length).probe.read inputs.telemetry.outputRoot last.lossFinite =
      .error (.telemetryError message)) : c.status = .paused := by
  have hjudged := h.judged
  cases hjudged with
  | sampled other samples hread hmem hdecision =>
    rw [hmissed] at hread
    cases hread
  | missed other hread hdecision =>
    rw [h.status,hdecision,ResourceGuard.evaluate_missing]
    rfl

theorem nonfinite_fails_iff (inputs : RunInputs) : NonFiniteFails inputs.run ↔ NonFiniteSampled inputs := by
  constructor
  · intro hfails k b hb hloss
    obtain ⟨-,hstatus,-⟩ := hfails k b hb hloss
    obtain ⟨earlier,reason,hstopped,rfl⟩ := nonFinite_last hb hloss
    have hjudged := hstopped.judged
    cases hjudged with
    | sampled sample samples hread hmem hdecision =>
      rw [hloss] at hread
      exact ⟨sample,hread⟩
    | missed message hread hdecision =>
      have hpaused : inputs.run.2.status = .paused := hstopped.paused hread
      rw [hpaused] at hstatus
      cases hstatus
  · intro hsampled k b hb hloss
    obtain ⟨sample,hsample⟩ := hsampled k b hb hloss
    obtain ⟨earlier,reason,hstopped,rfl⟩ := nonFinite_last hb hloss
    obtain ⟨hstatus,hreason⟩ := hstopped.failed hloss hsample
    have hboundaries : inputs.run.2.boundaries = earlier ++ [b] := hstopped.boundaries
    refine ⟨?_,hstatus,hreason,fun result hresult => ?_⟩
    · rw [hboundaries,List.length_append]
      rfl
    · obtain ⟨hrecorded,hmanifest⟩ := (run_settled inputs).2 result hresult
      rw [hmanifest]
      have hstatus' : inputs.run.2.status = .failed := hstatus
      have hreason' : inputs.run.2.reason = .guard .nonFiniteLoss := hreason
      rw [hrecorded,hstatus',hreason']
      exact ⟨rfl,rfl⟩

end Runs

section Sample

def oneWindow (probe : Probe) : RunInputs where
  seed := 20260713
  learningRate := .ofRat (1 / 5000)
  restored := none
  history := []
  order := List.range 32
  tokenCounts := List.replicate 32 8
  tokenCeiling := 1000
  losses _ _ := .ok (.nan,.nan)
  pauseSignal := false
  telemetry := ⟨"run",720,[],by decide,by decide⟩
  writeManifest := .ok ()
  appendStarted := .ok ()
  window _ := ⟨.ok (),probe,false,.zero,.ok "checkpoint-1.pt",.ok (),.ok ()⟩
  closing := ⟨.ok (),.ok "checkpoint-1.pt",.ok (),.ok (),.ok ()⟩
  fallback := ⟨.ok (),.ok "checkpoint-1.pt",.ok (),.ok (),.ok ()⟩

def silentProbe : Probe where
  nvidiaSmi := .error (.telemetryError "nvidia-smi returned no GPU rows")
  cudaMemoryBytes := .ok (0,0)
  processMemoryBytes := .ok (0,0)
  diskUsage := .ok 0

def answeringProbe : Probe := {silentProbe with nvidiaSmi := .ok ⟨.zero,false⟩}

theorem gigabytes_zero : gigabytes 0 = .ok ((PyFloat.finite 0 PyFloat.isDouble_zero).dividedBy BYTES_PER_GB) := by
  have hzero : (Number.int ((0 : ℕ) : ℤ)).toFloat = .ok (.finite 0 PyFloat.isDouble_zero) := by
    have hcast : PyFloat.ofRat (((0 : ℕ) : ℤ) : ℚ) = .finite 0 PyFloat.isDouble_zero := by
      rw [Nat.cast_zero,Int.cast_zero,PyFloat.ofRat_double PyFloat.isDouble_zero]
    rw [Number.toFloat,hcast]
    rfl
  rw [gigabytes,hzero]
  rfl

theorem answering_probe_fails : NonFiniteFails (oneWindow answeringProbe).run := by
  apply (nonfinite_fails_iff (oneWindow answeringProbe)).mpr
  intro k b _ _
  have hread : ∃ sample, answeringProbe.read "run" false = .ok sample := by
    simp only [answeringProbe,silentProbe,Probe.read,Probe.diskFree,bind,Except.bind,gigabytes_zero,pure,Except.pure]
    exact ⟨_,rfl⟩
  exact hread

theorem silent_probe_pauses : ¬ NonFiniteFails (oneWindow silentProbe).run := by
  intro hfails
  have hpaused : (oneWindow silentProbe).run.2.status = .paused ∧
      ((oneWindow silentProbe).run.2.boundaries.map Boundary.lossFinite) = [false] := by decide +kernel
  obtain ⟨hstatus,hloss⟩ := hpaused
  obtain ⟨b,hb⟩ := List.length_eq_one_iff.mp (List.length_map (f := Boundary.lossFinite) ▸ congrArg List.length hloss)
  rw [hb] at hloss
  obtain ⟨-,hfailed,-⟩ := hfails 0 b (by rw [hb]; rfl) (List.singleton_injective hloss)
  rw [hstatus] at hfailed
  cases hfailed

end Sample

end PneumaLab.Foundation
