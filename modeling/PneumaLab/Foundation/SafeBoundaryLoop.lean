import Mathlib.Algebra.GroupWithZero.Nat
import PneumaLab.Foundation.ResourceGuard
import PneumaLab.Library.Program

namespace PneumaLab.Foundation

def GRADIENT_ACCUMULATION : ℕ := 32

def CHECKPOINT_EVERY_STEPS : ℤ := 500

def CHECKPOINT_EVERY_SECONDS : ℚ := 1800

def UNMEASURED_VALIDATION_LOSS : PyFloat := .ofRat (10 ^ 30)

def localGuard : ResourceGuard where
  maxGpuTempC := 85
  sustainedThrottleSamples := 3
  positive := by decide

structure TrainingProgress where
  epoch : ℕ
  samplerSeed : ℤ
  datasetCursor : ℕ
  microbatch : ℕ
  optimizerStep : ℕ
  tokensSeen : ℕ
  selectedLearningRate : PyFloat

structure RestoredCheckpoint where
  path : String
  progress : TrainingProgress
  bestValidation : PyFloat

structure OptimizerStep where
  microbatch : ℕ
  optimizerStepped : Bool
  languageLoss : PyFloat
  forecastLoss : PyFloat

structure ValidationBatch where
  tokenCount : ℕ
  validationLoss : PyFloat
  forecastLoss : PyFloat

inductive RunStatus where
  | running | completed | paused | failed
  deriving DecidableEq, Repr

inductive TerminationReason where
  | completed
  | guard (reason : GuardReason)
  deriving DecidableEq, Repr

inductive RunEvent where
  | runStarted
  | checkpointSaved (optimizerStep : ℕ) (path : String)
  | noTrainableWindow (tokensSeen : ℕ)
  | terminated (status : RunStatus) (reason : Option TerminationReason) (optimizerStep : ℕ)

structure RunManifest where
  status : RunStatus
  terminationReason : Option TerminationReason
  progress : TrainingProgress
  runTokens : ℕ
  bestLoss : Option PyFloat
  lastLoss : Option PyFloat
  lastCheckpoint : Option String

structure FoundationRunResult where
  status : RunStatus
  progress : TrainingProgress
  lastCheckpoint : Option String

structure Boundary where
  languageLoss : PyFloat
  forecastLoss : PyFloat
  decision : ResourceDecision

def lossFinite (languageLoss forecastLoss : PyFloat) : Bool := languageLoss.isFinite && forecastLoss.isFinite

def Boundary.lossFinite (boundary : Boundary) : Bool :=
  Foundation.lossFinite boundary.languageLoss boundary.forecastLoss

structure WindowInputs where
  schedulerStep : Py Unit
  probe : Probe
  requested : Bool
  sinceSaved : PyFloat
  save : Py String
  writeBatches : Py Unit
  appendEvent : Py Unit

structure ClosingInputs where
  appendEmpty : Py Unit
  save : Py String
  writeBatches : Py Unit
  writeManifest : Py Unit
  appendEvent : Py Unit

structure RunInputs where
  seed : ℤ
  learningRate : PyFloat
  restored : Option RestoredCheckpoint
  history : List ValidationBatch
  order : List ℕ
  tokenCounts : List ℕ
  tokenCeiling : ℕ
  losses : ℕ → ℕ → Py (PyFloat × PyFloat)
  pauseSignal : Bool
  telemetry : LiveResourceSampler
  writeManifest : Py Unit
  appendStarted : Py Unit
  window : ℕ → WindowInputs
  closing : ClosingInputs
  fallback : ClosingInputs

structure LoopState where
  progress : TrainingProgress
  trained : ℕ
  telemetry : LiveResourceSampler
  bestLoss : Option PyFloat
  lastLoss : Option PyFloat
  validationBatches : List ValidationBatch
  lastCheckpoint : Option String
  lastSavedStep : ℕ
  runTokens : ℕ
  windowsRun : ℕ
  status : RunStatus
  reason : TerminationReason
  manifests : List RunManifest
  events : List RunEvent
  boundaries : List Boundary

abbrev LoopProgram := Program LoopState Raised

section Windows
variable (order tokenCounts : List ℕ) (tokenCeiling : ℕ)

def windowTokens (window : List ℕ) : ℕ := (window.map fun index => tokenCounts.getD index 0).sum

def iterWindows : ℕ → ℕ → ℕ → List (List ℕ × ℕ)
  | 0,_,_ => []
  | fuel + 1,cursor,tokensUsed =>
    if cursor + GRADIENT_ACCUMULATION ≤ order.length then
      let window := (order.drop cursor).take GRADIENT_ACCUMULATION
      let used := tokensUsed + windowTokens tokenCounts window
      if tokenCeiling < used then iterWindows fuel (cursor + GRADIENT_ACCUMULATION) tokensUsed
      else (window,cursor + GRADIENT_ACCUMULATION) :: iterWindows fuel (cursor + GRADIENT_ACCUMULATION) used
    else []

end Windows

section Loop
variable (inputs : RunInputs)

def RunInputs.progress : TrainingProgress :=
  match inputs.restored with
  | some restored => restored.progress
  | none => ⟨0,inputs.seed,0,0,0,0,inputs.learningRate⟩

def RunInputs.bestLoss : Option PyFloat :=
  match inputs.restored with
  | some restored =>
    if restored.bestValidation.isFinite && decide (restored.bestValidation ≠ UNMEASURED_VALIDATION_LOSS)
    then some restored.bestValidation else none
  | none => none

def RunInputs.start : LoopState where
  progress := inputs.progress
  trained := 0
  telemetry := inputs.telemetry
  bestLoss := inputs.bestLoss
  lastLoss := none
  validationBatches := inputs.history
  lastCheckpoint := inputs.restored.map RestoredCheckpoint.path
  lastSavedStep := inputs.progress.optimizerStep
  runTokens := 0
  windowsRun := 0
  status := .completed
  reason := .completed
  manifests := []
  events := []
  boundaries := []

def minLoss (best loss : PyFloat) : PyFloat :=
  match loss with
  | .finite value _ => if best.gt value then loss else best
  | _ => best

def LoopState.manifest (s : LoopState) (status : RunStatus) (reason : Option TerminationReason) : RunManifest where
  status := status
  terminationReason := reason
  progress := s.progress
  runTokens := s.runTokens
  bestLoss := s.bestLoss
  lastLoss := s.lastLoss
  lastCheckpoint := s.lastCheckpoint

def RunManifestWriter.writeManifest (written : Py Unit) (status : RunStatus) (reason : Option TerminationReason) : LoopProgram Unit := do
  .lift written
  .modify fun s => {s with manifests := s.manifests ++ [s.manifest status reason]}

def RunManifestWriter.appendEvent (written : Py Unit) (event : RunEvent) : LoopProgram Unit := do
  .lift written
  .modify fun s => {s with events := s.events ++ [event]}

def saveCheckpoint (saved : Py String) : LoopProgram Unit := do
  let path ← .lift saved
  .modify fun s => {s with lastCheckpoint := some path}

def trainMicrobatch (index : ℕ) : LoopProgram OptimizerStep := do
  let s ← .get
  let losses ← .lift (inputs.losses s.trained index)
  .modify fun s => {s with trained := s.trained + 1}
  return {
    microbatch := s.trained + 1
    optimizerStepped := decide ((s.trained + 1) % GRADIENT_ACCUMULATION = 0)
    languageLoss := losses.1
    forecastLoss := losses.2}

def trainWindow : List ℕ → Option OptimizerStep → LoopProgram (Option OptimizerStep)
  | [],step => return step
  | index :: rest,_ => do
    let step ← trainMicrobatch inputs index
    trainWindow rest (some step)

def safeBoundary (step : Option OptimizerStep) : Py OptimizerStep :=
  required (.runtimeError "accumulation window ended outside an optimizer boundary")
    (step.filter OptimizerStep.optimizerStepped)

def LoopState.advanced (s : LoopState) (cursor tokens : ℕ) (step : OptimizerStep) : LoopState :=
  let finite := lossFinite step.languageLoss step.forecastLoss
  {s with
    progress := {s.progress with
      datasetCursor := cursor
      microbatch := s.progress.microbatch + GRADIENT_ACCUMULATION
      optimizerStep := s.progress.optimizerStep + 1
      tokensSeen := s.progress.tokensSeen + tokens}
    runTokens := s.runTokens + tokens
    lastLoss := if finite then some step.languageLoss else s.lastLoss
    bestLoss := if finite then some ((s.bestLoss.map fun best => minLoss best step.languageLoss).getD step.languageLoss)
      else s.bestLoss
    validationBatches := if finite then s.validationBatches ++ [⟨tokens,step.languageLoss,step.forecastLoss⟩]
      else s.validationBatches}

def sampleBoundary (probe : Probe) (finite : Bool) : LoopProgram (List ResourceSample) :=
  .handle (do
      .update fun s => do
        let telemetry ← s.telemetry.sample probe finite
        return {s with telemetry}
      let s ← .get
      return s.telemetry.samples)
    fun
      | .telemetryError _ => return []
      | e => .raise e

def operatorInterrupt (number : ℕ) : Bool := inputs.pauseSignal && (inputs.window number).requested

def runWindow (window : List ℕ × ℕ) : LoopProgram ResourceDecision := do
  let last ← trainWindow inputs window.1 none
  let step ← .lift (safeBoundary last)
  let s ← .get
  let number := s.windowsRun
  .modify fun s => {s with windowsRun := s.windowsRun + 1}
  .lift (inputs.window number).schedulerStep
  .modify fun s => s.advanced window.2 (windowTokens inputs.tokenCounts window.1) step
  let samples ← sampleBoundary (inputs.window number).probe (lossFinite step.languageLoss step.forecastLoss)
  let decision := localGuard.evaluate samples true (operatorInterrupt inputs number) true true 0
  .modify fun s => {s with boundaries := s.boundaries ++ [⟨step.languageLoss,step.forecastLoss,decision⟩]}
  return decision

def shouldSave (s : LoopState) (sinceSaved : PyFloat) : Bool :=
  decide (s.progress.microbatch % GRADIENT_ACCUMULATION = 0) &&
    (decide (CHECKPOINT_EVERY_STEPS ≤ (s.progress.optimizerStep : ℤ) - s.lastSavedStep) ||
      sinceSaved.ge CHECKPOINT_EVERY_SECONDS)

def saveScheduled : LoopProgram Unit := do
  let s ← .get
  let window := inputs.window (s.windowsRun - 1)
  if shouldSave s window.sinceSaved then do
    let path ← .lift window.save
    .modify fun s => {s with lastCheckpoint := some path}
    .lift window.writeBatches
    .modify fun s => {s with lastSavedStep := s.progress.optimizerStep}
    RunManifestWriter.appendEvent window.appendEvent (.checkpointSaved s.progress.optimizerStep path)
  else return ()

def stopStatus (action : GuardAction) : RunStatus := if action = .fail then .failed else .paused

def stopRun (decision : ResourceDecision) : LoopProgram Unit := do
  let reason ← .lift (required (.indexError "tuple index out of range") decision.reasons.head?)
  .modify fun s => {s with reason := .guard reason, status := stopStatus decision.action}

def runWindows : List (List ℕ × ℕ) → LoopProgram Unit
  | [] => return ()
  | window :: rest => do
    let decision ← runWindow inputs window
    if decision.action ≠ .carryOn then stopRun decision
    else do
      saveScheduled inputs
      runWindows rest

def closeRun : LoopProgram FoundationRunResult := do
  let s ← .get
  if s.windowsRun = 0 ∧ s.status = .completed then
    RunManifestWriter.appendEvent inputs.closing.appendEmpty (.noTrainableWindow s.progress.tokensSeen)
  saveCheckpoint inputs.closing.save
  .lift inputs.closing.writeBatches
  RunManifestWriter.writeManifest inputs.closing.writeManifest s.status (some s.reason)
  RunManifestWriter.appendEvent inputs.closing.appendEvent (.terminated s.status (some s.reason) s.progress.optimizerStep)
  let t ← .get
  return ⟨t.status,t.progress,t.lastCheckpoint⟩

def validWindows : Py Unit := do
  demand (inputs.tokenCounts.all fun count => decide (0 < count))
    (.foundationDatasetError "sampler token counts must be positive ints")
  demand (decide (0 < inputs.tokenCeiling)) (.foundationDatasetError "sampler token_ceiling must be a positive int")

def suppressed (x : LoopProgram Unit) : LoopProgram Unit := .handle x fun _ => return ()

def recordFailure (e : Raised) : LoopProgram FoundationRunResult := do
  let s ← .get
  if s.progress.microbatch % GRADIENT_ACCUMULATION = 0 then suppressed (saveCheckpoint inputs.fallback.save)
  suppressed (.lift inputs.fallback.writeBatches)
  suppressed (RunManifestWriter.writeManifest inputs.fallback.writeManifest .failed none)
  suppressed (RunManifestWriter.appendEvent inputs.fallback.appendEvent (.terminated .failed none s.progress.optimizerStep))
  .raise e

def RunInputs.windows : List (List ℕ × ℕ) :=
  iterWindows inputs.order inputs.tokenCounts inputs.tokenCeiling (inputs.order.length + 1) inputs.progress.datasetCursor
    inputs.progress.tokensSeen

def guardedLoop : LoopProgram FoundationRunResult := do
  .lift (validWindows inputs)
  runWindows inputs inputs.windows
  closeRun inputs

def executeSafeBoundaryLoop : LoopProgram FoundationRunResult := do
  RunManifestWriter.writeManifest inputs.writeManifest .running none
  RunManifestWriter.appendEvent inputs.appendStarted .runStarted
  .handle (guardedLoop inputs) (recordFailure inputs)

def RunInputs.run : Py FoundationRunResult × LoopState := executeSafeBoundaryLoop inputs inputs.start

end Loop

end PneumaLab.Foundation
