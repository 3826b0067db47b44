import PneumaLab.Exceptions
import PneumaLab.Library.Values

namespace PneumaLab

namespace PyFloat

def isFinite : PyFloat → Bool
  | .finite _ _ => true
  | _ => false

def ge (limit : ℚ) : PyFloat → Bool
  | .nan => false
  | .infinite negative => !negative
  | .finite value _ => decide (limit ≤ value)

def dividedBy (divisor : ℚ) : PyFloat → PyFloat
  | .finite value _ => ofRat (value / divisor)
  | other => other

end PyFloat

namespace Foundation

inductive GuardReason where
  | gpuTemperature | vram | ram | sustainedThermalThrottling | operatorInterrupt | missingResourceSample
  | nonFiniteLoss | authorizationDrift | diskRisk | budgetDrift | regressionFailure
  deriving DecidableEq, Repr

inductive GuardAction where
  | carryOn | pause | fail
  deriving DecidableEq, Repr

structure ResourceSample where
  gpuTempC : PyFloat
  thermalThrottled : Bool
  processVramGb : PyFloat
  processRamGb : PyFloat
  diskFreeGb : PyFloat
  lossFinite : Bool
  deriving DecidableEq

structure ResourceDecision where
  action : GuardAction
  reasons : List GuardReason
  deriving DecidableEq, Repr

structure ResourceGuard where
  maxGpuTempC : ℚ
  sustainedThrottleSamples : ℕ
  positive : 1 ≤ sustainedThrottleSamples

namespace ResourceGuard

def MIN_FREE_DISK_HEADROOM_GB : ℚ := 2

def MAX_VRAM_GB : ℚ := 75 / 10

def MAX_RAM_GB : ℚ := 24

section Evaluate
variable (guard : ResourceGuard) (values : List ResourceSample)

def sustainedThrottling : Bool :=
  let tail := values.drop (values.length - guard.sustainedThrottleSamples)
  decide (tail.length = guard.sustainedThrottleSamples) && tail.all ResourceSample.thermalThrottled

def requestFailReasons (authorizationUnchanged budgetOk regressionOk : Bool) : List GuardReason :=
  (if authorizationUnchanged then [] else [.authorizationDrift]) ++ (if budgetOk then [] else [.budgetDrift]) ++
    (if regressionOk then [] else [.regressionFailure])

def sampleFailReasons (checkpointRequiredGb : ℚ) : List GuardReason :=
  match values.getLast? with
  | none => []
  | some latest =>
    (if values.any fun sample => !sample.lossFinite then [.nonFiniteLoss] else []) ++
      (if latest.diskFreeGb.lt (Rounding.nearest (checkpointRequiredGb + MIN_FREE_DISK_HEADROOM_GB)) then [.diskRisk]
        else [])

def samplePauseReasons : List GuardReason :=
  match values.getLast? with
  | none => [.missingResourceSample]
  | some latest =>
    (if latest.gpuTempC.ge guard.maxGpuTempC then [.gpuTemperature] else []) ++
      (if latest.processVramGb.gt MAX_VRAM_GB then [.vram] else []) ++
      (if latest.processRamGb.gt MAX_RAM_GB then [.ram] else []) ++
      (if guard.sustainedThrottling values then [.sustainedThermalThrottling] else [])

def actionOf (failReasons pauseReasons : List GuardReason) : GuardAction :=
  if failReasons ≠ [] then .fail else if pauseReasons ≠ [] then .pause else .carryOn

def evaluate (authorizationUnchanged operatorInterrupt budgetOk regressionOk : Bool) (checkpointRequiredGb : ℚ) :
    ResourceDecision :=
  let failReasons := requestFailReasons authorizationUnchanged budgetOk regressionOk ++
    sampleFailReasons values checkpointRequiredGb
  let pauseReasons := (if operatorInterrupt then [.operatorInterrupt] else []) ++ guard.samplePauseReasons values
  ⟨actionOf failReasons pauseReasons,failReasons ++ pauseReasons⟩

end Evaluate

section Decisions
variable {guard : ResourceGuard} {values : List ResourceSample}
  {authorizationUnchanged operatorInterrupt budgetOk regressionOk : Bool} {checkpointRequiredGb : ℚ}

theorem actionOf_carryOn_iff (failReasons pauseReasons : List GuardReason) :
    actionOf failReasons pauseReasons = .carryOn ↔ failReasons ++ pauseReasons = [] := by
  rw [List.append_eq_nil_iff]
  by_cases hfail : failReasons = []
  · by_cases hpause : pauseReasons = []
    · simp [actionOf,hfail,hpause]
    · simp [actionOf,hfail,hpause]
  · simp [actionOf,hfail]

theorem evaluate_carryOn_iff :
    (guard.evaluate values authorizationUnchanged operatorInterrupt budgetOk regressionOk checkpointRequiredGb).action =
      .carryOn ↔
    (guard.evaluate values authorizationUnchanged operatorInterrupt budgetOk regressionOk checkpointRequiredGb).reasons =
      [] :=
  actionOf_carryOn_iff _ _

theorem evaluate_missing :
    (guard.evaluate [] true operatorInterrupt true true checkpointRequiredGb).action = .pause := by
  cases operatorInterrupt <;> rfl

theorem evaluate_nonFinite {sample : ResourceSample} (hmem : sample ∈ values) (hloss : sample.lossFinite = false) :
    (guard.evaluate values true operatorInterrupt true true checkpointRequiredGb).action = .fail ∧
    (guard.evaluate values true operatorInterrupt true true checkpointRequiredGb).reasons.head? =
      some .nonFiniteLoss := by
  have hany : (values.any fun sample => !sample.lossFinite) = true := by
    apply List.any_eq_true.mpr
    exact ⟨sample,hmem,by rw [hloss]; rfl⟩
  obtain ⟨latest,hlatest⟩ : ∃ latest, values.getLast? = some latest := by
    cases hlast : values.getLast? with
    | none => exact absurd (List.getLast?_eq_none_iff.mp hlast ▸ hmem) (List.not_mem_nil)
    | some latest => exact ⟨latest,rfl⟩
  have hfails : ∃ rest, sampleFailReasons values checkpointRequiredGb = .nonFiniteLoss :: rest := by
    rw [sampleFailReasons,hlatest]
    simp only [hany,if_true,List.singleton_append]
    exact ⟨_,rfl⟩
  obtain ⟨rest,hrest⟩ := hfails
  simp [evaluate,requestFailReasons,hrest,actionOf]

end Decisions

end ResourceGuard

section Sampler

structure NvidiaSmiSample where
  gpuTempC : PyFloat
  thermalThrottled : Bool

structure Probe where
  nvidiaSmi : Py NvidiaSmiSample
  cudaMemoryBytes : Py (ℕ × ℕ)
  processMemoryBytes : Py (ℕ × ℕ)
  diskUsage : Py ℕ

def BYTES_PER_GB : ℚ := 1024 ^ 3

def gigabytes (bytes : ℕ) : Py PyFloat := do
  let value ← (Number.int bytes).toFloat
  return value.dividedBy BYTES_PER_GB

def Probe.diskFree (outputRoot : String) (probe : Probe) : Py ℕ :=
  match probe.diskUsage with
  | .ok free => .ok free
  | .error (.osError message) =>
    .error (.telemetryError ("disk usage cannot be read for " ++ outputRoot ++ ": " ++ message))
  | .error e => .error e

def Probe.read (outputRoot : String) (probe : Probe) (lossFinite : Bool) : Py ResourceSample := do
  let globalSample ← probe.nvidiaSmi
  let allocatedBytes ← probe.cudaMemoryBytes
  let processBytes ← probe.processMemoryBytes
  let disk ← probe.diskFree outputRoot
  let processVramGb ← gigabytes allocatedBytes.1
  let processRamGb ← gigabytes processBytes.1
  let diskFreeGb ← gigabytes disk
  return {
    gpuTempC := globalSample.gpuTempC
    thermalThrottled := globalSample.thermalThrottled
    processVramGb
    processRamGb
    diskFreeGb
    lossFinite}

structure LiveResourceSampler where
  outputRoot : String
  maxSamples : ℕ
  samples : List ResourceSample
  positive : 1 ≤ maxSamples
  bounded : samples.length ≤ maxSamples

namespace LiveResourceSampler

theorem drop_bounded (samples : List ResourceSample) (value : ResourceSample) (maxSamples : ℕ) :
    ((samples ++ [value]).drop ((samples ++ [value]).length - maxSamples)).length ≤ maxSamples := by
  rw [List.length_drop]
  omega

def record (sampler : LiveResourceSampler) (value : ResourceSample) : LiveResourceSampler :=
  {sampler with
    samples := (sampler.samples ++ [value]).drop ((sampler.samples ++ [value]).length - sampler.maxSamples)
    bounded := drop_bounded sampler.samples value sampler.maxSamples}

def sample (sampler : LiveResourceSampler) (probe : Probe) (lossFinite : Bool) : Py LiveResourceSampler :=
  (probe.read sampler.outputRoot lossFinite).map sampler.record

theorem mem_record (sampler : LiveResourceSampler) (value : ResourceSample) : value ∈ (sampler.record value).samples := by
  have hpositive := sampler.positive
  have hlength : (sampler.samples ++ [value]).length - sampler.maxSamples ≤ sampler.samples.length := by
    rw [List.length_append,List.length_singleton]
    omega
  simp only [record]
  rw [List.drop_append_of_le_length hlength]
  exact List.mem_append_right _ List.mem_cons_self

@[simp] theorem record_outputRoot (sampler : LiveResourceSampler) (value : ResourceSample) :
    (sampler.record value).outputRoot = sampler.outputRoot := rfl

end LiveResourceSampler

theorem Probe.read_lossFinite {outputRoot : String} {probe : Probe} {lossFinite : Bool} {value : ResourceSample}
    (h : probe.read outputRoot lossFinite = .ok value) : value.lossFinite = lossFinite := by
  simp only [Probe.read,bind,Except.bind] at h
  repeat' split at h
  all_goals cases h
  rfl

end Sampler

end Foundation

end PneumaLab
