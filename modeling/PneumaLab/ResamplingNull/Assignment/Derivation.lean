import PneumaLab.ResamplingNull.Assignment.Records

namespace PneumaLab.ResamplingNull

def maxU32 : ℕ := 2 ^ 32 - 1

def maxU64 : ℕ := 2 ^ 64 - 1

def frameMagic : Bytes := utf8 "pneuma-resampling-null-frame-v1" ++ [0]

inductive FrameField where
  | u64 (value : ℕ)
  | text (value : String)
  | bytes (value : Bytes)

def u32 (value : ℕ) : Py Bytes := do
  demand (value ≤ maxU32) (.valueError "must fit one unsigned 32-bit integer")
  return bigEndian 4 value

def fromHex (text : String) : Py Bytes :=
  match fromHexChars text.toList with
  | some raw => .ok raw
  | none => .error (.valueError "non-hexadecimal number found in fromhex() arg")

variable (platform : Platform)

def textPayload (value : String) : Py Bytes := do
  demand (value ≠ "") (.valueError "must be non-empty")
  demand (platform.normalized value) (.valueError "must already be NFC-normalized")
  demand (!value.toList.any platform.otherCategory) (.valueError "contains a forbidden Unicode category")
  let payload := utf8 value
  demand (payload.length ≤ maxU32) (.valueError "UTF-8 payload exceeds unsigned 32-bit length")
  return payload

def fieldPayload : FrameField → Py (UInt8 × Bytes)
  | .u64 value => do
    demand (value ≤ maxU64) (.valueError "U64 field value is outside the unsigned 64-bit range")
    return (0x01,bigEndian 8 value)
  | .text value => do
    return (0x02,← textPayload platform value)
  | .bytes value => do
    demand (value.length ≤ maxU32) (.valueError "BYTES field payload exceeds unsigned 32-bit length")
    return (0x03,value)

def kdfFrame (tag : String) (fields : List FrameField) : Py Bytes := do
  let tagPayload ← textPayload platform tag
  demand (fields.length ≤ maxU32) (.valueError "frame field count exceeds unsigned 32-bit range")
  let encoded := frameMagic ++ (← u32 tagPayload.length) ++ tagPayload ++ (← u32 fields.length)
  fields.foldlM (fun encoded field => do
    let (fieldType,payload) ← fieldPayload platform field
    return encoded ++ [fieldType] ++ (← u32 payload.length) ++ payload) encoded

def commitmentSha256 (label studyId : String) (value : Bytes) : Py String := do
  demand (value.length = 32) (.valueError "roster/master commitment requires exactly 32 bytes")
  let frame ← kdfFrame platform "commitment-v1" [.text label,.text studyId,.bytes value]
  return (platform.sha256 frame).hex

structure UniformDraw where
  value : ℕ
  counter : ℕ

def uniformLoop (key messageFrame : Bytes) (upper : ℕ) : ℕ → ℕ → Py UniformDraw
  | 0, _ => .error (.runtimeError "64-bit rejection counter exhausted")
  | fuel + 1, counter => do
    let frame ← kdfFrame platform "uniform-below-v1" [.bytes messageFrame,.u64 counter]
    let value := readBigEndian ((platform.hmac key frame).bytes.take 8)
    if value < 2 ^ 64 - 2 ^ 64 % upper then return ⟨value % upper,counter⟩
    uniformLoop key messageFrame upper fuel (counter + 1)

def uniformBelow (key messageFrame : Bytes) (upper : ℕ) : Py UniformDraw := do
  demand (1 ≤ upper && upper ≤ 2 ^ 64) (.valueError "upper must be an integer in [1, 2**64]")
  demand (key.length = 32) (.valueError "key must be one private mutable 32-byte buffer")
  uniformLoop platform key messageFrame upper (2 ^ 64) 0

structure AssignmentKeys where
  donor : Digest
  allocation : Digest
  orientation : Digest
  capability : Digest

def expandAssignmentSubkey (prk : Digest) (label : String) : Py Digest := do
  let info ← kdfFrame platform "assignment-subkey-v1" [.text label]
  return platform.hmac prk.bytes (info ++ [1])

def deriveAssignmentSubkeys (master : Bytes) (studyId : String) (manifestRef scheduleRef : ArtifactRef) :
    Py AssignmentKeys := do
  let context ← kdfFrame platform "assignment-context-v1"
    [.text studyId,.bytes (← fromHex manifestRef.sha256),.bytes (← fromHex scheduleRef.sha256)]
  let prk := platform.hmac (platform.sha256 context).bytes master
  return {
    donor := ← expandAssignmentSubkey platform prk "donor"
    allocation := ← expandAssignmentSubkey platform prk "allocation"
    orientation := ← expandAssignmentSubkey platform prk "orientation"
    capability := ← expandAssignmentSubkey platform prk "capability" }

open Treatment in
def allocationTable : List (List Treatment) := [
  [NO_PACKET,NO_PACKET,REAL,SHAM],
  [NO_PACKET,NO_PACKET,SHAM,REAL],
  [NO_PACKET,REAL,NO_PACKET,SHAM],
  [NO_PACKET,REAL,SHAM,NO_PACKET],
  [NO_PACKET,SHAM,NO_PACKET,REAL],
  [NO_PACKET,SHAM,REAL,NO_PACKET],
  [REAL,NO_PACKET,NO_PACKET,SHAM],
  [REAL,NO_PACKET,SHAM,NO_PACKET],
  [REAL,SHAM,NO_PACKET,NO_PACKET],
  [SHAM,NO_PACKET,NO_PACKET,REAL],
  [SHAM,NO_PACKET,REAL,NO_PACKET],
  [SHAM,REAL,NO_PACKET,NO_PACKET]]

def nullArms (orientation : ℤ) : List Arm :=
  if orientation = 0 then [.NONE,.RESAMPLE] else [.RESAMPLE,.NONE]

def armsOf : List Treatment → List Arm → List Arm
  | [], _ => []
  | .REAL :: rest, nulls => .REAL :: armsOf rest nulls
  | .SHAM :: rest, nulls => .SHAM :: armsOf rest nulls
  | .NO_PACKET :: rest, nulls => nulls.headD .NONE :: armsOf rest nulls.tail

def slotCapability (key : Digest) (studyId manifestSha256 scheduleSha256 prefixIndexSha256 taskId slotId : String)
    (arm : Arm) : Py String := do
  let frame ← kdfFrame platform "slot-capability-v1"
    [.text studyId,.bytes (← fromHex manifestSha256),.bytes (← fromHex scheduleSha256),
      .bytes (← fromHex prefixIndexSha256),.text taskId,.text slotId,.text arm.value]
  return (platform.hmac key.bytes frame).hex

def allocateTask (studyId manifestSha256 scheduleSha256 prefixIndexSha256 : String)
    (schedule : TaskSchedule) (donor : Option AssignmentPrefixTaskView) (keys : AssignmentKeys) :
    Py (TaskAssignment × AllocationReceipt) := do
  demand (isSha256 manifestSha256 && isSha256 scheduleSha256 && isSha256 prefixIndexSha256)
    (.valueError "must be a lowercase SHA-256 digest")
  let task := schedule.task
  let allocation ← uniformBelow platform keys.allocation.bytes
    (← kdfFrame platform "allocation-v1" [.text task.taskId]) allocationTable.length
  let orientation ← uniformBelow platform keys.orientation.bytes
    (← kdfFrame platform "orientation-v1" [.text task.taskId]) 2
  let arms := armsOf (allocationTable.getD allocation.value []) (nullArms orientation.value)
  let capabilities ← (schedule.slotIds.zip arms).mapM fun (slotId,arm) => do
    return (slotId,← slotCapability platform keys.capability studyId manifestSha256 scheduleSha256
      prefixIndexSha256 task.taskId slotId arm)
  demand ((donor.map AssignmentPrefixTaskView.taskId) ≠ some task.taskId)
    (.valueError "task_id and donor_task_id must differ")
  demand ((donor.map AssignmentPrefixTaskView.lineage) ≠ some task.lineage)
    (.valueError "task_lineage and donor_lineage must differ")
  demand (decide (capabilities.map Prod.snd).Nodup)
    (.valueError "slot capabilities must be unique within a task")
  return ({
      taskId := task.taskId
      taskLineage := task.lineage
      donorMatchKind := if donor.isNone then .notApplicableNoTrigger else .matched
      donorTaskId := donor.map AssignmentPrefixTaskView.taskId
      donorLineage := donor.map AssignmentPrefixTaskView.lineage
      slotArms := schedule.slotIds.zip arms
      scheduleSha256 := scheduleSha256
      prefixIndexSha256 := prefixIndexSha256 },{
      taskId := task.taskId
      slotIdsByOrdinal := schedule.slotIds
      treatmentAllocationIndex := allocation.value
      allocationRejectionCounter := allocation.counter
      noPacketOrientationBit := orientation.value
      orientationRejectionCounter := orientation.counter
      slotCapabilities := capabilities })

end PneumaLab.ResamplingNull
