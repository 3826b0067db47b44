import PneumaLab.Library.JsonScan
import PneumaLab.ResamplingNull.Artifacts

namespace PneumaLab.ResamplingNull.Ipc

def maxFrameBytes : ℕ := 1024 * 1024

def newline : UInt8 := 10

-- A value of Python that json.dumps takes, a float that is no number among them.
structure PyJson (platform : Platform) where
  value : Json
  native : value.Native platform.floatRepr

def workerCanonical (value : Json) : Option Bytes :=
  if value.finite then some (utf8 (String.ofList value.dumps)) else none

variable (platform : Platform)

-- None stands for the ValueError of any of its checks.
def strictCompactJson (payload : Bytes) : Option Json := do
  let text ← fromUtf8 payload
  let value ← Json.loads platform.floatRepr text.toList
  if workerCanonical value = some payload then some value else none

inductive FrameRead where
  | more (chunks : Bytes)
  | frame (payload : Bytes)
  | invalid

def absorb (chunks chunk : Bytes) : FrameRead :=
  let received := chunks ++ chunk
  let position := received.idxOf newline
  if position < received.length then
    if position + 1 ≠ received.length then .invalid
    else if maxFrameBytes < position then .invalid
    else .frame (received.take position)
  else if maxFrameBytes < received.length then .invalid
  else .more received

-- How many bytes one os.read asks for.
def readSize (chunks : Bytes) : ℕ := min 65536 (maxFrameBytes + 2 - chunks.length)

variable {platform}

theorem canonical_readable {v : Json} (hv : v.Native platform.floatRepr) {payload : Bytes}
    (h : workerCanonical v = some payload) : v.Readable platform.floatRepr ∧ payload = encoded v.dumps := by
  rw [workerCanonical] at h
  split at h
  · next hfinite =>
    cases h
    exact ⟨Json.readable_of_finite hv hfinite,utf8_ofList _⟩
  · cases h

theorem dumps_ne_newline {v : Json} (hv : v.Readable platform.floatRepr) : ∀ c ∈ v.dumps, c ≠ '\n' := by
  rw [← Json.render_compact 0 v]
  refine Json.render_forall ?_ (fun _ => List.forall_mem_nil _) (List.forall_mem_nil _) v 0 hv fun c _ => Json.escape_ne (by decide) c
  rintro c hlow - rfl
  exact absurd hlow (by decide)

theorem canonical_unbroken {v : Json} (hv : v.Native platform.floatRepr) {payload : Bytes}
    (h : workerCanonical v = some payload) : newline ∉ payload := by
  obtain ⟨hreadable,rfl⟩ := canonical_readable hv h
  intro hmem
  obtain ⟨c,hc,hvalue⟩ := mem_encoded hmem (by decide)
  exact dumps_ne_newline hreadable c hc (Char.toNat_inj.mp hvalue)

theorem strictCompactJson_canonical {v : Json} (hv : v.Native platform.floatRepr) {payload : Bytes}
    (h : workerCanonical v = some payload) : strictCompactJson platform payload = some v := by
  have hloads : Json.loads platform.floatRepr (v.dumps ++ []) = some v :=
    Json.loadsWith_dumps (.strict platform.floatRepr) (canonical_readable hv h).1 rfl (by rintro c tail ⟨⟩)
  rw [List.append_nil] at hloads
  have hpayload : payload = utf8 (String.ofList v.dumps) := by
    rw [workerCanonical] at h
    split at h
    · exact (Option.some.inj h).symm
    · cases h
  rw [strictCompactJson,hpayload,fromUtf8_utf8]
  simp only [Option.bind_eq_bind,Option.bind_some,String.toList_ofList,hloads]
  rw [← hpayload,if_pos h]

theorem strictCompactJson_sound {payload : Bytes} {v : Json} (h : strictCompactJson platform payload = some v) :
    workerCanonical v = some payload ∧ ∃ text, Json.loads platform.floatRepr text = some v := by
  rw [strictCompactJson] at h
  obtain ⟨text,_,h⟩ := Option.bind_eq_some_iff.mp h
  obtain ⟨value,hvalue,h⟩ := Option.bind_eq_some_iff.mp h
  split at h
  · next hsame =>
    cases h
    exact ⟨hsame,_,hvalue⟩
  · cases h

section Absorb
variable {chunks chunk rest whole : Bytes} (hstream : chunks ++ chunk ++ rest = whole ++ [newline])
  (hunbroken : newline ∉ whole)
include hstream hunbroken

theorem absorb_end (hrest : rest = []) :
    absorb chunks chunk = if maxFrameBytes < whole.length then .invalid else .frame whole := by
  subst hrest
  rw [List.append_nil] at hstream
  have hposition : (whole ++ [newline]).idxOf newline = whole.length := by
    rw [List.idxOf_append_of_notMem hunbroken]
    simp
  have hlength : (whole ++ [newline]).length = whole.length + 1 := by simp
  rw [absorb]
  simp only [hstream,hposition,hlength]
  rw [if_pos (Nat.lt_succ_self _),if_neg (by simp),List.take_left']
  rfl

theorem absorb_more (hrest : rest ≠ []) :
    absorb chunks chunk = if maxFrameBytes < (chunks ++ chunk).length then .invalid else .more (chunks ++ chunk) := by
  obtain ⟨before,last,rfl⟩ := (List.eq_nil_or_concat' rest).resolve_left hrest
  rw [← List.append_assoc] at hstream
  have hwhole := List.append_inj_left' hstream rfl
  have hfree : newline ∉ chunks ++ chunk := fun hmem => hunbroken (hwhole ▸ List.mem_append_left _ hmem)
  rw [absorb]
  simp only [List.idxOf_eq_length hfree]
  rw [if_neg (lt_irrefl _)]

end Absorb

variable {platform : Platform} {σ : Type}

inductive Outcome (platform : Platform) where
  | reply (value : PyJson platform)
  | refuse (text : String)
  | close

def Outcome.answer : Outcome platform → Option Json
  | .reply value => some value.value
  | .refuse _ => none
  | .close => some .null

-- What the worker does with a message, and the texts of the exceptions of its frame reader and of json.dumps.
structure WorkerProgram (platform : Platform) (σ : Type) where
  serve : σ → Json → Outcome platform × σ
  refusal : Bytes → String
  unwritable : String

structure Call (platform : Platform) where
  index : ℕ
  message : PyJson platform

inductive ControllerPhase (platform : Platform) where
  | idle
  | writing (call : Call platform) (rest : Bytes)
  | reading (call : Call platform) (chunks : Bytes)

inductive WorkerPhase where
  | reading (chunks : Bytes)
  | replying (rest : Bytes) (closing : Bool)
  | reporting (rest : Bytes)
  | exited

def WorkerPhase.running : WorkerPhase → Bool
  | .exited => false
  | _ => true

structure State (platform : Platform) (σ : Type) where
  controller : ControllerPhase platform
  worker : WorkerPhase
  memory : σ
  requests : Bytes
  responses : Bytes
  calls : ℕ
  sent : List (Call platform)
  served : List (Json × Outcome platform)
  returned : List (Call platform × Json)

def State.opened (memory : σ) : State platform σ where
  controller := .idle
  worker := .reading []
  memory
  requests := []
  responses := []
  calls := 0
  sent := []
  served := []
  returned := []

inductive Action (platform : Platform) where
  | call (message : PyJson platform)
  | controllerWrites (count : ℕ)
  | controllerReads (count : ℕ)
  | controllerTimesOut
  | workerWrites (count : ℕ)
  | workerReads (count : ℕ)
  | workerTimesOut

def exchangePayload (message : Json) : Option Bytes :=
  if message.finite then
    let payload := canonicalJsonBytes message
    some (if payload.getLast? = some newline then payload.dropLast else payload)
  else none

def okFrame (value : Json) : Json := .obj [("ok",.bool true),("value",value)]

def errorFrame (text : String) : Json := .obj [("error",.str text),("ok",.bool false)]

def exchangeValue : Json → Option Json
  | .obj [("ok",.bool true),("value",value)] => some value
  | _ => none

def report (text : String) : WorkerPhase :=
  match workerCanonical (errorFrame text) with
  | none => .exited
  | some payload => if maxFrameBytes < payload.length then .exited else .reporting (payload ++ [newline])

section Steps
variable (program : WorkerProgram platform σ)

def reply (closing : Bool) (value : Json) : WorkerPhase :=
  match workerCanonical (okFrame value) with
  | none => report program.unwritable
  | some payload =>
    if maxFrameBytes < payload.length then report "ValueError: IPC frame exceeds the exact byte cap"
    else .replying (payload ++ [newline]) closing

def answerPhase : Outcome platform → WorkerPhase
  | .reply value => reply program false value.value
  | .refuse text => report text
  | .close => reply program true .null

def serveFrame (payload : Bytes) (s : State platform σ) : State platform σ :=
  match strictCompactJson platform payload with
  | none => {s with worker := report (program.refusal payload)}
  | some message =>
    let (outcome,memory) := program.serve s.memory message
    {s with
      memory
      served := s.served ++ [(message,outcome)]
      worker := answerPhase program outcome}

def begin (message : PyJson platform) (s : State platform σ) : State platform σ :=
  match exchangePayload message.value with
  | none => {s with calls := s.calls + 1}
  | some payload =>
    if maxFrameBytes < payload.length then {s with calls := s.calls + 1}
    else {s with calls := s.calls + 1,controller := .writing ⟨s.calls,message⟩ (payload ++ [newline])}

def controllerWrite (call : Call platform) (rest : Bytes) (count : ℕ) (s : State platform σ) : Option (State platform σ) :=
  if s.worker.running then
    if 0 < count ∧ count ≤ rest.length then
      let s := {s with requests := s.requests ++ rest.take count}
      match rest.drop count with
      | [] => some {s with controller := .reading call [],sent := s.sent ++ [call]}
      | rest => some {s with controller := .writing call rest}
    else none
  else some {s with controller := .idle}

def controllerRead (call : Call platform) (chunks : Bytes) (count : ℕ) (s : State platform σ) : Option (State platform σ) :=
  if s.responses = [] then
    if s.worker.running then none else some {s with controller := .idle}
  else if 0 < count ∧ count ≤ s.responses.length ∧ count ≤ readSize chunks then
    let chunk := s.responses.take count
    let s := {s with responses := s.responses.drop count}
    match absorb chunks chunk with
    | .more chunks => some {s with controller := .reading call chunks}
    | .invalid => some {s with controller := .idle}
    | .frame payload =>
      match (strictCompactJson platform payload).bind exchangeValue with
      | none => some {s with controller := .idle}
      | some value => some {s with controller := .idle,returned := s.returned ++ [(call,value)]}
  else none

def workerRead (chunks : Bytes) (count : ℕ) (s : State platform σ) : Option (State platform σ) :=
  if 0 < count ∧ count ≤ s.requests.length ∧ count ≤ readSize chunks then
    let chunk := s.requests.take count
    let s := {s with requests := s.requests.drop count}
    match absorb chunks chunk with
    | .more chunks => some {s with worker := .reading chunks}
    | .invalid => some {s with worker := report (program.refusal (chunks ++ chunk))}
    | .frame payload => some (serveFrame program payload s)
  else none

def workerWrite (rest : Bytes) (phase : Bytes → WorkerPhase) (finished : WorkerPhase) (count : ℕ)
    (s : State platform σ) : Option (State platform σ) :=
  if 0 < count ∧ count ≤ rest.length then
    let s := {s with responses := s.responses ++ rest.take count}
    match rest.drop count with
    | [] => some {s with worker := finished}
    | rest => some {s with worker := phase rest}
  else none

def step (s : State platform σ) : Action platform → Option (State platform σ)
  | .call message =>
    match s.controller with
    | .idle => some (begin message s)
    | _ => none
  | .controllerWrites count =>
    match s.controller with
    | .writing call rest => controllerWrite call rest count s
    | _ => none
  | .controllerReads count =>
    match s.controller with
    | .reading call chunks => controllerRead call chunks count s
    | _ => none
  | .controllerTimesOut =>
    match s.controller with
    | .idle => none
    | _ => some {s with controller := .idle}
  | .workerWrites count =>
    match s.worker with
    | .replying rest closing =>
      workerWrite rest (fun rest => .replying rest closing) (if closing then .exited else .reading []) count s
    | .reporting rest => workerWrite rest .reporting (.reading []) count s
    | _ => none
  | .workerReads count =>
    match s.worker with
    | .reading chunks => workerRead program chunks count s
    | _ => none
  | .workerTimesOut =>
    match s.worker with
    | .replying _ _ => some {s with worker := report "TimeoutError: IPC frame write timed out"}
    | .reporting _ => some {s with worker := .exited}
    | _ => none

end Steps

end PneumaLab.ResamplingNull.Ipc
