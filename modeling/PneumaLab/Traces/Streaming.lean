import Mathlib.Data.Prod.Lex
import Mathlib.Data.String.Basic
import PneumaLab.Library.RankOrder
import PneumaLab.Traces.Adapters
import PneumaLab.Traces.TurnFrames

namespace PneumaLab.Traces

abbrev Build (α : Type) := Py (Except String α)

def skipOn {α : Type} (reason : String → String) : Py α → Build α
  | .ok a => .ok (.ok a)
  | .error (.valueError message) => .ok (.error (reason message))
  | .error e => .error e

def built {α β : Type} : Build α → (α → Build β) → Build β
  | .ok (.ok a), next => next a
  | .ok (.error reason), _ => .ok (.error reason)
  | .error e, _ => .error e

structure Checks where
  frameErrors : Json → List String
  envelopeErrors : Json → List String
  consistencyErrors : Json → List String

structure Skipped where
  sourceId : String
  reason : String

inductive Classified where
  | skipped (payload : Skipped)
  | invalid (payload : Json)
  | valid (trace : Json)

def Classified.skippedPayload : Classified → Option Skipped
  | .skipped payload => some payload
  | _ => none

def Classified.invalidPayload : Classified → Option Json
  | .invalid payload => some payload
  | _ => none

def Classified.validTrace : Classified → Option Json
  | .valid trace => some trace
  | _ => none

def framesOf (trace : Json) : List Json :=
  match fieldOf trace "frames" with
  | .arr frames => frames
  | _ => []

def markInvalid : Json → Json
  | .obj fields => .obj (fields.map fun field =>
      if field.1 = "validation" then ("validation",.obj [("schema",.str "pneuma-trace.schema.json"),("status",.str "invalid")])
      else field)
  | v => v

def sourceIdOf (trace : Json) : Json := fieldOf (fieldOf trace "provenance") "source_id"

def errorList (messages : List String) : Json := .arr (messages.map .str)

variable (checks : Checks)

def checked (trace : Json) : Classified :=
  let frameErrors := (framesOf trace).flatMap checks.frameErrors
  let envelopeErrors := checks.envelopeErrors trace
  let consistencyErrors := checks.consistencyErrors trace
  if frameErrors ≠ [] ∨ envelopeErrors ≠ [] ∨ consistencyErrors ≠ [] then
    .invalid (.obj [
      ("errors",.obj [
        ("consistency",errorList consistencyErrors),("envelope",errorList envelopeErrors),("frames",errorList frameErrors)]),
      ("source_id",sourceIdOf trace),
      ("trace",markInvalid trace),
      ("trace_id",fieldOf trace "trace_id")])
  else .valid trace

namespace OpenSweTraces

open Foundation

variable (python : Interpreter) (recording : Recording)

def recordedWith (origin : Origin) (row : Fields) (instanceId trajectoryId : Json) (extraction : Extraction) : Py Recorded := do
  let sourceId := str python instanceId ++ "::" ++ str python trajectoryId
  let ids := deriveIds python "open-swe-traces" sourceId origin.hfRevision
  let repo ← getField (.obj row) "repo" .null
  let repoDigest ← repoDigestOf python repo
  let instanceText ← encodable instanceId
  let trajectoryText ← encodable trajectoryId
  let license ← getField (.obj row) "license" .null
  let language ← getField (.obj row) "language" .null
  return {
    ids,sourceId,trajectoryId,extraction,repoDigest
    instanceDigest := digest python instanceText
    trajectoryDigest := digest python trajectoryText
    license := orElse license .null
    language := orElse language .null}

def runIdOf (origin : Origin) (instanceId trajectoryId : Json) : String :=
  (deriveIds python "open-swe-traces" (str python instanceId ++ "::" ++ str python trajectoryId) origin.hfRevision).runId

def assembled (origin : Origin) (row : Fields) (instanceId trajectoryId : Json) (resolved : Bool) (extraction : Extraction) : Py Json := do
  let recorded ← recordedWith python origin row instanceId trajectoryId extraction
  let metadata ← getField (.obj row) "metadata" .null
  let supervision ← referenceSupervision python metadata
  let modelPatch ← getField (orElse metadata (.obj [])) "model_patch" .null
  return sealTrace python (traceFields python recording origin recorded resolved (truthy modelPatch) supervision)

def buildOrSkip (origin : Origin) (row : Fields) : Build Json :=
  built (skipOn id (identifiersOf row)) fun (instanceId,trajectoryId) =>
  built (skipOn id (getField (.obj row) "resolved" .null >>= resolvedToBool python)) fun resolved =>
  built (skipOn ("unusable trajectory: " ++ ·) (getField (.obj row) "trajectory" .null >>= fun messages =>
    extractAgentTraceFrames python recording messages (runIdOf python origin instanceId trajectoryId))) fun extraction =>
  (assembled python recording origin row instanceId trajectoryId resolved extraction).map .ok

def skippedRow (row : Fields) (reason : String) : Skipped where
  sourceId := str python ((row.lookup "instance_id").getD (.str "<?>")) ++ "::" ++
    str python ((row.lookup "trajectory_id").getD (.str "<?>"))
  reason

def classifyRow (origin : Origin) (row : Fields) : Py Classified := do
  match ← buildOrSkip python recording origin row with
  | .error reason => return .skipped (skippedRow python row reason)
  | .ok trace => return checked checks trace

end OpenSweTraces

end PneumaLab.Traces

namespace PneumaLab.Traces.OpenSweTraces

open Foundation RankOrder

def indexRow (trace : Json) : Json :=
  let labels := fieldOf trace "labels"
  .obj [
    ("benchmark",fieldOf labels "benchmark"),
    ("content_hash",fieldOf (fieldOf trace "build") "content_hash"),
    ("has_trajectory",fieldOf labels "has_trajectory"),
    ("language",fieldOf labels "language"),
    ("num_agent_steps",fieldOf (fieldOf trace "trajectory") "num_agent_steps"),
    ("num_frames",.int (framesOf trace).length),
    ("oracle_kind",fieldOf (fieldOf trace "oracle") "kind"),
    ("privacy_status",fieldOf (fieldOf trace "privacy") "status"),
    ("resolved",fieldOf labels "resolved"),
    ("run_id",fieldOf trace "run_id"),
    ("source_group",fieldOf labels "source_group"),
    ("source_id",sourceIdOf trace),
    ("split",fieldOf labels "split"),
    ("trace_id",fieldOf trace "trace_id"),
    ("validation_status",fieldOf (fieldOf trace "validation") "status")]

def agentStepsOf (trace : Json) : ℤ :=
  match fieldOf (fieldOf trace "trajectory") "num_agent_steps" with
  | .int steps => steps
  | _ => 0

def resolvedIn (trace : Json) : Bool := truthy (fieldOf (fieldOf trace "labels") "resolved")

def jsonLine (v : Json) : String := canonicalJson v ++ "\n"

def jsonl (values : List Json) : String := String.join (values.map jsonLine)

structure Counts where
  sourceRows : ℕ
  tracesEmitted : ℕ
  valid : ℕ
  invalid : ℕ
  skipped : ℕ

structure AdapterReport where
  hfRevision : String
  counts : Counts
  totalAgentSteps : ℤ
  resolvedTrue : ℕ
  resolvedFalse : ℕ
  sourceGroups : List String
  skipReasons : List (String × ℕ)
  skippedSourceIds : List Skipped
  invalidSourceIds : List Json
  tracesFileSha256 : String
  traceIndexFileSha256 : String
  invalidTracesFileSha256 : String

variable (python : Interpreter) (recording : Recording) (checks : Checks) (hfRevision : String)

def reasonKey (payload : Skipped) : String :=
  String.ofList ((python.strip (String.ofList (payload.reason.toList.takeWhile (· ≠ '(')))).toList.takeWhile (· ≠ ';'))

def countReason : List (String × ℕ) → String → List (String × ℕ)
  | [],key => [(key,1)]
  | (held,count) :: rest,key => if held = key then (held,count+1) :: rest else (held,count) :: countReason rest key

def tallied (tally : List (String × ℕ)) (payload : Skipped) : List (String × ℕ) := countReason tally (reasonKey python payload)

def distinct (groups : List String) : List String := groups.foldl (fun seen group => seen.insert group) []

structure SourcedRow where
  sourceGroup : String
  sourceFile : String
  sourceRow : ℕ
  row : Fields

def SourcedRow.key (r : SourcedRow) : String ×ₗ String ×ₗ ℕ := toLex (r.sourceGroup,toLex (r.sourceFile,r.sourceRow))

def rowsOf (group file : String) (rows : List Fields) : List SourcedRow := rows.zipIdx.map fun (row,i) => ⟨group,file,i,row⟩

def classifySourced (r : SourcedRow) : Py Classified :=
  classifyRow checks python recording ⟨hfRevision,r.sourceFile,r.sourceRow,r.sourceGroup⟩ r.row

abbrev Batch := String × String × List Fields

def flatten (batches : List Batch) : List SourcedRow := batches.flatMap fun (group,file,rows) => rowsOf group file rows

structure Outputs (Body : Type) where
  traces : Body
  invalid : Body
  index : Body
  report : AdapterReport

def run (batches : List Batch) : Py (Outputs String) := do
  let classified ← (sortBy SourcedRow.key (flatten batches)).mapM (classifySourced python recording checks hfRevision)
  let valid := classified.filterMap Classified.validTrace
  let invalid := classified.filterMap Classified.invalidPayload
  let skipped := classified.filterMap Classified.skippedPayload
  let traces := jsonl valid
  let invalidText := jsonl invalid
  let index := jsonl (valid.map indexRow)
  return {
    traces,index
    invalid := invalidText
    report := {
      hfRevision
      counts := ⟨(batches.map fun batch => batch.2.2.length).sum,valid.length + invalid.length,valid.length,invalid.length,skipped.length⟩
      totalAgentSteps := (valid.map agentStepsOf).sum
      resolvedTrue := valid.countP resolvedIn
      resolvedFalse := valid.countP fun trace => !resolvedIn trace
      sourceGroups := sortBy id (distinct (batches.map Prod.fst))
      skipReasons := sortBy Prod.fst (skipped.foldl (tallied python) [])
      skippedSourceIds := skipped
      invalidSourceIds := invalid.map fun payload => fieldOf payload "source_id"
      tracesFileSha256 := sha256Hex python traces
      traceIndexFileSha256 := sha256Hex python index
      invalidTracesFileSha256 := sha256Hex python invalidText}}

structure Streamed where
  sourceRows : ℕ
  valid : ℕ
  invalid : ℕ
  skipped : ℕ
  totalAgentSteps : ℤ
  resolvedTrue : ℕ
  resolvedFalse : ℕ
  skipReasons : List (String × ℕ)
  skippedIds : List Skipped
  invalidIds : List Json
  -- what was written to each file, which is also what its hash was fed
  traces : Bytes
  invalidTraces : Bytes
  index : Bytes
  sourceGroups : List String

def truncatedAt : ℕ := 1000

def Streamed.opened (s : Streamed) (group : String) (rows : List Fields) : Streamed :=
  { s with sourceGroups := s.sourceGroups.insert group,sourceRows := s.sourceRows + rows.length }

def Streamed.add (s : Streamed) : Classified → Streamed
  | .skipped payload => { s with
      skipped := s.skipped + 1
      skipReasons := tallied python s.skipReasons payload
      skippedIds := if s.skippedIds.length < truncatedAt then s.skippedIds ++ [payload] else s.skippedIds }
  | .invalid payload => { s with
      invalid := s.invalid + 1
      invalidIds := s.invalidIds ++ [fieldOf payload "source_id"]
      invalidTraces := s.invalidTraces ++ utf8 (jsonLine payload) }
  | .valid trace => { s with
      valid := s.valid + 1
      totalAgentSteps := s.totalAgentSteps + agentStepsOf trace
      resolvedTrue := if resolvedIn trace then s.resolvedTrue + 1 else s.resolvedTrue
      resolvedFalse := if resolvedIn trace then s.resolvedFalse else s.resolvedFalse + 1
      traces := s.traces ++ utf8 (jsonLine trace)
      index := s.index ++ utf8 (jsonLine (indexRow trace)) }

def streamRow (s : Streamed) (r : SourcedRow) : Py Streamed := do
  return s.add python (← classifySourced python recording checks hfRevision r)

variable (readRows : String → List Fields)

def streamShard (s : Streamed) (input : String × String) : Py Streamed :=
  (rowsOf input.1 input.2 (readRows input.2)).foldlM (streamRow python recording checks hfRevision)
    (s.opened input.1 (readRows input.2))

def Streamed.start : Streamed := ⟨0,0,0,0,0,0,0,[],[],[],[],[],[],[]⟩

def bytesHex (bytes : Bytes) : String := (python.sha256 bytes).hex

def runStreaming (inputs : List (String × String)) : Py (Outputs Bytes) := do
  let s ← inputs.foldlM (streamShard python recording checks hfRevision readRows) .start
  return {
    traces := s.traces
    invalid := s.invalidTraces
    index := s.index
    report := {
      hfRevision
      counts := ⟨s.sourceRows,s.valid + s.invalid,s.valid,s.invalid,s.skipped⟩
      totalAgentSteps := s.totalAgentSteps
      resolvedTrue := s.resolvedTrue
      resolvedFalse := s.resolvedFalse
      sourceGroups := sortBy id s.sourceGroups
      skipReasons := sortBy Prod.fst s.skipReasons
      skippedSourceIds := s.skippedIds
      invalidSourceIds := s.invalidIds
      tracesFileSha256 := bytesHex python s.traces
      traceIndexFileSha256 := bytesHex python s.index
      invalidTracesFileSha256 := bytesHex python s.invalidTraces}}

def batchesOf (inputs : List (String × String)) : List Batch := inputs.map fun (group,path) => (group,path,readRows path)

structure SameCorpus (held : Outputs String) (streamed : Outputs Bytes) : Prop where
  traces : streamed.traces = utf8 held.traces
  invalid : streamed.invalid = utf8 held.invalid
  index : streamed.index = utf8 held.index
  report : streamed.report = { held.report with skippedSourceIds := held.report.skippedSourceIds.take truncatedAt }

section Agreement

variable {python recording checks hfRevision readRows}

theorem utf8_jsonl (values : List Json) : utf8 (jsonl values) = values.flatMap fun v => utf8 (jsonLine v) := by
  induction values with
  | nil => rfl
  | cons v values ih =>
    rw [List.flatMap_cons,← ih,jsonl,jsonl,List.map_cons,String.join_cons]
    simp [utf8]

theorem add_opened (s : Streamed) (group : String) (rows : List Fields) (c : Classified) :
    (s.opened group rows).add python c = (s.add python c).opened group rows := by
  cases c <;> rfl

theorem foldl_add_opened (s : Streamed) (group : String) (rows : List Fields) (classified : List Classified) :
    classified.foldl (Streamed.add python) (s.opened group rows) = (classified.foldl (Streamed.add python) s).opened group rows := by
  induction classified generalizing s with
  | nil => rfl
  | cons c classified ih => rw [List.foldl_cons,List.foldl_cons,add_opened,ih]

theorem streamed_rows (rows : List SourcedRow) (s : Streamed) :
    rows.foldlM (streamRow python recording checks hfRevision) s =
      rows.mapM (classifySourced python recording checks hfRevision) >>= fun classified =>
        .ok (classified.foldl (Streamed.add python) s) := by
  induction rows generalizing s with
  | nil => rfl
  | cons r rows ih =>
    rw [List.foldlM_cons,List.mapM_cons,streamRow]
    cases classifySourced python recording checks hfRevision r with
    | error e => rfl
    | ok c =>
      simp only [ok_bind,pure,Except.pure,bind_assoc]
      rw [ih]
      rfl

def openedAll (readRows : String → List Fields) (inputs : List (String × String)) (s : Streamed) : Streamed :=
  inputs.foldl (fun s input => s.opened input.1 (readRows input.2)) s

theorem openedAll_add (inputs : List (String × String)) (s : Streamed) (classified : List Classified) :
    openedAll readRows inputs (classified.foldl (Streamed.add python) s) =
      classified.foldl (Streamed.add python) (openedAll readRows inputs s) := by
  induction inputs generalizing s with
  | nil => rfl
  | cons input inputs ih =>
    rw [openedAll,openedAll,List.foldl_cons,List.foldl_cons,← foldl_add_opened]
    exact ih _

theorem streamed_shards (inputs : List (String × String)) (s : Streamed) :
    inputs.foldlM (streamShard python recording checks hfRevision readRows) s =
      (flatten (batchesOf readRows inputs)).mapM (classifySourced python recording checks hfRevision) >>= fun classified =>
        .ok (classified.foldl (Streamed.add python) (openedAll readRows inputs s)) := by
  induction inputs generalizing s with
  | nil => rfl
  | cons input inputs ih =>
    have hflatten : flatten (batchesOf readRows (input :: inputs)) =
        rowsOf input.1 input.2 (readRows input.2) ++ flatten (batchesOf readRows inputs) := rfl
    rw [List.foldlM_cons,streamShard,streamed_rows,hflatten,List.mapM_append]
    cases (rowsOf input.1 input.2 (readRows input.2)).mapM (classifySourced python recording checks hfRevision) with
    | error e => rfl
    | ok classified =>
      simp only [ok_bind,ih,bind_assoc,pure,Except.pure]
      congr 1
      funext later
      rw [List.foldl_append,openedAll_add]
      rfl

theorem added_eq (classified : List Classified) (s : Streamed) (h : s.skippedIds.length ≤ truncatedAt) :
    classified.foldl (Streamed.add python) s = { s with
      valid := s.valid + (classified.filterMap Classified.validTrace).length
      invalid := s.invalid + (classified.filterMap Classified.invalidPayload).length
      skipped := s.skipped + (classified.filterMap Classified.skippedPayload).length
      totalAgentSteps := s.totalAgentSteps + ((classified.filterMap Classified.validTrace).map agentStepsOf).sum
      resolvedTrue := s.resolvedTrue + (classified.filterMap Classified.validTrace).countP resolvedIn
      resolvedFalse := s.resolvedFalse + (classified.filterMap Classified.validTrace).countP fun trace => !resolvedIn trace
      skipReasons := (classified.filterMap Classified.skippedPayload).foldl (tallied python) s.skipReasons
      skippedIds := (s.skippedIds ++ classified.filterMap Classified.skippedPayload).take truncatedAt
      invalidIds := s.invalidIds ++ (classified.filterMap Classified.invalidPayload).map fun payload => fieldOf payload "source_id"
      traces := s.traces ++ utf8 (jsonl (classified.filterMap Classified.validTrace))
      invalidTraces := s.invalidTraces ++ utf8 (jsonl (classified.filterMap Classified.invalidPayload))
      index := s.index ++ utf8 (jsonl ((classified.filterMap Classified.validTrace).map indexRow)) } := by
  simp only [utf8_jsonl]
  induction classified generalizing s with
  | nil => simp [List.take_of_length_le h]
  | cons c classified ih =>
    rw [List.foldl_cons]
    cases c with
    | skipped payload =>
      by_cases hroom : s.skippedIds.length < truncatedAt
      · rw [ih (s.add python (.skipped payload)) (by simp [Streamed.add,hroom])]
        simp [Streamed.add,hroom,Classified.validTrace,Classified.invalidPayload,Classified.skippedPayload,List.filterMap_cons,add_comm,add_left_comm]
      · rw [ih (s.add python (.skipped payload)) (by simpa [Streamed.add,hroom] using h)]
        have hfull : s.skippedIds.length = truncatedAt := by omega
        simp [Streamed.add,Classified.validTrace,Classified.invalidPayload,Classified.skippedPayload,List.filterMap_cons,
          add_comm,add_left_comm,← hfull]
    | invalid payload =>
      rw [ih (s.add python (.invalid payload)) h]
      simp [Streamed.add,Classified.validTrace,Classified.invalidPayload,Classified.skippedPayload,List.filterMap_cons,add_comm,add_left_comm]
    | valid trace =>
      rw [ih (s.add python (.valid trace)) h]
      cases hresolved : resolvedIn trace <;>
        simp [Streamed.add,hresolved,Classified.validTrace,Classified.invalidPayload,Classified.skippedPayload,List.filterMap_cons,
          add_comm,add_left_comm,add_assoc]

theorem openedAll_eq (inputs : List (String × String)) (s : Streamed) : openedAll readRows inputs s = { s with
    sourceRows := s.sourceRows + ((batchesOf readRows inputs).map fun batch => batch.2.2.length).sum
    sourceGroups := ((batchesOf readRows inputs).map Prod.fst).foldl (fun seen group => seen.insert group) s.sourceGroups } := by
  induction inputs generalizing s with
  | nil => rfl
  | cons input inputs ih =>
    have hstep : openedAll readRows (input :: inputs) s = openedAll readRows inputs (s.opened input.1 (readRows input.2)) := rfl
    rw [hstep,ih]
    simp [Streamed.opened,batchesOf,add_assoc]

theorem rowsOf_pairwise (group file : String) (rows : List Fields) :
    (rowsOf group file rows).Pairwise fun a b => SourcedRow.key a ≤ SourcedRow.key b := by
  rw [rowsOf,List.pairwise_map]
  have hindex : rows.zipIdx.Pairwise fun a b => a.2 ≤ b.2 := by
    have hrange : (List.range' 0 rows.length).Pairwise (· ≤ ·) := List.pairwise_le_range'
    rw [← List.zipIdx_map_snd,List.pairwise_map] at hrange
    exact hrange
  refine hindex.imp fun {a b} hle => ?_
  rw [SourcedRow.key,SourcedRow.key,Prod.Lex.toLex_le_toLex]
  exact .inr ⟨rfl,Prod.Lex.toLex_le_toLex.mpr (.inr ⟨rfl,hle⟩)⟩

theorem flatten_sorted {inputs : List (String × String)} (h : inputs.Pairwise fun a b => toLex a < toLex b) :
    (flatten (batchesOf readRows inputs)).Pairwise fun a b => SourcedRow.key a ≤ SourcedRow.key b := by
  rw [flatten,batchesOf,List.flatMap_map,List.pairwise_flatMap]
  refine ⟨fun input _ => rowsOf_pairwise _ _ _,h.imp fun {a b} hlt r hr r' hr' => ?_⟩
  obtain ⟨x,_,rfl⟩ := List.mem_map.mp hr
  obtain ⟨y,_,rfl⟩ := List.mem_map.mp hr'
  rw [SourcedRow.key,SourcedRow.key,Prod.Lex.toLex_le_toLex]
  obtain hgroup | ⟨hgroup,hfile⟩ := Prod.Lex.toLex_lt_toLex.mp hlt
  · exact .inl hgroup
  · exact .inr ⟨hgroup,Prod.Lex.toLex_le_toLex.mpr (.inl hfile)⟩

variable (python recording checks hfRevision readRows) in
theorem streaming_same {inputs : List (String × String)} (h : inputs.Pairwise fun a b => toLex a < toLex b) :
    (∀ held streamed, run python recording checks hfRevision (batchesOf readRows inputs) = .ok held →
      runStreaming python recording checks hfRevision readRows inputs = .ok streamed → SameCorpus held streamed) ∧
    ∀ e, run python recording checks hfRevision (batchesOf readRows inputs) = .error e ↔
      runStreaming python recording checks hfRevision readRows inputs = .error e := by
  rw [run,runStreaming,sortBy_eq_self (flatten_sorted h),streamed_shards]
  cases (flatten (batchesOf readRows inputs)).mapM (classifySourced python recording checks hfRevision) with
  | error e =>
    refine ⟨nofun,fun other => ⟨fun hraised => ?_,fun hraised => ?_⟩⟩
    · cases hraised
      rfl
    · cases hraised
      rfl
  | ok classified =>
    simp only [ok_bind,pure,Except.pure]
    refine ⟨fun held streamed hheld hstreamed => ?_,fun e => ⟨nofun,nofun⟩⟩
    rw [openedAll_eq,added_eq _ _ (Nat.zero_le _)] at hstreamed
    cases hheld
    cases hstreamed
    constructor
    · rfl
    · rfl
    · rfl
    · simp [Streamed.start,sha256Hex,bytesHex,distinct]

end Agreement

def twoShards : List (String × String) := [("minimax","shard-0.parquet"),("minimax","shard-1.parquet")]

def keptRow : Fields := [
  ("instance_id",.str "a__b-1"),
  ("language",.str "python"),
  ("metadata",.obj []),
  ("repo",.str "a/b"),
  ("resolved",.int 1),
  ("trajectory",.arr [said "user",said "assistant"]),
  ("trajectory_id",.str "t")]

-- The first shard also holds a row without identifiers, which is skipped.
def shardRows (path : String) : List Fields := if path = "shard-0.parquet" then [keptRow,[]] else [keptRow]

def noChecks : Checks := ⟨fun _ => [],fun _ => [],fun _ => []⟩

theorem two_shards_same : ∃ held streamed,
    run quietInterpreter quietRecording noChecks "main" (batchesOf shardRows twoShards) = .ok held ∧
      runStreaming quietInterpreter quietRecording noChecks "main" shardRows twoShards = .ok streamed ∧
      SameCorpus held streamed ∧ (streamed.report.counts.valid,streamed.report.counts.skipped) = (2,1) := by
  have hsorted : twoShards.Pairwise fun a b => toLex a < toLex b := by
    simp only [twoShards,List.pairwise_cons,List.mem_singleton,forall_eq,List.not_mem_nil,false_imp_iff,implies_true,List.Pairwise.nil,and_true]
    exact Prod.Lex.toLex_lt_toLex.mpr (.inr ⟨rfl,by decide⟩)
  obtain ⟨hsame,herrors⟩ := streaming_same quietInterpreter quietRecording noChecks "main" shardRows hsorted
  have hstreamed : ∃ streamed, runStreaming quietInterpreter quietRecording noChecks "main" shardRows twoShards = .ok streamed ∧
      (streamed.report.counts.valid,streamed.report.counts.skipped) = (2,1) := ⟨_,rfl,rfl⟩
  obtain ⟨streamed,hstreamed,hcounts⟩ := hstreamed
  cases hheld : run quietInterpreter quietRecording noChecks "main" (batchesOf shardRows twoShards) with
  | error e =>
    rw [(herrors e).mp hheld] at hstreamed
    cases hstreamed
  | ok held => exact ⟨held,streamed,rfl,hstreamed,hsame held streamed hheld hstreamed,hcounts⟩

end PneumaLab.Traces.OpenSweTraces
