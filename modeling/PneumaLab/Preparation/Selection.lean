import PneumaLab.Foundation.Shards
import PneumaLab.Preparation.Splits

namespace PneumaLab.Preparation

open Foundation Traces

def fieldAt (record : Json) (outer inner : String) : Option Json := (lookupField record outer).bind (lookupField · inner)

section Rendering
variable (python : Interpreter) (runtime : ShardRuntime) (encode : String → List ℕ) (sourceReceiptHashes : List String)

def openHandsLaneId : String := "swe-gym-openhands-sampled"

def ostLaneId : String := "open-swe-traces"

def laneDispositions : List (String × LaneDisposition) := [
  (openHandsLaneId,{
    terminalRole := .train
    gradientEligibility := .firstStage
    licenseDisposition := "local_research_candidate_no_redistribution"
    privacyDisposition := "redaction_verified"
    dualUseDisposition := "not_flagged"
    oracleDisposition := "target_only"}),
  (ostLaneId,{
    terminalRole := .train
    gradientEligibility := .later
    licenseDisposition := "local_research_candidate_no_redistribution"
    privacyDisposition := "digest_only_by_construction"
    dualUseDisposition := "not_flagged"
    oracleDisposition := "target_only"})]

def modelId : String := "Qwen/Qwen3.5-2B"

def modelRevision : String := "15852e8c16360a2fea060d615a32b45270f8a8fc"

def contextOf (laneDisposition : LaneDisposition) (assignment : Assignment) : RenderContext where
  laneDisposition
  splitAssignment := assignment.json
  encode
  tokenizerRevision := modelRevision
  sourceReceiptHashes
  schemaMessage := runtime.schemaMessage

def countTokens (record : Json) (field : String) : ℕ :=
  match fieldAt record "rendered" field with
  | some (.str text) => (encode text).length
  | _ => 0

def recounted (record : Json) : Json :=
  let promptTokens := countTokens encode record "prompt_text"
  let targetTokens := countTokens encode record "target_text"
  .obj [
    ("prompt_tokens",.int promptTokens),
    ("target_tokens",.int targetTokens),
    ("tokenizer_id",.str modelId),
    ("tokenizer_revision",.str modelRevision),
    ("total_tokens",.int (promptTokens + targetTokens))]

def renderRecord (example_ : Json) (assignment : Assignment) (laneId : String) : Py Json := do
  let disposition ← required (.valueError ("unknown gradient lane for rendering: " ++ laneId)) (laneDispositions.lookup laneId)
  let record ← renderFoundationRecord python (contextOf runtime encode sourceReceiptHashes disposition assignment) example_
  demand (lookupField record "tokenization" = some (recounted encode record))
    (.valueError "foundation record tokenizer recount does not match")
  return record

def renderEach : List Json → List Assignment → List String → Py (List Json)
  | [],[],[] => .ok []
  | example_ :: examples,assignment :: assignments,laneId :: laneIds => do
    let record ← renderRecord python runtime encode sourceReceiptHashes example_ assignment laneId
    return record :: (← renderEach examples assignments laneIds)
  | _,_,_ => .error (.valueError "zip() arguments differ in length")

def renderRecords (examples : List Json) (assignments : List Assignment) (laneIds : List String) : Py (List Json) := do
  let records ← renderEach python runtime encode sourceReceiptHashes examples assignments laneIds
  let (unique,_) ← deduplicateExamples runtime records
  return unique

end Rendering

section Selection
variable (schemaMessage : Json → String)

def positiveCount : Option Json → Option ℤ
  | some (.int count) => if 0 < count then some count else none
  | _ => none

def validatedSelectionRecord (index : ℕ) (record : Json) : Py Unit := do
  let named := "foundation record " ++ toString index
  demand (isMapping record) (.valueError (named ++ " must be a mapping"))
  demand (record.finite && conformsRecord record) (.valueError (named ++ " schema is invalid: " ++ schemaMessage record))
  let counted := .valueError (named ++ " token counts must be positive")
  let promptTokens ← required counted (positiveCount (fieldAt record "tokenization" "prompt_tokens"))
  let targetTokens ← required counted (positiveCount (fieldAt record "tokenization" "target_tokens"))
  let totalTokens ← required counted (positiveCount (fieldAt record "tokenization" "total_tokens"))
  demand (promptTokens + targetTokens = totalTokens) (.valueError (named ++ " token total is inconsistent"))
  demand ((lookupField record "observations").any fun observations => (fieldAt observations "labels" "resolved").any isBool)
    (.valueError (named ++ " resolved labels are missing"))

def recordIdOf (record : Json) : String :=
  match lookupField record "record_id" with
  | some (.str recordId) => recordId
  | _ => ""

def totalTokensOf (record : Json) : ℤ := (positiveCount (fieldAt record "tokenization" "total_tokens")).getD 0

def isTrain (record : Json) : Bool :=
  decide (fieldAt record "split" "split_id" = some (.str "train")) &&
    decide (fieldAt record "split" "quarantine_id" = some .null) &&
      decide (fieldAt record "disposition" "terminal_role" = some (.str "train")) &&
        (fieldAt record "disposition" "gradient_eligibility").any (oneOf [.str "first_stage",.str "later"])

def isResolved (label : Bool) (record : Json) : Bool :=
  decide ((lookupField record "observations").bind (fieldAt · "labels" "resolved") = some (.bool label))

structure Chosen where
  selectedIds : List String
  totalTokens : ℤ

def fillCeiling (tokenCeiling : ℤ) (chosen : Chosen) (record : Json) : Chosen :=
  if recordIdOf record ∈ chosen.selectedIds then chosen
  else if chosen.totalTokens + totalTokensOf record ≤ tokenCeiling then
    ⟨recordIdOf record :: chosen.selectedIds,chosen.totalTokens + totalTokensOf record⟩
  else chosen

def trainRecords (records : List Json) : List Json :=
  (records.filter isTrain).mergeSort fun left right => recordIdOf left ≤ recordIdOf right

def selectCompleteRecords (tokenCeiling : ℤ) (records : List Json) : Py (List Json) := do
  demand (0 < tokenCeiling) (.valueError "token ceiling must be a positive integer")
  records.zipIdx.forM fun (record,index) => validatedSelectionRecord schemaMessage index record
  demand (decide (records.map recordIdOf).Nodup) (.valueError "foundation records contain a duplicate record_id")
  let train := trainRecords records
  let missing := .valueError "train records must include resolved and unresolved labels"
  let resolved ← required missing (train.find? (isResolved true))
  let unresolved ← required missing (train.find? (isResolved false))
  let anchored := ⟨[recordIdOf resolved,recordIdOf unresolved],totalTokensOf resolved + totalTokensOf unresolved⟩
  demand (anchored.totalTokens ≤ tokenCeiling) (.valueError "resolved/unresolved anchors exceed the token ceiling")
  let chosen := train.foldl (fillCeiling tokenCeiling) anchored
  return train.filter fun record => recordIdOf record ∈ chosen.selectedIds

end Selection

section Facts
variable {schemaMessage : Json → String} {tokenCeiling : ℤ} {records selection : List Json}

theorem mem_trainRecords {record : Json} : record ∈ trainRecords records ↔ record ∈ records ∧ isTrain record = true := by
  rw [trainRecords,List.mem_mergeSort,List.mem_filter]

theorem selected_train (h : selectCompleteRecords schemaMessage tokenCeiling records = .ok selection) {record : Json}
    (hrecord : record ∈ selection) : record ∈ records ∧ isTrain record = true := by
  simp only [selectCompleteRecords,bind_eq_ok,pure,Except.pure,Except.ok.injEq] at h
  obtain ⟨_,_,_,_,_,_,_,_,_,_,_,_,rfl⟩ := h
  exact mem_trainRecords.mp (List.mem_filter.mp hrecord).1

theorem positiveCount_pos {v : Option Json} {count : ℤ} (h : positiveCount v = some count) : 0 < count := by
  cases v with
  | none => cases h
  | some held =>
    cases held with
    | int held =>
      obtain ⟨hpositive,hheld⟩ := Option.ite_none_right_eq_some.mp h
      cases hheld
      exact hpositive
    | _ => cases h

theorem totalTokensOf_nonneg (record : Json) : 0 ≤ totalTokensOf record := by
  rw [totalTokensOf]
  cases h : positiveCount (fieldAt record "tokenization" "total_tokens") with
  | none => exact le_rfl
  | some count => exact (positiveCount_pos h).le

theorem sum_totalTokens_nonneg (train : List Json) : 0 ≤ (train.map totalTokensOf).sum :=
  List.sum_nonneg (List.forall_mem_map.mpr fun record _ => totalTokensOf_nonneg record)

theorem fillCeiling_all {train : List Json} {chosen : Chosen}
    (h : chosen.totalTokens + (train.map totalTokensOf).sum ≤ tokenCeiling) :
    (∀ recordId ∈ chosen.selectedIds, recordId ∈ (train.foldl (fillCeiling tokenCeiling) chosen).selectedIds) ∧
      ∀ record ∈ train, recordIdOf record ∈ (train.foldl (fillCeiling tokenCeiling) chosen).selectedIds := by
  induction train generalizing chosen with
  | nil => exact ⟨fun _ hmem => hmem,List.forall_mem_nil _⟩
  | cons record rest ih =>
    rw [List.map_cons,List.sum_cons] at h
    have hrest := sum_totalTokens_nonneg rest
    have hrecord := totalTokensOf_nonneg record
    have htaken : recordIdOf record ∈ (fillCeiling tokenCeiling chosen record).selectedIds ∧
        (∀ recordId ∈ chosen.selectedIds, recordId ∈ (fillCeiling tokenCeiling chosen record).selectedIds) ∧
        (fillCeiling tokenCeiling chosen record).totalTokens ≤ chosen.totalTokens + totalTokensOf record := by
      rw [fillCeiling]
      split
      · next hheld => exact ⟨hheld,fun _ hmem => hmem,by omega⟩
      · rw [if_pos (by omega)]
        exact ⟨List.mem_cons_self,fun _ hmem => List.mem_cons_of_mem _ hmem,le_rfl⟩
    obtain ⟨hself,hkept,htotal⟩ := htaken
    obtain ⟨hbefore,hall⟩ := @ih (fillCeiling tokenCeiling chosen record) (by omega)
    rw [List.foldl_cons]
    exact ⟨fun recordId hmem => hbefore recordId (hkept recordId hmem),
      List.forall_mem_cons.mpr ⟨hbefore _ hself,hall⟩⟩

theorem select_everything (h : selectCompleteRecords schemaMessage tokenCeiling records = .ok selection) :
    ∃ ceiling, selectCompleteRecords schemaMessage ceiling records = .ok (trainRecords records) := by
  simp only [selectCompleteRecords,bind_eq_ok,demand_eq_ok,decide_eq_true_eq] at h ⊢
  obtain ⟨_,hpositive,_,hvalid,_,hdistinct,resolved,hresolved,unresolved,hunresolved,_,hroom,_⟩ := h
  have hsum := sum_totalTokens_nonneg (trainRecords records)
  let ceiling := tokenCeiling + ((trainRecords records).map totalTokensOf).sum
  obtain ⟨_,hall⟩ := @fillCeiling_all ceiling (trainRecords records)
    ⟨[recordIdOf resolved,recordIdOf unresolved],totalTokensOf resolved + totalTokensOf unresolved⟩
    (Int.add_le_add_right hroom _)
  refine ⟨ceiling,(),by omega,(),hvalid,(),hdistinct,resolved,hresolved,unresolved,hunresolved,(),by omega,?_⟩
  rw [List.filter_eq_self.mpr fun record hrecord => decide_eq_true (hall record hrecord)]
  rfl

theorem select_some
    (hvalid : ∀ index, ∀ record ∈ records, validatedSelectionRecord schemaMessage index record = .ok ())
    (hdistinct : (records.map recordIdOf).Nodup)
    (hanchors : ∀ label, ∃ record ∈ records, isTrain record = true ∧ isResolved label record = true) :
    ∃ tokenCeiling selection, selectCompleteRecords schemaMessage tokenCeiling records = .ok selection := by
  have hanchor (label : Bool) : ∃ record, (trainRecords records).find? (isResolved label) = some record := by
    obtain ⟨record,hrecord,htrain,hlabel⟩ := hanchors label
    exact Option.isSome_iff_exists.mp (List.find?_isSome.mpr ⟨record,mem_trainRecords.mpr ⟨hrecord,htrain⟩,hlabel⟩)
  obtain ⟨resolved,hresolved⟩ := hanchor true
  obtain ⟨unresolved,hunresolved⟩ := hanchor false
  have hsome := totalTokensOf_nonneg resolved
  have hother := totalTokensOf_nonneg unresolved
  have hforM : (records.zipIdx.forM fun (entry : Json × ℕ) => validatedSelectionRecord schemaMessage entry.2 entry.1) = .ok () := by
    rw [forM_eq_ok]
    intro entry hentry
    exact hvalid entry.2 entry.1 (List.fst_mem_of_mem_zipIdx hentry)
  let anchored : Chosen := ⟨[recordIdOf resolved,recordIdOf unresolved],totalTokensOf resolved + totalTokensOf unresolved⟩
  let tokenCeiling := anchored.totalTokens + 1
  let chosen := (trainRecords records).foldl (fillCeiling tokenCeiling) anchored
  have hroom : 0 < tokenCeiling := Int.lt_add_one_of_le (Int.add_nonneg hsome hother)
  refine ⟨tokenCeiling,(trainRecords records).filter fun record => recordIdOf record ∈ chosen.selectedIds,?_⟩
  simp only [selectCompleteRecords,bind_eq_ok,demand_eq_ok,required_eq_ok,decide_eq_true_eq]
  exact ⟨(),hroom,(),hforM,(),hdistinct,resolved,hresolved,unresolved,hunresolved,(),(Int.lt_succ_self _).le,rfl⟩

end Facts

end PneumaLab.Preparation
