import PneumaLab.Preparation.Contamination
import PneumaLab.Preparation.Selection

namespace PneumaLab.Preparation

open Foundation Traces

section Identity

def invalidIdentity (message : String) : Raised := .dataAuthorizationError ("invalid foundation identity: " ++ message)

def identityFields : List String :=
  ["repo","issue_or_pr","task_id","base_commit","patch_sha256","test_patch_sha256","fuzzy_text_sha256"]

def hasIdentityFields : Json → Bool
  | .obj fields => identityFields.all (fun name => (fields.lookup name).isSome) &&
      fields.all (fun field => decide (field.1 ∈ identityFields))
  | _ => false

def nonemptyText : Option Json → Option {text : String // text ≠ ""}
  | some (.str text) => if h : text ≠ "" then some ⟨text,h⟩ else none
  | _ => none

def textOrNull (identity : Json) (field : String) : Py (Option String) :=
  match lookupField identity field with
  | some (.str text) => .ok (some text)
  | some .null => .ok none
  | _ => .error (invalidIdentity ("identity." ++ field ++ " must be a string or null"))

def identityFromFoundationRecord (record : Json) : Py IdentityRecord := do
  let source ← required (invalidIdentity "foundation record source must be a mapping")
    ((lookupField record "source").filter isMapping)
  let identity ← required (invalidIdentity "foundation record identity must be a mapping")
    ((lookupField record "identity").filter isMapping)
  demand (hasIdentityFields identity) (invalidIdentity "foundation record identity has missing or unknown fields")
  let family ← required (invalidIdentity "source.dataset_family must be a nonempty string")
    (nonemptyText (lookupField source "dataset_family"))
  let laneId ← required (invalidIdentity "source.lane_id must be a nonempty string")
    (nonemptyText (lookupField source "lane_id"))
  let repo ← textOrNull identity "repo"
  let issueOrPr ← textOrNull identity "issue_or_pr"
  let taskId ← textOrNull identity "task_id"
  let baseCommit ← textOrNull identity "base_commit"
  let patchSha256 ← textOrNull identity "patch_sha256"
  let testPatchSha256 ← textOrNull identity "test_patch_sha256"
  let fuzzyTextSha256 ← textOrNull identity "fuzzy_text_sha256"
  return ⟨family,laneId,repo,issueOrPr,taskId,baseCommit,patchSha256,testPatchSha256,fuzzyTextSha256,family.2,laneId.2⟩

variable (python : Interpreter) (schemaMessage : Json → String)

def normalizedText (value : Option String) : Json := .str ((value.bind (normalizeIdentityText python)).getD "")

def normalizedDigest (value : Option String) : Json := ((normalizeIdentityDigest python value).map Json.str).getD .null

def canonicalIdentity (identity : IdentityRecord) : Json := .obj [
  ("base_commit",normalizedText python identity.baseCommit),
  ("fuzzy_text_sha256",normalizedDigest python identity.fuzzyTextSha256),
  ("issue_or_pr",normalizedText python identity.issueOrPr),
  ("patch_sha256",normalizedDigest python identity.patchSha256),
  ("repo",normalizedText python identity.repo),
  ("task_id",normalizedText python identity.taskId),
  ("test_patch_sha256",normalizedDigest python identity.testPatchSha256)]

def dedupFingerprint (record : Json) : Py String := do
  validateExample schemaMessage record
  let identity ← identityFromFoundationRecord record
  return sha256Hex python (compactText (canonicalIdentity python identity))

end Identity

section Inventory
variable (python : Interpreter) (floatText : PyFloat → String) (schemaMessage : Json → String)

structure InventoryRow where
  datasetFamily : String
  laneId : String
  repo : String
  issue : String
  language : String
  tools : List String
  resolved : Bool
  trajectoryLength : Number
  totalTokens : Number
  targets : List String

def heldAt (record : Json) (outer inner : String) : Py Json := required (.keyError inner) (fieldAt record outer inner)

def textAt (record : Json) (outer inner : String) : Py String := do
  match ← heldAt record outer inner with
  | .str text => return text
  | _ => .error (.typeError "unhashable or unorderable inventory value")

def numberAt (record : Json) (outer inner : String) : Py Number := do
  match ← heldAt record outer inner with
  | .int value => return .int value
  | .float text => return .float (.ofRat (floatValue text.toList))
  | _ => .error (.typeError "unsupported operand type(s) for +=")

def identityText (record : Json) (field : String) : Py (Option String) := do
  match ← heldAt record "identity" field with
  | .str text => return normalizeIdentityText python text
  | .null => return none
  | _ => .error (.typeError "identity value must be a string or null")

def toolNames (record : Json) : Py (List String) := do
  match ← heldAt record "observations" "tools" with
  | .arr items => return items.filterMap fun item =>
      match item with
      | .str name => some name
      | _ => none
  | _ => .error (.typeError "object is not iterable")

def applicableTargets (record : Json) : List String :=
  match lookupField record "forecast_targets" with
  | some (.obj targets) => targets.filterMap fun target =>
      if lookupField target.2 "applicable" = some (.bool true) then some target.1 else none
  | _ => []

def inventoryRow (record : Json) : Py InventoryRow := do
  validateExample schemaMessage record
  let datasetFamily ← textAt record "source" "dataset_family"
  let laneId ← textAt record "source" "lane_id"
  let repo ← identityText python record "repo"
  let issueOrPr ← identityText python record "issue_or_pr"
  let taskId ← identityText python record "task_id"
  let language ← textAt record "observations" "language"
  let tools ← toolNames record
  let labels ← heldAt record "observations" "labels"
  let trajectoryLength ← numberAt record "observations" "trajectory_length"
  let totalTokens ← numberAt record "tokenization" "total_tokens"
  return {
    datasetFamily,laneId,language,tools,trajectoryLength,totalTokens
    repo := repo.getD "unknown"
    issue := (issueOrPr <|> taskId).getD "unknown"
    resolved := decide (lookupField labels "resolved" = some (.bool true))
    targets := applicableTargets record}

def plus : Number → Number → Py Number
  | .int x,.int y => .ok (.int (x + y))
  | x,y => do return .float ((← x.toFloat).add (← y.toFloat))

def rationalOf : Number → ℚ
  | .int value => value
  | .float (.finite value _) => value
  | .float _ => 0

-- statistics.fmean over finite nonnegative counts, fsum rounding their exact sum once
def fmean (counts : List Number) : Py PyFloat := do
  let floats ← counts.mapM Number.toFloat
  let total := PyFloat.ofRat ((floats.map fun x => rationalOf (.float x)).sum)
  demand (!total.isInfinite) (.overflowError "intermediate overflow in fsum")
  return .ofRat (rationalOf (.float total) / counts.length)

def numberJson : Number → Json
  | .int value => .int value
  | .float value => .float (floatText value)

def least : List Number → Number
  | [] => .int 0
  | first :: rest => rest.foldl (fun best count => if rationalOf count < rationalOf best then count else best) first

def greatest : List Number → Number
  | [] => .int 0
  | first :: rest => rest.foldl (fun best count => if rationalOf best < rationalOf count then count else best) first

def counterJson (names : List String) : Json := .obj ((toolCounts names).map fun count => (count.1,.int count.2))

def trajectoryLengthJson (lengths : List Number) : Py Json := do
  let mean ← if lengths.isEmpty then pure PyFloat.zero else fmean lengths
  return .obj [
    ("max",numberJson floatText (greatest lengths)),
    ("mean",.float (floatText mean)),
    ("min",numberJson floatText (least lengths))]

def buildDiversityInventory (examples : List Json) : Py Inventory := do
  let rows ← examples.mapM (inventoryRow python schemaMessage)
  let tokenCount ← (rows.map InventoryRow.totalTokens).foldlM plus (.int 0)
  let trajectoryLength ← trajectoryLengthJson floatText (rows.map InventoryRow.trajectoryLength)
  return ⟨tokenCount,.obj [
    ("dataset_families",counterJson (rows.map InventoryRow.datasetFamily)),
    ("example_count",.int examples.length),
    ("forecast_targets",counterJson (rows.flatMap InventoryRow.targets)),
    ("issue_count",.int (rows.map fun row => (row.repo,row.issue)).dedup.length),
    ("labels",counterJson (rows.map fun row => if row.resolved then "resolved" else "unresolved")),
    ("lanes",counterJson (rows.map InventoryRow.laneId)),
    ("languages",counterJson (rows.map InventoryRow.language)),
    ("repository_count",.int (rows.map InventoryRow.repo).dedup.length),
    ("token_count",numberJson floatText tokenCount),
    ("tools",counterJson (rows.flatMap InventoryRow.tools)),
    ("trajectory_length",trajectoryLength)]⟩

structure Storage where
  floatRepr : String → String
  validateOutputPath : Py Unit
  bindArtifactPublication : Py Unit

def shardRuntime (storage : Storage) : ShardRuntime where
  sha256 := python.sha256
  floatRepr := storage.floatRepr
  schemaMessage
  dedupFingerprint := dedupFingerprint python schemaMessage
  buildDiversityInventory := buildDiversityInventory python floatText schemaMessage
  validateOutputPath := storage.validateOutputPath
  bindArtifactPublication := storage.bindArtifactPublication

end Inventory

section Facts
variable {python : Interpreter} {floatText : PyFloat → String} {schemaMessage : Json → String} {record : Json}

theorem closedObject_field {properties : List (String × (Json → Bool))} {v : Json} (h : closedObject properties v = true) :
    ∀ property ∈ properties, ∃ w, lookupField v property.1 = some w ∧ property.2 w = true := by
  intro property hproperty
  cases v with
  | obj fields =>
    rw [closedObject,Bool.and_eq_true,List.all_eq_true] at h
    have hchecked := h.1 property hproperty
    cases hlookup : fields.lookup property.1 with
    | none =>
      rw [hlookup] at hchecked
      cases hchecked
    | some w =>
      rw [hlookup] at hchecked
      exact ⟨w,hlookup,hchecked⟩
  | _ => cases h

theorem fieldAt_eq {outer inner : String} {held w : Json} (houter : lookupField record outer = some held)
    (hinner : lookupField held inner = some w) : fieldAt record outer inner = some w := by
  rw [fieldAt,houter,Option.bind_some,hinner]

-- The fields of a valid record that an inventory reads, with what the schema says of each.
structure Inventoried (record : Json) : Prop where
  family : ∃ w, fieldAt record "source" "dataset_family" = some w ∧ isNonemptyText w = true
  lane : ∃ w, fieldAt record "source" "lane_id" = some w ∧ isNonemptyText w = true
  repo : ∃ w, fieldAt record "identity" "repo" = some w ∧ orNull isText w = true
  issue : ∃ w, fieldAt record "identity" "issue_or_pr" = some w ∧ orNull isText w = true
  task : ∃ w, fieldAt record "identity" "task_id" = some w ∧ orNull isText w = true
  language : ∃ w, fieldAt record "observations" "language" = some w ∧ isNonemptyText w = true
  tools : ∃ w, fieldAt record "observations" "tools" = some w ∧ isSetOf isText w = true
  labels : ∃ w, fieldAt record "observations" "labels" = some w ∧ closedObject [("resolved",isBool)] w = true
  length : ∃ w, fieldAt record "observations" "trajectory_length" = some w ∧ isCount w = true
  tokens : ∃ w, fieldAt record "tokenization" "total_tokens" = some w ∧ isCount w = true

theorem conformsRecord_inventoried (h : conformsRecord record = true) : Inventoried record := by
  have hfields := closedObject_field h
  simp only [List.forall_mem_cons] at hfields
  obtain ⟨-,-,-,⟨source,hsource,hsourceFields⟩,-,⟨identity,hidentity,hidentityFields⟩,-,-,
    ⟨tokenization,htokenization,htokens⟩,-,-,⟨observations,hobservations,hobserved⟩,-⟩ := hfields
  replace hsourceFields := closedObject_field hsourceFields
  replace hidentityFields := closedObject_field hidentityFields
  replace htokens := closedObject_field htokens
  replace hobserved := closedObject_field hobserved
  simp only [List.forall_mem_cons] at hsourceFields hidentityFields htokens hobserved
  obtain ⟨⟨family,hfamily,hfamilyText⟩,⟨lane,hlane,hlaneText⟩,-⟩ := hsourceFields
  obtain ⟨⟨repo,hrepo,hrepoText⟩,⟨issue,hissue,hissueText⟩,⟨task,htask,htaskText⟩,-⟩ := hidentityFields
  obtain ⟨-,-,-,-,⟨total,htotal,hcount⟩,-⟩ := htokens
  obtain ⟨⟨language,hlanguage,hlanguageText⟩,⟨tools,htools,htoolSet⟩,⟨length,hlength,hlengthCount⟩,⟨labels,hlabels,hresolved⟩,-⟩ :=
    hobserved
  exact {
    family := ⟨family,fieldAt_eq hsource hfamily,hfamilyText⟩
    lane := ⟨lane,fieldAt_eq hsource hlane,hlaneText⟩
    repo := ⟨repo,fieldAt_eq hidentity hrepo,hrepoText⟩
    issue := ⟨issue,fieldAt_eq hidentity hissue,hissueText⟩
    task := ⟨task,fieldAt_eq hidentity htask,htaskText⟩
    language := ⟨language,fieldAt_eq hobservations hlanguage,hlanguageText⟩
    tools := ⟨tools,fieldAt_eq hobservations htools,htoolSet⟩
    labels := ⟨labels,fieldAt_eq hobservations hlabels,hresolved⟩
    length := ⟨length,fieldAt_eq hobservations hlength,hlengthCount⟩
    tokens := ⟨total,fieldAt_eq htokenization htotal,hcount⟩}

theorem textAt_ok {outer inner : String} (h : ∃ w, fieldAt record outer inner = some w ∧ isNonemptyText w = true) :
    ∃ text, textAt record outer inner = .ok text := by
  obtain ⟨w,hheld,htext⟩ := h
  rw [textAt,heldAt,hheld]
  cases w with
  | str text => exact ⟨text,rfl⟩
  | _ => cases htext

theorem numberAt_ok {outer inner : String} (h : ∃ w, fieldAt record outer inner = some w ∧ isCount w = true) :
    ∃ count, numberAt record outer inner = .ok count := by
  obtain ⟨w,hheld,hcount⟩ := h
  rw [numberAt,heldAt,hheld]
  cases w with
  | int value => exact ⟨.int value,rfl⟩
  | float text => exact ⟨.float (.ofRat (floatValue text.toList)),rfl⟩
  | _ => cases hcount

theorem identityText_ok {field : String} (h : ∃ w, fieldAt record "identity" field = some w ∧ orNull isText w = true) :
    ∃ text, identityText python record field = .ok text := by
  obtain ⟨w,hheld,htext⟩ := h
  rw [identityText,heldAt,hheld]
  cases w with
  | str text => exact ⟨normalizeIdentityText python text,rfl⟩
  | null => exact ⟨none,rfl⟩
  | _ => cases htext

theorem toolNames_ok (h : ∃ w, fieldAt record "observations" "tools" = some w ∧ isSetOf isText w = true) :
    ∃ names, toolNames record = .ok names := by
  obtain ⟨w,hheld,htools⟩ := h
  rw [toolNames,heldAt,hheld]
  cases w with
  | arr items => exact ⟨_,rfl⟩
  | _ => cases htools

theorem validateExample_conforms (h : validateExample schemaMessage record = .ok ()) : conformsRecord record = true := by
  simp only [validateExample,validateFoundationRecord,bind_eq_ok,demand_eq_ok] at h
  obtain ⟨_,_,_,_,_,_,_,_,_,_,h⟩ := h
  exact h

def trajectoryLengthOf (record : Json) : Number := ((numberAt record "observations" "trajectory_length").toOption).getD (.int 0)

theorem inventoryRow_ok (h : validateExample schemaMessage record = .ok ()) :
    ∃ row, inventoryRow python schemaMessage record = .ok row ∧ row.trajectoryLength = trajectoryLengthOf record ∧
      numberAt record "tokenization" "total_tokens" = .ok row.totalTokens := by
  have hfields := conformsRecord_inventoried (validateExample_conforms h)
  obtain ⟨family,hfamily⟩ := textAt_ok hfields.family
  obtain ⟨lane,hlane⟩ := textAt_ok hfields.lane
  obtain ⟨repo,hrepo⟩ := @identityText_ok python _ _ hfields.repo
  obtain ⟨issue,hissue⟩ := @identityText_ok python _ _ hfields.issue
  obtain ⟨task,htask⟩ := @identityText_ok python _ _ hfields.task
  obtain ⟨language,hlanguage⟩ := textAt_ok hfields.language
  obtain ⟨tools,htools⟩ := toolNames_ok hfields.tools
  obtain ⟨labels,hlabels,_⟩ := hfields.labels
  obtain ⟨length,hlength⟩ := numberAt_ok hfields.length
  obtain ⟨tokens,htokens⟩ := numberAt_ok hfields.tokens
  have hheld : heldAt record "observations" "labels" = .ok labels := by rw [heldAt,hlabels,required]
  have hread : trajectoryLengthOf record = length := by
    rw [trajectoryLengthOf,hlength]
    rfl
  rw [inventoryRow,h,hfamily,hlane,hrepo,hissue,htask,hlanguage,htools,hheld,hlength,htokens]
  exact ⟨_,rfl,hread.symm,rfl⟩

theorem plus_ints (counts : List ℤ) (total : ℤ) :
    (counts.map Number.int).foldlM plus (.int total) = (.ok (.int (total + counts.sum)) : Py Number) := by
  induction counts generalizing total with
  | nil =>
    rw [List.sum_nil,add_zero]
    rfl
  | cons count rest ih =>
    rw [List.map_cons,List.foldlM_cons,List.sum_cons,← add_assoc,← ih]
    rfl

theorem inventoryRows_ok {examples : List Json} (hvalid : ∀ record ∈ examples, validateExample schemaMessage record = .ok ())
    (htokens : ∀ record ∈ examples, numberAt record "tokenization" "total_tokens" = .ok (.int (totalTokensOf record))) :
    ∃ rows, examples.mapM (inventoryRow python schemaMessage) = .ok rows ∧
      rows.map InventoryRow.trajectoryLength = examples.map trajectoryLengthOf ∧
        rows.map InventoryRow.totalTokens = (examples.map totalTokensOf).map Number.int := by
  induction examples with
  | nil => exact ⟨[],rfl,rfl,rfl⟩
  | cons record rest ih =>
    obtain ⟨hrecord,hrest⟩ := List.forall_mem_cons.mp hvalid
    obtain ⟨htoken,htokenRest⟩ := List.forall_mem_cons.mp htokens
    obtain ⟨rows,hrows,hlengths,htotals⟩ := ih hrest htokenRest
    obtain ⟨row,hrow,hlength,htotal⟩ := @inventoryRow_ok python _ _ hrecord
    have hsame : row.totalTokens = .int (totalTokensOf record) := Except.ok.inj (htotal.symm.trans htoken)
    refine ⟨row :: rows,?_,?_,?_⟩
    · rw [List.mapM_cons,hrow,hrows]
      rfl
    · rw [List.map_cons,List.map_cons,hlength,hlengths]
    · rw [List.map_cons,List.map_cons,List.map_cons,hsame,htotals]

theorem buildDiversityInventory_eq {examples : List Json} (hne : examples ≠ [])
    (hvalid : ∀ record ∈ examples, validateExample schemaMessage record = .ok ())
    (htokens : ∀ record ∈ examples, numberAt record "tokenization" "total_tokens" = .ok (.int (totalTokensOf record))) :
    ∃ fields : PyFloat → Json, buildDiversityInventory python floatText schemaMessage examples =
      (fmean (examples.map trajectoryLengthOf)).map fun mean => ⟨.int (examples.map totalTokensOf).sum,fields mean⟩ := by
  obtain ⟨rows,hrows,hlengths,htotals⟩ := @inventoryRows_ok python _ _ hvalid htokens
  have hsome : (examples.map trajectoryLengthOf).isEmpty = false := by
    rw [List.isEmpty_eq_false_iff]
    exact fun h => hne (List.map_eq_nil_iff.mp h)
  simp only [buildDiversityInventory,hrows,ok_bind,htotals,plus_ints,hlengths,trajectoryLengthJson,hsome,zero_add]
  cases fmean (examples.map trajectoryLengthOf) with
  | error error => exact ⟨fun _ => .null,rfl⟩
  | ok mean => exact ⟨fun _ => _,rfl⟩

end Facts

end PneumaLab.Preparation
