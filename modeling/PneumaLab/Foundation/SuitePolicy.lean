import PneumaLab.Foundation.PurePaths
import PneumaLab.Library.Json

namespace PneumaLab.Foundation.Suite

section Policy

def insist (condition : Bool) (message : String) : Except String Unit := if condition then .ok () else .error message

abbrev Fields := List (String × Json)

def fieldsOf : Json → Option Fields
  | .obj fields => some fields
  | _ => none

def objectOf (v : Json) (message : String) : Except String Fields :=
  match fieldsOf v with
  | some fields => .ok fields
  | none => .error message

def textOf : Json → Option String
  | .str text => some text
  | _ => none

def sameDict (left right : Fields) : Bool :=
  decide (left.length = right.length ∧ ∀ field ∈ right, left.lookup field.1 = some field.2)

structure FamilyRow where
  family : String
  role : String
  gradient : String
  access : String
  access500k : String
  access2m : String
  access8m : String
  identityPath : Option String

def metadataOnly (family role gradient : String) : FamilyRow :=
  ⟨family,role,gradient,"metadata_only","metadata_only","metadata_only","metadata_only",none⟩

def identityOnly (family gradient identityPath : String) : FamilyRow :=
  ⟨family,"eval",gradient,"identity_metadata_only","identity_metadata_only","identity_metadata_only",
    "identity_metadata_only",some identityPath⟩

def expectedFamilyMatrix : List FamilyRow := [
  metadataOnly "multi-swe-bench" "train" "later",
  ⟨"open-swe-traces","train","later","metadata_only","metadata_only","approved_processed_lane_only",
    "approved_processed_lane_only",none⟩,
  metadataOnly "sec-bench-pro" "governance" "never",
  identityOnly "swe-bench" "never" "processed/swe-bench/normalized_metadata.jsonl",
  metadataOnly "swe-bench-pro" "eval" "never",
  metadataOnly "swe-chat" "governance" "never",
  metadataOnly "swe-evo" "train" "later",
  ⟨"swe-gym","train","first_stage","approved_processed_lane_only","approved_processed_lane_only",
    "approved_processed_lane_only","approved_processed_lane_only",none⟩,
  identityOnly "swe-mera" "never" "processed/swe-mera/normalized_metadata.jsonl",
  identityOnly "swe-polybench" "later" "processed/swe-polybench/normalized_metadata.jsonl"]

def activeDatasetGroups : List String := [
  "multi-swe-bench","open-swe-traces","sec-bench-pro","swe-bench","swe-bench-pro","swe-chat","swe-evo","swe-gym",
  "swe-mera","swe-polybench"]

structure ApprovedLane where
  laneId : String
  root : List String

def approvedLaneTable (family : String) : Option ApprovedLane :=
  if family = "swe-gym" then some ⟨"swe-gym-openhands-sampled",["processed","swe-gym","openhands-sampled"]⟩
  else if family = "open-swe-traces" then some ⟨"open-swe-traces",["processed","open-swe-traces","pneuma-trace"]⟩
  else none

def expectedPolicyOrder : List String :=
  ["manifest_kind","manifest_schema_version","first_stage","evaluation_identity","families"]

def textList (texts : List String) : Json := .arr (texts.map .str)

def expectedEvaluationIdentity : Fields := [
  ("required_families",textList ["swe-bench","swe-mera","swe-polybench"]),
  ("blocked_unavailable_families",textList ["swe-bench-pro"])]

def FamilyRow.item (row : FamilyRow) : Fields :=
  [("family",.str row.family),
    ("terminal_role",.str row.role),
    ("gradient_eligibility",.str row.gradient),
    ("payload_access_100k",.str row.access),
    ("payload_access_500k",.str row.access500k),
    ("payload_access_2m",.str row.access2m),
    ("payload_access_8m",.str row.access8m)] ++
  match row.identityPath with
  | some path => [("identity_metadata_relative_path",.str path)]
  | none => []

def policyEntries (fields : Fields) : Except String (List Fields) :=
  match fields.lookup "families" with
  | some (.arr items) =>
    match items.mapM fieldsOf with
    | some entries => .ok entries
    | none => .error "suite policy family entries must be objects"
  | _ => .error "suite policy families must be a list"

def familyName (item : Fields) : Except String String :=
  match (item.lookup "family").bind textOf with
  | some family => do
    insist (family ≠ "") "suite policy family names must be non-empty strings"
    return family
  | none => .error "suite policy family names must be non-empty strings"

def matchesMatrix (entry : Fields × FamilyRow) : Except String Unit :=
  insist (sameDict entry.1 entry.2.item && entry.1.all fun field => (textOf field.2).isSome)
    (entry.2.family ++ " must match the exact policy matrix")

def validatedFirstStage (firstStage : Json) : Except String Unit := do
  let fields ← objectOf firstStage "suite policy first stage must be an object"
  insist (decide (fields.length = 2) && (fields.lookup "stage").isSome &&
      (fields.lookup "authorized_lane_candidates").isSome)
    "suite policy first-stage authorized lane candidates or stage are missing"
  insist (decide (fields.lookup "stage" = some (.str "100k"))) "suite policy first stage must be 100k"
  insist (decide (fields.lookup "authorized_lane_candidates" = some (textList ["swe-gym-openhands-sampled"])))
    "suite first-stage authorized lane candidates may nominate only the OpenHands Sampled lane"

def validatedFamilyMap (policy : Json) : Except String (List (String × Fields)) := do
  let fields ← objectOf policy "suite policy must be a mapping"
  insist (decide (fields.map Prod.fst = expectedPolicyOrder)) "suite policy manifest has missing or extra fields"
  insist (decide (fields.lookup "manifest_kind" = some (.str "pneuma_foundation_dataset_suite")))
    "suite policy manifest_kind is invalid"
  insist (decide (fields.lookup "manifest_schema_version" = some (.str "0.1.0")))
    "suite policy manifest_schema_version is invalid"
  let identityMessage :=
    "suite policy evaluation identity must match the exact required and blocked/unavailable family lists"
  let identity ← objectOf ((fields.lookup "evaluation_identity").getD .null) identityMessage
  insist (decide (identity.map Prod.fst = expectedEvaluationIdentity.map Prod.fst) &&
      sameDict identity expectedEvaluationIdentity)
    identityMessage
  let entries ← policyEntries fields
  let families ← entries.mapM familyName
  insist (decide (families.length = 10 ∧ families ⊆ activeDatasetGroups ∧ activeDatasetGroups ⊆ families))
    "suite policy must contain each active family exactly once"
  insist (decide (families = activeDatasetGroups)) "suite policy families must use documented order"
  (entries.zip expectedFamilyMatrix).forM matchesMatrix
  validatedFirstStage ((fields.lookup "first_stage").getD .null)
  return families.zip entries

end Policy

section Request
variable (flavour : Flavour)

def lexicalDataRelativeParts (rawPath : String) : Option (List String) :=
  let rawParts := (splitText separated rawPath).filter (· ≠ "")
  let relativeParts := rawParts.drop (rawParts.idxOf "processed")
  if rawParts = [] ∨ "." ∈ rawParts ∨ ".." ∈ rawParts then none
  else if rawParts.count "processed" ≠ 1 then none
  else if 0 < rawParts.idxOf "processed" ∧ flavour.isAbsolute (flavour.parse rawPath) = false then none
  else if ∃ part ∈ relativeParts, '\x00' ∈ part.toList ∨ ':' ∈ part.toList then none
  else some relativeParts

structure Request where
  policy : Json
  stage : String
  family : String
  laneId : Option String
  dataRoot : String
  path : String

structure Allowance where
  relativeRoot : List String
  exact : Bool

def Allowance.under {flavour : Flavour} (allowance : Allowance) (root : flavour.Path) : flavour.Path :=
  flavour.join root allowance.relativeRoot

def approvedLane (request : Request) (access : String) : Option ApprovedLane :=
  match approvedLaneTable request.family, lexicalDataRelativeParts flavour request.path with
  | some lane, some parts =>
    if access = "approved_processed_lane_only" ∧ request.laneId = some lane.laneId ∧
        parts.take lane.root.length = lane.root then some lane
    else none
  | _, _ => none

def identityMetadata (request : Request) (item : Fields) (access : String) : Option String :=
  match (item.lookup "identity_metadata_relative_path").bind textOf, lexicalDataRelativeParts flavour request.path with
  | some identityPath, some parts =>
    if access = "identity_metadata_only" ∧ parts = splitText (· == '/') identityPath then some identityPath else none
  | _, _ => none

def requestItem (repr : String → String) (request : Request) : Except String Fields := do
  let families ← validatedFamilyMap request.policy
  insist (decide (request.stage ≠ "")) "stage must be a non-empty string"
  insist (decide (request.family ≠ "")) "family must be a non-empty string"
  match families.lookup request.family with
  | some item => .ok item
  | none => .error ("unknown suite family: " ++ repr request.family)

def requestAccess (repr : String → String) (request : Request) (item : Fields) : Except String String :=
  match (item.lookup ("payload_access_" ++ request.stage)).bind textOf with
  | some access => .ok access
  | none => .error ("unknown or unsupported suite stage: " ++ repr request.stage)

def requestAllowance (request : Request) (item : Fields) (access : String) : Except String Allowance :=
  match approvedLane flavour request access with
  | some lane => .ok ⟨lane.root,false⟩
  | none =>
    match identityMetadata flavour request item access with
    | some identityPath => .ok ⟨splitText (· == '/') identityPath,true⟩
    | none => .error (request.family ++ " is metadata-only for stage " ++ request.stage)

end Request

section Permissions
variable (repr : String → String) (request : Request)

def Granted (access : String) (item : Fields) : Prop :=
  ∃ families, validatedFamilyMap request.policy = .ok families ∧ families.lookup request.family = some item ∧
    item.lookup ("payload_access_" ++ request.stage) = some (.str access)

def Permitted (access : String) (item : Fields) (allowance : Allowance) : Prop :=
  (∃ lane, access = "approved_processed_lane_only" ∧ approvedLaneTable request.family = some lane ∧
    request.laneId = some lane.laneId ∧ allowance = ⟨lane.root,false⟩) ∨
  ∃ identityPath, access = "identity_metadata_only" ∧
    item.lookup "identity_metadata_relative_path" = some (.str identityPath) ∧
    allowance = ⟨splitText (· == '/') identityPath,true⟩

theorem textOf_eq {v : Option Json} {text : String} (h : v.bind textOf = some text) : v = some (.str text) := by
  obtain ⟨json,rfl,hjson⟩ := Option.bind_eq_some_iff.mp h
  cases json <;> simp_all [textOf]

theorem requestAllowance_permitted {item : Fields} {access : String} {allowance : Allowance}
    {flavour : Flavour} (h : requestAllowance flavour request item access = .ok allowance) : Permitted request access item allowance := by
  rw [requestAllowance] at h
  split at h
  · next lane hlane =>
    cases h
    rw [approvedLane] at hlane
    split at hlane
    · next lane' parts htable _ =>
      split at hlane
      · next hgranted =>
        cases hlane
        exact .inl ⟨lane,hgranted.1,htable,hgranted.2.1,rfl⟩
      · cases hlane
    · cases hlane
  · split at h
    · next identityPath hidentity =>
      cases h
      rw [identityMetadata] at hidentity
      split at hidentity
      · next path parts hpath _ =>
        split at hidentity
        · next hgranted =>
          cases hidentity
          exact .inr ⟨identityPath,hgranted.1,textOf_eq hpath,rfl⟩
        · cases hidentity
      · cases hidentity
    · cases h

theorem requestItem_validated {item : Fields} (h : requestItem repr request = .ok item) :
    ∃ families, validatedFamilyMap request.policy = .ok families ∧ families.lookup request.family = some item := by
  simp only [requestItem,bind,Except.bind] at h
  split at h
  · cases h
  · next families hfamilies =>
    refine ⟨families,hfamilies,?_⟩
    split at h
    · cases h
    · split at h
      · cases h
      · split at h
        · next hitem =>
          cases h
          exact hitem
        · cases h

theorem requestAccess_granted {item : Fields} {access : String} (h : requestAccess repr request item = .ok access) :
    item.lookup ("payload_access_" ++ request.stage) = some (.str access) := by
  rw [requestAccess] at h
  split at h
  · next hbind =>
    cases h
    exact textOf_eq hbind
  · cases h

end Permissions

end PneumaLab.Foundation.Suite
