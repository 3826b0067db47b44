import PneumaLab.Library.Bytes
import PneumaLab.Library.Values

namespace PneumaLab.Cloud

def microsecondsPerDay : ℤ := 86400000000

def lastInstant : ℤ := 315537897599999999

def astimezoneUtc (instant : ℤ) : Py ℤ :=
  if 0 ≤ instant ∧ instant ≤ lastInstant then .ok instant else .error (.overflowError "date value out of range")

structure OperatorApproval where
  approvalId : String
  approvedBy : String
  statement : String
  deriving DecidableEq

structure UnattendedPolicy where
  recordKind : String
  schemaVersion : String
  policyId : String
  status : String
  providers : List String
  allowedActionClasses : List String
  rollingWindowDays : ℤ
  rollingCeilingUsd : ℚ
  perJobCeilingUsd : ℚ
  maxRetriesPerJob : ℤ
  validFrom : String
  expiresAt : String
  operatorApproval : Option OperatorApproval
  deriving DecidableEq

namespace UnattendedPolicy
variable (policy : UnattendedPolicy)

-- cloud-unattended-spend-policy.schema.json
def conforms : Bool :=
  decide (policy.recordKind = "cloud_unattended_spend_policy") && decide (policy.schemaVersion = "0.1.0") &&
  decide (policy.policyId ≠ "") && decide (policy.status ∈ ["candidate","active","revoked"]) &&
  decide (policy.providers ≠ []) && decide policy.providers.Nodup &&
  policy.providers.all (fun provider => decide (provider ∈ ["openai","aws","azure"])) &&
  decide (policy.allowedActionClasses ≠ []) && decide policy.allowedActionClasses.Nodup &&
  policy.allowedActionClasses.all (fun action =>
    decide (action ∈ ["bounded_retrieval","non_scientific_smoke","bounded_api_pilot"])) &&
  decide (policy.rollingWindowDays = 30) &&
  decide (0 < policy.rollingCeilingUsd ∧ policy.rollingCeilingUsd ≤ 25) &&
  decide (0 < policy.perJobCeilingUsd ∧ policy.perJobCeilingUsd ≤ 5) &&
  decide (0 ≤ policy.maxRetriesPerJob ∧ policy.maxRetriesPerJob ≤ 2) &&
  policy.operatorApproval.all (fun approval =>
    decide (approval.approvalId ≠ "" ∧ approval.approvedBy ≠ "" ∧ approval.statement ≠ "")) &&
  decide (policy.operatorApproval = none ↔ policy.status = "candidate")

def twoPlaces (amount : ℚ) : String :=
  let cents := (Rounding.halfEven (amount * 100)).toNat
  let places := toString (cents % 100)
  toString (cents / 100) ++ "." ++ (if cents % 100 < 10 then "0" ++ places else places)

def summary : String :=
  "Allow " ++ ", ".intercalate policy.allowedActionClasses ++ " on " ++ ", ".intercalate policy.providers ++
    ", up to USD " ++ twoPlaces policy.perJobCeilingUsd ++ " per job and USD " ++
    twoPlaces policy.rollingCeilingUsd ++ " per " ++ toString policy.rollingWindowDays ++ " days, until " ++
    policy.expiresAt ++ "."

def window : ℤ := policy.rollingWindowDays * microsecondsPerDay

end UnattendedPolicy

-- Instants count microseconds from the first one a datetime can hold.
structure Runtime where
  fromisoformat : String → Option (Option ℤ)
  isoformat : ℤ → String
  schemaMessage : UnattendedPolicy → String
  policySha256 : UnattendedPolicy → String
  requestSha256 : Mapping → Py String

def parseTimestamp (runtime : Runtime) (value : Value) (field : String) : Py ℤ := do
  let text ← required (.cloudManifestError (field ++ " must be an RFC3339 timestamp")) value.asText
  let parsed ← required (.cloudManifestError (field ++ " must be an RFC3339 timestamp"))
    (runtime.fromisoformat (replaceText text "Z" "+00:00"))
  let instant ← required (.cloudManifestError (field ++ " must include a timezone")) parsed
  astimezoneUtc instant

def validateUnattendedPolicy (runtime : Runtime) (policy : UnattendedPolicy) : Py UnattendedPolicy := do
  demand (decide (policy.recordKind = "cloud_unattended_spend_policy"))
    (.cloudManifestError "record_kind must be 'cloud_unattended_spend_policy'")
  demand policy.conforms (.cloudManifestError (runtime.schemaMessage policy))
  let starts ← parseTimestamp runtime (.str policy.validFrom) "valid_from"
  let expires ← parseTimestamp runtime (.str policy.expiresAt) "expires_at"
  demand (decide (starts < expires)) (.cloudManifestError "policy expiry must follow activation")
  demand (decide (policy.perJobCeilingUsd ≤ policy.rollingCeilingUsd))
    (.cloudManifestError "per-job ceiling cannot exceed rolling ceiling")
  demand (policy.operatorApproval.all fun approval => decide (approval.statement = policy.summary))
    (.cloudManifestError "operator approval must equal the complete readable policy summary")
  return policy

def scientificActions : List String :=
  ["canonical_experiment","scientific_replication","training","result_promotion"]

structure Job where
  instant : ℤ
  projected : Number
  binding : String

def permitted (names : List String) : Value → Bool
  | .str name => decide (name ∈ names)
  | _ => false

def requireCurrent (runtime : Runtime) (checked : UnattendedPolicy) (instant : ℤ) : Py Unit := do
  demand (decide (checked.status = "active") && checked.operatorApproval.isSome)
    (.cloudManifestError "unattended policy is not active")
  let starts ← parseTimestamp runtime (.str checked.validFrom) "valid_from"
  let expires ← parseTimestamp runtime (.str checked.expiresAt) "expires_at"
  demand (decide (starts ≤ instant ∧ instant < expires))
    (.cloudManifestError "unattended policy is not currently valid")

def requireRetries (checked : UnattendedPolicy) (retries : Value) : Py Unit :=
  match retries with
  | .int count => demand (decide (0 ≤ count ∧ count ≤ checked.maxRetriesPerJob))
      (.cloudManifestError "job retry count exceeds unattended policy")
  | _ => .error (.cloudManifestError "job retry count exceeds unattended policy")

def requireRequest (checked : UnattendedPolicy) (request : Mapping) : Py (Number × String) := do
  demand (permitted checked.providers (request.get "provider"))
    (.cloudManifestError "provider is outside unattended authority")
  demand (request.get "action_class").hashable (.typeError "unhashable type")
  demand (!permitted scientificActions (request.get "action_class") &&
      permitted checked.allowedActionClasses (request.get "action_class"))
    (.cloudManifestError "action class requires separate human-readable authority")
  let projected ← required (.cloudManifestError "projected cost must be positive")
    (request.get "projected_cost_usd").asNumber
  demand (!projected.le 0) (.cloudManifestError "projected cost must be positive")
  demand (!projected.gt checked.perJobCeilingUsd)
    (.cloudManifestError "job exceeds unattended per-job ceiling")
  requireRetries checked (request.get "retry_count")
  let binding ← required (.cloudManifestError "job inputs require an internal SHA-256 binding")
    (request.get "input_binding_sha256").asText
  demand (isSha256 binding) (.cloudManifestError "job inputs require an internal SHA-256 binding")
  return (projected,binding)

def requireJob (runtime : Runtime) (policy : UnattendedPolicy) (request : Mapping) (now : ℤ) : Py Job := do
  let checked ← validateUnattendedPolicy runtime policy
  let instant ← astimezoneUtc now
  requireCurrent runtime checked instant
  let (projected,binding) ← requireRequest checked request
  return ⟨instant,projected,binding⟩

def counted (state : Value) : Py Bool := do
  demand state.hashable (.typeError "unhashable type")
  return permitted ["reserved","settled"] state

def chargeReceipt (consumed : PyFloat) (receipt : Mapping) : Py PyFloat := do
  let amount ← required (.cloudManifestError "spend history contains an invalid amount")
    (receipt.get "amount_usd").asNumber
  demand (!amount.lt 0) (.cloudManifestError "spend history contains an invalid amount")
  return consumed.add (← amount.toFloat)

def chargeWithin (windowStart occurred : ℤ) (consumed : PyFloat) (receipt : Mapping) : Py PyFloat := do
  if windowStart ≤ occurred then
    if ← counted (receipt.get "state") then chargeReceipt consumed receipt else return consumed
  else return consumed

def addReceipt (runtime : Runtime) (checked : UnattendedPolicy) (windowStart instant : ℤ) (consumed : PyFloat)
    (receipt : Mapping) : Py PyFloat := do
  if permitted [checked.policyId] (receipt.get "policy_id") then
    let occurred ← parseTimestamp runtime (receipt.get "recorded_at") "history.recorded_at"
    demand (decide (occurred ≤ instant)) (.cloudManifestError "future-dated spend receipt is forbidden")
    chargeWithin windowStart occurred consumed receipt
  else return consumed

structure AdmissionReceipt where
  policyId : String
  policySha256 : String
  requestSha256 : String
  inputBindingSha256 : String
  reservedUsd : PyFloat
  recordedAt : String

def AdmissionReceipt.toMapping (receipt : AdmissionReceipt) : Mapping :=
  [("record_kind",.str "cloud_unattended_admission_receipt"),("policy_id",.str receipt.policyId),
    ("policy_sha256",.str receipt.policySha256),("request_sha256",.str receipt.requestSha256),
    ("input_binding_sha256",.str receipt.inputBindingSha256),("reserved_usd",.float receipt.reservedUsd),
    ("recorded_at",.str receipt.recordedAt)]

def recordedText (runtime : Runtime) (instant : ℤ) : String := replaceText (runtime.isoformat instant) "+00:00" "Z"

def admitUnattendedJob (runtime : Runtime) (policy : UnattendedPolicy) (request : Mapping)
    (history : List Mapping) (now : ℤ) : Py AdmissionReceipt := do
  let job ← requireJob runtime policy request now
  let windowStart ← astimezoneUtc (job.instant - policy.window)
  let consumed ← history.foldlM (addReceipt runtime policy windowStart job.instant) .zero
  let reserved ← job.projected.toFloat
  demand (!(consumed.add reserved).gt policy.rollingCeilingUsd)
    (.cloudManifestError "job exceeds unattended rolling ceiling")
  let requestSha256 ← runtime.requestSha256 request
  return {
    policyId := policy.policyId
    policySha256 := runtime.policySha256 policy
    requestSha256 := requestSha256
    inputBindingSha256 := job.binding
    reservedUsd := reserved
    recordedAt := recordedText runtime job.instant }

end PneumaLab.Cloud
