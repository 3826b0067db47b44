import Mathlib.Data.Rat.Floor
import PneumaLab.Exceptions
import PneumaLab.Library.JsonText

namespace PneumaLab.Foundation

def lookupField (v : Json) (key : String) : Option Json :=
  match v with
  | .obj fields => fields.lookup key
  | _ => none

section Schema

-- The value a float's repr stands for.
def floatValue (text : List Char) : ℚ :=
  let (negative,text) := match text with
    | '-' :: rest => (true,rest)
    | _ => (false,text)
  let (digits,text) := Json.digitsOf text
  let (decimals,text) := Json.fraction text
  let (power,_) := Json.exponent text
  let shift : ℤ := match power with
    | _ :: '-' :: rest => -(Nat.ofDigitChars 10 rest 0 : ℤ)
    | _ :: '+' :: rest => Nat.ofDigitChars 10 rest 0
    | _ :: rest => Nat.ofDigitChars 10 rest 0
    | [] => 0
  let magnitude : ℚ := Nat.ofDigitChars 10 (digits ++ decimals.drop 1) 0
  (if negative then -magnitude else magnitude) * 10 ^ (shift - (decimals.drop 1).length)

def isText : Json → Bool
  | .str _ => true
  | _ => false

def isNonemptyText : Json → Bool
  | .str text => decide (text ≠ "")
  | _ => false

def isBool : Json → Bool
  | .bool _ => true
  | _ => false

def isNumber : Json → Bool
  | .int _ => true
  | .float _ => true
  | _ => false

-- A float without a fractional part is an integer to the schema.
def isCount : Json → Bool
  | .int value => decide (0 ≤ value)
  | .float text => decide (0 ≤ floatValue text.toList ∧ (floatValue text.toList).den = 1)
  | _ => false

def isZero : Json → Bool
  | .int value => decide (value = 0)
  | .float text => decide (floatValue text.toList = 0)
  | _ => false

def orNull (check : Json → Bool) : Json → Bool
  | .null => true
  | v => check v

def oneOf (values : List Json) (v : Json) : Bool := decide (v ∈ values)

def isHex (start : String) (count : ℕ) (text : List Char) : Bool :=
  decide (text.take start.toList.length = start.toList) &&
    decide ((text.drop start.toList.length).length = count) &&
      (text.drop start.toList.length).all (fun c => decide (c ∈ lowerHex))

-- The end of a pattern also matches before a last line feed.
def isPattern (start : String) (count : ℕ) : Json → Bool
  | .str text => isHex start count text.toList ||
      (decide (text.toList.getLast? = some '\n') && isHex start count text.toList.dropLast)
  | _ => false

def isSetOf (check : Json → Bool) : Json → Bool
  | .arr items => decide items.Nodup && items.all check
  | _ => false

def closedObject (properties : List (String × (Json → Bool))) : Json → Bool
  | .obj fields => properties.all (fun property => (fields.lookup property.1).any property.2) &&
      fields.all (fun field => decide (field.1 ∈ properties.map Prod.fst))
  | _ => false

def conformsTarget (v : Json) : Bool :=
  closedObject [("applicable",isBool),("value",orNull isNumber),
    ("provenance",oneOf [.str "observed_outcome",.str "specified_intervention",.null])] v &&
  if lookupField v "applicable" = some (.bool true) then
    (lookupField v "value").any isNumber &&
      (lookupField v "provenance").any (oneOf [.str "observed_outcome",.str "specified_intervention"])
  else decide (lookupField v "value" = some .null) && decide (lookupField v "provenance" = some .null)

def forecastTargets : List String :=
  ["action_success","expected_error","verifier_outcome","tool_cost","token_cost","latency_cost",
    "retrieval_usefulness","intervention_response"]

-- foundation-training-record.schema.json
def conformsRecord : Json → Bool :=
  closedObject [
    ("record_kind",oneOf [.str "pneuma_foundation_training_record"]),
    ("record_schema_version",oneOf [.str "0.1.0"]),
    ("record_id",isPattern "ftr:" 64),
    ("source",closedObject [("dataset_family",isNonemptyText),("lane_id",isNonemptyText),
      ("source_record_id",isNonemptyText),("source_revision",orNull isText),
      ("receipt_hashes",isSetOf (isPattern "" 64))]),
    ("disposition",closedObject [("terminal_role",oneOf [.str "train",.str "eval",.str "governance"]),
      ("gradient_eligibility",oneOf [.str "first_stage",.str "later",.str "never"]),
      ("license_disposition",isNonemptyText),("privacy_disposition",isNonemptyText),
      ("dual_use_disposition",isNonemptyText),("oracle_disposition",isNonemptyText)]),
    ("identity",closedObject [("repo",orNull isText),("issue_or_pr",orNull isText),("task_id",orNull isText),
      ("base_commit",orNull isText),("patch_sha256",orNull isText),("test_patch_sha256",orNull isText),
      ("fuzzy_text_sha256",orNull (isPattern "" 64))]),
    ("split",closedObject [("split_id",isNonemptyText),("quarantine_id",orNull isText)]),
    ("rendered",closedObject [("prompt_text",isText),("target_text",isText)]),
    ("tokenization",closedObject [("tokenizer_id",oneOf [.str "Qwen/Qwen3.5-2B"]),
      ("tokenizer_revision",isPattern "" 40),("prompt_tokens",isCount),("target_tokens",isCount),
      ("total_tokens",isCount)]),
    ("training_weight",isZero),
    ("forecast_targets",closedObject (forecastTargets.map fun name => (name,conformsTarget))),
    ("observations",closedObject [("language",isNonemptyText),("tools",isSetOf isText),
      ("trajectory_length",isCount),("labels",closedObject [("resolved",isBool)])])]

end Schema

variable (schemaMessage : Json → String)

def validateFoundationRecord (record : Json) : Py Unit := do
  demand record.finite (.dataAuthorizationError "foundation record must be canonical JSON")
  demand (conformsRecord record) (.dataAuthorizationError (schemaMessage record))

def activeDatasetGroups : List String :=
  ["multi-swe-bench","open-swe-traces","sec-bench-pro","swe-bench","swe-bench-pro","swe-chat","swe-evo","swe-gym",
    "swe-mera","swe-polybench"]

def isMapping : Json → Bool
  | .obj _ => true
  | _ => false

def validateExample (example_ : Json) : Py Unit := do
  demand (isMapping example_) (.dataAuthorizationError "foundation record must be a mapping")
  demand (decide (lookupField example_ "training_weight" = some (.float "0.0")))
    (.dataAuthorizationError "persisted foundation records must remain exact zero-weight")
  let source ← required (.dataAuthorizationError "foundation record source must be a mapping")
    ((lookupField example_ "source").filter isMapping)
  demand ((lookupField source "dataset_family").any (oneOf (activeDatasetGroups.map .str)))
    (.dataAuthorizationError "unknown active dataset group")
  validateFoundationRecord schemaMessage example_

end PneumaLab.Foundation
