import PneumaLab.Library.Traversal

namespace PneumaLab

inductive Raised where
  | typeError (message : String)
  | valueError (message : String)
  | recordValidationError (message : String)
  | runtimeError (message : String)
  | fileExistsError (path : String)
  | keyError (key : String)
  | stopIteration
  | overflowError (message : String)
  | osError (message : String)
  | cloudManifestError (message : String)
  | dataAuthorizationError (message : String)
  | foundationDatasetError (message : String)
  | memoryIntegrityError (message : String)
  | integrityError (message : String)
  | fileNotFoundError (path : String)
  | unicodeDecodeError (path : String)
  | artifactPublicationError (message : String)
  | inputContractError (message : String)
  | staleInputError (message : String)
  | overrideContractError (message : String)
  | attributeError (message : String)
  | timeoutError (message : String)
  | foundationRecordError (message : String)
  | contaminationIndexError (message : String)
  | checkpointError (message : String)
  | telemetryError (message : String)
  | packetInvalid (message : String)
  | jsonDecodeError (message : String)
  | indexError (message : String)
  | zeroDivisionError (message : String)
  | assertionError (message : String)
  | priorAnchorError (message : String)
  deriving DecidableEq, Repr

abbrev Py (α : Type) := Except Raised α

def demand (condition : Bool) (error : Raised) : Py Unit :=
  if condition then .ok () else .error error

@[simp] theorem demand_eq_ok {condition : Bool} {error : Raised} {u : Unit} :
    demand condition error = .ok u ↔ condition = true := by
  cases condition <;> simp [demand]

def required {α : Type} (error : Raised) : Option α → Py α
  | some a => .ok a
  | none => .error error

@[simp] theorem required_eq_ok {α : Type} {error : Raised} {x : Option α} {a : α} :
    required error x = .ok a ↔ x = some a := by
  cases x <;> simp [required]

-- A constructor returns its record when the record's own checks do.
def construct {ρ : Type} : (check : Py Unit) → (check = .ok () → ρ) → Py ρ
  | .ok (), make => .ok (make rfl)
  | .error e, _ => .error e

theorem construct_eq_ok {ρ : Type} {check : Py Unit} {make : check = .ok () → ρ} {r : ρ} :
    construct check make = .ok r ↔ ∃ h, make h = r := by
  match check, make with
  | .ok (), make => simp [construct]
  | .error e, make => simp [construct]

end PneumaLab
