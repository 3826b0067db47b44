import Mathlib.Data.Nat.Notation
import PneumaLab.Exceptions

namespace PneumaLab.ResamplingNull

inductive GroupKind where
  | language
  | domain
  | issueFamily
  deriving DecidableEq, Repr

def GroupKind.value : GroupKind → String
  | .language => "language"
  | .domain => "domain"
  | .issueFamily => "issue_family"

structure GroupLabel where
  kind : GroupKind
  value : String
  nonempty : value ≠ ""
  deriving DecidableEq

structure ArtifactRef where
  role : String
  relativePath : String
  sha256 : String
  byteCount : ℕ
  mediaType : String
  deriving DecidableEq, Repr

inductive Arm where
  | REAL
  | SHAM
  | NONE
  | RESAMPLE
  deriving DecidableEq, Repr

def Arm.value : Arm → String
  | .REAL => "REAL"
  | .SHAM => "SHAM"
  | .NONE => "NONE"
  | .RESAMPLE => "RESAMPLE"

inductive Treatment where
  | REAL
  | SHAM
  | NO_PACKET
  deriving DecidableEq, Repr

inductive TriggerReason where
  | firstEligibleMutation
  | fourthToolCall
  | noInterventionOpportunity
  deriving DecidableEq, Repr

end PneumaLab.ResamplingNull
