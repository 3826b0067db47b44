import PneumaLab.ResamplingNull.Artifacts
import Mathlib.Data.Finset.Insert
import Mathlib.Logic.Function.Basic

namespace PneumaLab.ResamplingNull.Controller

def controllerRoleMedia : List (String × String) :=
  [("selected_task","application/json"),("initial_restore_qualification","application/json"),
    ("composite_snapshot","application/json"),("environment_snapshot","application/octet-stream"),
    ("visible_context","application/json"),("token_ids","application/json"),("input_token_ids","application/json"),
    ("output_token_ids","application/json"),("provider_request","application/json"),
    ("provider_dispatch_intent","application/json"),("provider_response","application/octet-stream"),
    ("provider_event","application/json"),("provider_attempt","application/json"),
    ("provider_attempt_ledger","application/json"),("provider_settlement","application/json"),
    ("provider_cost_closure","application/json"),("tool_call","application/json"),
    ("tool_result","application/octet-stream"),("tool_boundary_ledger","application/json"),
    ("subject_stateless_attestation","application/json"),("simulator_stateless_attestation","application/json"),
    ("runtime_attestation","application/json"),("container_attestation","application/json"),
    ("grade_restore_receipt","application/json"),("verifier_restore_receipt","application/json"),
    ("grade_evidence","application/octet-stream"),("verifier_evidence","application/octet-stream"),
    ("grade_evidence_receipt","application/json"),("verifier_evidence_receipt","application/json"),
    ("prefix_candidate_receipt","application/json"),("branch_work_order","application/json"),
    ("branch_attempt","application/json"),("branch_adverse_event","application/json"),
    ("verifier_source","application/json"),("verifier_report","application/json"),("verifier_feature","application/json")]

def isRole (role : String) : Bool :=
  role.toList.head?.any Char.isLower && decide (role.toList.length ≤ 64) &&
    role.toList.all fun c => c.isLower || c.isDigit || decide (c = '_')

def isMediaPart (text : List Char) : Bool :=
  text.head?.any (fun c => c.isLower || c.isDigit) &&
    text.all fun c => c.isLower || c.isDigit || decide (c ∈ "!#$&^_.+*-".toList)

def isMediaType (mediaType : String) : Bool :=
  isMediaPart (mediaType.toList.takeWhile (· ≠ '/')) && isMediaPart ((mediaType.toList.dropWhile (· ≠ '/')).drop 1)

def validateMedia (role mediaType differs : String) : Py Unit := do
  demand (isRole role) (.valueError "role must be a normalized registered-style identifier")
  demand (isMediaType mediaType) (.valueError "media_type must be a lowercase canonical type/subtype without parameters")
  let registered ← required (.recordValidationError "controller artifact role is not registered")
    (controllerRoleMedia.lookup role)
  demand (mediaType = registered) (.recordValidationError differs)

structure WriteCall where
  role : String
  mediaType : String
  payload : Bytes
  valid : validateMedia role mediaType "controller artifact media type differs from canonical role authority" = .ok ()

abbrev Address := String × String

abbrev Inode := ℕ

structure Disk where
  roles : Finset String
  names : Address → Option Inode
  content : Inode → Bytes
  fresh : Inode

namespace Disk

def empty : Disk := ⟨∅,fun _ => none,fun _ => [],0⟩

def bind (disk : Disk) (address : Address) : Disk :=
  { disk with
    names := Function.update disk.names address (some disk.fresh)
    content := Function.update disk.content disk.fresh []
    fresh := disk.fresh + 1 }

def unbind (disk : Disk) (address : Address) : Disk := {disk with names := Function.update disk.names address none}

def writeAt (disk : Disk) (file : Inode) (offset : ℕ) (chunk : Bytes) : Disk :=
  let before := disk.content file
  let after := before.take offset ++ chunk ++ before.drop (offset + chunk.length)
  {disk with content := Function.update disk.content file after}

end Disk

inductive Phase where
  | mkdirRole
  | syncArtifacts
  | openRole
  | statRole
  | create
  | writing (file : Inode) (offset : ℕ)
  | syncFile
  | closeWrite
  | syncRole
  | reopen
  | openExisting
  | statFile (created : Bool) (file : Inode)
  | reading (created : Bool) (file : Inode) (observed : Bytes)
  | statName (created : Bool) (file : Inode) (observed : Bytes)
  | closeRead (created : Bool)
  | closeRole (created : Bool)
  | reopenRole
  | unlink
  | syncCleanup
  | returned
  | raised
  | crashed
  deriving DecidableEq, Repr

namespace Phase

def final : Phase → Bool
  | returned | raised | crashed => true
  | _ => false

-- The except clause: it deletes by name what this write created.
def cleanup (created roleOpen : Bool) : Phase :=
  if created then if roleOpen then unlink else reopenRole else raised

def afterFailure : Phase → Phase
  | mkdirRole | syncArtifacts | openRole | statRole | create | openExisting => cleanup false true
  | writing _ _ | syncFile | closeWrite | syncRole | reopen => cleanup true true
  | statFile created _ | reading created _ _ | statName created _ _ | closeRead created => cleanup created true
  | closeRole created => cleanup created false
  | unlink => syncCleanup
  | reopenRole | syncCleanup => raised
  | returned => returned
  | raised => raised
  | crashed => crashed

end Phase

def chunkBytes : ℕ := 1024 * 1024

-- What a call meets: it works (and moves at most so many bytes), it fails, or the process dies before it.
inductive Reply where
  | works (moved : ℕ)
  | fails
  | dies
  deriving DecidableEq, Repr

structure Writer where
  call : WriteCall
  phase : Phase

section Writing
variable (sha256 : Bytes → Digest)

def WriteCall.address (call : WriteCall) : Address := (call.role,(sha256 call.payload).hex)

def artifactPath (address : Address) : String := "controller-artifacts/" ++ address.1 ++ "/" ++ address.2

def WriteCall.ref (call : WriteCall) : ArtifactRef :=
  ⟨call.role,artifactPath (call.address sha256),(sha256 call.payload).hex,call.payload.length,call.mediaType⟩

def nextWrite (call : WriteCall) (file : Inode) (offset : ℕ) : Phase :=
  if offset < call.payload.length then .writing file offset else .syncFile

def verified (call : WriteCall) (observed : Bytes) : Bool :=
  decide (observed = call.payload ∧ (sha256 observed).hex = (sha256 call.payload).hex ∧ observed.length = call.payload.length)

def perform (disk : Disk) (call : WriteCall) (phase : Phase) (moved : ℕ) : Disk × Phase :=
  let address := call.address sha256
  match phase with
  | .mkdirRole =>
    if call.role ∈ disk.roles then (disk,.openRole) else ({disk with roles := insert call.role disk.roles},.syncArtifacts)
  | .syncArtifacts => (disk,.openRole)
  | .openRole => (disk,if call.role ∈ disk.roles then .statRole else .raised)
  | .statRole => (disk,.create)
  | .create =>
    match disk.names address with
    | some _ => (disk,.openExisting)
    | none => (disk.bind address,nextWrite call disk.fresh 0)
  | .writing file offset =>
    let chunk := (call.payload.drop offset).take moved
    if chunk = [] then (disk,phase.afterFailure)
    else (disk.writeAt file offset chunk,nextWrite call file (offset + chunk.length))
  | .syncFile => (disk,.closeWrite)
  | .closeWrite => (disk,.syncRole)
  | .syncRole => (disk,.reopen)
  | .reopen => (disk,(disk.names address).elim phase.afterFailure (.statFile true))
  | .openExisting => (disk,(disk.names address).elim phase.afterFailure (.statFile false))
  | .statFile created file => (disk,.reading created file [])
  | .reading created file observed =>
    -- Only the end of the file reads as nothing.
    let chunk := ((disk.content file).drop observed.length).take (max 1 (min moved chunkBytes))
    (disk,if chunk = [] then .statName created file observed else .reading created file (observed ++ chunk))
  | .statName created file observed =>
    (disk,if disk.names address = some file && verified sha256 call observed then .closeRead created else phase.afterFailure)
  | .closeRead created => (disk,.closeRole created)
  | .closeRole _ => (disk,.returned)
  | .reopenRole => (disk,if call.role ∈ disk.roles then .unlink else .raised)
  | .unlink => (disk.unbind address,.syncCleanup)
  | .syncCleanup => (disk,.raised)
  | .returned | .raised | .crashed => (disk,phase)

def Writer.step (disk : Disk) (writer : Writer) (reply : Reply) : Disk × Writer :=
  match reply with
  | .works moved =>
    let (after,phase) := perform sha256 disk writer.call writer.phase moved
    (after,{writer with phase})
  | .fails => (disk,{writer with phase := writer.phase.afterFailure})
  | .dies => (disk,{writer with phase := if writer.phase.final then writer.phase else .crashed})

structure System where
  disk : Disk
  writers : ℕ → Option Writer

def System.empty : System := ⟨.empty,fun _ => none⟩

inductive Event where
  | start (writer : ℕ) (call : WriteCall)
  | call (writer : ℕ) (reply : Reply)

def System.step (system : System) : Event → System
  | .start i call =>
    match system.writers i with
    | some _ => system
    | none => {system with writers := Function.update system.writers i (some ⟨call,.mkdirRole⟩)}
  | .call i reply =>
    match system.writers i with
    | none => system
    | some writer =>
      let (disk,after) := writer.step sha256 system.disk reply
      ⟨disk,Function.update system.writers i (some after)⟩

def run (events : List Event) : System := events.foldl (System.step sha256) .empty

end Writing

section Resolving

structure ControllerArtifactResolver where
  pathBindings : String → Option ArtifactRef
  physicalBindings : Inode → Option ArtifactRef

def ControllerArtifactResolver.fresh : ControllerArtifactResolver := ⟨fun _ => none,fun _ => none⟩

variable (sha256 : Bytes → Digest)

def readArtifact (sees : ℕ → Disk) (ref : ArtifactRef) (resolver : ControllerArtifactResolver) : Py (Inode × Bytes) := do
  let address : Address := (ref.role,ref.sha256)
  let failed : Raised := .recordValidationError "controller artifact could not be safely resolved"
  demand (ref.role ∈ (sees 0).roles) failed
  let file ← required failed ((sees 1).names address)
  let payload := (sees 2).content file
  let named ← required failed ((sees 3).names address)
  demand (file = named) (.recordValidationError "controller artifact identity changed during read")
  demand ((resolver.physicalBindings file).all fun previous => decide (previous = ref))
    (.recordValidationError "controller artifact physical file is aliased")
  return (file,payload)

def ControllerArtifactResolver.resolveBound (resolver : ControllerArtifactResolver) (sees : ℕ → Disk) (ref : ArtifactRef)
    (expectedRole expectedMediaType : String) : Py Bytes × ControllerArtifactResolver :=
  let checked : Py Unit := do
    validateMedia expectedRole expectedMediaType "controller artifact expected media is not canonical"
    demand (ref.role = expectedRole) (.recordValidationError "controller artifact role differs from controller expectation")
    demand (ref.mediaType = expectedMediaType)
      (.recordValidationError "controller artifact media type differs from controller expectation")
    demand ((resolver.pathBindings ref.relativePath).all fun previous => decide (previous = ref))
      (.recordValidationError "controller artifact path is aliased across refs")
  match checked with
  | .error e => (.error e,resolver)
  | .ok () =>
    let bound := {resolver with pathBindings := Function.update resolver.pathBindings ref.relativePath (some ref)}
    let read : Py (Inode × Bytes) := do
      demand (ref.relativePath = artifactPath (expectedRole,ref.sha256))
        (.recordValidationError "controller artifact path does not bind role and digest")
      let (file,payload) ← readArtifact sees ref bound
      demand ((sha256 payload).hex = ref.sha256 ∧ payload.length = ref.byteCount)
        (.recordValidationError "controller artifact digest or length does not match")
      return (file,payload)
    match read with
    | .error e => (.error e,bound)
    | .ok (file,payload) =>
      (.ok payload,{bound with physicalBindings := Function.update bound.physicalBindings file (some ref)})

end Resolving

end PneumaLab.ResamplingNull.Controller
