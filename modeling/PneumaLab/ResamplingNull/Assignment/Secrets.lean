import PneumaLab.Exceptions
import PneumaLab.Library.Bytes
import PneumaLab.Library.Table
import PneumaLab.ResamplingNull.Types

namespace PneumaLab.ResamplingNull.Secrets

inductive Purpose where
  | assignment
  | unblind
  deriving DecidableEq, Repr

structure Path where
  absolute : Bool
  parts : List String
  deriving DecidableEq

structure Metadata where
  device : ℕ
  inode : ℕ
  mode : ℕ
  owner : ℕ
  links : ℕ
  deriving DecidableEq

structure Host where
  resolve : Path → Option (List String)
  isDir : List String → Bool
  opens : Bool
  fstat : ℕ → Option Metadata
  effectiveUser : ℕ
  linux : Bool
  finalPath : ℕ → Option (List String)
  contents : ℕ → Bytes
  readRaises : ℕ → Bool
  overreadRaises : ℕ → Bool

structure Handle where
  purpose : Purpose
  serial : ℕ
  deriving DecidableEq

structure Entry where
  descriptor : ℕ
  identity : Metadata
  manifestRef : ArtifactRef
  scheduleRef : ArtifactRef
  runRoot : List String
  purpose : Purpose

abbrev Registry := Table (Prod.fst : Handle × Entry → Handle)

inductive Event where
  | opened (descriptor : ℕ)
  | closed (descriptor : ℕ)
  deriving DecidableEq

structure Store where
  secretPath : Path
  isClosed : Bool
  registry : Registry
  minted : ℕ
  opened : ℕ
  log : List Event

def newStore (secretPath : Path) : Store := ⟨secretPath,false,Table.empty,0,0,[]⟩

section Claims

def resolveAbsolutePath (host : Host) (path : Path) (field : String) : Py (List String) := do
  demand path.absolute (.valueError (field ++ " must be an absolute path"))
  required (.valueError (field ++ " cannot be resolved")) (host.resolve path)

def isWithin (path root : List String) : Bool := root.isPrefixOf path

def isRegular (mode : ℕ) : Bool := decide (mode / 4096 = 8)

def permissions (mode : ℕ) : ℕ := mode % 4096

def resolvedPaths (store : Store) (host : Host) (runRoot : Path) : Py (List String × List String) := do
  demand (!store.isClosed) (.valueError "assignment secret store is closed")
  let resolvedRunRoot ← resolveAbsolutePath host runRoot "run root"
  demand (host.isDir resolvedRunRoot) (.valueError "run root must identify a directory")
  let resolvedSecret ← resolveAbsolutePath host store.secretPath "secret path"
  demand (!isWithin resolvedSecret resolvedRunRoot) (.valueError "secret path must remain outside the run root")
  return (resolvedRunRoot,resolvedSecret)

def inspect (host : Host) (descriptor : ℕ) (resolvedRunRoot resolvedSecret : List String) : Py Metadata := do
  let metadata ← required (.osError "fstat") (host.fstat descriptor)
  demand (isRegular metadata.mode) (.valueError "secret descriptor must identify a regular file")
  demand (decide (metadata.links = 1)) (.valueError "secret file must not have hard-link aliases")
  demand (decide (metadata.owner = host.effectiveUser)) (.valueError "secret file must be owned by the effective user")
  demand (decide (permissions metadata.mode &&& 256 ≠ 0 ∧ permissions metadata.mode &&& 127 = 0))
    (.valueError "secret file permissions must be owner-readable only")
  demand host.linux (.runtimeError "secret descriptor identity requires Linux")
  let finalPath ← required (.osError "readlink") (host.finalPath descriptor)
  demand (decide (finalPath = resolvedSecret)) (.valueError "secret descriptor final path differs from configuration")
  demand (!isWithin finalPath resolvedRunRoot) (.valueError "secret descriptor must remain outside the run root")
  return metadata

def Store.logged (store : Store) (event : Event) : Store := {store with log := store.log ++ [event]}

def Store.opening (store : Store) : Store :=
  {store with
    opened := store.opened + 1
    log := store.log ++ [.opened store.opened]}

def Store.register (store : Store) (purpose : Purpose) (entry : Entry) : Store :=
  {store with
    minted := store.minted + 1
    registry := store.registry.put (⟨purpose,store.minted⟩,entry)}

def claim (store : Store) (purpose : Purpose) (manifestRef scheduleRef : ArtifactRef) (runRoot : Path) (host : Host) :
    Store × Py Handle :=
  match resolvedPaths store host runRoot with
  | .error e => (store,.error e)
  | .ok (resolvedRunRoot,resolvedSecret) =>
    if host.opens then
      let descriptor := store.opened
      match inspect host descriptor resolvedRunRoot resolvedSecret with
      | .error e => (store.opening.logged (.closed descriptor),.error e)
      | .ok metadata =>
        let entry : Entry := ⟨descriptor,metadata,manifestRef,scheduleRef,resolvedRunRoot,purpose⟩
        (store.opening.register purpose entry,.ok ⟨purpose,store.minted⟩)
    else (store,.error (.valueError "secret file could not be opened securely"))

end Claims

section Uses

def Store.entry (store : Store) (handle : Handle) : Option Entry := (store.registry.find handle).map Prod.snd

def Store.release (store : Store) (handle : Handle) (descriptor : ℕ) : Store :=
  {store with registry := store.registry.delete fun row => row.1 = handle}.logged (.closed descriptor)

def requireHandleBinding (store : Store) (handle : Handle) (manifestRef scheduleRef : ArtifactRef) (runRoot : Path)
    (purpose : Purpose) (host : Host) : Store × Py Unit :=
  match store.entry handle with
  | none => (store,.error (.valueError "secret handle is not registered or is consumed"))
  | some entry =>
    match resolveAbsolutePath host runRoot "run root" with
    | .error e => (store.release handle entry.descriptor,.error e)
    | .ok resolvedRunRoot =>
      if handle.purpose ≠ purpose ∨ entry.purpose ≠ purpose ∨ entry.manifestRef ≠ manifestRef ∨
          entry.scheduleRef ≠ scheduleRef ∨ entry.runRoot ≠ resolvedRunRoot then
        (store.release handle entry.descriptor,.error (.valueError "secret handle binding context or purpose does not match"))
      else (store,.ok ())

def lengthError : Raised := .valueError "assignment master key must contain exactly 32 bytes"

def readKey (host : Host) (descriptor : ℕ) (destination : Bytes) : Bytes × Py Unit :=
  if host.readRaises descriptor then (destination,.error (.osError "readinto"))
  else
    let key := (host.contents descriptor).take destination.length
    let filled := key ++ destination.drop key.length
    if key.length ≠ 32 then (filled,.error lengthError)
    else if host.overreadRaises descriptor then (filled,.error (.osError "readinto"))
    else if ((host.contents descriptor).drop key.length).length ≠ 0 then (filled,.error lengthError)
    else (filled,.ok ())

def consumeInto (store : Store) (handle : Handle) (destination : Bytes) (host : Host) : Store × Bytes × Py Unit :=
  match store.entry handle with
  | none => (store,destination,.error (.valueError "assignment secret handle is not registered or is consumed"))
  | some entry =>
    let released := store.release handle entry.descriptor
    if (decide (handle.purpose = .assignment) != decide (entry.purpose = .assignment)) then
      (released,destination,.error (.valueError "secret descriptor identity or purpose changed"))
    else
      match host.fstat entry.descriptor with
      | none => (released,destination,.error (.osError "fstat"))
      | some metadata =>
        if metadata ≠ entry.identity then
          (released,destination,.error (.valueError "secret descriptor identity or purpose changed"))
        else (released,readKey host entry.descriptor destination)

def wipe (buffer : Bytes) : Bytes := List.replicate buffer.length 0

def readExactMasterInto (store : Store) (handle : Handle) (destination : Bytes) (host : Host) : Store × Bytes × Py Unit :=
  if destination.length ≠ 32 then
    (store,wipe destination,.error (.valueError "master destination must be one mutable 32-byte buffer"))
  else
    match consumeInto store handle destination host with
    | (next,filled,.ok ()) => (next,filled,.ok ())
    | (next,filled,.error e) => (next,wipe filled,.error e)

def close (store : Store) : Store :=
  {store with
    isClosed := true
    registry := Table.empty
    log := store.log ++ store.registry.rows.map fun row => .closed row.2.descriptor}

end Uses

section Calls

inductive Call where
  | claim (purpose : Purpose) (manifestRef scheduleRef : ArtifactRef) (runRoot : Path) (host : Host)
  | requireBinding (handle : Handle) (manifestRef scheduleRef : ArtifactRef) (runRoot : Path) (purpose : Purpose) (host : Host)
  | read (handle : Handle) (destination : Bytes) (host : Host)
  | close

inductive Outcome where
  | claimed (result : Py Handle)
  | bound (result : Py Unit)
  | read (buffer : Bytes) (result : Py Unit)
  | closed

def Store.call (store : Store) : Call → Store × Outcome
  | .claim purpose manifestRef scheduleRef runRoot host =>
    let done := claim store purpose manifestRef scheduleRef runRoot host
    (done.1,.claimed done.2)
  | .requireBinding handle manifestRef scheduleRef runRoot purpose host =>
    let done := requireHandleBinding store handle manifestRef scheduleRef runRoot purpose host
    (done.1,.bound done.2)
  | .read handle destination host =>
    let done := readExactMasterInto store handle destination host
    (done.1,.read done.2.1 done.2.2)
  | .close => (Secrets.close store,.closed)

def Store.run (store : Store) (calls : List Call) : Store := calls.foldl (fun store call => (store.call call).1) store

def outcomeAt (store : Store) (before : List Call) (call : Call) : Outcome := ((store.run before).call call).2

end Calls

end PneumaLab.ResamplingNull.Secrets
