import Mathlib.Logic.Function.Basic
import PneumaLab.Exceptions
import PneumaLab.Library.Bytes
import PneumaLab.Library.Program

namespace PneumaLab.Foundation

inductive Entry where
  | file (content : Bytes)
  | other
  deriving DecidableEq

abbrev Directory := String → Option Entry

-- The file-system calls of one publication, in the order of the code.
inductive PublishCall where
  | verifyBefore
  | openTarget
  | closeTarget
  | probeBackup (attempt : ℕ)
  | renameBackup
  | openBackup
  | closeBackup
  | syncBackup
  | createTemporary (attempt : ℕ)
  | openStream
  | write (written : ℕ)
  | closeStream
  | verifyAncestry
  | openAncestry
  | replace
  | closeAncestry
  | syncDirectory
  | verifyAfter
  | digest
  deriving DecidableEq

-- The one point of a transaction at which an exception is raised.
inductive FaultPoint where
  | publish (name : String) (call : PublishCall)
  | body
  | locateBefore
  | finalDigest (name : String)
  | locateAfter
  deriving DecidableEq

structure PublicationHost where
  sha256 : Bytes → Digest
  -- secrets.token_hex(16) for each attempt at a name
  backupToken : String → ℕ → String
  temporaryToken : String → ℕ → String
  fault : Option FaultPoint
  describe : Raised → String

structure PublishedArtifact where
  name : String
  expectedSha256 : String
  expectedSize : ℕ
  backupName : Option String
  backupCreated : Bool
  published : Bool

structure Session where
  directory : Directory
  -- The latest record first.
  published : List PublishedArtifact
  committed : Bool
  -- What the directory held after each call, the latest first.
  moments : List Directory

abbrev Publishing (α : Type) := Program Session Raised α

def Session.start (directory : Directory) : Session := ⟨directory,[],false,[directory]⟩

def moveEntry (directory : Directory) (source target : String) : Directory :=
  Function.update (Function.update directory source none) target (directory source)

def removeEntry (directory : Directory) (name : String) : Directory := Function.update directory name none

def setDirectory (change : Directory → Directory) : Publishing Unit := Program.modify fun session =>
  { session with directory := change session.directory, moments := change session.directory :: session.moments }

def setRecord (change : PublishedArtifact → PublishedArtifact) : Publishing Unit := Program.modify fun session =>
  { session with published := session.published.modifyHead change }

def backupNameOf (name token : String) : String := "." ++ name ++ "." ++ token ++ ".publication-backup"

def temporaryNameOf (name token : String) : String := "." ++ name ++ "." ++ token ++ ".tmp"

section Host
variable (host : PublicationHost)

def attempt (point : FaultPoint) : Publishing Unit :=
  if host.fault = some point then Program.raise (.osError "file-system call failed") else pure ()

def unusedBackup (name : String) : ℕ → ℕ → Publishing String
  | 0, _ => Program.raise (.artifactPublicationError "artifact publication could not allocate a unique backup")
  | fuel + 1, tried => do
    attempt host (.publish name (.probeBackup tried))
    let session ← Program.get
    let backup := backupNameOf name (host.backupToken name tried)
    if session.directory backup = none then pure backup
    else unusedBackup name fuel (tried + 1)

def backupExistingTarget (name : String) : Publishing Unit := do
  attempt host (.publish name .openTarget)
  let session ← Program.get
  match session.directory name with
  | none => pure ()
  | some .other => Program.raise (.artifactPublicationError "artifact publication target must be a regular file")
  | some (.file _) =>
    attempt host (.publish name .closeTarget)
    let backup ← unusedBackup host name 128 0
    attempt host (.publish name .renameBackup)
    setDirectory fun directory => moveEntry directory name backup
    setRecord fun record => { record with backupName := some backup, backupCreated := true }
    attempt host (.publish name .openBackup)
    attempt host (.publish name .closeBackup)
    attempt host (.publish name .syncBackup)

def createTemporary (name : String) : ℕ → ℕ → Publishing String
  | 0, _ => Program.raise (.artifactPublicationError "artifact publication could not allocate a unique temporary")
  | fuel + 1, tried => do
    attempt host (.publish name (.createTemporary tried))
    let session ← Program.get
    let temporary := temporaryNameOf name (host.temporaryToken name tried)
    if session.directory temporary = none then do
      setDirectory fun directory => Function.update directory temporary (some (.file []))
      pure temporary
    else createTemporary name fuel (tried + 1)

def growFile (temporary : String) (payload : Bytes) (count : ℕ) : Publishing Unit := Program.modify fun session =>
  let grown := fun n => Function.update session.directory temporary (some (.file (payload.take n)))
  { session with
    directory := grown count
    moments := (List.range (count + 1)).reverse.map grown ++ session.moments }

def failingWrite (name : String) : Option ℕ :=
  match host.fault with
  | some (.publish target (.write written)) => if target = name then some written else none
  | _ => none

def writeStream (name temporary : String) (payload : Bytes) : Publishing Unit :=
  match failingWrite host name with
  | some written => do
    growFile temporary payload written
    Program.raise (.osError "file-system call failed")
  | none => growFile temporary payload payload.length

def writeTemporary (name temporary : String) (payload : Bytes) : Publishing Unit := do
  attempt host (.publish name .openStream)
  writeStream host name temporary payload
  attempt host (.publish name .closeStream)

def replaceTarget (name temporary : String) : Publishing Unit := do
  attempt host (.publish name .openAncestry)
  attempt host (.publish name .replace)
  setDirectory fun directory => moveEntry directory temporary name
  attempt host (.publish name .closeAncestry)

def checkDigest (record : PublishedArtifact) (message : String) : Publishing Unit := do
  let session ← Program.get
  match session.directory record.name with
  | some (.file content) =>
    if (host.sha256 content).hex = record.expectedSha256 ∧ content.length = record.expectedSize then pure ()
    else Program.raise (.artifactPublicationError message)
  | some .other => Program.raise (.artifactPublicationError "artifact publication target must be a regular file")
  | none => Program.raise (.fileNotFoundError record.name)

def newRecord (name : String) (payload : Bytes) : PublishedArtifact :=
  ⟨name,(host.sha256 payload).hex,payload.length,none,false,false⟩

def publishBytes (name : String) (payload : Bytes) : Publishing Unit := do
  attempt host (.publish name .verifyBefore)
  Program.modify fun session => { session with published := newRecord host name payload :: session.published }
  backupExistingTarget host name
  let temporary ← createTemporary host name 128 0
  -- The temporary name is still set when these raise, so it is unlinked.
  Program.handle (do
      writeTemporary host name temporary payload
      attempt host (.publish name .verifyAncestry)
      replaceTarget host name temporary)
    fun e => do
      setDirectory fun directory => removeEntry directory temporary
      Program.raise e
  setRecord fun record => { record with published := true }
  attempt host (.publish name .syncDirectory)
  attempt host (.publish name .verifyAfter)
  attempt host (.publish name .digest)
  checkDigest host (newRecord host name payload) "published artifact content differs from its expected digest or size"

def writeBytes (target : String × Bytes) : Publishing Unit := do
  let session ← Program.get
  if session.published.any (fun record => record.name = target.1) then
    Program.raise (.artifactPublicationError "artifact target was already published in this transaction")
  else publishBytes host target.1 target.2

def unlinkPublished (record : PublishedArtifact) : Publishing Unit :=
  if record.published then setDirectory fun directory => removeEntry directory record.name else pure ()

def restoreBackup (record : PublishedArtifact) : Publishing Unit :=
  match record.backupName with
  | some backup =>
    if record.backupCreated then setDirectory fun directory => moveEntry directory backup record.name else pure ()
  | none => pure ()

def rollbackRecord (record : PublishedArtifact) : Publishing Unit := do
  unlinkPublished record
  restoreBackup record

def rollback : Publishing Unit := do
  let session ← Program.get
  session.published.forM rollbackRecord
  Program.modify fun session => { session with published := [] }

def verifyRecord (record : PublishedArtifact) : Publishing Unit := do
  if record.published then do
    attempt host (.finalDigest record.name)
    checkDigest host record "published artifact content changed before commit"
  else Program.raise (.artifactPublicationError "artifact publication did not publish every tracked target")

def finalVerify : Publishing Unit := do
  attempt host .locateBefore
  let session ← Program.get
  session.published.reverse.forM (verifyRecord host)
  attempt host .locateAfter

def postcommitRecord (record : PublishedArtifact) : Publishing Unit :=
  match record.backupName with
  | some backup => if record.backupCreated then setDirectory fun directory => removeEntry directory backup else pure ()
  | none => pure ()

def commitPublication : Publishing Unit := do
  let session ← Program.get
  finalVerify host
  Program.modify fun session => { session with committed := true, published := [] }
  session.published.reverse.forM postcommitRecord

def wrapPublicationError : Raised → Raised
  | .artifactPublicationError message => .artifactPublicationError message
  | e => .artifactPublicationError ("artifact publication failed: " ++ host.describe e)

def bindArtifactPublication (writes : List (String × Bytes)) : Publishing Unit :=
  Program.handle (do
      Program.handle (do
          writes.forM (writeBytes host)
          attempt host .body)
        fun e => do
          rollback
          Program.raise e
      Program.handle (commitPublication host) fun e => do
        let session ← Program.get
        if session.committed then Program.raise e
        else do
          rollback
          Program.raise e)
    fun e => Program.raise (wrapPublicationError host e)

end Host

end PneumaLab.Foundation
