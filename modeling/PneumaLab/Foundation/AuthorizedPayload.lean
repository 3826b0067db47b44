import PneumaLab.Foundation.SuitePolicy
import PneumaLab.Library.Program

namespace PneumaLab.Foundation.Suite

inductive Host where
  | linux
  | windows (lower normcase : SeparatedText.Folding separated)
  | other

def Host.flavour : Host → Flavour
  | .windows lower normcase => Suite.windows lower normcase
  | _ => posix

inductive FileType where
  | directory
  | regular
  | link
  | other
  deriving DecidableEq

-- st_file_attributes shows a reparse point on Windows alone.
structure Metadata where
  type : FileType
  reparse : Bool
  device : ℕ
  inode : ℕ

inductive FailureKind where
  | fileNotFound
  | osError
  | runtimeError
  | typeError
  | valueError
  | other
  deriving DecidableEq

structure Failure where
  kind : FailureKind
  message : String
  deriving DecidableEq

def Failure.isOsError (failure : Failure) : Bool := decide (failure.kind = .fileNotFound ∨ failure.kind = .osError)

inductive PayloadError where
  | suitePolicyError (message : String)
  | failure (failure : Failure)
  | body (failure : Failure)

-- The path of an open file, and the UTF-16 units it takes.
structure FinalName where
  text : String
  units : ℕ
  nonempty : 0 < units
  bounded : units < 32768

structure FileSystem (flavour : Flavour) where
  lstat : ℕ → flavour.Path → Except Failure Metadata
  isJunction : ℕ → flavour.Path → Bool
  resolve : ℕ → flavour.Path → Except Failure (PhysicalPath flavour)
  openFile : ℕ → flavour.Path → Except Failure ℕ
  fstat : ℕ → ℕ → Except Failure Metadata
  readlink : ℕ → ℕ → Except Failure String
  osHandle : ℕ → ℕ → Except Failure ℤ
  finalPathName : ℕ → ℤ → Except Failure FinalName
  -- A failing fdopen leaves the descriptor to its caller.
  fdopen : ℕ → ℕ → Except Failure Unit
  closeFile : ℕ → ℕ → Except Failure Unit

inductive Event (flavour : Flavour) where
  | resolved (path : flavour.Path) (physical : PhysicalPath flavour)
  | opened (fd : ℕ)
  | stated (fd : ℕ) (metadata : Metadata)
  | located (fd : ℕ) (text : String)
  | yielded (fd : ℕ)
  | closed (fd : ℕ)

structure Run (flavour : Flavour) where
  moment : ℕ
  -- The latest event first.
  log : List (Event flavour)

abbrev Payload (flavour : Flavour) (α : Type) := Program (Run flavour) PayloadError α

structure TrustedPayload (flavour : Flavour) where
  path : flavour.Path
  resolvedPath : PhysicalPath flavour
  device : ℕ
  inode : ℕ

section Steps
variable {flavour : Flavour}

def refuse {α : Type} (message : String) : Payload flavour α := Program.raise (.suitePolicyError message)

def checked {α : Type} : Except String α → Payload flavour α
  | .ok a => pure a
  | .error message => refuse message

def forbid (condition : Prop) [Decidable condition] (message : String) : Payload flavour Unit :=
  if condition then refuse message else pure ()

def call {α : Type} (ask : ℕ → Except Failure α) (shows : α → List (Event flavour)) : Payload flavour α := fun run =>
  match ask run.moment with
  | .ok a => (.ok a,⟨run.moment + 1,shows a ++ run.log⟩)
  | .error failure => (.error (.failure failure),⟨run.moment + 1,run.log⟩)

end Steps

section Calls
variable {flavour : Flavour} (fs : FileSystem flavour)

def notingOsError (convert : Failure → String) (e : PayloadError) : PayloadError :=
  match e with
  | .failure failure => if failure.isOsError then .suitePolicyError (convert failure) else e
  | _ => e

def isLinkOrReparse (component : flavour.Path) : Payload flavour Bool :=
  Program.handle (do
    let metadata ← call (fs.lstat · component) fun _ => []
    if metadata.type = .link then return true
    let junction ← call (fun moment => .ok (fs.isJunction moment component)) fun _ => []
    return junction || metadata.reparse) fun e =>
    match e with
    | .failure ⟨.fileNotFound,_⟩ => pure false
    | e => Program.raise (notingOsError (fun failure =>
        "trusted data root metadata failed: filesystem metadata inspection failed for " ++ flavour.text component ++ ": " ++
          failure.message) e)

def presentMetadata (component : flavour.Path) : Payload flavour Metadata :=
  Program.handle (call (fs.lstat · component) fun _ => []) fun e =>
    match e with
    | .failure ⟨.fileNotFound,_⟩ => refuse ("trusted data root payload path must exist: " ++ flavour.text component)
    | e => Program.raise (notingOsError (fun failure => "trusted data root metadata failed: " ++ failure.message) e)

def trustedComponent (component : flavour.Path) (expectedDirectory : Bool) : Payload flavour Metadata := do
  let linked ← isLinkOrReparse fs component
  forbid (linked = true) "trusted data root path contains a link or reparse point"
  let metadata ← presentMetadata fs component
  forbid (expectedDirectory = true ∧ metadata.type ≠ .directory)
    ("trusted data root ancestor must be a directory: " ++ flavour.text component)
  forbid (expectedDirectory = false ∧ metadata.type ≠ .regular)
    ("trusted data root payload must be a regular file: " ++ flavour.text component)
  return metadata

def ancestorsOf (root : flavour.Path) (relative : List String) : List flavour.Path :=
  relative.inits.dropLast.map (flavour.join root)

def scanComponents : List flavour.Path → flavour.Path → Payload flavour Metadata
  | [], last => trustedComponent fs last false
  | component :: rest, last => do
    let _ ← trustedComponent fs component true
    scanComponents rest last

def resolutionError (e : PayloadError) : PayloadError :=
  match e with
  | .failure failure =>
    if failure.isOsError ∨ failure.kind = .runtimeError ∨ failure.kind = .valueError then
      .suitePolicyError ("trusted data root resolution failed: " ++ failure.message)
    else e
  | _ => e

def resolvePath (path : flavour.Path) : Payload flavour (PhysicalPath flavour) :=
  Program.handle (call (fs.resolve · path) fun physical => [.resolved path physical]) fun e =>
    Program.raise (resolutionError e)

def trustedExistingFile (dataRoot path : String) (allowance : Allowance) : Payload flavour (TrustedPayload flavour) := do
  let root := flavour.parse dataRoot
  let candidate := flavour.parse path
  forbid (flavour.isAbsolute root = false ∨ flavour.isAbsolute candidate = false)
    "payload path must be absolute under the trusted data root"
  match flavour.relativeTo candidate root with
  | none => refuse "payload path is outside the trusted data root"
  | some parts =>
    forbid ((if allowance.exact then parts else parts.take allowance.relativeRoot.length) ≠ allowance.relativeRoot)
      "payload path is outside the trusted data root lane"
    let metadata ← scanComponents fs (ancestorsOf root parts) (flavour.join root parts)
    let resolvedRoot ← resolvePath fs root
    let resolvedAllowed ← resolvePath fs (allowance.under root)
    let resolvedCandidate ← resolvePath fs candidate
    forbid (flavour.isWithin resolvedAllowed.path resolvedRoot.path = false ∨
        flavour.isWithin resolvedCandidate.path resolvedRoot.path = false ∨
        (allowance.exact = true ∧ flavour.same resolvedCandidate.path resolvedAllowed.path = false) ∨
        (allowance.exact = false ∧ flavour.isWithin resolvedCandidate.path resolvedAllowed.path = false))
      "payload resolves outside the trusted data root lane"
    return ⟨candidate,resolvedCandidate,metadata.device,metadata.inode⟩

def validatePayloadRequest (repr : String → String) (request : Request) : Payload flavour (TrustedPayload flavour) := do
  let item ← checked (requestItem repr request)
  let access ← checked (requestAccess repr request item)
  let allowance ← checked (requestAllowance flavour request item access)
  trustedExistingFile fs request.dataRoot request.path allowance

def reportedLength (name : FinalName) (bufferSize : ℕ) : ℕ := if name.units < bufferSize then name.units else name.units + 1

-- The buffer grows with every name that does not fit, and no name is longer than the last one.
def finalPathName (fd : ℕ) (handle : ℤ) : (room bufferSize : ℕ) → 32768 ≤ room + bufferSize → Payload flavour String
  | 0, _, _ => do
    let name ← call (fs.finalPathName · handle) fun name => [.located fd name.text]
    return name.text
  | room + 1, bufferSize, h => do
    let name ← call (fs.finalPathName · handle) fun name =>
      if reportedLength name bufferSize < bufferSize then [.located fd name.text] else []
    if hroom : reportedLength name bufferSize < bufferSize then return name.text
    else finalPathName fd handle room (reportedLength name bufferSize + 1) (by omega)

def driveLetterPath : List Char → Bool
  | letter :: ':' :: '\\' :: _ => letter.isAlpha
  | _ => false

def extendedPrefix : List Char := ['\\','\\','?','\\']

def plainNamespace (value : String) : Except Failure String :=
  let chars := value.toList
  if extendedUnc.isPrefixOf chars then .ok (String.ofList ('\\' :: '\\' :: chars.drop extendedUnc.length))
  else if extendedPrefix.isPrefixOf chars then
    if driveLetterPath (chars.drop extendedPrefix.length) then .ok (String.ofList (chars.drop extendedPrefix.length))
    else .error ⟨.osError,"opened payload returned an unsupported Windows namespace"⟩
  else .ok value

def answered {α : Type} : Except Failure α → Payload flavour α
  | .ok a => pure a
  | .error failure => Program.raise (.failure failure)

def windowsFinalText (fd : ℕ) : Payload flavour String := do
  let handle ← call (fs.osHandle · fd) fun _ => []
  if handle = -1 then Program.raise (.failure ⟨.osError,"opened payload descriptor has no Windows handle"⟩)
  else
    let value ← finalPathName fs fd handle 32256 512 (by decide)
    answered (plainNamespace value)

def pathIdentity (path : flavour.Path) : Payload flavour String := do
  forbid (flavour.isAbsolute (flavour.parse (flavour.text path)) = false)
    "opened payload final path cannot be normalized: path is not absolute"
  return flavour.identity (flavour.text path)

def verificationError (e : PayloadError) : PayloadError :=
  match e with
  | .failure failure =>
    if failure.kind = .other then e else .suitePolicyError ("opened payload verification failed: " ++ failure.message)
  | _ => e

def closeDescriptor (fd : ℕ) (message : Failure → String) : Payload flavour Unit := do
  Program.modify fun run => { run with log := .closed fd :: run.log }
  Program.handle (call (fs.closeFile · fd) fun _ => []) fun e => Program.raise (notingOsError message e)

structure Body (β : Type) where
  closes : Bool
  ends : Except Failure β

-- stream.close() does nothing to a stream that the body closed.
def closeStream (closed : Bool) (fd : ℕ) : Payload flavour Unit :=
  if closed then Program.modify fun run => { run with log := .closed fd :: run.log }
  else closeDescriptor fs fd fun failure => "opened payload stream could not be closed: " ++ failure.message

end Calls

section Hosts
variable (host : Host) (fs : FileSystem host.flavour)

-- The text that a descriptor's own path is read from.
def finalText (fd : ℕ) : Payload host.flavour String :=
  match host with
  | .linux => call (fs.readlink · fd) fun text => [.located fd text]
  | .windows _ _ => windowsFinalText fs fd
  | .other => refuse "opened payload final path cannot be proven on this platform"

def Host.title : Host → String
  | .windows _ _ => "Windows"
  | _ => "Linux"

def finalPathFromFd (fd : ℕ) : Payload host.flavour host.flavour.Path := do
  let text ← finalText host fs fd
  if host.flavour.isAbsolute (host.flavour.parse text) then return host.flavour.parse text
  else Program.raise (.failure ⟨.osError,"opened payload final " ++ host.title ++ " path is not absolute"⟩)

def verifyDescriptor (target : TrustedPayload host.flavour) (fd : ℕ) : Payload host.flavour Unit := do
  let metadata ← call (fs.fstat · fd) fun metadata => [.stated fd metadata]
  forbid (metadata.type ≠ .regular) "opened payload descriptor must identify a regular file"
  forbid ((metadata.device,metadata.inode) ≠ (target.device,target.inode))
    "opened payload descriptor differs from the authorized file"
  let finalPath ← finalPathFromFd host fs fd
  let finalIdentity ← pathIdentity finalPath
  let targetIdentity ← pathIdentity target.resolvedPath.path
  forbid (finalIdentity ≠ targetIdentity) "opened payload final path differs from the authorized file"
  call (fs.fdopen · fd) fun _ => []

def openVerifiedStream (target : TrustedPayload host.flavour) : Payload host.flavour ℕ := do
  let fd ← Program.handle (call (fs.openFile · target.path) fun fd => [.opened fd]) fun e =>
    Program.raise (verificationError e)
  Program.handle (do verifyDescriptor host fs target fd; return fd) fun e => do
    closeDescriptor fs fd fun _ => "opened payload descriptor could not be closed after failure"
    Program.raise (verificationError e)

def openAuthorizedPayload {β : Type} (repr : String → String) (request : Request) (body : ℕ → Body β) :
    Payload host.flavour β := do
  let target ← validatePayloadRequest fs repr request
  let fd ← openVerifiedStream host fs target
  Program.modify fun run => { run with log := .yielded fd :: run.log }
  closeStream fs (body fd).closes fd
  match (body fd).ends with
  | .ok b => return b
  | .error failure => Program.raise (.body failure)

end Hosts

section Logs
variable {flavour : Flavour}

def opens (log : List (Event flavour)) : List ℕ := log.filterMap fun
  | .opened fd => some fd
  | _ => none

def closes (log : List (Event flavour)) : List ℕ := log.filterMap fun
  | .closed fd => some fd
  | _ => none

def yields (log : List (Event flavour)) : List ℕ := log.filterMap fun
  | .yielded fd => some fd
  | _ => none

structure Holds (fds : List ℕ) (log : List (Event flavour)) : Prop where
  opens : opens log = fds
  closes : closes log = []
  yields : yields log = []

theorem Holds.nil : Holds [] ([] : List (Event flavour)) := ⟨rfl,rfl,rfl⟩

theorem Holds.resolved {fds : List ℕ} {log : List (Event flavour)} (h : Holds fds log) (path : flavour.Path) (physical : PhysicalPath flavour) :
    Holds fds (.resolved path physical :: log) := ⟨h.opens,h.closes,h.yields⟩

theorem Holds.stated {fds : List ℕ} {log : List (Event flavour)} (h : Holds fds log) (fd : ℕ) (metadata : Metadata) :
    Holds fds (.stated fd metadata :: log) := ⟨h.opens,h.closes,h.yields⟩

theorem Holds.located {fds : List ℕ} {log : List (Event flavour)} (h : Holds fds log) (fd : ℕ) (text : String) :
    Holds fds (.located fd text :: log) := ⟨h.opens,h.closes,h.yields⟩

theorem Holds.opened {log : List (Event flavour)} (h : Holds [] log) (fd : ℕ) : Holds [fd] (.opened fd :: log) :=
  ⟨congrArg (fd :: ·) h.opens,h.closes,h.yields⟩

theorem Holds.not_yielded {fds : List ℕ} {log : List (Event flavour)} (h : Holds fds log) (fd : ℕ) : .yielded fd ∉ log := by
  intro hmem
  have hyield : fd ∈ Suite.yields log := List.mem_filterMap.mpr ⟨.yielded fd,hmem,rfl⟩
  rw [h.yields] at hyield
  cases hyield

def Settled (log : List (Event flavour)) : Prop := yields log = [] ∧ closes log = opens log ∧ (opens log).length ≤ 1

theorem Holds.settled {log : List (Event flavour)} (h : Holds [] log) : Settled log := by
  refine ⟨h.yields,?_,?_⟩
  · rw [h.closes,h.opens]
  · rw [h.opens]
    exact Nat.zero_le 1

theorem Holds.closed {fd : ℕ} {log : List (Event flavour)} (h : Holds [fd] log) : Settled (.closed fd :: log) := by
  have hopens : Suite.opens (.closed fd :: log) = [fd] := h.opens
  have hcloses : Suite.closes (.closed fd :: log) = [fd] := congrArg (fd :: ·) h.closes
  refine ⟨h.yields,?_,?_⟩
  · rw [hopens,hcloses]
  · rw [hopens]
    exact le_rfl

def Reported : PayloadError → Prop
  | .failure failure => failure.isOsError = false
  | _ => True

theorem noted_reported {convert : Failure → String} (e : PayloadError) : Reported (notingOsError convert e) := by
  cases e with
  | failure failure =>
    rw [notingOsError]
    split
    · trivial
    · next h => exact Bool.eq_false_iff.mpr h
  | suitePolicyError message => trivial
  | body failure => trivial

theorem resolution_reported (e : PayloadError) : Reported (resolutionError e) := by
  cases e with
  | failure failure =>
    rw [resolutionError]
    split
    · trivial
    · next h => exact Bool.eq_false_iff.mpr fun hos => h (Or.inl hos)
  | suitePolicyError message => trivial
  | body failure => trivial

theorem verification_reported (e : PayloadError) : Reported (verificationError e) := by
  cases e with
  | failure failure =>
    rw [verificationError]
    split
    · next h => exact decide_eq_false fun hos => by rcases hos with hos | hos <;> cases h.symm.trans hos
    · trivial
  | suitePolicyError message => trivial
  | body failure => trivial

end Logs

section Calls
variable {flavour : Flavour} (fs : FileSystem flavour) {α : Type}

def Logs (log : List (Event flavour)) : Run flavour → Prop := fun run => run.log = log

-- An exception that leaves the log as it was, and is reported as it must be.
def Refuses (log : List (Event flavour)) : PayloadError → Run flavour → Prop := fun e run => Reported e ∧ run.log = log

theorem call_spec {ask : ℕ → Except Failure α} {shows : α → List (Event flavour)} (log : List (Event flavour)) :
    Program.Spec (Logs log) (call ask shows) (fun a => Logs (shows a ++ log)) fun _ => Logs log := by
  intro run hrun
  have hlog : run.log = log := hrun
  rw [call]
  cases ask run.moment with
  | ok a =>
    refine ⟨fun b t ht => ?_,fun e t ht => ?_⟩
    · cases ht
      rw [Logs,hlog]
    · cases ht
  | error failure =>
    refine ⟨fun b t ht => ?_,fun e t ht => ?_⟩
    · cases ht
    · cases ht
      exact hlog

theorem forbid_spec {condition : Prop} [Decidable condition] {message : String} (log : List (Event flavour)) :
    Program.Spec (Logs log) (forbid condition message) (fun _ run => run.log = log ∧ ¬ condition) (Refuses log) :=
  .cond (fun _ => .raised fun _ hlog => ⟨trivial,hlog⟩) fun h => .returned fun _ hlog => ⟨hlog,h⟩

theorem isLinkOrReparse_spec (component : flavour.Path) (log : List (Event flavour)) :
    Program.Spec (Logs log) (isLinkOrReparse fs component) (fun _ => Logs log) (Refuses log) := by
  refine .handled (E := fun _ => Logs log) (.bind (call_spec log) fun metadata => .cond (fun _ => .returned fun _ h => h) fun _ => ?_)
    fun e => ?_
  · exact .bind (call_spec log) fun _ => .returned fun _ h => h
  · split
    · exact .returned fun _ h => h
    · exact .raised fun _ hlog => ⟨noted_reported _,hlog⟩

theorem presentMetadata_spec (component : flavour.Path) (log : List (Event flavour)) :
    Program.Spec (Logs log) (presentMetadata fs component) (fun _ => Logs log) (Refuses log) := by
  refine .handled (call_spec log) fun e => ?_
  split
  · exact .raised fun _ hlog => ⟨trivial,hlog⟩
  · exact .raised fun _ hlog => ⟨noted_reported _,hlog⟩

theorem trustedComponent_spec (component : flavour.Path) (expectedDirectory : Bool) (log : List (Event flavour)) :
    Program.Spec (Logs log) (trustedComponent fs component expectedDirectory) (fun _ => Logs log) (Refuses log) := by
  refine .bind (isLinkOrReparse_spec fs component log) fun linked => ?_
  refine .bind (.post (forbid_spec log) fun _ _ h => h.1) fun _ => ?_
  refine .bind (presentMetadata_spec fs component log) fun metadata => ?_
  refine .bind (.post (forbid_spec log) fun _ _ h => h.1) fun _ => ?_
  refine .bind (.post (forbid_spec log) fun _ _ h => h.1) fun _ => ?_
  exact .returned fun _ h => h

theorem scanComponents_spec (ancestors : List flavour.Path) (last : flavour.Path) (log : List (Event flavour)) :
    Program.Spec (Logs log) (scanComponents fs ancestors last) (fun _ => Logs log) (Refuses log) := by
  induction ancestors with
  | nil => exact trustedComponent_spec fs last false log
  | cons component rest ih => exact .bind (trustedComponent_spec fs component true log) fun _ => ih

theorem resolvePath_spec (path : flavour.Path) (log : List (Event flavour)) :
    Program.Spec (Logs log) (resolvePath fs path) (fun physical => Logs (.resolved path physical :: log)) (Refuses log) :=
  .handled (call_spec log) fun e => .raised fun _ hlog => ⟨resolution_reported e,hlog⟩

end Calls

section Requests
variable {flavour : Flavour} (fs : FileSystem flavour) (repr : String → String) (request : Request)

structure Placed (allowance : Allowance) (root allowed candidate : flavour.Path) : Prop where
  root : flavour.isWithin candidate root = true
  exact : allowance.exact = true → flavour.same candidate allowed = true
  lane : allowance.exact = false → flavour.isWithin candidate allowed = true

structure Trusted (dataRoot : String) (allowance : Allowance) (target : TrustedPayload flavour) (log : List (Event flavour)) :
    Prop where
  held : Holds [] log
  placed : ∃ root allowed : PhysicalPath flavour, .resolved (flavour.parse dataRoot) root ∈ log ∧
    .resolved (allowance.under (flavour.parse dataRoot)) allowed ∈ log ∧
    Placed allowance root.path allowed.path target.resolvedPath.path

def Unopened : PayloadError → Run flavour → Prop := fun e run => Reported e ∧ Holds [] run.log

theorem Refuses.unopened {log : List (Event flavour)} (hlog : Holds [] log) (e : PayloadError) (run : Run flavour)
    (h : Refuses log e run) : Unopened e run := ⟨h.1,h.2 ▸ hlog⟩

theorem trustedExistingFile_spec (dataRoot path : String) (allowance : Allowance) :
    Program.Spec (Logs []) (trustedExistingFile fs dataRoot path allowance)
      (fun target run => Trusted dataRoot allowance target run.log) Unopened := by
  have hnil : ∀ (e : PayloadError) (run : Run flavour), Refuses [] e run → Unopened e run := Refuses.unopened Holds.nil
  refine .bind (.weaken (forbid_spec []) (fun _ h => h) (fun _ _ h => h.1) hnil) fun _ => ?_
  split
  · exact .raised fun _ hlog => ⟨trivial,hlog ▸ Holds.nil⟩
  · next parts _ =>
    refine .bind (.weaken (forbid_spec []) (fun _ h => h) (fun _ _ h => h.1) hnil) fun _ => ?_
    refine .bind (.weaken (scanComponents_spec fs _ _ []) (fun _ h => h) (fun _ _ h => h) hnil) fun metadata => ?_
    refine .bind (.weaken (resolvePath_spec fs _ []) (fun _ h => h) (fun _ _ h => h) hnil) fun root => ?_
    have hroot := Holds.nil.resolved (flavour.parse dataRoot) root
    refine .bind (.weaken (resolvePath_spec fs _ _) (fun _ h => h) (fun _ _ h => h) (Refuses.unopened hroot))
      fun allowed => ?_
    have hallowed := hroot.resolved (allowance.under (flavour.parse dataRoot)) allowed
    refine .bind (.weaken (resolvePath_spec fs _ _) (fun _ h => h) (fun _ _ h => h) (Refuses.unopened hallowed))
      fun candidate => ?_
    have hcandidate := hallowed.resolved (flavour.parse path) candidate
    refine .bind (.weaken (forbid_spec _) (fun _ h => h) (fun _ _ h => h) (Refuses.unopened hcandidate)) fun _ => ?_
    refine .returned fun run hrun => ?_
    obtain ⟨hlog,hkept⟩ := hrun
    simp only [not_or,not_and,Bool.not_eq_false] at hkept
    obtain ⟨_,hinside,hexact,hwithin⟩ := hkept
    rw [hlog]
    exact ⟨hcandidate,root,allowed,by simp,by simp,hinside,hexact,hwithin⟩

theorem checked_spec {α : Type} {x : Except String α} {P : Run flavour → Prop} (hP : ∀ run, P run → Logs [] run) :
    Program.Spec P (checked x) (fun a run => P run ∧ x = .ok a) Unopened := by
  cases x with
  | ok a => exact .returned fun _ h => ⟨h,rfl⟩
  | error message => exact .raised fun run h => ⟨trivial,hP run h ▸ Holds.nil⟩

def Validated (target : TrustedPayload flavour) (log : List (Event flavour)) : Prop :=
  ∃ access item allowance, Granted request access item ∧ Permitted request access item allowance ∧
    Trusted request.dataRoot allowance target log

theorem validatePayloadRequest_spec :
    Program.Spec (Logs []) (validatePayloadRequest fs repr request) (fun target run => Validated request target run.log)
      Unopened := by
  refine .bind (checked_spec fun _ h => h) fun item => ?_
  refine .bind (checked_spec fun _ h => h.1) fun access => ?_
  refine .bind (checked_spec fun _ h => h.1.1) fun allowance => ?_
  refine .pre (.assume (P := Logs []) (p := requestItem repr request = .ok item ∧
    requestAccess repr request item = .ok access ∧ requestAllowance flavour request item access = .ok allowance) ?_)
    fun _ h => ⟨h.1.1.1,h.1.1.2,h.1.2,h.2⟩
  rintro ⟨hitem,haccess,hallowance⟩
  obtain ⟨families,hfamilies,hlookup⟩ := requestItem_validated repr request hitem
  refine .post (trustedExistingFile_spec fs request.dataRoot request.path allowance) fun target run htarget => ?_
  exact ⟨access,item,allowance,⟨families,hfamilies,hlookup,requestAccess_granted repr request haccess⟩,
    requestAllowance_permitted request hallowance,htarget⟩

end Requests

section Streams
variable {flavour : Flavour}

def Opened (fd : ℕ) : PayloadError → Run flavour → Prop := fun _ run => Holds [fd] run.log

theorem Logs.opened {fd : ℕ} {log : List (Event flavour)} (hlog : Holds [fd] log) (e : PayloadError) (run : Run flavour)
    (h : Logs log run) : Opened fd e run := by
  have hrun : run.log = log := h
  rw [Opened,hrun]
  exact hlog

theorem Refuses.opened {fd : ℕ} {log : List (Event flavour)} (hlog : Holds [fd] log) (e : PayloadError) (run : Run flavour)
    (h : Refuses log e run) : Opened fd e run := Logs.opened hlog e run h.2

theorem finalPathName_spec (fs : FileSystem flavour) (fd : ℕ) (handle : ℤ) (room bufferSize : ℕ)
    (h : 32768 ≤ room + bufferSize) (log : List (Event flavour)) :
    Program.Spec (Logs log) (finalPathName fs fd handle room bufferSize h) (fun text => Logs (.located fd text :: log))
      fun _ => Logs log := by
  induction room generalizing bufferSize with
  | zero => exact .bind (call_spec log) fun name => .returned fun _ hrun => hrun
  | succ room ih =>
    refine .bind (call_spec log) fun name => ?_
    by_cases hroom : reportedLength name bufferSize < bufferSize
    · rw [dif_pos hroom,if_pos hroom]
      exact .returned fun _ hrun => hrun
    · rw [dif_neg hroom,if_neg hroom]
      exact ih _ _

theorem pathIdentity_spec (path : flavour.Path) (log : List (Event flavour)) :
    Program.Spec (Logs log) (pathIdentity path)
      (fun identity run => run.log = log ∧ identity = flavour.identity (flavour.text path)) (Refuses log) :=
  .bind (.post (forbid_spec log) fun _ _ h => h.1) fun _ => .returned fun _ h => ⟨h,rfl⟩

theorem closeDescriptor_spec (fs : FileSystem flavour) (fd : ℕ) (message : Failure → String) (log : List (Event flavour)) :
    Program.Spec (Logs log) (closeDescriptor fs fd message) (fun _ => Logs (.closed fd :: log))
      (Refuses (.closed fd :: log)) := by
  refine .bind (.modified (Q := fun _ => Logs (.closed fd :: log)) fun _ hrun => congrArg (Event.closed fd :: ·) hrun)
    fun _ => ?_
  exact .handled (call_spec _) fun e => .raised fun _ hlog => ⟨noted_reported e,hlog⟩

def Failed : PayloadError → Run flavour → Prop := fun e run => Reported e ∧ Settled run.log

theorem closeStream_spec (fs : FileSystem flavour) (closed : Bool) (fd : ℕ) (log : List (Event flavour)) :
    Program.Spec (Logs log) (closeStream fs closed fd) (fun _ => Logs (.closed fd :: log))
      (Refuses (.closed fd :: log)) :=
  .cond (fun _ => .modified fun _ hrun => congrArg (Event.closed fd :: ·) hrun) fun _ => closeDescriptor_spec fs fd _ log

end Streams

section Hosts
variable (host : Host) (fs : FileSystem host.flavour)

-- The text behind what the descriptor showed.
def Host.reads (host : Host) (shown : String) : Option String :=
  match host with
  | .linux => some shown
  | .windows _ _ => (plainNamespace shown).toOption
  | .other => none

structure Verified (target : TrustedPayload host.flavour) (log : List (Event host.flavour)) (fd : ℕ)
    (log' : List (Event host.flavour)) : Prop where
  held : Holds [fd] log'
  kept : ∀ event ∈ log, event ∈ log'
  regular : ∃ metadata, .stated fd metadata ∈ log' ∧ metadata.type = .regular
  located : ∃ shown text, .located fd shown ∈ log' ∧ host.reads shown = some text ∧
    host.flavour.isAbsolute (host.flavour.parse text) = true ∧
    host.flavour.identity (host.flavour.text (host.flavour.parse text)) =
      host.flavour.identity (host.flavour.text target.resolvedPath.path)

theorem finalText_spec (fd : ℕ) (log : List (Event host.flavour)) (hlog : Holds [fd] log) :
    Program.Spec (Logs log) (finalText host fs fd)
      (fun text run => ∃ shown, run.log = .located fd shown :: log ∧ host.reads shown = some text) (Opened fd) := by
  cases host with
  | linux =>
    have hcall : Program.Spec (Logs log) (finalText .linux fs fd) (fun text => Logs (.located fd text :: log)) fun _ => Logs log := by
      rw [finalText]
      exact call_spec log
    exact .weaken hcall (fun _ h => h) (fun text _ h => ⟨text,h,rfl⟩) (Logs.opened hlog)
  | windows lower normcase =>
    refine .bind (.weaken (call_spec log) (fun _ h => h) (fun _ _ h => h) (Logs.opened hlog)) fun handle => ?_
    refine .cond (fun _ => .raised fun run hrun => Logs.opened hlog _ run hrun) fun _ => ?_
    refine .bind (.weaken (finalPathName_spec fs fd handle _ _ _ log) (fun _ h => h) (fun _ _ h => h) (Logs.opened hlog))
      fun shown => ?_
    cases hplain : plainNamespace shown with
    | ok text =>
      refine .returned fun run hrun => ⟨shown,hrun,?_⟩
      rw [Host.reads,hplain]
      rfl
    | error failure => exact .raised fun run hrun => Logs.opened (hlog.located fd shown) _ run hrun
  | other => exact .raised fun run hrun => Logs.opened hlog _ run hrun

theorem finalPathFromFd_spec (fd : ℕ) (log : List (Event host.flavour)) (hlog : Holds [fd] log) :
    Program.Spec (Logs log) (finalPathFromFd host fs fd)
      (fun path run => ∃ shown text, run.log = .located fd shown :: log ∧ host.reads shown = some text ∧
        path = host.flavour.parse text ∧ host.flavour.isAbsolute path = true) (Opened fd) := by
  refine .bind (finalText_spec host fs fd log hlog) fun text => .cond (fun habsolute => ?_) fun _ => ?_
  · refine .returned fun run hrun => ?_
    obtain ⟨shown,hrun,hreads⟩ := hrun
    exact ⟨shown,text,hrun,hreads,rfl,habsolute⟩
  · refine .raised fun run hrun => ?_
    obtain ⟨shown,hrun,_⟩ := hrun
    exact Logs.opened (hlog.located fd shown) _ run hrun

theorem verifyDescriptor_spec (target : TrustedPayload host.flavour) (fd : ℕ) (log : List (Event host.flavour))
    (hlog : Holds [] log) :
    Program.Spec (Logs (.opened fd :: log)) (verifyDescriptor host fs target fd)
      (fun _ run => Verified host target log fd run.log) (Opened fd) := by
  have hopened := hlog.opened fd
  refine .bind (.weaken (call_spec _) (fun _ h => h) (fun _ _ h => h) (Logs.opened hopened)) fun metadata => ?_
  have hstated := hopened.stated fd metadata
  refine .bind (.weaken (forbid_spec _) (fun _ h => h) (fun _ _ h => h) (Refuses.opened hstated)) fun _ => ?_
  refine .assume fun hregular => ?_
  refine .bind (.weaken (forbid_spec _) (fun _ h => h) (fun _ _ h => h.1) (Refuses.opened hstated)) fun _ => ?_
  refine .bind (finalPathFromFd_spec host fs fd _ hstated) fun finalPath => ?_
  refine .some fun shown => .some fun text => ?_
  refine .pre (.assume (P := Logs (.located fd shown :: .stated fd metadata :: .opened fd :: log)) ?_) fun _ h => h
  rintro ⟨hreads,rfl,habsolute⟩
  have hlocated := hstated.located fd shown
  refine .bind (.weaken (pathIdentity_spec _ _) (fun _ h => h) (fun _ _ h => h) (Refuses.opened hlocated))
    fun finalIdentity => ?_
  refine .assume fun hfinal => ?_
  refine .bind (.weaken (pathIdentity_spec _ _) (fun _ h => h) (fun _ _ h => h) (Refuses.opened hlocated))
    fun targetIdentity => ?_
  refine .assume fun htarget => ?_
  refine .bind (.weaken (forbid_spec _) (fun _ h => h) (fun _ _ h => h) (Refuses.opened hlocated)) fun _ => ?_
  refine .assume fun hsame => ?_
  refine .weaken (call_spec _) (fun _ h => h) (fun _ run h => ?_) (Logs.opened hlocated)
  have hlast : run.log = .located fd shown :: .stated fd metadata :: .opened fd :: log := h
  rw [hfinal,htarget] at hsame
  rw [hlast]
  exact ⟨hlocated,fun event hevent => by simp [hevent],⟨metadata,by simp,not_not.mp hregular⟩,
    shown,text,by simp,hreads,habsolute,not_not.mp hsame⟩

theorem openVerifiedStream_spec (target : TrustedPayload host.flavour) (log : List (Event host.flavour)) (hlog : Holds [] log) :
    Program.Spec (Logs log) (openVerifiedStream host fs target) (fun fd run => Verified host target log fd run.log) Failed := by
  refine .bind (Q := fun fd => Logs (.opened fd :: log)) (.handled (call_spec log) fun e => ?_) fun fd => ?_
  · exact .raised fun run hrun => ⟨verification_reported e,(hrun : run.log = log) ▸ hlog.settled⟩
  · refine .handled (.bind (verifyDescriptor_spec host fs target fd log hlog) fun _ => .returned fun _ h => h) fun e => ?_
    refine .pre (.some fun log' => .assume (P := Logs log') (p := Holds [fd] log') fun hheld => ?_)
      fun run hrun => ⟨run.log,rfl,hrun⟩
    have hclosed : ∀ e run, Refuses (.closed fd :: log') e run → Failed e run :=
      fun e run h => ⟨h.1,h.2 ▸ hheld.closed⟩
    refine .bind (.weaken (closeDescriptor_spec fs fd _ log') (fun _ h => h) (fun _ _ h => h) hclosed) fun _ => ?_
    exact .raised fun run hrun => ⟨verification_reported e,(hrun : run.log = _) ▸ hheld.closed⟩

-- Where the open file lies, as its descriptor shows it, against the resolved root and the resolved lane or metadata file.
def Host.Located (host : Host) (exact : Bool) (root allowed : PhysicalPath host.flavour) (shown : String) : Prop :=
  match host with
  | .linux =>
    let names := (PosixPath.parse shown).normal.names
    PosixPath.names root.path <+: names ∧ PosixPath.names allowed.path <+: names ∧
      (exact = true → names = PosixPath.names allowed.path)
  | .windows lower normcase => ∃ text, plainNamespace shown = .ok text ∧
    Inside lower normcase (physicalNames (WindowsPath.parse text)) root.path ∧
      Inside lower normcase (physicalNames (WindowsPath.parse text)) allowed.path ∧
      (exact = true → List.Forall₂ (Alike lower normcase) (physicalNames (WindowsPath.parse text))
        (SeparatedText.pieces separated (WindowsPath.chars allowed.path)))
  | .other => False

theorem located_of_placed {allowance : Allowance} {root allowed target : PhysicalPath host.flavour}
    (hplaced : Placed allowance root.path allowed.path target.path) {shown text : String} (hreads : host.reads shown = some text)
    (habsolute : host.flavour.isAbsolute (host.flavour.parse text) = true)
    (hsame : host.flavour.identity (host.flavour.text (host.flavour.parse text)) =
      host.flavour.identity (host.flavour.text target.path)) : host.Located allowance.exact root allowed shown := by
  cases host with
  | linux =>
    cases hreads
    have hnames : (PosixPath.parse shown).normal.names = PosixPath.names target.path :=
      posix_identity habsolute target.resolved hsame
    have hequal : allowance.exact = true → PosixPath.names target.path = PosixPath.names allowed.path :=
      fun hexact => congrArg PosixPath.names (posix_same (hplaced.exact hexact))
    rw [Host.Located,hnames]
    refine ⟨posix_within hplaced.root,?_,hequal⟩
    cases hmode : allowance.exact with
    | true => exact hequal hmode ▸ List.prefix_rfl
    | false => exact posix_within (hplaced.lane hmode)
  | windows lower normcase =>
    have htext : plainNamespace shown = .ok text := by
      rw [Host.reads] at hreads
      cases hplain : plainNamespace shown with
      | ok held =>
        rw [hplain] at hreads
        exact congrArg Except.ok (Option.some.inj hreads)
      | error failure =>
        rw [hplain] at hreads
        cases hreads
    have hnames : (physicalNames (WindowsPath.parse text)).map normcase.fold =
      (SeparatedText.pieces separated (WindowsPath.chars target.path)).map normcase.fold := identity_names target.resolved hsame
    have hroot := inside_of_within target.resolved.1 hnames hplaced.root
    have hequal : allowance.exact = true → List.Forall₂ (Alike lower normcase) (physicalNames (WindowsPath.parse text))
      (SeparatedText.pieces separated (WindowsPath.chars allowed.path)) := fun hexact => alike_of_same hnames (hplaced.exact hexact)
    refine ⟨text,htext,hroot,?_,hequal⟩
    cases hmode : allowance.exact with
    | true => exact ⟨_,List.prefix_rfl,hequal hmode⟩
    | false => exact inside_of_within target.resolved.1 hnames (hplaced.lane hmode)
  | other => cases hreads

def Contained (request : Request) (log : List (Event host.flavour)) (fd : ℕ) : Prop :=
  ∃ access item allowance, Granted request access item ∧ Permitted request access item allowance ∧
    ∃ (root allowed : PhysicalPath host.flavour) (metadata : Metadata) (shown : String),
      .resolved (host.flavour.parse request.dataRoot) root ∈ log ∧
      .resolved (allowance.under (host.flavour.parse request.dataRoot)) allowed ∈ log ∧
      .stated fd metadata ∈ log ∧ metadata.type = .regular ∧ .located fd shown ∈ log ∧
      host.Located allowance.exact root allowed shown

variable {host}

theorem contained_of_verified {request : Request} {target : TrustedPayload host.flavour} {log log' : List (Event host.flavour)}
    {fd : ℕ} (hvalid : Validated request target log) (h : Verified host target log fd log') :
    Contained host request log' fd := by
  obtain ⟨access,item,allowance,hgranted,hpermitted,htrusted⟩ := hvalid
  obtain ⟨root,allowed,hroot,hallowed,hplaced⟩ := htrusted.placed
  obtain ⟨metadata,hstated,hregular⟩ := h.regular
  obtain ⟨shown,text,hlocated,hreads,habsolute,hsame⟩ := h.located
  exact ⟨access,item,allowance,hgranted,hpermitted,root,allowed,metadata,shown,h.kept _ hroot,h.kept _ hallowed,hstated,
    hregular,hlocated,located_of_placed host hplaced hreads habsolute hsame⟩

def Ended (host : Host) (request : Request) (log : List (Event host.flavour)) : Prop :=
  Settled log ∨
    ∃ fd before, log = .closed fd :: .yielded fd :: before ∧ Holds [fd] before ∧ Contained host request before fd

def Closing (host : Host) (request : Request) : PayloadError → Run host.flavour → Prop :=
  fun e run => Reported e ∧ Ended host request run.log

theorem openAuthorizedPayload_spec {β : Type} (repr : String → String) (request : Request) (body : ℕ → Body β) :
    Program.Spec (Logs []) (openAuthorizedPayload host fs repr request body) (fun _ run => Ended host request run.log)
      (Closing host request) := by
  refine .bind (.weaken (validatePayloadRequest_spec fs repr request) (fun _ h => h) (fun _ _ h => h)
    fun _ _ h => ⟨h.1,.inl h.2.settled⟩) fun target => ?_
  refine .pre (.some fun log => .assume (P := Logs log) (p := Validated request target log) fun hvalid => ?_)
    fun run hrun => ⟨run.log,rfl,hrun⟩
  have hheld : Holds [] log := by
    obtain ⟨_,_,_,_,_,htrusted⟩ := hvalid
    exact htrusted.held
  refine .bind (.weaken (openVerifiedStream_spec host fs target log hheld) (fun _ h => h) (fun _ _ h => h)
    fun _ _ h => ⟨h.1,.inl h.2⟩) fun fd => ?_
  refine .pre (.some fun log' => .assume (P := Logs log') (p := Verified host target log fd log') fun hverified => ?_)
    fun run hrun => ⟨run.log,rfl,hrun⟩
  have hended : Ended host request (.closed fd :: .yielded fd :: log') :=
    .inr ⟨fd,log',rfl,hverified.held,contained_of_verified hvalid hverified⟩
  refine .bind (.modified (Q := fun _ => Logs (.yielded fd :: log')) fun run hrun => congrArg (Event.yielded fd :: ·) hrun)
    fun _ => ?_
  have hends : Program.Spec (Logs (.closed fd :: .yielded fd :: log'))
      (match (body fd).ends with
        | .ok b => (pure b : Payload host.flavour β)
        | .error failure => Program.raise (.body failure)) (fun _ run => Ended host request run.log) (Closing host request) := by
    cases (body fd).ends with
    | ok b => exact .returned fun run hrun => (hrun : run.log = _) ▸ hended
    | error failure => exact .raised fun run hrun => ⟨trivial,(hrun : run.log = _) ▸ hended⟩
  have hlogged : ∀ e run, Refuses (.closed fd :: .yielded fd :: log') e run → Closing host request e run :=
    fun e run h => ⟨h.1,h.2 ▸ hended⟩
  exact .bind (.weaken (closeStream_spec fs (body fd).closes fd _) (fun _ h => h) (fun _ _ h => h) hlogged) fun _ => hends

end Hosts

theorem Ended.contained {host : Host} {request : Request} {log : List (Event host.flavour)} (h : Ended host request log) {fd : ℕ}
    (hyield : .yielded fd ∈ log) :
    ∃ before, log = .closed fd :: .yielded fd :: before ∧ opens before = [fd] ∧ closes before = [] ∧
      Contained host request before fd := by
  obtain hsettled | ⟨fd',before,rfl,hheld,hcontained⟩ := h
  · have hmem : fd ∈ yields log := List.mem_filterMap.mpr ⟨.yielded fd,hyield,rfl⟩
    rw [hsettled.1] at hmem
    cases hmem
  · simp only [List.mem_cons,reduceCtorEq,Event.yielded.injEq,false_or,hheld.not_yielded fd,or_false] at hyield
    subst hyield
    exact ⟨before,rfl,hheld.opens,hheld.closes,hcontained⟩

theorem Ended.closed {host : Host} {request : Request} {log : List (Event host.flavour)} (h : Ended host request log) :
    closes log = opens log ∧ (opens log).length ≤ 1 := by
  obtain hsettled | ⟨fd,before,rfl,hheld,_⟩ := h
  · exact hsettled.2
  · have hopens : opens (.closed fd :: .yielded fd :: before) = [fd] := hheld.opens
    have hcloses : closes (.closed fd :: .yielded fd :: before) = [fd] := congrArg (fd :: ·) hheld.closes
    rw [hopens,hcloses]
    exact ⟨rfl,le_rfl⟩

theorem stream_contained {β : Type} (host : Host) (fs : FileSystem host.flavour) (repr : String → String) (request : Request)
    (body : ℕ → Body β) (moment : ℕ) :
    let (result,run) := openAuthorizedPayload host fs repr request body ⟨moment,[]⟩
    (∀ fd, .yielded fd ∈ run.log → ∃ before, run.log = .closed fd :: .yielded fd :: before ∧ opens before = [fd] ∧
      closes before = [] ∧ Contained host request before fd) ∧
    closes run.log = opens run.log ∧ (opens run.log).length ≤ 1 ∧
    ∀ failure, result = .error (.failure failure) → failure.isOsError = false := by
  obtain ⟨hok,herror⟩ := openAuthorizedPayload_spec fs repr request body ⟨moment,[]⟩ rfl
  cases hrun : openAuthorizedPayload host fs repr request body ⟨moment,[]⟩ with
  | mk result run =>
    have hended : Ended host request run.log := by
      cases result with
      | ok b => exact hok b run hrun
      | error e => exact (herror e run hrun).2
    refine ⟨fun fd hyield => hended.contained hyield,hended.closed.1,hended.closed.2,?_⟩
    rintro failure rfl
    exact (herror (.failure failure) run hrun).1

def documentedPolicy : Json := .obj [
  ("manifest_kind",.str "pneuma_foundation_dataset_suite"),
  ("manifest_schema_version",.str "0.1.0"),
  ("first_stage",.obj [("stage",.str "100k"),("authorized_lane_candidates",textList ["swe-gym-openhands-sampled"])]),
  ("evaluation_identity",.obj expectedEvaluationIdentity),
  ("families",.arr (expectedFamilyMatrix.map fun row => .obj row.item))]

section Samples

theorem separated_plain {c : Char} (hback : c.val.toNat ≠ 92) (hslash : c.val.toNat ≠ 47) : separated c = false := by
  rw [separated,Bool.or_eq_false_iff,beq_eq_false_iff_ne,beq_eq_false_iff_ne]
  exact ⟨fun h => hback (h ▸ rfl),fun h => hslash (h ▸ rfl)⟩

theorem separated_toLower (c : Char) : separated c.toLower = separated c := by
  by_cases hupper : c.val ≥ 'A'.val ∧ c.val ≤ 'Z'.val
  · have hlow : 65 ≤ c.val.toNat := UInt32.le_iff_toNat_le.mp hupper.1
    have hhigh : c.val.toNat ≤ 90 := UInt32.le_iff_toNat_le.mp hupper.2
    have hcased : c.toLower = _ := dif_pos hupper
    have hraised : c.toLower.val.toNat = c.val.toNat + 32 := by
      rw [hcased]
      exact (UInt32.toNat_add _ _).trans (Nat.mod_eq_of_lt (lt_of_le_of_lt (Nat.add_le_add_right hhigh _) (by decide)))
    rw [separated_plain (c := c) (by omega) (by omega),separated_plain (by omega) (by omega)]
  · have hplain : c.toLower = c := dif_neg hupper
    rw [hplain]

def asciiLower : SeparatedText.Folding separated := .chars Char.toLower separated_toLower

def caseHost : Host := .windows asciiLower asciiLower

def swappedName : FinalName where
  text := "\\\\?\\D:\\processed\\swe-gym\\OPENHANDS-SAMPLED\\a"
  units := 44
  nonempty := by decide
  bounded := by decide

-- The file is moved into a directory of another case, and a link to it is left at its place.
def caseFileSystem : FileSystem caseHost.flavour where
  lstat _ path := .ok ⟨if (WindowsPath.names path).length = 4 then .regular else .directory,false,1,2⟩
  isJunction _ _ := false
  resolve _ path :=
    if h : WindowsPath.isAbsolute path = true ∧ windowsNormal (WindowsPath.chars path) = WindowsPath.chars path then .ok ⟨path,h⟩
    else .error ⟨.osError,"no such path"⟩
  openFile _ _ := .ok 7
  fstat _ _ := .ok ⟨.regular,false,1,2⟩
  readlink _ _ := .error ⟨.osError,"no such call"⟩
  osHandle _ _ := .ok 5
  finalPathName _ _ := .ok swappedName
  fdopen _ _ := .ok ()
  closeFile _ _ := .ok ()

def caseLog : List (Event caseHost.flavour) := (openAuthorizedPayload caseHost caseFileSystem id
  ⟨documentedPolicy,"100k","swe-gym",some "swe-gym-openhands-sampled","D:\\","D:\\processed/swe-gym\\openhands-sampled\\a"⟩
  (fun _ => ⟨false,.ok ()⟩) ⟨0,[]⟩).2.log

def located (log : List (Event caseHost.flavour)) : List String := log.filterMap fun
  | .located _ text => some text
  | _ => none

def resolutions (log : List (Event caseHost.flavour)) : List (List Char) := log.filterMap fun
  | .resolved _ physical => some (WindowsPath.chars physical.path)
  | _ => none

def caseLane : List Char := "D:\\processed\\swe-gym\\openhands-sampled".toList

theorem case_run : (yields caseLog,located caseLog,resolutions caseLog) =
    ([7],[swappedName.text],[caseLane ++ ['\\','a'],caseLane,['D',':','\\']]) := by
  decide +kernel

theorem case_outside : ¬ SeparatedText.pieces separated caseLane <+:
    physicalNames (WindowsPath.parse "D:\\processed\\swe-gym\\OPENHANDS-SAMPLED\\a") := by
  decide

-- The stream lies in a directory whose name is the lane's in another case.
theorem other_case_yielded : yields caseLog = [7] ∧ located caseLog = [swappedName.text] ∧
    resolutions caseLog = [caseLane ++ ['\\','a'],caseLane,['D',':','\\']] ∧
    plainNamespace swappedName.text = .ok "D:\\processed\\swe-gym\\OPENHANDS-SAMPLED\\a" ∧
    ¬ SeparatedText.pieces separated caseLane <+:
      physicalNames (WindowsPath.parse "D:\\processed\\swe-gym\\OPENHANDS-SAMPLED\\a") := by
  obtain ⟨hyields,hshown⟩ := Prod.mk.inj case_run
  obtain ⟨hlocated,hresolved⟩ := Prod.mk.inj hshown
  exact ⟨hyields,hlocated,hresolved,by decide,case_outside⟩

end Samples

end PneumaLab.Foundation.Suite
