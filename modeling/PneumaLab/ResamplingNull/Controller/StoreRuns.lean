import PneumaLab.ResamplingNull.Controller.Store

namespace PneumaLab.ResamplingNull.Controller

inductive Status where
  | outside
  | filling (file : Inode) (offset : ℕ)
  | filled
  | removing
  | committed
  deriving DecidableEq

namespace Phase

def status : Phase → Status
  | writing file offset => .filling file offset
  | syncFile | closeWrite | syncRole | reopen => .filled
  | statFile created _ | reading created _ _ | statName created _ _ => if created then .filled else .outside
  | closeRead created | closeRole created => if created then .filled else .committed
  | reopenRole | unlink => .removing
  | returned => .committed
  | mkdirRole | syncArtifacts | openRole | statRole | create | openExisting | syncCleanup | raised | crashed => .outside

def sight : Phase → Option (Inode × Bytes)
  | statFile _ file => some (file,[])
  | reading _ file observed | statName _ file observed => some (file,observed)
  | _ => none

def entered : Phase → Bool
  | mkdirRole | raised | crashed => false
  | _ => true

end Phase

section Steps
variable (sha256 : Bytes → Digest)

inductive Acts (disk : Disk) (call : WriteCall) (before : Phase) (reply : Reply) : Disk → Phase → Prop
  | moves (after : Phase) : after.status = before.status →
      (∀ file observed, after.sight = some (file,observed) →
        before.sight = some (file,observed) ∨ observed = [] ∧ disk.names (call.address sha256) = some file) →
      Acts disk call before reply disk after
  | reads (after : Phase) (file : Inode) (observed chunk : Bytes) : after.status = before.status →
      before.sight = some (file,observed) → after.sight = some (file,observed ++ chunk) →
      chunk <+: (disk.content file).drop observed.length → Acts disk call before reply disk after
  | enters : before = .mkdirRole → Acts disk call before reply {disk with roles := insert call.role disk.roles} .syncArtifacts
  | creates : before = .create → disk.names (call.address sha256) = none →
      Acts disk call before reply (disk.bind (call.address sha256)) (nextWrite call disk.fresh 0)
  | fills (file : Inode) (offset : ℕ) (chunk : Bytes) : before = .writing file offset →
      chunk <+: call.payload.drop offset → chunk ≠ [] →
      Acts disk call before reply (disk.writeAt file offset chunk) (nextWrite call file (offset + chunk.length))
  | adopts (file : Inode) : before = .statName false file call.payload →
      disk.names (call.address sha256) = some file → Acts disk call before reply disk (.closeRead false)
  | returns : before.status = .filled → Acts disk call before reply disk .returned
  | fails (after : Phase) : (∃ file offset, before.status = .filling file offset) ∨ before.status = .filled →
      after.status = .removing → after.sight = none → Acts disk call before reply disk after
  | removes (moved : ℕ) : before = .unlink → reply = .works moved →
      Acts disk call before reply (disk.unbind (call.address sha256)) .syncCleanup
  | leaves (after : Phase) : (∀ moved, reply ≠ .works moved) → ((∃ file offset, before.status = .filling file offset) → reply = .dies) →
      after.status = .outside → after.sight = none → Acts disk call before reply disk after

variable {sha256} {disk : Disk} {call : WriteCall}

theorem unseen {P : Inode → Bytes → Prop} {after : Phase} (h : after.sight = none) :
    ∀ file observed, after.sight = some (file,observed) → P file observed := by
  intro file observed hsight
  rw [h] at hsight
  cases hsight

theorem acts_works {phase : Phase} (moved : ℕ) (hentered : phase.entered = true → call.role ∈ disk.roles) :
    Acts sha256 disk call phase (.works moved) (perform sha256 disk call phase moved).1 (perform sha256 disk call phase moved).2 := by
  cases phase with
  | mkdirRole =>
    rw [perform]
    split
    · exact .moves _ rfl (unseen rfl)
    · exact .enters rfl
  | syncArtifacts => exact .moves _ rfl (unseen rfl)
  | openRole =>
    refine .moves _ ?_ ?_ <;> rw [perform] <;> split <;> simp [Phase.status,Phase.sight]
  | statRole => exact .moves _ rfl (unseen rfl)
  | create =>
    rw [perform]
    cases hname : disk.names (call.address sha256) with
    | some file => exact .moves _ rfl (unseen rfl)
    | none => exact .creates rfl hname
  | writing file offset =>
    rw [perform]
    split
    · exact .fails _ (.inl ⟨_,_,rfl⟩) rfl rfl
    · next hchunk => exact .fills file offset _ rfl (List.take_prefix _ _) hchunk
  | syncFile => exact .moves _ rfl (unseen rfl)
  | closeWrite => exact .moves _ rfl (unseen rfl)
  | syncRole => exact .moves _ rfl (unseen rfl)
  | reopen =>
    rw [perform]
    cases hname : disk.names (call.address sha256) with
    | some file => exact .moves _ rfl (by simp [Phase.sight,hname])
    | none => exact .fails _ (.inr rfl) rfl rfl
  | openExisting =>
    rw [perform]
    cases hname : disk.names (call.address sha256) with
    | some file => exact .moves _ rfl (by simp [Phase.sight,hname])
    | none => exact .moves _ rfl (unseen rfl)
  | statFile created file => exact .moves _ rfl fun _ _ hsight => .inl hsight
  | reading created file observed =>
    rw [perform]
    dsimp only
    split
    · exact .moves _ rfl fun _ _ hsight => .inl hsight
    · exact .reads _ file observed _ rfl rfl rfl (List.take_prefix _ _)
  | statName created file observed =>
    rw [perform]
    split
    · next hverified =>
      rw [Bool.and_eq_true,verified,decide_eq_true_eq,decide_eq_true_eq] at hverified
      obtain ⟨hname,rfl,-⟩ := hverified
      cases created with
      | true => exact .moves _ rfl (unseen rfl)
      | false => exact .adopts file rfl hname
    · cases created with
      | true => exact .fails _ (.inr rfl) rfl rfl
      | false => exact .moves _ rfl (unseen rfl)
  | closeRead created => exact .moves _ rfl (unseen rfl)
  | closeRole created =>
    cases created with
    | true => exact .returns rfl
    | false => exact .moves _ rfl (unseen rfl)
  | reopenRole =>
    rw [perform,if_pos (hentered rfl)]
    exact .moves _ rfl (unseen rfl)
  | unlink => exact .removes moved rfl rfl
  | syncCleanup => exact .moves _ rfl (unseen rfl)
  | returned => exact .moves _ rfl (unseen rfl)
  | raised => exact .moves _ rfl (unseen rfl)
  | crashed => exact .moves _ rfl (unseen rfl)

theorem acts_fails (phase : Phase) : Acts sha256 disk call phase .fails disk phase.afterFailure := by
  have hnot (moved : ℕ) : Reply.fails ≠ .works moved := by simp
  cases phase with
  | mkdirRole => exact .moves _ rfl (unseen rfl)
  | syncArtifacts => exact .moves _ rfl (unseen rfl)
  | openRole => exact .moves _ rfl (unseen rfl)
  | statRole => exact .moves _ rfl (unseen rfl)
  | create => exact .moves _ rfl (unseen rfl)
  | openExisting => exact .moves _ rfl (unseen rfl)
  | writing file offset => exact .fails _ (.inl ⟨_,_,rfl⟩) rfl rfl
  | syncFile => exact .fails _ (.inr rfl) rfl rfl
  | closeWrite => exact .fails _ (.inr rfl) rfl rfl
  | syncRole => exact .fails _ (.inr rfl) rfl rfl
  | reopen => exact .fails _ (.inr rfl) rfl rfl
  | statFile created file =>
    cases created with
    | true => exact .fails _ (.inr rfl) rfl rfl
    | false => exact .moves _ rfl (unseen rfl)
  | reading created file observed =>
    cases created with
    | true => exact .fails _ (.inr rfl) rfl rfl
    | false => exact .moves _ rfl (unseen rfl)
  | statName created file observed =>
    cases created with
    | true => exact .fails _ (.inr rfl) rfl rfl
    | false => exact .moves _ rfl (unseen rfl)
  | closeRead created =>
    cases created with
    | true => exact .fails _ (.inr rfl) rfl rfl
    | false => exact .leaves _ hnot (by simp [Phase.status]) rfl rfl
  | closeRole created =>
    cases created with
    | true => exact .fails _ (.inr rfl) rfl rfl
    | false => exact .leaves _ hnot (by simp [Phase.status]) rfl rfl
  | reopenRole => exact .leaves _ hnot (by simp [Phase.status]) rfl rfl
  | unlink => exact .leaves _ hnot (by simp [Phase.status]) rfl rfl
  | syncCleanup => exact .moves _ rfl (unseen rfl)
  | returned => exact .moves _ rfl (unseen rfl)
  | raised => exact .moves _ rfl (unseen rfl)
  | crashed => exact .moves _ rfl (unseen rfl)

theorem acts_dies (phase : Phase) :
    Acts sha256 disk call phase .dies disk (if phase.final then phase else .crashed) := by
  split
  · exact .moves _ rfl fun file observed h => .inl h
  · exact .leaves _ (by simp) (fun _ => rfl) rfl rfl

theorem step_acts {writer : Writer} (reply : Reply) (hentered : writer.phase.entered = true → writer.call.role ∈ disk.roles) :
    (writer.step sha256 disk reply).2.call = writer.call ∧
      Acts sha256 disk writer.call writer.phase reply (writer.step sha256 disk reply).1 (writer.step sha256 disk reply).2.phase := by
  cases reply with
  | works moved => exact ⟨rfl,acts_works moved hentered⟩
  | fails => exact ⟨rfl,acts_fails _⟩
  | dies => exact ⟨rfl,acts_dies _⟩

theorem roles_grow {before after : Phase} {reply : Reply} {disk' : Disk}
    (h : Acts sha256 disk call before reply disk' after) : disk.roles ⊆ disk'.roles := by
  cases h with
  | enters _ => exact Finset.subset_insert _ _
  | moves _ _ _ | reads _ _ _ _ _ _ _ _ | creates _ _ | fills _ _ _ _ _ _ | adopts _ _ _ | returns _ | fails _ _ _ _
  | removes _ _ _ | leaves _ _ _ _ _ => exact Finset.Subset.refl _

theorem entered_step {writer : Writer} {reply : Reply} (hentered : writer.phase.entered = true → writer.call.role ∈ disk.roles)
    (h : (writer.step sha256 disk reply).2.phase.entered = true) :
    writer.call.role ∈ (writer.step sha256 disk reply).1.roles := by
  obtain ⟨call,phase⟩ := writer
  cases hbefore : phase.entered with
  | true => exact roles_grow (step_acts reply hentered).2 (hentered hbefore)
  | false =>
    cases phase with
    | mkdirRole =>
      cases reply with
      | works moved =>
        simp only [Writer.step,perform]
        split
        · assumption
        · exact Finset.mem_insert_self _ _
      | fails => cases h
      | dies => cases h
    | raised => cases reply <;> cases h
    | crashed => cases reply <;> cases h
    | _ => cases hbefore

end Steps

section Invariant
variable (sha256 : Bytes → Digest)

def Status.owns : Status → Bool
  | filling _ _ | filled | removing => true
  | outside | committed => false

structure Placed (disk : Disk) (call : WriteCall) (phase : Phase) : Prop where
  entered : phase.entered = true → call.role ∈ disk.roles
  filling : ∀ file offset, phase.status = .filling file offset →
    disk.names (call.address sha256) = some file ∧ disk.content file = call.payload.take offset ∧ offset < call.payload.length
  whole : phase.status = .filled ∨ phase.status = .committed →
    ∃ file, disk.names (call.address sha256) = some file ∧ disk.content file = call.payload
  removing : phase.status = .removing → ∃ file, disk.names (call.address sha256) = some file
  sighted : ∀ file observed, phase.sight = some (file,observed) → file < disk.fresh ∧ observed <+: disk.content file

def Backs (disk : Disk) (writer : Writer) (file : Inode) : Prop :=
  disk.content file = writer.call.payload ∨ disk.content file <+: writer.call.payload ∧
    ((∃ offset, writer.phase.status = .filling file offset) ∨ writer.phase.status = .removing)

structure Kept (system : System) : Prop where
  placed : ∀ i writer, system.writers i = some writer → Placed sha256 system.disk writer.call writer.phase
  lone : ∀ i j writer other, system.writers i = some writer → system.writers j = some other →
    writer.phase.status.owns = true → other.phase.status.owns = true →
    writer.call.address sha256 = other.call.address sha256 → i = j
  ranged : ∀ address file, system.disk.names address = some file → file < system.disk.fresh
  single : ∀ address other file, system.disk.names address = some file → system.disk.names other = some file → address = other
  roomed : ∀ address file, system.disk.names address = some file → address.1 ∈ system.disk.roles
  backed : ∀ address file, system.disk.names address = some file → ∃ i writer, system.writers i = some writer ∧
    writer.call.address sha256 = address ∧ Backs system.disk writer file

end Invariant

section Placing
variable {sha256 : Bytes → Digest} {disk : Disk} {call : WriteCall} {phase : Phase}

theorem Placed.enter (h : Placed sha256 disk call phase) (role : String) :
    Placed sha256 {disk with roles := insert role disk.roles} call phase :=
  ⟨fun hentered => Finset.mem_insert_of_mem (h.entered hentered),h.filling,h.whole,h.removing,h.sighted⟩

theorem names_bind {address other : Address} {file : Inode} (hnone : disk.names address = none)
    (h : disk.names other = some file) : (disk.bind address).names other = some file := by
  have hne : other ≠ address := by
    rintro rfl
    simp [hnone] at h
  exact (Function.update_of_ne hne _ _).trans h

theorem content_bind {file : Inode} (address : Address) (h : file < disk.fresh) :
    (disk.bind address).content file = disk.content file := Function.update_of_ne h.ne _ _

theorem Placed.bind (h : Placed sha256 disk call phase) {address : Address} (hnone : disk.names address = none)
    (hranged : ∀ other file, disk.names other = some file → file < disk.fresh) :
    Placed sha256 (disk.bind address) call phase where
  entered := h.entered
  filling := by
    intro file offset hstatus
    obtain ⟨hname,hcontent,hlt⟩ := h.filling file offset hstatus
    exact ⟨names_bind hnone hname,(content_bind address (hranged _ _ hname)).trans hcontent,hlt⟩
  whole := by
    intro hstatus
    obtain ⟨file,hname,hcontent⟩ := h.whole hstatus
    exact ⟨file,names_bind hnone hname,(content_bind address (hranged _ _ hname)).trans hcontent⟩
  removing := by
    intro hstatus
    obtain ⟨file,hname⟩ := h.removing hstatus
    exact ⟨file,names_bind hnone hname⟩
  sighted := by
    intro file observed hsight
    obtain ⟨hfresh,hinitial⟩ := h.sighted file observed hsight
    rw [content_bind address hfresh]
    exact ⟨Nat.lt_succ_of_lt hfresh,hinitial⟩

theorem content_writeAt {file : Inode} {offset : ℕ} {chunk : Bytes} (h : (disk.content file).length = offset) :
    (disk.writeAt file offset chunk).content file = disk.content file ++ chunk := by
  subst h
  simp [Disk.writeAt]

theorem content_writeAt_ne {file other : Inode} {offset : ℕ} {chunk : Bytes} (h : other ≠ file) :
    (disk.writeAt file offset chunk).content other = disk.content other := Function.update_of_ne h _ _

theorem Placed.writeAt (h : Placed sha256 disk call phase) {file : Inode} {offset : ℕ} {chunk : Bytes}
    (hlength : (disk.content file).length = offset)
    (hother : phase.status ≠ .outside → disk.names (call.address sha256) ≠ some file) :
    Placed sha256 (disk.writeAt file offset chunk) call phase where
  entered := h.entered
  filling := by
    intro other position hstatus
    obtain ⟨hname,hcontent,hlt⟩ := h.filling other position hstatus
    have hne : other ≠ file := by
      rintro rfl
      exact hother (by simp [hstatus]) hname
    exact ⟨hname,(content_writeAt_ne hne).trans hcontent,hlt⟩
  whole := by
    intro hstatus
    obtain ⟨other,hname,hcontent⟩ := h.whole hstatus
    have hne : other ≠ file := by
      rintro rfl
      exact hother (by rcases hstatus with hstatus | hstatus <;> simp [hstatus]) hname
    exact ⟨other,hname,(content_writeAt_ne hne).trans hcontent⟩
  removing := h.removing
  sighted := by
    intro other observed hsight
    obtain ⟨hfresh,hinitial⟩ := h.sighted other observed hsight
    refine ⟨hfresh,?_⟩
    by_cases hfile : other = file
    · subst hfile
      rw [content_writeAt hlength]
      exact hinitial.trans (List.prefix_append _ _)
    · rwa [content_writeAt_ne hfile]

theorem Placed.unbind (h : Placed sha256 disk call phase) {address : Address}
    (hother : phase.status ≠ .outside → call.address sha256 ≠ address) :
    Placed sha256 (disk.unbind address) call phase := by
  have hnames (hstatus : phase.status ≠ .outside) :
      (disk.unbind address).names (call.address sha256) = disk.names (call.address sha256) :=
    Function.update_of_ne (hother hstatus) _ _
  refine ⟨h.entered,fun file offset hstatus => ?_,fun hstatus => ?_,fun hstatus => ?_,h.sighted⟩
  · rw [hnames (by simp [hstatus])]
    exact h.filling file offset hstatus
  · rw [hnames (by rcases hstatus with hstatus | hstatus <;> simp [hstatus])]
    exact h.whole hstatus
  · rw [hnames (by simp [hstatus])]
    exact h.removing hstatus

end Placing

end PneumaLab.ResamplingNull.Controller
