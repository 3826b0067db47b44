import PneumaLab.Foundation.PublicationRollback

namespace PneumaLab.Foundation

open Program

section Conditions
variable (host : PublicationHost) (initial : Directory) (writes : List (String × Bytes))

def writtenDirectory : List (String × Bytes) → Directory :=
  List.foldl (fun directory target => Function.update directory target.1 (some (.file target.2))) initial

def NoClash : Prop := ∀ target ∈ writes, ∀ other ∈ writes, ∀ tried,
  backupNameOf target.1 (host.backupToken target.1 tried) ≠ other.1

structure DrawsUnused : Prop where
  backupAbsent : ∀ target ∈ writes, initial (backupNameOf target.1 (host.backupToken target.1 0)) = none
  temporaryAbsent : ∀ target ∈ writes, initial (temporaryNameOf target.1 (host.temporaryToken target.1 0)) = none
  temporaryUnwritten : ∀ target ∈ writes, ∀ other ∈ writes,
    temporaryNameOf target.1 (host.temporaryToken target.1 0) ≠ other.1
  backupDistinct : ∀ target ∈ writes, ∀ other ∈ writes, target.1 ≠ other.1 → ∀ tried,
    backupNameOf other.1 (host.backupToken other.1 tried) ≠ backupNameOf target.1 (host.backupToken target.1 0)
  temporaryDistinct : ∀ target ∈ writes, ∀ other ∈ writes, ∀ tried,
    temporaryNameOf target.1 (host.temporaryToken target.1 0) ≠ backupNameOf other.1 (host.backupToken other.1 tried)

-- The exception comes from closing the ancestry's descriptors right after a target that did not exist was replaced.
def ClosesNewTarget : Prop := ∃ done target rest, writes = done ++ target :: rest ∧
  host.fault = some (.publish target.1 .closeAncestry) ∧ initial target.1 = none ∧
  ∀ earlier ∈ done, initial earlier.1 ≠ some .other

def AllOrNothing : Prop :=
  match bindArtifactPublication host writes (Session.start initial) with
  | (.ok _,session) => session.directory = writtenDirectory initial writes
  | (.error _,session) => session.directory = initial

end Conditions

def backupsOf (published : List PublishedArtifact) : List String :=
  published.filterMap fun record => if record.backupCreated then record.backupName else none

def withoutBackups (published : List PublishedArtifact) (directory : Directory) : Directory :=
  fun name => if name ∈ backupsOf published then none else directory name

section Loop
variable {host : PublicationHost} {initial : Directory} {writes done : List (String × Bytes)}

structure Staged (host : PublicationHost) (initial : Directory) (done : List (String × Bytes)) (session : Session) : Prop where
  open_ : session.committed = false
  restores : session.published.foldl restoreRecord session.directory = initial
  untouched : ∀ name, (∀ target ∈ done, target.1 ≠ name) →
    (∀ target ∈ done, ∀ tried, backupNameOf target.1 (host.backupToken target.1 tried) ≠ name) →
    session.directory name = initial name
  named : ∀ record ∈ session.published, ∃ target ∈ done, record.name = target.1
  backups : ∀ record ∈ session.published, ∀ backup, record.backupName = some backup →
    ∃ target ∈ done, ∃ tried, backup = backupNameOf target.1 (host.backupToken target.1 tried)
  regular : ∀ target ∈ done, initial target.1 ≠ some .other
  closed : ∀ target ∈ done, host.fault ≠ some (.publish target.1 .closeAncestry)
  cleaned : withoutBackups session.published session.directory = writtenDirectory initial done

theorem staged_start : Staged host initial [] (Session.start initial) where
  open_ := rfl
  restores := rfl
  untouched _ _ _ := rfl
  named := List.forall_mem_nil _
  backups := List.forall_mem_nil _
  regular := List.forall_mem_nil _
  closed := List.forall_mem_nil _
  cleaned := funext fun _ => if_neg List.not_mem_nil

theorem mem_backupsOf {published : List PublishedArtifact} {backup : String} :
    backup ∈ backupsOf published ↔ ∃ record ∈ published, record.backupCreated = true ∧ record.backupName = some backup := by
  simp only [backupsOf,List.mem_filterMap]
  refine exists_congr fun record => and_congr_right fun _ => ?_
  cases record.backupCreated <;> simp

variable {name : String} {payload : Bytes} {session next : Session} {after : Directory} {kept : PublishedArtifact}

theorem Staged.not_backup (h : Staged host initial done session)
    (hclash : ∀ target ∈ done, ∀ tried, backupNameOf target.1 (host.backupToken target.1 tried) ≠ name) :
    name ∉ backupsOf session.published := by
  intro hbackup
  obtain ⟨record,hrecord,_,hname⟩ := mem_backupsOf.mp hbackup
  obtain ⟨target,htarget,tried,he⟩ := h.backups record hrecord name hname
  exact hclash target htarget tried he.symm

theorem writtenDirectory_append : writtenDirectory initial (done ++ [(name,payload)]) =
    Function.update (writtenDirectory initial done) name (some (.file payload)) := by
  rw [writtenDirectory,List.foldl_append]
  rfl

theorem backed_cases {before : Directory} (h : Backed host (newRecord host name payload) before after kept) :
    (before name = none ∧ kept = newRecord host name payload ∧ after = before) ∨
    ∃ content tried, before name = some (.file content) ∧
      kept = backedUp (newRecord host name payload) (backupNameOf name (host.backupToken name tried)) ∧
      before (backupNameOf name (host.backupToken name tried)) = none ∧
      after = moveEntry before name (backupNameOf name (host.backupToken name tried)) := h.kind

theorem cleaned_new {before : Directory} {published : List PublishedArtifact} (hname : name ∉ backupsOf published) :
    withoutBackups published (Function.update before name (some (.file payload))) =
      Function.update (withoutBackups published before) name (some (.file payload)) := by
  funext other
  by_cases hother : other = name
  · subst hother
    rw [Function.update_self]
    exact (if_neg hname).trans (Function.update_self ..)
  · rw [Function.update_of_ne hother]
    simp only [withoutBackups,Function.update_of_ne hother]

theorem cleaned_existing {before : Directory} {published : List PublishedArtifact} {record : PublishedArtifact} {backup : String}
    (hfree : before backup = none) (hne : backup ≠ name) (hname : name ∉ backupsOf published) :
    withoutBackups (backedUp record backup :: published)
        (Function.update (moveEntry before name backup) name (some (.file payload))) =
      Function.update (withoutBackups published before) name (some (.file payload)) := by
  have hbackups : backupsOf (backedUp record backup :: published) = backup :: backupsOf published := rfl
  funext other
  rw [withoutBackups,hbackups]
  simp only [List.mem_cons]
  by_cases hother : other = name
  · subst hother
    rw [if_neg (not_or.mpr ⟨hne.symm,hname⟩),Function.update_self,Function.update_self]
  · rw [Function.update_of_ne hother,Function.update_of_ne hother]
    by_cases hmoved : other = backup
    · rw [hmoved,if_pos (.inl rfl),withoutBackups,hfree,ite_self]
    · rw [moveEntry,Function.update_of_ne hmoved,Function.update_of_ne hother,withoutBackups]
      simp only [hmoved,false_or]

theorem cleaned_backed {before : Directory} {published : List PublishedArtifact}
    (hbacked : Backed host (newRecord host name payload) before after kept) (hname : name ∉ backupsOf published) :
    withoutBackups (kept :: published) (Function.update after name (some (.file payload))) =
      Function.update (withoutBackups published before) name (some (.file payload)) := by
  rcases backed_cases hbacked with ⟨_,rfl,rfl⟩ | ⟨content,tried,hsome,rfl,hfree,rfl⟩
  · exact cleaned_new hname
  · refine cleaned_existing hfree ?_ hname
    intro he
    rw [he,hsome] at hfree
    cases hfree

theorem Staged.publish (h : Staged host initial done session) (hnew : ∀ target ∈ done, target.1 ≠ name)
    (hclash : ∀ target ∈ done, ∀ tried, backupNameOf target.1 (host.backupToken target.1 tried) ≠ name)
    (hbacked : Backed host (newRecord host name payload) session.directory after kept)
    (hclosed : host.fault ≠ some (.publish name .closeAncestry))
    (hat : At (Function.update after name (some (.file payload))) ({ kept with published := true } :: session.published) next) :
    Staged host initial (done ++ [(name,payload)]) next := by
  have hbefore := h.untouched name hnew hclash
  have hrestored : restoreRecord (Function.update after name (some (.file payload))) { kept with published := true } =
      session.directory :=
    (restoreRecord_published hbacked.kept_name hbacked.absent hbacked.kept_published).trans hbacked.undone
  have hold {p : (String × Bytes) → Prop} (hdone : ∀ target ∈ done, p target) (hlast : p (name,payload)) :
      ∀ target ∈ done ++ [(name,payload)], p target := by
    intro target htarget
    rcases List.mem_append.mp htarget with htarget | htarget
    · exact hdone target htarget
    · exact List.mem_singleton.mp htarget ▸ hlast
  refine ⟨hat.open_,?_,?_,?_,?_,hold h.regular ?_,hold h.closed hclosed,?_⟩
  · rw [hat.published,hat.directory,List.foldl_cons,hrestored]
    exact h.restores
  · intro other hother hbackup
    have hne : other ≠ name := fun he => hother (name,payload) (List.mem_append_right _ List.mem_cons_self) he.symm
    have hkept := h.untouched other (fun target htarget => hother target (List.mem_append_left _ htarget))
      fun target htarget => hbackup target (List.mem_append_left _ htarget)
    rw [hat.directory,Function.update_of_ne hne]
    rcases backed_cases hbacked with ⟨_,_,rfl⟩ | ⟨_,tried,_,_,_,rfl⟩
    · exact hkept
    · have hmoved : other ≠ backupNameOf name (host.backupToken name tried) := fun he =>
        hbackup (name,payload) (List.mem_append_right _ List.mem_cons_self) tried he.symm
      rw [moveEntry,Function.update_of_ne hmoved,Function.update_of_ne hne]
      exact hkept
  · intro record hrecord
    rw [hat.published] at hrecord
    rcases List.mem_cons.mp hrecord with rfl | hrecord
    · exact ⟨_,List.mem_append_right _ List.mem_cons_self,hbacked.kept_name⟩
    · obtain ⟨target,htarget,he⟩ := h.named record hrecord
      exact ⟨target,List.mem_append_left _ htarget,he⟩
  · intro record hrecord backup hbackup
    rw [hat.published] at hrecord
    rcases List.mem_cons.mp hrecord with rfl | hrecord
    · rcases backed_cases hbacked with ⟨_,rfl,_⟩ | ⟨_,tried,_,rfl,_⟩
      · cases hbackup
      · cases hbackup
        exact ⟨_,List.mem_append_right _ List.mem_cons_self,tried,rfl⟩
    · obtain ⟨target,htarget,he⟩ := h.backups record hrecord backup hbackup
      exact ⟨target,List.mem_append_left _ htarget,he⟩
  · show initial name ≠ some .other
    rw [← hbefore]
    rcases backed_cases hbacked with ⟨hnone,_⟩ | ⟨_,_,hsome,_⟩
    · rw [hnone]
      exact (Option.some_ne_none _).symm
    · rw [hsome]
      simp
  · rw [hat.published,hat.directory,writtenDirectory_append,← h.cleaned]
    have hsame : withoutBackups ({ kept with published := true } :: session.published) = withoutBackups (kept :: session.published) :=
      rfl
    rw [hsame]
    exact cleaned_backed hbacked (h.not_backup hclash)

theorem restoreRecord_other {directory : Directory} {record : PublishedArtifact} (hname : record.name ≠ name)
    (hbackup : ∀ backup, record.backupName = some backup → backup ≠ name) :
    restoreRecord directory record name = directory name := by
  have hremoved : (if record.published then removeEntry directory record.name else directory) name = directory name := by
    split
    · rw [removeEntry,Function.update_of_ne hname.symm]
    · rfl
  rw [restoreRecord]
  revert hremoved
  generalize (if record.published then removeEntry directory record.name else directory) = removed
  intro hremoved
  cases hkept : record.backupName with
  | none => exact hremoved
  | some backup =>
    simp only
    split
    · rw [moveEntry,Function.update_of_ne hname.symm,Function.update_of_ne (hbackup backup hkept).symm]
      exact hremoved
    · exact hremoved

theorem restores_other {records : List PublishedArtifact} (hname : ∀ record ∈ records, record.name ≠ name)
    (hbackup : ∀ record ∈ records, ∀ backup, record.backupName = some backup → backup ≠ name) (directory : Directory) :
    records.foldl restoreRecord directory name = directory name := by
  induction records generalizing directory with
  | nil => rfl
  | cons record records ih =>
    obtain ⟨hhead,htail⟩ := List.forall_mem_cons.mp hname
    obtain ⟨hheadBackup,htailBackup⟩ := List.forall_mem_cons.mp hbackup
    rw [List.foldl_cons,ih htail htailBackup]
    exact restoreRecord_other hhead hheadBackup

inductive Interrupted (host : PublicationHost) (initial : Directory) (writes : List (String × Bytes)) (session : Session) : Prop where
  | undone (uncommitted : session.committed = false) (restores : UndoesTo initial session)
      (cause : DrawsUnused host initial writes → ¬ ClosesNewTarget host initial writes)
  | left (uncommitted : session.committed = false) (closes : ClosesNewTarget host initial writes)
      (stays : session.published.foldl restoreRecord session.directory ≠ initial)

variable {target : String × Bytes} {rest : List (String × Bytes)}

theorem not_closes_of_stopped (hwrites : writes = done ++ target :: rest) (hdistinct : (writes.map Prod.fst).Nodup)
    (hclash : NoClash host writes) (h : Staged host initial done session)
    (huntouched : session.directory target.1 = initial target.1) (hstopped : Stopped host target.1 session.directory)
    (hunused : DrawsUnused host initial writes) : ¬ ClosesNewTarget host initial writes := by
  rintro ⟨earlier,closing,later,hsplit,hfault,hnone,hregular⟩
  have htarget : target ∈ writes := hwrites ▸ List.mem_append_right _ List.mem_cons_self
  have hmem {other : String × Bytes} (hother : other ∈ done) : other ∈ writes := hwrites ▸ List.mem_append_left _ hother
  have hne {other : String × Bytes} (hother : other ∈ done) : target.1 ≠ other.1 := by
    rw [hwrites,List.map_append,List.map_cons] at hdistinct
    exact fun he => (List.nodup_append.mp hdistinct).2.2 other.1 (List.mem_map_of_mem hother) target.1 List.mem_cons_self he.symm
  cases hstopped with
  | fault call point existing =>
    have hpoint : target.1 = closing.1 ∧ call = .closeAncestry := by simpa using point.symm.trans hfault
    obtain ⟨hname,rfl⟩ := hpoint
    exact existing rfl (huntouched.trans (hname ▸ hnone))
  | irregular entry =>
    have hother : initial target.1 = some .other := huntouched.symm.trans entry
    rcases List.append_eq_append_iff.mp (hwrites.symm.trans hsplit) with ⟨extra,hearlier,hextra⟩ | ⟨extra,hdone,hextra⟩
    · cases extra with
      | nil =>
        cases hextra
        exact absurd (hnone.symm.trans hother) (by simp)
      | cons head extra =>
        cases hextra
        exact hregular target (hearlier ▸ List.mem_append_right _ List.mem_cons_self) hother
    · cases extra with
      | nil =>
        cases hextra
        exact absurd (hnone.symm.trans hother) (by simp)
      | cons head extra =>
        cases hextra
        exact h.closed closing (hdone ▸ List.mem_append_right _ List.mem_cons_self) hfault
  | backupTaken entry =>
    refine entry ((h.untouched _ (fun other hother he => ?_) fun other hother tried => ?_).trans (hunused.backupAbsent target htarget))
    · exact hclash target htarget other (hmem hother) 0 he.symm
    · exact hunused.backupDistinct target htarget other (hmem hother) (hne hother) tried
  | temporaryTaken entry =>
    refine entry ((h.untouched _ (fun other hother he => ?_) fun other hother tried he => ?_).trans
      (hunused.temporaryAbsent target htarget))
    · exact hunused.temporaryUnwritten target htarget other (hmem hother) he.symm
    · exact hunused.temporaryDistinct target htarget other (hmem hother) tried he.symm
  | temporaryBackup tried same => exact hunused.temporaryDistinct target htarget target htarget tried same

theorem writeBytes_spec (hwrites : writes = done ++ target :: rest) (hdistinct : (writes.map Prod.fst).Nodup)
    (hclash : NoClash host writes) :
    Spec (Staged host initial done) (writeBytes host target) (fun _ => Staged host initial (done ++ [target]))
      fun _ => Interrupted host initial writes := by
  have htarget : target ∈ writes := hwrites ▸ List.mem_append_right _ List.mem_cons_self
  have hmem {other : String × Bytes} (hother : other ∈ done) : other ∈ writes := hwrites ▸ List.mem_append_left _ hother
  have hnew : ∀ other ∈ done, other.1 ≠ target.1 := by
    rw [hwrites,List.map_append,List.map_cons] at hdistinct
    exact fun other hother he =>
      (List.nodup_append.mp hdistinct).2.2 other.1 (List.mem_map_of_mem hother) target.1 List.mem_cons_self he
  have hbackups : ∀ other ∈ done, ∀ tried, backupNameOf other.1 (host.backupToken other.1 tried) ≠ target.1 :=
    fun other hother => hclash other (hmem hother) target htarget
  refine .got fun session => .cond (fun hagain => .absurd fun s hs => ?_) fun _ => ?_
  · obtain ⟨record,hrecord,hname⟩ := List.any_eq_true.mp hagain
    rw [← hs.2] at hrecord
    obtain ⟨other,hother,he⟩ := hs.1.named record hrecord
    exact hnew other hother (he.symm.trans (of_decide_eq_true hname))
  intro s hs
  obtain ⟨hstaged,rfl⟩ := hs
  have huntouched := hstaged.untouched target.1 hnew hbackups
  refine Spec.weaken (publishBytes_spec target.2) (fun _ ht => ht) (fun _ t ht => ?_) (fun _ t ht => ?_) s ⟨rfl,rfl,hstaged.open_⟩
  · obtain ⟨after,kept,⟨hbacked,hclosed⟩,hat⟩ := ht
    exact hstaged.publish hnew hbackups hbacked hclosed hat
  · rcases ht with ⟨⟨hopen,hundone⟩,hstopped⟩ | ⟨hfault,hnone,hat⟩
    · refine .undone hopen ?_ (not_closes_of_stopped hwrites hdistinct hclash hstaged huntouched hstopped)
      rcases hundone with hat | ⟨record,hpublished,hrestore⟩
      · rw [UndoesTo,hat.published,hat.directory]
        exact hstaged.restores
      · rw [UndoesTo,hpublished,List.foldl_cons,hrestore]
        exact hstaged.restores
    · have hinitial : initial target.1 = none := huntouched.symm.trans hnone
      refine .left hat.open_ ⟨done,target,rest,hwrites,hfault,hinitial,hstaged.regular⟩ fun hrestored => ?_
      have hstays := congrFun hrestored target.1
      rw [hat.published,hat.directory,List.foldl_cons,restoreRecord_untouched rfl rfl,restores_other,Function.update_self,
        hinitial] at hstays
      · cases hstays
      · intro record hrecord he
        obtain ⟨other,hother,hname⟩ := hstaged.named record hrecord
        exact hnew other hother (hname.symm.trans he)
      · intro record hrecord backup hbackup he
        obtain ⟨other,hother,tried,hname⟩ := hstaged.backups record hrecord backup hbackup
        exact hbackups other hother tried (hname.symm.trans he)

end Loop

section Block
variable {host : PublicationHost} {initial : Directory} {writes : List (String × Bytes)}

theorem Staged.not_closes {session : Session} (h : Staged host initial writes session) : ¬ ClosesNewTarget host initial writes := by
  rintro ⟨done,target,rest,hwrites,hfault,_⟩
  exact h.closed target (hwrites ▸ List.mem_append_right _ List.mem_cons_self) hfault

def Ended (host : PublicationHost) (initial : Directory) (writes : List (String × Bytes)) (session : Session) : Prop :=
  (session.directory = initial ∧ (DrawsUnused host initial writes → ¬ ClosesNewTarget host initial writes)) ∨
    (ClosesNewTarget host initial writes ∧ session.directory ≠ initial)

theorem rolledBack_spec {e : Raised} : Spec (Interrupted host initial writes) (do rollback; Program.raise e)
    (fun (_ : Unit) _ => False) fun _ => Ended host initial writes := by
  intro s hs
  have hopen : s.committed = false := by cases hs <;> assumption
  have hrolled : Spec (At s.directory s.published) rollback (fun _ => At (s.published.foldl restoreRecord s.directory) [])
    fun _ => Ended host initial writes := rollback_spec
  refine Spec.bind hrolled (fun _ => .raised fun t ht => ?_) s ⟨rfl,rfl,hopen⟩
  cases hs with
  | undone _ restores cause => exact .inl ⟨ht.directory.trans restores,cause⟩
  | left _ closes stays =>
    rw [Ended,ht.directory]
    exact .inr ⟨closes,stays⟩

theorem writes_spec (hdistinct : (writes.map Prod.fst).Nodup) (hclash : NoClash host writes) :
    Spec (fun s => s = Session.start initial) (do writes.forM (writeBytes host); attempt host .body)
      (fun _ => Staged host initial writes) fun _ => Interrupted host initial writes := by
  refine .bind (.pre (.each fun done target rest hwrites => writeBytes_spec hwrites hdistinct hclash) ?_) fun _ =>
    attempt_spec fun e s hs _ => .undone hs.open_ hs.restores fun _ => hs.not_closes
  rintro s rfl
  exact staged_start

theorem checkDigest_spec {P : Session → Prop} {E : Raised → Session → Prop} {record : PublishedArtifact} (message : String)
    (h : ∀ e s, P s → E e s) : Spec P (checkDigest host record message) (fun _ => P) E := by
  refine .got fun session => ?_
  split
  · exact .cond (fun _ => .returned fun s hs => hs.1) fun _ => .raised fun s hs => h _ s hs.1
  · exact .raised fun s hs => h _ s hs.1
  · exact .raised fun s hs => h _ s hs.1

theorem finalVerify_spec {P : Session → Prop} {E : Raised → Session → Prop} (h : ∀ e s, P s → E e s) :
    Spec P (finalVerify host) (fun _ => P) E := by
  refine .bind (attempt_spec fun e s hs _ => h e s hs) fun _ => .got fun session => .pre (P := P) ?_ fun s hs => hs.1
  refine .bind (.each (I := fun _ => P) fun _ record _ _ => ?_) fun _ => attempt_spec fun e s hs _ => h e s hs
  rw [verifyRecord]
  refine .cond (fun _ => .bind (attempt_spec fun e s hs _ => h e s hs) fun _ => checkDigest_spec _ h) fun _ =>
    .raised fun s hs => h _ s hs

theorem withoutBackups_append {before : List PublishedArtifact} {record : PublishedArtifact} {directory : Directory} :
    withoutBackups (before ++ [record]) directory = withoutBackups [record] (withoutBackups before directory) := by
  funext name
  have happend : backupsOf (before ++ [record]) = backupsOf before ++ backupsOf [record] := List.filterMap_append
  simp only [withoutBackups,happend,List.mem_append]
  by_cases hlast : name ∈ backupsOf [record]
  · rw [if_pos (.inr hlast),if_pos hlast]
  · simp only [hlast,or_false,if_false]

theorem postcommitRecord_spec {E : Raised → Session → Prop} {directory : Directory} {record : PublishedArtifact} :
    Spec (fun s => s.directory = directory) (postcommitRecord record)
      (fun _ s => s.directory = withoutBackups [record] directory) E := by
  have hnone (h : backupsOf [record] = []) : withoutBackups [record] directory = directory := by
    funext name
    rw [withoutBackups,h,if_neg List.not_mem_nil]
  rw [postcommitRecord]
  cases hbackup : record.backupName with
  | none =>
    refine .returned fun s hs => ?_
    rw [hnone (by simp [backupsOf,hbackup]),hs]
  | some backup =>
    cases hcreated : record.backupCreated with
    | false =>
      refine .returned fun s hs => ?_
      rw [hnone (by simp [backupsOf,hcreated]),hs]
    | true =>
      refine .modified fun s hs => ?_
      have hbackups : backupsOf [record] = [backup] := by simp [backupsOf,hbackup,hcreated]
      funext name
      simp only [hs,removeEntry,Function.update_apply,withoutBackups,hbackups,List.mem_singleton]

theorem commit_spec : Spec (Staged host initial writes) (commitPublication host)
    (fun _ s => s.directory = writtenDirectory initial writes ∧ ¬ ClosesNewTarget host initial writes)
    fun _ s => Interrupted host initial writes s := by
  have hraised (session : Session) (s : Session) (hs : Staged host initial writes s ∧ s = session) :
      Interrupted host initial writes s := .undone hs.1.open_ hs.1.restores fun _ => hs.1.not_closes
  refine .got fun session => .bind (finalVerify_spec fun e s hs => hraised session s hs) fun _ => ?_
  refine .bind (Q := fun _ s => s.directory = withoutBackups [] session.directory ∧ Staged host initial writes session) ?_
    fun _ => .assume fun hstaged => ?_
  · refine .modified fun s hs => ?_
    obtain ⟨hstaged,rfl⟩ := hs
    refine ⟨?_,hstaged⟩
    funext name
    rw [withoutBackups,backupsOf,List.filterMap_nil,if_neg List.not_mem_nil]
  · have heach : Spec (fun s : Session => s.directory = withoutBackups [] session.directory)
        (session.published.reverse.forM postcommitRecord)
        (fun _ s => s.directory = withoutBackups session.published.reverse session.directory)
        fun _ s => Interrupted host initial writes s :=
      .each (I := fun before (s : Session) => s.directory = withoutBackups before session.directory) fun before record _ _ => by
        simp only [withoutBackups_append]
        exact postcommitRecord_spec
    refine heach.post fun _ s hs => ⟨?_,hstaged.not_closes⟩
    have hreverse : withoutBackups session.published.reverse session.directory =
        withoutBackups session.published session.directory := by
      funext name
      simp only [withoutBackups,mem_backupsOf,List.mem_reverse]
    rw [hs,hreverse,hstaged.cleaned]

theorem committed_spec : Spec (Staged host initial writes)
    (Program.handle (commitPublication host) fun e => do
      let session ← Program.get
      if session.committed then Program.raise e
      else do
        rollback
        Program.raise e)
    (fun _ s => s.directory = writtenDirectory initial writes ∧ ¬ ClosesNewTarget host initial writes)
    fun _ => Ended host initial writes := by
  refine .handled commit_spec fun e => .got fun session => .cond (fun hcommitted => .absurd fun s hs => ?_) fun _ => ?_
  · obtain ⟨hinterrupted,rfl⟩ := hs
    have hopen : s.committed = false := by cases hinterrupted <;> assumption
    rw [hopen] at hcommitted
    cases hcommitted
  · exact rolledBack_spec.weaken (fun s hs => hs.1) (fun _ _ hs => hs.elim) fun _ _ hs => hs

theorem block_spec (hdistinct : (writes.map Prod.fst).Nodup) (hclash : NoClash host writes) :
    Spec (fun s => s = Session.start initial) (bindArtifactPublication host writes)
      (fun _ s => s.directory = writtenDirectory initial writes ∧ ¬ ClosesNewTarget host initial writes)
      fun _ => Ended host initial writes := by
  refine .handled (.bind (.handled (writes_spec hdistinct hclash) fun e => ?_) fun _ => committed_spec) fun e =>
    .raised fun s hs => hs
  exact rolledBack_spec.weaken (fun s hs => hs) (fun _ _ hs => hs.elim) fun _ _ hs => hs

end Block

theorem publication_all_or_nothing_iff (host : PublicationHost) (initial : Directory) (writes : List (String × Bytes))
    (hdistinct : (writes.map Prod.fst).Nodup) (hclash : NoClash host writes) :
    (¬ ClosesNewTarget host initial writes → AllOrNothing host initial writes) ∧
      (DrawsUnused host initial writes → AllOrNothing host initial writes → ¬ ClosesNewTarget host initial writes) := by
  obtain ⟨hok,herror⟩ := block_spec hdistinct hclash (Session.start initial) rfl
  rw [AllOrNothing]
  cases hrun : bindArtifactPublication host writes (Session.start initial) with
  | mk result session =>
    cases result with
    | ok u =>
      obtain ⟨hwritten,hclosed⟩ := hok u session hrun
      exact ⟨fun _ => hwritten,fun _ _ => hclosed⟩
    | error e =>
      rcases herror e session hrun with ⟨hrestored,hcause⟩ | ⟨hcloses,hleft⟩
      · exact ⟨fun _ => hrestored,fun hunused _ => hcause hunused⟩
      · exact ⟨fun hnot => absurd hcloses hnot,fun _ hrestored => absurd hrestored hleft⟩

section Sample

theorem blank_size : (List.replicate 32 (0 : UInt8)).length = 32 := List.length_replicate

def closingHost (name : String) : PublicationHost where
  sha256 _ := ⟨List.replicate 32 0,blank_size⟩
  backupToken _ _ := "00112233445566778899aabbccddeeff"
  temporaryToken _ _ := "ffeeddccbbaa99887766554433221100"
  fault := some (.publish name .closeAncestry)
  describe _ := "[Errno 5] Input/output error"

def oldDirectory : Directory := Function.update (fun _ => none) "old.json" (some (.file [49]))

def twoWrites : List (String × Bytes) := [("new.json",[50]),("old.json",[51])]

theorem twoWrites_clash : NoClash (closingHost "old.json") twoWrites := by
  simp only [NoClash,twoWrites,closingHost,List.forall_mem_cons,List.not_mem_nil,IsEmpty.forall_iff,implies_true,and_true,
    forall_const]
  decide

theorem absent_of_ne {name : String} (h : name ≠ "old.json") : oldDirectory name = none := Function.update_of_ne h _ _

theorem twoWrites_unused : DrawsUnused (closingHost "old.json") oldDirectory twoWrites where
  backupAbsent := by
    simp only [twoWrites,closingHost,List.forall_mem_cons,List.not_mem_nil,IsEmpty.forall_iff,implies_true,and_true]
    exact ⟨absent_of_ne (by decide),absent_of_ne (by decide)⟩
  temporaryAbsent := by
    simp only [twoWrites,closingHost,List.forall_mem_cons,List.not_mem_nil,IsEmpty.forall_iff,implies_true,and_true]
    exact ⟨absent_of_ne (by decide),absent_of_ne (by decide)⟩
  temporaryUnwritten := by
    simp only [twoWrites,closingHost,List.forall_mem_cons,List.not_mem_nil,IsEmpty.forall_iff,implies_true,and_true]
    decide
  backupDistinct := by
    simp only [twoWrites,closingHost,List.forall_mem_cons,List.not_mem_nil,IsEmpty.forall_iff,implies_true,and_true,
      forall_const]
    decide
  temporaryDistinct := by
    simp only [twoWrites,closingHost,List.forall_mem_cons,List.not_mem_nil,IsEmpty.forall_iff,implies_true,and_true,
      forall_const]
    decide

theorem old_closes : ¬ ClosesNewTarget (closingHost "old.json") oldDirectory twoWrites := by
  rintro ⟨done,target,rest,hwrites,hfault,hnone,_⟩
  have hname : target.1 = "old.json" := (FaultPoint.publish.inj (Option.some.inj hfault)).1.symm
  rw [hname] at hnone
  cases hnone

theorem two_targets_restored : AllOrNothing (closingHost "old.json") oldDirectory twoWrites ∧
    (AllOrNothing (closingHost "old.json") oldDirectory twoWrites →
      ¬ ClosesNewTarget (closingHost "old.json") oldDirectory twoWrites) := by
  obtain ⟨hrestored,hcause⟩ := publication_all_or_nothing_iff (closingHost "old.json") oldDirectory twoWrites
    (by decide) twoWrites_clash
  exact ⟨hrestored old_closes,hcause twoWrites_unused⟩

theorem new_target_stays :
    (bindArtifactPublication (closingHost "new.json") [("new.json",[50])] (Session.start oldDirectory)).1 =
        .error (.artifactPublicationError "artifact publication failed: [Errno 5] Input/output error") ∧
      ¬ AllOrNothing (closingHost "new.json") oldDirectory [("new.json",[50])] := by
  refine ⟨rfl,fun h => ?_⟩
  have hnew : (some (Entry.file [50])) = oldDirectory "new.json" := congrFun h "new.json"
  cases hnew

end Sample

end PneumaLab.Foundation
