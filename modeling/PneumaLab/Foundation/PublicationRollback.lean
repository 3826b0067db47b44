import PneumaLab.Foundation.Publication

namespace PneumaLab.Foundation

open Program

section Entries
variable {directory : Directory} {name other : String}

theorem moveEntry_back (hname : directory name ≠ none) (hother : directory other = none) :
    moveEntry (moveEntry directory name other) other name = directory := by
  have hne : name ≠ other := fun he => hname (he ▸ hother)
  funext entry
  simp only [moveEntry,Function.update_self,Function.update_apply]
  by_cases hentry : entry = name
  · rw [if_pos hentry,hentry]
  · by_cases hentry' : entry = other
    · rw [if_neg hentry,if_pos hentry',hentry',hother]
    · rw [if_neg hentry,if_neg hentry',if_neg hentry',if_neg hentry]

theorem remove_update (h : directory name = none) (entry : Option Entry) :
    removeEntry (Function.update directory name entry) name = directory := by
  rw [removeEntry,Function.update_idem,← h,Function.update_eq_self]

theorem replace_eq (hother : directory other = none) (entry : Option Entry) :
    moveEntry (Function.update directory other entry) other name = Function.update directory name entry := by
  rw [moveEntry,Function.update_idem,Function.update_self,← hother,Function.update_eq_self]

theorem temporaryNameOf_ne (name token : String) : temporaryNameOf name token ≠ name := by
  intro h
  have hlength := congrArg String.length h
  simp only [temporaryNameOf,String.length_append] at hlength
  have hdot : ".".length = 1 := rfl
  omega

end Entries

def restoreRecord (directory : Directory) (record : PublishedArtifact) : Directory :=
  let removed := if record.published then removeEntry directory record.name else directory
  match record.backupName with
  | some backup => if record.backupCreated then moveEntry removed backup record.name else removed
  | none => removed

def UndoesTo (initial : Directory) (session : Session) : Prop := session.published.foldl restoreRecord session.directory = initial

section Steps
variable {host : PublicationHost}

theorem attempt_passed {P : Session → Prop} {E : Raised → Session → Prop} {point : FaultPoint}
    (h : ∀ e s, P s → host.fault = some point → E e s) :
    Spec P (attempt host point) (fun _ s => P s ∧ host.fault ≠ some point) E := by
  rw [attempt]
  refine .cond (fun hfault => .raised fun s hs => h _ s hs hfault) fun hfault => .returned fun _ hs => ⟨hs,hfault⟩

theorem attempt_spec {P : Session → Prop} {E : Raised → Session → Prop} {point : FaultPoint}
    (h : ∀ e s, P s → host.fault = some point → E e s) : Spec P (attempt host point) (fun _ => P) E :=
  (attempt_passed h).post fun _ _ hs => hs.1

structure At (directory : Directory) (published : List PublishedArtifact) (session : Session) : Prop where
  directory : session.directory = directory
  published : session.published = published
  open_ : session.committed = false

variable {directory : Directory} {published : List PublishedArtifact}

theorem setDirectory_spec {E : Raised → Session → Prop} (change : Directory → Directory) :
    Spec (At directory published) (setDirectory change) (fun _ => At (change directory) published) E :=
  .modified fun _ hs => ⟨congrArg change hs.directory,hs.published,hs.open_⟩

theorem setRecord_spec {E : Raised → Session → Prop} {record : PublishedArtifact}
    (change : PublishedArtifact → PublishedArtifact) :
    Spec (At directory (record :: published)) (setRecord change) (fun _ => At directory (change record :: published)) E :=
  .modified fun _ hs => ⟨hs.directory,by simp only [hs.published,List.modifyHead_cons],hs.open_⟩

theorem rollbackRecord_spec {record : PublishedArtifact} {E : Raised → Session → Prop} :
    Spec (At directory published) (rollbackRecord record) (fun _ => At (restoreRecord directory record) published) E := by
  refine .bind (Q := fun _ => At (if record.published then removeEntry directory record.name else directory) published)
    ?_ fun _ => ?_
  · rw [unlinkPublished]
    split
    · exact setDirectory_spec _
    · exact .returned fun _ hs => hs
  · simp only [restoreBackup,restoreRecord]
    generalize (if record.published then removeEntry directory record.name else directory) = removed
    cases record.backupName with
    | none => exact .returned fun _ hs => hs
    | some backup =>
      cases record.backupCreated with
      | false => exact .returned fun _ hs => hs
      | true => exact setDirectory_spec fun directory => moveEntry directory backup record.name

theorem rollback_spec {E : Raised → Session → Prop} :
    Spec (At directory published) rollback (fun _ => At (published.foldl restoreRecord directory) []) E := by
  refine .got fun session => ?_
  refine .bind (Q := fun _ => At (published.foldl restoreRecord directory) published) ?_ fun _ =>
    .modified fun _ hs => ⟨hs.directory,rfl,hs.open_⟩
  have heach : Spec (At ([].foldl restoreRecord directory) published) (published.forM rollbackRecord)
      (fun _ => At (published.foldl restoreRecord directory) published) E :=
    .each (I := fun before => At (before.foldl restoreRecord directory) published) fun before record _ _ => by
      rw [List.foldl_append]
      exact rollbackRecord_spec
  intro s hs
  obtain ⟨hat,rfl⟩ := hs
  rw [hat.published]
  exact heach s hat

def backedUp (record : PublishedArtifact) (backup : String) : PublishedArtifact :=
  { record with backupName := some backup, backupCreated := true }

structure Backed (host : PublicationHost) (record : PublishedArtifact) (before after : Directory) (kept : PublishedArtifact) :
    Prop where
  absent : after record.name = none
  undone : restoreRecord after kept = before
  kind : (before record.name = none ∧ kept = record ∧ after = before) ∨
    ∃ content tried, before record.name = some (.file content) ∧
      kept = backedUp record (backupNameOf record.name (host.backupToken record.name tried)) ∧
      before (backupNameOf record.name (host.backupToken record.name tried)) = none ∧
      after = moveEntry before record.name (backupNameOf record.name (host.backupToken record.name tried))

theorem restoreRecord_untouched {record : PublishedArtifact} (hcreated : record.backupCreated = false)
    (hpublished : record.published = false) : restoreRecord directory record = directory := by
  rw [restoreRecord,hpublished]
  cases record.backupName with
  | none => rfl
  | some backup => simp only [hcreated,Bool.false_eq_true,if_false]

theorem restoreRecord_backup {record : PublishedArtifact} {backup : String} (hpublished : record.published = false) :
    restoreRecord directory (backedUp record backup) = moveEntry directory backup record.name := by
  simp only [restoreRecord,backedUp,hpublished,Bool.false_eq_true,if_false,if_true]

variable {name : String} {record : PublishedArtifact} {before after : Directory}

def Undoable (directory : Directory) (published : List PublishedArtifact) (session : Session) : Prop :=
  session.committed = false ∧
    (At directory published session ∨ ∃ record, session.published = record :: published ∧
      restoreRecord session.directory record = directory)

theorem undoable_of_at {record : PublishedArtifact} {session : Session} (hrestore : restoreRecord after record = before)
    (h : At after (record :: published) session) : Undoable before published session :=
  ⟨h.open_,.inr ⟨record,h.published,by rw [h.directory]; exact hrestore⟩⟩

inductive Stopped (host : PublicationHost) (name : String) (before : Directory) : Prop where
  | fault (call : PublishCall) (point : host.fault = some (.publish name call))
      (existing : call = .closeAncestry → before name ≠ none)
  | irregular (entry : before name = some .other)
  | backupTaken (entry : before (backupNameOf name (host.backupToken name 0)) ≠ none)
  | temporaryTaken (entry : before (temporaryNameOf name (host.temporaryToken name 0)) ≠ none)
  | temporaryBackup (tried : ℕ)
      (same : temporaryNameOf name (host.temporaryToken name 0) = backupNameOf name (host.backupToken name tried))

theorem unusedBackup_spec {E : Raised → Session → Prop} (hE : ∀ e s, At directory published s → E e s) (fuel tried : ℕ) :
    Spec (At directory published) (unusedBackup host name fuel tried)
      (fun backup s => At directory published s ∧ directory backup = none ∧
        ∃ tried, backup = backupNameOf name (host.backupToken name tried)) E := by
  induction fuel generalizing tried with
  | zero => exact .raised fun s hs => hE _ s hs
  | succ fuel ih =>
    refine .bind (attempt_spec fun e s hs _ => hE e s hs) fun _ => .got fun session => .cond (fun hfree => ?_) fun _ => ?_
    · refine .returned fun s hs => ⟨hs.1,?_,tried,rfl⟩
      rw [← hs.1.directory,hs.2]
      exact hfree
    · exact (ih (tried + 1)).pre fun s hs => hs.1

theorem firstBackup_spec {E : Raised → Session → Prop}
    (hE : ∀ e s, At directory published s → Stopped host name directory → E e s) (fuel : ℕ) :
    Spec (At directory published) (unusedBackup host name (fuel + 1) 0)
      (fun backup s => At directory published s ∧ directory backup = none ∧
        ∃ tried, backup = backupNameOf name (host.backupToken name tried)) E := by
  refine .bind (attempt_spec fun e s hs hfault => hE e s hs (.fault _ hfault (by rintro ⟨⟩))) fun _ => .got fun session =>
    .cond (fun hfree => ?_) fun htaken => ?_
  · refine .returned fun s hs => ⟨hs.1,?_,0,rfl⟩
    rw [← hs.1.directory,hs.2]
    exact hfree
  · have htaken (s : Session) (hs : At directory published s ∧ s = session) :
        At directory published s ∧ directory (backupNameOf name (host.backupToken name 0)) ≠ none := by
      refine ⟨hs.1,?_⟩
      rw [← hs.1.directory,hs.2]
      exact htaken
    exact .pre (.assume fun hfirst => unusedBackup_spec (fun e s hs => hE e s hs (.backupTaken hfirst)) fuel 1) htaken

theorem backupExistingTarget_spec (hcreated : record.backupCreated = false) (hpublished : record.published = false) :
    Spec (At before (record :: published)) (backupExistingTarget host record.name)
      (fun _ s => ∃ after kept, Backed host record before after kept ∧ At after (kept :: published) s)
      fun _ s => Undoable before published s ∧ Stopped host record.name before := by
  have hsame : restoreRecord before record = before := restoreRecord_untouched hcreated hpublished
  refine .bind (attempt_spec fun e s hs hfault => ⟨undoable_of_at hsame hs,.fault _ hfault (by rintro ⟨⟩)⟩) fun _ =>
    .got fun session => ?_
  split
  · next hentry =>
    refine .returned fun s hs => ?_
    rw [← hs.2,hs.1.directory] at hentry
    exact ⟨before,record,⟨hentry,hsame,.inl ⟨hentry,rfl,rfl⟩⟩,hs.1⟩
  · next hentry =>
    refine .raised fun s hs => ?_
    rw [← hs.2,hs.1.directory] at hentry
    exact ⟨undoable_of_at hsame hs.1,.irregular hentry⟩
  · next content hentry =>
    have hfile (s : Session) (hs : At before (record :: published) s ∧ s = session) :
        At before (record :: published) s ∧ before record.name = some (.file content) := by
      refine ⟨hs.1,?_⟩
      rw [← hs.1.directory,hs.2]
      exact hentry
    refine .pre (.assume fun hname => ?_) hfile
    refine .bind (attempt_spec fun e s hs hfault => ⟨undoable_of_at hsame hs,.fault _ hfault (by rintro ⟨⟩)⟩) fun _ =>
      .bind (firstBackup_spec (fun e s hs hstopped => ⟨undoable_of_at hsame hs,hstopped⟩) 127) fun backup => ?_
    refine .pre (P := fun s => At before (record :: published) s ∧ before backup = none ∧
      ∃ tried, backup = backupNameOf record.name (host.backupToken record.name tried)) (.assume fun hbackup => ?_) fun s hs => hs
    obtain ⟨hfree,tried,rfl⟩ := hbackup
    have hmoved : restoreRecord (moveEntry before record.name (backupNameOf record.name (host.backupToken record.name tried)))
        (backedUp record (backupNameOf record.name (host.backupToken record.name tried))) = before := by
      rw [restoreRecord_backup hpublished]
      exact moveEntry_back (by rw [hname]; exact Option.some_ne_none _) hfree
    have hne : record.name ≠ backupNameOf record.name (host.backupToken record.name tried) := by
      intro he
      rw [← he,hname] at hfree
      cases hfree
    refine .bind (attempt_spec fun e s hs hfault => ⟨undoable_of_at hsame hs,.fault _ hfault (by rintro ⟨⟩)⟩) fun _ =>
      .bind (setDirectory_spec _) fun _ =>
      .bind (setRecord_spec fun latest => backedUp latest (backupNameOf record.name (host.backupToken record.name tried)))
        fun _ => ?_
    refine .bind (attempt_spec fun e s hs hfault => ⟨undoable_of_at hmoved hs,.fault _ hfault (by rintro ⟨⟩)⟩) fun _ =>
      .bind (attempt_spec fun e s hs hfault => ⟨undoable_of_at hmoved hs,.fault _ hfault (by rintro ⟨⟩)⟩) fun _ => ?_
    refine .post (attempt_spec fun e s hs hfault => ⟨undoable_of_at hmoved hs,.fault _ hfault (by rintro ⟨⟩)⟩) fun _ s hs => ?_
    refine ⟨_,_,⟨?_,hmoved,.inr ⟨content,tried,hname,rfl,hfree,rfl⟩⟩,hs⟩
    rw [moveEntry,Function.update_of_ne hne,Function.update_self]

theorem createTemporary_rest {E : Raised → Session → Prop} (hE : ∀ e s, At directory published s → E e s) (fuel tried : ℕ) :
    Spec (At directory published) (createTemporary host name fuel tried)
      (fun temporary s => At (Function.update directory temporary (some (.file []))) published s ∧
        directory temporary = none ∧ temporary ≠ name) E := by
  induction fuel generalizing tried with
  | zero => exact .raised fun s hs => hE _ s hs
  | succ fuel ih =>
    refine .bind (attempt_spec fun e s hs _ => hE e s hs) fun _ => .got fun session => .cond (fun hfree => ?_) fun _ => ?_
    · have hdirectory (s : Session) (hs : At directory published s ∧ s = session) :
          At directory published s ∧ directory (temporaryNameOf name (host.temporaryToken name tried)) = none := by
        refine ⟨hs.1,?_⟩
        rw [← hs.1.directory,hs.2]
        exact hfree
      refine .pre (.assume fun htemporary => ?_) hdirectory
      exact .bind (setDirectory_spec _) fun _ => .returned fun s hs => ⟨hs,htemporary,temporaryNameOf_ne _ _⟩
    · exact (ih (tried + 1)).pre fun s hs => hs.1

theorem createTemporary_spec {E : Raised → Session → Prop} (fuel : ℕ) (hE : ∀ e s, At directory published s →
      (∃ call, call ≠ .closeAncestry ∧ host.fault = some (.publish name call)) ∨
        directory (temporaryNameOf name (host.temporaryToken name 0)) ≠ none → E e s) :
    Spec (At directory published) (createTemporary host name (fuel + 1) 0)
      (fun temporary s => At (Function.update directory temporary (some (.file []))) published s ∧
        directory temporary = none ∧ temporary ≠ name) E := by
  by_cases hfree : directory (temporaryNameOf name (host.temporaryToken name 0)) = none
  · refine .bind (attempt_spec fun e s hs hfault => hE e s hs (.inl ⟨_,by rintro ⟨⟩,hfault⟩)) fun _ => .got fun session =>
      .cond (fun _ => ?_) fun htaken => ?_
    · exact .bind ((setDirectory_spec _).pre fun s hs => hs.1) fun _ => .returned fun s hs => ⟨hs,hfree,temporaryNameOf_ne _ _⟩
    · refine .absurd fun s hs => htaken ?_
      rw [← hs.2,hs.1.directory]
      exact hfree
  · exact createTemporary_rest (fun e s hs => hE e s hs (.inr hfree)) (fuel + 1) 0

theorem growFile_spec {E : Raised → Session → Prop} {temporary : String} {payload : Bytes} (entry : Option Entry) (count : ℕ) :
    Spec (At (Function.update directory temporary entry) published) (growFile temporary payload count)
      (fun _ => At (Function.update directory temporary (some (.file (payload.take count)))) published) E :=
  .modified fun _ hs => ⟨by simp only [hs.directory,Function.update_idem],hs.published,hs.open_⟩

def WithTemporary (host : PublicationHost) (name temporary : String) (directory : Directory)
    (published : List PublishedArtifact) (session : Session) : Prop :=
  (∃ call, call ≠ .closeAncestry ∧ host.fault = some (.publish name call)) ∧
    ∃ entry, At (Function.update directory temporary entry) published session

theorem failingWrite_fault {written : ℕ} (h : failingWrite host name = some written) :
    host.fault = some (.publish name (.write written)) := by
  rw [failingWrite] at h
  split at h
  · next target count hfault =>
    split at h
    · next htarget =>
      cases h
      rw [hfault,htarget]
    · cases h
  · cases h

theorem writeTemporary_spec {temporary : String} {payload : Bytes} (entry : Option Entry) :
    Spec (At (Function.update directory temporary entry) published) (writeTemporary host name temporary payload)
      (fun _ => At (Function.update directory temporary (some (.file payload))) published)
      fun _ => WithTemporary host name temporary directory published := by
  refine .bind (attempt_spec fun e s hs hfault => ⟨⟨_,by rintro ⟨⟩,hfault⟩,_,hs⟩) fun _ => .bind (Q := fun _ =>
    At (Function.update directory temporary (some (.file payload))) published) ?_ fun _ =>
      attempt_spec fun e s hs hfault => ⟨⟨_,by rintro ⟨⟩,hfault⟩,_,hs⟩
  rw [writeStream]
  split
  · next written hwritten =>
    exact .bind (growFile_spec entry _) fun _ => .raised fun s hs => ⟨⟨_,by rintro ⟨⟩,failingWrite_fault hwritten⟩,_,hs⟩
  · refine (growFile_spec entry payload.length).post fun _ s hs => ?_
    rw [List.take_length] at hs
    exact hs

def LeftReplaced (host : PublicationHost) (name : String) (payload : Bytes) (directory : Directory)
    (published : List PublishedArtifact) (session : Session) : Prop :=
  host.fault = some (.publish name .closeAncestry) ∧ At (Function.update directory name (some (.file payload))) published session

theorem replaceTarget_spec {temporary : String} {payload : Bytes} (htemporary : directory temporary = none) :
    Spec (At (Function.update directory temporary (some (.file payload))) published) (replaceTarget host name temporary)
      (fun _ s => At (Function.update directory name (some (.file payload))) published s ∧
        host.fault ≠ some (.publish name .closeAncestry))
      fun _ s => WithTemporary host name temporary directory published s ∨ LeftReplaced host name payload directory published s := by
  refine .bind (attempt_spec fun e s hs hfault => .inl ⟨⟨_,by rintro ⟨⟩,hfault⟩,_,hs⟩) fun _ =>
    .bind (attempt_spec fun e s hs hfault => .inl ⟨⟨_,by rintro ⟨⟩,hfault⟩,_,hs⟩) fun _ => .bind (setDirectory_spec _) fun _ => ?_
  rw [replace_eq htemporary]
  exact attempt_passed fun e s hs hfault => .inr ⟨hfault,hs⟩

def WithoutTemporary (host : PublicationHost) (name : String) (directory : Directory) (published : List PublishedArtifact)
    (session : Session) : Prop :=
  (∃ call, call ≠ .closeAncestry ∧ host.fault = some (.publish name call)) ∧ At directory published session

theorem publishTemporary_spec {temporary : String} {payload : Bytes} (htemporary : directory temporary = none)
    (hne : temporary ≠ name) :
    Spec (At (Function.update directory temporary (some (.file []))) published)
      (Program.handle (do
          writeTemporary host name temporary payload
          attempt host (.publish name .verifyAncestry)
          replaceTarget host name temporary)
        fun e => do
          setDirectory fun directory => removeEntry directory temporary
          Program.raise e)
      (fun _ s => At (Function.update directory name (some (.file payload))) published s ∧
        host.fault ≠ some (.publish name .closeAncestry))
      fun _ s => WithoutTemporary host name directory published s ∨ LeftReplaced host name payload directory published s := by
  refine .handled (.bind (.weaken (writeTemporary_spec _) (fun _ hs => hs) (fun _ _ hs => hs) fun _ _ he => .inl he)
    fun _ => .bind (attempt_spec fun e s hs hfault => .inl ⟨⟨_,by rintro ⟨⟩,hfault⟩,_,hs⟩) fun _ =>
      replaceTarget_spec htemporary) fun e => ?_
  intro s hs
  rcases hs with ⟨hcause,entry,hs⟩ | ⟨hfault,hs⟩
  · refine Spec.bind (setDirectory_spec _) (fun _ => .raised fun t ht => .inl ⟨hcause,?_⟩) s hs
    rw [remove_update htemporary] at ht
    exact ht
  · refine Spec.bind (setDirectory_spec _) (fun _ => .raised fun t ht => .inr ⟨hfault,?_⟩) s hs
    have hsame : removeEntry (Function.update directory name (some (.file payload))) temporary =
        Function.update directory name (some (.file payload)) := by
      rw [removeEntry,Function.update_eq_self_iff,Function.update_of_ne hne,htemporary]
    rw [hsame] at ht
    exact ht

def NewTargetLeft (host : PublicationHost) (name : String) (payload : Bytes) (directory : Directory)
    (published : List PublishedArtifact) (session : Session) : Prop :=
  host.fault = some (.publish name .closeAncestry) ∧ directory name = none ∧
    At (Function.update directory name (some (.file payload))) (newRecord host name payload :: published) session

theorem restoreRecord_replaced {entry : Option Entry} {backup : String} (hne : backup ≠ record.name)
    (hpublished : record.published = false) :
    restoreRecord (Function.update after record.name entry) (backedUp record backup) =
      restoreRecord after (backedUp record backup) := by
  rw [restoreRecord_backup hpublished,restoreRecord_backup hpublished,moveEntry,moveEntry,Function.update_of_ne hne,
    Function.update_comm hne.symm,Function.update_idem]

theorem restoreRecord_published {kept : PublishedArtifact} {entry : Option Entry} (hname : kept.name = name)
    (habsent : after name = none) (hpublished : kept.published = false) :
    restoreRecord (Function.update after name entry) { kept with published := true } = restoreRecord after kept := by
  subst hname
  simp only [restoreRecord,hpublished,Bool.false_eq_true,if_false,if_true]
  rw [remove_update habsent]

theorem Backed.kept_name {kept : PublishedArtifact} (h : Backed host record before after kept) : kept.name = record.name := by
  rcases h.kind with ⟨_,rfl,_⟩ | ⟨_,_,_,rfl,_⟩ <;> rfl

theorem Backed.kept_published {kept : PublishedArtifact} (h : Backed host record before after kept) :
    kept.published = record.published := by
  rcases h.kind with ⟨_,rfl,_⟩ | ⟨_,_,_,rfl,_⟩ <;> rfl

theorem Backed.stopped {kept : PublishedArtifact} (h : Backed host record before after kept)
    (hcause : (∃ call, call ≠ .closeAncestry ∧ host.fault = some (.publish record.name call)) ∨
      after (temporaryNameOf record.name (host.temporaryToken record.name 0)) ≠ none) : Stopped host record.name before := by
  rcases hcause with ⟨call,hcall,hfault⟩ | htaken
  · exact .fault call hfault fun he => absurd he hcall
  · rcases h.kind with ⟨_,_,rfl⟩ | ⟨_,tried,_,_,_,rfl⟩
    · exact .temporaryTaken htaken
    · by_cases hbackup : temporaryNameOf record.name (host.temporaryToken record.name 0) =
          backupNameOf record.name (host.backupToken record.name tried)
      · exact .temporaryBackup tried hbackup
      · rw [moveEntry,Function.update_of_ne hbackup,Function.update_of_ne (temporaryNameOf_ne _ _)] at htaken
        exact .temporaryTaken htaken

theorem checkDigest_published {payload : Bytes} {E : Raised → Session → Prop} (message : String) :
    Spec (At (Function.update directory name (some (.file payload))) published)
      (checkDigest host (newRecord host name payload) message)
      (fun _ => At (Function.update directory name (some (.file payload))) published) E := by
  refine .got fun session => ?_
  split
  · next content hcontent =>
    refine .cond (fun _ => .returned fun s hs => hs.1) fun hdiffers => .absurd fun s hs => hdiffers ?_
    have hfile : session.directory name = some (.file payload) := by
      rw [← hs.2,hs.1.directory,Function.update_self]
    cases hcontent.symm.trans hfile
    exact ⟨rfl,rfl⟩
  · next hentry =>
    refine .absurd fun s hs => ?_
    have hfile : session.directory name = some (.file payload) := by
      rw [← hs.2,hs.1.directory,Function.update_self]
    cases hentry.symm.trans hfile
  · next hentry =>
    refine .absurd fun s hs => ?_
    have hfile : session.directory name = some (.file payload) := by
      rw [← hs.2,hs.1.directory,Function.update_self]
    cases hentry.symm.trans hfile

theorem publishBytes_spec (payload : Bytes) :
    Spec (At before published) (publishBytes host name payload)
      (fun _ s => ∃ after kept, (Backed host (newRecord host name payload) before after kept ∧
          host.fault ≠ some (.publish name .closeAncestry)) ∧
        At (Function.update after name (some (.file payload))) ({ kept with published := true } :: published) s)
      fun _ s => (Undoable before published s ∧ Stopped host name before) ∨ NewTargetLeft host name payload before published s := by
  refine .bind (attempt_spec fun e s hs hfault => .inl ⟨⟨hs.open_,.inl hs⟩,.fault _ hfault (by rintro ⟨⟩)⟩) fun _ =>
    .bind (Q := fun _ => At before (newRecord host name payload :: published)) ?_ fun _ => ?_
  · exact .modified fun s hs => ⟨hs.directory,by simp only [hs.published],hs.open_⟩
  refine .bind (.weaken (backupExistingTarget_spec rfl rfl) (fun _ hs => hs) (fun _ _ hs => hs) fun _ _ he => .inl he)
    fun _ => .some fun after => .some fun kept => ?_
  refine .pre (P := fun s => At after (kept :: published) s ∧ Backed host (newRecord host name payload) before after kept)
    (.assume fun hbacked => ?_) fun s hs => ⟨hs.2,hs.1⟩
  refine .bind (createTemporary_spec 127 fun e s hs hcause => .inl ⟨undoable_of_at hbacked.undone hs,hbacked.stopped hcause⟩)
    fun temporary => ?_
  refine .pre (P := fun s => At (Function.update after temporary (some (.file []))) (kept :: published) s ∧
    after temporary = none ∧ temporary ≠ name) (.assume fun htemporary => ?_) fun s hs => hs
  refine .bind (Q := fun _ s => At (Function.update after name (some (.file payload))) (kept :: published) s ∧
    host.fault ≠ some (.publish name .closeAncestry)) (.weaken (publishTemporary_spec htemporary.1 htemporary.2)
      (fun _ hs => hs) (fun _ _ hs => hs) fun _ s he => ?_) fun _ => .assume fun hclosed => ?_
  · rcases he with ⟨hcause,hundone⟩ | ⟨hfault,hleft⟩
    · exact .inl ⟨undoable_of_at hbacked.undone hundone,hbacked.stopped (.inl hcause)⟩
    · rcases hbacked.kind with ⟨hnone,rfl,rfl⟩ | ⟨content,tried,hsome,rfl,hfree,rfl⟩
      · exact .inr ⟨hfault,hnone,hleft⟩
      · have hexisting : before name ≠ none := fun hnone => by
          rw [show before name = some (.file content) from hsome] at hnone
          cases hnone
        refine .inl ⟨undoable_of_at (Eq.trans (restoreRecord_replaced ?_ rfl) hbacked.undone) hleft,.fault _ hfault fun _ => hexisting⟩
        intro he
        rw [he,hsome] at hfree
        cases hfree
  · have hdone : restoreRecord (Function.update after name (some (.file payload))) { kept with published := true } = before :=
      (restoreRecord_published hbacked.kept_name hbacked.absent hbacked.kept_published).trans hbacked.undone
    refine .bind (setRecord_spec _) fun _ =>
      .bind (attempt_spec fun e s hs hfault => .inl ⟨undoable_of_at hdone hs,.fault _ hfault (by rintro ⟨⟩)⟩) fun _ =>
      .bind (attempt_spec fun e s hs hfault => .inl ⟨undoable_of_at hdone hs,.fault _ hfault (by rintro ⟨⟩)⟩) fun _ =>
      .bind (attempt_spec fun e s hs hfault => .inl ⟨undoable_of_at hdone hs,.fault _ hfault (by rintro ⟨⟩)⟩) fun _ => ?_
    exact (checkDigest_published _).post fun _ s hs => ⟨after,kept,⟨hbacked,hclosed⟩,hs⟩

end Steps

end PneumaLab.Foundation
