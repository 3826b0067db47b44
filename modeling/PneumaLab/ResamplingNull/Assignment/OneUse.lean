import Mathlib.Data.List.Induction
import PneumaLab.ResamplingNull.Assignment.SecretCustody

namespace PneumaLab.ResamplingNull.Secrets

section Runs
variable {store other : Store}

theorem run_append (store : Store) (before after : List Call) : store.run (before ++ after) = (store.run before).run after :=
  List.foldl_append

theorem run_snoc (store : Store) (before : List Call) (call : Call) :
    store.run (before ++ [call]) = ((store.run before).call call).1 := run_append store before [call]

theorem entry_register (store : Store) (purpose : Purpose) (entry : Entry) (handle : Handle) :
    (store.opening.register purpose entry).entry handle =
      if (⟨purpose,store.minted⟩ : Handle) = handle then some entry else store.entry handle := by
  rw [Store.entry,Store.register,Table.find_put]
  change Option.map Prod.snd (if (⟨purpose,store.minted⟩ : Handle) = handle then _ else store.registry.find handle) = _
  split <;> rfl

inductive Touches (handle : Handle) : Call → Prop where
  | bind (manifestRef scheduleRef : ArtifactRef) (runRoot : Path) (purpose : Purpose) (host : Host) :
      Touches handle (.requireBinding handle manifestRef scheduleRef runRoot purpose host)
  | read (destination : Bytes) (host : Host) : Touches handle (.read handle destination host)

structure Quiet (handle : Handle) (manifestRef scheduleRef : ArtifactRef) (call : Call) (outcome : Outcome) : Prop where
  notClosed : call ≠ .close
  unread : ∀ destination host, call = .read handle destination host → ∃ e, outcome = .read (wipe destination) (.error e)
  bound : ∀ manifest schedule runRoot purpose host, call = .requireBinding handle manifest schedule runRoot purpose host →
    outcome = .bound (.ok ()) ∧ purpose = handle.purpose ∧ manifest = manifestRef ∧ schedule = scheduleRef

end Runs

section Steps
variable {store : Store} {handle : Handle} {entry : Entry}

theorem entry_after_claim {purpose : Purpose} {manifestRef scheduleRef : ArtifactRef} {runRoot : Path} {host : Host}
    (h : (claim store purpose manifestRef scheduleRef runRoot host).1.entry handle = some entry) :
    store.entry handle = some entry ∨
      ((claim store purpose manifestRef scheduleRef runRoot host).2 = .ok handle ∧ handle = ⟨purpose,store.minted⟩ ∧
        store.isClosed = false ∧ entry.manifestRef = manifestRef ∧ entry.scheduleRef = scheduleRef) := by
  obtain ⟨_,hsame | hprobed⟩ | ⟨metadata,resolvedRunRoot,hopen,hhandle,hgranted⟩ :=
    claim_cases store purpose manifestRef scheduleRef runRoot host
  · rw [hsame] at h
    exact .inl h
  · rw [hprobed] at h
    exact .inl h
  · rw [hgranted,entry_register] at h
    split at h
    · next heq =>
      obtain rfl := Option.some.inj h
      exact .inr ⟨heq ▸ hhandle,heq.symm,hopen,rfl,rfl⟩
    · exact .inl h

theorem entry_call {call : Call} (h : (store.call call).1.entry handle = some entry) :
    (store.entry handle = some entry ∧ Quiet handle entry.manifestRef entry.scheduleRef call (store.call call).2) ∨
      ∃ runRoot host, call = .claim handle.purpose entry.manifestRef entry.scheduleRef runRoot host ∧
        (store.call call).2 = .claimed (.ok handle) ∧ handle.serial = store.minted ∧ store.isClosed = false := by
  cases call with
  | claim purpose manifestRef scheduleRef runRoot host =>
    obtain hold | ⟨hhandle,rfl,hopen,rfl,rfl⟩ := entry_after_claim h
    · exact .inl ⟨hold,by rintro ⟨⟩,by rintro _ _ ⟨⟩,by rintro _ _ _ _ _ ⟨⟩⟩
    · exact .inr ⟨runRoot,host,rfl,congrArg Outcome.claimed hhandle,rfl,hopen⟩
  | requireBinding used manifestRef scheduleRef runRoot purpose host =>
    rw [Store.call] at h ⊢
    obtain ⟨e,hbound,hnone⟩ | ⟨e,found,hfound,hbound⟩ | ⟨found,hfound,hpurpose,hmanifest,hschedule,_,hbound⟩ :=
      binding_cases store used manifestRef scheduleRef runRoot purpose host
    · rw [hbound] at h ⊢
      refine .inl ⟨h,by rintro ⟨⟩,by rintro _ _ ⟨⟩,?_⟩
      rintro _ _ _ _ _ ⟨⟩
      rw [h] at hnone
      cases hnone
    · rw [hbound] at h ⊢
      rw [entry_release] at h
      split at h
      · cases h
      · next hne =>
        refine .inl ⟨h,by rintro ⟨⟩,by rintro _ _ ⟨⟩,?_⟩
        rintro _ _ _ _ _ ⟨⟩
        exact absurd rfl hne
    · rw [hbound] at h ⊢
      refine .inl ⟨h,by rintro ⟨⟩,by rintro _ _ ⟨⟩,?_⟩
      rintro _ _ _ _ _ ⟨⟩
      rw [h,Option.some.injEq] at hfound
      subst hfound
      exact ⟨rfl,hpurpose.symm,hmanifest.symm,hschedule.symm⟩
  | read used destination host =>
    rw [Store.call] at h ⊢
    obtain ⟨e,hread⟩ | ⟨found,hfound,hreads⟩ := read_cases store used destination host
    · rw [hread] at h ⊢
      refine .inl ⟨h,by rintro ⟨⟩,?_,by rintro _ _ _ _ _ ⟨⟩⟩
      rintro _ _ ⟨⟩
      exact ⟨e,rfl⟩
    · have hreleased : (readExactMasterInto store used destination host).1 = store.release used found.descriptor := by
        obtain ⟨e,hread⟩ | ⟨key,hread⟩ := hreads <;> rw [hread]
      rw [hreleased,entry_release] at h
      split at h
      · cases h
      · next hne =>
        refine .inl ⟨h,by rintro ⟨⟩,?_,by rintro _ _ _ _ _ ⟨⟩⟩
        rintro _ _ ⟨⟩
        exact absurd rfl hne
  | close => cases h

theorem minted_call (store : Store) (call : Call) : store.minted ≤ (store.call call).1.minted := by
  have htransfer := transfer store call
  generalize (store.call call).1 = next at htransfer
  cases htransfer with
  | kept => exact le_rfl
  | probed => exact le_rfl
  | granted => exact Nat.le_succ _
  | released => exact le_rfl
  | shut => exact le_rfl

theorem closed_call {call : Call} (h : store.isClosed = true) : (store.call call).1.isClosed = true := by
  have htransfer := transfer store call
  generalize (store.call call).1 = next at htransfer
  cases htransfer with
  | kept => exact h
  | probed => exact h
  | granted _ _ hopen => exact absurd (hopen.symm.trans h) nofun
  | released => exact h
  | shut => rfl

theorem closed_run {calls : List Call} (h : store.isClosed = true) : (store.run calls).isClosed = true := by
  induction calls generalizing store with
  | nil => exact h
  | cons call calls ih => exact ih (closed_call h)

theorem close_not_mem {calls : List Call} (h : (store.run calls).isClosed = false) : .close ∉ calls := by
  intro hmem
  obtain ⟨before,after,rfl⟩ := List.append_of_mem hmem
  have hclosed : (store.run (before ++ .close :: after)).isClosed = true := by
    have hshut : ∀ open' : Store, ((close open').run after).isClosed = true := fun _ => closed_run rfl
    rw [run_append]
    exact hshut _
  exact absurd (hclosed.symm.trans h) nofun

structure Spent (store : Store) (handle : Handle) : Prop where
  minted : handle.serial < store.minted
  missing : store.entry handle = none

theorem Spent.call (h : Spent store handle) (call : Call) : Spent (store.call call).1 handle where
  minted := h.minted.trans_le (minted_call store call)
  missing := by
    cases hentry : (store.call call).1.entry handle with
    | none => rfl
    | some entry =>
      obtain ⟨hold,_⟩ | ⟨_,_,_,_,hserial,_⟩ := entry_call hentry
      · rw [h.missing] at hold
        cases hold
      · exact absurd hserial h.minted.ne

theorem Spent.run (h : Spent store handle) (calls : List Call) : Spent (store.run calls) handle := by
  induction calls generalizing store with
  | nil => exact h
  | cons call calls ih => exact ih (h.call call)

theorem Spent.read (h : Spent store handle) (destination : Bytes) (host : Host) :
    ∃ e, (store.call (.read handle destination host)).2 = .read (wipe destination) (.error e) := by
  rw [Store.call]
  obtain ⟨e,hread⟩ | ⟨entry,hentry,_⟩ := read_cases store handle destination host
  · rw [hread]
    exact ⟨e,rfl⟩
  · rw [h.missing] at hentry
    cases hentry

theorem read_ok {destination key : Bytes} {host : Host}
    (h : (store.call (.read handle destination host)).2 = .read key (.ok ())) :
    ∃ entry, store.entry handle = some entry ∧
      (store.call (.read handle destination host)).1 = store.release handle entry.descriptor := by
  rw [Store.call] at h ⊢
  obtain ⟨e,hread⟩ | ⟨entry,hentry,⟨e,hread⟩ | ⟨_,hread⟩⟩ := read_cases store handle destination host
  · rw [hread] at h
    cases h
  · rw [hread] at h
    cases h
  · rw [hread]
    exact ⟨entry,hentry,rfl⟩

end Steps

section Lineages
variable (secretPath : Path)

def outcomeAfter (before : List Call) (call : Call) : Outcome := outcomeAt (newStore secretPath) before call

structure Lineage (handle : Handle) (manifestRef scheduleRef : ArtifactRef) (calls : List Call) : Prop where
  claimed : ∃ earlier runRoot host later, calls = earlier ++ .claim handle.purpose manifestRef scheduleRef runRoot host :: later ∧
    outcomeAfter secretPath earlier (.claim handle.purpose manifestRef scheduleRef runRoot host) = .claimed (.ok handle) ∧
    ∀ prior call after, later = prior ++ call :: after → Quiet handle manifestRef scheduleRef call
      (outcomeAfter secretPath (earlier ++ .claim handle.purpose manifestRef scheduleRef runRoot host :: prior) call)
  never_closed : .close ∉ calls

theorem Lineage.extend {handle : Handle} {manifestRef scheduleRef : ArtifactRef} {calls : List Call} {call : Call}
    (h : Lineage secretPath handle manifestRef scheduleRef calls)
    (hquiet : Quiet handle manifestRef scheduleRef call (outcomeAfter secretPath calls call)) :
    Lineage secretPath handle manifestRef scheduleRef (calls ++ [call]) where
  claimed := by
    obtain ⟨earlier,runRoot,host,later,rfl,hclaimed,hlater⟩ := h.claimed
    refine ⟨earlier,runRoot,host,later ++ [call],by simp,hclaimed,fun prior last after hsplit => ?_⟩
    obtain rfl | ⟨rest,tail,rfl⟩ := List.eq_nil_or_concat after
    · obtain ⟨rfl,hlast⟩ := List.append_inj' hsplit rfl
      obtain rfl := (List.cons.inj hlast).1
      exact hquiet
    · rw [List.concat_eq_append,← List.cons_append,← List.append_assoc] at hsplit
      exact hlater prior last rest (List.append_inj' hsplit rfl).1
  never_closed := by
    rw [List.mem_append,List.mem_singleton,not_or]
    exact ⟨h.never_closed,hquiet.notClosed.symm⟩

theorem lineage {handle : Handle} {entry : Entry} (calls : List Call)
    (hentry : ((newStore secretPath).run calls).entry handle = some entry) :
    Lineage secretPath handle entry.manifestRef entry.scheduleRef calls := by
  induction calls using List.reverseRecOn with
  | nil => cases hentry
  | append_singleton calls call ih =>
    rw [run_snoc] at hentry
    obtain ⟨hold,hquiet⟩ | ⟨runRoot,host,rfl,hclaimed,_,hopen⟩ := entry_call hentry
    · exact (ih hold).extend secretPath hquiet
    · refine ⟨⟨calls,runRoot,host,[],rfl,hclaimed,fun prior last after hsplit => ?_⟩,?_⟩
      · cases prior <;> cases hsplit
      · rw [List.mem_append,List.mem_singleton,not_or]
        exact ⟨close_not_mem hopen,nofun⟩

end Lineages

section Apart
variable {handle : Handle}

structure AgreeExcept (handle : Handle) (left right : Store) : Prop where
  secretPath : left.secretPath = right.secretPath
  isClosed : left.isClosed = right.isClosed
  minted : left.minted = right.minted
  opened : left.opened = right.opened
  entries : ∀ other, other ≠ handle → left.entry other = right.entry other

theorem AgreeExcept.released (store : Store) (handle : Handle) (descriptor : ℕ) :
    AgreeExcept handle (store.release handle descriptor) store where
  secretPath := rfl
  isClosed := rfl
  minted := rfl
  opened := rfl
  entries other hne := by rw [entry_release,if_neg hne.symm]

theorem AgreeExcept.refl (handle : Handle) (store : Store) : AgreeExcept handle store store := ⟨rfl,rfl,rfl,rfl,fun _ _ => rfl⟩

theorem touched_agrees (store : Store) {call : Call} (h : Touches handle call) : AgreeExcept handle (store.call call).1 store := by
  cases h with
  | bind manifestRef scheduleRef runRoot purpose host =>
    rw [Store.call]
    obtain ⟨_,hbound,_⟩ | ⟨_,entry,_,hbound⟩ | ⟨_,_,_,_,_,_,hbound⟩ :=
      binding_cases store handle manifestRef scheduleRef runRoot purpose host
    · rw [hbound]
      exact .refl handle store
    · rw [hbound]
      exact .released store handle entry.descriptor
    · rw [hbound]
      exact .refl handle store
  | read destination host =>
    rw [Store.call]
    obtain ⟨_,hread⟩ | ⟨entry,_,⟨_,hread⟩ | ⟨_,hread⟩⟩ := read_cases store handle destination host
    · rw [hread]
      exact .refl handle store
    · rw [hread]
      exact .released store handle entry.descriptor
    · rw [hread]
      exact .released store handle entry.descriptor

theorem AgreeExcept.release {left right : Store} (h : AgreeExcept handle left right) (other : Handle) (descriptor : ℕ) :
    AgreeExcept handle (left.release other descriptor) (right.release other descriptor) where
  secretPath := h.secretPath
  isClosed := h.isClosed
  minted := h.minted
  opened := h.opened
  entries found hne := by rw [entry_release,entry_release,h.entries found hne]

theorem AgreeExcept.claim {left right : Store} (h : AgreeExcept handle left right) (purpose : Purpose)
    (manifestRef scheduleRef : ArtifactRef) (runRoot : Path) (host : Host) :
    (claim left purpose manifestRef scheduleRef runRoot host).2 = (claim right purpose manifestRef scheduleRef runRoot host).2 ∧
      AgreeExcept handle (claim left purpose manifestRef scheduleRef runRoot host).1
        (claim right purpose manifestRef scheduleRef runRoot host).1 := by
  have hpaths : resolvedPaths left host runRoot = resolvedPaths right host runRoot := by
    rw [resolvedPaths,resolvedPaths,h.isClosed,h.secretPath]
  rw [Secrets.claim,Secrets.claim,hpaths,h.opened,h.minted]
  cases resolvedPaths right host runRoot with
  | error e => exact ⟨rfl,h⟩
  | ok paths =>
    dsimp only
    split
    · cases inspect host right.opened paths.1 paths.2 with
      | error e => exact ⟨rfl,h.secretPath,h.isClosed,h.minted,congrArg (· + 1) h.opened,h.entries⟩
      | ok metadata =>
        refine ⟨rfl,h.secretPath,h.isClosed,congrArg (· + 1) h.minted,congrArg (· + 1) h.opened,fun other hne => ?_⟩
        rw [entry_register,entry_register,h.minted,h.entries other hne]
    · exact ⟨rfl,h⟩

theorem AgreeExcept.call {left right : Store} (h : AgreeExcept handle left right) {call : Call} (hcall : ¬ Touches handle call) :
    (left.call call).2 = (right.call call).2 ∧ AgreeExcept handle (left.call call).1 (right.call call).1 := by
  cases call with
  | claim purpose manifestRef scheduleRef runRoot host =>
    obtain ⟨hresult,hnext⟩ := h.claim purpose manifestRef scheduleRef runRoot host
    exact ⟨congrArg Outcome.claimed hresult,hnext⟩
  | requireBinding other manifestRef scheduleRef runRoot purpose host =>
    have hne : other ≠ handle := by
      rintro rfl
      exact hcall (.bind manifestRef scheduleRef runRoot purpose host)
    rw [Store.call,Store.call,requireHandleBinding,requireHandleBinding,h.entries other hne]
    cases right.entry other with
    | none => exact ⟨rfl,h⟩
    | some entry =>
      dsimp only
      cases resolveAbsolutePath host runRoot "run root" with
      | error e => exact ⟨rfl,h.release other entry.descriptor⟩
      | ok resolvedRunRoot =>
        dsimp only
        split
        · exact ⟨rfl,h.release other entry.descriptor⟩
        · exact ⟨rfl,h⟩
  | read other destination host =>
    have hne : other ≠ handle := by
      rintro rfl
      exact hcall (.read destination host)
    rw [Store.call,Store.call,readExactMasterInto,readExactMasterInto]
    split
    · exact ⟨rfl,h⟩
    · have hconsume : (consumeInto left other destination host).2 = (consumeInto right other destination host).2 ∧
          AgreeExcept handle (consumeInto left other destination host).1 (consumeInto right other destination host).1 := by
        rw [consumeInto,consumeInto,h.entries other hne]
        cases right.entry other with
        | none => exact ⟨rfl,h⟩
        | some entry =>
          dsimp only
          split
          · exact ⟨rfl,h.release other entry.descriptor⟩
          · cases host.fstat entry.descriptor with
            | none => exact ⟨rfl,h.release other entry.descriptor⟩
            | some metadata =>
              dsimp only
              split
              · exact ⟨rfl,h.release other entry.descriptor⟩
              · exact ⟨rfl,h.release other entry.descriptor⟩
      obtain ⟨hresult,hnext⟩ := hconsume
      cases hleft : consumeInto left other destination host with
      | mk nextLeft leftResult =>
        cases hright : consumeInto right other destination host with
        | mk nextRight rightResult =>
          rw [hleft,hright] at hresult hnext
          dsimp only at hresult
          subst hresult
          obtain ⟨filled,_ | _⟩ := leftResult
          · exact ⟨rfl,hnext⟩
          · exact ⟨rfl,hnext⟩
  | close => exact ⟨rfl,h.secretPath,rfl,h.minted,h.opened,fun _ _ => rfl⟩

theorem AgreeExcept.run {left right : Store} (h : AgreeExcept handle left right) {calls : List Call}
    (hcalls : ∀ call ∈ calls, ¬ Touches handle call) : AgreeExcept handle (left.run calls) (right.run calls) := by
  induction calls generalizing left right with
  | nil => exact h
  | cons call calls ih =>
    exact ih (h.call (hcalls call List.mem_cons_self)).2 fun later hlater => hcalls later (List.mem_cons_of_mem _ hlater)

end Apart

section OneUse

structure OneUse (secretPath : Path) : Prop where
  purpose : ∀ before handle destination host key,
    outcomeAfter secretPath before (.read handle destination host) = .read key (.ok ()) →
      ∃ manifestRef scheduleRef, Lineage secretPath handle manifestRef scheduleRef before
  once : ∀ before handle destination host key after destination' host',
    outcomeAfter secretPath before (.read handle destination host) = .read key (.ok ()) →
      ∃ e, outcomeAfter secretPath (before ++ .read handle destination host :: after) (.read handle destination' host') =
        .read (wipe destination') (.error e)
  closes : ∀ calls descriptor,
    ((newStore secretPath).run calls).log.count (.opened descriptor) ≤ 1 ∧
      ((newStore secretPath).run calls).log.count (.opened descriptor) =
        ((newStore secretPath).run calls).log.count (.closed descriptor) +
          (held ((newStore secretPath).run calls)).count descriptor
  drained : ∀ calls, held ((newStore secretPath).run (calls ++ [.close])) = []
  wiped : ∀ before handle destination host buffer e,
    outcomeAfter secretPath before (.read handle destination host) = .read buffer (.error e) → buffer = wipe destination
  independent : ∀ before handle use rest call, Touches handle use → (∀ between ∈ rest, ¬ Touches handle between) →
    ¬ Touches handle call → outcomeAfter secretPath (before ++ use :: rest) call = outcomeAfter secretPath (before ++ rest) call

theorem Custody.balance {store : Store} (h : Custody store) (descriptor : ℕ) :
    store.log.count (.opened descriptor) = store.log.count (.closed descriptor) + (held store).count descriptor := by
  rw [h.opens]
  by_cases hlt : descriptor < store.opened
  · rw [if_pos hlt]
    by_cases hin : descriptor ∈ held store
    · rw [h.holds descriptor hin,List.count_eq_one_of_mem h.apart hin]
    · rw [h.closes descriptor hlt hin,List.count_eq_zero_of_not_mem hin]
  · have hout : descriptor ∉ held store := fun hin => hlt (h.lt_of_held hin)
    rw [if_neg hlt,h.ahead descriptor (not_lt.mp hlt),List.count_eq_zero_of_not_mem hout]

theorem secret_handles_one_use (secretPath : Path) : OneUse secretPath where
  purpose before handle destination host key hread := by
    obtain ⟨entry,hentry,_⟩ := read_ok hread
    exact ⟨entry.manifestRef,entry.scheduleRef,lineage secretPath before hentry⟩
  once before handle destination host key after destination' host' hread := by
    obtain ⟨entry,hentry,hreleased⟩ := read_ok hread
    have hcustody := (custody_new secretPath).run before
    have hspent : Spent (((newStore secretPath).run before).call (.read handle destination host)).1 handle := by
      rw [hreleased]
      exact ⟨(hcustody.fresh handle entry hentry).2.1,by rw [entry_release,if_pos rfl]⟩
    rw [outcomeAfter,outcomeAt,run_append]
    exact (hspent.run after).read destination' host'
  closes calls descriptor := by
    have hcustody := (custody_new secretPath).run calls
    refine ⟨?_,hcustody.balance descriptor⟩
    rw [hcustody.opens]
    split <;> omega
  drained calls := by
    rw [run_snoc]
    rfl
  wiped before handle destination host buffer e hread := by
    rw [outcomeAfter,outcomeAt,Store.call] at hread
    obtain ⟨_,hcase⟩ | ⟨_,_,⟨_,hcase⟩ | ⟨_,hcase⟩⟩ := read_cases ((newStore secretPath).run before) handle destination host
    · rw [hcase] at hread
      cases hread
      rfl
    · rw [hcase] at hread
      cases hread
      rfl
    · rw [hcase] at hread
      cases hread
  independent before handle use rest call huse hrest hcall := by
    have hagree := (touched_agrees ((newStore secretPath).run before) huse).run hrest
    rw [outcomeAfter,outcomeAfter,outcomeAt,outcomeAt,run_append,run_append]
    exact (hagree.call hcall).1

end OneUse

end PneumaLab.ResamplingNull.Secrets
