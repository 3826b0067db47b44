import Mathlib.Data.List.Count
import PneumaLab.ResamplingNull.Assignment.Secrets

namespace PneumaLab.ResamplingNull.Secrets

section Transfers
variable {store next : Store}

inductive Transfer (store : Store) : Store → Prop where
  | kept : Transfer store store
  | probed : Transfer store (store.opening.logged (.closed store.opened))
  | granted (purpose : Purpose) (entry : Entry) : store.isClosed = false → entry.descriptor = store.opened →
      entry.purpose = purpose → Transfer store (store.opening.register purpose entry)
  | released (handle : Handle) (entry : Entry) : store.entry handle = some entry → Transfer store (store.release handle entry.descriptor)
  | shut : Transfer store (close store)

theorem resolvedPaths_open {host : Host} {runRoot : Path} {paths : List String × List String}
    (h : resolvedPaths store host runRoot = .ok paths) : store.isClosed = false := by
  simp only [resolvedPaths,bind_eq_ok,demand_eq_ok] at h
  obtain ⟨_,hopen,_⟩ := h
  simpa using hopen

theorem claim_cases (store : Store) (purpose : Purpose) (manifestRef scheduleRef : ArtifactRef) (runRoot : Path) (host : Host) :
    ((∃ e, (claim store purpose manifestRef scheduleRef runRoot host).2 = .error e) ∧
      ((claim store purpose manifestRef scheduleRef runRoot host).1 = store ∨
        (claim store purpose manifestRef scheduleRef runRoot host).1 = store.opening.logged (.closed store.opened))) ∨
    ∃ metadata resolvedRunRoot, store.isClosed = false ∧
      (claim store purpose manifestRef scheduleRef runRoot host).2 = .ok ⟨purpose,store.minted⟩ ∧
      (claim store purpose manifestRef scheduleRef runRoot host).1 =
        store.opening.register purpose ⟨store.opened,metadata,manifestRef,scheduleRef,resolvedRunRoot,purpose⟩ := by
  rw [claim]
  cases hpaths : resolvedPaths store host runRoot with
  | error e => exact .inl ⟨⟨e,rfl⟩,.inl rfl⟩
  | ok paths =>
    obtain ⟨resolvedRunRoot,resolvedSecret⟩ := paths
    dsimp only
    by_cases hopens : host.opens = true
    · rw [if_pos hopens]
      cases hinspect : inspect host store.opened resolvedRunRoot resolvedSecret with
      | error e => exact .inl ⟨⟨e,rfl⟩,.inr rfl⟩
      | ok metadata => exact .inr ⟨metadata,resolvedRunRoot,resolvedPaths_open hpaths,rfl,rfl⟩
    · rw [if_neg hopens]
      exact .inl ⟨⟨_,rfl⟩,.inl rfl⟩

theorem binding_cases (store : Store) (handle : Handle) (manifestRef scheduleRef : ArtifactRef) (runRoot : Path)
    (purpose : Purpose) (host : Host) :
    (∃ e, requireHandleBinding store handle manifestRef scheduleRef runRoot purpose host = (store,.error e) ∧ store.entry handle = none) ∨
    (∃ e entry, store.entry handle = some entry ∧
      requireHandleBinding store handle manifestRef scheduleRef runRoot purpose host = (store.release handle entry.descriptor,.error e)) ∨
    ∃ entry, store.entry handle = some entry ∧ handle.purpose = purpose ∧ entry.manifestRef = manifestRef ∧
      entry.scheduleRef = scheduleRef ∧ host.resolve runRoot = some entry.runRoot ∧
      requireHandleBinding store handle manifestRef scheduleRef runRoot purpose host = (store,.ok ()) := by
  rw [requireHandleBinding]
  cases hentry : store.entry handle with
  | none => exact .inl ⟨_,rfl,rfl⟩
  | some entry =>
    dsimp only
    cases hroot : resolveAbsolutePath host runRoot "run root" with
    | error e => exact .inr (.inl ⟨e,entry,rfl,rfl⟩)
    | ok resolvedRunRoot =>
      dsimp only
      split
      · exact .inr (.inl ⟨_,entry,rfl,rfl⟩)
      · next hbound =>
        simp only [ne_eq,not_or,not_not] at hbound
        obtain ⟨hpurpose,_,hmanifest,hschedule,hrunRoot⟩ := hbound
        rw [resolveAbsolutePath] at hroot
        simp only [bind_eq_ok,demand_eq_ok,required_eq_ok] at hroot
        obtain ⟨_,_,hresolve⟩ := hroot
        exact .inr (.inr ⟨entry,rfl,hpurpose,hmanifest,hschedule,hrunRoot ▸ hresolve,rfl⟩)

theorem length_readKey (host : Host) (descriptor : ℕ) (destination : Bytes) :
    (readKey host descriptor destination).1.length = destination.length := by
  have hfilled : ((host.contents descriptor).take destination.length ++
      destination.drop ((host.contents descriptor).take destination.length).length).length = destination.length := by
    rw [List.length_append,List.length_drop,List.length_take]
    omega
  simp only [readKey]
  split_ifs
  · rfl
  · exact hfilled
  · exact hfilled
  · exact hfilled
  · exact hfilled

theorem consume_cases (store : Store) (handle : Handle) (destination : Bytes) (host : Host) :
    (∃ e, consumeInto store handle destination host = (store,destination,.error e) ∧ store.entry handle = none) ∨
    ∃ entry filled result, store.entry handle = some entry ∧
      consumeInto store handle destination host = (store.release handle entry.descriptor,filled,result) ∧
      filled.length = destination.length := by
  rw [consumeInto]
  cases hentry : store.entry handle with
  | none => exact .inl ⟨_,rfl,rfl⟩
  | some entry =>
    refine .inr ?_
    dsimp only
    split
    · exact ⟨entry,_,_,rfl,rfl,rfl⟩
    · cases host.fstat entry.descriptor with
      | none => exact ⟨entry,_,_,rfl,rfl,rfl⟩
      | some metadata =>
        dsimp only
        split
        · exact ⟨entry,_,_,rfl,rfl,rfl⟩
        · exact ⟨entry,_,_,rfl,rfl,length_readKey host entry.descriptor destination⟩

-- A read either finds no entry, or takes it out, and a failed one leaves only zeros.
theorem read_cases (store : Store) (handle : Handle) (destination : Bytes) (host : Host) :
    (∃ e, readExactMasterInto store handle destination host = (store,wipe destination,.error e)) ∨
    ∃ entry, store.entry handle = some entry ∧
      ((∃ e, readExactMasterInto store handle destination host = (store.release handle entry.descriptor,wipe destination,.error e)) ∨
        ∃ key, readExactMasterInto store handle destination host = (store.release handle entry.descriptor,key,.ok ())) := by
  have hwipe : ∀ {filled : Bytes}, filled.length = destination.length → wipe filled = wipe destination := fun h => by rw [wipe,wipe,h]
  rw [readExactMasterInto]
  split
  · exact .inl ⟨_,rfl⟩
  · obtain ⟨e,hconsume,_⟩ | ⟨entry,filled,result,hentry,hconsume,hlength⟩ := consume_cases store handle destination host
    · rw [hconsume]
      exact .inl ⟨e,rfl⟩
    · rw [hconsume]
      cases result with
      | error e =>
        refine .inr ⟨entry,hentry,.inl ⟨e,?_⟩⟩
        dsimp only
        rw [hwipe hlength]
      | ok u => exact .inr ⟨entry,hentry,.inr ⟨filled,rfl⟩⟩

theorem transfer (store : Store) (call : Call) : Transfer store (store.call call).1 := by
  cases call with
  | claim purpose manifestRef scheduleRef runRoot host =>
    rw [Store.call]
    obtain ⟨_,hsame | hprobed⟩ | ⟨metadata,resolvedRunRoot,hopen,_,hgranted⟩ :=
      claim_cases store purpose manifestRef scheduleRef runRoot host
    · dsimp only
      rw [hsame]
      exact .kept
    · dsimp only
      rw [hprobed]
      exact .probed
    · dsimp only
      rw [hgranted]
      exact .granted purpose _ hopen rfl rfl
  | requireBinding handle manifestRef scheduleRef runRoot purpose host =>
    rw [Store.call]
    obtain ⟨e,hbound,_⟩ | ⟨e,entry,hentry,hbound⟩ | ⟨entry,_,_,_,_,_,hbound⟩ :=
      binding_cases store handle manifestRef scheduleRef runRoot purpose host
    · rw [hbound]
      exact .kept
    · rw [hbound]
      exact .released handle entry hentry
    · rw [hbound]
      exact .kept
  | read handle destination host =>
    rw [Store.call]
    obtain ⟨e,hread⟩ | ⟨entry,hentry,⟨e,hread⟩ | ⟨key,hread⟩⟩ := read_cases store handle destination host
    · rw [hread]
      exact .kept
    · rw [hread]
      exact .released handle entry hentry
    · rw [hread]
      exact .released handle entry hentry
  | close => exact .shut

end Transfers

section Entries

theorem entry_eq_some {store : Store} {handle : Handle} {entry : Entry} :
    store.entry handle = some entry ↔ (handle,entry) ∈ store.registry.rows := by
  rw [Store.entry,Option.map_eq_some_iff]
  constructor
  · rintro ⟨⟨key,value⟩,hfind,rfl⟩
    obtain ⟨hmem,rfl⟩ := Table.find_eq_some.mp hfind
    exact hmem
  · intro hmem
    exact ⟨(handle,entry),Table.find_eq_some.mpr ⟨hmem,rfl⟩,rfl⟩

theorem entry_release (store : Store) (handle other : Handle) (descriptor : ℕ) :
    (store.release handle descriptor).entry other = if handle = other then none else store.entry other := by
  rw [Store.entry,Store.release,Store.logged,Table.find_delete_key]
  split <;> rfl

end Entries

section Descriptors

def held (store : Store) : List ℕ := store.registry.rows.map fun row => row.2.descriptor

structure Custody (store : Store) : Prop where
  fresh : ∀ handle entry, store.entry handle = some entry →
    entry.descriptor < store.opened ∧ handle.serial < store.minted ∧ entry.purpose = handle.purpose
  apart : (held store).Nodup
  opens : ∀ descriptor, store.log.count (.opened descriptor) = if descriptor < store.opened then 1 else 0
  holds : ∀ descriptor ∈ held store, store.log.count (.closed descriptor) = 0
  closes : ∀ descriptor < store.opened, descriptor ∉ held store → store.log.count (.closed descriptor) = 1
  ahead : ∀ descriptor, store.opened ≤ descriptor → store.log.count (.closed descriptor) = 0
  emptied : store.isClosed = true → store.registry.rows = []

theorem custody_new (secretPath : Path) : Custody (newStore secretPath) where
  fresh _ _ h := by cases h
  apart := List.nodup_nil
  opens _ := rfl
  holds _ _ := rfl
  closes _ h := absurd h (Nat.not_lt_zero _)
  ahead _ _ := rfl
  emptied _ := rfl

theorem mem_held {store : Store} {descriptor : ℕ} :
    descriptor ∈ held store ↔ ∃ handle entry, store.entry handle = some entry ∧ entry.descriptor = descriptor := by
  rw [held,List.mem_map]
  constructor
  · rintro ⟨⟨handle,entry⟩,hmem,rfl⟩
    exact ⟨handle,entry,entry_eq_some.mpr hmem,rfl⟩
  · rintro ⟨handle,entry,hentry,rfl⟩
    exact ⟨(handle,entry),entry_eq_some.mp hentry,rfl⟩

theorem Custody.lt_of_held {store : Store} (h : Custody store) {descriptor : ℕ} (hheld : descriptor ∈ held store) :
    descriptor < store.opened := by
  obtain ⟨handle,entry,hentry,rfl⟩ := mem_held.mp hheld
  exact (h.fresh handle entry hentry).1

theorem Custody.not_held {store : Store} (h : Custody store) : store.opened ∉ held store :=
  fun hheld => lt_irrefl _ (h.lt_of_held hheld)

theorem count_append_event (log : List Event) (event other : Event) :
    (log ++ [event]).count other = log.count other + if event = other then 1 else 0 := by
  rw [List.count_append,List.count_singleton]
  simp only [beq_iff_eq]

theorem closed_ne_opened (left right : ℕ) : Event.closed left ≠ .opened right := nofun

theorem count_opening (store : Store) (descriptor : ℕ) : store.opening.log.count (.closed descriptor) =
    store.log.count (.closed descriptor) := by
  rw [Store.opening,count_append_event,if_neg (closed_ne_opened _ _).symm,add_zero]

theorem opens_opening {store : Store} (h : Custody store) (descriptor : ℕ) :
    store.opening.log.count (.opened descriptor) = if descriptor < store.opened + 1 then 1 else 0 := by
  simp only [Store.opening,count_append_event,h.opens,Event.opened.injEq]
  split_ifs <;> omega

theorem Custody.probed {store : Store} (h : Custody store) : Custody (store.opening.logged (.closed store.opened)) where
  fresh handle entry hentry := by
    obtain ⟨hlt,hserial,hpurpose⟩ := h.fresh handle entry hentry
    exact ⟨Nat.lt_succ_of_lt hlt,hserial,hpurpose⟩
  apart := h.apart
  opens descriptor := by
    rw [Store.logged,count_append_event,opens_opening h,if_neg (closed_ne_opened _ _),add_zero]
    rfl
  holds descriptor hheld := by
    have hne : store.opened ≠ descriptor := (h.lt_of_held hheld).ne'
    rw [Store.logged,count_append_event,count_opening,h.holds descriptor hheld,if_neg (mt Event.closed.inj hne)]
  closes descriptor hlt hheld := by
    rw [Store.logged,count_append_event,count_opening]
    obtain hold | rfl := Nat.lt_succ_iff_lt_or_eq.mp hlt
    · rw [h.closes descriptor hold hheld,if_neg (mt Event.closed.inj hold.ne')]
    · rw [h.ahead _ le_rfl,if_pos rfl]
  ahead descriptor hle := by
    have hlt : store.opened < descriptor := hle
    rw [Store.logged,count_append_event,count_opening,h.ahead descriptor hlt.le,if_neg (mt Event.closed.inj hlt.ne)]
  emptied := h.emptied

theorem rows_register {store : Store} (h : Custody store) (purpose : Purpose) (entry : Entry) :
    (store.opening.register purpose entry).registry.rows = store.registry.rows ++ [(⟨purpose,store.minted⟩,entry)] := by
  have hkept : store.registry.rows.filter (fun row => decide (row.1 ≠ (⟨purpose,store.minted⟩ : Handle))) = store.registry.rows := by
    rw [List.filter_eq_self]
    rintro ⟨handle,found⟩ hmem
    refine decide_eq_true fun heq => ?_
    have hserial := (h.fresh handle found (entry_eq_some.mpr hmem)).2.1
    rw [show handle = ⟨purpose,store.minted⟩ from heq] at hserial
    exact lt_irrefl _ hserial
  exact congrArg (· ++ [((⟨purpose,store.minted⟩ : Handle),entry)]) hkept

theorem Custody.granted {store : Store} (h : Custody store) {purpose : Purpose} {entry : Entry} (hopen : store.isClosed = false)
    (hdescriptor : entry.descriptor = store.opened) (hpurpose : entry.purpose = purpose) :
    Custody (store.opening.register purpose entry) := by
  have hheld : held (store.opening.register purpose entry) = held store ++ [store.opened] := by
    rw [held,rows_register h,List.map_append,List.map_singleton,hdescriptor]
    rfl
  have hlog : (store.opening.register purpose entry).log = store.opening.log := rfl
  refine ⟨fun handle found hfound => ?_,?_,fun descriptor => ?_,fun descriptor hin => ?_,fun descriptor hlt hout => ?_,
    fun descriptor hle => ?_,fun hclosed => ?_⟩
  · rw [entry_eq_some,rows_register h,List.mem_append,List.mem_singleton] at hfound
    obtain hmem | hnew := hfound
    · obtain ⟨hlt,hserial,hsame⟩ := h.fresh handle found (entry_eq_some.mpr hmem)
      exact ⟨Nat.lt_succ_of_lt hlt,Nat.lt_succ_of_lt hserial,hsame⟩
    · obtain ⟨rfl,rfl⟩ := Prod.mk.inj hnew
      exact ⟨hdescriptor ▸ Nat.lt_succ_self _,Nat.lt_succ_self _,hpurpose⟩
  · rw [hheld]
    exact List.nodup_append.mpr ⟨h.apart,List.nodup_singleton _,
      fun d hd e he heq => h.not_held (List.mem_singleton.mp he ▸ heq ▸ hd)⟩
  · rw [hlog,opens_opening h]
    rfl
  · rw [hheld,List.mem_append,List.mem_singleton] at hin
    rw [hlog,count_opening]
    obtain hin | rfl := hin
    · exact h.holds descriptor hin
    · exact h.ahead _ le_rfl
  · rw [hheld,List.mem_append,List.mem_singleton,not_or] at hout
    rw [hlog,count_opening]
    exact h.closes descriptor (lt_of_le_of_ne (Nat.lt_succ_iff.mp hlt) hout.2) hout.1
  · rw [hlog,count_opening]
    exact h.ahead descriptor ((Nat.le_succ _).trans hle)
  · exact absurd (hopen.symm.trans hclosed) nofun

theorem held_release {store : Store} (h : Custody store) {handle : Handle} {entry : Entry}
    (hentry : store.entry handle = some entry) (descriptor : ℕ) :
    descriptor ∈ held (store.release handle entry.descriptor) ↔ descriptor ∈ held store ∧ descriptor ≠ entry.descriptor := by
  simp only [mem_held,entry_release]
  constructor
  · rintro ⟨other,found,hfound,rfl⟩
    split at hfound
    · cases hfound
    · next hne =>
      refine ⟨⟨other,found,hfound,rfl⟩,fun heq => hne ?_⟩
      have hpair := List.inj_on_of_nodup_map h.apart (entry_eq_some.mp hentry) (entry_eq_some.mp hfound) heq.symm
      exact congrArg Prod.fst hpair
  · rintro ⟨⟨other,found,hfound,rfl⟩,hne⟩
    refine ⟨other,found,?_,rfl⟩
    rw [if_neg]
    · exact hfound
    · rintro rfl
      rw [hentry,Option.some.injEq] at hfound
      exact hne (hfound ▸ rfl)

theorem Custody.released {store : Store} (h : Custody store) {handle : Handle} {entry : Entry}
    (hentry : store.entry handle = some entry) : Custody (store.release handle entry.descriptor) := by
  have hheld := held_release h hentry
  have hin : entry.descriptor ∈ held store := mem_held.mpr ⟨handle,entry,hentry,rfl⟩
  have hlog : (store.release handle entry.descriptor).log = store.log ++ [.closed entry.descriptor] := rfl
  refine ⟨fun other found hfound => ?_,h.apart.sublist (List.filter_sublist.map _),fun descriptor => ?_,
    fun descriptor hkept => ?_,fun descriptor hlt hout => ?_,fun descriptor hle => ?_,fun hclosed => ?_⟩
  · rw [entry_release] at hfound
    split at hfound
    · cases hfound
    · exact h.fresh other found hfound
  · rw [hlog,count_append_event,h.opens,if_neg (closed_ne_opened _ _),add_zero]
    rfl
  · obtain ⟨hkept,hne⟩ := (hheld descriptor).mp hkept
    rw [hlog,count_append_event,h.holds descriptor hkept,if_neg (mt Event.closed.inj hne.symm)]
  · rw [hlog,count_append_event]
    by_cases heq : entry.descriptor = descriptor
    · rw [heq,if_pos rfl,h.holds descriptor (heq ▸ hin)]
    · have hgone : descriptor ∉ held store := fun hkept => hout ((hheld descriptor).mpr ⟨hkept,Ne.symm heq⟩)
      rw [h.closes descriptor hlt hgone,if_neg (mt Event.closed.inj heq)]
  · have hlt : entry.descriptor < descriptor := (h.lt_of_held hin).trans_le hle
    rw [hlog,count_append_event,h.ahead descriptor hle,if_neg (mt Event.closed.inj hlt.ne)]
  · have hrows := h.emptied hclosed
    rw [entry_eq_some,hrows] at hentry
    cases hentry

theorem log_close (store : Store) : (close store).log = store.log ++ (held store).map .closed := by
  rw [held,List.map_map]
  rfl

theorem closes_close (store : Store) (descriptor : ℕ) : (close store).log.count (.closed descriptor) =
    store.log.count (.closed descriptor) + (held store).count descriptor := by
  have hinjective : Function.Injective Event.closed := fun _ _ => Event.closed.inj
  rw [log_close,List.count_append]
  exact congrArg _ (List.count_map_of_injective (held store) Event.closed hinjective descriptor)

theorem Custody.shut {store : Store} (h : Custody store) : Custody (close store) where
  fresh _ _ hentry := by cases hentry
  apart := List.nodup_nil
  opens descriptor := by
    have hnone : ((held store).map Event.closed).count (.opened descriptor) = 0 := by
      rw [List.count_eq_zero]
      intro hmem
      obtain ⟨_,_,heq⟩ := List.mem_map.mp hmem
      cases heq
    rw [log_close,List.count_append,hnone,h.opens,add_zero]
    rfl
  holds _ hin := absurd hin List.not_mem_nil
  closes descriptor hlt _ := by
    rw [closes_close]
    by_cases hin : descriptor ∈ held store
    · rw [List.count_eq_one_of_mem h.apart hin,h.holds descriptor hin]
    · rw [List.count_eq_zero_of_not_mem hin,h.closes descriptor hlt hin]
  ahead descriptor hle := by
    have hout : descriptor ∉ held store := fun hin => absurd (h.lt_of_held hin) (not_lt.mpr hle)
    rw [closes_close,List.count_eq_zero_of_not_mem hout,h.ahead descriptor hle]
  emptied _ := rfl

theorem Custody.call {store : Store} (h : Custody store) (call : Call) : Custody (store.call call).1 := by
  have htransfer := transfer store call
  generalize (store.call call).1 = next at htransfer
  cases htransfer with
  | kept => exact h
  | probed => exact h.probed
  | granted purpose entry hopen hdescriptor hpurpose => exact h.granted hopen hdescriptor hpurpose
  | released handle entry hentry => exact h.released hentry
  | shut => exact h.shut

theorem Custody.run {store : Store} (h : Custody store) (calls : List Call) : Custody (store.run calls) := by
  induction calls generalizing store with
  | nil => exact h
  | cons call calls ih => exact ih (h.call call)

end Descriptors

end PneumaLab.ResamplingNull.Secrets
