import Mathlib.Data.List.ReduceOption
import PneumaLab.Foundation.HardErasure

namespace PneumaLab.Foundation

def searchTexts (store : MemoryStore) (receiptId : String) : List String :=
  (store.eventSearch.filter fun row => row.receiptId = receiptId).map (·.text)

section Texts
variable {rows : List SearchRow} {receiptId other text : String}

theorem texts_append (hne : other ≠ receiptId) : (rows ++ [SearchRow.mk other text]).filter (fun row => row.receiptId = receiptId) =
    rows.filter fun row => row.receiptId = receiptId := by
  rw [List.filter_append,List.filter_cons_of_neg (by simpa using hne),List.filter_nil,List.append_nil]

theorem texts_filter_other (hne : other ≠ receiptId) :
    (rows.filter fun row => row.receiptId ≠ other).filter (fun row => row.receiptId = receiptId) =
      rows.filter fun row => row.receiptId = receiptId := by
  rw [List.filter_filter]
  refine List.filter_congr fun row _ => ?_
  by_cases h : row.receiptId = receiptId
  · simp only [h,ne_eq,hne.symm,not_false_eq_true,decide_true,Bool.and_true]
  · simp only [h,decide_false,Bool.false_and]

theorem texts_filter_self :
    (rows.filter fun row => row.receiptId ≠ receiptId).filter (fun row => row.receiptId = receiptId) = [] := by
  rw [List.filter_filter,List.filter_eq_nil_iff]
  intro row _
  simp

theorem texts_fresh (h : ∀ row ∈ rows, row.receiptId ≠ receiptId) : rows.filter (fun row => row.receiptId = receiptId) = [] := by
  rw [List.filter_eq_nil_iff]
  intro row hrow
  simpa using h row hrow

theorem texts_self : [SearchRow.mk receiptId text].filter (fun row => row.receiptId = receiptId) = [⟨receiptId,text⟩] :=
  List.filter_cons_of_pos (by simp)

end Texts

def Kept (store : MemoryStore) (receiptId payload : String) : Prop :=
  ∃ row ∈ store.events.rows, row.receiptId = receiptId ∧ readPayload store row.payloadPath = .ok payload ∧
    searchTexts store receiptId = if row.suppressed then [] else [payload]

section Reading
variable {store : MemoryStore} {receiptId payload : String}

theorem readPayload_eq_ok {path : String} : readPayload store path = .ok payload ↔
    ∃ raw, store.content path = some raw ∧ readText raw = some payload := by
  simp only [readPayload,bind_eq_ok,required_eq_ok]

theorem readPayload_grows {next : MemoryStore} (hgrows : Grows store.content next.content) {path : String}
    (h : readPayload store path = .ok payload) : readPayload next path = .ok payload := by
  obtain ⟨raw,hfile,hread⟩ := readPayload_eq_ok.mp h
  refine readPayload_eq_ok.mpr ⟨raw,?_,hread⟩
  rw [hgrows path (by rw [hfile]; rfl),hfile]

theorem Kept.grows {next : MemoryStore} (h : Kept store receiptId payload) (hevents : next.events = store.events)
    (hsearch : next.eventSearch = store.eventSearch) (hgrows : Grows store.content next.content) :
    Kept next receiptId payload := by
  obtain ⟨row,hrow,hkey,hread,htexts⟩ := h
  refine ⟨row,hevents ▸ hrow,hkey,readPayload_grows hgrows hread,?_⟩
  rw [searchTexts,hsearch]
  exact htexts

theorem readEvent_of_row {row : EventRow} (hrow : row ∈ store.events.rows) (hread : readPayload store row.payloadPath = .ok payload) :
    readEvent store row.receiptId true =
      .ok (some ⟨row.receiptId,payload,row.era,row.provenance,row.uncertainty,row.suppressed⟩) := by
  rw [readEvent,Table.find_self hrow]
  simp only [Bool.not_true,Bool.and_false,Bool.false_eq_true,if_false,hread]
  rfl

theorem setSuppressed_self {row : EventRow} {suppressed : Bool} {reason : Option String} :
    setSuppressed row.receiptId suppressed reason row = { row with suppressed := suppressed, suppressionReason := reason } :=
  if_pos rfl

theorem setSuppressed_other {row : EventRow} {target : String} {suppressed : Bool} {reason : Option String}
    (h : target ≠ row.receiptId) : setSuppressed target suppressed reason row = row := if_neg fun he => h he.symm

theorem Kept.suppress (h : Kept store receiptId payload) (target reason : String) :
    Kept (suppress store target reason).2 receiptId payload := by
  rw [Foundation.suppress]
  split
  · exact h
  · obtain ⟨row,hrow,rfl,hread,htexts⟩ := h
    refine ⟨setSuppressed target true (some reason) row,(Table.mem_update (setSuppressed_key _ _ _)).mpr ⟨row,hrow,rfl⟩,setSuppressed_key ..,?_,?_⟩
    · rw [setSuppressed]
      split <;> exact hread
    · by_cases htarget : target = row.receiptId
      · subst htarget
        rw [setSuppressed_self,searchTexts,texts_filter_self]
        rfl
      · rw [setSuppressed_other htarget,searchTexts,texts_filter_other htarget]
        exact htexts

theorem Kept.unsuppress (h : Kept store receiptId payload) (target : String) :
    Kept (unsuppress store target).2 receiptId payload := by
  rw [Foundation.unsuppress]
  split
  · exact h
  · exact h
  · next event hevent =>
    obtain ⟨row,hrow,rfl,hread,htexts⟩ := h
    refine ⟨setSuppressed target false none row,(Table.mem_update (setSuppressed_key _ _ _)).mpr ⟨row,hrow,rfl⟩,setSuppressed_key ..,?_,?_⟩
    · rw [setSuppressed]
      split <;> exact hread
    · by_cases htarget : target = row.receiptId
      · subst htarget
        rw [readEvent_of_row hrow hread] at hevent
        cases hevent
        rw [setSuppressed_self,searchTexts,List.filter_append,texts_filter_self,texts_self]
        rfl
      · rw [setSuppressed_other htarget,searchTexts,texts_append htarget,texts_filter_other htarget]
        exact htexts

theorem Kept.erase {target now : String} {erased : Erased} (h : Kept store receiptId payload)
    (herased : eraseRows store target now = .ok erased) (hne : receiptId ≠ target) (paths : List String) :
    Kept { erased.store with content := unlinked erased.store paths } receiptId payload := by
  obtain ⟨row,hrow,rfl,hread,htexts⟩ := h
  have hreferenced : isReferenced erased.store row.payloadPath = true :=
    (referenced_erased herased).mpr (.inl ⟨row,hrow,hne,rfl⟩)
  obtain ⟨_,_,erasures,_,_,_,hstore⟩ := erasure_effect herased
  refine ⟨row,?_,rfl,?_,?_⟩
  · rw [hstore]
    exact Table.mem_delete.mpr ⟨hrow,decide_eq_false hne⟩
  · obtain ⟨raw,hfile,htext⟩ := readPayload_eq_ok.mp hread
    refine readPayload_eq_ok.mpr ⟨raw,?_,htext⟩
    have hkept : unlinked erased.store paths row.payloadPath = erased.store.content row.payloadPath :=
      if_neg fun hfree => absurd hreferenced (by rw [hfree.2]; exact Bool.false_ne_true)
    exact hkept.trans (by rw [hstore]; exact hfile)
  · rw [hstore,searchTexts]
    exact (congrArg (List.map SearchRow.text) (texts_filter_other hne.symm)).trans htexts

end Reading

section Appending
variable (runtime : MemoryRuntime)

def ReadsBack (store : MemoryStore) : MemoryCall → Prop
  | .appendEvent request => readText
      ((store.content (contentPath runtime (utf8 request.payload) "event")).getD (utf8 request.payload)) = some request.payload
  | _ => True

variable {runtime} {appended : Appended} {store : MemoryStore} {request : AppendRequest}

theorem searchTexts_fresh (h : Linked appended store) {receiptId : String}
    (hfresh : ∀ entry ∈ appended, entry.1 ≠ receiptId) : ∀ row ∈ store.eventSearch, row.receiptId ≠ receiptId := by
  intro row hrow he
  obtain ⟨event,hevent,hkey⟩ := h.mentionsLive row.receiptId (mem_mentioned.mpr (.inl ⟨row,hrow,rfl⟩))
  obtain ⟨entry,hentry,hdrawn⟩ := h.eventsDrawn event hevent
  exact hfresh entry hentry (hdrawn.trans (hkey.trans he))

theorem kept_append_iff (h : Linked appended store) (hfresh : DrawsFresh appended (.appendEvent request))
    (hreturned : (appendEvent runtime store request).1 = .ok request.receiptId) :
    Kept (perform runtime store (.appendEvent request)) request.receiptId request.payload ↔
      ReadsBack runtime store (.appendEvent request) := by
  rcases appendEvent_cases request with ⟨content,e,_,he⟩ | ⟨row,events,content,hadded,hinsert,he⟩
  · rw [he] at hreturned
    cases hreturned
  · have hmem : row ∈ events.rows := (Table.mem_insert hinsert).mpr (.inr rfl)
    have htexts : (store.eventSearch ++ [SearchRow.mk request.receiptId request.payload]).filter
        (fun row => row.receiptId = request.receiptId) = [⟨request.receiptId,request.payload⟩] := by
      rw [List.filter_append,texts_fresh (searchTexts_fresh h hfresh),texts_self,List.nil_append]
    rw [perform,he,ReadsBack]
    constructor
    · rintro ⟨other,hother,hkey,hread,_⟩
      cases Table.unique hother hmem (hkey.trans hadded.receipt.symm)
      obtain ⟨raw,hfile,htext⟩ := readPayload_eq_ok.mp hread
      rw [← hadded.path]
      rwa [← Option.some.inj (hfile.symm.trans hadded.file)]
    · intro hreads
      refine ⟨row,hmem,hadded.receipt,readPayload_eq_ok.mpr ⟨_,hadded.file,?_⟩,?_⟩
      · rw [hadded.path]
        exact hreads
      · rw [searchTexts,htexts,hadded.searchable]
        rfl

end Appending

section Invariant
variable {runtime : MemoryRuntime} {appended : Appended} {store : MemoryStore}

def Remembered (appended : Appended) (store : MemoryStore) : Prop :=
  ∀ receiptId payload, (receiptId,payload) ∈ appended → Kept store receiptId payload ∨ IsErased store receiptId

theorem erased_of_subset {next : MemoryStore} {receiptId : String} (h : IsErased store receiptId)
    (hsubset : ∀ row ∈ store.erasures.rows, row ∈ next.erasures.rows) : IsErased next receiptId := by
  obtain ⟨row,hrow,hkey⟩ := h
  exact ⟨row,hsubset row hrow,hkey⟩

theorem Remembered.keep {next : MemoryStore} (h : Remembered appended store)
    (hkept : ∀ receiptId payload, Kept store receiptId payload → Kept next receiptId payload)
    (hsubset : ∀ row ∈ store.erasures.rows, row ∈ next.erasures.rows) : Remembered appended next := by
  intro receiptId payload hmem
  rcases h receiptId payload hmem with hold | herased
  · exact .inl (hkept receiptId payload hold)
  · exact .inr (erased_of_subset herased hsubset)

theorem Remembered.erase (h : Remembered appended store) {target now : String} {erased : Erased}
    (herased : eraseRows store target now = .ok erased) (paths : List String) :
    Remembered appended { erased.store with content := unlinked erased.store paths } := by
  have hsubset : ∀ row ∈ store.erasures.rows, row ∈ erased.store.erasures.rows := by
    obtain ⟨_,_,_,_,_,hinsert,hstore⟩ := erasure_effect herased
    rw [hstore]
    exact fun row hrow => (Table.mem_insert hinsert).mpr (.inl hrow)
  intro receiptId payload hmem
  rcases h receiptId payload hmem with hold | hgone
  · by_cases hne : receiptId = target
    · obtain ⟨row,_,_,_,_,hinsert,hstore⟩ := erasure_effect herased
      refine .inr ⟨⟨target,row.payloadHash,now,false⟩,?_,hne.symm,rfl⟩
      rw [hstore]
      exact (Table.mem_insert hinsert).mpr (.inr rfl)
    · exact .inl (hold.erase herased hne paths)
  · exact .inr (erased_of_subset hgone hsubset)

theorem Remembered.append (h : Remembered appended store) (hlinked : Linked appended store) {request : AppendRequest}
    (hfresh : DrawsFresh appended (.appendEvent request)) (hreads : ReadsBack runtime store (.appendEvent request)) :
    Remembered (appendedBy runtime store (.appendEvent request) ++ appended) (perform runtime store (.appendEvent request)) := by
  rcases appendEvent_cases request with ⟨content,e,hgrows,he⟩ | ⟨row,events,content,hadded,hinsert,he⟩
  · rw [appendedBy,perform,he]
    exact h.keep (fun _ _ hkept => hkept.grows rfl rfl hgrows) fun _ hrow => hrow
  · have hreturned : (appendEvent runtime store request).1 = .ok request.receiptId := by rw [he]
    have hnew := (kept_append_iff hlinked hfresh hreturned).mpr hreads
    rw [perform,he] at hnew
    rw [appendedBy,perform,he]
    intro receiptId payload hmem
    rcases List.mem_cons.mp hmem with hentry | hentry
    · cases hentry
      exact .inl hnew
    · rcases h receiptId payload hentry with ⟨old,hold,rfl,hread,htexts⟩ | herased
      · have hne : request.receiptId ≠ old.receiptId := (hfresh _ hentry).symm
        refine .inl ⟨old,(Table.mem_insert hinsert).mpr (.inl hold),rfl,readPayload_grows hadded.grows hread,?_⟩
        rw [searchTexts,texts_append hne]
        exact htexts
      · exact .inr herased

theorem Remembered.step (h : Remembered appended store) (hlinked : Linked appended store) (call : MemoryCall)
    (hfresh : DrawsFresh appended call) (hreads : ReadsBack runtime store call) :
    Remembered (appendedBy runtime store call ++ appended) (perform runtime store call) := by
  cases call with
  | recordLineage era parentEra checkpoint now =>
    obtain ⟨lineage,he⟩ := recordLineage_effect era parentEra checkpoint now
    rw [perform,he]
    exact h.keep (fun _ _ hkept => hkept.grows rfl rfl (.refl _)) fun _ hrow => hrow
  | appendEvent request => exact h.append hlinked hfresh hreads
  | suppress target reason =>
    refine h.keep (fun _ _ hkept => hkept.suppress target reason) ?_
    rw [perform,suppress]
    split <;> exact fun _ hrow => hrow
  | unsuppress target =>
    refine h.keep (fun _ _ hkept => hkept.unsuppress target) ?_
    rw [perform,unsuppress]
    split <;> exact fun _ hrow => hrow
  | addDerivedArtifacts target embedding summary encryptionKey =>
    obtain ⟨content,hgrows,hwritten,_⟩ := @writeContent_effect runtime store embedding "embedding"
    rw [perform,addDerivedArtifacts]
    split
    · exact h
    · rw [hwritten]
      exact h.keep (fun _ _ hkept => hkept.grows rfl rfl hgrows) fun _ hrow => hrow
  | link source target relation =>
    rw [perform,link]
    split
    · exact h
    · exact h.keep (fun _ _ hkept => hkept.grows rfl rfl (.refl _)) fun _ hrow => hrow
  | consolidate request =>
    rcases consolidate_effect request with he | ⟨_,_,_,_,_,he⟩
    · rw [perform,he]
      exact h
    · rw [perform,he]
      exact h.keep (fun _ _ hkept => hkept.grows rfl rfl (.refl _)) fun _ hrow => hrow
  | registerAdapter adapterId era sourceReceipts =>
    rcases registerAdapter_effect adapterId era sourceReceipts with he | ⟨_,_,_,_,he⟩
    · rw [perform,he]
      exact h
    · rw [perform,he]
      exact h.keep (fun _ _ hkept => hkept.grows rfl rfl (.refl _)) fun _ hrow => hrow
  | hardDelete target now =>
    rw [perform,hardDelete]
    split
    · next erased herased =>
      rw [unlinkAll_eq]
      exact h.erase herased _
    · exact h
  | interruptErasure target now unlinked =>
    rw [perform,interruptErasure]
    split
    · next erased herased =>
      rw [unlinkAll_eq]
      exact h.erase herased _
    · exact h
  | interruptContent payload suffix written =>
    obtain ⟨content,hgrows,he⟩ := @interruptContent_effect runtime store payload suffix written
    rw [perform,he]
    exact h.keep (fun _ _ hkept => hkept.grows rfl rfl hgrows) fun _ hrow => hrow

theorem remembered_of_run {allowed : MemoryStore → MemoryCall → Prop} (hrun : MemoryRun runtime allowed appended store)
    (hallowed : ∀ store call, allowed store call → ReadsBack runtime store call) : Remembered appended store := by
  induction hrun with
  | opened => exact fun _ _ hmem => absurd hmem List.not_mem_nil
  | called call hrun hfresh hcall ih => exact ih.step (linked_of_run hrun) call hfresh (hallowed _ call hcall)

end Invariant

section Views
variable {runtime : MemoryRuntime} {store : MemoryStore}

def Visible (store : MemoryStore) (receiptId : String) : Prop :=
  ¬ IsErased store receiptId ∧ ∃ row ∈ store.events.rows, row.receiptId = receiptId ∧ row.suppressed = false

theorem visible_of_read {appended : Appended} (hlinked : Linked appended store) {receiptId : String} {event : EventView}
    (h : readEvent store receiptId false = .ok (some event)) : Visible store event.receiptId := by
  rw [readEvent] at h
  split at h
  · cases h
  · next row hfind =>
    obtain ⟨hrow,hkey⟩ := Table.find_eq_some.mp hfind
    split at h
    · cases h
    · next hshown =>
      rw [Bool.not_false,Bool.and_true,Bool.not_eq_true] at hshown
      obtain ⟨payload,_,hreturn⟩ := bind_eq_ok.mp h
      cases hreturn
      refine ⟨?_,row,hrow,hkey,hshown⟩
      rintro ⟨erasure,herasure,hgone,_⟩
      exact hlinked.erasedDead erasure herasure ⟨row,hrow,hkey.trans hgone.symm⟩

theorem visible_of_reads {appended : Appended} (hlinked : Linked appended store) {α : Type} {receipt : α → String} {xs : List α}
    {events : List (Option EventView)} (h : (xs.mapM fun x => readEvent store (receipt x) false) = .ok events) :
    ∀ event ∈ events.reduceOption, Visible store event.receiptId := by
  intro event hmem
  obtain ⟨x,_,hread⟩ := exists_right_of_forall₂ (mapM_eq_ok.mp h).flip (List.reduceOption_mem_iff.mp hmem)
  exact visible_of_read hlinked hread

theorem visible_of_search {appended : Appended} (hlinked : Linked appended store) {query : String} {events : List EventView}
    (h : search runtime store query = .ok events) : ∀ event ∈ events, Visible store event.receiptId := by
  rw [search] at h
  obtain ⟨receipts,_,h⟩ := bind_eq_ok.mp h
  obtain ⟨found,hfound,hreturn⟩ := bind_eq_ok.mp h
  cases hreturn
  exact visible_of_reads hlinked hfound

theorem visible_of_view {appended : Appended} (hlinked : Linked appended store) {era : Option String}
    {entries : List AutobiographyEntry} (h : autobiographicalView store era = .ok entries) :
    ∀ entry ∈ entries, Visible store entry.receiptId := by
  rw [autobiographicalView] at h
  obtain ⟨found,hfound,hreturn⟩ := bind_eq_ok.mp h
  cases hreturn
  intro entry hmem
  obtain ⟨event,hevent,rfl⟩ := List.mem_map.mp hmem
  exact visible_of_reads hlinked hfound event hevent

structure RoundTrips (runtime : MemoryRuntime) (store : MemoryStore) (receiptId payload : String) : Prop where
  read : ∃ view, readEvent store receiptId true = .ok (some view) ∧ view.receiptId = receiptId ∧ view.payload = payload ∧
    searchTexts store receiptId = if view.suppressed then [] else [payload]
  restored : ∀ reason, searchTexts (perform runtime (perform runtime store (.suppress receiptId reason))
    (.unsuppress receiptId)) receiptId = [payload]

theorem Kept.unsuppressed {receiptId payload : String} (h : Kept store receiptId payload) :
    searchTexts (Foundation.unsuppress store receiptId).2 receiptId = [payload] := by
  obtain ⟨row,hrow,rfl,hread,_⟩ := h
  rw [Foundation.unsuppress,readEvent_of_row hrow hread,searchTexts,List.filter_append,texts_filter_self,texts_self]
  rfl

theorem roundTrips_iff_kept {receiptId payload : String} : RoundTrips runtime store receiptId payload ↔
    Kept store receiptId payload := by
  constructor
  · rintro ⟨⟨view,hview,hreceipt,hpayload,htexts⟩,_⟩
    rw [readEvent] at hview
    split at hview
    · cases hview
    · next row hfind =>
      obtain ⟨hrow,hkey⟩ := Table.find_eq_some.mp hfind
      rw [Bool.not_true,Bool.and_false,if_neg Bool.false_ne_true] at hview
      obtain ⟨found,hread,hreturn⟩ := bind_eq_ok.mp hview
      cases hreturn
      cases hpayload
      exact ⟨row,hrow,hkey,hread,htexts⟩
  · intro h
    have hrestored (reason : String) := (h.suppress receiptId reason).unsuppressed
    obtain ⟨row,hrow,rfl,hread,htexts⟩ := h
    exact ⟨⟨_,readEvent_of_row hrow hread,rfl,rfl,htexts⟩,hrestored⟩

end Views

section Conditions
variable {runtime : MemoryRuntime} {store : MemoryStore} {request : AppendRequest}

theorem readsBack_new (h : store.content (contentPath runtime (utf8 request.payload) "event") = none) :
    ReadsBack runtime store (.appendEvent request) ↔ ∀ c ∈ request.payload.toList, c ≠ '\r' := by
  rw [ReadsBack,h]
  exact readText_utf8

end Conditions

theorem event_memory_round_trip (runtime : MemoryRuntime) (allowed : MemoryStore → MemoryCall → Prop) (appended : Appended)
    (store : MemoryStore) (hrun : MemoryRun runtime allowed appended store) :
    (∀ query events, search runtime store query = .ok events → ∀ event ∈ events, Visible store event.receiptId) ∧
    (∀ era entries, autobiographicalView store era = .ok entries → ∀ entry ∈ entries, Visible store entry.receiptId) ∧
    ((∀ store call, allowed store call → ReadsBack runtime store call) → ∀ receiptId payload,
      (receiptId,payload) ∈ appended → ¬ IsErased store receiptId → RoundTrips runtime store receiptId payload) ∧
    ∀ request, DrawsFresh appended (.appendEvent request) → (appendEvent runtime store request).1 = .ok request.receiptId →
      (RoundTrips runtime (perform runtime store (.appendEvent request)) request.receiptId request.payload ↔
        ReadsBack runtime store (.appendEvent request)) := by
  have hlinked := linked_of_run hrun
  refine ⟨fun _ _ => visible_of_search hlinked,fun _ _ => visible_of_view hlinked,fun hallowed receiptId payload hmem hlive => ?_,
    fun request hfresh hreturned => roundTrips_iff_kept.trans (kept_append_iff hlinked hfresh hreturned)⟩
  rcases remembered_of_run hrun hallowed receiptId payload hmem with hkept | herased
  · exact roundTrips_iff_kept.mpr hkept
  · exact absurd herased hlive

section Sample

-- The SHA-256 of the payload below.
def windowsDigest : Digest :=
  ⟨[24,116,95,54,160,94,41,7,39,9,4,45,96,98,206,84,241,176,143,243,108,39,186,128,195,159,129,251,1,12,140,226],rfl⟩

def windowsRuntime : MemoryRuntime where
  sha256 raw := if raw = utf8 "my secret" then secretDigest else windowsDigest
  contentRoot := "memory/content"
  provenanceJson _ := .ok (.obj [])
  matchRows _ _ := .ok []

def windowsRequest : AppendRequest :=
  ⟨"mem-1","2026-01-01T00:00:00+00:00","a\r\nb","era-0",[],.finite 0 PyFloat.isDouble_zero⟩

def eraStore : MemoryStore :=
  perform windowsRuntime .empty (.recordLineage "era-0" none "base" "2026-01-01T00:00:00+00:00")

theorem eraStore_run : MemoryRun windowsRuntime (ReadsBack windowsRuntime) [] eraStore :=
  .called (.recordLineage "era-0" none "base" "2026-01-01T00:00:00+00:00") .opened trivial trivial

theorem secret_no_return : ∀ c ∈ secretRequest.payload.toList, c ≠ '\r' := by
  have hall : (secretRequest.payload.toList.all fun c => c ≠ '\r') = true := rfl
  exact fun c hc => of_decide_eq_true (List.all_eq_true.mp hall c hc)

theorem secretAppend_run : MemoryRun windowsRuntime (ReadsBack windowsRuntime) [("mem-1","my secret")]
    (perform windowsRuntime eraStore (.appendEvent secretRequest)) :=
  .called (.appendEvent secretRequest) eraStore_run (List.forall_mem_nil _) ((readsBack_new rfl).mpr secret_no_return)

theorem secret_round_trip :
    RoundTrips windowsRuntime (perform windowsRuntime eraStore (.appendEvent secretRequest)) "mem-1" "my secret" :=
  (event_memory_round_trip windowsRuntime (ReadsBack windowsRuntime) _ _ secretAppend_run).2.2.1 (fun _ _ h => h)
    "mem-1" "my secret" List.mem_cons_self (by rintro ⟨row,hrow,_⟩; exact List.not_mem_nil hrow)

theorem windows_payload_translated :
    MemoryRun windowsRuntime (fun _ _ => True) [("mem-1","a\r\nb")]
        (perform windowsRuntime eraStore (.appendEvent windowsRequest)) ∧
      ¬ RoundTrips windowsRuntime (perform windowsRuntime eraStore (.appendEvent windowsRequest)) "mem-1" "a\r\nb" := by
  refine ⟨.called (.appendEvent windowsRequest) (.called (.recordLineage "era-0" none "base" "2026-01-01T00:00:00+00:00")
    .opened trivial trivial) (List.forall_mem_nil _) trivial,fun hround => ?_⟩
  obtain ⟨view,hview,_,hpayload,_⟩ := hround.read
  have hread : (readEvent (perform windowsRuntime eraStore (.appendEvent windowsRequest)) "mem-1" true).toOption.map
      (·.map (·.payload)) = some (some "a\nb") := by decide
  rw [hview] at hread
  exact absurd (hpayload.symm.trans (Option.some.inj (Option.some.inj hread))) (by decide)

end Sample

end PneumaLab.Foundation
