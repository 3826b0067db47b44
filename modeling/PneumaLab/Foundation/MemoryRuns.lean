import PneumaLab.Foundation.Memory

namespace PneumaLab.Foundation

inductive MemoryCall where
  | recordLineage (era : String) (parentEra : Option String) (checkpoint now : String)
  | appendEvent (request : AppendRequest)
  | suppress (receiptId reason : String)
  | unsuppress (receiptId : String)
  | addDerivedArtifacts (receiptId : String) (embedding : Bytes) (summary : String) (encryptionKey : Bytes)
  | link (source target relation : String)
  | consolidate (request : ConsolidateRequest)
  | registerAdapter (adapterId era : String) (sourceReceipts : List String)
  | hardDelete (receiptId now : String)
  | interruptErasure (receiptId now : String) (unlinked : ℕ)
  | interruptContent (payload : Bytes) (suffix : String) (written : ℕ)

section Runs
variable (runtime : MemoryRuntime)

def perform (store : MemoryStore) : MemoryCall → MemoryStore
  | .recordLineage era parentEra checkpoint now => (recordLineage store era parentEra checkpoint now).2
  | .appendEvent request => (appendEvent runtime store request).2
  | .suppress receiptId reason => (suppress store receiptId reason).2
  | .unsuppress receiptId => (unsuppress store receiptId).2
  | .addDerivedArtifacts receiptId embedding summary encryptionKey =>
    (addDerivedArtifacts runtime store receiptId embedding summary encryptionKey).2
  | .link source target relation => (link store source target relation).2
  | .consolidate request => (consolidate store request).2
  | .registerAdapter adapterId era sourceReceipts => (registerAdapter store adapterId era sourceReceipts).2
  | .hardDelete receiptId now => (hardDelete store receiptId now).2
  | .interruptErasure receiptId now unlinked => interruptErasure store receiptId now unlinked
  | .interruptContent payload suffix written => interruptContent runtime store payload suffix written

abbrev Appended := List (String × String)

def appendedBy (store : MemoryStore) : MemoryCall → Appended
  | .appendEvent request =>
    match (appendEvent runtime store request).1 with
    | .ok receiptId => [(receiptId,request.payload)]
    | .error _ => []
  | _ => []

-- uuid4 does not draw the receipt of an earlier event again.
def DrawsFresh (appended : Appended) : MemoryCall → Prop
  | .appendEvent request => ∀ entry ∈ appended, entry.1 ≠ request.receiptId
  | _ => True

inductive MemoryRun (allowed : MemoryStore → MemoryCall → Prop) : Appended → MemoryStore → Prop
  | opened : MemoryRun allowed [] .empty
  | called {appended : Appended} {store : MemoryStore} (call : MemoryCall) : MemoryRun allowed appended store →
      DrawsFresh appended call → allowed store call →
      MemoryRun allowed (appendedBy runtime store call ++ appended) (perform runtime store call)

end Runs

def Live (store : MemoryStore) (receiptId : String) : Prop := ∃ row ∈ store.events.rows, row.receiptId = receiptId

def IsErased (store : MemoryStore) (receiptId : String) : Prop :=
  ∃ row ∈ store.erasures.rows, row.receiptId = receiptId ∧ row.payloadRetained = false

-- The receipts in every other table and in the source lists of active adapters.
def mentioned (store : MemoryStore) : List String :=
  store.eventSearch.map (·.receiptId) ++ store.embeddings.map (·.receiptId) ++ store.summaries.map (·.receiptId) ++
    store.memoryLinks.flatMap (fun row => [row.sourceReceipt,row.targetReceipt]) ++
    store.encryptionKeys.rows.map (·.receiptId) ++
    store.semanticKnowledge.rows.flatMap (fun row => row.sourceReceipts ++ row.contradictions) ++
    (store.adapters.rows.filter fun row => row.status = .active).flatMap (·.sourceReceipts)

section Effects
variable {runtime : MemoryRuntime} {store : MemoryStore}

def Grows (before after : String → Option Bytes) : Prop := ∀ path, (before path).isSome → after path = before path

theorem Grows.refl (content : String → Option Bytes) : Grows content content := fun _ _ => rfl

theorem grows_update {content : String → Option Bytes} {path : String} (h : (content path).isSome = false) (raw : Bytes) :
    Grows content (Function.update content path (some raw)) := by
  intro other hother
  refine Function.update_of_ne ?_ _ _
  rintro rfl
  rw [h] at hother
  cases hother

theorem writeContent_effect (payload : Bytes) (suffix : String) : ∃ content, Grows store.content content ∧
    writeContent runtime store payload suffix = { store with content := content } ∧
    content (contentPath runtime payload suffix) = some ((store.content (contentPath runtime payload suffix)).getD payload) := by
  cases hfile : store.content (contentPath runtime payload suffix) with
  | some raw =>
    refine ⟨store.content,.refl _,?_,hfile⟩
    rw [writeContent,hfile]
    rfl
  | none =>
    refine ⟨Function.update store.content (contentPath runtime payload suffix) (some payload),grows_update ?_ payload,?_,?_⟩
    · rw [hfile]
      rfl
    · rw [writeContent,hfile]
      rfl
    · exact Function.update_self ..

theorem interruptContent_effect (payload : Bytes) (suffix : String) (written : ℕ) : ∃ content,
    Grows store.content content ∧ interruptContent runtime store payload suffix written = { store with content := content } := by
  cases hfile : store.content (contentPath runtime payload suffix) with
  | some raw =>
    refine ⟨store.content,.refl _,?_⟩
    rw [interruptContent,hfile]
    rfl
  | none =>
    refine ⟨Function.update store.content (contentPath runtime payload suffix) (some (payload.take written)),
      grows_update ?_ _,?_⟩
    · rw [hfile]
      rfl
    · rw [interruptContent,hfile]
      rfl

theorem recordLineage_effect (era : String) (parentEra : Option String) (checkpoint now : String) :
    ∃ lineage, (recordLineage store era parentEra checkpoint now).2 = { store with lineage := lineage } := by
  rw [recordLineage]
  split
  · exact ⟨store.lineage,rfl⟩
  · cases hinsert : store.lineage.insert ⟨era,parentEra,checkpoint,now⟩ with
    | none => exact ⟨store.lineage,rfl⟩
    | some lineage => exact ⟨lineage,rfl⟩

theorem appendEvent_unit {request : AppendRequest} (h : isUnitInterval request.uncertainty = true) :
    appendEvent runtime store request = commit (writeContent runtime store (utf8 request.payload) "event")
      request.receiptId (insertEvent runtime (writeContent runtime store (utf8 request.payload) "event") request) := by
  rw [appendEvent,if_pos h]

structure EventAdded (runtime : MemoryRuntime) (store : MemoryStore) (request : AppendRequest) (row : EventRow)
    (content : String → Option Bytes) : Prop where
  receipt : row.receiptId = request.receiptId
  searchable : row.suppressed = false
  path : row.payloadPath = contentPath runtime (utf8 request.payload) "event"
  grows : Grows store.content content
  file : content row.payloadPath = some ((store.content row.payloadPath).getD (utf8 request.payload))

theorem appendEvent_cases (request : AppendRequest) :
    (∃ content e, Grows store.content content ∧
      appendEvent runtime store request = (.error e,{ store with content := content })) ∨
    ∃ row events content, EventAdded runtime store request row content ∧ store.events.insert row = some events ∧
      appendEvent runtime store request = (.ok request.receiptId,{ store with
        events := events
        eventSearch := store.eventSearch ++ [⟨request.receiptId,request.payload⟩]
        content := content }) := by
  obtain ⟨content,hgrows,hwritten,hfile⟩ := @writeContent_effect runtime store
    (utf8 request.payload) "event"
  cases hunit : isUnitInterval request.uncertainty with
  | false =>
    have hrefused : appendEvent runtime store request =
        (.error (.memoryIntegrityError "uncertainty must be between zero and one"),store) := by
      rw [appendEvent,hunit]
      rfl
    exact .inl ⟨store.content,_,.refl _,hrefused⟩
  | true =>
    rw [appendEvent_unit hunit,hwritten]
    cases hinsert : insertEvent runtime { store with content := content } request with
    | error e => exact .inl ⟨content,e,hgrows,rfl⟩
    | ok next =>
      rw [insertEvent] at hinsert
      simp only [bind_eq_ok,required_eq_ok] at hinsert
      obtain ⟨provenance,_,events,hevents,_,_,hnext⟩ := hinsert
      cases hnext
      exact .inr ⟨_,events,content,⟨rfl,rfl,rfl,hgrows,hfile⟩,hevents,rfl⟩

theorem validSourceReceipts_live {receipts sources : List String} (h : validSourceReceipts store receipts = .ok sources) :
    ∀ receipt ∈ sources, Live store receipt := by
  simp only [validSourceReceipts,bind_eq_ok,forM_eq_ok] at h
  obtain ⟨_,_,_,hsources,hreturn⟩ := h
  cases hreturn
  intro receipt hmem
  obtain ⟨row,hrow,_⟩ := (Option.any_eq_true _ _).mp (demand_eq_ok.mp (hsources receipt hmem))
  exact ⟨row,Table.find_eq_some.mp hrow⟩

theorem consolidate_effect (request : ConsolidateRequest) : (consolidate store request).2 = store ∨
    ∃ row knowledge, store.semanticKnowledge.insert row = some knowledge ∧ (∀ receipt ∈ row.sourceReceipts, Live store receipt) ∧
      (∀ receipt ∈ row.contradictions, receipt ∈ row.sourceReceipts) ∧
      (consolidate store request).2 = { store with semanticKnowledge := knowledge } := by
  cases hrows : consolidateRows store request with
  | error e =>
    rw [consolidate,hrows]
    exact .inl rfl
  | ok committed =>
    rw [consolidate,hrows]
    simp only [consolidateRows,requireConsolidation,bind_eq_ok,demand_eq_ok,required_eq_ok] at hrows
    obtain ⟨sources,hsources,_,⟨_,hcontradictions,_⟩,knowledge,hinsert,hreturn⟩ := hrows
    cases hreturn
    refine .inr ⟨_,knowledge,hinsert,validSourceReceipts_live hsources,fun receipt hmem => ?_,rfl⟩
    exact of_decide_eq_true (List.all_eq_true.mp hcontradictions receipt hmem)

theorem registerAdapter_effect (adapterId era : String) (sourceReceipts : List String) :
    (registerAdapter store adapterId era sourceReceipts).2 = store ∨
    ∃ row adapters, store.adapters.insert row = some adapters ∧ (∀ receipt ∈ row.sourceReceipts, Live store receipt) ∧
      (registerAdapter store adapterId era sourceReceipts).2 = { store with adapters := adapters } := by
  cases hrows : registerRows store adapterId era sourceReceipts with
  | error e =>
    rw [registerAdapter,hrows]
    exact .inl rfl
  | ok committed =>
    rw [registerAdapter,hrows]
    simp only [registerRows,bind_eq_ok,required_eq_ok] at hrows
    obtain ⟨sources,hsources,adapters,hinsert,_,_,hreturn⟩ := hrows
    cases hreturn
    exact .inr ⟨_,adapters,hinsert,validSourceReceipts_live hsources,rfl⟩

-- The unlink loop removes the listed files that no row points to.
def unlinked (store : MemoryStore) (paths : List String) (path : String) : Option Bytes :=
  if path ∈ paths ∧ isReferenced store path = false then none else store.content path

theorem unlinkAll_eq (paths : List String) :
    paths.foldl safeUnlinkUnreferenced store = { store with content := unlinked store paths } := by
  induction paths generalizing store with
  | nil =>
    have hcontent : unlinked store [] = store.content := funext fun path => if_neg fun h => List.not_mem_nil h.1
    rw [List.foldl_nil,hcontent]
  | cons head paths ih =>
    rw [List.foldl_cons,ih,safeUnlinkUnreferenced]
    split
    · next hhead =>
      obtain ⟨hfree,_⟩ := Bool.and_eq_true_iff.mp hhead
      have hcontent : unlinked { store with content := Function.update store.content head none } paths =
          unlinked store (head :: paths) := by
        funext path
        simp only [unlinked,List.mem_cons]
        by_cases hpath : path = head
        · subst hpath
          have hunreferenced : isReferenced store path = false := Bool.not_eq_true' _ ▸ hfree
          rw [Function.update_self,ite_self,if_pos (And.intro (Or.inl rfl) hunreferenced)]
        · rw [Function.update_of_ne hpath]
          simp only [hpath,false_or]
          rfl
      simp only [hcontent]
    · next hhead =>
      have hcontent : unlinked store paths = unlinked store (head :: paths) := by
        funext path
        simp only [unlinked,List.mem_cons]
        by_cases hpath : path = head
        · subst hpath
          rw [Bool.and_eq_true,not_and,Bool.not_eq_true',Option.not_isSome_iff_eq_none] at hhead
          by_cases hfree : isReferenced store path = false
          · rw [hhead hfree,ite_self,ite_self]
          · rw [if_neg (fun h => hfree h.2),if_neg (fun h => hfree h.2)]
        · simp only [hpath,false_or]
      simp only [hcontent]

theorem erasure_effect {receiptId now : String} {erased : Erased} (h : eraseRows store receiptId now = .ok erased) :
    ∃ row ∈ store.events.rows, ∃ erasures, row.receiptId = receiptId ∧ erased.contentPaths = contentPaths store receiptId row ∧
      store.erasures.insert ⟨receiptId,row.payloadHash,now,false⟩ = some erasures ∧
      erased.store = { deleteRows store receiptId with erasures := erasures } := by
  simp only [eraseRows,bind_eq_ok,required_eq_ok] at h
  obtain ⟨row,hfind,erasures,hinsert,hreturn⟩ := h
  cases hreturn
  obtain ⟨hmem,hkey⟩ := Table.find_eq_some.mp hfind
  exact ⟨row,hmem,erasures,hkey,rfl,hinsert,rfl⟩

end Effects

end PneumaLab.Foundation
