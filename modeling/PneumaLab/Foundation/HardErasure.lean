import PneumaLab.Foundation.MemoryRuns

namespace PneumaLab.Foundation

section Mentions
variable {store : MemoryStore} {receipt : String}

theorem mem_mentioned : receipt ∈ mentioned store ↔
    (∃ row ∈ store.eventSearch, row.receiptId = receipt) ∨ (∃ row ∈ store.embeddings, row.receiptId = receipt) ∨
    (∃ row ∈ store.summaries, row.receiptId = receipt) ∨
    (∃ row ∈ store.memoryLinks, receipt = row.sourceReceipt ∨ receipt = row.targetReceipt) ∨
    (∃ row ∈ store.encryptionKeys.rows, row.receiptId = receipt) ∨
    (∃ row ∈ store.semanticKnowledge.rows, receipt ∈ row.sourceReceipts ∨ receipt ∈ row.contradictions) ∨
    (∃ row ∈ store.adapters.rows, row.status = .active ∧ receipt ∈ row.sourceReceipts) := by
  simp only [mentioned,List.mem_append,List.mem_map,List.mem_flatMap,List.mem_filter,decide_eq_true_eq,List.mem_cons,
    List.not_mem_nil,or_false,and_assoc,or_assoc]

theorem live_update {f : EventRow → EventRow} {hf : ∀ row, (f row).receiptId = row.receiptId} {next : MemoryStore}
    (h : next.events = store.events.update f hf) : Live next receipt ↔ Live store receipt := by
  simp only [Live,h,Table.mem_update hf]
  constructor
  · rintro ⟨_,⟨row,hrow,rfl⟩,rfl⟩
    exact ⟨row,hrow,(hf row).symm⟩
  · rintro ⟨row,hrow,rfl⟩
    exact ⟨f row,⟨row,hrow,rfl⟩,hf row⟩

theorem live_of_read {includeSuppressed : Bool} {event : EventView}
    (h : readEvent store receipt includeSuppressed = .ok (some event)) : Live store receipt := by
  rw [readEvent] at h
  split at h
  · cases h
  · next row hfind => exact ⟨row,Table.find_eq_some.mp hfind⟩

theorem deleteRows_knowledge : (deleteRows store receipt).semanticKnowledge.rows =
    store.semanticKnowledge.rows.filter fun row => !decide (receipt ∈ row.sourceReceipts) := Table.deleteKeys_filter _ _

theorem deleteRows_adapters : (deleteRows store receipt).adapters.rows =
    store.adapters.rows.map fun row => if listsSource receipt row then revoke row else row :=
  Table.updateKeys_filter _ _ revoke_key revoke_revoke _

theorem live_deleteRows {erasures : Table ErasureRow.receiptId} {other : String} :
    Live { deleteRows store receipt with erasures := erasures } other ↔ Live store other ∧ other ≠ receipt := by
  simp only [Live,deleteRows,Table.mem_delete,decide_eq_false_iff_not]
  constructor
  · rintro ⟨row,⟨hrow,hne⟩,rfl⟩
    exact ⟨⟨row,hrow,rfl⟩,hne⟩
  · rintro ⟨⟨row,hrow,rfl⟩,hne⟩
    exact ⟨row,⟨hrow,hne⟩,rfl⟩

theorem mentioned_deleteRows {erasures : Table ErasureRow.receiptId} {other : String}
    (hlisted : ∀ row ∈ store.semanticKnowledge.rows, ∀ receipt ∈ row.contradictions, receipt ∈ row.sourceReceipts)
    (h : other ∈ mentioned { deleteRows store receipt with erasures := erasures }) :
    other ∈ mentioned store ∧ other ≠ receipt := by
  rw [mem_mentioned] at h
  simp only [deleteRows_knowledge,deleteRows_adapters] at h
  rw [mem_mentioned]
  rcases h with ⟨row,hrow,rfl⟩ | ⟨row,hrow,rfl⟩ | ⟨row,hrow,rfl⟩ | ⟨row,hrow,hends⟩ | ⟨row,hrow,rfl⟩ | ⟨row,hrow,hends⟩ |
    ⟨row,hrow,hactive,hsource⟩
  · obtain ⟨hold,hne⟩ := List.mem_filter.mp hrow
    exact ⟨.inl ⟨row,hold,rfl⟩,of_decide_eq_true hne⟩
  · obtain ⟨hold,hne⟩ := List.mem_filter.mp hrow
    exact ⟨.inr (.inl ⟨row,hold,rfl⟩),of_decide_eq_true hne⟩
  · obtain ⟨hold,hne⟩ := List.mem_filter.mp hrow
    exact ⟨.inr (.inr (.inl ⟨row,hold,rfl⟩)),of_decide_eq_true hne⟩
  · obtain ⟨hold,hne⟩ := List.mem_filter.mp hrow
    simp only [linksReceipt,Bool.not_or,Bool.and_eq_true,Bool.not_eq_true',decide_eq_false_iff_not] at hne
    refine ⟨.inr (.inr (.inr (.inl ⟨row,hold,hends⟩))),?_⟩
    rcases hends with rfl | rfl
    · exact hne.1
    · exact hne.2
  · obtain ⟨hold,hne⟩ := Table.mem_delete.mp hrow
    exact ⟨.inr (.inr (.inr (.inr (.inl ⟨row,hold,rfl⟩)))),of_decide_eq_false hne⟩
  · obtain ⟨hold,hne⟩ := List.mem_filter.mp hrow
    refine ⟨.inr (.inr (.inr (.inr (.inr (.inl ⟨row,hold,hends⟩))))),?_⟩
    rintro rfl
    have hsource : other ∈ row.sourceReceipts := hends.elim id (hlisted row hold other)
    rw [decide_eq_true hsource] at hne
    cases hne
  · obtain ⟨old,hold,rfl⟩ := List.mem_map.mp hrow
    split at hactive
    · cases hactive
    · next hlists =>
      rw [if_neg hlists] at hsource
      refine ⟨.inr (.inr (.inr (.inr (.inr (.inr ⟨old,hold,hactive,hsource⟩))))),?_⟩
      rintro rfl
      exact hlists (Bool.and_eq_true_iff.mpr ⟨decide_eq_true hactive,decide_eq_true hsource⟩)

end Mentions

structure Linked (appended : Appended) (store : MemoryStore) : Prop where
  eventsDrawn : ∀ row ∈ store.events.rows, ∃ entry ∈ appended, entry.1 = row.receiptId
  erasuresDrawn : ∀ row ∈ store.erasures.rows, ∃ entry ∈ appended, entry.1 = row.receiptId
  erasedDead : ∀ row ∈ store.erasures.rows, ¬ Live store row.receiptId
  mentionsLive : ∀ receipt ∈ mentioned store, Live store receipt
  contradictionsListed : ∀ row ∈ store.semanticKnowledge.rows, ∀ receipt ∈ row.contradictions, receipt ∈ row.sourceReceipts

namespace Linked
variable {appended : Appended} {store : MemoryStore}

theorem empty : Linked [] .empty :=
  ⟨List.forall_mem_nil _,List.forall_mem_nil _,List.forall_mem_nil _,List.forall_mem_nil _,List.forall_mem_nil _⟩

theorem withContent (h : Linked appended store) (content : String → Option Bytes) :
    Linked appended { store with content := content } :=
  ⟨h.eventsDrawn,h.erasuresDrawn,h.erasedDead,h.mentionsLive,h.contradictionsListed⟩

theorem withLineage (h : Linked appended store) (lineage : Table LineageRow.era) :
    Linked appended { store with lineage := lineage } :=
  ⟨h.eventsDrawn,h.erasuresDrawn,h.erasedDead,h.mentionsLive,h.contradictionsListed⟩

theorem append (h : Linked appended store) {request : AppendRequest} {row : EventRow} {events : Table EventRow.receiptId}
    {content : String → Option Bytes} (hrow : row.receiptId = request.receiptId)
    (hinsert : store.events.insert row = some events) (hfresh : ∀ entry ∈ appended, entry.1 ≠ request.receiptId) :
    Linked ((request.receiptId,request.payload) :: appended) { store with
      events := events
      eventSearch := store.eventSearch ++ [⟨request.receiptId,request.payload⟩]
      content := content } := by
  have hlive (receipt : String) (hold : Live store receipt) : Live { store with
      events := events
      eventSearch := store.eventSearch ++ [⟨request.receiptId,request.payload⟩]
      content := content } receipt := by
    obtain ⟨old,hmem,hkey⟩ := hold
    exact ⟨old,(Table.mem_insert hinsert).mpr (.inl hmem),hkey⟩
  refine ⟨fun other hother => ?_,fun erasure hmem => ?_,?_,?_,h.contradictionsListed⟩
  · rcases (Table.mem_insert hinsert).mp hother with hold | rfl
    · obtain ⟨entry,hentry,hkey⟩ := h.eventsDrawn other hold
      exact ⟨entry,List.mem_cons_of_mem _ hentry,hkey⟩
    · exact ⟨_,List.mem_cons_self,hrow.symm⟩
  · obtain ⟨entry,hentry,hkey⟩ := h.erasuresDrawn erasure hmem
    exact ⟨entry,List.mem_cons_of_mem _ hentry,hkey⟩
  · rintro erasure hmem ⟨other,hother,hkey⟩
    rcases (Table.mem_insert hinsert).mp hother with hold | rfl
    · exact h.erasedDead erasure hmem ⟨other,hold,hkey⟩
    · obtain ⟨entry,hentry,hdrawn⟩ := h.erasuresDrawn erasure hmem
      exact hfresh entry hentry (hdrawn.trans (hkey.symm.trans hrow))
  · intro receipt hmention
    rw [mem_mentioned] at hmention
    rcases hmention with ⟨entry,hentry,hkey⟩ | hmention
    · rcases List.mem_append.mp hentry with hold | hnew
      · exact hlive receipt (h.mentionsLive receipt (mem_mentioned.mpr (.inl ⟨entry,hold,hkey⟩)))
      · rw [List.mem_singleton.mp hnew] at hkey
        exact ⟨row,(Table.mem_insert hinsert).mpr (.inr rfl),hrow.trans hkey⟩
    · exact hlive receipt (h.mentionsLive receipt (mem_mentioned.mpr (.inr hmention)))

theorem updateEvents (h : Linked appended store) {f : EventRow → EventRow}
    {hf : ∀ row, (f row).receiptId = row.receiptId} {rows : List SearchRow}
    (hrows : ∀ row ∈ rows, Live store row.receiptId) :
    Linked appended { store with events := store.events.update f hf, eventSearch := rows } := by
  have hlive (receipt : String) : Live { store with events := store.events.update f hf, eventSearch := rows } receipt ↔
      Live store receipt := @live_update store receipt f hf _ rfl
  refine ⟨fun other hother => ?_,h.erasuresDrawn,fun erasure hmem => ?_,fun receipt hmention => ?_,h.contradictionsListed⟩
  · obtain ⟨old,hold,rfl⟩ := (Table.mem_update hf).mp hother
    obtain ⟨entry,hentry,hkey⟩ := h.eventsDrawn old hold
    exact ⟨entry,hentry,hkey.trans (hf old).symm⟩
  · rw [hlive]
    exact h.erasedDead erasure hmem
  · rw [hlive]
    rcases mem_mentioned.mp hmention with ⟨row,hmem,rfl⟩ | hmention
    · exact hrows row hmem
    · exact h.mentionsLive receipt (mem_mentioned.mpr (.inr hmention))

theorem derive (h : Linked appended store) {receiptId embeddingPath digest summary : String} {key : Bytes}
    (hlive : Live store receiptId) : Linked appended { store with
      embeddings := store.embeddings ++ [⟨receiptId,embeddingPath,digest⟩]
      summaries := store.summaries ++ [⟨receiptId,summary⟩]
      encryptionKeys := store.encryptionKeys.put ⟨receiptId,key⟩ } := by
  refine ⟨h.eventsDrawn,h.erasuresDrawn,h.erasedDead,fun receipt hmention => ?_,h.contradictionsListed⟩
  rw [mem_mentioned] at hmention
  simp only [List.mem_append,List.mem_singleton,Table.mem_put] at hmention
  have hold : receipt ∈ mentioned store ∨ receipt = receiptId := by
    rw [mem_mentioned]
    grind
  rcases hold with hold | rfl
  · exact h.mentionsLive receipt hold
  · exact hlive

theorem link (h : Linked appended store) {row : LinkRow} (hsource : Live store row.sourceReceipt)
    (htarget : Live store row.targetReceipt) : Linked appended { store with memoryLinks := store.memoryLinks ++ [row] } := by
  refine ⟨h.eventsDrawn,h.erasuresDrawn,h.erasedDead,fun receipt hmention => ?_,h.contradictionsListed⟩
  rw [mem_mentioned] at hmention
  simp only [List.mem_append,List.mem_singleton] at hmention
  have hold : receipt ∈ mentioned store ∨ receipt = row.sourceReceipt ∨ receipt = row.targetReceipt := by
    rw [mem_mentioned]
    grind
  rcases hold with hold | rfl | rfl
  · exact h.mentionsLive receipt hold
  · exact hsource
  · exact htarget

theorem consolidate (h : Linked appended store) {row : KnowledgeRow} {knowledge : Table KnowledgeRow.knowledgeId}
    (hinsert : store.semanticKnowledge.insert row = some knowledge)
    (hsources : ∀ receipt ∈ row.sourceReceipts, Live store receipt)
    (hcontradictions : ∀ receipt ∈ row.contradictions, receipt ∈ row.sourceReceipts) :
    Linked appended { store with semanticKnowledge := knowledge } := by
  refine ⟨h.eventsDrawn,h.erasuresDrawn,h.erasedDead,fun receipt hmention => ?_,fun other hother => ?_⟩
  · rw [mem_mentioned] at hmention
    simp only [Table.mem_insert hinsert] at hmention
    have hold : receipt ∈ mentioned store ∨ receipt ∈ row.sourceReceipts := by
      rw [mem_mentioned]
      grind
    rcases hold with hold | hnew
    · exact h.mentionsLive receipt hold
    · exact hsources receipt hnew
  · rcases (Table.mem_insert hinsert).mp hother with hold | rfl
    · exact h.contradictionsListed other hold
    · exact hcontradictions

theorem register (h : Linked appended store) {row : AdapterRow} {adapters : Table AdapterRow.adapterId}
    (hinsert : store.adapters.insert row = some adapters) (hsources : ∀ receipt ∈ row.sourceReceipts, Live store receipt) :
    Linked appended { store with adapters := adapters } := by
  refine ⟨h.eventsDrawn,h.erasuresDrawn,h.erasedDead,fun receipt hmention => ?_,h.contradictionsListed⟩
  rw [mem_mentioned] at hmention
  simp only [Table.mem_insert hinsert] at hmention
  have hold : receipt ∈ mentioned store ∨ receipt ∈ row.sourceReceipts := by
    rw [mem_mentioned]
    grind
  rcases hold with hold | hnew
  · exact h.mentionsLive receipt hold
  · exact hsources receipt hnew

theorem erase (h : Linked appended store) {row : EventRow} {now : String} {erasures : Table ErasureRow.receiptId}
    (hrow : row ∈ store.events.rows) (hinsert : store.erasures.insert ⟨row.receiptId,row.payloadHash,now,false⟩ = some erasures) :
    Linked appended { deleteRows store row.receiptId with erasures := erasures } := by
  have hlive (receipt : String) : Live { deleteRows store row.receiptId with erasures := erasures } receipt ↔
      Live store receipt ∧ receipt ≠ row.receiptId := live_deleteRows
  refine ⟨fun other hother => ?_,fun erasure hmem => ?_,fun erasure hmem => ?_,fun receipt hmention => ?_,fun other hother => ?_⟩
  · exact h.eventsDrawn other (Table.mem_delete.mp hother).1
  · rcases (Table.mem_insert hinsert).mp hmem with hold | rfl
    · exact h.erasuresDrawn erasure hold
    · exact h.eventsDrawn row hrow
  · rw [hlive]
    rintro ⟨hold,hne⟩
    rcases (Table.mem_insert hinsert).mp hmem with hmem | rfl
    · exact h.erasedDead erasure hmem hold
    · exact hne rfl
  · obtain ⟨hold,hne⟩ := mentioned_deleteRows h.contradictionsListed hmention
    exact (hlive receipt).mpr ⟨h.mentionsLive receipt hold,hne⟩
  · rw [deleteRows_knowledge] at hother
    exact h.contradictionsListed other (List.mem_of_mem_filter hother)

theorem erased (h : Linked appended store) {receiptId now : String} {erased : Erased}
    (herased : eraseRows store receiptId now = .ok erased) : Linked appended erased.store := by
  obtain ⟨row,hrow,erasures,rfl,_,hinsert,hstore⟩ := erasure_effect herased
  rw [hstore]
  exact h.erase hrow hinsert

theorem step {runtime : MemoryRuntime} (h : Linked appended store) (call : MemoryCall) (hfresh : DrawsFresh appended call) :
    Linked (appendedBy runtime store call ++ appended) (perform runtime store call) := by
  cases call with
  | recordLineage era parentEra checkpoint now =>
    obtain ⟨lineage,he⟩ := recordLineage_effect era parentEra checkpoint now
    rw [perform,he]
    exact h.withLineage lineage
  | appendEvent request =>
    rcases appendEvent_cases request with ⟨content,e,_,he⟩ | ⟨row,events,content,hadded,hinsert,he⟩
    · rw [appendedBy,perform,he]
      exact h.withContent content
    · rw [appendedBy,perform,he]
      exact h.append hadded.receipt hinsert hfresh
  | suppress receiptId reason =>
    rw [perform,suppress]
    split
    · exact h
    · refine h.updateEvents fun row hmem => h.mentionsLive _ (mem_mentioned.mpr (.inl ⟨row,?_,rfl⟩))
      exact List.mem_of_mem_filter hmem
  | unsuppress receiptId =>
    rw [perform,unsuppress]
    split
    · exact h
    · exact h
    · next event hread =>
      refine h.updateEvents fun row hmem => ?_
      rcases List.mem_append.mp hmem with hold | hnew
      · exact h.mentionsLive _ (mem_mentioned.mpr (.inl ⟨row,List.mem_of_mem_filter hold,rfl⟩))
      · rw [List.mem_singleton.mp hnew]
        exact live_of_read hread
  | addDerivedArtifacts receiptId embedding summary encryptionKey =>
    rw [perform,addDerivedArtifacts]
    split
    · exact h
    · next row hfind =>
      obtain ⟨content,_,hwritten,_⟩ := @writeContent_effect runtime store embedding "embedding"
      rw [hwritten]
      exact (h.withContent content).derive ⟨row,Table.find_eq_some.mp hfind⟩
  | link source target relation =>
    rw [perform,Foundation.link]
    split
    · exact h
    · next hboth =>
      rw [Bool.or_eq_true,not_or,Option.isNone_iff_eq_none,Option.isNone_iff_eq_none,← ne_eq,← ne_eq,Option.ne_none_iff_exists',
        Option.ne_none_iff_exists'] at hboth
      obtain ⟨⟨left,hleft⟩,⟨right,hright⟩⟩ := hboth
      exact h.link ⟨left,Table.find_eq_some.mp hleft⟩ ⟨right,Table.find_eq_some.mp hright⟩
  | consolidate request =>
    rcases consolidate_effect request with he | ⟨row,knowledge,hinsert,hsources,hcontradictions,he⟩
    · rw [perform,he]
      exact h
    · rw [perform,he]
      exact h.consolidate hinsert hsources hcontradictions
  | registerAdapter adapterId era sourceReceipts =>
    rcases registerAdapter_effect adapterId era sourceReceipts with he | ⟨row,adapters,hinsert,hsources,he⟩
    · rw [perform,he]
      exact h
    · rw [perform,he]
      exact h.register hinsert hsources
  | hardDelete receiptId now =>
    rw [perform,hardDelete]
    split
    · next erased herased =>
      rw [unlinkAll_eq]
      exact (h.erased herased).withContent _
    · exact h
  | interruptErasure receiptId now unlinked =>
    rw [perform,interruptErasure]
    split
    · next erased herased =>
      rw [unlinkAll_eq]
      exact (h.erased herased).withContent _
    · exact h
  | interruptContent payload suffix written =>
    obtain ⟨content,_,he⟩ := @interruptContent_effect runtime store payload suffix written
    rw [perform,he]
    exact h.withContent content

end Linked

theorem linked_of_run {runtime : MemoryRuntime} {allowed : MemoryStore → MemoryCall → Prop} {appended : Appended}
    {store : MemoryStore} (h : MemoryRun runtime allowed appended store) : Linked appended store := by
  induction h with
  | opened => exact .empty
  | called call _ hfresh _ ih => exact ih.step call hfresh

def Unmentioned (store : MemoryStore) (receipt : String) : Prop := ¬ Live store receipt ∧ receipt ∉ mentioned store

theorem unmentioned_of_erased {appended : Appended} {store : MemoryStore} (h : Linked appended store) {receipt : String}
    (herased : IsErased store receipt) : Unmentioned store receipt := by
  obtain ⟨row,hrow,rfl,_⟩ := herased
  have hdead := h.erasedDead row hrow
  exact ⟨hdead,fun hmention => hdead (h.mentionsLive _ hmention)⟩

section Erasure

-- A hard_delete that committed: it returned, or it stopped after some of its unlinks.
def erasureOutcome (store : MemoryStore) (receiptId now : String) : Option ℕ → MemoryStore
  | none => (hardDelete store receiptId now).2
  | some unlinked => interruptErasure store receiptId now unlinked

def passedPaths (paths : List String) : Option ℕ → List String
  | none => paths
  | some unlinked => paths.take unlinked

def HeldBy (store : MemoryStore) (receiptId : String) (raw : Bytes) : Prop :=
  ∃ row, store.events.find receiptId = some row ∧ ∃ path ∈ contentPaths store receiptId row, store.content path = some raw

def PointedByOther (store : MemoryStore) (receiptId path : String) : Prop :=
  (∃ row ∈ store.events.rows, row.receiptId ≠ receiptId ∧ row.payloadPath = path) ∨
    ∃ row ∈ store.embeddings, row.receiptId ≠ receiptId ∧ row.contentPath = path

structure OthersKept (before after : MemoryStore) (receiptId : String) : Prop where
  lineage : after.lineage = before.lineage
  events : after.events.rows = before.events.rows.filter fun row => row.receiptId ≠ receiptId
  eventSearch : after.eventSearch = before.eventSearch.filter fun row => row.receiptId ≠ receiptId
  embeddings : after.embeddings = before.embeddings.filter fun row => row.receiptId ≠ receiptId
  summaries : after.summaries = before.summaries.filter fun row => row.receiptId ≠ receiptId
  memoryLinks : after.memoryLinks =
    before.memoryLinks.filter fun row => row.sourceReceipt ≠ receiptId ∧ row.targetReceipt ≠ receiptId
  encryptionKeys : after.encryptionKeys.rows = before.encryptionKeys.rows.filter fun row => row.receiptId ≠ receiptId
  semanticKnowledge : after.semanticKnowledge.rows =
    before.semanticKnowledge.rows.filter fun row => receiptId ∉ row.sourceReceipts ∧ receiptId ∉ row.contradictions
  adapters : after.adapters.rows = before.adapters.rows.map fun row =>
    if row.status = .active ∧ receiptId ∈ row.sourceReceipts then { row with status := .revokedHardDelete } else row
  erasures : ∀ row ∈ before.erasures.rows, row ∈ after.erasures.rows
  files : ∀ path, PointedByOther before receiptId path → after.content path = before.content path

structure ErasureComplete (before after : MemoryStore) (receiptId : String) : Prop where
  unmentioned : Unmentioned after receiptId
  noFile : ∀ path raw, after.content path = some raw → HeldBy before receiptId raw → isReferenced after path = true
  othersKept : OthersKept before after receiptId

-- Every file with the bytes of a content file of the receipt is shared with another receipt, or the unlink loop got past it.
def CopiesPassed (before : MemoryStore) (receiptId : String) (passed : List String) : Prop :=
  ∀ path raw, before.content path = some raw → HeldBy before receiptId raw →
    PointedByOther before receiptId path ∨ path ∈ passed

variable {before : MemoryStore} {receiptId now : String} {erased : Erased}

theorem outcome_eq (h : eraseRows before receiptId now = .ok erased) (stop : Option ℕ) :
    erasureOutcome before receiptId now stop =
      { erased.store with content := unlinked erased.store (passedPaths erased.contentPaths stop) } := by
  cases stop with
  | none =>
    rw [erasureOutcome,hardDelete,h]
    exact unlinkAll_eq _
  | some count =>
    rw [erasureOutcome,interruptErasure,h]
    exact unlinkAll_eq _

theorem isReferenced_iff {store : MemoryStore} {path : String} : isReferenced store path = true ↔
    (∃ row ∈ store.events.rows, row.payloadPath = path) ∨ ∃ row ∈ store.embeddings, row.contentPath = path := by
  simp only [isReferenced,Bool.or_eq_true,List.any_eq_true,decide_eq_true_eq]

theorem referenced_erased (h : eraseRows before receiptId now = .ok erased) {path : String} :
    isReferenced erased.store path = true ↔ PointedByOther before receiptId path := by
  obtain ⟨row,_,erasures,rfl,_,_,hstore⟩ := erasure_effect h
  simp only [isReferenced_iff,hstore,deleteRows,PointedByOther,Table.mem_delete,List.mem_filter,decide_eq_true_eq,
    decide_eq_false_iff_not,and_assoc,ne_eq]

theorem othersKept_erased (hlisted : ∀ row ∈ before.semanticKnowledge.rows, ∀ receipt ∈ row.contradictions,
    receipt ∈ row.sourceReceipts) (h : eraseRows before receiptId now = .ok erased) (paths : List String) :
    OthersKept before { erased.store with content := unlinked erased.store paths } receiptId := by
  have hreferenced {path : String} := @referenced_erased before receiptId now erased h path
  obtain ⟨row,_,erasures,rfl,_,hinsert,hstore⟩ := erasure_effect h
  have hcontent : erased.store.content = before.content := by rw [hstore]; rfl
  refine ⟨?_,?_,?_,?_,?_,?_,?_,?_,?_,?_,?_⟩
  · rw [hstore]
    rfl
  · rw [hstore]
    refine List.filter_congr fun other _ => ?_
    rw [decide_not]
  · rw [hstore]
    rfl
  · rw [hstore]
    rfl
  · rw [hstore]
    rfl
  · rw [hstore]
    refine List.filter_congr fun other _ => ?_
    simp only [linksReceipt,Bool.not_or,ne_eq,Bool.decide_and,decide_not]
  · rw [hstore]
    refine List.filter_congr fun other _ => ?_
    rw [decide_not]
  · rw [hstore]
    refine deleteRows_knowledge.trans (List.filter_congr fun other hother => ?_)
    rw [← decide_not]
    refine decide_eq_decide.mpr ⟨fun hsource => ⟨hsource,fun hmem => hsource (hlisted other hother _ hmem)⟩,And.left⟩
  · rw [hstore]
    refine deleteRows_adapters.trans (List.map_congr_left fun other _ => ?_)
    simp only [listsSource,Bool.and_eq_true,decide_eq_true_eq,revoke]
  · intro erasure hmem
    rw [hstore]
    exact (Table.mem_insert hinsert).mpr (.inl hmem)
  · intro path hother
    rw [← hcontent]
    exact if_neg fun hfree => absurd (hreferenced.mpr hother) (by rw [hfree.2]; exact Bool.false_ne_true)

theorem noFile_iff (h : eraseRows before receiptId now = .ok erased) (paths : List String) :
    (∀ path raw, unlinked erased.store paths path = some raw → HeldBy before receiptId raw →
      isReferenced erased.store path = true) ↔ CopiesPassed before receiptId paths := by
  have hreferenced {path : String} := @referenced_erased before receiptId now erased h path
  have hcontent : erased.store.content = before.content := by
    obtain ⟨_,_,_,_,_,_,hstore⟩ := erasure_effect h
    rw [hstore]
    rfl
  constructor
  · intro hnone path raw hfile hheld
    by_cases hpassed : path ∈ paths
    · exact .inr hpassed
    · refine .inl (hreferenced.mp (hnone path raw ?_ hheld))
      rw [unlinked,if_neg (fun hfree => hpassed hfree.1),hcontent,hfile]
  · intro hcopies path raw hfile hheld
    rw [unlinked,hcontent] at hfile
    split at hfile
    · cases hfile
    · next hkept =>
      rcases hcopies path raw hfile hheld with hother | hpassed
      · exact hreferenced.mpr hother
      · exact (Bool.not_eq_false _).mp fun hfree => hkept ⟨hpassed,hfree⟩

end Erasure

theorem hard_erasure_complete_iff (runtime : MemoryRuntime) (appended : Appended) (before : MemoryStore)
    (hrun : MemoryRun runtime (fun _ _ => True) appended before) :
    (∀ receiptId, IsErased before receiptId → Unmentioned before receiptId) ∧
    ∀ receiptId now stop erased, eraseRows before receiptId now = .ok erased →
      IsErased (erasureOutcome before receiptId now stop) receiptId ∧
      (ErasureComplete before (erasureOutcome before receiptId now stop) receiptId ↔
        CopiesPassed before receiptId (passedPaths erased.contentPaths stop)) := by
  have hlinked := linked_of_run hrun
  refine ⟨fun receiptId => unmentioned_of_erased hlinked,fun receiptId now stop erased herased => ?_⟩
  have hafter := (hlinked.erased herased).withContent (unlinked erased.store (passedPaths erased.contentPaths stop))
  obtain ⟨row,hrow,erasures,hkey,hpaths,hinsert,hstore⟩ := erasure_effect herased
  have hgone : IsErased (erasureOutcome before receiptId now stop) receiptId := by
    rw [outcome_eq herased,hstore]
    exact ⟨_,(Table.mem_insert hinsert).mpr (.inr rfl),rfl,rfl⟩
  refine ⟨hgone,?_⟩
  rw [outcome_eq herased] at hgone ⊢
  constructor
  · intro hcomplete
    exact (noFile_iff herased _).mp hcomplete.noFile
  · intro hcopies
    exact ⟨unmentioned_of_erased hafter hgone,(noFile_iff herased _).mpr hcopies,
      othersKept_erased hlinked.contradictionsListed herased _⟩

section Sample

-- The SHA-256 of the payload below.
def secretDigest : Digest :=
  ⟨[185,209,208,19,246,0,236,27,241,107,174,106,54,52,202,209,93,204,73,12,159,40,53,118,66,1,164,26,29,112,222,68],rfl⟩

def secretRuntime : MemoryRuntime where
  sha256 _ := secretDigest
  contentRoot := "memory/content"
  provenanceJson _ := .ok (.obj [])
  matchRows _ _ := .ok []

def secretRequest : AppendRequest :=
  ⟨"mem-1","2026-01-01T00:00:00+00:00","my secret","era-0",[],.finite 0 PyFloat.isDouble_zero⟩

def secretStore : MemoryStore :=
  perform secretRuntime (perform secretRuntime .empty (.recordLineage "era-0" none "base" "2026-01-01T00:00:00+00:00"))
    (.appendEvent secretRequest)

theorem secretStore_run : MemoryRun secretRuntime (fun _ _ => True) [("mem-1","my secret")] secretStore :=
  .called (.appendEvent secretRequest)
    (.called (.recordLineage "era-0" none "base" "2026-01-01T00:00:00+00:00") .opened trivial trivial)
    (List.forall_mem_nil _) trivial

theorem secret_only {path : String} {raw : Bytes} (h : secretStore.content path = some raw) :
    path = contentPath secretRuntime (utf8 "my secret") "event" := by
  by_contra hne
  have hnone : secretStore.content path = none := Function.update_of_ne hne _ _
  rw [hnone] at h
  cases h

theorem secret_erased :
    ErasureComplete secretStore (erasureOutcome secretStore "mem-1" "2026-02-01T00:00:00+00:00" none) "mem-1" := by
  refine ((hard_erasure_complete_iff secretRuntime _ secretStore secretStore_run).2 "mem-1" "2026-02-01T00:00:00+00:00"
    none _ rfl).2.mpr fun path raw hraw _ => .inr ?_
  rw [secret_only hraw]
  exact List.mem_cons_self

theorem interrupted_erasure_keeps_payload :
    MemoryRun secretRuntime (fun _ _ => True) [("mem-1","my secret")] secretStore ∧
      IsErased (erasureOutcome secretStore "mem-1" "2026-02-01T00:00:00+00:00" (some 0)) "mem-1" ∧
      ¬ ErasureComplete secretStore (erasureOutcome secretStore "mem-1" "2026-02-01T00:00:00+00:00" (some 0)) "mem-1" := by
  refine ⟨secretStore_run,⟨_,List.mem_cons_self,rfl,rfl⟩,fun hcomplete => ?_⟩
  have hreferenced := hcomplete.noFile (contentPath secretRuntime (utf8 "my secret") "event") (utf8 "my secret") rfl
    ⟨_,rfl,_,List.mem_cons_self,rfl⟩
  cases hreferenced

end Sample

end PneumaLab.Foundation
