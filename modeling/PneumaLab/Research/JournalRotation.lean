import PneumaLab.Research.ExecutionJournal

namespace PneumaLab.Research.ExecutionJournal

section Verification
variable {sha256 : Bytes → Digest}

theorem insist_eq_ok {condition : Prop} [Decidable condition] {message : String} {u : Unit} :
    insist condition message = .ok u ↔ condition := by
  rw [insist]
  split
  · next h => exact ⟨fun _ => h,fun _ => rfl⟩
  · next h => exact ⟨fun he => (nomatch he),fun hc => absurd hc h⟩

structure Readable (sha256 : Bytes → Digest) (files : Files) (segment : SegmentRecord) (payload : Bytes) : Prop where
  name : isName segment.path
  found : files segment.path = some payload
  bytes : payload.length = segment.bytes
  lines : lineCount payload = segment.lines
  sha256 : (sha256 payload).hex = segment.sha256

theorem readSegment_eq_ok {files : Files} {segment : SegmentRecord} {payload : Bytes} :
    readSegment sha256 files segment = .ok payload ↔ Readable sha256 files segment payload := by
  rw [readSegment,bind_eq_ok]
  constructor
  · rintro ⟨_,hname,h⟩
    cases hfound : files segment.path with
    | none =>
      rw [hfound] at h
      cases h
    | some found =>
      rw [hfound] at h
      simp only [bind_eq_ok,insist_eq_ok] at h
      obtain ⟨_,hbytes,_,hlines,_,hsha,hreturn⟩ := h
      cases hreturn
      exact ⟨insist_eq_ok.mp hname,hfound,hbytes,hlines,hsha⟩
  · intro h
    refine ⟨(),insist_eq_ok.mpr h.name,?_⟩
    rw [h.found]
    simp only [bind_eq_ok,insist_eq_ok]
    exact ⟨(),h.bytes,(),h.lines,(),h.sha256,rfl⟩

theorem readSegments_eq_ok {files : Files} {segments : List SegmentRecord} {payloads : List Bytes} :
    segments.mapM (readSegment sha256 files) = .ok payloads ↔
      (∀ segment ∈ segments, ∃ payload, Readable sha256 files segment payload) ∧
        payloads = segments.map fun segment => (files segment.path).getD [] := by
  rw [mapM_eq_ok]
  induction segments generalizing payloads with
  | nil =>
    rw [List.forall₂_nil_left_iff]
    exact ⟨fun h => ⟨List.forall_mem_nil _,h⟩,fun h => h.2⟩
  | cons segment segments ih =>
    rw [List.forall₂_cons_left_iff]
    constructor
    · rintro ⟨payload,others,hread,hothers,rfl⟩
      have hreadable := readSegment_eq_ok.mp hread
      obtain ⟨hall,rfl⟩ := ih.mp hothers
      refine ⟨List.forall_mem_cons.mpr ⟨⟨payload,hreadable⟩,hall⟩,?_⟩
      rw [List.map_cons,hreadable.found,Option.getD_some]
    · rintro ⟨hall,rfl⟩
      obtain ⟨⟨payload,hreadable⟩,hrest⟩ := List.forall_mem_cons.mp hall
      refine ⟨payload,_,readSegment_eq_ok.mpr hreadable,ih.mpr ⟨hrest,rfl⟩,?_⟩
      rw [List.map_cons,hreadable.found,Option.getD_some]

structure Verified (sha256 : Bytes → Digest) (archive : Archive) : Prop where
  schema : archive.manifest.schemaVersion = 1
  segments : archive.manifest.segments ≠ []
  readable : ∀ segment ∈ archive.manifest.segments, ∃ payload, Readable sha256 archive.files segment payload
  bytes : (archivedBytes archive).length = archive.manifest.archivedOriginalBytes
  lines : lineCount (archivedBytes archive) = archive.manifest.archivedOriginalLines
  sha256 : (sha256 (archivedBytes archive)).hex = archive.manifest.archivedOriginalSha256
  contiguous : requireContiguous (eventsOf (archivedBytes archive)) = .ok ()
  count : (eventsOf (archivedBytes archive)).length = archive.manifest.eventCount
  first : (eventsOf (archivedBytes archive)).head?.map (·.eventId) = some archive.manifest.firstEventId
  last : (eventsOf (archivedBytes archive)).getLast?.map (·.eventId) = some archive.manifest.lastEventId

def Continuous (live : Bytes) (archive : Archive) : Prop :=
  requireContiguous (eventsOf (archivedBytes archive) ++ eventsOf live) = .ok ()

theorem verifyJournal_accepts {live : Bytes} {archive : Archive} :
    (∃ status, verifyJournal sha256 live archive = .ok status) ↔ Verified sha256 archive ∧ Continuous live archive := by
  have hflatten : archivedBytes archive =
      (archive.manifest.segments.map fun segment => (archive.files segment.path).getD []).flatten := List.flatMap_def
  simp only [verifyJournal,bind_eq_ok,insist_eq_ok,readSegments_eq_ok]
  constructor
  · rintro ⟨_,_,hschema,_,hsegments,_,⟨hreadable,rfl⟩,_,hbytes,_,hlines,_,hsha,_,hcontiguous,_,hcount,_,hfirst,_,hlast,_,hall,_⟩
    rw [← hflatten] at hbytes hlines hsha hcontiguous hcount hfirst hlast hall
    exact ⟨⟨hschema,hsegments,hreadable,hbytes,hlines,hsha,hcontiguous,hcount,hfirst,hlast⟩,hall⟩
  · rintro ⟨⟨hschema,hsegments,hreadable,hbytes,hlines,hsha,hcontiguous,hcount,hfirst,hlast⟩,hall⟩
    rw [Continuous] at hall
    rw [hflatten] at hbytes hlines hsha hcontiguous hcount hfirst hlast hall
    exact ⟨_,(),hschema,(),hsegments,_,⟨hreadable,rfl⟩,(),hbytes,(),hlines,(),hsha,(),hcontiguous,(),hcount,(),hfirst,(),
      hlast,(),hall,rfl⟩

end Verification

section Files

theorem writes_other {entries : List (SegmentRecord × Bytes)} {path : Bytes} (h : ∀ entry ∈ entries, entry.1.path ≠ path)
    (files : Files) : entries.foldl writeFile files path = files path := by
  induction entries generalizing files with
  | nil => rfl
  | cons entry entries ih =>
    obtain ⟨hentry,hothers⟩ := List.forall_mem_cons.mp h
    rw [List.foldl_cons,ih hothers,writeFile,Function.update_of_ne hentry.symm]

def DistinctPaths (entries : List (SegmentRecord × Bytes)) : Prop := entries.Pairwise fun a b => a.1.path ≠ b.1.path

theorem writes_found {entries : List (SegmentRecord × Bytes)} (h : DistinctPaths entries) (files : Files) :
    ∀ entry ∈ entries, entries.foldl writeFile files entry.1.path = some entry.2 := by
  induction entries generalizing files with
  | nil => exact List.forall_mem_nil _
  | cons entry entries ih =>
    obtain ⟨hentry,hothers⟩ := List.pairwise_cons.mp h
    refine List.forall_mem_cons.mpr ⟨?_,ih hothers _⟩
    rw [List.foldl_cons,writes_other (fun other hother => (hentry other hother).symm),writeFile,Function.update_self]

theorem createFiles_ok {entries : List (SegmentRecord × Bytes)} {files created : Files}
    (h : createFiles files entries = .ok created) :
    created = entries.foldl writeFile files ∧ (∀ entry ∈ entries, files entry.1.path = none) ∧ DistinctPaths entries := by
  induction entries generalizing files with
  | nil =>
    cases h
    exact ⟨rfl,List.forall_mem_nil _,.nil⟩
  | cons entry entries ih =>
    simp only [createFiles,bind_eq_ok,insist_eq_ok] at h
    obtain ⟨_,hfree,hrest⟩ := h
    obtain ⟨hcreated,hnone,hdistinct⟩ := ih hrest
    have hne : ∀ other ∈ entries, entry.1.path ≠ other.1.path := by
      intro other hother hpath
      have hfound := hnone other hother
      rw [writeFile,← hpath,Function.update_self] at hfound
      cases hfound
    refine ⟨hcreated,List.forall_mem_cons.mpr ⟨hfree,fun other hother => ?_⟩,.cons hne hdistinct⟩
    have hother' := hnone other hother
    rwa [writeFile,Function.update_of_ne (hne other hother).symm] at hother'

theorem writes_bytes {entries : List (SegmentRecord × Bytes)} (h : DistinctPaths entries) (files : Files) :
    ((entries.map (·.1)).flatMap fun segment => (entries.foldl writeFile files segment.path).getD []) =
      (entries.map (·.2)).flatten := by
  have hread : entries.map (fun entry => (entries.foldl writeFile files entry.1.path).getD []) = entries.map (·.2) :=
    List.map_congr_left fun entry hentry => by rw [writes_found h files entry hentry,Option.getD_some]
  rw [List.flatMap_map,List.flatMap_def,hread]

end Files

section Texts

theorem eventId_parts {id : Bytes} (h : isEventId id = true) :
    id = bytesOf "EJ-" ++ (id.drop 3).take 8 ++ bytesOf "-" ++ id.drop 12 ∧ ((id.drop 3).take 8).length = 8 ∧
      (id.drop 12).length = 4 ∧ (∀ b ∈ (id.drop 3).take 8, isDigit b = true) ∧ ∀ b ∈ id.drop 12, isDigit b = true := by
  simp only [isEventId,Bool.and_eq_true,decide_eq_true_eq,List.all_eq_true] at h
  obtain ⟨⟨⟨hlength,hhead,hdash⟩,hdate⟩,hsequence⟩ := h
  refine ⟨?_,by rw [List.length_take,List.length_drop,hlength]; rfl,by rw [List.length_drop,hlength],hdate,hsequence⟩
  have hrest : id.drop 3 = (id.drop 3).take 8 ++ id.drop 11 := by
    rw [← List.drop_drop (i := 8) (j := 3),List.take_append_drop]
  have htail : id.drop 11 = (id.drop 11).take 1 ++ id.drop 12 := by
    rw [← List.drop_drop (i := 1) (j := 11),List.take_append_drop]
  calc id = id.take 3 ++ id.drop 3 := (List.take_append_drop 3 id).symm
    _ = bytesOf "EJ-" ++ ((id.drop 3).take 8 ++ ((id.drop 11).take 1 ++ id.drop 12)) := by rw [hhead,← htail,← hrest]
    _ = bytesOf "EJ-" ++ (id.drop 3).take 8 ++ bytesOf "-" ++ id.drop 12 := by rw [hdash]; simp only [List.append_assoc]

-- Neither a newline nor a slash.
def Named (text : Bytes) : Prop := newline ∉ text ∧ 47 ∉ text

theorem Named.append {left right : Bytes} (hleft : Named left) (hright : Named right) : Named (left ++ right) := by
  refine ⟨append_line hleft.1 hright.1,fun hmem => ?_⟩
  rcases List.mem_append.mp hmem with h | h
  · exact hleft.2 h
  · exact hright.2 h

theorem named_digits {digits : Bytes} (h : ∀ b ∈ digits, isDigit b = true) : Named digits := by
  refine ⟨fun hmem => ?_,fun hmem => ?_⟩
  · exact absurd (h _ hmem) (by decide)
  · exact absurd (h _ hmem) (by decide)

theorem named_eventId {id : Bytes} (h : isEventId id = true) : Named id := by
  obtain ⟨hid,_,_,hdate,hsequence⟩ := eventId_parts h
  rw [hid]
  have hhead : Named (bytesOf "EJ-") := by unfold Named; decide
  have hdash : Named (bytesOf "-") := by unfold Named; decide
  exact ((hhead.append (named_digits hdate)).append hdash).append (named_digits hsequence)

theorem padded_digits (n : ℕ) : ∀ b ∈ padded n, isDigit b = true := by
  intro b hb
  obtain ⟨digit,hdigit,rfl⟩ := List.mem_map.mp hb
  have hlt : digit < 10 := by
    simp only [List.mem_cons,List.not_mem_nil,or_false] at hdigit
    omega
  rw [isDigit,toNat_ofNat (by omega)]
  exact decide_eq_true (by omega)

theorem padded_injective {m n : ℕ} (hm : m < 10000) (hn : n < 10000) (h : padded m = padded n) : m = n := by
  have hbyte {a b : ℕ} (ha : a < 10) (hb : b < 10) (hab : UInt8.ofNat (48 + a) = UInt8.ofNat (48 + b)) : a = b := by
    have hvalue := congrArg UInt8.toNat hab
    rw [toNat_ofNat (by omega),toNat_ofNat (by omega)] at hvalue
    omega
  simp only [padded,List.map_cons,List.map_nil,List.cons.injEq,and_true] at h
  obtain ⟨h1,h2,h3,h4⟩ := h
  have h1 := hbyte (Nat.mod_lt _ (by decide)) (Nat.mod_lt _ (by decide)) h1
  have h2 := hbyte (Nat.mod_lt _ (by decide)) (Nat.mod_lt _ (by decide)) h2
  have h3 := hbyte (Nat.mod_lt _ (by decide)) (Nat.mod_lt _ (by decide)) h3
  have h4 := hbyte (Nat.mod_lt _ (by decide)) (Nat.mod_lt _ (by decide)) h4
  omega

theorem sequence_small {event : Event} (h : isEventId event.eventId = true) : event.sequence < 10000 := by
  obtain ⟨_,_,hlength,_,hdigits⟩ := eventId_parts h
  have hsmall {b : UInt8} (hb : isDigit b = true) : b.toNat - 48 ≤ 9 := by
    have hrange := of_decide_eq_true hb
    omega
  match hdrop : event.eventId.drop 12, hlength with
  | [a,b,c,d], _ =>
    rw [hdrop] at hdigits
    simp only [List.forall_mem_cons] at hdigits
    obtain ⟨ha,hb,hc,hd,_⟩ := hdigits
    have ha := hsmall ha
    have hb := hsmall hb
    have hc := hsmall hc
    have hd := hsmall hd
    rw [Event.sequence,hdrop]
    simp only [decimal,List.foldl_cons,List.foldl_nil]
    omega

theorem segmentPath_named {first : Event} (h : isEventId first.eventId = true) (last : Event) : Named (segmentPath first last) := by
  obtain ⟨_,_,_,hdate,_⟩ := eventId_parts h
  have hhead : Named (bytesOf "events-") := by unfold Named; decide
  have hdash : Named (bytesOf "-") := by unfold Named; decide
  have htail : Named (bytesOf ".md") := by unfold Named; decide
  have hfirst := ((hhead.append (named_digits hdate)).append hdash).append (named_digits (padded_digits first.sequence))
  exact ((hfirst.append hdash).append (named_digits (padded_digits last.sequence))).append htail

theorem segmentPath_first {first last first' last' : Event} (h : isEventId first.eventId = true)
    (h' : isEventId first'.eventId = true) (hpath : segmentPath first last = segmentPath first' last') :
    first.date = first'.date ∧ first.sequence = first'.sequence := by
  obtain ⟨_,hdate,_,_,_⟩ := eventId_parts h
  obtain ⟨_,hdate',_,_,_⟩ := eventId_parts h'
  simp only [segmentPath,List.append_assoc,List.append_cancel_left_eq] at hpath
  obtain ⟨hdates,hrest⟩ := List.append_inj hpath (hdate.trans hdate'.symm)
  rw [List.append_cancel_left_eq] at hrest
  obtain ⟨hsequences,_⟩ := List.append_inj hrest rfl
  exact ⟨hdates,padded_injective (sequence_small h) (sequence_small h') hsequences⟩

end Texts

section Entries
variable (sha256 : Bytes → Digest) {payload : Bytes} {events : List Event} {shardSize final : ℕ}

theorem groupSegment_record {group : List Event} {entry : SegmentRecord × Bytes}
    (h : groupSegment sha256 payload events final group = some entry) :
    ∃ first last, first ∈ group ∧ last ∈ group ∧
      entry.1 = segmentRecord sha256 (segmentPath first last) entry.2 (some first.eventId) (some last.eventId) := by
  rw [groupSegment] at h
  split at h
  · next first last hfirst hlast =>
    cases h
    exact ⟨first,last,List.mem_of_head? hfirst,List.mem_of_getLast? hlast,rfl⟩
  · cases h

theorem eventSegments_record : ∀ entry ∈ eventSegmentPayloads sha256 payload events shardSize final,
    ∃ first last, first ∈ events ∧ last ∈ events ∧
      entry.1 = segmentRecord sha256 (segmentPath first last) entry.2 (some first.eventId) (some last.eventId) := by
  intro entry hentry
  obtain ⟨group,hgroup,hsome⟩ := List.mem_filterMap.mp hentry
  obtain ⟨first,last,hfirst,hlast,hrecord⟩ := groupSegment_record sha256 hsome
  have hflatten := (groupsOf_spec shardSize events).1
  refine ⟨first,last,?_,?_,hrecord⟩
  · rw [← hflatten]
    exact List.mem_flatten.mpr ⟨group,hgroup,hfirst⟩
  · rw [← hflatten]
    exact List.mem_flatten.mpr ⟨group,hgroup,hlast⟩

theorem Earlier.paths_differ {first last first' last' : Event} (h : Earlier first first') (hid : isEventId first.eventId = true)
    (hid' : isEventId first'.eventId = true) : segmentPath first last ≠ segmentPath first' last' := by
  intro hpath
  obtain ⟨hdate,hsequence⟩ := segmentPath_first hid hid' hpath
  rcases h with hlt | ⟨_,hlt⟩
  · rw [hdate] at hlt
    exact List.lt_irrefl _ hlt
  · omega

theorem eventSegments_distinct (hearlier : events.Pairwise Earlier) (hids : ∀ event ∈ events, isEventId event.eventId = true) :
    DistinctPaths (eventSegmentPayloads sha256 payload events shardSize final) := by
  have hflatten := (groupsOf_spec shardSize events).1
  rw [← hflatten] at hearlier hids
  rw [DistinctPaths,eventSegmentPayloads,List.pairwise_filterMap]
  refine (List.pairwise_flatten.mp hearlier).2.imp_of_mem ?_
  intro group group' hgroup hgroup' hall entry hentry entry' hentry'
  obtain ⟨first,last,hfirst,_,hrecord⟩ := groupSegment_record sha256 hentry
  obtain ⟨first',last',hfirst',_,hrecord'⟩ := groupSegment_record sha256 hentry'
  have hid := hids first (List.mem_flatten.mpr ⟨group,hgroup,hfirst⟩)
  have hid' := hids first' (List.mem_flatten.mpr ⟨group',hgroup',hfirst'⟩)
  rw [hrecord,hrecord']
  exact (hall first hfirst first' hfirst').paths_differ hid hid'

theorem segmentRecord_readable {files : Files} {path segment : Bytes} {first last : Option Bytes} (hname : isName path)
    (hfound : files path = some segment) : Readable sha256 files (segmentRecord sha256 path segment first last) segment :=
  ⟨hname,hfound,rfl,rfl,rfl⟩

theorem segmentPath_name {first : Event} (h : isEventId first.eventId = true) (last : Event) : isName (segmentPath first last) := by
  have hlong : 7 ≤ (segmentPath first last).length := by
    have hhead : (bytesOf "events-").length = 7 := by decide
    simp only [segmentPath,List.append_assoc,List.length_append,hhead]
    omega
  refine ⟨?_,?_,(segmentPath_named h last).2⟩
  · intro hnil
    rw [hnil] at hlong
    exact absurd hlong (by decide)
  · intro hdot
    rw [hdot] at hlong
    exact absurd hlong (by decide)

theorem segmentRecord_oneLine {first last : Event} (hfirst : isEventId first.eventId = true) (hlast : isEventId last.eventId = true)
    (segment : Bytes) :
    (segmentRecord sha256 (segmentPath first last) segment (some first.eventId) (some last.eventId)).OneLine where
  path := (segmentPath_named hfirst last).1
  first := by
    rintro id ⟨⟩
    exact (named_eventId hfirst).1
  last := by
    rintro id ⟨⟩
    exact (named_eventId hlast).1
  sha256 := hex_line _

end Entries

section Migrations
variable (sha256 : Bytes → Digest)

structure Indexed (sha256 : Bytes → Digest) (live : Bytes) (archive : Archive) : Prop where
  oneLine : archive.manifest.OneLine
  verified : Verified sha256 archive
  continuous : Continuous live archive
  current : ∃ current, live = liveIndex archive.manifest ++ current

def NoGap (journal : Journal) : Prop :=
  ∀ archive ∈ journal.archive, ∀ event ∈ (eventsOf journal.live).head?, event.offset = (liveIndex archive.manifest).length

theorem createJournalArchive_indexed {original cutoff : Bytes} {shardSize : ℕ} {journal : Journal}
    (h : createJournalArchive sha256 original cutoff shardSize = .ok journal) :
    ∃ archive, journal.archive = some archive ∧ journal.live = liveIndex archive.manifest ∧
      archivedBytes archive = original ∧ Indexed sha256 journal.live archive := by
  simp only [createJournalArchive,bind_eq_ok] at h
  obtain ⟨_,hcontiguous,h⟩ := h
  split at h
  swap
  · cases h
  next first last hfirst hlast =>
  simp only [bind_eq_ok,insist_eq_ok] at h
  obtain ⟨_,_,_,hwhole,hreturn⟩ := h
  cases hreturn
  have hids := eventsFrom_ids 0 true original
  have hfirstId := hids first (List.mem_of_head? hfirst)
  have hlastId := hids last (List.mem_of_getLast? hlast)
  generalize hadditions : eventSegmentPayloads sha256 original (eventsOf original) shardSize original.length = additions at hwhole ⊢
  generalize hentries : (segmentRecord sha256 (bytesOf "prologue.md") (original.take first.offset) none none,
    original.take first.offset) :: additions = entries at hwhole ⊢
  have hrecords : ∀ entry ∈ additions, ∃ first last, first ∈ eventsOf original ∧ last ∈ eventsOf original ∧
      entry.1 = segmentRecord sha256 (segmentPath first last) entry.2 (some first.eventId) (some last.eventId) := by
    rw [← hadditions]
    exact eventSegments_record sha256
  have hdistinct : DistinctPaths entries := by
    rw [← hentries]
    refine .cons (fun entry hentry => ?_) ?_
    · obtain ⟨start,stop,_,_,hrecord⟩ := hrecords entry hentry
      rw [hrecord]
      intro hpath
      have hheads := congrArg List.head? hpath
      have hprologue : (bytesOf "prologue.md").head? = some 112 := by decide
      have hevents : (segmentPath start stop).head? = some 101 := by
        simp only [segmentPath,List.append_assoc]
        rfl
      rw [segmentRecord,segmentRecord,hprologue,hevents] at hheads
      exact absurd hheads (by decide)
    · rw [← hadditions]
      exact eventSegments_distinct sha256 (contiguous_earlier hcontiguous) hids
  have hbytes : archivedBytes ⟨createdManifest sha256 original first last (entries.map (·.1)),
      entries.foldl writeFile fun _ => none⟩ = original := by
    rw [archivedBytes,createdManifest,writes_bytes hdistinct,hwhole]
  have honeLine : (createdManifest sha256 original first last (entries.map (·.1))).OneLine := by
    refine ⟨(named_eventId hfirstId).1,(named_eventId hlastId).1,hex_line _,?_⟩
    rw [createdManifest,← hentries,List.map_cons]
    have hprologue : newline ∉ bytesOf "prologue.md" := bytesOf_line (by decide)
    have hnone (id : Bytes) (hid : id ∈ (none : Option Bytes)) : newline ∉ id := by cases hid
    refine List.forall_mem_cons.mpr ⟨⟨hprologue,hnone,hnone,hex_line _⟩,?_⟩
    intro segment hsegment
    obtain ⟨entry,hentry,rfl⟩ := List.mem_map.mp hsegment
    obtain ⟨start,stop,hstart,hstop,hrecord⟩ := hrecords entry hentry
    rw [hrecord]
    exact segmentRecord_oneLine sha256 (hids start hstart) (hids stop hstop) _
  have hsilent : eventsOf (liveIndex (createdManifest sha256 original first last (entries.map (·.1)))) = [] := by
    have hevents := events_live honeLine []
    rw [List.append_nil] at hevents
    exact hevents
  refine ⟨_,rfl,rfl,hbytes,honeLine,⟨rfl,?_,?_,?_,?_,?_,?_,?_,?_,?_⟩,?_,[],(List.append_nil _).symm⟩
  · rw [← hentries]
    exact List.cons_ne_nil _ _
  · intro segment hsegment
    obtain ⟨entry,hentry,rfl⟩ := List.mem_map.mp hsegment
    have hfound := writes_found hdistinct (fun _ => none) entry hentry
    refine ⟨entry.2,?_⟩
    rw [← hentries] at hentry
    rcases List.mem_cons.mp hentry with rfl | haddition
    · exact segmentRecord_readable sha256 (by unfold isName; decide) hfound
    · obtain ⟨start,stop,hstart,_,hrecord⟩ := hrecords entry haddition
      rw [hrecord] at hfound ⊢
      exact segmentRecord_readable sha256 (segmentPath_name (hids start hstart) stop) hfound
  · rw [hbytes]
    rfl
  · rw [hbytes]
    rfl
  · rw [hbytes]
    rfl
  · rw [hbytes]
    exact hcontiguous
  · rw [hbytes]
    rfl
  · rw [hbytes,hfirst]
    rfl
  · rw [hbytes,hlast]
    rfl
  · rw [Continuous,hbytes,hsilent,List.append_nil]
    exact hcontiguous

theorem boundary_zero (events : List Event) (final : ℕ) :
    boundary events final 0 = (events.head?.map (·.offset)).getD final := by
  rw [boundary,← List.head?_eq_getElem?]
  cases events.head? with
  | none => rfl
  | some event => rfl

theorem additions_bytes {live : Bytes} {count : ℕ} (shardSize : ℕ) {first : Event} (hfirst : (eventsOf live).head? = some first)
    (hcount : 0 < count) (hearlier : (eventsOf live).Pairwise Earlier) :
    ((eventSegmentPayloads sha256 live ((eventsOf live).take count) shardSize
      (boundary (eventsOf live) live.length count)).map (·.2)).flatten ++
      live.drop (boundary (eventsOf live) live.length count) = live.drop first.offset := by
  have hsorted : (eventsOf live).Pairwise fun a b => a.offset < b.offset := eventsFrom_sorted 0 true live
  have hbounds : ∀ event ∈ eventsOf live, event.offset ≤ live.length := by
    intro event hevent
    have hlt := (eventsFrom_bounds 0 true live event hevent).2
    omega
  have htail := boundary_le hsorted hbounds count
  have hfinal : ∀ event ∈ (eventsOf live).take count, event.offset ≤ boundary (eventsOf live) live.length count := by
    intro event hevent
    obtain ⟨i,hi,rfl⟩ := List.mem_take_iff_getElem.mp hevent
    have hmono := boundary_mono hsorted hbounds (show i ≤ count by omega)
    rw [boundary.eq_def (eventsOf live) live.length i,List.getElem?_eq_getElem (by omega)] at hmono
    exact hmono
  have hdistinct := hearlier.imp fun h => Earlier.distinct h
  have htile : ((eventSegmentPayloads sha256 live ((eventsOf live).take count) shardSize
      (boundary (eventsOf live) live.length count)).map (·.2)).flatten = _ :=
    eventSegments_payload sha256 (hdistinct.sublist (List.take_sublist count _)) (hsorted.sublist (List.take_sublist count _))
      hfinal
  have hstart : boundary ((eventsOf live).take count) (boundary (eventsOf live) live.length count) 0 = first.offset := by
    rw [boundary_zero,List.head?_take,if_neg (by omega),hfirst]
    rfl
  have hle : first.offset ≤ boundary (eventsOf live) live.length count := by
    have hmono := boundary_mono hsorted hbounds (Nat.zero_le count)
    rwa [boundary_zero,hfirst] at hmono
  have hwhole (start : ℕ) : live.drop start = slice live start live.length := by rw [slice,List.take_length]
  rw [htile,hstart,hwhole,hwhole]
  exact slice_append hle htail

theorem Continuous.live_earlier {live : Bytes} {archive : Archive} (h : Continuous live archive) :
    (eventsOf live).Pairwise Earlier := (List.pairwise_append.mp (contiguous_earlier h)).2.1

theorem appendJournalArchive_indexed {live cutoff : Bytes} {archive : Archive} {shardSize : ℕ} {journal : Journal}
    (hindexed : Indexed sha256 live archive) (h : appendJournalArchive sha256 live archive cutoff shardSize = .ok journal) :
    ∃ updated first current, journal.archive = some updated ∧ Indexed sha256 journal.live updated ∧
      (eventsOf live).head? = some first ∧ journal.live = liveIndex updated.manifest ++ current ∧
      archivedBytes updated ++ current = archivedBytes archive ++ live.drop first.offset := by
  simp only [appendJournalArchive,bind_eq_ok] at h
  obtain ⟨_,_,h⟩ := h
  split at h
  · cases h
  next cutoffIndex hcutoff =>
  simp only [bind_eq_ok,insist_eq_ok] at h
  obtain ⟨_,hselected,_,_,_,hcollision,files,hfiles,_,hverify,hreturn⟩ := h
  cases hreturn
  have hids := eventsFrom_ids 0 true live
  obtain ⟨first,hfirst⟩ : ∃ first, (eventsOf live).head? = some first := by
    cases hevents : eventsOf live with
    | nil =>
      rw [hevents] at hselected
      exact absurd List.take_nil hselected
    | cons first events => exact ⟨first,rfl⟩
  have hbytes := additions_bytes sha256 shardSize hfirst (Nat.succ_pos cutoffIndex)
    hindexed.continuous.live_earlier
  rw [boundary] at hbytes
  generalize hadditions : eventSegmentPayloads sha256 live ((eventsOf live).take (cutoffIndex + 1)) shardSize _ = additions
    at hbytes hcollision hfiles hverify ⊢
  have hrecords : ∀ entry ∈ additions, ∃ first last, first ∈ eventsOf live ∧ last ∈ eventsOf live ∧
      entry.1 = segmentRecord sha256 (segmentPath first last) entry.2 (some first.eventId) (some last.eventId) := by
    intro entry hentry
    rw [← hadditions] at hentry
    obtain ⟨start,stop,hstart,hstop,hrecord⟩ := eventSegments_record sha256 entry hentry
    exact ⟨start,stop,List.mem_of_mem_take hstart,List.mem_of_mem_take hstop,hrecord⟩
  obtain ⟨rfl,hnone,hdistinct⟩ := createFiles_ok hfiles
  obtain ⟨hverified,hcontinuous⟩ := verifyJournal_accepts.mp ⟨_,hverify⟩
  refine ⟨_,first,_,rfl,⟨⟨hindexed.oneLine.first,?_,hex_line _,?_⟩,hverified,hcontinuous,_,rfl⟩,hfirst,rfl,?_⟩
  · obtain ⟨last,hlast⟩ : ∃ last, ((eventsOf live).take (cutoffIndex + 1)).getLast? = some last :=
      ⟨_,List.getLast?_eq_some_getLast hselected⟩
    rw [extendedManifest,hlast]
    exact (named_eventId (hids last (List.mem_of_mem_take (List.mem_of_getLast? hlast)))).1
  · refine List.forall_mem_append.mpr ⟨hindexed.oneLine.segments,fun segment hsegment => ?_⟩
    obtain ⟨entry,hentry,rfl⟩ := List.mem_map.mp hsegment
    obtain ⟨start,stop,hstart,hstop,hrecord⟩ := hrecords entry hentry
    rw [hrecord]
    exact segmentRecord_oneLine sha256 (hids start hstart) (hids stop hstop) _
  · have hold : ∀ segment ∈ archive.manifest.segments,
        additions.foldl writeFile archive.files segment.path = archive.files segment.path := by
      intro segment hsegment
      refine writes_other (fun entry hentry hpath => ?_) archive.files
      exact hcollision entry hentry (hpath ▸ List.mem_map_of_mem hsegment)
    have hkept : archive.manifest.segments.flatMap (fun segment =>
        (additions.foldl writeFile archive.files segment.path).getD []) = archivedBytes archive :=
      List.flatMap_congr fun segment hsegment => by rw [hold segment hsegment]
    have harchived : archivedBytes ⟨extendedManifest sha256 archive.manifest ((eventsOf live).take (cutoffIndex + 1))
        (archivedBytes archive ++ (additions.map (·.2)).flatten) (additions.map (·.1)),
        additions.foldl writeFile archive.files⟩ = archivedBytes archive ++ (additions.map (·.2)).flatten := by
      rw [archivedBytes,extendedManifest,List.flatMap_append,hkept,writes_bytes hdistinct]
    rw [harchived,List.append_assoc,hbytes]

end Migrations

section Runs
variable (sha256 : Bytes → Digest)

inductive Action where
  | migrate (cutoffEventId : Bytes) (shardSize : ℕ)
  | append (bytes : Bytes)

def Action.appended : Action → Bytes
  | .migrate _ _ => []
  | .append bytes => bytes

def KeepsContiguous (journal : Journal) : Prop :=
  match journal.archive with
  | none => requireContiguous (eventsOf journal.live) = .ok ()
  | some archive => Continuous journal.live archive

inductive Step : Journal → Action → Journal → Prop
  | migrate {journal after : Journal} {cutoffEventId : Bytes} {shardSize : ℕ}
      (h : migrateJournal sha256 journal cutoffEventId shardSize = .ok after) :
      Step journal (.migrate cutoffEventId shardSize) after
  | append {journal : Journal} {bytes : Bytes} (h : KeepsContiguous ⟨journal.live ++ bytes,journal.archive⟩) :
      Step journal (.append bytes) ⟨journal.live ++ bytes,journal.archive⟩

def Kept (journal : Journal) (written : Bytes) : Prop :=
  match journal.archive with
  | none => journal.live = written
  | some archive => (∃ status, verifyJournal sha256 journal.live archive = .ok status) ∧
    ∃ current, journal.live = liveIndex archive.manifest ++ current ∧ archivedBytes archive ++ current = written

def KeptThroughout : Journal → Bytes → List Action → Prop
  | journal, written, [] => Kept sha256 journal written
  | journal, written, action :: rest => Kept sha256 journal written ∧
    ∀ after, Step sha256 journal action after → KeptThroughout after (written ++ action.appended) rest

def NoGapAt (journal : Journal) : Action → Prop
  | .migrate _ _ => NoGap journal
  | .append _ => True

def NoGapThroughout : Journal → List Action → Prop
  | _, [] => True
  | journal, action :: rest =>
    ∀ after, Step sha256 journal action after → NoGapAt journal action ∧ NoGapThroughout after rest

def Invariant (journal : Journal) : Prop := ∀ archive ∈ journal.archive, Indexed sha256 journal.live archive

theorem step_invariant {journal after : Journal} {action : Action} (hstep : Step sha256 journal action after)
    (h : Invariant sha256 journal) : Invariant sha256 after := by
  cases hstep with
  | @append bytes hkeeps =>
    intro archive harchive
    obtain ⟨honeLine,hverified,_,current,hlive⟩ := h archive harchive
    have hsome : journal.archive = some archive := harchive
    simp only [KeepsContiguous,hsome] at hkeeps
    exact ⟨honeLine,hverified,hkeeps,current ++ bytes,by rw [hlive,List.append_assoc]⟩
  | migrate hmigrate =>
    simp only [migrateJournal,bind_eq_ok] at hmigrate
    obtain ⟨_,_,hmigrate⟩ := hmigrate
    cases harchive : journal.archive with
    | none =>
      rw [harchive] at hmigrate
      obtain ⟨archive,hafter,_,_,hindexed⟩ := createJournalArchive_indexed sha256 hmigrate
      intro archive' harchive'
      rw [hafter] at harchive'
      cases harchive'
      exact hindexed
    | some archive =>
      rw [harchive] at hmigrate
      obtain ⟨updated,_,_,hafter,hindexed,_⟩ := appendJournalArchive_indexed sha256 (h archive harchive) hmigrate
      intro archive' harchive'
      rw [hafter] at harchive'
      cases harchive'
      exact hindexed

theorem kept_archived {journal : Journal} {archive : Archive} {written : Bytes} (h : journal.archive = some archive) :
    Kept sha256 journal written ↔ (∃ status, verifyJournal sha256 journal.live archive = .ok status) ∧
      ∃ current, journal.live = liveIndex archive.manifest ++ current ∧ archivedBytes archive ++ current = written := by
  rw [Kept,h]

theorem kept_whole {journal : Journal} {written : Bytes} (h : journal.archive = none) :
    Kept sha256 journal written ↔ journal.live = written := by
  rw [Kept,h]

theorem append_kept {journal : Journal} {bytes written : Bytes} (hkeeps : KeepsContiguous ⟨journal.live ++ bytes,journal.archive⟩)
    (hinvariant : Invariant sha256 journal) (hkept : Kept sha256 journal written) :
    Kept sha256 ⟨journal.live ++ bytes,journal.archive⟩ (written ++ bytes) := by
  cases harchive : journal.archive with
  | none =>
    rw [kept_whole sha256 harchive] at hkept
    rw [kept_whole sha256 rfl,hkept]
  | some archive =>
    rw [kept_archived sha256 harchive] at hkept
    obtain ⟨_,current,hlive,hwritten⟩ := hkept
    simp only [KeepsContiguous,harchive] at hkeeps
    rw [kept_archived sha256 rfl]
    refine ⟨verifyJournal_accepts.mpr ⟨(hinvariant archive harchive).verified,hkeeps⟩,current ++ bytes,?_,?_⟩
    · rw [hlive,List.append_assoc]
    · rw [← hwritten,List.append_assoc]

theorem createJournalArchive_kept {journal after : Journal} {cutoff written : Bytes} {shardSize : ℕ}
    (h : createJournalArchive sha256 journal.live cutoff shardSize = .ok after) (harchive : journal.archive = none)
    (hkept : Kept sha256 journal written) : Kept sha256 after written := by
  obtain ⟨archive,hafter,hlive,hbytes,hindexed⟩ := createJournalArchive_indexed sha256 h
  rw [kept_whole sha256 harchive] at hkept
  rw [kept_archived sha256 hafter]
  refine ⟨verifyJournal_accepts.mpr ⟨hindexed.verified,hindexed.continuous⟩,[],?_,?_⟩
  · rw [hlive,List.append_nil]
  · rw [List.append_nil,hbytes,hkept]

theorem appendJournalArchive_kept {journal after : Journal} {archive : Archive} {cutoff written : Bytes} {shardSize : ℕ}
    (h : appendJournalArchive sha256 journal.live archive cutoff shardSize = .ok after)
    (harchive : journal.archive = some archive) (hindexed : Indexed sha256 journal.live archive)
    (hkept : Kept sha256 journal written) : Kept sha256 after written ↔ NoGap journal := by
  obtain ⟨updated,first,current',hafter,hupdated,hfirst,hlive',hbytes⟩ := appendJournalArchive_indexed sha256 hindexed h
  rw [kept_archived sha256 harchive] at hkept
  obtain ⟨_,current,hlive,hwritten⟩ := hkept
  have hevents := events_live hindexed.oneLine current
  rw [← hlive] at hevents
  have hmem := List.mem_of_head? hfirst
  rw [hevents] at hmem
  have hbounds := eventsFrom_bounds _ true current first hmem
  have hdrop : journal.live.drop first.offset = current.drop (first.offset - (liveIndex archive.manifest).length) := by
    rw [hlive,List.drop_append,List.drop_eq_nil_of_le hbounds.1,List.nil_append]
  have hgap : NoGap journal ↔ first.offset = (liveIndex archive.manifest).length := by
    constructor
    · intro hno
      exact hno archive harchive first hfirst
    · intro heq archive' harchive' event hevent
      rw [harchive] at harchive'
      rw [hfirst] at hevent
      cases harchive'
      cases hevent
      exact heq
  rw [kept_archived sha256 hafter,hgap]
  constructor
  · rintro ⟨_,current'',hlive'',hwritten'⟩
    have hsame : current'' = current' := List.append_cancel_left (hlive''.symm.trans hlive')
    rw [hsame,hbytes,← hwritten,List.append_cancel_left_eq,hdrop] at hwritten'
    have hlength := congrArg List.length hwritten'
    rw [List.length_drop] at hlength
    omega
  · intro heq
    refine ⟨verifyJournal_accepts.mpr ⟨hupdated.verified,hupdated.continuous⟩,current',hlive',?_⟩
    rw [hbytes,hdrop,heq,Nat.sub_self,List.drop_zero,hwritten]

theorem step_kept {journal after : Journal} {action : Action} {written : Bytes} (hstep : Step sha256 journal action after)
    (hinvariant : Invariant sha256 journal) (hkept : Kept sha256 journal written) :
    Kept sha256 after (written ++ action.appended) ↔ NoGapAt journal action := by
  cases hstep with
  | append hkeeps => exact ⟨fun _ => trivial,fun _ => append_kept sha256 hkeeps hinvariant hkept⟩
  | migrate hmigrate =>
    simp only [migrateJournal,bind_eq_ok] at hmigrate
    obtain ⟨_,_,hmigrate⟩ := hmigrate
    rw [Action.appended,List.append_nil,NoGapAt]
    cases harchive : journal.archive with
    | none =>
      rw [harchive] at hmigrate
      have hafter := createJournalArchive_kept sha256 hmigrate harchive hkept
      refine ⟨fun _ archive hsome => ?_,fun _ => hafter⟩
      rw [harchive] at hsome
      cases hsome
    | some archive =>
      rw [harchive] at hmigrate
      exact appendJournalArchive_kept sha256 hmigrate harchive (hinvariant archive harchive) hkept

theorem KeptThroughout.here {journal : Journal} {written : Bytes} {actions : List Action}
    (h : KeptThroughout sha256 journal written actions) : Kept sha256 journal written := by
  cases actions with
  | nil => exact h
  | cons action rest => exact h.1

theorem kept_throughout_iff {journal : Journal} {written : Bytes} (actions : List Action) (hinvariant : Invariant sha256 journal)
    (hkept : Kept sha256 journal written) :
    KeptThroughout sha256 journal written actions ↔ NoGapThroughout sha256 journal actions := by
  induction actions generalizing journal written with
  | nil => exact ⟨fun _ => trivial,fun _ => hkept⟩
  | cons action rest ih =>
    constructor
    · rintro ⟨_,hrest⟩ after hstep
      have hafter := hrest after hstep
      have hnext := hafter.here
      exact ⟨(step_kept sha256 hstep hinvariant hkept).mp hnext,
        (ih (step_invariant sha256 hstep hinvariant) hnext).mp hafter⟩
    · intro h
      refine ⟨hkept,fun after hstep => ?_⟩
      obtain ⟨hgap,hrest⟩ := h after hstep
      have hnext := (step_kept sha256 hstep hinvariant hkept).mpr hgap
      exact (ih (step_invariant sha256 hstep hinvariant) hnext).mpr hrest

theorem rotations_keep_iff (original : Bytes) (actions : List Action) :
    KeptThroughout sha256 ⟨original,none⟩ original actions ↔ NoGapThroughout sha256 ⟨original,none⟩ actions := by
  have hinvariant : Invariant sha256 ⟨original,none⟩ := by
    intro archive harchive
    cases harchive
  exact kept_throughout_iff sha256 actions hinvariant ((kept_whole sha256 rfl).mpr rfl)

end Runs

section Example

theorem zeroDigest_size : (List.replicate 32 (UInt8.ofNat 0)).length = 32 := List.length_replicate

def zeroDigest : Bytes → Digest := fun _ => ⟨List.replicate 32 (UInt8.ofNat 0),zeroDigest_size⟩

def firstId : Bytes := bytesOf "EJ-20260101-0001"

def secondId : Bytes := bytesOf "EJ-20260101-0002"

def entryOf (id : Bytes) : Bytes := bytesOf "## " ++ id ++ [newline]

def prologueSegment : SegmentRecord × Bytes := (segmentRecord zeroDigest (bytesOf "prologue.md") [] none none,[])

def entrySegment (id : Bytes) : SegmentRecord × Bytes :=
  (segmentRecord zeroDigest (segmentPath ⟨id,0⟩ ⟨id,0⟩) (entryOf id) (some id) (some id),entryOf id)

def firstArchive : Archive where
  manifest := createdManifest zeroDigest (entryOf firstId) ⟨firstId,0⟩ ⟨firstId,0⟩ [prologueSegment.1,(entrySegment firstId).1]
  files := writeFile (writeFile (fun _ => none) prologueSegment) (entrySegment firstId)

theorem first_events : eventsOf (entryOf firstId) = [⟨firstId,0⟩] := by decide

theorem second_events : eventsOf (newline :: entryOf secondId) = [⟨secondId,1⟩] := by decide

theorem entries_contiguous (offset : ℕ) : requireContiguous [⟨firstId,0⟩,⟨secondId,offset⟩] = .ok () := by
  have hfollows : follows ⟨firstId,0⟩ ⟨secondId,0⟩ := by decide
  have hoffset : follows ⟨firstId,0⟩ ⟨secondId,offset⟩ := hfollows
  rw [requireContiguous,if_neg (List.cons_ne_nil _ _),firstGap,if_pos hoffset]
  rfl

theorem first_segments : eventSegmentPayloads zeroDigest (entryOf firstId) [⟨firstId,0⟩] 1 (entryOf firstId).length =
    [entrySegment firstId] := by
  have hposition : positionOf [⟨firstId,0⟩] firstId = 0 := by decide
  have hslice : slice (entryOf firstId) 0 (entryOf firstId).length = entryOf firstId := List.take_length
  simp only [eventSegmentPayloads,groupsOf,List.foldl_cons,List.foldl_nil,joinGroup,List.getLast?_nil,groupSegment,
    List.filterMap_cons,List.filterMap_nil,List.head?_cons,List.getLast?_singleton,segmentOf,hposition]
  rw [show ([⟨firstId,0⟩] : List Event)[0 + 1]? = none from rfl,hslice]
  rfl

theorem first_archived : createJournalArchive zeroDigest (entryOf firstId) firstId 1 =
    .ok ⟨liveIndex firstArchive.manifest,some firstArchive⟩ := by
  simp only [createJournalArchive,bind_eq_ok,first_events]
  refine ⟨(),rfl,?_⟩
  simp only [List.head?_cons,List.getLast?_singleton,bind_eq_ok,insist_eq_ok]
  refine ⟨(),trivial,(),?_,?_⟩
  · rw [first_segments]
    rfl
  · rw [first_segments]
    rfl

def secondArchive : Archive where
  manifest := extendedManifest zeroDigest firstArchive.manifest [⟨secondId,0⟩]
    (archivedBytes firstArchive ++ (entrySegment secondId).2) [(entrySegment secondId).1]
  files := writeFile firstArchive.files (entrySegment secondId)

theorem first_bytes : archivedBytes firstArchive = entryOf firstId := by decide

theorem second_bytes : archivedBytes secondArchive = archivedBytes firstArchive ++ (entrySegment secondId).2 := by decide

theorem archived_events : eventsOf (archivedBytes firstArchive ++ (entrySegment secondId).2) =
    [⟨firstId,0⟩,⟨secondId,(entryOf firstId).length⟩] := by decide

theorem first_indexed : Indexed zeroDigest (liveIndex firstArchive.manifest) firstArchive := by
  obtain ⟨archive,harchive,_,_,hindexed⟩ := createJournalArchive_indexed zeroDigest first_archived
  cases harchive
  exact hindexed

theorem live_events {manifest : Manifest} (h : manifest.OneLine) : ∃ offset,
    eventsOf (liveIndex manifest ++ newline :: entryOf secondId) = [⟨secondId,offset⟩] ∧
      (liveIndex manifest ++ newline :: entryOf secondId).drop offset = entryOf secondId ∧
      offset ≠ (liveIndex manifest).length := by
  have hshift := eventsFrom_shift (liveIndex manifest).length 0 true (newline :: entryOf secondId)
  have hsecond : eventsFrom 0 true (newline :: entryOf secondId) = [⟨secondId,1⟩] := second_events
  rw [Nat.zero_add,hsecond] at hshift
  refine ⟨1 + (liveIndex manifest).length,?_,?_,by omega⟩
  · rw [events_live h,hshift,List.map_singleton,Event.shift]
  · rw [Nat.add_comm,← List.drop_drop,List.drop_left,List.drop_one,List.tail_cons]

theorem second_verified : Verified zeroDigest secondArchive := by
  have hevents : eventsOf (archivedBytes secondArchive) = [⟨firstId,0⟩,⟨secondId,(entryOf firstId).length⟩] := by
    rw [second_bytes,archived_events]
  have hsegment (segment : SegmentRecord × Bytes) (hname : isName segment.1.path)
      (hfound : secondArchive.files segment.1.path = some segment.2)
      (hrecord : segment.1 = segmentRecord zeroDigest segment.1.path segment.2 segment.1.firstEventId segment.1.lastEventId) :
      ∃ payload, Readable zeroDigest secondArchive.files segment.1 payload := by
    rw [hrecord]
    exact ⟨segment.2,segmentRecord_readable zeroDigest hname hfound⟩
  have hsegments : secondArchive.manifest.segments =
      [prologueSegment.1,(entrySegment firstId).1,(entrySegment secondId).1] := rfl
  refine ⟨rfl,?_,?_,?_,?_,?_,?_,?_,?_,?_⟩
  · rw [hsegments]
    exact List.cons_ne_nil _ _
  · rw [hsegments]
    refine List.forall_mem_cons.mpr ⟨?_,List.forall_mem_cons.mpr ⟨?_,List.forall_mem_cons.mpr ⟨?_,List.forall_mem_nil _⟩⟩⟩
    · exact hsegment prologueSegment (by unfold isName; decide) (by decide) rfl
    · exact hsegment (entrySegment firstId) (by unfold isName; decide) (by decide) rfl
    · exact hsegment (entrySegment secondId) (by unfold isName; decide) (by decide) rfl
  · rw [second_bytes]
    rfl
  · rw [second_bytes]
    rfl
  · rw [second_bytes]
    rfl
  · rw [hevents]
    exact entries_contiguous _
  · rw [hevents]
    rfl
  · rw [hevents]
    rfl
  · rw [hevents]
    rfl

theorem segmentPath_offset (id : Bytes) (start stop : ℕ) : segmentPath ⟨id,start⟩ ⟨id,stop⟩ = segmentPath ⟨id,0⟩ ⟨id,0⟩ := rfl

theorem second_oneLine : secondArchive.manifest.OneLine where
  first := (by decide : newline ∉ firstId)
  last := (by decide : newline ∉ secondId)
  sha256 := hex_line _
  segments := by
    have hid : isEventId secondId = true := by decide
    have hsecond : (entrySegment secondId).1.OneLine := segmentRecord_oneLine zeroDigest hid hid (entryOf secondId)
    exact List.forall_mem_append.mpr ⟨first_indexed.oneLine.segments,List.forall_mem_singleton.mpr hsecond⟩

theorem second_segments {live : Bytes} {offset : ℕ} (hoffset : live.drop offset = entryOf secondId) :
    eventSegmentPayloads zeroDigest live [⟨secondId,offset⟩] 1 live.length = [entrySegment secondId] := by
  have hposition : positionOf [⟨secondId,offset⟩] secondId = 0 := by
    have hfind : ([⟨secondId,offset⟩] : List Event).reverse.findIdx (fun event => event.eventId == secondId) = 0 := by
      rw [List.reverse_singleton,List.findIdx_cons,beq_self_eq_true,cond_true]
    rw [positionOf,hfind,List.length_singleton]
  have hslice : slice live offset live.length = entryOf secondId := by
    rw [slice,List.take_length,hoffset]
  have hlast : ([⟨secondId,offset⟩] : List Event)[0 + 1]? = none := List.getElem?_eq_none le_rfl
  simp only [eventSegmentPayloads,groupsOf,List.foldl_cons,List.foldl_nil,joinGroup,List.getLast?_nil,groupSegment,
    List.filterMap_cons,List.filterMap_nil,List.head?_cons,List.getLast?_singleton,segmentOf,hposition,hlast,hslice,
    segmentPath_offset,entrySegment]

theorem second_files : createFiles firstArchive.files [entrySegment secondId] = .ok secondArchive.files := by
  have hfree : firstArchive.files (entrySegment secondId).1.path = none := by decide
  rw [createFiles,insist,if_pos hfree,ok_bind,createFiles,secondArchive]

theorem second_continuous : Continuous (liveIndex secondArchive.manifest) secondArchive := by
  have hsilent := events_live second_oneLine []
  rw [List.append_nil] at hsilent
  rw [Continuous,hsilent,eventsFrom,List.append_nil]
  exact second_verified.contiguous

theorem second_archived {live : Bytes} {offset : ℕ} (hevents : eventsOf live = [⟨secondId,offset⟩])
    (hoffset : live.drop offset = entryOf secondId) :
    appendJournalArchive zeroDigest live firstArchive secondId 1 = .ok ⟨liveIndex secondArchive.manifest,some secondArchive⟩ := by
  have hcontinuous : Continuous live firstArchive := by
    rw [Continuous,first_bytes,first_events,hevents]
    exact entries_contiguous offset
  obtain ⟨status,hstatus⟩ := verifyJournal_accepts.mpr ⟨first_indexed.verified,hcontinuous⟩
  obtain ⟨final,hfinal⟩ := verifyJournal_accepts.mpr ⟨second_verified,second_continuous⟩
  have hfind : [(⟨secondId,offset⟩ : Event)].findIdx? (fun e => e.eventId == secondId) = some 0 := by
    rw [List.findIdx?_cons,if_pos (beq_self_eq_true _)]
  have hfresh : ∀ addition ∈ [entrySegment secondId], addition.1.path ∉ firstArchive.manifest.segments.map (·.path) := by
    decide
  simp only [appendJournalArchive,bind_eq_ok]
  refine ⟨status,hstatus,?_⟩
  simp only [hevents,hfind,bind_eq_ok,insist_eq_ok]
  have hselected : [(⟨secondId,offset⟩ : Event)].take (0 + 1) = [⟨secondId,offset⟩] := List.take_of_length_le le_rfl
  have hnone : [(⟨secondId,offset⟩ : Event)][0 + 1]? = none := List.getElem?_eq_none le_rfl
  have hnext : requireContiguous [⟨firstArchive.manifest.lastEventId,0⟩,⟨secondId,offset⟩] = .ok () := entries_contiguous offset
  have hmanifest : extendedManifest zeroDigest firstArchive.manifest [⟨secondId,offset⟩]
      (archivedBytes firstArchive ++ (entrySegment secondId).2) [(entrySegment secondId).1] = secondArchive.manifest := rfl
  simp only [hselected,hnone,second_segments hoffset,List.drop_length,List.append_nil,List.map_singleton,
    List.flatten_singleton,hmanifest]
  exact ⟨(),List.cons_ne_nil _ _,(),hnext,(),hfresh,_,second_files,final,hfinal,rfl⟩

theorem Step.create {original cutoff : Bytes} {shardSize : ℕ} {after : Journal} (hsize : 1 ≤ shardSize)
    (h : createJournalArchive zeroDigest original cutoff shardSize = .ok after) :
    Step zeroDigest ⟨original,none⟩ (.migrate cutoff shardSize) after := by
  refine .migrate ?_
  rw [migrateJournal,insist,if_pos hsize,ok_bind]
  exact h

theorem Step.extend {live cutoff : Bytes} {archive : Archive} {shardSize : ℕ} {after : Journal} (hsize : 1 ≤ shardSize)
    (h : appendJournalArchive zeroDigest live archive cutoff shardSize = .ok after) :
    Step zeroDigest ⟨live,some archive⟩ (.migrate cutoff shardSize) after := by
  refine .migrate ?_
  rw [migrateJournal,insist,if_pos hsize,ok_bind]
  exact h

theorem blank_line_lost : requireContiguous (eventsOf (entryOf firstId)) = .ok () ∧
    ¬KeptThroughout zeroDigest ⟨entryOf firstId,none⟩ (entryOf firstId)
      [.migrate firstId 1,.append (newline :: entryOf secondId),.migrate secondId 1] := by
  refine ⟨by decide,fun h => ?_⟩
  obtain ⟨offset,hevents,hoffset,hgap⟩ := live_events first_indexed.oneLine
  have hfirst := Step.create le_rfl first_archived
  have hcontinuous : Continuous (liveIndex firstArchive.manifest ++ newline :: entryOf secondId) firstArchive := by
    rw [Continuous,first_bytes,first_events,hevents]
    exact entries_contiguous offset
  have happend : Step zeroDigest ⟨liveIndex firstArchive.manifest,some firstArchive⟩ (.append (newline :: entryOf secondId))
      ⟨liveIndex firstArchive.manifest ++ newline :: entryOf secondId,some firstArchive⟩ := .append hcontinuous
  have hsecond := Step.extend le_rfl (second_archived hevents hoffset)
  have hinvariant : Invariant zeroDigest ⟨liveIndex firstArchive.manifest ++ newline :: entryOf secondId,some firstArchive⟩ := by
    refine step_invariant zeroDigest happend ?_
    rintro archive ⟨⟩
    exact first_indexed
  obtain ⟨hkept,hafter⟩ := (h.2 _ hfirst).2 _ happend
  have hno := (step_kept zeroDigest hsecond hinvariant hkept).mp (hafter _ hsecond)
  have hstart := hno firstArchive rfl ⟨secondId,offset⟩ (by rw [hevents]; exact rfl)
  exact hgap hstart

end Example

end PneumaLab.Research.ExecutionJournal
