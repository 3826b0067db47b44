import PneumaLab.Library.JsonScan
import PneumaLab.Library.Traversal

namespace PneumaLab.Research.ExecutionJournal

abbrev Checked (α : Type) := Except String α

def insist (condition : Prop) [Decidable condition] (message : String) : Checked Unit :=
  if condition then .ok () else .error message

def bytesOf (text : String) : Bytes := encoded text.toList

def asText (ascii : Bytes) : String := String.ofList (ascii.map fun b => Char.ofNat b.toNat)

def newline : UInt8 := 10

section Events

def isDigit (b : UInt8) : Bool := decide (48 ≤ b.toNat ∧ b.toNat ≤ 57)

def isWord (b : UInt8) : Bool :=
  isDigit b || decide (65 ≤ b.toNat ∧ b.toNat ≤ 90) || decide (97 ≤ b.toNat ∧ b.toNat ≤ 122) || decide (b.toNat = 95)

structure Event where
  eventId : Bytes
  offset : ℕ
  deriving DecidableEq

def decimal (digits : Bytes) : ℕ := digits.foldl (fun value b => value * 10 + (b.toNat - 48)) 0

-- The pattern's groups of the date and of the sequence.
def Event.date (event : Event) : Bytes := (event.eventId.drop 3).take 8

def Event.sequence (event : Event) : ℕ := decimal (event.eventId.drop 12)

def isEventId (id : Bytes) : Bool :=
  decide (id.length = 16 ∧ id.take 3 = bytesOf "EJ-" ∧ (id.drop 11).take 1 = bytesOf "-") &&
    ((id.drop 3).take 8).all isDigit && (id.drop 12).all isDigit

def afterMarks (line : Bytes) : Option Bytes :=
  if bytesOf "### " <+: line then some (line.drop 4)
  else if bytesOf "## " <+: line then some (line.drop 3)
  else none

-- The heading is a matter of its line: nothing in the pattern matches a newline, and one ends a word.
def headingId (payload : Bytes) : Option Bytes :=
  match afterMarks (payload.takeWhile (· != newline)) with
  | none => none
  | some rest => if isEventId (rest.take 16) && !((rest.drop 16).take 1).any isWord then some (rest.take 16) else none

def eventsFrom (offset : ℕ) (lineStart : Bool) : Bytes → List Event
  | [] => []
  | b :: rest =>
    match if lineStart then headingId (b :: rest) else none with
    | some id => ⟨id,offset⟩ :: eventsFrom (offset + 1) (b == newline) rest
    | none => eventsFrom (offset + 1) (b == newline) rest

def eventsOf (payload : Bytes) : List Event := eventsFrom 0 true payload

def follows (previous current : Event) : Prop :=
  (current.date = previous.date ∧ current.sequence = previous.sequence + 1) ∨
    (previous.date < current.date ∧ current.sequence = 1)

instance (previous current : Event) : Decidable (follows previous current) := inferInstanceAs (Decidable (_ ∨ _))

def firstGap : List Event → Option (Event × Event)
  | previous :: current :: rest => if follows previous current then firstGap (current :: rest) else some (previous,current)
  | _ => none

def requireContiguous (events : List Event) : Checked Unit :=
  if events = [] then .error "journal contains no event headings"
  else match firstGap events with
    | none => .ok ()
    | some (previous,current) =>
      .error ("noncontiguous event IDs: " ++ asText previous.eventId ++ " -> " ++ asText current.eventId)

end Events

section Manifests

structure SegmentRecord where
  path : Bytes
  firstEventId : Option Bytes
  lastEventId : Option Bytes
  bytes : ℕ
  lines : ℕ
  sha256 : String

structure Manifest where
  schemaVersion : ℕ
  firstEventId : Bytes
  lastEventId : Bytes
  eventCount : ℕ
  archivedOriginalBytes : ℕ
  archivedOriginalLines : ℕ
  archivedOriginalSha256 : String
  segments : List SegmentRecord

def lineCount (payload : Bytes) : ℕ := payload.count newline

def number (n : ℕ) : Bytes := bytesOf (toString n)

def rangeOf (segment : SegmentRecord) : Bytes :=
  match segment.firstEventId with
  | none => bytesOf "prologue"
  | some first => first ++ bytesOf "–" ++ segment.lastEventId.getD (bytesOf "None")

def rowOf (segment : SegmentRecord) : Bytes :=
  bytesOf "| " ++ segment.path ++ bytesOf " | " ++ rangeOf segment ++ bytesOf " | " ++ number segment.bytes ++ bytesOf " | " ++
    number segment.lines ++ bytesOf " | `" ++ bytesOf segment.sha256 ++ bytesOf "` |"

def rowsOf (segments : List SegmentRecord) : List Bytes := if segments = [] then [[]] else segments.map rowOf

def indexLines (manifest : Manifest) : List Bytes :=
  [bytesOf "# 33 — Execution Journal",
    bytesOf "",
    bytesOf "> **NON-AUTHORITATIVE EVIDENCE INDEX AND CURRENT VOLUME.** This journal records",
    bytesOf "> execution evidence but does not amend or outrank repository authority.",
    bytesOf "",
    bytesOf "## Sharded recording contract",
    bytesOf "",
    bytesOf "The user authorized a byte-preserving storage migration after the original",
    bytesOf "journal became costly to load. Events through `" ++ manifest.lastEventId ++ bytesOf "` and the original",
    bytesOf "prologue are stored as immutable historical segments in `execution-journal/`.",
    bytesOf "Their ordered concatenation reconstructs the exact pre-migration file with",
    bytesOf "SHA-256 `" ++ bytesOf manifest.archivedOriginalSha256 ++ bytesOf "`.",
    bytesOf "",
    bytesOf "New receipts append only below `## Current volume`. A rotation may move complete",
    bytesOf "event ranges into new immutable segments, but it must preserve event bytes,",
    bytesOf "update the machine-readable manifest, and pass the repository checker before",
    bytesOf "release. Published event content is never silently edited, deleted, reordered,",
    bytesOf "duplicated, or renumbered. Corrections remain later events. Event allocation",
    bytesOf "must scan the archived manifest and current volume as one logical sequence.",
    bytesOf "",
    bytesOf "The detailed capture, no-clobber allocation, compact-receipt, raw-retention,",
    bytesOf "two-commit delivery, and non-authority rules in the archived prologue remain in",
    bytesOf "force. Routine full stdout/stderr stays local under ignored `build/`; committed",
    bytesOf "receipts remain compact and content-addressed.",
    bytesOf "",
    bytesOf "## Immutable archive manifest",
    bytesOf "",
    bytesOf "- Machine-readable manifest: `execution-journal/manifest.json`",
    bytesOf "- Archived event count: `" ++ number manifest.eventCount ++ bytesOf "`",
    bytesOf "- Archived range: `" ++ manifest.firstEventId ++ bytesOf "` through `" ++ manifest.lastEventId ++ bytesOf "`",
    bytesOf "- Exact reconstructed bytes: `" ++ number manifest.archivedOriginalBytes ++ bytesOf "`",
    bytesOf "- Exact reconstructed lines: `" ++ number manifest.archivedOriginalLines ++ bytesOf "`",
    bytesOf "- Exact reconstructed SHA-256: `" ++ bytesOf manifest.archivedOriginalSha256 ++ bytesOf "`",
    bytesOf "",
    bytesOf "| Segment | Range | Bytes | Lines | SHA-256 |",
    bytesOf "|---|---:|---:|---:|---|"] ++
  rowsOf manifest.segments ++
  [bytesOf "",
    bytesOf "Run `.venv/bin/python -m scripts.research.execution_journal check` to verify",
    bytesOf "segment hashes, exact historical reconstruction, and global event continuity.",
    bytesOf "",
    bytesOf "## Current volume",
    bytesOf "",
    bytesOf "The next event after the archived migration boundary is appended below."]

def liveIndex (manifest : Manifest) : Bytes := (indexLines manifest).flatMap fun line => line ++ [newline]

end Manifests

section Segments
variable (sha256 : Bytes → Digest)

def segmentRecord (path payload : Bytes) (firstEventId lastEventId : Option Bytes) : SegmentRecord :=
  ⟨path,firstEventId,lastEventId,payload.length,lineCount payload,(sha256 payload).hex⟩

def joinGroup (shardSize : ℕ) (groups : List (List Event)) (event : Event) : List (List Event) :=
  match groups.getLast? with
  | none => [[event]]
  | some group =>
    if group.length = shardSize ∨ group.head?.map Event.date ≠ some event.date then groups ++ [[event]]
    else groups.dropLast ++ [group ++ [event]]

def groupsOf (shardSize : ℕ) (events : List Event) : List (List Event) := events.foldl (joinGroup shardSize) []

def slice (payload : Bytes) (start stop : ℕ) : Bytes := (payload.take stop).drop start

-- {sequence:04d} of a sequence of four digits
def padded (n : ℕ) : Bytes := [n / 1000 % 10,n / 100 % 10,n / 10 % 10,n % 10].map fun digit => UInt8.ofNat (48 + digit)

def segmentPath (first last : Event) : Bytes :=
  bytesOf "events-" ++ first.date ++ bytesOf "-" ++ padded first.sequence ++ bytesOf "-" ++ padded last.sequence ++ bytesOf ".md"

-- The index of the last event with this id, as the dict of positions keeps it.
def positionOf (events : List Event) (id : Bytes) : ℕ :=
  events.length - 1 - events.reverse.findIdx fun event => event.eventId == id

def segmentOf (payload : Bytes) (events : List Event) (final : ℕ) (first last : Event) : SegmentRecord × Bytes :=
  let stop := match events[positionOf events last.eventId + 1]? with
    | some next => next.offset
    | none => final
  let segment := slice payload first.offset stop
  (segmentRecord sha256 (segmentPath first last) segment (some first.eventId) (some last.eventId),segment)

def groupSegment (payload : Bytes) (events : List Event) (final : ℕ) (group : List Event) : Option (SegmentRecord × Bytes) :=
  match group.head?, group.getLast? with
  | some first, some last => some (segmentOf sha256 payload events final first last)
  | _, _ => none

def eventSegmentPayloads (payload : Bytes) (events : List Event) (shardSize final : ℕ) : List (SegmentRecord × Bytes) :=
  (groupsOf shardSize events).filterMap (groupSegment sha256 payload events final)

end Segments

section Journals
variable (sha256 : Bytes → Digest)

abbrev Files := Bytes → Option Bytes

structure Archive where
  manifest : Manifest
  files : Files

def archivedBytes (archive : Archive) : Bytes :=
  archive.manifest.segments.flatMap fun segment => (archive.files segment.path).getD []

structure Journal where
  live : Bytes
  archive : Option Archive

structure Status where
  archivedSha256 : String
  archivedEventCount : ℕ
  currentEventCount : ℕ
  lastEventId : Bytes

-- Path(value).name == value
def isName (path : Bytes) : Prop := path ≠ [] ∧ path ≠ bytesOf "." ∧ 47 ∉ path

instance (path : Bytes) : Decidable (isName path) := inferInstanceAs (Decidable (_ ∧ _))

def readSegment (files : Files) (segment : SegmentRecord) : Checked Bytes := do
  insist (isName segment.path) ("unsafe segment path: '" ++ asText segment.path ++ "'")
  match files segment.path with
  | none => .error ("missing or non-regular segment: " ++ asText segment.path)
  | some payload =>
    insist (payload.length = segment.bytes) ("byte count mismatch for " ++ asText segment.path)
    insist (lineCount payload = segment.lines) ("line count mismatch for " ++ asText segment.path)
    insist ((sha256 payload).hex = segment.sha256) ("SHA-256 mismatch for " ++ asText segment.path)
    return payload

def verifyJournal (live : Bytes) (archive : Archive) : Checked Status := do
  let manifest := archive.manifest
  insist (manifest.schemaVersion = 1) "unsupported manifest schema_version"
  insist (manifest.segments ≠ []) "manifest has no segments"
  let payloads ← manifest.segments.mapM (readSegment sha256 archive.files)
  let reconstructed := payloads.flatten
  insist (reconstructed.length = manifest.archivedOriginalBytes) "reconstructed byte count mismatch"
  insist (lineCount reconstructed = manifest.archivedOriginalLines) "reconstructed line count mismatch"
  insist ((sha256 reconstructed).hex = manifest.archivedOriginalSha256) "reconstructed SHA-256 mismatch"
  let archivedEvents := eventsOf reconstructed
  requireContiguous archivedEvents
  insist (archivedEvents.length = manifest.eventCount) "archived event count mismatch"
  insist (archivedEvents.head?.map (·.eventId) = some manifest.firstEventId) "archived first event mismatch"
  insist (archivedEvents.getLast?.map (·.eventId) = some manifest.lastEventId) "archived last event mismatch"
  let allEvents := archivedEvents ++ eventsOf live
  requireContiguous allEvents
  return ⟨(sha256 reconstructed).hex,archivedEvents.length,(eventsOf live).length,(allEvents.getLast?.map (·.eventId)).getD []⟩

def writeFile (files : Files) (entry : SegmentRecord × Bytes) : Files :=
  Function.update files entry.1.path (some entry.2)

-- open("xb") of one new segment after the other
def createFiles : Files → List (SegmentRecord × Bytes) → Checked Files
  | files, [] => .ok files
  | files, entry :: rest => do
    insist (files entry.1.path = none) ("File exists: " ++ asText entry.1.path)
    createFiles (writeFile files entry) rest

def extendedManifest (manifest : Manifest) (selected : List Event) (reconstructed : Bytes) (additions : List SegmentRecord) :
    Manifest :=
  { manifest with
    lastEventId := (selected.getLast?.map (·.eventId)).getD []
    eventCount := manifest.eventCount + selected.length
    archivedOriginalBytes := reconstructed.length
    archivedOriginalLines := lineCount reconstructed
    archivedOriginalSha256 := (sha256 reconstructed).hex
    segments := manifest.segments ++ additions }

def appendJournalArchive (live : Bytes) (archive : Archive) (cutoffEventId : Bytes) (shardSize : ℕ) : Checked Journal := do
  let _ ← verifyJournal sha256 live archive
  let manifest := archive.manifest
  let events := eventsOf live
  match events.findIdx? (·.eventId == cutoffEventId) with
  | none => .error ("cutoff " ++ asText cutoffEventId ++ " is not in the current volume")
  | some cutoffIndex =>
    let selected := events.take (cutoffIndex + 1)
    insist (selected ≠ []) "append migration selected no events"
    requireContiguous (⟨manifest.lastEventId,0⟩ :: selected.take 1)
    let tailOffset := match events[cutoffIndex + 1]? with
      | some next => next.offset
      | none => live.length
    let additions := eventSegmentPayloads sha256 live selected shardSize tailOffset
    insist (∀ addition ∈ additions, addition.1.path ∉ manifest.segments.map (·.path)) "append migration segment path collision"
    let reconstructed := archivedBytes archive ++ (additions.map (·.2)).flatten
    let updated := extendedManifest sha256 manifest selected reconstructed (additions.map (·.1))
    let updatedLive := liveIndex updated ++ live.drop tailOffset
    let files ← createFiles archive.files additions
    let _ ← verifyJournal sha256 updatedLive ⟨updated,files⟩
    return ⟨updatedLive,some ⟨updated,files⟩⟩

def createdManifest (original : Bytes) (first last : Event) (segments : List SegmentRecord) : Manifest where
  schemaVersion := 1
  firstEventId := first.eventId
  lastEventId := last.eventId
  eventCount := (eventsOf original).length
  archivedOriginalBytes := original.length
  archivedOriginalLines := lineCount original
  archivedOriginalSha256 := (sha256 original).hex
  segments := segments

def createJournalArchive (original : Bytes) (cutoffEventId : Bytes) (shardSize : ℕ) : Checked Journal := do
  let events := eventsOf original
  requireContiguous events
  match events.head?, events.getLast? with
  | some first, some last =>
    insist (last.eventId = cutoffEventId)
      ("cutoff " ++ asText cutoffEventId ++ " does not match last event " ++ asText last.eventId)
    let prologue := original.take first.offset
    let segmentPayloads := (segmentRecord sha256 (bytesOf "prologue.md") prologue none none,prologue) ::
      eventSegmentPayloads sha256 original events shardSize original.length
    insist ((segmentPayloads.map (·.2)).flatten = original) "in-memory shard reconstruction mismatch"
    let manifest := createdManifest sha256 original first last (segmentPayloads.map (·.1))
    return ⟨liveIndex manifest,some ⟨manifest,segmentPayloads.foldl writeFile fun _ => none⟩⟩
  | _, _ => .error "journal contains no event headings"

def migrateJournal (journal : Journal) (cutoffEventId : Bytes) (shardSize : ℕ) : Checked Journal := do
  insist (1 ≤ shardSize) "shard_size must be positive"
  match journal.archive with
  | some archive => appendJournalArchive sha256 journal.live archive cutoffEventId shardSize
  | none => createJournalArchive sha256 journal.live cutoffEventId shardSize

end Journals

section Scanning

def Event.shift (k : ℕ) (event : Event) : Event := ⟨event.eventId,event.offset + k⟩

theorem eventsFrom_shift (k offset : ℕ) (lineStart : Bool) (payload : Bytes) :
    eventsFrom (offset + k) lineStart payload = (eventsFrom offset lineStart payload).map (Event.shift k) := by
  induction payload generalizing offset lineStart with
  | nil => rfl
  | cons b rest ih =>
    have hrest := ih (offset + 1) (b == newline)
    rw [Nat.add_right_comm] at hrest
    rw [eventsFrom,eventsFrom]
    split
    · rw [hrest,List.map_cons]
      rfl
    · exact hrest

theorem takeWhile_whole {line : Bytes} (h : newline ∉ line) : line.takeWhile (· != newline) = line := by
  induction line with
  | nil => rfl
  | cons b line ih =>
    rw [List.mem_cons,not_or] at h
    have hb : (b != newline) = true := bne_iff_ne.mpr (Ne.symm h.1)
    simp only [List.takeWhile_cons,hb,if_true,ih h.2]

theorem takeWhile_line {line : Bytes} (h : newline ∉ line) (rest : Bytes) :
    (line ++ newline :: rest).takeWhile (· != newline) = line := by
  rw [List.takeWhile_append_of_pos]
  · simp
  · intro b hb
    exact bne_iff_ne.mpr fun he => h (he ▸ hb)

theorem eventsFrom_inside {line : Bytes} (h : newline ∉ line) (offset : ℕ) (rest : Bytes) :
    eventsFrom offset false (line ++ newline :: rest) = eventsFrom (offset + line.length + 1) true rest := by
  induction line generalizing offset with
  | nil => rfl
  | cons b line ih =>
    rw [List.mem_cons,not_or] at h
    obtain ⟨hb,hline⟩ := h
    have hnot : (b == newline) = false := beq_eq_false_iff_ne.mpr (Ne.symm hb)
    rw [List.cons_append,eventsFrom,hnot]
    simp only [Bool.false_eq_true,if_false]
    rw [ih hline,List.length_cons]
    congr 1
    omega

def Silent (line : Bytes) : Prop := newline ∉ line ∧ headingId line = none

theorem headingId_line {line : Bytes} (h : newline ∉ line) (rest : Bytes) :
    headingId (line ++ newline :: rest) = headingId line := by
  rw [headingId,headingId,takeWhile_line h,takeWhile_whole h]

theorem eventsFrom_silent {line : Bytes} (h : Silent line) (offset : ℕ) (rest : Bytes) :
    eventsFrom offset true (line ++ newline :: rest) = eventsFrom (offset + line.length + 1) true rest := by
  cases line with
  | nil =>
    have hnone : headingId (newline :: rest) = none := headingId_line List.not_mem_nil rest
    rw [List.nil_append,eventsFrom]
    simp only [if_true,hnone]
    rfl
  | cons b line =>
    have hline : newline ∉ line := fun hmem => h.1 (List.mem_cons_of_mem b hmem)
    have hb : (b == newline) = false := beq_eq_false_iff_ne.mpr fun he => h.1 (he ▸ List.mem_cons_self)
    have hnone : headingId (b :: (line ++ newline :: rest)) = none := (headingId_line h.1 rest).trans h.2
    rw [List.cons_append,eventsFrom,hb]
    simp only [if_true,hnone]
    rw [eventsFrom_inside hline,List.length_cons]
    congr 1
    omega

theorem eventsFrom_lines {lines : List Bytes} (h : ∀ line ∈ lines, Silent line) (offset : ℕ) (rest : Bytes) :
    eventsFrom offset true ((lines.flatMap fun line => line ++ [newline]) ++ rest) =
      eventsFrom (offset + (lines.flatMap fun line => line ++ [newline]).length) true rest := by
  induction lines generalizing offset with
  | nil => rfl
  | cons line lines ih =>
    obtain ⟨hline,hlines⟩ := List.forall_mem_cons.mp h
    rw [List.flatMap_cons,List.append_assoc,List.append_assoc,List.singleton_append,eventsFrom_silent hline,ih hlines]
    congr 1
    simp only [List.length_append,List.length_singleton]
    omega

theorem bytesOf_ofList (text : List Char) : bytesOf (String.ofList text) = encoded text := by
  rw [bytesOf,String.toList_ofList]

theorem bytesOf_line {text : List Char} (h : text.all (· != '\n') = true) : newline ∉ bytesOf (String.ofList text) := by
  intro hmem
  rw [bytesOf_ofList] at hmem
  obtain ⟨c,hc,hvalue⟩ := mem_encoded hmem (by decide)
  have hne := List.all_eq_true.mp h c hc
  have heq : c = '\n' := Char.toNat_inj.mp hvalue
  simp [heq] at hne

theorem append_line {left right : Bytes} (hleft : newline ∉ left) (hright : newline ∉ right) : newline ∉ left ++ right := by
  intro hmem
  rcases List.mem_append.mp hmem with h | h
  · exact hleft h
  · exact hright h

theorem afterMarks_other {b : UInt8} (h : b ≠ 35) (line : Bytes) : afterMarks (b :: line) = none := by
  have hmarks (marks : Bytes) (hhead : marks.head? = some 35) : ¬marks <+: b :: line := by
    intro hprefix
    obtain ⟨rest,hrest⟩ := hprefix
    cases marks with
    | nil => cases hhead
    | cons c marks =>
      cases hhead
      exact h (List.cons.inj hrest).1.symm
  rw [afterMarks,if_neg (hmarks _ (by decide)),if_neg (hmarks _ (by decide))]

theorem silent_other {b : UInt8} {line : Bytes} (hb : b ≠ 35) (h : newline ∉ b :: line) : Silent (b :: line) := by
  refine ⟨h,?_⟩
  rw [headingId,takeWhile_whole h,afterMarks_other hb]

theorem encodeChar_head {c : Char} (h : c ≠ '#') : ∃ b rest, String.utf8EncodeChar c = b :: rest ∧ b ≠ 35 := by
  cases hbytes : String.utf8EncodeChar c with
  | nil => exact absurd hbytes String.utf8EncodeChar_ne_nil
  | cons b rest =>
    refine ⟨b,rest,rfl,?_⟩
    rintro rfl
    rcases encodeChar_cases c with ⟨hascii,hsingle⟩ | hhigh
    · rw [hbytes] at hsingle
      have hvalue : (35 : UInt8).toNat = c.toNat := by
        rw [(List.cons.inj hsingle).1,toNat_ofNat (by omega)]
      exact h (Char.toNat_inj.mp hvalue.symm)
    · have hlow := hhigh 35 (by rw [hbytes]; exact List.mem_cons_self)
      exact absurd hlow (by decide)

theorem silent_start {text : List Char} {rest : Bytes} (hline : text.all (· != '\n') = true)
    (hhead : text.head?.any (· != '#') = true) (hrest : newline ∉ rest) : Silent (bytesOf (String.ofList text) ++ rest) := by
  have hwhole := append_line (bytesOf_line hline) hrest
  cases text with
  | nil => cases hhead
  | cons c text =>
    obtain ⟨b,others,hbytes,hb⟩ := encodeChar_head (bne_iff_ne.mp hhead)
    rw [bytesOf_ofList,encoded_cons,hbytes,List.cons_append,List.cons_append] at hwhole ⊢
    exact silent_other hb hwhole

theorem silent_text {text : List Char} (hline : text.all (· != '\n') = true) (hhead : text.head?.any (· != '#') = true) :
    Silent (bytesOf (String.ofList text)) := by
  have hsilent := silent_start hline hhead List.not_mem_nil
  rwa [List.append_nil] at hsilent

theorem silent_heading {text : List Char} (hline : text.all (· != '\n') = true) (h : headingId (encoded text) = none) :
    Silent (bytesOf (String.ofList text)) := by
  refine ⟨bytesOf_line hline,?_⟩
  rwa [bytesOf_ofList]

theorem number_line (n : ℕ) : newline ∉ number n := by
  intro hmem
  obtain ⟨c,hc,hvalue⟩ := mem_encoded hmem (by decide)
  rw [show toString n = Nat.repr n from rfl,Nat.toList_repr] at hc
  have hdigit := Nat.isDigit_of_mem_toDigits (by decide) (by decide) hc
  have heq : c = '\n' := Char.toNat_inj.mp hvalue
  rw [heq] at hdigit
  cases hdigit

theorem hex_line (digest : Digest) : newline ∉ bytesOf digest.hex := by
  have hdigit : ∀ n : Fin 16, (hexDigit n.val != '\n') = true := by decide
  refine bytesOf_line (List.all_eq_true.mpr fun c hc => ?_)
  obtain ⟨n,rfl⟩ : ∃ n : Fin 16, hexDigit n.val = c := by
    obtain ⟨byte,_,hbyte⟩ := List.mem_flatMap.mp hc
    have hlt := byte.toNat_lt
    rcases List.mem_pair.mp hbyte with rfl | rfl
    · exact ⟨⟨byte.toNat / 16,by omega⟩,rfl⟩
    · exact ⟨⟨byte.toNat % 16,by omega⟩,rfl⟩
  exact hdigit n

structure SegmentRecord.OneLine (segment : SegmentRecord) : Prop where
  path : newline ∉ segment.path
  first : ∀ id ∈ segment.firstEventId, newline ∉ id
  last : ∀ id ∈ segment.lastEventId, newline ∉ id
  sha256 : newline ∉ bytesOf segment.sha256

structure Manifest.OneLine (manifest : Manifest) : Prop where
  first : newline ∉ manifest.firstEventId
  last : newline ∉ manifest.lastEventId
  sha256 : newline ∉ bytesOf manifest.archivedOriginalSha256
  segments : ∀ segment ∈ manifest.segments, segment.OneLine

theorem rangeOf_line {segment : SegmentRecord} (h : segment.OneLine) : newline ∉ rangeOf segment := by
  rw [rangeOf]
  split
  · exact bytesOf_line (by decide)
  · next first hfirst =>
    refine append_line (append_line (h.first first hfirst) (bytesOf_line (by decide))) ?_
    cases hlast : segment.lastEventId with
    | none => exact bytesOf_line (by decide)
    | some last => exact h.last last hlast

theorem rowOf_silent {segment : SegmentRecord} (h : segment.OneLine) : Silent (rowOf segment) := by
  have hbar : newline ∉ bytesOf " | " := bytesOf_line (by decide)
  simp only [rowOf,List.append_assoc]
  refine silent_start (by decide) (by decide) ?_
  refine append_line h.path (append_line hbar (append_line (rangeOf_line h) (append_line hbar ?_)))
  refine append_line (number_line _) (append_line hbar (append_line (number_line _) ?_))
  exact append_line (bytesOf_line (by decide)) (append_line h.sha256 (bytesOf_line (by decide)))

theorem rowsOf_silent {segments : List SegmentRecord} (h : ∀ segment ∈ segments, segment.OneLine) :
    ∀ line ∈ rowsOf segments, Silent line := by
  rw [rowsOf]
  split
  · intro line hline
    rw [List.mem_singleton.mp hline]
    exact ⟨List.not_mem_nil,by decide⟩
  · intro line hline
    obtain ⟨segment,hsegment,rfl⟩ := List.mem_map.mp hline
    exact rowOf_silent (h segment hsegment)

theorem indexLines_silent {manifest : Manifest} (h : manifest.OneLine) : ∀ line ∈ indexLines manifest, Silent line := by
  have htick : newline ∉ bytesOf "`" := bytesOf_line (by decide)
  rw [indexLines]
  refine List.forall_mem_append.mpr ⟨List.forall_mem_append.mpr ⟨?_,rowsOf_silent h.segments⟩,?_⟩
  all_goals
    repeat' first
      | exact List.forall_mem_nil _
      | refine List.forall_mem_cons.mpr ⟨?_,?_⟩
  all_goals first
    | (with_reducible refine silent_text ?_ ?_) <;> decide
    | (with_reducible refine silent_heading ?_ ?_) <;> decide
    | simp only [List.append_assoc]
      with_reducible refine silent_start ?_ ?_ ?_
      · decide
      · decide
  · exact append_line h.last (bytesOf_line (by decide))
  · exact append_line h.sha256 (bytesOf_line (by decide))
  · exact append_line (number_line _) htick
  · exact append_line h.first (append_line (bytesOf_line (by decide)) (append_line h.last htick))
  · exact append_line (number_line _) htick
  · exact append_line (number_line _) htick
  · exact append_line h.sha256 htick

theorem events_live {manifest : Manifest} (h : manifest.OneLine) (current : Bytes) :
    eventsOf (liveIndex manifest ++ current) = eventsFrom (liveIndex manifest).length true current := by
  have hlines := eventsFrom_lines (indexLines_silent h) 0 current
  rw [Nat.zero_add] at hlines
  exact hlines

end Scanning

section Offsets

theorem eventsFrom_bounds (offset : ℕ) (lineStart : Bool) (payload : Bytes) :
    ∀ event ∈ eventsFrom offset lineStart payload, offset ≤ event.offset ∧ event.offset < offset + payload.length := by
  induction payload generalizing offset lineStart with
  | nil => exact List.forall_mem_nil _
  | cons b rest ih =>
    have hrest : ∀ event ∈ eventsFrom (offset + 1) (b == newline) rest,
        offset ≤ event.offset ∧ event.offset < offset + (b :: rest).length := by
      intro event hevent
      have hbounds := ih (offset + 1) (b == newline) event hevent
      rw [List.length_cons]
      omega
    rw [eventsFrom]
    split
    · refine List.forall_mem_cons.mpr ⟨⟨le_rfl,?_⟩,hrest⟩
      exact Nat.lt_add_of_pos_right (Nat.succ_pos _)
    · exact hrest

theorem eventsFrom_sorted (offset : ℕ) (lineStart : Bool) (payload : Bytes) :
    (eventsFrom offset lineStart payload).Pairwise fun first second => first.offset < second.offset := by
  induction payload generalizing offset lineStart with
  | nil => exact .nil
  | cons b rest ih =>
    rw [eventsFrom]
    split
    · refine .cons (fun event hevent => ?_) (ih _ _)
      exact (eventsFrom_bounds (offset + 1) _ rest event hevent).1
    · exact ih _ _

theorem headingId_eventId {payload id : Bytes} (h : headingId payload = some id) : isEventId id = true := by
  rw [headingId] at h
  split at h
  · cases h
  · split at h
    · next hvalid =>
      cases h
      exact (Bool.and_eq_true_iff.mp hvalid).1
    · cases h

theorem eventsFrom_ids (offset : ℕ) (lineStart : Bool) (payload : Bytes) :
    ∀ event ∈ eventsFrom offset lineStart payload, isEventId event.eventId = true := by
  induction payload generalizing offset lineStart with
  | nil => exact List.forall_mem_nil _
  | cons b rest ih =>
    rw [eventsFrom]
    split
    · next id hid =>
      refine List.forall_mem_cons.mpr ⟨?_,ih _ _⟩
      cases lineStart with
      | true => exact headingId_eventId hid
      | false => cases hid
    · exact ih _ _

end Offsets

section Contiguity

def Earlier (first second : Event) : Prop :=
  first.date < second.date ∨ (first.date = second.date ∧ first.sequence < second.sequence)

theorem Earlier.trans {first second third : Event} (h : Earlier first second) (h' : Earlier second third) :
    Earlier first third := by
  rcases h with hdate | ⟨hdate,hsequence⟩
  · rcases h' with hdate' | ⟨hdate',_⟩
    · exact .inl (List.lt_trans hdate hdate')
    · exact .inl (hdate' ▸ hdate)
  · rcases h' with hdate' | ⟨hdate',hsequence'⟩
    · exact .inl (hdate ▸ hdate')
    · exact .inr ⟨hdate.trans hdate',hsequence.trans hsequence'⟩

instance : Trans Earlier Earlier Earlier := ⟨Earlier.trans⟩

theorem follows_earlier {previous current : Event} (h : follows previous current) : Earlier previous current := by
  rcases h with ⟨hdate,hsequence⟩ | ⟨hdate,_⟩
  · exact .inr ⟨hdate.symm,by omega⟩
  · exact .inl hdate

theorem Earlier.distinct {first second : Event} (h : Earlier first second) : first.eventId ≠ second.eventId := by
  intro hid
  have hdate : first.date = second.date := by rw [Event.date,hid,Event.date]
  have hsequence : first.sequence = second.sequence := by rw [Event.sequence,hid,Event.sequence]
  rcases h with hlt | ⟨_,hlt⟩
  · rw [hdate] at hlt
    exact List.lt_irrefl _ hlt
  · omega

theorem firstGap_none {events : List Event} (h : firstGap events = none) : events.IsChain follows := by
  induction events with
  | nil => exact .nil
  | cons previous events ih =>
    cases events with
    | nil => exact .singleton previous
    | cons current rest =>
      rw [firstGap] at h
      split at h
      · next hfollows => exact .cons_cons hfollows (ih h)
      · cases h

theorem contiguous_earlier {events : List Event} (h : requireContiguous events = .ok ()) : events.Pairwise Earlier := by
  rw [requireContiguous] at h
  split at h
  · cases h
  · split at h
    · next hgap => exact List.isChain_iff_pairwise.mp ((firstGap_none hgap).imp fun _ _ => follows_earlier)
    · cases h

end Contiguity

section Tiles
variable {payload : Bytes}

theorem slice_append {start middle stop : ℕ} (hstart : start ≤ middle) (hstop : middle ≤ stop) :
    slice payload start middle ++ slice payload middle stop = slice payload start stop := by
  have hleft : slice payload start middle = ((payload.take stop).drop start).take (middle - start) := by
    rw [slice,← List.drop_take,List.take_take,Nat.min_eq_left hstop]
  have hright : slice payload middle stop = ((payload.take stop).drop start).drop (middle - start) := by
    rw [slice,List.drop_drop,Nat.add_sub_cancel' hstart]
  rw [hleft,hright,List.take_append_drop,slice]

theorem slice_self (start : ℕ) : slice payload start start = [] := by
  rw [slice,List.drop_eq_nil_iff,List.length_take]
  exact min_le_left _ _

theorem joinGroup_flatten (shardSize : ℕ) (groups : List (List Event)) (event : Event) :
    (joinGroup shardSize groups event).flatten = groups.flatten ++ [event] := by
  rw [joinGroup]
  split
  · next hnone =>
    rw [List.getLast?_eq_none_iff.mp hnone]
    rfl
  · next group hgroup =>
    split
    · rw [List.flatten_append,List.flatten_singleton]
    · obtain ⟨before,rfl⟩ := List.getLast?_eq_some_iff.mp hgroup
      rw [List.dropLast_concat,List.flatten_append,List.flatten_append,List.flatten_singleton,List.flatten_singleton,
        List.append_assoc]

theorem joinGroup_nonempty (shardSize : ℕ) {groups : List (List Event)} (h : ∀ group ∈ groups, group ≠ []) (event : Event) :
    ∀ group ∈ joinGroup shardSize groups event, group ≠ [] := by
  intro group hgroup
  rw [joinGroup] at hgroup
  split at hgroup
  · rw [List.mem_singleton.mp hgroup]
    exact List.cons_ne_nil _ _
  · split at hgroup
    · rcases List.mem_append.mp hgroup with hold | hnew
      · exact h group hold
      · rw [List.mem_singleton.mp hnew]
        exact List.cons_ne_nil _ _
    · rcases List.mem_append.mp hgroup with hold | hnew
      · exact h group (List.dropLast_subset _ hold)
      · rw [List.mem_singleton.mp hnew]
        exact List.append_ne_nil_of_right_ne_nil _ (List.cons_ne_nil _ _)

theorem groupsOf_spec (shardSize : ℕ) (events : List Event) :
    (groupsOf shardSize events).flatten = events ∧ ∀ group ∈ groupsOf shardSize events, group ≠ [] := by
  have hfold (events : List Event) (groups : List (List Event)) (h : ∀ group ∈ groups, group ≠ []) :
      (events.foldl (joinGroup shardSize) groups).flatten = groups.flatten ++ events ∧
        ∀ group ∈ events.foldl (joinGroup shardSize) groups, group ≠ [] := by
    induction events generalizing groups with
    | nil => exact ⟨(List.append_nil _).symm,h⟩
    | cons event events ih =>
      obtain ⟨hflatten,hnonempty⟩ := ih (joinGroup shardSize groups event) (joinGroup_nonempty shardSize h event)
      refine ⟨?_,hnonempty⟩
      rw [List.foldl_cons,hflatten,joinGroup_flatten,List.append_assoc,List.singleton_append]
  exact hfold events [] (List.forall_mem_nil _)

theorem positionOf_eq {before after : List Event} {event : Event} (h : ∀ later ∈ after, later.eventId ≠ event.eventId) :
    positionOf (before ++ event :: after) event.eventId = before.length := by
  have hreverse : (before ++ event :: after).reverse = after.reverse ++ event :: before.reverse := by simp
  have hfind : (after.reverse ++ event :: before.reverse).findIdx (fun e => e.eventId == event.eventId) = after.length := by
    rw [List.findIdx_append,if_neg]
    · simp [List.findIdx_cons]
    · rw [List.findIdx_lt_length]
      rintro ⟨later,hlater,heq⟩
      exact h later (List.mem_reverse.mp hlater) (beq_iff_eq.mp heq)
  rw [positionOf,hreverse,hfind,List.length_append,List.length_cons]
  omega

def boundary (events : List Event) (final position : ℕ) : ℕ :=
  match events[position]? with
  | some event => event.offset
  | none => final

theorem boundary_mono {events : List Event} {final : ℕ} (hsorted : events.Pairwise fun a b => a.offset < b.offset)
    (hfinal : ∀ event ∈ events, event.offset ≤ final) {i j : ℕ} (hij : i ≤ j) :
    boundary events final i ≤ boundary events final j := by
  rw [boundary,boundary]
  by_cases hj : j < events.length
  · rw [List.getElem?_eq_getElem hj,List.getElem?_eq_getElem (hij.trans_lt hj)]
    rcases hij.lt_or_eq with hlt | rfl
    · exact (List.pairwise_iff_getElem.mp hsorted i j (hij.trans_lt hj) hj hlt).le
    · exact le_rfl
  · rw [List.getElem?_eq_none (not_lt.mp hj)]
    by_cases hi : i < events.length
    · rw [List.getElem?_eq_getElem hi]
      exact hfinal _ (List.getElem_mem hi)
    · rw [List.getElem?_eq_none (not_lt.mp hi)]

theorem boundary_le {events : List Event} {final : ℕ} (hsorted : events.Pairwise fun a b => a.offset < b.offset)
    (hfinal : ∀ event ∈ events, event.offset ≤ final) (position : ℕ) : boundary events final position ≤ final := by
  have hmono := boundary_mono hsorted hfinal (Nat.le_max_left position events.length)
  rwa [boundary.eq_def events final (max _ _),List.getElem?_eq_none (le_max_right _ _)] at hmono

variable (sha256 : Bytes → Digest)

theorem segmentOf_payload {events : List Event} {final : ℕ} {before group after : List Event} {first last : Event}
    (hevents : events = before ++ group ++ after) (hdistinct : events.Pairwise fun a b => a.eventId ≠ b.eventId)
    (hfirst : group.head? = some first) (hlast : group.getLast? = some last) :
    (segmentOf sha256 payload events final first last).2 =
      slice payload (boundary events final before.length) (boundary events final (before.length + group.length)) := by
  obtain ⟨others,hgroup⟩ := List.head?_eq_some_iff.mp hfirst
  obtain ⟨front,hfront⟩ := List.getLast?_eq_some_iff.mp hlast
  have hstart : boundary events final before.length = first.offset := by
    have hget : events[before.length]? = some first := by
      rw [hevents,hgroup,List.append_assoc,List.getElem?_append_right le_rfl,Nat.sub_self]
      rfl
    rw [boundary,hget]
  have hsplit : events = (before ++ front) ++ last :: after := by
    rw [hevents,hfront]
    simp
  have hposition : positionOf events last.eventId + 1 = before.length + group.length := by
    have hlater : ∀ later ∈ after, later.eventId ≠ last.eventId := by
      rw [hsplit,List.pairwise_append] at hdistinct
      intro later hlater
      exact ((List.pairwise_cons.mp hdistinct.2.1).1 later hlater).symm
    rw [hsplit,positionOf_eq hlater,hfront,List.length_append,List.length_append,List.length_singleton,Nat.add_assoc]
  rw [segmentOf,hstart,← hposition]
  rfl

theorem segments_tile {events : List Event} {final : ℕ} (hdistinct : events.Pairwise fun a b => a.eventId ≠ b.eventId)
    (hsorted : events.Pairwise fun a b => a.offset < b.offset) (hfinal : ∀ event ∈ events, event.offset ≤ final)
    {groups : List (List Event)} (before : List Event) (hevents : events = before ++ groups.flatten)
    (hgroups : ∀ group ∈ groups, group ≠ []) :
    ((groups.filterMap (groupSegment sha256 payload events final)).map (·.2)).flatten =
      slice payload (boundary events final before.length) final := by
  induction groups generalizing before with
  | nil =>
    have hend : boundary events final before.length = final := by
      rw [boundary,List.getElem?_eq_none (by simp [hevents])]
    rw [hend,slice_self]
    rfl
  | cons group groups ih =>
    obtain ⟨hgroup,hothers⟩ := List.forall_mem_cons.mp hgroups
    have hfirst := List.head?_eq_some_head hgroup
    have hlast := List.getLast?_eq_some_getLast hgroup
    have hsome : groupSegment sha256 payload events final group =
        some (segmentOf sha256 payload events final (group.head hgroup) (group.getLast hgroup)) := by
      rw [groupSegment,hfirst,hlast]
    have hsplit : events = before ++ group ++ groups.flatten := by
      rw [hevents,List.flatten_cons,List.append_assoc]
    have hrest := ih (before ++ group) hsplit hothers
    rw [List.filterMap_cons_some hsome,List.map_cons,List.flatten_cons,hrest,
      segmentOf_payload sha256 hsplit hdistinct hfirst hlast,List.length_append]
    exact slice_append (boundary_mono hsorted hfinal (Nat.le_add_right _ _)) (boundary_le hsorted hfinal _)

theorem eventSegments_payload {events : List Event} {shardSize final : ℕ}
    (hdistinct : events.Pairwise fun a b => a.eventId ≠ b.eventId) (hsorted : events.Pairwise fun a b => a.offset < b.offset) (hfinal : ∀ event ∈ events, event.offset ≤ final) :
    ((eventSegmentPayloads sha256 payload events shardSize final).map (·.2)).flatten =
      slice payload (boundary events final 0) final := by
  obtain ⟨hflatten,hnonempty⟩ := groupsOf_spec shardSize events
  exact segments_tile sha256 hdistinct hsorted hfinal [] hflatten.symm hnonempty

end Tiles

end PneumaLab.Research.ExecutionJournal
