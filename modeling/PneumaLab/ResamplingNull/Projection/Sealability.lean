import PneumaLab.ResamplingNull.Projection.Ancestry
import PneumaLab.ResamplingNull.Projection.Reconstruction

namespace PneumaLab.ResamplingNull

def BlindedProjection.validate (projection : BlindedProjection) : Py Unit := do
  demand (decide (projection.taskBlockRefs.map ArtifactRef.relativePath).Nodup)
    (refused "task_block_refs must have unique relative_path values")
  demand (decide (projection.rows.map ProjectionRow.taskId).Nodup) (refused "rows must have unique task_id values")
  demand (projection.rows.length = projection.expectedTaskCount)
    (refused "expected_task_count must equal the number of rows")
  demand (projection.taskBlockRefs.length = projection.rows.length)
    (refused "task_block_refs and rows must have equal coverage")
  projection.rows.forM fun row => demand (row.slots.map BlindedSlot.label = labels)
    (refused "blinded slots must be ordered A, B, C, D")

structure ParentDecoders where
  schedule : Bytes → Py (SealedRecord FrozenSchedule)
  freeze : Bytes → Py (SealedRecord AnalysisFreeze)
  block : Bytes → Py (SealedRecord TaskBlockPayload)

variable (platform : Platform) (rewardText : ℚ → String)

def loadDirectParent {α : Type} (files : Files) (ref : ArtifactRef) (field : String)
    (decode : Bytes → Py (SealedRecord α)) : Py (Document α) := do
  demand (ref.mediaType = "application/json") (refused (field ++ " must reference application/json"))
  let record ← decode (← readRef platform files ref)
  return ⟨ref.relativePath,ref.sha256,ref.byteCount,record.envelope,record.payload⟩

def verifyFrozenInputs (files : Files) (freeze : AnalysisFreeze) : Py Unit :=
  (freeze.sourceRefs ++ [freeze.configRef,freeze.projectionSchemaRef]).forM fun ref => do
    demand (decide ("sources/analysis-freeze/".toList <+: ref.relativePath.toList))
      (refused "CurrentAnalysisInputs must remain in immutable source namespace")
    let _ ← readRef platform files ref

def blindedRow (entry : TaskSchedule) (block : TaskBlockPayload) (base : CandidateRow) : ProjectionRow :=
  { projectionRow entry block base.slots with taskId := base.taskId, prefixSuccess := base.prefixSuccess }

def sealBlindedProjection (decode : ParentDecoders) (files : Files) (scheduleRef analysisFreezeRef : ArtifactRef)
    (taskBlockRefs : List ArtifactRef) (candidate : ProjectionCandidate) : Py (SealedRecord BlindedProjection) := do
  let schedule ← loadDirectParent platform files scheduleRef "schedule_ref" decode.schedule
  let freeze ← loadDirectParent platform files analysisFreezeRef "analysis_freeze_ref" decode.freeze
  verifyFrozenInputs platform files freeze.payload
  let blocks ← taskBlockRefs.mapM fun ref => loadDirectParent platform files ref "task_block_ref" decode.block
  let scheduled ← schedule.payload.tasks.mapM fun entry => do
    let block ← required (refused "task blocks must exactly cover the schedule") (taskById blocks entry.task.taskId)
    demand (block.payload.slotOutcomes.length = 4) (refused "task block slot outcomes are malformed")
    return (entry,block.payload)
  let rebuilt ← candidateFrom platform rewardText scheduled
  demand (candidate.canonicalBytes = rebuilt.canonicalBytes)
    (refused "caller candidate bytes differ from trusted reconstruction")
  let rows ← (schedule.payload.tasks.zip rebuilt.rows).mapM fun (entry,base) => do
    let block ← required (.keyError base.taskId) (taskById blocks base.taskId)
    return blindedRow entry block.payload base
  demand ((blocks.all fun block => decide (block.payload.taskId ∈ schedule.payload.taskIds)) &&
      schedule.payload.taskIds.all fun taskId => decide (taskId ∈ blocks.map fun block => block.payload.taskId))
    (refused "task blocks must exactly cover the schedule")
  let projection : BlindedProjection := {
    scheduleRef := scheduleRef
    analysisFreezeRef := analysisFreezeRef
    taskBlockRefs := taskBlockRefs
    rows := rows
    projectionCandidateSha256 := rebuilt.sha256
    expectedTaskCount := rows.length }
  demand (freeze.envelope.studyId = schedule.envelope.studyId)
    (refused "freeze and schedule have different study identities")
  projection.validate
  return ⟨schedule.envelope,projection⟩

section Scan

variable {platform : Platform} {files : Files} {α : Type} {decode : Bytes → Py (SealedRecord α)}

def Document.Scanned (platform : Platform) (files : Files) (decode : Bytes → Py (SealedRecord α))
    (document : Document α) : Prop :=
  ∃ raw record, files document.relativePath = some raw ∧ decode raw = .ok record ∧
    document = ⟨document.relativePath,(platform.sha256 raw).hex,raw.length,record.envelope,record.payload⟩

theorem loaded_of_scanned {ref : ArtifactRef} {field : String} {document loaded : Document α}
    (hload : loadDirectParent platform files ref field decode = .ok loaded)
    (hscanned : document.Scanned platform files decode) (hpath : ref.relativePath = document.relativePath) :
    loaded = document ∧ ref.names document = true := by
  simp only [loadDirectParent,bind_eq_ok,demand_eq_ok,decide_eq_true_eq,readRef_eq_ok] at hload
  obtain ⟨_,hmedia,raw,⟨_,hfile,hsha,hlength⟩,record,hdecode,hreturn⟩ := hload
  cases hreturn
  obtain ⟨raw',record',hfile',hdecode',hdocument⟩ := hscanned
  rw [← hpath,hfile,Option.some.injEq] at hfile'
  subst hfile'
  rw [hdecode,Except.ok.injEq] at hdecode'
  subst hdecode'
  have hsame : (⟨ref.relativePath,ref.sha256,ref.byteCount,record.envelope,record.payload⟩ : Document α) = document := by
    rw [hdocument,hpath,hsha,hlength]
  exact ⟨hsame,names_iff.mpr (hsame ▸ ⟨rfl,rfl,rfl,hmedia⟩)⟩

end Scan

namespace ScientificGraph

def withProjection (graph : ScientificGraph) (document : Document BlindedProjection) : ScientificGraph :=
  { graph with projections := [document] }

def withoutLedger (graph : ScientificGraph) : ScientificGraph := { graph with assignments := [] }

def Untriggered (graph : ScientificGraph) : Prop :=
  ∀ packet ∈ graph.packets, ∀ candidate, packet.payload.candidate? = some candidate →
    ∀ packets, PacketEntry.pair packets ∉ candidate.entries

variable {graph : ScientificGraph} {parents : Parents}

theorem parents_eq_ok : graph.parents = .ok parents ↔
    graph.manifests = parents.manifest.toList ∧ graph.schedules = parents.schedule.toList ∧
      graph.prefixes = parents.prefixIndex.toList ∧ graph.assignments = parents.assignment.toList ∧
      graph.projections = parents.projection.toList ∧ graph.freezes = parents.freeze.toList ∧
      graph.analyses = parents.analysis.toList ∧ graph.unblinds = parents.unblind.toList := by
  simp only [ScientificGraph.parents,bind_eq_ok,singletonDocument_eq_ok]
  constructor
  · rintro ⟨_,hmanifest,_,hschedule,_,hpast,_,hassignment,_,hprojection,_,hfreeze,_,hanalysis,_,hunblind,hreturn⟩
    cases hreturn
    exact ⟨hmanifest,hschedule,hpast,hassignment,hprojection,hfreeze,hanalysis,hunblind⟩
  · rintro ⟨hmanifest,hschedule,hpast,hassignment,hprojection,hfreeze,hanalysis,hunblind⟩
    exact ⟨_,hmanifest,_,hschedule,_,hpast,_,hassignment,_,hprojection,_,hfreeze,_,hanalysis,_,hunblind,rfl⟩

end ScientificGraph

def requireRosters (graph : ScientificGraph) (parents : Parents) : Py Unit :=
  present parents.manifest fun manifest => graph.powerRosterRefs.forM fun rosterRef =>
    requireArtifactRefEqual rosterRef manifest.payload.rosterRef "power report roster_ref"

section Ancestry

variable {platform : Platform} {rewardText : ℚ → String} {graph : ScientificGraph} {parents : Parents}

theorem ancestry_unprojected (hparents : graph.parents = .ok parents) (hprojection : parents.projection = none)
    (hunblind : parents.unblind = none) (hanalysis : parents.analysis = none) :
    validateScientificAncestry platform rewardText graph = .ok () ↔
      requireParents graph parents = .ok () ∧ requireRosters graph parents = .ok () := by
  simp only [validateScientificAncestry,Parents.requireUnblind,Parents.requireAnalysis,hparents,hprojection,hunblind,
    hanalysis,ok_bind,bind_eq_ok,present_none,present_ok,requireRosters]
  constructor
  · rintro ⟨_,hrequired,hroster⟩
    exact ⟨hrequired,hroster⟩
  · rintro ⟨hrequired,hroster⟩
    exact ⟨(),hrequired,hroster⟩

theorem ancestry_projected (hparents : graph.parents = .ok parents) {schedule : Document FrozenSchedule}
    (hschedule : parents.schedule = some schedule) {projection : Document BlindedProjection}
    (hprojection : parents.projection = some projection) (hunblind : parents.unblind = none)
    (hanalysis : parents.analysis = none) :
    validateScientificAncestry platform rewardText graph = .ok () ↔
      requireParents graph parents = .ok () ∧ requireRosters graph parents = .ok () ∧
        Reconstructed platform rewardText graph.blocks schedule.payload projection.payload ∧
        requireProjectionRefs parents graph.blocks projection.payload = .ok () := by
  simp only [validateScientificAncestry,Parents.requireUnblind,Parents.requireAnalysis,hparents,hschedule,hprojection,
    hunblind,hanalysis,ok_bind,bind_eq_ok,present_none,present_some,requireRosters]
  constructor
  · rintro ⟨_,hrequired,_,hrows,_,hrefs,hroster⟩
    exact ⟨hrequired,hroster,requireReconstruction_eq_ok.mp hrows,hrefs⟩
  · rintro ⟨hrequired,hroster,hrows,hrefs⟩
    exact ⟨(),hrequired,(),requireReconstruction_eq_ok.mpr hrows,(),hrefs,hroster⟩

theorem requireEntry_unassigned (hassignment : parents.assignment = none) {entry : PacketEntry} :
    (parents.requireEntry entry = .ok () → ∀ packets, entry ≠ .pair packets) ∧
      ∀ other : Parents, other.prefixIndex = parents.prefixIndex → other.requireEntry entry = .ok () →
        (∀ packets, entry ≠ .pair packets) → parents.requireEntry entry = .ok () := by
  cases entry with
  | marker taskId prefixIndexSha256 triggerReason =>
    refine ⟨fun _ packets h => (by cases h),fun other hsame h _ => ?_⟩
    simp only [Parents.requireEntry,Parents.receiptFor,Parents.receipts,bind_eq_ok] at h ⊢
    rw [hsame] at h
    exact h
  | pair packets =>
    refine ⟨fun h => ?_,fun _ _ _ hnot => absurd rfl (hnot packets)⟩
    have hrow : parents.rowFor packets.taskId = none := by
      rw [Parents.rowFor,Parents.rows,hassignment]
      rfl
    simp only [Parents.requireEntry,Parents.requirePair,hrow,bind_eq_ok,demand_eq_ok] at h
    obtain ⟨_,_,_,hfalse,_⟩ := h
    cases hfalse

def Parents.unassigned (parents : Parents) : Parents := { parents with assignment := none }

theorem requireParents_unassigned (h : requireParents graph parents = .ok ()) :
    requireParents graph parents.unassigned = .ok () ↔ graph.Untriggered := by
  simp only [requireParents,bind_eq_ok,forM_eq_ok] at h ⊢
  obtain ⟨_,hschedule,_,_,_,hpast,_,_,_,hunique,_,hpackets,_,hstages,_,hfreeze,_,hblocks,_,hcoverage,_⟩ := h
  have hpackets_iff : (∀ packet ∈ graph.packets, parents.unassigned.requirePacket packet = .ok ()) ↔
      graph.Untriggered := by
    constructor
    · intro hunassigned packet hpacket candidate hcandidate packets hpair
      have hrequired := hunassigned packet hpacket
      simp only [Parents.requirePacket,hcandidate,present_some,bind_eq_ok,forM_eq_ok] at hrequired
      obtain ⟨_,_,_,_,_,_,_,_,hentries⟩ := hrequired
      exact (requireEntry_unassigned rfl).1 (hentries _ hpair) packets rfl
    · intro huntriggered packet hpacket
      have hrequired := hpackets packet hpacket
      simp only [Parents.requirePacket,bind_eq_ok,present_eq_ok,forM_eq_ok] at hrequired ⊢
      obtain ⟨_,_,_,hindex,_,hmanifest,hcandidate⟩ := hrequired
      refine ⟨(),fun _ hnone => (by cases hnone),(),hindex,(),hmanifest,fun candidate hsome => ?_⟩
      obtain ⟨_,_,hentries⟩ := hcandidate candidate hsome
      refine ⟨(),rfl,fun entry hentry => ?_⟩
      exact (requireEntry_unassigned rfl).2 parents rfl (hentries entry hentry) fun packets hpair =>
        huntriggered packet hpacket candidate hsome packets (hpair ▸ hentry)
  rw [← hpackets_iff]
  constructor
  · rintro ⟨_,_,_,_,_,_,_,_,_,_,_,hrequired,_⟩
    exact hrequired
  · intro hrequired
    refine ⟨(),hschedule,(),?_,(),hpast,(),?_,(),?_,(),hrequired,(),hstages,(),hfreeze,(),?_,(),?_,?_⟩
    · exact present_eq_ok.mpr fun _ hnone => by cases hnone
    · exact present_eq_ok.mpr fun _ hnone => by cases hnone
    · simp only [Parents.requireUnique,bind_eq_ok] at hunique ⊢
      obtain ⟨_,hreceipts,_⟩ := hunique
      exact ⟨(),hreceipts,rfl⟩
    · intro block hblock
      have hrequiredBlock := hblocks block hblock
      simp only [Parents.requireBlock,bind_eq_ok] at hrequiredBlock ⊢
      obtain ⟨_,hscheduleRef,_,hpastRef,_,_,_,hpacketRef,hfreezeRef⟩ := hrequiredBlock
      exact ⟨(),hscheduleRef,(),hpastRef,(),rfl,(),hpacketRef,hfreezeRef⟩
    · simp only [Parents.requireCoverage,present_eq_ok,bind_eq_ok] at hcoverage ⊢
      intro schedule hsome
      obtain ⟨_,hreceipts,_⟩ := hcoverage schedule hsome
      exact ⟨(),hreceipts,fun _ hnone => by cases hnone⟩
    · simp only [Parents.requireChains,present_eq_ok]
      intro _ _ _ _ _ hnone
      cases hnone

end Ancestry

structure SealingInputs (platform : Platform) (rewardText : ℚ → String) (decode : ParentDecoders) (files : Files)
    (graph : ScientificGraph) (scheduleRef analysisFreezeRef : ArtifactRef) (taskBlockRefs : List ArtifactRef) where
  accepted : validateScientificAncestry platform rewardText graph = .ok ()
  unprojected : graph.projections = []
  blinded : graph.unblinds = [] ∧ graph.analyses = []
  schedule : Document FrozenSchedule
  schedules : graph.schedules = [schedule]
  schedule_scanned : schedule.Scanned platform files decode.schedule
  schedule_named : scheduleRef.relativePath = schedule.relativePath
  freeze : Document AnalysisFreeze
  freezes : graph.freezes = [freeze]
  freeze_scanned : freeze.Scanned platform files decode.freeze
  freeze_named : analysisFreezeRef.relativePath = freeze.relativePath
  blocks_scanned : ∀ block ∈ graph.blocks, block.Scanned platform files decode.block
  one_block : (graph.blocks.map fun block => block.payload.taskId).Perm schedule.payload.taskIds
  blocks_named : (taskBlockRefs.map ArtifactRef.relativePath).Perm (graph.blocks.map Document.relativePath)

def InScheduleOrder (refs : List ArtifactRef) (blocks : List (Document TaskBlockPayload)) (schedule : FrozenSchedule) :
    Prop :=
  List.Forall₂ (fun ref taskId => ∃ block ∈ blocks, block.payload.taskId = taskId ∧
    ref.relativePath = block.relativePath) refs schedule.taskIds

namespace SealingInputs

variable {platform : Platform} {rewardText : ℚ → String} {decode : ParentDecoders} {files : Files}
  {graph : ScientificGraph} {scheduleRef analysisFreezeRef : ArtifactRef} {taskBlockRefs : List ArtifactRef}
  (inputs : SealingInputs platform rewardText decode files graph scheduleRef analysisFreezeRef taskBlockRefs)

include inputs

theorem block_keys : (graph.blocks.map fun block => block.payload.taskId).Nodup :=
  inputs.one_block.nodup_iff.mpr inputs.schedule.payload.distinct

theorem ref_block {ref : ArtifactRef} (href : ref ∈ taskBlockRefs) :
    ∃ block ∈ graph.blocks, ref.relativePath = block.relativePath := by
  have hpath := inputs.blocks_named.subset (List.mem_map_of_mem href)
  obtain ⟨block,hblock,hsame⟩ := List.mem_map.mp hpath
  exact ⟨block,hblock,hsame.symm⟩

theorem loaded_blocks {blocks : List (Document TaskBlockPayload)}
    (h : taskBlockRefs.mapM (fun ref => loadDirectParent platform files ref "task_block_ref" decode.block) = .ok blocks) :
    blocks.Perm graph.blocks ∧
      List.Forall₂ (fun ref block => block ∈ graph.blocks ∧ ref.names block = true) taskBlockRefs blocks := by
  have hpairs : List.Forall₂ (fun ref block => block ∈ graph.blocks ∧ ref.names block = true) taskBlockRefs blocks := by
    refine ((List.forall₂_and_left _ _).mpr ⟨fun ref (href : ref ∈ taskBlockRefs) => href,mapM_eq_ok.mp h⟩).imp ?_
    rintro ref block ⟨href,hload⟩
    obtain ⟨scanned,hscanned,hpath⟩ := inputs.ref_block href
    obtain ⟨rfl,hnames⟩ := loaded_of_scanned hload (inputs.blocks_scanned scanned hscanned) hpath
    exact ⟨hscanned,hnames⟩
  have hpaths : blocks.map Document.relativePath = taskBlockRefs.map ArtifactRef.relativePath :=
    map_eq_of_forall₂ (hpairs.imp fun _ _ h => (names_iff.mp h.2).1.symm).flip
  have hnodup : (blocks.map Document.relativePath).Nodup :=
    hpaths ▸ inputs.blocks_named.nodup_iff.mpr graph.paths_distinct
  have hsub : ∀ block ∈ blocks, block ∈ graph.blocks := by
    intro block hblock
    obtain ⟨_,_,hmem,_⟩ := exists_right_of_forall₂ hpairs.flip hblock
    exact hmem
  refine ⟨(List.perm_ext_iff_of_nodup (List.Nodup.of_map _ hnodup) (List.Nodup.of_map _ graph.paths_distinct)).mpr
    fun block => ⟨hsub block,fun hblock => ?_⟩,hpairs⟩
  have hpath := inputs.blocks_named.symm.subset (List.mem_map_of_mem hblock)
  rw [← hpaths] at hpath
  obtain ⟨other,hother,hsame⟩ := List.mem_map.mp hpath
  have heq : other = block := List.inj_on_of_nodup_map graph.paths_distinct (hsub other hother) hblock hsame
  exact heq ▸ hother

theorem follow_iff {blocks : List (Document TaskBlockPayload)}
    (hpairs : List.Forall₂ (fun ref block => block ∈ graph.blocks ∧ ref.names block = true) taskBlockRefs blocks) :
    FollowSchedule taskBlockRefs graph.blocks inputs.schedule.payload ↔
      InScheduleOrder taskBlockRefs graph.blocks inputs.schedule.payload := by
  constructor
  · refine fun h => h.imp ?_
    rintro ref taskId ⟨block,hblock,hnames⟩
    obtain ⟨hmem,htask⟩ := mem_of_taskById hblock
    exact ⟨block,hmem,htask,(names_iff.mp hnames).1⟩
  · refine fun h => ((List.forall₂_and_left _ _).mpr ⟨fun ref (href : ref ∈ taskBlockRefs) => href,h⟩).imp ?_
    rintro ref taskId ⟨href,block,hblock,htask,hpath⟩
    obtain ⟨named,_,hnamed,hnames⟩ := exists_right_of_forall₂ hpairs href
    have hsame : named = block := List.inj_on_of_nodup_map graph.paths_distinct hnamed hblock
      ((names_iff.mp hnames).1.symm.trans hpath)
    exact ⟨block,(taskById_eq_some inputs.block_keys).mpr ⟨hblock,htask⟩,hsame ▸ hnames⟩

structure Sealed (projection : BlindedProjection) : Prop where
  schedule_named : projection.scheduleRef.names inputs.schedule = true
  freeze_named : projection.analysisFreezeRef.names inputs.freeze = true
  block_refs : projection.taskBlockRefs = taskBlockRefs
  rows : ∃ scheduled, scheduledBlocks graph.blocks inputs.schedule.payload = .ok scheduled ∧
    projection.rows = scheduled.map projectedRow ∧
    candidateFrom platform rewardText scheduled = .ok (candidateOf platform rewardText (scheduled.map reconstructed)) ∧
    projection.projectionCandidateSha256 = (candidateOf platform rewardText (scheduled.map reconstructed)).sha256
  order : FollowSchedule taskBlockRefs graph.blocks inputs.schedule.payload ↔
    InScheduleOrder taskBlockRefs graph.blocks inputs.schedule.payload

theorem sealed_of_ok {candidate : ProjectionCandidate} {record : SealedRecord BlindedProjection}
    (h : sealBlindedProjection platform rewardText decode files scheduleRef analysisFreezeRef taskBlockRefs candidate =
      .ok record) : inputs.Sealed record.payload := by
  simp only [sealBlindedProjection,bind_eq_ok,demand_eq_ok] at h
  obtain ⟨schedule,hschedule,freeze,hfreeze,_,_,blocks,hblocks,scheduled,hscheduled,rebuilt,hrebuilt,_,_,rows,hrows,_,_,
    _,_,_,_,hreturn⟩ := h
  obtain ⟨rfl,hscheduleNames⟩ := loaded_of_scanned hschedule inputs.schedule_scanned inputs.schedule_named
  obtain ⟨rfl,hfreezeNames⟩ := loaded_of_scanned hfreeze inputs.freeze_scanned inputs.freeze_named
  obtain ⟨hperm,hpairs⟩ := inputs.loaded_blocks hblocks
  have hlookup : ∀ taskId, taskById blocks taskId = taskById graph.blocks taskId :=
    fun taskId => taskById_perm hperm inputs.block_keys
  have hgraph : scheduledBlocks graph.blocks inputs.schedule.payload = .ok scheduled := by
    refine scheduledBlocks_eq_ok.mpr ((mapM_eq_ok.mp hscheduled).imp ?_)
    rintro entry pair hpair
    simp only [bind_eq_ok,required_eq_ok,demand_eq_ok] at hpair
    obtain ⟨block,hblock,_,_,hreturn⟩ := hpair
    cases hreturn
    exact ⟨rfl,block,hlookup _ ▸ hblock,rfl⟩
  have hids : (scheduled.map fun pair => pair.1.task.taskId).Nodup :=
    scheduled_ids hgraph ▸ inputs.schedule.payload.distinct
  obtain ⟨rfl,_⟩ := candidateFrom_rows hids hrebuilt
  have hprojected : rows = scheduled.map projectedRow := by
    have hzip : inputs.schedule.payload.tasks.zip (scheduled.map reconstructed) =
        scheduled.map fun pair => (pair.1,reconstructed pair) := by
      rw [← scheduled_tasks hgraph,List.zip_map']
    have hpairsRows := mapM_eq_ok.mp hrows
    rw [candidateOf,hzip,List.forall₂_map_left_iff] at hpairsRows
    have hrow : List.Forall₂ (fun pair row => projectedRow pair = row) scheduled rows := by
      refine ((List.forall₂_and_left _ _).mpr ⟨fun pair (hpair : pair ∈ scheduled) => hpair,hpairsRows⟩).imp ?_
      rintro pair row ⟨hpair,hrow⟩
      simp only [bind_eq_ok,required_eq_ok] at hrow
      obtain ⟨block,hblock,hreturn⟩ := hrow
      obtain ⟨_,other,hother,hpayload⟩ := scheduled_block hgraph hpair
      rw [hlookup] at hblock
      obtain rfl : other = block := Option.some.inj (hother.symm.trans hblock)
      cases hreturn
      rw [projectedRow,blindedRow,hpayload,reconstructed,hpayload]
      rfl
    rw [← List.map_id rows]
    exact (map_eq_of_forall₂ hrow).symm
  cases hreturn
  exact ⟨hscheduleNames,hfreezeNames,rfl,⟨scheduled,hgraph,hprojected,hrebuilt,rfl⟩,
    inputs.follow_iff hpairs⟩

theorem reconstructed_iff {projection : BlindedProjection} (h : inputs.Sealed projection) :
    Reconstructed platform rewardText graph.blocks inputs.schedule.payload projection ↔
      InScheduleOrder taskBlockRefs graph.blocks inputs.schedule.payload := by
  rw [← h.order]
  constructor
  · exact fun hreconstructed => h.block_refs ▸ hreconstructed.refs
  · intro hfollow
    refine ⟨⟨fun block hblock => ?_,fun taskId htask => ?_⟩,h.block_refs.symm ▸ hfollow,h.rows⟩
    · exact inputs.one_block.subset (List.mem_map_of_mem (f := fun block => block.payload.taskId) hblock)
    · exact inputs.one_block.symm.subset htask

theorem projection_refs {projection : BlindedProjection} (h : inputs.Sealed projection) {parents : Parents}
    (hschedule : parents.schedule = some inputs.schedule) (hfreeze : parents.freeze = some inputs.freeze) :
    requireProjectionRefs parents graph.blocks projection = .ok () := by
  simp only [requireProjectionRefs,hschedule,hfreeze,present_some,bind_eq_ok,requireRefMatches_eq_ok,demand_eq_ok,
    Bool.and_eq_true,List.all_eq_true,decide_eq_true_eq,h.block_refs]
  refine ⟨(),h.schedule_named,(),h.freeze_named,fun block hblock => ?_,fun ref href => ?_⟩
  · exact inputs.blocks_named.symm.subset (List.mem_map_of_mem hblock)
  · exact inputs.blocks_named.subset (List.mem_map_of_mem href)

end SealingInputs

theorem sealed_projection_accepted_iff (platform : Platform) (rewardText : ℚ → String) (decode : ParentDecoders)
    (files : Files) (graph : ScientificGraph) (scheduleRef analysisFreezeRef : ArtifactRef)
    (taskBlockRefs : List ArtifactRef)
    (inputs : SealingInputs platform rewardText decode files graph scheduleRef analysisFreezeRef taskBlockRefs)
    (candidate : ProjectionCandidate) (record : SealedRecord BlindedProjection)
    (hsealed : sealBlindedProjection platform rewardText decode files scheduleRef analysisFreezeRef taskBlockRefs
      candidate = .ok record) (document : Document BlindedProjection) (hwritten : document.payload = record.payload) :
    (validateScientificAncestry platform rewardText (graph.withProjection document) = .ok () ↔
      InScheduleOrder taskBlockRefs graph.blocks inputs.schedule.payload) ∧
    (validateScientificAncestry platform rewardText (graph.withProjection document).withoutLedger = .ok () ↔
      InScheduleOrder taskBlockRefs graph.blocks inputs.schedule.payload ∧ graph.Untriggered) := by
  have hsettled := hwritten ▸ inputs.sealed_of_ok hsealed
  have hreconstructed := inputs.reconstructed_iff hsettled
  have haccepted := inputs.accepted
  have hgraph : ∃ parents, graph.parents = .ok parents := by
    rw [validateScientificAncestry,bind_eq_ok] at haccepted
    obtain ⟨parents,hparents,_⟩ := haccepted
    exact ⟨parents,hparents⟩
  obtain ⟨parents,hparents⟩ := hgraph
  obtain ⟨hmanifests,hschedules,hpasts,hassignments,hprojections,hfreezes,hanalyses,hunblinds⟩ :=
    ScientificGraph.parents_eq_ok.mp hparents
  have hprojection := Option.toList_eq_nil_iff.mp (hprojections.symm.trans inputs.unprojected)
  have hunblind := Option.toList_eq_nil_iff.mp (hunblinds.symm.trans inputs.blinded.1)
  have hanalysis := Option.toList_eq_nil_iff.mp (hanalyses.symm.trans inputs.blinded.2)
  have hschedule := Option.toList_eq_singleton_iff.mp (hschedules.symm.trans inputs.schedules)
  have hfreeze := Option.toList_eq_singleton_iff.mp (hfreezes.symm.trans inputs.freezes)
  obtain ⟨hrequired,hrosters⟩ := (ancestry_unprojected hparents hprojection hunblind hanalysis).mp haccepted
  have hextended : (graph.withProjection document).parents = .ok { parents with projection := some document } :=
    ScientificGraph.parents_eq_ok.mpr
      ⟨hmanifests,hschedules,hpasts,hassignments,rfl,hfreezes,hanalyses,hunblinds⟩
  have hunledgered : (graph.withProjection document).withoutLedger.parents =
      .ok { parents.unassigned with projection := some document } :=
    ScientificGraph.parents_eq_ok.mpr ⟨hmanifests,hschedules,hpasts,rfl,rfl,hfreezes,hanalyses,hunblinds⟩
  constructor
  · rw [ancestry_projected hextended hschedule rfl hunblind hanalysis]
    constructor
    · rintro ⟨_,_,hrows,_⟩
      exact hreconstructed.mp hrows
    · intro horder
      exact ⟨hrequired,hrosters,hreconstructed.mpr horder,inputs.projection_refs hsettled hschedule hfreeze⟩
  · rw [ancestry_projected hunledgered hschedule rfl hunblind hanalysis]
    constructor
    · rintro ⟨hrest,_,hrows,_⟩
      exact ⟨hreconstructed.mp hrows,(requireParents_unassigned hrequired).mp hrest⟩
    · rintro ⟨horder,huntriggered⟩
      exact ⟨(requireParents_unassigned hrequired).mpr huntriggered,hrosters,hreconstructed.mpr horder,
        inputs.projection_refs hsettled hschedule hfreeze⟩

section Sample

def twinSha : String := (zeroPlatform.sha256 []).hex

def twinDocument {α : Type} (relativePath : String) (payload : α) : Document α :=
  ⟨relativePath,twinSha,1,sampleEnvelope,payload⟩

def twinRef (role relativePath : String) : ArtifactRef := ⟨role,relativePath,twinSha,1,"application/json"⟩

def twinSources : PacketSources where
  tokenizerRef := twinRef "tokenizer" "blobs/tokenizer.json"
  packetTemplateRef := twinRef "packet_template" "blobs/template.json"
  packetPolicyRef := twinRef "packet_policy" "blobs/policy.json"
  padUnitSetRef := twinRef "pad_unit_set" "blobs/units.json"

def twinManifest : Document StudyManifest := twinDocument "records/manifest.json" {
  toPacketSources := twinSources
  rosterRef := twinRef "roster" "blobs/roster.json"
  assignmentProgramRef := twinRef "program" "blobs/program.json"
  assignmentMasterKeyCommitmentSha256 := "commitment" }

def twinId (second : Bool) : String := if second then "b" else "a"

theorem twinId_nonempty (second : Bool) : twinId second ≠ "" := by cases second <;> decide

def twinEntry (second : Bool) : TaskSchedule :=
  { copiedEntry with task := { sampleSpec with taskId := twinId second, taskId_nonempty := twinId_nonempty second } }

def twinSchedule : Document FrozenSchedule := twinDocument "records/schedule.json" {
  manifestRef := twinRef "study_manifest" "records/manifest.json"
  tasks := [twinEntry false,twinEntry true]
  distinct := by decide }

def twinReceipt (second : Bool) : FrozenPrefixReceipt :=
  { copiedReceipt .zero with
    taskId := twinId second
    scheduleSha256 := twinSha
    verifierReceipt := ⟨twinId second,twinSha,blockRef "verifier_evidence"⟩
    taskId_nonempty := twinId_nonempty second
    verifier_task := rfl
    verifier_schedule := rfl }

def twinPrefix : Document PrefixIndex := twinDocument "records/prefix.json" {
  scheduleRef := twinRef "resampling_prefix_schedule" "records/schedule.json"
  taskReceipts := [twinReceipt false,twinReceipt true] }

def twinAssignment (second : Bool) : TaskAssignment where
  taskId := twinId second
  taskLineage := "l"
  donorMatchKind := .notApplicableNoTrigger
  donorTaskId := none
  donorLineage := none
  slotArms := [("s0",.NONE),("s1",.RESAMPLE),("s2",.REAL),("s3",.SHAM)]
  scheduleSha256 := twinSha
  prefixIndexSha256 := twinSha

def twinAllocation (second : Bool) : AllocationReceipt where
  taskId := twinId second
  slotIdsByOrdinal := ["s0","s1","s2","s3"]
  treatmentAllocationIndex := 0
  allocationRejectionCounter := 0
  noPacketOrientationBit := 0
  orientationRejectionCounter := 0
  slotCapabilities := [("s0","c0"),("s1","c1"),("s2","c2"),("s3","c3")]

def twinLedger : Document LedgerPayload := twinDocument "records/ledger.json" {
  manifestRef := twinRef "study_manifest" "records/manifest.json"
  scheduleRef := twinRef "resampling_prefix_schedule" "records/schedule.json"
  prefixIndexRef := twinRef "resampling_prefix_receipt" "records/prefix.json"
  matchingProgramRef := twinRef "program" "blobs/program.json"
  assignmentMasterKeyCommitmentSha256 := "commitment"
  assignmentPrefixViewSha256 := twinSha
  assignmentMode := .syntheticDerangement
  matchingProofRefs := []
  assignments := [twinAssignment false,twinAssignment true]
  allocationReceipts := [twinAllocation false,twinAllocation true]
  donorMatchReceipts := [.noTrigger ⟨"a",.noInterventionOpportunity,twinSha⟩,
    .noTrigger ⟨"b",.noInterventionOpportunity,twinSha⟩] }

def twinPackets : PacketParents where
  assignmentRef := twinRef "resampling_assignment_ledger" "records/ledger.json"
  prefixIndexRef := twinRef "resampling_prefix_receipt" "records/prefix.json"
  tokenizerRef := twinSources.tokenizerRef
  packetTemplateRef := twinSources.packetTemplateRef
  packetPolicyRef := twinSources.packetPolicyRef
  padUnitSetRef := twinSources.padUnitSetRef

def twinCandidate : Document PacketIndex := twinDocument "records/candidate.json" (.candidate {
  toPacketParents := twinPackets
  entries := [.marker "a" twinSha "no_intervention_opportunity",.marker "b" twinSha "no_intervention_opportunity"] })

def twinSealed : Document PacketIndex := twinDocument "records/sealed.json" (.sealed {
  toPacketParents := twinPackets
  candidateRef := twinRef "packet_index_candidate" "records/candidate.json" })

def twinFreeze : Document AnalysisFreeze := twinDocument "records/freeze.json" {
  packetIndexRef := twinRef "packet_index_sealed" "records/sealed.json"
  sourceRefs := []
  configRef := twinRef "config" "sources/analysis-freeze/config.json"
  projectionSchemaRef := twinRef "schema" "sources/analysis-freeze/schema.json" }

def twinOutcome (second : Bool) (opaqueArmId : String) : OutcomeRow where
  taskId := twinId second
  benchmark := "swe"
  opaqueArmId := opaqueArmId
  success := 1
  prefixSuccess := 1
  partialReward := 1
  infrastructureFailure := false
  counters := .zero
  artifactRef := blockRef "grade_evidence"

def twinBlock (second : Bool) : Document TaskBlockPayload := twinDocument ("records/block-" ++ twinId second ++ ".json") {
  taskId := twinId second
  benchmark := "swe"
  stratum := "s"
  sensitivityGroups := sampleSpec.sensitivityGroups
  triggered := false
  prefixSuccess := 1
  slotOutcomes := ["c0","c1","c2","c3"].map (twinOutcome second)
  scheduleRef := twinRef "resampling_prefix_schedule" "records/schedule.json"
  prefixIndexRef := twinRef "resampling_prefix_receipt" "records/prefix.json"
  assignmentRef := twinRef "resampling_assignment_ledger" "records/ledger.json"
  packetIndexRef := twinRef "packet_index_sealed" "records/sealed.json"
  analysisFreezeRef := twinRef "analysis_freeze" "records/freeze.json"
  attempts := none
  selectedAttemptIndex := none
  terminalSlotReceipts := none
  executionReceipts := none
  outageReceipt := none
  validityEventRefs := []
  pipelineValid := true
  validityCodes := [] }

def twinGraph : ScientificGraph where
  manifests := [twinManifest]
  schedules := [twinSchedule]
  prefixes := [twinPrefix]
  assignments := [twinLedger]
  packets := [twinCandidate,twinSealed]
  freezes := [twinFreeze]
  blocks := [twinBlock false,twinBlock true]
  projections := []
  unblinds := []
  analyses := []
  powerRosterRefs := []
  paths_distinct := by decide

def twinParents : Parents where
  manifest := some twinManifest
  schedule := some twinSchedule
  prefixIndex := some twinPrefix
  assignment := some twinLedger
  projection := none
  freeze := some twinFreeze
  analysis := none
  unblind := none

theorem twin_names {α : Type} (role relativePath : String) (payload : α) :
    (twinRef role relativePath).names (twinDocument relativePath payload) = true :=
  names_iff.mpr ⟨rfl,rfl,rfl,rfl⟩

theorem twin_packet (packet : Document PacketIndex) (hpacket : packet ∈ twinGraph.packets) :
    twinParents.requirePacket packet = .ok () := by
  have hparents : packet.payload.parents = twinPackets := by
    rcases List.mem_pair.mp hpacket with rfl | rfl <;> rfl
  simp only [Parents.requirePacket,hparents,bind_eq_ok]
  refine ⟨(),requireRefMatches_eq_ok.mpr (twin_names _ _ _),(),requireRefMatches_eq_ok.mpr (twin_names _ _ _),(),?_,?_⟩
  · simp only [twinParents,present_some,requireSources,bind_eq_ok]
    exact ⟨(),demand_eq_ok.mpr (decide_eq_true rfl),(),demand_eq_ok.mpr (decide_eq_true rfl),(),
      demand_eq_ok.mpr (decide_eq_true rfl),demand_eq_ok.mpr (decide_eq_true rfl)⟩
  · rcases List.mem_pair.mp hpacket with rfl | rfl
    · change (do _; _) = Except.ok ()
      simp only [bind_eq_ok,forM_eq_ok]
      refine ⟨(),rfl,fun entry hentry => ?_⟩
      rcases List.mem_pair.mp hentry with rfl | rfl
      · exact bind_eq_ok.mpr ⟨(),bind_eq_ok.mpr ⟨(),demand_eq_ok.mpr (decide_eq_true rfl),
          bind_eq_ok.mpr ⟨twinReceipt false,rfl,rfl⟩⟩,rfl⟩
      · exact bind_eq_ok.mpr ⟨(),bind_eq_ok.mpr ⟨(),demand_eq_ok.mpr (decide_eq_true rfl),
          bind_eq_ok.mpr ⟨twinReceipt true,rfl,rfl⟩⟩,rfl⟩
    · rfl

theorem twin_chain (second : Bool) : validateTaskChain (twinBlock second).payload (twinEntry second) (twinReceipt second)
    (twinAssignment second) (twinAllocation second) = .ok () := by
  simp only [validateTaskChain,bind_eq_ok]
  cases second
  · exact ⟨(),rfl,(),rfl,(),rfl,(),demand_eq_ok.mpr (decide_eq_true rfl),(),rfl,(),rfl,(),rfl,(),rfl,(),rfl,rfl⟩
  · exact ⟨(),rfl,(),rfl,(),rfl,(),demand_eq_ok.mpr (decide_eq_true rfl),(),rfl,(),rfl,(),rfl,(),rfl,(),rfl,rfl⟩

theorem twinGraph_accepted (rewardText : ℚ → String) :
    validateScientificAncestry zeroPlatform rewardText twinGraph = .ok () := by
  have hreceipts : ∀ receipt ∈ twinPrefix.payload.taskReceipts, receipt.scheduleSha256 = twinSha ∧
      receipt.verifierReceipt.scheduleSha256 = twinSha :=
    List.forall_mem_cons.mpr ⟨⟨rfl,rfl⟩,List.forall_mem_singleton.mpr ⟨rfl,rfl⟩⟩
  have hassigned : ∀ row ∈ twinLedger.payload.assignments, row.scheduleSha256 = twinSha ∧
      row.prefixIndexSha256 = twinSha :=
    List.forall_mem_cons.mpr ⟨⟨rfl,rfl⟩,List.forall_mem_singleton.mpr ⟨rfl,rfl⟩⟩
  have hblock : ∀ second, twinParents.requireBlock (some twinSealed) (twinBlock second) = .ok () := by
    intro second
    simp only [Parents.requireBlock,bind_eq_ok]
    exact ⟨(),requireRefMatches_eq_ok.mpr (twin_names _ _ _),(),requireRefMatches_eq_ok.mpr (twin_names _ _ _),(),
      requireRefMatches_eq_ok.mpr (twin_names _ _ _),(),requireRefMatches_eq_ok.mpr (twin_names _ _ _),
      requireRefMatches_eq_ok.mpr (twin_names _ _ _)⟩
  have hchain : ∀ second, twinParents.requireChain (twinBlock second).payload twinSchedule.payload twinLedger.payload =
      .ok () := by
    intro second
    have hchained := twin_chain second
    simp only [Parents.requireChain,bind_eq_ok]
    cases second <;> exact ⟨_,rfl,_,rfl,_,rfl,_,rfl,hchained⟩
  have hschedule : twinParents.requireSchedule = .ok () := by
    simp only [Parents.requireSchedule,twinParents,present_some]
    exact requireRefMatches_eq_ok.mpr (twin_names _ _ _)
  have hstages : sealedPacket twinGraph.packets = some twinSealed ∧ candidatePacket twinGraph.packets =
      some twinCandidate := ⟨rfl,rfl⟩
  have hfreeze : (present twinParents.freeze fun freeze => present (sealedPacket twinGraph.packets) fun sealed =>
      requireRefMatches freeze.payload.packetIndexRef sealed "analysis freeze packet_index_ref" packetKind) = .ok () := by
    simp only [hstages,twinParents,present_some]
    exact requireRefMatches_eq_ok.mpr (twin_names _ _ _)
  have hparents : twinGraph.parents = .ok twinParents := rfl
  refine (ancestry_unprojected hparents rfl rfl rfl).mpr ⟨?_,rfl⟩
  simp only [requireParents,bind_eq_ok,forM_eq_ok]
  refine ⟨(),hschedule,(),?_,(),?_,(),?_,(),by decide,(),twin_packet,(),?_,(),hfreeze,(),?_,(),?_,?_⟩
  · simp only [Parents.requireAssignmentProgram,twinParents,present_some,bind_eq_ok]
    exact ⟨(),requireRefMatches_eq_ok.mpr (twin_names _ _ _),(),demand_eq_ok.mpr (decide_eq_true rfl),rfl⟩
  · simp only [Parents.requirePrefix,twinParents,present_some,bind_eq_ok,forM_eq_ok]
    refine ⟨(),requireRefMatches_eq_ok.mpr (twin_names _ _ _),fun receipt hreceipt => ?_⟩
    obtain ⟨hschedule,hverifier⟩ := hreceipts receipt hreceipt
    exact ⟨(),demand_eq_ok.mpr (decide_eq_true hschedule),demand_eq_ok.mpr (decide_eq_true hverifier)⟩
  · simp only [Parents.requireAssignment,twinParents,present_some,bind_eq_ok,forM_eq_ok]
    refine ⟨(),requireRefMatches_eq_ok.mpr (twin_names _ _ _),(),requireRefMatches_eq_ok.mpr (twin_names _ _ _),
      fun row hrow => ?_⟩
    obtain ⟨hschedule,hpast⟩ := hassigned row hrow
    exact ⟨(),demand_eq_ok.mpr (decide_eq_true hschedule),demand_eq_ok.mpr (decide_eq_true hpast)⟩
  · simp only [requirePacketStages,hstages,present_some,bind_eq_ok]
    refine ⟨(),requireRefMatches_eq_ok.mpr (twin_names _ _ _),(),demand_eq_ok.mpr (decide_eq_true rfl),(),
      demand_eq_ok.mpr (decide_eq_true rfl),?_⟩
    simp only [requireSources,bind_eq_ok]
    exact ⟨(),demand_eq_ok.mpr (decide_eq_true rfl),(),demand_eq_ok.mpr (decide_eq_true rfl),(),
      demand_eq_ok.mpr (decide_eq_true rfl),demand_eq_ok.mpr (decide_eq_true rfl)⟩
  · exact List.forall_mem_cons.mpr ⟨hblock false,List.forall_mem_singleton.mpr (hblock true)⟩
  · decide
  · simp only [Parents.requireChains,twinParents,present_some,forM_eq_ok]
    exact List.forall_mem_cons.mpr ⟨hchain false,List.forall_mem_singleton.mpr (hchain true)⟩

def twinFiles : Files := fun relativePath => some [if relativePath = "records/block-b.json" then 2 else 1]

def twinDecoders : ParentDecoders where
  schedule := fun _ => .ok ⟨sampleEnvelope,twinSchedule.payload⟩
  freeze := fun _ => .ok ⟨sampleEnvelope,twinFreeze.payload⟩
  block := fun raw => .ok ⟨sampleEnvelope,(twinBlock (raw = [2])).payload⟩

def twinBlockRef (second : Bool) : ArtifactRef := twinRef "task_block" ("records/block-" ++ twinId second ++ ".json")

def twinRefs (reversed : Bool) : List ArtifactRef := [twinBlockRef reversed,twinBlockRef !reversed]

def twinReward (_ : ℚ) : String := "1.0"

def twinScheduled : List (TaskSchedule × TaskBlockPayload) :=
  [(twinEntry false,(twinBlock false).payload),(twinEntry true,(twinBlock true).payload)]

def twinProjection (reversed : Bool) : BlindedProjection where
  scheduleRef := twinRef "resampling_prefix_schedule" "records/schedule.json"
  analysisFreezeRef := twinRef "analysis_freeze" "records/freeze.json"
  taskBlockRefs := twinRefs reversed
  rows := twinScheduled.map projectedRow
  projectionCandidateSha256 := twinSha
  expectedTaskCount := 2

theorem twin_loaded {α : Type} (role : String) {relativePath field : String} {raw : Bytes}
    {decode : Bytes → Py (SealedRecord α)} {payload : α} (htop : topLevel relativePath ≠ "operational")
    (hfile : twinFiles relativePath = some raw) (hlength : raw.length = 1)
    (hdecode : decode raw = .ok ⟨sampleEnvelope,payload⟩) :
    loadDirectParent zeroPlatform twinFiles (twinRef role relativePath) field decode =
      .ok (twinDocument relativePath payload) := by
  simp only [loadDirectParent,bind_eq_ok,readRef_eq_ok]
  exact ⟨(),rfl,raw,⟨htop,hfile,rfl,hlength⟩,_,hdecode,rfl⟩

theorem twin_rebuilt : candidateFrom zeroPlatform twinReward twinScheduled =
    .ok (candidateOf zeroPlatform twinReward (twinScheduled.map reconstructed)) := by
  simp only [candidateFrom,buildCandidate,bind_eq_ok]
  exact ⟨twinScheduled.map reconstructed,rfl,(),rfl,rfl⟩

theorem twin_sealed (reversed : Bool) : sealBlindedProjection zeroPlatform twinReward twinDecoders twinFiles
    (twinRef "resampling_prefix_schedule" "records/schedule.json") (twinRef "analysis_freeze" "records/freeze.json")
    (twinRefs reversed) (candidateOf zeroPlatform twinReward (twinScheduled.map reconstructed)) =
      .ok ⟨sampleEnvelope,twinProjection reversed⟩ := by
  have hblock : ∀ second, loadDirectParent zeroPlatform twinFiles (twinBlockRef second) "task_block_ref"
      twinDecoders.block = .ok (twinBlock second) := by
    intro second
    cases second
    · exact twin_loaded _ (by decide) rfl rfl rfl
    · exact twin_loaded _ (by decide) rfl rfl rfl
  have hfrozen : verifyFrozenInputs zeroPlatform twinFiles twinFreeze.payload = .ok () := by
    simp only [verifyFrozenInputs,forM_eq_ok,bind_eq_ok,readRef_eq_ok]
    intro ref href
    rcases List.mem_pair.mp href with rfl | rfl
    · exact ⟨(),by decide,[1],⟨by decide,rfl,rfl,rfl⟩,rfl⟩
    · exact ⟨(),by decide,[1],⟨by decide,rfl,rfl,rfl⟩,rfl⟩
  have hfound : ∀ second, taskById [twinBlock reversed,twinBlock !reversed] (twinId second) = some (twinBlock second) := by
    intro second
    cases reversed <;> cases second <;> rfl
  simp only [sealBlindedProjection,bind_eq_ok,mapM_eq_ok,required_eq_ok]
  refine ⟨twinSchedule,twin_loaded _ (by decide) rfl rfl rfl,twinFreeze,twin_loaded _ (by decide) rfl rfl rfl,(),hfrozen,
    [twinBlock reversed,twinBlock !reversed],.cons (hblock _) (.cons (hblock _) .nil),twinScheduled,
    .cons ⟨_,hfound false,(),rfl,rfl⟩ (.cons ⟨_,hfound true,(),rfl,rfl⟩ .nil),_,twin_rebuilt,(),
    demand_eq_ok.mpr (decide_eq_true rfl),twinScheduled.map projectedRow,
    .cons ⟨_,hfound false,rfl⟩ (.cons ⟨_,hfound true,rfl⟩ .nil),(),?_,(),demand_eq_ok.mpr (decide_eq_true rfl),(),?_,rfl⟩
  · cases reversed <;> decide
  · cases reversed <;> decide

theorem twin_scanned {α : Type} {decode : Bytes → Py (SealedRecord α)} {relativePath : String} {raw : Bytes} {payload : α}
    (hfile : twinFiles relativePath = some raw) (hlength : raw.length = 1)
    (hdecode : decode raw = .ok ⟨sampleEnvelope,payload⟩) :
    (twinDocument relativePath payload).Scanned zeroPlatform twinFiles decode :=
  ⟨raw,⟨sampleEnvelope,payload⟩,hfile,hdecode,by rw [hlength]; rfl⟩

def twinInputs (reversed : Bool) : SealingInputs zeroPlatform twinReward twinDecoders twinFiles twinGraph
    (twinRef "resampling_prefix_schedule" "records/schedule.json") (twinRef "analysis_freeze" "records/freeze.json")
    (twinRefs reversed) where
  accepted := twinGraph_accepted twinReward
  unprojected := rfl
  blinded := ⟨rfl,rfl⟩
  schedule := twinSchedule
  schedules := rfl
  schedule_scanned := twin_scanned rfl rfl rfl
  schedule_named := rfl
  freeze := twinFreeze
  freezes := rfl
  freeze_scanned := twin_scanned rfl rfl rfl
  freeze_named := rfl
  blocks_scanned := List.forall_mem_cons.mpr ⟨twin_scanned rfl rfl rfl,
    List.forall_mem_singleton.mpr (twin_scanned rfl rfl rfl)⟩
  one_block := .refl _
  blocks_named := by
    cases reversed
    · exact .refl _
    · exact .swap _ _ _

theorem ordered_projection_accepted : validateScientificAncestry zeroPlatform twinReward
    (twinGraph.withProjection (twinDocument "records/projection.json" (twinProjection false))) = .ok () := by
  obtain ⟨haccepted,_⟩ := sealed_projection_accepted_iff zeroPlatform twinReward twinDecoders twinFiles twinGraph _ _ _
    (twinInputs false) _ _ (twin_sealed false) (twinDocument "records/projection.json" (twinProjection false)) rfl
  refine haccepted.mpr (.cons ⟨twinBlock false,List.mem_cons_self,rfl,rfl⟩ (.cons ⟨twinBlock true,?_,rfl,rfl⟩ .nil))
  exact List.mem_cons_of_mem _ List.mem_cons_self

theorem reversed_refs_refused : validateScientificAncestry zeroPlatform twinReward twinGraph = .ok () ∧
    ((twinRefs true).map ArtifactRef.relativePath).Perm (twinGraph.blocks.map Document.relativePath) ∧
    sealBlindedProjection zeroPlatform twinReward twinDecoders twinFiles
      (twinRef "resampling_prefix_schedule" "records/schedule.json") (twinRef "analysis_freeze" "records/freeze.json")
      (twinRefs true) (candidateOf zeroPlatform twinReward (twinScheduled.map reconstructed)) =
        .ok ⟨sampleEnvelope,twinProjection true⟩ ∧
    validateScientificAncestry zeroPlatform twinReward
      (twinGraph.withProjection (twinDocument "records/projection.json" (twinProjection true))) ≠ .ok () := by
  refine ⟨(twinInputs true).accepted,(twinInputs true).blocks_named,twin_sealed true,fun haccepted => ?_⟩
  have hparents : (twinGraph.withProjection (twinDocument "records/projection.json" (twinProjection true))).parents =
      .ok { twinParents with projection := some (twinDocument "records/projection.json" (twinProjection true)) } := rfl
  obtain ⟨_,_,hreconstructed,_⟩ := (ancestry_projected hparents rfl rfl rfl rfl).mp haccepted
  obtain ⟨block,hblock,hnames⟩ := (List.forall₂_cons.mp hreconstructed.refs).1
  have hfound : taskById twinGraph.blocks "a" = some (twinBlock false) := rfl
  obtain rfl : twinBlock false = block := Option.some.inj (hfound.symm.trans hblock)
  exact absurd (names_iff.mp hnames).1 (by decide)

end Sample

end PneumaLab.ResamplingNull
