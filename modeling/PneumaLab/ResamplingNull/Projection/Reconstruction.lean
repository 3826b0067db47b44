import PneumaLab.ResamplingNull.Projection.Ancestry

namespace PneumaLab.ResamplingNull

section Blocks

variable {blocks others : List (Document TaskBlockPayload)} {taskId : String} {block : Document TaskBlockPayload}

theorem mem_of_taskById (h : taskById blocks taskId = some block) : block ∈ blocks ∧ block.payload.taskId = taskId := by
  obtain ⟨hmem,htask⟩ := key_of_find h
  exact ⟨List.mem_reverse.mp hmem,htask⟩

theorem taskById_eq_some (hkeys : (blocks.map fun block => block.payload.taskId).Nodup) :
    taskById blocks taskId = some block ↔ block ∈ blocks ∧ block.payload.taskId = taskId := by
  have hreversed : (blocks.reverse.map fun block => block.payload.taskId).Nodup := by
    rw [List.map_reverse]
    exact List.nodup_reverse.mpr hkeys
  rw [taskById]
  refine (find_key_eq_some hreversed).trans ?_
  rw [List.mem_reverse]

theorem taskById_perm (hperm : others.Perm blocks) (hkeys : (blocks.map fun block => block.payload.taskId).Nodup) :
    taskById others taskId = taskById blocks taskId := by
  have hothers : (others.map fun block => block.payload.taskId).Nodup := (hperm.map _).nodup_iff.mpr hkeys
  cases hfound : taskById blocks taskId with
  | some block =>
    obtain ⟨hmem,htask⟩ := mem_of_taskById hfound
    exact (taskById_eq_some hothers).mpr ⟨hperm.mem_iff.mpr hmem,htask⟩
  | none =>
    cases hother : taskById others taskId with
    | none => rfl
    | some block =>
      obtain ⟨hmem,htask⟩ := mem_of_taskById hother
      rw [(taskById_eq_some hkeys).mpr ⟨hperm.mem_iff.mp hmem,htask⟩] at hfound
      cases hfound

end Blocks

def reconstructed (pair : TaskSchedule × TaskBlockPayload) : CandidateRow where
  taskId := pair.1.task.taskId
  prefixSuccess := pair.2.prefixSuccess
  slots := blindedSlots pair.1.slotIds (pair.2.slotOutcomes.map stripped)

section Rebuild

variable {platform : Platform} {rewardText : ℚ → String} {scheduled : List (TaskSchedule × TaskBlockPayload)}
  {candidate : ProjectionCandidate}

theorem candidateFrom_rows (hids : (scheduled.map fun pair => pair.1.task.taskId).Nodup)
    (h : candidateFrom platform rewardText scheduled = .ok candidate) :
    candidate = candidateOf platform rewardText (scheduled.map reconstructed) ∧
      ∀ pair ∈ scheduled, pair.2.slotOutcomes.length = 4 ∧ buildCandidate platform rewardText
        [frozenRow pair.1 pair.2] [closedOutcomes pair.1 pair.2] =
          .ok (candidateOf platform rewardText [reconstructed pair]) := by
  obtain ⟨hcandidate,hrows⟩ := candidate_of_build h
  have hkeys : ((scheduled.map fun pair => closedOutcomes pair.1 pair.2).map Prod.fst).Nodup := by
    rw [List.map_map]
    exact hids
  have hrow : ∀ pair ∈ scheduled, ∀ row, candidateRow (scheduled.map fun pair => closedOutcomes pair.1 pair.2)
      (frozenRow pair.1 pair.2) = .ok row → row = reconstructed pair ∧ pair.2.slotOutcomes.length = 4 := by
    intro pair hpair row hbuilt
    obtain ⟨outcomes,hlookup,hfour,_,rfl⟩ := candidateRow_eq_ok hbuilt
    have hown : (scheduled.map fun pair => closedOutcomes pair.1 pair.2).lookup pair.1.task.taskId =
        some (pair.2.slotOutcomes.map stripped) :=
      lookup_of_mem hkeys (List.mem_map_of_mem (f := fun pair => closedOutcomes pair.1 pair.2) hpair)
    obtain rfl : pair.2.slotOutcomes.map stripped = outcomes := Option.some.inj (hown.symm.trans hlookup)
    exact ⟨rfl,by rwa [List.length_map] at hfour⟩
  rw [List.forall₂_map_left_iff] at hrows
  have hall : candidate.rows = scheduled.map reconstructed := by
    have hpairs : List.Forall₂ (fun pair row => reconstructed pair = row) scheduled candidate.rows := by
      refine ((List.forall₂_and_left _ _).mpr ⟨fun pair (hpair : pair ∈ scheduled) => hpair,hrows⟩).imp ?_
      rintro pair row ⟨hpair,_,hbuilt⟩
      exact (hrow pair hpair row hbuilt).1.symm
    rw [← List.map_id candidate.rows]
    exact (map_eq_of_forall₂ hpairs).symm
  refine ⟨hall ▸ hcandidate,fun pair hpair => ?_⟩
  obtain ⟨row,_,hname,hbuilt⟩ := exists_right_of_forall₂ hrows hpair
  obtain ⟨rfl,hfour⟩ := hrow pair hpair row hbuilt
  refine ⟨hfour,build_alone hname ?_ hbuilt⟩
  exact lookup_of_mem hkeys (List.mem_map_of_mem (f := fun pair => closedOutcomes pair.1 pair.2) hpair)

end Rebuild

section Accepted

variable {platform : Platform} {rewardText : ℚ → String} {blocks : List (Document TaskBlockPayload)}
  {schedule : FrozenSchedule} {scheduled : List (TaskSchedule × TaskBlockPayload)} {projection : BlindedProjection}

theorem scheduledBlocks_eq_ok : scheduledBlocks blocks schedule = .ok scheduled ↔
    List.Forall₂ (fun entry pair => pair.1 = entry ∧ ∃ block, taskById blocks entry.task.taskId = some block ∧
      pair.2 = block.payload) schedule.tasks scheduled := by
  have hstep : ∀ (entry : TaskSchedule) (pair : TaskSchedule × TaskBlockPayload), (do
      return (entry,(← required (.keyError entry.task.taskId) (taskById blocks entry.task.taskId)).payload) :
        Py (TaskSchedule × TaskBlockPayload)) = .ok pair ↔
      pair.1 = entry ∧ ∃ block, taskById blocks entry.task.taskId = some block ∧ pair.2 = block.payload := by
    intro entry pair
    simp only [bind_eq_ok,required_eq_ok]
    constructor
    · rintro ⟨block,hblock,hreturn⟩
      cases hreturn
      exact ⟨rfl,block,hblock,rfl⟩
    · rintro ⟨rfl,block,hblock,hpayload⟩
      exact ⟨block,hblock,hpayload ▸ rfl⟩
  rw [scheduledBlocks,mapM_eq_ok]
  exact ⟨fun h => h.imp fun entry pair => (hstep entry pair).mp,fun h => h.imp fun entry pair => (hstep entry pair).mpr⟩

theorem scheduled_tasks (h : scheduledBlocks blocks schedule = .ok scheduled) :
    scheduled.map Prod.fst = schedule.tasks := by
  rw [← List.map_id schedule.tasks]
  exact map_eq_of_forall₂ ((scheduledBlocks_eq_ok.mp h).imp fun _ _ hpair => hpair.1).flip

theorem scheduled_ids (h : scheduledBlocks blocks schedule = .ok scheduled) :
    scheduled.map (fun pair => pair.1.task.taskId) = schedule.taskIds := by
  rw [FrozenSchedule.taskIds,← scheduled_tasks h,List.map_map]
  rfl

theorem scheduled_block (h : scheduledBlocks blocks schedule = .ok scheduled) {pair : TaskSchedule × TaskBlockPayload}
    (hpair : pair ∈ scheduled) : pair.1 ∈ schedule.tasks ∧
      ∃ block, taskById blocks pair.1.task.taskId = some block ∧ pair.2 = block.payload := by
  obtain ⟨entry,hentry,hfst,hblock⟩ := exists_right_of_forall₂ (scheduledBlocks_eq_ok.mp h).flip hpair
  rw [hfst]
  exact ⟨hentry,hblock⟩

def projectedRow (pair : TaskSchedule × TaskBlockPayload) : ProjectionRow :=
  projectionRow pair.1 pair.2 (reconstructed pair).slots

def FollowSchedule (refs : List ArtifactRef) (blocks : List (Document TaskBlockPayload)) (schedule : FrozenSchedule) :
    Prop :=
  List.Forall₂ (fun ref taskId => ∃ block, taskById blocks taskId = some block ∧ ref.names block = true) refs
    schedule.taskIds

structure Reconstructed (platform : Platform) (rewardText : ℚ → String) (blocks : List (Document TaskBlockPayload))
    (schedule : FrozenSchedule) (projection : BlindedProjection) : Prop where
  covered : (∀ block ∈ blocks, block.payload.taskId ∈ schedule.taskIds) ∧
    ∀ taskId ∈ schedule.taskIds, taskId ∈ blocks.map fun block => block.payload.taskId
  refs : FollowSchedule projection.taskBlockRefs blocks schedule
  rows : ∃ scheduled, scheduledBlocks blocks schedule = .ok scheduled ∧ projection.rows = scheduled.map projectedRow ∧
    candidateFrom platform rewardText scheduled = .ok (candidateOf platform rewardText (scheduled.map reconstructed)) ∧
    projection.projectionCandidateSha256 = (candidateOf platform rewardText (scheduled.map reconstructed)).sha256

theorem refs_follow {refs : List ArtifactRef} (hlength : refs.length = schedule.taskIds.length) :
    ((refs.zip schedule.taskIds).forM fun (ref,taskId) => do
      let block ← required (.keyError taskId) (taskById blocks taskId)
      requireRefMatches ref block "projection task_block_refs" blockKind) = .ok () ↔
        FollowSchedule refs blocks schedule := by
  rw [forM_eq_ok,FollowSchedule,List.forall₂_iff_zip]
  simp only [bind_eq_ok,required_eq_ok,requireRefMatches_eq_ok]
  constructor
  · exact fun h => ⟨hlength,fun hmem => h _ hmem⟩
  · exact fun h pair hmem => h.2 hmem

theorem projected_of_rows (hscheduled : scheduledBlocks blocks schedule = .ok scheduled)
    (hrebuilt : ∀ pair ∈ scheduled, buildCandidate platform rewardText [frozenRow pair.1 pair.2]
      [closedOutcomes pair.1 pair.2] = .ok (candidateOf platform rewardText [reconstructed pair]))
    (hids : projection.rows.map ProjectionRow.taskId = schedule.taskIds) :
    (schedule.tasks.zip projection.rows).forM (requireProjectedRow platform rewardText blocks) = .ok () ↔
      projection.rows = scheduled.map projectedRow := by
  have hrow : ∀ pair ∈ scheduled, ∀ row, requireProjectedRow platform rewardText blocks (pair.1,row) = .ok () ↔
      row = projectedRow pair := by
    intro pair hpair row
    obtain ⟨_,block,hblock,hpayload⟩ := scheduled_block hscheduled hpair
    have hbuilt := hrebuilt pair hpair
    rw [hpayload] at hbuilt
    simp only [requireProjectedRow,hblock,bind_eq_ok,required_eq_ok,demand_eq_ok,decide_eq_true_eq]
    constructor
    · rintro ⟨_,hother,_,hcandidate,base,hbase,hsame⟩
      cases hother
      rw [hbuilt] at hcandidate
      cases hcandidate
      cases hbase
      rw [hsame,projectedRow,hpayload]
    · rintro rfl
      refine ⟨block,rfl,_,hbuilt,reconstructed pair,rfl,?_⟩
      rw [projectedRow,hpayload]
  have hlength : scheduled.length = projection.rows.length := by
    have hlengths := congrArg List.length (hids.trans (scheduled_ids hscheduled).symm)
    rw [List.length_map,List.length_map] at hlengths
    exact hlengths.symm
  rw [forM_eq_ok,← scheduled_tasks hscheduled]
  constructor
  · intro h
    have hpairs : List.Forall₂ (fun pair row => projectedRow pair = row) scheduled projection.rows := by
      rw [List.forall₂_iff_zip]
      refine ⟨hlength,fun {pair row} hmem => ((hrow pair (List.of_mem_zip hmem).1 row).mp (h (pair.1,row) ?_)).symm⟩
      rw [List.zip_map_left]
      exact List.mem_map_of_mem (f := Prod.map Prod.fst id) hmem
    rw [← List.map_id projection.rows]
    exact (map_eq_of_forall₂ hpairs).symm
  · intro hrows pair hmem
    rw [hrows,List.zip_map'] at hmem
    obtain ⟨other,hother,rfl⟩ := List.mem_map.mp hmem
    exact (hrow other hother _).mpr rfl

theorem requireReconstruction_eq_ok : requireReconstruction platform rewardText blocks schedule projection = .ok () ↔
    Reconstructed platform rewardText blocks schedule projection := by
  have hkeys : ∀ {scheduled}, scheduledBlocks blocks schedule = .ok scheduled →
      (scheduled.map fun pair => pair.1.task.taskId).Nodup :=
    fun hscheduled => scheduled_ids hscheduled ▸ schedule.distinct
  simp only [requireReconstruction,bind_eq_ok,demand_eq_ok,Bool.and_eq_true,List.all_eq_true,decide_eq_true_eq]
  constructor
  · rintro ⟨_,⟨⟨hblocks,htasks⟩,hids⟩,_,hlength,_,hrefs,_,hrows,scheduled,hscheduled,candidate,hcandidate,hsha⟩
    obtain ⟨hsame,hrebuilt⟩ := candidateFrom_rows (hkeys hscheduled) hcandidate
    rw [hsame] at hcandidate hsha
    exact ⟨⟨hblocks,htasks⟩,(refs_follow hlength).mp hrefs,scheduled,hscheduled,
      (projected_of_rows hscheduled (fun pair hpair => (hrebuilt pair hpair).2) hids).mp hrows,hcandidate,hsha⟩
  · rintro ⟨⟨hblocks,htasks⟩,hrefs,scheduled,hscheduled,hrows,hcandidate,hsha⟩
    obtain ⟨_,hrebuilt⟩ := candidateFrom_rows (hkeys hscheduled) hcandidate
    have hids : projection.rows.map ProjectionRow.taskId = schedule.taskIds := by
      rw [hrows,← scheduled_ids hscheduled,List.map_map]
      rfl
    have hlength := List.Forall₂.length_eq hrefs
    exact ⟨(),⟨⟨hblocks,htasks⟩,hids⟩,(),hlength,(),(refs_follow hlength).mpr hrefs,(),
      (projected_of_rows hscheduled (fun pair hpair => (hrebuilt pair hpair).2) hids).mpr hrows,scheduled,hscheduled,_,
      hcandidate,hsha⟩

end Accepted

end PneumaLab.ResamplingNull
