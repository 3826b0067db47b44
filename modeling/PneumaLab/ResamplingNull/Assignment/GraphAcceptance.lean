import PneumaLab.ResamplingNull.Assignment.PublishedProof

namespace PneumaLab.ResamplingNull

theorem addCapabilities_eq_ok {rows : List (String × String × String)} {seen capabilities : List String} :
    rows.foldlM addCapability seen = .ok capabilities ↔
      (∀ row ∈ rows, row.2.1 = row.1 ∧ isSha256 row.2.2 = true) ∧
        (rows.map fun row => row.2.2).Nodup ∧ (∀ row ∈ rows, row.2.2 ∉ seen) ∧
          capabilities = seen ++ rows.map fun row => row.2.2 := by
  induction rows generalizing seen with
  | nil =>
    rw [List.foldlM_nil,List.map_nil,List.append_nil]
    constructor
    · intro h
      cases h
      exact ⟨fun _ h => absurd h List.not_mem_nil,List.nodup_nil,fun _ h => absurd h List.not_mem_nil,rfl⟩
    · rintro ⟨_,_,_,rfl⟩
      rfl
  | cons row rows ih =>
    rw [List.foldlM_cons,bind_eq_ok]
    constructor
    · rintro ⟨next,hstep,hrest⟩
      simp only [addCapability,bind_eq_ok,demand_eq_ok,Bool.and_eq_true,decide_eq_true_eq] at hstep
      obtain ⟨_,⟨⟨hid,hsha⟩,hfresh⟩,hnext⟩ := hstep
      cases hnext
      obtain ⟨hrows,hnodup,hseen,rfl⟩ := ih.mp hrest
      refine ⟨List.forall_mem_cons.mpr ⟨⟨hid,hsha⟩,hrows⟩,?_,?_,?_⟩
      · rw [List.map_cons,List.nodup_cons]
        refine ⟨fun hmem => ?_,hnodup⟩
        obtain ⟨other,hother,heq⟩ := List.mem_map.mp hmem
        exact hseen other hother (heq ▸ List.mem_append_right _ List.mem_cons_self)
      · rw [List.forall_mem_cons]
        exact ⟨hfresh,fun other hother hold => hseen other hother (List.mem_append_left _ hold)⟩
      · rw [List.map_cons,List.append_assoc,List.singleton_append]
    · rintro ⟨hrows,hnodup,hseen,rfl⟩
      rw [List.forall_mem_cons] at hrows hseen
      rw [List.map_cons,List.nodup_cons] at hnodup
      refine ⟨seen ++ [row.2.2],?_,ih.mpr ⟨hrows.2,hnodup.2,?_,?_⟩⟩
      · simp only [addCapability,bind_eq_ok,demand_eq_ok,Bool.and_eq_true,decide_eq_true_eq]
        exact ⟨(),⟨hrows.1,hseen.1⟩,rfl⟩
      · intro other hother hmem
        rcases List.mem_append.mp hmem with hold | hnew
        · exact hseen.2 other hother hold
        · exact hnodup.1 (List.mem_singleton.mp hnew ▸ List.mem_map_of_mem hother)
      · rw [List.map_cons,List.append_assoc,List.singleton_append]

structure AllocationAccepted (lineages : List (String × String)) (payload : LedgerPayload) (row : TaskSchedule)
    (assignment : TaskAssignment) (allocation : AllocationReceipt) : Prop where
  slots : allocation.slotIdsByOrdinal = row.slotIds
  lineage : lineages.lookup row.task.taskId = some assignment.taskLineage
  scheduleSha : assignment.scheduleSha256 = payload.scheduleRef.sha256
  prefixSha : assignment.prefixIndexSha256 = payload.prefixIndexRef.sha256
  arms : (reconstructArms allocation).map (row.slotIds.zip ·) = .ok assignment.slotArms
  capabilityIds : allocation.slotCapabilities.map Prod.fst = row.slotIds
  capabilityText : ∀ capability ∈ allocation.slotCapabilities, isSha256 capability.2 = true

theorem forall_zip_iff {α β : Type} {P : β → Prop} {ids : List α} {rows : List β}
    (h : rows.length ≤ ids.length) : (∀ pair ∈ ids.zip rows, P pair.2) ↔ ∀ row ∈ rows, P row := by
  have hsnd := List.map_snd_zip h
  constructor
  · intro hall row hrow
    rw [← hsnd] at hrow
    obtain ⟨pair,hpair,rfl⟩ := List.mem_map.mp hrow
    exact hall pair hpair
  · intro hall pair hpair
    exact hall pair.2 (List.of_mem_zip hpair).2

theorem forall_zip_fst_iff {ids : List String} {rows : List (String × String)}
    (h : rows.length = ids.length) : (∀ pair ∈ ids.zip rows, pair.2.1 = pair.1) ↔ rows.map Prod.fst = ids := by
  induction ids generalizing rows with
  | nil =>
    rw [List.length_eq_zero_iff.mp h]
    simp
  | cons id ids ih =>
    cases rows with
    | nil => exact absurd h (by simp)
    | cons row rows =>
      rw [List.zip_cons_cons,List.forall_mem_cons,ih (by simpa using h),List.map_cons,List.cons.injEq]

theorem verifyAllocation_eq_ok {lineages : List (String × String)} {payload : LedgerPayload}
    {row : TaskSchedule} {assignment : TaskAssignment} {allocation : AllocationReceipt}
    {seen capabilities : List String} :
    verifyAllocation lineages payload row assignment allocation seen = .ok capabilities ↔
      AllocationAccepted lineages payload row assignment allocation ∧
        (allocation.slotCapabilities.map Prod.snd).Nodup ∧
        (∀ capability ∈ allocation.slotCapabilities, capability.2 ∉ seen) ∧
        capabilities = seen ++ allocation.slotCapabilities.map Prod.snd := by
  simp only [verifyAllocation,bind_eq_ok,lineageOf_eq_ok,demand_eq_ok,Bool.and_eq_true,decide_eq_true_eq,
    addCapabilities_eq_ok]
  have hsplit (hlength : allocation.slotCapabilities.length = allocation.slotIdsByOrdinal.length) :
      (∀ pair ∈ allocation.slotIdsByOrdinal.zip allocation.slotCapabilities,
        pair.2.1 = pair.1 ∧ isSha256 pair.2.2 = true) ↔
          allocation.slotCapabilities.map Prod.fst = allocation.slotIdsByOrdinal ∧
            ∀ capability ∈ allocation.slotCapabilities, isSha256 capability.2 = true := by
    rw [← forall_zip_fst_iff hlength,← forall_zip_iff (P := fun row => isSha256 row.2 = true) hlength.le]
    exact forall₂_and
  have hvalues (hlength : allocation.slotCapabilities.length = allocation.slotIdsByOrdinal.length) :
      (allocation.slotIdsByOrdinal.zip allocation.slotCapabilities).map (fun pair => pair.2.2) =
        allocation.slotCapabilities.map Prod.snd := by
    calc (allocation.slotIdsByOrdinal.zip allocation.slotCapabilities).map (fun pair => pair.2.2)
      _ = ((allocation.slotIdsByOrdinal.zip allocation.slotCapabilities).map Prod.snd).map Prod.snd := by
        rw [List.map_map]
        rfl
      _ = allocation.slotCapabilities.map Prod.snd := by rw [List.map_snd_zip hlength.le]
  constructor
  · rintro ⟨lineage,hlineage,_,⟨⟨⟨hslots,hlin⟩,hschedule⟩,hindex⟩,arms,harms,_,hslotArms,_,hfour,hrows,hnodup,
      hseen,hcapabilities⟩
    have hlength : allocation.slotCapabilities.length = allocation.slotIdsByOrdinal.length := by
      rw [hslots,hfour,row.four]
    rw [hvalues hlength] at hnodup hcapabilities
    rw [hsplit hlength] at hrows
    refine ⟨⟨hslots,hlin ▸ hlineage,hschedule,hindex,?_,?_,hrows.2⟩,hnodup,?_,hcapabilities⟩
    · rw [harms,hslotArms,hslots]
      rfl
    · rw [← hslots,hrows.1]
    · exact (forall_zip_iff (P := fun capability => capability.2 ∉ seen) hlength.le).mp hseen
  · rintro ⟨h,hnodup,hseen,rfl⟩
    have hids : allocation.slotCapabilities.map Prod.fst = allocation.slotIdsByOrdinal := by
      rw [h.slots,h.capabilityIds]
    have hlength : allocation.slotCapabilities.length = allocation.slotIdsByOrdinal.length := by
      rw [← hids,List.length_map]
    have harms := h.arms
    cases hreconstructed : reconstructArms allocation with
    | error e => rw [hreconstructed] at harms; cases harms
    | ok arms =>
      rw [hreconstructed] at harms
      have hslotArms : row.slotIds.zip arms = assignment.slotArms := Except.ok.inj harms
      refine ⟨_,h.lineage,(),⟨⟨⟨h.slots,rfl⟩,h.scheduleSha⟩,h.prefixSha⟩,arms,rfl,(),?_,(),?_,?_,?_,?_,?_⟩
      · rw [h.slots,hslotArms]
      · rw [hlength,h.slots,row.four]
      · exact (hsplit hlength).mpr ⟨hids,h.capabilityText⟩
      · rwa [hvalues hlength]
      · exact (forall_zip_iff (P := fun capability => capability.2 ∉ seen) hlength.le).mpr hseen
      · rw [hvalues hlength]

def eligibleDonors (lineages : List (String × String)) (focalIds : List String) (taskId : String) :
    List String :=
  focalIds.filter fun candidate =>
    decide (candidate ≠ taskId) && decide (lineageAt lineages candidate ≠ lineageAt lineages taskId)

structure CandidatesAccepted (lineages : List (String × String)) (taskId : String) (proved : ProvedDonor)
    (receipt : MatchedDonorReceipt) : Prop where
  each : ∀ candidate ∈ receipt.candidates,
    acceptsCandidate lineages (eligibleDonors lineages proved.focalIds taskId) candidate = true
  count : receipt.candidates.length = (eligibleDonors lineages proved.focalIds taskId).length
  members : ∀ x, x ∈ receipt.candidates.map DonorCandidateReceipt.donorTaskId ↔
    x ∈ eligibleDonors lineages proved.focalIds taskId
  chosen : (receipt.candidates.reverse.find? fun candidate =>
    candidate.donorTaskId = proved.donor).map DonorCandidateReceipt.primaryCost = some receipt.chosenPrimaryCost

theorem verifyCandidates_eq_ok {lineages : List (String × String)} {taskId : String} {proved : ProvedDonor}
    {receipt : MatchedDonorReceipt} {u : Unit} :
    verifyCandidates lineages taskId proved receipt = .ok u ↔
      CandidatesAccepted lineages taskId proved receipt := by
  simp only [verifyCandidates,bind_eq_ok,demand_eq_ok,Bool.and_eq_true,decide_eq_true_eq,List.all_eq_true,
    sameMembers_eq_true]
  constructor
  · rintro ⟨_,heach,⟨hcount,hmembers⟩,hchosen⟩
    exact ⟨heach,hcount,hmembers,hchosen.symm⟩
  · intro h
    exact ⟨(),h.each,⟨h.count,h.members⟩,h.chosen.symm⟩

structure MatchedAccepted (lineages : List (String × String)) (payload : LedgerPayload) (row : TaskSchedule)
    (assignment : TaskAssignment) (proved : ProvedDonor) (stratumKey : List String)
    (receipt : MatchedDonorReceipt) : Prop where
  donor : receipt.donorTaskId = proved.donor
  lineage : receipt.taskLineage = lineageAt lineages row.task.taskId
  donorLineage : receipt.donorLineage = lineageAt lineages proved.donor
  mode : receipt.assignmentMode = .syntheticDerangement
  algorithm : receipt.matchingAlgorithm = .syntheticCyclicOffsetV1
  view : receipt.assignmentPrefixViewSha256 = payload.assignmentPrefixViewSha256
  stratum : receipt.stratumKey = stratumKey
  kind : assignment.donorMatchKind = .matched
  assignedDonor : assignment.donorTaskId = some proved.donor
  assignedLineage : assignment.donorLineage = some (lineageAt lineages proved.donor)
  proof : receipt.matchingProofRef = proved.ref
  candidates : CandidatesAccepted lineages row.task.taskId proved receipt

theorem verifyMatched_eq_ok {lineages : List (String × String)} {payload : LedgerPayload}
    {mapping : List ProvedDonor} {row : TaskSchedule} {assignment : TaskAssignment} {proved : ProvedDonor}
    {receipt : MatchedDonorReceipt} {u : Unit} :
    verifyMatched lineages payload mapping row assignment proved receipt = .ok u ↔
      ∃ other, mapping.find? (fun other => other.ref = receipt.matchingProofRef) = some other ∧
        MatchedAccepted lineages payload row assignment proved other.stratumKey receipt := by
  simp only [verifyMatched,bind_eq_ok,demand_eq_ok,Bool.and_eq_true,decide_eq_true_eq]
  cases hfind : mapping.find? fun other => other.ref = receipt.matchingProofRef with
  | none => simp
  | some other =>
    simp only [bind_eq_ok,demand_eq_ok,Bool.and_eq_true,decide_eq_true_eq,verifyCandidates_eq_ok,
      Option.some.injEq,exists_eq_left']
    constructor
    · rintro ⟨_,⟨⟨⟨⟨⟨hdonor,hlineage⟩,hdonorLineage⟩,hmode⟩,halgorithm⟩,hview⟩,_,
        ⟨⟨⟨⟨hstratum,hkind⟩,hassigned⟩,hassignedLineage⟩,hproof⟩,hcandidates⟩
      exact ⟨hdonor,hlineage,hdonorLineage,hmode,halgorithm,hview,hstratum,hkind,hassigned,hassignedLineage,
        hproof,hcandidates⟩
    · intro h
      exact ⟨(),⟨⟨⟨⟨⟨h.donor,h.lineage⟩,h.donorLineage⟩,h.mode⟩,h.algorithm⟩,h.view⟩,(),
        ⟨⟨⟨⟨h.stratum,h.kind⟩,h.assignedDonor⟩,h.assignedLineage⟩,h.proof⟩,h.candidates⟩

def DonorAccepted (lineages : List (String × String)) (payload : LedgerPayload) (mapping : List ProvedDonor)
    (row : TaskSchedule) (assignment : TaskAssignment) : DonorMatchReceipt → Prop
  | .matched receipt => ∃ proved other,
      mapping.find? (fun proved => proved.focal = row.task.taskId) = some proved ∧
        mapping.find? (fun other => other.ref = receipt.matchingProofRef) = some other ∧
          MatchedAccepted lineages payload row assignment proved other.stratumKey receipt
  | .noTrigger receipt =>
      mapping.find? (fun proved => proved.focal = row.task.taskId) = none ∧
        receipt = ⟨row.task.taskId,.noInterventionOpportunity,payload.assignmentPrefixViewSha256⟩ ∧
          assignment.donorMatchKind = .notApplicableNoTrigger ∧ assignment.donorTaskId = none ∧
            assignment.donorLineage = none

def matchedRef : DonorMatchReceipt → List ArtifactRef
  | .matched receipt => [receipt.matchingProofRef]
  | .noTrigger _ => []

abbrev GraphRow := TaskSchedule × TaskAssignment × AllocationReceipt × DonorMatchReceipt

namespace GraphRow

def capabilities (task : GraphRow) : List String := task.2.2.1.slotCapabilities.map Prod.snd

end GraphRow

structure TaskAccepted (lineages : List (String × String)) (payload : LedgerPayload)
    (mapping : List ProvedDonor) (task : GraphRow) : Prop where
  allocation : AllocationAccepted lineages payload task.1 task.2.1 task.2.2.1
  donor : DonorAccepted lineages payload mapping task.1 task.2.1 task.2.2.2

theorem verifyTask_eq_ok {lineages : List (String × String)} {payload : LedgerPayload}
    {mapping : List ProvedDonor} {state next : GraphState} {task : GraphRow} :
    verifyTask lineages payload mapping state task = .ok next ↔
      TaskAccepted lineages payload mapping task ∧ task.capabilities.Nodup ∧
        (∀ capability ∈ task.capabilities, capability ∉ state.capabilities) ∧
        next = ⟨state.capabilities ++ task.capabilities,matchedRef task.2.2.2 ++ state.reachable⟩ := by
  obtain ⟨row,assignment,allocation,donorReceipt⟩ := task
  have hseen (seen : List String) : (∀ capability ∈ GraphRow.capabilities (row,assignment,allocation,donorReceipt),
      capability ∉ seen) ↔ ∀ capability ∈ allocation.slotCapabilities, capability.2 ∉ seen := by
    rw [GraphRow.capabilities,List.forall_mem_map]
  rw [hseen]
  simp only [verifyTask,bind_eq_ok,verifyAllocation_eq_ok]
  cases hfind : mapping.find? fun proved => proved.focal = row.task.taskId with
  | none =>
    cases donorReceipt with
    | matched receipt =>
      simp only [bind_eq_ok,demand_eq_ok,Bool.and_eq_true,decide_eq_true_eq,reduceCtorEq,false_and,
        exists_false,and_false,false_iff,not_and]
      intro h
      obtain ⟨_,_,hproved,_⟩ := h.donor
      exact absurd (hfind.symm.trans hproved) (by simp)
    | noTrigger receipt =>
      simp only [bind_eq_ok,demand_eq_ok,Bool.and_eq_true,decide_eq_true_eq,Option.isNone_iff_eq_none]
      constructor
      · rintro ⟨_,⟨hallocation,hnodup,hfresh,rfl⟩,_,⟨⟨⟨hreceipt,hkind⟩,hdonor⟩,hlineage⟩,hnext⟩
        cases hnext
        exact ⟨⟨hallocation,hfind,DonorMatchReceipt.noTrigger.inj hreceipt,hkind,hdonor,hlineage⟩,hnodup,hfresh,rfl⟩
      · rintro ⟨⟨hallocation,_,hreceipt,hkind,hdonor,hlineage⟩,hnodup,hfresh,rfl⟩
        exact ⟨_,⟨hallocation,hnodup,hfresh,rfl⟩,(),
          ⟨⟨⟨congrArg DonorMatchReceipt.noTrigger hreceipt,hkind⟩,hdonor⟩,hlineage⟩,rfl⟩
  | some proved =>
    cases donorReceipt with
    | matched receipt =>
      simp only [bind_eq_ok,verifyMatched_eq_ok]
      constructor
      · rintro ⟨_,⟨hallocation,hnodup,hfresh,rfl⟩,_,⟨other,hother,hmatched⟩,hnext⟩
        cases hnext
        exact ⟨⟨hallocation,proved,other,hfind,hother,hmatched⟩,hnodup,hfresh,rfl⟩
      · rintro ⟨⟨hallocation,proved',other,hproved,hother,hmatched⟩,hnodup,hfresh,rfl⟩
        obtain rfl := Option.some.inj (hfind.symm.trans hproved)
        exact ⟨_,⟨hallocation,hnodup,hfresh,rfl⟩,(),⟨other,hother,hmatched⟩,rfl⟩
    | noTrigger receipt =>
      simp only [reduceCtorEq,and_false,exists_false,false_iff,not_and]
      intro h
      exact absurd (hfind.symm.trans h.donor.1) (by simp)

theorem verifyTasks_eq_ok {lineages : List (String × String)} {payload : LedgerPayload}
    {mapping : List ProvedDonor} {tasks : List GraphRow} {state next : GraphState} :
    tasks.foldlM (verifyTask lineages payload mapping) state = .ok next ↔
      (∀ task ∈ tasks, TaskAccepted lineages payload mapping task) ∧
        (tasks.flatMap GraphRow.capabilities).Nodup ∧
        (∀ capability ∈ tasks.flatMap GraphRow.capabilities, capability ∉ state.capabilities) ∧
        next = ⟨state.capabilities ++ tasks.flatMap GraphRow.capabilities,
          (tasks.reverse.flatMap fun task => matchedRef task.2.2.2) ++ state.reachable⟩ := by
  induction tasks generalizing state with
  | nil =>
    rw [List.foldlM_nil]
    constructor
    · intro h
      cases h
      exact ⟨fun _ h => absurd h List.not_mem_nil,List.nodup_nil,fun _ h => absurd h List.not_mem_nil,
        by simp⟩
    · rintro ⟨_,_,_,rfl⟩
      simp [pure,Except.pure]
  | cons task tasks ih =>
    rw [List.foldlM_cons,bind_eq_ok]
    simp only [verifyTask_eq_ok,ih,List.forall_mem_cons,List.flatMap_cons,List.nodup_append',
      List.forall_mem_append,List.reverse_cons,List.flatMap_append,List.flatMap_nil,List.append_nil]
    constructor
    · rintro ⟨mid,⟨htask,hnodup,hfresh,rfl⟩,htasks,hrest,hseen,rfl⟩
      simp only [List.mem_append,not_or] at hseen
      refine ⟨⟨htask,htasks⟩,⟨hnodup,hrest,fun c hc hr => (hseen c hr).2 hc⟩,
        ⟨hfresh,fun c hc => (hseen c hc).1⟩,?_⟩
      simp only [List.append_assoc]
    · rintro ⟨⟨htask,htasks⟩,⟨hnodup,hrest,hdisjoint⟩,⟨hfresh,hseen⟩,rfl⟩
      refine ⟨_,⟨htask,hnodup,hfresh,rfl⟩,htasks,hrest,?_,?_⟩
      · intro c hc hmem
        rcases List.mem_append.mp hmem with hold | hnew
        · exact hseen c hc hold
        · exact hdisjoint hnew hc
      · simp only [List.append_assoc]

abbrev LoadedProof := ArtifactRef × List (String × Json)

abbrev VerifiedPart := ProofGrammar × List (String × String)

def provedRows (proof : LoadedProof) (part : VerifiedPart) : List ProvedDonor :=
  part.2.map fun row => ⟨row.1,row.2,proof.1,part.1.stratumKey,part.1.focalIds⟩

theorem mergeProofs_ok {lineages : List (String × String)} {viewSha256 programSha256 : String}
    {proofs : List LoadedProof} {parts : List VerifiedPart} {start : List ProvedDonor}
    (hparts : List.Forall₂ (fun proof part =>
      verifyProof lineages viewSha256 programSha256 proof.2 = .ok part) proofs parts)
    (hfresh : ((start ++ (List.zipWith provedRows proofs parts).flatten).map ProvedDonor.focal).Nodup) :
    proofs.foldlM (mergeProof lineages viewSha256 programSha256) start =
      .ok (start ++ (List.zipWith provedRows proofs parts).flatten) := by
  induction hparts generalizing start with
  | nil =>
    rw [List.zipWith_nil_left,List.flatten_nil,List.append_nil]
    rfl
  | @cons proof part proofs parts hpart _ ih =>
    obtain ⟨grammar,rows⟩ := part
    rw [List.zipWith_cons_cons,List.flatten_cons,← List.append_assoc] at hfresh ⊢
    have hdisjoint : ∀ row ∈ rows, row.1 ∉ start.map ProvedDonor.focal := by
      intro row hrow hmem
      rw [List.map_append,List.map_append,List.nodup_append',List.nodup_append'] at hfresh
      apply hfresh.1.2.2 hmem
      rw [provedRows,List.map_map]
      exact List.mem_map.mpr ⟨row,hrow,rfl⟩
    have hstep : mergeProof lineages viewSha256 programSha256 start proof =
        .ok (start ++ provedRows proof (grammar,rows)) := by
      simp only [mergeProof,bind_eq_ok,demand_eq_ok,List.all_eq_true,decide_eq_true_eq]
      exact ⟨_,hpart,(),hdisjoint,rfl⟩
    rw [List.foldlM_cons,hstep,ok_bind]
    exact ih hfresh

theorem verifyProofs_ok {schedule : SchedulePayload} {taskReceipts : List PrefixReceipt}
    {payload : LedgerPayload} {proofs : List LoadedProof} {mapping : List ProvedDonor}
    (hmerge : proofs.foldlM (mergeProof (lineagesOf schedule) payload.assignmentPrefixViewSha256
      payload.matchingProgramRef.sha256) [] = .ok mapping)
    (hcover : ∀ x, x ∈ mapping.map ProvedDonor.focal ↔ x ∈ triggeredIds schedule taskReceipts)
    (htasks : ∀ task ∈ schedule.tasks.zip (payload.assignments.zip
      (payload.allocationReceipts.zip payload.donorMatchReceipts)),
        TaskAccepted (lineagesOf schedule) payload mapping task)
    (hcapabilities : ((schedule.tasks.zip (payload.assignments.zip
      (payload.allocationReceipts.zip payload.donorMatchReceipts))).flatMap GraphRow.capabilities).Nodup)
    (hrefs : ∀ row ∈ mapping, row.ref ∈ payload.matchingProofRefs) :
    verifyProofs schedule taskReceipts payload proofs = .ok () := by
  simp only [verifyProofs,bind_eq_ok,demand_eq_ok,verifyTasks_eq_ok,sameMembers_eq_true]
  refine ⟨_,hmerge,(),hcover,_,⟨htasks,hcapabilities,fun _ _ => List.not_mem_nil,rfl⟩,fun ref => ?_⟩
  constructor
  · intro hmem
    rcases List.mem_append.mp hmem with hmatched | hold
    · obtain ⟨task,htask,href⟩ := List.mem_flatMap.mp hmatched
      have haccepted := (htasks task (List.mem_reverse.mp htask)).donor
      cases hreceipt : task.2.2.2 with
      | matched receipt =>
        rw [hreceipt] at haccepted href
        obtain ⟨proved,_,hfind,_,hmatch⟩ := haccepted
        rw [List.mem_singleton.mp href,hmatch.proof]
        exact hrefs proved (List.mem_of_find?_eq_some hfind)
      | noTrigger receipt =>
        rw [hreceipt] at href
        exact absurd href List.not_mem_nil
    · exact hold
  · intro hmem
    exact List.mem_append_right _ hmem

end PneumaLab.ResamplingNull
