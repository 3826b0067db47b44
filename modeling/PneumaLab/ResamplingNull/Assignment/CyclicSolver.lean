import PneumaLab.Library.Raises
import PneumaLab.ResamplingNull.Assignment.SolverVerified

namespace PneumaLab.ResamplingNull

def triggeredTasks (tasks : List AssignmentPrefixTaskView) : List AssignmentPrefixTaskView :=
  tasks.filter fun task => task.triggerReason ≠ .noInterventionOpportunity

def canonicalTasks (tasks : List AssignmentPrefixTaskView) : List AssignmentPrefixTaskView :=
  (triggeredTasks tasks).insertionSort fun left right => left.taskId ≤ right.taskId

def cycleOrder (platform : Platform) (tasks : List AssignmentPrefixTaskView) (stratumKey : List String)
    (viewSha256 : String) (donorKey : Digest) : Py (List (Digest × AssignmentPrefixTaskView)) := do
  let keyed ← (canonicalTasks tasks).mapM (orderDigest platform donorKey viewSha256 stratumKey)
  return keyed.insertionSort fun left right => orderBefore left right

def cycleIds (ordered : List (Digest × AssignmentPrefixTaskView)) : List String :=
  ordered.map fun row => row.2.taskId

section Constraints

inductive Breaks (triggered : List AssignmentPrefixTaskView) (cycle : List String) (offset : ℕ)
    (focal : AssignmentPrefixTaskView) : OffsetFailure → Prop where
  | sameLineage {donor : AssignmentPrefixTaskView} (hdonor : donor ∈ triggered)
      (hid : donor.taskId = cyclicDonor cycle offset focal.taskId) (hlineage : focal.lineage = donor.lineage) :
      Breaks triggered cycle offset focal .sameLineage
  | reciprocalTwoCycle {donor : AssignmentPrefixTaskView} (hdonor : donor ∈ triggered)
      (hid : donor.taskId = cyclicDonor cycle offset focal.taskId) (hlineage : focal.lineage ≠ donor.lineage)
      (hback : cyclicDonor cycle offset donor.taskId = focal.taskId) :
      Breaks triggered cycle offset focal .reciprocalTwoCycle

def ValidOffset (triggered : List AssignmentPrefixTaskView) (cycle : List String) (offset : ℕ) : Prop :=
  ∀ focal ∈ triggered, ∀ reason, ¬ Breaks triggered cycle offset focal reason

def FirstReason (triggered canonical : List AssignmentPrefixTaskView) (cycle : List String) (offset : ℕ)
    (reason : OffsetFailure) : Prop :=
  ∃ front focal back, canonical = front ++ focal :: back ∧
    (∀ earlier ∈ front, ∀ other, ¬ Breaks triggered cycle offset earlier other) ∧
    Breaks triggered cycle offset focal reason

def taskFailure (lineage : String → String) (cycle : List String) (offset : ℕ) (focal : String) :
    Option OffsetFailure :=
  if lineage focal = lineage (cyclicDonor cycle offset focal) then some .sameLineage
  else if cyclicDonor cycle offset (cyclicDonor cycle offset focal) = focal then some .reciprocalTwoCycle
  else none

theorem offsetFailure_eq (lineage : String → String) (canonical : List AssignmentPrefixTaskView) (cycle : List String)
    (offset : ℕ) : offsetFailure lineage (canonical.map AssignmentPrefixTaskView.taskId) cycle offset =
      canonical.findSome? fun focal => taskFailure lineage cycle offset focal.taskId := by
  rw [offsetFailure,List.findSome?_map]
  rfl

variable {triggered : List AssignmentPrefixTaskView} {cycle : List String}

theorem lineageIn_of_mem (hids : (triggered.map AssignmentPrefixTaskView.taskId).Nodup)
    {task : AssignmentPrefixTaskView} (htask : task ∈ triggered) : lineageIn triggered task.taskId = task.lineage := by
  rw [lineageIn,find_of_nodup hids htask]
  rfl

theorem donor_task (hcycle : cycle.Perm (triggered.map AssignmentPrefixTaskView.taskId)) (offset : ℕ)
    {focal : AssignmentPrefixTaskView} (hfocal : focal ∈ triggered) :
    ∃ donor ∈ triggered, donor.taskId = cyclicDonor cycle offset focal.taskId := by
  have hmem : focal.taskId ∈ cycle := hcycle.mem_iff.mpr (List.mem_map_of_mem hfocal)
  have hdonor := cyclicDonor_mem (List.ne_nil_of_mem hmem) offset focal.taskId
  exact List.mem_map.mp (hcycle.mem_iff.mp hdonor)

theorem taskFailure_eq_some (hids : (triggered.map AssignmentPrefixTaskView.taskId).Nodup)
    (hcycle : cycle.Perm (triggered.map AssignmentPrefixTaskView.taskId)) {offset : ℕ}
    {focal : AssignmentPrefixTaskView} (hfocal : focal ∈ triggered) {reason : OffsetFailure} :
    taskFailure (lineageIn triggered) cycle offset focal.taskId = some reason ↔
      Breaks triggered cycle offset focal reason := by
  obtain ⟨donor,hdonor,hid⟩ := donor_task hcycle offset hfocal
  have honly (other : AssignmentPrefixTaskView) (hother : other ∈ triggered)
      (hsame : other.taskId = cyclicDonor cycle offset focal.taskId) : other = donor :=
    List.inj_on_of_nodup_map hids hother hdonor (hsame.trans hid.symm)
  rw [taskFailure,← hid,lineageIn_of_mem hids hfocal,lineageIn_of_mem hids hdonor]
  split
  · next hlineage =>
    constructor
    · intro h
      cases h
      exact .sameLineage hdonor hid hlineage
    · intro h
      cases h with
      | sameLineage => rfl
      | reciprocalTwoCycle hother hsame hdiffer =>
        rw [honly _ hother hsame] at hdiffer
        exact absurd hlineage hdiffer
  · next hdiffer =>
    split
    · next hback =>
      constructor
      · intro h
        cases h
        exact .reciprocalTwoCycle hdonor hid hdiffer hback
      · intro h
        cases h with
        | sameLineage hother hsame hlineage =>
          rw [honly _ hother hsame] at hlineage
          exact absurd hlineage hdiffer
        | reciprocalTwoCycle => rfl
    · next hforward =>
      constructor
      · intro h
        cases h
      · intro h
        cases h with
        | sameLineage hother hsame hlineage =>
          rw [honly _ hother hsame] at hlineage
          exact absurd hlineage hdiffer
        | reciprocalTwoCycle hother hsame _ hback =>
          rw [honly _ hother hsame] at hback
          exact absurd hback hforward

variable {canonical : List AssignmentPrefixTaskView}

theorem offsetFailure_eq_some (hids : (triggered.map AssignmentPrefixTaskView.taskId).Nodup)
    (hcycle : cycle.Perm (triggered.map AssignmentPrefixTaskView.taskId)) (hcanonical : canonical.Perm triggered)
    {offset : ℕ} {reason : OffsetFailure} :
    offsetFailure (lineageIn triggered) (canonical.map AssignmentPrefixTaskView.taskId) cycle offset = some reason ↔
      FirstReason triggered canonical cycle offset reason := by
  have hnone (task : AssignmentPrefixTaskView) (htask : task ∈ triggered) :
      taskFailure (lineageIn triggered) cycle offset task.taskId = none ↔
        ∀ other, ¬ Breaks triggered cycle offset task other := by
    rw [Option.eq_none_iff_forall_not_mem]
    exact forall_congr' fun other => not_congr (taskFailure_eq_some hids hcycle htask)
  rw [offsetFailure_eq,List.findSome?_eq_some_iff]
  constructor
  · rintro ⟨front,focal,back,hsplit,hfocal,hfront⟩
    have hmem (task : AssignmentPrefixTaskView) (htask : task ∈ front ++ focal :: back) : task ∈ triggered :=
      hcanonical.mem_iff.mp (hsplit ▸ htask)
    refine ⟨front,focal,back,hsplit,fun earlier hearlier => ?_,?_⟩
    · exact (hnone earlier (hmem earlier (List.mem_append_left _ hearlier))).mp (hfront earlier hearlier)
    · exact (taskFailure_eq_some hids hcycle (hmem focal (by simp))).mp hfocal
  · rintro ⟨front,focal,back,hsplit,hfront,hfocal⟩
    have hmem (task : AssignmentPrefixTaskView) (htask : task ∈ front ++ focal :: back) : task ∈ triggered :=
      hcanonical.mem_iff.mp (hsplit ▸ htask)
    refine ⟨front,focal,back,hsplit,?_,fun earlier hearlier => ?_⟩
    · exact (taskFailure_eq_some hids hcycle (hmem focal (by simp))).mpr hfocal
    · exact (hnone earlier (hmem earlier (List.mem_append_left _ hearlier))).mpr (hfront earlier hearlier)

theorem offsetFailure_valid (hids : (triggered.map AssignmentPrefixTaskView.taskId).Nodup)
    (hcycle : cycle.Perm (triggered.map AssignmentPrefixTaskView.taskId)) (hcanonical : canonical.Perm triggered)
    {offset : ℕ} : offsetFailure (lineageIn triggered) (canonical.map AssignmentPrefixTaskView.taskId) cycle offset =
      none ↔ ValidOffset triggered cycle offset := by
  rw [offsetFailure_eq,List.findSome?_eq_none_iff]
  constructor
  · intro h focal hfocal reason hbreaks
    have hnone := h focal (hcanonical.mem_iff.mpr hfocal)
    rw [(taskFailure_eq_some hids hcycle hfocal).mpr hbreaks] at hnone
    cases hnone
  · intro h focal hfocal
    have hmem := hcanonical.mem_iff.mp hfocal
    rw [Option.eq_none_iff_forall_not_mem]
    exact fun reason hreason => h focal hmem reason ((taskFailure_eq_some hids hcycle hmem).mp hreason)

end Constraints

section Errors

def IsValueError (e : Raised) : Prop := ∃ message, e = .valueError message

theorem demand_valueError (condition : Bool) (message : String) :
    RaisesOnly IsValueError (demand condition (.valueError message)) := by
  cases condition
  · exact .raised ⟨message,rfl⟩
  · exact .returned ()

variable (platform : Platform)

theorem fromHex_valueError (text : String) : RaisesOnly IsValueError (fromHex text) := by
  rw [fromHex]
  split
  · exact .returned _
  · exact .raised ⟨_,rfl⟩

theorem textPayload_valueError (text : String) : RaisesOnly IsValueError (textPayload platform text) :=
  .bind (demand_valueError _ _) fun _ _ => .bind (demand_valueError _ _) fun _ _ =>
    .bind (demand_valueError _ _) fun _ _ => .bind (demand_valueError _ _) fun _ _ => .returned _

theorem u32_valueError (value : ℕ) : RaisesOnly IsValueError (u32 value) :=
  .bind (demand_valueError _ _) fun _ _ => .returned _

theorem fieldPayload_valueError (field : FrameField) : RaisesOnly IsValueError (fieldPayload platform field) := by
  cases field with
  | u64 value => exact .bind (demand_valueError _ _) fun _ _ => .returned _
  | text value => exact .bind (textPayload_valueError platform value) fun _ _ => .returned _
  | bytes value => exact .bind (demand_valueError _ _) fun _ _ => .returned _

theorem kdfFrame_valueError (tag : String) (fields : List FrameField) :
    RaisesOnly IsValueError (kdfFrame platform tag fields) :=
  .bind (textPayload_valueError platform tag) fun _ _ => .bind (demand_valueError _ _) fun _ _ =>
    .bind (u32_valueError _) fun _ _ => .bind (u32_valueError _) fun _ _ =>
      .foldlM (fun _ field => .bind (fieldPayload_valueError platform field) fun _ _ =>
        .bind (u32_valueError _) fun _ _ => .returned _) _ _

theorem cycleOrder_valueError (tasks : List AssignmentPrefixTaskView) (stratumKey : List String)
    (viewSha256 : String) (donorKey : Digest) :
    RaisesOnly IsValueError (cycleOrder platform tasks stratumKey viewSha256 donorKey) :=
  .bind (.mapM (fun _ => .bind (fromHex_valueError _) fun _ _ =>
    .bind (kdfFrame_valueError platform _ _) fun _ _ => .returned _) _) fun _ _ => .returned _

end Errors

section Solver

variable {platform : Platform} {tasks : List AssignmentPrefixTaskView} {stratumKey : List String}
  {viewSha256 programSha256 : String} {donorKey : Digest}

def noValidOffset : Raised := .recordValidationError "synthetic stratum has no valid cyclic offset"

theorem noValidOffset_not_valueError : ¬ IsValueError noValidOffset := by
  rintro ⟨message,h⟩
  cases h

structure DonorPlan (tasks : List AssignmentPrefixTaskView) (ordered : List (Digest × AssignmentPrefixTaskView))
    (proof : List (String × Json)) (selected : List (String × AssignmentPrefixTaskView)) (offset : ℕ) : Prop where
  offset_pos : 1 ≤ offset
  offset_lt : offset < ordered.length
  focals : (selected.map Prod.fst).Perm ((triggeredTasks tasks).map AssignmentPrefixTaskView.taskId)
  donors : (selected.map Prod.snd).Perm (triggeredTasks tasks)
  rotates : ∀ row ∈ selected, row.2.taskId = cyclicDonor (cycleIds ordered) offset row.1
  feasible : ∀ focal ∈ triggeredTasks tasks, ∀ donor, (focal.taskId,donor) ∈ selected →
    donor.taskId ≠ focal.taskId ∧ donor.lineage ≠ focal.lineage ∧
      ∀ back, (donor.taskId,back) ∈ selected → back.taskId ≠ focal.taskId
  valid : ValidOffset (triggeredTasks tasks) (cycleIds ordered) offset
  least : ∀ earlier, 1 ≤ earlier → earlier < offset → ¬ ValidOffset (triggeredTasks tasks) (cycleIds ordered) earlier
  selected_offset : Json.get proof "selected_offset" = .int offset
  trials : ∃ reason : ℕ → OffsetFailure,
    (∀ earlier, 1 ≤ earlier → earlier < offset →
      FirstReason (triggeredTasks tasks) (canonicalTasks tasks) (cycleIds ordered) earlier (reason earlier)) ∧
    Json.get proof "offset_trials" = .arr
      ((List.range' 1 (offset - 1)).map (fun earlier => trialRow (some (reason earlier)) earlier) ++
        [trialRow none offset])

theorem triggered_nodup (hids : (tasks.map AssignmentPrefixTaskView.taskId).Nodup) :
    ((triggeredTasks tasks).map AssignmentPrefixTaskView.taskId).Nodup :=
  hids.sublist (List.filter_sublist.map _)

theorem canonical_perm (tasks : List AssignmentPrefixTaskView) : (canonicalTasks tasks).Perm (triggeredTasks tasks) :=
  List.perm_insertionSort _ _

theorem canonical_lineages (hids : (tasks.map AssignmentPrefixTaskView.taskId).Nodup) :
    ((canonicalTasks tasks).map AssignmentPrefixTaskView.taskId).map (lineageIn (triggeredTasks tasks)) =
      (canonicalTasks tasks).map AssignmentPrefixTaskView.lineage := by
  rw [List.map_map]
  refine List.map_congr_left fun task htask => ?_
  exact lineageIn_of_mem (triggered_nodup hids) ((canonical_perm tasks).mem_iff.mp htask)

theorem ordered_perm {ordered : List (Digest × AssignmentPrefixTaskView)}
    (h : cycleOrder platform tasks stratumKey viewSha256 donorKey = .ok ordered) :
    (ordered.map Prod.snd).Perm (triggeredTasks tasks) := by
  rw [cycleOrder,bind_eq_ok] at h
  obtain ⟨keyed,hkeyed,h⟩ := h
  cases h
  have hsorted := (List.perm_insertionSort (fun left right => orderBefore left right = true) keyed).map Prod.snd
  rw [orderDigest_snd hkeyed] at hsorted
  exact hsorted.trans (canonical_perm tasks)

theorem cycleIds_eq (ordered : List (Digest × AssignmentPrefixTaskView)) :
    cycleIds ordered = (ordered.map Prod.snd).map AssignmentPrefixTaskView.taskId := by
  rw [cycleIds,List.map_map]
  rfl

theorem selectedDonors_rotate (ordered : List AssignmentPrefixTaskView) (offset : ℕ) :
    (selectedDonors ordered offset).map Prod.snd = ordered.rotate offset := by
  refine List.ext_getElem ?_ fun index hleft hright => ?_
  · simp [selectedDonors]
  · rw [List.length_rotate] at hright
    have hlt : (index + offset) % ordered.length < ordered.length := Nat.mod_lt _ (Nat.zero_lt_of_lt hright)
    rw [List.getElem_rotate]
    simp [selectedDonors,List.getElem?_eq_getElem hlt]

theorem selectedDonors_mem {ordered : List AssignmentPrefixTaskView}
    (hids : (ordered.map AssignmentPrefixTaskView.taskId).Nodup) {offset : ℕ} {row : String × AssignmentPrefixTaskView}
    (hrow : row ∈ selectedDonors ordered offset) :
    row.2.taskId = cyclicDonor (ordered.map AssignmentPrefixTaskView.taskId) offset row.1 := by
  have hkeys := selectedDonors_keys ordered offset
  have hkey : row.1 ∈ ordered.map AssignmentPrefixTaskView.taskId := hkeys ▸ List.mem_map_of_mem hrow
  obtain ⟨task,htask,hid⟩ := List.mem_map.mp hkey
  obtain ⟨donor,_,hlookup,hdonor⟩ := selectedDonors_lookup htask offset
  have hfound : (selectedDonors ordered offset).lookup row.1 = some row.2 :=
    lookup_of_mem (hkeys ▸ hids) hrow
  rw [hid,hfound] at hlookup
  rw [Option.some.inj hlookup,hdonor,hid]

theorem solve_eq : solveSyntheticStratum platform tasks stratumKey viewSha256 programSha256 donorKey = do
    demand (!stratumKey.isEmpty && stratumKey.all fun component => component ≠ "")
      (.valueError "stratum_key must be a non-empty strict-text tuple")
    demand (isSha256 viewSha256 && isSha256 programSha256)
      (.valueError "must be a lowercase SHA-256 digest")
    let ordered ← cycleOrder platform tasks stratumKey viewSha256 donorKey
    let (proof,offset) ← solveCycle (lineageIn (triggeredTasks tasks))
      ((canonicalTasks tasks).map AssignmentPrefixTaskView.taskId) (ordered.map fun row => ⟨row.1.hex,row.2.taskId⟩)
      stratumKey viewSha256 programSha256
    return (proof,selectedDonors (ordered.map Prod.snd) offset) := by
  simp only [solveSyntheticStratum,cycleOrder,bind_assoc,pure_bind]
  rfl

theorem searchOffsets_none {failure : ℕ → Option OffsetFailure} {remaining start : ℕ} {trials : List Json}
    (h : searchOffsets failure remaining start = (trials,none)) {offset : ℕ} (hstart : start ≤ offset)
    (hend : offset < start + remaining) : failure offset ≠ none := by
  induction remaining generalizing start trials with
  | zero => omega
  | succ remaining ih =>
    rw [searchOffsets] at h
    split at h
    · cases h
    · next hcode =>
      obtain ⟨_,hrest⟩ := Prod.mk.inj h
      obtain rfl | hlater := Nat.eq_or_lt_of_le hstart
      · rw [hcode]
        exact Option.some_ne_none _
      · exact ih (Prod.ext rfl hrest) hlater (by omega)

theorem searchOffsets_skipped {failure : ℕ → Option OffsetFailure} {remaining start offset : ℕ} {trials : List Json}
    (h : searchOffsets failure remaining start = (trials,some offset)) {earlier : ℕ} (hstart : start ≤ earlier)
    (hend : earlier < offset) : failure earlier ≠ none := by
  induction remaining generalizing start trials with
  | zero => cases h
  | succ remaining ih =>
    rw [searchOffsets] at h
    split at h
    · obtain ⟨_,hoffset⟩ := Prod.mk.inj h
      cases hoffset
      exact absurd hend (not_lt.mpr hstart)
    · next hcode =>
      obtain ⟨_,hrest⟩ := Prod.mk.inj h
      obtain rfl | hlater := Nat.eq_or_lt_of_le hstart
      · rw [hcode]
        exact Option.some_ne_none _
      · exact ih (Prod.ext rfl hrest) hlater

theorem donorPlan_of_search (hids : (tasks.map AssignmentPrefixTaskView.taskId).Nodup)
    {ordered : List (Digest × AssignmentPrefixTaskView)}
    (hordered : (ordered.map Prod.snd).Perm (triggeredTasks tasks)) {trials : List Json} {offset : ℕ}
    {rows : List CycleRow}
    (hsearch : searchOffsets (offsetFailure (lineageIn (triggeredTasks tasks))
      ((canonicalTasks tasks).map AssignmentPrefixTaskView.taskId) (cycleIds ordered)) (ordered.length - 1) 1 =
        (trials,some offset)) :
    DonorPlan tasks ordered
      (proofObject viewSha256 programSha256 ((canonicalTasks tasks).map AssignmentPrefixTaskView.taskId) rows trials
        offset stratumKey) (selectedDonors (ordered.map Prod.snd) offset) offset := by
  have htriggered := triggered_nodup hids
  have hcycle : (cycleIds ordered).Perm ((triggeredTasks tasks).map AssignmentPrefixTaskView.taskId) := by
    rw [cycleIds_eq]
    exact hordered.map _
  have hnodup : ((ordered.map Prod.snd).map AssignmentPrefixTaskView.taskId).Nodup :=
    (hordered.map AssignmentPrefixTaskView.taskId).nodup_iff.mpr htriggered
  obtain ⟨count,hcount,rfl,hhit,htrials⟩ := searchOffsets_some hsearch
  have hvalid := (offsetFailure_valid htriggered hcycle (canonical_perm tasks)).mp hhit
  have hrotates (row : String × AssignmentPrefixTaskView)
      (hrow : row ∈ selectedDonors (ordered.map Prod.snd) (1 + count)) :
      row.2.taskId = cyclicDonor (cycleIds ordered) (1 + count) row.1 := by
    rw [cycleIds_eq]
    exact selectedDonors_mem hnodup hrow
  have hdonors : ((selectedDonors (ordered.map Prod.snd) (1 + count)).map Prod.snd).Perm (triggeredTasks tasks) := by
    rw [selectedDonors_rotate]
    exact (List.rotate_perm _ _).trans hordered
  have hskipped (earlier : ℕ) (hpos : 1 ≤ earlier) (hlt : earlier < 1 + count) :
      ∃ reason, offsetFailure (lineageIn (triggeredTasks tasks))
        ((canonicalTasks tasks).map AssignmentPrefixTaskView.taskId) (cycleIds ordered) earlier = some reason :=
    Option.ne_none_iff_exists'.mp (searchOffsets_skipped hsearch hpos hlt)
  refine {
    offset_pos := Nat.le_add_right 1 count
    offset_lt := by omega
    focals := ?_
    donors := hdonors
    rotates := hrotates
    feasible := ?_
    valid := hvalid
    least := ?_
    selected_offset := rfl
    trials := ?_ }
  · rw [selectedDonors_keys]
    exact hordered.map _
  · intro focal hfocal donor hmem
    have hid := hrotates _ hmem
    have hdonor : donor ∈ triggeredTasks tasks := hdonors.mem_iff.mp (List.mem_map_of_mem hmem)
    have hlineage : donor.lineage ≠ focal.lineage :=
      fun he => hvalid focal hfocal _ (.sameLineage hdonor hid he.symm)
    refine ⟨fun he => hlineage ?_,hlineage,fun back hback he => ?_⟩
    · rw [List.inj_on_of_nodup_map htriggered hdonor hfocal he]
    · have hreturn := hrotates _ hback
      exact hvalid focal hfocal _ (.reciprocalTwoCycle hdonor hid hlineage.symm (hreturn.symm.trans he))
  · intro earlier hpos hlt hearlier
    obtain ⟨reason,hreason⟩ := hskipped earlier hpos hlt
    rw [(offsetFailure_valid htriggered hcycle (canonical_perm tasks)).mpr hearlier] at hreason
    cases hreason
  · let reason (earlier : ℕ) : OffsetFailure := (offsetFailure (lineageIn (triggeredTasks tasks))
      ((canonicalTasks tasks).map AssignmentPrefixTaskView.taskId) (cycleIds ordered) earlier).getD .sameLineage
    have hreason (earlier : ℕ) (hpos : 1 ≤ earlier) (hlt : earlier < 1 + count) :
        offsetFailure (lineageIn (triggeredTasks tasks))
          ((canonicalTasks tasks).map AssignmentPrefixTaskView.taskId) (cycleIds ordered) earlier =
            some (reason earlier) := by
      obtain ⟨found,hfound⟩ := hskipped earlier hpos hlt
      change _ = some (Option.getD _ _)
      rw [hfound]
      rfl
    refine ⟨reason,fun earlier hpos hlt => ?_,?_⟩
    · exact (offsetFailure_eq_some htriggered hcycle (canonical_perm tasks)).mp (hreason earlier hpos hlt)
    · change Json.arr trials = _
      rw [htrials,List.range'_1_concat,List.map_append,List.map_singleton,hhit,Nat.add_sub_cancel_left]
      refine congrArg (fun rows => Json.arr (rows ++ _)) (List.map_congr_left fun earlier hearlier => ?_)
      obtain ⟨hpos,hlt⟩ := List.mem_range'_1.mp hearlier
      rw [hreason earlier hpos hlt]

theorem synthetic_solver_exact (hids : (tasks.map AssignmentPrefixTaskView.taskId).Nodup) :
    (∀ proof selected,
      solveSyntheticStratum platform tasks stratumKey viewSha256 programSha256 donorKey = .ok (proof,selected) →
      ∃ ordered offset, cycleOrder platform tasks stratumKey viewSha256 donorKey = .ok ordered ∧
        (ordered.map Prod.snd).Perm (triggeredTasks tasks) ∧ DonorPlan tasks ordered proof selected offset) ∧
    (solveSyntheticStratum platform tasks stratumKey viewSha256 programSha256 donorKey = .error noValidOffset →
      3 ≤ ((triggeredTasks tasks).map AssignmentPrefixTaskView.lineage).dedup.length ∧
      ∃ ordered, cycleOrder platform tasks stratumKey viewSha256 donorKey = .ok ordered ∧
        (ordered.map Prod.snd).Perm (triggeredTasks tasks) ∧
        ∀ offset, 1 ≤ offset → offset < ordered.length →
          ¬ ValidOffset (triggeredTasks tasks) (cycleIds ordered) offset) := by
  have hrows (ordered : List (Digest × AssignmentPrefixTaskView)) :
      (ordered.map fun row => (⟨row.1.hex,row.2.taskId⟩ : CycleRow)).map CycleRow.taskId = cycleIds ordered := by
    rw [List.map_map]
    rfl
  constructor
  · intro proof selected h
    rw [solve_eq] at h
    simp only [bind_eq_ok] at h
    obtain ⟨_,_,_,_,ordered,hordered,⟨fields,offset⟩,hcycle,hreturn⟩ := h
    cases hreturn
    have hperm := ordered_perm hordered
    simp only [solveCycle,bind_eq_ok,hrows,List.length_map] at hcycle
    obtain ⟨_,_,hsearch⟩ := hcycle
    split at hsearch
    · next trials found hfound =>
      cases hsearch
      exact ⟨ordered,_,hordered,hperm,donorPlan_of_search hids hperm hfound⟩
    · cases hsearch
  · intro h
    have hother (x : Py Unit) (hx : RaisesOnly IsValueError x) : x ≠ .error noValidOffset := fun he =>
      noValidOffset_not_valueError (hx _ he)
    rw [solve_eq] at h
    obtain hstratum | ⟨_,_,h⟩ := bind_eq_error.mp h
    · exact absurd hstratum (hother _ (demand_valueError _ _))
    obtain hdigests | ⟨_,_,h⟩ := bind_eq_error.mp h
    · exact absurd hdigests (hother _ (demand_valueError _ _))
    obtain horder | ⟨ordered,hordered,h⟩ := bind_eq_error.mp h
    · exact absurd (cycleOrder_valueError platform tasks stratumKey viewSha256 donorKey _ horder)
        noValidOffset_not_valueError
    obtain hcycle | ⟨_,_,hreturn⟩ := bind_eq_error.mp h
    · have hperm := ordered_perm hordered
      have hids' := triggered_nodup hids
      have hcycleIds : (cycleIds ordered).Perm ((triggeredTasks tasks).map AssignmentPrefixTaskView.taskId) := by
        rw [cycleIds_eq]
        exact hperm.map _
      rw [solveCycle] at hcycle
      obtain hfew | ⟨_,hlineages,hsearch⟩ := bind_eq_error.mp hcycle
      · exact absurd hfew (by
          rw [demand]
          split <;> simp [noValidOffset])
      · rw [hrows,List.length_map] at hsearch
        have hmany := of_decide_eq_true (demand_eq_ok.mp hlineages)
        rw [canonical_lineages hids,((canonical_perm tasks).map AssignmentPrefixTaskView.lineage).dedup.length_eq] at hmany
        split at hsearch
        · cases hsearch
        · next trials hnone =>
          refine ⟨hmany,ordered,hordered,hperm,fun offset hpos hlt hvalid => ?_⟩
          exact searchOffsets_none hnone hpos (by omega)
            ((offsetFailure_valid hids' hcycleIds (canonical_perm tasks)).mpr hvalid)
    · cases hreturn

theorem component_named : "component" ≠ "" := by decide

theorem first_named : "a" ≠ "" := by decide

theorem second_named : "b" ≠ "" := by decide

theorem third_named : "c" ≠ "" := by decide

def cyclicView (taskId : String) (h : taskId ≠ "") : AssignmentPrefixTaskView where
  task := sampleTask taskId h
  triggerReason := .firstEligibleMutation
  verifierComponentClass := "component"
  objectiveFindingCount := 0
  normalizedReportTokenCount := 0
  telecomIssueFamily := none
  class_nonempty := component_named

def cyclicTasks : List AssignmentPrefixTaskView :=
  [cyclicView "a" first_named,cyclicView "b" second_named,cyclicView "c" third_named]

theorem three_lineages_solved : ∃ proof selected ordered offset,
    solveSyntheticStratum (samplePlatform 1) cyclicTasks ["s"] (sampleSha '3') (sampleSha '4') (sampleDigest 1) =
      .ok (proof,selected) ∧ DonorPlan cyclicTasks ordered proof selected offset := by
  have hok : (solveSyntheticStratum (samplePlatform 1) cyclicTasks ["s"] (sampleSha '3') (sampleSha '4')
      (sampleDigest 1)).isOk = true := by decide +kernel
  cases hsolved : solveSyntheticStratum (samplePlatform 1) cyclicTasks ["s"] (sampleSha '3') (sampleSha '4')
      (sampleDigest 1) with
  | error e =>
    rw [hsolved] at hok
    cases hok
  | ok result =>
    obtain ⟨ordered,offset,_,_,hplan⟩ := (synthetic_solver_exact (by decide)).1 result.1 result.2 hsolved
    exact ⟨result.1,result.2,ordered,offset,rfl,hplan⟩

end Solver

end PneumaLab.ResamplingNull
