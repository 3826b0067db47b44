import PneumaLab.Library.Keyed
import PneumaLab.ResamplingNull.Assignment.FirstOffset
import PneumaLab.ResamplingNull.Assignment.Sealing

namespace PneumaLab.ResamplingNull

section Search

variable {failure : ℕ → Option OffsetFailure}

theorem searchOffsets_some {remaining start offset : ℕ} {trials : List Json}
    (h : searchOffsets failure remaining start = (trials,some offset)) :
    ∃ count, count < remaining ∧ offset = start + count ∧ failure offset = none ∧
      trials = (List.range' start (count + 1)).map fun index => trialRow (failure index) index := by
  induction remaining generalizing start trials with
  | zero => exact absurd (congrArg Prod.snd h) (by simp [searchOffsets])
  | succ remaining ih =>
    rw [searchOffsets] at h
    split at h
    · rename_i hhit
      obtain ⟨htrials,hoffset⟩ := Prod.mk.inj h
      obtain rfl := Option.some.inj hoffset
      refine ⟨0,Nat.succ_pos _,rfl,hhit,?_⟩
      rw [← htrials]
      simp [hhit]
    · rename_i code hcode
      obtain ⟨htrials,hoffset⟩ := Prod.mk.inj h
      obtain ⟨count,hcount,rfl,hhit,hrows⟩ := ih (Prod.ext rfl hoffset)
      refine ⟨count + 1,Nat.succ_lt_succ hcount,by omega,hhit,?_⟩
      rw [← htrials,List.range'_succ,List.map_cons,hcode]
      exact congrArg _ hrows

end Search

theorem offsetFailure_congr {left right : String → String} {canonical cycle : List String} {offset : ℕ}
    (hcycle : ∀ x ∈ cycle, left x = right x) (hsame : ∀ x, x ∈ cycle ↔ x ∈ canonical) :
    offsetFailure left canonical cycle offset = offsetFailure right canonical cycle offset := by
  refine findSome?_congr fun focal hfocal => ?_
  have hmem : focal ∈ cycle := (hsame focal).mpr hfocal
  have hdonor := cyclicDonor_mem (List.ne_nil_of_mem hmem) offset focal
  simp only [hcycle focal hmem,hcycle _ hdonor]

structure Solved (tasks : List AssignmentPrefixTaskView) (stratumKey : List String)
    (viewSha256 programSha256 : String) (proof : List (String × Json))
    (selected : List (String × AssignmentPrefixTaskView)) (canonical : List AssignmentPrefixTaskView)
    (cycle : List CycleRow) (count : ℕ) : Prop where
  key_ne : stratumKey ≠ []
  key_text : "" ∉ stratumKey
  canonical_perm : canonical.Perm (tasks.filter fun task => task.triggerReason ≠ .noInterventionOpportunity)
  canonical_sorted : (canonical.map AssignmentPrefixTaskView.taskId).Pairwise (· ≤ ·)
  cycle_perm : (cycle.map CycleRow.taskId).Perm (canonical.map AssignmentPrefixTaskView.taskId)
  cycle_text : ∀ row ∈ cycle, isSha256 row.orderHmacSha256 = true
  count_lt : count < cycle.length - 1
  feasible : offsetFailure (lineageIn (tasks.filter fun task =>
    task.triggerReason ≠ .noInterventionOpportunity)) (canonical.map AssignmentPrefixTaskView.taskId)
      (cycle.map CycleRow.taskId) (1 + count) = none
  proof_eq : proof = proofObject viewSha256 programSha256 (canonical.map AssignmentPrefixTaskView.taskId) cycle
    ((List.range' 1 (count + 1)).map fun index => trialRow (offsetFailure (lineageIn (tasks.filter fun task =>
      task.triggerReason ≠ .noInterventionOpportunity)) (canonical.map AssignmentPrefixTaskView.taskId)
        (cycle.map CycleRow.taskId) index) index) (1 + count) stratumKey
  donors : ∀ task ∈ canonical, ∃ donor ∈ canonical, selected.lookup task.taskId = some donor ∧
    donor.taskId = cyclicDonor (cycle.map CycleRow.taskId) (1 + count) task.taskId
  selected_ids : ∀ x, x ∈ selected.map Prod.fst ↔ x ∈ canonical.map AssignmentPrefixTaskView.taskId

theorem pairwise_of_sorted {α : Type} (key : α → String) (xs : List α) :
    ((xs.insertionSort fun left right => key left ≤ key right).map key).Pairwise (· ≤ ·) := by
  have htotal : Std.Total fun left right : α => key left ≤ key right :=
    ⟨fun left right => le_total (key left) (key right)⟩
  have htrans : IsTrans α fun left right => key left ≤ key right := ⟨fun _ _ _ hab hbc => le_trans hab hbc⟩
  rw [List.pairwise_map]
  exact List.pairwise_insertionSort _ xs

theorem selectedDonors_eq {ordered : List AssignmentPrefixTaskView} {first : AssignmentPrefixTaskView}
    (hfirst : first ∈ ordered) (offset : ℕ) : selectedDonors ordered offset =
      ordered.zipIdx.map fun (focal,index) =>
        (focal.taskId,ordered.getD ((index + offset) % ordered.length) first) := by
  apply List.map_congr_left
  rintro ⟨focal,index⟩ _
  have hlt := Nat.mod_lt (index + offset) (List.length_pos_of_mem hfirst)
  simp only [List.getD_eq_getElem _ _ hlt]

theorem selectedDonors_lookup {ordered : List AssignmentPrefixTaskView} {task : AssignmentPrefixTaskView}
    (htask : task ∈ ordered) (offset : ℕ) : ∃ donor ∈ ordered,
      (selectedDonors ordered offset).lookup task.taskId = some donor ∧
        donor.taskId = cyclicDonor (ordered.map AssignmentPrefixTaskView.taskId) offset task.taskId := by
  have hkey : task.taskId ∈ ordered.map AssignmentPrefixTaskView.taskId := List.mem_map_of_mem htask
  have hlookup := lookup_zipIdx_map AssignmentPrefixTaskView.taskId
    (fun index => ordered.getD ((index + offset) % ordered.length) task) hkey 0
  have hlt := Nat.mod_lt ((ordered.map AssignmentPrefixTaskView.taskId).idxOf task.taskId + offset)
    (List.length_pos_of_mem htask)
  rw [Nat.zero_add,List.getD_eq_getElem _ _ hlt] at hlookup
  refine ⟨_,List.getElem_mem hlt,?_,?_⟩
  · rw [selectedDonors_eq htask]
    exact hlookup
  · rw [cyclicDonor,List.length_map,List.getD_eq_getElem _ _ (by rwa [List.length_map]),List.getElem_map]

theorem selectedDonors_keys (ordered : List AssignmentPrefixTaskView) (offset : ℕ) :
    (selectedDonors ordered offset).map Prod.fst = ordered.map AssignmentPrefixTaskView.taskId := by
  have hfst := List.zipIdx_map_fst 0 ordered
  conv_rhs => rw [← hfst]
  rw [selectedDonors,List.map_map,List.map_map]
  rfl

theorem orderDigest_snd {platform : Platform} {donorKey : Digest} {viewSha256 : String}
    {stratumKey : List String} {canonical : List AssignmentPrefixTaskView}
    {keyed : List (Digest × AssignmentPrefixTaskView)}
    (h : canonical.mapM (orderDigest platform donorKey viewSha256 stratumKey) = .ok keyed) :
    keyed.map Prod.snd = canonical := by
  rw [mapM_eq_ok] at h
  induction h with
  | nil => rfl
  | cons hrow _ ih =>
    simp only [orderDigest,bind_eq_ok] at hrow
    obtain ⟨_,_,_,_,hreturn⟩ := hrow
    cases hreturn
    rw [List.map_cons,ih]

theorem solved_of_solve {platform : Platform} {tasks : List AssignmentPrefixTaskView} {stratumKey : List String}
    {viewSha256 programSha256 : String} {donorKey : Digest} {proof : List (String × Json)}
    {selected : List (String × AssignmentPrefixTaskView)}
    (h : solveSyntheticStratum platform tasks stratumKey viewSha256 programSha256 donorKey =
      .ok (proof,selected)) :
    ∃ canonical cycle count, Solved tasks stratumKey viewSha256 programSha256 proof selected canonical cycle
      count := by
  simp only [solveSyntheticStratum,bind_eq_ok,demand_eq_ok,Bool.and_eq_true,Bool.not_eq_true',
    List.isEmpty_eq_false_iff,List.all_eq_true,decide_eq_true_eq] at h
  obtain ⟨_,⟨hkeyNe,hkeyText⟩,_,_,keyed,hkeyed,⟨fields,offset⟩,hsolve,hreturn⟩ := h
  obtain ⟨hproof,hselected⟩ := Prod.mk.inj (Except.ok.inj hreturn)
  simp only at hproof hselected
  generalize htriggered : tasks.filter (fun task => decide (task.triggerReason ≠ .noInterventionOpportunity)) =
    triggered at hkeyed hsolve
  generalize hcanonical : triggered.insertionSort (fun left right => left.taskId ≤ right.taskId) =
    canonical at hkeyed hsolve
  generalize hordered : keyed.insertionSort (fun left right => orderBefore left right = true) = ordered at hsolve hselected
  have hperm : (ordered.map Prod.snd).Perm canonical := by
    rw [← orderDigest_snd hkeyed,← hordered]
    exact (List.perm_insertionSort _ keyed).map Prod.snd
  have hids : (ordered.map fun row => (⟨row.1.hex,row.2.taskId⟩ : CycleRow)).map CycleRow.taskId =
      (ordered.map Prod.snd).map AssignmentPrefixTaskView.taskId := by
    rw [List.map_map,List.map_map]
    rfl
  simp only [solveCycle,bind_eq_ok,demand_eq_ok] at hsolve
  obtain ⟨_,_,hfound⟩ := hsolve
  split at hfound
  · rename_i trials found hsearch
    obtain ⟨hfields,hoffset⟩ := Prod.mk.inj (Except.ok.inj hfound)
    obtain ⟨count,hcount,rfl,hhit,htrials⟩ := searchOffsets_some hsearch
    refine ⟨canonical,ordered.map fun row => ⟨row.1.hex,row.2.taskId⟩,count,?_⟩
    constructor
    · exact hkeyNe
    · exact fun hmem => hkeyText "" hmem rfl
    · rw [htriggered,← hcanonical]
      exact List.perm_insertionSort _ _
    · rw [← hcanonical]
      exact pairwise_of_sorted AssignmentPrefixTaskView.taskId triggered
    · rw [hids]
      exact hperm.map AssignmentPrefixTaskView.taskId
    · intro row hrow
      obtain ⟨source,_,rfl⟩ := List.mem_map.mp hrow
      exact Digest.isSha256_hex _
    · exact hcount
    · rw [htriggered]
      exact hhit
    · rw [← hproof,← hfields,htrials,htriggered]
    · intro task htask
      obtain ⟨donor,hdonor,hlookup,hid⟩ := selectedDonors_lookup (hperm.mem_iff.mpr htask) (1 + count)
      refine ⟨donor,hperm.mem_iff.mp hdonor,?_,?_⟩
      · rw [← hselected,← hoffset]
        exact hlookup
      · rw [hids]
        exact hid
    · intro x
      rw [← hselected,selectedDonors_keys]
      exact (hperm.map AssignmentPrefixTaskView.taskId).mem_iff
  · exact absurd hfound (by simp)

theorem cyclicDonor_surjective {cycle : List String} (hnodup : cycle.Nodup) (offset : ℕ) {x : String}
    (hx : x ∈ cycle) : ∃ focal ∈ cycle, cyclicDonor cycle offset focal = x := by
  have hn := List.length_pos_of_mem hx
  have hj := List.idxOf_lt_length_of_mem hx
  have hi := Nat.mod_lt (cycle.idxOf x + (cycle.length - offset % cycle.length)) hn
  refine ⟨_,List.getElem_mem hi,?_⟩
  have hback : ((cycle.idxOf x + (cycle.length - offset % cycle.length)) % cycle.length + offset) %
      cycle.length = cycle.idxOf x := by
    have hoffset := Nat.mod_add_div offset cycle.length
    have hle := (Nat.mod_lt offset hn).le
    have hsum : cycle.idxOf x + (cycle.length - offset % cycle.length) + offset =
        cycle.idxOf x + cycle.length * (offset / cycle.length + 1) := by
      rw [Nat.mul_add,Nat.mul_one]
      omega
    rw [Nat.mod_add_mod,hsum,Nat.add_mul_mod_self_left,Nat.mod_eq_of_lt hj]
  rw [cyclicDonor,hnodup.idxOf_getElem,hback,List.getD_eq_getElem _ _ hj,List.getElem_idxOf hj]

theorem lookup_map_self {ids : List String} (value : String → String) {x : String} (hx : x ∈ ids) :
    (ids.map fun id => (id,value id)).lookup x = some (value x) := by
  induction ids with
  | nil => exact absurd hx List.not_mem_nil
  | cons id ids ih =>
    rw [List.map_cons,List.lookup_cons]
    by_cases he : x = id
    · subst he
      simp
    · rw [beq_false_of_ne he]
      exact ih ((List.mem_cons.mp hx).resolve_left he)

theorem acceptsTrial_trialRow (failure : Option OffsetFailure) (index : ℕ) :
    acceptsTrial index (failure.map OffsetFailure.code) (trialRow failure index) = true := by
  cases failure <;> simp [acceptsTrial,trialRow,failureJson,Json.get,equalsIndex]

theorem mem_zipIdx_range' {α : Type} {row : ℕ → α} {count index : ℕ} {x : α}
    (h : (x,index) ∈ ((List.range' 1 count).map row).zipIdx 1) : x = row index := by
  rw [List.mk_mem_zipIdx_iff_le_and_getElem?_sub] at h
  obtain ⟨hle,hget⟩ := h
  obtain ⟨hlt,rfl⟩ := List.getElem?_eq_some_iff.mp hget
  rw [List.getElem_map,List.getElem_range',Nat.one_mul,Nat.add_sub_cancel' hle]

namespace Solved

variable {tasks : List AssignmentPrefixTaskView} {stratumKey : List String} {viewSha256 programSha256 : String}
  {proof : List (String × Json)} {selected : List (String × AssignmentPrefixTaskView)}
  {canonical : List AssignmentPrefixTaskView} {cycle : List CycleRow} {count : ℕ}

def ids (canonical : List AssignmentPrefixTaskView) : List String :=
  canonical.map AssignmentPrefixTaskView.taskId

theorem mem_tasks (h : Solved tasks stratumKey viewSha256 programSha256 proof selected canonical cycle count)
    {task : AssignmentPrefixTaskView} (htask : task ∈ canonical) :
    task ∈ tasks ∧ task.triggerReason ≠ .noInterventionOpportunity := by
  have hmem := h.canonical_perm.mem_iff.mp htask
  simpa using List.mem_filter.mp hmem

theorem ids_nodup (h : Solved tasks stratumKey viewSha256 programSha256 proof selected canonical cycle count)
    (hids : (tasks.map AssignmentPrefixTaskView.taskId).Nodup) : (ids canonical).Nodup := by
  have hsub := (List.filter_sublist (l := tasks) (p := fun task =>
    decide (task.triggerReason ≠ .noInterventionOpportunity))).map AssignmentPrefixTaskView.taskId
  exact (h.canonical_perm.map AssignmentPrefixTaskView.taskId).nodup_iff.mpr (hids.sublist hsub)

theorem cycle_same (h : Solved tasks stratumKey viewSha256 programSha256 proof selected canonical cycle count)
    (x : String) : x ∈ cycle.map CycleRow.taskId ↔ x ∈ ids canonical := h.cycle_perm.mem_iff

theorem ids_ne (h : Solved tasks stratumKey viewSha256 programSha256 proof selected canonical cycle count) :
    ids canonical ≠ [] := by
  intro hnil
  have hlength := h.cycle_perm.length_eq
  rw [show canonical.map AssignmentPrefixTaskView.taskId = [] from hnil,List.length_map,List.length_nil] at hlength
  have := h.count_lt
  omega

theorem lineage_agrees {lineages : List (String × String)}
    (h : Solved tasks stratumKey viewSha256 programSha256 proof selected canonical cycle count)
    (hids : (tasks.map AssignmentPrefixTaskView.taskId).Nodup)
    (hlineage : ∀ task ∈ tasks, lineages.lookup task.taskId = some task.lineage) {x : String}
    (hx : x ∈ ids canonical) : lineageIn (tasks.filter fun task =>
      task.triggerReason ≠ .noInterventionOpportunity) x = lineageAt lineages x := by
  obtain ⟨task,htask,rfl⟩ := List.mem_map.mp hx
  have htriggered := h.canonical_perm.mem_iff.mp htask
  have hsub := (List.filter_sublist (l := tasks) (p := fun task =>
    decide (task.triggerReason ≠ .noInterventionOpportunity))).map AssignmentPrefixTaskView.taskId
  rw [lineageIn,find_of_nodup (hids.sublist hsub) htriggered,
    lineageAt_of_lookup (hlineage task (h.mem_tasks htask).1)]
  rfl

theorem feasible_at {lineages : List (String × String)}
    (h : Solved tasks stratumKey viewSha256 programSha256 proof selected canonical cycle count)
    (hids : (tasks.map AssignmentPrefixTaskView.taskId).Nodup)
    (hlineage : ∀ task ∈ tasks, lineages.lookup task.taskId = some task.lineage) (offset : ℕ) :
    offsetFailure (lineageIn (tasks.filter fun task => task.triggerReason ≠ .noInterventionOpportunity))
        (ids canonical) (cycle.map CycleRow.taskId) offset =
      offsetFailure (lineageAt lineages) (ids canonical) (cycle.map CycleRow.taskId) offset :=
  offsetFailure_congr (fun x hx => h.lineage_agrees hids hlineage ((h.cycle_same x).mp hx)) h.cycle_same

def mapping (canonical : List AssignmentPrefixTaskView) (cycle : List CycleRow) (count : ℕ) :
    List (String × String) :=
  (ids canonical).map fun focal => (focal,cyclicDonor (cycle.map CycleRow.taskId) (1 + count) focal)

theorem feasibleMapping {lineages : List (String × String)}
    (h : Solved tasks stratumKey viewSha256 programSha256 proof selected canonical cycle count)
    (hids : (tasks.map AssignmentPrefixTaskView.taskId).Nodup)
    (hlineage : ∀ task ∈ tasks, lineages.lookup task.taskId = some task.lineage) :
    FeasibleMapping lineages (mapping canonical cycle count) (ids canonical) := by
  have hnone := h.feasible
  rw [show canonical.map AssignmentPrefixTaskView.taskId = ids canonical from rfl,
    h.feasible_at hids hlineage,offsetFailure_eq_none] at hnone
  have hcycle : (cycle.map CycleRow.taskId).Nodup := h.cycle_perm.nodup_iff.mpr (h.ids_nodup hids)
  have hdonor : ∀ x ∈ ids canonical,
      cyclicDonor (cycle.map CycleRow.taskId) (1 + count) x ∈ ids canonical := fun x hx =>
    (h.cycle_same _).mp (cyclicDonor_mem (List.ne_nil_of_mem ((h.cycle_same x).mpr hx)) _ x)
  have hknown : ∀ x ∈ ids canonical, (lineages.lookup x).isSome := by
    intro x hx
    obtain ⟨task,htask,rfl⟩ := List.mem_map.mp hx
    rw [hlineage task (h.mem_tasks htask).1]
    rfl
  constructor
  · intro x
    rw [mapping,List.map_map]
    exact Eq.to_iff (congrArg (x ∈ ·) (List.map_id _))
  · intro x
    rw [mapping,List.map_map]
    constructor
    · intro hx
      obtain ⟨focal,hfocal,rfl⟩ := List.mem_map.mp hx
      exact hdonor focal hfocal
    · intro hx
      obtain ⟨focal,hfocal,rfl⟩ := cyclicDonor_surjective hcycle (1 + count) ((h.cycle_same x).mpr hx)
      exact List.mem_map.mpr ⟨focal,(h.cycle_same focal).mp hfocal,rfl⟩
  · intro row hrow
    obtain ⟨focal,hfocal,rfl⟩ := List.mem_map.mp hrow
    exact fun he => (hnone focal hfocal).1 (congrArg _ he)
  · intro row hrow
    obtain ⟨focal,hfocal,rfl⟩ := List.mem_map.mp hrow
    exact ⟨hknown focal hfocal,hknown _ (hdonor focal hfocal)⟩
  · intro row hrow
    obtain ⟨focal,hfocal,rfl⟩ := List.mem_map.mp hrow
    exact (hnone focal hfocal).1
  · intro row hrow
    obtain ⟨focal,hfocal,rfl⟩ := List.mem_map.mp hrow
    rw [mapping,lookup_map_self _ (hdonor focal hfocal)]
    exact fun he => (hnone focal hfocal).2 (Option.some.inj he)

def grammar (canonical : List AssignmentPrefixTaskView) (cycle : List CycleRow) (count : ℕ)
    (trials : List Json) (stratumKey : List String) : ProofGrammar where
  focalIds := ids canonical
  donorRows := (mapping canonical cycle count).map donorPair
  cycleRows := cycle.map CycleRow.json
  trials := trials
  selectedOffset := 1 + count
  stratumKey := stratumKey

theorem cycleRows_read (h : Solved tasks stratumKey viewSha256 programSha256 proof selected canonical cycle count) :
    cycleTaskIds (ids canonical) (cycle.map CycleRow.json) = .ok (cycle.map CycleRow.taskId) := by
  refine cycleTaskIds_eq_ok.mpr ⟨?_,h.cycle_perm.length_eq,h.cycle_same⟩
  rw [mapM_eq_some,List.forall₂_map_left_iff,List.forall₂_map_right_iff,List.forall₂_same]
  intro row hrow
  exact cycleTaskId_eq_some.mpr ⟨_,row.orderHmacSha256,rfl,rfl,rfl,h.cycle_text row hrow⟩

theorem verified {lineages : List (String × String)}
    (h : Solved tasks stratumKey viewSha256 programSha256 proof selected canonical cycle count)
    (hids : (tasks.map AssignmentPrefixTaskView.taskId).Nodup)
    (hlineage : ∀ task ∈ tasks, lineages.lookup task.taskId = some task.lineage) :
    ∃ trials, verifyProof lineages viewSha256 programSha256 proof =
      .ok (grammar canonical cycle count trials stratumKey,mapping canonical cycle count) := by
  refine ⟨(List.range' 1 (count + 1)).map fun index => trialRow (offsetFailure (lineageIn (tasks.filter fun task =>
    task.triggerReason ≠ .noInterventionOpportunity)) (ids canonical) (cycle.map CycleRow.taskId) index) index,?_⟩
  have hdonorRows : (mapping canonical cycle count).map donorPair = (ids canonical).map fun focal =>
      .arr [.str focal,.str (cyclicDonor (cycle.map CycleRow.taskId) (1 + count) focal)] := by
    rw [mapping,List.map_map]
    rfl
  have htext : "" ∉ ids canonical := by
    intro hmem
    obtain ⟨task,_,he⟩ := List.mem_map.mp hmem
    exact task.task.taskId_nonempty he
  refine verifyProof_eq_ok.mpr ⟨cycle.map CycleRow.taskId,?_,?_,?_,?_,?_,h.cycleRows_read,?_,?_⟩
  · rw [h.proof_eq]
    rfl
  · rw [h.proof_eq]
    rfl
  · constructor
    · rw [h.proof_eq]
      rfl
    · exact h.ids_ne
    · exact htext
    · exact h.ids_nodup hids
    · exact h.canonical_sorted
    · rw [grammar,hdonorRows,h.proof_eq]
      rfl
    · rw [grammar,List.length_map,mapping,List.length_map]
    · rw [h.proof_eq]
      rfl
    · rw [h.proof_eq]
      rfl
    · rw [grammar,List.length_map,List.length_range',Nat.add_comm]
    · rw [h.proof_eq]
      rfl
    · exact Nat.le_add_right 1 count
    · rw [h.proof_eq]
      rfl
    · exact h.key_ne
    · exact h.key_text
  · refine (donorMapping_eq_some ?_).mpr ⟨?_,rfl⟩
    · rw [grammar,List.length_map,mapping,List.length_map]
    · rw [mapping,List.map_map]
      exact List.map_id _
  · exact infeasibleMapping_eq_false.mpr (h.feasibleMapping hids hlineage)
  · rw [sameDict,Bool.and_eq_true,decide_eq_true_eq,List.all_eq_true]
    constructor
    · rw [mapping,List.length_map,offsetMapping,List.length_map,List.length_zipIdx,h.cycle_perm.length_eq]
      rfl
    · intro row hrow
      obtain ⟨focal,hfocal,rfl⟩ := List.mem_map.mp hrow
      exact decide_eq_true (lookup_offsetMapping ((h.cycle_same focal).mpr hfocal) (1 + count))
  · rw [acceptsTrials,List.all_eq_true]
    rintro ⟨trial,index⟩ htrial
    rw [mem_zipIdx_range' htrial,h.feasible_at hids hlineage]
    simp only [grammar,expectedFailure_eq h.cycle_same]
    exact acceptsTrial_trialRow _ index

theorem proof_exact (h : Solved tasks stratumKey viewSha256 programSha256 proof selected canonical cycle count) :
    (Json.obj proof).Exact := by
  rw [h.proof_eq]
  apply proofObject_exact
  intro trial htrial
  obtain ⟨index,_,rfl⟩ := List.mem_map.mp htrial
  exact trialRow_exact _ index

theorem proof_closed (h : Solved tasks stratumKey viewSha256 programSha256 proof selected canonical cycle count) :
    ClosedProof proof := by
  rw [h.proof_eq]
  exact proofObject_closed ..

theorem proof_key (h : Solved tasks stratumKey viewSha256 programSha256 proof selected canonical cycle count) :
    Json.get proof "stratum_key" = .arr (stratumKey.map .str) := by
  rw [h.proof_eq]
  rfl

end Solved

end PneumaLab.ResamplingNull
