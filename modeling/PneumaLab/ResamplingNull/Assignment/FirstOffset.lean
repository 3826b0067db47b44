import Mathlib.Data.List.GetD
import PneumaLab.ResamplingNull.Assignment.GraphAcceptance

namespace PneumaLab.ResamplingNull

section Cycles

theorem findSome?_congr {α β : Type} {xs : List α} {f g : α → Option β} (h : ∀ x ∈ xs, f x = g x) :
    xs.findSome? f = xs.findSome? g := by
  induction xs with
  | nil => rfl
  | cons x xs ih =>
    obtain ⟨hx,hxs⟩ := List.forall_mem_cons.mp h
    rw [List.findSome?_cons,List.findSome?_cons,hx,ih hxs]

theorem lookup_zipIdx_map {α β : Type} (key : α → String) (value : ℕ → β) {xs : List α} {k : String}
    (hk : k ∈ xs.map key) (start : ℕ) : ((xs.zipIdx start).map fun (x,index) => (key x,value index)).lookup k =
      some (value (start + (xs.map key).idxOf k)) := by
  induction xs generalizing start with
  | nil => exact absurd hk List.not_mem_nil
  | cons x rest ih =>
    rw [List.zipIdx_cons,List.map_cons]
    by_cases he : k = key x
    · subst he
      simp
    · have hrest : k ∈ rest.map key := (List.mem_cons.mp hk).resolve_left he
      have hne : (key x == k) = false := beq_false_of_ne (Ne.symm he)
      have hindex : start + 1 + (rest.map key).idxOf k = start + ((rest.map key).idxOf k + 1) := by omega
      rw [List.map_cons,List.lookup_cons,beq_false_of_ne he,List.idxOf_cons,hne,cond_false,← hindex]
      exact ih hrest (start + 1)

theorem lookup_offsetMapping {cycle : List String} {focal : String} (hf : focal ∈ cycle) (offset : ℕ) :
    (offsetMapping cycle offset).lookup focal = some (cyclicDonor cycle offset focal) := by
  have h := lookup_zipIdx_map id (fun index => cycle.getD ((index + offset) % cycle.length) "")
    (by rwa [List.map_id]) 0
  rw [Nat.zero_add,List.map_id] at h
  exact h

theorem cyclicDonor_mem {cycle : List String} (hne : cycle ≠ []) (offset : ℕ) (focal : String) :
    cyclicDonor cycle offset focal ∈ cycle := by
  have hlt := Nat.mod_lt (cycle.idxOf focal + offset) (List.length_pos_iff.mpr hne)
  rw [cyclicDonor,List.getD_eq_getElem _ _ hlt]
  exact List.getElem_mem hlt

theorem cyclicDonor_mod (cycle : List String) (offset : ℕ) (focal : String) :
    cyclicDonor cycle (offset % cycle.length) focal = cyclicDonor cycle offset focal := by
  rw [cyclicDonor,cyclicDonor,Nat.add_mod_mod]

theorem cyclicDonor_zero {cycle : List String} {focal : String} (hf : focal ∈ cycle) :
    cyclicDonor cycle 0 focal = focal := by
  have hlt := List.idxOf_lt_length_of_mem hf
  rw [cyclicDonor,Nat.add_zero,Nat.mod_eq_of_lt hlt,List.getD_eq_getElem _ _ hlt,List.getElem_idxOf hlt]

theorem offsetFailure_mod (lineage : String → String) (canonical cycle : List String) (offset : ℕ) :
    offsetFailure lineage canonical cycle (offset % cycle.length) =
      offsetFailure lineage canonical cycle offset := by
  simp only [offsetFailure,cyclicDonor_mod]

theorem offsetFailure_eq_none {lineage : String → String} {canonical cycle : List String} {offset : ℕ} :
    offsetFailure lineage canonical cycle offset = none ↔ ∀ focal ∈ canonical,
      lineage focal ≠ lineage (cyclicDonor cycle offset focal) ∧
        cyclicDonor cycle offset (cyclicDonor cycle offset focal) ≠ focal := by
  rw [offsetFailure,List.findSome?_eq_none_iff]
  apply forall₂_congr
  intro focal _
  by_cases hlineage : lineage focal = lineage (cyclicDonor cycle offset focal)
  · simp [hlineage]
  · simp [hlineage]

theorem offsetFailure_multiple {lineage : String → String} {canonical cycle : List String} {offset : ℕ}
    (hsame : ∀ x, x ∈ cycle ↔ x ∈ canonical) (hne : canonical ≠ []) (hmod : offset % cycle.length = 0) :
    offsetFailure lineage canonical cycle offset ≠ none := by
  intro hnone
  obtain ⟨focal,rest,rfl⟩ := List.exists_cons_of_ne_nil hne
  have hmem : focal ∈ cycle := (hsame focal).mpr List.mem_cons_self
  rw [← offsetFailure_mod,hmod] at hnone
  have hmoved := (offsetFailure_eq_none.mp hnone focal List.mem_cons_self).1
  rw [cyclicDonor_zero hmem] at hmoved
  exact hmoved rfl

theorem expectedFailure_eq {lineages : List (String × String)} {canonical cycle : List String}
    (hsame : ∀ x, x ∈ cycle ↔ x ∈ canonical) (offset : ℕ) :
    expectedFailure lineages (offsetMapping cycle offset) canonical =
      (offsetFailure (lineageAt lineages) canonical cycle offset).map OffsetFailure.code := by
  rw [expectedFailure,offsetFailure,List.map_findSome?]
  refine findSome?_congr fun focal hfocal => ?_
  have hmem : focal ∈ cycle := (hsame focal).mpr hfocal
  have hdonor := cyclicDonor_mem (List.ne_nil_of_mem hmem) offset focal
  rw [lookup_offsetMapping hmem,Option.getD_some]
  simp only [lookup_offsetMapping hdonor,Option.some.injEq,Function.comp_apply]
  split_ifs <;> rfl

end Cycles

section Search

variable {failure : ℕ → Option OffsetFailure}

theorem searchOffsets_first {remaining start count : ℕ} (hcount : count < remaining)
    (hskip : ∀ offset, start ≤ offset → offset < start + count → failure offset ≠ none)
    (hhit : failure (start + count) = none) :
    searchOffsets failure remaining start =
      ((List.range' start (count + 1)).map fun offset => trialRow (failure offset) offset,
        some (start + count)) := by
  induction count generalizing remaining start with
  | zero =>
    obtain ⟨remaining,rfl⟩ := Nat.exists_eq_succ_of_ne_zero (Nat.ne_of_gt hcount)
    rw [Nat.add_zero] at hhit
    simp [searchOffsets,hhit]
  | succ count ih =>
    obtain ⟨remaining,rfl⟩ := Nat.exists_eq_succ_of_ne_zero (Nat.ne_of_gt (Nat.zero_lt_of_lt hcount))
    obtain ⟨code,hcode⟩ := Option.ne_none_iff_exists'.mp (hskip start le_rfl (by omega))
    have hend : start + (count + 1) = start + 1 + count := by omega
    have hrest := @ih remaining (start + 1) (Nat.lt_of_succ_lt_succ hcount)
      (fun offset hle hlt => hskip offset (by omega) (by omega)) (hend ▸ hhit)
    rw [searchOffsets,hcode,List.range'_succ,List.map_cons,hcode,hend]
    simp only [hrest]

theorem searchOffsets_rows {remaining start : ℕ} {trial : Json}
    (htrial : trial ∈ (searchOffsets failure remaining start).1) :
    ∃ result index, trial = trialRow result index := by
  induction remaining generalizing start with
  | zero => exact absurd htrial List.not_mem_nil
  | succ remaining ih =>
    rw [searchOffsets] at htrial
    split at htrial
    · exact ⟨none,start,List.mem_singleton.mp htrial⟩
    · rename_i code _
      rcases List.mem_cons.mp htrial with rfl | hrest
      · exact ⟨some code,start,rfl⟩
      · exact ih hrest

end Search

section Published

variable (fields : List (String × Json))

def publishedTexts (key : String) : List String := (asTexts (Json.get fields key)).getD []

def publishedItems (key : String) : List Json := (asItems (Json.get fields key)).getD []

def publishedOffset : ℕ := (positiveInt (Json.get fields "selected_offset")).getD 0

def textAt (key : String) (row : Json) : String := ((objectGet key row).bind asText).getD ""

def publishedRow (row : Json) : CycleRow := ⟨textAt "order_hmac_sha256" row,textAt "task_id" row⟩

def publishedCycle : List CycleRow := (publishedItems fields "cycle_order").map publishedRow

def publishedFailure (lineage : String → String) (offset : ℕ) : Option OffsetFailure :=
  offsetFailure lineage (publishedTexts fields "canonical_focal_task_ids")
    ((publishedCycle fields).map CycleRow.taskId) offset

structure FirstOffset (lineage : String → String) (viewSha256 programSha256 : String) : Prop where
  positive : 1 ≤ publishedOffset fields
  bounded : publishedOffset fields < (publishedTexts fields "canonical_focal_task_ids").length
  feasible : publishedFailure fields lineage (publishedOffset fields) = none
  least : ∀ offset, 1 ≤ offset → offset < publishedOffset fields → publishedFailure fields lineage offset ≠ none
  solved : solveCycle lineage (publishedTexts fields "canonical_focal_task_ids") (publishedCycle fields)
    (publishedTexts fields "stratum_key") viewSha256 programSha256 = .ok (fields,publishedOffset fields)

structure Regular (lineage : String → String) : Prop where
  early : ∀ trial ∈ (publishedItems fields "offset_trials").dropLast,
    objectGet "valid" trial ≠ some (.bool true)
  lineages : 3 ≤ ((publishedTexts fields "canonical_focal_task_ids").map lineage).dedup.length
  trials : ∀ trial ∈ publishedItems fields "offset_trials", ∃ code index valid,
    trial = .obj [("failure_code",code),("offset",.int index),("valid",valid)]
  rows : ∀ row ∈ publishedItems fields "cycle_order", ∃ digest taskId,
    row = .obj [("order_hmac_sha256",digest),("task_id",taskId)]

end Published

namespace ProofAccepted

variable {lineages : List (String × String)} {viewSha256 programSha256 : String}
  {fields : List (String × Json)} {g : ProofGrammar} {mapping : List (String × String)} {cycle : List String}

theorem same (h : ProofAccepted lineages viewSha256 programSha256 fields g mapping cycle) :
    ∀ x, x ∈ cycle ↔ x ∈ g.focalIds := (cycleTaskIds_eq_ok.mp h.ordered).2.2

theorem length (h : ProofAccepted lineages viewSha256 programSha256 fields g mapping cycle) :
    cycle.length = g.focalIds.length := (cycleTaskIds_eq_ok.mp h.ordered).2.1

theorem focals (h : ProofAccepted lineages viewSha256 programSha256 fields g mapping cycle) :
    publishedTexts fields "canonical_focal_task_ids" = g.focalIds := by
  rw [publishedTexts,asTexts_eq_some.mpr h.grammar.focalIds,Option.getD_some]

theorem stratum (h : ProofAccepted lineages viewSha256 programSha256 fields g mapping cycle) :
    publishedTexts fields "stratum_key" = g.stratumKey := by
  rw [publishedTexts,asTexts_eq_some.mpr h.grammar.stratumKey,Option.getD_some]

theorem trialItems (h : ProofAccepted lineages viewSha256 programSha256 fields g mapping cycle) :
    publishedItems fields "offset_trials" = g.trials := by
  rw [publishedItems,asItems_eq_some.mpr h.grammar.trials,Option.getD_some]

theorem cycleItems (h : ProofAccepted lineages viewSha256 programSha256 fields g mapping cycle) :
    publishedItems fields "cycle_order" = g.cycleRows := by
  rw [publishedItems,asItems_eq_some.mpr h.grammar.cycleRows,Option.getD_some]

theorem offset (h : ProofAccepted lineages viewSha256 programSha256 fields g mapping cycle) :
    publishedOffset fields = g.selectedOffset := by
  rw [publishedOffset,positiveInt_eq_some.mpr ⟨h.grammar.selectedOffset,h.grammar.selectedOffset_pos⟩,
    Option.getD_some]

theorem cycleIds (h : ProofAccepted lineages viewSha256 programSha256 fields g mapping cycle) :
    (publishedCycle fields).map CycleRow.taskId = cycle := by
  have hrows := mapM_eq_some.mp (cycleTaskIds_eq_ok.mp h.ordered).1
  rw [publishedCycle,h.cycleItems,List.map_map]
  generalize g.cycleRows = rows at hrows
  clear h
  induction hrows with
  | nil => rfl
  | cons hrow _ ih =>
    obtain ⟨rowFields,_,rfl,hid,_,_⟩ := cycleTaskId_eq_some.mp hrow
    rw [List.map_cons,ih]
    simp [publishedRow,textAt,objectGet,hid,asText]

theorem failure (h : ProofAccepted lineages viewSha256 programSha256 fields g mapping cycle)
    (offset : ℕ) : publishedFailure fields (lineageAt lineages) offset =
      offsetFailure (lineageAt lineages) g.focalIds cycle offset := by
  rw [publishedFailure,h.focals,h.cycleIds]

theorem mapping_eq (h : ProofAccepted lineages viewSha256 programSha256 fields g mapping cycle) :
    mapping = g.focalIds.map fun focal => (focal,cyclicDonor cycle g.selectedOffset focal) := by
  have hkeys := ((donorMapping_eq_some h.grammar.donorRows_length).mp h.donors).1
  have hselected := h.selected
  rw [sameDict,Bool.and_eq_true,List.all_eq_true] at hselected
  have hrow : ∀ row ∈ mapping, (row.1,cyclicDonor cycle g.selectedOffset row.1) = row := by
    intro row hrow
    have hfocal : row.1 ∈ g.focalIds := hkeys ▸ List.mem_map_of_mem hrow
    have hlookup := of_decide_eq_true (hselected.2 row hrow)
    rw [lookup_offsetMapping ((h.same row.1).mpr hfocal)] at hlookup
    exact Prod.ext rfl (Option.some.inj hlookup)
  rw [← hkeys,List.map_map]
  exact (List.map_id mapping).symm.trans (List.map_congr_left fun row hr => (hrow row hr).symm)

theorem lookup_mapping (h : ProofAccepted lineages viewSha256 programSha256 fields g mapping cycle)
    {focal : String} (hfocal : focal ∈ g.focalIds) :
    mapping.lookup focal = some (cyclicDonor cycle g.selectedOffset focal) := by
  rw [h.mapping_eq]
  generalize g.focalIds = ids at hfocal
  induction ids with
  | nil => exact absurd hfocal List.not_mem_nil
  | cons id ids ih =>
    rw [List.map_cons,List.lookup_cons]
    by_cases he : focal = id
    · subst he
      simp
    · rw [beq_false_of_ne he]
      exact ih ((List.mem_cons.mp hfocal).resolve_left he)

theorem selected_feasible (h : ProofAccepted lineages viewSha256 programSha256 fields g mapping cycle) :
    offsetFailure (lineageAt lineages) g.focalIds cycle g.selectedOffset = none := by
  have hfeasible := infeasibleMapping_eq_false.mp h.feasible
  rw [offsetFailure_eq_none]
  intro focal hfocal
  have hrow : (focal,cyclicDonor cycle g.selectedOffset focal) ∈ mapping := by
    rw [h.mapping_eq]
    exact List.mem_map_of_mem hfocal
  refine ⟨hfeasible.crossed _ hrow,fun hback => hfeasible.oneWay _ hrow ?_⟩
  have hdonor : cyclicDonor cycle g.selectedOffset focal ∈ g.focalIds :=
    (hfeasible.donors _).mp (List.mem_map_of_mem hrow)
  rw [h.lookup_mapping hdonor,hback]

theorem trial_accepted (h : ProofAccepted lineages viewSha256 programSha256 fields g mapping cycle)
    {trial : Json} {index : ℕ} (htrial : (trial,index) ∈ g.trials.zipIdx 1) :
    acceptsTrial index ((offsetFailure (lineageAt lineages) g.focalIds cycle index).map OffsetFailure.code)
      trial = true := by
  have hall := h.trials
  rw [acceptsTrials,List.all_eq_true] at hall
  have hone := hall (trial,index) htrial
  simp only [expectedFailure_eq h.same] at hone
  exact hone

theorem valid_eq (h : ProofAccepted lineages viewSha256 programSha256 fields g mapping cycle)
    {trial : Json} {index : ℕ} (htrial : (trial,index) ∈ g.trials.zipIdx 1) :
    objectGet "valid" trial =
      some (.bool (offsetFailure (lineageAt lineages) g.focalIds cycle index).isNone) := by
  have haccepted := h.trial_accepted htrial
  cases trial with
  | obj fields =>
    simp only [acceptsTrial,Bool.and_eq_true,decide_eq_true_eq,Option.isNone_map] at haccepted
    rw [objectGet,haccepted.1.2]
  | null => exact absurd haccepted Bool.false_ne_true
  | bool b => exact absurd haccepted Bool.false_ne_true
  | int n => exact absurd haccepted Bool.false_ne_true
  | float t => exact absurd haccepted Bool.false_ne_true
  | str t => exact absurd haccepted Bool.false_ne_true
  | arr xs => exact absurd haccepted Bool.false_ne_true

theorem early_iff (h : ProofAccepted lineages viewSha256 programSha256 fields g mapping cycle) :
    (∀ trial ∈ g.trials.dropLast, objectGet "valid" trial ≠ some (.bool true)) ↔
      ∀ offset, 1 ≤ offset → offset < g.selectedOffset →
        offsetFailure (lineageAt lineages) g.focalIds cycle offset ≠ none := by
  have hlength := h.grammar.trials_length
  have hat (k : ℕ) (hk : k < g.trials.length) : objectGet "valid" g.trials[k] =
      some (.bool (offsetFailure (lineageAt lineages) g.focalIds cycle (1 + k)).isNone) := by
    apply h.valid_eq
    rw [List.mk_mem_zipIdx_iff_le_and_getElem?_sub]
    exact ⟨by omega,by rw [Nat.add_sub_cancel_left,List.getElem?_eq_getElem hk]⟩
  constructor
  · intro hearly offset hpos hlt hnone
    have hk : offset - 1 < g.trials.dropLast.length := by rw [List.length_dropLast]; omega
    apply hearly _ (List.getElem_mem hk)
    rw [List.getElem_dropLast,hat,Nat.add_sub_cancel' hpos,hnone]
    rfl
  · intro hskip trial htrial hvalid
    obtain ⟨k,hk,rfl⟩ := List.getElem_of_mem htrial
    rw [List.length_dropLast] at hk
    rw [List.getElem_dropLast,hat] at hvalid
    apply hskip (1 + k) (by omega) (by omega)
    exact Option.isNone_iff_eq_none.mp (Json.bool.inj (Option.some.inj hvalid))

theorem trial_closed (h : ProofAccepted lineages viewSha256 programSha256 fields g mapping cycle)
    {trial code valid : Json} {position : ℤ} {index : ℕ}
    (hshape : trial = .obj [("failure_code",code),("offset",.int position),("valid",valid)])
    (htrial : (trial,index) ∈ g.trials.zipIdx 1) :
    trial = trialRow (offsetFailure (lineageAt lineages) g.focalIds cycle index) index := by
  have haccepted := h.trial_accepted htrial
  subst hshape
  simp only [acceptsTrial,Bool.and_eq_true,decide_eq_true_eq,Option.isNone_map] at haccepted
  obtain ⟨⟨hoffset,hvalid⟩,hcode⟩ := haccepted
  simp only [Json.get,List.find?_cons,List.find?_nil] at hoffset hvalid hcode
  have hindex : position = index := by simpa [equalsIndex] using hoffset
  have hfailure : code = failureJson (offsetFailure (lineageAt lineages) g.focalIds cycle index) := by
    cases hf : offsetFailure (lineageAt lineages) g.focalIds cycle index <;> simpa [hf,failureJson] using hcode
  have hvalid' : valid = .bool (offsetFailure (lineageAt lineages) g.focalIds cycle index).isNone := by
    simpa using hvalid
  rw [hfailure,hindex,hvalid',trialRow]

theorem trials_eq (h : ProofAccepted lineages viewSha256 programSha256 fields g mapping cycle)
    (hclosed : ∀ trial ∈ g.trials, ∃ code index valid,
      trial = .obj [("failure_code",code),("offset",.int index),("valid",valid)]) :
    g.trials = (List.range' 1 g.selectedOffset).map fun offset =>
      trialRow (offsetFailure (lineageAt lineages) g.focalIds cycle offset) offset := by
  have hpoint : ∀ p ∈ g.trials.zipIdx 1,
      p.1 = trialRow (offsetFailure (lineageAt lineages) g.focalIds cycle p.2) p.2 := by
    rintro ⟨trial,index⟩ hp
    obtain ⟨code,position,valid,hshape⟩ := hclosed trial (List.fst_mem_of_mem_zipIdx hp)
    exact h.trial_closed hshape hp
  have hmap := List.map_congr_left hpoint
  rw [List.zipIdx_map_fst] at hmap
  rw [← h.grammar.trials_length,← List.zipIdx_map_snd 1 g.trials,List.map_map]
  exact hmap

theorem cycleRows_eq (h : ProofAccepted lineages viewSha256 programSha256 fields g mapping cycle)
    (hclosed : ∀ row ∈ g.cycleRows, ∃ digest taskId,
      row = .obj [("order_hmac_sha256",digest),("task_id",taskId)]) :
    g.cycleRows = (publishedCycle fields).map CycleRow.json := by
  rw [publishedCycle,h.cycleItems,List.map_map]
  have hrows := mapM_eq_some.mp (cycleTaskIds_eq_ok.mp h.ordered).1
  have hpoint : ∀ row ∈ g.cycleRows, row = (CycleRow.json ∘ publishedRow) row := by
    intro row hrow
    obtain ⟨digest,id,hshape⟩ := hclosed row hrow
    obtain ⟨taskId,_,hid⟩ := exists_right_of_forall₂ hrows hrow
    obtain ⟨rowFields,hmac,hobj,htask,horder,_⟩ := cycleTaskId_eq_some.mp hid
    subst hshape
    cases hobj
    simp only [Json.get,List.find?_cons,List.find?_nil] at htask horder
    simp_all [publishedRow,textAt,objectGet,Json.get,asText,CycleRow.json]
  exact (List.map_id _).symm.trans (List.map_congr_left hpoint)

theorem offset_bounded (h : ProofAccepted lineages viewSha256 programSha256 fields g mapping cycle)
    (hskip : ∀ offset, 1 ≤ offset → offset < g.selectedOffset →
      offsetFailure (lineageAt lineages) g.focalIds cycle offset ≠ none) :
    g.selectedOffset < g.focalIds.length := by
  by_contra hge
  have hn : 0 < cycle.length := by
    rw [h.length]
    exact List.length_pos_iff.mpr h.grammar.focalIds_ne
  have hselected := h.selected_feasible
  rw [← offsetFailure_mod] at hselected
  have hlt := Nat.mod_lt g.selectedOffset hn
  have hlength := h.length
  rcases Nat.eq_zero_or_pos (g.selectedOffset % cycle.length) with hzero | hpos
  · exact offsetFailure_multiple h.same h.grammar.focalIds_ne hzero h.selected_feasible
  · exact hskip _ hpos (by omega) hselected

theorem fields_eq (h : ProofAccepted lineages viewSha256 programSha256 fields g mapping cycle)
    (hclosed : ClosedProof fields)
    (hrows : g.cycleRows = (publishedCycle fields).map CycleRow.json) :
    fields = proofObject viewSha256 programSha256 g.focalIds (publishedCycle fields) g.trials
      g.selectedOffset g.stratumKey := by
  have hdonors : g.donorRows = g.focalIds.map fun focal =>
      .arr [.str focal,.str (cyclicDonor ((publishedCycle fields).map CycleRow.taskId) g.selectedOffset focal)] := by
    rw [((donorMapping_eq_some h.grammar.donorRows_length).mp h.donors).2,h.mapping_eq,List.map_map,h.cycleIds]
    rfl
  have hread := @Json.eq_map_get fields (by rw [hclosed.keys]; decide)
  rw [hclosed.keys] at hread
  refine hread.trans ?_
  simp only [proofKeys,List.map_cons,List.map_nil,proofObject,h.view,h.program,h.grammar.focalIds,
    h.grammar.cycleRows,h.grammar.donorRows,h.grammar.trials,h.grammar.selectedOffset,
    h.grammar.stratumKey,hclosed.kind,hclosed.schema,hclosed.invocations,← hrows,hdonors]

theorem solveCycle_eq (h : ProofAccepted lineages viewSha256 programSha256 fields g mapping cycle)
    (hclosed : ClosedProof fields) (hregular : Regular fields (lineageAt lineages)) :
    solveCycle (lineageAt lineages) g.focalIds (publishedCycle fields) g.stratumKey viewSha256
      programSha256 = .ok (fields,g.selectedOffset) := by
  have hskip := h.early_iff.mp (h.trialItems ▸ hregular.early)
  have hbound := h.offset_bounded hskip
  have hpos := h.grammar.selectedOffset_pos
  have hrows := h.cycleRows_eq (h.cycleItems ▸ hregular.rows)
  have htrials := h.trials_eq (h.trialItems ▸ hregular.trials)
  have hlength : (publishedCycle fields).length = g.focalIds.length := by
    rw [← h.length,← h.cycleIds,List.length_map]
  have hfound := @searchOffsets_first (offsetFailure (lineageAt lineages) g.focalIds cycle)
    ((publishedCycle fields).length - 1) 1 (g.selectedOffset - 1) (by omega)
    (fun offset hle hlt => hskip offset hle (by omega)) (by rw [Nat.add_sub_cancel' hpos]; exact h.selected_feasible)
  rw [Nat.sub_add_cancel hpos,Nat.add_sub_cancel' hpos,← htrials] at hfound
  have hlineages := hregular.lineages
  rw [h.focals] at hlineages
  rw [solveCycle,h.cycleIds,hfound]
  simp only [demand,decide_eq_true hlineages,if_true,ok_bind]
  rw [← h.fields_eq hclosed hrows]
  rfl

theorem firstOffset_iff (h : ProofAccepted lineages viewSha256 programSha256 fields g mapping cycle)
    (hclosed : ClosedProof fields) :
    FirstOffset fields (lineageAt lineages) viewSha256 programSha256 ↔
      Regular fields (lineageAt lineages) := by
  constructor
  · intro hfirst
    have hsolved := hfirst.solved
    have hleast : ∀ offset, 1 ≤ offset → offset < g.selectedOffset →
        offsetFailure (lineageAt lineages) g.focalIds cycle offset ≠ none := by
      intro offset hpos hlt
      rw [← h.failure]
      exact hfirst.least offset hpos (h.offset ▸ hlt)
    rw [solveCycle,bind_eq_ok] at hsolved
    obtain ⟨_,hlineages,hfound⟩ := hsolved
    rw [demand_eq_ok,decide_eq_true_eq] at hlineages
    split at hfound
    · rename_i trials offset hsearch
      obtain ⟨hfields,_⟩ := Prod.mk.inj (Except.ok.inj hfound)
      have htrials : publishedItems fields "offset_trials" = trials := by rw [← hfields]; rfl
      have hcycle : publishedItems fields "cycle_order" = (publishedCycle fields).map CycleRow.json := by
        conv_lhs => rw [← hfields]
        rfl
      refine ⟨h.trialItems ▸ h.early_iff.mpr hleast,hlineages,?_,?_⟩
      · intro trial htrial
        rw [htrials,show trials = (trials,some offset).1 from rfl,← hsearch] at htrial
        obtain ⟨result,index,rfl⟩ := searchOffsets_rows htrial
        exact ⟨_,_,_,rfl⟩
      · intro row hrow
        rw [hcycle] at hrow
        obtain ⟨cycleRow,_,rfl⟩ := List.mem_map.mp hrow
        exact ⟨_,_,rfl⟩
    · exact absurd hfound (by simp)
  · intro hregular
    have hskip := h.early_iff.mp (h.trialItems ▸ hregular.early)
    refine ⟨?_,?_,?_,?_,?_⟩
    · rw [h.offset]
      exact h.grammar.selectedOffset_pos
    · rw [h.offset,h.focals]
      exact h.offset_bounded hskip
    · rw [h.offset,h.failure]
      exact h.selected_feasible
    · intro offset hpos hlt
      rw [h.failure]
      exact hskip offset hpos (h.offset ▸ hlt)
    · rw [h.focals,h.stratum,h.offset]
      exact h.solveCycle_eq hclosed hregular

end ProofAccepted

theorem proofs_of_verifyGraph {platform : Platform} {files : Files} {schedule : SchedulePayload}
    {taskReceipts : List PrefixReceipt} {payload : LedgerPayload}
    (h : verifyGraph platform files schedule taskReceipts payload = .ok ()) :
    ∀ ref ∈ payload.matchingProofRefs, ∃ fields grammar mapping,
      loadProof platform files ref = .ok fields ∧
        verifyProof (lineagesOf schedule) payload.assignmentPrefixViewSha256
          payload.matchingProgramRef.sha256 fields = .ok (grammar,mapping) := by
  simp only [verifyGraph,verifyProofs,bind_eq_ok,demand_eq_ok] at h
  obtain ⟨_,_,_,_,proofs,hproofs,mapping,hmapping,_⟩ := h
  have hverified : ∀ proof ∈ proofs, ∃ grammar mapping, verifyProof (lineagesOf schedule)
      payload.assignmentPrefixViewSha256 payload.matchingProgramRef.sha256 proof.2 = .ok (grammar,mapping) := by
    refine foldlM_reaches (P := fun done _ => ∀ proof ∈ done, ∃ grammar mapping,
      verifyProof (lineagesOf schedule) payload.assignmentPrefixViewSha256
        payload.matchingProgramRef.sha256 proof.2 = .ok (grammar,mapping))
      (fun proof hproof => absurd hproof List.not_mem_nil) ?_ hmapping
    intro done proof state next _ hdone hstep other hother
    rcases List.mem_append.mp hother with hold | hnew
    · exact hdone other hold
    · rw [List.mem_singleton.mp hnew]
      simp only [mergeProof,bind_eq_ok] at hstep
      obtain ⟨⟨grammar,rows⟩,hverify,_⟩ := hstep
      exact ⟨grammar,rows,hverify⟩
  intro ref href
  obtain ⟨proof,hproof,hload⟩ := exists_right_of_forall₂ (mapM_eq_ok.mp hproofs) href
  simp only [bind_eq_ok] at hload
  obtain ⟨fields,hfields,hpair⟩ := hload
  cases hpair
  obtain ⟨grammar,rows,hverify⟩ := hverified _ hproof
  exact ⟨fields,grammar,rows,hfields,hverify⟩

theorem accepted_proofs_first_offset_iff (platform : Platform) (root : RunRoot) (ledgerRef : ArtifactRef)
    (payload : LedgerPayload) (h : verifySyntheticAssignmentGraph platform root ledgerRef = .ok payload) :
    ∃ schedule, root.schedule payload.scheduleRef = .ok schedule ∧
      ∀ ref ∈ payload.matchingProofRefs, ∃ fields, loadProof platform root.files ref = .ok fields ∧
        (FirstOffset fields (lineageAt (lineagesOf schedule)) payload.assignmentPrefixViewSha256
            payload.matchingProgramRef.sha256 ↔
          Regular fields (lineageAt (lineagesOf schedule))) := by
  simp only [verifySyntheticAssignmentGraph,bind_eq_ok,demand_eq_ok] at h
  obtain ⟨_,_,_,_,schedule,hschedule,receipts,_,_,_,_,hgraph,hret⟩ := h
  cases hret
  refine ⟨schedule,hschedule,fun ref href => ?_⟩
  obtain ⟨fields,grammar,mapping,hload,hverify⟩ := proofs_of_verifyGraph hgraph ref href
  obtain ⟨cycle,haccepted⟩ := verifyProof_eq_ok.mp hverify
  exact ⟨fields,hload,haccepted.firstOffset_iff (closedProof_of_load hload)⟩

section Sample

def sampleSha (c : Char) : String := String.ofList (List.replicate 64 c)

def sampleIds : List String := ["a","b","c"]

def sampleTask (taskId : String) (h : taskId ≠ "") : TaskSpec where
  taskId := taskId
  benchmark := "synthetic"
  stratum := "s"
  lineage := "lineage-" ++ taskId
  sensitivityGroups := [⟨.language,"py",by decide⟩]
  taskId_nonempty := h
  benchmark_nonempty := by decide
  stratum_nonempty := by decide
  lineage_nonempty := by
    intro he
    have hlist := congrArg String.toList he
    rw [String.toList_append] at hlist
    exact absurd hlist (by simp)
  groups_nonempty := by simp
  groups_distinct := by simp

def sampleRow (taskId : String) (h : taskId ≠ "") : TaskSchedule where
  task := sampleTask taskId h
  slotIds := ["s0","s1","s2","s3"]
  four := rfl
  distinct := by decide

def sampleRef (role : String) (c : Char) : ArtifactRef := ⟨role,"inputs/" ++ role ++ ".json",sampleSha c,1,"json"⟩

def sampleSchedule : SchedulePayload where
  studyId := "study"
  manifestRef := sampleRef "manifest" '5'
  tasks := [sampleRow "a" (by decide),sampleRow "b" (by decide),sampleRow "c" (by decide)]
  distinct := by decide

def sampleReceipt (taskId : String) : PrefixReceipt where
  taskId := taskId
  scheduleSha256 := sampleSha '1'
  triggerReason := .firstEligibleMutation
  verifierComponentClass := "component"
  objectiveFindingCount := 0
  normalizedReportTokenCount := 0
  class_nonempty := by decide

def sampleProof (offset : ℕ) : List (String × Json) :=
  proofObject (sampleSha '3') (sampleSha '4') sampleIds (sampleIds.map fun taskId => ⟨sampleSha '0',taskId⟩)
    ((List.range' 1 offset).map (trialRow none)) offset ["synthetic","s"]

def sampleDigest (offset : ℕ) : Digest where
  bytes := if offset = 1 then
      [94,172,76,231,2,2,98,62,133,102,191,122,13,84,240,202,
        45,162,71,113,196,114,46,119,74,110,116,220,126,11,254,241]
    else
      [74,47,9,104,0,148,183,34,135,33,106,73,135,96,44,201,
        129,222,70,21,139,124,189,128,62,178,158,224,61,55,216,66]
  size := by split <;> rfl

def samplePlatform (offset : ℕ) : Platform where
  sha256 := fun _ => sampleDigest offset
  hmac := fun _ _ => sampleDigest offset
  normalized := fun _ => true
  otherCategory := fun _ => false
  floatRepr := id

def sampleCapability (taskId slotId : String) : Digest where
  bytes := UInt8.ofNat (sampleIds.idxOf taskId) :: UInt8.ofNat (["s0","s1","s2","s3"].idxOf slotId) ::
    List.replicate 30 0
  size := by simp

def sampleAssignment (offset : ℕ) (taskId : String) : TaskAssignment where
  taskId := taskId
  taskLineage := "lineage-" ++ taskId
  donorMatchKind := .matched
  donorTaskId := some (cyclicDonor sampleIds offset taskId)
  donorLineage := some ("lineage-" ++ cyclicDonor sampleIds offset taskId)
  slotArms := [("s0",.NONE),("s1",.RESAMPLE),("s2",.REAL),("s3",.SHAM)]
  scheduleSha256 := sampleSha '1'
  prefixIndexSha256 := sampleSha '2'

def sampleAllocation (taskId : String) : AllocationReceipt where
  taskId := taskId
  slotIdsByOrdinal := ["s0","s1","s2","s3"]
  treatmentAllocationIndex := 0
  allocationRejectionCounter := 0
  noPacketOrientationBit := 0
  orientationRejectionCounter := 0
  slotCapabilities := ["s0","s1","s2","s3"].map fun slotId => (slotId,(sampleCapability taskId slotId).hex)

def sampleCandidates (taskId : String) : List DonorCandidateReceipt :=
  (sampleIds.filter fun other => other ≠ taskId).map fun other =>
    ⟨other,"lineage-" ++ other,[0,0,0],none,sampleSha '0'⟩

def sampleMatch (offset : ℕ) (taskId : String) : DonorMatchReceipt := .matched {
  taskId := taskId
  donorTaskId := cyclicDonor sampleIds offset taskId
  taskLineage := "lineage-" ++ taskId
  donorLineage := "lineage-" ++ cyclicDonor sampleIds offset taskId
  assignmentMode := .syntheticDerangement
  matchingAlgorithm := .syntheticCyclicOffsetV1
  stratumKey := ["synthetic","s"]
  assignmentPrefixViewSha256 := sampleSha '3'
  candidates := sampleCandidates taskId
  chosenPrimaryCost := [0,0,0]
  matchingProofRef := proofRef (samplePlatform offset) (sampleProof offset) }

def sampleLedger (offset : ℕ) : LedgerPayload where
  manifestRef := sampleRef "manifest" '5'
  scheduleRef := sampleRef "schedule" '1'
  prefixIndexRef := sampleRef "prefix" '2'
  matchingProgramRef := sampleRef "program" '4'
  assignmentMasterKeyCommitmentSha256 := sampleSha '6'
  assignmentPrefixViewSha256 := sampleSha '3'
  assignmentMode := .syntheticDerangement
  matchingProofRefs := [proofRef (samplePlatform offset) (sampleProof offset)]
  assignments := sampleIds.map (sampleAssignment offset)
  allocationReceipts := sampleIds.map sampleAllocation
  donorMatchReceipts := sampleIds.map (sampleMatch offset)

def sampleRoot (offset : ℕ) : RunRoot where
  files := fun path => if path = (proofRef (samplePlatform offset) (sampleProof offset)).relativePath then
    some (proofBytes (sampleProof offset)) else none
  ledger := fun _ => .ok (sampleLedger offset)
  schedule := fun _ => .ok sampleSchedule
  prefixIndex := fun _ => .ok ⟨"study",sampleRef "schedule" '1',sampleIds.map sampleReceipt,by decide⟩
  manifest := fun _ => .ok ⟨"study",sampleRef "program" '4',sampleSha '6'⟩
  stratumKeys := fun _ => .ok ["benchmark","stratum"]

def sampleGrammar (offset : ℕ) : ProofGrammar where
  focalIds := sampleIds
  donorRows := sampleIds.map fun focal => donorPair (focal,cyclicDonor sampleIds offset focal)
  cycleRows := sampleIds.map fun taskId => CycleRow.json ⟨sampleSha '0',taskId⟩
  trials := (List.range' 1 offset).map (trialRow none)
  selectedOffset := offset
  stratumKey := ["synthetic","s"]

def sampleMapping (offset : ℕ) : List ProvedDonor := sampleIds.map fun focal =>
  ⟨focal,cyclicDonor sampleIds offset focal,proofRef (samplePlatform offset) (sampleProof offset),
    ["synthetic","s"],sampleIds⟩

theorem sample_verified {offset : ℕ} (h : offset = 1 ∨ offset = 2) :
    verifyProof (lineagesOf sampleSchedule) (sampleSha '3') (sampleSha '4') (sampleProof offset) =
      .ok (sampleGrammar offset,sampleIds.map fun focal => (focal,cyclicDonor sampleIds offset focal)) := by
  apply verifyProof_eq_ok.mpr
  rcases h with rfl | rfl <;>
    refine ⟨sampleIds,rfl,rfl,⟨rfl,by decide,by decide,by decide,by decide,rfl,rfl,rfl,rfl,rfl,rfl,by decide,rfl,
      by decide,by decide⟩,?_,?_,?_,?_,?_⟩ <;> decide

theorem sample_allocation (offset : ℕ) {taskId : String} (hid : taskId ∈ sampleIds) (hne : taskId ≠ "") :
    AllocationAccepted (lineagesOf sampleSchedule) (sampleLedger offset) (sampleRow taskId hne)
      (sampleAssignment offset taskId) (sampleAllocation taskId) := by
  have hlineage : ∀ id ∈ sampleIds, (lineagesOf sampleSchedule).lookup id = some ("lineage-" ++ id) := by decide
  refine ⟨rfl,hlineage taskId hid,rfl,rfl,rfl,rfl,fun capability hcapability => ?_⟩
  obtain ⟨slotId,_,rfl⟩ := List.mem_map.mp hcapability
  exact Digest.isSha256_hex _

theorem sample_donor {offset : ℕ} (h : offset = 1 ∨ offset = 2) {taskId : String} (hid : taskId ∈ sampleIds)
    (hne : taskId ≠ "") : DonorAccepted (lineagesOf sampleSchedule) (sampleLedger offset)
      (sampleMapping offset) (sampleRow taskId hne) (sampleAssignment offset taskId)
        (sampleMatch offset taskId) := by
  have hlineage : ∀ id ∈ sampleIds, lineageAt (lineagesOf sampleSchedule) id = "lineage-" ++ id := by decide
  have hdonor : cyclicDonor sampleIds offset taskId ∈ sampleIds := cyclicDonor_mem (by decide) offset taskId
  let proved : ProvedDonor := ⟨taskId,cyclicDonor sampleIds offset taskId,
    proofRef (samplePlatform offset) (sampleProof offset),["synthetic","s"],sampleIds⟩
  have hfind : (sampleMapping offset).find? (fun row => row.focal = taskId) = some proved := by
    simp only [sampleIds,List.mem_cons,List.not_mem_nil,or_false] at hid
    rcases hid with rfl | rfl | rfl <;> rfl
  have hother : (sampleMapping offset).find? (fun row =>
      row.ref = proofRef (samplePlatform offset) (sampleProof offset)) = (sampleMapping offset).head? := by
    apply List.find?_cons_of_pos
    exact decide_eq_true rfl
  have hcandidates : ∀ id ∈ sampleIds,
      (∀ candidate ∈ sampleCandidates id, acceptsCandidate (lineagesOf sampleSchedule)
        (eligibleDonors (lineagesOf sampleSchedule) sampleIds id) candidate = true) ∧
      (sampleCandidates id).map DonorCandidateReceipt.donorTaskId =
        eligibleDonors (lineagesOf sampleSchedule) sampleIds id ∧
      ∀ offset ∈ [1,2], ((sampleCandidates id).reverse.find? fun candidate =>
        candidate.donorTaskId = cyclicDonor sampleIds offset id).map DonorCandidateReceipt.primaryCost =
          some [0,0,0] := by decide
  obtain ⟨heach,hids,hchosen⟩ := hcandidates taskId hid
  refine ⟨proved,_,hfind,hother,rfl,(hlineage taskId hid).symm,(hlineage _ hdonor).symm,rfl,rfl,rfl,rfl,rfl,rfl,
    congrArg some (hlineage _ hdonor).symm,rfl,heach,?_,?_,?_⟩
  · have hlength := congrArg List.length hids
    rwa [List.length_map] at hlength
  · intro x
    exact Eq.to_iff (congrArg (x ∈ ·) hids)
  · exact hchosen offset (by simpa using h)

theorem sample_loaded (offset : ℕ) : loadProof (samplePlatform offset) (sampleRoot offset).files
    (proofRef (samplePlatform offset) (sampleProof offset)) = .ok (sampleProof offset) := by
  apply loadProof_published
  · apply proofObject_exact
    intro trial htrial
    obtain ⟨index,_,rfl⟩ := List.mem_map.mp htrial
    exact trialRow_exact none index
  · exact proofObject_closed ..
  · exact if_pos rfl

theorem sample_accepted {offset : ℕ} (h : offset = 1 ∨ offset = 2) :
    verifySyntheticAssignmentGraph (samplePlatform offset) (sampleRoot offset) (sampleRef "ledger" '7') =
      .ok (sampleLedger offset) := by
  have hmerge : [(proofRef (samplePlatform offset) (sampleProof offset),sampleProof offset)].foldlM
      (mergeProof (lineagesOf sampleSchedule) (sampleSha '3') (sampleSha '4')) [] = .ok (sampleMapping offset) := by
    have hparts : List.Forall₂ (fun (proof : LoadedProof) part => verifyProof (lineagesOf sampleSchedule)
        (sampleSha '3') (sampleSha '4') proof.2 = .ok part)
        [(proofRef (samplePlatform offset) (sampleProof offset),sampleProof offset)]
        [(sampleGrammar offset,sampleIds.map fun focal => (focal,cyclicDonor sampleIds offset focal))] :=
      .cons (sample_verified h) .nil
    have hfocals : sampleIds.Nodup := by decide
    exact @mergeProofs_ok _ _ _ _ _ [] hparts hfocals
  have hrest : verifyProofs sampleSchedule (sampleIds.map sampleReceipt) (sampleLedger offset)
      [(proofRef (samplePlatform offset) (sampleProof offset),sampleProof offset)] = .ok () := by
    refine verifyProofs_ok hmerge ?_ ?_ ?_ ?_
    · exact fun x => show x ∈ sampleIds ↔ _ from sameMembers_eq_true.mp (by decide) x
    · refine List.forall_mem_cons.mpr ⟨⟨sample_allocation offset (by decide) _,sample_donor h (by decide) _⟩,?_⟩
      refine List.forall_mem_cons.mpr ⟨⟨sample_allocation offset (by decide) _,sample_donor h (by decide) _⟩,?_⟩
      exact List.forall_mem_cons.mpr ⟨⟨sample_allocation offset (by decide) _,sample_donor h (by decide) _⟩,
        fun _ h => absurd h List.not_mem_nil⟩
    · have hvalues : (sampleIds.flatMap fun id => (sampleAllocation id).slotCapabilities.map Prod.snd).Nodup := by
        decide
      exact hvalues
    · intro row hrow
      obtain ⟨_,_,rfl⟩ := List.mem_map.mp hrow
      exact List.mem_singleton.mpr rfl
  have hgraph : verifyGraph (samplePlatform offset) (sampleRoot offset).files sampleSchedule
      (sampleIds.map sampleReceipt) (sampleLedger offset) = .ok () := by
    have hids : ∀ ids : List String, ids = sampleIds →
        decide (ids = sampleSchedule.tasks.map fun row => row.task.taskId) = true :=
      fun ids hids => decide_eq_true hids
    simp only [verifyGraph,bind_eq_ok,demand_eq_ok,Bool.and_eq_true]
    refine ⟨(),⟨⟨⟨hids _ rfl,hids _ rfl⟩,hids _ rfl⟩,hids _ rfl⟩,(),?_,_,?_,hrest⟩
    · exact decide_eq_true (List.nodup_singleton _)
    · exact mapM_eq_ok.mpr (.cons (by rw [sample_loaded]; rfl) .nil)
  simp only [verifySyntheticAssignmentGraph,bind_eq_ok,demand_eq_ok]
  exact ⟨_,rfl,(),rfl,_,rfl,_,rfl,(),decide_eq_true rfl,(),hgraph,rfl⟩

theorem sample_regular : Regular (sampleProof 1) (lineageAt (lineagesOf sampleSchedule)) where
  early := by
    intro trial htrial
    have hnone : (publishedItems (sampleProof 1) "offset_trials").dropLast = [] := rfl
    rw [hnone] at htrial
    exact absurd htrial List.not_mem_nil
  lineages := by decide
  trials := by
    have hone : publishedItems (sampleProof 1) "offset_trials" = [trialRow none 1] := rfl
    rw [hone]
    intro trial htrial
    cases List.mem_singleton.mp htrial
    exact ⟨_,_,_,rfl⟩
  rows := by
    have hrows : publishedItems (sampleProof 1) "cycle_order" = sampleIds.map fun taskId => CycleRow.json ⟨sampleSha '0',taskId⟩ := rfl
    rw [hrows]
    intro row hrow
    obtain ⟨_,_,rfl⟩ := List.mem_map.mp hrow
    exact ⟨_,_,rfl⟩

theorem first_offset_proof_solved :
    loadProof (samplePlatform 1) (sampleRoot 1).files (proofRef (samplePlatform 1) (sampleProof 1)) = .ok (sampleProof 1) ∧
      FirstOffset (sampleProof 1) (lineageAt (lineagesOf sampleSchedule)) (sampleSha '3') (sampleSha '4') := by
  obtain ⟨schedule,hschedule,hall⟩ := accepted_proofs_first_offset_iff (samplePlatform 1) (sampleRoot 1) (sampleRef "ledger" '7')
    (sampleLedger 1) (sample_accepted (.inl rfl))
  obtain rfl : sampleSchedule = schedule := Except.ok.inj hschedule
  obtain ⟨fields,hfields,hiff⟩ := hall (proofRef (samplePlatform 1) (sampleProof 1)) List.mem_cons_self
  obtain rfl : sampleProof 1 = fields := Except.ok.inj ((sample_loaded 1).symm.trans hfields)
  exact ⟨hfields,hiff.mpr sample_regular⟩

theorem skipped_offset_accepted :
    verifySyntheticAssignmentGraph (samplePlatform 2) (sampleRoot 2) (sampleRef "ledger" '7') =
        .ok (sampleLedger 2) ∧
      loadProof (samplePlatform 2) (sampleRoot 2).files (proofRef (samplePlatform 2) (sampleProof 2)) =
        .ok (sampleProof 2) ∧
      publishedOffset (sampleProof 2) = 2 ∧
      publishedFailure (sampleProof 2) (lineageAt (lineagesOf sampleSchedule)) 1 = none ∧
      ¬ FirstOffset (sampleProof 2) (lineageAt (lineagesOf sampleSchedule)) (sampleSha '3') (sampleSha '4') := by
  have hfailure : publishedFailure (sampleProof 2) (lineageAt (lineagesOf sampleSchedule)) 1 = none := by
    decide
  refine ⟨sample_accepted (.inr rfl),sample_loaded 2,rfl,hfailure,fun hfirst => ?_⟩
  exact hfirst.least 1 le_rfl (by decide) hfailure

end Sample

end PneumaLab.ResamplingNull
