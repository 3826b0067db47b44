import Mathlib.Data.List.Perm.Subperm
import PneumaLab.ResamplingNull.Assignment.Verification

namespace PneumaLab.ResamplingNull

theorem sameMembers_eq_true {α : Type} [DecidableEq α] {left right : List α} :
    sameMembers left right = true ↔ ∀ x, x ∈ left ↔ x ∈ right := by
  simp only [sameMembers,Bool.and_eq_true,List.all_eq_true,decide_eq_true_eq]
  constructor
  · rintro ⟨hleft,hright⟩ x
    exact ⟨hleft x,hright x⟩
  · intro h
    exact ⟨fun x hx => (h x).mp hx,fun x hx => (h x).mpr hx⟩

theorem asItems_eq_some {value : Json} {items : List Json} :
    asItems value = some items ↔ value = .arr items := by
  cases value <;> simp [asItems]

theorem asText_eq_some {value : Json} {text : String} : asText value = some text ↔ value = .str text := by
  cases value <;> simp [asText]

theorem mapM_asText_eq_some {items : List Json} {texts : List String} :
    items.mapM asText = some texts ↔ items = texts.map .str := by
  simp only [mapM_eq_some,asText_eq_some]
  rw [← List.forall₂_map_right_iff (R := Eq),List.forall₂_eq_eq_eq]

theorem asTexts_eq_some {value : Json} {texts : List String} :
    asTexts value = some texts ↔ value = .arr (texts.map .str) := by
  rw [asTexts,Option.bind_eq_some_iff]
  constructor
  · rintro ⟨items,hitems,htexts⟩
    rw [asItems_eq_some.mp hitems,mapM_asText_eq_some.mp htexts]
  · intro h
    exact ⟨texts.map .str,asItems_eq_some.mpr h,mapM_asText_eq_some.mpr rfl⟩

theorem nonEmptyTexts_eq_some {value : Json} {texts : List String} :
    nonEmptyTexts value = some texts ↔ value = .arr (texts.map .str) ∧ texts ≠ [] ∧ "" ∉ texts := by
  rw [nonEmptyTexts,Option.filter_eq_some_iff,asTexts_eq_some]
  simp

theorem positiveInt_eq_some {value : Json} {n : ℕ} :
    positiveInt value = some n ↔ value = .int n ∧ 1 ≤ n := by
  cases value with
  | int k =>
    simp only [positiveInt,Option.ite_none_right_eq_some,Option.some.injEq,Json.int.injEq]
    omega
  | null => simp [positiveInt]
  | bool b => simp [positiveInt]
  | float t => simp [positiveInt]
  | str t => simp [positiveInt]
  | arr xs => simp [positiveInt]
  | obj fs => simp [positiveInt]

theorem eq_mergeSort_iff {ids : List String} :
    ids = ids.mergeSort (fun left right => left ≤ right) ↔ ids.Pairwise (· ≤ ·) := by
  have hsorted : (ids.mergeSort fun left right => left ≤ right).Pairwise
      fun left right => decide (left ≤ right) = true := by
    apply List.pairwise_mergeSort
    · intro a b c hab hbc
      exact decide_eq_true (le_trans (of_decide_eq_true hab) (of_decide_eq_true hbc))
    · intro a b
      simpa using le_total a b
  simp only [decide_eq_true_eq] at hsorted
  constructor
  · intro h
    rw [h]
    exact hsorted
  · intro h
    exact (List.mergeSort_of_pairwise (by simpa using h)).symm

structure GrammarAccepted (fields : List (String × Json)) (grammar : ProofGrammar) : Prop where
  focalIds : Json.get fields "canonical_focal_task_ids" = .arr (grammar.focalIds.map .str)
  focalIds_ne : grammar.focalIds ≠ []
  focalIds_text : "" ∉ grammar.focalIds
  focalIds_nodup : grammar.focalIds.Nodup
  focalIds_sorted : grammar.focalIds.Pairwise (· ≤ ·)
  donorRows : Json.get fields "donor_by_task" = .arr grammar.donorRows
  donorRows_length : grammar.donorRows.length = grammar.focalIds.length
  cycleRows : Json.get fields "cycle_order" = .arr grammar.cycleRows
  trials : Json.get fields "offset_trials" = .arr grammar.trials
  trials_length : grammar.trials.length = grammar.selectedOffset
  selectedOffset : Json.get fields "selected_offset" = .int grammar.selectedOffset
  selectedOffset_pos : 1 ≤ grammar.selectedOffset
  stratumKey : Json.get fields "stratum_key" = .arr (grammar.stratumKey.map .str)
  stratumKey_ne : grammar.stratumKey ≠ []
  stratumKey_text : "" ∉ grammar.stratumKey

theorem proofGrammar_eq_some {fields : List (String × Json)} {grammar : ProofGrammar} :
    proofGrammar fields = some grammar ↔ GrammarAccepted fields grammar := by
  simp only [proofGrammar,Option.bind_eq_bind,Option.bind_eq_some_iff,nonEmptyTexts_eq_some,
    asItems_eq_some,positiveInt_eq_some,eq_mergeSort_iff,Option.guard_eq_some',Option.pure_def,
    Option.some.injEq]
  constructor
  · rintro ⟨focalIds,⟨hf,hfne,hft⟩,donorRows,hd,cycleRows,hc,trials,ht,offset,⟨ho,hpos⟩,key,⟨hk,hkne,hkt⟩,
      _,⟨hnodup,hsorted,hdl,htl⟩,rfl⟩
    exact ⟨hf,hfne,hft,hnodup,hsorted,hd,hdl,hc,ht,htl,ho,hpos,hk,hkne,hkt⟩
  · intro h
    exact ⟨_,⟨h.focalIds,h.focalIds_ne,h.focalIds_text⟩,_,h.donorRows,_,h.cycleRows,_,h.trials,_,
      ⟨h.selectedOffset,h.selectedOffset_pos⟩,_,⟨h.stratumKey,h.stratumKey_ne,h.stratumKey_text⟩,
      (),⟨h.focalIds_nodup,h.focalIds_sorted,h.donorRows_length,h.trials_length⟩,rfl⟩

structure ProofAccepted (lineages : List (String × String)) (viewSha256 programSha256 : String)
    (fields : List (String × Json)) (g : ProofGrammar) (mapping : List (String × String))
    (cycle : List String) : Prop where
  view : Json.get fields "assignment_prefix_view_sha256" = .str viewSha256
  program : Json.get fields "assignment_program_sha256" = .str programSha256
  grammar : GrammarAccepted fields g
  donors : donorMapping g.focalIds g.donorRows = some mapping
  feasible : infeasibleMapping lineages mapping g.focalIds = .ok false
  ordered : cycleTaskIds g.focalIds g.cycleRows = .ok cycle
  selected : sameDict mapping (offsetMapping cycle g.selectedOffset) = true
  trials : acceptsTrials lineages g.focalIds cycle g.trials = true

theorem verifyProof_eq_ok {lineages : List (String × String)} {viewSha256 programSha256 : String}
    {fields : List (String × Json)} {grammar : ProofGrammar} {mapping : List (String × String)} :
    verifyProof lineages viewSha256 programSha256 fields = .ok (grammar,mapping) ↔
      ∃ cycle, ProofAccepted lineages viewSha256 programSha256 fields grammar mapping cycle := by
  simp only [verifyProof,bind_eq_ok,demand_eq_ok,Bool.and_eq_true,decide_eq_true_eq,required_eq_ok,
    proofGrammar_eq_some,Bool.not_eq_true']
  constructor
  · rintro ⟨_,⟨hview,hprogram⟩,g,hg,m,hm,bad,hbad,_,rfl,cycle,hcycle,_,hselected,_,htrials,hret⟩
    cases hret
    exact ⟨cycle,hview,hprogram,hg,hm,hbad,hcycle,hselected,htrials⟩
  · rintro ⟨cycle,h⟩
    exact ⟨(),⟨h.view,h.program⟩,_,h.grammar,_,h.donors,_,h.feasible,(),rfl,_,h.ordered,(),h.selected,
      (),h.trials,rfl⟩

def donorPair (row : String × String) : Json := .arr [.str row.1,.str row.2]

theorem donorRow_eq_some {focal : String} {value : Json} {row : String × String} :
    donorRow focal value = some row ↔ value = donorPair row ∧ row.1 = focal := by
  obtain ⟨left,right⟩ := row
  unfold donorRow
  split
  · rename_i a b
    simp only [Option.ite_none_right_eq_some,Option.some.injEq,Prod.mk.injEq,donorPair,Json.arr.injEq,
      List.cons.injEq,Json.str.injEq,and_true]
    constructor
    · rintro ⟨rfl,rfl,rfl⟩
      exact ⟨⟨rfl,rfl⟩,rfl⟩
    · rintro ⟨⟨rfl,rfl⟩,rfl⟩
      exact ⟨rfl,rfl,rfl⟩
  · rename_i hshape
    simp only [reduceCtorEq,false_iff,not_and]
    rintro rfl
    exact absurd rfl (hshape left right)

theorem donorMapping_eq_some {focalIds : List String} {donorRows : List Json}
    {mapping : List (String × String)} (hlength : donorRows.length = focalIds.length) :
    donorMapping focalIds donorRows = some mapping ↔
      mapping.map Prod.fst = focalIds ∧ donorRows = mapping.map donorPair := by
  rw [donorMapping,mapM_eq_some]
  induction mapping generalizing focalIds donorRows with
  | nil =>
    cases focalIds <;> cases donorRows <;> simp_all
  | cons row mapping ih =>
    cases focalIds with
    | nil => simp_all
    | cons focal focalIds =>
      cases donorRows with
      | nil => simp_all
      | cons value donorRows =>
        have hrest := @ih focalIds donorRows (by simpa using hlength)
        rw [List.zip_cons_cons,List.forall₂_cons,hrest,donorRow_eq_some,List.map_cons,List.map_cons,
          List.cons.injEq,List.cons.injEq]
        tauto

theorem lineageOf_eq_ok {lineages : List (String × String)} {taskId lineage : String} :
    lineageOf lineages taskId = .ok lineage ↔ lineages.lookup taskId = some lineage := by
  rw [lineageOf]
  cases lineages.lookup taskId <;> simp

theorem lineageAt_of_lookup {lineages : List (String × String)} {taskId lineage : String}
    (h : lineages.lookup taskId = some lineage) : lineageAt lineages taskId = lineage := by
  rw [lineageAt,h,Option.getD_some]

structure FeasibleMapping (lineages mapping : List (String × String)) (focalIds : List String) : Prop where
  focals : ∀ x, x ∈ mapping.map Prod.fst ↔ x ∈ focalIds
  donors : ∀ x, x ∈ mapping.map Prod.snd ↔ x ∈ focalIds
  moved : ∀ row ∈ mapping, row.1 ≠ row.2
  known : ∀ row ∈ mapping, (lineages.lookup row.1).isSome ∧ (lineages.lookup row.2).isSome
  crossed : ∀ row ∈ mapping, lineageAt lineages row.1 ≠ lineageAt lineages row.2
  oneWay : ∀ row ∈ mapping, mapping.lookup row.2 ≠ some row.1

theorem sharesLineage_eq_false {lineages : List (String × String)} {row : String × String} :
    sharesLineage lineages row = .ok false ↔
      ((lineages.lookup row.1).isSome ∧ (lineages.lookup row.2).isSome) ∧
        lineageAt lineages row.1 ≠ lineageAt lineages row.2 := by
  simp only [sharesLineage,bind_eq_ok,lineageOf_eq_ok,lineageAt]
  cases lineages.lookup row.1 <;> cases lineages.lookup row.2 <;> simp [pure,Except.pure]

theorem infeasibleMapping_eq_false {lineages mapping : List (String × String)} {focalIds : List String} :
    infeasibleMapping lineages mapping focalIds = .ok false ↔ FeasibleMapping lineages mapping focalIds := by
  unfold infeasibleMapping
  split
  · rename_i hbad
    simp only [pure,Except.pure,Except.ok.injEq,Bool.true_eq_false,false_iff]
    intro h
    have hf := sameMembers_eq_true.mpr h.focals
    have hd := sameMembers_eq_true.mpr h.donors
    have hm : mapping.any (fun row => decide (row.1 = row.2)) = false := by
      simpa using fun a b hrow => h.moved (a,b) hrow
    rw [hf,hd,hm] at hbad
    exact absurd hbad (by decide)
  · rename_i hgood
    simp only [Bool.not_eq_true,Bool.or_eq_false_iff,Bool.not_eq_false'] at hgood
    obtain ⟨⟨hf,hd⟩,hm⟩ := hgood
    simp only [List.any_eq_false,decide_eq_true_eq] at hm
    simp only [bind_eq_ok,pure,Except.pure,Except.ok.injEq,Bool.or_eq_false_iff,List.any_eq_false,
      decide_eq_true_eq]
    constructor
    · rintro ⟨_,hshared,rfl,hway⟩
      have hlineage := fun row hrow => sharesLineage_eq_false.mp (anyM_eq_false.mp hshared row hrow)
      exact ⟨sameMembers_eq_true.mp hf,sameMembers_eq_true.mp hd,hm,fun row hrow => (hlineage row hrow).1,
        fun row hrow => (hlineage row hrow).2,hway⟩
    · intro h
      exact ⟨false,anyM_eq_false.mpr fun row hrow =>
        sharesLineage_eq_false.mpr ⟨h.known row hrow,h.crossed row hrow⟩,rfl,h.oneWay⟩

theorem cycleTaskId_eq_some {row : Json} {taskId : String} :
    cycleTaskId row = some taskId ↔ ∃ fields digest, row = .obj fields ∧
      Json.get fields "task_id" = .str taskId ∧ Json.get fields "order_hmac_sha256" = .str digest ∧
        isSha256 digest = true := by
  cases row with
  | obj fields =>
    simp only [cycleTaskId,Option.bind_eq_bind,Option.bind_eq_some_iff,asText_eq_some,
      Option.guard_eq_some',Option.pure_def,Option.some.injEq,Json.obj.injEq]
    constructor
    · rintro ⟨id,hid,digest,hdigest,_,hsha,rfl⟩
      exact ⟨fields,digest,rfl,hid,hdigest,hsha⟩
    · rintro ⟨_,digest,rfl,hid,hdigest,hsha⟩
      exact ⟨taskId,hid,digest,hdigest,(),hsha,rfl⟩
  | null => simp [cycleTaskId]
  | bool b => simp [cycleTaskId]
  | int n => simp [cycleTaskId]
  | float t => simp [cycleTaskId]
  | str t => simp [cycleTaskId]
  | arr xs => simp [cycleTaskId]

theorem published_of_mapM {cycleRows : List Json} {cycle : List String}
    (h : cycleRows.mapM cycleTaskId = some cycle) :
    cycleRows.filterMap (objectGet "task_id") = cycle.map .str := by
  rw [mapM_eq_some] at h
  induction h with
  | nil => rfl
  | cons hrow _ ih =>
    obtain ⟨fields,digest,rfl,hid,_,_⟩ := cycleTaskId_eq_some.mp hrow
    rw [List.filterMap_cons_some (b := .str _) (by rw [objectGet,hid]),List.map_cons,ih]

theorem cycleTaskIds_eq_ok {focalIds cycle : List String} {cycleRows : List Json} :
    cycleTaskIds focalIds cycleRows = .ok cycle ↔
      cycleRows.mapM cycleTaskId = some cycle ∧ cycle.length = focalIds.length ∧
        ∀ x, x ∈ cycle ↔ x ∈ focalIds := by
  simp only [cycleTaskIds,bind_eq_ok,demand_eq_ok,decide_eq_true_eq,required_eq_ok,sameMembers_eq_true]
  have hinj : Function.Injective Json.str := fun a b he => Json.str.inj he
  constructor
  · rintro ⟨_,hlength,_,_,_,hsame,hrows⟩
    refine ⟨hrows,?_,?_⟩
    · rw [← hlength]
      exact (mapM_eq_some.mp hrows).length_eq.symm
    · intro x
      have hx := hsame (.str x)
      rwa [published_of_mapM hrows,List.mem_map_of_injective hinj,List.mem_map_of_injective hinj] at hx
  · rintro ⟨hrows,hlength,hsame⟩
    have hpublished := published_of_mapM hrows
    refine ⟨(),?_,(),?_,(),?_,hrows⟩
    · rw [← hlength]
      exact (mapM_eq_some.mp hrows).length_eq
    · rw [hpublished]
      simp [hashable]
    · rw [hpublished]
      intro x
      simp only [List.mem_map,hsame]

end PneumaLab.ResamplingNull
