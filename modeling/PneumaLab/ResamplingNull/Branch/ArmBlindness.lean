import PneumaLab.ResamplingNull.Branch.Capabilities
import Mathlib.Data.List.Basic
import PneumaLab.Library.Relational
import PneumaLab.ResamplingNull.Branch.Grants

namespace PneumaLab.ResamplingNull

theorem guidancePath_chars (platform : Platform) (taskId opaqueCapabilityId : String) :
    (opaqueGuidancePath platform taskId opaqueCapabilityId).toList = "packet-work/".toList ++
      ((platform.sha256 (utf8 taskId)).hex.toList ++ ("/guidance-".toList ++ (opaqueCapabilityId.toList ++
        ".txt".toList))) := by
  simp only [opaqueGuidancePath,guidanceTail,String.toList_append,List.append_assoc]

theorem hexChars_of_sha {text : String} (h : isSha256 text = true) :
    text.toList.length = 64 ∧ ∀ c ∈ text.toList, c ∈ lowerHex := by
  simp only [isSha256,Bool.and_eq_true,decide_eq_true_eq,List.all_eq_true] at h
  exact h

theorem guidancePath_canonical (platform : Platform) (taskId : String) {opaqueCapabilityId : String}
    (h : isSha256 opaqueCapabilityId = true) :
    canonicalGuidance (opaqueGuidancePath platform taskId opaqueCapabilityId) = true := by
  have hsha := Digest.isSha256_hex (platform.sha256 (utf8 taskId))
  obtain ⟨hlength,_⟩ := hexChars_of_sha hsha
  obtain ⟨hlength',_⟩ := hexChars_of_sha h
  have hwork : "packet-work/".toList.length = 12 := rfl
  have hname : "/guidance-".toList.length = 10 := rfl
  have hfirst : (opaqueGuidancePath platform taskId opaqueCapabilityId).toList.take 12 = "packet-work/".toList := by
    rw [guidancePath_chars,← hwork,List.take_left]
  have htask : (opaqueGuidancePath platform taskId opaqueCapabilityId).toList.drop 12 =
      (platform.sha256 (utf8 taskId)).hex.toList ++ ("/guidance-".toList ++ (opaqueCapabilityId.toList ++
        ".txt".toList)) := by
    rw [guidancePath_chars,← hwork,List.drop_left]
  have hguidance : (opaqueGuidancePath platform taskId opaqueCapabilityId).toList.drop 76 =
      "/guidance-".toList ++ (opaqueCapabilityId.toList ++ ".txt".toList) := by
    rw [show 76 = 12 + 64 from rfl,← List.drop_drop,htask,← hlength,List.drop_left]
  have hcapability : (opaqueGuidancePath platform taskId opaqueCapabilityId).toList.drop 86 =
      opaqueCapabilityId.toList ++ ".txt".toList := by
    rw [show 86 = 76 + 10 from rfl,← List.drop_drop,hguidance,← hname,List.drop_left]
  have hsuffix : (opaqueGuidancePath platform taskId opaqueCapabilityId).toList.drop 150 = ".txt".toList := by
    rw [show 150 = 86 + 64 from rfl,← List.drop_drop,hcapability,← hlength',List.drop_left]
  simp only [canonicalGuidance,hfirst,htask,hguidance,hcapability,hsuffix]
  rw [← hlength,List.take_left,hlength,← hlength',List.take_left,← hname,List.take_left,String.ofList_toList,
    String.ofList_toList,hsha,h]
  rfl

theorem guidancePath_hides (platform : Platform) (taskId : String) {opaqueCapabilityId : String}
    (h : isSha256 opaqueCapabilityId = true) :
    armOpaque (opaqueGuidancePath platform taskId opaqueCapabilityId) = true := by
  have hdigits : ∀ text, isSha256 text = true → text.toList.map Char.toLower = text.toList ∧ 'l' ∉ text.toList ∧
      's' ∉ text.toList ∧ text.toList.count 'n' = 0 := by
    intro text htext
    obtain ⟨_,hmem⟩ := hexChars_of_sha htext
    have hall : lowerHex.all (fun c => decide (c.toLower = c ∧ c ≠ 'l' ∧ c ≠ 's' ∧ c ≠ 'n')) = true := by decide
    have hplain : ∀ c ∈ lowerHex, c.toLower = c ∧ c ≠ 'l' ∧ c ≠ 's' ∧ c ≠ 'n' := fun c hc =>
      of_decide_eq_true (List.all_eq_true.mp hall c hc)
    refine ⟨?_,fun hl => (hplain _ (hmem _ hl)).2.1 rfl,fun hs => (hplain _ (hmem _ hs)).2.2.1 rfl,
      List.count_eq_zero.mpr fun hn => (hplain _ (hmem _ hn)).2.2.2 rfl⟩
    rw [List.map_congr_left fun c hc => (hplain c (hmem c hc)).1,List.map_id']
  obtain ⟨htask,htaskL,htaskS,htaskN⟩ := hdigits _ (Digest.isSha256_hex (platform.sha256 (utf8 taskId)))
  obtain ⟨hcap,hcapL,hcapS,hcapN⟩ := hdigits _ h
  have hlowered : lowered (opaqueGuidancePath platform taskId opaqueCapabilityId) =
      (opaqueGuidancePath platform taskId opaqueCapabilityId).toList := by
    have hwork : "packet-work/".toList.map Char.toLower = "packet-work/".toList := by decide
    have hname : "/guidance-".toList.map Char.toLower = "/guidance-".toList := by decide
    have htail : ".txt".toList.map Char.toLower = ".txt".toList := by decide
    rw [lowered,guidancePath_chars]
    simp only [List.map_append,htask,hcap,hwork,hname,htail]
  have hl : 'l' ∉ (opaqueGuidancePath platform taskId opaqueCapabilityId).toList := by
    rw [guidancePath_chars]
    simp only [List.mem_append,htaskL,hcapL,false_or,not_or]
    decide
  have hs : 's' ∉ (opaqueGuidancePath platform taskId opaqueCapabilityId).toList := by
    rw [guidancePath_chars]
    simp only [List.mem_append,htaskS,hcapS,false_or,not_or]
    decide
  have hn : (opaqueGuidancePath platform taskId opaqueCapabilityId).toList.count 'n' = 1 := by
    rw [guidancePath_chars]
    simp only [List.count_append,htaskN,hcapN]
    decide
  simp only [armOpaque,armWords,hlowered,List.all_eq_true,Bool.not_eq_true',decide_eq_false_iff_not]
  intro word hword hword'
  simp only [List.mem_cons,List.not_mem_nil,or_false] at hword
  rcases hword with rfl | rfl | rfl | rfl
  · exact hl (hword'.subset (by decide))
  · exact hs (hword'.subset (by decide))
  · have hcount := hword'.sublist.count_le 'n'
    rw [hn] at hcount
    exact absurd hcount (by decide)
  · exact hl (hword'.subset (by decide))

theorem guidancePath_accepted (platform : Platform) (taskId field : String) {opaqueCapabilityId : String}
    (h : isSha256 opaqueCapabilityId = true) :
    requireCanonicalGuidancePath (opaqueGuidancePath platform taskId opaqueCapabilityId) field = .ok () := by
  have hne : opaqueGuidancePath platform taskId opaqueCapabilityId ≠ "" := by
    intro hempty
    have hchars := guidancePath_chars platform taskId opaqueCapabilityId
    rw [hempty] at hchars
    cases hchars
  simp only [requireCanonicalGuidancePath,bind_eq_ok,demand_eq_ok,decide_eq_true_eq]
  exact ⟨(),hne,(),guidancePath_hides platform taskId h,guidancePath_canonical platform taskId h⟩

theorem guidancePath_injective (platform : Platform) (taskId : String) {left right : String}
    (h : opaqueGuidancePath platform taskId left = opaqueGuidancePath platform taskId right) : left = right := by
  have hchars := congrArg String.toList h
  rw [guidancePath_chars,guidancePath_chars,List.append_cancel_left_eq,List.append_cancel_left_eq,
    List.append_cancel_left_eq,List.append_cancel_right_eq] at hchars
  exact String.toList_injective hchars

structure ArmSwap where
  controls : Bool
  packets : Bool

namespace ArmSwap

def arm (swap : ArmSwap) : Arm → Arm
  | .REAL => if swap.packets then .SHAM else .REAL
  | .SHAM => if swap.packets then .REAL else .SHAM
  | .NONE => if swap.controls then .RESAMPLE else .NONE
  | .RESAMPLE => if swap.controls then .NONE else .RESAMPLE

def pair (swap : ArmSwap) (packets : PacketPair) : PacketPair :=
  if swap.packets then { packets with realRef := packets.shamRef, shamRef := packets.realRef } else packets

end ArmSwap

structure RowRelabelled (swap : ArmSwap) (left right : TaskAssignment) : Prop where
  fields : right = { left with slotArms := right.slotArms }
  arms : ∀ slotId arm, (slotId,arm) ∈ left.slotArms ↔ (slotId,swap.arm arm) ∈ right.slotArms

def EntryRelabelled (swap : ArmSwap) : PacketEntry → PacketEntry → Prop
  | .marker taskId prefixIndexSha256 triggerReason, other => other = .marker taskId prefixIndexSha256 triggerReason
  | .pair packets, .pair others => others = { swap.pair packets with assignmentRef := others.assignmentRef }
  | .pair _, .marker _ _ _ => False

structure Relabelled (relabel : String → ArmSwap) (left right : PacketRecords) : Prop where
  prefixIndexRef : right.prefixIndexRef = left.prefixIndexRef
  allocations : right.allocations = left.allocations
  assignments : List.Forall₂ (fun row other => RowRelabelled (relabel row.taskId) row other) left.assignments
    right.assignments
  entries : List.Forall₂ (fun entry other => EntryRelabelled (relabel entry.taskId) entry other) left.entries
    right.entries

theorem RowRelabelled.taskId {swap : ArmSwap} {left right : TaskAssignment} (h : RowRelabelled swap left right) :
    right.taskId = left.taskId := by
  rw [h.fields]

theorem EntryRelabelled.taskId {swap : ArmSwap} {left right : PacketEntry} (h : EntryRelabelled swap left right) :
    right.taskId = left.taskId := by
  cases left with
  | marker taskId prefixIndexSha256 triggerReason =>
    rw [EntryRelabelled] at h
    rw [h]
  | pair packets =>
    cases right with
    | marker _ _ _ => exact h.elim
    | pair others =>
      rw [EntryRelabelled] at h
      rw [h]
      cases hswap : swap.packets <;> simp [PacketEntry.taskId,ArmSwap.pair,hswap]

section Arms

variable {row : TaskAssignment} {taskId : String} {arms : List (Arm × String)}

theorem addArm_eq_ok {known : List (Arm × String)} {entry : String × Arm}
    (h : addArm known entry = .ok arms) : arms = known ++ [entry.swap] ∧ entry.2 ∉ known.map Prod.fst := by
  simp only [addArm,bind_eq_ok,demand_eq_ok,Bool.and_eq_true,List.all_eq_true,decide_eq_true_eq] at h
  obtain ⟨_,⟨_,hfresh⟩,hreturn⟩ := h
  cases hreturn
  refine ⟨rfl,fun hmem => ?_⟩
  obtain ⟨other,hother,hsame⟩ := List.mem_map.mp hmem
  exact hfresh other hother hsame

theorem armSlots_eq_ok (h : armSlots row taskId = .ok arms) :
    arms.length = 4 ∧ ∀ arm slotId, arms.lookup arm = some slotId ↔ (slotId,arm) ∈ row.slotArms := by
  simp only [armSlots,bind_eq_ok,demand_eq_ok,decide_eq_true_eq] at h
  obtain ⟨_,_,_,hlength,_,hfold,_,_,hreturn⟩ := h
  cases hreturn
  have hrun : arms = row.slotArms.map Prod.swap ∧ (arms.map Prod.fst).Nodup := by
    refine foldlM_reaches (P := fun done known => known = done.map Prod.swap ∧ (known.map Prod.fst).Nodup)
      ⟨rfl,List.nodup_nil⟩ ?_ hfold
    rintro done entry known next _ ⟨hknown,hnodup⟩ hnext
    obtain ⟨rfl,hfresh⟩ := addArm_eq_ok hnext
    rw [hknown,List.map_append]
    refine ⟨rfl,?_⟩
    rw [List.map_append,← hknown,List.nodup_append]
    refine ⟨hnodup,List.nodup_singleton _,?_⟩
    rintro arm harm _ hlast rfl
    rw [List.mem_singleton.mp hlast] at harm
    exact hfresh harm
  obtain ⟨hrows,hnodup⟩ := hrun
  refine ⟨by rw [hrows,List.length_map,hlength],fun arm slotId => ?_⟩
  have hmem : (arm,slotId) ∈ arms ↔ (slotId,arm) ∈ row.slotArms := by
    rw [hrows,List.mem_map]
    constructor
    · rintro ⟨⟨_,_⟩,hentry,heq⟩
      cases heq
      exact hentry
    · exact fun hentry => ⟨(slotId,arm),hentry,rfl⟩
  rw [← hmem]
  exact ⟨mem_of_lookup,lookup_of_mem hnodup⟩

theorem slotOrder_length {allocation : AllocationReceipt} {ordered : List (String × String)}
    (h : slotOrder allocation taskId = .ok ordered) : ordered.length = 4 := by
  simp only [slotOrder,bind_eq_ok,demand_eq_ok,Bool.and_eq_true,decide_eq_true_eq] at h
  obtain ⟨_,_,_,⟨_,hlength⟩,_,_,_,_,hreturn⟩ := h
  cases hreturn
  exact hlength

theorem armed_nodup {slots named : List String} (hslots : slots.Nodup) (hsub : slots ⊆ named)
    (hlength : slots.length = named.length) : named.Nodup :=
  ((List.subperm_of_subset hslots hsub).perm_of_length_le hlength.ge).nodup_iff.mp hslots

end Arms

structure PacketSlots (row : TaskAssignment) (realSlot shamSlot : String) : Prop where
  real : ∀ slotId, (slotId,Arm.REAL) ∈ row.slotArms ↔ slotId = realSlot
  sham : ∀ slotId, (slotId,Arm.SHAM) ∈ row.slotArms ↔ slotId = shamSlot
  distinct : realSlot ≠ shamSlot

def grantsOf (allocation : AllocationReceipt) (granted : List (String × ArtifactRef)) : List OpaqueSlotGrant :=
  allocation.slotCapabilities.map fun slot => ⟨slot.1,slot.2,granted.lookup slot.1⟩

inductive Resolved (row : TaskAssignment) (allocation : AllocationReceipt) : PacketEntry → CapabilitiesRow → Prop where
  | marker {taskId prefixIndexSha256 triggerReason : String} :
    Resolved row allocation (.marker taskId prefixIndexSha256 triggerReason) ⟨row.taskId,false,grantsOf allocation []⟩
  | pair {packets : PacketPair} {realSlot shamSlot : String} (slots : PacketSlots row realSlot shamSlot) :
    Resolved row allocation (.pair packets)
      ⟨row.taskId,true,grantsOf allocation [(realSlot,packets.realRef),(shamSlot,packets.shamRef)]⟩

section Tasks

variable {platform : Platform} {files : Files} {records : PacketRecords} {row : TaskAssignment}
  {allocation : AllocationReceipt} {capabilities : TaskPacketCapabilities}

theorem guidanceRef_eq_ok {ref granted : ArtifactRef} {field taskId capability : String}
    (h : guidanceRef platform files ref field taskId capability = .ok granted) : granted = ref := by
  simp only [guidanceRef,bind_eq_ok] at h
  obtain ⟨_,_,_,_,_,_,_,_,hreturn⟩ := h
  cases hreturn
  rfl

theorem resolved_of_task (h : resolveTask platform files records (row,allocation) = .ok capabilities) :
    ∃ entry, records.entries.find? (fun entry => entry.taskId = row.taskId) = some entry ∧
      Resolved row allocation entry capabilities.row := by
  simp only [resolveTask,bind_eq_ok,required_eq_ok,demand_eq_ok,Bool.and_eq_true,List.all_eq_true,
    decide_eq_true_eq] at h
  obtain ⟨_,_,entry,hfind,ordered,hordered,arms,harms,_,⟨hnamed,_⟩,_,_,hentry⟩ := h
  have hfour := slotOrder_length hordered
  obtain ⟨_,rfl,hslots,_⟩ := slotOrder_eq_ok hordered
  obtain ⟨hlength,hlookup⟩ := armSlots_eq_ok harms
  refine ⟨entry,hfind,?_⟩
  cases entry with
  | marker taskId prefixIndexSha256 triggerReason =>
    simp only [resolveMarker,bind_eq_ok,build_eq_ok] at hentry
    obtain ⟨_,_,_,_,hrow⟩ := hentry
    rw [hrow]
    exact .marker
  | pair packets =>
    simp only [resolvePair,bind_eq_ok,build_eq_ok,required_eq_ok] at hentry
    obtain ⟨_,_,_,_,realSlot,hreal,shamSlot,hsham,_,_,_,_,realRef,hrealRef,shamRef,hshamRef,hrow⟩ := hentry
    rw [hrow,guidanceRef_eq_ok hrealRef,guidanceRef_eq_ok hshamRef]
    have hvalues : (arms.map Prod.snd).Nodup := by
      refine armed_nodup hslots ?_ (by rw [List.length_map,List.length_map,hfour,hlength])
      intro slotId hslot
      obtain ⟨slot,hmem,rfl⟩ := List.mem_map.mp hslot
      exact hnamed slot hmem
    refine .pair ⟨fun slotId => ?_,fun slotId => ?_,fun hsame => ?_⟩
    · rw [← hlookup,hreal,Option.some.injEq,eq_comm]
    · rw [← hlookup,hsham,Option.some.injEq,eq_comm]
    · have hentries : (Arm.REAL,realSlot) = (Arm.SHAM,shamSlot) :=
        List.inj_on_of_nodup_map hvalues (mem_of_lookup hreal) (mem_of_lookup hsham) hsame
      cases hentries

theorem PacketSlots.unique {realSlot shamSlot realSlot' shamSlot' : String} (h : PacketSlots row realSlot shamSlot)
    (h' : PacketSlots row realSlot' shamSlot') : realSlot' = realSlot ∧ shamSlot' = shamSlot :=
  ⟨(h.real realSlot').mp ((h'.real realSlot').mpr rfl),(h.sham shamSlot').mp ((h'.sham shamSlot').mpr rfl)⟩

theorem PacketSlots.relabelled {swap : ArmSwap} {other : TaskAssignment} (hrow : RowRelabelled swap row other)
    {realSlot shamSlot : String} (h : PacketSlots row realSlot shamSlot) :
    PacketSlots other (if swap.packets then shamSlot else realSlot) (if swap.packets then realSlot else shamSlot) := by
  have hreal := fun slotId => hrow.arms slotId .REAL
  have hsham := fun slotId => hrow.arms slotId .SHAM
  cases hswap : swap.packets with
  | false =>
    simp only [ArmSwap.arm,hswap] at hreal hsham
    exact ⟨fun slotId => (hreal slotId).symm.trans (h.real slotId),
      fun slotId => (hsham slotId).symm.trans (h.sham slotId),h.distinct⟩
  | true =>
    simp only [ArmSwap.arm,hswap] at hreal hsham
    exact ⟨fun slotId => (hsham slotId).symm.trans (h.sham slotId),
      fun slotId => (hreal slotId).symm.trans (h.real slotId),h.distinct.symm⟩

theorem lookup_swap {α : Type} {first second : String} (hne : first ≠ second) (a b : α) (key : String) :
    [(first,a),(second,b)].lookup key = [(second,b),(first,a)].lookup key := by
  by_cases hfirst : key = first
  · subst hfirst
    simp [List.lookup_cons,beq_false_of_ne hne]
  · by_cases hsecond : key = second
    · subst hsecond
      simp [List.lookup_cons,beq_false_of_ne hfirst]
    · simp [List.lookup_cons,beq_false_of_ne hfirst,beq_false_of_ne hsecond]

theorem resolved_blind {swap : ArmSwap} {other : TaskAssignment} {entry entry' : PacketEntry}
    {grants grants' : CapabilitiesRow} (hrow : RowRelabelled swap row other) (hentry : EntryRelabelled swap entry entry')
    (h : Resolved row allocation entry grants) (h' : Resolved other allocation entry' grants') : grants = grants' := by
  cases h with
  | marker =>
    rw [EntryRelabelled] at hentry
    subst hentry
    cases h'
    rw [hrow.taskId]
  | @pair packets realSlot shamSlot slots =>
    cases h' with
    | marker => exact hentry.elim
    | @pair packets' realSlot' shamSlot' slots' =>
      obtain ⟨rfl,rfl⟩ := (slots.relabelled hrow).unique slots'
      rw [EntryRelabelled] at hentry
      rw [hentry,hrow.taskId]
      cases hswap : swap.packets with
      | false => simp [ArmSwap.pair,hswap]
      | true =>
        simp only [ArmSwap.pair,hswap,if_true,grantsOf,CapabilitiesRow.mk.injEq,true_and]
        refine List.map_congr_left fun slot _ => ?_
        rw [lookup_swap slots.distinct]

end Tasks

section Blindness

variable {platform : Platform} {leftFiles rightFiles : Files} {left right : PacketRecords} {relabel : String → ArmSwap}

theorem resolveTask_blind (hrelabelled : Relabelled relabel left right) {row other : TaskAssignment}
    (hrow : RowRelabelled (relabel row.taskId) row other) (allocation : AllocationReceipt) :
    Agree Eq (resolveTask platform leftFiles left (row,allocation))
      (resolveTask platform rightFiles right (other,allocation)) := by
  intro capabilities capabilities' h h'
  obtain ⟨entry,hfind,hresolved⟩ := resolved_of_task h
  obtain ⟨entry',hfind',hresolved'⟩ := resolved_of_task h'
  have hentries : List.Forall₂ (fun entry other => decide (entry.taskId = row.taskId) =
      decide (other.taskId = row.taskId) ∧ EntryRelabelled (relabel entry.taskId) entry other) left.entries
      right.entries :=
    hrelabelled.entries.imp fun entry other hentry => ⟨by rw [hentry.taskId],hentry⟩
  rw [hrow.taskId] at hfind'
  have hentry := find_related hentries hfind hfind'
  rw [(key_of_find hfind).2] at hentry
  have hgrants := resolved_blind hrow hentry hresolved hresolved'
  cases capabilities
  cases capabilities'
  cases hgrants
  rfl

theorem resolveRecords_blind (hrelabelled : Relabelled relabel left right) :
    Agree Eq (resolveRecords platform leftFiles left) (resolveRecords platform rightFiles right) := by
  intro resolved resolved' h h'
  simp only [resolveRecords,bind_eq_ok] at h h'
  obtain ⟨_,_,_,_,_,_,h⟩ := h
  obtain ⟨_,_,_,_,_,_,h'⟩ := h'
  have hrows : List.Forall₂ (fun rows others => Agree Eq (resolveTask platform leftFiles left rows)
      (resolveTask platform rightFiles right others)) (left.assignments.zip left.allocations)
      (right.assignments.zip left.allocations) := by
    have hassignments := hrelabelled.assignments
    generalize left.allocations = allocations
    generalize left.assignments = rows,right.assignments = others at hassignments
    induction hassignments generalizing allocations with
    | nil => exact .nil
    | cons hhead _ ih =>
      cases allocations with
      | nil => exact .nil
      | cons allocation allocations => exact .cons (resolveTask_blind hrelabelled hhead allocation) (ih allocations)
  rw [hrelabelled.allocations] at h'
  have hsame := Agree.mapM hrows resolved resolved' h h'
  rwa [List.forall₂_eq_eq_eq] at hsame

end Blindness

def WorkOrderRow.reissued (packetIndexSha256 : String) (order : WorkOrderRow) : WorkOrderRow :=
  { order with packetIndexSha256 := packetIndexSha256 }

theorem reissued_postInit {order : WorkOrderRow} {packetIndexSha256 : String} (h : order.postInit = .ok ())
    (hsha : isSha256 packetIndexSha256 = true) : (order.reissued packetIndexSha256).postInit = .ok () := by
  simp only [WorkOrderRow.postInit,bind_eq_ok] at h
  obtain ⟨_,hslot,_,hstudy,_,htask,_,hbenchmark,_,hsnapshot,hguidance⟩ := h
  simp only [WorkOrderRow.postInit,WorkOrderRow.reissued,bind_eq_ok]
  refine ⟨(),hslot,(),hstudy,(),htask,(),hbenchmark,(),hsnapshot,?_⟩
  cases href : order.privateGuidanceRef with
  | none =>
    simp only [href,bind_eq_ok] at hguidance ⊢
    obtain ⟨_,hstart,_,_,hfreeze⟩ := hguidance
    exact ⟨(),hstart,(),requireSha256_eq_ok.mpr hsha,hfreeze⟩
  | some ref =>
    simp only [href,bind_eq_ok] at hguidance ⊢
    obtain ⟨_,hrole,_,hpath,_,hstart,_,_,hfreeze⟩ := hguidance
    exact ⟨(),hrole,(),hpath,(),hstart,(),requireSha256_eq_ok.mpr hsha,hfreeze⟩

section Orders

variable (studyId benchmark : String) (view : FrozenPrefixView) (branchCaps : BranchCaps)
  (capabilities : TaskPacketCapabilities) (packetIndexSha256 analysisFreezeSha256 : String)

def issueOrder (slot : BranchSlot × String) : Py OpaqueSlotWorkOrder := do
  (identityRow slot).postInit
  let grant ← capabilities.grantFor slot.2
  let row := workOrderRow studyId benchmark view branchCaps packetIndexSha256 analysisFreezeSha256 slot
    grant.guidanceRef
  construct row.postInit fun h => OpaqueSlotWorkOrder.mk row h

variable {studyId benchmark view branchCaps capabilities packetIndexSha256 analysisFreezeSha256}

theorem issueOrder_eq_ok {slot : BranchSlot × String} {order : OpaqueSlotWorkOrder} :
    issueOrder studyId benchmark view branchCaps capabilities packetIndexSha256 analysisFreezeSha256 slot = .ok order ↔
      (identityRow slot).postInit = .ok () ∧ ∃ grant, capabilities.grantFor slot.2 = .ok grant ∧
        order.row = workOrderRow studyId benchmark view branchCaps packetIndexSha256 analysisFreezeSha256 slot
          grant.guidanceRef := by
  simp only [issueOrder,bind_eq_ok,construct_eq_ok]
  constructor
  · rintro ⟨_,hslot,grant,hgrant,_,rfl⟩
    exact ⟨hslot,grant,hgrant,rfl⟩
  · rintro ⟨hslot,grant,hgrant,hrow⟩
    refine ⟨(),hslot,grant,hgrant,hrow ▸ order.built,?_⟩
    cases order
    cases hrow
    rfl

theorem issueOrder_agree (otherSha256 : String) (slot : BranchSlot × String) :
    Agree (fun order other : OpaqueSlotWorkOrder => other.row = order.row.reissued otherSha256)
      (issueOrder studyId benchmark view branchCaps capabilities packetIndexSha256 analysisFreezeSha256 slot)
      (issueOrder studyId benchmark view branchCaps capabilities otherSha256 analysisFreezeSha256 slot) := by
  intro order other h h'
  obtain ⟨_,grant,hgrant,hrow⟩ := issueOrder_eq_ok.mp h
  obtain ⟨_,grant',hgrant',hrow'⟩ := issueOrder_eq_ok.mp h'
  rw [hgrant,Except.ok.injEq] at hgrant'
  rw [hrow,hrow',hgrant']
  rfl

theorem issueOrder_follows {otherSha256 : String} (hsha : isSha256 otherSha256 = true) (slot : BranchSlot × String) :
    Follows (fun order other : OpaqueSlotWorkOrder => other.row = order.row.reissued otherSha256)
      (issueOrder studyId benchmark view branchCaps capabilities packetIndexSha256 analysisFreezeSha256 slot)
      (issueOrder studyId benchmark view branchCaps capabilities otherSha256 analysisFreezeSha256 slot) := by
  intro order h
  obtain ⟨hslot,grant,hgrant,hrow⟩ := issueOrder_eq_ok.mp h
  refine ⟨⟨order.row.reissued otherSha256,reissued_postInit order.built hsha⟩,?_,rfl⟩
  exact issueOrder_eq_ok.mpr ⟨hslot,grant,hgrant,congrArg (WorkOrderRow.reissued otherSha256) hrow⟩

end Orders

section Preparation

variable {platform : Platform} {decode : PacketDecoders} {files : Files} {studyId benchmark : String}
  {view : FrozenPrefixView} {slots : List BranchSlot} {branchCaps : BranchCaps}
  {packetIndexRef analysisFreezeRef : ArtifactRef} {orders : List OpaqueSlotWorkOrder}

structure PreparedOrders (platform : Platform) (resolved : List TaskPacketCapabilities) (studyId benchmark : String)
    (view : FrozenPrefixView) (slots : List BranchSlot) (branchCaps : BranchCaps)
    (packetIndexRef analysisFreezeRef : ArtifactRef) (orders : List OpaqueSlotWorkOrder) : Prop where
  triggered : view.triggerReason ≠ .noInterventionOpportunity
  packetRole : packetIndexRef.role = "packet_index_sealed"
  freezeRole : analysisFreezeRef.role = "analysis_freeze"
  issued : ∃ capabilities ordered, capabilitiesFor resolved view.taskId = .ok capabilities ∧
    capabilities.row.triggered = true ∧ orderedSlots slots capabilities = .ok ordered ∧
    ordered.mapM (issueOrder studyId benchmark view branchCaps capabilities packetIndexRef.sha256
      analysisFreezeRef.sha256) = .ok orders
  four : orders.length = 4
  distinct : (orders.map fun order => jsonSha256 platform order.row.json).Nodup

theorem prepared_iff : prepareOpaqueWorkOrders platform decode files studyId benchmark view slots branchCaps
    packetIndexRef analysisFreezeRef = .ok orders ↔
      ∃ resolved, resolvePacketCapabilities platform decode files packetIndexRef = .ok resolved ∧
        PreparedOrders platform resolved studyId benchmark view slots branchCaps packetIndexRef analysisFreezeRef orders := by
  simp only [prepareOpaqueWorkOrders,bind_eq_ok,demand_eq_ok,decide_eq_true_eq]
  constructor
  · rintro ⟨_,htriggered,_,hpacket,_,hfreeze,resolved,hresolved,capabilities,hcapabilities,_,hflag,ordered,hordered,_,
      hissued,_,hfour,_,hdistinct,hreturn⟩
    cases hreturn
    exact ⟨resolved,hresolved,htriggered,hpacket,hfreeze,⟨capabilities,ordered,hcapabilities,hflag,hordered,hissued⟩,
      hfour,hdistinct⟩
  · rintro ⟨resolved,hresolved,htriggered,hpacket,hfreeze,⟨capabilities,ordered,hcapabilities,hflag,hordered,hissued⟩,
      hfour,hdistinct⟩
    exact ⟨(),htriggered,(),hpacket,(),hfreeze,resolved,hresolved,capabilities,hcapabilities,(),hflag,ordered,hordered,
      orders,hissued,(),hfour,(),hdistinct,rfl⟩

variable {resolved : List TaskPacketCapabilities} {otherIndexRef : ArtifactRef}

theorem PreparedOrders.slots_nodup (h : PreparedOrders platform resolved studyId benchmark view slots branchCaps packetIndexRef
    analysisFreezeRef orders) : (orders.map fun order => order.row.slot.slotId).Nodup := by
  obtain ⟨capabilities,ordered,_,_,hordered,hissued⟩ := h.issued
  obtain ⟨hids,rfl⟩ := orderedSlots_eq_ok hordered
  have hsame : (slots.zip (capabilities.row.grants.map OpaqueSlotGrant.opaqueCapabilityId)).map
      (fun slot => slot.1.slotId) = orders.map fun order => order.row.slot.slotId := by
    refine map_eq_of_forall₂ ((mapM_eq_ok.mp hissued).imp fun slot order horder => ?_)
    obtain ⟨_,grant,_,hrow⟩ := issueOrder_eq_ok.mp horder
    rw [hrow]
    rfl
  have hlength : slots.length ≤ (capabilities.row.grants.map OpaqueSlotGrant.opaqueCapabilityId).length := by
    have hlengths := congrArg List.length hids
    rw [List.length_map,List.length_map] at hlengths
    rw [List.length_map,hlengths]
  rw [← hsame,← Function.comp_def (g := Prod.fst) (f := BranchSlot.slotId),← List.map_map,List.map_fst_zip hlength,hids]
  exact (grants_nodup capabilities).1

theorem PreparedOrders.agree {others : List OpaqueSlotWorkOrder}
    (h : PreparedOrders platform resolved studyId benchmark view slots branchCaps packetIndexRef analysisFreezeRef orders)
    (h' : PreparedOrders platform resolved studyId benchmark view slots branchCaps otherIndexRef analysisFreezeRef others) :
    others.map OpaqueSlotWorkOrder.row = orders.map fun order => order.row.reissued otherIndexRef.sha256 := by
  obtain ⟨capabilities,ordered,hcapabilities,_,hordered,hissued⟩ := h.issued
  obtain ⟨capabilities',ordered',hcapabilities',_,hordered',hissued'⟩ := h'.issued
  rw [hcapabilities,Except.ok.injEq] at hcapabilities'
  subst hcapabilities'
  rw [hordered,Except.ok.injEq] at hordered'
  subst hordered'
  have hrows := Agree.mapM (List.forall₂_same.mpr fun slot _ => issueOrder_agree otherIndexRef.sha256 slot)
    orders others hissued hissued'
  exact map_eq_of_forall₂ hrows.flip

theorem PreparedOrders.follows
    (h : PreparedOrders platform resolved studyId benchmark view slots branchCaps packetIndexRef analysisFreezeRef orders)
    (hrole : otherIndexRef.role = "packet_index_sealed") (hsha : isSha256 otherIndexRef.sha256 = true)
    (hcollision : CollisionFree platform
      (orderTexts (orders.map fun order => order.row.reissued otherIndexRef.sha256))) :
    ∃ others, PreparedOrders platform resolved studyId benchmark view slots branchCaps otherIndexRef analysisFreezeRef
      others := by
  obtain ⟨capabilities,ordered,hcapabilities,hflag,hordered,hissued⟩ := h.issued
  obtain ⟨others,hothers,hrows⟩ := Follows.mapM (List.forall₂_same.mpr fun slot _ => issueOrder_follows hsha slot)
    orders hissued
  have hsame : others.map OpaqueSlotWorkOrder.row = orders.map fun order => order.row.reissued otherIndexRef.sha256 :=
    map_eq_of_forall₂ hrows.flip
  refine ⟨others,h.triggered,hrole,h.freezeRole,⟨capabilities,ordered,hcapabilities,hflag,hordered,hothers⟩,
    hrows.length_eq ▸ h.four,?_⟩
  have hslots : ((orders.map fun order => order.row.reissued otherIndexRef.sha256).map
      fun order => order.slot.slotId).Nodup := by
    rw [List.map_map]
    exact h.slots_nodup
  have hdistinct := digests_nodup hcollision hslots
  rw [← hsame,List.map_map] at hdistinct
  exact hdistinct

end Preparation

theorem packetIndex_of_load {platform : Platform} {decode : PacketDecoders} {files : Files}
    {packetIndexRef : ArtifactRef} {records : PacketRecords}
    (h : loadPacketRecords platform decode files packetIndexRef = .ok records) :
    packetIndexRef.role = "packet_index_sealed" ∧ isSha256 packetIndexRef.sha256 = true := by
  obtain ⟨sealed,_,_,hsealed,_⟩ := records_of_load h
  obtain ⟨raw,_,hsha,_⟩ := loadSealed_eq_ok hsealed
  simp only [loadSealed,bind_eq_ok,demand_eq_ok,decide_eq_true_eq] at hsealed
  obtain ⟨_,hrole,_⟩ := hsealed
  exact ⟨hrole,hsha ▸ Digest.isSha256_hex _⟩

theorem grants_blind_to_arms (platform : Platform) (decode : PacketDecoders) (leftFiles rightFiles : Files)
    (leftIndexRef rightIndexRef : ArtifactRef) (left right : PacketRecords) (relabel : String → ArmSwap)
    (hleft : loadPacketRecords platform decode leftFiles leftIndexRef = .ok left)
    (hright : loadPacketRecords platform decode rightFiles rightIndexRef = .ok right)
    (hrelabelled : Relabelled relabel left right) (granted regranted : List TaskPacketCapabilities)
    (hgranted : resolvePacketCapabilities platform decode leftFiles leftIndexRef = .ok granted)
    (hregranted : resolvePacketCapabilities platform decode rightFiles rightIndexRef = .ok regranted) :
    regranted = granted ∧
      ∀ studyId benchmark view slots branchCaps analysisFreezeRef orders,
        prepareOpaqueWorkOrders platform decode leftFiles studyId benchmark view slots branchCaps leftIndexRef
          analysisFreezeRef = .ok orders →
        (∀ others, prepareOpaqueWorkOrders platform decode rightFiles studyId benchmark view slots branchCaps
            rightIndexRef analysisFreezeRef = .ok others →
          others.map OpaqueSlotWorkOrder.row = orders.map fun order => order.row.reissued rightIndexRef.sha256) ∧
        (CollisionFree platform (orderTexts (orders.map fun order => order.row.reissued rightIndexRef.sha256)) →
          ∃ others, prepareOpaqueWorkOrders platform decode rightFiles studyId benchmark view slots branchCaps
            rightIndexRef analysisFreezeRef = .ok others) := by
  have hsame : regranted = granted := by
    have hrecords := hgranted
    have hrecords' := hregranted
    simp only [resolvePacketCapabilities,hleft,hright,ok_bind] at hrecords hrecords'
    exact (resolveRecords_blind hrelabelled granted regranted hrecords hrecords').symm
  refine ⟨hsame,fun studyId benchmark view slots branchCaps analysisFreezeRef orders horders => ?_⟩
  obtain ⟨resolved,hresolved,hprepared⟩ := prepared_iff.mp horders
  rw [hgranted,Except.ok.injEq] at hresolved
  subst hresolved
  constructor
  · intro others hothers
    obtain ⟨resolved',hresolved',hprepared'⟩ := prepared_iff.mp hothers
    rw [hregranted,Except.ok.injEq,hsame] at hresolved'
    subst hresolved'
    exact hprepared.agree hprepared'
  · intro hcollision
    obtain ⟨hrole,hsha⟩ := packetIndex_of_load hright
    obtain ⟨others,hothers⟩ := hprepared.follows hrole hsha hcollision
    exact ⟨others,prepared_iff.mpr ⟨granted,hsame ▸ hregranted,hothers⟩⟩

section Sample

def relabelledPlatform : Platform where
  sha256 := fun _ => ⟨List.replicate 32 9,List.length_replicate⟩
  hmac := fun _ _ => ⟨List.replicate 32 9,List.length_replicate⟩
  normalized := fun _ => true
  otherCategory := fun _ => false
  floatRepr := id

def relabelledSha : String := (⟨List.replicate 32 9,List.length_replicate⟩ : Digest).hex

def grantedDigests : List Digest := [0,1,2,3].map fun byte => ⟨List.replicate 32 byte,List.length_replicate⟩

def grantedAllocation : AllocationReceipt where
  taskId := "task"
  slotIdsByOrdinal := ["s0","s1","s2","s3"]
  treatmentAllocationIndex := 0
  allocationRejectionCounter := 0
  noPacketOrientationBit := 0
  orientationRejectionCounter := 0
  slotCapabilities := ["s0","s1","s2","s3"].zip (grantedDigests.map Digest.hex)

def grantedRaw (relabelled : Bool) : Bytes := if relabelled then [1] else []

def grantedFiles : Files := fun relativePath => some (grantedRaw (relativePath = "relabelled.json"))

def grantedRef (role : String) (relabelled : Bool) : ArtifactRef :=
  ⟨role,if relabelled then "relabelled.json" else "records.json",relabelledSha,(grantedRaw relabelled).length,
    "application/json"⟩

def grantedGuidance (digest : Digest) : ArtifactRef :=
  ⟨guidanceRole,opaqueGuidancePath relabelledPlatform "task" digest.hex,relabelledSha,0,guidanceMediaType⟩

def grantedArms (relabelled : Bool) : List (String × Arm) :=
  if relabelled then [("s0",.RESAMPLE),("s1",.NONE),("s2",.SHAM),("s3",.REAL)]
  else [("s0",.NONE),("s1",.RESAMPLE),("s2",.REAL),("s3",.SHAM)]

def grantedAssignment (relabelled : Bool) : TaskAssignment where
  taskId := "task"
  taskLineage := "line"
  donorMatchKind := .matched
  donorTaskId := some "donor"
  donorLineage := some "other line"
  slotArms := grantedArms relabelled
  scheduleSha256 := relabelledSha
  prefixIndexSha256 := relabelledSha

def grantedParents (relabelled : Bool) : PacketParents where
  assignmentRef := grantedRef "resampling_assignment_ledger" relabelled
  prefixIndexRef := grantedRef "resampling_prefix_receipt" false
  tokenizerRef := grantedRef "tokenizer" false
  packetTemplateRef := grantedRef "packet_template" false
  packetPolicyRef := grantedRef "packet_policy" false
  padUnitSetRef := grantedRef "pad_unit_set" false

def grantedPair (relabelled : Bool) : PacketPair where
  taskId := "task"
  donorTaskId := "donor"
  prefixIndexSha256 := relabelledSha
  realRef := grantedGuidance ⟨List.replicate 32 (if relabelled then 3 else 2),List.length_replicate⟩
  shamRef := grantedGuidance ⟨List.replicate 32 (if relabelled then 2 else 3),List.length_replicate⟩
  focalVerifierRef := grantedRef "verifier_evidence" false
  donorVerifierRef := grantedRef "verifier_evidence" false
  assignmentRef := grantedRef "resampling_assignment_ledger" relabelled
  tokenizerRef := grantedRef "tokenizer" false
  packetTemplateRef := grantedRef "packet_template" false
  packetPolicyRef := grantedRef "packet_policy" false
  padUnitSetRef := grantedRef "pad_unit_set" false

def grantedEnvelope : Envelope := ⟨"study","2026-01-01",⟨relabelledSha,relabelledSha⟩⟩

def grantedLedger (relabelled : Bool) : LedgerPayload where
  manifestRef := grantedRef "manifest" false
  scheduleRef := grantedRef "schedule" false
  prefixIndexRef := grantedRef "resampling_prefix_receipt" false
  matchingProgramRef := grantedRef "program" false
  assignmentMasterKeyCommitmentSha256 := relabelledSha
  assignmentPrefixViewSha256 := relabelledSha
  assignmentMode := .syntheticDerangement
  matchingProofRefs := []
  assignments := [grantedAssignment relabelled]
  allocationReceipts := [grantedAllocation]
  donorMatchReceipts := []

def grantedDecoders : PacketDecoders where
  sealed := fun raw => .ok ⟨grantedEnvelope,⟨grantedParents (raw = [1]),grantedRef "packet_index_candidate" (raw = [1])⟩⟩
  candidate := fun raw => .ok ⟨grantedEnvelope,⟨grantedParents (raw = [1]),[.pair (grantedPair (raw = [1]))]⟩⟩
  ledger := fun raw => .ok ⟨grantedEnvelope,grantedLedger (raw = [1])⟩

def grantedRecords (relabelled : Bool) : PacketRecords where
  prefixIndexRef := grantedRef "resampling_prefix_receipt" false
  entries := [.pair (grantedPair relabelled)]
  assignments := [grantedAssignment relabelled]
  allocations := [grantedAllocation]

theorem grantedRecord_loaded {α : Type} {role : String} (field : String) (relabelled : Bool)
    {decode : Bytes → Py (SealedRecord α)} {record : SealedRecord α}
    (hdecode : decode (grantedRaw relabelled) = .ok record) (henvelope : record.envelope = grantedEnvelope) :
    loadSealed relabelledPlatform grantedFiles (grantedRef role relabelled) role field decode = .ok record := by
  have hfile : grantedFiles (grantedRef role relabelled).relativePath = some (grantedRaw relabelled) := by
    cases relabelled <;> rfl
  have hread : readBytes relabelledPlatform grantedFiles (grantedRef role relabelled) = .ok (grantedRaw relabelled) := by
    simp only [readBytes,hfile,bind_eq_ok]
    exact ⟨(),demand_eq_ok.mpr (Bool.and_eq_true_iff.mpr ⟨decide_eq_true rfl,decide_eq_true rfl⟩),rfl⟩
  simp only [loadSealed,hread,ok_bind,hdecode,henvelope,bind_eq_ok,demand_eq_ok]
  exact ⟨(),decide_eq_true rfl,(),rfl,(),by decide,rfl⟩

theorem grantedRecords_loaded (relabelled : Bool) : loadPacketRecords relabelledPlatform grantedDecoders grantedFiles
    (grantedRef "packet_index_sealed" relabelled) = .ok (grantedRecords relabelled) := by
  simp only [loadPacketRecords,bind_eq_ok]
  cases relabelled <;>
  exact ⟨_,grantedRecord_loaded _ _ rfl rfl,_,grantedRecord_loaded _ _ rfl rfl,(),demand_eq_ok.mpr (decide_eq_true rfl),
    (),demand_eq_ok.mpr (decide_eq_true rfl),_,grantedRecord_loaded _ _ rfl rfl,(),rfl,(),rfl,(),
    demand_eq_ok.mpr (decide_eq_true rfl),rfl⟩

theorem granted_relabelled : Relabelled (fun _ => ⟨true,true⟩) (grantedRecords false) (grantedRecords true) := by
  refine ⟨rfl,rfl,.cons ⟨rfl,fun slotId arm => ?_⟩ .nil,.cons rfl .nil⟩
  change (slotId,arm) ∈ grantedArms false ↔ _ ∈ grantedArms true
  cases arm <;> simp [grantedArms,ArmSwap.arm]

theorem granted_sha {text : String} (h : text ∈ grantedDigests.map Digest.hex) : isSha256 text = true := by
  obtain ⟨digest,_,rfl⟩ := List.mem_map.mp h
  exact Digest.isSha256_hex digest

theorem grantedDigests_nodup : (grantedDigests.map Digest.hex).Nodup := by
  have hbytes : (grantedDigests.map Digest.bytes).Nodup := by decide
  exact (List.Nodup.of_map _ hbytes).map fun _ _ => Digest.hex_injective

def grantedRow : CapabilitiesRow :=
  ⟨"task",true,grantsOf grantedAllocation [("s2",grantedGuidance ⟨List.replicate 32 2,List.length_replicate⟩),
    ("s3",grantedGuidance ⟨List.replicate 32 3,List.length_replicate⟩)]⟩

theorem grantedGrant_built (slotId : String) (hslot : slotId ≠ "") (digest : Digest) (guidance : Bool) :
    OpaqueSlotGrant.postInit ⟨slotId,digest.hex,if guidance then some (grantedGuidance digest) else none⟩ = .ok () := by
  simp only [OpaqueSlotGrant.postInit,bind_eq_ok]
  refine ⟨(),demand_eq_ok.mpr (decide_eq_true hslot),(),demand_eq_ok.mpr (Digest.isSha256_hex digest),?_⟩
  cases guidance with
  | false => rfl
  | true =>
    simp only [if_true,bind_eq_ok]
    refine ⟨(),rfl,(),rfl,(),guidancePath_accepted _ _ _ (Digest.isSha256_hex digest),?_⟩
    refine demand_eq_ok.mpr (decide_eq_true ?_)
    rw [grantedGuidance,opaqueGuidancePath,String.toList_append]
    exact List.suffix_append _ _

theorem grantedRow_built : grantedRow.postInit = .ok () := by
  have hpaths : opaqueGuidancePath relabelledPlatform "task" (⟨List.replicate 32 2,List.length_replicate⟩ : Digest).hex ≠
      opaqueGuidancePath relabelledPlatform "task" (⟨List.replicate 32 3,List.length_replicate⟩ : Digest).hex := by
    intro hsame
    have hdigest := congrArg Digest.bytes (Digest.hex_injective (guidancePath_injective _ _ hsame))
    exact absurd hdigest (by decide)
  simp only [CapabilitiesRow.postInit,bind_eq_ok,forM_eq_ok]
  refine ⟨(),?_,(),rfl,(),rfl,(),?_,(),rfl,(),rfl,?_⟩
  · exact List.forall_mem_cons.mpr ⟨grantedGrant_built "s0" (by decide) _ false,List.forall_mem_cons.mpr
      ⟨grantedGrant_built "s1" (by decide) _ false,List.forall_mem_cons.mpr
        ⟨grantedGrant_built "s2" (by decide) _ true,List.forall_mem_cons.mpr
          ⟨grantedGrant_built "s3" (by decide) _ true,fun _ h => absurd h List.not_mem_nil⟩⟩⟩⟩
  · exact demand_eq_ok.mpr (Bool.and_eq_true_iff.mpr ⟨rfl,decide_eq_true grantedDigests_nodup⟩)
  · exact demand_eq_ok.mpr (decide_eq_true (List.nodup_cons.mpr
      ⟨fun hmem => hpaths (List.mem_singleton.mp hmem),List.nodup_singleton _⟩))

theorem grantedSlots_ordered : slotOrder grantedAllocation "task" = .ok grantedAllocation.slotCapabilities := by
  simp only [slotOrder,bind_eq_ok,forM_eq_ok]
  refine ⟨(),rfl,(),rfl,(),?_,(),?_,rfl⟩
  · intro pair hpair
    have hregular : ∀ pair ∈ ["s0","s1","s2","s3"].zip grantedAllocation.slotCapabilities,
        pair.1 ≠ "" ∧ pair.2.1 = pair.1 :=
      List.forall_mem_cons.mpr ⟨⟨by decide,rfl⟩,List.forall_mem_cons.mpr ⟨⟨by decide,rfl⟩,
        List.forall_mem_cons.mpr ⟨⟨by decide,rfl⟩,List.forall_mem_cons.mpr ⟨⟨by decide,rfl⟩,
          fun _ h => absurd h List.not_mem_nil⟩⟩⟩⟩
    obtain ⟨hid,hsame⟩ := hregular pair hpair
    have hdigest := (List.of_mem_zip (List.of_mem_zip hpair).2).2
    exact ⟨(),demand_eq_ok.mpr (decide_eq_true hid),demand_eq_ok.mpr
      (Bool.and_eq_true_iff.mpr ⟨decide_eq_true hsame,granted_sha hdigest⟩)⟩
  · exact demand_eq_ok.mpr (Bool.and_eq_true_iff.mpr ⟨rfl,decide_eq_true grantedDigests_nodup⟩)

theorem grantedGuidance_read (field : String) (digest : Digest) : guidanceRef relabelledPlatform grantedFiles
    (grantedGuidance digest) field "task" digest.hex = .ok (grantedGuidance digest) := by
  have hnamed : (opaqueGuidancePath relabelledPlatform "task" digest.hex = "relabelled.json") = False := by
    refine eq_false fun hsame => ?_
    have hchars := guidancePath_chars relabelledPlatform "task" digest.hex
    rw [hsame] at hchars
    cases hchars
  simp only [guidanceRef,bind_eq_ok]
  refine ⟨(),rfl,(),guidancePath_accepted _ _ _ (Digest.isSha256_hex digest),(),demand_eq_ok.mpr (decide_eq_true rfl),[],
    ?_,rfl⟩
  simp only [readBytes,grantedFiles,grantedGuidance,hnamed,bind_eq_ok]
  exact ⟨(),demand_eq_ok.mpr (Bool.and_eq_true_iff.mpr ⟨rfl,decide_eq_true rfl⟩),rfl⟩

theorem granted_resolved (relabelled : Bool) : resolvePacketCapabilities relabelledPlatform grantedDecoders grantedFiles
    (grantedRef "packet_index_sealed" relabelled) = .ok [⟨grantedRow,grantedRow_built⟩] := by
  have htask : resolveTask relabelledPlatform grantedFiles (grantedRecords relabelled)
      (grantedAssignment relabelled,grantedAllocation) = .ok ⟨grantedRow,grantedRow_built⟩ := by
    simp only [resolveTask,bind_eq_ok]
    cases relabelled with
    | false =>
      exact ⟨(),rfl,_,rfl,_,grantedSlots_ordered,[(.NONE,"s0"),(.RESAMPLE,"s1"),(.REAL,"s2"),(.SHAM,"s3")],rfl,(),rfl,
        (),demand_eq_ok.mpr (decide_eq_true rfl),bind_eq_ok.mpr ⟨(),rfl,bind_eq_ok.mpr ⟨(),rfl,bind_eq_ok.mpr
          ⟨"s2",rfl,bind_eq_ok.mpr ⟨"s3",rfl,bind_eq_ok.mpr ⟨_,rfl,bind_eq_ok.mpr ⟨_,rfl,bind_eq_ok.mpr
            ⟨_,grantedGuidance_read _ _,bind_eq_ok.mpr ⟨_,grantedGuidance_read _ _,build_eq_ok.mpr rfl⟩⟩⟩⟩⟩⟩⟩⟩⟩
    | true =>
      exact ⟨(),rfl,_,rfl,_,grantedSlots_ordered,[(.RESAMPLE,"s0"),(.NONE,"s1"),(.SHAM,"s2"),(.REAL,"s3")],rfl,(),rfl,
        (),demand_eq_ok.mpr (decide_eq_true rfl),bind_eq_ok.mpr ⟨(),rfl,bind_eq_ok.mpr ⟨(),rfl,bind_eq_ok.mpr
          ⟨"s3",rfl,bind_eq_ok.mpr ⟨"s2",rfl,bind_eq_ok.mpr ⟨_,rfl,bind_eq_ok.mpr ⟨_,rfl,bind_eq_ok.mpr
            ⟨_,grantedGuidance_read _ _,bind_eq_ok.mpr ⟨_,grantedGuidance_read _ _,build_eq_ok.mpr rfl⟩⟩⟩⟩⟩⟩⟩⟩⟩
  simp only [resolvePacketCapabilities,grantedRecords_loaded,ok_bind,resolveRecords,bind_eq_ok,mapM_eq_ok]
  refine ⟨(),rfl,(),?_,(),?_,.cons htask .nil⟩
  · cases relabelled <;> rfl
  · cases relabelled <;> rfl

theorem relabelled_sample_blind : (grantedRecords false).assignments ≠ (grantedRecords true).assignments ∧
    resolvePacketCapabilities relabelledPlatform grantedDecoders grantedFiles (grantedRef "packet_index_sealed" true) =
      resolvePacketCapabilities relabelledPlatform grantedDecoders grantedFiles
        (grantedRef "packet_index_sealed" false) := by
  refine ⟨by decide,?_⟩
  obtain ⟨hsame,_⟩ := grants_blind_to_arms relabelledPlatform grantedDecoders grantedFiles grantedFiles
    (grantedRef "packet_index_sealed" false) (grantedRef "packet_index_sealed" true) (grantedRecords false)
    (grantedRecords true) (fun _ => ⟨true,true⟩) (grantedRecords_loaded false) (grantedRecords_loaded true)
    granted_relabelled _ _ (granted_resolved false) (granted_resolved true)
  rw [granted_resolved,granted_resolved,hsame]

end Sample

end PneumaLab.ResamplingNull
