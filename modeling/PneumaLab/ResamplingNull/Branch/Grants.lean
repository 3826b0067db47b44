import PneumaLab.Library.Keyed
import PneumaLab.ResamplingNull.Branch.Digests

namespace PneumaLab.ResamplingNull

theorem build_eq_ok {row : CapabilitiesRow} {capabilities : TaskPacketCapabilities} :
    row.build = .ok capabilities ↔ capabilities.row = row := by
  rw [CapabilitiesRow.build,construct_eq_ok]
  constructor
  · rintro ⟨_,rfl⟩
    rfl
  · rintro rfl
    exact ⟨capabilities.built,rfl⟩

theorem slotOrder_eq_ok {allocation : AllocationReceipt} {taskId : String} {ordered : List (String × String)}
    (h : slotOrder allocation taskId = .ok ordered) :
    allocation.taskId = taskId ∧ ordered = allocation.slotCapabilities ∧
      (ordered.map Prod.fst).Nodup ∧ (ordered.map Prod.snd).Nodup := by
  simp only [slotOrder,bind_eq_ok,demand_eq_ok,Bool.and_eq_true,decide_eq_true_eq] at h
  obtain ⟨_,htask,_,_,_,_,_,⟨hslots,hcapabilities⟩,hreturn⟩ := h
  cases hreturn
  exact ⟨htask,rfl,hslots,hcapabilities⟩

def slotPair (grant : OpaqueSlotGrant) : String × String := (grant.slotId,grant.opaqueCapabilityId)

variable {platform : Platform} {files : Files} {records : PacketRecords} {row : TaskAssignment}
  {allocation : AllocationReceipt} {capabilities : TaskPacketCapabilities}

theorem resolveTask_slots (h : resolveTask platform files records (row,allocation) = .ok capabilities) :
    capabilities.row.taskId = row.taskId ∧ allocation.taskId = row.taskId ∧
      capabilities.row.grants.map slotPair = allocation.slotCapabilities := by
  simp only [resolveTask,bind_eq_ok] at h
  obtain ⟨_,_,entry,_,ordered,hordered,arms,_,_,_,_,_,hentry⟩ := h
  obtain ⟨htask,rfl,_,_⟩ := slotOrder_eq_ok hordered
  cases entry with
  | marker _ _ reason =>
    simp only [resolveMarker,bind_eq_ok,build_eq_ok] at hentry
    obtain ⟨_,_,_,_,hrow⟩ := hentry
    rw [hrow]
    refine ⟨rfl,htask,?_⟩
    rw [List.map_map]
    exact List.map_id _
  | pair packets =>
    simp only [resolvePair,bind_eq_ok,build_eq_ok] at hentry
    obtain ⟨_,_,_,_,_,_,_,_,_,_,_,_,_,_,_,_,hrow⟩ := hentry
    rw [hrow]
    refine ⟨rfl,htask,?_⟩
    rw [List.map_map]
    exact List.map_id _

theorem resolved_mem {resolved : List TaskPacketCapabilities}
    (h : resolveRecords platform files records = .ok resolved) (hmem : capabilities ∈ resolved) :
    ∃ rows ∈ records.assignments.zip records.allocations,
      resolveTask platform files records rows = .ok capabilities := by
  simp only [resolveRecords,bind_eq_ok,mapM_eq_ok] at h
  obtain ⟨_,_,_,_,_,_,hrows⟩ := h
  obtain ⟨rows,hrows,hresolved⟩ := exists_right_of_forall₂ hrows.flip hmem
  exact ⟨rows,hrows,hresolved⟩

theorem capabilitiesFor_eq_ok {resolved : List TaskPacketCapabilities} {taskId : String}
    (h : capabilitiesFor resolved taskId = .ok capabilities) :
    capabilities ∈ resolved ∧ capabilities.row.taskId = taskId := by
  unfold capabilitiesFor at h
  split at h
  · next item hfilter =>
    cases h
    have hmem : capabilities ∈ resolved.filter fun other => other.row.taskId = taskId := by
      rw [hfilter]
      exact List.mem_singleton_self capabilities
    rw [List.mem_filter,decide_eq_true_eq] at hmem
    exact hmem
  · cases h

theorem loadSealed_eq_ok {α : Type} {ref : ArtifactRef} {role field : String} {decode : Bytes → Py (SealedRecord α)}
    {record : SealedRecord α} (h : loadSealed platform files ref role field decode = .ok record) :
    ∃ raw, files ref.relativePath = some raw ∧ (platform.sha256 raw).hex = ref.sha256 ∧ decode raw = .ok record := by
  simp only [loadSealed,bind_eq_ok] at h
  obtain ⟨_,_,_,_,raw,hraw,loaded,hdecode,_,_,hreturn⟩ := h
  cases hreturn
  cases hfile : files ref.relativePath with
  | none =>
    rw [readBytes,hfile] at hraw
    cases hraw
  | some payload =>
    simp only [readBytes,hfile,bind_eq_ok,demand_eq_ok,Bool.and_eq_true,decide_eq_true_eq] at hraw
    obtain ⟨_,⟨_,hsha⟩,hreturn⟩ := hraw
    cases hreturn
    exact ⟨raw,rfl,hsha,hdecode⟩

theorem records_of_load {decode : PacketDecoders} {packetIndexRef : ArtifactRef}
    (h : loadPacketRecords platform decode files packetIndexRef = .ok records) :
    ∃ sealed candidate ledger, loadSealed platform files packetIndexRef "packet_index_sealed" "sealed packet index"
        decode.sealed = .ok sealed ∧
      loadSealed platform files sealed.payload.candidateRef "packet_index_candidate" "packet candidate index"
        decode.candidate = .ok candidate ∧
      loadSealed platform files sealed.payload.assignmentRef "resampling_assignment_ledger" "assignment ledger"
        decode.ledger = .ok ledger ∧
      records = ⟨sealed.payload.prefixIndexRef,candidate.payload.entries,ledger.payload.assignments,
        ledger.payload.allocationReceipts⟩ := by
  simp only [loadPacketRecords,bind_eq_ok] at h
  obtain ⟨sealed,hsealed,candidate,hcandidate,_,_,_,_,ledger,hledger,_,_,_,_,_,_,hreturn⟩ := h
  cases hreturn
  exact ⟨sealed,candidate,ledger,hsealed,hcandidate,hledger,rfl⟩

theorem grants_nodup (capabilities : TaskPacketCapabilities) :
    (capabilities.row.grants.map OpaqueSlotGrant.slotId).Nodup ∧
      (capabilities.row.grants.map OpaqueSlotGrant.opaqueCapabilityId).Nodup := by
  have hbuilt := capabilities.built
  simp only [CapabilitiesRow.postInit,bind_eq_ok,demand_eq_ok,Bool.and_eq_true,decide_eq_true_eq] at hbuilt
  obtain ⟨_,_,_,_,_,_,_,hnodup,_⟩ := hbuilt
  exact hnodup

theorem orderedSlots_eq_ok {slots : List BranchSlot} {ordered : List (BranchSlot × String)}
    (h : orderedSlots slots capabilities = .ok ordered) :
    slots.map BranchSlot.slotId = capabilities.row.grants.map OpaqueSlotGrant.slotId ∧
      ordered = slots.zip (capabilities.row.grants.map OpaqueSlotGrant.opaqueCapabilityId) := by
  simp only [orderedSlots,bind_eq_ok,demand_eq_ok,decide_eq_true_eq,mapM_eq_ok,required_eq_ok] at h
  obtain ⟨found,hfound,_,hids,hreturn⟩ := h
  cases hreturn
  refine ⟨hids,?_⟩
  have hnodup := (grants_nodup capabilities).1
  -- The grant found for a slot is the one at the slot's own position.
  suffices hmid : ∀ (rest : List BranchSlot) (grants : List OpaqueSlotGrant) (out : List (BranchSlot × String)),
      (∀ grant ∈ grants, grant ∈ capabilities.row.grants) →
      rest.map BranchSlot.slotId = grants.map OpaqueSlotGrant.slotId →
      List.Forall₂ (fun slot pair => ∃ grant, capabilities.row.grants.find? (fun grant => grant.slotId = slot.slotId) =
        some grant ∧ pure (slot,grant.opaqueCapabilityId) = (.ok pair : Py (BranchSlot × String))) rest out →
      out = rest.zip (grants.map OpaqueSlotGrant.opaqueCapabilityId) from
    hmid slots capabilities.row.grants ordered (fun _ hgrant => hgrant) hids hfound
  intro rest
  induction rest with
  | nil =>
    intro grants out _ _ hout
    cases hout
    rfl
  | cons slot rest ih =>
    intro grants out hsub hsame hout
    cases grants with
    | nil => cases hsame
    | cons first grants =>
      rw [List.map_cons,List.map_cons,List.cons.injEq] at hsame
      cases hout with
      | cons hhead htail =>
        obtain ⟨grant,hfind,hpair⟩ := hhead
        cases hpair
        have hgrant : grant = first := by
          obtain ⟨hmem,hid⟩ := key_of_find hfind
          exact List.inj_on_of_nodup_map hnodup hmem (hsub first List.mem_cons_self) (hid.trans hsame.1)
        rw [hgrant,List.map_cons,List.zip_cons_cons,
          ih grants _ (fun other hother => hsub other (List.mem_cons_of_mem _ hother)) hsame.2 htail]

end PneumaLab.ResamplingNull
