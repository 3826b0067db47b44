import PneumaLab.ResamplingNull.Branch.Controller

namespace PneumaLab.ResamplingNull

def unscoredKeys : List String := ["call_seeds","counters","endpoint_readable","failure_kind","final_snapshot_ref",
  "opaque_capability_id","pre_injection_token_ids_sha256","pre_injection_visible_sha256","provider_cost_ref",
  "slot_id"]

def failedKeys : List String := ["adverse_event_ref","endpoint_readable","failed_attempt_ref","failure_kind",
  "opaque_capability_id","provider_cost_ref","slot_id"]

theorem refJson_exact (ref : ArtifactRef) : (refJson ref).Exact := by
  have hkeys : ["byte_count","media_type","relative_path","role","sha256"].Pairwise (· < ·) := by decide
  exact ⟨hkeys,trivial,trivial,trivial,trivial,trivial,trivial⟩

theorem counters_exact (counters : ResourceCounters) : counters.json.Exact := by
  have hkeys : ["generated_tokens","model_calls","tool_calls","wall_clock_ms"].Pairwise (· < ·) := by decide
  exact ⟨hkeys,trivial,trivial,trivial,trivial,trivial⟩

theorem seeds_exact (seeds : List CallSeedReceipt) : (Json.arr (seeds.map CallSeedReceipt.json)).Exact := by
  have hkeys : ["call_index","seed","subject_role"].Pairwise (· < ·) := by decide
  rw [Json.Exact,Json.exactItems_iff]
  intro item hitem
  obtain ⟨seed,_,rfl⟩ := List.mem_map.mp hitem
  exact ⟨hkeys,trivial,trivial,trivial,trivial⟩

theorem terminal_exact (terminal : TerminalSlotRow) : terminal.json.Exact := by
  cases terminal with
  | unscored receipt =>
    have hkeys : unscoredKeys.Pairwise (· < ·) := by decide
    exact ⟨hkeys,seeds_exact _,counters_exact _,trivial,trivial,refJson_exact _,trivial,trivial,trivial,
      refJson_exact _,trivial,trivial⟩
  | failed receipt =>
    have hkeys : failedKeys.Pairwise (· < ·) := by decide
    exact ⟨hkeys,refJson_exact _,trivial,refJson_exact _,trivial,trivial,refJson_exact _,trivial,trivial⟩

theorem source_exact (terminal : TerminalSlotRow) : terminal.sourceJson.Exact := by
  have hkeys : ["kind","receipt"].Pairwise (· < ·) := by decide
  exact ⟨hkeys,trivial,terminal_exact terminal,trivial⟩

def orderKeys : List String := ["analysis_freeze_sha256","benchmark","branch_caps","packet_index_sha256",
  "prefix_visible_sha256","private_guidance_ref","slot","snapshot_ref","study_id","task_id"]

theorem slot_exact (slot : SlotIdentityRow) : slot.json.Exact := by
  have hkeys : ["execution_order","hardware_lane","opaque_capability_id","seed","slot_id"].Pairwise (· < ·) := by
    decide
  exact ⟨hkeys,trivial,trivial,trivial,trivial,trivial,trivial⟩

theorem caps_exact (caps : BranchCaps) : caps.json.Exact := by
  have hkeys : ["generated_tokens","model_calls","pending_prefix_calls_count_against_tool_cap","tool_calls",
      "wall_clock_ms"].Pairwise (· < ·) := by
    decide
  exact ⟨hkeys,trivial,trivial,trivial,trivial,trivial,trivial⟩

theorem order_exact (order : WorkOrderRow) : order.json.Exact := by
  have hkeys : orderKeys.Pairwise (· < ·) := by decide
  have hguidance : ((order.privateGuidanceRef.map refJson).getD .null).Exact := by
    cases order.privateGuidanceRef with
    | none => trivial
    | some ref => exact refJson_exact ref
  exact ⟨hkeys,trivial,trivial,caps_exact _,trivial,trivial,hguidance,slot_exact _,refJson_exact _,trivial,trivial,
    trivial⟩

theorem order_slot {left right : WorkOrderRow} (h : left.json = right.json) : left.slot.slotId = right.slot.slotId := by
  simp only [WorkOrderRow.json,SlotIdentityRow.json,Json.obj.injEq,List.cons.injEq,Prod.mk.injEq,Json.str.injEq] at h
  exact h.2.2.2.2.2.2.1.2.2.2.2.2.1.2

def orderTexts (orders : List WorkOrderRow) : List Bytes := orders.map fun order => canonicalJsonBytes order.json

theorem digests_nodup {platform : Platform} {orders : List WorkOrderRow}
    (hcollision : CollisionFree platform (orderTexts orders)) (hslots : (orders.map fun order => order.slot.slotId).Nodup) :
    (orders.map fun order => jsonSha256 platform order.json).Nodup := by
  refine List.Nodup.map_on ?_ (List.Nodup.of_map _ hslots)
  intro left hleft right hright hsame
  have hbytes := hcollision _ (List.mem_map_of_mem hleft) _ (List.mem_map_of_mem hright) hsame
  have hjson := canonicalJsonBytes_injective (order_exact left) (order_exact right) hbytes
  exact List.inj_on_of_nodup_map hslots hleft hright (order_slot hjson)

end PneumaLab.ResamplingNull
