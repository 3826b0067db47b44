import Mathlib.Logic.Relation
import PneumaLab.Foundation.MemoryRuns

namespace PneumaLab.Foundation

def ParentEra (store : MemoryStore) (parent era : String) : Prop :=
  ∃ row, store.lineage.find era = some row ∧ row.parentEra = some parent

def StrictAncestor (store : MemoryStore) : String → String → Prop := Relation.TransGen (ParentEra store)

def CheckpointOf (store : MemoryStore) (era checkpoint : String) : Prop :=
  ∃ row, store.lineage.find era = some row ∧ row.checkpoint = checkpoint

def AboveAll (store : MemoryStore) (adapterIds : List String) (era : String) : Prop :=
  ∀ row ∈ store.adapters.rows, row.adapterId ∈ adapterIds → StrictAncestor store era row.era

def PredatesContaminated (store : MemoryStore) (receipt : ErasureReceipt) (checkpoint : String) : Prop :=
  (∃ era, AboveAll store receipt.revokedAdapters era) →
    ∃ era, CheckpointOf store era checkpoint ∧ AboveAll store receipt.revokedAdapters era

def contaminatedIds (store : MemoryStore) (receiptId : String) : List String :=
  (affectedAdapters store receiptId).map (·.adapterId)

def ParentCheckpoint (store : MemoryStore) (receiptId checkpoint : String) : Prop :=
  ∃ adapter ∈ affectedAdapters store receiptId, ∃ parent, parent ≠ "" ∧
    ParentEra store parent adapter.era ∧ CheckpointOf store parent checkpoint

def AncestorSortsFirst (store : MemoryStore) (receiptId : String) : Prop :=
  (∃ era, AboveAll store (contaminatedIds store receiptId) era) →
    ∃ era checkpoint, CheckpointOf store era checkpoint ∧
      AboveAll store (contaminatedIds store receiptId) era ∧
      ParentCheckpoint store receiptId checkpoint ∧
      ∀ other, ParentCheckpoint store receiptId other → checkpoint ≤ other

section Choice
variable {store : MemoryStore} {receiptId now : String} {receipt : ErasureReceipt}

theorem rebuildCheckpoint_eq_some {adapter : AdapterRow} {checkpoint : String} :
    rebuildCheckpoint store adapter = some checkpoint ↔
      ∃ parent, parent ≠ "" ∧ ParentEra store parent adapter.era ∧ CheckpointOf store parent checkpoint := by
  simp only [rebuildCheckpoint,Option.bind_eq_bind,Option.bind_eq_some_iff,Option.pure_def,
    Option.some.injEq,ParentEra,CheckpointOf,guard]
  constructor
  · rintro ⟨lineage,hlineage,parent,hparent,_,hguard,row,hrow,rfl⟩
    refine ⟨parent,?_,⟨lineage,hlineage,hparent⟩,row,hrow,rfl⟩
    intro hempty
    simp [hempty] at hguard
  · rintro ⟨parent,hne,⟨lineage,hlineage,hparent⟩,row,hrow,hcheckpoint⟩
    exact ⟨lineage,hlineage,parent,hparent,(),by simp [hne],row,hrow,hcheckpoint⟩

theorem mem_rebuildCheckpoints {checkpoint : String} :
    checkpoint ∈ (affectedAdapters store receiptId).filterMap (rebuildCheckpoint store) ↔
      ParentCheckpoint store receiptId checkpoint := by
  rw [List.mem_filterMap,ParentCheckpoint]
  constructor
  · rintro ⟨adapter,hadapter,hrebuild⟩
    exact ⟨adapter,hadapter,rebuildCheckpoint_eq_some.mp hrebuild⟩
  · rintro ⟨adapter,hadapter,hparent⟩
    exact ⟨adapter,hadapter,rebuildCheckpoint_eq_some.mpr hparent⟩

theorem head_sortedSet {values : List String} {first : String} (h : (sortedSet values).head? = some first) :
    first ∈ values ∧ ∀ value ∈ values, first ≤ value := by
  have hmem := mem_sortedSet.mp (List.mem_of_head? h)
  refine ⟨hmem,?_⟩
  intro value hvalue
  have hsorted : (sortedSet values).Pairwise (· ≤ ·) := List.pairwise_insertionSort _ _
  have hin := mem_sortedSet.mpr hvalue
  cases hs : sortedSet values with
  | nil => simp [hs] at hin
  | cons x rest =>
    rw [hs] at h hsorted hin
    obtain rfl : x = first := by simpa using h
    rcases List.mem_cons.mp hin with rfl | hrest
    · exact le_refl _
    · exact (List.pairwise_cons.mp hsorted).1 value hrest

theorem receipt_of_hardDelete (h : (hardDelete store receiptId now).1 = .ok receipt) :
    receipt.revokedAdapters = (contaminatedIds store receiptId).insertionSort (· ≤ ·) ∧
      receipt.rebuildFromCheckpoint =
        (sortedSet ((affectedAdapters store receiptId).filterMap (rebuildCheckpoint store))).head? := by
  rw [hardDelete] at h
  split at h
  · next erased herased =>
    simp only [eraseRows,bind_eq_ok,required_eq_ok] at herased
    obtain ⟨row,-,erasures,-,hpure⟩ := herased
    cases hpure
    cases h
    exact ⟨rfl,rfl⟩
  · cases h

theorem aboveAll_revoked (h : (hardDelete store receiptId now).1 = .ok receipt) (era : String) :
    AboveAll store receipt.revokedAdapters era ↔ AboveAll store (contaminatedIds store receiptId) era := by
  simp only [AboveAll,(receipt_of_hardDelete h).1,List.mem_insertionSort]

end Choice

theorem rebuild_predates_iff (store : MemoryStore) (receiptId now : String) (receipt : ErasureReceipt)
    (checkpoint : String) (hdelete : (hardDelete store receiptId now).1 = .ok receipt)
    (hrebuild : receipt.rebuildFromCheckpoint = some checkpoint) :
    PredatesContaminated store receipt checkpoint ↔ AncestorSortsFirst store receiptId := by
  rw [(receipt_of_hardDelete hdelete).2] at hrebuild
  obtain ⟨hmem,hfirst⟩ := head_sortedSet hrebuild
  have hparent := mem_rebuildCheckpoints.mp hmem
  have hleast : ∀ other, ParentCheckpoint store receiptId other → checkpoint ≤ other :=
    fun other hother => hfirst other (mem_rebuildCheckpoints.mpr hother)
  simp only [PredatesContaminated,AncestorSortsFirst,aboveAll_revoked hdelete]
  apply imp_congr_right
  intro _
  constructor
  · rintro ⟨era,hera,habove⟩
    exact ⟨era,checkpoint,hera,habove,hparent,hleast⟩
  · rintro ⟨era,other,hera,habove,hother,hbelow⟩
    have hsame : other = checkpoint := le_antisymm (hbelow checkpoint hparent) (hleast other hother)
    exact ⟨era,hsame ▸ hera,habove⟩

section Sample

theorem forest_size : (List.replicate 32 (0 : UInt8)).length = 32 := rfl

def forestRuntime : MemoryRuntime where
  sha256 _ := ⟨List.replicate 32 0,forest_size⟩
  contentRoot := "memory/content"
  provenanceJson _ := .ok (.obj [])
  matchRows _ _ := .ok []

def forestRequest : AppendRequest :=
  ⟨"mem-1","t","private","era-1",[],.finite 0 PyFloat.isDouble_zero⟩

def forestCalls (first : String) : List MemoryCall := [
  .recordLineage "era-0" none "base.pt" "t",
  .recordLineage "era-1" (some "era-0") first "t",
  .recordLineage "era-2" (some "era-1") "later.pt" "t",
  .appendEvent forestRequest,
  .registerAdapter "adapter-1" "era-1" ["mem-1"],
  .registerAdapter "adapter-2" "era-2" ["mem-1"]]

def forestStore (first : String) : MemoryStore := (forestCalls first).foldl (perform forestRuntime) .empty

theorem forestStore_run (first : String) :
    MemoryRun forestRuntime (fun _ _ => True) [("mem-1","private")] (forestStore first) := by
  refine .called (.registerAdapter "adapter-2" "era-2" ["mem-1"]) (.called (.registerAdapter "adapter-1" "era-1" ["mem-1"])
    (.called (.appendEvent forestRequest) (.called (.recordLineage "era-2" (some "era-1") "later.pt" "t")
      (.called (.recordLineage "era-1" (some "era-0") first "t")
        (.called (.recordLineage "era-0" none "base.pt" "t") .opened ?_ ?_) ?_ ?_) ?_ ?_) ?_ ?_) ?_ ?_) ?_ ?_
  all_goals first | trivial | exact List.forall_mem_nil _

theorem forest_rows (first : String) : (forestStore first).lineage.rows = [
    ⟨"era-0",none,"base.pt","t"⟩,⟨"era-1",some "era-0",first,"t"⟩,⟨"era-2",some "era-1","later.pt","t"⟩] := rfl

theorem forest_adapters (first : String) : (forestStore first).adapters.rows = [
    ⟨"adapter-1","era-1",["mem-1"],.active⟩,⟨"adapter-2","era-2",["mem-1"],.active⟩] := rfl

theorem forest_parents (first : String) :
    ParentEra (forestStore first) "era-0" "era-1" ∧ ParentEra (forestStore first) "era-1" "era-2" := by
  refine ⟨⟨⟨"era-1",some "era-0",first,"t"⟩,Table.find_eq_some.mpr ⟨?_,rfl⟩,rfl⟩,
    ⟨⟨"era-2",some "era-1","later.pt","t"⟩,Table.find_eq_some.mpr ⟨?_,rfl⟩,rfl⟩⟩
  · rw [forest_rows]
    simp
  · rw [forest_rows]
    simp

theorem forest_rooted (first : String) (adapterIds : List String) : AboveAll (forestStore first) adapterIds "era-0" := by
  obtain ⟨hfirst,hsecond⟩ := forest_parents first
  intro row hrow _
  rw [forest_adapters] at hrow
  rcases List.mem_pair.mp hrow with rfl | rfl
  · exact .single hfirst
  · exact .tail (.single hfirst) hsecond

def forestDepth (era : String) : ℕ := if era = "era-0" then 0 else if era = "era-1" then 1 else 2

theorem forestDepth_lt {first parent era : String} (h : StrictAncestor (forestStore first) parent era) :
    forestDepth parent < forestDepth era := by
  have hstep {parent era : String} (hparent : ParentEra (forestStore first) parent era) :
      forestDepth parent < forestDepth era := by
    obtain ⟨row,hrow,hparent⟩ := hparent
    obtain ⟨hmem,rfl⟩ := Table.find_eq_some.mp hrow
    rw [forest_rows] at hmem
    simp only [List.mem_cons,List.not_mem_nil,or_false] at hmem
    rcases hmem with rfl | rfl | rfl
    · cases hparent
    · cases hparent
      exact (by decide : forestDepth "era-0" < forestDepth "era-1")
    · cases hparent
      exact (by decide : forestDepth "era-1" < forestDepth "era-2")
  induction h with
  | single h => exact hstep h
  | tail _ h ih => exact ih.trans (hstep h)

theorem contaminated_rebuild_offered : ∃ store receipt,
    MemoryRun forestRuntime (fun _ _ => True) [("mem-1","private")] store ∧
      (hardDelete store "mem-1" "t").1 = .ok receipt ∧ receipt.rebuildFromCheckpoint = some "a.pt" ∧
      ¬ PredatesContaminated store receipt "a.pt" := by
  refine ⟨forestStore "a.pt",⟨"mem-1",["adapter-1","adapter-2"],some "a.pt",⟨1,0,0,0,0⟩,"t"⟩,forestStore_run "a.pt",
    by decide,rfl,fun hpredates => ?_⟩
  obtain ⟨era,⟨row,hrow,hcheckpoint⟩,habove⟩ := hpredates ⟨"era-0",forest_rooted "a.pt" _⟩
  obtain ⟨hmem,rfl⟩ := Table.find_eq_some.mp hrow
  rw [forest_rows] at hmem
  have hera : row.era = "era-1" := by
    simp only [List.mem_cons,List.not_mem_nil,or_false] at hmem
    rcases hmem with rfl | rfl | rfl
    · exact absurd hcheckpoint (by decide)
    · rfl
    · exact absurd hcheckpoint (by decide)
  have hself := habove ⟨"adapter-1","era-1",["mem-1"],.active⟩ (forest_adapters "a.pt" ▸ List.mem_cons_self) (by decide)
  rw [hera] at hself
  exact absurd (forestDepth_lt hself) (lt_irrefl _)

theorem sorted_rebuild_predates : ∃ receipt, (hardDelete (forestStore "side.pt") "mem-1" "t").1 = .ok receipt ∧
    PredatesContaminated (forestStore "side.pt") receipt "base.pt" := by
  have hdelete : (hardDelete (forestStore "side.pt") "mem-1" "t").1 =
      .ok ⟨"mem-1",["adapter-1","adapter-2"],some "base.pt",⟨1,0,0,0,0⟩,"t"⟩ := by decide
  refine ⟨_,hdelete,(rebuild_predates_iff _ _ _ _ _ hdelete rfl).mpr fun _ => ?_⟩
  have haffected : affectedAdapters (forestStore "side.pt") "mem-1" =
      [⟨"adapter-1","era-1",["mem-1"],.active⟩,⟨"adapter-2","era-2",["mem-1"],.active⟩] := rfl
  refine ⟨"era-0","base.pt",⟨_,rfl,rfl⟩,forest_rooted "side.pt" _,?_,?_⟩
  · exact ⟨_,haffected ▸ List.mem_cons_self,"era-0",by decide,⟨_,rfl,rfl⟩,⟨_,rfl,rfl⟩⟩
  · rintro other ⟨adapter,hadapter,parent,-,⟨row,hrow,hparent⟩,⟨above,habove,rfl⟩⟩
    rw [haffected] at hadapter
    rcases List.mem_pair.mp hadapter with rfl | rfl
    · cases hrow
      cases hparent
      cases habove
      decide
    · cases hrow
      cases hparent
      cases habove
      decide

end Sample

end PneumaLab.Foundation
