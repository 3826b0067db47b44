import PneumaLab.Library.Keyed
import PneumaLab.ResamplingNull.Branch.TaskBlock

namespace PneumaLab.ResamplingNull

inductive Label where
  | A
  | B
  | C
  | D
  deriving DecidableEq, Repr

def labels : List Label := [.A,.B,.C,.D]

def Label.value : Label → String
  | .A => "A"
  | .B => "B"
  | .C => "C"
  | .D => "D"

structure StrippedOutcome where
  success : ℕ
  prefixSuccess : ℕ
  partialReward : ℚ
  infrastructureFailure : Bool
  counters : ResourceCounters
  deriving DecidableEq

structure BlindedSlot where
  label : Label
  slotId : String
  outcome : StrippedOutcome
  deriving DecidableEq

structure FrozenRow where
  taskId : String
  prefixSuccess : ℕ
  slotIds : List String

structure CandidateRow where
  taskId : String
  prefixSuccess : ℕ
  slots : List BlindedSlot
  deriving DecidableEq

structure ProjectionCandidate where
  rows : List CandidateRow
  canonicalBytes : Bytes
  sha256 : String

def stripped (outcome : OutcomeRow) : StrippedOutcome where
  success := outcome.success
  prefixSuccess := outcome.prefixSuccess
  partialReward := outcome.partialReward
  infrastructureFailure := outcome.infrastructureFailure
  counters := outcome.counters

def outcomeCopy (outcome : StrippedOutcome) (prefixSuccess : ℕ) : Py StrippedOutcome := do
  demand (outcome.success ≤ 1) (.valueError "success must be binary")
  demand (outcome.prefixSuccess ≤ 1) (.valueError "prefix success must be binary")
  demand (outcome.prefixSuccess = prefixSuccess) (.valueError "outcome prefix does not match its frozen prefix")
  return outcome

def blindedSlots (slotIds : List String) (outcomes : List StrippedOutcome) : List BlindedSlot :=
  ((labels.zip slotIds).zip outcomes).map fun ((label,slotId),outcome) => ⟨label,slotId,outcome⟩

def candidateRow (closed : List (String × List StrippedOutcome)) (frozen : FrozenRow) : Py CandidateRow := do
  demand (frozen.prefixSuccess ≤ 1) (.valueError "schedule prefix success must be binary")
  demand (frozen.slotIds.length = 4 && frozen.slotIds.all fun slotId => slotId ≠ "")
    (.valueError "schedule must provide four slots")
  let outcomes ← required (.valueError "closed outcome coverage must be complete") (closed.lookup frozen.taskId)
  demand (outcomes.length = 4) (.valueError "closed outcome coverage must be complete")
  let copied ← outcomes.mapM fun outcome => outcomeCopy outcome frozen.prefixSuccess
  return ⟨frozen.taskId,frozen.prefixSuccess,blindedSlots frozen.slotIds copied⟩

def addCandidateRow (closed : List (String × List StrippedOutcome)) (rows : List CandidateRow) (frozen : FrozenRow) :
    Py (List CandidateRow) := do
  demand (frozen.taskId ≠ "" && rows.all fun row => row.taskId ≠ frozen.taskId)
    (.valueError "schedule must have unique task IDs")
  return rows ++ [← candidateRow closed frozen]

variable (platform : Platform) (rewardText : ℚ → String)

def StrippedOutcome.json (outcome : StrippedOutcome) : Json := .obj [
  ("counters",outcome.counters.json),
  ("infrastructure_failure",.bool outcome.infrastructureFailure),
  ("partial_reward",.float (rewardText outcome.partialReward)),
  ("prefix_success",.int outcome.prefixSuccess),
  ("success",.int outcome.success)]

def BlindedSlot.json (slot : BlindedSlot) : Json := .obj [
  ("label",.str slot.label.value),
  ("outcome",slot.outcome.json rewardText),
  ("slot_id",.str slot.slotId)]

def CandidateRow.json (row : CandidateRow) : Json := .obj [
  ("prefix_success",.int row.prefixSuccess),
  ("slots",.arr (row.slots.map (BlindedSlot.json rewardText))),
  ("task_id",.str row.taskId)]

def candidateBytes (rows : List CandidateRow) : Bytes :=
  utf8 (String.ofList (Json.arr (rows.map (CandidateRow.json rewardText))).dumps)

def candidateOf (rows : List CandidateRow) : ProjectionCandidate where
  rows := rows
  canonicalBytes := candidateBytes rewardText rows
  sha256 := (platform.sha256 (candidateBytes rewardText rows)).hex

def buildCandidate (frozenSchedule : List FrozenRow) (closedOutcomes : List (String × List StrippedOutcome)) :
    Py ProjectionCandidate := do
  let rows ← frozenSchedule.foldlM (addCandidateRow closedOutcomes) []
  demand ((closedOutcomes.all fun entry => decide (entry.1 ∈ rows.map CandidateRow.taskId)) &&
      rows.all fun row => decide (row.taskId ∈ closedOutcomes.map Prod.fst))
    (.valueError "closed outcome coverage must exactly match the schedule")
  return candidateOf platform rewardText rows

section Rows

variable {closed : List (String × List StrippedOutcome)} {frozen : FrozenRow} {row : CandidateRow}

theorem outcomeCopy_eq_ok {outcome copied : StrippedOutcome} {prefixSuccess : ℕ} :
    outcomeCopy outcome prefixSuccess = .ok copied ↔
      copied = outcome ∧ outcome.success ≤ 1 ∧ outcome.prefixSuccess ≤ 1 ∧ outcome.prefixSuccess = prefixSuccess := by
  simp only [outcomeCopy,bind_eq_ok,demand_eq_ok,decide_eq_true_eq]
  constructor
  · rintro ⟨_,hsuccess,_,hbinary,_,hfrozen,hreturn⟩
    cases hreturn
    exact ⟨rfl,hsuccess,hbinary,hfrozen⟩
  · rintro ⟨rfl,hsuccess,hbinary,hfrozen⟩
    exact ⟨(),hsuccess,(),hbinary,(),hfrozen,rfl⟩

theorem copies_eq_ok {outcomes copied : List StrippedOutcome} {prefixSuccess : ℕ}
    (h : outcomes.mapM (fun outcome => outcomeCopy outcome prefixSuccess) = .ok copied) : copied = outcomes := by
  have hsame := mapM_eq_ok.mp h
  rw [← List.forall₂_eq_eq_eq]
  exact (hsame.imp fun _ _ hcopy => (outcomeCopy_eq_ok.mp hcopy).1).flip

theorem candidateRow_eq_ok (h : candidateRow closed frozen = .ok row) : ∃ outcomes,
    closed.lookup frozen.taskId = some outcomes ∧ outcomes.length = 4 ∧ frozen.slotIds.length = 4 ∧
      row = ⟨frozen.taskId,frozen.prefixSuccess,blindedSlots frozen.slotIds outcomes⟩ := by
  simp only [candidateRow,bind_eq_ok,demand_eq_ok,required_eq_ok,Bool.and_eq_true,decide_eq_true_eq] at h
  obtain ⟨_,_,_,⟨hslots,_⟩,outcomes,hlookup,_,hfour,copied,hcopied,hreturn⟩ := h
  cases hreturn
  exact ⟨outcomes,hlookup,hfour,hslots,by rw [copies_eq_ok hcopied]⟩

theorem candidateRow_congr {other : List (String × List StrippedOutcome)}
    (h : closed.lookup frozen.taskId = other.lookup frozen.taskId) :
    candidateRow closed frozen = candidateRow other frozen := by
  rw [candidateRow,candidateRow,h]

theorem addCandidateRow_eq_ok {rows next : List CandidateRow} :
    addCandidateRow closed rows frozen = .ok next ↔ frozen.taskId ≠ "" ∧
      (∀ other ∈ rows, other.taskId ≠ frozen.taskId) ∧
      ∃ row, candidateRow closed frozen = .ok row ∧ next = rows ++ [row] := by
  simp only [addCandidateRow,bind_eq_ok,demand_eq_ok,Bool.and_eq_true,decide_eq_true_eq,List.all_eq_true]
  constructor
  · rintro ⟨_,⟨hname,hfresh⟩,row,hrow,hreturn⟩
    cases hreturn
    exact ⟨hname,hfresh,row,hrow,rfl⟩
  · rintro ⟨hname,hfresh,row,hrow,rfl⟩
    exact ⟨(),⟨hname,hfresh⟩,row,hrow,rfl⟩

theorem candidateRows_eq_ok {schedule : List FrozenRow} {rows : List CandidateRow}
    (h : schedule.foldlM (addCandidateRow closed) [] = .ok rows) :
    List.Forall₂ (fun frozen row => frozen.taskId ≠ "" ∧ candidateRow closed frozen = .ok row) schedule rows := by
  refine foldlM_reaches (P := fun done rows => List.Forall₂ (fun frozen row => frozen.taskId ≠ "" ∧
    candidateRow closed frozen = .ok row) done rows) .nil ?_ h
  intro done frozen rows next _ hrows hnext
  obtain ⟨hname,_,row,hrow,rfl⟩ := addCandidateRow_eq_ok.mp hnext
  exact List.rel_append hrows (.cons ⟨hname,hrow⟩ .nil)

variable {platform : Platform} {rewardText : ℚ → String} {schedule : List FrozenRow} {candidate : ProjectionCandidate}

theorem candidate_of_build (h : buildCandidate platform rewardText schedule closed = .ok candidate) :
    candidate = candidateOf platform rewardText candidate.rows ∧
      List.Forall₂ (fun frozen row => frozen.taskId ≠ "" ∧ candidateRow closed frozen = .ok row) schedule
        candidate.rows := by
  simp only [buildCandidate,bind_eq_ok] at h
  obtain ⟨rows,hrows,_,_,hreturn⟩ := h
  cases hreturn
  exact ⟨rfl,candidateRows_eq_ok hrows⟩

theorem build_alone {outcomes : List StrippedOutcome} (hname : frozen.taskId ≠ "")
    (hlookup : closed.lookup frozen.taskId = some outcomes) (hrow : candidateRow closed frozen = .ok row) :
    buildCandidate platform rewardText [frozen] [(frozen.taskId,outcomes)] =
      .ok (candidateOf platform rewardText [row]) := by
  have hsame : candidateRow [(frozen.taskId,outcomes)] frozen = .ok row := by
    rw [← hrow]
    exact candidateRow_congr (by rw [hlookup,List.lookup_cons,beq_self_eq_true])
  have htask : row.taskId = frozen.taskId := by
    obtain ⟨_,_,_,_,rfl⟩ := candidateRow_eq_ok hrow
    rfl
  have hadd : addCandidateRow [(frozen.taskId,outcomes)] [] frozen = .ok [row] :=
    addCandidateRow_eq_ok.mpr ⟨hname,fun _ h => absurd h List.not_mem_nil,row,hsame,rfl⟩
  simp only [buildCandidate,bind_eq_ok,List.foldlM_cons,List.foldlM_nil]
  refine ⟨[row],⟨[row],hadd,rfl⟩,(),?_,rfl⟩
  simp [htask]

end Rows

end PneumaLab.ResamplingNull
