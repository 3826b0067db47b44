import PneumaLab.ResamplingNull.Power.Execution

namespace PneumaLab.ResamplingNull
open Slices Program

section Batch
variable {labels : Option JointGroupLabels}

def benchmarkCounts (row : ReplayRow) : Benchmark → BenchmarkPatternCounts
  | .SWE => row.1
  | .TAU => row.2

def benchmarkCells (labels : Option JointGroupLabels) : Benchmark → List (List GroupLabel)
  | .SWE => (labels.map Prod.fst).getD []
  | .TAU => (labels.map Prod.snd).getD []

def entryCounts (labels : Option JointGroupLabels) (row : ReplayRow) : Benchmark × Option GroupLabel → PatternCounts
  | (benchmark,none) => (benchmarkCounts row benchmark).patternCounts
  | (benchmark,some label) => labelCounts (benchmarkCounts row benchmark) (benchmarkCells labels benchmark) label

theorem tensorEntries_eq {row : ReplayRow} {entries : List PatternCounts} (h : tensorEntries labels row = .ok entries) :
    entries = (groupManifest labels).map (entryCounts labels row) := by
  cases labels with
  | none =>
    cases h
    rfl
  | some cells =>
    simp only [tensorEntries,groupEntries,bind_eq_ok,demand_eq_ok,exists_const] at h
    obtain ⟨swe,⟨_,hswe⟩,tau,⟨_,htau⟩,hentries⟩ := h
    cases hswe
    cases htau
    cases hentries
    simp only [groupManifest,List.map_append,List.map_map]
    rfl

theorem groupManifest_none (benchmark : Benchmark) : (benchmark,none) ∈ groupManifest labels := by
  cases benchmark <;> simp [groupManifest]

theorem groupManifest_countP : (groupManifest labels).countP (fun entry => entry.2.isNone) = 2 := by
  cases labels with
  | none => rfl
  | some cells =>
    have hnone (benchmark : Benchmark) (listed : List GroupLabel) :
        (listed.map fun label => (benchmark,some label)).countP (fun entry => entry.2.isNone) = 0 := by
      rw [List.countP_eq_zero]
      simp
    rw [groupManifest,List.countP_append,List.countP_append,hnone,hnone]
    rfl

theorem countTotal_labelCounts {counts : BenchmarkPatternCounts} {sizes : List ℕ} {cells : List (List GroupLabel)}
    (hjoint : counts.jointGroupPatternCounts.map countTotal = sizes.map Nat.cast) (label : GroupLabel) :
    countTotal (labelCounts counts cells label) =
      (((sizes.zip cells).filter fun entry => label ∈ entry.2).map fun entry => (entry.1 : ℤ)).sum := by
  unfold labelCounts
  generalize counts.jointGroupPatternCounts = joint at hjoint
  induction joint generalizing sizes cells with
  | nil =>
    rw [List.map_nil,eq_comm,List.map_eq_nil_iff] at hjoint
    simp [hjoint,countTotal]
  | cons pattern joint ih =>
    cases sizes with
    | nil => cases hjoint
    | cons size sizes =>
      rw [List.map_cons,List.map_cons,List.cons.injEq] at hjoint
      cases cells with
      | nil => simp [countTotal]
      | cons cell cells =>
        have hrest := @ih sizes cells hjoint.2
        by_cases hlabel : label ∈ cell
        · simp only [List.zip_cons_cons,List.filter_cons,hlabel,decide_true,if_true,List.map_cons,List.sum_cons]
          rw [countTotal_add pattern,hrest,hjoint.1]
        · simpa only [List.zip_cons_cons,List.filter_cons,hlabel,decide_false,Bool.false_eq_true,if_false] using hrest

end Batch

structure RowSized (gate : GateInputs) (row : ReplayRow) : Prop where
  swe : Sized gate.rosterGroupSizes.1 row.1
  tau : Sized gate.rosterGroupSizes.2 row.2

section Tensor
variable {gate : GateInputs}

def benchmarkSizes (gate : GateInputs) : Benchmark → List ℕ
  | .SWE => gate.rosterGroupSizes.1
  | .TAU => gate.rosterGroupSizes.2

theorem RowSized.benchmark {row : ReplayRow} (h : RowSized gate row) (benchmark : Benchmark) :
    Sized (benchmarkSizes gate benchmark) (benchmarkCounts row benchmark) := by
  cases benchmark with
  | SWE => exact h.swe
  | TAU => exact h.tau

def Simulated (gate : GateInputs) (entries : List PatternCounts) : Prop :=
  ∃ row, RowSized gate row ∧ entries = (groupManifest gate.jointGroupLabels).map (entryCounts gate.jointGroupLabels row)

noncomputable abbrev tensorBatch (gate : GateInputs) (tensor : List (List PatternCounts)) :=
  simulatedBatch gate.authority.rosterRef (groupManifest gate.jointGroupLabels) tensor

variable {tensor : List (List PatternCounts)}

theorem overallEntry_isSome (benchmark : Benchmark) : (overallEntry (tensorBatch gate tensor) benchmark).isSome = true := by
  obtain ⟨entry,hentry⟩ := List.get_of_mem (@groupManifest_none gate.jointGroupLabels benchmark)
  rw [overallEntry,List.find?_isSome]
  exact ⟨entry,List.mem_finRange entry,decide_eq_true hentry⟩

theorem overallEntry_spec {benchmark : Benchmark} {entry : Fin (groupManifest gate.jointGroupLabels).length}
    (h : overallEntry (tensorBatch gate tensor) benchmark = some entry) :
    (groupManifest gate.jointGroupLabels).get entry = (benchmark,none) := by
  rw [overallEntry] at h
  have hfound := List.find?_some h
  exact of_decide_eq_true hfound

theorem overallEntries_length : (overallEntries (tensorBatch gate tensor)).length = 2 := by
  rw [overallEntries,← List.countP_eq_length_filter,← @groupManifest_countP gate.jointGroupLabels]
  conv_rhs => rw [← List.map_get_finRange (groupManifest gate.jointGroupLabels),List.countP_map]
  rfl

theorem patternCounts_get {run : Fin tensor.length} {row : ReplayRow}
    (hrow : tensor.get run = (groupManifest gate.jointGroupLabels).map (entryCounts gate.jointGroupLabels row))
    (entry : Fin (groupManifest gate.jointGroupLabels).length) :
    (tensorBatch gate tensor).patternCounts run entry =
      entryCounts gate.jointGroupLabels row ((groupManifest gate.jointGroupLabels).get entry) := by
  change (tensor.get run).getD entry _ = _
  rw [hrow,List.getD_eq_getElem?_getD,List.getElem?_map,List.getElem?_eq_getElem entry.isLt]
  rfl

def axisBenchmark (benchmark : Fin 2) : Benchmark := if benchmark = 0 then .SWE else .TAU

theorem registeredCounts_get {run : Fin tensor.length} {row : ReplayRow}
    (hrow : tensor.get run = (groupManifest gate.jointGroupLabels).map (entryCounts gate.jointGroupLabels row))
    (benchmark : Fin 2) : registeredCounts (tensorBatch gate tensor) run benchmark =
      (benchmarkCounts row (axisBenchmark benchmark)).patternCounts := by
  obtain ⟨entry,hentry⟩ := Option.isSome_iff_exists.mp
    (@overallEntry_isSome gate tensor (axisBenchmark benchmark))
  have hfound : overallEntry (tensorBatch gate tensor) (if benchmark = 0 then .SWE else .TAU) = some entry := hentry
  rw [registeredCounts,hfound]
  change (tensorBatch gate tensor).patternCounts run entry = _
  rw [patternCounts_get hrow,overallEntry_spec hentry]
  rfl

theorem rosterOf_registered {run : Fin tensor.length} (hsimulated : Simulated gate (tensor.get run)) (benchmark : Fin 2) :
    rosterOf (registeredCounts (tensorBatch gate tensor) run) benchmark =
      (benchmarkSizes gate (axisBenchmark benchmark)).sum := by
  obtain ⟨row,hsized,hrow⟩ := hsimulated
  rw [rosterOf,registeredCounts_get hrow]
  exact (hsized.benchmark _).total

theorem tensor_admissible (h : ∀ entries ∈ tensor, Simulated gate entries) : Admissible (tensorBatch gate tensor) where
  swe := overallEntry_isSome _
  tau := overallEntry_isSome _
  two := overallEntries_length
  occupied := by
    intro run benchmark
    obtain ⟨row,hsized,_⟩ := h _ (List.get_mem tensor run)
    have hpositive := (hsized.benchmark (axisBenchmark benchmark)).positive
    rw [rosterOf_registered (h _ (List.get_mem tensor run))]
    omega
  counts := by
    intro run benchmark index
    obtain ⟨row,hsized,hrow⟩ := h _ (List.get_mem tensor run)
    rw [registeredCounts_get hrow]
    exact (hsized.benchmark _).nonneg index
  failures := fun _ _ _ => le_rfl

theorem axisBenchmark_axis (benchmark : Benchmark) : axisBenchmark (benchmarkAxis benchmark) = benchmark := by
  cases benchmark <;> rfl

theorem retains_iff (h : ∀ entries ∈ tensor, Simulated gate entries) (run other : Fin tensor.length)
    (entry : Fin (groupManifest gate.jointGroupLabels).length) (hgroup : IsGroup (tensorBatch gate tensor) entry) :
    Retains (tensorBatch gate tensor) (registeredCounts (tensorBatch gate tensor)) run entry ↔
      Retains (tensorBatch gate tensor) (registeredCounts (tensorBatch gate tensor)) other entry := by
  have htotal (run : Fin tensor.length) : retainedTotal (registeredCounts (tensorBatch gate tensor) run)
      (entryAxis (tensorBatch gate tensor) entry) ((tensorBatch gate tensor).patternCounts run entry) =
        (benchmarkSizes gate ((groupManifest gate.jointGroupLabels).get entry).1).sum -
          (((benchmarkSizes gate ((groupManifest gate.jointGroupLabels).get entry).1).zip
            (benchmarkCells gate.jointGroupLabels ((groupManifest gate.jointGroupLabels).get entry).1)).filter
              (fun pair => ((groupManifest gate.jointGroupLabels).get entry).2.all (· ∈ pair.2))
                |>.map fun pair => (pair.1 : ℤ)).sum := by
    have hrun := h _ (List.get_mem tensor run)
    have hroster := rosterOf_registered hrun (entryAxis (tensorBatch gate tensor) entry)
    obtain ⟨row,hsized,hrow⟩ := hrun
    rw [retainedTotal,hroster,patternCounts_get hrow]
    have haxis : entryAxis (tensorBatch gate tensor) entry =
        benchmarkAxis ((groupManifest gate.jointGroupLabels).get entry).1 := rfl
    have hlabel : ((groupManifest gate.jointGroupLabels).get entry).2.isSome = true := hgroup
    rw [haxis,axisBenchmark_axis]
    generalize (groupManifest gate.jointGroupLabels).get entry = named at hlabel
    obtain ⟨benchmark,label⟩ := named
    cases label with
    | none => cases hlabel
    | some label =>
      rw [entryCounts,countTotal_labelCounts (hsized.benchmark benchmark).joint]
      rfl
  rw [Retains,Retains,htotal run,htotal other]

end Tensor

section Passes
variable {S : Type} (generator : Generator S) (gate : GateInputs)

noncomputable def entriesPass (entries : List PatternCounts) : Bool :=
  (gateBatchResult generator (tensorBatch gate [entries]) .default fun _ => gate.criticalValue).causalPass 0

variable {gate} {tensor : List (List PatternCounts)}

theorem causalPass_eq (h : ∀ entries ∈ tensor, Simulated gate entries) (run : Fin tensor.length) :
    (gateBatchResult generator (tensorBatch gate tensor) .default fun _ => gate.criticalValue).causalPass run =
      entriesPass generator gate (tensor.get run) := by
  have hbatch : (tensorBatch gate tensor).alone run = tensorBatch gate [tensor.get run] := by
    simp only [BinarySufficientStatisticsBatch.alone,tensorBatch,simulatedBatch]
    congr 1
    funext only entry
    rw [Subsingleton.elim only 0]
    rfl
  have hleave : batchLeaveOne (tensorBatch gate tensor) (registeredCounts (tensorBatch gate tensor)) run =
      batchLeaveOne ((tensorBatch gate tensor).alone run) (registeredCounts ((tensorBatch gate tensor).alone run)) 0 := by
    rw [Bool.eq_iff_iff,leaveOneHolds_alone,batchLeaveOne_iff]
    exact ⟨fun hl => hl.1,fun hl => ⟨hl,fun entry hg other => (retains_iff h run other entry hg).mp (hl entry hg).1⟩⟩
  have halone := (gateBatchResult_alone generator .default (fun _ => gate.criticalValue) run).mpr hleave
  rw [hbatch] at halone
  exact congrFun (congrArg GateBatchResult.causalPass halone) 0

theorem countNonzero_eq (h : ∀ entries ∈ tensor, Simulated gate entries) :
    countNonzero (gateBatchResult generator (tensorBatch gate tensor) .default fun _ => gate.criticalValue).causalPass =
      tensor.countP (entriesPass generator gate) := by
  have hflags : (gateBatchResult generator (tensorBatch gate tensor) .default fun _ => gate.criticalValue).causalPass =
      entriesPass generator gate ∘ tensor.get := funext (causalPass_eq generator h)
  rw [countNonzero,hflags,← List.countP_map,List.map_get_finRange]

theorem simulated_of_mapM {rows : List ReplayRow} (hsized : ∀ row ∈ rows, RowSized gate row)
    (h : rows.mapM (tensorEntries gate.jointGroupLabels) = .ok tensor) : ∀ entries ∈ tensor, Simulated gate entries := by
  intro entries hentries
  obtain ⟨row,hrow,hentry⟩ := exists_right_of_forall₂ (mapM_eq_ok.mp h).flip hentries
  exact ⟨row,hsized row hrow,tensorEntries_eq hentry⟩

theorem evaluateRows_eq_ok {rows : List ReplayRow} (hsized : ∀ row ∈ rows, RowSized gate row) {passes : ℕ} :
    evaluateRows generator gate rows = .ok passes ↔ ∃ tensor, rows.mapM (tensorEntries gate.jointGroupLabels) = .ok tensor ∧
      passes = tensor.countP (entriesPass generator gate) := by
  simp only [evaluateRows,batchGroupManifestAndPatterns,bind_eq_ok]
  constructor
  · rintro ⟨⟨manifest,tensor⟩,⟨_,htensor,hpair⟩,result,hresult,hpasses⟩
    cases hpair
    have hsimulated := simulated_of_mapM hsized htensor
    have hvalue := evaluate_admissible generator (tensor_admissible hsimulated) .default fun _ => gate.criticalValue
    cases hvalue.symm.trans hresult
    cases hpasses
    exact ⟨_,htensor,countNonzero_eq generator hsimulated⟩
  · rintro ⟨tensor,htensor,rfl⟩
    have hsimulated := simulated_of_mapM hsized htensor
    exact ⟨_,⟨tensor,htensor,rfl⟩,_,
      evaluate_admissible generator (tensor_admissible hsimulated) .default fun _ => gate.criticalValue,
      congrArg Except.ok (countNonzero_eq generator hsimulated)⟩

theorem evaluateRows_nil : evaluateRows generator gate [] = .ok 0 :=
  (evaluateRows_eq_ok generator (by simp)).mpr ⟨[],rfl,rfl⟩

theorem evaluateRows_cons {row : ReplayRow} {rows : List ReplayRow} (hrow : RowSized gate row)
    (hrows : ∀ row ∈ rows, RowSized gate row) {passes : ℕ} : evaluateRows generator gate (row :: rows) = .ok passes ↔
      ∃ first rest, evaluateRows generator gate [row] = .ok first ∧ evaluateRows generator gate rows = .ok rest ∧
        passes = first + rest := by
  have hboth : ∀ other ∈ row :: rows, RowSized gate other := List.forall_mem_cons.mpr ⟨hrow,hrows⟩
  have hone : ∀ other ∈ [row], RowSized gate other := List.forall_mem_cons.mpr ⟨hrow,by simp⟩
  simp only [evaluateRows_eq_ok generator hboth,evaluateRows_eq_ok generator hone,evaluateRows_eq_ok generator hrows,
    List.mapM_cons,List.mapM_nil,bind_eq_ok]
  constructor
  · rintro ⟨_,⟨entries,hentries,tensor,htensor,hcons⟩,rfl⟩
    cases hcons
    refine ⟨_,_,⟨[entries],⟨entries,hentries,[],rfl,rfl⟩,rfl⟩,⟨tensor,htensor,rfl⟩,?_⟩
    rw [List.countP_cons,List.countP_cons,List.countP_nil]
    omega
  · rintro ⟨_,_,⟨_,⟨entries,hentries,_,hnil,hsingle⟩,rfl⟩,⟨tensor,htensor,rfl⟩,rfl⟩
    cases hnil
    cases hsingle
    refine ⟨entries :: tensor,⟨entries,hentries,tensor,htensor,rfl⟩,?_⟩
    rw [List.countP_cons,List.countP_cons,List.countP_nil]
    omega

end Passes

section Replicates
variable {G S : Type} (numpy : Numpy G) (patternProbabilities : (Fin 4 → ℚ) → ℚ → Py (Fin 16 → ℚ))
variable (generator : Generator S) (cell : PowerCell) (gate : GateInputs)

noncomputable def replicatePass (replicate : ℕ) : Program G Raised ℕ := do
  let rows ← replayPatternChunk numpy patternProbabilities cell gate replicate 1
  Program.lift (evaluateRows generator gate rows)

variable {numpy patternProbabilities generator cell gate}

theorem replayRow_stateFree (replicate : ℕ) : StateFree (replayRow numpy patternProbabilities cell gate replicate) :=
  (simulate_stateFree _ _).bind fun _ => (simulate_stateFree _ _).bind fun _ => .returned _

theorem replayPatternChunk_stateFree (start count : ℕ) :
    StateFree (replayPatternChunk numpy patternProbabilities cell gate start count) :=
  (StateFree.lifted _).bind fun _ => .mapM replayRow_stateFree _

theorem replicatePass_stateFree (replicate : ℕ) :
    StateFree (replicatePass numpy patternProbabilities generator cell gate replicate) :=
  (replayPatternChunk_stateFree _ _).bind fun _ => .lifted _

theorem replayPatternChunk_run (start : ℕ) {count : ℕ} (hcount : 0 < count ∧ count ≤ 256) (s : G) :
    (replayPatternChunk numpy patternProbabilities cell gate start count s).1 =
      (List.range' start count).mapM fun replicate => (replayRow numpy patternProbabilities cell gate replicate s).1 := by
  rw [replayPatternChunk,bind_result,demand,decide_eq_true hcount]
  exact StateFree.mapM_run replayRow_stateFree (fun _ => s) _ _

theorem replicatePass_run (replicate : ℕ) (s : G) :
    (replicatePass numpy patternProbabilities generator cell gate replicate s).1 =
      (replayRow numpy patternProbabilities cell gate replicate s).1 >>= fun row => evaluateRows generator gate [row] := by
  rw [replicatePass,bind_result,replayPatternChunk_run replicate ⟨by decide,by decide⟩,List.range'_one,List.mapM_cons,
    List.mapM_nil]
  simp

theorem replayRow_sized {replicate : ℕ} {row : ReplayRow} {s : G}
    (h : (replayRow numpy patternProbabilities cell gate replicate s).1 = .ok row) : RowSized gate row := by
  simp only [replayRow,bind_result,bind_eq_ok] at h
  obtain ⟨swe,hswe,tau,htau,hrow⟩ := h
  cases hrow
  exact ⟨simulate_sized hswe,simulate_sized htau⟩

theorem replayRows_sized {replicates : List ℕ} {rows : List ReplayRow} {s : G}
    (h : replicates.mapM (fun replicate => (replayRow numpy patternProbabilities cell gate replicate s).1) = .ok rows) :
    ∀ row ∈ rows, RowSized gate row := by
  intro row hrow
  obtain ⟨_,_,hreplay⟩ := exists_right_of_forall₂ (mapM_eq_ok.mp h).flip hrow
  exact replayRow_sized hreplay

theorem evaluateRows_iff (replicates : List ℕ) (s : G) {passes : ℕ} :
    (∃ rows, replicates.mapM (fun replicate => (replayRow numpy patternProbabilities cell gate replicate s).1) = .ok rows ∧
      evaluateRows generator gate rows = .ok passes) ↔
    ∃ each, replicates.mapM (fun replicate =>
        (replicatePass numpy patternProbabilities generator cell gate replicate s).1) = .ok each ∧ passes = each.sum := by
  induction replicates generalizing passes with
  | nil =>
    constructor
    · rintro ⟨rows,hrows,hpasses⟩
      cases hrows
      cases (evaluateRows_nil generator).symm.trans hpasses
      exact ⟨[],rfl,rfl⟩
    · rintro ⟨each,heach,rfl⟩
      cases heach
      exact ⟨[],rfl,evaluateRows_nil generator⟩
  | cons replicate replicates ih =>
    simp only [List.mapM_cons,bind_eq_ok,replicatePass_run replicate]
    constructor
    · rintro ⟨_,⟨row,hrow,rows,hrows,hcons⟩,hpasses⟩
      cases hcons
      have hsized := replayRows_sized hrows
      obtain ⟨first,rest,hfirst,hrest,rfl⟩ := (evaluateRows_cons generator (replayRow_sized hrow) hsized).mp hpasses
      obtain ⟨each,heach,rfl⟩ := ih.mp ⟨rows,hrows,hrest⟩
      exact ⟨first :: each,⟨first,⟨row,hrow,hfirst⟩,each,heach,rfl⟩,by rw [List.sum_cons]⟩
    · rintro ⟨_,⟨first,⟨row,hrow,hfirst⟩,each,heach,hcons⟩,rfl⟩
      cases hcons
      obtain ⟨rows,hrows,hrest⟩ := ih.mpr ⟨each,heach,rfl⟩
      have hsized := replayRows_sized hrows
      refine ⟨row :: rows,⟨row,hrow,rows,hrows,rfl⟩,?_⟩
      exact (evaluateRows_cons generator (replayRow_sized hrow) hsized).mpr ⟨first,_,hfirst,hrest,by rw [List.sum_cons]⟩

end Replicates

section Chunks
variable {G S : Type} (numpy : Numpy G) (patternProbabilities : (Fin 4 → ℚ) → ℚ → Py (Fin 16 → ℚ))
variable (generator : Generator S) (platform : Platform) (cell : PowerCell) (gate : GateInputs)
variable (chunkSize datasetCount : ℕ)

def chunkRange (start : ℕ) : List ℕ := List.range' start (min chunkSize (datasetCount - start))

noncomputable def chunkOutcome (s : G) (start : ℕ) : Py (ChunkReceipt × List String) := do
  let count := min chunkSize (datasetCount - start)
  let rows ← (replayPatternChunk numpy patternProbabilities cell gate start count s).1
  let chunkPasses ← evaluateRows generator gate rows
  let chunkRoot ← merkleRoot platform (rows.map (replayLeaf platform))
  return (⟨start,count,chunkPasses,chunkRoot⟩,rows.map (replayLeaf platform))

def GateProgress.add (progress : GateProgress) (part : ChunkReceipt × List String) : GateProgress where
  causalCount := progress.causalCount + part.1.causalPassCount
  leaves := progress.leaves ++ part.2
  chunks := progress.chunks ++ [part.1]

variable {numpy patternProbabilities generator platform cell gate chunkSize datasetCount}

theorem chunkStarts_cover (hsize : 0 < chunkSize) :
    (chunkStarts datasetCount chunkSize).flatMap (chunkRange chunkSize datasetCount) = List.range datasetCount := by
  have hcover := slices_cover (chunkStart_mono datasetCount chunkSize) (chunkStart_zero datasetCount chunkSize)
    ((chunkStart_last datasetCount hsize).trans List.length_range.symm)
  rw [← hcover,chunkStarts,List.flatMap_map]
  refine List.flatMap_congr fun index hindex => ?_
  have hstart := chunkStart_lt hsize (List.mem_range.mp hindex)
  have hnext : chunkStart datasetCount chunkSize (index + 1) ≤ datasetCount := min_le_right _ _
  rw [slice_range hnext,hstart,chunkRange,chunkStart,Nat.succ_mul]
  congr 1
  have hbound : index * chunkSize ≤ datasetCount := by
    rw [← hstart]
    exact min_le_right _ _
  omega

theorem chunkStarts_bounded (hsize : 0 < chunkSize ∧ chunkSize ≤ 256) : ∀ start ∈ chunkStarts datasetCount chunkSize,
    0 < min chunkSize (datasetCount - start) ∧ min chunkSize (datasetCount - start) ≤ 256 := by
  intro start hstart
  obtain ⟨index,hindex,rfl⟩ := List.mem_map.mp hstart
  have hle : (index + 1) * chunkSize ≤ datasetCount + chunkSize - 1 :=
    (Nat.mul_le_mul_right chunkSize (List.mem_range.mp hindex)).trans (Nat.div_mul_le_self _ chunkSize)
  rw [Nat.succ_mul] at hle
  omega

theorem gateChunk_stateFree (progress : GateProgress) (start : ℕ) : StateFree
    (gateChunk numpy patternProbabilities generator platform cell gate chunkSize datasetCount progress start) :=
  (replayPatternChunk_stateFree _ _).bind fun _ => (StateFree.lifted _).bind fun _ =>
    (StateFree.lifted _).bind fun _ => .returned _

theorem gateChunk_run (progress : GateProgress) (start : ℕ) (s : G) :
    (gateChunk numpy patternProbabilities generator platform cell gate chunkSize datasetCount progress start s).1 =
      chunkOutcome numpy patternProbabilities generator platform cell gate chunkSize datasetCount s start >>= fun part =>
        pure (progress.add part) := by
  simp only [gateChunk,chunkOutcome,bind_result,lift_run,bind_assoc]
  rfl

theorem gateTotals_stateFree : StateFree
    (gateTotalsForCell numpy patternProbabilities generator platform chunkSize cell gate datasetCount) :=
  (StateFree.foldlM gateChunk_stateFree _ _).bind fun _ => (StateFree.lifted _).bind fun _ => .returned _

theorem add_totals (parts : List (ChunkReceipt × List String)) (progress : GateProgress) :
    (parts.foldl GateProgress.add progress).causalCount =
        progress.causalCount + (parts.map fun part => part.1.causalPassCount).sum ∧
      (parts.foldl GateProgress.add progress).leaves = progress.leaves ++ parts.flatMap Prod.snd := by
  induction parts generalizing progress with
  | nil => simp
  | cons part parts ih =>
    obtain ⟨hcount,hleaves⟩ := ih (progress.add part)
    rw [List.foldl_cons,hcount,hleaves,List.map_cons,List.sum_cons,List.flatMap_cons]
    simp only [GateProgress.add,List.append_assoc,true_and,and_true]
    omega

theorem chunkLeaves_root (platform : Platform) {rows : List ReplayRow} (h : rows ≠ []) :
    ∃ top, merkleRoot platform (rows.map (replayLeaf platform)) = .ok top := by
  obtain ⟨top,_,hroot⟩ := @merkleRoot_eq platform _ (replayLeaves_hex h)
  exact ⟨_,hroot⟩

theorem chunkOutcome_leaves {start : ℕ} {s : G} {part : ChunkReceipt × List String}
    (hcount : 0 < min chunkSize (datasetCount - start) ∧ min chunkSize (datasetCount - start) ≤ 256)
    (h : chunkOutcome numpy patternProbabilities generator platform cell gate chunkSize datasetCount s start = .ok part) :
    HexLeaves part.2 := by
  simp only [chunkOutcome,bind_eq_ok,replayPatternChunk_run start hcount s] at h
  obtain ⟨rows,hrows,_,_,_,_,hpart⟩ := h
  cases hpart
  refine replayLeaves_hex fun hnil => ?_
  have hlength := (mapM_eq_ok.mp hrows).length_eq
  rw [List.length_range',hnil,List.length_nil] at hlength
  omega

theorem chunkOutcome_iff {start : ℕ} (s : G) {passes : ℕ}
    (hcount : 0 < min chunkSize (datasetCount - start) ∧ min chunkSize (datasetCount - start) ≤ 256) :
    (∃ part, chunkOutcome numpy patternProbabilities generator platform cell gate chunkSize datasetCount s start = .ok part ∧
      part.1.causalPassCount = passes) ↔
    ∃ each, (chunkRange chunkSize datasetCount start).mapM (fun replicate =>
        (replicatePass numpy patternProbabilities generator cell gate replicate s).1) = .ok each ∧ passes = each.sum := by
  rw [← evaluateRows_iff]
  simp only [chunkOutcome,bind_eq_ok,replayPatternChunk_run start hcount s]
  constructor
  · rintro ⟨part,⟨rows,hrows,counted,hpasses,_,_,hpart⟩,rfl⟩
    cases hpart
    exact ⟨rows,hrows,hpasses⟩
  · rintro ⟨rows,hrows,hpasses⟩
    have hnonempty : rows ≠ [] := by
      rintro rfl
      have hlength := (mapM_eq_ok.mp hrows).length_eq
      rw [chunkRange,List.length_range',List.length_nil] at hlength
      omega
    obtain ⟨top,htop⟩ := chunkLeaves_root platform hnonempty
    exact ⟨_,⟨rows,hrows,passes,hpasses,top,htop,rfl⟩,rfl⟩

theorem chunkOutcomes_iff (s : G) (starts : List ℕ) {passes : ℕ} (hstarts : ∀ start ∈ starts,
      0 < min chunkSize (datasetCount - start) ∧ min chunkSize (datasetCount - start) ≤ 256) :
    (∃ parts, starts.mapM (chunkOutcome numpy patternProbabilities generator platform cell gate chunkSize datasetCount s) =
        .ok parts ∧ (parts.map fun part => part.1.causalPassCount).sum = passes) ↔
    ∃ each, (starts.flatMap (chunkRange chunkSize datasetCount)).mapM (fun replicate =>
        (replicatePass numpy patternProbabilities generator cell gate replicate s).1) = .ok each ∧ passes = each.sum := by
  induction starts generalizing passes with
  | nil =>
    constructor
    · rintro ⟨parts,hparts,rfl⟩
      cases hparts
      exact ⟨[],rfl,rfl⟩
    · rintro ⟨each,heach,rfl⟩
      cases heach
      exact ⟨[],rfl,rfl⟩
  | cons start starts ih =>
    obtain ⟨hstart,hrest⟩ := List.forall_mem_cons.mp hstarts
    simp only [List.mapM_cons,List.flatMap_cons,List.mapM_append,bind_eq_ok]
    constructor
    · rintro ⟨_,⟨part,hpart,parts,hparts,hcons⟩,rfl⟩
      cases hcons
      obtain ⟨first,hfirst,hpasses⟩ := (chunkOutcome_iff s hstart).mp ⟨part,hpart,rfl⟩
      obtain ⟨each,heach,hsum⟩ := (ih hrest).mp ⟨parts,hparts,rfl⟩
      refine ⟨first ++ each,⟨first,hfirst,each,heach,rfl⟩,?_⟩
      rw [List.map_cons,List.sum_cons,List.sum_append,hpasses,hsum]
    · rintro ⟨_,⟨first,hfirst,each,heach,happend⟩,rfl⟩
      cases happend
      obtain ⟨part,hpart,hpasses⟩ := (chunkOutcome_iff s hstart).mpr ⟨first,hfirst,rfl⟩
      obtain ⟨parts,hparts,hsum⟩ := (ih hrest).mpr ⟨each,heach,rfl⟩
      refine ⟨part :: parts,⟨part,hpart,parts,hparts,rfl⟩,?_⟩
      rw [List.map_cons,List.sum_cons,List.sum_append,hpasses,hsum]

theorem chunkOutcomes_leaves {s : G} {starts : List ℕ} {parts : List (ChunkReceipt × List String)} (hne : starts ≠ [])
    (hstarts : ∀ start ∈ starts,
      0 < min chunkSize (datasetCount - start) ∧ min chunkSize (datasetCount - start) ≤ 256)
    (h : starts.mapM (chunkOutcome numpy patternProbabilities generator platform cell gate chunkSize datasetCount s) =
      .ok parts) : HexLeaves (parts.flatMap Prod.snd) := by
  have hparts : ∀ part ∈ parts, HexLeaves part.2 := by
    intro part hpart
    obtain ⟨start,hstart,houtcome⟩ := exists_right_of_forall₂ (mapM_eq_ok.mp h).flip hpart
    exact chunkOutcome_leaves (hstarts start hstart) houtcome
  constructor
  · cases parts with
    | nil =>
      have hlength := (mapM_eq_ok.mp h).length_eq
      exact absurd (List.length_eq_zero_iff.mp hlength) hne
    | cons part parts =>
      rw [List.flatMap_cons]
      exact fun hnil => (hparts part List.mem_cons_self).nonempty (List.append_eq_nil_iff.mp hnil).1
  · intro leaf hleaf
    obtain ⟨part,hpart,hmem⟩ := List.mem_flatMap.mp hleaf
    exact (hparts part hpart).digits leaf hmem

theorem gateTotals_run (s : G) :
    (gateTotalsForCell numpy patternProbabilities generator platform chunkSize cell gate datasetCount s).1.map Prod.fst =
      (chunkStarts datasetCount chunkSize).mapM
          (chunkOutcome numpy patternProbabilities generator platform cell gate chunkSize datasetCount s) >>= fun parts =>
        merkleRoot platform (parts.flatMap Prod.snd) >>= fun _ =>
          pure ⟨datasetCount,(parts.map fun part => part.1.causalPassCount).sum⟩ := by
  have hfold : (((chunkStarts datasetCount chunkSize).foldlM
      (gateChunk numpy patternProbabilities generator platform cell gate chunkSize datasetCount) .empty) s).1 =
        (fun parts => parts.foldl GateProgress.add .empty) <$> (chunkStarts datasetCount chunkSize).mapM
          (chunkOutcome numpy patternProbabilities generator platform cell gate chunkSize datasetCount s) := by
    rw [StateFree.foldlM_run gateChunk_stateFree s]
    simp only [gateChunk_run]
    exact foldlM_add _ _ _ _
  rw [gateTotalsForCell,bind_result,hfold]
  cases (chunkStarts datasetCount chunkSize).mapM
      (chunkOutcome numpy patternProbabilities generator platform cell gate chunkSize datasetCount s) with
  | error e => rfl
  | ok parts =>
    obtain ⟨hcount,hleaves⟩ := add_totals parts .empty
    have hcount' : (parts.foldl GateProgress.add .empty).causalCount =
        (parts.map fun part => part.1.causalPassCount).sum := hcount.trans (Nat.zero_add _)
    have hleaves' : (parts.foldl GateProgress.add .empty).leaves = parts.flatMap Prod.snd := hleaves
    have hmap : (fun parts => parts.foldl GateProgress.add GateProgress.empty) <$> (.ok parts : Py _) =
        .ok (parts.foldl GateProgress.add .empty) := rfl
    rw [hmap,ok_bind,ok_bind,bind_result,lift_run,← hcount',← hleaves']
    cases merkleRoot platform (parts.foldl GateProgress.add .empty).leaves <;> rfl

theorem gateTotals_iff (hsize : 0 < chunkSize ∧ chunkSize ≤ 256) (s : G) {totals : GateTotals} :
    (gateTotalsForCell numpy patternProbabilities generator platform chunkSize cell gate datasetCount s).1.map Prod.fst =
        .ok totals ↔
      0 < datasetCount ∧ ∃ each : List ℕ, (List.range datasetCount).mapM (fun replicate =>
        (replicatePass numpy patternProbabilities generator cell gate replicate s).1) = .ok each ∧
          totals = ⟨datasetCount,each.sum⟩ := by
  have hbounded := @chunkStarts_bounded chunkSize datasetCount hsize
  have houtcomes (passes : ℕ) : (∃ parts, (chunkStarts datasetCount chunkSize).mapM
        (chunkOutcome numpy patternProbabilities generator platform cell gate chunkSize datasetCount s) = .ok parts ∧
          (parts.map fun part => part.1.causalPassCount).sum = passes) ↔
      ∃ each, (List.range datasetCount).mapM (fun replicate =>
        (replicatePass numpy patternProbabilities generator cell gate replicate s).1) = .ok each ∧ passes = each.sum := by
    rw [← chunkStarts_cover hsize.1]
    exact chunkOutcomes_iff s _ hbounded
  have hstarts : 0 < datasetCount ↔ chunkStarts datasetCount chunkSize ≠ [] := by
    rw [chunkStarts,Ne,List.map_eq_nil_iff,List.range_eq_nil,chunkCount,Nat.div_eq_zero_iff]
    omega
  rw [gateTotals_run]
  simp only [bind_eq_ok]
  constructor
  · rintro ⟨parts,hparts,_,hroot,htotals⟩
    cases htotals
    have hne : chunkStarts datasetCount chunkSize ≠ [] := by
      intro hnil
      rw [hnil] at hparts
      cases hparts
      cases hroot
    obtain ⟨each,heach,hsum⟩ := (houtcomes _).mp ⟨parts,hparts,rfl⟩
    exact ⟨hstarts.mpr hne,each,heach,by rw [hsum]⟩
  · rintro ⟨hpositive,each,heach,rfl⟩
    obtain ⟨parts,hparts,hsum⟩ := (houtcomes _).mpr ⟨each,heach,rfl⟩
    obtain ⟨top,_,hroot⟩ := @merkleRoot_eq platform _ (chunkOutcomes_leaves (hstarts.mp hpositive) hbounded hparts)
    exact ⟨parts,hparts,_,hroot,by rw [hsum]; rfl⟩

end Chunks

section Shards
variable {G S : Type} (numpy : Numpy G) (patternProbabilities : (Fin 4 → ℚ) → ℚ → Py (Fin 16 → ℚ))
variable (generator : Generator S) (platform : Platform) (chunkSize : ℕ) (sources : ShardSources)

noncomputable def cellResults (shardCount shardIndex : ℕ) (maxDatasets : Option ℕ) (s : G) : Py (List SimulatedCell) :=
  (simulatePowerShard numpy patternProbabilities generator platform chunkSize { sources with shardCount := shardCount }
    shardIndex maxDatasets none s).1.map SimulatedShard.cellResults

def shardLimits (maxDatasets : Option ℕ) : Py Unit := do
  demand (maxDatasets.all fun limit => decide (0 < limit ∧ limit ≤ sources.datasetsPerCell))
    (.recordValidationError "max_datasets must be a positive bounded integer")
  demand (maxDatasets.isNone || decide (sources.authority.authorityKind = .syntheticValidation))
    (.recordValidationError "only synthetic fixtures may use incomplete P0 shard execution")

variable {numpy patternProbabilities generator platform chunkSize sources}

theorem simulateCell_stateFree (datasetCount : ℕ) (gate : GateInputs) (cell : PowerCell) : StateFree
    (simulateCell numpy patternProbabilities generator platform chunkSize datasetCount gate cell) :=
  gateTotals_stateFree.bind fun _ => .returned _

theorem cellResults_eq {shardCount shardIndex : ℕ} (hindex : shardIndex < shardCount) (maxDatasets : Option ℕ) (s t : G) :
    cellResults numpy patternProbabilities generator platform chunkSize sources shardCount shardIndex maxDatasets s =
      shardLimits sources maxDatasets >>= fun _ =>
        (slice sources.cells (share sources.cells.length shardCount shardIndex)
          (share sources.cells.length shardCount (shardIndex + 1))).mapM fun cell =>
            (simulateCell numpy patternProbabilities generator platform chunkSize
              (maxDatasets.getD sources.datasetsPerCell) sources.gate cell t).1 := by
  have hcheck : decide (shardIndex < shardCount) = true := decide_eq_true hindex
  have hnone : ((none : Option ℕ).all fun limit => decide (0 < limit ∧ limit ≤
      sources.cells.length * (shardIndex + 1) / shardCount - sources.cells.length * shardIndex / shardCount)) = true := rfl
  have hisNone : (maxDatasets.isNone && (none : Option ℕ).isNone) = maxDatasets.isNone := Bool.and_true _
  simp only [cellResults,simulatePowerShard,shardLimits,bind_result,lift_run,hcheck,hnone,hisNone,
    StateFree.mapM_run (simulateCell_stateFree _ _) fun _ => t]
  cases demand (maxDatasets.all fun limit => decide (0 < limit ∧ limit ≤ sources.datasetsPerCell))
      (.recordValidationError "max_datasets must be a positive bounded integer") with
  | error e => rfl
  | ok _ =>
    cases demand (maxDatasets.isNone || decide (sources.authority.authorityKind = .syntheticValidation))
        (.recordValidationError "only synthetic fixtures may use incomplete P0 shard execution") with
    | error e => rfl
    | ok _ =>
      have hkept (x : Py (List SimulatedCell)) (make : List SimulatedCell → SimulatedShard)
          (hmake : ∀ results, (make results).cellResults = results) :
          (x >>= fun results => .ok (make results)).map SimulatedShard.cellResults = x := by
        cases x with
        | error e => rfl
        | ok results => exact congrArg Except.ok (hmake results)
      exact hkept _ (fun results => ⟨shardIndex,results,_,_⟩) fun _ => rfl

theorem cellResults_concat (hshards : 0 < sources.shardCount) (maxDatasets : Option ℕ) (s : G) (slots : ℕ → G) :
    ((List.range sources.shardCount).mapM fun shardIndex =>
        cellResults numpy patternProbabilities generator platform chunkSize sources sources.shardCount shardIndex maxDatasets
          (slots shardIndex)).map List.flatten =
      cellResults numpy patternProbabilities generator platform chunkSize sources 1 0 maxDatasets s := by
  rw [cellResults_eq Nat.one_pos maxDatasets s s,
    mapM_congr fun shardIndex hindex => cellResults_eq (List.mem_range.mp hindex) maxDatasets (slots shardIndex) s]
  have hwhole : slice sources.cells (share sources.cells.length 1 0) (share sources.cells.length 1 (0 + 1)) = sources.cells := by
    simp [slice,share]
  rw [hwhole]
  cases shardLimits sources maxDatasets with
  | error e =>
    obtain ⟨first,rest,hrange⟩ := List.exists_cons_of_ne_nil (fun hnil =>
      hshards.ne' (List.range_eq_nil.mp hnil) : List.range sources.shardCount ≠ [])
    rw [hrange,List.mapM_cons]
    rfl
  | ok _ =>
    simp only [ok_bind]
    have hcover := slices_cover (share_mono sources.cells.length sources.shardCount) (share_zero _ _)
      (share_last sources.cells.length hshards)
    conv_rhs => rw [← hcover]
    exact (mapM_flatMap (fun cell => (simulateCell numpy patternProbabilities generator platform chunkSize
      (maxDatasets.getD sources.datasetsPerCell) sources.gate cell s).1) _ _).symm

theorem shardRanges_cover (n : ℕ) {c : ℕ} (hc : 0 < c) :
    (List.range c).flatMap (fun i => List.range' (n * i / c) (n * (i + 1) / c - n * i / c)) = List.range n := by
  have hcover := slices_cover (share_mono n c) (share_zero n c) ((share_last n hc).trans List.length_range.symm)
  rw [← hcover]
  refine List.flatMap_congr fun i hi => ?_
  have hbound : share n c (i + 1) ≤ n := by
    have hmono := share_mono n c (List.mem_range.mp hi)
    rwa [share_last n hc] at hmono
  rw [slice_range hbound]
  rfl

end Shards

theorem sharding_preserves_results {G S : Type} (numpy : Numpy G)
    (patternProbabilities : (Fin 4 → ℚ) → ℚ → Py (Fin 16 → ℚ)) (generator : Generator S) (platform : Platform)
    {chunkSize : ℕ} (hsize : 1 ≤ chunkSize ∧ chunkSize ≤ 256) (sources : ShardSources) (hshards : 1 ≤ sources.shardCount)
    (maxDatasets : Option ℕ) (slot : G) (slots : ℕ → G) :
    (List.range sources.shardCount).flatMap (fun i => List.range' (sources.cells.length * i / sources.shardCount)
        (sources.cells.length * (i + 1) / sources.shardCount - sources.cells.length * i / sources.shardCount)) =
      List.range sources.cells.length ∧
    (List.range sources.shardCount).flatMap (fun i => slice sources.cells (sources.cells.length * i / sources.shardCount)
        (sources.cells.length * (i + 1) / sources.shardCount)) = sources.cells ∧
    ((List.range sources.shardCount).mapM fun shardIndex =>
        cellResults numpy patternProbabilities generator platform chunkSize sources sources.shardCount shardIndex maxDatasets
          (slots shardIndex)).map List.flatten =
      cellResults numpy patternProbabilities generator platform chunkSize sources 1 0 maxDatasets slot ∧
    ∀ (cell : PowerCell) (gate : GateInputs) (datasetCount : ℕ) (totals : GateTotals),
      (gateTotalsForCell numpy patternProbabilities generator platform chunkSize cell gate datasetCount slot).1.map Prod.fst =
          .ok totals ↔
        0 < datasetCount ∧ ∃ each : List ℕ, (List.range datasetCount).mapM (fun replicate =>
          (replicatePass numpy patternProbabilities generator cell gate replicate (slots replicate)).1) = .ok each ∧
            totals = ⟨datasetCount,each.sum⟩ := by
  refine ⟨shardRanges_cover _ hshards,slices_cover (share_mono sources.cells.length sources.shardCount) (share_zero _ _)
    (share_last _ hshards),cellResults_concat hshards maxDatasets slot slots,fun cell gate datasetCount totals => ?_⟩
  rw [gateTotals_iff hsize slot]
  have hreplicates : (List.range datasetCount).mapM (fun replicate =>
      (replicatePass numpy patternProbabilities generator cell gate replicate slot).1) =
        (List.range datasetCount).mapM fun replicate =>
          (replicatePass numpy patternProbabilities generator cell gate replicate (slots replicate)).1 :=
    mapM_congr fun replicate _ => replicatePass_stateFree replicate slot (slots replicate)
  rw [hreplicates]

section Sample

def fillGroups : List ℕ → ℕ → List ℕ
  | [],_ => []
  | size :: sizes,count => min size count :: fillGroups sizes (count - size)

theorem fillGroups_le (sizes : List ℕ) (count : ℕ) : List.Forall₂ (· ≤ ·) (fillGroups sizes count) sizes := by
  induction sizes generalizing count with
  | nil => exact .nil
  | cons size sizes ih => exact .cons (min_le_left size count) (ih _)

-- One outcome of each sampler within the range that numpy documents.
def fillNumpy : Numpy Unit where
  philox := fun _ => ()
  multivariateHypergeometric := fun _ sizes count => (fillGroups sizes count,())
  multinomial := fun _ count _ => (fun pattern => if pattern = 0 then count else 0,())
  binomial := fun _ _ _ => (0,())
  hypergeometric_le := fun _ sizes count _ => fillGroups_le sizes count
  multinomial_total := fun _ count _ => countTotal_single 0 count
  multinomial_nonneg := fun _ count _ pattern => by
    change (0 : ℤ) ≤ if pattern = 0 then (count : ℤ) else 0
    split <;> omega
  binomial_le := fun _ count _ => Nat.zero_le count

def sampleNuisance : Nuisance := ⟨2 / 5,3 / 4,0⟩

def sampleSources : ShardSources where
  shardCount := 2
  phase := .gaussianApproximation
  cells := [⟨"alternative:swe-00:tau-00",.alternative,sampleNuisance,sampleNuisance⟩,
    ⟨"null_both:swe-00:tau-00",.nullBoth,sampleNuisance,sampleNuisance⟩,
    ⟨"null_excess:swe-00:tau-00",.nullExcess,sampleNuisance,sampleNuisance⟩]
  datasetsPerCell := 300
  authority := ⟨.syntheticValidation,⟨"roster","roster.json","".pushn '0' 64,1,"application/json"⟩,"".pushn 'a' 64⟩
  digest := "".pushn 'b' 64
  rosterGroupSizes := ([12,8],[20])
  jointGroupLabels := ([[],[]],[[]])

theorem two_shards_concat : (List.range 2).flatMap (fun i => List.range' (3 * i / 2) (3 * (i + 1) / 2 - 3 * i / 2)) =
      List.range 3 ∧
    ((List.range 2).mapM fun shardIndex =>
        cellResults fillNumpy (fun _ _ => .ok fun _ => 1 / 16) Generator.lowest endsPlatform 128 sampleSources 2 shardIndex
          none ()).map List.flatten =
      cellResults fillNumpy (fun _ _ => .ok fun _ => 1 / 16) Generator.lowest endsPlatform 128 sampleSources 1 0 none () := by
  have hsize : 1 ≤ 128 ∧ 128 ≤ 256 := by decide
  have hshards : 1 ≤ sampleSources.shardCount := by decide
  have hrun := sharding_preserves_results fillNumpy (fun _ _ => .ok fun _ => 1 / 16) Generator.lowest endsPlatform
    hsize sampleSources hshards none () fun _ => ()
  exact ⟨hrun.1,hrun.2.2.1⟩

end Sample

end PneumaLab.ResamplingNull
