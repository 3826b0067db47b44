import PneumaLab.ResamplingNull.Power.Identities

namespace PneumaLab.ResamplingNull

def isFailedGaussianValidation (document : PowerDocument) : Bool :=
  match document.payload.body with
  | .gaussianValidation validation => !validation.approximationReceipt.passed
  | _ => false

section Order

theorem powerAttemptOrder_injective : Function.Injective powerAttemptOrder := by
  rintro ⟨phase,generation⟩ ⟨phase',generation'⟩ h
  have hpair := toLex.injective h
  cases phase <;> cases phase' <;> simp_all [powerPhaseOrder]

theorem eq_of_not_later {left right : PowerPhase × ℕ} (hleft : later left right = false)
    (hright : later right left = false) : left = right := by
  simp only [later,decide_eq_false_iff_not,not_lt] at hleft hright
  exact powerAttemptOrder_injective (le_antisymm hleft hright)

end Order

section Documents
variable {documents : List PowerDocument} {document : PowerDocument}

theorem mem_nonfinal : document ∈ nonfinalDocuments documents ↔
    document ∈ documents ∧ document.payload.stage ≠ .final := by
  simp [nonfinalDocuments]

theorem mem_attemptDocuments {nonfinal : List PowerDocument} {attempt : PowerPhase × ℕ} :
    document ∈ attemptDocuments nonfinal attempt ↔ document ∈ nonfinal ∧ document.payload.attempt = attempt := by
  simp [attemptDocuments]

theorem terminal_stage (h : isTerminalPowerValidation document = true) : document.payload.stage = .validation := by
  unfold isTerminalPowerValidation at h
  unfold PowerPayload.stage
  cases hbody : document.payload.body <;> simp_all [StagePayload.stage]

theorem failed_gaussian (h : isFailedGaussianValidation document = true) :
    document.payload.stage = .validation ∧ document.payload.phase = .gaussianApproximation ∧
      isTerminalPowerValidation document = false := by
  unfold isFailedGaussianValidation at h
  unfold PowerPayload.stage PowerPayload.phase isTerminalPowerValidation
  cases hbody : document.payload.body <;> simp_all [StagePayload.stage,StagePayload.phase]

theorem filter_validation_le {nonfinal : List PowerDocument} {attempt : PowerPhase × ℕ} (p : PowerDocument → Bool)
    (hp : ∀ document ∈ documents, p document = true →
      document.payload.stage = .validation ∧ document.payload.attempt = attempt)
    (hnonfinal : nonfinal = nonfinalDocuments documents)
    (hone : ((attemptDocuments nonfinal attempt).filter fun document =>
      document.payload.stage = .validation).length ≤ 1) :
    (documents.filter p).length ≤ 1 := by
  have heq : documents.filter p = ((attemptDocuments nonfinal attempt).filter fun document =>
      document.payload.stage = .validation).filter p := by
    rw [hnonfinal,attemptDocuments,nonfinalDocuments,List.filter_filter,List.filter_filter,List.filter_filter]
    refine List.filter_congr fun document hmem => ?_
    by_cases h : p document = true
    · obtain ⟨hstage,hattempt⟩ := hp document hmem h
      simp [h,hstage,hattempt]
    · simp [h]
  rw [heq]
  exact (List.filter_sublist.length_le).trans hone

end Documents

section Transitions
variable {nonfinal : List PowerDocument} {validation document : PowerDocument}

theorem requireNoSuccessor_of_mem (h : validatePowerTransitions nonfinal = .ok ()) (hvalidation : validation ∈ nonfinal)
    (hstage : validation.payload.stage = .validation) : requireNoSuccessor nonfinal validation = .ok () :=
  forM_eq_ok.mp h validation (List.mem_filter.mpr ⟨hvalidation,decide_eq_true hstage⟩)

theorem no_successor_of_terminal (h : validatePowerTransitions nonfinal = .ok ()) (hvalidation : validation ∈ nonfinal)
    (hterminal : isTerminalPowerValidation validation = true) (hdocument : document ∈ nonfinal) :
    later document.payload.attempt validation.payload.attempt = false := by
  have hcheck := requireNoSuccessor_of_mem h hvalidation (terminal_stage hterminal)
  rw [Bool.eq_false_iff]
  intro hlater
  have hmem : document ∈ nonfinal.filter fun document =>
      later document.payload.attempt validation.payload.attempt :=
    List.mem_filter.mpr ⟨hdocument,hlater⟩
  unfold requireNoSuccessor at hcheck
  rw [if_neg (by simp [List.ne_nil_of_mem hmem]),if_neg (by simp [hterminal])] at hcheck
  cases hcheck

theorem successor_of_failed (h : validatePowerTransitions nonfinal = .ok ()) (hvalidation : validation ∈ nonfinal)
    (hfailed : isFailedGaussianValidation validation = true) (hdocument : document ∈ nonfinal)
    (hlater : later document.payload.attempt validation.payload.attempt = true) :
    document.payload.phase = .fullMultiplierFallback := by
  obtain ⟨hstage,hphase,hterminal⟩ := failed_gaussian hfailed
  have hcheck := requireNoSuccessor_of_mem h hvalidation hstage
  have hmem : document ∈ nonfinal.filter fun document =>
      later document.payload.attempt validation.payload.attempt :=
    List.mem_filter.mpr ⟨hdocument,hlater⟩
  unfold requireNoSuccessor at hcheck
  rw [hterminal,hphase,if_neg (by simp [List.ne_nil_of_mem hmem]),if_pos (by simp),demand_eq_ok,
    List.all_eq_true] at hcheck
  exact of_decide_eq_true (hcheck document hmem)

theorem attempt_of_terminals (h : validatePowerTransitions nonfinal = .ok ()) (hvalidation : validation ∈ nonfinal)
    (hterminal : isTerminalPowerValidation validation = true) (hdocument : document ∈ nonfinal)
    (hother : isTerminalPowerValidation document = true) :
    document.payload.attempt = validation.payload.attempt :=
  eq_of_not_later (no_successor_of_terminal h hvalidation hterminal hdocument)
    (no_successor_of_terminal h hdocument hother hvalidation)

theorem not_later_of_failed (h : validatePowerTransitions nonfinal = .ok ()) (hvalidation : validation ∈ nonfinal)
    (hfailed : isFailedGaussianValidation validation = true) (hdocument : document ∈ nonfinal)
    (hgaussian : document.payload.phase = .gaussianApproximation) :
    later document.payload.attempt validation.payload.attempt = false := by
  rw [Bool.eq_false_iff]
  intro hlater
  have hphase := successor_of_failed h hvalidation hfailed hdocument hlater
  rw [hgaussian] at hphase
  cases hphase

theorem attempt_of_failures (h : validatePowerTransitions nonfinal = .ok ()) (hvalidation : validation ∈ nonfinal)
    (hfailed : isFailedGaussianValidation validation = true) (hdocument : document ∈ nonfinal)
    (hother : isFailedGaussianValidation document = true) :
    document.payload.attempt = validation.payload.attempt :=
  eq_of_not_later (not_later_of_failed h hvalidation hfailed hdocument (failed_gaussian hother).2.1)
    (not_later_of_failed h hdocument hother hvalidation (failed_gaussian hfailed).2.1)

end Transitions

section Attempt
variable {terminal : Option (Staged GaussianValidation)} {grid : List String} {phase : PowerPhase}
variable {documents : List PowerDocument}

structure AcceptedAttempt (terminal : Option (Staged GaussianValidation)) (grid : List String) (phase : PowerPhase)
    (documents : List PowerDocument) (screen : Staged PowerScreen) : Prop where
  screen_only : staged StagePayload.screen? documents = [screen]
  shardCounts : ∀ document ∈ documents, document.payload.shardCount = screen.document.payload.shardCount
  validations_le : (documents.filter fun document => document.payload.stage = .validation).length ≤ 1
  parents : requireScreenParents terminal screen phase = .ok ()
  downstream_none : orderedShards documents = [] → staged StagePayload.selection? documents = [] ∧
    (documents.filter fun document => document.payload.stage = .validation) = []
  downstream : orderedShards documents ≠ [] → ∃ complete,
    requireShardSet grid screen (orderedShards documents) = .ok complete ∧
      requireDownstream terminal grid phase documents screen complete = .ok ()

theorem validatePowerAttempt_accepted (h : validatePowerAttempt terminal grid phase documents = .ok ()) :
    ∃ screen, AcceptedAttempt terminal grid phase documents screen := by
  simp only [validatePowerAttempt,bind_eq_ok,demand_eq_ok,required_eq_ok,Bool.and_eq_true,decide_eq_true_eq,
    forM_eq_ok] at h
  obtain ⟨_,hscreens,screen,hscreen,_,hcells,_,hfrozen,_,⟨hselections,hvalidations⟩,_,hparents,hrest⟩ := h
  refine ⟨screen,?_,?_,hvalidations,hparents,?_,?_⟩
  · obtain ⟨other,hother⟩ := List.length_eq_one_iff.mp hscreens
    rw [hother] at hscreen ⊢
    cases hscreen
    rfl
  · intro document hdocument
    have hcheck := hfrozen document hdocument
    simp only [requireFrozenAttempt,bind_eq_ok,demand_eq_ok,decide_eq_true_eq] at hcheck
    obtain ⟨_,hcount,_⟩ := hcheck
    exact hcount
  · intro hnone
    rw [if_pos (List.isEmpty_iff.mpr hnone),demand_eq_ok,Bool.and_eq_true,List.isEmpty_iff,List.isEmpty_iff] at hrest
    exact hrest
  · intro hsome
    rw [if_neg (by simpa using hsome),bind_eq_ok] at hrest
    exact hrest

structure ShardChain (grid : List String) (documents : List PowerDocument) (screen : Staged PowerScreen) : Prop where
  indices : ((orderedShards documents).map fun shard => shard.detail.shardIndex) =
    List.range (orderedShards documents).length
  bounded : (orderedShards documents).length ≤ screen.document.payload.shardCount
  covered : (orderedShards documents).flatMap shardCellIds <+: grid
  complete : (∃ document ∈ documents, document.payload.stage = .selection ∨ document.payload.stage = .validation) →
    (orderedShards documents).length = screen.document.payload.shardCount ∧
      (orderedShards documents).flatMap shardCellIds = grid

theorem requireShardSet_eq_ok {screen : Staged PowerScreen} {shards : List (Staged PowerShard)} {complete : Bool}
    (hcounts : ∀ shard ∈ shards, shard.document.payload.shardCount = screen.document.payload.shardCount)
    (h : requireShardSet grid screen shards = .ok complete) :
    shards.length ≤ screen.document.payload.shardCount ∧
      (shards.map fun shard => shard.detail.shardIndex) = List.range shards.length ∧
      shards.flatMap shardCellIds <+: grid ∧
      (complete = true → shards.length = screen.document.payload.shardCount ∧ shards.flatMap shardCellIds = grid) := by
  simp only [requireShardSet,bind_eq_ok,demand_eq_ok,required_eq_ok,Bool.and_eq_true,decide_eq_true_eq,
    forM_eq_ok] at h
  obtain ⟨_,_,_,_,count,hcount,_,⟨hlength,hindices⟩,_,_,_,hmerged,hreturn⟩ := h
  obtain rfl : count = screen.document.payload.shardCount := by
    have hmem := List.mem_of_mem_head? (Option.mem_def.mpr hcount)
    rw [List.mem_eraseDups,List.mem_map] at hmem
    obtain ⟨shard,hshard,rfl⟩ := hmem
    exact hcounts shard hshard
  cases hreturn
  refine ⟨hlength,hindices,?_,?_⟩
  · by_cases hall : shards.length = screen.document.payload.shardCount
    · rw [if_pos hall] at hmerged
      exact hmerged ▸ List.prefix_refl _
    · rw [if_neg hall] at hmerged
      rw [hmerged]
      exact List.take_prefix _ _
  · intro hcomplete
    have hall := of_decide_eq_true hcomplete
    rw [if_pos hall] at hmerged
    exact ⟨hall,hmerged⟩

theorem exists_selection {document : PowerDocument} (hmem : document ∈ documents)
    (hstage : document.payload.stage = .selection) : staged StagePayload.selection? documents ≠ [] := by
  obtain ⟨selection,hbody⟩ : ∃ selection, document.payload.body = .selection selection := by
    unfold PowerPayload.stage at hstage
    cases hbody : document.payload.body <;> simp_all [StagePayload.stage]
  have hentry : (⟨document,selection⟩ : Staged PowerSelection) ∈ staged StagePayload.selection? documents :=
    mem_staged.mpr ⟨hmem,by rw [hbody]; rfl⟩
  exact List.ne_nil_of_mem hentry

theorem fullGridValidation_of_phase {document : PowerDocument} (hstage : document.payload.stage = .validation)
    (hphase : document.payload.phase = .fullMultiplierFallback) :
    ∃ validation, document.payload.body = .fullGridValidation validation := by
  unfold PowerPayload.stage at hstage
  unfold PowerPayload.phase at hphase
  cases hbody : document.payload.body <;> simp_all [StagePayload.stage,StagePayload.phase]

theorem exists_fullGridValidation {document : PowerDocument} (hmem : document ∈ documents)
    (hstage : document.payload.stage = .validation) (hphase : document.payload.phase = .fullMultiplierFallback) :
    staged StagePayload.fullGridValidation? documents ≠ [] := by
  obtain ⟨validation,hbody⟩ := fullGridValidation_of_phase hstage hphase
  have hentry : (⟨document,validation⟩ : Staged FullGridValidation) ∈
      staged StagePayload.fullGridValidation? documents := mem_staged.mpr ⟨hmem,by rw [hbody]; rfl⟩
  exact List.ne_nil_of_mem hentry

theorem exists_head_of_ne_nil {α : Type} {xs : List α} (h : xs ≠ []) : ∃ x, xs.head? = some x :=
  ⟨xs.head h,List.head?_eq_some_head h⟩

theorem complete_of_downstream {screen : Staged PowerScreen} {complete : Bool}
    (hphase : ∀ document ∈ documents, document.payload.phase = phase)
    (h : requireDownstream terminal grid phase documents screen complete = .ok ()) {document : PowerDocument}
    (hmem : document ∈ documents)
    (hstage : document.payload.stage = .selection ∨ document.payload.stage = .validation) : complete = true := by
  cases phase with
  | gaussianApproximation =>
    simp only [requireDownstream,requireGaussianDownstream,bind_eq_ok,demand_eq_ok,present_eq_ok,Bool.or_eq_true,
      List.isEmpty_iff,Bool.not_eq_true',List.isEmpty_eq_false_iff] at h
    obtain ⟨_,hparent,_,hselection,_⟩ := h
    have hsome : staged StagePayload.selection? documents ≠ [] := by
      rcases hstage with hselected | hvalidated
      · exact exists_selection hmem hselected
      · exact hparent.resolve_left (List.ne_nil_of_mem (List.mem_filter.mpr ⟨hmem,decide_eq_true hvalidated⟩))
    obtain ⟨selection,hhead⟩ := exists_head_of_ne_nil hsome
    obtain ⟨_,hcomplete,_⟩ := hselection selection hhead
    exact hcomplete
  | fullMultiplierFallback =>
    simp only [requireDownstream,requireFallbackDownstream,bind_eq_ok,demand_eq_ok,present_eq_ok,
      List.isEmpty_iff] at h
    obtain ⟨_,hnone,hvalidation⟩ := h
    rcases hstage with hselected | hvalidated
    · exact absurd hnone (exists_selection hmem hselected)
    · obtain ⟨validation,hhead⟩ :=
        exists_head_of_ne_nil (exists_fullGridValidation hmem hvalidated (hphase document hmem))
      obtain ⟨_,hcomplete,_⟩ := hvalidation validation hhead
      exact hcomplete

theorem mem_orderedShards {shard : Staged PowerShard} :
    shard ∈ orderedShards documents ↔ shard ∈ staged StagePayload.shard? documents := List.mem_insertionSort _

theorem AcceptedAttempt.shardChain {screen : Staged PowerScreen}
    (h : AcceptedAttempt terminal grid phase documents screen)
    (hphase : ∀ document ∈ documents, document.payload.phase = phase) : ShardChain grid documents screen := by
  by_cases hsome : orderedShards documents = []
  · obtain ⟨hselections,hvalidations⟩ := h.downstream_none hsome
    refine ⟨by rw [hsome]; rfl,by rw [hsome]; exact Nat.zero_le _,by rw [hsome]; exact List.nil_prefix,?_⟩
    rintro ⟨document,hmem,hselected | hvalidated⟩
    · exact absurd hselections (exists_selection hmem hselected)
    · exact absurd hvalidations (List.ne_nil_of_mem (List.mem_filter.mpr ⟨hmem,decide_eq_true hvalidated⟩))
  · obtain ⟨complete,hset,hdownstream⟩ := h.downstream hsome
    obtain ⟨hbounded,hindices,hcovered,hcomplete⟩ := requireShardSet_eq_ok
      (fun shard hshard => h.shardCounts _ (mem_staged.mp (mem_orderedShards.mp hshard)).1) hset
    refine ⟨hindices,hbounded,hcovered,?_⟩
    rintro ⟨document,hmem,hstage⟩
    exact hcomplete (complete_of_downstream hphase hdownstream hmem hstage)

theorem eq_of_length_le_one {α : Type} {xs : List α} (h : xs.length ≤ 1) {x y : α} (hx : x ∈ xs) (hy : y ∈ xs) :
    x = y := by
  match xs with
  | [] => cases hx
  | [z] => rw [List.mem_singleton.mp hx,List.mem_singleton.mp hy]
  | _ :: _ :: _ => simp at h

theorem staged_length_le {σ : Type} {view : StagePayload → Option σ} {p : PowerDocument → Bool}
    (hview : ∀ document ∈ documents, (view document.payload.body).isSome → p document = true) :
    (staged view documents).length ≤ (documents.filter p).length := by
  rw [staged,List.length_filterMap_eq_countP,← List.countP_eq_length_filter]
  refine List.countP_mono_left fun document hmem hsome => hview document hmem ?_
  simpa using hsome

theorem screen_trigger {screen : Staged PowerScreen}
    (h : requireScreenParents terminal screen .fullMultiplierFallback = .ok ()) :
    ∃ trigger, terminal = some trigger ∧ trigger.detail.approximationReceipt.passed = false ∧
      documentRefIdentity trigger.document ∈ screen.document.payload.parentRefs.map refIdentity := by
  simp only [requireScreenParents,bind_eq_ok,demand_eq_ok,required_eq_ok,Option.any_eq_true,Bool.and_eq_true,
    decide_eq_true_eq,Bool.not_eq_true'] at h
  obtain ⟨_,_,parent,hparent,fallback,_,_,_,trigger,hterminal,hidentity,hfailed⟩ := h
  refine ⟨trigger,hterminal,hfailed,?_⟩
  rw [← hidentity]
  exact List.mem_map_of_mem (List.mem_of_mem_head? (Option.mem_def.mpr hparent))

theorem validation_trigger {screen : Staged PowerScreen} {complete : Bool}
    (h : requireDownstream terminal grid .fullMultiplierFallback documents screen complete = .ok ())
    (hone : (documents.filter fun document => document.payload.stage = .validation).length ≤ 1)
    {validation : Staged FullGridValidation}
    (hmem : validation ∈ staged StagePayload.fullGridValidation? documents) :
    ∃ trigger, terminal = some trigger ∧
      documentRefIdentity trigger.document ∈ validation.document.payload.parentRefs.map refIdentity := by
  simp only [requireDownstream,requireFallbackDownstream,bind_eq_ok,demand_eq_ok,present_eq_ok,Option.any_eq_true,
    decide_eq_true_eq,requireParentChain] at h
  obtain ⟨_,_,hvalidation⟩ := h
  obtain ⟨first,hhead⟩ := exists_head_of_ne_nil (List.ne_nil_of_mem hmem)
  have hlength : (staged StagePayload.fullGridValidation? documents).length ≤ 1 := by
    refine (staged_length_le fun document _ hsome => ?_).trans hone
    unfold PowerPayload.stage
    cases hbody : document.payload.body <;> simp_all [StagePayload.fullGridValidation?,StagePayload.stage]
  obtain rfl : first = validation :=
    eq_of_length_le_one hlength (List.mem_of_mem_head? (Option.mem_def.mpr hhead)) hmem
  obtain ⟨_,_,_,hchain,_,⟨trigger,hterminal,hidentity⟩,_⟩ := hvalidation first hhead
  refine ⟨trigger,hterminal,?_⟩
  rw [hchain,← hidentity]
  exact List.mem_cons_self

end Attempt

section Topology
variable {Layout : Type} {sources : PowerSources Layout} {documents : List PowerDocument}

theorem requireSharedContract_grid {payload baseline : PowerPayload}
    (h : requireSharedContract payload baseline = .ok ()) :
    payload.gridRef = baseline.gridRef ∧ payload.decisionAuthority = baseline.decisionAuthority := by
  simp only [requireSharedContract,bind_eq_ok,demand_eq_ok,forM_eq_ok,requireArtifactRefEqual,
    decide_eq_true_eq] at h
  obtain ⟨_,hrefs,_,hauthority,_⟩ := h
  exact ⟨hrefs (payload.gridRef,baseline.gridRef,"grid_ref") (by simp),hauthority⟩

theorem powerGridCellIds_congr {payload baseline : PowerPayload} (hgrid : payload.gridRef = baseline.gridRef)
    (hauthority : payload.decisionAuthority = baseline.decisionAuthority) :
    powerGridCellIds sources payload = powerGridCellIds sources baseline := by
  unfold powerGridCellIds orderedCellIds
  rw [hgrid,hauthority]

theorem topology_accepted (h : validatePowerAttemptTopology sources documents = .ok ()) :
    ∃ grid, (∀ document ∈ documents, powerGridCellIds sources document.payload = .ok grid) ∧
      ∀ document ∈ nonfinalDocuments documents, ∃ screen,
        AcceptedAttempt (terminalGaussianValidation (nonfinalDocuments documents)) grid document.payload.phase
          (attemptDocuments (nonfinalDocuments documents) document.payload.attempt) screen := by
  match documents with
  | [] => cases h
  | baseline :: others =>
    simp only [validatePowerAttemptTopology,bind_eq_ok,demand_eq_ok,forM_eq_ok] at h
    obtain ⟨_,_,_,hshared,grid,hgrid,hattempts⟩ := h
    refine ⟨grid,?_,?_⟩
    · intro document hmem
      rcases List.mem_cons.mp hmem with rfl | hmem
      · exact hgrid
      · obtain ⟨href,hauthority⟩ := requireSharedContract_grid (hshared document hmem)
        rw [powerGridCellIds_congr href hauthority]
        exact hgrid
    · intro document hmem
      refine validatePowerAttempt_accepted (hattempts document.payload.attempt ?_)
      exact List.mem_eraseDups.mpr (List.mem_map_of_mem hmem)

end Topology

end PneumaLab.ResamplingNull
