import PneumaLab.ResamplingNull.Power.AttemptChain

namespace PneumaLab.ResamplingNull

def CompletedChain.attempt (chain : CompletedChain) : PowerPhase × ℕ := (chain.branch.phase,chain.selectedGeneration)

def CompletedBranch.validationRef : CompletedBranch → ArtifactRef
  | .gaussian _ validationRef => validationRef
  | .fullMultiplier _ validationRef => validationRef

def CompletedChain.PassedBy (chain : CompletedChain) (document : PowerDocument) : Prop :=
  match document.payload.body with
  | .gaussianValidation validation => validation.approximationReceipt.passed = true
  | .fullGridValidation validation =>
    validation.selectedTier = chain.selectedTier ∧ validation.decision = chain.decision ∧ validation.decision ≠ .noGo
  | _ => False

structure NamedCompletion (grid : List String) (nonfinal : List PowerDocument) (chain : CompletedChain) : Prop where
  last : ∀ document ∈ nonfinal, later document.payload.attempt chain.attempt = false
  screen : ∃ screen, staged StagePayload.screen? (attemptDocuments nonfinal chain.attempt) = [screen] ∧
    chain.selectedScreenRef.relativePath = screen.document.relativePath
  shards : chain.selectedShardRefs.map ArtifactRef.relativePath =
    (orderedShards (attemptDocuments nonfinal chain.attempt)).map fun shard => shard.document.relativePath
  covered : (orderedShards (attemptDocuments nonfinal chain.attempt)).flatMap shardCellIds = grid
  validation : ∃ validation, ((attemptDocuments nonfinal chain.attempt).filter fun document =>
      document.payload.stage = .validation) = [validation] ∧
    chain.branch.validationRef.relativePath = validation.relativePath ∧ chain.PassedBy validation

structure PowerChain (grid : List String) (documents : List PowerDocument) : Prop where
  terminal_le_one : (documents.filter isTerminalPowerValidation).length ≤ 1
  terminal_last : ∀ validation ∈ documents, isTerminalPowerValidation validation = true →
    ∀ document ∈ documents, later document.payload.attempt validation.payload.attempt = false
  fallback_parents : ∀ document ∈ documents, document.payload.phase = .fullMultiplierFallback →
    document.payload.stage = .screen ∨ document.payload.stage = .validation →
    ∃ trigger, documents.filter isFailedGaussianValidation = [trigger] ∧
      documentRefIdentity trigger ∈ document.payload.parentRefs.map refIdentity
  shards : ∀ document ∈ nonfinalDocuments documents, ∃ screen,
    staged StagePayload.screen? (attemptDocuments (nonfinalDocuments documents) document.payload.attempt) = [screen] ∧
      ShardChain grid (attemptDocuments (nonfinalDocuments documents) document.payload.attempt) screen
  final : ∃ final, staged StagePayload.final? documents = [final] ∧
    ∀ chain, final.detail.finalization = .completedChain chain →
      final.document.payload.attempt = chain.attempt ∧ NamedCompletion grid (nonfinalDocuments documents) chain

section Selected
variable {σ : Type} {nonfinal : List PowerDocument} {attempt : PowerPhase × ℕ} {view : StagePayload → Option σ}
variable {ref : ArtifactRef} {field : String} {entry : Staged σ}

theorem selectedDocument_eq_ok (h : selectedDocument nonfinal attempt view ref field = .ok entry) :
    entry ∈ staged view (attemptDocuments nonfinal attempt) ∧ ref.relativePath = entry.document.relativePath := by
  simp only [selectedDocument,bind_eq_ok,required_eq_ok,demand_eq_ok,decide_eq_true_eq,documentByPath] at h
  obtain ⟨document,hfind,detail,hview,_,hattempt,hreturn⟩ := h
  cases hreturn
  have hmem := List.mem_reverse.mp (List.mem_of_find?_eq_some hfind)
  have hpath := List.find?_some hfind
  exact ⟨mem_staged.mpr ⟨mem_attemptDocuments.mpr ⟨hmem,hattempt⟩,hview⟩,(of_decide_eq_true hpath).symm⟩

end Selected

section Finalization
variable {nonfinal : List PowerDocument}

theorem not_superseded {attempt : PowerPhase × ℕ} {error : Raised}
    (h : requireNoSuperseded nonfinal attempt error = .ok ()) {validation : PowerDocument}
    (hmem : validation ∈ nonfinal) (hterminal : isTerminalPowerValidation validation = true) :
    later attempt validation.payload.attempt = false := by
  rw [requireNoSuperseded,demand_eq_ok,List.all_eq_true] at h
  have hcheck := h validation hmem
  rw [hterminal,Bool.and_true,Bool.not_eq_true'] at hcheck
  exact hcheck

theorem decision_ne_noGo {authority : DecisionAuthority} {chain : CompletedChain}
    (h : requireVerdict authority chain = .ok ()) : chain.decision ≠ .noGo := by
  cases authority <;>
    simp only [requireVerdict,demand_eq_ok,Bool.and_eq_true,decide_eq_true_eq] at h <;> simp [h.2]

theorem gaussianValidation_of_view {payload : StagePayload} {validation : GaussianValidation}
    (h : payload.gaussianValidation? = some validation) : payload = .gaussianValidation validation := by
  cases payload <;> cases h
  rfl

theorem fullGridValidation_of_view {payload : StagePayload} {validation : FullGridValidation}
    (h : payload.fullGridValidation? = some validation) : payload = .fullGridValidation validation := by
  cases payload <;> cases h
  rfl

section Completed
variable {authority : DecisionAuthority} {finalAttempt : PowerPhase × ℕ} {chain : CompletedChain}

theorem gaussian_validation_named (chain : CompletedChain) {selectionRef validationRef : ArtifactRef}
    (h : requireGaussianCompletion nonfinal chain.attempt authority chain selectionRef validationRef = .ok ()) :
    ∃ validation ∈ staged StagePayload.gaussianValidation? (attemptDocuments nonfinal chain.attempt),
      validationRef.relativePath = validation.document.relativePath ∧
        validation.detail.approximationReceipt.passed = true := by
  simp only [requireGaussianCompletion,bind_eq_ok,demand_eq_ok] at h
  obtain ⟨_,_,validation,hselected,_,_,_,hpassed,_⟩ := h
  obtain ⟨hmem,hpath⟩ := selectedDocument_eq_ok hselected
  exact ⟨validation,hmem,hpath,hpassed⟩

theorem fallback_validation_named (chain : CompletedChain) {fallbackRef validationRef : ArtifactRef}
    (h : requireFallbackCompletion nonfinal chain.attempt chain fallbackRef validationRef = .ok ()) :
    ∃ validation ∈ staged StagePayload.fullGridValidation? (attemptDocuments nonfinal chain.attempt),
      validationRef.relativePath = validation.document.relativePath ∧
        validation.detail.selectedTier = chain.selectedTier ∧ validation.detail.decision = chain.decision := by
  simp only [requireFallbackCompletion,bind_eq_ok,demand_eq_ok,required_eq_ok,Bool.and_eq_true,
    decide_eq_true_eq] at h
  obtain ⟨validation,hselected,_,_,_,_,_,⟨htier,hdecision⟩,_⟩ := h
  obtain ⟨hmem,hpath⟩ := selectedDocument_eq_ok hselected
  exact ⟨validation,hmem,hpath,htier,hdecision⟩

structure CompletedFacts (nonfinal : List PowerDocument) (finalAttempt : PowerPhase × ℕ) (chain : CompletedChain) :
    Prop where
  attempt : finalAttempt = chain.attempt
  last : ∀ document ∈ nonfinal, later document.payload.attempt chain.attempt = false
  current : ∀ validation ∈ nonfinal, isTerminalPowerValidation validation = true →
    later chain.attempt validation.payload.attempt = false
  screen : ∃ screen ∈ staged StagePayload.screen? (attemptDocuments nonfinal chain.attempt),
    chain.selectedScreenRef.relativePath = screen.document.relativePath
  shards : chain.selectedShardRefs.map ArtifactRef.relativePath =
    (orderedShards (attemptDocuments nonfinal chain.attempt)).map fun shard => shard.document.relativePath
  validation : ∃ validation ∈ attemptDocuments nonfinal chain.attempt, validation.payload.stage = .validation ∧
    chain.branch.validationRef.relativePath = validation.relativePath ∧ chain.PassedBy validation

theorem shard_paths {selected : List (Staged PowerShard)}
    (h : List.Forall₂ (fun ref shard => selectedDocument nonfinal chain.attempt StagePayload.shard? ref
      "selected_shard_refs" = .ok shard) chain.selectedShardRefs selected)
    (hcover : (selected.map fun shard => documentRefIdentity shard.document) =
      (orderedShards (attemptDocuments nonfinal chain.attempt)).map fun shard => documentRefIdentity shard.document) :
    chain.selectedShardRefs.map ArtifactRef.relativePath =
      (orderedShards (attemptDocuments nonfinal chain.attempt)).map fun shard => shard.document.relativePath := by
  have hrefs : chain.selectedShardRefs.map ArtifactRef.relativePath =
      selected.map fun shard => shard.document.relativePath :=
    map_eq_of_forall₂ (h.imp fun ref shard hshard => (selectedDocument_eq_ok hshard).2)
  have hpaths := congrArg (List.map RefIdentity.relativePath) hcover
  rw [List.map_map,List.map_map] at hpaths
  rw [hrefs]
  exact hpaths

theorem requireCompletedChain_facts
    (h : requireCompletedChain nonfinal authority finalAttempt chain = .ok ()) :
    CompletedFacts nonfinal finalAttempt chain := by
  simp only [requireCompletedChain,bind_eq_ok,demand_eq_ok,mapM_eq_ok,decide_eq_true_eq] at h
  obtain ⟨_,_,_,hattempt,_,hlast,_,hcurrent,_,hverdict,screen,hscreen,_,_,_,_,selected,hselected,_,hcover,hbranch⟩ := h
  obtain ⟨hscreenMem,hscreenPath⟩ := selectedDocument_eq_ok hscreen
  refine ⟨hattempt,?_,fun validation hmem => not_superseded hcurrent hmem,⟨screen,hscreenMem,hscreenPath⟩,
    shard_paths hselected hcover,?_⟩
  · intro document hmem
    have hcheck := List.all_eq_true.mp hlast document hmem
    rw [Bool.not_eq_true'] at hcheck
    exact hcheck
  · cases hkind : chain.branch with
    | gaussian selectionRef validationRef =>
      rw [hkind] at hbranch
      obtain ⟨validation,hmem,hpath,hpassed⟩ := gaussian_validation_named chain
        (by rw [CompletedChain.attempt,hkind]; exact hbranch)
      obtain ⟨hdocument,hview⟩ := mem_staged.mp hmem
      have hbody := gaussianValidation_of_view hview
      refine ⟨validation.document,hdocument,by rw [PowerPayload.stage,hbody]; rfl,hpath,?_⟩
      rw [CompletedChain.PassedBy,hbody]
      exact hpassed
    | fullMultiplier fallbackRef validationRef =>
      rw [hkind] at hbranch
      obtain ⟨validation,hmem,hpath,htier,hdecision⟩ := fallback_validation_named chain
        (by rw [CompletedChain.attempt,hkind]; exact hbranch)
      obtain ⟨hdocument,hview⟩ := mem_staged.mp hmem
      have hbody := fullGridValidation_of_view hview
      refine ⟨validation.document,hdocument,by rw [PowerPayload.stage,hbody]; rfl,hpath,?_⟩
      rw [CompletedChain.PassedBy,hbody]
      exact ⟨htier,hdecision,hdecision ▸ decision_ne_noGo hverdict⟩

end Completed

theorem requireFinalization_ok {final : Staged PowerFinal} (h : requireFinalization nonfinal final = .ok ()) :
    validatePowerTransitions nonfinal = .ok () ∧
      (∀ validation ∈ nonfinal, isTerminalPowerValidation validation = true →
        later final.document.payload.attempt validation.payload.attempt = false) ∧
      ∀ chain, final.detail.finalization = .completedChain chain →
        CompletedFacts nonfinal final.document.payload.attempt chain := by
  simp only [requireFinalization,bind_eq_ok] at h
  obtain ⟨_,_,_,_,_,htransitions,hkind⟩ := h
  refine ⟨htransitions,?_,?_⟩
  · intro validation hmem hterminal
    cases hfinalization : final.detail.finalization with
    | completedChain chain =>
      rw [hfinalization] at hkind
      have hfacts := requireCompletedChain_facts hkind
      rw [hfacts.attempt]
      exact hfacts.current validation hmem hterminal
    | failed failure =>
      rw [hfinalization] at hkind
      simp only [requireFailure,bind_eq_ok,demand_eq_ok,required_eq_ok,decide_eq_true_eq] at hkind
      obtain ⟨_,_,_,_,terminal,_,_,_,_,_,_,_,_,_,_,hattempt,_,_,_,_,_,_,_,_,_,_,hcurrent⟩ := hkind
      rw [hattempt]
      exact not_superseded hcurrent hmem hterminal
  · intro chain hchain
    rw [hchain] at hkind
    exact requireCompletedChain_facts hkind

end Finalization

section Ledger
variable {Layout : Type} {sources : PowerSources Layout} {documents : List PowerDocument} {grid : List String}

def AcceptedLedger (grid : List String) (documents : List PowerDocument) : Prop :=
  ∀ document ∈ nonfinalDocuments documents, ∃ screen,
    AcceptedAttempt (terminalGaussianValidation (nonfinalDocuments documents)) grid document.payload.phase
      (attemptDocuments (nonfinalDocuments documents) document.payload.attempt) screen

theorem mem_own_attempt {document : PowerDocument} (h : document ∈ nonfinalDocuments documents) :
    document ∈ attemptDocuments (nonfinalDocuments documents) document.payload.attempt :=
  mem_attemptDocuments.mpr ⟨h,rfl⟩

theorem phase_of_mem_attempt {nonfinal : List PowerDocument} {document other : PowerDocument}
    (h : other ∈ attemptDocuments nonfinal document.payload.attempt) :
    other.payload.phase = document.payload.phase :=
  congrArg Prod.fst (mem_attemptDocuments.mp h).2

theorem nonfinal_of_validation {document : PowerDocument} (hmem : document ∈ documents)
    (hstage : document.payload.stage = .validation) : document ∈ nonfinalDocuments documents :=
  mem_nonfinal.mpr ⟨hmem,by rw [hstage]; decide⟩

theorem terminal_le_one (hledger : AcceptedLedger grid documents)
    (htransitions : validatePowerTransitions (nonfinalDocuments documents) = .ok ()) :
    (documents.filter isTerminalPowerValidation).length ≤ 1 := by
  cases hterminals : documents.filter isTerminalPowerValidation with
  | nil => exact Nat.zero_le _
  | cons validation others =>
    obtain ⟨hmem,hterminal⟩ := List.mem_filter.mp (hterminals ▸ List.mem_cons_self : validation ∈ _)
    have hnonfinal := nonfinal_of_validation hmem (terminal_stage hterminal)
    obtain ⟨screen,hattempt⟩ := hledger validation hnonfinal
    rw [← hterminals]
    refine filter_validation_le isTerminalPowerValidation ?_ rfl hattempt.validations_le
    intro other hother hterminal'
    exact ⟨terminal_stage hterminal',attempt_of_terminals htransitions hnonfinal hterminal
      (nonfinal_of_validation hother (terminal_stage hterminal')) hterminal'⟩

theorem failed_unique (hledger : AcceptedLedger grid documents)
    (htransitions : validatePowerTransitions (nonfinalDocuments documents) = .ok ()) {trigger : PowerDocument}
    (hmem : trigger ∈ documents) (hfailed : isFailedGaussianValidation trigger = true) :
    documents.filter isFailedGaussianValidation = [trigger] := by
  have hnonfinal := nonfinal_of_validation hmem (failed_gaussian hfailed).1
  obtain ⟨screen,hattempt⟩ := hledger trigger hnonfinal
  have hlength : (documents.filter isFailedGaussianValidation).length ≤ 1 := by
    refine filter_validation_le isFailedGaussianValidation ?_ rfl hattempt.validations_le
    intro other hother hfailed'
    have hstage := (failed_gaussian hfailed').1
    exact ⟨hstage,attempt_of_failures htransitions hnonfinal hfailed (nonfinal_of_validation hother hstage) hfailed'⟩
  have htrigger : trigger ∈ documents.filter isFailedGaussianValidation := List.mem_filter.mpr ⟨hmem,hfailed⟩
  match hfilter : documents.filter isFailedGaussianValidation with
  | [] => rw [hfilter] at htrigger; cases htrigger
  | [other] => rw [hfilter] at htrigger; rw [List.mem_singleton.mp htrigger]
  | _ :: _ :: _ => rw [hfilter] at hlength; simp at hlength

theorem terminal_trigger {trigger : Staged GaussianValidation}
    (h : terminalGaussianValidation (nonfinalDocuments documents) = some trigger)
    (hfailed : trigger.detail.approximationReceipt.passed = false) :
    trigger.document ∈ documents ∧ isFailedGaussianValidation trigger.document = true := by
  obtain ⟨hmem,hview⟩ := mem_staged.mp (List.argmax_mem h)
  refine ⟨(mem_nonfinal.mp hmem).1,?_⟩
  rw [isFailedGaussianValidation,gaussianValidation_of_view hview]
  exact Bool.not_eq_true' _ |>.mpr hfailed

theorem screen_of_mem {nonfinal : List PowerDocument} {document : PowerDocument} {screen : Staged PowerScreen}
    (hscreens : staged StagePayload.screen? nonfinal = [screen]) (hmem : document ∈ nonfinal)
    (hstage : document.payload.stage = .screen) : document = screen.document := by
  obtain ⟨detail,hbody⟩ : ∃ detail, document.payload.body = .screen detail := by
    unfold PowerPayload.stage at hstage
    cases hbody : document.payload.body <;> simp_all [StagePayload.stage]
  have hentry : (⟨document,detail⟩ : Staged PowerScreen) ∈ staged StagePayload.screen? nonfinal :=
    mem_staged.mpr ⟨hmem,by rw [hbody]; rfl⟩
  rw [hscreens,List.mem_singleton] at hentry
  rw [← hentry]

theorem final_of_mem {document : PowerDocument} {final : Staged PowerFinal}
    (hfinals : staged StagePayload.final? documents = [final]) (hmem : document ∈ documents)
    (hstage : document.payload.stage = .final) : document = final.document := by
  obtain ⟨detail,hbody⟩ : ∃ detail, document.payload.body = .final detail := by
    unfold PowerPayload.stage at hstage
    cases hbody : document.payload.body <;> simp_all [StagePayload.stage]
  have hentry : (⟨document,detail⟩ : Staged PowerFinal) ∈ staged StagePayload.final? documents :=
    mem_staged.mpr ⟨hmem,by rw [hbody]; rfl⟩
  rw [hfinals,List.mem_singleton] at hentry
  rw [← hentry]

theorem fallback_parents (hledger : AcceptedLedger grid documents)
    (htransitions : validatePowerTransitions (nonfinalDocuments documents) = .ok ()) {document : PowerDocument}
    (hmem : document ∈ documents) (hphase : document.payload.phase = .fullMultiplierFallback)
    (hstage : document.payload.stage = .screen ∨ document.payload.stage = .validation) :
    ∃ trigger, documents.filter isFailedGaussianValidation = [trigger] ∧
      documentRefIdentity trigger ∈ document.payload.parentRefs.map refIdentity := by
  have hnonfinal : document ∈ nonfinalDocuments documents := by
    refine mem_nonfinal.mpr ⟨hmem,?_⟩
    rcases hstage with hstage | hstage <;> rw [hstage] <;> decide
  obtain ⟨screen,hattempt⟩ := hledger document hnonfinal
  have hown := mem_own_attempt hnonfinal
  rw [hphase] at hattempt
  obtain ⟨trigger,hterminal,hfailed,hscreenParent⟩ := screen_trigger hattempt.parents
  obtain ⟨htrigger,htriggerFailed⟩ := terminal_trigger hterminal hfailed
  refine ⟨trigger.document,failed_unique hledger htransitions htrigger htriggerFailed,?_⟩
  rcases hstage with hstage | hstage
  · rw [screen_of_mem hattempt.screen_only hown hstage]
    exact hscreenParent
  · obtain ⟨validation,hbody⟩ := fullGridValidation_of_phase hstage hphase
    have hshards : orderedShards (attemptDocuments (nonfinalDocuments documents) document.payload.attempt) ≠ [] := by
      intro hnone
      have hvalidations := (hattempt.downstream_none hnone).2
      exact List.ne_nil_of_mem (List.mem_filter.mpr ⟨hown,decide_eq_true hstage⟩) hvalidations
    obtain ⟨complete,_,hdownstream⟩ := hattempt.downstream hshards
    obtain ⟨other,hother,hparent⟩ := validation_trigger hdownstream hattempt.validations_le
      (mem_staged.mpr ⟨hown,by rw [hbody]; rfl⟩ : (⟨document,validation⟩ : Staged FullGridValidation) ∈ _)
    rw [hterminal,Option.some.injEq] at hother
    rw [hother]
    exact hparent

theorem named_completion (hledger : AcceptedLedger grid documents) {finalAttempt : PowerPhase × ℕ}
    {chain : CompletedChain} (h : CompletedFacts (nonfinalDocuments documents) finalAttempt chain) :
    NamedCompletion grid (nonfinalDocuments documents) chain := by
  obtain ⟨validation,hmem,hstage,hpath,hpassed⟩ := h.validation
  obtain ⟨hnonfinal,hattempt⟩ := mem_attemptDocuments.mp hmem
  obtain ⟨screen,haccepted⟩ := hledger validation hnonfinal
  have hchain := haccepted.shardChain fun other hother => phase_of_mem_attempt hother
  rw [hattempt] at haccepted hchain
  obtain ⟨named,hnamed,hscreenPath⟩ := h.screen
  have hfilter : validation ∈ (attemptDocuments (nonfinalDocuments documents) chain.attempt).filter
      fun document => document.payload.stage = .validation :=
    List.mem_filter.mpr ⟨hmem,decide_eq_true hstage⟩
  refine ⟨h.last,⟨screen,haccepted.screen_only,?_⟩,h.shards,(hchain.complete ⟨validation,hmem,.inr hstage⟩).2,
    validation,?_,hpath,hpassed⟩
  · rw [haccepted.screen_only,List.mem_singleton] at hnamed
    rw [hscreenPath,hnamed]
  · obtain ⟨other,hother⟩ := List.length_eq_one_iff.mp
      (le_antisymm haccepted.validations_le (List.length_pos_of_mem hfilter))
    rw [hother,List.mem_singleton] at hfilter
    rw [hother,hfilter]

theorem accepted_ledger_chain (h : validatePowerIdentities sources documents true = .ok ()) :
    ∃ grid, grid.Nodup ∧ (∀ document ∈ documents, powerGridCellIds sources document.payload = .ok grid) ∧
      PowerChain grid documents := by
  simp only [validatePowerIdentities,bind_eq_ok,demand_eq_ok,Bool.and_eq_true,decide_eq_true_eq,Bool.not_true,
    Bool.false_or] at h
  obtain ⟨_,_,_,htopology,_,_,_,⟨_,hfinals⟩,hfinal⟩ := h
  obtain ⟨grid,hgrid,hledger⟩ := topology_accepted htopology
  obtain ⟨final,hsingle⟩ := List.length_eq_one_iff.mp hfinals
  rw [hsingle] at hfinal
  obtain ⟨htransitions,hcurrent,hcompleted⟩ := requireFinalization_ok hfinal
  have hmem : final ∈ staged StagePayload.final? documents := hsingle ▸ List.mem_singleton_self final
  refine ⟨grid,powerGridCellIds_nodup sources (hgrid _ (mem_staged.mp hmem).1),hgrid,
    terminal_le_one hledger htransitions,?_,fun document hdocument => fallback_parents hledger htransitions hdocument,
    ?_,final,hsingle,?_⟩
  · intro validation hvalidation hterminal document hdocument
    have hnonfinal := nonfinal_of_validation hvalidation (terminal_stage hterminal)
    by_cases hstage : document.payload.stage = .final
    · rw [final_of_mem hsingle hdocument hstage]
      exact hcurrent validation hnonfinal hterminal
    · exact no_successor_of_terminal htransitions hnonfinal hterminal (mem_nonfinal.mpr ⟨hdocument,hstage⟩)
  · intro document hdocument
    obtain ⟨screen,haccepted⟩ := hledger document hdocument
    exact ⟨screen,haccepted.screen_only,haccepted.shardChain fun other hother => phase_of_mem_attempt hother⟩
  · intro chain hchain
    have hfacts := hcompleted chain hchain
    exact ⟨hfacts.attempt,named_completion hledger hfacts⟩

end Ledger

section Sample

def powerRef (path mediaType : String) : ArtifactRef := ⟨"power_report",path,path ++ "-digest",1,mediaType⟩

def powerReport (path : String) (generation : ℕ) (kernelId : String) (parents : List String) (body : StagePayload) :
    PowerDocument where
  relativePath := path
  sha256 := path ++ "-digest"
  byteCount := 1
  envelope := ⟨"study","2026-01-01T00:00:00Z","design","code"⟩
  payload := {
    authorityRef := powerRef "authority" "authority"
    decisionAuthority := .rosterBoundSelection
    generation := generation
    rosterRef := powerRef "roster" "application/json"
    tierMembershipSha256 := "tiers"
    gridRef := powerRef "grid" "application/json"
    screenTopologyRef := powerRef "topology" "application/json"
    rngContractSha256 := "rng"
    gridContentSha256 := "content"
    kernelId := kernelId
    shardCount := 2
    parentRefs := parents.map fun parent => powerRef parent "application/json"
    configRef := powerRef "config" "application/json"
    numericFixtureRef := powerRef "fixture" "application/json"
    numericContract := ⟨"2"⟩
    body := body }

def twoCellSources : PowerSources Unit where
  loadPowerAuthority _ := .ok ⟨.rosterBoundSelection,powerRef "roster" "application/json","tiers"⟩
  loadPowerConfig _ _ _ := .ok ⟨"rng"⟩
  gridContentSha256 _ _ := .ok "content"
  readGrid _ := .ok (.arr [.str "c0",.str "c1"])
  frozenPowerCells _ _ := .ok []
  replayLayout _ _ := .ok ()
  validatePowerExecutionReceipt _ _ _ _ := .ok ()

def cellShard (phase : PowerPhase) (index : ℕ) (cell : String) : StagePayload :=
  .shard ⟨phase,index,[⟨cell,.null⟩],20⟩

def attemptPaths : List String :=
  ["screen-0","screen-1","shard-1-0","shard-1-1","selection-1","validation-1","full-screen","full-shard-0",
    "full-shard-1","full-validation"]

def fallbackLedger : List PowerDocument :=
  [powerReport "screen-0" 0 "power-screen-gaussian-v1" [] (.screen ⟨.gaussianApproximation,2,none⟩),
    powerReport "screen-1" 1 "power-screen-gaussian-v1" [] (.screen ⟨.gaussianApproximation,2,none⟩),
    powerReport "shard-1-0" 1 "power-grid-gaussian-v1" ["screen-1"] (cellShard .gaussianApproximation 0 "c0"),
    powerReport "shard-1-1" 1 "power-grid-gaussian-v1" ["screen-1"] (cellShard .gaussianApproximation 1 "c1"),
    powerReport "selection-1" 1 "power-worst-five-selection-v1" ["screen-1","shard-1-0","shard-1-1"]
      (.selection ⟨["c0"],1⟩),
    powerReport "validation-1" 1 "power-gaussian-vs-multiplier-validation-v1"
      ["screen-1","shard-1-0","shard-1-1","selection-1"]
      (.gaussianValidation ⟨["c0"],[⟨"c0"⟩],⟨.tier .c120,.feasibilityNoGo,false⟩⟩),
    powerReport "full-screen" 0 "power-screen-full-multiplier-v1" ["validation-1"]
      (.screen ⟨.fullMultiplierFallback,2,some (powerRef "validation-1" "application/json")⟩),
    powerReport "full-shard-0" 0 "power-grid-full-multiplier-v1" ["full-screen"]
      (cellShard .fullMultiplierFallback 0 "c0"),
    powerReport "full-shard-1" 0 "power-grid-full-multiplier-v1" ["full-screen"]
      (cellShard .fullMultiplierFallback 1 "c1"),
    powerReport "full-validation" 0 "power-full-grid-validation-v1"
      ["validation-1","full-screen","full-shard-0","full-shard-1"]
      (.fullGridValidation ⟨powerRef "validation-1" "application/json",["c0","c1"],some .c160,.go⟩),
    powerReport "final" 0 "power-final-full-multiplier-v1" attemptPaths
      (.final ⟨.fullMultiplierFallback,attemptPaths.map fun path => powerRef path "application/json",
        .completedChain ⟨0,"power-final-full-multiplier-v1",2,powerRef "full-screen" "application/json",
          [powerRef "full-shard-0" "application/json",powerRef "full-shard-1" "application/json"],some .c160,.go,
          .fullMultiplier (powerRef "validation-1" "application/json")
            (powerRef "full-validation" "application/json")⟩⟩)]

theorem fallbackLedger_accepted : validatePowerIdentities twoCellSources fallbackLedger true = .ok () := by
  decide +kernel

theorem fallbackLedger_chain : ∃ grid, grid.Nodup ∧
    (∀ document ∈ fallbackLedger, powerGridCellIds twoCellSources document.payload = .ok grid) ∧
      PowerChain grid fallbackLedger := accepted_ledger_chain fallbackLedger_accepted

end Sample

end PneumaLab.ResamplingNull
