import PneumaLab.AdversarialReview.Campaign

namespace PneumaLab.AdversarialReview

section Definitions
variable (runtime : Runtime)

def Campaign.proposals (campaign : Campaign) : Py (List ReviewerReport) :=
  campaign.turns.mapM (propose runtime campaign.source)

def findingsOf (reports : List ReviewerReport) : List Finding := reports.flatMap ReviewerReport.findings

def grounded (inputs : CampaignInputs) (finding : Finding) : Bool := (verifyFinding runtime inputs finding).admissible

def passed (inputs : CampaignInputs) (proposed : List ReviewerReport) : List Finding :=
  (findingsOf proposed).filter (grounded runtime inputs)

def deferred (stage : String) (finding : Finding) : Bool := decide (stage ≠ "stage_2_pre_submission") && needsResults finding

end Definitions

section Recording
variable {runtime : Runtime} {inputs : CampaignInputs}

def recorded (runtime : Runtime) (inputs : CampaignInputs) (finding : Finding) : Finding :=
  applyOutcome finding (verifyFinding runtime inputs finding)

theorem recorded_grounded {finding : Finding} (h : grounded runtime inputs finding = true) :
    recorded runtime inputs finding = finding := by
  rw [grounded] at h
  rw [recorded,applyOutcome,h]

theorem recorded_ungrounded {finding : Finding} (h : grounded runtime inputs finding = false) :
    (recorded runtime inputs finding).severity = .speculation := by
  rw [grounded] at h
  have hfailed : ¬ (verifyFinding runtime inputs finding).admissible = true := by rw [h]; exact Bool.false_ne_true
  have hdown : (verifyFinding runtime inputs finding).downgradedTo = some .speculation := if_neg hfailed
  rw [recorded,applyOutcome,h,hdown]

theorem verifyAll_fst (findings : List Finding) :
    (verifyAll runtime inputs findings).1 = findings.map (recorded runtime inputs) := by
  rw [verifyAll,List.zipWith_map_right,List.zipWith_self]
  rfl

theorem filter_recorded {p : Finding → Bool} (hp : ∀ finding, p finding = true → finding.severity ≠ .speculation)
    (findings : List Finding) :
    (findings.map (recorded runtime inputs)).filter p = (findings.filter (grounded runtime inputs)).filter p := by
  induction findings with
  | nil => rfl
  | cons finding rest ih =>
    rw [List.map_cons,List.filter_cons,ih]
    cases hgrounded : grounded runtime inputs finding with
    | true => rw [recorded_grounded hgrounded,List.filter_cons,if_pos hgrounded,List.filter_cons]
    | false =>
      have hnot : ¬ p (recorded runtime inputs finding) = true := fun hpass => hp _ hpass (recorded_ungrounded hgrounded)
      rw [if_neg hnot,List.filter_cons,if_neg (by rw [hgrounded]; exact Bool.false_ne_true)]

theorem record_eq_ok {proposed : ReviewerReport} {reviewed : ReviewerReport × List VerificationOutcome}
    (h : record runtime inputs proposed = .ok reviewed) :
    reviewed.1 = {proposed with findings := proposed.findings.map (recorded runtime inputs)} := by
  simp only [record,bind_eq_ok,demand_eq_ok] at h
  obtain ⟨_,_,hreturn⟩ := h
  rw [← verifyAll_fst]
  exact (congrArg Prod.fst (Except.ok.inj hreturn)).symm

theorem mapM_record {source : ProposalSource} {turns : List (String × ℕ)}
    {reviewed : List (ReviewerReport × List VerificationOutcome)}
    (h : turns.mapM (fun turn => do
      let proposed ← propose runtime source turn
      record runtime inputs proposed) = .ok reviewed) :
    ∃ proposed, turns.mapM (propose runtime source) = .ok proposed ∧
      findingsOf (reviewed.map Prod.fst) = (findingsOf proposed).map (recorded runtime inputs) := by
  rw [mapM_eq_ok] at h
  induction h with
  | nil => exact ⟨[],rfl,rfl⟩
  | cons hhead _ ih =>
    obtain ⟨proposed,hproposed,hfindings⟩ := ih
    obtain ⟨report,hreport,hrecord⟩ := bind_eq_ok.mp hhead
    refine ⟨report :: proposed,mapM_eq_ok.mpr (.cons hreport (mapM_eq_ok.mp hproposed)),?_⟩
    rw [findingsOf,List.map_cons,List.flatMap_cons,record_eq_ok hrecord]
    simp only [findingsOf,List.flatMap_cons,List.map_append] at hfindings ⊢
    rw [hfindings]

end Recording

section Deciding
variable {runtime : Runtime} {items : List FalsificationItem} {conflicts : List ConflictFinding} {rulings : Rulings}

theorem decideReadiness_verdict {campaignId stage inputsDigest : String} {disposition : ReadinessDisposition}
    (h : decideReadiness campaignId stage inputsDigest items conflicts rulings = .ok disposition) :
    disposition.verdict =
      if blockingConflicts conflicts ≠ [] then .launchBlockedByConflict
      else if blockingOf rulings items ≠ [] ∨ majorQuorum ≤ (standingMajors rulings items).length then .launchBlocked
      else .noBlockingFindings := by
  simp only [decideReadiness,bind_eq_ok] at h
  obtain ⟨_,_,hreturn⟩ := h
  exact (congrArg ReadinessDisposition.verdict (Except.ok.inj hreturn)).symm

theorem perm_convert (resultsExist : Bool) (findings : List Finding) : (convert runtime resultsExist findings).Perm
    ((findings.filter fun finding => finding.severity ≠ .speculation).map (itemOf runtime resultsExist)) :=
  List.perm_insertionSort _ _

theorem itemOf_blocking {resultsExist : Bool} {finding : Finding} :
    (itemOf runtime resultsExist finding).disposition = .blocking ↔
      finding.severity = .blocker ∧ (!resultsExist && needsResults finding) = false := by
  rw [itemOf]
  split
  · next h => simp [h]
  · next h =>
    rw [Bool.not_eq_true] at h
    rw [h,dispositionOf]
    cases finding.severity <;> simp

theorem blockingOf_convert (resultsExist : Bool) (findings : List Finding) :
    blockingOf rulings (convert runtime resultsExist findings) = [] ↔
      ∀ finding ∈ findings, finding.severity = .blocker → (!resultsExist && needsResults finding) = false →
        rulings.clears (finding.digest runtime) = true := by
  rw [blockingOf,List.filter_eq_nil_iff]
  constructor
  · intro h finding hfinding hseverity hdeferred
    have hitem : itemOf runtime resultsExist finding ∈ convert runtime resultsExist findings :=
      (perm_convert _ _).mem_iff.mpr (List.mem_map_of_mem (List.mem_filter.mpr ⟨hfinding,by simp [hseverity]⟩))
    have hstands := h _ hitem
    rw [Bool.and_eq_true,decide_eq_true_eq,itemOf_blocking,not_and] at hstands
    simpa [itemOf] using hstands ⟨hseverity,hdeferred⟩
  · intro h item hitem hstands
    obtain ⟨finding,hfinding,rfl⟩ := List.mem_map.mp ((perm_convert _ _).mem_iff.mp hitem)
    rw [Bool.and_eq_true,decide_eq_true_eq,itemOf_blocking] at hstands
    obtain ⟨⟨hseverity,hdeferred⟩,hopen⟩ := hstands
    have hclears := h finding (List.mem_filter.mp hfinding).1 hseverity hdeferred
    simp [itemOf,hclears] at hopen

theorem standingMajors_convert (resultsExist : Bool) (findings : List Finding) :
    (standingMajors rulings (convert runtime resultsExist findings)).length =
      (findings.filter fun finding => decide (finding.severity = .major) &&
        !rulings.clears (finding.digest runtime)).length := by
  rw [standingMajors,((perm_convert _ _).filter _).length_eq,List.filter_map,List.length_map,List.filter_filter]
  congr 1
  apply List.filter_congr
  intro finding _
  cases h : finding.severity <;> simp [itemOf,h]

theorem sufficientRejectionSet_ne_nil (findings : List Finding) : sufficientRejectionSet runtime findings ≠ [] ↔
    (∃ finding ∈ findings, finding.severity = .blocker) ∨
      majorQuorum ≤ (findings.filter fun finding => finding.severity = .major).length := by
  have hblockers : (findings.filter fun finding => finding.severity = .blocker) ≠ [] ↔
      ∃ finding ∈ findings, finding.severity = .blocker := by
    simp [List.filter_eq_nil_iff]
  rw [sufficientRejectionSet]
  split
  · next h => exact iff_of_true (by simpa using h) (.inl (hblockers.mp h))
  · next h =>
    rw [hblockers] at h
    split
    · next hquorum =>
      refine iff_of_true (fun hnil => ?_) (.inr hquorum)
      have hlength := congrArg List.length hnil
      rw [List.length_map,List.length_take,min_eq_left hquorum] at hlength
      cases hlength
    · next hquorum => exact iff_of_false (fun hne => hne rfl) (not_or.mpr ⟨h,hquorum⟩)

end Deciding

section Campaigns
variable {runtime : Runtime}

structure Accepted (runtime : Runtime) (campaign : Campaign) (proposed : List ReviewerReport) (result : CampaignResult) :
    Prop where
  findings : (findingsOf result.reports).Perm ((findingsOf proposed).map (recorded runtime campaign.inputs))
  verdict : result.disposition.verdict =
    if blockingConflicts result.conflicts ≠ [] then .launchBlockedByConflict
    else if blockingOf campaign.rulings result.falsification ≠ [] ∨
      majorQuorum ≤ (standingMajors campaign.rulings result.falsification).length then .launchBlocked
    else .noBlockingFindings
  items : result.falsification =
    convert runtime (campaign.stage = "stage_2_pre_submission") (findingsOf result.reports)

theorem accepted {campaign : Campaign} {proposed : List ReviewerReport} {result : CampaignResult}
    (hproposals : campaign.proposals runtime = .ok proposed) (h : runCampaign runtime campaign = .ok result) :
    Accepted runtime campaign proposed result := by
  simp only [runCampaign,bind_eq_ok] at h
  obtain ⟨_,_,_,_,_,_,_,_,reviewed,hreviewed,disposition,hdisposition,hreturn⟩ := h
  obtain rfl := Except.ok.inj hreturn
  obtain ⟨proposed',hproposed,hfindings⟩ := mapM_record hreviewed
  obtain rfl : proposed = proposed' := Except.ok.inj (hproposals.symm.trans hproposed)
  refine ⟨?_,decideReadiness_verdict hdisposition,rfl⟩
  rw [← hfindings]
  exact (List.perm_insertionSort _ _).flatMap_right _

section Facts
variable {campaign : Campaign} {proposed : List ReviewerReport} {result : CampaignResult}

theorem Accepted.filter (h : Accepted runtime campaign proposed result) {p : Finding → Bool}
    (hp : ∀ finding, p finding = true → finding.severity ≠ .speculation) :
    ((findingsOf result.reports).filter p).Perm ((passed runtime campaign.inputs proposed).filter p) := by
  rw [passed,← filter_recorded hp]
  exact h.findings.filter p

theorem Accepted.mem (h : Accepted runtime campaign proposed result) {finding : Finding}
    (hseverity : finding.severity ≠ .speculation) :
    finding ∈ findingsOf result.reports ↔ finding ∈ passed runtime campaign.inputs proposed := by
  have hperm := h.filter (p := fun other => decide (other.severity ≠ .speculation)) fun other hother => by simpa using hother
  have hmem := hperm.mem_iff (a := finding)
  simpa [List.mem_filter,hseverity] using hmem

theorem deferred_eq (stage : String) (finding : Finding) :
    (!decide (stage = "stage_2_pre_submission") && needsResults finding) = deferred stage finding := by
  rw [deferred,decide_not]

def NoneStands (runtime : Runtime) (campaign : Campaign) (findings : List Finding) : Prop :=
  ∀ finding ∈ findings, finding.severity = .blocker → deferred campaign.stage finding = false →
    campaign.rulings.clears (finding.digest runtime) = true

def majorsStanding (runtime : Runtime) (campaign : Campaign) (findings : List Finding) : List Finding :=
  findings.filter fun finding => decide (finding.severity = .major) && !campaign.rulings.clears (finding.digest runtime)

theorem Accepted.blocking (h : Accepted runtime campaign proposed result) :
    blockingOf campaign.rulings result.falsification = [] ↔
      NoneStands runtime campaign (passed runtime campaign.inputs proposed) := by
  rw [h.items,blockingOf_convert]
  constructor
  · intro hall finding hfinding hseverity hdeferred
    have hmem := (h.mem (by simp [hseverity])).mpr hfinding
    exact hall finding hmem hseverity ((deferred_eq _ _).trans hdeferred)
  · intro hall finding hfinding hseverity hdeferred
    have hmem := (h.mem (by simp [hseverity])).mp hfinding
    exact hall finding hmem hseverity ((deferred_eq _ _).symm.trans hdeferred)

theorem Accepted.majors (h : Accepted runtime campaign proposed result) :
    (standingMajors campaign.rulings result.falsification).length =
      (majorsStanding runtime campaign (passed runtime campaign.inputs proposed)).length := by
  rw [h.items,standingMajors_convert]
  apply List.Perm.length_eq
  apply h.filter
  intro finding hfinding
  rw [Bool.and_eq_true,decide_eq_true_eq] at hfinding
  simp [hfinding.1]

theorem Accepted.launchBlocked (h : Accepted runtime campaign proposed result) :
    result.disposition.verdict = .launchBlocked ↔ blockingConflicts result.conflicts = [] ∧
      (¬ NoneStands runtime campaign (passed runtime campaign.inputs proposed) ∨
        majorQuorum ≤ (majorsStanding runtime campaign (passed runtime campaign.inputs proposed)).length) := by
  rw [h.verdict,← h.blocking,← h.majors]
  split_ifs with hconflicts hblocked
  · exact iff_of_false (by simp) fun hall => hconflicts hall.1
  · exact iff_of_true rfl ⟨not_not.mp hconflicts,hblocked⟩
  · exact iff_of_false (by simp) fun hall => hblocked hall.2

theorem clears_nothing {rulings : Rulings} (hoverrides : rulings.overrides = [])
    (hdischarged : ∀ findingDigest, rulings.discharged findingDigest = none) (findingDigest : String) :
    rulings.clears findingDigest = false := by
  simp [Rulings.clears,hoverrides,hdischarged]

theorem Accepted.rejected (h : Accepted runtime campaign proposed result)
    (hconflicts : blockingConflicts result.conflicts = []) (hoverrides : campaign.rulings.overrides = [])
    (hdischarged : ∀ findingDigest, campaign.rulings.discharged findingDigest = none) :
    result.disposition.verdict = .launchBlocked ↔
      sufficientRejectionSet runtime ((collectFindings runtime result.reports).filter fun finding =>
        !(decide (finding.severity = .blocker) && deferred campaign.stage finding)) ≠ [] := by
  have hclears := clears_nothing hoverrides hdischarged
  have hmem (finding : Finding) : finding ∈ collectFindings runtime result.reports ↔ finding ∈ findingsOf result.reports :=
    (List.perm_insertionSort _ _).mem_iff
  rw [h.launchBlocked,and_iff_right hconflicts,sufficientRejectionSet_ne_nil]
  apply or_congr
  · simp only [NoneStands,hclears,not_forall,List.mem_filter,hmem]
    constructor
    · rintro ⟨finding,hfinding,hseverity,hdeferred,-⟩
      exact ⟨finding,⟨(h.mem (by simp [hseverity])).mpr hfinding,by simp [hdeferred]⟩,hseverity⟩
    · rintro ⟨finding,⟨hfinding,hkept⟩,hseverity⟩
      exact ⟨finding,(h.mem (by simp [hseverity])).mp hfinding,hseverity,by simpa [hseverity] using hkept,Bool.false_ne_true⟩
  · have hmajors := (h.filter (p := fun finding => decide (finding.severity = .major)) fun finding hfinding => by
      simp [of_decide_eq_true hfinding]).length_eq
    have hsorted : ((collectFindings runtime result.reports).filter fun finding => finding.severity = .major).length =
        ((findingsOf result.reports).filter fun finding => finding.severity = .major).length :=
      ((List.perm_insertionSort _ _).filter _).length_eq
    rw [List.filter_filter,majorsStanding]
    simp only [hclears,Bool.not_false,Bool.and_true]
    rw [← hmajors,← hsorted]
    apply Eq.to_iff
    congr 2
    apply List.filter_congr
    intro finding _
    cases finding.severity <;> simp

end Facts

end Campaigns

section Sample

def sampleRuntime : Runtime where
  repr := fun text => "'" ++ text ++ "'"
  reprTexts := fun texts => "[" ++ ", ".intercalate (texts.map fun text => "'" ++ text ++ "'") ++ "]"
  digestBytes := fun _ => "e3b0c44298fc1c149afbf4c8996fb92427ae41e4649b934ca495991b7852b855"
  digestValue := fun _ => "22b593b5dbdfb1f65853acbdcb1d8dc1ba2697a05e46bedd4d12b06fc5ca97b0"
  isDecimal := Char.isDigit

end Sample

end PneumaLab.AdversarialReview
