import PneumaLab.Preparation.Contamination

namespace PneumaLab.Preparation

open Traces InvertedIndex

def sharedDimensions (training evaluation : NormalizedIdentity) : List Dimension :=
  canonicalDimensions.filter fun dimension =>
    (training.value dimension).isSome && decide (training.value dimension = evaluation.value dimension)

def pairFinding (training evaluation : NormalizedIdentity) : Finding where
  trainingLane := training.laneId
  evaluationLane := evaluation.laneId
  dimensions := sharedDimensions training evaluation

def pairwiseFindings (training : NormalizedIdentity) (evaluation : List NormalizedIdentity) : List Finding :=
  (evaluation.filter fun other => sharedDimensions training other ≠ []).map (pairFinding training)

def orderedFindings (training : NormalizedIdentity) (evaluation : List NormalizedIdentity) : List Finding :=
  canonicalDimensions.flatMap fun dimension =>
    (evaluation.filter fun other => (sharedDimensions training other).head? = some dimension).map
      (pairFinding training)

theorem canonicalDimensions_nodup : canonicalDimensions.Nodup := by decide

theorem mem_canonicalDimensions (dimension : Dimension) : dimension ∈ canonicalDimensions := by
  cases dimension <;> decide

section Pairs
variable (training other : NormalizedIdentity)

theorem NormalizedIdentity.nodup : (training.values.map Prod.fst).Nodup :=
  training.dimensions ▸ canonicalDimensions_nodup

theorem NormalizedIdentity.values_eq :
    training.values = canonicalDimensions.map fun dimension => (dimension,training.value dimension) := by
  rw [← training.dimensions]
  exact eq_map_entry none training.nodup

theorem NormalizedIdentity.value_eq_iff {dimension : Dimension} {value : Option String} :
    training.value dimension = value ↔ (dimension,value) ∈ training.values :=
  entry_eq_iff training.nodup (training.dimensions ▸ mem_canonicalDimensions dimension)

theorem pairDimensions_eq : pairDimensions training other = sharedDimensions training other := by
  rw [pairDimensions,training.values_eq,List.filter_map,List.map_map,sharedDimensions]
  exact List.map_id _

theorem shared_eq : shared training.values other.values = sharedDimensions training other := by
  rw [← pairDimensions_eq,shared,pairDimensions]
  congr 1
  apply List.filter_congr
  rintro ⟨dimension,value⟩ _
  congr 1
  rw [decide_eq_decide,← other.value_eq_iff,eq_comm]

theorem findingOf_eq : findingOf training other =
    if sharedDimensions training other = [] then none else some (pairFinding training other) := by
  rw [findingOf,pairDimensions_eq]
  rfl

theorem mem_sharedDimensions {dimension : Dimension} : dimension ∈ sharedDimensions training other ↔
    ∃ value, training.value dimension = some value ∧ other.value dimension = some value := by
  simp only [sharedDimensions,List.mem_filter,mem_canonicalDimensions,true_and,Bool.and_eq_true,
    decide_eq_true_eq]
  constructor
  · rintro ⟨hsome,heq⟩
    obtain ⟨value,hvalue⟩ := Option.isSome_iff_exists.mp hsome
    exact ⟨value,hvalue,heq ▸ hvalue⟩
  · rintro ⟨value,ht,he⟩
    rw [ht,he]
    exact ⟨rfl,rfl⟩

end Pairs

section Search
variable (training : NormalizedIdentity) (evaluation : List NormalizedIdentity)

theorem filterMap_findingOf (p : NormalizedIdentity → Bool)
    (hp : ∀ other ∈ evaluation, p other = true → sharedDimensions training other ≠ []) :
    (evaluation.filter p).filterMap (findingOf training) = (evaluation.filter p).map (pairFinding training) := by
  rw [← List.filterMap_eq_map]
  apply List.filterMap_congr
  intro other hother
  obtain ⟨hmem,hother⟩ := List.mem_filter.mp hother
  rw [findingOf_eq,if_neg (hp other hmem hother)]
  rfl

theorem candidates_findings :
    ((candidates (build (evaluation.map NormalizedIdentity.values)) training.values).filterMap fun i =>
      evaluation[i]?.bind (findingOf training)) = orderedFindings training evaluation := by
  have hfound := candidates_rows evaluation NormalizedIdentity.values (fun other _ => other.nodup)
    training.nodup
  have hcompose : ∀ indices : List ℕ, (indices.filterMap fun i => evaluation[i]?.bind (findingOf training)) =
      (indices.filterMap (evaluation[·]?)).filterMap (findingOf training) := by
    intro indices
    rw [List.filterMap_filterMap]
  rw [hcompose,hfound,List.filterMap_flatMap,orderedFindings]
  conv_lhs => rw [training.values_eq]
  rw [List.flatMap_map]
  apply List.flatMap_congr
  intro dimension _
  simp only [shared_eq,← training.values_eq]
  apply filterMap_findingOf
  intro other _ hhead hnil
  rw [decide_eq_true_eq,hnil] at hhead
  cases hhead

theorem orderedFindings_perm : (orderedFindings training evaluation).Perm (pairwiseFindings training evaluation) := by
  have hperm := flatMap_filter_perm canonicalDimensions_nodup
    (fun other => (sharedDimensions training other).head?) evaluation
  have hall : (evaluation.filter fun other => decide (∃ dimension ∈ canonicalDimensions,
      (sharedDimensions training other).head? = some dimension)) =
      evaluation.filter fun other => decide (sharedDimensions training other ≠ []) := by
    apply List.filter_congr
    intro other _
    rw [decide_eq_decide]
    cases hs : sharedDimensions training other with
    | nil => simp
    | cons dimension rest => simp [mem_canonicalDimensions]
  rw [hall] at hperm
  rw [orderedFindings,← List.map_flatMap]
  exact hperm.map _

end Search

theorem indexedFindings_eq (training evaluation : List NormalizedIdentity) :
    indexedFindings training evaluation =
      training.flatMap fun identity => orderedFindings identity evaluation :=
  List.flatMap_congr fun identity _ => candidates_findings identity evaluation

theorem indexedFindings_perm {training training' evaluation evaluation' : List NormalizedIdentity}
    (ht : training'.Perm training) (he : evaluation'.Perm evaluation) :
    (indexedFindings training' evaluation').Perm (indexedFindings training evaluation) := by
  rw [indexedFindings_eq,indexedFindings_eq]
  refine (ht.flatMap_right _).trans (List.Perm.flatMap_left _ fun identity _ => ?_)
  refine (orderedFindings_perm identity evaluation').trans (.trans ?_ (orderedFindings_perm identity evaluation).symm)
  exact (he.filter _).map _

theorem indexedFindings_nil {training evaluation : List NormalizedIdentity} :
    indexedFindings training evaluation = [] ↔
      ∀ identity ∈ training, ∀ other ∈ evaluation, sharedDimensions identity other = [] := by
  rw [indexedFindings_eq,List.flatMap_eq_nil_iff]
  apply forall₂_congr
  intro identity _
  rw [← List.perm_nil,(List.Perm.congr_left (orderedFindings_perm identity evaluation) []),List.perm_nil,
    pairwiseFindings,List.map_eq_nil_iff,List.filter_eq_nil_iff]
  simp

section Accepted
variable {python : Interpreter} {Policy : Type}
variable {evaluationIdentityScope : Policy → Except String (List String × List String)}

def Usable (python : Interpreter) (identity : IdentityRecord) : Prop :=
  (normalizeIdentityText python identity.family).isSome = true ∧
    (normalizeIdentityText python identity.laneId).isSome = true ∧
    (normalizeIdentity python identity).hasUsableIdentity = true

theorem validatedIdentity_eq_ok {role : String} {numbered : IdentityRecord × ℕ} {normalized : NormalizedIdentity} :
    validatedIdentity python role numbered = .ok normalized ↔
      Usable python numbered.1 ∧ normalized = normalizeIdentity python numbered.1 := by
  simp only [validatedIdentity,bind_eq_ok,demand_eq_ok,Usable]
  constructor
  · rintro ⟨_,hfamily,_,hlane,_,husable,hnormalized⟩
    cases hnormalized
    exact ⟨⟨hfamily,hlane,husable⟩,rfl⟩
  · rintro ⟨⟨hfamily,hlane,husable⟩,rfl⟩
    exact ⟨(),hfamily,(),hlane,(),husable,rfl⟩

theorem validatedNormalizedIdentities_eq_ok {role : String} {identities : List IdentityRecord}
    {normalized : List NormalizedIdentity} :
    validatedNormalizedIdentities python role identities = .ok normalized ↔
      identities ≠ [] ∧ (∀ identity ∈ identities, Usable python identity) ∧
        normalized = identities.map (normalizeIdentity python) := by
  simp only [validatedNormalizedIdentities,bind_eq_ok,demand_eq_ok,mapM_eq_ok,validatedIdentity_eq_ok,
    Bool.not_eq_true',List.isEmpty_eq_false_iff]
  have hall (numbered : List (IdentityRecord × ℕ)) (result : List NormalizedIdentity) :
      List.Forall₂ (fun entry normalized =>
        Usable python entry.1 ∧ normalized = normalizeIdentity python entry.1) numbered result ↔
      (∀ identity ∈ numbered.map Prod.fst, Usable python identity) ∧
        result = (numbered.map Prod.fst).map (normalizeIdentity python) := by
    induction numbered generalizing result with
    | nil => simp [List.forall₂_nil_left_iff]
    | cons entry rest ih =>
      rw [List.forall₂_cons_left_iff]
      simp only [ih,List.map_cons,List.forall_mem_cons]
      constructor
      · rintro ⟨_,_,⟨husable,rfl⟩,⟨hrest,rfl⟩,rfl⟩
        exact ⟨⟨husable,hrest⟩,rfl⟩
      · rintro ⟨⟨husable,hrest⟩,rfl⟩
        exact ⟨_,_,⟨husable,rfl⟩,⟨hrest,rfl⟩,rfl⟩
  rw [hall,List.zipIdx_map_fst]
  simp

def Accepts (python : Interpreter) (evaluationIdentityScope : Policy → Except String (List String × List String))
    (suitePolicy : Policy) (training evaluation : List IdentityRecord) (required blocked : List String) : Prop :=
  (training ≠ [] ∧ ∀ identity ∈ training, Usable python identity) ∧
    (evaluation ≠ [] ∧ ∀ identity ∈ evaluation, Usable python identity) ∧
    evaluationIdentityScope suitePolicy = .ok (required,blocked) ∧
    evaluationCoverageComplete required blocked evaluation = true

def acceptedReceipt (python : Interpreter) (training evaluation : List IdentityRecord)
    (required blocked : List String) : ContaminationReceipt :=
  let findings := indexedFindings (training.map (normalizeIdentity python)) (evaluation.map (normalizeIdentity python))
  { manifestKind := "pneuma_foundation_contamination_receipt"
    manifestSchemaVersion := "0.1.0"
    trainingIdentityCount := training.length
    evaluationIdentityCount := evaluation.length
    requiredEvaluationFamilies := required
    evaluationFamilyCounts := familyCounts required evaluation
    blockedEvaluationFamilyStatus := blockedFamilyStatus blocked evaluation
    evaluationCoverageComplete := true
    findingCount := findings.length
    findings := findings
    repoIssueDisjoint := findings.isEmpty }

theorem buildContaminationReceipt_eq_ok {suitePolicy : Policy} {training evaluation : List IdentityRecord}
    {receipt : ContaminationReceipt} :
    buildContaminationReceipt python evaluationIdentityScope training evaluation suitePolicy = .ok receipt ↔
      ∃ required blocked, Accepts python evaluationIdentityScope suitePolicy training evaluation required blocked ∧
        receipt = acceptedReceipt python training evaluation required blocked := by
  simp only [buildContaminationReceipt,bind_eq_ok,validatedNormalizedIdentities_eq_ok,demand_eq_ok,identityScope]
  constructor
  · rintro ⟨_,⟨ht,htrain,rfl⟩,_,⟨he,hevaluation,rfl⟩,⟨required,blocked⟩,hscope,_,hcomplete,hreceipt⟩
    cases hpolicy : evaluationIdentityScope suitePolicy with
    | error refusal =>
      rw [hpolicy] at hscope
      cases hscope
    | ok scope =>
      rw [hpolicy] at hscope
      cases hscope
      rw [hcomplete] at hreceipt
      cases hreceipt
      exact ⟨required,blocked,⟨⟨ht,htrain⟩,⟨he,hevaluation⟩,hpolicy,hcomplete⟩,rfl⟩
  · rintro ⟨required,blocked,⟨⟨ht,htrain⟩,⟨he,hevaluation⟩,hpolicy,hcomplete⟩,rfl⟩
    refine ⟨_,⟨ht,htrain,rfl⟩,_,⟨he,hevaluation,rfl⟩,(required,blocked),by rw [hpolicy],(),hcomplete,?_⟩
    rw [hcomplete]
    rfl

theorem familyCounts_perm {families : List String} {evaluation evaluation' : List IdentityRecord}
    (h : evaluation'.Perm evaluation) : familyCounts families evaluation' = familyCounts families evaluation :=
  List.map_congr_left fun _ _ => by rw [h.countP_eq]

theorem blockedFamilyStatus_perm {families : List String} {evaluation evaluation' : List IdentityRecord}
    (h : evaluation'.Perm evaluation) :
    blockedFamilyStatus families evaluation' = blockedFamilyStatus families evaluation :=
  List.map_congr_left fun _ _ => by rw [h.all_eq]

theorem evaluationCoverageComplete_perm {required blocked : List String} {evaluation evaluation' : List IdentityRecord}
    (h : evaluation'.Perm evaluation) :
    evaluationCoverageComplete required blocked evaluation' = evaluationCoverageComplete required blocked evaluation := by
  simp only [evaluationCoverageComplete,familyCounts_perm h,blockedFamilyStatus_perm h,h.all_eq,h.any_eq]

theorem Accepts.perm {suitePolicy : Policy} {training training' evaluation evaluation' : List IdentityRecord}
    {required blocked : List String} (ht : training'.Perm training) (he : evaluation'.Perm evaluation)
    (h : Accepts python evaluationIdentityScope suitePolicy training evaluation required blocked) :
    Accepts python evaluationIdentityScope suitePolicy training' evaluation' required blocked := by
  obtain ⟨⟨htrain,husable⟩,⟨hevaluation,hread⟩,hscope,hcomplete⟩ := h
  refine ⟨⟨?_,fun identity hi => husable identity (ht.mem_iff.mp hi)⟩,
    ⟨?_,fun identity hi => hread identity (he.mem_iff.mp hi)⟩,hscope,
    (evaluationCoverageComplete_perm he).trans hcomplete⟩
  · rintro rfl
    exact htrain ht.nil_eq.symm
  · rintro rfl
    exact hevaluation he.nil_eq.symm

end Accepted

theorem contamination_search_pairwise (python : Interpreter) {Policy : Type}
    (evaluationIdentityScope : Policy → Except String (List String × List String)) (suitePolicy : Policy)
    (training evaluation : List IdentityRecord) (receipt : ContaminationReceipt)
    (h : buildContaminationReceipt python evaluationIdentityScope training evaluation suitePolicy = .ok receipt) :
    (receipt.findings = (training.map (normalizeIdentity python)).flatMap fun identity =>
      orderedFindings identity (evaluation.map (normalizeIdentity python))) ∧
    (∀ identity, (orderedFindings identity (evaluation.map (normalizeIdentity python))).Perm
      (pairwiseFindings identity (evaluation.map (normalizeIdentity python)))) ∧
    receipt.findingCount = receipt.findings.length ∧
    (receipt.repoIssueDisjoint = true ↔ ∀ identity ∈ training, ∀ other ∈ evaluation, ∀ dimension value,
      (normalizeIdentity python identity).value dimension = some value →
        (normalizeIdentity python other).value dimension ≠ some value) ∧
    ∀ training' evaluation', training'.Perm training → evaluation'.Perm evaluation →
      ∃ findings, findings.Perm receipt.findings ∧
        buildContaminationReceipt python evaluationIdentityScope training' evaluation' suitePolicy =
          .ok {receipt with findings := findings} := by
  obtain ⟨required,blocked,haccepts,rfl⟩ := buildContaminationReceipt_eq_ok.mp h
  refine ⟨indexedFindings_eq _ _,fun identity => orderedFindings_perm identity _,rfl,?_,?_⟩
  · rw [acceptedReceipt,List.isEmpty_iff,indexedFindings_nil,List.forall_mem_map]
    apply forall₂_congr
    intro identity _
    rw [List.forall_mem_map]
    apply forall₂_congr
    intro other _
    rw [List.eq_nil_iff_forall_not_mem]
    apply forall_congr'
    intro dimension
    rw [mem_sharedDimensions,not_exists]
    apply forall_congr'
    intro value
    rw [not_and]
  · intro training' evaluation' ht he
    have hperm := indexedFindings_perm (ht.map (normalizeIdentity python)) (he.map (normalizeIdentity python))
    refine ⟨_,hperm,buildContaminationReceipt_eq_ok.mpr ⟨required,blocked,haccepts.perm ht he,?_⟩⟩
    have hempty : (indexedFindings (training'.map (normalizeIdentity python))
        (evaluation'.map (normalizeIdentity python))).isEmpty =
        (indexedFindings (training.map (normalizeIdentity python)) (evaluation.map (normalizeIdentity python))).isEmpty := by
      rw [Bool.eq_iff_iff,List.isEmpty_iff,List.isEmpty_iff,← List.perm_nil,← List.perm_nil,hperm.congr_left]
    simp only [acceptedReceipt,familyCounts_perm he,blockedFamilyStatus_perm he,ht.length_eq,he.length_eq,
      hperm.length_eq,hempty]

section Sample

def committedScope (_ : Unit) : Except String (List String × List String) :=
  .ok (["swe-bench","swe-mera","swe-polybench"],["swe-bench-pro"])

def sampleIdentity (family laneId : String) (hfamily : family ≠ "") (hlane : laneId ≠ "")
    (repo issueOrPr : Option String) : IdentityRecord where
  family := family
  laneId := laneId
  repo := repo
  issueOrPr := issueOrPr
  taskId := none
  baseCommit := none
  patchSha256 := none
  testPatchSha256 := none
  fuzzyTextSha256 := none
  family_nonempty := hfamily
  lane_nonempty := hlane

def trainedIdentity : IdentityRecord :=
  sampleIdentity "swe-gym" "swe-gym-lane" (by decide) (by decide) (some "django/django") (some "42")

def heldIdentity : IdentityRecord :=
  sampleIdentity "swe-bench" "swe-bench-lane" (by decide) (by decide) (some " django/django") (some "42")

def heldIdentities : List IdentityRecord := [
  sampleIdentity "swe-mera" "swe-mera-lane" (by decide) (by decide) (some "psf/requests") (some "42"),
  heldIdentity,
  sampleIdentity "swe-polybench" "swe-polybench-lane" (by decide) (by decide) (some "django/django") none]

theorem shared_repository_found : ∃ receipt,
    buildContaminationReceipt sampleInterpreter committedScope [trainedIdentity] heldIdentities () = .ok receipt ∧
      receipt.findings = [⟨"swe-gym-lane","swe-bench-lane",[.repository,.repoIssueOrPr]⟩,
        ⟨"swe-gym-lane","swe-polybench-lane",[.repository]⟩] ∧ receipt.repoIssueDisjoint ≠ true := by
  cases hbuild : buildContaminationReceipt sampleInterpreter committedScope [trainedIdentity] heldIdentities () with
  | error e =>
    have hok : (buildContaminationReceipt sampleInterpreter committedScope [trainedIdentity] heldIdentities ()).isOk =
        true := by decide
    rw [hbuild] at hok
    cases hok
  | ok receipt =>
    obtain ⟨hfindings,-,-,hdisjoint,-⟩ :=
      contamination_search_pairwise sampleInterpreter committedScope () [trainedIdentity] heldIdentities receipt hbuild
    refine ⟨receipt,rfl,hfindings.trans (by decide),fun htrue => ?_⟩
    exact hdisjoint.mp htrue trainedIdentity List.mem_cons_self heldIdentity (by simp [heldIdentities])
      .repository "django/django" (by decide) (by decide)

end Sample

end PneumaLab.Preparation
