import PneumaLab.AdversarialReview.Campaign
import PneumaLab.Library.InvertedIndex
import PneumaLab.AdversarialReview.Verdicts

namespace PneumaLab.AdversarialReview
open InvertedIndex

structure Claim where
  claimId : String
  text : String
  kind : String
  supportingEvidence : List String

structure ClaimRow where
  claimId : String
  claimText : String
  supportingEvidence : List String
  attackingFindings : List String
  unsupported : Bool

structure EditorSynthesis where
  strongestRejectionArgument : String
  orderedFindingDigests : List String
  minorityFindings : List String
  dissentNotes : List String
  claimMatrix : List ClaimRow

section Matrix
variable (runtime : Runtime)

def attacks (findings : List Finding) : List (String × List String) :=
  (findings.filter fun finding => finding.severity ≠ .speculation).foldl (fun attacks finding =>
    finding.claimIds.foldl (setDefault [] (· ++ [finding.digest runtime])) attacks) []

def buildMatrix (claims : List Claim) (findings : List Finding) : List ClaimRow :=
  let rows := claims.map fun claim => ({
    claimId := claim.claimId
    claimText := claim.text
    supportingEvidence := claim.supportingEvidence.insertionSort (· ≤ ·)
    attackingFindings := (entry [] (attacks runtime findings) claim.claimId).insertionSort (· ≤ ·)
    unsupported := claim.supportingEvidence.isEmpty && claim.kind ≠ "non_claim" } : ClaimRow)
  rows.insertionSort fun left right => left.claimId ≤ right.claimId

def orphanClaimIds (claims : List Claim) (findings : List Finding) : List String :=
  ((findings.flatMap Finding.claimIds).dedup.filter fun claimId => claimId ∉ claims.map Claim.claimId).insertionSort (· ≤ ·)

def unsupportedRows (rows : List ClaimRow) : List ClaimRow := rows.filter ClaimRow.unsupported

end Matrix

section Minority
variable (runtime : Runtime)

def bucketsOf (finding : Finding) : List String :=
  if finding.claimIds.isEmpty then ["<unbound>"] else finding.claimIds

def byClaim (admissible : List Finding) : List (String × List Finding) :=
  buckets bucketsOf admissible

def groupMinority (group : List Finding) : List String :=
  let roles := (group.map Finding.roleId).dedup
  if group.length = 1 then group.map (Finding.digest runtime)
  else
    (group.filter fun finding =>
      let peers := group.filter fun other =>
        decide (other.digest runtime ≠ finding.digest runtime) && decide (other.severity = finding.severity)
      peers.isEmpty && decide (1 < roles.length)).map (Finding.digest runtime)

def minorityFindings (findings : List Finding) : List String :=
  let admissible := findings.filter fun finding => finding.severity ≠ .speculation
  ((byClaim admissible).flatMap fun (_,group) => groupMinority runtime group).dedup.insertionSort (· ≤ ·)

end Minority

section Synthesis
variable (runtime : Runtime)

def findingLine (finding : Finding) : String :=
  "- [" ++ finding.severity.text ++ "] " ++ finding.roleId.val ++ ": " ++ finding.title.val ++ "."

def rejectionLine (finding : Finding) : String :=
  let refutation := if finding.whatWouldRefute = "" then "unstated" else finding.whatWouldRefute
  findingLine finding ++ " If true: " ++ finding.failureMode.val ++ " Discharged only by: " ++ refutation ++ "."

def byDigest (findings : List Finding) (digest : String) : Option Finding :=
  findings.reverse.find? fun finding => finding.digest runtime = digest

def synthesize (reports : List ReviewerReport) (claims : List Claim) : EditorSynthesis :=
  let findings := collectFindings runtime reports
  let rows := buildMatrix runtime claims findings
  let minority := minorityFindings runtime findings
  let sufficient := sufficientRejectionSet runtime findings
  let orphans := orphanClaimIds claims findings
  let unsupported := unsupportedRows rows
  let case :=
    if sufficient ≠ [] then
      ("The strongest case for rejection rests on " ++ toString sufficient.length ++
        " finding(s), each independently sufficient or jointly at quorum:") ::
        (sufficient.filterMap (byDigest runtime findings)).map rejectionLine
    else
      ["No admissible finding, and no quorum of major findings, supports rejection on this input set. " ++
        "This is not an endorsement: it is a statement about what the reviewers were able to ground against " ++
        "the exact inputs declared for this campaign."]
  let undefended :=
    if unsupported.isEmpty then []
    else "" :: "Claims carrying no declared supporting evidence, which require no reviewer to defeat:" ::
      unsupported.map fun row => "- " ++ row.claimId ++ ": " ++ row.claimText
  let preserved :=
    if minority ≠ [] then
      "" :: ("Minority findings, preserved and not averaged away. Each is the sole admissible attack on its claim " ++
        "or the sole finding at its severity:") ::
        (minority.filterMap (byDigest runtime findings)).map fun finding =>
          "- [" ++ finding.severity.text ++ "] " ++ finding.roleId.val ++ ": " ++ finding.title.val
    else []
  let speculative := (findings.filter fun finding => finding.severity = .speculation).map fun finding =>
    finding.roleId.val ++ " raised, without groundable evidence: " ++ finding.title.val ++ ". Recorded, barred from blocking."
  let inferred := orphans.map fun claimId =>
    "A finding attacked claim id " ++ runtime.repr claimId ++
      ", which no declared claim provides; the reviewer inferred a claim the authors did not state."
  { strongestRejectionArgument := "\n".intercalate (case ++ undefended ++ preserved)
    orderedFindingDigests := findings.map (Finding.digest runtime)
    minorityFindings := minority
    dissentNotes := speculative ++ inferred
    claimMatrix := rows }

end Synthesis

section Canonical

theorem Severity.text_injective : Function.Injective Severity.text := by
  intro left right h
  cases left <;> cases right <;> simp [Severity.text] at h ⊢

theorem EvidenceKind.text_injective : Function.Injective EvidenceKind.text := by
  intro left right h
  cases left <;> cases right <;> simp [EvidenceKind.text] at h ⊢

theorem elim_injective {α : Type} {f : α → Json} (hf : Function.Injective f) (hnull : ∀ a, f a ≠ .null) :
    Function.Injective fun value : Option α => value.elim .null f := by
  intro left right h
  cases left with
  | none =>
    cases right with
    | none => rfl
    | some b => exact absurd h.symm (hnull b)
  | some a =>
    cases right with
    | none => exact absurd h (hnull a)
    | some b => exact congrArg some (hf h)

theorem int_injective : Function.Injective Json.int := fun _ _ => Json.int.inj

theorem str_injective : Function.Injective Json.str := fun _ _ => Json.str.inj

theorem EvidenceRef.toCanonical_injective : Function.Injective EvidenceRef.toCanonical := by
  intro left right h
  have hline := elim_injective int_injective fun _ h => nomatch h
  have htext := elim_injective str_injective fun _ h => nomatch h
  obtain ⟨kind,locator,detail,startLine,endLine,expectedDigest,quoted,_,_⟩ := left
  obtain ⟨kind',locator',detail',startLine',endLine',expectedDigest',quoted',_,_⟩ := right
  simp only [EvidenceRef.toCanonical,Json.obj.injEq,List.cons.injEq,Prod.mk.injEq,Json.str.injEq,true_and,and_true] at h
  obtain ⟨hdetail,hend,hdigest,hkind,hlocator,hquoted,hstart⟩ := h
  obtain rfl : detail = detail' := Subtype.ext hdetail
  obtain rfl : endLine = endLine' := hline hend
  obtain rfl : expectedDigest = expectedDigest' := htext hdigest
  obtain rfl : kind = kind' := EvidenceKind.text_injective hkind
  obtain rfl : locator = locator' := Subtype.ext hlocator
  obtain rfl : quoted = quoted' := htext hquoted
  obtain rfl : startLine = startLine' := hline hstart
  rfl

theorem Finding.toCanonical_injective : Function.Injective Finding.toCanonical := by
  intro left right h
  obtain ⟨findingId,roleId,severity,title,statement,failureMode,evidence,claimIds,reproduction,refute,confidence⟩ := left
  obtain ⟨findingId',roleId',severity',title',statement',failureMode',evidence',claimIds',reproduction',refute',confidence'⟩ := right
  simp only [Finding.toCanonical,Json.obj.injEq,List.cons.injEq,Prod.mk.injEq,Json.str.injEq,Json.arr.injEq,true_and,
    and_true] at h
  obtain ⟨hclaims,rfl,hevidence,hfailure,hid,hreproduction,hrole,hseverity,hstatement,htitle,rfl⟩ := h
  obtain rfl : claimIds = claimIds' := List.map_injective_iff.mpr str_injective hclaims
  obtain rfl : evidence = evidence' := List.map_injective_iff.mpr EvidenceRef.toCanonical_injective hevidence
  obtain rfl : failureMode = failureMode' := Subtype.ext hfailure
  obtain rfl : findingId = findingId' := Subtype.ext hid
  obtain rfl : reproduction = reproduction' := List.map_injective_iff.mpr str_injective hreproduction
  obtain rfl : roleId = roleId' := Subtype.ext hrole
  obtain rfl : severity = severity' := Severity.text_injective hseverity
  obtain rfl : statement = statement' := Subtype.ext hstatement
  obtain rfl : title = title' := Subtype.ext htitle
  rfl

end Canonical

section Ordering
variable (runtime : Runtime)

abbrev SortKey := ℕ ×ₗ ℤ ×ₗ ℤ ×ₗ String

def sortKey (finding : Finding) : SortKey :=
  toLex (finding.severity.rank,toLex (-(finding.claimIds.dedup.length : ℤ),
    toLex (-(finding.evidence.length : ℤ),finding.digest runtime)))

theorem findingBefore_iff (left right : Finding) :
    findingBefore runtime left right = true ↔ sortKey runtime left ≤ sortKey runtime right := by
  simp only [findingBefore,decide_eq_true_eq,sortKey,Prod.Lex.toLex_le_toLex,neg_lt_neg_iff,Nat.cast_lt,neg_inj,Nat.cast_inj]

theorem collectFindings_perm (reports : List ReviewerReport) :
    (collectFindings runtime reports).Perm (findingsOf reports) := List.perm_insertionSort _ _

theorem keys_collectFindings (reports : List ReviewerReport) : (collectFindings runtime reports).map (sortKey runtime) =
    ((findingsOf reports).map (sortKey runtime)).insertionSort (· ≤ ·) :=
  List.map_insertionSort _ _ _ _ fun left _ right _ => findingBefore_iff runtime left right

theorem insertionSort_of_perm {α : Type} [LinearOrder α] {xs ys : List α} (h : xs.Perm ys) :
    xs.insertionSort (· ≤ ·) = ys.insertionSort (· ≤ ·) :=
  ((List.perm_insertionSort _ xs).trans (h.trans (List.perm_insertionSort _ ys).symm)).eq_of_sortedLE
    List.sortedLE_insertionSort List.sortedLE_insertionSort

theorem digest_of_keys {findings others : List Finding}
    (h : findings.map (sortKey runtime) = others.map (sortKey runtime)) :
    findings.map (Finding.digest runtime) = others.map (Finding.digest runtime) := by
  have hdigest : ∀ finding : Finding, (ofLex (ofLex (ofLex (sortKey runtime finding)).2).2).2 = finding.digest runtime :=
    fun _ => rfl
  have hkeys := congrArg (List.map fun key : SortKey => (ofLex (ofLex (ofLex key).2).2).2) h
  simpa only [List.map_map,Function.comp_def,hdigest] using hkeys

theorem digests_collectFindings {reports others : List ReviewerReport} (h : (findingsOf reports).Perm (findingsOf others)) :
    (collectFindings runtime reports).map (Finding.digest runtime) =
      (collectFindings runtime others).map (Finding.digest runtime) := by
  refine digest_of_keys runtime ?_
  rw [keys_collectFindings,keys_collectFindings,insertionSort_of_perm (h.map _)]

theorem sorted_collectFindings (reports : List ReviewerReport) :
    (collectFindings runtime reports).Pairwise fun left right => findingBefore runtime left right = true := by
  have hsorted : (((findingsOf reports).map (sortKey runtime)).insertionSort (· ≤ ·)).Pairwise (· ≤ ·) :=
    List.sortedLE_insertionSort.pairwise
  rw [← keys_collectFindings,List.pairwise_map] at hsorted
  exact hsorted.imp fun h => (findingBefore_iff runtime _ _).mpr h

end Ordering

section Rule
variable (findings : List Finding) (finding : Finding) (claimId : String)

def OnlyAttack : Prop :=
  ∀ other ∈ findings, other.severity ≠ .speculation → claimId ∈ bucketsOf other → other = finding

def OnlyRole : Prop :=
  ∀ other ∈ findings, other.severity = finding.severity → claimId ∈ bucketsOf other → other.roleId = finding.roleId

def StatedMinority : Prop :=
  ∃ claimId ∈ bucketsOf finding, OnlyAttack findings finding claimId ∨ OnlyRole findings finding claimId

def entriesOn : List Finding :=
  (findings.filter fun finding => finding.severity ≠ .speculation).flatMap fun finding =>
    List.replicate ((bucketsOf finding).count claimId) finding

def Crowded : Prop :=
  (∃ other ∈ findings, other ≠ finding ∧ other.roleId = finding.roleId ∧ other.severity = finding.severity ∧
    claimId ∈ bucketsOf other) ∨
  ((∀ other ∈ findings, other.severity ≠ .speculation → claimId ∈ bucketsOf other → other.roleId = finding.roleId) ∧
    (entriesOn findings claimId).length ≠ 1)

end Rule

section Groups
variable {findings : List Finding} {finding : Finding} {claimId : String}

theorem mem_entriesOn {other : Finding} : other ∈ entriesOn findings claimId ↔
    other ∈ findings ∧ other.severity ≠ .speculation ∧ claimId ∈ bucketsOf other := by
  simp only [entriesOn,List.mem_flatMap,List.mem_filter,decide_eq_true_eq,List.mem_replicate]
  constructor
  · rintro ⟨x,⟨hx,hseverity⟩,hcount,rfl⟩
    exact ⟨hx,hseverity,List.count_pos_iff.mp (Nat.pos_of_ne_zero hcount)⟩
  · rintro ⟨hother,hseverity,hclaim⟩
    exact ⟨other,⟨hother,hseverity⟩,(List.count_pos_iff.mpr hclaim).ne',rfl⟩

theorem one_lt_roles {group : List Finding} (h : finding ∈ group) :
    1 < (group.map Finding.roleId).dedup.length ↔ ∃ other ∈ group, other.roleId ≠ finding.roleId := by
  have hrole : finding.roleId ∈ (group.map Finding.roleId).dedup := List.mem_dedup.mpr (List.mem_map_of_mem h)
  have hnodup : (group.map Finding.roleId).dedup.Nodup := List.nodup_dedup _
  constructor
  · intro hlength
    by_contra! hall
    have hsame : ∀ role ∈ (group.map Finding.roleId).dedup, role = finding.roleId := by
      intro role hmem
      obtain ⟨other,hother,rfl⟩ := List.mem_map.mp (List.mem_dedup.mp hmem)
      exact hall other hother
    have hreplicate := List.eq_replicate_of_mem hsame
    rw [hreplicate,List.nodup_replicate] at hnodup
    omega
  · rintro ⟨other,hother,hne⟩
    have hmem : other.roleId ∈ (group.map Finding.roleId).dedup := List.mem_dedup.mpr (List.mem_map_of_mem hother)
    have hsub : [other.roleId,finding.roleId] ⊆ (group.map Finding.roleId).dedup := by
      rintro role (_ | ⟨_,_ | ⟨_,⟨⟩⟩⟩)
      · exact hmem
      · exact hrole
    have hpair : [other.roleId,finding.roleId].Nodup := by simp [hne]
    exact (hpair.subperm hsub).length_le

def Stands (runtime : Runtime) (group : List Finding) (finding : Finding) : Prop :=
  group.length = 1 ∨ ((∀ other ∈ group, other.digest runtime ≠ finding.digest runtime → other.severity ≠ finding.severity) ∧
    ∃ other ∈ group, other.roleId ≠ finding.roleId)

theorem mem_groupMinority {runtime : Runtime} {group : List Finding} {digest : String} :
    digest ∈ groupMinority runtime group ↔ ∃ finding ∈ group, finding.digest runtime = digest ∧ Stands runtime group finding := by
  rw [groupMinority]
  by_cases hone : group.length = 1
  · rw [if_pos hone,List.mem_map]
    exact exists_congr fun finding => and_congr_right fun _ => (and_iff_left (.inl hone)).symm
  · rw [if_neg hone,List.mem_map]
    refine exists_congr fun finding => ?_
    simp only [List.mem_filter,Bool.and_eq_true,decide_eq_true_eq,List.isEmpty_iff,List.filter_eq_nil_iff,Stands,hone,false_or]
    constructor
    · rintro ⟨⟨hmem,hpeers,hroles⟩,hdigest⟩
      exact ⟨hmem,hdigest,fun other hother hne heq => hpeers other hother ⟨hne,heq⟩,(one_lt_roles hmem).mp hroles⟩
    · rintro ⟨hmem,hdigest,hpeers,hroles⟩
      exact ⟨⟨hmem,fun other hother hboth => hpeers other hother hboth.1 hboth.2,(one_lt_roles hmem).mpr hroles⟩,hdigest⟩

def DistinctDigests (runtime : Runtime) (findings : List Finding) : Prop :=
  ∀ left ∈ findings, ∀ right ∈ findings,
    runtime.digestValue left.toCanonical = runtime.digestValue right.toCanonical → left.toCanonical = right.toCanonical

theorem DistinctDigests.eq_of_digest {runtime : Runtime} (h : DistinctDigests runtime findings) {left right : Finding}
    (hleft : left ∈ findings) (hright : right ∈ findings) (hdigest : left.digest runtime = right.digest runtime) :
    left = right := Finding.toCanonical_injective (h left hleft right hright hdigest)

theorem stands_iff {runtime : Runtime} (hdistinct : DistinctDigests runtime findings) (hmem : finding ∈ findings)
    (hseverity : finding.severity ≠ .speculation) (hclaim : claimId ∈ bucketsOf finding) :
    Stands runtime (entriesOn findings claimId) finding ↔
      OnlyRole findings finding claimId ∧ ¬ Crowded findings finding claimId := by
  have hentry : finding ∈ entriesOn findings claimId := mem_entriesOn.mpr ⟨hmem,hseverity,hclaim⟩
  constructor
  · rintro (hone | ⟨hpeers,other,hother,hrole⟩)
    · obtain ⟨only,honly⟩ := List.length_eq_one_iff.mp hone
      have hsingle : ∀ other ∈ findings, other.severity ≠ .speculation → claimId ∈ bucketsOf other → other = finding := by
        intro other hother hsev hin
        have hfirst : other ∈ entriesOn findings claimId := mem_entriesOn.mpr ⟨hother,hsev,hin⟩
        rw [honly,List.mem_singleton] at hfirst hentry
        rw [hfirst,hentry]
      refine ⟨fun other hother hsev hin => congrArg _ (hsingle other hother (hsev ▸ hseverity) hin),?_⟩
      rintro (⟨other,hother,hne,_,hsev,hin⟩ | ⟨_,hlength⟩)
      · exact hne (hsingle other hother (hsev ▸ hseverity) hin)
      · exact hlength hone
    · have hpeer : ∀ other ∈ findings, other.severity = finding.severity → claimId ∈ bucketsOf other → other = finding := by
        intro other hother hsev hin
        by_contra hne
        have hdigest : other.digest runtime ≠ finding.digest runtime :=
          fun heq => hne (hdistinct.eq_of_digest hother hmem heq)
        exact hpeers other (mem_entriesOn.mpr ⟨hother,hsev ▸ hseverity,hin⟩) hdigest hsev
      refine ⟨fun other hother hsev hin => congrArg _ (hpeer other hother hsev hin),?_⟩
      rintro (⟨other,hother,hne,_,hsev,hin⟩ | ⟨hall,_⟩)
      · exact hne (hpeer other hother hsev hin)
      · obtain ⟨hin,hsev,hclaim⟩ := mem_entriesOn.mp hother
        exact hrole (hall other hin hsev hclaim)
  · rintro ⟨hrole,hcrowded⟩
    rw [Crowded,not_or] at hcrowded
    obtain ⟨hown,hothers⟩ := hcrowded
    rw [not_and_or,not_not] at hothers
    obtain hothers | hone := hothers
    · push Not at hothers
      obtain ⟨other,hother,hsev,hin,hne⟩ := hothers
      refine .inr ⟨?_,other,mem_entriesOn.mpr ⟨hother,hsev,hin⟩,hne⟩
      intro peer hpeer hdigest hsame
      obtain ⟨hpeerIn,_,hpeerClaim⟩ := mem_entriesOn.mp hpeer
      refine hown ⟨peer,hpeerIn,?_,hrole peer hpeerIn hsame hpeerClaim,hsame,hpeerClaim⟩
      rintro rfl
      exact hdigest rfl
    · exact .inl hone

theorem mem_minorityFindings {runtime : Runtime} (hdistinct : DistinctDigests runtime findings) (hmem : finding ∈ findings)
    (hseverity : finding.severity ≠ .speculation) : finding.digest runtime ∈ minorityFindings runtime findings ↔
      ∃ claimId ∈ bucketsOf finding, OnlyRole findings finding claimId ∧ ¬ Crowded findings finding claimId := by
  rw [minorityFindings,List.mem_insertionSort,List.mem_dedup,List.mem_flatMap]
  constructor
  · rintro ⟨⟨claimId,group⟩,hgroup,hdigest⟩
    obtain ⟨_,rfl⟩ := (mem_buckets _ _ _ _).mp hgroup
    obtain ⟨other,hother,heq,hstands⟩ := mem_groupMinority.mp hdigest
    obtain ⟨hin,_,hclaim⟩ := mem_entriesOn.mp hother
    obtain rfl : other = finding := hdistinct.eq_of_digest hin hmem heq
    exact ⟨claimId,hclaim,(stands_iff hdistinct hmem hseverity hclaim).mp hstands⟩
  · rintro ⟨claimId,hclaim,hstands⟩
    have hentry : finding ∈ entriesOn findings claimId := mem_entriesOn.mpr ⟨hmem,hseverity,hclaim⟩
    have hadmissible : finding ∈ findings.filter fun finding => finding.severity ≠ .speculation :=
      List.mem_filter.mpr ⟨hmem,decide_eq_true hseverity⟩
    exact ⟨(claimId,entriesOn findings claimId),(mem_buckets _ _ _ _).mpr ⟨⟨finding,hadmissible,hclaim⟩,rfl⟩,
      mem_groupMinority.mpr ⟨finding,hentry,rfl,(stands_iff hdistinct hmem hseverity hclaim).mpr hstands⟩⟩

theorem statedMinority_iff (hseverity : finding.severity ≠ .speculation) :
    StatedMinority findings finding ↔ ∃ claimId ∈ bucketsOf finding, OnlyRole findings finding claimId := by
  have honly : ∀ claimId, OnlyAttack findings finding claimId → OnlyRole findings finding claimId :=
    fun claimId honly other hother hsev hin => congrArg _ (honly other hother (hsev ▸ hseverity) hin)
  exact exists_congr fun claimId => and_congr_right fun _ => ⟨fun h => h.elim (honly claimId) id,.inr⟩

theorem onlyRole_perm {others : List Finding} (h : findings.Perm others) :
    OnlyRole findings finding claimId ↔ OnlyRole others finding claimId :=
  forall_congr' fun _ => imp_congr_left h.mem_iff

theorem crowded_perm {others : List Finding} (h : findings.Perm others) :
    Crowded findings finding claimId ↔ Crowded others finding claimId := by
  have hlength : (entriesOn findings claimId).length = (entriesOn others claimId).length :=
    ((h.filter _).flatMap_right _).length_eq
  simp only [Crowded,h.mem_iff,hlength]

end Groups

section Dissent
variable (runtime : Runtime)

structure DissentKept (reports : List ReviewerReport) (claims : List Claim) : Prop where
  listed : (synthesize runtime reports claims).orderedFindingDigests.Perm ((findingsOf reports).map (Finding.digest runtime))
  ordered : ∃ findings : List Finding, findings.Perm (findingsOf reports) ∧
    findings.Pairwise (fun left right => findingBefore runtime left right = true) ∧
    (synthesize runtime reports claims).orderedFindingDigests = findings.map (Finding.digest runtime)
  independent : ∀ others, (findingsOf others).Perm (findingsOf reports) →
    (synthesize runtime others claims).orderedFindingDigests = (synthesize runtime reports claims).orderedFindingDigests
  minority : ∀ finding ∈ findingsOf reports, finding.severity ≠ .speculation →
    (finding.digest runtime ∈ (synthesize runtime reports claims).minorityFindings ↔
      StatedMinority (findingsOf reports) finding)

def Uncrowded (findings : List Finding) : Prop :=
  ∀ finding ∈ findings, finding.severity ≠ .speculation →
    (∃ claimId ∈ bucketsOf finding, OnlyRole findings finding claimId) →
      ∃ claimId ∈ bucketsOf finding, OnlyRole findings finding claimId ∧ ¬ Crowded findings finding claimId

theorem mem_synthesize_minority {reports : List ReviewerReport} {claims : List Claim} {finding : Finding}
    (hdistinct : DistinctDigests runtime (findingsOf reports)) (hmem : finding ∈ findingsOf reports)
    (hseverity : finding.severity ≠ .speculation) :
    finding.digest runtime ∈ (synthesize runtime reports claims).minorityFindings ↔
      ∃ claimId ∈ bucketsOf finding, OnlyRole (findingsOf reports) finding claimId ∧
        ¬ Crowded (findingsOf reports) finding claimId := by
  have hperm := collectFindings_perm runtime reports
  have hsorted : DistinctDigests runtime (collectFindings runtime reports) := fun left hleft right hright =>
    hdistinct left (hperm.mem_iff.mp hleft) right (hperm.mem_iff.mp hright)
  have hminority := mem_minorityFindings hsorted (hperm.mem_iff.mpr hmem) hseverity
  simp only [onlyRole_perm hperm,crowded_perm hperm] at hminority
  exact hminority

theorem dissentKept_iff (reports : List ReviewerReport) (claims : List Claim)
    (hdistinct : DistinctDigests runtime (findingsOf reports)) :
    DissentKept runtime reports claims ↔ Uncrowded (findingsOf reports) := by
  constructor
  · intro h finding hmem hseverity halone
    exact (mem_synthesize_minority runtime hdistinct hmem hseverity).mp
      ((h.minority finding hmem hseverity).mpr ((statedMinority_iff hseverity).mpr halone))
  · intro h
    have hperm := collectFindings_perm runtime reports
    refine ⟨hperm.map _,⟨_,hperm,sorted_collectFindings runtime reports,rfl⟩,
      fun others hothers => digests_collectFindings runtime hothers,fun finding hmem hseverity => ?_⟩
    rw [mem_synthesize_minority runtime hdistinct hmem hseverity,statedMinority_iff hseverity]
    constructor
    · rintro ⟨claimId,hclaim,hrole,_⟩
      exact ⟨claimId,hclaim,hrole⟩
    · exact h finding hmem hseverity

end Dissent

section PairedMajors

def pairedMajor (findingId title statement : String) (h : hasText findingId = true ∧ hasText title = true ∧ hasText statement = true) :
    Finding where
  findingId := ⟨findingId,h.1⟩
  roleId := ⟨"R03-statistics",rfl⟩
  severity := .major
  title := ⟨title,h.2.1⟩
  statement := ⟨statement,h.2.2⟩
  failureMode := ⟨"The interval is too short.",rfl⟩
  evidence := [⟨.command,⟨"make power",rfl⟩,⟨"coverage below nominal",rfl⟩,none,none,none,none,rfl,rfl⟩]
  claimIds := ["C1"]
  reproduction := []
  whatWouldRefute := "A coverage report at nominal."
  confidence := "asserted"

section Pair
variable (findingId title statement : String) (h : hasText findingId = true ∧ hasText title = true ∧ hasText statement = true)

theorem pairedMajor_severity : (pairedMajor findingId title statement h).severity = .major := rfl

theorem pairedMajor_roleId : (pairedMajor findingId title statement h).roleId = ⟨"R03-statistics",rfl⟩ := rfl

theorem bucketsOf_pairedMajor : bucketsOf (pairedMajor findingId title statement h) = ["C1"] := rfl

end Pair

def coverageMajor : Finding := pairedMajor "R03-1" "Coverage" "The interval undercovers." ⟨rfl,rfl,rfl⟩

def pairingMajor : Finding := pairedMajor "R03-2" "Pairing" "The pairs are dependent." ⟨rfl,rfl,rfl⟩

def pairedRuntime : Runtime :=
  { sampleRuntime with
    digestValue := fun value =>
      if value = coverageMajor.toCanonical then "dbbe54f7760acbadb2c38e4da976937e939caa2a1405e7c3071155a13ac345b5"
      else "49328f6b85dde1db3007878f87538a9e68c73fa26173f30f4ef5d654bf0dd73c" }

def pairedReports : List ReviewerReport := [⟨"R03-statistics",[coverageMajor,pairingMajor],[],none⟩]

def calibrationMajor : Finding := { pairingMajor with roleId := ⟨"R02-identification",rfl⟩, claimIds := ["C2"] }

def apartReports : List ReviewerReport :=
  [⟨"R03-statistics",[coverageMajor],[],none⟩,⟨"R02-identification",[calibrationMajor],[],none⟩]

theorem pairing_ne_coverage : pairingMajor ≠ coverageMajor := by
  intro h
  have hid : "R03-2" = "R03-1" := congrArg (fun finding => finding.findingId.val) h
  exact absurd hid (by decide)

theorem coverage_digest : pairedRuntime.digestValue coverageMajor.toCanonical =
    "dbbe54f7760acbadb2c38e4da976937e939caa2a1405e7c3071155a13ac345b5" := by
  simp only [pairedRuntime,if_true]

theorem pairing_digest : pairedRuntime.digestValue pairingMajor.toCanonical =
    "49328f6b85dde1db3007878f87538a9e68c73fa26173f30f4ef5d654bf0dd73c" := by
  have hne : pairingMajor.toCanonical ≠ coverageMajor.toCanonical :=
    fun h => pairing_ne_coverage (Finding.toCanonical_injective h)
  simp only [pairedRuntime,if_neg hne]

theorem mem_paired {finding : Finding} : finding ∈ findingsOf pairedReports ↔
    finding = coverageMajor ∨ finding = pairingMajor := by
  change finding ∈ [coverageMajor,pairingMajor] ↔ _
  simp only [List.mem_cons,List.not_mem_nil,or_false]

theorem mem_apart {finding : Finding} : finding ∈ findingsOf apartReports ↔
    finding = coverageMajor ∨ finding = calibrationMajor := by
  change finding ∈ [coverageMajor,calibrationMajor] ↔ _
  simp only [List.mem_cons,List.not_mem_nil,or_false]

theorem paired_distinct : DistinctDigests pairedRuntime (findingsOf pairedReports) := by
  intro left hleft right hright hdigest
  obtain rfl | rfl := mem_paired.mp hleft <;> obtain rfl | rfl := mem_paired.mp hright
  · rfl
  · rw [coverage_digest,pairing_digest] at hdigest
    exact absurd hdigest (by decide)
  · rw [coverage_digest,pairing_digest] at hdigest
    exact absurd hdigest (by decide)
  · rfl

theorem calibration_ne_coverage : calibrationMajor ≠ coverageMajor := by
  intro h
  have hid : "R03-2" = "R03-1" := congrArg (fun finding => finding.findingId.val) h
  exact absurd hid (by decide)

theorem calibration_digest : pairedRuntime.digestValue calibrationMajor.toCanonical =
    "49328f6b85dde1db3007878f87538a9e68c73fa26173f30f4ef5d654bf0dd73c" := by
  have hne : calibrationMajor.toCanonical ≠ coverageMajor.toCanonical :=
    fun h => calibration_ne_coverage (Finding.toCanonical_injective h)
  simp only [pairedRuntime,if_neg hne]

theorem apart_distinct : DistinctDigests pairedRuntime (findingsOf apartReports) := by
  intro left hleft right hright hdigest
  obtain rfl | rfl := mem_apart.mp hleft <;> obtain rfl | rfl := mem_apart.mp hright
  · rfl
  · rw [coverage_digest,calibration_digest] at hdigest
    exact absurd hdigest (by decide)
  · rw [coverage_digest,calibration_digest] at hdigest
    exact absurd hdigest (by decide)
  · rfl

theorem coverage_alone {other : Finding} (h : other ∈ findingsOf apartReports) (hclaim : "C1" ∈ bucketsOf other) :
    other = coverageMajor := by
  obtain rfl | rfl := mem_apart.mp h
  · rfl
  · exact absurd (List.mem_singleton.mp (show "C1" ∈ ["C2"] from hclaim)) (by decide)

theorem calibration_alone {other : Finding} (h : other ∈ findingsOf apartReports) (hclaim : "C2" ∈ bucketsOf other) :
    other = calibrationMajor := by
  obtain rfl | rfl := mem_apart.mp h
  · exact absurd (List.mem_singleton.mp (show "C2" ∈ ["C1"] from hclaim)) (by decide)
  · rfl

theorem apart_uncrowded : Uncrowded (findingsOf apartReports) := by
  rintro finding hmem - -
  obtain rfl | rfl := mem_apart.mp hmem
  · refine ⟨"C1",List.mem_singleton_self _,fun other hother _ hclaim => congrArg _ (coverage_alone hother hclaim),?_⟩
    rintro (⟨other,hother,hne,-,-,hclaim⟩ | ⟨-,hlength⟩)
    · exact hne (coverage_alone hother hclaim)
    · exact hlength rfl
  · refine ⟨"C2",List.mem_singleton_self _,fun other hother _ hclaim => congrArg _ (calibration_alone hother hclaim),?_⟩
    rintro (⟨other,hother,hne,-,-,hclaim⟩ | ⟨-,hlength⟩)
    · exact hne (calibration_alone hother hclaim)
    · exact hlength rfl

theorem apart_majors_kept : DissentKept pairedRuntime apartReports [] :=
  (dissentKept_iff pairedRuntime apartReports [] apart_distinct).mpr apart_uncrowded

theorem paired_majors_lost : ¬ ∀ reports claims, DistinctDigests pairedRuntime (findingsOf reports) →
    DissentKept pairedRuntime reports claims := by
  intro h
  have hcoverage : coverageMajor ∈ findingsOf pairedReports := mem_paired.mpr (.inl rfl)
  have hpairing : pairingMajor ∈ findingsOf pairedReports := mem_paired.mpr (.inr rfl)
  have hseverity : coverageMajor.severity = .major := pairedMajor_severity _ _ _ _
  have hsame : pairingMajor.severity = coverageMajor.severity :=
    (pairedMajor_severity _ _ _ _).trans (pairedMajor_severity _ _ _ _).symm
  have hrole : pairingMajor.roleId = coverageMajor.roleId :=
    (pairedMajor_roleId _ _ _ _).trans (pairedMajor_roleId _ _ _ _).symm
  have hbuckets : bucketsOf coverageMajor = ["C1"] := bucketsOf_pairedMajor _ _ _ _
  have hgrounded : coverageMajor.severity ≠ .speculation := by simp [hseverity]
  have halone : OnlyRole (findingsOf pairedReports) coverageMajor "C1" := by
    intro other hother _ _
    obtain rfl | rfl := mem_paired.mp hother
    · rfl
    · exact hrole
  have hstated : StatedMinority (findingsOf pairedReports) coverageMajor := ⟨"C1",by simp [hbuckets],.inr halone⟩
  have hlisted := ((h pairedReports [] paired_distinct).minority coverageMajor hcoverage hgrounded).mpr hstated
  obtain ⟨claimId,hclaim,-,hcrowded⟩ := (mem_synthesize_minority pairedRuntime paired_distinct hcoverage hgrounded).mp hlisted
  rw [hbuckets] at hclaim
  have hpaired : claimId ∈ bucketsOf pairingMajor := by
    rw [pairingMajor,bucketsOf_pairedMajor]
    exact hclaim
  exact hcrowded (.inl ⟨pairingMajor,hpairing,pairing_ne_coverage,hrole,hsame,hpaired⟩)

end PairedMajors

end PneumaLab.AdversarialReview
