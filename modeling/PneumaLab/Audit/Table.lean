import Mathlib.Analysis.Real.Sqrt
import Mathlib.Tactic
import PneumaLab.Exceptions
import PneumaLab.Library.Values

namespace PneumaLab.Audit

def Z_ALPHA_TWO_SIDED : ℚ := 1959963984540054 / 10 ^ 15

def Z_ALPHA_ONE_SIDED : ℚ := 16448536269514722 / 10 ^ 16

def Z_POWER_80 : ℚ := 8416212335729143 / 10 ^ 16

def nonIdentifiable (message : String) : Raised := .valueError message

def designEffect (clusterSize icc : ℚ) : Py ℚ := do
  demand (decide (1 ≤ clusterSize)) (.valueError "cluster_size must be at least 1")
  demand (decide (0 ≤ icc ∧ icc ≤ 1)) (.valueError "icc must lie in [0, 1]")
  return 1 + (clusterSize - 1) * icc

structure ReportedDesign where
  label : String
  nObservations : ℕ
  nClusters : Option ℕ
  paired : Bool
  discordance : Option ℚ
  baseRate : Option ℚ

namespace ReportedDesign

def clusterSize (design : ReportedDesign) : Py ℚ := do
  let k ← required (nonIdentifiable (design.label ++ ": the paper does not state the count of its coarsest " ++
    "grouping, so no design effect is computable from public information.")) design.nClusters
  demand (decide (1 ≤ k)) (.valueError "n_clusters must be positive")
  return (design.nObservations : ℚ) / k

def assertIdentifiable (design : ReportedDesign) : Py Unit := do
  demand design.nClusters.isSome (nonIdentifiable (design.label ++ ": coarsest-grouping count not stated in the paper."))
  demand (decide (design.nClusters ≠ some 1))
    (nonIdentifiable (design.label ++ ": all observations derive from a single cluster. " ++
      "Between-cluster variance and the intraclass correlation are not " ++
      "estimable, so there is no identified design effect, no " ++
      "cluster-robust standard error, and no minimum detectable effect " ++
      "for a claim generalizing beyond that one cluster."))
  demand (!(design.paired && design.discordance.isNone))
    (nonIdentifiable (design.label ++ ": paired design with no reported discordance rate."))
  demand (!(!design.paired && design.baseRate.isNone))
    (nonIdentifiable (design.label ++ ": unpaired design with no reported base rate."))

def varianceTerm (design : ReportedDesign) : Py ℚ :=
  if design.paired then required (.assertionError "") design.discordance
  else (required (.assertionError "") design.baseRate).map fun p => 2 * p * (1 - p)

end ReportedDesign

noncomputable section

def minimumDetectableEffect (design : ReportedDesign) (icc : ℚ) (twoSided : Bool) (zPower : ℚ) : Py ℝ := do
  design.assertIdentifiable
  let zAlpha := if twoSided then Z_ALPHA_TWO_SIDED else Z_ALPHA_ONE_SIDED
  let deff ← designEffect (← design.clusterSize) icc
  let multiplier := zAlpha + zPower
  let term ← design.varianceTerm
  return multiplier * Real.sqrt (term * deff / design.nObservations : ℚ)

def pairedEffect (n k : ℕ) (disc icc : ℚ) : ℝ :=
  (Z_ALPHA_TWO_SIDED + Z_POWER_80 : ℚ) * Real.sqrt (disc * (1 + ((n : ℚ) / k - 1) * icc) / n : ℚ)

end

section Paired
variable {label : String} {n k : ℕ} {disc icc : ℚ}

theorem designEffect_eq_ok {size deff : ℚ} : designEffect size icc = .ok deff ↔
    1 ≤ size ∧ (0 ≤ icc ∧ icc ≤ 1) ∧ 1 + (size - 1) * icc = deff := by
  simp only [designEffect,bind_eq_ok,demand_eq_ok,decide_eq_true_eq,exists_const,pure,Except.pure,Except.ok.injEq]

theorem one_le_size : (1 ≤ k ∧ (1 : ℚ) ≤ (n : ℚ) / k) ↔ 1 ≤ k ∧ k ≤ n := by
  refine and_congr_right fun hk => ?_
  rw [one_le_div (by exact_mod_cast hk),Nat.cast_le]

theorem minimumDetectableEffect_eq_ok (hicc : 0 ≤ icc ∧ icc ≤ 1) (mde : ℝ) :
    minimumDetectableEffect ⟨label,n,some k,true,some disc,none⟩ icc true Z_POWER_80 = .ok mde ↔
      (2 ≤ k ∧ k ≤ n) ∧ pairedEffect n k disc icc = mde := by
  have hassert : (ReportedDesign.assertIdentifiable ⟨label,n,some k,true,some disc,none⟩ = .ok ()) ↔ k ≠ 1 := by
    simp [ReportedDesign.assertIdentifiable]
  simp only [minimumDetectableEffect,bind_eq_ok,exists_const,hassert,ReportedDesign.clusterSize,ReportedDesign.varianceTerm,
    required_eq_ok,demand_eq_ok,decide_eq_true_eq,designEffect_eq_ok,pure,Except.pure,Except.ok.injEq,if_true,Option.some.injEq]
  constructor
  · rintro ⟨hne,_,⟨_,rfl,hk,rfl⟩,_,⟨hsize,_,rfl⟩,_,rfl,rfl⟩
    have hle := one_le_size.mp ⟨hk,hsize⟩
    exact ⟨⟨by omega,hle.2⟩,rfl⟩
  · rintro ⟨⟨hk,hn⟩,rfl⟩
    have hsize := one_le_size.mpr ⟨show 1 ≤ k by omega,hn⟩
    exact ⟨by omega,_,⟨k,rfl,hsize.1,rfl⟩,_,⟨hsize.2,hicc,rfl⟩,disc,rfl,rfl⟩

end Paired

def ICC_GRID : List ℚ := [5 / 100,1 / 10,3 / 10,5 / 10,1]

def DISCORDANCE_GRID : List ℚ := [15 / 100,25 / 100,40 / 100]

def centralDiscordance : ℚ := 25 / 100

structure AlternativeUnit where
  f2Clusters : Option ℕ
  f2Unit : String
  reason : String

structure CodedPaper where
  label : String
  stratum : String
  f1ReportedN : Option ℕ
  f2Clusters : Option ℕ
  f5InertNull : String
  f8DecisionRule : String
  claimedEffectPp : Option Number
  claimedEffectVerified : Bool
  f2Alternatives : List AlternativeUnit
  sharedMemoryLifetime : Bool

def CodedPaper.identifiabilityReason (p : CodedPaper) : Option String :=
  if p.f1ReportedN = none then some "no evaluation sample size stated in the paper"
  else if p.f2Clusters = none then some "count of the coarsest grouping not stated in the paper"
  else if p.f2Clusters = some 1 then
    some ("all observations from a single cluster; between-cluster " ++ "variance is unestimable")
  else none

inductive Verdict where
  | noVerifiedEffect | above | below
deriving DecidableEq

inductive Status where
  | nonIdentifiable | noVerifiedEffect | stable | flips
deriving DecidableEq

noncomputable section

def atLeast (limit : ℝ) : Number → Bool
  | .int value => decide (limit ≤ value)
  | .float .nan => false
  | .float (.infinite negative) => !negative
  | .float (.finite value _) => decide (limit ≤ value)

def lessThan (limit : ℝ) : Number → Bool
  | .int value => decide (value < limit)
  | .float .nan => false
  | .float (.infinite negative) => negative
  | .float (.finite value _) => decide (value < limit)

def roundReal (x : ℝ) : ℝ :=
  let scaled := x * (100 : ℕ)
  let down := ⌊scaled⌋
  let up := ⌊scaled⌋ + 1
  (if scaled - down < up - scaled ∨ scaled - down = up - scaled ∧ down % 2 = 0 then down else up) / (100 : ℕ)

structure Cell where
  icc : ℚ
  discordance : ℚ
  designEffect : ℚ
  mdePp : ℝ
  verdict : Verdict

def cellFor (p : CodedPaper) (n k : ℕ) (icc disc : ℚ) : Py Cell := do
  let mde ← minimumDetectableEffect ⟨p.label,n,some k,true,some disc,none⟩ icc true Z_POWER_80
  let claim := if p.claimedEffectVerified then p.claimedEffectPp else none
  let verdict := match claim with
    | none => Verdict.noVerifiedEffect
    | some effect => if atLeast (mde * (100 : ℕ)) effect then .above else .below
  let deff ← designEffect (n / k) icc
  return ⟨icc,disc,Rounding.halfEven (deff * 100) / 100,roundReal (mde * (100 : ℕ)),verdict⟩

def surfaceFor (p : CodedPaper) (clusters : Option ℕ) : Py (Option (List Cell)) :=
  match p.f1ReportedN, if clusters = none then p.f2Clusters else clusters with
  | some n, some k =>
    if k = 1 then .ok none
    else do
      let cells ← (ICC_GRID ×ˢ DISCORDANCE_GRID).mapM fun point => cellFor p n k point.1 point.2
      return some cells
  | _, _ => .ok none

structure CodedEntry where
  status : Status
  reason : Option String
  verdict : Option Verdict
  firstFlip : Option (ℚ × ℚ)

structure AlternativeEntry where
  f2Clusters : Option ℕ
  f2Unit : String
  reason : String
  status : Status
  verdict : Option Verdict

structure Stability where
  label : String
  coded : CodedEntry
  alternatives : List AlternativeEntry

def verdictsOf (cells : List Cell) : List Verdict := (cells.map Cell.verdict).dedup

def onlyVerdict (cells : List Cell) : Option Verdict :=
  if (verdictsOf cells).length = 1 then (verdictsOf cells).head? else none

def firstFlip (cells : List Cell) : Option (ℚ × ℚ) :=
  if 1 < (verdictsOf cells).length then
    (cells.find? fun cell => (cells.map Cell.verdict).head? ≠ some cell.verdict).map fun cell => (cell.icc,cell.discordance)
  else none

def codedEntry (p : CodedPaper) : Option (List Cell) → CodedEntry
  | none => ⟨.nonIdentifiable,p.identifiabilityReason,none,none⟩
  | some cells =>
    if !p.claimedEffectVerified then ⟨.noVerifiedEffect,none,none,none⟩
    else ⟨if (verdictsOf cells).length = 1 then .stable else .flips,none,onlyVerdict cells,firstFlip cells⟩

def alternativeEntry (p : CodedPaper) (alt : AlternativeUnit) : Option (List Cell) → AlternativeEntry
  | none => ⟨alt.f2Clusters,alt.f2Unit,alt.reason,.nonIdentifiable,none⟩
  | some cells =>
    if !p.claimedEffectVerified then ⟨alt.f2Clusters,alt.f2Unit,alt.reason,.noVerifiedEffect,none⟩
    else ⟨alt.f2Clusters,alt.f2Unit,alt.reason,if (verdictsOf cells).length = 1 then .stable else .flips,onlyVerdict cells⟩

def stabilityFor (p : CodedPaper) : Py Stability := do
  let coded ← surfaceFor p none
  let alternatives ← p.f2Alternatives.mapM fun alt => do
    let surface ← surfaceFor p alt.f2Clusters
    return alternativeEntry p alt surface
  return ⟨p.label,codedEntry p coded,alternatives⟩

structure Block where
  nRows : ℕ
  nonIdentifiable : ℕ
  noVerifiedEffect : ℕ
  verdictEligible : ℕ
  belowThresholdByIcc : List (ℚ × ℕ)
  sharedMemoryLifetime : ℕ
  noPreSpecifiedRule : ℕ
  noInertNull : ℕ

-- A claimed effect of null counts as 0.
def fallsBelow (icc : ℚ) (p : CodedPaper) : Py Bool := do
  let mde ← minimumDetectableEffect ⟨p.label,p.f1ReportedN.getD 0,p.f2Clusters,true,some centralDiscordance,none⟩ icc true Z_POWER_80
  return lessThan (mde * (100 : ℕ)) (p.claimedEffectPp.getD (.int 0))

def block (rows : List CodedPaper) : Py Block := do
  let identifiable := rows.filter fun p => p.identifiabilityReason.isNone
  let verified := identifiable.filter CodedPaper.claimedEffectVerified
  let below ← ICC_GRID.mapM fun icc => do
    let flags ← verified.mapM (fallsBelow icc)
    return (icc,flags.countP id)
  return {
    nRows := rows.length
    nonIdentifiable := rows.length - identifiable.length
    noVerifiedEffect := identifiable.length - verified.length
    verdictEligible := verified.length
    belowThresholdByIcc := below
    sharedMemoryLifetime := rows.countP CodedPaper.sharedMemoryLifetime
    noPreSpecifiedRule := rows.countP fun p => p.f8DecisionRule = "none"
    noInertNull := rows.countP fun p => p.f5InertNull ∈ ["none","ablation_only","not_stated"] }

structure AuditSummary where
  byStratum : List (String × Block)
  pooled : Block
  caveat : String

def strata (papers : List CodedPaper) : List String := (papers.map CodedPaper.stratum).dedup.mergeSort fun s t => decide (s ≤ t)

def summarize (papers : List CodedPaper) : Py AuditSummary := do
  let byStratum ← (strata papers).mapM fun s => do
    let rows ← block (papers.filter fun p => p.stratum = s)
    return (s,rows)
  let pooled ← block papers
  return {
    byStratum := byStratum
    pooled := pooled
    caveat := "Every count is conditional on its stated ICC and on a paired discordance " ++
      "of 0.25. No effective sample size is estimated; published cluster counts " ++
      "do not identify one. Counts describe the coded frame and date range only." }

def CodedPaper.verifiedEffect (p : CodedPaper) : Bool := p.claimedEffectVerified && p.claimedEffectPp.isSome

def Ungrouped (clusters : Option ℕ) : Prop := clusters = none ∨ clusters = some 1

instance (clusters : Option ℕ) : Decidable (Ungrouped clusters) := inferInstanceAs (Decidable (_ ∨ _))

def saysBelow (icc : ℚ) (p : CodedPaper) : Bool :=
  match surfaceFor p none with
  | .ok (some cells) => cells.any fun cell => cell.icc = icc ∧ cell.discordance = centralDiscordance ∧ cell.verdict = .below
  | _ => false

structure BlockAgrees (rows : List CodedPaper) (b : Block) : Prop where
  nonIdentifiable : b.nonIdentifiable = rows.countP fun p => p.f1ReportedN = none ∨ Ungrouped p.f2Clusters
  eligible : b.verdictEligible = rows.countP fun p =>
    ¬(p.f1ReportedN = none ∨ Ungrouped p.f2Clusters) ∧ p.verifiedEffect = true
  below : b.belowThresholdByIcc = ICC_GRID.map fun icc => (icc,rows.countP (saysBelow icc))

def Undecided (status : Status) : Prop := status = .nonIdentifiable ∨ status = .noVerifiedEffect

structure ExhibitsAgree (papers : List CodedPaper) : Prop where
  returned : (∀ p ∈ papers, (∃ surface, surfaceFor p none = .ok surface) ∧ ∃ report, stabilityFor p = .ok report) ∧
    ∃ summary, summarize papers = .ok summary
  unverified : ∀ p ∈ papers, p.verifiedEffect = false →
    (∀ clusters cells, surfaceFor p clusters = .ok (some cells) → ∀ cell ∈ cells, cell.verdict = .noVerifiedEffect) ∧
    ∀ report, stabilityFor p = .ok report → Undecided report.coded.status ∧ ∀ entry ∈ report.alternatives, Undecided entry.status
  ungrouped : ∀ p ∈ papers, ∀ report, stabilityFor p = .ok report →
    (Ungrouped p.f2Clusters → surfaceFor p none = .ok none ∧ report.coded.status = .nonIdentifiable) ∧
    report.alternatives.length = p.f2Alternatives.length ∧
    ∀ entry ∈ report.alternatives, Ungrouped entry.f2Clusters → entry.status = .nonIdentifiable
  summarized : ∀ summary, summarize papers = .ok summary → BlockAgrees papers summary.pooled ∧
    ∀ row ∈ summary.byStratum, BlockAgrees (papers.filter fun p => p.stratum = row.1) row.2

structure Coded (p : CodedPaper) (n : ℕ) : Prop where
  counts : ∀ count ∈ p.f2Clusters :: p.f2Alternatives.map AlternativeUnit.f2Clusters, ∀ k, count = some k → k = 1 ∨ 2 ≤ k ∧ k ≤ n
  stated : none ∈ p.f2Alternatives.map AlternativeUnit.f2Clusters → Ungrouped p.f2Clusters
  claimed : p.claimedEffectVerified = true → p.claimedEffectPp = none →
    ∀ count ∈ p.f2Clusters :: p.f2Alternatives.map AlternativeUnit.f2Clusters, Ungrouped count
  number : p.claimedEffectVerified = true → p.claimedEffectPp = some (.float .nan) → Ungrouped p.f2Clusters

section Surface
variable {p : CodedPaper} {n k : ℕ} {icc disc : ℚ}

theorem mapM_const_ok {ε A B : Type} {f : A → Except ε B} {g : A → B} {valid : Prop} {xs : List A} (hne : xs ≠ [])
    (h : ∀ x ∈ xs, ∀ y, f x = .ok y ↔ valid ∧ g x = y) {ys : List B} : xs.mapM f = .ok ys ↔ valid ∧ xs.map g = ys := by
  rw [mapM_eq_ok]
  constructor
  · intro hall
    obtain ⟨x,hx⟩ := List.exists_mem_of_ne_nil xs hne
    obtain ⟨y,hmem,hy⟩ := exists_right_of_forall₂ hall hx
    refine ⟨((h x hx y).mp hy).1,?_⟩
    clear hx hmem hy hne
    induction hall with
    | nil => rfl
    | cons hxy hrest ih =>
      rw [List.map_cons,((h _ List.mem_cons_self _).mp hxy).2,ih fun x hx => h x (List.mem_cons_of_mem _ hx)]
  · rintro ⟨hvalid,rfl⟩
    rw [List.forall₂_map_right_iff,List.forall₂_same]
    exact fun x hx => (h x hx _).mpr ⟨hvalid,rfl⟩

def verdictAt (p : CodedPaper) (n k : ℕ) (icc disc : ℚ) : Verdict :=
  match if p.claimedEffectVerified then p.claimedEffectPp else none with
  | none => .noVerifiedEffect
  | some effect => if atLeast (pairedEffect n k disc icc * (100 : ℕ)) effect then .above else .below

def cellAt (p : CodedPaper) (n k : ℕ) (icc disc : ℚ) : Cell where
  icc := icc
  discordance := disc
  designEffect := Rounding.halfEven ((1 + ((n : ℚ) / k - 1) * icc) * 100) / 100
  mdePp := roundReal (pairedEffect n k disc icc * (100 : ℕ))
  verdict := verdictAt p n k icc disc

def surfaceAt (p : CodedPaper) (n k : ℕ) : List Cell := (ICC_GRID ×ˢ DISCORDANCE_GRID).map fun point => cellAt p n k point.1 point.2

def picked (p : CodedPaper) (clusters : Option ℕ) : Option ℕ := if clusters = none then p.f2Clusters else clusters

theorem icc_range (h : icc ∈ ICC_GRID) : 0 ≤ icc ∧ icc ≤ 1 := by
  simp only [ICC_GRID,List.mem_cons,List.not_mem_nil,or_false] at h
  rcases h with rfl | rfl | rfl | rfl | rfl <;> norm_num

theorem cellFor_eq_ok (h : icc ∈ ICC_GRID) {cell : Cell} :
    cellFor p n k icc disc = .ok cell ↔ (2 ≤ k ∧ k ≤ n) ∧ cellAt p n k icc disc = cell := by
  simp only [cellFor,bind_eq_ok,minimumDetectableEffect_eq_ok (icc_range h),designEffect_eq_ok,pure,Except.pure,Except.ok.injEq]
  constructor
  · rintro ⟨_,⟨hk,rfl⟩,_,⟨_,_,rfl⟩,rfl⟩
    exact ⟨hk,rfl⟩
  · rintro ⟨hk,rfl⟩
    exact ⟨_,⟨hk,rfl⟩,_,⟨(one_le_size.mpr ⟨show 1 ≤ k by omega,hk.2⟩).2,icc_range h,rfl⟩,rfl⟩

theorem surfaceFor_eq_ok {clusters : Option ℕ} {surface : Option (List Cell)} : surfaceFor p clusters = .ok surface ↔
    (p.f1ReportedN = none ∨ Ungrouped (picked p clusters)) ∧ surface = none ∨
      ∃ n k, p.f1ReportedN = some n ∧ picked p clusters = some k ∧ (2 ≤ k ∧ k ≤ n) ∧ surface = some (surfaceAt p n k) := by
  have hcells (n k : ℕ) {cells : List Cell} : ((ICC_GRID ×ˢ DISCORDANCE_GRID).mapM fun point => cellFor p n k point.1 point.2) = .ok cells ↔
      (2 ≤ k ∧ k ≤ n) ∧ surfaceAt p n k = cells :=
    mapM_const_ok (by decide) fun point hpoint _ => cellFor_eq_ok (List.mem_product.mp hpoint).1
  rw [surfaceFor,← picked]
  cases hn : p.f1ReportedN with
  | none => simp [eq_comm]
  | some n =>
    cases hk : picked p clusters with
    | none => simp [Ungrouped,eq_comm]
    | some k =>
      by_cases hone : k = 1
      · simp [Ungrouped,hone,eq_comm]
      · simp only [if_neg hone,bind_eq_ok,hcells,pure,Except.pure,Except.ok.injEq]
        constructor
        · rintro ⟨_,⟨husable,rfl⟩,rfl⟩
          exact .inr ⟨n,k,rfl,rfl,husable,rfl⟩
        · rintro (⟨hbad,_⟩ | ⟨_,_,⟨⟩,⟨⟩,husable,rfl⟩)
          · simp [Ungrouped,hone] at hbad
          · exact ⟨_,⟨husable,rfl⟩,rfl⟩

theorem stabilityFor_eq_ok {report : Stability} : stabilityFor p = .ok report ↔
    ∃ coded, surfaceFor p none = .ok coded ∧ p.label = report.label ∧ codedEntry p coded = report.coded ∧
      List.Forall₂ (fun alt entry => ∃ surface, surfaceFor p alt.f2Clusters = .ok surface ∧ alternativeEntry p alt surface = entry)
        p.f2Alternatives report.alternatives := by
  simp only [stabilityFor,bind_eq_ok,mapM_eq_ok,pure,Except.pure,Except.ok.injEq]
  constructor
  · rintro ⟨coded,hcoded,entries,hentries,rfl⟩
    exact ⟨coded,hcoded,rfl,rfl,hentries⟩
  · rintro ⟨coded,hcoded,hlabel,hentry,hentries⟩
    refine ⟨coded,hcoded,report.alternatives,hentries,?_⟩
    rw [hlabel,hentry]

theorem codedEntry_undecided {cells : List Cell} : Undecided (codedEntry p (some cells)).status ↔ p.claimedEffectVerified = false := by
  rw [codedEntry]
  cases p.claimedEffectVerified with
  | false => simp [Undecided]
  | true =>
    simp only [Bool.not_true,Bool.false_eq_true,if_false,Undecided]
    split <;> simp

theorem alternativeEntry_undecided {alt : AlternativeUnit} {cells : List Cell} :
    Undecided (alternativeEntry p alt (some cells)).status ↔ p.claimedEffectVerified = false := by
  rw [alternativeEntry]
  cases p.claimedEffectVerified with
  | false => simp [Undecided]
  | true =>
    simp only [Bool.not_true,Bool.false_eq_true,if_false,Undecided]
    split <;> simp

theorem alternativeEntry_nonIdentifiable {alt : AlternativeUnit} {surface : Option (List Cell)} :
    (alternativeEntry p alt surface).status = .nonIdentifiable ↔ surface = none := by
  cases surface with
  | none => simp [alternativeEntry]
  | some cells =>
    rw [alternativeEntry]
    split
    · simp
    · simp only [reduceCtorEq,iff_false]
      split <;> simp

theorem alternativeEntry_clusters {alt : AlternativeUnit} (surface : Option (List Cell)) :
    (alternativeEntry p alt surface).f2Clusters = alt.f2Clusters := by
  cases surface with
  | none => rfl
  | some cells =>
    rw [alternativeEntry]
    split <;> rfl

end Surface

section Block
variable {p : CodedPaper} {rows : List CodedPaper} {icc : ℚ}

def ungrouped (p : CodedPaper) : Bool := p.f1ReportedN = none ∨ Ungrouped p.f2Clusters

def eligible (p : CodedPaper) : Bool := !ungrouped p && p.claimedEffectVerified

theorem identifiable_eq (p : CodedPaper) : p.identifiabilityReason.isNone = !ungrouped p := by
  rw [CodedPaper.identifiabilityReason]
  cases hn : p.f1ReportedN with
  | none => simp [ungrouped,hn]
  | some n =>
    cases hk : p.f2Clusters with
    | none => simp [ungrouped,hn,hk,Ungrouped]
    | some k =>
      by_cases hone : k = 1
      · simp [ungrouped,hn,hk,Ungrouped,hone]
      · simp [ungrouped,hn,hk,Ungrouped,hone]

theorem grouped (h : ungrouped p = false) : ∃ n k, p.f1ReportedN = some n ∧ p.f2Clusters = some k ∧ k ≠ 1 := by
  rw [ungrouped,decide_eq_false_iff_not,Ungrouped,not_or,not_or] at h
  obtain ⟨n,hn⟩ := Option.ne_none_iff_exists'.mp h.1
  obtain ⟨k,hk⟩ := Option.ne_none_iff_exists'.mp h.2.1
  exact ⟨n,k,hn,hk,fun hone => h.2.2 (hone ▸ hk)⟩

def flagged (icc : ℚ) (p : CodedPaper) : Bool :=
  lessThan (pairedEffect (p.f1ReportedN.getD 0) (p.f2Clusters.getD 0) centralDiscordance icc * (100 : ℕ))
    (p.claimedEffectPp.getD (.int 0))

def Usable (p : CodedPaper) : Prop := 2 ≤ p.f2Clusters.getD 0 ∧ p.f2Clusters.getD 0 ≤ p.f1ReportedN.getD 0

theorem fallsBelow_eq_ok (hicc : icc ∈ ICC_GRID) (h : eligible p = true) {flag : Bool} :
    fallsBelow icc p = .ok flag ↔ Usable p ∧ flagged icc p = flag := by
  rw [eligible,Bool.and_eq_true,Bool.not_eq_true'] at h
  obtain ⟨n,k,hn,hk,_⟩ := grouped h.1
  rw [fallsBelow,Usable,flagged,hn,hk]
  simp only [Option.getD_some,bind_eq_ok,minimumDetectableEffect_eq_ok (icc_range hicc),pure,Except.pure,Except.ok.injEq]
  constructor
  · rintro ⟨_,⟨husable,rfl⟩,rfl⟩
    exact ⟨husable,rfl⟩
  · rintro ⟨husable,rfl⟩
    exact ⟨_,⟨husable,rfl⟩,rfl⟩

theorem verified_eq (rows : List CodedPaper) :
    (rows.filter fun p => p.identifiabilityReason.isNone).filter CodedPaper.claimedEffectVerified = rows.filter eligible := by
  rw [List.filter_filter]
  refine List.filter_congr fun p _ => ?_
  rw [identifiable_eq,eligible,Bool.and_comm]

theorem flags_eq_ok (hicc : icc ∈ ICC_GRID) {flags : List Bool} : (rows.filter eligible).mapM (fallsBelow icc) = .ok flags ↔
    (∀ p ∈ rows, eligible p = true → Usable p) ∧ (rows.filter eligible).map (flagged icc) = flags := by
  rw [mapM_eq_ok,← List.forall_mem_filter]
  generalize hxs : rows.filter eligible = xs
  have heligible : ∀ p ∈ xs, eligible p = true := fun p hp => (List.mem_filter.mp (hxs ▸ hp)).2
  clear hxs
  induction xs generalizing flags with
  | nil => simp [eq_comm]
  | cons p xs ih =>
    cases flags with
    | nil => simp
    | cons flag flags =>
      have hxs : ∀ q ∈ xs, eligible q = true := fun q hq => heligible q (List.mem_cons_of_mem _ hq)
      rw [List.forall₂_cons,List.map_cons,List.cons.injEq,List.forall_mem_cons,and_and_and_comm]
      exact and_congr (fallsBelow_eq_ok hicc (heligible p List.mem_cons_self)) (ih hxs)

theorem block_eq_ok {b : Block} : block rows = .ok b ↔ (∀ p ∈ rows, eligible p = true → Usable p) ∧ b = {
    nRows := rows.length
    nonIdentifiable := rows.countP ungrouped
    noVerifiedEffect := (rows.countP fun p => !ungrouped p) - rows.countP eligible
    verdictEligible := rows.countP eligible
    belowThresholdByIcc := ICC_GRID.map fun icc => (icc,rows.countP fun p => eligible p && flagged icc p)
    sharedMemoryLifetime := rows.countP CodedPaper.sharedMemoryLifetime
    noPreSpecifiedRule := rows.countP fun p => p.f8DecisionRule = "none"
    noInertNull := rows.countP fun p => p.f5InertNull ∈ ["none","ablation_only","not_stated"] } := by
  have hbelow {below : List (ℚ × ℕ)} : (ICC_GRID.mapM fun icc => do
      let flags ← (rows.filter eligible).mapM (fallsBelow icc)
      return (icc,flags.countP id)) = .ok below ↔ (∀ p ∈ rows, eligible p = true → Usable p) ∧
        (ICC_GRID.map fun icc => (icc,rows.countP fun p => eligible p && flagged icc p)) = below := by
    refine mapM_const_ok (by decide) fun icc hicc row => ?_
    have hcount : ((rows.filter eligible).map (flagged icc)).countP id = rows.countP fun p => eligible p && flagged icc p := by
      rw [List.countP_map,List.countP_filter]
      exact List.countP_congr fun p _ => by simp [and_comm]
    simp only [bind_eq_ok,flags_eq_ok hicc,pure,Except.pure,Except.ok.injEq]
    constructor
    · rintro ⟨_,⟨husable,rfl⟩,rfl⟩
      exact ⟨husable,by rw [hcount]⟩
    · rintro ⟨husable,rfl⟩
      exact ⟨_,⟨husable,rfl⟩,by rw [hcount]⟩
  have hungrouped : rows.length - (rows.countP fun p => !ungrouped p) = rows.countP ungrouped := by
    rw [List.length_eq_countP_add_countP ungrouped]
    simp
  have hidentifiable : (rows.filter fun p => p.identifiabilityReason.isNone).length = rows.countP fun p => !ungrouped p := by
    simp only [identifiable_eq]
    rw [List.countP_eq_length_filter]
  simp only [block,verified_eq,hidentifiable,hungrouped,← List.countP_eq_length_filter]
  rw [bind_eq_ok]
  simp only [hbelow]
  simp only [pure,Except.pure,Except.ok.injEq]
  constructor
  · rintro ⟨_,⟨husable,rfl⟩,rfl⟩
    exact ⟨husable,rfl⟩
  · rintro ⟨husable,rfl⟩
    exact ⟨_,⟨husable,rfl⟩,rfl⟩

theorem summarize_eq_ok {papers : List CodedPaper} {summary : AuditSummary} (h : summarize papers = .ok summary) :
    block papers = .ok summary.pooled ∧
      ∀ row ∈ summary.byStratum, block (papers.filter fun p => p.stratum = row.1) = .ok row.2 := by
  simp only [summarize,bind_eq_ok,mapM_eq_ok,pure,Except.pure,Except.ok.injEq] at h
  obtain ⟨rows,hrows,pooled,hpooled,rfl⟩ := h
  refine ⟨hpooled,fun row hrow => ?_⟩
  obtain ⟨s,_,b,hb,rfl⟩ := exists_right_of_forall₂ hrows.flip hrow
  exact hb

theorem summarize_returns {papers : List CodedPaper} (h : ∀ p ∈ papers, eligible p = true → Usable p) :
    ∃ summary, summarize papers = .ok summary := by
  have hblock (rows : List CodedPaper) (hsub : ∀ p ∈ rows, p ∈ papers) : ∃ b, block rows = .ok b :=
    ⟨_,block_eq_ok.mpr ⟨fun p hp => h p (hsub p hp),rfl⟩⟩
  obtain ⟨pooled,hpooled⟩ := hblock papers fun _ => id
  have hstrata : ∃ rows, ((strata papers).mapM fun s => do
      let rows ← block (papers.filter fun p => p.stratum = s)
      return (s,rows)) = .ok rows := by
    induction strata papers with
    | nil => exact ⟨[],rfl⟩
    | cons s rest ih =>
      obtain ⟨rows,hrows⟩ := ih
      obtain ⟨b,hb⟩ := hblock (papers.filter fun p => p.stratum = s) fun p hp => (List.mem_filter.mp hp).1
      refine ⟨(s,b) :: rows,?_⟩
      rw [List.mapM_cons,hrows,hb]
      rfl
  obtain ⟨rows,hrows⟩ := hstrata
  simp only [summarize,bind_eq_ok]
  exact ⟨_,rows,hrows,pooled,hpooled,rfl⟩

end Block

section Agreement
variable {p : CodedPaper} {icc : ℚ}

theorem saysBelow_eq (hicc : icc ∈ ICC_GRID) : saysBelow icc p = true ↔
    ∃ n k, p.f1ReportedN = some n ∧ p.f2Clusters = some k ∧ (2 ≤ k ∧ k ≤ n) ∧ verdictAt p n k icc centralDiscordance = .below := by
  have hpicked : picked p none = p.f2Clusters := rfl
  rw [saysBelow]
  split
  · next cells hsurface =>
    obtain ⟨_,hnone⟩ | ⟨n,k,hn,hk,husable,hcells⟩ := surfaceFor_eq_ok.mp hsurface
    · cases hnone
    · cases hcells
      rw [hpicked] at hk
      simp only [surfaceAt,List.any_map,List.any_eq_true,Function.comp_apply,decide_eq_true_eq,cellAt]
      constructor
      · rintro ⟨point,_,rfl,hdisc,hbelow⟩
        rw [hdisc] at hbelow
        exact ⟨n,k,hn,hk,husable,hbelow⟩
      · rintro ⟨n',k',hn',hk',_,hbelow⟩
        obtain rfl := Option.some.inj (hn.symm.trans hn')
        obtain rfl := Option.some.inj (hk.symm.trans hk')
        exact ⟨(icc,centralDiscordance),List.mem_product.mpr ⟨hicc,by simp [DISCORDANCE_GRID,centralDiscordance]⟩,rfl,rfl,hbelow⟩
  · next hsurface =>
    simp only [Bool.false_eq_true,false_iff]
    rintro ⟨n,k,hn,hk,husable,_⟩
    exact hsurface _ (surfaceFor_eq_ok.mpr (.inr ⟨n,k,hn,hk,husable,rfl⟩))

theorem lessThan_eq {limit : ℝ} {effect : Number} (h : effect ≠ .float .nan) : lessThan limit effect = !atLeast limit effect := by
  cases effect with
  | int value => rw [lessThan,atLeast,← decide_not,decide_eq_decide,not_le]
  | float value =>
    cases value with
    | nan => exact absurd rfl h
    | infinite negative => simp [lessThan,atLeast]
    | finite value double => rw [lessThan,atLeast,← decide_not,decide_eq_decide,not_le]

theorem verdictAt_below {n k : ℕ} {disc : ℚ} : verdictAt p n k icc disc = .below ↔ p.claimedEffectVerified = true ∧
    ∃ effect, p.claimedEffectPp = some effect ∧ atLeast (pairedEffect n k disc icc * (100 : ℕ)) effect = false := by
  rw [verdictAt]
  cases p.claimedEffectVerified with
  | false => simp
  | true =>
    cases p.claimedEffectPp with
    | none => simp
    | some effect =>
      simp only [if_true,Option.some.injEq,true_and,exists_eq_left']
      cases atLeast (pairedEffect n k disc icc * (100 : ℕ)) effect <;> simp

theorem below_of_flagged (hicc : icc ∈ ICC_GRID) (husable : Usable p) (hclaimed : p.claimedEffectPp ≠ none)
    (h : (eligible p && flagged icc p) = true) : saysBelow icc p = true := by
  rw [Bool.and_eq_true,eligible,Bool.and_eq_true,Bool.not_eq_true'] at h
  obtain ⟨⟨hgrouped,hverified⟩,hflagged⟩ := h
  obtain ⟨n,k,hn,hk,_⟩ := grouped hgrouped
  obtain ⟨effect,heffect⟩ := Option.ne_none_iff_exists'.mp hclaimed
  rw [Usable,hn,hk] at husable
  rw [flagged,hn,hk,heffect] at hflagged
  have hne : effect ≠ .float .nan := by
    rintro rfl
    cases hflagged
  rw [Option.getD_some,Option.getD_some,Option.getD_some,lessThan_eq hne,Bool.not_eq_true'] at hflagged
  exact (saysBelow_eq hicc).mpr ⟨n,k,hn,hk,husable,verdictAt_below.mpr ⟨hverified,effect,heffect,hflagged⟩⟩

theorem flagged_of_below (hicc : icc ∈ ICC_GRID) (hnumber : p.claimedEffectPp ≠ some (.float .nan)) (h : saysBelow icc p = true) :
    (eligible p && flagged icc p) = true := by
  obtain ⟨n,k,hn,hk,husable,hbelow⟩ := (saysBelow_eq hicc).mp h
  obtain ⟨hverified,effect,heffect,hatLeast⟩ := verdictAt_below.mp hbelow
  have hne : effect ≠ .float .nan := by
    rintro rfl
    exact hnumber heffect
  have hone : k ≠ 1 := by omega
  rw [Bool.and_eq_true,eligible,flagged,hn,hk,heffect]
  refine ⟨?_,?_⟩
  · simp [ungrouped,hn,hk,Ungrouped,hone,hverified]
  · rw [Option.getD_some,Option.getD_some,Option.getD_some,lessThan_eq hne,hatLeast]
    rfl

end Agreement

section Exhibits
variable {papers : List CodedPaper} {p : CodedPaper} {n : ℕ}

theorem picked_some (k : ℕ) : picked p (some k) = some k := rfl

theorem picked_mem (count : Option ℕ) (h : count ∈ p.f2Alternatives.map AlternativeUnit.f2Clusters) :
    picked p count ∈ p.f2Clusters :: p.f2Alternatives.map AlternativeUnit.f2Clusters := by
  cases count with
  | none => exact List.mem_cons_self
  | some k => exact List.mem_cons_of_mem _ h

theorem surface_returned (h : ∀ n, p.f1ReportedN = some n → Coded p n) {clusters : Option ℕ}
    (hpicked : picked p clusters ∈ p.f2Clusters :: p.f2Alternatives.map AlternativeUnit.f2Clusters) :
    ∃ surface, surfaceFor p clusters = .ok surface := by
  cases hn : p.f1ReportedN with
  | none => exact ⟨none,surfaceFor_eq_ok.mpr (.inl ⟨.inl hn,rfl⟩)⟩
  | some n =>
    cases hk : picked p clusters with
    | none => exact ⟨none,surfaceFor_eq_ok.mpr (.inl ⟨.inr (.inl hk),rfl⟩)⟩
    | some k =>
      obtain rfl | husable := (h n hn).counts _ hpicked k hk
      · exact ⟨none,surfaceFor_eq_ok.mpr (.inl ⟨.inr (.inr hk),rfl⟩)⟩
      · exact ⟨_,surfaceFor_eq_ok.mpr (.inr ⟨n,k,hn,hk,husable,rfl⟩)⟩

theorem stability_returned (h : ∀ n, p.f1ReportedN = some n → Coded p n) : ∃ report, stabilityFor p = .ok report := by
  obtain ⟨coded,hcoded⟩ : ∃ surface, surfaceFor p none = .ok surface := surface_returned h List.mem_cons_self
  have hentries : ∀ alts : List AlternativeUnit, (∀ alt ∈ alts, alt.f2Clusters ∈ p.f2Alternatives.map AlternativeUnit.f2Clusters) →
      ∃ entries, List.Forall₂ (fun alt entry => ∃ surface, surfaceFor p alt.f2Clusters = .ok surface ∧
        alternativeEntry p alt surface = entry) alts entries := by
    intro alts halts
    induction alts with
    | nil => exact ⟨[],.nil⟩
    | cons alt alts ih =>
      obtain ⟨entries,hentries⟩ := ih fun other hother => halts other (List.mem_cons_of_mem _ hother)
      obtain ⟨surface,hsurface⟩ := surface_returned h (picked_mem _ (halts alt List.mem_cons_self))
      exact ⟨_,.cons ⟨surface,hsurface,rfl⟩ hentries⟩
  obtain ⟨entries,hentries⟩ := hentries p.f2Alternatives fun alt halt => List.mem_map_of_mem halt
  exact ⟨⟨_,_,entries⟩,stabilityFor_eq_ok.mpr ⟨coded,hcoded,rfl,rfl,hentries⟩⟩

theorem usable_of_coded (h : ∀ n, p.f1ReportedN = some n → Coded p n) (heligible : eligible p = true) : Usable p := by
  rw [eligible,Bool.and_eq_true,Bool.not_eq_true'] at heligible
  obtain ⟨n,k,hn,hk,hone⟩ := grouped heligible.1
  rw [Usable,hn,hk]
  exact ((h n hn).counts _ List.mem_cons_self k hk).resolve_left hone

theorem unclaimed_unsurfaced (h : ∀ n, p.f1ReportedN = some n → Coded p n) (hverified : p.claimedEffectVerified = true)
    (hclaimed : p.claimedEffectPp = none) {clusters : Option ℕ}
    (hpicked : picked p clusters ∈ p.f2Clusters :: p.f2Alternatives.map AlternativeUnit.f2Clusters) {surface : Option (List Cell)}
    (hsurface : surfaceFor p clusters = .ok surface) : surface = none := by
  obtain ⟨_,rfl⟩ | ⟨n,k,hn,hk,husable,rfl⟩ := surfaceFor_eq_ok.mp hsurface
  · rfl
  · have hungrouped := (h n hn).claimed hverified hclaimed _ hpicked
    rw [hk] at hungrouped
    obtain hbad | hbad := hungrouped
    · cases hbad
    · cases hbad
      omega

theorem blockAgrees {rows : List CodedPaper} (h : ∀ p ∈ rows, ∀ n, p.f1ReportedN = some n → Coded p n) {b : Block}
    (hb : block rows = .ok b) : BlockAgrees rows b := by
  obtain ⟨husable,rfl⟩ := block_eq_ok.mp hb
  have hclaimed : ∀ p ∈ rows, eligible p = true → p.claimedEffectPp ≠ none := by
    intro p hp heligible hnone
    rw [eligible,Bool.and_eq_true,Bool.not_eq_true'] at heligible
    obtain ⟨n,k,hn,hk,hone⟩ := grouped heligible.1
    have hungrouped := (h p hp n hn).claimed heligible.2 hnone _ List.mem_cons_self
    rw [hk] at hungrouped
    obtain hbad | hbad := hungrouped
    · cases hbad
    · exact hone (Option.some.inj hbad)
  exact {
    nonIdentifiable := List.countP_congr fun p _ => by rw [ungrouped]
    eligible := by
      refine List.countP_congr fun p hp => ?_
      rw [decide_eq_true_eq,eligible,Bool.and_eq_true,Bool.not_eq_true',ungrouped,decide_eq_false_iff_not,CodedPaper.verifiedEffect,
        Bool.and_eq_true]
      refine and_congr_right fun hgrouped => ⟨fun hverified => ⟨hverified,?_⟩,And.left⟩
      refine Option.isSome_iff_ne_none.mpr (hclaimed p hp ?_)
      rw [eligible,ungrouped,hverified]
      simpa using hgrouped
    below := by
      refine List.map_congr_left fun icc hicc => ?_
      congr 1
      refine List.countP_congr fun p hp => ⟨fun hflag => ?_,fun hbelow => ?_⟩
      · have heligible := (Bool.and_eq_true _ _ ▸ hflag).1
        exact below_of_flagged hicc (husable p hp heligible) (hclaimed p hp heligible) hflag
      · refine flagged_of_below hicc (fun hnan => ?_) hbelow
        obtain ⟨n,k,hn,hk,husable,hverdict⟩ := (saysBelow_eq hicc).mp hbelow
        have hungrouped := (h p hp n hn).number (verdictAt_below.mp hverdict).1 hnan
        rw [hk] at hungrouped
        obtain hbad | hbad := hungrouped
        · cases hbad
        · cases hbad
          omega }

theorem exhibits_of_coded (h : ∀ p ∈ papers, ∀ n, p.f1ReportedN = some n → Coded p n) : ExhibitsAgree papers where
  returned := by
    refine ⟨fun p hp => ⟨surface_returned (h p hp) List.mem_cons_self,stability_returned (h p hp)⟩,?_⟩
    exact summarize_returns fun p hp => usable_of_coded (h p hp)
  unverified := by
    intro p hp hunverified
    rw [CodedPaper.verifiedEffect] at hunverified
    constructor
    · intro clusters cells hcells cell hcell
      obtain ⟨_,hnone⟩ | ⟨n,k,_,_,_,hsome⟩ := surfaceFor_eq_ok.mp hcells
      · cases hnone
      · cases hsome
        obtain ⟨point,_,rfl⟩ := List.mem_map.mp hcell
        rw [cellAt,verdictAt]
        cases hverified : p.claimedEffectVerified with
        | false => simp
        | true =>
          cases hclaimed : p.claimedEffectPp with
          | none => simp
          | some effect => simp [hverified,hclaimed] at hunverified
    · intro report hreport
      obtain ⟨coded,hcoded,_,hentry,hentries⟩ := stabilityFor_eq_ok.mp hreport
      have hundecided (surface : Option (List Cell)) {clusters : Option ℕ} (hsurface : surfaceFor p clusters = .ok surface)
          (hpicked : picked p clusters ∈ p.f2Clusters :: p.f2Alternatives.map AlternativeUnit.f2Clusters) :
          surface = none ∨ p.claimedEffectVerified = false := by
        cases hverified : p.claimedEffectVerified with
        | false => exact .inr rfl
        | true =>
          rw [hverified,Bool.true_and,Option.isSome_eq_false_iff,Option.isNone_iff_eq_none] at hunverified
          exact .inl (unclaimed_unsurfaced (h p hp) hverified hunverified hpicked hsurface)
      constructor
      · rw [← hentry]
        obtain rfl | hverified := hundecided coded hcoded List.mem_cons_self
        · exact .inl rfl
        · cases coded with
          | none => exact .inl rfl
          | some cells => exact codedEntry_undecided.mpr hverified
      · intro entry hmem
        obtain ⟨alt,halt,surface,hsurface,rfl⟩ := exists_right_of_forall₂ hentries.flip hmem
        obtain rfl | hverified := hundecided surface hsurface (picked_mem _ (List.mem_map_of_mem halt))
        · exact .inl rfl
        · cases surface with
          | none => exact .inl rfl
          | some cells => exact alternativeEntry_undecided.mpr hverified
  ungrouped := by
    intro p hp report hreport
    obtain ⟨coded,hcoded,_,hentry,hentries⟩ := stabilityFor_eq_ok.mp hreport
    refine ⟨fun hungrouped => ?_,hentries.length_eq.symm,?_⟩
    · have hnone : surfaceFor p none = .ok none := surfaceFor_eq_ok.mpr (.inl ⟨.inr hungrouped,rfl⟩)
      rw [hnone] at hcoded
      cases hcoded
      exact ⟨hnone,hentry ▸ rfl⟩
    · intro entry hmem hungrouped
      obtain ⟨alt,halt,surface,hsurface,rfl⟩ := exists_right_of_forall₂ hentries.flip hmem
      rw [alternativeEntry_clusters] at hungrouped
      rw [alternativeEntry_nonIdentifiable]
      obtain ⟨_,rfl⟩ | ⟨n,k,hn,hk,husable,rfl⟩ := surfaceFor_eq_ok.mp hsurface
      · rfl
      · exfalso
        obtain hnone | hone := hungrouped
        · rw [hnone] at hk
          obtain hbad | hbad := (h p hp n hn).stated (hnone ▸ List.mem_map_of_mem halt)
          · rw [picked,if_pos rfl,hbad] at hk
            cases hk
          · rw [picked,if_pos rfl,hbad] at hk
            cases hk
            omega
        · rw [hone] at hk
          cases hk
          omega
  summarized := by
    intro summary hsummary
    obtain ⟨hpooled,hstrata⟩ := summarize_eq_ok hsummary
    refine ⟨blockAgrees h hpooled,fun row hrow => blockAgrees (fun p hp => h p (List.mem_filter.mp hp).1) (hstrata row hrow)⟩

theorem countP_matched {A : Type} {less more : A → Bool} {xs : List A} (hle : ∀ x ∈ xs, less x = true → more x = true)
    (h : xs.countP less = xs.countP more) : ∀ x ∈ xs, more x = true → less x = true := by
  induction xs with
  | nil => exact fun x hx => absurd hx List.not_mem_nil
  | cons x xs ih =>
    have hrest := List.countP_mono_left fun y hy => hle y (List.mem_cons_of_mem _ hy)
    rw [List.countP_cons,List.countP_cons] at h
    have hx := hle x List.mem_cons_self
    have hboth : (more x = true → less x = true) ∧ xs.countP less = xs.countP more := by
      cases hless : less x with
      | true =>
        simp only [hless,hx hless,if_true] at h
        exact ⟨fun _ => rfl,by omega⟩
      | false =>
        cases hmore : more x with
        | true =>
          simp only [hless,hmore,if_true,Bool.false_eq_true,if_false] at h
          omega
        | false =>
          simp only [hless,hmore,Bool.false_eq_true,if_false] at h
          exact ⟨fun hbad => hbad,by omega⟩
    rw [List.forall_mem_cons]
    exact ⟨hboth.1,ih (fun y hy => hle y (List.mem_cons_of_mem _ hy)) hboth.2⟩

theorem usable_of_surface {clusters : Option ℕ} {surface : Option (List Cell)} (hn : p.f1ReportedN = some n)
    (hsurface : surfaceFor p clusters = .ok surface) :
    Ungrouped (picked p clusters) ∧ surface = none ∨
      ∃ k, picked p clusters = some k ∧ (2 ≤ k ∧ k ≤ n) ∧ surface = some (surfaceAt p n k) := by
  obtain ⟨hbad | hungrouped,hnone⟩ | ⟨n',k,hn',hk,husable,hsome⟩ := surfaceFor_eq_ok.mp hsurface
  · rw [hn] at hbad
    cases hbad
  · exact .inl ⟨hungrouped,hnone⟩
  · obtain rfl := Option.some.inj (hn.symm.trans hn')
    exact .inr ⟨k,hk,husable,hsome⟩

theorem entry_of_alternative {report : Stability} (hreport : stabilityFor p = .ok report) {count : Option ℕ}
    (h : count ∈ p.f2Alternatives.map AlternativeUnit.f2Clusters) : ∃ alt surface, alt.f2Clusters = count ∧
      surfaceFor p count = .ok surface ∧ alternativeEntry p alt surface ∈ report.alternatives := by
  obtain ⟨_,_,_,_,hentries⟩ := stabilityFor_eq_ok.mp hreport
  obtain ⟨alt,halt,rfl⟩ := List.mem_map.mp h
  obtain ⟨entry,hmem,surface,hsurface,rfl⟩ := exists_right_of_forall₂ hentries halt
  exact ⟨alt,surface,rfl,hsurface,hmem⟩

theorem claimed_of_exhibits (h : ExhibitsAgree papers) (hp : p ∈ papers) (hn : p.f1ReportedN = some n)
    (hverified : p.claimedEffectVerified = true) (hclaimed : p.claimedEffectPp = none) :
    ∀ count ∈ p.f2Clusters :: p.f2Alternatives.map AlternativeUnit.f2Clusters, Ungrouped count := by
  obtain ⟨report,hreport⟩ := (h.returned.1 p hp).2
  obtain ⟨hcodedStatus,halternatives⟩ := (h.unverified p hp (by rw [CodedPaper.verifiedEffect,hclaimed,Option.isSome_none,Bool.and_false])).2
    report hreport
  obtain ⟨coded,hcoded,_,hentry,_⟩ := stabilityFor_eq_ok.mp hreport
  rw [List.forall_mem_cons]
  constructor
  · obtain ⟨hungrouped,_⟩ | ⟨k,_,_,rfl⟩ := usable_of_surface hn hcoded
    · exact hungrouped
    · rw [← hentry,codedEntry_undecided,hverified] at hcodedStatus
      cases hcodedStatus
  · intro count hcount
    cases count with
    | none => exact .inl rfl
    | some k =>
      obtain ⟨alt,surface,_,hsurface,hmem⟩ := entry_of_alternative hreport hcount
      obtain ⟨hungrouped,_⟩ | ⟨_,_,_,rfl⟩ := usable_of_surface hn hsurface
      · exact hungrouped
      · have hstatus := halternatives _ hmem
        rw [alternativeEntry_undecided,hverified] at hstatus
        cases hstatus

theorem number_of_exhibits (h : ExhibitsAgree papers) (hp : p ∈ papers) (hn : p.f1ReportedN = some n)
    (hverified : p.claimedEffectVerified = true) (hnan : p.claimedEffectPp = some (.float .nan)) : Ungrouped p.f2Clusters := by
  obtain ⟨summary,hsummary⟩ := h.returned.2
  have hpooled := (summarize_eq_ok hsummary).1
  obtain ⟨husable,hblock⟩ := block_eq_ok.mp hpooled
  obtain ⟨surface,hsurface⟩ := (h.returned.1 p hp).1
  obtain ⟨hungrouped,_⟩ | ⟨k,hk,hrange,_⟩ := usable_of_surface hn hsurface
  · exact hungrouped
  · exfalso
    have hicc : (1 : ℚ) ∈ ICC_GRID := by simp [ICC_GRID]
    have hbelow := (h.summarized summary hsummary).1.below
    rw [hblock] at hbelow
    have hcount := congrArg Prod.snd (List.map_inj_left.mp hbelow 1 hicc)
    have hmatched := countP_matched (fun q hq hflag => ?_) hcount p hp ?_
    · rw [Bool.and_eq_true,flagged,hnan] at hmatched
      cases hmatched.2
    · have heligible := (Bool.and_eq_true _ _ ▸ hflag).1
      refine below_of_flagged hicc (husable q hq heligible) (fun hnone => ?_) hflag
      rw [eligible,Bool.and_eq_true,Bool.not_eq_true'] at heligible
      obtain ⟨m,k',hm,hk',hone⟩ := grouped heligible.1
      have hungrouped := claimed_of_exhibits h hq hm heligible.2 hnone _ List.mem_cons_self
      rw [hk'] at hungrouped
      obtain hbad | hbad := hungrouped
      · cases hbad
      · exact hone (Option.some.inj hbad)
    · exact (saysBelow_eq hicc).mpr ⟨n,k,hn,hk,hrange,verdictAt_below.mpr ⟨hverified,_,hnan,rfl⟩⟩

theorem coded_of_exhibits (h : ExhibitsAgree papers) (hp : p ∈ papers) (hn : p.f1ReportedN = some n) : Coded p n := by
  obtain ⟨report,hreport⟩ := (h.returned.1 p hp).2
  obtain ⟨coded,hcoded,_,hentry,_⟩ := stabilityFor_eq_ok.mp hreport
  refine ⟨?_,?_,claimed_of_exhibits h hp hn,number_of_exhibits h hp hn⟩
  · have hrange {count : Option ℕ} {clusters : Option ℕ} {surface : Option (List Cell)} (hsurface : surfaceFor p clusters = .ok surface)
        (hpicked : picked p clusters = count) : ∀ k, count = some k → k = 1 ∨ 2 ≤ k ∧ k ≤ n := by
      rintro k rfl
      obtain ⟨hungrouped,_⟩ | ⟨k',hk',husable,_⟩ := usable_of_surface hn hsurface
      · rw [hpicked] at hungrouped
        obtain hbad | hone := hungrouped
        · cases hbad
        · exact .inl (Option.some.inj hone)
      · obtain rfl := Option.some.inj (hpicked.symm.trans hk')
        exact .inr husable
    rw [List.forall_mem_cons]
    refine ⟨hrange hcoded rfl,fun count hcount k hk => ?_⟩
    obtain ⟨_,_,_,hsurface,_⟩ := entry_of_alternative hreport hcount
    refine hrange hsurface ?_ k hk
    rw [hk,picked_some]
  · intro hnone
    obtain ⟨alt,surface,halt,hsurface,hmem⟩ := entry_of_alternative hreport hnone
    have hstatus := ((h.ungrouped p hp report hreport).2.2 _ hmem) (by rw [alternativeEntry_clusters,halt]; exact .inl rfl)
    rw [alternativeEntry_nonIdentifiable] at hstatus
    obtain ⟨hungrouped,_⟩ | ⟨_,_,_,hsome⟩ := usable_of_surface hn hsurface
    · exact hungrouped
    · rw [hstatus] at hsome
      cases hsome

end Exhibits

theorem exhibits_agree_iff (papers : List CodedPaper) :
    ExhibitsAgree papers ↔ ∀ p ∈ papers, ∀ n, p.f1ReportedN = some n → Coded p n :=
  ⟨fun h _ hp _ hn => coded_of_exhibits h hp hn,exhibits_of_coded⟩

def unclaimedPaper : CodedPaper where
  label := "memory"
  stratum := "system"
  f1ReportedN := some 100
  f2Clusters := some 10
  f5InertNull := "not_stated"
  f8DecisionRule := "none"
  claimedEffectPp := none
  claimedEffectVerified := true
  f2Alternatives := []
  sharedMemoryLifetime := false

theorem unclaimed_counted_below : ¬ExhibitsAgree [unclaimedPaper] := by
  intro h
  have hungrouped := (coded_of_exhibits h List.mem_cons_self (show unclaimedPaper.f1ReportedN = some 100 from rfl)).claimed
    rfl rfl _ List.mem_cons_self
  obtain hbad | hbad := hungrouped
  · cases hbad
  · cases hbad

end

end PneumaLab.Audit
