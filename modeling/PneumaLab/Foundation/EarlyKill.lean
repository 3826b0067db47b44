import PneumaLab.Exceptions
import PneumaLab.Library.InvertedIndex
import PneumaLab.Library.Keyed
import PneumaLab.Library.RankOrder
import PneumaLab.Library.Values

namespace PneumaLab.Foundation

open InvertedIndex RankOrder

def REQUIRED_VARIANTS : List String := ["untouched_qwen","continued_deltanet","feed_forward_adapter","pneuma_recurrent"]

def MIN_ABSOLUTE_IMPROVEMENT : ℚ := 2 / 100

def MAX_GENERAL_REGRESSION_POINTS : ℚ := 1

def MAX_FLOPS_OVERHEAD : ℚ := Rounding.nearest (20 / 100)

def MAX_P95_LATENCY_OVERHEAD : ℚ := 25 / 100

def MAX_VARIANT_VRAM_GB : ℚ := 75 / 10

def MAX_VARIANT_RAM_GB : ℚ := 24

structure VariantResult where
  name : String
  taskIds : List String
  repos : List String
  resolved : List Bool
  repoDisjoint : Bool
  flopsOverhead : PyFloat
  p95LatencyOverhead : PyFloat
  peakVramGb : PyFloat
  peakRamGb : PyFloat
  generalRegressionPoints : PyFloat
  functioningExploits : ℤ
deriving DecidableEq

def fmean (values : List ℚ) : ℚ := values.sum / values.length

def outcome (resolved : Bool) : ℚ := if resolved then 1 else 0

def VariantResult.resolvedRate (r : VariantResult) : ℚ := fmean (r.resolved.map outcome)

structure FalsificationDecision where
  kill : Bool
  strongestBaseline : String
  absoluteImprovement : ℚ
  ci95Lower : ℚ
  ci95Upper : ℚ
  failures : List String

structure BootstrapStream where
  randrange : ℕ → ℕ → ℕ
  bounded : ∀ call n, 0 < n → randrange call n < n

def bootstrapEstimates (stream : BootstrapStream) (differences : List ℚ) (samples : ℕ) : List ℚ :=
  (List.range samples).map fun s => fmean ((List.range differences.length).map fun j =>
    differences.getD (stream.randrange (s * differences.length + j) differences.length) 0)

def pairedBootstrapCi (stream : BootstrapStream) (recurrent baseline : List Bool) (samples : ℤ) : Py (ℚ × ℚ) := do
  demand (decide (100 ≤ samples)) (.valueError "bootstrap_samples must be at least 100")
  demand (decide (recurrent.length = baseline.length ∧ recurrent ≠ []))
    (.valueError "paired resolved outcomes must be non-empty and aligned")
  let differences := (recurrent.zip baseline).map fun pair => outcome pair.1 - outcome pair.2
  let estimates := sortBy id (bootstrapEstimates stream differences samples.toNat)
  return (estimates.getD ((estimates.length - 1) * 25 / 1000) 0,estimates.getD ((estimates.length - 1) * 975 / 1000) 0)

abbrev Variants := List (String × VariantResult)

def mapped (results : List VariantResult) : Variants :=
  results.foldl (fun dict r => setDefault r (fun _ => r) dict r.name) []

def variant (dict : Variants) (name : String) : Py VariantResult := required (.keyError name) (dict.lookup name)

def checkPaired (recurrent result : VariantResult) : Py Unit := do
  demand (decide (result.taskIds = recurrent.taskIds ∧ result.repos = recurrent.repos))
    (.valueError "all variants must use the same paired tasks and repos")
  demand (decide (result.resolved.length = result.taskIds.length))
    (.valueError s!"{result.name} outcomes do not align with task_ids")

def validateVariants (results : List VariantResult) : Py Variants := do
  let dict := mapped results
  demand (decide ((dict.map Prod.fst).toFinset = REQUIRED_VARIANTS.toFinset))
    (.valueError ("results must contain exactly " ++
      "('untouched_qwen', 'continued_deltanet', 'feed_forward_adapter', 'pneuma_recurrent')"))
  let recurrent ← variant dict "pneuma_recurrent"
  demand (decide (recurrent.taskIds ≠ [] ∧ recurrent.taskIds.length = recurrent.resolved.length))
    (.valueError "pneuma_recurrent task_ids and outcomes must align")
  demand (decide (recurrent.repos.length = recurrent.taskIds.length))
    (.valueError "pneuma_recurrent repos and task_ids must align")
  (dict.map Prod.snd).forM (checkPaired recurrent)
  return dict

def tiePriority (name : String) : Py ℕ :=
  required (.keyError name) ([("untouched_qwen",0),("feed_forward_adapter",1),("continued_deltanet",2)].lookup name)

def ranked (dict : Variants) (name : String) : Py (VariantResult × (ℚ ×ₗ ℕ)) := do
  let item ← variant dict name
  return (item,toLex (item.resolvedRate,← tiePriority item.name))

def strongestBaseline (dict : Variants) : Py VariantResult := do
  let items ← REQUIRED_VARIANTS.dropLast.mapM (ranked dict)
  let best ← required (.valueError "max() iterable argument is empty") (items.argmax Prod.snd)
  return best.1

def clause (failed : Bool) (name : String) : List String := if failed then [name] else []

def gateFailures (dict : Variants) (recurrent : VariantResult) (improvement lower : ℚ) : List String :=
  clause (decide (improvement < MIN_ABSOLUTE_IMPROVEMENT)) "absolute_improvement" ++
  clause (decide (lower ≤ 0)) "bootstrap_ci_not_above_zero" ++
  clause (!dict.all fun row => row.2.repoDisjoint) "repo_disjointness" ++
  clause (recurrent.flopsOverhead.gt MAX_FLOPS_OVERHEAD) "flops_overhead" ++
  clause (recurrent.p95LatencyOverhead.gt MAX_P95_LATENCY_OVERHEAD) "p95_latency_overhead" ++
  clause (recurrent.peakVramGb.gt MAX_VARIANT_VRAM_GB) "peak_vram" ++
  clause (recurrent.peakRamGb.gt MAX_VARIANT_RAM_GB) "peak_ram" ++
  clause (recurrent.generalRegressionPoints.gt MAX_GENERAL_REGRESSION_POINTS) "general_capability_regression" ++
  clause (dict.any fun row => row.2.functioningExploits ≠ 0) "functioning_exploit"

def evaluateEarlyKillGate (results : List VariantResult) (samples : ℤ) (stream : BootstrapStream) : Py FalsificationDecision := do
  let dict ← validateVariants results
  let recurrent ← variant dict "pneuma_recurrent"
  let baseline ← strongestBaseline dict
  let improvement := recurrent.resolvedRate - baseline.resolvedRate
  let ci ← pairedBootstrapCi stream recurrent.resolved baseline.resolved samples
  let failures := gateFailures dict recurrent improvement ci.1
  return ⟨!failures.isEmpty,baseline.name,improvement,ci.1,ci.2,failures⟩

def figures (r : VariantResult) : List (PyFloat × ℚ) :=
  [(r.flopsOverhead,MAX_FLOPS_OVERHEAD),(r.p95LatencyOverhead,MAX_P95_LATENCY_OVERHEAD),(r.peakVramGb,MAX_VARIANT_VRAM_GB),
    (r.peakRamGb,MAX_VARIANT_RAM_GB),(r.generalRegressionPoints,MAX_GENERAL_REGRESSION_POINTS)]

structure Promotable (results : List VariantResult) (samples : ℤ) (stream : BootstrapStream) : Prop where
  oneEach : (results.map VariantResult.name).Perm REQUIRED_VARIANTS
  tasks : ∃ tasks : List String, tasks ≠ [] ∧ tasks.Nodup ∧ ∀ r ∈ results, r.taskIds = tasks
  improved : ∀ r ∈ results, r.name = "pneuma_recurrent" → ∀ b ∈ results, b.name ≠ "pneuma_recurrent" →
    b.resolvedRate + MIN_ABSOLUTE_IMPROVEMENT ≤ r.resolvedRate
  lower : ∀ r ∈ results, r.name = "pneuma_recurrent" → ∃ b ∈ results, b.name ≠ "pneuma_recurrent" ∧
    (∀ c ∈ results, c.name ≠ "pneuma_recurrent" → c.resolvedRate ≤ b.resolvedRate) ∧
      ∃ lower upper, pairedBootstrapCi stream r.resolved b.resolved samples = .ok (lower,upper) ∧ 0 < lower
  bounded : ∀ r ∈ results, r.name = "pneuma_recurrent" → ∀ figure ∈ figures r, figure.1.le figure.2 = true
  disjoint : ∀ r ∈ results, r.repoDisjoint = true
  unexploited : ∀ r ∈ results, r.functioningExploits = 0

def FailsClosed (results : List VariantResult) (samples : ℤ) (stream : BootstrapStream) : Prop :=
  ∀ decision, evaluateEarlyKillGate results samples stream = .ok decision → decision.kill = false →
    Promotable results samples stream

structure Passes (results : List VariantResult) (samples : ℤ) (stream : BootstrapStream) (recurrent baseline : VariantResult) :
    Prop where
  names : ((mapped results).map Prod.fst).toFinset = REQUIRED_VARIANTS.toFinset
  found : (mapped results).lookup "pneuma_recurrent" = some recurrent
  tasks : recurrent.taskIds ≠ [] ∧ recurrent.taskIds.length = recurrent.resolved.length
  repos : recurrent.repos.length = recurrent.taskIds.length
  paired : ∀ row ∈ mapped results, (row.2.taskIds = recurrent.taskIds ∧ row.2.repos = recurrent.repos) ∧
    row.2.resolved.length = row.2.taskIds.length
  strongest : strongestBaseline (mapped results) = .ok baseline
  improvement : MIN_ABSOLUTE_IMPROVEMENT ≤ recurrent.resolvedRate - baseline.resolvedRate
  lower : ∃ lower upper, pairedBootstrapCi stream recurrent.resolved baseline.resolved samples = .ok (lower,upper) ∧ 0 < lower
  disjoint : ∀ row ∈ mapped results, row.2.repoDisjoint = true
  bounded : ∀ figure ∈ figures recurrent, figure.1.gt figure.2 = false
  unexploited : ∀ row ∈ mapped results, row.2.functioningExploits = 0

structure Distinct (results : List VariantResult) : Prop where
  names : (results.map VariantResult.name).Nodup
  tasks : ∀ r ∈ results, r.taskIds.Nodup
  numbers : ∀ r ∈ results, r.name = "pneuma_recurrent" → ∀ figure ∈ figures r, figure.1 ≠ .nan

theorem clause_eq_nil {failed : Bool} {name : String} : clause failed name = [] ↔ failed = false := by
  cases failed <;> simp [clause]

theorem gateFailures_eq_nil {dict : Variants} {recurrent : VariantResult} {improvement lower : ℚ} :
    gateFailures dict recurrent improvement lower = [] ↔
      MIN_ABSOLUTE_IMPROVEMENT ≤ improvement ∧ 0 < lower ∧ (∀ row ∈ dict, row.2.repoDisjoint = true) ∧
        (∀ figure ∈ figures recurrent, figure.1.gt figure.2 = false) ∧ ∀ row ∈ dict, row.2.functioningExploits = 0 := by
  simp only [gateFailures,figures,List.append_eq_nil_iff,clause_eq_nil,List.forall_mem_cons,decide_eq_false_iff_not,not_lt,not_le,
    Bool.not_eq_false',List.all_eq_true,List.any_eq_false,decide_eq_true_eq,not_not]
  simp [and_assoc]

section Gate
variable {results : List VariantResult} {samples : ℤ} {stream : BootstrapStream}

theorem validateVariants_eq_ok {dict : Variants} : validateVariants results = .ok dict ↔
    mapped results = dict ∧ ((mapped results).map Prod.fst).toFinset = REQUIRED_VARIANTS.toFinset ∧
      ∃ recurrent, (mapped results).lookup "pneuma_recurrent" = some recurrent ∧
        (recurrent.taskIds ≠ [] ∧ recurrent.taskIds.length = recurrent.resolved.length) ∧
        recurrent.repos.length = recurrent.taskIds.length ∧
        ∀ row ∈ mapped results, (row.2.taskIds = recurrent.taskIds ∧ row.2.repos = recurrent.repos) ∧
          row.2.resolved.length = row.2.taskIds.length := by
  have hpaired (recurrent : VariantResult) : (((mapped results).map Prod.snd).forM (checkPaired recurrent) = .ok ()) ↔
      ∀ row ∈ mapped results, (row.2.taskIds = recurrent.taskIds ∧ row.2.repos = recurrent.repos) ∧
        row.2.resolved.length = row.2.taskIds.length := by
    rw [forM_eq_ok,List.forall_mem_map]
    simp only [checkPaired,bind_eq_ok,demand_eq_ok,decide_eq_true_eq,exists_const]
  simp only [validateVariants,variant,bind_eq_ok,demand_eq_ok,required_eq_ok,decide_eq_true_eq,exists_const,pure,Except.pure,
    Except.ok.injEq]
  constructor
  · rintro ⟨hnames,recurrent,hfound,htasks,hrepos,⟨⟩,hrows,rfl⟩
    exact ⟨rfl,hnames,recurrent,hfound,htasks,hrepos,(hpaired recurrent).mp hrows⟩
  · rintro ⟨rfl,hnames,recurrent,hfound,htasks,hrepos,hrows⟩
    exact ⟨hnames,recurrent,hfound,htasks,hrepos,(),(hpaired recurrent).mpr hrows,rfl⟩

theorem evaluate_passes : (∃ decision, evaluateEarlyKillGate results samples stream = .ok decision ∧ decision.kill = false) ↔
    ∃ recurrent baseline, Passes results samples stream recurrent baseline := by
  simp only [evaluateEarlyKillGate,variant,bind_eq_ok,required_eq_ok,validateVariants_eq_ok,pure,Except.pure,Except.ok.injEq]
  constructor
  · rintro ⟨_,⟨_,⟨rfl,hnames,recurrent,hfound,htasks,hrepos,hpaired⟩,recurrent',hfound',baseline,hstrongest,⟨lower,upper⟩,hci,rfl⟩,
      hkill⟩
    obtain rfl := Option.some.inj (hfound.symm.trans hfound')
    have hnone : gateFailures (mapped results) recurrent (recurrent.resolvedRate - baseline.resolvedRate) lower = [] := by
      simpa using hkill
    obtain ⟨himprovement,hlower,hdisjoint,hbounded,hunexploited⟩ := gateFailures_eq_nil.mp hnone
    exact ⟨recurrent,baseline,hnames,hfound,htasks,hrepos,hpaired,hstrongest,himprovement,⟨lower,upper,hci,hlower⟩,hdisjoint,
      hbounded,hunexploited⟩
  · rintro ⟨recurrent,baseline,h⟩
    obtain ⟨lower,upper,hci,hlower⟩ := h.lower
    have hnone := gateFailures_eq_nil.mpr ⟨h.improvement,hlower,h.disjoint,h.bounded,h.unexploited⟩
    refine ⟨_,⟨_,⟨rfl,h.names,recurrent,h.found,h.tasks,h.repos,h.paired⟩,recurrent,h.found,baseline,h.strongest,_,hci,rfl⟩,?_⟩
    rw [hnone]
    rfl

theorem mapped_append (dict : Variants) (hnew : ∀ r ∈ results, r.name ∉ dict.map Prod.fst)
    (h : (results.map VariantResult.name).Nodup) :
    results.foldl (fun dict r => setDefault r (fun _ => r) dict r.name) dict = dict ++ results.map fun r => (r.name,r) := by
  induction results generalizing dict with
  | nil => simp
  | cons r results ih =>
    obtain ⟨hfresh,hrest⟩ := List.nodup_cons.mp h
    have happend : setDefault r (fun _ => r) dict r.name = dict ++ [(r.name,r)] := by
      have hr := hnew r List.mem_cons_self
      clear ih hnew
      induction dict with
      | nil => rfl
      | cons row dict ih =>
        simp only [List.map_cons,List.mem_cons,not_or] at hr
        rw [setDefault,if_neg (Ne.symm hr.1),ih hr.2,List.cons_append]
    rw [List.foldl_cons,happend,ih _ _ hrest,List.map_cons,List.append_assoc,List.singleton_append]
    intro r' hr'
    rw [List.map_append,List.mem_append,not_or]
    refine ⟨hnew r' (List.mem_cons_of_mem _ hr'),?_⟩
    rw [List.map_singleton,List.mem_singleton]
    intro he
    exact hfresh (show r.name ∈ _ from (show r'.name = r.name from he) ▸ List.mem_map_of_mem hr')

theorem mapped_eq (h : (results.map VariantResult.name).Nodup) : mapped results = results.map fun r => (r.name,r) :=
  (mapped_append [] (by simp) h).trans (List.nil_append _)

theorem baseline_names {name : String} (h : name ∈ REQUIRED_VARIANTS.dropLast) : name ≠ "pneuma_recurrent" := by
  revert name
  decide

theorem strongest_spec {dict : Variants} {baseline : VariantResult} (h : strongestBaseline dict = .ok baseline) :
    (∃ name ∈ REQUIRED_VARIANTS.dropLast, dict.lookup name = some baseline) ∧
      ∀ name ∈ REQUIRED_VARIANTS.dropLast, ∃ item, dict.lookup name = some item ∧ item.resolvedRate ≤ baseline.resolvedRate := by
  simp only [strongestBaseline,bind_eq_ok,mapM_eq_ok,required_eq_ok,pure,Except.pure,Except.ok.injEq] at h
  obtain ⟨items,hitems,best,hbest,rfl⟩ := h
  have hranked {name : String} {item : VariantResult × (ℚ ×ₗ ℕ)} (hitem : ranked dict name = .ok item) :
      dict.lookup name = some item.1 ∧ (ofLex item.2).1 = item.1.resolvedRate := by
    simp only [ranked,variant,bind_eq_ok,required_eq_ok,pure,Except.pure,Except.ok.injEq] at hitem
    obtain ⟨r,hr,priority,_,rfl⟩ := hitem
    exact ⟨hr,rfl⟩
  constructor
  · obtain ⟨name,hname,hitem⟩ := exists_right_of_forall₂ hitems.flip (List.argmax_mem hbest)
    exact ⟨name,hname,(hranked hitem).1⟩
  · intro name hname
    obtain ⟨item,hmem,hitem⟩ := exists_right_of_forall₂ hitems hname
    obtain ⟨name',_,hbest'⟩ := exists_right_of_forall₂ hitems.flip (List.argmax_mem hbest)
    have hle := Prod.Lex.monotone_fst_ofLex (List.le_of_mem_argmax hmem hbest)
    refine ⟨item.1,(hranked hitem).1,?_⟩
    rw [← (hranked hitem).2,← (hranked hbest').2]
    exact hle

theorem le_of_not_gt {figure : PyFloat} {limit : ℚ} (hnan : figure ≠ .nan) (h : figure.gt limit = false) : figure.le limit = true := by
  cases figure with
  | nan => exact absurd rfl hnan
  | infinite negative => simpa [PyFloat.gt,PyFloat.le] using h
  | finite value double => simpa [PyFloat.gt,PyFloat.le] using h

theorem promotable_of_passes {recurrent baseline : VariantResult} (h : Passes results samples stream recurrent baseline)
    (hdistinct : Distinct results) : Promotable results samples stream := by
  have hmapped := mapped_eq hdistinct.names
  have hnodup : (((mapped results)).map Prod.fst).Nodup := by
    rw [hmapped,List.map_map]
    exact hdistinct.names
  have hrow {r : VariantResult} (hr : r ∈ results) : (r.name,r) ∈ mapped results := by
    rw [hmapped]
    exact List.mem_map_of_mem hr
  have hunrow {name : String} {r : VariantResult} (hr : (mapped results).lookup name = some r) : r ∈ results ∧ r.name = name := by
    have hmem := mem_of_lookup hr
    rw [hmapped] at hmem
    obtain ⟨r',hr',heq⟩ := List.mem_map.mp hmem
    cases heq
    exact ⟨hr',rfl⟩
  have hlookup {r : VariantResult} (hr : r ∈ results) : (mapped results).lookup r.name = some r := lookup_of_mem hnodup (hrow hr)
  have hname {r : VariantResult} (hr : r ∈ results) : r.name ∈ REQUIRED_VARIANTS := by
    rw [← List.mem_toFinset,← h.names,List.mem_toFinset]
    exact List.mem_map_of_mem (hrow hr)
  have hrecurrent {r : VariantResult} (hr : r ∈ results) (hr' : r.name = "pneuma_recurrent") : r = recurrent := by
    have hself := hlookup hr
    rw [hr',h.found] at hself
    exact (Option.some.inj hself).symm
  have hothers {name : String} (hn : name ∈ REQUIRED_VARIANTS) (hne : name ≠ "pneuma_recurrent") : name ∈ REQUIRED_VARIANTS.dropLast := by
    revert name
    decide
  obtain ⟨⟨name,hbaseline,hbaselineRow⟩,hstrongest⟩ := strongest_spec h.strongest
  have hrate {b : VariantResult} (hb : b ∈ results) (hne : b.name ≠ "pneuma_recurrent") : b.resolvedRate ≤ baseline.resolvedRate := by
    obtain ⟨item,hitem,hle⟩ := hstrongest _ (hothers (hname hb) hne)
    obtain rfl := Option.some.inj ((hlookup hb).symm.trans hitem)
    exact hle
  obtain ⟨hbaselineMem,hbaselineName⟩ := hunrow hbaselineRow
  exact {
    oneEach := by
      refine (List.perm_ext_iff_of_nodup hdistinct.names (by decide)).mpr fun n => ?_
      rw [← List.mem_toFinset (l := REQUIRED_VARIANTS),← h.names,List.mem_toFinset,hmapped,List.map_map]
      rfl
    tasks := by
      refine ⟨recurrent.taskIds,h.tasks.1,hdistinct.tasks recurrent (hunrow h.found).1,fun r hr => ?_⟩
      exact (h.paired _ (hrow hr)).1.1
    improved := by
      intro r hr hr' b hb hne
      obtain rfl := hrecurrent hr hr'
      have := h.improvement
      have := hrate hb hne
      linarith
    lower := by
      intro r hr hr'
      obtain rfl := hrecurrent hr hr'
      refine ⟨baseline,hbaselineMem,?_,fun c hc hne => hrate hc hne,h.lower⟩
      rw [hbaselineName]
      exact baseline_names hbaseline
    bounded := by
      intro r hr hr' figure hfigure
      obtain rfl := hrecurrent hr hr'
      exact le_of_not_gt (hdistinct.numbers r hr hr' figure hfigure) (h.bounded figure hfigure)
    disjoint := fun r hr => h.disjoint _ (hrow hr)
    unexploited := fun r hr => h.unexploited _ (hrow hr) }

theorem distinct_of_promotable (h : Promotable results samples stream) : Distinct results where
  names := h.oneEach.nodup_iff.mpr (by decide)
  tasks r hr := by
    obtain ⟨tasks,_,hnodup,hsame⟩ := h.tasks
    rw [hsame r hr]
    exact hnodup
  numbers r hr hr' figure hfigure := by
    intro hnan
    have hle := h.bounded r hr hr' figure hfigure
    rw [hnan] at hle
    cases hle

end Gate

theorem early_kill_gate_iff (results : List VariantResult) (samples : ℤ) (stream : BootstrapStream) :
    FailsClosed results samples stream ↔
      ((∃ recurrent baseline, Passes results samples stream recurrent baseline) → Distinct results) := by
  constructor
  · intro hclosed hpasses
    obtain ⟨decision,hdecision,hkill⟩ := evaluate_passes.mpr hpasses
    exact distinct_of_promotable (hclosed decision hdecision hkill)
  · intro hdistinct decision hdecision hkill
    obtain ⟨recurrent,baseline,hpasses⟩ := evaluate_passes.mp ⟨decision,hdecision,hkill⟩
    exact promotable_of_passes hpasses (hdistinct ⟨recurrent,baseline,hpasses⟩)

def measured (name : String) (resolved : Bool) (flops : PyFloat) : VariantResult where
  name := name
  taskIds := ["task-0"]
  repos := ["repo-0"]
  resolved := [resolved]
  repoDisjoint := true
  flopsOverhead := flops
  p95LatencyOverhead := .zero
  peakVramGb := .zero
  peakRamGb := .zero
  generalRegressionPoints := .zero
  functioningExploits := 0

def unmeasuredFlops : List VariantResult :=
  [measured "untouched_qwen" false .zero,measured "continued_deltanet" false .zero,measured "feed_forward_adapter" false .zero,
    measured "pneuma_recurrent" true .nan]

def firstTask : BootstrapStream := ⟨fun _ _ => 0,fun _ _ h => h⟩

theorem zero_bounded {limit : ℚ} (h : 0 ≤ limit) : PyFloat.zero.gt limit = false := by
  rw [PyFloat.zero,PyFloat.ofRat_double PyFloat.isDouble_zero,PyFloat.gt,decide_eq_false_iff_not,not_lt]
  exact h

theorem first_task_ci : pairedBootstrapCi firstTask [true] [false] 100 = .ok (1,1) := by
  have hestimates : bootstrapEstimates firstTask (([true].zip [false]).map fun pair => outcome pair.1 - outcome pair.2) (Int.toNat 100) =
      List.replicate 100 1 := by
    decide +kernel
  have hsorted : sortBy id (List.replicate 100 (1 : ℚ)) = List.replicate 100 1 := by
    exact sortBy_eq_self (List.pairwise_replicate.mpr (.inr le_rfl))
  simp only [pairedBootstrapCi,hestimates,hsorted]
  rfl

theorem unmeasured_passes : Passes unmeasuredFlops 100 firstTask (measured "pneuma_recurrent" true .nan)
    (measured "continued_deltanet" false .zero) where
  names := by decide
  found := rfl
  tasks := by decide
  repos := rfl
  paired := by decide
  strongest := by
    have hitems : REQUIRED_VARIANTS.dropLast.mapM (ranked (mapped unmeasuredFlops)) =
        .ok [(measured "untouched_qwen" false .zero,toLex (0,0)),(measured "continued_deltanet" false .zero,toLex (0,2)),
          (measured "feed_forward_adapter" false .zero,toLex (0,1))] := by
      decide +kernel
    rw [strongestBaseline,hitems]
    decide +kernel
  improvement := by decide +kernel
  lower := by
    exact ⟨1,1,first_task_ci,one_pos⟩
  disjoint := by decide
  bounded := by
    simp only [figures,List.forall_mem_cons]
    refine ⟨rfl,zero_bounded ?_,zero_bounded ?_,zero_bounded ?_,zero_bounded ?_,by simp⟩
    all_goals decide +kernel
  unexploited := by decide

theorem unmeasured_flops_promoted : ¬FailsClosed unmeasuredFlops 100 firstTask := by
  intro h
  obtain ⟨decision,hdecision,hkill⟩ := evaluate_passes.mpr ⟨_,_,unmeasured_passes⟩
  have hbounded := (h decision hdecision hkill).bounded (measured "pneuma_recurrent" true .nan)
    (by simp [unmeasuredFlops]) rfl _ List.mem_cons_self
  cases hbounded

end PneumaLab.Foundation
