import Mathlib
import PneumaLab.Library.InvertedIndex

namespace PneumaLab.Gauge

open InvertedIndex

variable {K : Type}

inductive FacetValue (K : Type) where
  | number (value : K)
  | text (value : String)
deriving DecidableEq

inductive Facet where
  | model
  | wordingId
  | scaleId
  | arm
  | provenance
  | temperature
deriving DecidableEq

def conditionFacets : List Facet := [.model,.wordingId,.scaleId,.arm,.provenance,.temperature]

structure Response (K : Type) where
  itemId : String
  model : String
  wordingId : String
  scaleId : String
  provenance : String
  arm : String
  temperature : K
  replicate : ℤ
  rawText : String
  value : Option K
  parseOk : Bool
deriving DecidableEq

namespace Response

def facet (r : Response K) : Facet → FacetValue K
  | .model => .text r.model
  | .wordingId => .text r.wordingId
  | .scaleId => .text r.scaleId
  | .arm => .text r.arm
  | .provenance => .text r.provenance
  | .temperature => .number r.temperature

def condition (facets : List Facet) (r : Response K) : List (FacetValue K) := facets.map r.facet

def reading (r : Response K) : Option (ℤ ×ₗ K) :=
  if r.parseOk then r.value.map fun v => toLex (r.replicate,v) else none

end Response

abbrev Key (K : Type) := String × List (FacetValue K)

def Response.key (facets : List Facet) (r : Response K) : Key K := (r.itemId,r.condition facets)

structure BalancedMatrix (K : Type) where
  cells : List (Key K × List K)
  items : List String
  conditions : List (List (FacetValue K))
  nReps : ℕ
  droppedItems : List String
  droppedConditions : List (List (FacetValue K))
  parseFailureRate : K
deriving DecidableEq

def BalancedMatrix.usable (m : BalancedMatrix K) : Prop :=
  2 ≤ m.items.length ∧ 2 ≤ m.conditions.length ∧ 2 ≤ m.nReps

instance (m : BalancedMatrix K) : Decidable m.usable := inferInstanceAs (Decidable (_ ∧ _ ∧ _))

structure ResponseCube (K : Type) where
  rows : List (Response K)

variable [LinearOrder K]

namespace ResponseCube

def addReading (facets : List Facet) (raw : List (Key K × List (ℤ ×ₗ K))) (r : Response K) : List (Key K × List (ℤ ×ₗ K)) :=
  match r.reading with
  | none => raw
  | some reading => setDefault [] (· ++ [reading]) raw (r.key facets)

def raw (facets : List Facet) (cube : ResponseCube K) : List (Key K × List (ℤ ×ₗ K)) :=
  cube.rows.foldl (addReading facets) []

def inOrder (readings : List (ℤ ×ₗ K)) : List K := (readings.mergeSort (· ≤ ·)).map fun reading => (ofLex reading).2

def cellsSorted (facets : List Facet) (cube : ResponseCube K) : List (Key K × List K) :=
  (cube.raw facets).map fun cell => (cell.1,inOrder cell.2)

end ResponseCube

def present (cells : List (Key K × List K)) (key : Key K) : Bool := key ∈ cells.map Prod.fst

section Crossing
variable (present : Key K → Bool)

def missingItems (items : List String) (conditions : List (List (FacetValue K))) : List String :=
  items.filter fun i => conditions.any fun c => !present (i,c)

def missingConditions (items : List String) (conditions : List (List (FacetValue K))) : List (List (FacetValue K)) :=
  conditions.filter fun c => items.any fun i => !present (i,c)

def without {α : Type} [DecidableEq α] (xs gone : List α) : List α := xs.filter (· ∉ gone)

theorem shorter_without {α : Type} [DecidableEq α] {xs gone : List α} (hgone : gone ≠ []) (h : ∀ x ∈ gone, x ∈ xs) :
    (without xs gone).length < xs.length := by
  obtain ⟨x,hx⟩ := List.exists_mem_of_ne_nil gone hgone
  apply List.length_filter_lt_length_iff_exists.mpr
  exact ⟨x,h x hx,by simpa using hx⟩

def eliminate (items : List String) (conditions : List (List (FacetValue K))) :
    List String × List (List (FacetValue K)) :=
  let goneItems := missingItems present items conditions
  let goneConditions := missingConditions present items conditions
  if hfull : goneItems = [] ∧ goneConditions = [] then (items,conditions)
  else if h : goneItems ≠ [] ∧ (goneConditions = [] ∨
      goneItems.length * conditions.length ≤ goneConditions.length * items.length) then
    let rest := without items goneItems
    if rest.length < 2 ∨ conditions.length < 2 then (rest,conditions) else eliminate rest conditions
  else
    let rest := without conditions goneConditions
    if items.length < 2 ∨ rest.length < 2 then (items,rest) else eliminate items rest
termination_by items.length + conditions.length
decreasing_by
  · exact Nat.add_lt_add_right (shorter_without h.1 fun _ hx => (List.mem_filter.mp hx).1) _
  · refine Nat.add_lt_add_left (shorter_without (fun hc => ?_) fun _ hx => (List.mem_filter.mp hx).1) _
    exact h ⟨fun hi => hfull ⟨hi,hc⟩,.inl hc⟩

def full (conditions : List (List (FacetValue K))) (item : String) : Bool :=
  conditions.all fun c => present (item,c)

variable (values : Key K → List K)

def depth (conditions : List (List (FacetValue K))) (item : String) : ℕ :=
  (conditions.map fun c => (values (item,c)).length).min?.getD 0

def keptAt (items : List String) (conditions : List (List (FacetValue K))) (candidate : ℕ) : List String :=
  items.filter fun i => full present conditions i && candidate ≤ depth values conditions i

structure DepthSearch where
  bestScore : ℤ
  nReps : ℕ
  kept : List String

def attempt (items : List String) (conditions : List (List (FacetValue K))) (best : DepthSearch)
    (candidate : ℕ) : DepthSearch :=
  let keep := keptAt present values items conditions candidate
  let score := keep.length * candidate
  if keep.length < 2 then best
  else if best.bestScore < score then ⟨score,candidate,keep⟩ else best

def candidates (items : List String) (conditions : List (List (FacetValue K))) : List ℕ :=
  let depths := (items.filter (full present conditions)).map (depth values conditions)
  (List.range' 2 (depths.max?.getD 0 - 1)).reverse

def depthSearch (items : List String) (conditions : List (List (FacetValue K))) : DepthSearch :=
  (candidates present values items conditions).foldl (attempt present values items conditions) ⟨-1,0,items⟩

end Crossing

section Ordering
variable [Field K]

def coerce : FacetValue K → ℕ ×ₗ K ×ₗ String
  | .number x => toLex (0,toLex (x,""))
  | .text s => toLex (1,toLex (0,s))

theorem coerce_injective : Function.Injective (coerce (K := K)) := by
  intro a b h
  cases a <;> cases b <;> simp_all [coerce]

instance : LinearOrder (FacetValue K) := LinearOrder.lift' coerce coerce_injective

def sortedItems (items : Finset String) : List String := items.sort

def sortedConditions (conditions : Finset (List (FacetValue K))) : List (List (FacetValue K)) := conditions.sort

def sortKey (r : Response K) : List (FacetValue K) :=
  [.text r.itemId,.text r.model,.text r.scaleId,.text r.wordingId,.text r.arm,.text r.provenance,
    .number r.temperature,.number (r.replicate : K)]

namespace ResponseCube

def ofResponses (responses : List (Response K)) : ResponseCube K :=
  ⟨responses.mergeSort fun a b => sortKey a ≤ sortKey b⟩

def mapValues (g : K → K) (cube : ResponseCube K) : ResponseCube K :=
  ofResponses (cube.rows.map fun r => { r with value := r.value.map g })

def parseFailureRate (cube : ResponseCube K) : K :=
  if cube.rows = [] then 0 else (cube.rows.countP fun r => !r.parseOk : K) / cube.rows.length

end ResponseCube

end Ordering

def balance [Field K] (present : Key K → Bool) (values : Key K → List K) (allItems : Finset String)
    (allConditions : Finset (List (FacetValue K))) (failures : K) : BalancedMatrix K :=
  let (items,conditions) := eliminate present (sortedItems allItems) (sortedConditions allConditions)
  let best := depthSearch present values items conditions
  { cells := (best.kept.flatMap fun i => conditions.map fun c => (i,c)).filterMap fun key =>
      if present key then some (key,(values key).take best.nReps) else none
    items := best.kept
    conditions := conditions
    nReps := best.nReps
    droppedItems := sortedItems ((allItems \ items.toFinset) ∪ (items.toFinset \ best.kept.toFinset))
    droppedConditions := sortedConditions (allConditions \ conditions.toFinset)
    parseFailureRate := failures }

def ResponseCube.balancedMatrix [Field K] (cube : ResponseCube K) (facets : List Facet) : BalancedMatrix K :=
  let cells := cube.cellsSorted facets
  balance (present cells) (entry [] cells) (cells.map fun cell => cell.1.1).toFinset
    (cells.map fun cell => cell.1.2).toFinset cube.parseFailureRate

variable {K : Type}

structure VarianceComponents (K : Type) where
  varItem : K
  varCondition : K
  varInteraction : K
  varRepeatability : K
  nItems : ℕ
  nConditions : ℕ
  nReps : ℕ
  truncated : List String
  grandMean : K

variable [Field K]

def VarianceComponents.varReproducibility (vc : VarianceComponents K) : K := vc.varCondition + vc.varInteraction

def VarianceComponents.varGrr (vc : VarianceComponents K) : K := vc.varRepeatability + vc.varReproducibility

variable [LinearOrder K]

section Design
variable (matrix : List (Key K × List K))

def matrixItems : List String := sortedItems (matrix.map fun cell => cell.1.1).toFinset

def matrixConditions : List (List (FacetValue K)) := sortedConditions (matrix.map fun cell => cell.1.2).toFinset

def repCounts : List ℕ := (matrix.map fun cell => cell.2.length).toFinset.sort

def cellMean (n : ℕ) (key : Key K) : K := (entry [] matrix key).sum / n

def meanSquares (items : List String) (conditions : List (List (FacetValue K))) (n : ℕ) : VarianceComponents K :=
  let nI : K := items.length
  let nO : K := conditions.length
  let mean := cellMean matrix n
  let grand := (matrix.map fun cell => mean cell.1).sum / (nI * nO)
  let itemMean := fun i => (conditions.map fun o => mean (i,o)).sum / nO
  let condMean := fun o => (items.map fun i => mean (i,o)).sum / nI
  let ssItem := nO * n * (items.map fun i => (itemMean i - grand) ^ 2).sum
  let ssCond := nI * n * (conditions.map fun o => (condMean o - grand) ^ 2).sum
  let ssInter := n * (items.flatMap fun i => conditions.map fun o =>
    (mean (i,o) - itemMean i - condMean o + grand) ^ 2).sum
  let ssErr := (matrix.map fun cell => (cell.2.map fun v => (v - mean cell.1) ^ 2).sum).sum
  let msItem := ssItem / (nI - 1)
  let msCond := ssCond / (nO - 1)
  let msInter := ssInter / ((nI - 1) * (nO - 1))
  let msErr := ssErr / (nI * nO * (n - 1))
  let raw := [("var_repeatability",msErr),("var_interaction",(msInter - msErr) / n),
    ("var_condition",(msCond - msInter) / (nI * n)),("var_item",(msItem - msInter) / (nO * n))]
  let clipped := fun name => max (entry 0 raw name) 0
  { varItem := clipped "var_item"
    varCondition := clipped "var_condition"
    varInteraction := clipped "var_interaction"
    varRepeatability := clipped "var_repeatability"
    nItems := items.length
    nConditions := conditions.length
    nReps := n
    truncated := ((raw.filter fun row => row.2 < 0).map Prod.fst).mergeSort (· ≤ ·)
    grandMean := grand }

def varianceComponents : Except String (VarianceComponents K) :=
  let items := matrixItems matrix
  let conditions := matrixConditions matrix
  if matrix.isEmpty then .error "varianceComponents requires a non-empty design"
  else match repCounts matrix with
  | [n] =>
    if items.length < 2 ∨ conditions.length < 2 then
      .error s!"need >= 2 items and >= 2 conditions, got items={items.length} conditions={conditions.length}"
    else if n < 2 then .error "need >= 2 replicates per cell; repeatability is otherwise unidentifiable"
    else if matrix.length ≠ items.length * conditions.length then .error "design is not fully crossed"
    else .ok (meanSquares matrix items conditions n)
  | counts => .error s!"unbalanced replicate counts: {counts}"

end Design

end PneumaLab.Gauge
