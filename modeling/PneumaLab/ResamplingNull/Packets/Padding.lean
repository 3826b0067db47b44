import PneumaLab.Library.Words
import PneumaLab.ResamplingNull.Artifacts

namespace PneumaLab.ResamplingNull

inductive IdentifierKind where
  | repositoryFile | symbol | testCheck | databaseEntity | policyAction | taskRecord
  deriving DecidableEq, Repr

inductive PacketAtom where
  | identifier (entityId : String) (kind : IdentifierKind) (named : entityId ≠ "")
  | literal (text : String)

def PacketAtom.text : PacketAtom → String
  | .identifier entityId _ _ => entityId
  | .literal text => text

structure VerifierFinding where
  findingId : String
  component : String
  code : String
  severity : String
  atoms : List PacketAtom
  named : findingId ≠ "" ∧ component ≠ "" ∧ code ≠ "" ∧ severity ≠ ""
  nonempty : atoms ≠ []

def atomsText (atoms : List PacketAtom) : String := String.join (atoms.map PacketAtom.text)

section Render

def PACKET_FIELD_ORDER : List String := ["finding_id","component","code","severity","evidence"]

def VerifierFinding.row (finding : VerifierFinding) : Json := .obj [
  ("code",.str finding.code),
  ("component",.str finding.component),
  ("evidence",.str (atomsText finding.atoms)),
  ("finding_id",.str finding.findingId),
  ("severity",.str finding.severity)]

def guidanceJson (findings : List VerifierFinding) (padding : String) : Json := .obj [
  ("field_order",.arr (PACKET_FIELD_ORDER.map .str)),
  ("findings",.arr (findings.map VerifierFinding.row)),
  ("padding",.str padding),
  ("record_kind",.str "private_verifier_guidance_v1")]

def renderPacket (findings : List VerifierFinding) (padding : String) : String :=
  (fromUtf8 (canonicalJsonBytes (guidanceJson findings padding))).getD ""

end Render

section Tokens
variable (platform : Platform)

def unicodeWhitespaceEncode (text : String) : List ℕ :=
  (wordsFrom [] text.toList).map fun token => readBigEndian (platform.sha256 (utf8 (String.ofList token))).bytes

def paddedTokens (findings : List VerifierFinding) (padding : String) : ℤ :=
  (unicodeWhitespaceEncode platform (renderPacket findings padding)).length

end Tokens

section Units

def safePad (c : Char) : Bool := isSpace c || decide (c ∈ ['.',',',':',';','_','-','(',')','[',']'])

def utf8Le (x y : String) : Bool := decide (utf8 x ≤ utf8 y)

def validatedPadUnits (neutralPadUnits : List String) : Py (List String) := do
  let units := neutralPadUnits.dedup.mergeSort utf8Le
  demand (decide (units ≠ []) && units.all fun unit => decide (unit ≠ "") && unit.toList.all safePad)
    (.packetInvalid "neutral padding units are empty, executable, or identifying")
  return units

end Units

structure PaddingSearchReceipt where
  padUnitSetSha256 : String
  targetTokenCount : ℤ
  statesExplored : ℕ
  selectedUnitCounts : List (String × ℕ)
  searchAlgorithm : String
  deriving DecidableEq

abbrev Frontier := List (String × List ℕ)

structure Exploration where
  found : Option (String × List ℕ)
  explored : ℕ
  next : Frontier

section Search
variable (tokens : String → ℤ) (target : ℤ) (units : List String)

def offer (candidate : String) (counts : List ℕ) : Frontier → Frontier
  | [] => [(candidate,counts)]
  | (key,prior) :: rest =>
    if key = candidate then (key,if counts < prior then counts else prior) :: rest
    else (key,prior) :: offer candidate counts rest

def extendPadding (padding : String) (counts : List ℕ) (next : Frontier) : Frontier :=
  units.zipIdx.foldl (fun next unit => offer (padding ++ unit.1) (counts.modify unit.2 (· + 1)) next) next

def exploreLevel : Frontier → ℕ → Frontier → Exploration
  | [],explored,next => ⟨none,explored,next⟩
  | (padding,counts) :: rest,explored,next =>
    if tokens padding = target then ⟨some (padding,counts),explored + 1,next⟩
    else if target < tokens padding then exploreLevel rest (explored + 1) next
    else exploreLevel rest (explored + 1) (extendPadding units padding counts next)

def sortedFrontier (frontier : Frontier) : Frontier := frontier.mergeSort fun x y => utf8Le x.1 y.1

def maxStates : ℤ := max 256 ((target + 1) * units.length * 16)

theorem explored_le (frontier : Frontier) (explored : ℕ) (next : Frontier) :
    explored ≤ (exploreLevel tokens target units frontier explored next).explored := by
  induction frontier generalizing explored next with
  | nil => exact le_rfl
  | cons state rest ih =>
    rw [exploreLevel]
    split
    · exact Nat.le_succ explored
    · split
      · exact (Nat.le_succ explored).trans (ih _ _)
      · exact (Nat.le_succ explored).trans (ih _ _)

theorem explored_lt {frontier : Frontier} (h : frontier ≠ []) (explored : ℕ) (next : Frontier) :
    explored < (exploreLevel tokens target units (sortedFrontier frontier) explored next).explored := by
  obtain ⟨state,rest,hstates⟩ : ∃ state rest, sortedFrontier frontier = state :: rest := by
    apply List.exists_cons_of_ne_nil
    intro hnil
    have hlength := congrArg List.length hnil
    rw [sortedFrontier,List.length_mergeSort] at hlength
    exact h (List.length_eq_zero_iff.mp hlength)
  rw [hstates,exploreLevel]
  split
  · exact Nat.lt_succ_self explored
  · split
    · exact explored_le tokens target units _ _ _
    · exact explored_le tokens target units _ _ _

theorem states_decrease {frontier : Frontier} {explored : ℕ}
    (h : frontier ≠ [] ∧ (explored : ℤ) < maxStates target units) (next : Frontier) :
    (maxStates target units - (exploreLevel tokens target units (sortedFrontier frontier) explored next).explored).toNat <
      (maxStates target units - explored).toNat := by
  have hlt := explored_lt tokens target units h.1 explored next
  omega

def searchLevels (frontier : Frontier) (explored : ℕ) : Py (String × List ℕ × ℕ) :=
  if _h : frontier ≠ [] ∧ (explored : ℤ) < maxStates target units then
    match (exploreLevel tokens target units (sortedFrontier frontier) explored []).found with
    | some found => .ok (found.1,found.2,(exploreLevel tokens target units (sortedFrontier frontier) explored []).explored)
    | none =>
      searchLevels (exploreLevel tokens target units (sortedFrontier frontier) explored []).next
        (exploreLevel tokens target units (sortedFrontier frontier) explored []).explored
  else .error (.packetInvalid "exact neutral padding target is unreachable")
termination_by (maxStates target units - explored).toNat
decreasing_by exact states_decrease tokens target units _h []

end Search

def paddingSearch (platform : Platform) (shorter : List VerifierFinding) (target : ℤ) (neutralPadUnits : List String)
    (padUnitSetSha256 : String) : Py (String × PaddingSearchReceipt) := do
  let units ← validatedPadUnits neutralPadUnits
  demand (isSha256 padUnitSetSha256) (.packetInvalid "pad-unit authority digest is invalid")
  let found ← searchLevels (paddedTokens platform shorter) target units [("",units.map fun _ => 0)] 0
  return (found.1,{
    padUnitSetSha256
    targetTokenCount := target
    statesExplored := found.2.2
    selectedUnitCounts := units.zip found.2.1
    searchAlgorithm := "exact_dynamic_program_v1"})

end PneumaLab.ResamplingNull
