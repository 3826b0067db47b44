import PneumaLab.Traces.Values

namespace PneumaLab.Traces.Governance

open Foundation

def datasetId : String := "open-swe-traces"

def datasetFamily : String := "open-swe-traces"

def blockedFieldTokens : List String := [
  "trajectory","tool_calls","tools","metadata","reference_patch","model_patch","patch","category","resolved",
  "fail_to_pass","pass_to_pass","oracle","target","labels","outcome","verdict","gold","instance_id","repo",
  "trajectory_id"]

def blockedExactInputPaths : List String := ["input.trajectory","input.tool_calls","input.tools","input.metadata"]

def taskTargetFieldBlocks (taskType : String) : List String := if taskType = "RISK_PREDICTION" then ["resolved"] else []

def minimaxQwenTosCaveat : String :=
  "NVIDIA's CC BY 4.0 grant covers the released Open-SWE-Traces artifact, " ++
  "but Minimax's and Qwen's own terms of service regarding training on " ++
  "their model outputs (used to generate these synthetic trajectories) " ++
  "have not been independently verified; re-check before any training " ++
  "authorization."

def blockedTrainingUses : List String := [
  minimaxQwenTosCaveat,"real model training","E1/E2 execution","calibration","runtime integration",
  "J-space/Jacobian Lens work","SWE-chat processing","raw trajectory/tool/patch content inspection",
  "cross-dataset joint training before a leakage registry exists","consciousness or Level 4/5 claims"]

section Paths
variable (python : Interpreter)

def dropPrefix (start text : List Char) : List Char := if start.isPrefixOf text then text.drop start.length else text

def replaceStars : List Char → List Char
  | '[' :: '*' :: ']' :: rest => '.' :: '*' :: replaceStars rest
  | c :: rest => c :: replaceStars rest
  | [] => []

def replaceIndexes : ℕ → List Char → List Char
  | 0, text => text
  | _, [] => []
  | fuel + 1, c :: rest =>
    if c = '[' ∧ rest.takeWhile python.isDecimal ≠ [] ∧ (rest.dropWhile python.isDecimal).head? = some ']' then
      '.' :: '*' :: replaceIndexes fuel (rest.dropWhile python.isDecimal).tail
    else c :: replaceIndexes fuel rest

def stripDots (text : List Char) : List Char :=
  ((text.dropWhile fun c => c = '.').reverse.dropWhile fun c => c = '.').reverse

def normalizeFeaturePath (path : String) : String :=
  let value := (python.strip path).toList
  let value := dropPrefix ['#','/'] value
  let value := dropPrefix ['/'] value
  let value := if '/' ∈ value ∧ '.' ∉ value then value.map fun c => if c = '/' then '.' else c else value
  let value := dropPrefix ['$','.'] value
  let value := dropPrefix "example.".toList value
  let value := replaceStars value
  let value := replaceIndexes python value.length value
  python.lower (String.ofList (stripDots value))

mutual

def iterLeafPaths (before : String) : Json → List String
  | .obj fields => leafPathsOfFields before fields
  | .arr items => leafPathsOfItems before items
  | _ => [before]

def leafPathsOfFields (before : String) : List (String × Json) → List String
  | [] => []
  | (key,value) :: rest =>
    iterLeafPaths (if before = "" then key else before ++ "." ++ key) value ++ leafPathsOfFields before rest

def leafPathsOfItems (before : String) : List Json → List String
  | [] => []
  | item :: rest => iterLeafPaths (if before = "" then "*" else before ++ ".*") item ++ leafPathsOfItems before rest

end

def splitDots : List Char → List (List Char)
  | [] => [[]]
  | c :: rest =>
    match splitDots rest with
    | [] => [[c]]
    | part :: parts => if c = '.' then [] :: part :: parts else (c :: part) :: parts

def pathTokens (path : String) : List String :=
  ((splitDots path.toList).map String.ofList).filter fun part => decide (part ≠ "" ∧ part ≠ "*")

def touches (taskType path : String) : List String :=
  (pathTokens path).filter fun token => decide (token ∈ blockedFieldTokens ++ taskTargetFieldBlocks taskType)

def checkExampleInputLeakage (taskType : String) (input : Json) : List Json :=
  let paths := (iterLeafPaths "input" (orElse input (.obj []))).map (normalizeFeaturePath python)
  (paths.filter fun path => decide (path ∈ blockedExactInputPaths) || decide (touches taskType path ≠ [])).map fun path =>
    .obj [
      ("blocked_tokens",.arr (((touches taskType path).dedup.mergeSort fun x y => x ≤ y).map .str)),
      ("code",.str "blocked_field"),
      ("message",.str "input path touches raw, oracle, target, or metadata content"),
      ("path",.str path)]

end Paths

end PneumaLab.Traces.Governance
