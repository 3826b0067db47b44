import Mathlib.Data.Rat.Defs
import Mathlib.Tactic
import PneumaLab.Library.Text

namespace PneumaLab.Placebo.Grader

structure TestCase (A V : Type) where
  index : ℕ
  args : List A
  expected : V
  visible : Bool

structure GradingProblem (A V : Type) where
  problemId : String
  dataset : String
  entryPoint : String
  prompt : String
  atol : ℚ
  tests : List (TestCase A V)
  setEqOracle : Bool
  notNoneOracle : Bool

def GradingProblem.visibleTests {A V : Type} (problem : GradingProblem A V) : List (TestCase A V) :=
  problem.tests.filter TestCase.visible

structure PublicFailureSignal where
  hasSignal : Bool
  tracebackText : String
  exampleCall : String
  expectedRepr : String
  actualRepr : String
  text : String

def PublicFailureSignal.empty (note : String) : PublicFailureSignal := ⟨false,"","","","",note⟩

structure ExtractedCode where
  code : String
  strategy : String
  parsed : Bool
  parseError : String

structure GradeResult where
  problemId : String
  allTestsPass : Bool
  testsPassed : ℕ
  testsFailed : ℕ
  testsTotal : ℕ
  firstFailureStderr : String
  timedOut : Bool
  syntaxError : Bool
  publicFailureSignal : PublicFailureSignal
  syntaxErrorMessage : String
  extractionStrategy : String
  harnessError : String
  perTestTimeoutS : ℚ
  failingIndices : List ℕ

structure Oracle where
  entryPoint : String
  dataset : String
  atol : ℚ
  setEqOracle : Bool
  notNoneOracle : Bool

structure Called (σ : Type) where
  seconds : ℚ
  passed : Bool
  actualRepr : String
  tracebackText : String
  stderrText : String
  next : σ

-- How the interpreter runs a candidate, test after test, and prints what the messages quote.
structure Machine (A V σ : Type) where
  extract : String → String → ExtractedCode
  parses : String → Bool × String
  startup : ℚ
  compileError : String → Option String
  load : String → String → ℚ × Except String σ
  call : Oracle → σ → TestCase A V → Called σ
  reprArg : A → Option String
  reprValue : V → String
  formatG : ℚ → String

structure Row where
  index : ℕ
  visible : Bool
  passed : Bool
  timedOut : Bool
  traceback : String
  stderr : String
  actualRepr : String

section Runner
variable {A V σ : Type} (machine : Machine A V σ)

structure Payload (A V : Type) where
  code : String
  oracle : Oracle
  perTestTimeout : ℚ
  tests : List (TestCase A V)

structure RunnerResult where
  syntaxError : Option String
  moduleError : Option String
  results : List Row
  abortedAt : Option ℕ

def timeoutRow (perTestTimeout : ℚ) (test : TestCase A V) : Row :=
  ⟨test.index,test.visible,false,true,
    "TimeoutError: test case " ++ toString test.index ++ " exceeded " ++ machine.formatG perTestTimeout ++ "s","",""⟩

def calledRow (test : TestCase A V) (called : Called σ) : Row :=
  ⟨test.index,test.visible,called.passed,false,called.tracebackText,called.stderrText,called.actualRepr⟩

def runTests (oracle : Oracle) (perTestTimeout : ℚ) (s : σ) : List (TestCase A V) → ℚ × List Row × Option ℕ
  | [] => (0,[],none)
  | test :: rest =>
    let called := machine.call oracle s test
    if perTestTimeout < called.seconds then (perTestTimeout,[timeoutRow machine perTestTimeout test],some test.index)
    else
      let later := runTests oracle perTestTimeout called.next rest
      (called.seconds + later.1,calledRow test called :: later.2.1,later.2.2)

def runnerMain (payload : Payload A V) : ℚ × RunnerResult :=
  match machine.compileError payload.code with
  | some message => (machine.startup,⟨some message,none,[],none⟩)
  | none =>
    let loaded := machine.load payload.code payload.oracle.entryPoint
    match loaded.2 with
    | .error message => (machine.startup + loaded.1,⟨none,some message,[],none⟩)
    | .ok s =>
      let ran := runTests machine payload.oracle payload.perTestTimeout s payload.tests
      (machine.startup + loaded.1 + ran.1,⟨none,none,ran.2.1,ran.2.2⟩)

def runChild (payload : Payload A V) (timeoutS : ℚ) : Except String RunnerResult :=
  let ran := runnerMain machine payload
  if timeoutS < ran.1 then
    .error ("TIMEOUT: the grading subprocess exceeded the " ++ machine.formatG timeoutS ++ "s parent backstop and was killed")
  else .ok ran.2

end Runner

section Signals
variable {A V σ : Type} (machine : Machine A V σ)

def renderCall (entryPoint : String) (args : List A) : String :=
  let joined := ", ".intercalate (args.map fun arg => (machine.reprArg arg).getD "<unreprable>")
  let joined := if 400 < joined.length then String.ofList (joined.toList.take 400) ++ " ..." else joined
  entryPoint ++ "(" ++ joined ++ ")"

def withStderr (row : Row) : String :=
  let tracebackText := strip row.traceback
  let stderrText := strip row.stderr
  if stderrText = "" then tracebackText else strip (tracebackText ++ "\n" ++ stderrText)

def rowOf (rows : List Row) (index : ℕ) : Option Row := rows.reverse.find? fun row => row.index = index

def failureSignal (problem : GradingProblem A V) (test : TestCase A V) (row : Row) : PublicFailureSignal :=
  let tracebackText := withStderr row
  let call := renderCall machine problem.entryPoint test.args
  let expectedRepr := machine.reprValue test.expected
  let actual := if row.actualRepr = "" then "<no value returned>" else row.actualRepr
  ⟨true,tracebackText,call,expectedRepr,row.actualRepr,
    "The previous attempt failed its tests.\n\n" ++ tracebackText ++ "\n\nFirst failing visible example:\n    " ++ call ++
      "\n    expected: " ++ expectedRepr ++ "\n    actual:   " ++ actual⟩

def buildPublicFailureSignal (problem : GradingProblem A V) (perTest : List Row) : PublicFailureSignal :=
  let failed := problem.visibleTests.findSome? fun test =>
    (rowOf perTest test.index).bind fun row => if row.passed then none else some (test,row)
  match failed with
  | some (test,row) => failureSignal machine problem test row
  | none => .empty "The previous attempt failed its tests, but every visible example passed."

def signalFromWholeModuleFailure (problem : GradingProblem A V) (tracebackText headline : String) : PublicFailureSignal :=
  let first := problem.visibleTests.head?
  let call := first.elim "" fun test => renderCall machine problem.entryPoint test.args
  let expectedRepr := first.elim "" fun test => machine.reprValue test.expected
  let text := headline ++ "\n\n" ++ tracebackText
  ⟨true,tracebackText,call,expectedRepr,"",
    if call = "" then text
    else text ++ "\n\nFirst visible example (never reached):\n    " ++ call ++ "\n    expected: " ++ expectedRepr ++
      "\n    actual:   <no value returned>"⟩

end Signals

section Grading
variable {A V σ : Type} (machine : Machine A V σ)

def backstopTimeout (tests : ℕ) (perTestTimeout : ℚ) : ℚ := perTestTimeout + 20 + 1 / 2 * tests

structure Options where
  perTestTimeoutS : ℚ
  totalTimeoutS : Option ℚ
  extract : Bool

def extractedCode (problem : GradingProblem A V) (candidate : String) (options : Options) : ExtractedCode :=
  if options.extract then machine.extract candidate problem.entryPoint
  else ⟨candidate,"verbatim",(machine.parses candidate).1,(machine.parses candidate).2⟩

def payloadOf (problem : GradingProblem A V) (code : String) (options : Options) : Payload A V :=
  ⟨code,⟨problem.entryPoint,problem.dataset,problem.atol,problem.setEqOracle,problem.notNoneOracle⟩,options.perTestTimeoutS,
    problem.tests⟩

def timeoutOf (problem : GradingProblem A V) (options : Options) : ℚ :=
  match options.totalTimeoutS with
  | some seconds => if seconds = 0 then backstopTimeout problem.tests.length options.perTestTimeoutS else seconds
  | none => backstopTimeout problem.tests.length options.perTestTimeoutS

def wholeFailure (problem : GradingProblem A V) (options : Options) (strategy message headline syntaxMessage harnessError : String)
    (timedOut syntaxError : Bool) : GradeResult :=
  let total := problem.tests.length
  { problemId := problem.problemId
    allTestsPass := false
    testsPassed := 0
    testsFailed := total
    testsTotal := total
    firstFailureStderr := message
    timedOut
    syntaxError
    publicFailureSignal := signalFromWholeModuleFailure machine problem message headline
    syntaxErrorMessage := syntaxMessage
    extractionStrategy := strategy
    harnessError
    perTestTimeoutS := options.perTestTimeoutS
    failingIndices := problem.tests.map TestCase.index }

def testedResult (problem : GradingProblem A V) (options : Options) (strategy : String) (raw : RunnerResult) : GradeResult :=
  let total := problem.tests.length
  let passed := (raw.results.filter Row.passed).length
  let failing := raw.results.filter fun row => !row.passed
  let allPass := decide (passed = total) && raw.abortedAt.isNone
  { problemId := problem.problemId
    allTestsPass := allPass
    testsPassed := passed
    testsFailed := total - passed
    testsTotal := total
    firstFailureStderr := failing.head?.elim "" withStderr
    timedOut := raw.abortedAt.isSome
    syntaxError := false
    publicFailureSignal :=
      if allPass then .empty "The previous attempt passed every visible example."
      else buildPublicFailureSignal machine problem raw.results
    syntaxErrorMessage := ""
    extractionStrategy := strategy
    harnessError := ""
    perTestTimeoutS := options.perTestTimeoutS
    failingIndices := failing.map Row.index }

def gradeSolution (problem : GradingProblem A V) (candidate : String) (options : Options) : GradeResult :=
  let extracted := extractedCode machine problem candidate options
  let failure := wholeFailure machine problem options extracted.strategy
  if hasText extracted.code then
    match runChild machine (payloadOf problem extracted.code options) (timeoutOf problem options) with
    | .error message => failure message "The previous attempt could not be graded." "" "" true false
    | .ok raw =>
      match raw.syntaxError with
      | some message => failure message "The previous attempt did not parse as Python." message "" false true
      | none =>
        match raw.moduleError with
        | some message => failure message "The previous attempt failed before any test ran." "" "" false false
        | none => testedResult machine problem options extracted.strategy raw
  else
    let message := if extracted.parseError = "" then "no code could be extracted from the model output" else extracted.parseError
    failure message "The previous attempt produced no runnable code." message "" false true

end Grading

end PneumaLab.Placebo.Grader
