import PneumaLab.Placebo.Grader

namespace PneumaLab.Placebo.Grader
variable {A V σ : Type} {machine : Machine A V σ}

section Prefixes

theorem runTests_append (oracle : Oracle) (perTestTimeout : ℚ) (s : σ) (visible hidden : List (TestCase A V)) :
    ∃ rows, (runTests machine oracle perTestTimeout s (visible ++ hidden)).2.1 =
        (runTests machine oracle perTestTimeout s visible).2.1 ++ rows ∧
      ∀ row ∈ rows, ∃ test ∈ hidden, row.index = test.index := by
  induction visible generalizing s with
  | nil =>
    refine ⟨_,rfl,?_⟩
    rw [List.nil_append]
    induction hidden generalizing s with
    | nil => exact fun row hrow => absurd hrow List.not_mem_nil
    | cons test rest ih =>
      intro row hrow
      rw [runTests] at hrow
      dsimp only at hrow
      split at hrow
      · exact ⟨test,List.mem_cons_self,by rw [List.mem_singleton.mp hrow]; rfl⟩
      · obtain rfl | hlater := List.mem_cons.mp hrow
        · exact ⟨test,List.mem_cons_self,rfl⟩
        · obtain ⟨other,hother,heq⟩ := ih _ row hlater
          exact ⟨other,List.mem_cons_of_mem _ hother,heq⟩
  | cons test rest ih =>
    rw [List.cons_append,runTests,runTests]
    dsimp only
    split
    · exact ⟨[],(List.append_nil _).symm,fun row hrow => absurd hrow List.not_mem_nil⟩
    · obtain ⟨rows,hrows,hindices⟩ := ih (machine.call oracle s test).next
      exact ⟨rows,by rw [hrows,List.cons_append],hindices⟩

theorem findSome?_agree {α β : Type} {f g : α → Option β} {xs : List α} (h : ∀ x ∈ xs, f x = g x) :
    xs.findSome? f = xs.findSome? g := by
  induction xs with
  | nil => rfl
  | cons x xs ih =>
    rw [List.findSome?_cons,List.findSome?_cons,h x List.mem_cons_self,ih fun y hy => h y (List.mem_cons_of_mem _ hy)]

theorem rowOf_append (rows later : List Row) {index : ℕ} (h : ∀ row ∈ later, row.index ≠ index) :
    rowOf (rows ++ later) index = rowOf rows index := by
  have hnone : later.reverse.find? (fun row => row.index = index) = none :=
    List.find?_eq_none.mpr fun row hrow => by simpa using h row (List.mem_reverse.mp hrow)
  rw [rowOf,List.reverse_append,List.find?_append,hnone,Option.none_or]
  rfl

end Prefixes

section Twins

def Indexed (tests : List (TestCase A V)) : Prop := ∀ (i : ℕ) (test : TestCase A V), tests[i]? = some test → test.index = i

structure Twins (left right : GradingProblem A V) : Prop where
  problemId : left.problemId = right.problemId
  dataset : left.dataset = right.dataset
  entryPoint : left.entryPoint = right.entryPoint
  prompt : left.prompt = right.prompt
  atol : left.atol = right.atol
  setEqOracle : left.setEqOracle = right.setEqOracle
  notNoneOracle : left.notNoneOracle = right.notNoneOracle
  visibleTests : left.visibleTests = right.visibleTests
  leftOrder : ∃ hidden, left.tests = left.visibleTests ++ hidden
  rightOrder : ∃ hidden, right.tests = right.visibleTests ++ hidden
  leftIndex : Indexed left.tests
  rightIndex : Indexed right.tests

variable {left right : GradingProblem A V}

theorem wholeModule_eq (h : Twins left right) (tracebackText headline : String) :
    signalFromWholeModuleFailure machine left tracebackText headline =
      signalFromWholeModuleFailure machine right tracebackText headline := by
  rw [signalFromWholeModuleFailure,signalFromWholeModuleFailure,h.visibleTests,h.entryPoint]

theorem failureSignal_eq (h : Twins left right) (test : TestCase A V) (row : Row) :
    failureSignal machine left test row = failureSignal machine right test row := by
  rw [failureSignal,failureSignal,h.entryPoint]

theorem hidden_index {problem : GradingProblem A V} {hidden : List (TestCase A V)}
    (hsplit : problem.tests = problem.visibleTests ++ hidden) (hindex : Indexed problem.tests)
    {test other : TestCase A V} (htest : test ∈ problem.visibleTests) (hother : other ∈ hidden) : other.index ≠ test.index := by
  obtain ⟨i,hi⟩ := List.mem_iff_getElem?.mp htest
  obtain ⟨j,hj⟩ := List.mem_iff_getElem?.mp hother
  have hlt : i < problem.visibleTests.length := (List.getElem?_eq_some_iff.mp hi).1
  have hleft : problem.tests[i]? = some test := by rw [hsplit,List.getElem?_append_left hlt,hi]
  have hright : problem.tests[problem.visibleTests.length + j]? = some other := by
    rw [hsplit,List.getElem?_append_right (Nat.le_add_right _ _),Nat.add_sub_cancel_left,hj]
  rw [hindex _ _ hleft,hindex _ _ hright]
  omega

theorem build_visible {problem : GradingProblem A V} (hsplit : ∃ hidden, problem.tests = problem.visibleTests ++ hidden)
    (hindex : Indexed problem.tests) (oracle : Oracle) (perTestTimeout : ℚ) (s : σ) :
    buildPublicFailureSignal machine problem (runTests machine oracle perTestTimeout s problem.tests).2.1 =
      buildPublicFailureSignal machine problem (runTests machine oracle perTestTimeout s problem.visibleTests).2.1 := by
  obtain ⟨hidden,hsplit⟩ := hsplit
  obtain ⟨rows,hrows,hindices⟩ := @runTests_append A V σ machine oracle perTestTimeout s problem.visibleTests hidden
  rw [← hsplit] at hrows
  have hfound : problem.visibleTests.findSome? (fun test =>
      (rowOf (runTests machine oracle perTestTimeout s problem.tests).2.1 test.index).bind fun row =>
        if row.passed then none else some (test,row)) =
      problem.visibleTests.findSome? fun test =>
        (rowOf (runTests machine oracle perTestTimeout s problem.visibleTests).2.1 test.index).bind fun row =>
          if row.passed then none else some (test,row) := by
    have hagree : ∀ test ∈ problem.visibleTests,
        rowOf (runTests machine oracle perTestTimeout s problem.tests).2.1 test.index =
          rowOf (runTests machine oracle perTestTimeout s problem.visibleTests).2.1 test.index := by
      intro test htest
      rw [hrows]
      refine rowOf_append _ _ fun row hrow => ?_
      obtain ⟨other,hother,heq⟩ := hindices row hrow
      rw [heq]
      exact hidden_index hsplit hindex htest hother
    exact findSome?_agree fun test htest => by rw [hagree test htest]
  rw [buildPublicFailureSignal,buildPublicFailureSignal,hfound]

end Twins

section Paths
variable (machine) (problem : GradingProblem A V) (candidate : String) (options : Options)

def codeOf : String := (extractedCode machine problem candidate options).code

def secondsOf : ℚ := (runnerMain machine (payloadOf problem (codeOf machine problem candidate options) options)).1

def Killed : Prop := timeoutOf problem options < secondsOf machine problem candidate options

instance : Decidable (Killed machine problem candidate options) :=
  inferInstanceAs (Decidable (timeoutOf problem options < secondsOf machine problem candidate options))

def timeoutMessage : String :=
  "TIMEOUT: the grading subprocess exceeded the " ++ machine.formatG (timeoutOf problem options) ++ "s parent backstop and was killed"

def ranSignal : PublicFailureSignal :=
  match machine.compileError (codeOf machine problem candidate options) with
  | some message => signalFromWholeModuleFailure machine problem message "The previous attempt did not parse as Python."
  | none =>
    match (machine.load (codeOf machine problem candidate options) problem.entryPoint).2 with
    | .error message => signalFromWholeModuleFailure machine problem message "The previous attempt failed before any test ran."
    | .ok s =>
      buildPublicFailureSignal machine problem
        (runTests machine (payloadOf problem (codeOf machine problem candidate options) options).oracle
          options.perTestTimeoutS s problem.tests).2.1

variable {machine problem candidate options}

theorem signal_unextracted (hcode : hasText (codeOf machine problem candidate options) = false) :
    (gradeSolution machine problem candidate options).publicFailureSignal =
      signalFromWholeModuleFailure machine problem
        (if (extractedCode machine problem candidate options).parseError = "" then "no code could be extracted from the model output"
          else (extractedCode machine problem candidate options).parseError) "The previous attempt produced no runnable code." := by
  have hnone : ¬ hasText (extractedCode machine problem candidate options).code = true := by
    rw [codeOf] at hcode
    rw [hcode]
    decide
  rw [gradeSolution]
  dsimp only
  rw [if_neg hnone]
  rfl

theorem killed_fails (hcode : hasText (codeOf machine problem candidate options) = true)
    (hkilled : Killed machine problem candidate options) : (gradeSolution machine problem candidate options).allTestsPass = false := by
  rw [codeOf] at hcode
  have hrun : runChild machine (payloadOf problem (extractedCode machine problem candidate options).code options)
      (timeoutOf problem options) = .error (timeoutMessage machine problem options) := if_pos hkilled
  rw [gradeSolution]
  dsimp only
  rw [if_pos hcode,hrun]
  rfl

theorem signal_killed (hcode : hasText (codeOf machine problem candidate options) = true)
    (hkilled : Killed machine problem candidate options) :
    (gradeSolution machine problem candidate options).publicFailureSignal =
      signalFromWholeModuleFailure machine problem (timeoutMessage machine problem options)
        "The previous attempt could not be graded." := by
  rw [codeOf] at hcode
  have hrun : runChild machine (payloadOf problem (extractedCode machine problem candidate options).code options)
      (timeoutOf problem options) = .error (timeoutMessage machine problem options) := if_pos hkilled
  rw [gradeSolution]
  dsimp only
  rw [if_pos hcode,hrun]
  rfl

theorem signal_ran (hcode : hasText (codeOf machine problem candidate options) = true)
    (hkilled : ¬ Killed machine problem candidate options)
    (hfailed : (gradeSolution machine problem candidate options).allTestsPass = false) :
    (gradeSolution machine problem candidate options).publicFailureSignal = ranSignal machine problem candidate options := by
  rw [codeOf] at hcode
  have hrun : runChild machine (payloadOf problem (extractedCode machine problem candidate options).code options)
      (timeoutOf problem options) =
        .ok (runnerMain machine (payloadOf problem (extractedCode machine problem candidate options).code options)).2 := if_neg hkilled
  rw [gradeSolution] at hfailed ⊢
  dsimp only at hfailed ⊢
  rw [if_pos hcode,hrun] at hfailed ⊢
  rw [ranSignal,codeOf]
  dsimp only at hfailed ⊢
  rw [runnerMain] at hfailed ⊢
  cases hcompile : machine.compileError (extractedCode machine problem candidate options).code with
  | some message =>
    have hcompile' : machine.compileError (payloadOf problem (extractedCode machine problem candidate options).code options).code =
        some message := hcompile
    rw [hcompile']
    rfl
  | none =>
    have hcompile' : machine.compileError (payloadOf problem (extractedCode machine problem candidate options).code options).code =
        none := hcompile
    rw [hcompile'] at hfailed ⊢
    dsimp only at hfailed ⊢
    cases hload : (machine.load (extractedCode machine problem candidate options).code problem.entryPoint).2 with
    | error message =>
      have hload' : (machine.load (payloadOf problem (extractedCode machine problem candidate options).code options).code
          (payloadOf problem (extractedCode machine problem candidate options).code options).oracle.entryPoint).2 = .error message := hload
      rw [hload']
      rfl
    | ok s =>
      have hload' : (machine.load (payloadOf problem (extractedCode machine problem candidate options).code options).code
          (payloadOf problem (extractedCode machine problem candidate options).code options).oracle.entryPoint).2 = .ok s := hload
      rw [hload'] at hfailed ⊢
      dsimp only at hfailed ⊢
      rw [testedResult] at hfailed ⊢
      dsimp only at hfailed ⊢
      rw [hfailed]
      rfl

end Paths

section Headlines

theorem char_append {head : String} {i : ℕ} {c : Char} (h : head.toList[i]? = some c) (rest : String) :
    (head ++ rest).toList[i]? = some c := by
  rw [String.toList_append,List.getElem?_append_left (List.getElem?_eq_some_iff.mp h).1,h]

def Starts (text head : String) : Prop := ∃ rest, text = head ++ rest

theorem Starts.append {text head : String} (h : Starts text head) (more : String) : Starts (text ++ more) head := by
  obtain ⟨rest,rfl⟩ := h
  exact ⟨rest ++ more,String.append_assoc⟩

theorem Starts.char {text head : String} (h : Starts text head) {i : ℕ} {c : Char} (hchar : head.toList[i]? = some c) :
    text.toList[i]? = some c := by
  obtain ⟨rest,rfl⟩ := h
  exact char_append hchar rest

theorem framed_inj (head tail left right : String) : head ++ left ++ tail = head ++ right ++ tail ↔ left = right := by
  rw [String.append_left_inj,String.append_right_inj]

theorem whole_text (machine : Machine A V σ) (problem : GradingProblem A V) (tracebackText headline : String) :
    Starts (signalFromWholeModuleFailure machine problem tracebackText headline).text headline := by
  have hhead : Starts headline headline := ⟨"",String.append_empty.symm⟩
  have hmessage := (hhead.append "\n\n").append tracebackText
  rw [signalFromWholeModuleFailure]
  dsimp only
  split
  · exact hmessage
  · exact ((((hmessage.append _).append _).append _).append _).append _

theorem build_text (machine : Machine A V σ) (problem : GradingProblem A V) (rows : List Row) :
    Starts (buildPublicFailureSignal machine problem rows).text "The previous attempt failed its tests" := by
  rw [buildPublicFailureSignal]
  split
  · have hhead : Starts "The previous attempt failed its tests.\n\n" "The previous attempt failed its tests" := ⟨".\n\n",rfl⟩
    exact (((((((hhead.append _).append _).append _).append _).append _).append _).append _)
  · exact ⟨", but every visible example passed.",rfl⟩

theorem killed_char (problem : GradingProblem A V) (tracebackText : String) :
    (signalFromWholeModuleFailure machine problem tracebackText "The previous attempt could not be graded.").text.toList[21]? =
      some 'c' := (whole_text machine problem tracebackText _).char (by decide)

theorem ran_char (problem : GradingProblem A V) (candidate : String) (options : Options) :
    (ranSignal machine problem candidate options).text.toList[21]? ≠ some 'c' := by
  rw [ranSignal]
  split
  · next message _ =>
    rw [(whole_text machine problem message "The previous attempt did not parse as Python.").char (show _ = some 'd' by decide)]
    decide
  · split
    · next message _ =>
      rw [(whole_text machine problem message "The previous attempt failed before any test ran.").char (show _ = some 'f' by decide)]
      decide
    · next s _ =>
      rw [(build_text machine problem _).char (show _ = some 'f' by decide)]
      decide

theorem killed_ne_ran (left right : GradingProblem A V) (tracebackText candidate : String) (options : Options) :
    signalFromWholeModuleFailure machine left tracebackText "The previous attempt could not be graded." ≠
      ranSignal machine right candidate options := by
  intro heq
  have hchar := @killed_char A V σ machine left tracebackText
  rw [heq] at hchar
  exact ran_char right candidate options hchar

theorem timeoutMessage_inj {left right : GradingProblem A V} {options : Options} :
    timeoutMessage machine left options = timeoutMessage machine right options ↔
      machine.formatG (timeoutOf left options) = machine.formatG (timeoutOf right options) := by
  unfold timeoutMessage
  exact framed_inj _ _ _ _

end Headlines

section Agreement
variable {left right : GradingProblem A V} {candidate : String} {options : Options}

theorem codeOf_eq (h : Twins left right) (candidate : String) (options : Options) :
    codeOf machine left candidate options = codeOf machine right candidate options := by
  rw [codeOf,codeOf,extractedCode,extractedCode,h.entryPoint]

theorem oracle_eq (h : Twins left right) (code : String) (options : Options) :
    (payloadOf left code options).oracle = (payloadOf right code options).oracle := by
  simp only [payloadOf,h.entryPoint,h.dataset,h.atol,h.setEqOracle,h.notNoneOracle]

theorem build_eq (h : Twins left right) (rows : List Row) :
    buildPublicFailureSignal machine left rows = buildPublicFailureSignal machine right rows := by
  simp only [buildPublicFailureSignal,h.visibleTests,failureSignal_eq h]

theorem ranSignal_eq (h : Twins left right) (candidate : String) (options : Options) :
    ranSignal machine left candidate options = ranSignal machine right candidate options := by
  rw [ranSignal,ranSignal,codeOf_eq h,h.entryPoint]
  cases machine.compileError (codeOf machine right candidate options) with
  | some message => exact wholeModule_eq h _ _
  | none =>
    dsimp only
    cases (machine.load (codeOf machine right candidate options) right.entryPoint).2 with
    | error message => exact wholeModule_eq h _ _
    | ok s =>
      dsimp only
      rw [oracle_eq h,build_visible h.leftOrder h.leftIndex,build_visible h.rightOrder h.rightIndex,h.visibleTests]
      exact build_eq h _

def EndAlike (machine : Machine A V σ) (left right : GradingProblem A V) (candidate : String) (options : Options) : Prop :=
  (Killed machine left candidate options ↔ Killed machine right candidate options) ∧
    (Killed machine left candidate options →
      machine.formatG (timeoutOf left options) = machine.formatG (timeoutOf right options))

theorem public_signal_hides_iff (machine : Machine A V σ) (h : Twins left right) (candidate : String) (options : Options)
    (hleft : (gradeSolution machine left candidate options).allTestsPass = false)
    (hright : (gradeSolution machine right candidate options).allTestsPass = false) :
    (gradeSolution machine left candidate options).publicFailureSignal =
        (gradeSolution machine right candidate options).publicFailureSignal ↔
      hasText (codeOf machine left candidate options) = false ∨ EndAlike machine left right candidate options := by
  cases hcode : hasText (codeOf machine left candidate options) with
  | false =>
    have hcode' := @codeOf_eq A V σ machine left right h candidate options ▸ hcode
    refine iff_of_true ?_ (.inl rfl)
    have hextracted : extractedCode machine left candidate options = extractedCode machine right candidate options := by
      rw [extractedCode,extractedCode,h.entryPoint]
    rw [signal_unextracted hcode,signal_unextracted hcode',hextracted]
    exact wholeModule_eq h _ _
  | true =>
    have hcode' := @codeOf_eq A V σ machine left right h candidate options ▸ hcode
    simp only [EndAlike,Bool.true_eq_false,false_or]
    by_cases hkl : Killed machine left candidate options <;> by_cases hkr : Killed machine right candidate options
    · rw [signal_killed hcode hkl,signal_killed hcode' hkr,← wholeModule_eq h]
      simp only [hkl,hkr,true_and,true_imp_iff,← timeoutMessage_inj]
      constructor
      · exact congrArg PublicFailureSignal.tracebackText
      · intro heq
        rw [heq]
    · rw [signal_killed hcode hkl,signal_ran hcode' hkr hright]
      exact iff_of_false (killed_ne_ran _ _ _ _ _) fun hboth => hkr (hboth.1.mp hkl)
    · rw [signal_ran hcode hkl hleft,signal_killed hcode' hkr]
      exact iff_of_false (killed_ne_ran _ _ _ _ _).symm fun hboth => hkl (hboth.1.mpr hkr)
    · rw [signal_ran hcode hkl hleft,signal_ran hcode' hkr hright]
      exact iff_of_true (ranSignal_eq h candidate options) ⟨iff_of_false hkl hkr,fun hkilled => absurd hkilled hkl⟩

end Agreement

section SlowHidden

def slowMachine : Machine ℤ ℤ Unit where
  extract code _ := ⟨code,"bare",true,""⟩
  parses _ := (true,"")
  startup := 1 / 10
  compileError _ := none
  load _ _ := (0,.ok ())
  call _ _ test :=
    if test.visible then
      ⟨1,false,"0","AssertionError: output does not match the expected value\n  expected: 1\n  actual:   0","",()⟩
    else ⟨9,true,"1","","",()⟩
  reprArg value := some (toString value)
  reprValue := toString
  formatG seconds := if seconds = 65 / 2 then "32.5" else "30.5"

def visibleTest : TestCase ℤ ℤ := ⟨0,[0],1,true⟩

def hiddenTests : List (TestCase ℤ ℤ) := [⟨1,[1],1,false⟩,⟨2,[2],1,false⟩,⟨3,[3],1,false⟩,⟨4,[4],1,false⟩]

def problemWith (tests : List (TestCase ℤ ℤ)) : GradingProblem ℤ ℤ where
  problemId := "HumanEval/0"
  dataset := "humaneval"
  entryPoint := "f"
  prompt := "def f(x):"
  atol := 0
  tests := tests
  setEqOracle := false
  notNoneOracle := false

def defaultOptions : Options := ⟨10,none,true⟩

theorem problems_twins : Twins (problemWith [visibleTest]) (problemWith (visibleTest :: hiddenTests)) where
  problemId := rfl
  dataset := rfl
  entryPoint := rfl
  prompt := rfl
  atol := rfl
  setEqOracle := rfl
  notNoneOracle := rfl
  visibleTests := rfl
  leftOrder := ⟨[],rfl⟩
  rightOrder := ⟨hiddenTests,rfl⟩
  leftIndex i test h := by
    match i, h with
    | 0, h => cases h; rfl
    | _ + 1, h => simp [problemWith] at h
  rightIndex i test h := by
    match i, h with
    | 0, h => cases h; rfl
    | 1, h => cases h; rfl
    | 2, h => cases h; rfl
    | 3, h => cases h; rfl
    | 4, h => cases h; rfl
    | _ + 5, h => simp [problemWith,hiddenTests] at h

def zeroCandidate : String := "def f(x):\n    return 0\n"

theorem zero_has_text (problem : GradingProblem ℤ ℤ) :
    hasText (codeOf slowMachine problem zeroCandidate defaultOptions) = true := by
  change hasText zeroCandidate = true
  decide

def pairedTests : List (TestCase ℤ ℤ) := [visibleTest,⟨1,[1],1,false⟩]

theorem runs_judged : ¬ Killed slowMachine (problemWith [visibleTest]) zeroCandidate defaultOptions ∧
    Killed slowMachine (problemWith (visibleTest :: hiddenTests)) zeroCandidate defaultOptions ∧
    ¬ Killed slowMachine (problemWith pairedTests) zeroCandidate defaultOptions ∧
    (gradeSolution slowMachine (problemWith [visibleTest]) zeroCandidate defaultOptions).allTestsPass = false ∧
    (gradeSolution slowMachine (problemWith pairedTests) zeroCandidate defaultOptions).allTestsPass = false := by
  decide +kernel

theorem slow_hidden_leaks : ¬ ∀ left right candidate options, Twins left right →
    (gradeSolution slowMachine left candidate options).allTestsPass = false →
      (gradeSolution slowMachine right candidate options).allTestsPass = false →
        (gradeSolution slowMachine left candidate options).publicFailureSignal =
          (gradeSolution slowMachine right candidate options).publicFailureSignal := by
  intro h
  obtain ⟨hrun,hkilled,-,hfew,-⟩ := runs_judged
  have hfails := killed_fails (zero_has_text _) hkilled
  have heq := h _ _ zeroCandidate defaultOptions problems_twins hfew hfails
  rw [signal_ran (zero_has_text _) hrun hfew,signal_killed (zero_has_text _) hkilled] at heq
  exact killed_ne_ran _ _ _ _ _ heq.symm

theorem pair_twins : Twins (problemWith [visibleTest]) (problemWith pairedTests) where
  problemId := rfl
  dataset := rfl
  entryPoint := rfl
  prompt := rfl
  atol := rfl
  setEqOracle := rfl
  notNoneOracle := rfl
  visibleTests := rfl
  leftOrder := ⟨[],rfl⟩
  rightOrder := ⟨[⟨1,[1],1,false⟩],rfl⟩
  leftIndex := problems_twins.leftIndex
  rightIndex i test h := by
    match i, h with
    | 0, h => cases h; rfl
    | 1, h => cases h; rfl
    | _ + 2, h => simp [problemWith,pairedTests] at h

theorem slow_hidden_judged :
    (gradeSolution slowMachine (problemWith [visibleTest]) zeroCandidate defaultOptions).publicFailureSignal =
      (gradeSolution slowMachine (problemWith pairedTests) zeroCandidate defaultOptions).publicFailureSignal :=
  have ⟨hleft,_,hright,hfew,hpaired⟩ := runs_judged
  (public_signal_hides_iff slowMachine pair_twins zeroCandidate defaultOptions hfew hpaired).mpr
    (.inr ⟨iff_of_false hleft hright,fun hkilled => absurd hkilled hleft⟩)

end SlowHidden

end PneumaLab.Placebo.Grader
