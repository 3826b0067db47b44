import PneumaLab.Library.JsonUnits
import PneumaLab.Library.LastLine
import PneumaLab.Library.Values

namespace PneumaLab.Gauge

inductive Data where
  | none
  | number (value : Number)
  | bool (value : Bool)
  | str (text : CodePoints)
  | list (items : List Data)
  | tuple (items : List Data)
  | dict (fields : List (CodePoints × Data))

namespace Data

def numeric : Data → Option Number
  | .number value => some value
  | .bool value => some (.int (if value then 1 else 0))
  | _ => .none

def sameNumber : Number → Number → Bool
  | .int x, .int y => decide (x = y)
  | .int x, .float (.finite y _) => decide ((x : ℚ) = y)
  | .float (.finite x _), .int y => decide (x = (y : ℚ))
  | .float (.finite x _), .float (.finite y _) => decide (x = y)
  | .float (.infinite x), .float (.infinite y) => x == y
  | _, _ => false

mutual

def same : Data → Data → Bool
  | .none, .none => true
  | .str x, .str y => decide (x = y)
  | .list xs, .list ys => sameItems xs ys
  | .list xs, .tuple ys => sameItems xs ys
  | .tuple xs, .list ys => sameItems xs ys
  | .tuple xs, .tuple ys => sameItems xs ys
  | .dict xs, .dict ys => decide (xs.length = ys.length) && sameFields xs ys
  | x, y =>
    match x.numeric, y.numeric with
    | some x, some y => sameNumber x y
    | _, _ => false

def sameItems : List Data → List Data → Bool
  | [], [] => true
  | x :: xs, y :: ys => same x y && sameItems xs ys
  | _, _ => false

def sameFields : List (CodePoints × Data) → List (CodePoints × Data) → Bool
  | [], _ => true
  | (key,x) :: xs, ys =>
    (match ys.lookup key with
    | some y => same x y
    | .none => false) && sameFields xs ys

end

end Data

abbrev Line := Option (List Char)

abbrev PyText := {text : CodePoints // Document.IsText text}

inductive Bare (α : Type) where
  | done (value : α)
  | escaped (returncode : ℤ) (stderr : String)
  | endless

structure Step (α : Type) where
  written : List Line
  ending : Bare α

-- Candidate code that runs under except Exception. An Exception is described by its repr, SystemExit is none.
inductive Guarded (α : Type) where
  | returned (value : α)
  | exception (describe : Step PyText)
  | exits (returncode : ℤ) (stderr : String)
  | endless

structure Act (α : Type) where
  written : List Line
  ending : Guarded α

inductive Got where
  | plain (value : Data)
  | foreign (differs : Data → Step Bool)

structure Returned where
  got : Got
  describe : Step PyText

structure Candidate where
  load : Act (Option (List (List Data) → Act Returned))

abbrev Tests := List (List Data × Data)

inductive DriverEnd where
  | verdict (passed : Bool) (detail : PyText)
  | silent (returncode : ℤ) (stderr : String)
  | running

structure DriverRun where
  written : List Line
  ending : DriverEnd

namespace Driver

theorem codePoints_isText (text : String) : Document.IsText (codePoints text) := by
  intro unit hunit
  obtain ⟨c,_,rfl⟩ := List.mem_map.mp hunit
  obtain hlow | ⟨_,hhigh⟩ := c.valid
  · exact lt_trans hlow (by decide)
  · exact hhigh

def asText (text : String) : PyText := ⟨codePoints text,codePoints_isText text⟩

def joinText (left right : PyText) : PyText := ⟨left.val ++ right.val,fun unit hunit =>
  (List.mem_append.mp hunit).elim (left.property unit) (right.property unit)⟩

def failed (written : List Line) (label : String) (describe : Step PyText) : DriverRun :=
  ⟨written ++ describe.written,
    match describe.ending with
    | .done text => .verdict false (joinText (asText label) text)
    | .escaped returncode stderr => .silent returncode stderr
    | .endless => .running⟩

def differs (expected : Data) : Got → Step Bool
  | .plain value => ⟨[],.done (!Data.same value expected)⟩
  | .foreign compare => compare expected

def runTests (call : List (List Data) → Act Returned) (total : ℕ) : List Line → List (List Data) → Tests → DriverRun
  | written, _, [] => ⟨written,.verdict true (asText s!"all {total} hidden tests passed")⟩
  | written, history, (args,expected) :: tests =>
    let act := call (history ++ [args])
    let written := written ++ act.written
    match act.ending with
    | .exception describe => failed written "raised on " describe
    | .exits returncode stderr => ⟨written,.silent returncode stderr⟩
    | .endless => ⟨written,.running⟩
    | .returned value =>
      let compared := differs expected value.got
      let written := written ++ compared.written
      match compared.ending with
      | .escaped returncode stderr => ⟨written,.silent returncode stderr⟩
      | .endless => ⟨written,.running⟩
      | .done true => failed written "on " value.describe
      | .done false => runTests call total written (history ++ [args]) tests

def drive (candidate : Candidate) (entry : String) (tests : Tests) : DriverRun :=
  match candidate.load.ending with
  | .exception describe => failed candidate.load.written "load error: " describe
  | .exits returncode stderr => ⟨candidate.load.written,.silent returncode stderr⟩
  | .endless => ⟨candidate.load.written,.running⟩
  | .returned none => ⟨candidate.load.written,.verdict false (asText ("missing entry point " ++ entry))⟩
  | .returned (some call) => runTests call tests.length candidate.load.written [] tests

-- json.dumps with its default separators
def verdictLine (passed : Bool) (detail : PyText) : List Char :=
  '{' :: (Document.quoteAscii (codePoints "passed") ++ ':' :: ' ' :: (Document.dumps (.scalar (.bool passed)) ++
    ',' :: ' ' :: (Document.quoteAscii (codePoints "detail") ++ ':' :: ' ' :: (Document.quoteAscii detail.val ++ ['}']))))

end Driver

structure TestOutcome where
  passed : Bool
  detail : CodePoints

-- What the interpreter adds to the grammar of JSON: its limits, the zero literals, and str().
structure JsonRuntime where
  refuses : List Char → Option Raised
  zeroFloat : String → Bool
  str : Document → CodePoints
  verdict_read : ∀ passed detail, refuses (Driver.verdictLine passed detail) = none

namespace JsonRuntime
variable (runtime : JsonRuntime)

def loads (line : List Char) : Py Document :=
  match runtime.refuses line with
  | some error => .error error
  | none => required (.valueError "Expecting value") (Document.loads false line)

def truthy : Document → Bool
  | .scalar .null => false
  | .scalar (.bool value) => value
  | .scalar (.int value) => decide (value ≠ 0)
  | .scalar (.float text) => !runtime.zeroFloat text
  | .scalar (.str text) => decide (text ≠ "")
  | .scalar (.arr items) => !items.isEmpty
  | .scalar (.obj fields) => !fields.isEmpty
  | .str text => !text.isEmpty
  | .arr items => !items.isEmpty
  | .obj fields => !fields.isEmpty

end JsonRuntime

def item (fields : List (CodePoints × Document)) (key : String) : Py Document :=
  required (.keyError key) (fields.reverse.lookup (codePoints key))

def outcomeOf (runtime : JsonRuntime) : Document → Py TestOutcome
  | .obj fields => do
    let passed ← item fields "passed"
    let detail ← item fields "detail"
    return ⟨runtime.truthy passed,runtime.str detail⟩
  | _ => .error (.typeError "indices must be integers or slices, not str")

def readOutput (runtime : JsonRuntime) (written : List Line) (returncode : ℤ) (stderr : String) : Py TestOutcome := do
  let lines ← written.mapM (required (.unicodeDecodeError "stdout"))
  match Json.lastLine lines with
  | none => return ⟨false,codePoints (s!"no output (exit {returncode}): " ++ String.ofList (stderr.toList.take 200))⟩
  | some last =>
    match runtime.loads last with
    | .error (.valueError _) => return ⟨false,codePoints ("unparseable driver output: " ++ String.ofList (last.take 200))⟩
    | .error error => .error error
    | .ok result => outcomeOf runtime result

def runHiddenTests (runtime : JsonRuntime) (candidate : Candidate) (entry : String) (tests : Tests) (timeout : String) :
    Py TestOutcome :=
  let run := Driver.drive candidate entry tests
  match run.ending with
  | .running => .ok ⟨false,codePoints s!"timed out after {timeout}s"⟩
  | .silent returncode stderr => readOutput runtime run.written returncode stderr
  | .verdict passed detail => readOutput runtime (run.written ++ [some (Driver.verdictLine passed detail)]) 0 ""

def argumentsUpTo (tests : Tests) (i : ℕ) : List (List Data) := (tests.take (i + 1)).map Prod.fst

def Correct (candidate : Candidate) (tests : Tests) : Prop :=
  ∃ call, candidate.load.ending = .returned (some call) ∧ ∀ i args expected, tests[i]? = some (args,expected) →
    ∃ value describe, (call (argumentsUpTo tests i)).ending = .returned ⟨.plain value,describe⟩ ∧ Data.same value expected = true

def LabelStands (runtime : JsonRuntime) (candidate : Candidate) (entry : String) (tests : Tests) (timeout : String) : Prop :=
  ∃ outcome, runHiddenTests runtime candidate entry tests timeout = .ok outcome ∧ (outcome.passed = true → Correct candidate tests)

def Accepted (candidate : Candidate) (tests : Tests) : Prop :=
  ∃ call, candidate.load.ending = .returned (some call) ∧ ∀ i args expected, tests[i]? = some (args,expected) →
    ∃ value, (call (argumentsUpTo tests i)).ending = .returned value ∧ (Driver.differs expected value.got).ending = .done false

def Harmless (runtime : JsonRuntime) (last : List Char) : Prop :=
  (∃ message, runtime.loads last = .error (.valueError message)) ∨
    ∃ fields passed detail, runtime.loads last = .ok (.obj fields) ∧ item fields "passed" = .ok passed ∧
      runtime.truthy passed = false ∧ item fields "detail" = .ok detail

structure Contained (runtime : JsonRuntime) (candidate : Candidate) (entry : String) (tests : Tests) : Prop where
  decoded : (Driver.drive candidate entry tests).ending ≠ .running → none ∉ (Driver.drive candidate entry tests).written
  harmless : ∀ returncode stderr, (Driver.drive candidate entry tests).ending = .silent returncode stderr →
    ∀ last, Json.lastLine ((Driver.drive candidate entry tests).written.filterMap id) = some last → Harmless runtime last
  honest : Accepted candidate tests → ∀ call, candidate.load.ending = .returned (some call) → ∀ i < tests.length,
    ∃ value describe, (call (argumentsUpTo tests i)).ending = .returned ⟨.plain value,describe⟩

section Reading

theorem unbroken_of_all {text : List Char} (h : text.all (fun c => !Json.isLineBreak c) = true) : Json.Unbroken text := by
  intro c hc
  simpa using List.all_eq_true.mp h c hc

theorem quoteAscii_unbroken (text : CodePoints) : Json.Unbroken (Document.quoteAscii text) := by
  have hprintable : ∀ n < 127, 32 ≤ n → Json.isLineBreak (Char.ofNat n) = false := by decide
  have hescape (unit : ℕ) : Json.Unbroken (Json.unicodeEscape unit) := by
    intro c hc
    simp only [Json.unicodeEscape,List.mem_cons,List.not_mem_nil,or_false] at hc
    obtain rfl | rfl | rfl | rfl | rfl | rfl := hc
    · decide
    · decide
    all_goals exact Json.hexDigit_unbroken (Nat.mod_lt _ (by decide))
  have hunit (unit : ℕ) : Json.Unbroken (Document.asciiUnit unit) := by
    unfold Document.asciiUnit
    split_ifs with _ _ _ _ _ _ _ hplain
    all_goals try exact unbroken_of_all (by decide)
    · exact List.forall_mem_singleton.mpr (hprintable unit (by omega) hplain.1)
    · exact hescape unit
    · exact Json.unbroken_append (hescape _) (hescape _)
  rw [Document.quoteAscii]
  refine Json.unbroken_cons (by decide) (Json.unbroken_append (fun c hc => ?_) (List.forall_mem_singleton.mpr (by decide)))
  obtain ⟨unit,_,hmem⟩ := List.mem_flatMap.mp hc
  exact hunit unit c hmem

theorem verdictLine_unbroken (passed : Bool) (detail : PyText) : Json.Unbroken (Driver.verdictLine passed detail) := by
  have hbool : Json.Unbroken (Document.dumps (.scalar (.bool passed))) := by
    cases passed <;> exact unbroken_of_all (by decide)
  refine Json.unbroken_cons (by decide) (Json.unbroken_append (quoteAscii_unbroken _) ?_)
  refine Json.unbroken_cons (by decide) (Json.unbroken_cons (by decide) (Json.unbroken_append hbool ?_))
  refine Json.unbroken_cons (by decide) (Json.unbroken_cons (by decide) (Json.unbroken_append (quoteAscii_unbroken _) ?_))
  refine Json.unbroken_cons (by decide) (Json.unbroken_cons (by decide) (Json.unbroken_append (quoteAscii_unbroken _) ?_))
  exact List.forall_mem_singleton.mpr (by decide)

theorem verdictLine_last (lines : List (List Char)) (passed : Bool) (detail : PyText) :
    Json.lastLine (lines ++ [Driver.verdictLine passed detail]) = some (Driver.verdictLine passed detail) := by
  refine @Json.lastLine_append _ (Document.quoteAscii (codePoints "passed") ++ ':' :: ' ' ::
    (Document.dumps (.scalar (.bool passed)) ++ ',' :: ' ' :: (Document.quoteAscii (codePoints "detail") ++ ':' :: ' ' ::
      Document.quoteAscii detail.val))) '{' '}' ?_ (by decide) (by decide) (verdictLine_unbroken passed detail) lines
  simp [Driver.verdictLine]

theorem member_read {key : CodePoints} (hkey : Document.IsText key) {v : Document} (hv : Document.Written false v) {fuel : ℕ}
    (hfuel : Document.size v ≤ fuel) {rest : List Char} (hrest : Json.EndsNumber rest) :
    Document.members false (fuel + 1) (Document.quoteAscii key ++ ':' :: ' ' :: (Document.dumps v ++ rest)) =
      match Json.skipSpace rest with
      | ',' :: more => (Document.members false fuel (Json.skipSpace more)).map fun read =>
          ((Document.joinSurrogates key,Document.joined v) :: read.1,read.2)
      | '}' :: more => some ([(Document.joinSurrogates key,Document.joined v)],more)
      | _ => none := by
  rw [Document.quoteAscii_append,Document.members,Document.string_quoted hkey,Option.bind_some,Json.skipSpace_cons (by decide)]
  simp only []
  have hblank : Json.skipSpace (' ' :: (Document.dumps v ++ rest)) = Document.dumps v ++ rest := by
    rw [← List.singleton_append,Json.skipSpace_space fun c hc => .inl (List.mem_singleton.mp hc),Document.skipSpace_dumps hv rest]
  rw [hblank]
  exact (congrArg (Option.bind · _) (Document.value_written v fuel rest hv hfuel hrest)).trans rfl

theorem loads_verdictLine (passed : Bool) (detail : PyText) : Document.loads false (Driver.verdictLine passed detail) =
    some (.obj [(Document.joinSurrogates (codePoints "passed"),.scalar (.bool passed)),
      (Document.joinSurrogates (codePoints "detail"),.str (Document.joinSurrogates detail.val))]) := by
  obtain ⟨fuel,hfuel⟩ : ∃ fuel, (Driver.verdictLine passed detail).length = fuel + 3 := by
    refine ⟨(Driver.verdictLine passed detail).length - 3,?_⟩
    rw [Nat.sub_add_cancel]
    simp only [Driver.verdictLine,List.length_cons,List.length_append]
    omega
  have hlast : Document.members false (fuel + 2) (Document.quoteAscii (codePoints "detail") ++ ':' :: ' ' ::
      (Document.quoteAscii detail.val ++ ['}'])) =
        some ([(Document.joinSurrogates (codePoints "detail"),.str (Document.joinSurrogates detail.val))],[]) := by
    exact member_read (v := .str detail.val) (Driver.codePoints_isText _) detail.property (by simp [Document.size])
      (Json.endsNumber_cons (by decide))
  have hboth : Document.members false (fuel + 3) (Document.quoteAscii (codePoints "passed") ++ ':' :: ' ' ::
      (Document.dumps (.scalar (.bool passed)) ++ ',' :: ' ' :: (Document.quoteAscii (codePoints "detail") ++ ':' :: ' ' ::
        (Document.quoteAscii detail.val ++ ['}'])))) =
          some ([(Document.joinSurrogates (codePoints "passed"),.scalar (.bool passed)),
            (Document.joinSurrogates (codePoints "detail"),.str (Document.joinSurrogates detail.val))],[]) := by
    rw [member_read (Driver.codePoints_isText _) (show Document.Written false (.scalar (.bool passed)) from trivial)
      (by simp [Document.size]) (Json.endsNumber_cons (by decide)),Json.skipSpace_cons (by decide)]
    simp only []
    rw [← List.singleton_append (x := ' '),Json.skipSpace_space fun c hc => .inl (List.mem_singleton.mp hc),
      Document.skipSpace_quoteAscii,hlast]
    rfl
  have hopen : Json.skipSpace (Driver.verdictLine passed detail) = Driver.verdictLine passed detail := Json.skipSpace_cons (by decide) _
  have hvalue : Document.rawDecode false (Driver.verdictLine passed detail) =
      some (.obj [(Document.joinSurrogates (codePoints "passed"),.scalar (.bool passed)),
        (Document.joinSurrogates (codePoints "detail"),.str (Document.joinSurrogates detail.val))],[]) := by
    rw [Document.rawDecode,hfuel,Driver.verdictLine,Document.value,Document.skipSpace_quoteAscii]
    split
    · next he => exact absurd (List.cons.inj he).1 (by decide)
    · rw [hboth]
      rfl
  rw [Document.loads,hopen,hvalue]
  rfl

theorem outcome_verdict (runtime : JsonRuntime) (passed : Bool) (detail : PyText) : ∃ text,
    runtime.loads (Driver.verdictLine passed detail) >>= outcomeOf runtime = .ok ⟨passed,text⟩ := by
  have hpassed : Document.joinSurrogates (codePoints "passed") = codePoints "passed" := by
    simp [codePoints,Document.joinSurrogates]
  have hdetail : Document.joinSurrogates (codePoints "detail") = codePoints "detail" := by
    simp [codePoints,Document.joinSurrogates]
  rw [JsonRuntime.loads,runtime.verdict_read]
  simp only [loads_verdictLine,hpassed,hdetail]
  exact ⟨_,rfl⟩

end Reading

section Driving
variable {call : List (List Data) → Act Returned} {total : ℕ} {tests : Tests}

theorem failed_ending (written : List Line) (label : String) (describe : Step PyText) (detail : PyText) :
    (Driver.failed written label describe).ending ≠ .verdict true detail := by
  rw [Driver.failed]
  cases describe.ending <;> simp

theorem runTests_passed (written : List Line) (history : List (List Data)) :
    (∃ detail, (Driver.runTests call total written history tests).ending = .verdict true detail) ↔
      ∀ i args expected, tests[i]? = some (args,expected) → ∃ value,
        (call (history ++ argumentsUpTo tests i)).ending = .returned value ∧
          (Driver.differs expected value.got).ending = .done false := by
  induction tests generalizing written history with
  | nil => simp [Driver.runTests]
  | cons test tests ih =>
    obtain ⟨args,expected⟩ := test
    have hlater (i : ℕ) : history ++ argumentsUpTo ((args,expected) :: tests) (i + 1) =
        history ++ [args] ++ argumentsUpTo tests i := by
      simp [argumentsUpTo]
    have hfirst : history ++ argumentsUpTo ((args,expected) :: tests) 0 = history ++ [args] := by
      simp [argumentsUpTo]
    have hsplit : (∀ i args' expected', ((args,expected) :: tests)[i]? = some (args',expected') → ∃ value,
        (call (history ++ argumentsUpTo ((args,expected) :: tests) i)).ending = .returned value ∧
          (Driver.differs expected' value.got).ending = .done false) ↔
        (∃ value, (call (history ++ [args])).ending = .returned value ∧ (Driver.differs expected value.got).ending = .done false) ∧
          ∀ i args' expected', tests[i]? = some (args',expected') → ∃ value,
            (call (history ++ [args] ++ argumentsUpTo tests i)).ending = .returned value ∧
              (Driver.differs expected' value.got).ending = .done false := by
      constructor
      · intro h
        refine ⟨hfirst ▸ h 0 args expected rfl,fun i args' expected' hi => ?_⟩
        rw [← hlater]
        exact h (i + 1) args' expected' hi
      · rintro ⟨hhead,htail⟩ i args' expected' hi
        cases i with
        | zero =>
          cases hi
          rw [hfirst]
          exact hhead
        | succ i =>
          rw [hlater]
          exact htail i args' expected' hi
    rw [hsplit,Driver.runTests]
    cases hending : (call (history ++ [args])).ending with
    | exception describe => simp [failed_ending]
    | exits returncode stderr => simp
    | endless => simp
    | returned value =>
      cases hcompared : (Driver.differs expected value.got).ending with
      | escaped returncode stderr => simp [hcompared]
      | endless => simp [hcompared]
      | done different =>
        cases different with
        | true => simp [hcompared,failed_ending]
        | false => simp [hcompared,ih]

theorem drive_passed (candidate : Candidate) (entry : String) :
    (∃ detail, (Driver.drive candidate entry tests).ending = .verdict true detail) ↔ Accepted candidate tests := by
  rw [Driver.drive,Accepted]
  cases hload : candidate.load.ending with
  | exception describe => simp [failed_ending]
  | exits returncode stderr => simp
  | endless => simp
  | returned found =>
    cases found with
    | none => simp
    | some call =>
      simp only [runTests_passed,List.nil_append]
      simp

theorem correct_iff {candidate : Candidate} : Correct candidate tests ↔ Accepted candidate tests ∧
    ∀ call, candidate.load.ending = .returned (some call) → ∀ i < tests.length,
      ∃ value describe, (call (argumentsUpTo tests i)).ending = .returned ⟨.plain value,describe⟩ := by
  constructor
  · rintro ⟨call,hload,hcalls⟩
    constructor
    · refine ⟨call,hload,fun i args expected hi => ?_⟩
      obtain ⟨value,describe,hreturned,hsame⟩ := hcalls i args expected hi
      exact ⟨_,hreturned,by rw [Driver.differs,hsame]; rfl⟩
    · intro call' hload' i hi
      rw [hload] at hload'
      cases hload'
      obtain ⟨value,describe,hreturned,_⟩ := hcalls i _ _ (List.getElem?_eq_getElem hi)
      exact ⟨value,describe,hreturned⟩
  · rintro ⟨⟨call,hload,hcalls⟩,hplain⟩
    refine ⟨call,hload,fun i args expected hi => ?_⟩
    obtain ⟨value,describe,hreturned⟩ := hplain call hload i (List.getElem?_eq_some_iff.mp hi).1
    obtain ⟨_,hreturned',hsame⟩ := hcalls i args expected hi
    rw [hreturned] at hreturned'
    cases hreturned'
    exact ⟨value,describe,hreturned,by simpa [Driver.differs] using hsame⟩

end Driving

section Output
variable {runtime : JsonRuntime} {candidate : Candidate} {entry timeout : String} {tests : Tests}

theorem texts_of_decoded {written : List Line} (h : none ∉ written) :
    written.mapM (required (.unicodeDecodeError "stdout")) = .ok (written.filterMap id) := by
  induction written with
  | nil => rfl
  | cons line written ih =>
    obtain ⟨hline,hrest⟩ := List.forall_mem_cons.mp (fun l hl hnone => h (hnone ▸ hl) : ∀ l ∈ line :: written, l ≠ none)
    obtain ⟨text,rfl⟩ := Option.ne_none_iff_exists'.mp hline
    rw [List.mapM_cons,ih fun hnone => hrest none hnone rfl]
    rfl

theorem readOutput_decoded {written : List Line} {returncode : ℤ} {stderr : String} {outcome : TestOutcome}
    (h : readOutput runtime written returncode stderr = .ok outcome) : none ∉ written := by
  simp only [readOutput,bind_eq_ok,mapM_eq_ok] at h
  obtain ⟨lines,hlines,_⟩ := h
  intro hnone
  obtain ⟨text,_,htext⟩ := exists_right_of_forall₂ hlines hnone
  cases htext

theorem readOutput_verdict (runtime : JsonRuntime) {written : List Line} (h : none ∉ written) (passed : Bool) (detail : PyText) :
    ∃ text, readOutput runtime (written ++ [some (Driver.verdictLine passed detail)]) 0 "" = .ok ⟨passed,text⟩ := by
  obtain ⟨text,htext⟩ := outcome_verdict runtime passed detail
  have hdecoded : none ∉ written ++ [some (Driver.verdictLine passed detail)] := by simpa using h
  have hlines : (written ++ [some (Driver.verdictLine passed detail)]).filterMap id =
      written.filterMap id ++ [Driver.verdictLine passed detail] := by
    rw [List.filterMap_append]
    rfl
  refine ⟨text,?_⟩
  rw [readOutput,texts_of_decoded hdecoded,hlines,ok_bind,verdictLine_last]
  simp only []
  cases hread : runtime.loads (Driver.verdictLine passed detail) with
  | error error =>
    rw [hread] at htext
    cases htext
  | ok result =>
    rw [hread] at htext
    exact htext

theorem readOutput_silent {written : List Line} (h : none ∉ written) (returncode : ℤ) (stderr : String) :
    (∃ outcome, readOutput runtime written returncode stderr = .ok outcome ∧ outcome.passed = false) ↔
      ∀ last, Json.lastLine (written.filterMap id) = some last → Harmless runtime last := by
  rw [readOutput,texts_of_decoded h,ok_bind]
  cases hlast : Json.lastLine (written.filterMap id) with
  | none => simp [pure,Except.pure]
  | some last =>
    simp only [Option.some.injEq,forall_eq',Harmless]
    cases hread : runtime.loads last with
    | error error => cases error <;> simp [pure,Except.pure]
    | ok result =>
      cases result with
      | obj fields =>
        simp only [outcomeOf,bind_eq_ok,pure,Except.pure,Except.ok.injEq]
        constructor
        · rintro ⟨_,⟨passed,hpassed,detail,hdetail,rfl⟩,hfalse⟩
          exact .inr ⟨fields,passed,detail,rfl,hpassed,hfalse,hdetail⟩
        · rintro (⟨_,⟨⟩⟩ | ⟨_,passed,detail,⟨⟩,hpassed,hfalse,hdetail⟩)
          exact ⟨_,⟨passed,hpassed,detail,hdetail,rfl⟩,hfalse⟩
      | scalar value => simp [outcomeOf]
      | str text => simp [outcomeOf]
      | arr items => simp [outcomeOf]

theorem label_of_verdict {passed : Bool} {detail : PyText} (hending : (Driver.drive candidate entry tests).ending = .verdict passed detail) :
    LabelStands runtime candidate entry tests timeout ↔
      none ∉ (Driver.drive candidate entry tests).written ∧ (passed = true → Correct candidate tests) := by
  rw [LabelStands,runHiddenTests]
  simp only [hending]
  constructor
  · rintro ⟨outcome,houtcome,hcorrect⟩
    have hdecoded : none ∉ (Driver.drive candidate entry tests).written := by
      have hall := readOutput_decoded houtcome
      exact fun hnone => hall (List.mem_append_left _ hnone)
    obtain ⟨text,htext⟩ := readOutput_verdict runtime hdecoded passed detail
    rw [htext] at houtcome
    cases houtcome
    exact ⟨hdecoded,hcorrect⟩
  · rintro ⟨hdecoded,hcorrect⟩
    obtain ⟨text,htext⟩ := readOutput_verdict runtime hdecoded passed detail
    exact ⟨_,htext,hcorrect⟩

theorem label_of_silent {returncode : ℤ} {stderr : String}
    (hending : (Driver.drive candidate entry tests).ending = .silent returncode stderr) :
    LabelStands runtime candidate entry tests timeout ↔ none ∉ (Driver.drive candidate entry tests).written ∧
      ∀ last, Json.lastLine ((Driver.drive candidate entry tests).written.filterMap id) = some last → Harmless runtime last := by
  have hwrong : ¬Correct candidate tests := by
    intro hcorrect
    obtain ⟨detail,hdetail⟩ := (drive_passed candidate entry).mpr (correct_iff.mp hcorrect).1
    rw [hending] at hdetail
    cases hdetail
  rw [LabelStands,runHiddenTests]
  simp only [hending]
  constructor
  · rintro ⟨outcome,houtcome,hcorrect⟩
    have hdecoded := readOutput_decoded houtcome
    refine ⟨hdecoded,(readOutput_silent hdecoded returncode stderr).mp ⟨outcome,houtcome,?_⟩⟩
    exact Bool.eq_false_of_not_eq_true (mt hcorrect hwrong)
  · rintro ⟨hdecoded,hharmless⟩
    obtain ⟨outcome,houtcome,hfalse⟩ := (readOutput_silent hdecoded returncode stderr).mpr hharmless
    refine ⟨outcome,houtcome,fun htrue => ?_⟩
    rw [hfalse] at htrue
    cases htrue

theorem not_accepted (h : ∀ detail, (Driver.drive candidate entry tests).ending ≠ .verdict true detail) : ¬Accepted candidate tests := by
  intro haccepted
  obtain ⟨detail,hdetail⟩ := (drive_passed candidate entry).mpr haccepted
  exact h detail hdetail

end Output

theorem label_stands_iff (runtime : JsonRuntime) (candidate : Candidate) (entry : String) (tests : Tests) (timeout : String) :
    LabelStands runtime candidate entry tests timeout ↔ Contained runtime candidate entry tests := by
  cases hending : (Driver.drive candidate entry tests).ending with
  | running =>
    have hnever : ¬Accepted candidate tests := not_accepted fun detail => by rw [hending]; exact nofun
    constructor
    · intro _
      exact ⟨fun hdone => absurd hending hdone,fun _ _ hsilent => by simp [hending] at hsilent,fun haccepted => absurd haccepted hnever⟩
    · intro _
      rw [LabelStands,runHiddenTests]
      simp only [hending]
      exact ⟨_,rfl,nofun⟩
  | silent returncode stderr =>
    have hnever : ¬Accepted candidate tests := not_accepted fun detail => by rw [hending]; exact nofun
    rw [label_of_silent hending]
    constructor
    · rintro ⟨hdecoded,hharmless⟩
      exact ⟨fun _ => hdecoded,fun _ _ _ => hharmless,fun haccepted => absurd haccepted hnever⟩
    · intro h
      exact ⟨h.decoded (by simp [hending]),h.harmless returncode stderr hending⟩
  | verdict passed detail =>
    rw [label_of_verdict hending]
    have haccepted : passed = true ↔ Accepted candidate tests := by
      rw [← drive_passed candidate entry,hending]
      cases passed <;> simp
    constructor
    · rintro ⟨hdecoded,hcorrect⟩
      exact ⟨fun _ => hdecoded,fun _ _ hsilent => by simp [hending] at hsilent,
        fun hall => (correct_iff.mp (hcorrect (haccepted.mpr hall))).2⟩
    · intro h
      refine ⟨h.decoded (by simp [hending]),fun hpassed => ?_⟩
      exact correct_iff.mpr ⟨haccepted.mp hpassed,h.honest (haccepted.mp hpassed)⟩

def plainRuntime : JsonRuntime where
  refuses _ := none
  zeroFloat text := (text.toList.takeWhile fun c => c ≠ 'e' ∧ c ≠ 'E').all fun c => !(c.isDigit && c ≠ '0')
  str
    | .str text => text
    | _ => []
  verdict_read _ _ := rfl

def forger : Candidate := ⟨⟨[some (Driver.verdictLine true (Driver.asText ""))],.exits 0 ""⟩⟩

theorem forged_label : ¬LabelStands plainRuntime forger "f" [([.number (.int 1)],.number (.int 1))] "10.0" := by
  rintro ⟨outcome,houtcome,hcorrect⟩
  have hread : runHiddenTests plainRuntime forger "f" [([.number (.int 1)],.number (.int 1))] "10.0" =
      readOutput plainRuntime ([] ++ [some (Driver.verdictLine true (Driver.asText ""))]) 0 "" := rfl
  obtain ⟨text,htext⟩ := readOutput_verdict plainRuntime List.not_mem_nil true (Driver.asText "")
  rw [hread,htext] at houtcome
  cases houtcome
  obtain ⟨call,hload,_⟩ := hcorrect rfl
  cases hload

end PneumaLab.Gauge
