import PneumaLab.Foundation.Records

namespace PneumaLab.Traces

open Foundation

-- Functions of the interpreter and its libraries on a text or a value alone.
structure Interpreter where
  sha256 : Bytes → Digest
  blake2b : ℕ → Bytes → Bytes
  strOf : Json → String
  intOf : String → Option ℤ
  quotient : ℤ → ℕ → Option String
  loads : String → Option Json
  lower : String → String
  casefold : String → String
  strip : String → String
  isDecimal : Char → Bool

def typeName : Json → String
  | .null => "NoneType"
  | .bool _ => "bool"
  | .int _ => "int"
  | .float _ => "float"
  | .str _ => "str"
  | .arr _ => "list"
  | .obj _ => "dict"

def truthy : Json → Bool
  | .null => false
  | .bool value => value
  | .int value => decide (value ≠ 0)
  | .float text => decide (text ∈ ["nan","inf","-inf"]) || !isZero (.float text)
  | .str text => decide (text ≠ "")
  | .arr items => !items.isEmpty
  | .obj fields => !fields.isEmpty

def orElse (v other : Json) : Json := if truthy v then v else other

def getField (v : Json) (key : String) (absent : Json) : Py Json :=
  match v with
  | .obj fields => .ok ((fields.lookup key).getD absent)
  | _ => .error (.attributeError ("'" ++ typeName v ++ "' object has no attribute 'get'"))

def iterate : Json → Py (List Json)
  | .arr items => .ok items
  | .obj fields => .ok (fields.map fun field => .str field.1)
  | .str text => .ok (text.toList.map fun c => .str (String.singleton c))
  | v => .error (.typeError ("'" ++ typeName v ++ "' object is not iterable"))

def truncate (q : ℚ) : ℤ := if 0 ≤ q then ⌊q⌋ else ⌈q⌉

-- The number a value is to the interpreter's comparisons.
def numberOf : Json → Option ℚ
  | .int value => some value
  | .bool value => some (if value then 1 else 0)
  | .float text => if text ∈ ["nan","inf","-inf"] then none else some (floatValue text.toList)
  | _ => none

section Interpreted
variable (python : Interpreter)

def str : Json → String
  | .str text => text
  | v => python.strOf v

def pyInt : Json → Py ℤ
  | .int value => .ok value
  | .bool value => .ok (if value then 1 else 0)
  | .float text =>
    if text = "nan" then .error (.valueError "cannot convert float NaN to integer")
    else if text ∈ ["inf","-inf"] then .error (.overflowError "cannot convert float infinity to integer")
    else .ok (truncate (floatValue text.toList))
  | .str text => required (.valueError "invalid literal for int() with base 10") (python.intOf text)
  | v => .error (.typeError ("int() argument must be a string, a bytes-like object or a real number, not '" ++ typeName v ++ "'"))

def divide (total : ℤ) (count : ℕ) : Py Json :=
  if count = 0 then .ok (.float "0.0")
  else do return .float (← required (.overflowError "integer division result too large for a float") (python.quotient total count))

def sha256Hex (text : String) : String := (python.sha256 (utf8 text)).hex

def countField (v : Json) (key : String) : Py ℤ := do
  pyInt python (orElse (← getField v key .null) (.int 0))

end Interpreted

def listField (v : Json) (key : String) : Py (List Json) := do
  iterate (orElse (← getField v key .null) (.arr []))

def mapField (v : Json) (key : String) : Py Json := do
  return orElse (← getField v key .null) (.obj [])

end PneumaLab.Traces
