import PneumaLab.Exceptions
import PneumaLab.Library.Rounding

namespace PneumaLab

-- A finite double is kept as the rational it stands for.
inductive PyFloat where
  | nan
  | infinite (negative : Bool)
  | finite (value : ℚ) (double : Rounding.IsDouble value)
  deriving DecidableEq

namespace PyFloat

def ofRat (value : ℚ) : PyFloat :=
  if h : Int.log 2 |Rounding.nearest value| < 1024 then .finite (Rounding.nearest value) ⟨Rounding.nearest_nearest value,h⟩
  else .infinite (decide (value < 0))

theorem ofRat_double {value : ℚ} (h : Rounding.IsDouble value) : ofRat value = .finite value h := by
  obtain ⟨hself,hsize⟩ := h
  have hrounded : Int.log 2 |Rounding.nearest value| < 1024 := by rwa [hself]
  rw [ofRat,dif_pos hrounded]
  congr 1

def isInfinite : PyFloat → Bool
  | .infinite _ => true
  | _ => false

def zero : PyFloat := ofRat 0

def add : PyFloat → PyFloat → PyFloat
  | .finite x _, .finite y _ => ofRat (x + y)
  | .nan, _ | _, .nan => .nan
  | .infinite x, .infinite y => if x = y then .infinite x else .nan
  | .infinite x, .finite _ _ => .infinite x
  | .finite _ _, .infinite y => .infinite y

theorem isDouble_zero : Rounding.IsDouble 0 :=
  ⟨(Rounding.nearest_of_nonneg le_rfl).trans Rounding.double_zero,
    by rw [abs_zero,Int.log_zero_right]; decide⟩

@[simp] theorem zero_plus (x : PyFloat) : zero.add x = x := by
  rw [zero,ofRat_double isDouble_zero]
  cases x with
  | nan => rfl
  | infinite negative => rfl
  | finite value h => rw [add,zero_add,ofRat_double h]

def gt (limit : ℚ) : PyFloat → Bool
  | .nan => false
  | .infinite negative => !negative
  | .finite value _ => decide (limit < value)

def lt (limit : ℚ) : PyFloat → Bool
  | .nan => false
  | .infinite negative => negative
  | .finite value _ => decide (value < limit)

def le (limit : ℚ) : PyFloat → Bool
  | .nan => false
  | .infinite negative => negative
  | .finite value _ => decide (value ≤ limit)

end PyFloat

inductive Number where
  | int (value : ℤ)
  | float (value : PyFloat)
  deriving DecidableEq

namespace Number

def gt (limit : ℚ) : Number → Bool
  | .int value => decide (limit < value)
  | .float value => value.gt limit

def lt (limit : ℚ) : Number → Bool
  | .int value => decide (value < limit)
  | .float value => value.lt limit

def le (limit : ℚ) : Number → Bool
  | .int value => decide (value ≤ limit)
  | .float value => value.le limit

def toFloat : Number → Py PyFloat
  | .int value =>
    if (PyFloat.ofRat value).isInfinite then .error (.overflowError "int too large to convert to float")
    else .ok (PyFloat.ofRat value)
  | .float value => .ok value

theorem toFloat_int {value : ℤ} (h : Rounding.IsDouble value) : (Number.int value).toFloat = .ok (.finite value h) := by
  rw [toFloat,PyFloat.ofRat_double h]
  rfl

end Number

inductive Value where
  | none
  | bool (value : Bool)
  | int (value : ℤ)
  | float (value : PyFloat)
  | str (value : String)
  | list (items : List Value)
  | dict (fields : List (String × Value))

abbrev Mapping := List (String × Value)

namespace Value

def asNumber : Value → Option Number
  | .int value => some (.int value)
  | .float value => some (.float value)
  | _ => Option.none

def asText : Value → Option String
  | .str text => some text
  | _ => Option.none

def hashable : Value → Bool
  | .list _ | .dict _ => false
  | _ => true

end Value

def Mapping.get (fields : Mapping) (key : String) : Value := (fields.lookup key).getD .none

def replaceChars (pattern replacement : List Char) : ℕ → List Char → List Char
  | 0, text => text
  | _ + 1, [] => []
  | fuel + 1, c :: rest =>
    if pattern.isPrefixOf (c :: rest) then
      replacement ++ replaceChars pattern replacement fuel ((c :: rest).drop pattern.length)
    else c :: replaceChars pattern replacement fuel rest

def replaceText (text pattern replacement : String) : String :=
  String.ofList (replaceChars pattern.toList replacement.toList text.toList.length text.toList)

end PneumaLab
