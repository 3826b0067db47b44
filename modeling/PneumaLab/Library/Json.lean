import PneumaLab.Library.Bytes

namespace PneumaLab

-- A dict is kept as its list of fields in key order, each key once; a float by its repr.
inductive Json where
  | null
  | bool (value : Bool)
  | int (value : ℤ)
  | float (text : String)
  | str (value : String)
  | arr (items : List Json)
  | obj (fields : List (String × Json))

namespace Json

mutual

def decEq : (left right : Json) → Decidable (left = right)
  | .null, .null => isTrue rfl
  | .bool x, .bool y => if h : x = y then isTrue (congrArg _ h) else isFalse fun he => h (by cases he; rfl)
  | .int x, .int y => if h : x = y then isTrue (congrArg _ h) else isFalse fun he => h (by cases he; rfl)
  | .float x, .float y =>
    if h : x = y then isTrue (congrArg _ h) else isFalse fun he => h (by cases he; rfl)
  | .str x, .str y => if h : x = y then isTrue (congrArg _ h) else isFalse fun he => h (by cases he; rfl)
  | .arr xs, .arr ys =>
    match decEqItems xs ys with
    | isTrue h => isTrue (congrArg _ h)
    | isFalse h => isFalse fun he => h (by cases he; rfl)
  | .obj xs, .obj ys =>
    match decEqFields xs ys with
    | isTrue h => isTrue (congrArg _ h)
    | isFalse h => isFalse fun he => h (by cases he; rfl)
  | .null, .bool _ | .null, .int _ | .null, .float _ | .null, .str _ | .null, .arr _ | .null, .obj _
  | .bool _, .null | .bool _, .int _ | .bool _, .float _ | .bool _, .str _ | .bool _, .arr _
  | .bool _, .obj _ | .int _, .null | .int _, .bool _ | .int _, .float _ | .int _, .str _
  | .int _, .arr _ | .int _, .obj _ | .float _, .null | .float _, .bool _ | .float _, .int _
  | .float _, .str _ | .float _, .arr _ | .float _, .obj _ | .str _, .null | .str _, .bool _
  | .str _, .int _ | .str _, .float _ | .str _, .arr _ | .str _, .obj _ | .arr _, .null
  | .arr _, .bool _ | .arr _, .int _ | .arr _, .float _ | .arr _, .str _ | .arr _, .obj _
  | .obj _, .null | .obj _, .bool _ | .obj _, .int _ | .obj _, .float _ | .obj _, .str _
  | .obj _, .arr _ => isFalse fun he => by cases he

def decEqItems : (left right : List Json) → Decidable (left = right)
  | [], [] => isTrue rfl
  | [], _ :: _ => isFalse fun he => by cases he
  | _ :: _, [] => isFalse fun he => by cases he
  | x :: xs, y :: ys =>
    match decEq x y, decEqItems xs ys with
    | isTrue hx, isTrue hxs => isTrue (by rw [hx,hxs])
    | isFalse h, _ => isFalse fun he => h (by cases he; rfl)
    | _, isFalse h => isFalse fun he => h (by cases he; rfl)

def decEqFields : (left right : List (String × Json)) → Decidable (left = right)
  | [], [] => isTrue rfl
  | [], _ :: _ => isFalse fun he => by cases he
  | _ :: _, [] => isFalse fun he => by cases he
  | (k,x) :: xs, (l,y) :: ys =>
    if hk : k = l then
      match decEq x y, decEqFields xs ys with
      | isTrue hx, isTrue hxs => isTrue (by rw [hk,hx,hxs])
      | isFalse h, _ => isFalse fun he => h (by cases he; rfl)
      | _, isFalse h => isFalse fun he => h (by cases he; rfl)
    else isFalse fun he => hk (by cases he; rfl)

end

instance : DecidableEq Json := decEq

def get (fields : List (String × Json)) (key : String) : Json :=
  ((fields.find? fun field => field.1 = key).map Prod.snd).getD .null

theorem eq_map_get {fields : List (String × Json)} (hkeys : (fields.map Prod.fst).Nodup) :
    fields = (fields.map Prod.fst).map fun key => (key,get fields key) := by
  induction fields with
  | nil => rfl
  | cons field rest ih =>
    obtain ⟨hfresh,hrest⟩ := List.nodup_cons.mp hkeys
    have htail : (rest.map Prod.fst).map (fun key => (key,get (field :: rest) key)) =
        (rest.map Prod.fst).map fun key => (key,get rest key) := by
      apply List.map_congr_left
      intro key hkey
      have hne : field.1 ≠ key := fun he => hfresh (he ▸ hkey)
      rw [get,get,List.find?_cons_of_neg (by simpa using hne)]
    have hhead : get (field :: rest) field.1 = field.2 := by simp [get]
    rw [List.map_cons,List.map_cons,hhead,htail,← ih hrest]

mutual

def Exact : Json → Prop
  | .null => True
  | .bool _ => True
  | .int _ => True
  | .float _ => False
  | .str _ => True
  | .arr items => ExactItems items
  | .obj fields => (fields.map Prod.fst).Pairwise (· < ·) ∧ ExactFields fields

def ExactItems : List Json → Prop
  | [] => True
  | item :: rest => Exact item ∧ ExactItems rest

def ExactFields : List (String × Json) → Prop
  | [] => True
  | (_,value) :: rest => Exact value ∧ ExactFields rest

end

theorem exactItems_iff {items : List Json} : ExactItems items ↔ ∀ item ∈ items, item.Exact := by
  induction items with
  | nil => simp [ExactItems]
  | cons item rest ih => rw [ExactItems,ih,List.forall_mem_cons]

theorem exact_texts (texts : List String) : (Json.arr (texts.map .str)).Exact := by
  rw [Exact,exactItems_iff]
  intro item hitem
  obtain ⟨text,_,rfl⟩ := List.mem_map.mp hitem
  exact trivial

def escape (c : Char) : List Char :=
  if c = '"' then ['\\','"']
  else if c = '\\' then ['\\','\\']
  else if c = '\n' then ['\\','n']
  else if c = '\r' then ['\\','r']
  else if c = '\t' then ['\\','t']
  else if c.toNat = 12 then ['\\','f']
  else if c.toNat = 8 then ['\\','b']
  else if c.toNat < 32 then ['\\','u','0','0',hexDigit (c.toNat / 16),hexDigit (c.toNat % 16)]
  else [c]

def quote (text : String) : List Char := '"' :: (text.toList.flatMap escape ++ ['"'])

def intText (value : ℤ) : List Char :=
  if value < 0 then '-' :: Nat.toDigits 10 value.natAbs else Nat.toDigits 10 value.natAbs

mutual

def dumps : Json → List Char
  | .null => ['n','u','l','l']
  | .bool true => ['t','r','u','e']
  | .bool false => ['f','a','l','s','e']
  | .int value => intText value
  | .float text => text.toList
  | .str value => quote value
  | .arr [] => ['[',']']
  | .arr (item :: rest) => '[' :: (dumps item ++ dumpsItems rest)
  | .obj [] => ['{','}']
  | .obj ((key,value) :: rest) => '{' :: (quote key ++ ':' :: (dumps value ++ dumpsFields rest))

def dumpsItems : List Json → List Char
  | [] => [']']
  | item :: rest => ',' :: (dumps item ++ dumpsItems rest)

def dumpsFields : List (String × Json) → List Char
  | [] => ['}']
  | (key,value) :: rest => ',' :: (quote key ++ ':' :: (dumps value ++ dumpsFields rest))

end

def skipSpace (text : List Char) : List Char :=
  text.dropWhile fun c => c = ' ' || c = '\t' || c = '\n' || c = '\r'

def simpleEscape (c : Char) : Option Char :=
  if c = '"' then some '"'
  else if c = '\\' then some '\\'
  else if c = '/' then some '/'
  else if c = 'n' then some '\n'
  else if c = 'r' then some '\r'
  else if c = 't' then some '\t'
  else if c = 'f' then some (Char.ofNat 12)
  else if c = 'b' then some (Char.ofNat 8)
  else none

def hexQuad (a b c d : Char) : Option ℕ := do
  return ((← hexValue a) * 4096 + (← hexValue b) * 256 + (← hexValue c) * 16 + (← hexValue d))

-- A lone surrogate, which no Lean character can hold, ends the reading like any other bad escape.
def stringBody : List Char → Option (List Char × List Char)
  | [] => none
  | '"' :: rest => some ([],rest)
  | '\\' :: 'u' :: a :: b :: c :: d :: rest =>
    match hexQuad a b c d with
    | none => none
    | some unit =>
      if 0xD800 ≤ unit ∧ unit ≤ 0xDBFF then
        match rest with
        | '\\' :: 'u' :: e :: f :: g :: h :: rest =>
          match hexQuad e f g h with
          | none => none
          | some low =>
            if 0xDC00 ≤ low ∧ low ≤ 0xDFFF then
              (stringBody rest).map fun read =>
                (Char.ofNat (0x10000 + (unit - 0xD800) * 1024 + (low - 0xDC00)) :: read.1,read.2)
            else none
        | _ => none
      else if 0xDC00 ≤ unit ∧ unit ≤ 0xDFFF then none
      else (stringBody rest).map fun read => (Char.ofNat unit :: read.1,read.2)
  | '\\' :: c :: rest =>
    match simpleEscape c with
    | none => none
    | some plain => (stringBody rest).map fun read => (plain :: read.1,read.2)
  | c :: rest =>
    if c.toNat < 32 then none else (stringBody rest).map fun read => (c :: read.1,read.2)

def digitsOf (text : List Char) : List Char × List Char :=
  (text.takeWhile Char.isDigit,text.dropWhile Char.isDigit)

def fraction : List Char → List Char × List Char
  | '.' :: rest =>
    match digitsOf rest with
    | ([],_) => ([],'.' :: rest)
    | (digits,rest') => ('.' :: digits,rest')
  | text => ([],text)

def exponentSign : List Char → List Char × List Char
  | '+' :: rest => (['+'],rest)
  | '-' :: rest => (['-'],rest)
  | text => ([],text)

def exponent : List Char → List Char × List Char
  | c :: rest =>
    if c = 'e' ∨ c = 'E' then
      match digitsOf (exponentSign rest).2 with
      | ([],_) => ([],c :: rest)
      | (digits,rest') => (c :: ((exponentSign rest).1 ++ digits),rest')
    else ([],c :: rest)
  | [] => ([],[])

variable (floatRepr : String → String)

def scaled (negative : Bool) (digits text : List Char) : Json × List Char :=
  let (decimals,text') := fraction text
  let (power,text'') := exponent text'
  if decimals = [] ∧ power = [] then
    let magnitude : ℤ := Nat.ofDigitChars 10 digits 0
    (.int (if negative then -magnitude else magnitude),text'')
  else
    (.float (floatRepr (String.ofList
      ((if negative then ['-'] else []) ++ digits ++ decimals ++ power))),text'')

def unsigned (negative : Bool) : List Char → Option (Json × List Char)
  | '0' :: rest => some (scaled floatRepr negative ['0'] rest)
  | text =>
    match digitsOf text with
    | ([],_) => none
    | (digits,rest) => some (scaled floatRepr negative digits rest)

def number : List Char → Option (Json × List Char)
  | '-' :: rest => unsigned floatRepr true rest
  | text => unsigned floatRepr false text

def closeFields (fields : List (String × Json)) : Option Json :=
  if (fields.map Prod.fst).Nodup then some (.obj (fields.mergeSort fun x y => x.1 ≤ y.1)) else none

theorem closeFields_sorted {fields : List (String × Json)} (h : (fields.map Prod.fst).Pairwise (· < ·)) :
    closeFields fields = some (.obj fields) := by
  have hnodup : (fields.map Prod.fst).Nodup := h.imp fun hlt => hlt.ne
  have hsorted : fields.Pairwise fun x y => decide (x.1 ≤ y.1) = true :=
    (List.pairwise_map.mp h).imp fun hlt => decide_eq_true hlt.le
  rw [closeFields,if_pos hnodup,List.mergeSort_of_pairwise hsorted]

def lastWins : List (String × Json) → List (String × Json)
  | [] => []
  | field :: rest => if field.1 ∈ rest.map Prod.fst then lastWins rest else field :: lastWins rest

def dictFields (fields : List (String × Json)) : Option Json :=
  some (.obj ((lastWins fields).mergeSort fun x y => x.1 ≤ y.1))

theorem dictFields_sorted {fields : List (String × Json)} (h : (fields.map Prod.fst).Pairwise (· < ·)) :
    dictFields fields = some (.obj fields) := by
  have hsame : lastWins fields = fields := by
    induction fields with
    | nil => rfl
    | cons field rest ih =>
      obtain ⟨hfirst,hrest⟩ := List.pairwise_cons.mp h
      rw [lastWins,if_neg fun hmem => (hfirst field.1 hmem).ne rfl,ih hrest]
  have hsorted : fields.Pairwise fun x y => decide (x.1 ≤ y.1) = true :=
    (List.pairwise_map.mp h).imp fun hlt => decide_eq_true hlt.le
  rw [dictFields,hsame,List.mergeSort_of_pairwise hsorted]

-- How floats are shown, whether NaN and the infinities are read, and what becomes of a dict's fields.
structure Reader where
  floatRepr : String → String
  constants : Bool
  close : List (String × Json) → Option Json
  close_sorted : ∀ {fields : List (String × Json)}, (fields.map Prod.fst).Pairwise (· < ·) →
    close fields = some (.obj fields)

def Reader.strict (floatRepr : String → String) : Reader := ⟨floatRepr,false,closeFields,closeFields_sorted⟩

def Reader.python (floatRepr : String → String) : Reader := ⟨floatRepr,true,dictFields,dictFields_sorted⟩

def constant (name : String) (reader : Reader) (rest : List Char) : Option (Json × List Char) :=
  if reader.constants then some (.float name,rest) else none

variable (reader : Reader)

mutual

def value : ℕ → List Char → Option (Json × List Char)
  | 0, _ => none
  | fuel + 1, text =>
    match text with
    | '"' :: rest => (stringBody rest).map fun read => (.str (String.ofList read.1),read.2)
    | '[' :: rest =>
      match skipSpace rest with
      | ']' :: rest => some (.arr [],rest)
      | rest => (items fuel rest).map fun read => (.arr read.1,read.2)
    | '{' :: rest =>
      match skipSpace rest with
      | '}' :: rest => some (.obj [],rest)
      | rest => (members fuel rest).bind fun read => (reader.close read.1).map fun dict => (dict,read.2)
    | 'n' :: 'u' :: 'l' :: 'l' :: rest => some (.null,rest)
    | 't' :: 'r' :: 'u' :: 'e' :: rest => some (.bool true,rest)
    | 'f' :: 'a' :: 'l' :: 's' :: 'e' :: rest => some (.bool false,rest)
    | 'N' :: 'a' :: 'N' :: rest => constant "nan" reader rest
    | 'I' :: 'n' :: 'f' :: 'i' :: 'n' :: 'i' :: 't' :: 'y' :: rest => constant "inf" reader rest
    | '-' :: 'I' :: 'n' :: 'f' :: 'i' :: 'n' :: 'i' :: 't' :: 'y' :: rest => constant "-inf" reader rest
    | text => number reader.floatRepr text

def items : ℕ → List Char → Option (List Json × List Char)
  | 0, _ => none
  | fuel + 1, text =>
    (value fuel text).bind fun head =>
      match skipSpace head.2 with
      | ',' :: rest => (items fuel (skipSpace rest)).map fun read => (head.1 :: read.1,read.2)
      | ']' :: rest => some ([head.1],rest)
      | _ => none

def members : ℕ → List Char → Option (List (String × Json) × List Char)
  | 0, _ => none
  | fuel + 1, text =>
    match text with
    | '"' :: rest =>
      (stringBody rest).bind fun key =>
        match skipSpace key.2 with
        | ':' :: rest =>
          (value fuel (skipSpace rest)).bind fun head =>
            match skipSpace head.2 with
            | ',' :: rest =>
              (members fuel (skipSpace rest)).map fun read =>
                ((String.ofList key.1,head.1) :: read.1,read.2)
            | '}' :: rest => some ([(String.ofList key.1,head.1)],rest)
            | _ => none
        | _ => none
    | _ => none

end

def loadsWith (text : List Char) : Option Json :=
  match value reader (text.length + 1) (skipSpace text) with
  | some (read,rest) => if skipSpace rest = [] then some read else none
  | none => none

def loads (floatRepr : String → String) (text : List Char) : Option Json := loadsWith (.strict floatRepr) text

end Json

end PneumaLab
