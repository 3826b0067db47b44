import Mathlib.Data.List.Infix

namespace PneumaLab

-- The characters that str.isspace and the regular expression \s accept.
def isSpace (c : Char) : Bool :=
  decide (c.toNat ∈ [0x09,0x0A,0x0B,0x0C,0x0D,0x1C,0x1D,0x1E,0x1F,0x20,0x85,0xA0,0x1680,0x2028,0x2029,0x202F,0x205F,0x3000]) ||
    decide (0x2000 ≤ c.toNat ∧ c.toNat ≤ 0x200A)

def stripChars (text : List Char) : List Char := ((text.dropWhile isSpace).reverse.dropWhile isSpace).reverse

def strip (text : String) : String := String.ofList (stripChars text.toList)

def hasText (text : String) : Bool := text.toList.any fun c => !isSpace c

-- str.split()
def wordsFrom (current : List Char) : List Char → List (List Char)
  | [] => if current = [] then [] else [current.reverse]
  | c :: rest =>
    if isSpace c then if current = [] then wordsFrom [] rest else current.reverse :: wordsFrom [] rest
    else wordsFrom (c :: current) rest

-- str.lower on the letters of ASCII.
def lowerAscii (text : String) : List Char := text.toList.map Char.toLower

def hasInfix (text pattern : String) : Bool := decide (pattern.toList <:+: text.toList)

abbrev Text := {text : String // hasText text = true}

theorem hasText_append {text : String} (h : hasText text = true) (suffix : String) : hasText (text ++ suffix) = true := by
  rw [hasText,String.toList_append,List.any_append,Bool.or_eq_true]
  exact .inl h

def Text.append (text : Text) (suffix : String) : Text := ⟨text.val ++ suffix,hasText_append text.property suffix⟩

end PneumaLab
