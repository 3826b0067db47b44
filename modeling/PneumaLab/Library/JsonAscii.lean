import PneumaLab.Library.Json

namespace PneumaLab.Json

section Ascii

def unicodeEscape (unit : ℕ) : List Char :=
  ['\\','u',hexDigit (unit / 4096 % 16),hexDigit (unit / 256 % 16),hexDigit (unit / 16 % 16),hexDigit (unit % 16)]

def asciiEscape (c : Char) : List Char :=
  if 32 ≤ c.toNat ∧ c.toNat ≤ 126 then [c]
  else if c.toNat < 0x10000 then unicodeEscape c.toNat
  else unicodeEscape (0xD800 + (c.toNat - 0x10000) / 1024) ++ unicodeEscape (0xDC00 + (c.toNat - 0x10000) % 1024)

def ascii (text : List Char) : String := String.ofList (text.flatMap asciiEscape)

end Ascii

section Spaced

mutual

-- The default separators of json.dumps: a space after each comma and each colon.
def spaced : Json → List Char
  | .null => ['n','u','l','l']
  | .bool true => ['t','r','u','e']
  | .bool false => ['f','a','l','s','e']
  | .int value => intText value
  | .float text => text.toList
  | .str value => quote value
  | .arr [] => ['[',']']
  | .arr (item :: rest) => '[' :: (spaced item ++ spacedItems rest)
  | .obj [] => ['{','}']
  | .obj ((key,value) :: rest) => '{' :: (quote key ++ ':' :: ' ' :: (spaced value ++ spacedFields rest))

def spacedItems : List Json → List Char
  | [] => [']']
  | item :: rest => ',' :: ' ' :: (spaced item ++ spacedItems rest)

def spacedFields : List (String × Json) → List Char
  | [] => ['}']
  | (key,value) :: rest => ',' :: ' ' :: (quote key ++ ':' :: ' ' :: (spaced value ++ spacedFields rest))

end

end Spaced

section NonFinite

mutual

-- json.dumps writes a float that is not finite under a name of its own.
def named : Json → Json
  | .float text =>
    .float (if text = "nan" then "NaN" else if text = "inf" then "Infinity" else if text = "-inf" then "-Infinity" else text)
  | .arr items => .arr (namedItems items)
  | .obj fields => .obj (namedFields fields)
  | v => v

def namedItems : List Json → List Json
  | [] => []
  | item :: rest => named item :: namedItems rest

def namedFields : List (String × Json) → List (String × Json)
  | [] => []
  | (key,value) :: rest => (key,named value) :: namedFields rest

end

end NonFinite

end PneumaLab.Json
