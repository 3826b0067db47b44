import PneumaLab.Library.Json

namespace PneumaLab

-- The code points of a string of Python, which may hold lone surrogates.
abbrev CodePoints := List ℕ

def codePoints (text : String) : CodePoints := text.toList.map Char.toNat

inductive Document where
  | scalar (value : Json)
  | str (text : CodePoints)
  | arr (items : List Document)
  | obj (fields : List (CodePoints × Document))

namespace Document

def joinSurrogates : CodePoints → CodePoints
  | high :: low :: rest =>
    if 0xD800 ≤ high ∧ high ≤ 0xDBFF ∧ 0xDC00 ≤ low ∧ low ≤ 0xDFFF then
      (0x10000 + (high - 0xD800) * 1024 + (low - 0xDC00)) :: joinSurrogates rest
    else high :: joinSurrogates (low :: rest)
  | units => units

-- The text itself holds no surrogate, so a pair comes from two escapes.
def stringUnits : List Char → Option (CodePoints × List Char)
  | [] => none
  | '"' :: rest => some ([],rest)
  | '\\' :: 'u' :: a :: b :: c :: d :: rest =>
    match Json.hexQuad a b c d with
    | none => none
    | some unit => (stringUnits rest).map fun read => (unit :: read.1,read.2)
  | '\\' :: c :: rest =>
    match Json.simpleEscape c with
    | none => none
    | some plain => (stringUnits rest).map fun read => (plain.toNat :: read.1,read.2)
  | c :: rest => if c.toNat < 32 then none else (stringUnits rest).map fun read => (c.toNat :: read.1,read.2)

def string (text : List Char) : Option (CodePoints × List Char) :=
  (stringUnits text).map fun read => (joinSurrogates read.1,read.2)

-- A strict reader refuses repeated keys, NaN and the infinities. Another takes them all.
def close (strict : Bool) (fields : List (CodePoints × Document)) : Option Document :=
  if strict && !decide (fields.map Prod.fst).Nodup then none else some (.obj fields)

def constant (strict : Bool) (name : String) (rest : List Char) : Option (Document × List Char) :=
  if strict then none else some (.scalar (.float name),rest)

variable (strict : Bool)

mutual

def value : ℕ → List Char → Option (Document × List Char)
  | 0,_ => none
  | fuel + 1,text =>
    match text with
    | '"' :: rest => (string rest).map fun read => (.str read.1,read.2)
    | '[' :: rest =>
      match Json.skipSpace rest with
      | ']' :: rest => some (.arr [],rest)
      | rest => (items fuel rest).map fun read => (.arr read.1,read.2)
    | '{' :: rest =>
      match Json.skipSpace rest with
      | '}' :: rest => some (.obj [],rest)
      | rest => (members fuel rest).bind fun read => (close strict read.1).map fun dict => (dict,read.2)
    | 'n' :: 'u' :: 'l' :: 'l' :: rest => some (.scalar .null,rest)
    | 't' :: 'r' :: 'u' :: 'e' :: rest => some (.scalar (.bool true),rest)
    | 'f' :: 'a' :: 'l' :: 's' :: 'e' :: rest => some (.scalar (.bool false),rest)
    | 'N' :: 'a' :: 'N' :: rest => constant strict "nan" rest
    | 'I' :: 'n' :: 'f' :: 'i' :: 'n' :: 'i' :: 't' :: 'y' :: rest => constant strict "inf" rest
    | '-' :: 'I' :: 'n' :: 'f' :: 'i' :: 'n' :: 'i' :: 't' :: 'y' :: rest => constant strict "-inf" rest
    | text => (Json.number id text).map fun read => (.scalar read.1,read.2)

def items : ℕ → List Char → Option (List Document × List Char)
  | 0,_ => none
  | fuel + 1,text =>
    (value fuel text).bind fun head =>
      match Json.skipSpace head.2 with
      | ',' :: rest => (items fuel (Json.skipSpace rest)).map fun read => (head.1 :: read.1,read.2)
      | ']' :: rest => some ([head.1],rest)
      | _ => none

def members : ℕ → List Char → Option (List (CodePoints × Document) × List Char)
  | 0,_ => none
  | fuel + 1,text =>
    match text with
    | '"' :: rest =>
      (string rest).bind fun key =>
        match Json.skipSpace key.2 with
        | ':' :: rest =>
          (value fuel (Json.skipSpace rest)).bind fun head =>
            match Json.skipSpace head.2 with
            | ',' :: rest => (members fuel (Json.skipSpace rest)).map fun read => ((key.1,head.1) :: read.1,read.2)
            | '}' :: rest => some ([(key.1,head.1)],rest)
            | _ => none
        | _ => none
    | _ => none

end

-- decoder.raw_decode: the value at the start of a text, and what is left.
def rawDecode (text : List Char) : Option (Document × List Char) := value strict (text.length + 1) text

def loads (text : List Char) : Option Document :=
  match rawDecode strict (Json.skipSpace text) with
  | some (read,rest) => if Json.skipSpace rest = [] then some read else none
  | none => none

end Document

namespace Document

section Numbers

def numeric (c : Char) : Bool := c.isDigit || decide (c ∈ ['-','+','.','e','E'])

def Takes (text rest : List Char) : Prop := ∃ front, text = front ++ rest ∧ ∀ c ∈ front, numeric c = true

theorem Takes.refl (text : List Char) : Takes text text := ⟨[],rfl,fun _ h => absurd h List.not_mem_nil⟩

theorem Takes.cons {c : Char} {text rest : List Char} (hc : numeric c = true) (h : Takes text rest) :
    Takes (c :: text) rest := by
  obtain ⟨front,rfl,hfront⟩ := h
  exact ⟨c :: front,rfl,List.forall_mem_cons.mpr ⟨hc,hfront⟩⟩

theorem Takes.trans {text middle rest : List Char} (h : Takes text middle) (h' : Takes middle rest) : Takes text rest := by
  obtain ⟨front,rfl,hfront⟩ := h
  obtain ⟨front',rfl,hfront'⟩ := h'
  refine ⟨front ++ front',(List.append_assoc _ _ _).symm,fun c hc => ?_⟩
  obtain hc | hc := List.mem_append.mp hc
  · exact hfront c hc
  · exact hfront' c hc

theorem numeric_digit {c : Char} (h : c.isDigit = true) : numeric c = true := by
  rw [numeric,h]
  rfl

theorem takes_digits (text : List Char) : Takes text (Json.digitsOf text).2 :=
  ⟨text.takeWhile Char.isDigit,List.takeWhile_append_dropWhile.symm,fun _ hc => numeric_digit (List.all_eq_true.mp List.all_takeWhile _ hc)⟩

theorem takes_fraction (text : List Char) : Takes text (Json.fraction text).2 := by
  rw [Json.fraction.eq_def]
  split
  · next rest =>
    split
    · exact .refl _
    · next digits rest' _ hdigits =>
      have hrest : rest' = (Json.digitsOf rest).2 := (congrArg Prod.snd hdigits).symm
      rw [hrest]
      exact .cons (by decide) (takes_digits rest)
  · exact .refl _

theorem takes_sign (text : List Char) : Takes text (Json.exponentSign text).2 := by
  rw [Json.exponentSign.eq_def]
  split
  · exact .cons (by decide) (.refl _)
  · exact .cons (by decide) (.refl _)
  · exact .refl _

theorem takes_exponent (text : List Char) : Takes text (Json.exponent text).2 := by
  rw [Json.exponent.eq_def]
  split
  · next c rest =>
    split
    · next hc =>
      split
      · exact .refl _
      · next digits rest' _ hdigits =>
        have hrest : rest' = (Json.digitsOf (Json.exponentSign rest).2).2 := (congrArg Prod.snd hdigits).symm
        rw [hrest]
        have hmark : numeric c = true := by
          obtain rfl | rfl := hc
          · decide
          · decide
        exact .cons hmark ((takes_sign rest).trans (takes_digits _))
    · exact .refl _
  · exact .refl _

theorem takes_scaled (negative : Bool) (digits text : List Char) : Takes text (Json.scaled id negative digits text).2 := by
  have hrest : (Json.scaled id negative digits text).2 = (Json.exponent (Json.fraction text).2).2 := by
    rw [Json.scaled]
    dsimp only
    split
    · rfl
    · rfl
  rw [hrest]
  exact (takes_fraction text).trans (takes_exponent _)

theorem takes_unsigned {negative : Bool} {text : List Char} {read : Json × List Char}
    (h : Json.unsigned id negative text = some read) :
    ∃ c tail, text = c :: tail ∧ numeric c = true ∧ Takes tail read.2 := by
  rw [Json.unsigned.eq_def] at h
  split at h
  · next rest =>
    obtain rfl := Option.some.inj h
    exact ⟨'0',rest,rfl,by decide,takes_scaled _ _ rest⟩
  · split at h
    · cases h
    · next digits rest hnonempty hdigits =>
      obtain rfl := Option.some.inj h
      cases text with
      | nil => exact absurd (congrArg Prod.fst hdigits).symm hnonempty
      | cons c tail =>
        by_cases hc : c.isDigit = true
        · have hrest : rest = (Json.digitsOf tail).2 := by
            have hsnd := congrArg Prod.snd hdigits
            rw [Json.digitsOf,List.dropWhile_cons_of_pos hc] at hsnd
            exact hsnd.symm
          rw [hrest]
          exact ⟨c,tail,rfl,numeric_digit hc,(takes_digits tail).trans (takes_scaled _ _ _)⟩
        · have hfst := congrArg Prod.fst hdigits
          rw [Json.digitsOf,List.takeWhile_cons_of_neg hc] at hfst
          exact absurd hfst.symm hnonempty

theorem takes_number {text : List Char} {read : Json × List Char} (h : Json.number id text = some read) :
    ∃ c tail, text = c :: tail ∧ numeric c = true ∧ Takes tail read.2 := by
  rw [Json.number.eq_def] at h
  split at h
  · next rest =>
    obtain ⟨c,tail,rfl,hc,htail⟩ := takes_unsigned h
    exact ⟨'-',c :: tail,rfl,by decide,.cons hc htail⟩
  · exact takes_unsigned h

end Numbers

section Inversion
variable {strict : Bool}

def scalarChar (c : Char) : Bool := numeric c || c.isAlpha

def Scalar (text rest : List Char) : Prop :=
  ∃ c front, text = c :: (front ++ rest) ∧ scalarChar c = true ∧ ∀ d ∈ front, scalarChar d = true

theorem scalar_word (c : Char) (front : List Char) {rest : List Char} (h : (c :: front).all scalarChar = true) :
    Scalar (c :: (front ++ rest)) rest := by
  rw [List.all_cons,Bool.and_eq_true,List.all_eq_true] at h
  exact ⟨c,front,rfl,h.1,h.2⟩

inductive ValueOf (strict : Bool) (fuel : ℕ) : List Char → Document → List Char → Prop where
  | str {tail rest : List Char} {text : CodePoints} (h : string tail = some (text,rest)) :
    ValueOf strict fuel ('"' :: tail) (.str text) rest
  | noItems {tail rest : List Char} (h : Json.skipSpace tail = ']' :: rest) :
    ValueOf strict fuel ('[' :: tail) (.arr []) rest
  | arr {tail rest : List Char} {read : List Document} (h : items strict fuel (Json.skipSpace tail) = some (read,rest)) :
    ValueOf strict fuel ('[' :: tail) (.arr read) rest
  | noFields {tail rest : List Char} (h : Json.skipSpace tail = '}' :: rest) :
    ValueOf strict fuel ('{' :: tail) (.obj []) rest
  | obj {tail rest : List Char} {fields : List (CodePoints × Document)}
    (h : members strict fuel (Json.skipSpace tail) = some (fields,rest)) :
    ValueOf strict fuel ('{' :: tail) (.obj fields) rest
  | scalar {text rest : List Char} {read : Json} (h : Scalar text rest) : ValueOf strict fuel text (.scalar read) rest

theorem constant_scalar (c : Char) (front : List Char) {name : String} {rest rest' : List Char} {v : Document}
    (hword : (c :: front).all scalarChar = true) (h : constant strict name rest = some (v,rest')) (fuel : ℕ) :
    ValueOf strict fuel (c :: (front ++ rest)) v rest' := by
  rw [constant] at h
  split at h
  · cases h
  · cases h
    exact .scalar (scalar_word c front hword)

theorem value_cases {fuel : ℕ} {text rest : List Char} {v : Document} (h : value strict (fuel + 1) text = some (v,rest)) :
    ValueOf strict fuel text v rest := by
  rw [value.eq_def] at h
  dsimp only at h
  split at h
  · obtain ⟨read,hread,hpair⟩ := Option.map_eq_some_iff.mp h
    cases hpair
    exact .str hread
  · split at h
    · next hclose =>
      cases h
      exact .noItems hclose
    · obtain ⟨read,hread,hpair⟩ := Option.map_eq_some_iff.mp h
      cases hpair
      exact .arr hread
  · split at h
    · next hclose =>
      cases h
      exact .noFields hclose
    · obtain ⟨read,hread,hdict⟩ := Option.bind_eq_some_iff.mp h
      obtain ⟨dict,hclose,hpair⟩ := Option.map_eq_some_iff.mp hdict
      cases hpair
      rw [close] at hclose
      split at hclose
      · cases hclose
      · cases hclose
        exact .obj hread
  · cases h
    exact .scalar (scalar_word 'n' ['u','l','l'] (by decide))
  · cases h
    exact .scalar (scalar_word 't' ['r','u','e'] (by decide))
  · cases h
    exact .scalar (scalar_word 'f' ['a','l','s','e'] (by decide))
  · exact constant_scalar 'N' ['a','N'] (by decide) h fuel
  · exact constant_scalar 'I' ['n','f','i','n','i','t','y'] (by decide) h fuel
  · exact constant_scalar '-' ['I','n','f','i','n','i','t','y'] (by decide) h fuel
  · obtain ⟨read,hread,hpair⟩ := Option.map_eq_some_iff.mp h
    cases hpair
    obtain ⟨c,tail,rfl,hc,front,rfl,hfront⟩ := takes_number hread
    refine .scalar ⟨c,front,rfl,?_,fun d hd => ?_⟩
    · rw [scalarChar,hc]
      rfl
    · rw [scalarChar,hfront d hd]
      rfl

theorem items_cases {fuel : ℕ} {text rest : List Char} {read : List Document}
    (h : items strict (fuel + 1) text = some (read,rest)) :
    ∃ v after, value strict fuel text = some (v,after) ∧ (Json.skipSpace after = ']' :: rest ∨
      ∃ tail later, Json.skipSpace after = ',' :: tail ∧ items strict fuel (Json.skipSpace tail) = some (later,rest)) := by
  rw [items] at h
  obtain ⟨⟨v,after⟩,hvalue,hrest⟩ := Option.bind_eq_some_iff.mp h
  refine ⟨v,after,hvalue,?_⟩
  dsimp only at hrest
  split at hrest
  · next tail hcomma =>
    obtain ⟨⟨later,closing⟩,hlater,hpair⟩ := Option.map_eq_some_iff.mp hrest
    cases hpair
    exact .inr ⟨tail,later,hcomma,hlater⟩
  · next hclose =>
    cases hrest
    exact .inl hclose
  · cases hrest

inductive MembersOf (strict : Bool) (fuel : ℕ) : List Char → List (CodePoints × Document) → List Char → Prop where
  | last {tail colon after next rest : List Char} {key : CodePoints} {v : Document} (hkey : string tail = some (key,colon))
    (hcolon : Json.skipSpace colon = ':' :: after) (hvalue : value strict fuel (Json.skipSpace after) = some (v,next))
    (hclose : Json.skipSpace next = '}' :: rest) : MembersOf strict fuel ('"' :: tail) [(key,v)] rest
  | more {tail colon after next comma rest : List Char} {key : CodePoints} {v : Document}
    {later : List (CodePoints × Document)} (hkey : string tail = some (key,colon))
    (hcolon : Json.skipSpace colon = ':' :: after) (hvalue : value strict fuel (Json.skipSpace after) = some (v,next))
    (hcomma : Json.skipSpace next = ',' :: comma)
    (hlater : members strict fuel (Json.skipSpace comma) = some (later,rest)) :
    MembersOf strict fuel ('"' :: tail) ((key,v) :: later) rest

theorem members_cases {fuel : ℕ} {text rest : List Char} {fields : List (CodePoints × Document)}
    (h : members strict (fuel + 1) text = some (fields,rest)) : MembersOf strict fuel text fields rest := by
  rw [members.eq_def] at h
  dsimp only at h
  split at h
  · obtain ⟨⟨key,colon⟩,hkey,hrest⟩ := Option.bind_eq_some_iff.mp h
    dsimp only at hrest
    split at hrest
    · next after hcolon =>
      obtain ⟨⟨v,next⟩,hvalue,hend⟩ := Option.bind_eq_some_iff.mp hrest
      dsimp only at hend
      split at hend
      · next comma hcomma =>
        obtain ⟨⟨later,closing⟩,hlater,hpair⟩ := Option.map_eq_some_iff.mp hend
        cases hpair
        exact .more hkey hcolon hvalue hcomma hlater
      · next hclose =>
        cases hend
        exact .last hkey hcolon hvalue hclose
      · cases hend
    · cases hrest
  · cases h

end Inversion

section Strings

theorem hexValue_plain {c : Char} {n : ℕ} (h : hexValue c = some n) : c ≠ '"' ∧ c ≠ '\\' := by
  constructor
  · rintro rfl
    have hnone : hexValue '"' = none := by decide
    rw [hnone] at h
    cases h
  · rintro rfl
    have hnone : hexValue '\\' = none := by decide
    rw [hnone] at h
    cases h

theorem hexQuad_plain {a b c d : Char} {unit : ℕ} (h : Json.hexQuad a b c d = some unit) :
    ∀ x ∈ [a,b,c,d], x ≠ '"' ∧ x ≠ '\\' := by
  simp only [Json.hexQuad,bind,Option.bind_eq_some_iff] at h
  obtain ⟨_,ha,_,hb,_,hc,_,hd,-⟩ := h
  intro x hx
  simp only [List.mem_cons,List.not_mem_nil,or_false] at hx
  obtain rfl | rfl | rfl | rfl := hx
  · exact hexValue_plain ha
  · exact hexValue_plain hb
  · exact hexValue_plain hc
  · exact hexValue_plain hd

theorem stringUnits_rec {R : List Char → List Char → Prop} (close : ∀ rest, R ('"' :: rest) rest)
    (unicode : ∀ a b c d rest out, (∀ x ∈ [a,b,c,d], x ≠ '"' ∧ x ≠ '\\') → R rest out →
      R ('\\' :: 'u' :: a :: b :: c :: d :: rest) out)
    (escaped : ∀ c rest out, R rest out → R ('\\' :: c :: rest) out)
    (plain : ∀ c rest out, c ≠ '"' → c ≠ '\\' → R rest out → R (c :: rest) out) {text : List Char}
    {read : CodePoints × List Char} (h : stringUnits text = some read) : R text read.2 := by
  induction text using stringUnits.induct generalizing read with
  | case1 => cases h
  | case2 rest =>
    rw [stringUnits] at h
    cases h
    exact close rest
  | case3 a b c d rest hquad =>
    rw [stringUnits,hquad] at h
    cases h
  | case4 a b c d rest unit hquad ih =>
    rw [stringUnits,hquad] at h
    obtain ⟨later,hlater,rfl⟩ := Option.map_eq_some_iff.mp h
    have hrest : R rest later.2 := ih hlater
    exact unicode a b c d rest _ (hexQuad_plain hquad) hrest
  | case5 c rest hshort hnone =>
    rw [stringUnits,hnone] at h
    · cases h
    · exact hshort
  | case6 c rest hshort plain hsome ih =>
    rw [stringUnits,hsome] at h
    · obtain ⟨later,hlater,rfl⟩ := Option.map_eq_some_iff.mp h
      have hrest : R rest later.2 := ih hlater
      exact escaped c rest _ hrest
    · exact hshort
  | case7 c rest hquote hunicode hescape hcontrol =>
    rw [stringUnits,if_pos hcontrol] at h
    · cases h
    · exact hquote
    · exact hunicode
    · exact hescape
  | case8 c rest hquote hunicode hescape hcontrol ih =>
    rw [stringUnits,if_neg hcontrol] at h
    · obtain ⟨later,hlater,rfl⟩ := Option.map_eq_some_iff.mp h
      have hrest : R rest later.2 := ih hlater
      by_cases hslash : c = '\\'
      · cases rest with
        | nil => cases hlater
        | cons d rest => exact (hescape d rest hslash rfl).elim
      · exact plain c rest _ hquote hslash hrest
    · exact hquote
    · exact hunicode
    · exact hescape

theorem string_rec {R : List Char → List Char → Prop} (close : ∀ rest, R ('"' :: rest) rest)
    (unicode : ∀ a b c d rest out, (∀ x ∈ [a,b,c,d], x ≠ '"' ∧ x ≠ '\\') → R rest out →
      R ('\\' :: 'u' :: a :: b :: c :: d :: rest) out)
    (escaped : ∀ c rest out, R rest out → R ('\\' :: c :: rest) out)
    (plain : ∀ c rest out, c ≠ '"' → c ≠ '\\' → R rest out → R (c :: rest) out) {text : List Char}
    {read : CodePoints × List Char} (h : string text = some read) : R text read.2 := by
  obtain ⟨units,hunits,rfl⟩ := Option.map_eq_some_iff.mp h
  have hread : R text units.2 := stringUnits_rec close unicode escaped plain hunits
  exact hread

end Strings

section Blanks

def blank (c : Char) : Bool := c = ' ' || c = '\t' || c = '\n' || c = '\r'

theorem skipSpace_cons (c : Char) (rest : List Char) :
    Json.skipSpace (c :: rest) = if blank c then Json.skipSpace rest else c :: rest := List.dropWhile_cons

theorem skipSpace_idem (text : List Char) : Json.skipSpace (Json.skipSpace text) = Json.skipSpace text := by
  induction text with
  | nil => rfl
  | cons c rest ih =>
    rw [skipSpace_cons]
    split
    · exact ih
    · next hblank => rw [skipSpace_cons,if_neg hblank]

end Blanks

section Lengths
variable {strict : Bool}

theorem skipSpace_length (text : List Char) : (Json.skipSpace text).length ≤ text.length :=
  (List.dropWhile_sublist _).length_le

theorem skipSpace_cons_length {text tail : List Char} {c : Char} (h : Json.skipSpace text = c :: tail) :
    tail.length < text.length := by
  have hle := skipSpace_length text
  rw [h,List.length_cons] at hle
  omega

theorem string_length {text : List Char} {read : CodePoints × List Char} (h : string text = some read) :
    read.2.length < text.length := by
  refine string_rec (R := fun text rest => rest.length < text.length) ?_ ?_ ?_ ?_ h
  · intro rest
    exact Nat.lt_succ_self _
  · intro a b c d rest out _ hlt
    simp only [List.length_cons]
    omega
  · intro c rest out hlt
    simp only [List.length_cons]
    omega
  · intro c rest out _ _ hlt
    simp only [List.length_cons]
    omega

theorem lengths (fuel : ℕ) :
    (∀ text v rest, value strict fuel text = some (v,rest) → rest.length < text.length) ∧
    (∀ text read rest, items strict fuel text = some (read,rest) → rest.length < text.length) ∧
    (∀ text fields rest, members strict fuel text = some (fields,rest) → rest.length < text.length) := by
  induction fuel with
  | zero => exact ⟨fun _ _ _ h => (by cases h),fun _ _ _ h => (by cases h),fun _ _ _ h => (by cases h)⟩
  | succ fuel ih =>
    obtain ⟨hvalue,hitems,hmembers⟩ := ih
    refine ⟨fun text v rest h => ?_,fun text read rest h => ?_,fun text fields rest h => ?_⟩
    · cases value_cases h with
      | str hstring => exact (string_length hstring).trans (Nat.lt_succ_self _)
      | noItems hclose => exact (skipSpace_cons_length hclose).trans (Nat.lt_succ_self _)
      | arr hread => exact (lt_of_lt_of_le (hitems _ _ _ hread) (skipSpace_length _)).trans (Nat.lt_succ_self _)
      | noFields hclose => exact (skipSpace_cons_length hclose).trans (Nat.lt_succ_self _)
      | obj hread => exact (lt_of_lt_of_le (hmembers _ _ _ hread) (skipSpace_length _)).trans (Nat.lt_succ_self _)
      | scalar hscalar =>
        obtain ⟨c,front,rfl,-,-⟩ := hscalar
        rw [List.length_cons,List.length_append]
        omega
    · obtain ⟨v,after,hread,hclose | ⟨tail,later,hcomma,hlater⟩⟩ := items_cases h
      · exact (skipSpace_cons_length hclose).trans (hvalue _ _ _ hread)
      · have hafter := hvalue _ _ _ hread
        have htail := skipSpace_cons_length hcomma
        have hspace := skipSpace_length tail
        have hend := hitems _ _ _ hlater
        omega
    · cases members_cases h with
      | @last tail colon after next _ key v hkey hcolon hread hclose =>
        have hcolonLength := string_length hkey
        have hafter := skipSpace_cons_length hcolon
        have hspace := skipSpace_length after
        have hnext := hvalue _ _ _ hread
        have hend := skipSpace_cons_length hclose
        rw [List.length_cons]
        dsimp only at hcolonLength
        omega
      | @more tail colon after next comma _ key v later hkey hcolon hread hcomma hlater =>
        have hcolonLength := string_length hkey
        have hafter := skipSpace_cons_length hcolon
        have hspace := skipSpace_length after
        have hnext := hvalue _ _ _ hread
        have htail := skipSpace_cons_length hcomma
        have hspace' := skipSpace_length comma
        have hend := hmembers _ _ _ hlater
        rw [List.length_cons]
        dsimp only at hcolonLength
        omega

theorem value_length {fuel : ℕ} {text rest : List Char} {v : Document} (h : value strict fuel text = some (v,rest)) :
    rest.length < text.length := (lengths fuel).1 text v rest h

end Lengths

end Document

end PneumaLab
