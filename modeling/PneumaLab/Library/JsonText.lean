import Mathlib.Data.List.Sort
import PneumaLab.Library.Json

namespace PneumaLab
namespace Json

section Strings

theorem stringBody_plain {c : Char} (hq : c ≠ '"') (hs : c ≠ '\\') (hc : ¬ c.toNat < 32)
    (rest : List Char) :
    stringBody (c :: rest) = (stringBody rest).map fun read => (c :: read.1,read.2) := by
  rw [stringBody.eq_def]
  split
  · next h => cases h
  · next h => exact absurd (List.cons.inj h).1 hq
  · next h => exact absurd (List.cons.inj h).1 hs
  · next h => exact absurd (List.cons.inj h).1 hs
  · next h =>
    cases h
    rw [if_neg hc]

theorem stringBody_simple {c plain : Char} (h : simpleEscape c = some plain) (hu : c ≠ 'u')
    (rest : List Char) :
    stringBody ('\\' :: c :: rest) = (stringBody rest).map fun read => (plain :: read.1,read.2) := by
  rw [stringBody.eq_def]
  split
  · next he => cases he
  · next he => cases he
  · next he => exact absurd (List.cons.inj (List.cons.inj he).2).1 hu
  · next he =>
    cases he
    rw [h]
  · next hne he =>
    cases he
    exact (hne c rest rfl rfl).elim

theorem stringBody_control {c : Char} (hc : c.toNat < 32) (rest : List Char) :
    stringBody ('\\' :: 'u' :: '0' :: '0' :: hexDigit (c.toNat / 16) :: hexDigit (c.toNat % 16) :: rest) =
      (stringBody rest).map fun read => (c :: read.1,read.2) := by
  have hhigh := hexValue_hexDigit ⟨c.toNat / 16,by omega⟩
  have hlow := hexValue_hexDigit ⟨c.toNat % 16,by omega⟩
  have hzero : hexValue '0' = some 0 := by decide
  have hunit : hexQuad '0' '0' (hexDigit (c.toNat / 16)) (hexDigit (c.toNat % 16)) = some c.toNat := by
    rw [hexQuad,hzero]
    simp only at hhigh hlow
    rw [hhigh,hlow]
    simp only [Option.bind_eq_bind,Option.bind_some,Option.pure_def,Option.some.injEq]
    omega
  rw [stringBody]
  simp only [hunit]
  rw [if_neg (by omega),if_neg (by omega),Char.ofNat_toNat]

theorem stringBody_escape (c : Char) (rest : List Char) :
    stringBody (escape c ++ rest) = (stringBody rest).map fun read => (c :: read.1,read.2) := by
  have hchar {n : ℕ} (h : c.toNat = n) : c = Char.ofNat n := by rw [← h,Char.ofNat_toNat]
  unfold escape
  split
  · next h => subst h; exact stringBody_simple rfl (by decide) rest
  split
  · next h => subst h; exact stringBody_simple rfl (by decide) rest
  split
  · next h => subst h; exact stringBody_simple rfl (by decide) rest
  split
  · next h => subst h; exact stringBody_simple rfl (by decide) rest
  split
  · next h => subst h; exact stringBody_simple rfl (by decide) rest
  split
  · next h => rw [hchar h]; exact stringBody_simple rfl (by decide) rest
  split
  · next h => rw [hchar h]; exact stringBody_simple rfl (by decide) rest
  split
  · next h => exact stringBody_control h rest
  · next hq hs _ _ _ _ _ hc => exact stringBody_plain hq hs hc rest

theorem hexDigit_printable {n : ℕ} (h : n < 16) : 32 ≤ (hexDigit n).toNat := by
  have hall : ∀ m : Fin 16, 32 ≤ (hexDigit m).toNat := by decide
  exact hall ⟨n,h⟩

theorem escape_printable (c : Char) : ∀ d ∈ escape c, 32 ≤ d.toNat := by
  unfold escape
  split_ifs with h1 h2 h3 h4 h5 h6 h7 h8
  · simp
  · simp
  · simp
  · simp
  · simp
  · simp
  · simp
  · simp only [List.forall_mem_cons,List.not_mem_nil,false_implies,implies_true,and_true]
    exact ⟨by simp,by simp,by simp,by simp,hexDigit_printable (by omega),hexDigit_printable (by omega)⟩
  · exact List.forall_mem_singleton.mpr (by omega)

theorem escape_ne {line : Char} (hline : line.toNat < 32) (c : Char) : ∀ d ∈ escape c, d ≠ line := by
  rintro d hd rfl
  have hprintable := escape_printable c d hd
  omega

theorem stringBody_flatMap (text rest : List Char) :
    stringBody (text.flatMap escape ++ '"' :: rest) = some (text,rest) := by
  induction text with
  | nil => rfl
  | cons c text ih =>
    rw [List.flatMap_cons,List.append_assoc,stringBody_escape,ih]
    rfl

theorem quote_append (text : String) (rest : List Char) :
    quote text ++ rest = '"' :: (text.toList.flatMap escape ++ '"' :: rest) := by
  simp [quote]

end Strings

section Numbers

def EndsNumber (rest : List Char) : Prop :=
  ∀ c tail, rest = c :: tail → c.isDigit = false ∧ c ≠ '.' ∧ c ≠ 'e' ∧ c ≠ 'E'

theorem endsNumber_cons {c : Char} {rest : List Char}
    (h : c.isDigit = false ∧ c ≠ '.' ∧ c ≠ 'e' ∧ c ≠ 'E') : EndsNumber (c :: rest) := by
  intro c' tail he
  cases he
  exact h

theorem digitsOf_before {digits text : List Char} (hd : ∀ c ∈ digits, c.isDigit = true)
    (ht : ∀ c tail, text = c :: tail → c.isDigit = false) : digitsOf (digits ++ text) = (digits,text) := by
  have hrest : text.takeWhile Char.isDigit = [] ∧ text.dropWhile Char.isDigit = text := by
    cases text with
    | nil => exact ⟨rfl,rfl⟩
    | cons c tail =>
      have hc := ht c tail rfl
      exact ⟨List.takeWhile_cons_of_neg (by simp [hc]),List.dropWhile_cons_of_neg (by simp [hc])⟩
  rw [digitsOf,List.takeWhile_append_of_pos hd,List.dropWhile_append_of_pos hd,hrest.1,hrest.2,List.append_nil]

theorem digitsOf_append {digits rest : List Char} (hd : ∀ c ∈ digits, c.isDigit = true)
    (hr : EndsNumber rest) : digitsOf (digits ++ rest) = (digits,rest) :=
  digitsOf_before hd fun c tail he => (hr c tail he).1

theorem fraction_end {rest : List Char} (hr : EndsNumber rest) : fraction rest = ([],rest) := by
  rw [fraction.eq_def]
  split
  · next tail => exact absurd rfl (hr '.' tail rfl).2.1
  · rfl

theorem exponent_end {rest : List Char} (hr : EndsNumber rest) : exponent rest = ([],rest) := by
  cases rest with
  | nil => rfl
  | cons c tail =>
    obtain ⟨_,_,he,hE⟩ := hr c tail rfl
    rw [exponent,if_neg (by tauto)]

variable (floatRepr : String → String)

theorem scaled_end (negative : Bool) (digits : List Char) {rest : List Char} (hr : EndsNumber rest) :
    scaled floatRepr negative digits rest =
      (.int (if negative then -(Nat.ofDigitChars 10 digits 0 : ℤ) else Nat.ofDigitChars 10 digits 0),
        rest) := by
  rw [scaled,fraction_end hr]
  simp only [exponent_end hr,and_self,if_true]

theorem toDigits_head_ne_zero {n : ℕ} (hn : 0 < n) : (Nat.toDigits 10 n).head? ≠ some '0' := by
  induction n using Nat.strong_induction_on with
  | _ n ih =>
    rcases Nat.lt_or_ge n 10 with hlt | hge
    · rw [Nat.toDigits_of_lt_base hlt]
      simp only [List.head?_cons,ne_eq,Option.some.injEq,Nat.digitChar_eq_zero]
      omega
    · rw [Nat.toDigits_of_base_le (by decide) hge,List.head?_append_of_ne_nil _ Nat.toDigits_ne_nil]
      exact ih (n / 10) (by omega) (by omega)

theorem unsigned_digits (negative : Bool) (n : ℕ) {rest : List Char} (hr : EndsNumber rest) :
    unsigned floatRepr negative (Nat.toDigits 10 n ++ rest) =
      some (.int (if negative then -(n : ℤ) else n),rest) := by
  have hdigits : ∀ c ∈ Nat.toDigits 10 n, c.isDigit = true := fun c hc =>
    Nat.isDigit_of_mem_toDigits (by decide) (by decide) hc
  have hvalue : Nat.ofDigitChars 10 (Nat.toDigits 10 n) 0 = n := Nat.ofDigitChars_ten_toDigits
  rcases Nat.eq_zero_or_pos n with rfl | hpos
  · have hz : Nat.toDigits 10 0 = ['0'] := rfl
    rw [hz,List.singleton_append,unsigned,scaled_end floatRepr negative ['0'] hr]
    rfl
  · have hne : Nat.toDigits 10 n ≠ [] := Nat.toDigits_ne_nil
    obtain ⟨c,digits,hcons⟩ := List.exists_cons_of_ne_nil hne
    have hlead : c ≠ '0' := by
      rintro rfl
      exact toDigits_head_ne_zero hpos (by rw [hcons]; rfl)
    rw [unsigned.eq_def]
    split
    · next tail he =>
      rw [hcons] at he
      exact absurd (List.cons.inj he).1 hlead
    · rw [digitsOf_append hdigits hr]
      split
      · next hnil => exact absurd (congrArg Prod.fst hnil) hne
      · next hread =>
        cases hread
        rw [scaled_end floatRepr negative _ hr,hvalue]

theorem number_intText (n : ℤ) {rest : List Char} (hr : EndsNumber rest) :
    number floatRepr (intText n ++ rest) = some (.int n,rest) := by
  rw [intText]
  split
  · next hneg =>
    rw [List.cons_append,number,unsigned_digits floatRepr true _ hr]
    simp only [if_true,Option.some.injEq,Prod.mk.injEq,Json.int.injEq,and_true]
    omega
  · next hpos =>
    have hminus : ∀ tail, Nat.toDigits 10 n.natAbs ++ rest ≠ '-' :: tail := by
      intro tail he
      obtain ⟨c,digits,hcons⟩ := List.exists_cons_of_ne_nil (Nat.toDigits_ne_nil (n := n.natAbs) (b := 10))
      rw [hcons] at he
      have hd : c.isDigit = true :=
        Nat.isDigit_of_mem_toDigits (by omega) (le_refl 10) (by rw [hcons]; simp)
      rw [(List.cons.inj he).1] at hd
      exact absurd hd (by decide)
    rw [number.eq_def]
    split
    · next tail he => exact absurd he (hminus tail)
    · rw [unsigned_digits floatRepr false _ hr]
      simp only [Bool.false_eq_true,if_false,Option.some.injEq,Prod.mk.injEq,Json.int.injEq,and_true]
      omega

def IntegerPart (digits : List Char) : Prop :=
  digits = ['0'] ∨ (∀ c ∈ digits, c.isDigit = true) ∧ digits ≠ [] ∧ digits.head? ≠ some '0'

inductive DecimalPart : List Char → Prop where
  | none : DecimalPart []
  | some {digits : List Char} : (∀ c ∈ digits, c.isDigit = true) → digits ≠ [] → DecimalPart ('.' :: digits)

inductive PowerPart : List Char → Prop where
  | none : PowerPart []
  | some {sign digits : List Char} : sign = ['+'] ∨ sign = ['-'] → (∀ c ∈ digits, c.isDigit = true) → digits ≠ [] →
      PowerPart ('e' :: (sign ++ digits))

-- The text of a finite float: Python writes a decimal part, an exponent or both.
structure FloatParts where
  negative : Bool
  digits : List Char
  decimals : List Char
  power : List Char
  integer : IntegerPart digits
  decimal : DecimalPart decimals
  exponent : PowerPart power
  float : ¬ (decimals = [] ∧ power = [])

theorem FloatParts.opens_digit (parts : FloatParts) :
    ∃ c digits, parts.digits = c :: digits ∧ c.isDigit = true := by
  obtain hzero | ⟨hdigits,hne,_⟩ := parts.integer
  · exact ⟨'0',[],hzero,by decide⟩
  · obtain ⟨c,digits,hcons⟩ := List.exists_cons_of_ne_nil hne
    exact ⟨c,digits,hcons,hdigits c (by rw [hcons]; exact List.mem_cons_self)⟩

def FloatParts.text (parts : FloatParts) : List Char :=
  (if parts.negative then ['-'] else []) ++ parts.digits ++ parts.decimals ++ parts.power

theorem not_digit_head {power rest : List Char} (hpower : PowerPart power) (hr : EndsNumber rest) :
    ∀ c tail, power ++ rest = c :: tail → c.isDigit = false ∧ c ≠ '.' := by
  intro c tail he
  cases hpower with
  | none => exact ⟨(hr c tail he).1,(hr c tail he).2.1⟩
  | some hsign hdigits hne =>
    obtain rfl := (List.cons.inj he).1
    decide

theorem fraction_decimal {decimals text : List Char} (hdecimal : DecimalPart decimals)
    (ht : ∀ c tail, text = c :: tail → c.isDigit = false ∧ c ≠ '.') :
    fraction (decimals ++ text) = (decimals,text) := by
  cases hdecimal with
  | none =>
    rw [List.nil_append,fraction.eq_def]
    split
    · next tail => exact absurd rfl (ht '.' tail rfl).2
    · rfl
  | some hdigits hne =>
    rw [List.cons_append,fraction,digitsOf_before hdigits fun c tail he => (ht c tail he).1]
    split
    · next h => exact absurd (congrArg Prod.fst h) hne
    · next h =>
      cases h
      rfl

theorem exponent_power {power rest : List Char} (hpower : PowerPart power) (hr : EndsNumber rest) :
    exponent (power ++ rest) = (power,rest) := by
  cases hpower with
  | none => exact exponent_end hr
  | @some sign digits hsign hdigits hne =>
    have hread : exponentSign (sign ++ (digits ++ rest)) = (sign,digits ++ rest) := by
      rcases hsign with rfl | rfl <;> rfl
    obtain ⟨d,digits,rfl⟩ := List.exists_cons_of_ne_nil hne
    rw [List.cons_append,List.append_assoc,exponent,if_pos (.inl rfl),hread]
    simp only [digitsOf_append hdigits hr]

variable (parts : FloatParts)

theorem scaled_float {rest : List Char} (hr : EndsNumber rest) :
    scaled floatRepr parts.negative parts.digits (parts.decimals ++ (parts.power ++ rest)) =
      (.float (floatRepr (String.ofList parts.text)),rest) := by
  rw [scaled,fraction_decimal parts.decimal (not_digit_head parts.exponent hr)]
  simp only [exponent_power parts.exponent hr]
  rw [if_neg parts.float]
  rfl

theorem unsigned_float {rest : List Char} (hr : EndsNumber rest) :
    unsigned floatRepr parts.negative (parts.digits ++ (parts.decimals ++ (parts.power ++ rest))) =
      some (.float (floatRepr (String.ofList parts.text)),rest) := by
  have hscaled := scaled_float floatRepr parts hr
  obtain hzero | ⟨hdigits,hne,hlead⟩ := parts.integer
  · rw [hzero] at hscaled ⊢
    rw [List.singleton_append,unsigned,hscaled]
  · have htail : ∀ c tail, parts.decimals ++ (parts.power ++ rest) = c :: tail → c.isDigit = false := by
      intro c tail he
      have hdecimal := parts.decimal
      cases hcase : parts.decimals with
      | nil =>
        rw [hcase,List.nil_append] at he
        exact (not_digit_head parts.exponent hr c tail he).1
      | cons d decimals =>
        rw [hcase] at he hdecimal
        cases hdecimal
        obtain rfl := (List.cons.inj he).1
        decide
    obtain ⟨c,digits,hcons⟩ := List.exists_cons_of_ne_nil hne
    rw [unsigned.eq_def]
    split
    · next he =>
      rw [hcons] at he
      refine absurd ?_ hlead
      rw [hcons,(List.cons.inj he).1]
      rfl
    · rw [digitsOf_before hdigits htail]
      split
      · next h => exact absurd (congrArg Prod.fst h) hne
      · next h =>
        cases h
        rw [hscaled]

theorem number_float {rest : List Char} (hr : EndsNumber rest) :
    number floatRepr (parts.text ++ rest) = some (.float (floatRepr (String.ofList parts.text)),rest) := by
  have hread := unsigned_float floatRepr parts hr
  have htext : parts.text ++ rest = (if parts.negative then ['-'] else []) ++
      (parts.digits ++ (parts.decimals ++ (parts.power ++ rest))) := by
    simp only [FloatParts.text,List.append_assoc]
  obtain ⟨c,digits,hcons,hdigit⟩ := parts.opens_digit
  rw [htext]
  cases hneg : parts.negative with
  | true =>
    rw [hneg] at hread
    exact hread
  | false =>
    rw [hneg] at hread
    have hminus : ∀ tail, parts.digits ++ (parts.decimals ++ (parts.power ++ rest)) ≠ '-' :: tail := by
      intro tail he
      rw [hcons] at he
      rw [(List.cons.inj he).1] at hdigit
      exact absurd hdigit (by decide)
    rw [if_neg Bool.false_ne_true,List.nil_append,number.eq_def]
    split
    · next tail he => exact absurd he (hminus tail)
    · exact hread

end Numbers

section Values

mutual

-- What a reader gets back from its text: dicts in key order, floats by the repr of what they are.
def Readable (floatRepr : String → String) : Json → Prop
  | .null => True
  | .bool _ => True
  | .int _ => True
  | .float text => floatRepr text = text ∧ ∃ parts : FloatParts, text = String.ofList parts.text
  | .str _ => True
  | .arr items => ReadableItems floatRepr items
  | .obj fields => (fields.map Prod.fst).Pairwise (· < ·) ∧ ReadableFields floatRepr fields

def ReadableItems (floatRepr : String → String) : List Json → Prop
  | [] => True
  | item :: rest => Readable floatRepr item ∧ ReadableItems floatRepr rest

def ReadableFields (floatRepr : String → String) : List (String × Json) → Prop
  | [] => True
  | (_,value) :: rest => Readable floatRepr value ∧ ReadableFields floatRepr rest

end

mutual

theorem Exact.readable {floatRepr : String → String} : ∀ {v : Json}, Exact v → Readable floatRepr v
  | .null, _ => trivial
  | .bool _, _ => trivial
  | .int _, _ => trivial
  | .float _, hv => hv.elim
  | .str _, _ => trivial
  | .arr _, hv => ExactItems.readable hv
  | .obj _, hv => ⟨hv.1,ExactFields.readable hv.2⟩

theorem ExactItems.readable {floatRepr : String → String} :
    ∀ {items : List Json}, ExactItems items → ReadableItems floatRepr items
  | [], _ => trivial
  | _ :: _, hv => ⟨Exact.readable hv.1,ExactItems.readable hv.2⟩

theorem ExactFields.readable {floatRepr : String → String} :
    ∀ {fields : List (String × Json)}, ExactFields fields → ReadableFields floatRepr fields
  | [], _ => trivial
  | _ :: _, hv => ⟨Exact.readable hv.1,ExactFields.readable hv.2⟩

end

mutual

-- What a dict of Python holds: floats by their repr, the ones that are no number among them.
def Native (floatRepr : String → String) : Json → Prop
  | .float text => text ∈ ["nan","inf","-inf"] ∨ Readable floatRepr (.float text)
  | .arr items => NativeItems floatRepr items
  | .obj fields => (fields.map Prod.fst).Pairwise (· < ·) ∧ NativeFields floatRepr fields
  | _ => True

def NativeItems (floatRepr : String → String) : List Json → Prop
  | [] => True
  | item :: rest => Native floatRepr item ∧ NativeItems floatRepr rest

def NativeFields (floatRepr : String → String) : List (String × Json) → Prop
  | [] => True
  | (_,value) :: rest => Native floatRepr value ∧ NativeFields floatRepr rest

end

mutual

def finite : Json → Bool
  | .float text => decide (text ∉ ["nan","inf","-inf"])
  | .arr items => finiteItems items
  | .obj fields => finiteFields fields
  | _ => true

def finiteItems : List Json → Bool
  | [] => true
  | item :: rest => finite item && finiteItems rest

def finiteFields : List (String × Json) → Bool
  | [] => true
  | (_,value) :: rest => finite value && finiteFields rest

end

mutual

theorem readable_of_finite {floatRepr : String → String} :
    ∀ {v : Json}, Native floatRepr v → finite v = true → Readable floatRepr v
  | .null, _, _ => trivial
  | .bool _, _, _ => trivial
  | .int _, _, _ => trivial
  | .float _, hv, hf => hv.resolve_left (of_decide_eq_true hf)
  | .str _, _, _ => trivial
  | .arr _, hv, hf => readableItems_of_finite hv hf
  | .obj _, hv, hf => ⟨hv.1,readableFields_of_finite hv.2 hf⟩

theorem readableItems_of_finite {floatRepr : String → String} :
    ∀ {items : List Json}, NativeItems floatRepr items → finiteItems items = true → ReadableItems floatRepr items
  | [], _, _ => trivial
  | _ :: _, hv, hf =>
    ⟨readable_of_finite hv.1 (Bool.and_eq_true_iff.mp hf).1,
      readableItems_of_finite hv.2 (Bool.and_eq_true_iff.mp hf).2⟩

theorem readableFields_of_finite {floatRepr : String → String} :
    ∀ {fields : List (String × Json)}, NativeFields floatRepr fields → finiteFields fields = true →
      ReadableFields floatRepr fields
  | [], _, _ => trivial
  | _ :: _, hv, hf =>
    ⟨readable_of_finite hv.1 (Bool.and_eq_true_iff.mp hf).1,
      readableFields_of_finite hv.2 (Bool.and_eq_true_iff.mp hf).2⟩

end

def Space (text : List Char) : Prop := ∀ c ∈ text, c = ' ' ∨ c = '\t' ∨ c = '\n' ∨ c = '\r'

-- The white space of json.dumps: before an item at a depth, and after a colon.
structure Layout where
  line : ℕ → List Char
  colon : List Char
  line_space : ∀ depth, Space (line depth)
  colon_space : Space colon

def Layout.compact : Layout :=
  ⟨fun _ => [],[],fun _ _ h => absurd h List.not_mem_nil,fun _ h => absurd h List.not_mem_nil⟩

section Render
variable (layout : Layout)

mutual

def render (depth : ℕ) : Json → List Char
  | .null => ['n','u','l','l']
  | .bool true => ['t','r','u','e']
  | .bool false => ['f','a','l','s','e']
  | .int value => intText value
  | .float text => text.toList
  | .str value => quote value
  | .arr [] => ['[',']']
  | .arr (item :: rest) => '[' :: (layout.line (depth + 1) ++ (render (depth + 1) item ++ renderItems depth rest))
  | .obj [] => ['{','}']
  | .obj ((key,value) :: rest) => '{' :: (layout.line (depth + 1) ++ (quote key ++ ':' :: (layout.colon ++
      (render (depth + 1) value ++ renderFields depth rest))))

def renderItems (depth : ℕ) : List Json → List Char
  | [] => layout.line depth ++ [']']
  | item :: rest => ',' :: (layout.line (depth + 1) ++ (render (depth + 1) item ++ renderItems depth rest))

def renderFields (depth : ℕ) : List (String × Json) → List Char
  | [] => layout.line depth ++ ['}']
  | (key,value) :: rest => ',' :: (layout.line (depth + 1) ++ (quote key ++ ':' :: (layout.colon ++
      (render (depth + 1) value ++ renderFields depth rest))))

end

end Render

mutual

theorem render_compact (depth : ℕ) : ∀ v : Json, render .compact depth v = dumps v
  | .null => rfl
  | .bool true => rfl
  | .bool false => rfl
  | .int _ => rfl
  | .float _ => rfl
  | .str _ => rfl
  | .arr [] => rfl
  | .arr (item :: rest) => by
    rw [render,render_compact (depth + 1) item,renderItems_compact depth rest]
    rfl
  | .obj [] => rfl
  | .obj ((key,v) :: rest) => by
    rw [render,render_compact (depth + 1) v,renderFields_compact depth rest]
    rfl

theorem renderItems_compact (depth : ℕ) : ∀ rest : List Json, renderItems .compact depth rest = dumpsItems rest
  | [] => rfl
  | item :: rest => by
    rw [renderItems,render_compact (depth + 1) item,renderItems_compact depth rest]
    rfl

theorem renderFields_compact (depth : ℕ) :
    ∀ rest : List (String × Json), renderFields .compact depth rest = dumpsFields rest
  | [] => rfl
  | (key,v) :: rest => by
    rw [renderFields,render_compact (depth + 1) v,renderFields_compact depth rest]
    rfl

end

mutual

def size : Json → ℕ
  | .arr [] => 1
  | .arr (item :: rest) => 2 + size item + sizeItems rest
  | .obj [] => 1
  | .obj ((_,value) :: rest) => 2 + size value + sizeFields rest
  | _ => 1

def sizeItems : List Json → ℕ
  | [] => 0
  | item :: rest => 1 + size item + sizeItems rest

def sizeFields : List (String × Json) → ℕ
  | [] => 0
  | (_,value) :: rest => 1 + size value + sizeFields rest

end

def opens : Json → Char
  | .null => 'n'
  | .bool true => 't'
  | .bool false => 'f'
  | .int n => if n < 0 then '-' else (Nat.toDigits 10 n.natAbs).headD '0'
  | .float text => text.toList.headD '0'
  | .str _ => '"'
  | .arr _ => '['
  | .obj _ => '{'

theorem isDigit_head (n : ℕ) : ((Nat.toDigits 10 n).headD '0').isDigit = true := by
  cases h : Nat.toDigits 10 n with
  | nil => rfl
  | cons c digits => exact Nat.isDigit_of_mem_toDigits (by omega) (le_refl 10) (by rw [h]; simp)

theorem FloatParts.opens (parts : FloatParts) :
    ∃ c tail, parts.text = c :: tail ∧ (c = '-' ∨ c.isDigit = true) := by
  obtain ⟨c,digits,hcons,hdigit⟩ := parts.opens_digit
  rw [FloatParts.text,hcons]
  cases parts.negative with
  | true => exact ⟨'-',_,rfl,.inl rfl⟩
  | false => exact ⟨c,_,rfl,.inr hdigit⟩

variable {floatRepr : String → String} {layout : Layout}

theorem render_opens {v : Json} (hv : Readable floatRepr v) (depth : ℕ) :
    ∃ tail, render layout depth v = opens v :: tail := by
  cases v with
  | null => exact ⟨_,rfl⟩
  | bool b => cases b <;> exact ⟨_,rfl⟩
  | int n =>
    rw [render,intText,opens]
    split
    · exact ⟨_,rfl⟩
    · obtain ⟨c,digits,hcons⟩ := List.exists_cons_of_ne_nil (Nat.toDigits_ne_nil (n := n.natAbs) (b := 10))
      exact ⟨digits,by rw [hcons]; rfl⟩
  | float text =>
    obtain ⟨_,parts,rfl⟩ := hv
    obtain ⟨c,tail,hcons,_⟩ := parts.opens
    exact ⟨tail,by rw [render,Json.opens,String.toList_ofList,hcons]; rfl⟩
  | str text => exact ⟨_,rfl⟩
  | arr items => cases items <;> exact ⟨_,rfl⟩
  | obj fields =>
    cases fields with
    | nil => exact ⟨_,rfl⟩
    | cons field rest => exact ⟨_,rfl⟩

theorem dumps_opens {v : Json} (hv : Exact v) : ∃ tail, dumps v = opens v :: tail := by
  rw [← render_compact 0 v]
  exact @render_opens id _ _ hv.readable 0

theorem number_start {c : Char} (h : c = '-' ∨ c.isDigit = true) :
    c ≠ '"' ∧ c ≠ '[' ∧ c ≠ '{' ∧ c ≠ 'n' ∧ c ≠ 't' ∧ c ≠ 'f' ∧ c ≠ 'N' ∧ c ≠ 'I' := by
  rcases h with rfl | h
  · decide
  · refine ⟨?_,?_,?_,?_,?_,?_,?_,?_⟩ <;> rintro rfl <;> exact absurd h (by decide)

theorem number_start_space {c : Char} (h : c = '-' ∨ c.isDigit = true) :
    c ≠ ' ' ∧ c ≠ '\t' ∧ c ≠ '\n' ∧ c ≠ '\r' ∧ c ≠ ']' ∧ c ≠ '}' := by
  rcases h with rfl | h
  · decide
  · refine ⟨?_,?_,?_,?_,?_,?_⟩ <;> rintro rfl <;> exact absurd h (by decide)

theorem opens_int (n : ℤ) : opens (.int n) = '-' ∨ (opens (.int n)).isDigit = true := by
  rw [opens]
  split
  · exact .inl rfl
  · exact .inr (isDigit_head _)

theorem opens_float (parts : FloatParts) : opens (.float (String.ofList parts.text)) = '-' ∨
    (opens (.float (String.ofList parts.text))).isDigit = true := by
  obtain ⟨c,tail,hcons,hstart⟩ := parts.opens
  rw [opens,String.toList_ofList,hcons]
  exact hstart

theorem opens_not_space {v : Json} (hv : Readable floatRepr v) :
    opens v ≠ ' ' ∧ opens v ≠ '\t' ∧ opens v ≠ '\n' ∧ opens v ≠ '\r' ∧ opens v ≠ ']' ∧ opens v ≠ '}' := by
  cases v with
  | null => decide
  | bool b => cases b <;> decide
  | int n => exact number_start_space (opens_int n)
  | float text =>
    obtain ⟨_,parts,rfl⟩ := hv
    exact number_start_space (opens_float parts)
  | str text => simp [opens]
  | arr items => simp [opens]
  | obj fields => simp [opens]

theorem skipSpace_cons {c : Char} (h : c ≠ ' ' ∧ c ≠ '\t' ∧ c ≠ '\n' ∧ c ≠ '\r') (rest : List Char) :
    skipSpace (c :: rest) = c :: rest := by
  obtain ⟨h0,h1,h2,h3⟩ := h
  simp [skipSpace,h0,h1,h2,h3]

theorem skipSpace_space {space : List Char} (h : Space space) (rest : List Char) :
    skipSpace (space ++ rest) = skipSpace rest := by
  refine List.dropWhile_append_of_pos fun c hc => ?_
  rcases h c hc with rfl | rfl | rfl | rfl <;> rfl

theorem skipSpace_render {v : Json} (hv : Readable floatRepr v) (depth : ℕ) (rest : List Char) :
    skipSpace (render layout depth v ++ rest) = render layout depth v ++ rest := by
  obtain ⟨tail,ht⟩ := @render_opens _ layout _ hv depth
  obtain ⟨h0,h1,h2,h3,_⟩ := opens_not_space hv
  rw [ht,List.cons_append]
  exact skipSpace_cons ⟨h0,h1,h2,h3⟩ _

theorem skipSpace_quote (text : String) (rest : List Char) :
    skipSpace (quote text ++ rest) = quote text ++ rest := by
  rw [quote,List.cons_append]
  exact skipSpace_cons (by decide) _

theorem endsNumber_space {space : List Char} (h : Space space) {rest : List Char} (hr : EndsNumber rest) :
    EndsNumber (space ++ rest) := by
  cases space with
  | nil => exact hr
  | cons c tail =>
    refine endsNumber_cons ?_
    rcases h c List.mem_cons_self with rfl | rfl | rfl | rfl <;> decide

theorem endsNumber_items (depth : ℕ) (rest : List Json) (tail : List Char) :
    EndsNumber (renderItems layout depth rest ++ tail) := by
  cases rest with
  | nil =>
    rw [renderItems,List.append_assoc]
    exact endsNumber_space (layout.line_space depth) (endsNumber_cons (by decide))
  | cons item rest => exact endsNumber_cons (by decide)

theorem endsNumber_fields (depth : ℕ) (rest : List (String × Json)) (tail : List Char) :
    EndsNumber (renderFields layout depth rest ++ tail) := by
  cases rest with
  | nil =>
    rw [renderFields,List.append_assoc]
    exact endsNumber_space (layout.line_space depth) (endsNumber_cons (by decide))
  | cons field rest => exact endsNumber_cons (by decide)

theorem size_pos (v : Json) : 1 ≤ size v := by
  cases v with
  | arr items =>
    cases items with
    | nil => simp [size]
    | cons item rest =>
      rw [size]
      omega
  | obj fields =>
    cases fields with
    | nil => simp [size]
    | cons field rest =>
      rw [size]
      omega
  | _ => simp [size]

variable (reader : Reader)

theorem value_number {c : Char} {tail : List Char} (h : c = '-' ∨ c.isDigit = true) {v : Json} {rest : List Char}
    (hnumber : number reader.floatRepr (c :: tail) = some (v,rest)) (fuel : ℕ) :
    value reader (fuel + 1) (c :: tail) = some (v,rest) := by
  obtain ⟨h0,h1,h2,h3,h4,h5,h6,h7⟩ := number_start h
  rw [value.eq_def]
  split
  · next he => cases he
  · next fuel' text he =>
    cases he
    split
    · next he => exact absurd (List.cons.inj he).1 h0
    · next he => exact absurd (List.cons.inj he).1 h1
    · next he => exact absurd (List.cons.inj he).1 h2
    · next he => exact absurd (List.cons.inj he).1 h3
    · next he => exact absurd (List.cons.inj he).1 h4
    · next he => exact absurd (List.cons.inj he).1 h5
    · next he => exact absurd (List.cons.inj he).1 h6
    · next he => exact absurd (List.cons.inj he).1 h7
    · next he =>
      rw [he,number] at hnumber
      cases hnumber
    · exact hnumber

theorem value_int (n : ℤ) (fuel : ℕ) {rest : List Char} (hr : EndsNumber rest) :
    value reader (fuel + 1) (intText n ++ rest) = some (.int n,rest) := by
  obtain ⟨tail,ht⟩ := dumps_opens (show Exact (.int n) from trivial)
  have hnumber := number_intText reader.floatRepr n hr
  rw [show intText n = opens (.int n) :: tail from ht,List.cons_append] at hnumber ⊢
  exact value_number reader (opens_int n) hnumber fuel

theorem value_float (parts : FloatParts) (fuel : ℕ) {rest : List Char} (hr : EndsNumber rest) :
    value reader (fuel + 1) (parts.text ++ rest) =
      some (.float (reader.floatRepr (String.ofList parts.text)),rest) := by
  obtain ⟨c,tail,hcons,hstart⟩ := parts.opens
  have hnumber := number_float reader.floatRepr parts hr
  rw [hcons,List.cons_append] at hnumber ⊢
  exact value_number reader hstart hnumber fuel

theorem value_str (text : String) (fuel : ℕ) (rest : List Char) :
    value reader (fuel + 1) (quote text ++ rest) = some (.str text,rest) := by
  rw [quote_append,value,stringBody_flatMap]
  simp

mutual

theorem value_render : ∀ (v : Json) (depth fuel : ℕ) (rest : List Char), Readable reader.floatRepr v →
    size v ≤ fuel → EndsNumber rest → value reader fuel (render layout depth v ++ rest) = some (v,rest)
  | v, _, 0, _, _, hf, _ => absurd hf (by have := size_pos v; omega)
  | .null, _, _ + 1, _, _, _, _ => rfl
  | .bool true, _, _ + 1, _, _, _, _ => rfl
  | .bool false, _, _ + 1, _, _, _, _ => rfl
  | .int n, _, fuel + 1, _, _, _, hr => value_int reader n fuel hr
  | .float _, _, fuel + 1, _, hv, _, hr => by
    obtain ⟨hrepr,parts,rfl⟩ := hv
    have hread := value_float reader parts fuel hr
    rw [hrepr] at hread
    rw [render,String.toList_ofList]
    exact hread
  | .str text, _, fuel + 1, rest, _, _, _ => value_str reader text fuel rest
  | .arr [], _, _ + 1, _, _, _, _ => rfl
  | .arr (item :: rest), depth, fuel + 1, tail, hv, hf, _ => by
    obtain ⟨hitem,hitems⟩ : Readable reader.floatRepr item ∧ ReadableItems reader.floatRepr rest := hv
    have hread := items_render item rest depth fuel tail hitem hitems (by rw [size] at hf; omega)
    obtain ⟨text,ht⟩ := @render_opens _ layout _ hitem (depth + 1)
    rw [render,List.cons_append,value,List.append_assoc,List.append_assoc,
      skipSpace_space (layout.line_space _),skipSpace_render hitem]
    split
    · next he =>
      rw [ht,List.cons_append] at he
      exact absurd (List.cons.inj he).1 (opens_not_space hitem).2.2.2.2.1
    · rw [hread]
      rfl
  | .obj [], _, _ + 1, _, _, _, _ => rfl
  | .obj ((key,v) :: rest), depth, fuel + 1, tail, hv, hf, _ => by
    obtain ⟨hkeys,hvalue,hfields⟩ : (((key,v) :: rest).map Prod.fst).Pairwise (· < ·) ∧
      Readable reader.floatRepr v ∧ ReadableFields reader.floatRepr rest := hv
    have hread := members_render key v rest depth fuel tail hvalue hfields (by rw [size] at hf; omega)
    rw [render,List.cons_append,value,List.append_assoc,skipSpace_space (layout.line_space _),
      List.append_assoc,skipSpace_quote]
    split
    · next he => exact absurd (List.cons.inj he).1 (by decide)
    · rw [hread]
      simp only [Option.bind_some,reader.close_sorted hkeys,Option.map_some]

theorem items_render : ∀ (item : Json) (rest : List Json) (depth fuel : ℕ) (tail : List Char),
    Readable reader.floatRepr item → ReadableItems reader.floatRepr rest → 1 + size item + sizeItems rest ≤ fuel →
    items reader fuel (render layout (depth + 1) item ++ (renderItems layout depth rest ++ tail)) =
      some (item :: rest,tail)
  | _, _, _, 0, _, _, _, hf => absurd hf (by omega)
  | item, [], depth, fuel + 1, tail, hitem, _, hf => by
    rw [items,value_render item (depth + 1) fuel _ hitem (by omega) (endsNumber_items depth [] tail),
      Option.bind_some]
    rw [renderItems,List.append_assoc,skipSpace_space (layout.line_space _),List.singleton_append,
      skipSpace_cons (by decide)]
    rfl
  | item, next :: rest, depth, fuel + 1, tail, hitem, hrest, hf => by
    obtain ⟨hnext,hrest⟩ : Readable reader.floatRepr next ∧ ReadableItems reader.floatRepr rest := hrest
    rw [sizeItems] at hf
    rw [items,value_render item (depth + 1) fuel _ hitem (by omega) (endsNumber_items depth (next :: rest) tail),
      Option.bind_some]
    rw [renderItems,List.cons_append,skipSpace_cons (by decide)]
    simp only []
    rw [List.append_assoc,List.append_assoc,skipSpace_space (layout.line_space _),skipSpace_render hnext,
      items_render next rest depth fuel tail hnext hrest (by omega)]
    rfl

theorem members_render : ∀ (key : String) (v : Json) (rest : List (String × Json)) (depth fuel : ℕ)
    (tail : List Char), Readable reader.floatRepr v → ReadableFields reader.floatRepr rest →
    1 + size v + sizeFields rest ≤ fuel →
    members reader fuel (quote key ++ (':' :: (layout.colon ++
        (render layout (depth + 1) v ++ renderFields layout depth rest)) ++ tail)) =
      some ((key,v) :: rest,tail)
  | _, _, _, _, 0, _, _, _, hf => absurd hf (by omega)
  | key, v, [], depth, fuel + 1, tail, hv, _, hf => by
    rw [quote_append,members,stringBody_flatMap,Option.bind_some]
    rw [List.cons_append,skipSpace_cons (by decide)]
    simp only []
    rw [List.append_assoc,skipSpace_space layout.colon_space,List.append_assoc,skipSpace_render hv,
      value_render v (depth + 1) fuel _ hv (by omega) (endsNumber_fields depth [] tail),Option.bind_some]
    rw [renderFields,List.append_assoc,skipSpace_space (layout.line_space _),List.singleton_append,
      skipSpace_cons (by decide),String.ofList_toList]
    rfl
  | key, v, (next,w) :: rest, depth, fuel + 1, tail, hv, hrest, hf => by
    obtain ⟨hw,hrest⟩ : Readable reader.floatRepr w ∧ ReadableFields reader.floatRepr rest := hrest
    rw [sizeFields] at hf
    rw [quote_append,members,stringBody_flatMap,Option.bind_some]
    rw [List.cons_append,skipSpace_cons (by decide)]
    simp only []
    rw [List.append_assoc,skipSpace_space layout.colon_space,List.append_assoc,skipSpace_render hv,
      value_render v (depth + 1) fuel _ hv (by omega) (endsNumber_fields depth ((next,w) :: rest) tail),
      Option.bind_some]
    rw [renderFields,List.cons_append,skipSpace_cons (by decide),String.ofList_toList]
    simp only []
    have hread := members_render next w rest depth fuel tail hw hrest (by omega)
    rw [List.append_assoc,skipSpace_space (layout.line_space _),List.append_assoc,skipSpace_quote,hread]
    rfl

end

mutual

theorem size_le_render : ∀ (v : Json) (depth : ℕ), Readable floatRepr v → size v ≤ (render layout depth v).length
  | .null, _, _ => by simp [size,render]
  | .bool true, _, _ => by simp [size,render]
  | .bool false, _, _ => by simp [size,render]
  | .int n, depth, hv => by
    obtain ⟨tail,ht⟩ := @render_opens _ layout _ hv depth
    rw [ht]
    simp [size]
  | .float text, depth, hv => by
    obtain ⟨tail,ht⟩ := @render_opens _ layout _ hv depth
    rw [ht]
    simp [size]
  | .str text, _, _ => by simp [size,render,quote]
  | .arr [], _, _ => by simp [size,render]
  | .arr (item :: rest), depth, hv => by
    have hitem := size_le_render item (depth + 1) hv.1
    have hrest := sizeItems_le_render rest depth hv.2
    simp only [size,render,List.length_cons,List.length_append]
    omega
  | .obj [], _, _ => by simp [size,render]
  | .obj ((key,v) :: rest), depth, hv => by
    have hvalue := size_le_render v (depth + 1) hv.2.1
    have hrest := sizeFields_le_render rest depth hv.2.2
    simp only [size,render,List.length_cons,List.length_append]
    omega

theorem sizeItems_le_render : ∀ (rest : List Json) (depth : ℕ), ReadableItems floatRepr rest →
    sizeItems rest + 1 ≤ (renderItems layout depth rest).length
  | [], _, _ => by simp [sizeItems,renderItems]
  | item :: rest, depth, hv => by
    have hitem := size_le_render item (depth + 1) hv.1
    have hrest := sizeItems_le_render rest depth hv.2
    simp only [sizeItems,renderItems,List.length_cons,List.length_append]
    omega

theorem sizeFields_le_render : ∀ (rest : List (String × Json)) (depth : ℕ), ReadableFields floatRepr rest →
    sizeFields rest + 1 ≤ (renderFields layout depth rest).length
  | [], _, _ => by simp [sizeFields,renderFields]
  | (key,v) :: rest, depth, hv => by
    have hvalue := size_le_render v (depth + 1) hv.1
    have hrest := sizeFields_le_render rest depth hv.2
    simp only [sizeFields,renderFields,List.length_cons,List.length_append]
    omega

end

theorem loadsWith_render {v : Json} (hv : Readable reader.floatRepr v) {space : List Char}
    (hs : skipSpace space = []) (he : EndsNumber space) :
    loadsWith reader (render layout 0 v ++ space) = some v := by
  have hsize := @size_le_render _ layout v 0 hv
  rw [loadsWith,skipSpace_render hv,
    value_render reader v 0 _ space hv (by rw [List.length_append]; omega) he]
  simp only [hs,if_true]

theorem loadsWith_dumps {v : Json} (hv : Readable reader.floatRepr v) {space : List Char}
    (hs : skipSpace space = []) (he : EndsNumber space) : loadsWith reader (dumps v ++ space) = some v := by
  rw [← render_compact 0 v]
  exact loadsWith_render reader hv hs he

theorem loads_dumps (floatRepr : String → String) {v : Json} (hv : Exact v) {space : List Char}
    (hs : skipSpace space = []) (he : EndsNumber space) : loads floatRepr (dumps v ++ space) = some v :=
  loadsWith_dumps (.strict floatRepr) hv.readable hs he

end Values

end Json
end PneumaLab
