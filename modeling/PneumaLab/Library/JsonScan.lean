import PneumaLab.Library.JsonLines
import PneumaLab.Library.TextFile

namespace PneumaLab

section Utf8

def encoded (text : List Char) : Bytes := text.flatMap String.utf8EncodeChar

theorem utf8_ofList (text : List Char) : utf8 (String.ofList text) = encoded text := by
  rw [utf8,String.toUTF8,String.toByteArray_ofList,List.utf8Encode,List.toList_data_toByteArray,encoded]

theorem encoded_cons (c : Char) (rest : List Char) : encoded (c :: rest) = String.utf8EncodeChar c ++ encoded rest := rfl

theorem encoded_append (left right : List Char) : encoded (left ++ right) = encoded left ++ encoded right :=
  List.flatMap_append

theorem toNat_ofNat {n : ℕ} (h : n < 256) : (UInt8.ofNat n).toNat = n := UInt8.toNat_ofNat_of_lt' h

theorem ofNat_high {n : ℕ} (hlow : 128 ≤ n) (hhigh : n < 256) : 128 ≤ (UInt8.ofNat n).toNat := by
  rw [toNat_ofNat hhigh]
  exact hlow

theorem encodeChar_cases (c : Char) :
    (c.toNat < 128 ∧ String.utf8EncodeChar c = [UInt8.ofNat c.toNat]) ∨
      ∀ b ∈ String.utf8EncodeChar c, 128 ≤ b.toNat := by
  have hvalue : c.val.toNat = c.toNat := rfl
  rw [String.utf8EncodeChar,hvalue]
  by_cases hone : c.toNat ≤ 0x7f
  · exact .inl ⟨by omega,if_pos hone⟩
  · right
    rw [if_neg hone]
    split
    · intro b hb
      rcases List.mem_pair.mp hb with rfl | rfl <;> exact ofNat_high (by omega) (by omega)
    · split
      all_goals
        intro b hb
        simp only [List.mem_cons,List.not_mem_nil,or_false] at hb
        rcases hb with rfl | hb
        · exact ofNat_high (by omega) (by omega)
        · rcases hb with rfl | hb
          · exact ofNat_high (by omega) (by omega)
          · rcases hb with rfl | rfl <;> exact ofNat_high (by omega) (by omega)

theorem encodeChar_ascii {c : Char} (h : c.toNat < 128) : String.utf8EncodeChar c = [UInt8.ofNat c.toNat] := by
  have hvalue : c.val.toNat = c.toNat := rfl
  rw [String.utf8EncodeChar,hvalue,if_pos (by omega)]

theorem mem_encoded {text : List Char} {b : UInt8} (hb : b ∈ encoded text) (hascii : b.toNat < 128) :
    ∃ c ∈ text, c.toNat = b.toNat := by
  obtain ⟨c,hc,hmem⟩ := List.mem_flatMap.mp hb
  refine ⟨c,hc,?_⟩
  rcases encodeChar_cases c with ⟨hlt,heq⟩ | hhigh
  · rw [heq,List.mem_singleton] at hmem
    rw [hmem,toNat_ofNat (by omega)]
  · exact absurd (hhigh b hmem) (by omega)

end Utf8

namespace Json

inductive Scan where
  | start
  | plain (depth : ℕ)
  | inside (depth : ℕ)
  | escaped (depth : ℕ)
  | closed (depth : ℕ)
  | done
  | bad
  deriving DecidableEq

namespace Scan

def leave : ℕ → Scan
  | 0 => .done
  | depth + 1 => .plain depth

def step : Scan → UInt8 → Scan
  | .start, b => if b = 0x7B then .plain 0 else .bad
  | .plain depth, b =>
    if b = 0x22 then .inside depth
    else if b = 0x7B ∨ b = 0x5B then .plain (depth + 1)
    else if b = 0x7D ∨ b = 0x5D then leave depth
    else .plain depth
  | .inside depth, b => if b = 0x22 then .closed depth else if b = 0x5C then .escaped depth else .inside depth
  | .escaped depth, b => if b ∈ [0x22,0x5C,0x62,0x66,0x6E,0x72,0x74,0x75] then .inside depth else .bad
  | .closed depth, b =>
    if b = 0x2C ∨ b = 0x3A then .plain depth else if b = 0x7D ∨ b = 0x5D then leave depth else .bad
  | .done, _ => .bad
  | .bad, _ => .bad

def run (s : Scan) (raw : Bytes) : Scan := raw.foldl step s

theorem run_append (s : Scan) (left right : Bytes) : run s (left ++ right) = run (run s left) right := List.foldl_append

theorem run_cons (s : Scan) (b : UInt8) (rest : Bytes) : run s (b :: rest) = run (step s b) rest := rfl

def text (s : Scan) (chars : List Char) : Scan := run s (encoded chars)

theorem text_append (s : Scan) (left right : List Char) : text s (left ++ right) = text (text s left) right := by
  rw [text,encoded_append,run_append]
  rfl

theorem text_ascii (s : Scan) {c : Char} (h : c.toNat < 128) (rest : List Char) :
    text s (c :: rest) = text (step s (UInt8.ofNat c.toNat)) rest := by
  rw [text,encoded_cons,encodeChar_ascii h]
  rfl

theorem run_inside {depth : ℕ} {raw : Bytes} (h : ∀ b ∈ raw, b ≠ 0x22 ∧ b ≠ 0x5C) :
    run (.inside depth) raw = .inside depth := by
  induction raw with
  | nil => rfl
  | cons b rest ih =>
    obtain ⟨⟨hquote,hslash⟩,hrest⟩ := List.forall_mem_cons.mp h
    rw [run_cons,step,if_neg hquote,if_neg hslash]
    exact ih hrest

theorem text_plainChar {depth : ℕ} {c : Char} (hquote : c ≠ '"') (hslash : c ≠ '\\') (rest : List Char) :
    text (.inside depth) (c :: rest) = text (.inside depth) rest := by
  rw [text,encoded_cons,run_append,run_inside]
  · rfl
  · intro b hb
    rcases encodeChar_cases c with ⟨hlt,heq⟩ | hhigh
    · rw [heq,List.mem_singleton] at hb
      have hvalue : b.toNat = c.toNat := by rw [hb,toNat_ofNat (by omega)]
      refine ⟨fun he => hquote ?_,fun he => hslash ?_⟩
      · exact Char.toNat_inj.mp (by rw [← hvalue,he]; rfl)
      · exact Char.toNat_inj.mp (by rw [← hvalue,he]; rfl)
    · have hb := hhigh b hb
      refine ⟨?_,?_⟩
      all_goals
        rintro rfl
        exact absurd hb (by decide)

theorem hexDigit_plain : ∀ n : Fin 16, hexDigit n.val ≠ '"' ∧ hexDigit n.val ≠ '\\' := by decide

theorem text_escape (depth : ℕ) (c : Char) (rest : List Char) :
    text (.inside depth) (escape c ++ rest) = text (.inside depth) rest := by
  have hslash (d : Char) (hd : d ∈ ['"','\\','n','r','t','f','b','u']) (tail : List Char) :
      text (.inside depth) ('\\' :: d :: tail) = text (.inside depth) tail := by
    rw [text_ascii _ (by decide)]
    simp only [List.mem_cons,List.not_mem_nil,or_false] at hd
    rcases hd with rfl | rfl | rfl | rfl | rfl | rfl | rfl | rfl
    all_goals
      rw [text_ascii _ (by decide)]
      rfl
  rw [escape]
  split
  · exact hslash _ (by decide) _
  · split
    · exact hslash _ (by decide) _
    · split
      · exact hslash _ (by decide) _
      · split
        · exact hslash _ (by decide) _
        · split
          · exact hslash _ (by decide) _
          · split
            · exact hslash _ (by decide) _
            · split
              · exact hslash _ (by decide) _
              · split
                · next hcontrol =>
                  have hhigh := hexDigit_plain ⟨c.toNat / 16,by omega⟩
                  have hlow := hexDigit_plain ⟨c.toNat % 16,by omega⟩
                  rw [List.cons_append,List.cons_append,hslash _ (by decide),List.cons_append,List.cons_append,
                    List.cons_append,List.cons_append,text_plainChar (by decide) (by decide),
                    text_plainChar (by decide) (by decide),text_plainChar hhigh.1 hhigh.2,text_plainChar hlow.1 hlow.2]
                  rfl
                · next hquote hback _ _ _ _ _ _ => exact text_plainChar hquote hback rest

theorem text_flatMap (depth : ℕ) (body rest : List Char) :
    text (.inside depth) (body.flatMap escape ++ rest) = text (.inside depth) rest := by
  induction body with
  | nil => rfl
  | cons c body ih => rw [List.flatMap_cons,List.append_assoc,text_escape,ih]

theorem text_quote (depth : ℕ) (key : String) (rest : List Char) :
    text (.plain depth) (quote key ++ rest) = text (.closed depth) rest := by
  rw [quote,List.cons_append,text_ascii _ (by decide),List.append_assoc]
  have hopen : step (.plain depth) (UInt8.ofNat '"'.toNat) = .inside depth := rfl
  rw [hopen,text_flatMap,List.singleton_append,text_ascii _ (by decide)]
  rfl

def IsNumberChar (c : Char) : Prop := c.isDigit = true ∨ c = '-' ∨ c = '+' ∨ c = '.' ∨ c = 'e'

theorem text_number {depth : ℕ} {digits : List Char} (h : ∀ c ∈ digits, IsNumberChar c) :
    text (.plain depth) digits = .plain depth := by
  induction digits with
  | nil => rfl
  | cons c rest ih =>
    obtain ⟨hc,hrest⟩ := List.forall_mem_cons.mp h
    have hrange : c.toNat = 43 ∨ c.toNat = 45 ∨ c.toNat = 46 ∨ c.toNat = 101 ∨ 48 ≤ c.toNat ∧ c.toNat ≤ 57 := by
      rcases hc with hdigit | rfl | rfl | rfl | rfl
      · simp only [Char.isDigit,Bool.and_eq_true,decide_eq_true_eq] at hdigit
        exact .inr (.inr (.inr (.inr hdigit)))
      · decide
      · decide
      · decide
      · decide
    have hne {b : UInt8} (hout : c.toNat ≠ b.toNat) : UInt8.ofNat c.toNat ≠ b := by
      rintro rfl
      exact hout (toNat_ofNat (by omega)).symm
    have hquote : c.toNat ≠ (0x22 : UInt8).toNat := ne_of_gt (show 34 < c.toNat by omega)
    have hopen : c.toNat ≠ (0x7B : UInt8).toNat := ne_of_lt (show c.toNat < 123 by omega)
    have hbracket : c.toNat ≠ (0x5B : UInt8).toNat := fun he => by
      have : c.toNat = 91 := he
      omega
    have hclose : c.toNat ≠ (0x7D : UInt8).toNat := ne_of_lt (show c.toNat < 125 by omega)
    have hend : c.toNat ≠ (0x5D : UInt8).toNat := fun he => by
      have : c.toNat = 93 := he
      omega
    rw [text_ascii _ (by omega),step,if_neg (hne hquote),if_neg (not_or.mpr ⟨hne hopen,hne hbracket⟩),
      if_neg (not_or.mpr ⟨hne hclose,hne hend⟩)]
    exact ih hrest

theorem digits_numberChars {digits : List Char} (h : ∀ c ∈ digits, c.isDigit = true) : ∀ c ∈ digits, IsNumberChar c :=
  fun c hc => .inl (h c hc)

theorem decimal_numberChars {decimals : List Char} (h : DecimalPart decimals) : ∀ c ∈ decimals, IsNumberChar c := by
  cases h with
  | none => exact List.forall_mem_nil _
  | some hdigits _ => exact List.forall_mem_cons.mpr ⟨.inr (.inr (.inr (.inl rfl))),digits_numberChars hdigits⟩

theorem power_numberChars {power : List Char} (h : PowerPart power) : ∀ c ∈ power, IsNumberChar c := by
  cases h with
  | none => exact List.forall_mem_nil _
  | some hmark hdigits _ =>
    refine List.forall_mem_cons.mpr ⟨.inr (.inr (.inr (.inr rfl))),append_forall ?_ (digits_numberChars hdigits)⟩
    intro c hc
    rcases hmark with rfl | rfl
    · exact .inr (.inr (.inl (List.mem_singleton.mp hc)))
    · exact .inr (.inl (List.mem_singleton.mp hc))

theorem float_numberChars (parts : FloatParts) : ∀ c ∈ parts.text, IsNumberChar c := by
  have hsign : ∀ c ∈ (if parts.negative then ['-'] else []), IsNumberChar c := by
    intro c hc
    cases hnegative : parts.negative with
    | true =>
      rw [hnegative] at hc
      exact .inr (.inl (List.mem_singleton.mp hc))
    | false =>
      rw [hnegative] at hc
      cases hc
  have hinteger : ∀ c ∈ parts.digits, IsNumberChar c := by
    rcases parts.integer with hzero | ⟨hdigits,-⟩
    · intro c hc
      rw [hzero,List.mem_singleton] at hc
      exact .inl (by rw [hc]; decide)
    · exact digits_numberChars hdigits
  exact append_forall (append_forall (append_forall hsign hinteger) (decimal_numberChars parts.decimal))
    (power_numberChars parts.exponent)

theorem intText_numberChars (n : ℤ) : ∀ c ∈ intText n, IsNumberChar c := by
  have hdigits : ∀ c ∈ Nat.toDigits 10 n.natAbs, IsNumberChar c :=
    fun c hc => .inl (Nat.isDigit_of_mem_toDigits (by omega) (le_refl 10) hc)
  rw [intText]
  split
  · exact List.forall_mem_cons.mpr ⟨.inr (.inl rfl),hdigits⟩
  · exact hdigits

def Settled (depth : ℕ) (s : Scan) : Prop := s = .plain depth ∨ s = .closed depth

theorem Settled.comma {depth : ℕ} {s : Scan} (h : Settled depth s) (rest : List Char) :
    text s (',' :: rest) = text (.plain depth) rest := by
  rw [text_ascii _ (by decide)]
  rcases h with rfl | rfl <;> rfl

theorem Settled.brace {depth : ℕ} {s : Scan} (h : Settled depth s) : text s ['}'] = leave depth := by
  rw [text_ascii _ (by decide)]
  rcases h with rfl | rfl <;> rfl

theorem Settled.bracket {depth : ℕ} {s : Scan} (h : Settled depth s) : text s [']'] = leave depth := by
  rw [text_ascii _ (by decide)]
  rcases h with rfl | rfl <;> rfl

theorem text_colon (depth : ℕ) (rest : List Char) : text (.closed depth) (':' :: rest) = text (.plain depth) rest := by
  rw [text_ascii _ (by decide)]
  rfl

theorem text_brace (depth : ℕ) (rest : List Char) :
    text (.plain depth) ('{' :: rest) = text (.plain (depth + 1)) rest := by
  rw [text_ascii _ (by decide)]
  rfl

theorem text_bracket (depth : ℕ) (rest : List Char) :
    text (.plain depth) ('[' :: rest) = text (.plain (depth + 1)) rest := by
  rw [text_ascii _ (by decide)]
  rfl

theorem text_letters {depth : ℕ} {word : List Char}
    (h : word ∈ [['n','u','l','l'],['t','r','u','e'],['f','a','l','s','e']]) : text (.plain depth) word = .plain depth := by
  simp only [List.mem_cons,List.not_mem_nil,or_false] at h
  rcases h with rfl | rfl | rfl <;> rfl

end Scan

mutual

def Numeric : Json → Prop
  | .float text => ∃ parts : FloatParts, text = String.ofList parts.text
  | .arr items => NumericItems items
  | .obj fields => NumericFields fields
  | _ => True

def NumericItems : List Json → Prop
  | [] => True
  | item :: rest => Numeric item ∧ NumericItems rest

def NumericFields : List (String × Json) → Prop
  | [] => True
  | (_,value) :: rest => Numeric value ∧ NumericFields rest

end

namespace Scan

mutual

theorem text_dumps : ∀ (v : Json) (depth : ℕ), Numeric v → Settled depth (text (.plain depth) (dumps v))
  | .null, _, _ => .inl (text_letters (by simp [dumps]))
  | .bool true, _, _ => .inl (text_letters (by simp [dumps]))
  | .bool false, _, _ => .inl (text_letters (by simp [dumps]))
  | .int n, _, _ => .inl (text_number (intText_numberChars n))
  | .float _, _, h => by
    obtain ⟨parts,rfl⟩ := h
    rw [dumps,String.toList_ofList]
    exact .inl (text_number (float_numberChars parts))
  | .str value, depth, _ => by
    have hquote := text_quote depth value []
    rw [List.append_nil] at hquote
    exact .inr hquote
  | .arr [], depth, _ => by
    rw [dumps,text_bracket]
    exact .inl (Settled.bracket (.inl rfl))
  | .arr (item :: rest), depth, h => by
    rw [dumps,text_bracket,text_append]
    exact .inl (text_items rest (depth + 1) h.2 (text_dumps item (depth + 1) h.1))
  | .obj [], depth, _ => by
    rw [dumps,text_brace]
    exact .inl (Settled.brace (.inl rfl))
  | .obj ((key,value) :: rest), depth, h => by
    rw [dumps,text_brace,text_quote,text_colon,text_append]
    exact .inl (text_fields rest (depth + 1) h.2 (text_dumps value (depth + 1) h.1))

theorem text_items : ∀ (rest : List Json) (depth : ℕ) {s : Scan}, NumericItems rest → Settled depth s →
    text s (dumpsItems rest) = leave depth
  | [], _, _, _, hs => hs.bracket
  | item :: rest, depth, _, h, hs => by
    rw [dumpsItems,hs.comma,text_append]
    exact text_items rest depth h.2 (text_dumps item depth h.1)

theorem text_fields : ∀ (rest : List (String × Json)) (depth : ℕ) {s : Scan}, NumericFields rest → Settled depth s →
    text s (dumpsFields rest) = leave depth
  | [], _, _, _, hs => hs.brace
  | (key,value) :: rest, depth, _, h, hs => by
    rw [dumpsFields,hs.comma,text_quote,text_colon,text_append]
    exact text_fields rest depth h.2 (text_dumps value depth h.1)

end

theorem text_start {fields : List (String × Json)} (h : NumericFields fields) :
    text .start (dumps (.obj fields)) = .done := by
  match fields with
  | [] => rfl
  | (key,value) :: rest =>
    have hstart (tail : List Char) : text .start ('{' :: tail) = text (.plain 0) tail := text_ascii _ (by decide) _
    rw [dumps,hstart,text_quote,text_colon,text_append]
    exact text_fields rest 0 h.2 (text_dumps value 0 h.1)

theorem run_bad (raw : Bytes) : run .bad raw = .bad := by
  induction raw with
  | nil => rfl
  | cons b rest ih => exact ih

theorem step_ne_start (s : Scan) (b : UInt8) : step s b ≠ .start := by
  have hleave (depth : ℕ) : leave depth ≠ .start := by cases depth <;> simp [leave]
  cases s <;> simp only [step] <;> repeat' split
  all_goals first
    | exact hleave _
    | simp

theorem run_ne_start {s : Scan} (hs : s ≠ .start) (raw : Bytes) : run s raw ≠ .start := by
  induction raw generalizing s with
  | nil => exact hs
  | cons b rest ih => exact ih (step_ne_start s b)

theorem encoded_ne_append {fields inner : List (String × Json)} (hfields : NumericFields fields) (hinner : NumericFields inner)
    {before tail : Bytes} {b : UInt8} (hbefore : before ≠ [])
    (hopens : encoded (dumps (.obj inner)) = 0x7B :: 0x22 :: b :: tail) (hb : b ∉ [0x2C,0x3A,0x7D,0x5D]) :
    encoded (dumps (.obj fields)) ≠ before ++ encoded (dumps (.obj inner)) := by
  intro he
  have hdone : run (run .start before) (encoded (dumps (.obj inner))) = .done := by
    rw [← run_append,← he]
    exact text_start hfields
  have hne : run .start before ≠ .start := by
    obtain ⟨b,rest,rfl⟩ := List.exists_cons_of_ne_nil hbefore
    exact run_ne_start (step_ne_start _ b) rest
  generalize run .start before = s at hdone hne
  cases s with
  | start => exact hne rfl
  | plain depth =>
    rcases text_dumps (.obj inner) depth hinner with hplain | hclosed
    · exact absurd (hplain.symm.trans hdone) (by simp)
    · exact absurd (hclosed.symm.trans hdone) (by simp)
  | inside depth =>
    rw [hopens] at hdone
    simp only [List.mem_cons,List.not_mem_nil,or_false,not_or] at hb
    have hstep : step (.closed depth) b = .bad := by simp [step,hb]
    have hrun : run (.inside depth) (0x7B :: 0x22 :: b :: tail) = run (step (.closed depth) b) tail := rfl
    rw [hrun,hstep,run_bad] at hdone
    cases hdone
  | escaped depth =>
    rw [hopens] at hdone
    have hrun : run (.escaped depth) (0x7B :: 0x22 :: b :: tail) = run .bad (0x22 :: b :: tail) := rfl
    rw [hrun,run_bad] at hdone
    cases hdone
  | closed depth =>
    rw [hopens] at hdone
    have hrun : run (.closed depth) (0x7B :: 0x22 :: b :: tail) = run .bad (0x22 :: b :: tail) := rfl
    rw [hrun,run_bad] at hdone
    cases hdone
  | done =>
    rw [hopens,run_cons,step,run_bad] at hdone
    cases hdone
  | bad =>
    rw [run_bad] at hdone
    cases hdone

end Scan

section Reading

theorem numericFields_iff {fields : List (String × Json)} : NumericFields fields ↔ ∀ field ∈ fields, Numeric field.2 := by
  induction fields with
  | nil => simp [NumericFields]
  | cons field rest ih => rw [NumericFields,ih,List.forall_mem_cons]

theorem finiteFields_iff {fields : List (String × Json)} :
    finiteFields fields = true ↔ ∀ field ∈ fields, finite field.2 = true := by
  induction fields with
  | nil => simp [finiteFields]
  | cons field rest ih => rw [finiteFields,Bool.and_eq_true,ih,List.forall_mem_cons]

theorem closeFields_numeric {fields : List (String × Json)} {v : Json} (h : closeFields fields = some v)
    (hfields : finiteFields fields = true → NumericFields fields) (hfinite : finite v = true) : Numeric v := by
  rw [closeFields] at h
  split at h
  · cases h
    rw [finite,finiteFields_iff] at hfinite
    rw [Numeric,numericFields_iff]
    rw [finiteFields_iff,numericFields_iff] at hfields
    intro field hmem
    exact hfields (fun field hmem => hfinite field (List.mem_mergeSort.mpr hmem)) field (List.mem_mergeSort.mp hmem)
  · cases h

-- The repr of a float is a number with a point or an exponent, or one of three words.
def WritesFloats (floatRepr : String → String) : Prop :=
  ∀ text, floatRepr text ∈ ["nan","inf","-inf"] ∨ ∃ parts : FloatParts, floatRepr text = String.ofList parts.text

variable {floatRepr : String → String} (hlaw : WritesFloats floatRepr)
include hlaw

theorem scaled_numeric {negative : Bool} {digits text : List Char}
    (h : finite (scaled floatRepr negative digits text).1 = true) : Numeric (scaled floatRepr negative digits text).1 := by
  rw [scaled] at h ⊢
  simp only at h ⊢
  split at h
  · next hint => rw [if_pos hint]; exact trivial
  · next hfloat =>
    rw [if_neg hfloat]
    exact (hlaw _).resolve_left (of_decide_eq_true h)

theorem number_numeric {text : List Char} {read : Json × List Char} (h : number floatRepr text = some read)
    (hfinite : finite read.1 = true) : Numeric read.1 := by
  have hunsigned {negative : Bool} {text : List Char} (h : unsigned floatRepr negative text = some read) :
      Numeric read.1 := by
    unfold unsigned at h
    split at h
    · cases h
      exact scaled_numeric hlaw hfinite
    · split at h
      · cases h
      · cases h
        exact scaled_numeric hlaw hfinite
  unfold number at h
  split at h
  · exact hunsigned h
  · exact hunsigned h

theorem read_numeric : ∀ fuel : ℕ,
    (∀ text read, value (.strict floatRepr) fuel text = some read → finite read.1 = true → Numeric read.1) ∧
    (∀ text read, items (.strict floatRepr) fuel text = some read → finiteItems read.1 = true → NumericItems read.1) ∧
    ∀ text read, members (.strict floatRepr) fuel text = some read → finiteFields read.1 = true → NumericFields read.1 := by
  intro fuel
  induction fuel with
  | zero => exact ⟨fun _ _ h => (by cases h),fun _ _ h => (by cases h),fun _ _ h => (by cases h)⟩
  | succ fuel ih =>
    obtain ⟨hvalue,hitems,hmembers⟩ := ih
    refine ⟨fun text read h hfinite => ?_,fun text read h hfinite => ?_,fun text read h hfinite => ?_⟩
    · unfold value at h
      split at h
      · obtain ⟨body,_,rfl⟩ := Option.map_eq_some_iff.mp h
        exact trivial
      · split at h
        · cases h
          exact trivial
        · obtain ⟨inner,hinner,rfl⟩ := Option.map_eq_some_iff.mp h
          exact hitems _ _ hinner hfinite
      · split at h
        · cases h
          exact trivial
        · obtain ⟨inner,hinner,hclose⟩ := Option.bind_eq_some_iff.mp h
          obtain ⟨dict,hdict,rfl⟩ := Option.map_eq_some_iff.mp hclose
          exact closeFields_numeric hdict (hmembers _ _ hinner) hfinite
      · cases h
        exact trivial
      · cases h
        exact trivial
      · cases h
        exact trivial
      · cases h
      · cases h
      · cases h
      · exact number_numeric hlaw h hfinite
    · rw [items] at h
      obtain ⟨head,hhead,h⟩ := Option.bind_eq_some_iff.mp h
      split at h
      · obtain ⟨inner,hinner,rfl⟩ := Option.map_eq_some_iff.mp h
        rw [finiteItems,Bool.and_eq_true] at hfinite
        exact ⟨hvalue _ _ hhead hfinite.1,hitems _ _ hinner hfinite.2⟩
      · cases h
        rw [finiteItems,Bool.and_eq_true] at hfinite
        exact ⟨hvalue _ _ hhead hfinite.1,trivial⟩
      · cases h
    · unfold members at h
      split at h
      · obtain ⟨key,hkey,h⟩ := Option.bind_eq_some_iff.mp h
        split at h
        · obtain ⟨head,hhead,h⟩ := Option.bind_eq_some_iff.mp h
          split at h
          · obtain ⟨inner,hinner,rfl⟩ := Option.map_eq_some_iff.mp h
            rw [finiteFields,Bool.and_eq_true] at hfinite
            exact ⟨hvalue _ _ hhead hfinite.1,hmembers _ _ hinner hfinite.2⟩
          · cases h
            rw [finiteFields,Bool.and_eq_true] at hfinite
            exact ⟨hvalue _ _ hhead hfinite.1,trivial⟩
          · cases h
        · cases h
      · cases h

theorem loads_numeric {text : List Char} {v : Json} (h : loads floatRepr text = some v) (hfinite : finite v = true) :
    Numeric v := by
  rw [loads,loadsWith] at h
  split at h
  · next read rest hread =>
    split at h
    · cases h
      exact (read_numeric hlaw _).1 _ _ hread hfinite
    · cases h
  · cases h

end Reading

end Json

end PneumaLab
