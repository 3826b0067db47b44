import PneumaLab.Library.JsonAscii
import PneumaLab.Library.JsonDocument
import PneumaLab.Library.JsonText

namespace PneumaLab.Document

section Units

def IsText (text : CodePoints) : Prop := ∀ unit ∈ text, unit < 0x110000

instance (text : CodePoints) : Decidable (IsText text) := inferInstanceAs (Decidable (∀ unit ∈ text, unit < 0x110000))

def IsHigh (unit : ℕ) : Prop := 0xD800 ≤ unit ∧ unit ≤ 0xDBFF

def IsLow (unit : ℕ) : Prop := 0xDC00 ≤ unit ∧ unit ≤ 0xDFFF

-- No high surrogate stands directly before a low one.
def Unpaired (text : CodePoints) : Prop := text.IsChain fun high low => ¬ (IsHigh high ∧ IsLow low)

def unitsOf (unit : ℕ) : List ℕ :=
  if unit < 0x10000 then [unit] else [0xD800 + (unit - 0x10000) / 1024,0xDC00 + (unit - 0x10000) % 1024]

theorem join_pair {high low : ℕ} (h : IsHigh high ∧ IsLow low) (rest : CodePoints) :
    joinSurrogates (high :: low :: rest) = (0x10000 + (high - 0xD800) * 1024 + (low - 0xDC00)) :: joinSurrogates rest := by
  obtain ⟨⟨h1,h2⟩,h3,h4⟩ := h
  rw [joinSurrogates,if_pos ⟨h1,h2,h3,h4⟩]

theorem join_apart {high low : ℕ} (h : ¬ (IsHigh high ∧ IsLow low)) (rest : CodePoints) :
    joinSurrogates (high :: low :: rest) = high :: joinSurrogates (low :: rest) := by
  rw [joinSurrogates,if_neg]
  rintro ⟨h1,h2,h3,h4⟩
  exact h ⟨⟨h1,h2⟩,h3,h4⟩

theorem text_rec {P : CodePoints → Prop} (nil : P []) (single : ∀ unit, P [unit])
    (pair : ∀ high low rest, IsHigh high ∧ IsLow low → P rest → P (high :: low :: rest))
    (apart : ∀ high low rest, ¬ (IsHigh high ∧ IsLow low) → P (low :: rest) → P (high :: low :: rest)) (text : CodePoints) :
    P text := by
  induction text using joinSurrogates.induct with
  | case1 high low rest h ih => exact pair high low rest ⟨⟨h.1,h.2.1⟩,h.2.2.1,h.2.2.2⟩ ih
  | case2 high low rest h ih => exact apart high low rest (fun hpair => h ⟨hpair.1.1,hpair.1.2,hpair.2.1,hpair.2.2⟩) ih
  | case3 units h =>
    cases units with
    | nil => exact nil
    | cons unit units =>
      cases units with
      | nil => exact single unit
      | cons low rest => exact (h unit low rest rfl).elim

theorem unitsOf_large {unit : ℕ} (h : ¬ unit < 0x10000) (htext : unit < 0x110000) : ∃ high low, unitsOf unit = [high,low] ∧
    (IsHigh high ∧ IsLow low) ∧ 0x10000 + (high - 0xD800) * 1024 + (low - 0xDC00) = unit := by
  refine ⟨_,_,if_neg h,⟨⟨?_,?_⟩,?_,?_⟩,?_⟩
  · omega
  · omega
  · omega
  · omega
  · omega

theorem units_head (unit : ℕ) (htext : unit < 0x110000) (rest : List ℕ) :
    ∃ first tail, unitsOf unit ++ rest = first :: tail ∧ (IsLow first → first = unit) := by
  by_cases h : unit < 0x10000
  · exact ⟨unit,rest,by rw [unitsOf,if_pos h]; rfl,fun _ => rfl⟩
  · obtain ⟨high,low,hunits,⟨⟨_,_⟩,_⟩,_⟩ := unitsOf_large h htext
    refine ⟨high,low :: rest,by rw [hunits]; rfl,?_⟩
    rintro ⟨_,_⟩
    omega

theorem join_units {text : CodePoints} (h : IsText text) : joinSurrogates (text.flatMap unitsOf) = joinSurrogates text := by
  induction text using text_rec with
  | nil => rfl
  | single unit =>
    rw [List.flatMap_cons,List.flatMap_nil,List.append_nil]
    by_cases hsmall : unit < 0x10000
    · rw [unitsOf,if_pos hsmall]
    · obtain ⟨high,low,hunits,hpair,hvalue⟩ := unitsOf_large hsmall (h unit List.mem_cons_self)
      rw [hunits,join_pair hpair,hvalue]
      rfl
  | pair high low rest hpair ih =>
    obtain ⟨_,hrest⟩ := List.forall_mem_cons.mp h
    obtain ⟨_,hrest⟩ := List.forall_mem_cons.mp hrest
    have hhigh : unitsOf high = [high] := if_pos (by have := hpair.1.2; omega)
    have hlow : unitsOf low = [low] := if_pos (by have := hpair.2.2; omega)
    rw [List.flatMap_cons,List.flatMap_cons,hhigh,hlow,List.singleton_append,List.singleton_append,join_pair hpair,join_pair hpair,
      ih hrest]
  | apart high low rest hpair ih =>
    obtain ⟨hhigh,hrest⟩ := List.forall_mem_cons.mp h
    have hlow := hrest low List.mem_cons_self
    rw [join_apart hpair,List.flatMap_cons,← ih hrest]
    by_cases hsmall : high < 0x10000
    · obtain ⟨first,tail,hfirst,hsame⟩ := units_head low hlow (rest.flatMap unitsOf)
      have hunits : unitsOf high = [high] := if_pos hsmall
      rw [hunits,List.flatMap_cons,hfirst,List.singleton_append,join_apart]
      rintro ⟨hishigh,hislow⟩
      exact hpair ⟨hishigh,hsame hislow ▸ hislow⟩
    · obtain ⟨first,second,hunits,hsurrogates,hvalue⟩ := unitsOf_large hsmall hhigh
      rw [hunits,List.cons_append,List.singleton_append,join_pair hsurrogates,hvalue]

theorem join_length_le (text : CodePoints) : (joinSurrogates text).length ≤ text.length := by
  induction text using text_rec with
  | nil => exact le_rfl
  | single unit => exact le_rfl
  | pair high low rest h ih =>
    rw [join_pair h,List.length_cons,List.length_cons,List.length_cons]
    omega
  | apart high low rest h ih =>
    rw [join_apart h,List.length_cons,List.length_cons]
    exact Nat.succ_le_succ ih

theorem join_eq_self_iff {text : CodePoints} : joinSurrogates text = text ↔ Unpaired text := by
  induction text using text_rec with
  | nil => exact ⟨fun _ => .nil,fun _ => rfl⟩
  | single unit => exact ⟨fun _ => .singleton unit,fun _ => rfl⟩
  | pair high low rest h ih =>
    constructor
    · intro hself
      have hlength := congrArg List.length hself
      have hle := join_length_le rest
      rw [join_pair h,List.length_cons,List.length_cons,List.length_cons] at hlength
      omega
    · intro hunpaired
      exact absurd h (List.isChain_cons_cons.mp hunpaired).1
  | apart high low rest h ih =>
    rw [join_apart h,List.cons_inj_right,ih,Unpaired,Unpaired,List.isChain_cons_cons]
    exact ⟨fun hrest => ⟨h,hrest⟩,And.right⟩

end Units

section Quoting

-- json.dumps writes a text in ASCII, a character outside the plane as its two surrogates.
def asciiUnit (unit : ℕ) : List Char :=
  if unit = 34 then ['\\','"']
  else if unit = 92 then ['\\','\\']
  else if unit = 10 then ['\\','n']
  else if unit = 13 then ['\\','r']
  else if unit = 9 then ['\\','t']
  else if unit = 12 then ['\\','f']
  else if unit = 8 then ['\\','b']
  else if 32 ≤ unit ∧ unit ≤ 126 then [Char.ofNat unit]
  else if unit < 0x10000 then Json.unicodeEscape unit
  else Json.unicodeEscape (0xD800 + (unit - 0x10000) / 1024) ++ Json.unicodeEscape (0xDC00 + (unit - 0x10000) % 1024)

def quoteAscii (text : CodePoints) : List Char := '"' :: (text.flatMap asciiUnit ++ ['"'])

theorem stringUnits_plain {c : Char} (hq : c ≠ '"') (hs : c ≠ '\\') (hc : ¬ c.toNat < 32) (rest : List Char) :
    stringUnits (c :: rest) = (stringUnits rest).map fun read => (c.toNat :: read.1,read.2) := by
  rw [stringUnits.eq_def]
  split
  · next h => cases h
  · next h => exact absurd (List.cons.inj h).1 hq
  · next h => exact absurd (List.cons.inj h).1 hs
  · next h => exact absurd (List.cons.inj h).1 hs
  · next h =>
    cases h
    rw [if_neg hc]

theorem stringUnits_simple {c plain : Char} (h : Json.simpleEscape c = some plain) (hu : c ≠ 'u') (rest : List Char) :
    stringUnits ('\\' :: c :: rest) = (stringUnits rest).map fun read => (plain.toNat :: read.1,read.2) := by
  rw [stringUnits.eq_def]
  split
  · next he => cases he
  · next he => cases he
  · next he => exact absurd (List.cons.inj (List.cons.inj he).2).1 hu
  · next he =>
    cases he
    rw [h]
  · next hne he =>
    cases he
    exact (hne c rest rfl rfl).elim

theorem stringUnits_unicode {unit : ℕ} (h : unit < 0x10000) (rest : List Char) :
    stringUnits (Json.unicodeEscape unit ++ rest) = (stringUnits rest).map fun read => (unit :: read.1,read.2) := by
  have hquad : Json.hexQuad (hexDigit (unit / 4096 % 16)) (hexDigit (unit / 256 % 16)) (hexDigit (unit / 16 % 16))
      (hexDigit (unit % 16)) = some unit := by
    rw [Json.hexQuad,hexDigit_value _ (by omega),hexDigit_value _ (by omega),hexDigit_value _ (by omega),
      hexDigit_value _ (by omega)]
    simp only [Option.bind_eq_bind,Option.bind_some,Option.pure_def,Option.some.injEq]
    omega
  rw [Json.unicodeEscape]
  simp only [List.cons_append,List.nil_append]
  rw [stringUnits,hquad]

theorem printable_toNat : ∀ n < 127, (Char.ofNat n).toNat = n := by decide

theorem stringUnits_ascii {unit : ℕ} (h : unit < 0x110000) (rest : List Char) :
    stringUnits (asciiUnit unit ++ rest) = (stringUnits rest).map fun read => (unitsOf unit ++ read.1,read.2) := by
  have hsingle (hsmall : unit < 0x10000) : unitsOf unit = [unit] := if_pos hsmall
  have hescape {c plain : Char} (hc : Json.simpleEscape c = some plain) (hu : c ≠ 'u') (hunit : plain.toNat = unit) :
      stringUnits (['\\',c] ++ rest) = (stringUnits rest).map fun read => (unitsOf unit ++ read.1,read.2) := by
    have hsmall : unit < 0x10000 := by
      rw [Json.simpleEscape] at hc
      split_ifs at hc
      all_goals
        cases hc
        rw [← hunit]
        decide
    rw [hsingle hsmall,← hunit]
    exact stringUnits_simple hc hu rest
  unfold asciiUnit
  split
  · next he =>
    subst he
    exact @hescape '"' '"' rfl (by decide) rfl
  split
  · next he =>
    subst he
    exact @hescape '\\' '\\' rfl (by decide) rfl
  split
  · next he =>
    subst he
    exact @hescape 'n' '\n' rfl (by decide) rfl
  split
  · next he =>
    subst he
    exact @hescape 'r' '\r' rfl (by decide) rfl
  split
  · next he =>
    subst he
    exact @hescape 't' '\t' rfl (by decide) rfl
  split
  · next he =>
    subst he
    exact @hescape 'f' (Char.ofNat 12) rfl (by decide) rfl
  split
  · next he =>
    subst he
    exact @hescape 'b' (Char.ofNat 8) rfl (by decide) rfl
  split
  · next hquote hslash _ _ _ _ _ hplain =>
    have hnat := printable_toNat unit (by omega)
    rw [hsingle (by omega),List.singleton_append,stringUnits_plain,hnat]
    · rfl
    · rintro hc
      rw [hc] at hnat
      exact hquote hnat.symm
    · rintro hc
      rw [hc] at hnat
      exact hslash hnat.symm
    · omega
  split
  · next hsmall => rw [hsingle hsmall]; exact stringUnits_unicode hsmall rest
  · next hlarge =>
    have hunits : unitsOf unit = [0xD800 + (unit - 0x10000) / 1024,0xDC00 + (unit - 0x10000) % 1024] := if_neg hlarge
    rw [hunits,List.append_assoc,stringUnits_unicode (by omega),stringUnits_unicode (by omega),Option.map_map]
    rfl

theorem stringUnits_flatMap {text : CodePoints} (h : IsText text) (rest : List Char) :
    stringUnits (text.flatMap asciiUnit ++ '"' :: rest) = some (text.flatMap unitsOf,rest) := by
  induction text with
  | nil => rfl
  | cons unit text ih =>
    obtain ⟨hunit,htext⟩ := List.forall_mem_cons.mp h
    rw [List.flatMap_cons,List.append_assoc,stringUnits_ascii hunit,ih htext]
    rfl

theorem quoteAscii_append (text : CodePoints) (rest : List Char) :
    quoteAscii text ++ rest = '"' :: (text.flatMap asciiUnit ++ '"' :: rest) := by
  simp [quoteAscii]

theorem string_quoted {text : CodePoints} (h : IsText text) (rest : List Char) :
    string (text.flatMap asciiUnit ++ '"' :: rest) = some (joinSurrogates text,rest) := by
  rw [string,stringUnits_flatMap h,Option.map_some,join_units h]

end Quoting

section Writing

mutual

def dumps : Document → List Char
  | .scalar value => Json.dumps value
  | .str text => quoteAscii text
  | .arr [] => ['[',']']
  | .arr (item :: rest) => '[' :: (dumps item ++ dumpsItems rest)
  | .obj [] => ['{','}']
  | .obj ((key,value) :: rest) => '{' :: (quoteAscii key ++ ':' :: (dumps value ++ dumpsFields rest))

def dumpsItems : List Document → List Char
  | [] => [']']
  | item :: rest => ',' :: (dumps item ++ dumpsItems rest)

def dumpsFields : List (CodePoints × Document) → List Char
  | [] => ['}']
  | (key,value) :: rest => ',' :: (quoteAscii key ++ ':' :: (dumps value ++ dumpsFields rest))

end

mutual

def joined : Document → Document
  | .scalar value => .scalar value
  | .str text => .str (joinSurrogates text)
  | .arr items => .arr (joinedItems items)
  | .obj fields => .obj (joinedFields fields)

def joinedItems : List Document → List Document
  | [] => []
  | item :: rest => joined item :: joinedItems rest

def joinedFields : List (CodePoints × Document) → List (CodePoints × Document)
  | [] => []
  | (key,value) :: rest => (joinSurrogates key,joined value) :: joinedFields rest

end

mutual

def Written (strict : Bool) : Document → Prop
  | .scalar .null => True
  | .scalar (.bool _) => True
  | .scalar (.int _) => True
  | .scalar _ => False
  | .str text => IsText text
  | .arr items => WrittenItems strict items
  | .obj fields => (strict = true → ((joinedFields fields).map Prod.fst).Nodup) ∧ WrittenFields strict fields

def WrittenItems (strict : Bool) : List Document → Prop
  | [] => True
  | item :: rest => Written strict item ∧ WrittenItems strict rest

def WrittenFields (strict : Bool) : List (CodePoints × Document) → Prop
  | [] => True
  | (key,value) :: rest => IsText key ∧ Written strict value ∧ WrittenFields strict rest

end

mutual

def size : Document → ℕ
  | .arr items => 1 + sizeItems items
  | .obj fields => 1 + sizeFields fields
  | _ => 1

def sizeItems : List Document → ℕ
  | [] => 0
  | item :: rest => 1 + size item + sizeItems rest

def sizeFields : List (CodePoints × Document) → ℕ
  | [] => 0
  | (_,value) :: rest => 1 + size value + sizeFields rest

end

theorem size_pos (v : Document) : 1 ≤ size v := by
  cases v with
  | arr items =>
    rw [size]
    omega
  | obj fields =>
    rw [size]
    omega
  | _ => simp [size]

end Writing

section Reading
variable {strict : Bool}

theorem dumps_opens {v : Document} (h : Written strict v) :
    ∃ c tail, dumps v = c :: tail ∧ (c ≠ ' ' ∧ c ≠ '\t' ∧ c ≠ '\n' ∧ c ≠ '\r') ∧ c ≠ ']' := by
  cases v with
  | scalar v =>
    cases v with
    | null => exact ⟨_,_,rfl,by decide,by decide⟩
    | bool b => cases b <;> exact ⟨_,_,rfl,by decide,by decide⟩
    | int n =>
      obtain ⟨tail,htail⟩ := Json.dumps_opens (show Json.Exact (.int n) from trivial)
      have hspace := @Json.opens_not_space id (.int n) trivial
      exact ⟨_,tail,htail,⟨hspace.1,hspace.2.1,hspace.2.2.1,hspace.2.2.2.1⟩,hspace.2.2.2.2.1⟩
    | _ => exact h.elim
  | str text => exact ⟨_,_,rfl,by decide,by decide⟩
  | arr items => cases items <;> exact ⟨_,_,rfl,by decide,by decide⟩
  | obj fields => cases fields <;> exact ⟨_,_,rfl,by decide,by decide⟩

theorem skipSpace_dumps {v : Document} (h : Written strict v) (rest : List Char) :
    Json.skipSpace (dumps v ++ rest) = dumps v ++ rest := by
  obtain ⟨c,tail,hdumps,hspace,_⟩ := dumps_opens h
  rw [hdumps,List.cons_append,Json.skipSpace_cons hspace]

theorem skipSpace_quoteAscii (text : CodePoints) (rest : List Char) :
    Json.skipSpace (quoteAscii text ++ rest) = quoteAscii text ++ rest := by
  rw [quoteAscii,List.cons_append,Json.skipSpace_cons (by decide)]

theorem endsNumber_dumpsItems (rest : List Document) (tail : List Char) : Json.EndsNumber (dumpsItems rest ++ tail) := by
  cases rest with
  | nil => exact Json.endsNumber_cons (by decide)
  | cons item rest => exact Json.endsNumber_cons (by decide)

theorem endsNumber_dumpsFields (rest : List (CodePoints × Document)) (tail : List Char) :
    Json.EndsNumber (dumpsFields rest ++ tail) := by
  cases rest with
  | nil => exact Json.endsNumber_cons (by decide)
  | cons field rest => exact Json.endsNumber_cons (by decide)

theorem value_number {c : Char} {tail : List Char} (h : c = '-' ∨ c.isDigit = true) {v : Json} {rest : List Char}
    (hnumber : Json.number id (c :: tail) = some (v,rest)) (fuel : ℕ) :
    value strict (fuel + 1) (c :: tail) = some (.scalar v,rest) := by
  obtain ⟨h0,h1,h2,h3,h4,h5,h6,h7⟩ := Json.number_start h
  rw [value.eq_def]
  dsimp only
  split
  · next he => exact absurd (List.cons.inj he).1 h0
  · next he => exact absurd (List.cons.inj he).1 h1
  · next he => exact absurd (List.cons.inj he).1 h2
  · next he => exact absurd (List.cons.inj he).1 h3
  · next he => exact absurd (List.cons.inj he).1 h4
  · next he => exact absurd (List.cons.inj he).1 h5
  · next he => exact absurd (List.cons.inj he).1 h6
  · next he => exact absurd (List.cons.inj he).1 h7
  · next he =>
    rw [he,Json.number] at hnumber
    cases hnumber
  · rw [hnumber]
    rfl

theorem value_int (n : ℤ) (fuel : ℕ) {rest : List Char} (hr : Json.EndsNumber rest) :
    value strict (fuel + 1) (Json.intText n ++ rest) = some (.scalar (.int n),rest) := by
  obtain ⟨tail,ht⟩ := Json.dumps_opens (show Json.Exact (.int n) from trivial)
  have hnumber := Json.number_intText id n hr
  rw [show Json.intText n = Json.opens (.int n) :: tail from ht,List.cons_append] at hnumber ⊢
  exact value_number (Json.opens_int n) hnumber fuel

theorem value_quoted {text : CodePoints} (h : IsText text) (fuel : ℕ) (rest : List Char) :
    value strict (fuel + 1) (quoteAscii text ++ rest) = some (.str (joinSurrogates text),rest) := by
  rw [quoteAscii_append,value,string_quoted h]
  rfl

mutual

theorem value_written : ∀ (v : Document) (fuel : ℕ) (rest : List Char), Written strict v → size v ≤ fuel →
    Json.EndsNumber rest → value strict fuel (dumps v ++ rest) = some (joined v,rest)
  | v, 0, _, _, hf, _ => absurd hf (by have := size_pos v; omega)
  | .scalar .null, _ + 1, _, _, _, _ => rfl
  | .scalar (.bool true), _ + 1, _, _, _, _ => rfl
  | .scalar (.bool false), _ + 1, _, _, _, _ => rfl
  | .scalar (.int n), fuel + 1, _, _, _, hr => value_int n fuel hr
  | .scalar (.float _), _ + 1, _, hv, _, _ => hv.elim
  | .scalar (.str _), _ + 1, _, hv, _, _ => hv.elim
  | .scalar (.arr _), _ + 1, _, hv, _, _ => hv.elim
  | .scalar (.obj _), _ + 1, _, hv, _, _ => hv.elim
  | .str _, fuel + 1, rest, hv, _, _ => value_quoted hv fuel rest
  | .arr [], _ + 1, _, _, _, _ => rfl
  | .arr (item :: rest), fuel + 1, tail, hv, hf, _ => by
    obtain ⟨hitem,hitems⟩ : Written strict item ∧ WrittenItems strict rest := hv
    have hread := items_written item rest fuel tail hitem hitems (by rw [size,sizeItems] at hf; omega)
    obtain ⟨c,text,ht,_,hclose⟩ := dumps_opens hitem
    rw [dumps,List.cons_append,value,List.append_assoc,skipSpace_dumps hitem]
    split
    · next he =>
      rw [ht,List.cons_append] at he
      exact absurd (List.cons.inj he).1 hclose
    · rw [hread]
      rfl
  | .obj [], _ + 1, _, _, _, _ => by
    rw [dumps,List.cons_append,value,List.singleton_append,Json.skipSpace_cons (by decide)]
    rfl
  | .obj ((key,v) :: rest), fuel + 1, tail, hv, hf, _ => by
    obtain ⟨hkeys,hkey,hvalue,hfields⟩ : (strict = true → ((joinedFields ((key,v) :: rest)).map Prod.fst).Nodup) ∧
      IsText key ∧ Written strict v ∧ WrittenFields strict rest := hv
    have hread := members_written key v rest fuel tail hkey hvalue hfields (by rw [size,sizeFields] at hf; omega)
    have hclose : close strict (joinedFields ((key,v) :: rest)) = some (.obj (joinedFields ((key,v) :: rest))) := by
      rw [close]
      cases strict with
      | false => rfl
      | true => rw [decide_eq_true (hkeys rfl)]; rfl
    rw [dumps,List.cons_append,value,List.append_assoc,skipSpace_quoteAscii]
    split
    · next he => exact absurd (List.cons.inj he).1 (by decide)
    · rw [hread,Option.bind_some]
      exact (congrArg (Option.map _) hclose).trans rfl

theorem items_written : ∀ (item : Document) (rest : List Document) (fuel : ℕ) (tail : List Char), Written strict item →
    WrittenItems strict rest → 1 + size item + sizeItems rest ≤ fuel →
    items strict fuel (dumps item ++ (dumpsItems rest ++ tail)) = some (joined item :: joinedItems rest,tail)
  | _, _, 0, _, _, _, hf => absurd hf (by omega)
  | item, [], fuel + 1, tail, hitem, _, hf => by
    rw [items,value_written item fuel _ hitem (by omega) (endsNumber_dumpsItems [] tail),Option.bind_some]
    rw [dumpsItems,List.singleton_append,Json.skipSpace_cons (by decide)]
    rfl
  | item, next :: rest, fuel + 1, tail, hitem, hrest, hf => by
    obtain ⟨hnext,hrest⟩ : Written strict next ∧ WrittenItems strict rest := hrest
    rw [sizeItems] at hf
    rw [items,value_written item fuel _ hitem (by omega) (endsNumber_dumpsItems (next :: rest) tail),Option.bind_some]
    rw [dumpsItems,List.cons_append,Json.skipSpace_cons (by decide)]
    simp only []
    rw [List.append_assoc,skipSpace_dumps hnext,items_written next rest fuel tail hnext hrest (by omega)]
    rfl

theorem members_written : ∀ (key : CodePoints) (v : Document) (rest : List (CodePoints × Document)) (fuel : ℕ)
    (tail : List Char), IsText key → Written strict v → WrittenFields strict rest → 1 + size v + sizeFields rest ≤ fuel →
    members strict fuel (quoteAscii key ++ (':' :: (dumps v ++ dumpsFields rest) ++ tail)) =
      some ((joinSurrogates key,joined v) :: joinedFields rest,tail)
  | _, _, _, 0, _, _, _, _, hf => absurd hf (by omega)
  | key, v, [], fuel + 1, tail, hkey, hv, _, hf => by
    rw [quoteAscii_append,members,string_quoted hkey,Option.bind_some]
    rw [List.cons_append,Json.skipSpace_cons (by decide)]
    simp only []
    rw [List.append_assoc,skipSpace_dumps hv,value_written v fuel _ hv (by omega) (endsNumber_dumpsFields [] tail),
      Option.bind_some]
    rw [dumpsFields,List.singleton_append,Json.skipSpace_cons (by decide)]
    rfl
  | key, v, (next,w) :: rest, fuel + 1, tail, hkey, hv, hrest, hf => by
    obtain ⟨hnext,hw,hrest⟩ : IsText next ∧ Written strict w ∧ WrittenFields strict rest := hrest
    rw [sizeFields] at hf
    rw [quoteAscii_append,members,string_quoted hkey,Option.bind_some]
    rw [List.cons_append,Json.skipSpace_cons (by decide)]
    simp only []
    rw [List.append_assoc,skipSpace_dumps hv,
      value_written v fuel _ hv (by omega) (endsNumber_dumpsFields ((next,w) :: rest) tail),Option.bind_some]
    rw [dumpsFields,List.cons_append,Json.skipSpace_cons (by decide)]
    simp only []
    have hread := members_written next w rest fuel tail hnext hw hrest (by omega)
    rw [List.append_assoc,skipSpace_quoteAscii,hread]
    rfl

end

mutual

theorem size_le_dumps : ∀ v : Document, Written strict v → size v ≤ (dumps v).length
  | .scalar .null, _ => by simp [size,dumps,Json.dumps]
  | .scalar (.bool true), _ => by simp [size,dumps,Json.dumps]
  | .scalar (.bool false), _ => by simp [size,dumps,Json.dumps]
  | .scalar (.int n), hv => by
    obtain ⟨c,tail,hdumps,_⟩ := dumps_opens hv
    have hone : size (.scalar (.int n)) = 1 := by simp [size]
    rw [hdumps,hone,List.length_cons]
    omega
  | .scalar (.float _), hv => hv.elim
  | .scalar (.str _), hv => hv.elim
  | .scalar (.arr _), hv => hv.elim
  | .scalar (.obj _), hv => hv.elim
  | .str text, _ => by
    have hone : size (.str text) = 1 := by simp [size]
    rw [dumps,quoteAscii,hone,List.length_cons]
    omega
  | .arr [], _ => by simp [size,sizeItems,dumps]
  | .arr (item :: rest), hv => by
    obtain ⟨hitem,hitems⟩ : Written strict item ∧ WrittenItems strict rest := hv
    have hsize := size_le_dumps item hitem
    have hsizes := sizeItems_le_dumps rest hitems
    rw [size,sizeItems,dumps,List.length_cons,List.length_append]
    omega
  | .obj [], _ => by simp [size,sizeFields,dumps]
  | .obj ((key,v) :: rest), hv => by
    obtain ⟨_,_,hvalue,hfields⟩ : (strict = true → ((joinedFields ((key,v) :: rest)).map Prod.fst).Nodup) ∧
      IsText key ∧ Written strict v ∧ WrittenFields strict rest := hv
    have hsize := size_le_dumps v hvalue
    have hsizes := sizeFields_le_dumps rest hfields
    rw [size,sizeFields,dumps,List.length_cons,List.length_append,List.length_cons,List.length_append]
    omega

theorem sizeItems_le_dumps : ∀ rest : List Document, WrittenItems strict rest → sizeItems rest + 1 ≤ (dumpsItems rest).length
  | [], _ => by simp [sizeItems,dumpsItems]
  | item :: rest, hv => by
    obtain ⟨hitem,hitems⟩ : Written strict item ∧ WrittenItems strict rest := hv
    have hsize := size_le_dumps item hitem
    have hsizes := sizeItems_le_dumps rest hitems
    rw [sizeItems,dumpsItems,List.length_cons,List.length_append]
    omega

theorem sizeFields_le_dumps : ∀ rest : List (CodePoints × Document), WrittenFields strict rest →
    sizeFields rest + 1 ≤ (dumpsFields rest).length
  | [], _ => by simp [sizeFields,dumpsFields]
  | (key,v) :: rest, hv => by
    obtain ⟨_,hvalue,hfields⟩ : IsText key ∧ Written strict v ∧ WrittenFields strict rest := hv
    have hsize := size_le_dumps v hvalue
    have hsizes := sizeFields_le_dumps rest hfields
    rw [sizeFields,dumpsFields,List.length_cons,List.length_append,List.length_cons,List.length_append]
    omega

end

theorem loads_dumps {v : Document} (h : Written strict v) : loads strict (dumps v) = some (joined v) := by
  have hskip : Json.skipSpace (dumps v) = dumps v := by
    have hnone := skipSpace_dumps h []
    rwa [List.append_nil] at hnone
  have hread := value_written v ((dumps v).length + 1) [] h (Nat.le_succ_of_le (size_le_dumps v h)) nofun
  rw [List.append_nil] at hread
  rw [loads,hskip,rawDecode,hread]
  rfl

end Reading

end PneumaLab.Document
