import PneumaLab.Library.JsonDocument
import PneumaLab.ResamplingNull.Artifacts

namespace PneumaLab.ResamplingNull

def loadDocument (payload : Bytes) : Py Document :=
  match fromUtf8 payload with
  | none => .error (.recordValidationError "invalid UTF-8 JSON")
  | some text =>
    if text.toList.head? = some byteOrderMark then .error (.recordValidationError "UTF-8 BOM is forbidden")
    else required (.recordValidationError "invalid UTF-8 JSON") (Document.loads true text.toList)

def malformedGraph : Raised := .recordValidationError "malformed pre-unblind graph JSON"

section Scanner

def scanString (text : List Char) : Py (CodePoints × List Char) :=
  match Document.rawDecode false text with
  | none => .error (.jsonDecodeError "Expecting value")
  | some (.str value,rest) => .ok (value,rest)
  | some _ => .error (.recordValidationError "pre-unblind graph object key is not string")

def skipBrackets (opening closing : Char) : List Char → ℕ → Bool → Option (List Char)
  | [],_,_ => none
  | '\\' :: [],_,true => none
  | '\\' :: _ :: rest,depth,true => skipBrackets opening closing rest depth true
  | c :: rest,depth,true => skipBrackets opening closing rest depth (decide (c ≠ '"'))
  | c :: rest,depth,false =>
    if c = '"' then skipBrackets opening closing rest depth true
    else if c = opening then skipBrackets opening closing rest (depth + 1) false
    else if c = closing then if depth = 1 then some rest else skipBrackets opening closing rest (depth - 1) false
    else skipBrackets opening closing rest depth false

def skipValue (text : List Char) : Py (List Char) :=
  match Json.skipSpace text with
  | [] => .error (.recordValidationError "truncated pre-unblind graph JSON")
  | '"' :: rest => (scanString ('"' :: rest)).map Prod.snd
  | '{' :: rest => required (.recordValidationError "unterminated pre-unblind graph JSON")
    (skipBrackets '{' '}' ('{' :: rest) 0 false)
  | '[' :: rest => required (.recordValidationError "unterminated pre-unblind graph JSON")
    (skipBrackets '[' ']' ('[' :: rest) 0 false)
  | text => .ok (text.dropWhile fun c => decide (c ∉ [',',']','}']))

def recordKindKey : CodePoints := codePoints "record_kind"

def scanMembers : ℕ → List Char → Option (Py (Option CodePoints))
  | 0,_ => none
  | fuel + 1,text =>
    match Json.skipSpace text with
    | '}' :: _ => some (.ok none)
    | opened =>
      match scanString opened with
      | .error e => some (.error e)
      | .ok (key,rest) =>
        match Json.skipSpace rest with
        | ':' :: rest =>
          if key = recordKindKey then some ((scanString (Json.skipSpace rest)).map fun read => some read.1)
          else
            match skipValue (Json.skipSpace rest) with
            | .error e => some (.error e)
            | .ok rest =>
              match Json.skipSpace rest with
              | ',' :: rest => scanMembers fuel rest
              | '}' :: _ => some (.ok none)
              | _ => some (.error malformedGraph)
        | _ => some (.error malformedGraph)

def topLevelRecordKind (payload : Bytes) : Option (Py (Option CodePoints)) :=
  match fromUtf8 payload with
  | none => some (.error (.recordValidationError "pre-unblind graph JSON is not UTF-8"))
  | some text =>
    match Json.skipSpace text.toList with
    | '{' :: rest => scanMembers (rest.length + 1) rest
    | _ => some (.ok none)

end Scanner

open Document

section Brackets
variable {o k c : Char} {rest : List Char} {d : ℕ}

def Brackets (o k : Char) : Prop := (o = '{' ∧ k = '}') ∨ (o = '[' ∧ k = ']')

theorem skip_quoteInside : skipBrackets o k ('"' :: rest) d true = skipBrackets o k rest d false := rfl

theorem skip_escape : skipBrackets o k ('\\' :: c :: rest) d true = skipBrackets o k rest d true := rfl

theorem skip_plainInside (hquote : c ≠ '"') (hslash : c ≠ '\\') :
    skipBrackets o k (c :: rest) d true = skipBrackets o k rest d true := by
  rw [skipBrackets]
  · rw [decide_eq_true hquote]
  · rintro rfl
    exact absurd rfl hslash
  · rintro _ _ rfl
    exact absurd rfl hslash

theorem skip_quote : skipBrackets o k ('"' :: rest) d false = skipBrackets o k rest d true := rfl

theorem skip_other (hquote : c ≠ '"') (hopen : c ≠ o) (hclose : c ≠ k) :
    skipBrackets o k (c :: rest) d false = skipBrackets o k rest d false := by
  rw [skipBrackets,if_neg hquote,if_neg hopen,if_neg hclose]

theorem skip_open (h : Brackets o k) : skipBrackets o k (o :: rest) d false = skipBrackets o k rest (d + 1) false := by
  have hquote : o ≠ '"' := by
    obtain ⟨rfl,-⟩ | ⟨rfl,-⟩ := h
    · decide
    · decide
  rw [skipBrackets,if_neg hquote,if_pos rfl]

def behind (o k : Char) : ℕ → List Char → Option (List Char)
  | 0,rest => some rest
  | d + 1,rest => skipBrackets o k rest (d + 1) false

theorem skip_close (h : Brackets o k) : skipBrackets o k (k :: rest) (d + 1) false = behind o k d rest := by
  obtain ⟨hquote,hopen⟩ : k ≠ '"' ∧ k ≠ o := by
    obtain ⟨rfl,rfl⟩ | ⟨rfl,rfl⟩ := h
    · decide
    · decide
  rw [skipBrackets,if_neg hquote,if_neg hopen,if_pos rfl]
  cases d with
  | zero => rfl
  | succ d => exact if_neg (by omega)

theorem skip_space (h : Brackets o k) (text : List Char) :
    skipBrackets o k (Json.skipSpace text) d false = skipBrackets o k text d false := by
  induction text with
  | nil => rfl
  | cons c rest ih =>
    rw [skipSpace_cons]
    by_cases hblank : blank c = true
    · obtain ⟨hquote,hopen,hclose⟩ : c ≠ '"' ∧ c ≠ o ∧ c ≠ k := by
        have hout : ∀ d ∈ ['"','{','}','[',']'], c ≠ d := by
          intro d hd hcd
          have hnone : (['"','{','}','[',']'].all fun d => !blank d) = true := by decide
          have hblank' := List.all_eq_true.mp hnone d hd
          rw [← hcd,hblank] at hblank'
          cases hblank'
        obtain ⟨rfl,rfl⟩ | ⟨rfl,rfl⟩ := h
        · exact ⟨hout _ (by decide),hout _ (by decide),hout _ (by decide)⟩
        · exact ⟨hout _ (by decide),hout _ (by decide),hout _ (by decide)⟩
      rw [if_pos hblank,skip_other hquote hopen hclose,ih]
    · rw [if_neg hblank]

end Brackets

section Crossing
variable {o k : Char}

def Crosses (o k : Char) (text rest : List Char) : Prop :=
  ∀ d, skipBrackets o k text (d + 1) false = skipBrackets o k rest (d + 1) false

def Leaves (o k : Char) (text rest : List Char) : Prop :=
  ∀ d, skipBrackets o k text (d + 1) false = behind o k d rest

theorem Crosses.trans {text middle rest : List Char} (h : Crosses o k text middle) (h' : Crosses o k middle rest) :
    Crosses o k text rest := fun d => (h d).trans (h' d)

theorem Crosses.leaves {text middle rest : List Char} (h : Crosses o k text middle) (h' : Leaves o k middle rest) :
    Leaves o k text rest := fun d => (h d).trans (h' d)

theorem crosses_space (h : Brackets o k) (text : List Char) : Crosses o k text (Json.skipSpace text) :=
  fun _ => (skip_space h text).symm

theorem crosses_char {c : Char} {rest : List Char} (hquote : c ≠ '"') (hopen : c ≠ o) (hclose : c ≠ k) :
    Crosses o k (c :: rest) rest := fun _ => skip_other hquote hopen hclose

theorem crosses_string {text : List Char} {read : CodePoints × List Char} (h : Document.string text = some read) :
    Crosses o k ('"' :: text) read.2 := by
  intro d
  rw [skip_quote]
  refine string_rec (R := fun text rest => skipBrackets o k text (d + 1) true = skipBrackets o k rest (d + 1) false)
    ?_ ?_ ?_ ?_ h
  · intro rest
    exact skip_quoteInside
  · intro a b c e rest out hplain hrest
    simp only [List.forall_mem_cons] at hplain
    obtain ⟨⟨ha,ha'⟩,⟨hb,hb'⟩,⟨hc,hc'⟩,⟨he,he'⟩,-⟩ := hplain
    rw [skip_escape,skip_plainInside ha ha',skip_plainInside hb hb',skip_plainInside hc hc',skip_plainInside he he',hrest]
  · intro c rest out hrest
    rw [skip_escape,hrest]
  · intro c rest out hquote hslash hrest
    rw [skip_plainInside hquote hslash,hrest]

theorem scalarChar_plain {c : Char} (h : scalarChar c = true) :
    c ∉ ['"','{','}','[',']',',',':',' ','\t','\n','\r'] := by
  intro hmem
  have hnone : (['"','{','}','[',']',',',':',' ','\t','\n','\r'].all fun c => !scalarChar c) = true := by decide
  have hc := List.all_eq_true.mp hnone c hmem
  rw [h] at hc
  cases hc

theorem crosses_scalar (hkind : Brackets o k) {text rest : List Char} (h : Scalar text rest) : Crosses o k text rest := by
  obtain ⟨c,front,rfl,hc,hfront⟩ := h
  have hall : ∀ d ∈ c :: front, scalarChar d = true := List.forall_mem_cons.mpr ⟨hc,hfront⟩
  have hpass (word : List Char) (hword : ∀ d ∈ word, scalarChar d = true) : Crosses o k (word ++ rest) rest := by
    induction word with
    | nil => exact fun _ => rfl
    | cons d word ih =>
      obtain ⟨hd,hlater⟩ := List.forall_mem_cons.mp hword
      have hplain := scalarChar_plain hd
      simp only [List.mem_cons,List.not_mem_nil,or_false,not_or] at hplain
      obtain ⟨hquote,hbrace,hbrace',hbracket,hbracket',-⟩ := hplain
      have hword : Crosses o k (word ++ rest) rest := ih hlater
      refine Crosses.trans ?_ hword
      obtain ⟨rfl,rfl⟩ | ⟨rfl,rfl⟩ := hkind
      · exact crosses_char hquote hbrace hbrace'
      · exact crosses_char hquote hbracket hbracket'
  exact hpass (c :: front) hall

theorem crosses_brackets (hkind : Brackets o k) {tail rest : List Char} (h : Leaves o k (Json.skipSpace tail) rest) :
    Crosses o k (o :: tail) rest := by
  intro d
  rw [skip_open hkind,← skip_space hkind,h (d + 1),behind]

variable {strict : Bool}

def CrossesValues (strict : Bool) (fuel : ℕ) : Prop :=
  ∀ o k text v rest, Brackets o k → value strict fuel text = some (v,rest) → Crosses o k text rest

def CrossesItems (strict : Bool) (fuel : ℕ) : Prop :=
  ∀ text read rest, items strict fuel text = some (read,rest) → Crosses '{' '}' text rest ∧ Leaves '[' ']' text rest

def CrossesMembers (strict : Bool) (fuel : ℕ) : Prop :=
  ∀ text fields rest, members strict fuel text = some (fields,rest) → Crosses '[' ']' text rest ∧ Leaves '{' '}' text rest

theorem brace : Brackets '{' '}' := .inl ⟨rfl,rfl⟩

theorem bracket : Brackets '[' ']' := .inr ⟨rfl,rfl⟩

theorem crosses_value {fuel : ℕ} (hitems : CrossesItems strict fuel) (hmembers : CrossesMembers strict fuel) :
    CrossesValues strict (fuel + 1) := by
  intro o k text v rest hkind h
  cases value_cases h with
  | str hstring => exact crosses_string hstring
  | @noItems tail _ hclose =>
    obtain ⟨rfl,rfl⟩ | ⟨rfl,rfl⟩ := hkind
    · exact ((crosses_char (by decide) (by decide) (by decide)).trans (hclose ▸ crosses_space brace tail)).trans
        (crosses_char (by decide) (by decide) (by decide))
    · exact crosses_brackets bracket (hclose ▸ fun _ => skip_close bracket)
  | @arr tail _ read hread =>
    obtain ⟨hother,hsame⟩ := hitems _ _ _ hread
    obtain ⟨rfl,rfl⟩ | ⟨rfl,rfl⟩ := hkind
    · exact ((crosses_char (by decide) (by decide) (by decide)).trans (crosses_space brace tail)).trans hother
    · exact crosses_brackets bracket hsame
  | @noFields tail _ hclose =>
    obtain ⟨rfl,rfl⟩ | ⟨rfl,rfl⟩ := hkind
    · exact crosses_brackets brace (hclose ▸ fun _ => skip_close brace)
    · exact ((crosses_char (by decide) (by decide) (by decide)).trans (hclose ▸ crosses_space bracket tail)).trans
        (crosses_char (by decide) (by decide) (by decide))
  | @obj tail _ fields hread =>
    obtain ⟨hother,hsame⟩ := hmembers _ _ _ hread
    obtain ⟨rfl,rfl⟩ | ⟨rfl,rfl⟩ := hkind
    · exact crosses_brackets brace hsame
    · exact ((crosses_char (by decide) (by decide) (by decide)).trans (crosses_space bracket tail)).trans hother
  | scalar hscalar => exact crosses_scalar hkind hscalar

theorem crosses_items {fuel : ℕ} (hvalues : CrossesValues strict fuel) (hitems : CrossesItems strict fuel) :
    CrossesItems strict (fuel + 1) := by
  intro text read rest h
  obtain ⟨v,after,hvalue,hclose | ⟨tail,later,hcomma,hlater⟩⟩ := items_cases h
  · have hbrace := (hvalues _ _ _ _ _ brace hvalue).trans (hclose ▸ crosses_space brace after)
    have hbracket := (hvalues _ _ _ _ _ bracket hvalue).trans (hclose ▸ crosses_space bracket after)
    exact ⟨hbrace.trans (crosses_char (by decide) (by decide) (by decide)),hbracket.leaves fun _ => skip_close bracket⟩
  · obtain ⟨hother,hsame⟩ := hitems _ _ _ hlater
    have hbrace := (hvalues _ _ _ _ _ brace hvalue).trans (hcomma ▸ crosses_space brace after)
    have hbracket := (hvalues _ _ _ _ _ bracket hvalue).trans (hcomma ▸ crosses_space bracket after)
    refine ⟨?_,?_⟩
    · exact ((hbrace.trans (crosses_char (by decide) (by decide) (by decide))).trans (crosses_space brace tail)).trans hother
    · exact ((hbracket.trans (crosses_char (by decide) (by decide) (by decide))).trans
        (crosses_space bracket tail)).leaves hsame

theorem crosses_members {fuel : ℕ} (hvalues : CrossesValues strict fuel) (hmembers : CrossesMembers strict fuel) :
    CrossesMembers strict (fuel + 1) := by
  intro text fields rest h
  -- A key with its colon, its value and the blanks around them.
  have hfield {o k : Char} (hkind : Brackets o k) {tail colon after next : List Char} {key : CodePoints} {v : Document}
      (hkey : Document.string tail = some (key,colon)) (hcolon : Json.skipSpace colon = ':' :: after)
      (hvalue : value strict fuel (Json.skipSpace after) = some (v,next)) :
      Crosses o k ('"' :: tail) (Json.skipSpace next) := by
    have hmark : Crosses o k (':' :: after) after := by
      obtain ⟨rfl,rfl⟩ | ⟨rfl,rfl⟩ := hkind
      · exact crosses_char (by decide) (by decide) (by decide)
      · exact crosses_char (by decide) (by decide) (by decide)
    have hopened : Crosses o k ('"' :: tail) (':' :: after) :=
      (crosses_string hkey).trans (hcolon ▸ crosses_space hkind colon)
    exact ((hopened.trans hmark).trans (crosses_space hkind after)).trans
      ((hvalues _ _ _ _ _ hkind hvalue).trans (crosses_space hkind next))
  cases members_cases h with
  | last hkey hcolon hvalue hclose =>
    have hbrace := hclose ▸ hfield brace hkey hcolon hvalue
    have hbracket := hclose ▸ hfield bracket hkey hcolon hvalue
    exact ⟨hbracket.trans (crosses_char (by decide) (by decide) (by decide)),hbrace.leaves fun _ => skip_close brace⟩
  | @more _ _ _ _ comma _ _ _ _ hkey hcolon hvalue hcomma hlater =>
    obtain ⟨hother,hsame⟩ := hmembers _ _ _ hlater
    have hbrace := hcomma ▸ hfield brace hkey hcolon hvalue
    have hbracket := hcomma ▸ hfield bracket hkey hcolon hvalue
    refine ⟨?_,?_⟩
    · exact ((hbracket.trans (crosses_char (by decide) (by decide) (by decide))).trans
        (crosses_space bracket comma)).trans hother
    · exact ((hbrace.trans (crosses_char (by decide) (by decide) (by decide))).trans
        (crosses_space brace comma)).leaves hsame

theorem crosses (strict : Bool) (fuel : ℕ) : CrossesValues strict fuel ∧ CrossesItems strict fuel ∧ CrossesMembers strict fuel := by
  induction fuel with
  | zero =>
    exact ⟨fun _ _ _ _ _ _ h => (by cases h),fun _ _ _ h => (by cases h),fun _ _ _ h => (by cases h)⟩
  | succ fuel ih =>
    obtain ⟨hvalues,hitems,hmembers⟩ := ih
    exact ⟨crosses_value hitems hmembers,crosses_items hvalues hitems,crosses_members hvalues hmembers⟩

end Crossing

section Reading

theorem value_str_head {strict : Bool} {fuel : ℕ} {text rest : List Char} {read : CodePoints}
    (h : value strict fuel text = some (.str read,rest)) :
    ∃ tail, text = '"' :: tail ∧ Document.string tail = some (read,rest) := by
  cases fuel with
  | zero => cases h
  | succ fuel =>
    cases value_cases h with
    | @str tail _ _ hstring => exact ⟨tail,rfl,hstring⟩

theorem scanString_quote {tail rest : List Char} {read : CodePoints} (h : Document.string tail = some (read,rest)) :
    scanString ('"' :: tail) = .ok (read,rest) := by
  have hread : rawDecode false ('"' :: tail) = (Document.string tail).map fun read => (.str read.1,read.2) := rfl
  rw [scanString,hread,h]
  rfl

theorem scanString_other {strict : Bool} {fuel : ℕ} {text rest : List Char} {v : Document}
    (h : value strict fuel text = some (v,rest)) (hv : ∀ read, v ≠ .str read) : ∃ e, scanString text = .error e := by
  rw [scanString]
  split
  · exact ⟨_,rfl⟩
  · next read after hread =>
    obtain ⟨tail,rfl,hstring⟩ := value_str_head hread
    cases fuel with
    | zero => cases h
    | succ fuel =>
      cases value_cases h with
      | str => exact absurd rfl (hv _)
      | scalar hscalar =>
        obtain ⟨c,front,hhead,hc,-⟩ := hscalar
        obtain ⟨rfl,-⟩ := List.cons.inj hhead
        exact absurd hc (by decide)
  · exact ⟨_,rfl⟩

theorem skipSpace_head {text : List Char} {c : Char} {tail : List Char} (h : Json.skipSpace text = c :: tail) :
    blank c = false := by
  have hidem := skipSpace_idem text
  rw [h,skipSpace_cons] at hidem
  by_contra hblank
  rw [Bool.not_eq_false] at hblank
  rw [if_pos hblank] at hidem
  have hle := skipSpace_length tail
  rw [hidem,List.length_cons] at hle
  omega

theorem dropWhile_blanks {p : Char → Bool} (hp : ∀ c, blank c = true → p c = true) {text tail : List Char} {c : Char}
    (hc : p c = false) (h : Json.skipSpace text = c :: tail) : text.dropWhile p = c :: tail := by
  induction text with
  | nil => cases h
  | cons d rest ih =>
    rw [skipSpace_cons] at h
    by_cases hblank : blank d = true
    · rw [if_pos hblank] at h
      rw [List.dropWhile_cons_of_pos (hp d hblank)]
      exact ih h
    · rw [if_neg hblank] at h
      obtain ⟨rfl,rfl⟩ := List.cons.inj h
      rw [List.dropWhile_cons_of_neg (by rw [hc]; decide)]

theorem skipValue_scalar {text rest tail : List Char} {c : Char} (h : Scalar text rest)
    (hend : Json.skipSpace rest = c :: tail) (hc : c = ',' ∨ c = '}') : skipValue text = .ok (c :: tail) := by
  obtain ⟨d,front,rfl,hd,hfront⟩ := h
  have hscalar : ∀ e ∈ d :: front, scalarChar e = true := List.forall_mem_cons.mpr ⟨hd,hfront⟩
  have hall : ∀ e ∈ d :: front, decide (e ∉ [',',']','}']) = true := by
    intro e he
    have hplain := scalarChar_plain (hscalar e he)
    simp only [List.mem_cons,List.not_mem_nil,or_false,not_or] at hplain ⊢
    exact decide_eq_true ⟨hplain.2.2.2.2.2.1,hplain.2.2.2.2.1,hplain.2.2.1⟩
  have hdrop : (d :: (front ++ rest)).dropWhile (fun e => decide (e ∉ [',',']','}'])) = c :: tail := by
    have happend : ((d :: front) ++ rest).dropWhile (fun e => decide (e ∉ [',',']','}'])) =
        rest.dropWhile fun e => decide (e ∉ [',',']','}']) := List.dropWhile_append_of_pos hall
    rw [List.cons_append] at happend
    rw [happend]
    refine dropWhile_blanks (fun e he => ?_) ?_ hend
    · have hnone : ([',',']','}'].all fun e => !blank e) = true := by decide
      apply decide_eq_true
      intro hmem
      have hblank := List.all_eq_true.mp hnone e hmem
      rw [he] at hblank
      cases hblank
    · obtain rfl | rfl := hc
      · decide
      · decide
  have hplain := scalarChar_plain hd
  simp only [List.mem_cons,List.not_mem_nil,or_false,not_or] at hplain
  have hblank : blank d = false := by
    simp [blank,hplain]
  have hspace : Json.skipSpace (d :: (front ++ rest)) = d :: (front ++ rest) := by
    rw [skipSpace_cons,hblank]
    rfl
  rw [skipValue,hspace]
  split
  · next hnil => cases hnil
  · next hhead => exact absurd (List.cons.inj hhead).1 hplain.1
  · next hhead => exact absurd (List.cons.inj hhead).1 hplain.2.1
  · next hhead => exact absurd (List.cons.inj hhead).1 hplain.2.2.2.1
  · rw [hdrop]

theorem skipValue_quote {tail rest : List Char} {read : CodePoints} (h : Document.string tail = some (read,rest)) :
    skipValue ('"' :: tail) = .ok rest := by
  have hskip : skipValue ('"' :: tail) = (scanString ('"' :: tail)).map Prod.snd := rfl
  rw [hskip,scanString_quote h]
  rfl

theorem skipBrackets_whole {o k : Char} (hkind : Brackets o k) {tail rest : List Char}
    (h : Leaves o k (Json.skipSpace tail) rest) : skipBrackets o k (o :: tail) 0 false = some rest := by
  rw [skip_open hkind,← skip_space hkind,h 0,behind]

theorem skipValue_brace {tail rest : List Char} (h : Leaves '{' '}' (Json.skipSpace tail) rest) :
    skipValue ('{' :: tail) = .ok rest := by
  have hskip : skipValue ('{' :: tail) = required (.recordValidationError "unterminated pre-unblind graph JSON")
    (skipBrackets '{' '}' ('{' :: tail) 0 false) := rfl
  rw [hskip,skipBrackets_whole brace h]
  rfl

theorem skipValue_bracket {tail rest : List Char} (h : Leaves '[' ']' (Json.skipSpace tail) rest) :
    skipValue ('[' :: tail) = .ok rest := by
  have hskip : skipValue ('[' :: tail) = required (.recordValidationError "unterminated pre-unblind graph JSON")
    (skipBrackets '[' ']' ('[' :: tail) 0 false) := rfl
  rw [hskip,skipBrackets_whole bracket h]
  rfl

theorem skipValue_reads {strict : Bool} {fuel : ℕ} {text rest tail : List Char} {v : Document} {c : Char}
    (h : value strict fuel text = some (v,rest)) (hend : Json.skipSpace rest = c :: tail) (hc : c = ',' ∨ c = '}') :
    ∃ out, skipValue text = .ok out ∧ Json.skipSpace out = c :: tail := by
  cases fuel with
  | zero => cases h
  | succ fuel =>
    obtain ⟨-,hitems,hmembers⟩ := crosses strict fuel
    cases value_cases h with
    | str hstring => exact ⟨rest,skipValue_quote hstring,hend⟩
    | noItems hclose => exact ⟨rest,skipValue_bracket (hclose ▸ fun _ => skip_close bracket),hend⟩
    | arr hread => exact ⟨rest,skipValue_bracket (hitems _ _ _ hread).2,hend⟩
    | noFields hclose => exact ⟨rest,skipValue_brace (hclose ▸ fun _ => skip_close brace),hend⟩
    | obj hread => exact ⟨rest,skipValue_brace (hmembers _ _ _ hread).2,hend⟩
    | scalar hscalar =>
      refine ⟨c :: tail,skipValue_scalar hscalar hend hc,?_⟩
      rw [skipSpace_cons,skipSpace_head hend]
      rfl

end Reading

section Agreement

def recordKindField (fields : List (CodePoints × Document)) : Option Document :=
  (fields.find? fun field => decide (field.1 = recordKindKey)).map Prod.snd

def Answers (field : Option Document) (result : Option (Py (Option CodePoints))) : Prop :=
  match field with
  | none => result = some (.ok none)
  | some (.str text) => result = some (.ok (some text))
  | some _ => ∃ e, result = some (.error e)

theorem answers_value {strict : Bool} {fuel : ℕ} {text rest : List Char} {v : Document}
    (h : value strict fuel text = some (v,rest)) :
    Answers (some v) (some ((scanString text).map fun read => some read.1)) := by
  have hother (hv : ∀ read, v ≠ .str read) : ∃ e, some ((scanString text).map fun read => some read.1) =
      (some (.error e) : Option (Py (Option CodePoints))) := by
    obtain ⟨e,he⟩ := scanString_other h hv
    exact ⟨e,by rw [he]; rfl⟩
  cases v with
  | str read =>
    obtain ⟨tail,rfl,hstring⟩ := value_str_head h
    rw [scanString_quote hstring]
    rfl
  | scalar value => exact hother fun _ he => (by cases he)
  | arr items => exact hother fun _ he => (by cases he)
  | obj fields => exact hother fun _ he => (by cases he)

theorem recordKindField_hit {key : CodePoints} (h : key = recordKindKey) (v : Document)
    (later : List (CodePoints × Document)) : recordKindField ((key,v) :: later) = some v := by
  simp [recordKindField,h]

theorem recordKindField_miss {key : CodePoints} (h : key ≠ recordKindKey) (v : Document)
    (later : List (CodePoints × Document)) : recordKindField ((key,v) :: later) = recordKindField later := by
  simp [recordKindField,h]

theorem scanMembers_field {text tail colon after : List Char} {key : CodePoints} (n : ℕ)
    (hopen : Json.skipSpace text = '"' :: tail) (hkey : Document.string tail = some (key,colon))
    (hcolon : Json.skipSpace colon = ':' :: after) :
    scanMembers (n + 1) text =
      if key = recordKindKey then some ((scanString (Json.skipSpace after)).map fun read => some read.1)
      else
        match skipValue (Json.skipSpace after) with
        | .error e => some (.error e)
        | .ok rest =>
          match Json.skipSpace rest with
          | ',' :: rest => scanMembers n rest
          | '}' :: _ => some (.ok none)
          | _ => some (.error malformedGraph) := by
  rw [scanMembers]
  split
  · next hclose =>
    rw [hopen] at hclose
    cases hclose
  · rw [hopen,scanString_quote hkey]
    dsimp only
    rw [hcolon]
    rfl

theorem scanMembers_answers {strict : Bool} {fuel n : ℕ} {text rest : List Char} {fields : List (CodePoints × Document)}
    (h : members strict fuel (Json.skipSpace text) = some (fields,rest)) (hn : text.length < n) :
    Answers (recordKindField fields) (scanMembers n text) := by
  induction fuel generalizing n text fields with
  | zero => cases h
  | succ fuel ih =>
    obtain ⟨n,rfl⟩ : ∃ m, n = m + 1 := ⟨n - 1,by omega⟩
    generalize hopen : Json.skipSpace text = opened at h
    cases members_cases h with
    | @last tail colon after next _ key v hkey hcolon hvalue hclose =>
      rw [scanMembers_field n hopen hkey hcolon]
      by_cases hkind : key = recordKindKey
      · rw [if_pos hkind,recordKindField_hit hkind]
        exact answers_value hvalue
      · obtain ⟨out,hout,hspace⟩ := skipValue_reads hvalue hclose (.inr rfl)
        rw [if_neg hkind,recordKindField_miss hkind,hout]
        dsimp only
        rw [hspace]
        rfl
    | @more tail colon after next comma _ key v later hkey hcolon hvalue hcomma hlater =>
      rw [scanMembers_field n hopen hkey hcolon]
      by_cases hkind : key = recordKindKey
      · rw [if_pos hkind,recordKindField_hit hkind]
        exact answers_value hvalue
      · obtain ⟨out,hout,hspace⟩ := skipValue_reads hvalue hcomma (.inl rfl)
        rw [if_neg hkind,recordKindField_miss hkind,hout]
        dsimp only
        rw [hspace]
        refine ih hlater ?_
        have htext := skipSpace_cons_length hopen
        have hquote := string_length hkey
        have hafter := skipSpace_cons_length hcolon
        have hblank := skipSpace_length after
        have hread := value_length hvalue
        have hrest := skipSpace_cons_length hcomma
        dsimp only at hquote
        omega

end Agreement

section Termination

theorem scanString_length {text rest : List Char} {read : CodePoints} (h : scanString text = .ok (read,rest)) :
    rest.length < text.length := by
  rw [scanString] at h
  split at h
  · cases h
  · next hread =>
    cases h
    exact value_length hread
  · cases h

theorem skipBrackets_length {o k : Char} (text : List Char) (d : ℕ) (quote : Bool) :
    ∀ rest, skipBrackets o k text d quote = some rest → rest.length ≤ text.length := by
  fun_induction skipBrackets o k text d quote with
  | case1 => exact fun _ h => (by cases h)
  | case2 => exact fun _ h => (by cases h)
  | case3 _ _ _ ih => exact fun out h => (ih out h).trans ((Nat.le_succ _).trans (Nat.le_succ _))
  | case7 rest =>
    intro out h
    cases h
    exact Nat.le_succ _
  | _ =>
    rename_i ih
    exact fun out h => (ih out h).trans (Nat.le_succ _)

theorem skipValue_length {text rest : List Char} (h : skipValue text = .ok rest) : rest.length ≤ text.length := by
  have hblank := skipSpace_length text
  rw [skipValue] at h
  split at h
  · cases h
  · next tail hopen =>
    rw [hopen] at hblank
    cases hread : scanString ('"' :: tail) with
    | error e =>
      rw [hread] at h
      cases h
    | ok read =>
      rw [hread] at h
      cases h
      exact (scanString_length hread).le.trans hblank
  · next tail hopen =>
    rw [hopen] at hblank
    exact (skipBrackets_length _ _ _ _ (required_eq_ok.mp h)).trans hblank
  · next tail hopen =>
    rw [hopen] at hblank
    exact (skipBrackets_length _ _ _ _ (required_eq_ok.mp h)).trans hblank
  · cases h
    exact (List.dropWhile_sublist _).length_le.trans hblank

theorem scanMembers_total (n : ℕ) (text : List Char) (hn : text.length < n) :
    ∃ answer, scanMembers n text = some answer := by
  induction n generalizing text with
  | zero => omega
  | succ n ih =>
    have hblank := skipSpace_length text
    rw [scanMembers]
    split
    · exact ⟨_,rfl⟩
    · split
      · exact ⟨_,rfl⟩
      · next hkey =>
        have hkeyLength := scanString_length hkey
        split
        · next hcolon =>
          have hcolonLength := skipSpace_cons_length hcolon
          split
          · exact ⟨_,rfl⟩
          · split
            · exact ⟨_,rfl⟩
            · next after _ _ out hout =>
              have hafter := skipSpace_length after
              have houtLength := skipValue_length hout
              split
              · next hcomma =>
                have hcommaLength := skipSpace_cons_length hcomma
                exact ih _ (by omega)
              · exact ⟨_,rfl⟩
              · exact ⟨_,rfl⟩
        · exact ⟨_,rfl⟩

theorem topLevelRecordKind_total (payload : Bytes) : ∃ answer, topLevelRecordKind payload = some answer := by
  rw [topLevelRecordKind]
  split
  · exact ⟨_,rfl⟩
  · split
    · exact scanMembers_total _ _ (Nat.lt_succ_self _)
    · exact ⟨_,rfl⟩

end Termination

section Documents

theorem scanMembers_close {n : ℕ} {text rest : List Char} (h : Json.skipSpace text = '}' :: rest) :
    scanMembers (n + 1) text = some (.ok none) := by
  rw [scanMembers.eq_def]
  dsimp only
  rw [h]
  rfl

theorem loadDocument_obj {payload : Bytes} {fields : List (CodePoints × Document)}
    (h : loadDocument payload = .ok (.obj fields)) :
    ∃ text tail, fromUtf8 payload = some text ∧ Json.skipSpace text.toList = '{' :: tail ∧
      ((∃ rest, Json.skipSpace tail = '}' :: rest ∧ fields = []) ∨
        ∃ fuel rest, members true fuel (Json.skipSpace tail) = some (fields,rest)) := by
  rw [loadDocument] at h
  split at h
  · cases h
  · next text htext =>
    split at h
    · cases h
    · rw [required_eq_ok,loads] at h
      split at h
      · next read rest hread =>
        split at h
        · cases h
          rw [rawDecode] at hread
          generalize hopen : Json.skipSpace text.toList = opened at hread
          cases value_cases hread with
          | noFields hclose => exact ⟨text,_,htext,hopen,.inl ⟨_,hclose,rfl⟩⟩
          | obj hfields => exact ⟨text,_,htext,hopen,.inr ⟨_,_,hfields⟩⟩
        · cases h
      · cases h

theorem record_kind_agrees (payload : Bytes) :
    (∃ answer, topLevelRecordKind payload = some answer) ∧
    ∀ fields, loadDocument payload = .ok (.obj fields) →
      Answers (recordKindField fields) (topLevelRecordKind payload) := by
  refine ⟨topLevelRecordKind_total payload,fun fields h => ?_⟩
  obtain ⟨text,tail,htext,hopen,⟨rest,hclose,rfl⟩ | ⟨fuel,rest,hfields⟩⟩ := loadDocument_obj h
  · rw [topLevelRecordKind,htext]
    dsimp only
    rw [hopen]
    exact scanMembers_close hclose
  · rw [topLevelRecordKind,htext]
    dsimp only
    rw [hopen]
    exact scanMembers_answers hfields (Nat.lt_succ_self _)

def nestedLedger : List Char := "\x7b\"a\":[\x7b\"record_kind\":\"x\"\x7d],\"record_kind\" : \"ledger\"\x7d".toList

def recordKindText : Document → Option CodePoints
  | .obj fields =>
    match recordKindField fields with
    | some (.str text) => some text
    | _ => none
  | _ => none

theorem recordKindText_eq {document : Document} {text : CodePoints} (h : recordKindText document = some text) :
    ∃ fields, document = .obj fields ∧ recordKindField fields = some (.str text) := by
  rw [recordKindText.eq_def] at h
  split at h
  · split at h
    · next hfield =>
      cases h
      exact ⟨_,rfl,hfield⟩
    · cases h
  · cases h

theorem nested_ledger_read :
    topLevelRecordKind (utf8 (String.ofList nestedLedger)) = some (.ok (some (codePoints "ledger"))) := by
  have hread : (Document.loads true nestedLedger).bind recordKindText = some (codePoints "ledger") := by
    decide +kernel
  obtain ⟨document,hloads,htext⟩ := Option.bind_eq_some_iff.mp hread
  obtain ⟨fields,rfl,hfield⟩ := recordKindText_eq htext
  have hload : loadDocument (utf8 (String.ofList nestedLedger)) = .ok (.obj fields) := by
    rw [loadDocument,fromUtf8_utf8]
    dsimp only
    rw [String.toList_ofList,hloads]
    rfl
  have hanswer := (record_kind_agrees _).2 _ hload
  rwa [hfield] at hanswer

end Documents

end PneumaLab.ResamplingNull
