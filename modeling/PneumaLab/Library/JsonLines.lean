import PneumaLab.Library.JsonText

namespace PneumaLab
namespace Json

-- The boundaries of str.splitlines.
def isLineBreak (c : Char) : Bool :=
  decide (c.toNat ∈ [0x0A,0x0B,0x0C,0x0D,0x1C,0x1D,0x1E,0x85,0x2028,0x2029])

-- The boundaries that json.dumps writes unescaped when it may write other characters than ASCII.
def isRawBreak (c : Char) : Bool := decide (c.toNat ∈ [0x85,0x2028,0x2029])

def linesFrom (current : List Char) : List Char → List (List Char)
  | [] => if current = [] then [] else [current.reverse]
  | '\r' :: '\n' :: rest => current.reverse :: linesFrom [] rest
  | c :: rest => if isLineBreak c then current.reverse :: linesFrom [] rest else linesFrom (c :: current) rest

def splitLines (text : List Char) : List (List Char) := linesFrom [] text

def firstLine (text : List Char) : List Char := text.takeWhile fun c => !isLineBreak c

def Unbroken (text : List Char) : Prop := ∀ c ∈ text, isLineBreak c = false

mutual

def chars : Json → List Char
  | .str text => text.toList
  | .arr items => charsItems items
  | .obj fields => charsFields fields
  | _ => []

def charsItems : List Json → List Char
  | [] => []
  | item :: rest => chars item ++ charsItems rest

def charsFields : List (String × Json) → List Char
  | [] => []
  | (key,value) :: rest => key.toList ++ (chars value ++ charsFields rest)

end

section Lines

theorem unbroken_append {left right : List Char} (hl : Unbroken left) (hr : Unbroken right) :
    Unbroken (left ++ right) := fun c hc => (List.mem_append.mp hc).elim (hl c) (hr c)

theorem unbroken_cons {c : Char} {text : List Char} (hc : isLineBreak c = false) (h : Unbroken text) :
    Unbroken (c :: text) := List.forall_mem_cons.mpr ⟨hc,h⟩

theorem firstLine_append {left : List Char} (h : Unbroken left) (right : List Char) :
    firstLine (left ++ right) = left ++ firstLine right :=
  List.takeWhile_append_of_pos fun c hc => by rw [h c hc]; rfl

theorem firstLine_cons {c : Char} (h : isLineBreak c = false) (text : List Char) :
    firstLine (c :: text) = c :: firstLine text :=
  List.takeWhile_cons_of_pos (by rw [h]; rfl)

theorem linesFrom_line {line : List Char} (h : Unbroken line) (current rest : List Char) :
    linesFrom current (line ++ '\n' :: rest) = (current.reverse ++ line) :: linesFrom [] rest := by
  induction line generalizing current with
  | nil =>
    rw [List.nil_append,linesFrom.eq_def]
    split
    · next he => cases he
    · next he => cases he
    · next he =>
      cases he
      rw [if_pos (by decide),List.append_nil]
  | cons c line ih =>
    obtain ⟨hc,hline⟩ := List.forall_mem_cons.mp h
    rw [List.cons_append,linesFrom.eq_def]
    split
    · next he => cases he
    · next he =>
      rw [(List.cons.inj he).1] at hc
      exact absurd hc (by decide)
    · next he =>
      cases he
      rw [if_neg (by rw [hc]; exact Bool.false_ne_true),ih hline,List.reverse_cons,List.append_assoc]
      rfl

theorem splitLines_line {line : List Char} (h : Unbroken line) (rest : List Char) :
    splitLines (line ++ '\n' :: rest) = line :: splitLines rest := linesFrom_line h [] rest

theorem linesFrom_first (current text : List Char) (h : current ++ text ≠ []) :
    ∃ more, linesFrom current text = (current.reverse ++ firstLine text) :: more := by
  induction text generalizing current with
  | nil =>
    rw [List.append_nil] at h
    exact ⟨[],by rw [linesFrom,if_neg h,firstLine,List.takeWhile_nil,List.append_nil]⟩
  | cons c text ih =>
    by_cases hc : isLineBreak c = true
    · have hfirst : firstLine (c :: text) = [] := List.takeWhile_cons_of_neg (by rw [hc]; decide)
      rw [linesFrom.eq_def,hfirst,List.append_nil]
      split
      · next he => cases he
      · exact ⟨_,rfl⟩
      · next he =>
        cases he
        exact ⟨_,if_pos hc⟩
    · have hfalse := Bool.eq_false_of_not_eq_true hc
      obtain ⟨more,hmore⟩ := ih (c :: current) (List.cons_ne_nil _ _)
      refine ⟨more,?_⟩
      rw [linesFrom.eq_def,firstLine_cons hfalse]
      split
      · next he => cases he
      · next he =>
        rw [(List.cons.inj he).1] at hfalse
        exact absurd hfalse (by decide)
      · next he =>
        cases he
        rw [if_neg hc,hmore,List.reverse_cons,List.append_assoc]
        rfl

theorem splitLines_first {text : List Char} (h : text ≠ []) :
    ∃ more, splitLines text = firstLine text :: more := linesFrom_first [] text h

end Lines

section Strings

theorem isLineBreak_of_raw {c : Char} (h : isRawBreak c = true) : isLineBreak c = true := by
  simp only [isRawBreak,isLineBreak,decide_eq_true_eq,List.mem_cons,List.not_mem_nil,or_false] at h ⊢
  omega

theorem escape_raw {c : Char} (h : isRawBreak c = true) : escape c = [c] := by
  have hlarge : 0x85 ≤ c.toNat := by
    simp only [isRawBreak,decide_eq_true_eq,List.mem_cons,List.not_mem_nil,or_false] at h
    omega
  have hne {d : Char} (hd : d.toNat < 0x85) : c ≠ d := by
    rintro rfl
    omega
  unfold escape
  rw [if_neg (hne (by decide)),if_neg (hne (by decide)),if_neg (hne (by decide)),if_neg (hne (by decide)),
    if_neg (hne (by decide)),if_neg (by omega),if_neg (by omega),if_neg (by omega)]

theorem hexDigit_unbroken {n : ℕ} (h : n < 16) : isLineBreak (hexDigit n) = false := by
  have hall : ∀ m : Fin 16, isLineBreak (hexDigit m) = false := by decide
  exact hall ⟨n,h⟩

theorem escape_unbroken {c : Char} (h : isRawBreak c = false) : Unbroken (escape c) := by
  unfold escape
  split_ifs with h1 h2 h3 h4 h5 h6 h7 h8
  · exact unbroken_cons (by decide) (unbroken_cons (by decide) fun _ hc => absurd hc List.not_mem_nil)
  · exact unbroken_cons (by decide) (unbroken_cons (by decide) fun _ hc => absurd hc List.not_mem_nil)
  · exact unbroken_cons (by decide) (unbroken_cons (by decide) fun _ hc => absurd hc List.not_mem_nil)
  · exact unbroken_cons (by decide) (unbroken_cons (by decide) fun _ hc => absurd hc List.not_mem_nil)
  · exact unbroken_cons (by decide) (unbroken_cons (by decide) fun _ hc => absurd hc List.not_mem_nil)
  · exact unbroken_cons (by decide) (unbroken_cons (by decide) fun _ hc => absurd hc List.not_mem_nil)
  · exact unbroken_cons (by decide) (unbroken_cons (by decide) fun _ hc => absurd hc List.not_mem_nil)
  · refine unbroken_cons (by decide) (unbroken_cons (by decide) (unbroken_cons (by decide)
      (unbroken_cons (by decide) (unbroken_cons (hexDigit_unbroken (by omega)) (unbroken_cons
        (hexDigit_unbroken (by omega)) fun _ hc => absurd hc List.not_mem_nil)))))
  · refine unbroken_cons ?_ fun _ hc => absurd hc List.not_mem_nil
    simp only [isRawBreak,isLineBreak,decide_eq_false_iff_not,List.mem_cons,List.not_mem_nil,or_false] at h ⊢
    omega

theorem stringBody_open (text : List Char) : stringBody (text.flatMap escape) = none := by
  induction text with
  | nil => rfl
  | cons c text ih =>
    rw [List.flatMap_cons,stringBody_escape,ih]
    rfl

theorem firstLine_flatMap {text : List Char} (h : text.any isRawBreak = true) (rest : List Char) :
    ∃ kept : List Char, firstLine (text.flatMap escape ++ rest) = kept.flatMap escape := by
  induction text with
  | nil => cases h
  | cons c text ih =>
    rw [List.flatMap_cons,List.append_assoc]
    cases hc : isRawBreak c with
    | true =>
      rw [escape_raw hc]
      exact ⟨[],List.takeWhile_cons_of_neg (by rw [isLineBreak_of_raw hc]; decide)⟩
    | false =>
      rw [List.any_cons,hc,Bool.false_or] at h
      obtain ⟨kept,hkept⟩ := ih h
      exact ⟨c :: kept,by rw [firstLine_append (escape_unbroken hc),hkept,List.flatMap_cons]⟩

theorem firstLine_quote {text : String} (h : text.toList.any isRawBreak = true) (rest : List Char) :
    ∃ kept : List Char, firstLine (quote text ++ rest) = '"' :: kept.flatMap escape := by
  obtain ⟨kept,hkept⟩ := firstLine_flatMap h ('"' :: rest)
  exact ⟨kept,by rw [quote_append,firstLine_cons (by decide),hkept]⟩

end Strings

section Forall
variable {P : Char → Prop}

theorem digits_forall (hascii : ∀ c : Char, 0x20 ≤ c.toNat → c.toNat < 0x7F → P c) {text : List Char}
    (h : ∀ c ∈ text, c.isDigit = true) : ∀ c ∈ text, P c := by
  intro c hc
  have hdigit := h c hc
  simp only [Char.isDigit,Bool.and_eq_true,decide_eq_true_eq] at hdigit
  have hlow : 48 ≤ c.toNat := hdigit.1
  have hhigh : c.toNat ≤ 57 := hdigit.2
  exact hascii c (by omega) (by omega)

theorem append_forall {left right : List Char} (hl : ∀ c ∈ left, P c) (hr : ∀ c ∈ right, P c) :
    ∀ c ∈ left ++ right, P c := fun c hc => (List.mem_append.mp hc).elim (hl c) (hr c)

variable (hascii : ∀ c : Char, 0x20 ≤ c.toNat → c.toNat < 0x7F → P c)
include hascii

theorem cons_forall {c : Char} (hc : 0x20 ≤ c.toNat ∧ c.toNat < 0x7F) {text : List Char} (h : ∀ c ∈ text, P c) :
    ∀ d ∈ c :: text, P d := List.forall_mem_cons.mpr ⟨hascii c hc.1 hc.2,h⟩

theorem intText_forall (n : ℤ) : ∀ c ∈ intText n, P c := by
  have hdigits : ∀ c ∈ Nat.toDigits 10 n.natAbs, P c :=
    digits_forall hascii fun c hc => Nat.isDigit_of_mem_toDigits (by omega) (le_refl 10) hc
  rw [intText]
  split
  · exact cons_forall hascii (by decide) hdigits
  · exact hdigits

theorem DecimalPart.forall {decimals : List Char} (h : DecimalPart decimals) : ∀ c ∈ decimals, P c := by
  cases h with
  | none => exact List.forall_mem_nil _
  | some hdigits _ => exact cons_forall hascii (by decide) (digits_forall hascii hdigits)

theorem PowerPart.forall {power : List Char} (h : PowerPart power) : ∀ c ∈ power, P c := by
  cases h with
  | none => exact List.forall_mem_nil _
  | some hsign hdigits _ =>
    refine cons_forall hascii (by decide) (append_forall ?_ (digits_forall hascii hdigits))
    rcases hsign with rfl | rfl <;> exact cons_forall hascii (by decide) (List.forall_mem_nil _)

theorem FloatParts.forall (parts : FloatParts) : ∀ c ∈ parts.text, P c := by
  have hsign : ∀ c ∈ (if parts.negative then ['-'] else []), P c := by
    cases parts.negative with
    | true => exact cons_forall hascii (by decide) (List.forall_mem_nil _)
    | false => exact List.forall_mem_nil _
  have hinteger : ∀ c ∈ parts.digits, P c := by
    obtain hzero | ⟨hdigits,_⟩ := parts.integer
    · rw [hzero]
      exact cons_forall hascii (by decide) (List.forall_mem_nil _)
    · exact digits_forall hascii hdigits
  exact append_forall (append_forall (append_forall hsign hinteger) (parts.decimal.forall hascii))
    (parts.exponent.forall hascii)

theorem quote_forall {text : String} (h : ∀ c ∈ text.toList, ∀ d ∈ escape c, P d) : ∀ c ∈ quote text, P c := by
  refine cons_forall hascii (by decide) (append_forall ?_ (cons_forall hascii (by decide) (List.forall_mem_nil _)))
  intro d hd
  obtain ⟨c,hc,hmem⟩ := List.mem_flatMap.mp hd
  exact h c hc d hmem

variable {layout : Layout} (hline : ∀ depth, ∀ c ∈ layout.line depth, P c) (hcolon : ∀ c ∈ layout.colon, P c)
variable {floatRepr : String → String}
include hline hcolon

mutual

theorem render_forall : ∀ (v : Json) (depth : ℕ), Readable floatRepr v → (∀ c ∈ chars v, ∀ d ∈ escape c, P d) →
    ∀ c ∈ render layout depth v, P c
  | .null, _, _, _ => cons_forall hascii (by decide) (cons_forall hascii (by decide) (cons_forall hascii (by decide)
      (cons_forall hascii (by decide) (List.forall_mem_nil _))))
  | .bool true, _, _, _ => cons_forall hascii (by decide) (cons_forall hascii (by decide)
      (cons_forall hascii (by decide) (cons_forall hascii (by decide) (List.forall_mem_nil _))))
  | .bool false, _, _, _ => cons_forall hascii (by decide) (cons_forall hascii (by decide)
      (cons_forall hascii (by decide) (cons_forall hascii (by decide) (cons_forall hascii (by decide)
        (List.forall_mem_nil _)))))
  | .int n, _, _, _ => intText_forall hascii n
  | .float _, _, hv, _ => by
    obtain ⟨_,parts,rfl⟩ := hv
    rw [render,String.toList_ofList]
    exact parts.forall hascii
  | .str _, _, _, hc => quote_forall hascii hc
  | .arr [], _, _, _ => cons_forall hascii (by decide) (cons_forall hascii (by decide) (List.forall_mem_nil _))
  | .arr (item :: rest), depth, hv, hc => by
    obtain ⟨hitem,hrest⟩ := List.forall_mem_append.mp hc
    rw [render]
    exact cons_forall hascii (by decide) (append_forall (hline _) (append_forall
      (render_forall item (depth + 1) hv.1 hitem) (renderItems_forall rest depth hv.2 hrest)))
  | .obj [], _, _, _ => cons_forall hascii (by decide) (cons_forall hascii (by decide) (List.forall_mem_nil _))
  | .obj ((key,v) :: rest), depth, hv, hc => by
    obtain ⟨hkey,htail⟩ := List.forall_mem_append.mp hc
    obtain ⟨hvalue,hrest⟩ := List.forall_mem_append.mp htail
    rw [render]
    exact cons_forall hascii (by decide) (append_forall (hline _) (append_forall (quote_forall hascii hkey)
      (cons_forall hascii (by decide) (append_forall hcolon (append_forall
        (render_forall v (depth + 1) hv.2.1 hvalue) (renderFields_forall rest depth hv.2.2 hrest))))))

theorem renderItems_forall : ∀ (rest : List Json) (depth : ℕ), ReadableItems floatRepr rest →
    (∀ c ∈ charsItems rest, ∀ d ∈ escape c, P d) → ∀ c ∈ renderItems layout depth rest, P c
  | [], depth, _, _ => by
    rw [renderItems]
    exact append_forall (hline depth) (cons_forall hascii (by decide) (List.forall_mem_nil _))
  | item :: rest, depth, hv, hc => by
    obtain ⟨hitem,hrest⟩ := List.forall_mem_append.mp hc
    rw [renderItems]
    exact cons_forall hascii (by decide) (append_forall (hline _) (append_forall
      (render_forall item (depth + 1) hv.1 hitem) (renderItems_forall rest depth hv.2 hrest)))

theorem renderFields_forall : ∀ (rest : List (String × Json)) (depth : ℕ), ReadableFields floatRepr rest →
    (∀ c ∈ charsFields rest, ∀ d ∈ escape c, P d) → ∀ c ∈ renderFields layout depth rest, P c
  | [], depth, _, _ => by
    rw [renderFields]
    exact append_forall (hline depth) (cons_forall hascii (by decide) (List.forall_mem_nil _))
  | (key,v) :: rest, depth, hv, hc => by
    obtain ⟨hkey,htail⟩ := List.forall_mem_append.mp hc
    obtain ⟨hvalue,hrest⟩ := List.forall_mem_append.mp htail
    rw [renderFields]
    exact cons_forall hascii (by decide) (append_forall (hline _) (append_forall (quote_forall hascii hkey)
      (cons_forall hascii (by decide) (append_forall hcolon (append_forall
        (render_forall v (depth + 1) hv.1 hvalue) (renderFields_forall rest depth hv.2 hrest))))))

end

end Forall

section Values
variable {floatRepr : String → String}

def breaks (v : Json) : Bool := (chars v).any isRawBreak

theorem isLineBreak_ascii (c : Char) (hlow : 0x20 ≤ c.toNat) (hhigh : c.toNat < 0x7F) : isLineBreak c = false := by
  simp only [isLineBreak,decide_eq_false_iff_not,List.mem_cons,List.not_mem_nil,or_false]
  omega

theorem escapes_unbroken {text : List Char} (h : text.any isRawBreak = false) :
    ∀ c ∈ text, ∀ d ∈ escape c, isLineBreak d = false := fun c hc =>
  escape_unbroken (Bool.eq_false_of_not_eq_true (List.any_eq_false.mp h c hc))

theorem quote_unbroken {text : String} (h : text.toList.any isRawBreak = false) : Unbroken (quote text) :=
  quote_forall isLineBreak_ascii (escapes_unbroken h)

theorem dumps_unbroken (v : Json) (hv : Readable floatRepr v) (hb : breaks v = false) : Unbroken (dumps v) := by
  rw [← render_compact 0 v]
  exact render_forall isLineBreak_ascii (fun _ => List.forall_mem_nil _) (List.forall_mem_nil _) v 0 hv
    (escapes_unbroken hb)

theorem opens_unbroken {v : Json} (hv : Readable floatRepr v) : isLineBreak (opens v) = false := by
  cases v with
  | null => decide
  | bool b => cases b <;> decide
  | int n =>
    rcases opens_int n with h | h
    · rw [h]
      decide
    · exact digits_forall isLineBreak_ascii (List.forall_mem_singleton.mpr h) _ (List.mem_singleton_self _)
  | float text =>
    obtain ⟨_,parts,rfl⟩ := hv
    rcases opens_float parts with h | h
    · rw [h]
      decide
    · exact digits_forall isLineBreak_ascii (List.forall_mem_singleton.mpr h) _ (List.mem_singleton_self _)
  | str text => exact (by decide : isLineBreak '"' = false)
  | arr items => exact (by decide : isLineBreak '[' = false)
  | obj fields => exact (by decide : isLineBreak '{' = false)

theorem dumps_opens_readable {v : Json} (hv : Readable floatRepr v) : ∃ tail, dumps v = opens v :: tail := by
  rw [← render_compact 0 v]
  exact render_opens hv 0

theorem skipSpace_firstLine {v : Json} (hv : Readable floatRepr v) (rest : List Char) :
    skipSpace (firstLine (dumps v ++ rest)) = firstLine (dumps v ++ rest) := by
  obtain ⟨tail,ht⟩ := dumps_opens_readable hv
  obtain ⟨h0,h1,h2,h3,_⟩ := opens_not_space hv
  rw [ht,List.cons_append,firstLine_cons (opens_unbroken hv)]
  exact skipSpace_cons ⟨h0,h1,h2,h3⟩ _

theorem endsNumber_firstLine {text : List Char} (h : EndsNumber text) : EndsNumber (firstLine text) := by
  intro c tail he
  cases text with
  | nil => cases he
  | cons d text =>
    rw [firstLine,List.takeWhile_cons] at he
    split at he
    · obtain rfl := (List.cons.inj he).1
      exact h d text rfl
    · cases he

variable (reader : Reader)

theorem value_dumps {v : Json} (hv : Readable reader.floatRepr v) {fuel : ℕ} (hf : size v ≤ fuel)
    {rest : List Char} (hr : EndsNumber rest) : value reader fuel (dumps v ++ rest) = some (v,rest) := by
  rw [← render_compact 0 v]
  exact value_render reader v 0 fuel rest hv hf hr

theorem read_mono : ∀ fuel : ℕ,
    (∀ text read, value reader fuel text = some read → value reader (fuel + 1) text = some read) ∧
    (∀ text read, items reader fuel text = some read → items reader (fuel + 1) text = some read) ∧
    ∀ text read, members reader fuel text = some read → members reader (fuel + 1) text = some read := by
  intro fuel
  induction fuel with
  | zero => exact ⟨fun _ _ h => (by cases h),fun _ _ h => (by cases h),fun _ _ h => (by cases h)⟩
  | succ fuel ih =>
    obtain ⟨hvalue,hitems,hmembers⟩ := ih
    refine ⟨fun text read h => ?_,fun text read h => ?_,fun text read h => ?_⟩
    · unfold value at h ⊢
      split at h
      · exact h
      · next rest =>
        split at h
        · next hspace => exact h
        · next rest' hspace =>
          obtain ⟨read',hread,rfl⟩ := Option.map_eq_some_iff.mp h
          rw [hitems _ _ hread]
          rfl
      · next rest =>
        split at h
        · next hspace => exact h
        · next rest' hspace =>
          obtain ⟨read',hread,hclose⟩ := Option.bind_eq_some_iff.mp h
          rw [hmembers _ _ hread]
          exact hclose
      all_goals exact h
    · rw [items] at h ⊢
      obtain ⟨head,hhead,h⟩ := Option.bind_eq_some_iff.mp h
      rw [hvalue _ _ hhead,Option.bind_some]
      split at h
      · obtain ⟨read',hread,rfl⟩ := Option.map_eq_some_iff.mp h
        rw [hitems _ _ hread]
        rfl
      · exact h
      · exact h
    · unfold members at h ⊢
      split at h
      · obtain ⟨key,hkey,h⟩ := Option.bind_eq_some_iff.mp h
        simp only [hkey,Option.bind_some]
        split at h
        · next hspace =>
          obtain ⟨head,hhead,h⟩ := Option.bind_eq_some_iff.mp h
          simp only [hvalue _ _ hhead,Option.bind_some]
          split at h
          · obtain ⟨read',hread,rfl⟩ := Option.map_eq_some_iff.mp h
            rw [hmembers _ _ hread]
            rfl
          · exact h
          · exact h
        · cases h
      · cases h

theorem value_mono {fuel more : ℕ} (h : fuel ≤ more) {text : List Char} {read : Json × List Char}
    (hread : value reader fuel text = some read) : value reader more text = some read := by
  induction more, h using Nat.le_induction with
  | base => exact hread
  | succ more _ ih => exact (read_mono reader more).1 text read ih

theorem value_dumps_fuel {v : Json} (hv : Readable reader.floatRepr v) (fuel : ℕ) {rest : List Char}
    (hr : EndsNumber rest) :
    value reader fuel (dumps v ++ rest) = none ∨ value reader fuel (dumps v ++ rest) = some (v,rest) := by
  cases hread : value reader fuel (dumps v ++ rest) with
  | none => exact .inl rfl
  | some read =>
    have hmore := value_mono reader (le_max_left fuel (size v)) hread
    rw [value_dumps reader hv (le_max_right _ _) hr] at hmore
    exact .inr hmore.symm

theorem endsNumber_dumpsItems (rest : List Json) (tail : List Char) : EndsNumber (dumpsItems rest ++ tail) := by
  rw [← renderItems_compact 0 rest]
  exact endsNumber_items 0 rest tail

theorem endsNumber_dumpsFields (rest : List (String × Json)) (tail : List Char) :
    EndsNumber (dumpsFields rest ++ tail) := by
  rw [← renderFields_compact 0 rest]
  exact endsNumber_fields 0 rest tail

theorem members_open {key : String} (h : key.toList.any isRawBreak = true) (fuel : ℕ) (rest : List Char) :
    members reader (fuel + 1) (firstLine (quote key ++ rest)) = none := by
  obtain ⟨kept,hkept⟩ := firstLine_quote h rest
  rw [hkept,members,stringBody_open]
  rfl

theorem members_key {key : String} (h : key.toList.any isRawBreak = false) (fuel : ℕ) (text tail : List Char) :
    members reader (fuel + 1) (firstLine (quote key ++ (':' :: text ++ tail))) =
      (value reader fuel (skipSpace (firstLine (text ++ tail)))).bind fun head =>
        match skipSpace head.2 with
        | ',' :: rest => (members reader fuel (skipSpace rest)).map fun read => ((key,head.1) :: read.1,read.2)
        | '}' :: rest => some ([(key,head.1)],rest)
        | _ => none := by
  rw [firstLine_append (quote_unbroken h),quote_append,members,stringBody_flatMap,Option.bind_some,
    List.cons_append,firstLine_cons (by decide),skipSpace_cons (by decide),String.ofList_toList]
  rfl

mutual

theorem value_broken : ∀ (v : Json) (fuel : ℕ) (tail : List Char), Readable reader.floatRepr v → breaks v = true →
    value reader fuel (firstLine (dumps v ++ tail)) = none
  | _, 0, _, _, _ => rfl
  | .null, _ + 1, _, _, hb => by cases hb
  | .bool _, _ + 1, _, _, hb => by cases hb
  | .int _, _ + 1, _, _, hb => by cases hb
  | .float _, _ + 1, _, _, hb => by cases hb
  | .str text, fuel + 1, tail, _, hb => by
    obtain ⟨kept,hkept⟩ := firstLine_quote hb tail
    rw [dumps,hkept,value,stringBody_open]
    rfl
  | .arr [], _ + 1, _, _, hb => by cases hb
  | .arr (item :: rest), fuel + 1, tail, hv, hb => by
    have hread := items_broken item rest fuel tail hv.1 hv.2 (by rw [breaks,← List.any_append]; exact hb)
    obtain ⟨text,ht⟩ := dumps_opens_readable hv.1
    rw [dumps,List.cons_append,List.append_assoc,firstLine_cons (by decide),value,skipSpace_firstLine hv.1]
    split
    · next he =>
      rw [ht,List.cons_append,firstLine_cons (opens_unbroken hv.1)] at he
      exact absurd (List.cons.inj he).1 (opens_not_space hv.1).2.2.2.2.1
    · rw [hread]
      rfl
  | .obj [], _ + 1, _, _, hb => by cases hb
  | .obj ((key,v) :: rest), fuel + 1, tail, hv, hb => by
    have hread := members_broken key v rest fuel tail hv.2.1 hv.2.2
      (by rw [breaks,← List.any_append,← List.any_append]; exact hb)
    have hopen : firstLine (quote key ++ (':' :: (dumps v ++ dumpsFields rest) ++ tail)) =
        '"' :: firstLine (key.toList.flatMap escape ++ '"' :: (':' :: (dumps v ++ dumpsFields rest) ++ tail)) := by
      rw [quote_append,firstLine_cons (by decide)]
    rw [dumps,List.cons_append,List.append_assoc,firstLine_cons (by decide),value,hopen,
      skipSpace_cons (by decide)]
    rw [hopen] at hread
    split
    · next he => exact absurd (List.cons.inj he).1 (by decide)
    · rw [hread]
      rfl

theorem items_broken : ∀ (item : Json) (rest : List Json) (fuel : ℕ) (tail : List Char),
    Readable reader.floatRepr item → ReadableItems reader.floatRepr rest → (breaks item || (charsItems rest).any isRawBreak) = true →
    items reader fuel (firstLine (dumps item ++ (dumpsItems rest ++ tail))) = none
  | _, _, 0, _, _, _, _ => rfl
  | item, [], fuel + 1, tail, hitem, _, hb => by
    rw [charsItems,List.any_nil,Bool.or_false] at hb
    rw [items,value_broken item fuel (dumpsItems [] ++ tail) hitem hb]
    rfl
  | item, next :: rest, fuel + 1, tail, hitem, hrest, hb => by
    cases hbroken : breaks item with
    | true =>
      rw [items,value_broken item fuel (dumpsItems (next :: rest) ++ tail) hitem hbroken]
      rfl
    | false =>
      rw [hbroken,Bool.false_or] at hb
      have hends := endsNumber_firstLine (endsNumber_dumpsItems (next :: rest) tail)
      rw [items,firstLine_append (dumps_unbroken item hitem hbroken)]
      rcases value_dumps_fuel reader hitem fuel hends with hnone | hsome
      · rw [hnone]
        rfl
      · rw [hsome,Option.bind_some,dumpsItems,List.cons_append,firstLine_cons (by decide),
          skipSpace_cons (by decide)]
        simp only []
        rw [List.append_assoc,skipSpace_firstLine hrest.1,items_broken next rest fuel tail hrest.1 hrest.2
          (by rw [breaks,← List.any_append]; exact hb)]
        rfl

theorem members_broken : ∀ (key : String) (v : Json) (rest : List (String × Json)) (fuel : ℕ) (tail : List Char),
    Readable reader.floatRepr v → ReadableFields reader.floatRepr rest →
    (key.toList.any isRawBreak || (breaks v || (charsFields rest).any isRawBreak)) = true →
    members reader fuel (firstLine (quote key ++ (':' :: (dumps v ++ dumpsFields rest) ++ tail))) = none
  | _, _, _, 0, _, _, _, _ => rfl
  | key, v, [], fuel + 1, tail, hv, _, hb => by
    rw [charsFields,List.any_nil,Bool.or_false] at hb
    cases hkey : key.toList.any isRawBreak with
    | true => exact members_open reader hkey fuel _
    | false =>
      rw [hkey,Bool.false_or] at hb
      have hread := value_broken v fuel (dumpsFields [] ++ tail) hv hb
      rw [members_key reader hkey fuel,List.append_assoc,skipSpace_firstLine hv,hread]
      rfl
  | key, v, (next,w) :: rest, fuel + 1, tail, hv, hrest, hb => by
    cases hkey : key.toList.any isRawBreak with
    | true => exact members_open reader hkey fuel _
    | false =>
      rw [hkey,Bool.false_or] at hb
      rw [members_key reader hkey fuel,List.append_assoc,skipSpace_firstLine hv]
      cases hbroken : breaks v with
      | true =>
        rw [value_broken v fuel (dumpsFields ((next,w) :: rest) ++ tail) hv hbroken]
        rfl
      | false =>
        rw [hbroken,Bool.false_or] at hb
        have hends := endsNumber_firstLine (endsNumber_dumpsFields ((next,w) :: rest) tail)
        rw [firstLine_append (dumps_unbroken v hv hbroken)]
        rcases value_dumps_fuel reader hv fuel hends with hnone | hsome
        · rw [hnone]
          rfl
        · have hread := members_broken next w rest fuel tail hrest.1 hrest.2
            (by rw [breaks,← List.any_append,← List.any_append]; exact hb)
          have hquote : skipSpace (firstLine (quote next ++ (':' :: (dumps w ++ dumpsFields rest) ++ tail))) =
              firstLine (quote next ++ (':' :: (dumps w ++ dumpsFields rest) ++ tail)) := by
            rw [quote_append,firstLine_cons (by decide)]
            exact skipSpace_cons (by decide) _
          rw [hsome,Option.bind_some,dumpsFields,List.cons_append,firstLine_cons (by decide),
            skipSpace_cons (by decide)]
          simp only []
          rw [List.append_assoc,hquote,hread]
          rfl

end

theorem loadsWith_broken {v : Json} (hv : Readable reader.floatRepr v) (hb : breaks v = true) (tail : List Char) :
    loadsWith reader (firstLine (dumps v ++ tail)) = none := by
  rw [loadsWith,skipSpace_firstLine hv,value_broken reader v _ tail hv hb]

end Values

end Json
end PneumaLab
