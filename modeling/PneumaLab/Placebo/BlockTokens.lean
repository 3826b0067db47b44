import PneumaLab.Exceptions
import PneumaLab.Library.Json
import PneumaLab.Library.WordTokens
import Mathlib.Tactic

namespace PneumaLab.Placebo.Blocks

-- The characters that \w matches. Of those behind ASCII it is only known that no space is among them.
structure Alphabet where
  isWord : Char → Bool
  apart : ∀ c, isSpace c = true → isWord c = false
  ascii : ∀ c, c.toNat < 128 → isWord c = (c.isAlphanum || c == '_')

inductive SchemaSection where
  | observation
  | principle
  | revisionPlan
  deriving DecidableEq, Repr

namespace SchemaSection

def name : SchemaSection → String
  | observation => "Observation"
  | principle => "Principle"
  | revisionPlan => "Revision plan"

end SchemaSection

def schemaSections : List SchemaSection := [.observation,.principle,.revisionPlan]

abbrev Sections := SchemaSection → List (List Char)

def payloadHeader : String := "### POST-FAILURE REFLECTION"

def payloadDelimiter : String := "-----"

def payloadLines (sections : Sections) : List (List Char) :=
  [payloadHeader.toList,payloadDelimiter.toList] ++
    schemaSections.flatMap (fun name => (name.name ++ ":").toList :: (sections name).map fun bullet => '-' :: ' ' :: bullet) ++
    [payloadDelimiter.toList]

def renderPayloadText (sections : Sections) : List Char := ['\n'].intercalate (payloadLines sections) ++ ['\n']

section Sentences

def isTerminator (c : Char) : Bool := decide (c ∈ ['.','!','?'])

-- The matches of [^.!?]*[.!?]+|[^.!?]+$, the one being read and whether it has come to its terminators.
def sentencesFrom (current : List Char) (ended : Bool) : List Char → List (List Char)
  | [] => if current.isEmpty then [] else [current]
  | c :: rest =>
    if isTerminator c then sentencesFrom (current ++ [c]) true rest
    else if ended then current :: sentencesFrom [c] false rest
    else sentencesFrom (current ++ [c]) false rest

def splitSentences (text : List Char) : List (List Char) :=
  ((sentencesFrom [] false text).map stripChars).filter fun part => !part.isEmpty

end Sentences

section Padding

def padWords : List String := ["noted","recorded","reviewed","considered","unchanged","reserved","retained","logged"]

def padWord (i : ℕ) : List Char := (padWords.getD (i % padWords.length) "").toList

def padSentence (tokenBudget : ℤ) : List Char :=
  if tokenBudget < 1 then []
  else if tokenBudget = 1 then padWord 0
  else [' '].intercalate ((List.range (tokenBudget - 1).toNat).map padWord) ++ ['.']

def appendPadSentence (sections : Sections) (tokenBudget : ℤ) : Sections :=
  match schemaSections.reverse.find? fun name => !(sections name).isEmpty with
  | none => sections
  | some name =>
    let bullets := sections name
    Function.update sections name (bullets.dropLast ++
      [stripChars (bullets.getLastD [] ++ ' ' :: padSentence tokenBudget)])

end Padding

section Dropping

def dropInBullets : List (List Char) → Option (List (List Char))
  | [] => none
  | bullet :: later =>
    match dropInBullets later with
    | some dropped => some (bullet :: dropped)
    | none =>
      let parts := splitSentences bullet
      if 2 ≤ parts.length then some ([' '].intercalate parts.dropLast :: later) else none

def dropTrailingSentence (sections : Sections) : Option Sections :=
  schemaSections.reverse.findSome? fun name => (dropInBullets (sections name)).map (Function.update sections name)

end Dropping

variable (alphabet : Alphabet)

def countTokens (text : List Char) : ℕ := (tokensFrom alphabet.isWord isSpace [] text).length

variable {alphabet : Alphabet}

section Counting

theorem countTokens_eq (text : List Char) : countTokens alphabet text = tokenStarts alphabet.isWord isSpace false text := by
  rw [countTokens,tokensFrom_length]
  exact Nat.zero_add _

theorem countTokens_strip (text : List Char) : countTokens alphabet (stripChars text) = countTokens alphabet text := by
  rw [countTokens_eq,countTokens_eq,tokenStarts_strip alphabet.apart]

theorem countTokens_space {c : Char} (hc : isSpace c = true) (before after : List Char) :
    countTokens alphabet (before ++ c :: after) = countTokens alphabet before + countTokens alphabet after := by
  rw [countTokens_eq,countTokens_eq,countTokens_eq,tokenStarts_break (alphabet.apart c hc),hc]
  rfl

theorem not_word {c : Char} (hascii : c.toNat < 128) (h : (c.isAlphanum || c == '_') = false) : alphabet.isWord c = false :=
  (alphabet.ascii c hascii).trans h

theorem terminator_not_word {c : Char} (h : isTerminator c = true) : alphabet.isWord c = false := by
  simp only [isTerminator,List.mem_cons,List.not_mem_nil,or_false,decide_eq_true_eq] at h
  obtain rfl | rfl | rfl := h
  · exact not_word (by decide) (by decide)
  · exact not_word (by decide) (by decide)
  · exact not_word (by decide) (by decide)

theorem countTokens_bullet (bullet : List Char) :
    countTokens alphabet ('-' :: ' ' :: bullet) = 1 + countTokens alphabet bullet := by
  have hspace : isSpace '-' = false := by decide
  have hdash : countTokens alphabet ['-'] = 1 := by
    rw [countTokens_eq,tokenStarts,not_word (by decide) (by decide),hspace]
    rfl
  rw [← hdash]
  exact countTokens_space (by decide) ['-'] bullet

theorem countTokens_pos {text : List Char} (h : ∃ c ∈ text, isSpace c = false) : 0 < countTokens alphabet text := by
  rw [countTokens_eq]
  exact tokenStarts_pos h

end Counting

section Lines

theorem intercalate_append {sep : List Char} {line : List Char} {lines : List (List Char)} :
    sep.intercalate (line :: lines) ++ sep = (line :: lines).flatMap (· ++ sep) := by
  induction lines generalizing line with
  | nil => simp
  | cons next lines ih =>
    rw [List.intercalate_cons_cons,List.append_assoc,ih]
    rfl

theorem countTokens_lines {c : Char} (hc : isSpace c = true) (lines : List (List Char)) :
    countTokens alphabet (lines.flatMap (· ++ [c])) = (lines.map (countTokens alphabet)).sum := by
  induction lines with
  | nil => rfl
  | cons line lines ih =>
    rw [List.flatMap_cons,List.append_assoc,List.singleton_append,countTokens_space hc,ih,List.map_cons,List.sum_cons]

theorem countTokens_join {c : Char} (hc : isSpace c = true) (parts : List (List Char)) :
    countTokens alphabet ([c].intercalate parts) = (parts.map (countTokens alphabet)).sum := by
  cases parts with
  | nil => rfl
  | cons part parts =>
    have hbehind := @countTokens_space alphabet c hc ([c].intercalate (part :: parts)) []
    rw [intercalate_append,countTokens_lines hc] at hbehind
    exact hbehind.symm

end Lines

section Sentences

theorem sentencesFrom_tokens (text current : List Char) (ended : Bool)
    (h : ended = true → ∃ front c, current = front ++ [c] ∧ isTerminator c = true) :
    ((sentencesFrom current ended text).map (countTokens alphabet)).sum = countTokens alphabet (current ++ text) := by
  induction text generalizing current ended with
  | nil =>
    cases current with
    | nil => rfl
    | cons c current => simp [sentencesFrom]
  | cons c rest ih =>
    rw [sentencesFrom]
    split
    · next hc =>
      rw [ih (current ++ [c]) true fun _ => ⟨current,c,rfl,hc⟩,List.append_assoc,List.singleton_append]
    · split
      · next hended =>
        -- the sentence read so far closes with a character that is no word
        obtain ⟨front,last,rfl,hlast⟩ := h hended
        rw [List.map_cons,List.sum_cons,ih [c] false nofun,List.singleton_append,countTokens_eq,countTokens_eq,countTokens_eq,
          tokenStarts_behind (terminator_not_word hlast)]
      · rw [ih (current ++ [c]) false nofun,List.append_assoc,List.singleton_append]

theorem splitSentences_tokens (text : List Char) :
    ((splitSentences text).map (countTokens alphabet)).sum = countTokens alphabet text := by
  have hsentences := @sentencesFrom_tokens alphabet text [] false (by rintro ⟨⟩)
  rw [List.nil_append] at hsentences
  rw [← hsentences,splitSentences]
  induction sentencesFrom [] false text with
  | nil => rfl
  | cons sentence sentences ih =>
    rw [List.map_cons,List.map_cons,List.sum_cons,← countTokens_strip sentence]
    cases hpart : stripChars sentence with
    | nil =>
      rw [List.filter_cons_of_neg (by simp),ih]
      exact (Nat.zero_add _).symm
    | cons c part => rw [List.filter_cons_of_pos (by simp),List.map_cons,List.sum_cons,ih]

theorem part_text {text part : List Char} (h : part ∈ splitSentences text) : ∃ c ∈ part, isSpace c = false := by
  obtain ⟨hmem,hempty⟩ := List.mem_filter.mp h
  obtain ⟨sentence,_,rfl⟩ := List.mem_map.mp hmem
  exact stripChars_first fun hnil => by simp [hnil] at hempty

def withoutLast (text : List Char) : List Char := [' '].intercalate (splitSentences text).dropLast

theorem withoutLast_tokens {text : List Char} (h : 2 ≤ (splitSentences text).length) :
    countTokens alphabet (withoutLast text) < countTokens alphabet text := by
  have hne : splitSentences text ≠ [] := by
    intro hnil
    rw [hnil] at h
    simp at h
  have hsum := @splitSentences_tokens alphabet text
  rw [← List.dropLast_append_getLast hne,List.map_append,List.sum_append,List.map_singleton,List.sum_singleton] at hsum
  have hpos := @countTokens_pos alphabet _ (part_text (List.getLast_mem hne))
  rw [withoutLast,countTokens_join (by decide)]
  omega

theorem mem_intercalate {c : Char} {sep part : List Char} {parts : List (List Char)} (hpart : part ∈ parts) (hc : c ∈ part) :
    c ∈ sep.intercalate parts := by
  induction parts with
  | nil => cases hpart
  | cons first parts ih =>
    cases parts with
    | nil =>
      obtain rfl := List.mem_singleton.mp hpart
      rwa [List.intercalate_singleton]
    | cons next parts =>
      rw [List.intercalate_cons_cons,List.mem_append,List.mem_append]
      obtain rfl | hpart := List.mem_cons.mp hpart
      · exact .inl (.inl hc)
      · exact .inr (ih hpart)

theorem withoutLast_text {text : List Char} (h : 2 ≤ (splitSentences text).length) :
    ∃ c ∈ withoutLast text, isSpace c = false := by
  have hne : (splitSentences text).dropLast ≠ [] := by
    intro hnil
    have hlength := congrArg List.length hnil
    rw [List.length_dropLast,List.length_nil] at hlength
    omega
  have hmem := List.head_mem hne
  obtain ⟨c,hc,hspace⟩ := part_text (List.mem_of_mem_dropLast hmem)
  exact ⟨c,mem_intercalate hmem hc,hspace⟩

end Sentences

section Sections
variable (alphabet)

def weight (bullets : List (List Char)) : ℕ := (bullets.map fun bullet => 1 + countTokens alphabet bullet).sum

def tokens (sections : Sections) : ℕ := countTokens alphabet (renderPayloadText sections)

def frame : ℕ :=
  countTokens alphabet payloadHeader.toList + countTokens alphabet payloadDelimiter.toList +
    (schemaSections.map fun name => countTokens alphabet (name.name ++ ":").toList).sum +
    countTokens alphabet payloadDelimiter.toList

variable {alphabet}

theorem tokens_eq (sections : Sections) :
    tokens alphabet sections = frame alphabet + (schemaSections.map fun name => weight alphabet (sections name)).sum := by
  have hbullets (name : SchemaSection) : (((sections name).map fun bullet => '-' :: ' ' :: bullet).map (countTokens alphabet)).sum =
      weight alphabet (sections name) := by
    rw [weight,List.map_map]
    exact congrArg List.sum (List.map_congr_left fun bullet _ => countTokens_bullet bullet)
  have hrender : renderPayloadText sections = (payloadLines sections).flatMap (· ++ ['\n']) := intercalate_append
  rw [tokens,hrender,countTokens_lines (by decide),payloadLines,frame]
  simp only [schemaSections,List.flatMap_cons,List.flatMap_nil,List.map_append,List.map_cons,List.map_nil,List.sum_append,
    List.sum_cons,List.sum_nil,hbullets]
  omega

theorem tokens_update (sections : Sections) (name : SchemaSection) (bullets : List (List Char)) :
    tokens alphabet (Function.update sections name bullets) + weight alphabet (sections name) =
      tokens alphabet sections + weight alphabet bullets := by
  rw [tokens_eq,tokens_eq]
  cases name with
  | observation =>
    simp only [schemaSections,List.map_cons,List.map_nil,List.sum_cons,List.sum_nil,Function.update_self,ne_eq,reduceCtorEq,
      not_false_eq_true,Function.update_of_ne]
    omega
  | principle =>
    simp only [schemaSections,List.map_cons,List.map_nil,List.sum_cons,List.sum_nil,Function.update_self,ne_eq,reduceCtorEq,
      not_false_eq_true,Function.update_of_ne]
    omega
  | revisionPlan =>
    simp only [schemaSections,List.map_cons,List.map_nil,List.sum_cons,List.sum_nil,Function.update_self,ne_eq,reduceCtorEq,
      not_false_eq_true,Function.update_of_ne]
    omega

theorem weight_append (before after : List (List Char)) :
    weight alphabet (before ++ after) = weight alphabet before + weight alphabet after := by
  rw [weight,weight,weight,List.map_append,List.sum_append]

theorem weight_cons (bullet : List Char) (bullets : List (List Char)) :
    weight alphabet (bullet :: bullets) = 1 + countTokens alphabet bullet + weight alphabet bullets := rfl

end Sections

section Drops

theorem dropInBullets_some {bullets dropped : List (List Char)} (h : dropInBullets bullets = some dropped) :
    ∃ before bullet after, bullets = before ++ bullet :: after ∧ 2 ≤ (splitSentences bullet).length ∧
      dropped = before ++ withoutLast bullet :: after := by
  induction bullets generalizing dropped with
  | nil => cases h
  | cons bullet later ih =>
    rw [dropInBullets] at h
    cases hlater : dropInBullets later with
    | some rest =>
      rw [hlater] at h
      obtain rfl := Option.some.inj h
      obtain ⟨before,inner,after,rfl,htwo,rfl⟩ := ih hlater
      exact ⟨bullet :: before,inner,after,rfl,htwo,rfl⟩
    | none =>
      rw [hlater] at h
      dsimp only at h
      split at h
      · next htwo =>
        obtain rfl := Option.some.inj h
        exact ⟨[],bullet,later,rfl,htwo,rfl⟩
      · cases h

theorem dropInBullets_none {bullets : List (List Char)} (h : dropInBullets bullets = none) :
    ∀ bullet ∈ bullets, (splitSentences bullet).length < 2 := by
  induction bullets with
  | nil => simp
  | cons bullet later ih =>
    rw [dropInBullets] at h
    cases hlater : dropInBullets later with
    | some rest =>
      rw [hlater] at h
      cases h
    | none =>
      rw [hlater] at h
      dsimp only at h
      split at h
      · cases h
      · next htwo => exact List.forall_mem_cons.mpr ⟨Nat.lt_of_not_le htwo,ih hlater⟩

theorem dropTrailingSentence_some {sections next : Sections} (h : dropTrailingSentence sections = some next) :
    ∃ name before bullet after, sections name = before ++ bullet :: after ∧ 2 ≤ (splitSentences bullet).length ∧
      next = Function.update sections name (before ++ withoutLast bullet :: after) := by
  obtain ⟨name,_,hname⟩ := List.exists_of_findSome?_eq_some h
  obtain ⟨dropped,hdropped,rfl⟩ := Option.map_eq_some_iff.mp hname
  obtain ⟨before,bullet,after,hbullets,htwo,rfl⟩ := dropInBullets_some hdropped
  exact ⟨name,before,bullet,after,hbullets,htwo,rfl⟩

theorem mem_schemaSections (name : SchemaSection) : name ∈ schemaSections := by
  cases name <;> decide

theorem dropTrailingSentence_none {sections : Sections} (h : dropTrailingSentence sections = none) (name : SchemaSection) :
    ∀ bullet ∈ sections name, (splitSentences bullet).length < 2 := by
  have hname := List.findSome?_eq_none_iff.mp h name (List.mem_reverse.mpr (mem_schemaSections name))
  exact dropInBullets_none (Option.map_eq_none_iff.mp hname)

theorem dropTrailingSentence_tokens {sections next : Sections} (h : dropTrailingSentence sections = some next) :
    tokens alphabet next < tokens alphabet sections := by
  obtain ⟨name,before,bullet,after,hbullets,htwo,rfl⟩ := dropTrailingSentence_some h
  have hupdate := @tokens_update alphabet sections name (before ++ withoutLast bullet :: after)
  have hless := @withoutLast_tokens alphabet bullet htwo
  rw [hbullets,weight_append,weight_append,weight_cons,weight_cons] at hupdate
  omega

end Drops

end PneumaLab.Placebo.Blocks
