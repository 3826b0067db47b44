import PneumaLab.Placebo.BlockTokens

namespace PneumaLab.Placebo.Blocks
variable (alphabet : Alphabet)

section Fitting

def truncateTo (targetTokens : ℤ) (sections : Sections) : Sections :=
  if targetTokens < tokens alphabet sections then
    match h : dropTrailingSentence sections with
    | none => sections
    | some next => truncateTo targetTokens next
  else sections
termination_by tokens alphabet sections
decreasing_by exact dropTrailingSentence_tokens h

def fitSectionsToTarget (sections : Sections) (targetTokens : ℤ) : Sections × List String :=
  let truncated := truncateTo alphabet targetTokens sections
  let count : ℤ := tokens alphabet truncated
  if targetTokens < count then (truncated,["token_parity_overshoot:" ++ toString (count - targetTokens)])
  else if count < targetTokens then
    let padded := appendPadSentence truncated (targetTokens - count)
    let count : ℤ := tokens alphabet padded
    (padded,if count = targetTokens then [] else ["token_parity_residual:" ++ toString (count - targetTokens)])
  else (truncated,[])

end Fitting

section Filler

structure PayloadBlock where
  arm : String
  text : List Char
  tokenCount : ℕ
  bulletCounts : List ℕ
  promptSlotIndex : ℤ
  sections : Sections
  provenance : List (String × Json)
  defects : List String
  reflectorPrompt : Option String

def assembleBlock (arm : String) (sections : Sections) (promptSlotIndex : ℤ) (provenance : List (String × Json))
    (defects : List String) (reflectorPrompt : Option String) : Py PayloadBlock := do
  let text := renderPayloadText sections
  demand (!(stripChars text).isEmpty) (.valueError (arm ++ ": rendered payload is empty; a payload slot is never blank"))
  return {
    arm := arm
    text := text
    tokenCount := countTokens alphabet text
    bulletCounts := schemaSections.map fun name => (sections name).length
    promptSlotIndex := promptSlotIndex
    sections := sections
    provenance := provenance
    defects := defects
    reflectorPrompt := reflectorPrompt }

def neutralSentences : List (List Char) :=
  ["This block carries no information.".toList,"The procedure here is unchanged.".toList,"No material was supplied.".toList,
    "The slot is held open.".toList,"Nothing further is recorded.".toList,"This position is reserved.".toList]

def layBullets (sentences : List (List Char)) : List (SchemaSection × ℤ) → ℕ → Sections → Py Sections
  | [], _, sections => .ok sections
  | (name,count) :: rest, cursor, sections => do
    demand (decide (1 ≤ count))
      (.valueError ("bullet count for " ++ name.name ++ " must be >= 1, got " ++ toString count))
    layBullets sentences rest (cursor + count.toNat) (Function.update sections name
      ((List.range count.toNat).map fun i => sentences.getD ((cursor + i) % sentences.length) []))

def neutralSections (counts : List ℤ) (sentences : List (List Char)) : Py Sections := do
  demand (!sentences.isEmpty) (.valueError "sentence bank must not be empty")
  layBullets sentences (schemaSections.zip counts) 0 fun _ => []

def bulletShape (bulletCounts : Option (List ℤ)) (bulletsPerSection : ℤ) : List ℤ :=
  bulletCounts.getD (schemaSections.map fun _ => bulletsPerSection)

def neutralFillerFloorTokens (bulletCounts : Option (List ℤ)) (bulletsPerSection : ℤ) : Py ℕ := do
  return tokens alphabet (← neutralSections (bulletShape bulletCounts bulletsPerSection) neutralSentences)

def tupleText : List ℤ → String
  | [] => "()"
  | [count] => "(" ++ toString count ++ ",)"
  | counts => "(" ++ ", ".intercalate (counts.map toString) ++ ")"

def belowFloor (targetTokens : ℤ) (floorTokens : ℕ) (counts : List ℤ) : String :=
  "target_tokens=" ++ toString targetTokens ++ " is below the structural floor of the neutral filler (" ++
    toString floorTokens ++ " tokens for bullet shape " ++ tupleText counts ++
    "). Token-exactness is contractual for R0_NONE, so this is raised rather than silently approximated."

def fillerProvenance (targetTokens : ℤ) : List (String × Json) :=
  [("donor_problem_id",.null),("dose",.null),("model_call",.bool false),("neutral_filler",.bool true),
    ("saw_failed_program",.bool false),("saw_hidden_test_stderr",.bool false),("saw_problem_statement",.bool false),
    ("saw_verifier_feedback",.bool false),("target_tokens",.int targetTokens),("task_blind",.bool true)]

def buildNeutralFiller (targetTokens : ℤ) (bulletCounts : Option (List ℤ)) (bulletsPerSection promptSlotIndex : ℤ)
    (sentences : List (List Char)) (arm : String) : Py PayloadBlock := do
  let counts := bulletShape bulletCounts bulletsPerSection
  let floorSections := truncateTo alphabet targetTokens (← neutralSections counts sentences)
  let floorTokens := tokens alphabet floorSections
  demand (decide ((floorTokens : ℤ) ≤ targetTokens)) (.valueError (belowFloor targetTokens floorTokens counts))
  let fitted := fitSectionsToTarget alphabet floorSections targetTokens
  let block ← assembleBlock alphabet arm fitted.1 promptSlotIndex (fillerProvenance targetTokens) fitted.2 none
  demand (decide ((block.tokenCount : ℤ) = targetTokens)) (.valueError ("neutral filler missed its token target: " ++
    toString block.tokenCount ++ " != " ++ toString targetTokens ++ ". R0_NONE must be token-exact."))
  return block

end Filler

variable {alphabet : Alphabet}

section Keeping

def Voiced (bullet : List Char) : Prop := ∃ c ∈ bullet, isSpace c = false

def Keeps (sections next : Sections) : Prop :=
  ∀ name, List.Forall₂ (fun bullet kept => Voiced bullet → Voiced kept) (sections name) (next name)

theorem keeps_bullets (bullets : List (List Char)) :
    List.Forall₂ (fun bullet kept => Voiced bullet → Voiced kept) bullets bullets :=
  List.forall₂_same.mpr fun _ _ h => h

theorem keeps_through {bullets middle last : List (List Char)}
    (h : List.Forall₂ (fun bullet kept => Voiced bullet → Voiced kept) bullets middle)
    (h' : List.Forall₂ (fun bullet kept => Voiced bullet → Voiced kept) middle last) :
    List.Forall₂ (fun bullet kept => Voiced bullet → Voiced kept) bullets last := by
  induction h generalizing last with
  | nil => exact h'
  | cons hbullet _ ih =>
    cases h' with
    | cons hkept hrest => exact .cons (fun hvoiced => hkept (hbullet hvoiced)) (ih hrest)

theorem Keeps.refl (sections : Sections) : Keeps sections sections := fun name => keeps_bullets (sections name)

theorem Keeps.trans {sections next last : Sections} (h : Keeps sections next) (h' : Keeps next last) : Keeps sections last :=
  fun name => keeps_through (h name) (h' name)

theorem Keeps.some {sections next : Sections} (h : Keeps sections next) (hsome : ∃ name, sections name ≠ []) :
    ∃ name, next name ≠ [] := by
  obtain ⟨name,hname⟩ := hsome
  refine ⟨name,fun hempty => hname ?_⟩
  have hlength := (h name).length_eq
  rw [hempty,List.length_nil] at hlength
  exact List.length_eq_zero_iff.mp hlength

theorem keeps_update {sections : Sections} {name : SchemaSection} {before after : List (List Char)} {bullet kept : List Char}
    (hbullets : sections name = before ++ bullet :: after) (h : Voiced bullet → Voiced kept) :
    Keeps sections (Function.update sections name (before ++ kept :: after)) := by
  intro other
  by_cases hother : other = name
  · subst hother
    rw [Function.update_self,hbullets]
    exact List.rel_append (keeps_bullets before) (.cons h (keeps_bullets after))
  · rw [Function.update_of_ne hother]
    exact keeps_bullets (sections other)

theorem drop_keeps {sections next : Sections} (h : dropTrailingSentence sections = some next) : Keeps sections next := by
  obtain ⟨name,before,bullet,after,hbullets,htwo,rfl⟩ := dropTrailingSentence_some h
  exact keeps_update hbullets fun _ => withoutLast_text htwo

end Keeping

section Truncation

theorem truncate_fits {target : ℤ} {sections : Sections} (h : tokens alphabet sections ≤ target) :
    truncateTo alphabet target sections = sections := by
  rw [truncateTo,if_neg (not_lt.mpr h)]

theorem truncate_stuck {target : ℤ} {sections : Sections} (h : dropTrailingSentence sections = none) :
    truncateTo alphabet target sections = sections := by
  rw [truncateTo]
  split
  · split
    · rfl
    · next next hsome =>
      rw [h] at hsome
      cases hsome
  · rfl

theorem truncate_step {target : ℤ} {sections next : Sections} (hlt : target < tokens alphabet sections)
    (h : dropTrailingSentence sections = some next) :
    truncateTo alphabet target sections = truncateTo alphabet target next := by
  rw [truncateTo,if_pos hlt]
  split
  · next hnone =>
    rw [h] at hnone
    cases hnone
  · next found hfound => rw [Option.some.inj (h.symm.trans hfound)]

theorem truncate_rec (alphabet : Alphabet) (target : ℤ) {P : Sections → Prop} (fits : ∀ sections, tokens alphabet sections ≤ target → P sections)
    (stuck : ∀ sections, target < tokens alphabet sections → dropTrailingSentence sections = none → P sections)
    (step : ∀ sections next, target < tokens alphabet sections → dropTrailingSentence sections = some next → P next → P sections)
    (sections : Sections) : P sections := by
  induction sections using truncateTo.induct alphabet target with
  | case1 sections hlt hnone => exact stuck sections hlt hnone
  | case2 sections hlt next hsome ih => exact step sections next hlt hsome ih
  | case3 sections hle => exact fits sections (not_lt.mp hle)

theorem truncate_keeps (target : ℤ) (sections : Sections) : Keeps sections (truncateTo alphabet target sections) := by
  induction sections using truncate_rec alphabet target with
  | fits sections hfits =>
    rw [truncate_fits hfits]
    exact .refl sections
  | stuck sections _ hnone =>
    rw [truncate_stuck hnone]
    exact .refl sections
  | step sections next hlt hsome ih =>
    rw [truncate_step hlt hsome]
    exact (drop_keeps hsome).trans ih

theorem truncate_tokens_le (target : ℤ) (sections : Sections) :
    tokens alphabet (truncateTo alphabet target sections) ≤ tokens alphabet sections := by
  induction sections using truncate_rec alphabet target with
  | fits sections hfits => rw [truncate_fits hfits]
  | stuck sections _ hnone => rw [truncate_stuck hnone]
  | step sections next hlt hsome ih =>
    rw [truncate_step hlt hsome]
    exact ih.trans (dropTrailingSentence_tokens hsome).le

theorem truncate_over {target : ℤ} {sections : Sections} (h : target < tokens alphabet (truncateTo alphabet target sections)) :
    dropTrailingSentence (truncateTo alphabet target sections) = none := by
  induction sections using truncate_rec alphabet target with
  | fits sections hfits =>
    rw [truncate_fits hfits] at h
    omega
  | stuck sections _ hnone => rwa [truncate_stuck hnone]
  | step sections next hlt hsome ih =>
    rw [truncate_step hlt hsome] at h ⊢
    exact ih h

def structuralFloor (alphabet : Alphabet) (sections : Sections) : ℕ := tokens alphabet (truncateTo alphabet (-1) sections)

theorem truncate_le_iff (target : ℤ) (sections : Sections) :
    (tokens alphabet (truncateTo alphabet target sections) : ℤ) ≤ target ↔ (structuralFloor alphabet sections : ℤ) ≤ target := by
  induction sections using truncate_rec alphabet target with
  | fits sections hfits =>
    have hless := @truncate_tokens_le alphabet (-1) sections
    rw [truncate_fits hfits,structuralFloor]
    omega
  | stuck sections _ hnone => rw [structuralFloor,truncate_stuck hnone,truncate_stuck hnone]
  | step sections next hlt hsome ih =>
    have hfloor : structuralFloor alphabet sections = structuralFloor alphabet next := by
      rw [structuralFloor,structuralFloor,truncate_step (by omega) hsome]
    rw [truncate_step hlt hsome,hfloor,ih]

end Truncation

section Padding

theorem starts_inside {word : List Char} (h : ∀ c ∈ word, alphabet.isWord c = true) :
    tokenStarts alphabet.isWord isSpace true word = 0 := by
  induction word with
  | nil => rfl
  | cons c word ih =>
    obtain ⟨hc,hword⟩ := List.forall_mem_cons.mp h
    rw [tokenStarts,if_pos hc,ih hword]
    rfl

theorem countTokens_word {word : List Char} (hne : word ≠ []) (h : ∀ c ∈ word, alphabet.isWord c = true) :
    countTokens alphabet word = 1 := by
  cases word with
  | nil => exact absurd rfl hne
  | cons c word =>
    obtain ⟨hc,hword⟩ := List.forall_mem_cons.mp h
    rw [countTokens_eq,tokenStarts,if_pos hc,starts_inside hword]
    rfl

theorem padWords_plain : padWords.all (fun word => !word.toList.isEmpty &&
    word.toList.all fun c => decide (c.toNat < 128) && (c.isAlphanum || c == '_')) = true := by decide +kernel

theorem padWord_tokens (i : ℕ) : countTokens alphabet (padWord i) = 1 := by
  have hlt : i % padWords.length < padWords.length := Nat.mod_lt i (by decide)
  have hmem : padWords.getD (i % padWords.length) "" ∈ padWords := by
    rw [List.getD_eq_getElem?_getD,List.getElem?_eq_getElem hlt,Option.getD_some]
    exact List.getElem_mem hlt
  have hplain := List.all_eq_true.mp padWords_plain _ hmem
  rw [Bool.and_eq_true,List.all_eq_true] at hplain
  refine countTokens_word (fun hempty => ?_) fun c hc => ?_
  · have hnonempty := hplain.1
    rw [padWord] at hempty
    rw [hempty] at hnonempty
    cases hnonempty
  · have hletter := hplain.2 c hc
    rw [Bool.and_eq_true,decide_eq_true_eq] at hletter
    exact (alphabet.ascii c hletter.1).trans hletter.2

theorem padSentence_tokens {budget : ℤ} (h : 0 < budget) : (countTokens alphabet (padSentence budget) : ℤ) = budget := by
  rw [padSentence,if_neg (by omega)]
  split
  · next hone => rw [padWord_tokens,hone]; rfl
  · next hmany =>
    have hwords : (((List.range (budget - 1).toNat).map padWord).map (countTokens alphabet)).sum = (budget - 1).toNat := by
      have hones : countTokens alphabet ∘ padWord = fun _ => 1 := funext padWord_tokens
      rw [List.map_map,hones,List.map_const',List.sum_replicate_nat,List.length_range,Nat.mul_one]
    have hstop : isSpace '.' = false := by decide
    rw [countTokens_eq,tokenStarts_break (not_word (by decide) (by decide)),← countTokens_eq,countTokens_join (by decide),hwords,
      hstop,tokenStarts]
    simp only [Bool.not_false,Bool.toNat_true]
    omega

theorem strip_voiced {text : List Char} (h : Voiced text) : Voiced (stripChars text) := by
  obtain ⟨c,hc,hspace⟩ := h
  exact ⟨c,mem_stripChars hc hspace,hspace⟩

theorem pad_cases {sections : Sections} (hsome : ∃ name, sections name ≠ []) (budget : ℤ) :
    ∃ name before bullet, sections name = before ++ [bullet] ∧ appendPadSentence sections budget =
      Function.update sections name (before ++ [stripChars (bullet ++ ' ' :: padSentence budget)]) := by
  obtain ⟨name,hname⟩ := hsome
  rw [appendPadSentence]
  cases hfind : schemaSections.reverse.find? fun name => !(sections name).isEmpty with
  | none =>
    have hempty := List.find?_eq_none.mp hfind name (List.mem_reverse.mpr (mem_schemaSections name))
    simp only [Bool.not_eq_true,Bool.not_eq_false',List.isEmpty_iff] at hempty
    exact absurd hempty hname
  | some found =>
    have hfound := List.find?_some hfind
    have hne : sections found ≠ [] := by
      intro hempty
      simp [hempty] at hfound
    refine ⟨found,(sections found).dropLast,(sections found).getLast hne,(List.dropLast_append_getLast hne).symm,?_⟩
    dsimp only
    rw [List.getLastD_eq_getLast?,List.getLast?_eq_some_getLast hne]
    rfl

theorem pad_keeps {sections : Sections} (hsome : ∃ name, sections name ≠ []) (budget : ℤ) :
    Keeps sections (appendPadSentence sections budget) := by
  obtain ⟨name,before,bullet,hbullets,hpad⟩ := pad_cases hsome budget
  rw [hpad]
  refine keeps_update hbullets fun hvoiced => strip_voiced ?_
  obtain ⟨c,hc,hspace⟩ := hvoiced
  exact ⟨c,List.mem_append_left _ hc,hspace⟩

theorem pad_tokens {sections : Sections} (hsome : ∃ name, sections name ≠ []) {budget : ℤ} (h : 0 < budget) :
    (tokens alphabet (appendPadSentence sections budget) : ℤ) = tokens alphabet sections + budget := by
  obtain ⟨name,before,bullet,hbullets,hpad⟩ := pad_cases hsome budget
  have hupdate := @tokens_update alphabet sections name
    (before ++ [stripChars (bullet ++ ' ' :: padSentence budget)])
  rw [hbullets,weight_append,weight_append,weight_cons,weight_cons,countTokens_strip,countTokens_space (by decide)] at hupdate
  have hbudget := @padSentence_tokens alphabet _ h
  rw [hpad]
  omega

end Padding

section Exactness

structure FitsOrOvershoots (alphabet : Alphabet) (sections : Sections) (target : ℤ) (fitted : Sections × List String) : Prop where
  counts : ∀ name, (fitted.1 name).length = (sections name).length
  voiced : ∀ name, List.Forall₂ (fun bullet kept => Voiced bullet → Voiced kept) (sections name) (fitted.1 name)
  outcome : (tokens alphabet fitted.1 : ℤ) = target ∧ fitted.2 = [] ∨
    target < tokens alphabet fitted.1 ∧ (∀ name, ∀ bullet ∈ fitted.1 name, (splitSentences bullet).length < 2) ∧
      fitted.2 = ["token_parity_overshoot:" ++ toString ((tokens alphabet fitted.1 : ℤ) - target)]

theorem fit_over {sections : Sections} {target : ℤ}
    (h : target < tokens alphabet (truncateTo alphabet target sections)) : fitSectionsToTarget alphabet sections target =
      (truncateTo alphabet target sections,
        ["token_parity_overshoot:" ++ toString ((tokens alphabet (truncateTo alphabet target sections) : ℤ) - target)]) := by
  rw [fitSectionsToTarget]
  exact if_pos h

theorem fit_under {sections : Sections} {target : ℤ} (hsome : ∃ name, sections name ≠ [])
    (h : tokens alphabet (truncateTo alphabet target sections) ≤ target) :
    (tokens alphabet (fitSectionsToTarget alphabet sections target).1 : ℤ) = target ∧
      (fitSectionsToTarget alphabet sections target).2 = [] ∧
      Keeps (truncateTo alphabet target sections) (fitSectionsToTarget alphabet sections target).1 := by
  have hkept := (@truncate_keeps alphabet target sections).some hsome
  rw [fitSectionsToTarget]
  simp only
  rw [if_neg (not_lt.mpr h)]
  split
  · next hshort =>
    have hpadded := @pad_tokens alphabet _ hkept _ (Int.sub_pos_of_lt hshort)
    have hexact : (tokens alphabet (appendPadSentence (truncateTo alphabet target sections)
        (target - tokens alphabet (truncateTo alphabet target sections))) : ℤ) = target := by omega
    exact ⟨hexact,if_pos hexact,pad_keeps hkept _⟩
  · next hlong =>
    have hexact : (tokens alphabet (truncateTo alphabet target sections) : ℤ) = target := by omega
    exact ⟨hexact,rfl,.refl _⟩

theorem fits_or_overshoots {sections : Sections} (hsome : ∃ name, sections name ≠ []) (target : ℤ) :
    FitsOrOvershoots alphabet sections target (fitSectionsToTarget alphabet sections target) := by
  have hkeeps := @truncate_keeps alphabet target sections
  obtain hle | hlt := le_or_gt (tokens alphabet (truncateTo alphabet target sections) : ℤ) target
  · obtain ⟨hexact,hclean,hpadded⟩ := fit_under hsome hle
    exact ⟨fun name => ((hkeeps.trans hpadded) name).length_eq.symm,hkeeps.trans hpadded,.inl ⟨hexact,hclean⟩⟩
  · rw [fit_over hlt]
    exact ⟨fun name => (hkeeps name).length_eq.symm,hkeeps,.inr ⟨hlt,dropTrailingSentence_none (truncate_over hlt),rfl⟩⟩

end Exactness

section Laying
variable {sentences : List (List Char)}

theorem lay_some {pairs : List (SchemaSection × ℤ)} {cursor : ℕ} {sections laid : Sections}
    (h : layBullets sentences pairs cursor sections = .ok laid) (hsome : pairs ≠ [] ∨ ∃ name, sections name ≠ []) :
    ∃ name, laid name ≠ [] := by
  induction pairs generalizing cursor sections with
  | nil =>
    obtain rfl := Except.ok.inj h
    exact hsome.resolve_left fun hne => hne rfl
  | cons pair rest ih =>
    obtain ⟨name,count⟩ := pair
    rw [layBullets] at h
    obtain ⟨_,hcount,hrest⟩ := bind_eq_ok.mp h
    have hpositive := of_decide_eq_true (demand_eq_ok.mp hcount)
    refine ih hrest (.inr ⟨name,fun hempty => ?_⟩)
    have hlength := congrArg List.length hempty
    rw [Function.update_self,List.length_map,List.length_range,List.length_nil] at hlength
    omega

theorem lay_mem {P : List Char → Prop} (hsentences : ∀ sentence ∈ sentences, P sentence) (hne : sentences ≠ [])
    {pairs : List (SchemaSection × ℤ)} {cursor : ℕ} {sections laid : Sections}
    (h : layBullets sentences pairs cursor sections = .ok laid) (hsections : ∀ name, ∀ bullet ∈ sections name, P bullet) :
    ∀ name, ∀ bullet ∈ laid name, P bullet := by
  induction pairs generalizing cursor sections with
  | nil =>
    obtain rfl := Except.ok.inj h
    exact hsections
  | cons pair rest ih =>
    obtain ⟨name,count⟩ := pair
    rw [layBullets] at h
    obtain ⟨_,_,hrest⟩ := bind_eq_ok.mp h
    refine ih hrest fun other bullet hbullet => ?_
    by_cases hother : other = name
    · subst hother
      rw [Function.update_self] at hbullet
      obtain ⟨i,_,rfl⟩ := List.mem_map.mp hbullet
      have hlt : (cursor + i) % sentences.length < sentences.length := Nat.mod_lt _ (List.length_pos_iff.mpr hne)
      rw [List.getD_eq_getElem?_getD,List.getElem?_eq_getElem hlt,Option.getD_some]
      exact hsentences _ (List.getElem_mem hlt)
    · rw [Function.update_of_ne hother] at hbullet
      exact hsections other bullet hbullet

theorem drop_single {sections : Sections} (h : ∀ name, ∀ bullet ∈ sections name, (splitSentences bullet).length < 2) :
    dropTrailingSentence sections = none := by
  cases hdrop : dropTrailingSentence sections with
  | none => rfl
  | some next =>
    obtain ⟨name,before,bullet,after,hbullets,htwo,_⟩ := dropTrailingSentence_some hdrop
    have hone := h name bullet (by simp [hbullets])
    omega

theorem neutralSentences_single : ∀ sentence ∈ neutralSentences, (splitSentences sentence).length < 2 := by decide

theorem neutral_floor (alphabet : Alphabet) (bulletCounts : Option (List ℤ)) (bulletsPerSection : ℤ) :
    neutralFillerFloorTokens alphabet bulletCounts bulletsPerSection =
      (neutralSections (bulletShape bulletCounts bulletsPerSection) neutralSentences).map (structuralFloor alphabet) := by
  rw [neutralFillerFloorTokens]
  cases hlaid : neutralSections (bulletShape bulletCounts bulletsPerSection) neutralSentences with
  | error e => rfl
  | ok laid =>
    rw [neutralSections] at hlaid
    obtain ⟨_,_,hlay⟩ := bind_eq_ok.mp hlaid
    have hsingle := lay_mem neutralSentences_single (by decide) hlay (by simp)
    have hfloor : structuralFloor alphabet laid = tokens alphabet laid := by
      rw [structuralFloor,truncate_stuck (drop_single hsingle)]
    exact congrArg Except.ok hfloor.symm

end Laying

section Filler
variable {targetTokens : ℤ} {bulletCounts : Option (List ℤ)} {bulletsPerSection promptSlotIndex : ℤ}
  {sentences : List (List Char)} {arm : String} {laid : Sections}

theorem render_shown (sections : Sections) : (stripChars (renderPayloadText sections)).isEmpty = false := by
  have hline : payloadHeader.toList ∈ payloadLines sections := List.mem_append_left _ (List.mem_append_left _ List.mem_cons_self)
  have hmark : '#' ∈ renderPayloadText sections :=
    List.mem_append_left _ (mem_intercalate hline (by decide))
  rw [List.isEmpty_eq_false_iff_exists_mem]
  exact ⟨'#',mem_stripChars hmark (by decide)⟩

theorem assemble_eq (sections : Sections) (provenance : List (String × Json)) (defects : List String)
    (reflectorPrompt : Option String) :
    assembleBlock alphabet arm sections promptSlotIndex provenance defects reflectorPrompt =
      .ok ⟨arm,renderPayloadText sections,tokens alphabet sections,schemaSections.map fun name => (sections name).length,
        promptSlotIndex,sections,provenance,defects,reflectorPrompt⟩ := by
  rw [assembleBlock]
  simp only [render_shown,Bool.not_false]
  rfl

def filled (alphabet : Alphabet) (targetTokens promptSlotIndex : ℤ) (arm : String) (laid : Sections) : PayloadBlock :=
  let fitted := fitSectionsToTarget alphabet (truncateTo alphabet targetTokens laid) targetTokens
  ⟨arm,renderPayloadText fitted.1,tokens alphabet fitted.1,schemaSections.map fun name => (fitted.1 name).length,
    promptSlotIndex,fitted.1,fillerProvenance targetTokens,fitted.2,none⟩

theorem filler_unlaid {e : Raised} (h : neutralSections (bulletShape bulletCounts bulletsPerSection) sentences = .error e) :
    buildNeutralFiller alphabet targetTokens bulletCounts bulletsPerSection promptSlotIndex sentences arm = .error e := by
  rw [buildNeutralFiller]
  simp only [h]
  rfl

theorem filler_below (h : neutralSections (bulletShape bulletCounts bulletsPerSection) sentences = .ok laid)
    (hbelow : targetTokens < structuralFloor alphabet laid) :
    buildNeutralFiller alphabet targetTokens bulletCounts bulletsPerSection promptSlotIndex sentences arm =
      .error (.valueError (belowFloor targetTokens (tokens alphabet (truncateTo alphabet targetTokens laid))
        (bulletShape bulletCounts bulletsPerSection))) := by
  have hover : ¬ (tokens alphabet (truncateTo alphabet targetTokens laid) : ℤ) ≤ targetTokens := by
    rw [truncate_le_iff]
    omega
  rw [buildNeutralFiller]
  simp only [h,ok_bind,demand,hover,decide_false]
  rfl

theorem filler_above (h : neutralSections (bulletShape bulletCounts bulletsPerSection) sentences = .ok laid)
    (habove : structuralFloor alphabet laid ≤ targetTokens) :
    buildNeutralFiller alphabet targetTokens bulletCounts bulletsPerSection promptSlotIndex sentences arm =
      if ((filled alphabet targetTokens promptSlotIndex arm laid).tokenCount : ℤ) = targetTokens then
        .ok (filled alphabet targetTokens promptSlotIndex arm laid)
      else .error (.valueError ("neutral filler missed its token target: " ++
        toString (filled alphabet targetTokens promptSlotIndex arm laid).tokenCount ++ " != " ++ toString targetTokens ++
          ". R0_NONE must be token-exact.")) := by
  have hfits : (tokens alphabet (truncateTo alphabet targetTokens laid) : ℤ) ≤ targetTokens := (truncate_le_iff _ _).mpr habove
  by_cases hexact : ((filled alphabet targetTokens promptSlotIndex arm laid).tokenCount : ℤ) = targetTokens
  · have hcount : (tokens alphabet (fitSectionsToTarget alphabet (truncateTo alphabet targetTokens laid) targetTokens).1 : ℤ) =
        targetTokens := hexact
    rw [if_pos hexact,buildNeutralFiller]
    simp only [h,ok_bind,demand,hfits,decide_true,if_true,assemble_eq,hcount]
    rfl
  · have hcount : ¬ (tokens alphabet (fitSectionsToTarget alphabet (truncateTo alphabet targetTokens laid) targetTokens).1 : ℤ) =
        targetTokens := hexact
    rw [if_neg hexact,buildNeutralFiller]
    simp only [h,ok_bind,demand,hfits,decide_true,if_true,assemble_eq,hcount,decide_false]
    rfl

theorem filled_exact (hsome : ∃ name, laid name ≠ []) (habove : structuralFloor alphabet laid ≤ targetTokens) :
    ((filled alphabet targetTokens promptSlotIndex arm laid).tokenCount : ℤ) = targetTokens := by
  have hfits : (tokens alphabet (truncateTo alphabet targetTokens laid) : ℤ) ≤ targetTokens := (truncate_le_iff _ _).mpr habove
  have hkept := (@truncate_keeps alphabet targetTokens laid).some hsome
  exact (fit_under hkept (by rwa [truncate_fits hfits])).1

theorem filled_bare : (filled alphabet targetTokens promptSlotIndex arm fun _ => []).tokenCount =
    structuralFloor alphabet fun _ => [] := by
  have hstuck : dropTrailingSentence (fun _ => []) = none := rfl
  have hpad (budget : ℤ) : appendPadSentence (fun _ => []) budget = fun _ => [] := rfl
  rw [filled,structuralFloor]
  simp only [truncate_stuck hstuck,fitSectionsToTarget,hpad]
  split
  · rfl
  · split
    · rfl
    · rfl

end Filler

section Contract

structure FillerContract (alphabet : Alphabet) (bulletCounts : Option (List ℤ)) (bulletsPerSection promptSlotIndex : ℤ)
    (sentences : List (List Char)) (arm : String) (laid : Sections) : Prop where
  exact_above : bulletShape bulletCounts bulletsPerSection ≠ [] → ∀ target : ℤ, structuralFloor alphabet laid ≤ target →
    ∃ block, buildNeutralFiller alphabet target bulletCounts bulletsPerSection promptSlotIndex sentences arm = .ok block ∧
      block.tokenCount = target ∧ countTokens alphabet block.text = target
  raises_below : ∀ target : ℤ, target < structuralFloor alphabet laid →
    ∃ message, buildNeutralFiller alphabet target bulletCounts bulletsPerSection promptSlotIndex sentences arm =
      .error (.valueError message)
  bare : bulletShape bulletCounts bulletsPerSection = [] → ∀ target : ℤ,
    (∃ block, buildNeutralFiller alphabet target bulletCounts bulletsPerSection promptSlotIndex sentences arm = .ok block) ↔
      target = structuralFloor alphabet laid

theorem laid_some {counts : List ℤ} {sentences : List (List Char)} {laid : Sections}
    (h : neutralSections counts sentences = .ok laid) (hcounts : counts ≠ []) : ∃ name, laid name ≠ [] := by
  rw [neutralSections] at h
  obtain ⟨_,_,hlay⟩ := bind_eq_ok.mp h
  refine lay_some hlay (.inl fun hzip => ?_)
  have hlength := congrArg List.length hzip
  rw [List.length_zip,List.length_nil,schemaSections] at hlength
  have hpositive := List.length_pos_iff.mpr hcounts
  simp only [List.length_cons,List.length_nil] at hlength
  omega

theorem laid_bare {sentences : List (List Char)} {laid : Sections} (h : neutralSections [] sentences = .ok laid) :
    laid = fun _ => [] := by
  rw [neutralSections] at h
  obtain ⟨_,_,hlay⟩ := bind_eq_ok.mp h
  exact (Except.ok.inj hlay).symm

theorem filler_contract {bulletCounts : Option (List ℤ)} {bulletsPerSection : ℤ} {sentences : List (List Char)} {laid : Sections}
    (h : neutralSections (bulletShape bulletCounts bulletsPerSection) sentences = .ok laid) (promptSlotIndex : ℤ) (arm : String) :
    FillerContract alphabet bulletCounts bulletsPerSection promptSlotIndex sentences arm laid where
  exact_above hshape target habove := by
    have hexact := @filled_exact alphabet target promptSlotIndex arm laid
      (laid_some h hshape) habove
    refine ⟨filled alphabet target promptSlotIndex arm laid,?_,hexact,hexact⟩
    rw [filler_above h habove,if_pos hexact]
  raises_below target hbelow := ⟨_,filler_below h hbelow⟩
  bare hshape target := by
    rw [hshape] at h
    obtain rfl := laid_bare h
    rw [← hshape] at h
    constructor
    · rintro ⟨block,hblock⟩
      obtain hbelow | habove := lt_or_ge target (structuralFloor alphabet fun _ => [])
      · rw [filler_below h hbelow] at hblock
        cases hblock
      · rw [filler_above h habove,filled_bare] at hblock
        split at hblock
        · next hexact => exact hexact.symm
        · cases hblock
    · rintro rfl
      rw [filler_above h le_rfl,filled_bare,if_pos rfl]
      exact ⟨_,rfl⟩

theorem token_fitting_exact (alphabet : Alphabet) :
    (∀ sections : Sections, (∀ name, ∃ bullet ∈ sections name, Voiced bullet) → ∀ target : ℤ,
      FitsOrOvershoots alphabet sections target (fitSectionsToTarget alphabet sections target)) ∧
    (∀ (bulletCounts : Option (List ℤ)) (bulletsPerSection promptSlotIndex : ℤ) (sentences : List (List Char)) (arm : String),
      (∀ laid, neutralSections (bulletShape bulletCounts bulletsPerSection) sentences = .ok laid →
        FillerContract alphabet bulletCounts bulletsPerSection promptSlotIndex sentences arm laid) ∧
      (∀ e, neutralSections (bulletShape bulletCounts bulletsPerSection) sentences = .error e → ∀ target,
        buildNeutralFiller alphabet target bulletCounts bulletsPerSection promptSlotIndex sentences arm = .error e)) ∧
    (∀ (bulletCounts : Option (List ℤ)) (bulletsPerSection : ℤ),
      neutralFillerFloorTokens alphabet bulletCounts bulletsPerSection =
        (neutralSections (bulletShape bulletCounts bulletsPerSection) neutralSentences).map (structuralFloor alphabet)) := by
  refine ⟨?_,?_,neutral_floor alphabet⟩
  · intro sections hvoiced target
    obtain ⟨bullet,hbullet,_⟩ := hvoiced .observation
    exact fits_or_overshoots ⟨.observation,List.ne_nil_of_mem hbullet⟩ target
  · intro bulletCounts bulletsPerSection promptSlotIndex sentences arm
    exact ⟨fun laid h => filler_contract h promptSlotIndex arm,fun e h target => filler_unlaid h⟩

theorem ascii_apart : ∀ n < 128, isSpace (Char.ofNat n) = true → ((Char.ofNat n).isAlphanum || Char.ofNat n == '_') = false := by
  decide

def asciiAlphabet : Alphabet where
  isWord c := decide (c.toNat < 128) && (c.isAlphanum || c == '_')
  apart c hc := by
    by_cases hascii : c.toNat < 128
    · have hword := ascii_apart c.toNat hascii
      rw [Char.ofNat_toNat] at hword
      simp [hword hc]
    · simp [hascii]
  ascii c hc := by simp [hc]

def blankBeside : Sections := fun _ => ["Held.".toList,[]]

theorem blank_bullet_left : ¬ ∀ (sections : Sections) (target : ℤ), (∀ name, ∃ bullet ∈ sections name, Voiced bullet) →
    ∀ name, ∀ bullet ∈ (fitSectionsToTarget asciiAlphabet sections target).1 name, Voiced bullet := by
  intro hvoiced
  have hstuck : dropTrailingSentence blankBeside = none := rfl
  have hover : (-1 : ℤ) < tokens asciiAlphabet (truncateTo asciiAlphabet (-1) blankBeside) := by omega
  have hblank := hvoiced blankBeside (-1) (fun _ => ⟨"Held.".toList,List.mem_cons_self,'H',by decide,by decide⟩) .observation []
  rw [fit_over hover,truncate_stuck hstuck] at hblank
  obtain ⟨_,hmem,_⟩ := hblank (List.mem_cons_of_mem _ List.mem_cons_self)
  cases hmem

theorem short_bullets_fitted : FitsOrOvershoots asciiAlphabet (fun _ => ["Held on. It ran.".toList,"Kept.".toList]) 40
    (fitSectionsToTarget asciiAlphabet (fun _ => ["Held on. It ran.".toList,"Kept.".toList]) 40) :=
  (token_fitting_exact asciiAlphabet).1 (fun _ => ["Held on. It ran.".toList,"Kept.".toList])
    (fun _ => ⟨"Held on. It ran.".toList,List.mem_cons_self,'H',by decide,by decide⟩) 40

end Contract

end PneumaLab.Placebo.Blocks
