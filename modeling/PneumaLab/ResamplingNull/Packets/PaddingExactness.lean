import PneumaLab.ResamplingNull.Packets.PaddingSearch

namespace PneumaLab.ResamplingNull

section Tokens
variable (platform : Platform) (findings : List VerifierFinding)

def beforePadding : List Char :=
  '{' :: (Json.quote "field_order" ++ ':' :: (Json.dumps (.arr (PACKET_FIELD_ORDER.map .str)) ++
    ',' :: (Json.quote "findings" ++ ':' :: (Json.dumps (.arr (findings.map VerifierFinding.row)) ++
      ',' :: (Json.quote "padding" ++ [':'])))))

def afterPadding : List Char :=
  ',' :: (Json.quote "record_kind" ++ ':' :: (Json.dumps (.str "private_verifier_guidance_v1") ++ ['}','\n']))

def emptyTokens : ℕ := (wordsFrom [] ((beforePadding findings ++ ['"']) ++ '"' :: afterPadding)).length

variable {findings}

theorem renderPacket_toList (padding : String) : (renderPacket findings padding).toList =
    (beforePadding findings ++ ['"']) ++ (padding.toList.flatMap Json.escape ++ '"' :: afterPadding) := by
  have hdumps : Json.dumps (guidanceJson findings padding) ++ ['\n'] =
      (beforePadding findings ++ ['"']) ++ (padding.toList.flatMap Json.escape ++ '"' :: afterPadding) := by
    rw [guidanceJson,Json.dumps,Json.dumpsFields,Json.dumpsFields,Json.dumpsFields,Json.dumpsFields,beforePadding,afterPadding]
    simp only [Json.dumps,Json.quote,List.cons_append,List.append_assoc,List.nil_append]
  rw [renderPacket,canonicalJsonBytes,fromUtf8_utf8,Option.getD_some,String.toList_ofList,hdumps]

theorem paddedTokens_eq (padding : String) : paddedTokens platform findings padding =
    emptyTokens findings + wordEnds true (padding.toList.flatMap Json.escape) := by
  have hbefore : insideWord false (beforePadding findings ++ ['"']) = true := by
    rw [insideWord_append]
    rfl
  rw [paddedTokens,unicodeWhitespaceEncode,List.length_map,renderPacket_toList,words_between hbefore rfl,emptyTokens]
  exact Nat.cast_add _ _

theorem paddedTokens_mono (padding unit : String) :
    paddedTokens platform findings padding ≤ paddedTokens platform findings (padding ++ unit) := by
  rw [paddedTokens_eq,paddedTokens_eq,String.toList_append,List.flatMap_append]
  have hle := wordEnds_le_append true (padding.toList.flatMap Json.escape) (unit.toList.flatMap Json.escape)
  omega

end Tokens

section Exactness
variable (platform : Platform) (findings : List VerifierFinding) (target : ℤ) (units : List String)

def Pads (word : List String) : Prop :=
  (∀ unit ∈ word, unit ∈ units) ∧ paddedTokens platform findings (String.join word) = target

structure PaddingExact (result : Py (String × PaddingSearchReceipt)) : Prop where
  finds : ∀ word, Pads platform findings target units word → ∃ padding receipt, result = .ok (padding,receipt)
  fewest : ∀ padding receipt, result = .ok (padding,receipt) → ∃ word, Pads platform findings target units word ∧
    String.join word = padding ∧ ∀ other, Pads platform findings target units other → word.length ≤ other.length
  unreachable : ∀ e, result = .error e → e = .packetInvalid "exact neutral padding target is unreachable" ∧
    ∀ word, ¬ Pads platform findings target units word
  counts : ∀ padding receipt, result = .ok (padding,receipt) → ∃ word : List String, (∀ unit ∈ word, unit ∈ units) ∧
    String.join word = padding ∧ receipt.selectedUnitCounts = units.map fun unit => (unit,word.count unit)

def WithinStates : Prop :=
  ∀ m, (∃ word, Pads platform findings target units word ∧ word.length = m) →
    (∀ word, Pads platform findings target units word → m ≤ word.length) →
    statesBefore (paddedTokens platform findings) target units m < maxStates target units

variable {platform findings target units}

theorem firstHit_iff (m : ℕ) : FirstHit (paddedTokens platform findings) target units m ↔
    (∃ word, Pads platform findings target units word ∧ word.length = m) ∧
      ∀ word, Pads platform findings target units word → m ≤ word.length := by
  have hmono : ∀ padding unit, unit ∈ units →
      paddedTokens platform findings padding ≤ paddedTokens platform findings ((· ++ ·) padding unit) :=
    fun padding unit _ => paddedTokens_mono platform padding unit
  have hpads : ∀ word, LevelSearch.Reaches (· ++ ·) "" units (paddedTokens platform findings) target word ↔
      Pads platform findings target units word := fun word => Iff.rfl
  have hshortest : LevelSearch.Shortest (· ++ ·) "" units (paddedTokens platform findings) target m ↔
      FirstHit (paddedTokens platform findings) target units m := LevelSearch.shortest_iff hmono m
  rw [LevelSearch.Shortest] at hshortest
  simp only [hpads] at hshortest
  exact hshortest.symm

theorem firstHit_unique {m n : ℕ} (hm : FirstHit (paddedTokens platform findings) target units m)
    (hn : FirstHit (paddedTokens platform findings) target units n) : m = n := by
  obtain ⟨⟨word,hword,rfl⟩,hfirst⟩ := (firstHit_iff m).mp hm
  obtain ⟨⟨other,hother,rfl⟩,hfirst'⟩ := (firstHit_iff n).mp hn
  exact le_antisymm (hfirst other hother) (hfirst' word hword)

theorem exists_firstHit {word : List String} (h : Pads platform findings target units word) :
    ∃ m, FirstHit (paddedTokens platform findings) target units m := by
  obtain ⟨m,hm⟩ := LevelSearch.exists_shortest h
  exact ⟨m,(firstHit_iff m).mpr hm⟩

variable {neutralPadUnits : List String} {padUnitSetSha256 : String}

theorem paddingSearch_searched (platform : Platform) (findings : List VerifierFinding) (target : ℤ)
    (hunits : validatedPadUnits neutralPadUnits = .ok units)
    (hdigest : isSha256 padUnitSetSha256 = true) :
    ∃ result, Searched (paddedTokens platform findings) target units result ∧
      paddingSearch platform findings target neutralPadUnits padUnitSetSha256 = result.map fun found => (found.1,{
        padUnitSetSha256
        targetTokenCount := target
        statesExplored := found.2.2
        selectedUnitCounts := units.zip found.2.1
        searchAlgorithm := "exact_dynamic_program_v1"}) := by
  obtain ⟨hnodup,-⟩ := mem_validatedPadUnits hunits
  refine ⟨searchLevels (paddedTokens platform findings) target units [("",units.map fun _ => 0)] 0,?_,?_⟩
  · exact searchLevels_searched hnodup _ 0 0 atLevel_zero rfl fun i hi => absurd hi (Nat.not_lt_zero i)
  · rw [paddingSearch,hunits,ok_bind,hdigest]
    rfl

theorem exact_within (hunits : validatedPadUnits neutralPadUnits = .ok units)
    (hdigest : isSha256 padUnitSetSha256 = true)
    (hexact : PaddingExact platform findings target units
      (paddingSearch platform findings target neutralPadUnits padUnitSetSha256)) :
    WithinStates platform findings target units := by
  intro m hsome hfirst
  have hhit : FirstHit (paddedTokens platform findings) target units m := (firstHit_iff m).mpr ⟨hsome,hfirst⟩
  obtain ⟨result,hsearched,hresult⟩ := paddingSearch_searched platform findings target hunits hdigest
  obtain ⟨word,hword,-⟩ := hsome
  obtain ⟨padding,receipt,hok⟩ := hexact.finds word hword
  cases result with
  | error e =>
    rw [hok] at hresult
    cases hresult
  | ok found =>
    obtain ⟨n,-,-,hn,hstates,-⟩ := hsearched.returned found rfl
    rwa [firstHit_unique hhit hn]

theorem within_exact (hunits : validatedPadUnits neutralPadUnits = .ok units)
    (hdigest : isSha256 padUnitSetSha256 = true) (hwithin : WithinStates platform findings target units) :
    PaddingExact platform findings target units
      (paddingSearch platform findings target neutralPadUnits padUnitSetSha256) := by
  obtain ⟨result,hsearched,hresult⟩ := paddingSearch_searched platform findings target hunits hdigest
  have hnone : ∀ e, result = .error e → ∀ word, ¬ Pads platform findings target units word := by
    intro e he word hword
    obtain ⟨m,hm⟩ := exists_firstHit hword
    obtain ⟨hsome,hfirst⟩ := (firstHit_iff m).mp hm
    exact absurd (hwithin m hsome hfirst) (not_lt_of_ge ((hsearched.raised e he).2 m hm))
  rw [hresult]
  cases result with
  | error e =>
    refine ⟨fun word hword => absurd hword (hnone e rfl word),fun _ _ h => (by cases h),?_,fun _ _ h => (by cases h)⟩
    intro e' he
    cases he
    exact ⟨(hsearched.raised e rfl).1,hnone e rfl⟩
  | ok found =>
    obtain ⟨m,hlevel,htarget,hm,-,word,hword,hjoin,hcounts⟩ := hsearched.returned found rfl
    refine ⟨fun _ _ => ⟨_,_,rfl⟩,?_,fun _ h => (by cases h),?_⟩
    · intro padding receipt h
      cases h
      obtain ⟨shortest,hlength,hshortest,hvalue⟩ := LevelSearch.word_of_level hlevel
      have hjoined : String.join shortest = found.1 := hvalue
      refine ⟨shortest,⟨hshortest,by rw [hjoined,htarget]⟩,hjoined,fun other hother => ?_⟩
      rw [hlength]
      exact ((firstHit_iff m).mp hm).2 other hother
    · intro padding receipt h
      cases h
      refine ⟨word,hword,hjoin,?_⟩
      rw [hcounts]
      exact List.map_prod_left_eq_zip.symm

theorem padding_search_exact_iff (hunits : validatedPadUnits neutralPadUnits = .ok units)
    (hdigest : isSha256 padUnitSetSha256 = true) :
    PaddingExact platform findings target units
      (paddingSearch platform findings target neutralPadUnits padUnitSetSha256) ↔
    WithinStates platform findings target units :=
  ⟨exact_within hunits hdigest,within_exact hunits hdigest⟩

end Exactness

section Sample

def plainFinding : VerifierFinding where
  findingId := "f1"
  component := "parser"
  code := "c1"
  severity := "low"
  atoms := [.literal "seen"]
  named := by decide
  nonempty := by decide

theorem silence_size : (List.replicate 32 (0 : UInt8)).length = 32 := rfl

def silentPlatform : Platform where
  sha256 _ := ⟨List.replicate 32 0,silence_size⟩
  hmac _ _ := ⟨List.replicate 32 0,silence_size⟩
  normalized _ := true
  otherCategory _ := false
  floatRepr := id

def dotUnits : List String := [" ","."]

def padDigest : String := (silentPlatform.sha256 []).hex

theorem dotUnits_accepted : validatedPadUnits dotUnits = .ok dotUnits := by
  have hsorted : (dotUnits.dedup).mergeSort utf8Le = dotUnits := by
    have hdedup : dotUnits.dedup = dotUnits := by decide
    rw [hdedup]
    apply List.mergeSort_of_pairwise
    decide
  rw [validatedPadUnits,hsorted]
  decide

theorem plain_tokens (padding : String) : paddedTokens silentPlatform [plainFinding] padding =
    1 + wordEnds true (padding.toList.flatMap Json.escape) := by
  have hempty : emptyTokens [plainFinding] = 1 := by decide +kernel
  rw [paddedTokens_eq,hempty]
  rfl

theorem dotUnits_plain : ∀ unit ∈ dotUnits, unit.toList.flatMap Json.escape = unit.toList ∧ unit.toList.length = 1 := by
  intro unit hunit
  obtain rfl | hunit := List.mem_cons.mp hunit
  · decide
  · obtain rfl := List.mem_singleton.mp hunit
    decide

theorem dots_plain {word : List String} (h : ∀ unit ∈ word, unit ∈ dotUnits) :
    (word.flatMap String.toList).flatMap Json.escape = word.flatMap String.toList ∧
      (word.flatMap String.toList).length = word.length := by
  induction word with
  | nil => exact ⟨rfl,rfl⟩
  | cons unit rest ih =>
    obtain ⟨hescape,hlength⟩ := dotUnits_plain unit (h unit List.mem_cons_self)
    obtain ⟨hrest,hrestLength⟩ := ih fun other hother => h other (List.mem_cons_of_mem _ hother)
    rw [List.flatMap_cons,List.flatMap_append,hescape,hrest,List.length_append,hlength,hrestLength,List.length_cons]
    exact ⟨rfl,Nat.add_comm _ _⟩

theorem dots_tokens_le {word : List String} (h : ∀ unit ∈ word, unit ∈ dotUnits) :
    2 * paddedTokens silentPlatform [plainFinding] (String.join word) ≤ word.length + 3 := by
  obtain ⟨hescape,hlength⟩ := dots_plain h
  have hle := wordEnds_le true (word.flatMap String.toList)
  rw [hlength,Bool.toNat_true] at hle
  rw [plain_tokens,String.toList_join,hescape]
  omega

theorem dots_long {word : List String} (h : Pads silentPlatform [plainFinding] 6 dotUnits word) : 9 ≤ word.length := by
  have hle := dots_tokens_le h.1
  rw [h.2] at hle
  omega

def nineUnits : List String := [" ","."," ","."," ","."," ","."," "]

theorem nineUnits_pads : Pads silentPlatform [plainFinding] 6 dotUnits nineUnits := by
  refine ⟨by decide,?_⟩
  rw [plain_tokens]
  decide

def dotOf (blank : Bool) : String := if blank then " " else "."

def dotWord (v : Fin 8 → Bool) : List String := (List.ofFn v).map dotOf

theorem dotWord_units (v : Fin 8 → Bool) : ∀ unit ∈ dotWord v, unit ∈ dotUnits := by
  intro unit hunit
  obtain ⟨blank,-,rfl⟩ := List.mem_map.mp hunit
  cases blank with
  | false => decide
  | true => decide

theorem dotWord_length (v : Fin 8 → Bool) : (dotWord v).length = 8 := by
  rw [dotWord,List.length_map,List.length_ofFn]

theorem dotWord_injective : Function.Injective fun v => String.join (dotWord v) := by
  intro v w h
  have hchars (u : Fin 8 → Bool) :
      (String.join (dotWord u)).toList = (List.ofFn u).map fun blank => if blank then ' ' else '.' := by
    rw [String.toList_join,dotWord,List.flatMap_map,List.map_eq_flatMap]
    apply List.flatMap_congr
    intro blank _
    cases blank with
    | false => rfl
    | true => rfl
  have hlists := congrArg String.toList h
  dsimp only at hlists
  rw [hchars,hchars] at hlists
  exact List.ofFn_injective (List.map_injective_iff.mpr (by decide) hlists)

theorem level_eight (v : Fin 8 → Bool) :
    String.join (dotWord v) ∈ paddingLevel (paddedTokens silentPlatform [plainFinding]) 6 dotUnits 8 := by
  have hle := dots_tokens_le (dotWord_units v)
  rw [dotWord_length] at hle
  have hmono : ∀ padding unit, unit ∈ dotUnits → paddedTokens silentPlatform [plainFinding] padding ≤
      paddedTokens silentPlatform [plainFinding] ((· ++ ·) padding unit) :=
    fun padding unit _ => paddedTokens_mono silentPlatform padding unit
  have hbelow : paddedTokens silentPlatform [plainFinding] (LevelSearch.value (· ++ ·) "" (dotWord v)) ≤ 6 := by
    have hvalue : LevelSearch.value (· ++ ·) "" (dotWord v) = String.join (dotWord v) := rfl
    rw [hvalue]
    omega
  have hmem := LevelSearch.mem_level hmono (dotWord v) (dotWord_units v) hbelow fun other hother => by
    have hlong := dots_long hother
    rw [dotWord_length]
    omega
  rwa [dotWord_length] at hmem

theorem nine_states : 256 ≤ statesBefore (paddedTokens silentPlatform [plainFinding]) 6 dotUnits 9 := by
  have hlevel : 256 ≤ (paddingLevel (paddedTokens silentPlatform [plainFinding]) 6 dotUnits 8).ncard := by
    have hrange : (Set.range fun v => String.join (dotWord v)).ncard = 256 := by
      rw [Set.ncard_range_of_injective dotWord_injective]
      simp
    rw [← hrange]
    apply Set.ncard_le_ncard _ (LevelSearch.finite_level 8)
    rintro _ ⟨v,rfl⟩
    exact level_eight v
  have hsucc : statesBefore (paddedTokens silentPlatform [plainFinding]) 6 dotUnits 9 = _ := LevelSearch.statesBefore_succ 8
  rw [hsucc]
  exact hlevel.trans (Nat.le_add_left _ _)

theorem nine_units_missed : ¬ PaddingExact silentPlatform [plainFinding] 6 dotUnits
    (paddingSearch silentPlatform [plainFinding] 6 dotUnits padDigest) := by
  intro hexact
  have hwithin := exact_within dotUnits_accepted (Digest.isSha256_hex _) hexact
  have hstates := hwithin 9 ⟨nineUnits,nineUnits_pads,rfl⟩ fun word hword => dots_long hword
  have hlimit : maxStates 6 dotUnits = 256 := by decide
  have hcount := nine_states
  rw [hlimit] at hstates
  omega

theorem dot_reached : PaddingExact silentPlatform [plainFinding] 2 dotUnits
    (paddingSearch silentPlatform [plainFinding] 2 dotUnits padDigest) := by
  apply (padding_search_exact_iff dotUnits_accepted (Digest.isSha256_hex _)).mpr
  intro m hsome hfirst
  have hone : Pads silentPlatform [plainFinding] 2 dotUnits [" "] := by
    refine ⟨by decide,?_⟩
    rw [plain_tokens]
    decide
  have hmono : statesBefore (paddedTokens silentPlatform [plainFinding]) 2 dotUnits m ≤
      statesBefore (paddedTokens silentPlatform [plainFinding]) 2 dotUnits 1 :=
    LevelSearch.statesBefore_mono (hfirst [" "] hone)
  have hroot : statesBefore (paddedTokens silentPlatform [plainFinding]) 2 dotUnits 1 = 1 := by
    have hlevel : paddingLevel (paddedTokens silentPlatform [plainFinding]) 2 dotUnits 0 = {""} := rfl
    rw [statesBefore,Finset.sum_range_one,hlevel,Set.ncard_singleton]
  have hlimit : maxStates 2 dotUnits = 256 := by decide
  rw [hlimit]
  omega

end Sample

end PneumaLab.ResamplingNull
