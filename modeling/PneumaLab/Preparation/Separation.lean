import Mathlib.Data.UInt
import PneumaLab.Library.JsonScan
import PneumaLab.Preparation.DiversityInventory

namespace PneumaLab.Preparation

open Foundation Traces

section Normal
variable {python : Interpreter}

theorem wordsFrom_unbroken {text : List Char} (htext : ∀ c ∈ text, isSpace c = false) (current : List Char) :
    wordsFrom current text = if current = [] ∧ text = [] then [] else [current.reverse ++ text] := by
  induction text generalizing current with
  | nil =>
    rw [wordsFrom]
    by_cases hcurrent : current = []
    · rw [if_pos hcurrent,if_pos ⟨hcurrent,rfl⟩]
    · rw [if_neg hcurrent,if_neg (fun h => hcurrent h.1),List.append_nil]
  | cons c rest ih =>
    obtain ⟨hc,hrest⟩ := List.forall_mem_cons.mp htext
    rw [wordsFrom,hc,if_neg Bool.false_ne_true,ih hrest,if_neg (fun h => List.cons_ne_nil _ _ h.1),
      if_neg (fun h => List.cons_ne_nil _ _ h.2),List.reverse_cons,List.append_assoc,List.singleton_append]

theorem normalizeIdentityText_unbroken {text : String} (hcasefold : python.casefold text = text)
    (htext : ∀ c ∈ text.toList, isSpace c = false) (hne : text ≠ "") : normalizeIdentityText python text = some text := by
  have hwords : wordsFrom [] text.toList = [text.toList] := by
    rw [wordsFrom_unbroken htext,if_neg (fun h => hne (String.toList_eq_nil_iff.mp h.2))]
    rfl
  rw [normalizeIdentityText,hcasefold,hwords]
  simp only [List.map_cons,List.map_nil,String.ofList_toList,String.intercalate_singleton]
  exact if_neg hne

-- What str.casefold leaves as it is.
def FoldsCase (python : Interpreter) : Prop :=
  ∀ text : String, (∀ c ∈ text.toList, isSpace c = true ∨ (c.toNat < 128 ∧ c.isUpper = false)) → python.casefold text = text

theorem wordsFrom_blank {text : List Char} (htext : ∀ c ∈ text, isSpace c = true) : wordsFrom [] text = [] := by
  induction text with
  | nil => rfl
  | cons c rest ih =>
    obtain ⟨hc,hrest⟩ := List.forall_mem_cons.mp htext
    rw [wordsFrom,if_pos hc,if_pos rfl]
    exact ih hrest

theorem hasText_of_normal (hfolds : FoldsCase python) {text key : String} (h : normalizeIdentityText python text = some key) :
    hasText text = true := by
  by_contra hblank
  rw [hasText,List.any_eq_true] at hblank
  push Not at hblank
  have hspace : ∀ c ∈ text.toList, isSpace c = true := by
    intro c hc
    simpa using hblank c hc
  have hempty : " ".intercalate (List.map String.ofList []) = "" := rfl
  rw [normalizeIdentityText,hfolds text fun c hc => .inl (hspace c hc),wordsFrom_blank hspace,if_pos hempty] at h
  cases h

theorem hex_plain (digest : Digest) : ∀ c ∈ digest.hex.toList, c ∈ lowerHex := by
  have hhex := digest.isSha256_hex
  rw [isSha256,Bool.and_eq_true,List.all_eq_true] at hhex
  exact fun c hc => of_decide_eq_true (hhex.2 c hc)

theorem repoDigest_mem {repo : String} {c : Char} (hc : c ∈ (repoDigest python repo).toList) :
    c ∈ digestStart.toList ++ lowerHex := by
  rw [repoDigest,String.toList_append,List.mem_append] at hc
  rcases hc with hc | hc
  · exact List.mem_append_left _ hc
  · exact List.mem_append_right _ (hex_plain _ c hc)

theorem repoDigest_plain {repo : String} {c : Char} (hc : c ∈ (repoDigest python repo).toList) :
    isSpace c = false ∧ c.isUpper = false ∧ 32 ≤ c.toNat ∧ c.toNat < 127 := by
  have hall : (digestStart.toList ++ lowerHex).all (fun c =>
      !isSpace c && !c.isUpper && decide (32 ≤ c.toNat) && decide (c.toNat < 127)) = true := by decide
  have hplain := List.all_eq_true.mp hall c (repoDigest_mem hc)
  simp only [Bool.and_eq_true,Bool.not_eq_true',decide_eq_true_eq] at hplain
  exact ⟨hplain.1.1.1,hplain.1.1.2,hplain.1.2,hplain.2⟩

theorem repoDigest_unspaced (repo : String) : ∀ c ∈ (repoDigest python repo).toList, isSpace c = false :=
  fun _ hc => (repoDigest_plain hc).1

theorem repoDigest_normal (hfolds : FoldsCase python) (repo : String) :
    normalizeIdentityText python (repoDigest python repo) = some (repoDigest python repo) := by
  have hascii : ∀ c ∈ (repoDigest python repo).toList, c.toNat < 128 ∧ c.isUpper = false := by
    intro c hc
    obtain ⟨-,hlower,-,hbound⟩ := repoDigest_plain hc
    exact ⟨by omega,hlower⟩
  refine normalizeIdentityText_unbroken (hfolds _ fun c hc => .inr (hascii c hc))
    (repoDigest_unspaced repo) ?_
  intro hempty
  have hchars := congrArg String.toList hempty
  rw [repoDigest,String.toList_append] at hchars
  exact absurd (List.append_eq_nil_iff.mp hchars).1 (by decide)

theorem repoDigest_chars (repo : String) :
    (repoDigest python repo).toList = digestStart.toList ++ hexChars (python.sha256 (utf8 repo)).bytes := by
  rw [repoDigest,sha256Hex,Digest.hex,String.toList_append,String.toList_ofList]

theorem hex_ne_nil (digest : Digest) : digest.hex ≠ "" := by
  intro hempty
  have hhex := digest.isSha256_hex
  rw [hempty] at hhex
  exact absurd hhex (by decide)

theorem hex_normal (hfolds : FoldsCase python) (digest : Digest) :
    python.casefold digest.hex = digest.hex ∧ normalizeIdentityText python digest.hex = some digest.hex := by
  have hall : lowerHex.all (fun c => !isSpace c && !c.isUpper && decide (c.toNat < 128)) = true := by decide
  have hplain : ∀ c ∈ digest.hex.toList, isSpace c = false ∧ c.isUpper = false ∧ c.toNat < 128 := by
    intro c hc
    have h := List.all_eq_true.mp hall c (hex_plain digest c hc)
    simp only [Bool.and_eq_true,Bool.not_eq_true',decide_eq_true_eq] at h
    exact ⟨h.1.1,h.1.2,h.2⟩
  have hfold := hfolds _ fun c hc => .inr ⟨(hplain c hc).2.2,(hplain c hc).2.1⟩
  exact ⟨hfold,normalizeIdentityText_unbroken hfold (fun c hc => (hplain c hc).1) (hex_ne_nil digest)⟩

theorem digestText_digest (hfolds : FoldsCase python) (text : String) :
    digestText python (repoDigest python text) = (python.sha256 (utf8 text)).hex := by
  have hstart : "sha256:".toList.isPrefixOf (repoDigest python text).toList = true := by
    rw [repoDigest,String.toList_append,List.isPrefixOf_iff_prefix]
    exact List.prefix_append _ _
  have hdrop : String.ofList ((repoDigest python text).toList.drop 7) = (python.sha256 (utf8 text)).hex := by
    rw [repoDigest_chars]
    rfl
  have hhex : isHexDigest (python.sha256 (utf8 text)).hex.toList = true := (python.sha256 (utf8 text)).isSha256_hex
  rw [digestText,hstart,hdrop,(hex_normal hfolds _).1,hhex]
  rfl

theorem normalizedDigest_text (hfolds : FoldsCase python) (text : String) :
    normalizedDigest python (some (digestText python (repoDigest python text))) = .str (repoDigest python text) := by
  have hplain : digestStart.toList.isPrefixOf (python.sha256 (utf8 text)).hex.toList = false := by
    rw [Bool.eq_false_iff]
    intro hprefix
    obtain ⟨rest,hrest⟩ := List.isPrefixOf_iff_prefix.mp hprefix
    have hmem := hex_plain (python.sha256 (utf8 text)) 's' (by rw [← hrest]; exact List.mem_cons_self)
    exact absurd hmem (by decide)
  rw [digestText_digest hfolds,normalizedDigest,normalizeIdentityDigest,Option.bind_some,(hex_normal hfolds _).2]
  simp only [Option.map_some,prefixedDigest,hplain,Bool.false_and,Bool.false_eq_true,if_false,Digest.isSha256_hex,if_true]
  rfl

theorem normalizedText_digest (hfolds : FoldsCase python) (repo : String) :
    normalizedText python (some (repoDigest python repo)) = .str (repoDigest python repo) := by
  rw [normalizedText,Option.bind_some,repoDigest_normal hfolds,Option.getD_some]

theorem strip_unspaced {text : String} (htext : ∀ c ∈ text.toList, isSpace c = false) : strip text = text := by
  have hdrop : ∀ chars : List Char, (∀ c ∈ chars, isSpace c = false) → chars.dropWhile isSpace = chars := by
    intro chars hchars
    cases chars with
    | nil => rfl
    | cons c rest => exact List.dropWhile_cons_of_neg (by rw [hchars c List.mem_cons_self]; exact Bool.false_ne_true)
  rw [strip,stripChars,hdrop _ htext,hdrop _ fun c hc => htext c (List.mem_reverse.mp hc),List.reverse_reverse,
    String.ofList_toList]

theorem canonicalizeRepo_digest (repo : String) :
    canonicalizeRepo python (repoDigest python repo) = repoDigest python repo := by
  have hstart : digestStart.toList.isPrefixOf (repoDigest python repo).toList = true := by
    rw [repoDigest,String.toList_append,List.isPrefixOf_iff_prefix]
    exact List.prefix_append _ _
  rw [canonicalizeRepo,strip_unspaced (repoDigest_unspaced repo),if_pos hstart]

end Normal

section Rendered
variable {python : Interpreter} {runtime : ShardRuntime} {encode : String → List ℕ} {receipts : List String}

theorem renderRecord_train {example_ record : Json} {assignment : Assignment} {laneId : String}
    (h : renderRecord python runtime encode receipts example_ assignment laneId = .ok record) :
    isTrain record = true ↔ assignment.splitId = "train" ∧ assignment.quarantineId = none := by
  simp only [renderRecord,bind_eq_ok,required_eq_ok,pure,Except.pure,Except.ok.injEq] at h
  obtain ⟨disposition,hdisposition,_,hrender,_,_,rfl⟩ := h
  obtain ⟨parts,hparts,rfl⟩ := renderFoundationRecord_ok hrender
  obtain ⟨_,hsplit⟩ := getField_ok (renderedParts_ok hparts).splitId
  obtain ⟨_,hquarantine⟩ := getField_ok (renderedParts_ok hparts).quarantineId
  have hsplit : parts.splitId = assignment.splitId := Json.str.inj hsplit
  have hquarantine : parts.quarantineId = assignment.quarantineId.elim .null .str := hquarantine
  have hlane : disposition.terminalRole.value = "train" ∧ disposition.gradientEligibility.value ∈ ["first_stage","later"] := by
    have hmem := mem_of_lookup hdisposition
    simp only [laneDispositions,List.mem_cons,Prod.mk.injEq,List.not_mem_nil,or_false] at hmem
    obtain ⟨_,rfl⟩ | ⟨_,rfl⟩ := hmem
    · exact ⟨rfl,List.mem_cons_self⟩
    · exact ⟨rfl,List.mem_cons_of_mem _ List.mem_cons_self⟩
  have hfields : isTrain (parts.record python (contextOf runtime encode receipts disposition assignment)) =
      (decide (some (Json.str parts.splitId) = some (.str "train")) && decide (some parts.quarantineId = some .null) &&
        decide (some (Json.str disposition.terminalRole.value) = some (.str "train")) &&
          oneOf [.str "first_stage",.str "later"] (.str disposition.gradientEligibility.value)) := rfl
  have heligible : oneOf [.str "first_stage",.str "later"] (.str disposition.gradientEligibility.value) = true := by
    rw [oneOf,decide_eq_true_eq]
    simpa using hlane.2
  rw [hfields,heligible,hlane.1,hsplit,hquarantine]
  simp only [Option.some.injEq,Json.str.injEq,decide_true,Bool.and_true,Bool.and_eq_true,decide_eq_true_eq,
    and_congr_right_iff]
  intro _
  cases assignment.quarantineId <;> simp

end Rendered

section Lanes
variable (python : Interpreter)

def repoField : Lane → String → String
  | .openHands,name => name
  | .openSweTraces,name => OpenSweTraces.digest python name

def laneId : Lane → String
  | .openHands => openHandsLaneId
  | .openSweTraces => ostLaneId

structure LaneExample where
  lane : Lane
  name : String
  example_ : Json
  carried : fieldAt example_ "split_group" "repo" = some (.str (repoField python lane name))

variable {python}

def LaneExample.repo (held : LaneExample python) : String := repoField python held.lane held.name

def LaneExample.digest (held : LaneExample python) : String := canonicalizeRepo python held.repo

def laneRepos (lane : Lane) (examples : List (LaneExample python)) : List String :=
  (examples.filter fun held => held.lane = lane).map LaneExample.repo

end Lanes

structure Stage (python : Interpreter) (runtime : ShardRuntime) (encode : String → List ℕ) where
  examples : List (LaneExample python)
  evaluations : List (Option String)
  leakageDigests : List String
  sourceReceiptHashes : List String
  quarantinedRepos : List String
  assignments : List Assignment
  records : List Json
  leakage : leakageDigests = checkOverlap python (laneRepos .openHands examples) (laneRepos .openSweTraces examples)
  quarantined : evalOverlapQuarantine python true evaluations = .ok quarantinedRepos
  assigned : splitAssignments python quarantinedRepos leakageDigests [] (examples.map LaneExample.example_) = .ok assignments
  rendered : renderRecords python runtime encode sourceReceiptHashes (examples.map LaneExample.example_) assignments
    (examples.map fun held => laneId held.lane) = .ok records

def SameRepository (python : Interpreter) (left right : String) : Prop :=
  ∃ key, normalizeIdentityText python left = some key ∧ normalizeIdentityText python right = some key

def LaneExample.ownSplit {python : Interpreter} (held : LaneExample python) : Option String :=
  (normalizeIdentityText python held.repo).map (splitFromCanonicalRepo python)

namespace Stage
variable {python : Interpreter} {runtime : ShardRuntime} {encode : String → List ℕ} (stage : Stage python runtime encode)

def Assigned (held : LaneExample python) (assignment : Assignment) : Prop :=
  assign python stage.quarantinedRepos stage.leakageDigests held.example_ = .ok assignment

def Behind (held : LaneExample python) (record : Json) : Prop :=
  ∃ assignment, stage.Assigned held assignment ∧
    renderRecord python runtime encode stage.sourceReceiptHashes held.example_ assignment (laneId held.lane) = .ok record

structure KeptApart (selection : List Json) : Prop where
  evaluation : ∀ held ∈ stage.examples, ∀ record ∈ selection, stage.Behind held record →
    ∀ name, some name ∈ stage.evaluations → ¬ SameRepository python held.name name
  heldOut : ∀ held ∈ stage.examples, ∀ record ∈ selection, stage.Behind held record →
    ∀ other ∈ stage.examples, ∀ assignment, stage.Assigned other assignment →
      assignment.splitId ∈ ["validation","held_out"] → ¬ SameRepository python held.name other.name

structure Trainable (held : LaneExample python) : Prop where
  kept : ∃ record ∈ stage.records, stage.Behind held record
  split : held.ownSplit = some "train"
  spared : ∀ key, normalizeIdentityText python held.repo = some key →
    quarantineOf python stage.quarantinedRepos stage.leakageDigests held.repo key = none

structure SpelledAlike : Prop where
  evaluation : ∀ held ∈ stage.examples, stage.Trainable held → held.lane = .openSweTraces →
    ∀ name, some name ∈ stage.evaluations → SameRepository python held.name name →
      held.digest = canonicalizeRepo python name
  heldOut : ∀ held ∈ stage.examples, stage.Trainable held → ∀ other ∈ stage.examples,
    other.ownSplit ∈ [some "validation",some "held_out"] → held.lane = .openSweTraces ∨ other.lane = .openSweTraces →
      SameRepository python held.name other.name → held.digest = other.digest

section Assigned
variable {stage}

theorem assigned_of_mem {held : LaneExample python} (hheld : held ∈ stage.examples) :
    ∃ assignment, stage.Assigned held assignment := by
  have hassigned := splitAssignments_ok stage.assigned
  obtain ⟨index,hindex,hget⟩ := List.mem_iff_getElem.mp (List.mem_map_of_mem (f := LaneExample.example_) hheld)
  have hlength : index < stage.assignments.length := hassigned.length_eq ▸ hindex
  refine ⟨stage.assignments[index],?_⟩
  have hone := hassigned.get hindex hlength
  simp only [List.get_eq_getElem,hget] at hone
  exact hone

structure AssignedParts (stage : Stage python runtime encode) (held : LaneExample python) (assignment : Assignment) : Prop where
  normal : normalizeIdentityText python held.repo = some assignment.canonicalRepo
  split : assignment.splitId = splitFromCanonicalRepo python assignment.canonicalRepo
  quarantine : assignment.quarantineId =
    quarantineOf python stage.quarantinedRepos stage.leakageDigests held.repo assignment.canonicalRepo

theorem assigned_parts {held : LaneExample python} {assignment : Assignment} (h : stage.Assigned held assignment) :
    AssignedParts stage held assignment := by
  obtain ⟨hfield,hnormal,hsplit,hquarantine⟩ := assign_ok h
  have hrepo : assignment.repo = held.repo := Json.str.inj (Option.some.inj (hfield.symm.trans held.carried))
  rw [hrepo] at hnormal hquarantine
  exact ⟨hnormal,hsplit,hquarantine⟩

theorem ownSplit_of_assigned {held : LaneExample python} {assignment : Assignment} (h : stage.Assigned held assignment) :
    held.ownSplit = some assignment.splitId := by
  rw [LaneExample.ownSplit,(assigned_parts h).normal,(assigned_parts h).split]
  rfl

theorem train_iff {held : LaneExample python} {record : Json} (hrecord : record ∈ stage.records)
    (hbehind : stage.Behind held record) : isTrain record = true ↔ stage.Trainable held := by
  obtain ⟨assignment,hassigned,hrender⟩ := id hbehind
  have hparts := assigned_parts hassigned
  rw [renderRecord_train hrender]
  constructor
  · rintro ⟨hsplit,hquarantine⟩
    refine ⟨⟨record,hrecord,hbehind⟩,(ownSplit_of_assigned hassigned).trans (congrArg some hsplit),?_⟩
    intro key hkey
    rw [← Option.some.inj (hparts.normal.symm.trans hkey),← hparts.quarantine]
    exact hquarantine
  · intro htrainable
    exact ⟨Option.some.inj ((ownSplit_of_assigned hassigned).symm.trans htrainable.split),
      hparts.quarantine.trans (htrainable.spared _ hparts.normal)⟩

theorem quarantineOf_repo {repos digests : List String} {repo key : String} (hkey : key ∈ repos) :
    quarantineOf python repos digests repo key ≠ none := by
  rw [quarantineOf,if_pos hkey]
  exact Option.some_ne_none _

theorem quarantineOf_leakage {repos digests : List String} {repo key : String}
    (hdigest : canonicalizeRepo python repo ∈ digests) : quarantineOf python repos digests repo key ≠ none := by
  rw [quarantineOf]
  split
  · exact Option.some_ne_none _
  · rw [if_pos ⟨List.ne_nil_of_mem hdigest,hdigest⟩]
    exact Option.some_ne_none _

theorem digest_of_openSweTraces {held : LaneExample python} (hlane : held.lane = .openSweTraces) :
    held.repo = repoDigest python held.name ∧ held.digest = held.repo := by
  have hrepo : held.repo = repoDigest python held.name := by
    rw [LaneExample.repo,hlane]
    rfl
  rw [LaneExample.digest,hrepo]
  exact ⟨rfl,canonicalizeRepo_digest held.name⟩

theorem repo_of_openHands {held : LaneExample python} (hlane : held.lane = .openHands) : held.repo = held.name := by
  rw [LaneExample.repo,hlane]
  rfl

theorem mem_laneDigests {held : LaneExample python} (hheld : held ∈ stage.examples) :
    held.digest ∈ (laneRepos held.lane stage.examples).map (canonicalizeRepo python) :=
  List.mem_map_of_mem (List.mem_map_of_mem (List.mem_filter.mpr ⟨hheld,decide_eq_true rfl⟩))

theorem shared_leaks {held other : LaneExample python} (hheld : held ∈ stage.examples) (hother : other ∈ stage.examples)
    (hlanes : held.lane ≠ other.lane) (hdigest : held.digest = other.digest) : held.digest ∈ stage.leakageDigests := by
  have hmine := mem_laneDigests hheld
  have htheirs := mem_laneDigests hother
  rw [← hdigest] at htheirs
  rw [stage.leakage,checkOverlap_mem]
  cases hlane : held.lane <;> cases hotherLane : other.lane <;> rw [hlane] at hmine hlanes <;> rw [hotherLane] at htheirs hlanes
  · exact absurd rfl hlanes
  · exact ⟨hmine,htheirs⟩
  · exact ⟨htheirs,hmine⟩
  · exact absurd rfl hlanes

theorem apart_from_evaluation (hfolds : FoldsCase python) (halike : stage.SpelledAlike) {held : LaneExample python}
    (hheld : held ∈ stage.examples) (htrainable : stage.Trainable held) {name : String}
    (hname : some name ∈ stage.evaluations) : ¬ SameRepository python held.name name := by
  rintro ⟨key,hkey,hnameKey⟩
  obtain ⟨⟨evaluationKey,hevaluationKey,hmem⟩,hdigestMem⟩ :=
    evalOverlapQuarantine_mem stage.quarantined hname (hasText_of_normal hfolds hnameKey)
  cases Option.some.inj (hevaluationKey.symm.trans hnameKey)
  cases hlane : held.lane with
  | openHands =>
    rw [← repo_of_openHands hlane] at hkey
    exact quarantineOf_repo hmem (htrainable.spared key hkey)
  | openSweTraces =>
    obtain ⟨hrepo,hdigest⟩ := digest_of_openSweTraces hlane
    have hsame := halike.evaluation held hheld htrainable hlane name hname ⟨key,hkey,hnameKey⟩
    rw [← hsame,hdigest,hrepo] at hdigestMem
    have hnormal := repoDigest_normal hfolds held.name
    rw [← hrepo] at hnormal
    exact quarantineOf_repo hdigestMem (hrepo ▸ htrainable.spared _ hnormal)

theorem apart_from_heldOut (halike : stage.SpelledAlike) {held other : LaneExample python} (hheld : held ∈ stage.examples)
    (htrainable : stage.Trainable held) (hother : other ∈ stage.examples)
    (hsplit : other.ownSplit ∈ [some "validation",some "held_out"]) : ¬ SameRepository python held.name other.name := by
  rintro ⟨key,hkey,hotherKey⟩
  have hrepos : held.repo ≠ other.repo := by
    intro hrepo
    have hsame : held.ownSplit = other.ownSplit := congrArg
      (fun repo => (normalizeIdentityText python repo).map (splitFromCanonicalRepo python)) hrepo
    rw [← hsame,htrainable.split] at hsplit
    exact absurd hsplit (by decide)
  by_cases hdigestLane : held.lane = .openSweTraces ∨ other.lane = .openSweTraces
  · have hdigest := halike.heldOut held hheld htrainable other hother hsplit hdigestLane ⟨key,hkey,hotherKey⟩
    by_cases hlanes : held.lane = other.lane
    · have hheldLane : held.lane = .openSweTraces := hdigestLane.elim id hlanes.trans
      obtain ⟨_,hmine⟩ := digest_of_openSweTraces hheldLane
      obtain ⟨_,htheirs⟩ := digest_of_openSweTraces (hlanes.symm.trans hheldLane)
      exact hrepos (hmine.symm.trans (hdigest.trans htheirs))
    · obtain ⟨assignment,hassigned⟩ := assigned_of_mem hheld
      exact quarantineOf_leakage (shared_leaks hheld hother hlanes hdigest)
        (htrainable.spared _ (assigned_parts hassigned).normal)
  · have hraw : ∀ lane : Lane, lane ≠ .openSweTraces → lane = .openHands := by
      rintro (_ | _) hlane
      · rfl
      · exact absurd rfl hlane
    obtain ⟨hheldLane,hotherLane⟩ := not_or.mp hdigestLane
    have hmine := repo_of_openHands (hraw _ hheldLane)
    have htheirs := repo_of_openHands (hraw _ hotherLane)
    have hsame : held.ownSplit = other.ownSplit := by
      rw [LaneExample.ownSplit,LaneExample.ownSplit,hmine,htheirs,hkey,hotherKey]
    rw [← hsame,htrainable.split] at hsplit
    exact absurd hsplit (by decide)

end Assigned

theorem kept_apart_iff (stage : Stage python runtime encode) (hfolds : FoldsCase python)
    (hselects : ∃ tokenCeiling selection,
      selectCompleteRecords runtime.schemaMessage tokenCeiling stage.records = .ok selection) :
    (∀ tokenCeiling selection, selectCompleteRecords runtime.schemaMessage tokenCeiling stage.records = .ok selection →
      stage.KeptApart selection) ↔ stage.SpelledAlike := by
  constructor
  · intro hapart
    obtain ⟨_,_,hselected⟩ := hselects
    obtain ⟨ceiling,hall⟩ := select_everything hselected
    have hkept := hapart ceiling _ hall
    refine ⟨?_,?_⟩
    · intro held hheld htrainable _ name hname hsame
      obtain ⟨record,hrecord,hbehind⟩ := htrainable.kept
      have htrain := mem_trainRecords.mpr ⟨hrecord,(train_iff hrecord hbehind).mpr htrainable⟩
      exact absurd hsame (hkept.evaluation held hheld record htrain hbehind name hname)
    · intro held hheld htrainable other hother hsplit _ hsame
      obtain ⟨record,hrecord,hbehind⟩ := htrainable.kept
      have htrain := mem_trainRecords.mpr ⟨hrecord,(train_iff hrecord hbehind).mpr htrainable⟩
      obtain ⟨assignment,hassigned⟩ := assigned_of_mem hother
      rw [ownSplit_of_assigned hassigned] at hsplit
      exact absurd hsame (hkept.heldOut held hheld record htrain hbehind other hother assignment hassigned
        (by simpa using hsplit))
  · intro halike tokenCeiling selection hselected
    have htrainable : ∀ held record, record ∈ selection → stage.Behind held record → stage.Trainable held := by
      intro held record hrecord hbehind
      obtain ⟨hmem,htrain⟩ := selected_train hselected hrecord
      exact (train_iff hmem hbehind).mp htrain
    refine ⟨?_,?_⟩
    · intro held hheld record hrecord hbehind name hname
      exact apart_from_evaluation hfolds halike hheld (htrainable held record hrecord hbehind) hname
    · intro held hheld record hrecord hbehind other hother assignment hassigned hsplit
      refine apart_from_heldOut halike hheld (htrainable held record hrecord hbehind) hother ?_
      rw [ownSplit_of_assigned hassigned]
      simpa using hsplit

end Stage

section Sample

def mixedCaseDigest : Digest where
  bytes := [
    0xd4,0xd8,0x34,0xd0,0x26,0x75,0x5c,0x4e,0x59,0x69,0x27,0x7c,0x40,0x8a,0xa9,0x53,
    0xb1,0xa5,0x37,0xb7,0x3e,0xed,0xfd,0x14,0xf4,0xed,0x6e,0x9a,0x68,0x5f,0x76,0x8b]
  size := rfl

def lowerCaseDigest : Digest where
  bytes := [
    0x73,0xcf,0x18,0xb9,0x03,0x81,0x1a,0x5f,0xa0,0x88,0x11,0x4c,0xb5,0x5a,0x52,0x0d,
    0x9f,0x42,0xe7,0x1f,0x7a,0x65,0x30,0xd1,0x34,0x7e,0xdb,0x4a,0x04,0x83,0x01,0x6d]
  size := rfl

def keyDigest : Digest where
  bytes := [
    0x48,0xe7,0xe1,0x06,0xf0,0x63,0x8d,0x18,0xea,0xfd,0xa3,0xac,0x28,0xaf,0x06,0xe0,
    0x12,0x15,0x42,0x85,0xc4,0xca,0xca,0xa9,0x59,0x63,0x5c,0x23,0x89,0x4b,0xf0,0xbb]
  size := rfl

theorem checksum_size (byte : UInt8) : (List.replicate 31 0 ++ [byte]).length = 32 := rfl

-- SHA-256 on the texts that decide the split, a checksum elsewhere.
def djangoSha256 (raw : Bytes) : Digest :=
  if raw = utf8 "Django/Django" then mixedCaseDigest
  else if raw = utf8 "django/django" then lowerCaseDigest
  else if raw = utf8 (digestStart ++ mixedCaseDigest.hex) then keyDigest
  else ⟨List.replicate 31 0 ++ [raw.sum],checksum_size _⟩

def djangoInterpreter : Interpreter := { sampleInterpreter with
  sha256 := djangoSha256
  casefold text := String.ofList (text.toList.map Char.toLower) }

def djangoDigest : String := OpenSweTraces.digest djangoInterpreter "Django/Django"

def instanceName (resolved : Bool) : String := if resolved then "django__django-1" else "django__django-2"

def issueText (resolved : Bool) : String := if resolved then "fix" else "add"

def instanceDigest (resolved : Bool) : String := OpenSweTraces.digest djangoInterpreter (instanceName resolved)

def djangoInput (resolved : Bool) : Json := .obj [
  ("dataset",.obj [
    ("dataset_family",.str "open-swe-traces"),
    ("dataset_id",.str "open-swe-traces"),
    ("hf_revision",.str OpenSweTraces.sourceRevision),
    ("source_group",.str "qwen35_openhands_trajectories")]),
  ("feature_refs",featureRefs OpenSweTraces.converterVersion),
  ("language",.str "python"),
  ("objective",.obj [
    ("mode",.str "digest_only"),("present",.bool true),("text_length",.int 3),
    ("text_sha256",.str (OpenSweTraces.digest djangoInterpreter (issueText resolved)))]),
  ("observable_summary",.obj sampleSummary.measures),
  ("source",.obj [
    ("instance_id_digest",.str (instanceDigest resolved)),
    ("license",.null),
    ("repo_digest",.str djangoDigest),
    ("trajectory_id_digest",.str (OpenSweTraces.digest djangoInterpreter (instanceName resolved ++ "-run")))]),
  ("tool_summary",.obj sampleSummary.tools),
  ("trajectory_summary",.obj [("num_agent_steps",.int 1),("num_messages",.int 2)])]

def djangoHash (resolved : Bool) : String := if resolved then "aa" else "bb"

def djangoExample (resolved : Bool) : Json :=
  exampleOf (OpenSweTraces.shape sampleRefs) sampleRefs "ptrace:1" (djangoHash resolved)
    (.str OpenSweTraces.sourceRevision) (djangoInput resolved) (.str djangoDigest) (.str (instanceDigest resolved)) resolved

def djangoAssignment (resolved : Bool) : Assignment where
  recordSourceId := .str ("pte:open-swe-traces:" ++ djangoHash resolved ++ ":risk:full")
  repo := djangoDigest
  canonicalRepo := djangoDigest
  splitId := "train"
  quarantineId := none

theorem django_folds : FoldsCase djangoInterpreter := by
  intro text htext
  have hlower : ∀ c ∈ text.toList, c.toLower = c := by
    intro c hc
    have hupper : c.isUpper = false := by
      rcases htext c hc with hspace | ⟨_,hupper⟩
      · by_contra hupper
        have hrange : 65 ≤ c.val ∧ c.val ≤ 90 := of_decide_eq_true (Bool.eq_true_of_not_eq_false hupper)
        have hlow : 65 ≤ c.toNat := hrange.1
        have hhigh : c.toNat ≤ 90 := hrange.2
        simp only [isSpace,Bool.or_eq_true,decide_eq_true_eq,List.mem_cons,List.not_mem_nil,or_false] at hspace
        omega
      · exact hupper
    exact dif_neg (of_decide_eq_false hupper)
  have hmap : text.toList.map Char.toLower = text.toList := List.map_congr_left hlower |>.trans (List.map_id _)
  calc String.ofList (text.toList.map Char.toLower)
    _ = String.ofList text.toList := congrArg String.ofList hmap
    _ = text := String.ofList_toList

theorem django_digest : djangoDigest = digestStart ++ mixedCaseDigest.hex := by
  have hsha : djangoSha256 (utf8 "Django/Django") = mixedCaseDigest := if_pos rfl
  rw [djangoDigest,OpenSweTraces.digest,sha256Hex]
  exact congrArg (fun digest : Digest => digestStart ++ digest.hex) hsha

theorem lowerCase_digest : repoDigest djangoInterpreter "django/django" = digestStart ++ lowerCaseDigest.hex := by
  have hother : utf8 "django/django" ≠ utf8 "Django/Django" := utf8_injective.ne (by decide)
  have hsha : djangoSha256 (utf8 "django/django") = lowerCaseDigest := (if_neg hother).trans (if_pos rfl)
  exact congrArg (fun digest : Digest => digestStart ++ digest.hex) hsha

theorem digests_differ : mixedCaseDigest.hex ≠ lowerCaseDigest.hex := by
  intro h
  have hbytes := congrArg Digest.bytes (Digest.hex_injective h)
  exact absurd hbytes (by decide)

theorem digestStart_ne {name hex : String} (hname : name.toList.head? ≠ some 's') : digestStart ++ hex ≠ name := by
  rintro rfl
  rw [String.toList_append] at hname
  exact hname rfl

theorem django_split : splitFromCanonicalRepo djangoInterpreter djangoDigest = "train" := by
  have hsha : djangoSha256 (utf8 djangoDigest) = keyDigest := by
    rw [django_digest,djangoSha256,if_neg (utf8_injective.ne (digestStart_ne (by decide))),
      if_neg (utf8_injective.ne (digestStart_ne (by decide))),if_pos rfl]
  have hbucket : bucketOf djangoInterpreter djangoDigest = 74 := by
    have hbytes : bucketOf djangoInterpreter djangoDigest =
      readBigEndian ((djangoSha256 (utf8 djangoDigest)).bytes.take 4) % 100 := rfl
    rw [hbytes,hsha]
    rfl
  rw [splitFromCanonicalRepo,hbucket]
  rfl

structure EvaluatedName where
  name : String
  text : hasText name = true
  key : canonicalRepoKey djangoInterpreter name = .ok name
  raw : canonicalizeRepo djangoInterpreter name = repoDigest djangoInterpreter name
  start : name.toList.head? ≠ some 's'
  apart : repoDigest djangoInterpreter name ≠ djangoDigest

namespace EvaluatedName
variable (evaluated : EvaluatedName)

def quarantine : List String := [evaluated.name,repoDigest djangoInterpreter evaluated.name]

theorem quarantined : evalOverlapQuarantine djangoInterpreter true [some evaluated.name] = .ok evaluated.quarantine := by
  have htext : (some evaluated.name).filter (fun repo => hasText repo) = some evaluated.name := by
    rw [Option.filter_some,if_pos evaluated.text]
  rw [evalOverlapQuarantine]
  split
  · next repo hrepo =>
    cases Option.some.inj (htext.symm.trans hrepo)
    rw [evaluated.key,evaluated.raw]
    rfl
  · next hnone =>
    cases htext.symm.trans hnone

theorem spared : quarantineOf djangoInterpreter evaluated.quarantine [] djangoDigest djangoDigest = none := by
  have hmem : djangoDigest ∉ evaluated.quarantine := by
    rw [quarantine,List.mem_pair,not_or]
    refine ⟨?_,evaluated.apart.symm⟩
    rw [django_digest]
    exact digestStart_ne evaluated.start
  rw [quarantineOf,if_neg hmem,if_neg fun h => h.1 rfl]

end EvaluatedName

def lowerCase : EvaluatedName where
  name := "django/django"
  text := by decide +kernel
  key := by decide +kernel
  raw := by
    have hstrip : strip "django/django" = "django/django" := by decide +kernel
    have hstart : digestStart.toList.isPrefixOf "django/django".toList = false := by decide
    rw [canonicalizeRepo,hstrip,hstart]
    rfl
  start := by decide
  apart := by
    rw [lowerCase_digest,django_digest]
    exact fun h => digests_differ ((String.append_right_inj _).mp h).symm

def flask : EvaluatedName where
  name := "pallets/flask"
  text := by decide +kernel
  key := by decide +kernel
  raw := by
    have hstrip : strip "pallets/flask" = "pallets/flask" := by decide +kernel
    have hstart : digestStart.toList.isPrefixOf "pallets/flask".toList = false := by decide
    rw [canonicalizeRepo,hstrip,hstart]
    rfl
  start := by decide
  apart := by
    have hbytes : (djangoSha256 (utf8 "pallets/flask")).bytes ≠ mixedCaseDigest.bytes := by decide +kernel
    rw [repoDigest,django_digest]
    exact fun h => hbytes (congrArg Digest.bytes (Digest.hex_injective ((String.append_right_inj _).mp h)))

theorem django_same : SameRepository djangoInterpreter "Django/Django" "django/django" :=
  ⟨"django/django",by decide,by decide⟩

theorem django_assigned (evaluated : EvaluatedName) (resolved : Bool) :
    assign djangoInterpreter evaluated.quarantine [] (djangoExample resolved) = .ok (djangoAssignment resolved) := by
  have hgroup : getField (djangoExample resolved) "split_group" .null =
    .ok (splitGroup (.str djangoDigest) (.str (instanceDigest resolved))) := rfl
  have hsource : getField (djangoExample resolved) "example_id" .null = .ok (djangoAssignment resolved).recordSourceId := rfl
  have htext : hasText djangoDigest = true := by
    rw [django_digest]
    exact hasText_append (by decide) _
  have hkey : canonicalRepoKey djangoInterpreter djangoDigest = .ok djangoDigest := by
    have hprintable : (djangoDigest.toList.all fun c => decide (32 ≤ c.toNat ∧ c.toNat ≠ 127)) = true := by
      refine List.all_eq_true.mpr fun c hc => decide_eq_true ?_
      obtain ⟨-,-,hlow,hhigh⟩ := repoDigest_plain hc
      exact ⟨hlow,by omega⟩
    have hnormal : normalizeIdentityText djangoInterpreter djangoDigest = some djangoDigest :=
      repoDigest_normal django_folds "Django/Django"
    rw [canonicalRepoKey,hnormal]
    simp only [required,ok_bind,hprintable]
    rfl
  have hmapping : isMapping (splitGroup (.str djangoDigest) (.str (instanceDigest resolved))) = true := rfl
  have hrepo : lookupField (splitGroup (.str djangoDigest) (.str (instanceDigest resolved))) "repo" = some (.str djangoDigest) := rfl
  rw [assign,hgroup,ok_bind,hmapping]
  simp only [hrepo,htext,hkey,hsource,demand,if_true,ok_bind,django_split,evaluated.spared]
  rfl

theorem django_splits (evaluated : EvaluatedName) : splitAssignments djangoInterpreter evaluated.quarantine [] [] [djangoExample true,djangoExample false] =
    .ok [djangoAssignment true,djangoAssignment false] := by
  have hagain : ([(djangoDigest,"train")] : List (String × String)).lookup djangoDigest = some "train" := List.lookup_cons_self
  simp only [splitAssignments,django_assigned,ok_bind]
  simp only [djangoAssignment,List.lookup_nil,Option.getD_none,hagain]
  rfl

def noMessage (_ : Json) : String := ""

def noFloatText (_ : PyFloat) : String := ""

def writableStorage : Storage := ⟨id,.ok (),.ok ()⟩

def djangoRuntime : ShardRuntime := shardRuntime djangoInterpreter noFloatText noMessage writableStorage

def wholeText (_ : String) : List ℕ := [0]

def djangoDisposition : LaneDisposition where
  terminalRole := .train
  gradientEligibility := .later
  licenseDisposition := "local_research_candidate_no_redistribution"
  privacyDisposition := "digest_only_by_construction"
  dualUseDisposition := "not_flagged"
  oracleDisposition := "target_only"

def djangoContext (resolved : Bool) : RenderContext :=
  contextOf djangoRuntime wholeText [] djangoDisposition (djangoAssignment resolved)

def djangoParts (resolved : Bool) : RenderedParts := { sampleParts resolved with
  exampleId := "pte:open-swe-traces:" ++ djangoHash resolved ++ ":risk:full"
  tokenizerRevision := modelRevision
  identity := .obj [
    ("base_commit",.null),
    ("fuzzy_text_sha256",.str (digestText djangoInterpreter (OpenSweTraces.digest djangoInterpreter (issueText resolved)))),
    ("issue_or_pr",.str (instanceDigest resolved)),
    ("patch_sha256",.null),
    ("repo",.str djangoDigest),
    ("task_id",.str (instanceDigest resolved)),
    ("test_patch_sha256",.null)] }

theorem django_prompt (resolved : Bool) : renderPromptPayload (djangoExample resolved) = .ok (djangoParts resolved).prompt := by
  have hinput : mapField (djangoExample resolved) "input" = .ok (djangoInput resolved) := input_read
  have hsummary : getField (djangoInput resolved) "observable_summary" .null = .ok (.obj sampleSummary.measures) := rfl
  have hrefs : getField (djangoInput resolved) "feature_refs" .null = .ok (featureRefs OpenSweTraces.converterVersion) := rfl
  have hstart : getField (djangoInput resolved) "prefix" .null = .ok .null := rfl
  have htrajectory : getField (djangoInput resolved) "trajectory" .null = .ok .null := rfl
  have hobjective : renderObjectivePayload (lookupField (djangoInput resolved) "objective") =
    .ok (.obj [("present",.bool true),("text_length",.int 3)]) := rfl
  rw [renderPromptPayload,hinput,ok_bind,hstart,ok_bind,htrajectory,ok_bind,hsummary,hrefs,hobjective]
  simp only [ok_bind,sample_observable,sample_refs]
  rfl

theorem django_identity (resolved : Bool) :
    foundationIdentity djangoInterpreter (djangoExample resolved) (compactText (djangoParts resolved).prompt) =
      .ok (djangoParts resolved).identity := by
  have hinput : mapField (djangoExample resolved) "input" = .ok (djangoInput resolved) := input_read
  have hgroup : mapField (djangoExample resolved) "split_group" = .ok (splitGroup (.str djangoDigest) (.str (instanceDigest resolved))) := rfl
  rfl

theorem django_observations (resolved : Bool) :
    foundationObservations djangoInterpreter (djangoExample resolved) resolved = .ok (djangoParts resolved).observations := by
  have hinput : mapField (djangoExample resolved) "input" = .ok (djangoInput resolved) := input_read
  have hsummary : mapField (djangoInput resolved) "observable_summary" = .ok (.obj sampleSummary.measures) := rfl
  have htrajectory : mapField (djangoInput resolved) "trajectory" = .ok (.obj []) := rfl
  have hcounts : mapField (.obj sampleSummary.measures) "tool_counts" = .ok (.obj []) := rfl
  have hlanguage : getField (djangoInput resolved) "language" .null = .ok (.str "python") := rfl
  have hnames : iterate (.obj []) = .ok [] := rfl
  have hlength : countField djangoInterpreter (.obj []) "num_agent_steps" = .ok 0 := rfl
  rw [foundationObservations,observedFields,hinput,ok_bind,hsummary,ok_bind,htrajectory,ok_bind,hlanguage,ok_bind,hcounts,ok_bind,hnames,
    ok_bind,hlength,ok_bind,List.map_nil,List.mergeSort_nil]
  rfl

theorem django_parts (resolved : Bool) :
    renderedParts djangoInterpreter (djangoContext resolved) (djangoExample resolved) = .ok (djangoParts resolved) := by
  have hresolved : validatedResolvedTarget (djangoExample resolved) = .ok resolved := rfl
  have hfamily : getField (djangoExample resolved) "dataset_family" .null = .ok (.str (djangoParts resolved).datasetFamily) := rfl
  have hdataset : getField (djangoExample resolved) "dataset_id" .null = .ok (.str (djangoParts resolved).datasetId) := rfl
  have hexample : getField (djangoExample resolved) "example_id" .null = .ok (.str (djangoParts resolved).exampleId) := rfl
  have hrevision : getField (djangoExample resolved) "source_revision" .null = .ok (djangoParts resolved).sourceRevision := rfl
  have htarget : getField (djangoExample resolved) "target" .null = .ok (djangoParts resolved).target := rfl
  have hfamilyText : requiredNonemptyString (.str (djangoParts resolved).datasetFamily) "dataset_family" =
    .ok (djangoParts resolved).datasetFamily := rfl
  have hdatasetText : requiredNonemptyString (.str (djangoParts resolved).datasetId) "dataset_id" =
    .ok (djangoParts resolved).datasetId := rfl
  have hexampleText : requiredNonemptyString (.str (djangoParts resolved).exampleId) "example_id" =
    .ok (djangoParts resolved).exampleId := by
    cases resolved <;> rfl
  have htokenizer : validatedTokenizerRevision modelRevision = .ok modelRevision := by
    have hhex : (modelRevision.length = 40 && modelRevision.toList.all fun c => decide (c ∈ lowerHex)) = true := by decide
    rw [validatedTokenizerRevision,hhex]
    rfl
  have hcontext : (djangoContext resolved).tokenizerRevision = modelRevision := rfl
  rw [renderedParts,hresolved,ok_bind,hfamily,ok_bind,hfamilyText,ok_bind,hdataset,ok_bind,hdatasetText,ok_bind,hexample,
    ok_bind,hexampleText,ok_bind,hrevision,django_prompt,htarget]
  simp only [ok_bind,django_identity,django_observations,hcontext,htokenizer]
  rfl

def djangoRecord (resolved : Bool) : Json := (djangoParts resolved).record djangoInterpreter (djangoContext resolved)

theorem resolved_finite : (djangoRecord true).finite = true ∧ (djangoRecord false).finite = true := by
  constructor <;> decide +kernel

theorem fuzzy_pattern (resolved : Bool) : isPattern "" 64
    (.str (digestText djangoInterpreter (OpenSweTraces.digest djangoInterpreter (issueText resolved)))) = true := by
  have hhex := isPattern_hex "" (djangoSha256 (utf8 (issueText resolved)))
  rw [String.empty_append] at hhex
  exact (congrArg (fun text => isPattern "" 64 (.str text)) (digestText_digest django_folds (issueText resolved))).trans hhex

theorem record_recount (parts : RenderedParts) (context : RenderContext) (h : parts.tokenizerRevision = modelRevision) :
    lookupField (parts.record djangoInterpreter context) "tokenization" =
      some (recounted context.encode (parts.record djangoInterpreter context)) := by
  have hcounted : lookupField (parts.record djangoInterpreter context) "tokenization" = some (.obj [
    ("prompt_tokens",.int (tokenCount context parts.prompt)),
    ("target_tokens",.int (tokenCount context parts.target)),
    ("tokenizer_id",.str "Qwen/Qwen3.5-2B"),
    ("tokenizer_revision",.str parts.tokenizerRevision),
    ("total_tokens",.int (tokenCount context parts.prompt + tokenCount context parts.target))]) := rfl
  rw [hcounted,h]
  rfl

theorem django_finite (resolved : Bool) : (djangoRecord resolved).finite = true := by
  cases resolved
  · exact resolved_finite.2
  · exact resolved_finite.1

theorem identity_conforms (resolved : Bool) : closedObject [("repo",orNull isText),
    ("issue_or_pr",orNull isText),("task_id",orNull isText),("base_commit",orNull isText),("patch_sha256",orNull isText),
    ("test_patch_sha256",orNull isText),("fuzzy_text_sha256",orNull (isPattern "" 64))] (djangoParts resolved).identity = true := by
  rw [djangoParts,closedObject_iff]
  refine ⟨?_,by cases resolved <;> decide⟩
  simp only [List.forall_mem_cons,List.not_mem_nil,IsEmpty.forall_iff,implies_true,and_true]
  exact ⟨rfl,rfl,rfl,rfl,rfl,rfl,any_of_eq rfl ((orNull_str _ _).trans (fuzzy_pattern resolved))⟩

theorem django_conforms (resolved : Bool) : conformsRecord (djangoRecord resolved) = true := by
  rw [conformsRecord,djangoRecord,RenderedParts.record,closedObject_iff]
  refine ⟨?_,by cases resolved <;> decide⟩
  simp only [List.forall_mem_cons,List.not_mem_nil,IsEmpty.forall_iff,implies_true,and_true]
  refine ⟨rfl,rfl,any_of_eq rfl (isPattern_hex _ _),?_,?_,any_of_eq rfl (identity_conforms resolved),?_⟩
  all_goals cases resolved <;> decide +kernel

theorem django_distinct : recordIdOf (djangoRecord true) ≠ recordIdOf (djangoRecord false) := by
  decide +kernel

theorem django_rendered (resolved : Bool) :
    renderRecord djangoInterpreter djangoRuntime wholeText [] (djangoExample resolved) (djangoAssignment resolved) ostLaneId =
      .ok (djangoRecord resolved) := by
  have hdisposition : laneDispositions.lookup ostLaneId = some djangoDisposition := rfl
  have hcontext : contextOf djangoRuntime wholeText [] djangoDisposition (djangoAssignment resolved) = djangoContext resolved := rfl
  have hrecord : renderFoundationRecord djangoInterpreter (djangoContext resolved) (djangoExample resolved) =
      .ok (djangoRecord resolved) := by
    have hheld : (djangoParts resolved).record djangoInterpreter (djangoContext resolved) = djangoRecord resolved := rfl
    rw [renderFoundationRecord,django_parts,ok_bind]
    dsimp only
    rw [hheld,validateRendered,django_finite,django_conforms]
    rfl
  have hrecount : lookupField (djangoRecord resolved) "tokenization" = some (recounted wholeText (djangoRecord resolved)) :=
    record_recount (djangoParts resolved) (djangoContext resolved) rfl
  rw [renderRecord,hdisposition]
  simp only [required,ok_bind,hcontext,hrecord,hrecount,decide_true,demand,if_true]
  rfl

theorem django_valid (resolved : Bool) : validateExample djangoRuntime.schemaMessage (djangoRecord resolved) = .ok () := by
  have hsource : lookupField (djangoRecord resolved) "source" = some ((djangoParts resolved).source (djangoContext resolved)) := rfl
  have hfamily : (lookupField ((djangoParts resolved).source (djangoContext resolved)) "dataset_family").any
    (oneOf (activeDatasetGroups.map .str)) = true := by
    have hheld : lookupField ((djangoParts resolved).source (djangoContext resolved)) "dataset_family" =
      some (.str "open-swe-traces") := rfl
    rw [hheld]
    decide
  have hweight : lookupField (djangoRecord resolved) "training_weight" = some (.float "0.0") := rfl
  rw [validateExample,hsource,hweight,validateFoundationRecord,django_finite,django_conforms]
  have hmapping : isMapping (djangoRecord resolved) = true := rfl
  have hheld : isMapping ((djangoParts resolved).source (djangoContext resolved)) = true := rfl
  rw [hmapping,Option.filter_some,if_pos hheld,required,ok_bind,hfamily]
  rfl

def djangoIdentity (resolved : Bool) : IdentityRecord where
  family := "open-swe-traces"
  laneId := ostLaneId
  repo := some djangoDigest
  issueOrPr := some (instanceDigest resolved)
  taskId := some (instanceDigest resolved)
  baseCommit := none
  patchSha256 := none
  testPatchSha256 := none
  fuzzyTextSha256 := some (digestText djangoInterpreter (OpenSweTraces.digest djangoInterpreter (issueText resolved)))
  family_nonempty := by decide
  lane_nonempty := by decide

def djangoFingerprint (resolved : Bool) : String :=
  sha256Hex djangoInterpreter (compactText (canonicalIdentity djangoInterpreter (djangoIdentity resolved)))

theorem django_fingerprint (resolved : Bool) :
    djangoRuntime.dedupFingerprint (djangoRecord resolved) = .ok (djangoFingerprint resolved) := by
  have hfingerprint : djangoRuntime.dedupFingerprint (djangoRecord resolved) =
    dedupFingerprint djangoInterpreter noMessage (djangoRecord resolved) := rfl
  have hidentity : identityFromFoundationRecord (djangoRecord resolved) = .ok (djangoIdentity resolved) := rfl
  have hvalid : validateExample noMessage (djangoRecord resolved) = .ok () := django_valid resolved
  rw [hfingerprint,dedupFingerprint,hvalid,ok_bind,hidentity]
  rfl

def digestChars (text : String) : List Char := digestStart.toList ++ hexChars (djangoSha256 (utf8 text)).bytes

def identityChars (repo issue text : List Char) : List Char := Json.dumps (.obj [
  ("base_commit",.str ""),
  ("fuzzy_text_sha256",.str (String.ofList text)),
  ("issue_or_pr",.str (String.ofList issue)),
  ("patch_sha256",.null),
  ("repo",.str (String.ofList repo)),
  ("task_id",.str (String.ofList issue)),
  ("test_patch_sha256",.null)])

theorem digest_ofList (text : String) : repoDigest djangoInterpreter text = String.ofList (digestChars text) := by
  rw [digestChars,← String.ofList_toList (s := repoDigest djangoInterpreter text),repoDigest_chars]
  rfl

theorem django_payload (resolved : Bool) :
    utf8 (compactText (canonicalIdentity djangoInterpreter (djangoIdentity resolved))) =
      encoded ((identityChars (digestChars "Django/Django") (digestChars (instanceName resolved))
        (digestChars (issueText resolved))).flatMap Json.asciiEscape) := by
  have hrepo := normalizedText_digest django_folds "Django/Django"
  have hissue := normalizedText_digest django_folds (instanceName resolved)
  have htext := normalizedDigest_text django_folds (issueText resolved)
  have hcanonical : canonicalIdentity djangoInterpreter (djangoIdentity resolved) = .obj [
    ("base_commit",.str ""),
    ("fuzzy_text_sha256",normalizedDigest djangoInterpreter
      (some (digestText djangoInterpreter (repoDigest djangoInterpreter (issueText resolved))))),
    ("issue_or_pr",normalizedText djangoInterpreter (some (repoDigest djangoInterpreter (instanceName resolved)))),
    ("patch_sha256",.null),
    ("repo",normalizedText djangoInterpreter (some (repoDigest djangoInterpreter "Django/Django"))),
    ("task_id",normalizedText djangoInterpreter (some (repoDigest djangoInterpreter (instanceName resolved)))),
    ("test_patch_sha256",.null)] := rfl
  rw [hcanonical,hrepo,hissue,htext,digest_ofList,digest_ofList,digest_ofList,compactText,Json.ascii,utf8_ofList]
  rfl

def quoted (text : List Char) : List Char := '"' :: (text.flatMap Json.escape ++ ['"'])

theorem identityChars_eq (repo issue text : List Char) : identityChars repo issue text =
    '{' :: (quoted "base_commit".toList ++ ':' :: (quoted [] ++ ',' :: (quoted "fuzzy_text_sha256".toList ++ ':' ::
      (quoted text ++ ',' :: (quoted "issue_or_pr".toList ++ ':' :: (quoted issue ++ ',' ::
        (quoted "patch_sha256".toList ++ ':' :: (['n','u','l','l'] ++ ',' :: (quoted "repo".toList ++ ':' :: (quoted repo ++ ',' ::
          (quoted "task_id".toList ++ ':' :: (quoted issue ++ ',' :: (quoted "test_patch_sha256".toList ++ ':' ::
            (['n','u','l','l'] ++ ['}'])))))))))))))) := by
  simp only [identityChars,Json.dumps,Json.dumpsFields,Json.quote,quoted,String.toList_ofList,String.toList_empty]

theorem fingerprints_differ : djangoFingerprint true ≠ djangoFingerprint false := by
  intro h
  rw [djangoFingerprint,djangoFingerprint,sha256Hex,sha256Hex,django_payload,django_payload,identityChars_eq,
    identityChars_eq] at h
  refine absurd (congrArg Digest.bytes (Digest.hex_injective h)) ?_
  decide +kernel

theorem deduplicate_pair {runtime : ShardRuntime} {first second : Json} {left right : String}
    (hfirst : validateExample runtime.schemaMessage first = .ok ()) (hsecond : validateExample runtime.schemaMessage second = .ok ())
    (hleft : runtime.dedupFingerprint first = .ok left) (hright : runtime.dedupFingerprint second = .ok right)
    (hne : left ≠ right) : deduplicateExamples runtime [first,second] = .ok ([first,second],[]) := by
  have hseen : right ∉ [left] := fun h => hne (List.mem_singleton.mp h).symm
  rw [deduplicateExamples]
  simp only [List.foldlM_cons,List.foldlM_nil,addExample,hfirst,hsecond,hleft,hright,ok_bind,List.not_mem_nil,if_false,
    pure,Except.pure,hseen]
  rfl

theorem django_unique : deduplicateExamples djangoRuntime [djangoRecord true,djangoRecord false] =
    .ok ([djangoRecord true,djangoRecord false],[]) :=
  deduplicate_pair (django_valid true) (django_valid false) (django_fingerprint true) (django_fingerprint false)
    fingerprints_differ

theorem mixedCase_carried (resolved : Bool) : fieldAt (djangoExample resolved) "split_group" "repo" =
    some (.str (repoField djangoInterpreter .openSweTraces "Django/Django")) := rfl

def mixedCase (resolved : Bool) : LaneExample djangoInterpreter :=
  ⟨.openSweTraces,"Django/Django",djangoExample resolved,mixedCase_carried resolved⟩

theorem django_leakage : ([] : List String) = checkOverlap djangoInterpreter (laneRepos .openHands [mixedCase true,mixedCase false])
    (laneRepos .openSweTraces [mixedCase true,mixedCase false]) := by
  have hnone : laneRepos .openHands [mixedCase true,mixedCase false] = [] := rfl
  rw [hnone,checkOverlap,List.map_nil,List.filter_nil,Traces.sortedSet,List.dedup_nil,List.mergeSort_nil]

theorem django_records : renderRecords djangoInterpreter djangoRuntime wholeText []
    ([mixedCase true,mixedCase false].map LaneExample.example_) [djangoAssignment true,djangoAssignment false]
    ([mixedCase true,mixedCase false].map fun held => laneId held.lane) = .ok [djangoRecord true,djangoRecord false] := by
  have heach : renderEach djangoInterpreter djangoRuntime wholeText [] [djangoExample true,djangoExample false]
      [djangoAssignment true,djangoAssignment false] [ostLaneId,ostLaneId] = .ok [djangoRecord true,djangoRecord false] := by
    simp only [renderEach,django_rendered,ok_bind]
    rfl
  rw [renderRecords]
  exact bind_eq_ok.mpr ⟨_,heach,bind_eq_ok.mpr ⟨_,django_unique,rfl⟩⟩

def stageAgainst (evaluated : EvaluatedName) : Stage djangoInterpreter djangoRuntime wholeText where
  examples := [mixedCase true,mixedCase false]
  evaluations := [some evaluated.name]
  leakageDigests := []
  sourceReceiptHashes := []
  quarantinedRepos := evaluated.quarantine
  assignments := [djangoAssignment true,djangoAssignment false]
  records := [djangoRecord true,djangoRecord false]
  leakage := django_leakage
  quarantined := evaluated.quarantined
  assigned := django_splits evaluated
  rendered := django_records

theorem django_train (resolved : Bool) : isTrain (djangoRecord resolved) = true :=
  (renderRecord_train (django_rendered resolved)).mpr ⟨rfl,rfl⟩

theorem django_selectable (index : ℕ) (resolved : Bool) :
    validatedSelectionRecord djangoRuntime.schemaMessage index (djangoRecord resolved) = .ok () := by
  have hmapping : isMapping (djangoRecord resolved) = true := rfl
  have hprompt : positiveCount (fieldAt (djangoRecord resolved) "tokenization" "prompt_tokens") = some 1 := rfl
  have htarget : positiveCount (fieldAt (djangoRecord resolved) "tokenization" "target_tokens") = some 1 := rfl
  have htotal : positiveCount (fieldAt (djangoRecord resolved) "tokenization" "total_tokens") = some 2 := rfl
  rw [validatedSelectionRecord,hmapping,django_finite,django_conforms,hprompt,htarget,htotal]
  rfl

theorem django_selects (evaluated : EvaluatedName) : ∃ tokenCeiling selection,
    selectCompleteRecords djangoRuntime.schemaMessage tokenCeiling (stageAgainst evaluated).records = .ok selection := by
  refine select_some ?_ ?_ ?_
  · intro index record hrecord
    rcases List.mem_pair.mp hrecord with rfl | rfl
    · exact django_selectable index true
    · exact django_selectable index false
  · exact List.nodup_cons.mpr ⟨fun h => django_distinct (List.mem_singleton.mp h),List.nodup_singleton _⟩
  · intro label
    have hlabel : isResolved label (djangoRecord label) = true := decide_eq_true rfl
    refine ⟨djangoRecord label,?_,django_train label,hlabel⟩
    cases label
    · exact List.mem_cons_of_mem _ List.mem_cons_self
    · exact List.mem_cons_self

theorem django_not_apart : ¬ ∀ tokenCeiling selection,
    selectCompleteRecords djangoRuntime.schemaMessage tokenCeiling (stageAgainst lowerCase).records = .ok selection →
      (stageAgainst lowerCase).KeptApart selection := by
  intro hapart
  obtain ⟨_,_,hselected⟩ := django_selects lowerCase
  obtain ⟨ceiling,hall⟩ := select_everything hselected
  have htrain : djangoRecord true ∈ trainRecords (stageAgainst lowerCase).records :=
    mem_trainRecords.mpr ⟨List.mem_cons_self,django_train true⟩
  exact (hapart ceiling _ hall).evaluation (mixedCase true) List.mem_cons_self (djangoRecord true) htrain
    ⟨djangoAssignment true,django_assigned lowerCase true,django_rendered true⟩ "django/django" List.mem_cons_self django_same

theorem flask_other : ¬ SameRepository djangoInterpreter "Django/Django" flask.name := by
  rintro ⟨key,hkey,hother⟩
  have hnames : normalizeIdentityText djangoInterpreter "Django/Django" ≠ normalizeIdentityText djangoInterpreter flask.name := by
    decide
  exact hnames (hkey.trans hother.symm)

theorem mixedCase_split (resolved : Bool) : (mixedCase resolved).ownSplit = some "train" :=
  @Stage.ownSplit_of_assigned _ _ _ (stageAgainst flask) (mixedCase resolved) _ (django_assigned flask resolved)

theorem flask_spelled : (stageAgainst flask).SpelledAlike := by
  refine ⟨?_,?_⟩
  · intro held hheld _ _ name hname hsame
    cases Option.some.inj (List.mem_singleton.mp hname)
    rcases List.mem_pair.mp hheld with rfl | rfl <;> exact absurd hsame flask_other
  · intro _ _ _ other hother hsplit
    have htrain : other.ownSplit = some "train" := by
      rcases List.mem_pair.mp hother with rfl | rfl
      · exact mixedCase_split true
      · exact mixedCase_split false
    rw [htrain] at hsplit
    exact absurd hsplit (by decide)

theorem flask_kept_apart : (∃ tokenCeiling selection,
    selectCompleteRecords djangoRuntime.schemaMessage tokenCeiling (stageAgainst flask).records = .ok selection) ∧
      ∀ tokenCeiling selection,
        selectCompleteRecords djangoRuntime.schemaMessage tokenCeiling (stageAgainst flask).records = .ok selection →
          (stageAgainst flask).KeptApart selection :=
  ⟨django_selects flask,(Stage.kept_apart_iff (stageAgainst flask) django_folds (django_selects flask)).mpr flask_spelled⟩

end Sample

end PneumaLab.Preparation
