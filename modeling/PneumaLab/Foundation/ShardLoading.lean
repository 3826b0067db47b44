import PneumaLab.Foundation.Shards

namespace PneumaLab.Foundation

section Records
variable {runtime : ShardRuntime}

def ReadableRecord (runtime : ShardRuntime) (record : Json) : Prop :=
  record.Readable runtime.floatRepr ∧ isMapping record = true

theorem readable_of_validated {record : Json} (hnative : record.Native runtime.floatRepr)
    (h : validateExample runtime.schemaMessage record = .ok ()) : ReadableRecord runtime record := by
  simp only [validateExample,validateFoundationRecord,bind_eq_ok,demand_eq_ok] at h
  obtain ⟨_,hmapping,_,_,_,_,_,_,_,hfinite,_⟩ := h
  exact ⟨Json.readable_of_finite hnative hfinite,hmapping⟩

theorem dumps_brace {record : Json} (h : isMapping record = true) : ∃ tail, record.dumps = '{' :: tail := by
  cases record with
  | obj fields => cases fields <;> exact ⟨_,rfl⟩
  | _ => cases h

theorem not_blank {record : Json} (h : isMapping record = true) (tail : List Char) :
    (Json.firstLine (record.dumps ++ tail)).all isPythonSpace = false := by
  obtain ⟨text,ht⟩ := dumps_brace h
  rw [ht,List.cons_append,Json.firstLine_cons (by decide),List.all_cons]
  rfl

theorem readRecord_dumps {record : Json} (h : ReadableRecord runtime record) :
    readRecord runtime record.dumps = .ok record := by
  have hread := Json.loadsWith_dumps (pythonReader runtime) h.1 (show Json.skipSpace [] = [] from rfl)
    fun _ _ he => by cases he
  rw [List.append_nil] at hread
  simp only [readRecord,bind_eq_ok,required_eq_ok,demand_eq_ok]
  exact ⟨record,hread,(),h.2,rfl⟩

theorem readRecords_line {record : Json} (h : ReadableRecord runtime record) (hbreaks : record.breaks = false)
    (text : List Char) : readRecords runtime (record.dumps ++ '\n' :: text) = do
      let records ← readRecords runtime text
      return record :: records := by
  have hunbroken := Json.dumps_unbroken record h.1 hbreaks
  have hblank := not_blank h.2 []
  rw [Json.firstLine_append hunbroken,Json.firstLine,List.takeWhile_nil,List.append_nil] at hblank
  rw [readRecords,Json.splitLines_line hunbroken,List.filter_cons_of_pos (by rw [hblank]; rfl),List.mapM_cons,
    readRecord_dumps h]
  rfl

theorem readRecords_broken {record : Json} (h : ReadableRecord runtime record) (hbreaks : record.breaks = true)
    (text : List Char) : readRecords runtime (record.dumps ++ '\n' :: text) =
      .error (.foundationDatasetError "shard line is not valid JSON") := by
  obtain ⟨tail,ht⟩ := dumps_brace h.2
  obtain ⟨more,hmore⟩ := Json.splitLines_first
    (List.append_ne_nil_of_right_ne_nil record.dumps (List.cons_ne_nil '\n' text))
  rw [readRecords,hmore,List.filter_cons_of_pos (by rw [not_blank h.2]; rfl),List.mapM_cons,readRecord,
    Json.loadsWith_broken (pythonReader runtime) h.1 hbreaks]
  rfl

theorem readRecords_shardText {unique : List Json} (h : ∀ record ∈ unique, ReadableRecord runtime record) :
    readRecords runtime (shardText unique) = .ok unique ↔ ∀ record ∈ unique, record.breaks = false := by
  induction unique with
  | nil => exact ⟨fun _ => List.forall_mem_nil _,fun _ => rfl⟩
  | cons record rest ih =>
    obtain ⟨hrecord,hrest⟩ := List.forall_mem_cons.mp h
    have hcons : shardText (record :: rest) = record.dumps ++ '\n' :: shardText rest := by
      rw [shardText,List.flatMap_cons,List.append_assoc]
      rfl
    rw [hcons,List.forall_mem_cons]
    cases hbreaks : record.breaks with
    | true =>
      rw [readRecords_broken hrecord hbreaks]
      exact ⟨fun he => (by cases he),fun he => absurd he.1 (by decide)⟩
    | false =>
      rw [readRecords_line hrecord hbreaks,← ih hrest,bind_eq_ok]
      constructor
      · rintro ⟨records,hread,hreturn⟩
        cases hreturn
        exact ⟨rfl,hread⟩
      · rintro ⟨_,hread⟩
        exact ⟨rest,hread,rfl⟩

end Records

section Manifest
variable {runtime : ShardRuntime}

theorem pretty_no_return {value : Json} (h : value.Readable runtime.floatRepr) :
    ∀ c ∈ value.render indented 0 ++ ['\n'], c ≠ '\r' := by
  have hascii : ∀ c : Char, 0x20 ≤ c.toNat → c.toNat < 0x7F → c ≠ '\r' := by
    rintro c hlow _ rfl
    exact absurd hlow (by decide)
  have hline : ∀ depth, ∀ c ∈ indented.line depth, c ≠ '\r' := by
    intro depth c hc
    rcases List.mem_cons.mp hc with rfl | hc
    · decide
    · rw [List.eq_of_mem_replicate hc]
      decide
  refine Json.append_forall (Json.render_forall hascii hline ?_ value 0 h fun c _ => Json.escape_ne (by decide) c) ?_
  · exact List.forall_mem_singleton.mpr (by decide)
  · exact List.forall_mem_singleton.mpr (by decide)

theorem shardManifest_readable {digest : String} {unique : List Json} {duplicateIds : List String} {inventory : Json}
    {tokenCeiling : Option ℤ} (h : inventory.Readable runtime.floatRepr) :
    (shardManifest digest unique duplicateIds inventory tokenCeiling).Readable runtime.floatRepr := by
  have hids : (Json.arr (duplicateIds.map .str)).Readable runtime.floatRepr := (Json.exact_texts duplicateIds).readable
  cases tokenCeiling with
  | none =>
    have hkeys : ["duplicate_example_ids","example_count","inventory","manifest_kind","schema_version","sha256",
        "source_policy"].Pairwise (· < ·) := by decide
    exact ⟨hkeys,hids,trivial,h,trivial,trivial,trivial,trivial,trivial⟩
  | some ceiling =>
    have hkeys : ["duplicate_example_ids","example_count","inventory","manifest_kind","schema_version","sha256",
        "source_policy","token_ceiling"].Pairwise (· < ·) := by decide
    exact ⟨hkeys,hids,trivial,h,trivial,trivial,trivial,trivial,trivial,trivial⟩

theorem readManifest_pretty {files : ShardFiles} {manifestPath : String} {manifest : Json}
    (hfile : files manifestPath = some (prettyBytes manifest)) (h : manifest.Readable runtime.floatRepr) :
    readManifest runtime files manifestPath = .ok manifest := by
  simp only [readManifest,bind_eq_ok,required_eq_ok]
  refine ⟨_,hfile,_,fromUtf8_utf8 _,?_⟩
  rw [String.toList_ofList,universalNewlines_of_no_return (pretty_no_return h)]
  exact Json.loadsWith_render (pythonReader runtime) h rfl (Json.endsNumber_cons (by decide))

end Manifest

section Shard
variable {runtime : ShardRuntime} {examples unique : List Json} {duplicateIds : List String}

theorem addExample_unique {state next : Deduplication} {record : Json}
    (h : addExample runtime state record = .ok next) :
    validateExample runtime.schemaMessage record = .ok () ∧
      ∀ other ∈ next.unique, other ∈ state.unique ∨ other = record := by
  simp only [addExample,bind_eq_ok] at h
  obtain ⟨_,hvalid,fingerprint,_,h⟩ := h
  refine ⟨hvalid,?_⟩
  split at h
  · cases h
    exact fun other hother => .inl hother
  · cases h
    exact fun other hother => (List.mem_append.mp hother).imp_right List.mem_singleton.mp

theorem unique_readable (hnative : ∀ record ∈ examples, record.Native runtime.floatRepr)
    (h : deduplicateExamples runtime examples = .ok (unique,duplicateIds)) :
    ∀ record ∈ unique, ReadableRecord runtime record := by
  obtain ⟨state,hstate,hreturn⟩ := bind_eq_ok.mp h
  cases hreturn
  have hkept : ∀ record ∈ state.unique, record ∈ examples ∧
      validateExample runtime.schemaMessage record = .ok () := by
    refine foldlM_reaches (P := fun done (state : Deduplication) => ∀ record ∈ state.unique, record ∈ done ∧
      validateExample runtime.schemaMessage record = .ok ()) (List.forall_mem_nil _) ?_ hstate
    intro done first state next _ hdone hfirst record hrecord
    obtain ⟨hvalid,hunique⟩ := addExample_unique hfirst
    rcases hunique record hrecord with hbefore | rfl
    · exact ⟨List.mem_append_left _ (hdone record hbefore).1,(hdone record hbefore).2⟩
    · exact ⟨List.mem_append_right _ (List.mem_singleton_self _),hvalid⟩
  intro record hrecord
  obtain ⟨hmem,hvalid⟩ := hkept record hrecord
  exact readable_of_validated (hnative record hmem) hvalid

theorem publishFile_self (files : ShardFiles) (path : String) (payload : Bytes) :
    publishFile files path payload path = some payload := Function.update_self ..

theorem publishFile_other (files : ShardFiles) {path other : String} (h : other ≠ path) (payload : Bytes) :
    publishFile files path payload other = files other := Function.update_of_ne h ..

theorem paths_differ (outputRoot digest : String) : shardPathOf outputRoot digest ≠ manifestPathOf outputRoot digest := by
  intro h
  have hlength := congrArg (fun path => path.toList.length) h
  simp only [shardPathOf,manifestPathOf,String.toList_append,List.length_append] at hlength
  have hshard : ".jsonl".toList.length = 6 := rfl
  have hmanifest : ".manifest.json".toList.length = 14 := rfl
  omega

theorem hex_ne_empty (digest : Digest) : digest.hex ≠ "" := by
  intro h
  have hsha := digest.isSha256_hex
  rw [h] at hsha
  exact absurd hsha (by decide)

theorem dataset_of_files {files : ShardFiles} {shardPath manifestPath : String} {inventory : Json}
    {tokenCeiling : Option ℤ} (hinventory : inventory.Readable runtime.floatRepr)
    (hmanifest : files manifestPath = some (prettyBytes (shardManifest
      (runtime.sha256 (utf8 (String.ofList (shardText unique)))).hex unique duplicateIds inventory tokenCeiling)))
    (hshard : files shardPath = some (utf8 (String.ofList (shardText unique)))) :
    foundationShardDataset runtime files shardPath manifestPath = .ok unique ↔
      readRecords runtime (shardText unique) = .ok unique := by
  let digest := (runtime.sha256 (utf8 (String.ofList (shardText unique)))).hex
  let manifest := shardManifest digest unique duplicateIds inventory tokenCeiling
  have hread : readManifest runtime files manifestPath = .ok manifest :=
    readManifest_pretty hmanifest (shardManifest_readable hinventory)
  have hexpected : expectedDigest manifest = .ok digest := by
    have hlookup : lookupField manifest "sha256" = some (.str digest) := rfl
    rw [expectedDigest,hlookup]
    exact if_neg (hex_ne_empty _)
  have hcount : lookupField manifest "example_count" = some (.int unique.length) := rfl
  simp only [foundationShardDataset,bind_eq_ok,required_eq_ok,demand_eq_ok]
  constructor
  · rintro ⟨read,hread',_,_,expected,_,payload,hpayload,_,_,text,htext,records,hrecords,_,_,hreturn⟩
    obtain rfl := Option.some.inj (hshard.symm.trans hpayload)
    obtain rfl := Option.some.inj ((fromUtf8_utf8 _).symm.trans htext)
    cases hreturn
    rwa [String.toList_ofList] at hrecords
  · intro hrecords
    refine ⟨manifest,hread,(),rfl,digest,hexpected,_,hshard,(),decide_eq_true rfl,_,fromUtf8_utf8 _,unique,?_,(),?_,rfl⟩
    · rwa [String.toList_ofList]
    · exact demand_eq_ok.mpr (decide_eq_true hcount)

theorem built_shard_loads_iff (runtime : ShardRuntime) (outputRoot : String) (examples unique : List Json)
    (duplicateIds : List String) (tokenCeiling : Option ℤ) (files published : ShardFiles) (result : ShardResult)
    (hnative : ∀ record ∈ examples, record.Native runtime.floatRepr)
    (hinventory : ∀ records inventory, runtime.buildDiversityInventory records = .ok inventory →
      inventory.fields.Readable runtime.floatRepr)
    (hbuild : buildContentAddressedShard runtime outputRoot examples tokenCeiling files = .ok (result,published))
    (hunique : deduplicateExamples runtime examples = .ok (unique,duplicateIds)) :
    foundationShardDataset runtime published result.shardPath result.manifestPath = .ok unique ↔
      ∀ record ∈ unique, ∀ c ∈ record.chars, Json.isRawBreak c = false := by
  have hreadable := unique_readable hnative hunique
  simp only [buildContentAddressedShard,hunique,bind_eq_ok] at hbuild
  obtain ⟨_,_,_,_,_,hpair,inventory,hinventoried,_,_,_,_,hreturn⟩ := hbuild
  cases hpair
  cases hreturn
  have hbreaks : (∀ record ∈ unique, ∀ c ∈ record.chars, Json.isRawBreak c = false) ↔
      ∀ record ∈ unique, record.breaks = false := by
    simp only [Json.breaks,List.any_eq_false,Bool.not_eq_true]
  rw [hbreaks,← readRecords_shardText hreadable]
  apply dataset_of_files (hinventory unique inventory hinventoried)
  · exact publishFile_self ..
  · rw [publishFile_other _ (paths_differ outputRoot _),publishFile_self]

end Shard

section Sample

def zeros (count : ℕ) : String := String.ofList (List.replicate count '0')

def sampleTarget (applicable : Bool) (value provenance : Json) : Json :=
  .obj [("applicable",.bool applicable),("provenance",provenance),("value",value)]

def maskedTarget : Json := sampleTarget false .null .null

def observedTarget (value : String) : Json := sampleTarget true (.float value) (.str "observed_outcome")

def promptRecord (prompt : String) : Json := .obj [
  ("disposition",.obj [("dual_use_disposition",.str "none"),("gradient_eligibility",.str "first_stage"),
    ("license_disposition",.str "mit"),("oracle_disposition",.str "none"),("privacy_disposition",.str "public"),
    ("terminal_role",.str "train")]),
  ("forecast_targets",.obj [("action_success",observedTarget "1.0"),("expected_error",observedTarget "0.0"),
    ("intervention_response",maskedTarget),("latency_cost",maskedTarget),("retrieval_usefulness",maskedTarget),
    ("token_cost",maskedTarget),("tool_cost",maskedTarget),("verifier_outcome",maskedTarget)]),
  ("identity",.obj [("base_commit",.null),("fuzzy_text_sha256",.null),("issue_or_pr",.str "1"),("patch_sha256",.null),
    ("repo",.str "o/r"),("task_id",.str "t"),("test_patch_sha256",.null)]),
  ("observations",.obj [("labels",.obj [("resolved",.bool true)]),("language",.str "python"),("tools",.arr []),
    ("trajectory_length",.int 1)]),
  ("record_id",.str ("ftr:" ++ zeros 64)),
  ("record_kind",.str "pneuma_foundation_training_record"),
  ("record_schema_version",.str "0.1.0"),
  ("rendered",.obj [("prompt_text",.str prompt),("target_text",.str "c")]),
  ("source",.obj [("dataset_family",.str "swe-bench"),("lane_id",.str "lane"),("receipt_hashes",.arr []),
    ("source_record_id",.str "row"),("source_revision",.null)]),
  ("split",.obj [("quarantine_id",.null),("split_id",.str "train")]),
  ("tokenization",.obj [("prompt_tokens",.int 3),("target_tokens",.int 1),("tokenizer_id",.str "Qwen/Qwen3.5-2B"),
    ("tokenizer_revision",.str (zeros 40)),("total_tokens",.int 4)]),
  ("training_weight",.float "0.0")]

def separatorRecord : Json := promptRecord "a\u2028b"

def plainRecord : Json := promptRecord "a b"

def sampleInventory : Json := .obj [
  ("dataset_families",.obj [("swe-bench",.int 1)]),("example_count",.int 1),
  ("forecast_targets",.obj [("action_success",.int 1),("expected_error",.int 1)]),("issue_count",.int 1),
  ("labels",.obj [("resolved",.int 1)]),("lanes",.obj [("lane",.int 1)]),("languages",.obj [("python",.int 1)]),
  ("repository_count",.int 1),("token_count",.int 4),("tools",.obj []),
  ("trajectory_length",.obj [("max",.int 1),("mean",.float "1.0"),("min",.int 1)])]

-- The SHA-256 of the shard of each record.
def separatorDigest : Digest :=
  ⟨[185,167,136,48,0,167,91,222,51,234,60,217,49,130,70,191,94,53,84,23,171,125,230,130,118,161,60,188,173,208,100,144],
    rfl⟩

def plainDigest : Digest :=
  ⟨[140,122,192,79,221,28,226,84,8,105,202,100,146,138,182,204,180,216,85,176,248,229,92,102,24,4,68,173,184,6,105,254],
    rfl⟩

def sampleMessage (_ : Json) : String := "record does not conform"

def digestRuntime (digest : Digest) : ShardRuntime where
  sha256 _ := digest
  floatRepr text := text
  schemaMessage := sampleMessage
  dedupFingerprint _ := .ok "fc72ee372d1661e11ef01404a10047e80722c36a6dbbe397b686a265df26c6f6"
  buildDiversityInventory _ := .ok ⟨.int 4,sampleInventory⟩
  validateOutputPath := .ok ()
  bindArtifactPublication := .ok ()

variable {digest : Digest} {record : Json}

theorem zero_float : Json.Readable (digestRuntime digest).floatRepr (.float "0.0") :=
  ⟨rfl,⟨false,['0'],['.','0'],[],.inl rfl,.some (List.forall_mem_singleton.mpr rfl) (List.cons_ne_nil _ _),.none,by decide⟩,rfl⟩

theorem one_float : Json.Readable (digestRuntime digest).floatRepr (.float "1.0") :=
  ⟨rfl,⟨false,['1'],['.','0'],[],.inr ⟨List.forall_mem_singleton.mpr rfl,List.cons_ne_nil _ _,by decide⟩,
    .some (List.forall_mem_singleton.mpr rfl) (List.cons_ne_nil _ _),.none,by decide⟩,rfl⟩

theorem maskedTarget_native : maskedTarget.Native (digestRuntime digest).floatRepr := ⟨by decide,trivial,trivial,trivial,trivial⟩

theorem observedTarget_native {value : String} (h : Json.Readable (digestRuntime digest).floatRepr (.float value)) :
    (observedTarget value).Native (digestRuntime digest).floatRepr := by
  have hkeys : ["applicable","provenance","value"].Pairwise (· < ·) := by decide
  exact ⟨hkeys,trivial,trivial,.inr h,trivial⟩

theorem promptRecord_native (prompt : String) : (promptRecord prompt).Native (digestRuntime digest).floatRepr := by
  have hone : (observedTarget "1.0").Native (digestRuntime digest).floatRepr := observedTarget_native one_float
  have hzero : (observedTarget "0.0").Native (digestRuntime digest).floatRepr := observedTarget_native zero_float
  have hmasked : maskedTarget.Native (digestRuntime digest).floatRepr := maskedTarget_native
  have hnames : ["disposition","forecast_targets","identity","observations","record_id","record_kind","record_schema_version",
    "rendered","source","split","tokenization","training_weight"].Pairwise (· < ·) := by decide
  have htexts : ["prompt_text","target_text"].Pairwise (· < ·) := by decide
  refine ⟨hnames,⟨by decide,?_⟩,⟨by decide,hone,hzero,hmasked,hmasked,hmasked,hmasked,hmasked,hmasked,trivial⟩,
    ⟨by decide,?_⟩,⟨by decide,⟨by decide,?_⟩,?_⟩,trivial,trivial,trivial,⟨htexts,?_⟩,⟨by decide,?_⟩,⟨by decide,?_⟩,
    ⟨by decide,?_⟩,.inr zero_float,trivial⟩
  all_goals simp only [Json.NativeFields,Json.NativeItems,Json.Native,and_self]

theorem sampleInventory_readable : sampleInventory.Readable (digestRuntime digest).floatRepr := by
  refine ⟨by decide,⟨by decide,?_⟩,trivial,⟨by decide,?_⟩,trivial,⟨by decide,?_⟩,⟨by decide,?_⟩,⟨by decide,?_⟩,trivial,
    trivial,⟨by decide,?_⟩,⟨by decide,trivial,one_float,trivial,trivial⟩,trivial⟩
  all_goals simp only [Json.ReadableFields,Json.Readable,and_self]

theorem promptRecord_valid {prompt : String} (h : prompt = "a\u2028b" ∨ prompt = "a b") :
    validateExample sampleMessage (promptRecord prompt) = .ok () := by
  obtain rfl | rfl := h <;> decide +kernel

theorem record_unique (hvalid : validateExample sampleMessage record = .ok ()) :
    deduplicateExamples (digestRuntime digest) [record] = .ok ([record],[]) := by
  have hheld : validateExample (digestRuntime digest).schemaMessage record = .ok () := hvalid
  rw [deduplicateExamples,List.foldlM_cons,addExample,hheld]
  rfl

def publishedFiles (digest : Digest) (record : Json) : ShardFiles :=
  publishFile (publishFile (fun _ => none) (shardPathOf "build" digest.hex) (utf8 (String.ofList (shardText [record]))))
    (manifestPathOf "build" digest.hex) (prettyBytes (shardManifest digest.hex [record] [] sampleInventory none))

def publishedResult (digest : Digest) : ShardResult :=
  ⟨shardPathOf "build" digest.hex,manifestPathOf "build" digest.hex,digest.hex,1,[]⟩

theorem record_built (hvalid : validateExample sampleMessage record = .ok ()) :
    buildContentAddressedShard (digestRuntime digest) "build" [record] none (fun _ => none) =
      .ok (publishedResult digest,publishedFiles digest record) := by
  simp only [buildContentAddressedShard,record_unique hvalid,bind_eq_ok]
  exact ⟨(),rfl,(),forM_eq_ok.mpr (List.forall_mem_singleton.mpr hvalid),_,rfl,_,rfl,(),rfl,(),rfl,rfl⟩

theorem plain_shard_loads : foundationShardDataset (digestRuntime plainDigest) (publishedFiles plainDigest plainRecord)
    (publishedResult plainDigest).shardPath (publishedResult plainDigest).manifestPath = .ok [plainRecord] := by
  have hvalid : validateExample sampleMessage plainRecord = .ok () := promptRecord_valid (.inr rfl)
  refine (built_shard_loads_iff (digestRuntime plainDigest) "build" [plainRecord] [plainRecord] [] none (fun _ => none)
    (publishedFiles plainDigest plainRecord) (publishedResult plainDigest)
    (List.forall_mem_singleton.mpr (promptRecord_native _)) (fun _ inventory h => by cases h; exact sampleInventory_readable)
    (record_built hvalid) (record_unique hvalid)).mpr ?_
  have hbreaks : plainRecord.breaks = false := by decide +kernel
  exact List.forall_mem_singleton.mpr fun c hc => Bool.eq_false_iff.mpr (List.any_eq_false.mp hbreaks c hc)

theorem separator_shard_unloadable :
    buildContentAddressedShard (digestRuntime separatorDigest) "build" [separatorRecord] none (fun _ => none) =
        .ok (publishedResult separatorDigest,publishedFiles separatorDigest separatorRecord) ∧
      foundationShardDataset (digestRuntime separatorDigest) (publishedFiles separatorDigest separatorRecord)
        (publishedResult separatorDigest).shardPath (publishedResult separatorDigest).manifestPath ≠ .ok [separatorRecord] := by
  have hvalid : validateExample sampleMessage separatorRecord = .ok () :=
    promptRecord_valid (.inl rfl)
  have hreadable : ∀ record ∈ [separatorRecord], ReadableRecord (digestRuntime separatorDigest) record :=
    List.forall_mem_singleton.mpr (readable_of_validated (promptRecord_native _) hvalid)
  refine ⟨record_built hvalid,fun h => ?_⟩
  have hshard : publishedFiles separatorDigest separatorRecord (publishedResult separatorDigest).shardPath =
      some (utf8 (String.ofList (shardText [separatorRecord]))) := by
    simp only [publishedResult,publishedFiles]
    rw [publishFile_other _ (paths_differ _ _),publishFile_self]
  have hread := (dataset_of_files sampleInventory_readable (publishFile_self ..) hshard).mp h
  have hbreaks := (readRecords_shardText hreadable).mp hread separatorRecord List.mem_cons_self
  exact absurd hbreaks (by decide +kernel)

end Sample

end PneumaLab.Foundation
