import PneumaLab.Testd.Protocol

namespace PneumaLab.Testd
open Document (joinSurrogates joined IsText)

section Keys

def allKeys : List WireKey :=
  [.applicationFingerprint,.command,.dependencyFingerprint,.exitCode,.kind,.nodeIds,.paths,.protocolVersion,.wideningReason,
    .workerPid]

theorem units_nodup : (allKeys.map WireKey.units).Nodup := by decide

theorem mem_allKeys (key : WireKey) : key ∈ allKeys := by cases key <;> decide

theorem units_inj {key other : WireKey} : key.units = other.units ↔ key = other :=
  ⟨fun h => List.inj_on_of_nodup_map units_nodup (mem_allKeys key) (mem_allKeys other) h,congrArg WireKey.units⟩

theorem units_read (key : WireKey) : IsText key.units ∧ joinSurrogates key.units = key.units := by
  have hall : ∀ other ∈ allKeys, IsText other.units ∧ joinSurrogates other.units = other.units := by decide
  exact hall key (mem_allKeys key)

theorem lookup_cons (key other : WireKey) (v : Document) (rest : List (CodePoints × Document)) :
    lookup ((key.units,v) :: rest) other = if key = other then some v else lookup rest other := by
  rw [lookup,lookup,List.find?_cons]
  by_cases h : key = other
  · simp [h]
  · have hunits : ¬ key.units = other.units := fun hunits => h (units_inj.mp hunits)
    simp [h,hunits]

theorem lookup_entry {entries : List (WireKey × Document)} (hkeys : (entries.map Prod.fst).Nodup) {entry : WireKey × Document}
    (h : entry ∈ entries) : lookup (unitFields entries) entry.1 = some entry.2 := by
  induction entries with
  | nil => cases h
  | cons first rest ih =>
    obtain ⟨hfirst,hrest⟩ := List.nodup_cons.mp hkeys
    rw [unitFields,List.map_cons,lookup_cons]
    obtain rfl | h := List.mem_cons.mp h
    · rw [if_pos rfl]
    · rw [if_neg]
      · exact ih hrest h
      · intro hsame
        exact hfirst (hsame ▸ List.mem_map_of_mem h)

theorem fields_of_lookup {keys : List WireKey} (hkeys : keys.Nodup) {fields other : List (CodePoints × Document)}
    (hfields : fields.map Prod.fst = keys.map WireKey.units) (hother : other.map Prod.fst = keys.map WireKey.units)
    (h : ∀ key ∈ keys, lookup fields key = lookup other key) : fields = other := by
  induction keys generalizing fields other with
  | nil =>
    rw [List.map_nil,List.map_eq_nil_iff] at hfields hother
    rw [hfields,hother]
  | cons key keys ih =>
    obtain ⟨hkey,hrest⟩ := List.nodup_cons.mp hkeys
    obtain ⟨first,fields,rfl,hfirst,hlater⟩ := List.map_eq_cons_iff.mp hfields
    obtain ⟨second,other,rfl,hsecond,hbehind⟩ := List.map_eq_cons_iff.mp hother
    obtain ⟨left,v⟩ := first
    obtain ⟨right,w⟩ := second
    obtain rfl : left = key.units := hfirst
    obtain rfl : right = key.units := hsecond
    have hhead := h key List.mem_cons_self
    rw [lookup_cons,lookup_cons,if_pos rfl,if_pos rfl] at hhead
    cases hhead
    refine congrArg _ (ih hrest hlater hbehind fun next hnext => ?_)
    have hnext' := h next (List.mem_cons_of_mem _ hnext)
    have hne : key ≠ next := fun hsame => hkey (hsame ▸ hnext)
    rwa [lookup_cons,lookup_cons,if_neg hne,if_neg hne] at hnext'

end Keys

section Fields

theorem textOf_eq_some {document : Document} {text : WireText} : textOf document = some text ↔ document = textDocument text := by
  constructor
  · intro h
    cases document with
    | str units =>
      rw [textOf] at h
      split at h
      · obtain rfl := Option.some.inj h
        rfl
      · cases h
    | _ => cases h
  · rintro rfl
    exact dif_pos text.property

theorem textsOf_eq_some {items : List Document} {texts : List WireText} :
    textsOf items = some texts ↔ items = texts.map textDocument := by
  induction items generalizing texts with
  | nil =>
    constructor
    · intro h
      obtain rfl := Option.some.inj h
      rfl
    · intro h
      rw [List.map_eq_nil_iff.mp h.symm]
      rfl
  | cons document rest ih =>
    rw [textsOf]
    constructor
    · intro h
      obtain ⟨text,htext,h⟩ := Option.bind_eq_some_iff.mp h
      obtain ⟨later,hlater,h⟩ := Option.bind_eq_some_iff.mp h
      obtain rfl := Option.some.inj h
      rw [List.map_cons,← textOf_eq_some.mp htext,← ih.mp hlater]
    · intro h
      obtain ⟨text,later,rfl,hdocument,hrest⟩ := List.map_eq_cons_iff.mp h.symm
      rw [textOf_eq_some.mpr hdocument.symm,ih.mpr hrest.symm]
      rfl

theorem textTuple_eq_ok {field : String} {document : Document} {texts : {texts : List WireText // texts.Nodup}} :
    textTuple field document = .ok texts ↔ document = textArray texts.val := by
  cases document with
  | arr items =>
    rw [textTuple]
    constructor
    · intro h
      split at h
      · cases h
      · next found hfound =>
        split at h
        · obtain rfl := Except.ok.inj h
          rw [textsOf_eq_some.mp hfound]
          rfl
        · cases h
    · intro h
      have hitems : textsOf items = some texts.val := textsOf_eq_some.mpr (Document.arr.inj h)
      rw [hitems]
      exact dif_pos texts.property
  | _ => exact ⟨nofun,nofun⟩

theorem nodeIdTuple_eq_ok {document : Document}
    {texts : {texts : List WireText // texts.Nodup ∧ ∀ id ∈ texts, nodeIdShaped id.val = true}} :
    nodeIdTuple document = .ok texts ↔ document = textArray texts.val := by
  rw [nodeIdTuple]
  constructor
  · intro h
    obtain ⟨found,hfound,h⟩ := bind_eq_ok.mp h
    split at h
    · obtain rfl := Except.ok.inj h
      exact textTuple_eq_ok.mp hfound
    · cases h
  · rintro rfl
    have htuple : textTuple "node_ids" (textArray texts.val) = .ok ⟨texts.val,texts.property.1⟩ := textTuple_eq_ok.mpr rfl
    rw [htuple,ok_bind]
    exact dif_pos texts.property.2

theorem commandText_eq_some {document : Document} {command : Command} :
    commandText document = some command ↔ document = .str command.text := by
  constructor
  · intro h
    cases document with
    | str units =>
      have hfound := List.find?_some h
      exact congrArg Document.str (of_decide_eq_true hfound).symm
    | _ => cases h
  · rintro rfl
    cases command <;> rfl

theorem exactExitCode_eq_ok {document : Document} {code : ℕ} :
    exactExitCode document = .ok code ↔ document = .scalar (.int code) := by
  constructor
  · intro h
    cases document with
    | scalar v =>
      cases v with
      | int value =>
        rw [exactExitCode] at h
        split at h
        · next hle =>
          obtain rfl := Except.ok.inj h
          rw [Int.toNat_of_nonneg hle]
        · cases h
      | _ => cases h
    | _ => cases h
  · rintro rfl
    rw [exactExitCode,if_pos (Int.natCast_nonneg code)]
    rfl

theorem exactPid_eq_ok {document : Document} {workerPid : Option {pid : ℕ // 0 < pid}} :
    exactPid document = .ok workerPid ↔ document = pidDocument workerPid := by
  constructor
  · intro h
    cases document with
    | scalar v =>
      cases v with
      | null =>
        obtain rfl := Except.ok.inj h
        rfl
      | int value =>
        rw [exactPid] at h
        split at h
        · next hlt =>
          obtain rfl := Except.ok.inj h
          rw [pidDocument,Int.toNat_of_nonneg hlt.le]
        · cases h
      | _ => cases h
    | _ => cases h
  · rintro rfl
    cases workerPid with
    | none => rfl
    | some pid => exact dif_pos (Int.natCast_pos.mpr pid.property)

theorem requiredText_eq_ok {key : WireKey} {document : Document} {text : WireText} :
    requiredText key document = .ok text ↔ document = textDocument text := by
  rw [requiredText,required_eq_ok,textOf_eq_some]

theorem item_eq_ok {fields : List (CodePoints × Document)} {key : WireKey} {document : Document} :
    item fields key = .ok document ↔ lookup fields key = some document := required_eq_ok

end Fields

section Decoding
variable {fields : List (CodePoints × Document)} {message : WireMessage}

def WireMessage.keys : WireMessage → List WireKey
  | .request _ => requestKeys
  | .result _ => resultKeys

theorem wireFields_keys (message : WireMessage) : message.wireFields.map Prod.fst = message.keys := by
  cases message <;> rfl

theorem keys_nodup (message : WireMessage) : message.keys.Nodup := by
  cases message with
  | request _ => exact (by decide : requestKeys.Nodup)
  | result _ => exact (by decide : resultKeys.Nodup)

def Carries (fields : List (CodePoints × Document)) (message : WireMessage) : Prop :=
  ∀ entry ∈ message.wireFields, entry.1 ≠ .protocolVersion → lookup fields entry.1 = some entry.2

theorem carries_request {request : RunRequest} : Carries fields (.request request) ↔
    lookup fields .command = some (.str request.command.text) ∧ lookup fields .kind = some (.str (codePoints "request")) ∧
      lookup fields .nodeIds = some (textArray request.nodeIds) ∧ lookup fields .paths = some (textArray request.paths) := by
  simp only [Carries,WireMessage.wireFields,List.forall_mem_cons,List.not_mem_nil,IsEmpty.forall_iff,implies_true,ne_eq,
    reduceCtorEq,not_false_eq_true,not_true_eq_false,forall_const,and_true]

theorem carries_result {result : RunResult} : Carries fields (.result result) ↔
    lookup fields .applicationFingerprint = some (textDocument result.applicationFingerprint) ∧
      lookup fields .dependencyFingerprint = some (textDocument result.dependencyFingerprint) ∧
      lookup fields .exitCode = some (.scalar (.int result.exitCode)) ∧ lookup fields .kind = some (.str (codePoints "result")) ∧
      lookup fields .nodeIds = some (textArray result.nodeIds) ∧
      lookup fields .wideningReason = some (textDocument result.wideningReason) ∧
      lookup fields .workerPid = some (pidDocument result.workerPid) := by
  simp only [Carries,WireMessage.wireFields,List.forall_mem_cons,List.not_mem_nil,IsEmpty.forall_iff,implies_true,ne_eq,
    reduceCtorEq,not_false_eq_true,not_true_eq_false,forall_const,and_true,true_and]

theorem decodeRequest_eq_ok (hkind : lookup fields .kind = some (.str (codePoints "request"))) :
    decodeRequest fields = .ok message ↔
      (∃ request, message = .request request) ∧ hasKeys fields message.keys = true ∧ Carries fields message := by
  rw [decodeRequest]
  constructor
  · intro h
    obtain ⟨_,hkeys,h⟩ := bind_eq_ok.mp h
    obtain ⟨command,hcommand,h⟩ := bind_eq_ok.mp h
    obtain ⟨ids,hids,h⟩ := bind_eq_ok.mp h
    obtain ⟨nodeIds,hnodeIds,h⟩ := bind_eq_ok.mp h
    obtain ⟨given,hgiven,h⟩ := bind_eq_ok.mp h
    obtain ⟨paths,hpaths,h⟩ := bind_eq_ok.mp h
    obtain ⟨name,hname,h⟩ := bind_eq_ok.mp h
    obtain rfl := Except.ok.inj h
    refine ⟨⟨_,rfl⟩,demand_eq_ok.mp hkeys,carries_request.mpr ⟨?_,hkind,?_,?_⟩⟩
    · rw [item_eq_ok.mp hcommand,commandText_eq_some.mp (required_eq_ok.mp hname)]
    · rw [item_eq_ok.mp hids,nodeIdTuple_eq_ok.mp hnodeIds]
    · rw [item_eq_ok.mp hgiven,textTuple_eq_ok.mp hpaths]
  · rintro ⟨⟨request,rfl⟩,hkeys,hcarries⟩
    obtain ⟨hcommand,_,hids,hpaths⟩ := carries_request.mp hcarries
    have hnodeIds : nodeIdTuple (textArray request.nodeIds) =
        .ok ⟨request.nodeIds,request.nodeIds_unique,request.nodeIds_shaped⟩ := nodeIdTuple_eq_ok.mpr rfl
    have htuple : textTuple "paths" (textArray request.paths) = .ok ⟨request.paths,request.paths_unique⟩ :=
      textTuple_eq_ok.mpr rfl
    have hdemand : demand (hasKeys fields requestKeys) (.valueError "unknown fields") = .ok () := demand_eq_ok.mpr hkeys
    rw [hdemand,item_eq_ok.mpr hcommand,item_eq_ok.mpr hids,item_eq_ok.mpr hpaths]
    have hcommand' : commandText (.str request.command.text) = some request.command := commandText_eq_some.mpr rfl
    simp only [ok_bind,hnodeIds,htuple,hcommand',required]
    rfl

theorem decodeResult_eq_ok (hkind : lookup fields .kind = some (.str (codePoints "result"))) :
    decodeResult fields = .ok message ↔
      (∃ result, message = .result result) ∧ hasKeys fields message.keys = true ∧ Carries fields message := by
  rw [decodeResult]
  constructor
  · intro h
    obtain ⟨_,hkeys,h⟩ := bind_eq_ok.mp h
    obtain ⟨code,hcode,h⟩ := bind_eq_ok.mp h
    obtain ⟨ids,hids,h⟩ := bind_eq_ok.mp h
    obtain ⟨nodeIds,hnodeIds,h⟩ := bind_eq_ok.mp h
    obtain ⟨pid,hpid,h⟩ := bind_eq_ok.mp h
    obtain ⟨application,happlication,h⟩ := bind_eq_ok.mp h
    obtain ⟨dependency,hdependency,h⟩ := bind_eq_ok.mp h
    obtain ⟨widening,hwidening,h⟩ := bind_eq_ok.mp h
    obtain ⟨exitCode,hexitCode,h⟩ := bind_eq_ok.mp h
    obtain ⟨workerPid,hworkerPid,h⟩ := bind_eq_ok.mp h
    obtain ⟨applicationText,happlicationText,h⟩ := bind_eq_ok.mp h
    obtain ⟨dependencyText,hdependencyText,h⟩ := bind_eq_ok.mp h
    obtain ⟨wideningText,hwideningText,h⟩ := bind_eq_ok.mp h
    obtain rfl := Except.ok.inj h
    refine ⟨⟨_,rfl⟩,demand_eq_ok.mp hkeys,carries_result.mpr ⟨?_,?_,?_,hkind,?_,?_,?_⟩⟩
    · rw [item_eq_ok.mp happlication,requiredText_eq_ok.mp happlicationText]
    · rw [item_eq_ok.mp hdependency,requiredText_eq_ok.mp hdependencyText]
    · rw [item_eq_ok.mp hcode,exactExitCode_eq_ok.mp hexitCode]
    · rw [item_eq_ok.mp hids,nodeIdTuple_eq_ok.mp hnodeIds]
    · rw [item_eq_ok.mp hwidening,requiredText_eq_ok.mp hwideningText]
    · rw [item_eq_ok.mp hpid,exactPid_eq_ok.mp hworkerPid]
  · rintro ⟨⟨result,rfl⟩,hkeys,hcarries⟩
    obtain ⟨happlication,hdependency,hcode,_,hids,hwidening,hpid⟩ := carries_result.mp hcarries
    have hnodeIds : nodeIdTuple (textArray result.nodeIds) =
        .ok ⟨result.nodeIds,result.nodeIds_unique,result.nodeIds_shaped⟩ := nodeIdTuple_eq_ok.mpr rfl
    have hdemand : demand (hasKeys fields resultKeys) (.valueError "unknown fields") = .ok () := demand_eq_ok.mpr hkeys
    rw [hdemand,item_eq_ok.mpr happlication,item_eq_ok.mpr hdependency,item_eq_ok.mpr hcode,
      item_eq_ok.mpr hids,item_eq_ok.mpr hwidening,item_eq_ok.mpr hpid]
    have hread (key : WireKey) (text : WireText) : requiredText key (textDocument text) = .ok text := requiredText_eq_ok.mpr rfl
    have hexit : exactExitCode (.scalar (.int result.exitCode)) = .ok result.exitCode := exactExitCode_eq_ok.mpr rfl
    have hworker : exactPid (pidDocument result.workerPid) = .ok result.workerPid := exactPid_eq_ok.mpr rfl
    simp only [ok_bind,hnodeIds,hexit,hworker,hread]
    rfl

theorem kinds_differ : codePoints "result" ≠ codePoints "request" := by decide

theorem decodeMessage_eq_ok {isOne : String → Bool} {payload : Bytes} :
    decodeMessage isOne payload = .ok message ↔ payload.length ≤ maxMessageBytes ∧ ∃ text fields,
      fromUtf8 payload = some text ∧ Document.loads true text.toList = some (.obj fields) ∧
        versionMatches isOne (lookup fields .protocolVersion) = true ∧ hasKeys fields message.keys = true ∧
          Carries fields message := by
  rw [decodeMessage]
  constructor
  · intro h
    obtain ⟨_,hlength,h⟩ := bind_eq_ok.mp h
    obtain ⟨text,htext,h⟩ := bind_eq_ok.mp h
    obtain ⟨document,hdocument,h⟩ := bind_eq_ok.mp h
    refine ⟨of_decide_eq_true (demand_eq_ok.mp hlength),text,?_⟩
    cases document with
    | obj fields =>
      dsimp only at h
      obtain ⟨_,hversion,h⟩ := bind_eq_ok.mp h
      refine ⟨fields,required_eq_ok.mp htext,required_eq_ok.mp hdocument,demand_eq_ok.mp hversion,?_⟩
      split at h
      · next kind hkind =>
        split at h
        · next hrequest =>
          subst hrequest
          exact ((decodeRequest_eq_ok hkind).mp h).2
        · split at h
          · next hresult =>
            subst hresult
            exact ((decodeResult_eq_ok hkind).mp h).2
          · cases h
      · cases h
    | _ => cases h
  · rintro ⟨hlength,text,fields,htext,hdocument,hversion,hkeys,hcarries⟩
    rw [(@demand_eq_ok _ _ ()).mpr (decide_eq_true hlength),required_eq_ok.mpr htext,ok_bind,ok_bind,required_eq_ok.mpr hdocument,ok_bind]
    dsimp only
    rw [(@demand_eq_ok _ _ ()).mpr hversion,ok_bind]
    cases message with
    | request request =>
      have hkind := (carries_request.mp hcarries).2.1
      rw [hkind]
      dsimp only
      rw [if_pos rfl]
      exact (decodeRequest_eq_ok hkind).mpr ⟨⟨request,rfl⟩,hkeys,hcarries⟩
    | result result =>
      have hkind := (carries_result.mp hcarries).2.2.2.1
      rw [hkind]
      dsimp only
      rw [if_neg kinds_differ,if_pos rfl]
      exact (decodeResult_eq_ok hkind).mpr ⟨⟨result,rfl⟩,hkeys,hcarries⟩

end Decoding

section Encoding
variable {message : WireMessage} {isOne : String → Bool} {payload : Bytes}

theorem encodeMessage_eq_ok : encodeMessage message = .ok payload ↔
    payload = utf8 (String.ofList (Document.dumps message.toWire)) ∧ payload.length ≤ maxMessageBytes := by
  rw [encodeMessage]
  constructor
  · intro h
    split at h
    · cases h
    · next hlength =>
      obtain rfl := Except.ok.inj h
      exact ⟨rfl,not_lt.mp hlength⟩
  · rintro ⟨rfl,hlength⟩
    exact if_neg (not_lt.mpr hlength)

def readEntries (entries : List (WireKey × Document)) : List (WireKey × Document) :=
  entries.map fun entry => (entry.1,joined entry.2)

theorem joined_unitFields (entries : List (WireKey × Document)) :
    Document.joinedFields (unitFields entries) = unitFields (readEntries entries) := by
  induction entries with
  | nil => rfl
  | cons entry rest ih =>
    have hrest : Document.joinedFields (unitFields (entry :: rest)) =
        (joinSurrogates entry.1.units,joined entry.2) :: Document.joinedFields (unitFields rest) := rfl
    rw [hrest,ih,(units_read entry.1).2]
    rfl

theorem read_keys (entries : List (WireKey × Document)) : (readEntries entries).map Prod.fst = entries.map Prod.fst := by
  rw [readEntries,List.map_map]
  rfl

theorem unitFields_keys (entries : List (WireKey × Document)) :
    (unitFields entries).map Prod.fst = (entries.map Prod.fst).map WireKey.units := by
  rw [unitFields,List.map_map,List.map_map]
  rfl

theorem written_array (texts : List WireText) : Document.Written true (textArray texts) := by
  rw [textArray,Document.Written]
  induction texts with
  | nil => exact trivial
  | cons text rest ih => exact ⟨text.property.2,ih⟩

theorem written_fields {entries : List (WireKey × Document)} (h : ∀ entry ∈ entries, Document.Written true entry.2) :
    Document.WrittenFields true (unitFields entries) := by
  induction entries with
  | nil => exact trivial
  | cons entry rest ih =>
    obtain ⟨hentry,hrest⟩ := List.forall_mem_cons.mp h
    exact ⟨(units_read entry.1).1,hentry,ih hrest⟩

theorem written_ascii : (∀ command ∈ commands, IsText command.text ∧ joinSurrogates command.text = command.text) ∧
    ∀ kind ∈ [codePoints "request",codePoints "result"], IsText kind ∧ joinSurrogates kind = kind := by decide

theorem command_read (command : Command) : IsText command.text ∧ joinSurrogates command.text = command.text :=
  written_ascii.1 command (by cases command <;> decide)

theorem written_entries (message : WireMessage) : ∀ entry ∈ message.wireFields, Document.Written true entry.2 := by
  cases message with
  | request request =>
    simp only [WireMessage.wireFields,List.forall_mem_cons,List.not_mem_nil,IsEmpty.forall_iff,implies_true,and_true]
    exact ⟨(command_read request.command).1,(written_ascii.2 _ List.mem_cons_self).1,written_array _,written_array _,trivial⟩
  | result result =>
    have hpid : Document.Written true (pidDocument result.workerPid) := by
      cases result.workerPid <;> exact trivial
    simp only [WireMessage.wireFields,List.forall_mem_cons,List.not_mem_nil,IsEmpty.forall_iff,implies_true,and_true]
    exact ⟨result.applicationFingerprint.property.2,result.dependencyFingerprint.property.2,trivial,
      (written_ascii.2 _ (List.mem_cons_of_mem _ List.mem_cons_self)).1,written_array _,trivial,result.wideningReason.property.2,hpid⟩

theorem written_message (message : WireMessage) : Document.Written true message.toWire := by
  refine ⟨fun _ => ?_,written_fields (written_entries message)⟩
  rw [joined_unitFields,unitFields_keys,read_keys,wireFields_keys]
  exact (keys_nodup message).map fun _ _ h => units_inj.mp h

theorem loads_message (message : WireMessage) :
    Document.loads true (Document.dumps message.toWire) = some (.obj (unitFields (readEntries message.wireFields))) := by
  rw [Document.loads_dumps (written_message message),WireMessage.toWire,joined,joined_unitFields]

end Encoding

section Unpaired

def WireMessage.texts : WireMessage → List WireText
  | .request message => message.nodeIds ++ message.paths
  | .result message =>
    message.nodeIds ++ [message.applicationFingerprint,message.dependencyFingerprint,message.wideningReason]

-- No text of the message holds a high surrogate directly before a low one.
def WireMessage.Unpaired (message : WireMessage) : Prop := ∀ text ∈ message.texts, Document.Unpaired text.val

theorem joined_text (text : WireText) : joined (textDocument text) = textDocument text ↔ Document.Unpaired text.val := by
  rw [← Document.join_eq_self_iff,textDocument,joined,Document.str.injEq]

theorem joined_array (texts : List WireText) :
    joined (textArray texts) = textArray texts ↔ ∀ text ∈ texts, Document.Unpaired text.val := by
  rw [textArray,joined,Document.arr.injEq]
  induction texts with
  | nil => simp [Document.joinedItems]
  | cons text rest ih => rw [List.map_cons,Document.joinedItems,List.cons_eq_cons,joined_text,ih,List.forall_mem_cons]

theorem joined_entries (message : WireMessage) :
    (∀ entry ∈ message.wireFields, joined entry.2 = entry.2) ↔ message.Unpaired := by
  cases message with
  | request request =>
    have hcommand : joined (.str request.command.text) = .str request.command.text :=
      congrArg Document.str (command_read request.command).2
    have hkind : joined (.str (codePoints "request")) = .str (codePoints "request") :=
      congrArg Document.str (written_ascii.2 _ List.mem_cons_self).2
    have hversion : joined (.scalar (.int protocolVersion)) = .scalar (.int protocolVersion) := rfl
    simp only [WireMessage.wireFields,List.forall_mem_cons,List.not_mem_nil,IsEmpty.forall_iff,implies_true,and_true,
      hcommand,hkind,hversion,joined_array,true_and,WireMessage.Unpaired,WireMessage.texts,List.forall_mem_append]
  | result result =>
    have hpid : joined (pidDocument result.workerPid) = pidDocument result.workerPid := by
      cases result.workerPid <;> rfl
    have hkind : joined (.str (codePoints "result")) = .str (codePoints "result") :=
      congrArg Document.str (written_ascii.2 _ (List.mem_cons_of_mem _ List.mem_cons_self)).2
    have hscalar (n : ℤ) : joined (.scalar (.int n)) = .scalar (.int n) := rfl
    simp only [WireMessage.wireFields,List.forall_mem_cons,List.not_mem_nil,IsEmpty.forall_iff,implies_true,and_true,
      hkind,hscalar,hpid,joined_text,joined_array,true_and,WireMessage.Unpaired,WireMessage.texts,List.forall_mem_append]
    constructor
    · rintro ⟨happlication,hdependency,hids,hwidening⟩
      exact ⟨hids,happlication,hdependency,hwidening⟩
    · rintro ⟨hids,happlication,hdependency,hwidening⟩
      exact ⟨happlication,hdependency,hids,hwidening⟩

theorem readEntries_unpaired {message : WireMessage} (h : message.Unpaired) :
    readEntries message.wireFields = message.wireFields := by
  rw [readEntries]
  conv_rhs => rw [← List.map_id message.wireFields]
  refine List.map_congr_left fun entry hentry => ?_
  rw [(joined_entries message).mpr h entry hentry]
  rfl

theorem version_entry (message : WireMessage) : ∀ entry ∈ message.wireFields, entry.1 = .protocolVersion →
    entry.2 = .scalar (.int protocolVersion) := by
  cases message <;> simp [WireMessage.wireFields]

theorem carries_read (message : WireMessage) : Carries (unitFields (readEntries message.wireFields)) message ↔ message.Unpaired := by
  have hnodup : ((readEntries message.wireFields).map Prod.fst).Nodup := by
    rw [read_keys,wireFields_keys]
    exact keys_nodup message
  have hread (entry : WireKey × Document) (h : entry ∈ message.wireFields) :
      lookup (unitFields (readEntries message.wireFields)) entry.1 = some (joined entry.2) := by
    have hmem : (entry.1,joined entry.2) ∈ readEntries message.wireFields := List.mem_map_of_mem h
    exact lookup_entry hnodup hmem
  rw [← joined_entries]
  constructor
  · intro hcarries entry hentry
    by_cases hversion : entry.1 = .protocolVersion
    · rw [version_entry message entry hentry hversion]
      rfl
    · have hlookup := hcarries entry hentry hversion
      rw [hread entry hentry] at hlookup
      exact Option.some.inj hlookup
  · intro hsame entry hentry _
    rw [hread entry hentry,hsame entry hentry]

end Unpaired

section Canonical
variable {message : WireMessage} {isOne : String → Bool} {payload : Bytes}

-- A payload is canonical where it is what json.dumps writes for the dict it is read as, its keys in sorted order and its
-- version the integer 1.
def Canonical (payload : Bytes) : Prop :=
  ∃ fields, payload = utf8 (String.ofList (Document.dumps (.obj fields))) ∧
    Document.loads true (Document.dumps (.obj fields)) = some (.obj fields) ∧
      (fields.map Prod.fst = requestKeys.map WireKey.units ∨ fields.map Prod.fst = resultKeys.map WireKey.units) ∧
        lookup fields .protocolVersion = some (.scalar (.int protocolVersion))

theorem hasKeys_entries {entries : List (WireKey × Document)} {keys : List WireKey} (h : entries.map Prod.fst = keys) :
    hasKeys (unitFields entries) keys = true := by
  subst h
  rw [hasKeys,Bool.and_eq_true,List.all_eq_true,List.all_eq_true,unitFields_keys]
  constructor
  · intro field hfield
    refine decide_eq_true ?_
    rw [← unitFields_keys]
    exact List.mem_map_of_mem hfield
  · exact fun key hkey => decide_eq_true (List.mem_map_of_mem hkey)

theorem keys_of_has {fields : List (CodePoints × Document)} (hhas : hasKeys fields message.keys = true)
    (hkeys : fields.map Prod.fst = requestKeys.map WireKey.units ∨ fields.map Prod.fst = resultKeys.map WireKey.units) :
    fields.map Prod.fst = message.keys.map WireKey.units := by
  rw [hasKeys,Bool.and_eq_true,List.all_eq_true,List.all_eq_true] at hhas
  have hnamed (key : WireKey) (hkey : key ∈ message.keys) : key.units ∈ fields.map Prod.fst :=
    of_decide_eq_true (hhas.2 key hkey)
  have hlisted {keys : List WireKey} {key : WireKey} (hunits : key.units ∈ keys.map WireKey.units) : key ∈ keys := by
    obtain ⟨other,hother,hsame⟩ := List.mem_map.mp hunits
    exact units_inj.mp hsame ▸ hother
  cases message with
  | request _ =>
    obtain hkeys | hkeys := hkeys
    · exact hkeys
    · have hcommand := hnamed .command List.mem_cons_self
      rw [hkeys] at hcommand
      exact absurd (hlisted hcommand) (by decide)
  | result _ =>
    obtain hkeys | hkeys := hkeys
    · have hfingerprint := hnamed .applicationFingerprint List.mem_cons_self
      rw [hkeys] at hfingerprint
      exact absurd (hlisted hfingerprint) (by decide)
    · exact hkeys

theorem decode_encoded (h : encodeMessage message = .ok payload) :
    decodeMessage isOne payload = .ok message ↔ message.Unpaired := by
  obtain ⟨rfl,hlength⟩ := encodeMessage_eq_ok.mp h
  have hnodup : ((readEntries message.wireFields).map Prod.fst).Nodup := by
    rw [read_keys,wireFields_keys]
    exact keys_nodup message
  rw [decodeMessage_eq_ok,← carries_read]
  constructor
  · rintro ⟨_,text,fields,htext,hload,_,_,hcarries⟩
    rw [fromUtf8_utf8] at htext
    obtain rfl := Option.some.inj htext
    rw [String.toList_ofList,loads_message] at hload
    cases hload
    exact hcarries
  · intro hcarries
    refine ⟨hlength,_,_,fromUtf8_utf8 _,?_,?_,?_,hcarries⟩
    · rw [String.toList_ofList,loads_message]
    · have hentries := readEntries_unpaired ((carries_read message).mp hcarries)
      have hmem : (WireKey.protocolVersion,Document.scalar (.int protocolVersion)) ∈ readEntries message.wireFields := by
        rw [hentries]
        cases message <;> simp [WireMessage.wireFields]
      rw [lookup_entry hnodup hmem]
      rfl
    · exact hasKeys_entries ((read_keys _).trans (wireFields_keys message))

theorem encode_decoded (h : decodeMessage isOne payload = .ok message) :
    encodeMessage message = .ok payload ↔ Canonical payload := by
  constructor
  · intro hencode
    -- what was read holds no pair, so the message is written and read back unchanged
    have hentries := readEntries_unpaired ((decode_encoded hencode).mp h)
    obtain ⟨hpayload,_⟩ := encodeMessage_eq_ok.mp hencode
    have hnodup : (message.wireFields.map Prod.fst).Nodup := by
      rw [wireFields_keys]
      exact keys_nodup message
    refine ⟨unitFields message.wireFields,hpayload,?_,?_,?_⟩
    · have hload := loads_message message
      rwa [hentries] at hload
    · rw [unitFields_keys,wireFields_keys]
      cases message with
      | request _ => exact .inl rfl
      | result _ => exact .inr rfl
    · have hmem : (WireKey.protocolVersion,Document.scalar (.int protocolVersion)) ∈ message.wireFields := by
        cases message <;> simp [WireMessage.wireFields]
      exact lookup_entry hnodup hmem
  · rintro ⟨fields,rfl,hload,hkeys,hversion⟩
    obtain ⟨hlength,text,found,htext,hread,_,hhas,hcarries⟩ := decodeMessage_eq_ok.mp h
    rw [fromUtf8_utf8] at htext
    obtain rfl := Option.some.inj htext
    rw [String.toList_ofList,hload] at hread
    cases hread
    have hnodup : (message.wireFields.map Prod.fst).Nodup := by
      rw [wireFields_keys]
      exact keys_nodup message
    have hsame : fields = unitFields message.wireFields := by
      refine fields_of_lookup (keys_nodup message) (keys_of_has hhas hkeys) ?_ fun key hkey => ?_
      · rw [unitFields_keys,wireFields_keys]
      · rw [← wireFields_keys] at hkey
        obtain ⟨entry,hentry,rfl⟩ := List.mem_map.mp hkey
        rw [lookup_entry hnodup hentry]
        by_cases hentryVersion : entry.1 = .protocolVersion
        · rw [hentryVersion,hversion,version_entry message entry hentry hentryVersion]
        · exact hcarries entry hentry hentryVersion
    exact encodeMessage_eq_ok.mpr ⟨by rw [hsame]; rfl,hlength⟩

theorem codec_canonical_iff (isOne : String → Bool) :
    (∀ message payload, encodeMessage message = .ok payload →
      (decodeMessage isOne payload = .ok message ↔ message.Unpaired)) ∧
    ∀ payload message, decodeMessage isOne payload = .ok message → (encodeMessage message = .ok payload ↔ Canonical payload) :=
  ⟨fun _ _ h => decode_encoded h,fun _ _ h => encode_decoded h⟩

end Canonical

section Sample

def stopRequest : RunRequest := ⟨.stop,[],[],.nil,by simp,.nil⟩

def stopPayload : Bytes := utf8 (String.ofList (Document.dumps (WireMessage.request stopRequest).toWire))

theorem stop_encoded : encodeMessage (.request stopRequest) = .ok stopPayload :=
  encodeMessage_eq_ok.mpr ⟨rfl,by decide⟩

def namedTest : WireText := ⟨codePoints "tests/a.py::test_b",by decide,by decide⟩

-- U+1F600 is written as a pair of surrogates.
def accentedPath : WireText := ⟨[233,47,128512],by decide,by decide⟩

def namedRequest : RunRequest where
  command := .run
  nodeIds := [namedTest]
  paths := [accentedPath]
  nodeIds_unique := List.nodup_singleton _
  nodeIds_shaped := List.forall_mem_singleton.mpr (by decide)
  paths_unique := List.nodup_singleton _

def namedPayload : Bytes := utf8 (String.ofList (Document.dumps (WireMessage.request namedRequest).toWire))

theorem named_encoded : encodeMessage (.request namedRequest) = .ok namedPayload :=
  encodeMessage_eq_ok.mpr ⟨rfl,by decide⟩

theorem named_unpaired : (WireMessage.request namedRequest).Unpaired := by
  intro text htext
  change text ∈ [namedTest,accentedPath] at htext
  simp only [List.mem_cons,List.not_mem_nil,or_false] at htext
  obtain rfl | rfl := htext <;> exact Document.join_eq_self_iff.mp (by decide)

theorem named_round_trip :
    decodeMessage (fun text => text == "1.0") namedPayload = .ok (.request namedRequest) ∧ Canonical namedPayload := by
  obtain ⟨hdecode,hencode⟩ := codec_canonical_iff fun text => text == "1.0"
  have hdecoded := (hdecode _ _ named_encoded).mpr named_unpaired
  exact ⟨hdecoded,(hencode _ _ hdecoded).mp named_encoded⟩

def trueEntries : List (WireKey × Document) :=
  [(.command,.str Command.stop.text),(.kind,.str (codePoints "request")),(.nodeIds,textArray []),(.paths,textArray []),
    (.protocolVersion,.scalar (.bool true))]

def truePayload : Bytes := utf8 (String.ofList (Document.dumps (.obj (unitFields trueEntries))))

theorem true_keys : trueEntries.map Prod.fst = requestKeys := rfl

theorem true_lookup {entry : WireKey × Document} (h : entry ∈ trueEntries) :
    lookup (unitFields trueEntries) entry.1 = some entry.2 :=
  lookup_entry (true_keys ▸ keys_nodup (.request stopRequest)) h

theorem true_loads : Document.loads true (Document.dumps (.obj (unitFields trueEntries))) = some (.obj (unitFields trueEntries)) := by
  have hwritten : ∀ entry ∈ trueEntries, Document.Written true entry.2 := by
    simp only [trueEntries,List.forall_mem_cons,List.not_mem_nil,IsEmpty.forall_iff,implies_true,and_true]
    exact ⟨(command_read .stop).1,(written_ascii.2 _ List.mem_cons_self).1,written_array [],written_array [],trivial⟩
  have hread : readEntries trueEntries = trueEntries := by
    simp only [readEntries,trueEntries,List.map_cons,List.map_nil,joined,(command_read .stop).2,
      (written_ascii.2 _ List.mem_cons_self).2]
    rfl
  have hdocument : Document.Written true (.obj (unitFields trueEntries)) := by
    refine ⟨fun _ => ?_,written_fields hwritten⟩
    rw [joined_unitFields,hread,unitFields_keys,true_keys]
    exact (keys_nodup (.request stopRequest)).map fun _ _ h => units_inj.mp h
  rw [Document.loads_dumps hdocument,joined,joined_unitFields,hread]

theorem true_decoded : decodeMessage (fun text => text == "1.0") truePayload = .ok (.request stopRequest) := by
  refine decodeMessage_eq_ok.mpr ⟨by decide,_,_,fromUtf8_utf8 _,?_,?_,hasKeys_entries true_keys,carries_request.mpr ?_⟩
  · rw [String.toList_ofList,true_loads]
  · rw [@true_lookup (.protocolVersion,.scalar (.bool true)) (by simp [trueEntries])]
    rfl
  · exact ⟨@true_lookup (.command,.str Command.stop.text) (by simp [trueEntries]),
      @true_lookup (.kind,.str (codePoints "request")) (by simp [trueEntries]),
      @true_lookup (.nodeIds,textArray []) (by simp [trueEntries]),@true_lookup (.paths,textArray []) (by simp [trueEntries])⟩

theorem true_version_accepted : ¬ ∀ (payload : Bytes) (message : WireMessage),
    decodeMessage (fun text => text == "1.0") payload = .ok message → encodeMessage message = .ok payload := by
  intro hcanonical
  have hencoded := hcanonical truePayload (.request stopRequest) true_decoded
  rw [stop_encoded] at hencoded
  have hsame := congrArg String.toList (utf8_injective (Except.ok.inj hencoded))
  rw [String.toList_ofList,String.toList_ofList] at hsame
  exact absurd hsame (by decide)

end Sample

end PneumaLab.Testd
