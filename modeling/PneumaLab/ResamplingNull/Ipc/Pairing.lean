import PneumaLab.ResamplingNull.Ipc.Exchange
import PneumaLab.ResamplingNull.Prefix.Environment

namespace PneumaLab.ResamplingNull.Ipc

section Frames
variable {platform : Platform}

theorem exchangePayload_eq (message : Json) : exchangePayload message = workerCanonical message := by
  rw [exchangePayload,workerCanonical]
  split
  · have hbytes : canonicalJsonBytes message = utf8 (String.ofList message.dumps) ++ [newline] := by
      rw [canonicalJsonBytes,utf8_ofList,utf8_ofList,encoded_append]
      rfl
    simp only [hbytes,List.getLast?_concat,if_true,List.dropLast_concat]
  · rfl

theorem okFrame_keys : List.Pairwise (· < ·) ["ok","value"] := by decide

theorem errorFrame_keys : List.Pairwise (· < ·) ["error","ok"] := by decide

theorem okFrame_native {value : Json} (h : value.Native platform.floatRepr) : (okFrame value).Native platform.floatRepr :=
  ⟨okFrame_keys,trivial,h,trivial⟩

theorem errorFrame_native (text : String) : (errorFrame text).Native platform.floatRepr :=
  ⟨errorFrame_keys,trivial,trivial,trivial⟩

theorem errorFrame_canonical (text : String) :
    workerCanonical (errorFrame text) = some (utf8 (String.ofList (errorFrame text).dumps)) := if_pos rfl

theorem exchangeValue_eq_some {response value : Json} : exchangeValue response = some value ↔ response = okFrame value := by
  constructor
  · intro h
    unfold exchangeValue at h
    split at h
    · cases h
      rfl
    · cases h
  · rintro rfl
    rfl

theorem errorFrame_opens (text : String) : ∃ tail, encoded (errorFrame text).dumps = 0x7B :: 0x22 :: 0x65 :: tail :=
  ⟨_,rfl⟩

theorem okFrame_opens (value : Json) : ∃ tail, encoded (okFrame value).dumps = 0x7B :: 0x22 :: 0x6F :: tail := ⟨_,rfl⟩

-- A reply of the worker as it stands in the pipe, without its newline.
def Reply (outcome : Outcome platform) (whole : Bytes) : Prop :=
  ∃ value, outcome.answer = some value ∧ workerCanonical (okFrame value) = some whole

def Report (whole : Bytes) : Prop := ∃ before text, newline ∉ before ∧ whole = before ++ encoded (errorFrame text).dumps

theorem answer_native {outcome : Outcome platform} {value : Json} (h : outcome.answer = some value) :
    value.Native platform.floatRepr := by
  cases outcome with
  | reply v =>
    cases h
    exact v.native
  | refuse text => cases h
  | close =>
    cases h
    exact trivial

theorem Reply.unbroken {outcome : Outcome platform} {whole : Bytes} (h : Reply outcome whole) : newline ∉ whole := by
  obtain ⟨value,hvalue,hwhole⟩ := h
  exact canonical_unbroken (okFrame_native (answer_native hvalue)) hwhole

theorem Report.unbroken {whole : Bytes} (h : Report whole) (platform : Platform) : newline ∉ whole := by
  obtain ⟨before,text,hbefore,rfl⟩ := h
  have hreport := canonical_unbroken (@errorFrame_native platform text) (errorFrame_canonical text)
  rw [utf8_ofList] at hreport
  rw [List.mem_append,not_or]
  exact ⟨hbefore,hreport⟩

theorem Reply.read {outcome : Outcome platform} {whole : Bytes} (h : Reply outcome whole) :
    (strictCompactJson platform whole).bind exchangeValue = outcome.answer := by
  obtain ⟨value,hvalue,hwhole⟩ := h
  rw [strictCompactJson_canonical (okFrame_native (answer_native hvalue)) hwhole,hvalue]
  rfl

theorem Report.read {whole : Bytes} (h : Report whole) (hlaw : Json.WritesFloats platform.floatRepr) :
    (strictCompactJson platform whole).bind exchangeValue = none := by
  obtain ⟨before,text,-,rfl⟩ := h
  rw [Option.eq_none_iff_forall_not_mem]
  intro value hvalue
  obtain ⟨response,hresponse,hok⟩ := Option.bind_eq_some_iff.mp hvalue
  obtain ⟨hcanonical,source,hsource⟩ := strictCompactJson_sound hresponse
  rw [exchangeValue_eq_some.mp hok] at hcanonical hsource
  obtain ⟨hfinite,hbytes⟩ : (okFrame value).finite = true ∧
      encoded (okFrame value).dumps = before ++ encoded (errorFrame text).dumps := by
    rw [workerCanonical] at hcanonical
    split at hcanonical
    · next hfinite =>
      rw [utf8_ofList,Option.some.injEq] at hcanonical
      exact ⟨hfinite,hcanonical⟩
    · cases hcanonical
  obtain ⟨tail,htail⟩ := errorFrame_opens text
  cases before with
  | nil =>
    obtain ⟨other,hother⟩ := okFrame_opens value
    rw [List.nil_append,htail,hother] at hbytes
    exact absurd (List.cons.inj (List.cons.inj (List.cons.inj hbytes).2).2).1 (by decide)
  | cons b rest =>
    have herror : Json.NumericFields [("error",.str text),("ok",.bool false)] := ⟨trivial,trivial,trivial⟩
    exact Json.Scan.encoded_ne_append (Json.loads_numeric hlaw hsource hfinite) herror (List.cons_ne_nil b rest)
      htail (by decide) hbytes

theorem report_cases (text : String) : report text = .exited ∨
    report text = .reporting (encoded (errorFrame text).dumps ++ [newline]) := by
  rw [report,errorFrame_canonical]
  simp only [utf8_ofList]
  split
  · exact .inl rfl
  · exact .inr rfl

end Frames

section Statement
variable {platform : Platform} {σ : Type}

def Call.text (call : Call platform) : Json := call.message.value

structure Matched (s : State platform σ) : Prop where
  ordered : s.served.map Prod.fst <+: s.sent.map Call.text
  once : (s.sent.map Call.index).Pairwise (· < ·)
  paired : ∀ (call : Call platform) (value : Json), (call,value) ∈ s.returned →
    ∃ (position : ℕ) (outcome : Outcome platform), s.sent[position]? = some call ∧
      s.served[position]? = some (call.text,outcome) ∧ outcome.answer = some value

def Rested (s : State platform σ) : Prop :=
  s.worker.running = false ∨ s.worker = .reading [] ∧ s.requests = [] ∧ s.responses = []

def StartsRested (s : State platform σ) (action : Action platform) : Prop :=
  ∀ message payload, action = .call message → exchangePayload message.value = some payload →
    payload.length ≤ maxFrameBytes → Rested s

inductive Reachable (program : WorkerProgram platform σ) (allowed : State platform σ → Action platform → Prop) :
    State platform σ → Prop where
  | opened (memory : σ) : Reachable program allowed (.opened memory)
  | step {s t : State platform σ} {action : Action platform} : Reachable program allowed s → allowed s action →
    step program s action = some t → Reachable program allowed t

end Statement

section Invariant
variable {platform : Platform} {σ : Type}

def Framed (message : Json) (frame : Bytes) : Prop :=
  ∃ payload, workerCanonical message = some payload ∧ payload.length ≤ maxFrameBytes ∧ frame = payload ++ [newline]

def Aligned (sent : List (Call platform)) (served : List (Json × Outcome platform)) : Prop :=
  served.map Prod.fst = sent.map Call.text

inductive Inbound (sent : List (Call platform)) (served : List (Json × Outcome platform)) (received : Bytes) : Prop where
  | unfinished {rest whole : Bytes} : rest ≠ [] → received ++ rest = whole ++ [newline] → newline ∉ whole →
    whole.length ≤ maxFrameBytes → Aligned sent served → Inbound sent served received
  | delivered {before : List (Call platform)} {call : Call platform} : sent = before ++ [call] →
    Framed call.text received → Aligned before served → Inbound sent served received

structure WritingAt (s : State platform σ) (call : Call platform) (rest : Bytes) : Prop where
  index : call.index < s.calls
  later : ∀ earlier ∈ s.sent, earlier.index < call.index
  unsent : rest ≠ []
  alone : s.worker.running = true → s.responses = [] ∧ Aligned s.sent s.served ∧
    ∃ chunks, s.worker = .reading chunks ∧ Framed call.text (chunks ++ s.requests ++ rest)

def Remaining (outcome : Outcome platform) (whole requests rest : Bytes) : WorkerPhase → Prop
  | .reading chunks => chunks = [] ∧ requests = [] ∧ rest = []
  | .replying unsent _ => unsent = rest ∧ Reply outcome whole ∧ unsent ≠ []
  | .reporting unsent => unsent = rest
  | .exited => True

inductive ReadingAt (s : State platform σ) (call : Call platform) (received : Bytes) : Prop where
  | waiting {before : List (Call platform)} {chunks : Bytes} : s.sent = before ++ [call] → s.responses = [] → received = [] →
    s.worker = .reading chunks → Framed call.text (chunks ++ s.requests) → ReadingAt s call received
  | answering {before : List (Call platform)} {earlier : List (Json × Outcome platform)} {outcome : Outcome platform}
    {whole rest : Bytes} : s.sent = before ++ [call] → s.served = earlier ++ [(call.text,outcome)] →
    earlier.length = before.length → received ++ s.responses ++ rest = whole ++ [newline] →
    Reply outcome whole ∨ Report whole → Remaining outcome whole s.requests rest s.worker → ReadingAt s call received

structure Linked (s : State platform σ) : Prop extends Matched s where
  numbered : ∀ call ∈ s.sent, call.index < s.calls
  inbound : ∀ chunks, s.worker = .reading chunks → Inbound s.sent s.served (chunks ++ s.requests)
  busy : s.worker.running = true → (∀ chunks, s.worker ≠ .reading chunks) → s.requests = [] ∧ Aligned s.sent s.served
  writing : ∀ call rest, s.controller = .writing call rest → WritingAt s call rest
  reading : ∀ call received, s.controller = .reading call received → ReadingAt s call received

theorem Linked.opened (memory : σ) : Linked (.opened memory : State platform σ) where
  ordered := List.nil_prefix
  once := List.Pairwise.nil
  paired _ _ h := by cases h
  numbered _ h := by cases h
  inbound chunks h := by
    cases h
    exact @Inbound.unfinished _ _ _ _ [newline] [] (by simp) rfl (by simp) (Nat.zero_le _) rfl
  busy _ h := absurd rfl (h [])
  writing _ _ h := by cases h
  reading _ _ h := by cases h

theorem Linked.raised {s : State platform σ} (h : Linked s) : Linked {s with controller := .idle} where
  ordered := h.ordered
  once := h.once
  paired := h.paired
  numbered := h.numbered
  inbound := h.inbound
  busy := h.busy
  writing _ _ hphase := by cases hphase
  reading _ _ hphase := by cases hphase

theorem getElem?_snoc {α : Type} {xs : List α} {position : ℕ} {x : α} (h : xs[position]? = some x) (y : α) :
    (xs ++ [y])[position]? = some x := by
  obtain ⟨hlt,-⟩ := List.getElem?_eq_some_iff.mp h
  rw [List.getElem?_append_left hlt]
  exact h

theorem Linked.begun {s : State platform σ} (h : Linked s) {message : PyJson platform} (hidle : s.controller = .idle)
    (hrested : StartsRested s (.call message)) : Linked (begin message s) := by
  have hcounted : Linked {s with calls := s.calls + 1} := {
    ordered := h.ordered
    once := h.once
    paired := h.paired
    numbered := fun call hcall => Nat.lt_succ_of_lt (h.numbered call hcall)
    inbound := h.inbound
    busy := h.busy
    writing := fun call rest hphase => absurd (hidle.symm.trans hphase) (by simp)
    reading := fun call received hphase => absurd (hidle.symm.trans hphase) (by simp)}
  rw [begin]
  split
  · exact hcounted
  · next payload hpayload =>
    split
    · exact hcounted
    · next hfits =>
      have hframed : Framed message.value (payload ++ [newline]) :=
        ⟨payload,by rw [← exchangePayload_eq]; exact hpayload,not_lt.mp hfits,rfl⟩
      have hstart := hrested message payload rfl hpayload (not_lt.mp hfits)
      refine ⟨⟨h.ordered,h.once,h.paired⟩,hcounted.numbered,h.inbound,h.busy,?_,fun call received hphase => by cases hphase⟩
      intro call rest hphase
      cases hphase
      refine ⟨Nat.lt_succ_self _,h.numbered,by simp,fun hrunning => ?_⟩
      rcases hstart with hdead | ⟨hworker,hrequests,hresponses⟩
      · exact absurd (hdead.symm.trans hrunning) (by simp)
      · have hstream : [] ++ s.requests ++ (payload ++ [newline]) = payload ++ [newline] := by rw [hrequests]; rfl
        refine ⟨hresponses,?_,[],hworker,by rw [hstream]; exact hframed⟩
        cases h.inbound [] hworker with
        | unfinished _ _ _ _ haligned => exact haligned
        | delivered _ hframed _ =>
          obtain ⟨other,_,_,hempty⟩ := hframed
          rw [hrequests] at hempty
          exact absurd hempty.symm (by simp)

theorem Linked.controllerWrote {s t : State platform σ} (h : Linked s) {call : Call platform} {rest : Bytes} {count : ℕ}
    (hphase : s.controller = .writing call rest) (hstep : controllerWrite call rest count s = some t) : Linked t := by
  obtain ⟨hindex,hlater,-,halone⟩ := h.writing call rest hphase
  rw [controllerWrite] at hstep
  split at hstep
  · next hrunning =>
    obtain ⟨hresponses,haligned,chunks,hworker,hframed⟩ := halone hrunning
    have hbusy {requests : Bytes} {sent : List (Call platform)} (hnot : ∀ chunks, s.worker ≠ .reading chunks) :
        requests = [] ∧ s.served.map Prod.fst = sent.map Call.text := absurd hworker (hnot chunks)
    split at hstep
    · split at hstep
      · next hnone =>
        have htake : rest.take count = rest := by
          have hsplit := List.take_append_drop count rest
          rw [hnone,List.append_nil] at hsplit
          exact hsplit
        cases hstep
        rw [List.append_assoc] at hframed
        refine ⟨⟨?_,?_,?_⟩,?_,?_,fun _ => hbusy,fun _ _ hidle => (by cases hidle),?_⟩
        · rw [List.map_append]
          exact h.ordered.trans (List.prefix_append _ _)
        · rw [List.map_append,List.pairwise_append]
          refine ⟨h.once,List.pairwise_singleton _ _,?_⟩
          intro earlier hearlier later hlast
          obtain ⟨other,hother,rfl⟩ := List.mem_map.mp hearlier
          rw [List.mem_singleton.mp hlast]
          exact hlater other hother
        · intro other value hreturned
          obtain ⟨position,outcome,hsent,hserved,hanswer⟩ := h.paired other value hreturned
          exact ⟨position,outcome,getElem?_snoc hsent call,hserved,hanswer⟩
        · intro other hother
          rcases List.mem_append.mp hother with hearlier | hlast
          · exact h.numbered other hearlier
          · rw [List.mem_singleton.mp hlast]
            exact hindex
        · intro chunks' hworker'
          cases hworker.symm.trans hworker'
          exact .delivered rfl (by rw [htake]; exact hframed) haligned
        · intro other received hreading
          cases hreading
          exact .waiting rfl hresponses rfl hworker (by rw [htake]; exact hframed)
      · next hsome =>
        cases hstep
        have hstream : chunks ++ (s.requests ++ rest.take count) ++ rest.drop count = chunks ++ s.requests ++ rest := by
          rw [List.append_assoc,List.append_assoc s.requests,List.take_append_drop,List.append_assoc]
        refine ⟨⟨h.ordered,h.once,h.paired⟩,h.numbered,?_,fun _ => hbusy,?_,fun _ _ hreading => by cases hreading⟩
        · intro chunks' hworker'
          cases hworker.symm.trans hworker'
          obtain ⟨payload,hpayload,hlength,hframe⟩ := hframed
          exact .unfinished hsome (hstream.trans hframe) (canonical_unbroken call.message.native hpayload) hlength haligned
        · intro other unsent hwriting
          cases hwriting
          exact ⟨hindex,hlater,hsome,fun _ => ⟨hresponses,haligned,chunks,hworker,hstream ▸ hframed⟩⟩
    · cases hstep
  · cases hstep
    exact h.raised

theorem Linked.controllerTook {s t : State platform σ} (hlaw : Json.WritesFloats platform.floatRepr) (h : Linked s)
    {call : Call platform} {received : Bytes} {count : ℕ} (hphase : s.controller = .reading call received)
    (hstep : controllerRead call received count s = some t) : Linked t := by
  have hreading := h.reading call received hphase
  rw [controllerRead] at hstep
  split at hstep
  · split at hstep
    · cases hstep
    · cases hstep
      exact h.raised
  · next hpending =>
    split at hstep
    · have hraised : Linked {s with controller := .idle,responses := s.responses.drop count} :=
        ⟨⟨h.ordered,h.once,h.paired⟩,h.numbered,h.inbound,h.busy,fun _ _ hidle => (by cases hidle),
          fun _ _ hidle => by cases hidle⟩
      cases hreading with
      | waiting _ hempty _ _ _ => exact absurd hempty hpending
      | @answering before earlier outcome whole rest hsent hserved hlength hstream hresponse hremaining =>
        have hunbroken : newline ∉ whole := hresponse.elim Reply.unbroken fun hreport => hreport.unbroken platform
        have hchunk : received ++ s.responses.take count ++ (s.responses.drop count ++ rest) = whole ++ [newline] := by
          rw [← hstream,List.append_assoc,← List.append_assoc (s.responses.take count),List.take_append_drop,List.append_assoc]
        dsimp only at hstep
        by_cases hend : s.responses.drop count ++ rest = []
        · rw [absorb_end hchunk hunbroken hend] at hstep
          split at hstep
          · next hread =>
            split at hread <;> cases hread
          · cases hstep
            exact hraised
          · next payload hread =>
            have hpayload : payload = whole := by
              split at hread
              · cases hread
              · cases hread
                rfl
            subst hpayload
            split at hstep
            · cases hstep
              exact hraised
            · next value hvalue =>
              cases hstep
              refine ⟨⟨h.ordered,h.once,?_⟩,h.numbered,h.inbound,h.busy,fun _ _ hidle => (by cases hidle),
                fun _ _ hidle => by cases hidle⟩
              intro other answer hreturned
              rcases List.mem_append.mp hreturned with hearlier | hlast
              · exact h.paired other answer hearlier
              · cases List.mem_singleton.mp hlast
                rcases hresponse with hreply | hreport
                · rw [hreply.read] at hvalue
                  refine ⟨before.length,outcome,?_,?_,hvalue⟩
                  · rw [hsent,List.getElem?_append_right (le_refl _),Nat.sub_self]
                    rfl
                  · rw [hserved,← hlength,List.getElem?_append_right (le_refl _),Nat.sub_self]
                    rfl
                · rw [hreport.read hlaw] at hvalue
                  cases hvalue
        · rw [absorb_more hchunk hunbroken hend] at hstep
          split at hstep
          · next chunks hread =>
            have hchunks : chunks = received ++ s.responses.take count := by
              split at hread
              · cases hread
              · cases hread
                rfl
            cases hstep
            refine ⟨⟨h.ordered,h.once,h.paired⟩,h.numbered,h.inbound,h.busy,fun _ _ hidle => (by cases hidle),?_⟩
            intro other taken hother
            cases hother
            refine .answering hsent hserved hlength ?_ hresponse hremaining
            rw [hchunks,← hchunk]
            exact List.append_assoc _ _ _
          · cases hstep
            exact hraised
          · next hread =>
            split at hread <;> cases hread
    · cases hstep

theorem Linked.workerMoved {s : State platform σ} (h : Linked s) {chunks chunks' requests' : Bytes}
    (hworker : s.worker = .reading chunks) (hrequests : s.requests ≠ []) (hsame : chunks' ++ requests' = chunks ++ s.requests) :
    Linked {s with worker := .reading chunks',requests := requests'} where
  ordered := h.ordered
  once := h.once
  paired := h.paired
  numbered := h.numbered
  inbound := by
    intro other hother
    cases hother
    exact hsame ▸ h.inbound chunks hworker
  busy _ hnot := absurd rfl (hnot chunks')
  writing call rest hphase := by
    obtain ⟨hindex,hlater,hunsent,halone⟩ := h.writing call rest hphase
    refine ⟨hindex,hlater,hunsent,fun _ => ?_⟩
    obtain ⟨hresponses,haligned,other,hother,hframed⟩ := halone (by rw [hworker]; rfl)
    cases hworker.symm.trans hother
    exact ⟨hresponses,haligned,chunks',rfl,hsame ▸ hframed⟩
  reading call received hphase := by
    cases h.reading call received hphase with
    | waiting hsent hresponses hreceived hother hframed =>
      cases hworker.symm.trans hother
      exact .waiting hsent hresponses hreceived rfl (hsame ▸ hframed)
    | answering _ _ _ _ _ hremaining =>
      rw [hworker] at hremaining
      exact absurd hremaining.2.1 hrequests

theorem report_not_reading (text : String) (chunks : Bytes) : report text ≠ .reading chunks := by
  rcases report_cases text with h | h <;> simp [h]

variable (program : WorkerProgram platform σ)

theorem report_stream (outcome : Outcome platform) (before : Bytes) (hbefore : newline ∉ before) (text : String) :
    ∃ whole rest, before ++ rest = whole ++ [newline] ∧ (Reply outcome whole ∨ Report whole) ∧
      Remaining outcome whole [] rest (report text) := by
  refine ⟨before ++ encoded (errorFrame text).dumps,encoded (errorFrame text).dumps ++ [newline],?_,
    .inr ⟨before,text,hbefore,rfl⟩,?_⟩
  · rw [List.append_assoc]
  · rcases report_cases text with h | h
    · rw [h]
      exact trivial
    · rw [h]
      exact rfl

theorem answerPhase_stream (outcome : Outcome platform) :
    (∀ chunks, answerPhase program outcome ≠ .reading chunks) ∧
      ∃ whole rest, rest = whole ++ [newline] ∧ (Reply outcome whole ∨ Report whole) ∧
        Remaining outcome whole [] rest (answerPhase program outcome) := by
  have hreply (closing : Bool) (value : Json) (hvalue : outcome.answer = some value) :
      (∀ chunks, reply program closing value ≠ .reading chunks) ∧
        ∃ whole rest, rest = whole ++ [newline] ∧ (Reply outcome whole ∨ Report whole) ∧
          Remaining outcome whole [] rest (reply program closing value) := by
    rw [reply]
    split
    · exact ⟨report_not_reading _,report_stream outcome [] (by simp) _⟩
    · next payload hpayload =>
      split
      · exact ⟨report_not_reading _,report_stream outcome [] (by simp) _⟩
      · exact ⟨by simp,payload,_,rfl,.inl ⟨value,hvalue,hpayload⟩,rfl,⟨value,hvalue,hpayload⟩,by simp⟩
  cases outcome with
  | reply value => exact hreply false value.value rfl
  | refuse text => exact ⟨report_not_reading text,report_stream _ [] (by simp) text⟩
  | close => exact hreply true .null rfl

theorem Linked.workerTook {s t : State platform σ} (h : Linked s) {chunks : Bytes} {count : ℕ}
    (hworker : s.worker = .reading chunks) (hstep : workerRead program chunks count s = some t) : Linked t := by
  rw [workerRead] at hstep
  split at hstep
  · next hcount =>
    have hrequests : s.requests ≠ [] := by
      rintro hnil
      rw [hnil] at hcount
      exact absurd hcount.2.1 (not_le.mpr hcount.1)
    have hsplit : chunks ++ s.requests.take count ++ s.requests.drop count = chunks ++ s.requests := by
      rw [List.append_assoc,List.take_append_drop]
    have hmoved : Linked {s with worker := .reading (chunks ++ s.requests.take count),requests := s.requests.drop count} :=
      h.workerMoved hworker hrequests hsplit
    have hshort {rest whole : Bytes} (hrest : rest ≠ [])
        (hstream : chunks ++ s.requests.take count ++ rest = whole ++ [newline]) (hlength : whole.length ≤ maxFrameBytes) :
        ¬ maxFrameBytes < (chunks ++ s.requests.take count).length := by
      have htotal := congrArg List.length hstream
      rw [List.length_append,@List.length_append _ whole,List.length_singleton] at htotal
      have hpos := List.length_pos_iff.mpr hrest
      omega
    dsimp only at hstep
    cases h.inbound chunks hworker with
    | @unfinished rest whole hrest hstream hunbroken hlength haligned =>
      have hchunk : chunks ++ s.requests.take count ++ (s.requests.drop count ++ rest) = whole ++ [newline] := by
        rw [← hstream,← List.append_assoc,hsplit]
      have hmore : s.requests.drop count ++ rest ≠ [] := fun hnil => hrest (List.append_eq_nil_iff.mp hnil).2
      rw [absorb_more hchunk hunbroken hmore,if_neg (hshort hmore hchunk hlength)] at hstep
      cases hstep
      exact hmoved
    | @delivered before call hsent hframed haligned =>
      obtain ⟨payload,hpayload,hlength,hframe⟩ := hframed
      have hunbroken := canonical_unbroken call.message.native hpayload
      rw [← hsplit] at hframe
      by_cases hend : s.requests.drop count = []
      · rw [absorb_end hframe hunbroken hend,if_neg (not_lt.mpr hlength)] at hstep
        dsimp only at hstep
        rw [serveFrame,strictCompactJson_canonical call.message.native hpayload] at hstep
        cases hstep
        obtain ⟨hnot,whole,rest,hrest,hresponse,hremaining⟩ :=
          answerPhase_stream program (program.serve s.memory call.message.value).1
        have hserved : Aligned s.sent (s.served ++ [(call.text,(program.serve s.memory call.message.value).1)]) := by
          rw [Aligned,List.map_append,haligned,hsent,List.map_append]
          rfl
        have hlengths : s.served.length = before.length := by
          have hmaps := congrArg List.length haligned
          rw [List.length_map,List.length_map] at hmaps
          exact hmaps
        refine ⟨⟨hserved ▸ List.prefix_refl _,h.once,?_⟩,h.numbered,fun other hother => absurd hother (hnot other),
          fun _ _ => ⟨hend,hserved⟩,?_,?_⟩
        · intro other value hreturned
          obtain ⟨position,outcome,hat,houtcome,hanswer⟩ := h.paired other value hreturned
          exact ⟨position,outcome,hat,getElem?_snoc houtcome _,hanswer⟩
        · intro other unsent hphase
          obtain ⟨-,-,-,halone⟩ := h.writing other unsent hphase
          obtain ⟨-,hall,-⟩ := halone (by rw [hworker]; rfl)
          have hmaps := congrArg List.length (hall.symm.trans haligned)
          rw [List.length_map,List.length_map,hsent,List.length_append,List.length_singleton] at hmaps
          omega
        · intro other received hphase
          cases h.reading other received hphase with
          | waiting hothers hresponses hreceived _ _ =>
            obtain ⟨rfl,hsame⟩ := List.append_inj' (hothers.symm.trans hsent) rfl
            cases hsame
            refine .answering hsent rfl hlengths ?_ hresponse (hend ▸ hremaining)
            rw [hreceived,hresponses]
            exact hrest
          | answering _ _ _ _ _ hremaining' =>
            rw [hworker] at hremaining'
            exact absurd hremaining'.2.1 hrequests
      · rw [absorb_more hframe hunbroken hend,if_neg (hshort hend hframe hlength)] at hstep
        cases hstep
        exact hmoved
  · cases hstep

theorem Linked.workerWrote {s t : State platform σ} (h : Linked s) {rest : Bytes} {phase : Bytes → WorkerPhase}
    {finished : WorkerPhase} {count : ℕ} (hworker : s.worker = phase rest)
    (hphase : ∀ rest, (phase rest).running = true ∧ ∀ chunks, phase rest ≠ .reading chunks)
    (hremaining : ∀ (outcome : Outcome platform) whole requests rest', Remaining outcome whole requests rest' (phase rest) →
      rest' = rest ∧ ∀ unsent, unsent ≠ [] → Remaining outcome whole requests unsent (phase unsent))
    (hfinished : finished = .exited ∨ finished = .reading [])
    (hstep : workerWrite rest phase finished count s = some t) : Linked t := by
  obtain ⟨hrequests,haligned⟩ := h.busy (hworker ▸ (hphase rest).1) (hworker ▸ (hphase rest).2)
  have hwriting : ∀ call unsent, s.controller ≠ .writing call unsent := by
    intro call unsent hcontroller
    obtain ⟨-,-,-,halone⟩ := h.writing call unsent hcontroller
    obtain ⟨-,-,chunks,hreading,-⟩ := halone (hworker ▸ (hphase rest).1)
    exact (hphase rest).2 chunks (hworker.symm.trans hreading)
  have hreading {call : Call platform} {received : Bytes} (hcontroller : s.controller = .reading call received)
      {worker : WorkerPhase} {responses rest' : Bytes} (hresponses : responses ++ rest' = s.responses ++ rest)
      (hworker' : ∀ (outcome : Outcome platform) whole, Remaining outcome whole s.requests rest (phase rest) →
        Remaining outcome whole s.requests rest' worker) : ReadingAt {s with worker,responses} call received := by
    cases h.reading call received hcontroller with
    | waiting _ _ _ hother _ => exact absurd (hworker.symm.trans hother) ((hphase rest).2 _)
    | @answering before earlier outcome whole unsent hsent hserved hlength hstream hresponse hunsent =>
      rw [hworker] at hunsent
      obtain ⟨rfl,-⟩ := hremaining _ _ _ _ hunsent
      refine .answering hsent hserved hlength ?_ hresponse (hworker' outcome whole hunsent)
      rw [List.append_assoc,hresponses,← List.append_assoc]
      exact hstream
  rw [workerWrite] at hstep
  split at hstep
  · have hsplit : s.responses ++ rest.take count ++ rest.drop count = s.responses ++ rest := by
      rw [List.append_assoc,List.take_append_drop]
    split at hstep
    · next hnone =>
      cases hstep
      rw [hnone] at hsplit
      refine ⟨⟨h.ordered,h.once,h.paired⟩,h.numbered,?_,?_,fun call unsent hcontroller => absurd hcontroller (hwriting call unsent),
        fun call received hcontroller => hreading hcontroller hsplit ?_⟩
      · intro chunks hother
        rcases hfinished with hexit | hread
        · exact absurd (hexit.symm.trans hother) (by simp)
        · cases hread.symm.trans hother
          rw [hrequests]
          exact @Inbound.unfinished _ _ _ _ [newline] [] (by simp) rfl (by simp) (Nat.zero_le _) haligned
      · intro hrunning hnot
        rcases hfinished with hexit | hread
        · rw [hexit] at hrunning
          cases hrunning
        · exact absurd hread (hnot [])
      · intro outcome whole _
        rcases hfinished with hexit | hread
        · rw [hexit]
          exact trivial
        · rw [hread]
          exact ⟨rfl,hrequests,rfl⟩
    · next hsome =>
      cases hstep
      exact ⟨⟨h.ordered,h.once,h.paired⟩,h.numbered,fun chunks hother => absurd hother ((hphase _).2 chunks),
        fun _ _ => ⟨hrequests,haligned⟩,fun call unsent hcontroller => absurd hcontroller (hwriting call unsent),
        fun call received hcontroller => hreading hcontroller hsplit
          fun outcome whole hunsent => (hremaining outcome whole _ _ hunsent).2 _ hsome⟩
  · cases hstep

theorem Linked.workerTimedOut {s : State platform σ} (h : Linked s) (hrunning : s.worker.running = true)
    (hnot : ∀ chunks, s.worker ≠ .reading chunks) {worker : WorkerPhase} (hnext : ∀ chunks, worker ≠ .reading chunks)
    (hremaining : ∀ (outcome : Outcome platform) written whole rest, written ++ rest = whole ++ [newline] →
      Reply outcome whole ∨ Report whole → Remaining outcome whole [] rest s.worker →
      ∃ whole' rest', written ++ rest' = whole' ++ [newline] ∧ (Reply outcome whole' ∨ Report whole') ∧
        Remaining outcome whole' [] rest' worker) : Linked {s with worker} := by
  obtain ⟨hrequests,haligned⟩ := h.busy hrunning hnot
  refine ⟨⟨h.ordered,h.once,h.paired⟩,h.numbered,fun chunks hother => absurd hother (hnext chunks),
    fun _ _ => ⟨hrequests,haligned⟩,?_,?_⟩
  · intro call unsent hcontroller
    obtain ⟨-,-,-,halone⟩ := h.writing call unsent hcontroller
    obtain ⟨-,-,chunks,hreading,-⟩ := halone hrunning
    exact absurd hreading (hnot chunks)
  · intro call received hcontroller
    cases h.reading call received hcontroller with
    | waiting _ _ _ hother _ => exact absurd hother (hnot _)
    | @answering before earlier outcome whole rest hsent hserved hlength hstream hresponse hunsent =>
      rw [hrequests] at hunsent
      obtain ⟨whole',rest',hstream',hresponse',hunsent'⟩ := hremaining outcome _ whole rest hstream hresponse hunsent
      exact .answering hsent hserved hlength hstream' hresponse' (hrequests ▸ hunsent')

theorem Linked.step {s t : State platform σ} {action : Action platform} (hlaw : Json.WritesFloats platform.floatRepr)
    (h : Linked s) (hrested : StartsRested s action) (hstep : Ipc.step program s action = some t) : Linked t := by
  cases action with
  | call message =>
    rw [Ipc.step] at hstep
    split at hstep
    · next hidle =>
      cases hstep
      exact h.begun hidle hrested
    · cases hstep
  | controllerWrites count =>
    rw [Ipc.step] at hstep
    split at hstep
    · next hphase => exact h.controllerWrote hphase hstep
    · cases hstep
  | controllerReads count =>
    rw [Ipc.step] at hstep
    split at hstep
    · next hphase => exact h.controllerTook hlaw hphase hstep
    · cases hstep
  | controllerTimesOut =>
    rw [Ipc.step] at hstep
    split at hstep
    · cases hstep
    · cases hstep
      exact h.raised
  | workerWrites count =>
    rw [Ipc.step] at hstep
    split at hstep
    · next rest closing hworker =>
      refine h.workerWrote hworker (fun _ => ⟨rfl,by simp⟩) ?_ ?_ hstep
      · intro outcome whole requests rest' hremaining
        exact ⟨hremaining.1.symm,fun unsent hunsent => ⟨rfl,hremaining.2.1,hunsent⟩⟩
      · cases closing
        · exact .inr rfl
        · exact .inl rfl
    · next rest hworker =>
      refine h.workerWrote hworker (fun _ => ⟨rfl,by simp⟩) ?_ (.inr rfl) hstep
      intro outcome whole requests rest' hremaining
      exact ⟨Eq.symm hremaining,fun unsent _ => rfl⟩
    · cases hstep
  | workerReads count =>
    rw [Ipc.step] at hstep
    split at hstep
    · next hworker => exact h.workerTook program hworker hstep
    · cases hstep
  | workerTimesOut =>
    rw [Ipc.step] at hstep
    split at hstep
    · next unsent closing hworker =>
      cases hstep
      refine h.workerTimedOut (by rw [hworker]; rfl) (by simp [hworker]) (report_not_reading _) ?_
      intro outcome written whole rest hstream hresponse hremaining
      rw [hworker] at hremaining
      obtain ⟨rfl,hreply,hne⟩ := hremaining
      obtain ⟨before,last,rfl⟩ := (List.eq_nil_or_concat' unsent).resolve_left hne
      rw [← List.append_assoc] at hstream
      have hwhole := List.append_inj_left' hstream rfl
      exact report_stream outcome written (fun hmem => hreply.unbroken (hwhole ▸ List.mem_append_left _ hmem)) _
    · next unsent hworker =>
      cases hstep
      exact h.workerTimedOut (by rw [hworker]; rfl) (by simp [hworker]) (by simp)
        fun outcome written whole rest hstream hresponse _ => ⟨whole,rest,hstream,hresponse,trivial⟩
    · cases hstep

theorem reachable_linked (hlaw : Json.WritesFloats platform.floatRepr) {s : State platform σ}
    (h : Reachable program StartsRested s) : Linked s := by
  induction h with
  | opened memory => exact Linked.opened memory
  | step _ hrested hstep ih => exact ih.step program hlaw hrested hstep

theorem exchanges_matched (hlaw : Json.WritesFloats platform.floatRepr) :
    (∀ (message : PyJson platform) (payload : Bytes), exchangePayload message.value = some payload →
      payload.length ≤ maxFrameBytes → strictCompactJson platform payload = some message.value) ∧
    ∀ s : State platform σ, Reachable program StartsRested s → Matched s := by
  constructor
  · intro message payload hpayload _
    rw [exchangePayload_eq] at hpayload
    exact strictCompactJson_canonical message.native hpayload
  · intro s hs
    exact (reachable_linked program hlaw hs).toMatched

end Invariant

section WholeFrames
variable {platform : Platform} {σ : Type} {program : WorkerProgram platform σ}

theorem begin_whole {message : PyJson platform} {payload : Bytes} (hpayload : workerCanonical message.value = some payload)
    (hlength : payload.length ≤ maxFrameBytes) (s : State platform σ) :
    begin message s = {s with calls := s.calls + 1,controller := .writing ⟨s.calls,message⟩ (payload ++ [newline])} := by
  rw [begin,exchangePayload_eq,hpayload]
  exact if_neg (not_lt.mpr hlength)

theorem controllerWrite_whole {s : State platform σ} (hrunning : s.worker.running = true) (call : Call platform)
    (payload : Bytes) : controllerWrite call (payload ++ [newline]) (payload ++ [newline]).length s =
      some {s with controller := .reading call [],requests := s.requests ++ (payload ++ [newline]),sent := s.sent ++ [call]} := by
  rw [controllerWrite,if_pos hrunning,if_pos ⟨by simp,le_refl _⟩]
  simp only [List.take_length,List.drop_length]

theorem workerRead_whole {s : State platform σ} {message : PyJson platform} {payload : Bytes}
    (hpayload : workerCanonical message.value = some payload) (hlength : payload.length < 65536)
    (hrequests : s.requests = payload ++ [newline]) :
    workerRead program [] (payload ++ [newline]).length s = some {s with
      requests := []
      memory := (program.serve s.memory message.value).2
      served := s.served ++ [(message.value,(program.serve s.memory message.value).1)]
      worker := answerPhase program (program.serve s.memory message.value).1} := by
  have hunbroken := canonical_unbroken message.native hpayload
  have hsize : (payload ++ [newline]).length ≤ readSize [] := by
    rw [List.length_append,List.length_singleton,readSize,maxFrameBytes,List.length_nil]
    omega
  have habsorb : absorb [] (payload ++ [newline]) = .frame payload := by
    rw [@absorb_end [] _ [] payload (by simp) hunbroken rfl,if_neg (by rw [maxFrameBytes]; omega)]
  rw [workerRead,hrequests,if_pos ⟨by simp,le_refl _,hsize⟩]
  simp only [List.take_length,List.drop_length,habsorb]
  rw [serveFrame,strictCompactJson_canonical message.native hpayload]

theorem workerWrite_whole (s : State platform σ) (phase : Bytes → WorkerPhase) (finished : WorkerPhase) (whole : Bytes) :
    workerWrite (whole ++ [newline]) phase finished (whole ++ [newline]).length s =
      some {s with responses := s.responses ++ (whole ++ [newline]),worker := finished} := by
  rw [workerWrite,if_pos ⟨by simp,le_refl _⟩]
  simp only [List.take_length,List.drop_length]

theorem controllerRead_whole {s : State platform σ} {call : Call platform} {value : PyJson platform} {whole : Bytes}
    (hwhole : workerCanonical (okFrame value.value) = some whole) (hlength : whole.length < 65536)
    (hresponses : s.responses = whole ++ [newline]) :
    controllerRead call [] (whole ++ [newline]).length s =
      some {s with controller := .idle,responses := [],returned := s.returned ++ [(call,value.value)]} := by
  have hreply : Reply (.reply value) whole := ⟨value.value,rfl,hwhole⟩
  have hsize : (whole ++ [newline]).length ≤ readSize [] := by
    rw [List.length_append,List.length_singleton,readSize,maxFrameBytes,List.length_nil]
    omega
  have habsorb : absorb [] (whole ++ [newline]) = .frame whole := by
    rw [@absorb_end [] _ [] whole (by simp) hreply.unbroken rfl,if_neg (by rw [maxFrameBytes]; omega)]
  rw [controllerRead,hresponses,if_neg (by simp),if_pos ⟨by simp,le_refl _,hsize⟩]
  simp only [List.take_length,List.drop_length,habsorb,hreply.read]
  rfl

structure Answered (program : WorkerProgram platform σ) (memory : σ) (message value : PyJson platform)
    (payload whole : Bytes) : Prop where
  request : workerCanonical message.value = some payload
  response : workerCanonical (okFrame value.value) = some whole
  short : payload.length < 65536 ∧ whole.length < 65536
  served : (program.serve memory message.value).1 = .reply value

variable {memory : σ} {message value : PyJson platform} {payload whole : Bytes}

theorem Answered.phase (h : Answered program memory message value payload whole) :
    answerPhase program (program.serve memory message.value).1 = .replying (whole ++ [newline]) false := by
  rw [h.served,answerPhase,reply,h.response]
  exact if_neg (by rw [maxFrameBytes]; have := h.short.2; omega)

theorem Answered.fits (h : Answered program memory message value payload whole) : payload.length ≤ maxFrameBytes := by
  rw [maxFrameBytes]
  have := h.short.1
  omega

section Rules
variable {allowed : State platform σ → Action platform → Prop} {s : State platform σ}
  (hfree : ∀ s action, (∀ message, action ≠ .call message) → allowed s action)

theorem Reachable.called (h : Reachable program allowed s) (hallowed : allowed s (.call message))
    (hidle : s.controller = .idle) (hpayload : workerCanonical message.value = some payload)
    (hlength : payload.length ≤ maxFrameBytes) : Reachable program allowed
      {s with calls := s.calls + 1,controller := .writing ⟨s.calls,message⟩ (payload ++ [newline])} := by
  refine .step h hallowed ?_
  simp only [Ipc.step,hidle]
  rw [begin_whole hpayload hlength]

include hfree

theorem Reachable.wrote (h : Reachable program allowed s) {call : Call platform}
    (hphase : s.controller = .writing call (payload ++ [newline])) (hrunning : s.worker.running = true) :
    Reachable program allowed
      {s with controller := .reading call [],requests := s.requests ++ (payload ++ [newline]),sent := s.sent ++ [call]} := by
  refine .step h (hfree s (.controllerWrites (payload ++ [newline]).length) (by simp)) ?_
  simp only [Ipc.step,hphase]
  exact controllerWrite_whole hrunning call payload

theorem Reachable.timedOut (h : Reachable program allowed s) {call : Call platform} {received : Bytes}
    (hphase : s.controller = .reading call received) : Reachable program allowed {s with controller := .idle} := by
  refine .step h (hfree s .controllerTimesOut (by simp)) ?_
  simp only [Ipc.step,hphase]

theorem Reachable.answered (h : Reachable program allowed s) (hanswered : Answered program s.memory message value payload whole)
    (hworker : s.worker = .reading []) (hrequests : s.requests = payload ++ [newline]) : Reachable program allowed {s with
      requests := []
      memory := (program.serve s.memory message.value).2
      served := s.served ++ [(message.value,.reply value)]
      responses := s.responses ++ (whole ++ [newline])
      worker := .reading []} := by
  have hserved : Reachable program allowed {s with
      requests := []
      memory := (program.serve s.memory message.value).2
      served := s.served ++ [(message.value,(program.serve s.memory message.value).1)]
      worker := answerPhase program (program.serve s.memory message.value).1} := by
    refine .step h (hfree s (.workerReads (payload ++ [newline]).length) (by simp)) ?_
    simp only [Ipc.step,hworker]
    exact workerRead_whole hanswered.request hanswered.short.1 hrequests
  rw [hanswered.phase,hanswered.served] at hserved
  refine .step hserved (hfree _ (.workerWrites (whole ++ [newline]).length) (by simp)) ?_
  exact workerWrite_whole _ _ _ whole

theorem Reachable.returned (h : Reachable program allowed s) {call : Call platform}
    (hphase : s.controller = .reading call []) (hwhole : workerCanonical (okFrame value.value) = some whole)
    (hlength : whole.length < 65536) (hresponses : s.responses = whole ++ [newline]) : Reachable program allowed
      {s with controller := .idle,responses := [],returned := s.returned ++ [(call,value.value)]} := by
  refine .step h (hfree s (.controllerReads (whole ++ [newline]).length) (by simp)) ?_
  simp only [Ipc.step,hphase]
  exact controllerRead_whole hwhole hlength hresponses

end Rules

theorem startsRested_free (s : State platform σ) (action : Action platform) (h : ∀ message, action ≠ .call message) :
    StartsRested s action := fun message _ hcall => absurd hcall (h message)

theorem Answered.returns (h : Answered program memory message value payload whole) {next answer : PyJson platform}
    {payload' whole' : Bytes} (hnext : Answered program (program.serve memory message.value).2 next answer payload' whole') :
    ∃ s, Reachable program StartsRested s ∧ s.returned = [(⟨0,message⟩,value.value),(⟨1,next⟩,answer.value)] := by
  have hopened : Reachable program StartsRested (.opened memory) := .opened memory
  have hcalled := hopened.called (fun _ _ _ _ _ => .inr ⟨rfl,rfl,rfl⟩) rfl h.request h.fits
  have hwrote := hcalled.wrote startsRested_free rfl rfl
  have hanswered := hwrote.answered startsRested_free h rfl rfl
  have hreturned := hanswered.returned startsRested_free rfl h.response h.short.2 rfl
  have hagain := hreturned.called (fun _ _ _ _ _ => .inr ⟨rfl,rfl,rfl⟩) rfl hnext.request hnext.fits
  have hsent := hagain.wrote startsRested_free rfl rfl
  have hserved := hsent.answered startsRested_free hnext rfl rfl
  exact ⟨_,hserved.returned startsRested_free rfl hnext.response hnext.short.2 rfl,rfl⟩

theorem Answered.stale (h : Answered program memory message value payload whole) {next : PyJson platform} {payload' : Bytes}
    (hnext : workerCanonical next.value = some payload') (hlength : payload'.length ≤ maxFrameBytes) :
    ∃ s, Reachable program (fun _ _ => True) s ∧ s.returned = [(⟨1,next⟩,value.value)] ∧
      s.served = [(message.value,.reply value)] := by
  have hopened : Reachable program (fun _ _ => True) (.opened memory) := .opened memory
  have hcalled := hopened.called trivial rfl h.request h.fits
  have hwrote := hcalled.wrote (fun _ _ _ => trivial) rfl rfl
  have hgave := hwrote.timedOut (fun _ _ _ => trivial) rfl
  have hanswered := hgave.answered (fun _ _ _ => trivial) h rfl rfl
  have hagain := hanswered.called trivial rfl hnext hlength
  have hsent := hagain.wrote (fun _ _ _ => trivial) rfl rfl
  exact ⟨_,hsent.returned (fun _ _ _ => trivial) rfl h.response h.short.2 rfl,rfl,rfl⟩

end WholeFrames

section Sample

theorem silent_size : (List.replicate 32 (0 : UInt8)).length = 32 := rfl

def samplePlatform : Platform where
  sha256 _ := ⟨List.replicate 32 0,silent_size⟩
  hmac _ _ := ⟨List.replicate 32 0,silent_size⟩
  normalized _ := true
  otherCategory _ := false
  floatRepr _ := "0.0"

theorem sample_writesFloats : Json.WritesFloats samplePlatform.floatRepr := by
  intro text
  exact .inr ⟨⟨false,['0'],['.','0'],[],.inl rfl,.some (by simp) (by simp),.none,by simp⟩,rfl⟩

def boolean (value : Bool) : PyJson samplePlatform := ⟨.bool value,trivial⟩

def query (operation : String) : PyJson samplePlatform :=
  ⟨.obj [("operation",.str operation)],List.pairwise_singleton _ _,trivial,trivial⟩

def queries : WorkerProgram samplePlatform WorkerState where
  serve state message := (match message with
    | .obj [("operation",.str "mutation_committed")] => .reply (boolean state.mutationCommitted)
    | .obj [("operation",.str "verifier_eligible")] => .reply (boolean state.verifierEligible)
    | .obj [("operation",.str "episode_terminal")] => .reply (boolean state.episodeTerminal)
    | _ => .refuse "ValueError: worker request has an open operation shape",state)
  refusal _ := "ValueError: IPC frame is not strict JSON"
  unwritable := "ValueError: Out of range float values are not JSON compliant"

def committedState : WorkerState where
  branchPendingCalls := []
  episodeTerminal := false
  failureKind := .NONE
  mutationCommitted := true
  programSha256 := "79de741e993f10f2a88b6b8d3d89da1c2da558ea2c7f857f5491819cb8b89724"
  simulatorContext := none
  terminalUnexecutedRemainder := []
  turns := []
  verifierEligible := false
  visibleContext := []

theorem query_canonical (operation : String) : workerCanonical (query operation).value =
    some (utf8 (String.ofList (query operation).value.dumps)) := if_pos rfl

theorem boolean_canonical (value : Bool) : workerCanonical (okFrame (boolean value).value) =
    some (utf8 (String.ofList (okFrame (boolean value).value).dumps)) := if_pos rfl

theorem committed_answered : Answered queries committedState (query "mutation_committed") (boolean true)
    (utf8 (String.ofList (query "mutation_committed").value.dumps))
    (utf8 (String.ofList (okFrame (boolean true).value).dumps)) where
  request := query_canonical "mutation_committed"
  response := boolean_canonical true
  short := by decide
  served := rfl

theorem stale_reply_returned : ¬ ∀ s : State samplePlatform WorkerState,
    Reachable queries (fun _ _ => True) s → Matched s := by
  intro h
  obtain ⟨s,hs,hreturned,hserved⟩ := committed_answered.stale (query_canonical "episode_terminal") (by decide)
  obtain ⟨position,outcome,-,hat,-⟩ := (h s hs).paired _ _ (by rw [hreturned]; exact List.mem_singleton_self _)
  rw [hserved] at hat
  obtain ⟨hlt,hsame⟩ := List.getElem?_eq_some_iff.mp hat
  have hzero : position = 0 := by
    rw [List.length_singleton] at hlt
    omega
  subst hzero
  have htext : (query "mutation_committed").value = (query "episode_terminal").value := congrArg Prod.fst hsame
  exact absurd htext (by decide)

theorem eligible_answered : Answered queries committedState (query "verifier_eligible") (boolean committedState.verifierEligible)
    (utf8 (String.ofList (query "verifier_eligible").value.dumps))
    (utf8 (String.ofList (okFrame (boolean committedState.verifierEligible).value).dumps)) where
  request := query_canonical "verifier_eligible"
  response := boolean_canonical committedState.verifierEligible
  short := by decide
  served := rfl

theorem queries_matched : ∃ s : State samplePlatform WorkerState, Matched s ∧ s.returned.length = 2 := by
  obtain ⟨s,hs,hreturned⟩ := committed_answered.returns eligible_answered
  exact ⟨s,(exchanges_matched queries sample_writesFloats).2 s hs,by rw [hreturned]; rfl⟩

end Sample

end PneumaLab.ResamplingNull.Ipc
