import PneumaLab.Library.LengthPrefix
import PneumaLab.ResamplingNull.Assignment.SealedTasks

namespace PneumaLab.ResamplingNull

section Fields

variable {platform : Platform}

theorem u32_eq_ok {value : ℕ} {raw : Bytes} :
    u32 value = .ok raw ↔ value < 256 ^ 4 ∧ raw = bigEndian 4 value := by
  have hbound : value ≤ maxU32 ↔ value < 256 ^ 4 := by
    rw [maxU32]
    omega
  rw [← hbound,u32,bind_eq_ok]
  constructor
  · rintro ⟨_,hdemand,h⟩
    cases h
    exact ⟨of_decide_eq_true (demand_eq_ok.mp hdemand),rfl⟩
  · rintro ⟨h,rfl⟩
    exact ⟨(),demand_eq_ok.mpr (decide_eq_true h),rfl⟩

theorem textPayload_of_ok {text : String} {payload : Bytes} (h : textPayload platform text = .ok payload) :
    payload = utf8 text := by
  simp only [textPayload,bind_eq_ok] at h
  obtain ⟨_,_,_,_,_,_,_,_,h⟩ := h
  cases h
  rfl

inductive FieldOf : FrameField → UInt8 → Bytes → Prop where
  | u64 {value : ℕ} (h : value < 256 ^ 8) : FieldOf (.u64 value) 1 (bigEndian 8 value)
  | text (value : String) : FieldOf (.text value) 2 (utf8 value)
  | bytes (value : Bytes) : FieldOf (.bytes value) 3 value

theorem fieldPayload_of_ok {field : FrameField} {kind : UInt8} {payload : Bytes}
    (h : fieldPayload platform field = .ok (kind,payload)) : FieldOf field kind payload := by
  cases field with
  | u64 value =>
    rw [fieldPayload,bind_eq_ok] at h
    obtain ⟨_,hdemand,h⟩ := h
    cases h
    have hvalue : value ≤ maxU64 := of_decide_eq_true (demand_eq_ok.mp hdemand)
    rw [maxU64] at hvalue
    exact .u64 (by omega)
  | text value =>
    rw [fieldPayload,bind_eq_ok] at h
    obtain ⟨payload,htext,h⟩ := h
    cases h
    rw [textPayload_of_ok htext]
    exact .text _
  | bytes value =>
    rw [fieldPayload,bind_eq_ok] at h
    obtain ⟨_,_,h⟩ := h
    cases h
    exact .bytes _

theorem FieldOf.inj {field other : FrameField} {kind kind' : UInt8} {payload payload' : Bytes}
    (h : FieldOf field kind payload) (h' : FieldOf other kind' payload') (hkind : kind = kind')
    (hpayload : payload = payload') : field = other := by
  cases h with
  | u64 hv =>
    cases h' with
    | u64 hw => rw [← readBigEndian_bigEndian 8 _ hv,hpayload,readBigEndian_bigEndian 8 _ hw]
    | text => exact absurd hkind (by decide)
    | bytes => exact absurd hkind (by decide)
  | text value =>
    cases h' with
    | u64 => exact absurd hkind (by decide)
    | text => rw [utf8_injective hpayload]
    | bytes => exact absurd hkind (by decide)
  | bytes =>
    cases h' with
    | u64 => exact absurd hkind (by decide)
    | text => exact absurd hkind (by decide)
    | bytes => rw [hpayload]

end Fields

section Frames

inductive Body : List FrameField → Bytes → Prop where
  | nil : Body [] []
  | cons {field : FrameField} {fields : List FrameField} {kind : UInt8} {payload rest : Bytes}
      (hfield : FieldOf field kind payload) (hlength : payload.length < 256 ^ 4) (hrest : Body fields rest) :
      Body (field :: fields) (kind :: (bigEndian 4 payload.length ++ (payload ++ rest)))

theorem Body.cancel {fields others : List FrameField} {body body' : Bytes} (h : Body fields body)
    (h' : Body others body') (hcount : fields.length = others.length) {left right : Bytes}
    (heq : body ++ left = body' ++ right) : fields = others := by
  induction h generalizing others body' with
  | nil =>
    rw [List.length_nil] at hcount
    exact (List.length_eq_zero_iff.mp hcount.symm).symm
  | cons hfield hlength hrest ih =>
    cases h' with
    | nil => cases hcount
    | cons hfield' hlength' hrest' =>
      simp only [List.cons_append,List.append_assoc] at heq
      obtain ⟨hkind,htail⟩ := List.cons.inj heq
      obtain ⟨hpayload,hnext⟩ := payload_append_inj hlength hlength' htail
      rw [hfield.inj hfield' hkind hpayload,ih hrest' (Nat.succ.inj hcount) hnext]

variable {platform : Platform}

theorem encodeFields_of_ok {fields : List FrameField} {encoded frame : Bytes}
    (h : (fields.foldlM (fun encoded field => do
      let (fieldType,payload) ← fieldPayload platform field
      return encoded ++ [fieldType] ++ (← u32 payload.length) ++ payload) encoded) = Except.ok frame) :
    ∃ body, Body fields body ∧ frame = encoded ++ body := by
  induction fields generalizing encoded with
  | nil =>
    cases h
    exact ⟨[],.nil,(List.append_nil _).symm⟩
  | cons field rest ih =>
    simp only [List.foldlM_cons,bind_eq_ok] at h
    obtain ⟨next,⟨⟨kind,payload⟩,hfield,length,hlength,hnext⟩,hrest⟩ := h
    obtain ⟨hbound,rfl⟩ := u32_eq_ok.mp hlength
    cases hnext
    obtain ⟨body,hbody,rfl⟩ := ih hrest
    refine ⟨_,.cons (fieldPayload_of_ok hfield) hbound hbody,?_⟩
    simp only [List.append_assoc,List.cons_append,List.nil_append]

theorem kdfFrame_of_ok {tag : String} {fields : List FrameField} {frame : Bytes}
    (h : kdfFrame platform tag fields = .ok frame) :
    (utf8 tag).length < 256 ^ 4 ∧ fields.length < 256 ^ 4 ∧ ∃ body, Body fields body ∧
      frame = frameMagic ++
        (bigEndian 4 (utf8 tag).length ++ (utf8 tag ++ (bigEndian 4 fields.length ++ body))) := by
  simp only [kdfFrame,bind_eq_ok] at h
  obtain ⟨payload,htag,_,_,length,hlength,count,hcount,hfields⟩ := h
  obtain rfl := textPayload_of_ok htag
  obtain ⟨htagBound,rfl⟩ := u32_eq_ok.mp hlength
  obtain ⟨hcountBound,rfl⟩ := u32_eq_ok.mp hcount
  obtain ⟨body,hbody,rfl⟩ := encodeFields_of_ok hfields
  refine ⟨htagBound,hcountBound,body,hbody,?_⟩
  simp only [List.append_assoc]

theorem kdfFrame_append_inj {tag other : String} {fields others : List FrameField} {frame frame' left right : Bytes}
    (h : kdfFrame platform tag fields = .ok frame) (h' : kdfFrame platform other others = .ok frame')
    (heq : frame ++ left = frame' ++ right) : tag = other ∧ fields = others := by
  obtain ⟨htag,hcount,body,hbody,rfl⟩ := kdfFrame_of_ok h
  obtain ⟨htag',hcount',body',hbody',rfl⟩ := kdfFrame_of_ok h'
  simp only [List.append_assoc,List.append_cancel_left_eq] at heq
  obtain ⟨htags,hrest⟩ := payload_append_inj htag htag' heq
  obtain ⟨hcounts,hbodies⟩ := bigEndian_append_inj hcount hcount' hrest
  exact ⟨utf8_injective htags,hbody.cancel hbody' hcounts hbodies⟩

theorem frames_prefix_free {tag other : String} {fields others : List FrameField} {frame frame' : Bytes}
    (h : kdfFrame platform tag fields = .ok frame) (h' : kdfFrame platform other others = .ok frame') :
    (frame <+: frame' → tag = other ∧ fields = others) ∧
    (tag ≠ other ∨ fields ≠ others → ∀ left right, frame ++ left ≠ frame' ++ right) := by
  constructor
  · rintro ⟨tail,htail⟩
    exact kdfFrame_append_inj h h' (htail.trans (List.append_nil _).symm)
  · intro hdiffer left right heq
    obtain ⟨htag,hfields⟩ := kdfFrame_append_inj h h' heq
    exact hdiffer.elim (fun hne => hne htag) (fun hne => hne hfields)

theorem empty_field_framed : ∃ frame frame',
    kdfFrame (samplePlatform 1) "a" [.bytes []] = .ok frame ∧ kdfFrame (samplePlatform 1) "a" [] = .ok frame' ∧
      ∀ left right, frame ++ left ≠ frame' ++ right := by
  have hframe : ∃ frame, kdfFrame (samplePlatform 1) "a" [.bytes []] = .ok frame := ⟨_,rfl⟩
  have hother : ∃ frame, kdfFrame (samplePlatform 1) "a" [] = .ok frame := ⟨_,rfl⟩
  obtain ⟨frame,hframe⟩ := hframe
  obtain ⟨frame',hother⟩ := hother
  exact ⟨frame,frame',hframe,hother,(frames_prefix_free hframe hother).2 (.inr (List.cons_ne_nil _ _))⟩

end Frames

end PneumaLab.ResamplingNull
