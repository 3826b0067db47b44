import PneumaLab.Library.JsonText
import PneumaLab.ResamplingNull.Types

namespace PneumaLab.ResamplingNull

structure Platform where
  sha256 : Bytes → Digest
  hmac : Bytes → Bytes → Digest
  normalized : String → Bool
  otherCategory : Char → Bool
  floatRepr : String → String

def CollisionFree (platform : Platform) (texts : List Bytes) : Prop :=
  ∀ left ∈ texts, ∀ right ∈ texts, (platform.sha256 left).hex = (platform.sha256 right).hex → left = right

theorem CollisionFree.mono {platform : Platform} {texts others : List Bytes} (h : CollisionFree platform others)
    (hsub : ∀ text ∈ texts, text ∈ others) : CollisionFree platform texts :=
  fun left hleft right hright hsame => h left (hsub left hleft) right (hsub right hright) hsame

def canonicalJsonBytes (value : Json) : Bytes := utf8 (String.ofList (value.dumps ++ ['\n']))

variable (platform : Platform)

def byteOrderMark : Char := Char.ofNat 0xFEFF

def loadJsonBytes (payload : Bytes) : Py Json :=
  match fromUtf8 payload with
  | none => .error (.recordValidationError "invalid UTF-8 JSON")
  | some text =>
    if text.toList.head? = some byteOrderMark then
      .error (.recordValidationError "UTF-8 BOM is forbidden")
    else
      match Json.loads platform.floatRepr text.toList with
      | none => .error (.recordValidationError "invalid UTF-8 JSON")
      | some value => .ok value

theorem opens_ne_byteOrderMark {v : Json} (hv : v.Exact) : v.opens ≠ byteOrderMark := by
  cases v with
  | null => decide
  | bool b => cases b <;> decide
  | int n =>
    rw [Json.opens]
    split
    · decide
    · intro he
      have hd := Json.isDigit_head n.natAbs
      rw [he] at hd
      exact absurd hd (by decide)
  | float text => exact hv.elim
  | str text => simp [Json.opens,byteOrderMark]
  | arr items => simp [Json.opens,byteOrderMark]
  | obj fields => simp [Json.opens,byteOrderMark]

theorem loadJsonBytes_canonical {v : Json} (hv : v.Exact) :
    loadJsonBytes platform (canonicalJsonBytes v) = .ok v := by
  obtain ⟨tail,ht⟩ := Json.dumps_opens hv
  have hhead : (v.dumps ++ ['\n']).head? = some v.opens := by rw [ht]; rfl
  have hloads : Json.loads platform.floatRepr (v.dumps ++ ['\n']) = some v :=
    Json.loads_dumps platform.floatRepr hv rfl (Json.endsNumber_cons (by decide))
  rw [loadJsonBytes,canonicalJsonBytes,fromUtf8_utf8]
  simp only [String.toList_ofList,hhead,Option.some.injEq]
  rw [if_neg (opens_ne_byteOrderMark hv),hloads]

theorem canonicalJsonBytes_injective {v w : Json} (hv : v.Exact) (hw : w.Exact)
    (h : canonicalJsonBytes v = canonicalJsonBytes w) : v = w := by
  let silent : Platform := ⟨fun _ => ⟨List.replicate 32 0,rfl⟩,fun _ _ => ⟨List.replicate 32 0,rfl⟩,
    fun _ => true,fun _ => false,id⟩
  have hread := loadJsonBytes_canonical silent hv
  rw [h,loadJsonBytes_canonical silent hw] at hread
  exact (Except.ok.inj hread).symm

theorem canonicalJsonBytes_length_pos (v : Json) : 0 < (canonicalJsonBytes v).length := by
  rw [List.length_pos_iff]
  intro hnil
  have htext : utf8 (String.ofList (v.dumps ++ ['\n'])) = utf8 "" := hnil.trans rfl
  have hlist := congrArg String.toList (utf8_injective htext)
  rw [String.toList_ofList] at hlist
  exact absurd hlist (by simp)

abbrev Files := String → Option Bytes

def topLevel (relativePath : String) : String :=
  String.ofList (relativePath.toList.takeWhile fun c => c ≠ '/')

theorem topLevel_append {head name : String} {rest : List Char} (hname : ∀ c ∈ name.toList, c ≠ '/')
    (hhead : head.toList = name.toList ++ '/' :: rest) (middle tail : String) :
    topLevel (head ++ middle ++ tail) = name := by
  have hstop : (name.toList ++ ('/' :: rest ++ middle.toList ++ tail.toList)).takeWhile
      (fun c => decide (c ≠ '/')) = name.toList := by
    rw [List.takeWhile_append_of_pos fun c hc => decide_eq_true (hname c hc)]
    simp
  rw [topLevel,String.toList_append,String.toList_append,hhead,List.append_assoc,List.append_assoc,
    ← List.append_assoc ('/' :: rest),hstop,String.ofList_toList]

def readRef (files : Files) (ref : ArtifactRef) : Py Bytes := do
  demand (topLevel ref.relativePath ≠ "operational")
    (.recordValidationError "operational artifacts cannot enter the scientific closure")
  match files ref.relativePath with
  | none => .error (.recordValidationError "dangling artifact_ref")
  | some payload => do
    demand ((platform.sha256 payload).hex = ref.sha256 && payload.length = ref.byteCount)
      (.recordValidationError "artifact_ref bytes mismatch")
    return payload

theorem readRef_eq_ok {platform : Platform} {files : Files} {ref : ArtifactRef} {raw : Bytes} :
    readRef platform files ref = .ok raw ↔ topLevel ref.relativePath ≠ "operational" ∧
      files ref.relativePath = some raw ∧ (platform.sha256 raw).hex = ref.sha256 ∧ raw.length = ref.byteCount := by
  simp only [readRef,bind_eq_ok,demand_eq_ok,decide_eq_true_eq]
  cases files ref.relativePath with
  | none => simp
  | some payload =>
    simp only [bind_eq_ok,demand_eq_ok,Bool.and_eq_true,decide_eq_true_eq,Option.some.injEq]
    constructor
    · rintro ⟨_,htop,_,⟨hsha,hlength⟩,hreturn⟩
      cases hreturn
      exact ⟨htop,rfl,hsha,hlength⟩
    · rintro ⟨htop,rfl,hsha,hlength⟩
      exact ⟨(),htop,(),⟨hsha,hlength⟩,rfl⟩

end PneumaLab.ResamplingNull
