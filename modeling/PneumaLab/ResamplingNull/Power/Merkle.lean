import PneumaLab.Library.JsonScan
import PneumaLab.Library.MerkleTree
import PneumaLab.ResamplingNull.Power.Simulation

namespace PneumaLab.ResamplingNull
open MerkleTree

section Hex

def asciiSpace (c : Char) : Bool := decide (c = ' ') || (decide (9 ≤ c.toNat) && decide (c.toNat ≤ 13))

def fromhex : List Char → Option Bytes
  | [] => some []
  | [c] => if asciiSpace c then some [] else none
  | high :: low :: rest =>
    if asciiSpace high then fromhex (low :: rest)
    else do return UInt8.ofNat ((← hexValue high) * 16 + (← hexValue low)) :: (← fromhex rest)

def isHexDigest (leaf : String) : Bool :=
  decide (leaf.toList.length = 64) && leaf.toList.all fun c => (hexValue c).isSome

theorem not_asciiSpace {c : Char} (h : (hexValue c).isSome = true) : asciiSpace c = false := by
  have hlow : 48 ≤ c.toNat := by
    rw [hexValue] at h
    split at h
    · next hdigit => exact hdigit.1
    · split at h
      · next hlower => exact le_trans (by decide) hlower.1
      · split at h
        · next hupper => exact le_trans (by decide) hupper.1
        · cases h
  have hblank : c ≠ ' ' := by
    rintro rfl
    exact absurd hlow (by decide)
  simp only [asciiSpace,hblank,decide_false,Bool.false_or,Bool.and_eq_false_iff,decide_eq_false_iff_not]
  exact .inr (by omega)

theorem fromhex_total (text : List Char) (hdigits : ∀ c ∈ text, (hexValue c).isSome = true)
    (heven : text.length % 2 = 0) : ∃ raw, fromhex text = some raw ∧ 2 * raw.length = text.length := by
  match text with
  | [] => exact ⟨[],rfl,rfl⟩
  | [_] => exact absurd heven (by simp)
  | high :: low :: rest =>
    have hhigh := hdigits high List.mem_cons_self
    have hlow := hdigits low (List.mem_cons_of_mem _ List.mem_cons_self)
    obtain ⟨x,hx⟩ := Option.isSome_iff_exists.mp hhigh
    obtain ⟨y,hy⟩ := Option.isSome_iff_exists.mp hlow
    obtain ⟨raw,hraw,hlength⟩ := fromhex_total rest
      (fun c hc => hdigits c (List.mem_cons_of_mem _ (List.mem_cons_of_mem _ hc)))
      (by rw [List.length_cons,List.length_cons] at heven; omega)
    refine ⟨UInt8.ofNat (x * 16 + y) :: raw,?_,?_⟩
    · rw [fromhex,if_neg (by simp [not_asciiSpace hhigh]),hx,hy,hraw]
      rfl
    · rw [List.length_cons,List.length_cons,List.length_cons]
      omega

theorem hexDigit_hexValue : ∀ c ∈ lowerHex, ∃ n, n < 16 ∧ hexValue c = some n ∧ hexDigit n = c := by
  have hlist : lowerHex = (List.finRange 16).map fun i => hexDigit i.val := by decide
  intro c hc
  rw [hlist] at hc
  obtain ⟨i,_,rfl⟩ := List.mem_map.mp hc
  exact ⟨i.val,i.isLt,hexValue_hexDigit i,rfl⟩

theorem hexChars_fromhex {text : List Char} (hdigits : ∀ c ∈ text, c ∈ lowerHex) {raw : Bytes}
    (h : fromhex text = some raw) : hexChars raw = text := by
  match text with
  | [] =>
    cases h
    rfl
  | [c] =>
    obtain ⟨n,_,hvalue,_⟩ := hexDigit_hexValue c (hdigits c List.mem_cons_self)
    rw [fromhex,if_neg (by simp [not_asciiSpace (c := c) (by simp [hvalue])])] at h
    cases h
  | high :: low :: rest =>
    obtain ⟨x,hx,hhigh,hxc⟩ := hexDigit_hexValue high (hdigits high List.mem_cons_self)
    obtain ⟨y,hy,hlow,hyc⟩ := hexDigit_hexValue low (hdigits low (List.mem_cons_of_mem _ List.mem_cons_self))
    rw [fromhex,if_neg (by simp [not_asciiSpace (c := high) (by simp [hhigh])]),hhigh,hlow] at h
    simp only [Option.bind_eq_bind,Option.bind_some,Option.pure_def,Option.bind_eq_some_iff,Option.some.injEq] at h
    obtain ⟨tail,htail,rfl⟩ := h
    have hrest := hexChars_fromhex
      (fun c hc => hdigits c (List.mem_cons_of_mem _ (List.mem_cons_of_mem _ hc))) htail
    have hbyte : (UInt8.ofNat (x * 16 + y)).toNat = x * 16 + y := toNat_ofNat (by omega)
    have hdiv : (x * 16 + y) / 16 = x := by omega
    have hmod : (x * 16 + y) % 16 = y := by omega
    rw [hexChars,List.flatMap_cons,hbyte,hdiv,hmod,hxc,hyc,← hexChars,hrest]
    rfl

end Hex

section Root
variable (platform : Platform)

def merkleText (left right : Bytes) : Bytes := utf8 "p0-count-merkle-v1\\0" ++ left ++ right

def merkleNode (left right : Bytes) : Bytes := (platform.sha256 (merkleText left right)).bytes

def merkleRoot (leaves : List String) : Py String := do
  demand (!leaves.isEmpty && leaves.all fun leaf => decide (leaf.toList.length = 64))
    (.recordValidationError "Merkle commitment requires non-empty SHA-256 leaves")
  let level ← leaves.mapM fun leaf =>
    required (.valueError "non-hexadecimal number found in fromhex() arg") (fromhex leaf.toList)
  let top ← required (.indexError "list index out of range") (root (merkleNode platform) level)
  return String.ofList (hexChars top)

def leafDigest (leaf : String) : Bytes := (fromhex leaf.toList).getD []

structure HexLeaves (leaves : List String) : Prop where
  nonempty : leaves ≠ []
  digits : ∀ leaf ∈ leaves, isHexDigest leaf = true

def nodeTexts (level : List Bytes) : List Bytes :=
  (rootPairs (merkleNode platform) level).map fun pair => merkleText pair.1 pair.2

structure Separated (left right : List Bytes) : Prop where
  collisionFree : CollisionFree platform (nodeTexts platform left ++ nodeTexts platform right)
  leaves : ∀ leaf ∈ left ++ right, ∀ text ∈ nodeTexts platform left ++ nodeTexts platform right,
    leaf ≠ (platform.sha256 text).bytes

variable {platform}

theorem leafDigest_spec {leaf : String} (h : isHexDigest leaf = true) :
    fromhex leaf.toList = some (leafDigest leaf) ∧ (leafDigest leaf).length = 32 := by
  rw [isHexDigest,Bool.and_eq_true,decide_eq_true_iff,List.all_eq_true] at h
  obtain ⟨raw,hraw,hlength⟩ := fromhex_total leaf.toList h.2 (by rw [h.1])
  rw [leafDigest,hraw]
  refine ⟨rfl,?_⟩
  rw [Option.getD_some]
  omega

theorem isHexDigest_of_isSha256 {leaf : String} (h : isSha256 leaf = true) : isHexDigest leaf = true := by
  rw [isSha256,Bool.and_eq_true,List.all_eq_true] at h
  rw [isHexDigest,Bool.and_eq_true,List.all_eq_true]
  refine ⟨h.1,fun c hc => ?_⟩
  obtain ⟨n,_,hvalue,_⟩ := hexDigit_hexValue c (of_decide_eq_true (h.2 c hc))
  rw [hvalue]
  rfl

theorem leafDigest_injective {left right : String} (hleft : isSha256 left = true) (hright : isSha256 right = true)
    (h : leafDigest left = leafDigest right) : left = right := by
  have hchars {leaf : String} (hleaf : isSha256 leaf = true) : hexChars (leafDigest leaf) = leaf.toList := by
    refine hexChars_fromhex (fun c hc => ?_) (leafDigest_spec (isHexDigest_of_isSha256 hleaf)).1
    rw [isSha256,Bool.and_eq_true,List.all_eq_true] at hleaf
    exact of_decide_eq_true (hleaf.2 c hc)
  exact String.toList_injective ((hchars hleft).symm.trans ((congrArg hexChars h).trans (hchars hright)))

theorem hexChars_injective : Function.Injective hexChars := by
  intro left right h
  have hread := congrArg fromHexChars h
  rwa [fromHexChars_hexChars,fromHexChars_hexChars,Option.some.injEq] at hread

theorem merkleText_injective {left right left' right' : Bytes} (hleft : left.length = 32) (hleft' : left'.length = 32)
    (h : merkleText left right = merkleText left' right') : left = left' ∧ right = right' := by
  rw [merkleText,merkleText,List.append_assoc,List.append_assoc] at h
  exact List.append_inj (List.append_cancel_left h) (hleft.trans hleft'.symm)

theorem leaves_mapM {leaves : List String} (h : ∀ leaf ∈ leaves, isHexDigest leaf = true) :
    (leaves.mapM fun leaf =>
      required (.valueError "non-hexadecimal number found in fromhex() arg") (fromhex leaf.toList)) =
        .ok (leaves.map leafDigest) := by
  induction leaves with
  | nil => rfl
  | cons leaf rest ih =>
    obtain ⟨hleaf,hrest⟩ := List.forall_mem_cons.mp h
    rw [List.mapM_cons,(leafDigest_spec hleaf).1,ih hrest]
    rfl

theorem merkleRoot_eq {leaves : List String} (h : HexLeaves leaves) :
    ∃ top, root (merkleNode platform) (leaves.map leafDigest) = some top ∧
      merkleRoot platform leaves = .ok (String.ofList (hexChars top)) := by
  have hnonempty : leaves.map leafDigest ≠ [] := by simpa using h.nonempty
  obtain ⟨top,htop⟩ := root_total (merkleNode platform) hnonempty
  have hcheck : (!leaves.isEmpty && leaves.all fun leaf => decide (leaf.toList.length = 64)) = true := by
    rw [Bool.and_eq_true,List.all_eq_true]
    refine ⟨by simpa using h.nonempty,fun leaf hleaf => ?_⟩
    have hdigits := h.digits leaf hleaf
    rw [isHexDigest,Bool.and_eq_true] at hdigits
    exact hdigits.1
  refine ⟨top,htop,?_⟩
  rw [merkleRoot,hcheck,leaves_mapM h.digits]
  change (required _ (root (merkleNode platform) (leaves.map leafDigest)) >>= fun top => Except.ok _) = _
  rw [htop]
  rfl

theorem digests_size (leaves : List String) (h : HexLeaves leaves) :
    ∀ digest ∈ leaves.map leafDigest, digest.length = 32 := by
  intro digest hdigest
  obtain ⟨leaf,hleaf,rfl⟩ := List.mem_map.mp hdigest
  exact (leafDigest_spec (h.digits leaf hleaf)).2

theorem pairs_size (leaves : List String) (h : HexLeaves leaves) :
    ∀ pair ∈ rootPairs (merkleNode platform) (leaves.map leafDigest), pair.1.length = 32 ∧ pair.2.length = 32 :=
  rootPairs_forall (fun left right => (platform.sha256 (merkleText left right)).size) (digests_size leaves h)

theorem treeOf_of_root {left right : List String} (hleft : HexLeaves left) (hright : HexLeaves right)
    (hseparated : Separated platform (left.map leafDigest) (right.map leafDigest))
    (h : root (merkleNode platform) (left.map leafDigest) = root (merkleNode platform) (right.map leafDigest)) :
    treeOf (left.map leafDigest) = treeOf (right.map leafDigest) := by
  have hnonempty : left.map leafDigest ≠ [] := by simpa using hleft.nonempty
  have htexts {level : List Bytes} {pair : Bytes × Bytes} (hpair : pair ∈ rootPairs (merkleNode platform) level) :
      merkleText pair.1 pair.2 ∈ nodeTexts platform level :=
    List.mem_map.mpr ⟨pair,hpair,rfl⟩
  refine root_binding hnonempty ?_ ?_ ?_ h
  · intro p hp q hq hsame
    have hhex : (platform.sha256 (merkleText p.1 p.2)).hex = (platform.sha256 (merkleText q.1 q.2)).hex := by
      rw [Digest.hex,Digest.hex]
      exact congrArg (fun raw => String.ofList (hexChars raw)) hsame
    have htext := hseparated.collisionFree _ (List.mem_append_left _ (htexts hp)) _
      (List.mem_append_right _ (htexts hq)) hhex
    obtain ⟨hfirst,hsecond⟩ := merkleText_injective (pairs_size left hleft p hp).1 (pairs_size right hright q hq).1 htext
    exact Prod.ext hfirst hsecond
  · intro leaf hleaf q hq
    exact hseparated.leaves leaf (List.mem_append_left _ hleaf) _ (List.mem_append_right _ (htexts hq))
  · intro leaf hleaf p hp
    exact hseparated.leaves leaf (List.mem_append_right _ hleaf) _ (List.mem_append_left _ (htexts hp))

theorem merkleRoot_iff {left right : List String} (hleft : HexLeaves left) (hright : HexLeaves right)
    (hseparated : Separated platform (left.map leafDigest) (right.map leafDigest)) :
    merkleRoot platform left = merkleRoot platform right ↔
      treeOf (left.map leafDigest) = treeOf (right.map leafDigest) := by
  obtain ⟨top,htop,hroot⟩ := @merkleRoot_eq platform _ hleft
  obtain ⟨top',htop',hroot'⟩ := @merkleRoot_eq platform _ hright
  rw [hroot,hroot']
  constructor
  · intro h
    have htops : top = top' := hexChars_injective (String.ofList_injective (Except.ok.inj h))
    exact treeOf_of_root hleft hright hseparated (htop.trans ((congrArg some htops).trans htop'.symm))
  · intro h
    rw [root_eq_digest,h,← root_eq_digest,htop'] at htop
    rw [Option.some.inj htop]

theorem prefix_of_merkleRoot {left right : List String} (hleft : HexLeaves left) (hright : HexLeaves right)
    (hseparated : Separated platform (left.map leafDigest) (right.map leafDigest))
    (h : merkleRoot platform left = merkleRoot platform right) :
    left.map leafDigest <+: right.map leafDigest ∨ right.map leafDigest <+: left.map leafDigest := by
  have hnonempty : left.map leafDigest ≠ [] := by simpa using hleft.nonempty
  exact prefix_of_treeOf hnonempty ((merkleRoot_iff hleft hright hseparated).mp h)

theorem digests_of_merkleRoot {left right : List String} (hleft : HexLeaves left) (hright : HexLeaves right)
    (hseparated : Separated platform (left.map leafDigest) (right.map leafDigest))
    (h : merkleRoot platform left = merkleRoot platform right) (hlength : left.length = right.length) :
    left.map leafDigest = right.map leafDigest := by
  have hnonempty : left.map leafDigest ≠ [] := by simpa using hleft.nonempty
  exact eq_of_treeOf hnonempty ((merkleRoot_iff hleft hright hseparated).mp h) (by simpa using hlength)

end Root

section Agreement
variable {A B C : Type} {f : A → B} {g : A → C}

theorem map_eq_of_map_eq {xs ys : List A} (h : ∀ x ∈ xs, ∀ y ∈ ys, f x = f y → g x = g y) (hmap : xs.map f = ys.map f) :
    xs.map g = ys.map g := by
  induction xs generalizing ys with
  | nil => rw [List.map_eq_nil_iff.mp hmap.symm]
  | cons x xs ih =>
    cases ys with
    | nil => cases hmap
    | cons y ys =>
      rw [List.map_cons,List.map_cons,List.cons.injEq] at hmap
      rw [List.map_cons,List.map_cons,h x List.mem_cons_self y List.mem_cons_self hmap.1,
        ih (fun a ha b hb => h a (List.mem_cons_of_mem _ ha) b (List.mem_cons_of_mem _ hb)) hmap.2]

theorem prefix_of_map_prefix {xs ys : List A} (h : ∀ x ∈ xs, ∀ y ∈ ys, f x = f y → g x = g y)
    (hmap : xs.map f <+: ys.map f) : xs.map g <+: ys.map g := by
  obtain ⟨rest,hrest⟩ := hmap
  obtain ⟨front,back,rfl,hfront,_⟩ := List.map_eq_append_iff.mp hrest.symm
  rw [map_eq_of_map_eq (fun x hx y hy => h x hx y (List.mem_append_left _ hy)) hfront.symm,List.map_append]
  exact List.prefix_append _ _

end Agreement

section Receipts
variable (platform : Platform)

abbrev ReplayRow := BenchmarkPatternCounts × BenchmarkPatternCounts

def patternCountDigest (counts : BenchmarkPatternCounts) : String :=
  (platform.sha256 (canonicalJsonBytes counts.json)).hex

def replayText (row : ReplayRow) : Bytes :=
  utf8 (patternCountDigest platform row.1 ++ patternCountDigest platform row.2)

def replayLeaf (row : ReplayRow) : String := (platform.sha256 (replayText platform row)).hex

def rowTexts (row : ReplayRow) : List Bytes :=
  [canonicalJsonBytes row.1.json,canonicalJsonBytes row.2.json,replayText platform row]

def receiptTexts (rows : List ReplayRow) : List Bytes :=
  rows.flatMap (rowTexts platform) ++ nodeTexts platform (rows.map fun row => leafDigest (replayLeaf platform row))

def rowTensors (row : ReplayRow) : (PatternCounts × ℕ × List PatternCounts) × (PatternCounts × ℕ × List PatternCounts) :=
  (row.1.tensor,row.2.tensor)

variable {platform}

theorem leafDigest_hex (digest : Digest) : leafDigest digest.hex = digest.bytes := by
  have hsha := digest.isSha256_hex
  have hlower : ∀ c ∈ digest.hex.toList, c ∈ lowerHex := by
    rw [isSha256,Bool.and_eq_true,List.all_eq_true] at hsha
    exact fun c hc => of_decide_eq_true (hsha.2 c hc)
  have hchars := hexChars_fromhex hlower (leafDigest_spec (isHexDigest_of_isSha256 hsha)).1
  rw [Digest.hex,String.toList_ofList] at hchars
  exact hexChars_injective hchars

theorem encoded_length {text : List Char} (h : ∀ c ∈ text, c.toNat < 128) : (encoded text).length = text.length := by
  induction text with
  | nil => rfl
  | cons c rest ih =>
    obtain ⟨hc,hrest⟩ := List.forall_mem_cons.mp h
    rw [encoded_cons,List.length_append,encodeChar_ascii hc,ih hrest,List.length_singleton,List.length_cons,add_comm]

theorem hex_ascii (digest : Digest) : digest.hex.toList.length = 64 ∧ ∀ c ∈ digest.hex.toList, c.toNat < 128 := by
  have hsha := digest.isSha256_hex
  rw [isSha256,Bool.and_eq_true,decide_eq_true_iff,List.all_eq_true] at hsha
  have hlow : ∀ n : Fin 16, (hexDigit n.val).toNat < 128 := by decide
  refine ⟨hsha.1,fun c hc => ?_⟩
  obtain ⟨n,hn,_,rfl⟩ := hexDigit_hexValue c (of_decide_eq_true (hsha.2 c hc))
  exact hlow ⟨n,hn⟩

theorem utf8_eq_encoded (text : String) : utf8 text = encoded text.toList := by
  rw [← utf8_ofList,String.ofList_toList]

theorem replayText_length (row : ReplayRow) : (replayText platform row).length = 128 := by
  obtain ⟨hswe,hsweAscii⟩ := hex_ascii (platform.sha256 (canonicalJsonBytes row.1.json))
  obtain ⟨htau,htauAscii⟩ := hex_ascii (platform.sha256 (canonicalJsonBytes row.2.json))
  rw [replayText,utf8_eq_encoded,String.toList_append,encoded_append,List.length_append,patternCountDigest,
    patternCountDigest,encoded_length hsweAscii,encoded_length htauAscii,hswe,htau]

def merkleMagic : List Char :=
  ['p','0','-','c','o','u','n','t','-','m','e','r','k','l','e','-','v','1','\\','0']

theorem merkleText_length {left right : Bytes} (hleft : left.length = 32) (hright : right.length = 32) :
    (merkleText left right).length = 84 := by
  have hmagic : (utf8 "p0-count-merkle-v1\\0").length = 20 := by
    have htext : "p0-count-merkle-v1\\0" = String.ofList merkleMagic := rfl
    have hascii : ∀ c ∈ merkleMagic, c.toNat < 128 := by simp [merkleMagic]
    rw [htext,utf8_ofList,encoded_length hascii]
    rfl
  rw [merkleText,List.length_append,List.length_append,hmagic,hleft,hright]

theorem tensors_of_leaf {row other : ReplayRow} {texts : List Bytes}
    (hcollision : CollisionFree platform texts) (hrow : ∀ text ∈ rowTexts platform row, text ∈ texts)
    (hother : ∀ text ∈ rowTexts platform other, text ∈ texts) (h : replayLeaf platform row = replayLeaf platform other) :
    rowTensors row = rowTensors other := by
  have htext := hcollision _ (hrow _ (by simp [rowTexts])) _ (hother _ (by simp [rowTexts])) h
  have hhex := congrArg String.toList (utf8_injective htext)
  rw [String.toList_append,String.toList_append] at hhex
  obtain ⟨hswe,htau⟩ := List.append_inj hhex ((hex_ascii _).1.trans (hex_ascii _).1.symm)
  have hsweJson := hcollision _ (hrow _ (by simp [rowTexts])) _ (hother _ (by simp [rowTexts]))
    (String.toList_injective hswe)
  have htauJson := hcollision _ (hrow _ (by simp [rowTexts])) _ (hother _ (by simp [rowTexts]))
    (String.toList_injective htau)
  rw [rowTensors,rowTensors,
    BenchmarkPatternCounts.tensor_of_json (canonicalJsonBytes_injective row.1.json_exact other.1.json_exact hsweJson),
    BenchmarkPatternCounts.tensor_of_json (canonicalJsonBytes_injective row.2.json_exact other.2.json_exact htauJson)]

theorem replayLeaves_hex {rows : List ReplayRow} (h : rows ≠ []) : HexLeaves (rows.map (replayLeaf platform)) where
  nonempty := by simpa using h
  digits := by
    intro leaf hleaf
    obtain ⟨row,_,rfl⟩ := List.mem_map.mp hleaf
    exact isHexDigest_of_isSha256 (Digest.isSha256_hex _)

theorem nodeTexts_length {rows : List ReplayRow} (h : rows ≠ []) {text : Bytes}
    (htext : text ∈ nodeTexts platform ((rows.map (replayLeaf platform)).map leafDigest)) : text.length = 84 := by
  obtain ⟨pair,hpair,rfl⟩ := List.mem_map.mp htext
  obtain ⟨hleft,hright⟩ := pairs_size _ (replayLeaves_hex h) pair hpair
  exact merkleText_length hleft hright

theorem separated_of_receipts {rows others : List ReplayRow} (hrows : rows ≠ []) (hothers : others ≠ [])
    (hcollision : CollisionFree platform (receiptTexts platform rows ++ receiptTexts platform others)) :
    Separated platform ((rows.map (replayLeaf platform)).map leafDigest)
      ((others.map (replayLeaf platform)).map leafDigest) := by
  have hnodes (listed : List ReplayRow) (text : Bytes)
      (htext : text ∈ nodeTexts platform ((listed.map (replayLeaf platform)).map leafDigest)) :
      text ∈ receiptTexts platform listed := by
    rw [List.map_map] at htext
    exact List.mem_append_right _ htext
  have hall : ∀ text ∈ nodeTexts platform ((rows.map (replayLeaf platform)).map leafDigest) ++
      nodeTexts platform ((others.map (replayLeaf platform)).map leafDigest),
      text ∈ receiptTexts platform rows ++ receiptTexts platform others ∧ text.length = 84 := by
    intro text htext
    obtain hleft | hright := List.mem_append.mp htext
    · exact ⟨List.mem_append_left _ (hnodes rows text hleft),nodeTexts_length hrows hleft⟩
    · exact ⟨List.mem_append_right _ (hnodes others text hright),nodeTexts_length hothers hright⟩
  have hleaves (listed : List ReplayRow) (leaf : Bytes) (hleaf : leaf ∈ (listed.map (replayLeaf platform)).map leafDigest) :
      ∃ row ∈ listed, leaf = (platform.sha256 (replayText platform row)).bytes := by
    rw [List.map_map] at hleaf
    obtain ⟨row,hrow,rfl⟩ := List.mem_map.mp hleaf
    exact ⟨row,hrow,leafDigest_hex _⟩
  have hlisted (listed : List ReplayRow) (row : ReplayRow) (hrow : row ∈ listed) :
      replayText platform row ∈ receiptTexts platform listed :=
    List.mem_append_left _ (List.mem_flatMap.mpr ⟨row,hrow,by simp [rowTexts]⟩)
  refine ⟨hcollision.mono fun text htext => (hall text htext).1,fun leaf hleaf text htext hsame => ?_⟩
  have hrow : ∃ row, replayText platform row ∈ receiptTexts platform rows ++ receiptTexts platform others ∧
      leaf = (platform.sha256 (replayText platform row)).bytes := by
    obtain hleft | hright := List.mem_append.mp hleaf
    · obtain ⟨row,hrow,heq⟩ := hleaves rows leaf hleft
      exact ⟨row,List.mem_append_left _ (hlisted rows row hrow),heq⟩
    · obtain ⟨row,hrow,heq⟩ := hleaves others leaf hright
      exact ⟨row,List.mem_append_right _ (hlisted others row hrow),heq⟩
  obtain ⟨row,hmem,rfl⟩ := hrow
  have hhex : (platform.sha256 (replayText platform row)).hex = (platform.sha256 text).hex := by
    rw [Digest.hex,Digest.hex,hsame]
  have hsize := congrArg List.length (hcollision _ hmem _ (hall text htext).1 hhex)
  rw [replayText_length,(hall text htext).2] at hsize
  exact absurd hsize (by decide)

theorem receipt_binding {rows others : List ReplayRow} (hrows : rows ≠ []) (hothers : others ≠ [])
    (hcollision : CollisionFree platform (receiptTexts platform rows ++ receiptTexts platform others))
    (h : merkleRoot platform (rows.map (replayLeaf platform)) = merkleRoot platform (others.map (replayLeaf platform))) :
    (rows.map rowTensors <+: others.map rowTensors ∨ others.map rowTensors <+: rows.map rowTensors) ∧
      (rows.length = others.length → rows.map rowTensors = others.map rowTensors) := by
  have hseparated := separated_of_receipts hrows hothers hcollision
  have htexts (listed : List ReplayRow) (row : ReplayRow) (hrow : row ∈ listed) :
      ∀ text ∈ rowTexts platform row, text ∈ receiptTexts platform listed := fun text htext =>
    List.mem_append_left _ (List.mem_flatMap.mpr ⟨row,hrow,htext⟩)
  have hagree (row : ReplayRow) (hrow : row ∈ rows) (other : ReplayRow) (hother : other ∈ others)
      (hleaf : (leafDigest ∘ replayLeaf platform) row = (leafDigest ∘ replayLeaf platform) other) :
      rowTensors row = rowTensors other := by
    refine tensors_of_leaf hcollision (fun text htext => List.mem_append_left _ (htexts rows row hrow text htext))
      (fun text htext => List.mem_append_right _ (htexts others other hother text htext)) ?_
    exact leafDigest_injective (Digest.isSha256_hex _) (Digest.isSha256_hex _) hleaf
  have hagree' (other : ReplayRow) (hother : other ∈ others) (row : ReplayRow) (hrow : row ∈ rows)
      (hleaf : (leafDigest ∘ replayLeaf platform) other = (leafDigest ∘ replayLeaf platform) row) :
      rowTensors other = rowTensors row :=
    (hagree row hrow other hother hleaf.symm).symm
  constructor
  · have hprefix := prefix_of_merkleRoot (replayLeaves_hex hrows) (replayLeaves_hex hothers) hseparated h
    rw [List.map_map,List.map_map] at hprefix
    exact hprefix.imp ( prefix_of_map_prefix hagree) ( prefix_of_map_prefix hagree')
  · intro hlength
    have hdigests := digests_of_merkleRoot (replayLeaves_hex hrows) (replayLeaves_hex hothers) hseparated h
      (by simpa using hlength)
    rw [List.map_map,List.map_map] at hdigests
    exact map_eq_of_map_eq hagree hdigests

end Receipts

theorem merkle_root_binding (platform : Platform) :
    (∀ left right : List String, HexLeaves left → HexLeaves right →
      Separated platform (left.map leafDigest) (right.map leafDigest) →
        (merkleRoot platform left = merkleRoot platform right ↔
          treeOf (left.map leafDigest) = treeOf (right.map leafDigest)) ∧
        (merkleRoot platform left = merkleRoot platform right →
          (left.map leafDigest <+: right.map leafDigest ∨ right.map leafDigest <+: left.map leafDigest) ∧
          (left.length = right.length → left.map leafDigest = right.map leafDigest ∧
            ((∀ leaf ∈ left ++ right, isSha256 leaf = true) → left = right)))) ∧
    (∀ rows others : List ReplayRow, rows ≠ [] → others ≠ [] →
      CollisionFree platform (receiptTexts platform rows ++ receiptTexts platform others) →
      merkleRoot platform (rows.map (replayLeaf platform)) = merkleRoot platform (others.map (replayLeaf platform)) →
        (rows.map rowTensors <+: others.map rowTensors ∨ others.map rowTensors <+: rows.map rowTensors) ∧
        (rows.length = others.length → rows.map rowTensors = others.map rowTensors)) := by
  refine ⟨fun left right hleft hright hseparated => ⟨merkleRoot_iff hleft hright hseparated,fun h => ?_⟩,
    fun rows others hrows hothers hcollision h => receipt_binding hrows hothers hcollision h⟩
  refine ⟨prefix_of_merkleRoot hleft hright hseparated h,fun hlength => ?_⟩
  have hdigests := digests_of_merkleRoot hleft hright hseparated h hlength
  refine ⟨hdigests,fun hlower => ?_⟩
  have htexts := map_eq_of_map_eq (g := id) (fun x hx y hy => leafDigest_injective
    (hlower x (List.mem_append_left _ hx)) (hlower y (List.mem_append_right _ hy))) hdigests
  rwa [List.map_id,List.map_id] at htexts

section Sample

def uniform (byte : UInt8) : Bytes := List.replicate 32 byte

def endsPlatform : Platform where
  sha256 := fun raw => ⟨uniform (raw.reverse.getD 32 0 + 2 * raw.reverse.getD 0 0),List.length_replicate⟩
  hmac := fun _ _ => ⟨uniform 0,List.length_replicate⟩
  normalized := fun _ => true
  otherCategory := fun _ => false
  floatRepr := id

def sampleText (pair : UInt8 × UInt8) : Bytes := merkleText (uniform pair.1) (uniform pair.2)

theorem endsPlatform_sampleText (pair : UInt8 × UInt8) :
    (endsPlatform.sha256 (sampleText pair)).bytes = uniform (pair.1 + 2 * pair.2) := by
  have hreverse : (sampleText pair).reverse =
      uniform pair.2 ++ (uniform pair.1 ++ (utf8 "p0-count-merkle-v1\\0").reverse) := by
    simp only [sampleText,merkleText,uniform,List.reverse_append,List.reverse_replicate]
  simp only [endsPlatform,hreverse]
  rfl

theorem merkleNode_uniform (x y : UInt8) : merkleNode endsPlatform (uniform x) (uniform y) = uniform (x + 2 * y) :=
  endsPlatform_sampleText (x,y)

theorem uniform_injective {x y : UInt8} (h : uniform x = uniform y) : x = y := (List.cons.inj h).1

theorem endsTexts_collisionFree {pairs : List (UInt8 × UInt8)}
    (h : ∀ p ∈ pairs, ∀ q ∈ pairs, p.1 + 2 * p.2 = q.1 + 2 * q.2 → p = q) :
    CollisionFree endsPlatform (pairs.map sampleText) := by
  intro left hleft right hright hsame
  obtain ⟨p,hp,rfl⟩ := List.mem_map.mp hleft
  obtain ⟨q,hq,rfl⟩ := List.mem_map.mp hright
  have hbytes := congrArg Digest.bytes (Digest.hex_injective hsame)
  rw [endsPlatform_sampleText,endsPlatform_sampleText] at hbytes
  rw [h p hp q hq (uniform_injective hbytes)]

def repeatedLeaf (digit : Char) : String := String.ofList (List.replicate 64 digit)

def threeLeaves : List String := [repeatedLeaf '1',repeatedLeaf '2',repeatedLeaf '3']

def fourLeaves : List String := threeLeaves ++ [repeatedLeaf '3']

def samplePairs : List (UInt8 × UInt8) := [(17,34),(51,51),(85,153)]

theorem isSha256_repeatedLeaf {digit : Char} (h : digit ∈ lowerHex) : isSha256 (repeatedLeaf digit) = true := by
  rw [isSha256,repeatedLeaf,String.toList_ofList,Bool.and_eq_true,List.all_eq_true]
  refine ⟨rfl,fun c hc => ?_⟩
  rw [(List.mem_replicate.mp hc).2]
  exact decide_eq_true h

theorem threeLeaves_digests : threeLeaves.map leafDigest = [uniform 17,uniform 34,uniform 51] := by
  simp only [threeLeaves,List.map_cons,List.map_nil,leafDigest,repeatedLeaf,String.toList_ofList]
  rfl

theorem fourLeaves_digests : fourLeaves.map leafDigest = [uniform 17,uniform 34,uniform 51,uniform 51] := by
  rw [fourLeaves,List.map_append,threeLeaves_digests]
  simp only [List.map_cons,List.map_nil,leafDigest,repeatedLeaf,String.toList_ofList]
  rfl

theorem sample_nodeTexts : nodeTexts endsPlatform (threeLeaves.map leafDigest) = samplePairs.map sampleText ∧
    nodeTexts endsPlatform (fourLeaves.map leafDigest) = samplePairs.map sampleText := by
  rw [threeLeaves_digests,fourLeaves_digests]
  simp [nodeTexts,rootPairs,climbPairs,levelPairs,padded,nextLevel,pairUp,merkleNode_uniform,samplePairs,sampleText]

theorem threeLeaves_hex : HexLeaves threeLeaves where
  nonempty := by simp [threeLeaves]
  digits := by
    simp only [threeLeaves,List.forall_mem_cons]
    exact ⟨isHexDigest_of_isSha256 (isSha256_repeatedLeaf (by decide)),
      isHexDigest_of_isSha256 (isSha256_repeatedLeaf (by decide)),
      isHexDigest_of_isSha256 (isSha256_repeatedLeaf (by decide)),by simp⟩

theorem fourLeaves_hex : HexLeaves fourLeaves where
  nonempty := by simp [fourLeaves]
  digits := by
    intro leaf hleaf
    obtain hthree | hlast := List.mem_append.mp hleaf
    · exact threeLeaves_hex.digits leaf hthree
    · rw [List.mem_singleton.mp hlast]
      exact isHexDigest_of_isSha256 (isSha256_repeatedLeaf (by decide))

theorem sample_separated : Separated endsPlatform (threeLeaves.map leafDigest) (fourLeaves.map leafDigest) := by
  obtain ⟨hthree,hfour⟩ := sample_nodeTexts
  constructor
  · rw [hthree,hfour]
    have hdistinct : ∀ p ∈ samplePairs, ∀ q ∈ samplePairs, p.1 + 2 * p.2 = q.1 + 2 * q.2 → p = q := by
      simp [samplePairs]
    exact (endsTexts_collisionFree hdistinct).mono fun text htext => (List.mem_append.mp htext).elim id id
  · rw [hthree,hfour,threeLeaves_digests,fourLeaves_digests]
    intro leaf hleaf text htext hsame
    obtain ⟨pair,hpair,rfl⟩ := List.mem_map.mp ((List.mem_append.mp htext).elim id id)
    have hleaf' : ∃ byte ∈ [17,34,51], leaf = uniform byte := by
      simp only [List.mem_append,List.mem_cons,List.not_mem_nil,or_false] at hleaf
      rcases hleaf with (rfl | rfl | rfl) | rfl | rfl | rfl | rfl
      all_goals exact ⟨_,by simp,rfl⟩
    obtain ⟨byte,hbyte,rfl⟩ := hleaf'
    rw [endsPlatform_sampleText] at hsame
    have hnone : ∀ byte ∈ [(17 : UInt8),34,51], ∀ pair ∈ samplePairs, byte ≠ pair.1 + 2 * pair.2 := by
      simp [samplePairs]
    exact hnone byte hbyte pair hpair (uniform_injective hsame)

theorem sample_root : merkleRoot endsPlatform threeLeaves = merkleRoot endsPlatform fourLeaves := by
  refine (merkleRoot_iff threeLeaves_hex fourLeaves_hex sample_separated).mpr ?_
  rw [threeLeaves_digests,fourLeaves_digests]
  rfl

theorem repeated_tail_shares_root : ¬ ∀ (platform : Platform) (left right : List String), HexLeaves left → HexLeaves right →
    Separated platform (left.map leafDigest) (right.map leafDigest) →
      merkleRoot platform left = merkleRoot platform right → left = right := by
  intro h
  have hlength := congrArg List.length
    (h endsPlatform threeLeaves fourLeaves threeLeaves_hex fourLeaves_hex sample_separated sample_root)
  exact absurd hlength (by simp [fourLeaves])

def sampleCounts : BenchmarkPatternCounts where
  patternCounts := fun _ => 0
  triggeredPatternCounts := fun _ => 0
  noTriggerPatternCounts := fun _ => 0
  jointGroupPatternCounts := []
  triggeredCount := 0
  expectedContent := 0
  expectedExcess := 0

def expectedCounts : BenchmarkPatternCounts := { sampleCounts with expectedContent := 1 }

def countsPlatform : Platform where
  sha256 := fun raw => ⟨uniform (if raw = canonicalJsonBytes sampleCounts.json then 0 else 1),List.length_replicate⟩
  hmac := fun _ _ => ⟨uniform 0,List.length_replicate⟩
  normalized := fun _ => true
  otherCategory := fun _ => false
  floatRepr := id

theorem sampleReceipt_collisionFree : CollisionFree countsPlatform
    (receiptTexts countsPlatform [(sampleCounts,sampleCounts)] ++
      receiptTexts countsPlatform [(sampleCounts,expectedCounts)]) := by
  have hsame : receiptTexts countsPlatform [(sampleCounts,expectedCounts)] =
      receiptTexts countsPlatform [(sampleCounts,sampleCounts)] := rfl
  have hlisted : ∀ text ∈ receiptTexts countsPlatform [(sampleCounts,sampleCounts)] ++
      receiptTexts countsPlatform [(sampleCounts,expectedCounts)],
      text = canonicalJsonBytes sampleCounts.json ∨ text = replayText countsPlatform (sampleCounts,sampleCounts) := by
    rw [hsame]
    simp [receiptTexts,rowTexts,nodeTexts,rootPairs,climbPairs]
  intro left hleft right hright hsame
  have hbyte := uniform_injective (congrArg Digest.bytes (Digest.hex_injective hsame))
  rcases hlisted left hleft with rfl | rfl <;> rcases hlisted right hright with rfl | rfl
  · rfl
  · by_contra hne
    rw [if_pos rfl,if_neg (Ne.symm hne)] at hbyte
    exact absurd hbyte (by decide)
  · by_contra hne
    rw [if_neg hne,if_pos rfl] at hbyte
    exact absurd hbyte (by decide)
  · rfl

theorem three_leaves_bound : (threeLeaves.map leafDigest <+: fourLeaves.map leafDigest ∨
      fourLeaves.map leafDigest <+: threeLeaves.map leafDigest) ∧
    sampleCounts ≠ expectedCounts ∧
    [(sampleCounts,sampleCounts)].map rowTensors = [(sampleCounts,expectedCounts)].map rowTensors := by
  have hleaves := (merkle_root_binding endsPlatform).1 threeLeaves fourLeaves threeLeaves_hex fourLeaves_hex sample_separated
  have hreceipts := (merkle_root_binding countsPlatform).2 [(sampleCounts,sampleCounts)] [(sampleCounts,expectedCounts)]
    (List.cons_ne_nil _ _) (List.cons_ne_nil _ _) sampleReceipt_collisionFree rfl
  refine ⟨(hleaves.2 sample_root).1,fun hsame => ?_,hreceipts.2 rfl⟩
  exact zero_ne_one (congrArg BenchmarkPatternCounts.expectedContent hsame)

end Sample

end PneumaLab.ResamplingNull
