import Mathlib.Data.List.Induction
import PneumaLab.ResamplingNull.Controller.StoreSafety

namespace PneumaLab.ResamplingNull.Controller

section Runs
variable (sha256 : Bytes → Digest)

def CollisionFree (events : List Event) : Prop := ∀ i j call other, Event.start i call ∈ events → Event.start j other ∈ events →
  (sha256 call.payload).hex = (sha256 other.payload).hex → call.payload = other.payload

def Clean (events : List Event) : Prop := ∀ before event after, events = before ++ event :: after →
  ¬ Deletes sha256 (run sha256 before) event ∧ ¬ Abandons sha256 (run sha256 before) event

variable {sha256} {events : List Event}

theorem run_snoc (events : List Event) (event : Event) :
    run sha256 (events ++ [event]) = (run sha256 events).step sha256 event := by
  rw [run,List.foldl_append]
  rfl

theorem Clean.of_append {before after : List Event} (h : Clean sha256 (before ++ after)) : Clean sha256 before := by
  intro earlier event later hsplit
  exact h earlier event (later ++ after) (by rw [hsplit,List.append_assoc,List.cons_append])

theorem CollisionFree.of_append {before after : List Event} (h : CollisionFree sha256 (before ++ after)) :
    CollisionFree sha256 before := fun i j call other hcall hother =>
  h i j call other (List.mem_append_left _ hcall) (List.mem_append_left _ hother)

theorem started_of_writer {i : ℕ} {writer : Writer} (h : (run sha256 events).writers i = some writer) :
    ∃ j, Event.start j writer.call ∈ events := by
  induction events using List.reverseRecOn generalizing i writer with
  | nil => cases h
  | append_singleton events event ih =>
    rw [run_snoc] at h
    cases event with
    | start j call =>
      rw [System.step] at h
      split at h
      · obtain ⟨k,hk⟩ := ih h
        exact ⟨k,List.mem_append_left _ hk⟩
      · by_cases hij : i = j
        · subst hij
          obtain rfl := stored_self h
          exact ⟨i,List.mem_append_right _ (List.mem_singleton_self _)⟩
        · obtain ⟨k,hk⟩ := ih (stored_other hij h)
          exact ⟨k,List.mem_append_left _ hk⟩
    | call j reply =>
      rw [System.step] at h
      split at h
      · obtain ⟨k,hk⟩ := ih h
        exact ⟨k,List.mem_append_left _ hk⟩
      · next actor hactor =>
        by_cases hij : i = j
        · subst hij
          obtain rfl := stored_self h
          obtain ⟨k,hk⟩ := ih hactor
          refine ⟨k,List.mem_append_left _ ?_⟩
          cases reply <;> exact hk
        · obtain ⟨k,hk⟩ := ih (stored_other hij h)
          exact ⟨k,List.mem_append_left _ hk⟩

theorem distinct_of_collisionFree (h : CollisionFree sha256 events) : Distinct sha256 (run sha256 events) := by
  intro i j writer other hwriter hother haddress
  obtain ⟨k,hcall⟩ := started_of_writer hwriter
  obtain ⟨l,hothers⟩ := started_of_writer hother
  exact h k l _ _ hcall hothers (congrArg Prod.snd haddress)

theorem kept_empty : Kept sha256 .empty := by
  constructor <;> intros <;> simp_all [System.empty,Disk.empty]

theorem kept_of_run (hcollisions : CollisionFree sha256 events) (hclean : Clean sha256 events) : Kept sha256 (run sha256 events) := by
  induction events using List.reverseRecOn with
  | nil => exact kept_empty
  | append_singleton events event ih =>
    obtain ⟨hdeletes,habandons⟩ := hclean events event [] rfl
    rw [run_snoc]
    exact (ih hcollisions.of_append hclean.of_append).step (distinct_of_collisionFree hcollisions.of_append) hdeletes habandons

theorem names_kept {system : System} {event : Event} (h : Kept sha256 system) (hdeletes : ¬ Deletes sha256 system event)
    {j : ℕ} {other : Writer} (hother : system.writers j = some other) (hcommitted : other.phase.status = .committed) {file : Inode}
    (hname : system.disk.names (other.call.address sha256) = some file) :
    (system.step sha256 event).disk.names (other.call.address sha256) = some file := by
  cases event with
  | start i call =>
    rw [System.step]
    split <;> exact hname
  | call i reply =>
    rw [System.step]
    split
    · exact hname
    · next writer hwriter =>
      obtain ⟨-,hacts⟩ := @step_acts sha256 system.disk writer reply (h.placed i writer hwriter).entered
      generalize (writer.step sha256 system.disk reply).2.phase = after at hacts
      generalize hdisk : (writer.step sha256 system.disk reply).1 = disk at hacts
      dsimp only
      rw [hdisk]
      cases hacts with
      | creates _ hnone => exact names_bind hnone hname
      | removes moved hbefore hreply =>
        refine (Function.update_of_ne (fun haddress => ?_) _ _).trans hname
        by_cases hj : j = i
        · subst hj
          obtain rfl : other = writer := Option.some.inj (hother.symm.trans hwriter)
          rw [hbefore] at hcommitted
          cases hcommitted
        · exact hdeletes ⟨writer,j,other,hwriter,hbefore,⟨moved,hreply⟩,hj,hother,haddress,hcommitted⟩
      | moves _ _ _ | reads _ _ _ _ _ _ _ _ | enters _ | fills _ _ _ _ _ _ | adopts _ _ _ | returns _ | fails _ _ _ _
      | leaves _ _ _ _ _ => exact hname

theorem returned_kept {system : System} (event : Event) {j : ℕ} {call : WriteCall}
    (h : system.writers j = some ⟨call,.returned⟩) : (system.step sha256 event).writers j = some ⟨call,.returned⟩ := by
  cases event with
  | start i other =>
    rw [System.step]
    split
    · exact h
    · next hfree =>
      have hj : j ≠ i := by
        rintro rfl
        simp [h] at hfree
      exact (Function.update_of_ne hj _ _).trans h
  | call i reply =>
    rw [System.step]
    split
    · exact h
    · next writer hwriter =>
      by_cases hj : j = i
      · subst hj
        obtain rfl := Option.some.inj (h.symm.trans hwriter)
        cases reply <;> exact Function.update_self _ _ _
      · exact (Function.update_of_ne hj _ _).trans h

structure Serves (sha256 : Bytes → Digest) (disk : Disk) (call : WriteCall) (file : Inode) : Prop where
  role : call.role ∈ disk.roles
  name : disk.names (call.address sha256) = some file
  content : disk.content file = call.payload

theorem Kept.serves {system : System} (h : Kept sha256 system) {i : ℕ} {call : WriteCall}
    (hwriter : system.writers i = some ⟨call,.returned⟩) {file : Inode}
    (hname : system.disk.names (call.address sha256) = some file) : Serves sha256 system.disk call file := by
  obtain ⟨file',hname',hcontent⟩ := (h.placed i _ hwriter).whole (.inr rfl)
  obtain rfl : file = file' := Option.some.inj (hname.symm.trans hname')
  exact ⟨h.roomed _ _ hname,hname,hcontent⟩

theorem served (before middle : List Event) (hcollisions : CollisionFree sha256 (before ++ middle))
    (hclean : Clean sha256 (before ++ middle)) {i : ℕ} {call : WriteCall}
    (hwriter : (run sha256 before).writers i = some ⟨call,.returned⟩) {file : Inode}
    (hname : (run sha256 before).disk.names (call.address sha256) = some file) :
    (run sha256 (before ++ middle)).writers i = some ⟨call,.returned⟩ ∧
      (run sha256 (before ++ middle)).disk.names (call.address sha256) = some file := by
  induction middle using List.reverseRecOn with
  | nil =>
    rw [List.append_nil]
    exact ⟨hwriter,hname⟩
  | append_singleton middle event ih =>
    rw [← List.append_assoc] at hcollisions hclean ⊢
    obtain ⟨hreturned,hnamed⟩ := ih hcollisions.of_append hclean.of_append
    obtain ⟨hdeletes,-⟩ := hclean (before ++ middle) event [] rfl
    rw [run_snoc]
    exact ⟨returned_kept event hreturned,
      names_kept (kept_of_run hcollisions.of_append hclean.of_append) hdeletes hreturned rfl hnamed⟩

end Runs

section Definitions
variable (sha256 : Bytes → Digest)

def resolveEach : ControllerArtifactResolver → List (ArtifactRef × (ℕ → Disk)) → List (Py Bytes)
  | _, [] => []
  | resolver, (ref,sees) :: rest =>
    let (answer,after) := resolver.resolveBound sha256 sees ref ref.role ref.mediaType
    answer :: resolveEach after rest

def Due (events : List Event) (request : ArtifactRef × (ℕ → Disk)) (payload : Bytes) : Prop :=
  ∃ before after i call, events = before ++ after ∧ (run sha256 before).writers i = some ⟨call,.returned⟩ ∧
    request.1 = call.ref sha256 ∧ payload = call.payload ∧
    ∀ k, ∃ middle rest, after = middle ++ rest ∧ request.2 k = (run sha256 (before ++ middle)).disk

inductive Returns (call : WriteCall) : Disk → Phase → Prop
  | done (disk : Disk) : Returns call disk .returned
  | next (disk : Disk) (phase : Phase) :
      (∀ moved, 0 < moved → Returns call (perform sha256 disk call phase moved).1 (perform sha256 disk call phase moved).2) →
      Returns call disk phase

structure ReferencesResolve (events : List Event) : Prop where
  resolves : ∀ requests payloads, List.Forall₂ (Due sha256 events) requests payloads →
    resolveEach sha256 .fresh requests = payloads.map .ok
  rewrites : ∀ before after, events = before ++ after →
    (∀ i writer, (run sha256 before).writers i = some writer → writer.phase.final = true) →
    ∀ i writer, (run sha256 before).writers i = some writer → Returns sha256 writer.call (run sha256 before).disk .mkdirRole

end Definitions

section Resolution
variable {sha256 : Bytes → Digest}

theorem validateMedia_eq_ok {role mediaType differs : String} : validateMedia role mediaType differs = .ok () ↔
    isRole role = true ∧ isMediaType mediaType = true ∧ controllerRoleMedia.lookup role = some mediaType := by
  simp only [validateMedia,bind_eq_ok,demand_eq_ok,required_eq_ok,decide_eq_true_eq]
  constructor
  · rintro ⟨_,hrole,_,hmedia,registered,hregistered,rfl⟩
    exact ⟨hrole,hmedia,hregistered⟩
  · rintro ⟨hrole,hmedia,hregistered⟩
    exact ⟨(),hrole,(),hmedia,mediaType,hregistered,rfl⟩

theorem hex_length (digest : Digest) : digest.hex.toList.length = 64 := by
  have hsha := Digest.isSha256_hex digest
  rw [isSha256,Bool.and_eq_true,decide_eq_true_eq] at hsha
  exact hsha.1

theorem joined_injective {lead separator left right left' right' : String}
    (hlength : right.toList.length = right'.toList.length)
    (h : lead ++ left ++ separator ++ right = lead ++ left' ++ separator ++ right') : left = left' ∧ right = right' := by
  have hchars := congrArg String.toList h
  simp only [String.toList_append] at hchars
  obtain ⟨hleft,hright⟩ := List.append_inj' hchars hlength
  have hmiddle := List.append_cancel_left (List.append_cancel_right hleft)
  exact ⟨String.toList_injective hmiddle,String.toList_injective hright⟩

theorem artifactPath_injective {call other : WriteCall}
    (h : artifactPath (call.address sha256) = artifactPath (other.address sha256)) :
    call.address sha256 = other.address sha256 := by
  obtain ⟨hrole,hdigest⟩ := joined_injective (by simp only [WriteCall.address,hex_length]) h
  exact Prod.ext hrole hdigest

theorem ref_congr {call other : WriteCall} (haddress : call.address sha256 = other.address sha256)
    (hpayload : call.payload = other.payload) : call.ref sha256 = other.ref sha256 := by
  have hrole : call.role = other.role := congrArg Prod.fst haddress
  obtain ⟨-,-,hmedia⟩ := validateMedia_eq_ok.mp call.valid
  obtain ⟨-,-,hother⟩ := validateMedia_eq_ok.mp other.valid
  rw [hrole,hother,Option.some.injEq] at hmedia
  rw [WriteCall.ref,WriteCall.ref,haddress,hpayload,hrole,hmedia]

structure Faithful (sha256 : Bytes → Digest) (system : System) (resolver : ControllerArtifactResolver) : Prop where
  paths : ∀ path ref, resolver.pathBindings path = some ref → ∃ i call, system.writers i = some ⟨call,.returned⟩ ∧
    ref = call.ref sha256 ∧ path = ref.relativePath
  files : ∀ file ref, resolver.physicalBindings file = some ref → ∃ i call, system.writers i = some ⟨call,.returned⟩ ∧
    ref = call.ref sha256 ∧ system.disk.names (call.address sha256) = some file

theorem Faithful.bind {system : System} {resolver : ControllerArtifactResolver} (h : Faithful sha256 system resolver)
    {i : ℕ} {call : WriteCall} (hwriter : system.writers i = some ⟨call,.returned⟩) :
    Faithful sha256 system {resolver with
      pathBindings := Function.update resolver.pathBindings (call.ref sha256).relativePath (some (call.ref sha256))} := by
  refine ⟨fun path ref hbound => ?_,h.files⟩
  by_cases hpath : path = (call.ref sha256).relativePath
  · subst hpath
    obtain rfl := stored_self hbound
    exact ⟨i,call,hwriter,rfl,rfl⟩
  · exact h.paths path ref (stored_other hpath hbound)

theorem Faithful.hold {system : System} {resolver : ControllerArtifactResolver} (h : Faithful sha256 system resolver)
    {i : ℕ} {call : WriteCall} (hwriter : system.writers i = some ⟨call,.returned⟩) {file : Inode}
    (hname : system.disk.names (call.address sha256) = some file) :
    Faithful sha256 system {resolver with
      physicalBindings := Function.update resolver.physicalBindings file (some (call.ref sha256))} := by
  refine ⟨h.paths,fun other ref hbound => ?_⟩
  by_cases hother : other = file
  · subst hother
    obtain rfl := stored_self hbound
    exact ⟨i,call,hwriter,rfl,hname⟩
  · exact h.files other ref (stored_other hother hbound)

theorem resolveBound_served {system : System} {resolver : ControllerArtifactResolver} (h : Faithful sha256 system resolver)
    (hkept : Kept sha256 system) (hdistinct : Distinct sha256 system) {i : ℕ} {call : WriteCall}
    (hwriter : system.writers i = some ⟨call,.returned⟩) {file : Inode}
    (hname : system.disk.names (call.address sha256) = some file) {sees : ℕ → Disk}
    (hserves : ∀ k, Serves sha256 (sees k) call file) :
    ∃ after, resolver.resolveBound sha256 sees (call.ref sha256) call.role call.mediaType = (.ok call.payload,after) ∧
      Faithful sha256 system after := by
  have hpath : ((resolver.pathBindings (call.ref sha256).relativePath).all fun previous =>
      decide (previous = call.ref sha256)) = true := by
    cases hbound : resolver.pathBindings (call.ref sha256).relativePath with
    | none => rfl
    | some previous =>
      obtain ⟨j,other,hother,rfl,hsame⟩ := h.paths _ previous hbound
      have haddress : call.address sha256 = other.address sha256 := artifactPath_injective hsame
      exact decide_eq_true (ref_congr haddress (hdistinct i j _ _ hwriter hother haddress)).symm
  have hfile : ((resolver.physicalBindings file).all fun previous => decide (previous = call.ref sha256)) = true := by
    cases hbound : resolver.physicalBindings file with
    | none => rfl
    | some previous =>
      obtain ⟨j,other,hother,rfl,hothername⟩ := h.files _ previous hbound
      have haddress := hkept.single _ _ file hname hothername
      exact decide_eq_true (ref_congr haddress (hdistinct i j _ _ hwriter hother haddress)).symm
  have hmedia : validateMedia call.role call.mediaType "controller artifact expected media is not canonical" = .ok () :=
    validateMedia_eq_ok.mpr (validateMedia_eq_ok.mp call.valid)
  have hcontent : (sees 2).content file = call.payload := (hserves 2).content
  refine ⟨_,?_,(h.bind hwriter).hold hwriter hname⟩
  have hread (bound : ControllerArtifactResolver) (hbound : bound.physicalBindings = resolver.physicalBindings) :
      readArtifact sees (call.ref sha256) bound = .ok (file,call.payload) := by
    simp only [readArtifact,bind_eq_ok,demand_eq_ok,required_eq_ok,decide_eq_true_eq]
    rw [hbound]
    refine ⟨(),(hserves 0).role,file,(hserves 1).name,file,(hserves 3).name,(),rfl,(),hfile,?_⟩
    rw [hcontent]
    rfl
  rw [ControllerArtifactResolver.resolveBound,hmedia]
  have hrole : (call.ref sha256).role = call.role := rfl
  have htype : (call.ref sha256).mediaType = call.mediaType := rfl
  have hrelative : (call.ref sha256).relativePath = artifactPath (call.role,(call.ref sha256).sha256) := rfl
  have hdigest : (sha256 call.payload).hex = (call.ref sha256).sha256 ∧ call.payload.length = (call.ref sha256).byteCount :=
    ⟨rfl,rfl⟩
  simp only [hrole,htype,hpath,hread,demand,decide_true,ok_bind,if_true]
  simp only [← hrelative,hdigest.1,hdigest.2,and_self,decide_true,if_true,ok_bind]
  rfl

theorem served_throughout {events : List Event} (hcollisions : CollisionFree sha256 events) (hclean : Clean sha256 events)
    {request : ArtifactRef × (ℕ → Disk)} {payload : Bytes} (h : Due sha256 events request payload) :
    ∃ i call file, (run sha256 events).writers i = some ⟨call,.returned⟩ ∧
      (run sha256 events).disk.names (call.address sha256) = some file ∧
      (∀ k, Serves sha256 (request.2 k) call file) ∧ request.1 = call.ref sha256 ∧ payload = call.payload := by
  obtain ⟨before,after,i,call,rfl,hreturned,href,hpayload,hmoments⟩ := h
  obtain ⟨file,hname,-⟩ := ((kept_of_run hcollisions.of_append hclean.of_append).placed i _ hreturned).whole (.inr rfl)
  obtain ⟨hreturned',hname'⟩ := served before after hcollisions hclean hreturned hname
  refine ⟨i,call,file,hreturned',hname',fun k => ?_,href,hpayload⟩
  obtain ⟨middle,rest,rfl,hsees⟩ := hmoments k
  rw [← List.append_assoc] at hcollisions hclean
  obtain ⟨hthen,hnamed⟩ := served before middle hcollisions.of_append hclean.of_append hreturned hname
  rw [hsees]
  exact (kept_of_run hcollisions.of_append hclean.of_append).serves hthen hnamed

theorem resolveEach_served {events : List Event} (hcollisions : CollisionFree sha256 events) (hclean : Clean sha256 events)
    {requests : List (ArtifactRef × (ℕ → Disk))} {payloads : List Bytes}
    (h : List.Forall₂ (Due sha256 events) requests payloads) (resolver : ControllerArtifactResolver)
    (hfaithful : Faithful sha256 (run sha256 events) resolver) :
    resolveEach sha256 resolver requests = payloads.map .ok := by
  induction h generalizing resolver with
  | nil => rfl
  | cons hdue _ ih =>
    obtain ⟨i,call,file,hwriter,hname,hserves,href,rfl⟩ := served_throughout hcollisions hclean hdue
    obtain ⟨after,hanswer,hafter⟩ := resolveBound_served hfaithful (kept_of_run hcollisions hclean)
      (distinct_of_collisionFree hcollisions) hwriter hname hserves
    rw [resolveEach,href]
    change (resolver.resolveBound sha256 _ (call.ref sha256) call.role call.mediaType).1 ::
      resolveEach sha256 (resolver.resolveBound sha256 _ (call.ref sha256) call.role call.mediaType).2 _ = _
    rw [hanswer,ih after hafter]
    rfl

theorem faithful_fresh (system : System) : Faithful sha256 system .fresh :=
  ⟨fun _ _ h => absurd h (by simp [ControllerArtifactResolver.fresh]),
    fun _ _ h => absurd h (by simp [ControllerArtifactResolver.fresh])⟩

end Resolution

section Alone
variable {sha256 : Bytes → Digest} {call : WriteCall} {disk : Disk} {file : Inode}

theorem returns_closeRead (created : Bool) : Returns sha256 call disk (.closeRead created) :=
  .next _ _ fun _ _ => .next _ _ fun _ _ => .done _

theorem returns_statName (created : Bool) (hname : disk.names (call.address sha256) = some file) :
    Returns sha256 call disk (.statName created file call.payload) := by
  refine .next _ _ fun moved _ => ?_
  have hverified : verified sha256 call call.payload = true := decide_eq_true ⟨rfl,rfl,rfl⟩
  rw [perform,hname,hverified,if_pos (by simp)]
  exact returns_closeRead created

theorem returns_reading (created : Bool) (hname : disk.names (call.address sha256) = some file)
    (hwhole : disk.content file = call.payload) (observed rest : Bytes) (hread : observed ++ rest = call.payload) :
    Returns sha256 call disk (.reading created file observed) := by
  induction hlength : rest.length using Nat.strong_induction_on generalizing observed rest with
  | h n ih =>
    refine .next _ _ fun moved _ => ?_
    have hrest : (disk.content file).drop observed.length = rest := by rw [hwhole,← hread,List.drop_left]
    rw [perform,hrest]
    dsimp only
    split
    · next hend =>
      have hnil : rest = [] := by simpa using hend
      rw [hnil,List.append_nil] at hread
      rw [hread]
      exact returns_statName created hname
    · next hmore =>
      have hpositive : 0 < rest.length := List.length_pos_of_ne_nil fun hnil => hmore (by rw [hnil,List.take_nil])
      refine ih _ ?_ _ (rest.drop (max 1 (min moved chunkBytes))) ?_ rfl
      · rw [List.length_drop]
        omega
      · rw [List.append_assoc,List.take_append_drop,hread]

theorem returns_statFile (created : Bool) (hname : disk.names (call.address sha256) = some file)
    (hwhole : disk.content file = call.payload) : Returns sha256 call disk (.statFile created file) :=
  .next _ _ fun _ _ => returns_reading created hname hwhole [] call.payload rfl

theorem returns_syncFile (hname : disk.names (call.address sha256) = some file) (hwhole : disk.content file = call.payload) :
    Returns sha256 call disk .syncFile := by
  refine .next _ _ fun _ _ => .next _ _ fun _ _ => .next _ _ fun _ _ => .next _ _ fun moved _ => ?_
  have hreopened : (perform sha256 disk call .reopen moved) = (disk,.statFile true file) := by rw [perform,hname]; rfl
  exact hreopened ▸ returns_statFile true hname hwhole

theorem returns_openExisting (hname : disk.names (call.address sha256) = some file)
    (hwhole : disk.content file = call.payload) : Returns sha256 call disk .openExisting := by
  refine .next _ _ fun moved _ => ?_
  rw [perform,hname]
  exact returns_statFile false hname hwhole

theorem returns_nextWrite (disk : Disk) (offset : ℕ) (hname : disk.names (call.address sha256) = some file)
    (hpart : disk.content file = call.payload.take offset) : Returns sha256 call disk (nextWrite call file offset) := by
  induction hlength : call.payload.length - offset using Nat.strong_induction_on generalizing disk offset with
  | h n ih =>
    rw [nextWrite]
    split
    · next hlt =>
      refine .next _ _ fun moved hmoved => ?_
      have hwritten : (disk.content file).length = offset := by rw [hpart,List.length_take,min_eq_left hlt.le]
      generalize hchunk : (call.payload.drop offset).take moved = chunk
      have hmore : 0 < chunk.length := by
        rw [← hchunk,List.length_take,List.length_drop]
        omega
      rw [perform,hchunk,if_neg (List.ne_nil_of_length_pos hmore)]
      refine ih _ ?_ _ _ hname ?_ rfl
      · omega
      · have hinitial : chunk <+: call.payload.drop offset := hchunk ▸ List.take_prefix _ _
        rw [content_writeAt hwritten,hpart,List.take_add,← List.prefix_iff_eq_take.mp hinitial]
    · next hle =>
      rw [List.take_of_length_le (not_lt.mp hle)] at hpart
      exact returns_syncFile hname hpart

theorem returns_create (hwhole : ∀ file, disk.names (call.address sha256) = some file → disk.content file = call.payload) :
    Returns sha256 call disk .create := by
  refine .next _ _ fun moved _ => ?_
  rw [perform]
  cases hname : disk.names (call.address sha256) with
  | some file => exact returns_openExisting hname (hwhole file hname)
  | none => exact returns_nextWrite _ 0 (Function.update_self _ _ _) (Function.update_self _ _ _)

theorem returns_openRole (hrole : call.role ∈ disk.roles)
    (hwhole : ∀ file, disk.names (call.address sha256) = some file → disk.content file = call.payload) :
    Returns sha256 call disk .openRole := by
  refine .next _ _ fun moved _ => ?_
  rw [perform,if_pos hrole]
  exact .next _ _ fun _ _ => returns_create hwhole

theorem returns_alone (hwhole : ∀ file, disk.names (call.address sha256) = some file → disk.content file = call.payload) :
    Returns sha256 call disk .mkdirRole := by
  refine .next _ _ fun moved _ => ?_
  rw [perform]
  split
  · next hrole => exact returns_openRole hrole hwhole
  · refine .next _ _ fun _ _ => ?_
    have hopened : Returns sha256 call {disk with roles := insert call.role disk.roles} .openRole :=
      returns_openRole (Finset.mem_insert_self _ _) hwhole
    exact hopened

theorem Kept.whole {system : System} (h : Kept sha256 system) (hdistinct : Distinct sha256 system)
    (hfinal : ∀ i writer, system.writers i = some writer → writer.phase.final = true) {i : ℕ} {writer : Writer}
    (hwriter : system.writers i = some writer) {file : Inode}
    (hname : system.disk.names (writer.call.address sha256) = some file) : system.disk.content file = writer.call.payload := by
  obtain ⟨k,maker,hmaker,haddress,hbacks⟩ := h.backed _ file hname
  have hpayload := hdistinct k i maker writer hmaker hwriter haddress
  have hended := hfinal k maker hmaker
  rcases hbacks with hwhole | ⟨-,⟨offset,hfilling⟩ | hremoving⟩
  · exact hwhole.trans hpayload
  · cases hphase : maker.phase <;> simp_all [Phase.final,Phase.status]
  · cases hphase : maker.phase <;> simp_all [Phase.final,Phase.status]

end Alone

theorem references_resolve (sha256 : Bytes → Digest) (events : List Event) (hcollisions : CollisionFree sha256 events)
    (hclean : Clean sha256 events) : ReferencesResolve sha256 events where
  resolves requests payloads hdue := resolveEach_served hcollisions hclean hdue .fresh (faithful_fresh _)
  rewrites := by
    rintro before after rfl hfinal i writer hwriter
    have hkept := kept_of_run hcollisions.of_append hclean.of_append
    exact returns_alone fun file hname =>
      hkept.whole (distinct_of_collisionFree hcollisions.of_append) hfinal hwriter hname

section Sample

def verifierSource : WriteCall where
  role := "verifier_source"
  mediaType := "application/json"
  payload := [123,125]
  valid := by decide

def sourceDigestBytes : Bytes :=
  [0x44,0x13,0x6f,0xa3,0x55,0xb3,0x67,0x8a,0x11,0x46,0xad,0x16,0xf7,0xe8,0x64,0x9e,
    0x94,0xfb,0x4f,0xc2,0x1f,0xe7,0x7e,0x83,0x10,0xc0,0x60,0xf6,0x1c,0xaa,0xff,0x8a]

theorem source_digest_size : sourceDigestBytes.length = 32 := rfl

def sourceDigest : Bytes → Digest := fun _ => ⟨sourceDigestBytes,source_digest_size⟩

def calmStep (system : System) : Event → Bool
  | .start _ _ => true
  | .call i (.works _) => (system.writers i).all fun writer => decide (writer.phase ≠ .unlink)
  | .call i .fails => (system.writers i).all fun writer => decide (writer.phase = .mkdirRole)
  | .call i .dies => (system.writers i).all fun writer => decide (writer.phase = .mkdirRole)

def calm (sha256 : Bytes → Digest) (system : System) : List Event → Bool
  | [] => true
  | event :: rest => calmStep system event && calm sha256 (system.step sha256 event) rest

theorem not_deletes_of_calm {sha256 : Bytes → Digest} {system : System} {event : Event} (h : calmStep system event = true) :
    ¬ Deletes sha256 system event := by
  cases event with
  | start i call => exact not_false
  | call i reply =>
    rintro ⟨writer,_,_,hwriter,hunlink,⟨moved,rfl⟩,_⟩
    rw [calmStep,hwriter] at h
    simp [hunlink] at h

-- A call that makes its first directory holds no file yet, whatever becomes of it.
theorem not_abandons_of_calm {sha256 : Bytes → Digest} {system : System} {event : Event} (h : calmStep system event = true) :
    ¬ Abandons sha256 system event := by
  cases event with
  | start i call => exact not_false
  | call i reply =>
    rintro ⟨writer,file,hwriter,_,_,⟨rfl,offset,hfilling⟩ | ⟨hremoving,hreply⟩⟩
    · have hphase : writer.phase = .mkdirRole := by simpa [calmStep,hwriter] using h
      rw [hphase] at hfilling
      cases hfilling
    · cases reply with
      | works moved => exact hreply moved rfl
      | fails =>
        have hphase : writer.phase = .mkdirRole := by simpa [calmStep,hwriter] using h
        rw [hphase] at hremoving
        cases hremoving
      | dies =>
        have hphase : writer.phase = .mkdirRole := by simpa [calmStep,hwriter] using h
        rw [hphase] at hremoving
        cases hremoving

theorem clean_of_calm {sha256 : Bytes → Digest} {events : List Event} (h : calm sha256 .empty events = true) :
    Clean sha256 events := by
  have hsuffix (before after : List Event) (hcalm : calm sha256 .empty (before ++ after) = true) :
      calm sha256 (run sha256 before) after = true := by
    induction before using List.reverseRecOn generalizing after with
    | nil => exact hcalm
    | append_singleton before event ih =>
      rw [List.append_assoc] at hcalm
      have hrest := ih _ hcalm
      rw [List.singleton_append,calm,Bool.and_eq_true] at hrest
      rw [run_snoc]
      exact hrest.2
  rintro before event after rfl
  have hcalm := hsuffix before (event :: after) h
  rw [calm,Bool.and_eq_true] at hcalm
  exact ⟨not_deletes_of_calm hcalm.1,not_abandons_of_calm hcalm.1⟩

def sourceStarts : List Event := [.start 0 verifierSource,.start 1 verifierSource]

-- A third call dies on the way.
def sourceAdopted : List Event :=
  sourceStarts ++ [.start 2 verifierSource,.call 2 .dies] ++ List.replicate 19 (.call 0 (.works 1)) ++
    List.replicate 12 (.call 1 (.works 1))

theorem source_references_resolve :
    ((run sourceDigest sourceAdopted).writers 1).map Writer.phase = some .returned ∧
      ((run sourceDigest sourceAdopted).writers 2).map Writer.phase = some .crashed ∧
      ReferencesResolve sourceDigest sourceAdopted := by
  refine ⟨by decide,by decide,references_resolve sourceDigest sourceAdopted ?_ (clean_of_calm (by decide))⟩
  have hstarted : ∀ i call, Event.start i call ∈ sourceAdopted → call = verifierSource := by
    intro i call hstart
    have hcalls : i = 0 ∧ call = verifierSource ∨ i = 1 ∧ call = verifierSource ∨ i = 2 ∧ call = verifierSource := by
      simpa [sourceAdopted,sourceStarts] using hstart
    obtain ⟨_,hcall⟩ | ⟨_,hcall⟩ | ⟨_,hcall⟩ := hcalls <;> exact hcall
  intro i j call other hcall hother _
  rw [hstarted i call hcall,hstarted j other hother]

def sourceWithdrawn : List Event :=
  sourceStarts ++ List.replicate 7 (.call 0 (.works 1)) ++ List.replicate 12 (.call 1 (.works 1)) ++
    [.call 0 .fails,.call 0 (.works 0),.call 0 (.works 0)]

theorem returned_reference_lost : ¬ ReferencesResolve sourceDigest sourceWithdrawn := by
  intro h
  have hphase : ((run sourceDigest sourceWithdrawn).writers 1).map Writer.phase = some .returned := by decide
  obtain ⟨writer,hwriter,hreturned⟩ := Option.map_eq_some_iff.mp hphase
  obtain ⟨j,hstart⟩ := started_of_writer hwriter
  have hcall : j = 0 ∧ writer.call = verifierSource ∨ j = 1 ∧ writer.call = verifierSource := by
    simpa [sourceWithdrawn,sourceStarts] using hstart
  obtain ⟨call,phase⟩ := writer
  obtain rfl : call = verifierSource := hcall.elim And.right And.right
  obtain rfl : phase = .returned := hreturned
  have hdue : Due sourceDigest sourceWithdrawn
      (verifierSource.ref sourceDigest,fun _ => (run sourceDigest sourceWithdrawn).disk) verifierSource.payload := by
    refine ⟨sourceWithdrawn,[],1,verifierSource,(List.append_nil _).symm,hwriter,rfl,rfl,fun k => ⟨[],[],rfl,?_⟩⟩
    rw [List.append_nil]
  have hresolved := h.resolves _ _ (.cons hdue .nil)
  have hfailed : (resolveEach sourceDigest .fresh
      [(verifierSource.ref sourceDigest,fun _ => (run sourceDigest sourceWithdrawn).disk)]).map Except.isOk = [false] := by
    decide
  rw [hresolved] at hfailed
  cases hfailed

end Sample

end PneumaLab.ResamplingNull.Controller
