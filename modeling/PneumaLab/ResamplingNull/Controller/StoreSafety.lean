import PneumaLab.ResamplingNull.Controller.StoreRuns

namespace PneumaLab.ResamplingNull.Controller

section Lookup
variable {α β : Type} [DecidableEq α] {f : α → Option β} {a b : α} {x y : β} {value : Option β}

theorem stored_self (h : Function.update f a (some x) a = some y) : x = y :=
  Option.some.inj ((Function.update_self a (some x) f).symm.trans h)

theorem stored_other (hne : b ≠ a) (h : Function.update f a value b = some y) : f b = some y :=
  (Function.update_of_ne hne value f).symm.trans h

end Lookup

section Conditions
variable (sha256 : Bytes → Digest)

def Deletes (system : System) : Event → Prop
  | .start _ _ => False
  | .call i reply => ∃ writer j other, system.writers i = some writer ∧ writer.phase = .unlink ∧
      (∃ moved, reply = .works moved) ∧ j ≠ i ∧ system.writers j = some other ∧
      other.call.address sha256 = writer.call.address sha256 ∧ other.phase.status = .committed

def Abandons (system : System) : Event → Prop
  | .start _ _ => False
  | .call i reply => ∃ writer file, system.writers i = some writer ∧
      system.disk.names (writer.call.address sha256) = some file ∧ system.disk.content file ≠ writer.call.payload ∧
      ((reply = .dies ∧ ∃ offset, writer.phase.status = .filling file offset) ∨
        writer.phase.status = .removing ∧ ∀ moved, reply ≠ .works moved)

def Distinct (system : System) : Prop := ∀ i j writer other, system.writers i = some writer → system.writers j = some other →
  writer.call.address sha256 = other.call.address sha256 → writer.call.payload = other.call.payload

end Conditions

section Step
variable {sha256 : Bytes → Digest} {system : System} {i : ℕ} {writer : Writer} {reply : Reply} {disk : Disk} {after : Phase}

theorem status_nextWrite (call : WriteCall) (file : Inode) (offset : ℕ) :
    (offset < call.payload.length ∧ (nextWrite call file offset).status = .filling file offset) ∨
      call.payload.length ≤ offset ∧ (nextWrite call file offset).status = .filled := by
  rw [nextWrite]
  split
  · next h => exact .inl ⟨h,rfl⟩
  · next h => exact .inr ⟨not_lt.mp h,rfl⟩

theorem sight_nextWrite (call : WriteCall) (file : Inode) (offset : ℕ) : (nextWrite call file offset).sight = none := by
  rw [nextWrite]
  split <;> rfl

theorem Kept.writing (h : Kept sha256 system) (hwriter : system.writers i = some writer) {file : Inode} {offset : ℕ}
    (hstatus : writer.phase.status = .filling file offset) :
    system.disk.names (writer.call.address sha256) = some file ∧
      system.disk.content file = writer.call.payload.take offset ∧ (system.disk.content file).length = offset ∧
      offset < writer.call.payload.length := by
  obtain ⟨hname,hcontent,hlt⟩ := (h.placed i writer hwriter).filling file offset hstatus
  refine ⟨hname,hcontent,?_,hlt⟩
  rw [hcontent,List.length_take,min_eq_left hlt.le]

theorem Kept.alone (h : Kept sha256 system) (hwriter : system.writers i = some writer) (howns : writer.phase.status.owns = true)
    {j : ℕ} {other : Writer} (hj : j ≠ i) (hother : system.writers j = some other) (hstands : other.phase.status ≠ .outside)
    (haddress : other.call.address sha256 = writer.call.address sha256) : other.phase.status = .committed := by
  cases hstatus : other.phase.status with
  | outside => exact absurd hstatus hstands
  | committed => rfl
  | filling file offset => exact absurd (h.lone j i other writer hother hwriter (by rw [hstatus]; rfl) howns haddress) hj
  | filled => exact absurd (h.lone j i other writer hother hwriter (by rw [hstatus]; rfl) howns haddress) hj
  | removing => exact absurd (h.lone j i other writer hother hwriter (by rw [hstatus]; rfl) howns haddress) hj

theorem Kept.other_placed (h : Kept sha256 system) (hdistinct : Distinct sha256 system)
    (hwriter : system.writers i = some writer) (hdeletes : ¬ Deletes sha256 system (.call i reply))
    (hacts : Acts sha256 system.disk writer.call writer.phase reply disk after) {j : ℕ} {other : Writer} (hj : j ≠ i)
    (hother : system.writers j = some other) : Placed sha256 disk other.call other.phase := by
  have hplaced := h.placed j other hother
  cases hacts with
  | moves _ _ _ | reads _ _ _ _ _ _ _ _ | adopts _ _ _ | returns _ | fails _ _ _ _ | leaves _ _ _ _ _ => exact hplaced
  | enters _ => exact hplaced.enter _
  | creates _ hnone => exact hplaced.bind hnone h.ranged
  | fills file offset chunk hbefore _ _ =>
    have hstatus : writer.phase.status = .filling file offset := by rw [hbefore]; rfl
    obtain ⟨hname,hcontent,hlength,hlt⟩ := h.writing hwriter hstatus
    refine hplaced.writeAt hlength fun hstands hnamed => ?_
    have haddress := h.single _ _ _ hnamed hname
    have hcommitted := h.alone hwriter (by rw [hstatus]; rfl) hj hother hstands haddress
    obtain ⟨file',hname',hwhole⟩ := hplaced.whole (.inr hcommitted)
    obtain rfl : file = file' := Option.some.inj (hnamed.symm.trans hname')
    rw [hwhole,hdistinct j i other writer hother hwriter haddress] at hlength
    omega
  | removes moved hbefore hreply =>
    refine hplaced.unbind fun hstands haddress => ?_
    have hcommitted := h.alone hwriter (by rw [hbefore]; rfl) hj hother hstands haddress
    exact hdeletes ⟨writer,j,other,hwriter,hbefore,⟨moved,hreply⟩,hj,hother,haddress,hcommitted⟩

theorem Kept.adopted (h : Kept sha256 system) (hdistinct : Distinct sha256 system) (hwriter : system.writers i = some writer)
    {file : Inode} (hname : system.disk.names (writer.call.address sha256) = some file)
    (hseen : writer.call.payload <+: system.disk.content file) : system.disk.content file = writer.call.payload := by
  obtain ⟨k,maker,hmaker,haddress,hbacks⟩ := h.backed _ file hname
  have hpayload := hdistinct k i maker writer hmaker hwriter haddress
  rcases hbacks with hwhole | ⟨hinitial,-⟩
  · exact hwhole.trans hpayload
  · rw [hpayload] at hinitial
    exact hinitial.eq_of_length_le hseen.length_le

theorem Kept.own_placed (h : Kept sha256 system) (hdistinct : Distinct sha256 system)
    (hwriter : system.writers i = some writer)
    (hacts : Acts sha256 system.disk writer.call writer.phase reply disk after)
    (hentered : after.entered = true → writer.call.role ∈ disk.roles) : Placed sha256 disk writer.call after := by
  have hplaced := h.placed i writer hwriter
  cases hacts with
  | moves _ hstatus hsight =>
    refine ⟨hentered,?_,?_,?_,?_⟩
    · rw [hstatus]
      exact hplaced.filling
    · rw [hstatus]
      exact hplaced.whole
    · rw [hstatus]
      exact hplaced.removing
    · intro file observed hseen
      rcases hsight file observed hseen with hbefore | ⟨rfl,hname⟩
      · exact hplaced.sighted file observed hbefore
      · exact ⟨h.ranged _ _ hname,List.nil_prefix⟩
  | reads _ file observed chunk hstatus hbefore hafter hchunk =>
    refine ⟨hentered,?_,?_,?_,?_⟩
    · rw [hstatus]
      exact hplaced.filling
    · rw [hstatus]
      exact hplaced.whole
    · rw [hstatus]
      exact hplaced.removing
    · intro file' observed' hseen
      rw [hafter,Option.some.injEq,Prod.mk.injEq] at hseen
      obtain ⟨rfl,rfl⟩ := hseen
      obtain ⟨hfresh,hinitial⟩ := hplaced.sighted file observed hbefore
      refine ⟨hfresh,?_⟩
      obtain ⟨rest,hrest⟩ := hinitial
      rw [← hrest,List.drop_left] at hchunk
      rw [← hrest]
      exact (List.prefix_append_right_inj observed).mpr hchunk
  | enters _ => exact ⟨hentered,by simp [Phase.status],by simp [Phase.status],by simp [Phase.status],by simp [Phase.sight]⟩
  | creates _ hnone =>
    have hname : (system.disk.bind (writer.call.address sha256)).names (writer.call.address sha256) =
        some system.disk.fresh := Function.update_self _ _ _
    have hcontent : (system.disk.bind (writer.call.address sha256)).content system.disk.fresh = [] :=
      Function.update_self _ _ _
    obtain ⟨hlt,hstatus⟩ | ⟨hle,hstatus⟩ := status_nextWrite writer.call system.disk.fresh 0
    · refine ⟨hentered,?_,by simp [hstatus],by simp [hstatus],by simp [sight_nextWrite]⟩
      intro file offset hfilling
      obtain ⟨rfl,rfl⟩ := Status.filling.inj (hstatus.symm.trans hfilling)
      exact ⟨hname,hcontent,hlt⟩
    · refine ⟨hentered,by simp [hstatus],fun _ => ⟨_,hname,?_⟩,by simp [hstatus],by simp [sight_nextWrite]⟩
      rw [hcontent,List.length_eq_zero_iff.mp (Nat.le_zero.mp hle)]
  | fills file offset chunk hbefore hchunk hnonempty =>
    have hfilling : writer.phase.status = .filling file offset := by rw [hbefore]; rfl
    obtain ⟨hname,hcontent,hlength,hlt⟩ := h.writing hwriter hfilling
    have hwritten : (system.disk.writeAt file offset chunk).content file =
        writer.call.payload.take (offset + chunk.length) := by
      rw [content_writeAt hlength,hcontent,List.take_add]
      rw [List.prefix_iff_eq_take.mp hchunk]
      simp
    obtain ⟨hlt',hstatus⟩ | ⟨hle,hstatus⟩ := status_nextWrite writer.call file (offset + chunk.length)
    · refine ⟨hentered,?_,by simp [hstatus],by simp [hstatus],by simp [sight_nextWrite]⟩
      intro file' offset' hnext
      obtain ⟨rfl,rfl⟩ := Status.filling.inj (hstatus.symm.trans hnext)
      exact ⟨hname,hwritten,hlt'⟩
    · refine ⟨hentered,by simp [hstatus],fun _ => ⟨file,hname,?_⟩,by simp [hstatus],by simp [sight_nextWrite]⟩
      rw [hwritten,List.take_of_length_le hle]
  | adopts file hbefore hname =>
    refine ⟨hentered,by simp [Phase.status],fun _ => ⟨file,hname,?_⟩,by simp [Phase.status],by simp [Phase.sight]⟩
    obtain ⟨-,hseen⟩ := hplaced.sighted file writer.call.payload (by rw [hbefore]; rfl)
    exact h.adopted hdistinct hwriter hname hseen
  | returns hstatus =>
    exact ⟨hentered,by simp [Phase.status],fun _ => hplaced.whole (.inl hstatus),by simp [Phase.status],by simp [Phase.sight]⟩
  | fails _ hbefore hstatus hsight =>
    refine ⟨hentered,by simp [hstatus],by simp [hstatus],fun _ => ?_,by simp [hsight]⟩
    obtain ⟨file,offset,hfilling⟩ | hfilled := hbefore
    · exact ⟨file,(hplaced.filling file offset hfilling).1⟩
    · obtain ⟨file,hname,-⟩ := hplaced.whole (.inl hfilled)
      exact ⟨file,hname⟩
  | removes _ _ _ => exact ⟨hentered,by simp [Phase.status],by simp [Phase.status],by simp [Phase.status],by simp [Phase.sight]⟩
  | leaves _ _ _ hstatus hsight => exact ⟨hentered,by simp [hstatus],by simp [hstatus],by simp [hstatus],by simp [hsight]⟩

theorem names_unbind {address other : Address} {file : Inode} (h : (disk.unbind address).names other = some file) :
    disk.names other = some file := by
  by_cases hother : other = address
  · subst hother
    simp [Disk.unbind] at h
  · exact stored_other hother h

theorem names_of_owns {disk : Disk} {call : WriteCall} {phase : Phase} (h : Placed sha256 disk call phase)
    (howns : phase.status.owns = true) : ∃ file, disk.names (call.address sha256) = some file := by
  cases hstatus : phase.status with
  | filling file offset => exact ⟨file,(h.filling file offset hstatus).1⟩
  | filled =>
    obtain ⟨file,hname,-⟩ := h.whole (.inl hstatus)
    exact ⟨file,hname⟩
  | removing => exact h.removing hstatus
  | outside | committed =>
    rw [hstatus] at howns
    cases howns

theorem owns_before {system : System} (hacts : Acts sha256 system.disk writer.call writer.phase reply disk after)
    (howns : after.status.owns = true) :
    writer.phase.status.owns = true ∨ system.disk.names (writer.call.address sha256) = none := by
  cases hacts with
  | moves _ hstatus _ => exact .inl (hstatus ▸ howns)
  | reads _ _ _ _ hstatus _ _ _ => exact .inl (hstatus ▸ howns)
  | enters _ => cases howns
  | creates _ hnone => exact .inr hnone
  | fills _ _ _ hbefore _ _ =>
    rw [hbefore]
    exact .inl rfl
  | adopts _ _ _ => cases howns
  | returns _ => cases howns
  | fails _ hbefore _ _ =>
    rcases hbefore with ⟨_,_,hfilling⟩ | hfilled
    · rw [hfilling]
      exact .inl rfl
    · rw [hfilled]
      exact .inl rfl
  | removes _ _ _ => cases howns
  | leaves _ _ _ hstatus _ =>
    rw [hstatus] at howns
    cases howns

theorem Kept.not_shared (h : Kept sha256 system) (hwriter : system.writers i = some writer)
    (hacts : Acts sha256 system.disk writer.call writer.phase reply disk after) (howns : after.status.owns = true)
    {j : ℕ} {other : Writer} (hj : j ≠ i) (hother : system.writers j = some other)
    (hothers : other.phase.status.owns = true) (haddress : other.call.address sha256 = writer.call.address sha256) : False := by
  rcases owns_before hacts howns with hbefore | hnone
  · exact hj (h.lone j i other writer hother hwriter hothers hbefore haddress)
  · obtain ⟨file,hname⟩ := names_of_owns (h.placed j other hother) hothers
    rw [haddress,hnone] at hname
    cases hname

theorem Backs.same {before : Disk} {file : Inode} (h : Backs before writer file)
    (hcontent : disk.content file = before.content file) (hstatus : after.status = writer.phase.status) :
    Backs disk ⟨writer.call,after⟩ file := by
  rw [Backs,hcontent,hstatus]
  exact h

theorem Backs.settled {before : Disk} {file : Inode} (h : Backs before writer file)
    (hcontent : disk.content file = before.content file) (hfilling : ∀ offset, writer.phase.status ≠ .filling file offset)
    (hremoving : writer.phase.status ≠ .removing) : Backs disk ⟨writer.call,after⟩ file := by
  rcases h with hwhole | ⟨-,⟨offset,hoffset⟩ | hremoved⟩
  · exact .inl (hcontent.trans hwhole)
  · exact absurd hoffset (hfilling offset)
  · exact absurd hremoved hremoving

theorem Placed.backs {call : WriteCall} {phase : Phase} {file : Inode} (h : Placed sha256 disk call phase)
    (hname : disk.names (call.address sha256) = some file)
    (hstatus : (∃ offset, phase.status = .filling file offset) ∨ phase.status = .filled) : Backs disk ⟨call,phase⟩ file := by
  rcases hstatus with ⟨offset,hoffset⟩ | hfilled
  · obtain ⟨-,hcontent,-⟩ := h.filling file offset hoffset
    exact .inr ⟨hcontent ▸ List.take_prefix _ _,.inl ⟨offset,hoffset⟩⟩
  · obtain ⟨file',hname',hwhole⟩ := h.whole (.inl hfilled)
    obtain rfl : file = file' := Option.some.inj (hname.symm.trans hname')
    exact .inl hwhole

theorem Kept.backed_after (h : Kept sha256 system) (hwriter : system.writers i = some writer) {address : Address} {file : Inode}
    (hname : system.disk.names address = some file) (hcontent : disk.content file = system.disk.content file)
    (hkeeps : writer.call.address sha256 = address → Backs system.disk writer file → Backs disk ⟨writer.call,after⟩ file) :
    ∃ j maker, Function.update system.writers i (some ⟨writer.call,after⟩) j = some maker ∧
      maker.call.address sha256 = address ∧ Backs disk maker file := by
  obtain ⟨j,maker,hmaker,haddress,hbacks⟩ := h.backed address file hname
  by_cases hj : j = i
  · subst hj
    obtain rfl : maker = writer := Option.some.inj (hmaker.symm.trans hwriter)
    exact ⟨j,⟨maker.call,after⟩,Function.update_self _ _ _,haddress,hkeeps haddress hbacks⟩
  · refine ⟨j,maker,(Function.update_of_ne hj _ _).trans hmaker,haddress,?_⟩
    rw [Backs,hcontent]
    exact hbacks

theorem Kept.backed_step (h : Kept sha256 system) (hwriter : system.writers i = some writer)
    (habandons : ¬ Abandons sha256 system (.call i reply))
    (hacts : Acts sha256 system.disk writer.call writer.phase reply disk after)
    (hplaced : Placed sha256 disk writer.call after) (address : Address) (file : Inode) (hname : disk.names address = some file) :
    ∃ j maker, Function.update system.writers i (some ⟨writer.call,after⟩) j = some maker ∧
      maker.call.address sha256 = address ∧ Backs disk maker file := by
  cases hacts with
  | moves _ hstatus _ => exact h.backed_after hwriter hname rfl fun _ hbacks => hbacks.same rfl hstatus
  | reads _ _ _ _ hstatus _ _ _ => exact h.backed_after hwriter hname rfl fun _ hbacks => hbacks.same rfl hstatus
  | enters hbefore =>
    exact h.backed_after hwriter hname rfl fun _ hbacks =>
      hbacks.settled rfl (by simp [hbefore,Phase.status]) (by simp [hbefore,Phase.status])
  | creates hbefore hnone =>
    by_cases haddress : address = writer.call.address sha256
    · subst haddress
      obtain rfl : system.disk.fresh = file := stored_self hname
      refine ⟨i,_,Function.update_self _ _ _,rfl,hplaced.backs hname ?_⟩
      obtain ⟨-,hstatus⟩ | ⟨-,hstatus⟩ := status_nextWrite writer.call system.disk.fresh 0
      · exact .inl ⟨0,hstatus⟩
      · exact .inr hstatus
    · have hold : system.disk.names address = some file := stored_other haddress hname
      exact h.backed_after hwriter hold (content_bind _ (h.ranged _ _ hold)) fun _ hbacks =>
        hbacks.settled (content_bind _ (h.ranged _ _ hold)) (by simp [hbefore,Phase.status]) (by simp [hbefore,Phase.status])
  | fills target offset chunk hbefore _ _ =>
    have hfilling : writer.phase.status = .filling target offset := by rw [hbefore]; rfl
    obtain ⟨htarget,-,hlength,-⟩ := h.writing hwriter hfilling
    by_cases hfile : file = target
    · subst hfile
      refine ⟨i,_,Function.update_self _ _ _,h.single _ _ _ htarget hname,hplaced.backs htarget ?_⟩
      obtain ⟨-,hstatus⟩ | ⟨-,hstatus⟩ := status_nextWrite writer.call file (offset + chunk.length)
      · exact .inl ⟨_,hstatus⟩
      · exact .inr hstatus
    · refine h.backed_after hwriter hname (content_writeAt_ne hfile) fun _ hbacks =>
        hbacks.settled (content_writeAt_ne hfile) (fun position hposition => ?_) (by simp [hfilling])
      exact hfile (Status.filling.inj (hfilling.symm.trans hposition)).1.symm
  | adopts _ hbefore _ =>
    exact h.backed_after hwriter hname rfl fun _ hbacks =>
      hbacks.settled rfl (by simp [hbefore,Phase.status]) (by simp [hbefore,Phase.status])
  | returns hfilled =>
    exact h.backed_after hwriter hname rfl fun _ hbacks => hbacks.settled rfl (by simp [hfilled]) (by simp [hfilled])
  | fails _ hbefore hstatus _ =>
    refine h.backed_after hwriter hname rfl fun _ hbacks => ?_
    rcases hbacks with hwhole | ⟨hinitial,-⟩
    · exact .inl hwhole
    · exact .inr ⟨hinitial,.inr hstatus⟩
  | removes _ _ _ =>
    have hne : address ≠ writer.call.address sha256 := by
      rintro rfl
      simp [Disk.unbind] at hname
    have hold : system.disk.names address = some file := stored_other hne hname
    exact h.backed_after hwriter hold rfl fun haddress _ => absurd haddress.symm hne
  | leaves _ hreply hdies _ _ =>
    refine h.backed_after hwriter hname rfl fun haddress hbacks => ?_
    rcases hbacks with hwhole | ⟨-,hwork⟩
    · exact .inl hwhole
    · refine .inl (not_not.mp fun hpart => habandons ⟨writer,file,hwriter,haddress ▸ hname,hpart,?_⟩)
      rcases hwork with ⟨offset,hoffset⟩ | hremoving
      · exact .inl ⟨hdies ⟨file,offset,hoffset⟩,offset,hoffset⟩
      · exact .inr ⟨hremoving,hreply⟩

theorem Kept.acted (h : Kept sha256 system) (hdistinct : Distinct sha256 system) (hwriter : system.writers i = some writer)
    (hdeletes : ¬ Deletes sha256 system (.call i reply)) (habandons : ¬ Abandons sha256 system (.call i reply))
    (hacts : Acts sha256 system.disk writer.call writer.phase reply disk after)
    (hentered : after.entered = true → writer.call.role ∈ disk.roles) :
    Kept sha256 ⟨disk,Function.update system.writers i (some ⟨writer.call,after⟩)⟩ := by
  have hplaced := h.own_placed hdistinct hwriter hacts hentered
  refine ⟨?_,?_,?_,?_,?_,h.backed_step hwriter habandons hacts hplaced⟩
  · intro j other hother
    by_cases hj : j = i
    · subst hj
      obtain rfl := stored_self hother
      exact hplaced
    · exact h.other_placed hdistinct hwriter hdeletes hacts hj (stored_other hj hother)
  · intro j k other another hother hanother hothers hanothers haddress
    by_cases hj : j = i
    · by_cases hk : k = i
      · rw [hj,hk]
      · subst hj
        obtain rfl := stored_self hother
        have hstored := stored_other hk hanother
        exact (h.not_shared hwriter hacts hothers hk hstored hanothers haddress.symm).elim
    · have hstored := stored_other hj hother
      by_cases hk : k = i
      · subst hk
        obtain rfl := stored_self hanother
        exact (h.not_shared hwriter hacts hanothers hj hstored hothers haddress).elim
      · exact h.lone j k other another hstored (stored_other hk hanother) hothers hanothers haddress
  · intro address file hname
    cases hacts with
    | creates _ hnone =>
      by_cases haddress : address = writer.call.address sha256
      · subst haddress
        obtain rfl : system.disk.fresh = file := stored_self hname
        exact Nat.lt_succ_self _
      · exact Nat.lt_succ_of_lt (h.ranged address file (stored_other haddress hname))
    | removes _ _ _ => exact h.ranged address file (names_unbind hname)
    | moves _ _ _ | reads _ _ _ _ _ _ _ _ | enters _ | fills _ _ _ _ _ _ | adopts _ _ _ | returns _ | fails _ _ _ _
    | leaves _ _ _ _ _ => exact h.ranged address file hname
  · intro address other file hname hothername
    cases hacts with
    | creates _ hnone =>
      have hold (target : Address) (htarget : target ≠ writer.call.address sha256)
          (hbound : (system.disk.bind (writer.call.address sha256)).names target = some file) : file < system.disk.fresh :=
        h.ranged target file (stored_other htarget hbound)
      have hnew (hbound : (system.disk.bind (writer.call.address sha256)).names (writer.call.address sha256) = some file) :
          system.disk.fresh = file := stored_self hbound
      by_cases haddress : address = writer.call.address sha256
      · by_cases hother : other = writer.call.address sha256
        · rw [haddress,hother]
        · subst haddress
          exact absurd (hnew hname) (hold other hother hothername).ne'
      · by_cases hother : other = writer.call.address sha256
        · subst hother
          exact absurd (hnew hothername) (hold address haddress hname).ne'
        · exact h.single _ _ file (stored_other haddress hname)
            (stored_other hother hothername)
    | removes _ _ _ => exact h.single _ _ file (names_unbind hname) (names_unbind hothername)
    | moves _ _ _ | reads _ _ _ _ _ _ _ _ | enters _ | fills _ _ _ _ _ _ | adopts _ _ _ | returns _ | fails _ _ _ _
    | leaves _ _ _ _ _ => exact h.single _ _ file hname hothername
  · intro address file hname
    have hgrow := roles_grow hacts
    cases hacts with
    | creates hbefore hnone =>
      by_cases haddress : address = writer.call.address sha256
      · subst haddress
        exact (h.placed i writer hwriter).entered (by rw [hbefore]; rfl)
      · exact h.roomed address file (stored_other haddress hname)
    | removes _ _ _ => exact h.roomed address file (names_unbind hname)
    | moves _ _ _ | reads _ _ _ _ _ _ _ _ | enters _ | fills _ _ _ _ _ _ | adopts _ _ _ | returns _ | fails _ _ _ _
    | leaves _ _ _ _ _ => exact hgrow (h.roomed address file hname)

theorem Kept.started (h : Kept sha256 system) (hfree : system.writers i = none) (call : WriteCall) :
    Kept sha256 {system with writers := Function.update system.writers i (some ⟨call,.mkdirRole⟩)} := by
  have hkept {j : ℕ} {other : Writer} (hj : j ≠ i)
      (hother : Function.update system.writers i (some ⟨call,.mkdirRole⟩) j = some other) : system.writers j = some other :=
    stored_other hj hother
  have hnew {other : Writer} (hother : Function.update system.writers i (some ⟨call,.mkdirRole⟩) i = some other) :
      other = ⟨call,.mkdirRole⟩ := (stored_self hother).symm
  refine ⟨?_,?_,h.ranged,h.single,h.roomed,?_⟩
  · intro j other hother
    by_cases hj : j = i
    · subst hj
      rw [hnew hother]
      exact ⟨by simp [Phase.entered],by simp [Phase.status],by simp [Phase.status],by simp [Phase.status],by simp [Phase.sight]⟩
    · exact h.placed j other (hkept hj hother)
  · intro j k other another hother hanother hothers hanothers haddress
    by_cases hj : j = i
    · subst hj
      rw [hnew hother] at hothers
      cases hothers
    · by_cases hk : k = i
      · subst hk
        rw [hnew hanother] at hanothers
        cases hanothers
      · exact h.lone j k other another (hkept hj hother) (hkept hk hanother) hothers hanothers haddress
  · intro address file hname
    obtain ⟨j,maker,hmaker,haddress,hbacks⟩ := h.backed address file hname
    have hj : j ≠ i := by
      rintro rfl
      simp [hfree] at hmaker
    exact ⟨j,maker,(Function.update_of_ne hj _ _).trans hmaker,haddress,hbacks⟩

theorem Kept.step (h : Kept sha256 system) (hdistinct : Distinct sha256 system) {event : Event}
    (hdeletes : ¬ Deletes sha256 system event) (habandons : ¬ Abandons sha256 system event) :
    Kept sha256 (system.step sha256 event) := by
  cases event with
  | start i call =>
    rw [System.step]
    cases hfree : system.writers i with
    | some _ => exact h
    | none => exact h.started hfree call
  | call i reply =>
    rw [System.step]
    cases hwriter : system.writers i with
    | none => exact h
    | some writer =>
      have hentered := (h.placed i writer hwriter).entered
      obtain ⟨hcall,hacts⟩ := @step_acts sha256 system.disk writer reply hentered
      have hroom := @entered_step sha256 system.disk writer reply hentered
      have hacted := h.acted hdistinct hwriter hdeletes habandons hacts hroom
      rw [← hcall] at hacted
      exact hacted

end Step

end PneumaLab.ResamplingNull.Controller
