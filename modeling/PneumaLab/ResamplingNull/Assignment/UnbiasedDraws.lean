import PneumaLab.Library.LengthPrefix
import PneumaLab.Library.RejectionSampling
import PneumaLab.ResamplingNull.Assignment.SealedTasks

namespace PneumaLab.ResamplingNull

section Blocks

variable (platform : Platform) (key messageFrame : Bytes)

def blockAt (counter : ℕ) : Py ℕ := do
  let frame ← kdfFrame platform "uniform-below-v1" [.bytes messageFrame,.u64 counter]
  return readBigEndian ((platform.hmac key frame).bytes.take 8)

variable {platform key messageFrame}

theorem blockAt_lt {counter value : ℕ} (h : blockAt platform key messageFrame counter = .ok value) :
    value < 2 ^ 64 := by
  rw [blockAt,bind_eq_ok] at h
  obtain ⟨frame,_,h⟩ := h
  cases h
  have hread := readBigEndian_lt ((platform.hmac key frame).bytes.take 8)
  rw [List.length_take,(platform.hmac key frame).size] at hread
  exact hread

def FirstBelow (platform : Platform) (key messageFrame : Bytes) (upper start fuel : ℕ) (draw : UniformDraw) : Prop :=
  ∃ skipped < fuel, draw.counter = start + skipped ∧
    (∃ value < 2 ^ 64 - 2 ^ 64 % upper, blockAt platform key messageFrame (start + skipped) = .ok value ∧
      draw.value = value % upper) ∧
    ∀ earlier < skipped, ∃ value ≥ 2 ^ 64 - 2 ^ 64 % upper,
      blockAt platform key messageFrame (start + earlier) = .ok value

theorem uniformLoop_succ (upper fuel counter : ℕ) :
    uniformLoop platform key messageFrame upper (fuel + 1) counter =
      (blockAt platform key messageFrame counter).bind fun value =>
        if value < 2 ^ 64 - 2 ^ 64 % upper then .ok ⟨value % upper,counter⟩
        else uniformLoop platform key messageFrame upper fuel (counter + 1) := by
  rw [uniformLoop,blockAt]
  cases kdfFrame platform "uniform-below-v1" [.bytes messageFrame,.u64 counter] with
  | error e => rfl
  | ok frame => rfl

theorem uniformLoop_eq_ok {upper fuel counter : ℕ} {draw : UniformDraw} :
    uniformLoop platform key messageFrame upper fuel counter = .ok draw ↔
      FirstBelow platform key messageFrame upper counter fuel draw := by
  induction fuel generalizing counter with
  | zero =>
    constructor
    · intro h
      cases h
    · rintro ⟨skipped,hlt,_⟩
      exact absurd hlt (Nat.not_lt_zero skipped)
  | succ fuel ih =>
    rw [uniformLoop_succ]
    cases hblock : blockAt platform key messageFrame counter with
    | error e =>
      constructor
      · intro h
        cases h
      · rintro ⟨skipped,_,_,⟨value,_,hvalue,_⟩,hearlier⟩
        cases skipped with
        | zero =>
          rw [Nat.add_zero,hblock] at hvalue
          cases hvalue
        | succ skipped =>
          obtain ⟨first,_,hfirst⟩ := hearlier 0 (Nat.succ_pos skipped)
          rw [Nat.add_zero,hblock] at hfirst
          cases hfirst
    | ok value =>
      change (if value < 2 ^ 64 - 2 ^ 64 % upper then .ok ⟨value % upper,counter⟩
        else uniformLoop platform key messageFrame upper fuel (counter + 1)) = .ok draw ↔ _
      by_cases hbelow : value < 2 ^ 64 - 2 ^ 64 % upper
      · rw [if_pos hbelow]
        constructor
        · intro h
          cases h
          exact ⟨0,Nat.succ_pos fuel,rfl,⟨value,hbelow,hblock,rfl⟩,fun _ h => absurd h (Nat.not_lt_zero _)⟩
        · rintro ⟨skipped,_,hcounter,⟨found,_,hfound,hvalue⟩,hearlier⟩
          cases skipped with
          | zero =>
            rw [Nat.add_zero,hblock] at hfound
            cases hfound
            obtain ⟨drawn,counter'⟩ := draw
            cases hcounter
            cases hvalue
            rfl
          | succ skipped =>
            obtain ⟨first,hfirst,hat⟩ := hearlier 0 (Nat.succ_pos skipped)
            rw [Nat.add_zero,hblock] at hat
            cases hat
            exact absurd hbelow (not_lt.mpr hfirst)
      · rw [if_neg hbelow,ih]
        constructor
        · rintro ⟨skipped,hlt,hcounter,hfound,hearlier⟩
          refine ⟨skipped + 1,Nat.succ_lt_succ hlt,by omega,?_,fun earlier hle => ?_⟩
          · rwa [show counter + (skipped + 1) = counter + 1 + skipped by omega]
          · cases earlier with
            | zero => exact ⟨value,not_lt.mp hbelow,hblock⟩
            | succ earlier =>
              rw [show counter + (earlier + 1) = counter + 1 + earlier by omega]
              exact hearlier earlier (Nat.lt_of_succ_lt_succ hle)
        · rintro ⟨skipped,hlt,hcounter,hfound,hearlier⟩
          cases skipped with
          | zero =>
            obtain ⟨found,hfoundLt,hat,_⟩ := hfound
            rw [Nat.add_zero,hblock] at hat
            cases hat
            exact absurd hfoundLt hbelow
          | succ skipped =>
            rw [show counter + (skipped + 1) = counter + 1 + skipped by omega] at hfound hcounter
            refine ⟨skipped,Nat.lt_of_succ_lt_succ hlt,hcounter,hfound,fun earlier hle => ?_⟩
            rw [show counter + 1 + earlier = counter + (earlier + 1) by omega]
            exact hearlier (earlier + 1) (Nat.succ_lt_succ hle)

end Blocks

open RejectionSampling in
theorem uniform_below_unbiased (upper : ℕ) (hpos : 1 ≤ upper) (hle : upper ≤ 2 ^ 64) :
    (upper ∣ (accepted (2 ^ 64) upper).card ∧ 2 ^ 63 < (accepted (2 ^ 64) upper).card ∧
      ∀ residue < upper, ((accepted (2 ^ 64) upper).filter fun value => value % upper = residue).card =
        (accepted (2 ^ 64) upper).card / upper) ∧
    ∀ (platform : Platform) (key messageFrame : Bytes) (draw : UniformDraw),
      uniformBelow platform key messageFrame upper = .ok draw ↔ key.length = 32 ∧ draw.counter < 2 ^ 64 ∧
        draw.value < upper ∧
        (∃ value ∈ accepted (2 ^ 64) upper,
          blockAt platform key messageFrame draw.counter = .ok value ∧ draw.value = value % upper) ∧
        ∀ earlier < draw.counter, ∃ value < 2 ^ 64, value ∉ accepted (2 ^ 64) upper ∧
          blockAt platform key messageFrame earlier = .ok value := by
  refine ⟨⟨?_,?_,?_⟩,fun platform key messageFrame draw => ?_⟩
  · rw [card_accepted]
    exact dvd_limit _ _
  · have hhalf := lt_two_mul_limit hpos hle
    rw [card_accepted]
    omega
  · intro residue hresidue
    rw [card_residue hresidue,card_accepted]
  · have hmem (value : ℕ) : value ∈ accepted (2 ^ 64) upper ↔ value < 2 ^ 64 - 2 ^ 64 % upper := by
      rw [accepted_eq,Finset.mem_range,limit]
    have hguard : (decide (1 ≤ upper) && decide (upper ≤ 2 ^ 64)) = true := by
      rw [decide_eq_true hpos,decide_eq_true hle]
      rfl
    rw [uniformBelow,hguard]
    simp only [bind_eq_ok,demand_eq_ok,decide_eq_true_eq,exists_const,true_and,uniformLoop_eq_ok,FirstBelow,Nat.zero_add]
    refine and_congr_right fun _ => ?_
    constructor
    · rintro ⟨skipped,hlt,hcounter,⟨value,hvalue,hat,hdraw⟩,hearlier⟩
      rw [hcounter]
      refine ⟨hlt,hdraw ▸ Nat.mod_lt _ hpos,⟨value,(hmem value).mpr hvalue,hat,hdraw⟩,fun earlier hlt => ?_⟩
      obtain ⟨first,hfirst,hfirstAt⟩ := hearlier earlier hlt
      exact ⟨first,blockAt_lt hfirstAt,fun h => absurd ((hmem first).mp h) (not_lt.mpr hfirst),hfirstAt⟩
    · rintro ⟨hlt,_,⟨value,hvalue,hat,hdraw⟩,hearlier⟩
      refine ⟨draw.counter,hlt,rfl,⟨value,(hmem value).mp hvalue,hat,hdraw⟩,fun earlier hlt => ?_⟩
      obtain ⟨first,_,hfirst,hfirstAt⟩ := hearlier earlier hlt
      exact ⟨first,not_lt.mp fun h => hfirst ((hmem first).mpr h),hfirstAt⟩

section Sample

-- The block of counter 0 is the largest one, every other block is 7.
def secondBytes (frame : Bytes) : Bytes :=
  if frame.getLast? = some 0 then List.replicate 32 255 else List.replicate 7 0 ++ List.replicate 25 7

theorem secondBytes_length (frame : Bytes) : (secondBytes frame).length = 32 := by
  unfold secondBytes
  split <;> rfl

def secondBlock : Platform where
  sha256 message := ⟨secondBytes message,secondBytes_length message⟩
  hmac _ frame := ⟨secondBytes frame,secondBytes_length frame⟩
  normalized _ := true
  otherCategory _ := false
  floatRepr text := text

open RejectionSampling in
theorem allocation_draw_unbiased :
    ((accepted (2 ^ 64) 12).filter fun value => value % 12 = 7).card = (accepted (2 ^ 64) 12).card / 12 ∧
      uniformBelow secondBlock (List.replicate 32 0) [] 12 = .ok ⟨7,1⟩ := by
  obtain ⟨hcount,hdraw⟩ := uniform_below_unbiased 12 (by decide) (by decide)
  have hmem (value : ℕ) : value ∈ accepted (2 ^ 64) 12 ↔ value < 2 ^ 64 - 4 := by
    rw [accepted_eq,Finset.mem_range,limit]
    norm_num
  have hfirst : blockAt secondBlock (List.replicate 32 0) [] 0 = .ok (2 ^ 64 - 1) := by decide
  have hsecond : blockAt secondBlock (List.replicate 32 0) [] 1 = .ok 7 := by decide
  refine ⟨hcount.2.2 7 (by decide),(hdraw secondBlock (List.replicate 32 0) [] ⟨7,1⟩).mpr
    ⟨rfl,by decide,by decide,⟨7,(hmem 7).mpr (by decide),hsecond,rfl⟩,fun earlier hearlier => ?_⟩⟩
  obtain rfl := Nat.lt_one_iff.mp hearlier
  exact ⟨2 ^ 64 - 1,by decide,fun h => absurd ((hmem _).mp h) (by decide),hfirst⟩

end Sample

end PneumaLab.ResamplingNull
