import JarLens.Archive.RangeCode
import JarLens.Proofs.Archive.Taking
import Mathlib.Algebra.Ring.Nat

/-!
# Range-coded data that ends early

The bound on the steps of range-coded data is never what stops them. A bit that is coded narrows the
range by at least one part in 69, a byte that is taken in widens it by 256, and the range never gets
smaller than 65536 (`Steady`). So the data of a byte has room for less than 400 bits, and starving
means that all bytes were taken (`starved_of_unrange`).
-/

namespace JarLens.Archive

namespace Ranging

/-- What coding keeps to: no bit is too sure, and the range is wide enough for the next one. -/
structure Steady (s : RangeState) : Prop where
  weight : ∀ w ∈ s.weights, 31 ≤ w ∧ w ≤ 2017
  range : 65536 ≤ s.range.toNat

/-- The range with the bytes still to come. -/
def breadth (s : RangeState) : Nat :=
  s.range.toNat * 256 ^ (s.data.size - s.next)

/-- How far a computation has come in some data: as many bits narrowed the range. -/
def progress (data : ByteArray) (whole : Nat) : Progress RangeState where
  past n s := s.data = data ∧ Steady s ∧ breadth s * 2048 ^ n ≤ whole * 2018 ^ n
  used s := data.size ≤ s.next
  past_mono {m n s} h hs := by
    refine ⟨hs.1, hs.2.1, ?_⟩
    obtain ⟨k, rfl⟩ := Nat.exists_eq_add_of_le h
    have hmore : 2018 ^ k ≤ 2048 ^ k := Nat.pow_le_pow_left (by omega) k
    refine Nat.le_of_mul_le_mul_right ?_ (Nat.pow_pos (n := k) (show 0 < 2048 by omega))
    calc breadth s * 2048 ^ m * 2048 ^ k
      _ = breadth s * 2048 ^ (m + k) := by rw [Nat.mul_assoc, Nat.pow_add]
      _ ≤ whole * 2018 ^ (m + k) := hs.2.2
      _ = whole * 2018 ^ m * 2018 ^ k := by rw [Nat.mul_assoc, Nat.pow_add]
      _ ≤ whole * 2018 ^ m * 2048 ^ k := Nat.mul_le_mul_left _ hmore

variable {data : ByteArray} {whole start : Nat}

/-- A range that is wide enough is not touched, and a byte that is taken in makes up for what it
gets wider. -/
theorem refill_cases {s : RangeState} (hs : Steady s) :
    (∃ s', refill s = .ok () s' ∧ s'.data = s.data ∧ Steady s' ∧ 16777216 ≤ s'.range.toNat ∧
      breadth s' = breadth s) ∨
    (refill s = .error .starved s ∧ s.data.size ≤ s.next) := by
  unfold refill
  by_cases hnarrow : s.range < 0x1000000
  · rw [if_pos hnarrow]
    have hlt : s.range.toNat < 16777216 := UInt32.lt_iff_toNat_lt.1 hnarrow
    have hrange : (s.range <<< 8).toNat = s.range.toNat * 256 := by
      rw [UInt32.toNat_shiftLeft]
      simp [Nat.shiftLeft_eq]
      omega
    cases hbyte : s.data[s.next]? with
    | none => exact .inr ⟨rfl, by simpa using hbyte⟩
    | some b =>
      refine .inl ⟨_, rfl, rfl, ⟨hs.weight, ?_⟩, ?_, ?_⟩
      · show 65536 ≤ (s.range <<< 8).toNat
        have := hs.range
        omega
      · show 16777216 ≤ (s.range <<< 8).toNat
        have := hs.range
        omega
      · have hnext : s.next < s.data.size := by
          by_contra hnot
          simp [hnot] at hbyte
        show (s.range <<< 8).toNat * 256 ^ (s.data.size - (s.next + 1)) = _
        obtain ⟨k, hk⟩ := Nat.exists_eq_add_of_lt hnext
        have hleft : s.data.size - s.next = s.data.size - (s.next + 1) + 1 := by omega
        rw [breadth, hleft, Nat.pow_succ, hrange, Nat.mul_assoc, Nat.mul_comm 256]
  · rw [if_neg hnarrow]
    have hle : 16777216 ≤ s.range.toNat :=
      Nat.le_of_not_lt fun h => hnarrow (UInt32.lt_iff_toNat_lt.2 h)
    exact .inl ⟨s, rfl, rfl, hs, hle, rfl⟩

/-- Narrowing the range after it was refilled: as one bit of its weight does, or not at all. -/
structure Narrows (s s' : RangeState) (count : Nat) : Prop where
  data : s'.data = s.data
  next : s'.next = s.next
  steady : Steady s'
  range : s'.range.toNat * 2048 ^ count ≤ s.range.toNat * 2018 ^ count

/-- What narrows the range by some bits' weight goes so far in the data. -/
theorem Narrows.past {s s' : RangeState} {count : Nat} (h : Narrows s s' count)
    (hs : (progress data whole).past start s) :
    (progress data whole).past (start + count) s' := by
  refine ⟨h.data.trans hs.1, h.steady, ?_⟩
  have hrest : s'.data.size - s'.next = s.data.size - s.next := by rw [h.data, h.next]
  have hbreadth : breadth s' * 2048 ^ count ≤ breadth s * 2018 ^ count := by
    rw [breadth, breadth, hrest, Nat.mul_right_comm, Nat.mul_right_comm _ _ (2018 ^ count)]
    exact Nat.mul_le_mul_right _ h.range
  calc breadth s' * 2048 ^ (start + count)
    _ = breadth s' * 2048 ^ count * 2048 ^ start := by
      rw [Nat.add_comm, Nat.pow_add, Nat.mul_assoc]
    _ ≤ breadth s * 2018 ^ count * 2048 ^ start := Nat.mul_le_mul_right _ hbreadth
    _ = breadth s * 2048 ^ start * 2018 ^ count := Nat.mul_right_comm _ _ _
    _ ≤ whole * 2018 ^ start * 2018 ^ count := Nat.mul_le_mul_right _ hs.2.2
    _ = whole * 2018 ^ (start + count) := by rw [Nat.pow_add, Nat.mul_assoc]

/-- What comes after the range was refilled. -/
theorem takes_refilled {α : Type} {count : Nat} {f : RangeState → α × RangeState}
    (hf : ∀ s, Steady s → 16777216 ≤ s.range.toNat → Narrows s (f s).2 count) :
    Takes (progress data whole) start count (do refill; modifyGet f : Ranging α) where
  ok {s a s'} hs h := by
    change EStateM.bind refill (fun _ => modifyGet f) s = _ at h
    unfold EStateM.bind at h
    rcases refill_cases hs.2.1 with ⟨s₁, hrun, hdata, hsteady, hwide, hbreadth⟩ | ⟨hrun, -⟩
    · rw [hrun] at h
      cases h
      exact (hf s₁ hsteady hwide).past ⟨hdata.trans hs.1, hsteady, hbreadth ▸ hs.2.2⟩
    · rw [hrun] at h
      cases h
  starved {s s'} hs h := by
    change EStateM.bind refill (fun _ => modifyGet f) s = _ at h
    unfold EStateM.bind at h
    rcases refill_cases hs.2.1 with ⟨s₁, hrun, -⟩ | ⟨hrun, hused⟩
    · rw [hrun] at h
      cases h
    · rw [hrun] at h
      cases h
      exact hs.1 ▸ hused

/-- Taking a byte in uses no bit up. -/
theorem takes_refill : Takes (progress data whole) start 0 refill := by
  have hrefill : refill = (do refill; modifyGet fun s => ((), s) : Ranging Unit) := by
    funext s
    change _ = EStateM.bind refill _ s
    unfold EStateM.bind
    cases refill s <;> rfl
  rw [hrefill]
  exact takes_refilled fun s hs _ => ⟨rfl, rfl, hs, Nat.le_refl _⟩

/-- The weight of a choice that was not made yet is in the middle. -/
theorem Steady.weight_at {s : RangeState} (hs : Steady s) (choice : Nat) :
    31 ≤ s.weights[choice]?.getD 1024 ∧ s.weights[choice]?.getD 1024 ≤ 2017 := by
  cases hget : s.weights[choice]? with
  | none => simp
  | some w =>
    have hmem : w ∈ s.weights := Array.mem_of_getElem? hget
    exact hs.weight w hmem

/-- Changing one weight to one that is not too sure keeps the others. -/
theorem Steady.weights_set {s : RangeState} (hs : Steady s) (choice : Nat) {w : Nat}
    (h : 31 ≤ w ∧ w ≤ 2017) : ∀ v ∈ s.weights.setIfInBounds choice w, 31 ≤ v ∧ v ≤ 2017 := by
  intro v hv
  rcases Array.mem_or_eq_of_mem_setIfInBounds hv with hmem | rfl
  · exact hs.weight v hmem
  · exact h

/-- The part of the range that means a zero. -/
theorem toNat_bound (range : UInt32) {w : Nat} (hw : w ≤ 2017) :
    ((range >>> 11) * w.toUInt32).toNat = range.toNat / 2048 * w := by
  have hlt : range.toNat < 4294967296 := range.toNat_lt
  have hshift : (range >>> 11).toNat = range.toNat / 2048 := by
    rw [UInt32.toNat_shiftRight]
    exact Nat.shiftRight_eq_div_pow _ _
  have hsmall : range.toNat / 2048 * w < 4294967296 := by
    calc range.toNat / 2048 * w
      _ ≤ range.toNat / 2048 * 2017 := Nat.mul_le_mul_left _ hw
      _ < 4294967296 := by omega
  have hweight : w.toUInt32.toNat = w := by
    rw [Nat.toUInt32, UInt32.toNat_ofNat_of_lt']
    exact Nat.lt_of_le_of_lt hw (by decide)
  rw [UInt32.toNat_mul, hshift, hweight]
  exact Nat.mod_eq_of_lt hsmall

/-- A bit of a choice narrows the range: to the part of a zero, or to what that part leaves. -/
theorem takes_bit (choice : Nat) : Takes (progress data whole) start 1 (bit choice) := by
  refine takes_refilled fun s hs hwide => ?_
  obtain ⟨hleast, hmost⟩ := hs.weight_at choice
  dsimp only
  generalize s.weights[choice]?.getD 1024 = w at hleast hmost
  have hbound := toNat_bound s.range hmost
  have hlow : s.range.toNat / 2048 * 31 ≤ s.range.toNat / 2048 * w := Nat.mul_le_mul_left _ hleast
  have hhigh : s.range.toNat / 2048 * w ≤ s.range.toNat / 2048 * 2017 :=
    Nat.mul_le_mul_left _ hmost
  generalize (s.range >>> 11) * w.toUInt32 = bound at hbound
  generalize s.range.toNat / 2048 * w = n at hbound hlow hhigh
  split
  · refine ⟨rfl, rfl, ⟨hs.weights_set choice (by omega), ?_⟩, ?_⟩
    · show 65536 ≤ bound.toNat
      omega
    · show bound.toNat * 2048 ^ 1 ≤ s.range.toNat * 2018 ^ 1
      omega
  · have hsub : (s.range - bound).toNat = s.range.toNat - n := by
      rw [UInt32.toNat_sub_of_le, hbound]
      rw [UInt32.le_iff_toNat_le]
      omega
    refine ⟨rfl, rfl, ⟨hs.weights_set choice (by omega), ?_⟩, ?_⟩
    · show 65536 ≤ (s.range - bound).toNat
      omega
    · show (s.range - bound).toNat * 2048 ^ 1 ≤ s.range.toNat * 2018 ^ 1
      omega

/-- A bit without a weight halves the range, which need not count. -/
theorem takes_plainBit : Takes (progress data whole) start 0 plainBit := by
  refine takes_refilled fun s hs hwide => ?_
  have hhalf : (s.range >>> 1).toNat = s.range.toNat / 2 := by
    rw [UInt32.toNat_shiftRight]
    exact Nat.shiftRight_eq_div_pow _ _
  dsimp only
  generalize s.range >>> 1 = half at hhalf
  have hnarrows : ∀ code, Narrows s { s with range := half, code } 0 := by
    refine fun code => ⟨rfl, rfl, ⟨hs.weight, ?_⟩, ?_⟩
    · show 65536 ≤ half.toNat
      omega
    · show half.toNat * 2048 ^ 0 ≤ s.range.toNat * 2018 ^ 0
      omega
  split
  · exact hnarrows _
  · exact hnarrows _

theorem takes_plainBits (width high : Nat) :
    Takes (progress data whole) start 0 (plainBits width high) := by
  induction width generalizing start high with
  | zero => exact .pure high
  | succ width ih => exact takes_plainBit.after fun b => ih _

theorem takes_tree (base width high : Nat) :
    Takes (progress data whole) start 0 (tree base width high) := by
  induction width generalizing start high with
  | zero => exact .pure high
  | succ width ih => exact (takes_bit _).after fun b => ih _

theorem takes_number (base width : Nat) :
    Takes (progress data whole) start 0 (number base width) := by
  unfold number
  exact (takes_tree _ _ _).after fun n => .pure _

theorem takes_lowFirst (base width high : Nat) :
    Takes (progress data whole) start 0 (lowFirst base width high) := by
  induction width generalizing start high with
  | zero => exact .pure 0
  | succ width ih => exact (takes_bit _).after fun low => (ih _).after fun rest => .pure _

/-- A change of the state that keeps the range and the place in the data. -/
theorem past_of_eq {f : RangeState → RangeState}
    (h : ∀ s, (f s).data = s.data ∧ (f s).next = s.next ∧ (f s).range = s.range ∧
      (f s).weights = s.weights) (s : RangeState) (hs : (progress data whole).past start s) :
    (progress data whole).past start (f s) := by
  obtain ⟨hdata, hnext, hrange, hweights⟩ := h s
  have hnarrows : Narrows s (f s) 0 :=
    ⟨hdata, hnext, ⟨hweights ▸ hs.2.1.weight, hrange ▸ hs.2.1.range⟩, by
      rw [hrange]
      exact Nat.le_refl _⟩
  exact hnarrows.past hs

theorem takes_literalAfter (base other width high : Nat) :
    Takes (progress data whole) start 0 (literalAfter base other width high) := by
  induction width generalizing start high with
  | zero => exact .pure high
  | succ width ih => exact (takes_bit _).after fun b => .ite (ih _) (takes_tree _ _ _)

theorem takes_literal (properties : RangeProperties) :
    Takes (progress data whole) start 0 (literal properties) := by
  unfold literal
  refine .get_bind fun s _ => .ite ((takes_tree _ _ _).after fun b => ?_)
    ((takes_literalAfter _ _ _ _).after fun b => ?_)
  all_goals exact .change (past_of_eq fun _ => ⟨rfl, rfl, rfl, rfl⟩)

theorem takes_length (base place : Nat) :
    Takes (progress data whole) start 0 (length base place) := by
  unfold length
  refine (takes_bit _).after fun long => .ite ((takes_number _ _).after fun n => .pure _) ?_
  refine (takes_bit _).after fun longer => .ite ?_ ?_
  · exact (takes_number _ _).after fun n => .pure _
  · exact (takes_number _ _).after fun n => .pure _

theorem takes_distance (length : Nat) :
    Takes (progress data whole) start 0 (distance length) := by
  unfold distance
  refine (takes_number _ _).after fun n => .ite (.pure _) (.ite ?_ ?_)
  · exact (takes_lowFirst _ _ _).after fun low => .pure _
  · exact (takes_plainBits _ _).after fun high => (takes_lowFirst _ _ _).after fun low => .pure _

theorem takes_repeatBack (length : Nat) :
    Takes (progress data whole) start 0 (repeatBack length) :=
  .change (past_of_eq fun _ => ⟨rfl, rfl, rfl, rfl⟩)

theorem takes_newRepetition (properties : RangeProperties) (place : Nat) :
    Takes (progress data whole) start 0 (newRepetition properties place) := by
  unfold newRepetition
  refine .change_bind (past_of_eq fun _ => ⟨rfl, rfl, rfl, rfl⟩) ?_
  refine (takes_length _ _).after fun count => (takes_distance _).after fun last => ?_
  refine .change_bind (past_of_eq fun _ => ⟨rfl, rfl, rfl, rfl⟩) ?_
  refine .ite (takes_refill.after fun _ => .get_bind fun s _ => ?_) (.get_bind fun s _ => ?_)
  · exact .check (.pure true)
  · exact .check ((takes_repeatBack _).after fun _ => .pure false)

theorem takes_olderDistance (course ages age : Nat) :
    Takes (progress data whole) start 0 (olderDistance course ages age) := by
  induction ages generalizing start age with
  | zero => exact .pure age
  | succ ages ih => exact (takes_bit _).after fun older => .ite (.pure age) (ih _)

theorem takes_knownRepetition (course place : Nat) :
    Takes (progress data whole) start 0 (knownRepetition course place) := by
  unfold knownRepetition
  refine .get_bind fun s _ => .check ((takes_olderDistance _ _ _).after fun age => ?_)
  dsimp only
  refine .ite ((takes_bit _).map.after fun isShort => ?_)
    ((Takes.pure false).after fun isShort => ?_)
  all_goals
    refine .ite (.change_bind (past_of_eq fun _ => ⟨rfl, rfl, rfl, rfl⟩) (takes_repeatBack 1))
      (.change_bind (past_of_eq fun _ => ⟨rfl, rfl, rfl, rfl⟩) ?_)
    exact (takes_length _ _).after fun count => takes_repeatBack count

/-- A step takes a bit, so a bound that the range is too narrow for is not reached. -/
theorem takes_steps (properties : RangeProperties) {count : Nat}
    (h : whole * 2018 ^ (start + count) < 65536 * 2048 ^ (start + count)) :
    Takes (progress data whole) start 0 (steps properties count) := by
  induction count generalizing start with
  | zero =>
    refine .starve fun s hs => ?_
    have hrange : 65536 * 2048 ^ start ≤ breadth s * 2048 ^ start := by
      refine Nat.mul_le_mul_right _ (Nat.le_trans hs.2.1.range ?_)
      exact Nat.le_mul_of_pos_right _ (Nat.pow_pos (by omega))
    exact absurd (Nat.lt_of_le_of_lt (Nat.le_trans hrange hs.2.2) h) (Nat.lt_irrefl _)
  | succ count ih =>
    have hrest : Takes (progress data whole) (start + 1) 0 (steps properties count) :=
      ih (by rwa [Nat.add_assoc, Nat.add_comm 1])
    unfold steps
    refine .get_bind fun s _ => .get_bind fun s' _ => (takes_bit _).after fun repetition => ?_
    refine .ite ((takes_literal _).after fun _ => hrest) ?_
    refine ((takes_bit _).weaken (Nat.zero_le _)).after fun known => ?_
    refine .ite ((takes_newRepetition _ _).after fun isEnd => ?_) ?_
    · exact .ite hrest (.pure ())
    · exact (takes_knownRepetition _ _).after fun _ => hrest

/-- As many steps as there can be narrow any range too much. -/
theorem narrow_of_stepsPerByte (n : Nat) :
    4294967296 * 256 ^ n * 2018 ^ (stepsPerByte * (n + 6)) <
      65536 * 2048 ^ (stepsPerByte * (n + 6)) := by
  have hquarter : 4 * 2018 ^ 100 ≤ 2048 ^ 100 := by decide +kernel
  have hbyte : 256 * 2018 ^ stepsPerByte ≤ 2048 ^ stepsPerByte := by
    rw [show stepsPerByte = 100 * 4 from rfl, Nat.pow_mul, Nat.pow_mul]
    generalize 2018 ^ 100 = a at hquarter ⊢
    calc 256 * a ^ 4
      _ = (4 * a) ^ 4 := by rw [Nat.mul_pow]
      _ ≤ (2048 ^ 100) ^ 4 := Nat.pow_le_pow_left hquarter 4
  generalize stepsPerByte = m at hbyte ⊢
  have hbytes : 256 ^ (n + 6) * 2018 ^ (m * (n + 6)) ≤ 2048 ^ (m * (n + 6)) := by
    rw [Nat.pow_mul, Nat.pow_mul, ← Nat.mul_pow]
    exact Nat.pow_le_pow_left hbyte _
  have hleast : 0 < 2048 ^ (m * (n + 6)) := Nat.pow_pos (by omega)
  calc 4294967296 * 256 ^ n * 2018 ^ (m * (n + 6))
    _ ≤ 65536 * (4294967296 * 256 ^ n * 2018 ^ (m * (n + 6))) :=
      Nat.le_mul_of_pos_left _ (by omega)
    _ = 256 ^ (n + 6) * 2018 ^ (m * (n + 6)) := by
      rw [Nat.pow_add, ← Nat.mul_assoc, ← Nat.mul_assoc, Nat.mul_comm (256 ^ n)]
    _ ≤ 2048 ^ (m * (n + 6)) := hbytes
    _ < 65536 * 2048 ^ (m * (n + 6)) := by omega

/-- The state in front of the first byte. -/
def opening (properties : RangeProperties) (data : ByteArray) : RangeState :=
  ⟨data, 0, 0xffffffff, 0, Array.replicate (choiceCount properties) 1024, .empty, 0, [0, 0, 0, 0]⟩

/-- Past the first bits of the code no bit was taken yet. -/
theorem past_opening (properties : RangeProperties) (data : ByteArray) (code : UInt32) :
    (progress data (4294967296 * 256 ^ (data.size - 5))).past 0
      { opening properties data with next := 5, code } := by
  have hrange : (0xffffffff : UInt32).toNat = 4294967295 := rfl
  refine ⟨rfl, ⟨fun w hw => ?_, ?_⟩, ?_⟩
  · have hmiddle : w = 1024 := (Array.mem_replicate.1 hw).2
    omega
  · show 65536 ≤ (0xffffffff : UInt32).toNat
    omega
  · rw [Nat.pow_zero, Nat.pow_zero, Nat.mul_one, Nat.mul_one]
    refine Nat.mul_le_mul_right _ ?_
    show (0xffffffff : UInt32).toNat ≤ 4294967296
    omega

end Ranging

theorem run_modify_bind {σ ε α : Type} (f : σ → σ) (rest : Unit → EStateM ε σ α) (s : σ) :
    (modify f >>= rest).run s = (rest ()).run (f s) := rfl

theorem run_get_bind {σ ε α : Type} (f : σ → EStateM ε σ α) (s : σ) :
    (get >>= f).run s = (f s).run s := rfl

open Ranging in
/-- Expanding range-coded data starves only where all of the data was taken, if there is enough for
the first bits of the code. -/
theorem starved_of_unrange {properties : RangeProperties} {data : ByteArray} {s : RangeState}
    (hsize : 5 ≤ data.size)
    (h : (Ranging.all properties).run (opening properties data) = .error .starved s) :
    data.size ≤ s.next := by
  have hroom : 4294967296 * 256 ^ (data.size - 5) * 2018 ^ (0 + stepsPerByte * (data.size + 1)) <
      65536 * 2048 ^ (0 + stepsPerByte * (data.size + 1)) := by
    have hleft : data.size + 1 = data.size - 5 + 6 := by omega
    rw [Nat.zero_add, hleft]
    exact narrow_of_stepsPerByte _
  unfold Ranging.all at h
  rw [run_get_bind] at h
  dsimp only [opening] at h
  generalize stepsPerByte * (data.size + 1) = count at h hroom
  split at h
  · cases h
  · rw [if_neg (Nat.not_lt.2 hsize), run_modify_bind] at h
    exact (takes_steps properties hroom).used_of_run (past_opening properties data _) h

end JarLens.Archive
