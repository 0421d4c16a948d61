import JarLens.Archive.BlockSort
import JarLens.Archive.Inflate

/-!
# Data that ends early

The loops that expand packed data have a bound on their steps, and `starved` is what they tell both
when the data is used up and when the bound is reached. The bound is never reached before: a loop
takes at least a bit in each step, so that where as many steps are left as there are bits, starving
means that all bytes were taken (`takes_coded`, `takes_column`). `starved_of_inflate` and
`starved_of_unsort` say this of the whole data.
-/

namespace JarLens.Archive

/-- How far a computation has come in the data that it reads. -/
structure Progress (σ : Type) where
  /-- At least so many bits were taken. -/
  past : Nat → σ → Prop
  /-- All bytes were taken. -/
  used : σ → Prop
  past_mono : ∀ {m n s}, m ≤ n → past n s → past m s

/-- Past `start` bits, a computation takes at least `count` bits more where it succeeds, and it
starves only where all bytes were taken. -/
structure Takes {σ C α : Type} (p : Progress σ) (start count : Nat) (x : EStateM (Halt C) σ α) :
    Prop where
  ok : ∀ {s a s'}, p.past start s → x s = .ok a s' → p.past (start + count) s'
  starved : ∀ {s s'}, p.past start s → x s = .error .starved s' → p.used s'

namespace Takes

variable {σ C α β : Type} {p : Progress σ} {start count more : Nat} {x : EStateM (Halt C) σ α}

theorem pure (a : α) : Takes (C := C) p start 0 (pure a) where
  ok hs h := by cases h; exact hs
  starved _ h := by cases h

/-- A whole run starves only where all bytes were taken. -/
theorem used_of_run (hx : Takes p start count x) {s s' : σ} (hs : p.past start s)
    (h : x.run s = .error .starved s') : p.used s' :=
  hx.starved hs h

theorem corrupt {c : C} : Takes p start count (throw (.corrupt c) : EStateM _ σ α) where
  ok _ h := by cases h
  starved _ h := by cases h

/-- Where all bytes were taken, reaching a bound is starving. -/
theorem starve (h : ∀ s, p.past start s → p.used s) :
    Takes p start 0 (throw .starved : EStateM (Halt C) σ α) where
  ok _ hrun := by cases hrun
  starved hs hrun := by cases hrun; exact h _ hs

/-- The bits of two steps add up. -/
theorem bind {f : α → EStateM (Halt C) σ β} (hx : Takes p start count x)
    (hf : ∀ a, Takes p (start + count) more (f a)) : Takes p start (count + more) (x >>= f) where
  ok {s b s'} hs h := by
    change EStateM.bind x f s = _ at h
    unfold EStateM.bind at h
    cases hrun : x s with
    | error e s₁ => rw [hrun] at h; cases h
    | ok a s₁ =>
      rw [hrun] at h
      rw [← Nat.add_assoc]
      exact (hf a).ok (hx.ok hs hrun) h
  starved {s s'} hs h := by
    change EStateM.bind x f s = _ at h
    unfold EStateM.bind at h
    cases hrun : x s with
    | error e s₁ =>
      rw [hrun] at h
      cases h
      exact hx.starved hs hrun
    | ok a s₁ =>
      rw [hrun] at h
      exact (hf a).starved (hx.ok hs hrun) h

theorem weaken (hx : Takes p start count x) {fewer : Nat} (h : fewer ≤ count) :
    Takes p start fewer x where
  ok hs hrun := p.past_mono (Nat.add_le_add_left h start) (hx.ok hs hrun)
  starved := hx.starved

/-- A step after which only what was taken before counts. -/
theorem after {f : α → EStateM (Halt C) σ β} (hx : Takes p start count x)
    (hf : ∀ a, Takes p (start + count) 0 (f a)) : Takes p start 0 (x >>= f) :=
  (hx.bind hf).weaken (Nat.zero_le _)

theorem map {f : α → β} (hx : Takes p start count x) : Takes p start count (f <$> x) := by
  rw [map_eq_pure_bind]
  exact hx.bind fun a => .pure (f a)

theorem ite {c : Prop} [Decidable c] {y : EStateM (Halt C) σ α} (hx : Takes p start count x)
    (hy : Takes p start count y) : Takes p start count (if c then x else y) := by
  split
  · exact hx
  · exact hy

/-- Nothing comes after a failure. -/
theorem corrupt_bind {e : C} {rest : β → EStateM (Halt C) σ α} :
    Takes p start count
      ((MonadExcept.throw (Halt.corrupt e) : EStateM (Halt C) σ β) >>= rest) where
  ok _ h := by cases h
  starved _ h := by cases h

/-- A check that comes before the rest. -/
theorem check {c : Prop} [Decidable c] {e : C} {rest : β → EStateM (Halt C) σ α}
    (hx : Takes p start count x) :
    Takes p start count
      (if c then (MonadExcept.throw (Halt.corrupt e) : EStateM (Halt C) σ β) >>= rest else x) :=
  .ite .corrupt_bind hx

/-- A change of the state that does not go back in the data. -/
theorem change {f : σ → σ} (h : ∀ s, p.past start s → p.past start (f s)) :
    Takes (C := C) p start 0 (modify f) where
  ok hs hrun := by cases hrun; exact h _ hs
  starved _ hrun := by cases hrun

theorem change_bind {f : σ → σ} {rest : Unit → EStateM (Halt C) σ α}
    (h : ∀ s, p.past start s → p.past start (f s)) (hrest : Takes p start count (rest ())) :
    Takes p start count (modify f >>= rest) :=
  ((Takes.change h).bind fun _ => hrest).weaken (by omega)

/-- What comes after a look at the state. -/
theorem get_bind {f : σ → EStateM (Halt C) σ α}
    (hf : ∀ s, p.past start s → Takes p start count (f s)) :
    Takes p start count (get >>= f) where
  ok hs h := (hf _ hs).ok hs h
  starved hs h := (hf _ hs).starved hs h

/-- Giving up at a state where all bytes were taken is starving. -/
theorem set_starve {s : σ} {rest : β → EStateM (Halt C) σ α} (h : p.used s) :
    Takes p start count
      (set s >>= fun _ => (MonadExcept.throw Halt.starved : EStateM (Halt C) σ β) >>= rest) where
  ok _ hrun := by cases hrun
  starved _ hrun := by cases hrun; exact h

/-- What takes no bit for sure takes none for sure when it is repeated. -/
theorem mapM {γ : Type} {f : γ → EStateM (Halt C) σ β} {l : List γ}
    (hf : ∀ a, Takes p start 0 (f a)) : Takes p start 0 (l.mapM f) := by
  induction l with
  | nil => exact .pure []
  | cons a l ih =>
    rw [List.mapM_cons]
    exact (hf a).after fun b => ih.after fun bs => .pure (b :: bs)

theorem filterMapM {γ : Type} {f : γ → EStateM (Halt C) σ (Option β)} {l : List γ}
    (hf : ∀ a, Takes p start 0 (f a)) : Takes p start 0 (l.filterMapM f) := by
  induction l with
  | nil => exact .pure []
  | cons a l ih =>
    rw [List.filterMapM_cons]
    refine (hf a).after fun b => ?_
    cases b with
    | none => exact ih
    | some b => exact ih.bind fun bs => .pure (b :: bs)

end Takes

/-! ## Bit by bit -/

/-- What a computation reads bits of, and how many of them it has read. -/
structure BitSource (σ : Type) where
  data : σ → ByteArray
  bit : σ → Nat

/-- How far it has come in some data. -/
def BitSource.progress {σ : Type} (source : BitSource σ) (data : ByteArray) : Progress σ where
  past n s := source.data s = data ∧ n ≤ source.bit s
  used s := data.size ≤ (source.bit s + 7) / 8
  past_mono h hs := ⟨hs.1, Nat.le_trans h hs.2⟩

section

variable {σ C α : Type} {source : BitSource σ} {data : ByteArray} {start : Nat}

/-- The next bit, if there is one. -/
theorem takes_next {f : UInt8 → σ → α} {g : σ → σ} (hdata : ∀ s, source.data (g s) = source.data s)
    (hbit : ∀ s, source.bit (g s) = source.bit s + 1) :
    Takes (C := C) (source.progress data) start 1 fun s =>
      match (source.data s)[source.bit s / 8]? with
      | some b => .ok (f b s) (g s)
      | none => .error .starved s where
  ok {s a s'} hs h := by
    cases hbyte : (source.data s)[source.bit s / 8]? with
    | none => simp [hbyte] at h
    | some b =>
      simp only [hbyte] at h
      cases h
      exact ⟨(hdata s).trans hs.1, hbit s ▸ Nat.succ_le_succ hs.2⟩
  starved {s s'} hs h := by
    cases hbyte : (source.data s)[source.bit s / 8]? with
    | some b => simp [hbyte] at h
    | none =>
      simp only [hbyte] at h
      cases h
      have hsize : (source.data s).size ≤ source.bit s / 8 := by simpa using hbyte
      exact hs.1 ▸ Nat.le_trans hsize (Nat.div_le_div_right (Nat.le_add_right _ _))

/-- Past all bits, all bytes were taken. -/
theorem used_of_past (h : 8 * data.size ≤ start) (s : σ)
    (hs : (source.progress data).past start s) : (source.progress data).used s := by
  have hbits := Nat.le_trans h hs.2
  show data.size ≤ (source.bit s + 7) / 8
  omega

/-- A change of the state that keeps the place in the data. -/
theorem past_of_eq {f : σ → σ} (hdata : ∀ s, source.data (f s) = source.data s)
    (hbit : ∀ s, source.bit (f s) = source.bit s) (s : σ)
    (hs : (source.progress data).past start s) : (source.progress data).past start (f s) :=
  ⟨(hdata s).trans hs.1, (hbit s).symm ▸ hs.2⟩

end

/-! ## Inflating -/

namespace Inflating

/-- The bits of deflated data. -/
def source : BitSource InflateState where
  data := (·.data)
  bit := (·.bit)

variable {data : ByteArray} {start : Nat}

theorem takes_bit : Takes (source.progress data) start 1 bit :=
  takes_next (fun _ => rfl) fun _ => rfl

theorem takes_bits (width : Nat) : Takes (source.progress data) start width (bits width) := by
  induction width generalizing start with
  | zero => exact .pure 0
  | succ width ih =>
    exact (takes_bit.bind fun low => ih.bind fun high => .pure _).weaken (by omega)

/-- A symbol takes a bit, for no code is empty. -/
theorem takes_symbol (code : PrefixCode) (otherwise : Corruption) :
    Takes (source.progress data) start 1 (code.symbol otherwise) := by
  have hafter : ∀ counts start code' first index, Takes (source.progress data) start 0
      (PrefixCode.symbolAfter otherwise code.symbols counts code' first index) := by
    intro counts
    induction counts with
    | nil => exact fun _ _ _ _ => .corrupt
    | cons count counts ih =>
      intro start code' first index
      exact takes_bit.after fun b => .ite (.pure _) (.ite .corrupt (ih _ _ _ _))
  unfold PrefixCode.symbol
  cases code.counts with
  | nil => exact .corrupt
  | cons count counts =>
    exact takes_bit.bind fun b => .ite (.pure _) (.ite .corrupt (hafter _ _ _ _ _))

theorem takes_ranged (table : Array (Nat × Nat)) (otherwise : Corruption) (symbol : Nat) :
    Takes (source.progress data) start 0 (ranged table otherwise symbol) := by
  unfold ranged
  cases table[symbol]? with
  | none => exact .corrupt
  | some entry => exact (takes_bits _).after fun high => .pure _

theorem takes_emit (b : UInt8) : Takes (source.progress data) start 0 (emit b) :=
  .change (past_of_eq (fun _ => rfl) fun _ => rfl)

theorem takes_repetition (distances : PrefixCode) (symbol : Nat) :
    Takes (source.progress data) start 0 (repetition distances symbol) := by
  unfold repetition
  refine (takes_ranged _ _ _).after fun count => (takes_symbol _ _).after fun symbol' =>
    (takes_ranged _ _ _).after fun distance => .get_bind fun s _ => .check ?_
  exact .change (past_of_eq (fun _ => rfl) fun _ => rfl)

/-- A coded block takes a bit for each symbol, so a bound above the number of bits is not reached.
-/
theorem takes_coded (literals distances : PrefixCode) {steps : Nat}
    (h : 8 * data.size < start + steps) :
    Takes (source.progress data) start 0 (coded literals distances steps) := by
  induction steps generalizing start with
  | zero => exact .starve (used_of_past (Nat.le_of_lt h))
  | succ steps ih =>
    refine (takes_symbol _ _).after fun symbol => .ite (.pure _) ?_
    have hrest : Takes (source.progress data) (start + 1) 0 (coded literals distances steps) :=
      ih (by omega)
    exact .ite ((takes_emit _).after fun _ => hrest) ((takes_repetition _ _).after fun _ => hrest)

theorem takes_copyBytes (count : Nat) : Takes (source.progress data) start 0 (copyBytes count) := by
  induction count generalizing start with
  | zero => exact .pure _
  | succ count ih => exact (takes_bits 8).after fun b => (takes_emit _).after fun _ => ih

theorem takes_stored : Takes (source.progress data) start 0 stored := by
  unfold stored
  refine .change_bind (fun s hs => ⟨hs.1, ?_⟩) ((takes_bits 16).after fun length =>
    (takes_bits 16).after fun complement => ?_)
  · have hbit : start ≤ s.bit := hs.2
    show start ≤ (s.bit + 7) / 8 * 8
    omega
  · exact .check (takes_copyBytes length)

theorem takes_lengthSymbol (code : PrefixCode) :
    Takes (source.progress data) start 0 (lengthSymbol code) := by
  unfold lengthSymbol
  exact .ite (takes_bit.map.after fun _ => .pure 0) ((takes_symbol _ _).weaken (Nat.zero_le _))

theorem takes_codeLengths (code : PrefixCode) (total steps : Nat) (lengths : List Nat) :
    Takes (source.progress data) start 0 (codeLengths code total steps lengths) := by
  induction steps generalizing start lengths with
  | zero => exact .pure _
  | succ steps ih =>
    unfold codeLengths
    refine .ite (.pure _) ((takes_lengthSymbol code).after fun symbol => .ite (ih _) ?_)
    dsimp only
    refine .ite ((takes_bits 2).map.after fun count => ?_)
      (.ite ((takes_bits 3).map.after fun count => ?_) ((takes_bits 7).map.after fun count => ?_))
    all_goals
      refine .ite ?_ ((Takes.pure 0).after fun repeated => .check (ih _))
      cases lengths with
      | nil => exact .corrupt_bind
      | cons last lengths => exact (Takes.pure last).after fun repeated => .check (ih _)

theorem takes_lengthLengths (count : Nat) :
    Takes (source.progress data) start 0 (lengthLengths count) := by
  refine (Takes.mapM fun symbol => ?_).after fun written => .pure _
  exact (takes_bits 3).after fun length => .pure _

theorem takes_codes : Takes (source.progress data) start 0 codes := by
  unfold codes
  refine (takes_bits 5).after fun literals => (takes_bits 5).after fun distances =>
    (takes_bits 4).after fun count => .check ?_
  refine (takes_lengthLengths _).after fun written => .check ?_
  refine (takes_codeLengths _ _ _ _).after fun lengths => .check ?_
  exact .check (.check (.pure _))

/-- Each block takes a bit. -/
theorem takes_blocks {steps : Nat} (h : 8 * data.size < start + steps) :
    Takes (source.progress data) start 0 (blocks steps) := by
  induction steps generalizing start with
  | zero => exact .starve (used_of_past (Nat.le_of_lt h))
  | succ steps ih =>
    have hrest : ∀ {next : Nat} (last : Nat), start < next →
        Takes (source.progress data) next 0 (if last = 0 then blocks steps else pure ()) :=
      fun last hnext => .ite (ih (by omega)) (.pure ())
    have hcoded : ∀ {next : Nat} (literals distances : PrefixCode), start < next →
        Takes (source.progress data) next 0 (coded literals distances (8 * data.size)) :=
      fun literals distances hnext => takes_coded literals distances (by omega)
    refine takes_bit.after fun last => (takes_bits 2).after fun kind => .get_bind fun s hs => ?_
    obtain rfl : s.data = data := hs.1
    dsimp only
    split
    · exact takes_stored.after fun _ => hrest last (by omega)
    · exact (hcoded _ _ (by omega)).after fun _ => hrest last (by omega)
    · exact takes_codes.after fun (literals, distances) =>
        (hcoded _ _ (by omega)).after fun _ => hrest last (by omega)
    · exact .corrupt_bind

end Inflating

/-- Inflating starves only where all of the data was taken. -/
theorem starved_of_inflate {data : ByteArray} {s : InflateState}
    (h : (Inflating.blocks (8 * data.size + 1)).run ⟨data, 0, .empty⟩ = .error .starved s) :
    data.size ≤ (s.bit + 7) / 8 := by
  have htakes : Takes (Inflating.source.progress data) 0 0 (Inflating.blocks (8 * data.size + 1)) :=
    Inflating.takes_blocks (by omega)
  exact htakes.used_of_run ⟨rfl, Nat.zero_le _⟩ h

/-! ## Undoing block sorting -/

namespace Unsorting

/-- The bits of block-sorted data. -/
def source : BitSource UnsortState where
  data := (·.data)
  bit := (·.bit)

variable {data : ByteArray} {start : Nat}

theorem takes_bit : Takes (source.progress data) start 1 bit :=
  takes_next (fun _ => rfl) fun _ => rfl

theorem takes_bits (width : Nat) : Takes (source.progress data) start width (bits width) := by
  have hafter : ∀ high start, Takes (source.progress data) start width (bitsAfter width high) := by
    induction width with
    | zero => exact fun high start => .pure high
    | succ width ih =>
      exact fun high start => (takes_bit.bind fun b => ih _ _).weaken (by omega)
  exact hafter 0 start

theorem takes_expect (bytes : List Nat) : Takes (source.progress data) start 0 (expect bytes) := by
  unfold expect
  induction bytes generalizing start with
  | nil => exact .pure ()
  | cons b bytes ih =>
    rw [List.forM]
    exact Takes.after ((takes_bits 8).after fun read => .ite .corrupt (.pure ())) fun _ => ih

theorem takes_symbol : Takes (source.progress data) start 1 symbol := by
  have hafter : ∀ symbols counts start code first index,
      Takes (source.progress data) start 0 (symbolAfter symbols counts code first index) := by
    intro symbols counts
    induction counts with
    | nil => exact fun _ _ _ _ => .corrupt
    | cons count counts ih =>
      intro start code first index
      exact takes_bit.after fun b => .ite (.pure _) (ih _ _ _ _)
  unfold symbol
  refine .get_bind fun s hs => ?_
  cases s.codes with
  | nil => exact .corrupt
  | cons code codes =>
    refine .change_bind (past_of_eq (fun s => ?_) fun s => ?_) ?_
    · split <;> rfl
    · split <;> rfl
    · cases code.counts with
      | nil => exact .corrupt
      | cons count counts =>
        exact takes_bit.bind fun b => .ite (.pure _) (hafter _ _ _ _ _ _)

/-- Each step towards a length takes a bit, so the bound is not reached here either. -/
theorem takes_codeLength {steps : Nat} (length : Nat) (h : 8 * data.size < start + steps) :
    Takes (source.progress data) start 0 (codeLength steps length) := by
  induction steps generalizing start length with
  | zero => exact .starve (used_of_past (Nat.le_of_lt h))
  | succ steps ih =>
    refine .check (takes_bit.after fun more => .ite (.pure _) (takes_bit.after fun less => ?_))
    exact .ite (ih _ (by omega)) (ih _ (by omega))

/-- As soon as one bit was taken, less than all of them are left. -/
theorem takes_codeLengths (count length : Nat) (h : 0 < start) :
    Takes (source.progress data) start 0 (codeLengths count length) := by
  induction count generalizing start length with
  | zero => exact .pure []
  | succ count ih =>
    unfold codeLengths
    refine .get_bind fun s hs => ?_
    obtain rfl : s.data = data := hs.1
    exact (takes_codeLength _ (by omega)).after fun length => (ih _ h).after fun lengths => .pure _

theorem takes_code (count : Nat) (h : 0 < start) :
    Takes (source.progress data) start 0 (code count) := by
  unfold code
  exact (takes_bits 5).after fun length =>
    (takes_codeLengths _ _ (by omega)).after fun lengths => .pure _

theorem takes_unary (count : Nat) : Takes (source.progress data) start 0 (unary count) := by
  induction count generalizing start with
  | zero => exact .corrupt
  | succ count ih =>
    exact takes_bit.after fun b => .ite (.pure 0) (ih.after fun rest => .pure _)

theorem takes_readCodes (symbolCount : Nat) :
    Takes (source.progress data) start 0 (readCodes symbolCount) := by
  unfold readCodes
  refine (takes_bits 3).after fun codeCount => .check ((takes_bits 15).after fun groupCount =>
    .check ?_)
  refine (Takes.mapM fun count => takes_unary count).after fun places => ?_
  refine (Takes.mapM fun count => takes_code count (by omega)).after fun codes => ?_
  exact .change (past_of_eq (fun _ => rfl) fun _ => rfl)

theorem takes_usedBytes : Takes (source.progress data) start 0 usedBytes := by
  unfold usedBytes
  refine (Takes.filterMapM fun row => takes_bit.after fun b => .pure _).after fun rows =>
    (Takes.mapM fun row => ?_).after fun used => .pure _
  exact .filterMapM fun column => takes_bit.after fun b => .pure _

/-- A block takes a bit for each symbol, so a bound above the number of bits is not reached. -/
theorem takes_column (last limit : Nat) {steps : Nat} (front : List UInt8) (run weight : Nat)
    (bytes : ByteArray) (h : 8 * data.size < start + steps) :
    Takes (source.progress data) start 0 (column last limit steps front run weight bytes) := by
  induction steps generalizing start front run weight bytes with
  | zero => exact .starve (used_of_past (Nat.le_of_lt h))
  | succ steps ih =>
    have hrest : ∀ front run weight bytes, Takes (source.progress data) (start + 1) 0
        (column last limit steps front run weight bytes) :=
      fun front run weight bytes => ih front run weight bytes (by omega)
    refine takes_symbol.after fun s => .ite (.check (hrest _ _ _ _)) (.check ?_)
    exact .ite (.pure _) (.check (hrest _ _ _ _))

/-- A block that is cut gives less than it has, which happens only where all bytes were taken. -/
theorem takes_emit (block : Block) (checksum : Nat) :
    Takes (source.progress data) start 0 (emit block checksum) := by
  unfold emit
  refine .get_bind fun s hs => ?_
  obtain rfl : s.data = data := hs.1
  dsimp only
  split
  · next hcut =>
    have htaken : s.data.size ≤ (s.bit + 7) / 8 := by
      unfold isCut at hcut
      simp only [Bool.and_eq_true, decide_eq_true_eq] at hcut
      exact hcut.1
    exact .set_starve htaken
  · exact .check (.change (past_of_eq (fun _ => rfl) fun _ => rfl))

theorem takes_block (limit : Nat) (h : 0 < start) :
    Takes (source.progress data) start 0 (block limit) := by
  unfold block
  refine (takes_bits 32).after fun checksum => takes_bit.after fun shuffled =>
    (takes_bits 24).after fun first => .check (takes_usedBytes.after fun used => .check ?_)
  refine (takes_readCodes _).after fun _ => .get_bind fun s hs => ?_
  obtain rfl : s.data = data := hs.1
  exact (takes_column _ _ _ _ _ _ (by omega)).after fun bytes => .check (takes_emit _ _)

/-- Each block takes a bit. -/
theorem takes_blocks (limit : Nat) {steps : Nat} (h : 8 * data.size < start + steps) :
    Takes (source.progress data) start 0 (blocks limit steps) := by
  induction steps generalizing start with
  | zero => exact .starve (used_of_past (Nat.le_of_lt h))
  | succ steps ih =>
    refine (takes_bits 8).after fun mark => ?_
    split
    · exact (takes_expect _).after fun _ => (takes_block limit (by omega)).after fun _ =>
        ih (by omega)
    · exact (takes_expect _).after fun _ => (takes_bits 32).after fun checksum =>
        .get_bind fun s hs => .ite .corrupt (.pure ())
    · exact .corrupt

theorem takes_all (data : ByteArray) : Takes (source.progress data) 0 0 all := by
  unfold all
  refine (takes_expect _).after fun _ => (takes_bits 8).after fun level => .check ?_
  refine .get_bind fun s hs => ?_
  obtain rfl : s.data = data := hs.1
  exact takes_blocks _ (by omega)

end Unsorting

/-- Undoing block sorting starves only where all of the data was taken. -/
theorem starved_of_unsort {data : ByteArray} {s : UnsortState}
    (h : Unsorting.all.run ⟨data, 0, .empty, 0, [], 0⟩ = .error .starved s) :
    data.size ≤ (s.bit + 7) / 8 :=
  (Unsorting.takes_all data).used_of_run ⟨rfl, Nat.zero_le _⟩ h

end JarLens.Archive
