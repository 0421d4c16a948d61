import JarLens.Archive.Directory
import JarLens.Proofs.Failing

/-!
# Archives that are not read

Most of what can be wrong with an archive is that its bytes contradict the format. Two faults are
not of that kind: a member may need a later version of the format, and a name may be marked as UTF-8
and be none. `ofBytes_eq_error_iff` tells where they come from: the reading of the directory goes
from record to record, and comes to one with such a fault while all records before it are fine.
-/

namespace JarLens

namespace Archive

/-! ## Faults that contradict the format -/

/-- The fault contradicts the format. -/
abbrev Contradicts (fault : OpenFault) : Prop :=
  fault.isMalformed = true

theorem failsOnly_takeWide (field : WideField) (data : ByteArray) :
    FailsOnly Contradicts (takeWide field data) :=
  .ite (.throw rfl) (.pure _)

theorem failsOnly_widen (e : Extent) (data : ByteArray) : FailsOnly Contradicts (e.widen data) := by
  have htaken : ∀ {α : Type} {c : Prop} [Decidable c] {field : WideField} {n : Nat}
      {data : ByteArray} {rest : Nat × ByteArray → Except OpenFault α},
      (∀ x, FailsOnly Contradicts (rest x)) →
        FailsOnly Contradicts
          (if c then takeWide field data >>= rest else pure (n, data) >>= rest) :=
    fun hrest => .ite (.bind (failsOnly_takeWide _ _) hrest) (.bind (.pure _) hrest)
  unfold Extent.widen
  exact htaken fun _ => htaken fun _ => htaken fun _ => .pure _

theorem failsOnly_applyExtras (extras : ByteArray) (steps i : Nat) (e : Extent) :
    FailsOnly Contradicts (e.applyExtras extras steps i) := by
  induction steps generalizing i e with
  | zero => exact .pure e
  | succ steps ih =>
    rw [Extent.applyExtras]
    refine .ite (.pure e) (.ite (.throw rfl) (.ite ?_ ?_))
    · exact .bind (failsOnly_widen e _) fun e => ih _ e
    · exact .bind (.pure e) fun e => ih _ e

/-- Looking for the end record fails only where the bytes contradict the format. -/
theorem failsOnly_endRecord (bytes : ByteArray) :
    FailsOnly Contradicts (EndRecord.ofBytes bytes) := by
  unfold EndRecord.ofBytes
  cases endPlace? bytes with
  | none => exact .throw rfl
  | some place =>
    refine .ite (.pure _) (.ite (.pure _) (.check rfl (.check rfl (.ite (.pure _) (.pure _)))))

/-! ## Records -/

/-- There is a directory record at a position. -/
structure HasRecord (directory : ByteArray) (i : Nat) : Prop where
  whole : i + recordLength ≤ directory.size
  signature : hasSignature directory i 1 2 = true

theorem HasRecord.lt_size {directory : ByteArray} {i : Nat} (h : HasRecord directory i) :
    i < directory.size :=
  Nat.lt_of_lt_of_le (Nat.lt_add_of_pos_right (by decide)) h.whole

/-- The name that the record at a position gives. -/
def recordName (directory : ByteArray) (i : Nat) : Except Text.Utf8Fault Text :=
  nameText? (numberAt directory 2 (i + 8))
    (slice directory (i + recordLength) (numberAt directory 2 (i + 28)))

/-- What a record comes to once its name is known. -/
def recordRest (directory : ByteArray) (shift : Int) (i : Nat) (name : Text) :
    Except OpenFault (Member × Nat) := do
  let nameLength := numberAt directory 2 (i + 28)
  let extraLength := numberAt directory 2 (i + 30)
  let extras := slice directory (i + recordLength + nameLength) extraLength
  let extent ← Extent.applyExtras extras (extras.size / 4 + 1) 0
    { size := numberAt directory 4 (i + 24)
      compressedSize := numberAt directory 4 (i + 20)
      offset := numberAt directory 4 (i + 42) }
  pure
    ({ storedName := name, flags := numberAt directory 2 (i + 8)
       method := numberAt directory 2 (i + 10), checksum := numberAt directory 4 (i + 16)
       compressedSize := extent.compressedSize, size := extent.size
       attributes := numberAt directory 4 (i + 38), offset := extent.offset + shift, limit := 0 },
     recordLength + nameLength + extraLength + numberAt directory 2 (i + 32))

/-- The record at a position does not contradict the format, but it is not read. -/
inductive IsUnread (directory : ByteArray) (i : Nat) : OpenFault → Prop
  | name {fault} (hrecord : HasRecord directory i) (hname : recordName directory i = .error fault) :
      IsUnread directory i (.nameEncoding fault)
  | version {name} (hrecord : HasRecord directory i) (hname : recordName directory i = .ok name)
      (hlater : greatestVersion < byteAt directory (i + 6)) :
      IsUnread directory i (.version (byteAt directory (i + 6)))

theorem IsUnread.hasRecord {directory : ByteArray} {i : Nat} {fault : OpenFault}
    (h : IsUnread directory i fault) : HasRecord directory i := by
  cases h with
  | name hrecord => exact hrecord
  | version hrecord => exact hrecord

/-- A record that is not read does not contradict the format. -/
theorem IsUnread.isMalformed_eq {directory : ByteArray} {i : Nat} {fault : OpenFault}
    (h : IsUnread directory i fault) : fault.isMalformed = false := by
  cases h with
  | name => rfl
  | version => rfl

section Records

variable {directory : ByteArray} {shift : Int} {i j steps : Nat} {fault : OpenFault}

/-- Where there is no record, the format is contradicted. -/
theorem hasRecord_of_ofRecord (shift : Int)
    (h : ∀ fault, Member.ofRecord directory shift i = .error fault → fault.isMalformed = false) :
    HasRecord directory i := by
  unfold Member.ofRecord at h
  dsimp only at h
  split at h
  · cases h _ rfl
  · next hwhole =>
    split at h
    · cases h _ rfl
    · next hsignature => exact ⟨Nat.le_of_not_lt hwhole, by simpa using hsignature⟩

theorem failsOnly_recordRest (directory : ByteArray) (shift : Int) (i : Nat) (name : Text) :
    FailsOnly Contradicts (recordRest directory shift i name) :=
  .bind (failsOnly_applyExtras _ _ _ _) fun _ => .pure _

/-- A whole record is read by its name, its version, and then the rest. -/
theorem HasRecord.ofRecord_eq (h : HasRecord directory i) (shift : Int) :
    Member.ofRecord directory shift i =
      (recordName directory i).mapError .nameEncoding >>= fun name =>
        if greatestVersion < byteAt directory (i + 6) then
          .error (.version (byteAt directory (i + 6)))
        else recordRest directory shift i name := by
  unfold Member.ofRecord
  dsimp only
  rw [if_neg (Nat.not_lt.2 h.whole), if_neg (by simp [h.signature])]
  rfl

/-- A record fails otherwise exactly by its name or its version. -/
theorem ofRecord_eq_error_iff (hfault : fault.isMalformed = false) :
    Member.ofRecord directory shift i = .error fault ↔ IsUnread directory i fault := by
  constructor
  · intro h
    have hrecord : HasRecord directory i := by
      refine hasRecord_of_ofRecord shift fun other hother => ?_
      rw [h] at hother
      cases hother
      exact hfault
    rw [hrecord.ofRecord_eq] at h
    cases hname : recordName directory i with
    | error wrong =>
      rw [hname] at h
      cases h
      exact .name hrecord hname
    | ok name =>
      rw [hname] at h
      change (if _ then _ else _) = _ at h
      split at h
      · next hlater =>
        cases h
        exact .version hrecord hname hlater
      · have hmalformed : fault.isMalformed = true := failsOnly_recordRest _ _ _ _ fault h
        rw [hfault] at hmalformed
        cases hmalformed
  · intro h
    cases h with
    | name hrecord hname =>
      rw [hrecord.ofRecord_eq, hname]
      rfl
    | version hrecord hname hlater =>
      rw [hrecord.ofRecord_eq, hname]
      exact if_pos hlater

theorem recordLength_le_of_ofRecord {member : Member} {length : Nat}
    (h : Member.ofRecord directory shift i = .ok (member, length)) : recordLength ≤ length := by
  have hrecord : HasRecord directory i := by
    refine hasRecord_of_ofRecord shift fun fault hfault => ?_
    rw [h] at hfault
    cases hfault
  rw [hrecord.ofRecord_eq] at h
  obtain ⟨name, -, h⟩ := exists_of_bind_eq_ok h
  split at h
  · cases h
  · obtain ⟨extent, -, h⟩ := exists_of_bind_eq_ok h
    cases h
    omega

end Records

/-! ## The whole directory -/

/-- The reading of a directory goes from one position to another, and all records on the way are
fine. -/
inductive ReadsTo (directory : ByteArray) (shift : Int) : Nat → Nat → Prop
  | here (i) : ReadsTo directory shift i i
  | next {i j member length} (hrecord : Member.ofRecord directory shift i = .ok (member, length))
      (h : ReadsTo directory shift (i + length) j) : ReadsTo directory shift i j

section Directories

variable {bytes directory : ByteArray} {shift : Int} {i j steps : Nat} {fault : OpenFault}

theorem ReadsTo.le (h : ReadsTo directory shift i j) : i ≤ j := by
  induction h with
  | here i => exact Nat.le_refl i
  | next _ _ ih => exact Nat.le_trans (Nat.le_add_right _ _) ih

/-- Reading a directory fails with what the record comes to that it stops at: by induction on the
steps, of which there are enough since every record takes some bytes. -/
theorem membersFrom_eq_error_iff (hsteps : directory.size ≤ i + steps) :
    membersFrom directory shift steps i = .error fault ↔
      ∃ j < directory.size, ReadsTo directory shift i j ∧
        Member.ofRecord directory shift j = .error fault := by
  have hend : ∀ {i}, directory.size ≤ i → ¬∃ j < directory.size, ReadsTo directory shift i j ∧
      Member.ofRecord directory shift j = .error fault := by
    rintro i hsize ⟨j, hj, hreads, -⟩
    exact absurd (Nat.le_trans hsize hreads.le) (Nat.not_le.2 hj)
  induction steps generalizing i with
  | zero => exact iff_of_false (fun h => by cases h) (hend hsteps)
  | succ steps ih =>
    rw [membersFrom]
    by_cases hsize : directory.size ≤ i
    · rw [if_pos hsize]
      exact iff_of_false (fun h => by cases h) (hend hsize)
    rw [if_neg hsize]
    cases hrecord : Member.ofRecord directory shift i with
    | error other =>
      constructor
      · intro h
        cases h
        exact ⟨i, Nat.lt_of_not_le hsize, .here i, hrecord⟩
      · rintro ⟨j, -, hreads, hfails⟩
        cases hreads with
        | here =>
          rw [hrecord] at hfails
          cases hfails
          rfl
        | next hnext =>
          rw [hrecord] at hnext
          cases hnext
    | ok result =>
      obtain ⟨member, length⟩ := result
      -- The record takes at least a step's worth of bytes, so the steps left are enough.
      have hlength : 46 ≤ length := recordLength_le_of_ofRecord hrecord
      have hrest := ih (i := i + length) (by omega)
      constructor
      · intro h
        obtain ⟨j, hj, hreads, hfails⟩ := hrest.1 (eq_error_of_bind_pure h)
        exact ⟨j, hj, .next hrecord hreads, hfails⟩
      · rintro ⟨j, hj, hreads, hfails⟩
        cases hreads with
        | here =>
          rw [hrecord] at hfails
          cases hfails
        | next hnext hreads =>
          rw [hrecord] at hnext
          cases hnext
          simp only [bind, Except.bind, hrest.2 ⟨j, hj, hreads, hfails⟩]

/-- The directory that an archive's end record tells of, and how much farther back everything lies
than the offsets in it say. -/
inductive HasDirectory (bytes : ByteArray) : ByteArray → Int → Prop
  | intro {last : EndRecord} {start : Nat} (hlast : EndRecord.ofBytes bytes = .ok last)
      (hstart : (last.place : Int) - last.size - last.between = start) :
      HasDirectory bytes (slice bytes start last.size) (start - last.offset)

/-- With a directory in place the archive is read record by record. -/
theorem HasDirectory.ofBytes_eq (h : HasDirectory bytes directory shift) (limit : Nat) :
    ∃ start : Nat,
    ofBytes limit bytes = membersFrom directory shift directory.size 0 >>= fun members =>
      pure { bytes, members := setLimits start members, positionLimit := limit } := by
  cases h with
  | @intro last start hlast hstart =>
    refine ⟨start, ?_⟩
    unfold ofBytes
    simp only [hlast, bind, Except.bind, hstart]
    rw [if_neg (by omega)]
    rfl

/-- An archive is not read although its bytes do not contradict the format exactly if reading its
directory comes to such a record. -/
theorem ofBytes_eq_error_iff (limit : Nat) (hfault : fault.isMalformed = false) :
    ofBytes limit bytes = .error fault ↔ ∃ directory shift i,
      HasDirectory bytes directory shift ∧ ReadsTo directory shift 0 i ∧
        IsUnread directory i fault := by
  constructor
  · intro h
    cases hlast : EndRecord.ofBytes bytes with
    | error other =>
      unfold ofBytes at h
      rw [hlast] at h
      cases h
      have hmalformed : fault.isMalformed = true := failsOnly_endRecord bytes fault hlast
      rw [hfault] at hmalformed
      cases hmalformed
    | ok last =>
      -- A directory that would start before the first byte contradicts the format.
      by_cases hstart : (last.place : Int) - last.size - last.between < 0
      · unfold ofBytes at h
        simp only [hlast, bind, Except.bind, if_pos hstart] at h
        cases h
        cases hfault
      · obtain ⟨start, hstart⟩ := Int.eq_ofNat_of_zero_le (Int.not_lt.1 hstart)
        have hdirectory : HasDirectory bytes _ _ := .intro hlast hstart
        obtain ⟨first, hbytes⟩ := hdirectory.ofBytes_eq limit
        rw [hbytes] at h
        obtain ⟨i, -, hreads, hrecord⟩ :=
          (membersFrom_eq_error_iff (Nat.le_add_left _ 0)).1 (eq_error_of_bind_pure h)
        exact ⟨_, _, i, hdirectory, hreads, (ofRecord_eq_error_iff hfault).1 hrecord⟩
  · rintro ⟨directory, shift, i, hdirectory, hreads, hunread⟩
    obtain ⟨first, hbytes⟩ := hdirectory.ofBytes_eq limit
    have hsize : i < directory.size := hunread.hasRecord.lt_size
    have hmembers := (membersFrom_eq_error_iff (Nat.le_add_left _ 0)).2
      ⟨i, hsize, hreads, (ofRecord_eq_error_iff hfault).2 hunread⟩
    rw [hbytes, hmembers]
    rfl

end Directories

end Archive

end JarLens
