import Ril.Ipc.FileFaults

/-! A range of a file that is read or written in chunks: the chunks, and the rounds they come in, do not matter. -/

namespace Ril.Ipc

variable {chunkSize : ℕ} {results : ℕ → ℤ} {fuel round : ℕ}

/-! ### The loops end -/

/-- The loop of `file_data_read` comes to an end: so many bytes are missing, and `file` is not read yet. -/
inductive ReadEnds (chunkSize : ℕ) (results : ℕ → ℤ) : ℕ → ℕ → Bytes → Option Bytes → Prop
  | complete {round : ℕ} {file : Bytes} : ReadEnds chunkSize results round 0 file (some [])
  | failed {round left : ℕ} {file : Bytes} : results round ≤ 0 → ReadEnds chunkSize results round (left + 1) file none
  | ended {round left : ℕ} {file : Bytes} :
      (file.take (min (results round).toNat (askedFor chunkSize (left + 1)))).length = 0 →
      ReadEnds chunkSize results round (left + 1) file none
  | more {round left : ℕ} {file data : Bytes} {result : Option Bytes} :
      data = file.take (min (results round).toNat (askedFor chunkSize (left + 1))) → 0 < data.length →
      ReadEnds chunkSize results (round + 1) (left + 1 - data.length) (file.drop data.length) result →
      ReadEnds chunkSize results round (left + 1) file (result.map (data ++ ·))

/-- The loop of `file_data_write` comes to an end. -/
inductive WriteEnds (chunkSize : ℕ) (results : ℕ → ℤ) : ℕ → Bytes → ℕ → Bytes → Bool × Bytes → Prop
  | complete {round position : ℕ} {data file : Bytes} : data.length = 0 →
      WriteEnds chunkSize results round data position file (true, file)
  | failed {round position : ℕ} {data file : Bytes} : data.length ≠ 0 → results round ≤ 0 →
      WriteEnds chunkSize results round data position file (false, file)
  | more {round position count : ℕ} {data file : Bytes} {result : Bool × Bytes} : data.length ≠ 0 → 0 < results round →
      count = min (results round).toNat (askedFor chunkSize data.length) →
      WriteEnds chunkSize results (round + 1) (data.drop count) (position + count)
        (overwrite file position (data.take count)) result →
      WriteEnds chunkSize results round data position file result

lemma read_rounds_end {left : ℕ} (file : Bytes) (hf : left ≤ fuel) :
    ReadEnds chunkSize results round left file (readRounds chunkSize results fuel round left file) := by
  induction fuel generalizing round left file with
  | zero =>
    obtain rfl : left = 0 := Nat.le_zero.mp hf
    rw [readRounds]
    exact .complete
  | succ fuel ih =>
    cases left with
    | zero =>
      rw [readRounds]
      exact .complete
    | succ left =>
      rw [readRounds]
      by_cases hr : results round ≤ 0
      · rw [if_pos hr]
        exact .failed hr
      · rw [if_neg hr]
        dsimp only
        split
        next h0 => exact .ended h0
        next h0 => exact .more rfl (Nat.pos_of_ne_zero h0) (ih _ (by omega))

lemma write_rounds_end (hc : 0 < chunkSize) {data : Bytes} (position : ℕ) (file : Bytes) (hf : data.length ≤ fuel) :
    WriteEnds chunkSize results round data position file (writeRounds chunkSize results fuel round data position file) := by
  induction fuel generalizing round data position file with
  | zero =>
    obtain rfl : data = [] := List.length_eq_zero_iff.mp (Nat.le_zero.mp hf)
    exact .complete rfl
  | succ fuel ih =>
    rw [writeRounds]
    by_cases hl : data.length = 0
    · rw [if_pos hl]
      exact .complete hl
    · rw [if_neg hl]
      by_cases hr : results round ≤ 0
      · rw [if_pos hr]
        exact .failed hl hr
      · rw [if_neg hr]
        have hasked : 0 < askedFor chunkSize data.length := asked_for_pos hc (Nat.pos_of_ne_zero hl)
        refine .more hl (not_le.mp hr) rfl (ih _ _ ?_)
        rw [List.length_drop]
        omega

/-! ### Ranges of a file -/

/-- The bytes of a range, if the file is there and has them -/
def bytesAt (file : Option Bytes) (offset size : ℕ) : Option Bytes :=
  file.bind fun bytes => if offset + size ≤ bytes.length then some ((bytes.drop offset).take size) else none

/-- The bytes from the offset on are the data, and no others have changed; a gap before them is filled with zeros. -/
structure Replaced (file : Bytes) (offset : ℕ) (data file' : Bytes) : Prop where
  length : file'.length = max file.length (offset + data.length)
  inside : ∀ i < data.length, file'[offset + i]? = data[i]?
  outside : ∀ i < file.length, (i < offset ∨ offset + data.length ≤ i) → file'[i]? = file[i]?
  gap : ∀ i, file.length ≤ i → i < offset → file'[i]? = some 0

lemma overwrite_replaced (file : Bytes) (offset : ℕ) {data : Bytes} (hd : data ≠ []) :
    Replaced file offset data (overwrite file offset data) := by
  have hpos : 0 < data.length := List.length_pos_iff.mpr hd
  have hfront : (file.take offset ++ List.replicate (offset - file.length) 0).length = offset := by
    rw [List.length_append, List.length_take, List.length_replicate]
    omega
  refine ⟨?_, fun i hi => ?_, fun i hi hrange => ?_, fun i hl hi => ?_⟩
  · simp only [overwrite, List.length_append, hfront, List.length_drop]
    omega
  · rw [overwrite, List.append_assoc, List.getElem?_append_right (by omega), hfront, Nat.add_sub_cancel_left,
      List.getElem?_append_left hi]
  · rw [overwrite]
    rcases hrange with hbefore | hbehind
    · rw [List.append_assoc, List.append_assoc, List.getElem?_append_left (by rw [List.length_take]; omega),
        List.getElem?_take_of_lt hbefore]
    · rw [List.getElem?_append_right (by rw [List.length_append, hfront]; omega), List.length_append, hfront,
        List.getElem?_drop, Nat.add_sub_cancel' hbehind]
  · rw [overwrite, List.append_assoc, List.append_assoc, List.getElem?_append_right (by rw [List.length_take]; omega),
      List.length_take, Nat.min_eq_right (by omega : file.length ≤ offset), List.getElem?_append_left
        (by rw [List.length_replicate]; omega), List.getElem?_replicate_of_lt (by omega)]

/-! ### Reads and writes of a range -/

section

variable {π : Type} [DecidableEq π] {files : Files π} {path : π} {calls calls' : FileCalls} {offBits offset size : ℕ}

/-- A write that returns 0 has put all of the data into the file. -/
lemma write_with_true {data : Bytes} (hc : 0 < chunkSize)
    (h : (fileDataWriteWith calls offBits files path data chunkSize offset).1 = true) :
    (fileDataWriteWith calls offBits files path data chunkSize offset).2 =
      Function.update files path (some (overwrite ((files path).getD []) (seekPosition offBits offset) data)) := by
  rw [fileDataWriteWith] at h ⊢
  by_cases hbad : data.length = 0 ∨ chunkSize = 0 ∨ chunkSize > data.length
  · rw [if_pos hbad] at h
    cases h
  rw [if_neg hbad] at h ⊢
  cases ho : calls.opened with
  | false =>
    rw [ho] at h
    cases h
  | true =>
    rw [ho] at h
    simp only [Bool.not_true, Bool.false_eq_true, if_false] at h ⊢
    cases hk : seekFails calls offBits offset with
    | true =>
      rw [hk] at h
      cases h
    | false =>
      simp only [hk, Bool.false_eq_true, if_false] at h ⊢
      rw [write_rounds_eq hc _ _ (Nat.le_refl _)] at h ⊢
      have hall : transferLoop chunkSize calls.results data.length 0 data.length = data.length := of_decide_eq_true h
      dsimp only
      rw [hall, if_neg (by omega), List.take_of_length_le (Nat.le_refl _)]

omit [DecidableEq π] in
/-- Short reads get the bytes at the position that was sought. -/
lemma short_reads (h : calls.Succeed) (hs : 0 < size) (hc : 0 < chunkSize) (hle : chunkSize ≤ size) :
    fileDataReadWith calls offBits files path size chunkSize offset =
      bytesAt (files path) (seekPosition offBits offset) size := by
  rw [read_with_succeeds h, bytesAt]
  cases hf : files path with
  | none => rw [fileDataRead, if_neg (by omega), hf, Option.bind_none]
  | some file => rw [file_data_read_eq hf hs hc hle, Option.bind_some]

lemma short_writes {data : Bytes} (h : calls.Succeed) (hc : 0 < chunkSize) (hle : chunkSize ≤ data.length) :
    fileDataWriteWith calls offBits files path data chunkSize offset =
      (true, Function.update files path (some (overwrite ((files path).getD []) (seekPosition offBits offset) data))) := by
  have hd : data ≠ [] := List.ne_nil_of_length_pos (by omega)
  rw [write_with_succeeds h, file_data_write_eq hd hc hle, Option.elim_some]

end

/-- What a range is read and written for, at an offset and a width of `off_t`: the bytes at the offset, in any chunks
and any short rounds, and loops that end. -/
structure ChunkedAccess (offBits offset : ℕ) : Prop where
  read : ∀ (π : Type) (calls : FileCalls) (files : Files π) (path : π) (size chunkSize : ℕ), calls.Succeed →
    1 ≤ chunkSize → chunkSize ≤ size →
    fileDataReadWith calls offBits files path size chunkSize offset = bytesAt (files path) offset size
  write : ∀ (π : Type) [DecidableEq π] (calls : FileCalls) (files : Files π) (path : π) (data : Bytes) (chunkSize : ℕ),
    1 ≤ chunkSize → chunkSize ≤ data.length →
    (fileDataWriteWith calls offBits files path data chunkSize offset).1 = true →
    ∃ file', Replaced ((files path).getD []) offset data file' ∧
      (fileDataWriteWith calls offBits files path data chunkSize offset).2 = Function.update files path (some file')
  succeeds : ∀ (π : Type) [DecidableEq π] (calls : FileCalls) (files : Files π) (path : π) (data : Bytes)
    (chunkSize : ℕ), calls.Succeed → 1 ≤ chunkSize → chunkSize ≤ data.length →
    (fileDataWriteWith calls offBits files path data chunkSize offset).1 = true
  sameRead : ∀ (π : Type) (calls calls' : FileCalls) (files : Files π) (path : π) (size chunkSize chunkSize' : ℕ),
    calls.Succeed → calls'.Succeed → 1 ≤ chunkSize → chunkSize ≤ size → 1 ≤ chunkSize' → chunkSize' ≤ size →
    fileDataReadWith calls offBits files path size chunkSize offset =
      fileDataReadWith calls' offBits files path size chunkSize' offset
  sameWrite : ∀ (π : Type) [DecidableEq π] (calls calls' : FileCalls) (files : Files π) (path : π) (data : Bytes)
    (chunkSize chunkSize' : ℕ), calls.Succeed → calls'.Succeed → 1 ≤ chunkSize → chunkSize ≤ data.length →
    1 ≤ chunkSize' → chunkSize' ≤ data.length →
    fileDataWriteWith calls offBits files path data chunkSize offset =
      fileDataWriteWith calls' offBits files path data chunkSize' offset
  readEnds : ∀ (results : ℕ → ℤ) (size chunkSize : ℕ) (file : Bytes), 1 ≤ chunkSize →
    ReadEnds chunkSize results 0 size file (readRounds chunkSize results size 0 size file)
  writeEnds : ∀ (results : ℕ → ℤ) (data file : Bytes) (chunkSize position : ℕ), 1 ≤ chunkSize →
    WriteEnds chunkSize results 0 data position file (writeRounds chunkSize results data.length 0 data position file)

/-- An offset that is not negative as an `off_t` -/
lemma chunked_access {offBits offset : ℕ} (h : offset < 2 ^ (offBits - 1)) : ChunkedAccess offBits offset := by
  have hseek : seekPosition offBits offset = offset := by rw [seekPosition, if_pos h]
  constructor
  case read =>
    intro π calls files path size chunkSize hcalls hc hle
    rw [short_reads hcalls (by omega) hc hle, hseek]
  case write =>
    intro π _ calls files path data chunkSize hc hle htrue
    have hd : data ≠ [] := List.ne_nil_of_length_pos (by omega)
    exact ⟨_, overwrite_replaced _ offset hd, by rw [write_with_true hc htrue, hseek]⟩
  case succeeds =>
    intro π _ calls files path data chunkSize hcalls hc hle
    rw [short_writes hcalls hc hle]
  case sameRead =>
    intro π calls calls' files path size chunkSize chunkSize' hcalls hcalls' hc hle hc' hle'
    rw [short_reads hcalls (by omega) hc hle, short_reads hcalls' (by omega) hc' hle']
  case sameWrite =>
    intro π _ calls calls' files path data chunkSize chunkSize' hcalls hcalls' hc hle hc' hle'
    rw [short_writes hcalls hc hle, short_writes hcalls' hc' hle']
  case readEnds => exact fun results size chunkSize file _ => read_rounds_end file (Nat.le_refl _)
  case writeEnds => exact fun results data file chunkSize position hc => write_rounds_end hc position file (Nat.le_refl _)

/-- System calls that transfer as much as they are asked to -/
def wholeCalls : FileCalls := ⟨true, true, fun _ => 2 ^ 31 - 1⟩

lemma whole_calls_succeed : wholeCalls.Succeed := ⟨rfl, rfl, fun _ => (by decide : (0 : ℤ) < 2 ^ 31 - 1)⟩

/-- A range is read and written as it should be exactly where the offset is not negative as an `off_t`. -/
theorem chunked_access_iff (offBits offset : ℕ) : ChunkedAccess offBits offset ↔ offset < 2 ^ (offBits - 1) := by
  refine ⟨fun h => ?_, chunked_access⟩
  by_contra hneg
  -- the first byte of a file is read, where the file has none at the offset
  have hpos : 0 < 2 ^ (offBits - 1) := Nat.two_pow_pos _
  have hread := h.read Unit wholeCalls (fun _ => some [0]) () 1 1 whole_calls_succeed (Nat.le_refl _) (Nat.le_refl _)
  rw [short_reads whole_calls_succeed Nat.one_pos Nat.one_pos (Nat.le_refl _), seekPosition, if_neg hneg, bytesAt,
    bytesAt, Option.bind_some, Option.bind_some, if_pos (by simp), if_neg (by simp; omega)] at hread
  cases hread

/-- With an `off_t` of 32 bits the offset 2^31 reads and writes the first byte of a file. -/
theorem chunked_access_fails : ¬ChunkedAccess 32 (2 ^ 31) ∧
    fileDataReadWith wholeCalls 32 (fun _ : Unit => some [7, 8]) () 1 1 (2 ^ 31) = some [7] ∧
    fileDataWriteWith wholeCalls 32 (fun _ : Unit => some [7, 8]) () [9] 1 (2 ^ 31) =
      (true, Function.update (fun _ => some [7, 8]) () (some [9, 8])) := by
  have hread : fileDataReadWith wholeCalls 32 (fun _ : Unit => some [7, 8]) () 1 1 (2 ^ 31) = some [7] := by
    rw [short_reads whole_calls_succeed Nat.one_pos Nat.one_pos (Nat.le_refl _)]
    rfl
  refine ⟨fun h => ?_, hread, ?_⟩
  · have hnone := h.read Unit wholeCalls (fun _ => some [7, 8]) () 1 1 whole_calls_succeed (Nat.le_refl _) (Nat.le_refl _)
    rw [hread] at hnone
    cases hnone
  · rw [short_writes whole_calls_succeed Nat.one_pos (Nat.le_refl _)]
    rfl

end Ril.Ipc
