import Ril.Ipc.Files

/-! The same reads and writes of files where every system call may fail, or transfer less than it was asked to. -/

namespace Ril.Ipc

/-- What the operating system does in one use of a file: whether `open` and `lseek` succeed, and what the `read` or
`write` of each round returns, where it is not more than was asked for. -/
structure FileCalls where
  opened : Bool
  seeked : Bool
  results : ℕ → ℤ

/-- What a round asks for -/
def askedFor (chunkSize left : ℕ) : ℕ := if left > chunkSize then chunkSize else left

/-- The bytes that pass before the first round that fails -/
def transferLoop (chunkSize : ℕ) (results : ℕ → ℤ) : ℕ → ℕ → ℕ → ℕ
  | 0, _, _ => 0
  | fuel + 1, round, left =>
    if left = 0 then 0
    else if results round ≤ 0 then 0
    else
      let count := min (results round).toNat (askedFor chunkSize left)
      count + transferLoop chunkSize results fuel (round + 1) (left - count)

/-- The loop of `file_data_write` -/
def writeRounds (chunkSize : ℕ) (results : ℕ → ℤ) : ℕ → ℕ → Bytes → ℕ → Bytes → Bool × Bytes
  | 0, _, data, _, file => (data.isEmpty, file)
  | fuel + 1, round, data, position, file =>
    if data.length = 0 then (true, file)
    else if results round ≤ 0 then (false, file)
    else
      let count := min (results round).toNat (askedFor chunkSize data.length)
      writeRounds chunkSize results fuel (round + 1) (data.drop count) (position + count)
        (overwrite file position (data.take count))

/-- The loop of `file_data_read` from what is left of the file; at its end `read` returns 0. -/
def readRounds (chunkSize : ℕ) (results : ℕ → ℤ) : ℕ → ℕ → ℕ → Bytes → Option Bytes
  | _, _, 0, _ => some []
  | 0, _, _ + 1, _ => none
  | fuel + 1, round, count + 1, file =>
    if results round ≤ 0 then none
    else
      let data := file.take (min (results round).toNat (askedFor chunkSize (count + 1)))
      if data.length = 0 then none
      else (readRounds chunkSize results fuel (round + 1) (count + 1 - data.length)
        (file.drop data.length)).map (data ++ ·)

/-- A failed `lseek` returns -1, which is not less than an offset that is negative as an `off_t`. -/
def seekFails (calls : FileCalls) (offBits offset : ℕ) : Bool := !calls.seeked && decide (offset < 2 ^ (offBits - 1))

/-- How many bytes a read or a write of a file transfers -/
def FileCalls.count (calls : FileCalls) (offBits offset chunkSize size : ℕ) : ℕ :=
  if calls.opened && !seekFails calls offBits offset then transferLoop chunkSize calls.results size 0 size else 0

section

variable {π : Type} [DecidableEq π]

def fileDataReadWith (calls : FileCalls) (offBits : ℕ) (files : Files π) (path : π) (size chunkSize offset : ℕ) :
    Option Bytes :=
  if size = 0 ∨ chunkSize = 0 ∨ chunkSize > size then none
  else
    match files path with
    | none => none
    | some file =>
      if !calls.opened then none
      else if seekFails calls offBits offset then none
      else readRounds chunkSize calls.results size 0 size (file.drop (seekPosition offBits offset))

/-- `open` has created the file when a later call fails. -/
def fileDataWriteWith (calls : FileCalls) (offBits : ℕ) (files : Files π) (path : π) (data : Bytes)
    (chunkSize offset : ℕ) : Bool × Files π :=
  if data.length = 0 ∨ chunkSize = 0 ∨ chunkSize > data.length then (false, files)
  else if !calls.opened then (false, files)
  else
    let file := (files path).getD []
    if seekFails calls offBits offset then (false, Function.update files path (some file))
    else
      let result := writeRounds chunkSize calls.results data.length 0 data (seekPosition offBits offset) file
      (result.1, Function.update files path (some result.2))

end

/-! ### How far a use of a file comes -/

variable {chunkSize : ℕ} {results : ℕ → ℤ} {fuel round : ℕ}

lemma asked_for_pos {left : ℕ} (hc : 0 < chunkSize) (hl : 0 < left) : 0 < askedFor chunkSize left := by
  rw [askedFor]
  split <;> omega

lemma asked_for_le (chunkSize left : ℕ) : askedFor chunkSize left ≤ left := by
  rw [askedFor]
  split <;> omega

lemma transfer_loop_le {left : ℕ} : transferLoop chunkSize results fuel round left ≤ left := by
  induction fuel generalizing round left with
  | zero => simp [transferLoop]
  | succ fuel ih =>
    have ha := asked_for_le chunkSize left
    have h := @ih (round + 1) (left - min (results round).toNat (askedFor chunkSize left))
    simp only [transferLoop]
    split_ifs <;> omega

lemma transfer_loop_all (hc : 0 < chunkSize) (hr : ∀ k, 0 < results k) {left : ℕ} (hf : left ≤ fuel) :
    transferLoop chunkSize results fuel round left = left := by
  induction fuel generalizing round left with
  | zero =>
    simp only [transferLoop]
    omega
  | succ fuel ih =>
    have ha := asked_for_le chunkSize left
    have h0 := hr round
    simp only [transferLoop]
    by_cases hl : left = 0
    · rw [if_pos hl, hl]
    · have hp : 0 < askedFor chunkSize left := asked_for_pos hc (by omega)
      rw [if_neg hl, if_neg (by omega), ih (by omega)]
      omega

/-- The loop of a write puts the bytes that are transferred into the file, and succeeds when these are all. -/
lemma write_rounds_eq (hc : 0 < chunkSize) {data : Bytes} (position : ℕ) (file : Bytes) (hf : data.length ≤ fuel) :
    writeRounds chunkSize results fuel round data position file =
      (decide (transferLoop chunkSize results fuel round data.length = data.length),
        if transferLoop chunkSize results fuel round data.length = 0 then file
        else overwrite file position (data.take (transferLoop chunkSize results fuel round data.length))) := by
  induction fuel generalizing round data position file with
  | zero =>
    obtain rfl : data = [] := List.length_eq_zero_iff.mp (by omega)
    simp [writeRounds, transferLoop]
  | succ fuel ih =>
    simp only [writeRounds, transferLoop]
    by_cases hl : data.length = 0
    · simp [hl]
    · rw [if_neg hl, if_neg hl]
      by_cases hr : results round ≤ 0
      · rw [if_pos hr, if_pos hr, decide_eq_false (by omega), if_pos rfl]
      · rw [if_neg hr, if_neg hr]
        have ha := asked_for_le chunkSize data.length
        have hp : 0 < askedFor chunkSize data.length := asked_for_pos hc (by omega)
        set count := min (results round).toNat (askedFor chunkSize data.length) with hcount
        have hle : count ≤ data.length := by omega
        have htake : (data.take count).length = count := by
          rw [List.length_take]
          omega
        rw [ih _ _ (by rw [List.length_drop]; omega), List.length_drop]
        set more := transferLoop chunkSize results fuel (round + 1) (data.length - count) with hmore
        have hmle : more ≤ data.length - count := transfer_loop_le
        have hover : overwrite (overwrite file position (data.take count)) (position + count)
            ((data.drop count).take more) = overwrite file position (data.take (count + more)) := by
          have h := overwrite_append file (data.take count) ((data.drop count).take more) position
          rwa [htake, ← List.take_add] at h
        refine Prod.ext ?_ ?_
        · exact decide_eq_decide.mpr (by omega)
        · dsimp only
          rw [if_neg (show count + more ≠ 0 by omega)]
          by_cases hm : more = 0
          · rw [if_pos hm, hm, Nat.add_zero]
          · rw [if_neg hm, hover]

/-- The loop of a read gets what it was asked for when everything is transferred and is there. -/
lemma read_rounds_eq (hc : 0 < chunkSize) {count : ℕ} (file : Bytes) (hf : count ≤ fuel) (hl : count ≤ file.length) :
    readRounds chunkSize results fuel round count file =
      if transferLoop chunkSize results fuel round count = count then some (file.take count) else none := by
  induction fuel generalizing round count file with
  | zero =>
    obtain rfl : count = 0 := by omega
    simp [readRounds, transferLoop]
  | succ fuel ih =>
    cases count with
    | zero => simp [readRounds, transferLoop]
    | succ left =>
      simp only [readRounds, transferLoop]
      rw [if_neg (Nat.succ_ne_zero left)]
      by_cases hr : results round ≤ 0
      · rw [if_pos hr, if_pos hr, if_neg (by omega)]
      · rw [if_neg hr, if_neg hr]
        have ha := asked_for_le chunkSize (left + 1)
        have hp : 0 < askedFor chunkSize (left + 1) := asked_for_pos hc (by omega)
        set taken := min (results round).toNat (askedFor chunkSize (left + 1)) with htaken
        have hlen : (file.take taken).length = taken := by
          rw [List.length_take]
          omega
        rw [hlen, if_neg (by omega), ih _ (by omega) (by rw [List.length_drop]; omega)]
        have hmle : transferLoop chunkSize results fuel (round + 1) (left + 1 - taken) ≤ left + 1 - taken := transfer_loop_le
        by_cases hm : transferLoop chunkSize results fuel (round + 1) (left + 1 - taken) = left + 1 - taken
        · rw [if_pos hm, if_pos (by omega), Option.map_some, ← List.take_add, show taken + (left + 1 - taken) = left + 1 by omega]
        · rw [if_neg hm, if_neg (by omega), Option.map_none]

section

variable {π : Type} [DecidableEq π] {files : Files π} {path : π} {calls : FileCalls} {offBits offset size : ℕ}

lemma count_le : calls.count offBits offset chunkSize size ≤ size := by
  rw [FileCalls.count]
  split
  · exact transfer_loop_le
  · exact Nat.zero_le _

omit [DecidableEq π] in
lemma read_with_eq {file : Bytes} (hf : files path = some file) (hs : 0 < size) (hc : 0 < chunkSize)
    (hle : chunkSize ≤ size) (hl : seekPosition offBits offset + size ≤ file.length) :
    fileDataReadWith calls offBits files path size chunkSize offset =
      if calls.count offBits offset chunkSize size = size then
        some ((file.drop (seekPosition offBits offset)).take size)
      else none := by
  rw [fileDataReadWith, if_neg (by omega), hf]
  dsimp only
  rw [FileCalls.count]
  cases ho : calls.opened with
  | false =>
    simp only [Bool.not_false, if_true, Bool.false_and, Bool.false_eq_true, if_false]
    rw [if_neg (by omega)]
  | true =>
    cases hk : seekFails calls offBits offset with
    | true =>
      simp only [Bool.not_true, Bool.false_eq_true, if_false, if_true, Bool.and_false]
      rw [if_neg (by omega)]
    | false =>
      simp only [Bool.not_true, Bool.false_eq_true, if_false, Bool.not_false, Bool.and_true, if_true]
      exact read_rounds_eq hc _ (Nat.le_refl _) (by rw [List.length_drop]; omega)

lemma write_with_eq {file data : Bytes} (hf : files path = some file) (hd : data ≠ []) (hc : 0 < chunkSize)
    (hle : chunkSize ≤ data.length) : fileDataWriteWith calls offBits files path data chunkSize offset =
      (decide (calls.count offBits offset chunkSize data.length = data.length),
        if calls.count offBits offset chunkSize data.length = 0 then files
        else Function.update files path (some (overwrite file (seekPosition offBits offset)
          (data.take (calls.count offBits offset chunkSize data.length))))) := by
  have hpos : 0 < data.length := List.length_pos_iff.mpr hd
  have hself : Function.update files path (some file) = files := by rw [← hf, Function.update_eq_self]
  have hzero : decide (0 = data.length) = false := decide_eq_false (by omega)
  rw [fileDataWriteWith, if_neg (by omega), hf, FileCalls.count]
  cases ho : calls.opened with
  | false => simp [hzero]
  | true =>
    cases hk : seekFails calls offBits offset with
    | true => simp [hzero, hself]
    | false =>
      simp only [Bool.not_true, Bool.false_eq_true, if_false, Option.getD_some, Bool.not_false, Bool.and_true, if_true]
      rw [write_rounds_eq hc _ _ (Nat.le_refl _)]
      dsimp only
      by_cases h0 : transferLoop chunkSize calls.results data.length 0 data.length = 0
      · rw [if_pos h0, if_pos h0, hself]
      · rw [if_neg h0, if_neg h0]

/-- A write to a new file that fails leaves less than it was given. -/
lemma write_with_new {data : Bytes} (hf : files path = none) (hc : 0 < chunkSize)
    (h : (fileDataWriteWith calls offBits files path data chunkSize 0).1 = false) {file : Bytes}
    (hfile : (fileDataWriteWith calls offBits files path data chunkSize 0).2 path = some file) :
    file.length < data.length := by
  have hsame : (fileDataWriteWith calls offBits files path data chunkSize 0).2 = files → file.length < data.length := by
    intro hs
    rw [hs, hf] at hfile
    cases hfile
  rw [fileDataWriteWith] at h hfile hsame
  by_cases hbad : data.length = 0 ∨ chunkSize = 0 ∨ chunkSize > data.length
  · rw [if_pos hbad] at hsame
    exact hsame rfl
  · by_cases ho : (!calls.opened) = true
    · rw [if_neg hbad, if_pos ho] at hsame
      exact hsame rfl
    · rw [if_neg hbad, if_neg ho, hf] at h hfile
      dsimp only [Option.getD_none] at h hfile
      by_cases hk : seekFails calls offBits 0 = true
      · simp only [hk, if_true, Function.update_self, Option.some.injEq] at hfile
        rw [← hfile, List.length_nil]
        omega
      · rw [if_neg hk, write_rounds_eq hc _ _ (Nat.le_refl _), seek_position_zero] at h hfile
        simp only [decide_eq_false_iff_not] at h
        simp only [Function.update_self, Option.some.injEq, overwrite_nil] at hfile
        have hle : transferLoop chunkSize calls.results data.length 0 data.length ≤ data.length := transfer_loop_le
        rw [← hfile]
        split
        · rw [List.length_nil]
          omega
        · rw [List.length_take]
          omega

/-! ### Without a failure -/

/-- Nothing fails, but a round may transfer less than it was asked to. -/
structure FileCalls.Succeed (calls : FileCalls) : Prop where
  opened : calls.opened = true
  seeked : calls.seeked = true
  results : ∀ k, 0 < calls.results k

lemma FileCalls.Succeed.not_seekFails (h : calls.Succeed) : seekFails calls offBits offset = false := by
  simp [seekFails, h.seeked]

lemma FileCalls.Succeed.count (h : calls.Succeed) (hc : 0 < chunkSize) :
    calls.count offBits offset chunkSize size = size := by
  rw [FileCalls.count, h.opened, h.not_seekFails]
  exact transfer_loop_all hc h.results (Nat.le_refl _)

lemma read_rounds_none {count : ℕ} (file : Bytes) (hl : file.length < count) :
    readRounds chunkSize results fuel round count file = none := by
  induction fuel generalizing round count file with
  | zero =>
    cases count with
    | zero => simp at hl
    | succ left => rfl
  | succ fuel ih =>
    cases count with
    | zero => simp at hl
    | succ left =>
      simp only [readRounds]
      by_cases hr : results round ≤ 0
      · rw [if_pos hr]
      · have ha := asked_for_le chunkSize (left + 1)
        set data := file.take (min (results round).toNat (askedFor chunkSize (left + 1))) with hdata
        have hlen : data.length ≤ file.length := by
          rw [hdata, List.length_take]
          omega
        rw [if_neg hr]
        by_cases h0 : data.length = 0
        · rw [if_pos h0]
        · rw [if_neg h0, ih _ (by rw [List.length_drop]; omega), Option.map_none]

lemma write_with_succeeds {data : Bytes} (h : calls.Succeed) :
    fileDataWriteWith calls offBits files path data chunkSize offset =
      (fileDataWrite offBits files path data chunkSize offset).elim (false, files) (Prod.mk true) := by
  rw [fileDataWriteWith, fileDataWrite]
  by_cases hbad : data.length = 0 ∨ chunkSize = 0 ∨ chunkSize > data.length
  · rw [if_pos hbad, if_pos hbad, Option.elim_none]
  · have hc : 0 < chunkSize := by omega
    have hd : data ≠ [] := fun h0 => hbad (.inl (by rw [h0, List.length_nil]))
    rw [if_neg hbad, if_neg hbad, h.opened, h.not_seekFails]
    simp only [Bool.not_true, Bool.false_eq_true, if_false]
    rw [write_rounds_eq hc _ _ (Nat.le_refl _), transfer_loop_all hc h.results (Nat.le_refl _), if_neg (by omega),
      List.take_of_length_le (Nat.le_refl _), write_loop_eq hc _ _ hd (Nat.le_refl _), decide_eq_true rfl, Option.elim_some]

omit [DecidableEq π] in
lemma read_with_succeeds (h : calls.Succeed) : fileDataReadWith calls offBits files path size chunkSize offset =
    fileDataRead offBits files path size chunkSize offset := by
  rw [fileDataReadWith, fileDataRead]
  by_cases hbad : size = 0 ∨ chunkSize = 0 ∨ chunkSize > size
  · rw [if_pos hbad, if_pos hbad]
  · have hc : 0 < chunkSize := by omega
    rw [if_neg hbad, if_neg hbad]
    cases files path with
    | none => rfl
    | some file =>
      simp only [h.opened, h.not_seekFails, Bool.not_true, Bool.false_eq_true, if_false]
      rw [read_loop_eq hc _ (Nat.le_refl _)]
      by_cases hl : size ≤ (file.drop (seekPosition offBits offset)).length
      · rw [if_pos hl, read_rounds_eq hc _ (Nat.le_refl _) hl, transfer_loop_all hc h.results (Nat.le_refl _), if_pos rfl]
      · rw [if_neg hl, read_rounds_none _ (by omega)]

end

end Ril.Ipc
