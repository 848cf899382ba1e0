import Mathlib.Algebra.Order.Ring.Int
import Mathlib.Logic.Function.Basic
import Ril.Ipc.Message

/-! Files that are read and written in chunks, without a failure of the operating system. -/

namespace Ril.Ipc

/-- What a `write` leaves of a file; a gap is filled with zeros. -/
def overwrite (file : Bytes) (position : ℕ) (data : Bytes) : Bytes :=
  file.take position ++ List.replicate (position - file.length) 0 ++ data ++ file.drop (position + data.length)

/-- The loop of `file_data_read` from what is left of the file. Every round reads something, or the end was met. -/
def readLoop (chunkSize : ℕ) : ℕ → ℕ → Bytes → Option Bytes
  | _, 0, _ => some []
  | 0, _ + 1, _ => none
  | fuel + 1, count + 1, file =>
    let data := file.take (if count + 1 > chunkSize then chunkSize else count + 1)
    if data.length = 0 then none
    else (readLoop chunkSize fuel (count + 1 - data.length) (file.drop data.length)).map (data ++ ·)

/-- The loop of `file_data_write`. -/
def writeLoop (chunkSize : ℕ) : ℕ → Bytes → ℕ → Bytes → Bytes
  | 0, _, _, file => file
  | fuel + 1, data, position, file =>
    if data.length = 0 then file
    else
      let chunk := data.take (if data.length > chunkSize then chunkSize else data.length)
      writeLoop chunkSize fuel (data.drop chunk.length) (position + chunk.length) (overwrite file position chunk)

/-- The position after the `lseek`. An offset that is negative as an `off_t` makes it fail, but -1 is not less than
such an offset, so the position 0 is used. -/
def seekPosition (offBits offset : ℕ) : ℕ := if offset < 2 ^ (offBits - 1) then offset else 0

section

variable {π : Type} [DecidableEq π]

abbrev Files (π : Type) := π → Option Bytes

def fileDataRead (offBits : ℕ) (files : Files π) (path : π) (size chunkSize offset : ℕ) : Option Bytes :=
  if size = 0 ∨ chunkSize = 0 ∨ chunkSize > size then none
  else
    match files path with
    | none => none
    | some file => readLoop chunkSize size size (file.drop (seekPosition offBits offset))

def fileDataWrite (offBits : ℕ) (files : Files π) (path : π) (data : Bytes) (chunkSize offset : ℕ) :
    Option (Files π) :=
  if data.length = 0 ∨ chunkSize = 0 ∨ chunkSize > data.length then none
  else some (Function.update files path (some
    (writeLoop chunkSize data.length data (seekPosition offBits offset) ((files path).getD []))))

def unlink (files : Files π) (path : π) : Files π := Function.update files path none

end

/-! ### What the loops come to -/

lemma read_loop_eq {chunkSize : ℕ} (hc : 0 < chunkSize) {fuel count : ℕ} (file : Bytes) (hf : count ≤ fuel) :
    readLoop chunkSize fuel count file = if count ≤ file.length then some (file.take count) else none := by
  induction fuel generalizing count file with
  | zero =>
    obtain rfl : count = 0 := by omega
    simp [readLoop]
  | succ fuel ih =>
    cases count with
    | zero => simp [readLoop]
    | succ n =>
      rw [readLoop]
      set k := if n + 1 > chunkSize then chunkSize else n + 1 with hk
      have hk1 : 0 < k := by split at hk <;> omega
      have hk2 : k ≤ n + 1 := by split at hk <;> omega
      simp only [List.length_take]
      by_cases h0 : min k file.length = 0
      · rw [if_pos h0, if_neg (by omega)]
      · rw [if_neg h0, ih _ (by omega)]
        simp only [List.length_drop]
        by_cases hl : n + 1 ≤ file.length
        · rw [if_pos (by omega), if_pos hl, Option.map_some]
          have hm : min k file.length = k := by omega
          rw [hm, ← List.take_add, show k + (n + 1 - k) = n + 1 by omega]
        · rw [if_neg (by omega), if_neg hl, Option.map_none]

lemma overwrite_inside {file : Bytes} {position : ℕ} (data : Bytes) (hp : position ≤ file.length) :
    overwrite file position data = file.take position ++ (data ++ file.drop (position + data.length)) := by
  rw [overwrite, Nat.sub_eq_zero_of_le hp, List.replicate_zero, List.append_nil, List.append_assoc]

lemma overwrite_take {file : Bytes} {position q : ℕ} (data : Bytes) (hq : q ≤ position) (hp : position ≤ file.length) :
    (overwrite file position data).take q = file.take q := by
  have htake : (file.take position).length = position := by rw [List.length_take, Nat.min_eq_left hp]
  rw [overwrite_inside data hp, List.take_append_of_le_length (htake.symm ▸ hq), List.take_take,
    Nat.min_eq_left hq]

lemma overwrite_reaches (file : Bytes) (position : ℕ) (data : Bytes) :
    position + data.length ≤ (overwrite file position data).length := by
  simp only [overwrite, List.length_append, List.length_take, List.length_replicate, List.length_drop]
  omega

lemma overwrite_append (file a b : Bytes) (position : ℕ) :
    overwrite (overwrite file position a) (position + a.length) b = overwrite file position (a ++ b) := by
  have hl : (file.take position ++ List.replicate (position - file.length) 0 ++ a).length = position + a.length := by
    simp only [List.length_append, List.length_take, List.length_replicate]
    omega
  have htake : (overwrite file position a).take (position + a.length) =
      file.take position ++ List.replicate (position - file.length) 0 ++ a := by
    rw [overwrite, ← hl]
    exact List.take_left
  have hdrop : (overwrite file position a).drop (position + a.length + b.length) =
      file.drop (position + (a ++ b).length) := by
    rw [overwrite, ← hl, ← List.drop_drop, List.drop_left, List.drop_drop, hl, List.length_append, Nat.add_assoc]
  have hgap : position + a.length - (overwrite file position a).length = 0 := by
    have h := congrArg List.length htake
    simp only [List.length_take, hl] at h
    omega
  rw [overwrite, htake, hgap, hdrop]
  simp [overwrite]

lemma write_loop_eq {chunkSize : ℕ} (hc : 0 < chunkSize) {fuel : ℕ} {data : Bytes} (position : ℕ) (file : Bytes)
    (hd : data ≠ []) (hf : data.length ≤ fuel) :
    writeLoop chunkSize fuel data position file = overwrite file position data := by
  induction fuel generalizing data position file with
  | zero => exact absurd (List.length_eq_zero_iff.mp (by omega)) hd
  | succ fuel ih =>
    have h0 : data.length ≠ 0 := fun h => hd (List.length_eq_zero_iff.mp h)
    rw [writeLoop, if_neg h0]
    set k := if data.length > chunkSize then chunkSize else data.length with hk
    have hk1 : 0 < k := by split at hk <;> omega
    have hk2 : k ≤ data.length := by split at hk <;> omega
    have hl : (data.take k).length = k := by
      rw [List.length_take]
      omega
    simp only [hl]
    by_cases hr : data.drop k = []
    · have ht : data.take k = data := by
        have h := List.take_append_drop k data
        rwa [hr, List.append_nil] at h
      rw [hr, ht]
      cases fuel with
      | zero => rfl
      | succ fuel => rfl
    · have h := ih (position + k) (overwrite file position (data.take k)) hr (by rw [List.length_drop]; omega)
      have ha := overwrite_append file (data.take k) (data.drop k) position
      rw [hl, List.take_append_drop] at ha
      rw [h, ha]

section

variable {π : Type} [DecidableEq π] {files : Files π} {path : π} {size chunkSize offset offBits : ℕ}

omit [DecidableEq π] in
lemma file_data_read_eq {file : Bytes} (hf : files path = some file) (hs : 0 < size) (hc : 0 < chunkSize)
    (hle : chunkSize ≤ size) : fileDataRead offBits files path size chunkSize offset =
      if seekPosition offBits offset + size ≤ file.length then
        some ((file.drop (seekPosition offBits offset)).take size)
      else none := by
  rw [fileDataRead, if_neg (by omega), hf]
  simp only [read_loop_eq hc _ (Nat.le_refl size), List.length_drop]
  by_cases h : seekPosition offBits offset + size ≤ file.length
  · rw [if_pos h, if_pos (by omega)]
  · rw [if_neg h, if_neg (by omega)]

lemma file_data_write_eq {data : Bytes} (hd : data ≠ []) (hc : 0 < chunkSize) (hle : chunkSize ≤ data.length) :
    fileDataWrite offBits files path data chunkSize offset = some (Function.update files path
      (some (overwrite ((files path).getD []) (seekPosition offBits offset) data))) := by
  rw [fileDataWrite, if_neg (by omega), write_loop_eq hc _ _ hd (Nat.le_refl _)]

end

lemma seek_position_zero (offBits : ℕ) : seekPosition offBits 0 = 0 := by
  rw [seekPosition]
  split
  · rfl
  · rfl

lemma overwrite_nil (data : Bytes) : overwrite [] 0 data = data := by simp [overwrite]

lemma overwrite_length {file : Bytes} {position : ℕ} {data : Bytes} (h : position + data.length ≤ file.length) :
    (overwrite file position data).length = file.length := by
  simp only [overwrite, List.length_append, List.length_take, List.length_replicate, List.length_drop]
  omega

end Ril.Ipc
