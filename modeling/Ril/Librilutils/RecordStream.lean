import Mathlib.Algebra.Order.Ring.Int
import Ril.Lib.Memory
import Ril.Lib.Socket

/-! Records with a length in front of them, read from a socket through a buffer. -/

namespace Ril.Librilutils

open Lib

abbrev Bytes := List UInt8

def headerSize : ℕ := 4

structure RecordStream where
  maxRecordLen : ℕ
  buffer : ℕ
  unconsumed : ℕ
  readEnd : ℕ
  bufferEnd : ℕ
  memory : ℕ → UInt8

inductive GetNext
  | record (address length : ℕ)
  | endOfStream
  | failed (errno : Errno)
deriving DecidableEq, Repr

/-- `none` where the assertion fails. -/
def recordStreamNew (memory : ℕ → UInt8) (buffer maxRecordLen : ℕ) : Option RecordStream :=
  if maxRecordLen ≤ 0xffff then
    some ⟨maxRecordLen, buffer, buffer, buffer, buffer + maxRecordLen + headerSize, memory⟩
  else none

section

-- the width of pointers and of `size_t`
variable (width : ℕ)

def pointerAdd (p n : ℕ) : ℕ := (p + n) % 2 ^ width

def pointerSub (p q : ℕ) : ℕ := (p + 2 ^ width - q) % 2 ^ width

def ntohl (memory : ℕ → UInt8) (p : ℕ) : ℕ :=
  (((memory p).toNat * 256 + (memory (p + 1)).toNat) * 256 + (memory (p + 2)).toNat) * 256 + (memory (p + 3)).toNat

def getEndOfRecord (memory : ℕ → UInt8) (pBegin pEnd : ℕ) : Option ℕ :=
  if pEnd < pointerAdd width pBegin headerSize then none
  else
    let len := ntohl memory pBegin
    let pRet := pointerAdd width (pointerAdd width pBegin headerSize) len
    if pEnd < pRet then none else some pRet

def getNextRecord (rs : RecordStream) : Option ((ℕ × ℕ) × RecordStream) :=
  match getEndOfRecord width rs.memory rs.unconsumed rs.readEnd with
  | none => none
  | some recordEnd =>
    let recordStart := pointerAdd width rs.unconsumed headerSize
    some ((recordStart, pointerSub width recordEnd recordStart), { rs with unconsumed := recordEnd })

/-- The remainder is moved to the beginning of the buffer. -/
def compact (rs : RecordStream) : RecordStream :=
  if rs.unconsumed ≠ rs.buffer then
    let toMove := pointerSub width rs.readEnd rs.unconsumed
    { rs with
      memory := storeAt rs.memory rs.buffer (cellsAt rs.memory rs.unconsumed toMove)
      readEnd := pointerAdd width rs.buffer toMove
      unconsumed := rs.buffer }
  else rs

/-- `assert (0)` stands before the failure with `EFBIG`. -/
def recordStreamGetNext (event : ReadEvent) (rs : RecordStream) (stream : Bytes) : GetNext × RecordStream × Bytes :=
  match getNextRecord width rs with
  | some (record, rs) => (.record record.1 record.2, rs, stream)
  | none =>
    if rs.unconsumed = rs.buffer ∧ rs.readEnd = rs.bufferEnd then (.failed .efbig, rs, stream)
    else
      let rs := compact width rs
      match readSocket event (pointerSub width rs.bufferEnd rs.readEnd) stream with
      | .error errno => (.failed errno, rs, stream)
      | .ok data =>
        if data.length = 0 then (.endOfStream, rs, stream)
        else
          let rs := { rs with
            memory := storeAt rs.memory rs.readEnd data, readEnd := pointerAdd width rs.readEnd data.length }
          match getNextRecord width rs with
          | none => (.failed .eagain, rs, stream.drop data.length)
          | some (record, rs) => (.record record.1 record.2, rs, stream.drop data.length)

/-- What the caller sees of a result, as long as it makes no other call -/
inductive Seen
  | record (bytes : Bytes)
  | endOfStream
  | failed (errno : Errno)
deriving DecidableEq, Repr

def GetNext.seen (memory : ℕ → UInt8) : GetNext → Seen
  | .record address length => .record (cellsAt memory address length)
  | .endOfStream => .endOfStream
  | .failed errno => .failed errno

/-- A call for each of the events -/
def recordStreamRun : List ReadEvent → RecordStream → Bytes → List Seen × RecordStream × Bytes
  | [], rs, stream => ([], rs, stream)
  | event :: events, rs, stream =>
    let result := recordStreamGetNext width event rs stream
    let rest := recordStreamRun events result.2.1 result.2.2
    (result.1.seen result.2.1.memory :: rest.1, rest.2)

end

end Ril.Librilutils

/-! The records of a stream, and that they are what the buffer gives out. -/

namespace Ril.Librilutils

open Lib

/-! ### The records of a stream -/

def declaredLength : Bytes → Option ℕ
  | a :: b :: c :: d :: _ => some (((a.toNat * 256 + b.toNat) * 256 + c.toNat) * 256 + d.toNat)
  | _ => none

def nextRecord (s : Bytes) : Option (Bytes × Bytes) :=
  match declaredLength s with
  | none => none
  | some len => if s.length < headerSize + len then none
      else some ((s.drop headerSize).take len, s.drop (headerSize + len))

lemma declared_length_append {s : Bytes} {n : ℕ} (h : declaredLength s = some n) (t : Bytes) :
    declaredLength (s ++ t) = some n := by
  match s, h with
  | a :: b :: c :: d :: s, h => exact h

lemma next_record_some {s r t : Bytes} : nextRecord s = some (r, t) ↔
    declaredLength s = some r.length ∧ headerSize + r.length ≤ s.length ∧
      r = (s.drop headerSize).take r.length ∧ t = s.drop (headerSize + r.length) := by
  rw [nextRecord]
  cases hd : declaredLength s with
  | none => simp
  | some len =>
    by_cases hl : s.length < headerSize + len
    · simp only [if_pos hl, Option.some.injEq]
      constructor
      · intro h
        cases h
      · rintro ⟨rfl, hle, -⟩
        omega
    · have hlen : ((s.drop headerSize).take len).length = len := by
        rw [List.length_take, List.length_drop]
        omega
      simp only [if_neg hl, Option.some.injEq, Prod.mk.injEq]
      constructor
      · rintro ⟨rfl, rfl⟩
        rw [hlen]
        exact ⟨rfl, by omega, rfl, rfl⟩
      · rintro ⟨rfl, -, hr, ht⟩
        exact ⟨hr.symm, ht.symm⟩

lemma next_record_stable : Stable nextRecord := by
  intro s r t u h
  obtain ⟨hd, hl, hr, ht⟩ := next_record_some.mp h
  refine next_record_some.mpr ⟨declared_length_append hd u, ?_, ?_, ?_⟩
  · rw [List.length_append]
    omega
  · rw [List.drop_append_of_le_length (by omega), List.take_append_of_le_length]
    · exact hr
    · rw [List.length_drop]
      omega
  · rw [List.drop_append_of_le_length hl, ht]

lemma next_record_too_long {s : Bytes} {n : ℕ} (h : declaredLength s = some n) (hl : s.length < headerSize + n) :
    nextRecord s = none := by
  rw [nextRecord, h]
  exact if_pos hl

/-! ### A window on the stream -/

/-- A call, of a window that holds at most so many bytes -/
def windowStep (capacity : ℕ) (event : ReadEvent) (window stream : Bytes) : Seen × Bytes × Bytes :=
  match nextRecord window with
  | some (r, rest) => (.record r, rest, stream)
  | none =>
    if window.length = capacity then (.failed .efbig, window, stream)
    else
      match readSocket event (capacity - window.length) stream with
      | .error errno => (.failed errno, window, stream)
      | .ok data =>
        if data.length = 0 then (.endOfStream, window, stream)
        else
          match nextRecord (window ++ data) with
          | none => (.failed .eagain, window ++ data, stream.drop data.length)
          | some (r, rest) => (.record r, rest, stream.drop data.length)

def Seen.record? : Seen → Option Bytes
  | .record r => some r
  | .endOfStream => none
  | .failed _ => none

/-- What one call does: it gives the next record of what is ahead, or nothing is taken and no record is there. -/
lemma window_step_spec {capacity : ℕ} {event : ReadEvent} {window stream : Bytes} (hc : window.length ≤ capacity) :
    (windowStep capacity event window stream).2.1.length ≤ capacity ∧
    match (windowStep capacity event window stream).1.record? with
    | some r => nextRecord (window ++ stream) = some
        (r, (windowStep capacity event window stream).2.1 ++ (windowStep capacity event window stream).2.2) ∧
          headerSize + r.length ≤ capacity
    | none => (windowStep capacity event window stream).2.1 ++ (windowStep capacity event window stream).2.2 =
        window ++ stream ∧ nextRecord (windowStep capacity event window stream).2.1 = none := by
  rw [windowStep]
  cases hn : nextRecord window with
  | some p =>
    obtain ⟨r, rest⟩ := p
    obtain ⟨-, hl, -, ht⟩ := next_record_some.mp hn
    refine ⟨?_, next_record_stable _ _ _ _ hn, by omega⟩
    dsimp only
    rw [ht, List.length_drop]
    omega
  | none =>
    by_cases hf : window.length = capacity
    · rw [if_pos hf]
      exact ⟨hc, rfl, hn⟩
    · simp only [if_neg hf]
      cases hr : readSocket event (capacity - window.length) stream with
      | error errno => exact ⟨hc, rfl, hn⟩
      | ok data =>
        obtain ⟨hle, hs⟩ := read_socket_ok hr
        by_cases h0 : data.length = 0
        · dsimp only
          rw [if_pos h0]
          exact ⟨hc, rfl, hn⟩
        · simp only [if_neg h0]
          have hw : (window ++ data).length ≤ capacity := by
            rw [List.length_append]
            omega
          cases hn' : nextRecord (window ++ data) with
          | none =>
            refine ⟨hw, ?_, hn'⟩
            dsimp only
            rw [List.append_assoc, hs]
          | some p =>
            obtain ⟨r, rest⟩ := p
            obtain ⟨-, hl, -, ht⟩ := next_record_some.mp hn'
            have hst := next_record_stable _ _ _ (stream.drop data.length) hn'
            rw [List.append_assoc, hs] at hst
            refine ⟨?_, hst, by omega⟩
            dsimp only
            rw [ht, List.length_drop]
            omega

lemma window_step_too_long {capacity : ℕ} {event : ReadEvent} {window stream : Bytes} {n : ℕ}
    (hc : window.length ≤ capacity) (h : declaredLength window = some n) (hn : capacity < headerSize + n) :
    (windowStep capacity event window stream).1.record? = none ∧
      declaredLength (windowStep capacity event window stream).2.1 = some n ∧
      (window.length = capacity → (windowStep capacity event window stream).1 = .failed .efbig) := by
  rw [windowStep, next_record_too_long h (by omega)]
  by_cases hf : window.length = capacity
  · dsimp only
    rw [if_pos hf]
    exact ⟨rfl, h, fun _ => rfl⟩
  · simp only [if_neg hf]
    cases hr : readSocket event (capacity - window.length) stream with
    | error errno => exact ⟨rfl, h, fun he => absurd he hf⟩
    | ok data =>
      obtain ⟨hle, -⟩ := read_socket_ok hr
      by_cases h0 : data.length = 0
      · simp only [if_pos h0]
        exact ⟨rfl, h, fun he => absurd he hf⟩
      · have hd := declared_length_append h data
        have hnone : nextRecord (window ++ data) = none := by
          refine next_record_too_long hd ?_
          rw [List.length_append]
          omega
        simp only [if_neg h0, hnone]
        exact ⟨rfl, hd, fun he => absurd he hf⟩

end Ril.Librilutils
