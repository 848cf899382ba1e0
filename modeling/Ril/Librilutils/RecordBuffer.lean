import Ril.Librilutils.RecordStream

/-! The buffer of a record stream holds a window on the stream, as long as no sum of addresses wraps around. -/

namespace Ril.Librilutils

open Lib

def RecordStream.window (rs : RecordStream) : Bytes := cellsAt rs.memory rs.unconsumed (rs.readEnd - rs.unconsumed)

def RecordStream.capacity (rs : RecordStream) : ℕ := rs.maxRecordLen + headerSize

-- the width of pointers and of `size_t`
variable (width : ℕ)

/-- The pointers are in order, and in the address space. -/
structure Ordered (rs : RecordStream) : Prop where
  buffer_le : rs.buffer ≤ rs.unconsumed
  unconsumed_le : rs.unconsumed ≤ rs.readEnd
  readEnd_le : rs.readEnd ≤ rs.bufferEnd
  bufferEnd_eq : rs.bufferEnd = rs.buffer + rs.capacity
  bufferEnd_lt : rs.bufferEnd < 2 ^ width

/-- The end of a record that would stand at the address is in the address space. -/
def NoWrap (address : ℕ) (bytes : Bytes) : Prop :=
  address + headerSize + (declaredLength bytes).getD 0 < 2 ^ width

/-- The record that a call looks at, and the one it looks at after a read, end in the address space. -/
def Fits (event : ReadEvent) (rs : RecordStream) (stream : Bytes) : Prop :=
  NoWrap width rs.unconsumed rs.window ∧
    (nextRecord rs.window = none → ∀ data, readSocket event (rs.capacity - rs.window.length) stream = .ok data →
      NoWrap width rs.buffer (rs.window ++ data))

variable {width} {rs : RecordStream} {event : ReadEvent} {stream : Bytes}

lemma window_length (rs : RecordStream) : rs.window.length = rs.readEnd - rs.unconsumed := cells_at_length _ _ _

lemma Ordered.window_le (h : Ordered width rs) : rs.window.length ≤ rs.capacity := by
  have h1 := h.buffer_le
  have h2 := h.readEnd_le
  have h3 := h.bufferEnd_eq
  rw [window_length]
  omega

lemma pointer_add_eq {p n : ℕ} (h : p + n < 2 ^ width) : pointerAdd width p n = p + n := Nat.mod_eq_of_lt h

lemma pointer_sub_eq {p q : ℕ} (h : q ≤ p) (hp : p < 2 ^ width) : pointerSub width p q = p - q := by
  rw [pointerSub, show p + 2 ^ width - q = p - q + 2 ^ width by omega, Nat.add_mod_right, Nat.mod_eq_of_lt (by omega)]

lemma declared_length_cells (memory : ℕ → UInt8) (p n : ℕ) :
    declaredLength (cellsAt memory p n) = if headerSize ≤ n then some (ntohl memory p) else none := by
  match n with
  | 0 | 1 | 2 | 3 => rfl
  | n + 4 =>
    rw [if_pos (by rw [headerSize]; omega)]
    rfl

lemma end_of_record_eq {memory : ℕ → UInt8} {p e : ℕ} (hpe : p ≤ e)
    (hw : NoWrap width p (cellsAt memory p (e - p))) :
    getEndOfRecord width memory p e = (nextRecord (cellsAt memory p (e - p))).map fun r => p + headerSize + r.1.length := by
  rw [NoWrap, declared_length_cells] at hw
  have h0 : p + headerSize < 2 ^ width := by omega
  rw [getEndOfRecord, pointer_add_eq h0, nextRecord, declared_length_cells, cells_at_length]
  by_cases h4 : headerSize ≤ e - p
  · rw [if_pos h4] at hw ⊢
    rw [if_neg (by omega)]
    dsimp only [Option.getD_some] at hw ⊢
    rw [pointer_add_eq hw]
    by_cases hl : e < p + headerSize + ntohl memory p
    · rw [if_pos hl, if_pos (by omega), Option.map_none]
    · rw [if_neg hl, if_neg (by omega), Option.map_some, List.length_take, List.length_drop, cells_at_length,
        Nat.min_eq_left (by omega)]
  · rw [if_neg h4, if_pos (by omega), Option.map_none]

lemma next_record_none (h : Ordered width rs) (hw : NoWrap width rs.unconsumed rs.window)
    (hn : nextRecord rs.window = none) : getNextRecord width rs = none := by
  have he := end_of_record_eq h.unconsumed_le hw
  rw [RecordStream.window] at hn
  rw [hn, Option.map_none] at he
  rw [getNextRecord, he]

/-- The record that is given out lies in the buffer, and the window moves behind it. -/
lemma next_record_taken (h : Ordered width rs) (hw : NoWrap width rs.unconsumed rs.window) {r rest : Bytes}
    (hn : nextRecord rs.window = some (r, rest)) : ∃ rs', getNextRecord width rs =
      some ((rs.unconsumed + headerSize, r.length), rs') ∧ Ordered width rs' ∧ rs'.window = rest ∧
        cellsAt rs'.memory (rs.unconsumed + headerSize) r.length = r ∧ rs'.buffer = rs.buffer ∧
          rs'.maxRecordLen = rs.maxRecordLen := by
  obtain ⟨hd, hl, hr, ht⟩ := next_record_some.mp hn
  have he := end_of_record_eq h.unconsumed_le hw
  have hn' := hn
  rw [RecordStream.window] at hn'
  rw [hn', Option.map_some] at he
  rw [window_length] at hl
  have h1 := h.unconsumed_le
  have h2 := h.readEnd_le
  have h3 := h.bufferEnd_lt
  have h4 := h.buffer_le
  refine ⟨{ rs with unconsumed := rs.unconsumed + headerSize + r.length }, ?_, ⟨?_, ?_, h2, h.bufferEnd_eq, h3⟩, ?_, ?_,
    rfl, rfl⟩
  · rw [getNextRecord, he]
    dsimp only
    rw [pointer_add_eq (by omega), pointer_sub_eq (by omega) (by omega), Nat.add_sub_cancel_left]
  · dsimp only
    omega
  · dsimp only
    omega
  · dsimp only [RecordStream.window]
    rw [ht, RecordStream.window, cells_at_drop hl, Nat.add_assoc, Nat.sub_add_eq]
  · dsimp only
    rw [RecordStream.window, cells_at_drop (by omega), cells_at_take (by omega)] at hr
    exact hr.symm

lemma Ordered.full_iff (h : Ordered width rs) :
    rs.unconsumed = rs.buffer ∧ rs.readEnd = rs.bufferEnd ↔ rs.window.length = rs.capacity := by
  have h1 := h.buffer_le
  have h2 := h.readEnd_le
  have h3 := h.bufferEnd_eq
  have h4 := h.unconsumed_le
  have h5 : 0 < rs.capacity := Nat.succ_pos _
  rw [window_length]
  omega

lemma compact_spec (h : Ordered width rs) : Ordered width (compact width rs) ∧ (compact width rs).window = rs.window ∧
    (compact width rs).unconsumed = rs.buffer ∧ (compact width rs).buffer = rs.buffer ∧
    (compact width rs).maxRecordLen = rs.maxRecordLen := by
  have h1 := h.buffer_le
  have h2 := h.readEnd_le
  have h3 := h.bufferEnd_eq
  have h4 := h.unconsumed_le
  have h5 := h.bufferEnd_lt
  rw [compact]
  by_cases hu : rs.unconsumed = rs.buffer
  · rw [if_neg (fun hn => hn hu)]
    exact ⟨h, rfl, hu, rfl, rfl⟩
  · have hs : pointerSub width rs.readEnd rs.unconsumed = rs.readEnd - rs.unconsumed := pointer_sub_eq h4 (by omega)
    have ha : pointerAdd width rs.buffer (rs.readEnd - rs.unconsumed) = rs.buffer + (rs.readEnd - rs.unconsumed) :=
      pointer_add_eq (by omega)
    rw [if_pos hu]
    dsimp only
    rw [hs, ha]
    refine ⟨⟨Nat.le_refl _, ?_, ?_, h3, h5⟩, ?_, rfl, rfl, rfl⟩
    · dsimp only
      omega
    · dsimp only
      omega
    · dsimp only [RecordStream.window]
      have hc := cells_at_store rs.memory rs.buffer (cellsAt rs.memory rs.unconsumed (rs.readEnd - rs.unconsumed))
      rw [cells_at_length] at hc
      rw [Nat.add_sub_cancel_left, hc]

lemma append_spec (h : Ordered width rs) {data : Bytes} (hd : data.length ≤ rs.bufferEnd - rs.readEnd) :
    Ordered width { rs with
      memory := storeAt rs.memory rs.readEnd data, readEnd := pointerAdd width rs.readEnd data.length } ∧
    RecordStream.window { rs with
      memory := storeAt rs.memory rs.readEnd data, readEnd := pointerAdd width rs.readEnd data.length } =
        rs.window ++ data := by
  have h1 := h.buffer_le
  have h2 := h.readEnd_le
  have h4 := h.unconsumed_le
  have h5 := h.bufferEnd_lt
  have ha : pointerAdd width rs.readEnd data.length = rs.readEnd + data.length := pointer_add_eq (by omega)
  rw [ha]
  refine ⟨⟨h1, ?_, ?_, h.bufferEnd_eq, h5⟩, ?_⟩
  · dsimp only
    omega
  · dsimp only
    omega
  · dsimp only [RecordStream.window]
    rw [show rs.readEnd + data.length - rs.unconsumed = (rs.readEnd - rs.unconsumed) + data.length by omega,
      cells_at_add, cells_at_store_outside (.inl (by omega)),
      show rs.unconsumed + (rs.readEnd - rs.unconsumed) = rs.readEnd by omega, cells_at_store]

lemma get_next_refines (h : Ordered width rs) (hf : Fits width event rs stream) :
    Ordered width (recordStreamGetNext width event rs stream).2.1 ∧
    (recordStreamGetNext width event rs stream).2.1.maxRecordLen = rs.maxRecordLen ∧
    (recordStreamGetNext width event rs stream).2.1.buffer = rs.buffer ∧
    ((recordStreamGetNext width event rs stream).1.seen (recordStreamGetNext width event rs stream).2.1.memory,
      (recordStreamGetNext width event rs stream).2.1.window, (recordStreamGetNext width event rs stream).2.2) =
        windowStep rs.capacity event rs.window stream := by
  obtain ⟨hw, hread⟩ := hf
  rw [recordStreamGetNext, windowStep]
  cases hn : nextRecord rs.window with
  | some p =>
    obtain ⟨r, rest⟩ := p
    obtain ⟨rs', he, ho, hr, hm, hb, hl⟩ := next_record_taken h hw hn
    simp only [he]
    exact ⟨ho, hl, hb, by rw [GetNext.seen, hm, hr]⟩
  | none =>
    rw [next_record_none h hw hn]
    dsimp only
    by_cases hfull : rs.window.length = rs.capacity
    · rw [if_pos (h.full_iff.mpr hfull), if_pos hfull]
      exact ⟨h, rfl, rfl, rfl⟩
    · rw [if_neg (fun he => hfull (h.full_iff.mp he)), if_neg hfull]
      obtain ⟨hc, hcw, hcu, hcb, hcl⟩ := compact_spec h
      have hcap : (compact width rs).capacity = rs.capacity := by rw [RecordStream.capacity, hcl, RecordStream.capacity]
      have hspace : (compact width rs).bufferEnd - (compact width rs).readEnd = rs.capacity - rs.window.length := by
        have h1 := window_length (compact width rs)
        have h2 := hc.bufferEnd_eq
        have h3 := hc.unconsumed_le
        rw [hcw] at h1
        rw [hcap] at h2
        omega
      rw [pointer_sub_eq hc.readEnd_le hc.bufferEnd_lt, hspace]
      cases hr : readSocket event (rs.capacity - rs.window.length) stream with
      | error errno => exact ⟨hc, hcl, hcb, by rw [← hcw]; rfl⟩
      | ok data =>
        dsimp only
        by_cases h0 : data.length = 0
        · rw [if_pos h0, if_pos h0]
          exact ⟨hc, hcl, hcb, by rw [← hcw]; rfl⟩
        · rw [if_neg h0, if_neg h0]
          obtain ⟨ho, hwin⟩ := @append_spec width (compact width rs) hc data (by rw [hspace]; exact (read_socket_ok hr).1)
          have hwrap := hread hn data hr
          rw [← hcw, ← hwin, ← hcu] at hwrap
          rw [← hcw, ← hwin]
          generalize hg : ({ compact width rs with
            memory := storeAt (compact width rs).memory (compact width rs).readEnd data,
            readEnd := pointerAdd width (compact width rs).readEnd data.length } : RecordStream) = rs₂ at ho hwrap ⊢
          have hu : rs₂.unconsumed = (compact width rs).unconsumed := by rw [← hg]
          have hl : rs₂.maxRecordLen = rs.maxRecordLen := by
            rw [← hg]
            exact hcl
          have hb : rs₂.buffer = rs.buffer := by
            rw [← hg]
            exact hcb
          rw [← hu] at hwrap
          cases hn' : nextRecord rs₂.window with
          | none =>
            rw [next_record_none ho hwrap hn']
            exact ⟨ho, hl, hb, rfl⟩
          | some p =>
            obtain ⟨r, rest⟩ := p
            obtain ⟨rs', he, ho', hr', hm, hb', hl'⟩ := next_record_taken ho hwrap hn'
            simp only [he]
            exact ⟨ho', hl'.trans hl, hb'.trans hb, by rw [GetNext.seen, hm, hr']⟩

end Ril.Librilutils
