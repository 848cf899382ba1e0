import Ril.Ipc.Aries

/-! On which inputs the two modems' functions end alike. -/

namespace Ril.Ipc

open Lib

def SendResult.ofEnd : TransferEnd → SendResult
  | .complete => .sent
  | .broken => .failed
  | .waits => .waits

def RecvResult.ofEnd (message : ModemMessage) : TransferEnd → RecvResult
  | .complete => .received message
  | .broken => .failed
  | .waits => .waits

section

variable {loop : TransportLoop} {results : List ℤ}

lemma counted_left (loop : TransportLoop) (result : ℤ) (left : ℕ) :
    left - min result.toNat (loop.asked left) = left - loop.counted result := by
  rw [TransportLoop.asked, TransportLoop.counted]
  cases loop.chunkSize with
  | none =>
    simp only [Option.elim_none]
    omega
  | some chunk =>
    simp only [Option.elim_some]
    split <;> omega

lemma asked_le (loop : TransportLoop) (left : ℕ) : loop.asked left ≤ left := by
  rw [TransportLoop.asked]
  cases loop.chunkSize with
  | none => exact Nat.le_refl left
  | some chunk =>
    simp only [Option.elim_some]
    split <;> omega

/-! ### Sending -/

/-- A send ends as the transfer of its frame does. -/
lemma send_loop_end (loop : TransportLoop) (results : List ℤ) (p : Bytes) : (sendLoop loop results p).1 =
    .ofEnd (transfer loop.accepts loop.counted results p.length) := by
  induction results generalizing p with
  | nil => cases p <;> rfl
  | cons result results ih =>
    cases p with
    | nil => rfl
    | cons b p =>
      have hlen : ((b :: p).drop (min result.toNat (loop.asked (p.length + 1)))).length =
          p.length + 1 - loop.counted result := by
        rw [List.length_drop, List.length_cons, counted_left]
      rw [sendLoop, List.length_cons, transfer_cons (by omega)]
      cases loop.accepts result with
      | false => rfl
      | true =>
        simp only [Bool.not_true, Bool.false_eq_true, if_false, if_true]
        rw [ih, hlen]

lemma send_loop_sent {p : Bytes} (h : (sendLoop loop results p).1 = .sent) : (sendLoop loop results p).2 = p := by
  induction results generalizing p with
  | nil =>
    cases p with
    | nil => rfl
    | cons b p => cases h
  | cons result results ih =>
    cases p with
    | nil => rfl
    | cons b p =>
      rw [sendLoop] at h ⊢
      cases ha : loop.accepts result with
      | false =>
        rw [ha] at h
        cases h
      | true =>
        simp only [ha, Bool.not_true, Bool.false_eq_true, if_false] at h ⊢
        rw [ih h, List.take_append_drop]

end

section

variable {results : ℕ → ℤ}

/-- Both functions come to an end, with the same verdict, and with the same bytes written where they succeed. -/
def SendAgrees (ariesSend xmm626Send : List ℤ → ModemMessage → SendResult × Bytes) (results : ℕ → ℤ)
    (message : ModemMessage) : Prop :=
  ∃ n m, (ariesSend (firstResults results n) message).1 ≠ .waits ∧
    (ariesSend (firstResults results n) message).1 = (xmm626Send (firstResults results m) message).1 ∧
    ((ariesSend (firstResults results n) message).1 = .sent →
      (ariesSend (firstResults results n) message).2 = (xmm626Send (firstResults results m) message).2)

/-- Results that complete both transfers, or break both of them -/
def SameEnd (results : ℕ → ℤ) (ariesMissing xmm626Missing : ℕ) : Prop :=
  Completes ariesLoop.accepts ariesLoop.counted results ariesMissing ∧
      Completes xmm626Loop.accepts xmm626Loop.counted results xmm626Missing ∨
    Breaks ariesLoop.accepts ariesLoop.counted results ariesMissing ∧
      Breaks xmm626Loop.accepts xmm626Loop.counted results xmm626Missing

lemma send_of_end_inj {a b : TransferEnd} (h : SendResult.ofEnd a = .ofEnd b) : a = b := by
  cases a <;> cases b <;> first | rfl | cases h

lemma same_end_iff {ariesMissing xmm626Missing : ℕ} : SameEnd results ariesMissing xmm626Missing ↔
    ∃ n m, transfer ariesLoop.accepts ariesLoop.counted (firstResults results n) ariesMissing ≠ .waits ∧
      transfer ariesLoop.accepts ariesLoop.counted (firstResults results n) ariesMissing =
        transfer xmm626Loop.accepts xmm626Loop.counted (firstResults results m) xmm626Missing := by
  simp only [SameEnd, ← completes_iff, ← breaks_iff]
  constructor
  · rintro (⟨⟨n, ha⟩, m, hx⟩ | ⟨⟨n, ha⟩, m, hx⟩)
    · exact ⟨n, m, by simp [ha], ha.trans hx.symm⟩
    · exact ⟨n, m, by simp [ha], ha.trans hx.symm⟩
  · rintro ⟨n, m, hend, hsame⟩
    cases ha : transfer ariesLoop.accepts ariesLoop.counted (firstResults results n) ariesMissing with
    | waits => exact absurd ha hend
    | complete => exact .inl ⟨⟨n, ha⟩, m, hsame.symm.trans ha⟩
    | broken => exact .inr ⟨⟨n, ha⟩, m, hsame.symm.trans ha⟩

lemma send_agrees_iff (format : SecModemFormat) (message : ModemMessage) :
    SendAgrees (ariesSend format) (xmm626Send format) results message ↔
    SameEnd results (frame format message).length (frame format message).length := by
  rw [same_end_iff]
  constructor
  · rintro ⟨n, m, hend, hsame, -⟩
    simp only [ariesSend, xmm626Send, send_loop_end] at hend hsame
    exact ⟨n, m, fun h => hend (congrArg SendResult.ofEnd h), send_of_end_inj hsame⟩
  · rintro ⟨n, m, hend, hsame⟩
    have hverdict : (ariesSend format (firstResults results n) message).1 =
        (xmm626Send format (firstResults results m) message).1 := by
      rw [ariesSend, xmm626Send, send_loop_end, send_loop_end, hsame]
    refine ⟨n, m, fun h => ?_, hverdict, fun h => ?_⟩
    · rw [ariesSend, send_loop_end] at h
      exact hend (send_of_end_inj h)
    · exact (send_loop_sent h).trans (send_loop_sent (hverdict.symm.trans h)).symm

/-! ### Receiving -/

lemma recv_of_end_inj {message : ModemMessage} {a b : TransferEnd} (h : RecvResult.ofEnd message a = .ofEnd message b) :
    a = b := by
  cases a <;> cases b <;> first | rfl | cases h

variable {loop : TransportLoop}

lemma transport_read_some {result : ℤ} (h : 0 ≤ result) (asked : ℕ) (stream : Bytes) :
    transportRead result asked stream = some (stream.take (min result.toNat asked)) := by
  rw [transportRead, if_neg (by omega)]

lemma accepts_neg {result : ℤ} (h : result < 0) : loop.accepts result = false := by
  rw [TransportLoop.accepts]
  split
  · exact decide_eq_false (by omega)
  · exact decide_eq_false (by omega)

/-- A result is accepted unless it is negative, or brings nothing to a loop for which that is an error. -/
lemma accepts_iff {result : ℤ} (h : 0 ≤ result) {count : ℕ} (hc : count = 0 ↔ result = 0) :
    loop.accepts result = !(loop.zeroFails && count == 0) := by
  rw [TransportLoop.accepts]
  cases loop.zeroFails with
  | false => simpa using h
  | true =>
    have hpos : 0 < result ↔ ¬count = 0 := by
      rw [hc]
      omega
    by_cases h0 : count = 0
    · simp [hpos, h0]
    · simp [hpos, h0]

/-- A receive ends as the transfer of its data does, if the stream brings all of it. -/
lemma receive_loop_end (hl : ∀ left, 0 < left → 0 < loop.asked left) (message : ModemMessage) {size : ℕ}
    (schedule : List ℤ) {data stream : Bytes} (h : size ≤ data.length + stream.length) :
    receiveLoop loop message size schedule data stream =
      .ofEnd { message with data := (data ++ stream).take size }
        (transfer loop.accepts loop.counted schedule (size - data.length)) := by
  induction schedule generalizing data stream with
  | nil =>
    rw [receiveLoop]
    by_cases hs : size ≤ data.length
    · rw [if_pos hs, Nat.sub_eq_zero_of_le hs, transfer_zero, List.take_append_of_le_length hs]
      rfl
    · rw [if_neg hs, transfer_nil (by omega)]
      rfl
  | cons result schedule ih =>
    rw [receiveLoop]
    by_cases hs : size ≤ data.length
    · rw [if_pos hs, Nat.sub_eq_zero_of_le hs, transfer_zero, List.take_append_of_le_length hs]
      rfl
    · rw [if_neg hs, transfer_cons (by omega)]
      by_cases hneg : result < 0
      · rw [transportRead, if_pos hneg, accepts_neg hneg]
        rfl
      · rw [transport_read_some (by omega)]
        dsimp only
        set more := stream.take (min result.toNat (loop.asked (size - data.length))) with hmore
        have hasked := asked_le loop (size - data.length)
        have hpos := hl (size - data.length) (by omega)
        have hlen : more.length = min result.toNat (loop.asked (size - data.length)) := by
          rw [hmore, List.length_take]
          omega
        have haccepts : loop.accepts result = !(loop.zeroFails && more.length == 0) := accepts_iff (by omega) (by omega)
        rw [haccepts]
        cases hz : (loop.zeroFails && more.length == 0) with
        | true => rfl
        | false =>
          simp only [Bool.false_eq_true, if_false, Bool.not_false, if_true]
          have hstream : more ++ stream.drop more.length = stream := by
            rw [hlen]
            exact List.take_append_drop _ _
          have hleft : size - (data ++ more).length = size - data.length - loop.counted result := by
            rw [List.length_append, hlen, ← counted_left]
            omega
          rw [ih, List.append_assoc, hstream, hleft]
          rw [List.length_append, List.length_drop]
          omega

/-! ### A stream that ends too early -/

lemma receive_loop_cons (message : ModemMessage) {size : ℕ} {result : ℤ} {schedule : List ℤ} {data stream : Bytes}
    (hs : data.length < size) : receiveLoop loop message size (result :: schedule) data stream =
      (transportRead result (loop.asked (size - data.length)) stream).elim .failed fun more =>
        if loop.zeroFails && more.length == 0 then .failed
        else receiveLoop loop message size schedule (data ++ more) (stream.drop more.length) := by
  rw [receiveLoop, if_neg (Nat.not_le.mpr hs)]
  cases transportRead result (loop.asked (size - data.length)) stream with
  | none => rfl
  | some more => rfl

lemma short_left {size : ℕ} {data stream : Bytes} (h : data.length + stream.length < size) (count : ℕ) :
    (data ++ stream.take count).length + (stream.drop (stream.take count).length).length < size := by
  simp only [List.length_append, List.length_take, List.length_drop]
  omega

lemma short_not_received (message : ModemMessage) {size : ℕ} (schedule : List ℤ) {data stream : Bytes}
    (h : data.length + stream.length < size) (m : ModemMessage) :
    receiveLoop loop message size schedule data stream ≠ .received m := by
  induction schedule generalizing data stream with
  | nil =>
    rw [receiveLoop, if_neg (by omega)]
    simp
  | cons result schedule ih =>
    rw [receive_loop_cons message (by omega), transportRead]
    split
    · simp
    · simp only [Option.elim_some]
      split
      · simp
      · exact ih (short_left h _)

/-- A loop that takes 0 for progress ends only when a read fails. -/
lemma aries_short_iff (message : ModemMessage) {size : ℕ} (results : ℕ → ℤ) {data stream : Bytes}
    (h : data.length + stream.length < size) :
    (∃ n, receiveLoop ariesLoop message size (firstResults results n) data stream = .failed) ↔ ∃ k, results k < 0 := by
  constructor
  · rintro ⟨n, hn⟩
    induction n generalizing results data stream with
    | zero =>
      rw [firstResults, receiveLoop, if_neg (by omega)] at hn
      cases hn
    | succ n ih =>
      by_cases h0 : results 0 < 0
      · exact ⟨0, h0⟩
      · rw [firstResults, receive_loop_cons message (by omega), transport_read_some (by omega)] at hn
        obtain ⟨k, hk⟩ := ih (fun k => results (k + 1)) (short_left h _) hn
        exact ⟨k + 1, hk⟩
  · rintro ⟨k, hk⟩
    induction k generalizing results data stream with
    | zero =>
      refine ⟨1, ?_⟩
      rw [firstResults, receive_loop_cons message (by omega), transportRead, if_pos hk]
      rfl
    | succ k ih =>
      by_cases h0 : results 0 < 0
      · refine ⟨1, ?_⟩
        rw [firstResults, receive_loop_cons message (by omega), transportRead, if_pos h0]
        rfl
      · obtain ⟨n, hn⟩ := ih (fun k => results (k + 1))
          (short_left h (min (results 0).toNat (ariesLoop.asked (size - data.length)))) hk
        refine ⟨n + 1, ?_⟩
        rw [firstResults, receive_loop_cons message (by omega), transport_read_some (by omega)]
        exact hn

/-- A loop for which 0 is an error fails at the latest when the stream has ended. -/
lemma xmm626_short (message : ModemMessage) {size : ℕ} (results : ℕ → ℤ) {data stream : Bytes}
    (h : data.length + stream.length < size) :
    ∃ n, receiveLoop xmm626Loop message size (firstResults results n) data stream = .failed := by
  induction hn : stream.length using Nat.strong_induction_on generalizing results data stream with
  | h length ih =>
    by_cases h0 : results 0 < 0
    · refine ⟨1, ?_⟩
      rw [firstResults, receive_loop_cons message (by omega), transportRead, if_pos h0]
      rfl
    · set more := stream.take (min (results 0).toNat (xmm626Loop.asked (size - data.length))) with hmore
      by_cases hm : more.length = 0
      · refine ⟨1, ?_⟩
        rw [firstResults, receive_loop_cons message (by omega), transport_read_some (by omega), ← hmore]
        have hzero : (xmm626Loop.zeroFails && more.length == 0) = true := by simp [hm, xmm626Loop]
        simp only [Option.elim_some, hzero, if_true]
      · have hlen : more.length ≤ stream.length := by
          rw [hmore, List.length_take]
          omega
        obtain ⟨n, hend⟩ := ih (stream.drop more.length).length (by rw [List.length_drop]; omega)
          (fun k => results (k + 1)) (short_left h (min (results 0).toNat (xmm626Loop.asked (size - data.length)))) rfl
        refine ⟨n + 1, ?_⟩
        rw [firstResults, receive_loop_cons message (by omega), transport_read_some (by omega), ← hmore]
        have hzero : (xmm626Loop.zeroFails && more.length == 0) = false := by simp [hm]
        simp only [Option.elim_some, hzero, Bool.false_eq_true, if_false]
        exact hend

/-! ### The header -/

lemma int_at_take {i k : ℕ} (h : i + 3 < k) (data : Bytes) : intAt (data.take k) i = intAt data i := by
  rw [intAt, intAt, short_at_take (by omega), short_at_take (by omega)]

/-- What is read of a message is in its header. -/
def ReadsHeader (format : SecModemFormat) : Prop :=
  ∀ stream k, format.headerSize ≤ k → format.headerLength (stream.take k) = format.headerLength stream ∧
    format.messageSetup (stream.take k) = format.messageSetup stream

lemma fmt_reads_header : ReadsHeader fmtFormat := by
  intro stream k (hk : 7 ≤ k)
  refine ⟨short_at_take (by omega) stream, ?_⟩
  simp only [fmtFormat, ipcFmtMessageSetup]
  rw [byte_at_take (by omega), byte_at_take (by omega), byte_at_take (by omega), byte_at_take (by omega),
    byte_at_take (by omega)]

lemma rfs_reads_header : ReadsHeader rfsFormat := by
  intro stream k (hk : 6 ≤ k)
  refine ⟨int_at_take (by omega) stream, ?_⟩
  simp only [rfsFormat, ipcRfsMessageSetup]
  rw [byte_at_take (by omega), byte_at_take (by omega)]

/-! ### The verdicts on a stream -/

/-- Both functions come to an end, with the same verdict and the same message. -/
def RecvAgrees (ariesRecv : List ℤ → Bytes → Option RecvResult) (xmm626Recv : List ℤ → Bytes → RecvResult)
    (results : ℕ → ℤ) (stream : Bytes) : Prop :=
  ∃ n m result, result ≠ .waits ∧ ariesRecv (firstResults results n) stream = some result ∧
    xmm626Recv (firstResults results m) stream = result

/-- The inputs on which the functions agree: no whole header comes, or it is refused, or it stands alone, or both loops
end alike. No header that declares less than itself is among them. -/
def RecvAlike (format : SecModemFormat) (results : ℕ → ℤ) (stream : Bytes) : Prop :=
  results 0 < format.headerSize ∨ stream.length < format.headerSize ∨
    overLimit format (format.headerLength stream) = true ∨ format.headerLength stream = format.headerSize ∨
    format.headerSize < format.headerLength stream ∧
      if format.headerLength stream ≤ stream.length then
        SameEnd (fun k => results (k + 1)) (format.headerLength stream - min (results 0).toNat ariesBufferLength)
          (format.headerLength stream - min (results 0).toNat xmm626DataSize)
      else ∃ k, results (k + 1) < 0

variable {format : SecModemFormat} {limit : Option ℕ} {result : ℤ} {schedule : List ℤ} {stream : Bytes}

lemma no_header_read (asked : ℕ) (h : result < format.headerSize ∨ stream.length < format.headerSize) :
    ∀ buffer, transportRead result asked stream = some buffer → buffer.length < format.headerSize := by
  intro buffer hb
  rw [transportRead] at hb
  split at hb
  · cases hb
  · cases hb
    rw [List.length_take]
    omega

lemma aries_recv_short (limit : Option ℕ) (h : result < format.headerSize ∨ stream.length < format.headerSize) :
    ariesRecv format limit (result :: schedule) stream = some .failed := by
  have hshort := no_header_read ariesBufferLength h
  rw [ariesRecv]
  cases hb : transportRead result ariesBufferLength stream with
  | none => rfl
  | some buffer => exact if_pos (hshort buffer hb)

lemma xmm626_recv_short (h : result < format.headerSize ∨ stream.length < format.headerSize) :
    xmm626Recv format (result :: schedule) stream = .failed := by
  have hshort := no_header_read xmm626DataSize h
  rw [xmm626Recv]
  cases hb : transportRead result xmm626DataSize stream with
  | none => rfl
  | some buffer => exact if_pos (hshort buffer hb)

section

variable (hf : ReadsHeader format) (hr : format.headerSize ≤ result) (hs : format.headerSize ≤ stream.length)
include hf hr hs

lemma aries_recv_header (hsize : format.headerSize ≤ ariesBufferLength) (limit : Option ℕ) :
    ariesRecv format limit (result :: schedule) stream =
      if limit.any (format.headerLength stream > ·) then some .failed
      else if format.headerLength stream < format.headerSize then
        if (stream.take (min result.toNat ariesBufferLength)).length - format.headerSize > 0 then none else some .failed
      else if format.headerLength stream - format.headerSize > 0 then
        some (receiveLoop ariesLoop (format.messageSetup stream) (format.headerLength stream - format.headerSize)
          schedule ((stream.take (min result.toNat ariesBufferLength)).drop format.headerSize)
          (stream.drop (stream.take (min result.toNat ariesBufferLength)).length))
      else some (.received (format.messageSetup stream)) := by
  obtain ⟨hlength, hmessage⟩ := hf stream (min result.toNat ariesBufferLength) (by omega)
  have hbuffer : ¬(stream.take (min result.toNat ariesBufferLength)).length < format.headerSize := by
    rw [List.length_take]
    omega
  rw [ariesRecv, transport_read_some (by omega)]
  simp only [hlength, hmessage, if_neg hbuffer]

lemma xmm626_recv_header : xmm626Recv format (result :: schedule) stream =
    if overLimit format (format.headerLength stream) then .failed
    else if format.headerLength stream > format.headerSize then
      receiveLoop xmm626Loop (format.messageSetup stream) (format.headerLength stream - format.headerSize) schedule
        ((stream.take (min result.toNat xmm626DataSize)).drop format.headerSize)
        (stream.drop (stream.take (min result.toNat xmm626DataSize)).length)
    else .received (format.messageSetup stream) := by
  have hsize := format.headerSize_le
  obtain ⟨hlength, hmessage⟩ := hf stream (min result.toNat xmm626DataSize) (by omega)
  have hbuffer : ¬(stream.take (min result.toNat xmm626DataSize)).length < format.headerSize := by
    rw [List.length_take]
    omega
  rw [xmm626Recv, transport_read_some (by omega)]
  simp only [hlength, hmessage, if_neg hbuffer]

end

lemma payload_end {loop : TransportLoop} (hl : ∀ left, 0 < left → 0 < loop.asked left) (message : ModemMessage)
    {header length count : ℕ} (hc : header ≤ count) (hs : header ≤ stream.length) (hlength : length ≤ stream.length) :
    receiveLoop loop message (length - header) schedule ((stream.take count).drop header)
        (stream.drop (stream.take count).length) =
      .ofEnd { message with data := (stream.drop header).take (length - header) }
        (transfer loop.accepts loop.counted schedule (length - count)) := by
  have hcount : (stream.take count).length = min count stream.length := List.length_take
  have hjoin : (stream.take count).drop header ++ stream.drop (stream.take count).length = stream.drop header := by
    rw [← List.drop_append_of_le_length (by omega), hcount]
    rcases Nat.le_total count stream.length with h | h
    · rw [Nat.min_eq_left h, List.take_append_drop]
    · rw [Nat.min_eq_right h, List.take_of_length_le h, List.drop_length, List.append_nil]
  have hmissing : length - header - ((stream.take count).drop header).length = length - count := by
    rw [List.length_drop]
    omega
  rw [receive_loop_end hl, hjoin, hmissing]
  rw [List.length_drop, List.length_drop]
  omega

lemma payload_short {header length count : ℕ} (hc : header ≤ count) (hs : header ≤ stream.length)
    (hlength : stream.length < length) :
    ((stream.take count).drop header).length + (stream.drop (stream.take count).length).length < length - header := by
  simp only [List.length_drop, List.length_take]
  omega

lemma aries_asks (left : ℕ) (h : 0 < left) : 0 < ariesLoop.asked left := by
  simp only [TransportLoop.asked, ariesLoop, Option.elim_some, ariesBufferLength]
  split <;> omega

lemma xmm626_asks (left : ℕ) (h : 0 < left) : 0 < xmm626Loop.asked left := h

/-- A run that ends has read at least once. -/
lemma recv_agrees_first : RecvAgrees (ariesRecv format limit) (xmm626Recv format) results stream ↔
    ∃ n m result, result ≠ .waits ∧
    ariesRecv format limit (results 0 :: firstResults (fun k => results (k + 1)) n) stream = some result ∧
    xmm626Recv format (results 0 :: firstResults (fun k => results (k + 1)) m) stream = result := by
  constructor
  · rintro ⟨n, m, result, hend, ha, hx⟩
    cases n with
    | zero => exact absurd (Option.some.inj ha).symm hend
    | succ n =>
      cases m with
      | zero => exact absurd hx.symm hend
      | succ m => exact ⟨n, m, result, hend, ha, hx⟩
  · rintro ⟨n, m, result, h⟩
    exact ⟨n + 1, m + 1, result, h⟩

section

variable (hf : ReadsHeader format) (hsize : format.headerSize ≤ ariesBufferLength)
  (hr : format.headerSize ≤ results 0) (hs : format.headerSize ≤ stream.length)
include hf hsize hr hs

lemma recv_agrees_refused (hlimit : overLimit format (format.headerLength stream) = true) :
    RecvAgrees (ariesRecv format format.limit) (xmm626Recv format) results stream := by
  have hl : format.limit.any (format.headerLength stream > ·) = true := hlimit
  refine recv_agrees_first.mpr ⟨0, 0, .failed, by simp, ?_, ?_⟩
  · rw [aries_recv_header hf hr hs hsize, if_pos hl]
  · rw [xmm626_recv_header hf hr hs, if_pos hlimit]

variable (hlimit : overLimit format (format.headerLength stream) = false)
include hlimit

lemma recv_apart_below (h : format.headerLength stream < format.headerSize) :
    ¬RecvAgrees (ariesRecv format format.limit) (xmm626Recv format) results stream := by
  have hl : format.limit.any (format.headerLength stream > ·) = false := hlimit
  have hpayload : ¬format.headerLength stream > format.headerSize := by omega
  rw [recv_agrees_first]
  rintro ⟨n, m, result, -, ha, hx⟩
  rw [xmm626_recv_header hf hr hs, hlimit, if_neg Bool.false_ne_true, if_neg hpayload] at hx
  rw [aries_recv_header hf hr hs hsize, hl, if_neg Bool.false_ne_true, if_pos h, ← hx] at ha
  split at ha <;> cases ha

lemma recv_agrees_bare (h : format.headerLength stream = format.headerSize) :
    RecvAgrees (ariesRecv format format.limit) (xmm626Recv format) results stream := by
  have hl : format.limit.any (format.headerLength stream > ·) = false := hlimit
  have hbelow : ¬format.headerLength stream < format.headerSize := by omega
  have hleft : ¬format.headerLength stream - format.headerSize > 0 := by omega
  have hpayload : ¬format.headerLength stream > format.headerSize := by omega
  refine recv_agrees_first.mpr ⟨0, 0, .received (format.messageSetup stream), by simp, ?_, ?_⟩
  · rw [aries_recv_header hf hr hs hsize, hl, if_neg Bool.false_ne_true, if_neg hbelow, if_neg hleft]
  · rw [xmm626_recv_header hf hr hs, hlimit, if_neg Bool.false_ne_true, if_neg hpayload]

variable (h : format.headerSize < format.headerLength stream)
include h

lemma aries_recv_payload (n : ℕ) :
    ariesRecv format format.limit (results 0 :: firstResults (fun k => results (k + 1)) n) stream =
      some (receiveLoop ariesLoop (format.messageSetup stream) (format.headerLength stream - format.headerSize)
        (firstResults (fun k => results (k + 1)) n)
        ((stream.take (min (results 0).toNat ariesBufferLength)).drop format.headerSize)
        (stream.drop (stream.take (min (results 0).toNat ariesBufferLength)).length)) := by
  have hl : format.limit.any (format.headerLength stream > ·) = false := hlimit
  have hbelow : ¬format.headerLength stream < format.headerSize := by omega
  have hleft : format.headerLength stream - format.headerSize > 0 := by omega
  rw [aries_recv_header hf hr hs hsize, hl, if_neg Bool.false_ne_true, if_neg hbelow, if_pos hleft]

omit hsize in
lemma xmm626_recv_payload (n : ℕ) :
    xmm626Recv format (results 0 :: firstResults (fun k => results (k + 1)) n) stream =
      receiveLoop xmm626Loop (format.messageSetup stream) (format.headerLength stream - format.headerSize)
        (firstResults (fun k => results (k + 1)) n)
        ((stream.take (min (results 0).toNat xmm626DataSize)).drop format.headerSize)
        (stream.drop (stream.take (min (results 0).toNat xmm626DataSize)).length) := by
  rw [xmm626_recv_header hf hr hs, hlimit, if_neg Bool.false_ne_true, if_pos h]

lemma recv_agrees_payload (hlength : format.headerLength stream ≤ stream.length) :
    RecvAgrees (ariesRecv format format.limit) (xmm626Recv format) results stream ↔ SameEnd (fun k => results (k + 1))
      (format.headerLength stream - min (results 0).toNat ariesBufferLength)
      (format.headerLength stream - min (results 0).toNat xmm626DataSize) := by
  have hmax := format.headerSize_le
  have ha : format.headerSize ≤ min (results 0).toNat ariesBufferLength := by omega
  have hx : format.headerSize ≤ min (results 0).toNat xmm626DataSize := by omega
  rw [recv_agrees_first, same_end_iff]
  simp only [aries_recv_payload hf hsize hr hs hlimit h, xmm626_recv_payload hf hr hs hlimit h, Option.some.injEq,
    payload_end aries_asks (format.messageSetup stream) ha hs hlength,
    payload_end xmm626_asks (format.messageSetup stream) hx hs hlength]
  constructor
  · rintro ⟨n, m, result, hend, rfl, hsame⟩
    exact ⟨n, m, fun hw => hend (congrArg _ hw), (recv_of_end_inj hsame).symm⟩
  · rintro ⟨n, m, hend, hsame⟩
    exact ⟨n, m, _, fun hw => hend (recv_of_end_inj (b := .waits) hw), rfl, congrArg _ hsame.symm⟩

lemma recv_agrees_early_end (hlength : stream.length < format.headerLength stream) :
    RecvAgrees (ariesRecv format format.limit) (xmm626Recv format) results stream ↔ ∃ k, results (k + 1) < 0 := by
  have hmax := format.headerSize_le
  have ha : format.headerSize ≤ min (results 0).toNat ariesBufferLength := by omega
  have hx : format.headerSize ≤ min (results 0).toNat xmm626DataSize := by omega
  have hashort := payload_short ha hs hlength
  rw [recv_agrees_first, ← aries_short_iff (format.messageSetup stream) (fun k => results (k + 1)) hashort]
  simp only [aries_recv_payload hf hsize hr hs hlimit h, xmm626_recv_payload hf hr hs hlimit h, Option.some.injEq]
  constructor
  · rintro ⟨n, m, result, hend, hna, -⟩
    refine ⟨n, ?_⟩
    cases result with
    | received message => exact absurd hna (short_not_received _ _ hashort message)
    | failed => exact hna
    | waits => exact absurd rfl hend
  · rintro ⟨n, hn⟩
    obtain ⟨m, hm⟩ := xmm626_short (format.messageSetup stream) (fun k => results (k + 1))
      (payload_short hx hs hlength)
    exact ⟨n, m, .failed, by simp, hn, hm⟩

end

lemma recv_agrees_iff (hf : ReadsHeader format) (hsize : format.headerSize ≤ ariesBufferLength) :
    RecvAgrees (ariesRecv format format.limit) (xmm626Recv format) results stream ↔
      RecvAlike format results stream := by
  rw [RecvAlike]
  by_cases hr : results 0 < format.headerSize
  · exact iff_of_true ⟨1, 1, .failed, by simp, aries_recv_short _ (.inl hr), xmm626_recv_short (.inl hr)⟩ (.inl hr)
  by_cases hs : stream.length < format.headerSize
  · exact iff_of_true ⟨1, 1, .failed, by simp, aries_recv_short _ (.inr hs), xmm626_recv_short (.inr hs)⟩
      (.inr (.inl hs))
  simp only [hr, hs, false_or]
  rw [Int.not_lt] at hr
  rw [Nat.not_lt] at hs
  cases hlimit : overLimit format (format.headerLength stream) with
  | true => exact iff_of_true (recv_agrees_refused hf hsize hr hs hlimit) (.inl rfl)
  | false =>
    simp only [Bool.false_eq_true, false_or]
    rcases Nat.lt_trichotomy (format.headerLength stream) format.headerSize with h | h | h
    · exact iff_of_false (recv_apart_below hf hsize hr hs hlimit h) (by omega)
    · exact iff_of_true (recv_agrees_bare hf hsize hr hs hlimit h) (.inl h)
    · have hne : ¬format.headerLength stream = format.headerSize := by omega
      simp only [hne, h, false_or, true_and]
      split
      · exact recv_agrees_payload hf hsize hr hs hlimit h ‹_›
      · exact recv_agrees_early_end hf hsize hr hs hlimit h (by omega)

/-- The endless loop: the stream has ended before the data did, and no call fails. -/
lemma aries_recv_waits (hf : ReadsHeader format) (hsize : format.headerSize ≤ ariesBufferLength)
    (hr : format.headerSize ≤ results 0) (hs : format.headerSize ≤ stream.length)
    (hlimit : overLimit format (format.headerLength stream) = false) (h : stream.length < format.headerLength stream)
    (hnever : ∀ k, 0 ≤ results (k + 1)) (n : ℕ) :
    ariesRecv format format.limit (firstResults results n) stream = some .waits := by
  have ha : format.headerSize ≤ min (results 0).toNat ariesBufferLength := by omega
  have hshort := payload_short ha hs h
  cases n with
  | zero => rfl
  | succ n =>
    rw [firstResults, aries_recv_payload hf hsize hr hs hlimit (by omega)]
    cases hend : receiveLoop ariesLoop (format.messageSetup stream) (format.headerLength stream - format.headerSize)
        (firstResults (fun k => results (k + 1)) n)
        ((stream.take (min (results 0).toNat ariesBufferLength)).drop format.headerSize)
        (stream.drop (stream.take (min (results 0).toNat ariesBufferLength)).length) with
    | waits => rfl
    | received message => exact absurd hend (short_not_received _ _ hshort message)
    | failed =>
      obtain ⟨k, hk⟩ := (aries_short_iff _ _ hshort).mp ⟨n, hend⟩
      exact absurd hk (Int.not_lt.mpr (hnever k))

end

theorem aries_transport_agrees (results : ℕ → ℤ) (stream : Bytes) (message : ModemMessage) :
    (RecvAgrees ariesFmtRecv (xmm626Recv fmtFormat) results stream ↔ RecvAlike fmtFormat results stream) ∧
    (RecvAgrees ariesRfsRecv (xmm626Recv rfsFormat) results stream ↔ RecvAlike rfsFormat results stream) ∧
    (SendAgrees ariesFmtSend (xmm626Send fmtFormat) results message ↔
      SameEnd results (frame fmtFormat message).length (frame fmtFormat message).length) ∧
    (SendAgrees ariesRfsSend (xmm626Send rfsFormat) results message ↔
      SameEnd results (frame rfsFormat message).length (frame rfsFormat message).length) :=
  ⟨recv_agrees_iff fmt_reads_header (by decide), recv_agrees_iff rfs_reads_header (by decide),
    send_agrees_iff fmtFormat message, send_agrees_iff rfsFormat message⟩

/-- A header that declares 3 bytes, and a stream that ends 3 bytes too early -/
theorem aries_transport_disagrees :
    ¬RecvAgrees ariesFmtRecv (xmm626Recv fmtFormat) (fun _ => 7) [3, 0, 0, 0, 0, 0, 0] ∧
    (∀ n, ariesFmtRecv (firstResults (fun k => if k = 0 then 9 else 0) n) [12, 0, 0, 0, 0, 0, 0, 1, 2] = some .waits) ∧
    xmm626Recv fmtFormat (firstResults (fun k => if k = 0 then 9 else 0) 2) [12, 0, 0, 0, 0, 0, 0, 1, 2] = .failed := by
  refine ⟨?_, fun n => ?_, by decide⟩
  · exact recv_apart_below fmt_reads_header (by decide) (by decide) (by decide) rfl (by decide)
  · exact aries_recv_waits fmt_reads_header (by decide) (by decide) (by decide) rfl (by decide)
      (fun k => by simp) n

end Ril.Ipc
