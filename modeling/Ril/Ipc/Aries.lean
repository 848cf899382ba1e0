import Ril.Ipc.Xmm626
import Ril.Lib.Transfer

/-! The loops of the Aries modem next to those of the XMM626 one, over a transport whose calls return what a schedule
says. -/

namespace Ril.Ipc

open Lib

/-- How a modem's loops use the transport: the size of the first read, the most that is asked for afterwards, and
whether a call that returns 0 is an error like one that returns less. -/
structure TransportLoop where
  bufferSize : ℕ
  chunkSize : Option ℕ
  zeroFails : Bool

def ariesBufferLength : ℕ := 4032

def ariesDataSizeLimit : ℕ := 0x80000

def ariesLoop : TransportLoop := ⟨ariesBufferLength, some ariesBufferLength, false⟩

def xmm626Loop : TransportLoop := ⟨xmm626DataSize, none, true⟩

section

variable (loop : TransportLoop)

/-- What is asked for when so much is left -/
def TransportLoop.asked (left : ℕ) : ℕ := loop.chunkSize.elim left fun chunk => if left < chunk then left else chunk

def TransportLoop.accepts (result : ℤ) : Bool := if loop.zeroFails then decide (0 < result) else decide (0 ≤ result)

/-- What a result is worth to a loop that never gets more than it asks for -/
def TransportLoop.counted (result : ℤ) : ℕ := loop.chunkSize.elim result.toNat (min result.toNat)

/-- The bytes that a read brings; less than the result where less was asked for, or less is there -/
def transportRead (result : ℤ) (asked : ℕ) (stream : Bytes) : Option Bytes :=
  if result < 0 then none else some (stream.take (min result.toNat asked))

/-- The loop of the writes, and the bytes that were written -/
def sendLoop : List ℤ → Bytes → SendResult × Bytes
  | _, [] => (.sent, [])
  | [], _ :: _ => (.waits, [])
  | result :: results, b :: p =>
    if !loop.accepts result then (.failed, [])
    else
      let count := min result.toNat (loop.asked (p.length + 1))
      ((sendLoop results ((b :: p).drop count)).1, (b :: p).take count ++ (sendLoop results ((b :: p).drop count)).2)

/-- The loop of the reads, after so much of the data was copied -/
def receiveLoop (message : ModemMessage) (size : ℕ) : List ℤ → Bytes → Bytes → RecvResult
  | results, data, stream =>
    if size ≤ data.length then .received { message with data := data.take size }
    else
      match results with
      | [] => .waits
      | result :: results =>
        match transportRead result (loop.asked (size - data.length)) stream with
        | none => .failed
        | some more =>
          if loop.zeroFails && more.length == 0 then .failed
          else receiveLoop message size results (data ++ more) (stream.drop more.length)

end

section

variable (format : SecModemFormat)

/-- `header.length` bytes of the header and the data -/
def frame (message : ModemMessage) : Bytes :=
  (format.headerSetup message ++ message.data).take (format.headerLength (format.headerSetup message))

def ariesSend (results : List ℤ) (message : ModemMessage) : SendResult × Bytes :=
  sendLoop ariesLoop results (frame format message)

def xmm626Send (results : List ℤ) (message : ModemMessage) : SendResult × Bytes :=
  sendLoop xmm626Loop results (frame format message)

/-- `none` stands for an access to `NULL`. A header that declares less than itself leaves a size that wraps around,
which no block is allocated for: the data that came with the header is copied to `NULL`, or `aries_read` refuses to
read there. -/
def ariesRecv (limit : Option ℕ) (results : List ℤ) (stream : Bytes) : Option RecvResult :=
  match results with
  | [] => some .waits
  | result :: results =>
    match transportRead result ariesBufferLength stream with
    | none => some .failed
    | some buffer =>
      if buffer.length < format.headerSize then some .failed
      else
        let length := format.headerLength buffer
        if limit.any (length > ·) then some .failed
        else
          let message := format.messageSetup buffer
          let count := buffer.length - format.headerSize
          if length < format.headerSize then
            if count > 0 then none else some .failed
          else if length - format.headerSize > 0 then
            some (receiveLoop ariesLoop message (length - format.headerSize) results (buffer.drop format.headerSize)
              (stream.drop buffer.length))
          else some (.received message)

def xmm626Recv (results : List ℤ) (stream : Bytes) : RecvResult :=
  match results with
  | [] => .waits
  | result :: results =>
    match transportRead result xmm626DataSize stream with
    | none => .failed
    | some buffer =>
      if buffer.length < format.headerSize then .failed
      else
        let length := format.headerLength buffer
        if overLimit format length then .failed
        else
          let message := format.messageSetup buffer
          if length > format.headerSize then
            receiveLoop xmm626Loop message (length - format.headerSize) results (buffer.drop format.headerSize)
              (stream.drop buffer.length)
          else .received message

end

def ariesFmtSend := ariesSend fmtFormat

def ariesFmtRecv := ariesRecv fmtFormat none

def ariesRfsSend := ariesSend rfsFormat

def ariesRfsRecv := ariesRecv rfsFormat (some ariesDataSizeLimit)

/-! ### The XMM626 modem over a stream -/

/-- What a `read` or `write` returns when it finds so much -/
def resultOf : ReadEvent → ℤ
  | .ready more => more + 1
  | .failed _ => -1

lemma transport_read_event (event : ReadEvent) (asked : ℕ) (stream : Bytes) :
    transportRead (resultOf event) asked stream = (readSocket event asked stream).toOption := by
  cases event with
  | failed errno => rfl
  | ready more =>
    have h : ¬((more : ℤ) + 1 < 0) := by omega
    have hn : ((more : ℤ) + 1).toNat = more + 1 := by omega
    simp only [transportRead, resultOf, h, if_false, hn, readSocket, Except.toOption]

lemma send_loop_events (events : List ReadEvent) (p : Bytes) :
    sendLoop xmm626Loop (events.map resultOf) p = writeAll events p := by
  induction events generalizing p with
  | nil => cases p <;> rfl
  | cons event events ih =>
    cases p with
    | nil => rfl
    | cons b p =>
      cases event with
      | failed errno => rfl
      | ready more =>
        have h : xmm626Loop.accepts (resultOf (.ready more)) = true := by
          have hpos : (0 : ℤ) < more + 1 := by omega
          exact decide_eq_true hpos
        have hn : (resultOf (.ready more)).toNat = more + 1 := by
          simp only [resultOf]
          omega
        have hasked : xmm626Loop.asked (p.length + 1) = p.length + 1 := rfl
        have hlen : ((b :: p).take (min (more + 1) (p.length + 1))).length = min (more + 1) (p.length + 1) := by
          rw [List.length_take, List.length_cons]
          omega
        simp only [List.map_cons, sendLoop, h, Bool.not_true, Bool.false_eq_true, if_false, hn, hasked, ih, writeAll,
          readSocket, hlen]

lemma receive_loop_events (message : ModemMessage) (size : ℕ) (events : List ReadEvent) (data stream : Bytes) :
    receiveLoop xmm626Loop message size (events.map resultOf) data stream =
      (readAll message size events data stream).1 := by
  induction events generalizing data stream with
  | nil =>
    rw [List.map_nil, receiveLoop, readAll]
    split <;> rfl
  | cons event events ih =>
    rw [List.map_cons, receiveLoop, readAll]
    split
    · rfl
    · have hasked : xmm626Loop.asked (size - data.length) = size - data.length := rfl
      have hzero : xmm626Loop.zeroFails = true := rfl
      simp only [hasked, hzero, transport_read_event, Bool.true_and, beq_iff_eq]
      cases readSocket event (size - data.length) stream with
      | error errno => rfl
      | ok more =>
        simp only [Except.toOption]
        split
        · rfl
        · exact ih _ _

/-- Where no call returns 0 before the end of the stream, these are the functions over a stream of the other modules. -/
lemma xmm626_recv_events (format : SecModemFormat) (events : List ReadEvent) (stream : Bytes) :
    xmm626Recv format (events.map resultOf) stream = (secModemRecv format events stream).1 := by
  cases events with
  | nil => rfl
  | cons event events =>
    rw [List.map_cons, xmm626Recv, secModemRecv]
    simp only [transport_read_event]
    cases readSocket event xmm626DataSize stream with
    | error errno => rfl
    | ok buffer =>
      simp only [Except.toOption, receive_loop_events]
      split
      · rfl
      · split
        · rfl
        · split <;> rfl

lemma xmm626_send_events (format : SecModemFormat) (events : List ReadEvent) (message : ModemMessage) :
    xmm626Send format (events.map resultOf) message =
      ((secModemSend format events message).1, (secModemSend format events message).2.1) :=
  send_loop_events events _

end Ril.Ipc
