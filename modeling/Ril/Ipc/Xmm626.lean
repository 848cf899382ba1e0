import Mathlib.Algebra.Order.Ring.Int
import Ril.Ipc.Message
import Ril.Lib.Memory
import Ril.Lib.Socket

/-! How the XMM626 modem's messages are written to a transport and read from it. -/

namespace Ril.Ipc

open Lib

/-- `struct ipc_message`; the data is NULL where it is empty. -/
structure ModemMessage where
  mseq : UInt8
  aseq : UInt8
  command : UInt16
  type : UInt8
  data : Bytes
deriving DecidableEq, Repr

def ipcGroup (command : UInt16) : UInt8 := UInt8.ofNat (command.toNat / 256)

def ipcIndex (command : UInt16) : UInt8 := UInt8.ofNat (command.toNat % 256)

def ipcCommand (group index : UInt8) : UInt16 := UInt16.ofNat (256 * group.toNat + index.toNat)

def ipcGroupRfs : UInt8 := 0x42

def xmm626DataSize : ℕ := 0x1000

def xmm626DataSizeLimit : ℕ := 0x80000

lemma short_at_short_bytes (n : ℕ) (rest : Bytes) : shortAt (shortBytes n ++ rest) 0 = n % 2 ^ 16 := by
  have h : shortAt (shortBytes n ++ rest) 0 = (UInt8.ofNat n).toNat + 256 * (UInt8.ofNat (n / 256)).toNat := rfl
  rw [h, UInt8.toNat_ofNat', UInt8.toNat_ofNat']
  omega

lemma int_at_int_bytes (n : ℕ) (rest : Bytes) : intAt (intBytes n ++ rest) 0 = n % 2 ^ 32 := by
  have h : shortAt (intBytes n ++ rest) 2 = shortAt (shortBytes (n / 65536) ++ rest) 0 := rfl
  rw [intAt, h, short_at_short_bytes, intBytes, List.append_assoc, short_at_short_bytes]
  omega

lemma short_at_lt (data : Bytes) (offset : ℕ) : shortAt data offset < 2 ^ 16 := by
  have h0 := (byteAt data offset).toNat_lt
  have h1 := (byteAt data (offset + 1)).toNat_lt
  rw [shortAt]
  omega

lemma byte_at_take {i k : ℕ} (h : i < k) (data : Bytes) : byteAt (data.take k) i = byteAt data i := by
  rw [byteAt, byteAt, List.getD_eq_getElem?_getD, List.getD_eq_getElem?_getD, List.getElem?_take_of_lt h]

lemma short_at_take {i k : ℕ} (h : i + 1 < k) (data : Bytes) : shortAt (data.take k) i = shortAt data i := by
  rw [shortAt, shortAt, byte_at_take (by omega), byte_at_take h]

lemma int_at_lt (data : Bytes) (offset : ℕ) : intAt data offset < 2 ^ 32 := by
  have h0 := (byteAt data offset).toNat_lt
  have h1 := (byteAt data (offset + 1)).toNat_lt
  have h2 := (byteAt data (offset + 2)).toNat_lt
  have h3 := (byteAt data (offset + 2 + 1)).toNat_lt
  rw [intAt, shortAt, shortAt]
  omega

lemma ipc_command_eq (command : UInt16) : ipcCommand (ipcGroup command) (ipcIndex command) = command := by
  have h := command.toNat_lt
  refine UInt16.toNat_inj.mp ?_
  rw [ipcCommand, ipcGroup, ipcIndex, UInt8.toNat_ofNat', UInt8.toNat_ofNat', UInt16.toNat_ofNat']
  omega

/-- A header has a length field, which counts the header as well and is cut to its width. What a receiver makes of a
header is the message without its data. -/
structure SecModemFormat where
  headerSize : ℕ
  lengthBound : ℕ
  limit : Option ℕ
  headerSetup : ModemMessage → Bytes
  headerLength : Bytes → ℕ
  messageSetup : Bytes → ModemMessage
  delivered : ModemMessage → ModemMessage
  headerSize_lt : headerSize < lengthBound
  headerSize_le : headerSize ≤ xmm626DataSize
  header_length : ∀ m, (headerSetup m).length = headerSize
  length_setup : ∀ m rest, headerLength (headerSetup m ++ rest) = (m.data.length + headerSize) % lengthBound
  message_setup : ∀ m rest, messageSetup (headerSetup m ++ rest) = { delivered m with data := [] }
  delivered_data : ∀ m, (delivered m).data = m.data

/-- `struct ipc_fmt_header` -/
def ipcFmtHeaderSetup (message : ModemMessage) : Bytes :=
  shortBytes (message.data.length + 7) ++
    [message.mseq, message.aseq, ipcGroup message.command, ipcIndex message.command, message.type]

def ipcFmtMessageSetup (header : Bytes) : ModemMessage :=
  ⟨byteAt header 2, byteAt header 3, ipcCommand (byteAt header 4) (byteAt header 5), byteAt header 6, []⟩

/-- `struct ipc_rfs_header` -/
def ipcRfsHeaderSetup (message : ModemMessage) : Bytes :=
  intBytes (message.data.length + 6) ++ [ipcIndex message.command, message.mseq]

def ipcRfsMessageSetup (header : Bytes) : ModemMessage :=
  ⟨0, byteAt header 5, ipcCommand ipcGroupRfs (byteAt header 4), 0, []⟩

def fmtFormat : SecModemFormat where
  headerSize := 7
  lengthBound := 2 ^ 16
  limit := none
  headerSetup := ipcFmtHeaderSetup
  headerLength header := shortAt header 0
  messageSetup := ipcFmtMessageSetup
  delivered m := m
  headerSize_lt := by decide
  headerSize_le := by decide
  header_length _ := rfl
  length_setup m rest := by
    rw [ipcFmtHeaderSetup, List.append_assoc]
    exact short_at_short_bytes _ _
  message_setup m rest := by
    have h : ipcFmtMessageSetup (ipcFmtHeaderSetup m ++ rest) =
        ⟨m.mseq, m.aseq, ipcCommand (ipcGroup m.command) (ipcIndex m.command), m.type, []⟩ := rfl
    rw [h, ipc_command_eq]
  delivered_data _ := rfl

def rfsFormat : SecModemFormat where
  headerSize := 6
  lengthBound := 2 ^ 32
  limit := some xmm626DataSizeLimit
  headerSetup := ipcRfsHeaderSetup
  headerLength header := intAt header 0
  messageSetup := ipcRfsMessageSetup
  delivered m := ⟨0, m.mseq, ipcCommand ipcGroupRfs (ipcIndex m.command), 0, m.data⟩
  headerSize_lt := by decide
  headerSize_le := by decide
  header_length _ := rfl
  length_setup m rest := by
    rw [ipcRfsHeaderSetup, List.append_assoc]
    exact int_at_int_bytes _ _
  message_setup _ _ := rfl
  delivered_data _ := rfl

inductive SendResult
  | sent | failed | waits
deriving DecidableEq, Repr

inductive RecvResult
  | received (message : ModemMessage)
  | failed
  | waits
deriving DecidableEq, Repr

section

variable (format : SecModemFormat)

/-- The loop of the writes; an event says how much of what is left a write accepts. -/
def writeAll : List ReadEvent → Bytes → SendResult × Bytes
  | _, [] => (.sent, [])
  | [], _ :: _ => (.waits, [])
  | event :: events, b :: p =>
    match readSocket event (p.length + 1) (b :: p) with
    | .error _ => (.failed, [])
    | .ok data => ((writeAll events ((b :: p).drop data.length)).1,
        data ++ (writeAll events ((b :: p).drop data.length)).2)

/-- The result, the bytes that were written, and what was copied into the buffer -/
def secModemSend (writes : List ReadEvent) (message : ModemMessage) : SendResult × Bytes × List BlockCopy :=
  let header := format.headerSetup message
  let length := format.headerLength header
  let copies := ⟨length, 0, format.headerSize⟩ ::
    if message.data.length > 0 then [⟨length, format.headerSize, message.data.length⟩] else []
  let result := writeAll writes ((header ++ message.data).take length)
  (result.1, result.2, copies)

/-- The loop of the reads, after so much of the data was copied -/
def readAll (message : ModemMessage) (size : ℕ) : List ReadEvent → Bytes → Bytes → RecvResult × List BlockCopy
  | events, data, stream =>
    if size ≤ data.length then (.received { message with data := data.take size }, [])
    else
      match events with
      | [] => (.waits, [])
      | event :: events =>
        match readSocket event (size - data.length) stream with
        | .error _ => (.failed, [])
        | .ok more =>
          if more.length = 0 then (.failed, [])
          else
            let result := readAll message size events (data ++ more) (stream.drop more.length)
            (result.1, ⟨size, data.length, more.length⟩ :: result.2)

def overLimit (length : ℕ) : Bool := format.limit.any (length > ·)

/-- The first read fills a buffer of its own, which the data is copied from. -/
def secModemRecv (reads : List ReadEvent) (stream : Bytes) : RecvResult × List BlockCopy :=
  match reads with
  | [] => (.waits, [])
  | event :: events =>
    match readSocket event xmm626DataSize stream with
    | .error _ => (.failed, [])
    | .ok buffer =>
      let first : BlockCopy := ⟨xmm626DataSize, 0, buffer.length⟩
      if buffer.length < format.headerSize then (.failed, [first])
      else
        let length := format.headerLength buffer
        if overLimit format length then (.failed, [first])
        else
          let message := format.messageSetup buffer
          if length > format.headerSize then
            let size := length - format.headerSize
            let count := buffer.length - format.headerSize
            let copies := if count > 0 then [⟨size, 0, count⟩] else []
            let result := readAll message size events (buffer.drop format.headerSize) (stream.drop buffer.length)
            (result.1, first :: copies ++ result.2)
          else (.received message, [first])

end

def xmm626SecModemFmtSend := secModemSend fmtFormat

def xmm626SecModemFmtRecv := secModemRecv fmtFormat

def xmm626SecModemRfsSend := secModemSend rfsFormat

def xmm626SecModemRfsRecv := secModemRecv rfsFormat

end Ril.Ipc
