import Ril.Srs.Transport

/-! The messages of the control server and of its Java client: the length of a header, the header with the length of the
data, and the data. -/

namespace Ril.Mock

open Lib
open Ipc (Bytes intAt intBytes)
open Srs (toInt)

/-- The fields that are not required may be absent. -/
structure MsgHeader where
  cmd : UInt32
  lengthData : UInt32
  status : Option UInt32
  token : Option UInt64
deriving DecidableEq, Repr

/-- `ctrl_server.cpp`, and the client of `Msg.java` -/
inductive ControlPeer
  | server | client
deriving DecidableEq, Repr

/-- The protobuf libraries of the two peers. `parseFromArray` is called on any bytes, and its answer is not looked at;
`parseFrom` may throw. -/
structure HeaderLibrary where
  serialize : ControlPeer → MsgHeader → Bytes
  parseFromArray : Bytes → MsgHeader
  parseFrom : Bytes → Option MsgHeader

/-- `STATUS_OK`, `STATUS_ERR` and `STATUS_CLIENT_CLOSED_CONNECTION`; or the process has ended, or the loop goes on -/
inductive TransferStatus
  | ok | err | clientClosedConnection | aborted | running
deriving DecidableEq, Repr

/-! ### Writing -/

/-- What a `send` finds: it takes so many more bytes than one -/
inductive SendEvent
  | takes (more : ℕ)
  | closed
  | failed
deriving DecidableEq, Repr

structure Outgoing where
  sent : Bytes := []
  calls : ℕ := 0
deriving DecidableEq, Repr

def writeLoop (events : ℕ → SendEvent) : ℕ → Bytes → ℤ → Outgoing → TransferStatus × Outgoing
  | 0, _, _, s => (.running, s)
  | fuel + 1, bytes, length, s =>
    if 0 < length then
      match events s.calls with
      | .failed => (.err, { s with calls := s.calls + 1 })
      | .closed => (.clientClosedConnection, { s with calls := s.calls + 1 })
      | .takes more =>
        let retValue := min (more + 1) length.toNat
        writeLoop events fuel (bytes.drop retValue) (length - retValue)
          { sent := s.sent ++ bytes.take retValue, calls := s.calls + 1 }
    else (.ok, s)

def writeAll (events : ℕ → SendEvent) (bytes : Bytes) (length : ℤ) (s : Outgoing) : TransferStatus × Outgoing :=
  writeLoop events (length.toNat + 1) bytes length s

/-- A step that is taken where the one before it is ok -/
def TransferStatus.thenWrite (r : TransferStatus × Outgoing) (next : Outgoing → TransferStatus × Outgoing) :
    TransferStatus × Outgoing :=
  if r.1 = .ok then next r.2 else r

def writeMessage (L : HeaderLibrary) (events : ℕ → SendEvent) (mh : MsgHeader) (buffer : Option Bytes) (s : Outgoing) :
    TransferStatus × Outgoing :=
  let mh := { mh with lengthData := buffer.elim 0 fun buffer => UInt32.ofNat buffer.length }
  let msgHeaderRaw := L.serialize .server mh
  TransferStatus.thenWrite (writeAll events (intBytes msgHeaderRaw.length) 4 s) fun s =>
    TransferStatus.thenWrite (writeAll events msgHeaderRaw msgHeaderRaw.length s) fun s =>
      match buffer with
      | some buffer => if 0 < mh.lengthData then writeAll events buffer (toInt buffer.length) s else (.ok, s)
      | none => (.ok, s)

/-- `Msg.sendHeader`; `sendAll` has the loop of `WriteAll`, and throws where that returns. -/
def sendHeader (L : HeaderLibrary) (events : ℕ → SendEvent) (mh : MsgHeader) (s : Outgoing) : TransferStatus × Outgoing :=
  let mhBuffer := L.serialize .client mh
  TransferStatus.thenWrite (writeAll events (intBytes mhBuffer.length) 4 s) fun s =>
    writeAll events mhBuffer mhBuffer.length s

/-- `Msg.send`; the buffers of Java have less than 2^31 bytes. -/
def msgSend (L : HeaderLibrary) (events : ℕ → SendEvent) (mh : MsgHeader) (data : Option Bytes) (s : Outgoing) :
    TransferStatus × Outgoing :=
  let lenData := data.elim 0 List.length
  TransferStatus.thenWrite (sendHeader L events { mh with lengthData := UInt32.ofNat lenData } s) fun s =>
    if 0 < lenData then writeAll events (data.getD []) lenData s else (.ok, s)

/-! ### Reading -/

structure Incoming where
  stream : Bytes
  calls : ℕ := 0
deriving DecidableEq, Repr

/-- What a loop has received -/
structure Received where
  status : TransferStatus
  bytes : Bytes
  rest : Incoming
deriving DecidableEq, Repr

/-- `length` is converted to a `size_t` for `recv`. -/
def readLoop (events : ℕ → ReadEvent) : ℕ → ℤ → Bytes → Incoming → Received
  | 0, _, bytes, s => ⟨.running, bytes, s⟩
  | fuel + 1, length, bytes, s =>
    if length ≠ 0 then
      match readSocket (events s.calls) (length % 2 ^ 32).toNat s.stream with
      | .error _ => ⟨.err, bytes, { s with calls := s.calls + 1 }⟩
      | .ok [] => ⟨.clientClosedConnection, bytes, { s with calls := s.calls + 1 }⟩
      | .ok data =>
        readLoop events fuel (length - data.length) (bytes ++ data) ⟨s.stream.drop data.length, s.calls + 1⟩
    else ⟨.ok, bytes, s⟩

def readAll (events : ℕ → ReadEvent) (length : ℤ) (s : Incoming) : Received :=
  readLoop events (s.stream.length + 1) length [] s

/-- What a buffer has room for, and what was received into it -/
structure Receipt where
  room : ℕ
  received : ℕ
deriving DecidableEq, Repr

/-- The room of `alloca(length)`, with so much left of the stack -/
def allocaRoom (stack : ℕ) (length : ℤ) : ℕ := if 0 ≤ length ∧ length ≤ stack then length.toNat else 0

/-- `Buffer::New` throws a length that is no `Int32`, and the assertion of `Unwrap` fails. -/
def obtainBuffer (length : UInt32) : Option ℕ := if 0 ≤ toInt length.toNat then some length.toNat else none

structure MessageRead where
  status : TransferStatus
  receipts : List Receipt
  message : Option (MsgHeader × Option Bytes)
  rest : Incoming
deriving DecidableEq, Repr

/-- The data of a message, behind its header -/
def readData (events : ℕ → ReadEvent) (mh : MsgHeader) (receipts : List Receipt) (s : Incoming) : MessageRead :=
  if 0 < mh.lengthData then
    match obtainBuffer mh.lengthData with
    | none => ⟨.aborted, receipts, none, s⟩
    | some length =>
      let data := readAll events length s
      ⟨data.status, receipts ++ [⟨length, data.bytes.length⟩],
        if data.status = .ok then some (mh, some data.bytes) else none, data.rest⟩
  else ⟨.ok, receipts, some (mh, none), s⟩

def readMessage (L : HeaderLibrary) (stack : ℕ) (events : ℕ → ReadEvent) (s : Incoming) : MessageRead :=
  let word := readAll events 4 s
  let receipts := [⟨4, word.bytes.length⟩]
  if word.status = .ok then
    let lenMsgHeader := toInt (intAt word.bytes 0)
    let raw := readAll events lenMsgHeader word.rest
    let receipts := receipts ++ [⟨allocaRoom stack lenMsgHeader, raw.bytes.length⟩]
    if raw.status = .ok then readData events (L.parseFromArray raw.bytes) receipts raw.rest
    else ⟨raw.status, receipts, none, raw.rest⟩
  else ⟨word.status, receipts, none, word.rest⟩

/-- `ByteBuffer.allocate` and `RilChannel.recvAllRewind`: there is no result where one of them throws or the stream
ends. -/
def recvAllRewind (events : ℕ → ReadEvent) (length : ℤ) (s : Incoming) : Option (Bytes × Incoming) :=
  if 0 ≤ length then
    let r := readAll events length s
    if r.status = .ok then some (r.bytes, r.rest) else none
  else none

/-- `Msg.recvHeader` -/
def recvHeader (L : HeaderLibrary) (events : ℕ → ReadEvent) (s : Incoming) : Option (MsgHeader × Incoming) :=
  (recvAllRewind events 4 s).bind fun lenBuffer =>
    (recvAllRewind events (toInt (intAt lenBuffer.1 0)) lenBuffer.2).bind fun mhBuffer =>
      (L.parseFrom mhBuffer.1).map fun mh => (mh, mhBuffer.2)

/-- `Msg.read` of a `Msg` with this data; `Msg.recv` has a new one, with none. -/
def msgRead (L : HeaderLibrary) (events : ℕ → ReadEvent) (mData : Option Bytes) (s : Incoming) :
    Option ((MsgHeader × Option Bytes) × Incoming) :=
  (recvHeader L events s).bind fun r =>
    if 0 < toInt r.1.lengthData.toNat then
      (recvAllRewind events (toInt r.1.lengthData.toNat) r.2).map fun bb => ((r.1, some bb.1), bb.2)
    else some ((r.1, mData), r.2)

end Ril.Mock
