import Ril.Ipc.PayloadExtraction
import Ril.Lib.Reading
import Ril.Samsung.Sim

/-! The answer to a SIM access as it is read byte by byte from the message. -/

namespace Ril.Samsung

open Lib Ipc

/-- `struct sim_file_response`, less the bytes that are always the same -/
structure SimFileResponse where
  fileSize : UInt8 × UInt8
  fileId : UInt8 × UInt8
  fileType : UInt8
  fileStructure : UInt8
  recordLength : UInt8
deriving DecidableEq, Repr

def SimFileResponse.bytes (response : SimFileResponse) : Bytes :=
  [0, 0, response.fileSize.1, response.fileSize.2, response.fileId.1, response.fileId.2, response.fileType, 0, 0x00,
    0xff, 0xff, 0x01, 0x02, response.fileStructure, response.recordLength]

inductive RsimAnswer
  | empty
  | payload (string : Option CString)
  | file (response : SimFileResponse)
deriving DecidableEq, Repr

def RsimAnswer.simResponse : RsimAnswer → Option CString
  | empty => none
  | payload string => string
  | file response => data2string response.bytes

/-- What stands at a position of the message -/
def messageMemory (message : Bytes) (position : ℤ) : UInt8 := byteAt message position.toNat

/-- `ipc_sec_rsim_access_extract` as a pointer into the message -/
def rsimPointer (message : Bytes) : Option ℤ := (ipcSecRsimAccessExtract message).map fun _ => 3

def data2stringReading (data : Option ℤ) (size : ℕ) : Reading UInt8 (Option CString) :=
  data.elim (pure none) fun base => do
    let cells ← Reading.readCells base size
    return data2string cells

def scanReading (usim : Option ℤ) : ℕ → Reading UInt8 ℕ
  | 0 => pure 0
  | offset + 1 =>
    if 2 < offset + 1 then do
      let tag ← Reading.readAt usim (offset + 1 : ℕ)
      if tag = 0x88 then pure (offset + 1 - 2) else scanReading usim offset
    else pure (offset + 1)

/-- The offset of the file's identifier is unsigned and added to a pointer of the same width: from 0 and 1 the position
is before the header. -/
def usimFileReading (usim : Option ℤ) (length : ℕ) (fileid : ℤ) : Reading UInt8 RsimAnswer :=
  if length < 8 then pure .empty
  else do
    let offset ← Reading.readAt usim 3
    if length < 8 + offset.toNat then pure .empty
    else
      let fileId0 ← Reading.readAt usim ((offset.toNat : ℤ) - 2)
      let fileId1 ← Reading.readAt usim ((offset.toNat : ℤ) - 1)
      let size ← scanReading usim (length - 2)
      if size ≤ 2 then pure .empty
      else
        let fileSize0 ← Reading.readAt usim size
        let fileSize1 ← Reading.readAt usim (size + 1 : ℕ)
        let fileStructure ← Reading.readAt usim 6
        let recordLength ← Reading.readAt usim 7
        pure (.file ⟨(fileSize0, fileSize1), (fileId0, fileId1), simFileType fileid,
          if fileStructure = 0x83 then 0x00 else 0x01, recordLength⟩)

/-- What is read through the pointer that the extraction returns -/
def simIoReading (iccType : UInt8) (header : IpcSecRsimAccessResponseHeader) (message : Bytes) (simIo : RilSimIo) :
    Reading UInt8 RsimAnswer :=
  let data := rsimPointer message
  let payload := do
    let string ← data2stringReading data header.length.toNat
    return .payload string
  if header.length = 0 then pure .empty
  else if simIo.command = 0xb0 ∨ simIo.command = 0xb2 then payload
  else if simIo.command = 0xc0 then
    if iccType = 0x01 then payload else usimFileReading data header.length.toNat simIo.fileid
  else pure .empty

/-- The function up to the completion of the request; `none` where the size check fails -/
def rsimAccessReading (iccType : UInt8) (message : Bytes) (simIo : RilSimIo) : Reading UInt8 (Option RsimAnswer) :=
  (IpcSecRsimAccessResponseHeader.read message).elim (pure none) fun header => do
    let answer ← simIoReading iccType header message simIo
    return some answer

end Ril.Samsung

/-! The handlers of messages with counts and lengths as far as they read the message, and the ranges of it that they
hand on. -/

namespace Ril.Samsung

open Lib Ipc

/-- `struct ipc_message` with a pointer to its data -/
structure MessageBlock where
  aseq : UInt8
  type : IpcResponseType
  data : Option ℤ
  size : ℕ
deriving DecidableEq, Repr

/-- What the handlers look up before they read on -/
structure HandlerState where
  fmtClientReady : Bool
  rfsClientReady : Bool
  sendSmsData : Bool
deriving DecidableEq, Repr

def MessageBlock.isAnswer (message : MessageBlock) : Bool := message.type == .resp && ipcSeqValid message.aseq

def ipcMiscMeImsiReading (message : MessageBlock) : Reading UInt8 (List Reading.Span) :=
  checkedReading message.data message.size 1 [] <|
    if message.isAnswer then do
      let imsi ← ipcMiscMeImsiImsiExtractReading message.data message.size
      return imsi.2
    else pure []

def readFields (base : ℤ) : List ℕ → Reading UInt8 (List UInt8)
  | [] => pure []
  | offset :: offsets => do
    let cell ← Reading.readAt (some base) offset
    let cells ← readFields base offsets
    return cell :: cells

/-- `for (index = 0; index < count; index++)`, for so many rounds at most -/
def callListLoop (message : MessageBlock) (count : UInt8) : ℕ → UInt8 → Reading UInt8 (List Reading.Span)
  | 0, _ => .null
  | rounds + 1, index =>
    if index < count then do
      let entry ← ipcCallListEntryExtractReading message.data message.size index.toUInt32
      entry.elim (pure []) fun entry => do
        let number ← ipcCallListEntryNumberExtractReading (some entry)
        -- status, id, mpty, term, type, number_length
        let _ ← readFields entry [4, 2, 5, 3, 1, 6]
        let rest ← callListLoop message count rounds (index + 1)
        return number.2 ++ rest
    else pure []

def ipcCallListReading (message : MessageBlock) : Reading UInt8 (List Reading.Span) :=
  checkedReading message.data message.size 1 [] <|
    if message.isAnswer then do
      let count ← ipcCallListCountExtractReading message.data message.size
      callListLoop message count (2 ^ 8) 0
    else pure []

/-- The entries are handed on with the size of all of them, when the first one is there. -/
def ipcSvcDisplayScreenReading (state : HandlerState) (message : MessageBlock) : Reading UInt8 (List Reading.Span) :=
  checkedReading message.data message.size 1 [] <|
    if state.fmtClientReady then do
      let count ← ipcSvcDisplayScreenCountExtractReading message.data message.size
      if count = 0 then pure []
      else do
        let entry ← ipcSvcDisplayScreenExtractReading message.data message.size 0
        entry.elim (pure []) fun entry => do
          let index ← readFields entry [0, 1]
          return if shortAt index 0 = 0 then [⟨entry, count.toNat * 34⟩] else []
    else pure []

/-- The PDU is read as a whole by `data2string`. -/
def ipcSmsIncomingMsgReading (w : ℕ) (message : MessageBlock) : Reading UInt8 (List Reading.Span) :=
  checkedReading message.data message.size 6 [] do
    let pduSize ← ipcSmsIncomingMsgPduSizeExtractReading w message.data message.size
    if pduSize = 0 then pure []
    else do
      let pdu ← ipcSmsIncomingMsgPduExtractReading w message.data message.size
      pdu.elim (pure []) fun pdu => do
        let _ ← data2stringReading (some pdu) pduSize
        -- id, type
        let _ ← readFields (pdu - 6) [4, 1]
        return [⟨pdu, pduSize⟩]

def ipcSmsSvcCenterAddrReading (w : ℕ) (state : HandlerState) (message : MessageBlock) :
    Reading UInt8 (List Reading.Span) :=
  checkedReading message.data message.size 1 [] <|
    if message.isAnswer then do
      let length ← readByte message.data 0
      if lengthRefused w message.size 1 length || !state.sendSmsData then pure []
      else do
        let smscSize ← ipcSmsSvcCenterAddrSmscSizeExtractReading w message.data message.size
        if smscSize = 0 then pure []
        else do
          let smsc ← ipcSmsSvcCenterAddrSmscExtractReading w message.data message.size
          smsc.elim (pure []) fun smsc => pure [⟨smsc, smscSize⟩]
    else pure []

def ipcRfsNvWriteItemReading (w : ℕ) (state : HandlerState) (message : MessageBlock) :
    Reading UInt8 (List Reading.Span) :=
  checkedReading message.data message.size 8 [] <|
    if state.rfsClientReady then do
      let nvSize ← ipcRfsNvWriteItemSizeExtractReading w message.data message.size
      if nvSize = 0 then pure []
      else do
        let nvData ← ipcRfsNvWriteItemExtractReading w message.data message.size
        nvData.elim (pure []) fun nvData => do
          let length ← readInt message.data 4
          let _ ← readInt message.data 0
          return [⟨nvData, length⟩]
    else pure []

/-! ### All readers -/

inductive MessageReader
  | imsiExtract | imsi
  | callListCount | callListEntry (index : UInt32) | callList
  | screenCount | screenEntry (index : UInt32) | screen
  | pduSize | pdu | incomingMsg
  | smscSize | smsc | svcCenterAddr
  | nvSize | nvData | nvWriteItem
deriving DecidableEq, Repr

/-- An extraction hands nothing on but what it copies. -/
def MessageReader.reading (w : ℕ) (state : HandlerState) (message : MessageBlock) :
    MessageReader → Reading UInt8 (List Reading.Span)
  | imsiExtract => do
    let imsi ← ipcMiscMeImsiImsiExtractReading message.data message.size
    return imsi.2
  | imsi => ipcMiscMeImsiReading message
  | callListCount => ipcCallListCountExtractReading message.data message.size >>= fun _ => pure []
  | callListEntry index => ipcCallListEntryExtractReading message.data message.size index >>= fun _ => pure []
  | callList => ipcCallListReading message
  | screenCount => ipcSvcDisplayScreenCountExtractReading message.data message.size >>= fun _ => pure []
  | screenEntry index => ipcSvcDisplayScreenExtractReading message.data message.size index >>= fun _ => pure []
  | screen => ipcSvcDisplayScreenReading state message
  | pduSize => ipcSmsIncomingMsgPduSizeExtractReading w message.data message.size >>= fun _ => pure []
  | pdu => ipcSmsIncomingMsgPduExtractReading w message.data message.size >>= fun _ => pure []
  | incomingMsg => ipcSmsIncomingMsgReading w message
  | smscSize => ipcSmsSvcCenterAddrSmscSizeExtractReading w message.data message.size >>= fun _ => pure []
  | smsc => ipcSmsSvcCenterAddrSmscExtractReading w message.data message.size >>= fun _ => pure []
  | svcCenterAddr => ipcSmsSvcCenterAddrReading w state message
  | nvSize => ipcRfsNvWriteItemSizeExtractReading w message.data message.size >>= fun _ => pure []
  | nvData => ipcRfsNvWriteItemExtractReading w message.data message.size >>= fun _ => pure []
  | nvWriteItem => ipcRfsNvWriteItemReading w state message

end Ril.Samsung
