import Ril.Ipc.Utils

/-! Short messages. -/

namespace Ril.Ipc

def ipcSmsTypeStatusReport : UInt8 := 0x02
def ipcSmsTypeOutgoing : UInt8 := 0x02
def ipcSmsMsgTypeMultiple : UInt8 := 0x01
def ipcSmsMsgTypeSingle : UInt8 := 0x02

/-- The container of the SMSC and the PDU, shared by sending and saving a message. -/
def smsContainer (smsc pdu : Bytes) : Bytes := UInt8.ofNat smsc.length :: smsc ++ pdu

def ipcSmsSendMsgSetup (type msgType : UInt8) (smsc pdu : Bytes) : Option Bytes :=
  if smsc.isEmpty || pdu.isEmpty then none
  else some ([type, msgType, 0, UInt8.ofNat (1 + smsc.length + pdu.length)] ++ smsContainer smsc pdu)

def ipcSmsSaveMsgSetup (status : UInt8) (smsc : Option Bytes) (pdu : Bytes) : Option Bytes :=
  if pdu.isEmpty then none
  else some (2 :: shortBytes (12 - 1) ++
    [status, UInt8.ofNat (1 + (smsc.getD []).length + pdu.length)] ++ smsContainer (smsc.getD []) pdu)

def ipcSmsDelMsgSetup (index : ℕ) : Bytes := 2 :: shortBytes index

def ipcSmsDeliverReportRequest (type : UInt8) (ack : ℕ) (id : UInt8) : Bytes :=
  type :: shortBytes ack ++ [id, 0]

structure IpcSmsSendMsgResponseData where
  type : UInt8
  ack : ℕ
  id : UInt8
deriving DecidableEq, Repr

def IpcSmsSendMsgResponseData.read (data : Bytes) : Option IpcSmsSendMsgResponseData :=
  if data.length < 5 then none else some ⟨byteAt data 0, shortAt data 1, byteAt data 3⟩

structure IpcSmsIncomingMsgHeader where
  msgType : UInt8
  type : UInt8
  id : UInt8
  length : UInt8
deriving DecidableEq, Repr

def IpcSmsIncomingMsgHeader.read (data : Bytes) : Option IpcSmsIncomingMsgHeader :=
  if data.length < 6 then none
  else some ⟨byteAt data 0, byteAt data 1, byteAt data 4, byteAt data 5⟩

/-- What follows a header of `n` bytes, cut at the length the header announces;
`none` when that length is 0 or exceeds what was received. -/
def announcedPayload (n : ℕ) (length : UInt8) (data : Bytes) : Option Bytes :=
  if length = 0 ∨ data.length - n < length.toNat then none
  else some ((data.drop n).take length.toNat)

def ipcSmsIncomingMsgPduExtract (data : Bytes) : Option Bytes :=
  announcedPayload 6 (byteAt data 5) data

/-- The `error` of the answers to `IPC_SMS_SAVE_MSG` and `IPC_SMS_DEL_MSG`. -/
def smsStoreResponseError (data : Bytes) : Option ℕ :=
  if data.length < 5 then none else some (shortAt data 1)

def ipcSmsDeliverReportResponseAck (data : Bytes) : Option ℕ :=
  if data.length < 2 then none else some (shortAt data 0)

def ipcSmsSvcCenterAddrSmscExtract (data : Bytes) : Option Bytes :=
  announcedPayload 1 (byteAt data 0) data

end Ril.Ipc
