import Ril.Ipc.Sms
import Ril.Lib.Memory
import Ril.Samsung.Request

/-! Short messages. -/

namespace Ril.Samsung

open Ril.Ipc

/-- `IPC_SMS_ACK_NO_ERROR`, `IPC_SMS_ACK_PDA_FULL_ERROR` or `IPC_SMS_ACK_UNSPEC_ERROR` -/
def ril2ipcSmsAck (success failCause : ℤ) : ℕ :=
  if success ≠ 0 then 0x0000 else if failCause = 0xd3 then 0x8080 else 0x806f

def ipc2rilSmsAckError (ack : ℕ) : RilErrno := if ack = 0 then .success else .genericFailure

def ril2ipcSmsStatus (status : ℤ) : UInt8 :=
  if status = 0 then 0x01 else if status = 1 then 0x02 else if status = 2 then 0x03
  else if status = 3 then 0x04 else 0x00

def ipcSmsSendMsg (message : IpcMessage) : RilM Rc := do
  match IpcSmsSendMsgResponseData.read message.data with
  | none => return .failed
  | some data =>
    if ipcSeqValid message.aseq then
      completeReply message (ipc2rilSmsAckError data.ack) (.sms data.id)
    return .ok

/-- The message type, from the header of the user data that follows the address. -/
def smsMsgType (pdu : Bytes) : UInt8 :=
  let address := (byteAt pdu 2).toNat
  let header := (byteAt pdu (2 + address)).toNat
  let count := (byteAt pdu (2 + address + 4)).toNat
  let index := (byteAt pdu (2 + address + 5)).toNat
  if 127 < address then ipcSmsMsgTypeSingle
  else if 127 < header ∨ header < 5 then ipcSmsMsgTypeSingle
  else if 0x0f < count then ipcSmsMsgTypeSingle
  else if count < index then ipcSmsMsgTypeSingle
  else if 1 < count then ipcSmsMsgTypeMultiple
  else ipcSmsMsgTypeSingle

/-- The scan for the message type does not end with the PDU: it sees what is behind it in its block. -/
def rilRequestSendSmsCompleteAt (seq : UInt8) (smsc pdu scanned : Bytes) : RilM Bool :=
  if ipcSeqValid seq then
    match ipcSmsSendMsgSetup ipcSmsTypeOutgoing (smsMsgType scanned) smsc pdu with
    | none => return false
    | some data => expectSend (some .abort) seq .smsSendMsg .exec data
  else
    return false

/-- A PDU in a block of its own -/
def rilRequestSendSmsComplete (seq : UInt8) (smsc pdu : Bytes) : RilM Bool :=
  rilRequestSendSmsCompleteAt seq smsc pdu pdu

def failSms (token : RilToken) : RilM RilRequestStatus :=
  completeRequest token .smsSendFailRetry .null

/-- The PDU and, when it is given, the SMSC of the request; an empty string is an error. -/
def smsStrings (smsc pdu : Option CString) : Option (Option Bytes × Bytes) := do
  let pdu ← string2data (← pdu)
  match smsc with
  | none => return (none, pdu)
  | some smsc => return (some (← string2data smsc), pdu)

/-- An SMSC starts with its length; what follows is passed where `ril_request_send_sms_complete`
takes the PDU, and the PDU where it takes the SMSC. -/
def rilRequestSendSms (data : RilValue) (token : RilToken) : RilM RilRequestStatus :=
  match data with
  | .strings (smsc :: pdu :: _) =>
    whenRadioState .simNotReady <| whenNoneHandled [.sendSms] <|
      match smsStrings smsc pdu with
      | none => failSms token
      | some (some smsc, pdu) => do
        if ← rilRequestSendSmsCompleteAt (← ipcFmtRequestSeq token) pdu
            (field (byteAt smsc 0).toNat (smsc.drop 1)) (smsc.drop 1) then
          return .handled
        else
          failSms token
      | some (none, pdu) => do
        rilRequestDataSetUniq .sendSms (.bytes pdu)
        if ← transmit (.request token) none .smsSvcCenterAddr .get [] then
          return .handled
        else
          rilRequestDataFree .sendSms
          failSms token
  | _ => failSms token

def ipcSmsIncomingMsg (message : IpcMessage) : RilM Rc := do
  match IpcSmsIncomingMsgHeader.read message.data with
  | none => return .failed
  | some header =>
    match (ipcSmsIncomingMsgPduExtract message.data).bind data2string with
    | none => return .ok
    | some pdu =>
      rilRequestDataSetUniq .smsAcknowledge (.bytes [header.id])
      if header.type == ipcSmsTypeStatusReport then
        rilRequestUnsolicited .newSmsStatusReport (.string pdu)
      else
        rilRequestUnsolicited .newSms (.string pdu)
      return .ok

/-- The answers to the requests that store or delete a message on the SIM. -/
def smsStoreResponse (message : IpcMessage) : RilM Rc := do
  match smsStoreResponseError message.data with
  | none => return .failed
  | some error =>
    if ipcSeqValid message.aseq then
      completeReply message (if error = 0 then .success else .genericFailure) .null
    return .ok

def ipcSmsSaveMsg (message : IpcMessage) : RilM Rc := smsStoreResponse message

def rilRequestWriteSmsToSim (data : RilValue) (token : RilToken) : RilM RilRequestStatus :=
  match data with
  | .smsWriteArgs status pdu smsc =>
    whenRadioState .simReady <|
      match smsStrings smsc pdu with
      | none => failRequest token
      | some (smsc, pdu) =>
        match ipcSmsSaveMsgSetup (ril2ipcSmsStatus status) smsc pdu with
        | none => failRequest token
        | some data => sendRequest token (some .abort) .smsSaveMsg .exec data
  | _ => failRequest token

def ipcSmsDelMsg (message : IpcMessage) : RilM Rc := smsStoreResponse message

def rilRequestDeleteSmsOnSim (data : RilValue) (token : RilToken) : RilM RilRequestStatus :=
  match data with
  | .ints (index :: _) =>
    if index = 0 then failRequest token
    else sendRequest token (some .abort) .smsDelMsg .exec (ipcSmsDelMsgSetup ((index - 1) % 65536).toNat)
  | _ => failRequest token

def ipcSmsDeliverReport (message : IpcMessage) : RilM Rc := do
  match ipcSmsDeliverReportResponseAck message.data with
  | none => return .failed
  | some ack =>
    if ipcSeqValid message.aseq then
      completeReply message (ipc2rilSmsAckError ack) .null
    return .ok

def rilRequestSmsAcknowledge (data : RilValue) (token : RilToken) : RilM RilRequestStatus :=
  match data with
  | .ints (success :: failCause :: _) =>
    whenRadioState .simReady do
      match ← rilRequestDataGet .smsAcknowledge with
      | some (.bytes (id :: _)) =>
        sendRequest token (some .abort) .smsDeliverReport .exec
          (ipcSmsDeliverReportRequest ipcSmsTypeStatusReport (ril2ipcSmsAck success failCause) id)
      | _ => failRequest token
  | _ => failRequest token

/-- The PDU that waits for the SMSC is sent under the seq of the answer. -/
def ipcSmsSvcCenterAddr (message : IpcMessage) : RilM Rc := do
  match message.data with
  | [] => return .failed
  | data =>
    if IpcMessage.isResponse message then
      match ipcSmsSvcCenterAddrSmscExtract data with
      | none => completeReply message .smsSendFailRetry .null
      | some smsc =>
        match ← rilRequestDataGet .sendSms with
        | some (.bytes pdu) =>
          if !(← rilRequestSendSmsComplete message.aseq smsc pdu) then
            completeReply message .smsSendFailRetry .null
        | _ => completeReply message .smsSendFailRetry .null
    return .ok

end Ril.Samsung

/-! What `ril_request_send_sms_complete` reads through the pointers that its two callers pass. -/

namespace Ril.Samsung

open Ril.Ipc Ril.Lib

/-- The positions that the scan for the message type reads, in order -/
def smsScanReads (pdu : ℕ → UInt8) : List ℕ :=
  let address := (pdu 2).toNat
  let header := (pdu (2 + address)).toNat
  let count := (pdu (2 + address + 4)).toNat
  2 ::
    if 127 < address then []
    else (2 + address) ::
      if 127 < header ∨ header < 5 then []
      else (2 + address + 4) ::
        if 0x0f < count then []
        else [2 + address + 5]

/-- `smsMsgType` of a PDU in memory -/
def smsScanType (pdu : ℕ → UInt8) : UInt8 :=
  let address := (pdu 2).toNat
  let header := (pdu (2 + address)).toNat
  let count := (pdu (2 + address + 4)).toNat
  let index := (pdu (2 + address + 5)).toNat
  if 127 < address then ipcSmsMsgTypeSingle
  else if 127 < header ∨ header < 5 then ipcSmsMsgTypeSingle
  else if 0x0f < count then ipcSmsMsgTypeSingle
  else if count < index then ipcSmsMsgTypeSingle
  else if 1 < count then ipcSmsMsgTypeMultiple
  else ipcSmsMsgTypeSingle

/-- The pointers and the sizes that are passed after the seq -/
structure SmsCall where
  smsc : ℕ
  smscSize : ℕ
  pdu : ℕ
  pduSize : ℕ
deriving DecidableEq, Repr

namespace SmsCall

variable (memory : ℕ → UInt8) (call : SmsCall)

def msgType : UInt8 := smsScanType fun i => memory (call.pdu + i)

/-- The data of `IPC_SMS_SEND_MSG`; an empty SMSC or PDU is an error. -/
def payload : Option Bytes :=
  ipcSmsSendMsgSetup ipcSmsTypeOutgoing (call.msgType memory) (cellsAt memory call.smsc call.smscSize)
    (cellsAt memory call.pdu call.pduSize)

/-- The addresses that are read through the pointer to the PDU -/
def pduReads : List ℕ :=
  if call.smscSize = 0 ∨ call.pduSize = 0 then []
  else (smsScanReads fun i => memory (call.pdu + i)).map (call.pdu + ·) ++ List.range' call.pdu call.pduSize

end SmsCall

/-- The call of `ril_request_send_sms` when the request has an SMSC: it starts with its length, and what follows is
passed where the PDU is taken, the PDU where the SMSC is taken. -/
def suppliedCall (memory : ℕ → UInt8) (smsc pdu pduSize : ℕ) : SmsCall where
  smsc := pdu
  smscSize := pduSize
  pdu := smsc + 1
  pduSize := (memory smsc).toNat

/-- The addresses that are read through the pointer to the decoded SMSC of the request -/
def suppliedReads (memory : ℕ → UInt8) (smsc pdu pduSize : ℕ) : List ℕ :=
  smsc :: (suppliedCall memory smsc pdu pduSize).pduReads memory

/-- The call of `ipc_sms_svc_center_addr` for an answer of the modem; `none` when the length that the answer starts
with is 0 or more than what was received. -/
def fetchedCall (memory : ℕ → UInt8) (data size pdu pduSize : ℕ) : Option SmsCall :=
  if (memory data).toNat = 0 ∨ size - 1 < (memory data).toNat then none
  else some {
    smsc := data + 1
    smscSize := (memory data).toNat
    pdu := pdu
    pduSize := pduSize }

def BlockAt (memory : ℕ → UInt8) (address : ℕ) (data : Bytes) : Prop := cellsAt memory address data.length = data

instance (memory : ℕ → UInt8) (address : ℕ) (data : Bytes) : Decidable (BlockAt memory address data) :=
  inferInstanceAs (Decidable (_ = _))

end Ril.Samsung
