import Ril.Samsung.Request
import Ril.Ipc.Call

/-! Calls. -/

namespace Ril.Samsung

open Ril.Ipc

def ril2ipcCallIdentity (clir : ℤ) : UInt8 :=
  if clir = 0 then ipcCallIdentityDefault
  else if clir = 1 then ipcCallIdentityShow
  else if clir = 2 then ipcCallIdentityHide
  else ipcCallIdentityDefault

def ipc2rilCallListEntryState (status : UInt8) : RilCallState :=
  match status.toNat with
  | 1 => .active
  | 2 => .holding
  | 3 => .dialing
  | 4 => .alerting
  | 5 => .incoming
  | 6 => .waiting
  | _ => .invalid

/-- `CALL_FAIL_NORMAL` or `CALL_FAIL_ERROR_UNSPECIFIED` -/
def ipc2rilCallFailCause (endCause : UInt8) : ℤ :=
  if endCause = 0x05 ∨ endCause = 0x2f then 16 else 0xffff

def rilRequestDial (data : RilValue) (token : RilToken) : RilM RilRequestStatus :=
  match data with
  | .dial address clir =>
    whenRadioState .simNotReady <|
      match address with
      | none => failRequest token
      | some address =>
        sendRequest token (some .complete) .callOutgoing .exec <|
          ipcCallOutgoingSetup ipcCallTypeVoice (ril2ipcCallIdentity clir)
            (if address.head? = some 0x2b then ipcCallPrefixIntl else ipcCallPrefixNone) address
  | _ => failRequest token

def ipcCallIncoming (_ : IpcMessage) : RilM Rc := do
  rilRequestUnsolicited .callRing .null
  rilRequestUnsolicited .callStateChanged .null
  return .ok

def rilRequestHangup (_ : RilValue) (token : RilToken) : RilM RilRequestStatus :=
  whenRadioState .simNotReady do
    rilRequestDataSetUniq .hangup (.int 1)
    if ← transmit (.request token) (some .complete) .callRelease .exec [] then
      rilRequestUnsolicited .callStateChanged .null
      return .handled
    else
      rilRequestDataFree .hangup
      failRequest token

def rilRequestAnswer (_ : RilValue) (token : RilToken) : RilM RilRequestStatus :=
  whenRadioState .simNotReady do
    if ← transmit (.request token) (some .complete) .callAnswer .exec [] then
      rilRequestUnsolicited .callStateChanged .null
      return .handled
    else
      failRequest token

/-- Nobody asks for the cause of a call that was hung up. -/
def ipcCallStatus (message : IpcMessage) : RilM Rc := do
  match IpcCallStatusData.read message.data with
  | none => return .failed
  | some data =>
    let hangup ← rilRequestDataGet .hangup
    if data.status == ipcCallStatusReleased && hangup.isNone then
      rilRequestDataSetUniq .lastCallFailCause (.int (ipc2rilCallFailCause data.endCause))
    rilRequestUnsolicited .callStateChanged .null
    return .ok

def rilRequestLastCallFailCause (_ : RilValue) (token : RilToken) : RilM RilRequestStatus :=
  whenRadioState .simNotReady do
    match ← rilRequestDataGet .lastCallFailCause with
    | some (.int failCause) => completeRequest token .success (.int failCause)
    | _ => failRequest token

def rilCall (entry : IpcCallListEntry) : RilCall where
  state := ipc2rilCallListEntryState entry.status
  index := entry.id
  isMpty := entry.mpty
  isMT := entry.term == ipcCallTermMt
  isVoice := entry.type == ipcCallTypeVoice
  number := entry.number
  numberPresentation := if entry.numberLength = 0 then 2 else 0
  toa := if entry.numberLength ≠ 0 ∧ entry.number.head? = some 0x2b then 145 else 129

def ipcCallList (message : IpcMessage) : RilM Rc := do
  match message.data with
  | [] => return .failed
  | data =>
    if IpcMessage.isResponse message then
      if ipcCallListCountExtract data = 0 then
        completeReply message .success .null
      else
        match (List.range (ipcCallListCountExtract data)).mapM (ipcCallListEntryExtract data) with
        | none => completeReply message .genericFailure .null
        | some entries => completeReply message .success (.calls (entries.map rilCall))
    return .ok

def rilRequestGetCurrentCalls (_ : RilValue) (token : RilToken) : RilM RilRequestStatus := do
  if (← get).radioStateCheck .simNotReady then
    sendRequest token none .callList .get []
  else
    completeRequest token .success .null

def rilRequestDtmfComplete (aseq : UInt8) (tone : UInt8) : RilM Bool :=
  expectSend (some .abort) aseq .callBurstDtmf .exec (ipcCallBurstDtmfSetup ipcCallDtmfStatusStart tone)

def rilRequestDtmfStartComplete (aseq : UInt8) (tone : UInt8) : RilM Bool :=
  expectSend (some .complete) aseq .callContDtmf .set (ipcCallContDtmfData ipcCallDtmfStatusStart tone)

def rilRequestDtmfStopComplete (aseq : UInt8) (callback : Bool) : RilM Bool :=
  expectSend (some (if callback then .callback .ipcCallContDtmf else .complete)) aseq .callContDtmf .set
    (ipcCallContDtmfData ipcCallDtmfStatusStop 0)

/-- The tone of a request is kept until the one before it has stopped. -/
def dtmfTone : Option RilRequestDataValue → Option UInt8
  | some (.bytes (tone :: _)) => some tone
  | _ => none

/-- The first of the two tones that wait is started by the answer to the stop, then the other. -/
def ipcCallContDtmfCallbackStart (message : IpcMessage) : RilM Bool := do
  match ← rilRequestDataGet .dtmfStart with
  | some (.bytes (tone :: rest)) =>
    rilRequestDataSet .dtmfStart (.bytes (tone :: rest))
    if ← rilRequestDtmfStartComplete message.aseq tone then
      return true
    else
      rilRequestDataFree .dtmfStart
      return false
  | _ => return true

def ipcCallContDtmfCallbackBurst (message : IpcMessage) : RilM Bool := do
  match dtmfTone (← rilRequestDataGet .dtmf) with
  | some tone => rilRequestDtmfComplete message.aseq tone
  | none => return true

def ipcCallContDtmfCallback (message : IpcMessage) : RilM Rc := do
  match IpcGenPhoneResData.read message.data with
  | none => return .failed
  | some data =>
    if !ipcGenPhoneResCheck data then
      completeReply message .genericFailure .null
    else if !(← ipcCallContDtmfCallbackStart message) then
      completeReply message .genericFailure .null
    else if !(← ipcCallContDtmfCallbackBurst message) then
      completeReply message .genericFailure .null
    return .ok

def ipcCallBurstDtmf (message : IpcMessage) : RilM Rc := do
  match message.data with
  | [] => return .failed
  | _ =>
    if ipcSeqValid message.aseq then
      completeReply message .success .null
    return .ok

/-- The character of the request and the NUL after it. -/
def dtmfData (value : CString) : Bytes := value ++ [0]

def rilRequestDtmf (data : RilValue) (token : RilToken) : RilM RilRequestStatus :=
  match data with
  | .string value =>
    whenRadioState .simNotReady <| whenNoneHandled [.dtmf, .dtmfStart, .dtmfStop] do
      match dtmfTone (← rilRequestDataGet .dtmfStart) with
      | some _ =>
        rilRequestDataSet .dtmf (.bytes (dtmfData value))
        if ← rilRequestDtmfStopComplete (← ipcFmtRequestSeq token) true then
          return .handled
        else
          rilRequestDataFree .dtmf
          failRequest token
      | none =>
        if ← rilRequestDtmfComplete (← ipcFmtRequestSeq token) (byteAt (dtmfData value) 0) then
          return .handled
        else
          failRequest token
  | _ => failRequest token

def rilRequestDtmfStart (data : RilValue) (token : RilToken) : RilM RilRequestStatus :=
  match data with
  | .string value =>
    whenRadioState .simNotReady <| whenNoneHandled [.dtmf, .dtmfStart, .dtmfStop] do
      match dtmfTone (← rilRequestDataGet .dtmfStart) with
      | some _ =>
        rilRequestDataSet .dtmfStart (.bytes (dtmfData value))
        if ← rilRequestDtmfStopComplete (← ipcFmtRequestSeq token) true then
          return .handled
        else
          rilRequestDataFree .dtmfStart
          failRequest token
      | none =>
        rilRequestDataSet .dtmfStart (.bytes (dtmfData value))
        if ← rilRequestDtmfStartComplete (← ipcFmtRequestSeq token) (byteAt (dtmfData value) 0) then
          return .handled
        else
          rilRequestDataFree .dtmfStart
          failRequest token
  | _ => failRequest token

def rilRequestDtmfStop (_ : RilValue) (token : RilToken) : RilM RilRequestStatus :=
  whenNoneHandled [.dtmf, .dtmfStart, .dtmfStop] do
    let _ ← rilRequestDataGet .dtmfStart
    if ← rilRequestDtmfStopComplete (← ipcFmtRequestSeq token) false then
      return .handled
    else
      failRequest token

end Ril.Samsung
