import Ril.Ipc.Net
import Ril.Samsung.Network
import Ril.Samsung.Request

/-! Power. -/

namespace Ril.Samsung

open Ril.Ipc

def ipcPwrPhonePwrUp (_ : IpcMessage) : RilM Rc := do
  rilRadioStateUpdate .off
  return .ok

def ipcPwrPhoneReset (_ : IpcMessage) : RilM Rc := do
  rilRadioStateUpdate .off
  return .ok

def ipcPwrPhoneStateResponseLpm : UInt8 := 0x01
def ipcPwrPhoneStateResponseNormal : UInt8 := 0x02
def ipcPwrPhoneStateRequestLpm : ℕ := 0x0001
def ipcPwrPhoneStateRequestNormal : ℕ := 0x0202

def ipcPwrPhoneState (message : IpcMessage) : RilM Rc := do
  match firstByte message.data with
  | none => return .failed
  | some state =>
    if ipcSeqValid message.aseq then
      if state == ipcPwrPhoneStateResponseLpm then
        completeReply message .success .null
        rilRadioStateUpdate .off
      else if state == ipcPwrPhoneStateResponseNormal then
        completeReply message .success .null
        rilRadioStateUpdate .simNotReady
    return .ok

def rilRequestRadioPower (data : RilValue) (token : RilToken) : RilM RilRequestStatus :=
  match data with
  | .ints (powerState :: _) =>
    whenNoneHandled [.radioPower] <|
      sendRequest token (some .abort) .pwrPhoneState .exec <| shortBytes <|
        if powerState > 0 then ipcPwrPhoneStateRequestNormal else ipcPwrPhoneStateRequestLpm
  | _ => failRequest token

end Ril.Samsung

/-! Information about the phone, the service mode and the sound. -/

namespace Ril.Samsung

open Ril.Ipc

/-- The request of a code that is being handled, if there is one, is completed. -/
def completeHandled (request : RilRequestCode) (error : RilErrno) (response : RilResponse) : RilM Unit := do
  match (← get).requestFindRequestStatus request .handled with
  | none => return ()
  | some r => rilRequestComplete r.token error response

def ipcMiscMeVersion (message : IpcMessage) : RilM Rc := do
  match ipcMiscMeVersionSoftwareVersion message.data with
  | none => return .failed
  | some version =>
    if IpcMessage.isResponse message then
      completeReply message .success (.string version)
    return .ok

def rilRequestBasebandVersion (_ : RilValue) (token : RilToken) : RilM RilRequestStatus :=
  getRequestAlone .simNotReady .basebandVersion .miscMeVersion ipcMiscMeVersionSetup token

def ipcMiscMeImsi (message : IpcMessage) : RilM Rc := do
  match message.data with
  | [] => return .failed
  | data =>
    if IpcMessage.isResponse message then
      completeReply message .success (.string (ipcMiscMeImsiImsiExtract data))
    return .ok

def rilRequestGetImsi (_ : RilValue) (token : RilToken) : RilM RilRequestStatus :=
  getRequestAlone .simReady .getImsi .miscMeImsi [] token

/-- One answer holds the IMEI and the IMEISV. -/
def ipcMiscMeSn (message : IpcMessage) : RilM Rc := do
  match IpcMiscMeSnResponseData.read message.data with
  | none => return .failed
  | some data =>
    if message.type == .resp && data.type == ipcMiscMeSnSerialNum then
      match ipcMiscMeSnExtract data with
      | none =>
        completeHandled .getImei .genericFailure .null
        completeHandled .getImeisv .genericFailure .null
      | some imei =>
        completeHandled .getImei .success (.string (imei.take (imei.length - 2)))
        completeHandled .getImeisv .success (.string (imei.drop (imei.length - 2)))
    return .ok

/-- The answer to the other of the two requests holds what this one asks for. -/
def serialNumberRequest (request other : RilRequestCode) (token : RilToken) : RilM RilRequestStatus :=
  whenRadioState .simNotReady <| whenNoneHandled [request] do
    if ((← get).requestFindRequestStatus other .handled).isSome then
      return .handled
    else
      sendRequest token none .miscMeSn .get [ipcMiscMeSnSerialNum]

def rilRequestGetImei (_ : RilValue) (token : RilToken) : RilM RilRequestStatus :=
  serialNumberRequest .getImei .getImeisv token

def rilRequestGetImeisv (_ : RilValue) (token : RilToken) : RilM RilRequestStatus :=
  serialNumberRequest .getImeisv .getImei token

/-- At least two digits -/
def twoDigits (n : ℕ) : CString := if n < 10 then 0x30 :: digits 10 n else digits 10 n

/-- `"%02u/%02u/%02u,%02u:%02u:%02u%c%02d,%02d"` -/
def timeString (data : IpcMiscTimeInfoData) : CString :=
  twoDigits data.year.toNat ++ 0x2f :: twoDigits data.mon.toNat ++ 0x2f :: twoDigits data.day.toNat ++
  0x2c :: twoDigits data.hour.toNat ++ 0x3a :: twoDigits data.min.toNat ++ 0x3a ::
  twoDigits data.sec.toNat ++ (if data.tz < 0 then 0x2d else 0x2b) :: twoDigits data.tz.natAbs ++
  0x2c :: (if data.dl < 0 then decimal data.dl else twoDigits data.dl.toNat)

def ipcMiscTimeInfo (message : IpcMessage) : RilM Rc := do
  match IpcMiscTimeInfoData.read message.data with
  | none => return .failed
  | some data =>
    rilRequestUnsolicited .nitzTimeReceived (.string (timeString data))
    return .ok

def rilRequestScreenState (data : RilValue) (token : RilToken) : RilM RilRequestStatus :=
  match data with
  | .ints (value :: _) =>
    whenRadioState .simNotReady do
      if value ≠ 0 then
        rilRequestUnsolicited .voiceNetworkStateChanged .null
        completeRequest token .success .null
      else
        completeRequest token .success .null
  | _ => failRequest token

/-! ### Service mode -/

/-- `"  End service mode"` in 34 bytes -/
def svcEndMessage : Bytes :=
  field 34 (ascii [' ', ' ', 'E', 'n', 'd', ' ', 's', 'e', 'r', 'v', 'i', 'c', 'e', ' ', 'm', 'o', 'd', 'e'])

def setSvcSession (session : Bool) : RilM Unit :=
  modify (RilData.modifyFmt fun d => { d with svcSession := session })

/-- A screen answers the request that is being handled, or waits for the next one. -/
def svcScreen (screen : Bytes) : RilM Unit := do
  match (← get).requestFindRequestStatus .oemHookRaw .handled with
  | some r => rilRequestComplete r.token .success (.raw screen)
  | none => rilRequestDataSetUniq .oemHookRaw (.bytes screen)

def ipcSvcDisplayScreen (message : IpcMessage) : RilM Rc := do
  match message.data with
  | [] => return .failed
  | data =>
    if (← get).fmt.data.isSome then
      if ipcSvcDisplayScreenCountExtract data = 0 then
        setSvcSession false
        rilRequestDataFree .oemHookRaw
        svcScreen svcEndMessage
      else
        setSvcSession true
        match ipcSvcDisplayScreenExtract data with
        | none => completeHandled .oemHookRaw .genericFailure .null
        | some entries =>
          if shortAt entries 0 = 0 then
            svcScreen (field (34 * ipcSvcDisplayScreenCountExtract data) entries)
    return .ok

def failOemHookRaw (token : RilToken) : RilM RilRequestStatus := do
  rilRequestDataFree .oemHookRaw
  failRequest token

def sendOemHookRaw (token : RilToken) (expect : ExpectKind) (command : IpcCommand) (data : Bytes) :
    RilM RilRequestStatus := do
  if ← transmit (.request token) (some expect) command .set data then
    return .handled
  else
    failOemHookRaw token

/-- `query` asks for the screen that waits. -/
def queryOemHookRaw (token : RilToken) : RilM RilRequestStatus := do
  match ← rilRequestDataGet .oemHookRaw with
  | some (.bytes screen) => completeRequest token .success (.raw screen)
  | _ => completeRequest token .success .null

def rilOemHookTagSvc : UInt8 := 1
def rilOemCommandSvcEnterMode : UInt8 := 1
def rilOemCommandSvcEndMode : UInt8 := 2
def rilOemCommandSvcKey : UInt8 := 3

def rilRequestOemHookRaw (data : RilValue) (token : RilToken) : RilM RilRequestStatus := do
  let s ← get
  match data, s.fmt.data with
  | .raw (tag :: command :: _ :: _ :: data), some fmt =>
    whenNoneHandled [.oemHookRaw] <|
      if tag ≠ rilOemHookTagSvc then failOemHookRaw token
      else if command = rilOemCommandSvcEnterMode then
        match data with
        | mode :: type :: query :: _ =>
          if query ≠ 0 then queryOemHookRaw token
          else sendOemHookRaw token .abort .svcEnter (ipcSvcEnterSetup mode type)
        | _ => failOemHookRaw token
      else if command = rilOemCommandSvcEndMode then
        match data with
        | mode :: _ => do
          if ← transmit (.request token) (some .complete) .svcEnd .set [mode] then
            setSvcSession false
            rilRequestDataFree .oemHookRaw
            return .handled
          else
            failOemHookRaw token
        | [] => failOemHookRaw token
      else if command = rilOemCommandSvcKey then
        match data with
        | key :: query :: _ =>
          if query ≠ 0 then queryOemHookRaw token
          else if fmt.svcSession then sendOemHookRaw token .abort .svcProKeycode [key]
          else failOemHookRaw token
        | _ => failOemHookRaw token
      else failOemHookRaw token
  | _, _ => failOemHookRaw token

/-! ### Sound -/

def rilRequestSetMute (data : RilValue) (token : RilToken) : RilM RilRequestStatus :=
  match data with
  | .ints (mute :: _) =>
    sendRequest token (some .complete) .sndMicMuteCtrl .set [if mute = 0 then 0 else 1]
  | _ => failRequest token

/-- A message of an SRS client, without those that do not reach the state of the daemon. -/
inductive SrsMessage
  | sndSetCallVolume (type : ℤ) (volume : UInt8)
  | sndSetCallAudioPath (path : ℤ)
  | sndSetCallClockSync (sync : UInt8)
  | testSetRadioState (state : ℤ)
deriving DecidableEq, Repr

def srs2ipcCallType (type : ℤ) : UInt8 :=
  if type = 1 then 0x11 else if type = 2 then 0x31 else if type = 3 then 0x41 else 0x01

def srs2ipcAudioPath (path : ℤ) : UInt8 :=
  if path = 1 then 0x02 else if path = 2 then 0x06 else if path = 3 then 0x04
  else if path = 4 then 0x08 else if path = 5 then 0x07 else 0x01

def srsSndSetCallVolume (type : ℤ) (volume : UInt8) : RilM Unit := do
  let _ ← transmit .own none .sndSpkrVolumeCtrl .set [srs2ipcCallType type, volume]

def srsSndSetCallAudioPath (path : ℤ) : RilM Unit := do
  let _ ← transmit .own none .sndAudioPathCtrl .set [srs2ipcAudioPath path]

def srsSndSetCallClockSync (sync : UInt8) : RilM Unit := do
  let _ ← transmit .own none .sndClockCtrl .exec [sync]

def srsTestSetRadioState (state : ℤ) : RilM Unit := rilRadioStateUpdate (.ofCode state)

end Ril.Samsung
