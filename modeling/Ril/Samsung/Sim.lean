import Ril.Samsung.Request
import Ril.Ipc.Sec

/-! The SIM. -/

namespace Ril.Samsung

open Ril.Ipc

def appStatuses : List RilAppStatus := [
  ⟨.unknown, .unknown, .unknown, .unknown⟩,
  ⟨.sim, .detected, .unknown, .unknown⟩,
  ⟨.sim, .ready, .ready, .unknown⟩,
  ⟨.sim, .pin, .unknown, .enabledNotVerified⟩,
  ⟨.sim, .puk, .unknown, .enabledBlocked⟩,
  ⟨.sim, .puk, .unknown, .enabledPermBlocked⟩,
  ⟨.sim, .subscriptionPerso, .simNetwork, .enabledNotVerified⟩,
  ⟨.sim, .subscriptionPerso, .simNetworkSubset, .enabledNotVerified⟩,
  ⟨.sim, .subscriptionPerso, .simCorporate, .enabledNotVerified⟩,
  ⟨.sim, .subscriptionPerso, .simServiceProvider, .enabledNotVerified⟩]

def appStatusIndex (data : IpcSecPinStatusResponseData) : ℕ :=
  match data.status.toNat with
  | 0x03 =>
    match data.facilityLock.toNat with
    | 0x00 => 2
    | 0x01 => 3
    | 0x02 => 4
    | 0x05 => 5
    | _ => 0
  | 0x04 => 0
  | 0x05 => 6
  | 0x06 => 7
  | 0x07 => 9
  | 0x08 => 8
  | 0x00 => 2
  | 0x82 => 2
  | 0x83 => 2
  | _ => 0

def ipc2rilSecPinStatusResponse (data : IpcSecPinStatusResponseData) : RilRadioState × RilCardStatus :=
  let index := appStatusIndex data
  (if index = 1 then .simNotReady else if index = 2 then .simReady else .simLockedOrAbsent,
    { cardState := if index = 0 then .absent else .present
      universalPinState := .unknown
      gsmUmtsSubscriptionAppIndex := 0
      cdmaSubscriptionAppIndex := -1
      imsSubscriptionAppIndex := -1
      applications := (appStatuses.drop index).take 1 })

def ril2ipcSecFacilityType (facility : Option CString) : UInt8 :=
  match facility with
  | none => 0
  | some facility =>
    if facility = ascii ['S', 'C'] then ipcSecFacilityTypeSc
    else if facility = ascii ['F', 'D'] then ipcSecFacilityTypeFd
    else if facility = ascii ['P', 'N'] then ipcSecFacilityTypePn
    else if facility = ascii ['P', 'U'] then ipcSecFacilityTypePu
    else if facility = ascii ['P', 'P'] then ipcSecFacilityTypePp
    else if facility = ascii ['P', 'C'] then ipcSecFacilityTypePc
    else 0

/-- A rejected PIN leaves the status that was kept for the framework, an accepted one drops it. -/
def ipcSecPinStatusCallback (message : IpcMessage) : RilM Rc := do
  match IpcGenPhoneResData.read message.data with
  | none => return .failed
  | some data =>
    if ipcGenPhoneResCheck data then
      rilRequestDataFree .getSimStatus
    else
      rilRequestUnsolicited .simStatusChanged .null
    return .ok

def needsPin (status : RilCardStatus) : Bool :=
  status.applications.any fun a => a.appType == .sim && a.appState == .pin

/-- A SIM that asks for its PIN is answered with the one that was cached. -/
def ipcSecPinStatusUnlock (message : IpcMessage) (status : RilCardStatus) (pin : CString) : RilM Rc := do
  rilRequestDataSetUniq .getSimStatus (.cardStatus status)
  if !(← transmit (.reply message.aseq) (some (.callback .ipcSecPinStatus)) .secPinStatus .set
      (ipcSecPinStatusSetup ipcSecPinTypePin1 (some pin) none)) then
    rilRequestDataFree .getSimStatus
  return .ok

def ipcSecPinStatusReport (message : IpcMessage) (radioState : RilRadioState) (status : RilCardStatus) :
    RilM Rc := do
  rilRadioStateUpdate radioState
  if IpcMessage.isResponse message then
    completeReply message .success (.cardStatus status)
  else
    rilRequestDataSetUniq .getSimStatus (.cardStatus status)
    rilRequestUnsolicited .simStatusChanged .null
  return .ok

def ipcSecPinStatus (message : IpcMessage) : RilM Rc := do
  match IpcSecPinStatusResponseData.read message.data with
  | none => return .failed
  | some data =>
    let s ← get
    if s.radioStateCheck .simNotReady then
      let answer := ipc2rilSecPinStatusResponse data
      match needsPin answer.2, s.simPin with
      | true, some pin => ipcSecPinStatusUnlock message answer.2 pin
      | _, _ => ipcSecPinStatusReport message answer.1 answer.2
    else
      return .ok

/-- A status that is kept for the framework is read twice: a second one is dropped. -/
def rilRequestGetSimStatus (_ : RilValue) (token : RilToken) : RilM RilRequestStatus :=
  whenRadioState .simNotReady <| whenNoneHandled [.getSimStatus] do
    match ← rilRequestDataGet .getSimStatus with
    | some (.cardStatus status) =>
      let _ ← rilRequestDataGet .getSimStatus
      completeRequest token .success (.cardStatus status)
    | _ => sendRequest token none .secPinStatus .get []

def ipcSecPhoneLock (message : IpcMessage) : RilM Rc := do
  match IpcSecPhoneLockResponseData.read message.data with
  | none => return .failed
  | some data =>
    if IpcMessage.isResponse message then
      completeReply message .success (.int (if data.active = 0 then 0 else 1))
    return .ok

def rilRequestQueryFacilityLock (data : RilValue) (token : RilToken) : RilM RilRequestStatus :=
  match data with
  | .strings (facility :: _ :: _ :: _ :: _) =>
    whenRadioState .simReady <|
      if ril2ipcSecFacilityType facility = 0 then failRequest token
      else sendRequest token none .secPhoneLock .get
        (ipcSecPhoneLockRequestGet (ril2ipcSecFacilityType facility))
  | _ => failRequest token

/-- The error and the retry count of an answer to a password. -/
def ipcSecResult (data : IpcGenPhoneResData) (retryCount : ℤ) : RilErrno × ℤ :=
  if ipcGenPhoneResCheck data then (.success, retryCount)
  else if data.code % 256 = 0x10 then (.passwordIncorrect, retryCount)
  else if data.code % 256 = 0x0c then (.passwordIncorrect, 0)
  else (.genericFailure, retryCount)

/-- The request is completed after the count of the remaining tries is known. -/
def ipcSecCallbackRetryCount (message : IpcMessage) (request : RilRequest) (type : UInt8) : RilM Unit := do
  rilRequestDataSetUniq request.request (.bytes (message.data.take ipcGenPhoneResSize))
  if !(← transmit (.reply message.aseq) none .secLockInfomation .get (ipcSecLockInfomationSetup type)) then
    rilRequestDataFree request.request
    rilRequestComplete request.token .genericFailure .null

def facilityLockType (data : RilValue) : UInt8 :=
  match data with
  | .strings (facility :: _) => ril2ipcSecFacilityType facility
  | _ => 0

/-- The message kept for after the PIN2 unlock is sent; without one the lock itself was answered. -/
def ipcSecCallbackSetFacilityLock (message : IpcMessage) (data : IpcGenPhoneResData)
    (request : RilRequest) : RilM Unit := do
  match ← rilRequestDataGet .setFacilityLock, ipcGenPhoneResCheck data with
  | some (.bytes stored), true =>
    if !(← transmit (.reply message.aseq) (some (.callback .ipcSec)) .secPhoneLock .set stored) then
      rilRequestComplete request.token .genericFailure .null
  | _, _ =>
    ipcSecCallbackRetryCount message request <|
      if facilityLockType request.data = ipcSecFacilityTypeFd then ipcSecPinTypePin2 else ipcSecPinTypePin1

def ipcSecCallbackSimIo (message : IpcMessage) (data : IpcGenPhoneResData) (request : RilRequest) :
    RilM Unit := do
  let stored ← rilRequestDataGet .simIo
  if !ipcGenPhoneResCheck data then
    rilRequestComplete request.token .simPin2 .null
  else
    match stored with
    | some (.bytes stored) =>
      if !(← transmit (.reply message.aseq) none .secRsimAccess .get stored) then
        rilRequestComplete request.token .genericFailure .null
    | _ => rilRequestComplete request.token .genericFailure .null

/-- The record of the request is read again after the completion has released and cleared it. -/
def ipcSecCallbackOther (message : IpcMessage) (data : IpcGenPhoneResData) (request : RilRequest) :
    RilM Unit := do
  completeReply message (ipcSecResult data (-1)).1 (.int (ipcSecResult data (-1)).2)
  if ((← get).requestFindToken request.token).isNone then
    log (.staleRequest request.token)
  else if request.request = .enterSimPuk ∨ request.request = .enterSimPuk2 then
    rilRequestUnsolicited .simStatusChanged .null

def ipcSecCallback (message : IpcMessage) : RilM Rc := do
  match IpcGenPhoneResData.read message.data with
  | none => return .failed
  | some data =>
    let s ← get
    match s.requestFindToken (s.ipcFmtRequestToken message.aseq) with
    | none => return .ok
    | some request =>
      match request.request with
      | .enterSimPin | .changeSimPin => ipcSecCallbackRetryCount message request ipcSecPinTypePin1
      | .enterSimPin2 | .changeSimPin2 => ipcSecCallbackRetryCount message request ipcSecPinTypePin2
      | .setFacilityLock => ipcSecCallbackSetFacilityLock message data request
      | .simIo => ipcSecCallbackSimIo message data request
      | _ => ipcSecCallbackOther message data request
      return .ok

/-- The FD facility needs a PIN2 unlock first. -/
def rilRequestSetFacilityLock (data : RilValue) (token : RilToken) : RilM RilRequestStatus :=
  match data with
  | .strings (facility :: lock :: password :: _ :: _) =>
    whenRadioState .simReady <| whenNoneHandled [.setFacilityLock] <|
      let facilityType := ril2ipcSecFacilityType facility
      let active : UInt8 := if (lock.getD []).head? = some 0x31 then 1 else 0
      let requestData := ipcSecPhoneLockRequestSetSetup facilityType active password
      if facilityType = 0 then failRequest token
      else if facilityType = ipcSecFacilityTypeFd then do
        rilRequestDataSetUniq .setFacilityLock (.bytes requestData)
        if ← transmit (.request token) (some (.callback .ipcSec)) .secPinStatus .set
            (ipcSecPinStatusSetup ipcSecPinTypePin2 password none) then
          return .handled
        else
          rilRequestDataFree .setFacilityLock
          failRequest token
      else
        sendRequest token (some (.callback .ipcSec)) .secPhoneLock .set requestData
  | _ => failRequest token

def rilRequestEnterSimPin (data : RilValue) (token : RilToken) : RilM RilRequestStatus :=
  match data with
  | .strings (pin :: _ :: _) =>
    whenRadioState .simNotReady <| whenNoneHandled [.enterSimPin] <|
      match pin with
      | none => failRequest token
      | some pin => do
        modify fun s => { s with simPin := some pin }.log (.pinCached pin)
        sendRequest token (some (.callback .ipcSec)) .secPinStatus .set
          (ipcSecPinStatusSetup ipcSecPinTypePin1 (some pin) none)
  | _ => failRequest token

/-- The requests that send a PIN status, with the PIN or with a PUK and a new PIN. -/
def enterSimPinPuk (request : RilRequestCode) (type : UInt8) (pin1 pin2 : Option CString)
    (token : RilToken) : RilM RilRequestStatus :=
  whenRadioState .simNotReady <| whenNoneHandled [request] <|
    sendRequest token (some (.callback .ipcSec)) .secPinStatus .set (ipcSecPinStatusSetup type pin1 pin2)

def rilRequestEnterSimPuk (data : RilValue) (token : RilToken) : RilM RilRequestStatus :=
  match data with
  | .strings (puk :: pin :: _) => enterSimPinPuk .enterSimPuk ipcSecPinTypePin1 pin puk token
  | _ => failRequest token

def rilRequestEnterSimPin2 (data : RilValue) (token : RilToken) : RilM RilRequestStatus :=
  match data with
  | .strings (pin :: _ :: _) => enterSimPinPuk .enterSimPin2 ipcSecPinTypePin2 pin none token
  | _ => failRequest token

def rilRequestEnterSimPuk2 (data : RilValue) (token : RilToken) : RilM RilRequestStatus :=
  match data with
  | .strings (puk :: pin :: _) => enterSimPinPuk .enterSimPuk2 ipcSecPinTypePin2 pin puk token
  | _ => failRequest token

/-- Both requests that change a PIN wait for the one that changes the first PIN. -/
def changeSimPin (facilityType : UInt8) (passwordOld passwordNew : Option CString) (token : RilToken) :
    RilM RilRequestStatus :=
  whenNoneHandled [.changeSimPin] <| whenRadioState .simReady <|
    sendRequest token (some (.callback .ipcSec)) .secChangeLockingPw .set
      (ipcSecChangeLockingPwSetup facilityType passwordOld passwordNew)

def rilRequestChangeSimPin (data : RilValue) (token : RilToken) : RilM RilRequestStatus :=
  match data with
  | .strings (old :: new :: _ :: _) => changeSimPin ipcSecFacilityTypeSc old new token
  | _ => failRequest token

def rilRequestChangeSimPin2 (data : RilValue) (token : RilToken) : RilM RilRequestStatus :=
  match data with
  | .strings (old :: new :: _ :: _) => changeSimPin ipcSecFacilityTypeFd old new token
  | _ => failRequest token

def simFileTypeMf : UInt8 := 0x01
def simFileTypeDf : UInt8 := 0x02
def simFileTypeEf : UInt8 := 0x04

/-- The files of `sim_file_ids` whose type is not EF. -/
def simFileType (fileid : ℤ) : UInt8 :=
  if fileid = 0x3f00 then simFileTypeMf
  else if fileid = 0x5f3a ∨ fileid = 0x7f10 ∨ fileid = 0x7f20 then simFileTypeDf
  else simFileTypeEf

/-- The scan back for the tag 0x88; it ends two bytes before the tag, or at 2 without one. -/
def scanFileSize (data : Bytes) : ℕ → ℕ
  | 0 => 0
  | offset + 1 =>
    if 2 < offset + 1 then
      if byteAt data (offset + 1) = 0x88 then offset + 1 - 2 else scanFileSize data offset
    else offset + 1

/-- The answer to `GET_RESPONSE` in the form of a SIM; `message` is read from its first byte on,
and the header of the USIM answer starts at its fourth. -/
def usimFileResponse (message : Bytes) (length : ℕ) (fileid : ℤ) : Option CString :=
  let usim := message.drop 3
  let offset := (byteAt usim 3).toNat
  let size := scanFileSize usim (length - 2)
  if length < 8 then none
  else if length < 8 + offset then none
  else if size ≤ 2 then none
  else data2string [0, 0, byteAt usim size, byteAt usim (size + 1),
    byteAt message (offset + 1), byteAt message (offset + 2), simFileType fileid, 0, 0x00, 0xff, 0xff,
    0x01, 0x02, if byteAt usim 6 = 0x83 then 0x00 else 0x01, byteAt usim 7]

def simIoResponse (iccType : UInt8) (header : IpcSecRsimAccessResponseHeader) (message : Bytes)
    (simIo : RilSimIo) : Option CString :=
  let payload := (ipcSecRsimAccessExtract message).bind fun d => data2string (d.take header.length.toNat)
  if header.length = 0 then none
  else if simIo.command = 0xb0 ∨ simIo.command = 0xb2 then payload
  else if simIo.command = 0xc0 then
    if iccType = 0x01 then payload else usimFileResponse message header.length.toNat simIo.fileid
  else none

def ipcSecRsimAccess (message : IpcMessage) : RilM Rc := do
  match IpcSecRsimAccessResponseHeader.read message.data with
  | none => return .failed
  | some header =>
    let s ← get
    match s.fmt.data with
    | none => return .ok
    | some fmt =>
      if IpcMessage.isResponse message then
        match s.requestFindToken (s.ipcFmtRequestToken message.aseq) with
        | some ⟨_, .simIo simIo, _, _⟩ =>
          completeReply message .success
            (.simIo header.sw1 header.sw2 (simIoResponse fmt.simIccType header message.data simIo))
        | _ => return .ok
      return .ok

/-- `none` when the data of the request is a string without digits. -/
def simIoData (simIo : RilSimIo) : Option (Option Bytes) :=
  match simIo.data with
  | none => some none
  | some data => (string2data data).map some

def simIoRequest (simIo : RilSimIo) (data : Option Bytes) : Bytes :=
  ipcSecRsimAccessSetup ⟨UInt8.ofNat (simIo.command % 256).toNat, (simIo.fileid % 65536).toNat,
    UInt8.ofNat (simIo.p1 % 256).toNat, UInt8.ofNat (simIo.p2 % 256).toNat,
    UInt8.ofNat (simIo.p3 % 256).toNat⟩ data

/-- A request with a PIN2 keeps its message for after the PIN2 unlock. -/
def rilRequestSimIo (data : RilValue) (token : RilToken) : RilM RilRequestStatus :=
  match data with
  | .simIo simIo =>
    whenRadioState .simReady <| whenNoneHandled [.simIo] <|
      match simIoData simIo with
      | none => failRequest token
      | some data =>
        match simIo.pin2 with
        | some pin2 => do
          rilRequestDataSetUniq .simIo (.bytes (simIoRequest simIo data))
          if ← transmit (.request token) (some (.callback .ipcSec)) .secPinStatus .set
              (ipcSecPinStatusSetup ipcSecPinTypePin2 (some pin2) none) then
            return .handled
          else
            rilRequestDataFree .simIo
            failRequest token
        | none => sendRequest token none .secRsimAccess .get (simIoRequest simIo data)
  | _ => failRequest token

def ipcSecSimIccType (message : IpcMessage) : RilM Rc := do
  match message.data with
  | [] => return .failed
  | type :: _ =>
    modify (RilData.modifyFmt fun d => { d with simIccType := type })
    return .ok

/-- The requests whose outcome waits for the count of the remaining tries. -/
def lockInfomationRequests : List RilRequestCode :=
  [.enterSimPin, .changeSimPin, .enterSimPin2, .changeSimPin2, .setFacilityLock]

def lockInfomationRequest (s : RilData) : Option RilRequestCode :=
  lockInfomationRequests.find? fun request => ipcGenPhoneResSize ≤ s.requestDataSizeGet request

def ipcSecLockInfomation (message : IpcMessage) : RilM Rc := do
  match IpcSecLockInfomationResponseData.read message.data with
  | none => return .failed
  | some data =>
    let s ← get
    if s.radioStateCheck .simNotReady && IpcMessage.isResponse message &&
        (data.type == ipcSecPinTypePin1 || data.type == ipcSecPinTypePin2) then
      match lockInfomationRequest s with
      | none => return .ok
      | some request =>
        match ← rilRequestDataGet request with
        | some (.bytes stored) =>
          match IpcGenPhoneResData.read stored with
          | none => return .ok
          | some res =>
            completeReply message (ipcSecResult res data.retryCount.toNat).1
              (.int (ipcSecResult res data.retryCount.toNat).2)
        | _ => return .ok
    return .ok

end Ril.Samsung
