import Ril.Samsung.Network
import Ril.Ipc.Gprs

/-! Packet data. -/

namespace Ril.Samsung

open Ril.Ipc

/-- The `PDP_FAIL` values -/
def ipc2rilGprsFailCause (failCause : UInt8) : ℤ :=
  match failCause.toNat with
  | 0x00 => 0
  | 0x01 => 0
  | 0x02 => 0
  | 0x04 => 0x1a
  | 0x05 => 0x1b
  | 0x06 => 0x1c
  | 0x07 => 0x1d
  | 0x08 => 0x1e
  | 0x09 => 0x1f
  | 0x0a => 0x20
  | 0x0b => 0x21
  | 0x0c => 0x22
  | 0x0d => 0x23
  | 0x0f => -2
  | 0x13 => 0x6f
  | 0x14 => 0x6f
  | 0x15 => 0x6f
  | 0x16 => -3
  | _ => 0xffff

def completeStopped (message : IpcMessage) (c : RilDataConnection) : RilM Unit := do
  rilDataConnectionStop c.record
  completeReply message .genericFailure .null

def ipcGprsDefinePdpContextCallback (message : IpcMessage) : RilM Rc := do
  match IpcGenPhoneResData.read message.data with
  | none => return .failed
  | some data =>
    let s ← get
    match s.dataConnectionFindToken (s.ipcFmtRequestToken message.aseq) with
    | none => completeReply message .genericFailure .null
    | some c =>
      if ipcGenPhoneResCheck data then
        if !(← transmit (.reply message.aseq) (some (.callback .ipcGprsPdpContext)) .gprsPdpContext .set
            (ipcGprsPdpContextRequestSetSetup 1 (UInt8.ofNat c.cid) (c.username.map (·.value))
              (c.password.map (·.value)))) then
          completeStopped message c
      else
        completeStopped message c
    return .ok

/-- What follows once the connection of the request is started. -/
def setupDataCallStarted (c : RilDataConnection) (token : RilToken) : RilM RilRequestStatus := do
  modify (RilData.dataConnectionUpdate c.record fun c => { c with token := token })
  if ← transmit (.request token) (some (.callback .ipcGprsDefinePdpContext)) .gprsDefinePdpContext .set
      (ipcGprsDefinePdpContextSetup 1 (UInt8.ofNat c.cid) ((c.apn.map (·.value)).getD [])) then
    return .handled
  else
    rilDataConnectionStop c.record
    failRequest token

def setupDataCall (apn : CString) (username password : Option CString) (token : RilToken) :
    RilM RilRequestStatus := do
  let apn ← strdup apn
  let username ← strdupOption username
  let password ← strdupOption password
  match ← rilDataConnectionStart apn username password with
  | none =>
    free apn
    free username
    free password
    failRequest token
  | some c => setupDataCallStarted c token

def rilRequestSetupDataCall (data : RilValue) (token : RilToken) : RilM RilRequestStatus :=
  match data with
  | .strings (_ :: _ :: apn :: username :: password :: _ :: _) => do
    if (← get).radioStateCheck .simReady then
      whenNoneHandled [.setupDataCall] <|
        match apn with
        | none => failRequest token
        | some apn => setupDataCall apn username password token
    else
      completeRequest token .opNotAllowedBeforeRegToNw .null
  | _ => failRequest token

def ipcGprsPs (message : IpcMessage) : RilM Rc := do
  match IpcGprsPsData.read message.data with
  | none => return .failed
  | some data =>
    match (← get).dataConnectionFindCid data.cid.toNat with
    | none => return .ok
    | some c =>
      modify (RilData.dataConnectionUpdate c.record fun c => { c with attached := data.attached != 0 })
      return .ok

/-- `"%s"` of a pointer that may be `NULL` -/
def printString (string : Option HeapString) : CString :=
  match string with
  | none => ascii ['(', 'n', 'u', 'l', 'l', ')']
  | some string => string.value

def dataCallResponse (c : RilDataConnection) (status : ℤ) (cid : ℕ) (active : ℤ) : RilDataCallResponse where
  status := status
  cid := cid
  active := active
  type := some (ascii ['I', 'P'])
  ifname := c.iface.map (·.value)
  addresses := c.ip.map (·.value)
  dnses := some (printString c.dns1 ++ 0x20 :: printString c.dns2)
  gateways := c.gateway.map (·.value)

/-- The active entries whose connection is registered. -/
def pdpContextResponses (s : RilData) (entries : List IpcGprsPdpContextRequestGetEntry) :
    List RilDataCallResponse :=
  entries.filterMap fun entry =>
    if entry.active = 0 then none
    else (s.dataConnectionFindCid entry.cid.toNat).map fun c =>
      dataCallResponse c 0 entry.cid.toNat (if c.enabled then 2 else 0)

def ipcGprsPdpContext (message : IpcMessage) : RilM Rc := do
  match ipcGprsPdpContextEntries message.data with
  | none => return .failed
  | some entries =>
    let s ← get
    if ipcSeqValid message.aseq then
      completeReply message .success (.dataCalls (pdpContextResponses s entries))
    else
      rilRequestUnsolicited .dataCallListChanged (.dataCalls (pdpContextResponses s entries))
    return .ok

def rilRequestDataCallList (_ : RilValue) (token : RilToken) : RilM RilRequestStatus := do
  if (← get).radioStateCheck .simNotReady then
    sendRequest token none .gprsPdpContext .get []
  else
    completeRequest token .success .null

def ipcGprsPdpContextCallback (message : IpcMessage) : RilM Rc := do
  match IpcGenPhoneResData.read message.data with
  | none => return .failed
  | some data =>
    let s ← get
    match s.dataConnectionFindToken (s.ipcFmtRequestToken message.aseq) with
    | none => completeReply message .genericFailure .null
    | some c =>
      if !ipcGenPhoneResCheck data then
        completeStopped message c
    return .ok

/-- `(unsigned int) atoi(string)` -/
def atoi (string : CString) : ℕ :=
  match string.dropWhile isSpace with
  | 0x2d :: rest => (4294967296 - decimalValue (rest.takeWhile isDigit) % 4294967296) % 4294967296
  | 0x2b :: rest => decimalValue (rest.takeWhile isDigit)
  | rest => decimalValue (rest.takeWhile isDigit)

def rilRequestDeactivateDataCall (data : RilValue) (token : RilToken) : RilM RilRequestStatus :=
  match data with
  | .strings (cid :: _ :: _) =>
    whenRadioState .simReady <| whenNoneHandled [.deactivateDataCall] <|
      match cid with
      | none => failRequest token
      | some cid => do
        match (← get).dataConnectionFindCid (atoi cid) with
        | none => failRequest token
        | some c =>
          modify (RilData.dataConnectionUpdate c.record fun c => { c with token := token })
          if ← transmit (.request token) (some (.callback .ipcGprsPdpContext)) .gprsPdpContext .set
              (ipcGprsPdpContextRequestSetSetup 0 (UInt8.ofNat c.cid) none none) then
            return .handled
          else
            rilDataConnectionStop c.record
            failRequest token
  | _ => failRequest token

/-- `"%i.%i.%i.%i"` -/
def printAddress (address : Bytes) : CString :=
  (address.map fun b => digits 10 b.toNat).intersperse [0x2e] |>.flatten

/-- `free` of the old string, and `asprintf` of the new one -/
def printTo (old : Option HeapString) (value : CString) : RilM HeapString := do
  free old
  strdup value

/-- The gateway is the address itself. -/
def ipcGprsIpConfiguration (message : IpcMessage) : RilM Rc := do
  match IpcGprsIpConfigurationData.read message.data with
  | none => return .failed
  | some data =>
    match (← get).dataConnectionFindCid data.cid.toNat with
    | none =>
      if ipcSeqValid message.aseq then
        completeReply message .genericFailure .null
      return .ok
    | some c =>
      let ip ← printTo c.ip (printAddress data.ip)
      let gateway ← printTo c.gateway (printAddress data.ip)
      let subnetMask ← printTo c.subnetMask (printAddress [255, 255, 255, 255])
      let dns1 ← printTo c.dns1 (printAddress data.dns1)
      let dns2 ← printTo c.dns2 (printAddress data.dns2)
      modify (RilData.dataConnectionUpdate c.record fun c =>
        { c with
          ip := some ip
          gateway := some gateway
          subnetMask := some subnetMask
          dns1 := some dns1
          dns2 := some dns2 })
      return .ok

def ipcGprsHsdpaStatus (message : IpcMessage) : RilM Rc := do
  match firstByte message.data with
  | none => return .failed
  | some status =>
    match (← get).fmt.data with
    | none => return .failed
    | some fmt =>
      if fmt.hsdpaStatus ≠ status then
        modify (RilData.modifyFmt fun d => { d with hsdpaStatus := status })
        rilRequestUnsolicited .voiceNetworkStateChanged .null
      return .ok

/-- The `error` label: the connection is stopped, whether or not it was stopped before. -/
def callStatusError (c : RilDataConnection) (request : Option RilRequest) : RilM Unit := do
  rilDataConnectionStop c.record
  match request with
  | none => return ()
  | some request => rilRequestComplete request.token .genericFailure .null

/-- The end of the branches that did not fail. -/
def callStatusEnd (c : RilDataConnection) (request : Option RilRequest) : RilM Unit := do
  match request with
  | some _ => return ()
  | none =>
    if !(← transmit (.reply 0) none .gprsPdpContext .get []) then
      callStatusError c none

def isRequest (code : RilRequestCode) (request : Option RilRequest) : Bool :=
  match request with
  | none => false
  | some request => request.request == code

def callStatusEnabled (data : IpcGprsCallStatusData) (c : RilDataConnection)
    (request : Option RilRequest) : RilM Unit := do
  if c.enabled then
    if isRequest .deactivateDataCall request then
      callStatusError c request
    else
      callStatusEnd c request
  else if ← rilDataConnectionEnable c then
    if isRequest .setupDataCall request then
      rilRequestComplete c.token .success
        (.dataCalls [dataCallResponse c (ipc2rilGprsFailCause data.failCause) c.cid 2])
      modify (RilData.dataConnectionUpdate c.record fun c => { c with token := 0 })
    callStatusEnd c request
  else
    callStatusError c request

/-- A request that was answered is not completed again by the error label. -/
def callStatusDisabled (data : IpcGprsCallStatusData) (c : RilDataConnection)
    (request : Option RilRequest) : RilM Unit := do
  if c.enabled then
    if ← rilDataConnectionDisable c then
      rilDataConnectionStop c.record
      if isRequest .deactivateDataCall request then
        rilRequestComplete ((request.map (·.token)).getD 0) .success .null
      callStatusEnd c request
    else
      callStatusError c request
  else if isRequest .setupDataCall request then
    rilRequestComplete ((request.map (·.token)).getD 0) .success
      (.dataCalls [⟨ipc2rilGprsFailCause data.failCause, 0, 0, none, none, none, none, none⟩])
    callStatusError c none
  else
    callStatusEnd c request

def ipcGprsCallStatus (message : IpcMessage) : RilM Rc := do
  match IpcGprsCallStatusData.read message.data with
  | none => return .failed
  | some data =>
    let s ← get
    if s.radioStateCheck .simReady then
      match s.dataConnectionFindCid data.cid.toNat with
      | none =>
        if ipcSeqValid message.aseq then
          completeReply message .genericFailure .null
      | some c =>
        let request := s.requestFindToken c.token
        if data.status == ipcGprsStatusEnabled then
          callStatusEnabled data c request
        else if data.status == ipcGprsStatusDisabled || data.status == ipcGprsStatusNotEnabled then
          callStatusDisabled data c request
        else
          callStatusEnd c request
    return .ok

def rilRequestLastDataCallFailCause (_ : RilValue) (token : RilToken) : RilM RilRequestStatus :=
  whenRadioState .simNotReady do
    match ← rilRequestDataGet .lastDataCallFailCause with
    | some (.int failCause) => completeRequest token .success (.int failCause)
    | _ => completeRequest token .success (.int 0xffff)

end Ril.Samsung
