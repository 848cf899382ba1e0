import Ril.Samsung.Request
import Ril.Ipc.Net

/-! The network. -/

namespace Ril.Samsung

open Ril.Ipc

def digits (base n : ℕ) : CString := ascii (Nat.toDigits base n)

/-- `"%d"` -/
def decimal (n : ℤ) : CString := if n < 0 then 0x2d :: digits 10 n.natAbs else digits 10 n.toNat

/-- `"%x"` -/
def hexadecimal (n : ℕ) : CString := digits 16 n

def ipc2rilDispRssi (rssi : UInt8) : RilResponse :=
  let asu : ℤ := 56 - (rssi.toNat / 2 : ℕ)
  .signalStrength (if asu < 0 then 0 else if 31 < asu then 31 else asu) 99

def asuBars : List ℤ := [1, 3, 5, 8, 12, 15]

def ipc2rilDispIconInfo (data : IpcDispIconInfoResponseData) : Option RilResponse :=
  if data.flags &&& ipcDispIconInfoFlagRssi = 0 then none
  else some (.signalStrength (asuBars.getD (min data.rssi.toNat 5) 0) 99)

def ipc2rilNetPlmnSel (plmnSel : UInt8) : ℤ :=
  if plmnSel = ipcNetPlmnSelAuto then 0 else if plmnSel = ipcNetPlmnSelManual then 1 else -1

/-- The `RIL_RadioTechnology` -/
def registrationTechnology (act hsdpaStatus : UInt8) : ℤ :=
  match act.toNat with
  | 0x00 => 16
  | 0x01 => 16
  | 0x02 => 1
  | 0x03 => 2
  | 0x04 => if hsdpaStatus = 0x01 then 9 else if hsdpaStatus = 0x02 then 15 else 3
  | _ => 0

def registrationStatus (status : UInt8) : ℤ :=
  match status.toNat with
  | 0x01 => 0
  | 0x02 => 1
  | 0x03 => 2
  | 0x04 => 10
  | 0x05 => 4
  | 0x06 => 5
  | _ => 0

/-- The first four strings of a registration of `count` strings. -/
def ipc2rilNetRegistResponse (data : IpcNetRegistResponseData) (hsdpaStatus : UInt8) (count : ℕ) :
    List (Option CString) :=
  [some (decimal (registrationStatus data.status)), some (hexadecimal data.lac),
    some (hexadecimal data.cid), some (decimal (registrationTechnology data.act hsdpaStatus))] ++
    List.replicate (count - 4) none

def isDigit (c : UInt8) : Bool := 0x30 ≤ c.toNat && c.toNat ≤ 0x39

def decimalValue (string : CString) : ℕ := string.foldl (fun n c => 10 * n + (c.toNat - 0x30)) 0

structure Operator where
  plmn : CString
  operatorLong : CString
  operatorShort : CString
deriving DecidableEq, Repr

/-- The last entry of the list with the MCC and the MNC of the PLMN is taken. -/
def ipc2rilNetOperator (plmnList : List PlmnListEntry) (data : Bytes) : Option Operator :=
  let plmn := data.takeWhile isDigit
  if plmn.length < 4 then none
  else
    match plmnList.reverse.find? fun e =>
        e.mcc == decimalValue (plmn.take 3) && e.mnc == decimalValue ((plmn.drop 3).take 2) with
    | none => none
    | some entry => some ⟨plmn, entry.operatorLong, entry.operatorShort⟩

def Operator.strings (operator : Operator) : List (Option CString) :=
  [some operator.operatorLong, some operator.operatorShort, some operator.plmn]

def ipc2rilNetModeSel (modeSel : UInt8) : ℤ :=
  if modeSel = 0x01 then 0 else if modeSel = 0x02 then 1 else if modeSel = 0x03 then 2 else -1

def ril2ipcNetModeSel (type : ℤ) : UInt8 :=
  if type = 0 ∨ type = 3 then 0x01 else if type = 1 then 0x02 else if type = 2 then 0x03 else 0x01

/-- The requests that are a `GET` without any other condition than the radio state. -/
def getRequest (radioState : RilRadioState) (command : IpcCommand) (data : Bytes) (token : RilToken) :
    RilM RilRequestStatus :=
  whenRadioState radioState <| sendRequest token none command .get data

/-- The same for those that wait for the end of the one before. -/
def getRequestAlone (radioState : RilRadioState) (request : RilRequestCode) (command : IpcCommand)
    (data : Bytes) (token : RilToken) : RilM RilRequestStatus :=
  whenRadioState radioState <| whenNoneHandled [request] <| sendRequest token none command .get data

def ipcDispIconInfo (message : IpcMessage) : RilM Rc := do
  match IpcDispIconInfoResponseData.read message.data with
  | none => return .failed
  | some data =>
    if (← get).radioStateCheck .simNotReady then
      match ipc2rilDispIconInfo data with
      | none =>
        if IpcMessage.isResponse message then
          completeReply message .genericFailure .null
      | some strength =>
        if IpcMessage.isResponse message then
          completeReply message .success strength
        else
          rilRequestUnsolicited .signalStrength strength
    return .ok

def rilRequestSignalStrength (_ : RilValue) (token : RilToken) : RilM RilRequestStatus :=
  getRequest .simNotReady .dispIconInfo [ipcDispIconInfoFlagRssi] token

def ipcDispRssiInfo (message : IpcMessage) : RilM Rc := do
  match firstByte message.data with
  | none => return .failed
  | some rssi =>
    if (← get).radioStateCheck .simNotReady then
      rilRequestUnsolicited .signalStrength (ipc2rilDispRssi rssi)
    return .ok

/-- The answers that complete their request with one `int`. -/
def intResponse (message : IpcMessage) (value : UInt8 → ℤ) : RilM Rc := do
  match firstByte message.data with
  | none => return .failed
  | some data =>
    if (← get).radioStateCheck .simNotReady && IpcMessage.isResponse message then
      completeReply message .success (.int (value data))
    return .ok

def ipcNetPlmnSel (message : IpcMessage) : RilM Rc := intResponse message ipc2rilNetPlmnSel

def rilRequestQueryNetworkSelectionMode (_ : RilValue) (token : RilToken) : RilM RilRequestStatus :=
  getRequest .simNotReady .netPlmnSel [] token

def ipcNetPlmnSelCallback (message : IpcMessage) : RilM Rc := do
  match IpcGenPhoneResData.read message.data with
  | none => return .failed
  | some data =>
    if ipcGenPhoneResCheck data then
      completeReply message .success .null
    else if data.code % 256 = 0x6f then
      completeReply message .illegalSimOrMe .null
    else
      completeReply message .genericFailure .null
    return .ok

def rilRequestSetNetworkSelectionAutomatic (_ : RilValue) (token : RilToken) : RilM RilRequestStatus :=
  whenRadioState .simNotReady <|
    sendRequest token (some (.callback .ipcNetPlmnSel)) .netPlmnSel .set
      (ipcNetPlmnSelSetup ipcNetPlmnSelAuto [] ipcNetAccessTechnologyUnknown)

def rilRequestSetNetworkSelectionManual (data : RilValue) (token : RilToken) : RilM RilRequestStatus :=
  match data with
  | .string plmn =>
    whenRadioState .simNotReady <|
      sendRequest token (some (.callback .ipcNetPlmnSel)) .netPlmnSel .set
        (ipcNetPlmnSelSetup ipcNetPlmnSelManual plmn ipcNetAccessTechnologyUnknown)
  | _ => failRequest token

def ipcNetServingNetwork (message : IpcMessage) : RilM Rc := do
  match ipcNetServingNetworkPlmn message.data with
  | none => return .failed
  | some plmn =>
    let s ← get
    if s.radioStateCheck .simNotReady then
      match ipc2rilNetOperator s.env.plmnList plmn with
      | none =>
        if IpcMessage.isResponse message then
          completeReply message .genericFailure .null
      | some operator =>
        if IpcMessage.isResponse message then
          completeReply message .success (.strings operator.strings)
        else
          rilRequestDataSet .operator (.strings operator.strings)
          rilRequestUnsolicited .voiceNetworkStateChanged .null
    return .ok

/-- The requests that are answered from what the modem has notified, when there is something. -/
def cachedStrings (request : RilRequestCode) (command : IpcCommand) (data : Bytes) (token : RilToken) :
    RilM RilRequestStatus :=
  whenRadioState .simNotReady <| whenNoneHandled [request] do
    match ← rilRequestDataGet request with
    | some (.strings values) => completeRequest token .success (.strings values)
    | _ => sendRequest token none command .get data

def rilRequestOperator (_ : RilValue) (token : RilToken) : RilM RilRequestStatus :=
  cachedStrings .operator .netServingNetwork [] token

/-- `"available"`, `"current"`, `"forbidden"` or `"unknown"` -/
def plmnStatus (status : UInt8) : CString :=
  match status.toNat with
  | 0x02 => ascii ['a', 'v', 'a', 'i', 'l', 'a', 'b', 'l', 'e']
  | 0x03 => ascii ['c', 'u', 'r', 'r', 'e', 'n', 't']
  | 0x04 => ascii ['f', 'o', 'r', 'b', 'i', 'd', 'd', 'e', 'n']
  | _ => ascii ['u', 'n', 'k', 'n', 'o', 'w', 'n']

def plmnListNetwork (plmnList : List PlmnListEntry) (data : Bytes) (index : ℕ) :
    Option (List (Option CString)) := do
  let entry ← ipcNetPlmnListEntryExtract data index
  let operator ← ipc2rilNetOperator plmnList entry.plmn
  return operator.strings ++ [some (plmnStatus entry.status)]

def ipcNetPlmnList (message : IpcMessage) : RilM Rc := do
  match message.data with
  | [] => return .failed
  | data =>
    let s ← get
    if s.radioStateCheck .simNotReady && IpcMessage.isResponse message then
      if ipcNetPlmnListCountExtract data = 0 then
        completeReply message .success .null
      else
        match (List.range (ipcNetPlmnListCountExtract data)).mapM (plmnListNetwork s.env.plmnList data) with
        | none => completeReply message .genericFailure .null
        | some networks => completeReply message .success (.strings networks.flatten)
    return .ok

def rilRequestQueryAvailableNetworks (_ : RilValue) (token : RilToken) : RilM RilRequestStatus :=
  getRequestAlone .simNotReady .queryAvailableNetworks .netPlmnList [] token

/-- The request a registration domain belongs to and the number of strings of its answer. -/
def registrationDomain (domain : UInt8) : Option (RilRequestCode × ℕ) :=
  if domain = ipcNetServiceDomainGsm then some (.voiceRegistrationState, 15)
  else if domain = ipcNetServiceDomainGprs then some (.dataRegistrationState, 5)
  else none

/-- A registration for packet data ends with the number of cids. -/
def registrationStrings (s : RilData) (hsdpaStatus : UInt8) (data : IpcNetRegistResponseData) (count : ℕ) :
    Option (List (Option CString)) :=
  let registration := ipc2rilNetRegistResponse data hsdpaStatus count
  if data.domain = ipcNetServiceDomainGprs then
    s.env.gprsCidCount.map fun cidCount => registration.take 4 ++ [some (decimal cidCount)]
  else some registration

def ipcNetRegist (message : IpcMessage) : RilM Rc := do
  match IpcNetRegistResponseData.read message.data with
  | none => return .failed
  | some data =>
    let s ← get
    match s.fmt.data, registrationDomain data.domain with
    | some fmt, some (request, count) =>
      if s.radioStateCheck .simNotReady then
        match registrationStrings s fmt.hsdpaStatus data count with
        | none =>
          if ipcSeqValid message.aseq then
            completeReply message .genericFailure .null
        | some registration =>
          if IpcMessage.isResponse message then
            completeReply message .success (.strings registration)
          else
            rilRequestDataSet request (.strings registration)
            rilRequestUnsolicited .voiceNetworkStateChanged .null
      return .ok
    | _, _ => return .ok

def rilRequestVoiceRegistrationState (_ : RilValue) (token : RilToken) : RilM RilRequestStatus :=
  cachedStrings .voiceRegistrationState .netRegist (ipcNetRegistSetup ipcNetServiceDomainGsm) token

def rilRequestDataRegistrationState (_ : RilValue) (token : RilToken) : RilM RilRequestStatus :=
  cachedStrings .dataRegistrationState .netRegist (ipcNetRegistSetup ipcNetServiceDomainGprs) token

def ipcNetModeSel (message : IpcMessage) : RilM Rc := intResponse message ipc2rilNetModeSel

def rilRequestGetPreferredNetworkType (_ : RilValue) (token : RilToken) : RilM RilRequestStatus :=
  getRequest .simNotReady .netModeSel [] token

def rilRequestSetPreferredNetworkType (data : RilValue) (token : RilToken) : RilM RilRequestStatus :=
  match data with
  | .ints (type :: _) =>
    if ril2ipcNetModeSel type = 0 then completeRequest token .modeNotSupported .null
    else sendRequest token (some .complete) .netModeSel .set [ril2ipcNetModeSel type]
  | _ => failRequest token

end Ril.Samsung
