import Ril.Lib.Transition
import Ril.Reference.Modem
import Ril.Reference.Requests

/-! The start of the reference RIL on a channel, and its end. -/

namespace Ril.Reference

variable (env : RefEnv)

/-! ### The technology -/

/-- The numbers up to the first failure: each takes at least one byte of the line. -/
def techNumbers (longBits : ℕ) : ℕ → Option Bytes → List Int32
  | 0, _ => []
  | n + 1, cur =>
    match atTokNextint longBits cur with
    | none => []
    | some (val, cur) => val :: techNumbers longBits n cur

/-- `techs |= (1 << val)` for each of the numbers -/
def techMask (vals : List Int32) : Int32 := vals.foldl (fun techs val => techs ||| (1 : Int32) <<< val) 0

def parseSupportedTechs (line : Bytes) : Option Int32 :=
  match atTokStart (some line) with
  | none => none
  | some (_, cur) => if atTokHasmore cur then some (techMask (techNumbers env.longBits (line.length + 1) cur)) else none

def querySupportedTechs : RefM (Option Int32) := do
  match succeeded (← atSendCommandSingleline env (ascii "AT+CTEC=?") (ascii "+CTEC:")) with
  | none => return none
  | some response => return parseSupportedTechs env (← firstLine response)

def isMultimodeModem : RefM Bool := do
  match ← queryCtec env with
  | some (tech, some preferred) =>
    modify fun d => { d with modem := { d.modem with currentTech := tech, preferredNetworkMode := preferred } }
    match ← querySupportedTechs env with
    | none => return false
    | some techs =>
      modify fun d => { d with modem := { d.modem with supportedTechs := techs } }
      return true
  | _ => return false

/-- A CDMA modem implements `AT+WNAM`. Without `AT+CTEC` the current technology is given as its bit. -/
def probeForModemMode : RefM Unit := do
  if !(← isMultimodeModem env) then
    let cdma := (succeeded (← atSendCommandSingleline env (ascii "AT+WNAM") (ascii "+WNAM:"))).isSome
    let (supportedTechs, currentTech) := if cdma then (mdmBits [2, 3], mdmBit 2) else (mdmBits [0, 1, 4], mdmBit 0)
    modify fun d => { d with modem := { d.modem with supportedTechs := supportedTechs, currentTech := currentTech } }

/-! ### The channel -/

def handshakeRetryCount : ℕ := 8

/-- At most so many tries, each with a time limit -/
def handshakeTries : ℕ → RefM Unit
  | 0 => return
  | n + 1 => do
    let c : AtCommand := { command := ascii "ATE0Q0V1", type := .noResult, timeout := true, outResponse := false }
    match ← atSendCommandFull env c with
    | .ok _ => return
    | .error _ => handshakeTries n

def atHandshake : RefM Unit := handshakeTries env handshakeRetryCount

/-- Some handsets do not support `CREG=2`. -/
def registrationEvents : RefM Unit := do
  if (succeeded (← atSendCommand env (ascii "AT+CREG=2"))).isNone then atSendCommandOnly env (ascii "AT+CREG=1")

/-- The commands that can be sent before the radio is on -/
def initialCommands : List Bytes :=
  ["AT+CGREG=1", "AT+CCWA=1", "AT+CMOD=0", "AT+CMUT=0", "AT+CSSN=0,1", "AT+COLP=0", "AT+CSCS=\"HEX\"", "AT+CUSD=1",
    "AT+CGEREP=1,0", "AT+CMGF=0"].map ascii

def initializeCallback : RefM Unit := do
  setRadioState env .off
  atHandshake env
  probeForModemMode env
  sendAll env (["ATE0Q0V1", "ATS0=0", "AT+CMEE=1"].map ascii)
  registrationEvents env
  sendAll env initialCommands
  if 0 < (← isRadioOn env) then setRadioState env .on

/-- Called when the reader has ended, or a command timed out -/
def onATReaderClosed : RefM Unit := do
  modify fun d => { d with closed := true }
  setRadioState env .unavailable

def onATTimeout : RefM Unit := onATReaderClosed env

/-- One turn of `mainLoop` with a channel that could be opened -/
def openChannel : RefM Unit := do
  modify fun d => { d with closed := false }
  requestTimedCallback .initializeCallback

end Ril.Reference

/-! The unsolicited lines, as the reader thread gives them to the reference RIL. -/

namespace Ril.Reference

variable (env : RefEnv)

/-- The time is read behind the release of the line that holds it. -/
def onNitzTime (s : Bytes) : RefM Unit :=
  let p := match atTokStart (some s) with
    | none => some s
    | some (_, p) => p
  match atTokNextstr p with
  | none => return
  | some _ => throw .undefined

/-- `1 << tech` is one of `MDM_GSM`, `MDM_CDMA`, `MDM_WCDMA` and `MDM_LTE`. -/
def isNotifiedTech (tech : Int32) : Bool := tech = 0 ∨ tech = 2 ∨ tech = 1 ∨ tech = 4

def onTechnology (s : Bytes) : RefM Unit :=
  match parseTechnologyResponse env s with
  | none => return
  | some (tech, _) => if isNotifiedTech tech then setRadioTechnology tech else return

/-- Lines with one item that is reported -/
def onItem {α : Type} (item : Tok α) (s : Bytes) (report : α → RefM Unit) : RefM Unit :=
  match (do atTokStart; item : Tok α) (some s) with
  | none => return
  | some (v, _) => report v

def onSubscriptionSource (s : Bytes) : RefM Unit :=
  onItem (atTokNextint env.longBits) s fun source =>
    onUnsolicitedResponse .cdmaSubscriptionSourceChanged (.ints [source])

def onEmergencyMode (s : Bytes) : RefM Unit :=
  onItem (atTokNextbool env.longBits) s fun state =>
    onUnsolicitedResponse (if state then .enterEmergencyCallbackMode else .exitEmergencyCallbackMode) .null

def onPrl (s : Bytes) : RefM Unit :=
  onItem (atTokNextint env.longBits) s fun version => onUnsolicitedResponse .cdmaPrlChanged (.ints [version])

def callLines : List Bytes := ["+CRING:", "RING", "NO CARRIER", "+CCWA"].map ascii

def networkLines : List Bytes := ["+CREG:", "+CGREG:"].map ascii

/-- `strlen(sms_pdu)` -/
def onSms (unsolResponse : RefUnsol) (smsPdu : Option Bytes) : RefM Unit := do
  let pdu ← deref smsPdu
  onUnsolicitedResponse unsolResponse (.string pdu)

/-- The tests of `onUnsolicited`, in their order -/
def unsolicitedHandler (s : Bytes) (smsPdu : Option Bytes) : RefM Unit :=
  if strStartsWith s (ascii "%CTZV:") then onNitzTime s
  else if callLines.any (strStartsWith s) then onUnsolicitedResponse .callStateChanged .null
  else if networkLines.any (strStartsWith s) then onUnsolicitedResponse .voiceNetworkStateChanged .null
  else if strStartsWith s (ascii "+CMT:") then onSms .newSms smsPdu
  else if strStartsWith s (ascii "+CDS:") then onSms .newSmsStatusReport smsPdu
  else if strStartsWith s (ascii "+CGEV:") then requestTimedCallback .onDataCallListChanged
  else if strStartsWith s (ascii "+CTEC: ") then onTechnology env s
  else if strStartsWith s (ascii "+CCSS: ") then onSubscriptionSource env s
  else if strStartsWith s (ascii "+WSOS: ") then onEmergencyMode env s
  else if strStartsWith s (ascii "+WPRL: ") then onPrl env s
  else if strStartsWith s (ascii "+CFUN: 0") then setRadioState env .off
  else return

/-- Ignored until the RIL is initialized -/
def onUnsolicited (s : Bytes) (smsPdu : Option Bytes) : RefM Unit := do
  if (← get).sState ≠ .unavailable then unsolicitedHandler env s smsPdu

end Ril.Reference

/-! The reference RIL between libril, its timed callbacks and the channel to the modem. A handler runs to its end before
the next one begins. -/

namespace Ril.Reference

open Ril.Libril (RequestData)

variable (env : RequestEnv)

inductive RefAction
  | request (request : RefRequest) (data : RequestData)
  | callback (callback : TimedCallback)
  | line (s : Bytes) (smsPdu : Option Bytes)
  | readerClosed | timeout | opened
deriving DecidableEq

def callbackHandler : TimedCallback → RefM Unit
  | .initializeCallback => initializeCallback env.toRefEnv
  | .pollSIMState => pollSIMState env.toRefEnv
  | .sendCallStateChanged => sendCallStateChanged
  | .onDataCallListChanged => onDataCallListChanged env

def actionHandler : RefAction → RefM Unit
  | .request request data => onRequest env request data
  | .callback callback => callbackHandler env callback
  | .line s smsPdu => onUnsolicited env.toRefEnv s smsPdu
  | .readerClosed => onATReaderClosed env.toRefEnv
  | .timeout => onATTimeout env.toRefEnv
  | .opened => openChannel

/-- `ran` are the callbacks that have been called. -/
structure RefSystem where
  ril : RefRil := {}
  ran : List TimedCallback := []

namespace RefSystem

def scheduled (callback : TimedCallback) (s : RefSystem) : ℕ :=
  s.ril.log.count (.requestTimedCallback callback) - s.ran.count callback

/-- A callback is called if it is scheduled, and the channel is opened again once it is closed. -/
def enabled (s : RefSystem) : RefAction → Bool
  | .callback callback => 0 < s.scheduled callback
  | .opened => s.ril.closed
  | _ => true

def ranBy (s : RefSystem) : RefAction → List TimedCallback
  | .callback callback => callback :: s.ran
  | _ => s.ran

/-- `mainLoop` has opened the channel. -/
def init : RefSystem := { ril := (openChannel {}).2 }

end RefSystem

/-- Behind behaviour that is undefined there is no state. -/
def refStep (s : RefSystem) (a : RefAction) : Option RefSystem :=
  if s.enabled a then
    match actionHandler env a s.ril with
    | (.error .undefined, _) => none
    | (_, d) => some { ril := d, ran := s.ranBy a }
  else none

end Ril.Reference
