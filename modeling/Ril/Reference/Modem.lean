import Ril.Reference.Registration
import Ril.Reference.SimCard

/-! The requests of the reference RIL about the radio and about the technology of the modem. -/

namespace Ril.Reference

open Ril.Samsung (RilRadioState)
open Ril.Libril (RequestData)

variable (env : RefEnv)

/-! ### The radio -/

def onRadioPowerOn : RefM Unit := pollSIMState env

/-- Once the channel is closed the radio can only be unavailable. -/
def setRadioState (newState : RilRadioState) : RefM Unit := do
  let oldState := (← get).sState
  let newState := if (← get).closed then .unavailable else newState
  modify fun d => { d with sState := newState }
  if newState ≠ oldState then
    onUnsolicitedResponse .radioStateChanged .null
    onUnsolicitedResponse .simStatusChanged .null
    if newState = .on then onRadioPowerOn env

/-- `1` for on, `0` for off, `-1` for an error -/
def isRadioOn : RefM Int32 := do
  match succeeded (← atSendCommandSingleline env (ascii "AT+CFUN?") (ascii "+CFUN:")) with
  | none => return -1
  | some response =>
    let line ← firstLine response
    match (do atTokStart; atTokNextbool env.longBits : Tok Bool) (some line) with
    | none => return -1
    | some (ret, _) => return if ret then 1 else 0

def requestRadioPower (env : RequestEnv) (data : RequestData) : RefM Unit :=
  onError (do
    assert env.asserts (env.pointerSize ≤ 4 * (intsOf data).length)
    let onOff ← intAt data 0
    let sState := (← get).sState
    if onOff = 0 ∧ sState ≠ .off then
      let _ ← orError (succeeded (← atSendCommand env.toRefEnv (ascii "AT+CFUN=0")))
      setRadioState env.toRefEnv .off
    else if 0 < onOff ∧ sState = .off then
      if (succeeded (← atSendCommand env.toRefEnv (ascii "AT+CFUN=1"))).isNone then
        -- some stacks return an error when there is no SIM, but turn the radio on
        if (← isRadioOn env.toRefEnv) ≠ 1 then throw .error
      setRadioState env.toRefEnv .on
    onRequestComplete .success .null)
    (onRequestComplete .genericFailure .null)

def requestShutdown : RefM Unit := do
  if (← get).sState ≠ .off then
    let _ ← atSendCommand env (ascii "AT+CFUN=0")
    setRadioState env .unavailable
  onRequestComplete .success .null

/-! ### The technology -/

/-- `TECH_BIT(sMdmInfo) == MDM_CDMA` -/
def ModemInfo.isCdma (mdm : ModemInfo) : Bool := mdm.currentTech = 2

/-- The value of `RIL_RadioTechnology` -/
def RadioTech.code : RadioTech → Int32
  | gprs => 1
  | oneXRtt => 6
  | evdoA => 8
  | hspa => 11
  | lte => 14

def setRadioTechnology (newtech : Int32) : RefM Unit := do
  let oldtech := (← get).modem.currentTech
  if newtech ≠ oldtech then
    modify fun d => { d with modem := { d.modem with currentTech := newtech } }
    if techFromModemType newtech ≠ techFromModemType oldtech then
      match techFromModemType newtech with
      | some tech => onUnsolicitedResponse .voiceRadioTechChanged (.ints [tech.code])
      | none => return

/-- `MDM_GSM` and so on -/
def mdmBit (mdmtype : ℕ) : Int32 := (1 : Int32) <<< Int32.ofNat mdmtype

def mdmBits (mdmtypes : List ℕ) : Int32 := (mdmtypes.map mdmBit).foldr (· ||| ·) 0

/-- GSM, WCDMA, CDMA, EvDo and LTE are the types from 0 to 4. -/
def net2modem : List Int32 :=
  [[0, 1], [0], [1], [0, 1], [2, 3], [2], [3], [0, 1, 2, 3], [4, 2, 3], [4, 0, 1], [4, 2, 3, 0, 1], [4]].map mdmBits

/-- The same but for the preference of GSM in the first entry -/
def net2pmask : List Int32 := (mdmBit 0 ||| mdmBit 1 <<< 8) :: net2modem.tail

/-- `table[i]` for an `int` -/
def tableAt (table : List Int32) (i : Int32) : RefM Int32 :=
  deref (if 0 ≤ i then table[i.toInt.toNat]? else none)

def networkModePossible (nm : Int32) : RefM Bool := do
  let bits ← tableAt net2modem nm
  return bits &&& (← get).modem.supportedTechs = bits

/-- The current technology, and the preferred one if it is there -/
def parseTechnologyResponse (response : Bytes) : Option (Int32 × Option Int32) :=
  match atTokStart (some response) with
  | none => none
  | some (_, p) =>
    if !atTokHasmore p then none
    else (atTokNextint env.longBits p).map fun (ct, p) => (ct, (atTokNexthexint env.longBits p).map Prod.fst)

def queryCtec : RefM (Option (Int32 × Option Int32)) := do
  match succeeded (← atSendCommandSingleline env (ascii "AT+CTEC?") (ascii "+CTEC:")) with
  | none => return none
  | some response => return parseTechnologyResponse env (← firstLine response)

/-- `strstr(line, "DONE")` -/
def hasDone (line : Bytes) : Bool := line.tails.any fun s => strStartsWith s (ascii "DONE")

def requestSetPreferredNetworkType (data : RequestData) : RefM Unit := do
  let value ← intAt data 0
  let preferred ← tableAt net2pmask value
  if !(← networkModePossible value) then onRequestComplete .modeNotSupported .null
  else
    match ← queryCtec env with
    | none => onRequestComplete .genericFailure .null
    | some (current, _) =>
      if (← get).modem.preferredNetworkMode = preferred then onRequestComplete .success .null
      else
        let cmd := ascii "AT+CTEC=" ++ decimal current ++ ascii ",\"" ++ hexadecimal preferred ++ ascii "\""
        match succeeded (← atSendCommandSingleline env cmd (ascii "+CTEC:")) with
        | none => onRequestComplete .genericFailure .null
        | some response =>
          modify fun d => { d with modem := { d.modem with preferredNetworkMode := value } }
          let line ← firstLine response
          if !hasDone line then
            match parseTechnologyResponse env line with
            | none => pure ()
            | some (current, _) => setRadioTechnology current
          onRequestComplete .success .null

def requestGetPreferredNetworkType : RefM Unit := do
  match ← queryCtec env with
  | some (_, some preferred) =>
    match net2pmask.findIdx? (· = preferred) with
    | some i => onRequestComplete .success (.ints [Int32.ofNat i])
    | none => onRequestComplete .genericFailure .null
  | _ => onRequestComplete .genericFailure .null

def requestVoiceRadioTech : RefM Unit := do
  match techFromModemType (← get).modem.currentTech with
  | none => onRequestComplete .genericFailure .null
  | some tech => onRequestComplete .success (.ints [tech.code])

def requestGetHardwareConfig : RefM Unit := onRequestComplete .success (.hardwareConfig (-1))

/-! ### CDMA -/

def requestCdmaBaseBandVersion : RefM Unit := onRequestComplete .success (.string (ascii "1.0.0.0"))

def requestCdmaDeviceIdentity : RefM Unit := do
  match succeeded (← atSendCommandNumeric env (ascii "AT+CGSN")) with
  | none => onRequestComplete .genericFailure .null
  | some response =>
    let fixed := ["----", "----", "77777777"].map (some ∘ ascii)
    onRequestComplete .success (.strings (fixed ++ [some (← firstLine response)]))

def requestCdmaSubscription : RefM Unit :=
  onRequestComplete .success (.strings (["8587777777", "1", "1", "8587777777", "1"].map (some ∘ ascii)))

/-- Without a number the value is that of `strtol`. -/
def requestCdmaGetSubscriptionSource : RefM Unit :=
  onError (do
    let response ← orError (succeeded (← atSendCommandSingleline env (ascii "AT+CCSS?") (ascii "+CCSS:")))
    let line ← tokens (do atTokStart; get) (← firstLine response)
    onRequestComplete .success (.ints [((atTokNextint env.longBits line).map Prod.fst).getD 0]))
    (onRequestComplete .genericFailure .null)

def requestCdmaSetSubscriptionSource (data : RequestData) : RefM Unit :=
  onError (do
    if (intsOf data).isEmpty then throw .error
    let ss ← intAt data 0
    let _ ← orError (succeeded (← atSendCommand env (ascii "AT+CCSS=" ++ decimal ss)))
    onRequestComplete .success .null
    onUnsolicitedResponse .cdmaSubscriptionSourceChanged (.ints [ss]))
    (onRequestComplete .genericFailure .null)

def requestCdmaGetRoamingPreference : RefM Unit :=
  onError (do
    let response ← orError (succeeded (← atSendCommandSingleline env (ascii "AT+WRMP?") (ascii "+WRMP:")))
    let roamingPref ← tokens (do atTokStart; atTokNextint env.longBits) (← firstLine response)
    onRequestComplete .success (.ints [roamingPref]))
    (onRequestComplete .genericFailure .null)

def requestCdmaSetRoamingPreference (data : RequestData) : RefM Unit :=
  onError (do
    let pref ← intAt data 0
    let _ ← orError (succeeded (← atSendCommand env (ascii "AT+WRMP=" ++ decimal pref)))
    onRequestComplete .success .null)
    (onRequestComplete .genericFailure .null)

def requestExitEmergencyMode : RefM Unit :=
  onError (do
    let _ ← orError (succeeded (← atSendCommand env (ascii "AT+WSOS=0")))
    onRequestComplete .success .null)
    (onRequestComplete .genericFailure .null)

end Ril.Reference
