import Ril.Reference.Modem
import Ril.Reference.Network

/-! The requests that the reference RIL gets from libril. -/

namespace Ril.Reference

open Ril.Libril (RequestData radioTech3gpp radioTech3gpp2)

/-! ### SMS messages -/

section

variable (env : RefEnv)

/-- `strlen(pdu) / 2` -/
def pduLength (pdu : Bytes) : Int32 := Int32.ofNat (pdu.length / 2)

def requestWriteSmsToSim (data : RequestData) : RefM Unit :=
  onError (do
    let pdu ← deref (← stringField data .pdu)
    let status ← intField data .status
    let cmd := ascii "AT+CMGW=" ++ decimal (pduLength pdu) ++ ascii "," ++ decimal status
    let _ ← orError (succeeded (← atSendCommandSms env cmd pdu (ascii "+CMGW:")))
    onRequestComplete .success .null)
    (onRequestComplete .genericFailure .null)

def requestDeleteSmsOnSim (data : RequestData) : RefM Unit :=
  onError (do
    let index ← intAt data 0
    let _ ← orError (succeeded (← atSendCommand env (ascii "AT+CMGD=" ++ decimal index)))
    onRequestComplete .success .null)
    (onRequestComplete .genericFailure .null)

/-- The fields are only logged. -/
def requestCdmaSendSMS (data : RequestData) : RefM Unit := do
  let _ ← intField data .uTeleserviceID
  onRequestComplete .smsSendFailRetry (.sms (-1))

/-- `NULL` is the default service centre. -/
def sendPdu (data : RequestData) : RefM Unit := do
  let smsc ← stringAt data 0
  let pdu ← deref (← stringAt data 1)
  let cmd := ascii "AT+CMGS=" ++ decimal (pduLength pdu)
  let _ ← orError (succeeded (← atSendCommandSms env cmd (smsc.getD (ascii "00") ++ pdu) (ascii "+CMGS:")))
  onRequestComplete .success (.sms 1)

def requestSendSMS (data : RequestData) : RefM Unit := do
  let d ← get
  if d.imsGsmFail ≠ 0 then onRequestComplete .genericFailure (.sms (-2))
  else if d.imsGsmRetry ≠ 0 then onRequestComplete .smsSendFailRetry (.sms (-1))
  else onError (sendPdu env data) (onRequestComplete .genericFailure (.sms (-2)))

def messageData : Option Libril.Parameters → RequestData
  | none => .null
  | some ps => .parameters ps

def requestImsSendSMS (data : RequestData) : RefM Unit := do
  let d ← get
  if d.imsCausePermFailure ≠ 0 then onRequestComplete .genericFailure (.sms (-2))
  else
    match data with
    | .imsSms tech retry _ message =>
      if d.imsCauseRetry ≠ 0 ∧ retry = 0 then onRequestComplete .smsSendFailRetry (.sms (-1))
      else if tech = radioTech3gpp.toInt then requestSendSMS env (messageData message)
      else if tech = radioTech3gpp2.toInt then requestCdmaSendSMS (messageData message)
      else onRequestComplete .genericFailure (.sms (-2))
    | _ => throw .undefined

/-- The label `error` follows the answer of a success. -/
def requestSMSAcknowledge (data : RequestData) : RefM Unit := do
  let ackSuccess ← intAt data 0
  if ackSuccess = 1 then
    atSendCommandOnly env (ascii "AT+CNMA=1")
    onRequestComplete .success .null
  else if ackSuccess = 0 then
    atSendCommandOnly env (ascii "AT+CNMA=2")
    onRequestComplete .success .null
  onRequestComplete .genericFailure .null

end

/-! ### The requests -/

inductive RefRequest
  | getSimStatus | enterSimPin | enterSimPuk | enterSimPin2 | enterSimPuk2 | changeSimPin | changeSimPin2 | simIo
  | getImsi | getImei
  | getCurrentCalls | dial | hangup | call (request : CallRequest) | separateConnection | dtmf
  | signalStrength | registration (request : RegistrationRequest) | operator
  | queryNetworkSelectionMode | setNetworkSelectionAutomatic
  | getCellInfoList | setUnsolCellInfoListRate | imsRegistrationState
  | radioPower | shutdown | getHardwareConfig
  | sendSms | sendSmsExpectMore | cdmaSendSms | imsSendSms | smsAcknowledge | writeSmsToSim | deleteSmsOnSim
  | setupDataCall | dataCallList
  | sendUssd | cancelUssd | oemHookRaw | oemHookStrings
  | voiceRadioTech | setPreferredNetworkType | getPreferredNetworkType
  | basebandVersion | deviceIdentity | cdmaSubscription | cdmaSetSubscriptionSource | cdmaGetSubscriptionSource
  | cdmaQueryRoamingPreference | cdmaSetRoamingPreference | exitEmergencyCallbackMode
  | other (request : ℤ)
deriving DecidableEq, Repr

variable (env : RequestEnv)

def requestSendUSSD : RefM Unit := onRequestComplete .requestNotSupported .null

def requestSetNetworkSelectionAutomatic : RefM Unit := atSendCommandOnly env.toRefEnv (ascii "AT+COPS=0")

def requestNotSupported : RefM Unit := onRequestComplete .requestNotSupported .null

/-- For another technology the case falls through to those behind it, which ask for the same technology, and at last to
that of an unknown request. -/
def cdmaOnly (handler : RefM Unit) : RefM Unit := do
  if (← get).modem.isCdma then handler else requestNotSupported

/-- The switch of `onRequest` -/
def requestHandler (request : RefRequest) (data : RequestData) : RefM Unit :=
  match request with
  | .getSimStatus => requestGetSimStatus env.toRefEnv
  | .getCurrentCalls => requestGetCurrentCalls env.toRefEnv
  | .dial => requestDial env.toRefEnv data
  | .hangup => requestHangup env.toRefEnv data
  | .call request => sendAndComplete env.toRefEnv request.command
  | .separateConnection => requestSeparateConnection env.toRefEnv data
  | .signalStrength => requestSignalStrength env.toRefEnv
  | .registration request => requestRegistrationState env.toRefEnv request
  | .operator => requestOperator env.toRefEnv
  | .radioPower => requestRadioPower env data
  | .dtmf => requestDtmf env.toRefEnv data
  | .sendSms | .sendSmsExpectMore => requestSendSMS env.toRefEnv data
  | .cdmaSendSms => requestCdmaSendSMS data
  | .imsSendSms => requestImsSendSMS env.toRefEnv data
  | .setupDataCall => requestSetupDataCall env data
  | .smsAcknowledge => requestSMSAcknowledge env.toRefEnv data
  | .getImsi => requestNumeric env.toRefEnv (ascii "AT+CIMI")
  | .getImei => requestNumeric env.toRefEnv (ascii "AT+CGSN")
  | .simIo => requestSIMIO env.toRefEnv data
  | .sendUssd => requestSendUSSD
  | .cancelUssd => requestNumeric env.toRefEnv (ascii "AT+CUSD=2")
  | .setNetworkSelectionAutomatic => requestSetNetworkSelectionAutomatic env
  | .dataCallList => requestDataCallList env
  | .queryNetworkSelectionMode => requestQueryNetworkSelectionMode env.toRefEnv
  | .oemHookRaw | .oemHookStrings => onRequestComplete .success (.echo data)
  | .writeSmsToSim => requestWriteSmsToSim env.toRefEnv data
  | .deleteSmsOnSim => requestDeleteSmsOnSim env.toRefEnv data
  | .enterSimPin | .enterSimPuk | .enterSimPin2 | .enterSimPuk2 | .changeSimPin | .changeSimPin2 =>
    requestEnterSimPin env.toRefEnv data
  | .imsRegistrationState => requestImsRegistrationState
  | .voiceRadioTech => requestVoiceRadioTech
  | .setPreferredNetworkType => requestSetPreferredNetworkType env.toRefEnv data
  | .getPreferredNetworkType => requestGetPreferredNetworkType env.toRefEnv
  | .getCellInfoList => requestGetCellInfoList
  | .setUnsolCellInfoListRate => requestSetCellInfoListRate env data
  | .getHardwareConfig => requestGetHardwareConfig
  | .shutdown => requestShutdown env.toRefEnv
  | .basebandVersion => cdmaOnly requestCdmaBaseBandVersion
  | .deviceIdentity => cdmaOnly (requestCdmaDeviceIdentity env.toRefEnv)
  | .cdmaSubscription => cdmaOnly requestCdmaSubscription
  | .cdmaSetSubscriptionSource => cdmaOnly (requestCdmaSetSubscriptionSource env.toRefEnv data)
  | .cdmaGetSubscriptionSource => cdmaOnly (requestCdmaGetSubscriptionSource env.toRefEnv)
  | .cdmaQueryRoamingPreference => cdmaOnly (requestCdmaGetRoamingPreference env.toRefEnv)
  | .cdmaSetRoamingPreference => cdmaOnly (requestCdmaSetRoamingPreference env.toRefEnv data)
  | .exitEmergencyCallbackMode => cdmaOnly (requestExitEmergencyMode env.toRefEnv)
  | .other _ => requestNotSupported

/-- While the radio is unavailable or off only the status of the SIM is answered, and, if it is off, it can be turned
on. -/
def onRequest (request : RefRequest) (data : RequestData) : RefM Unit := do
  let sState := (← get).sState
  if sState = .unavailable ∧ request ≠ .getSimStatus then onRequestComplete .radioNotAvailable .null
  else if sState = .off ∧ ¬(request = .radioPower ∨ request = .getSimStatus) then
    onRequestComplete .radioNotAvailable .null
  else requestHandler env request data

end Ril.Reference
