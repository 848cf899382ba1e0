import Ril.Samsung.Misc
import Ril.Samsung.Call
import Ril.Samsung.Sms
import Ril.Samsung.Sim
import Ril.Samsung.Data

/-! The handlers of the requests, of the generic answers and of the messages. -/

namespace Ril.Samsung

open Ril.Ipc

def rilRequestHandler : RilRequestCode → Option (RilValue → RilToken → RilM RilRequestStatus)
  | .radioPower => some rilRequestRadioPower
  | .dial => some rilRequestDial
  | .hangup => some rilRequestHangup
  | .hangupWaitingOrBackground => some rilRequestHangup
  | .hangupForegroundResumeBackground => some rilRequestHangup
  | .answer => some rilRequestAnswer
  | .lastCallFailCause => some rilRequestLastCallFailCause
  | .getCurrentCalls => some rilRequestGetCurrentCalls
  | .dtmf => some rilRequestDtmf
  | .dtmfStart => some rilRequestDtmfStart
  | .dtmfStop => some rilRequestDtmfStop
  | .sendSms => some rilRequestSendSms
  | .sendSmsExpectMore => some rilRequestSendSms
  | .writeSmsToSim => some rilRequestWriteSmsToSim
  | .deleteSmsOnSim => some rilRequestDeleteSmsOnSim
  | .smsAcknowledge => some rilRequestSmsAcknowledge
  | .getSimStatus => some rilRequestGetSimStatus
  | .queryFacilityLock => some rilRequestQueryFacilityLock
  | .setFacilityLock => some rilRequestSetFacilityLock
  | .enterSimPin => some rilRequestEnterSimPin
  | .enterSimPuk => some rilRequestEnterSimPuk
  | .enterSimPin2 => some rilRequestEnterSimPin2
  | .enterSimPuk2 => some rilRequestEnterSimPuk2
  | .changeSimPin => some rilRequestChangeSimPin
  | .changeSimPin2 => some rilRequestChangeSimPin2
  | .simIo => some rilRequestSimIo
  | .signalStrength => some rilRequestSignalStrength
  | .queryNetworkSelectionMode => some rilRequestQueryNetworkSelectionMode
  | .setNetworkSelectionAutomatic => some rilRequestSetNetworkSelectionAutomatic
  | .setNetworkSelectionManual => some rilRequestSetNetworkSelectionManual
  | .operator => some rilRequestOperator
  | .queryAvailableNetworks => some rilRequestQueryAvailableNetworks
  | .voiceRegistrationState => some rilRequestVoiceRegistrationState
  | .dataRegistrationState => some rilRequestDataRegistrationState
  | .getPreferredNetworkType => some rilRequestGetPreferredNetworkType
  | .setPreferredNetworkType => some rilRequestSetPreferredNetworkType
  | .setMute => some rilRequestSetMute
  | .basebandVersion => some rilRequestBasebandVersion
  | .getImsi => some rilRequestGetImsi
  | .getImei => some rilRequestGetImei
  | .getImeisv => some rilRequestGetImeisv
  | .screenState => some rilRequestScreenState
  | .oemHookRaw => some rilRequestOemHookRaw
  | .setupDataCall => some rilRequestSetupDataCall
  | .deactivateDataCall => some rilRequestDeactivateDataCall
  | .lastDataCallFailCause => some rilRequestLastDataCallFailCause
  | .dataCallList => some rilRequestDataCallList
  | .other _ => none

/-- The status is stored in the record of the request unless the handler completed it. -/
def rilRequestDispatch (request : RilRequest) : RilM Rc := do
  match rilRequestHandler request.request with
  | none =>
    rilRequestComplete request.token .requestNotSupported .null
    return .ok
  | some handler =>
    match ← handler request.data request.token with
    | .completed => return .ok
    | .failed => return .failed
    | status =>
      modify (RilData.requestSetStatus request.token status)
      return .ok

def GenPhoneResCallback.run : GenPhoneResCallback → IpcMessage → RilM Rc
  | ipcSecPinStatus => ipcSecPinStatusCallback
  | ipcSec => ipcSecCallback
  | ipcCallContDtmf => ipcCallContDtmfCallback
  | ipcNetPlmnSel => ipcNetPlmnSelCallback
  | ipcGprsDefinePdpContext => ipcGprsDefinePdpContextCallback
  | ipcGprsPdpContext => ipcGprsPdpContextCallback

def genPhoneResExpected (message : IpcMessage) (data : IpcGenPhoneResData)
    (expect : IpcGenPhoneResExpect) : RilM Rc := do
  if data.command ≠ expect.command.code then
    return .failed
  match expect.callback with
  | some callback => callback.run message
  | none =>
    let error : RilErrno := if ipcGenPhoneResCheck data then .success else .genericFailure
    if expect.complete || (expect.abort && error == .genericFailure) then
      completeReply message error .null
    return .ok

def ipcGenPhoneRes (message : IpcMessage) : RilM Rc := do
  match IpcGenPhoneResData.read message.data with
  | none => return .failed
  | some data =>
    match (← get).expectFindAseq message.aseq with
    | none => return .ok
    | some expect =>
      let rc ← genPhoneResExpected message data expect
      modify (RilData.expectUnregister message.aseq)
      return rc

def ipcFmtHandler : IpcCommand → Option (IpcMessage → RilM Rc)
  | .pwrPhonePwrUp => some ipcPwrPhonePwrUp
  | .pwrPhoneReset => some ipcPwrPhoneReset
  | .pwrPhoneState => some ipcPwrPhoneState
  | .callIncoming => some ipcCallIncoming
  | .callStatus => some ipcCallStatus
  | .callList => some ipcCallList
  | .callBurstDtmf => some ipcCallBurstDtmf
  | .smsSendMsg => some ipcSmsSendMsg
  | .smsIncomingMsg => some ipcSmsIncomingMsg
  | .smsSaveMsg => some ipcSmsSaveMsg
  | .smsDelMsg => some ipcSmsDelMsg
  | .smsDeliverReport => some ipcSmsDeliverReport
  | .smsSvcCenterAddr => some ipcSmsSvcCenterAddr
  | .secPinStatus => some ipcSecPinStatus
  | .secPhoneLock => some ipcSecPhoneLock
  | .secRsimAccess => some ipcSecRsimAccess
  | .secSimIccType => some ipcSecSimIccType
  | .secLockInfomation => some ipcSecLockInfomation
  | .dispIconInfo => some ipcDispIconInfo
  | .dispRssiInfo => some ipcDispRssiInfo
  | .netPlmnSel => some ipcNetPlmnSel
  | .netServingNetwork => some ipcNetServingNetwork
  | .netPlmnList => some ipcNetPlmnList
  | .netRegist => some ipcNetRegist
  | .netModeSel => some ipcNetModeSel
  | .miscMeVersion => some ipcMiscMeVersion
  | .miscMeImsi => some ipcMiscMeImsi
  | .miscMeSn => some ipcMiscMeSn
  | .miscTimeInfo => some ipcMiscTimeInfo
  | .svcDisplayScreen => some ipcSvcDisplayScreen
  | .gprsPs => some ipcGprsPs
  | .gprsPdpContext => some ipcGprsPdpContext
  | .gprsIpConfiguration => some ipcGprsIpConfiguration
  | .gprsHsdpaStatus => some ipcGprsHsdpaStatus
  | .gprsCallStatus => some ipcGprsCallStatus
  | .genPhoneRes => some ipcGenPhoneRes
  | _ => none

def ipcFmtDispatch (message : IpcMessage) : RilM Rc :=
  match ipcFmtHandler message.command with
  | none => return .ok
  | some handler => handler message

def srsDispatch : SrsMessage → RilM Unit
  | .sndSetCallVolume type volume => srsSndSetCallVolume type volume
  | .sndSetCallAudioPath path => srsSndSetCallAudioPath path
  | .sndSetCallClockSync sync => srsSndSetCallClockSync sync
  | .testSetRadioState state => srsTestSetRadioState state

end Ril.Samsung
