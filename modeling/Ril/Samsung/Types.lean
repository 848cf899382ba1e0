import Ril.Ipc.Utils

/-! The values exchanged with the framework. -/

namespace Ril.Samsung

open Ril.Ipc

/-- A `RIL_Token`; `NULL` is 0. -/
abbrev RilToken := ℕ

inductive RilRequestCode
  | radioPower
  | dial | hangup | hangupWaitingOrBackground | hangupForegroundResumeBackground | answer
  | lastCallFailCause | getCurrentCalls | dtmf | dtmfStart | dtmfStop
  | sendSms | sendSmsExpectMore | writeSmsToSim | deleteSmsOnSim | smsAcknowledge
  | getSimStatus | queryFacilityLock | setFacilityLock
  | enterSimPin | enterSimPuk | enterSimPin2 | enterSimPuk2 | changeSimPin | changeSimPin2 | simIo
  | signalStrength | queryNetworkSelectionMode | setNetworkSelectionAutomatic
  | setNetworkSelectionManual | operator | queryAvailableNetworks
  | voiceRegistrationState | dataRegistrationState
  | getPreferredNetworkType | setPreferredNetworkType
  | setMute
  | basebandVersion | getImsi | getImei | getImeisv | screenState
  | oemHookRaw
  | setupDataCall | deactivateDataCall | lastDataCallFailCause | dataCallList
  | other (code : ℕ)
deriving DecidableEq, Repr

inductive RilErrno
  | success | radioNotAvailable | genericFailure | passwordIncorrect | simPin2
  | requestNotSupported | opNotAllowedBeforeRegToNw | smsSendFailRetry | modeNotSupported
  | illegalSimOrMe
deriving DecidableEq, Repr

inductive RilUnsol
  | radioStateChanged | callStateChanged | voiceNetworkStateChanged | dataCallListChanged
  | simStatusChanged | callRing | newSms | newSmsStatusReport | signalStrength | nitzTimeReceived
deriving DecidableEq, Repr

inductive RilRadioState
  | off | unavailable | simNotReady | simLockedOrAbsent | simReady
  | ruimNotReady | ruimReady | ruimLockedOrAbsent | nvNotReady | nvReady | on
  | other (code : ℤ)
deriving DecidableEq, Repr

/-- The cast of an `int` to `RIL_RadioState` -/
def RilRadioState.ofCode (code : ℤ) : RilRadioState :=
  match code with
  | 0 => off
  | 1 => unavailable
  | 2 => simNotReady
  | 3 => simLockedOrAbsent
  | 4 => simReady
  | 5 => ruimNotReady
  | 6 => ruimReady
  | 7 => ruimLockedOrAbsent
  | 8 => nvNotReady
  | 9 => nvReady
  | 10 => on
  | code => other code

/-- The position in the `radio_states` of `ril_radio_state_check`; a state that is not
listed comes after all of them. -/
def RilRadioState.index : RilRadioState → ℕ
  | unavailable => 0
  | off => 1
  | on => 2
  | nvNotReady => 3
  | nvReady => 4
  | simNotReady => 5
  | simLockedOrAbsent => 6
  | simReady => 7
  | _ => 8

/-- The status of a request and the value of its handler; `failed` stands for a negative value. -/
inductive RilRequestStatus
  | pending | handled | unhandled | completed | failed
deriving DecidableEq, Repr

structure RilSimIo where
  command : ℤ
  fileid : ℤ
  path : Option CString
  p1 : ℤ
  p2 : ℤ
  p3 : ℤ
  data : Option CString
  pin2 : Option CString
  aidPtr : Option CString
deriving DecidableEq, Repr

/-- The data of a request, in the form that the dispatch function of its code passes. -/
inductive RilValue
  | null
  | ints (values : List ℤ)
  | string (value : CString)
  | strings (values : List (Option CString))
  | dial (address : Option CString) (clir : ℤ)
  | smsWriteArgs (status : ℤ) (pdu smsc : Option CString)
  | simIo (value : RilSimIo)
  | raw (data : Bytes)
deriving DecidableEq, Repr

inductive RilAppType
  | unknown | sim
deriving DecidableEq, Repr

inductive RilAppState
  | unknown | detected | pin | puk | subscriptionPerso | ready
deriving DecidableEq, Repr

inductive RilPersoSubstate
  | unknown | ready | simNetwork | simNetworkSubset | simCorporate | simServiceProvider
deriving DecidableEq, Repr

inductive RilPinState
  | unknown | enabledNotVerified | enabledBlocked | enabledPermBlocked
deriving DecidableEq, Repr

structure RilAppStatus where
  appType : RilAppType
  appState : RilAppState
  persoSubstate : RilPersoSubstate
  pin1 : RilPinState
deriving DecidableEq, Repr

inductive RilCardState
  | absent | present
deriving DecidableEq, Repr

structure RilCardStatus where
  cardState : RilCardState
  universalPinState : RilPinState
  gsmUmtsSubscriptionAppIndex : ℤ
  cdmaSubscriptionAppIndex : ℤ
  imsSubscriptionAppIndex : ℤ
  applications : List RilAppStatus
deriving DecidableEq, Repr

inductive RilCallState
  | active | holding | dialing | alerting | incoming | waiting | invalid
deriving DecidableEq, Repr

structure RilCall where
  state : RilCallState
  index : UInt8
  isMpty : UInt8
  isMT : Bool
  isVoice : Bool
  number : CString
  numberPresentation : ℤ
  toa : ℤ
deriving DecidableEq, Repr

structure RilDataCallResponse where
  status : ℤ
  cid : ℕ
  active : ℤ
  type : Option CString
  ifname : Option CString
  addresses : Option CString
  dnses : Option CString
  gateways : Option CString
deriving DecidableEq, Repr

/-- What is passed to `OnRequestComplete` and `OnUnsolicitedResponse`. -/
inductive RilResponse
  | null
  | int (value : ℤ)
  | string (value : CString)
  | strings (values : List (Option CString))
  | cardStatus (status : RilCardStatus)
  | simIo (sw1 sw2 : UInt8) (simResponse : Option CString)
  | sms (messageRef : UInt8)
  | signalStrength (signalStrength bitErrorRate : ℤ)
  | calls (values : List RilCall)
  | dataCalls (values : List RilDataCallResponse)
  | raw (data : Bytes)
deriving DecidableEq, Repr

end Ril.Samsung
