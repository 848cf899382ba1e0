import Mathlib.Logic.Function.Basic
import Ril.Ipc.Message

/-! The way of a request through the mock RIL: its conversion, the queue of the requests, the component that handles it,
and the conversion of what the component answers. -/

namespace Ril.Mock

open Ipc (Bytes)

def rilESuccess : ℤ := 0

def rilEGenericFailure : ℤ := 2

def rilERequestNotSupported : ℤ := 6

/-! ### The payload of a request -/

inductive ReqConversion
  | noData | enterSimPin | dial
  /-- `ReqHangUp`, `ReqSeparateConnection`, `ReqSetMute` and `ReqScreenState` -/
  | int
deriving DecidableEq, Repr

def rilReqConversionMap : List (ℤ × ReqConversion) :=
  [(1, .noData), (2, .enterSimPin), (9, .noData), (10, .dial), (11, .noData), (12, .int), (13, .noData), (14, .noData),
    (15, .noData), (16, .noData), (18, .noData), (19, .noData), (20, .noData), (21, .noData), (22, .noData),
    (38, .noData), (39, .noData), (40, .noData), (45, .noData), (46, .noData), (51, .noData), (52, .int), (53, .int),
    (61, .int)]

/-- What a conversion reads of the payload: what the first pointer points to (nothing if it is `NULL`), and the pointer
to the user-to-user information with the one to its data -/
structure RequestPayload where
  datalen : ℕ
  text : Option Bytes
  uusInfo : Option (Option Bytes)
deriving DecidableEq, Repr

/-- `STATUS_OK` and `STATUS_BAD_DATA`; or the conversion reads through `NULL` or past the payload -/
inductive ConversionStatus
  | ok | badData | faulted
deriving DecidableEq, Repr

/-- `sizeof(RIL_Dial)`, with pointers of 4 bytes -/
def rilDialSize : ℕ := 12

def ReqConversion.convert (payload : RequestPayload) : ReqConversion → ConversionStatus
  | noData => .ok
  | int => if payload.datalen < 4 then .badData else .ok
  | enterSimPin =>
    if payload.datalen < 4 then .badData
    else if payload.text.isNone then .faulted
    else .ok
  | dial =>
    if payload.datalen < 4 then .badData
    else if payload.datalen < rilDialSize ∨ payload.text = none ∨ payload.uusInfo = some none then .faulted
    else .ok

/-! ### What the components answer -/

structure AppStatusMessage where
  appType : ℤ
  appState : ℤ
  persoSubstate : ℤ
  aid : Bytes
  appLabel : Bytes
  pin1Replaced : ℤ
  pin1 : ℤ
  pin2 : ℤ
deriving DecidableEq, Repr

structure CardStatusMessage where
  cardState : ℤ
  universalPinState : ℤ
  gsmUmtsSubscriptionAppIndex : ℤ
  cdmaSubscriptionAppIndex : ℤ
  imsSubscriptionAppIndex : ℤ
  numApplications : ℤ
  applications : List AppStatusMessage
deriving DecidableEq, Repr

structure UusInfoMessage where
  uusType : ℤ
  uusDcs : ℤ
  uusLength : ℤ
  uusData : Bytes
deriving DecidableEq, Repr

structure CallMessage where
  state : ℤ
  index : ℤ
  toa : ℤ
  isMpty : Bool
  isMt : Bool
  als : ℤ
  isVoice : Bool
  isVoicePrivacy : Bool
  number : Bytes
  numberPresentation : ℤ
  name : Bytes
  namePresentation : ℤ
  uusInfo : Option UusInfoMessage
deriving DecidableEq, Repr

structure SignalStrengthMessage where
  gwSignalStrength : ℤ
  gwBitErrorRate : ℤ
  cdmaDbm : ℤ
  cdmaEcio : ℤ
  evdoDbm : ℤ
  evdoEcio : ℤ
  evdoSignalNoiseRatio : ℤ
  lteSignalStrength : ℤ
  lteRsrp : ℤ
  lteRsrq : ℤ
  lteRssnr : ℤ
  lteCqi : ℤ
deriving DecidableEq, Repr

structure OperatorMessage where
  longAlphaOns : Option Bytes
  shortAlphaOns : Option Bytes
  mccMnc : Option Bytes
deriving DecidableEq, Repr

/-- The protobuf library, which parses any bytes, and the numbers of JavaScript, through which a token goes -/
structure MockLibrary where
  strings : Bytes → List Bytes
  integers : Bytes → List ℤ
  cardStatus : Bytes → CardStatusMessage
  retriesRemaining : Bytes → ℤ
  calls : Bytes → List CallMessage
  signalStrength : Bytes → SignalStrengthMessage
  operator : Bytes → OperatorMessage
  throughNumber : ℕ → ℕ

/-! ### What the framework gets -/

/-- `c_str()`, up to the first zero -/
def cStr (text : Bytes) : Bytes := text.takeWhile (· ≠ 0)

/-- "*magic-null*" -/
def magicNull : Bytes := [42, 109, 97, 103, 105, 99, 45, 110, 117, 108, 108, 42]

abbrev RilCardStatusV6 := CardStatusMessage

def rilCardMaxApps : ℕ := 8

inductive ResponseData
  | null
  | strings (strings : List (Option Bytes))
  | string (text : Bytes)
  | integers (integers : List ℤ)
  | cardStatus (status : RilCardStatusV6)
  | retriesRemaining (retries : ℤ)
  | calls (calls : List CallMessage)
  | signalStrength (strength : SignalStrengthMessage)
  | operator (names : OperatorMessage)
deriving DecidableEq, Repr

/-- A call of `OnRequestComplete` -/
structure Completion where
  token : ℕ
  rilErrno : ℤ
  data : ResponseData
deriving DecidableEq, Repr

/-- What stands on the stack where a conversion has its structures -/
structure StackContents where
  cardStatus : RilCardStatusV6
  applications : cardStatus.applications.length = rilCardMaxApps
  signalStrength : SignalStrengthMessage

inductive RspConversion
  | noData | strings | string | integers | getSimStatus | enterSimPinData | getCurrentCalls | signalStrength | operator
deriving DecidableEq, Repr

def rilRspConversionMap : List (ℤ × RspConversion) :=
  [(1, .getSimStatus), (2, .enterSimPinData), (9, .getCurrentCalls), (11, .string), (12, .noData), (13, .noData),
    (14, .noData), (15, .noData), (16, .noData), (18, .integers), (19, .signalStrength), (20, .strings), (21, .strings),
    (22, .operator), (38, .string), (39, .string), (40, .noData), (45, .integers), (46, .noData), (51, .string),
    (52, .noData), (53, .noData), (61, .noData)]

def AppStatusMessage.unmarshalled (app : AppStatusMessage) : AppStatusMessage :=
  { app with aid := cStr app.aid, appLabel := cStr app.appLabel }

def CallMessage.unmarshalled (call : CallMessage) : CallMessage :=
  { call with
    number := cStr call.number
    name := cStr call.name
    uusInfo := call.uusInfo.map fun info => { info with uusData := cStr info.uusData } }

def OperatorMessage.unmarshalled (names : OperatorMessage) : OperatorMessage :=
  ⟨names.longAlphaOns.map cStr, names.shortAlphaOns.map cStr, names.mccMnc.map cStr⟩

/-- The loop over so many applications: it fails past those of the message, and past those of the structure. -/
def copyApplications (source : List AppStatusMessage) (count : ℕ) (target : List AppStatusMessage) :
    Option (List AppStatusMessage) :=
  (List.range count).foldlM (fun target i => (source[i]?).bind fun app =>
    if i < target.length then some (target.set i app.unmarshalled) else none) target

/-- `RspGetSimStatus` sets no `cdma_subscription_app_index`. -/
def rspGetSimStatus (message : CardStatusMessage) (stack : RilCardStatusV6) : Option RilCardStatusV6 :=
  (copyApplications message.applications message.numApplications.toNat stack.applications).map fun applications =>
    { stack with
      cardState := message.cardState
      universalPinState := message.universalPinState
      gsmUmtsSubscriptionAppIndex := message.gsmUmtsSubscriptionAppIndex
      imsSubscriptionAppIndex := message.imsSubscriptionAppIndex
      numApplications := message.numApplications
      applications := applications }

/-- `unmarshallRilSignalStrength` fills a structure of its own, and not that of its caller. -/
def unmarshallRilSignalStrength (_ : SignalStrengthMessage) (pSignalStrength : SignalStrengthMessage) :
    SignalStrengthMessage := pSignalStrength

def rspStrings (text : Bytes) : Option Bytes := if cStr text = magicNull then none else some (cStr text)

/-- The data that a conversion makes of the bytes of a buffer, unless it reads or writes outside of a structure -/
def RspConversion.convert (L : MockLibrary) (stack : StackContents) (bytes : Bytes) :
    RspConversion → Option ResponseData
  | noData => some .null
  | strings => some (.strings ((L.strings bytes).map rspStrings))
  | string => (L.strings bytes).head?.map fun text => .string (cStr text)
  | integers => some (.integers (L.integers bytes))
  | getSimStatus => (rspGetSimStatus (L.cardStatus bytes) stack.cardStatus).map .cardStatus
  | enterSimPinData => some (.retriesRemaining (L.retriesRemaining bytes))
  | getCurrentCalls => some (.calls ((L.calls bytes).map CallMessage.unmarshalled))
  | signalStrength => some (.signalStrength (unmarshallRilSignalStrength (L.signalStrength bytes) stack.signalStrength))
  | operator => some (.operator (L.operator bytes).unmarshalled)

/-- `SendRilRequestComplete`; the conversions other than `RspWithNoData` read through the pointer to the buffer. -/
def sendRilRequestComplete (L : MockLibrary) (stack : StackContents) (rilErrno cmd : ℤ) (token : ℕ)
    (buffer : Option Bytes) : Option Completion :=
  match rilRspConversionMap.lookup cmd with
  | some .noData => some ⟨token, rilErrno, .null⟩
  | some conversion =>
    buffer.bind fun bytes => (conversion.convert L stack bytes).map fun data => ⟨token, rilErrno, data⟩
  | none =>
    if (buffer.getD []).length = 0 then some ⟨token, rilESuccess, .null⟩
    else some ⟨token, rilERequestNotSupported, .null⟩

/-! ### The components -/

/-- `simulatedIcc` and `simulatedRadio`, each with a worker -/
inductive Component
  | icc | radio
deriving DecidableEq, Repr

/-- `simDispatchTable` and `radioDispatchTable`, the latter without the commands of the control server and of the radio
itself -/
def Component.dispatchTable : Component → List ℤ
  | icc => [1, 2, 11, 22, 38, 39]
  | radio => [9, 10, 12, 13, 14, 15, 16, 18, 19, 20, 21, 40, 45, 46, 51, 52, 53, 61]

/-- `dispatchTable`, the components that a request is sent to -/
def dispatchTable : List (ℤ × List Component) :=
  [(1, [.icc]), (2, [.icc]), (9, [.radio]), (10, [.radio]), (11, [.icc]), (12, [.radio]), (13, [.radio]),
    (14, [.radio]), (15, [.radio]), (16, [.radio]), (18, [.radio]), (19, [.radio]), (20, [.radio]), (21, [.radio]),
    (22, [.icc]), (38, [.icc]), (39, [.icc]), (40, [.radio]), (45, [.radio]), (46, [.radio]), (51, [.radio]),
    (52, [.radio]), (53, [.radio]), (61, [.radio])]

/-- What a handler leaves in `result`: `process` begins with an empty protobuf, and one that throws may have set
another. -/
inductive HandlerOutcome
  | returned (rilErrCode : ℤ) (responseProtobuf : Bytes)
  | threw (responseProtobuf : Bytes)
deriving DecidableEq, Repr

def HandlerOutcome.rilErrCode : HandlerOutcome → ℤ
  | returned rilErrCode _ => rilErrCode
  | threw _ => rilERequestNotSupported

def HandlerOutcome.responseProtobuf : HandlerOutcome → Bytes
  | returned _ responseProtobuf => responseProtobuf
  | threw responseProtobuf => responseProtobuf

/-! ### The mock RIL -/

structure MockRequest where
  code : ℤ
  token : ℕ
deriving DecidableEq, Repr

/-- Where an answer comes from -/
inductive AnswerSource
  | unknownRequest | refusedPayload | noComponent
  | handler (outcome : HandlerOutcome)
deriving DecidableEq, Repr

structure Answer where
  request : MockRequest
  source : AnswerSource
  completion : Completion
deriving DecidableEq, Repr

/-- The queues of `RilRequestWorkerQueue` and of the components; what was given to `AddRequest`, and the calls of
`OnRequestComplete` with the request that each is for -/
structure MockRil where
  rilQueue : List MockRequest
  componentQueue : Component → List MockRequest
  added : List MockRequest
  answers : List Answer
  faulted : Bool

namespace MockRil

def initial : MockRil := ⟨[], fun _ => [], [], [], false⟩

/-- A completion that is none is a fault on the way to it. -/
def complete (m : MockRil) (request : MockRequest) (source : AnswerSource) : Option Completion → MockRil
  | some completion => { m with answers := m.answers ++ [⟨request, source, completion⟩] }
  | none => { m with faulted := true }

/-- `AddRequest`, behind the record of what it is given -/
def convertRequest (m : MockRil) (request : MockRequest) (payload : RequestPayload) : MockRil :=
  match rilReqConversionMap.lookup request.code with
  | none => m.complete request .unknownRequest (some ⟨request.token, rilERequestNotSupported, .null⟩)
  | some conversion =>
    match conversion.convert payload with
    | .ok => { m with rilQueue := m.rilQueue ++ [request] }
    | .badData => m.complete request .refusedPayload (some ⟨request.token, rilEGenericFailure, .null⟩)
    | .faulted => { m with faulted := true }

def addRequest (m : MockRil) (request : MockRequest) (payload : RequestPayload) : MockRil :=
  { m with added := m.added ++ [request] }.convertRequest request payload

/-- `Worker::add` of a component -/
def addTo (m : MockRil) (request : MockRequest) (component : Component) : MockRil :=
  { m with componentQueue := Function.update m.componentQueue component (m.componentQueue component ++ [request]) }

def onRilRequest (L : MockLibrary) (stack : StackContents) (m : MockRil) (request : MockRequest) : MockRil :=
  match dispatchTable.lookup request.code with
  | none =>
    m.complete request .noComponent
      (sendRilRequestComplete L stack rilERequestNotSupported request.code (L.throughNumber request.token) none)
  | some components => components.foldl (fun m component => m.addTo request component) m

/-- `Radio.process` and `Icc.process`; no entry in the table throws before the protobuf is set. -/
def process (L : MockLibrary) (stack : StackContents) (component : Component) (outcome : HandlerOutcome) (m : MockRil)
    (request : MockRequest) : MockRil :=
  let outcome := if request.code ∈ component.dispatchTable then outcome else .threw []
  m.complete request (.handler outcome)
    (sendRilRequestComplete L stack outcome.rilErrCode request.code (L.throughNumber request.token)
      (some outcome.responseProtobuf))

end MockRil

/-- The threads of the framework, of `RilRequestWorkerQueue` and of the workers run in any order, one at a time by the
lock of the engine. -/
inductive MockRilAction
  | addRequest (request : MockRequest) (payload : RequestPayload)
  | processRequest (stack : StackContents)
  | processComponent (component : Component) (outcome : HandlerOutcome) (stack : StackContents)

def MockRil.step (L : MockLibrary) (m : MockRil) : MockRilAction → Option MockRil
  | .addRequest request payload => if m.faulted then none else some (m.addRequest request payload)
  | .processRequest stack =>
    if m.faulted then none
    else match m.rilQueue with
      | [] => none
      | request :: queue => some ({ m with rilQueue := queue }.onRilRequest L stack request)
  | .processComponent component outcome stack =>
    if m.faulted then none
    else match m.componentQueue component with
      | [] => none
      | request :: queue =>
        some ({ m with componentQueue := Function.update m.componentQueue component queue }.process L stack component
          outcome request)

end Ril.Mock
