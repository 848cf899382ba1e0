import Ril.Samsung.DataConnection

/-! The request lists, the seqs, the expected answers, the request data and the radio state. -/

namespace Ril.Samsung

open Ril.Ipc Ril.Lib

namespace RilData

def modifyFmt (f : IpcFmtData → IpcFmtData) (s : RilData) : RilData :=
  { s with fmt := { s.fmt with data := s.fmt.data.map f } }

def fmtRequests (s : RilData) : List IpcFmtRequest :=
  match s.fmt.data with
  | none => []
  | some data => data.requests

def fmtExpects (s : RilData) : List IpcGenPhoneResExpect :=
  match s.fmt.data with
  | none => []
  | some data => data.genPhoneResExpect

def requestFindToken (token : RilToken) (s : RilData) : Option RilRequest :=
  s.requests.find? (·.token == token)

def requestFindStatus (status : RilRequestStatus) (s : RilData) : Option RilRequest :=
  s.requests.find? (·.status == status)

def requestFindRequestStatus (request : RilRequestCode) (status : RilRequestStatus) (s : RilData) :
    Option RilRequest :=
  s.requests.find? fun r => r.request == request && r.status == status

def requestRegister (request : RilRequestCode) (data : RilValue) (token : RilToken) (s : RilData) :
    RilData :=
  { s.modifyFmt fun d => { d with requests := d.requests ++ [⟨request, token, 0xff⟩] } with
    requests := s.requests ++ [⟨request, data, token, .pending⟩] }

def ipcFmtRequestUnregister (request : RilRequestCode) (token : RilToken) (s : RilData) : RilData :=
  s.modifyFmt fun d =>
    { d with requests := d.requests.eraseP fun r => r.request == request && r.token == token }

/-- Requests are kept by token: `ril_on_request` never registers one of a token twice. -/
def requestUnregister (token : RilToken) (s : RilData) : RilData :=
  match s.requestFindToken token with
  | none => s
  | some r =>
    { s.ipcFmtRequestUnregister r.request token with
      requests := s.requests.eraseP (·.token == token) }

def requestFlush (s : RilData) : RilData := { s with requests := [] }

def requestSetStatus (token : RilToken) (status : RilRequestStatus) (s : RilData) : RilData :=
  { s with requests := s.requests.map fun r => if r.token == token then { r with status } else r }

def requestComplete (token : RilToken) (error : RilErrno) (response : RilResponse) (s : RilData) :
    RilData :=
  if token = 0 then s
  else { (s.requestUnregister token).log (.completed token error response) with loopSignal := true }

def requestUnsolicited (request : RilUnsol) (response : RilResponse) (s : RilData) : RilData :=
  s.log (.unsolicited request response)

/-! ### Seqs -/

/-- `data->seq++; if (data->seq % 0xff == 0x00) data->seq = 0x01;` -/
def nextSeq (seq : UInt8) : UInt8 := if (seq + 1) % 0xff == 0 then 0x01 else seq + 1

/-- The seq taken for a request, or for a message of the daemon's own. -/
def ipcFmtSeq (owner : Option RilToken) (s : RilData) : UInt8 × RilData :=
  match s.fmt.data with
  | none => (0xff, s)
  | some d =>
    (nextSeq d.seq,
      (s.modifyFmt fun d => { d with seq := nextSeq d.seq }).log (.seqTaken owner (nextSeq d.seq)))

def fmtRequestFindToken (token : RilToken) (s : RilData) : Option IpcFmtRequest :=
  s.fmtRequests.find? (·.token == token)

def fmtRequestFindSeq (seq : UInt8) (s : RilData) : Option IpcFmtRequest :=
  s.fmtRequests.find? (·.seq == seq)

def fmtRequestSetSeq (token : RilToken) (seq : UInt8) (s : RilData) : RilData :=
  s.modifyFmt fun d =>
    { d with requests := d.requests.map fun r => if r.token == token then { r with seq } else r }

def ipcFmtRequestSeq (token : RilToken) (s : RilData) : UInt8 × RilData :=
  match s.fmtRequestFindToken token with
  | none => (0xff, s)
  | some r =>
    if r.seq == 0xff then
      ((s.ipcFmtSeq (some token)).1,
        (s.ipcFmtSeq (some token)).2.fmtRequestSetSeq token (s.ipcFmtSeq (some token)).1)
    else (r.seq, s)

def ipcFmtRequestToken (seq : UInt8) (s : RilData) : RilToken :=
  match s.fmtRequestFindSeq seq with
  | none => 0
  | some r => r.token

/-! ### Messages and expected answers -/

/-- A send fails when the client is gone or not available, or in `ipc_client_send`. -/
def clientAccepts (request : IpcRequest) (s : RilData) : Bool :=
  s.fmt.data.isSome && s.fmt.available && s.env.clientSend request

def ipcFmtSend (request : IpcRequest) (s : RilData) : RilData :=
  s.log (.sent request (s.clientAccepts request))

def expectRegister (expect : IpcGenPhoneResExpect) (s : RilData) : RilData :=
  s.modifyFmt fun d => { d with genPhoneResExpect := d.genPhoneResExpect ++ [expect] }

def expectFindAseq (aseq : UInt8) (s : RilData) : Option IpcGenPhoneResExpect :=
  s.fmtExpects.find? (·.aseq == aseq)

/-- The expectation released is the one that was found: the first with this aseq. -/
def expectUnregister (aseq : UInt8) (s : RilData) : RilData :=
  s.modifyFmt fun d => { d with genPhoneResExpect := d.genPhoneResExpect.eraseP (·.aseq == aseq) }

def ipcFmtFlush (s : RilData) : RilData := s.modifyFmt fun _ => {}

/-! ### Request data -/

def requestDataFind (request : RilRequestCode) (s : RilData) : Option RilRequestDataValue :=
  (s.requestsData.find? (·.1 == request)).map (·.2)

def requestDataFree (request : RilRequestCode) (s : RilData) : RilData :=
  { s with requestsData := s.requestsData.filter (·.1 != request) }

def requestDataSet (request : RilRequestCode) (value : RilRequestDataValue) (s : RilData) : RilData :=
  if value.size = 0 then s else { s with requestsData := s.requestsData ++ [(request, value)] }

def requestDataSetUniq (request : RilRequestCode) (value : RilRequestDataValue) (s : RilData) :
    RilData :=
  (s.requestDataFree request).requestDataSet request value

def requestDataSizeGet (request : RilRequestCode) (s : RilData) : ℕ :=
  match s.requestDataFind request with
  | none => 0
  | some value => value.size

/-- What `ril_request_data_get` leaves once it has handed out the first entry. -/
def requestDataDrop (request : RilRequestCode) (s : RilData) : RilData :=
  { s with requestsData := s.requestsData.eraseP (·.1 == request) }

def requestDataFlush (s : RilData) : RilData := { s with requestsData := [] }

/-! ### Radio state -/

/-- One round of the loop that answers every request when the radio goes away. A completed
request is unregistered a second time, through the record that was just released. -/
def radioUnavailableRound (s : RilData) (r : RilRequest) : RilData :=
  let s := s.requestComplete r.token .radioNotAvailable .null
  if r.token = 0 then s.requestUnregister r.token else s.log (.staleRequest r.token)

/-- Each round removes the request it finds, the first one. -/
def radioUnavailable (s : RilData) : RilData :=
  (s.requests.foldl radioUnavailableRound s).requestFlush.requestDataFlush.ipcFmtFlush

def radioOff (s : RilData) : RilData :=
  (((s.dataConnectionFlush.requestUnsolicited .callStateChanged .null).requestUnsolicited
    .voiceNetworkStateChanged .null).requestUnsolicited .dataCallListChanged .null).requestUnsolicited
    .simStatusChanged .null

def radioStateUpdate (radioState : RilRadioState) (s : RilData) : RilData :=
  if s.radioState = radioState then s
  else
    let s := ({ s with radioState := radioState }).requestUnsolicited .radioStateChanged .null
    match radioState with
    | .unavailable => s.radioUnavailable.radioOff
    | .off => s.radioOff
    | _ => { s with loopSignal := true }

def radioStateCheck (radioState : RilRadioState) (s : RilData) : Bool :=
  radioState.index ≤ s.radioState.index

end RilData

/-! ### The same operations as steps of a handler -/

def rilRequestComplete (token : RilToken) (error : RilErrno) (response : RilResponse) : RilM Unit :=
  modify (RilData.requestComplete token error response)

def rilRequestUnsolicited (request : RilUnsol) (response : RilResponse) : RilM Unit :=
  modify (RilData.requestUnsolicited request response)

def ipcFmtSeq : RilM UInt8 := fun s => s.ipcFmtSeq none

def ipcFmtRequestSeq (token : RilToken) : RilM UInt8 := fun s => s.ipcFmtRequestSeq token

def ipcFmtRequestToken (seq : UInt8) : RilM RilToken := return (← get).ipcFmtRequestToken seq

/-- Whether the message was sent. -/
def ipcFmtSend (mseq : UInt8) (command : IpcCommand) (type : IpcRequestType) (data : Bytes) :
    RilM Bool := fun s =>
  (s.clientAccepts ⟨mseq, command, type, data⟩, s.ipcFmtSend ⟨mseq, command, type, data⟩)

/-- It fails only when the data of the client is gone. -/
def ipcGenPhoneResExpect (expect : IpcGenPhoneResExpect) : RilM Bool := fun s =>
  (s.fmt.data.isSome, s.expectRegister expect)

def ipcGenPhoneResExpectCallback (aseq : UInt8) (command : IpcCommand)
    (callback : GenPhoneResCallback) : RilM Bool :=
  ipcGenPhoneResExpect ⟨aseq, command, some callback, false, false⟩

def ipcGenPhoneResExpectComplete (aseq : UInt8) (command : IpcCommand) : RilM Bool :=
  ipcGenPhoneResExpect ⟨aseq, command, none, true, false⟩

def ipcGenPhoneResExpectAbort (aseq : UInt8) (command : IpcCommand) : RilM Bool :=
  ipcGenPhoneResExpect ⟨aseq, command, none, false, true⟩

def rilRequestDataFree (request : RilRequestCode) : RilM Unit :=
  modify (RilData.requestDataFree request)

def rilRequestDataSet (request : RilRequestCode) (value : RilRequestDataValue) : RilM Unit :=
  modify (RilData.requestDataSet request value)

def rilRequestDataSetUniq (request : RilRequestCode) (value : RilRequestDataValue) : RilM Unit :=
  modify (RilData.requestDataSetUniq request value)

def rilRequestDataGet (request : RilRequestCode) : RilM (Option RilRequestDataValue) := fun s =>
  (s.requestDataFind request, s.requestDataDrop request)

def rilRadioStateUpdate (radioState : RilRadioState) : RilM Unit :=
  modify (RilData.radioStateUpdate radioState)

end Ril.Samsung

/-! The parts that the handlers of requests and of messages share. -/

namespace Ril.Samsung

open Ril.Ipc

/-- The value of a message handler: 0, or the negative one that makes the client loop fail. -/
inductive Rc
  | ok | failed
deriving DecidableEq, Repr

inductive ExpectKind
  | callback (callback : GenPhoneResCallback) | complete | abort
deriving DecidableEq, Repr

def ExpectKind.expect (aseq : UInt8) (command : IpcCommand) : ExpectKind → RilM Bool
  | callback handler => ipcGenPhoneResExpectCallback aseq command handler
  | complete => ipcGenPhoneResExpectComplete aseq command
  | abort => ipcGenPhoneResExpectAbort aseq command

/-- Where the `mseq` of a message comes from. -/
inductive Sender
  | request (token : RilToken) | reply (aseq : UInt8) | own
deriving DecidableEq, Repr

def Sender.seq : Sender → RilM UInt8
  | request token => ipcFmtRequestSeq token
  | reply aseq => return aseq
  | own => ipcFmtSeq

/-- A message, after the registration of the generic answer that is expected to it. -/
def expectSend (expect : Option ExpectKind) (mseq : UInt8) (command : IpcCommand)
    (type : IpcRequestType) (data : Bytes) : RilM Bool := do
  match expect with
  | none => ipcFmtSend mseq command type data
  | some kind =>
    if ← kind.expect mseq command then
      ipcFmtSend mseq command type data
    else
      return false

def transmit (sender : Sender) (expect : Option ExpectKind) (command : IpcCommand)
    (type : IpcRequestType) (data : Bytes) : RilM Bool := do
  expectSend expect (← sender.seq) command type data

/-- The handlers that wait for a radio state. -/
def whenRadioState (radioState : RilRadioState) (handler : RilM RilRequestStatus) :
    RilM RilRequestStatus := do
  if (← get).radioStateCheck radioState then
    handler
  else
    return .unhandled

/-- The handlers that wait for the end of other requests. -/
def whenNoneHandled (requests : List RilRequestCode) (handler : RilM RilRequestStatus) :
    RilM RilRequestStatus := do
  let s ← get
  if requests.any fun request => (s.requestFindRequestStatus request .handled).isSome then
    return .unhandled
  else
    handler

def completeRequest (token : RilToken) (error : RilErrno) (response : RilResponse) :
    RilM RilRequestStatus := do
  rilRequestComplete token error response
  return .completed

/-- The `error` label of the request handlers. -/
def failRequest (token : RilToken) : RilM RilRequestStatus :=
  completeRequest token .genericFailure .null

def sendRequest (token : RilToken) (expect : Option ExpectKind) (command : IpcCommand)
    (type : IpcRequestType) (data : Bytes) : RilM RilRequestStatus := do
  if ← transmit (.request token) expect command type data then
    return .handled
  else
    failRequest token

/-- `ril_request_complete(ipc_fmt_request_token(message->aseq), ...)` -/
def completeReply (message : IpcMessage) (error : RilErrno) (response : RilResponse) : RilM Unit := do
  rilRequestComplete (← ipcFmtRequestToken message.aseq) error response

/-- `ipc_seq_valid` for an answer to a `GET` -/
def IpcMessage.isResponse (message : IpcMessage) : Bool :=
  message.type == .resp && ipcSeqValid message.aseq

end Ril.Samsung
