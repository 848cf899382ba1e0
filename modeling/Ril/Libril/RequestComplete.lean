import Mathlib.Logic.Function.Basic
import Ril.Libril.Dispatch
import Ril.Libril.Marshallers

/-! The requests that libril keeps until they are completed, and what has been done with each. -/

namespace Ril.Libril

open Ril.Ipc Ril.Samsung

/-- A command that is read from a socket, with what its dispatching finds: the request code and the variables if their
reads fail, and the radio state if the RIL is asked for it. -/
structure Command where
  socketId : RilSocketId
  buffer : Bytes
  request : Int32
  t : Int32
  ut : UInt8
  radioState : RilRadioState

/-- The `RequestInfo`s are numbered as they are allocated. What is done with them is what libril calls: `onRequest`, and
`RIL_onRequestComplete` from its own dispatch functions. -/
structure Requests where
  pending : RilSocketId → List (ℕ × RequestInfo)
  allocated : ℕ
  effects : List (ℕ × Effect)

def requestsStart : Requests := ⟨fun _ => [], 0, []⟩

namespace Requests

def effectsOf (d : Requests) (request : ℕ) : List Effect := (d.effects.filter (·.1 = request)).map (·.2)

/-- A request is pending on its own socket, if it still is. -/
def checkAndDequeueRequestInfo (d : Requests) (request : ℕ) : Requests :=
  { d with pending := fun s => (d.pending s).filter (·.1 ≠ request) }

def put (d : Requests) (r : RequestInfo) : Requests :=
  { d with
    pending := Function.update d.pending r.socketId ((d.allocated, r) :: d.pending r.socketId),
    allocated := d.allocated + 1 }

def apply (request : ℕ) (d : Requests) (e : Effect) : Requests :=
  match e with
  | .onRequest _ _ => { d with effects := d.effects ++ [(request, e)] }
  | .undefined => { d with effects := d.effects ++ [(request, e)] }
  | .onRequestComplete _ _ => { d.checkAndDequeueRequestInfo request with effects := d.effects ++ [(request, e)] }

end Requests

variable (env : RilEnv) (L : ParcelLib)

/-- The call through `pCI`: an entry outside of the table is not defined. -/
def dispatchEntry (c : Command) (r : RequestInfo) (p : L.Parcel) : List Effect :=
  match sCommands[r.pCI]? with
  | none => [.undefined]
  | some entry =>
    match entry.dispatchFunction with
    | none => [.undefined]
    | some f => dispatch env entry.requestNumber f c.radioState ⟨p, true, c.t, c.ut⟩

def processCommandBuffer (d : Requests) (c : Command) : Requests :=
  match newRequestInfo L c.request c.buffer c.socketId with
  | none => d
  | some (r, p) => (dispatchEntry env L c r p).foldl (Requests.apply d.allocated) (d.put r)

def issueLocalRequest (d : Requests) (request : ℕ) (data : RequestData) (socketId : RilSocketId) : Requests :=
  let pCI := if request > 10000 then request - 10000 + maxRilSol.toNat else request
  (d.put ⟨-1, pCI, false, true, socketId⟩).apply d.allocated (.onRequest request data)

/-- The commands and the local requests of libril, and the completions by the RIL, which it may call at any time with
any request that it was given. -/
inductive RequestsAction
  | command (c : Command)
  | issueLocal (request : ℕ) (data : RequestData) (socketId : RilSocketId)
  | rilComplete (request : ℕ)

def requestsStep (d : Requests) : RequestsAction → Requests
  | .command c => processCommandBuffer env L d c
  | .issueLocal request data socketId => issueLocalRequest d request data socketId
  | .rilComplete request => d.checkAndDequeueRequestInfo request

def requestsRun (as : List RequestsAction) : Requests := as.foldl (requestsStep env L) requestsStart

end Ril.Libril

/-! `RIL_onRequestComplete`: the response to a request is marshalled and written to the command socket. -/

namespace Ril.Libril

open Lib Ril.Ipc

def maxCommandBytes : ℕ := 8 * 1024

def responseSolicited : Int32 := 0

/-- An open socket: what was written to it, and how many bytes behind the first one it takes of the next writes. Later
on it takes all. -/
structure CommandSocket where
  written : Bytes
  accepts : List ℕ
deriving DecidableEq, Repr

def CommandSocket.write (socket : CommandSocket) (data : Bytes) : ℕ × CommandSocket :=
  let count := min data.length (socket.accepts.headD data.length + 1)
  (count, ⟨socket.written ++ data.take count, socket.accepts.tail⟩)

/-- `while (writeOffset < len)`, for so many rounds at most -/
def blockingWrite : ℕ → Bytes → CommandSocket → CommandSocket
  | 0, _, socket => socket
  | rounds + 1, data, socket =>
    if data.length = 0 then socket
    else
      let written := socket.write data
      blockingWrite rounds (data.drop written.1) written.2

/-- The length in the byte order of the network -/
def frameHeader (dataSize : ℕ) : Bytes := (numberBytes 4 dataSize).reverse

def frameOf (data : Bytes) : Bytes := frameHeader data.length ++ data

/-- Nothing is written to a socket that is closed, and nothing that is too long. -/
def sendResponseRaw (data : Bytes) (socket : Option CommandSocket) : Option CommandSocket :=
  socket.map fun socket =>
    if data.length > maxCommandBytes then socket
    else blockingWrite data.length data (blockingWrite 4 (frameHeader data.length) socket)

/-- The requests and the command sockets that are open -/
structure RildOutput where
  requests : Requests
  sockets : RilSocketId → Option CommandSocket

namespace RildOutput

/-- The request that a token stands for -/
def find (d : RildOutput) (request : ℕ) : Option RequestInfo :=
  (([.socket1, .socket2, .socket3, .socket4].flatMap d.requests.pending).find? (·.1 = request)).map (·.2)

def checkAndDequeue (d : RildOutput) (request : ℕ) : RildOutput :=
  { d with requests := d.requests.checkAndDequeueRequestInfo request }

end RildOutput

/-- The function that the request's entry of the table has -/
def RequestInfo.marshaller (info : RequestInfo) : Option ResponseFunction :=
  (sCommands[info.pCI]?).bind CommandInfo.responseFunction

/-- The parcel of a response. After an error the cursor is set back to the error code. Without a function in the table
the call is not defined. -/
def responseParcel (env : MarshalEnv) (info : RequestInfo) (e : Int32) (response responselen : ℕ) :
    Option (CursorBuffer UInt8) :=
  let p := writeAll .empty [.int32 responseSolicited, .int32 info.token]
  let errorOffset := p.position
  let p := writeAll p [.int32 e]
  if response = 0 then some p
  else
    info.marshaller.map fun responseFunction =>
      let marshalled := responseFunction.marshal env response responselen
      let p := writeAll p marshalled.writes
      if marshalled.ret ≠ 0 then writeAll (p.setPosition errorOffset) [.int32 marshalled.ret] else p

def rilOnRequestComplete (env : MarshalEnv) (request : ℕ) (e : Int32) (response responselen : ℕ) (d : RildOutput) :
    Option RildOutput :=
  match d.find request with
  | none => some d
  | some info =>
    let d := d.checkAndDequeue request
    if info.isLocal then some d
    else if info.cancelled then some d
    else
      (responseParcel env info e response responselen).map fun p =>
        { d with
          sockets := Function.update d.sockets info.socketId (sendResponseRaw p.data (d.sockets info.socketId)) }

end Ril.Libril
