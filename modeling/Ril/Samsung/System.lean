import Ril.Lib.Transition
import Ril.Samsung.Dispatch

/-! The threads of the daemon. `RIL_LOCK` makes every action below one step; the request loop
keeps it over all the requests it dispatches. -/

namespace Ril.Samsung

open Ril.Ipc Ril.Lib

inductive LoopState
  /-- in `RIL_REQUEST_LOOP_LOCK` -/
  | parked
  /-- before `RIL_LOCK` -/
  | woken
  /-- with `RIL_LOCK` -/
  | dispatching
deriving DecidableEq, Repr

/-- The thread of the `ipc_fmt` client. -/
inductive ClientThread
  | looping
  /-- a message handler has failed, the loop is left with an error -/
  | broken
  /-- before the next attempt to open the client -/
  | failed
  | stopping
  | stopped
deriving DecidableEq, Repr

structure Daemon where
  data : RilData := {}
  loop : LoopState := .parked
  /-- the calls of `ril_on_request` that have left `RIL_LOCK` and not yet signalled the loop -/
  owed : ℕ := 0
  thread : ClientThread := .looping

inductive Action
  | request (request : RilRequestCode) (data : RilValue) (token : RilToken)
  | requestSignal
  | cancel (token : RilToken)
  | loopWake
  | loopStart
  | loopDispatch (env : Env)
  | loopEnd
  | message (env : Env) (message : IpcMessage)
  | clientError
  | clientReopen (closed opened : Bool)
  | clientStop
  | srs (env : Env) (message : SrsMessage)

def rilOnRequest (request : RilRequestCode) (data : RilValue) (token : RilToken) (s : RilData) : RilData :=
  ((s.requestUnregister token).requestRegister request data token).log (.arrived token request data)

def rilOnCancel (token : RilToken) (s : RilData) : RilData :=
  match s.requestFindToken token with
  | none => s
  | some _ => (s.requestUnregister token).log (.cancelled token)

/-- The first loop of an iteration. -/
def RilData.retryUnhandled (s : RilData) : RilData :=
  { s with requests := s.requests.map fun r =>
      if r.status = .unhandled then { r with status := .pending } else r }

def dispatchRequest (env : Env) (r : RilRequest) (s : RilData) : RilData :=
  let result := rilRequestDispatch r ({ s with env := env }.log (.dispatched r.token))
  if result.1 = .failed then result.2.requestUnregister r.token else result.2

def dispatchMessage (env : Env) (message : IpcMessage) (s : RilData) : Rc × RilData :=
  ipcFmtDispatch message ({ s with env := env }.log (.received message))

def rilClientRetryCount : ℕ := 5

/-- `client->failures++`, and the test of the loop of `ril_client_thread`. -/
def Daemon.clientFailure (d : Daemon) (data : RilData) : Daemon :=
  { d with
    data := { data with fmt := { data.fmt with failures := data.fmt.failures + 1 } }
    thread := if data.fmt.failures + 1 < rilClientRetryCount then .failed else .stopping }

def clientClose (s : RilData) : RilData := { s with fmt := { s.fmt with available := false } }

def clientOpen (s : RilData) : RilData :=
  let s := if s.fmt.failures = 1 then s.radioStateUpdate .off else s
  { s with fmt := { s.fmt with available := true } }

def clientDestroy (s : RilData) : RilData :=
  { s with fmt := { s.fmt with available := false, data := none } }

/-- The steps outside of the request loop need `RIL_LOCK`. -/
def Daemon.locked (d : Daemon) : Bool := d.loop == .dispatching

def step (d : Daemon) : Action → Option Daemon
  | .request request data token =>
    if d.locked then none
    else some { d with data := rilOnRequest request data token d.data, owed := d.owed + 1 }
  | .requestSignal =>
    if d.owed = 0 then none
    else some { d with data := { d.data with loopSignal := true }, owed := d.owed - 1 }
  | .cancel token =>
    if d.locked then none else some { d with data := rilOnCancel token d.data }
  | .loopWake =>
    if d.loop = .parked ∧ d.data.loopSignal = true then
      some { d with data := { d.data with loopSignal := false }, loop := .woken }
    else none
  | .loopStart =>
    if d.loop = .woken then
      if d.data.radioStateCheck .off then
        some { d with data := d.data.retryUnhandled, loop := .dispatching }
      else some { d with loop := .parked }
    else none
  | .loopDispatch env =>
    match d.loop, d.data.requestFindStatus .pending with
    | .dispatching, some r => some { d with data := dispatchRequest env r d.data }
    | _, _ => none
  | .loopEnd =>
    match d.loop, d.data.requestFindStatus .pending with
    | .dispatching, none => some { d with loop := .parked }
    | _, _ => none
  | .message env message =>
    if d.locked || d.thread != .looping then none
    else
      match dispatchMessage env message d.data with
      | (.failed, data) => some { d with data := data, thread := .broken }
      | (.ok, data) => some { d with data := { data with fmt := { data.fmt with failures := 0 } } }
  | .clientError =>
    if d.locked then none
    else if d.thread = .looping ∨ d.thread = .broken then
      some (d.clientFailure (d.data.radioStateUpdate .unavailable))
    else none
  | .clientReopen closed opened =>
    if d.locked || d.thread != .failed then none
    else if closed && opened then
      some { d with data := clientOpen (clientClose d.data), thread := .looping }
    else some (d.clientFailure (clientClose d.data))
  | .clientStop =>
    if d.locked || d.thread != .stopping then none
    else some { d with data := clientDestroy d.data, thread := .stopped }
  | .srs env message =>
    if d.locked then none
    else some { d with data := (srsDispatch message { d.data with env := env }).2 }

/-- The token has not been handed in before and is not `NULL`. -/
def fresh (d : Daemon) : Action → Prop
  | .request _ _ token =>
    token ≠ 0 ∧ ∀ request data, Event.arrived token request data ∉ d.data.trace
  | _ => True

/-- The states reached when the framework hands in fresh tokens. -/
abbrev Reachable : Daemon → Prop := Reaches step fresh {}

end Ril.Samsung

/-! What the modem notifies of the network, and the requests that are answered from it, next to a run of the daemon. -/

namespace Ril.Samsung

open Ril.Ipc Ril.Lib

/-- The requests whose answers are kept until they are asked for -/
def cachedRequests : List RilRequestCode := [.voiceRegistrationState, .dataRegistrationState, .operator]

/-- The strings that a notification stands for; there are none where it cannot be translated. -/
abbrev Note := Option (List (Option CString))

/-- The request that a notification concerns, with what it says -/
def noteOf (env : Env) (message : IpcMessage) (s : RilData) : Option (RilRequestCode × Note) :=
  if IpcMessage.isResponse message then none
  else
    match message.command with
    | .netServingNetwork => (ipcNetServingNetworkPlmn message.data).map fun plmn =>
        (.operator, (ipc2rilNetOperator env.plmnList plmn).map Operator.strings)
    | .netRegist => (IpcNetRegistResponseData.read message.data).bind fun data =>
        (registrationDomain data.domain).map fun domain => (domain.1, s.fmt.data.bind fun fmt =>
          registrationStrings { s with env := env } fmt.hsdpaStatus data domain.2)
    | _ => none

def Action.note : Action → RilData → Option (RilRequestCode × Note)
  | message env m, s => noteOf env m s
  | _, _ => none

/-- The most recent notification that concerns each request -/
abbrev Latest := RilRequestCode → Option Note

def Latest.add (latest : Latest) (note : Option (RilRequestCode × Note)) : Latest := fun request =>
  note.elim (latest request) fun n => if n.1 = request then some n.2 else latest request

/-- A step of the daemon, with the notification it receives -/
def notedStep (x : Daemon × Latest) (a : Action) : Option (Daemon × Latest) :=
  (step x.1 a).map fun d => (d, x.2.add (a.note x.1.data))

/-- A request is answered, in the step that dispatches it, with strings that were kept. -/
def AnsweredFromCache (env : Env) (r : RilRequest) (values : List (Option CString)) (d : Daemon) : Prop :=
  d.loop = .dispatching ∧ d.data.requestFindStatus .pending = some r ∧ r.request ∈ cachedRequests ∧
    ∃ new, (dispatchRequest env r d.data).trace = new ++ d.data.trace ∧
      Event.completed r.token .success (.strings values) ∈ new

/-- Whatever is answered from what was kept is the most recent notification of its kind. -/
def AnswersFresh (x : Daemon × Latest) : Prop :=
  ∀ env r values, AnsweredFromCache env r values x.1 → x.2 r.request = some (some values)

/-- What is kept for the next request of its kind says the same as the notification. -/
def NoteFits (x : Daemon × Latest) (a : Action) : Prop :=
  ∀ request note value, a.note x.1.data = some (request, note) → x.1.data.requestDataFind request = some value →
    note.map .strings = some value

end Ril.Samsung
