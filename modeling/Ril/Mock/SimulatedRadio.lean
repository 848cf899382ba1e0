import Mathlib.Data.Int.Notation
import Ril.Lib.Slots
import Ril.Lib.Transition

/-! The calls of the simulated radio: the sparse table, the requests and control commands that change it, and the
commands that these queue in the worker. -/

namespace Ril.Mock

open Lib

inductive CallState
  | active | holding | dialing | alerting | incoming | waiting
deriving DecidableEq, Repr

/-- The states in which no other call can come in -/
def CallState.isSettingUp : CallState → Bool
  | dialing | alerting | incoming | waiting => true
  | active | holding => false

structure RilCall where
  state : CallState
  index : ℕ := 0
  number : String
  name : String
deriving DecidableEq, Repr

inductive RadioErrCode
  | success | radioNotAvailable | genericFailure | requestNotSupported
  | ctrlStatusOk | ctrlStatusErr
deriving DecidableEq, Repr

def RadioErrCode.isError : RadioErrCode → Bool
  | success | ctrlStatusOk => false
  | radioNotAvailable | genericFailure | requestNotSupported | ctrlStatusErr => true

/-- `CMD_UNSOL_CALL_STATE_CHANGED`, `CMD_CALL_STATE_CHANGE` and `CMD_UNSOL_CALL_RING` -/
inductive RadioCommand
  | unsolCallStateChanged
  | callStateChange (callIndex : ℕ) (nextState : CallState)
  | unsolCallRing
deriving DecidableEq, Repr

/-- The requests for the calls with their arguments, the control commands, the commands of the worker, and the requests
that leave the calls alone, with their answer -/
inductive RadioRequest
  | dial (address : String)
  | hangUp (connectionIndex : ℤ)
  | hangupWaitingOrBackground
  | hangUpForegroundResumeBackground
  | switchWaitingOrHoldingAndActive
  | conference
  | answer
  | separateConnection (index : ℤ)
  | startInComingCall (phoneNumber : String)
  | hangupConnRemote (connectionId callFailCause : ℤ)
  | setCallTransitionFlag (flag : Bool)
  | setCallAlert
  | setCallActive
  | addDialingCall (phoneNumber : String)
  | command (c : RadioCommand)
  | other (reqNum : ℕ) (rilErrCode : RadioErrCode)
deriving DecidableEq, Repr

def RadioRequest.reqNum : RadioRequest → ℕ
  | dial _ => 10
  | hangUp _ => 12
  | hangupWaitingOrBackground => 13
  | hangUpForegroundResumeBackground => 14
  | switchWaitingOrHoldingAndActive => 15
  | conference => 16
  | answer => 40
  | separateConnection _ => 52
  | startInComingCall _ => 1001
  | hangupConnRemote _ _ => 1002
  | setCallTransitionFlag _ => 1003
  | setCallAlert => 1004
  | setCallActive => 1005
  | addDialingCall _ => 1006
  | command .unsolCallStateChanged => 2002
  | command (.callStateChange _ _) => 2003
  | command .unsolCallRing => 2004
  | other reqNum _ => reqNum

def maxNumberActiveCalls : ℕ := 7

def maxConnectionsPerCall : ℕ := 5

/-- An element of `calls` that is not defined is `none`. `queue` has the commands that the worker has not processed yet,
also those that are delayed. -/
structure Radio where
  calls : List (Option RilCall) := List.replicate (maxNumberActiveCalls + 1) none
  numberActiveCalls : ℕ := 0
  incomingCallIsProcessed : Bool := false
  callTransitionFlag : Bool := false
  lastCallFailCause : ℤ := 0
  lastReq : ℕ := 0
  queue : List RadioCommand := []
deriving DecidableEq, Repr

/-- The result of a handler, with what it has given to the worker -/
structure RadioResult where
  radio : Radio
  rilErrCode : RadioErrCode := .success
  queued : List RadioCommand := []
deriving DecidableEq, Repr

namespace Radio

def call (r : Radio) (i : ℕ) : Option RilCall := r.calls[i]?.join

def getCall (index : ℤ) (r : Radio) : Option RilCall := if 0 ≤ index then r.call index.toNat else none

/-- The calls that `rilRequestGetCurrentCalls` packs -/
def currentCalls (r : Radio) : List RilCall := r.calls.reduceOption

/-- `calls[i] = c`, where the array grows if it is shorter -/
def setCall (i : ℕ) (c : RilCall) (r : Radio) : Radio :=
  { r with calls :=
      if i < r.calls.length then r.calls.set i (some c)
      else r.calls ++ List.replicate (i - r.calls.length) none ++ [some c] }

def setState (i : ℕ) (c : RilCall) (state : CallState) (r : Radio) : Radio :=
  { r with calls := r.calls.set i (some { c with state := state }) }

def countCallsInState (state : CallState) (r : Radio) : ℕ := (r.currentCalls.filter (·.state = state)).length

def getCallIdByState (state : CallState) (r : Radio) : Option ℕ :=
  r.calls.findIdx? fun c => c.any (·.state = state)

/-- The new call, `none` if there are too many -/
def addCall (state : CallState) (phoneNumber callerName : String) (r : Radio) : Option RilCall × Radio :=
  if r.numberActiveCalls < maxNumberActiveCalls then
    let c : RilCall := { state := state, number := phoneNumber, name := callerName }
    let r := { r with numberActiveCalls := r.numberActiveCalls + 1 }
    match (List.range' 1 maxNumberActiveCalls).find? fun i => (r.call i).isNone with
    | some i => (some { c with index := i }, r.setCall i { c with index := i })
    | none => (some c, r)
  else (none, r)

/-- The table is replaced when its last call goes. -/
def removeCall (index : ℤ) (r : Radio) : Option RilCall × Radio :=
  match (if 0 < r.numberActiveCalls then r.getCall index else none) with
  | none => (none, r)
  | some c =>
    let r := { r with calls := r.calls.set index.toNat none, numberActiveCalls := r.numberActiveCalls - 1 }
    (some c, if r.numberActiveCalls = 0 then { r with calls := [] } else r)

/-- The loop over the calls from `i` on, in so many rounds at most. Where `visit` gives nothing the request fails. -/
def walkCalls (visit : ℕ → RilCall → Radio → Option Radio) : ℕ → ℕ → Radio → Radio × Bool
  | 0, _, r => (r, true)
  | rounds + 1, i, r =>
    if i < r.calls.length then
      match r.call i with
      | none => walkCalls visit rounds (i + 1) r
      | some c =>
        match visit i c r with
        | none => (r, false)
        | some r => walkCalls visit rounds (i + 1) r
    else (r, true)

/-- A request that walks over the calls. Where there is none it fails, but is reported all the same. -/
def walkRequest (visit : ℕ → RilCall → Radio → Option Radio) (r : Radio) : RadioResult :=
  if r.numberActiveCalls = 0 then
    { radio := r, rilErrCode := .genericFailure, queued := [.unsolCallStateChanged] }
  else
    match walkCalls visit r.calls.length 0 r with
    | (r, true) => { radio := r, queued := [.unsolCallStateChanged] }
    | (r, false) => { radio := r, rilErrCode := .genericFailure }

/-! ### The handlers -/

def rilRequestDial (address : String) (r : Radio) : RadioResult :=
  match r.addCall .dialing address "" with
  | (none, r) => { radio := r, rilErrCode := .genericFailure }
  | (some newCall, r) =>
    { radio := r
      queued := .callStateChange newCall.index .dialing ::
        if r.callTransitionFlag then []
        else [.callStateChange newCall.index .alerting, .callStateChange newCall.index .active] }

def rilRequestHangUp (connectionIndex : ℤ) (r : Radio) : RadioResult :=
  match r.removeCall connectionIndex with
  | (none, r) => { radio := r, rilErrCode := .genericFailure }
  | (some _, r) => { radio := r }

def rilRequestHangupWaitingOrBackground (r : Radio) : RadioResult :=
  walkRequest (fun i c r =>
    match c.state with
    | .holding | .waiting | .incoming => some { (r.removeCall i).2 with incomingCallIsProcessed := true }
    | _ => none) r

def rilRequestHangUpForegroundResumeBackground (r : Radio) : RadioResult :=
  walkRequest (fun i c r =>
    match c.state with
    | .active => some (r.removeCall i).2
    | .holding | .waiting => some (r.setState i c .active)
    | _ => none) r

def rilRequestSwitchWaitingOrHoldingAndActive (r : Radio) : RadioResult :=
  if r.lastReq = RadioRequest.switchWaitingOrHoldingAndActive.reqNum then { radio := r }
  else
    walkRequest (fun i c r =>
      match c.state with
      | .active => some (r.setState i c .holding)
      | .holding | .waiting => some (r.setState i c .active)
      | _ => none) r

def rilRequestConference (r : Radio) : RadioResult :=
  if r.numberActiveCalls = 0 ∨ maxConnectionsPerCall < r.numberActiveCalls then
    { radio := r, rilErrCode := .genericFailure }
  else if ∃ c ∈ r.currentCalls, c.state ≠ .active ∧ c.state ≠ .holding then
    { radio := r, rilErrCode := .genericFailure }
  else
    walkRequest (fun i c r =>
      match c.state with
      | .active => some r
      | .holding => some (r.setState i c .active)
      | _ => none) r

/-- The first call decides: with one active call there is no other. -/
def rilRequestAnswer (r : Radio) : RadioResult :=
  if r.numberActiveCalls ≠ 1 then { radio := r, rilErrCode := .genericFailure }
  else
    match r.calls.findIdx? Option.isSome with
    | none => { radio := { r with incomingCallIsProcessed := true } }
    | some i =>
      match r.call i with
      | none => { radio := { r with incomingCallIsProcessed := true } }
      | some c =>
        if c.state = .incoming then { radio := { r.setState i c .active with incomingCallIsProcessed := true } }
        else { radio := (r.removeCall i).2, rilErrCode := .genericFailure }

def rilReqestSeparateConnection (index : ℤ) (r : Radio) : RadioResult :=
  if r.numberActiveCalls = 0 then { radio := r, rilErrCode := .genericFailure }
  else
    match r.getCall index with
    | none => { radio := r, rilErrCode := .genericFailure }
    | some separateConn =>
      if separateConn.state ≠ .active then { radio := r, rilErrCode := .genericFailure }
      else
        walkRequest (fun i c r =>
          if index ≠ i then
            match c.state with
            | .active => some (r.setState i c .holding)
            | _ => none
          else some r) r

def ctrlServerCmdStartInComingCall (phoneNumber : String) (r : Radio) : RadioResult :=
  if r.numberActiveCalls ≠ 0 ∧ r.currentCalls.any (·.state.isSettingUp) then
    { radio := r, rilErrCode := .ctrlStatusErr }
  else
    let r := (r.addCall (if r.numberActiveCalls = 0 then .incoming else .waiting) phoneNumber "").2
    { radio := { r with incomingCallIsProcessed := false }, rilErrCode := .ctrlStatusOk, queued := [.unsolCallRing] }

def ctrlServerCmdHangupConnRemote (connection failureCause : ℤ) (r : Radio) : RadioResult :=
  match r.removeCall connection with
  | (none, r) => { radio := r, rilErrCode := .ctrlStatusErr }
  | (some hangupCall, r) =>
    let processed := hangupCall.state = .incoming || hangupCall.state = .waiting || r.incomingCallIsProcessed
    { radio := { r with incomingCallIsProcessed := processed, lastCallFailCause := failureCause }
      rilErrCode := .ctrlStatusOk
      queued := [.unsolCallStateChanged] }

/-- `ctrlServerCmdSetCallAlert` and `ctrlServerCmdSetCallActive`: the only call in one state comes to the next. -/
def moveOnlyCall (state nextState : CallState) (r : Radio) : RadioResult :=
  let failed : RadioResult := { radio := r, rilErrCode := .ctrlStatusErr }
  if r.callTransitionFlag = false then failed
  else if r.numberActiveCalls = 0 then failed
  else
    match (if r.countCallsInState state = 1 then r.getCallIdByState state else none) with
    | none => failed
    | some i =>
      match r.call i with
      | none => failed
      | some c =>
        { radio := r.setState i c nextState, rilErrCode := .ctrlStatusOk, queued := [.unsolCallStateChanged] }

def ctrlServerCmdSetCallAlert (r : Radio) : RadioResult := r.moveOnlyCall .dialing .alerting

def ctrlServerCmdSetCallActive (r : Radio) : RadioResult := r.moveOnlyCall .alerting .active

def ctrlServerCmdAddDialingCall (phoneNumber : String) (r : Radio) : RadioResult :=
  if r.countCallsInState .dialing = 0 then
    { radio := (r.addCall .dialing phoneNumber "").2, rilErrCode := .ctrlStatusOk }
  else { radio := r, rilErrCode := .ctrlStatusErr }

def cmdCallStateChange (callIndex : ℕ) (nextState : CallState) (r : Radio) : RadioResult :=
  match r.getCall callIndex with
  | some curCall => { radio := r.setState callIndex curCall nextState, queued := [.unsolCallStateChanged] }
  | none => { radio := (r.removeCall callIndex).2, queued := [.unsolCallStateChanged] }

def cmdUnsolCallRing (r : Radio) : RadioResult :=
  if r.incomingCallIsProcessed then { radio := r } else { radio := r, queued := [.unsolCallRing] }

/-- `radioDispatchTable` -/
def handle (r : Radio) : RadioRequest → RadioResult
  | .dial address => r.rilRequestDial address
  | .hangUp connectionIndex => r.rilRequestHangUp connectionIndex
  | .hangupWaitingOrBackground => r.rilRequestHangupWaitingOrBackground
  | .hangUpForegroundResumeBackground => r.rilRequestHangUpForegroundResumeBackground
  | .switchWaitingOrHoldingAndActive => r.rilRequestSwitchWaitingOrHoldingAndActive
  | .conference => r.rilRequestConference
  | .answer => r.rilRequestAnswer
  | .separateConnection index => r.rilReqestSeparateConnection index
  | .startInComingCall phoneNumber => r.ctrlServerCmdStartInComingCall phoneNumber
  | .hangupConnRemote connection failureCause => r.ctrlServerCmdHangupConnRemote connection failureCause
  | .setCallTransitionFlag flag => { radio := { r with callTransitionFlag := flag }, rilErrCode := .ctrlStatusOk }
  | .setCallAlert => r.ctrlServerCmdSetCallAlert
  | .setCallActive => r.ctrlServerCmdSetCallActive
  | .addDialingCall phoneNumber => r.ctrlServerCmdAddDialingCall phoneNumber
  | .command .unsolCallStateChanged => { radio := r }
  | .command (.callStateChange callIndex nextState) => r.cmdCallStateChange callIndex nextState
  | .command .unsolCallRing => r.cmdUnsolCallRing
  | .other _ rilErrCode => { radio := r, rilErrCode := rilErrCode }

/-- A command that is processed was queued. -/
def dequeue (r : Radio) : RadioRequest → Option Radio
  | .command c => if c ∈ r.queue then some { r with queue := r.queue.erase c } else none
  | _ => some r

end Radio

/-- `process`, with the worker that calls it -/
def radioStep (r : Radio) (q : RadioRequest) : Option Radio :=
  (r.dequeue q).map fun r =>
    let result := r.handle q
    { result.radio with
      lastReq := if q.reqNum < 200 then q.reqNum else result.radio.lastReq
      queue := result.radio.queue ++ result.queued }

end Ril.Mock
