import Ril.Reference.Calls

/-! The data calls of the reference RIL. -/

namespace Ril.Reference

open Ril.Libril (RequestData)

/-- The reads from a cursor, of which each may fail -/
def tokensAt {α : Type} (t : Tok α) (cur : Option Bytes) : RefM α := orError ((t cur).map Prod.fst)

def pppTtyPath : Bytes := ascii "eth0"

variable (env : RequestEnv)

/-! ### The list -/

/-- The list is the answer to a request, or it is reported. -/
def answerDataCallList (toRequest : Bool) (response : Option (List RefDataCall)) : RefM Unit :=
  match response with
  | some responses =>
    if toRequest then onRequestComplete .success (.dataCalls responses)
    else onUnsolicitedResponse .dataCallListChanged (.dataCalls responses)
  | none =>
    if toRequest then onRequestComplete .genericFailure .null
    else onUnsolicitedResponse .dataCallListChanged .null

/-- The loop over the lines of `AT+CGACT?`: the identifier and the state of each context -/
def readContexts : List Bytes → ℕ → List RefDataCall → RefM (List RefDataCall)
  | [], _, responses => return responses
  | line :: lines, i, responses => do
    let (cid, active) ← tokens (do
      atTokStart
      let cid ← atTokNextint env.longBits
      let active ← atTokNextint env.longBits
      return (cid, active)) line
    let responses ← modifyAt responses i fun r => { r with cid := cid, active := active }
    readContexts lines (i + 1) responses

/-- In the emulator the servers are listed by properties; a list that is too long is cut off. -/
def dnsList : Bytes :=
  let names := ["net.eth0.dns1", "net.eth0.dns2", "net.eth0.dns3", "net.eth0.dns4"].map ascii
  let servers := (names.map env.property).filter fun server => !server.isEmpty
  ((servers.intersperse (ascii " ")).flatten).take 127

def inEmulator : Bool := !(env.property (ascii "ro.kernel.qemu")).isEmpty

def withDetails (type addresses : Bytes) (response : RefDataCall) : RefDataCall :=
  { response with
    status := 0
    type := type
    ifname := pppTtyPath
    addresses := addresses
    dnses := if inEmulator env then dnsList env else ascii "8.8.8.8 8.8.4.4"
    gateways := if inEmulator env then ascii "10.0.2.2" else [] }

/-- The loop over the lines of `AT+CGDCONT?`. A context that was not heard of in the first answer is left out. -/
def readDetails : List Bytes → List RefDataCall → RefM (List RefDataCall)
  | [], responses => return responses
  | line :: lines, responses => do
    let (cid, cur) ← tokens (do
      atTokStart
      let cid ← atTokNextint env.longBits
      return (cid, ← get)) line
    match responses.findIdx? (·.cid = cid) with
    | none => readDetails lines responses
    | some i =>
      let (type, addresses) ← tokensAt (do
        let type ← atTokNextstr
        let _apn ← atTokNextstr
        let addresses ← atTokNextstr
        return (type, addresses)) cur
      let type ← deref type
      let addresses ← deref addresses
      let responses ← modifyAt responses i (withDetails env type addresses)
      readDetails lines responses

def requestOrSendDataCallList (toRequest : Bool) : RefM Unit :=
  onError (do
    let contexts ← orError (succeeded (← atSendCommandMultiline env.toRefEnv (ascii "AT+CGACT?") (ascii "+CGACT:")))
    let n := contexts.intermediates.length
    let responses ← readContexts env contexts.intermediates 0 (List.replicate n {})
    let details ← orError
      (succeeded (← atSendCommandMultiline env.toRefEnv (ascii "AT+CGDCONT?") (ascii "+CGDCONT:")))
    let responses ← readDetails env details.intermediates responses
    answerDataCallList toRequest (some responses))
    (answerDataCallList toRequest none)

def onDataCallListChanged : RefM Unit := requestOrSendDataCallList env false

def requestDataCallList : RefM Unit := requestOrSendDataCallList env true

/-! ### The set-up -/

/-- Whether so many bytes can be written, from the write of a number on -/
def qmiWritten (qmi : Qmi) (k left : ℕ) : Bool :=
  match left with
  | 0 => true
  | left + 1 =>
    match qmi.write k with
    | none => false
    | some written => qmiWritten qmi (k + 1) (left + 1 - written)
termination_by left
decreasing_by exact Nat.sub_lt left.succ_pos written.2

/-- The wait for the interface, of at most `retry` reads -/
def qmiOnline (qmi : Qmi) (k : ℕ) : ℕ → Bool
  | 0 => false
  | retry + 1 =>
    match qmi.read k with
    | none => false
    | some status =>
      let status := (status.take 31).takeWhile (· ≠ 0)
      if strStartsWith status (ascii "STATE=up") ∨ status = ascii "online" then true
      else qmiOnline qmi (k + 1) retry

def setupByQmi (qmi : Qmi) (apn : Option Bytes) : RefM Unit := do
  let cmd := ascii "up:" ++ printedString apn
  if !qmiWritten qmi 0 cmd.length || !qmiOnline qmi 0 10 || qmi.netcfg < 0 then throw .error

/-- The seventh string, if there is one -/
def pdpType (data : RequestData) : RefM Bytes :=
  if 6 < (charPointers data).length then printedString <$> stringAt data 6 else pure (ascii "IP")

def setupByCommands (data : RequestData) (apn : Option Bytes) : RefM Unit := do
  let pdpType ← pdpType data
  let context := ascii "AT+CGDCONT=1,\"" ++ pdpType ++ ascii "\",\"" ++ printedString apn ++ ascii "\",,0,0"
  sendAll env.toRefEnv (context :: ["AT+CGQREQ=1", "AT+CGQMIN=1", "AT+CGEREP=1,0", "AT+CGACT=1,0"].map ascii)
  let _ ← orError (succeeded (← atSendCommand env.toRefEnv (ascii "ATD*99***1#")))

def requestSetupDataCall (data : RequestData) : RefM Unit :=
  onError (do
    let apn ← stringAt data 2
    match env.qmi with
    | some qmi => setupByQmi qmi apn
    | none => setupByCommands env data apn
    requestOrSendDataCallList env true)
    (onRequestComplete .genericFailure .null)

end Ril.Reference
