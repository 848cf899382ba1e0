import Ril.Reference.RefRil

/-! The requests of the reference RIL about calls. -/

namespace Ril.Reference

open Ril.Samsung (RilCallState)
open Ril.Libril (RequestData)

variable (env : RefEnv)

/-- `xs[i] = f(xs[i])` -/
def modifyAt {α : Type} (xs : List α) (i : ℕ) (f : α → α) : RefM (List α) := do
  let x ← deref xs[i]?
  return xs.set i (f x)

/-! ### The list of the calls -/

def clccStateToRILState (state : Int32) : Option RilCallState :=
  if state = 0 then some .active
  else if state = 1 then some .holding
  else if state = 2 then some .dialing
  else if state = 3 then some .alerting
  else if state = 4 then some .incoming
  else if state = 5 then some .waiting
  else none

/-- The cursor, and the call that is filled. It keeps what was stored when a line turns out to be invalid. -/
structure ClccLine where
  line : Option Bytes
  call : RefCall

abbrev ClccM := OptionT (StateM ClccLine)

def clccItem {α : Type} (t : Tok α) : ClccM α := fun s =>
  match t s.line with
  | some (v, line) => (some v, { s with line := line })
  | none => (none, s)

def clccStore (f : RefCall → RefCall) : ClccM Unit := fun s => (some (), { s with call := f s.call })

/-- Some stacks return strings like `NOT AVAILABLE`. -/
def clccNumber (number : Option Bytes) : Option Bytes :=
  number.filter fun s => s.head?.any fun b => b = 0x2b ∨ isDigit b

def callFields : ClccM Unit := do
  clccItem atTokStart
  let index ← clccItem (atTokNextint env.longBits)
  clccStore fun call => { call with index := index }
  let isMT ← clccItem (atTokNextbool env.longBits)
  clccStore fun call => { call with isMT := isMT }
  let state ← clccItem (atTokNextint env.longBits)
  let state ← clccItem fun cur => (clccStateToRILState state).map (·, cur)
  clccStore fun call => { call with state := state }
  let mode ← clccItem (atTokNextint env.longBits)
  clccStore fun call => { call with isVoice := mode = 0 }
  let isMpty ← clccItem (atTokNextbool env.longBits)
  clccStore fun call => { call with isMpty := isMpty }
  if ← clccItem (fun cur => some (atTokHasmore cur, cur)) then
    let number ← clccItem atTokNextstr
    clccStore fun call => { call with number := clccNumber number }
    let toa ← clccItem (atTokNextint env.longBits)
    clccStore fun call => { call with toa := toa }

/-- Whether the line is valid, and the call -/
def callFromCLCCLine (line : Bytes) (call : RefCall) : Bool × RefCall :=
  let r := callFields env { line := some line, call := call }
  (r.1.isSome, r.2.call)

/-- The loop over the lines: how many calls are valid, and the array -/
def readCalls : List Bytes → ℕ → List RefCall → RefM (ℕ × List RefCall)
  | [], countValidCalls, calls => return (countValidCalls, calls)
  | line :: lines, countValidCalls, calls => do
    let call ← deref calls[countValidCalls]?
    let r := callFromCLCCLine env line call
    readCalls lines (if r.1 then countValidCalls + 1 else countValidCalls) (calls.set countValidCalls r.2)

def needRepoll (calls : List RefCall) : Bool :=
  calls.any fun call => call.state ≠ .active ∧ call.state ≠ .holding

def requestGetCurrentCalls : RefM Unit := do
  match succeeded (← atSendCommandMultiline env (ascii "AT+CLCC") (ascii "+CLCC:")) with
  | none => onRequestComplete .genericFailure .null
  | some response =>
    let countCalls := response.intermediates.length
    let (countValidCalls, calls) ← readCalls env response.intermediates 0 (List.replicate countCalls {})
    let calls := calls.take countValidCalls
    onRequestComplete .success (.calls calls)
    if needRepoll calls then requestTimedCallback .sendCallStateChanged

def sendCallStateChanged : RefM Unit := onUnsolicitedResponse .callStateChanged .null

/-! ### The calls themselves -/

/-- Success or failure is ignored by the upper layer. -/
def sendAndComplete (command : Bytes) : RefM Unit := do
  atSendCommandOnly env command
  onRequestComplete .success .null

/-- The request, and what it sends -/
inductive CallRequest
  | hangupWaitingOrBackground | hangupForegroundResumeBackground | switchWaitingOrHoldingAndActive | answer
  | conference | udub
deriving DecidableEq, Repr

def CallRequest.command : CallRequest → Bytes
  | hangupWaitingOrBackground => ascii "AT+CHLD=0"
  | hangupForegroundResumeBackground => ascii "AT+CHLD=1"
  | switchWaitingOrHoldingAndActive => ascii "AT+CHLD=2"
  | answer => ascii "ATA"
  | conference => ascii "AT+CHLD=3"
  | udub => ascii "ATH"

def clirSuffix (clir : Int32) : Bytes :=
  if clir = 1 then ascii "I" else if clir = 2 then ascii "i" else []

def requestDial (data : RequestData) : RefM Unit := do
  let clir ← intField data .clir
  let address ← stringField data .address
  sendAndComplete env (ascii "ATD" ++ printedString address ++ clirSuffix clir ++ ascii ";")

def requestHangup (data : RequestData) : RefM Unit := do
  let line ← intAt data 0
  sendAndComplete env (ascii "AT+CHLD=1" ++ decimal line)

def requestSeparateConnection (data : RequestData) : RefM Unit := do
  let party ← intAt data 0
  if 0 < party ∧ party < 10 then sendAndComplete env (ascii "AT+CHLD=2" ++ decimal party)
  else onRequestComplete .genericFailure .null

/-- `((char *) data)[0]`; a string that is empty ends the command. -/
def firstChar (data : RequestData) : RefM Bytes :=
  match data with
  | .string (some s) => return s.take 1
  | _ => throw .undefined

def requestDtmf (data : RequestData) : RefM Unit := do
  let c ← firstChar data
  sendAndComplete env (ascii "AT+VTS=" ++ c)

end Ril.Reference
