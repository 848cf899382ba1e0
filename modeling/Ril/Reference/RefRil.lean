import Mathlib.Data.PNat.Notation
import Ril.Libril.Dispatch
import Ril.Reference.AtTok

/-! The state of the reference RIL, what it answers with, and what its request handlers do with the modem and with
libril. -/

namespace Ril.Reference

open Ril.Samsung (RilErrno RilRadioState RilAppState RilPersoSubstate RilPinState RilCardState RilCallState)
open Ril.Libril (RequestData Parameter Parameters)

inductive AppType
  | unknown | sim | ruim
deriving DecidableEq

/-- The fields in which the entries of `app_status_array` differ -/
structure AppStatus where
  appType : AppType
  appState : RilAppState
  persoSubstate : RilPersoSubstate
  pin1 : RilPinState
deriving DecidableEq

structure CardStatus where
  cardState : RilCardState
  universalPinState : RilPinState
  gsmUmtsSubscriptionAppIndex : ℕ
  cdmaSubscriptionAppIndex : ℕ
  imsSubscriptionAppIndex : ℕ
  numApplications : ℕ
  applications : List AppStatus
deriving DecidableEq

structure RefCall where
  state : RilCallState := .active
  index : Int32 := 0
  toa : Int32 := 0
  isMpty : Bool := false
  isMT : Bool := false
  isVoice : Bool := false
  number : Option Bytes := none
deriving DecidableEq

structure RefDataCall where
  status : Int32 := -1
  suggestedRetryTime : Int32 := -1
  cid : Int32 := -1
  active : Int32 := -1
  type : Bytes := []
  ifname : Bytes := []
  addresses : Bytes := []
  dnses : Bytes := []
  gateways : Bytes := []
  pcscf : Bytes := []
deriving DecidableEq

/-- What a request is completed with -/
inductive RefResponse
  | null
  | strings (ss : List (Option Bytes))
  | string (s : Bytes)
  | ints (vs : List Int32)
  | cardStatus (status : CardStatus)
  | calls (calls : List RefCall)
  | dataCalls (dataCalls : List RefDataCall)
  | sms (messageRef : Int32)
  | simIo (sw1 sw2 : Int32) (simResponse : Option Bytes)
  | cellInfo (mcc mnc lac cid : Int32)
  | hardwareConfig (type : Int32)
  | echo (data : RequestData)
deriving DecidableEq

inductive RefUnsol
  | radioStateChanged | simStatusChanged | voiceRadioTechChanged | dataCallListChanged
  | cdmaSubscriptionSourceChanged | callStateChanged | voiceNetworkStateChanged | newSms | newSmsStatusReport
  | enterEmergencyCallbackMode | exitEmergencyCallbackMode | cdmaPrlChanged
deriving DecidableEq

inductive TimedCallback
  | initializeCallback | pollSIMState | sendCallStateChanged | onDataCallListChanged
deriving DecidableEq

/-- `goto error`, or behaviour that is undefined -/
inductive RefStop
  | error | undefined
deriving DecidableEq, Repr

/-- The modem counts its technologies from 0. -/
structure ModemInfo where
  supportedTechs : Int32 := 0
  currentTech : Int32 := 0
  preferredNetworkMode : Int32 := 0
deriving DecidableEq, Repr

inductive RefRecord
  | sent (command : AtCommand)
  | completed (e : RilErrno) (response : RefResponse)
  | unsolicited (unsolResponse : RefUnsol) (response : RefResponse)
  | requestTimedCallback (callback : TimedCallback)
deriving DecidableEq

/-- The records come newest first. -/
structure RefRil where
  modem : ModemInfo := {}
  sState : RilRadioState := .unavailable
  closed : Bool := false
  cellInfoRateMs : Int32 := Int32.maxValue
  mcc : Int32 := 0
  mnc : Int32 := 0
  lac : Int32 := 0
  cid : Int32 := 0
  imsRegistered : Int32 := 0
  imsFormat : Int32 := 1
  imsCauseRetry : Int32 := 0
  imsCausePermFailure : Int32 := 0
  imsGsmRetry : Int32 := 0
  imsGsmFail : Int32 := 0
  commands : ℕ := 0
  log : List RefRecord := []

/-- The size of a `long`, and how `at_send_command_full` ends for the command of a number -/
structure RefEnv where
  longBits : ℕ
  answer : ℕ → AtCommand → Except AtError AtResponse

/-- `/dev/qmi` once it is open: how many bytes a write takes if it does not fail, and what a read brings -/
structure Qmi where
  write : ℕ → Option ℕ+
  read : ℕ → Option Bytes
  netcfg : Int32

/-- Whether the assertions are compiled in, the size of a pointer, the properties of the system, of which one that is
not set is empty, and `/dev/qmi` if it can be opened -/
structure RequestEnv extends RefEnv where
  asserts : Bool
  pointerSize : ℕ
  property : Bytes → Bytes
  qmi : Option Qmi

abbrev RefM := ExceptT RefStop (StateM RefRil)

variable (env : RefEnv)

def record (r : RefRecord) : RefM Unit := modify fun d => { d with log := r :: d.log }

def onRequestComplete (e : RilErrno) (response : RefResponse) : RefM Unit := record (.completed e response)

def onUnsolicitedResponse (unsolResponse : RefUnsol) (response : RefResponse) : RefM Unit :=
  record (.unsolicited unsolResponse response)

def requestTimedCallback (callback : TimedCallback) : RefM Unit := record (.requestTimedCallback callback)

/-! ### The payload -/

/-- `(const char **) data` -/
def charPointers : RequestData → List (Option Bytes)
  | .parameters ps => ps.filterMap fun p => match p.2 with
    | .string s => some s
    | _ => none
  | _ => []

/-- `(int *) data` -/
def intsOf : RequestData → List Int32
  | .parameters ps => ps.filterMap fun p => match p.2 with
    | .int32 v => some v
    | _ => none
  | _ => []

/-- The fields of the structure that `data` points to -/
def fieldsOf : RequestData → Parameters
  | .parameters ps => ps
  | .dial ps _ => ps
  | _ => []

/-- What is read where a pointer may be `NULL`, or may point behind what is there -/
def deref {α : Type} (p : Option α) : RefM α :=
  match p with
  | none => throw .undefined
  | some a => return a

def intAt (data : RequestData) (i : ℕ) : RefM Int32 := deref (intsOf data)[i]?

def stringAt (data : RequestData) (i : ℕ) : RefM (Option Bytes) := deref (charPointers data)[i]?

def intField (data : RequestData) (name : Parameter) : RefM Int32 :=
  match (fieldsOf data).find? fun p => p.1 = name with
  | some (_, .int32 v) => return v
  | _ => throw .undefined

def stringField (data : RequestData) (name : Parameter) : RefM (Option Bytes) :=
  match (fieldsOf data).find? fun p => p.1 = name with
  | some (_, .string s) => return s
  | _ => throw .undefined

/-! ### The commands -/

/-- The rest of a handler behind its label `error` -/
def onError (handler rest : RefM Unit) : RefM Unit := fun d =>
  match handler d with
  | (.ok (), d) => (.ok (), d)
  | (.error .error, d) => rest d
  | (.error .undefined, d) => (.error .undefined, d)

def atSendCommandFull (c : AtCommand) : RefM (Except AtError AtResponse) := do
  let d ← get
  set { d with commands := d.commands + 1, log := .sent c :: d.log }
  return env.answer d.commands c

/-- A command that has succeeded must have an intermediate response. -/
def needsIntermediate (r : Except AtError AtResponse) : Except AtError AtResponse :=
  match r with
  | .ok r => if r.success && r.intermediates.isEmpty then .error .invalidResponse else .ok r
  | .error e => .error e

def atSendCommandSingleline (command responsePrefix : Bytes) : RefM (Except AtError AtResponse) :=
  needsIntermediate <$> atSendCommandFull env { command := command, type := .singleline responsePrefix }

def atSendCommand (command : Bytes) : RefM (Except AtError AtResponse) :=
  atSendCommandFull env { command := command, type := .noResult }

/-- `at_send_command` without a place for the response -/
def atSendCommandOnly (command : Bytes) : RefM Unit := do
  let _ ← atSendCommandFull env { command := command, type := .noResult, outResponse := false }

/-- The commands of a list, one after the other -/
def sendAll : List Bytes → RefM Unit
  | [] => return
  | command :: commands => do
    atSendCommandOnly env command
    sendAll commands

def atSendCommandNumeric (command : Bytes) : RefM (Except AtError AtResponse) :=
  needsIntermediate <$> atSendCommandFull env { command := command, type := .numeric }

def atSendCommandMultiline (command responsePrefix : Bytes) : RefM (Except AtError AtResponse) :=
  atSendCommandFull env { command := command, type := .multiline responsePrefix }

def atSendCommandSms (command pdu responsePrefix : Bytes) : RefM (Except AtError AtResponse) :=
  needsIntermediate <$>
    atSendCommandFull env { command := command, type := .singleline responsePrefix, smspdu := some pdu }

/-- The response of a command, `none` if it has failed: `err < 0 || p_response->success == 0` -/
def succeeded (r : Except AtError AtResponse) : Option AtResponse :=
  match r with
  | .ok r => if r.success then some r else none
  | .error _ => none

/-- A failed assertion ends the program. -/
def assert (asserts : Bool) (c : Prop) [Decidable c] : RefM Unit := if asserts ∧ ¬c then throw .undefined else return

/-- `if (…) goto error` -/
def orError {α : Type} (r : Option α) : RefM α :=
  match r with
  | none => throw .error
  | some a => return a

/-- The reads of a line, of which each may fail -/
def tokens {α : Type} (t : Tok α) (line : Bytes) : RefM α := orError ((t (some line)).map Prod.fst)

/-- `p_intermediates->line`, where a null pointer is read if there is none -/
def firstLine (r : AtResponse) : RefM Bytes := deref r.intermediates.head?

/-- `%s` -/
def printedString (s : Option Bytes) : Bytes := s.getD (ascii "(null)")

/-- `%d` -/
def decimal (v : Int32) : Bytes := ascii (toString v.toInt)

/-- `%x` -/
def hexadecimal (v : Int32) : Bytes := (Nat.toDigits 16 v.toUInt32.toNat).map fun c => UInt8.ofNat c.toNat

/-! ### How the handlers run -/

variable {env : RefEnv} {α β : Type}

lemma ref_bind (x : RefM α) (k : α → RefM β) (d : RefRil) : (x >>= k) d =
    match x d with
    | (.ok a, d) => k a d
    | (.error e, d) => (.error e, d) := by
  have h : (x >>= k) d = ExceptT.bindCont k (x d).1 (x d).2 := rfl
  rw [h]
  rcases x d with ⟨e | a, d'⟩ <;> rfl

lemma ref_pure (a : α) (d : RefRil) : (pure a : RefM α) d = (.ok a, d) := rfl

lemma ref_throw (e : RefStop) (d : RefRil) : (throw e : RefM α) d = (.error e, d) := rfl

lemma ref_get (d : RefRil) : (get : RefM RefRil) d = (.ok d, d) := rfl

lemma ref_modify (f : RefRil → RefRil) (d : RefRil) : (modify f : RefM Unit) d = (.ok (), f d) := rfl

lemma ref_except (x : Except RefStop α) (d : RefRil) : (liftExcept x : RefM α) d = (x, d) := by
  cases x <;> rfl

end Ril.Reference
