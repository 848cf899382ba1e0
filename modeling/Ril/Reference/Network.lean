import Ril.Reference.DataCalls

/-! The requests of the reference RIL about the network. -/

namespace Ril.Reference

open Ril.Libril (RequestData)
open Ril.Lib (isspace)

variable (env : RefEnv)

def requestQueryNetworkSelectionMode : RefM Unit :=
  onError (do
    let response ← orError (succeeded (← atSendCommandSingleline env (ascii "AT+COPS?") (ascii "+COPS:")))
    let mode ← tokens (do atTokStart; atTokNextint env.longBits) (← firstLine response)
    onRequestComplete .success (.ints [mode]))
    (onRequestComplete .genericFailure .null)

/-- The ints of `RIL_SignalStrength_v6` -/
def signalStrengthElements : ℕ := 12

def nextints (longBits : ℕ) : ℕ → Tok (List Int32)
  | 0 => return []
  | n + 1 => do
    let v ← atTokNextint longBits
    let vs ← nextints longBits n
    return v :: vs

/-- A command that fails is answered before the label `error`, and once more behind it. -/
def requestSignalStrength : RefM Unit :=
  onError (do
    match succeeded (← atSendCommandSingleline env (ascii "AT+CSQ") (ascii "+CSQ:")) with
    | none =>
      onRequestComplete .genericFailure .null
      throw .error
    | some response =>
      let vs ← tokens (do atTokStart; nextints env.longBits signalStrengthElements) (← firstLine response)
      onRequestComplete .success (.ints vs))
    (onRequestComplete .genericFailure .null)

/-- Answered with the one line of the command, which is a number -/
def requestNumeric (command : Bytes) : RefM Unit := do
  match succeeded (← atSendCommandNumeric env command) with
  | none => onRequestComplete .genericFailure .null
  | some response => onRequestComplete .success (.string (← firstLine response))

/-! ### The operator -/

def digitsValue (ds : Bytes) : ℕ := ds.foldl (fun n b => n * 10 + (b.toNat - 0x30)) 0

/-- `%3d`: the number, and what is behind it -/
def scanInt3 (s : Bytes) : Option (Int32 × Bytes) :=
  let s := s.dropWhile isspace
  let sign := (s.take 1).filter fun b => b = 0x2d ∨ b = 0x2b
  let digits := ((s.drop sign.length).take (3 - sign.length)).takeWhile isDigit
  if digits.isEmpty then none
  else
    let n : ℤ := digitsValue digits
    some (Int32.ofInt (if sign = [0x2d] then -n else n), s.drop (sign.length + digits.length))

/-- `sscanf` with `%3d%3d` into `s_mcc` and `s_mnc` -/
def scanMccMnc (s : Bytes) (d : RefRil) : RefRil :=
  match scanInt3 s with
  | none => d
  | some (mcc, rest) =>
    match scanInt3 rest with
    | none => { d with mcc := mcc }
    | some (mnc, _) => { d with mcc := mcc, mnc := mnc }

/-- The cursor behind `+COPS: mode,format,`, `none` for a line that ends before -/
def operatorCursor (longBits : ℕ) : Tok (Option (Option Bytes)) := do
  atTokStart
  let _ ← atTokNextint longBits
  if !atTokHasmore (← get) then return none
  else
    let _ ← atTokNextint longBits
    let cur ← get
    if !atTokHasmore cur then return none else return some cur

/-- The loop over the lines: how many there are, and the array -/
def readOperator : List Bytes → ℕ → List (Option Bytes) → RefM (ℕ × List (Option Bytes))
  | [], i, response => return (i, response)
  | line :: lines, i, response => do
    match ← tokens (operatorCursor env.longBits) line with
    | none => readOperator lines (i + 1) (← modifyAt response i fun _ => none)
    | some cur =>
      let name ← tokensAt atTokNextstr cur
      let response ← modifyAt response i fun _ => name
      let name ← deref name
      if name.length = 6 then modify (scanMccMnc name)
      readOperator lines (i + 1) response

/-- Three lines are expected, in the long, the short and the numeric format. -/
def requestOperator : RefM Unit :=
  onError (do
    match ← atSendCommandMultiline env (ascii "AT+COPS=3,0;+COPS?;+COPS=3,1;+COPS?;+COPS=3,2;+COPS?") (ascii "+COPS:")
    with
    | .error _ => throw .error
    | .ok r =>
      let (i, response) ← readOperator env r.intermediates 0 [none, none, none]
      if i ≠ 3 then throw .error
      onRequestComplete .success (.strings response))
    (onRequestComplete .genericFailure .null)

/-! ### Without the modem -/

def requestGetCellInfoList : RefM Unit := do
  let d ← get
  onRequestComplete .success (.cellInfo d.mcc d.mnc d.lac d.cid)

def requestSetCellInfoListRate (env : RequestEnv) (data : RequestData) : RefM Unit := do
  assert env.asserts ((intsOf data).length = 1)
  let rate ← intAt data 0
  modify fun d => { d with cellInfoRateMs := rate }
  onRequestComplete .success .null

def requestImsRegistrationState : RefM Unit := do
  let d ← get
  if d.imsFormat ≠ -1 then onRequestComplete .success (.ints [d.imsRegistered, d.imsFormat])
  else onRequestComplete .genericFailure .null

end Ril.Reference
