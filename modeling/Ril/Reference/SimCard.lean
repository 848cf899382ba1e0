import Ril.Reference.RefRil

/-! The requests of the reference RIL to the SIM. -/

namespace Ril.Reference

open Ril.Samsung (RilAppState RilPersoSubstate RilPinState RilCardState)
open Ril.Libril (RequestData)

variable (env : RefEnv)

inductive SimStatus
  | absent | notReady | ready | pin | puk | networkPersonalization
deriving DecidableEq, Repr

/-- The value of the enumeration. Those of the RUIM come behind, from `RUIM_ABSENT` on. -/
def SimStatus.index : SimStatus → ℕ
  | absent => 0
  | notReady => 1
  | ready => 2
  | pin => 3
  | puk => 4
  | networkPersonalization => 5

def ruimAbsent : ℕ := 6

def cmeSuccess : Int32 := 0

def cmeSimNotInserted : Int32 := 10

/-- Unsupported lock types are treated as `SIM_ABSENT`. -/
def simStatusOf (cpinResult : Bytes) : SimStatus :=
  if cpinResult = ascii "SIM PIN" then .pin
  else if cpinResult = ascii "SIM PUK" then .puk
  else if cpinResult = ascii "PH-NET PIN" then .networkPersonalization
  else if cpinResult ≠ ascii "READY" then .absent
  else .ready

def getSIMStatus : RefM SimStatus := do
  let d ← get
  if d.sState = .off ∨ d.sState = .unavailable then return .notReady
  else
    match ← atSendCommandSingleline env (ascii "AT+CPIN?") (ascii "+CPIN:") with
    | .error _ => return .notReady
    | .ok response =>
      let cme := atGetCmeError env.longBits response
      if cme = cmeSuccess then
        let cpinLine ← firstLine response
        match (do atTokStart; atTokNextstr : Tok (Option Bytes)) (some cpinLine) with
        | none => return .notReady
        | some (cpinResult, _) => return simStatusOf (← deref cpinResult)
      else if cme = cmeSimNotInserted then return .absent
      else return .notReady

def appStatusArray : List AppStatus := [
  ⟨.unknown, .unknown, .unknown, .unknown⟩,
  ⟨.sim, .detected, .unknown, .unknown⟩,
  ⟨.sim, .ready, .ready, .unknown⟩,
  ⟨.sim, .pin, .unknown, .enabledNotVerified⟩,
  ⟨.sim, .puk, .unknown, .enabledBlocked⟩,
  ⟨.sim, .subscriptionPerso, .simNetwork, .enabledNotVerified⟩,
  ⟨.unknown, .unknown, .unknown, .unknown⟩,
  ⟨.ruim, .detected, .unknown, .unknown⟩,
  ⟨.ruim, .ready, .ready, .unknown⟩,
  ⟨.ruim, .pin, .unknown, .enabledNotVerified⟩,
  ⟨.ruim, .puk, .unknown, .enabledBlocked⟩,
  ⟨.ruim, .subscriptionPerso, .simNetwork, .enabledNotVerified⟩]

def rilCardMaxApps : ℕ := 8

def getCardStatus : RefM CardStatus := do
  let simStatus ← getSIMStatus env
  let absent ← deref appStatusArray[SimStatus.absent.index]?
  if simStatus = .absent then
    return {
      cardState := .absent
      universalPinState := .unknown
      gsmUmtsSubscriptionAppIndex := rilCardMaxApps
      cdmaSubscriptionAppIndex := rilCardMaxApps
      imsSubscriptionAppIndex := rilCardMaxApps
      numApplications := 0
      applications := List.replicate rilCardMaxApps absent }
  else
    let gsm ← deref appStatusArray[simStatus.index]?
    let cdma ← deref appStatusArray[simStatus.index + ruimAbsent]?
    return {
      cardState := .present
      universalPinState := .unknown
      gsmUmtsSubscriptionAppIndex := 0
      cdmaSubscriptionAppIndex := 1
      imsSubscriptionAppIndex := rilCardMaxApps
      numApplications := 2
      applications := gsm :: cdma :: List.replicate (rilCardMaxApps - 2) absent }

def requestGetSimStatus : RefM Unit := do
  let status ← getCardStatus env
  onRequestComplete .success (.cardStatus status)

def onSIMReady : RefM Unit := do
  let _ ← atSendCommandFull env
    { command := ascii "AT+CSMS=1", type := .singleline (ascii "+CSMS:"), outResponse := false }
  atSendCommandOnly env (ascii "AT+CNMI=1,2,2,1,1")

def pollSIMState : RefM Unit := do
  if (← get).sState = .simNotReady then
    match ← getSIMStatus env with
    | .notReady => requestTimedCallback .pollSIMState
    | .ready =>
      onSIMReady env
      onUnsolicitedResponse .simStatusChanged .null
    | _ => onUnsolicitedResponse .simStatusChanged .null

/-- Two strings are a PUK and the new PIN, or an old PIN and the new one. -/
def requestEnterSimPin (data : RequestData) : RefM Unit :=
  onError (do
    let cmd ← match charPointers data with
      | [pin] => pure (ascii "AT+CPIN=" ++ printedString pin)
      | [pin, newPin] => pure (ascii "AT+CPIN=" ++ printedString pin ++ ascii "," ++ printedString newPin)
      | _ => throw .error
    let response ← atSendCommandSingleline env cmd (ascii "+CPIN:")
    let _ ← orError (succeeded response)
    onRequestComplete .success .null)
    (onRequestComplete .passwordIncorrect .null)

def requestSIMIO (data : RequestData) : RefM Unit :=
  onError (do
    let ints := [← intField data .command, ← intField data .fileid, ← intField data .p1, ← intField data .p2,
      ← intField data .p3]
    let args := (ints.map decimal).intersperse (ascii ",")
    let cmd := ascii "AT+CRSM=" ++ args.flatten ++ (match ← stringField data .data with
      | none => []
      | some data => ascii "," ++ data)
    let response ← orError (succeeded (← atSendCommandSingleline env cmd (ascii "+CRSM:")))
    let line ← firstLine response
    let (sw1, sw2, simResponse) ← tokens (do
      atTokStart
      let sw1 ← atTokNextint env.longBits
      let sw2 ← atTokNextint env.longBits
      let simResponse ← if atTokHasmore (← get) then atTokNextstr else pure none
      return (sw1, sw2, simResponse)) line
    onRequestComplete .success (.simIo sw1 sw2 simResponse))
    (onRequestComplete .genericFailure .null)

end Ril.Reference
