import Ril.Reference.RefRil

/-! The registration state of the reference RIL. -/

namespace Ril.Reference

variable (env : RefEnv)

/-- The radio technologies that `techFromModemType` gives -/
inductive RadioTech
  | gprs | oneXRtt | evdoA | hspa | lte
deriving DecidableEq, Repr

/-- `1 << mdmtype` is the bit of a technology. -/
def techFromModemType (mdmtype : Int32) : Option RadioTech :=
  if mdmtype = 0 then some .gprs
  else if mdmtype = 1 then some .hspa
  else if mdmtype = 2 then some .oneXRtt
  else if mdmtype = 3 then some .evdoA
  else if mdmtype = 4 then some .lte
  else none

def is3gpp2 : Option RadioTech → Bool
  | some .oneXRtt | some .evdoA => true
  | _ => false

/-! ### The line -/

/-- The cursor and the array that is allocated -/
structure RegistrationParse where
  line : Option Bytes
  resp : List Int32

abbrev ParseM := StateT RegistrationParse (Except RefStop)

/-- Outside the array the behaviour is undefined. -/
def storeResp (i : ℕ) (v : Int32) : ParseM Unit := fun s =>
  if i < s.resp.length then .ok ((), { s with resp := s.resp.set i v }) else .error .undefined

def loadResp (resp : List Int32) (i : ℕ) : Except RefStop Int32 :=
  match resp[i]? with
  | some v => .ok v
  | none => .error .undefined

def nextItem (f : Tok Int32) : ParseM Int32 := fun s =>
  match f s.line with
  | some (v, line) => .ok (v, { s with line := line })
  | none => .error .error

def nextint : ParseM Int32 := nextItem (atTokNextint env.longBits)

def nexthexint : ParseM Int32 := nextItem (atTokNexthexint env.longBits)

/-- The switch of `parseRegistrationState` -/
def parseItems (commas : ℕ) : ParseM Unit :=
  match commas with
  | 0 => do
    storeResp 0 (← nextint env)
    storeResp 1 (-1)
    storeResp 2 (-1)
  | 1 => do
    let _ ← nextint env
    storeResp 0 (← nextint env)
    storeResp 1 (-1)
    storeResp 2 (-1)
  | 2 => do
    storeResp 0 (← nextint env)
    storeResp 1 (← nexthexint env)
    storeResp 2 (← nexthexint env)
  | 3 => do
    let _ ← nextint env
    storeResp 0 (← nextint env)
    storeResp 1 (← nexthexint env)
    storeResp 2 (← nexthexint env)
  | 4 => do
    let _ ← nextint env
    storeResp 0 (← nextint env)
    storeResp 1 (← nexthexint env)
    storeResp 2 (← nexthexint env)
    storeResp 3 (← nexthexint env)
  | _ => throw .error

/-- The number of items, the array, and the values for `s_lac` and `s_cid` -/
structure ParsedRegistration where
  items : ℕ
  response : List Int32
  lac : Int32
  cid : Int32
deriving DecidableEq, Repr

def parseLine (str : Bytes) : Except RefStop ParsedRegistration :=
  match atTokStart (some str) with
  | none => .error .error
  | some (_, line) => do
    let commas := (line.getD []).count comma
    let s ← parseItems env commas { line := line, resp := List.replicate (commas + 1) 0 }
    return { items := commas + 1, response := s.2.resp, lac := ← loadResp s.2.resp 1, cid := ← loadResp s.2.resp 2 }

def parseRegistrationState (str : Bytes) : RefM (Option RadioTech × ParsedRegistration) := do
  let r ← liftExcept (parseLine env str)
  modify fun d => { d with lac := r.lac, cid := r.cid }
  return (techFromModemType (← get).modem.currentTech, r)

/-! ### The request -/

inductive RegistrationRequest
  | voiceRegistrationState | dataRegistrationState
deriving DecidableEq, Repr

def RegistrationRequest.cmd : RegistrationRequest → Bytes
  | voiceRegistrationState => ascii "AT+CREG?"
  | dataRegistrationState => ascii "AT+CGREG?"

def RegistrationRequest.responsePrefix : RegistrationRequest → Bytes
  | voiceRegistrationState => ascii "+CREG:"
  | dataRegistrationState => ascii "+CGREG:"

def RegistrationRequest.numElements : RegistrationRequest → ℕ
  | voiceRegistrationState => 15
  | dataRegistrationState => 6

/-- What stands for a 3GPP2 modem behind the state -/
def cdmaStrings : RegistrationRequest → List (Option Bytes)
  | .voiceRegistrationState =>
    [none, none] ++ ["8", "1", "123", "222", "0", "4", "65535", "0", "1", "0", "0", "0"].map (some ∘ ascii)
  | .dataRegistrationState => [none, none, some (ascii "8"), none, none]

def registrationStrings (request : RegistrationRequest) (type : Option RadioTech) (r : ParsedRegistration) :
    Except RefStop (List (Option Bytes)) := do
  let rest ← if is3gpp2 type then .ok (cdmaStrings request)
    else do
      let lac := some (hexadecimal (← loadResp r.response 1))
      let cid := some (hexadecimal (← loadResp r.response 2))
      let tech ← if 3 < r.items then (some ∘ decimal) <$> loadResp r.response 3 else .ok none
      .ok ([lac, cid, tech] ++ List.replicate (request.numElements - 4) none)
  return some (decimal (← loadResp r.response 0)) :: rest

def requestRegistrationState (request : RegistrationRequest) : RefM Unit :=
  onError (do
    match ← atSendCommandSingleline env request.cmd request.responsePrefix with
    | .error _ => throw .error
    | .ok response =>
      let (type, r) ← parseRegistrationState env (← firstLine response)
      onRequestComplete .success (.strings (← liftExcept (registrationStrings request type r))))
    (onRequestComplete .genericFailure .null)

end Ril.Reference
