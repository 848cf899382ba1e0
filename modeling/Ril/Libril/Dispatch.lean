import Ril.Libril.Parameters
import Ril.Samsung.Types

/-! The dispatch functions of libril. -/

namespace Ril.Libril

open Ril.Ipc Ril.Samsung

/-- The data that `onRequest` is called with -/
inductive RequestData
  | null
  | string (s : Option CString)
  | parameters (ps : Parameters)
  | dial (ps : Parameters) (uusInfo : Option (Parameters × Option Bytes))
  | raw (data : Option Bytes)
  | records (rs : List Parameters)
  | imsSms (tech : ℤ) (retry : UInt8) (messageRef : ℕ) (message : Option Parameters)
deriving DecidableEq

/-- What is done with a request. The behaviour of the code may also be undefined. -/
inductive Effect
  | onRequest (requestNumber : ℤ) (data : RequestData)
  | onRequestComplete (e : RilErrno) (response : Option ℤ)
  | undefined
deriving DecidableEq

/-- The version of the RIL, and whether the arrays of so many elements fit on the stack of the dispatching thread. -/
structure RilEnv where
  version : ℤ
  stackHolds : DispatchFunction → ℕ → Bool

/-- An array on the stack is undefined for a negative size too. -/
def RilEnv.arraysFit (env : RilEnv) (f : DispatchFunction) (count : Int32) : Bool :=
  0 ≤ count.toInt && env.stackHolds f count.toInt.toNat

variable {L : ParcelLib} (env : RilEnv) (requestNumber : ℤ)

/-- `invalidCommandBlock` only logs. -/
def invalidCommandBlock : List Effect := []

def callOnRequest (data : RequestData) : List Effect := [.onRequest requestNumber data]

def nullString (ps : Parameters) : Bool :=
  ps.any fun p => match p.2 with
    | .string none => true
    | _ => false

/-- The block is read as a whole, and the status of the last read of a number is tested. -/
def dispatchFields (fields : List Field) (s : ReadState L) : List Effect :=
  let r := s.fields fields
  if r.2.status then callOnRequest requestNumber (.parameters r.1) else invalidCommandBlock

/-- The last status that is tested is that of the last record. -/
def dispatchRecords (f : DispatchFunction) (fields : List Field) (s : ReadState L) : List Effect :=
  let num := s.readInt32
  if !num.status then invalidCommandBlock
  else if !env.arraysFit f num.t then [.undefined]
  else
    let r := num.records fields num.t.toInt.toNat
    if r.2.status then callOnRequest requestNumber (.records r.1) else invalidCommandBlock

def dispatchVoid : List Effect := callOnRequest requestNumber .null

def dispatchString (s : ReadState L) : List Effect := callOnRequest requestNumber (.string s.strdupReadString.1)

/-- The strings of a count that was read: `NULL` for -1 -/
def countedStrings (s : ReadState L) : Option Parameters :=
  if s.t = -1 then none else some (s.fields (List.replicate s.t.toInt.toNat (.string .pStrings))).1

def dispatchStrings (f : DispatchFunction) (s : ReadState L) : List Effect :=
  let countStrings := s.readInt32
  if !countStrings.status then invalidCommandBlock
  else if countStrings.t ≠ 0 ∧ countStrings.t ≠ -1 ∧ !env.arraysFit f countStrings.t then [.undefined]
  else callOnRequest requestNumber (match countedStrings countStrings with
    | none => .null
    | some ss => .parameters ss)

def dispatchInts (s : ReadState L) : List Effect :=
  let count := s.readInt32
  if !count.status || count.t = 0 then invalidCommandBlock
  else if !env.arraysFit .dispatchInts count.t then [.undefined]
  else
    match count.checkedInts (List.replicate count.t.toInt.toNat .pInts) with
    | none => invalidCommandBlock
    | some is => callOnRequest requestNumber (.parameters is)

def dispatchSmsWrite (s : ReadState L) : List Effect :=
  let args := s.fields [.int32 .status, .string .pdu]
  if !args.2.status || nullString args.1 then invalidCommandBlock
  else callOnRequest requestNumber (.parameters (args.1 ++ (args.2.fields [.string .smsc]).1))

/-- Of the reads of the user-to-user information only that of the length is tested. -/
def readUusInfo (s : ReadState L) : Option (Parameters × Option Bytes) :=
  let uusInfo := s.fields [.int32 .uusType, .int32 .uusDcs, .int32 .uusLength]
  if !uusInfo.2.status then none
  else if uusInfo.2.t = -1 then some (uusInfo.1.dropLast ++ [(.uusLength, .int32 0)], none)
  else some (uusInfo.1, (L.readInplace uusInfo.2.t.toUInt32.toNat uusInfo.2.parcel).1)

def dispatchDial (s : ReadState L) : List Effect :=
  let dial := s.fields [.string .address, .int32 .clir]
  if !dial.2.status || nullString dial.1 then invalidCommandBlock
  else if env.version < 3 then callOnRequest requestNumber (.dial dial.1 none)
  else
    let uusPresent := dial.2.readInt32
    if !uusPresent.status then invalidCommandBlock
    else if uusPresent.t = 0 then callOnRequest requestNumber (.dial dial.1 none)
    else
      match readUusInfo uusPresent with
      | none => invalidCommandBlock
      | some uusInfo => callOnRequest requestNumber (.dial dial.1 (some uusInfo))

def dispatchSimIo (s : ReadState L) : List Effect :=
  dispatchFields requestNumber [.int32 .command, .int32 .fileid, .string .path, .int32 .p1, .int32 .p2, .int32 .p3,
    .string .data, .string .pin2, .string .aidPtr] s

def dispatchSimApdu (s : ReadState L) : List Effect :=
  dispatchFields requestNumber [.int32 .sessionid, .int32 .cla, .int32 .instruction, .int32 .p1, .int32 .p2,
    .int32 .p3, .string .data] s

/-- A number of length 0 is `NULL`. -/
def emptyNumberToNull (p : Parameter × Value) : Parameter × Value :=
  match p with
  | (.number, .string (some [])) => (.number, .string none)
  | p => p

def dispatchCallForward (s : ReadState L) : List Effect :=
  let cff := s.fields [.int32 .status, .int32 .reason, .int32 .serviceClass, .int32 .toa, .string .number,
    .int32 .timeSeconds]
  if !cff.2.status then invalidCommandBlock
  else callOnRequest requestNumber (.parameters (cff.1.map emptyNumberToNull))

def dispatchRaw (s : ReadState L) : List Effect :=
  let len := s.readInt32
  if !len.status then invalidCommandBlock
  else callOnRequest requestNumber
    (.raw (L.readInplace (if len.t = -1 then 0 else len.t.toUInt32.toNat) len.parcel).1)

def rilCdmaSmsAddressMax : ℕ := 36

def rilCdmaSmsSubaddressMax : ℕ := 36

def rilCdmaSmsBearerDataMax : ℕ := 255

def cdmaSmsHead : List Field :=
  [.int32 .uTeleserviceID, .byte .bIsServicePresent, .int32 .uServicecategory, .int32 .digitMode, .int32 .numberMode,
    .int32 .numberType, .int32 .numberPlan, .byte .numberOfDigits]

def cdmaSmsSubaddress : List Field := [.int32 .subaddressType, .byte .odd, .byte .subNumberOfDigits]

/-- The message before the length of its bearer data. The numbers of digits are those of the message, as far as the
structure has room. -/
def readCdmaAddresses (s : ReadState L) : Parameters × ReadState L :=
  let head := s.fields cdmaSmsHead
  let digits := head.2.fields (List.replicate (min head.2.ut.toNat rilCdmaSmsAddressMax) (.byte .digits))
  let sub := digits.2.fields cdmaSmsSubaddress
  let subDigits := sub.2.fields (List.replicate (min sub.2.ut.toNat rilCdmaSmsSubaddressMax) (.byte .subDigits))
  (head.1 ++ digits.1 ++ sub.1 ++ subDigits.1, subDigits.2)

/-- The number of bytes of bearer data that are read -/
def bearerDataBytes (uBearerDataLen : Int32) : ℕ := (min uBearerDataLen.toInt rilCdmaSmsBearerDataMax).toNat

def constructCdmaSms (s : ReadState L) : Option Parameters :=
  let addresses := readCdmaAddresses s
  let len := addresses.2.field (.int32 .uBearerDataLen)
  let data := len.2.fields (List.replicate (bearerDataBytes len.2.t) (.byte .aBearerData))
  if data.2.status then some (addresses.1 ++ len.1 :: data.1) else none

def dispatchCdmaSms (s : ReadState L) : List Effect :=
  match constructCdmaSms s with
  | none => invalidCommandBlock
  | some rcsm => callOnRequest requestNumber (.parameters rcsm)

def radioTech3gpp : Int32 := 1

def radioTech3gpp2 : Int32 := 2

def dispatchImsCdmaSms (s : ReadState L) (retry : UInt8) (messageRef : ℕ) : List Effect :=
  match constructCdmaSms s with
  | none => invalidCommandBlock
  | some rcsm => callOnRequest requestNumber (.imsSms radioTech3gpp2.toInt retry messageRef (some rcsm))

def dispatchImsGsmSms (s : ReadState L) (retry : UInt8) (messageRef : ℕ) : List Effect :=
  let countStrings := s.readInt32
  if !countStrings.status then invalidCommandBlock
  else if countStrings.t ≠ 0 ∧ countStrings.t ≠ -1 ∧ !env.arraysFit .dispatchImsSms countStrings.t then [.undefined]
  else callOnRequest requestNumber (.imsSms radioTech3gpp.toInt retry messageRef (countedStrings countStrings))

/-- The functions for the two formats have variables of their own. A format that is none of the two is only logged. -/
def dispatchImsSms (s : ReadState L) : List Effect :=
  let format := s.readInt32
  if !format.status then invalidCommandBlock
  else
    let retry := format.readByte
    if !retry.status then invalidCommandBlock
    else
      match L.read 4 retry.parcel with
      | (none, _) => invalidCommandBlock
      | (some messageRef, p) =>
        if format.t = radioTech3gpp then
          dispatchImsGsmSms env requestNumber { s with parcel := p } retry.ut (intAt messageRef 0)
        else if format.t = radioTech3gpp2 then
          dispatchImsCdmaSms requestNumber { s with parcel := p } retry.ut (intAt messageRef 0)
        else []

def dispatchCdmaSmsAck (s : ReadState L) : List Effect :=
  dispatchFields requestNumber [.int32 .uErrorClass, .int32 .uSMSCauseCode] s

def gsmBroadcastSmsConfigInfo : List Field :=
  [.int32 .fromServiceId, .int32 .toServiceId, .int32 .fromCodeScheme, .int32 .toCodeScheme, .flag .selected]

def dispatchGsmBrSmsCnf (s : ReadState L) : List Effect :=
  dispatchRecords env requestNumber .dispatchGsmBrSmsCnf gsmBroadcastSmsConfigInfo s

def cdmaBroadcastSmsConfigInfo : List Field := [.int32 .serviceCategory, .int32 .language, .flag .selected]

def dispatchCdmaBrSmsCnf (s : ReadState L) : List Effect :=
  dispatchRecords env requestNumber .dispatchCdmaBrSmsCnf cdmaBroadcastSmsConfigInfo s

/-- The digits and the data of a message that is written are always read as far as the structure has room. -/
def cdmaSmsWriteArgs : List Field :=
  .int32 .status :: cdmaSmsHead ++ List.replicate rilCdmaSmsAddressMax (.byte .digits) ++ cdmaSmsSubaddress ++
    List.replicate rilCdmaSmsSubaddressMax (.byte .subDigits) ++
    .int32 .uBearerDataLen :: List.replicate rilCdmaSmsBearerDataMax (.byte .aBearerData)

def dispatchRilCdmaSmsWriteArgs (s : ReadState L) : List Effect := dispatchFields requestNumber cdmaSmsWriteArgs s

def numParamsRilV3 : ℕ := 6

/-- What `readString16` gives for a parameter; for `NULL` it is empty. -/
def string16 (p : Parameter × Value) : Option CString :=
  match p.2 with
  | .string s => some (s.getD [])
  | _ => some []

/-- The parcel for `dispatchStrings`. The parameters that a RIL before version 4 does not know are taken out. -/
def dataCallParcel (p : L.Parcel) : L.Parcel :=
  let pos := L.dataPosition p
  let numParams := L.readInt32 p
  if env.version < 4 ∧ numParamsRilV3 < (numParams.1.getD 0).toInt then
    let s : ReadState L := ⟨numParams.2, true, 0, 0⟩
    let strings := (s.fields (List.replicate numParamsRilV3 (.string .pStrings))).1
    L.setDataPosition pos (L.copyStrings numParams.2 pos (Int32.ofNat numParamsRilV3) (strings.map string16))
  else L.setDataPosition pos numParams.2

def dispatchDataCall (s : ReadState L) : List Effect :=
  dispatchStrings env requestNumber .dispatchDataCall { s with parcel := dataCallParcel env s.parcel }

def radioTechUmts : ℤ := 3

def radioTech1xRtt : ℤ := 6

def decodeVoiceRadioTechnology : RilRadioState → ℤ
  | .simNotReady | .simLockedOrAbsent | .simReady => radioTechUmts
  | .ruimNotReady | .ruimReady | .ruimLockedOrAbsent | .nvNotReady | .nvReady => radioTech1xRtt
  | _ => -1

def cdmaSubscriptionSourceRuimSim : ℤ := 0

def cdmaSubscriptionSourceNv : ℤ := 1

def decodeCdmaSubscriptionSource : RilRadioState → ℤ
  | .simNotReady | .simLockedOrAbsent | .simReady | .ruimNotReady | .ruimReady | .ruimLockedOrAbsent =>
    cdmaSubscriptionSourceRuimSim
  | .nvNotReady | .nvReady => cdmaSubscriptionSourceNv
  | _ => -1

/-- The answer that is decoded from the radio state. That the radio is not available is answered first, and the function
goes on. -/
def dispatchDecoded (decode : RilRadioState → ℤ) (state : RilRadioState) : List Effect :=
  (if state = .unavailable ∨ state = .off then [.onRequestComplete .radioNotAvailable none] else []) ++
    if state = .on then dispatchVoid requestNumber
    else if decode state < 0 then [.onRequestComplete .genericFailure none]
    else [.onRequestComplete .success (some (decode state))]

def dispatchVoiceRadioTech (state : RilRadioState) : List Effect :=
  dispatchDecoded requestNumber decodeVoiceRadioTechnology state

def dispatchCdmaSubscriptionSource (state : RilRadioState) : List Effect :=
  dispatchDecoded requestNumber decodeCdmaSubscriptionSource state

def dispatchSetInitialAttachApn (s : ReadState L) : List Effect :=
  dispatchFields requestNumber [.string .apn, .string .protocol, .int32 .authtype, .string .username, .string .password] s

def dispatchNVReadItem (s : ReadState L) : List Effect := dispatchFields requestNumber [.int32 .itemID] s

def dispatchNVWriteItem (s : ReadState L) : List Effect :=
  let nvwi := s.fields [.int32 .itemID, .string .value]
  if !nvwi.2.status || nullString nvwi.1 then invalidCommandBlock
  else callOnRequest requestNumber (.parameters nvwi.1)

def dispatchUiccSubscripton (s : ReadState L) : List Effect :=
  match s.checkedInts [.slot, .appIndex, .subType, .actStatus] with
  | none => invalidCommandBlock
  | some uiccSub => callOnRequest requestNumber (.parameters uiccSub)

def dispatchSimAuthentication (s : ReadState L) : List Effect :=
  dispatchFields requestNumber [.int32 .authContext, .string .authData, .string .aid] s

def dataProfileInfo : List Field :=
  [.int32 .profileId, .string .apn, .string .protocol, .int32 .authType, .string .user, .string .password,
    .int32 .type, .int32 .maxConnsTime, .int32 .maxConns, .int32 .waitTime, .int32 .enabled]

def dispatchDataProfile (s : ReadState L) : List Effect :=
  dispatchRecords env requestNumber .dispatchDataProfile dataProfileInfo s

/-- The call of `dispatchFunction`; `state` is what the RIL answers if it is asked for its radio state. -/
def dispatch (f : DispatchFunction) (state : RilRadioState) (s : ReadState L) : List Effect :=
  match f with
  | .dispatchVoid => dispatchVoid requestNumber
  | .dispatchStrings => dispatchStrings env requestNumber .dispatchStrings s
  | .dispatchDial => dispatchDial env requestNumber s
  | .dispatchInts => dispatchInts env requestNumber s
  | .dispatchString => dispatchString requestNumber s
  | .dispatchDataCall => dispatchDataCall env requestNumber s
  | .dispatchSimIo => dispatchSimIo requestNumber s
  | .dispatchCallForward => dispatchCallForward requestNumber s
  | .dispatchRaw => dispatchRaw requestNumber s
  | .dispatchSmsWrite => dispatchSmsWrite requestNumber s
  | .dispatchCdmaSms => dispatchCdmaSms requestNumber s
  | .dispatchCdmaSmsAck => dispatchCdmaSmsAck requestNumber s
  | .dispatchGsmBrSmsCnf => dispatchGsmBrSmsCnf env requestNumber s
  | .dispatchCdmaBrSmsCnf => dispatchCdmaBrSmsCnf env requestNumber s
  | .dispatchRilCdmaSmsWriteArgs => dispatchRilCdmaSmsWriteArgs requestNumber s
  | .dispatchCdmaSubscriptionSource => dispatchCdmaSubscriptionSource requestNumber state
  | .dispatchVoiceRadioTech => dispatchVoiceRadioTech requestNumber state
  | .dispatchSetInitialAttachApn => dispatchSetInitialAttachApn requestNumber s
  | .dispatchImsSms => dispatchImsSms env requestNumber s
  | .dispatchSimApdu => dispatchSimApdu requestNumber s
  | .dispatchNVReadItem => dispatchNVReadItem requestNumber s
  | .dispatchNVWriteItem => dispatchNVWriteItem requestNumber s
  | .dispatchUiccSubscripton => dispatchUiccSubscripton requestNumber s
  | .dispatchSimAuthentication => dispatchSimAuthentication requestNumber s
  | .dispatchDataProfile => dispatchDataProfile env requestNumber s

end Ril.Libril
