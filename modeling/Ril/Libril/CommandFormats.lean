import Ril.Libril.DispatchOnce
import Ril.Libril.ParcelReads

/-! The formats of the commands, and when a block is passed on as a whole or not at all. -/

namespace Ril.Libril

open Ril.Ipc Ril.Samsung

/-- An array on the stack of a dispatch function: the count that sizes it, and the reads of its elements -/
structure StackArray (L : ParcelLib) where
  count : Int32
  elements : L.Parcel
  kinds : List ReadKind

variable {L : ParcelLib} (env : RilEnv)

def StackArray.reads (a : StackArray L) : List ReadKind := (List.replicate a.count.toInt.toNat a.kinds).flatten

/-- The count is not negative, and the parcel holds that many elements. -/
def StackArray.Held (a : StackArray L) : Prop := 0 ≤ a.count.toInt ∧ L.ReadsAll a.elements a.reads

section

variable (p : L.Parcel)

/-- The array of `dispatchStrings`, which has no elements for 0 and is `NULL` for -1 -/
def stringsArray : Option (StackArray L) :=
  (L.readInt32 p).1.bind fun count =>
    if count = 0 ∨ count = -1 then none else some ⟨count, (L.readInt32 p).2, [.string]⟩

def intsArray : Option (StackArray L) :=
  (L.readInt32 p).1.bind fun count => if count = 0 then none else some ⟨count, (L.readInt32 p).2, [.int32]⟩

def recordsArray (fields : List Field) : Option (StackArray L) :=
  (L.readInt32 p).1.map fun count => ⟨count, (L.readInt32 p).2, fields.map Field.kind⟩

/-- The message of `dispatchImsSms` with what is read before it, if that is there -/
def imsMessage : Option (Int32 × UInt8 × ℕ × L.Parcel) :=
  (L.readInt32 p).1.bind fun format => (L.read 1 (L.after p [.int32])).1.bind fun retry =>
    (L.read 4 (L.after p [.int32, .byte])).1.map fun messageRef =>
      (format, byteAt retry 0, intAt messageRef 0, (L.read 4 (L.after p [.int32, .byte])).2)

/-- The arrays that are created before their elements are read -/
def stackArray : DispatchFunction → Option (StackArray L)
  | .dispatchStrings => stringsArray p
  | .dispatchDataCall => stringsArray (dataCallParcel env p)
  | .dispatchInts => intsArray p
  | .dispatchGsmBrSmsCnf => recordsArray p gsmBroadcastSmsConfigInfo
  | .dispatchCdmaBrSmsCnf => recordsArray p cdmaBroadcastSmsConfigInfo
  | .dispatchDataProfile => recordsArray p dataProfileInfo
  | .dispatchImsSms => (imsMessage p).bind fun m => if m.1 = radioTech3gpp then stringsArray m.2.2.2 else none
  | _ => none

end

/-! ### The formats -/

section

variable (s : ReadState L)

/-- All the fields are read, and the values that were read are passed on. -/
def FieldsFormat (fields : List Field) (data : RequestData) : Prop :=
  L.ReadsAll s.parcel (fields.map Field.kind) ∧ data = .parameters (s.fields fields).1

/-- Strings with their count in front: `NULL` for -1 -/
def StringsFormat (pass : Option Parameters → RequestData) (data : RequestData) : Prop :=
  ∃ count, (L.readInt32 s.parcel).1 = some count ∧ (count = -1 ∧ data = pass none ∨
    0 ≤ count.toInt ∧ L.ReadsAll s.readInt32.parcel (List.replicate count.toInt.toNat .string) ∧
      data = pass (some (s.readInt32.fields (List.replicate count.toInt.toNat (.string .pStrings))).1))

def IntsFormat (data : RequestData) : Prop :=
  ∃ count, (L.readInt32 s.parcel).1 = some count ∧ 0 < count.toInt ∧
    FieldsFormat s.readInt32 (List.replicate count.toInt.toNat (.int32 .pInts)) data

/-- A byte that keeps an int keeps all of it. -/
def FlagsWhole (p : L.Parcel) : List Field → Prop
  | [] => True
  | .flag _ :: fields =>
    (∀ v, (L.readInt32 p).1 = some v → (v.toUInt32.toUInt8.toNat : ℤ) = v.toInt) ∧ FlagsWhole (L.skip p .int32) fields
  | f :: fields => FlagsWhole (L.skip p f.kind) fields

def RecordsFormat (fields : List Field) (data : RequestData) : Prop :=
  ∃ count, (L.readInt32 s.parcel).1 = some count ∧ 0 ≤ count.toInt ∧
    L.ReadsAll s.readInt32.parcel (List.replicate count.toInt.toNat (fields.map Field.kind)).flatten ∧
    FlagsWhole s.readInt32.parcel (List.replicate count.toInt.toNat fields).flatten ∧
    data = .records (s.readInt32.records fields count.toInt.toNat).1

def UusFormat (uusInfo : Parameters × Option Bytes) : Prop :=
  let info := s.fields [.int32 .uusType, .int32 .uusDcs, .int32 .uusLength]
  L.ReadsAll s.parcel [.int32, .int32, .int32] ∧
    (info.2.t = -1 ∧ uusInfo = (info.1.dropLast ++ [(.uusLength, .int32 0)], none) ∨
      0 ≤ info.2.t.toInt ∧ ∃ uusData, (L.readInplace info.2.t.toInt.toNat info.2.parcel).1 = some uusData ∧
        uusInfo = (info.1, some uusData))

/-- Before version 3 there is no user-to-user information. -/
def DialFormat (data : RequestData) : Prop :=
  let dial := s.fields [.string .address, .int32 .clir]
  L.ReadsAll s.parcel [.string, .int32] ∧ (env.version < 3 ∧ data = .dial dial.1 none ∨
    3 ≤ env.version ∧ ∃ uusPresent, (L.readInt32 dial.2.parcel).1 = some uusPresent ∧
      (uusPresent = 0 ∧ data = .dial dial.1 none ∨
        uusPresent ≠ 0 ∧ ∃ uusInfo, UusFormat dial.2.readInt32 uusInfo ∧ data = .dial dial.1 (some uusInfo)))

/-- A length and that many bytes. A null array has the length -1. -/
def RawFormat (data : RequestData) : Prop :=
  ∃ len, (L.readInt32 s.parcel).1 = some len ∧ (len = -1 ∧ (data = .raw none ∨ data = .raw (some [])) ∨
    0 ≤ len.toInt ∧ ∃ bytes, (L.readInplace len.toInt.toNat (L.readInt32 s.parcel).2).1 = some bytes ∧
      data = .raw (some bytes))

/-- The reads of a CDMA message, which depend on the three counts in it -/
structure CdmaSmsBlock where
  numberOfDigits : UInt8
  subNumberOfDigits : UInt8
  uBearerDataLen : Int32
  fields : List Field

def cdmaSmsBlock : CdmaSmsBlock :=
  let head := s.fields cdmaSmsHead
  let digits := List.replicate (min head.2.ut.toNat rilCdmaSmsAddressMax) (.byte .digits)
  let sub := (head.2.fields digits).2.fields cdmaSmsSubaddress
  let subDigits := List.replicate (min sub.2.ut.toNat rilCdmaSmsSubaddressMax) (.byte .subDigits)
  let len := (sub.2.fields subDigits).2.field (.int32 .uBearerDataLen)
  { numberOfDigits := head.2.ut
    subNumberOfDigits := sub.2.ut
    uBearerDataLen := len.2.t
    fields := cdmaSmsHead ++ digits ++ cdmaSmsSubaddress ++ subDigits ++
      .int32 .uBearerDataLen :: List.replicate (bearerDataBytes len.2.t) (.byte .aBearerData) }

/-- The structure has room for all that the counts announce. -/
def CdmaSmsBlock.Fits (b : CdmaSmsBlock) : Prop :=
  b.numberOfDigits.toNat ≤ rilCdmaSmsAddressMax ∧ b.subNumberOfDigits.toNat ≤ rilCdmaSmsSubaddressMax ∧
    0 ≤ b.uBearerDataLen.toInt ∧ b.uBearerDataLen.toInt ≤ rilCdmaSmsBearerDataMax

def CdmaSmsFormat (pass : Parameters → RequestData) (data : RequestData) : Prop :=
  (cdmaSmsBlock s).Fits ∧ L.ReadsAll s.parcel ((cdmaSmsBlock s).fields.map Field.kind) ∧
    data = pass (s.fields (cdmaSmsBlock s).fields).1

def ImsSmsFormat (data : RequestData) : Prop :=
  ∃ format retry messageRef p, imsMessage s.parcel = some (format, retry, messageRef, p) ∧
    (format = radioTech3gpp ∧
        StringsFormat { s with parcel := p } (.imsSms radioTech3gpp.toInt retry messageRef) data ∨
      format = radioTech3gpp2 ∧
        CdmaSmsFormat { s with parcel := p } (fun m => .imsSms radioTech3gpp2.toInt retry messageRef (some m)) data)

/-- A RIL before version 4 gets six of the parameters. -/
def DataCallFormat (data : RequestData) : Prop :=
  if env.version < 4 ∧ numParamsRilV3 < ((L.readInt32 s.parcel).1.getD 0).toInt then
    FieldsFormat s.readInt32 (List.replicate numParamsRilV3 (.string .pStrings)) data
  else StringsFormat s (fun ss => ss.elim .null .parameters) data

/-- The data that a block in the format of its dispatch function stands for -/
def InFormat (data : RequestData) : DispatchFunction → Prop
  | .dispatchVoid | .dispatchVoiceRadioTech | .dispatchCdmaSubscriptionSource => data = .null
  | .dispatchString => L.Reads s.parcel .string ∧ data = .string (L.readString16 s.parcel).1
  | .dispatchStrings => StringsFormat s (fun ss => ss.elim .null .parameters) data
  | .dispatchInts => IntsFormat s data
  | .dispatchSmsWrite => FieldsFormat s [.int32 .status, .string .pdu, .string .smsc] data
  | .dispatchDial => DialFormat env s data
  | .dispatchSimIo => FieldsFormat s [.int32 .command, .int32 .fileid, .string .path, .int32 .p1, .int32 .p2, .int32 .p3,
      .string .data, .string .pin2, .string .aidPtr] data
  | .dispatchSimApdu => FieldsFormat s [.int32 .sessionid, .int32 .cla, .int32 .instruction, .int32 .p1, .int32 .p2,
      .int32 .p3, .string .data] data
  | .dispatchCallForward => ∃ ps, data = .parameters (ps.map emptyNumberToNull) ∧ FieldsFormat s [.int32 .status,
      .int32 .reason, .int32 .serviceClass, .int32 .toa, .string .number, .int32 .timeSeconds] (.parameters ps)
  | .dispatchRaw => RawFormat s data
  | .dispatchCdmaSms => CdmaSmsFormat s .parameters data
  | .dispatchImsSms => ImsSmsFormat s data
  | .dispatchCdmaSmsAck => FieldsFormat s [.int32 .uErrorClass, .int32 .uSMSCauseCode] data
  | .dispatchGsmBrSmsCnf => RecordsFormat s gsmBroadcastSmsConfigInfo data
  | .dispatchCdmaBrSmsCnf => RecordsFormat s cdmaBroadcastSmsConfigInfo data
  | .dispatchRilCdmaSmsWriteArgs => FieldsFormat s cdmaSmsWriteArgs data
  | .dispatchDataCall => DataCallFormat env s data
  | .dispatchSetInitialAttachApn => FieldsFormat s [.string .apn, .string .protocol, .int32 .authtype, .string .username,
      .string .password] data
  | .dispatchNVReadItem => FieldsFormat s [.int32 .itemID] data
  | .dispatchNVWriteItem => FieldsFormat s [.int32 .itemID, .string .value] data
  | .dispatchUiccSubscripton => FieldsFormat s [.int32 .slot, .int32 .appIndex, .int32 .subType, .int32 .actStatus] data
  | .dispatchSimAuthentication => FieldsFormat s [.int32 .authContext, .string .authData, .string .aid] data
  | .dispatchDataProfile => RecordsFormat s dataProfileInfo data

/-- What is passed on was read as a whole, and an array is created only for a count that the parcel holds. -/
structure AllOrNothing (f : DispatchFunction) (es : List Effect) : Prop where
  passed : ∀ n data, .onRequest n data ∈ es → InFormat env s data f
  stored : ∀ a, stackArray env s.parcel f = some a → a.Held

end

end Ril.Libril
