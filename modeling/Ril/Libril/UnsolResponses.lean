import Mathlib.Data.List.Forall2
import Ril.Libril.Dispatch
import Ril.Libril.HardwareConfigs
import Ril.Libril.UnsolTable

/-! The functions that marshal only unsolicited responses, and what is read back of their CDMA messages and records. -/

namespace Ril.Libril

open Lib Ril.Ipc

/-! ### The structures of `ril.h` and `ril_cdma_sms.h` -/

section

open CType

def rilSuppSvcNotificationLayout : List CType := [int, int, int, int, pointer]

def rilCdmaSignalInfoRecordLayout : List CType := List.replicate 4 char

def rilCdmaCallWaitingV6Layout : List CType := [pointer, int, pointer, block 4 1, int, int]

def rilSimRefreshResponseV7Layout : List CType := [int, int, pointer]

def rilCdmaSmsAddressLayout : List CType := [int, int, int, int, unsignedChar, block rilCdmaSmsAddressMax 1]

def rilCdmaSmsSubaddressLayout : List CType := [int, unsignedChar, unsignedChar, block rilCdmaSmsSubaddressMax 1]

def rilCdmaSmsMessageLayout (width : PointerWidth) : List CType :=
  [int, unsignedChar, int, block (structSize width rilCdmaSmsAddressLayout) 4,
    block (structSize width rilCdmaSmsSubaddressLayout) 4, int, block rilCdmaSmsBearerDataMax 1]

def cdmaAlphaInfoBufferLength : ℕ := 64

def cdmaNumberInfoBufferLength : ℕ := 81

def rilCdmaNumberInfoRecordLayout : List CType := [char, block cdmaNumberInfoBufferLength 1, char, char, char, char]

def rilCdmaRedirectingNumberInfoRecordLayout (width : PointerWidth) : List CType :=
  [block (structSize width rilCdmaNumberInfoRecordLayout) 1, int]

/-- The largest member of the union is the redirecting number. -/
def rilCdmaInformationRecordLayout (width : PointerWidth) : List CType :=
  [int, block (structSize width (rilCdmaRedirectingNumberInfoRecordLayout width)) 4]

def rilCdmaMaxNumberOfInfoRecs : ℕ := 10

def rilCdmaInformationRecordsLayout (width : PointerWidth) : List CType :=
  [char, block (rilCdmaMaxNumberOfInfoRecs * structSize width (rilCdmaInformationRecordLayout width)) 4]

end

namespace MarshalEnv

variable (env : MarshalEnv)

def char (address : ℕ) : Int32 :=
  if env.signedChar then (env.memory.cells address).toInt8.toInt32 else Int32.ofNat (env.memory.cells address).toNat

def byte (address : ℕ) : UInt8 := env.memory.cells address

/-- Bytes that are written one by one -/
def byteWrites (address count : ℕ) : List ParcelWrite :=
  (env.memory.bytes address count).map fun b => .write [b]

/-- A copy of so many chars, as far as it has no zero -/
def text (address count : ℕ) : CString := (env.memory.bytes address count).takeWhile (· != 0)

end MarshalEnv

/-! ### Marshalling -/

section

variable (env : MarshalEnv) (response responselen : ℕ)

def responseSsn : Marshalled := responseStruct env response responselen rilSuppSvcNotificationLayout [0, 1, 2, 3, 4]

def marshallSignalInfoRecord (address : ℕ) : List ParcelWrite :=
  env.members rilCdmaSignalInfoRecordLayout [0, 1, 2, 3] address

def responseCdmaSignalInfoRecord : Marshalled :=
  if response = 0 ∨ responselen = 0 then invalidResponse
  else if responselen ≠ env.sizeOf rilCdmaSignalInfoRecordLayout then invalidResponse
  else ⟨marshallSignalInfoRecord env response, 0⟩

def responseCallRing : Marshalled :=
  if response = 0 ∨ responselen = 0 then responseVoid else responseCdmaSignalInfoRecord env response responselen

/-- `none` where the structure is read through `NULL`: with the length 0 the pointer is not tested. -/
def responseCdmaCallWaiting : Option Marshalled :=
  let layout := rilCdmaCallWaitingV6Layout
  if response = 0 ∧ responselen ≠ 0 then some invalidResponse
  else if response = 0 then none
  else
    some ⟨env.members layout [0, 1, 2] response ++
      marshallSignalInfoRecord env (response + memberOffset env.width layout 3) ++
      if responselen ≥ env.sizeOf layout then env.members layout [4, 5] response else [.int32 0, .int32 0], 0⟩

def responseSimRefresh : Option Marshalled :=
  if response = 0 ∧ responselen ≠ 0 then some invalidResponse
  else if response = 0 then none
  else if env.version = 7 then some ⟨env.members rilSimRefreshResponseV7Layout [0, 1, 2] response, 0⟩
  else some ⟨[.int32 (env.int response), .int32 (env.int (response + 4)), .string16 none], 0⟩

def marshalCdmaSmsAddress (address : ℕ) : List ParcelWrite :=
  let offset := memberOffset env.width rilCdmaSmsAddressLayout
  let numberOfDigits := env.byte (address + offset 4)
  [0, 1, 2, 3].map (fun i => .int32 (env.int (address + offset i))) ++ .write [numberOfDigits] ::
    env.byteWrites (address + offset 5) (min numberOfDigits.toNat rilCdmaSmsAddressMax)

def marshalCdmaSmsSubaddress (address : ℕ) : List ParcelWrite :=
  let offset := memberOffset env.width rilCdmaSmsSubaddressLayout
  let numberOfDigits := env.byte (address + offset 2)
  .int32 (env.int address) :: .write [env.byte (address + offset 1)] :: .write [numberOfDigits] ::
    env.byteWrites (address + offset 3) (min numberOfDigits.toNat rilCdmaSmsSubaddressMax)

/-- The length is sent as it is, and no more data than the structure has room for. -/
def marshalCdmaSms : List ParcelWrite :=
  let offset := memberOffset env.width (rilCdmaSmsMessageLayout env.width)
  let uBearerDataLen := env.int (response + offset 5)
  .int32 (env.int response) :: .write [env.byte (response + offset 1)] :: .int32 (env.int (response + offset 2)) ::
    (marshalCdmaSmsAddress env (response + offset 3) ++ marshalCdmaSmsSubaddress env (response + offset 4) ++
      .int32 uBearerDataLen :: env.byteWrites (response + offset 6) (bearerDataBytes uBearerDataLen))

def responseCdmaSms : Marshalled :=
  if response = 0 ∧ responselen ≠ 0 then invalidResponse
  else if responselen ≠ env.sizeOf (rilCdmaSmsMessageLayout env.width) then invalidResponse
  else ⟨marshalCdmaSms env response, 0⟩

/-- A string with its length in front. `none` for a negative length: the copy ends before its block begins. -/
def marshalInfoText (address bufferLength : ℕ) (more : List ParcelWrite) : Option Marshalled :=
  let len := env.char address
  if len.toInt > bufferLength then some invalidResponse
  else if len.toInt < 0 then none
  else some ⟨.string16 (some (env.strdup8to16 (env.text (address + 1) len.toInt.toNat))) :: more, 0⟩

def marshalNumberInfo (address : ℕ) (more : List ParcelWrite) : Option Marshalled :=
  marshalInfoText env address cdmaNumberInfoBufferLength
    (env.members rilCdmaNumberInfoRecordLayout [2, 3, 4, 5] address ++ more)

/-- Where the union of a record begins -/
def infoRec (address : ℕ) : ℕ := address + memberOffset env.width (rilCdmaInformationRecordLayout env.width) 1

/-- By the name of the record. The release record is refused like the ones that are not known. -/
def marshalInfoRec (address : ℕ) : Option Marshalled :=
  let name := env.int address
  let record := infoRec env address
  let redir := rilCdmaRedirectingNumberInfoRecordLayout env.width
  let chars (n : ℕ) : List ParcelWrite := (List.range n).map fun i => .int32 (env.char (record + i))
  Option.map (Marshalled.after · [.int32 name]) <|
    if name = 0 ∨ name = 7 then marshalInfoText env record cdmaAlphaInfoBufferLength []
    else if name = 1 ∨ name = 2 ∨ name = 3 then marshalNumberInfo env record []
    else if name = 4 then some ⟨chars 4, 0⟩
    else if name = 5 then marshalNumberInfo env record (env.members redir [1] record)
    else if name = 6 then some ⟨chars 4, 0⟩
    else if name = 8 then some ⟨chars 1, 0⟩
    else if name = 10 then some ⟨chars 2, 0⟩
    else some invalidResponse

/-- Until the first one that is refused -/
def marshalInfoRecs : List ℕ → Option Marshalled
  | [] => some ⟨[], 0⟩
  | address :: addresses =>
    (marshalInfoRec env address).bind fun m =>
      if m.ret ≠ 0 then some m else (marshalInfoRecs addresses).map (·.after m.writes)

def numberOfInfoRecs : Int32 := Int32.ofInt (min (env.char response).toInt rilCdmaMaxNumberOfInfoRecs)

def infoRecAddresses : List ℕ :=
  (List.range (numberOfInfoRecs env response).toInt.toNat).map fun i =>
    response + memberOffset env.width (rilCdmaInformationRecordsLayout env.width) 1 +
      i * env.sizeOf (rilCdmaInformationRecordLayout env.width)

def responseCdmaInformationRecords : Option Marshalled :=
  if response = 0 ∧ responselen ≠ 0 then some invalidResponse
  else if responselen ≠ env.sizeOf (rilCdmaInformationRecordsLayout env.width) then some invalidResponse
  else
    (marshalInfoRecs env (infoRecAddresses env response)).map (·.after [.int32 (numberOfInfoRecs env response)])

end

/-- `none` where the behaviour is undefined -/
def UnsolResponseFunction.marshal (env : MarshalEnv) (response responselen : ℕ) :
    UnsolResponseFunction → Option Marshalled
  | responseVoid => some Libril.responseVoid
  | responseString => some (Libril.responseString env response)
  | responseInts => some (Libril.responseInts env response responselen)
  | responseStrings => some (Libril.responseStrings env response responselen)
  | responseRilSignalStrength => some (Libril.responseRilSignalStrength env response responselen)
  | responseDataCallList => some (Libril.responseDataCallList env response responselen)
  | responseSsn => some (Libril.responseSsn env response responselen)
  | responseSimRefresh => Libril.responseSimRefresh env response responselen
  | responseCallRing => some (Libril.responseCallRing env response responselen)
  | responseCdmaSms => some (Libril.responseCdmaSms env response responselen)
  | responseRaw => some (Libril.responseRaw env response responselen)
  | responseCdmaCallWaiting => Libril.responseCdmaCallWaiting env response responselen
  | responseCdmaInformationRecords => Libril.responseCdmaInformationRecords env response responselen
  | responseCellInfoList => some (Libril.responseCellInfoList env response responselen)
  | responseHardwareConfig => some (Libril.responseHardwareConfig env response responselen)
  | responseDcRtInfo => some (Libril.responseDcRtInfo env response responselen)

/-! ### CDMA messages -/

/-- A field that is sent and read as an int, or as a byte -/
inductive BlockItem
  | int32 (name : Parameter) (v : Int32)
  | byte (name : Parameter) (b : UInt8)
deriving DecidableEq, Repr

namespace BlockItem

def field : BlockItem → Field
  | int32 name _ => .int32 name
  | byte name _ => .byte name

def write : BlockItem → ParcelWrite
  | int32 _ v => .int32 v
  | byte _ b => .write [b]

def parameter : BlockItem → Parameter × Value
  | int32 name v => (name, .int32 v)
  | byte name b => (name, .byte b)

/-- The variables that the read fills -/
def vars (v : Int32 × UInt8) : BlockItem → Int32 × UInt8
  | int32 _ t => (t, v.2)
  | byte _ ut => (v.1, ut)

def blockBytes (items : List BlockItem) : Bytes := ((items.map write).map ParcelWrite.bytes).flatten

end BlockItem

/-- The counts limit how much of the arrays is used. -/
structure CdmaSmsMessage where
  uTeleserviceID : Int32
  bIsServicePresent : UInt8
  uServicecategory : Int32
  digitMode : Int32
  numberMode : Int32
  numberType : Int32
  numberPlan : Int32
  numberOfDigits : UInt8
  digits : Bytes
  subaddressType : Int32
  odd : UInt8
  subNumberOfDigits : UInt8
  subDigits : Bytes
  uBearerDataLen : Int32
  aBearerData : Bytes
  digits_length : digits.length = min numberOfDigits.toNat rilCdmaSmsAddressMax
  sub_digits_length : subDigits.length = min subNumberOfDigits.toNat rilCdmaSmsSubaddressMax
  data_length : aBearerData.length = bearerDataBytes uBearerDataLen

namespace CdmaSmsMessage

open BlockItem

variable (m : CdmaSmsMessage)

def head : List BlockItem :=
  [.int32 .uTeleserviceID m.uTeleserviceID, .byte .bIsServicePresent m.bIsServicePresent,
    .int32 .uServicecategory m.uServicecategory, .int32 .digitMode m.digitMode, .int32 .numberMode m.numberMode,
    .int32 .numberType m.numberType, .int32 .numberPlan m.numberPlan, .byte .numberOfDigits m.numberOfDigits]

def subaddress : List BlockItem :=
  [.int32 .subaddressType m.subaddressType, .byte .odd m.odd, .byte .subNumberOfDigits m.subNumberOfDigits]

def addresses : List BlockItem :=
  m.head ++ (m.digits.map (.byte .digits) ++ (m.subaddress ++ m.subDigits.map (.byte .subDigits)))

def data : List BlockItem := .int32 .uBearerDataLen m.uBearerDataLen :: m.aBearerData.map (.byte .aBearerData)

def items : List BlockItem := m.addresses ++ m.data

def parameters : Parameters := m.items.map BlockItem.parameter

/-- The message that stands in the memory -/
def read (env : MarshalEnv) (response : ℕ) : CdmaSmsMessage :=
  let offset := memberOffset env.width (rilCdmaSmsMessageLayout env.width)
  let address := response + offset 3
  let addressOffset := memberOffset env.width rilCdmaSmsAddressLayout
  let subaddress := response + offset 4
  let subaddressOffset := memberOffset env.width rilCdmaSmsSubaddressLayout
  { uTeleserviceID := env.int response
    bIsServicePresent := env.byte (response + offset 1)
    uServicecategory := env.int (response + offset 2)
    digitMode := env.int (address + addressOffset 0)
    numberMode := env.int (address + addressOffset 1)
    numberType := env.int (address + addressOffset 2)
    numberPlan := env.int (address + addressOffset 3)
    numberOfDigits := env.byte (address + addressOffset 4)
    digits := env.memory.bytes (address + addressOffset 5)
      (min (env.byte (address + addressOffset 4)).toNat rilCdmaSmsAddressMax)
    subaddressType := env.int subaddress
    odd := env.byte (subaddress + subaddressOffset 1)
    subNumberOfDigits := env.byte (subaddress + subaddressOffset 2)
    subDigits := env.memory.bytes (subaddress + subaddressOffset 3)
      (min (env.byte (subaddress + subaddressOffset 2)).toNat rilCdmaSmsSubaddressMax)
    uBearerDataLen := env.int (response + offset 5)
    aBearerData := env.memory.bytes (response + offset 6) (bearerDataBytes (env.int (response + offset 5)))
    digits_length := cells_at_length _ _ _
    sub_digits_length := cells_at_length _ _ _
    data_length := cells_at_length _ _ _ }

lemma marshal_read (env : MarshalEnv) (response : ℕ) :
    marshalCdmaSms env response = (read env response).items.map BlockItem.write := by
  have hbytes (name : Parameter) (bs : Bytes) : (bs.map (BlockItem.byte name)).map BlockItem.write =
      bs.map fun b => .write [b] := by
    rw [List.map_map]
    rfl
  simp only [items, addresses, data, List.map_append, List.map_cons, hbytes]
  simp only [marshalCdmaSms, marshalCdmaSmsAddress, marshalCdmaSmsSubaddress, MarshalEnv.byteWrites, List.append_assoc,
    List.cons_append]
  rfl

end CdmaSmsMessage

/-- What is relied on in the parcels of the binder library: an int and a byte are read off the bytes ahead. A byte takes
a whole word. -/
structure ParcelLib.Carries (L : ParcelLib) (ahead : L.Parcel → Bytes) : Prop where
  int32 : ∀ p v rest, ahead p = int32Bytes v ++ rest → (L.readInt32 p).1 = some v ∧ ahead (L.readInt32 p).2 = rest
  byte : ∀ p b rest, ahead p = padded [b] ++ rest → (L.read 1 p).1 = some [b] ∧ ahead (L.read 1 p).2 = rest

/-- What the reads of a block leave -/
structure BlockRead {L : ParcelLib} (ahead : L.Parcel → Bytes) (s : ReadState L) (items : List BlockItem) (rest : Bytes) :
    Prop where
  parameters : (s.fields (items.map BlockItem.field)).1 = items.map BlockItem.parameter
  ahead : ahead (s.fields (items.map BlockItem.field)).2.parcel = rest
  status : items ≠ [] → (s.fields (items.map BlockItem.field)).2.status = true
  vars : ((s.fields (items.map BlockItem.field)).2.t, (s.fields (items.map BlockItem.field)).2.ut) =
    items.foldl BlockItem.vars (s.t, s.ut)

section

variable {L : ParcelLib} {ahead : L.Parcel → Bytes} {s : ReadState L} {item : BlockItem} {items : List BlockItem}
  {rest : Bytes}

lemma item_read (hL : L.Carries ahead) (h : ahead s.parcel = item.write.bytes ++ rest) :
    (s.field item.field).1 = item.parameter ∧ ahead (s.field item.field).2.parcel = rest ∧
      (s.field item.field).2.status = true ∧
      ((s.field item.field).2.t, (s.field item.field).2.ut) = item.vars (s.t, s.ut) := by
  cases item with
  | int32 name v =>
    obtain ⟨hv, hrest⟩ := hL.int32 s.parcel v rest h
    have ht : s.readInt32.t = v := by rw [ReadState.readInt32, hv]; rfl
    refine ⟨?_, hrest, ?_, ?_⟩
    · rw [BlockItem.field, ReadState.field, ht]
      rfl
    · exact congrArg Option.isSome hv
    · rw [BlockItem.field, ReadState.field, BlockItem.vars]
      exact Prod.ext ht rfl
  | byte name b =>
    obtain ⟨hb, hrest⟩ := hL.byte s.parcel b rest h
    have hut : s.readByte.ut = b := by rw [ReadState.readByte, hb]; rfl
    refine ⟨?_, hrest, ?_, ?_⟩
    · rw [BlockItem.field, ReadState.field, hut]
      rfl
    · exact congrArg Option.isSome hb
    · rw [BlockItem.field, ReadState.field, BlockItem.vars]
      exact Prod.ext rfl hut

lemma block_bytes_append (items items' : List BlockItem) :
    BlockItem.blockBytes (items ++ items') = BlockItem.blockBytes items ++ BlockItem.blockBytes items' := by
  rw [BlockItem.blockBytes, List.map_append, List.map_append, List.flatten_append]
  rfl

lemma block_bytes_cons (item : BlockItem) (items : List BlockItem) :
    BlockItem.blockBytes (item :: items) = item.write.bytes ++ BlockItem.blockBytes items := rfl

lemma block_read (hL : L.Carries ahead) (items : List BlockItem) (s : ReadState L)
    (h : ahead s.parcel = BlockItem.blockBytes items ++ rest) : BlockRead ahead s items rest := by
  induction items generalizing s with
  | nil => exact ⟨rfl, h, fun hn => absurd rfl hn, rfl⟩
  | cons item items ih =>
    have hcons : ahead s.parcel = item.write.bytes ++ (BlockItem.blockBytes items ++ rest) := by
      rw [h, block_bytes_cons, List.append_assoc]
    obtain ⟨hp, hahead, hstatus, hvars⟩ := item_read hL hcons
    obtain ⟨hps, hrest, hstatus', hvars'⟩ := ih _ hahead
    refine ⟨?_, hrest, fun _ => ?_, ?_⟩
    · rw [List.map_cons, ReadState.fields, hp, hps]
      rfl
    · cases items with
      | nil => exact hstatus
      | cons item' items => exact hstatus' (List.cons_ne_nil _ _)
    · rw [List.foldl_cons, ← hvars]
      exact hvars'

lemma byte_fields (name : Parameter) (bs : Bytes) :
    (bs.map (BlockItem.byte name)).map BlockItem.field = List.replicate bs.length (.byte name) := by
  rw [List.map_map]
  exact List.map_const'

/-- The counts that are read are those of the message, so that as many digits are read as were sent. -/
lemma read_cdma_addresses_sent (hL : L.Carries ahead) (m : CdmaSmsMessage)
    (h : ahead s.parcel = BlockItem.blockBytes m.addresses ++ rest) :
    (readCdmaAddresses s).1 = m.addresses.map BlockItem.parameter ∧ ahead (readCdmaAddresses s).2.parcel = rest := by
  simp only [CdmaSmsMessage.addresses, block_bytes_append, List.append_assoc] at h
  have hfields : m.head.map BlockItem.field = cdmaSmsHead := rfl
  have hsubfields : m.subaddress.map BlockItem.field = cdmaSmsSubaddress := rfl
  obtain ⟨hp, h, -, hvars⟩ := block_read hL m.head s h
  rw [hfields] at hp h hvars
  have hdigits : (s.fields cdmaSmsHead).2.ut = m.numberOfDigits := congrArg Prod.snd hvars
  obtain ⟨hpd, h, -, -⟩ := block_read hL _ _ h
  rw [byte_fields, m.digits_length, ← hdigits] at hpd h
  obtain ⟨hps, h, -, hvars⟩ := block_read hL m.subaddress _ h
  rw [hsubfields] at hps h hvars
  have hsub := congrArg Prod.snd hvars
  dsimp only [CdmaSmsMessage.subaddress, List.foldl_cons, List.foldl_nil, BlockItem.vars] at hsub
  obtain ⟨hpsd, h, -, -⟩ := block_read hL _ _ h
  rw [byte_fields, m.sub_digits_length, ← hsub] at hpsd h
  refine ⟨?_, h⟩
  simp only [CdmaSmsMessage.addresses, List.map_append, ← hp, ← hpd, ← hps, ← hpsd]
  rw [readCdmaAddresses, List.append_assoc, List.append_assoc]

lemma construct_cdma_sms_sent (hL : L.Carries ahead) (m : CdmaSmsMessage)
    (h : ahead s.parcel = BlockItem.blockBytes m.items ++ rest) : constructCdmaSms s = some m.parameters := by
  rw [CdmaSmsMessage.items, block_bytes_append, List.append_assoc] at h
  obtain ⟨hp, h⟩ := read_cdma_addresses_sent hL m h
  obtain ⟨hpd, -, hstatus, -⟩ := block_read hL _ _ h
  have hlen : ((readCdmaAddresses s).2.field (.int32 .uBearerDataLen)).2.t = m.uBearerDataLen := by
    rw [CdmaSmsMessage.data, block_bytes_cons, List.append_assoc] at h
    exact congrArg Prod.fst (item_read hL h).2.2.2
  have hfields : m.data.map BlockItem.field =
      .int32 .uBearerDataLen :: List.replicate (bearerDataBytes m.uBearerDataLen) (.byte .aBearerData) := by
    rw [CdmaSmsMessage.data, List.map_cons, byte_fields, m.data_length]
    rfl
  have hok := hstatus (List.cons_ne_nil _ _)
  rw [hfields, ← hlen] at hok hpd
  rw [constructCdmaSms, CdmaSmsMessage.parameters, CdmaSmsMessage.items, List.map_append, ← hp, ← hpd]
  exact if_pos hok

end

/-- A message that is sent as an unsolicited response and comes back as a command reaches the RIL as it stood in the
memory, with as many digits and as much data as the structures have room for. -/
theorem cdma_sms_read_back (L : ParcelLib) (ahead : L.Parcel → Bytes) (hL : L.Carries ahead) (env : MarshalEnv)
    (response : ℕ) (hresponse : response ≠ 0) (n : ℤ) (s : ReadState L) (rest : Bytes)
    (h : ahead s.parcel =
      (responseCdmaSms env response (env.sizeOf (rilCdmaSmsMessageLayout env.width))).bytes ++ rest) :
    dispatchCdmaSms n s = [.onRequest n (.parameters (CdmaSmsMessage.read env response).parameters)] := by
  have hbytes : (responseCdmaSms env response (env.sizeOf (rilCdmaSmsMessageLayout env.width))).bytes =
      BlockItem.blockBytes (CdmaSmsMessage.read env response).items := by
    rw [responseCdmaSms, if_neg fun hnull => hresponse hnull.1, if_neg (not_not.mpr rfl), Marshalled.bytes,
      CdmaSmsMessage.marshal_read, BlockItem.blockBytes]
  rw [hbytes] at h
  rw [dispatchCdmaSms, construct_cdma_sms_sent hL _ h]
  rfl

/-- Parcels of bytes of which each read takes whole words -/
def wordParcels : ParcelLib :=
  { byteParcels with
    readInt32 p := (if p.length < 4 then none else
      some (Int32.ofUInt32 (UInt32.ofNat (numberOfBytes (p.take 4)))), p.drop 4)
    read n p := (if p.length < n then none else some (p.take n), p.drop (alignUp n 4)) }

lemma word_parcels_carry : wordParcels.Carries id where
  int32 := by
    rintro p v rest rfl
    have hlength : (int32Bytes v).length = 4 := int32_bytes_length v
    have hlt := v.toUInt32.toNat_lt
    have htake : (int32Bytes v ++ rest).take 4 = int32Bytes v := List.take_left' hlength
    have hnumber : numberOfBytes (int32Bytes v) = v.toUInt32.toNat := by
      rw [int32Bytes, number_of_bytes]
      exact Nat.mod_eq_of_lt hlt
    refine ⟨?_, List.drop_left' hlength⟩
    dsimp only [wordParcels, id]
    rw [if_neg (by rw [List.length_append]; omega), htake, hnumber, UInt32.ofNat_toNat]
  byte := by
    rintro p b rest rfl
    have hpadded : padded [b] = [b, 0, 0, 0] := by simp [padded, alignUp]
    have hread : wordParcels.read 1 ([b, 0, 0, 0] ++ rest) = (some [b], rest) := by
      dsimp only [wordParcels]
      rw [if_neg (by simp)]
      rfl
    rw [hpadded]
    exact ⟨congrArg Prod.fst hread, congrArg Prod.snd hread⟩

/-- A page with a message of the teleservice 2, with three digits and two bytes of data -/
def cdmaSmsEnv : MarshalEnv :=
  { emptyEnv 6 with
    memory := ⟨storeAt (storeAt (storeAt (storeAt (fun _ => 0) 4096 [2, 16]) (4096 + 28) [3, 5, 6, 7]) (4096 + 112) [2])
      (4096 + 116) [8, 9], 8192⟩ }

theorem cdma_sms_read_back_digits :
    dispatchCdmaSms 81 (⟨(responseCdmaSms cdmaSmsEnv 4096
        (cdmaSmsEnv.sizeOf (rilCdmaSmsMessageLayout cdmaSmsEnv.width))).bytes, true, 0, 0⟩ : ReadState wordParcels) =
      [.onRequest 81 (.parameters (CdmaSmsMessage.read cdmaSmsEnv 4096).parameters)] ∧
    (CdmaSmsMessage.read cdmaSmsEnv 4096).digits = [5, 6, 7] := by
  refine ⟨cdma_sms_read_back wordParcels id word_parcels_carry cdmaSmsEnv 4096 (by decide) 81 _ [] ?_, by decide⟩
  rw [List.append_nil]
  rfl

/-! ### CDMA information records -/

/-- By the name of a record, whether it has a text, and how many numbers -/
def infoRecShape (name : Int32) : Option (Bool × ℕ) :=
  if name = 0 ∨ name = 7 then some (true, 0)
  else if name = 1 ∨ name = 2 ∨ name = 3 then some (true, 4)
  else if name = 4 then some (false, 4)
  else if name = 5 then some (true, 5)
  else if name = 6 then some (false, 4)
  else if name = 8 then some (false, 1)
  else if name = 10 then some (false, 2)
  else none

structure CdmaInfoRec where
  name : Int32
  text : Option CString
  numbers : List Int32
  shape : infoRecShape name = some (text.isSome, numbers.length)

namespace CdmaInfoRec

variable (env : MarshalEnv)

def writes (r : CdmaInfoRec) : List ParcelWrite :=
  .int32 r.name :: (r.text.toList.map fun t => .string16 (some (env.strdup8to16 t))) ++ r.numbers.map .int32

def bytes (r : CdmaInfoRec) : Bytes := ((r.writes env).map ParcelWrite.bytes).flatten

end CdmaInfoRec

section

variable {env : MarshalEnv} {texts : Set CString} {r r' : CdmaInfoRec} {rest rest' : Bytes}

lemma info_rec_bytes_eq (r : CdmaInfoRec) : r.bytes env = int32Bytes r.name ++
    ((r.text.toList.flatMap fun t => stringBytes (env.strdup8to16 t)) ++ r.numbers.flatMap int32Bytes) := by
  rw [CdmaInfoRec.bytes, CdmaInfoRec.writes, List.cons_append, List.map_cons, List.flatten_cons, List.map_append,
    List.flatten_append, List.map_map, List.map_map, List.flatMap_def, List.flatMap_def]
  rfl

lemma numbers_append_inj {vs ws : List Int32} (hlength : vs.length = ws.length)
    (h : vs.flatMap int32Bytes ++ rest = ws.flatMap int32Bytes ++ rest') : vs = ws ∧ rest = rest' := by
  induction vs generalizing ws with
  | nil =>
    obtain rfl := List.length_eq_zero_iff.mp hlength.symm
    exact ⟨rfl, h⟩
  | cons v vs ih =>
    obtain ⟨w, ws, rfl⟩ := List.exists_cons_of_length_eq_add_one hlength.symm
    rw [List.flatMap_cons, List.flatMap_cons, List.append_assoc, List.append_assoc] at h
    obtain ⟨hv, hvs⟩ := int32_append_inj h
    obtain ⟨rfl, hrest⟩ := ih (Nat.succ.inj hlength) hvs
    exact ⟨congrArg (· :: vs) hv, hrest⟩

/-- The strings are converted one to one, and to an `int` of characters. -/
structure OneToOne (env : MarshalEnv) (texts : Set CString) : Prop where
  injective : Set.InjOn env.strdup8to16 texts
  short : ∀ t ∈ texts, (env.strdup8to16 t).length < 2 ^ 31

/-- The name tells what follows, so that a record ends in one place only. -/
lemma info_rec_append_inj (htexts : OneToOne env texts) (hr : ∀ t ∈ r.text, t ∈ texts) (hr' : ∀ t ∈ r'.text, t ∈ texts)
    (h : r.bytes env ++ rest = r'.bytes env ++ rest') : r = r' ∧ rest = rest' := by
  obtain ⟨name, text, numbers, shape⟩ := r
  obtain ⟨name', text', numbers', shape'⟩ := r'
  rw [info_rec_bytes_eq, info_rec_bytes_eq, List.append_assoc, List.append_assoc, List.append_assoc,
    List.append_assoc] at h
  obtain ⟨hname, h⟩ := int32_append_inj h
  obtain rfl : name = name' := hname
  obtain ⟨hsome, hlength⟩ := Prod.ext_iff.mp (Option.some.inj (shape.symm.trans shape'))
  cases text with
  | none =>
    obtain rfl : text' = none := by simpa using hsome.symm
    obtain ⟨rfl, hrest⟩ := numbers_append_inj hlength h
    exact ⟨rfl, hrest⟩
  | some t =>
    obtain ⟨t', rfl⟩ : ∃ t', text' = some t' := Option.isSome_iff_exists.mp hsome.symm
    have ht := hr t rfl
    have ht' := hr' t' rfl
    dsimp only [Option.toList_some] at h
    simp only [List.flatMap_cons, List.flatMap_nil, List.append_nil] at h
    obtain ⟨hstring, hnumbers⟩ := string_append_inj (htexts.short t ht) (htexts.short t' ht') h
    obtain rfl := htexts.injective ht ht' hstring
    obtain ⟨rfl, hrest⟩ := numbers_append_inj hlength hnumbers
    exact ⟨rfl, hrest⟩

lemma info_recs_inj (htexts : OneToOne env texts) {rs rs' : List CdmaInfoRec} (hlength : rs.length = rs'.length)
    (hrs : ∀ r ∈ rs, ∀ t ∈ r.text, t ∈ texts) (hrs' : ∀ r ∈ rs', ∀ t ∈ r.text, t ∈ texts)
    (h : rs.flatMap (CdmaInfoRec.bytes env) = rs'.flatMap (CdmaInfoRec.bytes env)) : rs = rs' := by
  induction rs generalizing rs' with
  | nil => exact (List.length_eq_zero_iff.mp hlength.symm).symm
  | cons r rs ih =>
    obtain ⟨r', rs', rfl⟩ := List.exists_cons_of_length_eq_add_one hlength.symm
    rw [List.flatMap_cons, List.flatMap_cons] at h
    obtain ⟨hr, hmore⟩ := info_rec_append_inj htexts (hrs r List.mem_cons_self) (hrs' r' List.mem_cons_self) h
    rw [hr, ih (Nat.succ.inj hlength) (fun r hr => hrs r (List.mem_cons_of_mem _ hr))
      (fun r hr => hrs' r (List.mem_cons_of_mem _ hr)) hmore]

end

/-! ### The records of the memory -/

/-- The room that there is for the text of a record -/
def infoTextLength (name : Int32) : ℕ :=
  if name = 0 ∨ name = 7 then cdmaAlphaInfoBufferLength else cdmaNumberInfoBufferLength

/-- The text at an address, of which the length is not negative and fits in its array -/
structure InfoTextAt (env : MarshalEnv) (address bufferLength : ℕ) (t : CString) : Prop where
  nonneg : 0 ≤ (env.char address).toInt
  fits : (env.char address).toInt ≤ bufferLength
  text : t = env.text (address + 1) (env.char address).toInt.toNat

def infoRecNumbers (env : MarshalEnv) (name : Int32) (record : ℕ) : List Int32 :=
  let number := [2, 3, 4, 5].map fun i => env.char (record + memberOffset env.width rilCdmaNumberInfoRecordLayout i)
  if name = 1 ∨ name = 2 ∨ name = 3 then number
  else if name = 5 then
    number ++ [env.int (record + memberOffset env.width (rilCdmaRedirectingNumberInfoRecordLayout env.width) 1)]
  else (List.range ((infoRecShape name).elim 0 Prod.snd)).map fun i => env.char (record + i)

/-- The record stands at the address, its union behind its name. -/
structure CdmaInfoRec.At (env : MarshalEnv) (address : ℕ) (r : CdmaInfoRec) : Prop where
  name : r.name = env.int address
  text : ∀ t ∈ r.text, InfoTextAt env (infoRec env address) (infoTextLength r.name) t
  numbers : r.numbers = infoRecNumbers env r.name (infoRec env address)

section

variable {env : MarshalEnv} {address bufferLength : ℕ} {name : Int32} {numbers : List Int32} {m : Marshalled}
  {more : List ParcelWrite}

lemma marshal_info_text_iff : (marshalInfoText env address bufferLength more = some m ∧ m.ret = 0) ↔
    ∃ t, InfoTextAt env address bufferLength t ∧ m = ⟨.string16 (some (env.strdup8to16 t)) :: more, 0⟩ := by
  rw [marshalInfoText]
  constructor
  · rintro ⟨h, hret⟩
    split at h
    · obtain rfl := Option.some.inj h
      exact absurd hret (by decide)
    · rename_i hfits
      split at h
      · cases h
      · rename_i hnonneg
        exact ⟨_, ⟨not_lt.mp hnonneg, not_lt.mp hfits, rfl⟩, (Option.some.inj h).symm⟩
  · rintro ⟨t, ⟨hnonneg, hfits, rfl⟩, rfl⟩
    rw [if_neg (not_lt.mpr hfits), if_neg (not_lt.mpr hnonneg)]
    exact ⟨rfl, rfl⟩

/-- What follows the name goes well, or the whole record does not. -/
lemma after_name_iff {o : Option Marshalled} : (o.map (Marshalled.after · [.int32 name]) = some m ∧ m.ret = 0) ↔
    ∃ ws, o = some ⟨ws, 0⟩ ∧ m = ⟨.int32 name :: ws, 0⟩ := by
  constructor
  · rintro ⟨h, hret⟩
    obtain ⟨⟨ws, ret⟩, rfl, rfl⟩ := Option.map_eq_some_iff.mp h
    obtain rfl : ret = 0 := hret
    exact ⟨ws, rfl, rfl⟩
  · rintro ⟨ws, rfl, rfl⟩
    exact ⟨rfl, rfl⟩

lemma text_rec_iff (hname : name = env.int address)
    (hshape : infoRecShape name = some (true, (infoRecNumbers env name (infoRec env address)).length)) :
    ((marshalInfoText env (infoRec env address) (infoTextLength name)
        ((infoRecNumbers env name (infoRec env address)).map .int32)).map (Marshalled.after · [.int32 name]) = some m ∧
      m.ret = 0) ↔ ∃ r : CdmaInfoRec, r.At env address ∧ m = ⟨r.writes env, 0⟩ := by
  rw [after_name_iff]
  constructor
  · rintro ⟨ws, hws, rfl⟩
    obtain ⟨t, ht, hm⟩ := marshal_info_text_iff.mp ⟨hws, rfl⟩
    obtain ⟨rfl, -⟩ := Marshalled.mk.inj hm
    exact ⟨⟨name, some t, infoRecNumbers env name (infoRec env address), hshape⟩,
      ⟨hname, fun t' ht' => Option.some.inj ht' ▸ ht, rfl⟩, rfl⟩
  · rintro ⟨⟨name', text, numbers, shape⟩, ⟨hname', htext, hnumbers⟩, rfl⟩
    obtain rfl : name' = name := Eq.trans hname' hname.symm
    obtain rfl : numbers = infoRecNumbers env name' (infoRec env address) := hnumbers
    have hsome := congrArg Prod.fst (Option.some.inj (hshape.symm.trans shape))
    obtain ⟨t, rfl⟩ := Option.isSome_iff_exists.mp hsome.symm
    exact ⟨_, (marshal_info_text_iff.mpr ⟨t, htext t rfl, rfl⟩).1, rfl⟩

lemma chars_rec_iff {n : ℕ} (hname : name = env.int address)
    (hnumbers : infoRecNumbers env name (infoRec env address) =
      (List.range n).map fun i => env.char (infoRec env address + i))
    (hshape : infoRecShape name = some (false, n)) :
    ((some ⟨(List.range n).map fun i => .int32 (env.char (infoRec env address + i)), 0⟩ : Option Marshalled).map
        (Marshalled.after · [.int32 name]) = some m ∧ m.ret = 0) ↔
      ∃ r : CdmaInfoRec, r.At env address ∧ m = ⟨r.writes env, 0⟩ := by
  have hwrites : ((List.range n).map fun i => ParcelWrite.int32 (env.char (infoRec env address + i))) =
      (infoRecNumbers env name (infoRec env address)).map .int32 := by
    rw [hnumbers, List.map_map]
    rfl
  have hlength : (infoRecNumbers env name (infoRec env address)).length = n := by
    rw [hnumbers, List.length_map, List.length_range]
  rw [after_name_iff, hwrites]
  constructor
  · rintro ⟨ws, hws, rfl⟩
    obtain ⟨rfl, -⟩ := Marshalled.mk.inj (Option.some.inj hws)
    exact ⟨⟨name, none, infoRecNumbers env name (infoRec env address), hlength.symm ▸ hshape⟩,
      ⟨hname, fun t ht => (by cases ht), rfl⟩, rfl⟩
  · rintro ⟨⟨name', text, numbers, shape⟩, ⟨hname', -, hnumbers'⟩, rfl⟩
    obtain rfl : name' = name := Eq.trans hname' hname.symm
    obtain rfl : numbers = infoRecNumbers env name' (infoRec env address) := hnumbers'
    have hnone : false = text.isSome := congrArg Prod.fst (Option.some.inj (hshape.symm.trans shape))
    obtain rfl : text = none := Option.not_isSome_iff_eq_none.mp (by rw [← hnone]; decide)
    exact ⟨_, rfl, rfl⟩

/-- A record goes well exactly if it stands at its address. -/
lemma marshal_info_rec_iff : (marshalInfoRec env address = some m ∧ m.ret = 0) ↔
    ∃ r : CdmaInfoRec, r.At env address ∧ m = ⟨r.writes env, 0⟩ := by
  rw [marshalInfoRec]
  dsimp only
  generalize hn : env.int address = name
  rw [eq_comm] at hn
  split
  · next h =>
    rcases h with rfl | rfl
    · exact text_rec_iff hn rfl
    · exact text_rec_iff hn rfl
  split
  · next h =>
    rcases h with rfl | rfl | rfl
    · exact text_rec_iff hn rfl
    · exact text_rec_iff hn rfl
    · exact text_rec_iff hn rfl
  split
  · next h =>
    subst h
    exact chars_rec_iff hn rfl rfl
  split
  · next h =>
    subst h
    exact text_rec_iff hn rfl
  split
  · next h =>
    subst h
    exact chars_rec_iff hn rfl rfl
  split
  · next h =>
    subst h
    exact chars_rec_iff hn rfl rfl
  split
  · next h =>
    subst h
    exact chars_rec_iff hn rfl rfl
  -- the record is refused, and has no shape
  · next h07 h123 h4 h5 h6 h8 h10 =>
    refine iff_of_false (fun h => ?_) ?_
    · obtain ⟨ws, hws, -⟩ := after_name_iff.mp h
      exact absurd (Marshalled.mk.inj (Option.some.inj hws)).2 (by decide)
    · rintro ⟨⟨name', text, numbers, shape⟩, ⟨hname', -, -⟩, -⟩
      obtain rfl : name' = name := Eq.trans hname' hn.symm
      rw [infoRecShape, if_neg h07, if_neg h123, if_neg h4, if_neg h5, if_neg h6, if_neg h8, if_neg h10] at shape
      cases shape

/-- The records stand at these addresses. -/
def InfoRecsAt (env : MarshalEnv) (addresses : List ℕ) (rs : List CdmaInfoRec) : Prop :=
  List.Forall₂ (fun address r => CdmaInfoRec.At env address r) addresses rs

lemma marshal_info_recs_iff {addresses : List ℕ} : (marshalInfoRecs env addresses = some m ∧ m.ret = 0) ↔
    ∃ rs, InfoRecsAt env addresses rs ∧ m = ⟨rs.flatMap (CdmaInfoRec.writes env), 0⟩ := by
  induction addresses generalizing m with
  | nil =>
    constructor
    · rintro ⟨h, -⟩
      exact ⟨[], .nil, (Option.some.inj h).symm⟩
    · rintro ⟨rs, hrs, rfl⟩
      cases hrs
      exact ⟨rfl, rfl⟩
  | cons address addresses ih =>
    rw [marshalInfoRecs]
    constructor
    · rintro ⟨h, hret⟩
      obtain ⟨m', hm', h⟩ := Option.bind_eq_some_iff.mp h
      split at h
      · obtain rfl := Option.some.inj h
        exact absurd hret ‹_›
      · rename_i hret'
        obtain ⟨m'', hm'', rfl⟩ := Option.map_eq_some_iff.mp h
        obtain ⟨r, hr, rfl⟩ := marshal_info_rec_iff.mp ⟨hm', not_not.mp hret'⟩
        obtain ⟨rs, hrs, rfl⟩ := ih.mp ⟨hm'', hret⟩
        exact ⟨r :: rs, .cons hr hrs, rfl⟩
    · rintro ⟨_, hrs, rfl⟩
      cases hrs with
      | @cons _ r _ rs hr hrs =>
      obtain ⟨hm, -⟩ := marshal_info_rec_iff.mpr ⟨r, hr, rfl⟩
      obtain ⟨hms, -⟩ := ih.mpr ⟨rs, hrs, rfl⟩
      refine ⟨?_, rfl⟩
      rw [hm, Option.bind_some, if_neg (not_not.mpr rfl), hms]
      rfl

end

def infoRecsMarshalled (env : MarshalEnv) (response : ℕ) (rs : List CdmaInfoRec) : Marshalled :=
  ⟨.int32 (numberOfInfoRecs env response) :: rs.flatMap (CdmaInfoRec.writes env), 0⟩

lemma info_recs_marshalled_bytes (env : MarshalEnv) (response : ℕ) (rs : List CdmaInfoRec) :
    (infoRecsMarshalled env response rs).bytes =
      int32Bytes (numberOfInfoRecs env response) ++ rs.flatMap (CdmaInfoRec.bytes env) := by
  rw [Marshalled.bytes, infoRecsMarshalled, List.map_cons, List.flatten_cons, List.map_flatMap, List.flatMap_def,
    List.flatMap_def, List.flatten_flatten, List.map_map]
  rfl

/-- A page with one record, which displays two letters -/
def displayEnv : MarshalEnv :=
  { emptyEnv 10 with memory := ⟨storeAt (storeAt (fun _ => 0) 4096 [1]) (4096 + 8) [2, 72, 105], 8192⟩ }

def displayRec : CdmaInfoRec := ⟨0, some [72, 105], [], rfl⟩

lemma display_rec_at : InfoRecsAt displayEnv (infoRecAddresses displayEnv 4096) [displayRec] := by
  have haddresses : infoRecAddresses displayEnv 4096 = [4100] := by decide
  rw [haddresses]
  refine .cons ⟨by decide, fun t ht => ?_, by decide⟩ .nil
  obtain rfl : [72, 105] = t := Option.some.inj ht
  exact ⟨by decide, by decide, by decide⟩

end Ril.Libril
