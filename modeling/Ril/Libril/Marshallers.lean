import Ril.Ipc.Message
import Ril.Lib.Buffer
import Ril.Lib.CLayout
import Ril.Libril.Commands

/-! What libril writes to a parcel, and what it reads of the memory of the RIL for it. -/

namespace Ril.Libril

open Lib Ril.Ipc

/-- A write of the binder library. A string that is `NULL` has no characters. -/
inductive ParcelWrite
  | int32 (v : Int32)
  | int64 (v : UInt64)
  | string16 (s : Option (List UInt16))
  | write (data : Bytes)
deriving DecidableEq, Repr

def int32Bytes (v : Int32) : Bytes := numberBytes 4 v.toUInt32.toNat

/-- Filled up to a multiple of 4 bytes -/
def padded (data : Bytes) : Bytes := data ++ List.replicate (alignUp data.length 4 - data.length) 0

def ParcelWrite.bytes : ParcelWrite → Bytes
  | int32 v => int32Bytes v
  | int64 v => numberBytes 8 v.toNat
  | string16 none => int32Bytes (-1)
  | string16 (some s) =>
    int32Bytes (Int32.ofNat s.length) ++ padded ((s ++ [0]).flatMap fun c : UInt16 => numberBytes 2 c.toNat)
  | write data => padded data

def writeAll (p : CursorBuffer UInt8) (writes : List ParcelWrite) : CursorBuffer UInt8 :=
  (writes.map ParcelWrite.bytes).foldl CursorBuffer.write p

/-- The build, the version of the RIL, the conversion of its strings, and the memory that it answers from -/
structure MarshalEnv where
  width : PointerWidth
  signedChar : Bool
  version : Int32
  strdup8to16 : CString → List UInt16
  memory : CMemory

namespace MarshalEnv

variable (env : MarshalEnv)

def sizeOf (layout : List CType) : ℕ := structSize env.width layout

def int (address : ℕ) : Int32 := Int32.ofNat (env.memory.number address 4)

def pointer (address : ℕ) : ℕ := env.memory.number address env.width.bytes

/-- `writeStringToParcel` -/
def string (address : ℕ) : ParcelWrite :=
  .string16 (if address = 0 then none else some (env.strdup8to16 (env.memory.string address)))

/-- A block of the memory. A size that is negative, or that does not fit in an `int`, is refused. -/
def block (address : ℕ) (size : ℤ) : List ParcelWrite :=
  if 0 ≤ size ∧ size < 2 ^ 31 then [.write (env.memory.bytes address size.toNat)] else []

/-- The member of a structure, as its type is written: a `char` as an int, and a block of them as a string -/
def member (layout : List CType) (base i : ℕ) : ParcelWrite :=
  let address := base + memberOffset env.width layout i
  match layout.getD i .int with
  | .char =>
    .int32 (if env.signedChar then (env.memory.cells address).toInt8.toInt32
      else Int32.ofNat (env.memory.cells address).toNat)
  | .unsignedChar => .int32 (Int32.ofNat (env.memory.cells address).toNat)
  | .int => .int32 (env.int address)
  | .int64 => .int64 (UInt64.ofNat (env.memory.number address 8))
  | .pointer => env.string (env.pointer address)
  | .block _ _ => env.string address

def members (layout : List CType) (is : List ℕ) (base : ℕ) : List ParcelWrite := is.map (env.member layout base)

end MarshalEnv

/-- A RIL of this version with an empty memory -/
def emptyEnv (version : Int32) : MarshalEnv := ⟨.w32, false, version, fun s => s.map UInt8.toUInt16, ⟨fun _ => 0, 0⟩⟩

end Ril.Libril

/-! The functions that marshal the responses to requests. -/

namespace Ril.Libril

open Lib Ril.Ipc

/-! ### The structures of `ril.h` -/

section

open CType

def rilCallLayout : List CType :=
  [int, int, int, char, char, char, char, char, pointer, int, pointer, int, pointer]

def rilUusInfoLayout : List CType := [int, int, int, pointer]

def rilSmsResponseLayout : List CType := [int, pointer, int]

def rilDataCallResponseV4Layout : List CType := [int, int, pointer, pointer, pointer]

def rilDataCallResponseV6Layout : List CType := List.replicate 4 int ++ List.replicate 5 pointer

def rilDataCallResponseV9Layout : List CType := List.replicate 4 int ++ List.replicate 6 pointer

def rilSimIoResponseLayout : List CType := [int, int, pointer]

def rilCallForwardInfoLayout : List CType := [int, int, int, int, pointer, int]

def rilNeighboringCellLayout : List CType := [pointer, int]

def rilGsmBroadcastSmsConfigInfoLayout : List CType := [int, int, int, int, unsignedChar]

def rilCdmaBroadcastSmsConfigInfoLayout : List CType := [int, int, unsignedChar]

def rilAppStatusLayout : List CType := [int, int, int, pointer, pointer, int, int, int]

/-- The numbers of ints of the three versions of `RIL_SignalStrength` -/
def rilSignalStrengthV5Layout : List CType := List.replicate 7 int

def rilSignalStrengthV6Layout : List CType := List.replicate 12 int

def rilSignalStrengthV10Layout : List CType := List.replicate 14 int

/-- The largest member of the union is the LTE cell with 11 ints. -/
def rilCellInfoLayout : List CType := [int, int, int, int64, block 44 4]

def rilHardwareConfigUuidLength : ℕ := 64

/-- Its union holds five ints or a string. -/
def rilHardwareConfigLayout : List CType :=
  [int, block rilHardwareConfigUuidLength 1, int, block rilHardwareConfigUuidLength 4]

def rilDcRtInfoLayout : List CType := [int64, int]

end

def rilCardMaxApps : ℕ := 8

/-- The index of the IMS subscription is missing in version 5. -/
def rilCardStatusLayout (width : PointerWidth) (ints : ℕ) : List CType :=
  List.replicate ints .int ++
    [.block (rilCardMaxApps * structSize width rilAppStatusLayout) (structAlign width rilAppStatusLayout)]

/-! ### Marshalling -/

/-- What a function writes and returns -/
structure Marshalled where
  writes : List ParcelWrite
  ret : Int32
deriving DecidableEq, Repr

namespace Marshalled

def bytes (m : Marshalled) : Bytes := (m.writes.map ParcelWrite.bytes).flatten

/-- What is written before the rest -/
def after (m : Marshalled) (writes : List ParcelWrite) : Marshalled := { m with writes := writes ++ m.writes }

end Marshalled

def rilErrnoInvalidResponse : Int32 := -1

/-- Before anything is written -/
def invalidResponse : Marshalled := ⟨[], rilErrnoInvalidResponse⟩

section

variable (env : MarshalEnv) (response responselen : ℕ)

/-- The elements of an array, of which the number is an `int` -/
def arrayElements (size : ℕ) : List ℕ :=
  (List.range (asInt (responselen / size)).toNat).map fun i => response + i * size

/-- The number of the elements, and then each of them -/
def marshalArray (size : ℕ) (element : ℕ → List ParcelWrite) : List ParcelWrite :=
  .int32 (Int32.ofNat (responselen / size)) :: (arrayElements response responselen size).flatMap element

/-- Nothing is written for a length that is not one of an array. -/
def checkedArray (size : ℕ) (writes : List ParcelWrite) : Marshalled :=
  if response = 0 ∧ responselen ≠ 0 then invalidResponse
  else if responselen % size ≠ 0 then invalidResponse
  else ⟨writes, 0⟩

def responseArray (size : ℕ) (element : ℕ → List ParcelWrite) : Marshalled :=
  checkedArray response responselen size (marshalArray response responselen size element)

/-- The same for a pointer to one structure -/
def responseStruct (layout : List CType) (is : List ℕ) : Marshalled :=
  if response = 0 then invalidResponse
  else if responselen ≠ env.sizeOf layout then invalidResponse
  else ⟨env.members layout is response, 0⟩

def responseInts : Marshalled := responseArray response responselen 4 fun address => [.int32 (env.int address)]

def responseStrings : Marshalled :=
  responseArray response responselen env.width.bytes fun address => [env.string (env.pointer address)]

/-- The version stands in the parcel before the strings are tested. -/
def responseStringsWithVersion (version : Int32) : Marshalled :=
  (responseStrings env response responselen).after [.int32 version]

/-- The length is ignored. -/
def responseString : Marshalled := ⟨[env.string response], 0⟩

def responseVoid : Marshalled := ⟨[], 0⟩

def marshalUusInfo (uusInfo : ℕ) : List ParcelWrite :=
  let uusData := env.pointer (uusInfo + memberOffset env.width rilUusInfoLayout 3)
  if env.version.toInt < 3 ∨ uusInfo = 0 ∨ uusData = 0 then [.int32 0]
  else
    .int32 1 :: env.members rilUusInfoLayout [0, 1, 2] uusInfo ++
      env.block uusData (env.int (uusInfo + memberOffset env.width rilUusInfoLayout 2)).toInt

def marshalCall (call : ℕ) : List ParcelWrite :=
  env.members rilCallLayout (List.range 12) call ++
    marshalUusInfo env (env.pointer (call + memberOffset env.width rilCallLayout 12))

def responseCallList : Marshalled :=
  responseArray response responselen env.width.bytes fun address => marshalCall env (env.pointer address)

def responseSms : Marshalled := responseStruct env response responselen rilSmsResponseLayout [0, 1, 2]

/-- The version and the array. The `apn` is not sent. -/
def responseDataCallListV4 : Marshalled :=
  checkedArray response responselen (env.sizeOf rilDataCallResponseV4Layout)
    (.int32 4 :: marshalArray response responselen (env.sizeOf rilDataCallResponseV4Layout)
      (env.members rilDataCallResponseV4Layout [0, 1, 2, 4]))

def responseDataCallListV6 : Marshalled :=
  checkedArray response responselen (env.sizeOf rilDataCallResponseV6Layout)
    (.int32 6 :: marshalArray response responselen (env.sizeOf rilDataCallResponseV6Layout)
      (env.members rilDataCallResponseV6Layout (List.range 9)))

/-- A length that is a multiple of the size of version 6 is taken for that version. -/
def responseDataCallList : Marshalled :=
  if env.version.toInt < 5 then responseDataCallListV4 env response responselen
  else if response = 0 ∧ responselen ≠ 0 then invalidResponse
  else if responselen % env.sizeOf rilDataCallResponseV6Layout = 0 then responseDataCallListV6 env response responselen
  else
    checkedArray response responselen (env.sizeOf rilDataCallResponseV9Layout)
      (.int32 10 :: marshalArray response responselen (env.sizeOf rilDataCallResponseV9Layout)
        (env.members rilDataCallResponseV9Layout (List.range 10)))

def responseSetupDataCall : Marshalled :=
  if env.version.toInt < 5 then responseStringsWithVersion env response responselen env.version
  else responseDataCallList env response responselen

/-- `NULL` is sent with the size -1. -/
def responseRaw : Marshalled :=
  if response = 0 ∧ responselen ≠ 0 then invalidResponse
  else if response = 0 then ⟨[.int32 (-1)], 0⟩
  else ⟨.int32 (Int32.ofNat responselen) :: env.block response responselen, 0⟩

def responseSimIo : Marshalled := responseStruct env response responselen rilSimIoResponseLayout [0, 1, 2]

def responseCallForwards : Marshalled :=
  responseArray response responselen env.width.bytes fun address =>
    env.members rilCallForwardInfoLayout (List.range 6) (env.pointer address)

def responseCellList : Marshalled :=
  responseArray response responselen env.width.bytes fun address =>
    env.members rilNeighboringCellLayout [1, 0] (env.pointer address)

def intMax : Int32 := 2147483647

/-- The LTE values that a RIL up to version 6 answers with -/
def fixupLte (version : Int32) (signalStrength rsrp rsrq cqi : Int32) : Int32 × Int32 × Int32 × Int32 :=
  if version.toInt ≤ 6 then
    (if signalStrength = -1 then 99 else signalStrength,
      if rsrp = -1 then intMax else if rsrp < -1 then -rsrp else rsrp,
      if rsrq = -1 then intMax else rsrq, if cqi = -1 then intMax else cqi)
  else (signalStrength, rsrp, rsrq, cqi)

/-- The ints of the response: two for GSM, two for CDMA, three for EVDO, and then those of LTE and TD-SCDMA -/
def responseRilSignalStrength : Marshalled :=
  let strength (i : ℕ) := env.int (response + memberOffset env.width rilSignalStrengthV10Layout i)
  if response = 0 ∧ responselen ≠ 0 then invalidResponse
  else if responselen < env.sizeOf rilSignalStrengthV5Layout then invalidResponse
  else
    let first := (List.range 7).map fun i => ParcelWrite.int32 (strength i)
    if responselen < env.sizeOf rilSignalStrengthV6Layout then
      ⟨first ++ .int32 99 :: List.replicate 5 (.int32 intMax), 0⟩
    else
      let lte := fixupLte env.version (strength 7) (strength 8) (strength 9) (strength 11)
      ⟨first ++ [.int32 lte.1, .int32 lte.2.1, .int32 lte.2.2.1, .int32 (strength 10), .int32 lte.2.2.2,
        .int32 (if responselen < env.sizeOf rilSignalStrengthV10Layout then intMax else strength 13)], 0⟩

/-- The ints of the union of `RIL_CellInfo`, by the type of the cell -/
def cellInfoInts (cellInfoType : Int32) : ℕ :=
  if cellInfoType = 1 then 6 else if cellInfoType = 2 then 10 else if cellInfoType = 3 then 11
  else if cellInfoType = 4 then 7 else if cellInfoType = 5 then 6 else 0

def marshalCellInfo (address : ℕ) : List ParcelWrite :=
  env.members rilCellInfoLayout [0, 1, 2, 3] address ++
    (List.range (cellInfoInts (env.int address))).map fun i =>
      .int32 (env.int (address + memberOffset env.width rilCellInfoLayout 4 + 4 * i))

def responseCellInfoList : Marshalled :=
  responseArray response responselen (env.sizeOf rilCellInfoLayout) (marshalCellInfo env)

/-- The type is not sent, and of another type nothing is. -/
def marshalHardwareConfig (address : ℕ) : List ParcelWrite :=
  let cfg := address + memberOffset env.width rilHardwareConfigLayout 3
  if env.int address = 0 then
    env.members rilHardwareConfigLayout [1, 2] address ++
      [1, 2, 3, 4].map fun i => .int32 (env.int (cfg + 4 * i))
  else if env.int address = 1 then env.members rilHardwareConfigLayout [1, 2] address ++ [env.string cfg]
  else []

def responseHardwareConfig : Marshalled :=
  responseArray response responselen (env.sizeOf rilHardwareConfigLayout) (marshalHardwareConfig env)

def sendSimStatusAppInfo (numApps : Int32) (applications : ℕ) : List ParcelWrite :=
  .int32 numApps :: (List.range numApps.toInt.toNat).flatMap fun i =>
    env.members rilAppStatusLayout (List.range 8) (applications + i * env.sizeOf rilAppStatusLayout)

/-- The indexes of the subscriptions are followed by the applications. -/
def marshalCardStatus (ints : ℕ) (missing : List ParcelWrite) : List ParcelWrite :=
  let layout := rilCardStatusLayout env.width ints
  env.members layout (List.range (ints - 1)) response ++ missing ++
    sendSimStatusAppInfo env (env.int (response + memberOffset env.width layout (ints - 1)))
      (response + memberOffset env.width layout ints)

/-- Version 5 has no index of the IMS subscription. -/
def responseSimStatus : Marshalled :=
  if response = 0 ∧ responselen ≠ 0 then invalidResponse
  else if responselen = env.sizeOf (rilCardStatusLayout env.width 6) then ⟨marshalCardStatus env response 6 [], 0⟩
  else if responselen = env.sizeOf (rilCardStatusLayout env.width 5) then
    ⟨marshalCardStatus env response 5 [.int32 (-1)], 0⟩
  else invalidResponse

/-- The arrays of pointers of which neither the pointer nor the length is tested -/
def responseGsmBrSmsCnf : Marshalled :=
  ⟨marshalArray response responselen env.width.bytes fun address =>
    env.members rilGsmBroadcastSmsConfigInfoLayout (List.range 5) (env.pointer address), 0⟩

def responseCdmaBrSmsCnf : Marshalled :=
  ⟨marshalArray response responselen env.width.bytes fun address =>
    env.members rilCdmaBroadcastSmsConfigInfoLayout (List.range 3) (env.pointer address), 0⟩

def responseDcRtInfo : Marshalled :=
  if responselen % env.sizeOf rilDcRtInfoLayout ≠ 0 ∨ asInt (responselen / env.sizeOf rilDcRtInfoLayout) ≠ 1 then
    invalidResponse
  else ⟨env.members rilDcRtInfoLayout [0, 1] response, 0⟩

end

def ResponseFunction.marshal (env : MarshalEnv) : ResponseFunction → ℕ → ℕ → Marshalled
  | responseSimStatus => Libril.responseSimStatus env
  | responseInts => Libril.responseInts env
  | responseCallList => Libril.responseCallList env
  | responseVoid => fun _ _ => Libril.responseVoid
  | responseString => fun response _ => Libril.responseString env response
  | responseRilSignalStrength => Libril.responseRilSignalStrength env
  | responseStrings => Libril.responseStrings env
  | responseSms => Libril.responseSms env
  | responseSetupDataCall => Libril.responseSetupDataCall env
  | responseSimIo => Libril.responseSimIo env
  | responseCallForwards => Libril.responseCallForwards env
  | responseDataCallList => Libril.responseDataCallList env
  | responseRaw => Libril.responseRaw env
  | responseCellList => Libril.responseCellList env
  | responseGsmBrSmsCnf => Libril.responseGsmBrSmsCnf env
  | responseCdmaBrSmsCnf => Libril.responseCdmaBrSmsCnf env
  | responseCellInfoList => Libril.responseCellInfoList env
  | responseHardwareConfig => Libril.responseHardwareConfig env
  | responseDcRtInfo => Libril.responseDcRtInfo env

end Ril.Libril
