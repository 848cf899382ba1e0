import Mathlib.Algebra.Order.Ring.Int
import Ril.Libril.Commands
import Ril.Samsung.Types

/-! The payloads that libril passes to `ril_on_request`, and what is registered of them. -/

namespace Ril.Samsung

open Ril.Ipc Ril.Libril

inductive PointerWidth
  | bits32 | bits64
deriving DecidableEq, Repr

namespace PointerWidth

/-- `sizeof(char *)` -/
def bytes : PointerWidth → ℕ
  | bits32 => 4
  | bits64 => 8

def pointerBytes (address : ℕ) : PointerWidth → Bytes
  | bits32 => intBytes address
  | bits64 => intBytes address ++ intBytes (address / 4294967296)

end PointerWidth

/-- What a pointer of a payload leads to: a string, or a structure with its plain bytes and its strings -/
inductive Pointee
  | string (value : CString)
  | record (content : Bytes) (strings : List (Option CString))
deriving DecidableEq, Repr

inductive PayloadCell
  | bytes (data : Bytes)
  | null
  | pointer (address : ℕ) (pointee : Pointee)
deriving DecidableEq, Repr

/-- A cell of what is registered. A pointer leads to a copy, or it is the one of the payload. -/
inductive CopiedCell
  | bytes (data : Bytes)
  | null
  | copy (pointee : Pointee)
  | shared (address : ℕ)
deriving DecidableEq, Repr

namespace PayloadCell

def contents (w : PointerWidth) : PayloadCell → Bytes
  | bytes data => data
  | null => w.pointerBytes 0
  | pointer address _ => w.pointerBytes address

def size (w : PointerWidth) (cell : PayloadCell) : ℕ := (cell.contents w).length

/-- What `memcpy` makes of a cell -/
def moved : PayloadCell → CopiedCell
  | bytes data => .bytes data
  | null => .null
  | pointer address _ => .shared address

/-- `if (… != NULL) … = strdup(…)`; what is no string has no `strdup`. -/
def strdup : PayloadCell → Option CopiedCell
  | null => some .null
  | pointer _ (.string value) => some (.copy (.string value))
  | _ => none

/-- The copy that has no part in common with the cell -/
def copied : PayloadCell → CopiedCell
  | bytes data => .bytes data
  | null => .null
  | pointer _ pointee => .copy pointee

def isPointer : PayloadCell → Bool
  | pointer _ _ => true
  | _ => false

/-- `NULL`, or a pointer to a string -/
def isString : PayloadCell → Bool
  | null => true
  | pointer _ (.string _) => true
  | _ => false

def isRecord : PayloadCell → Bool
  | pointer _ (.record _ _) => true
  | _ => false

end PayloadCell

def cellsSize (w : PointerWidth) (cells : List PayloadCell) : ℕ := (cells.map (PayloadCell.size w)).sum

def cellsContents (w : PointerWidth) (cells : List PayloadCell) : Bytes := cells.flatMap (PayloadCell.contents w)

/-- The data of a request in the list -/
structure RegisteredData where
  size : ℕ
  data : List CopiedCell
deriving DecidableEq, Repr

/-! ### The registration -/

section

variable (w : PointerWidth)

/-- The first bytes of a payload; `none` when it has fewer. -/
def memcpyCells : List PayloadCell → ℕ → Option (List CopiedCell)
  | [], size => if size = 0 then some [] else none
  | cell :: cells, size =>
    if cell.size w ≤ size then (memcpyCells cells (size - cell.size w)).map (cell.moved :: ·)
    else if size = 0 then some []
    else some [.bytes ((cell.contents w).take size)]

/-- The data that `ril_request_register` keeps; `none` when the behaviour is undefined. -/
def rilRequestRegisterData (data : Option (List PayloadCell)) (size : ℕ) : Option RegisteredData :=
  if size = 0 then some { size := 0, data := [] }
  else
    match data with
    | none => none
    | some cells => (memcpyCells w cells size).map fun copy => { size := size, data := copy }

def isprint (c : UInt8) : Bool := 0x20 ≤ c && c ≤ 0x7e

/-- The size of data of the size of a pointer: those that look like a string have that of the string. `none` when the
scan goes past the data. -/
def detectedSize (data : Bytes) (size : ℕ) : Option ℕ :=
  let i := (data.takeWhile isprint).length
  match data[i]? with
  | none => none
  | some c => some (if 0 < i ∧ c = 0 then i + 1 else size)

/-- A field of a structure: a string that is copied, or what is kept as it is -/
inductive PayloadField
  | string
  | kept (bytes : ℕ)
deriving DecidableEq, Repr

def PayloadField.size : PayloadField → ℕ
  | string => w.bytes
  | kept bytes => bytes

def structSize (fields : List PayloadField) : ℕ := (fields.map (PayloadField.size w)).sum

/-- `address`, `clir` and `uusInfo` -/
def rilDial : List PayloadField := [.string, .kept w.bytes, .kept w.bytes]

/-- `status`, `pdu` and `smsc` -/
def rilSmsWriteArgs : List PayloadField := [.kept w.bytes, .string, .string]

/-- The three numbers before a pointer, with the padding -/
def simIoNumbers : PointerWidth → ℕ
  | .bits32 => 12
  | .bits64 => 16

/-- `command` and `fileid`, `path`, the numbers, `data` and `pin2` -/
def rilSimIoV5 : List PayloadField := [.kept 8, .string, .kept (simIoNumbers w), .string, .string]

/-- The same, and `aidPtr` -/
def rilSimIoV6 : List PayloadField := rilSimIoV5 w ++ [.string]

def simIoFields (version : ℤ) : List PayloadField := if 6 ≤ version then rilSimIoV6 w else rilSimIoV5 w

/-- What the `switch` of `ril_on_request` does with the data of a request -/
inductive CopyKind
  | struct (fields : List PayloadField)
  | strings
  | detected
deriving DecidableEq, Repr

def copyKind (version : ℤ) : RilRequestCode → CopyKind
  | .dial => .struct (rilDial w)
  | .writeSmsToSim => .struct (rilSmsWriteArgs w)
  | .sendSms | .sendSmsExpectMore | .queryFacilityLock | .setFacilityLock | .enterSimPin | .enterSimPuk
  | .enterSimPin2 | .enterSimPuk2 | .changeSimPin | .changeSimPin2 => .strings
  | .simIo => .struct (simIoFields w version)
  | .setupDataCall | .deactivateDataCall => .strings
  | _ => .detected

/-- The buffer for a structure, once its strings are copied -/
def copyFields : List PayloadField → List PayloadCell → Option (List CopiedCell)
  | .string :: fields, cell :: cells => do
    let copy ← cell.strdup
    let rest ← copyFields fields cells
    return copy :: rest
  | .kept _ :: fields, cell :: cells => (copyFields fields cells).map (cell.moved :: ·)
  | _, cells => some (cells.map PayloadCell.moved)

/-- What `ril_on_request` registers of the data of a request. A buffer has the size of the data, and is registered as a
whole. `none` when the behaviour is undefined. -/
def rilOnRequestData (version : ℤ) (request : RilRequestCode) (data : Option (List PayloadCell)) (size : ℕ) :
    Option RegisteredData :=
  match data with
  | none => rilRequestRegisterData w none size
  | some cells =>
    match copyKind w version request with
    | .struct fields =>
      if size < structSize w fields then rilRequestRegisterData w (some cells) size
      else (copyFields fields cells).map fun buffer => { size := size, data := buffer }
    | .strings =>
      if size / w.bytes = 0 then rilRequestRegisterData w (some cells) size
      else (cells.mapM PayloadCell.strdup).map fun buffer => { size := size, data := buffer }
    | .detected =>
      if size = w.bytes then
        match detectedSize (cellsContents w cells) size with
        | none => none
        | some size => rilRequestRegisterData w (some cells) size
      else rilRequestRegisterData w (some cells) size

end

/-! ### The payloads of libril -/

/-- The requests of `ril.h` that the daemon has handlers for -/
def RilRequestCode.ofNumber : ℤ → RilRequestCode
  | 1 => .getSimStatus | 2 => .enterSimPin | 3 => .enterSimPuk | 4 => .enterSimPin2 | 5 => .enterSimPuk2
  | 6 => .changeSimPin | 7 => .changeSimPin2 | 9 => .getCurrentCalls | 10 => .dial | 11 => .getImsi | 12 => .hangup
  | 13 => .hangupWaitingOrBackground | 14 => .hangupForegroundResumeBackground | 18 => .lastCallFailCause
  | 19 => .signalStrength | 20 => .voiceRegistrationState | 21 => .dataRegistrationState | 22 => .operator
  | 23 => .radioPower | 24 => .dtmf | 25 => .sendSms | 26 => .sendSmsExpectMore | 27 => .setupDataCall | 28 => .simIo
  | 37 => .smsAcknowledge | 38 => .getImei | 39 => .getImeisv | 40 => .answer | 41 => .deactivateDataCall
  | 42 => .queryFacilityLock | 43 => .setFacilityLock | 45 => .queryNetworkSelectionMode
  | 46 => .setNetworkSelectionAutomatic | 47 => .setNetworkSelectionManual | 48 => .queryAvailableNetworks
  | 49 => .dtmfStart | 50 => .dtmfStop | 51 => .basebandVersion | 53 => .setMute | 56 => .lastDataCallFailCause
  | 57 => .dataCallList | 59 => .oemHookRaw | 61 => .screenState | 63 => .writeSmsToSim | 64 => .deleteSmsOnSim
  | 73 => .setPreferredNetworkType | 74 => .getPreferredNetworkType
  | number => .other number.toNat

/-- A payload: `NULL` with a size, a lone string, or an array or a structure -/
inductive Payload
  | null (size : ℕ)
  | string (value : CString)
  | block (cells : List PayloadCell)
deriving DecidableEq, Repr

namespace Payload

def data : Payload → Option (List PayloadCell)
  | null _ => none
  | string value => some [.bytes (value ++ [0])]
  | block cells => some cells

/-- The size that is passed; `dispatchString` passes that of a pointer. -/
def size (w : PointerWidth) : Payload → ℕ
  | null size => size
  | string _ => w.bytes
  | block cells => cellsSize w cells

/-- What a faithful copy registers: nothing of `NULL` and of an empty array, a string with its terminator, and the
cells of the rest with copies of all that they point to. -/
def faithful (w : PointerWidth) : Payload → RegisteredData
  | null _ => { size := 0, data := [] }
  | string value => { size := value.length + 1, data := [.bytes (value ++ [0])] }
  | block cells => if cellsSize w cells = 0 then { size := 0, data := [] }
    else { size := cellsSize w cells, data := cells.map PayloadCell.copied }

end Payload

/-- A cell is that of a field. -/
def FieldCell (w : PointerWidth) : PayloadField → PayloadCell → Prop
  | .string, cell => cell.isString = true
  | .kept bytes, cell => cell.size w = bytes ∧ (cell.isPointer = true → cell.isRecord = true)

/-- The payloads of a dispatch function: those of strings and of the structures with fields of their own are exact, the
others are only known to be structures, or arrays of pointers to them. -/
def PassedBy (w : PointerWidth) (version : ℤ) : DispatchFunction → Payload → Prop
  | .dispatchVoid, payload => payload = .null 0
  | .dispatchString, payload => payload = .null w.bytes ∨ ∃ value, (0 : UInt8) ∉ value ∧ payload = .string value
  | .dispatchStrings, payload | .dispatchDataCall, payload =>
    payload = .null 0 ∨ ∃ cells, (∀ cell ∈ cells, cell.isString = true) ∧ payload = .block cells
  | .dispatchInts, payload => ∃ values : List Int32, values ≠ [] ∧
      payload = .block [.bytes (values.flatMap fun value => intBytes value.toUInt32.toNat)]
  | .dispatchDial, payload => ∃ cells, List.Forall₂ (FieldCell w) (rilDial w) cells ∧ payload = .block cells
  | .dispatchSmsWrite, payload =>
    ∃ cells, List.Forall₂ (FieldCell w) (rilSmsWriteArgs w) cells ∧ payload = .block cells
  | .dispatchSimIo, payload =>
    ∃ cells, List.Forall₂ (FieldCell w) (simIoFields w version) cells ∧ payload = .block cells
  | _, payload => (∃ size, payload = .null size) ∨ ∃ cells, payload = .block cells

/-- The payloads that libril passes with a request number -/
def Passed (w : PointerWidth) (version number : ℤ) (payload : Payload) : Prop :=
  ∃ entry ∈ sCommands, entry.requestNumber = number ∧
    ∃ function, entry.dispatchFunction = some function ∧ PassedBy w version function payload

end Ril.Samsung
