import Ril.Ipc.Utils

/-! Voice calls and DTMF. -/

namespace Ril.Ipc

def ipcCallTypeVoice : UInt8 := 0x01
def ipcCallIdentityDefault : UInt8 := 0x00
def ipcCallIdentityHide : UInt8 := 0x01
def ipcCallIdentityShow : UInt8 := 0x02
def ipcCallPrefixNone : UInt8 := 0x00
def ipcCallPrefixIntl : UInt8 := 0x11
def ipcCallStatusReleased : UInt8 := 0x04
def ipcCallTermMt : UInt8 := 0x02
def ipcCallDtmfStatusStart : UInt8 := 0x01
def ipcCallDtmfStatusStop : UInt8 := 0x02

def ipcCallOutgoingSetup (type identity prefix_ : UInt8) (number : CString) : Bytes :=
  [0, type, identity, UInt8.ofNat (min number.length 86), prefix_] ++ field 86 number

structure IpcCallStatusData where
  status : UInt8
  endCause : UInt8
deriving DecidableEq, Repr

def IpcCallStatusData.read (data : Bytes) : Option IpcCallStatusData :=
  if data.length < 6 then none else some ⟨byteAt data 3, byteAt data 5⟩

def ipcCallListCountExtract (data : Bytes) : ℕ := (byteAt data 0).toNat

structure IpcCallListEntry where
  type : UInt8
  id : UInt8
  term : UInt8
  status : UInt8
  mpty : UInt8
  numberLength : UInt8
  number : CString
deriving DecidableEq, Repr

/-- The offset of the entry `index`; each entry is 8 bytes and its number. -/
def callListOffset (data : Bytes) : ℕ → ℕ
  | 0 => 1
  | index + 1 =>
    callListOffset data index + 8 + (byteAt data (callListOffset data index + 6)).toNat

/-- The number is copied by `strncpy`, which stops at a NUL byte. -/
def ipcCallListEntryExtract (data : Bytes) (index : ℕ) : Option IpcCallListEntry :=
  let offset := callListOffset data index
  if ipcCallListCountExtract data ≤ index then none
  else if data.length < callListOffset data (index + 1) then none
  else some {
    type := byteAt data (offset + 1)
    id := byteAt data (offset + 2)
    term := byteAt data (offset + 3)
    status := byteAt data (offset + 4)
    mpty := byteAt data (offset + 5)
    numberLength := byteAt data (offset + 6)
    number := ((data.drop (offset + 8)).take (byteAt data (offset + 6)).toNat).takeWhile (· != 0) }

/-- One entry: `count`, then the status and the tone. -/
def ipcCallBurstDtmfSetup (status tone : UInt8) : Bytes := [1, status, tone]

def ipcCallContDtmfData (status tone : UInt8) : Bytes := [status, tone]

end Ril.Ipc
