import Ril.Ipc.Utils

/-! Network, display, service mode, phone information and sound messages. -/

namespace Ril.Ipc

def ipcNetPlmnSelAuto : UInt8 := 0x02
def ipcNetPlmnSelManual : UInt8 := 0x03
def ipcNetAccessTechnologyUnknown : UInt8 := 0xff
def ipcNetServiceDomainGsm : UInt8 := 0x02
def ipcNetServiceDomainGprs : UInt8 := 0x03
def ipcDispIconInfoFlagRssi : UInt8 := 0x01

/-- A manual selection fills what is left of the PLMN with `#`. -/
def ipcNetPlmnSelSetup (modeSel : UInt8) (plmn : CString) (act : UInt8) : Bytes :=
  if modeSel = ipcNetPlmnSelAuto then modeSel :: List.replicate 6 0 ++ [ipcNetAccessTechnologyUnknown]
  else modeSel :: (plmn ++ List.replicate 6 0x23).take 6 ++ [act]

def ipcNetRegistSetup (domain : UInt8) : Bytes := [ipcNetAccessTechnologyUnknown, domain]

structure IpcNetRegistResponseData where
  act : UInt8
  domain : UInt8
  status : UInt8
  lac : ℕ
  cid : ℕ
deriving DecidableEq, Repr

def IpcNetRegistResponseData.read (data : Bytes) : Option IpcNetRegistResponseData :=
  if data.length < 11 then none
  else some ⟨byteAt data 0, byteAt data 1, byteAt data 2, shortAt data 4,
    shortAt data 6 + 65536 * shortAt data 8⟩

/-- The PLMN of a serving network; its size is checked against the registration answer's. -/
def ipcNetServingNetworkPlmn (data : Bytes) : Option Bytes :=
  if data.length < 11 then none else some ((data.drop 3).take 6)

structure IpcNetPlmnListEntry where
  status : UInt8
  plmn : Bytes
deriving DecidableEq, Repr

def ipcNetPlmnListCountExtract (data : Bytes) : ℕ := (byteAt data 0).toNat

def ipcNetPlmnListEntryExtract (data : Bytes) (index : ℕ) : Option IpcNetPlmnListEntry :=
  if ipcNetPlmnListCountExtract data ≤ index then none
  else if data.length < 1 + 10 * (index + 1) then none
  else some ⟨byteAt data (1 + 10 * index), (data.drop (2 + 10 * index)).take 6⟩

structure IpcDispIconInfoResponseData where
  flags : UInt8
  rssi : UInt8
deriving DecidableEq, Repr

def IpcDispIconInfoResponseData.read (data : Bytes) : Option IpcDispIconInfoResponseData :=
  if data.length < 4 then none else some ⟨byteAt data 0, byteAt data 1⟩

def firstByte (data : Bytes) : Option UInt8 := data.head?

def ipcSvcEnterSetup (mode type : UInt8) : Bytes := [mode, type, if mode = 0x04 then 0x00 else 0x10]

def ipcSvcDisplayScreenCountExtract (data : Bytes) : ℕ := (byteAt data 0).toNat

/-- The entries from the first one on, when the first one was received; 34 bytes each. -/
def ipcSvcDisplayScreenExtract (data : Bytes) : Option Bytes :=
  if ipcSvcDisplayScreenCountExtract data = 0 then none
  else if data.length < 1 + 34 then none
  else some (data.drop 1)

def ipcMiscMeVersionSetup : Bytes := [0xff]

/-- `strndup` of the 32 bytes of `software_version` -/
def ipcMiscMeVersionSoftwareVersion (data : Bytes) : Option CString :=
  if data.length < 129 then none else some (((data.drop 1).take 32).takeWhile (· != 0))

def ipcMiscMeImsiImsiExtract (data : Bytes) : CString :=
  ((data.drop 1).take (byteAt data 0).toNat).takeWhile (· != 0)

def ipcMiscMeSnSerialNum : UInt8 := 0x01

structure IpcMiscMeSnResponseData where
  type : UInt8
  length : UInt8
  data : Bytes
deriving DecidableEq, Repr

def IpcMiscMeSnResponseData.read (data : Bytes) : Option IpcMiscMeSnResponseData :=
  if data.length < 34 then none else some ⟨byteAt data 0, byteAt data 1, (data.drop 2).take 32⟩

def ipcMiscMeSnExtract (data : IpcMiscMeSnResponseData) : Option CString :=
  if 32 < data.length.toNat then none
  else some ((data.data.take data.length.toNat).takeWhile (· != 0))

/-- A byte of `signed char` -/
def signedByte (b : UInt8) : ℤ := if b.toNat < 128 then b.toNat else (b.toNat : ℤ) - 256

structure IpcMiscTimeInfoData where
  year : UInt8
  mon : UInt8
  day : UInt8
  hour : UInt8
  min : UInt8
  sec : UInt8
  tz : ℤ
  dl : ℤ
deriving DecidableEq, Repr

def IpcMiscTimeInfoData.read (data : Bytes) : Option IpcMiscTimeInfoData :=
  if data.length < 17 then none
  else some ⟨byteAt data 2, byteAt data 3, byteAt data 4, byteAt data 5, byteAt data 6, byteAt data 7,
    signedByte (byteAt data 8), signedByte (byteAt data 9)⟩

end Ril.Ipc
