import Ril.Ipc.Utils

/-! SIM and security messages. -/

namespace Ril.Ipc

def ipcSecPinTypePin1 : UInt8 := 0x03
def ipcSecPinTypePin2 : UInt8 := 0x09

def ipcSecFacilityTypeSc : UInt8 := 0x03
def ipcSecFacilityTypeFd : UInt8 := 0x04
def ipcSecFacilityTypePn : UInt8 := 0x05
def ipcSecFacilityTypePu : UInt8 := 0x06
def ipcSecFacilityTypePp : UInt8 := 0x07
def ipcSecFacilityTypePc : UInt8 := 0x08

/-- The length byte and the field a password is copied to, for a field of `n` bytes. -/
def passwordLength (n : ℕ) (password : Option CString) : UInt8 :=
  UInt8.ofNat (min (password.getD []).length n)

def passwordField (n : ℕ) (password : Option CString) : Bytes := field n (password.getD [])

def ipcSecPinStatusSetup (type : UInt8) (pin1 pin2 : Option CString) : Bytes :=
  [type, passwordLength 8 pin1, passwordLength 8 pin2] ++ passwordField 8 pin1 ++ passwordField 8 pin2

def ipcSecPhoneLockRequestSetSetup (facilityType active : UInt8) (password : Option CString) : Bytes :=
  [facilityType, active, passwordLength 39 password] ++ passwordField 39 password

def ipcSecPhoneLockRequestGet (facilityType : UInt8) : Bytes := [facilityType]

def ipcSecChangeLockingPwSetup (facilityType : UInt8) (passwordOld passwordNew : Option CString) : Bytes :=
  [facilityType, passwordLength 39 passwordOld, passwordLength 39 passwordNew] ++
    passwordField 39 passwordOld ++ passwordField 39 passwordNew

def ipcSecLockInfomationSetup (type : UInt8) : Bytes := [0x01, type]

structure IpcSecRsimAccessRequestHeader where
  command : UInt8
  fileId : ℕ
  p1 : UInt8
  p2 : UInt8
  p3 : UInt8
deriving DecidableEq, Repr

def ipcSecRsimAccessSetup (header : IpcSecRsimAccessRequestHeader) (simIoData : Option Bytes) : Bytes :=
  header.command :: shortBytes header.fileId ++ [header.p1, header.p2, header.p3] ++ simIoData.getD []

structure IpcSecPinStatusResponseData where
  status : UInt8
  facilityLock : UInt8
deriving DecidableEq, Repr

def IpcSecPinStatusResponseData.read (data : Bytes) : Option IpcSecPinStatusResponseData :=
  if data.length < 2 then none else some ⟨byteAt data 0, byteAt data 1⟩

structure IpcSecPhoneLockResponseData where
  facilityType : UInt8
  active : UInt8
deriving DecidableEq, Repr

def IpcSecPhoneLockResponseData.read (data : Bytes) : Option IpcSecPhoneLockResponseData :=
  if data.length < 2 then none else some ⟨byteAt data 0, byteAt data 1⟩

structure IpcSecRsimAccessResponseHeader where
  sw1 : UInt8
  sw2 : UInt8
  length : UInt8
deriving DecidableEq, Repr

def IpcSecRsimAccessResponseHeader.read (data : Bytes) : Option IpcSecRsimAccessResponseHeader :=
  if data.length < 3 then none else some ⟨byteAt data 0, byteAt data 1, byteAt data 2⟩

/-- The bytes after the header, unless the length it announces is 0 or more than was received. -/
def ipcSecRsimAccessExtract (data : Bytes) : Option Bytes :=
  if data.length < 3 then none
  else if byteAt data 2 = 0 ∨ data.length - 3 < (byteAt data 2).toNat then none
  else some (data.drop 3)

structure IpcSecLockInfomationResponseData where
  type : UInt8
  key : UInt8
  retryCount : UInt8
deriving DecidableEq, Repr

def IpcSecLockInfomationResponseData.read (data : Bytes) : Option IpcSecLockInfomationResponseData :=
  if data.length < 4 then none else some ⟨byteAt data 1, byteAt data 2, byteAt data 3⟩

end Ril.Ipc
