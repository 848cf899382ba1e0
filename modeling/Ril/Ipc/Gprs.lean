import Ril.Ipc.Utils

/-! Packet data messages. -/

namespace Ril.Ipc

def ipcGprsStatusNotEnabled : UInt8 := 0x00
def ipcGprsStatusEnabled : UInt8 := 0x01
def ipcGprsStatusDisabled : UInt8 := 0x03

def ipcGprsDefinePdpContextSetup (enable cid : UInt8) (apn : CString) : Bytes :=
  [enable, cid, 0x02] ++ field 124 apn

/-- The credentials are sent only when both are there. -/
def ipcGprsPdpContextRequestSetSetup (enable cid : UInt8) (username password : Option CString) : Bytes :=
  match username, password with
  | some username, some password =>
    if enable = 0 then [enable, cid] ++ List.replicate 101 0
    else [enable, cid, 0, 0, 0x13, 0] ++ field 32 username ++ field 32 password ++
      List.replicate 32 0 ++ [0x01]
  | _, _ => [enable, cid] ++ List.replicate 101 0

structure IpcGprsPsData where
  cid : UInt8
  attached : UInt8
deriving DecidableEq, Repr

def IpcGprsPsData.read (data : Bytes) : Option IpcGprsPsData :=
  if data.length < 2 then none else some ⟨byteAt data 0, byteAt data 1⟩

structure IpcGprsPdpContextRequestGetEntry where
  cid : UInt8
  active : UInt8
deriving DecidableEq, Repr

/-- The three entries that follow `active_count` -/
def ipcGprsPdpContextEntries (data : Bytes) : Option (List IpcGprsPdpContextRequestGetEntry) :=
  if data.length < 7 then none
  else some [⟨byteAt data 1, byteAt data 2⟩, ⟨byteAt data 3, byteAt data 4⟩,
    ⟨byteAt data 5, byteAt data 6⟩]

structure IpcGprsIpConfigurationData where
  cid : UInt8
  ip : Bytes
  dns1 : Bytes
  dns2 : Bytes
deriving DecidableEq, Repr

def IpcGprsIpConfigurationData.read (data : Bytes) : Option IpcGprsIpConfigurationData :=
  if data.length < 27 then none
  else some ⟨byteAt data 0, (data.drop 3).take 4, (data.drop 7).take 4, (data.drop 11).take 4⟩

structure IpcGprsCallStatusData where
  cid : UInt8
  status : UInt8
  failCause : UInt8
deriving DecidableEq, Repr

def IpcGprsCallStatusData.read (data : Bytes) : Option IpcGprsCallStatusData :=
  if data.length < 4 then none else some ⟨byteAt data 0, byteAt data 1, byteAt data 2⟩

end Ril.Ipc
