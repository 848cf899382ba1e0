import Mathlib.Data.Int.Notation
import Mathlib.Data.List.Basic

/-! Commands, types and headers of the messages exchanged with the modem. -/

namespace Ril.Ipc

abbrev Bytes := List UInt8

/-- A C string, without its final NUL. -/
abbrev CString := Bytes

def ascii (cs : List Char) : CString := cs.map fun c => UInt8.ofNat c.toNat

def byteAt (data : Bytes) (offset : ℕ) : UInt8 := data.getD offset 0

/-- `memcpy` into a zeroed field of `n` bytes; what exceeds the field is cut. -/
def field (n : ℕ) (data : Bytes) : Bytes := (data ++ List.replicate n 0).take n

/-- A little-endian 16-bit field. -/
def shortAt (data : Bytes) (offset : ℕ) : ℕ :=
  (byteAt data offset).toNat + 256 * (byteAt data (offset + 1)).toNat

def shortBytes (n : ℕ) : Bytes := [UInt8.ofNat n, UInt8.ofNat (n / 256)]

/-- A little-endian 32-bit field. -/
def intAt (data : Bytes) (offset : ℕ) : ℕ := shortAt data offset + 65536 * shortAt data (offset + 2)

def intBytes (n : ℕ) : Bytes := shortBytes n ++ shortBytes (n / 65536)

@[simp] lemma field_length (n : ℕ) (data : Bytes) : (field n data).length = n := by
  simp [field]

inductive IpcCommand
  | pwrPhonePwrUp | pwrPhoneReset | pwrPhoneState
  | callOutgoing | callIncoming | callRelease | callAnswer | callStatus | callList
  | callBurstDtmf | callContDtmf
  | smsSendMsg | smsIncomingMsg | smsSaveMsg | smsDelMsg | smsDeliverReport | smsSvcCenterAddr
  | secPinStatus | secPhoneLock | secChangeLockingPw | secRsimAccess | secSimIccType
  | secLockInfomation
  | dispIconInfo | dispRssiInfo
  | netPlmnSel | netServingNetwork | netPlmnList | netRegist | netModeSel
  | sndSpkrVolumeCtrl | sndMicMuteCtrl | sndAudioPathCtrl | sndClockCtrl
  | miscMeVersion | miscMeImsi | miscMeSn | miscTimeInfo
  | svcEnter | svcEnd | svcProKeycode | svcDisplayScreen
  | gprsDefinePdpContext | gprsPs | gprsPdpContext | gprsIpConfiguration | gprsHsdpaStatus
  | gprsCallStatus
  | genPhoneRes
  | other (code : ℕ)
deriving DecidableEq, Repr

def IpcCommand.code : IpcCommand → ℕ
  | pwrPhonePwrUp => 0x0101
  | pwrPhoneReset => 0x0103
  | pwrPhoneState => 0x0107
  | callOutgoing => 0x0201
  | callIncoming => 0x0202
  | callRelease => 0x0203
  | callAnswer => 0x0204
  | callStatus => 0x0205
  | callList => 0x0206
  | callBurstDtmf => 0x0207
  | callContDtmf => 0x0208
  | smsSendMsg => 0x0401
  | smsIncomingMsg => 0x0402
  | smsSaveMsg => 0x0404
  | smsDelMsg => 0x0405
  | smsDeliverReport => 0x0406
  | smsSvcCenterAddr => 0x040A
  | secPinStatus => 0x0501
  | secPhoneLock => 0x0502
  | secChangeLockingPw => 0x0503
  | secRsimAccess => 0x0505
  | secSimIccType => 0x0507
  | secLockInfomation => 0x0508
  | dispIconInfo => 0x0701
  | dispRssiInfo => 0x0706
  | netPlmnSel => 0x0802
  | netServingNetwork => 0x0803
  | netPlmnList => 0x0804
  | netRegist => 0x0805
  | netModeSel => 0x080A
  | sndSpkrVolumeCtrl => 0x0901
  | sndMicMuteCtrl => 0x0902
  | sndAudioPathCtrl => 0x0903
  | sndClockCtrl => 0x0909
  | miscMeVersion => 0x0A01
  | miscMeImsi => 0x0A02
  | miscMeSn => 0x0A03
  | miscTimeInfo => 0x0A05
  | svcEnter => 0x0B01
  | svcEnd => 0x0B02
  | svcProKeycode => 0x0B03
  | svcDisplayScreen => 0x0B05
  | gprsDefinePdpContext => 0x0D01
  | gprsPs => 0x0D03
  | gprsPdpContext => 0x0D04
  | gprsIpConfiguration => 0x0D09
  | gprsHsdpaStatus => 0x0D0C
  | gprsCallStatus => 0x0D10
  | genPhoneRes => 0x8001
  | other code => code

inductive IpcRequestType
  | exec | get | set
deriving DecidableEq, Repr

inductive IpcResponseType
  | indi | resp | noti | other (type : ℕ)
deriving DecidableEq, Repr

/-- A message received from the modem. -/
structure IpcMessage where
  aseq : UInt8
  command : IpcCommand
  type : IpcResponseType
  data : Bytes
deriving DecidableEq, Repr

/-- A message handed to `ipc_client_send`. -/
structure IpcRequest where
  mseq : UInt8
  command : IpcCommand
  type : IpcRequestType
  data : Bytes
deriving DecidableEq, Repr

def ipcSeqValid (seq : UInt8) : Bool := !(seq == 0x00 || seq == 0xff)

end Ril.Ipc
