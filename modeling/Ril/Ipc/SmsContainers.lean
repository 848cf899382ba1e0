import Ril.Ipc.Sms
import Ril.Lib.Buffer

/-! What a receiver makes of the SMSC and the PDU of a short message that is sent or saved. -/

namespace Ril.Ipc

open Lib

def ipcSmsSendMsgHeaderSize : ℕ := 4

def ipcSmsSaveMsgHeaderSize : ℕ := 5

def ipcSmsSendMsgSizeSetup (smsc pdu : Bytes) : ℕ :=
  if smsc.isEmpty || pdu.isEmpty then 0 else ipcSmsSendMsgHeaderSize + 1 + smsc.length + pdu.length

def ipcSmsSaveMsgSizeSetup (smsc : Option Bytes) (pdu : Bytes) : ℕ :=
  if pdu.isEmpty then 0 else ipcSmsSaveMsgHeaderSize + 1 + (smsc.getD []).length + pdu.length

/-- The last byte of the header counts what follows it, the next byte the SMSC. -/
def decodeContainer (headerSize : ℕ) (data : Bytes) : Option (Bytes × Bytes) :=
  let length := (byteAt data (headerSize - 1)).toNat
  let smscLength := (byteAt data headerSize).toNat
  let container := (data.drop (headerSize + 1)).take (length - 1)
  if length < 1 + smscLength ∨ data.length < headerSize + length then none
  else some (container.take smscLength, container.drop smscLength)

variable {headerSize : ℕ} {header smsc pdu : Bytes}

lemma sms_container_parts (smsc pdu : Bytes) :
    smsContainer smsc pdu = [[UInt8.ofNat smsc.length], smsc, pdu].flatten := by
  simp [smsContainer]

/-- The block of the size that is computed is filled by the copies of the header, the length byte, the SMSC and the
PDU. -/
lemma send_msg_copies (type msgType : UInt8) (hs : smsc ≠ []) (hp : pdu ≠ []) :
    copyAll (List.replicate (ipcSmsSendMsgSizeSetup smsc pdu) 0) 0
      [[type, msgType, 0, UInt8.ofNat (1 + smsc.length + pdu.length)], [UInt8.ofNat smsc.length], smsc, pdu] =
    ipcSmsSendMsgSetup type msgType smsc pdu := by
  have hempty : (smsc.isEmpty || pdu.isEmpty) = false := by simp [hs, hp]
  rw [ipcSmsSendMsgSetup, ipcSmsSendMsgSizeSetup, hempty, sms_container_parts, copy_all_some]
  · rfl
  · simp [ipcSmsSendMsgHeaderSize]
    omega

lemma save_msg_copies (status : UInt8) (smsc : Option Bytes) (hp : pdu ≠ []) :
    copyAll (List.replicate (ipcSmsSaveMsgSizeSetup smsc pdu) 0) 0
      [2 :: shortBytes (12 - 1) ++ [status, UInt8.ofNat (1 + (smsc.getD []).length + pdu.length)],
        [UInt8.ofNat (smsc.getD []).length], smsc.getD [], pdu] =
    ipcSmsSaveMsgSetup status smsc pdu := by
  have hempty : pdu.isEmpty = false := by simp [hp]
  rw [ipcSmsSaveMsgSetup, ipcSmsSaveMsgSizeSetup, hempty, sms_container_parts, copy_all_some]
  · rfl
  · simp [ipcSmsSaveMsgHeaderSize, shortBytes]
    omega

/-- Both length bytes are cut to their width, so that the container is read back exactly where they are not. -/
lemma decode_container_iff (hh : header.length + 1 = headerSize) (smsc pdu : Bytes) :
    decodeContainer headerSize (header ++ [UInt8.ofNat (1 + smsc.length + pdu.length)] ++ smsContainer smsc pdu) =
      some (smsc, pdu) ↔ 1 + smsc.length + pdu.length < 256 := by
  subst hh
  have hlength : byteAt (header ++ [UInt8.ofNat (1 + smsc.length + pdu.length)] ++ smsContainer smsc pdu)
      (header.length + 1 - 1) = UInt8.ofNat (1 + smsc.length + pdu.length) := by
    simp [byteAt]
  have hsmsc : byteAt (header ++ [UInt8.ofNat (1 + smsc.length + pdu.length)] ++ smsContainer smsc pdu)
      (header.length + 1) = UInt8.ofNat smsc.length := by
    simp [byteAt, smsContainer]
  have hdrop : (header ++ [UInt8.ofNat (1 + smsc.length + pdu.length)] ++ smsContainer smsc pdu).drop
      (header.length + 1 + 1) = smsc ++ pdu := by
    have hparts : header ++ [UInt8.ofNat (1 + smsc.length + pdu.length)] ++ smsContainer smsc pdu =
        header ++ [UInt8.ofNat (1 + smsc.length + pdu.length)] ++ [UInt8.ofNat smsc.length] ++ (smsc ++ pdu) := by
      simp only [smsContainer, List.append_assoc, List.cons_append, List.nil_append]
    rw [hparts]
    exact List.drop_left' (by simp only [List.length_append, List.length_singleton])
  have hdata : (header ++ [UInt8.ofNat (1 + smsc.length + pdu.length)] ++ smsContainer smsc pdu).length =
      header.length + 1 + (1 + smsc.length + pdu.length) := by
    simp [smsContainer]
    omega
  rw [decodeContainer, hlength, hsmsc, hdrop, hdata, UInt8.toNat_ofNat', UInt8.toNat_ofNat']
  constructor
  · intro h
    split at h
    · cases h
    · obtain ⟨h1, h2⟩ := Prod.mk.inj (Option.some.inj h)
      have hl1 := congrArg List.length h1
      have hl2 := congrArg List.length h2
      simp only [List.length_take, List.length_drop, List.length_append] at hl1 hl2
      omega
  · intro h
    have hall : (1 + smsc.length + pdu.length) % 2 ^ 8 = 1 + smsc.length + pdu.length := Nat.mod_eq_of_lt (by omega)
    have hpart : smsc.length % 2 ^ 8 = smsc.length := Nat.mod_eq_of_lt (by omega)
    have htake : (smsc ++ pdu).take (1 + smsc.length + pdu.length - 1) = smsc ++ pdu :=
      List.take_of_length_le (by rw [List.length_append]; omega)
    rw [hall, hpart, if_neg (by omega), htake, List.take_left, List.drop_left]

lemma send_msg_decodable_iff (type msgType : UInt8) (smsc pdu : Bytes) :
    (∀ data, ipcSmsSendMsgSetup type msgType smsc pdu = some data →
      decodeContainer ipcSmsSendMsgHeaderSize data = some (smsc, pdu)) ↔
    smsc = [] ∨ pdu = [] ∨ 1 + smsc.length + pdu.length < 256 := by
  have hiff := @decode_container_iff ipcSmsSendMsgHeaderSize [type, msgType, 0] rfl smsc pdu
  by_cases hs : smsc = []
  · simp [ipcSmsSendMsgSetup, hs]
  · by_cases hp : pdu = []
    · simp [ipcSmsSendMsgSetup, hp]
    · have hempty : (smsc.isEmpty || pdu.isEmpty) = false := by simp [hs, hp]
      rw [ipcSmsSendMsgSetup, hempty, or_iff_right hs, or_iff_right hp, ← hiff]
      exact ⟨fun h => h _ rfl, fun h data hd => Option.some.inj hd ▸ h⟩

lemma save_msg_decodable_iff (status : UInt8) (smsc : Option Bytes) (pdu : Bytes) :
    (∀ data, ipcSmsSaveMsgSetup status smsc pdu = some data →
      decodeContainer ipcSmsSaveMsgHeaderSize data = some (smsc.getD [], pdu)) ↔
    pdu = [] ∨ 1 + (smsc.getD []).length + pdu.length < 256 := by
  have hiff := @decode_container_iff ipcSmsSaveMsgHeaderSize (2 :: shortBytes (12 - 1) ++ [status]) rfl
    (smsc.getD []) pdu
  by_cases hp : pdu = []
  · simp [ipcSmsSaveMsgSetup, hp]
  · have hempty : pdu.isEmpty = false := by simp [hp]
    rw [ipcSmsSaveMsgSetup, hempty, or_iff_right hp, ← hiff]
    exact ⟨fun h => h _ rfl, fun h data hd => Option.some.inj hd ▸ h⟩

/-- A container that is accepted is read back exactly where one byte holds the count of its length byte, SMSC and
PDU; none is rejected for its length. -/
theorem sms_container_decodable_iff (type msgType status : UInt8) (sendSmsc pdu : Bytes) (saveSmsc : Option Bytes) :
    ((∀ data, ipcSmsSendMsgSetup type msgType sendSmsc pdu = some data →
      decodeContainer ipcSmsSendMsgHeaderSize data = some (sendSmsc, pdu)) ↔
      sendSmsc = [] ∨ pdu = [] ∨ 1 + sendSmsc.length + pdu.length < 256) ∧
    ((∀ data, ipcSmsSaveMsgSetup status saveSmsc pdu = some data →
      decodeContainer ipcSmsSaveMsgHeaderSize data = some (saveSmsc.getD [], pdu)) ↔
      pdu = [] ∨ 1 + (saveSmsc.getD []).length + pdu.length < 256) :=
  ⟨send_msg_decodable_iff type msgType sendSmsc pdu, save_msg_decodable_iff status saveSmsc pdu⟩

/-- A PDU of 255 bytes is accepted without a SMSC, one of 254 bytes with a SMSC of one byte, and neither is read
back. -/
theorem sms_container_undecodable :
    (∃ data, ipcSmsSaveMsgSetup 1 none (List.replicate 255 0) = some data ∧
      decodeContainer ipcSmsSaveMsgHeaderSize data ≠ some ([], List.replicate 255 0)) ∧
    ∃ data, ipcSmsSendMsgSetup 2 2 [0x00] (List.replicate 254 0) = some data ∧
      decodeContainer ipcSmsSendMsgHeaderSize data ≠ some ([0x00], List.replicate 254 0) := by
  constructor
  · by_contra h
    have hdecodable := (save_msg_decodable_iff 1 none (List.replicate 255 0)).mp fun data hd =>
      not_not.mp fun hne => h ⟨data, hd, hne⟩
    simp only [List.replicate_eq_nil_iff, Option.getD_none, List.length_nil, List.length_replicate] at hdecodable
    omega
  · by_contra h
    have hdecodable := (send_msg_decodable_iff 2 2 [0x00] (List.replicate 254 0)).mp fun data hd =>
      not_not.mp fun hne => h ⟨data, hd, hne⟩
    simp only [List.replicate_eq_nil_iff, List.cons_ne_nil, false_or, List.length_singleton,
      List.length_replicate] at hdecodable
    omega

end Ril.Ipc
