import Ril.Samsung.Sms
import Ril.Lib.SubmitTpdu

/-! The two ways of a short message to the modem: with the SMSC of the request, and with the one of the modem. -/

namespace Ril.Samsung

open Ril.Ipc Ril.Lib

/-- What the scan visits is in a PDU of this size. -/
def ScanFits (pdu : ℕ → UInt8) (size : ℕ) : Prop :=
  2 < size ∧ ((pdu 2).toNat ≤ 127 → 2 + (pdu 2).toNat < size ∧
    (5 ≤ (pdu (2 + (pdu 2).toNat)).toNat ∧ (pdu (2 + (pdu 2).toNat)).toNat ≤ 127 → 6 + (pdu 2).toNat < size ∧
      ((pdu (6 + (pdu 2).toNat)).toNat ≤ 15 → 7 + (pdu 2).toNat < size)))

instance (pdu : ℕ → UInt8) (size : ℕ) : Decidable (ScanFits pdu size) := inferInstanceAs (Decidable (_ ∧ _))

section

variable {memory : ℕ → UInt8} {pdu : ℕ → UInt8} {size : ℕ}

lemma scan_reads_iff : (∀ i ∈ smsScanReads pdu, i < size) ↔ ScanFits pdu size := by
  have h4 : 2 + (pdu 2).toNat + 4 = 6 + (pdu 2).toNat := by omega
  have h5 : 2 + (pdu 2).toNat + 5 = 7 + (pdu 2).toNat := by omega
  rw [smsScanReads, ScanFits]
  simp only [h4, h5]
  by_cases ha : 127 < (pdu 2).toNat
  · have hle : ¬ (pdu 2).toNat ≤ 127 := by omega
    simp [ha, hle]
  · have hle : (pdu 2).toNat ≤ 127 := by omega
    by_cases hh : 127 < (pdu (2 + (pdu 2).toNat)).toNat ∨ (pdu (2 + (pdu 2).toNat)).toNat < 5
    · have hnot : ¬ (5 ≤ (pdu (2 + (pdu 2).toNat)).toNat ∧ (pdu (2 + (pdu 2).toNat)).toNat ≤ 127) := by omega
      simp [ha, hle, hh, hnot]
    · have hyes : 5 ≤ (pdu (2 + (pdu 2).toNat)).toNat ∧ (pdu (2 + (pdu 2).toNat)).toNat ≤ 127 := by omega
      by_cases hc : 15 < (pdu (6 + (pdu 2).toNat)).toNat
      · have hnot : ¬ (pdu (6 + (pdu 2).toNat)).toNat ≤ 15 := by omega
        simp [ha, hle, hh, hyes, hc, hnot]
      · have hyes' : (pdu (6 + (pdu 2).toNat)).toNat ≤ 15 := by omega
        simp [ha, hle, hh, hyes, hc, hyes']

lemma BlockAt.byte {address : ℕ} {data : Bytes} (h : BlockAt memory address data) {i : ℕ} (hi : i < data.length) :
    memory (address + i) = byteAt data i := by
  have hget : (cellsAt memory address data.length)[i]? = some (memory (address + i)) := cells_at_get hi
  rw [h] at hget
  simp [byteAt, hget]

lemma BlockAt.tail {address : ℕ} {b : UInt8} {data : Bytes} (h : BlockAt memory address (b :: data)) :
    memory address = b ∧ BlockAt memory (address + 1) data := by
  simpa [BlockAt, cellsAt] using h

/-! ### The calls in memory and those on lists -/

lemma cells_of_bytes {address : ℕ} {data : Bytes} (h : ∀ i, memory (address + i) = byteAt data i) (n : ℕ) :
    cellsAt memory address n = field n data := by
  apply List.ext_getElem?
  intro i
  by_cases hi : i < n
  · rw [cells_at_get hi, h, field, List.getElem?_take_of_lt hi, byteAt]
    by_cases hd : i < data.length
    · simp [List.getElem?_append_left hd, hd]
    · have hrep : i - data.length < n := by omega
      simp [List.getElem?_append_right (Nat.le_of_not_lt hd), hd, hrep]
  · have hle : n ≤ i := Nat.le_of_not_lt hi
    have hfield : (field n data).length ≤ i := by simp [field, hle]
    rw [List.getElem?_eq_none (by simpa using hle), List.getElem?_eq_none hfield]

lemma supplied_payload {smsc pduAt : ℕ} {decoded data : Bytes} (hs : ∀ i, memory (smsc + i) = byteAt decoded i)
    (hp : BlockAt memory pduAt data) : (suppliedCall memory smsc pduAt data.length).payload memory =
      ipcSmsSendMsgSetup ipcSmsTypeOutgoing (smsMsgType (decoded.drop 1)) data
        (field (byteAt decoded 0).toNat (decoded.drop 1)) := by
  have hbytes (i : ℕ) : memory (smsc + 1 + i) = byteAt (decoded.drop 1) i := by
    rw [Nat.add_assoc, hs, byteAt, byteAt, Nat.add_comm 1 i]
    simp
  have hscan : (fun i => memory (smsc + 1 + i)) = byteAt (decoded.drop 1) := funext hbytes
  have hlen : memory smsc = byteAt decoded 0 := hs 0
  simp only [SmsCall.payload, SmsCall.msgType, suppliedCall]
  rw [hscan, hlen, hp, cells_of_bytes hbytes]
  rfl

lemma fetched_payload {dataAt pduAt : ℕ} {length : UInt8} {rest data : Bytes}
    (ha : BlockAt memory dataAt (length :: rest)) (hp : BlockAt memory pduAt data)
    (hscan : ∀ i, memory (pduAt + i) = byteAt data i) :
    (fetchedCall memory dataAt (length :: rest).length pduAt data.length).bind (·.payload memory) =
      (ipcSmsSvcCenterAddrSmscExtract (length :: rest)).bind fun smsc =>
        ipcSmsSendMsgSetup ipcSmsTypeOutgoing (smsMsgType data) smsc data := by
  obtain ⟨hlen, hrest⟩ := ha.tail
  have hextract : ipcSmsSvcCenterAddrSmscExtract (length :: rest) =
      if length.toNat = 0 ∨ rest.length < length.toNat then none else some (rest.take length.toNat) := by
    simp [ipcSmsSvcCenterAddrSmscExtract, announcedPayload, byteAt, ← UInt8.toNat_inj]
  rw [fetchedCall, hlen, hextract, List.length_cons, Nat.add_sub_cancel]
  split
  · rfl
  · rename_i hfits
    have hle : length.toNat ≤ rest.length := by omega
    have hsmsc : cellsAt memory (dataAt + 1) length.toNat = rest.take length.toNat := by
      rw [← cells_at_take hle, hrest]
    have hbytes : (fun i => memory (pduAt + i)) = byteAt data := funext hscan
    simp only [Option.bind_some, SmsCall.payload, SmsCall.msgType]
    rw [hsmsc, hp, hbytes]
    rfl

/-! ### The payloads of the two ways -/

lemma setup_eq_iff {type type' : UInt8} {address data : Bytes} (ha : address ≠ []) (hd : data ≠ []) :
    ipcSmsSendMsgSetup ipcSmsTypeOutgoing type data address = ipcSmsSendMsgSetup ipcSmsTypeOutgoing type' address data ↔
      data ++ address = address ++ data ∧ data.length % 256 = address.length % 256 ∧ type = type' := by
  have he : address.isEmpty = false := by simpa using ha
  have hf : data.isEmpty = false := by simpa using hd
  have hmod : UInt8.ofNat data.length = UInt8.ofNat address.length ↔ data.length % 256 = address.length % 256 := by
    rw [← UInt8.toNat_inj, UInt8.toNat_ofNat', UInt8.toNat_ofNat']
  have hsum : 1 + data.length + address.length = 1 + address.length + data.length := by omega
  simp only [ipcSmsSendMsgSetup, he, hf, Bool.or_self, Bool.false_eq_true, if_false, Option.some.injEq, smsContainer,
    List.cons_append, List.nil_append, List.cons.injEq, true_and, hsum, hmod]
  constructor
  · rintro ⟨ht, hl, hc⟩
    exact ⟨hc, hl, ht⟩
  · rintro ⟨hc, hl, ht⟩
    exact ⟨ht, hl, hc⟩

lemma decoded_reads {smscAt pduAt : ℕ} {data decoded : Bytes} (hne : data ≠ []) (hd : decoded ≠ [])
    (hs : BlockAt memory smscAt decoded) :
    (∀ a ∈ suppliedReads memory smscAt pduAt data.length, a < smscAt + decoded.length) ↔
      (byteAt decoded 0).toNat = 0 ∨ (byteAt decoded 0).toNat < decoded.length ∧
        ScanFits (fun i => memory (smscAt + 1 + i)) (decoded.length - 1) := by
  have hpos : 0 < decoded.length := List.length_pos_of_ne_nil hd
  have hlen : memory smscAt = byteAt decoded 0 := hs.byte hpos
  have hdata : data.length ≠ 0 := by simpa using hne
  rw [suppliedReads, SmsCall.pduReads]
  simp only [suppliedCall, hlen, List.forall_mem_cons]
  by_cases h0 : (byteAt decoded 0).toNat = 0
  · simp [h0, hpos]
  · have hnot : ¬ (data.length = 0 ∨ (byteAt decoded 0).toNat = 0) := by omega
    rw [if_neg hnot, List.forall_mem_append, ← scan_reads_iff]
    simp only [List.forall_mem_map, List.mem_range'_1]
    constructor
    · rintro ⟨-, hscan, hcopy⟩
      have hlast := hcopy (smscAt + 1 + ((byteAt decoded 0).toNat - 1)) (by omega)
      refine .inr ⟨by omega, fun i hi => ?_⟩
      have hbound := hscan i hi
      omega
    · rintro (h | ⟨hle, hscan⟩)
      · exact absurd h h0
      · refine ⟨by omega, fun i hi => ?_, fun a ha => by omega⟩
        have hbound := hscan i hi
        omega

end

/-- The payloads are equal, and the reads are within the decoded SMSC, exactly when these conditions hold. -/
theorem sms_send_paths (memory : ℕ → UInt8) {smscAt pduAt parkedAt dataAt : ℕ} {pdu : Bytes} (hne : pdu ≠ [])
    (hp : BlockAt memory pduAt pdu) (hq : BlockAt memory parkedAt pdu) :
    (∀ (address : Bytes) (string : CString) (decoded : Bytes), address.length < 256 →
      data2string (UInt8.ofNat address.length :: address) = some string → string2data string = some decoded →
      BlockAt memory smscAt decoded → BlockAt memory dataAt (UInt8.ofNat address.length :: address) →
      ((suppliedCall memory smscAt pduAt pdu.length).payload memory =
          (fetchedCall memory dataAt (address.length + 1) parkedAt pdu.length).bind (·.payload memory) ↔
        address = [] ∨ pdu ++ address = address ++ pdu ∧ pdu.length % 256 = address.length ∧
          smsScanType (fun i => memory (smscAt + 1 + i)) = smsScanType fun i => memory (parkedAt + i))) ∧
    ∀ (string : CString) (decoded : Bytes), string2data string = some decoded → BlockAt memory smscAt decoded →
      ((∀ a ∈ suppliedReads memory smscAt pduAt pdu.length, a < smscAt + decoded.length) ↔
        (byteAt decoded 0).toNat = 0 ∨ (byteAt decoded 0).toNat < decoded.length ∧
          ScanFits (fun i => memory (smscAt + 1 + i)) (decoded.length - 1)) := by
  refine ⟨fun address string decoded hlt hstring hdecoded hs hd => ?_, fun string decoded hdecoded hs =>
    decoded_reads hne (string_data_ne_nil hdecoded) hs⟩
  rw [string2data_data2string hstring] at hdecoded
  obtain rfl := Option.some.inj hdecoded
  obtain ⟨hslen, hsmsc⟩ := hs.tail
  obtain ⟨hdlen, hdata⟩ := hd.tail
  have hlen : (UInt8.ofNat address.length).toNat = address.length := by
    rw [UInt8.toNat_ofNat']
    exact Nat.mod_eq_of_lt hlt
  rw [fetchedCall, hdlen, hlen]
  by_cases h0 : address = []
  · subst h0
    simp [SmsCall.payload, suppliedCall, hslen, cellsAt, ipcSmsSendMsgSetup]
  · have hpos : ¬ (address.length = 0 ∨ address.length + 1 - 1 < address.length) := by
      simpa using h0
    rw [if_neg hpos, Option.bind_some]
    simp only [SmsCall.payload, SmsCall.msgType, suppliedCall, hslen, hlen]
    rw [hp, hq, hsmsc, hdata, setup_eq_iff h0 hne, Nat.mod_eq_of_lt hlt]
    simp [h0]

/-- The blocks of a request and of an answer, at 0, 16, 32 and 48: the SMSC of the request, the PDU twice, the answer -/
def sendMemory (address pdu : Bytes) : ℕ → UInt8 :=
  byteAt (field 16 (UInt8.ofNat address.length :: address) ++ field 16 pdu ++ field 16 pdu ++
    field 16 (UInt8.ofNat address.length :: address))

theorem sms_send_paths_same :
    let memory := sendMemory [0x01, 0x02, 0x80] [0x01, 0x02, 0x80]
    (suppliedCall memory 0 16 3).payload memory = (fetchedCall memory 48 4 32 3).bind (·.payload memory) ∧
      ∀ a ∈ suppliedReads memory 0 16 3, a < 0 + 4 := by
  have h := @sms_send_paths (sendMemory [0x01, 0x02, 0x80] [0x01, 0x02, 0x80]) 0 16 32 48 [0x01, 0x02, 0x80] (by decide)
    (by decide) (by decide)
  refine ⟨(h.1 [0x01, 0x02, 0x80] _ _ (by decide) rfl rfl (by decide) (by decide)).mpr (by decide), ?_⟩
  refine (h.2 (ascii ['0', '3', '0', '1', '0', '2', '8', '0']) _ rfl (by decide)).mpr ?_
  decide

/-- An address of two bytes: another payload than with the address of the modem, and the scan reads behind the SMSC. -/
theorem sms_send_paths_fail :
    let memory := sendMemory [0x91, 0x21] [0x01, 0x00, 0x04, 0x91]
    (string2data (ascii ['0', '2', '9', '1', '2', '1']) = some [0x02, 0x91, 0x21] ∧
        BlockAt memory 0 [0x02, 0x91, 0x21]) ∧
      (suppliedCall memory 0 16 4).payload memory =
        some [0x02, 0x02, 0x00, 0x07, 0x04, 0x01, 0x00, 0x04, 0x91, 0x91, 0x21] ∧
      (fetchedCall memory 48 3 32 4).bind (·.payload memory) =
        some [0x02, 0x02, 0x00, 0x07, 0x02, 0x91, 0x21, 0x01, 0x00, 0x04, 0x91] ∧
      3 ∈ suppliedReads memory 0 16 4 := by
  decide

end Ril.Samsung

/-! The message type of a PDU, and the octets it is taken from. -/

namespace Ril.Samsung

open Ril.Ipc Ril.Lib

/-- The octets that are taken for the length of the header, for the count and for the index: as many octets behind
the third one as the address has digits. -/
def LooksMultipart (t : SubmitTpdu) (octet : ℕ → UInt8) : Prop :=
  t.digits ≤ 127 ∧ (5 ≤ (octet (2 + t.digits)).toNat ∧ (octet (2 + t.digits)).toNat ≤ 127) ∧
    (2 ≤ (octet (6 + t.digits)).toNat ∧ (octet (6 + t.digits)).toNat ≤ 15) ∧
    (octet (7 + t.digits)).toNat ≤ (octet (6 + t.digits)).toNat

instance (t : SubmitTpdu) (octet : ℕ → UInt8) : Decidable (LooksMultipart t octet) :=
  inferInstanceAs (Decidable (_ ∧ _))

section

variable {t : SubmitTpdu} {memory : ℕ → UInt8} {call : SmsCall}

lemma block_digits (h : BlockAt memory call.pdu t.octets) : (memory (call.pdu + 2)).toNat = t.digits := by
  have hlen : 2 < t.octets.length := by simp [SubmitTpdu.octets]
  rw [h.byte hlen, byteAt, List.getD_eq_getElem?_getD, t.octets_digits, Option.getD_some, UInt8.toNat_ofNat']
  exact Nat.mod_eq_of_lt t.digits_lt

lemma block_user_data (h : BlockAt memory call.pdu t.octets) {i : ℕ} {octet : UInt8} (hi : t.userData[i]? = some octet) :
    memory (call.pdu + (t.start + i)) = octet := by
  have hget := t.octets_user_data i
  rw [hi] at hget
  obtain ⟨hlen, -⟩ := List.getElem?_eq_some_iff.mp hget
  rw [h.byte hlen, byteAt, List.getD_eq_getElem?_getD, hget]
  rfl

lemma msg_type_multiple_iff (h : BlockAt memory call.pdu t.octets) : call.msgType memory = ipcSmsMsgTypeMultiple ↔
    LooksMultipart t fun i => memory (call.pdu + i) := by
  have h4 : 2 + t.digits + 4 = 6 + t.digits := by omega
  have h5 : 2 + t.digits + 5 = 7 + t.digits := by omega
  have hne : ipcSmsMsgTypeSingle ≠ ipcSmsMsgTypeMultiple := by decide
  rw [SmsCall.msgType, smsScanType, LooksMultipart]
  simp only [block_digits h, h4, h5]
  generalize memory (call.pdu + (2 + t.digits)) = header
  generalize memory (call.pdu + (6 + t.digits)) = count
  generalize memory (call.pdu + (7 + t.digits)) = index
  split
  · simp only [hne, false_iff]
    omega
  · split
    · simp only [hne, false_iff]
      omega
    · split
      · simp only [hne, false_iff]
        omega
      · split
        · simp only [hne, false_iff]
          omega
        · split
          · simp only [true_iff]
            omega
          · simp only [hne, false_iff]
            omega

lemma pdu_reads_iff : (∀ a ∈ call.pduReads memory, a < call.pdu + call.pduSize) ↔
    call.smscSize = 0 ∨ call.pduSize = 0 ∨ ScanFits (fun i => memory (call.pdu + i)) call.pduSize := by
  rw [SmsCall.pduReads, ← or_assoc, ← scan_reads_iff]
  by_cases h : call.smscSize = 0 ∨ call.pduSize = 0
  · simp [h]
  · rw [if_neg h, List.forall_mem_append]
    simp only [h, false_or, List.forall_mem_map, List.mem_range'_1]
    constructor
    · rintro ⟨hscan, -⟩ i hi
      have hbound := hscan i hi
      omega
    · intro hscan
      refine ⟨fun i hi => ?_, fun a ha => ha.2⟩
      have hbound := hscan i hi
      omega

/-- When the digits of the address happen to count the octets up to the header, and the header starts with the
element, the scan finds it. -/
theorem aligned_multipart (h : BlockAt memory call.pdu t.octets) (ha : t.digits / 2 = 5 + t.validity.octets.length)
    (hd : t.digits ≤ 127) {reference total number : UInt8} {e : InformationElement} {es : List InformationElement}
    (hh : t.header = some (e :: es)) (hid : e.id = 0) (he : e.data = [reference, total, number])
    (hlen : ((e :: es).flatMap InformationElement.octets).length ≤ 127) (htotal : 1 < total.toNat)
    (hmax : total.toNat ≤ 15) (hnumber : number.toNat ≤ total.toNat) :
    call.msgType memory = ipcSmsMsgTypeMultiple := by
  have hstart : 2 + t.digits = t.start + 0 ∧ 6 + t.digits = t.start + 4 ∧ 7 + t.digits = t.start + 5 := by
    simp only [SubmitTpdu.start]
    omega
  have hoctets : e.octets = [0, 3, reference, total, number] := by
    rw [InformationElement.octets, hid, he]
    rfl
  have huser : t.userData = UInt8.ofNat ((e :: es).flatMap InformationElement.octets).length ::
      [0, 3, reference, total, number] ++ (es.flatMap InformationElement.octets ++ t.text) := by
    simp [SubmitTpdu.userData, hh, hoctets]
  have hfive : 5 ≤ ((e :: es).flatMap InformationElement.octets).length := by
    simp [hoctets]
  rw [msg_type_multiple_iff h, LooksMultipart, hstart.1, hstart.2.1, hstart.2.2,
    block_user_data h (i := 0) (by rw [huser]; rfl), block_user_data h (i := 4) (by rw [huser]; rfl),
    block_user_data h (i := 5) (by rw [huser]; rfl), UInt8.toNat_ofNat']
  have hmod : ((e :: es).flatMap InformationElement.octets).length % 2 ^ 8 =
      ((e :: es).flatMap InformationElement.octets).length := Nat.mod_eq_of_lt (by omega)
  rw [hmod]
  exact ⟨hd, ⟨hfive, hlen⟩, ⟨htotal, hmax⟩, hnumber⟩

end

/-- The message type is right, and the reads are within the PDU, exactly when these conditions hold. -/
theorem multipart_detected (memory : ℕ → UInt8) (call : SmsCall) :
    (∀ t : SubmitTpdu, BlockAt memory call.pdu t.octets →
      ((call.msgType memory = ipcSmsMsgTypeMultiple ↔ t.Concatenated) ↔
        (t.Concatenated ↔ LooksMultipart t fun i => memory (call.pdu + i)))) ∧
    ((∀ a ∈ call.pduReads memory, a < call.pdu + call.pduSize) ↔
      call.smscSize = 0 ∨ call.pduSize = 0 ∨ ScanFits (fun i => memory (call.pdu + i)) call.pduSize) := by
  refine ⟨fun t h => ?_, pdu_reads_iff⟩
  rw [msg_type_multiple_iff h]
  exact iff_comm

/-- The first of two parts, with an address of 12 digits -/
def firstOfTwo : SubmitTpdu where
  rejectDuplicates := false
  statusReport := false
  replyPath := false
  reference := 0
  digits := 12
  digits_lt := by decide
  addressType := 0x91
  address := [0x94, 0x71, 0x32, 0x54, 0x76, 0x98]
  address_length := rfl
  protocolId := 0
  codingScheme := 0x04
  validity := .absent
  userDataLength := 8
  header := some [⟨0, [0x2a, 0x02, 0x01], by decide⟩]
  header_fits := by
    intro es h
    obtain rfl := Option.some.inj h
    decide
  text := [0x68, 0x69]

/-- The same with 11 digits -/
def firstOfTwoAligned : SubmitTpdu := { firstOfTwo with digits := 11, digits_lt := by decide, address_length := rfl }

theorem multipart_detected_aligned :
    SmsCall.msgType (byteAt firstOfTwoAligned.octets) ⟨64, 1, 0, firstOfTwoAligned.octets.length⟩ =
      ipcSmsMsgTypeMultiple ↔ firstOfTwoAligned.Concatenated := by
  refine ((multipart_detected (byteAt firstOfTwoAligned.octets) ⟨64, 1, 0, firstOfTwoAligned.octets.length⟩).1
    firstOfTwoAligned (by decide)).mpr ⟨fun _ => by decide, fun _ => ?_⟩
  exact ⟨_, rfl, _, List.mem_singleton_self _, 2, rfl, by decide⟩

/-- The first of two parts is sent as a single message, and the scan of a PDU of two octets reads the third one. -/
theorem multipart_detected_fails :
    (BlockAt (byteAt firstOfTwo.octets) 0 firstOfTwo.octets ∧ firstOfTwo.Concatenated ∧
      SmsCall.msgType (byteAt firstOfTwo.octets) ⟨64, 1, 0, firstOfTwo.octets.length⟩ = ipcSmsMsgTypeSingle) ∧
    2 ∈ SmsCall.pduReads (byteAt [0x01, 0x00]) ⟨64, 1, 0, 2⟩ := by
  refine ⟨⟨by decide, ?_, by decide⟩, by decide⟩
  exact ⟨_, rfl, _, List.mem_singleton_self _, 2, rfl, by decide⟩

end Ril.Samsung
