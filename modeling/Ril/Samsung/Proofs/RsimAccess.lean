import Ril.Samsung.MessageReaders

/-! Which answers to a SIM access are read inside of what was received. -/

namespace Ril.Samsung

open Lib Ipc

variable {message : Bytes}

/-- The positions of the payload that was received, after the header of three bytes -/
def InPayload (message : Bytes) (position : ℤ) : Prop := 3 ≤ position ∧ position < message.length

def payloadByte (message : Bytes) (offset : ℕ) : UInt8 := byteAt message (3 + offset)

def declaredLength (message : Bytes) : ℕ := (byteAt message 2).toNat

def usimOffset (message : Bytes) : ℕ := (payloadByte message 3).toNat

/-! ### The scan -/

lemma drop_byte (offset : ℕ) : byteAt (message.drop 3) offset = payloadByte message offset := by
  rw [payloadByte, byteAt, byteAt, List.getD_eq_getElem?_getD, List.getElem?_drop, ← List.getD_eq_getElem?_getD]

lemma memory_byte {base offset : ℤ} {k : ℕ} (h : base + offset = 3 + k) :
    messageMemory message (base + offset) = payloadByte message k := by
  have hnat : (base + offset).toNat = 3 + k := by omega
  rw [messageMemory, hnat, payloadByte]

lemma scan_le (data : Bytes) (length : ℕ) : scanFileSize data length ≤ length := by
  induction length with
  | zero => exact Nat.le_refl 0
  | succ offset ih =>
    rw [scanFileSize]
    split
    · split
      · omega
      · exact Nat.le_succ_of_le ih
    · exact Nat.le_refl _

/-- Where the scan ends above 2, the tag stands two bytes further on, and not again behind that. -/
lemma scan_found {data : Bytes} {length : ℕ} (h : 2 < scanFileSize data length) :
    scanFileSize data length + 2 ≤ length ∧ byteAt data (scanFileSize data length + 2) = 0x88 ∧
      ∀ j, scanFileSize data length + 2 < j → j ≤ length → byteAt data j ≠ 0x88 := by
  induction length with
  | zero =>
    rw [scanFileSize] at h
    omega
  | succ offset ih =>
    rw [scanFileSize] at h ⊢
    split at h
    · rename_i hoffset
      simp only [if_pos hoffset]
      by_cases htag : byteAt data (offset + 1) = 0x88
      · have hback : offset + 1 - 2 + 2 = offset + 1 := by omega
        simp only [if_pos htag, hback]
        exact ⟨Nat.le_refl _, htag, fun j hj hle => by omega⟩
      · simp only [if_neg htag] at h ⊢
        obtain ⟨hle, hfound, hlast⟩ := ih h
        refine ⟨by omega, hfound, fun j hj hjle => ?_⟩
        by_cases hjtag : j = offset + 1
        · rw [hjtag]
          exact htag
        · exact hlast j hj (by omega)
    · omega

lemma scan_reading_outcome (length : ℕ) : (scanReading (some 3) length).outcome (messageMemory message) =
    some (scanFileSize (message.drop 3) length) := by
  induction length with
  | zero => rfl
  | succ offset ih =>
    rw [scanReading, scanFileSize]
    split
    · rw [Reading.outcome_read_at, memory_byte (k := offset + 1) rfl, drop_byte]
      split
      · rfl
      · exact ih
    · rfl

lemma scan_reading_within {length : ℕ} (h : 3 + length < message.length) :
    (scanReading (some 3) length).Within (messageMemory message) (InPayload message) := by
  induction length with
  | zero => trivial
  | succ offset ih =>
    rw [scanReading]
    split
    · rw [Reading.within_read_at]
      refine ⟨⟨by omega, by omega⟩, ?_⟩
      split
      · trivial
      · exact ih (by omega)
    · trivial

/-! ### The payload -/

lemma declared_short (h : message.length < 3) : declaredLength message = 0 := by
  rw [declaredLength, byteAt, List.getD_eq_getElem?_getD, List.getElem?_eq_none (by omega)]
  rfl

lemma pointer_null (h : message.length < 3 + declaredLength message) : rsimPointer message = none := by
  rw [rsimPointer, ipcSecRsimAccessExtract]
  rw [declaredLength] at h
  split
  · rfl
  · rw [if_pos (.inr (by omega))]
    rfl

lemma pointer_some (h0 : byteAt message 2 ≠ 0) (h3 : 3 ≤ message.length)
    (h : 3 + declaredLength message ≤ message.length) : rsimPointer message = some 3 := by
  rw [declaredLength] at h
  have hextract : ¬(byteAt message 2 = 0 ∨ message.length - 3 < (byteAt message 2).toNat) := by
    rintro (hzero | hlt)
    · exact h0 hzero
    · omega
  rw [rsimPointer, ipcSecRsimAccessExtract, if_neg (by omega), if_neg hextract]
  rfl

lemma data_reading_within (h : 3 + declaredLength message ≤ message.length) :
    (data2stringReading (some 3) (declaredLength message)).Within (messageMemory message) (InPayload message) := by
  refine (Reading.within_bind _ _).mpr ⟨(Reading.within_read_cells 3 _).mpr fun i hi => ?_, fun _ _ => trivial⟩
  exact ⟨by omega, by omega⟩

section

variable {length : ℕ} {fileid : ℤ}

lemma usim_reading_short (h : length < 8) (usim : Option ℤ) : usimFileReading usim length fileid = pure .empty :=
  if_pos h

lemma usim_reading_null (h : 8 ≤ length) :
    ¬(usimFileReading none length fileid).Within (messageMemory message) (InPayload message) := by
  rw [usimFileReading, if_neg (by omega)]
  exact Reading.not_within_read_null _

/-- The reads of a USIM answer, all of which was received, stay inside of it unless the offset is too small. -/
lemma usim_reading_within (h8 : 8 ≤ length) (hlength : 3 + length ≤ message.length) :
    (usimFileReading (some 3) length fileid).Within (messageMemory message) (InPayload message) ↔
      (8 + usimOffset message ≤ length → 2 ≤ usimOffset message) := by
  have hmemory : (messageMemory message (3 + 3)).toNat = usimOffset message := rfl
  rw [usimFileReading, if_neg (by omega), Reading.within_read_at, hmemory]
  have hfirst : InPayload message (3 + 3) := ⟨by omega, by omega⟩
  by_cases hoffset : length < 8 + usimOffset message
  · rw [if_pos hoffset]
    exact iff_of_true ⟨hfirst, trivial⟩ (by omega)
  · rw [if_neg hoffset, Reading.within_read_at, Reading.within_read_at, Reading.within_bind]
    constructor
    · rintro ⟨-, ⟨hid, -⟩, -⟩ -
      omega
    · intro h
      have htwo := h (by omega)
      refine ⟨hfirst, ⟨by omega, by omega⟩, ⟨by omega, by omega⟩, scan_reading_within (by omega), ?_⟩
      intro size hsize
      rw [scan_reading_outcome] at hsize
      have hle := scan_le (message.drop 3) (length - 2)
      rw [Option.some.inj hsize] at hle
      split
      · trivial
      · exact ⟨⟨by omega, by omega⟩, ⟨by omega, by omega⟩, ⟨by omega, by omega⟩, ⟨by omega, by omega⟩, trivial⟩

lemma usim_reading_outcome : (usimFileReading (some 3) length fileid).outcome (messageMemory message) = some
    (if length < 8 then .empty
    else if length < 8 + usimOffset message then .empty
    else if scanFileSize (message.drop 3) (length - 2) ≤ 2 then .empty
    else .file ⟨(payloadByte message (scanFileSize (message.drop 3) (length - 2)),
        payloadByte message (scanFileSize (message.drop 3) (length - 2) + 1)),
      (byteAt message (usimOffset message + 1), byteAt message (usimOffset message + 2)), simFileType fileid,
      if payloadByte message 6 = 0x83 then 0x00 else 0x01, payloadByte message 7⟩) := by
  have hoffset : (messageMemory message (3 + 3)).toNat = usimOffset message := rfl
  have hid0 : messageMemory message (3 + ((usimOffset message : ℤ) - 2)) = byteAt message (usimOffset message + 1) := by
    rw [messageMemory]
    exact congrArg (byteAt message) (by omega)
  have hid1 : messageMemory message (3 + ((usimOffset message : ℤ) - 1)) = byteAt message (usimOffset message + 2) := by
    rw [messageMemory]
    exact congrArg (byteAt message) (by omega)
  have hbyte (k : ℕ) : messageMemory message (3 + k) = payloadByte message k := memory_byte rfl
  rw [usimFileReading]
  split
  · rfl
  · rw [Reading.outcome_read_at, hoffset]
    split
    · rfl
    · rw [Reading.outcome_read_at, hid0, Reading.outcome_read_at, hid1, Reading.outcome_bind, scan_reading_outcome,
        Option.bind_some]
      split
      · rfl
      · simp only [Reading.outcome_read_at, hbyte]
        rfl

lemma usim_reading_file {response : SimFileResponse}
    (h : (usimFileReading (some 3) length fileid).outcome (messageMemory message) = some (.file response)) :
    2 < scanFileSize (message.drop 3) (length - 2) ∧
      response.fileSize = (payloadByte message (scanFileSize (message.drop 3) (length - 2)),
        payloadByte message (scanFileSize (message.drop 3) (length - 2) + 1)) := by
  rw [usim_reading_outcome, Option.some_inj] at h
  split at h
  · cases h
  · split at h
    · cases h
    · split at h
      · cases h
      · cases h
        exact ⟨by omega, rfl⟩

end

/-! ### The whole function -/

/-- The answer to `GET_RESPONSE` of a card that is not a SIM -/
def IsUsimAnswer (iccType : UInt8) (simIo : RilSimIo) : Prop := simIo.command = 0xc0 ∧ iccType ≠ 0x01

/-- The scan is reached. -/
def ScansUsim (iccType : UInt8) (message : Bytes) (simIo : RilSimIo) : Prop :=
  IsUsimAnswer iccType simIo ∧ 8 + usimOffset message ≤ declaredLength message ∧
    3 + declaredLength message ≤ message.length

structure RsimSafe (iccType : UInt8) (message : Bytes) (simIo : RilSimIo) : Prop where
  within : (rsimAccessReading iccType message simIo).Within (messageMemory message) (InPayload message)
  scans : ScansUsim iccType message simIo → ∃ offset : ℕ,
    (scanReading (rsimPointer message) (declaredLength message - 2)).outcome (messageMemory message) = some offset ∧
      InPayload message (3 + offset)
  size : ∀ response, (rsimAccessReading iccType message simIo).outcome (messageMemory message) =
    some (some (.file response)) → ∃ tag, 2 ≤ tag ∧ tag ≤ declaredLength message - 2 ∧
      payloadByte message tag = 0x88 ∧ (∀ j, tag < j → j ≤ declaredLength message - 2 → payloadByte message j ≠ 0x88) ∧
      response.fileSize = (payloadByte message (tag - 2), payloadByte message (tag - 1))

/-- A USIM answer whose header is read although less was received than is declared, or whose offset points before it -/
def RsimAstray (iccType : UInt8) (message : Bytes) (simIo : RilSimIo) : Prop :=
  IsUsimAnswer iccType simIo ∧ 8 ≤ declaredLength message ∧
    (message.length < 3 + declaredLength message ∨
      8 + usimOffset message ≤ declaredLength message ∧ usimOffset message < 2)

section

variable {iccType : UInt8} {simIo : RilSimIo}

lemma access_reading_short (h : message.length < 3) : rsimAccessReading iccType message simIo = pure none := by
  rw [rsimAccessReading, IpcSecRsimAccessResponseHeader.read, if_pos h]
  rfl

lemma access_reading_usim (h3 : 3 ≤ message.length) (h : IsUsimAnswer iccType simIo)
    (h0 : byteAt message 2 ≠ 0) : rsimAccessReading iccType message simIo = do
      let answer ← usimFileReading (rsimPointer message) (declaredLength message) simIo.fileid
      return some answer := by
  obtain ⟨hcommand, hicc⟩ := h
  have hread : ¬(simIo.command = 0xb0 ∨ simIo.command = 0xb2) := by omega
  rw [rsimAccessReading, IpcSecRsimAccessResponseHeader.read, if_neg (by omega), Option.elim_some, simIoReading,
    if_neg h0, if_neg hread, if_pos hcommand, if_neg hicc]
  rfl

lemma access_reading_other (h3 : 3 ≤ message.length)
    (h : ¬IsUsimAnswer iccType simIo ∨ declaredLength message < 8) :
    rsimAccessReading iccType message simIo = pure (some .empty) ∨
      byteAt message 2 ≠ 0 ∧ rsimAccessReading iccType message simIo = do
        let string ← data2stringReading (rsimPointer message) (declaredLength message)
        return some (.payload string) := by
  have hheader : rsimAccessReading iccType message simIo = do
      let answer ← simIoReading iccType ⟨byteAt message 0, byteAt message 1, byteAt message 2⟩ message simIo
      return some answer := by
    rw [rsimAccessReading, IpcSecRsimAccessResponseHeader.read, if_neg (by omega)]
    rfl
  have hpayload : (do
      let answer ← (do
        let string ← data2stringReading (rsimPointer message) (declaredLength message)
        return RsimAnswer.payload string : Reading UInt8 RsimAnswer)
      return some answer : Reading UInt8 (Option RsimAnswer)) = (do
        let string ← data2stringReading (rsimPointer message) (declaredLength message)
        return some (.payload string)) := Reading.bind_assoc _ _ _
  rw [hheader, simIoReading]
  split
  · exact .inl rfl
  · rename_i h0
    split
    · exact .inr ⟨h0, hpayload⟩
    · split
      · rename_i hcommand
        split
        · exact .inr ⟨h0, hpayload⟩
        · rename_i hicc
          have hshort : declaredLength message < 8 := h.resolve_left fun hn => hn ⟨hcommand, hicc⟩
          exact .inl (congrArg (fun p => p >>= fun answer => pure (some answer)) (usim_reading_short hshort _))
      · exact .inl rfl

lemma safe_of_other (h : ¬IsUsimAnswer iccType simIo ∨ declaredLength message < 8)
    (hreads : (rsimAccessReading iccType message simIo).Within (messageMemory message) (InPayload message))
    (hfile : ∀ response, (rsimAccessReading iccType message simIo).outcome (messageMemory message) ≠
      some (some (.file response))) : RsimSafe iccType message simIo where
  within := hreads
  scans := by
    rintro ⟨husim, hlength, -⟩
    rcases h with h | h
    · exact absurd husim h
    · omega
  size := fun response hresponse => absurd hresponse (hfile response)

lemma safe_other (h3 : 3 ≤ message.length) (h : ¬IsUsimAnswer iccType simIo ∨ declaredLength message < 8) :
    RsimSafe iccType message simIo := by
  rcases access_reading_other h3 h with hempty | ⟨h0, hpayload⟩
  · refine safe_of_other h ?_ fun response hfile => ?_
    · rw [hempty]
      trivial
    · rw [hempty] at hfile
      cases hfile
  · refine safe_of_other h ?_ fun response hfile => ?_
    · rw [hpayload, Reading.within_bind]
      refine ⟨?_, fun _ _ => trivial⟩
      by_cases hlength : 3 + declaredLength message ≤ message.length
      · rw [pointer_some h0 h3 hlength]
        exact data_reading_within hlength
      · rw [pointer_null (Nat.not_le.mp hlength)]
        trivial
    · rw [hpayload, Reading.outcome_bind, Option.bind_eq_some_iff] at hfile
      obtain ⟨string, -, hstring⟩ := hfile
      cases hstring

lemma usim_safe_iff (h3 : 3 ≤ message.length) (husim : IsUsimAnswer iccType simIo) (h8 : 8 ≤ declaredLength message) :
    RsimSafe iccType message simIo ↔ 3 + declaredLength message ≤ message.length ∧
      (8 + usimOffset message ≤ declaredLength message → 2 ≤ usimOffset message) := by
  have h0 : byteAt message 2 ≠ 0 := by
    intro h0
    rw [declaredLength, h0] at h8
    exact absurd h8 (by decide)
  have hread := access_reading_usim h3 husim h0
  by_cases hlength : 3 + declaredLength message ≤ message.length
  · have hpointer := pointer_some h0 h3 hlength
    rw [hpointer] at hread
    have hle := scan_le (message.drop 3) (declaredLength message - 2)
    constructor
    · intro hsafe
      have hwithin := hsafe.within
      rw [hread, Reading.within_bind] at hwithin
      exact ⟨hlength, (usim_reading_within h8 hlength).mp hwithin.1⟩
    · rintro ⟨-, hoffset⟩
      refine ⟨?_, fun _ => ⟨scanFileSize (message.drop 3) (declaredLength message - 2), ?_, ?_, ?_⟩,
        fun response hresponse => ?_⟩
      · rw [hread, Reading.within_bind]
        exact ⟨(usim_reading_within h8 hlength).mpr hoffset, fun _ _ => trivial⟩
      · rw [hpointer]
        exact scan_reading_outcome _
      · omega
      · omega
      · rw [hread, Reading.outcome_bind, Option.bind_eq_some_iff] at hresponse
        obtain ⟨answer, hanswer, hfile⟩ := hresponse
        obtain rfl : answer = .file response := Option.some.inj (Option.some.inj hfile)
        obtain ⟨hsize, hbytes⟩ := usim_reading_file hanswer
        obtain ⟨hfound, htag, hlast⟩ := scan_found hsize
        rw [drop_byte] at htag
        refine ⟨_, by omega, hfound, htag, fun j hj hjle => ?_, hbytes⟩
        rw [← drop_byte]
        exact hlast j hj hjle
  · refine iff_of_false (fun hsafe => ?_) fun h => hlength h.1
    have hwithin := hsafe.within
    rw [hread, pointer_null (Nat.not_le.mp hlength), Reading.within_bind] at hwithin
    exact usim_reading_null h8 hwithin.1

end

/-! ### The answer of the other modules -/

lemma payload_cells (h : 3 + declaredLength message ≤ message.length) :
    (List.range (declaredLength message)).map (fun i : ℕ => messageMemory message (3 + i)) =
      (message.drop 3).take (declaredLength message) := by
  refine List.ext_getElem ?_ fun i hi _ => ?_
  · simp only [List.length_map, List.length_range, List.length_take, List.length_drop]
    omega
  · have hlt : i < declaredLength message := by simpa using hi
    have hmemory : messageMemory message (3 + i) = payloadByte message i := memory_byte rfl
    rw [List.getElem_map, List.getElem_range, hmemory, List.getElem_take, List.getElem_drop, payloadByte, byteAt,
      List.getD_eq_getElem?_getD, List.getElem?_eq_getElem (by omega), Option.getD_some]

lemma data_reading_outcome (h0 : byteAt message 2 ≠ 0) (h3 : 3 ≤ message.length) :
    (data2stringReading (rsimPointer message) (declaredLength message)).outcome (messageMemory message) =
      some ((ipcSecRsimAccessExtract message).bind fun d => data2string (d.take (declaredLength message))) := by
  by_cases hlength : 3 + declaredLength message ≤ message.length
  · have hextract : ipcSecRsimAccessExtract message = some (message.drop 3) := by
      have hpointer := pointer_some h0 h3 hlength
      rw [rsimPointer, ipcSecRsimAccessExtract] at hpointer
      rw [ipcSecRsimAccessExtract]
      split at hpointer
      · cases hpointer
      · split at hpointer
        · cases hpointer
        · rename_i hshort hlong
          rw [if_neg hshort, if_neg hlong]
    rw [pointer_some h0 h3 hlength, hextract, data2stringReading, Option.elim_some, Reading.outcome_bind,
      Reading.outcome_read_cells, payload_cells hlength]
    rfl
  · have hpointer := pointer_null (Nat.not_le.mp hlength)
    have hextract := Option.map_eq_none_iff.mp hpointer
    rw [hpointer, hextract]
    rfl

lemma usim_reading_response {length : ℕ} {fileid : ℤ} {answer : RsimAnswer}
    (h : (usimFileReading (some 3) length fileid).outcome (messageMemory message) = some answer) :
    answer.simResponse = usimFileResponse message length fileid := by
  rw [usim_reading_outcome, Option.some_inj] at h
  subst h
  rw [apply_ite RsimAnswer.simResponse, apply_ite RsimAnswer.simResponse, apply_ite RsimAnswer.simResponse]
  simp only [usimFileResponse, drop_byte, usimOffset]
  rfl

lemma usim_reading_null_response {fileid : ℤ} {answer : RsimAnswer}
    (h : (usimFileReading none (declaredLength message) fileid).outcome (messageMemory message) = some answer) :
    answer.simResponse = usimFileResponse message (declaredLength message) fileid := by
  rw [usimFileReading] at h
  split at h
  · rename_i hshort
    cases h
    exact (if_pos hshort).symm
  · cases h

/-- Where no read goes through `NULL`, the answer is that of the handler. -/
lemma sim_io_reading_response {iccType : UInt8} {simIo : RilSimIo} {header : IpcSecRsimAccessResponseHeader}
    {answer : RsimAnswer} (hheader : IpcSecRsimAccessResponseHeader.read message = some header)
    (h : (simIoReading iccType header message simIo).outcome (messageMemory message) = some answer) :
    answer.simResponse = simIoResponse iccType header message simIo := by
  have h3 : ¬message.length < 3 := by
    intro hlt
    rw [IpcSecRsimAccessResponseHeader.read, if_pos hlt] at hheader
    cases hheader
  rw [IpcSecRsimAccessResponseHeader.read, if_neg h3] at hheader
  cases hheader
  rw [simIoReading] at h
  rw [simIoResponse]
  by_cases h0 : byteAt message 2 = 0
  · rw [if_pos h0] at h ⊢
    cases h
    rfl
  · have hpayload : (do
        let string ← data2stringReading (rsimPointer message) (declaredLength message)
        return RsimAnswer.payload string : Reading UInt8 RsimAnswer).outcome (messageMemory message) = some (.payload
          ((ipcSecRsimAccessExtract message).bind fun d => data2string (d.take (declaredLength message)))) := by
      rw [Reading.outcome_bind, data_reading_outcome h0 (by omega)]
      rfl
    rw [if_neg h0] at h ⊢
    by_cases hread : simIo.command = 0xb0 ∨ simIo.command = 0xb2
    · rw [if_pos hread] at h ⊢
      cases hpayload.symm.trans h
      rfl
    · rw [if_neg hread] at h ⊢
      by_cases hcommand : simIo.command = 0xc0
      · rw [if_pos hcommand] at h ⊢
        by_cases hicc : iccType = 0x01
        · rw [if_pos hicc] at h ⊢
          cases hpayload.symm.trans h
          rfl
        · rw [if_neg hicc] at h ⊢
          by_cases hlength : 3 + declaredLength message ≤ message.length
          · rw [pointer_some h0 (by omega) hlength] at h
            exact usim_reading_response h
          · rw [pointer_null (Nat.not_le.mp hlength)] at h
            exact usim_reading_null_response h
      · rw [if_neg hcommand] at h ⊢
        cases h
        rfl

theorem ipc_sec_rsim_access_reads (iccType : UInt8) (message : Bytes) (simIo : RilSimIo) :
    RsimSafe iccType message simIo ↔ ¬RsimAstray iccType message simIo := by
  by_cases h3 : message.length < 3
  · have hshort : rsimAccessReading iccType message simIo = pure none := access_reading_short h3
    have hlength := declared_short h3
    refine iff_of_true (safe_of_other (.inr (by omega)) ?_ fun response h => ?_) fun h => ?_
    · rw [hshort]
      trivial
    · rw [hshort] at h
      cases h
    · have h8 := h.2.1
      omega
  · by_cases h : IsUsimAnswer iccType simIo ∧ 8 ≤ declaredLength message
    · rw [usim_safe_iff (by omega) h.1 h.2, RsimAstray]
      simp only [h.1, h.2, true_and]
      omega
    · rw [not_and_or, Nat.not_le] at h
      refine iff_of_true (safe_other (by omega) h) ?_
      rintro ⟨husim, h8, -⟩
      rcases h with h | h
      · exact h husim
      · omega

/-- A header that declares 8 bytes where none came, and one whose offset is 0 -/
theorem ipc_sec_rsim_access_reads_astray :
    ¬RsimSafe 2 [0x90, 0x00, 8] ⟨0xc0, 0x6f07, none, 0, 0, 0, none, none, none⟩ ∧
    ¬RsimSafe 2 [0x90, 0x00, 8, 0x62, 0x06, 0x82, 0, 0, 0, 0x83, 0]
      ⟨0xc0, 0x6f07, none, 0, 0, 0, none, none, none⟩ := by
  refine ⟨fun h => ?_, fun h => ?_⟩
  · exact h.within
  · have hid := h.within.2.1.1
    exact absurd hid (by decide)

end Ril.Samsung
