import Ril.Ipc.NvDataKilled

/-! The nv_data as an array of bytes that the modem reads and writes. -/

namespace Ril.Ipc

/-- The messages of the modem. The two sizes of a read are what the stack holds when it is answered. -/
inductive NvMessage
  | read (message : Bytes) (sent allocated : ℕ)
  | write (message : Bytes)

/-- The message names some bytes, and a write brings them along. -/
def NvMessage.wellFormed : NvMessage → Bool
  | read message _ _ => decide (nvItemHeaderSize ≤ message.length)
  | write message => decide (nvItemHeaderSize ≤ message.length) &&
      decide (0 < intAt message 4 ∧ intAt message 4 ≤ message.length - nvItemHeaderSize)

def nvMessageStep (specs : NvDataSpecs) (files : Files NvPath) : NvMessage → Option NvItemResponse × Files NvPath
  | .read message sent allocated => (ipcRfsNvReadItem specs message sent allocated files, files)
  | .write message => ipcRfsNvWriteItem specs message files

def nvRun (specs : NvDataSpecs) : List NvMessage → Files NvPath → List (Option NvItemResponse) × Files NvPath
  | [], files => ([], files)
  | m :: ms, files =>
    let result := nvMessageStep specs files m
    (result.1 :: (nvRun specs ms result.2).1, (nvRun specs ms result.2).2)

/-! ### The array -/

def refused : NvItemResponse := ⟨0, 0, 0, some []⟩

/-- A message that does not fit in the array is refused. -/
def arrayStep (array : Bytes) (m : NvMessage) : Option NvItemResponse × Bytes :=
  if !m.wellFormed then (none, array)
  else
    match m with
    | .read message _ _ =>
      if 0 < intAt message 4 ∧ intAt message 0 + intAt message 4 ≤ array.length then
        (some ⟨1, intAt message 0, intAt message 4,
          some ((array.drop (intAt message 0)).take (intAt message 4))⟩, array)
      else (some refused, array)
    | .write message =>
      if intAt message 0 + intAt message 4 ≤ array.length then
        (some ⟨1, intAt message 0, intAt message 4, some []⟩,
          overwrite array (intAt message 0) ((message.drop nvItemHeaderSize).take (intAt message 4)))
      else (some refused, array)

def arrayRun : List NvMessage → Bytes → List (Option NvItemResponse) × Bytes
  | [], array => ([], array)
  | m :: ms, array =>
    let result := arrayStep array m
    (result.1 :: (arrayRun ms result.2).1, (arrayRun ms result.2).2)

/-- A write fits in the nv_data. The offset of a read is one for `lseek`, unless nothing or too much is asked for, and
where the bytes are there the stack holds their number. -/
def Meets (specs : NvDataSpecs) : NvMessage → Prop
  | .read message sent allocated => nvItemHeaderSize ≤ message.length → 0 < intAt message 4 →
      intAt message 4 ≤ specs.size → intAt message 0 < 2 ^ (specs.offBits - 1) ∧
        (intAt message 0 + intAt message 4 ≤ specs.size → sent = intAt message 4 ∧ intAt message 4 ≤ allocated)
  | .write message => (NvMessage.write message).wellFormed = true → intAt message 0 + intAt message 4 ≤ specs.size

/-- The store holds the array, and would be loaded. -/
structure Holding (specs : NvDataSpecs) (files : Files NvPath) (array : Bytes) : Prop where
  check : ipcNvDataCheck specs files = true
  data : files .nvData = some array

variable {specs : NvDataSpecs} {files : Files NvPath} {array : Bytes}

lemma Holding.valid (h : Holding specs files array) : ∃ md5, files .nvDataMd5 = some md5 ∧ PairValid specs array md5 := by
  obtain ⟨data, md5, hd, hm, hv⟩ := pair_check_iff.mp h.check
  rw [h.data, Option.some.injEq] at hd
  exact ⟨md5, hm, hd ▸ hv⟩

lemma Holding.length (h : Holding specs files array) : array.length = specs.size := by
  obtain ⟨md5, -, hv⟩ := h.valid
  exact hv.length

lemma Holding.write (h : Holding specs files array) {data : Bytes} (hd : data ≠ []) {offset : ℕ}
    (hf : offset + data.length ≤ specs.size) : (ipcNvDataWrite specs data offset files).1 = true ∧
      Holding specs (ipcNvDataWrite specs data offset files).2 (overwrite array offset data) := by
  obtain ⟨md5, hm, hv⟩ := h.valid
  obtain ⟨-, -, -, h3, hok, he⟩ := @killed_eq specs files array data offset md5 h.data hv.length hm hd
  have hseek : seekPosition specs.offBits offset = offset := by
    have hlt := List.length_pos_iff.mpr hd
    have hle := specs.size_le
    rw [seekPosition, if_pos (by omega)]
  have hw : written specs array data offset = overwrite array offset data := by rw [written, hseek]
  have hlen : (overwrite array offset data).length = specs.size := by rw [overwrite_length (by rw [hv.length]; exact hf), hv.length]
  refine ⟨hok, ?_⟩
  rw [he, h3, hw, List.take_of_length_le (Nat.le_of_eq hlen)]
  exact ⟨pair_check_iff.mpr (restored_valid hlen), rfl⟩

lemma Holding.write_accepted (h : Holding specs files array) {data : Bytes} (hd : data ≠ []) (offset : ℕ) :
    (ipcNvDataWrite specs data offset files).1 = true := by
  obtain ⟨md5, hm, hv⟩ := h.valid
  obtain ⟨-, -, -, -, hok, -⟩ := @killed_eq specs files array data offset md5 h.data hv.length hm hd
  exact hok

lemma nv_data_read_eq (hd : files .nvData = some array) (size offset : ℕ) : ipcNvDataRead specs files size offset =
    if array.length = specs.size ∧ 0 < size ∧ seekPosition specs.offBits offset + size ≤ specs.size then
      some ((array.drop (seekPosition specs.offBits offset)).take size)
    else none := by
  have hp : pathCheck specs files .nvData = decide (array.length = specs.size) := by
    rw [pathCheck, hd]
    exact Bool.beq_eq_decide_eq _ _
  have hc := specs.chunkSize_pos
  rw [ipcNvDataRead, hp]
  by_cases hl : array.length = specs.size
  · rw [decide_eq_true hl]
    simp only [Bool.not_true, Bool.false_eq_true, if_false]
    by_cases hs : 0 < size
    · rw [file_data_read_eq hd hs (by split <;> omega) (by split <;> omega), hl]
      by_cases hf : seekPosition specs.offBits offset + size ≤ specs.size
      · rw [if_pos hf, if_pos ⟨rfl, hs, hf⟩]
      · rw [if_neg hf, if_neg fun h => hf h.2.2]
    · rw [fileDataRead, if_pos (.inl (by omega)), if_neg fun h => hs h.2.1]
  · rw [decide_eq_false hl]
    simp only [Bool.not_false, if_true, hl, false_and, if_false]

lemma Holding.read (h : Holding specs files array) (size offset : ℕ) : ipcNvDataRead specs files size offset =
    if 0 < size ∧ seekPosition specs.offBits offset + size ≤ specs.size then
      some ((array.drop (seekPosition specs.offBits offset)).take size)
    else none := by
  rw [nv_data_read_eq h.data, h.length]
  simp only [true_and]

/-- What is sent is what was read exactly when the stack holds its length. -/
lemma nv_read_item_data_iff (sent allocated : ℕ) (nvData : Bytes) : nvReadItemData sent allocated nvData = some nvData ↔
    sent = nvData.length ∧ nvData.length ≤ allocated := by
  rw [nvReadItemData]
  split
  · rename_i h
    rw [Option.some.injEq]
    constructor
    · intro he
      have hl := congrArg List.length he
      simp only [List.length_take, List.length_append, List.length_replicate] at hl
      omega
    · rintro ⟨rfl, -⟩
      exact List.take_left
  · rename_i h
    constructor
    · intro he
      cases he
    · rintro ⟨rfl, hle⟩
      exact absurd ⟨hle, hle⟩ h

lemma read_item_eq (h : Holding specs files array) (message : Bytes) (sent allocated : ℕ) :
    ipcRfsNvReadItem specs message sent allocated files = (arrayStep array (.read message sent allocated)).1 ↔
      Meets specs (.read message sent allocated) := by
  by_cases hm : message.length < nvItemHeaderSize
  · have hw : (NvMessage.read message sent allocated).wellFormed = false := by
      simpa [NvMessage.wellFormed] using hm
    rw [ipcRfsNvReadItem, if_pos hm, arrayStep, hw]
    exact ⟨fun _ hle => absurd hle (Nat.not_le.mpr hm), fun _ => rfl⟩
  · have hw : (NvMessage.read message sent allocated).wellFormed = true := by
      simpa [NvMessage.wellFormed] using Nat.le_of_not_lt hm
    have hle := specs.size_le
    rw [ipcRfsNvReadItem, if_neg hm, h.read, arrayStep, hw]
    simp only [Bool.not_true, Bool.false_eq_true, if_false, h.length]
    have hmeets : Meets specs (.read message sent allocated) ↔ (0 < intAt message 4 → intAt message 4 ≤ specs.size →
        intAt message 0 < 2 ^ (specs.offBits - 1) ∧ (intAt message 0 + intAt message 4 ≤ specs.size →
          sent = intAt message 4 ∧ intAt message 4 ≤ allocated)) :=
      ⟨fun h => h (Nat.le_of_not_lt hm), fun h _ => h⟩
    rw [hmeets]
    by_cases hs : intAt message 0 < 2 ^ (specs.offBits - 1)
    · have hseek : seekPosition specs.offBits (intAt message 0) = intAt message 0 := if_pos hs
      rw [hseek]
      by_cases hf : 0 < intAt message 4 ∧ intAt message 0 + intAt message 4 ≤ specs.size
      · have hl : ((array.drop (intAt message 0)).take (intAt message 4)).length = intAt message 4 := by
          rw [List.length_take, List.length_drop, h.length]
          omega
        rw [if_pos hf, if_pos hf]
        simp only [Option.some.injEq, NvItemResponse.mk.injEq, true_and, nv_read_item_data_iff, hl]
        exact ⟨fun he _ _ => ⟨hs, fun _ => he⟩, fun he => (he hf.1 (by omega)).2 hf.2⟩
      · rw [if_neg hf, if_neg hf]
        exact ⟨fun _ h0 _ => ⟨hs, fun hle => absurd ⟨h0, hle⟩ hf⟩, fun _ => rfl⟩
    · have hseek : seekPosition specs.offBits (intAt message 0) = 0 := if_neg hs
      rw [hseek, Nat.zero_add]
      have hf : ¬(0 < intAt message 4 ∧ intAt message 0 + intAt message 4 ≤ specs.size) := by omega
      rw [if_neg hf]
      by_cases hr : 0 < intAt message 4 ∧ intAt message 4 ≤ specs.size
      · rw [if_pos hr]
        refine ⟨fun he => ?_, fun he => absurd (he hr.1 hr.2).1 hs⟩
        exact absurd (congrArg (fun r => r.map NvItemResponse.confirm) he) (by simp [refused])
      · rw [if_neg hr]
        exact ⟨fun _ h0 h1 => absurd ⟨h0, h1⟩ hr, fun _ => rfl⟩

lemma message_step (h : Holding specs files array) (m : NvMessage) :
    ((nvMessageStep specs files m).1 = (arrayStep array m).1 ↔ Meets specs m) ∧
      (Meets specs m → Holding specs (nvMessageStep specs files m).2 (arrayStep array m).2) := by
  cases m with
  | read message sent allocated =>
    refine ⟨read_item_eq h message sent allocated, fun _ => ?_⟩
    have he : (arrayStep array (.read message sent allocated)).2 = array := by
      rw [arrayStep]
      split
      · rfl
      · split <;> rfl
    rw [he]
    exact h
  | write message =>
    by_cases hw : (NvMessage.write message).wellFormed = true
    · have hw' := hw
      simp only [NvMessage.wellFormed, Bool.and_eq_true, decide_eq_true_eq] at hw'
      obtain ⟨h8, h0, hn⟩ := hw'
      have hl : ((message.drop nvItemHeaderSize).take (intAt message 4)).length = intAt message 4 := by
        rw [List.length_take, List.length_drop]
        omega
      have hd : (message.drop nvItemHeaderSize).take (intAt message 4) ≠ [] := by
        intro he
        rw [he, List.length_nil] at hl
        omega
      have hstep : nvMessageStep specs files (.write message) =
          (some ⟨1, intAt message 0, intAt message 4, some []⟩, (ipcNvDataWrite specs
            ((message.drop nvItemHeaderSize).take (intAt message 4)) (intAt message 0) files).2) := by
        rw [nvMessageStep, ipcRfsNvWriteItem, if_neg (by omega), if_neg (by omega)]
        simp only [h.write_accepted hd, if_true]
      have hmeets : Meets specs (.write message) ↔ intAt message 0 + intAt message 4 ≤ specs.size :=
        ⟨fun h => h hw, fun h _ => h⟩
      rw [hstep, arrayStep, hw, hmeets]
      simp only [Bool.not_true, Bool.false_eq_true, if_false, h.length]
      by_cases hf : intAt message 0 + intAt message 4 ≤ specs.size
      · rw [if_pos hf]
        exact ⟨⟨fun _ => hf, fun _ => rfl⟩, fun _ => (h.write hd (by rw [hl]; exact hf)).2⟩
      · rw [if_neg hf]
        refine ⟨⟨fun he => ?_, fun h => absurd h hf⟩, fun h => absurd h hf⟩
        exact absurd (congrArg (fun r => r.map NvItemResponse.confirm) he) (by simp [refused])
    · have hw' : (NvMessage.write message).wellFormed = false := Bool.eq_false_iff.mpr hw
      have hstep : nvMessageStep specs files (.write message) = (none, files) := by
        simp only [NvMessage.wellFormed, Bool.and_eq_true, decide_eq_true_eq, not_and] at hw
        rw [nvMessageStep, ipcRfsNvWriteItem]
        split
        · rfl
        · rw [if_pos]
          have hw := hw (by omega)
          omega
      rw [hstep, arrayStep, hw']
      exact ⟨⟨fun _ h => absurd h hw, fun _ => rfl⟩, fun _ => h⟩

/-- The store answers as the array does, stays loadable and holds the bytes of the array exactly when all messages
meet the condition. -/
theorem nv_store_refines_array (specs : NvDataSpecs) (files : Files NvPath) (array : Bytes)
    (hc : ipcNvDataCheck specs files = true) (hd : files .nvData = some array) (ms : List NvMessage) :
    ((nvRun specs ms files).1 = (arrayRun ms array).1 ∧ ipcNvDataCheck specs (nvRun specs ms files).2 = true ∧
      (nvRun specs ms files).2 .nvData = some (arrayRun ms array).2) ↔ ∀ m ∈ ms, Meets specs m := by
  have h : Holding specs files array := ⟨hc, hd⟩
  clear hc hd
  induction ms generalizing files array with
  | nil => exact ⟨fun _ m hm => absurd hm List.not_mem_nil, fun _ => ⟨rfl, h.check, h.data⟩⟩
  | cons m ms ih =>
    obtain ⟨hiff, hkeep⟩ := message_step h m
    simp only [nvRun, arrayRun, List.cons.injEq, List.forall_mem_cons, and_assoc]
    by_cases hm : Meets specs m
    · have hrest := ih _ _ (hkeep hm)
      exact ⟨fun h => ⟨hm, hrest.mp h.2⟩, fun h => ⟨hiff.mpr hm, hrest.mpr h.2⟩⟩
    · exact ⟨fun h => absurd (hiff.mp h.1) hm, fun h => absurd h.1 hm⟩

/-- A byte is written, and both are read back. -/
def writeThenRead : List NvMessage :=
  [.write [0x00, 0x00, 0x00, 0x00, 0x01, 0x00, 0x00, 0x00, 0x01], .read [0x00, 0x00, 0x00, 0x00, 0x02, 0x00, 0x00, 0x00] 2 2]

lemma two_bytes_check : ipcNvDataCheck twoBytes (twoBytesFiles none) = true :=
  pair_check_iff.mpr ⟨_, _, rfl, rfl, two_bytes_valid⟩

theorem nv_store_refines_array_two_bytes :
    (nvRun twoBytes writeThenRead (twoBytesFiles none)).1 = (arrayRun writeThenRead [0x00, 0x00]).1 ∧
      ipcNvDataCheck twoBytes (nvRun twoBytes writeThenRead (twoBytesFiles none)).2 = true ∧
      (nvRun twoBytes writeThenRead (twoBytesFiles none)).2 .nvData = some (arrayRun writeThenRead [0x00, 0x00]).2 := by
  refine (nv_store_refines_array twoBytes (twoBytesFiles none) [0x00, 0x00] two_bytes_check rfl _).mpr fun m hm => ?_
  rcases List.mem_cons.mp hm with rfl | hm
  · exact fun _ => by decide
  · rcases List.mem_singleton.mp hm with rfl
    exact fun _ _ _ => by decide

/-- Two bytes written at the second one are accepted, and the store is not valid any more; a read is answered with no
bytes when the stack holds a zero. -/
theorem nv_store_refines_array_fails :
    (nvRun twoBytes [.write [0x01, 0x00, 0x00, 0x00, 0x02, 0x00, 0x00, 0x00, 0x01, 0x01]] (twoBytesFiles none)).1 =
      [some ⟨1, 1, 2, some []⟩] ∧
    ipcNvDataCheck twoBytes (nvRun twoBytes
      [.write [0x01, 0x00, 0x00, 0x00, 0x02, 0x00, 0x00, 0x00, 0x01, 0x01]] (twoBytesFiles none)).2 = false ∧
    (nvRun twoBytes [.read [0x00, 0x00, 0x00, 0x00, 0x02, 0x00, 0x00, 0x00] 0 2] (twoBytesFiles none)).1 =
      [some ⟨1, 0, 2, some []⟩] := by decide

end Ril.Ipc
