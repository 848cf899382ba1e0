import Mathlib.Data.Nat.ModEq
import Ril.Ipc.NvDataStore
import Ril.Ipc.Xmm626
import Ril.Lib.Buffer

/-! The bytes that answer a read of the nv_data. -/

namespace Ril.Ipc

open Lib

structure IpcRfsNvReadItemResponseHeader where
  confirm : UInt8
  offset : UInt32
  length : UInt32
deriving DecidableEq, Repr

def ipcRfsNvReadItemResponseHeaderSize : ℕ := 9

def IpcRfsNvReadItemResponseHeader.bytes (header : IpcRfsNvReadItemResponseHeader) : Bytes :=
  header.confirm :: intBytes header.offset.toNat ++ intBytes header.length.toNat

variable {w : ℕ}

/-- The local `size` is added without having been set: what stands on the stack there is given to each call. -/
def ipcRfsNvDataItemSizeSetup (size : BitVec w) (nvData : Bytes) : BitVec w :=
  if nvData.isEmpty then 0 else BitVec.ofNat w ipcRfsNvReadItemResponseHeaderSize + size

inductive NvReadItemBuffer
  | null
  | overrun
  | block (data : Bytes)
deriving DecidableEq, Repr

def ipcRfsNvReadItemSetup (size : BitVec w) (header : IpcRfsNvReadItemResponseHeader) (nvData : Bytes) :
    NvReadItemBuffer :=
  if nvData.isEmpty then .null
  else if ipcRfsNvDataItemSizeSetup size nvData = 0 then .null
  else
    (copyAll (List.replicate (ipcRfsNvDataItemSizeSetup size nvData).toNat 0) 0 [header.bytes, nvData]).elim
      .overrun .block

inductive NvReadItemSent
  | nothing
  | overrun
  | sent (data : Bytes)
deriving DecidableEq, Repr

/-- The size that is sent comes from one call and the block from another one. -/
def nvReadItemSent (first second : BitVec w) (header : IpcRfsNvReadItemResponseHeader) (nvData : Bytes) :
    NvReadItemSent :=
  if ipcRfsNvDataItemSizeSetup first nvData = 0 then .nothing
  else
    match ipcRfsNvReadItemSetup second header nvData with
    | .null => .nothing
    | .overrun => .overrun
    | .block data =>
      if (ipcRfsNvDataItemSizeSetup first nvData).toNat ≤ data.length then
        .sent (data.take (ipcRfsNvDataItemSizeSetup first nvData).toNat)
      else .overrun

/-- `ipc_rfs_nv_read_item` down to the bytes it sends -/
def ipcRfsNvReadItemSent (specs : NvDataSpecs) (message : Bytes) (first second : BitVec w) (files : Files NvPath) :
    NvReadItemSent :=
  if message.length < nvItemHeaderSize then .nothing
  else
    match ipcNvDataRead specs files (intAt message 4) (intAt message 0) with
    | none => .sent (IpcRfsNvReadItemResponseHeader.bytes ⟨0, 0, 0⟩)
    | some nvData => nvReadItemSent first second
        ⟨1, UInt32.ofNat (intAt message 0), UInt32.ofNat (intAt message 4)⟩ nvData

/-- What the modem makes of an answer -/
def decodeReadItem (data : Bytes) : Option NvItemResponse :=
  if data.length < ipcRfsNvReadItemResponseHeaderSize then none
  else some ⟨byteAt data 0, intAt data 1, intAt data 5, some (data.drop ipcRfsNvReadItemResponseHeaderSize)⟩

variable {size first second : BitVec w} {header : IpcRfsNvReadItemResponseHeader} {nvData : Bytes}

@[simp] lemma IpcRfsNvReadItemResponseHeader.bytes_length (header : IpcRfsNvReadItemResponseHeader) :
    header.bytes.length = ipcRfsNvReadItemResponseHeaderSize := rfl

lemma nv_data_item_size (hd : nvData ≠ []) (size : BitVec w) :
    (ipcRfsNvDataItemSizeSetup size nvData).toNat = (9 + size.toNat) % 2 ^ w := by
  rw [ipcRfsNvDataItemSizeSetup, if_neg (by simpa using hd), BitVec.toNat_add, BitVec.toNat_ofNat, Nat.mod_add_mod]
  rfl

/-- The sum comes to the size that is needed only where the stack holds it and it fits. -/
lemma nv_data_item_size_iff (hd : nvData ≠ []) (size : BitVec w) :
    (ipcRfsNvDataItemSizeSetup size nvData).toNat = 9 + nvData.length ↔
      size.toNat = nvData.length ∧ 9 + nvData.length < 2 ^ w := by
  rw [nv_data_item_size hd]
  constructor
  · intro h
    have hlt : 9 + nvData.length < 2 ^ w := by
      rw [← h]
      exact Nat.mod_lt _ (Nat.two_pow_pos w)
    have hmod : 9 + size.toNat ≡ 9 + nvData.length [MOD 2 ^ w] := by
      rw [Nat.ModEq, h, Nat.mod_eq_of_lt hlt]
    have hsize := Nat.ModEq.add_left_cancel' 9 hmod
    rw [Nat.ModEq, Nat.mod_eq_of_lt size.isLt, Nat.mod_eq_of_lt (by omega)] at hsize
    exact ⟨hsize, hlt⟩
  · rintro ⟨h, hlt⟩
    rw [h, Nat.mod_eq_of_lt hlt]

lemma nv_read_item_setup_eq (hd : nvData ≠ []) (size : BitVec w) (header : IpcRfsNvReadItemResponseHeader) :
    ipcRfsNvReadItemSetup size header nvData =
      if (ipcRfsNvDataItemSizeSetup size nvData).toNat = 0 then .null
      else if 9 + nvData.length ≤ (ipcRfsNvDataItemSizeSetup size nvData).toNat then
        .block (header.bytes ++ nvData ++
          List.replicate ((ipcRfsNvDataItemSizeSetup size nvData).toNat - (9 + nvData.length)) 0)
      else .overrun := by
  have hlen : [header.bytes, nvData].flatten.length = 9 + nvData.length := by
    simp [ipcRfsNvReadItemResponseHeaderSize]
  have hz : ipcRfsNvDataItemSizeSetup size nvData = 0 ↔ (ipcRfsNvDataItemSizeSetup size nvData).toNat = 0 := by
    rw [← BitVec.toNat_inj]
    exact Iff.of_eq (congrArg _ BitVec.toNat_zero)
  rw [ipcRfsNvReadItemSetup, if_neg (by simpa using hd), copy_all_block, hlen, List.length_replicate,
    List.drop_replicate]
  simp only [hz]
  split
  · rfl
  · split
    · simp
    · rfl

lemma decode_read_item (header : IpcRfsNvReadItemResponseHeader) (rest : Bytes) :
    decodeReadItem (header.bytes ++ rest) =
      some ⟨header.confirm, header.offset.toNat, header.length.toNat, some rest⟩ := by
  have hoffset : intAt (header.bytes ++ rest) 1 = header.offset.toNat :=
    (int_at_int_bytes header.offset.toNat (intBytes header.length.toNat ++ rest)).trans
      (Nat.mod_eq_of_lt header.offset.toNat_lt)
  have hlength : intAt (header.bytes ++ rest) 5 = header.length.toNat :=
    (int_at_int_bytes header.length.toNat rest).trans (Nat.mod_eq_of_lt header.length.toNat_lt)
  have hdrop : (header.bytes ++ rest).drop ipcRfsNvReadItemResponseHeaderSize = rest := rfl
  rw [decodeReadItem, if_neg (by simp), hoffset, hlength, hdrop]
  rfl

lemma nv_read_item_setup_iff (hd : nvData ≠ []) (size : BitVec w) (header : IpcRfsNvReadItemResponseHeader) :
    ipcRfsNvReadItemSetup size header nvData = .block (header.bytes ++ nvData) ↔
      (ipcRfsNvDataItemSizeSetup size nvData).toNat = 9 + nvData.length := by
  rw [nv_read_item_setup_eq hd]
  split
  · rename_i h
    rw [h]
    exact iff_of_false (fun h => nomatch h) (by omega)
  · split
    · rename_i hle
      rw [NvReadItemBuffer.block.injEq, List.append_right_eq_self, List.replicate_eq_nil_iff]
      omega
    · exact iff_of_false (fun h => nomatch h) (by omega)

lemma nv_read_item_sent_eq (hd : nvData ≠ []) (first second : BitVec w) (header : IpcRfsNvReadItemResponseHeader)
    {f s : ℕ} (hf : (ipcRfsNvDataItemSizeSetup first nvData).toNat = f)
    (hs : (ipcRfsNvDataItemSizeSetup second nvData).toNat = s) : nvReadItemSent first second header nvData =
      if f = 0 ∨ s = 0 then .nothing
      else if 9 + nvData.length ≤ s ∧ f ≤ s then
        .sent ((header.bytes ++ (nvData ++ List.replicate (s - (9 + nvData.length)) 0)).take f)
      else .overrun := by
  have hz : ipcRfsNvDataItemSizeSetup first nvData = 0 ↔ f = 0 := by
    rw [← hf, ← BitVec.toNat_inj]
    exact Iff.of_eq (congrArg _ BitVec.toNat_zero)
  rw [nvReadItemSent, nv_read_item_setup_eq hd, hf, hs]
  simp only [hz]
  by_cases h0 : f = 0
  · rw [if_pos h0, if_pos (.inl h0)]
  · rw [if_neg h0]
    by_cases h1 : s = 0
    · rw [if_pos h1, if_pos (.inr h1)]
    · have h01 : ¬(f = 0 ∨ s = 0) := not_or_intro h0 h1
      rw [if_neg h1, if_neg h01]
      by_cases h2 : 9 + nvData.length ≤ s
      · have hlen : (header.bytes ++ (nvData ++ List.replicate (s - (9 + nvData.length)) 0)).length = s := by
          simp [ipcRfsNvReadItemResponseHeaderSize]
          omega
        rw [if_pos h2, if_congr (and_iff_right h2) rfl rfl]
        simp only [List.append_assoc, hlen]
      · rw [if_neg h2, if_neg fun h => h2 h.1]

/-- The modem reads the data back exactly where the size that is sent is the right one, and the block has as much. -/
lemma nv_read_item_sent_iff (hd : nvData ≠ []) (first second : BitVec w) (header : IpcRfsNvReadItemResponseHeader) :
    (∃ data, nvReadItemSent first second header nvData = .sent data ∧ decodeReadItem data =
      some ⟨header.confirm, header.offset.toNat, header.length.toNat, some nvData⟩) ↔
    (ipcRfsNvDataItemSizeSetup first nvData).toNat = 9 + nvData.length ∧
      9 + nvData.length ≤ (ipcRfsNvDataItemSizeSetup second nvData).toNat := by
  generalize hf : (ipcRfsNvDataItemSizeSetup first nvData).toNat = f
  generalize hs : (ipcRfsNvDataItemSizeSetup second nvData).toNat = s
  rw [nv_read_item_sent_eq hd first second header hf hs]
  constructor
  · rintro ⟨data, hsent, hdecode⟩
    split at hsent
    · cases hsent
    · split at hsent
      · rename_i hle
        refine ⟨?_, hle.1⟩
        obtain rfl := NvReadItemSent.sent.inj hsent
        by_cases h9 : f < 9
        · rw [decodeReadItem, if_pos (by rw [List.length_take]; exact Nat.lt_of_le_of_lt (Nat.min_le_left f _) h9)]
            at hdecode
          cases hdecode
        · -- the header is whole, and what follows it has the length of the data
          rw [List.take_append, List.take_of_length_le (by simp [ipcRfsNvReadItemResponseHeaderSize]; omega),
            decode_read_item, Option.some.injEq, NvItemResponse.mk.injEq, Option.some.injEq] at hdecode
          have hlen := congrArg List.length hdecode.2.2.2
          simp only [List.length_take, List.length_append, List.length_replicate,
            IpcRfsNvReadItemResponseHeader.bytes_length, ipcRfsNvReadItemResponseHeaderSize] at hlen
          omega
      · cases hsent
  · rintro ⟨h, hle⟩
    rw [if_neg (by omega), if_pos ⟨hle, by omega⟩]
    refine ⟨_, rfl, ?_⟩
    have htake : (header.bytes ++ (nvData ++ List.replicate (s - (9 + nvData.length)) 0)).take f =
        header.bytes ++ nvData := by
      have hl : f = (header.bytes ++ nvData).length := by simp [h, ipcRfsNvReadItemResponseHeaderSize]
      rw [← List.append_assoc, hl, List.take_left]
    rw [htake, decode_read_item]

variable {specs : NvDataSpecs} {files : Files NvPath} {array message : Bytes}

/-- What is read is what is stored at the offset, unless `lseek` takes the offset for a negative one. -/
lemma nv_data_read_stored (hd : files .nvData = some array) {size offset : ℕ}
    (hr : ipcNvDataRead specs files size offset = some nvData) : nvData.length = size ∧ nvData ≠ [] ∧
      (offset < 2 ^ (specs.offBits - 1) → nvData = (array.drop offset).take size) ∧
      (((array.drop offset).take size).length = size → offset < 2 ^ (specs.offBits - 1)) := by
  rw [nv_data_read_eq hd] at hr
  split at hr
  · rename_i h
    obtain ⟨hlen, hpos, hle⟩ := h
    have hdata := (Option.some.inj hr).symm
    have hl : nvData.length = size := by
      rw [hdata, List.length_take, List.length_drop]
      omega
    refine ⟨hl, fun h0 => ?_, fun h => ?_, fun h => ?_⟩
    · rw [h0, List.length_nil] at hl
      omega
    · rw [hdata, seekPosition, if_pos h]
    · have hsize := specs.size_le
      rw [List.length_take, List.length_drop] at h
      omega
  · cases hr

lemma read_item_answer (hm : nvItemHeaderSize ≤ message.length)
    (hr : ipcNvDataRead specs files (intAt message 4) (intAt message 0) = some nvData) :
    ipcRfsNvReadItemSent specs message first second files =
      nvReadItemSent first second ⟨1, UInt32.ofNat (intAt message 0), UInt32.ofNat (intAt message 4)⟩ nvData := by
  rw [ipcRfsNvReadItemSent, if_neg (Nat.not_lt.mpr hm), hr]

/-- The answer as `ipcRfsNvReadItem` has it -/
def answerRead (message : Bytes) : NvReadItemSent → Option NvItemResponse
  | .nothing => none
  | .overrun => some ⟨1, intAt message 0, intAt message 4, none⟩
  | .sent data => decodeReadItem data

/-- Where none of the two sums wraps around, the bytes that are sent are those of the answer. -/
lemma read_item_refines (hd : files .nvData = some array) (hf : 9 + first.toNat < 2 ^ w)
    (hs : 9 + second.toNat < 2 ^ w) : answerRead message (ipcRfsNvReadItemSent specs message first second files) =
      ipcRfsNvReadItem specs message first.toNat second.toNat files := by
  rw [ipcRfsNvReadItem]
  by_cases hm : message.length < nvItemHeaderSize
  · rw [if_pos hm, ipcRfsNvReadItemSent, if_pos hm]
    rfl
  · rw [if_neg hm]
    cases hr : ipcNvDataRead specs files (intAt message 4) (intAt message 0) with
    | none =>
      rw [ipcRfsNvReadItemSent, if_neg hm, hr]
      rfl
    | some nvData =>
      obtain ⟨-, hne, -, -⟩ := nv_data_read_stored hd hr
      have hoffset := Nat.mod_eq_of_lt (int_at_lt message 0)
      have hlength := Nat.mod_eq_of_lt (int_at_lt message 4)
      rw [read_item_answer (Nat.le_of_not_lt hm) hr, nv_read_item_sent_eq hne first second _
        ((nv_data_item_size hne first).trans (Nat.mod_eq_of_lt hf))
        ((nv_data_item_size hne second).trans (Nat.mod_eq_of_lt hs)), if_neg (by omega)]
      simp only [nvReadItemData]
      by_cases hle : first.toNat ≤ second.toNat ∧ nvData.length ≤ second.toNat
      · rw [if_pos (by omega), if_pos hle, List.take_append,
          List.take_of_length_le (by simp [ipcRfsNvReadItemResponseHeaderSize]), answerRead, decode_read_item,
          IpcRfsNvReadItemResponseHeader.bytes_length, ipcRfsNvReadItemResponseHeaderSize, Nat.add_sub_cancel_left,
          Nat.add_sub_add_left, UInt32.toNat_ofNat', UInt32.toNat_ofNat', hoffset, hlength]
      · rw [if_neg (by omega), if_neg hle, answerRead]

/-- The encoding of an answer to a read depends on what the stack holds: the sizes and the block are right where it
holds the length of the data in both calls, and the modem reads back what is stored where it does in the first one and
holds no less in the second one. -/
theorem nv_read_item_encoded_iff (specs : NvDataSpecs) (files : Files NvPath) (first second : BitVec w) :
    (∀ (header : IpcRfsNvReadItemResponseHeader) (nvData : Bytes), nvData ≠ [] →
      ((ipcRfsNvDataItemSizeSetup first nvData).toNat = ipcRfsNvReadItemResponseHeaderSize + nvData.length ∧
        ipcRfsNvReadItemSetup second header nvData = .block (header.bytes ++ nvData) ↔
      first.toNat = nvData.length ∧ second.toNat = nvData.length ∧
        ipcRfsNvReadItemResponseHeaderSize + nvData.length < 2 ^ w)) ∧
    ∀ message array nvData : Bytes, nvItemHeaderSize ≤ message.length → files .nvData = some array →
      ipcNvDataRead specs files (intAt message 4) (intAt message 0) = some nvData →
      ((∃ data stored, ipcRfsNvReadItemSent specs message first second files = .sent data ∧
        decodeReadItem data = some ⟨1, intAt message 0, intAt message 4, some stored⟩ ∧
        stored = (array.drop (intAt message 0)).take (intAt message 4) ∧ stored.length = intAt message 4) ↔
      intAt message 0 < 2 ^ (specs.offBits - 1) ∧ first.toNat = intAt message 4 ∧ intAt message 4 ≤ second.toNat ∧
        ipcRfsNvReadItemResponseHeaderSize + intAt message 4 < 2 ^ w ∧
        ipcRfsNvReadItemResponseHeaderSize + second.toNat < 2 ^ w) := by
  refine ⟨fun header nvData hd => ?_, fun message array nvData hm hfile hr => ?_⟩
  · rw [nv_read_item_setup_iff hd, ipcRfsNvReadItemResponseHeaderSize, nv_data_item_size_iff hd,
      nv_data_item_size_iff hd]
    omega
  · obtain ⟨hlen, hne, hstored, hseek⟩ := nv_data_read_stored hfile hr
    have hoffset := Nat.mod_eq_of_lt (int_at_lt message 0)
    have hlength := Nat.mod_eq_of_lt (int_at_lt message 4)
    have hiff := nv_read_item_sent_iff hne first second
      ⟨1, UInt32.ofNat (intAt message 0), UInt32.ofNat (intAt message 4)⟩
    rw [nv_data_item_size_iff hne, nv_data_item_size hne second, UInt32.toNat_ofNat', UInt32.toNat_ofNat', hoffset,
      hlength, hlen] at hiff
    rw [read_item_answer hm hr]
    constructor
    · rintro ⟨data, stored, hsent, hdecode, rfl, hl⟩
      have hoff := hseek hl
      rw [← hstored hoff] at hdecode
      obtain ⟨⟨hfirst, hfit⟩, hsecond⟩ := hiff.mp ⟨data, hsent, hdecode⟩
      have hlt := second.isLt
      have hwrap : 9 + second.toNat < 2 ^ w := by
        by_contra hge
        have hmod : (9 + second.toNat) % 2 ^ w = 9 + second.toNat - 2 ^ w := by
          rw [Nat.mod_eq_sub_mod (by omega), Nat.mod_eq_of_lt (by omega)]
        omega
      rw [Nat.mod_eq_of_lt hwrap] at hsecond
      exact ⟨hoff, hfirst, by omega, hfit, hwrap⟩
    · rintro ⟨hoff, hfirst, hle, hfit, hwrap⟩
      have hmod : (9 + second.toNat) % 2 ^ w = 9 + second.toNat := Nat.mod_eq_of_lt hwrap
      obtain ⟨data, hsent, hdecode⟩ := hiff.mpr ⟨⟨hfirst, hfit⟩, by omega⟩
      exact ⟨data, nvData, hsent, hdecode, hstored hoff, hlen⟩

/-- Two bytes are asked for at the offset 0. -/
def readTwoBytes : Bytes := [0x00, 0x00, 0x00, 0x00, 0x02, 0x00, 0x00, 0x00]

lemma read_two_bytes : ipcNvDataRead twoBytes (twoBytesFiles none) (intAt readTwoBytes 4) (intAt readTwoBytes 0) =
    some [0x00, 0x00] := by decide

theorem nv_read_item_encoded_two :
    ipcRfsNvReadItemSetup (2 : BitVec 32) ⟨1, 0, 2⟩ [0x00, 0x00] = .block [1, 0, 0, 0, 0, 2, 0, 0, 0, 0, 0] ∧
    ∃ data stored, ipcRfsNvReadItemSent twoBytes readTwoBytes (2 : BitVec 32) (2 : BitVec 32) (twoBytesFiles none) =
        .sent data ∧
      decodeReadItem data = some ⟨1, intAt readTwoBytes 0, intAt readTwoBytes 4, some stored⟩ ∧
      stored = (List.drop (intAt readTwoBytes 0) [0x00, 0x00]).take (intAt readTwoBytes 4) ∧
      stored.length = intAt readTwoBytes 4 := by
  have h := nv_read_item_encoded_iff twoBytes (twoBytesFiles none) (2 : BitVec 32) (2 : BitVec 32)
  exact ⟨((h.1 ⟨1, 0, 2⟩ [0x00, 0x00] (by decide)).mpr (by decide)).2,
    (h.2 readTwoBytes [0x00, 0x00] [0x00, 0x00] (by decide) rfl read_two_bytes).mpr (by decide)⟩

/-- Where the stack holds 0 the size is that of the header alone, the block is too small for the data, and with a
larger one in the second call the answer has no data. -/
theorem nv_read_item_encoded_fails :
    ipcRfsNvDataItemSizeSetup (0 : BitVec 32) [0x00, 0x00] = 9 ∧
    ipcRfsNvReadItemSetup (0 : BitVec 32) ⟨1, 0, 2⟩ [0x00, 0x00] = .overrun ∧
    ipcRfsNvReadItemSent twoBytes readTwoBytes (0 : BitVec 32) (2 : BitVec 32) (twoBytesFiles none) =
      .sent [1, 0, 0, 0, 0, 2, 0, 0, 0] := by decide

end Ril.Ipc
