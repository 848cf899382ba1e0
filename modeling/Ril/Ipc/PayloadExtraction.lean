import Ril.Ipc.Call
import Ril.Ipc.Net
import Ril.Ipc.Sms
import Ril.Lib.EntryWalk

/-! The entries of the call list, the list of networks and the service mode screen, read through pointers. -/

namespace Ril.Ipc

open Lib

/-- `struct ipc_call_list_entry`; `number_length` counts what follows. -/
def ipcCallListEntryFormat : EntryFormat := ⟨8, some 6, by decide, by decide, fun _ h => by cases h; decide⟩

/-- `struct ipc_net_plmn_list_entry` -/
def ipcNetPlmnListEntryFormat : EntryFormat := ⟨10, none, by decide, by decide, fun _ h => by cases h⟩

/-- `struct ipc_svc_display_screen_entry` -/
def ipcSvcDisplayScreenEntryFormat : EntryFormat := ⟨34, none, by decide, by decide, fun _ h => by cases h⟩

/-- The header of each of the three lists is their count. -/
def listHeaderSize : ℕ := 1

def listCountReading (data : Option ℤ) (size : ℕ) : Reading UInt8 UInt8 :=
  if data.isNone || decide (size < listHeaderSize) then pure 0 else Reading.readAt data 0

def listEntryReading (format : EntryFormat) (data : Option ℤ) (size : ℕ) (index : UInt32) : Reading UInt8 (Option ℤ) :=
  data.elim (pure none) fun base => do
    let count ← listCountReading (some base) size
    if count = 0 ∨ count.toUInt32 ≤ index then pure none
    else format.extract base listHeaderSize size index

def ipcCallListCountExtractReading : Option ℤ → ℕ → Reading UInt8 UInt8 := listCountReading

def ipcCallListEntryExtractReading : Option ℤ → ℕ → UInt32 → Reading UInt8 (Option ℤ) :=
  listEntryReading ipcCallListEntryFormat

def ipcNetPlmnListEntryExtractReading : Option ℤ → ℕ → UInt32 → Reading UInt8 (Option ℤ) :=
  listEntryReading ipcNetPlmnListEntryFormat

def ipcSvcDisplayScreenCountExtractReading : Option ℤ → ℕ → Reading UInt8 UInt8 := listCountReading

def ipcSvcDisplayScreenExtractReading : Option ℤ → ℕ → UInt32 → Reading UInt8 (Option ℤ) :=
  listEntryReading ipcSvcDisplayScreenEntryFormat

inductive ListMessage
  | callList | netPlmnList | svcDisplayScreen
deriving DecidableEq, Repr

namespace ListMessage

def format : ListMessage → EntryFormat
  | callList => ipcCallListEntryFormat
  | netPlmnList => ipcNetPlmnListEntryFormat
  | svcDisplayScreen => ipcSvcDisplayScreenEntryFormat

def entryExtract : ListMessage → Option ℤ → ℕ → UInt32 → Reading UInt8 (Option ℤ)
  | callList => ipcCallListEntryExtractReading
  | netPlmnList => ipcNetPlmnListEntryExtractReading
  | svcDisplayScreen => ipcSvcDisplayScreenExtractReading

lemma entry_extract_eq (list : ListMessage) : list.entryExtract = listEntryReading list.format := by
  cases list with
  | callList => rfl
  | netPlmnList => rfl
  | svcDisplayScreen => rfl

/-- The offset of an entry, and of the end of the last one -/
def entryOffset (list : ListMessage) (memory : ℤ → UInt8) (base : ℤ) (index : ℕ) : ℕ :=
  list.format.offset memory base listHeaderSize index

end ListMessage

variable {format : EntryFormat} {memory memory' : ℤ → UInt8} {block : ℤ → Prop} {base : ℤ} {size : ℕ} {index : UInt32}

lemma list_count_of_pos (h : 0 < size) : listCountReading (some base) size = Reading.readAt (some base) 0 := by
  have hsize : ¬size < listHeaderSize := Nat.not_lt.mpr h
  simp [listCountReading, hsize]

lemma index_lt_iff (count : UInt8) : count = 0 ∨ count.toUInt32 ≤ index ↔ ¬index.toNat < count.toNat := by
  rw [UInt32.le_iff_toNat_le, UInt8.toNat_toUInt32, ← UInt8.toNat_inj, UInt8.toNat_zero]
  omega

lemma outcome_list_entry (h : 0 < size) : (listEntryReading format (some base) size index).outcome memory =
    some (if index.toNat < (memory base).toNat ∧ format.offset memory base listHeaderSize (index.toNat + 1) ≤ size then
      some (base + (format.offset memory base listHeaderSize index.toNat : ℕ)) else none) := by
  have hcount := (memory base).toNat_lt
  rw [listEntryReading, Option.elim_some, list_count_of_pos h, Reading.outcome_read_at, Int.add_zero]
  by_cases hindex : index.toNat < (memory base).toNat
  · rw [if_neg (fun h => (index_lt_iff _).mp h hindex), EntryFormat.outcome_extract (by omega) (by decide)]
    by_cases hover : format.offset memory base listHeaderSize (index.toNat + 1) > size
    · rw [if_pos hover, if_neg fun h => Nat.not_le.mpr hover h.2]
    · rw [if_neg hover, if_pos ⟨hindex, Nat.le_of_not_lt hover⟩]
  · rw [if_pos ((index_lt_iff _).mpr hindex), if_neg fun h => hindex h.1]
    rfl

lemma within_list_entry (h : 0 < size) : (listEntryReading format (some base) size index).Within memory block ↔
    block base ∧ (index.toNat < (memory base).toNat → ∀ j ≤ index.toNat, ∀ i, format.lengthAt = some i →
      block (base + (format.offset memory base listHeaderSize j + i : ℕ))) := by
  have hcount := (memory base).toNat_lt
  rw [listEntryReading, Option.elim_some, list_count_of_pos h, Reading.within_read_at, Int.add_zero]
  refine and_congr_right fun _ => ?_
  by_cases hindex : index.toNat < (memory base).toNat
  · rw [if_neg fun h => (index_lt_iff _).mp h hindex, EntryFormat.within_extract (by omega) (by decide)]
    exact ⟨fun h _ => h, fun h => h hindex⟩
  · rw [if_pos ((index_lt_iff _).mpr hindex)]
    exact iff_of_true trivial fun h => absurd h hindex

lemma outcome_list_entry_empty : (listEntryReading format (some base) 0 index).outcome memory = some none := by
  have hcount : listCountReading (some base) 0 = pure 0 := rfl
  rw [listEntryReading, Option.elim_some, hcount, Reading.outcome_bind, Reading.outcome_pure, Option.bind_some,
    if_pos (.inl rfl)]
  rfl

lemma list_entry_congr (hmemory : ∀ a : ℕ, a < size → memory (base + a) = memory' (base + a)) :
    (listEntryReading format (some base) size index).outcome memory =
      (listEntryReading format (some base) size index).outcome memory' := by
  rcases Nat.eq_zero_or_pos size with rfl | hpos
  · rw [outcome_list_entry_empty, outcome_list_entry_empty]
  · have hfirst : memory base = memory' base := by
      have h0 := hmemory 0 hpos
      rwa [Nat.cast_zero, Int.add_zero] at h0
    have hcount := (memory base).toNat_lt
    rw [listEntryReading, Option.elim_some, list_count_of_pos hpos, Reading.outcome_read_at, Reading.outcome_read_at,
      Int.add_zero, ← hfirst]
    split
    · rfl
    · rename_i hindex
      have hlt := not_not.mp (mt (index_lt_iff _).mpr hindex)
      exact EntryFormat.extract_congr (by omega) (by decide) hmemory

/-- An entry is found exactly where its index is below the count and it and the entries before it are in the message;
it stands behind those, and nothing behind the message matters. -/
theorem list_entry_extracted (list : ListMessage) (memory : ℤ → UInt8) (base : ℤ) (size : ℕ) (index : UInt32) :
    ∃ entry, (list.entryExtract (some base) size index).outcome memory = some entry ∧
      (entry ≠ none ↔ index.toNat < (memory base).toNat ∧
        ∀ i ≤ index.toNat, list.entryOffset memory base (i + 1) ≤ size) ∧
      (∀ pointer, entry = some pointer → pointer = base + (list.entryOffset memory base index.toNat : ℕ)) ∧
      ∀ memory', (∀ a : ℕ, a < size → memory (base + a) = memory' (base + a)) →
        (list.entryExtract (some base) size index).outcome memory' = some entry := by
  rw [list.entry_extract_eq]
  have hmono : (∀ i ≤ index.toNat, list.entryOffset memory base (i + 1) ≤ size) ↔
      list.format.offset memory base listHeaderSize (index.toNat + 1) ≤ size :=
    ⟨fun h => h _ (Nat.le_refl _), fun h i hi => (EntryFormat.offset_mono (by omega)).trans h⟩
  rcases Nat.eq_zero_or_pos size with rfl | hpos
  · refine ⟨none, outcome_list_entry_empty, ?_, fun pointer h => absurd h.symm (Option.some_ne_none pointer),
      fun _ _ => outcome_list_entry_empty⟩
    refine iff_of_false (fun h => h rfl) fun h => ?_
    have hge := @EntryFormat.offset_succ_ge list.format memory base listHeaderSize index.toNat
    have hsize := list.format.size_pos
    have hle := hmono.mp h.2
    omega
  · refine ⟨_, outcome_list_entry hpos, ?_, fun pointer h => ?_, fun memory' h => ?_⟩
    · rw [hmono]
      split
      · rename_i h
        exact iff_of_true (Option.some_ne_none _) h
      · rename_i h
        exact iff_of_false (fun hne => hne rfl) h
    · split at h
      · exact (Option.some.inj h).symm
      · cases h
    · rw [← list_entry_congr h, outcome_list_entry hpos]

end Ril.Ipc

/-! The payloads whose length a message tells itself, read through pointers. -/

namespace Ril.Ipc

open Lib

/-- The check that the extractions begin with -/
def checkedReading {α : Type} (data : Option ℤ) (size headerSize : ℕ) (failed : α) (p : Reading UInt8 α) :
    Reading UInt8 α :=
  if data.isNone || decide (size < headerSize) then pure failed else p

/-- `header->length == 0 || header->length > size - sizeof(header)`, with a `size_t` of `w` bits -/
def lengthRefused (w size headerSize length : ℕ) : Bool :=
  length == 0 || decide ((if headerSize ≤ size then size - headerSize else 2 ^ w + size - headerSize) < length)

def readByte (data : Option ℤ) (offset : ℕ) : Reading UInt8 ℕ := do
  let b ← Reading.readAt data offset
  return b.toNat

/-- An `unsigned int` of the message -/
def readInt (data : Option ℤ) (offset : ℕ) : Reading UInt8 ℕ := do
  let b0 ← Reading.readAt data offset
  let b1 ← Reading.readAt data (offset + 1 : ℕ)
  let b2 ← Reading.readAt data (offset + 2 : ℕ)
  let b3 ← Reading.readAt data (offset + 3 : ℕ)
  return intAt [b0, b1, b2, b3] 0

def payloadSizeReading (w size headerSize : ℕ) (length : Reading UInt8 ℕ) : Reading UInt8 ℕ := do
  let length ← length
  return if lengthRefused w size headerSize length then 0 else length

def payloadReading (w : ℕ) (data : Option ℤ) (size headerSize : ℕ) (length : Reading UInt8 ℕ) :
    Reading UInt8 (Option ℤ) := do
  let length ← length
  return if lengthRefused w size headerSize length then none else data.map (· + headerSize)

/-- The string, and the range that `strncpy` is asked to copy -/
def ipcMiscMeImsiImsiExtractReading (data : Option ℤ) (size : ℕ) : Reading UInt8 (Option CString × List Reading.Span) :=
  checkedReading data size 1 (none, []) <| data.elim .null fun base => do
    let length ← Reading.readAt (some base) 0
    let imsi ← Reading.readString (base + 1) length.toNat
    return (some imsi, [⟨base + 1, length.toNat⟩])

def ipcCallListEntryNumberExtractReading (entry : Option ℤ) : Reading UInt8 (Option CString × List Reading.Span) :=
  entry.elim (pure (none, [])) fun entry => do
    let numberLength ← Reading.readAt (some entry) 6
    let number ← Reading.readString (entry + 8) numberLength.toNat
    return (some number, [⟨entry + 8, numberLength.toNat⟩])

/-- Neither the pointer nor the size is checked. -/
def ipcSmsIncomingMsgPduSizeExtractReading (w : ℕ) (data : Option ℤ) (size : ℕ) : Reading UInt8 ℕ :=
  payloadSizeReading w size 6 (readByte data 5)

def ipcSmsIncomingMsgPduExtractReading (w : ℕ) (data : Option ℤ) (size : ℕ) : Reading UInt8 (Option ℤ) :=
  checkedReading data size 6 none (payloadReading w data size 6 (readByte data 5))

def ipcSmsSvcCenterAddrSmscSizeExtractReading (w : ℕ) (data : Option ℤ) (size : ℕ) : Reading UInt8 ℕ :=
  checkedReading data size 1 0 (payloadSizeReading w size 1 (readByte data 0))

def ipcSmsSvcCenterAddrSmscExtractReading (w : ℕ) (data : Option ℤ) (size : ℕ) : Reading UInt8 (Option ℤ) :=
  checkedReading data size 1 none (payloadReading w data size 1 (readByte data 0))

def ipcRfsNvWriteItemSizeExtractReading (w : ℕ) (data : Option ℤ) (size : ℕ) : Reading UInt8 ℕ :=
  checkedReading data size 8 0 (payloadSizeReading w size 8 (readInt data 4))

def ipcRfsNvWriteItemExtractReading (w : ℕ) (data : Option ℤ) (size : ℕ) : Reading UInt8 (Option ℤ) :=
  checkedReading data size 8 none (payloadReading w data size 8 (readInt data 4))

end Ril.Ipc
