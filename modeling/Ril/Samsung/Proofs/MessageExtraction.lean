import Mathlib.Data.List.GetD
import Ril.Samsung.MessageReaders

/-! What is read through pointers is what the extractions take from the bytes of the message. -/

namespace Ril.Samsung

open Lib Ipc Lib.Reading

variable {data : Bytes} {index : UInt32}

lemma message_memory_at (data : Bytes) (i : ℕ) : messageMemory data (0 + i) = byteAt data i := by
  rw [messageMemory, Int.zero_add, Int.toNat_natCast]

lemma call_list_offset_eq (data : Bytes) (n : ℕ) :
    ListMessage.callList.entryOffset (messageMemory data) 0 n = callListOffset data n := by
  induction n with
  | zero => rfl
  | succ n ih =>
    have hstep : ListMessage.callList.entryOffset (messageMemory data) 0 (n + 1) =
        ListMessage.callList.entryOffset (messageMemory data) 0 n + 8 +
          (messageMemory data (0 + (ListMessage.callList.entryOffset (messageMemory data) 0 n + 6 : ℕ))).toNat := rfl
    rw [hstep, ih, message_memory_at, callListOffset]

/-- Where an extraction from the bytes finds an entry under the same condition, the pointer is to where it stands. -/
lemma list_entry_refines {γ : Type} (format : EntryFormat) (extracted : Option γ) (h : 0 < data.length)
    (hsome : extracted.isSome = true ↔ index.toNat < (byteAt data 0).toNat ∧
      format.offset (messageMemory data) 0 listHeaderSize (index.toNat + 1) ≤ data.length) :
    (listEntryReading format (some 0) data.length index).outcome (messageMemory data) =
      some (extracted.map fun _ => (format.offset (messageMemory data) 0 listHeaderSize index.toNat : ℤ)) := by
  have hcount : messageMemory data 0 = byteAt data 0 := rfl
  rw [outcome_list_entry h, hcount, if_congr hsome.symm rfl rfl, Int.zero_add]
  cases extracted with
  | none => rfl
  | some entry => rfl

lemma call_list_entry_refines (h : 0 < data.length) :
    (ipcCallListEntryExtractReading (some 0) data.length index).outcome (messageMemory data) =
      some ((ipcCallListEntryExtract data index.toNat).map fun _ => (callListOffset data index.toNat : ℤ)) := by
  have hend : ipcCallListEntryFormat.offset (messageMemory data) 0 listHeaderSize (index.toNat + 1) =
      callListOffset data (index.toNat + 1) := call_list_offset_eq data (index.toNat + 1)
  have hstart : ipcCallListEntryFormat.offset (messageMemory data) 0 listHeaderSize index.toNat =
      callListOffset data index.toNat := call_list_offset_eq data index.toNat
  rw [← hstart]
  refine list_entry_refines ipcCallListEntryFormat _ h ?_
  rw [hend, ipcCallListEntryExtract, ipcCallListCountExtract]
  split
  · simp
    omega
  · split
    · simp
      omega
    · simp
      omega

lemma plain_offset_eq {format : EntryFormat} (h : format.lengthAt = none) (data : Bytes) (n : ℕ) :
    format.offset (messageMemory data) 0 listHeaderSize n = 1 + format.size * n := by
  induction n with
  | zero => rfl
  | succ n ih =>
    rw [EntryFormat.offset, ih, h, Option.elim_none, Nat.mul_succ]
    omega

lemma net_plmn_list_entry_refines (h : 0 < data.length) :
    (ipcNetPlmnListEntryExtractReading (some 0) data.length index).outcome (messageMemory data) =
      some ((ipcNetPlmnListEntryExtract data index.toNat).map fun _ => ((1 + 10 * index.toNat : ℕ) : ℤ)) := by
  have hstart := @plain_offset_eq ipcNetPlmnListEntryFormat rfl data index.toNat
  have hend := @plain_offset_eq ipcNetPlmnListEntryFormat rfl data (index.toNat + 1)
  have hsize : ipcNetPlmnListEntryFormat.size = 10 := rfl
  rw [hsize] at hstart hend
  rw [← hstart]
  refine list_entry_refines ipcNetPlmnListEntryFormat _ h ?_
  rw [hend, ipcNetPlmnListEntryExtract, ipcNetPlmnListCountExtract]
  split
  · simp
    omega
  · split
    · simp
      omega
    · simp
      omega

lemma svc_display_screen_refines (h : 0 < data.length) :
    (ipcSvcDisplayScreenExtractReading (some 0) data.length 0).outcome (messageMemory data) =
      some ((ipcSvcDisplayScreenExtract data).map fun _ => (1 : ℤ)) := by
  refine list_entry_refines ipcSvcDisplayScreenEntryFormat _ h ?_
  have hend : ipcSvcDisplayScreenEntryFormat.offset (messageMemory data) 0 listHeaderSize ((0 : UInt32).toNat + 1) =
    1 + 34 := rfl
  have hindex : (0 : UInt32).toNat = 0 := rfl
  rw [hend, hindex, ipcSvcDisplayScreenExtract, ipcSvcDisplayScreenCountExtract]
  split
  · simp
    omega
  · split
    · simp
      omega
    · simp
      omega

/-- Behind the end of the bytes stands a zero here, so that a string ends there at the latest. -/
lemma string_at_eq (data : Bytes) (start count : ℕ) :
    ((List.range count).map fun i : ℕ => messageMemory data (start + i)).takeWhile (· != 0) =
      ((data.drop start).take count).takeWhile (· != 0) := by
  induction count generalizing start with
  | zero => rfl
  | succ count ih =>
    have hcell : messageMemory data (start + (0 : ℕ)) = byteAt data start := by
      rw [messageMemory]
      simp
    have hnext : ∀ i : ℕ, messageMemory data (start + (i + 1 : ℕ)) = messageMemory data ((start + 1 : ℕ) + i) :=
      fun i => congrArg (messageMemory data) (by omega)
    rw [List.range_succ_eq_map, List.map_cons, hcell, List.map_map]
    simp only [Function.comp_def, Nat.succ_eq_add_one, hnext]
    by_cases hs : start < data.length
    · have hbyte : byteAt data start = data[start] := List.getD_eq_getElem _ _ hs
      rw [List.drop_eq_getElem_cons hs, List.take_succ_cons, List.takeWhile_cons, List.takeWhile_cons, ih, hbyte]
    · have hbyte : byteAt data start = 0 := List.getD_eq_default _ _ (Nat.le_of_not_lt hs)
      rw [List.drop_eq_nil_of_le (Nat.le_of_not_lt hs), hbyte]
      rfl

lemma misc_me_imsi_refines (h : 0 < data.length) :
    (ipcMiscMeImsiImsiExtractReading (some 0) data.length).outcome (messageMemory data) =
      some (some (ipcMiscMeImsiImsiExtract data), [⟨1, (byteAt data 0).toNat⟩]) := by
  have hsize : ¬data.length < 1 := Nat.not_lt.mpr h
  have hlength : messageMemory data (0 + 0) = byteAt data 0 := rfl
  have hstring := string_at_eq data 1 (byteAt data 0).toNat
  rw [ipcMiscMeImsiImsiExtractReading, checkedReading, Option.isNone_some, Bool.false_or, decide_eq_false hsize,
    if_neg Bool.false_ne_true, Option.elim_some, outcome_read_at, hlength, outcome_bind, outcome_read_string]
  simp only [Int.zero_add, Option.bind_some, outcome_pure, ipcMiscMeImsiImsiExtract]
  rw [← hstring, Nat.cast_one]

lemma payload_refines {headerSize lengthAt : ℕ} (w : ℕ) (h : headerSize ≤ data.length) :
    (payloadReading w (some 0) data.length headerSize (readByte (some 0) lengthAt)).outcome (messageMemory data) =
      some ((announcedPayload headerSize (byteAt data lengthAt) data).map fun _ => (headerSize : ℤ)) := by
  have hlength : (readByte (some 0) lengthAt).outcome (messageMemory data) = some (byteAt data lengthAt).toNat :=
    congrArg (fun b : UInt8 => some b.toNat) (message_memory_at data lengthAt)
  rw [payloadReading, outcome_bind, hlength, Option.bind_some, outcome_pure, announcedPayload, lengthRefused, if_pos h]
  by_cases hr : byteAt data lengthAt = 0 ∨ data.length - headerSize < (byteAt data lengthAt).toNat
  · have hrefused : ((byteAt data lengthAt).toNat == 0 ||
        decide (data.length - headerSize < (byteAt data lengthAt).toNat)) = true := by
      rcases hr with hr | hr
      · rw [hr]
        rfl
      · simp [hr]
    rw [if_pos hrefused, if_pos hr]
    rfl
  · have haccepted : ((byteAt data lengthAt).toNat == 0 ||
        decide (data.length - headerSize < (byteAt data lengthAt).toNat)) = false := by
      obtain ⟨hz, hl⟩ := not_or.mp hr
      have hne : ¬(byteAt data lengthAt).toNat = 0 := fun h0 => hz (UInt8.toNat_inj.mp h0)
      simp [hne, hl]
    rw [haccepted, if_neg hr]
    simp

end Ril.Samsung
