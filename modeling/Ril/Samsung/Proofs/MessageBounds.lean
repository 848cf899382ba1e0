import Ril.Samsung.MessageReaders

/-! Which of the readers of a message stay inside it. -/

namespace Ril.Samsung

open Lib Ipc Lib.Reading

/-- The bytes of the message -/
def MessageBlock.Inside (message : MessageBlock) (address : ℤ) : Prop :=
  message.data.elim False fun base => base ≤ address ∧ address < base + message.size

/-- Where a reader's counts are checked before they are used. The length of the IMSI and the number of screens are not
compared with the size, the length of a number is read before the entry is known to be there, and the size of a PDU is
looked for in a header that may be missing. -/
def MessageReader.Checked (memory : ℤ → UInt8) (state : HandlerState) (message : MessageBlock) : MessageReader → Prop
  | imsiExtract => ∀ base, message.data = some base → 1 ≤ message.size → 1 + (memory base).toNat ≤ message.size
  | imsi => ∀ base, message.data = some base → 1 ≤ message.size → message.isAnswer = true →
      1 + (memory base).toNat ≤ message.size
  | callListEntry index => ∀ base, message.data = some base → 1 ≤ message.size → index.toNat < (memory base).toNat →
      ∀ i ≤ index.toNat, ListMessage.callList.entryOffset memory base i + 7 ≤ message.size
  | callList => ∀ base, message.data = some base → 1 ≤ message.size → message.isAnswer = true →
      ∀ i < (memory base).toNat, ListMessage.callList.entryOffset memory base i ≤ message.size →
        ListMessage.callList.entryOffset memory base i + 7 ≤ message.size
  | screen => ∀ base, message.data = some base → state.fmtClientReady = true → memory base ≠ 0 →
      1 + 34 ≤ message.size → memory (base + 1) = 0 → memory (base + 2) = 0 →
      1 + (memory base).toNat * 34 ≤ message.size
  | pduSize => message.data ≠ none ∧ 6 ≤ message.size
  | _ => True

section

variable {α : Type} {memory : ℤ → UInt8} {block : ℤ → Prop} {message : MessageBlock} {state : HandlerState}
  {base : ℤ} {size headerSize w : ℕ} {failed : α} {data : Option ℤ} {index : UInt32}

/-! ### The rules of the checks -/

lemma inside_iff (hd : message.data = some base) (i : ℕ) : message.Inside (base + i) ↔ i < message.size := by
  rw [MessageBlock.Inside, hd]
  simp only [Option.elim_some]
  omega

lemma span_inside (hd : message.data = some base) (start count : ℕ) :
    Span.Inside message.Inside ⟨base + start, count⟩ ↔ count = 0 ∨ start + count ≤ message.size := by
  have hcell : ∀ i : ℕ, base + start + i = base + (start + i : ℕ) := fun i => by omega
  simp only [Span.Inside, hcell, inside_iff hd]
  constructor
  · intro h
    by_contra hne
    have hlast := h (count - 1) (by omega)
    omega
  · intro h i hi
    omega

lemma checked_some (h : headerSize ≤ size) (p : Reading UInt8 α) :
    checkedReading (some base) size headerSize failed p = p := by
  have hsize : ¬size < headerSize := Nat.not_lt.mpr h
  simp [checkedReading, hsize]

lemma checked_failed (h : data = none ∨ size < headerSize) (p : Reading UInt8 α) :
    checkedReading data size headerSize failed p = pure failed := by
  have hfail : (data.isNone || decide (size < headerSize)) = true := by
    rcases h with rfl | h
    · rfl
    · simp [h]
  rw [checkedReading, hfail, if_pos rfl]

lemma within_checked (p : Reading UInt8 α) : (checkedReading data size headerSize failed p).Within memory block ↔
    ∀ base, data = some base → headerSize ≤ size → p.Within memory block := by
  cases data with
  | none =>
    rw [checked_failed (.inl rfl)]
    exact iff_of_true trivial fun _ h => by cases h
  | some base =>
    by_cases h : headerSize ≤ size
    · rw [checked_some h]
      exact ⟨fun hp _ _ _ => hp, fun hp => hp base rfl h⟩
    · rw [checked_failed (.inr (Nat.lt_of_not_le h))]
      exact iff_of_true trivial fun _ _ hle => absurd hle h

lemma in_bounds_checked (p : Reading UInt8 (List Span)) :
    InBounds memory block (checkedReading data size headerSize [] p) ↔
      ∀ base, data = some base → headerSize ≤ size → InBounds memory block p := by
  cases data with
  | none =>
    rw [checked_failed (.inl rfl), in_bounds_pure]
    exact iff_of_true (fun _ h => absurd h List.not_mem_nil) fun _ h => by cases h
  | some base =>
    by_cases h : headerSize ≤ size
    · rw [checked_some h]
      exact ⟨fun hp _ _ _ => hp, fun hp => hp base rfl h⟩
    · rw [checked_failed (.inr (Nat.lt_of_not_le h)), in_bounds_pure]
      exact iff_of_true (fun _ h => absurd h List.not_mem_nil) fun _ _ hle => absurd hle h

lemma in_bounds_nothing : InBounds memory block (pure []) := (in_bounds_pure []).mpr fun _ h => absurd h List.not_mem_nil

lemma in_bounds_unused (p : Reading UInt8 α) : InBounds memory block (p >>= fun _ => pure []) ↔ p.Within memory block := by
  rw [in_bounds_bind]
  exact and_iff_left fun _ _ => in_bounds_nothing

lemma checked_bind {β : Type} {result : β} (p : Reading UInt8 α) (f : α → Reading UInt8 β) (hf : f failed = pure result) :
    checkedReading data size headerSize failed p >>= f = checkedReading data size headerSize result (p >>= f) := by
  rw [checkedReading, checkedReading]
  split
  · exact hf
  · rfl

/-! ### The fields -/

lemma within_read_inside (hd : message.data = some base) (i : ℕ) (f : UInt8 → Reading UInt8 α) :
    (readAt (some base) i >>= f).Within memory message.Inside ↔
      i < message.size ∧ (f (memory (base + i))).Within memory message.Inside := by
  rw [within_read_at, inside_iff hd]

lemma in_bounds_read (base offset : ℤ) (f : UInt8 → Reading UInt8 (List Span)) :
    InBounds memory block (readAt (some base) offset >>= f) ↔
      block (base + offset) ∧ InBounds memory block (f (memory (base + offset))) := by
  rw [in_bounds_bind]
  exact ⟨fun h => ⟨h.1.1, h.2 _ rfl⟩, fun h => ⟨⟨h.1, trivial⟩, fun _ he => Option.some.inj he ▸ h.2⟩⟩

lemma within_read_fields (hd : message.data = some base) (start : ℕ) {offsets : List ℕ}
    (h : ∀ i ∈ offsets, start + i < message.size) :
    (readFields (base + start) offsets).Within memory message.Inside := by
  induction offsets with
  | nil => trivial
  | cons i offsets ih =>
    have hcell : base + start + i = base + (start + i : ℕ) := by omega
    refine (within_read_at _ _ _).mpr ⟨?_, (within_bind _ _).mpr ⟨ih fun j hj => h j (.tail _ hj), fun _ _ => trivial⟩⟩
    rw [hcell, inside_iff hd]
    exact h i (.head _)

/-- A string that is copied with a count of its own stays inside exactly where the count does, as far as the range
matters. -/
lemma copied_in_bounds (hd : message.data = some base) (start count : ℕ) :
    InBounds memory message.Inside (readString (base + start) count >>= fun _ => pure [⟨base + start, count⟩]) ↔
      count = 0 ∨ start + count ≤ message.size := by
  rw [in_bounds_bind]
  simp only [in_bounds_pure, List.mem_singleton, forall_eq, span_inside hd]
  constructor
  · rintro ⟨-, h⟩
    exact h _ (outcome_read_string _ _)
  · intro h
    refine ⟨within_read_string fun i hi => ?_, fun _ _ => h⟩
    have hcell : base + start + i = base + (start + i : ℕ) := by omega
    rw [hcell, inside_iff hd]
    omega

/-! ### The IMSI -/

lemma imsi_extract_in_bounds : InBounds memory message.Inside (MessageReader.imsiExtract.reading w state message) ↔
    MessageReader.imsiExtract.Checked memory state message := by
  rw [MessageReader.reading, ipcMiscMeImsiImsiExtractReading,
    checked_bind _ (fun imsi : Option CString × List Span => pure imsi.2) rfl, in_bounds_checked]
  refine forall_congr' fun base => forall_congr' fun hd => forall_congr' fun hsize => ?_
  have hcopy := @copied_in_bounds memory message base hd 1 (memory base).toNat
  rw [hd, Option.elim_some, bind_assoc, in_bounds_read, Int.add_zero, bind_assoc]
  have h0 : message.Inside base := by simpa using (inside_iff hd 0).mpr hsize
  refine (and_iff_right h0).trans (hcopy.trans ?_)
  omega

lemma imsi_in_bounds : InBounds memory message.Inside (MessageReader.imsi.reading w state message) ↔
    MessageReader.imsi.Checked memory state message := by
  rw [MessageReader.reading, ipcMiscMeImsiReading, in_bounds_checked]
  refine forall_congr' fun base => forall_congr' fun hd => forall_congr' fun hsize => ?_
  split
  · rename_i ha
    refine (@imsi_extract_in_bounds memory message state w).trans ⟨fun h _ => h base hd hsize, fun h base' hd' _ => ?_⟩
    obtain rfl := Option.some.inj (hd.symm.trans hd')
    exact h ha
  · rename_i ha
    exact iff_of_true in_bounds_nothing fun h => absurd h ha

/-! ### The lists -/

lemma list_count_within (data : Option ℤ) (hd : message.data = data) :
    (listCountReading data message.size).Within memory message.Inside := by
  cases data with
  | none => trivial
  | some base =>
    by_cases hsize : 0 < message.size
    · rw [list_count_of_pos hsize]
      exact ⟨by simpa using (inside_iff hd 0).mpr hsize, trivial⟩
    · obtain hz : message.size = 0 := Nat.le_zero.mp (Nat.le_of_not_lt hsize)
      rw [hz]
      trivial

lemma list_entry_within (format : EntryFormat) :
    (listEntryReading format message.data message.size index).Within memory message.Inside ↔
      ∀ base, message.data = some base → 1 ≤ message.size → index.toNat < (memory base).toNat → ∀ j ≤ index.toNat,
        ∀ i, format.lengthAt = some i → format.offset memory base listHeaderSize j + i < message.size := by
  cases hd : message.data with
  | none => exact iff_of_true trivial fun _ h => by cases h
  | some base =>
    by_cases hsize : 0 < message.size
    · have h0 : message.Inside base := by simpa using (inside_iff hd 0).mpr hsize
      rw [within_list_entry hsize, and_iff_right h0]
      simp only [inside_iff hd]
      exact ⟨fun h b hb _ => Option.some.inj hb ▸ h, fun h => h base rfl hsize⟩
    · obtain hz : message.size = 0 := Nat.le_zero.mp (Nat.le_of_not_lt hsize)
      rw [hz]
      refine iff_of_true ?_ fun _ _ h => absurd h (by omega)
      exact (within_bind _ _).mpr ⟨trivial, fun count hcount => by
        obtain rfl := Option.some.inj hcount
        exact trivial⟩

lemma call_list_entry_in_bounds : InBounds memory message.Inside
    ((MessageReader.callListEntry index).reading w state message) ↔
      (MessageReader.callListEntry index).Checked memory state message := by
  rw [MessageReader.reading, in_bounds_unused]
  refine (list_entry_within ipcCallListEntryFormat).trans ?_
  refine forall_congr' fun base => forall_congr' fun hd => forall_congr' fun hsize => forall_congr' fun hindex =>
    forall_congr' fun j => forall_congr' fun hj => ?_
  exact ⟨fun h => h 6 rfl, fun h i hi => Option.some.inj hi ▸ h⟩

lemma call_entry_in_bounds (hd : message.data = some base) {i : ℕ}
    (hend : ListMessage.callList.entryOffset memory base (i + 1) ≤ message.size) (rest : Reading UInt8 (List Span)) :
    InBounds memory message.Inside (do
      let number ← ipcCallListEntryNumberExtractReading (some (base + (ListMessage.callList.entryOffset memory base i : ℕ)))
      let _ ← readFields (base + (ListMessage.callList.entryOffset memory base i : ℕ)) [4, 2, 5, 3, 1, 6]
      let rest ← rest
      return number.2 ++ rest) ↔ InBounds memory message.Inside rest := by
  generalize ho : ListMessage.callList.entryOffset memory base i = offset
  have hlength : offset + 8 + (memory (base + (offset + 6 : ℕ))).toNat ≤ message.size := by
    rw [← ho]
    exact hend
  have hfield : base + (offset : ℤ) + 6 = base + (offset + 6 : ℕ) := by omega
  have hstart : base + (offset : ℤ) + 8 = base + (offset + 8 : ℕ) := by omega
  have hcell : ∀ k : ℕ, base + (offset + 8 : ℕ) + k = base + (offset + 8 + k : ℕ) := fun k => by omega
  have hspan : Span.Inside message.Inside ⟨base + (offset + 8 : ℕ), (memory (base + (offset + 6 : ℕ))).toNat⟩ :=
    (span_inside hd _ _).mpr (.inr hlength)
  have hnumber : (readString (base + (offset + 8 : ℕ)) (memory (base + (offset + 6 : ℕ))).toNat).Within memory
      message.Inside := within_read_string fun k hk => by
    rw [hcell, inside_iff hd]
    omega
  have hfields : (readFields (base + (offset : ℤ)) [4, 2, 5, 3, 1, 6]).Within memory message.Inside :=
    within_read_fields hd offset (by simp; omega)
  obtain ⟨fields, hfields'⟩ := outcome_of_within hfields
  rw [ipcCallListEntryNumberExtractReading, Option.elim_some, bind_assoc, in_bounds_read, hfield, hstart,
    inside_iff hd, and_iff_right (by omega), bind_assoc, in_bounds_bind, and_iff_right hnumber]
  simp only [outcome_read_string, Option.some.injEq, forall_eq', Reading.pure_bind]
  refine (in_bounds_bind _ _).trans ((and_iff_right hfields).trans ?_)
  simp only [hfields', Option.some.injEq, forall_eq']
  exact (in_bounds_cons rest _).trans (and_iff_right hspan)

lemma forall_from_iff {P : ℕ → Prop} {i : ℕ} : (∀ j, i ≤ j → P j) ↔ P i ∧ ∀ j, i + 1 ≤ j → P j := by
  constructor
  · intro h
    exact ⟨h i (Nat.le_refl i), fun j hj => h j (Nat.le_of_succ_le hj)⟩
  · rintro ⟨hi, h⟩ j hj
    rcases Nat.eq_or_lt_of_le hj with rfl | hj
    · exact hi
    · exact h j hj

lemma call_entry_offset_mono {j k : ℕ} (h : j ≤ k) :
    ListMessage.callList.entryOffset memory base j ≤ ListMessage.callList.entryOffset memory base k :=
  EntryFormat.offset_mono h

/-- The last entry that is looked at is the one that matters. -/
lemma call_entry_within (hd : message.data = some base) (hsize : 1 ≤ message.size)
    (hindex : index.toNat < (memory base).toNat) :
    (ipcCallListEntryExtractReading message.data message.size index).Within memory message.Inside ↔
      ListMessage.callList.entryOffset memory base index.toNat + 7 ≤ message.size := by
  refine (list_entry_within ipcCallListEntryFormat).trans ⟨fun h => ?_, fun h base' hd' _ _ j hj f hf => ?_⟩
  · exact h base hd hsize hindex index.toNat (Nat.le_refl _) 6 rfl
  · obtain rfl := Option.some.inj (hd.symm.trans hd')
    obtain rfl := Option.some.inj hf
    have hle := @call_entry_offset_mono memory base j index.toNat hj
    have hlast : ListMessage.callList.entryOffset memory base j + 6 < message.size := by omega
    exact hlast

/-- From the entry at which the loop stands, which is still in the message -/
lemma call_list_loop_in_bounds (hd : message.data = some base) (hsize : 1 ≤ message.size) {left i rounds : ℕ}
    (hi : i + left = (memory base).toNat) (hr : left < rounds)
    (hinside : ListMessage.callList.entryOffset memory base i ≤ message.size) :
    InBounds memory message.Inside (callListLoop message (memory base) rounds (UInt8.ofNat i)) ↔
      ∀ j, i ≤ j → j < (memory base).toNat → ListMessage.callList.entryOffset memory base j ≤ message.size →
        ListMessage.callList.entryOffset memory base j + 7 ≤ message.size := by
  have hcount := (memory base).toNat_lt
  have hindex : (UInt8.ofNat i).toNat = i := by
    rw [UInt8.toNat_ofNat']
    exact Nat.mod_eq_of_lt (by omega)
  have hlt : UInt8.ofNat i < memory base ↔ i < (memory base).toNat := by rw [UInt8.lt_iff_toNat_lt, hindex]
  induction left generalizing i rounds with
  | zero =>
    obtain ⟨rounds, rfl⟩ := Nat.exists_eq_succ_of_ne_zero (Nat.ne_of_gt hr)
    rw [callListLoop, if_neg (by rw [hlt]; omega)]
    exact iff_of_true in_bounds_nothing fun j hj hle => by omega
  | succ left ih =>
    obtain ⟨rounds, rfl⟩ := Nat.exists_eq_succ_of_ne_zero (Nat.ne_of_gt (Nat.zero_lt_of_lt hr))
    have hwide : (UInt8.ofNat i).toUInt32.toNat = i := by rw [UInt8.toNat_toUInt32, hindex]
    have hmore : i < (memory base).toNat := by omega
    have hextract := @outcome_list_entry ipcCallListEntryFormat memory base message.size (UInt8.ofNat i).toUInt32 hsize
    have hwithin := @call_entry_within memory message base (UInt8.ofNat i).toUInt32 hd hsize
    rw [hwide] at hextract hwithin
    have hstep : UInt8.ofNat i + 1 = UInt8.ofNat (i + 1) := (UInt8.ofNat_add i 1).symm
    rw [callListLoop, if_pos (hlt.mpr hmore), in_bounds_bind, hwithin hmore, forall_from_iff]
    -- the entry at `i` bounds the read of its length, and the rest matters only if it ends in the message
    by_cases hend : ListMessage.callList.entryOffset memory base (i + 1) ≤ message.size
    · have hindex' : (UInt8.ofNat (i + 1)).toNat = i + 1 := by
        rw [UInt8.toNat_ofNat']
        exact Nat.mod_eq_of_lt (by omega)
      have hrest := @ih (i + 1) rounds (by omega) (by omega) hend hindex'
        (by rw [UInt8.lt_iff_toNat_lt, hindex'])
      have hfound : (ipcCallListEntryExtractReading message.data message.size (UInt8.ofNat i).toUInt32).outcome memory =
          some (some (base + (ListMessage.callList.entryOffset memory base i : ℕ))) := by
        rw [hd]
        exact hextract.trans (congrArg some (if_pos ⟨hmore, hend⟩))
      simp only [hfound, Option.some.injEq, forall_eq', Option.elim_some, hstep]
      refine (and_congr_right fun _ => (call_entry_in_bounds hd hend _).trans hrest).trans ?_
      exact and_congr_left fun _ => ⟨fun h _ _ => h, fun h => h hmore hinside⟩
    · have hmissing : (ipcCallListEntryExtractReading message.data message.size
          (UInt8.ofNat i).toUInt32).outcome memory = some none := by
        rw [hd]
        exact hextract.trans (congrArg some (if_neg fun h => hend h.2))
      simp only [hmissing, Option.some.injEq, forall_eq', Option.elim_none]
      rw [and_iff_left in_bounds_nothing, and_iff_left]
      · exact ⟨fun h _ _ => h, fun h => h hmore hinside⟩
      · intro j hj _ hle
        exact absurd (Nat.le_trans (call_entry_offset_mono hj) hle) hend

lemma screen_entry_within : (ipcSvcDisplayScreenExtractReading message.data message.size index).Within memory
    message.Inside :=
  (list_entry_within ipcSvcDisplayScreenEntryFormat).mpr fun _ _ _ _ _ _ _ h => by cases h

lemma call_list_in_bounds : InBounds memory message.Inside (MessageReader.callList.reading w state message) ↔
    MessageReader.callList.Checked memory state message := by
  rw [MessageReader.reading, ipcCallListReading, in_bounds_checked]
  refine forall_congr' fun base => forall_congr' fun hd => forall_congr' fun hsize => ?_
  split
  · rename_i ha
    have h0 : message.Inside (base + 0) := (inside_iff hd 0).mpr hsize
    rw [ipcCallListCountExtractReading, hd, list_count_of_pos hsize, in_bounds_read, and_iff_right h0, Int.add_zero]
    refine (@call_list_loop_in_bounds memory message base hd hsize (memory base).toNat 0 (2 ^ 8) (Nat.zero_add _)
      (memory base).toNat_lt hsize).trans ?_
    exact ⟨fun h _ j hj => h j (Nat.zero_le j) hj, fun h j _ hj => h ha j hj⟩
  · rename_i ha
    exact iff_of_true in_bounds_nothing fun h => absurd h ha

lemma short_at_zero_iff (a b : UInt8) : shortAt [a, b] 0 = 0 ↔ a = 0 ∧ b = 0 := by
  have hshort : shortAt [a, b] 0 = a.toNat + 256 * b.toNat := rfl
  rw [hshort, ← UInt8.toNat_inj, ← UInt8.toNat_inj, UInt8.toNat_zero]
  omega

/-- The index of the first entry decides whether the entries are handed on. -/
lemma first_screen_in_bounds (hd : message.data = some base) (hfirst : 1 + 34 ≤ message.size) (count : ℕ) :
    InBounds memory message.Inside (do
      let index ← readFields (base + 1) [0, 1]
      return if shortAt index 0 = 0 then [⟨base + 1, count * 34⟩] else []) ↔
    (memory (base + 1) = 0 → memory (base + 2) = 0 → count * 34 = 0 ∨ 1 + count * 34 ≤ message.size) := by
  have hfields : (readFields (base + 1) [0, 1]).Within memory message.Inside :=
    @within_read_fields memory message base hd 1 [0, 1] (by simp; omega)
  have hsecond : base + 1 + 1 = base + 2 := by omega
  have hindex : (readFields (base + 1) [0, 1]).outcome memory = some [memory (base + 1), memory (base + 2)] := by
    have h : (readFields (base + 1) [0, 1]).outcome memory = some [memory (base + 1 + 0), memory (base + 1 + 1)] := rfl
    rw [h, Int.add_zero, hsecond]
  have hspan := @span_inside message base hd 1 (count * 34)
  rw [in_bounds_bind, and_iff_right hfields]
  simp only [hindex, Option.some.injEq, forall_eq', in_bounds_pure, short_at_zero_iff]
  split
  · rename_i h
    simp only [List.mem_singleton, forall_eq, h.1, h.2, forall_const]
    exact hspan
  · rename_i h
    exact iff_of_true (fun _ hm => absurd hm List.not_mem_nil) fun h1 h2 => absurd ⟨h1, h2⟩ h

lemma screen_in_bounds : InBounds memory message.Inside (MessageReader.screen.reading w state message) ↔
    MessageReader.screen.Checked memory state message := by
  rw [MessageReader.reading, ipcSvcDisplayScreenReading, in_bounds_checked]
  refine forall_congr' fun base => forall_congr' fun hd => ?_
  by_cases hsize : 1 ≤ message.size
  · by_cases hready : state.fmtClientReady = true
    · have h0 : message.Inside (base + 0) := (inside_iff hd 0).mpr hsize
      have hextract := @outcome_list_entry ipcSvcDisplayScreenEntryFormat memory base message.size 0 hsize
      have hwithin := @screen_entry_within memory message 0
      rw [hd] at hwithin
      rw [if_pos hready, ipcSvcDisplayScreenCountExtractReading, hd, list_count_of_pos hsize, in_bounds_read,
        and_iff_right h0, Int.add_zero]
      by_cases hz : memory base = 0
      · rw [if_pos hz]
        exact iff_of_true (fun _ => in_bounds_nothing) fun _ h => absurd hz h
      · have hpos : (0 : UInt32).toNat < (memory base).toNat := by
          have hne := mt UInt8.toNat_inj.mp hz
          exact Nat.pos_of_ne_zero hne
        rw [if_neg hz, in_bounds_bind, and_iff_right hwithin]
        by_cases hfirst : 1 + 34 ≤ message.size
        · have hfound : (ipcSvcDisplayScreenExtractReading (some base) message.size 0).outcome memory =
              some (some (base + 1)) := hextract.trans (congrArg some (if_pos ⟨hpos, hfirst⟩))
          have hiff := @first_screen_in_bounds memory message base hd hfirst (memory base).toNat
          simp only [hfound, Option.some.injEq, forall_eq', Option.elim_some, hiff]
          have hne : ¬(memory base).toNat * 34 = 0 := by omega
          exact ⟨fun h _ _ _ h1 h2 => (h hsize h1 h2).resolve_left hne, fun h _ h1 h2 => .inr (h hready hz hfirst h1 h2)⟩
        · have hmissing : (ipcSvcDisplayScreenExtractReading (some base) message.size 0).outcome memory = some none :=
            hextract.trans (congrArg some (if_neg fun h => hfirst h.2))
          simp only [hmissing, Option.some.injEq, forall_eq', Option.elim_none]
          exact iff_of_true (fun _ => in_bounds_nothing) fun _ _ h => absurd h hfirst
    · rw [if_neg hready]
      exact iff_of_true (fun _ => in_bounds_nothing) fun h => absurd h hready
  · exact iff_of_true (fun h => absurd h hsize) fun _ _ h => absurd h (by omega)

/-! ### The payloads -/

lemma not_refused {length : ℕ} (h : headerSize ≤ size) (hr : lengthRefused w size headerSize length = false) :
    0 < length ∧ headerSize + length ≤ size := by
  simp only [lengthRefused, if_pos h, Bool.or_eq_false_iff, beq_eq_false_iff_ne, decide_eq_false_iff_not] at hr
  omega

lemma within_read_byte (hd : message.data = some base) {i : ℕ} : (readByte message.data i).Within memory message.Inside ↔
    i < message.size := by
  rw [readByte, hd, within_read_inside hd]
  exact and_iff_left trivial

lemma within_read_int (hd : message.data = some base) {i : ℕ} (h : i + 3 < message.size) :
    (readInt message.data i).Within memory message.Inside := by
  rw [readInt, hd]
  refine (within_read_inside hd _ _).mpr ⟨by omega, (within_read_inside hd _ _).mpr ⟨by omega, ?_⟩⟩
  exact (within_read_inside hd _ _).mpr ⟨by omega, (within_read_inside hd _ _).mpr ⟨by omega, trivial⟩⟩

variable {length : Reading UInt8 ℕ}

lemma within_payload_size (h : length.Within memory block) :
    (payloadSizeReading w size headerSize length).Within memory block :=
  (within_bind _ _).mpr ⟨h, fun _ _ => trivial⟩

lemma within_payload (h : length.Within memory block) :
    (payloadReading w data size headerSize length).Within memory block :=
  (within_bind _ _).mpr ⟨h, fun _ _ => trivial⟩

/-- A handler that asks for the size and then for the payload goes on only with a payload that is in the message. -/
lemma payload_in_bounds (hsize : headerSize ≤ size) (hl : length.Within memory block)
    (f : ℕ → ℤ → Reading UInt8 (List Span))
    (hf : ∀ n, length.outcome memory = some n → 0 < n → headerSize + n ≤ size →
      InBounds memory block (f n (base + headerSize))) :
    InBounds memory block (do
      let payloadSize ← payloadSizeReading w size headerSize length
      if payloadSize = 0 then pure []
      else do
        let payload ← payloadReading w (some base) size headerSize length
        payload.elim (pure []) (f payloadSize)) := by
  obtain ⟨n, hn⟩ := outcome_of_within hl
  rw [in_bounds_bind, payloadSizeReading, payloadReading]
  refine ⟨(within_bind _ _).mpr ⟨hl, fun _ _ => trivial⟩, fun result hr => ?_⟩
  rw [outcome_bind, hn, Option.bind_some, outcome_pure, Option.some.injEq] at hr
  split
  · exact in_bounds_nothing
  · rename_i hne
    rw [in_bounds_bind]
    refine ⟨(within_bind _ _).mpr ⟨hl, fun _ _ => trivial⟩, fun payload hp => ?_⟩
    rw [outcome_bind, hn, Option.bind_some, outcome_pure, Option.some.injEq] at hp
    cases hrefused : lengthRefused w size headerSize n with
    | true =>
      rw [hrefused] at hr
      exact absurd hr.symm hne
    | false =>
      rw [hrefused] at hr hp
      obtain ⟨hpos, hle⟩ := not_refused hsize hrefused
      rw [← hr, ← hp]
      exact hf n hn hpos hle

lemma incoming_msg_in_bounds : InBounds memory message.Inside (MessageReader.incomingMsg.reading w state message) := by
  rw [MessageReader.reading, ipcSmsIncomingMsgReading, in_bounds_checked]
  intro base hd hsize
  rw [ipcSmsIncomingMsgPduSizeExtractReading, ipcSmsIncomingMsgPduExtractReading, hd, checked_some hsize]
  refine payload_in_bounds hsize (hd ▸ (within_read_byte hd).mpr hsize) (fun n pdu => do
    let _ ← data2stringReading (some pdu) n
    let _ ← readFields (pdu - 6) [4, 1]
    return [⟨pdu, n⟩]) fun n _ _ hle => ?_
  have hcell : ∀ k : ℕ, base + (6 : ℕ) + k = base + (6 + k : ℕ) := fun k => by omega
  have hstart : base + (6 : ℕ) - 6 = base + (0 : ℕ) := by omega
  refine (in_bounds_bind _ _).mpr ⟨(within_bind _ _).mpr ⟨(within_read_cells _ _).mpr fun k hk => ?_, fun _ _ => trivial⟩,
    fun _ _ => (in_bounds_bind _ _).mpr ⟨?_, fun _ _ => (in_bounds_pure _).mpr ?_⟩⟩
  · rw [hcell, inside_iff hd]
    omega
  · rw [hstart]
    exact within_read_fields hd 0 (by simp; omega)
  · simp only [List.mem_singleton, forall_eq]
    exact (span_inside hd 6 n).mpr (.inr hle)

lemma svc_center_addr_in_bounds :
    InBounds memory message.Inside (MessageReader.svcCenterAddr.reading w state message) := by
  rw [MessageReader.reading, ipcSmsSvcCenterAddrReading, in_bounds_checked]
  intro base hd hsize
  have hlength : (readByte message.data 0).Within memory message.Inside := (within_read_byte hd).mpr hsize
  split
  · refine (in_bounds_bind _ _).mpr ⟨hlength, fun length _ => ?_⟩
    split
    · exact in_bounds_nothing
    · rw [ipcSmsSvcCenterAddrSmscSizeExtractReading, ipcSmsSvcCenterAddrSmscExtractReading, hd, checked_some hsize,
        checked_some hsize]
      refine payload_in_bounds hsize (hd ▸ hlength) (fun n smsc => pure [⟨smsc, n⟩]) fun n _ _ hle => ?_
      refine (in_bounds_pure _).mpr ?_
      simp only [List.mem_singleton, forall_eq]
      exact (span_inside hd 1 n).mpr (.inr hle)
  · exact in_bounds_nothing

lemma nv_write_item_in_bounds :
    InBounds memory message.Inside (MessageReader.nvWriteItem.reading w state message) := by
  rw [MessageReader.reading, ipcRfsNvWriteItemReading, in_bounds_checked]
  intro base hd hsize
  have hlength : (readInt message.data 4).Within memory message.Inside := within_read_int hd (by omega)
  have hoffset : (readInt message.data 0).Within memory message.Inside := within_read_int hd (by omega)
  split
  · rw [ipcRfsNvWriteItemSizeExtractReading, ipcRfsNvWriteItemExtractReading]
    rw [hd] at hlength hoffset ⊢
    rw [checked_some hsize, checked_some hsize]
    refine payload_in_bounds hsize hlength (fun _ nvData => do
      let length ← readInt (some base) 4
      let _ ← readInt (some base) 0
      return [⟨nvData, length⟩]) fun n hn _ hle => (in_bounds_bind _ _).mpr ⟨hlength, fun length hl => ?_⟩
    obtain rfl := Option.some.inj (hn.symm.trans hl)
    refine (in_bounds_bind _ _).mpr ⟨hoffset, fun _ _ => (in_bounds_pure _).mpr ?_⟩
    simp only [List.mem_singleton, forall_eq]
    exact (span_inside hd 8 n).mpr (.inr hle)
  · exact in_bounds_nothing

/-! ### All readers -/

lemma pdu_size_in_bounds : InBounds memory message.Inside (MessageReader.pduSize.reading w state message) ↔
    MessageReader.pduSize.Checked memory state message := by
  unfold MessageReader.Checked
  rw [MessageReader.reading, in_bounds_unused, ipcSmsIncomingMsgPduSizeExtractReading,
    payloadSizeReading, within_bind]
  refine (and_iff_left fun _ _ => trivial).trans ?_
  cases hd : message.data with
  | none => exact iff_of_false (fun h => h.elim) fun h => h.1 rfl
  | some base =>
    have hiff := @within_read_byte memory message base hd 5
    rw [hd] at hiff
    rw [hiff]
    exact (and_iff_right (Option.some_ne_none base)).symm

/-- A reader stays inside the message, with all that it reads and with all ranges that it copies or hands on, exactly
where the checks that are missing would not fail. -/
theorem message_reader_in_bounds_iff (w : ℕ) (memory : ℤ → UInt8) (state : HandlerState) (message : MessageBlock)
    (reader : MessageReader) :
    InBounds memory message.Inside (reader.reading w state message) ↔ reader.Checked memory state message := by
  cases reader with
  | imsiExtract => exact imsi_extract_in_bounds
  | imsi => exact imsi_in_bounds
  | callListCount => exact iff_of_true ((in_bounds_unused _).mpr (list_count_within _ rfl)) trivial
  | callListEntry index => exact call_list_entry_in_bounds
  | callList => exact call_list_in_bounds
  | screenCount => exact iff_of_true ((in_bounds_unused _).mpr (list_count_within _ rfl)) trivial
  | screenEntry index => exact iff_of_true ((in_bounds_unused _).mpr screen_entry_within) trivial
  | screen => exact screen_in_bounds
  | pduSize => exact pdu_size_in_bounds
  | pdu =>
    refine iff_of_true ((in_bounds_unused _).mpr ((within_checked _).mpr fun base hd hsize => ?_)) trivial
    exact within_payload ((within_read_byte hd).mpr hsize)
  | incomingMsg => exact iff_of_true incoming_msg_in_bounds trivial
  | smscSize =>
    refine iff_of_true ((in_bounds_unused _).mpr ((within_checked _).mpr fun base hd hsize => ?_)) trivial
    exact within_payload_size ((within_read_byte hd).mpr hsize)
  | smsc =>
    refine iff_of_true ((in_bounds_unused _).mpr ((within_checked _).mpr fun base hd hsize => ?_)) trivial
    exact within_payload ((within_read_byte hd).mpr hsize)
  | svcCenterAddr => exact iff_of_true svc_center_addr_in_bounds trivial
  | nvSize =>
    refine iff_of_true ((in_bounds_unused _).mpr ((within_checked _).mpr fun base hd hsize => ?_)) trivial
    exact within_payload_size (within_read_int hd (by omega))
  | nvData =>
    refine iff_of_true ((in_bounds_unused _).mpr ((within_checked _).mpr fun base hd hsize => ?_)) trivial
    exact within_payload (within_read_int hd (by omega))
  | nvWriteItem => exact iff_of_true nv_write_item_in_bounds trivial

/-- A message of one byte whose IMSI is said to have 15 digits: the byte behind it is read. Of 255 screens that are
announced only the first one is there, and the entries are handed on with the size of all of them. -/
theorem message_reader_out_of_bounds :
    ¬InBounds (fun _ => 15) (MessageBlock.Inside ⟨1, .resp, some 0, 1⟩)
      (MessageReader.imsi.reading 32 ⟨true, true, true⟩ ⟨1, .resp, some 0, 1⟩) ∧
    ¬InBounds (fun a => if a = 0 then 255 else 0) (MessageBlock.Inside ⟨1, .noti, some 0, 35⟩)
      (MessageReader.screen.reading 32 ⟨true, true, true⟩ ⟨1, .noti, some 0, 35⟩) := by
  refine ⟨fun h => ?_, fun h => ?_⟩
  · have hchecked := imsi_in_bounds.mp h 0 rfl (by decide) rfl
    exact absurd hchecked (by decide)
  · have hchecked := screen_in_bounds.mp h 0 rfl rfl (by decide) (by decide) rfl rfl
    exact absurd hchecked (by decide)

end

end Ril.Samsung
