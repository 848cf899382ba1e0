import Ril.Libril.CommandFormats

/-! Which blocks are passed on as a whole or not at all. -/

namespace Ril.Libril

open Ril.Ipc Ril.Samsung

variable {L : ParcelLib} (env : RilEnv) (s : ReadState L)

/-! ### The condition -/

section

variable (p : L.Parcel)

/-- The last of the strings is there. -/
def StringsWhole : Prop :=
  ∀ count, (L.readInt32 p).1 = some count → count = 0 ∨ count = -1 ∨
    0 ≤ count.toInt ∧ L.LastRead (L.readInt32 p).2 (List.replicate count.toInt.toNat .string)

/-- The last of the ints is there. -/
def IntsWhole : Prop :=
  ∀ count, (L.readInt32 p).1 = some count → count = 0 ∨
    0 < count.toInt ∧ L.LastRead (L.readInt32 p).2 (List.replicate count.toInt.toNat .int32)

/-- The seams and the end of the records are there, and their flags are bytes. -/
def RecordsWhole (f : DispatchFunction) (fields : List Field) : Prop :=
  ∀ count, (L.readInt32 p).1 = some count → 0 ≤ count.toInt ∧
    L.SeamsRead (L.readInt32 p).2 (List.replicate count.toInt.toNat (fields.map Field.kind)).flatten ∧
    L.LastRead (L.readInt32 p).2 (List.replicate count.toInt.toNat (fields.map Field.kind)).flatten ∧
    (env.arraysFit f count = true → FlagsWhole (L.readInt32 p).2 (List.replicate count.toInt.toNat fields).flatten)

/-- The length of an array is -1, or it is not negative and the bytes are there. -/
def BytesWhole (len : Int32) : Prop := len = -1 ∨ 0 ≤ len.toInt ∧ (L.readInplace len.toInt.toNat p).1.isSome = true

/-- From version 3 on the bytes of the user-to-user information are there. -/
def DialWhole : Prop :=
  L.Has p .string → L.Has (L.after p [.string]) .int32 → 3 ≤ env.version →
    ∀ uusPresent, (L.readInt32 (L.after p [.string, .int32])).1 = some uusPresent → uusPresent ≠ 0 →
      ∀ len, (L.readInt32 (L.after p [.string, .int32, .int32, .int32, .int32])).1 = some len →
        BytesWhole (L.after p [.string, .int32, .int32, .int32, .int32, .int32]) len

/-- The strings that a RIL before version 4 gets are there, and none of them is `NULL`. -/
def DataCallWhole : Prop :=
  if env.version < 4 ∧ numParamsRilV3 < ((L.readInt32 p).1.getD 0).toInt then
    env.arraysFit .dispatchDataCall (Int32.ofNat numParamsRilV3) = true →
      ∀ t ∈ L.strings (L.readInt32 p).2 numParamsRilV3, t.isSome = true
  else StringsWhole p

end

/-- The counts of a CDMA message fit, and its seams are there. -/
def CdmaSmsWhole : Prop :=
  CdmaSmsChecked L s.parcel s.t s.ut →
    (cdmaSmsBlock s).Fits ∧ L.SeamsRead s.parcel ((cdmaSmsBlock s).fields.map Field.kind)

def ImsSmsWhole : Prop :=
  ∀ format retry messageRef p, imsMessage s.parcel = some (format, retry, messageRef, p) →
    (format = radioTech3gpp → StringsWhole p) ∧ (format = radioTech3gpp2 → CdmaSmsWhole { s with parcel := p })

/-- Where the last number of a block is there, so are its strings and the numbers that come before a read of another
kind. -/
def isWhole : DispatchFunction → Prop
  | .dispatchVoid | .dispatchVoiceRadioTech | .dispatchCdmaSubscriptionSource | .dispatchCdmaSmsAck | .dispatchNVReadItem
  | .dispatchNVWriteItem | .dispatchUiccSubscripton => True
  | .dispatchString => L.Reads s.parcel .string
  | .dispatchStrings => StringsWhole s.parcel
  | .dispatchInts => IntsWhole s.parcel
  | .dispatchSmsWrite => L.Has s.parcel .int32 → L.Has (L.after s.parcel [.int32]) .string →
      L.Reads (L.after s.parcel [.int32, .string]) .string
  | .dispatchDial => DialWhole env s.parcel
  | .dispatchSimIo => L.Has (L.after s.parcel [.int32, .int32, .string, .int32, .int32]) .int32 →
      L.SeamsRead s.parcel [.int32, .int32, .string, .int32, .int32, .int32, .string, .string, .string]
  | .dispatchSimApdu => L.Has (L.after s.parcel (List.replicate 5 .int32)) .int32 →
      L.SeamsRead s.parcel (List.replicate 6 .int32 ++ [.string])
  | .dispatchCallForward => L.Has (L.after s.parcel [.int32, .int32, .int32, .int32, .string]) .int32 →
      L.SeamsRead s.parcel [.int32, .int32, .int32, .int32, .string, .int32]
  | .dispatchRaw => ∀ len, (L.readInt32 s.parcel).1 = some len → BytesWhole (L.readInt32 s.parcel).2 len
  | .dispatchCdmaSms => CdmaSmsWhole s
  | .dispatchImsSms => ImsSmsWhole s
  | .dispatchGsmBrSmsCnf => RecordsWhole env s.parcel .dispatchGsmBrSmsCnf gsmBroadcastSmsConfigInfo
  | .dispatchCdmaBrSmsCnf => RecordsWhole env s.parcel .dispatchCdmaBrSmsCnf cdmaBroadcastSmsConfigInfo
  | .dispatchRilCdmaSmsWriteArgs => L.Has (L.after s.parcel (cdmaSmsWriteArgs.dropLast.map Field.kind)) .byte →
      L.SeamsRead s.parcel (cdmaSmsWriteArgs.map Field.kind)
  | .dispatchDataCall => DataCallWhole env s.parcel
  | .dispatchSetInitialAttachApn => L.Has (L.after s.parcel [.string, .string]) .int32 →
      L.SeamsRead s.parcel [.string, .string, .int32, .string, .string]
  | .dispatchSimAuthentication => L.Has s.parcel .int32 → L.SeamsRead s.parcel [.int32, .string, .string]
  | .dispatchDataProfile => RecordsWhole env s.parcel .dispatchDataProfile dataProfileInfo

variable {env} {s} {n : ℤ} {P : RequestData → Prop} {data : RequestData} {fs : List Field}

/-! ### What is passed on -/

/-- Whatever is passed on has the property. -/
def Passes (P : RequestData → Prop) (es : List Effect) : Prop := ∀ n data, .onRequest n data ∈ es → P data

lemma passes_call : Passes P (callOnRequest n data) ↔ P data := by simp [Passes, callOnRequest]

lemma passes_invalid : Passes P invalidCommandBlock := by simp [Passes, invalidCommandBlock]

lemma passes_undefined : Passes P [.undefined] := by simp [Passes]

lemma passes_if (c : Prop) [Decidable c] :
    Passes P (if c then callOnRequest n data else invalidCommandBlock) ↔ (c → P data) := by
  split
  next h => exact passes_call.trans (imp_iff_right h).symm
  next h => exact iff_of_true passes_invalid fun hc => absurd hc h

lemma passes_unless (c : Prop) [Decidable c] {es : List Effect} :
    Passes P (if c then invalidCommandBlock else es) ↔ (¬c → Passes P es) := by
  split
  next h => exact iff_of_true passes_invalid fun hc => absurd h hc
  next h => exact (imp_iff_right h).symm

lemma all_or_nothing_iff {f : DispatchFunction} {es : List Effect} :
    AllOrNothing env s f es ↔ Passes (fun data => InFormat env s data f) es ∧
      ∀ a, stackArray env s.parcel f = some a → a.Held :=
  ⟨fun h => ⟨h.passed, h.stored⟩, fun h => ⟨h.1, h.2⟩⟩

/-- Without an array on the stack -/
lemma all_or_nothing_passed {f : DispatchFunction} {es : List Effect} (hf : stackArray env s.parcel f = none) :
    AllOrNothing env s f es ↔ Passes (fun data => InFormat env s data f) es := by
  rw [all_or_nothing_iff, hf]
  exact and_iff_left nofun

lemma fields_format_self : FieldsFormat s fs (.parameters (s.fields fs).1) ↔ L.ReadsAll s.parcel (fs.map Field.kind) :=
  and_iff_left rfl

lemma fields_passed (hL : L.Lawful) (fs : List Field) {f : Field} (hf : f.kind ≠ .string) (names : List Parameter) :
    Passes (FieldsFormat s (fs ++ f :: names.map Field.string))
        (dispatchFields n (fs ++ f :: names.map Field.string) s) ↔
      (L.Has (L.after s.parcel (fs.map Field.kind)) f.kind →
        L.SeamsRead s.parcel ((fs ++ f :: names.map Field.string).map Field.kind)) := by
  have hkinds : (fs ++ f :: names.map Field.string).map Field.kind =
      fs.map Field.kind ++ f.kind :: List.replicate names.length .string := by
    simp [Function.comp_def, Field.kind]
  rw [dispatchFields, passes_if, fields_format_self, ReadState.fields_status s fs hf, ← ParcelLib.reads_iff_has hf, hkinds]
  exact ParcelLib.block_read_iff hL _

lemma passes_counted {es : List Effect} :
    Passes P (if !s.readInt32.status then invalidCommandBlock else es) ↔
      ∀ v, (L.readInt32 s.parcel).1 = some v → Passes P es := by
  rw [passes_unless, Bool.not_eq_true', Bool.not_eq_false, read_int32_status, forall_exists_index]

/-! ### Strings -/

lemma seams_replicate {p : L.Parcel} {k : ReadKind} {m : ℕ} (h : L.LastRead p (List.replicate m k)) :
    L.SeamsRead p (List.replicate m k) := by
  induction m generalizing p with
  | zero => trivial
  | succ m ih =>
    cases m with
    | zero => exact fun _ => by simpa [ParcelLib.LastRead, ParcelLib.after] using h
    | succ m =>
      refine ⟨fun hne => absurd rfl hne, ih ?_⟩
      rw [List.replicate_succ, List.replicate_succ, ParcelLib.LastRead, List.getLast?_cons_cons] at h
      exact h

/-- Reads of one kind go well if the last one does. -/
lemma reads_all_replicate (hL : L.Lawful) {p : L.Parcel} {k : ReadKind} {m : ℕ} :
    L.ReadsAll p (List.replicate m k) ↔ L.LastRead p (List.replicate m k) := by
  rw [ParcelLib.reads_all_iff hL]
  exact and_iff_right_of_imp seams_replicate

lemma replicate_singleton_flatten {α : Type} (a : α) (m : ℕ) : (List.replicate m [a]).flatten = List.replicate m a := by
  induction m with
  | zero => rfl
  | succ m ih => rw [List.replicate_succ, List.flatten_cons, ih]; rfl

lemma strings_whole_iff (hL : L.Lawful) {p : L.Parcel} :
    StringsWhole p ↔ ∀ a, stringsArray p = some a → a.Held := by
  rw [StringsWhole, stringsArray]
  cases hc : (L.readInt32 p).1 with
  | none => exact iff_of_true nofun nofun
  | some count =>
    by_cases h0 : count = 0 ∨ count = -1
    · simp [h0, or_assoc.symm]
    · simp only [Option.bind_some, h0, if_false, Option.some.injEq, forall_eq', ← or_assoc, false_or]
      rw [StackArray.Held, StackArray.reads, replicate_singleton_flatten, reads_all_replicate hL]

lemma counted_strings_format (hL : L.Lawful) (hw : StringsWhole s.parcel) {count : Int32}
    (hc : (L.readInt32 s.parcel).1 = some count) (pass : Option Parameters → RequestData) :
    StringsFormat s pass (pass (countedStrings s.readInt32)) := by
  have ht : s.readInt32.t = count := (read_int32_of_some hc).2
  refine ⟨count, hc, ?_⟩
  rw [countedStrings, ht]
  by_cases h1 : count = -1
  · exact .inl ⟨h1, by rw [if_pos h1]⟩
  · rw [if_neg h1]
    refine .inr ?_
    rcases hw count hc with rfl | h | ⟨hpos, hlast⟩
    · exact ⟨by decide, trivial, rfl⟩
    · exact absurd h h1
    · exact ⟨hpos, (reads_all_replicate hL).mpr hlast, rfl⟩

lemma strings_passed (hL : L.Lawful) (hw : StringsWhole s.parcel) (f : DispatchFunction) :
    Passes (StringsFormat s fun ss => ss.elim .null .parameters) (dispatchStrings env n f s) := by
  refine passes_counted.mpr fun count hc => ?_
  split
  next => exact passes_undefined
  next =>
    have hformat := counted_strings_format hL hw hc fun ss => ss.elim .null .parameters
    rw [passes_call]
    cases hss : countedStrings s.readInt32 with
    | none =>
      rw [hss] at hformat
      exact hformat
    | some ss =>
      rw [hss] at hformat
      exact hformat

lemma ims_strings_passed (hL : L.Lawful) (hw : StringsWhole s.parcel) (retry : UInt8) (messageRef : ℕ) :
    Passes (StringsFormat s (.imsSms radioTech3gpp.toInt retry messageRef)) (dispatchImsGsmSms env n s retry messageRef) := by
  refine passes_counted.mpr fun count hc => ?_
  split
  next => exact passes_undefined
  next => exact passes_call.mpr (counted_strings_format hL hw hc _)

/-! ### Ints and records -/

lemma ints_whole_iff (hL : L.Lawful) {p : L.Parcel} : IntsWhole p ↔ ∀ a, intsArray p = some a → a.Held := by
  rw [IntsWhole, intsArray]
  cases hc : (L.readInt32 p).1 with
  | none => exact iff_of_true nofun nofun
  | some count =>
    by_cases h0 : count = 0
    · simp [h0]
    · have hne : count.toInt ≠ 0 := fun h => h0 (Int32.toInt_inj.mp h)
      simp only [Option.bind_some, h0, if_false, Option.some.injEq, forall_eq', false_or]
      rw [StackArray.Held, StackArray.reads, replicate_singleton_flatten, reads_all_replicate hL]
      exact and_congr_left fun _ => by dsimp only; omega

lemma checked_ints_fields {names : List Parameter} {is : Parameters} (h : s.checkedInts names = some is) :
    FieldsFormat s (names.map Field.int32) (.parameters is) := by
  induction names generalizing s is with
  | nil => exact ⟨trivial, by rw [← Option.some.inj h]; rfl⟩
  | cons name names ih =>
    rw [ReadState.checkedInts] at h
    split at h
    next hs =>
      obtain ⟨is', his, rfl⟩ := Option.map_eq_some_iff.mp h
      obtain ⟨hall, heq⟩ := ih his
      exact ⟨⟨hs, hall⟩, by rw [RequestData.parameters.inj heq]; rfl⟩
    next => cases h

lemma ints_passed (hw : IntsWhole s.parcel) : Passes (IntsFormat s) (dispatchInts env n s) := by
  rw [dispatchInts]
  split
  next => exact passes_invalid
  next hs =>
    simp only [Bool.or_eq_true, Bool.not_eq_true', decide_eq_true_eq, not_or, Bool.not_eq_false] at hs
    obtain ⟨count, hc⟩ := (read_int32_status s).mp hs.1
    have ht : s.readInt32.t = count := (read_int32_of_some hc).2
    split
    next => exact passes_undefined
    next =>
      cases his : s.readInt32.checkedInts (List.replicate s.readInt32.t.toInt.toNat .pInts) with
      | none => exact passes_invalid
      | some is =>
        have hformat := checked_ints_fields his
        rw [ht, List.map_replicate] at hformat
        exact passes_call.mpr ⟨count, hc, ((hw count hc).resolve_left (ht ▸ hs.2)).1, hformat⟩

lemma uicc_passed : Passes (FieldsFormat s [.int32 .slot, .int32 .appIndex, .int32 .subType, .int32 .actStatus])
    (dispatchUiccSubscripton n s) := by
  rw [dispatchUiccSubscripton]
  cases hu : s.checkedInts [.slot, .appIndex, .subType, .actStatus] with
  | none => exact passes_invalid
  | some uiccSub => exact passes_call.mpr (checked_ints_fields hu)

lemma records_passed (hL : L.Lawful) {f : DispatchFunction} (hw : RecordsWhole env s.parcel f fs) :
    Passes (RecordsFormat s fs) (dispatchRecords env n f fs s) := by
  refine passes_counted.mpr fun count hc => ?_
  have ht : s.readInt32.t = count := (read_int32_of_some hc).2
  obtain ⟨hpos, hseams, hlast, hflags⟩ := hw count hc
  rw [ht]
  split
  next => exact passes_undefined
  next hfit =>
    refine (passes_if _).mpr fun _ => ⟨count, hc, hpos, ?_, hflags (by simpa using hfit), rfl⟩
    exact (ParcelLib.reads_all_iff hL).mpr ⟨hseams, hlast⟩

/-- Reads that go well leave a status of success. -/
lemma fields_status_of_reads {s : ReadState L} (hs : s.status = true) (h : L.ReadsAll s.parcel (fs.map Field.kind)) :
    (s.fields fs).2.status = true := by
  induction fs generalizing s with
  | nil => exact hs
  | cons f fs ih =>
    have hf : (s.field f).2.status = true := by
      cases f with
      | int32 name => exact h.1
      | flag name => exact h.1
      | byte name => exact h.1
      | string name => exact hs
    exact ih hf (s.field_parcel f ▸ h.2)

lemma records_status_of_reads {s : ReadState L} (hs : s.status = true) {m : ℕ}
    (h : L.ReadsAll s.parcel (List.replicate m (fs.map Field.kind)).flatten) : (s.records fs m).2.status = true := by
  induction m generalizing s with
  | zero => exact hs
  | succ m ih =>
    rw [List.replicate_succ, List.flatten_cons, ParcelLib.reads_all_append, ← ReadState.fields_parcel] at h
    exact ih (fields_status_of_reads hs h.1) h.2

/-- A RIL is passed records exactly as they were read. -/
lemma records_all_or_nothing (hL : L.Lawful) {f : DispatchFunction}
    (harray : stackArray env s.parcel f = recordsArray s.parcel fs)
    (hformat : ∀ data, InFormat env s data f ↔ RecordsFormat s fs data) :
    AllOrNothing env s f (dispatchRecords env n f fs s) ↔ RecordsWhole env s.parcel f fs := by
  rw [all_or_nothing_iff, harray]
  simp only [hformat]
  constructor
  · rintro ⟨hpassed, hstored⟩ count hc
    obtain ⟨hpos, hreads⟩ := hstored ⟨count, (L.readInt32 s.parcel).2, fs.map Field.kind⟩ (by rw [recordsArray, hc]; rfl)
    obtain ⟨hseams, hlast⟩ := (ParcelLib.reads_all_iff hL).mp hreads
    refine ⟨hpos, hseams, hlast, fun hfit => ?_⟩
    obtain ⟨hs, ht⟩ := read_int32_of_some hc
    -- all records are there, so they are passed on
    have hstatus : (s.readInt32.records fs count.toInt.toNat).2.status = true := records_status_of_reads hs hreads
    have hcall : dispatchRecords env n f fs s = callOnRequest n (.records (s.readInt32.records fs count.toInt.toNat).1) := by
      simp only [dispatchRecords, hs, ht, hfit, Bool.not_true, Bool.false_eq_true, if_false]
      exact if_pos hstatus
    rw [hcall, passes_call] at hpassed
    obtain ⟨count', hc', -, -, hflags, -⟩ := hpassed
    obtain rfl : count = count' := Option.some.inj (hc.symm.trans hc')
    exact hflags
  · refine fun hw => ⟨records_passed hL hw, fun a ha => ?_⟩
    obtain ⟨count, hc, rfl⟩ := Option.map_eq_some_iff.mp ha
    obtain ⟨hpos, hseams, hlast, -⟩ := hw count hc
    exact ⟨hpos, (ParcelLib.reads_all_iff hL).mpr ⟨hseams, hlast⟩⟩

/-! ### Numbers and strings -/

lemma required_passed (name name' name'' : Parameter) :
    Passes (FieldsFormat s [.int32 name, .string name', .string name''])
        (if !(s.fields [.int32 name, .string name']).2.status || nullString (s.fields [.int32 name, .string name']).1 then
          invalidCommandBlock
        else callOnRequest n (.parameters (s.fields [.int32 name, .string name', .string name'']).1)) ↔
      (L.Has s.parcel .int32 → L.Has (L.after s.parcel [.int32]) .string →
        L.Reads (L.after s.parcel [.int32, .string]) .string) := by
  rw [passes_unless, required_iff, passes_call, fields_format_self, and_imp]
  refine forall_congr' fun hint => forall_congr' fun hstring => ?_
  exact ⟨fun h => h.2.2.1, fun h => ⟨hint, .inl hstring, h, trivial⟩⟩

lemma required_pair_passed (name name' : Parameter) :
    Passes (FieldsFormat s [.int32 name, .string name'])
      (if !(s.fields [.int32 name, .string name']).2.status || nullString (s.fields [.int32 name, .string name']).1 then
        invalidCommandBlock
      else callOnRequest n (.parameters (s.fields [.int32 name, .string name']).1)) := by
  rw [passes_unless, required_iff, passes_call, fields_format_self]
  exact fun h => ⟨h.1, .inl h.2, trivial⟩

lemma call_forward_passed (hL : L.Lawful) :
    Passes (fun data => InFormat env s data .dispatchCallForward) (dispatchCallForward n s) ↔
      isWhole env s .dispatchCallForward := by
  have hblock := fields_passed (n := n) (s := s) hL
    [.int32 .status, .int32 .reason, .int32 .serviceClass, .int32 .toa, .string .number] (f := .int32 .timeSeconds)
    (by decide) []
  rw [dispatchFields, passes_if, fields_format_self] at hblock
  refine Iff.trans ?_ hblock
  rw [dispatchCallForward, passes_unless, Bool.not_eq_true', Bool.not_eq_false, passes_call]
  refine forall_congr' fun hs => ⟨?_, fun h => ⟨_, rfl, h, rfl⟩⟩
  rintro ⟨ps, -, h, -⟩
  exact h

/-! ### Bytes -/

lemma size_of_nonneg {len : Int32} (h : 0 ≤ len.toInt) : len.toUInt32.toNat = len.toInt.toNat := by
  have hsize : len.toUInt32.toNat = len.toBitVec.toNat := rfl
  have hlen : len.toInt = len.toBitVec.toInt := rfl
  rw [hlen, BitVec.toInt_eq_toNat_cond] at h ⊢
  omega

lemma raw_passed (hL : L.Lawful) : Passes (RawFormat s) (dispatchRaw n s) ↔ isWhole env s .dispatchRaw := by
  rw [dispatchRaw, passes_counted, isWhole]
  refine forall₂_congr fun len hlen => ?_
  rw [passes_call, (read_int32_of_some hlen).2]
  have hparcel : s.readInt32.parcel = (L.readInt32 s.parcel).2 := rfl
  rw [hparcel, RawFormat, BytesWhole]
  simp only [hlen, Option.some.injEq, exists_eq_left']
  by_cases h1 : len = -1
  · rw [if_pos h1]
    refine iff_of_true (.inl ⟨h1, ?_⟩) (.inl h1)
    cases hbytes : (L.readInplace 0 (L.readInt32 s.parcel).2).1 with
    | none => exact .inl rfl
    | some bytes => exact .inr (by rw [List.length_eq_zero_iff.mp (hL.inplace_length _ _ _ hbytes)])
  · simp only [h1, if_false, false_and, false_or]
    refine and_congr_right fun hpos => ?_
    rw [size_of_nonneg hpos]
    cases (L.readInplace len.toInt.toNat (L.readInt32 s.parcel).2).1 with
    | none => exact iff_of_false (by simp) (by simp)
    | some bytes => exact iff_of_true ⟨bytes, rfl, rfl⟩ rfl

/-- The user-to-user information of a length that was read -/
lemma uus_format_iff (hL : L.Lawful) {uusInfo : Parameters × Option Bytes} (h : readUusInfo s = some uusInfo) :
    UusFormat s uusInfo ↔ ∀ len, (L.readInt32 (L.after s.parcel [.int32, .int32])).1 = some len →
      BytesWhole (L.after s.parcel [.int32, .int32, .int32]) len := by
  have hhas : L.Has (L.after s.parcel [.int32, .int32]) .int32 := (uus_info_isSome s).mp (by rw [h]; rfl)
  obtain ⟨len, hlen⟩ := Option.isSome_iff_exists.mp hhas
  obtain ⟨hs, ht⟩ := read_int32_of_some (s := s.readInt32.readInt32) hlen
  have hreads : L.ReadsAll s.parcel [.int32, .int32, .int32] := by
    refine (reads_all_replicate hL (m := 3)).mpr fun k hk => ?_
    obtain rfl : ReadKind.int32 = k := Option.some.inj hk
    exact hhas
  have hparcel : L.after s.parcel [.int32, .int32, .int32] =
    (s.fields [.int32 .uusType, .int32 .uusDcs, .int32 .uusLength]).2.parcel := rfl
  have hstatus : (s.fields [.int32 .uusType, .int32 .uusDcs, .int32 .uusLength]).2.status = true := hs
  have hlength : (s.fields [.int32 .uusType, .int32 .uusDcs, .int32 .uusLength]).2.t = len := ht
  rw [hlen, hparcel, UusFormat, and_iff_right hreads]
  rw [readUusInfo] at h
  generalize s.fields [.int32 .uusType, .int32 .uusDcs, .int32 .uusLength] = info at h hstatus hlength ⊢
  simp only [hstatus, hlength, Bool.not_true, Bool.false_eq_true, if_false, Option.some.injEq, forall_eq'] at h ⊢
  rw [BytesWhole]
  by_cases h1 : len = -1
  · rw [if_pos h1] at h
    exact iff_of_true (.inl ⟨h1, (Option.some.inj h).symm⟩) (.inl h1)
  · rw [if_neg h1] at h
    obtain rfl := Option.some.inj h
    simp only [h1, false_and, false_or]
    refine and_congr_right fun hpos => ?_
    rw [size_of_nonneg hpos]
    cases (L.readInplace len.toInt.toNat info.2.parcel).1 with
    | none => exact iff_of_false (by simp) (by simp)
    | some bytes => exact iff_of_true ⟨bytes, rfl, rfl⟩ rfl

lemma dial_passed (hL : L.Lawful) : Passes (DialFormat env s) (dispatchDial env n s) ↔ DialWhole env s.parcel := by
  rw [dispatchDial, passes_unless, dial_iff, DialWhole, and_imp]
  refine forall₂_congr fun hs hi => ?_
  have hreads : L.ReadsAll s.parcel [.string, .int32] := ⟨.inl hs, hi, trivial⟩
  by_cases hv : env.version < 3
  · rw [if_pos hv, passes_call]
    exact iff_of_true ⟨hreads, .inl ⟨hv, rfl⟩⟩ fun h3 => absurd hv (not_lt.mpr h3)
  rw [if_neg hv, passes_counted, imp_iff_right (not_lt.mp hv)]
  refine forall₂_congr fun uusPresent hu => ?_
  rw [(read_int32_of_some hu).2]
  by_cases h0 : uusPresent = 0
  · rw [if_pos h0, passes_call]
    exact iff_of_true ⟨hreads, .inr ⟨not_lt.mp hv, uusPresent, hu, .inl ⟨h0, rfl⟩⟩⟩ fun h => absurd h0 h
  rw [if_neg h0, imp_iff_right h0]
  cases hr : readUusInfo (s.fields [.string .address, .int32 .clir]).2.readInt32 with
  | none =>
    refine iff_of_true passes_invalid fun len hlen => ?_
    have hhas : (readUusInfo (s.fields [.string .address, .int32 .clir]).2.readInt32).isSome = true :=
      (uus_info_isSome _).mpr (Option.isSome_iff_exists.mpr ⟨len, hlen⟩)
    rw [hr] at hhas
    cases hhas
  | some uusInfo =>
    refine passes_call.trans (Iff.trans ⟨?_, fun h => ?_⟩ (uus_format_iff hL hr))
    · rintro ⟨-, ⟨h3, -⟩ | ⟨-, uusPresent', hu', ⟨h0', -⟩ | ⟨-, info, hformat, hdata⟩⟩⟩
      · exact absurd h3 hv
      · exact absurd (Option.some.inj (hu.symm.trans hu') ▸ h0') h0
      · obtain rfl : uusInfo = info := Option.some.inj (RequestData.dial.inj hdata).2
        exact hformat
    · exact ⟨hreads, .inr ⟨not_lt.mp hv, uusPresent, hu, .inr ⟨h0, uusInfo, h, rfl⟩⟩⟩

end Ril.Libril
