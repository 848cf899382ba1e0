import Ril.Libril.RequestComplete

/-! Which commands are passed on, or answered, exactly once. -/

namespace Ril.Libril

open Ril.Ipc Ril.Samsung

/-- One call of `onRequest`, or one answer -/
def Once (es : List Effect) : Prop :=
  (∃ n data, es = [.onRequest n data]) ∨ ∃ e response, es = [.onRequestComplete e response]

/-- Every request was passed on once or answered once, and one that is pending was passed on. -/
def Conserved (d : Requests) : Prop :=
  (∀ request < d.allocated, Once (d.effectsOf request)) ∧
    ∀ s, ∀ r ∈ d.pending s, ∃ n data, d.effectsOf r.1 = [.onRequest n data]

section

variable (env : RilEnv) (L : ParcelLib) (p : L.Parcel)

/-- There is a count of strings, which may be -1 for `NULL`, and the array of them fits. -/
def StringsChecked (f : DispatchFunction) : Prop :=
  ∃ count, (L.readInt32 p).1 = some count ∧ (count = 0 ∨ count = -1 ∨ env.arraysFit f count = true)

/-- There is a count of ints that is not 0, and there are all of them. -/
def IntsChecked : Prop :=
  ∃ count, (L.readInt32 p).1 = some count ∧ count ≠ 0 ∧ env.arraysFit .dispatchInts count = true ∧
    ∀ i < count.toInt.toNat, L.Has (L.after p (.int32 :: List.replicate i .int32)) .int32

/-- There is a count of records, and the last field of the last one. -/
def RecordsChecked (f : DispatchFunction) (init : List ReadKind) : Prop :=
  ∃ count, (L.readInt32 p).1 = some count ∧ env.arraysFit f count = true ∧
    (count = 0 ∨ L.Has (L.after (L.after p
      (.int32 :: (List.replicate (count.toInt.toNat - 1) (init ++ [.int32])).flatten)) init) .int32)

/-- There are an address and a mode, and from version 3 on the length of user-to-user information, if there is some. -/
def DialChecked : Prop :=
  L.Has p .string ∧ L.Has (L.after p [.string]) .int32 ∧
    (env.version < 3 ∨ ∃ uusPresent, (L.readInt32 (L.after p [.string, .int32])).1 = some uusPresent ∧
      (uusPresent = 0 ∨ L.Has (L.after p [.string, .int32, .int32, .int32, .int32]) .int32))

/-- The last byte of bearer data is there, or its length if there is none. -/
def CdmaSmsChecked (t : Int32) (ut : UInt8) : Prop :=
  let addresses := (readCdmaAddresses (⟨p, true, t, ut⟩ : ReadState L)).2
  let n := bearerDataBytes ((L.readInt32 addresses.parcel).1.getD addresses.t)
  if n = 0 then L.Has addresses.parcel .int32
  else L.Has (L.after addresses.parcel (.int32 :: List.replicate (n - 1) .byte)) .byte

/-- There are a known format, a byte and the message reference, and the message of the format. -/
def ImsSmsChecked (t : Int32) (ut : UInt8) : Prop :=
  ∃ format, (L.readInt32 p).1 = some format ∧ L.Has (L.after p [.int32]) .byte ∧
    (L.read 4 (L.after p [.int32, .byte])).1.isSome = true ∧
    let message := (L.read 4 (L.after p [.int32, .byte])).2
    (format = radioTech3gpp ∧ StringsChecked env L message .dispatchImsSms ∨
      format = radioTech3gpp2 ∧ CdmaSmsChecked L message t ut)

/-- The parameters of the block that its dispatch function tests are there. -/
def BlockChecked (c : Command) : DispatchFunction → Prop
  | .dispatchVoid => True
  | .dispatchString => True
  | .dispatchStrings => StringsChecked env L p .dispatchStrings
  | .dispatchInts => IntsChecked env L p
  | .dispatchSmsWrite => L.Has p .int32 ∧ L.Has (L.after p [.int32]) .string
  | .dispatchDial => DialChecked env L p
  | .dispatchSimIo => L.Has (L.after p [.int32, .int32, .string, .int32, .int32]) .int32
  | .dispatchSimApdu => L.Has (L.after p (List.replicate 5 .int32)) .int32
  | .dispatchCallForward => L.Has (L.after p [.int32, .int32, .int32, .int32, .string]) .int32
  | .dispatchRaw => L.Has p .int32
  | .dispatchCdmaSms => CdmaSmsChecked L p c.t c.ut
  | .dispatchImsSms => ImsSmsChecked env L p c.t c.ut
  | .dispatchCdmaSmsAck => L.Has (L.after p [.int32]) .int32
  | .dispatchGsmBrSmsCnf => RecordsChecked env L p .dispatchGsmBrSmsCnf (List.replicate 4 .int32)
  | .dispatchCdmaBrSmsCnf => RecordsChecked env L p .dispatchCdmaBrSmsCnf (List.replicate 2 .int32)
  | .dispatchRilCdmaSmsWriteArgs => L.Has (L.after p (cdmaSmsWriteArgs.dropLast.map Field.kind)) .byte
  | .dispatchDataCall => StringsChecked env L (dataCallParcel env p) .dispatchDataCall
  | .dispatchVoiceRadioTech => c.radioState ≠ .unavailable ∧ c.radioState ≠ .off
  | .dispatchCdmaSubscriptionSource => c.radioState ≠ .unavailable ∧ c.radioState ≠ .off
  | .dispatchSetInitialAttachApn => L.Has (L.after p [.string, .string]) .int32
  | .dispatchNVReadItem => L.Has p .int32
  | .dispatchNVWriteItem => L.Has p .int32 ∧ L.Has (L.after p [.int32]) .string
  | .dispatchUiccSubscripton => ∀ i < 4, L.Has (L.after p (List.replicate i .int32)) .int32
  | .dispatchSimAuthentication => L.Has p .int32
  | .dispatchDataProfile => RecordsChecked env L p .dispatchDataProfile (dataProfileInfo.dropLast.map Field.kind)

end

/-- A command that is put on a list has an entry in the table, and its parameters pass the tests. -/
def ChecksPass (env : RilEnv) (L : ParcelLib) : RequestsAction → Prop
  | .command c => ∀ r p, newRequestInfo L c.request c.buffer c.socketId = some (r, p) →
      ∃ entry f, sCommands[r.pCI]? = some entry ∧ entry.dispatchFunction = some f ∧ BlockChecked env L p c f
  | .issueLocal _ _ _ => True
  | .rilComplete _ => True

variable {L : ParcelLib} {env : RilEnv} {n : ℤ}

lemma once_call (data : RequestData) : Once (callOnRequest n data) := .inl ⟨n, data, rfl⟩

lemma not_once_invalid : ¬Once invalidCommandBlock := by
  rintro (⟨n, data, h⟩ | ⟨e, response, h⟩)
  · cases h
  · cases h

lemma not_once_undefined : ¬Once [.undefined] := by
  rintro (⟨n, data, h⟩ | ⟨e, response, h⟩)
  · cases h
  · cases h

lemma once_if (c : Prop) [Decidable c] (data : RequestData) :
    Once (if c then callOnRequest n data else invalidCommandBlock) ↔ c := by
  split
  · rename_i h
    exact iff_of_true (once_call data) h
  · rename_i h
    exact iff_of_false not_once_invalid h

lemma once_if_not (c : Prop) [Decidable c] (data : RequestData) :
    Once (if c then invalidCommandBlock else callOnRequest n data) ↔ ¬c := by
  split
  · rename_i h
    exact iff_of_false not_once_invalid (not_not_intro h)
  · rename_i h
    exact iff_of_true (once_call data) h

lemma fields_once (s : ReadState L) (fs : List Field) {f : Field} (hf : f.kind ≠ .string) (names : List Parameter) :
    Once (dispatchFields n (fs ++ f :: names.map Field.string) s) ↔
      L.Has (L.after s.parcel (fs.map Field.kind)) f.kind := by
  rw [dispatchFields, once_if, ReadState.fields_status s fs hf names]

lemma read_int32_status (s : ReadState L) : s.readInt32.status = true ↔ ∃ v, (L.readInt32 s.parcel).1 = some v :=
  Option.isSome_iff_exists

lemma read_int32_of_some {s : ReadState L} {v : Int32} (h : (L.readInt32 s.parcel).1 = some v) :
    s.readInt32.status = true ∧ s.readInt32.t = v := by
  refine ⟨(read_int32_status s).mpr ⟨v, h⟩, ?_⟩
  rw [ReadState.readInt32]
  dsimp only
  rw [h]
  rfl

/-- After a count the block is decided by the value that was read. -/
lemma counted {s : ReadState L} {es : List Effect} {Q : Int32 → Prop}
    (h : ∀ v, (L.readInt32 s.parcel).1 = some v → (Once es ↔ Q v)) :
    Once (if !s.readInt32.status then invalidCommandBlock else es) ↔
      ∃ v, (L.readInt32 s.parcel).1 = some v ∧ Q v := by
  cases hv : (L.readInt32 s.parcel).1 with
  | none =>
    have hs : s.readInt32.status = false := by
      rw [ReadState.readInt32]
      dsimp only
      rw [hv]
      rfl
    rw [hs]
    refine iff_of_false not_once_invalid ?_
    rintro ⟨v, h, -⟩
    cases h
  | some v =>
    rw [(read_int32_of_some hv).1]
    refine (h v hv).trans ⟨fun hq => ⟨v, rfl, hq⟩, ?_⟩
    rintro ⟨v', hv', hq⟩
    obtain rfl := Option.some.inj hv'
    exact hq

lemma strings_fit_once {f : DispatchFunction} (v : Int32) (data : RequestData) :
    Once (if v ≠ 0 ∧ v ≠ -1 ∧ !env.arraysFit f v then [.undefined] else callOnRequest n data) ↔
      v = 0 ∨ v = -1 ∨ env.arraysFit f v = true := by
  split
  · rename_i h
    refine iff_of_false not_once_undefined ?_
    rintro (h0 | h1 | hf)
    · exact h.1 h0
    · exact h.2.1 h1
    · simp [hf] at h
  · rename_i h
    refine iff_of_true (once_call data) ?_
    by_cases h0 : v = 0
    · exact .inl h0
    by_cases h1 : v = -1
    · exact .inr (.inl h1)
    · simpa [h0, h1] using h

lemma strings_once (f : DispatchFunction) (s : ReadState L) :
    Once (dispatchStrings env n f s) ↔ StringsChecked env L s.parcel f := by
  rw [dispatchStrings, StringsChecked]
  refine counted fun v hv => ?_
  rw [(read_int32_of_some hv).2]
  exact strings_fit_once v _

lemma ints_once (s : ReadState L) : Once (dispatchInts env n s) ↔ IntsChecked env L s.parcel := by
  rw [dispatchInts]
  cases hv : (L.readInt32 s.parcel).1 with
  | none =>
    have hs : s.readInt32.status = false := by
      rw [ReadState.readInt32]
      dsimp only
      rw [hv]
      rfl
    rw [hs]
    refine iff_of_false not_once_invalid ?_
    rintro ⟨v, h, -⟩
    rw [hv] at h
    cases h
  | some v =>
    obtain ⟨hs, ht⟩ := read_int32_of_some hv
    rw [hs, ht, IntsChecked, hv]
    simp only [Bool.not_true, Bool.false_or, decide_eq_true_eq, Option.some.injEq, exists_eq_left']
    by_cases h0 : v = 0
    · rw [if_pos h0]
      exact iff_of_false not_once_invalid fun h => h.1 h0
    rw [if_neg h0]
    cases hf : env.arraysFit .dispatchInts v with
    | false => exact iff_of_false not_once_undefined fun h => absurd h.2.1 (by simp)
    | true =>
      have hints := s.readInt32.checked_ints_isSome (List.replicate v.toInt.toNat .pInts)
      rw [List.length_replicate] at hints
      simp only [Bool.not_true, Bool.false_eq_true, if_false]
      cases hc : s.readInt32.checkedInts (List.replicate v.toInt.toNat .pInts) with
      | none =>
        refine iff_of_false not_once_invalid fun h => ?_
        rw [hc] at hints
        exact absurd (hints.mpr h.2.2) (by simp)
      | some is =>
        rw [hc] at hints
        exact iff_of_true (once_call _) ⟨h0, trivial, hints.mp rfl⟩

lemma records_once {f : DispatchFunction} (fs : List Field) {g : Field} (hg : g.kind = .int32) (s : ReadState L) :
    Once (dispatchRecords env n f (fs ++ [g]) s) ↔ RecordsChecked env L s.parcel f (fs.map Field.kind) := by
  rw [dispatchRecords, RecordsChecked]
  refine counted fun v hv => ?_
  obtain ⟨hs, ht⟩ := read_int32_of_some hv
  rw [ht]
  cases hf : env.arraysFit f v with
  | false => exact iff_of_false not_once_undefined fun h => absurd h.1 (by simp)
  | true =>
    have hnot : ¬((!true) = true) := by simp
    rw [if_neg hnot, once_if]
    have hv0 : v = 0 ↔ v.toInt.toNat = 0 := by
      rw [RilEnv.arraysFit, Bool.and_eq_true, decide_eq_true_eq] at hf
      rw [← Int32.toInt_inj]
      have h0 : (0 : Int32).toInt = 0 := rfl
      omega
    rw [hv0]
    cases hc : v.toInt.toNat with
    | zero => exact iff_of_true hs ⟨rfl, .inl rfl⟩
    | succ k =>
      have hlast := (s.readInt32.records (fs ++ [g]) k).2.fields_status fs (f := g) (by rw [hg]; decide) []
      rw [ReadState.records_parcel, hg] at hlast
      have hkinds : (fs ++ [g]).map Field.kind = fs.map Field.kind ++ [.int32] := by
        rw [List.map_append, List.map_singleton, hg]
      rw [hkinds, List.map_nil] at hlast
      rw [ReadState.records_succ]
      simp only [Nat.succ_ne_zero, false_or, true_and, Nat.add_sub_cancel]
      exact hlast

/-- A number and a string that is not `NULL` -/
lemma required_iff (s : ReadState L) (name name' : Parameter) :
    ¬(!(s.fields [.int32 name, .string name']).2.status || nullString (s.fields [.int32 name, .string name']).1) = true ↔
      L.Has s.parcel .int32 ∧ L.Has (L.after s.parcel [.int32]) .string := by
  have hstatus : (s.fields [.int32 name, .string name']).2.status = (L.readInt32 s.parcel).1.isSome := rfl
  have hnull : nullString (s.fields [.int32 name, .string name']).1 =
      !(L.readString16 (L.readInt32 s.parcel).2).1.isSome := by
    simp only [nullString, ReadState.fields, ReadState.field, ReadState.strdupReadString, ReadState.readInt32,
      List.any_cons, List.any_nil, Bool.false_or, Bool.or_false]
    cases (L.readString16 (L.readInt32 s.parcel).2).1 <;> rfl
  rw [hstatus, hnull, Bool.or_eq_true, not_or, Bool.not_eq_true', Bool.not_eq_false, Bool.not_eq_true',
    Bool.not_eq_false]
  exact Iff.rfl

lemma required_once (s : ReadState L) (name name' : Parameter) (data : RequestData) :
    Once (if !(s.fields [.int32 name, .string name']).2.status || nullString (s.fields [.int32 name, .string name']).1 then
        invalidCommandBlock
      else callOnRequest n data) ↔
      L.Has s.parcel .int32 ∧ L.Has (L.after s.parcel [.int32]) .string := by
  rw [once_if_not, required_iff]

lemma uus_info_isSome (s : ReadState L) :
    (readUusInfo s).isSome = true ↔ L.Has (L.after s.parcel [.int32, .int32]) .int32 := by
  have hstatus : (s.fields [.int32 .uusType, .int32 .uusDcs, .int32 .uusLength]).2.status = true ↔
      L.Has (L.after s.parcel [.int32, .int32]) .int32 := Iff.rfl
  rw [← hstatus, readUusInfo]
  cases (s.fields [.int32 .uusType, .int32 .uusDcs, .int32 .uusLength]).2.status with
  | false => exact Iff.rfl
  | true =>
    refine iff_of_true ?_ rfl
    split
    · rename_i h
      cases h
    · split <;> rfl

/-- An address that is not `NULL` and a mode -/
lemma dial_iff (s : ReadState L) :
    ¬(!(s.fields [.string .address, .int32 .clir]).2.status ||
        nullString (s.fields [.string .address, .int32 .clir]).1) = true ↔
      L.Has s.parcel .string ∧ L.Has (L.after s.parcel [.string]) .int32 := by
  have hstatus : (s.fields [.string .address, .int32 .clir]).2.status =
      (L.readInt32 (L.readString16 s.parcel).2).1.isSome := rfl
  have hnull : nullString (s.fields [.string .address, .int32 .clir]).1 = !(L.readString16 s.parcel).1.isSome := by
    simp only [nullString, ReadState.fields, ReadState.field, ReadState.strdupReadString, ReadState.readInt32,
      List.any_cons, List.any_nil, Bool.or_false]
    cases (L.readString16 s.parcel).1 <;> rfl
  rw [hstatus, hnull, Bool.or_eq_true, not_or, Bool.not_eq_true', Bool.not_eq_false, Bool.not_eq_true',
    Bool.not_eq_false, and_comm]
  exact Iff.rfl

lemma dial_once (s : ReadState L) : Once (dispatchDial env n s) ↔ DialChecked env L s.parcel := by
  have htested := dial_iff s
  rw [dispatchDial, DialChecked, ← and_assoc]
  by_cases ht : L.Has s.parcel .string ∧ L.Has (L.after s.parcel [.string]) .int32
  · rw [if_neg (htested.mpr ht), and_iff_right ht]
    by_cases hv : env.version < 3
    · rw [if_pos hv]
      exact iff_of_true (once_call _) (.inl hv)
    · rw [if_neg hv, or_iff_right hv]
      refine counted fun uusPresent hu => ?_
      rw [(read_int32_of_some hu).2]
      by_cases h0 : uusPresent = 0
      · rw [if_pos h0]
        exact iff_of_true (once_call _) (.inl h0)
      · rw [if_neg h0, or_iff_right h0]
        have huus := uus_info_isSome (s.fields [.string .address, .int32 .clir]).2.readInt32
        cases hr : readUusInfo (s.fields [.string .address, .int32 .clir]).2.readInt32 with
        | none =>
          rw [hr] at huus
          exact iff_of_false not_once_invalid fun h => absurd (huus.mpr h) (by simp)
        | some uusInfo =>
          rw [hr] at huus
          exact iff_of_true (once_call _) (huus.mp rfl)
  · rw [if_pos (not_not.mp fun h => ht (htested.mp h))]
    exact iff_of_false not_once_invalid fun h => ht h.1

lemma construct_cdma_sms_isSome (s : ReadState L) :
    (constructCdmaSms s).isSome = true ↔ CdmaSmsChecked L s.parcel s.t s.ut := by
  have haddresses : (readCdmaAddresses (⟨s.parcel, true, s.t, s.ut⟩ : ReadState L)).2 = (readCdmaAddresses s).2 := rfl
  rw [constructCdmaSms, CdmaSmsChecked, haddresses]
  have hlen : ((readCdmaAddresses s).2.field (.int32 .uBearerDataLen)).2.t =
      (L.readInt32 (readCdmaAddresses s).2.parcel).1.getD (readCdmaAddresses s).2.t := rfl
  have hstatus : ((readCdmaAddresses s).2.field (.int32 .uBearerDataLen)).2.status = true ↔
      L.Has (readCdmaAddresses s).2.parcel .int32 := Iff.rfl
  rw [← hlen]
  cases hn : bearerDataBytes ((readCdmaAddresses s).2.field (.int32 .uBearerDataLen)).2.t with
  | zero =>
    rw [if_pos rfl, ← hstatus, List.replicate_zero, ReadState.fields]
    split
    · rename_i h
      exact iff_of_true rfl h
    · rename_i h
      exact iff_of_false (by simp) h
  | succ k =>
    have hdata := ReadState.fields_status ((readCdmaAddresses s).2.field (.int32 .uBearerDataLen)).2
      (List.replicate k (.byte .aBearerData)) (f := .byte .aBearerData) (by decide) []
    rw [List.map_nil, ← List.replicate_succ', List.map_replicate] at hdata
    rw [if_neg (Nat.succ_ne_zero k), Nat.add_sub_cancel]
    refine Iff.trans ?_ hdata
    split
    · rename_i h
      exact iff_of_true rfl h
    · rename_i h
      exact iff_of_false (by simp) h

lemma cdma_once (s : ReadState L) : Once (dispatchCdmaSms n s) ↔ CdmaSmsChecked L s.parcel s.t s.ut := by
  rw [← construct_cdma_sms_isSome, dispatchCdmaSms]
  cases constructCdmaSms s with
  | none => exact iff_of_false not_once_invalid (by simp)
  | some rcsm => exact iff_of_true (once_call _) rfl

lemma ims_gsm_once (s : ReadState L) (retry : UInt8) (messageRef : ℕ) :
    Once (dispatchImsGsmSms env n s retry messageRef) ↔ StringsChecked env L s.parcel .dispatchImsSms := by
  rw [dispatchImsGsmSms, StringsChecked]
  refine counted fun v hv => ?_
  rw [(read_int32_of_some hv).2]
  exact strings_fit_once v _

lemma ims_cdma_once (s : ReadState L) (retry : UInt8) (messageRef : ℕ) :
    Once (dispatchImsCdmaSms n s retry messageRef) ↔ CdmaSmsChecked L s.parcel s.t s.ut := by
  rw [← construct_cdma_sms_isSome, dispatchImsCdmaSms]
  cases constructCdmaSms s with
  | none => exact iff_of_false not_once_invalid (by simp)
  | some rcsm => exact iff_of_true (once_call _) rfl

lemma ims_once (s : ReadState L) : Once (dispatchImsSms env n s) ↔ ImsSmsChecked env L s.parcel s.t s.ut := by
  rw [dispatchImsSms, ImsSmsChecked]
  refine counted fun format hf => ?_
  dsimp only
  have hretry : s.readInt32.readByte.status = true ↔ L.Has (L.after s.parcel [.int32]) .byte := Iff.rfl
  have hparcel : s.readInt32.readByte.parcel = L.after s.parcel [.int32, .byte] := rfl
  rw [(read_int32_of_some hf).2, ← hretry, ← hparcel]
  cases s.readInt32.readByte.status with
  | false => exact iff_of_false not_once_invalid fun h => absurd h.1 (by simp)
  | true =>
    rw [Bool.not_true, if_neg (by simp : ¬(false = true))]
    cases hm : L.read 4 s.readInt32.readByte.parcel with
    | mk messageRef p =>
      cases messageRef with
      | none => exact iff_of_false not_once_invalid fun h => absurd h.2.1 (by simp)
      | some messageRef =>
        by_cases h1 : format = radioTech3gpp
        · have h2 : format ≠ radioTech3gpp2 := by
            rw [h1]
            decide
          simp only [if_pos h1]
          rw [ims_gsm_once]
          exact ⟨fun h => ⟨trivial, rfl, .inl ⟨h1, h⟩⟩, fun h => (h.2.2.resolve_right fun h' => h2 h'.1).2⟩
        · by_cases h2 : format = radioTech3gpp2
          · simp only [if_neg h1, if_pos h2]
            rw [ims_cdma_once]
            exact ⟨fun h => ⟨trivial, rfl, .inr ⟨h2, h⟩⟩, fun h => (h.2.2.resolve_left fun h' => h1 h'.1).2⟩
          · simp only [if_neg h1, if_neg h2]
            refine iff_of_false not_once_invalid ?_
            rintro ⟨-, -, h | h⟩
            · exact h1 h.1
            · exact h2 h.1

lemma uicc_once (s : ReadState L) : Once (dispatchUiccSubscripton n s) ↔
    ∀ i < 4, L.Has (L.after s.parcel (List.replicate i .int32)) .int32 := by
  refine Iff.trans ?_ (s.checked_ints_isSome [.slot, .appIndex, .subType, .actStatus])
  rw [dispatchUiccSubscripton]
  cases s.checkedInts [.slot, .appIndex, .subType, .actStatus] with
  | none => exact iff_of_false not_once_invalid (by simp)
  | some uiccSub => exact iff_of_true (once_call _) rfl

/-- A radio that is off, or not available, has no technology and no source, so there are two answers. -/
lemma decoded_once {decode : RilRadioState → ℤ} (hunavailable : decode .unavailable = -1) (hoff : decode .off = -1)
    (state : RilRadioState) :
    Once (dispatchDecoded n decode state) ↔ state ≠ .unavailable ∧ state ≠ .off := by
  have htwice (e e' : RilErrno) (response response' : Option ℤ) :
      ¬Once [.onRequestComplete e response, .onRequestComplete e' response'] := by
    rintro (⟨m, data, h⟩ | ⟨e, response, h⟩)
    · cases h
    · cases h
  by_cases hu : state = .unavailable
  · rw [hu, dispatchDecoded, hunavailable]
    exact iff_of_false (htwice _ _ _ _) fun h => h.1 rfl
  by_cases ho : state = .off
  · rw [ho, dispatchDecoded, hoff]
    exact iff_of_false (htwice _ _ _ _) fun h => h.2 rfl
  refine iff_of_true ?_ ⟨hu, ho⟩
  rw [dispatchDecoded, if_neg (not_or.mpr ⟨hu, ho⟩), List.nil_append]
  split
  · exact once_call _
  · split
    · exact .inr ⟨_, _, rfl⟩
    · exact .inr ⟨_, _, rfl⟩

lemma cdma_sms_write_args_last : cdmaSmsWriteArgs.dropLast ++ [.byte .aBearerData] = cdmaSmsWriteArgs :=
  List.dropLast_append_getLast? _ (by decide +kernel : cdmaSmsWriteArgs.getLast? = some (.byte .aBearerData))

lemma cdma_write_args_once (s : ReadState L) : Once (dispatchRilCdmaSmsWriteArgs n s) ↔
    L.Has (L.after s.parcel (cdmaSmsWriteArgs.dropLast.map Field.kind)) .byte := by
  have h := fields_once (n := n) s cdmaSmsWriteArgs.dropLast (f := .byte .aBearerData) (by decide) []
  rw [List.map_nil, cdma_sms_write_args_last] at h
  exact h

lemma block_once (c : Command) (f : DispatchFunction) (p : L.Parcel) :
    Once (dispatch env n f c.radioState (⟨p, true, c.t, c.ut⟩ : ReadState L)) ↔ BlockChecked env L p c f := by
  cases f with
  | dispatchVoid => exact iff_of_true (once_call _) trivial
  | dispatchString => exact iff_of_true (once_call _) trivial
  | dispatchStrings => exact strings_once _ _
  | dispatchInts => exact ints_once _
  | dispatchSmsWrite => exact required_once _ _ _ _
  | dispatchDial => exact dial_once _
  | dispatchSimIo =>
    exact fields_once _ [.int32 .command, .int32 .fileid, .string .path, .int32 .p1, .int32 .p2]
      (f := .int32 .p3) (by decide) [.data, .pin2, .aidPtr]
  | dispatchSimApdu =>
    exact fields_once _ [.int32 .sessionid, .int32 .cla, .int32 .instruction, .int32 .p1, .int32 .p2]
      (f := .int32 .p3) (by decide) [.data]
  | dispatchCallForward => exact once_if_not _ _ |>.trans (by simp; rfl)
  | dispatchRaw => exact once_if_not _ _ |>.trans (by simp; rfl)
  | dispatchCdmaSms => exact cdma_once _
  | dispatchImsSms => exact ims_once _
  | dispatchCdmaSmsAck => exact fields_once _ [.int32 .uErrorClass] (f := .int32 .uSMSCauseCode) (by decide) []
  | dispatchGsmBrSmsCnf => exact records_once gsmBroadcastSmsConfigInfo.dropLast (g := .flag .selected) rfl _
  | dispatchCdmaBrSmsCnf => exact records_once cdmaBroadcastSmsConfigInfo.dropLast (g := .flag .selected) rfl _
  | dispatchRilCdmaSmsWriteArgs => exact cdma_write_args_once _
  | dispatchDataCall => exact strings_once _ _
  | dispatchVoiceRadioTech => exact decoded_once rfl rfl _
  | dispatchCdmaSubscriptionSource => exact decoded_once rfl rfl _
  | dispatchSetInitialAttachApn =>
    exact fields_once _ [.string .apn, .string .protocol] (f := .int32 .authtype) (by decide) [.username, .password]
  | dispatchNVReadItem => exact fields_once _ [] (f := .int32 .itemID) (by decide) []
  | dispatchNVWriteItem => exact required_once _ _ _ _
  | dispatchUiccSubscripton => exact uicc_once _
  | dispatchSimAuthentication => exact fields_once _ [] (f := .int32 .authContext) (by decide) [.authData, .aid]
  | dispatchDataProfile => exact records_once dataProfileInfo.dropLast (g := .int32 .enabled) rfl _

end Ril.Libril
