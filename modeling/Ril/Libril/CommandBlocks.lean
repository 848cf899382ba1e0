import Ril.Libril.CommandParameters
import Ril.Libril.DispatchRuns

/-! The dispatch functions pass exactly the whole blocks on, as a whole. -/

namespace Ril.Libril

open Ril.Ipc Ril.Samsung

variable {L : ParcelLib} {env : RilEnv} {s : ReadState L} {n : ℤ}

/-! ### CDMA messages -/

lemma fields_append_fst (s : ReadState L) (fs gs : List Field) :
    (s.fields (fs ++ gs)).1 = (s.fields fs).1 ++ ((s.fields fs).2.fields gs).1 := by
  induction fs generalizing s with
  | nil => rfl
  | cons f fs ih => exact congrArg ((s.field f).1 :: ·) (ih (s.field f).2)

/-- A message is read as one block of fields. -/
lemma construct_cdma_sms_eq (s : ReadState L) : constructCdmaSms s =
    if (s.fields (cdmaSmsBlock s).fields).2.status then some (s.fields (cdmaSmsBlock s).fields).1 else none := by
  simp only [constructCdmaSms, readCdmaAddresses, cdmaSmsBlock, ReadState.fields_append, fields_append_fst,
    List.append_assoc]
  rfl

/-- The last field that is read decides. -/
lemma last_read_status (fs : List Field) {f : Field} (hf : f.kind ≠ .string) :
    (s.fields (fs ++ [f])).2.status = true ↔ L.LastRead s.parcel ((fs ++ [f]).map Field.kind) := by
  have hstatus := s.fields_status fs hf []
  rw [List.map_nil] at hstatus
  rw [hstatus, ← ParcelLib.reads_iff_has hf, List.map_append, List.map_singleton, ParcelLib.LastRead]
  simp

lemma cdma_sms_last_read :
    (s.fields (cdmaSmsBlock s).fields).2.status = true ↔
      L.LastRead s.parcel ((cdmaSmsBlock s).fields.map Field.kind) := by
  obtain ⟨fs, f, hf, hfields⟩ : ∃ fs f, Field.kind f ≠ .string ∧ (cdmaSmsBlock s).fields = fs ++ [f] := by
    rw [cdmaSmsBlock]
    dsimp only
    generalize bearerDataBytes _ = m
    cases m with
    | zero => exact ⟨_, .int32 .uBearerDataLen, by decide, rfl⟩
    | succ m => exact ⟨_, .byte .aBearerData, by decide, by
      rw [List.replicate_succ', ← List.cons_append, ← List.append_assoc]⟩
  rw [hfields]
  exact last_read_status fs hf

lemma cdma_sms_format_iff (hL : L.Lawful) (pass : Parameters → RequestData) :
    (∀ m, constructCdmaSms s = some m → CdmaSmsFormat s pass (pass m)) ↔ CdmaSmsWhole s := by
  have hchecked : CdmaSmsChecked L s.parcel s.t s.ut ↔ (s.fields (cdmaSmsBlock s).fields).2.status = true := by
    rw [← construct_cdma_sms_isSome, construct_cdma_sms_eq]
    split
    next h => exact iff_of_true rfl h
    next h => exact iff_of_false (by simp) h
  rw [CdmaSmsWhole, hchecked, construct_cdma_sms_eq]
  by_cases hs : (s.fields (cdmaSmsBlock s).fields).2.status = true
  · rw [if_pos hs, imp_iff_right hs]
    simp only [Option.some.injEq, forall_eq', CdmaSmsFormat, and_true]
    rw [ParcelLib.reads_all_iff hL, and_iff_left (cdma_sms_last_read.mp hs)]
  · rw [if_neg hs]
    exact iff_of_true nofun fun h => absurd h hs

lemma cdma_sms_passed (hL : L.Lawful) : Passes (CdmaSmsFormat s .parameters) (dispatchCdmaSms n s) ↔ CdmaSmsWhole s := by
  rw [← cdma_sms_format_iff hL .parameters, dispatchCdmaSms]
  cases constructCdmaSms s with
  | none => exact iff_of_true passes_invalid (by simp)
  | some rcsm => simp [passes_call]

lemma ims_cdma_passed (hL : L.Lawful) (retry : UInt8) (messageRef : ℕ) :
    Passes (CdmaSmsFormat s fun m => .imsSms radioTech3gpp2.toInt retry messageRef (some m))
      (dispatchImsCdmaSms n s retry messageRef) ↔ CdmaSmsWhole s := by
  rw [← cdma_sms_format_iff hL fun m => .imsSms radioTech3gpp2.toInt retry messageRef (some m), dispatchImsCdmaSms]
  cases constructCdmaSms s with
  | none => exact iff_of_true passes_invalid (by simp)
  | some rcsm => simp [passes_call]

/-! ### Messages for both formats -/

lemma dispatch_ims_sms_eq (s : ReadState L) : dispatchImsSms env n s =
    match imsMessage s.parcel with
    | none => invalidCommandBlock
    | some (format, retry, messageRef, p) =>
      if format = radioTech3gpp then dispatchImsGsmSms env n { s with parcel := p } retry messageRef
      else if format = radioTech3gpp2 then dispatchImsCdmaSms n { s with parcel := p } retry messageRef
      else [] := by
  have hretry : s.readInt32.readByte.status = (L.read 1 (L.after s.parcel [.int32])).1.isSome := rfl
  have hparcel : s.readInt32.readByte.parcel = L.after s.parcel [.int32, .byte] := rfl
  have hut : s.readInt32.readByte.ut =
    ((L.read 1 (L.after s.parcel [.int32])).1.map (byteAt · 0)).getD s.readInt32.ut := rfl
  rw [dispatchImsSms, imsMessage]
  cases hformat : (L.readInt32 s.parcel).1 with
  | none =>
    have hs : s.readInt32.status = false := by
      rw [ReadState.readInt32]
      dsimp only
      rw [hformat]
      rfl
    rw [hs]
    rfl
  | some format =>
    obtain ⟨hs, ht⟩ := read_int32_of_some hformat
    simp only [hs, ht, hretry, hparcel, hut, Bool.not_true, Bool.false_eq_true, if_false, Option.bind_some]
    cases (L.read 1 (L.after s.parcel [.int32])).1 with
    | none => rfl
    | some retry =>
      cases L.read 4 (L.after s.parcel [.int32, .byte]) with
      | mk messageRef p => cases messageRef <;> rfl

lemma ims_sms_all_or_nothing (hL : L.Lawful) :
    AllOrNothing env s .dispatchImsSms (dispatchImsSms env n s) ↔ ImsSmsWhole s := by
  have hformat : (fun data => InFormat env s data .dispatchImsSms) = ImsSmsFormat s := rfl
  have hstack : stackArray env s.parcel .dispatchImsSms =
    (imsMessage s.parcel).bind fun m => if m.1 = radioTech3gpp then stringsArray m.2.2.2 else none := rfl
  rw [all_or_nothing_iff, dispatch_ims_sms_eq, ImsSmsWhole, hformat, hstack]
  cases hm : imsMessage s.parcel with
  | none => exact iff_of_true ⟨passes_invalid, nofun⟩ nofun
  | some m =>
    obtain ⟨format, retry, messageRef, p⟩ := m
    have hims (data : RequestData) : ImsSmsFormat s data ↔
        format = radioTech3gpp ∧
            StringsFormat { s with parcel := p } (.imsSms radioTech3gpp.toInt retry messageRef) data ∨
          format = radioTech3gpp2 ∧
            CdmaSmsFormat { s with parcel := p } (fun m => .imsSms radioTech3gpp2.toInt retry messageRef (some m)) data := by
      rw [ImsSmsFormat, hm]
      refine ⟨?_, fun h => ⟨format, retry, messageRef, p, rfl, h⟩⟩
      rintro ⟨_, _, _, _, ⟨⟩, h⟩
      exact h
    have hwhole : (∀ format' retry' messageRef' p', some (format, retry, messageRef, p) =
          some (format', retry', messageRef', p') →
        (format' = radioTech3gpp → StringsWhole p') ∧
          (format' = radioTech3gpp2 → CdmaSmsWhole { s with parcel := p' })) ↔
        (format = radioTech3gpp → StringsWhole p) ∧ (format = radioTech3gpp2 → CdmaSmsWhole { s with parcel := p }) := by
      refine ⟨fun h => h format retry messageRef p rfl, ?_⟩
      rintro h _ _ _ _ ⟨⟩
      exact h
    rw [hwhole, Option.bind_some]
    dsimp only
    by_cases h1 : format = radioTech3gpp
    · have h2 : format ≠ radioTech3gpp2 := h1 ▸ by decide
      rw [if_pos h1, if_pos h1, ← strings_whole_iff hL]
      refine ⟨fun h => ⟨fun _ => h.2, fun h => absurd h h2⟩, fun h => ⟨fun m data hcall => ?_, h.1 h1⟩⟩
      exact (hims data).mpr (.inl ⟨h1, ims_strings_passed hL (s := { s with parcel := p }) (h.1 h1) _ _ m data hcall⟩)
    by_cases h2 : format = radioTech3gpp2
    · rw [if_neg h1, if_pos h2, if_neg h1, ← ims_cdma_passed (n := n) hL retry messageRef]
      refine ⟨fun h => ⟨fun h => absurd h h1, fun _ m data hcall => ?_⟩, fun h => ⟨fun m data hcall => ?_, nofun⟩⟩
      · exact (((hims data).mp (h.1 m data hcall)).resolve_left fun h => h1 h.1).2
      · exact (hims data).mpr (.inr ⟨h2, h.2 h2 m data hcall⟩)
    · rw [if_neg h1, if_neg h2, if_neg h1]
      exact iff_of_true ⟨nofun, nofun⟩ ⟨fun h => absurd h h1, fun h => absurd h h2⟩

/-! ### Data calls -/

lemma fields_strings (s : ReadState L) (name : Parameter) (m : ℕ) :
    (s.fields (List.replicate m (.string name))).1 = (L.strings s.parcel m).map fun t => (name, .string t) := by
  induction m generalizing s with
  | zero => rfl
  | succ m ih => exact congrArg (_ :: ·) (ih s.strdupReadString.2)

lemma strings_length (p : L.Parcel) (m : ℕ) : (L.strings p m).length = m := by
  induction m generalizing p with
  | zero => rfl
  | succ m ih => exact congrArg Nat.succ (ih (L.readString16 p).2)

lemma reads_all_of_strings {p : L.Parcel} {m : ℕ} (h : ∀ t ∈ L.strings p m, t.isSome = true) :
    L.ReadsAll p (List.replicate m .string) := by
  induction m generalizing p with
  | zero => trivial
  | succ m ih => exact ⟨.inl (h _ List.mem_cons_self), ih fun t ht => h t (List.mem_cons_of_mem _ ht)⟩

/-- The parcel is given six strings, of which none is `NULL`. -/
lemma data_call_parcel_strings (hL : L.Lawful) {p : L.Parcel}
    (hversion : env.version < 4 ∧ numParamsRilV3 < ((L.readInt32 p).1.getD 0).toInt) :
    (L.readInt32 (dataCallParcel env p)).1 = some (Int32.ofNat numParamsRilV3) ∧
      L.strings (L.readInt32 (dataCallParcel env p)).2 numParamsRilV3 =
        (L.strings (L.readInt32 p).2 numParamsRilV3).map fun t => some (t.getD []) := by
  have hcopied := hL.copied p (Int32.ofNat numParamsRilV3)
    ((L.strings (L.readInt32 p).2 numParamsRilV3).map fun t => t.getD []) (dataCallParcel env p) (by
      rw [dataCallParcel, if_pos hversion]
      dsimp only
      rw [fields_strings, List.map_map, List.map_map]
      rfl)
  rw [List.length_map, strings_length, List.map_map] at hcopied
  exact hcopied

lemma data_call_parcel_same (hL : L.Lawful) {p : L.Parcel}
    (hversion : ¬(env.version < 4 ∧ numParamsRilV3 < ((L.readInt32 p).1.getD 0).toInt)) : dataCallParcel env p = p := by
  rw [dataCallParcel, if_neg hversion]
  exact hL.rewind p

/-- What is copied is what was read if there is no `NULL`. -/
lemma copied_format_iff (m : ℕ) :
    FieldsFormat s (List.replicate m (.string .pStrings))
        (.parameters ((L.strings s.parcel m).map fun t => (.pStrings, .string (some (t.getD []))))) ↔
      ∀ t ∈ L.strings s.parcel m, t.isSome = true := by
  rw [FieldsFormat, List.map_replicate, fields_strings, RequestData.parameters.injEq, List.map_inj_left]
  constructor
  · rintro ⟨-, h⟩ t ht
    obtain rfl | ⟨t, rfl⟩ := t.eq_none_or_eq_some
    · exact absurd (h none ht) (by simp)
    · rfl
  · refine fun h => ⟨reads_all_of_strings h, fun t ht => ?_⟩
    obtain ⟨t, rfl⟩ := Option.isSome_iff_exists.mp (h t ht)
    rfl

lemma data_call_all_or_nothing (hL : L.Lawful) :
    AllOrNothing env s .dispatchDataCall (dispatchDataCall env n s) ↔ DataCallWhole env s.parcel := by
  have hformat : (fun data => InFormat env s data .dispatchDataCall) = DataCallFormat env s := rfl
  have hstack : stackArray env s.parcel .dispatchDataCall = stringsArray (dataCallParcel env s.parcel) := rfl
  rw [all_or_nothing_iff, hformat, hstack, DataCallWhole]
  by_cases hversion : env.version < 4 ∧ numParamsRilV3 < ((L.readInt32 s.parcel).1.getD 0).toInt
  · rw [if_pos hversion]
    obtain ⟨hcount, hstrings⟩ := data_call_parcel_strings hL hversion
    have hnum : (Int32.ofNat numParamsRilV3).toInt.toNat = numParamsRilV3 := rfl
    have hstored : ∀ a, stringsArray (dataCallParcel env s.parcel) = some a → a.Held := by
      intro a ha
      rw [stringsArray, hcount] at ha
      obtain rfl := Option.some.inj ha
      refine ⟨(by decide : 0 ≤ (Int32.ofNat numParamsRilV3).toInt), ?_⟩
      rw [StackArray.reads, replicate_singleton_flatten]
      refine reads_all_of_strings fun t ht => ?_
      rw [hnum, hstrings] at ht
      obtain ⟨t, -, rfl⟩ := List.mem_map.mp ht
      rfl
    have ht : ({ s with parcel := dataCallParcel env s.parcel } : ReadState L).readInt32.t = Int32.ofNat numParamsRilV3 :=
      (read_int32_of_some hcount).2
    have hparcel : ({ s with parcel := dataCallParcel env s.parcel } : ReadState L).readInt32.parcel =
      (L.readInt32 (dataCallParcel env s.parcel)).2 := rfl
    have hcounted : countedStrings ({ s with parcel := dataCallParcel env s.parcel } : ReadState L).readInt32 =
        some ((L.strings (L.readInt32 s.parcel).2 numParamsRilV3).map fun t =>
          (.pStrings, .string (some (t.getD [])))) := by
      rw [countedStrings, ht, if_neg (by decide), hnum, fields_strings, hparcel, hstrings, List.map_map]
      rfl
    rw [and_iff_left hstored, dispatchDataCall, dispatchStrings, passes_counted, ht, hcounted]
    simp only [hcount, Option.some.injEq, forall_eq']
    cases hfit : env.arraysFit .dispatchDataCall (Int32.ofNat numParamsRilV3) with
    | false =>
      rw [if_pos ⟨by decide, by decide, rfl⟩]
      exact iff_of_true passes_undefined (by simp)
    | true =>
      rw [if_neg fun h => Bool.false_ne_true h.2.2, passes_call, DataCallFormat, if_pos hversion, imp_iff_right rfl]
      exact copied_format_iff (s := s.readInt32) _
  · rw [if_neg hversion, dispatchDataCall, data_call_parcel_same hL hversion, ← strings_whole_iff hL]
    refine and_iff_right_of_imp fun hw m data hcall => ?_
    rw [DataCallFormat, if_neg hversion]
    exact strings_passed hL hw _ m data hcall

/-! ### All commands -/

lemma decoded_passed (decode : RilRadioState → ℤ) (state : RilRadioState) :
    Passes (· = .null) (dispatchDecoded n decode state) := by
  intro m data hcall
  rw [dispatchDecoded, List.mem_append] at hcall
  rcases hcall with hcall | hcall
  · split at hcall <;> simp at hcall
  · split at hcall
    next => exact (passes_call (P := fun data => data = .null)).mpr rfl m data hcall
    next => split at hcall <;> simp at hcall

lemma cdma_write_args_passed (hL : L.Lawful) :
    Passes (FieldsFormat s cdmaSmsWriteArgs) (dispatchRilCdmaSmsWriteArgs n s) ↔
      isWhole env s .dispatchRilCdmaSmsWriteArgs := by
  have h := fields_passed (n := n) (s := s) hL cdmaSmsWriteArgs.dropLast (f := .byte .aBearerData) (by decide) []
  rw [List.map_nil, cdma_sms_write_args_last] at h
  exact h

/-- What is written at once -/
inductive Cell
  | int32 (v : Int32)
  | bytes (bs : Bytes)
  | string (s : Option CString)
deriving DecidableEq

/-- Parcels that are the cells read and those still to be read. -/
def cellParcels : ParcelLib where
  Parcel := List Cell × List Cell
  setData data := ([], [.bytes data])
  dataPosition p := p.1.length
  setDataPosition n p := ((p.1 ++ p.2).take n, (p.1 ++ p.2).drop n)
  readInt32
    | (before, .int32 v :: rest) => (some v, (before ++ [.int32 v], rest))
    | p => (none, p)
  read
    | n, (before, .bytes bs :: rest) =>
      if bs.length = n then (some bs, (before ++ [.bytes bs], rest)) else (none, (before, .bytes bs :: rest))
    | _, p => (none, p)
  readInplace
    | n, (before, .bytes bs :: rest) =>
      if bs.length = n then (some bs, (before ++ [.bytes bs], rest)) else (none, (before, .bytes bs :: rest))
    | _, p => (none, p)
  readString16
    | (before, .string s :: rest) => (s, (before ++ [.string s], rest))
    | p => (none, p)
  copyStrings p pos count ss := ((p.1 ++ p.2).take pos ++ .int32 count :: ss.map .string, [])

lemma cell_strings (before : List Cell) (ss : List (Option CString)) :
    cellParcels.strings (before, ss.map .string) ss.length = ss := by
  induction ss generalizing before with
  | nil => rfl
  | cons s ss ih => exact congrArg (s :: ·) (ih (before ++ [Cell.string s]))

lemma cell_parcels_lawful : cellParcels.Lawful where
  int32_fails := by
    rintro ⟨before, _ | ⟨c, rest⟩⟩ h
    · rfl
    · cases c with
      | int32 v => cases h
      | bytes bs => rfl
      | string s => rfl
  byte_fails := by
    rintro ⟨before, _ | ⟨c, rest⟩⟩ h
    · rfl
    · cases c with
      | int32 v => rfl
      | bytes bs =>
        simp only [cellParcels] at h ⊢
        split at h
        next => cases h
        next hlen => rw [if_neg hlen]
      | string s => rfl
  inplace_length := by
    rintro n ⟨before, _ | ⟨c, rest⟩⟩ bytes h
    · cases h
    · cases c with
      | int32 v => cases h
      | bytes bs =>
        simp only [cellParcels] at h
        split at h
        next hlen => exact Option.some.inj h ▸ hlen
        next => cases h
      | string s => cases h
  rewind := by
    rintro ⟨before, _ | ⟨c, rest⟩⟩
    · simp [cellParcels]
    · cases c <;> simp [cellParcels]
  copied := by
    rintro ⟨before, rest⟩ count ss q hq
    have hcells : (cellParcels.readInt32 (before, rest)).2.1 ++ (cellParcels.readInt32 (before, rest)).2.2 =
        before ++ rest := by
      rcases rest with _ | ⟨c, rest⟩
      · rfl
      · cases c <;> simp [cellParcels]
    have hcopied : q = (before, .int32 count :: (ss.map some).map .string) := by
      rw [hq]
      simp only [cellParcels] at hcells ⊢
      rw [hcells]
      simp
    rw [hcopied]
    refine ⟨rfl, ?_⟩
    have hstrings := cell_strings (before ++ [.int32 count]) (ss.map some)
    rw [List.length_map] at hstrings
    exact hstrings

/-- Six numbers and no string for the data -/
def simApduParcel : ReadState cellParcels := ⟨([], List.replicate 6 (.int32 0)), true, 0, 0⟩

/-- Two strings with their count in front, the second of them `NULL` -/
def twoStringsParcel : ReadState cellParcels :=
  ⟨([], [Cell.int32 2, Cell.string (some [0x31]), Cell.string none]), true, 0, 0⟩

end Ril.Libril
