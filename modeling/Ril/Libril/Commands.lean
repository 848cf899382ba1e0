import Ril.Ipc.Message

/-! The command table of libril. -/

namespace Ril.Libril

open Ril.Ipc

inductive DispatchFunction
  | dispatchVoid | dispatchStrings | dispatchDial | dispatchInts | dispatchString | dispatchDataCall
  | dispatchSimIo | dispatchCallForward | dispatchRaw | dispatchSmsWrite | dispatchCdmaSms | dispatchCdmaSmsAck
  | dispatchGsmBrSmsCnf | dispatchCdmaBrSmsCnf | dispatchRilCdmaSmsWriteArgs | dispatchCdmaSubscriptionSource
  | dispatchVoiceRadioTech | dispatchSetInitialAttachApn | dispatchImsSms | dispatchSimApdu | dispatchNVReadItem
  | dispatchNVWriteItem | dispatchUiccSubscripton | dispatchSimAuthentication | dispatchDataProfile
deriving DecidableEq, Repr

inductive ResponseFunction
  | responseSimStatus | responseInts | responseCallList | responseVoid | responseString
  | responseRilSignalStrength | responseStrings | responseSms | responseSetupDataCall | responseSimIo
  | responseCallForwards | responseDataCallList | responseRaw | responseCellList | responseGsmBrSmsCnf
  | responseCdmaBrSmsCnf | responseCellInfoList | responseHardwareConfig | responseDcRtInfo
deriving DecidableEq, Repr

structure CommandInfo where
  requestNumber : ℤ
  dispatchFunction : Option DispatchFunction
  responseFunction : Option ResponseFunction
deriving DecidableEq, Repr

section

open DispatchFunction ResponseFunction

/-- The request numbers are those of `ril.h`. -/
def sCommands : List CommandInfo := [
  ⟨0, none, none⟩, ⟨1, some dispatchVoid, some responseSimStatus⟩, ⟨2, some dispatchStrings, some responseInts⟩,
  ⟨3, some dispatchStrings, some responseInts⟩, ⟨4, some dispatchStrings, some responseInts⟩,
  ⟨5, some dispatchStrings, some responseInts⟩, ⟨6, some dispatchStrings, some responseInts⟩,
  ⟨7, some dispatchStrings, some responseInts⟩, ⟨8, some dispatchStrings, some responseInts⟩,
  ⟨9, some dispatchVoid, some responseCallList⟩, ⟨10, some dispatchDial, some responseVoid⟩,
  ⟨11, some dispatchStrings, some responseString⟩, ⟨12, some dispatchInts, some responseVoid⟩,
  ⟨13, some dispatchVoid, some responseVoid⟩, ⟨14, some dispatchVoid, some responseVoid⟩,
  ⟨15, some dispatchVoid, some responseVoid⟩, ⟨16, some dispatchVoid, some responseVoid⟩,
  ⟨17, some dispatchVoid, some responseVoid⟩, ⟨18, some dispatchVoid, some responseInts⟩,
  ⟨19, some dispatchVoid, some responseRilSignalStrength⟩, ⟨20, some dispatchVoid, some responseStrings⟩,
  ⟨21, some dispatchVoid, some responseStrings⟩, ⟨22, some dispatchVoid, some responseStrings⟩,
  ⟨23, some dispatchInts, some responseVoid⟩, ⟨24, some dispatchString, some responseVoid⟩,
  ⟨25, some dispatchStrings, some responseSms⟩, ⟨26, some dispatchStrings, some responseSms⟩,
  ⟨27, some dispatchDataCall, some responseSetupDataCall⟩, ⟨28, some dispatchSimIo, some responseSimIo⟩,
  ⟨29, some dispatchString, some responseVoid⟩, ⟨30, some dispatchVoid, some responseVoid⟩,
  ⟨31, some dispatchVoid, some responseInts⟩, ⟨32, some dispatchInts, some responseVoid⟩,
  ⟨33, some dispatchCallForward, some responseCallForwards⟩, ⟨34, some dispatchCallForward, some responseVoid⟩,
  ⟨35, some dispatchInts, some responseInts⟩, ⟨36, some dispatchInts, some responseVoid⟩,
  ⟨37, some dispatchInts, some responseVoid⟩, ⟨38, some dispatchVoid, some responseString⟩,
  ⟨39, some dispatchVoid, some responseString⟩, ⟨40, some dispatchVoid, some responseVoid⟩,
  ⟨41, some dispatchStrings, some responseVoid⟩, ⟨42, some dispatchStrings, some responseInts⟩,
  ⟨43, some dispatchStrings, some responseInts⟩, ⟨44, some dispatchStrings, some responseVoid⟩,
  ⟨45, some dispatchVoid, some responseInts⟩, ⟨46, some dispatchVoid, some responseVoid⟩,
  ⟨47, some dispatchString, some responseVoid⟩, ⟨48, some dispatchVoid, some responseStrings⟩,
  ⟨49, some dispatchString, some responseVoid⟩, ⟨50, some dispatchVoid, some responseVoid⟩,
  ⟨51, some dispatchVoid, some responseString⟩, ⟨52, some dispatchInts, some responseVoid⟩,
  ⟨53, some dispatchInts, some responseVoid⟩, ⟨54, some dispatchVoid, some responseInts⟩,
  ⟨55, some dispatchVoid, some responseInts⟩, ⟨56, some dispatchVoid, some responseInts⟩,
  ⟨57, some dispatchVoid, some responseDataCallList⟩, ⟨58, some dispatchVoid, some responseVoid⟩,
  ⟨59, some dispatchRaw, some responseRaw⟩, ⟨60, some dispatchStrings, some responseStrings⟩,
  ⟨61, some dispatchInts, some responseVoid⟩, ⟨62, some dispatchInts, some responseVoid⟩,
  ⟨63, some dispatchSmsWrite, some responseInts⟩, ⟨64, some dispatchInts, some responseVoid⟩,
  ⟨65, some dispatchInts, some responseVoid⟩, ⟨66, some dispatchVoid, some responseInts⟩,
  ⟨67, some dispatchVoid, some responseString⟩, ⟨68, some dispatchString, some responseVoid⟩,
  ⟨69, some dispatchString, some responseString⟩, ⟨70, some dispatchString, some responseVoid⟩,
  ⟨71, some dispatchInts, some responseVoid⟩, ⟨72, some dispatchVoid, some responseVoid⟩,
  ⟨73, some dispatchInts, some responseVoid⟩, ⟨74, some dispatchVoid, some responseInts⟩,
  ⟨75, some dispatchVoid, some responseCellList⟩, ⟨76, some dispatchInts, some responseVoid⟩,
  ⟨77, some dispatchInts, some responseVoid⟩, ⟨78, some dispatchInts, some responseVoid⟩,
  ⟨79, some dispatchVoid, some responseInts⟩, ⟨80, some dispatchInts, some responseVoid⟩,
  ⟨81, some dispatchVoid, some responseInts⟩, ⟨82, some dispatchInts, some responseVoid⟩,
  ⟨83, some dispatchVoid, some responseInts⟩, ⟨84, some dispatchString, some responseVoid⟩,
  ⟨85, some dispatchStrings, some responseVoid⟩, ⟨86, some dispatchString, some responseVoid⟩,
  ⟨87, some dispatchCdmaSms, some responseSms⟩, ⟨88, some dispatchCdmaSmsAck, some responseVoid⟩,
  ⟨89, some dispatchVoid, some responseGsmBrSmsCnf⟩, ⟨90, some dispatchGsmBrSmsCnf, some responseVoid⟩,
  ⟨91, some dispatchInts, some responseVoid⟩, ⟨92, some dispatchVoid, some responseCdmaBrSmsCnf⟩,
  ⟨93, some dispatchCdmaBrSmsCnf, some responseVoid⟩, ⟨94, some dispatchInts, some responseVoid⟩,
  ⟨95, some dispatchVoid, some responseStrings⟩, ⟨96, some dispatchRilCdmaSmsWriteArgs, some responseInts⟩,
  ⟨97, some dispatchInts, some responseVoid⟩, ⟨98, some dispatchVoid, some responseStrings⟩,
  ⟨99, some dispatchVoid, some responseVoid⟩, ⟨100, some dispatchVoid, some responseString⟩,
  ⟨101, some dispatchString, some responseVoid⟩, ⟨102, some dispatchInts, some responseVoid⟩,
  ⟨103, some dispatchVoid, some responseVoid⟩, ⟨104, some dispatchCdmaSubscriptionSource, some responseInts⟩,
  ⟨105, some dispatchString, some responseString⟩, ⟨106, some dispatchStrings, some responseVoid⟩,
  ⟨107, some dispatchString, some responseSimIo⟩, ⟨108, some dispatchVoiceRadioTech, some responseInts⟩,
  ⟨109, some dispatchVoid, some responseCellInfoList⟩, ⟨110, some dispatchInts, some responseVoid⟩,
  ⟨111, some dispatchSetInitialAttachApn, some responseVoid⟩, ⟨112, some dispatchVoid, some responseInts⟩,
  ⟨113, some dispatchImsSms, some responseSms⟩, ⟨114, some dispatchSimApdu, some responseSimIo⟩,
  ⟨115, some dispatchString, some responseInts⟩, ⟨116, some dispatchInts, some responseVoid⟩,
  ⟨117, some dispatchSimApdu, some responseSimIo⟩, ⟨118, some dispatchNVReadItem, some responseString⟩,
  ⟨119, some dispatchNVWriteItem, some responseVoid⟩, ⟨120, some dispatchRaw, some responseVoid⟩,
  ⟨121, some dispatchInts, some responseVoid⟩, ⟨122, some dispatchUiccSubscripton, some responseVoid⟩,
  ⟨123, some dispatchInts, some responseVoid⟩, ⟨124, some dispatchVoid, some responseHardwareConfig⟩,
  ⟨125, some dispatchSimAuthentication, some responseSimIo⟩, ⟨126, some dispatchVoid, some responseDcRtInfo⟩,
  ⟨127, some dispatchInts, some responseVoid⟩, ⟨128, some dispatchDataProfile, some responseVoid⟩,
  ⟨129, some dispatchVoid, some responseVoid⟩]

end

def maxRilSol : ℤ := 110

def rilRequestGetCellBroadcastConfig : ℤ := 10002

def rilRequestHangupVt : ℤ := 10052

/-- The test of `processCommandBuffer` on the request code. -/
def commandAccepted (request : ℤ) : Bool :=
  !(request < 1 || (request > maxRilSol && request < rilRequestGetCellBroadcastConfig) || request > rilRequestHangupVt)

/-- The index of `pCI` in the table. The one that is computed for the codes above 10000 is overwritten. -/
def commandIndex (request : ℤ) : ℕ := request.toNat

inductive RilSocketId
  | socket1 | socket2 | socket3 | socket4
deriving DecidableEq, Repr

structure RequestInfo where
  token : Int32
  pCI : ℕ
  cancelled : Bool := false
  isLocal : Bool := false
  socketId : RilSocketId
deriving DecidableEq

/-- The parcels of the binder library. A read without a result has failed. -/
structure ParcelLib where
  Parcel : Type
  setData : Bytes → Parcel
  dataPosition : Parcel → ℕ
  setDataPosition : ℕ → Parcel → Parcel
  readInt32 : Parcel → Option Int32 × Parcel
  read : ℕ → Parcel → Option Bytes × Parcel
  readInplace : ℕ → Parcel → Option Bytes × Parcel
  readString16 : Parcel → Option CString × Parcel
  /-- a parcel of the header of another one, an int and strings -/
  copyStrings : Parcel → ℕ → Int32 → List (Option CString) → Parcel

/-- `uninitialized` is the request code if the first read has failed. -/
def commandCode (L : ParcelLib) (uninitialized : Int32) (buffer : Bytes) : ℤ :=
  ((L.readInt32 (L.setData buffer)).1.getD uninitialized).toInt

/-- What a command puts on the list of pending requests, and the parcel that is left. Only the second of the reads
is checked. -/
def newRequestInfo (L : ParcelLib) (uninitialized : Int32) (buffer : Bytes) (socketId : RilSocketId) :
    Option (RequestInfo × L.Parcel) :=
  let token := L.readInt32 (L.readInt32 (L.setData buffer)).2
  match token.1 with
  | none => none
  | some t =>
    if commandAccepted (commandCode L uninitialized buffer) then
      some (⟨t, commandIndex (commandCode L uninitialized buffer), false, false, socketId⟩, token.2)
    else none

end Ril.Libril

/-! Which request codes libril dispatches by their own entry of the table. -/

namespace Ril.Libril

open Ril.Ipc

/-- The table has an entry for the code. -/
def HasCommand (code : ℤ) : Prop := ∃ e ∈ sCommands, e.requestNumber = code ∧ e.dispatchFunction.isSome = true

lemma s_commands_length : sCommands.length = 130 := by decide +kernel

lemma s_commands_entry : ∀ i : ℕ, i < 130 → ∃ e, sCommands[i]? = some e ∧ e.requestNumber = (i : ℤ) ∧
    (e.dispatchFunction.isSome = true ↔ i ≠ 0) := by
  have h : ∀ i : ℕ, i < 130 → (sCommands[i]?.any fun e =>
      e.requestNumber == (i : ℤ) && e.dispatchFunction.isSome == (i != 0)) = true := by decide +kernel
  intro i hi
  have hp := h i hi
  cases he : sCommands[i]? with
  | none => simp [he] at hp
  | some e =>
    simp only [he, Option.any_some, Bool.and_eq_true, beq_iff_eq] at hp
    refine ⟨e, rfl, hp.1, ?_⟩
    rw [hp.2]
    exact bne_iff_ne

lemma has_command_iff (code : ℤ) : HasCommand code ↔ 1 ≤ code ∧ code < 130 := by
  constructor
  · rintro ⟨e, he, rfl, hd⟩
    obtain ⟨i, hi, rfl⟩ := List.getElem_of_mem he
    obtain ⟨e, he, hn, hs⟩ := s_commands_entry i (s_commands_length ▸ hi)
    rw [List.getElem?_eq_getElem hi, Option.some.injEq] at he
    subst he
    have h0 := hs.mp hd
    rw [s_commands_length] at hi
    omega
  · rintro ⟨h1, h2⟩
    obtain ⟨e, he, hn, hs⟩ := s_commands_entry code.toNat (by omega)
    refine ⟨e, List.mem_of_getElem? he, ?_, hs.mpr (by omega)⟩
    rw [hn]
    omega

lemma command_accepted_iff (code : ℤ) :
    commandAccepted code = true ↔ 1 ≤ code ∧ (code ≤ 110 ∨ 10002 ≤ code) ∧ code ≤ 10052 := by
  have h : commandAccepted code = !(code < 1 || (code > 110 && code < 10002) || code > 10052) := rfl
  simp only [h, Bool.not_eq_true', Bool.or_eq_false_iff, Bool.and_eq_false_iff, decide_eq_false_iff_not]
  omega

lemma command_index_entry {code : ℤ} (h : 1 ≤ code) :
    (∃ e, sCommands[commandIndex code]? = some e ∧ e.requestNumber = code) ↔ code < 130 := by
  rw [commandIndex]
  constructor
  · rintro ⟨e, he, -⟩
    obtain ⟨hi, -⟩ := List.getElem?_eq_some_iff.mp he
    rw [s_commands_length] at hi
    omega
  · intro hc
    obtain ⟨e, he, hn, -⟩ := s_commands_entry code.toNat (by omega)
    exact ⟨e, he, hn.trans (by omega)⟩

/-- A command is dispatched by the entry of its code, and by no other one, except for the codes of the table above
`MAX_RIL_SOL` and for those of Samsung. -/
theorem command_dispatched_by_its_entry (L : ParcelLib) (uninitialized : Int32) (buffer : Bytes)
    (socketId : RilSocketId) {token : Int32}
    (ht : (L.readInt32 (L.readInt32 (L.setData buffer)).2).1 = some token) :
    (((newRequestInfo L uninitialized buffer socketId).isSome = true ↔
        HasCommand (commandCode L uninitialized buffer)) ∧
      ∀ r p, newRequestInfo L uninitialized buffer socketId = some (r, p) →
        ∃ e, sCommands[r.pCI]? = some e ∧ e.requestNumber = commandCode L uninitialized buffer) ↔
    ¬(110 < commandCode L uninitialized buffer ∧ commandCode L uninitialized buffer < 130) ∧
      ¬(10002 ≤ commandCode L uninitialized buffer ∧ commandCode L uninitialized buffer ≤ 10052) := by
  have hsome : (newRequestInfo L uninitialized buffer socketId).isSome = true ↔
      commandAccepted (commandCode L uninitialized buffer) = true := by
    simp only [newRequestInfo, ht]
    split <;> simp [*]
  have hindex {r : RequestInfo} {p : L.Parcel} (h : newRequestInfo L uninitialized buffer socketId = some (r, p)) :
      r.pCI = commandIndex (commandCode L uninitialized buffer) := by
    simp only [newRequestInfo, ht] at h
    split at h
    · cases h
      rfl
    · cases h
  rw [hsome, command_accepted_iff, has_command_iff]
  constructor
  · rintro ⟨h, -⟩
    omega
  · intro h
    refine ⟨by omega, fun r p hr => ?_⟩
    have ha := (command_accepted_iff _).mp (hsome.mp (Option.isSome_iff_exists.mpr ⟨_, hr⟩))
    rw [hindex hr]
    exact (command_index_entry ha.1).mpr (by omega)

/-- Parcels that are the bytes still to be read, with words of four bytes. -/
def byteParcels : ParcelLib where
  Parcel := Bytes
  setData := id
  dataPosition := List.length
  setDataPosition _ p := p
  readInt32 p := (if p.length < 4 then none else
    some (Int32.ofInt (shortAt p 0 + 65536 * shortAt p 2)), p.drop 4)
  read n p := (if p.length < n then none else some (p.take n), p.drop n)
  readInplace n p := (if p.length < n then none else some (p.take n), p.drop n)
  readString16 p := (none, p)
  copyStrings p _ _ _ := p

/-- The parcel of a code, with the token 1 -/
def commandParcel (code : ℕ) : Bytes := shortBytes code ++ [0, 0, 1, 0, 0, 0]

theorem command_dispatched_by_its_entry_dial :
    HasCommand 10 ∧ (newRequestInfo byteParcels 0 (commandParcel 10) .socket1).isSome = true := by
  have h := (command_dispatched_by_its_entry byteParcels 0 (commandParcel 10) .socket1
    (rfl : _ = some (1 : Int32))).mpr (by decide)
  have hs : (newRequestInfo byteParcels 0 (commandParcel 10) .socket1).isSome = true := by decide
  exact ⟨h.1.mp hs, hs⟩

/-- The code 111 is in the table and is refused; the code 10052 is accepted and its entry lies outside of the
table. -/
theorem command_dispatched_by_its_entry_fails :
    (HasCommand 111 ∧ commandCode byteParcels 0 (commandParcel 111) = 111 ∧
      newRequestInfo byteParcels 0 (commandParcel 111) .socket1 = none) ∧
    ∃ r p, newRequestInfo byteParcels 0 (commandParcel 10052) .socket1 = some (r, p) ∧ sCommands[r.pCI]? = none ∧
      commandCode byteParcels 0 (commandParcel 10052) = 10052 ∧ ¬HasCommand 10052 := by
  refine ⟨⟨(has_command_iff 111).mpr (by decide), by decide, by decide⟩, ?_⟩
  exact ⟨⟨1, 10052, false, false, .socket1⟩, [], by rfl, by decide, by decide,
    fun h => absurd ((has_command_iff _).mp h).2 (by decide)⟩

end Ril.Libril
