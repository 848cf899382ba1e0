import Mathlib.Algebra.Order.Ring.Int
import Ril.Libril.Commands

/-! The table of the unsolicited responses: how `RIL_onUnsolicitedResponse` looks up a code, and how `RIL_register`
checks the table. -/

namespace Ril.Libril

inductive UnsolResponseFunction
  | responseVoid | responseString | responseInts | responseStrings | responseRilSignalStrength
  | responseDataCallList | responseSsn | responseSimRefresh | responseCallRing | responseCdmaSms | responseRaw
  | responseCdmaCallWaiting | responseCdmaInformationRecords | responseCellInfoList | responseHardwareConfig
  | responseDcRtInfo
deriving DecidableEq, Repr

inductive WakeType
  | dontWake | wakePartial
deriving DecidableEq, Repr

structure UnsolResponseInfo where
  requestNumber : Int32
  responseFunction : UnsolResponseFunction
  wakeType : WakeType
deriving DecidableEq, Repr

/-- The numbers are those of `ril.h`, from `RIL_UNSOL_RESPONSE_RADIO_STATE_CHANGED` to
`RIL_UNSOL_DC_RT_INFO_CHANGED`. -/
def sUnsolResponses : List UnsolResponseInfo := [
  ⟨1000, .responseVoid, .wakePartial⟩, ⟨1001, .responseVoid, .wakePartial⟩, ⟨1002, .responseVoid, .wakePartial⟩,
  ⟨1003, .responseString, .wakePartial⟩, ⟨1004, .responseString, .wakePartial⟩, ⟨1005, .responseInts, .wakePartial⟩,
  ⟨1006, .responseStrings, .wakePartial⟩, ⟨1007, .responseVoid, .dontWake⟩, ⟨1008, .responseString, .wakePartial⟩,
  ⟨1009, .responseRilSignalStrength, .dontWake⟩, ⟨1010, .responseDataCallList, .wakePartial⟩,
  ⟨1011, .responseSsn, .wakePartial⟩, ⟨1012, .responseVoid, .wakePartial⟩, ⟨1013, .responseString, .wakePartial⟩,
  ⟨1014, .responseString, .wakePartial⟩, ⟨1015, .responseInts, .wakePartial⟩, ⟨1016, .responseVoid, .wakePartial⟩,
  ⟨1017, .responseSimRefresh, .wakePartial⟩, ⟨1018, .responseCallRing, .wakePartial⟩,
  ⟨1019, .responseVoid, .wakePartial⟩, ⟨1020, .responseCdmaSms, .wakePartial⟩, ⟨1021, .responseRaw, .wakePartial⟩,
  ⟨1022, .responseVoid, .wakePartial⟩, ⟨1023, .responseInts, .wakePartial⟩, ⟨1024, .responseVoid, .wakePartial⟩,
  ⟨1025, .responseCdmaCallWaiting, .wakePartial⟩, ⟨1026, .responseInts, .wakePartial⟩,
  ⟨1027, .responseCdmaInformationRecords, .wakePartial⟩, ⟨1028, .responseRaw, .wakePartial⟩,
  ⟨1029, .responseInts, .wakePartial⟩, ⟨1030, .responseVoid, .wakePartial⟩, ⟨1031, .responseInts, .wakePartial⟩,
  ⟨1032, .responseInts, .wakePartial⟩, ⟨1033, .responseVoid, .wakePartial⟩, ⟨1034, .responseInts, .wakePartial⟩,
  ⟨1035, .responseInts, .wakePartial⟩, ⟨1036, .responseCellInfoList, .wakePartial⟩, ⟨1037, .responseVoid, .wakePartial⟩,
  ⟨1038, .responseInts, .wakePartial⟩, ⟨1039, .responseInts, .wakePartial⟩,
  ⟨1040, .responseHardwareConfig, .wakePartial⟩, ⟨1041, .responseDcRtInfo, .wakePartial⟩]

def rilUnsolResponseBase : Int32 := 1000

def samsungUnsolResponseBase : Int32 := 11000

/-- `RIL_UNSOL_CELL_INFO_LIST` -/
def maxRilUnsol : Int32 := 1036

/-- The Samsung responses are put behind the last one of the standard. -/
def unsolResponseIndex (unsolResponse : Int32) : Int32 :=
  if unsolResponse > samsungUnsolResponseBase then
    unsolResponse - samsungUnsolResponseBase + maxRilUnsol - rilUnsolResponseBase
  else unsolResponse - rilUnsolResponseBase

/-- The entry that `RIL_onUnsolicitedResponse` takes, if the code is supported -/
def unsolResponseInfo (table : List UnsolResponseInfo) (unsolResponse : Int32) : Option UnsolResponseInfo :=
  let unsolResponseIndex := (unsolResponseIndex unsolResponse).toInt
  if unsolResponseIndex < 0 ∨ unsolResponseIndex ≥ table.length then none else table[unsolResponseIndex.toNat]?

/-- The number that an entry must have at this place -/
def checkedNumber (i : ℕ) : ℤ :=
  if (i : ℤ) > maxRilUnsol.toInt - rilUnsolResponseBase.toInt then
    i + samsungUnsolResponseBase.toInt - maxRilUnsol.toInt
  else i + rilUnsolResponseBase.toInt

/-- The assertions of `RIL_register` -/
def unsolResponsesChecked (table : List UnsolResponseInfo) : Bool :=
  (List.range table.length).all fun i => table[i]?.all fun entry => checkedNumber i = entry.requestNumber.toInt

/-- A code is rejected if the table has no entry for it, and otherwise it gets its own entry. -/
def UnsolLaw (table : List UnsolResponseInfo) (code : Int32) : Prop :=
  (unsolResponseInfo table code).elim (∀ entry ∈ table, entry.requestNumber ≠ code)
    fun entry => entry.requestNumber = code

variable {table : List UnsolResponseInfo} {code : Int32}

lemma unsol_response_index_toInt (code : Int32) : (unsolResponseIndex code).toInt =
    if 11000 < code.toInt then code.toInt - 10964
    else if -2147482648 ≤ code.toInt then code.toInt - 1000 else code.toInt + 4294966296 := by
  have hle := Int32.le_toInt code
  have hlt := Int32.toInt_lt code
  have hbase : (11000 : Int32).toInt = 11000 := rfl
  have hmax : (1036 : Int32).toInt = 1036 := rfl
  have hfirst : (1000 : Int32).toInt = 1000 := rfl
  simp only [unsolResponseIndex, samsungUnsolResponseBase, maxRilUnsol, rilUnsolResponseBase, gt_iff_lt,
    Int32.lt_iff_toInt_lt, hbase]
  split
  · simp only [Int32.toInt_sub, Int32.toInt_add, hbase, hmax, hfirst, Int.bmod_def]
    omega
  · simp only [Int32.toInt_sub, hfirst, Int.bmod_def]
    omega

lemma unsol_response_info_eq (table : List UnsolResponseInfo) (code : Int32) : unsolResponseInfo table code =
    if 0 ≤ (unsolResponseIndex code).toInt then table[(unsolResponseIndex code).toInt.toNat]? else none := by
  rw [unsolResponseInfo]
  generalize (unsolResponseIndex code).toInt = i
  by_cases h : 0 ≤ i
  · rw [if_pos h]
    by_cases hi : i < table.length
    · rw [if_neg (by omega)]
    · rw [if_pos (by omega), List.getElem?_eq_none (by omega)]
  · rw [if_neg h, if_pos (by omega)]

lemma unsol_response_info_none
    (h : ¬(0 ≤ (unsolResponseIndex code).toInt ∧ (unsolResponseIndex code).toInt < table.length)) :
    unsolResponseInfo table code = none := by
  rw [unsol_response_info_eq]
  split
  · rw [List.getElem?_eq_none (by omega)]
  · rfl

lemma numbered_not_mem
    (hnumbered : ∀ (i : ℕ) entry, table[i]? = some entry → entry.requestNumber.toInt = 1000 + (i : ℤ))
    (hout : code.toInt < 1000 ∨ 1000 + table.length ≤ code.toInt) : ∀ entry ∈ table, entry.requestNumber ≠ code := by
  rintro entry hmem rfl
  obtain ⟨i, hi, he⟩ := List.getElem_of_mem hmem
  have hnumber := hnumbered i entry (List.getElem?_eq_some_iff.mpr ⟨hi, he⟩)
  omega

/-- In a table that is numbered without a gap the Samsung codes are found behind the last standard code that the fold
was made for. -/
lemma unsol_law_numbered
    (hnumbered : ∀ (i : ℕ) entry, table[i]? = some entry → entry.requestNumber.toInt = 1000 + (i : ℤ))
    (hlength : table.length ≤ 10001) :
    UnsolLaw table code ↔ ¬(11000 < code.toInt ∧ code.toInt < 10964 + table.length) := by
  have hlt := Int32.toInt_lt code
  have hle := Int32.le_toInt code
  have hindex := unsol_response_index_toInt code
  rw [UnsolLaw]
  by_cases hin : 0 ≤ (unsolResponseIndex code).toInt ∧ (unsolResponseIndex code).toInt < table.length
  · have hi : (unsolResponseIndex code).toInt.toNat < table.length := by omega
    rw [unsol_response_info_eq, if_pos hin.1, List.getElem?_eq_getElem hi, Option.elim_some]
    have hnumber := hnumbered _ _ (List.getElem?_eq_getElem hi)
    constructor
    · intro h
      rw [h] at hnumber
      split at hindex
      · omega
      · omega
    · intro h
      refine Int32.toInt_inj.mp ?_
      rw [hnumber]
      split at hindex
      · omega
      · split at hindex <;> omega
  · rw [unsol_response_info_none hin, Option.elim_none]
    refine iff_of_true (numbered_not_mem hnumbered ?_) ?_
    · split at hindex
      · omega
      · split at hindex <;> omega
    · split at hindex
      · omega
      · omega

lemma checked_number_eq (i : ℕ) : checkedNumber i = if i < 37 then 1000 + (i : ℤ) else 9964 + i := by
  have hbase : rilUnsolResponseBase.toInt = 1000 := rfl
  have hmax : maxRilUnsol.toInt = 1036 := rfl
  have hsamsung : samsungUnsolResponseBase.toInt = 11000 := rfl
  rw [checkedNumber, hbase, hmax, hsamsung]
  by_cases h : i < 37
  · rw [if_neg (by omega), if_pos h]
    omega
  · rw [if_pos (by omega), if_neg h]
    omega

lemma unsol_responses_checked_iff : unsolResponsesChecked table = true ↔
    ∀ (i : ℕ) entry, table[i]? = some entry → entry.requestNumber.toInt = checkedNumber i := by
  rw [unsolResponsesChecked, List.all_eq_true]
  constructor
  · intro h i entry he
    have hi := h i (List.mem_range.mpr (List.getElem?_eq_some_iff.mp he).1)
    rw [he, Option.all_some, decide_eq_true_eq] at hi
    exact hi.symm
  · intro h i hi
    cases he : table[i]? with
    | none => rfl
    | some entry =>
      rw [Option.all_some, decide_eq_true_eq]
      exact (h i entry he).symm

lemma unsol_responses_checked_map : unsolResponsesChecked table = true ↔
    table.map (fun entry => entry.requestNumber.toInt) =
      (List.range table.length).map fun i : ℕ => if i < 37 then 1000 + (i : ℤ) else 9964 + i := by
  rw [unsol_responses_checked_iff]
  constructor
  · intro h
    refine List.ext_getElem? fun i => ?_
    rw [List.getElem?_map, List.getElem?_map]
    cases he : table[i]? with
    | none =>
      have hi : (List.range table.length).length ≤ i := by
        rw [List.length_range]
        exact List.getElem?_eq_none_iff.mp he
      rw [List.getElem?_eq_none hi]
      rfl
    | some entry =>
      have hi := (List.getElem?_eq_some_iff.mp he).1
      rw [List.getElem?_range hi, Option.map_some, Option.map_some, h i entry he, checked_number_eq]
  · intro h i entry he
    have hi := (List.getElem?_eq_some_iff.mp he).1
    have hget := congrArg (fun numbers => numbers[i]?) h
    rw [List.getElem?_map, List.getElem?_map, he, List.getElem?_range hi, Option.map_some, Option.map_some,
      Option.some.injEq] at hget
    rw [hget, checked_number_eq]

/-- The two codes that are folded to the place behind the 37th entry cannot both have it. -/
lemma unsol_law_short (h : ∀ code, UnsolLaw table code) : table.length ≤ 37 := by
  by_contra hlong
  have hlong : 37 < table.length := by omega
  have hentry (code : Int32) (hindex : (unsolResponseIndex code).toInt = 37) :
      table[37].requestNumber = code := by
    have hlaw := h code
    rw [UnsolLaw, unsol_response_info_eq, hindex, if_pos (by decide)] at hlaw
    have hget : table[(37 : ℤ).toNat]? = some table[37] := List.getElem?_eq_getElem hlong
    rwa [hget, Option.elim_some] at hlaw
  have hstandard := hentry 1037 (by decide)
  have hsamsung := hentry 11001 (by decide)
  exact absurd (hstandard.symm.trans hsamsung) (by decide)

/-- A short table is checked exactly if every code gets its own entry. -/
lemma unsol_checked_short (hlength : table.length ≤ 37) :
    unsolResponsesChecked table = true ↔ ∀ code, UnsolLaw table code := by
  rw [unsol_responses_checked_iff]
  constructor
  · intro h code
    refine (unsol_law_numbered (fun i entry he => ?_) (by omega)).mpr (by omega)
    have hi := (List.getElem?_eq_some_iff.mp he).1
    rw [h i entry he, checked_number_eq, if_pos (by omega)]
  · intro h i entry he
    have hi := (List.getElem?_eq_some_iff.mp he).1
    obtain ⟨code, hcode⟩ : ∃ code : Int32, code.toInt = 1000 + (i : ℤ) :=
      ⟨Int32.ofInt (1000 + i), Int32.toInt_ofInt_of_le (by omega) (by omega)⟩
    have hindex : (unsolResponseIndex code).toInt = i := by
      rw [unsol_response_index_toInt, if_neg (by omega), if_pos (by omega)]
      omega
    have hlaw := h code
    rw [UnsolLaw, unsol_response_info_eq, hindex, if_pos (by omega), Int.toNat_natCast, he, Option.elim_some] at hlaw
    rw [hlaw, hcode, checked_number_eq, if_pos (by omega)]

lemma s_unsol_responses_numbered (i : ℕ) (entry : UnsolResponseInfo) (h : sUnsolResponses[i]? = some entry) :
    entry.requestNumber.toInt = 1000 + (i : ℤ) := by
  have hall : ∀ i : ℕ, i < 42 → (sUnsolResponses[i]?.all fun entry =>
      entry.requestNumber.toInt == 1000 + (i : ℤ)) = true := by decide +kernel
  have hi := hall i (List.getElem?_eq_some_iff.mp h).1
  rw [h, Option.all_some] at hi
  exact eq_of_beq hi

/-- In the table as it is, exactly the five Samsung codes behind the base get the entry of another code. And the
assertions hold of exactly the tables in which every code gets its own entry, except for the long tables that are
numbered as they want it: there no table is without a code that gets the entry of another one. -/
theorem unsol_table_law (code : Int32) (table : List UnsolResponseInfo) :
    (UnsolLaw sUnsolResponses code ↔ ¬(11001 ≤ code.toInt ∧ code.toInt ≤ 11005)) ∧
    ((unsolResponsesChecked table = true ↔ ∀ code, UnsolLaw table code) ↔
      table.length ≤ 37 ∨ table.map (fun entry => entry.requestNumber.toInt) ≠
        (List.range table.length).map fun i : ℕ => if i < 37 then 1000 + (i : ℤ) else 9964 + i) := by
  constructor
  · have hlength : (sUnsolResponses.length : ℤ) = 42 := rfl
    rw [unsol_law_numbered s_unsol_responses_numbered (by decide), hlength]
    omega
  · by_cases hlength : table.length ≤ 37
    · exact iff_of_true (unsol_checked_short hlength) (.inl hlength)
    · have hlaw : ¬∀ code, UnsolLaw table code := fun h => hlength (unsol_law_short h)
      rw [iff_false_right hlaw, or_iff_right hlength, unsol_responses_checked_map]

/-- The table as it is does not pass its own check. -/
theorem unsol_table_misread : unsolResponseInfo sUnsolResponses 11001 = some ⟨1037, .responseVoid, .wakePartial⟩ ∧
    ¬UnsolLaw sUnsolResponses 11001 ∧ unsolResponsesChecked sUnsolResponses = false := by
  have hentry : unsolResponseInfo sUnsolResponses 11001 = some ⟨1037, .responseVoid, .wakePartial⟩ := by decide +kernel
  refine ⟨hentry, fun h => ?_, by decide +kernel⟩
  rw [UnsolLaw, hentry, Option.elim_some] at h
  exact absurd h (by decide)

end Ril.Libril
