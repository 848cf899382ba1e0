import Ril.Samsung.Network

/-! The operator of a PLMN, with all that `ipc2ril_net_operator` writes to its arguments. -/

namespace Ril.Samsung

open Ril.Ipc

/-- The value and the three strings that the arguments point to -/
structure NetOperatorOutputs where
  rc : Rc
  plmn : Option CString
  operatorLong : Option CString
  operatorShort : Option CString
deriving DecidableEq, Repr

/-- The `error` label -/
def NetOperatorOutputs.error : NetOperatorOutputs := ⟨.failed, none, none, none⟩

/-- `sscanf(buffer, "%3u%2u", &mcc, &mnc)` of some digits; `none` where less than two numbers are read -/
def scanPlmn (buffer : CString) : Option (ℕ × ℕ) :=
  if buffer.length < 4 then none
  else some (decimalValue (buffer.take 3), decimalValue ((buffer.drop 3).take 2))

def PlmnListEntry.isOf (mcc mnc : ℕ) (entry : PlmnListEntry) : Bool := entry.mcc == mcc && entry.mnc == mnc

/-- The loop over the `plmn_list`: a later entry replaces the names of the one before. -/
def plmnListNames (mcc mnc : ℕ) : List PlmnListEntry → Option CString × Option CString → Option CString × Option CString
  | [], names => names
  | entry :: rest, names =>
    plmnListNames mcc mnc rest (if entry.isOf mcc mnc then (some entry.operatorLong, some entry.operatorShort) else names)

/-- The call with pointers for the two names -/
def ipc2rilNetOperatorOutputs (plmnList : List PlmnListEntry) (data : Bytes) : NetOperatorOutputs :=
  let buffer := data.takeWhile isDigit
  if buffer = [] then .error
  else
    match scanPlmn buffer with
    | none => .error
    | some (mcc, mnc) =>
      match plmnListNames mcc mnc plmnList (none, none) with
      | (some operatorLong, some operatorShort) => ⟨.ok, some buffer, some operatorLong, some operatorShort⟩
      | _ => .error

variable {plmnList : List PlmnListEntry} {data : Bytes} {mcc mnc : ℕ}

/-- The last entry of a network -/
def lastOf (mcc mnc : ℕ) (plmnList : List PlmnListEntry) : Option PlmnListEntry :=
  plmnList.reverse.find? (·.isOf mcc mnc)

lemma is_of_iff {entry : PlmnListEntry} : entry.isOf mcc mnc = true ↔ entry.mcc = mcc ∧ entry.mnc = mnc := by
  simp [PlmnListEntry.isOf]

lemma last_of_cons (entry : PlmnListEntry) (rest : List PlmnListEntry) : lastOf mcc mnc (entry :: rest) =
    (lastOf mcc mnc rest).or (if entry.isOf mcc mnc then some entry else none) := by
  rw [lastOf, List.reverse_cons, List.find?_append, List.find?_singleton]
  rfl

lemma last_of_mem {entry : PlmnListEntry} (h : lastOf mcc mnc plmnList = some entry) :
    entry ∈ plmnList ∧ entry.mcc = mcc ∧ entry.mnc = mnc :=
  ⟨List.mem_reverse.mp (List.mem_of_find?_eq_some h), is_of_iff.mp (List.find?_some h)⟩

lemma last_of_none_iff : lastOf mcc mnc plmnList = none ↔ ∀ entry ∈ plmnList, ¬(entry.mcc = mcc ∧ entry.mnc = mnc) := by
  simp only [lastOf, List.find?_eq_none, List.mem_reverse, is_of_iff]

/-- The names that the loop ends with are those of the last entry. -/
lemma plmn_list_names_eq (plmnList : List PlmnListEntry) (names : Option CString × Option CString) :
    plmnListNames mcc mnc plmnList names =
      (lastOf mcc mnc plmnList).elim names fun entry => (some entry.operatorLong, some entry.operatorShort) := by
  induction plmnList generalizing names with
  | nil => rfl
  | cons entry rest ih =>
    rw [plmnListNames, ih, last_of_cons]
    cases lastOf mcc mnc rest with
    | some found => rfl
    | none =>
      by_cases h : entry.isOf mcc mnc = true
      · simp [h]
      · simp [h]

/-- What is written is the operator that the handlers use, or nothing. -/
lemma net_operator_outputs_eq (plmnList : List PlmnListEntry) (data : Bytes) :
    ipc2rilNetOperatorOutputs plmnList data = (ipc2rilNetOperator plmnList data).elim .error fun operator =>
      ⟨.ok, some operator.plmn, some operator.operatorLong, some operator.operatorShort⟩ := by
  have hlast (mcc mnc : ℕ) : plmnList.reverse.find? (fun e => e.mcc == mcc && e.mnc == mnc) = lastOf mcc mnc plmnList := rfl
  simp only [ipc2rilNetOperatorOutputs, ipc2rilNetOperator, scanPlmn, hlast]
  by_cases h : (data.takeWhile isDigit).length < 4
  · simp [h]
  · have hne : data.takeWhile isDigit ≠ [] := by
      intro h0
      rw [h0] at h
      exact h (by decide)
    simp only [h, hne, if_false, plmn_list_names_eq]
    cases lastOf (decimalValue ((data.takeWhile isDigit).take 3))
        (decimalValue (((data.takeWhile isDigit).drop 3).take 2)) plmnList with
    | none => rfl
    | some entry => rfl

/-! ### Network codes of two and of three digits -/

/-- The MCC and the MNC that a PLMN stands for: its first three digits, and all of the others -/
def plmnMcc (field : Bytes) : ℕ := decimalValue ((field.takeWhile isDigit).take 3)

def plmnMnc (field : Bytes) : ℕ := decimalValue ((field.takeWhile isDigit).drop 3)

/-- The MNC that is looked up has two digits. -/
def plmnShortMnc (field : Bytes) : ℕ := decimalValue (((field.takeWhile isDigit).drop 3).take 2)

/-- The operator of the PLMN is found if it is in the list, with its digits and its names. -/
structure LooksUp (plmnList : List PlmnListEntry) (field : Bytes) (outputs : NetOperatorOutputs) : Prop where
  found : outputs.rc = .ok ↔ ∃ entry ∈ plmnList, entry.mcc = plmnMcc field ∧ entry.mnc = plmnMnc field
  names : outputs.rc = .ok → ∃ entry ∈ plmnList, entry.mcc = plmnMcc field ∧ entry.mnc = plmnMnc field ∧
    outputs = ⟨.ok, some (field.takeWhile isDigit), some entry.operatorLong, some entry.operatorShort⟩
  failed : outputs.rc = .failed → outputs = .error

/-- The list has nothing under either code, or the same names. -/
def ListedAlike (plmnList : List PlmnListEntry) (mcc short mnc : ℕ) : Prop :=
  (∀ entry ∈ plmnList, entry.mcc = mcc → entry.mnc ≠ short ∧ entry.mnc ≠ mnc) ∨
    ∃ entry ∈ plmnList, entry.mcc = mcc ∧ entry.mnc = mnc ∧ ∃ last, lastOf mcc short plmnList = some last ∧
      last.operatorLong = entry.operatorLong ∧ last.operatorShort = entry.operatorShort

lemma listed_alike_self (plmnList : List PlmnListEntry) (mcc mnc : ℕ) : ListedAlike plmnList mcc mnc mnc := by
  cases h : lastOf mcc mnc plmnList with
  | none => exact .inl fun entry hm hc => ⟨fun hn => last_of_none_iff.mp h entry hm ⟨hc, hn⟩,
      fun hn => last_of_none_iff.mp h entry hm ⟨hc, hn⟩⟩
  | some last =>
    obtain ⟨hm, hc, hn⟩ := last_of_mem h
    exact .inr ⟨last, hm, hc, hn, last, h, rfl, rfl⟩

lemma outputs_of_last {field : Bytes} (h : 4 ≤ (field.takeWhile isDigit).length) (plmnList : List PlmnListEntry) :
    ipc2rilNetOperatorOutputs plmnList field =
      (lastOf (plmnMcc field) (plmnShortMnc field) plmnList).elim .error fun last =>
        ⟨.ok, some (field.takeWhile isDigit), some last.operatorLong, some last.operatorShort⟩ := by
  have hne : field.takeWhile isDigit ≠ [] := by
    intro h0
    rw [h0] at h
    exact absurd h (by decide)
  have hscan : scanPlmn (field.takeWhile isDigit) = some (plmnMcc field, plmnShortMnc field) := by
    rw [scanPlmn, if_neg (by omega)]
    rfl
  simp only [ipc2rilNetOperatorOutputs, hne, if_false, hscan, plmn_list_names_eq]
  cases lastOf (plmnMcc field) (plmnShortMnc field) plmnList with
  | none => rfl
  | some last => rfl

lemma looks_up_iff {field : Bytes} (h : 4 ≤ (field.takeWhile isDigit).length) (plmnList : List PlmnListEntry) :
    LooksUp plmnList field (ipc2rilNetOperatorOutputs plmnList field) ↔
      ListedAlike plmnList (plmnMcc field) (plmnShortMnc field) (plmnMnc field) := by
  rw [outputs_of_last h]
  cases hlast : lastOf (plmnMcc field) (plmnShortMnc field) plmnList with
  | none =>
    have hnone := last_of_none_iff.mp hlast
    constructor
    · rintro ⟨hfound, -, -⟩
      refine .inl fun entry hm hc => ⟨fun hn => hnone entry hm ⟨hc, hn⟩, fun hn => ?_⟩
      cases hfound.mpr ⟨entry, hm, hc, hn⟩
    · rintro (hno | ⟨-, -, -, -, last, hl, -⟩)
      · refine ⟨iff_of_false (by simp [NetOperatorOutputs.error]) ?_, by simp [NetOperatorOutputs.error], fun _ => rfl⟩
        rintro ⟨entry, hm, hc, hn⟩
        exact (hno entry hm hc).2 hn
      · rw [hlast] at hl
        cases hl
  | some last =>
    obtain ⟨hm, hc, hn⟩ := last_of_mem hlast
    constructor
    · rintro ⟨-, hnames, -⟩
      obtain ⟨entry, hm', hc', hn', he⟩ := hnames rfl
      simp only [Option.elim_some, NetOperatorOutputs.mk.injEq, Option.some.injEq, true_and] at he
      exact .inr ⟨entry, hm', hc', hn', last, hlast, he.1, he.2⟩
    · rintro (hno | ⟨entry, hm', hc', hn', last', hl, hlong, hshort⟩)
      · exact absurd hn (hno last hm hc).1
      · rw [hlast, Option.some.injEq] at hl
        subst hl
        refine ⟨iff_of_true rfl ⟨entry, hm', hc', hn'⟩, fun _ => ⟨entry, hm', hc', hn', ?_⟩, by simp⟩
        rw [Option.elim_some, hlong, hshort]

/-- The lookup is right for network codes of two digits. Of a code of three digits only the first two are compared
with the list, so it is right for those that the list has alike under both numbers. -/
theorem operator_lookup (plmnList : List PlmnListEntry) (field : Bytes)
    (hd : (field.takeWhile isDigit).length = 5 ∨ (field.takeWhile isDigit).length = 6) :
    LooksUp plmnList field (ipc2rilNetOperatorOutputs plmnList field) ↔
      (field.takeWhile isDigit).length = 5 ∨
        ListedAlike plmnList (plmnMcc field) (plmnShortMnc field) (plmnMnc field) := by
  rw [looks_up_iff (by omega)]
  refine ⟨.inr, ?_⟩
  rintro (h | h)
  · have hshort : plmnShortMnc field = plmnMnc field := by
      rw [plmnShortMnc, List.take_of_length_le (by rw [List.length_drop]; omega)]
      rfl
    rw [hshort]
    exact listed_alike_self _ _ _
  · exact h

/-- Two networks of the list -/
def twoNetworks : List PlmnListEntry :=
  [⟨262, 2, ascii ['V', 'o', 'd', 'a', 'f', 'o', 'n', 'e'], ascii ['V', 'o', 'd', 'a', 'f', 'o', 'n', 'e']⟩,
    ⟨310, 410, ascii ['A', 'T', '&', 'T'], ascii ['A', 'T', '&', 'T']⟩]

theorem operator_lookup_two_digits : LooksUp twoNetworks (ascii ['2', '6', '2', '0', '2', '#'])
    (ipc2rilNetOperatorOutputs twoNetworks (ascii ['2', '6', '2', '0', '2', '#'])) :=
  (operator_lookup twoNetworks (ascii ['2', '6', '2', '0', '2', '#']) (.inl (by decide))).mpr (.inl (by decide))

/-- A network code of three digits is not found. -/
theorem operator_lookup_three_digits :
    ipc2rilNetOperatorOutputs twoNetworks (ascii ['3', '1', '0', '4', '1', '0']) = .error ∧
      plmnMcc (ascii ['3', '1', '0', '4', '1', '0']) = 310 ∧ plmnMnc (ascii ['3', '1', '0', '4', '1', '0']) = 410 ∧
      ¬LooksUp twoNetworks (ascii ['3', '1', '0', '4', '1', '0'])
        (ipc2rilNetOperatorOutputs twoNetworks (ascii ['3', '1', '0', '4', '1', '0'])) := by
  refine ⟨by decide, by decide, by decide, fun h => ?_⟩
  have hrc := h.found.mpr ⟨⟨310, 410, ascii ['A', 'T', '&', 'T'], ascii ['A', 'T', '&', 'T']⟩, by decide, by decide⟩
  exact absurd hrc (by decide)

end Ril.Samsung
