import Mathlib.Data.List.TakeWhile
import Ril.Samsung.Payload

/-! Which payloads are registered as they are. -/

namespace Ril.Samsung

open Ril.Ipc Ril.Libril

variable {w : PointerWidth} {version : ℤ}

lemma pointer_bytes_length (address : ℕ) : (w.pointerBytes address).length = w.bytes := by
  cases w <;> rfl

lemma width_pos : 0 < w.bytes := by
  cases w <;> decide

lemma string_cell_size {cell : PayloadCell} (h : cell.isString = true) : cell.size w = w.bytes := by
  cases cell with
  | bytes data => simp [PayloadCell.isString] at h
  | null => exact pointer_bytes_length 0
  | pointer address pointee => exact pointer_bytes_length address

/-! ### The scan -/

section

variable {data s rest : Bytes} {c : UInt8} {size : ℕ}

/-- What is taken for a string that ends before its last byte -/
def LooksShorter (data : Bytes) : Prop :=
  ∃ s rest, data = s ++ 0 :: rest ∧ s ≠ [] ∧ rest ≠ [] ∧ ∀ c ∈ s, isprint c = true

lemma scan_split (hs : ∀ c ∈ s, isprint c = true) (hc : isprint c = false) :
    detectedSize (s ++ c :: rest) size = some (if s ≠ [] ∧ c = 0 then s.length + 1 else size) := by
  have htake : (s ++ c :: rest).takeWhile isprint = s := by
    rw [List.takeWhile_append_of_pos hs, List.takeWhile_cons_of_neg (by simp [hc]), List.append_nil]
  have hget : (s ++ c :: rest)[s.length]? = some c := by simp
  simp only [detectedSize, htake, hget, List.length_pos_iff]

lemma scan_past_end (h : ∀ c ∈ data, isprint c = true) : detectedSize data size = none := by
  have htake : data.takeWhile isprint = data := List.takeWhile_eq_self_iff.mpr h
  simp [detectedSize, htake]

lemma first_unprintable (h : ∃ c ∈ data, isprint c = false) :
    ∃ s c rest, data = s ++ c :: rest ∧ (∀ c ∈ s, isprint c = true) ∧ isprint c = false := by
  induction data with
  | nil => simp at h
  | cons b data ih =>
    cases hb : isprint b with
    | false => exact ⟨[], b, data, rfl, by simp, hb⟩
    | true =>
      obtain ⟨c, hc, hp⟩ := h
      have hmem : c ∈ data := by
        rcases List.mem_cons.mp hc with rfl | hc
        · simp [hb] at hp
        · exact hc
      obtain ⟨s, d, rest, rfl, hs, hd⟩ := ih ⟨c, hmem, hp⟩
      refine ⟨b :: s, d, rest, rfl, ?_, hd⟩
      simpa [hb] using hs

lemma split_unique {s' rest' : Bytes} (h : s ++ c :: rest = s' ++ 0 :: rest') (hs : ∀ c ∈ s, isprint c = true)
    (hc : isprint c = false) (hs' : ∀ c ∈ s', isprint c = true) : s = s' ∧ c = 0 ∧ rest = rest' := by
  have htake : (s ++ c :: rest).takeWhile isprint = s := by
    rw [List.takeWhile_append_of_pos hs, List.takeWhile_cons_of_neg (by simp [hc]), List.append_nil]
  have htake' : (s' ++ 0 :: rest').takeWhile isprint = s' := by
    rw [List.takeWhile_append_of_pos hs', List.takeWhile_cons_of_neg (by decide), List.append_nil]
  have heq : s = s' := by rw [← htake, h, htake']
  subst heq
  simpa using h

/-- The scan keeps the size of data that are neither printable as a whole nor taken for something shorter. -/
lemma detected_size_iff : detectedSize data data.length = some data.length ↔
    (∃ c ∈ data, isprint c = false) ∧ ¬ LooksShorter data := by
  by_cases h : ∃ c ∈ data, isprint c = false
  · obtain ⟨s, c, rest, rfl, hs, hc⟩ := first_unprintable h
    rw [scan_split hs hc, Option.some.injEq]
    constructor
    · intro hsize
      refine ⟨h, ?_⟩
      rintro ⟨s', rest', heq, hne, hrest, hs'⟩
      obtain ⟨rfl, rfl, rfl⟩ := split_unique heq hs hc hs'
      rw [if_pos ⟨hne, rfl⟩, List.length_append, List.length_cons] at hsize
      have hlen := List.length_pos_iff.mpr hrest
      omega
    · rintro ⟨-, hshort⟩
      by_cases hstring : s ≠ [] ∧ c = 0
      · obtain ⟨hne, rfl⟩ := hstring
        have hrest : rest = [] := by
          by_contra hrest
          exact hshort ⟨s, rest, rfl, hne, hrest, hs⟩
        simp [hne, hrest]
      · rw [if_neg hstring]
  · have hall : ∀ c ∈ data, isprint c = true := by
      intro c hc
      by_contra hp
      exact h ⟨c, hc, by simpa using hp⟩
    simp [scan_past_end hall, h]

end

/-! ### The copies -/

section

variable {cells : List PayloadCell} {size : ℕ}

lemma cells_contents_length : (cellsContents w cells).length = cellsSize w cells := by
  simp only [cellsContents, cellsSize, List.length_flatMap]
  rfl

lemma memcpy_whole : memcpyCells w cells (cellsSize w cells) = some (cells.map PayloadCell.moved) := by
  induction cells with
  | nil => rfl
  | cons cell cells ih =>
    have hsize : cellsSize w (cell :: cells) = cell.size w + cellsSize w cells := by simp [cellsSize]
    rw [memcpyCells, if_pos (by omega), hsize, Nat.add_sub_cancel_left, ih]
    rfl

lemma moved_eq_copied_iff : cells.map PayloadCell.moved = cells.map PayloadCell.copied ↔
    ∀ cell ∈ cells, cell.isPointer = false := by
  rw [List.map_inj_left]
  apply forall₂_congr
  intro cell _
  cases cell <;> simp [PayloadCell.moved, PayloadCell.copied, PayloadCell.isPointer]

lemma register_block : rilRequestRegisterData w (some cells) (cellsSize w cells) =
    some ((Payload.block cells).faithful w) ↔ ∀ cell ∈ cells, cell.isPointer = false := by
  by_cases hzero : cellsSize w cells = 0
  · have hno : ∀ cell ∈ cells, cell.isPointer = false := by
      intro cell hcell
      have hsize : cell.size w = 0 := List.sum_eq_zero_iff_forall_eq_nat.mp hzero _ (List.mem_map_of_mem hcell)
      cases cell with
      | bytes data => rfl
      | null => rfl
      | pointer address pointee =>
        have hlen : (PayloadCell.pointer address pointee).size w = w.bytes := pointer_bytes_length address
        have hpos := width_pos (w := w)
        omega
    simpa only [rilRequestRegisterData, Payload.faithful, if_pos hzero, true_iff] using hno
  · rw [← moved_eq_copied_iff]
    simp [rilRequestRegisterData, Payload.faithful, hzero, memcpy_whole]

lemma registered_size {data : Option (List PayloadCell)} {registered : RegisteredData}
    (h : rilRequestRegisterData w data size = some registered) : registered.size = size := by
  simp only [rilRequestRegisterData] at h
  split at h
  · obtain rfl := Option.some.inj h
    exact (‹size = 0›).symm
  · cases data with
    | none => simp at h
    | some cells =>
      obtain ⟨copy, -, rfl⟩ := Option.map_eq_some_iff.mp h
      rfl

lemma strdup_string {cell : PayloadCell} (h : cell.isString = true) : cell.strdup = some cell.copied := by
  cases cell with
  | bytes data => simp [PayloadCell.isString] at h
  | null => rfl
  | pointer address pointee =>
    cases pointee with
    | string value => rfl
    | record content strings => simp [PayloadCell.isString] at h

lemma strdup_all (h : ∀ cell ∈ cells, cell.isString = true) :
    cells.mapM PayloadCell.strdup = some (cells.map PayloadCell.copied) := by
  induction cells with
  | nil => rfl
  | cons cell cells ih =>
    rw [List.mapM_cons, strdup_string (h cell List.mem_cons_self), ih fun cell hmem => h cell (List.mem_cons_of_mem _ hmem)]
    rfl

lemma string_not_record {cell : PayloadCell} (h : cell.isString = true) : cell.isRecord = false := by
  cases cell with
  | bytes data => rfl
  | null => rfl
  | pointer address pointee =>
    cases pointee with
    | string value => rfl
    | record content strings => simp [PayloadCell.isString] at h

lemma field_cell_size {field : PayloadField} {cell : PayloadCell} (h : FieldCell w field cell) :
    cell.size w = field.size w := by
  cases field with
  | string => exact string_cell_size h
  | kept bytes => exact h.1

variable {fields : List PayloadField}

lemma struct_size_eq (h : List.Forall₂ (FieldCell w) fields cells) : cellsSize w cells = structSize w fields := by
  induction h with
  | nil => rfl
  | cons hfield _ ih =>
    have hcell := field_cell_size hfield
    simp only [cellsSize, structSize, List.map_cons, List.sum_cons] at ih ⊢
    omega

lemma kept_copied_iff {bytes : ℕ} {cell : PayloadCell} (h : FieldCell w (.kept bytes) cell) :
    cell.moved = cell.copied ↔ cell.isRecord = false := by
  have hpointer := h.2
  cases cell with
  | bytes data => simp [PayloadCell.moved, PayloadCell.copied, PayloadCell.isRecord]
  | null => simp [PayloadCell.moved, PayloadCell.copied, PayloadCell.isRecord]
  | pointer address pointee =>
    have hrecord := hpointer rfl
    simp [PayloadCell.moved, PayloadCell.copied, hrecord]

/-- The buffer for a structure is a copy unless a field that is kept leads somewhere. -/
lemma copy_fields_iff (h : List.Forall₂ (FieldCell w) fields cells) :
    copyFields fields cells = some (cells.map PayloadCell.copied) ↔ ∀ cell ∈ cells, cell.isRecord = false := by
  induction h with
  | nil => simp [copyFields]
  | @cons field cell fields cells hfield _ ih =>
    rw [List.forall_mem_cons, ← ih]
    cases field with
    | string =>
      rw [copyFields, strdup_string hfield]
      cases copyFields fields cells <;> simp [string_not_record hfield]
    | kept bytes =>
      rw [copyFields, ← kept_copied_iff hfield]
      cases copyFields fields cells <;> simp

end

/-! ### The payloads -/

section

variable {request : RilRequestCode} {cells : List PayloadCell} {number : ℤ} {payload : Payload}

/-- When a payload is registered faithfully -/
def Copyable (w : PointerWidth) (kind : CopyKind) : Payload → Prop
  | .null size => size = 0
  | .string value => (value ≠ [] ∧ ∀ c ∈ value, isprint c = true) ∨ value.length + 1 = w.bytes
  | .block cells =>
    match kind with
    | .detected => (∀ cell ∈ cells, cell.isPointer = false) ∧ (cellsSize w cells = w.bytes →
        (∃ c ∈ cellsContents w cells, isprint c = false) ∧ ¬ LooksShorter (cellsContents w cells))
    | _ => ∀ cell ∈ cells, cell.isRecord = false

lemma null_carried {size : ℕ} : rilOnRequestData w version request (Payload.null size).data ((Payload.null size).size w) =
    some ((Payload.null size).faithful w) ↔ size = 0 := by
  by_cases hsize : size = 0 <;>
    simp [rilOnRequestData, rilRequestRegisterData, Payload.data, Payload.size, Payload.faithful, hsize]

lemma struct_carried {fields : List PayloadField} (hkind : copyKind w version request = .struct fields)
    (hpos : 0 < structSize w fields) (h : List.Forall₂ (FieldCell w) fields cells) :
    rilOnRequestData w version request (some cells) (cellsSize w cells) = some ((Payload.block cells).faithful w) ↔
      ∀ cell ∈ cells, cell.isRecord = false := by
  have hsize := struct_size_eq h
  rw [← copy_fields_iff h]
  simp only [rilOnRequestData, hkind, Payload.faithful, hsize, lt_irrefl, if_false, if_neg hpos.ne']
  cases copyFields fields cells <;> simp

lemma strings_carried (hkind : copyKind w version request = .strings) (h : ∀ cell ∈ cells, cell.isString = true) :
    rilOnRequestData w version request (some cells) (cellsSize w cells) = some ((Payload.block cells).faithful w) := by
  have hsum : cellsSize w cells = cells.length * w.bytes := by
    have hall : ∀ n ∈ cells.map (PayloadCell.size w), n = w.bytes := by
      intro n hn
      obtain ⟨cell, hcell, rfl⟩ := List.mem_map.mp hn
      exact string_cell_size (h cell hcell)
    rw [cellsSize, List.eq_replicate_of_mem hall]
    simp
  have hdiv : cellsSize w cells / w.bytes = cells.length := by rw [hsum, Nat.mul_div_cancel _ width_pos]
  cases cells with
  | nil => simp [rilOnRequestData, hkind, rilRequestRegisterData, Payload.faithful, cellsSize]
  | cons cell rest =>
    have hne : cellsSize w (cell :: rest) ≠ 0 := by
      rw [hsum, List.length_cons]
      exact Nat.mul_ne_zero (by omega) width_pos.ne'
    simp [rilOnRequestData, hkind, hdiv, strdup_all h, Payload.faithful, hne]

lemma string_registered {value : CString} {size : ℕ} :
    rilRequestRegisterData w (Payload.string value).data size = some ((Payload.string value).faithful w) ↔
      value.length + 1 = size := by
  constructor
  · intro h
    exact registered_size h
  · rintro rfl
    have hwhole : memcpyCells w _ (cellsSize w [.bytes (value ++ [0])]) = _ := memcpy_whole
    have hsize : cellsSize w [.bytes (value ++ [0])] = value.length + 1 := by
      simp [cellsSize, PayloadCell.size, PayloadCell.contents]
    rw [hsize] at hwhole
    simp [rilRequestRegisterData, Payload.data, Payload.faithful, hwhole, PayloadCell.moved]

lemma string_carried {value : CString} (hkind : copyKind w version request = .detected) (hvalue : (0 : UInt8) ∉ value) :
    rilOnRequestData w version request (Payload.string value).data ((Payload.string value).size w) =
        some ((Payload.string value).faithful w) ↔
      (value ≠ [] ∧ ∀ c ∈ value, isprint c = true) ∨ value.length + 1 = w.bytes := by
  have hdata : rilOnRequestData w version request (Payload.string value).data ((Payload.string value).size w) =
      (detectedSize (value ++ [0]) w.bytes).bind (rilRequestRegisterData w (Payload.string value).data) := by
    have hcontents : cellsContents w [.bytes (value ++ [0])] = value ++ [0] := by
      simp [cellsContents, PayloadCell.contents]
    simp only [rilOnRequestData, Payload.data, Payload.size, hkind, hcontents, if_true]
    cases detectedSize (value ++ [0]) w.bytes with
    | none => rfl
    | some size => rfl
  by_cases hall : ∀ c ∈ value, isprint c = true
  · rw [hdata, scan_split hall (by decide)]
    by_cases hne : value = []
    · simp [hne, string_registered]
    · rw [if_pos ⟨hne, rfl⟩]
      exact iff_of_true (string_registered.mpr rfl) (.inl ⟨hne, hall⟩)
  · have hex : ∃ c ∈ value, isprint c = false := by
      simpa using hall
    obtain ⟨s, c, rest, rfl, hs, hc⟩ := first_unprintable hex
    have hzero : c ≠ 0 := by
      rintro rfl
      simp at hvalue
    have happend : s ++ c :: rest ++ [0] = s ++ c :: (rest ++ [0]) := by simp
    rw [hdata, happend, scan_split hs hc, if_neg (fun h => hzero h.2)]
    simp only [hall, and_false, false_or, Option.bind_some, string_registered]

lemma detected_carried (hkind : copyKind w version request = .detected) :
    rilOnRequestData w version request (some cells) (cellsSize w cells) = some ((Payload.block cells).faithful w) ↔
      (∀ cell ∈ cells, cell.isPointer = false) ∧ (cellsSize w cells = w.bytes →
        (∃ c ∈ cellsContents w cells, isprint c = false) ∧ ¬ LooksShorter (cellsContents w cells)) := by
  by_cases hsize : cellsSize w cells = w.bytes
  · have hpos : cellsSize w cells ≠ 0 := by
      rw [hsize]
      exact width_pos.ne'
    have hdetect : detectedSize (cellsContents w cells) (cellsContents w cells).length = _ ↔ _ := detected_size_iff
    rw [cells_contents_length] at hdetect
    simp only [hsize, forall_const]
    rw [← hdetect, ← register_block (w := w), hsize]
    simp only [rilOnRequestData, hkind, if_pos]
    cases hscan : detectedSize (cellsContents w cells) w.bytes with
    | none => simp
    | some size =>
      by_cases heq : size = w.bytes
      · simp [heq]
      · have hne : rilRequestRegisterData w (some cells) size ≠ some ((Payload.block cells).faithful w) := by
          intro h
          have hs := registered_size h
          rw [Payload.faithful, if_neg hpos] at hs
          exact heq (hs.symm.trans hsize)
        simp [hne, heq]
  · have hreg : rilOnRequestData w version request (some cells) (cellsSize w cells) =
        rilRequestRegisterData w (some cells) (cellsSize w cells) := by
      simp [rilOnRequestData, hkind, hsize]
    rw [hreg, register_block]
    simp [hsize]

/-- The function of libril for each code that the `switch` lists -/
def switchFunction : RilRequestCode → Option DispatchFunction
  | .dial => some .dispatchDial
  | .writeSmsToSim => some .dispatchSmsWrite
  | .simIo => some .dispatchSimIo
  | .setupDataCall => some .dispatchDataCall
  | .sendSms | .sendSmsExpectMore | .queryFacilityLock | .setFacilityLock | .enterSimPin | .enterSimPuk
  | .enterSimPin2 | .enterSimPuk2 | .changeSimPin | .changeSimPin2 | .deactivateDataCall => some .dispatchStrings
  | _ => none

lemma switch_functions : ∀ entry ∈ sCommands, ∀ function, entry.dispatchFunction = some function →
    ∀ expected, switchFunction (.ofNumber entry.requestNumber) = some expected → function = expected := by
  have h : (sCommands.all fun entry => entry.dispatchFunction.all fun function =>
      (switchFunction (.ofNumber entry.requestNumber)).all fun expected => function == expected) = true := by
    decide +kernel
  intro entry hentry function hfunction expected hexpected
  have he := List.all_eq_true.mp h entry hentry
  simpa [hfunction, hexpected] using he

lemma switch_kind (w : PointerWidth) (version : ℤ) (request : RilRequestCode) :
    match switchFunction request with
    | some .dispatchDial => copyKind w version request = .struct (rilDial w)
    | some .dispatchSmsWrite => copyKind w version request = .struct (rilSmsWriteArgs w)
    | some .dispatchSimIo => copyKind w version request = .struct (simIoFields w version)
    | some .dispatchStrings | some .dispatchDataCall => copyKind w version request = .strings
    | some _ => False
    | none => copyKind w version request = .detected := by
  cases request <;> rfl

lemma sim_io_size : 0 < structSize w (simIoFields w version) := by
  rw [simIoFields]
  split <;> cases w <;> decide

lemma passed_string {function : DispatchFunction} {value : CString}
    (h : PassedBy w version function (.string value)) : (0 : UInt8) ∉ value := by
  cases function with
  | dispatchString =>
    obtain hnull | ⟨v, hv, heq⟩ := h
    · cases hnull
    · cases heq
      exact hv
  | _ => simp [PassedBy] at h

lemma kind_cases (h : Passed w version number payload) :
    (∃ fields cells, copyKind w version (.ofNumber number) = .struct fields ∧ 0 < structSize w fields ∧
      List.Forall₂ (FieldCell w) fields cells ∧ payload = .block cells) ∨
    (copyKind w version (.ofNumber number) = .strings ∧ (payload = .null 0 ∨
      ∃ cells, (∀ cell ∈ cells, cell.isString = true) ∧ payload = .block cells)) ∨
    (copyKind w version (.ofNumber number) = .detected ∧ ∀ value, payload = .string value → (0 : UInt8) ∉ value) := by
  obtain ⟨entry, hentry, rfl, function, hfunction, hpassed⟩ := h
  have hexpected := switch_functions entry hentry function hfunction
  have hkind := switch_kind w version (.ofNumber entry.requestNumber)
  cases hswitch : switchFunction (.ofNumber entry.requestNumber) with
  | none =>
    rw [hswitch] at hkind
    refine .inr (.inr ⟨hkind, ?_⟩)
    rintro value rfl
    exact passed_string hpassed
  | some expected =>
    obtain rfl := hexpected expected hswitch
    rw [hswitch] at hkind
    cases function with
    | dispatchDial =>
      obtain ⟨cells, hcells, rfl⟩ := hpassed
      exact .inl ⟨_, cells, hkind, by cases w <;> decide, hcells, rfl⟩
    | dispatchSmsWrite =>
      obtain ⟨cells, hcells, rfl⟩ := hpassed
      exact .inl ⟨_, cells, hkind, by cases w <;> decide, hcells, rfl⟩
    | dispatchSimIo =>
      obtain ⟨cells, hcells, rfl⟩ := hpassed
      exact .inl ⟨_, cells, hkind, sim_io_size, hcells, rfl⟩
    | dispatchStrings => exact .inr (.inl ⟨hkind, hpassed⟩)
    | dispatchDataCall => exact .inr (.inl ⟨hkind, hpassed⟩)
    | _ => exact hkind.elim

/-- A payload of libril is carried faithfully exactly if it is no `NULL` string; if it is a lone string, it is
printable and not empty, or as long as a pointer; if its strings are copied, it has no other pointers; and else it has
no pointers, and when it has the size of one, it is not taken for a string. -/
theorem payload_carried (h : Passed w version number payload) :
    rilOnRequestData w version (.ofNumber number) payload.data (payload.size w) = some (payload.faithful w) ↔
      Copyable w (copyKind w version (.ofNumber number)) payload := by
  rcases kind_cases h with ⟨fields, cells, hkind, hpos, hcells, rfl⟩ | ⟨hkind, hpayload⟩ | ⟨hkind, hstring⟩
  · rw [hkind]
    exact struct_carried hkind hpos hcells
  · rw [hkind]
    obtain rfl | ⟨cells, hcells, rfl⟩ := hpayload
    · exact null_carried
    · refine iff_of_true (strings_carried hkind hcells) ?_
      intro cell hcell
      exact string_not_record (hcells cell hcell)
  · rw [hkind]
    cases payload with
    | null size => exact null_carried
    | string value => exact string_carried hkind (hstring value rfl)
    | block cells => exact detected_carried hkind

lemma ints_passed {number : ℤ} {response : Option ResponseFunction} {values : List Int32}
    (h : ⟨number, some .dispatchInts, response⟩ ∈ sCommands) (hne : values ≠ []) : Passed w version number
      (.block [.bytes (values.flatMap fun value => intBytes value.toUInt32.toNat)]) :=
  ⟨_, h, rfl, _, rfl, values, hne, rfl⟩

/-- Two numbers have the size of a pointer of 64 bits. -/
theorem payload_carried_acknowledge :
    rilOnRequestData .bits64 11 (.ofNumber 37) (some [.bytes [1, 0, 0, 0, 0, 0, 0, 0]]) 8 =
      some { size := 8, data := [.bytes [1, 0, 0, 0, 0, 0, 0, 0]] } := by
  have hpassed : Passed .bits64 11 37 (.block [.bytes [1, 0, 0, 0, 0, 0, 0, 0]]) :=
    @ints_passed _ _ _ (some .responseVoid) [1, 0] (by decide) (by decide)
  refine (payload_carried hpassed).mpr ⟨by decide, ?_⟩
  intro _
  exact detected_size_iff.mp rfl

/-- The index 65 of a message to delete is taken for the string `A`, and what is read for the four letters of another
one goes on behind the number. -/
theorem payload_carried_fails :
    Passed .bits32 11 64 (.block [.bytes [65, 0, 0, 0]]) ∧
    rilOnRequestData .bits32 11 (.ofNumber 64) (some [.bytes [65, 0, 0, 0]]) 4 =
      some { size := 2, data := [.bytes [65, 0]] } ∧
    (Payload.block [.bytes [65, 0, 0, 0]]).faithful .bits32 = { size := 4, data := [.bytes [65, 0, 0, 0]] } ∧
    Passed .bits32 11 64 (.block [.bytes [65, 66, 67, 68]]) ∧
    rilOnRequestData .bits32 11 (.ofNumber 64) (some [.bytes [65, 66, 67, 68]]) 4 = none := by
  have hfirst : Passed .bits32 11 64 (.block [.bytes [65, 0, 0, 0]]) :=
    @ints_passed _ _ _ (some .responseVoid) [65] (by decide) (by decide)
  have hsecond : Passed .bits32 11 64 (.block [.bytes [65, 66, 67, 68]]) :=
    @ints_passed _ _ _ (some .responseVoid) [1145258561] (by decide) (by decide)
  exact ⟨hfirst, by decide, by decide, hsecond, by decide⟩

end

end Ril.Samsung
