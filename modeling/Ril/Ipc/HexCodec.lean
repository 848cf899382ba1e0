import Mathlib.Algebra.Order.Ring.Int
import Ril.Ipc.Utils
import Ril.Lib.Buffer

/-! The loops that write a hexadecimal string and read one, on the blocks they allocate. -/

namespace Ril.Ipc

open Lib

def data2stringLength (data : Bytes) : ℕ := if data.isEmpty then 0 else data.length * 2 + 1

/-- `sprintf(p, "%02x", b)` writes a final NUL as well. -/
def data2stringLoop : Bytes → ℕ → Bytes → Option Bytes
  | [], _, block => some block
  | b :: data, p, block =>
    (copyInto block p [hexDigit (b.toNat / 16), hexDigit (b.toNat % 16), 0]).bind (data2stringLoop data (p + 2))

/-- The block that `data2string` returns for data that is not empty; `none` where it would write outside. -/
def data2stringBlock (data : Bytes) : Option Bytes :=
  data2stringLoop data 0 (List.replicate (data2stringLength data) 0)

structure Unpacking where
  shift : Int32
  p : ℕ
  data : Bytes
deriving DecidableEq

/-- `*p |= value`, unless it is outside -/
def orAt (data : Bytes) (p : ℕ) (value : UInt8) : Option Bytes := (data[p]?).map fun b => data.set p (b ||| value)

def string2dataStep (b : UInt8) (s : Unpacking) : Option Unpacking :=
  if s.shift % 2 = 0 then (orAt s.data s.p ((b &&& 0x0f) <<< 4)).map fun data => ⟨s.shift + 1, s.p, data⟩
  else (orAt s.data s.p (b &&& 0x0f)).map fun data => ⟨s.shift + 1, s.p + 1, data⟩

def string2dataLoop : CString → Unpacking → Option Unpacking
  | [], s => some s
  | c :: cs, s => (string2dataStep (UInt8.ofNat (scanHex (c :: cs))) s).bind (string2dataLoop cs)

/-- The block that `string2data` returns for a string that is not empty; `none` where it would write outside. -/
def string2dataBlock (string : CString) : Option Bytes :=
  (string2dataLoop string ⟨if string.length % 2 = 0 then 0 else 1, 0, List.replicate (string2dataSize string) 0⟩).map
    Unpacking.data

lemma string2data_size_eq (string : CString) : string2dataSize string =
    if string.length % 2 = 0 then string.length / 2 else (string.length - string.length % 2) / 2 + 1 := by
  rw [string2dataSize]
  split
  · omega
  · omega

/-! ### Writing -/

lemma data2string_loop_eq (data done : Bytes) : data2stringLoop data done.length
    (done ++ List.replicate (data.length * 2 + 1) 0) =
      some (done ++ (data.flatMap fun b => [hexDigit (b.toNat / 16), hexDigit (b.toNat % 16)]) ++ [0]) := by
  induction data generalizing done with
  | nil => simp [data2stringLoop]
  | cons b data ih =>
    have hfits : [hexDigit (b.toNat / 16), hexDigit (b.toNat % 16), 0].length ≤
        (List.replicate ((b :: data).length * 2 + 1) (0 : UInt8)).length := by
      simp only [List.length_replicate, List.length_cons, List.length_nil]
      omega
    rw [data2stringLoop, copy_into_frontier, if_pos hfits, Option.bind_some]
    have hroom : (List.replicate ((b :: data).length * 2 + 1) (0 : UInt8)).drop 3 = List.replicate (data.length * 2) 0 := by
      rw [List.drop_replicate, List.length_cons]
      congr 1
      omega
    have hblock : done ++ [hexDigit (b.toNat / 16), hexDigit (b.toNat % 16), 0] ++
        (List.replicate ((b :: data).length * 2 + 1) (0 : UInt8)).drop 3 =
        done ++ [hexDigit (b.toNat / 16), hexDigit (b.toNat % 16)] ++ List.replicate (data.length * 2 + 1) 0 := by
      rw [hroom, List.replicate_succ]
      simp only [List.append_assoc, List.cons_append, List.nil_append]
    have hnext := ih (done ++ [hexDigit (b.toNat / 16), hexDigit (b.toNat % 16)])
    rw [List.length_append] at hnext
    rw [List.length_cons, List.length_cons, List.length_singleton, hblock]
    refine hnext.trans ?_
    simp

lemma data2string_block_eq {data : Bytes} {string : CString} (h : data2string data = some string) :
    data2stringBlock data = some (string ++ [0]) := by
  rw [data2string] at h
  split at h
  · cases h
  · rename_i hne
    obtain rfl := Option.some.inj h
    rw [data2stringBlock, data2stringLength, if_neg hne]
    exact data2string_loop_eq data []

/-! ### Reading -/

lemma hex_value_lt {c : UInt8} {n : ℕ} (h : hexValue c = some n) : n < 16 := by
  rw [hexValue] at h
  split at h
  · obtain rfl := Option.some.inj h
    omega
  · split at h
    · obtain rfl := Option.some.inj h
      omega
    · split at h
      · obtain rfl := Option.some.inj h
        omega
      · cases h

lemma scan_hex_lt (string : CString) : scanHex string < 16 := by
  rw [scanHex]
  split
  · omega
  · rename_i c _ _
    cases h : hexValue c with
    | none => simp
    | some n => exact hex_value_lt h

lemma nibble_high {n : ℕ} (h : n < 16) : (0 : UInt8) ||| ((UInt8.ofNat n &&& 0x0f) <<< 4) = UInt8.ofNat (16 * n) := by
  have hall : ∀ n : Fin 16, (0 : UInt8) ||| ((UInt8.ofNat n.val &&& 0x0f) <<< 4) = UInt8.ofNat (16 * n.val) := by decide
  exact hall ⟨n, h⟩

lemma nibble_low {m n : ℕ} (hm : m < 16) (hn : n < 16) :
    UInt8.ofNat (16 * m) ||| (UInt8.ofNat n &&& 0x0f) = UInt8.ofNat (16 * m + n) := by
  have hall : ∀ m n : Fin 16, UInt8.ofNat (16 * m.val) ||| (UInt8.ofNat n.val &&& 0x0f) =
      UInt8.ofNat (16 * m.val + n.val) := by decide
  exact hall ⟨m, hm⟩ ⟨n, hn⟩

lemma or_at_frontier (done room : Bytes) (b value : UInt8) :
    orAt (done ++ b :: room) done.length value = some (done ++ (b ||| value) :: room) := by
  simp [orAt]

lemma shift_even_iff (shift : Int32) : shift % 2 = 0 ↔ shift.toInt % 2 = 0 := by
  have htwo : (2 : Int32).toInt = 2 := rfl
  have hzero : (0 : Int32).toInt = 0 := rfl
  rw [← Int32.toInt_inj, Int32.toInt_mod, htwo, hzero, ← Int.dvd_iff_tmod_eq_zero, ← Int.dvd_iff_emod_eq_zero]

/-- The parity survives an overflow of the counter. -/
lemma shift_succ_even_iff (shift : Int32) : (shift + 1) % 2 = 0 ↔ ¬shift % 2 = 0 := by
  have hone : (1 : Int32).toInt = 1 := rfl
  rw [shift_even_iff, shift_even_iff, Int32.toInt_add, hone, Int.bmod_def]
  omega

/-- The digits that are left are packed behind the bytes that are done; where their number is odd, the first one goes
into a byte that has its high half. -/
lemma string2data_loop_eq (string : CString) :
    (∀ done shift, shift % 2 = 0 → string.length % 2 = 0 →
      (string2dataLoop string ⟨shift, done.length, done ++ List.replicate (string.length / 2) 0⟩).map Unpacking.data =
        some (done ++ packNibbles (scanNibbles string))) ∧
    ∀ done shift n, ¬shift % 2 = 0 → n < 16 → string.length % 2 = 1 →
      (string2dataLoop string ⟨shift, done.length, done ++ UInt8.ofNat (16 * n) ::
        List.replicate (string.length / 2) 0⟩).map Unpacking.data =
        some (done ++ packNibbles (n :: scanNibbles string)) := by
  induction string with
  | nil =>
    refine ⟨fun done shift _ _ => ?_, fun _ _ _ _ _ h => absurd h (by decide)⟩
    simp [string2dataLoop, scanNibbles, packNibbles]
  | cons c cs ih =>
    have hlt := scan_hex_lt (c :: cs)
    refine ⟨fun done shift hs hl => ?_, fun done shift n hs hn hl => ?_⟩
    · rw [List.length_cons] at hl
      have hhalf : (c :: cs).length / 2 = cs.length / 2 + 1 := by
        rw [List.length_cons]
        omega
      rw [string2dataLoop, string2dataStep, if_pos hs, hhalf, List.replicate_succ, or_at_frontier, nibble_high hlt]
      exact ih.2 done (shift + 1) _ (fun h => (shift_succ_even_iff shift).mp h hs) hlt (by omega)
    · rw [List.length_cons] at hl
      have hhalf : (c :: cs).length / 2 = cs.length / 2 := by
        rw [List.length_cons]
        omega
      have hnext := ih.1 (done ++ [UInt8.ofNat (16 * n + scanHex (c :: cs))]) (shift + 1)
        ((shift_succ_even_iff shift).mpr hs) (by omega)
      rw [string2dataLoop, string2dataStep, if_neg hs, hhalf, or_at_frontier, nibble_low hn hlt]
      rw [List.length_append, List.append_assoc, List.append_assoc] at hnext
      exact hnext

/-- Every write stays inside the block, and what it holds at the end is the string's data. -/
lemma string2data_block_eq {string : CString} (h : string ≠ []) : string2dataBlock string = string2data string := by
  have hempty : ¬string.isEmpty = true := by simpa using h
  rw [string2dataBlock, string2data, if_neg hempty, string2data_size_eq]
  by_cases hl : string.length % 2 = 0
  · rw [if_pos hl, if_pos hl, if_pos hl]
    exact (string2data_loop_eq string).1 [] 0 rfl hl
  · have hsize : (string.length - string.length % 2) / 2 + 1 = string.length / 2 + 1 := by omega
    rw [if_neg hl, if_neg hl, if_neg hl, hsize, List.replicate_succ]
    exact (string2data_loop_eq string).2 [] 1 0 (by decide) (by decide) (by omega)

/-! ### The round trips -/

def isHexDigit (c : UInt8) : Bool := (hexValue c).isSome

def toLower (c : UInt8) : UInt8 := if 0x41 ≤ c.toNat ∧ c.toNat ≤ 0x5a then UInt8.ofNat (c.toNat + 0x20) else c

/-- A digit `0` is put before a string of odd length. -/
def padded (string : CString) : CString := if string.length % 2 = 0 then string else 0x30 :: string

lemma hex_digit_value {c : UInt8} (h : isHexDigit c = true) :
    ∃ n < 16, hexDigit n = toLower c ∧ ∀ rest, scanHex (c :: rest) = n := by
  have hall : ∀ n : Fin 256, isHexDigit (UInt8.ofNat n.val) = true → isSpace (UInt8.ofNat n.val) = false ∧
      hexDigit ((hexValue (UInt8.ofNat n.val)).getD 0) = toLower (UInt8.ofNat n.val) := by decide +kernel
  obtain ⟨hspace, hlower⟩ := hall ⟨c.toNat, c.toNat_lt⟩ (by rwa [UInt8.ofNat_toNat])
  rw [UInt8.ofNat_toNat] at hspace hlower
  obtain ⟨n, hn⟩ := Option.isSome_iff_exists.mp h
  rw [hn] at hlower
  exact ⟨n, hex_value_lt hn, hlower, fun rest => by simp [scanHex, hspace, hn]⟩

lemma pack_hex_digits : ∀ {string : CString}, (∀ c ∈ string, isHexDigit c = true) → string.length % 2 = 0 →
    ((packNibbles (scanNibbles string)).flatMap fun b => [hexDigit (b.toNat / 16), hexDigit (b.toNat % 16)]) =
      string.map toLower
  | [], _, _ => rfl
  | [_], _, hl => absurd hl Nat.one_ne_zero
  | c :: c' :: string, h, hl => by
    have ih := @pack_hex_digits string (fun d hd => h d (.tail _ (.tail _ hd)))
      (by rw [List.length_cons, List.length_cons] at hl; omega)
    obtain ⟨n, hn, hlower, hscan⟩ := hex_digit_value (h c (.head _))
    obtain ⟨n', hn', hlower', hscan'⟩ := hex_digit_value (h c' (.tail _ (.head _)))
    have hbyte : (UInt8.ofNat (16 * n + n')).toNat = 16 * n + n' := by
      rw [UInt8.toNat_ofNat']
      omega
    have hhigh : (16 * n + n') / 16 = n := by omega
    have hlow : (16 * n + n') % 16 = n' := by omega
    rw [scanNibbles, scanNibbles, hscan, hscan', packNibbles, List.flatMap_cons, ih, hbyte, hhigh, hlow, hlower, hlower']
    rfl

lemma string2data_padded {string : CString} (h : string ≠ []) :
    string2data string = some (packNibbles (scanNibbles (padded string))) := by
  have hempty : ¬string.isEmpty = true := by simpa using h
  rw [string2data, if_neg hempty, padded]
  split
  · rfl
  · have hzero : scanHex (0x30 :: string) = 0 := rfl
    rw [scanNibbles, hzero]

lemma padded_length (string : CString) : (padded string).length % 2 = 0 := by
  rw [padded]
  split
  · assumption
  · rw [List.length_cons]
    omega

lemma padded_digits {string : CString} (h : ∀ c ∈ string, isHexDigit c = true) :
    ∀ c ∈ padded string, isHexDigit c = true := by
  rw [padded]
  split
  · exact h
  · exact List.forall_mem_cons.mpr ⟨rfl, h⟩

lemma scan_length (string : CString) : (scanNibbles string).length = string.length := by
  induction string with
  | nil => rfl
  | cons c cs ih => rw [scanNibbles, List.length_cons, ih, List.length_cons]

lemma pack_length : ∀ nibbles : List ℕ, (packNibbles nibbles).length = nibbles.length / 2
  | [] => rfl
  | [n] => by simp [packNibbles]
  | _ :: _ :: nibbles => by
    rw [packNibbles, List.length_cons, pack_length nibbles, List.length_cons, List.length_cons]
    omega

/-- Data is written and read back, digits are read and written back in lower case with the padding, and for every
string all writes of the reader stay inside the block. -/
theorem hex_codec_round_trips :
    (∀ data : Bytes, data ≠ [] → ∃ string, data2stringBlock data = some (string ++ [0]) ∧ (0 : UInt8) ∉ string ∧
      string2dataBlock string = some data ∧ string2dataSize string = data.length) ∧
    (∀ string : CString, string ≠ [] → (∀ c ∈ string, isHexDigit c = true) → ∃ data,
      string2dataBlock string = some data ∧ data2stringBlock data = some ((padded string).map toLower ++ [0])) ∧
    ∀ string : CString, string ≠ [] → ∃ data,
      string2dataBlock string = some data ∧ data.length = string2dataSize string := by
  refine ⟨fun data hd => ?_, fun string hs hdigits => ?_, fun string hs => ?_⟩
  · have hempty : ¬data.isEmpty = true := by simpa using hd
    have hstring : data2string data = some _ := if_neg hempty
    have hlen := hex_digits_length data
    have hpos := List.length_pos_of_ne_nil hd
    refine ⟨_, data2string_block_eq hstring, fun h => hex_digits_ne_zero data 0 h rfl, ?_, ?_⟩
    · rw [string2data_block_eq (List.ne_nil_of_length_pos (by omega)), string2data_data2string hstring]
    · rw [string2dataSize, hlen]
      omega
  · have hdata := string2data_padded hs
    refine ⟨_, (string2data_block_eq hs).trans hdata, ?_⟩
    have hempty : ¬(packNibbles (scanNibbles (padded string))).isEmpty = true := by
      simpa using string_data_ne_nil hdata
    have hstring : data2string (packNibbles (scanNibbles (padded string))) = some _ := if_neg hempty
    rw [data2string_block_eq hstring, pack_hex_digits (padded_digits hdigits) (padded_length string)]
  · refine ⟨_, (string2data_block_eq hs).trans (string2data_padded hs), ?_⟩
    rw [pack_length, scan_length, padded, string2dataSize]
    split
    · omega
    · rw [List.length_cons]

end Ril.Ipc
