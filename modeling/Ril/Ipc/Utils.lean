import Ril.Ipc.Message

/-! Hexadecimal strings and the generic answer of the modem. -/

namespace Ril.Ipc

def hexValue (c : UInt8) : Option ℕ :=
  if 0x30 ≤ c.toNat ∧ c.toNat ≤ 0x39 then some (c.toNat - 0x30)
  else if 0x61 ≤ c.toNat ∧ c.toNat ≤ 0x66 then some (c.toNat - 0x61 + 10)
  else if 0x41 ≤ c.toNat ∧ c.toNat ≤ 0x46 then some (c.toNat - 0x41 + 10)
  else none

def isSpace (c : UInt8) : Bool := c == 0x20 || (0x09 ≤ c.toNat && c.toNat ≤ 0x0d)

/-- `sscanf(string, "%01x", &b)`, which skips white space first; a failure leaves 0. -/
def scanHex (string : CString) : ℕ :=
  match string.dropWhile isSpace with
  | [] => 0
  | c :: _ => (hexValue c).getD 0

def scanNibbles : CString → List ℕ
  | [] => []
  | c :: cs => scanHex (c :: cs) :: scanNibbles cs

def packNibbles : List ℕ → Bytes
  | high :: low :: rest => UInt8.ofNat (16 * high + low) :: packNibbles rest
  | _ => []

def string2dataSize (string : CString) : ℕ := (string.length + 1) / 2

/-- The first digit of a string of odd length is the low nibble of the first byte. -/
def string2data (string : CString) : Option Bytes :=
  if string.isEmpty then none
  else if string.length % 2 = 0 then some (packNibbles (scanNibbles string))
  else some (packNibbles (0 :: scanNibbles string))

def hexDigit (n : ℕ) : UInt8 := if n < 10 then UInt8.ofNat (0x30 + n) else UInt8.ofNat (0x61 + n - 10)

def data2string (data : Bytes) : Option CString :=
  if data.isEmpty then none
  else some (data.flatMap fun b => [hexDigit (b.toNat / 16), hexDigit (b.toNat % 16)])

lemma hex_digits_length (data : Bytes) :
    (data.flatMap fun b => [hexDigit (b.toNat / 16), hexDigit (b.toNat % 16)]).length = 2 * data.length := by
  induction data with
  | nil => rfl
  | cons b data ih =>
    simp only [List.flatMap_cons, List.length_append, List.length_cons, List.length_nil, ih]
    omega

lemma hex_digits_ne_zero (data : Bytes) :
    ∀ c ∈ data.flatMap fun b => [hexDigit (b.toNat / 16), hexDigit (b.toNat % 16)], c ≠ 0 := by
  have hall : ∀ n : Fin 16, hexDigit n ≠ 0 := by decide
  intro c hc
  obtain ⟨b, -, hc⟩ := List.mem_flatMap.mp hc
  have hb : b.toNat < 256 := b.toNat_lt
  simp only [List.mem_cons, List.not_mem_nil, or_false] at hc
  rcases hc with rfl | rfl
  · exact hall ⟨b.toNat / 16, by omega⟩
  · exact hall ⟨b.toNat % 16, by omega⟩

lemma string_data_ne_nil {string : CString} {data : Bytes} (h : string2data string = some data) : data ≠ [] := by
  rw [string2data] at h
  match string with
  | [] => cases h
  | [c] =>
    obtain rfl : packNibbles [0, scanHex [c]] = data := Option.some.inj h
    exact List.cons_ne_nil _ _
  | c :: c' :: cs =>
    split at h
    · cases h
    · split at h
      · obtain rfl := Option.some.inj h
        exact List.cons_ne_nil _ _
      · obtain rfl := Option.some.inj h
        exact List.cons_ne_nil _ _

lemma scan_hex_digit {n : ℕ} (h : n < 16) (rest : CString) : scanHex (hexDigit n :: rest) = n := by
  have hall : ∀ n : Fin 16, isSpace (hexDigit n) = false ∧ hexValue (hexDigit n) = some n.val := by decide
  obtain ⟨hs, hv⟩ := hall ⟨n, h⟩
  simp only at hs hv
  simp [scanHex, hs, hv]

lemma pack_scanned (data : Bytes) :
    packNibbles (scanNibbles (data.flatMap fun b => [hexDigit (b.toNat / 16), hexDigit (b.toNat % 16)])) = data := by
  induction data with
  | nil => rfl
  | cons b data ih =>
    have hb := b.toNat_lt
    have hhigh : b.toNat / 16 < 16 := by omega
    have hlow : b.toNat % 16 < 16 := by omega
    have hsum : 16 * (b.toNat / 16) + b.toNat % 16 = b.toNat := by omega
    simp only [List.flatMap_cons, List.cons_append, List.nil_append, scanNibbles, scan_hex_digit hhigh,
      scan_hex_digit hlow, packNibbles, hsum, ih, UInt8.ofNat_toNat]

lemma string2data_data2string {data : Bytes} {string : CString} (h : data2string data = some string) :
    string2data string = some data := by
  rw [data2string] at h
  split at h
  · cases h
  · rename_i hne
    obtain rfl := Option.some.inj h
    have hlen := hex_digits_length data
    have hpos : 0 < data.length := List.length_pos_of_ne_nil (by simpa using hne)
    have hempty : (data.flatMap fun b => [hexDigit (b.toNat / 16), hexDigit (b.toNat % 16)]).isEmpty = false := by
      rw [List.isEmpty_eq_false_iff, ← List.length_pos_iff, hlen]
      omega
    rw [string2data, hempty, hlen, if_neg (by simp), if_pos (by omega), pack_scanned]

structure IpcGenPhoneResData where
  group : UInt8
  index : UInt8
  type : UInt8
  code : ℕ
deriving DecidableEq, Repr

def ipcGenPhoneResSize : ℕ := 5

def IpcGenPhoneResData.read (data : Bytes) : Option IpcGenPhoneResData :=
  if data.length < ipcGenPhoneResSize then none
  else some ⟨byteAt data 0, byteAt data 1, byteAt data 2, shortAt data 3⟩

/-- `IPC_COMMAND(group, index)` -/
def IpcGenPhoneResData.command (data : IpcGenPhoneResData) : ℕ :=
  256 * data.group.toNat + data.index.toNat

/-- `IPC_GEN_PHONE_RES_CODE_SUCCESS` is bit 15 of the code. -/
def ipcGenPhoneResCheck (data : IpcGenPhoneResData) : Bool := data.code.testBit 15

end Ril.Ipc
