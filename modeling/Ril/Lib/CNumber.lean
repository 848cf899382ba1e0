import Mathlib.Algebra.Order.Ring.Int
import Mathlib.Tactic.Common

/-! The numbers of C: what a size is as an `int`, and how a number stands in a memory. -/

namespace Ril.Lib

/-- An `int` that is converted from a size -/
def asInt (n : ℕ) : ℤ := (BitVec.ofNat 32 n).toInt

/-- A number in so many bytes, of which the lowest comes first -/
def numberBytes : ℕ → ℕ → List UInt8
  | 0, _ => []
  | bytes + 1, n => UInt8.ofNat n :: numberBytes bytes (n / 256)

def numberOfBytes : List UInt8 → ℕ
  | [] => 0
  | b :: bs => b.toNat + 256 * numberOfBytes bs

variable {n : ℕ}

lemma as_int_le (n : ℕ) : asInt n ≤ n := by
  rw [asInt, BitVec.toInt_eq_toNat_cond, BitVec.toNat_ofNat]
  split <;> omega

lemma as_int_of_lt (h : n < 2 ^ 31) : asInt n = n := by
  rw [asInt, BitVec.toInt_eq_toNat_of_lt (by rw [BitVec.toNat_ofNat]; omega), BitVec.toNat_ofNat,
    Nat.mod_eq_of_lt (by omega)]

lemma as_int_toNat (h : n < 2 ^ 31) : (asInt n).toNat = n := by
  rw [as_int_of_lt h, Int.toNat_natCast]

lemma number_of_bytes (bytes n : ℕ) : numberOfBytes (numberBytes bytes n) = n % 256 ^ bytes := by
  induction bytes generalizing n with
  | zero => rw [numberBytes, numberOfBytes, Nat.pow_zero, Nat.mod_one]
  | succ bytes ih =>
    have hpow : 256 ^ (bytes + 1) = 256 * 256 ^ bytes := Nat.pow_succ'
    rw [numberBytes, numberOfBytes, ih, UInt8.toNat_ofNat', hpow, Nat.mod_mul]

lemma number_bytes_length (bytes n : ℕ) : (numberBytes bytes n).length = bytes := by
  induction bytes generalizing n with
  | zero => rfl
  | succ bytes ih => rw [numberBytes, List.length_cons, ih]

lemma number_of_bytes_lt (bs : List UInt8) : numberOfBytes bs < 256 ^ bs.length := by
  induction bs with
  | nil => exact Nat.one_pos
  | cons b bs ih =>
    have hb := b.toNat_lt
    rw [numberOfBytes, List.length_cons, Nat.pow_succ']
    omega

lemma bytes_of_number (bs : List UInt8) : numberBytes bs.length (numberOfBytes bs) = bs := by
  induction bs with
  | nil => rfl
  | cons b bs ih =>
    have hb := b.toNat_lt
    have hlow : UInt8.ofNat (b.toNat + 256 * numberOfBytes bs) = b := by
      refine UInt8.toNat_inj.mp ?_
      rw [UInt8.toNat_ofNat']
      omega
    have hhigh : (b.toNat + 256 * numberOfBytes bs) / 256 = numberOfBytes bs := by omega
    rw [List.length_cons, numberOfBytes, numberBytes, hlow, hhigh, ih]

end Ril.Lib

/-! The conversions of the C library from strings to integers, for a `long` of so many bits. A string that does not
start with a number has none. -/

namespace Ril.Lib

def isspace (b : UInt8) : Bool := b == 0x20 || (0x09 ≤ b && b ≤ 0x0d)

def digitValue (b : UInt8) : Option ℕ :=
  if 0x30 ≤ b && b ≤ 0x39 then some (b.toNat - 0x30)
  else if 0x61 ≤ b && b ≤ 0x7a then some (b.toNat - 0x61 + 10)
  else if 0x41 ≤ b && b ≤ 0x5a then some (b.toNat - 0x41 + 10)
  else none

def digitIn (base : ℕ) (b : UInt8) : Option ℕ := (digitValue b).filter (· < base)

/-- The digits at the front -/
def leadingDigits (base : ℕ) : List UInt8 → List ℕ
  | [] => []
  | b :: s =>
    match digitIn base b with
    | none => []
    | some n => n :: leadingDigits base s

/-- `0x` belongs to the number in base 16 if a digit follows. -/
def skipHexPrefix (base : ℕ) : List UInt8 → List UInt8
  | 0x30 :: x :: b :: s =>
    if base = 16 && (x == 0x78 || x == 0x58) && (digitIn 16 b).isSome then b :: s else 0x30 :: x :: b :: s
  | s => s

/-- The sign and the digits -/
def scanNumber (base : ℕ) (s : List UInt8) : Option (Bool × ℕ) :=
  let s := s.dropWhile isspace
  let signed := match s with
    | 0x2d :: s => (true, s)
    | 0x2b :: s => (false, s)
    | s => (false, s)
  match leadingDigits base (skipHexPrefix base signed.2) with
  | [] => none
  | digits => some (signed.1, digits.foldl (fun n digit => n * base + digit) 0)

def strtol (longBits base : ℕ) (s : List UInt8) : Option ℤ :=
  (scanNumber base s).map fun r =>
    let n : ℤ := if r.1 then -r.2 else r.2
    max (-2 ^ (longBits - 1)) (min n (2 ^ (longBits - 1) - 1))

/-- A negative number is negated as an unsigned one. -/
def strtoul (longBits base : ℕ) (s : List UInt8) : Option ℕ :=
  (scanNumber base s).map fun r =>
    if 2 ^ longBits ≤ r.2 then 2 ^ longBits - 1
    else if r.1 then (2 ^ longBits - r.2) % 2 ^ longBits
    else r.2

end Ril.Lib

/-! Numbers as groups of seven bits, the low ones first; all groups but the last have the high bit set. -/

namespace Ril.Lib

/-- A number in at most so many groups -/
def varint : ℕ → ℕ → List UInt8
  | 0, _ => []
  | groups + 1, n => if n < 128 then [UInt8.ofNat n] else UInt8.ofNat (n % 128 + 128) :: varint groups (n / 128)

def readVarint : List UInt8 → Option (ℕ × List UInt8)
  | [] => none
  | b :: bytes =>
    if b.toNat < 128 then some (b.toNat, bytes)
    else (readVarint bytes).map fun r => (b.toNat - 128 + 128 * r.1, r.2)

lemma length_varint (groups n : ℕ) : (varint groups n).length ≤ groups := by
  induction groups generalizing n with
  | zero => exact Nat.le_refl 0
  | succ groups ih =>
    rw [varint]
    split
    · exact Nat.succ_le_succ (Nat.zero_le groups)
    · exact Nat.succ_le_succ (ih (n / 128))

lemma read_varint {groups n : ℕ} (h : n < 128 ^ (groups + 1)) (rest : List UInt8) :
    readVarint (varint (groups + 1) n ++ rest) = some (n, rest) := by
  induction groups generalizing n with
  | zero =>
    rw [Nat.zero_add, Nat.pow_one] at h
    have hbyte : (UInt8.ofNat n).toNat = n := by
      rw [UInt8.toNat_ofNat']
      omega
    rw [varint, if_pos h, List.cons_append, readVarint, hbyte, if_pos h]
    rfl
  | succ groups ih =>
    rw [varint]
    split
    next hsmall =>
      have hbyte : (UInt8.ofNat n).toNat = n := by
        rw [UInt8.toNat_ofNat']
        omega
      rw [List.cons_append, readVarint, hbyte, if_pos hsmall]
      rfl
    next hlarge =>
      have hbyte : (UInt8.ofNat (n % 128 + 128)).toNat = n % 128 + 128 := by
        rw [UInt8.toNat_ofNat']
        omega
      have hrest : n / 128 < 128 ^ (groups + 1) := by
        rw [Nat.div_lt_iff_lt_mul (by decide)]
        exact h
      rw [List.cons_append, readVarint, hbyte, if_neg (by omega), ih hrest, Option.map_some]
      refine congrArg some (Prod.ext ?_ rfl)
      dsimp only
      omega

end Ril.Lib
