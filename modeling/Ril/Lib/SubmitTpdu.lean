import Mathlib.Data.List.Basic

/-! The octets of a short message that is submitted: an SMS-SUBMIT TPDU. -/

namespace Ril.Lib

structure InformationElement where
  id : UInt8
  data : List UInt8
  fits : data.length < 256

namespace InformationElement

def octets (e : InformationElement) : List UInt8 := e.id :: UInt8.ofNat e.data.length :: e.data

/-- The total count of a concatenation element with a reference of 8 bits -/
def total (e : InformationElement) : Option UInt8 :=
  match e.id, e.data with
  | 0, [_, total, _] => some total
  | _, _ => none

end InformationElement

inductive ValidityPeriod
  | absent
  | relative (octet : UInt8)
  | enhanced (octets : List UInt8) (length : octets.length = 7)
  | absolute (octets : List UInt8) (length : octets.length = 7)

namespace ValidityPeriod

/-- The two bits in the first octet of the TPDU -/
def format : ValidityPeriod → ℕ
  | absent => 0
  | enhanced _ _ => 1
  | relative _ => 2
  | absolute _ _ => 3

def octets : ValidityPeriod → List UInt8
  | absent => []
  | relative octet => [octet]
  | enhanced octets _ | absolute octets _ => octets

end ValidityPeriod

structure SubmitTpdu where
  rejectDuplicates : Bool
  statusReport : Bool
  replyPath : Bool
  reference : UInt8
  /-- the length of the destination address, two digits to an octet -/
  digits : ℕ
  digits_lt : digits < 256
  addressType : UInt8
  address : List UInt8
  address_length : address.length = (digits + 1) / 2
  protocolId : UInt8
  codingScheme : UInt8
  validity : ValidityPeriod
  userDataLength : UInt8
  header : Option (List InformationElement)
  header_fits : ∀ es, header = some es → (es.flatMap InformationElement.octets).length < 256
  text : List UInt8

namespace SubmitTpdu

variable (t : SubmitTpdu)

def bit (b : Bool) (weight : ℕ) : ℕ := if b then weight else 0

/-- The type of the TPDU is 1. -/
def firstOctet : UInt8 :=
  UInt8.ofNat (1 + bit t.rejectDuplicates 4 + 8 * t.validity.format + bit t.statusReport 32 + bit t.header.isSome 64 +
    bit t.replyPath 128)

def userData : List UInt8 :=
  match t.header with
  | none => t.text
  | some es => UInt8.ofNat (es.flatMap InformationElement.octets).length :: es.flatMap InformationElement.octets ++ t.text

def octets : List UInt8 :=
  [t.firstOctet, t.reference, UInt8.ofNat t.digits, t.addressType] ++ t.address ++
    [t.protocolId, t.codingScheme] ++ t.validity.octets ++ t.userDataLength :: t.userData

/-- The message is one of several. -/
def Concatenated : Prop := ∃ es, t.header = some es ∧ ∃ e ∈ es, ∃ total, e.total = some total ∧ 1 < total.toNat

lemma octets_digits : t.octets[2]? = some (UInt8.ofNat t.digits) := rfl

/-- Where the user data start -/
def start : ℕ := 7 + (t.digits + 1) / 2 + t.validity.octets.length

lemma octets_user_data (i : ℕ) : t.octets[t.start + i]? = t.userData[i]? := by
  have hlen : ([t.firstOctet, t.reference, UInt8.ofNat t.digits, t.addressType] ++ t.address ++
      [t.protocolId, t.codingScheme] ++ t.validity.octets ++ [t.userDataLength]).length = t.start := by
    simp only [List.length_append, List.length_cons, List.length_nil, t.address_length, start]
    omega
  have ho : t.octets = ([t.firstOctet, t.reference, UInt8.ofNat t.digits, t.addressType] ++ t.address ++
      [t.protocolId, t.codingScheme] ++ t.validity.octets ++ [t.userDataLength]) ++ t.userData := by
    simp [octets]
  rw [ho, List.getElem?_append_right (by omega), hlen, Nat.add_sub_cancel_left]

end SubmitTpdu

end Ril.Lib
