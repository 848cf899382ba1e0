import Ril.Libril.Commands

/-! Reading the parameters of a command from its parcel. -/

namespace Ril.Libril

open Ril.Ipc

/-- The fields of the structures of `ril.h` that are read -/
inductive Parameter
  | pStrings | pInts
  | status | pdu | smsc
  | address | clir | uusType | uusDcs | uusLength
  | command | fileid | path | p1 | p2 | p3 | data | pin2 | aidPtr
  | sessionid | cla | instruction
  | reason | serviceClass | toa | number | timeSeconds
  | uTeleserviceID | bIsServicePresent | uServicecategory | digitMode | numberMode | numberType | numberPlan
  | numberOfDigits | digits | subaddressType | odd | subNumberOfDigits | subDigits | uBearerDataLen | aBearerData
  | uErrorClass | uSMSCauseCode
  | fromServiceId | toServiceId | fromCodeScheme | toCodeScheme | selected | serviceCategory | language
  | apn | protocol | authtype | username | password
  | itemID | value
  | slot | appIndex | subType | actStatus
  | authContext | authData | aid
  | profileId | authType | user | type | maxConnsTime | maxConns | waitTime | enabled
deriving DecidableEq, Repr

inductive ReadKind
  | int32 | byte | string
deriving DecidableEq, Repr

/-- A field and what is read for it. The field of `flag` is a byte that keeps an int. -/
inductive Field
  | int32 (name : Parameter)
  | flag (name : Parameter)
  | byte (name : Parameter)
  | string (name : Parameter)
deriving DecidableEq, Repr

def Field.kind : Field → ReadKind
  | int32 _ => .int32
  | flag _ => .int32
  | byte _ => .byte
  | string _ => .string

inductive Value
  | int32 (v : Int32)
  | byte (v : UInt8)
  | string (v : Option CString)
deriving DecidableEq

abbrev Parameters := List (Parameter × Value)

/-- The parcel, whether the last read of an int or a byte went well, and the variables that these reads fill: one that
fails leaves its variable. -/
structure ReadState (L : ParcelLib) where
  parcel : L.Parcel
  status : Bool
  t : Int32
  ut : UInt8

variable {L : ParcelLib}

namespace ReadState

def readInt32 (s : ReadState L) : ReadState L :=
  let r := L.readInt32 s.parcel
  { s with parcel := r.2, status := r.1.isSome, t := r.1.getD s.t }

def readByte (s : ReadState L) : ReadState L :=
  let r := L.read 1 s.parcel
  { s with parcel := r.2, status := r.1.isSome, ut := (r.1.map (byteAt · 0)).getD s.ut }

def strdupReadString (s : ReadState L) : Option CString × ReadState L :=
  let r := L.readString16 s.parcel
  (r.1, { s with parcel := r.2 })

def field (s : ReadState L) : Field → (Parameter × Value) × ReadState L
  | .int32 name => ((name, .int32 s.readInt32.t), s.readInt32)
  | .flag name => ((name, .byte s.readInt32.t.toUInt32.toUInt8), s.readInt32)
  | .byte name => ((name, .byte s.readByte.ut), s.readByte)
  | .string name => ((name, .string s.strdupReadString.1), s.strdupReadString.2)

def fields (s : ReadState L) : List Field → Parameters × ReadState L
  | [] => ([], s)
  | f :: fs =>
    let r := (s.field f).2.fields fs
    ((s.field f).1 :: r.1, r.2)

def records (s : ReadState L) (fs : List Field) : ℕ → List Parameters × ReadState L
  | 0 => ([], s)
  | n + 1 =>
    let r := (s.fields fs).2.records fs n
    ((s.fields fs).1 :: r.1, r.2)

/-- Ints of which each is checked -/
def checkedInts (s : ReadState L) : List Parameter → Option Parameters
  | [] => some []
  | name :: names =>
    if s.readInt32.status then (s.readInt32.checkedInts names).map ((name, .int32 s.readInt32.t) :: ·) else none

end ReadState

namespace ParcelLib

variable (L)

def skip (p : L.Parcel) : ReadKind → L.Parcel
  | .int32 => (L.readInt32 p).2
  | .byte => (L.read 1 p).2
  | .string => (L.readString16 p).2

/-- The parcel after the reads -/
def after (p : L.Parcel) (kinds : List ReadKind) : L.Parcel := kinds.foldl L.skip p

/-- The next read of the kind goes well. -/
def Has (p : L.Parcel) : ReadKind → Prop
  | .int32 => (L.readInt32 p).1.isSome = true
  | .byte => (L.read 1 p).1.isSome = true
  | .string => (L.readString16 p).1.isSome = true

end ParcelLib

namespace ReadState

lemma field_parcel (s : ReadState L) (f : Field) : (s.field f).2.parcel = L.skip s.parcel f.kind := by
  cases f <;> rfl

lemma fields_parcel (s : ReadState L) (fs : List Field) :
    (s.fields fs).2.parcel = L.after s.parcel (fs.map Field.kind) := by
  induction fs generalizing s with
  | nil => rfl
  | cons f fs ih =>
    rw [fields]
    dsimp only
    rw [ih, field_parcel]
    rfl

lemma fields_append (s : ReadState L) (fs gs : List Field) :
    (s.fields (fs ++ gs)).2 = ((s.fields fs).2.fields gs).2 := by
  induction fs generalizing s with
  | nil => rfl
  | cons f fs ih => exact ih (s.field f).2

lemma field_status (s : ReadState L) {f : Field} (hf : f.kind ≠ .string) :
    (s.field f).2.status = true ↔ L.Has s.parcel f.kind := by
  cases f with
  | int32 name => exact Iff.rfl
  | flag name => exact Iff.rfl
  | byte name => exact Iff.rfl
  | string name => exact absurd rfl hf

/-- The status after some reads is that of the last one that is not of a string. -/
lemma fields_status (s : ReadState L) (fs : List Field) {f : Field} (hf : f.kind ≠ .string) (names : List Parameter) :
    (s.fields (fs ++ f :: names.map Field.string)).2.status = true ↔
      L.Has (L.after s.parcel (fs.map Field.kind)) f.kind := by
  have hstrings (s : ReadState L) : (s.fields (names.map Field.string)).2.status = s.status := by
    induction names generalizing s with
    | nil => rfl
    | cons name names ih => exact ih s.strdupReadString.2
  have hlast : ((s.fields fs).2.fields (f :: names.map Field.string)).2.status = ((s.fields fs).2.field f).2.status :=
    hstrings _
  rw [fields_append, hlast, field_status _ hf, fields_parcel]

lemma records_succ (s : ReadState L) (fs : List Field) (n : ℕ) :
    (s.records fs (n + 1)).2 = ((s.records fs n).2.fields fs).2 := by
  induction n generalizing s with
  | zero => rfl
  | succ n ih => exact ih (s.fields fs).2

lemma records_parcel (s : ReadState L) (fs : List Field) (n : ℕ) :
    (s.records fs n).2.parcel = L.after s.parcel (List.replicate n (fs.map Field.kind)).flatten := by
  induction n generalizing s with
  | zero => rfl
  | succ n ih =>
    rw [List.replicate_succ, List.flatten_cons, ParcelLib.after, List.foldl_append]
    rw [records]
    dsimp only
    rw [ih, fields_parcel]
    rfl

lemma checked_ints_isSome (s : ReadState L) (names : List Parameter) :
    (s.checkedInts names).isSome = true ↔
      ∀ i < names.length, L.Has (L.after s.parcel (List.replicate i .int32)) .int32 := by
  induction names generalizing s with
  | nil => simp [checkedInts]
  | cons name names ih =>
    rw [checkedInts]
    have hstatus : s.readInt32.status = true ↔ L.Has s.parcel .int32 := Iff.rfl
    have hafter (i : ℕ) : L.after s.readInt32.parcel (List.replicate i .int32) =
        L.after s.parcel (List.replicate (i + 1) .int32) := rfl
    constructor
    · intro h i hi
      split at h
      · rename_i hs
        rw [Option.isSome_map] at h
        cases i with
        | zero => exact hstatus.mp hs
        | succ i =>
          rw [← hafter]
          exact (ih _).mp h i (Nat.lt_of_succ_lt_succ hi)
      · cases h
    · intro h
      rw [if_pos (hstatus.mpr (h 0 (Nat.succ_pos _))), Option.isSome_map]
      refine (ih _).mpr fun i hi => ?_
      rw [hafter]
      exact h (i + 1) (Nat.succ_lt_succ hi)

end ReadState

end Ril.Libril
