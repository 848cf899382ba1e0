import Ril.Libril.Marshallers

/-! The lists of data calls, of which the length tells the version. -/

namespace Ril.Libril

open Lib Ril.Ipc

inductive DataCallVersion
  | v6 | v9
deriving DecidableEq, Repr

/-- `RIL_Data_Call_Response_v6`, and for version 9 with the addresses of the proxies -/
structure RilDataCallResponse where
  status : Int32
  suggestedRetryTime : Int32
  cid : Int32
  active : Int32
  type : Option CString
  ifname : Option CString
  addresses : Option CString
  dnses : Option CString
  gateways : Option CString
  pcscf : Option (Option CString)
deriving DecidableEq, Repr

namespace DataCallVersion

def layout : DataCallVersion → List CType
  | v6 => rilDataCallResponseV6Layout
  | v9 => rilDataCallResponseV9Layout

/-- The version that is written to the parcel -/
def word : DataCallVersion → Int32
  | v6 => 6
  | v9 => 10

end DataCallVersion

/-- An array of so many records of version 9 is as long as one of version 6. -/
def collidingCount : PointerWidth → ℕ
  | .w32 => 9
  | .w64 => 7

section

variable (env : MarshalEnv) (version : DataCallVersion)

def stringAt (address : ℕ) : Option CString := if address = 0 then none else some (env.memory.string address)

/-- The record that stands in the memory in its own layout -/
def dataCallAt (address : ℕ) : RilDataCallResponse :=
  let int (i : ℕ) := env.int (address + memberOffset env.width version.layout i)
  let string (i : ℕ) := stringAt env (env.pointer (address + memberOffset env.width version.layout i))
  { status := int 0, suggestedRetryTime := int 1, cid := int 2, active := int 3, type := string 4, ifname := string 5,
    addresses := string 6, dnses := string 7, gateways := string 8,
    pcscf := if version = .v9 then some (string 9) else none }

def dataCallsAt (address n : ℕ) : List RilDataCallResponse :=
  (List.range n).map fun i => dataCallAt env version (address + i * env.sizeOf version.layout)

def encodeString (s : Option CString) : ParcelWrite := .string16 (s.map env.strdup8to16)

def encodeDataCall (call : RilDataCallResponse) : List ParcelWrite :=
  [.int32 call.status, .int32 call.suggestedRetryTime, .int32 call.cid, .int32 call.active, encodeString env call.type,
    encodeString env call.ifname, encodeString env call.addresses, encodeString env call.dnses,
    encodeString env call.gateways] ++ (call.pcscf.map (encodeString env)).toList

/-- The version, the count and the records -/
def encodeDataCalls (calls : List RilDataCallResponse) : List ParcelWrite :=
  .int32 version.word :: .int32 (Int32.ofNat calls.length) :: calls.flatMap (encodeDataCall env)

end

variable {env : MarshalEnv} {version : DataCallVersion} {address n : ℕ}

def DataCallVersion.members : DataCallVersion → List ℕ
  | v6 => List.range 9
  | v9 => List.range 10

lemma encode_string_at (address : ℕ) : encodeString env (stringAt env address) = env.string address := by
  rw [encodeString, stringAt, MarshalEnv.string]
  split
  · rfl
  · rfl

lemma members_eq_encode (version : DataCallVersion) (address : ℕ) :
    env.members version.layout version.members address = encodeDataCall env (dataCallAt env version address) := by
  cases version with
  | v6 =>
    simp only [encodeDataCall, dataCallAt, encode_string_at]
    rfl
  | v9 =>
    simp only [encodeDataCall, dataCallAt, encode_string_at, if_true, Option.map_some]
    rfl

lemma encode_data_call_length (version : DataCallVersion) (address : ℕ) :
    (encodeDataCall env (dataCallAt env version address)).length = version.members.length := by
  rw [← members_eq_encode, MarshalEnv.members, List.length_map]

/-- The lengths of the two layouts coincide for the multiples of a count. -/
lemma collides_iff (env : MarshalEnv) (n : ℕ) :
    n * env.sizeOf rilDataCallResponseV9Layout % env.sizeOf rilDataCallResponseV6Layout = 0 ↔
      n % collidingCount env.width = 0 := by
  rw [MarshalEnv.sizeOf, MarshalEnv.sizeOf]
  cases env.width with
  | w32 =>
    have h9 : structSize .w32 rilDataCallResponseV9Layout = 40 := by decide
    have h6 : structSize .w32 rilDataCallResponseV6Layout = 36 := by decide
    have hcount : collidingCount .w32 = 9 := rfl
    rw [h9, h6, hcount]
    omega
  | w64 =>
    have h9 : structSize .w64 rilDataCallResponseV9Layout = 64 := by decide
    have h6 : structSize .w64 rilDataCallResponseV6Layout = 56 := by decide
    have hcount : collidingCount .w64 = 7 := rfl
    rw [h9, h6, hcount]
    omega

lemma data_call_size_pos (env : MarshalEnv) (version : DataCallVersion) : 0 < env.sizeOf version.layout := by
  rw [MarshalEnv.sizeOf]
  cases env.width <;> cases version <;> decide

/-- As many records are written as the count is as an `int`. -/
lemma marshal_data_calls (env : MarshalEnv) (version : DataCallVersion) (address n : ℕ) :
    marshalArray address (n * env.sizeOf version.layout) (env.sizeOf version.layout)
        (env.members version.layout version.members) =
      .int32 (Int32.ofNat n) :: (dataCallsAt env version address (asInt n).toNat).flatMap (encodeDataCall env) := by
  have hcount : n * env.sizeOf version.layout / env.sizeOf version.layout = n :=
    Nat.mul_div_cancel n (data_call_size_pos env version)
  have hrecord : env.members version.layout version.members =
      fun address => encodeDataCall env (dataCallAt env version address) := funext (members_eq_encode version)
  rw [marshalArray, arrayElements, hcount, hrecord, dataCallsAt, List.flatMap_map, List.flatMap_map]

lemma data_calls_not_null (haddress : address = 0 → n = 0) (size : ℕ) : ¬(address = 0 ∧ n * size ≠ 0) := by
  rintro ⟨h, hlen⟩
  rw [haddress h, Nat.zero_mul] at hlen
  exact hlen rfl

lemma checked_data_calls (env : MarshalEnv) (version : DataCallVersion) (haddress : address = 0 → n = 0)
    (writes : List ParcelWrite) :
    checkedArray address (n * env.sizeOf version.layout) (env.sizeOf version.layout) writes = ⟨writes, 0⟩ := by
  rw [checkedArray, if_neg (data_calls_not_null haddress _), if_neg (not_not.mpr (Nat.mul_mod_left n _))]

/-- An array that is not taken for one of version 6 is marshalled in its own layout. -/
lemma response_data_call_list_own (version : DataCallVersion) (hversion : 5 ≤ env.version.toInt)
    (haddress : address = 0 → n = 0) (hown : version = .v9 → n % collidingCount env.width ≠ 0) :
    responseDataCallList env address (n * env.sizeOf version.layout) =
      ⟨.int32 version.word :: .int32 (Int32.ofNat n) ::
        (dataCallsAt env version address (asInt n).toNat).flatMap (encodeDataCall env), 0⟩ := by
  rw [responseDataCallList, if_neg (Int.not_lt.mpr hversion), if_neg (data_calls_not_null haddress _),
    ← marshal_data_calls]
  have hchecked := checked_data_calls env version haddress
  cases version with
  | v6 => exact (if_pos (Nat.mul_mod_left n _)).trans (hchecked _)
  | v9 => exact (if_neg fun h => hown rfl ((collides_iff env n).mp h)).trans (hchecked _)

lemma response_data_call_list_colliding (hversion : 5 ≤ env.version.toInt) (haddress : address = 0 → n = 0)
    (hcolliding : n % collidingCount env.width = 0) :
    ∃ writes ret, responseDataCallList env address (n * env.sizeOf rilDataCallResponseV9Layout) =
      ⟨.int32 6 :: writes, ret⟩ := by
  have hnull := data_calls_not_null haddress (env.sizeOf rilDataCallResponseV9Layout)
  have hcollides := (collides_iff env n).mpr hcolliding
  rw [responseDataCallList, if_neg (Int.not_lt.mpr hversion), if_neg hnull, if_pos hcollides, responseDataCallListV6,
    checkedArray, if_neg hnull, if_neg (not_not.mpr hcollides)]
  exact ⟨_, _, rfl⟩

lemma encoded_length (env : MarshalEnv) (version : DataCallVersion) (address k : ℕ) :
    ((dataCallsAt env version address k).flatMap (encodeDataCall env)).length = k * version.members.length := by
  have hrecord : (fun i => (encodeDataCall env (dataCallAt env version (address + i * env.sizeOf version.layout))).length) =
      fun _ => version.members.length := funext fun i => encode_data_call_length version _
  rw [dataCallsAt, List.flatMap_map, List.length_flatMap, hrecord, List.map_const', List.length_range,
    List.sum_replicate_nat]

/-- An array of either version is marshalled in its own layout exactly if its count fits in an `int` and, for version 9,
is no multiple of the count for which the lengths coincide. -/
theorem data_call_list_encoded_iff (env : MarshalEnv) (version : DataCallVersion) (address n : ℕ)
    (hversion : 5 ≤ env.version.toInt) (haddress : address = 0 → n = 0) :
    responseDataCallList env address (n * env.sizeOf version.layout) =
        ⟨encodeDataCalls env version (dataCallsAt env version address n), 0⟩ ↔
      n < 2 ^ 31 ∧ (version = .v9 → n % collidingCount env.width ≠ 0) := by
  have hcount : (dataCallsAt env version address n).length = n := by
    rw [dataCallsAt, List.length_map, List.length_range]
  rw [encodeDataCalls, hcount]
  constructor
  · intro h
    have hown : version = .v9 → n % collidingCount env.width ≠ 0 := by
      rintro rfl hcolliding
      obtain ⟨writes, ret, hwrites⟩ := response_data_call_list_colliding hversion haddress hcolliding
      have hword := congrArg (fun m => m.writes.head?) (hwrites.symm.trans h)
      exact absurd hword (by simp [DataCallVersion.word])
    refine ⟨?_, hown⟩
    rw [response_data_call_list_own version hversion haddress hown] at h
    have hlength := congrArg (fun m => m.writes.length) h
    simp only [List.length_cons, encoded_length] at hlength
    have hmembers : 0 < version.members.length := by cases version <;> decide
    have hn : (asInt n).toNat = n := Nat.eq_of_mul_eq_mul_right hmembers (by omega)
    have hlt : asInt n < 2 ^ 31 := BitVec.toInt_lt
    omega
  · rintro ⟨hn, hown⟩
    rw [response_data_call_list_own version hversion haddress hown, as_int_toNat hn]

theorem data_call_list_two :
    responseDataCallList (emptyEnv 9) 16 (2 * (emptyEnv 9).sizeOf DataCallVersion.v9.layout) =
      ⟨encodeDataCalls (emptyEnv 9) .v9 (dataCallsAt (emptyEnv 9) .v9 16 2), 0⟩ :=
  (data_call_list_encoded_iff (emptyEnv 9) .v9 16 2 (by decide) fun h => absurd h (by decide)).mpr
    ⟨by decide, fun _ => by decide⟩

/-- Nine records of version 9 are sent as ten of version 6. -/
theorem data_call_list_nine :
    responseDataCallList (emptyEnv 9) 16 (9 * (emptyEnv 9).sizeOf DataCallVersion.v9.layout) =
      ⟨encodeDataCalls (emptyEnv 9) .v6 (dataCallsAt (emptyEnv 9) .v6 16 10), 0⟩ ∧
    responseDataCallList (emptyEnv 9) 16 (9 * (emptyEnv 9).sizeOf DataCallVersion.v9.layout) ≠
      ⟨encodeDataCalls (emptyEnv 9) .v9 (dataCallsAt (emptyEnv 9) .v9 16 9), 0⟩ := by
  have hsize : 9 * (emptyEnv 9).sizeOf DataCallVersion.v9.layout = 10 * (emptyEnv 9).sizeOf DataCallVersion.v6.layout := by
    decide
  have hversion : 5 ≤ (emptyEnv 9).version.toInt := by decide
  have haddress : 16 = 0 → 10 = 0 := fun h => absurd h (by decide)
  have hsent := response_data_call_list_own .v6 hversion haddress fun h => by cases h
  rw [hsize, hsent, as_int_toNat (by decide)]
  refine ⟨rfl, fun h => ?_⟩
  have hword := congrArg (fun m => m.writes.head?) h
  exact absurd hword (by simp [encodeDataCalls, DataCallVersion.word])

end Ril.Libril
