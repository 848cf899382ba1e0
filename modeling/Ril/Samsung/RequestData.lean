import Ril.Samsung.ListHead

/-! The request data: buffers that the handlers keep from one message to the next, in one list for all requests. -/

namespace Ril.Samsung

open Lib Lib.Nodes Ipc

/-- `struct ril_request_data` -/
structure RilRequestData where
  request : ℤ
  data : Option Address
  size : ℕ
deriving DecidableEq, Repr

/-- The list of `ril_data`, which is null until it is created, and the buffers of the request data -/
structure RequestMemory where
  rilData : Option (ListMemory RilRequestData) := none
  buffers : Address → Option Bytes := fun _ => none

namespace RequestMemory

/-- `free` of a buffer -/
def freeBuffer (buffer : Address) (s : RequestMemory) : Option RequestMemory :=
  (s.buffers buffer).map fun _ => { s with buffers := Function.update s.buffers buffer none }

def rilRequestDataRegister (fuel : ℕ) (object list : Address) (request : ℤ) (data : Option Address) (size : ℕ)
    (s : RequestMemory) : Option (ℤ × RequestMemory) :=
  match data, s.rilData with
  | some _, some m => (m.register fuel object list ⟨request, data, size⟩).map fun m => (0, { s with rilData := some m })
  | _, _ => some (-1, s)

def rilRequestDataUnregister (fuel : ℕ) (requestData : Option Address) (s : RequestMemory) :
    Option (ℤ × RequestMemory) :=
  match requestData, s.rilData with
  | some _, some m => (m.unregister fuel (.pointer requestData)).map fun m => (0, { s with rilData := some m })
  | _, _ => some (-1, s)

def findLoop (m : ListMemory RilRequestData) (request : ℤ) : ℕ → Option Address → Option (Option Address)
  | 0, _ => none
  | _ + 1, none => some none
  | fuel + 1, some list => (m.nodes list).bind fun node =>
    match node.data with
    | none => findLoop m request fuel node.next
    | some object => (m.objects object).bind fun requestData =>
      if requestData.request = request then some (some object) else findLoop m request fuel node.next

def rilRequestDataFindRequest (fuel : ℕ) (request : ℤ) (s : RequestMemory) : Option (Option Address) :=
  match s.rilData with
  | none => some none
  | some m => findLoop m request fuel m.head

/-- What `request_data` points to -/
def read (requestData : Address) (s : RequestMemory) : Option RilRequestData :=
  s.rilData.bind fun m => m.objects requestData

/-- One round for each `rounds` -/
def rilRequestDataFree (fuel : ℕ) (request : ℤ) : ℕ → RequestMemory → Option (ℤ × RequestMemory)
  | 0, _ => none
  | rounds + 1, s => (s.rilRequestDataFindRequest fuel request).bind fun found =>
    match found with
    | none => some (0, s)
    | some object => (s.read object).bind fun requestData =>
      (match requestData.data with
        | some buffer => if 0 < requestData.size then s.freeBuffer buffer else some s
        | none => some s).bind fun s =>
          (s.rilRequestDataUnregister fuel (some object)).bind fun r => rilRequestDataFree fuel request rounds r.2

/-- `data` is null, or the bytes that it points to; `buffer`, `object` and `list` are the addresses that `calloc`
gives. -/
def rilRequestDataSet (fuel : ℕ) (buffer object list : Address) (request : ℤ) (data : Option Bytes) (s : RequestMemory) :
    Option (ℤ × RequestMemory) :=
  match data with
  | none => some (-1, s)
  | some bytes =>
    if bytes.length = 0 then some (-1, s)
    else
      let s := { s with buffers := Function.update s.buffers buffer (some bytes) }
      (s.rilRequestDataRegister fuel object list request (some buffer) bytes.length).map fun r =>
        (if r.1 < 0 then -1 else 0, r.2)

def rilRequestDataSetUniq (fuel : ℕ) (buffer object list : Address) (request : ℤ) (data : Option Bytes)
    (s : RequestMemory) : Option (ℤ × RequestMemory) :=
  (rilRequestDataFree fuel request fuel s).bind fun r =>
    (r.2.rilRequestDataSet fuel buffer object list request data).map fun r => (if r.1 < 0 then -1 else 0, r.2)

def rilRequestDataSizeGet (fuel : ℕ) (request : ℤ) (s : RequestMemory) : Option ℕ :=
  (s.rilRequestDataFindRequest fuel request).bind fun found =>
    match found with
    | none => some 0
    | some object => (s.read object).map RilRequestData.size

/-- The buffer is the caller's from then on. -/
def rilRequestDataGet (fuel : ℕ) (request : ℤ) (s : RequestMemory) : Option (Option Address × RequestMemory) :=
  (s.rilRequestDataFindRequest fuel request).bind fun found =>
    match found with
    | none => some (none, s)
    | some object => (s.read object).bind fun requestData =>
      (s.rilRequestDataUnregister fuel (some object)).map fun r => (requestData.data, r.2)

end RequestMemory

/-- A call of one of the functions, with the addresses that `calloc` gives in it -/
inductive RequestDataCall
  | set (buffer object list : Address) (request : ℤ) (data : Option Bytes)
  | setUniq (buffer object list : Address) (request : ℤ) (data : Option Bytes)
  | sizeGet (request : ℤ)
  | get (request : ℤ)
  | free (request : ℤ)

/-- What the caller gets: a return code, a size, or null or the bytes of a buffer -/
inductive RequestDataResult
  | code (rc : ℤ)
  | size (size : ℕ)
  | data (data : Option Bytes)
deriving DecidableEq, Repr

/-- The caller reads what it gets and frees it at some time: the buffer leaves the memory of the request data. -/
def RequestMemory.handOver (buffer : Option Address) (s : RequestMemory) : Option (Option Bytes × RequestMemory) :=
  match buffer with
  | none => some (none, s)
  | some buffer => (s.buffers buffer).bind fun bytes => (s.freeBuffer buffer).map fun s => (some bytes, s)

def RequestDataCall.perform (fuel : ℕ) (s : RequestMemory) : RequestDataCall → Option (RequestDataResult × RequestMemory)
  | set buffer object list request data => (s.rilRequestDataSet fuel buffer object list request data).map (·.map .code id)
  | setUniq buffer object list request data =>
    (s.rilRequestDataSetUniq fuel buffer object list request data).map (·.map .code id)
  | sizeGet request => (s.rilRequestDataSizeGet fuel request).map fun size => (.size size, s)
  | get request => (s.rilRequestDataGet fuel request).bind fun r => (r.2.handOver r.1).map (·.map .data id)
  | free request => (RequestMemory.rilRequestDataFree fuel request fuel s).map (·.map .code id)

end Ril.Samsung
