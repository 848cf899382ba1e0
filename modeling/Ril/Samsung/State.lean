import Ril.Lib.Heap
import Ril.Samsung.Types

/-! The data of the daemon and the code outside of it that its handlers call. -/

namespace Ril.Samsung

open Ril.Ipc Ril.Lib

/-- A request of `ril_data->requests`. -/
structure RilRequest where
  request : RilRequestCode
  data : RilValue
  token : RilToken
  status : RilRequestStatus
deriving DecidableEq, Repr

/-- A request of the `ipc_fmt` client; the seq is 0xff until a message needs one. -/
structure IpcFmtRequest where
  request : RilRequestCode
  token : RilToken
  seq : UInt8
deriving DecidableEq, Repr

inductive GenPhoneResCallback
  | ipcSecPinStatus | ipcSec | ipcCallContDtmf | ipcNetPlmnSel | ipcGprsDefinePdpContext
  | ipcGprsPdpContext
deriving DecidableEq, Repr

structure IpcGenPhoneResExpect where
  aseq : UInt8
  command : IpcCommand
  callback : Option GenPhoneResCallback
  complete : Bool
  abort : Bool
deriving DecidableEq, Repr

structure IpcFmtData where
  genPhoneResExpect : List IpcGenPhoneResExpect := []
  simIccType : UInt8 := 0
  hsdpaStatus : UInt8 := 0
  svcSession : Bool := false
  requests : List IpcFmtRequest := []
  seq : UInt8 := 0
deriving DecidableEq, Repr

/-- The `ipc_fmt` client. -/
structure RilClient where
  failures : ℕ := 0
  available : Bool := true
  data : Option IpcFmtData := some {}
deriving DecidableEq, Repr

/-- The data of an entry of `ril_data->requests_data`. -/
inductive RilRequestDataValue
  | bytes (data : Bytes)
  | int (value : ℤ)
  | cardStatus (status : RilCardStatus)
  | strings (values : List (Option CString))
deriving DecidableEq, Repr

/-- The sizes with pointers of 4 bytes. -/
def RilRequestDataValue.size : RilRequestDataValue → ℕ
  | bytes data => data.length
  | int _ => 4
  | cardStatus _ => 280
  | strings values => 4 * values.length

/-- A string in a block of its own. -/
structure HeapString where
  block : ℕ
  value : CString
deriving DecidableEq, Repr

/-- A record of `ril_data->data_connections`, with the blocks that hold it and its list node. -/
structure RilDataConnection where
  node : ℕ
  record : ℕ
  cid : ℕ
  token : RilToken := 0
  enabled : Bool := false
  attached : Bool := false
  apn : Option HeapString := none
  username : Option HeapString := none
  password : Option HeapString := none
  iface : Option HeapString := none
  ip : Option HeapString := none
  gateway : Option HeapString := none
  subnetMask : Option HeapString := none
  dns1 : Option HeapString := none
  dns2 : Option HeapString := none
deriving DecidableEq, Repr

structure PlmnListEntry where
  mcc : ℕ
  mnc : ℕ
  operatorLong : CString
  operatorShort : CString
deriving DecidableEq, Repr

/-- What the modem, the network interfaces and the operator table answer during one step. -/
structure Env where
  clientSend : IpcRequest → Bool := fun _ => true
  gprsCidCount : Option ℕ := some 3
  gprsIface : ℕ → Option CString := fun cid => some (ascii ['r', 'm', 'n', 'e', 't'] ++ [UInt8.ofNat (0x2f + cid)])
  gprsActivate : ℕ → Bool := fun _ => true
  gprsDeactivate : ℕ → Bool := fun _ => true
  ifcConfigure : RilDataConnection → Bool := fun _ => true
  ifcResetConnections : CString → Bool := fun _ => true
  ifcDisable : CString → Bool := fun _ => true
  plmnList : List PlmnListEntry := []

/-- What the daemon has done, as seen from the framework and from the modem. -/
inductive Event
  | arrived (token : RilToken) (request : RilRequestCode) (data : RilValue)
  | dispatched (token : RilToken)
  | cancelled (token : RilToken)
  | received (message : IpcMessage)
  | completed (token : RilToken) (error : RilErrno) (response : RilResponse)
  | unsolicited (request : RilUnsol) (response : RilResponse)
  | seqTaken (owner : Option RilToken) (seq : UInt8)
  | sent (request : IpcRequest) (ok : Bool)
  | pinCached (pin : CString)
  | staleRequest (token : RilToken)
deriving DecidableEq, Repr

structure RilData where
  env : Env := {}
  radioState : RilRadioState := .unavailable
  simPin : Option CString := none
  requests : List RilRequest := []
  requestsData : List (RilRequestCode × RilRequestDataValue) := []
  dataConnections : List RilDataConnection := []
  heap : Heap := {}
  fmt : RilClient := {}
  /-- `request_loop_mutex` is unlocked: the request loop has a signal to take. -/
  loopSignal : Bool := false
  trace : List Event := []

abbrev RilM := StateM RilData

@[simp] lemma bind_apply {α β : Type} (m : RilM α) (f : α → RilM β) (s : RilData) :
    (m >>= f) s = f (m s).1 (m s).2 := rfl

@[simp] lemma pure_apply {α : Type} (a : α) (s : RilData) : (pure a : RilM α) s = (a, s) := rfl

@[simp] lemma get_apply (s : RilData) : (get : RilM RilData) s = (s, s) := rfl

@[simp] lemma modify_apply (f : RilData → RilData) (s : RilData) :
    (modify f : RilM PUnit) s = ((), f s) := rfl

lemma ite_run {α : Type} (c : Prop) [Decidable c] (m n : RilM α) (s : RilData) :
    (if c then m else n : RilM α) s = if c then m s else n s := by
  split
  · rfl
  · rfl

@[simp high] lemma get_bind_apply {α : Type} (f : RilData → RilM α) (s : RilData) :
    ((get : RilM RilData) >>= f) s = f s s := rfl

def RilData.log (e : Event) (s : RilData) : RilData := { s with trace := e :: s.trace }

def log (e : Event) : RilM Unit := modify (RilData.log e)

end Ril.Samsung
