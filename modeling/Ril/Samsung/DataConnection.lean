import Ril.Samsung.State

/-! The data connections and the blocks they are kept in. -/

namespace Ril.Samsung

open Ril.Ipc Ril.Lib

namespace RilData

def heapUse (b : ℕ) (s : RilData) : RilData := { s with heap := s.heap.use b }

def heapFree (b : ℕ) (s : RilData) : RilData := { s with heap := s.heap.free b }

def heapAlloc (s : RilData) : RilData := { s with heap := s.heap.alloc }

/-- `if (string != NULL) free(string);` -/
def freeString (string : Option HeapString) (s : RilData) : RilData :=
  match string with
  | none => s
  | some string => s.heapFree string.block

def dataConnectionFind (record : ℕ) (s : RilData) : Option RilDataConnection :=
  s.dataConnections.find? (·.record == record)

def dataConnectionFindCid (cid : ℕ) (s : RilData) : Option RilDataConnection :=
  s.dataConnections.find? (·.cid == cid)

/-- `NULL` is looked up like any other token. -/
def dataConnectionFindToken (token : RilToken) (s : RilData) : Option RilDataConnection :=
  s.dataConnections.find? (·.token == token)

def dataConnectionUpdate (record : ℕ) (f : RilDataConnection → RilDataConnection) (s : RilData) :
    RilData :=
  { s with dataConnections := s.dataConnections.map fun c => if c.record == record then f c else c }

def dataConnectionRegister (cid : ℕ) (apn : HeapString) (username password : Option HeapString)
    (iface : HeapString) (s : RilData) : RilData :=
  { s.heapAlloc.heapAlloc with
    dataConnections := s.dataConnections ++ [{
      record := s.heap.next
      node := s.heap.next + 1
      cid := cid
      apn := some apn
      username := username
      password := password
      iface := some iface }] }

def dataConnectionUnregister (record : ℕ) (s : RilData) : RilData :=
  match s.dataConnectionFind record with
  | none => s
  | some c =>
    (({ s with dataConnections := s.dataConnections.eraseP (·.record == record) }).heapFree
      c.record).heapFree c.node

/-- The fields of a released record read as 0: it was cleared before it was released. -/
def dataConnectionStop (record : ℕ) (s : RilData) : RilData :=
  let s := s.heapUse record
  match s.dataConnectionFind record with
  | none => s.dataConnectionUnregister record
  | some c =>
    (((((((((s.freeString c.apn).freeString c.username).freeString c.password).freeString
      c.iface).freeString c.ip).freeString c.gateway).freeString c.subnetMask).freeString
      c.dns1).freeString c.dns2).dataConnectionUnregister record

/-- The walk of `ril_data_connection_flush` from the node of the first connection on. The next
node is read from a node that is still allocated, or from the 0 that clearing a released one left. -/
def dataConnectionFlushFrom : List RilDataConnection → RilData → RilData
  | [], s => s
  | c :: rest, s =>
    let s := s.dataConnectionStop c.record
    let s := (s.heapUse c.record).heapFree c.record
    let s := s.heapUse c.node
    if c.node ∈ s.heap.live then
      dataConnectionFlushFrom rest
        ({ s with dataConnections := s.dataConnections.filter (·.node != c.node) }.heapFree c.node)
    else s.heapFree c.node

def dataConnectionFlush (s : RilData) : RilData := dataConnectionFlushFrom s.dataConnections s

/-- The least cid from 1 on that no connection has. -/
def freeCid (count : ℕ) (s : RilData) : Option ℕ :=
  ((List.range count).map (· + 1)).find? fun cid => (s.dataConnectionFindCid cid).isNone

end RilData

def strdup (value : CString) : RilM HeapString := do
  let s ← get
  modify RilData.heapAlloc
  return ⟨s.heap.next, value⟩

def strdupOption : Option CString → RilM (Option HeapString)
  | none => return none
  | some value => return some (← strdup value)

def free (string : Option HeapString) : RilM Unit := modify (RilData.freeString string)

def rilDataConnectionStart (apn : HeapString) (username password : Option HeapString) :
    RilM (Option RilDataConnection) := do
  let s ← get
  if s.fmt.data.isNone then
    return none
  match s.env.gprsCidCount with
  | none => return none
  | some count =>
    match s.freeCid count with
    | none => return none
    | some cid =>
      match s.env.gprsIface cid with
      | none => return none
      | some name =>
        let iface ← strdup name
        modify (RilData.dataConnectionRegister cid apn username password iface)
        match (← get).dataConnectionFindCid cid with
        | none =>
          free iface
          return none
        | some c => return some c

def rilDataConnectionStop (record : ℕ) : RilM Unit := modify (RilData.dataConnectionStop record)

def rilDataConnectionEnable (c : RilDataConnection) : RilM Bool := do
  let s ← get
  if c.iface.isNone || c.ip.isNone || c.gateway.isNone || c.subnetMask.isNone || s.fmt.data.isNone then
    return false
  if !s.env.gprsActivate c.cid then
    return false
  if !s.env.ifcConfigure c then
    return false
  modify (RilData.dataConnectionUpdate c.record fun c => { c with enabled := true })
  return true

def rilDataConnectionDisable (c : RilDataConnection) : RilM Bool := do
  let s ← get
  match c.iface with
  | none => return false
  | some iface =>
    if s.fmt.data.isNone then
      return false
    if !s.env.ifcResetConnections iface.value then
      return false
    if !s.env.ifcDisable iface.value then
      return false
    if !s.env.gprsDeactivate c.cid then
      return false
    modify (RilData.dataConnectionUpdate c.record fun c => { c with enabled := false })
    return true

end Ril.Samsung
