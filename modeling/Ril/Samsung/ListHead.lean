import Ril.Lib.DoublyLinked
import Ril.Lib.Transition
import Ril.Samsung.State

/-! The lists of `struct list_head`: something new goes to the end, and what goes is found by a scan from the head. The
caller frees the object and moves the head, and `list_head_free` links the neighbours. -/

namespace Ril.Samsung

open Lib Lib.Nodes

abbrev Address := ℕ

abbrev ListNodes := Nodes Address (Option Address)

/-- A list, with the memory of its nodes and of the objects that they point to -/
structure ListMemory (α : Type*) where
  nodes : ListNodes := fun _ => none
  objects : Address → Option α := fun _ => none
  head : Option Address := none

/-- `list` is the address that `calloc` gives. -/
def listHeadAlloc (list : Address) (prev next data : Option Address) (nodes : ListNodes) : Option ListNodes :=
  (linkNext (Function.update nodes list (some ⟨prev, next, data⟩)) prev (some list)).bind fun nodes =>
    linkPrev nodes next (some list)

def listHeadFree (list : Option Address) (nodes : ListNodes) : Option ListNodes :=
  match list with
  | none => some nodes
  | some list => unlink nodes list

/-- `while (list_end != NULL && list_end->next != NULL) list_end = list_end->next` -/
def listEnd (nodes : ListNodes) : ℕ → Option Address → Option (Option Address)
  | 0, _ => none
  | _ + 1, none => some none
  | fuel + 1, some list => (nodes list).bind fun node =>
    if node.next.isNone then some (some list) else listEnd nodes fuel node.next

namespace ListMemory

variable {α : Type*}

/-- The object is cleared and freed. -/
def release (data : Option Address) (m : ListMemory α) : Option (ListMemory α) :=
  data.bind fun object => (m.objects object).map fun _ =>
    { m with objects := Function.update m.objects object none }

/-- The head moves off the node, and the node is freed. -/
def remove (list : Address) (m : ListMemory α) : Option (ListMemory α) :=
  (m.nodes list).bind fun node => (listHeadFree (some list) m.nodes).map fun nodes =>
    { m with nodes := nodes, head := if m.head = some list then node.next else m.head }

/-- `object` and `list` are the addresses that `calloc` gives. -/
def register (fuel : ℕ) (object list : Address) (value : α) (m : ListMemory α) : Option (ListMemory α) :=
  (listEnd m.nodes fuel m.head).bind fun last =>
    (listHeadAlloc list last none (some object) m.nodes).map fun nodes =>
      { nodes, objects := Function.update m.objects object (some value), head := m.head.or (some list) }

/-- `found` looks at the data pointer of a node. -/
def unregisterLoop (found : Option Address → Option Bool) (m : ListMemory α) :
    ℕ → Option Address → Option (ListMemory α)
  | 0, _ => none
  | _ + 1, none => some m
  | fuel + 1, some list => (m.nodes list).bind fun node => (found node.data).bind fun isFound =>
    if isFound then (release node.data m).bind (remove list) else unregisterLoop found m fuel node.next

def flushLoop : ℕ → Option Address → ListMemory α → Option (ListMemory α)
  | 0, _, _ => none
  | _ + 1, none, m => some m
  | fuel + 1, some list, m => (m.nodes list).bind fun node =>
    (if node.data.isSome then release node.data m else some m).bind fun m =>
      (remove list m).bind fun m => flushLoop fuel node.next m

end ListMemory

/-- What an unregister function looks for: a field of the object, or the pointer to it. A node without an object has no
field to look at. -/
inductive ListKey (α : Type*)
  | field (isSame : α → Bool)
  | pointer (data : Option Address)

namespace ListMemory

variable {α : Type*}

def found (m : ListMemory α) : ListKey α → Option Address → Option Bool
  | .field _, none => some false
  | .field isSame, some object => (m.objects object).map isSame
  | .pointer expect, data => some (data = expect)

def unregister (fuel : ℕ) (key : ListKey α) (m : ListMemory α) : Option (ListMemory α) :=
  unregisterLoop (m.found key) m fuel m.head

def flush (fuel : ℕ) (m : ListMemory α) : Option (ListMemory α) := flushLoop fuel m.head m

end ListMemory

/-- A call of one of the functions of a list, with the addresses that `calloc` gives in it -/
inductive ListCall (α : Type*)
  | register (object list : Address) (value : α)
  | unregister (key : ListKey α)
  | flush

/-- The functions return -1 without the data of the client, and 0 with it. -/
def ListCall.perform {α : Type*} (fuel : ℕ) : ListCall α → Option (ListMemory α) → Option (ℤ × Option (ListMemory α))
  | _, none => some (-1, none)
  | .register object list value, some m => (m.register fuel object list value).map fun m => (0, some m)
  | .unregister key, some m => (m.unregister fuel key).map fun m => (0, some m)
  | .flush, some m => (m.flush fuel).map fun m => (0, some m)

/-! ### The lists of the clients -/

def ipcFmtRequestRegister (object list : Address) (request : RilRequestCode) (token : RilToken) :
    ListCall IpcFmtRequest := .register object list ⟨request, token, 0xff⟩

def ipcFmtRequestUnregister (request : RilRequestCode) (token : RilToken) : ListCall IpcFmtRequest :=
  .unregister (.field fun r => r.request = request && r.token = token)

def ipcFmtRequestFlush : ListCall IpcFmtRequest := .flush

def ipcGenPhoneResExpectRegister (object list : Address) (aseq : UInt8) (command : Ipc.IpcCommand)
    (callback : Option GenPhoneResCallback) (complete abort : Bool) : ListCall IpcGenPhoneResExpect :=
  .register object list ⟨aseq, command, callback, complete, abort⟩

def ipcGenPhoneResExpectUnregister (expect : Option Address) : ListCall IpcGenPhoneResExpect :=
  .unregister (.pointer expect)

def ipcGenPhoneResExpectFlush : ListCall IpcGenPhoneResExpect := .flush

/-- `struct srs_client` -/
structure SrsClientFd where
  fd : ℤ
deriving DecidableEq, Repr

def srsClientRegister (object list : Address) (fd : ℤ) : ListCall SrsClientFd := .register object list ⟨fd⟩

def srsClientUnregister (client : Option Address) : ListCall SrsClientFd := .unregister (.pointer client)

def srsClientFlush : ListCall SrsClientFd := .flush

end Ril.Samsung
