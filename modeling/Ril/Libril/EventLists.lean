import Mathlib.Data.Finset.Card
import Ril.Lib.Circular
import Ril.Lib.Slots
import Ril.Lib.Transition

/-! The event loop of libril: the table of the watched events, the queue of the timers and the list of the events whose
functions are called. -/

namespace Ril.Libril.Event

open Lib

/-! ### Times -/

structure Timeval where
  sec : ℤ := 0
  usec : ℤ := 0
deriving DecidableEq, Repr

def timeradd (t u : Timeval) : Timeval :=
  let sec := t.sec + u.sec
  let usec := t.usec + u.usec
  if 1000000 ≤ usec then ⟨sec + 1, usec - 1000000⟩ else ⟨sec, usec⟩

def timercmp (a b : Timeval) (op : ℤ → ℤ → Bool) : Bool := if a.sec = b.sec then op a.usec b.usec else op a.sec b.sec

def timersub (a b : Timeval) : Timeval :=
  let sec := a.sec - b.sec
  let usec := a.usec - b.usec
  if usec < 0 then ⟨sec - 1, usec + 1000000⟩ else ⟨sec, usec⟩

/-! ### The events -/

/-- `timer_list`, `pending_list` and the events of the callers -/
inductive EventPtr
  | timerList | pendingList
  | event (address : ℕ)
deriving DecidableEq, Repr

structure RilEvent where
  next : Option EventPtr := none
  prev : Option EventPtr := none
  fd : ℤ := 0
  index : ℤ := 0
  persist : Bool := false
  timeout : Timeval := {}
deriving DecidableEq, Repr

def maxFdEvents : ℕ := 8

def fdSetSize : ℤ := 1024

structure RilEvents where
  mem : EventPtr → RilEvent
  readFds : Finset ℤ
  nfds : ℤ
  watchTable : List (Option ℕ)

namespace RilEvents

def store (p : EventPtr) (e : RilEvent) (d : RilEvents) : RilEvents := { d with mem := Function.update d.mem p e }

def setNext (p : EventPtr) (next : Option EventPtr) (d : RilEvents) : RilEvents :=
  d.store p { d.mem p with next := next }

def setPrev (p : EventPtr) (prev : Option EventPtr) (d : RilEvents) : RilEvents :=
  d.store p { d.mem p with prev := prev }

def initList (list : EventPtr) (d : RilEvents) : RilEvents :=
  d.store list { next := some list, prev := some list, fd := -1 }

/-- `ril_event_init` -/
def init : RilEvents :=
  ({ mem := fun _ => {}, readFds := ∅, nfds := 0, watchTable := List.replicate maxFdEvents none : RilEvents }.initList
    .timerList).initList .pendingList

def addToList (ev list : EventPtr) (d : RilEvents) : Option RilEvents := do
  let d := d.setNext ev (some list)
  let d := d.setPrev ev (d.mem list).prev
  let prev ← (d.mem ev).prev
  let d := d.setNext prev (some ev)
  return d.setPrev list (some ev)

def removeFromList (ev : EventPtr) (d : RilEvents) : Option RilEvents := do
  let next ← (d.mem ev).next
  let d := d.setPrev next (d.mem ev).prev
  let prev ← (d.mem ev).prev
  let d := d.setNext prev (d.mem ev).next
  return (d.setNext ev none).setPrev ev none

/-- The greatest descriptor of the table, from `n` on -/
def greatestFd (d : RilEvents) (n : ℤ) : List (Option ℕ) → ℤ
  | [] => n
  | none :: table => greatestFd d n table
  | some rev :: table => greatestFd d (if (d.mem (.event rev)).fd > n then (d.mem (.event rev)).fd else n) table

def removeWatch (ev index : ℕ) (d : RilEvents) : RilEvents :=
  let d := { d with watchTable := d.watchTable.set index none }
  let d := d.store (.event ev) { d.mem (.event ev) with index := -1 }
  let fd := (d.mem (.event ev)).fd
  let d := { d with readFds := d.readFds.erase fd }
  if fd + 1 = d.nfds then { d with nfds := d.greatestFd 0 d.watchTable + 1 } else d

/-- The walk along `timer_list`, of so many rounds at most -/
def processTimeoutsFrom (now : Timeval) : ℕ → EventPtr → RilEvents → Option RilEvents
  | 0, _, _ => none
  | fuel + 1, tev, d =>
    if tev ≠ .timerList ∧ timercmp now (d.mem tev).timeout (· > ·) then do
      let next ← (d.mem tev).next
      let d ← d.removeFromList tev
      let d ← d.addToList tev .pendingList
      processTimeoutsFrom now fuel next d
    else some d

def processTimeouts (fuel : ℕ) (now : Timeval) (d : RilEvents) : Option RilEvents := do
  let tev ← (d.mem .timerList).next
  processTimeoutsFrom now fuel tev d

/-- The slots from `i` on, of which there are so many. `select` has counted `n` descriptors. -/
def processReadReadiesFrom (rfds : Finset ℤ) : ℕ → ℕ → ℕ → RilEvents → Option RilEvents
  | 0, _, _, d => some d
  | slots + 1, i, n, d =>
    if 0 < n then
      match d.watchTable[i]?.join with
      | none => processReadReadiesFrom rfds slots (i + 1) n d
      | some rev =>
        if (d.mem (.event rev)).fd ∈ rfds then do
          let d ← d.addToList (.event rev) .pendingList
          let d := if (d.mem (.event rev)).persist then d else d.removeWatch rev i
          processReadReadiesFrom rfds slots (i + 1) (n - 1) d
        else processReadReadiesFrom rfds slots (i + 1) n d
    else some d

def processReadReadies (rfds : Finset ℤ) (n : ℕ) (d : RilEvents) : Option RilEvents :=
  processReadReadiesFrom rfds maxFdEvents 0 n d

/-- The wait, `some none` where the function returns -1 -/
def calcNextTimeout (now : Timeval) (d : RilEvents) : Option (Option Timeval) := do
  let tev ← (d.mem .timerList).next
  if tev = .timerList then return none
  if timercmp (d.mem tev).timeout now (· > ·) then return some (timersub (d.mem tev).timeout now)
  return some {}

def rilEventSet (ev : ℕ) (fd : ℤ) (persist : Bool) (d : RilEvents) : RilEvents :=
  d.store (.event ev) { fd := fd, index := -1, persist := persist }

def rilEventAdd (ev : ℕ) (d : RilEvents) : RilEvents :=
  match firstFree d.watchTable with
  | none => d
  | some i =>
    let d := { d with watchTable := d.watchTable.set i (some ev) }
    let d := d.store (.event ev) { d.mem (.event ev) with index := i }
    let fd := (d.mem (.event ev)).fd
    let d := { d with readFds := insert fd d.readFds }
    if d.nfds ≤ fd then { d with nfds := fd + 1 } else d

/-- The first event of `timer_list`, from `list` on, that is not before `ev` -/
def firstOlder (ev : EventPtr) (d : RilEvents) : ℕ → EventPtr → Option EventPtr
  | 0, _ => none
  | fuel + 1, list =>
    if timercmp (d.mem list).timeout (d.mem ev).timeout (· < ·) ∧ list ≠ .timerList then do
      let next ← (d.mem list).next
      firstOlder ev d fuel next
    else some list

def rilTimerAdd (fuel ev : ℕ) (tv : Option Timeval) (now : Timeval) (d : RilEvents) : Option RilEvents :=
  match tv with
  | none => some d
  | some tv => do
    let list ← (d.mem .timerList).next
    let d := d.store (.event ev) { d.mem (.event ev) with fd := -1 }
    let d := d.store (.event ev) { d.mem (.event ev) with timeout := timeradd now tv }
    let list ← d.firstOlder (.event ev) fuel list
    d.addToList (.event ev) list

def rilEventDel (ev : ℕ) (d : RilEvents) : RilEvents :=
  let index := (d.mem (.event ev)).index
  if index < 0 ∨ maxFdEvents ≤ index then d else d.removeWatch ev index.toNat

end RilEvents

/-! ### The loop -/

/-- Where `ril_event_loop` is: at its top, in `select` with a copy of the set and the wait, behind `processTimeouts`, in
`firePending` with the next event, or within the function of an event -/
inductive LoopPoint
  | top
  | selecting (rfds : Finset ℤ) (tv : Option Timeval)
  | timedOut (rfds : Finset ℤ)
  | firing (ev : EventPtr)
  | calling (ev : ℕ) (next : EventPtr)
  | returned
deriving DecidableEq

/-- `initialised` are the events that `ril_event_set` was called for, `added` those of the calls of `ril_timer_add`,
`calls` the events whose functions were called, with the descriptors. -/
structure EventLoop where
  events : RilEvents := .init
  point : LoopPoint := .top
  initialised : Finset ℕ := ∅
  added : List ℕ := []
  calls : List (ℕ × ℤ) := []

/-- The first four are the operations. The functions of the events may call them, and other threads at any time. -/
inductive EventAction
  | set (ev : ℕ) (fd : ℤ) (persist : Bool)
  | add (ev : ℕ)
  | del (ev : ℕ)
  | timerAdd (ev : ℕ) (tv : Option Timeval) (now : Timeval)
  | select (now : Timeval)
  | interrupted
  | selectFails
  | timeouts (now : Timeval) (rfds : Finset ℤ)
  | readReadies
  | fire
  | funcReturns
deriving DecidableEq

open RilEvents in
/-- No walk takes more rounds than there were timers, and one. -/
def eventStep (s : EventLoop) : EventAction → Option EventLoop
  | .set ev fd persist =>
    some { s with events := s.events.rilEventSet ev fd persist, initialised := insert ev s.initialised }
  | .add ev => some { s with events := s.events.rilEventAdd ev }
  | .del ev => some { s with events := s.events.rilEventDel ev }
  | .timerAdd ev tv now =>
    (s.events.rilTimerAdd (s.added.length + 1) ev tv now).map fun events =>
      { s with events := events, added := s.added ++ tv.toList.map fun _ => ev }
  | .select now =>
    match s.point with
    | .top => (s.events.calcNextTimeout now).map fun tv => { s with point := .selecting s.events.readFds tv }
    | _ => none
  | .interrupted =>
    match s.point with
    | .selecting _ _ => some { s with point := .top }
    | _ => none
  | .selectFails =>
    match s.point with
    | .selecting _ _ => some { s with point := .returned }
    | _ => none
  | .timeouts now ready =>
    match s.point with
    | .selecting rfds _ =>
      if ready ⊆ rfds then
        (s.events.processTimeouts (s.added.length + 1) now).map fun events =>
          { s with events := events, point := .timedOut ready }
      else none
    | _ => none
  | .readReadies =>
    match s.point with
    | .timedOut rfds => do
      let events ← s.events.processReadReadies rfds rfds.card
      let ev ← (events.mem .pendingList).next
      return { s with events := events, point := .firing ev }
    | _ => none
  | .fire =>
    match s.point with
    | .firing .pendingList => some { s with point := .top }
    | .firing (.event ev) => do
      let next ← (s.events.mem (.event ev)).next
      let events ← s.events.removeFromList (.event ev)
      return { s with
        events := events, point := .calling ev next, calls := s.calls ++ [(ev, (events.mem (.event ev)).fd)] }
    | _ => none
  | .funcReturns =>
    match s.point with
    | .calling _ next => some { s with point := .firing next }
    | _ => none

end Ril.Libril.Event
