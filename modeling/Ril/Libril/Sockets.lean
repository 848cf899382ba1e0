import Mathlib.Logic.Function.Basic
import Ril.Lib.Slots
import Ril.Lib.Transition
import Ril.Libril.Commands

/-! The life of the command sockets in libril: the table of watched events, the event loop with its callbacks, and the
threads that write to a socket. -/

namespace Ril.Libril

open Lib

/-- The events whose descriptors are open from the start to the end -/
inductive FixedEvent
  | wakeupfd | debug
  | listen (socketId : RilSocketId)
deriving DecidableEq, Repr

inductive RilEventId
  | fixed (event : FixedEvent)
  | commands (socketId : RilSocketId)
deriving DecidableEq, Repr

structure SocketsConfig where
  simCount : ℕ
  fd : FixedEvent → ℕ
  fd_injective : Function.Injective fd

/-- A static event is zero before `ril_event_set`. -/
structure RilEvent where
  fd : ℕ := 0
  index : Option ℕ := some 0
  persist : Bool := false
deriving DecidableEq, Repr

/-- The accepted connections are numbered. -/
inductive FdOwner
  | event (event : FixedEvent)
  | command (socketId : RilSocketId) (connection : ℕ)
  | other
deriving DecidableEq, Repr

inductive FdRecord
  | accepted (socketId : RilSocketId) (connection : ℕ)
  | closed (owner : Option FdOwner)
deriving DecidableEq, Repr

/-- What the event loop is doing: it waits, or calls the function of an event with its descriptor, or is within
`listenCallback`, `processCommandsCallback` or `debugCallback`. It ends the process when `select` fails. -/
inductive SocketLoop
  | waiting
  | calling (event : RilEventId) (fd : ℕ)
  | accepted (socketId : RilSocketId) (fd : ℕ)
  | connected (socketId : RilSocketId)
  | closed (socketId : RilSocketId)
  | reset (socketId : RilSocketId)
  | rearming (socketId : RilSocketId)
  | debugClosed (socketId : RilSocketId)
  | ended
deriving DecidableEq, Repr

/-- `writers` are the descriptors that `sendResponseRaw` has read in some thread and is writing to. -/
structure Sockets where
  table : List (Option RilEventId)
  events : RilEventId → RilEvent
  readFds : ℕ → Bool
  pending : List RilEventId
  fdCommand : RilSocketId → Option ℕ
  loop : SocketLoop
  registered : List FixedEvent
  writers : List ℕ
  fds : ℕ → Option FdOwner
  connections : ℕ
  log : List FdRecord

def RilSocketId.index : RilSocketId → ℕ
  | socket1 => 0
  | socket2 => 1
  | socket3 => 2
  | socket4 => 3

def maxFdEvents : ℕ := 8

namespace SocketsConfig

variable (cfg : SocketsConfig)

/-- The sockets that `SIM_COUNT` compiles in -/
def uses (s : RilSocketId) : Bool := s == .socket1 || s.index < cfg.simCount

/-- The socket for the last argument on the debug port -/
def debugSocket (simId : ℤ) : RilSocketId :=
  if simId = 1 ∧ 2 ≤ cfg.simCount then .socket2
  else if simId = 2 ∧ 3 ≤ cfg.simCount then .socket3
  else if simId = 3 ∧ 4 ≤ cfg.simCount then .socket4
  else .socket1

/-- The descriptor that `debugCallback` closes with the radio -/
def debugCloses (fdCommand : RilSocketId → Option ℕ) (s : RilSocketId) : Option ℕ :=
  if s = .socket1 ∨ (s = .socket2 ∧ cfg.simCount = 2) then (fdCommand s).filter (0 < ·) else none

end SocketsConfig

namespace Sockets

def rilEventSet (e : RilEventId) (fd : ℕ) (persist : Bool) (d : Sockets) : Sockets :=
  { d with events := Function.update d.events e ⟨fd, none, persist⟩ }

def rilEventAdd (e : RilEventId) (d : Sockets) : Sockets :=
  match firstFree d.table with
  | none => d
  | some i => { d with
    table := d.table.set i (some e), events := Function.update d.events e { d.events e with index := some i },
    readFds := Function.update d.readFds (d.events e).fd true }

def removeWatch (e : RilEventId) (i : ℕ) (d : Sockets) : Sockets :=
  { d with
    table := d.table.set i none, events := Function.update d.events e { d.events e with index := none },
    readFds := Function.update d.readFds (d.events e).fd false }

def rilEventDel (e : RilEventId) (d : Sockets) : Sockets :=
  match (d.events e).index with
  | none => d
  | some i => if i < maxFdEvents then d.removeWatch e i else d

/-- The events of the table whose descriptors are ready, with their places. `select` has counted `n` descriptors. -/
def readies (fd : RilEventId → ℕ) (ready : List ℕ) : ℕ → ℕ → List (Option RilEventId) → List (RilEventId × ℕ)
  | _, _, [] => []
  | 0, _, _ => []
  | n + 1, i, none :: table => readies fd ready (n + 1) (i + 1) table
  | n + 1, i, some e :: table =>
    if ready.contains (fd e) then (e, i) :: readies fd ready n (i + 1) table else readies fd ready (n + 1) (i + 1) table

def addPending (d : Sockets) (e : RilEventId × ℕ) : Sockets :=
  let d := { d with pending := d.pending ++ [e.1] }
  if (d.events e.1).persist then d else d.removeWatch e.1 e.2

def processReadReadies (ready : List ℕ) (d : Sockets) : Sockets :=
  (readies (fun e => (d.events e).fd) ready ready.length 0 d.table).foldl addPending d

def closeFd (fd : ℕ) (d : Sockets) : Sockets :=
  { d with fds := Function.update d.fds fd none, log := .closed (d.fds fd) :: d.log }

def setLoop (loop : SocketLoop) (d : Sockets) : Sockets := { d with loop := loop }

/-- The event of a listening socket is not persistent, that of the debug port is. -/
def register (cfg : SocketsConfig) (e : FixedEvent) (persist : Bool) (d : Sockets) : Sockets :=
  { (d.rilEventSet (.fixed e) (cfg.fd e) persist).rilEventAdd (.fixed e) with registered := e :: d.registered }

/-- After `ril_event_init` -/
def init (cfg : SocketsConfig) : Sockets where
  table := List.replicate maxFdEvents none
  events := fun _ => {}
  readFds := fun _ => false
  pending := []
  fdCommand := fun _ => none
  loop := .waiting
  registered := []
  writers := []
  fds := fun fd =>
    ([.wakeupfd, .debug, .listen .socket1, .listen .socket2, .listen .socket3, .listen .socket4].find?
      fun e => cfg.fd e == fd).map .event
  connections := 0
  log := []

/-- `eventLoop` adds the event of the wakeup pipe before it waits. -/
def start (cfg : SocketsConfig) : Sockets := (init cfg).register cfg .wakeupfd true

end Sockets

/-- `startListen` and `startDebug` are steps of `RIL_register`, the last five are steps of any thread. -/
inductive SocketsAction
  | startListen (socketId : RilSocketId)
  | startDebug
  | select (ready : List ℕ)
  | selectFails
  | fire
  | done
  | acceptFails
  | accept (fd : ℕ)
  | reject
  | publish
  | watch
  | endOfStream
  | resetFdCommand
  | deleteEvent
  | rearm
  | debugPowerOff (simId : ℤ)
  | debugReset
  | hold (socketId : RilSocketId)
  | written (i : ℕ)
  | writeFails (i : ℕ)
  | openOther (fd : ℕ)
  | closeOther (fd : ℕ)
deriving DecidableEq, Repr

open Sockets in
def socketsStep (cfg : SocketsConfig) (d : Sockets) : SocketsAction → Option Sockets
  | .startListen s =>
    if cfg.uses s = true ∧ .listen s ∉ d.registered then some (d.register cfg (.listen s) false) else none
  | .startDebug => if .debug ∉ d.registered then some (d.register cfg .debug true) else none
  | .select ready =>
    if d.loop = .waiting ∧ d.pending = [] ∧ ready.Nodup ∧ ∀ fd ∈ ready, d.readFds fd = true then
      some (d.processReadReadies ready)
    else none
  | .selectFails =>
    -- a descriptor that is watched is not open
    if d.loop = .waiting ∧ d.pending = [] ∧ ∃ e ∈ d.table.reduceOption, d.fds (d.events e).fd = none then
      some (d.setLoop .ended)
    else none
  | .fire =>
    match d.loop, d.pending with
    | .waiting, e :: pending => some { d with pending := pending, loop := .calling e (d.events e).fd }
    | _, _ => none
  | .done =>
    -- also for `processCommandsCallback`, when there is no more to read for now
    match d.loop with
    | .calling (.fixed .wakeupfd) _ | .calling (.fixed .debug) _ | .calling (.commands _) _ => some (d.setLoop .waiting)
    | _ => none
  | .acceptFails =>
    match d.loop with
    | .calling (.fixed (.listen s)) _ => some (d.setLoop (.rearming s))
    | _ => none
  | .accept fd =>
    match d.loop, d.fds fd with
    | .calling (.fixed (.listen s)) _, none => some { d with
      fds := Function.update d.fds fd (some (.command s d.connections)), connections := d.connections + 1,
      log := .accepted s d.connections :: d.log, loop := .accepted s fd }
    | _, _ => none
  | .reject =>
    match d.loop with
    | .accepted s fd => some ((d.closeFd fd).setLoop (.rearming s))
    | _ => none
  | .publish =>
    match d.loop with
    | .accepted s fd => some { d with fdCommand := Function.update d.fdCommand s (some fd), loop := .connected s }
    | _ => none
  | .watch =>
    match d.loop with
    | .connected s =>
      (d.fdCommand s).map fun fd => ((d.rilEventSet (.commands s) fd true).rilEventAdd (.commands s)).setLoop .waiting
    | _ => none
  | .endOfStream =>
    match d.loop with
    | .calling (.commands s) fd => some ((d.closeFd fd).setLoop (.closed s))
    | _ => none
  | .resetFdCommand =>
    match d.loop with
    | .closed s => some { d with fdCommand := Function.update d.fdCommand s none, loop := .reset s }
    | _ => none
  | .deleteEvent =>
    -- `s_listen_event` is the event of the first socket
    match d.loop with
    | .reset s => some ((d.rilEventDel (.commands s)).setLoop (.rearming .socket1))
    | _ => none
  | .rearm =>
    match d.loop with
    | .rearming s => some ((d.rilEventAdd (.fixed (.listen s))).setLoop .waiting)
    | _ => none
  | .debugPowerOff simId =>
    match d.loop with
    | .calling (.fixed .debug) _ =>
      match cfg.debugCloses d.fdCommand (cfg.debugSocket simId) with
      | none => some (d.setLoop .waiting)
      | some fd => some ((d.closeFd fd).setLoop (.debugClosed (cfg.debugSocket simId)))
    | _ => none
  | .debugReset =>
    match d.loop with
    | .debugClosed s => some { d with fdCommand := Function.update d.fdCommand s none, loop := .waiting }
    | _ => none
  | .hold s => (d.fdCommand s).map fun fd => { d with writers := fd :: d.writers }
  | .written i => (d.writers[i]?.bind d.fds).map fun _ => { d with writers := d.writers.eraseIdx i }
  | .writeFails i => d.writers[i]?.map fun fd => { d.closeFd fd with writers := d.writers.eraseIdx i }
  | .openOther fd => if d.fds fd = none then some { d with fds := Function.update d.fds fd (some .other) } else none
  | .closeOther fd =>
    if d.fds fd = some .other then some { d with fds := Function.update d.fds fd none } else none

end Ril.Libril
