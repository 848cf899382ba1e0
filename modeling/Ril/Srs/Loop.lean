import Ril.Ipc.WakeLocks
import Ril.Lib.EventFd
import Ril.Lib.Transition
import Ril.Srs.Transport

/-! The loop that serves the SRS clients, and the server that accepts them. -/

namespace Ril.Srs

open Lib Ipc

/-- The address of a client is a number that is given once: no step compares an address that was released. -/
structure SrsClient where
  address : ℕ
  fd : ℕ
deriving DecidableEq, Repr

/-- The variable `client` of the loop -/
inductive ClientPointer
  | uninitialised
  | null
  | address (address : ℕ)
deriving DecidableEq, Repr

inductive SrsEvent
  | registered (address fd : ℕ)
  | selected (ready : List ℕ)
  | received (address : ℕ)
  | receiveFailed (address : ℕ)
  /-- the handler of its message has failed -/
  | refused (address : ℕ)
  | sent (address : ℕ)
  | sendFailed (address : ℕ)
  | closed (address fd : ℕ)
  | unregistered (address : ℕ)
  | wake (lock : WakeLock)
deriving DecidableEq, Repr

inductive SrsLoopState
  | iterating
  /-- in `select` -/
  | polling (fds : List ℕ)
  /-- before the read of the event -/
  | signalled (ready : List ℕ)
  /-- before `srs_client_find_fd_set` -/
  | finding (ready : List ℕ)
  | receiving (ready : List ℕ)
  | dispatching (ready : List ℕ) (message : SrsReceived)
  /-- in `eventfd_send` of a send that has failed, before or after the flush -/
  | reporting (ready : List ℕ) (flushed : Bool)
  | closing (ready : List ℕ)
  | unregistering (ready : List ℕ)
  | returned
  /-- memory was used that is not the client's or the buffer's -/
  | faulted
deriving DecidableEq, Repr

/-- The server between two connections, and in `eventfd_send` for a client that it has registered -/
inductive SrsServerState
  | accepting
  | registered
  | flushed
  | returned
deriving DecidableEq, Repr

structure SrsData where
  clients : List SrsClient := []
  /-- the descriptors of connections that are open -/
  openFds : List ℕ := []
  clientFd : Option ℕ := none
  event : EventFd := .empty
  available : Bool := true
  loop : SrsLoopState := .iterating
  client : ClientPointer := .uninitialised
  server : SrsServerState := .accepting
  next : ℕ := 0
  trace : List SrsEvent := []

inductive SrsAction
  | accept (fd : ℕ)
  | changeFlush
  | changeWrite
  | iterate
  | select (ready : List ℕ)
  | selectFails
  | readEvent
  | find
  | receive (readable : Bool) (read : Bytes)
  | dispatch (fmt : IpcSend) (writable : Bool) (write : ReadEvent)
  | reportFlush
  | reportWrite
  | close
  | unregister

def srsClientClose : ℕ := 0x00

def srsClientChange : ℕ := 0x02

def srsClientIoError : ℕ := 0x03

/-! ### The messages -/

def srsControlPing : UInt16 := 0x0101

def srsSndSetCallVolume : UInt16 := 0x0201

def srsSndSetCallAudioPath : UInt16 := 0x0202

def srsSndSetCallClockSync : UInt16 := 0x0203

def srsTestSetRadioState : UInt16 := 0x0301

def srsControlCaffe : ℕ := 0xCAFFE

/-- `sizeof` the data of a command that has a handler -/
def srsDataSize (command : UInt16) : Option ℕ :=
  if command = srsControlPing then some 4
  else if command = srsSndSetCallVolume then some 8
  else if command = srsSndSetCallAudioPath then some 4
  else if command = srsSndSetCallClockSync then some 1
  else if command = srsTestSetRadioState then some 4
  else none

/-- The handler of the message fails. -/
def srsRefuses (message : SrsReceived) : Bool :=
  match srsDataSize message.command with
  | none => false
  | some size => decide (message.size < size)

/-- What `srs_control_ping` sends -/
def srsAnswer (message : SrsReceived) : Option SrsMessage :=
  if message.command = srsControlPing ∧ intAt (message.data.getD []) 0 = srsControlCaffe then
    some ⟨srsControlPing, (message.data.getD []).take 4⟩
  else none

/-- The handlers of the sound commands send to the modem. -/
def srsTransmits (message : SrsReceived) : Bool :=
  message.command == srsSndSetCallVolume || message.command == srsSndSetCallAudioPath ||
    message.command == srsSndSetCallClockSync

inductive SrsSendResult
  | unavailable | failed | sent
deriving DecidableEq, Repr

/-- The wake lock is given back only when the send has failed. -/
def srsSend (found available : Bool) (clientFd : Option ℕ) (writable : Bool) (write : ReadEvent)
    (message : SrsMessage) : SrsSendResult × List WakeLock :=
  if !found then (.unavailable, [])
  else if !available then (.unavailable, [])
  else if clientFd.isSome && (srsClientSend writable write message).1 then (.sent, [.acquired])
  else (.failed, [.acquired, .released])

namespace SrsData

variable (s : SrsData)

def log (e : SrsEvent) : SrsData := { s with trace := e :: s.trace }

def logWakes (locks : List WakeLock) : SrsData := { s with trace := (locks.map .wake).reverse ++ s.trace }

/-- What the variable points to, if it points to a client -/
def pointee : Option SrsClient :=
  match s.client with
  | .address address => s.clients.find? (·.address == address)
  | _ => none

def srsClientRegister (fd : ℕ) : SrsData :=
  { s.log (.registered s.next fd) with
    clients := s.clients ++ [⟨s.next, fd⟩]
    next := s.next + 1
    openFds := fd :: s.openFds
    server := .registered }

def srsClientFdSetSetup : List ℕ := s.clients.map (·.fd)

/-- The first client whose descriptor is set, which is cleared -/
def srsClientFindFdSet (ready : List ℕ) : Option (SrsClient × List ℕ) :=
  (s.clients.find? (·.fd ∈ ready)).map fun c => (c, ready.filter (· != c.fd))

def srsClientUnregister (address : ℕ) : SrsData :=
  { s.log (.unregistered address) with clients := s.clients.eraseP (·.address == address) }

/-- The loop goes on with the next client. -/
def served (ready : List ℕ) : SrsData := { s with clientFd := none, loop := .finding ready }

def readEvent (ready : List ℕ) : SrsData :=
  match s.event.read with
  | (none, event) => { s with event := event, loop := .returned }
  | (some value, event) =>
    if value = srsClientClose then { s with event := event, loop := .returned }
    else if value = srsClientIoError then { s with event := event, loop := .closing ready }
    else { s with event := event, loop := .finding ready }

def find (ready : List ℕ) : SrsData :=
  match s.srsClientFindFdSet ready with
  | none => { s with client := .null, loop := .iterating }
  | some (c, ready) => { s with client := .address c.address, clientFd := some c.fd, loop := .receiving ready }

variable (width : ℕ)

/-- A read that fails has brought nothing. -/
def receive (ready : List ℕ) (address : ℕ) (readable : Bool) (read : Bytes) : SrsData :=
  let s := s.logWakes [.acquired]
  match if readable then srsClientRecv width read else none with
  | none => { (s.log (.receiveFailed address)).logWakes [.released] with loop := .closing ready }
  | some message =>
    if message.data.isNone then { s with loop := .faulted }
    else { s.log (.received address) with loop := .dispatching ready message }

def dispatch (ready : List ℕ) (message : SrsReceived) (address : ℕ) (fmt : IpcSend) (writable : Bool)
    (write : ReadEvent) : SrsData :=
  if srsRefuses message then { s.log (.refused address) with loop := .closing ready }
  else
    match srsAnswer message with
    | some answer =>
      let result := srsSend true s.available s.clientFd writable write answer
      match result.1 with
      | .unavailable => s.served ready
      | .sent => ((s.logWakes result.2).log (.sent address)).served ready
      | .failed => { (s.logWakes result.2).log (.sendFailed address) with loop := .reporting ready false }
    | none => (s.logWakes (if srsTransmits message then (ipcFmtSend fmt).2 else [])).served ready

def close (ready : List ℕ) : SrsData :=
  match s.pointee with
  | none => { s with loop := .faulted }
  | some c =>
    { s.log (.closed c.address c.fd) with
      openFds := s.openFds.filter (· != c.fd)
      clientFd := none
      loop := .unregistering ready }

end SrsData

/-- The steps that read or write what the two threads share -/
def srsStep (width : ℕ) (s : SrsData) : SrsAction → Option SrsData
  | .accept fd => if s.server = .accepting ∧ fd ∉ s.openFds then some (s.srsClientRegister fd) else none
  | .changeFlush => if s.server = .registered then some { s with event := s.event.read.2, server := .flushed } else none
  | .changeWrite =>
    if s.server = .flushed then
      match s.event.write srsClientChange with
      | none => some { s with server := .returned }
      | some event => some { s with event := event, server := .accepting }
    else none
  | .iterate =>
    if s.loop = .iterating then
      some { s with loop := if s.available then .polling s.srsClientFdSetSetup else .returned }
    else none
  | .select ready =>
    match s.loop with
    | .polling fds =>
      if ready ⊆ fds ∧ (ready ≠ [] ∨ s.event.count ≠ 0) then
        some { s.log (.selected ready) with loop := if s.event.count = 0 then .finding ready else .signalled ready }
      else none
    | _ => none
  | .selectFails =>
    match s.loop with
    | .polling _ => some { s with loop := .returned }
    | _ => none
  | .readEvent =>
    match s.loop with
    | .signalled ready => some (s.readEvent ready)
    | _ => none
  | .find =>
    match s.loop with
    | .finding ready => some (s.find ready)
    | _ => none
  | .receive readable read =>
    match s.loop, s.client with
    | .receiving ready, .address address =>
      if read.length ≤ srsBufferLength then some (s.receive width ready address readable read) else none
    | _, _ => none
  | .dispatch fmt writable write =>
    match s.loop, s.client with
    | .dispatching ready message, .address address => some (s.dispatch ready message address fmt writable write)
    | _, _ => none
  | .reportFlush =>
    match s.loop with
    | .reporting ready false => some { s with event := s.event.read.2, loop := .reporting ready true }
    | _ => none
  | .reportWrite =>
    match s.loop with
    | .reporting ready true => some ({ s with event := (s.event.write srsClientIoError).getD s.event }.served ready)
    | _ => none
  | .close =>
    match s.loop with
    | .closing ready => some (s.close ready)
    | _ => none
  | .unregister =>
    match s.loop, s.client with
    | .unregistering ready, .address address =>
      some { s.srsClientUnregister address with loop := .finding ready }
    | _, _ => none

/-- The state after the actions, from the start of the daemon -/
def srsFrom (as : List SrsAction) : SrsData := (run (srsStep 64) {} as).getD {}

lemma run_srs_from {as : List SrsAction} (h : (run (srsStep 64) {} as).isSome = true) :
    run (srsStep 64) {} as = some (srsFrom as) := by
  obtain ⟨s, hs⟩ := Option.isSome_iff_exists.mp h
  rw [srsFrom, hs, Option.getD_some]

/-- What each step can do -/
inductive SrsStep (width : ℕ) (s : SrsData) : SrsAction → SrsData → Prop
  | accept {fd : ℕ} (hs : s.server = .accepting) (hfd : fd ∉ s.openFds) :
      SrsStep width s (.accept fd) (s.srsClientRegister fd)
  | changeFlush (hs : s.server = .registered) :
      SrsStep width s .changeFlush { s with event := s.event.read.2, server := .flushed }
  | changeFails (hs : s.server = .flushed) : SrsStep width s .changeWrite { s with server := .returned }
  | changeWrite {event : EventFd} (hs : s.server = .flushed) (hw : s.event.write srsClientChange = some event) :
      SrsStep width s .changeWrite { s with event := event, server := .accepting }
  | iterate (hl : s.loop = .iterating) : SrsStep width s .iterate
      { s with loop := if s.available then .polling s.srsClientFdSetSetup else .returned }
  | select {fds ready : List ℕ} (hl : s.loop = .polling fds) : SrsStep width s (.select ready)
      { s.log (.selected ready) with loop := if s.event.count = 0 then .finding ready else .signalled ready }
  | selectFails {fds : List ℕ} (hl : s.loop = .polling fds) : SrsStep width s .selectFails { s with loop := .returned }
  | readEvent {ready : List ℕ} (hl : s.loop = .signalled ready) : SrsStep width s .readEvent (s.readEvent ready)
  | find {ready : List ℕ} (hl : s.loop = .finding ready) : SrsStep width s .find (s.find ready)
  | receive {ready : List ℕ} {address : ℕ} {readable : Bool} {read : Bytes} (hl : s.loop = .receiving ready)
      (hp : s.client = .address address) :
      SrsStep width s (.receive readable read) (s.receive width ready address readable read)
  | dispatch {ready : List ℕ} {message : SrsReceived} {address : ℕ} {fmt : IpcSend} {writable : Bool}
      {write : ReadEvent} (hl : s.loop = .dispatching ready message) (hp : s.client = .address address) :
      SrsStep width s (.dispatch fmt writable write) (s.dispatch ready message address fmt writable write)
  | reportFlush {ready : List ℕ} (hl : s.loop = .reporting ready false) :
      SrsStep width s .reportFlush { s with event := s.event.read.2, loop := .reporting ready true }
  | reportWrite {ready : List ℕ} (hl : s.loop = .reporting ready true) : SrsStep width s .reportWrite
      ({ s with event := (s.event.write srsClientIoError).getD s.event }.served ready)
  | close {ready : List ℕ} (hl : s.loop = .closing ready) : SrsStep width s .close (s.close ready)
  | unregister {ready : List ℕ} {address : ℕ} (hl : s.loop = .unregistering ready) (hp : s.client = .address address) :
      SrsStep width s .unregister { s.srsClientUnregister address with loop := .finding ready }

lemma srs_step {width : ℕ} {s t : SrsData} {a : SrsAction} (h : srsStep width s a = some t) : SrsStep width s a t := by
  cases a with
  | accept fd =>
    simp only [srsStep, Option.ite_none_right_eq_some, Option.some.injEq] at h
    obtain ⟨⟨hs, hfd⟩, rfl⟩ := h
    exact .accept hs hfd
  | changeFlush =>
    simp only [srsStep, Option.ite_none_right_eq_some, Option.some.injEq] at h
    obtain ⟨hs, rfl⟩ := h
    exact .changeFlush hs
  | changeWrite =>
    simp only [srsStep, Option.ite_none_right_eq_some] at h
    obtain ⟨hs, h⟩ := h
    split at h
    · obtain rfl := Option.some.inj h
      exact .changeFails hs
    · rename_i event hw
      obtain rfl := Option.some.inj h
      exact .changeWrite hs hw
  | iterate =>
    simp only [srsStep, Option.ite_none_right_eq_some, Option.some.injEq] at h
    obtain ⟨hl, rfl⟩ := h
    exact .iterate hl
  | select ready =>
    simp only [srsStep] at h
    split at h
    · rename_i fds hl
      simp only [Option.ite_none_right_eq_some, Option.some.injEq] at h
      obtain ⟨-, rfl⟩ := h
      exact .select hl
    · cases h
  | selectFails =>
    simp only [srsStep] at h
    split at h
    · rename_i fds hl
      obtain rfl := Option.some.inj h
      exact .selectFails hl
    · cases h
  | readEvent =>
    simp only [srsStep] at h
    split at h
    · rename_i ready hl
      obtain rfl := Option.some.inj h
      exact .readEvent hl
    · cases h
  | find =>
    simp only [srsStep] at h
    split at h
    · rename_i ready hl
      obtain rfl := Option.some.inj h
      exact .find hl
    · cases h
  | receive readable read =>
    simp only [srsStep] at h
    split at h
    · rename_i ready address hl hp
      simp only [Option.ite_none_right_eq_some, Option.some.injEq] at h
      obtain ⟨-, rfl⟩ := h
      exact .receive hl hp
    · cases h
  | dispatch fmt writable write =>
    simp only [srsStep] at h
    split at h
    · rename_i ready message address hl hp
      obtain rfl := Option.some.inj h
      exact .dispatch hl hp
    · cases h
  | reportFlush =>
    simp only [srsStep] at h
    split at h
    · rename_i ready hl
      obtain rfl := Option.some.inj h
      exact .reportFlush hl
    · cases h
  | reportWrite =>
    simp only [srsStep] at h
    split at h
    · rename_i ready hl
      obtain rfl := Option.some.inj h
      exact .reportWrite hl
    · cases h
  | close =>
    simp only [srsStep] at h
    split at h
    · rename_i ready hl
      obtain rfl := Option.some.inj h
      exact .close hl
    · cases h
  | unregister =>
    simp only [srsStep] at h
    split at h
    · rename_i ready address hl hp
      obtain rfl := Option.some.inj h
      exact .unregister hl hp
    · cases h

end Ril.Srs
