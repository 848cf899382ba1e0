import Ril.Lib.EventFd
import Ril.Samsung.Proofs.Calm

/-! The threads of the IPC clients: how they open and close their client, count its failures and give up. What is asked
of the library for the modem is recorded with its result. `RIL_LOCK` makes a closing and reopening one step. -/

namespace Ril.Samsung

open Ril.Lib

inductive IpcClient
  | fmt | rfs
deriving DecidableEq, Repr

inductive ModemCall
  | boot | powerOn | opening | closing | powerOff
deriving DecidableEq, Repr

inductive ClientEntry
  | created
  | spawned
  | called (call : ModemCall) (ok : Bool)
  | sent (taken : Bool)
  | received (ok : Bool)
  | handled
  | failed
  | radioOff
  | radioUnavailable
  | freed
deriving DecidableEq, Repr

inductive ClientPhase
  /-- before `ril_client_create` -/
  | absent
  /-- in the loop of `RIL_Init` that opens the client, with its failures -/
  | opening (failures : ℕ)
  | opened
  /-- `RIL_Init` has failed -/
  | abandoned
  | looping
  /-- with a message that was received -/
  | handling
  /-- before the next iteration of `ril_client_thread` -/
  | retrying
  | stopping
  | stopped
deriving DecidableEq, Repr

/-- `data` is there from `create` to `destroy`; of it the event is kept. The log has the newest entry first. -/
structure Client where
  failures : ℕ := 0
  available : Bool := false
  data : Option EventFd := none
  phase : ClientPhase := .absent
  log : List ClientEntry := []

structure OpenCalls where
  boot : Bool
  powerOn : Bool
  opening : Bool
deriving Repr

structure CloseCalls where
  closing : Bool
  powerOff : Bool
deriving Repr

/-- What `ipc_client_poll` returns, the count of descriptors that it leaves, whether the event is among them, and
whether the message that follows can be received. -/
structure PollRound where
  result : Option ℕ
  count : ℕ
  eventReady : Bool
  received : Bool
deriving Repr

def clientRetryCount : ℕ := 5

def eventClose : ℕ := 0x00

def eventIoError : ℕ := 0x01

namespace Client

def record (entry : ClientEntry) (c : Client) : Client := { c with log := entry :: c.log }

/-- `eventfd_send`: the counter is read before the event is written. -/
def sendEvent (event : ℕ) (fd : EventFd) (c : Client) : Bool × Client :=
  match fd.read.2.write event with
  | none => (false, { c with data := some fd.read.2 })
  | some fd => (true, { c with data := some fd })

def call (call : ModemCall) (ok : Bool) (c : Client) : Bool × Client := (ok, c.record (.called call ok))

/-- A step of a function that fails at the first step that does. -/
def andThen (r : Bool × Client) (next : Client → Bool × Client) : Bool × Client :=
  if r.1 then next r.2 else (false, r.2)

/-- `ipc_fmt_create`, `ipc_rfs_create` -/
def ipcCreate (ok : Bool) (c : Client) : Bool × Client :=
  if ok then (true, { c with available := false, data := some .empty }.record .created)
  else (false, { c with available := false })

def ipcFmtBoot (io : OpenCalls) (c : Client) : Bool × Client :=
  if c.failures ≠ 1 then andThen (c.call .boot io.boot) fun c => c.call .powerOn io.powerOn else (true, c)

def ipcFmtOpen (io : OpenCalls) (c : Client) : Bool × Client :=
  match c.data with
  | none => (false, c)
  | some fd =>
    andThen (c.ipcFmtBoot io) fun c =>
    andThen (c.call .opening io.opening) fun c =>
    let c := if c.failures = 1 then c.record .radioOff else c
    (true, { c with available := true, data := some fd.read.2 })

def ipcRfsOpen (io : OpenCalls) (c : Client) : Bool × Client :=
  match c.data with
  | none => (false, c)
  | some fd =>
    andThen (c.call .opening io.opening) fun c =>
    (true, { c with available := true, data := some fd.read.2 })

def ipcOpen (client : IpcClient) (io : OpenCalls) (c : Client) : Bool × Client :=
  match client with
  | .fmt => c.ipcFmtOpen io
  | .rfs => c.ipcRfsOpen io

/-- What `ipc_fmt_close` and `ipc_rfs_close` have in common -/
def ipcCloseTransport (io : CloseCalls) (c : Client) : Bool × Client :=
  match c.data with
  | none => (false, c)
  | some fd => andThen ({ c with available := false }.sendEvent eventClose fd) fun c => c.call .closing io.closing

def ipcFmtClose (io : CloseCalls) (c : Client) : Bool × Client :=
  andThen (c.ipcCloseTransport io) fun c =>
  if c.failures ≠ 1 then c.call .powerOff io.powerOff else (true, c)

def ipcRfsClose (io : CloseCalls) (c : Client) : Bool × Client :=
  andThen (c.ipcCloseTransport io) fun c => c.call .powerOff io.powerOff

def ipcClose (client : IpcClient) (io : CloseCalls) (c : Client) : Bool × Client :=
  match client with
  | .fmt => c.ipcFmtClose io
  | .rfs => c.ipcRfsClose io

/-- `ipc_fmt_destroy`, `ipc_rfs_destroy` -/
def ipcDestroy (client : IpcClient) (io : CloseCalls) (c : Client) : Client :=
  match c.data with
  | none => c
  | some _ =>
    let c := if c.available then (c.ipcClose client io).2 else c
    { c with available := false, data := none }.record .freed

/-- `ipc_fmt_send`, `ipc_rfs_send` -/
def ipcSend (taken : Bool) (c : Client) : Client :=
  match c.data with
  | none => c
  | some fd =>
    if c.available then
      let c := c.record (.sent taken)
      if taken then c else (c.sendEvent eventIoError fd).2
    else c

/-- `client->failures++`, and the test of the loop of `ril_client_thread` -/
def countFailure (c : Client) : Client :=
  { c.record .failed with
    failures := c.failures + 1
    phase := if c.failures + 1 < clientRetryCount then .retrying else .stopping }

/-- The loop of the client returns an error. -/
def loopFails (client : IpcClient) (c : Client) : Client :=
  match client with
  | .fmt => (c.record .radioUnavailable).countFailure
  | .rfs => c.countFailure

/-- `ipc_client_recv` in the loop -/
def ipcRecv (client : IpcClient) (received : Bool) (c : Client) : Client :=
  if received then { c.record (.received true) with phase := .handling }
  else (c.record (.received false)).loopFails client

/-- An iteration of `ipc_fmt_loop` or `ipc_rfs_loop` up to the dispatch of the message; the result of the read of the
event replaces the one of the poll. -/
def ipcLoop (client : IpcClient) (io : PollRound) (c : Client) : Client :=
  match c.data with
  | none => c.countFailure
  | some fd =>
    if c.available then
      match io.result with
      | none => c.loopFails client
      | some result =>
        if io.eventReady ∧ 0 < io.count then
          let c := { c with data := some fd.read.2 }
          match fd.read.1 with
          | none => c.loopFails client
          | some event =>
            if event = eventClose then { c with phase := .stopping }
            else if event = eventIoError then c.loopFails client
            else if 0 = io.count then c
            else c.ipcRecv client io.received
        else if result = io.count then c
        else c.ipcRecv client io.received
    else c.loopFails client

/-- `ipc_fmt_dispatch`, `ipc_rfs_dispatch` in the loop -/
def dispatched (client : IpcClient) (ok : Bool) (c : Client) : Client :=
  if ok then { c.record .handled with failures := 0, phase := .looping } else c.loopFails client

/-- An iteration of `ril_client_thread` after a failure -/
def retry (client : IpcClient) (closing : CloseCalls) (opening : OpenCalls) (c : Client) : Client :=
  let r := andThen (c.ipcClose client closing) fun c => c.ipcOpen client opening
  if r.1 then { r.2 with phase := .looping } else r.2.countFailure

/-- `RIL_Init` opens a client in at most five attempts. -/
def openAttempt (client : IpcClient) (failures : ℕ) (io : OpenCalls) (c : Client) : Client :=
  let r := c.ipcOpen client io
  { r.2 with phase :=
      if r.1 then .opened else if failures + 1 < clientRetryCount then .opening (failures + 1) else .abandoned }

end Client

inductive ClientAction
  | create (ok : Bool)
  | opening (io : OpenCalls)
  | spawn (ok : Bool)
  | send (taken : Bool)
  | poll (io : PollRound)
  | dispatched (ok : Bool)
  | retry (closing : CloseCalls) (opening : OpenCalls)
  | stop (closing destroying : CloseCalls)

/-- The steps of `RIL_Init`, of the thread of the client, and of the threads that send. -/
def clientStep (client : IpcClient) (c : Client) : ClientAction → Option Client
  | .create ok =>
    if c.phase = .absent then
      some { (c.ipcCreate ok).2 with phase := if (c.ipcCreate ok).1 then .opening 0 else .abandoned }
    else none
  | .opening io =>
    match c.phase with
    | .opening failures => some (c.openAttempt client failures io)
    | _ => none
  | .spawn ok =>
    if c.phase = .opened then
      some (if ok then { c.record .spawned with failures := 0, phase := .looping } else { c with phase := .abandoned })
    else none
  | .send taken => some (c.ipcSend taken)
  | .poll io => if c.phase = .looping then some (c.ipcLoop client io) else none
  | .dispatched ok => if c.phase = .handling then some (c.dispatched client ok) else none
  | .retry closing opening => if c.phase = .retrying then some (c.retry client closing opening) else none
  | .stop closing destroying =>
    if c.phase = .stopping then
      some { (c.ipcClose client closing).2.ipcDestroy client destroying with phase := .stopped }
    else none

abbrev ReachableClient (client : IpcClient) : Client → Prop := Reaches (clientStep client) (fun _ _ => True) {}

/-! ### What a client goes through -/

/-- Whether the transport has been opened and not been closed since. -/
def transportOpen : List ClientEntry → Bool
  | [] => false
  | .called .opening true :: _ => true
  | .called .closing _ :: _ => false
  | _ :: log => transportOpen log

/-- Whether the client has booted the modem and powered it on, and not off since. -/
def modemBooted : List ClientEntry → Bool
  | [] => false
  | .called .powerOn true :: .called .boot true :: _ => true
  | .called .powerOff _ :: _ => false
  | _ :: log => modemBooted log

/-- The failures since a message was handled, or since the thread was started. -/
def failuresSince : List ClientEntry → ℕ
  | [] => 0
  | .failed :: log => failuresSince log + 1
  | .handled :: _ => 0
  | .spawned :: _ => 0
  | _ :: log => failuresSince log

/-- How often the modem was booted since. -/
def bootsSince : List ClientEntry → ℕ
  | [] => 0
  | .called .boot _ :: log => bootsSince log + 1
  | .handled :: _ => 0
  | .spawned :: _ => 0
  | _ :: log => bootsSince log

/-- What precedes an opening of the client by its thread. The first failure is answered without a boot. -/
def restart (client : IpcClient) (failures : ℕ) : List ClientEntry :=
  match client with
  | .fmt =>
    if failures = 1 then [.called .closing true]
    else [.called .powerOn true, .called .boot true, .called .powerOff true, .called .closing true]
  | .rfs => [.called .powerOff true, .called .closing true]

/-- What is used is open, on a modem that was booted, and nothing is done with what was freed. -/
def Proper (client : IpcClient) (entry : ClientEntry) (earlier : List ClientEntry) : Prop :=
  .freed ∉ earlier ∧
    match entry with
    | .sent _ | .received _ => transportOpen earlier = true ∧ (client = .fmt → modemBooted earlier = true)
    | .called .opening _ =>
      (client = .fmt → modemBooted earlier = true) ∧
        (.spawned ∈ earlier → ∃ before, earlier = restart client (failuresSince earlier) ++ before)
    | .freed => failuresSince earlier = clientRetryCount ∧ transportOpen earlier = false
    | _ => True

def AllProper (client : IpcClient) (log : List ClientEntry) : Prop :=
  ∀ later entry earlier, log = later ++ entry :: earlier → Proper client entry earlier

/-- The entries of which nothing is asked -/
def ClientEntry.plain : ClientEntry → Bool
  | .sent _ | .received _ | .called .opening _ | .freed => false
  | _ => true

variable {client : IpcClient} {entry : ClientEntry} {entries log : List ClientEntry} {c c' : Client} {fd : EventFd}

namespace AllProper

lemma nil : AllProper client [] := by
  intro later entry earlier h
  cases later <;> cases h

lemma cons (he : Proper client entry log) (h : AllProper client log) : AllProper client (entry :: log) := by
  intro later entry' earlier hl
  rcases split_cons hl with ⟨-, rfl, rfl⟩ | ⟨later, -, hl⟩
  · exact he
  · exact h later entry' earlier hl

lemma plain (h : AllProper client log) (hf : .freed ∉ log) (hp : ∀ e ∈ entries, ClientEntry.plain e = true) :
    AllProper client (entries ++ log) ∧ .freed ∉ entries ++ log := by
  induction entries with
  | nil => exact ⟨h, hf⟩
  | cons e entries ih =>
    obtain ⟨hall, hnot⟩ := ih fun e' he' => hp e' (List.mem_cons_of_mem _ he')
    have hplain := hp e List.mem_cons_self
    refine ⟨hall.cons ⟨hnot, ?_⟩, ?_⟩
    · revert hplain
      rcases e with _ | _ | ⟨_ | _ | _ | _ | _, _⟩ | _ | _ | _ | _ | _ | _ | _ <;> simp [ClientEntry.plain]
    · intro hmem
      rcases List.mem_cons.mp hmem with rfl | hmem
      · simp [ClientEntry.plain] at hplain
      · exact hnot hmem

end AllProper

namespace Client

/-- The transport can be used. -/
def Ready (client : IpcClient) (log : List ClientEntry) : Prop :=
  transportOpen log = true ∧ (client = .fmt → modemBooted log = true)

/-- A client with its data, whose thread has not ended -/
structure Alive (client : IpcClient) (c : Client) : Prop where
  proper : AllProper client c.log
  notFreed : .freed ∉ c.log
  data : ∃ fd, c.data = some fd ∧ fd.count ≤ 1
  ready : c.available = true → Ready client c.log

/-- The counting of the failures -/
def Fits (c : Client) : Prop :=
  match c.phase with
  | .opening _ => .spawned ∉ c.log ∧ failuresSince c.log = 0 ∧ c.failures = 0 ∧ c.available = false
  | .opened => .spawned ∉ c.log ∧ failuresSince c.log = 0 ∧ c.failures = 0 ∧ c.available = true
  | .abandoned => .spawned ∉ c.log ∧ failuresSince c.log = 0
  | .looping | .handling =>
    .spawned ∈ c.log ∧ c.available = true ∧ c.failures = failuresSince c.log ∧ c.failures < clientRetryCount ∧
      bootsSince c.log ≤ c.failures - 1
  | .retrying =>
    .spawned ∈ c.log ∧ c.failures = failuresSince c.log ∧ 0 < c.failures ∧ c.failures < clientRetryCount ∧
      bootsSince c.log ≤ c.failures - 2 ∧ (c.failures = 1 → c.available = true)
  | .stopping =>
    .spawned ∈ c.log ∧ c.failures = failuresSince c.log ∧ c.failures = clientRetryCount ∧ bootsSince c.log ≤ 3
  | .absent | .stopped => False

inductive Meets (client : IpcClient) (c : Client) : Prop
  | absent (phase : c.phase = .absent) (log : c.log = []) (failures : c.failures = 0) (available : c.available = false)
      (data : c.data = none)
  | gone (phase : c.phase = .abandoned) (log : c.log = []) (available : c.available = false) (data : c.data = none)
  | alive (alive : c.Alive client) (fits : c.Fits)
  | stopped (phase : c.phase = .stopped) (available : c.available = false) (data : c.data = none)
      (proper : AllProper client c.log) (spawned : .spawned ∈ c.log) (failures : failuresSince c.log = clientRetryCount)
      (boots : bootsSince c.log ≤ 3)
      (freed : ∃ earlier, c.log = .freed :: earlier)

/-! ### What a close and an open do -/

def closeEntries (client : IpcClient) (failures : ℕ) (io : CloseCalls) : Bool × List ClientEntry :=
  if io.closing then
    if client = .fmt ∧ failures = 1 then (true, [.called .closing true])
    else (io.powerOff, [.called .powerOff io.powerOff, .called .closing true])
  else (false, [.called .closing false])

def openEntries (client : IpcClient) (failures : ℕ) (io : OpenCalls) : Bool × List ClientEntry :=
  match client with
  | .rfs => (io.opening, [.called .opening io.opening])
  | .fmt =>
    if failures = 1 then
      if io.opening then (true, [.radioOff, .called .opening true]) else (false, [.called .opening false])
    else if io.boot then
      if io.powerOn then (io.opening, [.called .opening io.opening, .called .powerOn true, .called .boot true])
      else (false, [.called .powerOn false, .called .boot true])
    else (false, [.called .boot false])

lemma close_event (c : Client) (fd : EventFd) :
    c.sendEvent eventClose fd = (true, { c with data := some .empty }) := rfl

lemma ipc_close_eq (hd : c.data = some fd) (io : CloseCalls) : c.ipcClose client io =
    ((closeEntries client c.failures io).1,
      { c with available := false, data := some .empty, log := (closeEntries client c.failures io).2 ++ c.log }) := by
  obtain ⟨closing, powerOff⟩ := io
  have ht : c.ipcCloseTransport ⟨closing, powerOff⟩ =
      { c with available := false, data := some .empty }.call .closing closing := by
    rw [ipcCloseTransport, hd]
    simp [close_event, andThen]
  cases client with
  | fmt =>
    rw [ipcClose, ipcFmtClose, ht]
    cases closing <;> by_cases h1 : c.failures = 1 <;> simp [andThen, call, record, closeEntries, h1]
  | rfs =>
    rw [ipcClose, ipcRfsClose, ht]
    cases closing <;> simp [andThen, call, record, closeEntries]

lemma ipc_open_eq (client : IpcClient) (hd : c.data = some fd) (io : OpenCalls) : c.ipcOpen client io =
    ((openEntries client c.failures io).1,
      { c with
        available := c.available || (openEntries client c.failures io).1
        data := some (if (openEntries client c.failures io).1 then .empty else fd)
        log := (openEntries client c.failures io).2 ++ c.log }) := by
  obtain ⟨boot, powerOn, opening⟩ := io
  cases client with
  | fmt =>
    rw [ipcOpen, ipcFmtOpen, hd]
    by_cases h1 : c.failures = 1 <;> cases boot <;> cases powerOn <;> cases opening <;>
      simp [ipcFmtBoot, andThen, call, record, openEntries, h1, hd]
  | rfs =>
    rw [ipcOpen, ipcRfsOpen, hd]
    cases opening <;> simp [andThen, call, record, openEntries, hd]

lemma close_counts (client : IpcClient) (io : CloseCalls) (failures : ℕ) (log : List ClientEntry) :
    let log' := (closeEntries client failures io).2 ++ log
    (.spawned ∈ log' ↔ .spawned ∈ log) ∧ failuresSince log' = failuresSince log ∧ bootsSince log' = bootsSince log ∧
      transportOpen log' = false := by
  obtain ⟨closing, powerOff⟩ := io
  cases closing
  · simp [closeEntries, failuresSince, bootsSince, transportOpen]
  · by_cases h : client = .fmt ∧ failures = 1 <;>
      simp [closeEntries, h, failuresSince, bootsSince, transportOpen]

lemma close_plain (io : CloseCalls) (failures : ℕ) :
    ∀ e ∈ (closeEntries client failures io).2, ClientEntry.plain e = true := by
  obtain ⟨closing, powerOff⟩ := io
  cases closing
  · simp [closeEntries, ClientEntry.plain]
  · by_cases h : client = .fmt ∧ failures = 1 <;> simp [closeEntries, h, ClientEntry.plain]

lemma open_counts (client : IpcClient) (io : OpenCalls) (failures : ℕ) (log : List ClientEntry) :
    let log' := (openEntries client failures io).2 ++ log
    (.spawned ∈ log' ↔ .spawned ∈ log) ∧ failuresSince log' = failuresSince log ∧
      bootsSince log' ≤ bootsSince log + if failures = 1 then 0 else 1 := by
  obtain ⟨boot, powerOn, opening⟩ := io
  cases client
  · by_cases h1 : failures = 1 <;> cases boot <;> cases powerOn <;> cases opening <;>
      simp [openEntries, h1, failuresSince, bootsSince]
  · simp [openEntries, failuresSince, bootsSince]

/-- The log when the transport is opened -/
def beforeOpening (client : IpcClient) (failures : ℕ) (log : List ClientEntry) : List ClientEntry :=
  if client = .fmt ∧ failures ≠ 1 then .called .powerOn true :: .called .boot true :: log else log

lemma open_entries_cases (io : OpenCalls) (failures : ℕ) (log : List ClientEntry) :
    ((openEntries client failures io).1 = false ∧
        ∀ e ∈ (openEntries client failures io).2, ClientEntry.plain e = true) ∨
      ∃ later, (∀ e ∈ later, e = ClientEntry.radioOff) ∧ (openEntries client failures io).2 ++ log =
        later ++ .called .opening (openEntries client failures io).1 :: beforeOpening client failures log := by
  obtain ⟨boot, powerOn, opening⟩ := io
  cases client
  · by_cases h1 : failures = 1
    · cases opening
      · exact .inr ⟨[], by simp, by simp [openEntries, h1, beforeOpening]⟩
      · exact .inr ⟨[.radioOff], by simp, by simp [openEntries, h1, beforeOpening]⟩
    · cases boot
      · exact .inl ⟨by simp [openEntries, h1], by simp [openEntries, h1, ClientEntry.plain]⟩
      · cases powerOn
        · exact .inl ⟨by simp [openEntries, h1], by simp [openEntries, h1, ClientEntry.plain]⟩
        · exact .inr ⟨[], by simp, by simp [openEntries, h1, beforeOpening]⟩
  · exact .inr ⟨[], by simp, by simp [openEntries, beforeOpening]⟩

/-- The entries of a close that succeeds -/
lemma close_succeeds (log : List ClientEntry) {io : CloseCalls} {failures : ℕ}
    (h : (closeEntries client failures io).1 = true) :
    beforeOpening client failures ((closeEntries client failures io).2 ++ log) = restart client failures ++ log := by
  obtain ⟨closing, powerOff⟩ := io
  cases closing
  · simp [closeEntries] at h
  · cases client
    · by_cases h1 : failures = 1
      · simp [closeEntries, h1, beforeOpening, restart]
      · simp only [closeEntries, h1, and_false, if_false, if_true] at h
        subst h
        simp [closeEntries, h1, beforeOpening, restart]
    · simp only [closeEntries, reduceCtorEq, false_and, if_false, if_true] at h
      subst h
      simp [closeEntries, beforeOpening, restart]

lemma Alive.close (h : c.Alive client) (io : CloseCalls) : (c.ipcClose client io).2.Alive client := by
  obtain ⟨fd, hd, -⟩ := h.data
  obtain ⟨hp, hn⟩ := h.proper.plain h.notFreed (close_plain io c.failures)
  rw [ipc_close_eq hd]
  exact ⟨hp, hn, ⟨.empty, rfl, by simp⟩, fun ha => absurd ha Bool.false_ne_true⟩

/-- An open keeps the client alive where the modem is booted or is booted by it, and where a thread has closed the
client before. -/
lemma Alive.opening (h : c.Alive client) (ha : c.available = false)
    (hb : client = .fmt → modemBooted (beforeOpening client c.failures c.log) = true)
    (hr : .spawned ∈ c.log → ∃ before, beforeOpening client c.failures c.log =
      restart client (failuresSince (beforeOpening client c.failures c.log)) ++ before) (io : OpenCalls) :
    (c.ipcOpen client io).2.Alive client := by
  obtain ⟨fd, hd, hcount⟩ := h.data
  have hdata : ∃ fd', some (if (openEntries client c.failures io).1 then EventFd.empty else fd) = some fd' ∧
      fd'.count ≤ 1 := by
    refine ⟨_, rfl, ?_⟩
    split
    · simp
    · exact hcount
  have hbefore : ∀ e ∈ ClientEntry.called .powerOn true :: [ClientEntry.called .boot true],
      ClientEntry.plain e = true := by
    simp [ClientEntry.plain]
  have hbp : AllProper client (beforeOpening client c.failures c.log) ∧
      .freed ∉ beforeOpening client c.failures c.log := by
    rw [beforeOpening]
    split
    · exact h.proper.plain h.notFreed hbefore
    · exact ⟨h.proper, h.notFreed⟩
  have hs : .spawned ∈ beforeOpening client c.failures c.log → .spawned ∈ c.log := by
    rw [beforeOpening]
    split <;> simp
  rw [ipc_open_eq _ hd]
  rcases open_entries_cases io c.failures c.log with ⟨hf, hplain⟩ | ⟨later, hlater, hlog⟩
  · obtain ⟨hp, hn⟩ := h.proper.plain h.notFreed hplain
    refine ⟨hp, hn, hdata, fun ht => ?_⟩
    simp [ha, hf] at ht
  · set ok := (openEntries client c.failures io).1 with hok
    have hopen : Proper client (.called .opening ok) (beforeOpening client c.failures c.log) :=
      ⟨hbp.2, hb, fun hm => hr (hs hm)⟩
    have hnot : ClientEntry.freed ∉ ClientEntry.called .opening ok :: beforeOpening client c.failures c.log := by
      simpa using hbp.2
    have hplain : ∀ e ∈ later, ClientEntry.plain e = true := by
      intro e he
      rw [hlater e he]
      rfl
    obtain ⟨hp, hn⟩ := (hbp.1.cons hopen).plain hnot hplain
    have hready : ok = true → Ready client (later ++ .called .opening ok :: beforeOpening client c.failures c.log) := by
      intro htrue
      have hskip : ∀ later : List ClientEntry, (∀ e ∈ later, e = .radioOff) → ∀ log, Ready client log →
          Ready client (later ++ log) := by
        intro later
        induction later with
        | nil => exact fun _ _ h => h
        | cons e later ih =>
          intro hl log hlog
          obtain rfl := hl e List.mem_cons_self
          exact ih (fun e he => hl e (List.mem_cons_of_mem _ he)) log hlog
      refine hskip later hlater _ ⟨?_, fun hc => ?_⟩
      · rw [htrue]
        rfl
      · exact hb hc
    refine ⟨?_, ?_, hdata, fun ht => ?_⟩
    · simp only
      rw [hlog]
      exact hp
    · simp only
      rw [hlog]
      exact hn
    · simp only
      rw [hlog]
      refine hready ?_
      simpa [ha] using ht

/-! ### What each step keeps -/

lemma Alive.logged (h : c.Alive client) (he : Proper client entry c.log) (hne : entry ≠ .freed)
    (hready : Ready client c.log → Ready client (entry :: c.log)) : (c.record entry).Alive client := by
  refine ⟨h.proper.cons he, ?_, h.data, fun ha => hready (h.ready ha)⟩
  intro hmem
  rcases List.mem_cons.mp hmem with he | hmem
  · exact hne he.symm
  · exact h.notFreed hmem

lemma Alive.updated (h : c.Alive client) (hl : c'.log = c.log) (ha : c'.available = c.available)
    (hd : ∃ fd, c'.data = some fd ∧ fd.count ≤ 1) : c'.Alive client :=
  ⟨hl ▸ h.proper, hl ▸ h.notFreed, hd, fun h' => hl ▸ h.ready (ha ▸ h')⟩

lemma Alive.count_failure (h : c.Alive client) (hs : .spawned ∈ c.log) (hf : c.failures = failuresSince c.log)
    (hlt : c.failures < clientRetryCount) (hb : bootsSince c.log ≤ c.failures - 1)
    (ha : c.failures = 0 → c.available = true) : Meets client c.countFailure := by
  have hlogged : (c.record .failed).Alive client := h.logged ⟨h.notFreed, trivial⟩ (by simp) fun hr => hr
  have halive : c.countFailure.Alive client := hlogged.updated rfl rfl h.data
  refine .alive halive ?_
  have hs' : .spawned ∈ ClientEntry.failed :: c.log := List.mem_cons_of_mem _ hs
  by_cases hlast : c.failures + 1 < clientRetryCount
  · have hphase : c.countFailure.phase = .retrying := by simp [countFailure, hlast]
    rw [Fits, hphase]
    refine ⟨hs', congrArg (· + 1) hf, Nat.succ_pos _, hlast, ?_, fun h1 => ha ?_⟩
    · exact hb
    · exact Nat.succ.inj h1
  · have hphase : c.countFailure.phase = .stopping := by simp [countFailure, hlast]
    have hfive : c.failures = 4 := by
      rw [clientRetryCount] at hlt hlast
      omega
    rw [Fits, hphase]
    refine ⟨hs', congrArg (· + 1) hf, ?_, ?_⟩
    · change c.failures + 1 = 5
      rw [hfive]
    · rw [hfive] at hb
      exact hb

lemma Alive.loop_fails (h : c.Alive client) (hs : .spawned ∈ c.log) (ha : c.available = true)
    (hf : c.failures = failuresSince c.log) (hlt : c.failures < clientRetryCount)
    (hb : bootsSince c.log ≤ c.failures - 1) : Meets client (c.loopFails client) := by
  cases client with
  | fmt =>
    have hrec : (c.record .radioUnavailable).Alive .fmt := h.logged ⟨h.notFreed, trivial⟩ (by simp) fun hr => hr
    exact hrec.count_failure (List.mem_cons_of_mem _ hs) hf hlt hb fun _ => ha
  | rfs => exact h.count_failure hs hf hlt hb fun _ => ha

lemma Alive.recv (h : c.Alive client) (hs : .spawned ∈ c.log) (ha : c.available = true)
    (hf : c.failures = failuresSince c.log) (hlt : c.failures < clientRetryCount)
    (hb : bootsSince c.log ≤ c.failures - 1) (received : Bool) : Meets client (c.ipcRecv client received) := by
  have hrec : (c.record (.received received)).Alive client := h.logged ⟨h.notFreed, h.ready ha⟩ (by simp) fun hr => hr
  have hs' : .spawned ∈ ClientEntry.received received :: c.log := List.mem_cons_of_mem _ hs
  cases received with
  | true => exact .alive (hrec.updated rfl rfl h.data) ⟨hs', ha, hf, hlt, hb⟩
  | false => exact hrec.loop_fails hs' ha hf hlt hb

/-- The close event is `0`, which no read of the counter yields. -/
lemma Alive.loop (h : c.Alive client) (hphase : c.phase = .looping) (hs : .spawned ∈ c.log) (ha : c.available = true)
    (hf : c.failures = failuresSince c.log) (hlt : c.failures < clientRetryCount)
    (hb : bootsSince c.log ≤ c.failures - 1) (io : PollRound) : Meets client (c.ipcLoop client io) := by
  obtain ⟨fd, hd, hcount⟩ := h.data
  have hread : ({ c with data := some fd.read.2 } : Client).Alive client := h.updated rfl rfl ⟨_, rfl, by simp⟩
  have hstays : Meets client c := .alive h (by rw [Fits, hphase]; exact ⟨hs, ha, hf, hlt, hb⟩)
  rw [ipcLoop, hd]
  dsimp only
  rw [if_pos ha]
  cases hr : io.result with
  | none => exact h.loop_fails hs ha hf hlt hb
  | some result =>
    dsimp only
    split
    · cases he : fd.read.1 with
      | none => exact hread.loop_fails hs ha hf hlt hb
      | some event =>
        obtain ⟨hevent, hne⟩ := EventFd.read_eq_some.mp he
        dsimp only
        rw [eventClose, if_neg hne]
        have hone : event = eventIoError := by
          rw [eventIoError]
          omega
        rw [if_pos hone]
        exact hread.loop_fails hs ha hf hlt hb
    · split
      · exact hstays
      · exact h.recv hs ha hf hlt hb io.received

lemma Alive.retry (h : c.Alive client) (hs : .spawned ∈ c.log) (hf : c.failures = failuresSince c.log)
    (hpos : 0 < c.failures) (hlt : c.failures < clientRetryCount) (hb : bootsSince c.log ≤ c.failures - 2)
    (ha : c.failures = 1 → c.available = true) (closing : CloseCalls) (opening : OpenCalls) :
    Meets client (c.retry client closing opening) := by
  obtain ⟨fd, hd, -⟩ := h.data
  have hclosed := h.close closing
  obtain ⟨hspawned, hfailures, hboots, -⟩ := close_counts client closing c.failures c.log
  have hbooted : c.failures = 1 → client = .fmt →
      modemBooted ((closeEntries client c.failures closing).2 ++ c.log) = true := by
    intro h1 hc
    have hold := (h.ready (ha h1)).2 hc
    obtain ⟨ok, powerOff⟩ := closing
    cases ok <;> simpa [closeEntries, hc, h1, modemBooted] using hold
  rw [Client.retry]
  rw [ipc_close_eq hd] at hclosed ⊢
  set closed : Client := { c with
    available := false
    data := some .empty
    log := (closeEntries client c.failures closing).2 ++ c.log } with hset
  cases hok : (closeEntries client c.failures closing).1 with
  | false =>
    simp only [andThen, Bool.false_eq_true, if_false]
    have hb' : c.failures - 2 ≤ c.failures - 1 := Nat.sub_le_sub_left (by decide) _
    exact hclosed.count_failure (hspawned.mpr hs) (hf.trans hfailures.symm) hlt (hboots.trans_le (hb.trans hb'))
      fun h0 => absurd h0 hpos.ne'
  | true =>
    simp only [andThen, if_true]
    have hrestart := close_succeeds c.log hok
    have hsince : failuresSince (beforeOpening client c.failures closed.log) = c.failures := by
      rw [hf, ← hfailures, beforeOpening]
      split <;> rfl
    have hopened := hclosed.opening rfl
      (by
        intro hc
        by_cases h1 : c.failures = 1
        · rw [beforeOpening, if_neg (by simp [hset, h1])]
          exact hbooted h1 hc
        · rw [beforeOpening, if_pos ⟨hc, h1⟩]
          rfl)
      (fun _ => ⟨c.log, by rw [hsince]; exact hrestart⟩) opening
    obtain ⟨hspawned', hfailures', hboots'⟩ := open_counts client opening c.failures closed.log
    have hd' : closed.data = some .empty := rfl
    have heq := ipc_open_eq client hd' opening
    rw [heq] at hopened ⊢
    have hs' := hspawned'.mpr (hspawned.mpr hs)
    have hf' := hf.trans (hfailures.symm.trans hfailures'.symm)
    have hb' : bootsSince ((openEntries client c.failures opening).2 ++ closed.log) ≤ c.failures - 1 := by
      refine hboots'.trans ?_
      rw [hboots]
      split <;> omega
    cases hopen : (openEntries client closed.failures opening).1 with
    | true =>
      rw [if_pos rfl]
      rw [hopen] at hopened
      refine .alive (hopened.updated rfl rfl ⟨_, rfl, by simp⟩) ⟨hs', ?_, hf', hlt, hb'⟩
      rfl
    | false =>
      rw [if_neg Bool.false_ne_true]
      rw [hopen] at hopened
      exact hopened.count_failure hs' hf' hlt hb' fun h0 => absurd h0 hpos.ne'

lemma ipc_send_fits (h : c.Alive client) (hf : c.Fits) (taken : Bool) : Meets client (c.ipcSend taken) := by
  obtain ⟨fd, hd, hcount⟩ := h.data
  rw [ipcSend, hd]
  dsimp only
  split
  · rename_i ha
    have hrec : (c.record (.sent taken)).Alive client := h.logged ⟨h.notFreed, h.ready ha⟩ (by simp) fun hr => hr
    have hfits : ∀ c' : Client, c'.phase = c.phase → c'.failures = c.failures → c'.available = c.available →
        c'.log = .sent taken :: c.log → c'.Fits := by
      intro c' hphase hfailures havailable hlog
      revert hf
      rw [Fits, Fits, hphase, hfailures, havailable, hlog]
      cases c.phase <;> simp [failuresSince, bootsSince]
    cases taken with
    | true => exact .alive hrec (hfits _ rfl rfl rfl rfl)
    | false => exact .alive (hrec.updated rfl rfl ⟨_, rfl, le_refl 1⟩) (hfits _ rfl rfl rfl rfl)
  · exact .alive h hf

lemma Meets.of_phase (h : Meets client c) (hphase : c.phase ≠ .absent) (hgone : c.phase ≠ .abandoned)
    (hstopped : c.phase ≠ .stopped) : c.Alive client ∧ c.Fits := by
  cases h with
  | absent phase => exact absurd phase hphase
  | gone phase => exact absurd phase hgone
  | alive alive fits => exact ⟨alive, fits⟩
  | stopped phase => exact absurd phase hstopped

lemma Meets.create (h : Meets client c) (hphase : c.phase = .absent) (ok : Bool) :
    Meets client { (c.ipcCreate ok).2 with phase := if (c.ipcCreate ok).1 then .opening 0 else .abandoned } := by
  cases h with
  | absent _ log failures available data =>
    cases ok with
    | false => exact .gone rfl log rfl data
    | true =>
      refine .alive ⟨?_, ?_, ⟨.empty, rfl, by simp⟩, fun ha => absurd ha Bool.false_ne_true⟩ ⟨?_, ?_, failures, rfl⟩
      · exact AllProper.nil.cons ⟨List.not_mem_nil, trivial⟩ |> fun hp => by simpa [ipcCreate, record, log] using hp
      · simp [ipcCreate, record, log]
      · simp [ipcCreate, record, log]
      · simp [ipcCreate, record, log, failuresSince]
  | gone phase => rw [hphase] at phase; cases phase
  | alive _ fits => rw [Fits, hphase] at fits; exact fits.elim
  | stopped phase => rw [hphase] at phase; cases phase

lemma Alive.open_attempt (h : c.Alive client) (hs : .spawned ∉ c.log) (h0 : failuresSince c.log = 0)
    (hf : c.failures = 0) (ha : c.available = false) (failures : ℕ) (io : OpenCalls) :
    Meets client (c.openAttempt client failures io) := by
  obtain ⟨fd, hd, -⟩ := h.data
  have hb : client = .fmt → modemBooted (beforeOpening client c.failures c.log) = true := by
    intro hc
    rw [beforeOpening, if_pos ⟨hc, by simp [hf]⟩]
    rfl
  have hopened := h.opening ha hb (fun hm => absurd hm hs) io
  have hs' := mt (open_counts client io c.failures c.log).1.mp hs
  have h0' := (open_counts client io c.failures c.log).2.1.trans h0
  rw [openAttempt]
  rw [ipc_open_eq _ hd] at hopened ⊢
  cases hok : (openEntries client c.failures io).1 with
  | true =>
    rw [hok] at hopened
    refine .alive (hopened.updated rfl rfl ⟨_, rfl, by simp⟩) ⟨hs', h0', hf, ?_⟩
    simp
  | false =>
    rw [hok] at hopened
    refine .alive (hopened.updated rfl rfl hopened.data) ?_
    by_cases hlast : failures + 1 < clientRetryCount
    · simp only [Fits, hlast, if_true, Bool.false_eq_true, if_false]
      exact ⟨hs', h0', hf, by simp [ha]⟩
    · simp only [Fits, hlast, Bool.false_eq_true, if_false]
      exact ⟨hs', h0'⟩

lemma Alive.stop (h : c.Alive client) (hs : .spawned ∈ c.log) (hf : c.failures = failuresSince c.log)
    (hfive : c.failures = clientRetryCount) (hb : bootsSince c.log ≤ 3) (closing destroying : CloseCalls) :
    Meets client { (c.ipcClose client closing).2.ipcDestroy client destroying with phase := .stopped } := by
  obtain ⟨fd, hd, -⟩ := h.data
  have hclosed := h.close closing
  obtain ⟨hspawned, hfailures, hboots, hopen⟩ := close_counts client closing c.failures c.log
  rw [ipc_close_eq hd] at hclosed ⊢
  have hsince := hfailures.trans (hf.symm.trans hfive)
  refine .stopped rfl rfl rfl (hclosed.proper.cons ⟨hclosed.notFreed, hsince, hopen⟩) ?_ hsince ?_ ⟨_, rfl⟩
  · exact List.mem_cons_of_mem _ (hspawned.mpr hs)
  · exact hboots.trans_le hb

lemma Meets.step {a : ClientAction} (h : Meets client c) (hs : clientStep client c a = some c') : Meets client c' := by
  cases a with
  | create ok =>
    rw [clientStep] at hs
    split at hs
    · cases hs
      exact h.create ‹_› ok
    · cases hs
  | opening io =>
    rw [clientStep] at hs
    split at hs
    · rename_i failures hp
      cases hs
      obtain ⟨halive, hfits⟩ := h.of_phase (by simp [hp]) (by simp [hp]) (by simp [hp])
      rw [Fits, hp] at hfits
      exact halive.open_attempt hfits.1 hfits.2.1 hfits.2.2.1 hfits.2.2.2 failures io
    · cases hs
  | spawn ok =>
    rw [clientStep] at hs
    split at hs
    · rename_i hp
      cases hs
      obtain ⟨halive, hfits⟩ := h.of_phase (by simp [hp]) (by simp [hp]) (by simp [hp])
      rw [Fits, hp] at hfits
      cases ok with
      | true =>
        have hrec : (c.record .spawned).Alive client := halive.logged ⟨halive.notFreed, trivial⟩ (by simp) fun hr => hr
        refine .alive (hrec.updated rfl rfl halive.data)
          ⟨List.mem_cons_self, hfits.2.2.2, rfl, Nat.succ_pos 4, le_refl 0⟩
      | false => exact .alive (halive.updated rfl rfl halive.data) ⟨hfits.1, hfits.2.1⟩
    · cases hs
  | send taken =>
    cases hs
    cases h with
    | absent phase log failures available data =>
      rw [ipcSend, data]
      exact .absent phase log failures available data
    | gone phase log available data =>
      rw [ipcSend, data]
      exact .gone phase log available data
    | alive halive hfits => exact ipc_send_fits halive hfits taken
    | stopped phase available data proper spawned failures boots freed =>
      rw [ipcSend, data]
      exact .stopped phase available data proper spawned failures boots freed
  | poll io =>
    rw [clientStep] at hs
    split at hs
    · rename_i hp
      cases hs
      obtain ⟨halive, hfits⟩ := h.of_phase (by simp [hp]) (by simp [hp]) (by simp [hp])
      rw [Fits, hp] at hfits
      obtain ⟨hsp, ha, hf, hlt, hb⟩ := hfits
      exact halive.loop hp hsp ha hf hlt hb io
    · cases hs
  | dispatched ok =>
    rw [clientStep] at hs
    split at hs
    · rename_i hp
      cases hs
      obtain ⟨halive, hfits⟩ := h.of_phase (by simp [hp]) (by simp [hp]) (by simp [hp])
      rw [Fits, hp] at hfits
      obtain ⟨hsp, ha, hf, hlt, hb⟩ := hfits
      cases ok with
      | true =>
        have hrec : (c.record .handled).Alive client := halive.logged ⟨halive.notFreed, trivial⟩ (by simp) fun hr => hr
        exact .alive (hrec.updated rfl rfl halive.data) ⟨List.mem_cons_of_mem _ hsp, ha, rfl, Nat.succ_pos 4, le_refl 0⟩
      | false => exact halive.loop_fails hsp ha hf hlt hb
    · cases hs
  | retry closing opening =>
    rw [clientStep] at hs
    split at hs
    · rename_i hp
      cases hs
      obtain ⟨halive, hfits⟩ := h.of_phase (by simp [hp]) (by simp [hp]) (by simp [hp])
      rw [Fits, hp] at hfits
      obtain ⟨hsp, hf, hpos, hlt, hb, ha⟩ := hfits
      exact halive.retry hsp hf hpos hlt hb ha closing opening
    · cases hs
  | stop closing destroying =>
    rw [clientStep] at hs
    split at hs
    · rename_i hp
      cases hs
      obtain ⟨halive, hfits⟩ := h.of_phase (by simp [hp]) (by simp [hp]) (by simp [hp])
      rw [Fits, hp] at hfits
      obtain ⟨hsp, hf, hfive, hb⟩ := hfits
      exact halive.stop hsp hf hfive hb closing destroying
    · cases hs

lemma reachable_meets (h : ReachableClient client c) : Meets client c :=
  h.invariant (.absent rfl rfl rfl rfl rfl) fun _ _ _ _ hi _ hs => hi.step hs

/-! ### The log only grows -/

lemma ipc_close_suffix (c : Client) (io : CloseCalls) : c.log <:+ (c.ipcClose client io).2.log := by
  cases hd : c.data with
  | none =>
    cases client <;> simp [ipcClose, ipcFmtClose, ipcRfsClose, ipcCloseTransport, hd, andThen]
  | some fd =>
    rw [ipc_close_eq hd]
    exact List.suffix_append _ _

lemma ipc_open_suffix (c : Client) (io : OpenCalls) : c.log <:+ (c.ipcOpen client io).2.log := by
  cases hd : c.data with
  | none => cases client <;> simp [ipcOpen, ipcFmtOpen, ipcRfsOpen, hd]
  | some fd =>
    rw [ipc_open_eq _ hd]
    exact List.suffix_append _ _

lemma loop_fails_suffix (client : IpcClient) (c : Client) : c.log <:+ (c.loopFails client).log := by
  cases client with
  | fmt => exact ⟨[.failed, .radioUnavailable], rfl⟩
  | rfs => exact ⟨[.failed], rfl⟩

lemma ipc_recv_suffix (client : IpcClient) (c : Client) (received : Bool) :
    c.log <:+ (c.ipcRecv client received).log := by
  cases received with
  | true => exact ⟨[.received true], rfl⟩
  | false => exact (List.suffix_cons _ _).trans (loop_fails_suffix client (c.record (.received false)))

lemma ipc_loop_suffix (c : Client) (io : PollRound) : c.log <:+ (c.ipcLoop client io).log := by
  rw [ipcLoop]
  split
  · exact List.suffix_cons _ _
  · split
    · split
      · exact loop_fails_suffix _ c
      · split
        · dsimp only
          split
          · exact loop_fails_suffix client { c with data := some _ }
          · split
            · exact List.suffix_refl _
            · split
              · exact loop_fails_suffix client { c with data := some _ }
              · split
                · exact List.suffix_refl _
                · exact ipc_recv_suffix client { c with data := some _ } io.received
        · split
          · exact List.suffix_refl _
          · exact ipc_recv_suffix _ c io.received
    · exact loop_fails_suffix _ c

lemma ipc_destroy_suffix (c : Client) (io : CloseCalls) : c.log <:+ (c.ipcDestroy client io).log := by
  rw [ipcDestroy]
  split
  · exact List.suffix_refl _
  · dsimp only
    split
    · exact (ipc_close_suffix c io).trans (List.suffix_cons _ _)
    · exact List.suffix_cons _ _

lemma ipc_send_suffix (c : Client) (taken : Bool) : c.log <:+ (c.ipcSend taken).log := by
  rw [ipcSend]
  split
  · exact List.suffix_refl _
  · split
    · cases taken with
      | true => exact List.suffix_cons _ _
      | false => exact List.suffix_cons _ _
    · exact List.suffix_refl _

lemma retry_suffix (c : Client) (closing : CloseCalls) (opening : OpenCalls) :
    c.log <:+ (c.retry client closing opening).log := by
  have hr : c.log <:+ (andThen (c.ipcClose client closing) fun c => c.ipcOpen client opening).2.log := by
    rw [andThen]
    split
    · exact (ipc_close_suffix c closing).trans (ipc_open_suffix _ opening)
    · exact ipc_close_suffix c closing
  rw [Client.retry]
  dsimp only
  split
  · exact hr
  · exact hr.trans (List.suffix_cons _ _)

end Client

lemma client_step_suffix {a : ClientAction} (hs : clientStep client c a = some c') : c.log <:+ c'.log := by
  cases a with
  | create ok =>
    simp only [clientStep, Option.ite_none_right_eq_some] at hs
    obtain ⟨-, hs⟩ := hs
    cases hs
    cases ok with
    | true => exact List.suffix_cons _ _
    | false => exact List.suffix_refl _
  | opening io =>
    rw [clientStep] at hs
    split at hs
    · cases hs
      exact Client.ipc_open_suffix c io
    · cases hs
  | spawn ok =>
    simp only [clientStep, Option.ite_none_right_eq_some] at hs
    obtain ⟨-, hs⟩ := hs
    cases ok with
    | true =>
      cases hs
      exact List.suffix_cons _ _
    | false =>
      cases hs
      exact List.suffix_refl _
  | send taken =>
    cases hs
    exact Client.ipc_send_suffix c taken
  | poll io =>
    simp only [clientStep, Option.ite_none_right_eq_some] at hs
    obtain ⟨-, hs⟩ := hs
    cases hs
    exact Client.ipc_loop_suffix c io
  | dispatched ok =>
    simp only [clientStep, Option.ite_none_right_eq_some] at hs
    obtain ⟨-, hs⟩ := hs
    cases hs
    cases ok with
    | true => exact List.suffix_cons _ _
    | false => exact Client.loop_fails_suffix _ c
  | retry closing opening =>
    simp only [clientStep, Option.ite_none_right_eq_some] at hs
    obtain ⟨-, hs⟩ := hs
    cases hs
    exact Client.retry_suffix c closing opening
  | stop closing destroying =>
    simp only [clientStep, Option.ite_none_right_eq_some] at hs
    obtain ⟨-, hs⟩ := hs
    cases hs
    exact (Client.ipc_close_suffix c closing).trans (Client.ipc_destroy_suffix _ destroying)

/-! ### Both clients on one modem -/

structure IpcClients where
  client : IpcClient → Client := fun _ => {}
  /-- the entries of both clients, newest first -/
  entries : List (IpcClient × ClientEntry) := []

/-- The two threads share nothing but the modem. -/
def clientsStep (s : IpcClients) (a : IpcClient × ClientAction) : Option IpcClients :=
  (clientStep a.1 (s.client a.1) a.2).map fun c =>
    { client := Function.update s.client a.1 c
      entries := (c.log.take (c.log.length - (s.client a.1).log.length)).map (a.1, ·) ++ s.entries }

/-- Whether the modem is on after what both clients have done. -/
def modemOn : List (IpcClient × ClientEntry) → Bool
  | [] => false
  | (_, .called .powerOn true) :: _ => true
  | (_, .called .powerOff true) :: _ => false
  | _ :: entries => modemOn entries

/-- The RFS client has powered the modem off since the FMT client last powered it on. -/
def PoweredOffByRfs (entries : List (IpcClient × ClientEntry)) : Prop :=
  ∃ later earlier, entries = later ++ (.rfs, .called .powerOff true) :: earlier ∧
    (.fmt, .called .powerOn true) ∉ later

def entriesOf (client : IpcClient) (entries : List (IpcClient × ClientEntry)) : List ClientEntry :=
  entries.filterMap fun e => if e.1 = client then some e.2 else none

structure Supervised (client : IpcClient) (c : Client) : Prop where
  proper : AllProper client c.log
  ready : c.available = true → Client.Ready client c.log
  failures : failuresSince c.log ≤ clientRetryCount
  boots : .spawned ∈ c.log → bootsSince c.log ≤ 3
  ends : c.phase = .stopping ∨ c.phase = .stopped ↔ failuresSince c.log = clientRetryCount
  freed : c.phase = .stopped ↔ .freed ∈ c.log

lemma Client.Meets.supervised (h : Client.Meets client c) : Supervised client c := by
  cases h with
  | absent phase log failures available data =>
    refine ⟨log ▸ .nil, fun ha => absurd (available.symm.trans ha) Bool.false_ne_true, ?_, ?_, ?_, ?_⟩ <;>
      simp [log, phase, failuresSince, clientRetryCount]
  | gone phase log available data =>
    refine ⟨log ▸ .nil, fun ha => absurd (available.symm.trans ha) Bool.false_ne_true, ?_, ?_, ?_, ?_⟩ <;>
      simp [log, phase, failuresSince, clientRetryCount]
  | alive halive hfits =>
    refine ⟨halive.proper, halive.ready, ?_, ?_, ?_, ?_⟩
    all_goals
      revert hfits
      have := halive.notFreed
      rw [Client.Fits]
      cases c.phase <;> simp_all [clientRetryCount] <;> omega
  | stopped phase available data proper spawned failures boots freed =>
    obtain ⟨earlier, hl⟩ := freed
    refine ⟨proper, fun ha => absurd (available.symm.trans ha) Bool.false_ne_true, failures.le, fun _ => boots, ?_, ?_⟩
    · simp [phase, failures]
    · simp [phase, hl]

lemma entries_of_append (k : IpcClient) (new : List ClientEntry) (entries : List (IpcClient × ClientEntry)) :
    entriesOf client (new.map (k, ·) ++ entries) = if k = client then new ++ entriesOf client entries
      else entriesOf client entries := by
  rw [entriesOf, List.filterMap_append, List.filterMap_map]
  by_cases hk : k = client
  · have hsome : (fun e : IpcClient × ClientEntry => if e.1 = client then some e.2 else none) ∘ (k, ·) = some := by
      funext e
      exact if_pos hk
    rw [hsome, List.filterMap_some, if_pos hk]
    rfl
  · have hnone : (fun e : IpcClient × ClientEntry => if e.1 = client then some e.2 else none) ∘ (k, ·) =
        fun _ => none := by
      funext e
      exact if_neg hk
    rw [hnone, if_neg hk, List.filterMap_eq_nil_iff.mpr fun _ _ => rfl]
    rfl

/-- Each client goes through a run of its own, and its entries are those of the common list. -/
lemma reachable_clients {s : IpcClients} (h : Reaches clientsStep (fun _ _ => True) {} s) (client : IpcClient) :
    ReachableClient client (s.client client) ∧ entriesOf client s.entries = (s.client client).log := by
  induction h with
  | refl => exact ⟨.refl, rfl⟩
  | @tail s s' a hr _ hs ih =>
    obtain ⟨hc, he⟩ := ih
    rw [clientsStep, Option.map_eq_some_iff] at hs
    obtain ⟨c, hc', rfl⟩ := hs
    rw [entries_of_append]
    dsimp only
    by_cases hk : a.1 = client
    · subst hk
      obtain ⟨new, hnew⟩ := client_step_suffix hc'
      rw [if_pos rfl, he, Function.update_self]
      refine ⟨hc.tail trivial hc', ?_⟩
      rw [← hnew, List.length_append, Nat.add_sub_cancel, List.take_left']
      rfl
    · rw [if_neg hk, Function.update_of_ne (Ne.symm hk)]
      exact ⟨hc, he⟩

lemma modem_on (entries : List (IpcClient × ClientEntry)) (h : modemBooted (entriesOf .fmt entries) = true) :
    modemOn entries = true ∨ PoweredOffByRfs entries := by
  induction entries with
  | nil => cases h
  | cons e entries ih =>
    obtain ⟨k, e⟩ := e
    have hkeep : (k, e) ≠ (IpcClient.fmt, ClientEntry.called .powerOn true) → PoweredOffByRfs entries →
        PoweredOffByRfs ((k, e) :: entries) := by
      rintro hne ⟨later, earlier, rfl, hl⟩
      refine ⟨(k, e) :: later, earlier, rfl, ?_⟩
      simpa [hne.symm] using hl
    cases k with
    | rfs =>
      have hrest := ih h
      rcases e with _ | _ | ⟨_ | _ | _ | _ | _, _ | _⟩ | _ | _ | _ | _ | _ | _ | _
      case called.powerOn.true => exact .inl rfl
      case called.powerOff.true => exact .inr ⟨[], entries, rfl, List.not_mem_nil⟩
      all_goals exact hrest.imp id (hkeep (by simp))
    | fmt =>
      change modemBooted (e :: entriesOf .fmt entries) = true at h
      rcases e with _ | _ | ⟨_ | _ | _ | _ | _, _ | _⟩ | _ | _ | _ | _ | _ | _ | _
      case called.powerOn.true => exact .inl rfl
      case called.powerOff.true => cases h
      case called.powerOff.false => cases h
      all_goals exact (ih h).imp id (hkeep (by simp))

/-- In every run of both threads and of the threads that send: a client uses its transport only while it is open (the
FMT client on a modem that it has booted and not powered off since), opens it again after a close, and with a boot
unless it is the first failure since a message was handled; five failures in a row end the thread, with at most three
boots among them, and its data is freed once, by itself. While the FMT client is available the modem is on, unless the
RFS client has powered it off. -/
theorem ipc_clients_supervised {s : IpcClients} (h : Reaches clientsStep (fun _ _ => True) {} s) :
    (∀ client, Supervised client (s.client client)) ∧
      ((s.client .fmt).available = true → modemOn s.entries = true ∨ PoweredOffByRfs s.entries) := by
  refine ⟨fun client => (Client.reachable_meets (reachable_clients h client).1).supervised, fun ha => ?_⟩
  obtain ⟨hreach, hentries⟩ := reachable_clients h .fmt
  refine modem_on s.entries ?_
  rw [hentries]
  exact ((Client.reachable_meets hreach).supervised.ready ha).2 rfl

def startedClient (client : IpcClient) : List (IpcClient × ClientAction) :=
  [(client, .create true), (client, .opening ⟨true, true, true⟩), (client, .spawn true)]

/-- Both clients are started, and a poll of the RFS client fails. -/
def rfsFailureRun : List (IpcClient × ClientAction) :=
  startedClient .fmt ++ startedClient .rfs ++
    [(.rfs, .poll ⟨none, 0, false, false⟩), (.rfs, .retry ⟨true, true⟩ ⟨true, true, true⟩)]

/-- The FMT client has not failed and is left with a modem that is off. -/
theorem ipc_clients_supervised_rfs : ∃ s, run clientsStep {} rfsFailureRun = some s ∧
    (s.client .fmt).available = true ∧ (s.client .fmt).failures = 0 ∧ modemOn s.entries = false ∧
      PoweredOffByRfs s.entries := by
  have hr : Reaches clientsStep (fun _ _ => True) {} _ :=
    .of_run rfsFailureRun rfl (by decide : runMeets clientsStep (fun _ _ => true) _ _ = true) fun _ _ _ => trivial
  refine ⟨_, rfl, rfl, rfl, rfl, ?_⟩
  exact ((ipc_clients_supervised hr).2 rfl).resolve_left (by decide)

/-! ### The thread of the daemon -/

def RilData.clientView (s : RilData) : ℕ × Bool × Bool := (s.fmt.failures, s.fmt.available, s.fmt.data.isSome)

def threadOf : ClientPhase → Option ClientThread
  | .looping | .handling => some .looping
  | .retrying => some .failed
  | .stopping => some .stopping
  | .stopped => some .stopped
  | _ => none

/-- The daemon is between two steps of the request loop, with its FMT client in this state. -/
structure Daemon.Runs (d : Daemon) (c : Client) : Prop where
  unlocked : d.locked = false
  view : d.data.clientView = (c.failures, c.available, c.data.isSome)
  thread : some d.thread = threadOf c.phase

section

variable {s : RilData} {d d' : Daemon}

lemma client_view_iff {failures : ℕ} {available created : Bool} : s.clientView = (failures, available, created) ↔
    s.fmt.failures = failures ∧ s.fmt.available = available ∧ s.fmt.data.isSome = created := by
  simp [RilData.clientView]

lemma unregister_client_view (s : RilData) (token : RilToken) :
    (s.requestUnregister token).clientView = s.clientView := by
  rw [RilData.requestUnregister]
  split
  · rfl
  · simp [RilData.clientView, RilData.ipcFmtRequestUnregister, RilData.modifyFmt]

lemma radio_rounds_client_view (rs : List RilRequest) (s : RilData) :
    (rs.foldl RilData.radioUnavailableRound s).clientView = s.clientView := by
  induction rs generalizing s with
  | nil => rfl
  | cons r rs ih =>
    have hc : (s.requestComplete r.token .radioNotAvailable .null).clientView = s.clientView := by
      rw [RilData.requestComplete]
      split
      · rfl
      · exact unregister_client_view s r.token
    rw [List.foldl_cons, ih, RilData.radioUnavailableRound]
    split
    · exact (unregister_client_view _ _).trans hc
    · exact hc

lemma radio_unavailable_client_view (s : RilData) : s.radioUnavailable.clientView = s.clientView := by
  have h := radio_rounds_client_view s.requests s
  simp only [RilData.clientView, Prod.mk.injEq] at h
  simp [RilData.radioUnavailable, RilData.clientView, RilData.ipcFmtFlush, RilData.modifyFmt, RilData.requestFlush,
    RilData.requestDataFlush, h]

lemma radio_client_view (s : RilData) (radioState : RilRadioState) :
    (s.radioStateUpdate radioState).clientView = s.clientView := by
  have hview {s t : RilData} (h : t.fmt = s.fmt) : t.clientView = s.clientView := by
    rw [RilData.clientView, RilData.clientView, h]
  by_cases hu : radioState = .unavailable
  · subst hu
    rw [RilData.radioStateUpdate]
    split
    · rfl
    · exact (hview (RilData.radioOff_lists _).2).trans (radio_unavailable_client_view _)
  · exact hview (RilData.radioStateUpdate_lists hu s).2

lemma Daemon.Runs.refl_step (h : d.Runs c) (hv : (c'.failures, c'.available, c'.data.isSome) =
    (c.failures, c.available, c.data.isSome)) (hp : threadOf c'.phase = threadOf c.phase) : d.Runs c' :=
  ⟨h.unlocked, h.view.trans hv.symm, h.thread.trans hp.symm⟩

/-- `client->failures++` in both models -/
lemma client_failure_runs {data : RilData} (hl : d.locked = false)
    (hv : data.clientView = (c.failures, c.available, c.data.isSome)) : (d.clientFailure data).Runs c.countFailure := by
  obtain ⟨hf, ha, hd⟩ := client_view_iff.mp hv
  refine ⟨hl, ?_, ?_⟩
  · simp [RilData.clientView, Daemon.clientFailure, Client.countFailure, Client.record, hf, ha, hd]
  · simp only [Daemon.clientFailure, Client.countFailure, hf, rilClientRetryCount, clientRetryCount]
    by_cases hlast : c.failures + 1 < 5 <;> simp [hlast, threadOf]

lemma Daemon.Runs.loop_fails (h : d.Runs c) (ht : d.thread = .looping) :
    ∃ d', step d .clientError = some d' ∧ d'.Runs (c.loopFails .fmt) := by
  refine ⟨_, ?_, client_failure_runs (c := c.record .radioUnavailable) h.unlocked
    ((radio_client_view d.data .unavailable).trans h.view)⟩
  simp [step, h.unlocked, ht]

lemma Daemon.Runs.loop (h : d.Runs c) (hm : c.Alive .fmt) (hp : c.phase = .looping) (ht : d.thread = .looping)
    (io : PollRound) : ∃ d', Reaches step (fun _ _ => True) d d' ∧ d'.Runs (c.ipcLoop .fmt io) := by
  obtain ⟨fd, hd, hcount⟩ := hm.data
  have hlooping {c' : Client}
      (hv : (c'.failures, c'.available, c'.data.isSome) = (c.failures, c.available, c.data.isSome))
      (hp' : c'.phase = .looping ∨ c'.phase = .handling) : ∃ d', Reaches step (fun _ _ => True) d d' ∧ d'.Runs c' := by
    refine ⟨d, .refl, h.refl_step hv ?_⟩
    rcases hp' with hp' | hp'
    · rw [hp, hp']
    · rw [hp, hp']
      rfl
  have hfails {c' : Client}
      (hv : (c'.failures, c'.available, c'.data.isSome) = (c.failures, c.available, c.data.isSome))
      (hp' : c'.phase = c.phase) : ∃ d', Reaches step (fun _ _ => True) d d' ∧ d'.Runs (c'.loopFails .fmt) := by
    obtain ⟨d', hs, hr⟩ := (h.refl_step hv (congrArg _ hp')).loop_fails ht
    exact ⟨d', .tail .refl trivial hs, hr⟩
  have hrecv (fd' : EventFd) (received : Bool) : ∃ d', Reaches step (fun _ _ => True) d d' ∧
      d'.Runs ({ c with data := some fd' }.ipcRecv .fmt received) := by
    cases received with
    | true => exact hlooping (by simp [Client.ipcRecv, Client.record, hd]) (.inr rfl)
    | false => exact @hfails ({ c with data := some fd' }.record (.received false)) (by simp [Client.record, hd]) rfl
  have hsame : ({ c with data := some fd } : Client) = c := by rw [← hd]
  rw [Client.ipcLoop, hd]
  dsimp only
  split
  · split
    · exact hfails rfl rfl
    · split
      · split
        · exact hfails (by simp [hd]) rfl
        · rename_i event he
          obtain ⟨-, hne⟩ := EventFd.read_eq_some.mp he
          rw [eventClose, if_neg hne]
          split
          · exact hfails (by simp [hd]) rfl
          · split
            · exact hlooping (by simp [hd]) (.inl hp)
            · exact hrecv _ io.received
      · split
        · exact hlooping rfl (.inl hp)
        · exact hsame ▸ hrecv fd io.received
  · exact hfails rfl rfl

lemma client_open_view (s : RilData) : (clientOpen s).clientView = (s.fmt.failures, true, s.fmt.data.isSome) := by
  rw [clientOpen]
  split
  · obtain ⟨hf, -, hd⟩ := client_view_iff.mp (radio_client_view s .off)
    exact client_view_iff.mpr ⟨hf, rfl, hd⟩
  · rfl

def unhandledMessage : Ipc.IpcMessage := ⟨0, .other 0, .noti, []⟩

lemma step_unhandled (hl : d.locked = false) (ht : d.thread = .looping) :
    step d (.message d.data.env unhandledMessage) = some
      { d with data := { d.data.log (.received unhandledMessage) with fmt := { d.data.fmt with failures := 0 } } } := by
  simp only [step, hl, ht]
  rfl

lemma Daemon.Runs.retry {fd : EventFd} (h : d.Runs c) (hd : c.data = some fd) (ht : d.thread = .failed)
    (closing : CloseCalls) (opening : OpenCalls) :
    ∃ d', Reaches step (fun _ _ => True) d d' ∧ d'.Runs (c.retry .fmt closing opening) := by
  obtain ⟨hf, -, hdata⟩ := client_view_iff.mp h.view
  rw [hd] at hdata
  have hclosed : (clientClose d.data).clientView = (c.failures, false, true) :=
    client_view_iff.mpr ⟨hf, rfl, hdata⟩
  have hreopen (closed opened : Bool) : step d (.clientReopen closed opened) =
      some (if closed && opened then { d with data := clientOpen (clientClose d.data), thread := .looping }
        else d.clientFailure (clientClose d.data)) := by
    cases closed <;> cases opened <;> simp [step, h.unlocked, ht]
  rw [Client.retry, Client.ipc_close_eq hd]
  set closed : Client := { c with
    available := false
    data := some .empty
    log := (Client.closeEntries .fmt c.failures closing).2 ++ c.log } with hset
  cases hc : (Client.closeEntries .fmt c.failures closing).1 with
  | false =>
    refine ⟨_, .tail .refl trivial (hreopen false false), ?_⟩
    exact client_failure_runs (c := closed) h.unlocked hclosed
  | true =>
    have heq := @Client.ipc_open_eq closed .empty .fmt rfl opening
    simp only [Client.andThen, if_true]
    rw [heq]
    cases ho : (Client.openEntries .fmt closed.failures opening).1 with
    | false =>
      refine ⟨_, .tail .refl trivial (hreopen true false), ?_⟩
      exact client_failure_runs h.unlocked hclosed
    | true =>
      refine ⟨_, .tail .refl trivial (hreopen true true), h.unlocked, ?_, rfl⟩
      obtain ⟨hf', -, hdata'⟩ := client_view_iff.mp hclosed
      exact (client_open_view (clientClose d.data)).trans (by simp [hf', hdata', hset])

/-- Each step of the FMT client is one that the daemon makes, or one that the daemon does not see. -/
lemma client_thread_simulated {a : ClientAction} (hm : Client.Meets .fmt c) (h : d.Runs c)
    (hs : clientStep .fmt c a = some c') : ∃ d', Reaches step (fun _ _ => True) d d' ∧ d'.Runs c' := by
  have hthread := h.thread
  cases a with
  | create ok =>
    simp only [clientStep, Option.ite_none_right_eq_some] at hs
    rw [hs.1] at hthread
    cases hthread
  | opening io =>
    rw [clientStep] at hs
    split at hs
    · rename_i failures hp
      rw [hp] at hthread
      cases hthread
    · cases hs
  | spawn ok =>
    simp only [clientStep, Option.ite_none_right_eq_some] at hs
    rw [hs.1] at hthread
    cases hthread
  | send taken =>
    cases hs
    refine ⟨d, .refl, ?_⟩
    rw [Client.ipcSend]
    split
    · exact h
    · rename_i fd hd
      split
      · cases taken with
        | true => exact h.refl_step rfl rfl
        | false => exact h.refl_step (by rw [hd]; rfl) rfl
      · exact h
  | poll io =>
    simp only [clientStep, Option.ite_none_right_eq_some] at hs
    obtain ⟨hp, hs⟩ := hs
    cases hs
    have halive := (hm.of_phase (by simp [hp]) (by simp [hp]) (by simp [hp])).1
    rw [hp] at hthread
    exact h.loop halive hp (Option.some.inj hthread) io
  | dispatched ok =>
    simp only [clientStep, Option.ite_none_right_eq_some] at hs
    obtain ⟨hp, hs⟩ := hs
    cases hs
    rw [hp] at hthread
    have ht := Option.some.inj hthread
    cases ok with
    | true =>
      refine ⟨_, .tail .refl trivial (step_unhandled h.unlocked ht), h.unlocked, ?_, congrArg some ht⟩
      obtain ⟨-, ha, hd⟩ := client_view_iff.mp h.view
      exact client_view_iff.mpr ⟨rfl, ha, hd⟩
    | false =>
      obtain ⟨d', hs, hr⟩ := h.loop_fails ht
      exact ⟨d', .tail .refl trivial hs, hr⟩
  | retry closing opening =>
    simp only [clientStep, Option.ite_none_right_eq_some] at hs
    obtain ⟨hp, hs⟩ := hs
    cases hs
    obtain ⟨fd, hd, -⟩ := (hm.of_phase (by simp [hp]) (by simp [hp]) (by simp [hp])).1.data
    rw [hp] at hthread
    exact h.retry hd (Option.some.inj hthread) closing opening
  | stop closing destroying =>
    simp only [clientStep, Option.ite_none_right_eq_some] at hs
    obtain ⟨hp, hs⟩ := hs
    cases hs
    obtain ⟨fd, hd, -⟩ := (hm.of_phase (by simp [hp]) (by simp [hp]) (by simp [hp])).1.data
    rw [hp] at hthread
    have hstep : step d .clientStop = some { d with data := clientDestroy d.data, thread := .stopped } := by
      simp [step, h.unlocked, Option.some.inj hthread]
    refine ⟨_, .tail .refl trivial hstep, h.unlocked, ?_, rfl⟩
    rw [Client.ipc_close_eq hd]
    exact client_view_iff.mpr ⟨(client_view_iff.mp h.view).1, rfl, rfl⟩

/-- A thread is started by its first step only. -/
lemma thread_started {a : ClientAction} (hs : clientStep .fmt c a = some c') (hc : threadOf c.phase = none)
    (hc' : (threadOf c'.phase).isSome = true) : a = .spawn true ∧ c.phase = .opened := by
  cases a with
  | create ok =>
    simp only [clientStep, Option.ite_none_right_eq_some] at hs
    obtain ⟨-, hs⟩ := hs
    cases hs
    cases ok <;> cases hc'
  | opening io =>
    rw [clientStep] at hs
    split at hs
    · cases hs
      rw [Client.openAttempt] at hc'
      dsimp only at hc'
      split at hc'
      · cases hc'
      · split at hc' <;> cases hc'
    · cases hs
  | spawn ok =>
    simp only [clientStep, Option.ite_none_right_eq_some] at hs
    obtain ⟨hp, hs⟩ := hs
    cases ok with
    | true => exact ⟨rfl, hp⟩
    | false =>
      cases hs
      cases hc'
  | send taken =>
    cases hs
    have hphase : (c.ipcSend taken).phase = c.phase := by
      rw [Client.ipcSend]
      split
      · rfl
      · split
        · cases taken <;> rfl
        · rfl
    rw [hphase, hc] at hc'
    cases hc'
  | poll | dispatched | retry | stop =>
    simp only [clientStep, Option.ite_none_right_eq_some] at hs
    rw [hs.1] at hc
    cases hc

/-- The thread of the daemon reaches whatever the FMT client does once its thread runs. -/
theorem client_thread_refines (h : ReachableClient .fmt c) (hp : (threadOf c.phase).isSome = true) :
    ∃ d, Reaches step (fun _ _ => True) {} d ∧ d.Runs c := by
  induction h with
  | refl => cases hp
  | @tail c c' a hr _ hs ih =>
    have hm := Client.reachable_meets hr
    cases hc : (threadOf c.phase).isSome with
    | true =>
      obtain ⟨d, hd, hruns⟩ := ih hc
      obtain ⟨d', hd', hruns'⟩ := client_thread_simulated hm hruns hs
      exact ⟨d', hd.trans hd', hruns'⟩
    | false =>
      obtain ⟨rfl, hopened⟩ := thread_started hs (Option.not_isSome_iff_eq_none.mp (Bool.not_eq_true _ ▸ hc)) hp
      obtain ⟨halive, hfits⟩ := hm.of_phase (by simp [hopened]) (by simp [hopened]) (by simp [hopened])
      obtain ⟨fd, hd, -⟩ := halive.data
      simp only [clientStep, hopened, if_true] at hs
      cases hs
      rw [Client.Fits, hopened] at hfits
      refine ⟨{}, .refl, rfl, ?_, rfl⟩
      exact client_view_iff.mpr ⟨rfl, hfits.2.2.2.symm, by simp [Client.record, hd]⟩

end

end Ril.Samsung
