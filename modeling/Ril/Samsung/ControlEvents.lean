import Ril.Lib.EventFd
import Ril.Lib.Transition
import Ril.Lib.Extends

/-! The events by which other threads signal the loop of an IPC or SRS client. A read and a write of the eventfd are one
step each. -/

namespace Ril.Samsung

open Ril.Lib

inductive ControlClient
  | ipc | srs
deriving DecidableEq, Repr

inductive ControlEvent
  | close | ioError | change
deriving DecidableEq, Repr

/-- `IPC_CLIENT_CLOSE`, `IPC_CLIENT_IO_ERROR`, `SRS_CLIENT_CLOSE`, `SRS_CLIENT_CHANGE`, `SRS_CLIENT_IO_ERROR`. There is
no change for an IPC client. -/
def ControlClient.code : ControlClient → ControlEvent → Option ℕ
  | ipc, .close => some 0x00
  | ipc, .ioError => some 0x01
  | ipc, .change => none
  | srs, .close => some 0x00
  | srs, .change => some 0x02
  | srs, .ioError => some 0x03

def ControlClient.closeCode : ℕ := 0x00

def ControlClient.ioErrorCode : ControlClient → ℕ
  | ipc => 0x01
  | srs => 0x03

/-- `ipc_fmt_loop` leaves on both of its events, `srs_loop` on a close. A value that is no event is ignored. -/
def ControlClient.leaves (client : ControlClient) (value : ℕ) : Bool :=
  match client with
  | ipc => value == closeCode || value == ioErrorCode ipc
  | srs => value == closeCode

inductive ControlLoop
  /-- in `ipc_client_poll` or `select`, or with a message -/
  | polling
  /-- the eventfd was found to be readable -/
  | readable
  | ended
deriving DecidableEq, Repr

/-- A post is recorded with whether the loop was running. -/
inductive ControlRecord
  | posted (value : ℕ) (running : Bool)
  | observed (value : ℕ)
  | ended
deriving DecidableEq, Repr

/-- The calls of `eventfd_send` that have flushed and not yet written are kept with the value that they write. -/
structure Control where
  fd : EventFd := .empty
  senders : List ℕ := []
  loop : ControlLoop := .polling
  log : List ControlRecord := []

inductive ControlAction
  | flush (event : ControlEvent)
  | write (i : ℕ)
  | poll
  | recv
  | stop
  | reopen
deriving DecidableEq, Repr

def Control.running (d : Control) : Bool := d.loop != .ended

def eventfdFlush (fd : EventFd) : EventFd := fd.read.2

def Control.flushed (d : Control) (value : ℕ) : Control :=
  { d with fd := eventfdFlush d.fd, senders := d.senders ++ [value] }

def Control.wrote (d : Control) (i value : ℕ) : Control :=
  match d.fd.write value with
  | none => { d with senders := d.senders.eraseIdx i }
  | some fd => { d with fd := fd, senders := d.senders.eraseIdx i, log := .posted value d.running :: d.log }

def Control.recv (client : ControlClient) (d : Control) : Control :=
  match d.fd.read with
  | (none, fd) => { d with fd := fd, loop := .ended, log := .ended :: d.log }
  | (some value, fd) =>
    if client.leaves value then { d with fd := fd, loop := .ended, log := .ended :: .observed value :: d.log }
    else { d with fd := fd, loop := .polling, log := .observed value :: d.log }

/-- The events of an IPC client are sent with the lock of the client. The loop also ends for reasons of its own, and the
client is opened again then. -/
def controlStep (client : ControlClient) (d : Control) : ControlAction → Option Control
  | .flush event =>
    match client.code event with
    | none => none
    | some value => if client = .ipc ∧ d.senders ≠ [] then none else some (d.flushed value)
  | .write i =>
    match d.senders[i]? with
    | none => none
    | some value => some (d.wrote i value)
  | .poll => if d.loop = .polling ∧ d.fd.count ≠ 0 then some { d with loop := .readable } else none
  | .recv => if d.loop = .readable then some (d.recv client) else none
  | .stop => if d.running then some { d with loop := .ended, log := .ended :: d.log } else none
  | .reopen => if d.running then none else some { d with fd := eventfdFlush d.fd, loop := .polling }

end Ril.Samsung

/-! Which of the posted events the loop of a client observes. -/

namespace Ril.Samsung

open Ril.Lib

/-- While the loop runs, an unread `IO_ERROR` is flushed by another one only, nobody has written between the flush and
the write of an event, and no `CLOSE` is written. -/
def ControlClient.Keeps (client : ControlClient) (d : Control) : ControlAction → Prop
  | .flush event => d.running = true → d.fd.count = client.ioErrorCode → event = .ioError
  | .write i => d.running = true → d.fd.count = 0 ∧ d.senders[i]? ≠ some ControlClient.closeCode
  | _ => True

/-- The value was posted to a running loop that has neither observed it since nor ended. -/
def Owed (value : ℕ) (log : List ControlRecord) : Prop :=
  ∃ later earlier, log = later ++ .posted value true :: earlier ∧ .observed value ∉ later ∧ .ended ∉ later

/-- The loop has observed nothing since the value was posted. -/
def LastPosted (value : ℕ) (log : List ControlRecord) : Prop :=
  ∃ later running earlier, log = later ++ .posted value running :: earlier ∧ ∀ v, .observed v ∉ later

variable {client : ControlClient} {d : Control} {value v : ℕ} {record : ControlRecord} {log : List ControlRecord}

lemma owed_cons : Owed v (record :: log) ↔
    record = .posted v true ∨ record ≠ .observed v ∧ record ≠ .ended ∧ Owed v log := by
  constructor
  · rintro ⟨later, earlier, hl, ho, he⟩
    rcases split_cons hl with ⟨-, hr, -⟩ | ⟨later, rfl, hl'⟩
    · exact .inl hr.symm
    · simp only [List.mem_cons, not_or] at ho he
      exact .inr ⟨Ne.symm ho.1, Ne.symm he.1, later, earlier, hl', ho.2, he.2⟩
  · rintro (rfl | ⟨ho, he, later, earlier, rfl, ho', he'⟩)
    · exact ⟨[], log, rfl, List.not_mem_nil, List.not_mem_nil⟩
    · refine ⟨record :: later, earlier, rfl, ?_, ?_⟩
      · simp [ho.symm, ho']
      · simp [he.symm, he']

lemma LastPosted.new (running : Bool) : LastPosted value (.posted value running :: log) :=
  ⟨[], running, log, rfl, by simp⟩

lemma code_lt {event : ControlEvent} (h : client.code event = some value) : value < 4 := by
  cases client <;> cases event <;> cases h <;> decide

lemma code_io_error (h : client.code .ioError = some value) : client.ioErrorCode = value := by
  cases client <;> cases h <;> rfl

lemma mem_eraseIdx {values : List ℕ} {i : ℕ} (hi : values[i]? = some value) (hv : v ∈ values) :
    v = value ∨ v ∈ values.eraseIdx i := by
  obtain ⟨j, hj⟩ := List.mem_iff_getElem?.mp hv
  by_cases hij : j = i
  · subst hij
    exact .inl (Option.some.inj (hj.symm.trans hi))
  · exact .inr (List.mem_eraseIdx_iff_getElem?.mpr ⟨j, hij, hj⟩)

/-- What the loop is owed is in the counter, or is about to be posted once more. -/
structure Signalled (client : ControlClient) (d : Control) : Prop where
  codes : ∀ value ∈ d.senders, value < 4
  owed : ∀ value, Owed value d.log → d.running = true ∧
    (value = ControlClient.closeCode ∨ value = client.ioErrorCode → d.fd.read.1 = some value ∨ value ∈ d.senders)
  held : d.running = true → d.fd.count ≠ 0 → LastPosted d.fd.count d.log
  observed : ∀ later earlier value, d.log = later ++ .observed value :: earlier → LastPosted value earlier

namespace Signalled

lemma start : Signalled client {} where
  codes := by simp
  owed := by simp [Owed]
  held := fun _ h => absurd rfl h
  observed := by simp

lemma flush (h : Signalled client d) {event : ControlEvent} (hk : client.Keeps d (.flush event))
    (hc : client.code event = some value) : Signalled client (d.flushed value) := by
  refine ⟨?_, ?_, fun _ h0 => absurd rfl h0, h.observed⟩
  · intro v hv
    rcases List.mem_append.mp hv with hv | hv
    · exact h.codes v hv
    · rw [List.mem_singleton.mp hv]
      exact code_lt hc
  · intro v hv
    obtain ⟨hr, ho⟩ := h.owed v hv
    refine ⟨hr, fun hu => .inr ?_⟩
    rcases ho hu with hread | hs
    · -- the counter is flushed for an event that is the same
      obtain ⟨hcount, hne⟩ := EventFd.read_eq_some.mp hread
      have hio : v = client.ioErrorCode := hu.resolve_left hne
      obtain rfl : event = .ioError := hk hr (hcount.trans hio)
      rw [hio, code_io_error hc]
      exact List.mem_append_right _ (List.mem_singleton_self value)
    · exact List.mem_append_left _ hs

lemma observed_cons (h : Signalled client d) {r : ControlRecord} (hr : ∀ v, r = .observed v → LastPosted v d.log) :
    ∀ later earlier v, r :: d.log = later ++ .observed v :: earlier → LastPosted v earlier := by
  intro later earlier v hl
  rcases split_cons hl with ⟨-, he, rfl⟩ | ⟨later, -, hl⟩
  · exact hr v he.symm
  · exact h.observed later earlier v hl

lemma write (h : Signalled client d) {i : ℕ} (hk : client.Keeps d (.write i)) (hi : d.senders[i]? = some value) :
    Signalled client (d.wrote i value) := by
  have hcodes : ∀ v ∈ d.senders.eraseIdx i, v < 4 := fun v hv => h.codes v (List.mem_of_mem_eraseIdx hv)
  have hvalue : value < 4 := h.codes value (List.mem_of_getElem? hi)
  rw [Control.wrote]
  split
  · rename_i hw
    refine ⟨hcodes, ?_, h.held, h.observed⟩
    intro v hv
    have hr : d.running = true := (h.owed v hv).1
    rw [EventFd.write, dif_pos (by rw [(hk hr).1]; omega)] at hw
    cases hw
  · rename_i fd hw
    have hobserved := h.observed_cons (r := .posted value d.running) (by simp)
    by_cases hr : d.running = true
    · obtain ⟨h0, hclose⟩ := hk hr
      have hcount : fd.count = value := by
        rw [EventFd.write_count hw, h0, Nat.zero_add]
      have hread : fd.read.1 = some value := by
        refine EventFd.read_eq_some.mpr ⟨hcount, ?_⟩
        rintro rfl
        exact hclose hi
      refine ⟨hcodes, ?_, fun _ _ => hcount ▸ .new _, hobserved⟩
      intro v hv
      refine ⟨hr, fun hu => ?_⟩
      rcases owed_cons.mp hv with he | ⟨-, -, hv⟩
      · rw [← (ControlRecord.posted.inj he).1]
        exact .inl hread
      · rcases (h.owed v hv).2 hu with hv | hs
        · obtain ⟨hv, hne⟩ := EventFd.read_eq_some.mp hv
          exact absurd (hv.symm.trans h0) hne
        · rcases mem_eraseIdx hi hs with rfl | hs
          · exact .inl hread
          · exact .inr hs
    · refine ⟨hcodes, ?_, fun ht => absurd ht hr, hobserved⟩
      intro v hv
      rcases owed_cons.mp hv with he | ⟨-, -, hv⟩
      · exact absurd (ControlRecord.posted.inj he).2 hr
      · exact absurd (h.owed v hv).1 hr

lemma ended (hcodes : ∀ value ∈ d.senders, value < 4)
    (hobserved : ∀ later earlier value, log = later ++ .observed value :: earlier → LastPosted value earlier) :
    Signalled client { d with loop := .ended, log := .ended :: log } := by
  refine ⟨hcodes, ?_, nofun, ?_⟩
  · intro v hv
    rcases owed_cons.mp hv with he | ⟨-, he, -⟩
    · cases he
    · exact absurd rfl he
  · intro later earlier v hl
    rcases split_cons hl with ⟨-, he, -⟩ | ⟨later, -, hl⟩
    · cases he
    · exact hobserved later earlier v hl

lemma recv (h : Signalled client d) (hl : d.loop = .readable) : Signalled client (d.recv client) := by
  have hr : d.running = true := by simp [Control.running, hl]
  rw [Control.recv]
  split
  · rename_i fd _
    exact ended (d := { d with fd := fd }) h.codes h.observed
  · rename_i value fd hread
    obtain rfl : fd = .empty := (congrArg Prod.snd hread).symm
    have hread : d.fd.read.1 = some value := congrArg Prod.fst hread
    obtain ⟨hcount, hne⟩ := EventFd.read_eq_some.mp hread
    have hobserved := h.observed_cons (r := .observed value) fun v he => by
      cases he
      exact hcount ▸ h.held hr (hcount ▸ hne)
    split
    · exact ended (d := { d with fd := .empty }) h.codes hobserved
    · refine ⟨h.codes, ?_, fun _ h0 => absurd rfl h0, hobserved⟩
      intro v hv
      refine ⟨rfl, fun hu => .inr ?_⟩
      rcases owed_cons.mp hv with he | ⟨hne, -, hv⟩
      · cases he
      · rcases (h.owed v hv).2 hu with hv | hs
        · exact absurd (congrArg _ (Option.some.inj (hread.symm.trans hv))) hne
        · exact hs

lemma step {d' : Control} {a : ControlAction} (h : Signalled client d) (hk : client.Keeps d a)
    (hs : controlStep client d a = some d') : Signalled client d' := by
  cases a with
  | flush event =>
    rw [controlStep] at hs
    split at hs
    · cases hs
    · rename_i value hc
      split at hs
      · cases hs
      · cases hs
        exact h.flush hk hc
  | write i =>
    rw [controlStep] at hs
    split at hs
    · cases hs
    · cases hs
      exact h.write hk (by assumption)
  | poll =>
    rw [controlStep] at hs
    split at hs
    · rename_i hp
      cases hs
      have hr : d.running = true := by simp [Control.running, hp.1]
      exact ⟨h.codes, fun v hv => ⟨rfl, (h.owed v hv).2⟩, fun _ => h.held hr, h.observed⟩
    · cases hs
  | recv =>
    rw [controlStep] at hs
    split at hs
    · cases hs
      exact h.recv (by assumption)
    · cases hs
  | stop =>
    rw [controlStep] at hs
    split at hs
    · cases hs
      exact ended h.codes h.observed
    · cases hs
  | reopen =>
    rw [controlStep] at hs
    split at hs
    · cases hs
    · rename_i hr
      cases hs
      refine ⟨h.codes, ?_, fun _ h0 => absurd rfl h0, h.observed⟩
      intro v hv
      exact absurd (h.owed v hv).1 hr

end Signalled

/-- In every run that keeps the conditions, a `CLOSE` or an `IO_ERROR` that was posted to a running loop was observed,
or the loop has ended, or it is what the next read yields, or it is about to be posted once more; and every value that
the loop observes was posted since it observed the one before. -/
theorem control_events_observed (client : ControlClient) {d : Control}
    (h : Reaches (controlStep client) client.Keeps {} d) :
    (∀ later earlier value, d.log = later ++ .posted value true :: earlier →
      value = ControlClient.closeCode ∨ value = client.ioErrorCode →
      .observed value ∈ later ∨ .ended ∈ later ∨ d.fd.read.1 = some value ∨ value ∈ d.senders) ∧
    ∀ later earlier value, d.log = later ++ .observed value :: earlier →
      ∃ between running before, earlier = between ++ .posted value running :: before ∧ ∀ v, .observed v ∉ between := by
  have hi : Signalled client d := h.invariant Signalled.start fun _ _ _ _ hi hk hs => hi.step hk hs
  refine ⟨?_, hi.observed⟩
  intro later earlier value hl hu
  by_cases ho : .observed value ∈ later
  · exact .inl ho
  · by_cases he : .ended ∈ later
    · exact .inr (.inl he)
    · exact .inr (.inr ((hi.owed value ⟨later, earlier, hl, ho, he⟩).2 hu))

instance (client : ControlClient) (d : Control) (a : ControlAction) : Decidable (client.Keeps d a) :=
  match a with
  | .flush event => inferInstanceAs (Decidable (d.running = true → d.fd.count = client.ioErrorCode → event = .ioError))
  | .write i => inferInstanceAs (Decidable (d.running = true → d.fd.count = 0 ∧ d.senders[i]? ≠ some _))
  | .poll | .recv | .stop | .reopen => inferInstanceAs (Decidable True)

def observedRun : List ControlAction := [.flush .ioError, .write 0, .poll, .recv]

theorem control_events_observed_run : ∃ d, run (controlStep .srs) {} observedRun = some d ∧
    d.log = [.observed 3, .posted 3 true] ∧
    ∀ later earlier value, d.log = later ++ .posted value true :: earlier →
      value = ControlClient.closeCode ∨ value = ControlClient.ioErrorCode .srs →
      .observed value ∈ later ∨ .ended ∈ later ∨ d.fd.read.1 = some value ∨ value ∈ d.senders := by
  have hr : Reaches (controlStep .srs) (ControlClient.Keeps .srs) {} _ :=
    .of_run observedRun rfl (by decide : runMeets _ (fun d a => decide (ControlClient.Keeps .srs d a)) _ _ = true)
      fun _ _ h => of_decide_eq_true h
  exact ⟨_, rfl, rfl, (control_events_observed .srs hr).1⟩

/-- The server thread posts a change before the loop has read the `IO_ERROR`. -/
def flushedRun : List ControlAction := [.flush .ioError, .write 0, .flush .change, .write 0, .poll, .recv]

def addedRun : List ControlAction := [.flush .ioError, .flush .change, .write 0, .write 0, .poll, .recv]

def closeRun : List ControlAction := [.flush .close, .write 0]

/-- An `IO_ERROR` is lost, two events are observed as a value that is none, and a `CLOSE` leaves nothing to be read. -/
theorem control_events_observed_fails :
    (∃ d, run (controlStep .srs) {} flushedRun = some d ∧ d.log = [.observed 2, .posted 2 true, .posted 3 true] ∧
      d.running = true ∧ d.fd.read.1 = none ∧ d.senders = []) ∧
    (∃ d, run (controlStep .srs) {} addedRun = some d ∧ d.log = [.observed 5, .posted 2 true, .posted 3 true]) ∧
    ∃ d, run (controlStep .ipc) {} closeRun = some d ∧ d.log = [.posted 0 true] ∧ d.running = true ∧
      d.fd.read.1 = none ∧ d.senders = [] :=
  ⟨⟨_, rfl, rfl, rfl, rfl, rfl⟩, ⟨_, rfl, rfl⟩, _, rfl, rfl, rfl, rfl, rfl⟩

end Ril.Samsung
