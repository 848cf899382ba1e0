import Ril.Srs.Transport
import Ril.Srs.Loop

/-! The wake lock of the daemon: which calls give it back as often as they take it. -/

namespace Ril.Srs

open Lib Ipc

def SrsEvent.lock : SrsEvent → Option WakeLock
  | wake lock => some lock
  | _ => none

/-- What was done with the lock -/
def locks (trace : List SrsEvent) : List WakeLock := trace.filterMap SrsEvent.lock

/-- The events after which the lock is kept -/
def SrsEvent.keepsLock : SrsEvent → Bool
  | received _ | sent _ => true
  | _ => false

def kept (trace : List SrsEvent) : ℕ := trace.countP SrsEvent.keepsLock

/-- The bytes that the step reads are a message. -/
def Receives (width : ℕ) (a : SrsAction) : Prop :=
  ∃ read message, a = .receive true read ∧ srsClientRecv width read = some message

/-- The steps of the two threads between the start of an iteration of the loop and the start of the next, or its end -/
def Iteration (width : ℕ) (as : List SrsAction) (new : List SrsEvent) : Prop :=
  ∃ s t, run (srsStep width) s as = some t ∧ s.loop = .iterating ∧ (t.loop = .iterating ∨ t.loop = .returned) ∧
    t.trace = new ++ s.trace

/-- The calls that take the lock, each with what it meets -/
inductive WakeCall
  | fmtSend (io : IpcSend)
  | rfsSend (io : IpcSend)
  | fmtRound (io : IpcRound)
  | rfsRound (io : IpcRound)
  | srsSend (found available : Bool) (clientFd : Option ℕ) (writable : Bool) (write : ReadEvent) (message : SrsMessage)
  /-- an iteration of `srs_loop`, with its events -/
  | srsRound (as : List SrsAction) (new : List SrsEvent)

namespace WakeCall

def locks : WakeCall → List WakeLock
  | fmtSend io => (ipcFmtSend io).2
  | rfsSend io => (ipcRfsSend io).2
  | fmtRound io => (ipcFmtLoopRound io).2
  | rfsRound io => (ipcRfsLoopRound io).2
  | srsSend found available clientFd writable write message =>
    (Srs.srsSend found available clientFd writable write message).2
  | srsRound _ new => Srs.locks new

def Possible (width : ℕ) : WakeCall → Prop
  | srsRound as new => Iteration width as new
  | _ => True

/-- The client takes all of a message that is sent to it, or a message is received. -/
def Keeps (width : ℕ) : WakeCall → Prop
  | srsSend found available clientFd writable write message =>
    found = true ∧ available = true ∧ clientFd.isSome = true ∧ (srsClientSend writable write message).1 = true
  | srsRound as _ => ∃ a ∈ as, Receives width a
  | _ => False

end WakeCall

/-! ### The sends -/

variable {width : ℕ} {s t : SrsData} {a : SrsAction}

lemma srs_send_leaves (found available : Bool) (clientFd : Option ℕ) (writable : Bool) (write : ReadEvent)
    (message : SrsMessage) :
    (srsSend found available clientFd writable write message = (.sent, [.acquired]) ∧
        found = true ∧ available = true ∧ clientFd.isSome = true ∧ (srsClientSend writable write message).1 = true) ∨
      (Balanced (srsSend found available clientFd writable write message).2 ∧
        (srsSend found available clientFd writable write message).1 ≠ .sent ∧
        ¬(found = true ∧ available = true ∧ clientFd.isSome = true ∧
          (srsClientSend writable write message).1 = true)) := by
  cases found with
  | false => exact .inr ⟨.nil, SrsSendResult.noConfusion, by simp⟩
  | true =>
    cases available with
    | false => exact .inr ⟨.nil, SrsSendResult.noConfusion, by simp⟩
    | true =>
      cases hok : clientFd.isSome && (srsClientSend writable write message).1 with
      | true =>
        refine .inl ⟨?_, rfl, rfl, Bool.and_eq_true_iff.mp hok⟩
        simp [srsSend, hok]
      | false =>
        have hsend : srsSend true true clientFd writable write message = (.failed, [.acquired, .released]) := by
          simp [srsSend, hok]
        rw [hsend]
        refine .inr ⟨.once, SrsSendResult.noConfusion, ?_⟩
        rintro ⟨-, -, hboth⟩
        exact Bool.false_ne_true (hok.symm.trans (Bool.and_eq_true_iff.mpr hboth))

/-! ### The loop -/

def SrsLoopState.handling : SrsLoopState → Bool
  | dispatching _ _ => true
  | _ => false

lemma locks_append (new trace : List SrsEvent) : locks (new ++ trace) = locks new ++ locks trace :=
  List.filterMap_append

lemma locks_wakes (log : List WakeLock) : locks (log.map .wake).reverse = log.reverse := by
  rw [← List.map_reverse, locks, List.filterMap_map]
  exact List.filterMap_some

lemma kept_wakes (log : List WakeLock) : kept (log.map .wake).reverse = 0 := by
  rw [kept, List.countP_eq_zero]
  intro e he
  obtain ⟨lock, -, rfl⟩ := List.mem_map.mp (List.mem_reverse.mp he)
  exact Bool.false_ne_true

lemma kept_append (new trace : List SrsEvent) : kept (new ++ trace) = kept new + kept trace := List.countP_append

/-- What a step adds to the trace -/
structure Adds (width : ℕ) (s : SrsData) (a : SrsAction) (t : SrsData) (new : List SrsEvent) : Prop where
  trace : t.trace = new ++ s.trace
  leaves : t.loop ≠ .faulted → Leaves (kept new) (locks new)
  received : t.loop ≠ .faulted → ((∃ address, .received address ∈ new) ↔ Receives width a)
  faulted : s.loop = .faulted → t.loop = .faulted
  handling : t.loop.handling = true → s.loop.handling = true ∨ ∃ address, .received address ∈ new
  sent : ∀ address, .sent address ∈ new → s.loop.handling = true

lemma Adds.silent {new : List SrsEvent} (hnone : ¬Receives width a) (htrace : t.trace = new ++ s.trace)
    (hsilent : ∀ e ∈ new, e.lock = none ∧ e.keepsLock = false) (hfaulted : s.loop = .faulted → t.loop = .faulted)
    (hhandling : t.loop.handling = true → s.loop.handling = true) : Adds width s a t new where
  trace := htrace
  leaves := by
    intro _
    have hlocks : locks new = [] := List.filterMap_eq_nil_iff.mpr fun e he => (hsilent e he).1
    have hkept : kept new = 0 := List.countP_eq_zero.mpr fun e he => ne_true_of_eq_false (hsilent e he).2
    rw [hlocks, hkept]
    exact rfl
  received := by
    intro _
    refine iff_of_false ?_ hnone
    rintro ⟨address, hm⟩
    exact absurd (hsilent _ hm).2 Bool.true_eq_false.mp
  faulted := hfaulted
  handling := fun h => .inl (hhandling h)
  sent := fun _ hm => absurd (hsilent _ hm).2 Bool.true_eq_false.mp

lemma receive_adds {ready : List ℕ} {address : ℕ} {readable : Bool} {read : Bytes} (hl : s.loop = .receiving ready) :
    ∃ new, Adds width s (.receive readable read) (s.receive width ready address readable read) new := by
  have hnot : s.loop = .faulted → ∀ {p : Prop}, p := fun hf => by cases hl.symm.trans hf
  cases hm : (if readable then srsClientRecv width read else none) with
  | none =>
    have hnone : ¬Receives width (.receive readable read) := by
      rintro ⟨read', message, he, hr⟩
      obtain ⟨rfl, rfl⟩ := SrsAction.receive.inj he
      cases hm.symm.trans hr
    simp only [SrsData.receive, hm]
    exact ⟨[.wake .released, .receiveFailed address, .wake .acquired], rfl, fun _ => rfl,
      fun _ => iff_of_false (by simp) hnone, fun hf => hnot hf, (fun hh => by cases hh), by simp⟩
  | some message =>
    have hreceives : Receives width (.receive readable read) := by
      cases readable with
      | true => exact ⟨read, message, rfl, hm⟩
      | false => cases hm
    simp only [SrsData.receive, hm]
    split
    · exact ⟨[.wake .acquired], rfl, fun hf => absurd rfl hf, fun hf => absurd rfl hf, fun _ => rfl,
        (fun hh => by cases hh), by simp⟩
    · exact ⟨[.received address, .wake .acquired], rfl, fun _ => rfl,
        fun _ => iff_of_true ⟨address, List.mem_cons_self⟩ hreceives, fun hf => hnot hf,
        fun _ => .inr ⟨address, List.mem_cons_self⟩, by simp⟩

lemma dispatch_adds {ready : List ℕ} {message : SrsReceived} {address : ℕ} {fmt : IpcSend} {writable : Bool}
    {write : ReadEvent} (hl : s.loop = .dispatching ready message) :
    ∃ new, Adds width s (.dispatch fmt writable write) (s.dispatch ready message address fmt writable write) new := by
  have hhandling : s.loop.handling = true := by rw [hl]; rfl
  have hnot : s.loop = .faulted → ∀ {p : Prop}, p := fun hf => by cases hl.symm.trans hf
  have hnone : ¬Receives width (.dispatch fmt writable write) := by
    rintro ⟨read, message, he, -⟩
    cases he
  have hwakes (log : List WakeLock) : ∀ address, .received address ∉ (log.map SrsEvent.wake).reverse := by simp
  rw [SrsData.dispatch]
  split
  · exact ⟨[.refused address], .silent hnone rfl (by simp [SrsEvent.lock, SrsEvent.keepsLock]) (fun hf => hnot hf)
      fun _ => hhandling⟩
  · cases ha : srsAnswer message with
    | none =>
      refine ⟨_, rfl, fun _ => ?_, fun _ => iff_of_false (not_exists.mpr (hwakes _)) hnone, fun hf => hnot hf,
        fun _ => .inl hhandling, fun _ _ => hhandling⟩
      rw [locks_wakes, kept_wakes]
      split
      · exact (Leaves.of_balanced (ipc_send_balanced fmt)).reverse
      · exact rfl
    | some answer =>
      dsimp only
      rcases srs_send_leaves true s.available s.clientFd writable write answer with ⟨hr, -⟩ | ⟨hb, hne, -⟩
      · rw [hr]
        exact ⟨[.sent address, .wake .acquired], rfl, fun _ => rfl, fun _ => iff_of_false (by simp) hnone,
          fun hf => hnot hf, fun _ => .inl hhandling, fun _ _ => hhandling⟩
      · rcases hr : srsSend true s.available s.clientFd writable write answer with ⟨result, log⟩
        rw [hr] at hb hne
        have hlog : Leaves (kept (log.map SrsEvent.wake).reverse) (locks (log.map SrsEvent.wake).reverse) := by
          rw [locks_wakes, kept_wakes]
          exact (Leaves.of_balanced hb).reverse
        cases result with
        | unavailable =>
          exact ⟨[], .silent hnone rfl (fun _ hm => absurd hm List.not_mem_nil) (fun hf => hnot hf)
            fun _ => hhandling⟩
        | sent => exact absurd rfl hne
        | failed =>
          exact ⟨.sendFailed address :: (log.map SrsEvent.wake).reverse, rfl, fun _ => hlog,
            fun _ => iff_of_false (by simp) hnone, fun hf => hnot hf, fun _ => .inl hhandling, fun _ _ => hhandling⟩

lemma Adds.nothing (hnone : ¬Receives width a) (htrace : t.trace = s.trace) (hs : s.loop ≠ .faulted)
    (ht : t.loop.handling = false) : Adds width s a t [] :=
  .silent hnone htrace (fun _ hm => absurd hm List.not_mem_nil) (fun hf => absurd hf hs)
    fun hh => absurd (ht.symm.trans hh) Bool.false_ne_true

lemma read_event_adds {ready : List ℕ} (hl : s.loop = .signalled ready) :
    Adds width s .readEvent (s.readEvent ready) [] := by
  have hnone : ¬Receives width .readEvent := by
    rintro ⟨read, message, he, -⟩
    cases he
  have hs : s.loop ≠ .faulted := by rw [hl]; exact SrsLoopState.noConfusion
  rw [SrsData.readEvent]
  split
  · exact .nothing hnone rfl hs rfl
  · split
    · exact .nothing hnone rfl hs rfl
    · split
      · exact .nothing hnone rfl hs rfl
      · exact .nothing hnone rfl hs rfl

lemma find_adds {ready : List ℕ} (hl : s.loop = .finding ready) : Adds width s .find (s.find ready) [] := by
  have hnone : ¬Receives width .find := by
    rintro ⟨read, message, he, -⟩
    cases he
  have hs : s.loop ≠ .faulted := by rw [hl]; exact SrsLoopState.noConfusion
  rw [SrsData.find]
  split
  · exact .nothing hnone rfl hs rfl
  · exact .nothing hnone rfl hs rfl

lemma close_adds {ready : List ℕ} (hl : s.loop = .closing ready) : ∃ new, Adds width s .close (s.close ready) new := by
  have hnone : ¬Receives width .close := by
    rintro ⟨read, message, he, -⟩
    cases he
  have hs : s.loop ≠ .faulted := by rw [hl]; exact SrsLoopState.noConfusion
  rw [SrsData.close]
  split
  · exact ⟨[], .nothing hnone rfl hs rfl⟩
  · exact ⟨[_], .silent hnone rfl (by simp [SrsEvent.lock, SrsEvent.keepsLock]) (fun hf => absurd hf hs)
      (fun hh => by cases hh)⟩

lemma step_adds (ht : SrsStep width s a t) : ∃ new, Adds width s a t new := by
  have hnil : ∀ e ∈ ([] : List SrsEvent), e.lock = none ∧ e.keepsLock = false := fun _ hm => absurd hm List.not_mem_nil
  have hnone (hne : ∀ read, a ≠ .receive true read) : ¬Receives width a := by
    rintro ⟨read, message, he, -⟩
    exact hne read he
  cases ht with
  | accept _ _ => exact ⟨[_], .silent (hnone (by simp)) rfl (by simp [SrsEvent.lock, SrsEvent.keepsLock]) id id⟩
  | changeFlush _ => exact ⟨[], .silent (hnone (by simp)) rfl hnil id id⟩
  | changeFails _ => exact ⟨[], .silent (hnone (by simp)) rfl hnil id id⟩
  | changeWrite _ _ => exact ⟨[], .silent (hnone (by simp)) rfl hnil id id⟩
  | iterate hl =>
    refine ⟨[], .nothing (hnone (by simp)) rfl (by rw [hl]; exact SrsLoopState.noConfusion) ?_⟩
    cases s.available with
    | true => rfl
    | false => rfl
  | @select fds ready hl =>
    refine ⟨[.selected ready], .silent (hnone (by simp)) rfl (by simp [SrsEvent.lock, SrsEvent.keepsLock])
      (fun hf => by cases hl.symm.trans hf) fun hh => ?_⟩
    split at hh
    · cases hh
    · cases hh
  | selectFails hl => exact ⟨[], .nothing (hnone (by simp)) rfl (by rw [hl]; exact SrsLoopState.noConfusion) rfl⟩
  | readEvent hl => exact ⟨[], read_event_adds hl⟩
  | find hl => exact ⟨[], find_adds hl⟩
  | receive hl _ => exact receive_adds hl
  | dispatch hl _ => exact dispatch_adds hl
  | reportFlush hl => exact ⟨[], .nothing (hnone (by simp)) rfl (by rw [hl]; exact SrsLoopState.noConfusion) rfl⟩
  | reportWrite hl => exact ⟨[], .nothing (hnone (by simp)) rfl (by rw [hl]; exact SrsLoopState.noConfusion) rfl⟩
  | close hl => exact close_adds hl
  | unregister hl _ =>
    exact ⟨[_], .silent (hnone (by simp)) rfl (by simp [SrsEvent.lock, SrsEvent.keepsLock])
      (fun hf => by cases hl.symm.trans hf) (fun hh => by cases hh)⟩

/-- What a run adds. A message that is sent in it answers one that is received, or that was being handled. -/
lemma run_adds {as : List SrsAction} (h : run (srsStep width) s as = some t) :
    ∃ new, t.trace = new ++ s.trace ∧ (s.loop = .faulted → t.loop = .faulted) ∧
      (t.loop ≠ .faulted → Leaves (kept new) (locks new)) ∧
      (t.loop ≠ .faulted → ((∃ address, .received address ∈ new) ↔ ∃ a ∈ as, Receives width a)) ∧
      (s.loop.handling = true ∨ (∃ address, .received address ∈ new) ∨ ∀ address, .sent address ∉ new) := by
  induction as generalizing s with
  | nil =>
    obtain rfl := Option.some.inj h
    exact ⟨[], rfl, id, fun _ => rfl, fun _ => by simp, .inr (.inr fun _ => List.not_mem_nil)⟩
  | cons a as ih =>
    obtain ⟨u, hu, h⟩ := Option.bind_eq_some_iff.mp h
    obtain ⟨new, hadds⟩ := step_adds (srs_step hu)
    obtain ⟨new', htrace, hfaulted, hleaves, hreceived, hsent⟩ := ih h
    refine ⟨new' ++ new, ?_, hfaulted ∘ hadds.faulted, fun hf => ?_, fun hf => ?_, ?_⟩
    · rw [htrace, hadds.trace, List.append_assoc]
    · rw [kept_append, locks_append]
      exact (hleaves hf).append (hadds.leaves (mt hfaulted hf))
    · rw [List.exists_mem_cons_iff, ← hreceived hf, ← hadds.received (mt hfaulted hf)]
      simp only [List.mem_append, exists_or]
      exact or_comm
    · cases hh : s.loop.handling with
      | true => exact .inl rfl
      | false =>
        right
        have hquiet : ∀ address, .sent address ∉ new :=
          fun address hm => absurd (hh.symm.trans (hadds.sent address hm)) Bool.false_ne_true
        have hlater : (∃ address, .received address ∈ new) → ∃ address, .received address ∈ new' ++ new :=
          fun ⟨address, hm⟩ => ⟨address, List.mem_append_right _ hm⟩
        rcases hsent with hu | ⟨address, hm⟩ | hnone
        · rcases hadds.handling hu with hs | hm
          · exact absurd (hh.symm.trans hs) Bool.false_ne_true
          · exact .inl (hlater hm)
        · exact .inl ⟨address, List.mem_append_left _ hm⟩
        · exact .inr fun address hm => (List.mem_append.mp hm).elim (hnone address) (hquiet address)

/-- An iteration gives the lock back just when no message is received in it. -/
lemma iteration_balanced_iff {as : List SrsAction} {new : List SrsEvent} (h : Iteration width as new) :
    (∃ n, Leaves n (locks new)) ∧ (Balanced (locks new) ↔ ¬∃ a ∈ as, Receives width a) := by
  obtain ⟨s, t, hr, hs, ht, htrace⟩ := h
  obtain ⟨new', htrace', -, hleaves, hreceived, hsent⟩ := run_adds hr
  obtain rfl : new' = new := List.append_cancel_right (htrace'.symm.trans htrace)
  have hvalid : t.loop ≠ .faulted := by
    rcases ht with ht | ht
    · rw [ht]
      exact SrsLoopState.noConfusion
    · rw [ht]
      exact SrsLoopState.noConfusion
  refine ⟨⟨_, hleaves hvalid⟩, ?_⟩
  rw [(hleaves hvalid).balanced_iff, ← hreceived hvalid, kept, List.countP_eq_zero]
  constructor
  · rintro hnone ⟨address, hm⟩
    exact hnone _ hm rfl
  · intro hnone e he
    cases e with
    | received address => exact absurd ⟨address, he⟩ hnone
    | sent address =>
      rcases hsent with hh | hm | hsent
      · rw [hs] at hh
        cases hh
      · exact absurd hm hnone
      · exact absurd he (hsent address)
    | _ => exact Bool.false_ne_true

/-! ### The calls -/

lemma wake_call (call : WakeCall) (h : call.Possible width) :
    (∃ n, Leaves n call.locks) ∧ (Balanced call.locks ↔ ¬call.Keeps width) := by
  have hbalanced (log : List WakeLock) (hb : Balanced log) : (∃ n, Leaves n log) ∧ (Balanced log ↔ ¬False) :=
    ⟨⟨0, .of_balanced hb⟩, iff_of_true hb not_false⟩
  cases call with
  | fmtSend io => exact hbalanced _ (ipc_send_balanced io)
  | rfsSend io => exact hbalanced _ (ipc_send_balanced io)
  | fmtRound io => exact hbalanced _ (ipc_loop_round_balanced ipc_send_balanced io)
  | rfsRound io => exact hbalanced _ (ipc_loop_round_balanced ipc_send_balanced io)
  | srsSend found available clientFd writable write message =>
    rcases srs_send_leaves found available clientFd writable write message with ⟨hr, hk⟩ | ⟨hb, -, hk⟩
    · rw [WakeCall.locks, hr]
      exact ⟨⟨1, rfl⟩, iff_of_false (by decide) (not_not_intro hk)⟩
    · exact ⟨⟨0, .of_balanced hb⟩, iff_of_true hb hk⟩
  | srsRound as new => exact iteration_balanced_iff h

/-- In a run of any of the calls the lock is given back as often as it was taken just when no call is one in which a
message is sent to an SRS client, or received from one. -/
theorem wake_locks_balanced_iff (width : ℕ) (calls : List WakeCall) (h : ∀ call ∈ calls, call.Possible width) :
    Balanced (calls.flatMap WakeCall.locks) ↔ ∀ call ∈ calls, ¬call.Keeps width := by
  rw [Leaves.flatMap_balanced_iff fun call hc => (wake_call call (h call hc)).1]
  exact forall₂_congr fun call hc => (wake_call call (h call hc)).2

/-! ### Runs -/

/-- A client connects in an iteration of the loop, which polls it, and brings the bytes. -/
def roundRun (read : Bytes) : List SrsAction :=
  [.accept 5, .changeFlush, .changeWrite, .iterate, .select [5], .readEvent, .find, .receive true read]

/-- The client leaves. -/
def leavingRun : List SrsAction := roundRun [] ++ [.close, .unregister, .find]

/-- The client takes the answer to its message. -/
def pingRun : List SrsAction := roundRun (srsFrame ping) ++ [.dispatch ⟨true, true, true⟩ true (.ready 9), .find]

lemma iteration_start {as : List SrsAction} (hr : (run (srsStep 64) {} as).isSome = true)
    (hl : (srsFrom as).loop = .iterating) : Iteration 64 as (srsFrom as).trace :=
  ⟨{}, srsFrom as, run_srs_from hr, rfl, .inl hl, (List.append_nil _).symm⟩

theorem wake_locks_balanced_leaving :
    Balanced ([.fmtSend ⟨true, true, false⟩, .srsSend true true (some 5) true (.failed .econnreset) ping,
      .srsRound leavingRun (srsFrom leavingRun).trace].flatMap WakeCall.locks) := by
  have hleaving : Iteration 64 leavingRun (srsFrom leavingRun).trace :=
    iteration_start (by decide +kernel) (by decide +kernel)
  refine (wake_locks_balanced_iff 64 _ ?_).mpr ?_
  · simp only [List.forall_mem_cons, WakeCall.Possible]
    exact ⟨trivial, trivial, hleaving, List.forall_mem_nil _⟩
  · simp only [List.forall_mem_cons, WakeCall.Keeps]
    refine ⟨id, by decide, ?_, List.forall_mem_nil _⟩
    rintro ⟨a, ha, read, message, rfl, hm⟩
    have hread : read = [] := by simpa [leavingRun, roundRun] using ha
    rw [hread] at hm
    cases hm

/-- The lock is still taken when a message was received and answered, by the send of the answer and by the iteration. -/
theorem wake_locks_unbalanced :
    ¬Balanced (WakeCall.srsSend true true (some 5) true (.ready 9) ping).locks ∧
      (WakeCall.srsRound pingRun (srsFrom pingRun).trace).Possible 64 ∧
      (WakeCall.srsRound pingRun (srsFrom pingRun).trace).locks = [.acquired, .acquired] ∧
      ¬Balanced (WakeCall.srsRound pingRun (srsFrom pingRun).trace).locks :=
  ⟨by decide +kernel, iteration_start (by decide +kernel) (by decide +kernel), by decide +kernel, by decide +kernel⟩

end Ril.Srs
