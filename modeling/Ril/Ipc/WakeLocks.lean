import Ril.Ipc.Utils

/-! The wake lock of the IPC clients: where it is taken and given back. -/

namespace Ril.Ipc

inductive WakeLock
  | acquired | released
deriving DecidableEq, Repr

/-- What a send finds: whether the client has its data, whether it is available, and whether the transport takes the
message. -/
structure IpcSend where
  found : Bool
  available : Bool
  taken : Bool
deriving DecidableEq, Repr

/-- The result comes with what is done with the lock. The transport has failed or not when the lock is given back. -/
def ipcSend (io : IpcSend) : Bool × List WakeLock :=
  if !io.found then (false, [])
  else if !io.available then (false, [])
  else if io.taken then (true, [.acquired, .released])
  else (false, [.acquired, .released])

def ipcFmtSend (io : IpcSend) : Bool × List WakeLock := ipcSend io

/-- The messages have no type. -/
def ipcRfsSend (io : IpcSend) : Bool × List WakeLock := ipcSend io

def ipcClientClose : ℕ := 0x00

def ipcClientIoError : ℕ := 0x01

/-- What one iteration of the loop of a client meets: the result of the poll with the number of descriptors that it
leaves and whether the event is among them, the event that is read, the message that is received, and the sends and the
result of its handler. -/
structure IpcRound where
  available : Bool
  poll : Option (ℕ × ℕ × Bool)
  event : Option ℕ
  received : Bool
  sends : List IpcSend
  handled : Bool

inductive LoopEnd
  | continues
  | closed
  | failed
deriving DecidableEq, Repr

/-- From `ipc_client_recv` on -/
def ipcRecvRound (send : IpcSend → Bool × List WakeLock) (io : IpcRound) : LoopEnd × List WakeLock :=
  if io.received then
    (if io.handled then .continues else .failed, [.acquired, .released] ++ io.sends.flatMap fun send' => (send send').2)
  else (.failed, [.acquired, .released])

/-- One iteration. The read of the event replaces the result of the poll. -/
def ipcLoopRound (send : IpcSend → Bool × List WakeLock) (io : IpcRound) : LoopEnd × List WakeLock :=
  if !io.available then (.failed, [])
  else
    match io.poll with
    | none => (.failed, [])
    | some (rc, count, eventReady) =>
      if eventReady && decide (0 < count) then
        match io.event with
        | none => (.failed, [])
        | some event =>
          if event = ipcClientClose then (.closed, [])
          else if event = ipcClientIoError then (.failed, [])
          else if 0 = count then (.continues, [])
          else ipcRecvRound send io
      else if rc = count then (.continues, [])
      else ipcRecvRound send io

/-- A failure makes the radio unavailable, without the lock. -/
def ipcFmtLoopRound (io : IpcRound) : LoopEnd × List WakeLock := ipcLoopRound ipcFmtSend io

def ipcRfsLoopRound (io : IpcRound) : LoopEnd × List WakeLock := ipcLoopRound ipcRfsSend io

/-! ### The balance of the lock -/

/-- The lock is given back as often as it is taken. -/
def Balanced (log : List WakeLock) : Prop := log.count .acquired = log.count .released

instance (log : List WakeLock) : Decidable (Balanced log) := inferInstanceAs (Decidable (_ = _))

namespace Balanced

variable {log log' : List WakeLock}

lemma nil : Balanced [] := rfl

lemma once : Balanced [.acquired, .released] := by
  rw [Balanced]
  simp

lemma append (h : Balanced log) (h' : Balanced log') : Balanced (log ++ log') := by
  rw [Balanced] at h h' ⊢
  rw [List.count_append, List.count_append, h, h']

lemma flatMap {α : Type} {f : α → List WakeLock} (h : ∀ a, Balanced (f a)) (as : List α) : Balanced (as.flatMap f) := by
  induction as with
  | nil => exact nil
  | cons a as ih =>
    rw [List.flatMap_cons]
    exact (h a).append ih

end Balanced

lemma ipc_send_balanced (io : IpcSend) : Balanced (ipcSend io).2 := by
  rw [ipcSend]
  split
  · exact .nil
  · split
    · exact .nil
    · split
      · exact .once
      · exact .once

section

variable {send : IpcSend → Bool × List WakeLock} (hsend : ∀ io, Balanced (send io).2)

include hsend

lemma ipc_recv_round_balanced (io : IpcRound) : Balanced (ipcRecvRound send io).2 := by
  rw [ipcRecvRound]
  split
  · exact Balanced.once.append (.flatMap hsend io.sends)
  · exact .once

lemma ipc_loop_round_balanced (io : IpcRound) : Balanced (ipcLoopRound send io).2 := by
  rw [ipcLoopRound]
  split
  · exact .nil
  · split
    · exact .nil
    · split
      · split
        · exact .nil
        · split
          · exact .nil
          · split
            · exact .nil
            · split
              · exact .nil
              · exact ipc_recv_round_balanced hsend io
      · split
        · exact .nil
        · exact ipc_recv_round_balanced hsend io

end

/-- The lock has been taken so many times more than it was given back. -/
def Leaves (n : ℕ) (log : List WakeLock) : Prop := log.count .acquired = log.count .released + n

namespace Leaves

variable {n m : ℕ} {log log' : List WakeLock}

lemma balanced_iff (h : Leaves n log) : Balanced log ↔ n = 0 := by
  rw [Leaves] at h
  rw [Balanced]
  omega

lemma of_balanced (h : Balanced log) : Leaves 0 log := h

lemma append (h : Leaves n log) (h' : Leaves m log') : Leaves (n + m) (log ++ log') := by
  rw [Leaves] at h h' ⊢
  rw [List.count_append, List.count_append]
  omega

lemma reverse (h : Leaves n log) : Leaves n log.reverse := by
  rw [Leaves] at h ⊢
  rw [List.count_reverse, List.count_reverse, h]

lemma flatMap_balanced_iff {α : Type} {f : α → List WakeLock} {as : List α} (h : ∀ a ∈ as, ∃ n, Leaves n (f a)) :
    Balanced (as.flatMap f) ↔ ∀ a ∈ as, Balanced (f a) := by
  have hleaves : ∃ n, Leaves n (as.flatMap f) ∧ (n = 0 ↔ ∀ a ∈ as, Balanced (f a)) := by
    induction as with
    | nil => exact ⟨0, rfl, by simp⟩
    | cons a as ih =>
      obtain ⟨ha, has⟩ := List.forall_mem_cons.mp h
      obtain ⟨n, hn⟩ := ha
      obtain ⟨m, hm, hiff⟩ := ih has
      refine ⟨n + m, ?_, ?_⟩
      · rw [List.flatMap_cons]
        exact hn.append hm
      · rw [List.forall_mem_cons, hn.balanced_iff, ← hiff, Nat.add_eq_zero_iff]
  obtain ⟨n, hn, hiff⟩ := hleaves
  rw [hn.balanced_iff, hiff]

end Leaves

end Ril.Ipc
