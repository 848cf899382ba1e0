import Mathlib.Logic.Function.Basic
import Ril.Lib.Transition
import Ril.Libril.Commands

/-! The command sockets of libril: the event loop, which takes commands and clients and closes connections, and the
threads that complete requests, step by step. -/

namespace Ril.Libril

open Lib

/-- A pending request, with the connection it was received on. A local one was not received. -/
structure CommandRequest where
  info : RequestInfo
  connection : Option ℕ
deriving DecidableEq

/-- How far `RIL_onRequestComplete` has come with a request. From `sendResponseRaw` on it holds the descriptor that it
has read. -/
inductive Stage
  | dequeued | tested | marshalled
  | holding (fd : ℕ)
  | headerWritten (fd : ℕ)
deriving DecidableEq, Repr

structure Completion where
  request : CommandRequest
  stage : Stage
deriving DecidableEq

/-- What the event loop is doing: a client was accepted and `fdCommand` is still to be set, or a connection was closed
and `fdCommand`, or the pending requests, are still to be reset. -/
inductive LoopStage
  | idle
  | accepted (socketId : RilSocketId) (fd : ℕ)
  | closing (socketId : RilSocketId)
  | cancelling (socketId : RilSocketId)
deriving DecidableEq, Repr

/-- The connections are numbered. What was received and written are the serials of commands and of solicited
responses. -/
structure Rild where
  fds : ℕ → Option ℕ
  connections : ℕ
  fdCommand : RilSocketId → Option ℕ
  listening : RilSocketId → Bool
  pending : RilSocketId → List CommandRequest
  completions : List Completion
  loop : LoopStage
  received : List (ℕ × Int32)
  written : List (ℕ × Int32)

def rildStart : Rild := ⟨fun _ => none, 0, fun _ => none, fun _ => true, fun _ => [], [], .idle, [], []⟩

inductive RildAction
  | accept (socketId : RilSocketId) (fd : ℕ)
  | reject
  | publish
  | receive (socketId : RilSocketId) (token : Int32) (pCI : ℕ)
  | issueLocal (socketId : RilSocketId) (pCI : ℕ)
  | endOfStream (socketId : RilSocketId)
  | resetFdCommand
  | cancelPending
  | debugClose (socketId : RilSocketId)
  | dequeue (socketId : RilSocketId) (i : ℕ)
  | advance (i : ℕ)
  | tooLong (i : ℕ)
  | writeFails (i : ℕ)
deriving DecidableEq, Repr

def cancelAll (rs : List CommandRequest) : List CommandRequest :=
  rs.map fun r => { r with info := { r.info with cancelled := true } }

def Rild.done (d : Rild) (i : ℕ) : Rild := { d with completions := d.completions.eraseIdx i }

def Rild.setStage (d : Rild) (i : ℕ) (c : Completion) (stage : Stage) : Rild :=
  { d with completions := d.completions.set i { c with stage := stage } }

/-- What is written goes to the connection that the descriptor has now. -/
def Rild.write (d : Rild) (fd : ℕ) (token : Int32) : Rild :=
  match d.fds fd with
  | none => d
  | some connection => { d with written := d.written ++ [(connection, token)] }

/-- The next step of a completing thread -/
def advanceCompletion (d : Rild) (i : ℕ) (c : Completion) : Rild :=
  match c.stage with
  | .dequeued => if c.request.info.isLocal || c.request.info.cancelled then d.done i else d.setStage i c .tested
  | .tested => d.setStage i c .marshalled
  | .marshalled =>
    match d.fdCommand c.request.info.socketId with
    | none => d.done i
    | some fd => d.setStage i c (.holding fd)
  | .holding fd => (d.write fd c.request.info.token).setStage i c (.headerWritten fd)
  | .headerWritten fd => (d.write fd c.request.info.token).done i

def closeFd (d : Rild) (fd : ℕ) : Rild := { d with fds := Function.update d.fds fd none }

def stageFd : Stage → Option ℕ
  | .holding fd => some fd
  | .headerWritten fd => some fd
  | .dequeued => none
  | .tested => none
  | .marshalled => none

def rildStep (d : Rild) : RildAction → Option Rild
  | .accept socketId fd =>
    if d.loop = .idle ∧ d.listening socketId = true ∧ d.fds fd = none then
      some { d with
        fds := Function.update d.fds fd (some d.connections), connections := d.connections + 1,
        listening := Function.update d.listening socketId false, loop := .accepted socketId fd }
    else none
  | .reject =>
    match d.loop with
    | .accepted socketId fd => some { closeFd d fd with
        pending := Function.update d.pending socketId (cancelAll (d.pending socketId)),
        listening := Function.update d.listening socketId true, loop := .idle }
    | _ => none
  | .publish =>
    match d.loop with
    | .accepted socketId fd => some { d with fdCommand := Function.update d.fdCommand socketId (some fd), loop := .idle }
    | _ => none
  | .receive socketId token pCI =>
    match d.loop, (d.fdCommand socketId).bind d.fds with
    | .idle, some connection => some { d with
        pending := Function.update d.pending socketId
          (⟨⟨token, pCI, false, false, socketId⟩, some connection⟩ :: d.pending socketId),
        received := d.received ++ [(connection, token)] }
    | _, _ => none
  | .issueLocal socketId pCI =>
    if d.loop = .idle then
      some { d with
        pending := Function.update d.pending socketId
          (⟨⟨-1, pCI, false, true, socketId⟩, none⟩ :: d.pending socketId) }
    else none
  | .endOfStream socketId =>
    match d.loop, d.fdCommand socketId with
    | .idle, some fd => some { closeFd d fd with loop := .closing socketId }
    | _, _ => none
  | .resetFdCommand =>
    -- the event that is added is the one of the first socket
    match d.loop with
    | .closing socketId => some { d with
        fdCommand := Function.update d.fdCommand socketId none,
        listening := Function.update d.listening .socket1 true, loop := .cancelling socketId }
    | _ => none
  | .cancelPending =>
    match d.loop with
    | .cancelling socketId => some { d with
        pending := Function.update d.pending socketId (cancelAll (d.pending socketId)), loop := .idle }
    | _ => none
  | .debugClose socketId =>
    match d.loop, d.fdCommand socketId with
    | .idle, some fd => some { closeFd d fd with fdCommand := Function.update d.fdCommand socketId none }
    | _, _ => none
  | .dequeue socketId i =>
    match (d.pending socketId)[i]? with
    | none => none
    | some r => some { d with
        pending := Function.update d.pending socketId ((d.pending socketId).eraseIdx i),
        completions := ⟨r, .dequeued⟩ :: d.completions }
  | .advance i =>
    match d.completions[i]? with
    | none => none
    | some c => some (advanceCompletion d i c)
  | .tooLong i =>
    match d.completions[i]? with
    | none => none
    | some c => if c.stage = .marshalled then some (d.done i) else none
  | .writeFails i =>
    match d.completions[i]? with
    | none => none
    | some c =>
      match stageFd c.stage with
      | none => none
      | some fd => some ((closeFd d fd).done i)

end Ril.Libril
