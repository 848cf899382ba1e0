import Mathlib.Logic.Function.Basic
import Ril.Lib.PriorityQueue
import Ril.Lib.Transition

/-! The worker queue of the mock RIL: the calls of its producers and the mutex sections of its worker thread. -/

namespace Ril.Mock

open Lib

inductive ThreadState
  | initialized | running | stopping | stopped
deriving DecidableEq, Repr

/-- `call` is the number of the call that filled the record; the code does not have it. -/
structure Record (V : Type) where
  time : ℤ
  p : V
  call : ℕ
deriving DecidableEq, Repr

/-- The worker is outside of the mutex, waits for `cond_` until it is signalled, spuriously or by a time, or has
released a record and its mutex and is about to process the record. Its own copy of `p` is not used. -/
inductive WorkerPc (V : Type)
  | loop
  | waiting (time : Option ℤ) (signalled : Bool)
  | unlocked (r : ℕ) (p : V)
deriving DecidableEq, Repr

structure Processed (V : Type) where
  call : ℕ
  p : V
  now : ℤ
deriving DecidableEq, Repr

/-- Records are addresses in `memory`, the first `allocated` of which are in use. `added` and `processed` are the
histories of the calls, with the values, their deadlines, and the values that `Process` was called with. -/
structure WorkerQueue (V : Type) where
  memory : ℕ → Record V
  allocated : ℕ := 0
  q : List ℕ := []
  freeList : List ℕ := []
  delayed : List ℕ := []
  state : ThreadState := .initialized
  worker : WorkerPc V := .loop
  now : ℤ := 0
  added : List (V × Option ℤ) := []
  processed : List (Processed V) := []

namespace WorkerQueue

variable {V : Type} (pq : PriorityQueue ℕ)

def time (d : WorkerQueue V) (r : ℕ) : ℤ := (d.memory r).time

def fill (r : ℕ) (p : V) (delayInMs : ℤ) (d : WorkerQueue V) : WorkerQueue V :=
  let time := if delayInMs ≠ 0 then d.now + delayInMs else 0
  { d with memory := Function.update d.memory r { time := time, p := p, call := d.added.length } }

def obtainRecord (p : V) (delayInMs : ℤ) (d : WorkerQueue V) : ℕ × WorkerQueue V :=
  match d.freeList with
  | [] => (d.allocated, { d with allocated := d.allocated + 1 }.fill d.allocated p delayInMs)
  | r :: freeList => (r, { d with freeList := freeList }.fill r p delayInMs)

def releaseRecord (r : ℕ) (d : WorkerQueue V) : WorkerQueue V := { d with freeList := r :: d.freeList }

def signal (d : WorkerQueue V) : WorkerQueue V :=
  match d.worker with
  | .waiting time _ => { d with worker := .waiting time true }
  | _ => d

def add (p : V) (d : WorkerQueue V) : WorkerQueue V :=
  let (r, d) := d.obtainRecord p 0
  let d := { d with q := d.q ++ [r], added := d.added ++ [(p, none)] }
  if d.q.length = 1 then d.signal else d

def addDelayed (p : V) (delayInMs : Int32) (d : WorkerQueue V) : WorkerQueue V :=
  if delayInMs ≤ 0 then d.add p
  else
    let (r, d) := d.obtainRecord p delayInMs.toInt
    let d := { d with delayed := r :: d.delayed, added := d.added ++ [(p, some (d.now + delayInMs.toInt))] }
    if d.q = [] ∧ pq.top d.time d.delayed = some r then d.signal else d

def moveDue (d : WorkerQueue V) : WorkerQueue V :=
  let r := pq.popDue d.time d.now d.delayed.length d.delayed
  { d with q := d.q ++ r.1, delayed := r.2 }

/-- What the worker does with a record of `q_` or without one, until it gives the mutex up -/
def takeOrWait (d : WorkerQueue V) : WorkerQueue V :=
  match d.q with
  | r :: q => { d with q := q, worker := .unlocked r (d.memory r).p }.releaseRecord r
  | [] => { d with worker := .waiting ((pq.top d.time d.delayed).map d.time) false }

/-- The worker holds the mutex. -/
def work (d : WorkerQueue V) : WorkerQueue V :=
  if d.state ≠ .running then { d with worker := .loop }
  else if d.q = [] then (d.moveDue pq).takeOrWait pq
  else d.takeOrWait pq

/-- `Process(r->p)`, outside of the mutex -/
def process (r : ℕ) (d : WorkerQueue V) : WorkerQueue V :=
  { d with
    worker := .loop
    processed := d.processed ++ [{ call := (d.memory r).call, p := (d.memory r).p, now := d.now }] }

def tick (ms : ℕ) (d : WorkerQueue V) : WorkerQueue V := { d with now := d.now + ms }

end WorkerQueue

inductive QueueAction (V : Type)
  | run
  | add (p : V)
  | addDelayed (p : V) (delayInMs : Int32)
  | beginStopping
  | waitUntilStopped
  | tick (ms : ℕ)
  | enter
  | wake
  | process
deriving DecidableEq, Repr

open WorkerQueue in
def queueStep {V : Type} (pq : PriorityQueue ℕ) (d : WorkerQueue V) : QueueAction V → Option (WorkerQueue V)
  | .run => if d.state = .initialized then some { d with state := .running } else none
  | .add p => some (d.add p)
  | .addDelayed p delayInMs => some (d.addDelayed pq p delayInMs)
  | .beginStopping => if d.state = .running then some { d with state := .stopping } else none
  | .waitUntilStopped => if d.state = .stopping then some d.signal else none
  | .tick ms => some (d.tick ms)
  | .enter => match d.worker, d.state with
    | .loop, .running => some (d.work pq)
    | .loop, .stopping => some { d with state := .stopped }
    | _, _ => none
  | .wake => match d.worker with
    | .waiting _ _ => some (d.work pq)
    | _ => none
  | .process => match d.worker with
    | .unlocked r _ => some (d.process r)
    | _ => none

/-! ### The worker thread

The waits of the worker thread and the call that stops it. `Stop` does not take the mutex, so that each of its steps
may come between two tests of the worker. -/

/-- What `gettimeofday` gives -/
structure TimeVal where
  sec : ℤ
  usec : ℤ
  usec_nonneg : 0 ≤ usec
  usec_lt : usec < 1000000

structure TimeSpec where
  sec : ℤ
  nsec : ℤ
deriving DecidableEq, Repr

def TimeVal.nanos (tv : TimeVal) : ℤ := (tv.sec * 1000000 + tv.usec) * 1000

def TimeSpec.nanos (ts : TimeSpec) : ℤ := ts.sec * 1000000000 + ts.nsec

def TimeSpec.WellFormed (ts : TimeSpec) : Prop := 0 ≤ ts.nsec ∧ ts.nsec < 1000000000

def TimeVal.after (tv : TimeVal) (delayMs : ℤ) : TimeSpec where
  sec := tv.sec + delayMs.tdiv 1000
  nsec := (tv.usec + delayMs.tmod 1000 * 1000) * 1000

/-- A timed wait that the worker computes: the clocks, the deadlines of the delayed records, and the time of the record
at the top with the timespec -/
structure TimedWait where
  tv : TimeVal
  now : ℤ
  deadlines : List ℤ
  time : ℤ
  ts : TimeSpec

/-- Where the worker goes on once it is not in `cond_` and has no record in hand. It has the mutex from `innerTest`
on. -/
inductive WorkerAt
  | outerTest | lock
  | innerTest | testQueues | startWait (timed : Option TimedWait) | lastTest
  | returned

/-- `signalling` tells that `Stop` has changed the state and has not called `pthread_cond_signal` yet, `waits` has the
timed waits that were started. -/
structure WorkerThread (V : Type) where
  queue : WorkerQueue V
  point : WorkerAt := .outerTest
  signalling : Bool := false
  waits : List TimedWait := []

namespace WorkerThread

variable {V : Type} (pq : PriorityQueue ℕ)

/-- The worker is neither in `cond_` nor about to process a record. -/
def runs (d : WorkerThread V) : Bool :=
  match d.queue.worker with
  | .loop => true
  | _ => false

def holdsMutex (d : WorkerThread V) : Bool :=
  d.runs && match d.point with
  | .innerTest | .testQueues | .startWait _ | .lastTest => true
  | .outerTest | .lock | .returned => false

def isRunning (d : WorkerThread V) : Bool := d.queue.state = .running

def testRunning (d : WorkerThread V) : Option (WorkerThread V) :=
  match d.point with
  | .outerTest => some { d with point := if d.isRunning then .lock else .returned }
  | .innerTest => some { d with point := if d.isRunning then .testQueues else .lastTest }
  | .lastTest =>
    if d.isRunning then
      match d.queue.q with
      | [] => none
      | r :: q => some { d with
        queue := { d.queue with q := q, worker := .unlocked r (d.queue.memory r).p }.releaseRecord r
        point := .outerTest }
    else some { d with point := .outerTest }
  | _ => none

/-- The wait until the deadline at the top, at the time `tv` -/
def timedWait (tv : TimeVal) (d : WorkerQueue V) (r : ℕ) : TimedWait where
  tv := tv
  now := d.now
  deadlines := d.delayed.map d.time
  time := d.time r
  ts := tv.after (d.time r - d.now)

def testQueues (tv : TimeVal) (d : WorkerThread V) : WorkerThread V :=
  if d.queue.q ≠ [] then { d with point := .lastTest }
  else if d.queue.delayed = [] then { d with point := .startWait none }
  else
    let queue := d.queue.moveDue pq
    match queue.q, pq.top queue.time queue.delayed with
    | [], some r => { d with queue := queue, point := .startWait (some (timedWait tv queue r)) }
    | _, _ => { d with queue := queue, point := .innerTest }

def startWait (timed : Option TimedWait) (d : WorkerThread V) : WorkerThread V :=
  { d with
    queue := { d.queue with worker := .waiting (timed.map TimedWait.time) false }
    point := .innerTest
    waits := timed.toList ++ d.waits }

end WorkerThread

inductive WorkerAction (V : Type)
  | run
  | add (p : V)
  | addDelayed (p : V) (delayInMs : Int32)
  | beginStopping
  | signal
  | tick (ms : ℕ)
  | testRunning
  | lock
  | testQueues (tv : TimeVal)
  | startWait
  | wake
  | process
  | stopped

open WorkerThread in
def workerStep {V : Type} (pq : PriorityQueue ℕ) (d : WorkerThread V) : WorkerAction V → Option (WorkerThread V)
  | .run => if d.queue.state = .initialized then some { d with queue := { d.queue with state := .running } } else none
  | .add p => if d.holdsMutex then none else some { d with queue := d.queue.add p }
  | .addDelayed p delayInMs => if d.holdsMutex then none else some { d with queue := d.queue.addDelayed pq p delayInMs }
  | .beginStopping =>
    if d.isRunning then some { d with queue := { d.queue with state := .stopping }, signalling := true } else none
  | .signal => if d.signalling then some { d with queue := d.queue.signal, signalling := false } else none
  | .tick ms => some { d with queue := d.queue.tick ms }
  | .testRunning => if d.runs && d.queue.state ≠ .initialized then d.testRunning else none
  | .lock => match d.runs, d.point with
    | true, .lock => some { d with point := .innerTest }
    | _, _ => none
  | .testQueues tv => match d.runs, d.point with
    | true, .testQueues => some (d.testQueues pq tv)
    | _, _ => none
  | .startWait => match d.runs, d.point with
    | true, .startWait timed => some (d.startWait timed)
    | _, _ => none
  | .wake => match d.queue.worker with
    | .waiting _ _ => some { d with queue := { d.queue with worker := .loop } }
    | _ => none
  | .process => match d.queue.worker with
    | .unlocked r _ => some { d with queue := d.queue.process r }
    | _ => none
  | .stopped => match d.runs, d.point with
    | true, .returned => some { d with queue := { d.queue with state := .stopped } }
    | _, _ => none

end Ril.Mock
