import Mathlib.Data.List.Induction
import Mathlib.Logic.Function.Basic
import Ril.Reference.AtChannel

/-! The commands of several threads on the AT channel: while a command waits for its reply, the mutex is free for the
others. -/

namespace Ril.Reference

open Lib

variable {T : Type}

/-- A call that waits, with the lines that were processed since it was issued. The program does not keep the lines. -/
structure AtCall where
  command : AtCommand
  lines : List Bytes := []
deriving DecidableEq, Repr

structure AtReturned (T : Type) where
  thread : T
  call : AtCall
  error : Option AtError
  response : Option AtResponse
deriving DecidableEq, Repr

/-- The callers share the state of the channel. Of that, `waiting` is not used. -/
structure AtThreads (T : Type) where
  channel : AtCommands := {}
  calls : T → Option AtCall := fun _ => none
  returned : List (AtReturned T) := []
  faulted : Bool := false

/-- The line is not the first or the second one of an SMS. -/
def AtCommands.processes (d : AtCommands) (line : Bytes) : Bool := d.smsLine.isNone && !isSMSUnsolicited line

namespace AtThreads

variable [DecidableEq T]

def returns (t : T) (call : AtCall) (error : Option AtError) (response : Option AtResponse) (d : AtThreads T) :
    AtThreads T :=
  { d with
    channel := d.channel.clearPendingCommand
    calls := Function.update d.calls t none
    returned := ⟨t, call, error, response⟩ :: d.returned }

/-- `at_send_command_full_nolock` up to the wait -/
def issue (t : T) (c : AtCommand) (written : Bool) (d : AtThreads T) : AtThreads T :=
  if d.channel.response.isSome then d.returns t { command := c } (some .commandPending) none
  else if d.channel.readerClosed then d.returns t { command := c } (some .channelClosed) none
  else if !written then d.returns t { command := c } (some .generic) none
  else { d with
    channel := { d.channel with type := c.type, smsPDU := c.smspdu, response := some {} }
    calls := Function.update d.calls t (some { command := c }) }

/-- The loop reads `sp_response` again, which the thread takes for its own. -/
def wake (t : T) (call : AtCall) (timedOut : Bool) (d : AtThreads T) : AtThreads T :=
  if timedOut then d.returns t call (some .timeout) none
  else
    match d.channel.response with
    | none => { d with faulted := true }
    | some r =>
      if r.finalResponse.isNone && !d.channel.readerClosed then d
      else
        d.returns t call (if d.channel.readerClosed then some .channelClosed else none)
          (if call.command.outResponse then some (AtCommands.reverseIntermediates r) else none)

def hear (d : AtCommands) (line : Bytes) (call : AtCall) : AtCall :=
  if d.processes line then { call with lines := call.lines ++ [line] } else call

def readLine (line : Bytes) (d : AtThreads T) : AtThreads T :=
  { d with channel := d.channel.readLine line, calls := fun t => (d.calls t).map (hear d.channel line) }

end AtThreads

inductive AtThreadAction (T : Type)
  | issue (t : T) (command : AtCommand) (written : Bool)
  | line (line : Bytes)
  | wake (t : T) (timedOut : Bool)
  | close
deriving DecidableEq, Repr

/-- The step of a thread begins and ends without the mutex, or in the wait. -/
def threadsStep [DecidableEq T] (d : AtThreads T) (a : AtThreadAction T) : Option (AtThreads T) :=
  if d.faulted then none
  else
    match a with
    | .issue t c written => if (d.calls t).isSome then none else some (d.issue t c written)
    | .line line => some (d.readLine line)
    | .wake t timedOut =>
      match d.calls t with
      | some call => if timedOut && !call.command.timeout then none else some (d.wake t call timedOut)
      | none => none
    | .close => some { d with channel := { d.channel with readerClosed := true } }

/-! ### What the callers are to see -/

/-- The channel as the reader leaves it if nobody else uses it -/
def AtCall.exchanged (call : AtCall) : AtCommands :=
  call.lines.foldl (fun d line => d.processLine line)
    { response := some {}, type := call.command.type, smsPDU := call.command.smspdu }

/-- The pending command: `sp_response`, `s_type` with `s_responsePrefix`, and `s_smsPDU` -/
def AtCommands.pending (d : AtCommands) : Option AtResponse × AtCommandType × Option Bytes := (d.response, d.type, d.smsPDU)

/-- The call gets the response that its own lines have made. -/
def AtReturned.Own (r : AtReturned T) : Prop :=
  ∃ response, r.call.exchanged.response = some response ∧ response.finalResponse.isSome = true ∧
    r.response = if r.call.command.outResponse then some (AtCommands.reverseIntermediates response) else none

structure Undisturbed (d : AtThreads T) : Prop where
  faulted : d.faulted = false
  pending : ∀ t call, d.calls t = some call → d.channel.pending = call.exchanged.pending
  returned : ∀ r ∈ d.returned, r.error = none → r.Own

/-- No thread sends a command while another one waits for its reply. -/
def OneByOne (d : AtThreads T) : AtThreadAction T → Prop
  | .issue _ _ _ => ∀ t, d.calls t = none
  | _ => True

/-! ### The reader -/

section

variable {d e : AtCommands} {line : Bytes}

lemma pending_ext : d.pending = e.pending ↔ d.response = e.response ∧ d.type = e.type ∧ d.smsPDU = e.smsPDU := by
  rw [AtCommands.pending, AtCommands.pending, Prod.mk.injEq, Prod.mk.injEq]

lemma process_intermediate_pending (h : d.pending = e.pending) (r : AtResponse) :
    (d.processIntermediate r line).pending = (e.processIntermediate r line).pending := by
  obtain ⟨hr, ht, hp⟩ := pending_ext.mp h
  have hu : (d.handleUnsolicited line).pending = (e.handleUnsolicited line).pending := h
  have ha : (d.addIntermediate r line).pending = (e.addIntermediate r line).pending := pending_ext.mpr ⟨rfl, ht, hp⟩
  rw [AtCommands.processIntermediate, AtCommands.processIntermediate, ht]
  cases e.type with
  | noResult => exact hu
  | numeric =>
    dsimp only
    split
    · exact ha
    · exact hu
  | singleline p =>
    dsimp only
    split
    · exact ha
    · exact hu
  | multiline p =>
    dsimp only
    split
    · exact ha
    · exact hu

/-- What the reader does to the pending command depends on the pending command alone. -/
lemma process_line_pending (h : d.pending = e.pending) : (d.processLine line).pending = (e.processLine line).pending := by
  obtain ⟨hr, ht, hp⟩ := pending_ext.mp h
  rw [AtCommands.processLine, AtCommands.processLine, hr, hp]
  cases e.response with
  | none => exact h
  | some r =>
    dsimp only
    split
    · exact pending_ext.mpr ⟨rfl, ht, hp⟩
    · split
      · exact pending_ext.mpr ⟨rfl, ht, hp⟩
      · split
        · exact pending_ext.mpr ⟨rfl, ht, rfl⟩
        · exact process_intermediate_pending h r

lemma read_line_vacant (h : d.response = none) : (d.readLine line).response = none := by
  simp only [AtCommands.readLine, AtCommands.processLine, h]
  split
  · rfl
  · split <;> rfl

lemma read_line_pending : (d.readLine line).pending =
    if d.processes line then (d.processLine line).pending else d.pending := by
  rw [AtCommands.readLine, AtCommands.processes]
  dsimp only
  cases d.smsLine with
  | some line1 => rfl
  | none =>
    cases isSMSUnsolicited line with
    | true => rfl
    | false => exact process_line_pending rfl

/-- A line does not take the response away. -/
lemma process_line_keeps (h : d.response.isSome = true) : (d.processLine line).response.isSome = true := by
  obtain ⟨r, hr⟩ := Option.isSome_iff_exists.mp h
  simp only [AtCommands.processLine, hr]
  split
  · rfl
  · split
    · rfl
    · split
      · rfl
      · rw [AtCommands.processIntermediate]
        split
        · exact h
        all_goals
          split
          · rfl
          · exact h

end

section

variable {call : AtCall} {d : AtCommands} {line : Bytes}

lemma exchanged_open : call.exchanged.response.isSome = true := by
  rw [AtCall.exchanged]
  induction call.lines using List.reverseRecOn with
  | nil => rfl
  | append_singleton lines line ih =>
    rw [List.foldl_append]
    exact process_line_keeps ih

lemma exchanged_hear (h : d.pending = call.exchanged.pending) :
    (d.readLine line).pending = (AtThreads.hear d line call).exchanged.pending := by
  rw [read_line_pending, AtThreads.hear]
  split
  · have hx : ({ call with lines := call.lines ++ [line] } : AtCall).exchanged = call.exchanged.processLine line :=
      List.foldl_append
    rw [hx]
    exact process_line_pending h
  · exact h

end

/-! ### The callers -/

/-- At most one call waits, and without one no command is pending. -/
structure Alone (d : AtThreads T) : Prop extends Undisturbed d where
  unique : ∀ t u, (d.calls t).isSome = true → (d.calls u).isSome = true → t = u
  vacant : (∀ t, d.calls t = none) → d.channel.response = none

section

variable [DecidableEq T] {d d' : AtThreads T} {t : T} {c : AtCommand} {call : AtCall} {error : Option AtError}
  {response : Option AtResponse} {written timedOut : Bool} {line : Bytes}

/-- A call that returns clears the pending command, which is its own if no other call waits. -/
lemma alone_returns (h : Alone d) (ht : ∀ u, u ≠ t → d.calls u = none)
    (ho : error = none → (⟨t, call, error, response⟩ : AtReturned T).Own) : Alone (d.returns t call error response) := by
  have hn : ∀ u, (d.returns t call error response).calls u = none := by
    intro u
    change Function.update d.calls t none u = none
    by_cases hu : u = t
    · rw [hu, Function.update_self]
    · rw [Function.update_of_ne hu, ht u hu]
  exact {
    faulted := h.faulted
    pending := fun u call' hu => by
      rw [hn u] at hu
      cases hu
    returned := fun r hr he => by
      rcases List.mem_cons.mp hr with rfl | hr
      · exact ho he
      · exact h.returned r hr he
    unique := fun u _ hu => by
      rw [hn u] at hu
      cases hu
    vacant := fun _ => rfl }

lemma alone_issue (h : Alone d) (hn : ∀ u, d.calls u = none) : Alone (d.issue t c written) := by
  have hr : d.channel.response = none := h.vacant hn
  have hreturns : ∀ e, Alone (d.returns t { command := c } (some e) none) := fun e =>
    alone_returns h (fun u _ => hn u) fun he => by cases he
  rw [AtThreads.issue]
  split
  · exact hreturns _
  · split
    · exact hreturns _
    · split
      · exact hreturns _
      · have hself : ∀ u, u ≠ t → Function.update d.calls t (some { command := c }) u = none := fun u hu => by
          rw [Function.update_of_ne hu, hn u]
        have hof : ∀ u, (Function.update d.calls t (some { command := c }) u).isSome = true → u = t := fun u hu =>
          by_contra fun hne => by
            rw [hself u hne] at hu
            cases hu
        exact {
          faulted := h.faulted
          pending := fun u call' hu => by
            obtain rfl : u = t := hof u (Option.isSome_of_eq_some hu)
            change Function.update d.calls u (some { command := c }) u = some call' at hu
            rw [Function.update_self] at hu
            cases hu
            rfl
          returned := h.returned
          unique := fun u v hu hv => (hof u hu).trans (hof v hv).symm
          vacant := fun hall => by
            have := hall t
            change Function.update d.calls t (some { command := c }) t = none at this
            rw [Function.update_self] at this
            cases this }

/-- A call that is refused or fails before it is sent clears what another one waits for. -/
lemma issue_disturbs (h : Alone d) {u : T} (hu : d.calls u = some call) (ht : d.calls t = none) :
    ¬Undisturbed (d.issue t c written) := by
  intro hd
  have hr : d.channel.response.isSome = true := by
    rw [(pending_ext.mp (h.pending u call hu)).1]
    exact exchanged_open
  have hi : d.issue t c written = d.returns t { command := c } (some .commandPending) none := by
    rw [AtThreads.issue, if_pos hr]
  have hne : u ≠ t := fun he => by
    rw [he, ht] at hu
    cases hu
  have hc : (d.issue t c written).calls u = some call := by
    rw [hi]
    exact (Function.update_of_ne hne ..).trans hu
  have hx := (pending_ext.mp (hd.pending u call hc)).1
  rw [hi] at hx
  have ho : call.exchanged.response.isSome = true := exchanged_open
  rw [← hx] at ho
  cases ho

lemma alone_wake (h : Alone d) (hc : d.calls t = some call) : Alone (d.wake t call timedOut) := by
  have hother : ∀ u, u ≠ t → d.calls u = none := fun u hu => by
    by_contra hne
    exact hu (h.unique u t (Option.isSome_iff_ne_none.mpr hne) (Option.isSome_of_eq_some hc))
  have hp : d.channel.response = call.exchanged.response := (pending_ext.mp (h.pending t call hc)).1
  rw [AtThreads.wake]
  split
  · exact alone_returns h hother fun he => by cases he
  · have hopen : call.exchanged.response.isSome = true := exchanged_open
    obtain ⟨r, hr⟩ := Option.isSome_iff_exists.mp hopen
    rw [hp, hr]
    dsimp only
    split
    · exact h
    · rename_i hgo
      refine alone_returns h hother fun he => ⟨r, hr, ?_, rfl⟩
      cases hclosed : d.channel.readerClosed with
      | true =>
        rw [hclosed] at he
        cases he
      | false =>
        rw [hclosed] at hgo
        cases hf : r.finalResponse with
        | none => exact absurd (by rw [hf]; rfl) hgo
        | some final => rfl

omit [DecidableEq T] in
lemma alone_read_line (h : Alone d) : Alone (d.readLine line) where
  faulted := h.faulted
  pending := fun t call ht => by
    obtain ⟨call', hc, rfl⟩ := Option.map_eq_some_iff.mp ht
    exact exchanged_hear (h.pending t call' hc)
  returned := h.returned
  unique := fun t u ht hu => h.unique t u (by simpa [AtThreads.readLine] using ht) (by simpa [AtThreads.readLine] using hu)
  vacant := fun hall => by
    have hn : d.channel.response = none := h.vacant fun t => Option.map_eq_none_iff.mp (hall t)
    exact read_line_vacant hn

lemma alone_step {a : AtThreadAction T} (h : Alone d) (ho : OneByOne d a) (hs : threadsStep d a = some d') : Alone d' := by
  simp only [threadsStep, h.faulted, Bool.false_eq_true, if_false] at hs
  cases a with
  | issue t c written =>
    simp only [ho t, Option.isSome_none, Bool.false_eq_true, if_false] at hs
    cases hs
    exact alone_issue h ho
  | line line =>
    cases hs
    exact alone_read_line h
  | wake t timedOut =>
    cases hc : d.calls t with
    | none => simp [hc] at hs
    | some call =>
      simp only [hc, Option.ite_none_left_eq_some] at hs
      obtain ⟨-, hs⟩ := hs
      cases hs
      exact alone_wake h hc
  | close =>
    cases hs
    exact { h with faulted := rfl }

lemma alone_reaches (hr : Reaches threadsStep OneByOne {} d) : Alone d := by
  refine hr.invariant ?_ fun s a s' _ hi ho hs => alone_step hi ho hs
  exact {
    faulted := rfl
    pending := fun _ _ h => by cases h
    returned := fun _ h => by cases h
    unique := fun _ _ h => by cases h
    vacant := fun _ => rfl }

/-- As long as each thread sends its command when no other one waits, every command has the pending state to itself and
gets its own response. From there a thread that sends disturbs nobody exactly if none waits. -/
theorem undisturbed_one_by_one (hr : Reaches threadsStep OneByOne {} d) :
    Undisturbed d ∧ ∀ t c written d', threadsStep d (.issue t c written) = some d' →
      (Undisturbed d' ↔ ∀ t, d.calls t = none) := by
  have h := alone_reaches hr
  refine ⟨h.toUndisturbed, fun t c written d' hs => ⟨fun hd u => ?_, fun hn => ?_⟩⟩
  swap
  · exact (alone_step (a := .issue t c written) h hn hs).toUndisturbed
  cases hu : d.calls u with
  | none => rfl
  | some call =>
    simp only [threadsStep, h.faulted, Bool.false_eq_true, if_false, Option.ite_none_left_eq_some] at hs
    obtain ⟨ht, hs⟩ := hs
    cases hs
    exact absurd hd (issue_disturbs h hu (by simpa using ht))

end

/-! ### Two threads -/

def atPin : AtCommand := { command := ascii "AT+CPIN?", type := .singleline (ascii "+CPIN:") }

def atSignal : AtCommand := { command := ascii "AT+CSQ", type := .singleline (ascii "+CSQ:") }

def takesTurns (d : AtThreads Bool) : AtThreadAction Bool → Bool
  | .issue _ _ _ => (d.calls true).isNone && (d.calls false).isNone
  | _ => true

lemma one_by_one_of_takes_turns (d : AtThreads Bool) (a : AtThreadAction Bool) (h : takesTurns d a = true) :
    OneByOne d a := by
  cases a with
  | issue t c written =>
    intro u
    have hn := Bool.and_eq_true_iff.mp h
    cases u with
    | true => exact Option.isNone_iff_eq_none.mp hn.1
    | false => exact Option.isNone_iff_eq_none.mp hn.2
  | _ => trivial

def turnsRun : List (AtThreadAction Bool) :=
  [.issue false atPin true, .line (ascii "+CPIN: READY"), .line (ascii "OK"), .wake false false,
    .issue true atSignal true, .line (ascii "+CSQ: 1,2"), .line (ascii "OK"), .wake true false]

/-- The second thread sends its command after the first one has its response. -/
theorem turns_run_undisturbed : ∃ d : AtThreads Bool,
    d.returned.map (fun r => (r.thread, r.error, r.response.map (·.intermediates))) =
      [(true, none, some [ascii "+CSQ: 1,2"]), (false, none, some [ascii "+CPIN: READY"])] ∧
    Undisturbed d ∧ ∀ t c written d', threadsStep d (.issue t c written) = some d' →
      (Undisturbed d' ↔ ∀ t, d.calls t = none) :=
  ⟨_, by decide, undisturbed_one_by_one (.of_run turnsRun rfl (by decide) one_by_one_of_takes_turns)⟩

/-- The second thread is refused while the first one waits, whose response is gone. -/
theorem disturbed_by_refused :
    ¬∀ d : AtThreads Bool, Reaches threadsStep (fun _ _ => True) {} d → Undisturbed d := by
  intro h
  have hd := h _ (.tail (a := .issue true atSignal true) (.tail (a := .issue false atPin true) .refl trivial rfl) trivial rfl)
  have hp := hd.pending false { command := atPin } (by rfl)
  exact absurd hp (by decide)

end Ril.Reference
