import Mathlib.Data.List.TakeWhile
import Ril.Samsung.Proofs.PinSteps

/-! What the requests that send a PIN are completed with. -/

namespace Ril.Samsung

open Ril.Ipc Ril.Lib

/-- A generic answer whose outcome waits for the count of the remaining tries, and the request it was for -/
structure ParkedOutcome where
  answer : IpcMessage
  request : RilRequestCode
  token : RilToken
deriving DecidableEq, Repr

/-- The outcomes that were parked, the last one first -/
abbrev Outcomes := List ParkedOutcome

namespace Outcomes

/-- The last outcome for a request, if it came under the aseq -/
def own (outcomes : Outcomes) (token : RilToken) (aseq : UInt8) : Option ParkedOutcome :=
  (outcomes.find? fun p => p.token == token).filter fun p => p.answer.aseq == aseq

/-- The last outcome for a kind of request -/
def kept (outcomes : Outcomes) (request : RilRequestCode) : Option ParkedOutcome :=
  outcomes.find? fun p => p.request == request

end Outcomes

/-- What the framework is told when the count of the tries has come -/
def ParkedOutcome.completion (p : ParkedOutcome) (message : IpcMessage) : Option (RilErrno × RilResponse) :=
  (IpcGenPhoneResData.read p.answer.data).bind fun outcome =>
    (IpcSecLockInfomationResponseData.read message.data).map fun count =>
      ((ipcSecResult outcome count.retryCount.toNat).1, .int (ipcSecResult outcome count.retryCount.toNat).2)

/-- The last event is the question for the count of the tries. -/
def asksTries (aseq : UInt8) (events : List Event) : Bool :=
  match events.head? with
  | some (.sent m true) => m.mseq == aseq && m.command == .secLockInfomation
  | _ => false

/-- The outcomes after a message -/
def Outcomes.park (outcomes : Outcomes) (message : IpcMessage) (s t : RilData) : Outcomes :=
  match namedRequest message s with
  | none => outcomes
  | some r =>
    if message.command = .genPhoneRes ∧ asksTries message.aseq (newEvents s t) = true then
      ⟨message, r.request, r.token⟩ :: outcomes
    else outcomes

/-- A step of the daemon with the message that it takes, the requests that are registered, those with the aseq of the
message, the outcomes that were parked, and what is done -/
structure PinStep where
  message : Option IpcMessage
  requests : List RilRequest
  named : List RilRequest
  outcomes : Outcomes
  events : List Event

/-- A run of the daemon with its parked outcomes and its steps, the last one first -/
structure PinRun where
  daemon : Daemon := {}
  outcomes : Outcomes := []
  steps : List PinStep := []

/-- The requests with the aseq of a message -/
def namedRequests (message : IpcMessage) (s : RilData) : List RilRequest :=
  s.requests.filter fun r => decide (HasAseq message s r)

def PinRun.after (x : PinRun) (a : Action) (d : Daemon) : PinRun where
  daemon := d
  outcomes := a.ipcMessage.elim x.outcomes fun message => x.outcomes.park message x.daemon.data d.data
  steps := ⟨a.ipcMessage, x.daemon.data.requests,
    a.ipcMessage.elim [] fun message => namedRequests message x.daemon.data, x.outcomes,
    newEvents x.daemon.data d.data⟩ :: x.steps

def pinStep (x : PinRun) (a : Action) : Option PinRun := (step x.daemon a).map (x.after a)

namespace PinStep

/-- The message is an answer with the count of the tries. -/
def isCount (x : PinStep) : Bool := x.message.any fun m => m.command == .secLockInfomation && IpcMessage.isResponse m

/-- A request is completed with an error of the daemon's own, or with what its own answers say: one with the outcome and
one with the count of the tries, both under its aseq. -/
def Derived (x : PinStep) (r : RilRequest) (error : RilErrno) (response : RilResponse) : Prop :=
  match x.message with
  | none => (error = .genericFailure ∨ error = .radioNotAvailable) ∧ response = .null
  | some message => r ∈ x.named ∧
      (message.command = .genPhoneRes ∧ error = .genericFailure ∧ response = .null ∨
        message.command = .secLockInfomation ∧
          ∃ p, x.outcomes.own r.token message.aseq = some p ∧ p.completion message = some (error, response))

/-- After an outcome the next message goes out under the same aseq, or the request is completed. -/
def GoesOn (x : PinStep) (message : IpcMessage) (r : RilRequest) : Prop :=
  (∃ command type data, x.events.head? = some (.sent ⟨message.aseq, command, type, data⟩ true) ∧
    (command = .secLockInfomation ∨ command = .secPhoneLock ∧ r.request = .setFacilityLock)) ∨
  ∃ error response, x.events.head? = some (.completed r.token error response)

/-- Whoever is completed is completed with what is its own, and no answer is lost. -/
structure Right (x : PinStep) : Prop where
  derived : ∀ r ∈ x.requests, r.request ∈ lockInfomationRequests ∨ x.isCount = true → ∀ error response,
    .completed r.token error response ∈ x.events → x.Derived r error response
  outcome : ∀ message, x.message = some message → message.command = .genPhoneRes → ∀ r ∈ x.named,
    r.request ∈ lockInfomationRequests → r.status = .handled → x.GoesOn message r
  count : ∀ message, x.message = some message → x.isCount = true → ∀ r ∈ x.named,
    r.request ∈ lockInfomationRequests → (x.outcomes.own r.token message.aseq).isSome = true →
      ∃ error response, .completed r.token error response ∈ x.events

end PinStep

/-- Every step of the run was right. -/
def PinRun.Right (x : PinRun) : Prop := ∀ p ∈ x.steps, p.Right

/-! ### The condition -/

/-- The requests whose entry is looked at before the one of a request -/
def searchedBefore (request : RilRequestCode) : List RilRequestCode := lockInfomationRequests.takeWhile (· != request)

/-- No entry of the requests is as large as an outcome. -/
def NoneWaits (requests : List RilRequestCode) (s : RilData) : Prop :=
  ∀ request ∈ requests, s.requestDataSizeGet request < ipcGenPhoneResSize

/-- The outcome is the last one for its kind of request and is still there, and none waits that is looked at before. -/
def WaitsFirst (outcomes : Outcomes) (s : RilData) (p : ParkedOutcome) (request : RilRequestCode) : Prop :=
  outcomes.kept request = some p ∧ s.requestDataSizeGet request = ipcGenPhoneResSize ∧
    NoneWaits (searchedBefore request) s

/-- A count of the tries that is taken up finds the outcome of its own request first, or none. -/
def CountFinds (outcomes : Outcomes) (message : IpcMessage) (s : RilData) (r : RilRequest) : Prop :=
  takesCount message s = true →
    (∃ p ∈ outcomes.own r.token message.aseq, WaitsFirst outcomes s p r.request) ∨ NoneWaits lockInfomationRequests s

/-- The count is taken up when an outcome of its own request waits for it. -/
def CountOrdered (outcomes : Outcomes) (message : IpcMessage) (s : RilData) (r : RilRequest) : Prop :=
  CountFinds outcomes message s r ∧ ∀ p ∈ outcomes.own r.token message.aseq,
    takesCount message s = true ∧ WaitsFirst outcomes s p r.request

/-- An answer under the aseq of a request that sends a PIN is one of the two that the request waits for, the outcome
being expected, and no entry before the one of the request has the aseq. Other messages under it complete nothing. -/
def AnswerOrdered (message : IpcMessage) (s : RilData) (r : RilRequest) : Prop :=
  ((messageFootprint message s).replies = false ∧ (message.command = .genPhoneRes → r.status ≠ .handled)) ∨
    s.ipcFmtRequestToken message.aseq = r.token ∧ (message.command = .secLockInfomation ∨ SecAnswer message s)

def PinOrdered (x : PinRun) : Action → Prop
  | .message _ message =>
    (∀ r ∈ x.daemon.data.requests, r.request ∈ lockInfomationRequests → HasAseq message x.daemon.data r →
      AnswerOrdered message x.daemon.data r) ∧
    (message.command = .secLockInfomation → IpcMessage.isResponse message = true →
      ∀ r ∈ namedRequest message x.daemon.data, CountOrdered x.outcomes message x.daemon.data r)
  | _ => True

section

variable (outcomes : Outcomes) (message : IpcMessage) (s : RilData) (r : RilRequest) (request : RilRequestCode)

instance : Decidable (SecAnswer message s) :=
  decidable_of_iff (message.command = .genPhoneRes ∧ ∃ data ∈ IpcGenPhoneResData.read message.data,
      ∃ expect ∈ s.expectFindAseq message.aseq, data.command = expect.command.code ∧ expect.callback = some .ipcSec)
    (by simp [SecAnswer])

instance (requests : List RilRequestCode) : Decidable (NoneWaits requests s) :=
  inferInstanceAs (Decidable (∀ request ∈ requests, _))

instance (p : ParkedOutcome) : Decidable (WaitsFirst outcomes s p request) := inferInstanceAs (Decidable (_ ∧ _ ∧ _))

instance : Decidable (CountFinds outcomes message s r) := inferInstanceAs (Decidable (_ → _ ∨ _))

instance : Decidable (CountOrdered outcomes message s r) := inferInstanceAs (Decidable (_ ∧ _))

instance : Decidable (AnswerOrdered message s r) := inferInstanceAs (Decidable (_ ∨ _))

instance (x : PinRun) (a : Action) : Decidable (PinOrdered x a) :=
  match a with
  | .message _ _ => inferInstanceAs (Decidable (_ ∧ _))
  | .request _ _ _ | .requestSignal | .cancel _ | .loopWake | .loopStart | .loopDispatch _ | .loopEnd | .clientError
  | .clientReopen _ _ | .clientStop | .srs _ _ => isTrue trivial

end

/-! ### The search for an outcome -/

section

variable {s : RilData} {request : RilRequestCode}

/-- `find?` gives the element before whose first occurrence nothing is found. -/
lemma find_of_take_while {α : Type} [DecidableEq α] {a : α} {p : α → Bool} (hp : p a = true) {l : List α} (hm : a ∈ l)
    (h : ∀ b ∈ l.takeWhile (· != a), p b = false) : l.find? p = some a := by
  induction l with
  | nil => exact absurd hm List.not_mem_nil
  | cons b l ih =>
    by_cases hb : b = a
    · rw [hb, List.find?_cons_of_pos hp]
    · have hne : (b != a) = true := bne_iff_ne.mpr hb
      simp only [List.takeWhile_cons, hne, if_true] at h
      rw [List.find?_cons_of_neg (by simp [h b List.mem_cons_self])]
      exact ih ((List.mem_cons.mp hm).resolve_left (Ne.symm hb)) fun c hc => h c (List.mem_cons_of_mem _ hc)

lemma lock_infomation_first (hq : request ∈ lockInfomationRequests)
    (hsize : s.requestDataSizeGet request = ipcGenPhoneResSize) (h : NoneWaits (searchedBefore request) s) :
    lockInfomationRequest s = some request :=
  find_of_take_while (by simp [hsize]) hq fun b hb => by simpa using h b hb

lemma lock_infomation_none (h : NoneWaits lockInfomationRequests s) : lockInfomationRequest s = none :=
  List.find?_eq_none.mpr fun request hq => by simpa using h request hq

end

/-! ### What waits in the request data -/

/-- An entry of the size of an outcome is the last outcome that was parked for the request. -/
def Kept (outcomes : Outcomes) (s : RilData) : Prop :=
  ∀ request ∈ lockInfomationRequests, ∀ value ∈ s.entriesOf request, value.size = ipcGenPhoneResSize →
    ∃ p, outcomes.kept request = some p ∧ value = .bytes (p.answer.data.take ipcGenPhoneResSize)

section

variable {s t u : RilData} {message : IpcMessage} {r : RilRequest} {env : Env} {outcomes : Outcomes}
  {request : RilRequestCode} {p : ParkedOutcome} {outcome : IpcGenPhoneResData}

lemma Kept.parksNone (h : Kept outcomes s) (hp : ParksNone s t) : Kept outcomes t := by
  intro request hq value hv hsize
  rcases hp request value hv with hv | hnot
  · exact h request hq value hv hsize
  · exact absurd hsize (hnot hq)

lemma NewEntries.parksNone (h : NoNewEntries s t) : ParksNone s t := h.mono fun _ _ => False.elim

lemma asks_tries_sent {aseq : UInt8} {events : List Event} (h : asksTries aseq events = true) :
    ∃ m, .sent m true ∈ events ∧ m.command = .secLockInfomation := by
  cases events with
  | nil => cases h
  | cons e events =>
    rw [asksTries, List.head?_cons] at h
    split at h
    · rename_i m he
      rw [Option.some.inj he]
      rw [Bool.and_eq_true, beq_iff_eq, beq_iff_eq] at h
      exact ⟨m, List.mem_cons_self, h.2⟩
    · cases h

lemma park_eq (h : message.command = .genPhoneRes → asksTries message.aseq (newEvents s t) = false) :
    outcomes.park message s t = outcomes := by
  rw [Outcomes.park]
  split
  · rfl
  · rw [if_neg]
    rintro ⟨hc, ha⟩
    rw [h hc] at ha
    cases ha

lemma kept_other (h : p.request ≠ request) : Outcomes.kept (p :: outcomes) request = outcomes.kept request :=
  List.find?_cons_of_neg (by simpa using h)

/-- The callback parks the outcome, or none. -/
lemma answered_kept (hg : message.command = .genPhoneRes) (hr : namedRequest message s = some r) (h : Kept outcomes s)
    (hrun : PinAnswered message outcome r (s.started env (.received message)) t) :
    Kept (outcomes.park message s t) t := by
  have hstart : ParksNone s (s.started env (.received message)) := .of_data rfl
  cases hrun with
  | asks data ht hkept hother =>
    have hevents : newEvents s t =
        [.sent ⟨message.aseq, .secLockInfomation, .get, data⟩ true, .received message] := new_events_eq ht
    have hpark : outcomes.park message s t = ⟨message, r.request, r.token⟩ :: outcomes := by
      rw [Outcomes.park, hr]
      dsimp only
      rw [hevents, if_pos ⟨hg, by simp [asksTries]⟩]
    rw [hpark]
    intro request hq value hv hsize
    by_cases heq : request = r.request
    · subst heq
      rw [hkept, List.mem_singleton] at hv
      exact ⟨⟨message, r.request, r.token⟩, List.find?_cons_of_pos (beq_self_eq_true _), hv⟩
    · rw [hother request heq] at hv
      rw [kept_other (Ne.symm heq)]
      exact h request hq value hv hsize
  | sends data ht hp =>
    have hevents : newEvents s t = [.sent ⟨message.aseq, .secPhoneLock, .set, data⟩ true, .received message] :=
      new_events_eq ht
    rw [park_eq fun _ => by rw [hevents]; simp [asksTries]]
    exact h.parksNone (hstart.trans hp.parksNone)
  | fails sent ht hn hp =>
    have hevents : newEvents s t = .completed r.token .genericFailure .null :: (sent ++ [.received message]) := by
      refine new_events_eq (ht.trans ?_)
      simp [RilData.started, Op.exec]
    rw [park_eq fun _ => by rw [hevents]; simp [asksTries]]
    exact h.parksNone (hstart.trans hp.parksNone)

/-- A parked outcome of another request is none that is looked for. -/
lemma Kept.park (h : Kept outcomes t)
    (hother : ∀ r, namedRequest message s = some r → r.request ∉ lockInfomationRequests) :
    Kept (outcomes.park message s t) t := by
  rw [Outcomes.park]
  split
  · exact h
  · rename_i r hr
    split
    · intro request hq value hv hsize
      have hne : r.request ≠ request := fun heq => hother r hr (heq ▸ hq)
      rw [kept_other (p := ⟨message, r.request, r.token⟩) hne]
      exact h request hq value hv hsize
    · exact h

lemma park_congr (h : u.trace = t.trace) : outcomes.park message s u = outcomes.park message s t := by
  rw [Outcomes.park, Outcomes.park, newEvents, newEvents, h]

lemma callback_kept (hs : Synced s) (h : Kept outcomes s) (hanswer : SecAnswer message s) :
    Kept (outcomes.park message s (dispatchMessage env message s).2) (dispatchMessage env message s).2 := by
  have hunregister (u : RilData) : ParksNone u (u.expectUnregister message.aseq) := .of_data rfl
  rw [park_congr (sec_answer_trace hanswer), sec_answer_run hanswer]
  refine Kept.parksNone ?_ (hunregister _)
  by_cases hpin : ∃ r, namedRequest message s = some r ∧ r.request ∈ lockInfomationRequests
  · obtain ⟨r, hr, hq⟩ := hpin
    obtain ⟨hg, outcome, -, hd, -⟩ := id hanswer
    have h0 : r.token ≠ 0 := fun h0 => hs.ne_zero (h0 ▸ List.mem_map_of_mem (RilData.requestFindToken_mem hr))
    have hnamed : namedRequest message (s.started env (.received message)) = some r := hr
    exact answered_kept hg hr h (sec_callback_answered h0 hd hnamed hq)
  · have hother (r : RilRequest) (hr : namedRequest message s = some r) : r.request ∉ lockInfomationRequests :=
      fun hq => hpin ⟨r, hr, hq⟩
    have hnone : NoNewEntries (s.started env (.received message))
      (ipcSecCallback message (s.started env (.received message))).2 := other_callback_no_new hother
    have hstart : ParksNone s (s.started env (.received message)) := .of_data rfl
    exact (h.parksNone (hstart.trans hnone.parksNone)).park hother

lemma elsewhere_kept (h : Kept outcomes s) (hg : message.command = .genPhoneRes) (hanswer : ¬SecAnswer message s) :
    Kept (outcomes.park message s (dispatchMessage env message s).2) (dispatchMessage env message s).2 := by
  have hstarted : ¬SecAnswer message (s.started env (.received message)) := hanswer
  obtain ⟨F, hF, hmessages, hp⟩ := elsewhere_path hstarted hg
  have hlogged : Extends (fun e => ∀ m, e = .sent m true → m.command ≠ .secLockInfomation) s.trace
      (ipcGenPhoneRes message (s.started env (.received message))).2.trace := by
    refine Extends.trans (.one (fun m he => by cases he) _) (path_logged hp fun u op hop e he m heq => ?_)
    subst heq
    rcases logs_sent he with ⟨sender, expect, rfl⟩ | ⟨env, rfl⟩
    · intro hc
      have hnone := hmessages _ hop.2
      simp [hc] at hnone
    · exact hop.elim
  have hstart : ParksNone s (s.started env (.received message)) := .of_data rfl
  rw [gen_phone_res_run hg, park_eq fun _ => ?_]
  · exact h.parksNone (hstart.trans (message_new_entries hF (fun _ hn _ hq => absurd (pin_branches hq) hn) hp))
  · by_contra hasks
    obtain ⟨m, hm, hl⟩ := asks_tries_sent (by simpa using hasks)
    exact new_events_meet hlogged hm m rfl hl

/-- A step keeps what waits in step with the outcomes. -/
lemma message_kept (hs : Synced s) (h : Kept outcomes s) (env : Env) (message : IpcMessage) :
    Kept (outcomes.park message s (dispatchMessage env message s).2) (dispatchMessage env message s).2 := by
  by_cases hg : message.command = .genPhoneRes
  · by_cases hanswer : SecAnswer message s
    · exact callback_kept hs h hanswer
    · exact elsewhere_kept h hg hanswer
  · have hstart : ParksNone s (s.started env (.received message)) := .of_data rfl
    rw [park_eq fun hc => absurd hc hg]
    refine h.parksNone (hstart.trans ?_)
    by_cases hl : message.command = .secLockInfomation
    · rw [lock_infomation_run hl]
      exact (lock_infomation_no_new message _).parksNone
    · exact message_new_entries (message_footprint_parkless hg hl) (fun _ hn _ hq => absurd (pin_branches hq) hn)
        (message_path env message s)

end

/-! ### The steps with a message -/

section

variable {s t : RilData} {message : IpcMessage} {r : RilRequest} {env : Env} {outcomes : Outcomes}
  {request : RilRequestCode} {p : ParkedOutcome} {error : RilErrno} {response : RilResponse}

lemma find_token_eq (hs : Synced s) (hr : r ∈ s.requests) : s.requestFindToken r.token = some r := by
  obtain ⟨r', hr'⟩ := find_token_of_mem (List.mem_map_of_mem hr : r.token ∈ s.tokens)
  rw [hr', List.inj_on_of_nodup_map hs.nodup (RilData.requestFindToken_mem hr') hr (RilData.requestFindToken_token hr')]

lemma named_of_token (hs : Synced s) (hr : r ∈ s.requests) (h : s.ipcFmtRequestToken message.aseq = r.token) :
    namedRequest message s = some r := by
  rw [namedRequest, h]
  exact find_token_eq hs hr

lemma has_aseq_of_token (hs : Synced s) (hr : r ∈ s.requests) (h : s.ipcFmtRequestToken message.aseq = r.token) :
    HasAseq message s r := by
  rw [RilData.ipcFmtRequestToken] at h
  cases hfind : s.fmtRequestFindSeq message.aseq with
  | none =>
    rw [hfind] at h
    have h0 : 0 = r.token := h
    have hm : r.token ∈ s.tokens := List.mem_map_of_mem hr
    exact absurd (h0 ▸ hm) hs.ne_zero
  | some f =>
    rw [hfind] at h
    obtain ⟨hf, hseq⟩ := find_seq_mem hfind
    exact ⟨f, hf, h, hseq⟩

lemma mem_named : r ∈ namedRequests message s ↔ r ∈ s.requests ∧ HasAseq message s r := by
  rw [namedRequests, List.mem_filter, decide_eq_true_eq]

/-- The entry of the size of an outcome is the one that was parked. -/
lemma Kept.find (h : Kept outcomes s) (hq : request ∈ lockInfomationRequests)
    (hsize : s.requestDataSizeGet request = ipcGenPhoneResSize) (hp : outcomes.kept request = some p) :
    s.requestDataFind request = some (.bytes (p.answer.data.take ipcGenPhoneResSize)) ∧
      ∃ outcome, IpcGenPhoneResData.read (p.answer.data.take ipcGenPhoneResSize) = some outcome ∧
        IpcGenPhoneResData.read p.answer.data = some outcome := by
  rw [RilData.requestDataSizeGet] at hsize
  cases hfind : s.requestDataFind request with
  | none =>
    rw [hfind] at hsize
    cases hsize
  | some value =>
    rw [hfind] at hsize
    have hm : value ∈ s.entriesOf request := List.mem_of_mem_head? (RilData.requestDataFind_eq s ▸ hfind)
    obtain ⟨p', hp', rfl⟩ := h request hq value hm hsize
    obtain rfl := Option.some.inj (hp.symm.trans hp')
    have hlength : 5 ≤ p.answer.data.length := by
      have hlen : (p.answer.data.take ipcGenPhoneResSize).length = ipcGenPhoneResSize := hsize
      rw [List.length_take, ipcGenPhoneResSize] at hlen
      omega
    refine ⟨rfl, ⟨byteAt p.answer.data 0, byteAt p.answer.data 1, byteAt p.answer.data 2, shortAt p.answer.data 3⟩,
      ?_, ?_⟩
    · rw [IpcGenPhoneResData.read, if_neg (by rw [List.length_take, ipcGenPhoneResSize]; omega)]
      simp [byteAt, shortAt, ipcGenPhoneResSize]
    · rw [IpcGenPhoneResData.read, if_neg (by rw [ipcGenPhoneResSize]; omega)]

/-- What the handler of the count logs -/
lemma lock_infomation_logs (hl : message.command = .secLockInfomation)
    (ht : t.trace = (dispatchMessage env message s).2.trace) {token : RilToken}
    (he : .completed token error response ∈ newEvents s t) :
    takesCount message s = true ∧ token = s.ipcFmtRequestToken message.aseq ∧
      ∃ request stored outcome count, lockInfomationRequest s = some request ∧
        s.requestDataFind request = some (.bytes stored) ∧ IpcGenPhoneResData.read stored = some outcome ∧
        IpcSecLockInfomationResponseData.read message.data = some count ∧
        error = (ipcSecResult outcome count.retryCount.toNat).1 ∧
        response = .int (ipcSecResult outcome count.retryCount.toNat).2 := by
  rw [lock_infomation_run hl] at ht
  have hsilent (h : t.trace = [.received message] ++ s.trace) : False := by
    rw [new_events_eq h, List.mem_singleton] at he
    cases he
  rcases lock_infomation_cases message (s.started env (.received message)) with
    ⟨-, h⟩ | ⟨request, htakes, hrequest, ⟨stored, outcome, count, hfind, hread, hcount, h⟩ | ⟨-, h⟩⟩
  · rw [h] at ht
    exact (hsilent ht).elim
  · rw [h, RilData.requestComplete] at ht
    split at ht
    · exact (hsilent ht).elim
    · have htrace : t.trace = [.completed (s.ipcFmtRequestToken message.aseq)
          (ipcSecResult outcome count.retryCount.toNat).1 (.int (ipcSecResult outcome count.retryCount.toNat).2),
          .received message] ++ s.trace := by
        rw [ht]
        exact congrArg (Event.completed (s.ipcFmtRequestToken message.aseq) _ _ :: ·) (unregister_trace _ _)
      rw [new_events_eq htrace, List.mem_cons, List.mem_singleton] at he
      rcases he with he | he
      · obtain ⟨rfl, rfl, rfl⟩ := Event.completed.inj he
        exact ⟨htakes, rfl, request, stored, outcome, count, hrequest, hfind, hread, hcount, rfl, rfl⟩
      · cases he
  · rw [h] at ht
    exact (hsilent ht).elim

lemma takes_count_response (h : takesCount message s = true) : IpcMessage.isResponse message = true := by
  rw [takesCount, Bool.and_eq_true, Bool.and_eq_true] at h
  exact h.1.2

/-- A count of the tries completes the request with what its own answers say. -/
lemma count_derived (hs : Synced s) (hk : Kept outcomes s) (ht : t.trace = (dispatchMessage env message s).2.trace)
    (hl : message.command = .secLockInfomation) (hr : r ∈ s.requests)
    (hfinds : IpcMessage.isResponse message = true → namedRequest message s = some r → CountFinds outcomes message s r)
    (he : .completed r.token error response ∈ newEvents s t) :
    namedRequest message s = some r ∧ HasAseq message s r ∧
      ∃ p, outcomes.own r.token message.aseq = some p ∧ p.completion message = some (error, response) := by
  obtain ⟨htakes, htoken, request, stored, outcome, count, hrequest, hfind, hread, hdata, rfl, rfl⟩ :=
    lock_infomation_logs hl ht he
  have hnamed := named_of_token hs hr htoken.symm
  refine ⟨hnamed, has_aseq_of_token hs hr htoken.symm, ?_⟩
  rcases hfinds (takes_count_response htakes) hnamed htakes with ⟨p, hown, hkept, hsize, hbefore⟩ | hnone
  · have hq : r.request ∈ lockInfomationRequests := by
      by_contra hq
      have hall : searchedBefore r.request = lockInfomationRequests :=
        List.takeWhile_eq_self_iff.mpr fun request hm => bne_iff_ne.mpr fun he => hq (he ▸ hm)
      rw [lock_infomation_none (hall ▸ hbefore)] at hrequest
      cases hrequest
    obtain rfl := Option.some.inj (hrequest.symm.trans (lock_infomation_first hq hsize hbefore))
    obtain ⟨hfind', outcome', hread', hanswer⟩ := hk.find hq hsize hkept
    obtain rfl : stored = _ := by simpa using hfind.symm.trans hfind'
    obtain rfl := Option.some.inj (hread.symm.trans hread')
    exact ⟨p, hown, by rw [ParkedOutcome.completion, hanswer, hdata]; rfl⟩
  · rw [lock_infomation_none hnone] at hrequest
    cases hrequest

lemma count_answered (hs : Synced s) (hk : Kept outcomes s) (ht : t.trace = (dispatchMessage env message s).2.trace)
    (hl : message.command = .secLockInfomation) (hr : r ∈ s.requests) (hq : r.request ∈ lockInfomationRequests)
    (htoken : s.ipcFmtRequestToken message.aseq = r.token)
    (hwaits : ∃ p, takesCount message s = true ∧ WaitsFirst outcomes s p r.request) :
    ∃ error response, .completed r.token error response ∈ newEvents s t := by
  obtain ⟨p, htakes, hkept, hsize, hbefore⟩ := hwaits
  have hfirst := lock_infomation_first hq hsize hbefore
  obtain ⟨hfind, outcome, hread, -⟩ := hk.find hq hsize hkept
  have h0 : r.token ≠ 0 := fun h0 => hs.ne_zero (h0 ▸ List.mem_map_of_mem hr)
  rw [lock_infomation_run hl] at ht
  rcases lock_infomation_cases message (s.started env (.received message)) with
    ⟨h | h, -⟩ | ⟨request, -, hrequest, ⟨_, outcome', count, -, -, -, h⟩ | ⟨hnone, -⟩⟩
  · exact absurd (htakes.symm.trans h) (by decide)
  · exact absurd (hfirst.symm.trans h) (by simp)
  · refine ⟨(ipcSecResult outcome' count.retryCount.toNat).1, .int (ipcSecResult outcome' count.retryCount.toNat).2, ?_⟩
    have htrace : t.trace = [.completed r.token (ipcSecResult outcome' count.retryCount.toNat).1
        (.int (ipcSecResult outcome' count.retryCount.toNat).2), .received message] ++ s.trace := by
      have hstart : (s.started env (.received message)).ipcFmtRequestToken message.aseq = r.token := htoken
      rw [ht, h, hstart, RilData.requestComplete, if_neg h0]
      exact congrArg (Event.completed r.token _ _ :: ·) (unregister_trace _ _)
    rw [new_events_eq htrace]
    exact List.mem_cons_self
  · obtain rfl := Option.some.inj (hrequest.symm.trans hfirst)
    have hread' := hnone _ hfind
    rw [hread] at hread'
    cases hread'

/-- The record of a step that receives a message -/
def messageRecord (outcomes : Outcomes) (message : IpcMessage) (s t : RilData) : PinStep :=
  ⟨some message, s.requests, namedRequests message s, outcomes, newEvents s t⟩

lemma outcome_answered (outcomes : Outcomes) (hs : Synced s)
    (ht : t.trace = (dispatchMessage env message s).2.trace) (hanswer : SecAnswer message s) (hr : r ∈ s.requests)
    (hq : r.request ∈ lockInfomationRequests) (htoken : s.ipcFmtRequestToken message.aseq = r.token) :
    (messageRecord outcomes message s t).GoesOn message r ∧
      ∀ error response, .completed r.token error response ∈ newEvents s t →
        error = .genericFailure ∧ response = .null := by
  obtain ⟨-, outcome, -, hd, -⟩ := id hanswer
  have h0 : r.token ≠ 0 := fun h0 => hs.ne_zero (h0 ▸ List.mem_map_of_mem hr)
  have hnamed := named_of_token hs hr htoken
  have hrun : PinAnswered message outcome r (s.started env (.received message))
    (ipcSecCallback message (s.started env (.received message))).2 := sec_callback_answered h0 hd hnamed hq
  rw [sec_answer_trace hanswer] at ht
  cases hrun with
  | asks data htrace =>
    have hevents : newEvents s t = [.sent ⟨message.aseq, .secLockInfomation, .get, data⟩ true, .received message] :=
      new_events_eq (ht.trans htrace)
    refine ⟨.inl ⟨.secLockInfomation, .get, data, congrArg List.head? hevents, .inl rfl⟩, ?_⟩
    rw [hevents]
    simp
  | sends data htrace _ hlock =>
    have hevents : newEvents s t = [.sent ⟨message.aseq, .secPhoneLock, .set, data⟩ true, .received message] :=
      new_events_eq (ht.trans htrace)
    refine ⟨.inl ⟨.secPhoneLock, .set, data, congrArg List.head? hevents, .inr ⟨rfl, hlock⟩⟩, ?_⟩
    rw [hevents]
    simp
  | fails sent htrace hn =>
    have hevents : newEvents s t = .completed r.token .genericFailure .null :: (sent ++ [.received message]) := by
      refine new_events_eq ((ht.trans htrace).trans ?_)
      simp [RilData.started, Op.exec]
    refine ⟨.inr ⟨.genericFailure, .null, congrArg List.head? hevents⟩, fun error response he => ?_⟩
    rw [hevents, List.mem_cons, List.mem_append, List.mem_singleton] at he
    rcases he with he | he | he
    · obtain ⟨-, rfl, rfl⟩ := Event.completed.inj he
      exact ⟨rfl, rfl⟩
    · obtain ⟨m, hm⟩ := hn _ he
      cases hm
    · cases he

/-- Another message than a count completes a request that sends a PIN only as its generic answer, and with a failure. -/
lemma other_message_derived (hs : Synced s) (hT : TokensIn (ForConnections s.trace) s)
    (ht : t.trace = (dispatchMessage env message s).2.trace) (hl : message.command ≠ .secLockInfomation)
    (hr : r ∈ s.requests) (hq : r.request ∈ lockInfomationRequests)
    (hordered : HasAseq message s r → AnswerOrdered message s r)
    (he : .completed r.token error response ∈ newEvents s t) :
    HasAseq message s r ∧ SecAnswer message s ∧ error = .genericFailure ∧ response = .null := by
  have honly : Extends (fun e => ∀ token error response, e = .completed token error response →
      Answers (messageFootprint message s) message s token) s.trace t.trace := by
    rw [ht]
    exact Extends.trans (.one (fun _ _ _ h => by cases h) _) (message_completions (message_path env message s))
  obtain ⟨hrep, hf⟩ := pin_answers hs hT hr hq (new_events_meet honly he _ _ _ rfl)
  rcases hordered hf with ⟨hrep', -⟩ | ⟨htoken, hl' | hanswer⟩
  · rw [hrep] at hrep'
    cases hrep'
  · exact absurd hl' hl
  · exact ⟨hf, hanswer, (outcome_answered [] hs ht hanswer hr hq htoken).2 error response he⟩

lemma message_right (hs : Synced s) (hT : TokensIn (ForConnections s.trace) s) (hk : Kept outcomes s)
    (hpin : ∀ r ∈ s.requests, r.request ∈ lockInfomationRequests → HasAseq message s r → AnswerOrdered message s r)
    (hcount : message.command = .secLockInfomation → IpcMessage.isResponse message = true →
      ∀ r ∈ namedRequest message s, CountOrdered outcomes message s r)
    (ht : t.trace = (dispatchMessage env message s).2.trace) : (messageRecord outcomes message s t).Right where
  derived := by
    intro r hr hconcerns error response he
    by_cases hl : message.command = .secLockInfomation
    · obtain ⟨-, hf, hown⟩ := count_derived hs hk ht hl hr (fun hresp hnamed => (hcount hl hresp r hnamed).1) he
      exact ⟨mem_named.mpr ⟨hr, hf⟩, .inr ⟨hl, hown⟩⟩
    · have hq : r.request ∈ lockInfomationRequests := by
        rcases hconcerns with hq | hq
        · exact hq
        · simp [messageRecord, PinStep.isCount, hl] at hq
      obtain ⟨hf, hanswer, hfailed⟩ := other_message_derived hs hT ht hl hr hq (hpin r hr hq) he
      exact ⟨mem_named.mpr ⟨hr, hf⟩, .inl ⟨hanswer.1, hfailed⟩⟩
  outcome := by
    rintro _ ⟨rfl⟩ hg r hr hq hh
    obtain ⟨hr, hf⟩ := mem_named.mp hr
    rcases hpin r hr hq hf with ⟨-, hstatus⟩ | ⟨htoken, hl | hanswer⟩
    · exact absurd hh (hstatus hg)
    · rw [hg] at hl
      cases hl
    · exact (outcome_answered outcomes hs ht hanswer hr hq htoken).1
  count := by
    rintro _ ⟨rfl⟩ hc r hr hq hown
    obtain ⟨hr, hf⟩ := mem_named.mp hr
    obtain ⟨hl, hresponse⟩ : message.command = .secLockInfomation ∧ IpcMessage.isResponse message = true := by
      simpa [messageRecord, PinStep.isCount] using hc
    have htoken : s.ipcFmtRequestToken message.aseq = r.token := by
      rcases hpin r hr hq hf with ⟨hrep, -⟩ | ⟨htoken, -⟩
      · rw [messageFootprint, hl] at hrep
        exact absurd (hresponse.symm.trans hrep) (by decide)
      · exact htoken
    obtain ⟨p, hp⟩ := Option.isSome_iff_exists.mp hown
    have hwaits := (hcount hl hresponse r (named_of_token hs hr htoken)).2 p hp
    exact count_answered hs hk ht hl hr hq htoken ⟨p, hwaits⟩

end

/-! ### Runs -/

lemma pin_step {x x' : PinRun} {a : Action} (h : pinStep x a = some x') :
    ∃ d', step x.daemon a = some d' ∧ x' = x.after a d' := by
  obtain ⟨d', hd, rfl⟩ := Option.map_eq_some_iff.mp h
  exact ⟨d', hd, rfl⟩

lemma message_step_data {d d' : Daemon} {env : Env} {message : IpcMessage}
    (h : step d (.message env message) = some d') :
    d'.data.trace = (dispatchMessage env message d.data).2.trace ∧
      d'.data.requestsData = (dispatchMessage env message d.data).2.requestsData := by
  obtain ⟨-, -, ⟨data, hm, rfl⟩ | ⟨data, hm, rfl⟩⟩ := step_message.mp h
  · rw [hm]
    exact ⟨rfl, rfl⟩
  · rw [hm]
    exact ⟨rfl, rfl⟩

/-- A step that meets the condition keeps the outcomes where they are looked for, and is right. -/
lemma pin_step_right {x x' : PinRun} {a : Action} (hr : Reachable x.daemon) (hk : Kept x.outcomes x.daemon.data)
    (hx : x.Right) (ha : PinOrdered x a) (h : pinStep x a = some x') : Kept x'.outcomes x'.daemon.data ∧ x'.Right := by
  obtain ⟨d', hstep, rfl⟩ := pin_step h
  have hs := reachable_synced hr
  have hright (p : PinStep) (hp : p.Right) : ∀ q ∈ p :: x.steps, q.Right :=
    List.forall_mem_cons.mpr ⟨hp, hx⟩
  by_cases hm : ∃ env message, a = .message env message
  · obtain ⟨env, message, rfl⟩ := hm
    obtain ⟨htrace, hdata⟩ := message_step_data hstep
    refine ⟨?_, hright _ (message_right hs (reachable_tokens hr) hk ha.1 ha.2 htrace)⟩
    have hkept := (message_kept hs hk env message).parksNone (.of_data hdata)
    rw [← park_congr htrace] at hkept
    exact hkept
  · have hnone : a.ipcMessage = none := by
      cases a with
      | message env message => exact absurd ⟨env, message, rfl⟩ hm
      | _ => rfl
    obtain ⟨hparks, hfails⟩ := step_plain hs hstep hnone
    refine ⟨?_, hright _ ⟨fun r hr hc error response he => ?_, fun message hmessage => ?_, fun message hmessage => ?_⟩⟩
    · rw [PinRun.after, hnone]
      exact hk.parksNone hparks
    · rw [PinStep.Derived, hnone]
      rw [PinStep.isCount, hnone] at hc
      exact hfails r hr (hc.resolve_right Bool.false_ne_true) error response he
    · exact absurd (hnone.symm.trans hmessage) (by simp)
    · exact absurd (hnone.symm.trans hmessage) (by simp)

/-- In a run in which every answer under the aseq of a request that sends a PIN finds its request first, and every count
of the tries the outcome of its request, every request is completed with what its own answers say and no answer is
lost. -/
theorem pin_answers_right {x : PinRun} (h : Reaches pinStep (fun x a => fresh x.daemon a ∧ PinOrdered x a) {} x) :
    x.Right := by
  suffices hall : Reachable x.daemon ∧ Kept x.outcomes x.daemon.data ∧ x.Right from hall.2.2
  induction h with
  | refl => exact ⟨.refl, fun _ _ _ hv => absurd hv List.not_mem_nil, fun _ hp => absurd hp List.not_mem_nil⟩
  | tail _ ha hstep ih =>
    obtain ⟨hr, hk, hx⟩ := ih
    obtain ⟨d', hd, heq⟩ := pin_step hstep
    refine ⟨?_, pin_step_right hr hk hx ha.2 hstep⟩
    rw [heq]
    exact hr.tail ha.1 hd

def pinRunOf (as : List Action) : PinRun := (run pinStep {} as).getD {}

/-- Two requests that send a PIN wait for their answers, under the seqs 1 and 2. -/
def twoPinsRun : List Action :=
  simReadyRun ++ dispatchRun {} .enterSimPin (.strings [some (ascii ['1']), some []]) 1 ++
    dispatchRun {} .changeSimPin (.strings [some (ascii ['1']), some (ascii ['2']), some []]) 2

/-- The PIN was wrong. -/
def pinWrong : IpcMessage := ⟨0x01, .genPhoneRes, .resp, [0x05, 0x01, 0x02, 0x10, 0x00]⟩

/-- The PIN was changed. -/
def pinChanged : IpcMessage := ⟨0x02, .genPhoneRes, .resp, [0x05, 0x03, 0x02, 0x00, 0x80]⟩

def triesLeft (aseq : UInt8) : IpcMessage := ⟨aseq, .secLockInfomation, .resp, [0x01, 0x03, 0x05, 0x03]⟩

/-- Each count of the tries comes before the outcome of the other request. -/
def pinsInTurnRun : List Action := twoPinsRun ++ [
  .message {} pinWrong, .message {} (triesLeft 0x01), .message {} pinChanged, .message {} (triesLeft 0x02)]

/-- Both outcomes come before the counts of the tries. -/
def pinsCrossedRun : List Action := twoPinsRun ++ [
  .message {} pinWrong, .message {} pinChanged, .message {} (triesLeft 0x02)]

lemma reaches_pin_run (ok : PinRun → Action → Bool) {P : PinRun → Action → Prop} {as : List Action}
    (hr : (run pinStep {} as).isSome = true) (hm : runMeets pinStep ok {} as = true)
    (hok : ∀ x a, ok x a = true → P x a) : Reaches pinStep P {} (pinRunOf as) := by
  obtain ⟨x, hx⟩ := Option.isSome_iff_exists.mp hr
  rw [pinRunOf, hx, Option.getD_some]
  exact .of_run as hx hm hok

/-- Each request is completed with its own outcome. -/
theorem pin_answers_right_in_turn : (pinRunOf pinsInTurnRun).Right := by
  refine pin_answers_right (reaches_pin_run (fun x a => freshCheck x.daemon a && decide (PinOrdered x a))
    (by decide) (by decide) fun x a h => ?_)
  rw [Bool.and_eq_true, decide_eq_true_eq] at h
  exact ⟨fresh_of_check h.1, h.2⟩

/-- The request to change the PIN, which the modem has accepted, is completed with the wrong password of the other
request, and that request is left without an outcome. -/
theorem pin_answers_crossed : Reaches pinStep (fun x a => fresh x.daemon a) {} (pinRunOf pinsCrossedRun) ∧
    (pinRunOf pinsCrossedRun).daemon.data.trace.head? = some (.completed 2 .passwordIncorrect (.int 3)) ∧
    ¬(pinRunOf pinsCrossedRun).Right := by
  refine ⟨reaches_pin_run (fun x a => freshCheck x.daemon a) (by decide) (by decide) fun _ _ h => fresh_of_check h,
    by decide, fun h => ?_⟩
  have hlast : ∃ p ∈ (pinRunOf pinsCrossedRun).steps, p.message = some (triesLeft 0x02) ∧
      (∃ r ∈ p.requests, r.request ∈ lockInfomationRequests ∧ r.token = 2) ∧
      .completed 2 .passwordIncorrect (.int 3) ∈ p.events ∧
      (p.outcomes.own 2 0x02).bind (·.completion (triesLeft 0x02)) = some (.success, .int 3) := by decide
  obtain ⟨p, hp, hm, ⟨r, hr, hq, htoken⟩, he, hown⟩ := hlast
  have hd := (h p hp).derived r hr (.inl hq) .passwordIncorrect (.int 3) (htoken ▸ he)
  rw [PinStep.Derived, hm] at hd
  obtain ⟨-, ⟨hc, -⟩ | ⟨-, o, ho, hcompletion⟩⟩ := hd
  · cases hc
  · rw [htoken] at ho
    have ho' : p.outcomes.own 2 0x02 = some o := ho
    rw [ho', Option.bind_some, hcompletion] at hown
    cases hown

end Ril.Samsung
