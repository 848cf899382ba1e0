import Ril.Samsung.Spec.Connections
import Ril.Samsung.Proofs.CachedAnswers
import Ril.Samsung.Proofs.Expectations
import Ril.Samsung.Proofs.StaleRecords

/-! What the steps of the daemon do for the requests that send a PIN. -/

namespace Ril.Samsung

open Ril.Ipc Ril.Lib

/-- The request of the first entry with the aseq of a message -/
def namedRequest (message : IpcMessage) (s : RilData) : Option RilRequest :=
  s.requestFindToken (s.ipcFmtRequestToken message.aseq)

/-- The request has the aseq of a message. -/
def HasAseq (message : IpcMessage) (s : RilData) (r : RilRequest) : Prop :=
  ∃ f ∈ s.fmtRequests, f.token = r.token ∧ f.seq = message.aseq

instance (message : IpcMessage) (s : RilData) (r : RilRequest) : Decidable (HasAseq message s r) :=
  inferInstanceAs (Decidable (∃ f ∈ s.fmtRequests, _))

/-- What a step has done, the last event first -/
def newEvents (s t : RilData) : List Event := t.trace.take (t.trace.length - s.trace.length)

def Action.ipcMessage : Action → Option IpcMessage
  | message _ m => some m
  | _ => none

/-- The handler takes the count of the tries up. -/
def takesCount (message : IpcMessage) (s : RilData) : Bool :=
  s.radioStateCheck .simNotReady && IpcMessage.isResponse message &&
    (IpcSecLockInfomationResponseData.read message.data).any fun data =>
      data.type == ipcSecPinTypePin1 || data.type == ipcSecPinTypePin2

/-! ### The request data that is new -/

/-- Every entry that was not there before meets the condition. -/
def NewEntries (P : RilRequestCode → RilRequestDataValue → Prop) (s t : RilData) : Prop :=
  ∀ request, ∀ value ∈ t.entriesOf request, value ∈ s.entriesOf request ∨ P request value

/-- What the operation sets meets the condition. -/
def Op.sets (P : RilRequestCode → RilRequestDataValue → Prop) : Op → Prop
  | .dataSet request value => P request value
  | _ => True

section

variable {P : RilRequestCode → RilRequestDataValue → Prop} {s t u : RilData}

namespace NewEntries

lemma refl (s : RilData) : NewEntries P s s := fun _ _ hv => .inl hv

lemma trans (h : NewEntries P s t) (h' : NewEntries P t u) : NewEntries P s u := by
  intro request value hv
  rcases h' request value hv with hv | hv
  · exact h request value hv
  · exact .inr hv

lemma of_data (h : t.requestsData = s.requestsData) : NewEntries P s t := by
  intro request value hv
  rw [RilData.entriesOf_of_data _ h] at hv
  exact .inl hv

lemma op {op : Op} (h : op.sets P) (s : RilData) : NewEntries P s (op.exec s) := by
  intro request value hv
  by_cases hset : ∃ v, op = .dataSet request v
  · obtain ⟨v, rfl⟩ := hset
    by_cases hzero : v.size = 0
    · rw [Op.exec, RilData.requestDataSet, if_pos hzero] at hv
      exact .inl hv
    · rw [Op.exec, RilData.entriesOf_dataSet s hzero] at hv
      rcases List.mem_append.mp hv with hv | hv
      · exact .inl hv
      · rw [List.mem_singleton.mp hv]
        exact .inr h
  · exact .inl (op_entries_subset (fun v hv => hset ⟨v, hv⟩) s hv)

lemma path {A : RilData → Op → Prop} (hp : Path Op.exec A s t) (h : ∀ s op, A s op → op.sets P) :
    NewEntries P s t := by
  induction hp with
  | refl => exact refl s
  | tail _ hd ih =>
    obtain ⟨op, hop, rfl⟩ := hd
    exact ih.trans (.op (h _ op hop) _)

lemma mono {Q : RilRequestCode → RilRequestDataValue → Prop} (h : NewEntries P s t)
    (hPQ : ∀ request value, P request value → Q request value) : NewEntries Q s t :=
  fun request value hv => (h request value hv).imp_right (hPQ request value)

lemma dataDrop (request : RilRequestCode) (s : RilData) : NewEntries P s (s.requestDataDrop request) :=
  .op (show (Op.dataDrop request).sets P from trivial) s

end NewEntries

end

/-- No entry is new. -/
abbrev NoNewEntries : RilData → RilData → Prop := NewEntries fun _ _ => False

/-- The entry is no outcome for a request that waits for the count of the tries. -/
def NoOutcome (request : RilRequestCode) (value : RilRequestDataValue) : Prop :=
  request ∈ lockInfomationRequests → value.size ≠ ipcGenPhoneResSize

/-- No outcome is parked. -/
abbrev ParksNone : RilData → RilData → Prop := NewEntries NoOutcome

/-! ### The handlers of the requests -/

/-- What the operation completes, it completes with an error of the daemon's own. -/
def Op.failsOnly (op : Op) : Prop := ∀ token error response, op.logs (.completed token error response) →
  (error = .genericFailure ∨ error = .radioNotAvailable) ∧ response = .null

section

variable {request : RilRequestCode}

/-- A program that parks no outcome and completes only with errors of the daemon's own -/
abbrev Plain {α : Type} (m : RilM α) : Prop := Performs Op.exec (fun _ op => op.sets NoOutcome ∧ op.failsOnly) m

namespace Plain

lemma failRequest (token : RilToken) : Plain (failRequest token) := by
  refine .bind (.modify (Op.complete token .genericFailure .null) fun _ => ⟨trivial, ?_⟩) fun _ => .pure _
  rintro _ _ _ h
  cases h
  exact ⟨.inl rfl, rfl⟩

lemma dataFree (request : RilRequestCode) : Plain (rilRequestDataFree request) :=
  .modify (Op.dataFree request) fun _ => ⟨trivial, fun _ _ _ => False.elim⟩

lemma dataSetUniq {value : RilRequestDataValue}
    (h : NoOutcome request value) : Plain (rilRequestDataSetUniq request value) :=
  .bind (dataFree request) fun _ => .modify (Op.dataSet request value) fun _ => ⟨h, fun _ _ _ => False.elim⟩

lemma transmit (sender : Sender) (expect : Option ExpectKind) (command : IpcCommand) (type : IpcRequestType)
    (data : Bytes) : Plain (transmit sender expect command type data) := by
  refine fun _ => Path.single (Op.transmit sender expect command type data) ⟨trivial, ?_⟩
  rintro _ _ _ (⟨_, _, h⟩ | ⟨_, _, h⟩)
  · cases h
  · cases h

lemma sendRequest (token : RilToken) (expect : Option ExpectKind) (command : IpcCommand) (type : IpcRequestType)
    (data : Bytes) : Plain (sendRequest token expect command type data) :=
  .bind (transmit _ _ _ _ _) fun _ => .ite (fun _ => .pure _) fun _ => failRequest token

lemma pinCache (pin : CString) :
    Plain (modify fun s : RilData => { s with simPin := some pin }.log (.pinCached pin)) :=
  .modify (Op.pinCache pin) fun _ => ⟨trivial, fun _ _ _ h => by cases h⟩

lemma whenRadioState {radioState : RilRadioState} {m : RilM RilRequestStatus} (h : Plain m) :
    Plain (whenRadioState radioState m) := .read fun _ => .ite (fun _ => h) fun _ => .pure _

lemma whenNoneHandled {requests : List RilRequestCode} {m : RilM RilRequestStatus} (h : Plain m) :
    Plain (whenNoneHandled requests m) := .read fun _ => .ite (fun _ => .pure _) fun _ => h

end Plain

/-- The message that is kept for after the PIN2 unlock is longer than an outcome. -/
lemma phone_lock_size (facilityType active : UInt8) (password : Option CString) :
    (RilRequestDataValue.bytes (ipcSecPhoneLockRequestSetSetup facilityType active password)).size ≠
      ipcGenPhoneResSize := by
  simp [RilRequestDataValue.size, ipcSecPhoneLockRequestSetSetup, ipcGenPhoneResSize, passwordField, field]

section

variable (data : RilValue) (token : RilToken)

lemma set_facility_lock_plain : Plain (rilRequestSetFacilityLock data token) := by
  unfold rilRequestSetFacilityLock
  split
  · refine Plain.whenRadioState (Plain.whenNoneHandled ?_)
    refine .ite (fun _ => Plain.failRequest token) fun _ => .ite (fun _ => ?_) fun _ => Plain.sendRequest _ _ _ _ _
    refine .bind (Plain.dataSetUniq fun _ => phone_lock_size _ _ _) fun _ => ?_
    refine .bind (Plain.transmit _ _ _ _ _) fun _ => ?_
    exact .ite (fun _ => .pure _) fun _ => .bind (Plain.dataFree _) fun _ => Plain.failRequest token
  · exact Plain.failRequest token

lemma enter_sim_pin_plain : Plain (rilRequestEnterSimPin data token) := by
  unfold rilRequestEnterSimPin
  split
  · refine Plain.whenRadioState (Plain.whenNoneHandled ?_)
    split
    · exact Plain.failRequest token
    · exact .bind (Plain.pinCache _) fun _ => Plain.sendRequest _ _ _ _ _
  · exact Plain.failRequest token

lemma enter_sim_pin2_plain : Plain (rilRequestEnterSimPin2 data token) := by
  unfold rilRequestEnterSimPin2
  split
  · exact Plain.whenRadioState (Plain.whenNoneHandled (Plain.sendRequest _ _ _ _ _))
  · exact Plain.failRequest token

lemma change_sim_pin_plain : Plain (rilRequestChangeSimPin data token) := by
  unfold rilRequestChangeSimPin
  split
  · exact Plain.whenNoneHandled (Plain.whenRadioState (Plain.sendRequest _ _ _ _ _))
  · exact Plain.failRequest token

lemma change_sim_pin2_plain : Plain (rilRequestChangeSimPin2 data token) := by
  unfold rilRequestChangeSimPin2
  split
  · exact Plain.whenNoneHandled (Plain.whenRadioState (Plain.sendRequest _ _ _ _ _))
  · exact Plain.failRequest token

end

lemma pin_handler_plain (hq : request ∈ lockInfomationRequests) : ∃ handler, rilRequestHandler request = some handler ∧
    ∀ data token, Plain (handler data token) := by
  simp only [lockInfomationRequests, List.mem_cons, List.not_mem_nil, or_false] at hq
  rcases hq with rfl | rfl | rfl | rfl | rfl
  · exact ⟨_, rfl, enter_sim_pin_plain⟩
  · exact ⟨_, rfl, change_sim_pin_plain⟩
  · exact ⟨_, rfl, enter_sim_pin2_plain⟩
  · exact ⟨_, rfl, change_sim_pin2_plain⟩
  · exact ⟨_, rfl, set_facility_lock_plain⟩

end

/-! ### The steps that take no message -/

lemma new_events_eq {s t : RilData} {new : List Event} (h : t.trace = new ++ s.trace) : newEvents s t = new := by
  simp [newEvents, h]

lemma new_events_meet {s t : RilData} {P : Event → Prop} {e : Event} (h : Extends P s.trace t.trace)
    (he : e ∈ newEvents s t) : P e := by
  obtain ⟨new, ht, hnew⟩ := h
  rw [new_events_eq ht] at he
  exact hnew e he

section

variable {d d' : Daemon} {a : Action} {s : RilData} {r : RilRequest}

/-- What a step completes, it completes with an error of the daemon's own. -/
abbrev FailsOnly (s t : RilData) : Prop :=
  Extends (fun e => ∀ token error response, e = .completed token error response →
    (error = .genericFailure ∨ error = .radioNotAvailable) ∧ response = .null) s.trace t.trace

lemma plain_path {A : RilData → Op → Prop} {t : RilData} (hp : Path Op.exec A s t)
    (h : ∀ s op, A s op → op.sets NoOutcome ∧ op.failsOnly) : ParksNone s t ∧ FailsOnly s t := by
  refine ⟨.path hp fun s op hop => (h s op hop).1, path_logged hp fun s op hop e he => ?_⟩
  rintro token error response rfl
  exact (h s op hop).2 token error response he

lemma pin_dispatch_plain (hq : r.request ∈ lockInfomationRequests) (env : Env) (s : RilData) :
    Path Op.exec (fun _ op => op.sets NoOutcome ∧ op.failsOnly) s (dispatchRequest env r s) := by
  obtain ⟨handler, hh, hplain⟩ := pin_handler_plain hq
  have hstart : Path Op.exec (fun _ op => op.sets NoOutcome ∧ op.failsOnly) s (s.started env (.dispatched r.token)) :=
    Path.single (Op.start env (some (.dispatched r.token))) ⟨trivial, fun _ _ _ h => by cases h⟩
  have hrun := hstart.trans (hplain r.data r.token (s.started env (.dispatched r.token)))
  have hstatus (status : RilRequestStatus) : (Op.setStatus r.token status).sets NoOutcome ∧
      (Op.setStatus r.token status).failsOnly := ⟨trivial, fun _ _ _ => False.elim⟩
  rcases request_handler_spec r.data r.token hh (s.started env (.dispatched r.token)) with ⟨hr, -⟩ | ⟨hr, -⟩ | ⟨hr, -⟩
  · rw [dispatch_result hh (Prod.ext hr rfl)]
    exact hrun.tail ⟨_, hstatus .unhandled, rfl⟩
  · rw [dispatch_result hh (Prod.ext hr rfl)]
    exact hrun.tail ⟨_, hstatus .handled, rfl⟩
  · rw [dispatch_result hh (Prod.ext hr rfl)]
    exact hrun

/-- The entries of the requests with a branch in the callback are set for these requests themselves. -/
lemma request_footprint_own {q : RilRequestCode} :
    ∀ request ∈ q.footprint.data, request ∈ secBranches → request = q := by
  have hall : q.footprint.data.all (fun request => !secBranches.contains request || request == q) = true := by
    cases q <;> rfl
  intro request hm hbranch
  have hn := List.all_eq_true.mp hall request hm
  simpa [hbranch] using hn

lemma pin_branches {request : RilRequestCode} (h : request ∈ lockInfomationRequests) : request ∈ secBranches := by
  simp only [lockInfomationRequests, List.mem_cons, List.not_mem_nil, or_false] at h
  rcases h with rfl | rfl | rfl | rfl | rfl <;> decide

/-- A dispatch completes its own request at most. -/
lemma dispatch_op_sets {P : RilRequestCode → RilRequestDataValue → Prop} {env : Env} {op : Op}
    (hP : ∀ request ∈ r.request.footprint.data, ∀ value, P request value) (h : DispatchOp env r s op) :
    op.sets P ∧ ∀ token error response, op.logs (.completed token error response) → token = r.token := by
  rcases h with rfl | ⟨sent, hop⟩ | rfl | rfl | ⟨error, response, rfl, -⟩
  · exact ⟨trivial, fun _ _ _ h => by cases h⟩
  · rcases hop.cases with rfl | ⟨expect, command, type, data, rfl, -⟩ | hquiet
    · exact ⟨trivial, by rintro _ _ _ ⟨_, h⟩; cases h⟩
    · refine ⟨trivial, ?_⟩
      rintro _ _ _ (⟨_, _, h⟩ | ⟨_, _, h⟩)
      · cases h
      · cases h
    · cases op with
      | dataSet request value => exact ⟨hP request hquiet value, fun _ _ _ h => h.elim⟩
      | unsolicited | pinCache => exact ⟨trivial, fun _ _ _ h => by cases h⟩
      | dataFree | dataDrop | simIccType | hsdpaStatus | svcSession | connections =>
        exact ⟨trivial, fun _ _ _ h => h.elim⟩
      | _ => exact hquiet.elim
  · exact ⟨trivial, fun _ _ _ h => h.elim⟩
  · exact ⟨trivial, fun _ _ _ h => h.elim⟩
  · refine ⟨trivial, ?_⟩
    rintro _ _ _ h
    exact (Event.completed.inj h).1

lemma dispatch_new_entries {P : RilRequestCode → RilRequestDataValue → Prop} (env : Env) (hr : r ∈ s.requests)
    (hP : ∀ request ∈ r.request.footprint.data, ∀ value, P request value) : NewEntries P s (dispatchRequest env r s) :=
  .path (dispatch_path env hr) fun _ _ hop => (dispatch_op_sets hP hop).1

lemma dispatch_completes_own (env : Env) (hr : r ∈ s.requests) {token : RilToken} {error : RilErrno}
    {response : RilResponse} (he : .completed token error response ∈ newEvents s (dispatchRequest env r s)) :
    token = r.token := by
  have hlogged := path_logged (P := fun e => ∀ token error response, e = .completed token error response →
    token = r.token) (dispatch_path env hr) fun s op hop e he token error response heq =>
      (dispatch_op_sets (P := fun _ _ => True) (fun _ _ _ => trivial) hop).2 token error response (heq ▸ he)
  exact new_events_meet hlogged he _ _ _ rfl

/-- The completions of a step with which the requests that send a PIN are told an error of the daemon's own -/
def PinFails (s t : RilData) : Prop := ∀ r ∈ s.requests, r.request ∈ lockInfomationRequests → ∀ error response,
  .completed r.token error response ∈ newEvents s t →
    (error = .genericFailure ∨ error = .radioNotAvailable) ∧ response = .null

lemma FailsOnly.pin {t : RilData} (h : FailsOnly s t) : PinFails s t :=
  fun r _ _ error response he => new_events_meet h he r.token error response rfl

lemma dispatch_step_plain (hs : Synced s) (env : Env) (hr : r ∈ s.requests) :
    ParksNone s (dispatchRequest env r s) ∧ PinFails s (dispatchRequest env r s) := by
  by_cases hq : r.request ∈ lockInfomationRequests
  · have hplain := plain_path (pin_dispatch_plain hq env s) fun _ _ h => h
    exact ⟨hplain.1, hplain.2.pin⟩
  · refine ⟨dispatch_new_entries env hr fun request hm _ hpin => ?_, fun r' hr' hq' error response he => ?_⟩
    · rw [request_footprint_own request hm (pin_branches hpin)] at hpin
      exact absurd hpin hq
    · rw [List.inj_on_of_nodup_map hs.nodup hr' hr (dispatch_completes_own env hr he)] at hq'
      exact absurd hq' hq

lemma step_plain_op {P : RilRequestCode → RilRequestDataValue → Prop} {op : Op} (ha : a.ipcMessage = none)
    (hd : ∀ env, a ≠ .loopDispatch env) (h : StepOp d a s op) : op.sets P ∧ op.failsOnly := by
  have hradio (radioState : RilRadioState) : (Op.radio radioState).failsOnly := by
    rintro _ _ _ (⟨_, _, h⟩ | ⟨_, h⟩ | ⟨_, h⟩)
    · cases h
    · cases h
      exact ⟨.inr rfl, rfl⟩
    · cases h
  cases a with
  | request request data token =>
    obtain ⟨-, rfl⟩ := h
    exact ⟨trivial, fun _ _ _ h => by cases h⟩
  | cancel token =>
    obtain rfl := h
    exact ⟨trivial, fun _ _ _ h => by cases h⟩
  | requestSignal | loopWake | loopStart | clientStop =>
    obtain rfl := h
    exact ⟨trivial, fun _ _ _ h => h.elim⟩
  | loopDispatch env => exact absurd rfl (hd env)
  | loopEnd => exact h.elim
  | message env message => cases ha
  | clientError =>
    rcases h with rfl | ⟨failures, rfl⟩
    · exact ⟨trivial, hradio _⟩
    · exact ⟨trivial, fun _ _ _ h => h.elim⟩
  | clientReopen closed opened =>
    rcases h with ⟨rfl, -⟩ | ⟨failures, available, rfl⟩
    · exact ⟨trivial, hradio _⟩
    · exact ⟨trivial, fun _ _ _ h => h.elim⟩
  | srs env message =>
    rcases h with rfl | ⟨command, -, type, data, rfl⟩ | ⟨state, -, rfl⟩
    · exact ⟨trivial, fun _ _ _ h => by cases h⟩
    · refine ⟨trivial, ?_⟩
      rintro _ _ _ (⟨_, _, h⟩ | ⟨_, _, h⟩)
      · cases h
      · cases h
    · exact ⟨trivial, hradio _⟩

/-- A step without a message parks no outcome, and who is completed is told an error of the daemon's own. -/
lemma step_plain (hs : Synced d.data) (hstep : step d a = some d') (ha : a.ipcMessage = none) :
    ParksNone d.data d'.data ∧ PinFails d.data d'.data := by
  by_cases hd : ∃ env, a = .loopDispatch env
  · obtain ⟨env, rfl⟩ := hd
    obtain ⟨-, r, hr, rfl⟩ := step_loop_dispatch.mp hstep
    exact dispatch_step_plain hs env (List.mem_of_find?_eq_some hr)
  · have hplain := plain_path (step_path hstep) fun s op => step_plain_op ha fun env he => hd ⟨env, he⟩
    exact ⟨hplain.1, hplain.2.pin⟩

end

/-! ### What a message completes -/

section

variable {s t : RilData} {F : Footprint} {message : IpcMessage} {r : RilRequest}

/-- No request is completed but those that the handler may complete. -/
abbrev CompletesOnly (F : Footprint) (message : IpcMessage) (s t : RilData) : Prop :=
  Extends (fun e => ∀ token error response, e = .completed token error response → Answers F message s token)
    s.trace t.trace

lemma neutral_only {u : RilData} (h : KeepsRequests u t) : Extends (fun e => ∀ token error response,
    e = .completed token error response → Answers F message s token) u.trace t.trace := by
  obtain ⟨new, ht, hnew⟩ := h.trace
  refine ⟨new, ht, ?_⟩
  rintro e he token error response rfl
  exact absurd (hnew _ he) Bool.false_ne_true

lemma message_completions (hp : MessagePath F message s t) : CompletesOnly F message s t := by
  suffices hall : (∀ r ∈ t.requests, r ∈ s.requests) ∧ (∀ f ∈ t.fmtRequests, f ∈ s.fmtRequests) ∧
      CompletesOnly F message s t from hall.2.2
  induction hp with
  | refl => exact ⟨fun _ h => h, fun _ h => h, .refl _⟩
  | @tail u _ _ ht ih =>
    obtain ⟨op, hop, rfl⟩ := ht
    obtain ⟨hreq, hfmt, htrace⟩ := ih
    rcases hop.cases with ⟨token, error, response, rfl, hc⟩ | rfl | ⟨radioState, rfl, hu, -⟩ | hq
    · have hshrinks := Shrinks.complete u token error response
      refine ⟨fun r hr => hreq r (hshrinks.requests r hr), fun f hf => hfmt f (hshrinks.fmtRequests f hf), ?_⟩
      by_cases h0 : token = 0
      · rwa [Op.exec, RilData.requestComplete, if_pos h0]
      · refine htrace.trans (Logged.requestComplete u token error response ?_)
        rintro _ _ _ he
        obtain ⟨rfl, -⟩ := Event.completed.inj he
        rcases hc with ⟨hrep, hk⟩ | ⟨r, hr, hk, hc⟩
        · refine .inl ⟨hrep, ?_⟩
          rw [RilData.ipcFmtRequestToken] at hk
          cases hfind : u.fmtRequestFindSeq message.aseq with
          | none => exact absurd (by rw [hk, hfind]) h0
          | some f =>
            obtain ⟨hf, hseq⟩ := find_seq_mem hfind
            rw [hfind] at hk
            exact ⟨f, hfmt f hf, hk.symm, hseq⟩
        · exact .inr ⟨r, hreq r hr, hk, hc⟩
    · have hr : (u.expectUnregister message.aseq).fmtRequests = u.fmtRequests :=
        RilData.modifyFmt_fmtRequests u fun _ => rfl
      exact ⟨hreq, fun f hf => hfmt f (hr ▸ hf), htrace⟩
    · obtain ⟨hr, hf⟩ := RilData.radioStateUpdate_lists hu u
      exact ⟨fun r hm => hreq r (hr ▸ hm), fun f hm => hfmt f (RilData.fmtRequests_of_fmt hf ▸ hm),
        htrace.trans (neutral_only (radio_keeps hu u))⟩
    · exact ⟨fun r hm => hreq r (hq.requests u ▸ hm), fun f hm => hfmt f (hq.fmtRequests u ▸ hm),
        htrace.trans (neutral_only (hq.keeps u))⟩

lemma pin_footprints (message : IpcMessage) (s : RilData) (hq : r.request ∈ lockInfomationRequests) :
    r.request ∉ (messageFootprint message s).handled ∧ r.request.footprint.connections = false := by
  have hnot : r.request ∉ [RilRequestCode.getImei, .getImeisv, .oemHookRaw] ∧
      r.request.footprint.connections = false := by
    simp only [lockInfomationRequests, List.mem_cons, List.not_mem_nil, or_false] at hq
    rcases hq with hq | hq | hq | hq | hq <;> simp [hq, RilRequestCode.footprint]
  exact ⟨fun h => hnot.1 (message_footprint_handled message s h), hnot.2⟩

/-- A request that sends a PIN is completed only by a message that has its aseq. -/
lemma pin_answers (hs : Synced s) (hT : TokensIn (ForConnections s.trace) s) (hr : r ∈ s.requests)
    (hq : r.request ∈ lockInfomationRequests) (h : Answers (messageFootprint message s) message s r.token) :
    (messageFootprint message s).replies = true ∧ HasAseq message s r := by
  rcases h with ⟨hrep, hf⟩ | ⟨r', hr', hk, ⟨-, hF⟩ | hF⟩
  · exact ⟨hrep, hf⟩
  · rw [List.inj_on_of_nodup_map hs.nodup hr' hr hk] at hF
    exact absurd hF (pin_footprints message s hq).1
  · exact absurd hF (not_mem_footprint_tokens message hs hT hr (pin_footprints message s hq).2)

/-! ### The count of the tries -/

lemma lock_infomation_cases (message : IpcMessage) (s : RilData) :
    (takesCount message s = false ∨ lockInfomationRequest s = none) ∧ (ipcSecLockInfomation message s).2 = s ∨
    ∃ request, takesCount message s = true ∧ lockInfomationRequest s = some request ∧
      ((∃ stored outcome count, s.requestDataFind request = some (.bytes stored) ∧
          IpcGenPhoneResData.read stored = some outcome ∧
          IpcSecLockInfomationResponseData.read message.data = some count ∧
          (ipcSecLockInfomation message s).2 = (s.requestDataDrop request).requestComplete
            (s.ipcFmtRequestToken message.aseq) (ipcSecResult outcome count.retryCount.toNat).1
            (.int (ipcSecResult outcome count.retryCount.toNat).2)) ∨
        (∀ stored, s.requestDataFind request = some (.bytes stored) → IpcGenPhoneResData.read stored = none) ∧
          (ipcSecLockInfomation message s).2 = s.requestDataDrop request) := by
  cases hd : IpcSecLockInfomationResponseData.read message.data with
  | none =>
    rw [ipcSecLockInfomation, hd]
    exact .inl ⟨.inl (by simp [takesCount, hd]), rfl⟩
  | some count =>
    have htakes : takesCount message s = (s.radioStateCheck .simNotReady && IpcMessage.isResponse message &&
        (count.type == ipcSecPinTypePin1 || count.type == ipcSecPinTypePin2)) := by
      rw [takesCount, hd, Option.any_some]
    rw [ipcSecLockInfomation, hd]
    simp only [get_bind_apply, ← htakes]
    cases ht : takesCount message s with
    | false => exact .inl ⟨.inl rfl, rfl⟩
    | true =>
      simp only [if_true]
      cases hl : lockInfomationRequest s with
      | none => exact .inl ⟨.inr rfl, rfl⟩
      | some request =>
        refine .inr ⟨request, trivial, rfl, ?_⟩
        simp only [bind_apply, rilRequestDataGet]
        cases hfind : s.requestDataFind request with
        | none => exact .inr ⟨fun _ h => (by cases h), rfl⟩
        | some value =>
          cases value with
          | bytes stored =>
            cases hread : IpcGenPhoneResData.read stored with
            | none =>
              refine .inr ⟨fun stored' h => ?_, by simp only [hread]; rfl⟩
              obtain rfl : stored = stored' := by simpa using h
              exact hread
            | some outcome => exact .inl ⟨stored, outcome, count, rfl, hread, rfl, by simp only [hread]; rfl⟩
          | _ => exact .inr ⟨fun _ h => (by cases h), rfl⟩

end

/-! ### The generic answers -/

/-- What the callback does with an answer for a request that sends a PIN -/
inductive PinAnswered (message : IpcMessage) (outcome : IpcGenPhoneResData) (r : RilRequest) (s t : RilData) : Prop
  | asks (data : Bytes) (trace : t.trace = .sent ⟨message.aseq, .secLockInfomation, .get, data⟩ true :: s.trace)
      (kept : t.entriesOf r.request = [.bytes (message.data.take ipcGenPhoneResSize)])
      (other : ∀ request, request ≠ r.request → t.entriesOf request = s.entriesOf request)
      (unsent : r.request = .setFacilityLock → ipcGenPhoneResCheck outcome = true →
        ∀ stored, s.requestDataFind .setFacilityLock ≠ some (.bytes stored))
  | sends (data : Bytes) (trace : t.trace = .sent ⟨message.aseq, .secPhoneLock, .set, data⟩ true :: s.trace)
      (none : NoNewEntries s t) (request : r.request = .setFacilityLock) (accepted : ipcGenPhoneResCheck outcome = true)
      (stored : s.requestDataFind .setFacilityLock = some (.bytes data))
  | fails (sent : List Event) (trace : t.trace = .completed r.token .genericFailure .null :: (sent ++ s.trace))
      (refused : ∀ e ∈ sent, ∃ m, e = .sent m false) (none : NoNewEntries s t)

section

variable {s t u : RilData} {message : IpcMessage} {r : RilRequest} {outcome : IpcGenPhoneResData}

lemma reply_cases (aseq : UInt8) (expect : Option ExpectKind) (command : IpcCommand) (type : IpcRequestType)
    (data : Bytes) (s : RilData) :
    (transmit (.reply aseq) expect command type data s).2.requestsData = s.requestsData ∧
      ((transmit (.reply aseq) expect command type data s).1 = true ∧
          (transmit (.reply aseq) expect command type data s).2.trace =
            .sent ⟨aseq, command, type, data⟩ true :: s.trace ∨
        (transmit (.reply aseq) expect command type data s).1 = false ∧
          ∃ sent, (transmit (.reply aseq) expect command type data s).2.trace = sent ++ s.trace ∧
            ∀ e ∈ sent, ∃ m, e = .sent m false) := by
  have hrun : transmit (.reply aseq) expect command type data s = expectSend expect aseq command type data s := rfl
  rw [hrun, RilData.expectSend_apply]
  split
  · exact ⟨rfl, .inr ⟨rfl, [], rfl, fun _ h => absurd h List.not_mem_nil⟩⟩
  · have hexpected : (s.expected expect aseq command).requestsData = s.requestsData ∧
        (s.expected expect aseq command).trace = s.trace := by
      cases expect <;> exact ⟨rfl, rfl⟩
    refine ⟨hexpected.1, ?_⟩
    simp only [RilData.log, hexpected.2]
    cases s.clientAccepts ⟨aseq, command, type, data⟩ with
    | true => exact .inl ⟨rfl, rfl⟩
    | false =>
      refine .inr ⟨rfl, [.sent ⟨aseq, command, type, data⟩ false], rfl, fun e he => ?_⟩
      exact ⟨_, List.mem_singleton.mp he⟩

lemma complete_failure (h0 : r.token ≠ 0) {sent : List Event} (ht : t.trace = sent ++ s.trace)
    (hn : ∀ e ∈ sent, ∃ m, e = .sent m false) (hp : NoNewEntries s t) :
    PinAnswered message outcome r s (t.requestComplete r.token .genericFailure .null) := by
  refine .fails sent ?_ hn (hp.trans (.of_data (t.requestComplete_requestsData _ _ _)))
  rw [RilData.requestComplete, if_neg h0, ← ht]
  exact congrArg (Event.completed r.token .genericFailure .null :: ·) (unregister_trace t r.token)

/-- The outcome is parked, after an entry was dropped or not, and the count of the tries is asked for. -/
lemma retry_count_answered (h0 : r.token ≠ 0) (hd : IpcGenPhoneResData.read message.data = some outcome) (type : UInt8)
    (ht : t.trace = s.trace) (hother : ∀ request, request ≠ r.request → t.entriesOf request = s.entriesOf request)
    (hunsent : r.request = .setFacilityLock → ipcGenPhoneResCheck outcome = true →
      ∀ stored, s.requestDataFind .setFacilityLock ≠ some (.bytes stored)) :
    PinAnswered message outcome r s (ipcSecCallbackRetryCount message r type t).2 := by
  have hsize : (RilRequestDataValue.bytes (message.data.take ipcGenPhoneResSize)).size ≠ 0 := by
    have hlength : ¬message.data.length < ipcGenPhoneResSize := fun h => by simp [IpcGenPhoneResData.read, h] at hd
    simp only [RilRequestDataValue.size, List.length_take, ipcGenPhoneResSize] at hlength ⊢
    omega
  let u := t.requestDataSetUniq r.request (.bytes (message.data.take ipcGenPhoneResSize))
  have hkept : u.entriesOf r.request = [.bytes (message.data.take ipcGenPhoneResSize)] := by
    simp only [u, RilData.requestDataSetUniq]
    rw [RilData.entriesOf_dataSet _ hsize, RilData.entriesOf_dataFree, List.nil_append]
  have hsame (request : RilRequestCode) (hq : request ≠ r.request) : u.entriesOf request = s.entriesOf request := by
    simp only [u, RilData.requestDataSetUniq]
    rw [RilData.entriesOf_dataSet_of_ne _ hq, RilData.entriesOf_dataFree_of_ne _ hq, hother request hq]
  have htrace : u.trace = s.trace := by
    simp only [u, RilData.requestDataSetUniq, RilData.requestDataSet]
    rw [if_neg hsize]
    exact ht
  obtain ⟨hdata, hsent⟩ := reply_cases message.aseq none .secLockInfomation .get (ipcSecLockInfomationSetup type) u
  rcases hsent with ⟨hok, hreply⟩ | ⟨hok, sent, hreply, hn⟩
  · have hrun : (ipcSecCallbackRetryCount message r type t).2 =
        (transmit (.reply message.aseq) none .secLockInfomation .get (ipcSecLockInfomationSetup type) u).2 := by
      simp only [ipcSecCallbackRetryCount, rilRequestDataSetUniq, bind_apply, modify_apply]
      rw [hok]
      rfl
    rw [hrun]
    refine .asks _ (htrace ▸ hreply) ?_ (fun request hq => ?_) hunsent
    · rw [RilData.entriesOf_of_data _ hdata, hkept]
    · rw [RilData.entriesOf_of_data _ hdata, hsame request hq]
  · have hrun : (ipcSecCallbackRetryCount message r type t).2 =
        ((transmit (.reply message.aseq) none .secLockInfomation .get (ipcSecLockInfomationSetup type)
          u).2.requestDataFree r.request).requestComplete r.token .genericFailure .null := by
      simp only [ipcSecCallbackRetryCount, rilRequestDataSetUniq, bind_apply, modify_apply]
      rw [hok]
      rfl
    rw [hrun]
    refine complete_failure h0 (htrace ▸ hreply) hn fun request value hv => .inl ?_
    by_cases hq : request = r.request
    · rw [hq, RilData.entriesOf_dataFree] at hv
      exact absurd hv List.not_mem_nil
    · rwa [RilData.entriesOf_dataFree_of_ne _ hq, RilData.entriesOf_of_data _ hdata, hsame request hq] at hv

lemma set_facility_lock_answered (h0 : r.token ≠ 0) (hq : r.request = .setFacilityLock)
    (hd : IpcGenPhoneResData.read message.data = some outcome) (s : RilData) :
    PinAnswered message outcome r s (ipcSecCallbackSetFacilityLock message outcome r s).2 := by
  have hretry (type : UInt8) (hunsent : ipcGenPhoneResCheck outcome = true →
      ∀ stored, s.requestDataFind .setFacilityLock ≠ some (.bytes stored)) : PinAnswered message outcome r s
        (ipcSecCallbackRetryCount message r type (s.requestDataDrop .setFacilityLock)).2 := by
    refine retry_count_answered h0 hd type rfl (fun request hne => ?_) fun _ => hunsent
    exact RilData.entriesOf_dataDrop_of_ne _ (hq ▸ hne)
  simp only [ipcSecCallbackSetFacilityLock, bind_apply, rilRequestDataGet]
  generalize (if facilityLockType r.data = ipcSecFacilityTypeFd then ipcSecPinTypePin2 else ipcSecPinTypePin1) = type
  cases hfind : s.requestDataFind .setFacilityLock with
  | none => exact hretry type fun _ _ h => by simp [hfind] at h
  | some value =>
    cases value with
    | bytes stored =>
      cases hcheck : ipcGenPhoneResCheck outcome with
      | false => exact hretry type fun h => by simp [hcheck] at h
      | true =>
        obtain ⟨hdata, hsent⟩ := reply_cases message.aseq (some (.callback .ipcSec)) .secPhoneLock .set stored
          (s.requestDataDrop .setFacilityLock)
        have hnone : NoNewEntries s (transmit (.reply message.aseq) (some (.callback .ipcSec)) .secPhoneLock .set stored
          (s.requestDataDrop .setFacilityLock)).2 := (NewEntries.dataDrop _ s).trans (.of_data hdata)
        simp only [bind_apply]
        rcases hsent with ⟨hok, ht⟩ | ⟨hok, sent, ht, hn⟩
        · rw [hok]
          exact .sends stored ht hnone hq hcheck hfind
        · rw [hok]
          exact complete_failure h0 ht hn hnone
    | _ => exact hretry type fun _ _ h => by simp [hfind] at h

lemma sec_callback_answered (h0 : r.token ≠ 0) (hd : IpcGenPhoneResData.read message.data = some outcome)
    (hr : namedRequest message s = some r) (hq : r.request ∈ lockInfomationRequests) :
    PinAnswered message outcome r s (ipcSecCallback message s).2 := by
  have hretry (hne : r.request ≠ .setFacilityLock) (type : UInt8) :
      PinAnswered message outcome r s (ipcSecCallbackRetryCount message r type s).2 :=
    retry_count_answered h0 hd type rfl (fun _ _ => rfl) fun h => absurd h hne
  rw [namedRequest] at hr
  rw [ipcSecCallback, hd]
  simp only [get_bind_apply, hr]
  simp only [lockInfomationRequests, List.mem_cons, List.not_mem_nil, or_false] at hq
  rcases hq with hq | hq | hq | hq | hq
  · simp only [hq]
    exact hretry (by simp [hq]) _
  · simp only [hq]
    exact hretry (by simp [hq]) _
  · simp only [hq]
    exact hretry (by simp [hq]) _
  · simp only [hq]
    exact hretry (by simp [hq]) _
  · simp only [hq]
    exact set_facility_lock_answered h0 hq hd s

end

/-! ### The messages for other requests -/

/-- Nothing that the handler may set is an entry of a request with a branch in the callback. -/
def Footprint.parkless (F : Footprint) : Prop := ∀ request ∈ F.data, request ∉ secBranches

section

variable {s t : RilData} {F : Footprint} {message : IpcMessage} {env : Env}
  {P : RilRequestCode → RilRequestDataValue → Prop}

lemma message_new_entries (hF : F.parkless) (hP : ∀ request ∉ secBranches, ∀ value, P request value)
    (h : MessagePath F message s t) : NewEntries P s t := by
  refine .path h fun _ op hop => ?_
  cases op with
  | dataSet request value => exact hP request (hF request hop) value
  | _ => trivial

lemma parkless_of_all (h : F.data.all (fun request => !secBranches.contains request) = true) : F.parkless := by
  intro request hm hq
  have hn := List.all_eq_true.mp h request hm
  simp [hq] at hn

lemma message_footprint_parkless (hg : message.command ≠ .genPhoneRes) (hl : message.command ≠ .secLockInfomation) :
    (messageFootprint message s).parkless := by
  refine parkless_of_all ?_
  obtain ⟨aseq, command, type, data⟩ := message
  cases command with
  | genPhoneRes => exact absurd rfl hg
  | secLockInfomation => exact absurd rfl hl
  | _ => rfl

lemma gen_phone_res_run (hc : message.command = .genPhoneRes) : (dispatchMessage env message s).2 =
    (ipcGenPhoneRes message (s.started env (.received message))).2 := by
  rw [dispatchMessage, ipcFmtDispatch, hc]
  rfl

lemma lock_infomation_run (hc : message.command = .secLockInfomation) : (dispatchMessage env message s).2 =
    (ipcSecLockInfomation message (s.started env (.received message))).2 := by
  rw [dispatchMessage, ipcFmtDispatch, hc]
  rfl

lemma lock_infomation_no_new (message : IpcMessage) (s : RilData) :
    NoNewEntries s (ipcSecLockInfomation message s).2 := by
  rcases lock_infomation_cases message s with ⟨-, h⟩ | ⟨request, -, -, ⟨_, _, _, -, -, -, h⟩ | ⟨-, h⟩⟩
  · rw [h]
    exact .refl s
  · rw [h]
    exact (NewEntries.dataDrop request s).trans (.of_data (RilData.requestComplete_requestsData _ _ _ _))
  · rw [h]
    exact .dataDrop request s

lemma other_callback_no_new (h : ∀ r, namedRequest message s = some r → r.request ∉ lockInfomationRequests) :
    NoNewEntries s (ipcSecCallback message s).2 := by
  have hcomplete (token : RilToken) (error : RilErrno) (response : RilResponse) :
      Performs Op.exec (fun _ op => op.sets fun _ _ => False) (rilRequestComplete token error response) :=
    .modify (Op.complete token error response) fun _ => trivial
  have hsim (data : IpcGenPhoneResData) (r : RilRequest) :
      Performs Op.exec (fun _ op => op.sets fun _ _ => False) (ipcSecCallbackSimIo message data r) := by
    refine .bind (fun _ => Path.single (Op.dataDrop .simIo) trivial) fun _ =>
      .ite (fun _ => hcomplete _ _ _) fun _ => ?_
    split
    · exact .bind (fun _ => Path.single (Op.transmit _ _ _ _ _) trivial) fun _ =>
        .ite (fun _ => hcomplete _ _ _) fun _ => .pure _
    · exact hcomplete _ _ _
  have hother (data : IpcGenPhoneResData) (r : RilRequest) :
      Performs Op.exec (fun _ op => op.sets fun _ _ => False) (ipcSecCallbackOther message data r) := by
    refine .bind (fun s => Path.single (Op.complete (s.ipcFmtRequestToken message.aseq) _ _) trivial) fun _ => ?_
    refine .read fun s => .ite (fun _ => .modify (Op.stale r.token) fun _ => trivial) fun _ => ?_
    exact .ite (fun _ => .modify (Op.unsolicited .simStatusChanged .null) fun _ => trivial) fun _ => .pure _
  cases hd : IpcGenPhoneResData.read message.data with
  | none =>
    rw [ipcSecCallback, hd]
    exact .refl s
  | some data =>
    cases hf : s.requestFindToken (s.ipcFmtRequestToken message.aseq) with
    | none =>
      rw [ipcSecCallback, hd]
      simp only [get_bind_apply, hf]
      exact .refl s
    | some r =>
      have hq := h r hf
      by_cases hsimio : r.request = .simIo
      · rw [ipcSecCallback, hd]
        simp only [get_bind_apply, hf, hsimio]
        exact .path (hsim data r s) fun _ _ h => h
      · have hbranch : r.request ∉ secBranches := by
          simp only [secBranches, lockInfomationRequests, List.mem_cons, List.not_mem_nil, or_false, not_or] at hq ⊢
          exact ⟨hq.1, hq.2.1, hq.2.2.1, hq.2.2.2.1, hq.2.2.2.2, hsimio⟩
        rw [sec_callback_other hd hf hbranch]
        exact .path (hother data r s) fun _ _ h => h

/-- A generic answer that the callback does not take sets no entry of a request with a branch there, and sends no
message of these requests. -/
lemma elsewhere_path (h : ¬SecAnswer message s) (hc : message.command = .genPhoneRes) :
    ∃ F : Footprint, F.parkless ∧
      (∀ x ∈ F.messages, x.2.1 ∉ [IpcCommand.secLockInfomation, .secPhoneLock, .secRsimAccess]) ∧
      MessagePath F message s (ipcGenPhoneRes message s).2 := by
  have hempty : ({} : Footprint).parkless ∧ ∀ x ∈ ({} : Footprint).messages,
      x.2.1 ∉ [IpcCommand.secLockInfomation, .secPhoneLock, .secRsimAccess] := by
    simp [Footprint.parkless]
  cases hd : IpcGenPhoneResData.read message.data with
  | none =>
    rw [ipcGenPhoneRes, hd]
    exact ⟨{}, hempty.1, hempty.2, .refl⟩
  | some data =>
    cases hf : s.expectFindAseq message.aseq with
    | none =>
      rw [ipcGenPhoneRes, hd]
      simp only [get_bind_apply, hf]
      exact ⟨{}, hempty.1, hempty.2, .refl⟩
    | some e =>
      have hrun : (ipcGenPhoneRes message s).2 =
          (genPhoneResExpected message data e s).2.expectUnregister message.aseq := by
        simp only [ipcGenPhoneRes, hd, bind_apply, get_apply, hf]
        rfl
      have hunregister {F : Footprint} (u : RilData) : MessagePath F message u (u.expectUnregister message.aseq) :=
        Path.single (Op.expectUnregister message.aseq) ⟨rfl, hc⟩
      rw [hrun]
      by_cases hcode : data.command = e.command.code
      · have hspec (F : Footprint) (hF : ∀ callback, e.callback = some callback → F = callback.footprint)
            (hn : e.callback = none → F.replies = true) :
            MessagePath F message s ((genPhoneResExpected message data e s).2.expectUnregister message.aseq) :=
          (gen_phone_res_expected_spec message data hF hn s).trans (hunregister _)
        cases hcallback : e.callback with
        | none =>
          exact ⟨{ replies := true }, by simp [Footprint.parkless], by simp,
            hspec _ (fun _ h => by rw [hcallback] at h; cases h) fun _ => rfl⟩
        | some callback =>
          refine ⟨callback.footprint, ?_, ?_, hspec _ (fun c hc => ?_) fun hn => ?_⟩
          · refine parkless_of_all ?_
            cases callback with
            | ipcSec => exact absurd ⟨hc, data, e, hd, hf, hcode, hcallback⟩ h
            | _ => rfl
          · cases callback with
            | ipcSec => exact absurd ⟨hc, data, e, hd, hf, hcode, hcallback⟩ h
            | _ => simp [GenPhoneResCallback.footprint]
          · rw [hcallback] at hc
            rw [Option.some.inj hc]
          · rw [hcallback] at hn
            cases hn
      · refine ⟨{}, hempty.1, hempty.2, ?_⟩
        have hfailed : (genPhoneResExpected message data e s).2 = s := by
          rw [genPhoneResExpected, if_pos hcode]
          rfl
        rw [hfailed]
        exact hunregister s

end

end Ril.Samsung
