import Ril.Lib.Extends
import Ril.Samsung.Spec.Registry

/-! The events that the operations add to the trace, and runs that are given by their actions. -/

namespace Ril.Samsung

open Ril.Ipc Ril.Lib Relation

/-- What an operation may log. -/
def Op.logs : Op → Event → Prop
  | unsolicited request response, e => e = .unsolicited request response
  | complete token error response, e => e = .completed token error response
  | requestSeq token, e => ∃ seq, e = .seqTaken (some token) seq
  | transmit _ _ command type data, e =>
    (∃ owner seq, e = .seqTaken owner seq) ∨ ∃ mseq ok, e = .sent ⟨mseq, command, type, data⟩ ok
  | pinCache pin, e => e = .pinCached pin
  | radio _, e => (∃ request response, e = .unsolicited request response) ∨
      (∃ token, e = .completed token .radioNotAvailable .null) ∨ ∃ token, e = .staleRequest token
  | stale token, e => e = .staleRequest token
  | start _ event, e => event = some e
  | arrive request data token, e => e = .arrived token request data
  | cancel token, e => e = .cancelled token
  | _, _ => False

/-- The trace has grown by what an operation may log. -/
abbrev Logged (P : Event → Prop) (s t : RilData) : Prop := Extends P s.trace t.trace

namespace Logged

variable {P : Event → Prop} {s t : RilData}

lemma log {e : Event} (h : Logged P s t) (he : P e) : Logged P s (t.log e) := Extends.cons he h

lemma ipcFmtSeq (s : RilData) (owner : Option RilToken) (h : ∀ seq, P (.seqTaken owner seq)) :
    Logged P s (s.ipcFmtSeq owner).2 := by
  rw [RilData.ipcFmtSeq]
  split
  · exact .refl _
  · exact .one (h _) _

lemma ipcFmtRequestSeq (s : RilData) (token : RilToken) (h : ∀ seq, P (.seqTaken (some token) seq)) :
    Logged P s (s.ipcFmtRequestSeq token).2 := by
  rw [RilData.ipcFmtRequestSeq]
  split
  · exact .refl _
  · split
    · exact Logged.ipcFmtSeq s _ h
    · exact .refl _

lemma expectSend (s : RilData) (expect : Option ExpectKind) (mseq : UInt8) (command : IpcCommand)
    (type : IpcRequestType) (data : Bytes)
    (h : P (.sent ⟨mseq, command, type, data⟩ (s.clientAccepts ⟨mseq, command, type, data⟩))) :
    Logged P s (expectSend expect mseq command type data s).2 := by
  rw [RilData.expectSend_apply]
  split
  · exact .refl _
  · cases expect with
    | none => exact .one h _
    | some kind => exact .one h _

lemma requestComplete (s : RilData) (token : RilToken) (error : RilErrno) (response : RilResponse)
    (h : P (.completed token error response)) : Logged P s (s.requestComplete token error response) := by
  rw [RilData.requestComplete]
  split
  · exact .refl _
  · exact .cons h (.of_eq (unregister_trace s token))

lemma radioRounds (rs : List RilRequest) (s : RilData)
    (hc : ∀ token, P (.completed token .radioNotAvailable .null)) (hs : ∀ token, P (.staleRequest token)) :
    Logged P s (rs.foldl RilData.radioUnavailableRound s) := by
  induction rs generalizing s with
  | nil => exact .refl _
  | cons r rs ih =>
    refine Extends.trans ?_ (ih (s.radioUnavailableRound r))
    have h1 := Logged.requestComplete s r.token .radioNotAvailable .null (hc _)
    rw [RilData.radioUnavailableRound]
    split
    · exact h1.trans (.of_eq (unregister_trace _ _))
    · exact h1.log (hs _)

lemma radioOff (s : RilData) (hu : ∀ request response, P (.unsolicited request response)) : Logged P s s.radioOff := by
  have h := RilData.eq_of_withoutConnections (flush_from_withoutConnections s.dataConnections s)
  have hf : Logged P s s.dataConnectionFlush := by
    rw [RilData.dataConnectionFlush, h]
    exact .of_eq rfl
  exact (((hf.log (hu _ _)).log (hu _ _)).log (hu _ _)).log (hu _ _)

lemma radioStateUpdate (s : RilData) (radioState : RilRadioState) :
    Logged (Op.radio radioState).logs s (s.radioStateUpdate radioState) := by
  have hu (request : RilUnsol) (response : RilResponse) :
      (Op.radio radioState).logs (.unsolicited request response) := .inl ⟨request, response, rfl⟩
  have hstate : Logged (Op.radio radioState).logs s
      (({ s with radioState := radioState }).requestUnsolicited .radioStateChanged .null) := .one (hu _ _) _
  rw [RilData.radioStateUpdate]
  split
  · exact .refl _
  · split
    · have hr := Logged.radioRounds s.requests
        (({ s with radioState := .unavailable }).requestUnsolicited .radioStateChanged .null)
        (P := (Op.radio .unavailable).logs) (fun token => .inr (.inl ⟨token, rfl⟩)) fun token => .inr (.inr ⟨token, rfl⟩)
      exact (hstate.trans hr).trans (Logged.radioOff _ hu)
    · exact hstate.trans (Logged.radioOff _ hu)
    · exact hstate

end Logged

lemma op_logged (op : Op) (s : RilData) : Logged op.logs s (op.exec s) := by
  cases op with
  | unsolicited request response => exact .one (by rfl) _
  | complete token error response => exact Logged.requestComplete s token error response rfl
  | requestSeq token => exact Logged.ipcFmtRequestSeq s token fun seq => ⟨seq, rfl⟩
  | transmit sender expect command type data =>
    cases sender with
    | request token =>
      exact (Logged.ipcFmtRequestSeq s token fun seq => .inl ⟨_, seq, rfl⟩).trans
        (Logged.expectSend _ expect _ command type data (.inr ⟨_, _, rfl⟩))
    | reply aseq => exact Logged.expectSend s expect aseq command type data (.inr ⟨_, _, rfl⟩)
    | own =>
      exact (Logged.ipcFmtSeq s none fun seq => .inl ⟨_, seq, rfl⟩).trans
        (Logged.expectSend _ expect _ command type data (.inr ⟨_, _, rfl⟩))
  | dataSet request value =>
    simp only [Op.exec, RilData.requestDataSet]
    split
    · exact .refl _
    · exact .refl _
  | pinCache pin => exact .one (by rfl) _
  | radio radioState => exact Logged.radioStateUpdate s radioState
  | stale token => exact .one (by rfl) _
  | start env event =>
    cases event with
    | none => exact .refl _
    | some e => exact .one (by rfl) _
  | arrive request data token => exact .cons rfl (.of_eq (unregister_trace s token))
  | cancel token =>
    simp only [Op.exec, rilOnCancel]
    split
    · exact .refl _
    · exact .cons rfl (.of_eq (unregister_trace s token))
  | _ => exact .refl _

lemma path_logged {A : RilData → Op → Prop} {P : Event → Prop} {s t : RilData} (hp : Path Op.exec A s t)
    (h : ∀ s op, A s op → ∀ e, op.logs e → P e) : Logged P s t := by
  induction hp with
  | refl => exact .refl _
  | tail _ hd ih =>
    obtain ⟨op, hop, rfl⟩ := hd
    exact ih.trans ((op_logged op _).mono (h _ op hop))

/-- What the step of an action may log. -/
def StepLogs (d : Daemon) (a : Action) (e : Event) : Prop := ∃ s op, StepOp d a s op ∧ op.logs e

lemma step_logged {d d' : Daemon} {a : Action} (h : step d a = some d') :
    Extends (StepLogs d a) d.data.trace d'.data.trace :=
  path_logged (step_path h) fun s op hop _ he => ⟨s, op, hop, he⟩

/-- Only `ril_on_request` registers, and under its token. -/
lemma arrived_logs {d : Daemon} {a : Action} {token : RilToken} {request : RilRequestCode} {data : RilValue}
    (h : StepLogs d a (.arrived token request data)) : a = .request request data token := by
  obtain ⟨s, op, hop, hl⟩ := h
  cases op with
  | arrive request' data' token' =>
    obtain ⟨rfl, rfl, rfl⟩ := Event.arrived.inj hl
    cases a <;> simp_all [StepOp, DispatchOp, MessageOp, RequestOp, SilentOp, QuietOp]
  | start env event =>
    obtain rfl : event = _ := hl
    cases a <;> simp_all [StepOp, DispatchOp, MessageOp, RequestOp, SilentOp, QuietOp]
  | _ => simp [Op.logs] at hl

lemma logs_sent {op : Op} {m : IpcRequest} {ok : Bool} (h : op.logs (.sent m ok)) :
    (∃ sender expect, op = .transmit sender expect m.command m.type m.data) ∨
      ∃ env, op = .start env (some (.sent m ok)) := by
  cases op with
  | transmit sender expect command type data =>
    rcases h with ⟨owner, seq, h⟩ | ⟨mseq, ok, h⟩
    · cases h
    · cases h
      exact .inl ⟨sender, expect, rfl⟩
  | start env event =>
    obtain rfl : event = _ := h
    exact .inr ⟨env, rfl⟩
  | _ => simp [Op.logs] at h

/-! ### Runs that are given by their actions -/

def Event.arrivedAs (token : RilToken) : Event → Bool
  | arrived t _ _ => t == token
  | _ => false

/-- `fresh`, decided. -/
def freshCheck (d : Daemon) : Action → Bool
  | .request _ _ token => token != 0 && d.data.trace.all fun e => !e.arrivedAs token
  | _ => true

lemma fresh_of_check {d : Daemon} {a : Action} (h : freshCheck d a = true) : fresh d a := by
  cases a with
  | request request data token =>
    simp only [freshCheck, Bool.and_eq_true, bne_iff_ne, List.all_eq_true, Bool.not_eq_true'] at h
    refine ⟨h.1, fun q v hm => ?_⟩
    have he := h.2 _ hm
    simp [Event.arrivedAs] at he
  | _ => trivial

/-- The state at the end of a run. -/
def runFrom (d : Daemon) (as : List Action) : Daemon := (run step d as).getD d

/-- Whether all actions of a run are possible and meet a condition. -/
def runs (ok : Daemon → Action → Bool) (d : Daemon) (as : List Action) : Bool :=
  (run step d as).isSome && runMeets step ok d as

lemma reaches_runFrom {ok : Daemon → Action → Bool} {P : Daemon → Action → Prop} {d : Daemon}
    {as : List Action} (h : runs ok d as = true) (hok : ∀ d a, ok d a = true → P d a) :
    Reaches step P d (runFrom d as) := by
  rw [runs, Bool.and_eq_true] at h
  obtain ⟨s, hs⟩ := Option.isSome_iff_exists.mp h.1
  have hr : run step d as = some (runFrom d as) := by
    rw [runFrom, hs, Option.getD_some]
  exact .of_run as hr h.2 hok

lemma reachable_runFrom {as : List Action} (h : runs freshCheck {} as = true) :
    Reachable (runFrom {} as) := reaches_runFrom h fun _ _ => fresh_of_check

/-! ### Pieces of runs -/

/-- A request arrives and is dispatched. -/
def dispatchRun (env : Env) (request : RilRequestCode) (data : RilValue) (token : RilToken) : List Action := [
  .request request data token, .requestSignal, .loopWake, .loopStart, .loopDispatch env, .loopEnd]

/-- The radio is powered on. -/
def radioOnRun : List Action :=
  .message {} ⟨0x00, .pwrPhonePwrUp, .noti, []⟩ :: dispatchRun {} .radioPower (.ints [1]) 1 ++
    [.message {} ⟨0x01, .pwrPhoneState, .resp, [ipcPwrPhoneStateResponseNormal]⟩]

/-- The SIM is ready. -/
def simReadyRun : List Action := [
  .message {} ⟨0x01, .pwrPhoneState, .resp, [ipcPwrPhoneStateResponseNormal]⟩,
  .message {} ⟨0x00, .secPinStatus, .noti, [0x82, 0x00]⟩]

def setupDataCallRun (token : RilToken) : List Action :=
  dispatchRun {} .setupDataCall (.strings [none, none, some (ascii ['i']), none, none, none, none]) token

def callStatus (status : UInt8) : IpcMessage := ⟨0x00, .gprsCallStatus, .noti, [0x01, status, 0x00, 0x00]⟩

/-- The first connection is configured and enabled. -/
def enabledRun : List Action := [
  .message {} ⟨0x00, .gprsIpConfiguration, .noti, 0x01 :: List.replicate 26 0x00⟩,
  .message {} (callStatus ipcGprsStatusEnabled)]

/-! ### Runs with different tokens -/

def Action.token : Action → Option RilToken
  | request _ _ token => some token
  | _ => none

lemma reaches_of_tokens {as : List Action} {d d' : Daemon} (hr : run step d as = some d')
    (hn : (as.filterMap Action.token).Nodup) (h0 : 0 ∉ as.filterMap Action.token)
    (hnew : ∀ token ∈ as.filterMap Action.token, ∀ request data, Event.arrived token request data ∉ d.data.trace) :
    Reaches step fresh d d' := by
  induction as generalizing d with
  | nil =>
    obtain rfl : d = d' := Option.some.inj hr
    exact .refl
  | cons a as ih =>
    obtain ⟨d₁, h₁, hr⟩ := Option.bind_eq_some_iff.mp hr
    have hf : fresh d a := by
      cases a with
      | request request data token =>
        exact ⟨fun h => h0 (h ▸ List.mem_cons_self), hnew token List.mem_cons_self⟩
      | _ => trivial
    have hsub : (as.filterMap Action.token).Sublist ((a :: as).filterMap Action.token) :=
      (List.sublist_cons_self a as).filterMap Action.token
    refine (Reaches.tail .refl hf h₁).trans (ih hr (hn.sublist hsub) (fun h => h0 (hsub.subset h)) ?_)
    intro token ht request data hm
    rcases (step_logged h₁).mem hm with hl | hm
    · obtain rfl := arrived_logs hl
      exact (List.nodup_cons.mp hn).1 ht
    · exact hnew token (hsub.subset ht) request data hm

lemma reachable_of_tokens {as : List Action} (hr : (run step {} as).isSome = true)
    (hn : (as.filterMap Action.token).Nodup) (h0 : 0 ∉ as.filterMap Action.token) : Reachable (runFrom {} as) := by
  obtain ⟨s, hs⟩ := Option.isSome_iff_exists.mp hr
  have he : runFrom {} as = s := by rw [runFrom, hs, Option.getD_some]
  rw [he]
  exact reaches_of_tokens hs hn h0 fun _ _ _ _ h => absurd h List.not_mem_nil

end Ril.Samsung
