import Ril.Lib.StateProgram
import Ril.Samsung.Spec.Fields

/-! The operations that the steps of the daemon are made of. -/

namespace Ril.Samsung

open Ril.Ipc Ril.Lib

inductive Op
  | unsolicited (request : RilUnsol) (response : RilResponse)
  | complete (token : RilToken) (error : RilErrno) (response : RilResponse)
  | requestSeq (token : RilToken)
  | transmit (sender : Sender) (expect : Option ExpectKind) (command : IpcCommand)
      (type : IpcRequestType) (data : Bytes)
  | expectUnregister (aseq : UInt8)
  | dataSet (request : RilRequestCode) (value : RilRequestDataValue)
  | dataFree (request : RilRequestCode)
  | dataDrop (request : RilRequestCode)
  | pinCache (pin : CString)
  | simIccType (type : UInt8)
  | hsdpaStatus (status : UInt8)
  | svcSession (session : Bool)
  | radio (radioState : RilRadioState)
  | connections (dataConnections : List RilDataConnection) (heap : Heap)
  | stale (token : RilToken)
  | start (env : Env) (event : Option Event)
  | setStatus (token : RilToken) (status : RilRequestStatus)
  | retry
  | arrive (request : RilRequestCode) (data : RilValue) (token : RilToken)
  | cancel (token : RilToken)
  | signal (pending : Bool)
  | client (failures : ℕ) (available : Bool)
  | clientDestroy

def Op.exec : Op → RilData → RilData
  | unsolicited request response, s => s.requestUnsolicited request response
  | complete token error response, s => s.requestComplete token error response
  | requestSeq token, s => (s.ipcFmtRequestSeq token).2
  | transmit sender expect command type data, s => (Samsung.transmit sender expect command type data s).2
  | expectUnregister aseq, s => s.expectUnregister aseq
  | dataSet request value, s => s.requestDataSet request value
  | dataFree request, s => s.requestDataFree request
  | dataDrop request, s => s.requestDataDrop request
  | pinCache pin, s => { s with simPin := some pin }.log (.pinCached pin)
  | simIccType type, s => s.modifyFmt fun d => { d with simIccType := type }
  | hsdpaStatus status, s => s.modifyFmt fun d => { d with hsdpaStatus := status }
  | svcSession session, s => s.modifyFmt fun d => { d with svcSession := session }
  | radio radioState, s => s.radioStateUpdate radioState
  | connections dataConnections heap, s => { s with dataConnections := dataConnections, heap := heap }
  | stale token, s => s.log (.staleRequest token)
  | start env event, s => { s with env := env, trace := event.toList ++ s.trace }
  | setStatus token status, s => s.requestSetStatus token status
  | retry, s => s.retryUnhandled
  | arrive request data token, s => rilOnRequest request data token s
  | cancel token, s => rilOnCancel token s
  | signal pending, s => { s with loopSignal := pending }
  | client failures available, s => { s with fmt := { s.fmt with failures := failures, available := available } }
  | clientDestroy, s => Samsung.clientDestroy s

/-- What a handler may send, the request data and other parts of the state it touches, whether it
switches the radio off, and the requests it may complete: the one of the aseq, those of a code that
are being handled, and those of a token. -/
structure Footprint where
  messages : List (Option ExpectKind × IpcCommand × IpcRequestType) := []
  data : List RilRequestCode := []
  pin : Bool := false
  connections : Bool := false
  off : Bool := false
  replies : Bool := false
  handled : List RilRequestCode := []
  tokens : List RilToken := []

/-- The operations that concern no request. -/
def QuietOp (F : Footprint) : Op → Prop
  | .unsolicited _ _ => True
  | .dataSet request _ => request ∈ F.data
  | .dataFree request => request ∈ F.data
  | .dataDrop request => request ∈ F.data
  | .pinCache _ => F.pin = true
  | .simIccType _ => True
  | .hsdpaStatus _ => True
  | .svcSession _ => True
  | .connections _ _ => F.connections = true
  | _ => False

/-- The operations of the handler of a request before its completion. All of its messages are
sent, or none. -/
def RequestOp (F : Footprint) (token : RilToken) (sent : Bool) (s : RilData) : Op → Prop
  | .requestSeq t => t = token
  | .transmit sender expect command type data =>
    sender = .request token ∧ (expect, command, type) ∈ F.messages ∧
      (transmit sender expect command type data s).1 = sent
  | op => QuietOp F op

/-- The operations of the handler of a message that complete nothing. -/
def SilentOp (F : Footprint) (aseq : UInt8) : Op → Prop
  | .transmit sender expect command type _ =>
    (sender = .reply aseq ∨ sender = .reply 0) ∧ (expect, command, type) ∈ F.messages
  | .stale _ => True
  | op => QuietOp F op

/-- The operations of the handler of a message. -/
def MessageOp (F : Footprint) (message : IpcMessage) (s : RilData) : Op → Prop
  | .complete token _ _ =>
    F.replies = true ∧ token = s.ipcFmtRequestToken message.aseq ∨
      ∃ r ∈ s.requests, r.token = token ∧
        (r.status = .handled ∧ r.request ∈ F.handled ∨ token ∈ F.tokens)
  | .expectUnregister aseq => aseq = message.aseq ∧ message.command = .genPhoneRes
  | .radio radioState => radioState ≠ .unavailable ∧ (radioState = .off → F.off = true)
  | op => SilentOp F message.aseq op

abbrev RequestPath (F : Footprint) (token : RilToken) (sent : Bool) : RilData → RilData → Prop :=
  Path Op.exec (RequestOp F token sent)

abbrev MessagePath (F : Footprint) (message : IpcMessage) : RilData → RilData → Prop :=
  Path Op.exec (MessageOp F message)

lemma QuietOp.request {F : Footprint} {op : Op} (h : QuietOp F op) (token : RilToken) (sent : Bool)
    (s : RilData) : RequestOp F token sent s op := by
  cases op <;> first | exact h | exact h.elim

lemma QuietOp.silent {F : Footprint} {op : Op} (h : QuietOp F op) (aseq : UInt8) : SilentOp F aseq op := by
  cases op <;> first | exact h | exact h.elim

lemma SilentOp.message {F : Footprint} {message : IpcMessage} {op : Op} (h : SilentOp F message.aseq op)
    (s : RilData) : MessageOp F message s op := by
  cases op <;> first | exact h | exact h.elim

lemma RequestOp.cases {F : Footprint} {token : RilToken} {sent : Bool} {s : RilData} {op : Op}
    (h : RequestOp F token sent s op) :
    op = .requestSeq token ∨
      (∃ expect command type data, op = .transmit (.request token) expect command type data ∧
        (expect, command, type) ∈ F.messages ∧
        (transmit (.request token) expect command type data s).1 = sent) ∨
      QuietOp F op := by
  cases op with
  | requestSeq t => exact .inl (congrArg Op.requestSeq h)
  | transmit sender expect command type data =>
    obtain ⟨rfl, hF, hs⟩ := h
    exact .inr (.inl ⟨expect, command, type, data, rfl, hF, hs⟩)
  | _ => exact .inr (.inr h)

lemma SilentOp.cases {F : Footprint} {aseq : UInt8} {op : Op} (h : SilentOp F aseq op) :
    (∃ q expect command type data, op = .transmit (.reply q) expect command type data ∧ (q = aseq ∨ q = 0) ∧
        (expect, command, type) ∈ F.messages) ∨
      (∃ token, op = .stale token) ∨ QuietOp F op := by
  cases op with
  | transmit sender expect command type data =>
    obtain ⟨rfl | rfl, hF⟩ := h
    · exact .inl ⟨aseq, expect, command, type, data, rfl, .inl rfl, hF⟩
    · exact .inl ⟨0, expect, command, type, data, rfl, .inr rfl, hF⟩
  | stale token => exact .inr (.inl ⟨token, rfl⟩)
  | _ => exact .inr (.inr h)

lemma MessageOp.cases {F : Footprint} {message : IpcMessage} {s : RilData} {op : Op}
    (h : MessageOp F message s op) :
    (∃ token error response, op = .complete token error response ∧
        (F.replies = true ∧ token = s.ipcFmtRequestToken message.aseq ∨
          ∃ r ∈ s.requests, r.token = token ∧
            (r.status = .handled ∧ r.request ∈ F.handled ∨ token ∈ F.tokens))) ∨
      op = .expectUnregister message.aseq ∨
      (∃ radioState, op = .radio radioState ∧ radioState ≠ .unavailable ∧ (radioState = .off → F.off = true)) ∨
      SilentOp F message.aseq op := by
  cases op with
  | complete token error response => exact .inl ⟨token, error, response, rfl, h⟩
  | expectUnregister aseq => exact .inr (.inl (congrArg Op.expectUnregister h.1))
  | radio radioState => exact .inr (.inr (.inl ⟨radioState, rfl, h⟩))
  | _ => exact .inr (.inr (.inr h))

lemma QuietOp.requests {F : Footprint} {op : Op} (h : QuietOp F op) (s : RilData) :
    (op.exec s).requests = s.requests := by
  cases op with
  | dataSet request value =>
    simp only [Op.exec, RilData.requestDataSet]
    split <;> rfl
  | complete | requestSeq | transmit | expectUnregister | radio | stale | start | setStatus | retry | arrive
  | cancel | signal | client | clientDestroy => exact h.elim
  | _ => rfl

lemma RequestOp.requests {F : Footprint} {token : RilToken} {sent : Bool} {s : RilData} {op : Op}
    (h : RequestOp F token sent s op) : (op.exec s).requests = s.requests := by
  rcases h.cases with rfl | ⟨expect, command, type, data, rfl, -⟩ | h
  · exact RilData.ipcFmtRequestSeq_requests s token
  · exact (RilData.expectSend_requests _ _ _ _ _ _).trans (RilData.ipcFmtRequestSeq_requests s token)
  · exact h.requests s

lemma SilentOp.requests {F : Footprint} {aseq : UInt8} {op : Op} (h : SilentOp F aseq op) (s : RilData) :
    (op.exec s).requests = s.requests := by
  rcases h.cases with ⟨q, expect, command, type, data, rfl, -⟩ | ⟨token, rfl⟩ | h
  · exact RilData.expectSend_requests s expect q command type data
  · rfl
  · exact h.requests s

lemma QuietOp.fmtRequests {F : Footprint} {op : Op} (h : QuietOp F op) (s : RilData) :
    (op.exec s).fmtRequests = s.fmtRequests := by
  cases op with
  | dataSet request value =>
    simp only [Op.exec, RilData.requestDataSet]
    split <;> rfl
  | simIccType | hsdpaStatus | svcSession => exact RilData.modifyFmt_fmtRequests s fun _ => rfl
  | complete | requestSeq | transmit | expectUnregister | radio | stale | start | setStatus | retry | arrive
  | cancel | signal | client | clientDestroy => exact h.elim
  | _ => rfl

lemma SilentOp.fmtRequests {F : Footprint} {aseq : UInt8} {op : Op} (h : SilentOp F aseq op) (s : RilData) :
    (op.exec s).fmtRequests = s.fmtRequests := by
  rcases h.cases with ⟨q, expect, command, type, data, rfl, -⟩ | ⟨token, rfl⟩ | h
  · exact RilData.expectSend_fmtRequests s expect q command type data
  · rfl
  · exact h.fmtRequests s

/-- What makes a handler put its request off. -/
structure Waiting where
  radioState : RilRadioState := .unavailable
  requests : List RilRequestCode := []

def Waiting.blocks (w : Waiting) (s : RilData) : Prop :=
  s.radioStateCheck w.radioState = false ∨
    ∃ request ∈ w.requests, (s.requestFindRequestStatus request .handled).isSome = true

lemma whenRadioState_apply (radioState : RilRadioState) (m : RilM RilRequestStatus) (s : RilData) :
    whenRadioState radioState m s = if s.radioStateCheck radioState then m s else (.unhandled, s) :=
  ite_run (s.radioStateCheck radioState) m (pure .unhandled) s

lemma whenNoneHandled_apply (requests : List RilRequestCode) (m : RilM RilRequestStatus) (s : RilData) :
    whenNoneHandled requests m s =
      if requests.any fun request => (s.requestFindRequestStatus request .handled).isSome then
        (.unhandled, s)
      else m s :=
  ite_run (requests.any fun request => (s.requestFindRequestStatus request .handled).isSome)
    (pure RilRequestStatus.unhandled : RilM RilRequestStatus) m s

def RilData.withoutConnections (s : RilData) : RilData := { s with dataConnections := [], heap := {} }

lemma RilData.eq_of_withoutConnections {s t : RilData} (h : t.withoutConnections = s.withoutConnections) :
    t = { s with dataConnections := t.dataConnections, heap := t.heap } := by
  cases s
  cases t
  simp only [RilData.withoutConnections, RilData.mk.injEq] at h ⊢
  obtain ⟨rfl, rfl, rfl, rfl, rfl, -, -, rfl, rfl, rfl⟩ := h
  simp

section Programs

variable {α β : Type} {F : Footprint} {w : Waiting} {token : RilToken} {sent : Bool}
  {m k n : RilM RilRequestStatus}

abbrev QuietProgram (F : Footprint) (m : RilM α) : Prop := Performs Op.exec (fun _ => QuietOp F) m

/-- The request waits for an answer of the modem. -/
def Handles (F : Footprint) (token : RilToken) (sent : Bool) (m : RilM RilRequestStatus) : Prop :=
  ∀ s, (m s).1 = .handled ∧ RequestPath F token sent s (m s).2

/-- The request is completed, and that is the last thing done. -/
def Completes (F : Footprint) (token : RilToken) (sent : Bool) (m : RilM RilRequestStatus) : Prop :=
  ∀ s, (m s).1 = .completed ∧ ∃ s' error response, RequestPath F token sent s s' ∧
    (m s).2 = s'.requestComplete token error response

/-- A request is completed unless its message was sent. -/
def Settles (F : Footprint) (token : RilToken) (m : RilM RilRequestStatus) : Prop :=
  ∀ s, ((m s).1 = .handled ∧ RequestPath F token true s (m s).2) ∨
    ((m s).1 = .completed ∧ ∃ s' error response, RequestPath F token false s s' ∧
      (m s).2 = s'.requestComplete token error response)

/-- A request that is put off has changed nothing, and the reason stands. -/
def RequestSpec (F : Footprint) (w : Waiting) (token : RilToken) (m : RilM RilRequestStatus) : Prop :=
  ∀ s, ((m s).1 = .unhandled ∧ (m s).2 = s ∧ w.blocks s) ∨
    ((m s).1 = .handled ∧ RequestPath F token true s (m s).2) ∨
    ((m s).1 = .completed ∧ ∃ s' error response, RequestPath F token false s s' ∧
      (m s).2 = s'.requestComplete token error response)

namespace QuietProgram

lemma request {m : RilM α} (h : QuietProgram F m) (sent : Bool) (s : RilData) :
    RequestPath F token sent s (m s).2 :=
  Path.mono (h s) fun _ _ hq => hq.request token sent _

lemma unsolicited (request : RilUnsol) (response : RilResponse) :
    QuietProgram F (rilRequestUnsolicited request response) :=
  Performs.modify (Op.unsolicited request response) fun _ => trivial

lemma dataSet {request : RilRequestCode} (h : request ∈ F.data) (value : RilRequestDataValue) :
    QuietProgram F (rilRequestDataSet request value) :=
  Performs.modify (Op.dataSet request value) fun _ => h

lemma dataFree {request : RilRequestCode} (h : request ∈ F.data) :
    QuietProgram F (rilRequestDataFree request) :=
  Performs.modify (Op.dataFree request) fun _ => h

lemma dataSetUniq {request : RilRequestCode} (h : request ∈ F.data) (value : RilRequestDataValue) :
    QuietProgram F (rilRequestDataSetUniq request value) :=
  Performs.bind (dataFree h) fun _ => dataSet h value

lemma dataGet {request : RilRequestCode} (h : request ∈ F.data) :
    QuietProgram F (rilRequestDataGet request) :=
  fun _ => Path.single (Op.dataDrop request) h

/-- The programs that leave everything but the connections and the heap as it is. -/
lemma connections {m : RilM α} (hF : F.connections = true)
    (h : ∀ s, (m s).2.withoutConnections = s.withoutConnections) : QuietProgram F m := by
  intro s
  rw [RilData.eq_of_withoutConnections (h s)]
  exact Path.single (Op.connections (m s).2.dataConnections (m s).2.heap) hF

lemma setSvcSession (session : Bool) : QuietProgram F (setSvcSession session) :=
  Performs.modify (Op.svcSession session) fun _ => trivial

end QuietProgram

namespace Handles

protected lemma pure : Handles F token sent (pure .handled) := fun _ => ⟨rfl, .refl⟩

lemma bind {m : RilM α} {f : α → RilM RilRequestStatus} (hm : QuietProgram F m)
    (hf : ∀ a, Handles F token sent (f a)) : Handles F token sent (m >>= f) := by
  intro s
  obtain ⟨hr, hp⟩ := hf (m s).1 (m s).2
  exact ⟨hr, (hm.request sent s).trans hp⟩

end Handles

namespace Completes

lemma completeRequest (error : RilErrno) (response : RilResponse) :
    Completes F token sent (completeRequest token error response) :=
  fun s => ⟨rfl, s, error, response, .refl, rfl⟩

lemma fail : Completes F token sent (failRequest token) := .completeRequest _ _

lemma bind {m : RilM α} {f : α → RilM RilRequestStatus} (hm : QuietProgram F m)
    (hf : ∀ a, Completes F token sent (f a)) : Completes F token sent (m >>= f) := by
  intro s
  obtain ⟨hr, s', error, response, hp, hs⟩ := hf (m s).1 (m s).2
  exact ⟨hr, s', error, response, (hm.request sent s).trans hp, hs⟩

end Completes

namespace Settles

lemma of_handles (h : Handles F token true m) : Settles F token m := fun s => .inl (h s)

lemma of_completes (h : Completes F token false m) : Settles F token m := fun s => .inr (h s)

lemma fail : Settles F token (failRequest token) := .of_completes .fail

lemma complete (error : RilErrno) (response : RilResponse) :
    Settles F token (completeRequest token error response) :=
  .of_completes (.completeRequest error response)

lemma bind {m : RilM α} {f : α → RilM RilRequestStatus} (hm : QuietProgram F m)
    (hf : ∀ a, Settles F token (f a)) : Settles F token (m >>= f) := by
  intro s
  rcases hf (m s).1 (m s).2 with ⟨hr, hp⟩ | ⟨hr, s', error, response, hp, hs⟩
  · exact .inl ⟨hr, (hm.request true s).trans hp⟩
  · exact .inr ⟨hr, s', error, response, (hm.request false s).trans hp, hs⟩

lemma read {f : RilData → RilM RilRequestStatus} (hf : ∀ s, Settles F token (f s)) :
    Settles F token (get >>= f) := fun s => hf s s

lemma ite {c : Prop} [Decidable c] (hm : Settles F token m) (hn : Settles F token n) :
    Settles F token (if c then m else n) := by
  split
  · exact hm
  · exact hn

/-- The handlers that send one message: the request is handled if it is sent. -/
lemma transmit {expect : Option ExpectKind} {command : IpcCommand} {type : IpcRequestType}
    {data : Bytes} (hF : (expect, command, type) ∈ F.messages) (hk : Handles F token true k)
    (hn : Completes F token false n) :
    Settles F token (do if ← transmit (.request token) expect command type data then k else n) := by
  intro s
  have hop (sent : Bool) (hsent : (Samsung.transmit (.request token) expect command type data s).1 = sent) :
      RequestPath F token sent s (Samsung.transmit (.request token) expect command type data s).2 :=
    Path.single (Op.transmit (.request token) expect command type data) ⟨rfl, hF, hsent⟩
  cases hb : (Samsung.transmit (.request token) expect command type data s).1 with
  | true =>
    obtain ⟨hr, hp⟩ := hk (Samsung.transmit (.request token) expect command type data s).2
    left
    simp only [bind_apply, hb, if_true]
    exact ⟨hr, (hop true hb).trans hp⟩
  | false =>
    obtain ⟨hr, s', error, response, hp, hs⟩ :=
      hn (Samsung.transmit (.request token) expect command type data s).2
    right
    simp only [bind_apply, hb, Bool.false_eq_true, if_false]
    exact ⟨hr, s', error, response, (hop false hb).trans hp, hs⟩

/-- The same where the seq is taken before the function that sends is called. -/
lemma transmit_seq {f : UInt8 → RilM Bool} {expect : Option ExpectKind} {command : IpcCommand}
    {type : IpcRequestType} {data : Bytes} (hf : ∀ seq, f seq = expectSend expect seq command type data)
    (hF : (expect, command, type) ∈ F.messages) (hk : Handles F token true k)
    (hn : Completes F token false n) :
    Settles F token (do if ← f (← ipcFmtRequestSeq token) then k else n) := by
  obtain rfl := funext hf
  exact transmit hF hk hn

lemma send {expect : Option ExpectKind} {command : IpcCommand} {type : IpcRequestType}
    {data : Bytes} (hF : (expect, command, type) ∈ F.messages) :
    Settles F token (sendRequest token expect command type data) :=
  .transmit hF .pure .fail

end Settles

namespace RequestSpec

lemma of_settles (h : Settles F token m) : RequestSpec F w token m := fun s => .inr (h s)

lemma fail : RequestSpec F w token (failRequest token) := .of_settles .fail

lemma whenRadioState {radioState : RilRadioState} (hw : w.radioState = radioState)
    (h : RequestSpec F w token m) : RequestSpec F w token (whenRadioState radioState m) := by
  intro s
  subst hw
  rw [whenRadioState_apply]
  cases hr : s.radioStateCheck w.radioState with
  | true => exact h s
  | false => exact .inl ⟨rfl, rfl, .inl hr⟩

lemma whenNoneHandled {requests : List RilRequestCode} (hw : w.requests = requests)
    (h : RequestSpec F w token m) : RequestSpec F w token (whenNoneHandled requests m) := by
  intro s
  subst hw
  rw [whenNoneHandled_apply]
  split
  · exact .inl ⟨rfl, rfl, .inr (List.any_eq_true.mp ‹_›)⟩
  · exact h s

lemma ite {c : Prop} [Decidable c] (hm : RequestSpec F w token m) (hn : RequestSpec F w token n) :
    RequestSpec F w token (if c then m else n) := by
  split
  · exact hm
  · exact hn

lemma read {f : RilData → RilM RilRequestStatus} (hf : ∀ s, RequestSpec F w token (f s)) :
    RequestSpec F w token (get >>= f) := fun s => hf s s

end RequestSpec

end Programs

end Ril.Samsung
