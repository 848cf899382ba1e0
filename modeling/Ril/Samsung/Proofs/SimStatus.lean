import Ril.Samsung.Proofs.Calm
import Ril.Samsung.Proofs.PinRetries

/-! The requests for the SIM status that wait for their answers. -/

namespace Ril.Samsung

open Ril.Ipc Ril.Lib

/-! ### The answers of the modem -/

def genPhoneResCommand (data : Bytes) : Option ℕ := (IpcGenPhoneResData.read data).map IpcGenPhoneResData.command

/-- An answer that belongs to the same messages as the given one -/
def Event.answers (message : IpcMessage) : Event → Bool
  | received m => m.type == .resp && m.aseq == message.aseq && m.command == message.command &&
      (m.command != .genPhoneRes || genPhoneResCommand m.data == genPhoneResCommand message.data)
  | _ => false

/-- A message that was sent and is answered by the given one: a `SET` by a generic answer, a `GET` by a response, an
`EXEC` by either. -/
def Event.asks (message : IpcMessage) : Event → Bool
  | sent m ok => ok && m.mseq == message.aseq &&
      if message.command = .genPhoneRes then m.type != .get && genPhoneResCommand message.data == some m.command.code
      else m.type != .set && m.command == message.command
  | _ => false

/-- The modem still has to send this answer. -/
def Outstanding (message : IpcMessage) (trace : List Event) : Prop :=
  trace.countP (Event.answers message) < trace.countP (Event.asks message)

instance (message : IpcMessage) (trace : List Event) : Decidable (Outstanding message trace) :=
  inferInstanceAs (Decidable (_ < _))

/-- The modem answers no message twice, and none that was not sent. -/
def ModemAnswers (d : Daemon) : Action → Prop
  | .message _ message => message.type = .resp → Outstanding message d.data.trace
  | _ => True

/-! ### The requests for the status -/

def simStatusAnswer (seq : UInt8) (data : Bytes) : IpcMessage := ⟨seq, .secPinStatus, .resp, data⟩

/-- The request waits under the seq for its answer. -/
def WaitsForStatus (s : RilData) (r : RilRequest) (seq : UInt8) : Prop :=
  r ∈ s.requests ∧ r.request = .getSimStatus ∧ r.status = .handled ∧
    ∃ f ∈ s.fmtRequests, f.token = r.token ∧ f.seq = seq

/-- The answer to a request for the status is one that completes it: it is of the length of a status, the radio is on,
no PIN is asked for that is cached, and the seq is found to be the one of the request. The client is not destroyed
before the answer. -/
def statusKept (d : Daemon) : Action → Prop
  | .message _ message => message.command = .secPinStatus → message.type = .resp →
      ∀ r, WaitsForStatus d.data r message.aseq →
        2 ≤ message.data.length ∧ d.data.radioStateCheck .simNotReady = true ∧
          (asksForPin message d.data = true → d.data.simPin = none) ∧
          d.data.ipcFmtRequestToken message.aseq = r.token
  | .clientStop => ∀ r ∈ d.data.requests, r.request = .getSimStatus → r.status ≠ .handled
  | _ => True

/-- Every request for the status that is handled has an answer outstanding that will complete it. -/
def StatusAnswered (d : Daemon) : Prop := ∀ r ∈ d.data.requests, r.request = .getSimStatus → r.status = .handled →
  ∃ seq, WaitsForStatus d.data r seq ∧ Outstanding (simStatusAnswer seq []) d.data.trace ∧
    ∀ env data d', statusKept d (.message env (simStatusAnswer seq data)) →
      step d (.message env (simStatusAnswer seq data)) = some d' →
      (∃ response, Event.completed r.token .success response ∈ d'.data.trace) ∧ r.token ∉ d'.data.tokens

/-! ### Counting -/

lemma status_answers (seq : UInt8) (data data' : Bytes) :
    Event.answers (simStatusAnswer seq data) = Event.answers (simStatusAnswer seq data') := by
  funext e
  cases e with
  | received m =>
    by_cases hc : m.command = .secPinStatus
    · have hne : (IpcCommand.secPinStatus != .genPhoneRes) = true := by decide
      simp [Event.answers, simStatusAnswer, hc, hne]
    · have hne : (m.command == IpcCommand.secPinStatus) = false := beq_false_of_ne hc
      simp [Event.answers, simStatusAnswer, hne]
  | _ => rfl

lemma status_asks (seq : UInt8) (data data' : Bytes) :
    Event.asks (simStatusAnswer seq data) = Event.asks (simStatusAnswer seq data') := by
  funext e
  cases e with
  | sent m ok => simp [Event.asks, simStatusAnswer]
  | _ => rfl

lemma outstanding_data (seq : UInt8) (data data' : Bytes) {trace : List Event}
    (h : Outstanding (simStatusAnswer seq data) trace) : Outstanding (simStatusAnswer seq data') trace := by
  rw [Outstanding] at h ⊢
  rwa [status_answers seq data' data, status_asks seq data' data]

lemma answers_extend (message : IpcMessage) {trace trace' : List Event} (h : Extends Event.silent trace trace') :
    trace'.countP (Event.answers message) = trace.countP (Event.answers message) ∧
      trace.countP (Event.asks message) ≤ trace'.countP (Event.asks message) := by
  obtain ⟨new, rfl, hn⟩ := h
  have h0 : new.countP (Event.answers message) = 0 := by
    rw [List.countP_eq_zero]
    intro e he
    cases e with
    | received m => exact (hn _ he).elim
    | _ => simp [Event.answers]
  rw [List.countP_append, List.countP_append, h0, Nat.zero_add]
  exact ⟨rfl, Nat.le_add_left _ _⟩

lemma Outstanding.extend {message : IpcMessage} {trace trace' : List Event} (h : Outstanding message trace)
    (hx : Extends Event.silent trace trace') : Outstanding message trace' := by
  obtain ⟨ha, hs⟩ := answers_extend message hx
  exact (ha ▸ h : _ < _).trans_le hs

section

variable {d d' : Daemon} {a : Action} {s t : RilData}

/-! ### The invariant -/

/-- The request has taken the seq, and the answer to its message is outstanding. -/
structure StatusWaits (s : RilData) (r : RilRequest) (seq : UInt8) : Prop where
  data : s.fmt.data.isSome = true
  taken : (some r.token, seq) ∈ taken s.trace
  outstanding : Outstanding (simStatusAnswer seq []) s.trace

def AllWait (s : RilData) : Prop :=
  ∀ r ∈ s.requests, r.request = .getSimStatus → r.status = .handled → ∃ seq, StatusWaits s r seq

lemma StatusWaits.calm {r : RilRequest} {seq : UInt8} (h : StatusWaits s r seq) (hc : Calm s t) : StatusWaits t r seq :=
  ⟨hc.data.trans h.data, taken_suffix hc.trace.suffix h.taken, h.outstanding.extend hc.trace⟩

lemma AllWait.calm (h : AllWait s) (hc : Calm s t) : AllWait t := by
  intro r hr hq hh
  obtain ⟨seq, hw⟩ := h r (hc.handled r hr hh) hq hh
  exact ⟨seq, hw.calm hc⟩

/-! ### The dispatch of a request for the status -/

lemma get_sim_status_sends {data : RilValue} {token : RilToken}
    (h : (rilRequestGetSimStatus data token s).1 = .handled) :
    (transmit (.request token) none .secPinStatus .get [] (s.requestDataDrop .getSimStatus)).1 = true ∧
      (rilRequestGetSimStatus data token s).2 =
        (transmit (.request token) none .secPinStatus .get [] (s.requestDataDrop .getSimStatus)).2 := by
  have hsend : (sendRequest token none .secPinStatus .get [] (s.requestDataDrop .getSimStatus)).1 = .handled →
      (transmit (.request token) none .secPinStatus .get [] (s.requestDataDrop .getSimStatus)).1 = true ∧
      (sendRequest token none .secPinStatus .get [] (s.requestDataDrop .getSimStatus)).2 =
        (transmit (.request token) none .secPinStatus .get [] (s.requestDataDrop .getSimStatus)).2 := by
    rw [sendRequest, bind_apply]
    cases (transmit (.request token) none .secPinStatus .get [] (s.requestDataDrop .getSimStatus)).1 with
    | true => exact fun _ => ⟨rfl, rfl⟩
    | false => nofun
  rw [rilRequestGetSimStatus, whenRadioState_apply] at h ⊢
  split at h
  · rename_i hr
    rw [whenNoneHandled_apply] at h ⊢
    split at h
    · cases h
    · rename_i hn
      rw [if_pos hr, if_neg hn]
      rw [bind_apply, rilRequestDataGet] at h ⊢
      dsimp only at h ⊢
      cases hd : s.requestDataFind .getSimStatus with
      | none =>
        rw [hd] at h
        exact hsend h
      | some value =>
        rw [hd] at h
        cases value with
        | cardStatus status => cases h
        | bytes | int | strings => exact hsend h
  · cases h

lemma set_handled_waits (hs : s.tokens.Nodup) (h : AllWait s) {r : RilRequest} (hr : r ∈ s.requests)
    (hw : r.request = .getSimStatus → ∃ seq, StatusWaits s r seq) : AllWait (s.requestSetStatus r.token .handled) := by
  intro r' hr' hq hh
  obtain ⟨x, hx, rfl⟩ := List.mem_map.mp hr'
  by_cases hk : x.token = r.token
  · obtain rfl := List.inj_on_of_nodup_map hs hx hr hk
    rw [if_pos (by simp)] at hq ⊢
    obtain ⟨seq, hw⟩ := hw hq
    exact ⟨seq, hw.data, hw.taken, hw.outstanding⟩
  · have hne : (x.token == r.token) = false := beq_false_of_ne hk
    rw [hne, if_neg Bool.false_ne_true] at hq hh ⊢
    obtain ⟨seq, hw⟩ := h x hx hq hh
    exact ⟨seq, hw.data, hw.taken, hw.outstanding⟩

/-- No more answers were received than messages were sent. -/
def Accounted (trace : List Event) : Prop := ∀ seq,
  trace.countP (Event.answers (simStatusAnswer seq [])) ≤ trace.countP (Event.asks (simStatusAnswer seq []))

lemma Accounted.extend {trace trace' : List Event} (h : Accounted trace) (hx : Extends Event.silent trace trace') :
    Accounted trace' := by
  intro seq
  obtain ⟨ha, hs⟩ := answers_extend (simStatusAnswer seq []) hx
  exact (ha ▸ h seq : _ ≤ _).trans hs

lemma sent_waits (hs : Synced s) (hn : Numbered s) {r : RilRequest} (hr : r ∈ s.requests) (hm : Accounted s.trace)
    (ht : (transmit (.request r.token) none .secPinStatus .get [] s).1 = true) :
    ∃ seq, StatusWaits (transmit (.request r.token) none .secPinStatus .get [] s).2 r seq := by
  have hview := request_seq_accept s r.token
  have hd : s.fmt.data.isSome = true := by
    rw [← show (s.ipcFmtRequestSeq r.token).2.fmt.data.isSome = s.fmt.data.isSome from congrArg Prod.fst hview]
    rw [RilData.transmit_request, RilData.expectSend_apply, if_neg (by simp), RilData.clientAccepts] at ht
    simp only [Bool.and_eq_true] at ht
    exact ht.1.1
  have hcalm : Calm s (s.ipcFmtRequestSeq r.token).2 := Calm.of_op (.requestSeq r.token) rfl s
  have htaken := request_seq_taken hs hn (List.mem_map_of_mem hr) hd
  refine ⟨(s.ipcFmtRequestSeq r.token).1, ?_⟩
  rw [RilData.transmit_request, RilData.expectSend_apply, if_neg (by simp)] at ht ⊢
  refine ⟨(congrArg Prod.fst hview).trans hd, htaken, ?_⟩
  have hle := hm.extend hcalm.trace (s.ipcFmtRequestSeq r.token).1
  dsimp only at ht ⊢
  rw [ht, Outstanding]
  have hcons : ((s.ipcFmtRequestSeq r.token).2.log
      (.sent ⟨(s.ipcFmtRequestSeq r.token).1, .secPinStatus, .get, []⟩ true)).trace =
      .sent ⟨(s.ipcFmtRequestSeq r.token).1, .secPinStatus, .get, []⟩ true ::
        (s.ipcFmtRequestSeq r.token).2.trace := rfl
  rw [RilData.expected, hcons, List.countP_cons_of_neg (by simp [Event.answers]),
    List.countP_cons_of_pos (by simp [Event.asks, simStatusAnswer])]
  exact Nat.lt_succ_of_le hle

lemma status_dispatch_waits (hs : Synced s) (hn : Numbered s) (h : AllWait s) (hm : Accounted s.trace) (env : Env)
    {r : RilRequest} (hr : r ∈ s.requests) (hq : r.request = .getSimStatus) : AllWait (dispatchRequest env r s) := by
  have hcalm := started_calm env r.token s
  have hh : rilRequestHandler r.request = some rilRequestGetSimStatus := by rw [hq]; rfl
  rcases get_sim_status_spec r.data r.token (s.started env (.dispatched r.token)) with
    ⟨hst, he, -⟩ | ⟨hst, -⟩ | ⟨hst, s', error, response, hp, he⟩
  · rw [dispatch_result hh (Prod.ext hst he)]
    exact h.calm (hcalm.trans (.of_op (.setStatus r.token .unhandled) rfl _))
  · obtain ⟨ht, he⟩ := get_sim_status_sends hst
    have hdrop : Calm s ((s.started env (.dispatched r.token)).requestDataDrop .getSimStatus) :=
      hcalm.trans (.of_op (.dataDrop .getSimStatus) rfl _)
    have hkeeps := (started_keeps s env (e := .dispatched r.token) rfl).trans
      (.of_eq (t := (s.started env (.dispatched r.token)).requestDataDrop .getSimStatus) rfl rfl rfl)
    have hn' : Numbered ((s.started env (.dispatched r.token)).requestDataDrop .getSimStatus) :=
      hn.step hs (.of_eq rfl rfl) hdrop.trace.suffix
    have hwaits := sent_waits (hs.keeps hkeeps) hn' (r := r) hr (hm.extend hdrop.trace) ht
    have hreq : (transmit (.request r.token) none .secPinStatus .get []
        ((s.started env (.dispatched r.token)).requestDataDrop .getSimStatus)).2.requests = s.requests :=
      congrArg Prod.fst (RilData.transmit_loopView _ (.request r.token) none .secPinStatus .get [])
    have hsent : Calm _ (transmit (.request r.token) none .secPinStatus .get []
        ((s.started env (.dispatched r.token)).requestDataDrop .getSimStatus)).2 :=
      Calm.of_op (.transmit (.request r.token) none .secPinStatus .get []) rfl _
    rw [dispatch_result hh (Prod.ext hst he)]
    refine set_handled_waits ?_ (h.calm (hdrop.trans hsent)) (hreq ▸ hr) fun _ => hwaits
    rw [RilData.tokens, hreq]
    exact hs.nodup
  · rw [dispatch_result hh (Prod.ext hst he)]
    exact h.calm ((hcalm.trans (request_path_calm hp)).trans (.of_op (.complete r.token error response) rfl _))

lemma dispatch_waits (hs : Synced s) (hn : Numbered s) (h : AllWait s) (hm : Accounted s.trace) (env : Env)
    {r : RilRequest} (hr : r ∈ s.requests) : AllWait (dispatchRequest env r s) := by
  by_cases hq : r.request = .getSimStatus
  · exact status_dispatch_waits hs hn h hm env hr hq
  have hcalm := started_calm env r.token s
  rcases dispatch_cases env r s with ⟨he, -⟩ | ⟨s', hp, he⟩ | ⟨s', error, response, hp, he⟩
  · rw [he]
    exact h.calm (hcalm.trans (.of_op (.setStatus r.token .unhandled) rfl _))
  · have hreq : s'.requests = s.requests := (Path.frame (f := RilData.requests) hp fun _ _ h => h.requests).trans rfl
    have hsync : s'.tokens.Nodup := by
      rw [RilData.tokens, hreq]
      exact hs.nodup
    rw [he]
    exact set_handled_waits hsync (h.calm (hcalm.trans (request_path_calm hp))) (hreq ▸ hr) fun h => absurd h hq
  · rw [he]
    exact h.calm ((hcalm.trans (request_path_calm hp)).trans (.of_op (.complete r.token error response) rfl _))

/-! ### The messages -/

lemma seq_valid_of_taken (hs : Synced s) (hn : Numbered s) {r : RilRequest} (hr : r ∈ s.requests) {seq : UInt8}
    (ht : (some r.token, seq) ∈ taken s.trace) (hd : s.fmt.data.isSome = true) : ipcSeqValid seq = true := by
  obtain ⟨f, hf, -, rfl, hne⟩ := seq_of_taken hs hn hr ht hd
  obtain ⟨q, -, ha⟩ := fmt_allocated hn hf hne
  have hpos : f.seq ≠ 0 := by
    intro h0
    have hp := ha.pos
    rw [h0] at hp
    exact absurd hp (by decide)
  simp [ipcSeqValid, hpos, hne]

lemma status_answer_completes {m : IpcMessage} (env : Env) (hc : m.command = .secPinStatus)
    (ht : m.type = .resp) (hv : ipcSeqValid m.aseq = true) {r : RilRequest}
    (hlen : 2 ≤ m.data.length)
    (hradio : s.radioStateCheck .simNotReady = true) (hpin : asksForPin m s = true → s.simPin = none)
    (htoken : s.ipcFmtRequestToken m.aseq = r.token) :
    ∃ (t : RilData) (response : RilResponse), t.requests = s.requests ∧
      (dispatchMessage env m s).2 = t.requestComplete r.token .success response := by
  have hd : IpcSecPinStatusResponseData.read m.data =
      some ⟨byteAt m.data 0, byteAt m.data 1⟩ := if_neg (by omega)
  have hrun : dispatchMessage env m s = ipcSecPinStatus m (s.started env (.received m)) := by
    rw [dispatchMessage, ipcFmtDispatch, hc]
    rfl
  have hresp : IpcMessage.isResponse m = true := by simp [IpcMessage.isResponse, ht, hv]
  have hstarted : (s.started env (.received m)).radioStateCheck .simNotReady = true := hradio
  obtain ⟨hun, -⟩ := sec_pin_status_radio_state ⟨byteAt m.data 0, byteAt m.data 1⟩
  obtain ⟨hreq, hfmt⟩ := RilData.radioStateUpdate_lists hun (s.started env (.received m))
  have hreport (status : RilCardStatus) : ∃ (t : RilData) (response : RilResponse), t.requests = s.requests ∧
      (ipcSecPinStatusReport m (ipc2rilSecPinStatusResponse ⟨byteAt m.data 0, byteAt m.data 1⟩).1 status
        (s.started env (.received m))).2 = t.requestComplete r.token .success response := by
    refine ⟨_, .cardStatus status, hreq, ?_⟩
    have hseq : (((s.started env (.received m)).radioStateUpdate
        (ipc2rilSecPinStatusResponse ⟨byteAt m.data 0, byteAt m.data 1⟩).1).ipcFmtRequestToken m.aseq) = r.token := by
      rw [← htoken, RilData.ipcFmtRequestToken, RilData.fmtRequestFindSeq, RilData.fmtRequests_of_fmt hfmt]
      rfl
    rw [← hseq, ipcSecPinStatusReport, hresp]
    rfl
  rw [hrun, pin_status_eq hd, if_pos hstarted]
  split
  · rename_i pin hp hsome
    have hnone := hpin ((asks_for_pin_iff hc hd).mpr ⟨hradio, hp⟩)
    have hsome' : s.simPin = some pin := hsome
    exact absurd (hnone.symm.trans hsome') (by simp)
  · exact hreport _

lemma completed_gone (hn : t.tokens.Nodup) {token : RilToken} (h0 : token ≠ 0) (error : RilErrno)
    (response : RilResponse) : token ∉ (t.requestComplete token error response).tokens := by
  rw [RilData.requestComplete, if_neg h0]
  exact unregister_gone hn

lemma StatusWaits.waitsForStatus (hs : Synced s) (hn : Numbered s) {r : RilRequest} (hr : r ∈ s.requests)
    (hq : r.request = .getSimStatus) (hh : r.status = .handled) {seq : UInt8} (hw : StatusWaits s r seq) :
    WaitsForStatus s r seq := by
  obtain ⟨f, hf, hk, hfs, -⟩ := seq_of_taken hs hn hr hw.taken hw.data
  exact ⟨hr, hq, hh, f, hf, hk, hfs⟩

lemma message_waits (hs : Synced s) (hn : Numbered s) (h : AllWait s) (env : Env) (message : IpcMessage)
    (hk : message.command = .secPinStatus → message.type = .resp → ∀ r, WaitsForStatus s r message.aseq →
      2 ≤ message.data.length ∧ s.radioStateCheck .simNotReady = true ∧
        (asksForPin message s = true → s.simPin = none) ∧
        s.ipcFmtRequestToken message.aseq = r.token) :
    AllWait (dispatchMessage env message s).2 := by
  intro r hr hq hh
  have hcalm := message_calm env message s
  have hr₀ : r ∈ s.requests := hcalm.handled r hr hh
  obtain ⟨seq, hw⟩ := h r hr₀ hq hh
  refine ⟨seq, hcalm.data.trans hw.data, taken_suffix hcalm.trace.suffix hw.taken, ?_⟩
  refine Outstanding.extend ?_ hcalm.trace
  by_cases ha : Event.answers (simStatusAnswer seq []) (.received message) = true
  · -- the answer of this request would have completed it
    simp only [Event.answers, simStatusAnswer, Bool.and_eq_true, beq_iff_eq] at ha
    obtain ⟨⟨⟨ht, rfl⟩, hc⟩, -⟩ := ha
    have hwait := hw.waitsForStatus hs hn hr₀ hq hh
    obtain ⟨hlen, hradio, hpin, htoken⟩ := hk hc ht r hwait
    have hv := seq_valid_of_taken hs hn hr₀ hw.taken hw.data
    obtain ⟨u, response, hreq, he⟩ := status_answer_completes env hc ht hv hlen hradio hpin htoken
    have h0 : r.token ≠ 0 := fun h0 => hs.ne_zero (h0 ▸ List.mem_map_of_mem hr₀)
    rw [he] at hr
    refine absurd (List.mem_map_of_mem hr) (completed_gone ?_ h0 .success response)
    rw [RilData.tokens, hreq]
    exact hs.nodup
  · have hcons : (s.started env (.received message)).trace = .received message :: s.trace := rfl
    rw [Outstanding, hcons, List.countP_cons_of_neg ha, List.countP_cons_of_neg (by simp [Event.asks])]
    exact hw.outstanding

lemma message_accounted (h : Accounted s.trace) (env : Env) (message : IpcMessage)
    (hm : message.type = .resp → Outstanding message s.trace) :
    Accounted (dispatchMessage env message s).2.trace := by
  refine Accounted.extend ?_ (message_calm env message s).trace
  intro seq
  have hcons : (s.started env (.received message)).trace = .received message :: s.trace := rfl
  rw [hcons, List.countP_cons_of_neg (by simp [Event.asks] : ¬Event.asks _ _ = true)]
  by_cases ha : Event.answers (simStatusAnswer seq []) (.received message) = true
  · rw [List.countP_cons_of_pos ha]
    obtain ⟨aseq, command, type, data⟩ := message
    simp only [Event.answers, simStatusAnswer, Bool.and_eq_true, beq_iff_eq] at ha
    obtain ⟨⟨⟨rfl, rfl⟩, rfl⟩, -⟩ := ha
    exact outstanding_data aseq data [] (hm rfl)
  · rw [List.countP_cons_of_neg ha]
    exact h seq

/-! ### Runs -/

lemma kept_step {d d' : Daemon} {a : Action} (hs : Synced d.data) (hn : Numbered d.data) (hm : ModemAnswers d a)
    (hk : statusKept d a) (h : AllWait d.data ∧ Accounted d.data.trace) (hstep : step d a = some d') :
    AllWait d'.data ∧ Accounted d'.data.trace := by
  have hcalm (hd : ∀ env, a ≠ .loopDispatch env) (hmsg : ∀ env message, a ≠ .message env message)
      (hstop : a ≠ .clientStop) : AllWait d'.data ∧ Accounted d'.data.trace := by
    have hc : Calm d.data d'.data := Calm.of_path (step_path hstep) fun _ _ hop => step_op_calm hop hd hmsg hstop
    exact ⟨h.1.calm hc, h.2.extend hc.trace⟩
  cases a with
  | loopDispatch env =>
    obtain ⟨-, r, hr, rfl⟩ := step_loop_dispatch.mp hstep
    exact ⟨dispatch_waits hs hn h.1 h.2 env (List.mem_of_find?_eq_some hr), h.2.extend (dispatch_silent env r d.data)⟩
  | message env message =>
    have hw := message_waits hs hn h.1 env message hk
    have hacc := message_accounted h.2 env message hm
    obtain ⟨-, -, ⟨data, he, rfl⟩ | ⟨data, he, rfl⟩⟩ := step_message.mp hstep
    · rw [he] at hw hacc
      exact ⟨hw, hacc⟩
    · rw [he] at hw hacc
      refine ⟨hw.calm (t := { data with fmt := { data.fmt with failures := 0 } }) ?_, hacc⟩
      exact Calm.of_op (.client 0 data.fmt.available) rfl data
  | clientStop =>
    obtain ⟨-, -, rfl⟩ := step_client_stop.mp hstep
    exact ⟨fun r hr hq hh => absurd hh (hk r hr hq), h.2⟩
  | _ => exact hcalm (fun _ => Action.noConfusion) (fun _ _ => Action.noConfusion) Action.noConfusion

lemma reachable_waits {d : Daemon} (h : Reaches step (fun d a => fresh d a ∧ ModemAnswers d a ∧ statusKept d a) {} d) :
    AllWait d.data ∧ Accounted d.data.trace := by
  induction h with
  | refl =>
    have hnone : ({} : Daemon).data.requests = [] := rfl
    have htrace : ({} : Daemon).data.trace = [] := rfl
    refine ⟨fun r hr => ?_, fun seq => ?_⟩
    · rw [hnone] at hr
      exact absurd hr List.not_mem_nil
    · rw [htrace, List.countP_nil, List.countP_nil]
  | tail hr ha hstep ih =>
    have hreach : Reachable _ := hr.mono fun _ _ h => h.1
    exact kept_step (reachable_synced hreach) (reachable_numbered hreach) ha.2.1 ha.2.2 ih hstep

lemma status_step_completes {d d' : Daemon} (hs : Synced d.data) (hn : Numbered d.data) {r : RilRequest}
    {seq : UInt8} (hw : StatusWaits d.data r seq) (hwait : WaitsForStatus d.data r seq) {env : Env} {data : Bytes}
    (hk : statusKept d (.message env (simStatusAnswer seq data)))
    (hstep : step d (.message env (simStatusAnswer seq data)) = some d') :
    (∃ response, Event.completed r.token .success response ∈ d'.data.trace) ∧ r.token ∉ d'.data.tokens := by
  obtain ⟨hlen, hradio, hpin, htoken⟩ := hk rfl rfl r hwait
  have hv := seq_valid_of_taken hs hn hwait.1 hw.taken hw.data
  have h0 : r.token ≠ 0 := fun h0 => hs.ne_zero (h0 ▸ List.mem_map_of_mem hwait.1)
  obtain ⟨t, response, hreq, he⟩ :=
    status_answer_completes env (m := simStatusAnswer seq data) rfl rfl hv hlen hradio hpin htoken
  have ht : t.tokens.Nodup := by
    rw [RilData.tokens, hreq]
    exact hs.nodup
  have hgone := completed_gone ht h0 .success response
  have hlog : Event.completed r.token .success response ∈ (t.requestComplete r.token .success response).trace := by
    rw [RilData.requestComplete, if_neg h0]
    exact List.mem_cons_self
  rw [← he] at hgone hlog
  obtain ⟨-, -, ⟨data, hd, rfl⟩ | ⟨data, hd, rfl⟩⟩ := step_message.mp hstep
  · rw [hd] at hgone hlog
    exact ⟨⟨response, hlog⟩, hgone⟩
  · rw [hd] at hgone hlog
    exact ⟨⟨response, hlog⟩, hgone⟩

/-- While no answer to a request for the status is diverted or dropped, every such request that is handled has an answer
outstanding that will complete it. -/
theorem status_answered {d : Daemon} (h : Reaches step (fun d a => fresh d a ∧ ModemAnswers d a ∧ statusKept d a) {} d) :
    StatusAnswered d := by
  have hreach : Reachable d := h.mono fun _ _ h => h.1
  have hs := reachable_synced hreach
  have hn := reachable_numbered hreach
  intro r hr hq hh
  obtain ⟨seq, hw⟩ := (reachable_waits h).1 r hr hq hh
  have hwait := hw.waitsForStatus hs hn hr hq hh
  exact ⟨seq, hwait, hw.outstanding, fun env data d' hk hstep => status_step_completes hs hn hw hwait hk hstep⟩

end

def answersCheck (d : Daemon) : Action → Bool
  | .message _ message => message.type != .resp || decide (Outstanding message d.data.trace)
  | _ => true

lemma answers_of_check {d : Daemon} {a : Action} (h : answersCheck d a = true) : ModemAnswers d a := by
  cases a with
  | message env message =>
    intro ht
    simpa [answersCheck, ht] using h
  | _ => trivial

def modemCheck (d : Daemon) (a : Action) : Bool := freshCheck d a && answersCheck d a

lemma modem_of_check {d : Daemon} {a : Action} (h : modemCheck d a = true) : fresh d a ∧ ModemAnswers d a := by
  rw [modemCheck, Bool.and_eq_true] at h
  exact ⟨fresh_of_check h.1, answers_of_check h.2⟩

def getSimStatusRun : List Action := radioOnRun ++ dispatchRun {} .getSimStatus .null 2

def statusFree : Action → Bool
  | .message _ message => message.command != .secPinStatus
  | .clientStop => false
  | _ => true

lemma kept_of_free {d : Daemon} {a : Action} (h : statusFree a = true) : statusKept d a := by
  cases a with
  | message env message =>
    intro hc
    simp [statusFree, hc] at h
  | clientStop => cases h
  | _ => trivial

/-- The first request for the status waits for its answer. -/
theorem status_answered_first :
    StatusAnswered (runFrom {} getSimStatusRun) ∧
      ∃ r ∈ (runFrom {} getSimStatusRun).data.requests, r.request = .getSimStatus ∧ r.status = .handled := by
  have hruns : runs (fun d a => modemCheck d a && statusFree a) {} getSimStatusRun = true := by decide
  refine ⟨status_answered (reaches_runFrom hruns fun d a h => ?_), by decide⟩
  rw [Bool.and_eq_true] at h
  exact ⟨(modem_of_check h.1).1, (modem_of_check h.1).2, kept_of_free h.2⟩

/-- The PIN that is entered is kept, and sent again under the seq of the request for the status. -/
def unlockRun : List Action :=
  radioOnRun ++ dispatchRun {} .enterSimPin (.strings [some (ascii ['1']), none]) 2 ++
    [.message {} ⟨0x02, .genPhoneRes, .resp, [0x05, 0x01, 0x03, 0x00, 0x80]⟩] ++ dispatchRun {} .getSimStatus .null 3 ++
    [.message {} (simStatusAnswer 0x03 [0x03, 0x01]),
      .message {} ⟨0x03, .genPhoneRes, .resp, [0x05, 0x01, 0x03, 0x00, 0x80]⟩]

/-- The accepted unlock is the last answer under the seq. -/
theorem status_orphaned : ∃ d, Reaches step (fun d a => fresh d a ∧ ModemAnswers d a) {} d ∧ ¬StatusAnswered d := by
  have hruns : runs modemCheck {} unlockRun = true := by decide
  refine ⟨runFrom {} unlockRun, reaches_runFrom hruns fun _ _ => modem_of_check, ?_⟩
  intro h
  obtain ⟨seq, ⟨-, -, -, f, hf, -, rfl⟩, ho, -⟩ := h ⟨.getSimStatus, .null, 3, .handled⟩ (by decide) rfl rfl
  have hall : ∀ f ∈ (runFrom {} unlockRun).data.fmtRequests,
      ¬Outstanding (simStatusAnswer f.seq []) (runFrom {} unlockRun).data.trace := by decide
  exact hall f hf ho

end Ril.Samsung
