import Ril.Samsung.Spec.Events

/-! Where the record of a request is read after the completion has released it. -/

namespace Ril.Samsung

open Ril.Ipc Ril.Lib

variable {s t : RilData} {message : IpcMessage}

/-- No record is read again after its release. -/
def NoStale (s t : RilData) : Prop := Extends (fun e => ∀ token, e ≠ .staleRequest token) s.trace t.trace

/-- The requests that have a branch of their own in the callback -/
def secBranches : List RilRequestCode :=
  [.enterSimPin, .changeSimPin, .enterSimPin2, .changeSimPin2, .setFacilityLock, .simIo]

/-- The request that a generic answer is for -/
def secRequest (message : IpcMessage) (s : RilData) : Option RilRequest :=
  (IpcGenPhoneResData.read message.data).bind fun _ => s.requestFindToken (s.ipcFmtRequestToken message.aseq)

/-- An answer for a request that unlocks with a PUK is followed by one notification, after the completion. -/
def PukNotified (message : IpcMessage) (s : RilData) : Prop :=
  ∀ r, secRequest message s = some r → r.request = .enterSimPuk ∨ r.request = .enterSimPuk2 →
    ∃ later earlier error response,
      (ipcSecCallback message s).2.trace = later ++ .completed r.token error response :: earlier ++ s.trace ∧
        later.count (.unsolicited .simStatusChanged .null) = 1

lemma not_no_stale {trace : List Event} {token : RilToken} (hs : s.trace <:+ trace)
    (ht : .staleRequest token :: trace <:+ t.trace) : ¬NoStale s t := by
  intro h
  obtain ⟨mid, rfl⟩ := hs
  obtain ⟨later, ht⟩ := ht
  have hnew : t.trace = (later ++ .staleRequest token :: mid) ++ s.trace := by
    rw [← ht, List.append_assoc, List.cons_append]
  rw [NoStale, hnew, Extends.append_iff] at h
  exact h _ (List.mem_append_right _ List.mem_cons_self) token rfl

/-! ### The branches that complete nothing before they are left -/

abbrev Spotless {α : Type} (m : RilM α) : Prop :=
  Performs Op.exec (fun _ op => ∀ token, ¬op.logs (.staleRequest token)) m

namespace Spotless

lemma noStale {α : Type} {m : RilM α} (h : Spotless m) (s : RilData) : NoStale s (m s).2 :=
  path_logged (h s) fun _ _ hop _ he token hs => hop token (hs ▸ he)

lemma complete (token : RilToken) (error : RilErrno) (response : RilResponse) :
    Spotless (rilRequestComplete token error response) :=
  .modify (Op.complete token error response) fun _ _ h => by cases h

lemma dataGet (request : RilRequestCode) : Spotless (rilRequestDataGet request) :=
  fun _ => Path.single (Op.dataDrop request) fun _ => id

lemma dataFree (request : RilRequestCode) : Spotless (rilRequestDataFree request) :=
  .modify (Op.dataFree request) fun _ _ => id

lemma dataSetUniq (request : RilRequestCode) (value : RilRequestDataValue) :
    Spotless (rilRequestDataSetUniq request value) :=
  .bind (dataFree request) fun _ => .modify (Op.dataSet request value) fun _ _ => id

lemma transmit (sender : Sender) (expect : Option ExpectKind) (command : IpcCommand) (type : IpcRequestType)
    (data : Bytes) : Spotless (transmit sender expect command type data) := by
  intro s
  refine Path.single (Op.transmit sender expect command type data) fun token h => ?_
  rcases h with ⟨owner, seq, h⟩ | ⟨mseq, ok, h⟩
  · cases h
  · cases h

lemma retryCount (message : IpcMessage) (request : RilRequest) (type : UInt8) :
    Spotless (ipcSecCallbackRetryCount message request type) :=
  .bind (dataSetUniq _ _) fun _ => .bind (transmit _ _ _ _ _) fun _ => .ite
    (fun _ => .bind (dataFree _) fun _ => complete _ _ _) fun _ => .pure _

lemma setFacilityLock (message : IpcMessage) (data : IpcGenPhoneResData) (request : RilRequest) :
    Spotless (ipcSecCallbackSetFacilityLock message data request) := by
  refine .bind (dataGet _) fun a => ?_
  split
  · exact .bind (transmit _ _ _ _ _) fun _ => .ite (fun _ => complete _ _ _) fun _ => .pure _
  · exact retryCount _ _ _

lemma simIo (message : IpcMessage) (data : IpcGenPhoneResData) (request : RilRequest) :
    Spotless (ipcSecCallbackSimIo message data request) := by
  refine .bind (dataGet _) fun a => .ite (fun _ => complete _ _ _) fun _ => ?_
  split
  · exact .bind (transmit _ _ _ _ _) fun _ => .ite (fun _ => complete _ _ _) fun _ => .pure _
  · exact complete _ _ _

end Spotless

lemma sec_callback_branches (h : ∀ r, secRequest message s = some r → r.request ∈ secBranches) :
    NoStale s (ipcSecCallback message s).2 := by
  cases hd : IpcGenPhoneResData.read message.data with
  | none =>
    rw [ipcSecCallback, hd]
    exact .refl _
  | some data =>
    rw [secRequest, hd, Option.bind_some] at h
    rw [ipcSecCallback, hd]
    simp only [get_bind_apply]
    cases hf : s.requestFindToken (s.ipcFmtRequestToken message.aseq) with
    | none => exact .refl _
    | some r =>
      have hq := h r hf
      simp only [secBranches, List.mem_cons, List.not_mem_nil, or_false] at hq
      rcases hq with hq | hq | hq | hq | hq | hq
      · simp only [hq]
        exact (Spotless.retryCount message r _).noStale s
      · simp only [hq]
        exact (Spotless.retryCount message r _).noStale s
      · simp only [hq]
        exact (Spotless.retryCount message r _).noStale s
      · simp only [hq]
        exact (Spotless.retryCount message r _).noStale s
      · simp only [hq]
        exact (Spotless.setFacilityLock message data r).noStale s
      · simp only [hq]
        exact (Spotless.simIo message data r).noStale s

/-! ### The branch that all other requests share -/

lemma sec_callback_other {r : RilRequest} {data : IpcGenPhoneResData}
    (hd : IpcGenPhoneResData.read message.data = some data)
    (hf : s.requestFindToken (s.ipcFmtRequestToken message.aseq) = some r) (hq : r.request ∉ secBranches) :
    (ipcSecCallback message s).2 = (ipcSecCallbackOther message data r s).2 := by
  rw [ipcSecCallback, hd]
  simp only [get_bind_apply, hf]
  cases hc : r.request <;> first | exact absurd (hc ▸ by decide) hq | rfl

/-- The record is read after the completion, and nothing is notified. -/
lemma sec_callback_falls {r : RilRequest} (hs : Synced s) (hr : secRequest message s = some r)
    (hq : r.request ∉ secBranches) : ∃ error response, (ipcSecCallback message s).2.trace =
      .staleRequest r.token :: .completed r.token error response :: s.trace := by
  obtain ⟨data, hd, hf⟩ := Option.bind_eq_some_iff.mp hr
  have htoken : s.ipcFmtRequestToken message.aseq = r.token := (RilData.requestFindToken_token hf).symm
  have h0 : r.token ≠ 0 := fun h0 => hs.ne_zero (h0 ▸ List.mem_map_of_mem (RilData.requestFindToken_mem hf))
  refine ⟨(ipcSecResult data (-1)).1, .int (ipcSecResult data (-1)).2, ?_⟩
  have hcomplete : (completeReply message (ipcSecResult data (-1)).1 (.int (ipcSecResult data (-1)).2) s).2 =
      s.requestComplete r.token (ipcSecResult data (-1)).1 (.int (ipcSecResult data (-1)).2) := by
    rw [← htoken]
    rfl
  have hgone : (s.requestComplete r.token (ipcSecResult data (-1)).1
      (.int (ipcSecResult data (-1)).2)).requestFindToken r.token = none := by
    apply find_token_none
    rw [RilData.requestComplete, if_neg h0]
    exact unregister_gone hs.nodup
  rw [sec_callback_other hd hf hq, ipcSecCallbackOther, bind_apply, hcomplete, get_bind_apply, hgone]
  simp only [Option.isNone_none, if_true]
  rw [RilData.requestComplete, if_neg h0]
  exact congrArg (fun trace => Event.staleRequest r.token :: Event.completed r.token _ _ :: trace)
    (unregister_trace s r.token)

lemma sec_callback_no_stale_iff (hs : Synced s) : NoStale s (ipcSecCallback message s).2 ↔
    ∀ r, secRequest message s = some r → r.request ∈ secBranches := by
  constructor
  · intro h r hr
    by_contra hq
    obtain ⟨error, response, ht⟩ := sec_callback_falls hs hr hq
    have hstale : Event.staleRequest r.token :: .completed r.token error response :: s.trace <:+
        (ipcSecCallback message s).2.trace := ht ▸ List.suffix_refl _
    exact not_no_stale (List.suffix_cons _ _) hstale h
  · exact sec_callback_branches

lemma puk_no_branch {r : RilRequest} (h : r.request = .enterSimPuk ∨ r.request = .enterSimPuk2) :
    r.request ∉ secBranches := by
  rcases h with h | h
  · rw [h]
    decide
  · rw [h]
    decide

lemma sec_callback_puk_lost {r : RilRequest} (hs : Synced s) (hr : secRequest message s = some r)
    (hpuk : r.request = .enterSimPuk ∨ r.request = .enterSimPuk2) : ¬PukNotified message s := by
  intro h
  obtain ⟨error, response, ht⟩ := sec_callback_falls hs hr (puk_no_branch hpuk)
  obtain ⟨later, earlier, error', response', ht', hcount⟩ := h r hr hpuk
  have hnew : [Event.staleRequest r.token, .completed r.token error response] =
      later ++ .completed r.token error' response' :: earlier := by
    have heq : [Event.staleRequest r.token, .completed r.token error response] ++ s.trace =
        (later ++ .completed r.token error' response' :: earlier) ++ s.trace := ht.symm.trans ht'
    exact List.append_cancel_right heq
  have hzero := congrArg (List.count (Event.unsolicited .simStatusChanged .null)) hnew
  rw [List.count_append, hcount] at hzero
  have hnone : [Event.staleRequest r.token, .completed r.token error response].count
      (.unsolicited .simStatusChanged .null) = 0 := by
    simp
  omega

lemma puk_notified_iff (hs : Synced s) : PukNotified message s ↔
    ∀ r, secRequest message s = some r → r.request ≠ .enterSimPuk ∧ r.request ≠ .enterSimPuk2 := by
  constructor
  · intro h r hr
    rw [← not_or]
    exact fun hpuk => sec_callback_puk_lost hs hr hpuk h
  · intro h r hr hpuk
    exact absurd (h r hr) (not_and_or.mpr (hpuk.imp not_not_intro not_not_intro))

/-! ### The rounds of the radio state -/

lemma radio_off_no_stale (s : RilData) : NoStale s s.radioOff :=
  Logged.radioOff s fun _ _ _ h => by cases h

lemma radio_update_clean {radioState : RilRadioState}
    (h : radioState = .unavailable → s.radioState = .unavailable ∨ s.requests = []) :
    NoStale s (s.radioStateUpdate radioState) := by
  have hstate : NoStale s
      (({ s with radioState := radioState }).requestUnsolicited .radioStateChanged .null) :=
    .one (fun _ h => by cases h) _
  rw [RilData.radioStateUpdate]
  split
  · exact .refl _
  · rename_i hne
    split
    · have hnil : s.requests = [] := (h rfl).resolve_left hne
      refine Extends.trans ?_ (radio_off_no_stale _)
      rw [RilData.radioUnavailable]
      have hreq : (({ s with radioState := RilRadioState.unavailable }).requestUnsolicited .radioStateChanged
        .null).requests = [] := hnil
      rw [hreq]
      exact hstate
    · exact hstate.trans (radio_off_no_stale _)
    · exact hstate

lemma radio_round_stale {r : RilRequest} (h0 : r.token ≠ 0) (s : RilData) :
    .staleRequest r.token :: .completed r.token .radioNotAvailable .null :: s.trace <:+
      (s.radioUnavailableRound r).trace := by
  rw [RilData.radioUnavailableRound, if_neg h0, RilData.requestComplete, if_neg h0, ← unregister_trace s r.token]
  exact List.suffix_refl _

/-- The record of the first request is unregistered after its completion has released it. -/
lemma radio_unavailable_stale {r : RilRequest} {rs : List RilRequest} (hr : s.requests = r :: rs) (h0 : r.token ≠ 0) :
    .staleRequest r.token :: .completed r.token .radioNotAvailable .null :: s.trace <:+ s.radioUnavailable.trace := by
  have hrest : (s.radioUnavailableRound r).trace <:+ (rs.foldl RilData.radioUnavailableRound
      (s.radioUnavailableRound r)).trace :=
    (Logged.radioRounds (P := fun _ => True) rs _ (fun _ => trivial) fun _ => trivial).suffix
  rw [RilData.radioUnavailable, hr]
  exact (radio_round_stale h0 s).trans hrest

lemma radio_update_stale (hs : Synced s) (hne : s.radioState ≠ .unavailable) {r : RilRequest} {rs : List RilRequest}
    (hr : s.requests = r :: rs) : ¬NoStale s (s.radioStateUpdate .unavailable) := by
  have h0 : r.token ≠ 0 := by
    refine fun h0 => hs.ne_zero (h0 ▸ ?_)
    rw [RilData.tokens, hr]
    exact List.mem_cons_self
  have hstate : s.trace <:+
      (({ s with radioState := .unavailable }).requestUnsolicited .radioStateChanged .null).trace :=
    List.suffix_cons _ _
  have hstale := radio_unavailable_stale
    (s := ({ s with radioState := .unavailable }).requestUnsolicited .radioStateChanged .null) hr h0
  refine not_no_stale (hstate.trans (List.suffix_cons _ _)) (hstale.trans ?_)
  rw [RilData.radioStateUpdate, if_neg hne]
  exact (Logged.radioOff (P := fun _ => True) _ fun _ _ => trivial).suffix

lemma radio_update_no_stale_iff (hs : Synced s) (radioState : RilRadioState) :
    NoStale s (s.radioStateUpdate radioState) ↔
      (radioState = .unavailable → s.radioState = .unavailable ∨ s.requests = []) := by
  constructor
  · rintro h rfl
    by_cases hne : s.radioState = .unavailable
    · exact .inl hne
    · right
      cases hr : s.requests with
      | nil => rfl
      | cons r rs => exact absurd h (radio_update_stale hs hne hr)
  · exact radio_update_clean

/-! ### The callback in a run -/

/-- The message is a generic answer that the callback takes. -/
def SecAnswer (message : IpcMessage) (s : RilData) : Prop :=
  message.command = .genPhoneRes ∧ ∃ data expect, IpcGenPhoneResData.read message.data = some data ∧
    s.expectFindAseq message.aseq = some expect ∧ data.command = expect.command.code ∧ expect.callback = some .ipcSec

lemma sec_answer_run {env : Env} (h : SecAnswer message s) : (dispatchMessage env message s).2 =
    (ipcSecCallback message (s.started env (.received message))).2.expectUnregister message.aseq := by
  obtain ⟨hc, data, expect, hd, he, hcode, hcallback⟩ := h
  have hfind : (s.started env (.received message)).expectFindAseq message.aseq = some expect := he
  have hrun : genPhoneResExpected message data expect = ipcSecCallback message := by
    rw [genPhoneResExpected, if_neg (not_not_intro hcode), hcallback]
    rfl
  have hs : ({ s with env := env } : RilData).log (.received message) = s.started env (.received message) := rfl
  rw [dispatchMessage, ipcFmtDispatch, hc, hs]
  simp only [ipcFmtHandler, ipcGenPhoneRes, hd, get_bind_apply, hfind, hrun]
  rfl

lemma sec_answer_trace {env : Env} (h : SecAnswer message s) : (dispatchMessage env message s).2.trace =
    (ipcSecCallback message (s.started env (.received message))).2.trace := by
  rw [sec_answer_run h]
  rfl

lemma sec_answer_step {d d' : Daemon} {env : Env} (h : SecAnswer message d.data)
    (hd : step d (.message env message) = some d') :
    d'.data.trace = (ipcSecCallback message (d.data.started env (.received message))).2.trace := by
  rw [← sec_answer_trace h]
  obtain ⟨-, -, ⟨data, hm, rfl⟩ | ⟨data, hm, rfl⟩⟩ := step_message.mp hd
  · rw [hm]
  · rw [hm]

lemma started_no_stale_iff {d d' : Daemon} {env : Env} (hs : Synced (d.data.started env (.received message)))
    (ht : d'.data.trace = (ipcSecCallback message (d.data.started env (.received message))).2.trace) :
    NoStale d.data d'.data ↔ ∀ r, secRequest message d.data = some r → r.request ∈ secBranches := by
  have hreceived : NoStale d.data (d.data.started env (.received message)) := .one (fun _ h => by cases h) _
  constructor
  · intro h r hr
    by_contra hq
    obtain ⟨error, response, hfalls⟩ := sec_callback_falls hs hr hq
    have hstale : .staleRequest r.token :: .completed r.token error response ::
        (d.data.started env (.received message)).trace <:+ d'.data.trace := (ht.trans hfalls) ▸ List.suffix_refl _
    exact not_no_stale (hreceived.suffix.trans (List.suffix_cons _ _)) hstale h
  · intro h
    rw [NoStale, ht]
    exact hreceived.trans (sec_callback_branches h)

/-- Both functions are right just when the answer is for a request that has a branch of its own and no request
is cut off. No answer for a PUK is right, and a step that takes an answer does what the callback does. -/
theorem records_unused_iff {d : Daemon} (h : Reachable d) (env : Env) (message : IpcMessage)
    (radioState : RilRadioState) :
    (NoStale (d.data.started env (.received message))
          (ipcSecCallback message (d.data.started env (.received message))).2 ∧
        PukNotified message (d.data.started env (.received message)) ∧
        NoStale d.data (d.data.radioStateUpdate radioState) ↔
      (∀ r, secRequest message d.data = some r → r.request ∈ secBranches) ∧
        (radioState = .unavailable → d.data.radioState = .unavailable ∨ d.data.requests = [])) ∧
      (PukNotified message (d.data.started env (.received message)) ↔
        ∀ r, secRequest message d.data = some r → r.request ≠ .enterSimPuk ∧ r.request ≠ .enterSimPuk2) ∧
      ∀ d', SecAnswer message d.data → step d (.message env message) = some d' →
        (NoStale d.data d'.data ↔ ∀ r, secRequest message d.data = some r → r.request ∈ secBranches) := by
  have hs := reachable_synced h
  have hstart : Synced (d.data.started env (.received message)) := hs.keeps (started_keeps _ env rfl)
  have hrequest : secRequest message (d.data.started env (.received message)) = secRequest message d.data := rfl
  have hpuk : PukNotified message (d.data.started env (.received message)) ↔ _ := puk_notified_iff hstart
  rw [hrequest] at hpuk
  refine ⟨?_, hpuk, fun d' hanswer hd => started_no_stale_iff hstart (sec_answer_step hanswer hd)⟩
  rw [radio_update_no_stale_iff hs, sec_callback_no_stale_iff hstart, hrequest, hpuk]
  constructor
  · rintro ⟨hbranch, -, hradio⟩
    exact ⟨hbranch, hradio⟩
  · rintro ⟨hbranch, hradio⟩
    refine ⟨hbranch, fun r hr => ?_, hradio⟩
    rw [← not_or]
    exact fun h => puk_no_branch h (hbranch r hr)

/-- A request that unlocks the SIM waits for its answer. -/
def enterRun (request : RilRequestCode) : List Action :=
  .message {} ⟨0x01, .pwrPhoneState, .resp, [ipcPwrPhoneStateResponseNormal]⟩ ::
    dispatchRun {} request
      (.strings [some (ascii ['1', '2', '3', '4', '5', '6', '7', '8']), some (ascii ['0', '0', '0', '0'])]) 1

/-- The modem accepts the PIN or the PUK. -/
def enterAnswer : IpcMessage := ⟨0x01, .genPhoneRes, .resp, [0x05, 0x01, 0x02, 0x00, 0x80]⟩

theorem records_unused_pin :
    NoStale ((runFrom {} (enterRun .enterSimPin)).data.started {} (.received enterAnswer))
      (ipcSecCallback enterAnswer
        ((runFrom {} (enterRun .enterSimPin)).data.started {} (.received enterAnswer))).2 := by
  have h : Reachable (runFrom {} (enterRun .enterSimPin)) := reachable_runFrom (by decide)
  have hbranch : (secRequest enterAnswer (runFrom {} (enterRun .enterSimPin)).data).all
      (fun r => decide (r.request ∈ secBranches)) = true := by decide
  refine ((records_unused_iff h {} enterAnswer .off).1.mpr ⟨?_, ?_⟩).1
  · intro r hr
    rw [hr, Option.all_some] at hbranch
    exact of_decide_eq_true hbranch
  · intro hoff
    cases hoff

/-- The PUK is accepted, the record of its request is read after its release and nothing is notified. -/
theorem records_used : ∃ d d' : Daemon, Reachable d ∧ step d (.message {} enterAnswer) = some d' ∧
    (∃ r, secRequest enterAnswer d.data = some r ∧ r.request = .enterSimPuk) ∧ ¬NoStale d.data d'.data ∧
    .unsolicited .simStatusChanged .null ∉ d'.data.trace ∧
    ¬NoStale d.data (d.data.radioStateUpdate .unavailable) := by
  have h : Reachable (runFrom {} (enterRun .enterSimPuk)) := reachable_runFrom (by decide)
  have htrace : (step (runFrom {} (enterRun .enterSimPuk)) (.message {} enterAnswer)).map (·.data.trace) =
      some ([.staleRequest 1, .completed 1 .success (.int (-1)), .received enterAnswer] ++
        (runFrom {} (enterRun .enterSimPuk)).data.trace) := by decide
  obtain ⟨d', hd', ht⟩ := Option.map_eq_some_iff.mp htrace
  have hrequest : (secRequest enterAnswer (runFrom {} (enterRun .enterSimPuk)).data).map (·.request) =
      some .enterSimPuk := by decide
  have hsilent : .unsolicited .simStatusChanged .null ∉ d'.data.trace := by
    rw [ht]
    decide
  refine ⟨_, d', h, hd', Option.map_eq_some_iff.mp hrequest, ?_, hsilent, ?_⟩
  · rw [NoStale, ht, Extends.append_iff]
    exact fun hnew => hnew _ List.mem_cons_self 1 rfl
  · rw [radio_update_no_stale_iff (reachable_synced h)]
    exact fun hcut => absurd (hcut rfl) (by decide)

end Ril.Samsung
