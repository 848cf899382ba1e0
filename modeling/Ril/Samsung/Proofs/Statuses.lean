import Ril.Samsung.Proofs.Calm

/-! The statuses that the steps give to the requests. -/

namespace Ril.Samsung

open Ril.Ipc Ril.Lib

/-- The handler of the request takes it. -/
def HandledBy (env : Env) (r : RilRequest) (s : RilData) : Prop :=
  ∃ handler, rilRequestHandler r.request = some handler ∧
    (handler r.data r.token (s.started env (.dispatched r.token))).1 = .handled

/-- Where a request that is registered after a step has its status from -/
inductive StatusFrom (d : Daemon) (a : Action) (r' : RilRequest) : Prop
  | kept (old : r' ∈ d.data.requests)
  | pending (status : r'.status = .pending)
  | taken (env : Env) (r : RilRequest) (dispatched : a = .loopDispatch env)
      (found : d.data.requestFindStatus .pending = some r) (handled : HandledBy env r d.data)
      (status : r' = { r with status := .handled })
  | putOff (status : r'.status = .unhandled)

section

variable {env : Env} {r r' : RilRequest} {s t : RilData}

lemma set_status_cases {status : RilRequestStatus} (hn : s.tokens.Nodup) (hr : r ∈ s.requests)
    (ht : t.requests = s.requests) (hm : r' ∈ (t.requestSetStatus r.token status).requests) :
    r' ∈ s.requests ∨ r' = { r with status := status } := by
  obtain ⟨x, hx, rfl⟩ := List.mem_map.mp hm
  rw [ht] at hx
  by_cases hk : x.token = r.token
  · obtain rfl := List.inj_on_of_nodup_map hn hx hr hk
    exact .inr (if_pos (beq_self_eq_true _))
  · have hne : (x.token == r.token) = false := beq_false_of_ne hk
    simp [hne, hx]

lemma dispatch_statuses (hn : s.tokens.Nodup) (hr : r ∈ s.requests) (hr' : r' ∈ (dispatchRequest env r s).requests) :
    r' ∈ s.requests ∨ (HandledBy env r s ∧ r' = { r with status := .handled }) ∨ r'.status = .unhandled := by
  cases hh : rilRequestHandler r.request with
  | none =>
    have he : dispatchRequest env r s = (s.started env (.dispatched r.token)).requestComplete r.token
        .requestNotSupported .null := by
      simp only [dispatchRequest, rilRequestDispatch, hh]
      rfl
    rw [he, RilData.requestComplete] at hr'
    split at hr'
    · exact .inl hr'
    · exact .inl (mem_of_unregister (s := s.started env (.dispatched r.token)) hr')
  | some handler =>
    have hspec := request_handler_spec r.data r.token hh (s.started env (.dispatched r.token))
    rcases hres : handler r.data r.token (s.started env (.dispatched r.token)) with ⟨status, t⟩
    rw [hres] at hspec
    rw [dispatch_result hh hres] at hr'
    rcases hspec with ⟨rfl, rfl, -⟩ | ⟨rfl, hp⟩ | ⟨rfl, s', error, response, hp, rfl⟩
    · rcases set_status_cases hn hr rfl hr' with hr' | rfl
      · exact .inl hr'
      · exact .inr (.inr rfl)
    · have hreq : t.requests = s.requests := (Path.frame (f := RilData.requests) hp fun _ _ h => h.requests).trans rfl
      have hret : (handler r.data r.token (s.started env (.dispatched r.token))).1 = .handled := by rw [hres]
      exact (set_status_cases hn hr hreq hr').imp_right fun he => .inl ⟨⟨handler, hh, hret⟩, he⟩
    · have hreq : s'.requests = s.requests :=
        (Path.frame (f := RilData.requests) hp fun _ _ h => h.requests).trans rfl
      rw [← hreq]
      simp only [RilData.requestComplete] at hr'
      split at hr'
      · exact .inl hr'
      · exact .inl (mem_of_unregister hr')

end

section

variable {d d' : Daemon} {a : Action} {s : RilData} {op : Op}

/-- Only the dispatch of a request sets a status. -/
lemma step_op_sets_none (h : StepOp d a s op) (hd : ∀ env, a ≠ .loopDispatch env) (token : RilToken)
    (status : RilRequestStatus) : op ≠ .setStatus token status := by
  rintro rfl
  cases a with
  | request request data token => cases h.2
  | loopDispatch env => exact hd env rfl
  | message env message =>
    rcases h with h | h | h
    · cases h
    · exact h.elim
    · cases h
  | clientError | clientReopen closed opened => simp [StepOp] at h
  | srs env message => simp [StepOp] at h
  | _ => cases h

lemma step_statuses (hn : d.data.tokens.Nodup) (hstep : step d a = some d') :
    ∀ r' ∈ d'.data.requests, StatusFrom d a r' := by
  intro r' hr'
  by_cases hd : ∃ env, a = .loopDispatch env
  · obtain ⟨env, rfl⟩ := hd
    obtain ⟨-, r, hr, rfl⟩ := step_loop_dispatch.mp hstep
    rcases dispatch_statuses hn (List.mem_of_find?_eq_some hr) hr' with h | ⟨hh, he⟩ | h
    · exact .kept h
    · exact .taken env r rfl hr hh he
    · exact .putOff h
  · have hp := step_path hstep
    have hall : r' ∈ d.data.requests ∨ r'.status = .pending := by
      revert hr' r'
      generalize d'.data = t at hp
      induction hp with
      | refl => exact fun r' hr' => .inl hr'
      | tail _ ho ih =>
        obtain ⟨op, hop, rfl⟩ := ho
        intro r' hr'
        rcases Calm.op_requests (step_op_sets_none hop fun env ha => hd ⟨env, ha⟩) _ r' hr' with hr' | ⟨hp, -⟩
        · exact ih r' hr'
        · exact .inr hp
    exact hall.elim .kept .pending

end

/-! ### The handlers that wait for others -/

/-- A handler that takes its request has found none of these handled. -/
def WaitsFor (requests : List RilRequestCode) (m : RilM RilRequestStatus) : Prop :=
  ∀ s, (m s).1 = .handled → ∀ request ∈ requests, s.requestFindRequestStatus request .handled = none

namespace WaitsFor

variable {requests : List RilRequestCode} {m : RilM RilRequestStatus}

lemma nil (m : RilM RilRequestStatus) : WaitsFor [] m := by simp [WaitsFor]

lemma completeRequest (token : RilToken) (error : RilErrno) (response : RilResponse) :
    WaitsFor requests (completeRequest token error response) := fun _ h => nomatch h

lemma failRequest (token : RilToken) : WaitsFor requests (failRequest token) := .completeRequest token _ _

lemma read {f : RilData → RilM RilRequestStatus} (h : ∀ s, WaitsFor requests (f s)) : WaitsFor requests (get >>= f) :=
  fun s => h s s

lemma whenRadioState (radioState : RilRadioState) (h : WaitsFor requests m) :
    WaitsFor requests (whenRadioState radioState m) := by
  intro s hs
  rw [whenRadioState_apply] at hs
  split at hs
  · exact h s hs
  · cases hs

lemma whenNoneHandled (requests : List RilRequestCode) (m : RilM RilRequestStatus) :
    WaitsFor requests (whenNoneHandled requests m) := by
  intro s hs request hq
  rw [whenNoneHandled_apply] at hs
  split at hs
  · cases hs
  · rename_i hnone
    simpa using fun hsome => hnone (List.any_eq_true.mpr ⟨request, hq, hsome⟩)

end WaitsFor

section

variable (data : RilValue) (token : RilToken)

lemma radio_power_waits : WaitsFor [.radioPower] (rilRequestRadioPower data token) := by
  rw [rilRequestRadioPower.eq_def]
  split
  · exact .whenNoneHandled _ _
  · exact .failRequest token

lemma dtmf_waits : WaitsFor [.dtmf, .dtmfStart, .dtmfStop] (rilRequestDtmf data token) := by
  rw [rilRequestDtmf.eq_def]
  split
  · exact .whenRadioState _ (.whenNoneHandled _ _)
  · exact .failRequest token

lemma dtmf_start_waits : WaitsFor [.dtmf, .dtmfStart, .dtmfStop] (rilRequestDtmfStart data token) := by
  rw [rilRequestDtmfStart.eq_def]
  split
  · exact .whenRadioState _ (.whenNoneHandled _ _)
  · exact .failRequest token

lemma send_sms_waits : WaitsFor [.sendSms] (rilRequestSendSms data token) := by
  rw [rilRequestSendSms.eq_def]
  split
  · exact .whenRadioState _ (.whenNoneHandled _ _)
  · exact .failRequest token

lemma set_facility_lock_waits : WaitsFor [.setFacilityLock] (rilRequestSetFacilityLock data token) := by
  rw [rilRequestSetFacilityLock.eq_def]
  split
  · exact .whenRadioState _ (.whenNoneHandled _ _)
  · exact .failRequest token

lemma enter_sim_pin_waits : WaitsFor [.enterSimPin] (rilRequestEnterSimPin data token) := by
  rw [rilRequestEnterSimPin.eq_def]
  split
  · exact .whenRadioState _ (.whenNoneHandled _ _)
  · exact .failRequest token

lemma enter_sim_pin_puk_waits (request : RilRequestCode) (type : UInt8) (pin1 pin2 : Option CString) :
    WaitsFor [request] (enterSimPinPuk request type pin1 pin2 token) :=
  .whenRadioState _ (.whenNoneHandled _ _)

lemma enter_sim_puk_waits : WaitsFor [.enterSimPuk] (rilRequestEnterSimPuk data token) := by
  rw [rilRequestEnterSimPuk.eq_def]
  split
  · exact enter_sim_pin_puk_waits token _ _ _ _
  · exact .failRequest token

lemma enter_sim_pin2_waits : WaitsFor [.enterSimPin2] (rilRequestEnterSimPin2 data token) := by
  rw [rilRequestEnterSimPin2.eq_def]
  split
  · exact enter_sim_pin_puk_waits token _ _ _ _
  · exact .failRequest token

lemma enter_sim_puk2_waits : WaitsFor [.enterSimPuk2] (rilRequestEnterSimPuk2 data token) := by
  rw [rilRequestEnterSimPuk2.eq_def]
  split
  · exact enter_sim_pin_puk_waits token _ _ _ _
  · exact .failRequest token

lemma change_sim_pin_waits : WaitsFor [.changeSimPin] (rilRequestChangeSimPin data token) := by
  rw [rilRequestChangeSimPin.eq_def]
  split
  · exact .whenNoneHandled _ _
  · exact .failRequest token

lemma change_sim_pin2_waits : WaitsFor [.changeSimPin] (rilRequestChangeSimPin2 data token) := by
  rw [rilRequestChangeSimPin2.eq_def]
  split
  · exact .whenNoneHandled _ _
  · exact .failRequest token

lemma sim_io_waits : WaitsFor [.simIo] (rilRequestSimIo data token) := by
  rw [rilRequestSimIo.eq_def]
  split
  · exact .whenRadioState _ (.whenNoneHandled _ _)
  · exact .failRequest token

lemma oem_hook_raw_waits : WaitsFor [.oemHookRaw] (rilRequestOemHookRaw data token) := by
  refine .read fun s => ?_
  split
  · exact .whenNoneHandled _ _
  · exact fun _ hs => nomatch hs

lemma setup_data_call_waits_for : WaitsFor [.setupDataCall] (rilRequestSetupDataCall data token) := by
  rw [rilRequestSetupDataCall.eq_def]
  split
  · refine .read fun s => ?_
    split
    · exact .whenNoneHandled _ _
    · exact .completeRequest token _ _
  · exact .failRequest token

lemma deactivate_data_call_waits_for : WaitsFor [.deactivateDataCall] (rilRequestDeactivateDataCall data token) := by
  rw [rilRequestDeactivateDataCall.eq_def]
  split
  · exact .whenRadioState _ (.whenNoneHandled _ _)
  · exact .failRequest token

end

lemma request_handler_waits {request : RilRequestCode} {handler : RilValue → RilToken → RilM RilRequestStatus}
    (h : rilRequestHandler request = some handler) (data : RilValue) (token : RilToken) :
    WaitsFor request.waiting.requests (handler data token) := by
  cases request with
  | radioPower => obtain rfl := Option.some.inj h; exact radio_power_waits data token
  | dtmf => obtain rfl := Option.some.inj h; exact dtmf_waits data token
  | dtmfStart => obtain rfl := Option.some.inj h; exact dtmf_start_waits data token
  | dtmfStop => obtain rfl := Option.some.inj h; exact .whenNoneHandled _ _
  | sendSms | sendSmsExpectMore => obtain rfl := Option.some.inj h; exact send_sms_waits data token
  | setFacilityLock => obtain rfl := Option.some.inj h; exact set_facility_lock_waits data token
  | enterSimPin => obtain rfl := Option.some.inj h; exact enter_sim_pin_waits data token
  | enterSimPuk => obtain rfl := Option.some.inj h; exact enter_sim_puk_waits data token
  | enterSimPin2 => obtain rfl := Option.some.inj h; exact enter_sim_pin2_waits data token
  | enterSimPuk2 => obtain rfl := Option.some.inj h; exact enter_sim_puk2_waits data token
  | changeSimPin => obtain rfl := Option.some.inj h; exact change_sim_pin_waits data token
  | changeSimPin2 => obtain rfl := Option.some.inj h; exact change_sim_pin2_waits data token
  | simIo => obtain rfl := Option.some.inj h; exact sim_io_waits data token
  | oemHookRaw => obtain rfl := Option.some.inj h; exact oem_hook_raw_waits data token
  | setupDataCall => obtain rfl := Option.some.inj h; exact setup_data_call_waits_for data token
  | deactivateDataCall => obtain rfl := Option.some.inj h; exact deactivate_data_call_waits_for data token
  | getSimStatus | operator | queryAvailableNetworks | voiceRegistrationState | dataRegistrationState
  | basebandVersion | getImsi | getImei | getImeisv =>
    obtain rfl := Option.some.inj h
    exact .whenRadioState _ (.whenNoneHandled _ _)
  | _ => exact .nil _

lemma HandledBy.free {env : Env} {r : RilRequest} {s : RilData} (h : HandledBy env r s) {request : RilRequestCode}
    (hq : request ∈ r.request.waiting.requests) : s.requestFindRequestStatus request .handled = none := by
  obtain ⟨handler, hh, hs⟩ := h
  exact request_handler_waits hh r.data r.token _ hs request hq

end Ril.Samsung
