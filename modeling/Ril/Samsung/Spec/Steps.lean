import Ril.Samsung.Spec.Messages

/-! The steps of the daemon as sequences of operations. -/

namespace Ril.Samsung

open Ril.Ipc Ril.Lib

/-- The state in which the handler of a request or of a message is called. -/
def RilData.started (env : Env) (event : Event) (s : RilData) : RilData := (Op.start env (some event)).exec s

def srsCommands : List IpcCommand := [.sndSpkrVolumeCtrl, .sndAudioPathCtrl, .sndClockCtrl]

def DispatchOp (env : Env) (r : RilRequest) (s : RilData) (op : Op) : Prop :=
  op = .start env (some (.dispatched r.token)) ∨
    (∃ sent, RequestOp r.request.footprint r.token sent s op) ∨
    op = .setStatus r.token .handled ∨ op = .setStatus r.token .unhandled ∨
    ∃ error response, op = .complete r.token error response ∧ r.token ∈ s.requests.map (·.token)

/-- What an action may do to the data. -/
def StepOp (d : Daemon) : Action → RilData → Op → Prop
  | .request request data token, s, op => s = d.data ∧ op = .arrive request data token
  | .requestSignal, _, op => op = .signal true
  | .cancel token, _, op => op = .cancel token
  | .loopWake, _, op => op = .signal false
  | .loopStart, _, op => op = .retry
  | .loopDispatch env, s, op => ∃ r, d.data.requestFindStatus .pending = some r ∧ DispatchOp env r s op
  | .loopEnd, _, _ => False
  | .message env message, s, op =>
    op = .start env (some (.received message)) ∨ MessageOp (messageFootprint message d.data) message s op ∨
      op = .client 0 s.fmt.available
  | .clientError, s, op => op = .radio .unavailable ∨ ∃ failures, op = .client failures s.fmt.available
  | .clientReopen closed opened, _, op =>
    op = .radio .off ∧ closed = true ∧ opened = true ∧ d.data.fmt.failures = 1 ∨
      ∃ failures available, op = .client failures available
  | .clientStop, _, op => op = .clientDestroy
  | .srs env message, _, op =>
    op = .start env none ∨ (∃ command ∈ srsCommands, ∃ type data, op = .transmit .own none command type data) ∨
      ∃ state, message = .testSetRadioState state ∧ op = .radio (.ofCode state)

lemma dispatch_result {env : Env} {r : RilRequest} {s : RilData} {handler : RilValue → RilToken → RilM RilRequestStatus}
    {status : RilRequestStatus} {t : RilData} (hh : rilRequestHandler r.request = some handler)
    (hr : handler r.data r.token (s.started env (.dispatched r.token)) = (status, t)) :
    dispatchRequest env r s = match status with
      | .completed => t
      | .failed => t.requestUnregister r.token
      | status => t.requestSetStatus r.token status := by
  have hstart : ({ s with env := env } : RilData).log (.dispatched r.token) = s.started env (.dispatched r.token) := rfl
  rw [dispatchRequest, hstart]
  simp only [rilRequestDispatch, hh, bind_apply, hr]
  cases status <;> rfl

lemma dispatch_cases (env : Env) (r : RilRequest) (s : RilData) :
    (dispatchRequest env r s = (s.started env (.dispatched r.token)).requestSetStatus r.token .unhandled ∧
      r.request.waiting.blocks s) ∨
    (∃ s', RequestPath r.request.footprint r.token true (s.started env (.dispatched r.token)) s' ∧
      dispatchRequest env r s = s'.requestSetStatus r.token .handled) ∨
    (∃ s' error response,
      RequestPath r.request.footprint r.token false (s.started env (.dispatched r.token)) s' ∧
      dispatchRequest env r s = s'.requestComplete r.token error response) := by
  have hs : ({ s with env := env } : RilData).log (.dispatched r.token) = s.started env (.dispatched r.token) := rfl
  rw [dispatchRequest, hs]
  cases hh : rilRequestHandler r.request with
  | none =>
    right; right
    refine ⟨_, .requestNotSupported, .null, .refl, ?_⟩
    simp only [rilRequestDispatch, hh]
    rfl
  | some handler =>
    have h := request_handler_spec r.data r.token hh (s.started env (.dispatched r.token))
    simp only [rilRequestDispatch, hh, bind_apply]
    rcases h with ⟨hr, hs, hb⟩ | ⟨hr, hp⟩ | ⟨hr, s', error, response, hp, hs⟩
    · left
      refine ⟨?_, hb⟩
      rw [hr, hs]
      rfl
    · right; left
      refine ⟨_, hp, ?_⟩
      rw [hr]
      rfl
    · right; right
      refine ⟨s', error, response, hp, ?_⟩
      rw [hr, hs]
      rfl

lemma message_path (env : Env) (message : IpcMessage) (s : RilData) :
    MessagePath (messageFootprint message s) message (s.started env (.received message))
      (dispatchMessage env message s).2 := by
  have hs : ({ s with env := env } : RilData).log (.received message) = s.started env (.received message) := rfl
  have hF : messageFootprint message (s.started env (.received message)) = messageFootprint message s := rfl
  rw [dispatchMessage, hs, ipcFmtDispatch]
  cases h : ipcFmtHandler message.command with
  | none => exact .refl
  | some handler => exact hF ▸ message_handler_spec message h (s.started env (.received message))

lemma dispatch_path (env : Env) {r : RilRequest} {s : RilData} (hr : r ∈ s.requests) :
    Path Op.exec (DispatchOp env r) s (dispatchRequest env r s) := by
  have hstart : Path Op.exec (DispatchOp env r) s (s.started env (.dispatched r.token)) :=
    Path.single (Op.start env (some (.dispatched r.token))) (.inl rfl)
  have hpath {sent : Bool} {s' : RilData}
      (hp : RequestPath r.request.footprint r.token sent (s.started env (.dispatched r.token)) s') :
      Path Op.exec (DispatchOp env r) s s' :=
    hstart.trans <| Path.mono hp fun _ _ h => .inr (.inl ⟨sent, h⟩)
  rcases dispatch_cases env r s with ⟨h, -⟩ | ⟨s', hp, h⟩ | ⟨s', error, response, hp, h⟩
  · rw [h]
    exact hstart.tail ⟨.setStatus r.token .unhandled, .inr (.inr (.inr (.inl rfl))), rfl⟩
  · rw [h]
    exact (hpath hp).tail ⟨.setStatus r.token .handled, .inr (.inr (.inl rfl)), rfl⟩
  · have hm : r.token ∈ s'.requests.map (·.token) := by
      rw [Path.frame hp fun _ _ h => h.requests]
      exact List.mem_map_of_mem hr
    rw [h]
    exact (hpath hp).tail
      ⟨.complete r.token error response, .inr (.inr (.inr (.inr ⟨error, response, rfl, hm⟩))), rfl⟩

lemma srs_path (env : Env) (message : SrsMessage) (d : Daemon) :
    Path Op.exec (StepOp d (.srs env message)) d.data (srsDispatch message { d.data with env := env }).2 := by
  have hstart : Path Op.exec (StepOp d (.srs env message)) d.data { d.data with env := env } :=
    Path.single (Op.start env none) (.inl rfl)
  have hown {command : IpcCommand} (hc : command ∈ srsCommands) (type : IpcRequestType) (data : Bytes) :
      StepOp d (.srs env message) { d.data with env := env } (.transmit .own none command type data) :=
    .inr (.inl ⟨command, hc, type, data, rfl⟩)
  refine hstart.trans ?_
  cases message with
  | sndSetCallVolume type volume => exact Path.single _ (hown (by decide) _ _)
  | sndSetCallAudioPath path => exact Path.single _ (hown (by decide) _ _)
  | sndSetCallClockSync sync => exact Path.single _ (hown (by decide) _ _)
  | testSetRadioState state => exact Path.single (Op.radio (.ofCode state)) (.inr (.inr ⟨_, rfl, rfl⟩))

lemma client_reopen_path (d : Daemon) : Path Op.exec (StepOp d (.clientReopen true true)) d.data
    (clientOpen (clientClose d.data)) := by
  have hclose : Path Op.exec (StepOp d (.clientReopen true true)) d.data (clientClose d.data) :=
    Path.single (Op.client d.data.fmt.failures false) (.inr ⟨_, _, rfl⟩)
  have hopen (s : RilData) : Path Op.exec (StepOp d (.clientReopen true true)) s
      { s with fmt := { s.fmt with available := true } } :=
    Path.single (Op.client s.fmt.failures true) (.inr ⟨_, _, rfl⟩)
  rw [clientOpen]
  split
  · rename_i hf
    exact (hclose.trans (Path.single (Op.radio .off) (.inl ⟨rfl, rfl, rfl, hf⟩))).trans (hopen _)
  · exact hclose.trans (hopen _)

variable {d d' : Daemon}

lemma step_request {request : RilRequestCode} {data : RilValue} {token : RilToken} :
    step d (.request request data token) = some d' ↔ d.locked = false ∧
      { d with data := rilOnRequest request data token d.data, owed := d.owed + 1 } = d' := by
  simp [step]

lemma step_request_signal : step d .requestSignal = some d' ↔ d.owed ≠ 0 ∧
    { d with data := { d.data with loopSignal := true }, owed := d.owed - 1 } = d' := by
  simp [step]

lemma step_cancel {token : RilToken} : step d (.cancel token) = some d' ↔ d.locked = false ∧
    { d with data := rilOnCancel token d.data } = d' := by
  simp [step]

lemma step_loop_wake : step d .loopWake = some d' ↔ (d.loop = .parked ∧ d.data.loopSignal = true) ∧
    { d with data := { d.data with loopSignal := false }, loop := .woken } = d' := by
  simp [step]

lemma step_loop_start : step d .loopStart = some d' ↔ d.loop = .woken ∧
    ((d.data.radioStateCheck .off = true ∧
        { d with data := d.data.retryUnhandled, loop := .dispatching } = d') ∨
      (d.data.radioStateCheck .off = false ∧ { d with loop := .parked } = d')) := by
  cases h : d.data.radioStateCheck .off <;> simp [step, h]

lemma step_loop_dispatch {env : Env} : step d (.loopDispatch env) = some d' ↔
    d.loop = .dispatching ∧ ∃ r, d.data.requestFindStatus .pending = some r ∧
      { d with data := dispatchRequest env r d.data } = d' := by
  simp only [step]
  cases d.loop <;> cases d.data.requestFindStatus .pending <;> simp

lemma step_loop_end : step d .loopEnd = some d' ↔
    d.loop = .dispatching ∧ d.data.requestFindStatus .pending = none ∧ { d with loop := .parked } = d' := by
  simp only [step]
  cases d.loop <;> cases d.data.requestFindStatus .pending <;> simp

lemma step_message {env : Env} {message : IpcMessage} : step d (.message env message) = some d' ↔
    d.locked = false ∧ d.thread = .looping ∧
      ((∃ data, dispatchMessage env message d.data = (.failed, data) ∧
          { d with data := data, thread := .broken } = d') ∨
        ∃ data, dispatchMessage env message d.data = (.ok, data) ∧
          { d with data := { data with fmt := { data.fmt with failures := 0 } } } = d') := by
  rcases h : dispatchMessage env message d.data with ⟨rc, data⟩
  cases rc <;> simp [step, h, and_assoc]

lemma step_client_error : step d .clientError = some d' ↔
    d.locked = false ∧ (d.thread = .looping ∨ d.thread = .broken) ∧
      d.clientFailure (d.data.radioStateUpdate .unavailable) = d' := by
  simp [step]

lemma step_client_reopen {closed opened : Bool} : step d (.clientReopen closed opened) = some d' ↔
    d.locked = false ∧ d.thread = .failed ∧
      ((closed = true ∧ opened = true ∧
          { d with data := clientOpen (clientClose d.data), thread := .looping } = d') ∨
        ((closed && opened) = false ∧ d.clientFailure (clientClose d.data) = d')) := by
  cases closed <;> cases opened <;> simp [step, and_assoc]

lemma step_client_stop : step d .clientStop = some d' ↔ d.locked = false ∧ d.thread = .stopping ∧
    { d with data := clientDestroy d.data, thread := .stopped } = d' := by
  simp [step, and_assoc]

lemma step_srs {env : Env} {message : SrsMessage} : step d (.srs env message) = some d' ↔
    d.locked = false ∧ { d with data := (srsDispatch message { d.data with env := env }).2 } = d' := by
  simp [step]

lemma step_path {a : Action} (h : step d a = some d') : Path Op.exec (StepOp d a) d.data d'.data := by
  cases a with
  | request request data token =>
    obtain ⟨-, rfl⟩ := step_request.mp h
    exact Path.single (Op.arrive request data token) ⟨rfl, rfl⟩
  | requestSignal =>
    obtain ⟨-, rfl⟩ := step_request_signal.mp h
    exact Path.single (Op.signal true) rfl
  | cancel token =>
    obtain ⟨-, rfl⟩ := step_cancel.mp h
    exact Path.single (Op.cancel token) rfl
  | loopWake =>
    obtain ⟨-, rfl⟩ := step_loop_wake.mp h
    exact Path.single (Op.signal false) rfl
  | loopStart =>
    obtain ⟨-, ⟨-, rfl⟩ | ⟨-, rfl⟩⟩ := step_loop_start.mp h
    · exact Path.single Op.retry rfl
    · exact .refl
  | loopDispatch env =>
    obtain ⟨-, r, hr, rfl⟩ := step_loop_dispatch.mp h
    exact Path.mono (dispatch_path env (List.mem_of_find?_eq_some hr)) fun _ _ h => ⟨r, hr, h⟩
  | loopEnd =>
    obtain ⟨-, -, rfl⟩ := step_loop_end.mp h
    exact .refl
  | message env message =>
    have hstart : Path Op.exec (StepOp d (.message env message)) d.data
        (d.data.started env (.received message)) :=
      Path.single (Op.start env (some (.received message))) (.inl rfl)
    have hp : Path Op.exec (StepOp d (.message env message)) d.data (dispatchMessage env message d.data).2 :=
      hstart.trans <| Path.mono (message_path env message d.data) fun _ _ h => .inr (.inl h)
    obtain ⟨-, -, ⟨data, hm, rfl⟩ | ⟨data, hm, rfl⟩⟩ := step_message.mp h
    · rwa [hm] at hp
    · rw [hm] at hp
      exact hp.tail ⟨.client 0 data.fmt.available, .inr (.inr rfl), rfl⟩
  | clientError =>
    obtain ⟨-, -, rfl⟩ := step_client_error.mp h
    exact (Path.single (Op.radio .unavailable) (.inl rfl)).tail
      ⟨.client _ (d.data.radioStateUpdate .unavailable).fmt.available, .inr ⟨_, rfl⟩, rfl⟩
  | clientReopen closed opened =>
    obtain ⟨-, -, ⟨rfl, rfl, rfl⟩ | ⟨-, rfl⟩⟩ := step_client_reopen.mp h
    · exact client_reopen_path d
    · exact Path.single (Op.client (d.data.fmt.failures + 1) false) (.inr ⟨_, _, rfl⟩)
  | clientStop =>
    obtain ⟨-, -, rfl⟩ := step_client_stop.mp h
    exact Path.single Op.clientDestroy rfl
  | srs env message =>
    obtain ⟨-, rfl⟩ := step_srs.mp h
    exact srs_path env message d

end Ril.Samsung
