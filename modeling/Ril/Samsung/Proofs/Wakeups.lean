import Ril.Samsung.Spec.Views
import Ril.Samsung.Spec.Events

/-! The request loop is woken up when there is something to do. -/

namespace Ril.Samsung

open Ril.Ipc Ril.Lib

namespace Daemon

/-- The loop has a signal to take, is owed one, or is about to look at the requests. -/
def armed (d : Daemon) : Prop := d.data.loopSignal = true ∨ d.owed ≠ 0 ∨ d.loop = .woken

/-- The actions after which the radio may be off. -/
def turnsOff (d : Daemon) : Action → Bool
  | .message _ message => messageOff message
  | .clientReopen closed opened => closed && opened && d.data.fmt.failures == 1
  | .srs _ (.testSetRadioState state) => RilRadioState.ofCode state == .off
  | _ => false

end Daemon

/-- A request is blocked, also without the request of a token. -/
def Waiting.blocksWithout (w : Waiting) (token : RilToken) (s : RilData) : Prop :=
  s.radioStateCheck w.radioState = false ∨
    ∃ r ∈ s.requests, r.token ≠ token ∧ r.request ∈ w.requests ∧ r.status = .handled

/-- No request that is put off loses the one it waits for by a cancellation, and none waits for
the radio to come back, unless the loop is woken up anyway. -/
def wakes (d : Daemon) : Action → Prop
  | .cancel token => d.data.radioStateCheck .off = true → ¬d.armed → ∀ r ∈ d.data.requests,
      r.token ≠ token → r.status = .unhandled → r.request.waiting.blocksWithout token d.data
  | a => d.turnsOff a = true → d.data.radioState = .unavailable → ¬d.armed → d.data.requests = []

/-- Nothing is left to dispatch but what the loop is still dispatching. -/
def Waits (loop : LoopState) (s : RilData) : Prop :=
  ∀ r ∈ s.requests, (r.status = .pending → loop = .dispatching) ∧
    (r.status = .unhandled → r.request.waiting.blocks s)

def Awake (d : Daemon) : Prop := d.data.radioStateCheck .off = true → d.armed ∨ Waits d.loop d.data

section

variable {s t : RilData} {w : Waiting}

lemma find_handled {request : RilRequestCode} : (s.requestFindRequestStatus request .handled).isSome = true ↔
    ∃ r ∈ s.requests, r.request = request ∧ r.status = .handled := by
  simp [RilData.requestFindRequestStatus]

lemma blocks_iff : w.blocks s ↔ s.radioStateCheck w.radioState = false ∨
    ∃ r ∈ s.requests, r.request ∈ w.requests ∧ r.status = .handled := by
  refine or_congr_right ?_
  constructor
  · rintro ⟨request, hw, h⟩
    obtain ⟨r, hr, rfl, hs⟩ := find_handled.mp h
    exact ⟨r, hr, hw, hs⟩
  · rintro ⟨r, hr, hw, hs⟩
    exact ⟨r.request, hw, find_handled.mpr ⟨r, hr, rfl, hs⟩⟩

lemma radio_check_mono {radioState : RilRadioState} (h : t.radioState.index ≤ s.radioState.index)
    (hs : s.radioStateCheck radioState = false) : t.radioStateCheck radioState = false := by
  simp only [RilData.radioStateCheck, decide_eq_false_iff_not, Nat.not_le] at hs ⊢
  omega

lemma Waiting.blocks.mono (hb : w.blocks s) (hr : t.radioState.index ≤ s.radioState.index)
    (hh : ∀ r ∈ s.requests, r.status = .handled → ∃ r' ∈ t.requests, r'.request = r.request ∧ r'.status = .handled) :
    w.blocks t := by
  rw [blocks_iff] at hb ⊢
  rcases hb with hb | ⟨r, hm, hw, hs⟩
  · exact .inl (radio_check_mono hr hb)
  · obtain ⟨r', hm', hq, hs'⟩ := hh r hm hs
    exact .inr ⟨r', hm', hq ▸ hw, hs'⟩

lemma radio_check_off : s.radioStateCheck .off = true ↔ s.radioState ≠ .unavailable := by
  cases h : s.radioState <;> simp [RilData.radioStateCheck, h, RilRadioState.index]

end

/-- The actions of the modem, of its client and of the SRS clients. -/
def Action.outside : Action → Bool
  | message _ _ | clientError | clientReopen _ _ | clientStop | srs _ _ => true
  | _ => false

lemma outside_op {d : Daemon} {a : Action} {s : RilData} {op : Op} (ha : a.outside = true) (h : StepOp d a s op) :
    (op.exec s).loopView = s.loopView ∨ (∃ token error response, op = .complete token error response) ∨
      ∃ radioState, op = .radio radioState ∧ (radioState = .off → d.turnsOff a = true) := by
  cases a with
  | message env message =>
    rcases h with rfl | h | rfl
    · exact .inl rfl
    · rcases h.cases with ⟨token, error, response, rfl, -⟩ | rfl | ⟨radioState, rfl, -, ho⟩ | h
      · exact .inr (.inl ⟨token, error, response, rfl⟩)
      · exact .inl rfl
      · exact .inr (.inr ⟨radioState, rfl, fun he => message_footprint_off (ho he)⟩)
      · exact .inl (h.loopView s)
    · exact .inl rfl
  | clientError =>
    rcases h with rfl | ⟨failures, rfl⟩
    · exact .inr (.inr ⟨_, rfl, fun h => by cases h⟩)
    · exact .inl rfl
  | clientReopen closed opened =>
    rcases h with ⟨rfl, rfl, rfl, hf⟩ | ⟨failures, available, rfl⟩
    · exact .inr (.inr ⟨_, rfl, fun _ => by simp [Daemon.turnsOff, hf]⟩)
    · exact .inl rfl
  | clientStop =>
    obtain rfl := h
    exact .inl rfl
  | srs env message =>
    rcases h with rfl | ⟨command, -, type, data, rfl⟩ | ⟨state, rfl, rfl⟩
    · exact .inl rfl
    · exact .inl (RilData.transmit_loopView s _ _ _ _ _)
    · exact .inr (.inr ⟨_, rfl, fun h => by simp [Daemon.turnsOff, h]⟩)
  | _ => cases ha

/-! ### One step -/

section

variable {d d' : Daemon} {s : RilData}

/-- What holds while an action of the outside runs. -/
structure Running (d : Daemon) (a : Action) (s : RilData) : Prop where
  awake : Awake { d with data := s }
  off : d.turnsOff a = true → s.radioState = .unavailable →
    ({ d with data := s } : Daemon).armed ∨ s.requests = []

lemma Running.of_view {a : Action} {t : RilData} (h : Running d a s) (ht : t.loopView = s.loopView) :
    Running d a t := by
  obtain ⟨hq, hr, hl⟩ : t.requests = s.requests ∧ t.radioState = s.radioState ∧ t.loopSignal = s.loopSignal := by
    simpa [RilData.loopView] using ht
  have harm (ha : ({ d with data := s } : Daemon).armed) : ({ d with data := t } : Daemon).armed :=
    ha.imp_left fun h => hl.trans h
  refine ⟨fun hc => ?_, fun ho hu => ?_⟩
  · have hc' : s.radioStateCheck .off = true := by
      rw [RilData.radioStateCheck, ← hr]
      exact hc
    refine (h.awake hc').imp harm fun hw r hm => ?_
    obtain ⟨hp, hb⟩ := hw r (hq ▸ hm)
    exact ⟨hp, fun hs => (hb hs).mono (hr ▸ Nat.le_refl _) fun x hx hxs => ⟨x, hq ▸ hx, rfl, hxs⟩⟩
  · exact (h.off ho (hr ▸ hu)).imp harm fun he => hq.trans he

lemma Running.of_signal {a : Action} (h : s.loopSignal = true) : Running d a s :=
  ⟨fun _ => .inl (.inl h), fun _ _ => .inl (.inl h)⟩

lemma Running.complete {a : Action} (h : Running d a s) (token : RilToken) (error : RilErrno)
    (response : RilResponse) : Running d a (s.requestComplete token error response) := by
  rw [RilData.requestComplete]
  split
  · exact h
  · exact .of_signal rfl

lemma Running.radio {a : Action} (h : Running d a s) {radioState : RilRadioState}
    (ho : radioState = .off → d.turnsOff a = true) : Running d a (s.radioStateUpdate radioState) := by
  rw [RilData.radioStateUpdate]
  split
  · exact h
  · rename_i hne
    split
    · have hv := RilData.radioOff_loopView (({ s with radioState := .unavailable }).requestUnsolicited
        .radioStateChanged .null).radioUnavailable
      refine Running.of_view ⟨fun hc => absurd ?_ (radio_check_off.mp hc), fun _ _ => .inr rfl⟩ hv
      exact RilData.radioRounds_radioState _ _
    · refine Running.of_view (s := ({ s with radioState := .off }).requestUnsolicited .radioStateChanged .null) ?_
        (RilData.radioOff_loopView _)
      refine ⟨fun _ => ?_, fun _ hu => by cases hu⟩
      by_cases hu : s.radioState = .unavailable
      · refine (h.off (ho rfl) hu).imp (fun ha => ha) fun he r hm => ?_
        have hm : r ∈ s.requests := hm
        rw [he] at hm
        exact absurd hm List.not_mem_nil
      · refine (h.awake (radio_check_off.mpr hu)).imp (fun ha => ha) fun hw r hm => ?_
        obtain ⟨hp, hb⟩ := hw r hm
        exact ⟨hp, fun hs => (hb hs).mono (of_decide_eq_true (radio_check_off.mpr hu))
          fun x hx hxs => ⟨x, hx, rfl, hxs⟩⟩
    · exact .of_signal rfl

lemma outside_loop {a : Action} (ha : a.outside = true) (hs : step d a = some d') :
    d'.loop = d.loop ∧ d'.owed = d.owed := by
  cases a with
  | message env message =>
    obtain ⟨-, -, ⟨data, -, rfl⟩ | ⟨data, -, rfl⟩⟩ := step_message.mp hs
    · exact ⟨rfl, rfl⟩
    · exact ⟨rfl, rfl⟩
  | clientError =>
    obtain ⟨-, -, rfl⟩ := step_client_error.mp hs
    exact ⟨rfl, rfl⟩
  | clientReopen closed opened =>
    obtain ⟨-, -, ⟨-, -, rfl⟩ | ⟨-, rfl⟩⟩ := step_client_reopen.mp hs
    · exact ⟨rfl, rfl⟩
    · exact ⟨rfl, rfl⟩
  | clientStop =>
    obtain ⟨-, -, rfl⟩ := step_client_stop.mp hs
    exact ⟨rfl, rfl⟩
  | srs env message =>
    obtain ⟨-, rfl⟩ := step_srs.mp hs
    exact ⟨rfl, rfl⟩
  | _ => cases ha

lemma awake_outside {a : Action} (ha : a.outside = true) (hw : wakes d a) (h : Awake d) (hs : step d a = some d') :
    Awake d' := by
  have h0 : Running d a d.data := by
    refine ⟨h, fun ho hu => ?_⟩
    by_cases harm : d.armed
    · exact .inl harm
    · cases a with
      | message | clientError | clientReopen | clientStop | srs => exact .inr (hw ho hu harm)
      | _ => cases ha
  have hrun : Running d a d'.data := by
    refine Path.invariant (step_path hs) h0 fun s op hi hop => ?_
    rcases outside_op ha hop with hv | ⟨token, error, response, rfl⟩ | ⟨radioState, rfl, ho⟩
    · exact hi.of_view hv
    · exact hi.complete token error response
    · exact hi.radio ho
  obtain ⟨hl, ho⟩ := outside_loop ha hs
  rw [Awake, Daemon.armed, hl, ho]
  exact hrun.awake

lemma tokens_inj (hn : s.tokens.Nodup) {r r' : RilRequest} (hr : r ∈ s.requests) (hr' : r' ∈ s.requests)
    (h : r.token = r'.token) : r = r' := List.inj_on_of_nodup_map hn hr hr' h

lemma blocks_setStatus (hn : s.tokens.Nodup) {r : RilRequest} (hr : r ∈ s.requests) (hp : r.status ≠ .handled)
    {status : RilRequestStatus} {w : Waiting} (hb : w.blocks s) : w.blocks (s.requestSetStatus r.token status) := by
  refine hb.mono (Nat.le_refl _) fun x hx hxs => ⟨x, ?_, rfl, hxs⟩
  have hk : (x.token == r.token) = false := by
    rw [beq_eq_false_iff_ne]
    intro hk
    exact hp (tokens_inj hn hx hr hk ▸ hxs)
  exact List.mem_map.mpr ⟨x, hx, by rw [if_neg (by simp [hk])]⟩

lemma awake_dispatch (hs : Synced d.data) (h : Awake d) (hl : d.loop = .dispatching) (env : Env) {r : RilRequest}
    (hr : r ∈ d.data.requests) (hp : r.status = .pending) :
    Awake { d with data := dispatchRequest env r d.data } := by
  have hph : r.status ≠ .handled := by
    rw [hp]
    decide
  -- what another request waits for is not taken away
  have hothers {u : RilData} {status : RilRequestStatus} (hv : u.loopView = d.data.loopView)
      (hnew : status = .unhandled → r.request.waiting.blocks d.data) :
      Awake { d with data := u.requestSetStatus r.token status } := by
    obtain ⟨hq, hrs, hsig⟩ : u.requests = d.data.requests ∧ u.radioState = d.data.radioState ∧
        u.loopSignal = d.data.loopSignal := by simpa [RilData.loopView] using hv
    have hn : u.tokens.Nodup := by
      rw [RilData.tokens, hq]
      exact hs.nodup
    have hblocks {w : Waiting} (hb : w.blocks d.data) : w.blocks (u.requestSetStatus r.token status) :=
      blocks_setStatus hn (hq ▸ hr) hph
        (hb.mono (hrs ▸ Nat.le_refl _) fun x hx hxs => ⟨x, hq ▸ hx, rfl, hxs⟩)
    intro hc
    have hc' : d.data.radioStateCheck .off = true := by
      rw [RilData.radioStateCheck, ← hrs]
      exact hc
    refine (h hc').imp (fun harm => harm.imp_left fun h => hsig.trans h) fun hw r' hm => ?_
    refine ⟨fun _ => hl, fun hst => ?_⟩
    obtain ⟨x, hx, rfl⟩ := List.mem_map.mp hm
    rw [hq] at hx
    by_cases hk : x.token = r.token
    · obtain rfl := tokens_inj hs.nodup hx hr hk
      rw [if_pos (beq_self_eq_true _)] at hst ⊢
      exact hblocks (hnew hst)
    · rw [if_neg (by simpa using hk)] at hst ⊢
      exact hblocks ((hw x hx).2 hst)
  rcases dispatch_cases env r d.data with ⟨he, hb⟩ | ⟨u, hpath, he⟩ | ⟨u, error, response, hpath, he⟩
  · rw [he]
    exact hothers rfl fun _ => hb
  · have hv : u.loopView = (d.data.started env (.dispatched r.token)).loopView :=
      Path.frame hpath fun s op (h : RequestOp _ _ _ s op) => h.loopView
    rw [he]
    exact hothers hv fun h => by cases h
  · have h0 : r.token ≠ 0 := fun h0 => hs.ne_zero (h0 ▸ List.mem_map_of_mem hr)
    rw [he, RilData.requestComplete, if_neg h0]
    exact fun _ => .inl (.inl rfl)

lemma awake_cancel (hs : Synced d.data) (h : Awake d) {token : RilToken} (hw : wakes d (.cancel token)) : Awake { d with data := rilOnCancel token d.data } := by
  cases hf : d.data.requestFindToken token with
  | none =>
    rw [rilOnCancel, hf]
    exact h
  | some r =>
    have he : rilOnCancel token d.data = (d.data.requestUnregister token).log (.cancelled token) := by
      rw [rilOnCancel, hf]
    have hrs : (d.data.requestUnregister token).radioState = d.data.radioState :=
      RilData.requestUnregister_radioState _ _
    have hsig : (d.data.requestUnregister token).loopSignal = d.data.loopSignal := by
      simp only [RilData.requestUnregister, hf]
      rfl
    have hmem {x : RilRequest} := mem_unregister hs.nodup hf (x := x)
    rw [he]
    intro hc
    have hc' : d.data.radioStateCheck .off = true := by
      rw [RilData.radioStateCheck, ← hrs]
      exact hc
    by_cases harm : d.armed
    · exact .inl (harm.imp_left fun h => hsig.trans h)
    · refine .inr fun x hx => ?_
      obtain ⟨hx, hk⟩ := hmem.mp hx
      obtain ⟨hp, -⟩ := (h hc').resolve_left harm x hx
      refine ⟨hp, fun hst => ?_⟩
      rw [blocks_iff]
      rcases hw hc' harm x hx hk hst with hb | ⟨y, hy, hky, hq, hyh⟩
      · refine .inl (radio_check_mono (s := d.data) ?_ hb)
        exact Nat.le_of_eq (congrArg RilRadioState.index hrs)
      · exact .inr ⟨y, hmem.mpr ⟨hy, hky⟩, hq, hyh⟩

lemma awake_step (hs : Synced d.data) {a : Action} (hw : wakes d a) (h : Awake d) (hd : step d a = some d') :
    Awake d' := by
  cases a with
  | request request data token =>
    obtain ⟨-, rfl⟩ := step_request.mp hd
    exact fun _ => .inl (.inr (.inl (Nat.succ_ne_zero _)))
  | requestSignal =>
    obtain ⟨-, rfl⟩ := step_request_signal.mp hd
    exact fun _ => .inl (.inl rfl)
  | cancel token =>
    obtain ⟨-, rfl⟩ := step_cancel.mp hd
    exact awake_cancel hs h hw
  | loopWake =>
    obtain ⟨-, rfl⟩ := step_loop_wake.mp hd
    exact fun _ => .inl (.inr (.inr rfl))
  | loopStart =>
    obtain ⟨-, ⟨-, rfl⟩ | ⟨hc, rfl⟩⟩ := step_loop_start.mp hd
    · intro _
      right
      intro r hm
      obtain ⟨x, -, rfl⟩ := List.mem_map.mp hm
      refine ⟨fun _ => rfl, fun hst => ?_⟩
      split at hst
      · cases hst
      · exact absurd hst ‹_›
    · exact fun hc' => absurd (hc.symm.trans hc') Bool.false_ne_true
  | loopDispatch env =>
    obtain ⟨hl, r, hr, rfl⟩ := step_loop_dispatch.mp hd
    exact awake_dispatch hs h hl env (List.mem_of_find?_eq_some hr) (by simpa using List.find?_some hr)
  | loopEnd =>
    obtain ⟨hl, hp, rfl⟩ := step_loop_end.mp hd
    intro hc
    refine (h hc).imp (fun harm => ?_) fun hw r hm => ⟨fun hst => ?_, (hw r hm).2⟩
    · refine harm.imp_right fun harm => .inl (harm.resolve_right ?_)
      rw [hl]
      decide
    · exact absurd (beq_iff_eq.mpr hst) (List.find?_eq_none.mp hp r hm)
  | message | clientError | clientReopen | clientStop | srs => exact awake_outside rfl hw h hd

end

/-- While the loop is parked without a signal, nothing is pending and all that is put off is blocked. -/
theorem no_lost_wakeup {d : Daemon} (h : Reaches step (fun d a => fresh d a ∧ wakes d a) {} d)
    (hl : d.loop = .parked) (hs : d.data.loopSignal = false) (ho : d.owed = 0)
    (hr : d.data.radioStateCheck .off = true) :
    ∀ r ∈ d.data.requests, r.status ≠ .pending ∧ (r.status = .unhandled → r.request.waiting.blocks d.data) := by
  have hawake : Awake d := h.invariant (fun hc => by cases hc) fun d a d' hr hi hok hd =>
    awake_step (reachable_synced (hr.mono fun _ _ h => h.1)) hok.2 hi hd
  intro r hm
  rcases hawake hr with harm | hw
  · simp [Daemon.armed, hl, hs, ho] at harm
  · obtain ⟨hp, hb⟩ := hw r hm
    refine ⟨fun hst => ?_, hb⟩
    rw [hl] at hp
    cases hp hst

/-- A condition on the steps that is enough and can be decided. -/
def wakesCheck (d : Daemon) : Action → Bool
  | .cancel _ => false
  | a => !d.turnsOff a || d.data.requests.isEmpty

lemma wakes_of_check {d : Daemon} {a : Action} (h : wakesCheck d a = true) : wakes d a := by
  cases a with
  | cancel token => cases h
  | _ =>
    intro ho _ _
    simpa [wakesCheck, ho] using h

/-- The second request waits for the first. -/
def waitingRun : List Action := [
  .message {} ⟨0x00, .pwrPhonePwrUp, .noti, []⟩,
  .request .radioPower (.ints [1]) 1, .requestSignal, .loopWake, .loopStart, .loopDispatch {}, .loopEnd,
  .request .radioPower (.ints [0]) 2, .requestSignal, .loopWake, .loopStart, .loopDispatch {}, .loopEnd]

theorem no_lost_wakeup_waiting :
    RilRequestCode.radioPower.waiting.blocks (runFrom {} waitingRun).data :=
  have hr : runs (fun d a => freshCheck d a && wakesCheck d a) {} waitingRun = true := by decide
  ((no_lost_wakeup (reaches_runFrom hr fun _ _ h =>
      ⟨fresh_of_check (Bool.and_eq_true_iff.mp h).1, wakes_of_check (Bool.and_eq_true_iff.mp h).2⟩)
    (by decide) (by decide) (by decide) (by decide))
    ⟨.radioPower, .ints [0], 2, .unhandled⟩ (by decide)).2 rfl

/-- The request that another one waits for is cancelled; a request waits for the radio, and its signal is
taken before the radio is back. -/
theorem no_lost_wakeup_fails :
    (∃ d, Reachable d ∧ d.loop = .parked ∧ d.data.loopSignal = false ∧ d.owed = 0 ∧
      d.data.radioStateCheck .off = true ∧
      ∃ r ∈ d.data.requests, r.status = .unhandled ∧ ¬r.request.waiting.blocks d.data) ∧
    ∃ d, Reachable d ∧ d.loop = .parked ∧ d.data.loopSignal = false ∧ d.owed = 0 ∧
      d.data.radioStateCheck .off = true ∧ ∃ r ∈ d.data.requests, r.status = .pending := by
  constructor
  · refine ⟨runFrom {} (waitingRun ++ [.cancel 1]), reachable_runFrom (by decide), ?_⟩
    rw [show (runFrom {} (waitingRun ++ [.cancel 1])).data.requests = [⟨.radioPower, .ints [0], 2, .unhandled⟩] by decide]
    refine ⟨by decide, by decide, by decide, by decide, _, List.mem_singleton_self _, rfl, ?_⟩
    rw [blocks_iff]
    decide
  · refine ⟨runFrom {} [.request .setMute (.ints [1]) 1, .requestSignal, .loopWake, .loopStart,
      .message {} ⟨0x00, .pwrPhonePwrUp, .noti, []⟩], reachable_runFrom (by decide), ?_⟩
    decide

end Ril.Samsung
