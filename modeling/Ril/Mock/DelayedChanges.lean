import Ril.Mock.CallControl

/-! The state changes that a dial queues, and the calls that they come to. -/

namespace Ril.Mock

open Lib

/-- How far a call that was dialed is; the other states are not on its way. -/
def CallState.progress : CallState → Option ℕ
  | dialing => some 0
  | alerting => some 1
  | active => some 2
  | holding | incoming | waiting => none

/-- A call goes forward, or stays, on its way from DIALING over ALERTING to ACTIVE. -/
def CallState.Precedes (state next : CallState) : Prop :=
  ∃ m n, state.progress = some m ∧ next.progress = some n ∧ m ≤ n

def RadioCommand.change? : RadioCommand → Option (ℕ × CallState)
  | callStateChange callIndex nextState => some (callIndex, nextState)
  | unsolCallStateChanged | unsolCallRing => none

namespace Radio

/-- The state changes that are queued -/
def changes (r : Radio) : List (ℕ × CallState) := r.queue.filterMap RadioCommand.change?

/-- The worker takes the changes of a call in their order. Anything else adds no call at an index that has a change
queued, and leaves the call there in its state, takes it away, or moves it not past the change. -/
def Undisturbed (r : Radio) : RadioRequest → Prop
  | .command (.callStateChange callIndex nextState) =>
    ∀ state, (callIndex, state) ∈ r.changes → nextState.Precedes state
  | q => ∀ i state, (i, state) ∈ r.changes → ∀ c', (r.handle q).radio.call i = some c' →
    ∃ c, r.call i = some c ∧ (c'.state = c.state ∨ c'.state.Precedes state)

variable {r r' : Radio} {i j : ℕ} {c : RilCall} {q : RadioRequest} {result : RadioResult}

/-! ### What the handlers queue -/

lemma walk_calls_queue {visit : ℕ → RilCall → Radio → Option Radio}
    (hv : ∀ i c r r', visit i c r = some r' → r'.queue = r.queue) (rounds : ℕ) :
    (walkCalls visit rounds i r).1.queue = r.queue := by
  induction rounds generalizing i r with
  | zero => rfl
  | succ rounds ih =>
    rw [walkCalls]
    split
    · split
      next => exact ih
      next c _ =>
        split
        next => rfl
        next r' hr' => exact ih.trans (hv _ _ _ _ hr')
    · rfl

lemma remove_call_queue (index : ℤ) (r : Radio) : (r.removeCall index).2.queue = r.queue := by
  unfold removeCall
  split
  next => rfl
  next =>
    dsimp only
    split <;> rfl

lemma add_call_queue (state : CallState) (number name : String) (r : Radio) :
    (r.addCall state number name).2.queue = r.queue := by
  unfold addCall
  split
  next =>
    dsimp only
    split
    next => rw [setCall]
    next => rfl
  next => rfl

lemma walk_request_queue {visit : ℕ → RilCall → Radio → Option Radio}
    (hv : ∀ i c r r', visit i c r = some r' → r'.queue = r.queue) :
    (walkRequest visit r).radio.queue = r.queue ∧ ∀ c ∈ (walkRequest visit r).queued, c.change? = none := by
  have hwalk : (walkCalls visit r.calls.length 0 r).1.queue = r.queue := walk_calls_queue hv _
  unfold walkRequest
  split
  next => exact ⟨rfl, by simp [RadioCommand.change?]⟩
  next =>
    split
    next r' hr' =>
      rw [hr'] at hwalk
      exact ⟨hwalk, by simp [RadioCommand.change?]⟩
    next r' hr' =>
      rw [hr'] at hwalk
      exact ⟨hwalk, nofun⟩

/-- What leaves the queue alone and queues no state change -/
structure Quiet (r : Radio) (result : RadioResult) : Prop where
  queue : result.radio.queue = r.queue
  queued : ∀ c ∈ result.queued, c.change? = none

lemma quiet_walk {visit : ℕ → RilCall → Radio → Option Radio}
    (hv : ∀ i c r r', visit i c r = some r' → r'.queue = r.queue) : Quiet r (walkRequest visit r) :=
  ⟨(walk_request_queue hv).1, (walk_request_queue hv).2⟩

lemma quiet_of (hq : result.radio.queue = r.queue) (hn : result.queued = [] ∨ result.queued = [.unsolCallStateChanged] ∨
    result.queued = [.unsolCallRing]) : Quiet r result := by
  refine ⟨hq, fun c hc => ?_⟩
  rcases hn with hn | hn | hn
  · rw [hn] at hc
    cases hc
  · rw [hn, List.mem_singleton] at hc
    rw [hc]
    rfl
  · rw [hn, List.mem_singleton] at hc
    rw [hc]
    rfl

lemma quiet_move (state nextState : CallState) : Quiet r (r.moveOnlyCall state nextState) := by
  unfold moveOnlyCall
  dsimp only
  split
  next => exact quiet_of rfl (.inl rfl)
  next =>
    split
    next => exact quiet_of rfl (.inl rfl)
    next =>
      split
      next => exact quiet_of rfl (.inl rfl)
      next =>
        split
        next => exact quiet_of rfl (.inl rfl)
        next => exact quiet_of rfl (.inr (.inl rfl))

lemma quiet_removed {index : ℤ} {p : Option RilCall × Radio} (h : r.removeCall index = p) : p.2.queue = r.queue := by
  rw [← h]
  exact remove_call_queue index r

lemma hang_up_quiet (connectionIndex : ℤ) : Quiet r (r.rilRequestHangUp connectionIndex) := by
  unfold rilRequestHangUp
  split
  next h => exact quiet_of (quiet_removed h) (.inl rfl)
  next h => exact quiet_of (quiet_removed h) (.inl rfl)

lemma hangup_waiting_quiet : Quiet r r.rilRequestHangupWaitingOrBackground := by
  refine quiet_walk fun i c r r' h => ?_
  split at h
  case h_4 => cases h
  all_goals
    rw [← Option.some.inj h]
    exact remove_call_queue _ _

lemma hangup_foreground_quiet : Quiet r r.rilRequestHangUpForegroundResumeBackground := by
  refine quiet_walk fun i c r r' h => ?_
  split at h
  next => exact Option.some.inj h ▸ remove_call_queue _ _
  next => exact Option.some.inj h ▸ rfl
  next => exact Option.some.inj h ▸ rfl
  next => cases h

lemma switch_quiet : Quiet r r.rilRequestSwitchWaitingOrHoldingAndActive := by
  unfold rilRequestSwitchWaitingOrHoldingAndActive
  split
  next => exact quiet_of rfl (.inl rfl)
  next =>
    refine quiet_walk fun i c r r' h => ?_
    split at h
    case h_4 => cases h
    all_goals exact Option.some.inj h ▸ rfl

lemma conference_quiet : Quiet r r.rilRequestConference := by
  unfold rilRequestConference
  split
  next => exact quiet_of rfl (.inl rfl)
  next =>
    split
    next => exact quiet_of rfl (.inl rfl)
    next =>
      refine quiet_walk fun i c r r' h => ?_
      split at h
      case h_3 => cases h
      all_goals exact Option.some.inj h ▸ rfl

lemma answer_quiet : Quiet r r.rilRequestAnswer := by
  unfold rilRequestAnswer
  split
  next => exact quiet_of rfl (.inl rfl)
  next =>
    split
    next => exact quiet_of rfl (.inl rfl)
    next =>
      split
      next => exact quiet_of rfl (.inl rfl)
      next =>
        split
        next => exact quiet_of rfl (.inl rfl)
        next => exact quiet_of (remove_call_queue _ _) (.inl rfl)

lemma separate_quiet (index : ℤ) : Quiet r (r.rilReqestSeparateConnection index) := by
  unfold rilReqestSeparateConnection
  split
  next => exact quiet_of rfl (.inl rfl)
  next =>
    split
    next => exact quiet_of rfl (.inl rfl)
    next =>
      split
      next => exact quiet_of rfl (.inl rfl)
      next =>
        refine quiet_walk fun i c r r' h => ?_
        split at h
        next =>
          split at h
          next => exact Option.some.inj h ▸ rfl
          next => cases h
        next => exact Option.some.inj h ▸ rfl

lemma start_incoming_quiet (phoneNumber : String) : Quiet r (r.ctrlServerCmdStartInComingCall phoneNumber) := by
  unfold ctrlServerCmdStartInComingCall
  split
  next => exact quiet_of rfl (.inl rfl)
  next => exact quiet_of (add_call_queue _ _ _ _) (.inr (.inr rfl))

lemma hangup_remote_quiet (connection failureCause : ℤ) :
    Quiet r (r.ctrlServerCmdHangupConnRemote connection failureCause) := by
  unfold ctrlServerCmdHangupConnRemote
  split
  next h => exact quiet_of (quiet_removed h) (.inl rfl)
  next h => exact quiet_of (quiet_removed h) (.inr (.inl rfl))

lemma add_dialing_quiet (phoneNumber : String) : Quiet r (r.ctrlServerCmdAddDialingCall phoneNumber) := by
  unfold ctrlServerCmdAddDialingCall
  split
  next => exact quiet_of (add_call_queue _ _ _ _) (.inl rfl)
  next => exact quiet_of rfl (.inl rfl)

lemma command_quiet (c : RadioCommand) : Quiet r (r.handle (.command c)) := by
  cases c with
  | unsolCallStateChanged => exact quiet_of rfl (.inl rfl)
  | callStateChange callIndex nextState =>
    unfold handle cmdCallStateChange
    dsimp only
    split
    next => exact quiet_of rfl (.inr (.inl rfl))
    next => exact quiet_of (remove_call_queue _ _) (.inr (.inl rfl))
  | unsolCallRing =>
    unfold handle cmdUnsolCallRing
    dsimp only
    split
    next => exact quiet_of rfl (.inl rfl)
    next => exact quiet_of rfl (.inr (.inr rfl))

/-- Only a dial queues state changes. -/
lemma handle_quiet (r : Radio) (hq : ∀ address, q ≠ .dial address) : Quiet r (r.handle q) := by
  cases q with
  | dial address => exact absurd rfl (hq address)
  | hangUp connectionIndex => exact hang_up_quiet connectionIndex
  | hangupWaitingOrBackground => exact hangup_waiting_quiet
  | hangUpForegroundResumeBackground => exact hangup_foreground_quiet
  | switchWaitingOrHoldingAndActive => exact switch_quiet
  | conference => exact conference_quiet
  | answer => exact answer_quiet
  | separateConnection index => exact separate_quiet index
  | startInComingCall phoneNumber => exact start_incoming_quiet phoneNumber
  | hangupConnRemote connection failureCause => exact hangup_remote_quiet connection failureCause
  | setCallTransitionFlag flag => exact quiet_of rfl (.inl rfl)
  | setCallAlert => exact quiet_move _ _
  | setCallActive => exact quiet_move _ _
  | addDialingCall phoneNumber => exact add_dialing_quiet phoneNumber
  | command c => exact command_quiet c
  | other => exact quiet_of rfl (.inl rfl)

/-- What a dial does to the calls, and the changes that it queues -/
lemma dial_changes (h : WellIndexed r) (address : String) :
    (r.rilRequestDial address).radio.queue = r.queue ∧
      (((r.rilRequestDial address).radio.call = r.call ∧ (r.rilRequestDial address).queued = []) ∨
        ∃ i c, r.call i = none ∧ c.state = .dialing ∧
          (∀ j, (r.rilRequestDial address).radio.call j = if j = i then some c else r.call j) ∧
          ∀ x ∈ (r.rilRequestDial address).queued.filterMap RadioCommand.change?,
            x.1 = i ∧ CallState.dialing.Precedes x.2) := by
  unfold rilRequestDial
  by_cases hn : r.numberActiveCalls < maxNumberActiveCalls
  · obtain ⟨i, hi⟩ := exists_free_index h hn
    have hfree : r.call i = none := by simpa using List.find?_some hi
    have hi' : ((List.range' 1 maxNumberActiveCalls).find? fun i =>
        (({ r with numberActiveCalls := r.numberActiveCalls + 1 } : Radio).call i).isNone) = some i := hi
    have hqueue := add_call_queue .dialing address "" r
    simp only [addCall, hn, if_true, hi'] at hqueue ⊢
    refine ⟨hqueue, .inr ⟨i, _, hfree, rfl, fun j => call_set_call, ?_⟩⟩
    intro x hx
    split at hx
    next =>
      obtain rfl : x = (i, .dialing) := by simpa [RadioCommand.change?] using hx
      exact ⟨rfl, 0, 0, rfl, rfl, Nat.le_refl 0⟩
    next =>
      simp only [List.filterMap_cons, RadioCommand.change?, List.filterMap_nil, List.mem_cons, List.not_mem_nil,
        or_false] at hx
      rcases hx with rfl | rfl | rfl
      · exact ⟨rfl, 0, 0, rfl, rfl, Nat.le_refl 0⟩
      · exact ⟨rfl, 0, 1, rfl, rfl, Nat.zero_le _⟩
      · exact ⟨rfl, 0, 2, rfl, rfl, Nat.zero_le _⟩
  · rw [add_call_full (Nat.le_of_not_lt hn)]
    exact ⟨rfl, .inl ⟨rfl, rfl⟩⟩

end Radio

open Radio

/-! ### Runs that know the dial of each change -/

/-- The radio with the steps in which the calls of the table were added, and the queued state changes with the step of
the dial that queued them -/
structure TracedRadio where
  radio : Radio := {}
  steps : ℕ := 0
  made : ℕ → ℕ := fun _ => 0
  changes : List (ℕ × ℕ × CallState) := []

namespace TracedRadio

/-- The step in which the call of each index was added, when the table is that of `r` -/
def madeAfter (t : TracedRadio) (r : Radio) (i : ℕ) : ℕ :=
  if (t.radio.call i).isNone ∧ (r.call i).isSome then t.steps else t.made i

/-- The state changes that a request queues -/
def newChanges (t : TracedRadio) (q : RadioRequest) : List (ℕ × ℕ × CallState) :=
  ((t.radio.handle q).queued.filterMap RadioCommand.change?).map (Prod.mk t.steps)

end TracedRadio

/-- A step of the radio; for a state change `dial` is the step of the dial that queued it. -/
def tracedStep (t : TracedRadio) (a : RadioRequest × ℕ) : Option TracedRadio :=
  (radioStep t.radio a.1).bind fun r =>
    match a.1 with
    | .command (.callStateChange callIndex nextState) =>
      if (a.2, callIndex, nextState) ∈ t.changes then
        some ⟨r, t.steps + 1, t.madeAfter r, t.changes.erase (a.2, callIndex, nextState)⟩
      else none
    | q => some ⟨r, t.steps + 1, t.madeAfter r, t.changes ++ t.newChanges q⟩

/-- A change that the worker processes leaves all calls as they are, or the one that its dial has made goes forward. -/
def MovesOwnForward (t t' : TracedRadio) (dial callIndex : ℕ) (nextState : CallState) : Prop :=
  ∀ i, t'.radio.call i = t.radio.call i ∨ ∃ c, t.radio.call i = some c ∧
    t'.radio.call i = some { c with state := nextState } ∧ i = callIndex ∧ t.made i = dial ∧ c.state.Precedes nextState

/-- The changes that are known are those of the queue. -/
def TracedRadio.Known (t : TracedRadio) : Prop := (t.changes.map Prod.snd).Perm t.radio.changes

/-- A change that comes to a call comes to one that its dial has made, and that has not gone past it. -/
def TracedRadio.Coming (t : TracedRadio) : Prop :=
  ∀ dial i state, (dial, i, state) ∈ t.changes → ∀ c, t.radio.call i = some c → t.made i = dial ∧ c.state.Precedes state

/-! ### One step -/

variable {r r' : Radio} {q : RadioRequest} {t t' : TracedRadio}

lemma filter_map_erase_none {α β : Type} [DecidableEq α] {f : α → Option β} {a : α} (ha : f a = none) (l : List α) :
    (l.erase a).filterMap f = l.filterMap f := by
  induction l with
  | nil => rfl
  | cons b l ih =>
    by_cases hb : b = a
    · rw [hb, List.erase_cons_head, List.filterMap_cons, ha]
    · rw [List.erase_cons_tail (by simpa using hb), List.filterMap_cons, List.filterMap_cons, ih]

/-- What a step that takes no state change does: the calls are those that the handler leaves, and the changes that it
queues are added. -/
structure Handled (r : Radio) (q : RadioRequest) (r' : Radio) : Prop where
  call : ∀ i, r'.call i = (r.handle q).radio.call i
  changes : (r.handle q).radio.queue = r.queue →
    r'.changes = r.changes ++ (r.handle q).queued.filterMap RadioCommand.change?

lemma handled_request (hd : r.dequeue q = some r) (h : radioStep r q = some r') : Handled r q r' := by
  rw [radioStep, hd] at h
  obtain rfl := Option.some.inj h
  refine ⟨fun i => rfl, fun hqueue => ?_⟩
  rw [changes, changes, ← hqueue, ← List.filterMap_append]

lemma dequeue_command {c : RadioCommand} (h : r.dequeue (.command c) = some r') :
    c ∈ r.queue ∧ r' = { r with queue := r.queue.erase c } := by
  rw [dequeue] at h
  split at h
  next hmem => exact ⟨hmem, (Option.some.inj h).symm⟩
  next => cases h

lemma ring_eq (r : Radio) : r.handle (.command .unsolCallRing) =
    { radio := r, queued := if r.incomingCallIsProcessed then [] else [.unsolCallRing] } := by
  unfold handle cmdUnsolCallRing
  cases r.incomingCallIsProcessed <;> rfl

lemma handled_command {c : RadioCommand} (hc : c.change? = none) (h : radioStep r (.command c) = some r') :
    Handled r (.command c) r' := by
  obtain ⟨r₁, hd, rfl⟩ := Option.map_eq_some_iff.mp h
  obtain ⟨-, rfl⟩ := dequeue_command hd
  have herase : (r.queue.erase c).filterMap RadioCommand.change? = r.queue.filterMap RadioCommand.change? :=
    filter_map_erase_none hc _
  cases c with
  | unsolCallStateChanged => exact ⟨fun i => rfl, fun _ => by simpa [changes, handle] using herase⟩
  | callStateChange callIndex nextState => cases hc
  | unsolCallRing =>
    refine ⟨fun i => by rw [ring_eq, ring_eq]; rfl, fun _ => ?_⟩
    rw [ring_eq, ring_eq, changes, changes, ← herase, ← List.filterMap_append]

lemma radio_step_handled (hq : ∀ i s, q ≠ .command (.callStateChange i s)) (h : radioStep r q = some r') :
    Handled r q r' := by
  cases q with
  | command c =>
    cases c with
    | unsolCallStateChanged => exact handled_command rfl h
    | callStateChange i s => exact absurd rfl (hq i s)
    | unsolCallRing => exact handled_command rfl h
  | _ => exact handled_request rfl h

lemma state_change_eq (r : Radio) (i : ℕ) (s : CallState) : r.handle (.command (.callStateChange i s)) =
    { radio := (r.call i).elim r fun c => r.setState i c s, queued := [.unsolCallStateChanged] } := by
  unfold handle cmdCallStateChange
  dsimp only
  rw [get_call_natCast]
  cases hc : r.call i with
  | none =>
    rw [remove_call_none (get_call_natCast.trans hc)]
    rfl
  | some c => rfl

lemma radio_step_change {i : ℕ} {s : CallState} (h : radioStep r (.command (.callStateChange i s)) = some r') :
    (i, s) ∈ r.changes ∧ ((i, s) :: r'.changes).Perm r.changes ∧
      ∀ j, r'.call j = if j = i then (r.call i).map fun c => { c with state := s } else r.call j := by
  obtain ⟨r₁, hd, rfl⟩ := Option.map_eq_some_iff.mp h
  obtain ⟨hmem, rfl⟩ := dequeue_command hd
  have hperm : r.changes.Perm ((i, s) :: (r.queue.erase (.callStateChange i s)).filterMap RadioCommand.change?) :=
    (List.perm_cons_erase hmem).filterMap RadioCommand.change?
  have hrest (queue : List RadioCommand) : (queue ++ [RadioCommand.unsolCallStateChanged]).filterMap RadioCommand.change? =
      queue.filterMap RadioCommand.change? := by
    rw [List.filterMap_append]
    exact List.append_nil _
  have hcall : ({ r with queue := r.queue.erase (.callStateChange i s) } : Radio).call i = r.call i := rfl
  rw [state_change_eq, hcall]
  refine ⟨hperm.mem_iff.mpr List.mem_cons_self, ?_⟩
  cases hc : r.call i with
  | none =>
    refine ⟨?_, fun j => ?_⟩
    · rw [changes]
      dsimp only
      rw [hrest]
      exact hperm.symm
    · by_cases hj : j = i
      · rw [if_pos hj, hj]
        exact hc
      · rw [if_neg hj]
        rfl
  | some c =>
    refine ⟨?_, fun j => ?_⟩
    · rw [changes]
      dsimp only
      rw [hrest]
      exact hperm.symm
    · exact call_set (r := { r with queue := r.queue.erase (.callStateChange i s) }) (call_lt hc)

/-- The two kinds of a traced step -/
lemma traced_step_cases {a : RadioRequest × ℕ} (h : tracedStep t a = some t') :
    (∃ i s, a.1 = .command (.callStateChange i s) ∧ radioStep t.radio a.1 = some t'.radio ∧ (a.2, i, s) ∈ t.changes ∧
      t' = ⟨t'.radio, t.steps + 1, t.madeAfter t'.radio, t.changes.erase (a.2, i, s)⟩) ∨
    (∀ i s, a.1 ≠ .command (.callStateChange i s)) ∧ radioStep t.radio a.1 = some t'.radio ∧
      t' = ⟨t'.radio, t.steps + 1, t.madeAfter t'.radio, t.changes ++ t.newChanges a.1⟩ := by
  obtain ⟨r, hr, h⟩ := Option.bind_eq_some_iff.mp h
  split at h
  next i s ha =>
    split at h
    next hmem =>
      obtain rfl := Option.some.inj h
      exact .inl ⟨i, s, ha, hr, hmem, rfl⟩
    next => cases h
  next ha =>
    obtain rfl := Option.some.inj h
    exact .inr ⟨ha, hr, rfl⟩

lemma well_indexed_queue (h : WellIndexed t.radio) (q : RadioRequest) : (t.radio.handle q).radio.queue = t.radio.queue := by
  by_cases hq : ∀ address, q ≠ .dial address
  · exact (handle_quiet t.radio hq).queue
  · obtain ⟨address, rfl⟩ := not_forall_not.mp hq
    exact (dial_changes h address).1

lemma traced_step_known {a : RadioRequest × ℕ} (hw : WellIndexed t.radio) (h : t.Known) (hs : tracedStep t a = some t') :
    t'.Known := by
  rcases traced_step_cases hs with ⟨i, s, ha, hr, hmem, ht⟩ | ⟨ha, hr, ht⟩
  · rw [ha] at hr
    obtain ⟨-, hperm, -⟩ := radio_step_change hr
    have herase : ((i, s) :: t'.changes.map Prod.snd).Perm (t.changes.map Prod.snd) := by
      rw [ht]
      exact ((List.perm_cons_erase hmem).map Prod.snd).symm
    exact (List.perm_cons (i, s)).mp (herase.trans (h.trans hperm.symm))
  · have hchanges := (radio_step_handled ha hr).changes (well_indexed_queue hw a.1)
    have hnew : (t.newChanges a.1).map Prod.snd = (t.radio.handle a.1).queued.filterMap RadioCommand.change? := by
      simp [TracedRadio.newChanges, Function.comp_def]
    rw [TracedRadio.Known, hchanges, ht]
    dsimp only
    rw [List.map_append, hnew]
    exact h.append_right _

lemma made_after_kept {i : ℕ} {c : RilCall} (hc : t.radio.call i = some c) (r : Radio) : t.madeAfter r i = t.made i := by
  rw [TracedRadio.madeAfter, hc]
  exact if_neg fun h => by cases h.1

lemma made_after_added {i : ℕ} {c : RilCall} (hn : t.radio.call i = none) (hc : r.call i = some c) :
    t.madeAfter r i = t.steps := by
  rw [TracedRadio.madeAfter, hn, hc]
  exact if_pos ⟨rfl, rfl⟩

/-- A change that is taken leaves those behind it before the call. -/
lemma coming_change {i : ℕ} {s : CallState} {dial : ℕ} (hk : t.Known) (h : t.Coming)
    (hu : t.radio.Undisturbed (.command (.callStateChange i s)))
    (hr : radioStep t.radio (.command (.callStateChange i s)) = some r') :
    TracedRadio.Coming ⟨r', t.steps + 1, t.madeAfter r', t.changes.erase (dial, i, s)⟩ := by
  intro d j state hmem c hc
  have hold : (d, j, state) ∈ t.changes := List.mem_of_mem_erase hmem
  have hqueued : (j, state) ∈ t.radio.changes := hk.mem_iff.mp (List.mem_map_of_mem hold)
  dsimp only at hc
  rw [(radio_step_change hr).2.2 j] at hc
  by_cases hj : j = i
  · rw [if_pos hj] at hc
    obtain ⟨c', hc', rfl⟩ := Option.map_eq_some_iff.mp hc
    rw [← hj] at hc'
    dsimp only
    rw [made_after_kept hc']
    exact ⟨(h d j state hold c' hc').1, hu state (hj ▸ hqueued)⟩
  · rw [if_neg hj] at hc
    dsimp only
    rw [made_after_kept hc]
    exact h d j state hold c hc

/-- The calls of the changes that are already queued, after anything else -/
lemma coming_old (hk : t.Known) (h : t.Coming) (hq : ∀ i s, q ≠ .command (.callStateChange i s))
    (hu : t.radio.Undisturbed q) (hr : Handled t.radio q r') {d i : ℕ} {state : CallState}
    (hmem : (d, i, state) ∈ t.changes) {c' : RilCall} (hc : r'.call i = some c') :
    t.madeAfter r' i = d ∧ c'.state.Precedes state := by
  have hqueued : (i, state) ∈ t.radio.changes := hk.mem_iff.mp (List.mem_map_of_mem hmem)
  rw [hr.call] at hc
  obtain ⟨c, hc₀, hstate⟩ : ∃ c, t.radio.call i = some c ∧ (c'.state = c.state ∨ c'.state.Precedes state) := by
    unfold Undisturbed at hu
    split at hu
    next i' s' => exact absurd rfl (hq i' s')
    next => exact hu i state hqueued c' hc
  obtain ⟨hmade, hprecedes⟩ := h d i state hmem c hc₀
  rw [made_after_kept hc₀]
  refine ⟨hmade, ?_⟩
  rcases hstate with hsame | hmoved
  · rw [hsame]
    exact hprecedes
  · exact hmoved

/-- The changes that a dial queues come to the call that it adds. -/
lemma coming_new (hw : WellIndexed t.radio) (hr : Handled t.radio q r') {d i : ℕ} {state : CallState}
    (hmem : (d, i, state) ∈ t.newChanges q) {c' : RilCall} (hc : r'.call i = some c') :
    t.madeAfter r' i = d ∧ c'.state.Precedes state := by
  obtain ⟨x, hx, heq⟩ := List.mem_map.mp hmem
  obtain ⟨rfl, rfl⟩ := Prod.mk.inj heq
  by_cases hq : ∀ address, q ≠ .dial address
  · obtain ⟨c, hc, hchange⟩ := List.mem_filterMap.mp hx
    rw [(handle_quiet t.radio hq).queued c hc] at hchange
    cases hchange
  · obtain ⟨address, rfl⟩ := not_forall_not.mp hq
    rcases (dial_changes hw address).2 with ⟨-, hnone⟩ | ⟨k, c, hfree, hdialing, hcalls, hchanges⟩
    · have hx' : (i, state) ∈ (t.radio.rilRequestDial address).queued.filterMap RadioCommand.change? := hx
      rw [hnone] at hx'
      cases hx'
    · obtain ⟨rfl, hprecedes⟩ := hchanges _ hx
      have hcall : r'.call i = some c := (hr.call i).trans ((hcalls i).trans (if_pos rfl))
      obtain rfl : c = c' := Option.some.inj (hcall.symm.trans hc)
      rw [made_after_added hfree hcall, hdialing]
      exact ⟨rfl, hprecedes⟩

lemma traced_step_coming {a : RadioRequest × ℕ} (hw : WellIndexed t.radio) (hk : t.Known) (h : t.Coming)
    (hu : t.radio.Undisturbed a.1) (hs : tracedStep t a = some t') : t'.Coming := by
  rcases traced_step_cases hs with ⟨i, s, ha, hr, -, ht⟩ | ⟨ha, hr, ht⟩
  · rw [ha] at hu hr
    rw [ht]
    exact coming_change hk h hu hr
  · have hhandled := radio_step_handled ha hr
    rw [ht]
    intro d i state hmem c' hc
    rcases List.mem_append.mp hmem with hold | hnew
    · exact coming_old hk h ha hu hhandled hold hc
    · exact coming_new hw hhandled hnew hc

/-! ### All runs -/

lemma traced_step_radio {a : RadioRequest × ℕ} (hs : tracedStep t a = some t') :
    radioStep t.radio a.1 = some t'.radio := by
  rcases traced_step_cases hs with ⟨-, -, -, hr, -, -⟩ | ⟨-, hr, -⟩
  · exact hr
  · exact hr

lemma traced_well_indexed {ok : TracedRadio → RadioRequest × ℕ → Prop} (hr : Reaches tracedStep ok {} t) :
    WellIndexed t.radio ∧ t.Known := by
  induction hr with
  | refl => exact ⟨initial_well_indexed, .refl _⟩
  | tail _ _ hs ih => exact ⟨radio_step_well_indexed ih.1 (traced_step_radio hs), traced_step_known ih.1 ih.2 hs⟩

/-- Every run of the radio is one where the dial of each change is known. -/
theorem radio_run_traced (hr : Reaches radioStep (fun _ _ => True) {} r) :
    ∃ t, Reaches tracedStep (fun _ _ => True) {} t ∧ t.radio = r := by
  induction hr with
  | refl => exact ⟨{}, .refl, rfl⟩
  | @tail r r' q _ _ hs ih =>
    obtain ⟨t, ht, rfl⟩ := ih
    by_cases hq : ∀ i s, q ≠ .command (.callStateChange i s)
    · refine ⟨⟨r', t.steps + 1, t.madeAfter r', t.changes ++ t.newChanges q⟩, .tail (a := (q, 0)) ht trivial ?_, rfl⟩
      rw [tracedStep, hs, Option.bind_some]
      dsimp only
      split
      next i s => exact absurd rfl (hq i s)
      next => rfl
    · simp only [not_forall, not_not] at hq
      obtain ⟨i, s, rfl⟩ := hq
      have hmem : (i, s) ∈ t.changes.map Prod.snd := (traced_well_indexed ht).2.mem_iff.mpr (radio_step_change hs).1
      obtain ⟨⟨dial, x⟩, hx, rfl⟩ := List.mem_map.mp hmem
      refine ⟨⟨r', t.steps + 1, t.madeAfter r', t.changes.erase (dial, i, s)⟩,
        .tail (a := (.command (.callStateChange i s), dial)) ht trivial ?_, rfl⟩
      rw [tracedStep, hs, Option.bind_some]
      exact if_pos hx

/-- In a run that leaves the calls of the queued changes undisturbed, each change comes to the call that its dial has
made and moves it forward, or to no call. -/
theorem delayed_changes_own (hr : Reaches tracedStep (fun t a => t.radio.Undisturbed a.1) {} t) {dial callIndex : ℕ}
    {nextState : CallState} (hs : tracedStep t (.command (.callStateChange callIndex nextState), dial) = some t') :
    MovesOwnForward t t' dial callIndex nextState := by
  have hcoming : t.Coming := by
    refine hr.invariant (fun _ _ _ h => by cases h) fun t a t' hreached h hu hs => ?_
    obtain ⟨hw, hk⟩ := traced_well_indexed hreached
    exact traced_step_coming hw hk h hu hs
  rcases traced_step_cases hs with ⟨i, s, ha, hradio, hmem, -⟩ | ⟨ha, -, -⟩
  · obtain ⟨rfl, rfl⟩ : callIndex = i ∧ nextState = s := by simpa using ha
    intro j
    rw [(radio_step_change hradio).2.2 j]
    by_cases hj : j = callIndex
    · rw [if_pos hj, hj]
      cases hc : t.radio.call callIndex with
      | none => exact .inl rfl
      | some c => exact .inr ⟨c, rfl, rfl, rfl, hcoming dial callIndex nextState hmem c hc⟩
    · rw [if_neg hj]
      exact .inl rfl
  · exact absurd rfl (ha callIndex nextState)

/-- The change to ALERTING after a dial and its change to DIALING -/
theorem dialed_call_alerts : ∃ t t', tracedStep t (.command (.callStateChange 1 .alerting), 0) = some t' ∧
    t.radio.call 1 = some ⟨.dialing, 1, "1", ""⟩ ∧ t'.radio.call 1 = some ⟨.alerting, 1, "1", ""⟩ ∧
    MovesOwnForward t t' 0 1 .alerting := by
  have hnone : Undisturbed {} (.dial "1") := fun i state hmem => by cases hmem
  obtain ⟨t₁, h₁, hchanges⟩ : ∃ t, tracedStep {} (.dial "1", 0) = some t ∧
      t.radio.changes = [(1, .dialing), (1, .alerting), (1, .active)] := ⟨_, rfl, rfl⟩
  have hfirst : t₁.radio.Undisturbed (.command (.callStateChange 1 .dialing)) := by
    intro state hmem
    rw [hchanges] at hmem
    simp only [List.mem_cons, Prod.mk.injEq, true_and, List.not_mem_nil, or_false] at hmem
    rcases hmem with rfl | rfl | rfl
    · exact ⟨0, 0, rfl, rfl, Nat.le_refl 0⟩
    · exact ⟨0, 1, rfl, rfl, Nat.zero_le _⟩
    · exact ⟨0, 2, rfl, rfl, Nat.zero_le _⟩
  obtain ⟨t₂, h₂, t₃, h₃, hcall, hcall'⟩ : ∃ t₂, tracedStep t₁ (.command (.callStateChange 1 .dialing), 0) = some t₂ ∧
      ∃ t₃, tracedStep t₂ (.command (.callStateChange 1 .alerting), 0) = some t₃ ∧
        t₂.radio.call 1 = some ⟨.dialing, 1, "1", ""⟩ ∧ t₃.radio.call 1 = some ⟨.alerting, 1, "1", ""⟩ := by
    obtain rfl := Option.some.inj h₁
    exact ⟨_, rfl, _, rfl, rfl, rfl⟩
  exact ⟨t₂, t₃, h₃, hcall, hcall', delayed_changes_own (.tail (.tail .refl hnone h₁) hfirst h₂) h₃⟩

/-- After a hang-up a call comes in at the same index: it is moved to ALERTING by the change for the call that is
gone. -/
theorem delayed_change_reused : ∃ t t', Reaches tracedStep (fun _ _ => True) {} t ∧
    tracedStep t (.command (.callStateChange 1 .alerting), 0) = some t' ∧
    t.radio.call 1 = some ⟨.incoming, 1, "2", ""⟩ ∧ t'.radio.call 1 = some ⟨.alerting, 1, "2", ""⟩ ∧
    ¬MovesOwnForward t t' 0 1 .alerting := by
  have hreaches : ∃ t, Reaches tracedStep (fun _ _ => True) {} t ∧
      Lib.run tracedStep {} [(.dial "1", 0), (.command (.callStateChange 1 .dialing), 0), (.hangUp 1, 0),
        (.startInComingCall "2", 0)] = some t :=
    ⟨_, .tail (a := (.startInComingCall "2", 0)) (.tail (a := (.hangUp 1, 0))
      (.tail (a := (.command (.callStateChange 1 .dialing), 0)) (.tail (a := (.dial "1", 0)) .refl trivial rfl)
        trivial rfl) trivial rfl) trivial rfl, rfl⟩
  obtain ⟨t, hr, hrun⟩ := hreaches
  obtain rfl := Option.some.inj hrun
  refine ⟨_, _, hr, rfl, rfl, rfl, fun h => ?_⟩
  rcases h 1 with hsame | ⟨c, hc, -, -, -, m, n, hm, -, -⟩
  · cases hsame
  · obtain rfl := Option.some.inj hc
    cases hm

end Ril.Mock
