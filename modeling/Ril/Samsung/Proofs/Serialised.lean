import Ril.Samsung.Proofs.Statuses

/-! The requests that the modem is to answer one at a time. -/

namespace Ril.Samsung

open Ril.Ipc Ril.Lib

def AtMostOne (codes : List RilRequestCode) (s : RilData) : Prop :=
  ∀ r ∈ s.requests, ∀ r' ∈ s.requests, r.status = .handled → r'.status = .handled →
    r.request ∈ codes → r'.request ∈ codes → r = r'

/-- The requests of a group share an entry of the request data or an exchange with the modem. -/
def serialGroups : List (List RilRequestCode) := [[.sendSms, .sendSmsExpectMore], [.setupDataCall], [.simIo],
  [.setFacilityLock], [.enterSimPin], [.enterSimPin2], [.enterSimPuk], [.enterSimPuk2], [.changeSimPin],
  [.changeSimPin2]]

def Serialised (s : RilData) : Prop := ∀ codes ∈ serialGroups, AtMostOne codes s

/-- The request and the code that its handler does not look for among those that are handled, though they share
an exchange; what it looks for instead is not handled. -/
def RilData.overlooks (s : RilData) (r : RilRequest) : Bool :=
  match r.request with
  | .sendSms | .sendSmsExpectMore => s.radioStateCheck .simNotReady &&
    (s.requestFindRequestStatus .sendSms .handled).isNone && (s.requestFindRequestStatus .sendSmsExpectMore .handled).isSome
  | .changeSimPin2 => s.radioStateCheck .simReady &&
    (s.requestFindRequestStatus .changeSimPin .handled).isNone && (s.requestFindRequestStatus .changeSimPin2 .handled).isSome
  | _ => false

def looksFor (d : Daemon) : Action → Bool
  | .loopDispatch _ => (d.data.requestFindStatus .pending).all fun r => !d.data.overlooks r
  | _ => true

section

variable {d d' : Daemon} {a : Action} {s : RilData} {r r' : RilRequest} {env : Env} {codes : List RilRequestCode}

lemma not_handled_of_find (h : s.requestFindRequestStatus r.request .handled = none) (hr : r ∈ s.requests) :
    r.status ≠ .handled := by
  intro hh
  have hnone := List.find?_eq_none.mp h r hr
  simp [hh] at hnone

lemma send_sms_ready {data : RilValue} {token : RilToken} (h : (rilRequestSendSms data token s).1 = .handled) :
    s.radioStateCheck .simNotReady = true := by
  rw [rilRequestSendSms.eq_def] at h
  split at h
  · rw [whenRadioState_apply] at h
    split at h
    · assumption
    · cases h
  · cases h

lemma change_sim_pin2_ready {data : RilValue} {token : RilToken}
    (h : (rilRequestChangeSimPin2 data token s).1 = .handled) : s.radioStateCheck .simReady = true := by
  rw [rilRequestChangeSimPin2.eq_def] at h
  split at h
  · rw [changeSimPin, whenNoneHandled_apply, whenRadioState_apply] at h
    split at h
    · cases h
    · split at h
      · assumption
      · cases h
  · cases h

lemma HandledBy.sms (h : HandledBy env r s) (hr : r.request = .sendSms ∨ r.request = .sendSmsExpectMore)
    (hl : s.overlooks r = false) : s.requestFindRequestStatus .sendSmsExpectMore .handled = none := by
  have hnone : s.requestFindRequestStatus .sendSms .handled = none := by
    apply h.free
    rcases hr with hr | hr
    · simp [hr, RilRequestCode.waiting]
    · simp [hr, RilRequestCode.waiting]
  obtain ⟨handler, hh, hs⟩ := h
  have hready : s.radioStateCheck .simNotReady = true := by
    rcases hr with hr | hr
    · rw [hr] at hh
      obtain rfl := Option.some.inj hh
      exact send_sms_ready (s := s.started env (.dispatched r.token)) hs
    · rw [hr] at hh
      obtain rfl := Option.some.inj hh
      exact send_sms_ready (s := s.started env (.dispatched r.token)) hs
  rcases hr with hr | hr
  · simpa [RilData.overlooks, hr, hready, hnone] using hl
  · simpa [RilData.overlooks, hr, hready, hnone] using hl

lemma HandledBy.pin2 (h : HandledBy env r s) (hr : r.request = .changeSimPin2) (hl : s.overlooks r = false) :
    s.requestFindRequestStatus .changeSimPin2 .handled = none := by
  have hnone : s.requestFindRequestStatus .changeSimPin .handled = none := by
    apply h.free
    simp [hr, RilRequestCode.waiting]
  obtain ⟨handler, hh, hs⟩ := h
  have hready : s.radioStateCheck .simReady = true := by
    rw [hr] at hh
    obtain rfl := Option.some.inj hh
    exact change_sim_pin2_ready (s := s.started env (.dispatched r.token)) hs
  simpa [RilData.overlooks, hr, hready, hnone] using hl

/-- A handler that takes its request has found none of its group handled, unless it is one of those that overlook
them. -/
lemma HandledBy.alone (h : HandledBy env r s) (hl : s.overlooks r = false) (hc : codes ∈ serialGroups)
    (hr : r.request ∈ codes) (hr' : r' ∈ s.requests) (hq : r'.request ∈ codes) : r'.status ≠ .handled := by
  have hsame (hm : r.request ∈ r.request.waiting.requests) (he : r'.request = r.request) : r'.status ≠ .handled :=
    not_handled_of_find (by rw [he]; exact h.free hm) hr'
  simp only [serialGroups, List.mem_cons, List.not_mem_nil, or_false] at hc
  rcases hc with rfl | rfl | rfl | rfl | rfl | rfl | rfl | rfl | rfl | rfl
  · simp only [List.mem_cons, List.not_mem_nil, or_false] at hr hq
    have hmore := h.sms hr hl
    have hone : s.requestFindRequestStatus .sendSms .handled = none := by
      apply h.free
      rcases hr with hr | hr
      · simp [hr, RilRequestCode.waiting]
      · simp [hr, RilRequestCode.waiting]
    rcases hq with hq | hq
    · exact not_handled_of_find (by rw [hq]; exact hone) hr'
    · exact not_handled_of_find (by rw [hq]; exact hmore) hr'
  all_goals
    rw [List.mem_singleton] at hr hq
  case inr.inr.inr.inr.inr.inr.inr.inr.inr =>
    exact not_handled_of_find (by rw [hq]; exact h.pin2 hr hl) hr'
  all_goals
    refine hsame ?_ (hq.trans hr.symm)
    simp [hr, RilRequestCode.waiting]

lemma AtMostOne.step (h : AtMostOne codes d.data) (hn : d.data.tokens.Nodup) (hstep : Samsung.step d a = some d')
    (halone : ∀ env r, d.data.requestFindStatus .pending = some r → a = .loopDispatch env → HandledBy env r d.data →
      r.request ∈ codes → ∀ r' ∈ d.data.requests, r'.request ∈ codes → r'.status ≠ .handled) :
    AtMostOne codes d'.data := by
  intro x hx y hy hxh hyh hxq hyq
  cases step_statuses hn hstep x hx with
  | kept hxm =>
    cases step_statuses hn hstep y hy with
    | kept hym => exact h x hxm y hym hxh hyh hxq hyq
    | pending status => simp [hyh] at status
    | putOff status => simp [hyh] at status
    | taken env r ha hf hh he =>
      rw [he] at hyq
      exact absurd hxh (halone env r hf ha hh hyq x hxm hxq)
  | pending status => simp [hxh] at status
  | putOff status => simp [hxh] at status
  | taken env r ha hf hh he =>
    rw [he] at hxq
    cases step_statuses hn hstep y hy with
    | kept hym => exact absurd hyh (halone env r hf ha hh hxq y hym hyq)
    | pending status => simp [hyh] at status
    | putOff status => simp [hyh] at status
    | taken env' r' ha' hf' hh' he' =>
      rw [hf] at hf'
      obtain rfl := Option.some.inj hf'
      rw [he, he']

end

/-- In every run in which no handler overlooks a request of its group -/
theorem serialised {d : Daemon} (h : Reaches step (fun d a => fresh d a ∧ looksFor d a = true) {} d) :
    Serialised d.data := by
  induction h with
  | refl => exact fun _ _ r hr => absurd hr List.not_mem_nil
  | @tail d d' a hr hok hstep ih =>
    intro codes hc
    have hn := (reachable_synced (hr.mono fun _ _ hok => hok.1)).nodup
    refine (ih codes hc).step hn hstep fun env r hf ha hh hq r' hr' hq' => ?_
    have hl : d.data.overlooks r = false := by simpa [ha, looksFor, hf] using hok.2
    exact hh.alone hl hc hq hr' hq'

/-- The second of two short messages waits for the first. -/
def serialSmsRun : List Action :=
  simReadyRun ++ dispatchRun {} .sendSms (.strings [none, some (ascii ['0', '1'])]) 1 ++
    dispatchRun {} .sendSmsExpectMore (.strings [none, some (ascii ['0', '1'])]) 2

theorem serialised_sms : Serialised (runFrom {} serialSmsRun).data :=
  serialised (@reaches_runFrom (fun d a => freshCheck d a && looksFor d a) _ _ _ (by decide) fun d a h => by
    rw [Bool.and_eq_true] at h
    exact ⟨fresh_of_check h.1, h.2⟩)

def twoChangesPayload : RilValue := .strings [none, none, none]

def twoMessagesPayload : RilValue := .strings [none, some (ascii ['0', '1'])]

/-- Two short messages after which more are expected, and two changes of the second PIN -/
def overlookingRun : List Action :=
  simReadyRun ++ dispatchRun {} .sendSmsExpectMore twoMessagesPayload 1 ++
    dispatchRun {} .sendSmsExpectMore twoMessagesPayload 2 ++ dispatchRun {} .changeSimPin2 twoChangesPayload 3 ++
    dispatchRun {} .changeSimPin2 twoChangesPayload 4

theorem serialised_fails : ∃ d, Reachable d ∧ d = runFrom {} overlookingRun ∧
    ¬ AtMostOne [.sendSms, .sendSmsExpectMore] d.data ∧ ¬ AtMostOne [.changeSimPin2] d.data ∧ ¬ Serialised d.data := by
  have hsms : ¬ AtMostOne [.sendSms, .sendSmsExpectMore] (runFrom {} overlookingRun).data := by
    intro h
    exact absurd (h ⟨.sendSmsExpectMore, twoMessagesPayload, 1, .handled⟩ (by decide)
      ⟨.sendSmsExpectMore, twoMessagesPayload, 2, .handled⟩ (by decide) rfl rfl (by decide) (by decide)) (by decide)
  have hpin : ¬ AtMostOne [.changeSimPin2] (runFrom {} overlookingRun).data := by
    intro h
    exact absurd (h ⟨.changeSimPin2, twoChangesPayload, 3, .handled⟩ (by decide)
      ⟨.changeSimPin2, twoChangesPayload, 4, .handled⟩ (by decide) rfl rfl (by decide) (by decide)) (by decide)
  exact ⟨_, reachable_runFrom (by decide), rfl, hsms, hpin, fun h => hsms (h _ List.mem_cons_self)⟩

end Ril.Samsung
