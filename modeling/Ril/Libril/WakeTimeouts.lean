import Mathlib.Algebra.Order.BigOperators.Group.List
import Mathlib.Algebra.Order.Group.Nat
import Ril.Lib.Transition
import Ril.Libril.Dispatch
import Ril.Libril.UnsolTable
import Mathlib.Data.List.Nodup

/-! The wake lock of libril: unsolicited responses take it, and a timer gives it back. -/

namespace Ril.Libril

open Lib Ril.Samsung

inductive TimedCallback
  | wakeTimeoutCallback | user
deriving DecidableEq, Repr

structure UserCallbackInfo where
  address : ℕ
  callback : TimedCallback
  userParam : ℕ
  deadline : ℤ
deriving DecidableEq, Repr

/-- Which address is given by the next call of `malloc`, that is none of those in use -/
structure Malloc where
  address : ℕ → List ℕ → ℕ
  fresh : ∀ calls used, address calls used ∉ used

def Malloc.next : Malloc where
  address _ used := used.sum + 1
  fresh _ used h := absurd (List.le_sum_of_mem h) (Nat.not_succ_le_self used.sum)

/-- `timers` are the infos in the timer list, `firing` is the one whose callback is run or has been run and that is not
freed. When a response with `WAKE_PARTIAL` was last marshalled is kept for the statements, and whether a free info was
written to. -/
structure WakeState where
  registered : Bool := false
  held : Bool := false
  timers : List UserCallbackInfo := []
  firing : Option UserCallbackInfo := none
  lastWakeTimeoutInfo : Option ℕ := none
  mallocs : ℕ := 0
  now : ℤ := 0
  voiceRadioTech : ℤ := -1
  cdmaSubscriptionSource : ℤ := -1
  simRuimStatus : ℤ := -1
  latest : Option ℤ := none
  faulted : Bool := false

/-- In microseconds -/
def timevalWakeTimeout : ℤ := 1000000

def decodeSimStatus (radioState : RilRadioState) : ℤ :=
  match radioState with
  | .simLockedOrAbsent | .simReady | .ruimReady | .ruimLockedOrAbsent => radioState.index
  | _ => -1

/-- IS95A, IS95B, 1xRTT, EVDO 0, A and B, and EHRPD -/
def is3gpp2 (radioTech : ℤ) : Bool := radioTech ∈ [4, 5, 6, 7, 8, 12, 13]

/-- The states between `RADIO_STATE_UNAVAILABLE` and `RADIO_STATE_ON` -/
def isOldRadioState : RilRadioState → Bool
  | .off | .unavailable | .on | .other _ => false
  | _ => true

def rilUnsolResponseRadioStateChanged : Int32 := 1000

def rilUnsolVoiceRadioTechChanged : Int32 := 1035

def rilUnsolCdmaSubscriptionSourceChanged : Int32 := 1031

def rilUnsolResponseSimStatusChanged : Int32 := 1019

namespace WakeState

variable (malloc : Malloc)

def used (d : WakeState) : List ℕ := (d.firing.toList ++ d.timers).map UserCallbackInfo.address

def grabPartialWakeLock (d : WakeState) : WakeState := { d with held := true }

def releaseWakeLock (d : WakeState) : WakeState := { d with held := false }

def newInfo (callback : TimedCallback) (param : ℕ) (relativeTime : ℤ) (d : WakeState) : UserCallbackInfo :=
  ⟨malloc.address d.mallocs d.used, callback, param, d.now + relativeTime⟩

def internalRequestTimedCallback (callback : TimedCallback) (param : ℕ) (relativeTime : ℤ) (d : WakeState) : WakeState :=
  { d with timers := d.newInfo malloc callback param relativeTime :: d.timers, mallocs := d.mallocs + 1 }

/-- `p->userParam = (void *)1` -/
def setUserParam (address : ℕ) (d : WakeState) : WakeState :=
  let write (info : UserCallbackInfo) := if info.address = address then { info with userParam := 1 } else info
  { d with
    timers := d.timers.map write
    firing := d.firing.map write
    faulted := d.faulted || address ∉ d.used }

def cancelLast (d : WakeState) : WakeState :=
  match d.lastWakeTimeoutInfo with
  | none => d
  | some address => d.setUserParam address

def scheduleTimeout (d : WakeState) : WakeState :=
  let d := d.cancelLast
  { d.internalRequestTimedCallback malloc .wakeTimeoutCallback 0 timevalWakeTimeout with
    lastWakeTimeoutInfo := some (d.newInfo malloc .wakeTimeoutCallback 0 timevalWakeTimeout).address
    latest := some d.now }

/-- `RIL_onUnsolicitedResponse`. `marshals` tells whether the function of the table returns 0; `more` is what the
response does before it is sent. -/
def onUnsolicitedResponse (unsolResponse : Int32) (marshals : Bool) (more : WakeState → WakeState) (d : WakeState) :
    WakeState :=
  if !d.registered then d
  else
    match unsolResponseInfo sUnsolResponses unsolResponse with
    | none => d
    | some info =>
      match info.wakeType, marshals with
      | .wakePartial, true => (more d.grabPartialWakeLock).scheduleTimeout malloc
      | .wakePartial, false => d.grabPartialWakeLock.releaseWakeLock
      | .dontWake, true => more d
      | .dontWake, false => d

/-- `RIL_UNSOL_RESPONSE` with the data of `processRadioState`: an `int` and its size, or no data. These are
marshalled. -/
def unsolChanged (unsolResponse : Int32) (d : WakeState) : WakeState :=
  d.onUnsolicitedResponse malloc unsolResponse true id

def changeVoiceRadioTech (tech : ℤ) (d : WakeState) : WakeState :=
  if tech ≠ d.voiceRadioTech then
    { d with voiceRadioTech := tech }.unsolChanged malloc rilUnsolVoiceRadioTechChanged
  else d

def changeCdmaSubscriptionSource (source : ℤ) (d : WakeState) : WakeState :=
  if source ≠ d.cdmaSubscriptionSource then
    { d with cdmaSubscriptionSource := source }.unsolChanged malloc rilUnsolCdmaSubscriptionSourceChanged
  else d

def changeSimRuimStatus (status : ℤ) (d : WakeState) : WakeState :=
  if status ≠ d.simRuimStatus then
    { d with simRuimStatus := status }.unsolChanged malloc rilUnsolResponseSimStatusChanged
  else d

def processRadioState (newRadioState : RilRadioState) (d : WakeState) : WakeState :=
  if isOldRadioState newRadioState then
    let tech := decodeVoiceRadioTechnology newRadioState
    let d := d.changeVoiceRadioTech malloc tech
    let d := if is3gpp2 tech then
        d.changeCdmaSubscriptionSource malloc (decodeCdmaSubscriptionSource newRadioState)
      else d
    d.changeSimRuimStatus malloc (decodeSimStatus newRadioState)
  else d

/-- A response of the radio's own. `newState` is what `onStateRequest` gives. -/
def respond (unsolResponse : Int32) (marshals : Bool) (newState : RilRadioState) (d : WakeState) : WakeState :=
  d.onUnsolicitedResponse malloc unsolResponse marshals fun d =>
    if unsolResponse = rilUnsolResponseRadioStateChanged then d.processRadioState malloc newState else d

def wakeTimeoutCallback (param : ℕ) (d : WakeState) : WakeState := if param = 0 then d.releaseWakeLock else d

/-- `userTimerCallback` up to the end of the callback. What a callback of the user does are steps of their own. -/
def fire (info : UserCallbackInfo) (d : WakeState) : WakeState :=
  let d := { d with timers := d.timers.erase info, firing := some info }
  match info.callback with
  | .wakeTimeoutCallback => d.wakeTimeoutCallback info.userParam
  | .user => d

def freeInfo (info : UserCallbackInfo) (d : WakeState) : WakeState :=
  { d with
    lastWakeTimeoutInfo := if d.lastWakeTimeoutInfo = some info.address then none else d.lastWakeTimeoutInfo
    firing := none }

end WakeState

inductive WakeAction
  | register
  | respond (unsolResponse : Int32) (marshals : Bool) (newState : RilRadioState)
  | requestTimedCallback (param : ℕ) (relativeTime : ℤ)
  | tick (usec : ℕ)
  | fire (info : UserCallbackInfo)
  | freeInfo
deriving DecidableEq

/-- A timer is due when its time has passed. -/
def wakeStep (malloc : Malloc) (d : WakeState) : WakeAction → Option WakeState
  | .register => some { d with registered := true }
  | .respond unsolResponse marshals newState => some (d.respond malloc unsolResponse marshals newState)
  | .requestTimedCallback param relativeTime => some (d.internalRequestTimedCallback malloc .user param relativeTime)
  | .tick usec => some { d with now := d.now + usec }
  | .fire info => if info ∈ d.timers ∧ d.now > info.deadline ∧ d.firing = none then some (d.fire info) else none
  | .freeInfo => d.firing.map fun info => d.freeInfo info

end Ril.Libril

/-! How long the wake lock of libril is held. -/

namespace Ril.Libril

open Lib Ril.Samsung

/-- A wake timeout that is not cancelled -/
def UserCallbackInfo.Live (info : UserCallbackInfo) : Prop := info.callback = .wakeTimeoutCallback ∧ info.userParam = 0

def WakeState.Pending (d : WakeState) : Prop := ∃ info ∈ d.timers, info.Live

structure WakeWindow (d : WakeState) : Prop where
  faulted : d.faulted = false
  single : ∀ i ∈ d.timers, ∀ j ∈ d.timers, i.Live → j.Live → i = j
  held : d.held = true ↔ d.Pending
  window : ∀ t, d.latest = some t → d.now ≤ t + timevalWakeTimeout → d.held = true

/-- No response that would wake fails to be marshalled while a wake timeout is pending. -/
def KeepsLock (d : WakeState) : WakeAction → Prop
  | .respond unsolResponse marshals _ => marshals = true ∨ d.registered = false ∨ ¬d.Pending ∨
      (unsolResponseInfo sUnsolResponses unsolResponse).map UnsolResponseInfo.wakeType ≠ some .wakePartial
  | _ => True

namespace WakeState

/-- The last wake timeout is in the timer list or its callback is run, and no other one is live. -/
structure Linked (d : WakeState) : Prop where
  faulted : d.faulted = false
  addresses : d.used.Nodup
  last : ∀ address, d.lastWakeTimeoutInfo = some address → address ∈ d.used
  live : ∀ info ∈ d.timers, info.Live → d.lastWakeTimeoutInfo = some info.address

/-- The time of a live timeout is a whole window after the latest response. -/
structure Windowed (d : WakeState) : Prop extends Linked d where
  held : d.held = true ↔ d.Pending
  deadline : ∀ info ∈ d.timers, info.Live → ∀ t, d.latest = some t → info.deadline = t + timevalWakeTimeout
  ended : ¬d.Pending → ∀ t, d.latest = some t → t + timevalWakeTimeout < d.now

variable {d : WakeState} {malloc : Malloc}

lemma address_injective (h : d.used.Nodup) {i j : UserCallbackInfo} (hi : i ∈ d.timers) (hj : j ∈ d.timers)
    (he : i.address = j.address) : i = j :=
  List.inj_on_of_nodup_map h (List.mem_append_right _ hi) (List.mem_append_right _ hj) he

lemma Windowed.window (h : Windowed d) : WakeWindow d where
  faulted := h.faulted
  single i hi j hj hli hlj := by
    have he := (h.live i hi hli).symm.trans (h.live j hj hlj)
    exact address_injective h.addresses hi hj (Option.some.inj he)
  held := h.held
  window t ht hle := by
    by_contra hn
    exact absurd (h.ended (fun hp => hn (h.held.mpr hp)) t ht) (not_lt.mpr hle)

/-! ### A new timer -/

lemma used_request (malloc : Malloc) (callback : TimedCallback) (param : ℕ) (relativeTime : ℤ) (d : WakeState) :
    (d.internalRequestTimedCallback malloc callback param relativeTime).used.Perm
      ((d.newInfo malloc callback param relativeTime).address :: d.used) := by
  rw [used, used, internalRequestTimedCallback]
  exact (List.perm_middle.map _)

lemma Linked.request (h : Linked d) (param : ℕ) (relativeTime : ℤ) :
    Linked (d.internalRequestTimedCallback malloc .user param relativeTime) := by
  have hperm := used_request malloc .user param relativeTime d
  refine ⟨h.faulted, hperm.nodup_iff.mpr (List.nodup_cons.mpr ⟨malloc.fresh _ _, h.addresses⟩), fun address ha => ?_, ?_⟩
  · exact hperm.mem_iff.mpr (List.mem_cons_of_mem _ (h.last address ha))
  · intro info hi hl
    rcases List.mem_cons.mp hi with rfl | hi
    · cases hl.1
    · exact h.live info hi hl

/-! ### A cancelled timer -/

lemma used_set_user_param (address : ℕ) (d : WakeState) : (d.setUserParam address).used = d.used := by
  have hw : ∀ info : UserCallbackInfo,
      (if info.address = address then { info with userParam := 1 } else info).address = info.address := by
    intro info
    split <;> rfl
  rw [used, used, setUserParam]
  cases d.firing <;> simp [hw, Function.comp_def]

lemma Linked.cancel (h : Linked d) : d.cancelLast.faulted = false ∧ d.cancelLast.used = d.used ∧
    (d.cancelLast.held = d.held ∧ d.cancelLast.now = d.now) ∧ ∀ info ∈ d.cancelLast.timers, ¬info.Live := by
  rw [cancelLast]
  cases hl : d.lastWakeTimeoutInfo with
  | none =>
    refine ⟨h.faulted, rfl, ⟨rfl, rfl⟩, fun info hi hlive => ?_⟩
    cases hl.symm.trans (h.live info hi hlive)
  | some address =>
    refine ⟨?_, used_set_user_param address d, ⟨rfl, rfl⟩, fun info hi hlive => ?_⟩
    · have hu : address ∈ d.used := h.last address hl
      simp only [setUserParam, h.faulted, hu, not_true_eq_false, decide_false, Bool.or_self]
    · obtain ⟨info', hi', rfl⟩ := List.mem_map.mp hi
      split at hlive
      · cases hlive.2
      · rename_i hne
        exact hne (Option.some.inj ((h.live info' hi' hlive).symm.trans hl))

/-- The new timeout is the only live one. -/
lemma Linked.schedule (h : Linked d) (malloc : Malloc) : Linked (d.scheduleTimeout malloc) ∧ (d.scheduleTimeout malloc).held = d.held ∧
    (d.scheduleTimeout malloc).Pending ∧ ∀ info ∈ (d.scheduleTimeout malloc).timers, info.Live →
      ∀ t, (d.scheduleTimeout malloc).latest = some t → info.deadline = t + timevalWakeTimeout := by
  obtain ⟨hf, hu, ⟨hheld, hnow⟩, hnone⟩ := h.cancel
  have hperm := used_request malloc .wakeTimeoutCallback 0 timevalWakeTimeout d.cancelLast
  refine ⟨⟨hf, ?_, fun address ha => ?_, fun info hi hl => ?_⟩, hheld, ⟨_, List.mem_cons_self, rfl, rfl⟩, ?_⟩
  · exact hperm.nodup_iff.mpr (List.nodup_cons.mpr ⟨malloc.fresh _ _, hu ▸ h.addresses⟩)
  · obtain rfl := Option.some.inj ha
    exact hperm.mem_iff.mpr List.mem_cons_self
  · rcases List.mem_cons.mp hi with rfl | hi
    · rfl
    · exact absurd hl (hnone info hi)
  · intro info hi hl t ht
    rcases List.mem_cons.mp hi with rfl | hi
    · obtain rfl := Option.some.inj ht
      rfl
    · exact absurd hl (hnone info hi)

lemma Linked.schedule_held (h : Linked d) (hh : d.held = true) : Windowed (d.scheduleTimeout malloc) := by
  obtain ⟨hl, hheld, hp, hd⟩ := h.schedule malloc
  exact ⟨hl, iff_of_true (hheld.trans hh) hp, hd, fun hn => absurd hp hn⟩

/-! ### A response -/

/-- What holds while the lock is taken and the timeout is not scheduled yet -/
def Holds (d : WakeState) : Prop := Linked d ∧ d.held = true

lemma Linked.grab (h : Linked d) : Holds d.grabPartialWakeLock := ⟨⟨h.faulted, h.addresses, h.last, h.live⟩, rfl⟩

/-- A response that the radio state brings about finds the lock taken and leaves it so. -/
lemma Holds.changed (h : Holds d) (unsolResponse : Int32) : Holds (d.unsolChanged malloc unsolResponse) := by
  rw [unsolChanged, onUnsolicitedResponse]
  split
  · exact h
  · split
    · exact h
    · split
      · have hw : Windowed (d.grabPartialWakeLock.scheduleTimeout malloc) := h.1.grab.1.schedule_held rfl
        exact ⟨hw.toLinked, hw.held.mpr (h.1.grab.1.schedule malloc).2.2.1⟩
      · rename_i hm
        cases hm
      · exact h
      · rename_i hm
        cases hm

lemma Holds.change_voice_radio_tech (h : Holds d) (tech : ℤ) : Holds (d.changeVoiceRadioTech malloc tech) := by
  rw [changeVoiceRadioTech]
  split
  · refine Holds.changed ?_ _
    exact ⟨⟨h.1.faulted, h.1.addresses, h.1.last, h.1.live⟩, h.2⟩
  · exact h

lemma Holds.change_cdma_subscription_source (h : Holds d) (source : ℤ) :
    Holds (d.changeCdmaSubscriptionSource malloc source) := by
  rw [changeCdmaSubscriptionSource]
  split
  · refine Holds.changed ?_ _
    exact ⟨⟨h.1.faulted, h.1.addresses, h.1.last, h.1.live⟩, h.2⟩
  · exact h

lemma Holds.change_sim_ruim_status (h : Holds d) (status : ℤ) : Holds (d.changeSimRuimStatus malloc status) := by
  rw [changeSimRuimStatus]
  split
  · refine Holds.changed ?_ _
    exact ⟨⟨h.1.faulted, h.1.addresses, h.1.last, h.1.live⟩, h.2⟩
  · exact h

lemma Holds.process (h : Holds d) (newRadioState : RilRadioState) : Holds (d.processRadioState malloc newRadioState) := by
  rw [processRadioState]
  split
  · refine Holds.change_sim_ruim_status ?_ _
    split
    · exact (h.change_voice_radio_tech _).change_cdma_subscription_source _
    · exact h.change_voice_radio_tech _
  · exact h

/-- A response keeps the window, unless it would wake and is not marshalled: then the lock is free. -/
lemma Windowed.respond (h : Windowed d) (unsolResponse : Int32) (marshals : Bool) (newState : RilRadioState)
    (hk : KeepsLock d (.respond unsolResponse marshals newState)) : Windowed (d.respond malloc unsolResponse marshals newState) := by
  rw [WakeState.respond, onUnsolicitedResponse]
  split
  · exact h
  · rename_i hr
    split
    · exact h
    · rename_i info hinfo
      split
      · rename_i hwake
        have hg : Holds d.grabPartialWakeLock := h.grab
        split
        · exact (hg.process newState).1.schedule_held (hg.process newState).2
        · exact hg.1.schedule_held hg.2
      · rename_i hwake
        have hp : ¬d.Pending := by
          rcases hk with hk | hk | hk | hk
          · cases hk
          · exact absurd hk (by simpa using hr)
          · exact hk
          · exact absurd (by rw [hinfo, Option.map_some, hwake]) hk
        have hh : d.held = false := Bool.eq_false_iff.mpr fun hh => hp (h.held.mp hh)
        exact ⟨⟨h.faulted, h.addresses, h.last, h.live⟩, iff_of_false nofun hp, h.deadline, h.ended⟩
      · rename_i hwake
        rw [if_neg]
        · exact h
        · rintro rfl
          cases hinfo
          cases hwake
      · exact h

/-! ### A timer -/

lemma used_fire {info : UserCallbackInfo} (hi : info ∈ d.timers) (hf : d.firing = none) :
    (({ d with timers := d.timers.erase info, firing := some info } : WakeState).used).Perm d.used := by
  rw [used, used, hf]
  exact ((List.perm_cons_erase hi).map _).symm

lemma Windowed.fire {info : UserCallbackInfo} (h : Windowed d) (hi : info ∈ d.timers) (hdue : d.now > info.deadline)
    (hf : d.firing = none) : Windowed (d.fire info) := by
  have hperm := used_fire hi hf
  have hnodup : d.timers.Nodup := (List.Nodup.of_map _ h.addresses).of_append_right
  have hrest : ∀ i ∈ d.timers.erase info, i ∈ d.timers := fun i hm => List.mem_of_mem_erase hm
  have hlinked : Linked { d with timers := d.timers.erase info, firing := some info } :=
    ⟨h.faulted, hperm.nodup_iff.mpr h.addresses, fun a ha => hperm.mem_iff.mpr (h.last a ha),
      fun i hm hl => h.live i (hrest i hm) hl⟩
  by_cases hl : info.Live
  · -- the only live timeout runs out
    have hnone : ¬∃ i ∈ d.timers.erase info, i.Live := by
      rintro ⟨i, hm, hli⟩
      obtain rfl := h.window.single i (hrest i hm) info hi hli hl
      exact hnodup.not_mem_erase hm
    have hfire : d.fire info = { d with timers := d.timers.erase info, firing := some info, held := false } := by
      rw [WakeState.fire, hl.1]
      exact if_pos hl.2
    rw [hfire]
    refine ⟨⟨hlinked.faulted, hlinked.addresses, hlinked.last, hlinked.live⟩, iff_of_false nofun hnone,
      fun i hm => h.deadline i (hrest i hm), fun _ t ht => ?_⟩
    have := h.deadline info hi hl t ht
    dsimp only
    omega
  · have hfire : d.fire info = { d with timers := d.timers.erase info, firing := some info } := by
      rw [WakeState.fire]
      cases hc : info.callback with
      | wakeTimeoutCallback => exact if_neg fun hp => hl ⟨hc, hp⟩
      | user => rfl
    have hpending : (∃ i ∈ d.timers.erase info, i.Live) ↔ d.Pending := by
      refine ⟨fun ⟨i, hm, hli⟩ => ⟨i, hrest i hm, hli⟩, fun ⟨i, hm, hli⟩ => ⟨i, ?_, hli⟩⟩
      refine (List.mem_erase_of_ne ?_).mpr hm
      rintro rfl
      exact hl hli
    rw [hfire]
    exact ⟨hlinked, h.held.trans hpending.symm, fun i hm => h.deadline i (hrest i hm), fun hn => h.ended (mt hpending.mpr hn)⟩

lemma Windowed.free_info {info : UserCallbackInfo} (h : Windowed d) (hf : d.firing = some info) :
    Windowed (d.freeInfo info) := by
  have hused : d.used = info.address :: d.timers.map UserCallbackInfo.address := by
    rw [used, hf]
    rfl
  have hnodup := List.nodup_cons.mp (hused ▸ h.addresses)
  refine ⟨⟨h.faulted, hnodup.2, fun a ha => ?_, fun i hi hl => ?_⟩, h.held, h.deadline, h.ended⟩
  · rw [freeInfo] at ha
    dsimp only at ha
    split at ha
    · cases ha
    · rename_i hne
      have hmem := h.last a ha
      rw [hused] at hmem
      refine (List.mem_cons.mp hmem).resolve_left ?_
      rintro rfl
      exact hne ha
  · have hlast := h.live i hi hl
    refine (if_neg fun heq => hnodup.1 ?_).trans hlast
    obtain he := Option.some.inj (hlast.symm.trans heq)
    exact he ▸ List.mem_map_of_mem hi

lemma Windowed.request (h : Windowed d) (param : ℕ) (relativeTime : ℤ) :
    Windowed (d.internalRequestTimedCallback malloc .user param relativeTime) := by
  have hlive : ∀ i ∈ (d.internalRequestTimedCallback malloc .user param relativeTime).timers, i.Live → i ∈ d.timers := by
    intro i hi hl
    rcases List.mem_cons.mp hi with rfl | hi
    · cases hl.1
    · exact hi
  have hpending : (d.internalRequestTimedCallback malloc .user param relativeTime).Pending ↔ d.Pending :=
    ⟨fun ⟨i, hi, hl⟩ => ⟨i, hlive i hi hl, hl⟩, fun ⟨i, hi, hl⟩ => ⟨i, List.mem_cons_of_mem _ hi, hl⟩⟩
  exact ⟨h.toLinked.request param relativeTime, h.held.trans hpending.symm,
    fun i hi hl => h.deadline i (hlive i hi hl) hl, fun hn => h.ended (mt hpending.mpr hn)⟩

lemma windowed_step {d' : WakeState} {a : WakeAction} (h : Windowed d) (ha : KeepsLock d a)
    (hs : wakeStep malloc d a = some d') : Windowed d' := by
  cases a with
  | register =>
    cases hs
    exact ⟨⟨h.faulted, h.addresses, h.last, h.live⟩, h.held, h.deadline, h.ended⟩
  | respond unsolResponse marshals newState =>
    cases hs
    exact h.respond _ _ _ ha
  | requestTimedCallback param relativeTime =>
    cases hs
    exact h.request param relativeTime
  | tick usec =>
    cases hs
    refine ⟨⟨h.faulted, h.addresses, h.last, h.live⟩, h.held, h.deadline, fun hp t ht => ?_⟩
    have := h.ended hp t ht
    dsimp only
    omega
  | fire info =>
    rw [wakeStep] at hs
    split at hs
    · rename_i hc
      cases hs
      exact h.fire hc.1 hc.2.1 hc.2.2
    · cases hs
  | freeInfo =>
    obtain ⟨info, hf, rfl⟩ := Option.map_eq_some_iff.mp hs
    exact h.free_info hf

lemma windowed_reaches (hr : Reaches (wakeStep malloc) KeepsLock {} d) : Windowed d := by
  refine hr.invariant ?_ fun s a s' _ hi ha hs => windowed_step hi ha hs
  exact ⟨⟨rfl, .nil, fun _ h => (by cases h), fun _ h => (by cases h)⟩, iff_of_false nofun (by rintro ⟨_, h, -⟩; cases h),
    fun _ h => (by cases h), fun _ _ h => (by cases h)⟩

/-- As long as every response that fails finds no wake timeout pending, the lock is held in the windows after the
responses and not longer than there is a timeout. From there a step keeps this exactly if it is not such a response. -/
theorem wake_window_kept (hr : Reaches (wakeStep malloc) KeepsLock {} d) :
    WakeWindow d ∧ ∀ a d', wakeStep malloc d a = some d' → (WakeWindow d' ↔ KeepsLock d a) := by
  have h := windowed_reaches hr
  refine ⟨h.window, fun a d' hs => ⟨fun hw => ?_, fun ha => (windowed_step h ha hs).window⟩⟩
  cases a with
  | respond unsolResponse marshals newState =>
    by_contra hk
    simp only [KeepsLock, not_or, not_not] at hk
    obtain ⟨hm, hreg, hp, hwake⟩ := hk
    obtain ⟨info, hinfo, hpartial⟩ := Option.map_eq_some_iff.mp hwake
    have hm : marshals = false := Bool.eq_false_iff.mpr hm
    have hd' : d' = { d with held := false } := by
      rw [wakeStep, WakeState.respond, onUnsolicitedResponse, hinfo, hm] at hs
      dsimp only at hs
      rw [if_neg (by simpa using hreg), hpartial] at hs
      exact (Option.some.inj hs).symm
    subst hd'
    exact absurd (hw.held.mpr hp) nofun
  | _ => trivial

def keepsLock (d : WakeState) : WakeAction → Bool
  | .respond _ marshals _ => marshals || !d.registered
  | _ => true

lemma keeps_lock (d : WakeState) (a : WakeAction) (h : keepsLock d a = true) : KeepsLock d a := by
  cases a with
  | respond unsolResponse marshals newState =>
    rcases Bool.or_eq_true_iff.mp h with hm | hr
    · exact .inl hm
    · exact .inr (.inl (by simpa using hr))
  | _ => trivial

/-- A new radio state sends three responses before its own. Only its own timeout gives the lock back. -/
def radioStateRun : List WakeAction :=
  [.register, .respond 1000 true .ruimReady, .tick 1000001, .fire ⟨1, .wakeTimeoutCallback, 1, 1000000⟩, .freeInfo,
    .fire ⟨8, .wakeTimeoutCallback, 0, 1000000⟩, .freeInfo, .respond 1003 true .on]

theorem radio_state_run_window : ∃ d : WakeState, d.timers.length = 3 ∧ d.held = true ∧ (WakeWindow d ∧
    ∀ a d', wakeStep .next d a = some d' → (WakeWindow d' ↔ KeepsLock d a)) :=
  ⟨_, by decide, by decide, wake_window_kept (.of_run radioStateRun rfl (by decide) keeps_lock)⟩

/-- A new SMS is announced; half a second later the ints of a response have the length 3, and the lock is given back. -/
theorem lock_released_early : ¬∀ (malloc : Malloc) (d : WakeState),
    Reaches (wakeStep malloc) (fun _ _ => True) {} d → WakeWindow d := by
  intro h
  have hr : Reaches (wakeStep .next) (fun _ _ => True) {} _ :=
    .tail (.tail (.tail (.tail .refl trivial (a := .register) rfl) trivial (a := .respond 1003 true .on) rfl)
      trivial (a := .tick 500000) rfl) trivial (a := .respond 1015 false .on) rfl
  have hheld := (h _ _ hr).window 0 rfl (by decide)
  exact absurd hheld (by decide)

end WakeState

end Ril.Libril
