import Mathlib.Data.List.Perm.Subperm
import Ril.Mock.RadioCalls

/-! Which requests of the simulated radio are all or nothing. -/

namespace Ril.Mock

open Lib

/-- Whether a command tells that the calls have changed. `CMD_CALL_STATE_CHANGE` and `CMD_UNSOL_CALL_RING` lead to this
only when they are processed, and `later` says whether they count. -/
def RadioCommand.reports (later : Bool) : RadioCommand → Bool
  | unsolCallStateChanged => true
  | callStateChange _ _ | unsolCallRing => later

/-- A request that fails leaves the calls and the ringing alone, and one that changes the calls reports it. -/
structure AllOrNothing (later : Bool) (r : Radio) (result : RadioResult) : Prop where
  failed : result.rilErrCode.isError = true → result.radio.currentCalls = r.currentCalls ∧
    result.radio.numberActiveCalls = r.numberActiveCalls ∧
    result.radio.incomingCallIsProcessed = r.incomingCallIsProcessed
  reported : result.radio.currentCalls ≠ r.currentCalls → ∃ c ∈ result.queued, c.reports later = true

/-- All the calls are in a state that is accepted, or the first of them is not. -/
def Agree (accepted : CallState → Bool) (calls : List RilCall) : Prop :=
  (∀ c ∈ calls, accepted c.state = true) ∨ ∀ c ∈ calls.head?, accepted c.state = false

def CallState.isBackground : CallState → Bool
  | holding | waiting | incoming => true
  | active | dialing | alerting => false

def CallState.isSwitchable : CallState → Bool
  | active | holding | waiting => true
  | dialing | alerting | incoming => false

namespace Radio

variable {r r' : Radio} {i j : ℕ} {c d : RilCall} {result : RadioResult} {later : Bool}

/-- Where a request is all or nothing. Of the calls the request for a separate connection changes only the others. -/
def isAllOrNothing (later : Bool) (r : Radio) : RadioRequest → Prop
  | .dial _ => later = true ∨ maxNumberActiveCalls ≤ r.numberActiveCalls
  | .hangUp connectionIndex => r.getCall connectionIndex = none
  | .hangupWaitingOrBackground => Agree CallState.isBackground r.currentCalls
  | .hangUpForegroundResumeBackground => Agree CallState.isSwitchable r.currentCalls
  | .switchWaitingOrHoldingAndActive =>
    r.lastReq = RadioRequest.switchWaitingOrHoldingAndActive.reqNum ∨ Agree CallState.isSwitchable r.currentCalls
  | .answer => r.numberActiveCalls ≠ 1
  | .separateConnection index =>
    ∀ c, r.getCall index = some c → c.state = .active →
      Agree (· = .active) (r.currentCalls.filter fun d => index ≠ d.index)
  | .startInComingCall _ =>
    later = true ∨ maxNumberActiveCalls ≤ r.numberActiveCalls ∨ ∃ c ∈ r.currentCalls, c.state.isSettingUp = true
  | .addDialingCall _ => maxNumberActiveCalls ≤ r.numberActiveCalls ∨ ∃ c ∈ r.currentCalls, c.state = .dialing
  | .conference | .hangupConnRemote _ _ | .setCallTransitionFlag _ | .setCallAlert | .setCallActive | .command _ | .other _ _ =>
    True

lemma all_or_nothing_same (h : result.radio.currentCalls = r.currentCalls)
    (hn : result.radio.numberActiveCalls = r.numberActiveCalls)
    (hf : result.rilErrCode.isError = true → result.radio.incomingCallIsProcessed = r.incomingCallIsProcessed) :
    AllOrNothing later r result where
  failed he := ⟨h, hn, hf he⟩
  reported hne := absurd h hne

lemma all_or_nothing_reported (he : result.rilErrCode.isError = false) (hq : ∃ c ∈ result.queued, c.reports later = true) :
    AllOrNothing later r result where
  failed he' := absurd (he.symm.trans he') Bool.false_ne_true
  reported _ := hq

/-- The calls are changed, and all the commands that are queued count or none does. -/
lemma all_or_nothing_changed {counts : Bool} (h : result.radio.currentCalls ≠ r.currentCalls)
    (he : counts = true → result.rilErrCode.isError = false ∧ result.queued ≠ [])
    (hq : ∀ c ∈ result.queued, c.reports later = counts) : AllOrNothing later r result ↔ counts = true := by
  constructor
  · intro ha
    obtain ⟨c, hc, hr⟩ := ha.reported h
    exact (hq c hc).symm.trans hr
  · intro hcounts
    obtain ⟨c, hc⟩ := List.exists_mem_of_ne_nil _ (he hcounts).2
    exact all_or_nothing_reported (he hcounts).1 ⟨c, hc, (hq c hc).trans hcounts⟩

lemma not_all_or_nothing (h : result.radio.currentCalls ≠ r.currentCalls) (hq : result.queued = []) :
    ¬ AllOrNothing later r result := by
  intro ha
  obtain ⟨c, hc, -⟩ := ha.reported h
  simp [hq] at hc

/-- A call that becomes another, or goes, changes the calls. -/
lemma Visited.changed {o : Option RilCall} (h : Visited r r' i o) (hc : r.call i = some c) (ho : o ≠ some c) :
    r'.currentCalls ≠ r.currentCalls := by
  rw [h.current_calls, current_calls_at hc]
  cases o with
  | none => exact fun he => absurd (congrArg List.length he) (by simp)
  | some d =>
    intro he
    rw [List.append_assoc] at he
    exact ho (congrArg some (List.cons.inj (List.append_cancel_left he)).1)

/-- A handler keeps the table well indexed, and is all or nothing under a condition. -/
structure Settled (later : Bool) (r : Radio) (result : RadioResult) (condition : Prop) : Prop where
  wellIndexed : WellIndexed result.radio
  allOrNothing : AllOrNothing later r result ↔ condition

lemma Settled.congr {p q : Prop} (h : Settled later r result p) (hpq : p ↔ q) : Settled later r result q :=
  ⟨h.wellIndexed, h.allOrNothing.trans hpq⟩

lemma settled_true (hw : WellIndexed result.radio) (h : AllOrNothing later r result) : Settled later r result True :=
  ⟨hw, iff_true_intro h⟩

lemma settled_same {condition : Prop} (h : WellIndexed r) (hr : result.radio = r) (hcond : condition) :
    Settled later r result condition := by
  subst hr
  exact ⟨h, iff_of_true (all_or_nothing_same rfl rfl fun _ => rfl) hcond⟩

/-! ### A new call -/

lemma call_set_call : (r.setCall i c).call j = if j = i then some c else r.call j := by
  unfold setCall
  split
  next hi => exact call_set hi
  next hi => exact grown_get (Nat.le_of_not_lt hi)

lemma set_call_number : (r.setCall i c).numberActiveCalls = r.numberActiveCalls := rfl

lemma set_call_length (hn : r.call i = none) : (r.setCall i c).currentCalls.length = r.currentCalls.length + 1 := by
  unfold setCall
  split
  next hi =>
    have hfree : r.calls[i]? = some none := by
      rw [List.getElem?_eq_getElem hi]
      simpa [call, List.getElem?_eq_getElem hi] using hn
    simpa [currentCalls] using (entries_fill hfree (a := c)).length_eq
  next hi => simp [currentCalls, List.reduceOption_append]

lemma exists_free_index (h : WellIndexed r) (hn : r.numberActiveCalls < maxNumberActiveCalls) :
    ∃ i, ((List.range' 1 maxNumberActiveCalls).find? fun i => (r.call i).isNone) = some i := by
  by_contra hnone
  have hall : ∀ i ∈ List.range' 1 maxNumberActiveCalls, ¬ (r.call i).isNone = true := by
    rw [← List.find?_eq_none]
    exact Option.eq_none_iff_forall_ne_some.mpr fun i hi => hnone ⟨i, hi⟩
  have hsub : List.range' 1 maxNumberActiveCalls ⊆ r.currentCalls.map RilCall.index := by
    intro i hi
    obtain ⟨c, hc⟩ := Option.ne_none_iff_exists'.mp (by simpa using hall i hi)
    exact List.mem_map.mpr ⟨c, mem_current_calls.mpr ⟨i, hc⟩, (h.own i c hc).1⟩
  have hle := (List.subperm_of_subset List.nodup_range' hsub).length_le
  rw [List.length_range', List.length_map, ← h.counted] at hle
  omega

lemma add_call_full {state : CallState} {number name : String} (hn : maxNumberActiveCalls ≤ r.numberActiveCalls) :
    r.addCall state number name = (none, r) := if_neg (Nat.not_lt.mpr hn)

lemma add_call_added (state : CallState) (number name : String) (h : WellIndexed r)
    (hn : r.numberActiveCalls < maxNumberActiveCalls) :
    ∃ c r', r.addCall state number name = (some c, r') ∧ WellIndexed r' ∧
      r'.currentCalls.length = r.currentCalls.length + 1 := by
  obtain ⟨i, hi⟩ := exists_free_index h hn
  have hfree : r.call i = none := by simpa using List.find?_some hi
  have hrange := List.mem_range'_1.mp (List.mem_of_find?_eq_some hi)
  have hi' : ((List.range' 1 maxNumberActiveCalls).find? fun i =>
      (({ r with numberActiveCalls := r.numberActiveCalls + 1 } : Radio).call i).isNone) = some i := hi
  simp only [addCall, hn, if_true, hi']
  have hc : ({ r with numberActiveCalls := r.numberActiveCalls + 1 } : Radio).call i = none := hfree
  refine ⟨_, _, rfl, ⟨?_, fun j d hd => ?_⟩, set_call_length hc⟩
  · rw [set_call_length hc, set_call_number, h.counted]
    rfl
  · rw [call_set_call] at hd
    split at hd
    next hji =>
      rw [← Option.some.inj hd, hji]
      exact ⟨rfl, hrange.1, by omega⟩
    next => exact h.own j d hd

/-! ### The handlers -/

lemma dial_settled {address : String} (h : WellIndexed r) :
    Settled later r (r.rilRequestDial address) (later = true ∨ maxNumberActiveCalls ≤ r.numberActiveCalls) := by
  unfold rilRequestDial
  by_cases hn : r.numberActiveCalls < maxNumberActiveCalls
  · obtain ⟨c, r', hadd, hw, hlen⟩ := add_call_added .dialing address "" h hn
    have hne : r'.currentCalls ≠ r.currentCalls := fun he => by simp [he] at hlen
    rw [hadd, or_iff_left (Nat.not_le.mpr hn)]
    refine ⟨hw, all_or_nothing_changed hne (fun _ => ⟨rfl, List.cons_ne_nil _ _⟩) fun c hc => ?_⟩
    rcases List.mem_cons.mp hc with rfl | hc
    · rfl
    · split at hc
      next => cases hc
      next =>
        simp only [List.mem_cons, List.not_mem_nil, or_false] at hc
        rcases hc with rfl | rfl <;> rfl
  · have hfull : maxNumberActiveCalls ≤ r.numberActiveCalls := Nat.le_of_not_lt hn
    rw [add_call_full hfull]
    exact settled_same h rfl (.inr hfull)

lemma hang_up_settled {connectionIndex : ℤ} (h : WellIndexed r) :
    Settled later r (r.rilRequestHangUp connectionIndex) (r.getCall connectionIndex = none) := by
  unfold rilRequestHangUp
  cases hc : r.getCall connectionIndex with
  | none =>
    rw [remove_call_none hc]
    exact settled_same h rfl rfl
  | some c =>
    obtain ⟨i, rfl, hci⟩ := get_call_some hc
    obtain ⟨r', hr, hv⟩ := remove_call_visited h hci
    rw [hr]
    exact ⟨hv.wellIndexed, iff_of_false (not_all_or_nothing (hv.changed hci (Option.some_ne_none c).symm) rfl) (Option.some_ne_none c)⟩

lemma answer_settled (h : WellIndexed r) : Settled later r r.rilRequestAnswer (r.numberActiveCalls ≠ 1) := by
  unfold rilRequestAnswer
  split
  next hn => exact settled_same h rfl hn
  next hn =>
    have hone : r.currentCalls.length = 1 := h.counted.symm.trans (not_not.mp hn)
    cases hf : r.calls.findIdx? Option.isSome with
    | none =>
      have hnone : r.calls.reduceOption = [] := List.filterMap_eq_nil_iff.mpr fun o ho => by
        simpa using List.findIdx?_eq_none_iff.mp hf o ho
      simp [currentCalls, hnone] at hone
    | some i =>
      obtain ⟨hi, hsome, -⟩ := List.findIdx?_eq_some_iff_getElem.mp hf
      obtain ⟨c, hget⟩ := Option.isSome_iff_exists.mp hsome
      have hc : r.call i = some c := call_eq_some.mpr (by rw [List.getElem?_eq_getElem hi, hget])
      simp only [hc]
      split
      next hs =>
        have hv : Visited r (r.setState i c .active) i _ := set_state_visited h hc
        refine ⟨⟨hv.wellIndexed.counted, hv.wellIndexed.own⟩, iff_of_false (not_all_or_nothing ?_ rfl) hn⟩
        refine hv.changed hc fun he => ?_
        rw [← Option.some.inj he] at hs
        cases hs
      next =>
        obtain ⟨r', hr, hv⟩ := remove_call_visited h hc
        rw [hr]
        exact ⟨hv.wellIndexed, iff_of_false (not_all_or_nothing (hv.changed hc (Option.some_ne_none c).symm) rfl) hn⟩

lemma walk_request_settled {becomes : RilCall → Option (Option RilCall)} {visit : ℕ → RilCall → Radio → Option Radio}
    (hv : Visits becomes visit) (h : WellIndexed r) :
    Settled later r (walkRequest visit r) ((∀ c ∈ r.currentCalls, (becomes c).isSome) ∨
      ∀ c ∈ (r.currentCalls.filter fun c => becomes c ≠ some (some c)).head?, becomes c = none) := by
  unfold walkRequest
  split
  next hn =>
    have hempty : r.currentCalls = [] := List.length_eq_zero_iff.mp (h.counted.symm.trans hn)
    exact settled_same h rfl (.inl (by simp [hempty]))
  next =>
    have hwalked : Walked becomes 0 r (walkCalls visit r.calls.length 0 r) :=
      walk_calls_walked hv h (Nat.le_of_eq (Nat.zero_add _).symm)
    rw [← sweep_all_or_nothing]
    cases hwalk : walkCalls visit r.calls.length 0 r with
    | mk r' ok =>
      rw [hwalk] at hwalked
      have hw : WellIndexed r' := hwalked.wellIndexed
      have hcalls : r'.currentCalls = (sweep becomes r.currentCalls).1 := hwalked.calls
      have hfin : ok = (sweep becomes r.currentCalls).2 := hwalked.finished
      rw [← hcalls, ← hfin]
      cases ok with
      | true => exact ⟨hw, iff_of_true (all_or_nothing_reported rfl ⟨_, List.mem_singleton_self _, rfl⟩) nofun⟩
      | false =>
        refine ⟨hw, fun ha _ => (ha.failed rfl).1, fun hsame => ?_⟩
        have hs : r'.currentCalls = r.currentCalls := hsame rfl
        have hn : r'.numberActiveCalls = r.numberActiveCalls := by rw [hw.counted, hs, h.counted]
        refine all_or_nothing_same hs hn fun _ => ?_
        exact hwalked.flag.resolve_right fun hlt => by simp [hs] at hlt

/-- A walk that leaves no call as it is looks only at the states. -/
lemma walk_request_agrees {becomes : RilCall → Option (Option RilCall)} {visit : ℕ → RilCall → Radio → Option Radio}
    {accepted : CallState → Bool} (hv : Visits becomes visit) (h : WellIndexed r)
    (hacc : ∀ c, (becomes c).isSome = accepted c.state) (hchg : ∀ c, becomes c ≠ some (some c)) :
    Settled later r (walkRequest visit r) (Agree accepted r.currentCalls) := by
  have hs : Settled later r (walkRequest visit r) _ := walk_request_settled hv h
  have hnone (c : RilCall) : becomes c = none ↔ accepted c.state = false := by
    rw [← hacc, Option.isSome_eq_false_iff, Option.isNone_iff_eq_none]
  have hfilter : r.currentCalls.filter (fun c => becomes c ≠ some (some c)) = r.currentCalls :=
    List.filter_eq_self.mpr fun c _ => by simp [hchg]
  simpa only [hfilter, hacc, hnone, Agree] using hs

def backgroundHungUp (c : RilCall) : Option (Option RilCall) := if c.state.isBackground then some none else none

lemma hangup_waiting_settled (h : WellIndexed r) :
    Settled later r r.rilRequestHangupWaitingOrBackground (Agree CallState.isBackground r.currentCalls) := by
  refine walk_request_agrees (?_ : Visits backgroundHungUp _) h (fun c => ?_) (fun c => ?_)
  · intro r i c h hc
    have hgone : ∃ r', some { (r.removeCall i).2 with incomingCallIsProcessed := true } = some r' ∧
        Visited r r' i none := by
      obtain ⟨r', hr, hv⟩ := remove_call_visited h hc
      rw [hr]
      exact ⟨_, rfl, ⟨hv.wellIndexed.counted, hv.wellIndexed.own⟩, hv.upTo, hv.after, hv.length, .inr rfl⟩
    dsimp only [backgroundHungUp]
    cases c.state <;> first | exact hgone | rfl
  · unfold backgroundHungUp
    cases c.state <;> rfl
  · unfold backgroundHungUp
    split <;> nofun

lemma moved_ne {state : CallState} (h : c.state ≠ state) :
    (some (some { c with state := state }) : Option (Option RilCall)) ≠ some (some c) := by
  intro he
  exact h (congrArg RilCall.state (Option.some.inj (Option.some.inj he))).symm

def foregroundHungUp (c : RilCall) : Option (Option RilCall) :=
  match c.state with
  | .active => some none
  | .holding | .waiting => some (some { c with state := .active })
  | _ => none

lemma hangup_foreground_settled (h : WellIndexed r) :
    Settled later r r.rilRequestHangUpForegroundResumeBackground (Agree CallState.isSwitchable r.currentCalls) := by
  refine walk_request_agrees (?_ : Visits foregroundHungUp _) h (fun c => ?_) (fun c => ?_)
  · intro r i c h hc
    have hgone : ∃ r', some (r.removeCall i).2 = some r' ∧ Visited r r' i none := by
      obtain ⟨r', hr, hv⟩ := remove_call_visited h hc
      rw [hr]
      exact ⟨_, rfl, hv⟩
    have hset : ∃ r', some (r.setState i c .active) = some r' ∧ Visited r r' i (some { c with state := .active }) :=
      ⟨_, rfl, set_state_visited h hc⟩
    dsimp only [foregroundHungUp]
    cases c.state <;> first | exact hgone | exact hset | rfl
  · unfold foregroundHungUp
    cases c.state <;> rfl
  · unfold foregroundHungUp
    split
    next => nofun
    next hs => exact moved_ne (by rw [hs]; nofun)
    next hs => exact moved_ne (by rw [hs]; nofun)
    next => nofun

def switched (c : RilCall) : Option (Option RilCall) :=
  match c.state with
  | .active => some (some { c with state := .holding })
  | .holding | .waiting => some (some { c with state := .active })
  | _ => none

lemma switch_settled (h : WellIndexed r) :
    Settled later r r.rilRequestSwitchWaitingOrHoldingAndActive
      (r.lastReq = RadioRequest.switchWaitingOrHoldingAndActive.reqNum ∨ Agree CallState.isSwitchable r.currentCalls) := by
  unfold rilRequestSwitchWaitingOrHoldingAndActive
  split
  next hl => exact settled_same h rfl (.inl hl)
  next hl =>
    rw [or_iff_right hl]
    refine walk_request_agrees (?_ : Visits switched _) h (fun c => ?_) (fun c => ?_)
    · intro r i c h hc
      have hset (state : CallState) : ∃ r', some (r.setState i c state) = some r' ∧
          Visited r r' i (some { c with state := state }) := ⟨_, rfl, set_state_visited h hc⟩
      dsimp only [switched]
      cases c.state <;> first | exact hset _ | rfl
    · unfold switched
      cases c.state <;> rfl
    · unfold switched
      split
      next hs => exact moved_ne (by rw [hs]; nofun)
      next hs => exact moved_ne (by rw [hs]; nofun)
      next hs => exact moved_ne (by rw [hs]; nofun)
      next => nofun

def joined (c : RilCall) : Option (Option RilCall) :=
  match c.state with
  | .active => some (some c)
  | .holding => some (some { c with state := .active })
  | _ => none

/-- The states are all looked at before any of them is changed. -/
lemma conference_settled (h : WellIndexed r) : Settled later r r.rilRequestConference True := by
  unfold rilRequestConference
  split
  next => exact settled_same h rfl trivial
  split
  next => exact settled_same h rfl trivial
  next hgood =>
    refine (walk_request_settled (?_ : Visits joined _) h).congr (iff_true_intro (.inl fun c hc => ?_))
    · intro r i c h hc
      have hkept : ∃ r', some r = some r' ∧ Visited r r' i (some c) := ⟨_, rfl, visited_kept h hc⟩
      have hset : ∃ r', some (r.setState i c .active) = some r' ∧ Visited r r' i (some { c with state := .active }) :=
        ⟨_, rfl, set_state_visited h hc⟩
      dsimp only [joined]
      cases c.state <;> first | exact hkept | exact hset | rfl
    · have hstate : c.state = .active ∨ c.state = .holding := by
        by_contra hbad
        exact hgood ⟨c, hc, not_or.mp hbad⟩
      rcases hstate with hstate | hstate <;> simp [joined, hstate]

def separated (index : ℤ) (c : RilCall) : Option (Option RilCall) :=
  if index ≠ c.index then
    match c.state with
    | .active => some (some { c with state := .holding })
    | _ => none
  else some (some c)

lemma separated_other {index : ℤ} (h : index ≠ c.index) :
    ((separated index c).isSome = true ↔ decide (c.state = .active) = true) ∧ separated index c ≠ some (some c) := by
  rw [separated, if_pos h]
  split
  next hs => exact ⟨by simp [hs], moved_ne (by rw [hs]; nofun)⟩
  next hs =>
    have hne : c.state ≠ .active := hs
    exact ⟨by simp [hne], nofun⟩

lemma separated_own {index : ℤ} (h : index = c.index) : separated index c = some (some c) := by simp [separated, h]

lemma separate_walk {index : ℤ} (calls : List RilCall) :
    ((∀ c ∈ calls, (separated index c).isSome) ∨
      ∀ c ∈ (calls.filter fun c => separated index c ≠ some (some c)).head?, separated index c = none) ↔
    Agree (· = .active) (calls.filter fun c => index ≠ c.index) := by
  have hfilter : calls.filter (fun c => separated index c ≠ some (some c)) = calls.filter fun c => index ≠ c.index :=
    List.filter_congr fun c _ => decide_eq_decide.mpr
      ⟨fun hne he => hne (separated_own he), fun hne => (separated_other hne).2⟩
  rw [hfilter]
  refine or_congr ⟨fun hall c hc => ?_, fun hall c hc => ?_⟩ (forall₂_congr fun c hc => ?_)
  · obtain ⟨hmem, hne⟩ := List.mem_filter.mp hc
    exact (separated_other (of_decide_eq_true hne)).1.mp (hall c hmem)
  · by_cases hne : index ≠ c.index
    · exact (separated_other hne).1.mpr (hall c (List.mem_filter.mpr ⟨hc, decide_eq_true hne⟩))
    · rw [separated_own (not_not.mp hne)]
      rfl
  · have hne := of_decide_eq_true (List.mem_filter.mp (List.mem_of_mem_head? hc)).2
    rw [← Option.not_isSome_iff_eq_none, (separated_other hne).1, Bool.not_eq_true]

lemma separate_settled {index : ℤ} (h : WellIndexed r) :
    Settled later r (r.rilReqestSeparateConnection index) (∀ c, r.getCall index = some c → c.state = .active →
      Agree (· = .active) (r.currentCalls.filter fun d => index ≠ d.index)) := by
  unfold rilReqestSeparateConnection
  split
  next hn =>
    refine settled_same h rfl fun c hc => ?_
    obtain ⟨i, -, hci⟩ := get_call_some hc
    exact absurd (h.pos hci) (by omega)
  next =>
    cases hc : r.getCall index with
    | none => exact settled_same h rfl nofun
    | some separateConn =>
      dsimp only
      split
      next hs =>
        refine settled_same h rfl fun c hc hact => absurd ?_ hs
        rw [Option.some.inj hc, hact]
      next hs =>
        refine (walk_request_settled (?_ : Visits (separated index) _) h).congr ?_
        · intro r i c h hc
          have hkept : ∃ r', some r = some r' ∧ Visited r r' i (some c) := ⟨_, rfl, visited_kept h hc⟩
          have hset : ∃ r', some (r.setState i c .holding) = some r' ∧
              Visited r r' i (some { c with state := .holding }) := ⟨_, rfl, set_state_visited h hc⟩
          have hi : (c.index : ℤ) = i := congrArg Nat.cast (h.own i c hc).1
          dsimp only [separated]
          rw [hi]
          by_cases hne : index ≠ i
          · rw [if_pos hne, if_pos hne]
            cases c.state <;> first | exact hset | rfl
          · rw [if_neg hne, if_neg hne]
            exact hkept
        · rw [separate_walk]
          exact ⟨fun ha _ _ _ => ha, fun ha => ha separateConn rfl (not_not.mp hs)⟩

lemma start_incoming_settled {phoneNumber : String} (h : WellIndexed r) :
    Settled later r (r.ctrlServerCmdStartInComingCall phoneNumber) (later = true ∨
      maxNumberActiveCalls ≤ r.numberActiveCalls ∨ ∃ c ∈ r.currentCalls, c.state.isSettingUp = true) := by
  unfold ctrlServerCmdStartInComingCall
  split
  next hbusy => exact settled_same h rfl (.inr (.inr (List.any_eq_true.mp hbusy.2)))
  next hfree =>
    have hnone : ¬ ∃ c ∈ r.currentCalls, c.state.isSettingUp = true := by
      rintro ⟨c, hc, hs⟩
      refine hfree ⟨?_, List.any_eq_true.mpr ⟨c, hc, hs⟩⟩
      rw [h.counted]
      exact Nat.ne_of_gt (List.length_pos_of_mem hc)
    rw [or_iff_left hnone]
    by_cases hn : r.numberActiveCalls < maxNumberActiveCalls
    · obtain ⟨c, r', hadd, hw, hlen⟩ :=
        add_call_added (if r.numberActiveCalls = 0 then .incoming else .waiting) phoneNumber "" h hn
      have hne : r'.currentCalls ≠ r.currentCalls := fun he => by simp [he] at hlen
      rw [hadd, or_iff_left (Nat.not_le.mpr hn)]
      refine ⟨⟨hw.counted, hw.own⟩, all_or_nothing_changed hne (fun _ => ⟨rfl, List.cons_ne_nil _ _⟩) fun c hc => ?_⟩
      rw [List.mem_singleton.mp hc]
      rfl
    · have hfull : maxNumberActiveCalls ≤ r.numberActiveCalls := Nat.le_of_not_lt hn
      rw [add_call_full hfull]
      exact ⟨⟨h.counted, h.own⟩, iff_of_true (all_or_nothing_same rfl rfl nofun) (.inr hfull)⟩

lemma hangup_remote_settled {connection failureCause : ℤ} (h : WellIndexed r) :
    Settled later r (r.ctrlServerCmdHangupConnRemote connection failureCause) True := by
  unfold ctrlServerCmdHangupConnRemote
  cases hc : r.getCall connection with
  | none =>
    rw [remove_call_none hc]
    exact settled_same h rfl trivial
  | some c =>
    obtain ⟨i, rfl, hci⟩ := get_call_some hc
    obtain ⟨r', hr, hv⟩ := remove_call_visited h hci
    rw [hr]
    exact settled_true ⟨hv.wellIndexed.counted, hv.wellIndexed.own⟩
      (all_or_nothing_reported rfl ⟨_, List.mem_singleton_self _, rfl⟩)

lemma move_only_call_settled {state nextState : CallState} (h : WellIndexed r) :
    Settled later r (r.moveOnlyCall state nextState) True := by
  unfold moveOnlyCall
  dsimp only
  split
  next => exact settled_same h rfl trivial
  split
  next => exact settled_same h rfl trivial
  split
  next => exact settled_same h rfl trivial
  next i _ =>
    cases hc : r.call i with
    | none => exact settled_same h rfl trivial
    | some c =>
      exact settled_true (set_state_visited h hc).wellIndexed
        (all_or_nothing_reported rfl ⟨_, List.mem_singleton_self _, rfl⟩)

lemma add_dialing_settled {phoneNumber : String} (h : WellIndexed r) :
    Settled later r (r.ctrlServerCmdAddDialingCall phoneNumber)
      (maxNumberActiveCalls ≤ r.numberActiveCalls ∨ ∃ c ∈ r.currentCalls, c.state = .dialing) := by
  have hcount : r.countCallsInState .dialing = 0 ↔ ¬ ∃ c ∈ r.currentCalls, c.state = .dialing := by
    simp [countCallsInState]
  unfold ctrlServerCmdAddDialingCall
  split
  next hz =>
    rw [or_iff_left (hcount.mp hz)]
    by_cases hn : r.numberActiveCalls < maxNumberActiveCalls
    · obtain ⟨c, r', hadd, hw, hlen⟩ := add_call_added .dialing phoneNumber "" h hn
      have hne : r'.currentCalls ≠ r.currentCalls := fun he => by simp [he] at hlen
      rw [hadd]
      exact ⟨hw, iff_of_false (not_all_or_nothing hne rfl) (Nat.not_le.mpr hn)⟩
    · have hfull : maxNumberActiveCalls ≤ r.numberActiveCalls := Nat.le_of_not_lt hn
      rw [add_call_full hfull]
      exact settled_same h rfl hfull
  next hz => exact settled_same h rfl (.inr (not_not.mp (mt hcount.mpr hz)))

lemma call_state_change_settled {callIndex : ℕ} {nextState : CallState} (h : WellIndexed r) :
    Settled later r (r.cmdCallStateChange callIndex nextState) True := by
  unfold cmdCallStateChange
  have hreport {r' : Radio} (hw : WellIndexed r') :
      Settled later r { radio := r', queued := [.unsolCallStateChanged] } True :=
    settled_true hw (all_or_nothing_reported rfl ⟨_, List.mem_singleton_self _, rfl⟩)
  cases hc : r.getCall callIndex with
  | none =>
    rw [remove_call_none hc]
    exact hreport h
  | some c => exact hreport (set_state_visited h (get_call_natCast.symm.trans hc)).wellIndexed

/-- The handlers one by one -/
lemma handle_settled (h : WellIndexed r) (q : RadioRequest) :
    Settled later r (r.handle q) (r.isAllOrNothing later q) := by
  cases q with
  | dial => exact dial_settled h
  | hangUp => exact hang_up_settled h
  | hangupWaitingOrBackground => exact hangup_waiting_settled h
  | hangUpForegroundResumeBackground => exact hangup_foreground_settled h
  | switchWaitingOrHoldingAndActive => exact switch_settled h
  | conference => exact conference_settled h
  | answer => exact answer_settled h
  | separateConnection => exact separate_settled h
  | startInComingCall => exact start_incoming_settled h
  | hangupConnRemote => exact hangup_remote_settled h
  | setCallTransitionFlag => exact settled_true ⟨h.counted, h.own⟩ (all_or_nothing_same rfl rfl fun _ => rfl)
  | setCallAlert => exact move_only_call_settled h
  | setCallActive => exact move_only_call_settled h
  | addDialingCall => exact add_dialing_settled h
  | command c =>
    cases c with
    | unsolCallStateChanged => exact settled_same h rfl trivial
    | callStateChange => exact call_state_change_settled h
    | unsolCallRing =>
      unfold handle cmdUnsolCallRing
      dsimp only
      split <;> exact settled_same h rfl trivial
  | other => exact settled_same h rfl trivial

end Radio

open Radio

variable {r : Radio}

lemma radio_step_well_indexed {q : RadioRequest} {r' : Radio} (h : WellIndexed r) (hs : radioStep r q = some r') :
    WellIndexed r' := by
  obtain ⟨r₁, hd, rfl⟩ := Option.map_eq_some_iff.mp hs
  have h₁ : WellIndexed r₁ := by
    unfold dequeue at hd
    split at hd
    · split at hd
      · rw [← Option.some.inj hd]
        exact ⟨h.counted, h.own⟩
      · cases hd
    · rw [← Option.some.inj hd]
      exact h
  have hw : Settled true r₁ (r₁.handle q) _ := handle_settled h₁ q
  exact ⟨hw.wellIndexed.counted, hw.wellIndexed.own⟩

lemma reached_well_indexed (hr : Reaches radioStep (fun _ _ => True) {} r) : WellIndexed r :=
  hr.invariant initial_well_indexed fun _ _ _ _ h _ hs => radio_step_well_indexed h hs

/-- In every state that is reached the calls are counted, each is stored at its own index, and a request is all or
nothing exactly where `isAllOrNothing` says so. -/
theorem call_control (hr : Reaches radioStep (fun _ _ => True) {} r) :
    WellIndexed r ∧ ∀ later q, AllOrNothing later r (r.handle q) ↔ r.isAllOrNothing later q :=
  have h : WellIndexed r := reached_well_indexed hr
  ⟨h, fun _ q => (handle_settled h q).allOrNothing⟩

theorem dialed_call_control : ∃ r, radioStep {} (.dial "1") = some r ∧ WellIndexed r ∧
    AllOrNothing true r (r.handle (.dial "2")) ∧ ¬ AllOrNothing true r (r.handle (.hangUp 1)) := by
  obtain ⟨r, hr, hn⟩ : ∃ r, radioStep {} (.dial "1") = some r ∧ r.getCall 1 ≠ none := ⟨_, rfl, nofun⟩
  have h := call_control (.tail .refl trivial hr)
  exact ⟨r, hr, h.1, (h.2 true (.dial "2")).mpr (.inl rfl), fun ha => hn ((h.2 true (.hangUp 1)).mp ha)⟩

/-- The call that is dialed is not incoming: the request to answer fails, and the call is gone. -/
theorem answer_removes_dialed : ∃ r, Reaches radioStep (fun _ _ => True) {} r ∧ r.numberActiveCalls = 1 ∧
    (r.handle .answer).rilErrCode = .genericFailure ∧ (r.handle .answer).radio.numberActiveCalls = 0 ∧
    (r.handle .answer).queued = [] ∧ ∀ later, ¬ AllOrNothing later r (r.handle .answer) := by
  obtain ⟨r, hr, hn, he, hgone, hq⟩ : ∃ r, radioStep {} (.dial "1") = some r ∧ r.numberActiveCalls = 1 ∧
      (r.handle .answer).rilErrCode = .genericFailure ∧ (r.handle .answer).radio.numberActiveCalls = 0 ∧
      (r.handle .answer).queued = [] := ⟨_, rfl, rfl, rfl, rfl, rfl⟩
  refine ⟨r, .tail .refl trivial hr, hn, he, hgone, hq, fun later ha => ?_⟩
  have hsame := (ha.failed (by rw [he]; rfl)).2.1
  omega

end Ril.Mock
