import Ril.Samsung.Spec.Registry
import Ril.Samsung.Spec.Events

/-! Every request is completed once, or cancelled. -/

namespace Ril.Samsung

open Ril.Ipc Ril.Lib

def Event.completes (token : RilToken) : Event → Bool
  | completed t _ _ => t == token
  | _ => false

/-- The number of calls of `OnRequestComplete` for a token. -/
def completions (token : RilToken) (trace : List Event) : ℕ := trace.countP (Event.completes token)

structure Conserved (s : RilData) : Prop where
  unseen : ∀ token, (∀ request data, Event.arrived token request data ∉ s.trace) →
    completions token s.trace = 0 ∧ Event.cancelled token ∉ s.trace
  outstanding : ∀ token ∈ s.tokens, completions token s.trace = 0 ∧ Event.cancelled token ∉ s.trace
  settled : ∀ token request data, Event.arrived token request data ∈ s.trace → token ∉ s.tokens →
    Event.cancelled token ∈ s.trace ∧ completions token s.trace = 0 ∨
      Event.cancelled token ∉ s.trace ∧ completions token s.trace = 1

lemma completions_append_neutral {new : List Event} (hn : ∀ e ∈ new, e.neutral = true) (token : RilToken)
    (trace : List Event) : completions token (new ++ trace) = completions token trace := by
  have h0 : new.countP (Event.completes token) = 0 := by
    rw [List.countP_eq_zero]
    intro e he hc
    have h := hn e he
    cases e <;> first | cases hc | cases h
  rw [completions, completions, List.countP_append, h0, Nat.zero_add]

lemma completions_cons {token : RilToken} {e : Event} (he : e.completes token = false) (trace : List Event) :
    completions token (e :: trace) = completions token trace :=
  List.countP_cons_of_neg (by simp [he])

lemma completions_completed (token : RilToken) (error : RilErrno) (response : RilResponse) (trace : List Event) :
    completions token (.completed token error response :: trace) = completions token trace + 1 :=
  List.countP_cons_of_pos (by simp [Event.completes])

namespace Conserved

variable {s t : RilData}

lemma init : Conserved {} where
  unseen := fun _ _ => ⟨rfl, List.not_mem_nil⟩
  outstanding := fun _ h => absurd h List.not_mem_nil
  settled := fun _ _ _ h => absurd h List.not_mem_nil

lemma of_same (h : Conserved s) (ht : t.tokens = s.tokens)
    (ha : ∀ token request data, Event.arrived token request data ∈ t.trace ↔
      Event.arrived token request data ∈ s.trace)
    (hc : ∀ token, Event.cancelled token ∈ t.trace ↔ Event.cancelled token ∈ s.trace)
    (hn : ∀ token, completions token t.trace = completions token s.trace) : Conserved t := by
  refine ⟨?_, ?_, ?_⟩
  · intro token hu
    rw [hn, hc]
    exact h.unseen token fun request data => by rw [← ha]; exact hu request data
  · intro token hm
    rw [hn, hc]
    exact h.outstanding token (ht ▸ hm)
  · intro token request data hm hnot
    rw [hn, hc]
    exact h.settled token request data ((ha _ _ _).mp hm) (ht ▸ hnot)

lemma keeps (h : Conserved s) (hk : KeepsRequests s t) : Conserved t := by
  obtain ⟨new, ht, hn⟩ := hk.trace
  have hmem {e : Event} (he : e.neutral = false) : e ∈ t.trace ↔ e ∈ s.trace := by
    rw [ht, List.mem_append]
    exact or_iff_right fun hm => Bool.false_ne_true (he ▸ hn _ hm)
  refine h.of_same ?_ (fun _ _ _ => hmem rfl) (fun _ => hmem rfl) fun token => ?_
  · rw [RilData.tokens_eq, RilData.tokens_eq, hk.entries]
  · rw [ht, completions_append_neutral hn]

lemma arrives (h : Conserved s) {request : RilRequestCode} {data : RilValue} {token : RilToken}
    (ha : Arrives s t request data token) : Conserved t := by
  have htok : t.tokens = s.tokens ++ [token] := by
    rw [RilData.tokens_eq, RilData.tokens_eq, ha.entries, List.map_append]
    rfl
  have hc (k : RilToken) : Event.cancelled k ∈ t.trace ↔ Event.cancelled k ∈ s.trace := by
    simp [ha.trace]
  have hn (k : RilToken) : completions k t.trace = completions k s.trace := by
    rw [ha.trace]
    exact completions_cons rfl _
  refine ⟨?_, ?_, ?_⟩
  · intro k hu
    rw [hn, hc]
    exact h.unseen k fun q v hm => hu q v (ha.trace ▸ List.mem_cons_of_mem _ hm)
  · intro k hm
    rw [hn, hc]
    rw [htok, List.mem_append, List.mem_singleton] at hm
    rcases hm with hm | rfl
    · exact h.outstanding k hm
    · exact h.unseen k ha.fresh
  · intro k q v hm hnot
    rw [hn, hc]
    rw [htok, List.mem_append, List.mem_singleton, not_or] at hnot
    rw [ha.trace, List.mem_cons] at hm
    rcases hm with hm | hm
    · cases hm
      exact absurd rfl hnot.2
    · exact h.settled k q v hm hnot.1

lemma removes (h : Conserved s) (hs : Synced s) {token : RilToken} {e : Event} (hr : Removes s t token e) :
    Conserved t := by
  have hout := h.outstanding token (Synced.mem_removes hr)
  have ha (k : RilToken) (q : RilRequestCode) (v : RilValue) :
      Event.arrived k q v ∈ t.trace ↔ Event.arrived k q v ∈ s.trace := by
    rcases hr.event with rfl | ⟨error, response, rfl⟩ <;> simp [hr.trace]
  have hother {k : RilToken} (hk : k ≠ token) :
      completions k t.trace = completions k s.trace ∧
        (Event.cancelled k ∈ t.trace ↔ Event.cancelled k ∈ s.trace) := by
    rcases hr.event with rfl | ⟨error, response, rfl⟩
    · rw [hr.trace]
      exact ⟨completions_cons rfl _, by simp [hk]⟩
    · rw [hr.trace]
      exact ⟨completions_cons (by simpa [Event.completes] using hk.symm) _, by simp⟩
  refine ⟨?_, ?_, ?_⟩
  · intro k hu
    have hk : k ≠ token := by
      rintro rfl
      obtain ⟨q, v, hentry, -⟩ := hr.fmtEntries
      exact hu q v ((ha _ _ _).mpr (hs.arrived _ hentry))
    rw [(hother hk).1, (hother hk).2]
    exact h.unseen k fun q v hm => hu q v ((ha _ _ _).mpr hm)
  · intro k hm
    rw [Synced.tokens_removes hr, hs.nodup.mem_erase_iff] at hm
    rw [(hother hm.1).1, (hother hm.1).2]
    exact h.outstanding k hm.2
  · intro k q v hm hnot
    by_cases hk : k = token
    · subst hk
      rcases hr.event with rfl | ⟨error, response, rfl⟩
      · rw [hr.trace, completions_cons rfl]
        exact .inl ⟨List.mem_cons_self, hout.1⟩
      · rw [hr.trace, completions_completed, hout.1]
        exact .inr ⟨by simpa using hout.2, rfl⟩
    · rw [(hother hk).1, (hother hk).2]
      refine h.settled k q v ((ha _ _ _).mp hm) fun hmem => hnot ?_
      rw [Synced.tokens_removes hr, hs.nodup.mem_erase_iff]
      exact ⟨hk, hmem⟩

lemma step (hs : Synced s) (h : Conserved s) (ht : RegistryStep s t) : Conserved t := by
  cases ht with
  | keeps hk => exact h.keeps hk
  | arrives request data token ha => exact h.arrives ha
  | removes token e hr => exact h.removes hs hr
  | destroys hd =>
    refine h.of_same ?_ (by simp [hd.trace]) (by simp [hd.trace]) (by simp [hd.trace])
    rw [RilData.tokens_eq, RilData.tokens_eq, hd.entries]

end Conserved

/-- A request that was handed in is registered and not completed, or not registered and completed
once; a cancelled one is neither. -/
theorem request_conservation {d : Daemon} (h : Reachable d) {token : RilToken} {request : RilRequestCode}
    {data : RilValue} (ha : Event.arrived token request data ∈ d.data.trace) :
    (Event.cancelled token ∉ d.data.trace →
      d.data.tokens.count token = 1 ∧ completions token d.data.trace = 0 ∨
        token ∉ d.data.tokens ∧ completions token d.data.trace = 1) ∧
    (Event.cancelled token ∈ d.data.trace →
      token ∉ d.data.tokens ∧ completions token d.data.trace = 0) := by
  obtain ⟨hs, hc⟩ := registry_invariant Conserved.init (fun _ _ => Conserved.step) h
  by_cases hm : token ∈ d.data.tokens
  · obtain ⟨h0, hnot⟩ := hc.outstanding token hm
    exact ⟨fun _ => .inl ⟨List.count_eq_one_of_mem hs.nodup hm, h0⟩, fun hcan => absurd hcan hnot⟩
  · rcases hc.settled token request data ha hm with ⟨hcan, h0⟩ | ⟨hnot, h1⟩
    · exact ⟨fun hnot => absurd hcan hnot, fun _ => ⟨hm, h0⟩⟩
    · exact ⟨fun _ => .inr ⟨hm, h1⟩, fun hcan => absurd hcan hnot⟩

/-- A request that is sent and answered. -/
def muteRun : List Action := [
  .request .setMute (.ints [1]) 1, .requestSignal,
  .message {} ⟨0x00, .pwrPhonePwrUp, .noti, []⟩,
  .loopWake, .loopStart, .loopDispatch {}, .loopEnd,
  .message {} ⟨0x01, .genPhoneRes, .resp, [0x09, 0x02, 0x02, 0x00, 0x80]⟩]

theorem request_conservation_mute :
    1 ∉ (runFrom {} muteRun).data.tokens ∧ completions 1 (runFrom {} muteRun).data.trace = 1 :=
  ((request_conservation (reachable_runFrom (by decide))
    (by decide : Event.arrived 1 .setMute (.ints [1]) ∈ (runFrom {} muteRun).data.trace)).1
      (by decide)).resolve_left (by decide)

end Ril.Samsung
