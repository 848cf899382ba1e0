import Ril.Libril.Commands
import Ril.Libril.DispatchOnce

/-! Every request of a run is passed on, or answered, exactly once when the commands pass the tests. -/

namespace Ril.Libril

open Ril.Ipc Ril.Samsung

namespace Requests

variable {d : Requests} {request : ℕ}

/-- What is known of a request is known of one that was allocated, and one that was answered is not pending. -/
structure Wf (d : Requests) : Prop where
  effects : ∀ x ∈ d.effects, x.1 < d.allocated
  pending : ∀ s, ∀ r ∈ d.pending s, r.1 < d.allocated
  unanswered : ∀ s, ∀ r ∈ d.pending s, ∀ e response, .onRequestComplete e response ∉ d.effectsOf r.1

lemma Wf.effects_of_allocated (h : Wf d) : d.effectsOf d.allocated = [] := by
  rw [effectsOf, List.map_eq_nil_iff, List.filter_eq_nil_iff]
  intro x hx he
  exact absurd (h.effects x hx) (by simpa using Nat.le_of_eq (of_decide_eq_true he).symm)

lemma apply_effects (d : Requests) (request : ℕ) (e : Effect) :
    (d.apply request e).effects = d.effects ++ [(request, e)] := by
  cases e <;> rfl

lemma apply_allocated (d : Requests) (request : ℕ) (e : Effect) : (d.apply request e).allocated = d.allocated := by
  cases e <;> rfl

lemma apply_effects_of (d : Requests) (request request' : ℕ) (e : Effect) :
    (d.apply request e).effectsOf request' = d.effectsOf request' ++ if request = request' then [e] else [] := by
  rw [effectsOf, apply_effects, List.filter_append, List.map_append, effectsOf]
  split
  · rename_i h
    simp [h]
  · rename_i h
    simp [h]

lemma apply_pending (d : Requests) (request : ℕ) (e : Effect) (s : RilSocketId) :
    ∀ r ∈ (d.apply request e).pending s, r ∈ d.pending s ∧
      ∀ e' response, e = .onRequestComplete e' response → r.1 ≠ request := by
  intro r hr
  cases e with
  | onRequest n data => exact ⟨hr, fun _ _ h => by cases h⟩
  | undefined => exact ⟨hr, fun _ _ h => by cases h⟩
  | onRequestComplete e' response =>
    obtain ⟨hr, hne⟩ := List.mem_filter.mp hr
    exact ⟨hr, fun _ _ _ => of_decide_eq_true hne⟩

lemma Wf.apply (h : Wf d) (hr : request < d.allocated) (e : Effect) : Wf (d.apply request e) := by
  refine ⟨fun x hx => ?_, fun s r hm => ?_, fun s r hm e' response hmem => ?_⟩
  · rw [apply_allocated]
    rw [apply_effects] at hx
    rcases List.mem_append.mp hx with hx | hx
    · exact h.effects x hx
    · rw [List.mem_singleton.mp hx]
      exact hr
  · rw [apply_allocated]
    exact h.pending s r (apply_pending d request e s r hm).1
  · obtain ⟨hm, hne⟩ := apply_pending d request e s r hm
    rw [apply_effects_of] at hmem
    rcases List.mem_append.mp hmem with hmem | hmem
    · exact h.unanswered s r hm e' response hmem
    · split at hmem
      · rename_i he
        exact hne e' response (List.mem_singleton.mp hmem).symm he.symm
      · cases hmem

lemma Wf.put (h : Wf d) (r : RequestInfo) : Wf (d.put r) := by
  have hmem : ∀ s, ∀ x ∈ (d.put r).pending s, x.1 = d.allocated ∨ x ∈ d.pending s := by
    intro s x hx
    rw [Requests.put] at hx
    dsimp only at hx
    by_cases hs : s = r.socketId
    · rw [hs, Function.update_self] at hx
      rcases List.mem_cons.mp hx with hx | hx
      · exact .inl (by rw [hx])
      · exact .inr (hs ▸ hx)
    · rw [Function.update_of_ne hs] at hx
      exact .inr hx
  refine ⟨fun x hx => Nat.lt_succ_of_lt (h.effects x hx), fun s x hx => ?_, fun s x hx e response he => ?_⟩
  · rcases hmem s x hx with hx | hx
    · rw [hx]
      exact Nat.lt_succ_self _
    · exact Nat.lt_succ_of_lt (h.pending s x hx)
  · have he' : .onRequestComplete e response ∈ d.effectsOf x.1 := he
    rcases hmem s x hx with hx | hx
    · rw [hx, h.effects_of_allocated] at he'
      cases he'
    · exact h.unanswered s x hx e response he'

lemma foldl_apply (es : List Effect) (h : Wf d) (hr : request < d.allocated) :
    Wf (es.foldl (Requests.apply request) d) ∧ (es.foldl (Requests.apply request) d).allocated = d.allocated ∧
      ∀ request', (es.foldl (Requests.apply request) d).effectsOf request' =
        d.effectsOf request' ++ if request = request' then es else [] := by
  induction es generalizing d with
  | nil =>
    refine ⟨h, rfl, fun request' => ?_⟩
    rw [ite_self, List.append_nil]
    rfl
  | cons e es ih =>
    obtain ⟨hw, ha, he⟩ := ih (h.apply hr e) (by rwa [apply_allocated])
    refine ⟨hw, ha.trans (apply_allocated d request e), fun request' => ?_⟩
    rw [List.foldl_cons, he, apply_effects_of, List.append_assoc]
    split <;> rfl

lemma Wf.conserved_iff (h : Wf d) : Conserved d ↔ ∀ request < d.allocated, Once (d.effectsOf request) := by
  refine ⟨fun hc => hc.1, fun ho => ⟨ho, fun s r hr => ?_⟩⟩
  rcases ho r.1 (h.pending s r hr) with ho | ⟨e, response, he⟩
  · exact ho
  · exact absurd (he ▸ List.mem_singleton_self _) (h.unanswered s r hr e response)

lemma Wf.issue (h : Wf d) (r : RequestInfo) (es : List Effect) :
    Wf (es.foldl (Requests.apply d.allocated) (d.put r)) ∧
      (Conserved (es.foldl (Requests.apply d.allocated) (d.put r)) ↔ Conserved d ∧ Once es) := by
  obtain ⟨hw, ha, he⟩ := foldl_apply es (h.put r) (Nat.lt_succ_self d.allocated)
  have hnew : (es.foldl (Requests.apply d.allocated) (d.put r)).effectsOf d.allocated = es := by
    have hnil : (d.put r).effectsOf d.allocated = [] := h.effects_of_allocated
    rw [he, if_pos rfl, hnil, List.nil_append]
  have hold : ∀ request < d.allocated,
      (es.foldl (Requests.apply d.allocated) (d.put r)).effectsOf request = d.effectsOf request := by
    intro request hr
    rw [he, if_neg (Nat.ne_of_gt hr), List.append_nil]
    rfl
  refine ⟨hw, ?_⟩
  rw [hw.conserved_iff, h.conserved_iff, ha]
  constructor
  · intro hc
    refine ⟨fun request hr => ?_, ?_⟩
    · rw [← hold request hr]
      exact hc request (Nat.lt_succ_of_lt hr)
    · rw [← hnew]
      exact hc d.allocated (Nat.lt_succ_self _)
  · rintro ⟨hc, ho⟩ request hr
    rcases Nat.lt_succ_iff_lt_or_eq.mp hr with hr | rfl
    · rw [hold request hr]
      exact hc request hr
    · rw [hnew]
      exact ho

lemma Wf.dequeue (h : Wf d) (request : ℕ) : Wf (d.checkAndDequeueRequestInfo request) where
  effects := h.effects
  pending s r hr := h.pending s r (List.mem_of_mem_filter hr)
  unanswered s r hr := h.unanswered s r (List.mem_of_mem_filter hr)

end Requests

variable {env : RilEnv} {L : ParcelLib} {d : Requests}

lemma entry_once (c : Command) (r : RequestInfo) (p : L.Parcel) :
    Once (dispatchEntry env L c r p) ↔
      ∃ entry f, sCommands[r.pCI]? = some entry ∧ entry.dispatchFunction = some f ∧ BlockChecked env L p c f := by
  rw [dispatchEntry]
  cases sCommands[r.pCI]? with
  | none =>
    refine iff_of_false not_once_undefined ?_
    rintro ⟨entry, f, h, -⟩
    cases h
  | some entry =>
    dsimp only
    cases hf : entry.dispatchFunction with
    | none =>
      refine iff_of_false not_once_undefined ?_
      rintro ⟨entry', f, h, hf', -⟩
      obtain rfl := Option.some.inj h
      rw [hf] at hf'
      cases hf'
    | some f =>
      dsimp only
      rw [block_once]
      refine ⟨fun h => ⟨entry, f, rfl, hf, h⟩, ?_⟩
      rintro ⟨entry', f', h, hf', hb⟩
      obtain rfl := Option.some.inj h
      obtain rfl := Option.some.inj (hf.symm.trans hf')
      exact hb

lemma requests_step (h : d.Wf) (a : RequestsAction) :
    (requestsStep env L d a).Wf ∧ (Conserved (requestsStep env L d a) ↔ Conserved d ∧ ChecksPass env L a) := by
  cases a with
  | command c =>
    rw [requestsStep, processCommandBuffer]
    dsimp only [ChecksPass]
    cases newRequestInfo L c.request c.buffer c.socketId with
    | none =>
      refine ⟨h, ⟨fun hc => ⟨hc, fun r p hr => ?_⟩, fun hc => hc.1⟩⟩
      cases hr
    | some rp =>
      obtain ⟨hw, hc⟩ := h.issue rp.1 (dispatchEntry env L c rp.1 rp.2)
      refine ⟨hw, hc.trans (and_congr_right fun _ => ?_)⟩
      rw [entry_once]
      constructor
      · intro he r p hrp
        obtain rfl := Option.some.inj hrp
        exact he
      · intro he
        exact he rp.1 rp.2 rfl
  | issueLocal request data socketId =>
    obtain ⟨hw, hc⟩ := h.issue ⟨-1, if request > 10000 then request - 10000 + maxRilSol.toNat else request, false, true,
      socketId⟩ [.onRequest request data]
    exact ⟨hw, hc.trans (and_congr_right fun _ => iff_of_true (once_call data) trivial)⟩
  | rilComplete request =>
    refine ⟨h.dequeue request, ?_⟩
    rw [requestsStep, (h.dequeue request).conserved_iff, h.conserved_iff]
    exact (and_iff_left trivial).symm

lemma requests_foldl (as : List RequestsAction) (h : d.Wf) :
    Conserved (as.foldl (requestsStep env L) d) ↔ Conserved d ∧ ∀ a ∈ as, ChecksPass env L a := by
  induction as generalizing d with
  | nil => simp
  | cons a as ih =>
    obtain ⟨hw, hc⟩ := @requests_step env L d h a
    rw [List.foldl_cons, ih hw, hc, and_assoc, List.forall_mem_cons]

lemma requests_start_wf : requestsStart.Wf where
  effects _ hx := absurd hx List.not_mem_nil
  pending _ _ hr := absurd hr List.not_mem_nil
  unanswered _ _ hr := absurd hr List.not_mem_nil

/-- In a run every request is passed on once, or answered once, if and only if every command that is put on a list
passes the tests of its dispatch function. -/
theorem commands_conserved (env : RilEnv) (L : ParcelLib) (as : List RequestsAction) :
    Conserved (requestsRun env L as) ↔ ∀ a ∈ as, ChecksPass env L a := by
  rw [requestsRun, requests_foldl as requests_start_wf, requests_start_wf.conserved_iff]
  exact and_iff_right fun request hr => absurd hr (Nat.not_lt_zero request)

/-- A RIL of version 6, for arrays of less than 1000 elements -/
def rilV6 : RilEnv := ⟨6, fun _ n => decide (n < 1000)⟩

/-- A hangup without parameters, and a question for the radio technology while the radio is off -/
def unansweredRun : List RequestsAction :=
  [.command ⟨.socket1, commandParcel 12, 0, 0, 0, .on⟩, .command ⟨.socket1, commandParcel 108, 0, 0, 0, .off⟩]

/-- The hangup stays pending with nothing done, and the question is answered twice. -/
theorem commands_conserved_fails : ¬Conserved (requestsRun rilV6 byteParcels unansweredRun) ∧
    (0, ⟨1, 12, false, false, .socket1⟩) ∈ (requestsRun rilV6 byteParcels unansweredRun).pending .socket1 ∧
    (requestsRun rilV6 byteParcels unansweredRun).effectsOf 0 = [] ∧
    (requestsRun rilV6 byteParcels unansweredRun).effectsOf 1 =
      [.onRequestComplete .radioNotAvailable none, .onRequestComplete .genericFailure none] := by
  have h0 : (requestsRun rilV6 byteParcels unansweredRun).effectsOf 0 = [] := by decide
  refine ⟨fun h => ?_, by decide, h0, by decide⟩
  have ho := h.1 0 (by decide)
  rw [h0] at ho
  exact not_once_invalid ho

end Ril.Libril
