import Ril.Lib.Worklist
import Ril.Samsung.Proofs.Statuses

/-! One iteration of the request loop, whatever the handlers do. -/

namespace Ril.Samsung

open Ril.Ipc Ril.Lib

abbrev RequestHandler := RilValue → RilToken → RilM RilRequestStatus

abbrev RequestHandlers := RilRequestCode → Option RequestHandler

/-- `rilRequestDispatch`, with any handlers. -/
def dispatchWith (handlers : RequestHandlers) (request : RilRequest) : RilM Rc := do
  match handlers request.request with
  | none =>
    rilRequestComplete request.token .requestNotSupported .null
    return .ok
  | some handler =>
    match ← handler request.data request.token with
    | .completed => return .ok
    | .failed => return .failed
    | status =>
      modify (RilData.requestSetStatus request.token status)
      return .ok

def dispatchRequestWith (handlers : RequestHandlers) (env : Env) (r : RilRequest) (s : RilData) : RilData :=
  let result := dispatchWith handlers r ({ s with env := env }.log (.dispatched r.token))
  if result.1 = .failed then result.2.requestUnregister r.token else result.2

/-- An iteration of `ril_request_loop`: the tokens of the requests that are dispatched, and the data after it. -/
def requestLoop (handlers : RequestHandlers) (envs : ℕ → Env) (fuel : ℕ) (s : RilData) :
    Option (List RilToken × RilData) :=
  if s.radioStateCheck .off then
    (drain RilData.requests (·.status == .pending) (fun n => dispatchRequestWith handlers (envs n)) 0 fuel
      s.retryUnhandled).map fun r => (r.1.map (·.token), r.2)
  else some ([], s)

/-- The requests that an iteration has to dispatch -/
def RilData.runnable (s : RilData) : List RilToken :=
  (s.requests.filter fun r => r.status == .pending || r.status == .unhandled).map (·.token)

/-- The framework never passes `NULL`, and `ril_on_request` releases an earlier request of the same token. -/
structure Listed (s : RilData) : Prop where
  nodup : s.tokens.Nodup
  ne_null : 0 ∉ s.tokens

/-- The request is still registered unless the handler says that it has completed it. Other requests may be
taken out of the list, but are not touched. -/
structure Behaves (handler : RequestHandler) : Prop where
  requests : ∀ data token s, Listed s → token ∈ s.tokens → (handler data token s).2.requests.Sublist s.requests
  status : ∀ data token s, Listed s → token ∈ s.tokens → match (handler data token s).1 with
    | .pending => False
    | .completed => token ∉ (handler data token s).2.tokens
    | _ => token ∈ (handler data token s).2.tokens

/-- The requests that are still to be dispatched stay in the list. -/
def KeepsPending (handler : RequestHandler) : Prop :=
  ∀ data token s, Listed s → token ∈ s.tokens → ∀ r ∈ s.requests, r.token ≠ token → r.status = .pending →
    r ∈ (handler data token s).2.requests

variable {handlers : RequestHandlers} {env : Env} {r : RilRequest} {s t : RilData} {token : RilToken}

def Settled (r : RilRequest) : Prop := r.status = .handled ∨ r.status = .unhandled

abbrev Dispatched (r : RilRequest) (s t : RilData) : Prop :=
  Processed RilRequest.token (·.status == .pending) Settled s.requests r t.requests

/-! ### One request -/

lemma complete_requests (h0 : token ≠ 0) (error : RilErrno) (response : RilResponse) (s : RilData) :
    (s.requestComplete token error response).requests = (s.requestUnregister token).requests := by
  rw [RilData.requestComplete, if_neg h0]
  rfl

lemma dispatched_of_gone (h : t.requests.Sublist s.requests) (hg : r.token ∉ t.tokens) : Dispatched r s t := by
  have hne : ∀ b ∈ t.requests, b.token ≠ r.token := fun b hb he => hg (he ▸ List.mem_map_of_mem hb)
  refine ⟨t.requests, id, h, fun b hb he => absurd he (hne b hb), ?_⟩
  refine (List.map_id _).symm.trans (List.map_congr_left fun b hb => ?_)
  exact (if_neg (hne b hb)).symm

lemma dispatched_of_status {status : RilRequestStatus} (h : t.requests.Sublist s.requests)
    (hs : status = .handled ∨ status = .unhandled) : Dispatched r s (t.requestSetStatus r.token status) := by
  refine ⟨t.requests, fun b => { b with status := status }, h, fun b _ _ => ⟨rfl, ?_, hs⟩, ?_⟩
  · rcases hs with rfl | rfl
    · rfl
    · rfl
  · simp [RilData.requestSetStatus]

lemma Listed.of_sublist (h : Listed s) (hs : t.requests.Sublist s.requests) : Listed t :=
  ⟨h.nodup.sublist (hs.map _), fun h0 => h.ne_null ((hs.map _).subset h0)⟩

lemma Listed.of_dispatched (h : Listed s) (hd : Dispatched r s t) : Listed t :=
  ⟨h.nodup.sublist hd.keys, fun h0 => h.ne_null (hd.keys.subset h0)⟩

lemma Listed.started (h : Listed s) (env : Env) (event : Event) : Listed (({ s with env := env } : RilData).log event) :=
  h.of_sublist (.refl _)

lemma dispatch_dispatched (hb : ∀ request handler, handlers request = some handler → Behaves handler) (hl : Listed s)
    (hr : r ∈ s.requests) (env : Env) : Dispatched r s (dispatchRequestWith handlers env r s) := by
  have hl' := hl.started env (.dispatched r.token)
  have hm : r.token ∈ (({ s with env := env } : RilData).log (.dispatched r.token)).tokens := List.mem_map_of_mem hr
  have h0 : r.token ≠ 0 := fun h0 => hl.ne_null (h0 ▸ hm)
  rw [dispatchRequestWith]
  generalize hu : ({ s with env := env } : RilData).log (.dispatched r.token) = u at hl' hm
  have hus : u.requests = s.requests := by
    rw [← hu]
    rfl
  cases hh : handlers r.request with
  | none =>
    simp only [dispatchWith, hh, rilRequestComplete, bind_apply, modify_apply, pure_apply, reduceCtorEq, if_false]
    have hq := complete_requests h0 .requestNotSupported .null u
    apply dispatched_of_gone
    · rw [hq, ← hus]
      exact unregister_sublist _ _
    · rw [RilData.tokens, hq]
      exact unregister_gone hl'.nodup
  | some handler =>
    have hsub := (hb _ _ hh).requests r.data r.token u hl' hm
    have hstatus := (hb _ _ hh).status r.data r.token u hl' hm
    rw [hus] at hsub
    simp only [dispatchWith, hh, bind_apply]
    cases hret : (handler r.data r.token u).1 with
    | pending => simp [hret] at hstatus
    | handled => simpa using dispatched_of_status hsub (.inl rfl)
    | unhandled => simpa using dispatched_of_status hsub (.inr rfl)
    | completed =>
      simp only [hret] at hstatus
      simpa using dispatched_of_gone hsub hstatus
    | failed =>
      simp only [pure_apply, if_true]
      exact dispatched_of_gone ((unregister_sublist _ _).trans hsub)
        (unregister_gone (hl'.nodup.sublist ((hus ▸ hsub).map _)))

lemma dispatch_keeps (hb : ∀ request handler, handlers request = some handler → KeepsPending handler) (hl : Listed s)
    (hr : r ∈ s.requests) (env : Env) :
    Keeps RilRequest.token (·.status == .pending) s.requests r (dispatchRequestWith handlers env r s).requests := by
  intro b hbs hready hne
  have hpending : b.status = .pending := by simpa using hready
  have hl' := hl.started env (.dispatched r.token)
  have hm : r.token ∈ (({ s with env := env } : RilData).log (.dispatched r.token)).tokens := List.mem_map_of_mem hr
  have h0 : r.token ≠ 0 := fun h0 => hl.ne_null (h0 ▸ hm)
  rw [dispatchRequestWith]
  generalize hu : ({ s with env := env } : RilData).log (.dispatched r.token) = u at hl' hm
  have hus : b ∈ u.requests := by
    rw [← hu]
    exact hbs
  have hset {v : RilData} (hv : b ∈ v.requests) (status : RilRequestStatus) :
      b ∈ (v.requestSetStatus r.token status).requests := by
    refine List.mem_map.mpr ⟨b, hv, ?_⟩
    simp [hne]
  cases hh : handlers r.request with
  | none =>
    simp only [dispatchWith, hh, rilRequestComplete, bind_apply, modify_apply, pure_apply, reduceCtorEq, if_false]
    rw [complete_requests h0]
    exact mem_unregister_of_ne _ hus hne
  | some handler =>
    have hkept := hb _ _ hh r.data r.token u hl' hm b hus hne hpending
    simp only [dispatchWith, hh, bind_apply]
    cases hret : (handler r.data r.token u).1 with
    | failed =>
      simp only [pure_apply, if_true]
      exact mem_unregister_of_ne _ hkept hne
    | completed => simpa using hkept
    | _ => simpa using hset hkept _

/-! ### An iteration -/

lemma retry_tokens (s : RilData) : s.retryUnhandled.tokens = s.tokens := by
  simp only [RilData.tokens, RilData.retryUnhandled, List.map_map]
  apply List.map_congr_left
  intro r _
  simp only [Function.comp_apply]
  split
  · rfl
  · rfl

lemma retry_runnable (s : RilData) :
    (s.retryUnhandled.requests.filter (·.status == .pending)).map (·.token) = s.runnable := by
  rw [RilData.runnable, RilData.retryUnhandled]
  induction s.requests with
  | nil => rfl
  | cons r rs ih =>
    rw [List.map_cons]
    cases hr : r.status with
    | pending => simp [hr, ih]
    | unhandled => simp [hr, ih]
    | handled => simp [hr, ih]
    | completed => simp [hr, ih]
    | failed => simp [hr, ih]

lemma runnable_nodup (h : Listed s) : s.runnable.Nodup :=
  h.nodup.sublist ((List.filter_sublist (l := s.requests)).map _)

/-- Between two iterations no request has another status. -/
def StatusesKnown (s : RilData) : Prop :=
  ∀ r ∈ s.requests, r.status = .pending ∨ r.status = .handled ∨ r.status = .unhandled

lemma retry_settled (h : StatusesKnown s) :
    ∀ r ∈ s.retryUnhandled.requests, (r.status == .pending) = false → Settled r := by
  intro r hr hready
  obtain ⟨r', hr', rfl⟩ := List.mem_map.mp hr
  by_cases hu : r'.status = .unhandled
  · simp [hu] at hready
  · simp only [if_neg hu] at hready ⊢
    rcases h r' hr' with hs | hs | hs
    · simp [hs] at hready
    · exact .inl hs
    · exact absurd hs hu

lemma Listed.retry (h : Listed s) : Listed s.retryUnhandled :=
  ⟨retry_tokens s ▸ h.nodup, retry_tokens s ▸ h.ne_null⟩

abbrev IterationDrains (handlers : RequestHandlers) (envs : ℕ → Env) (s : RilData) (taken : List RilRequest)
    (t : RilData) : Prop :=
  drain RilData.requests (·.status == .pending) (fun n => dispatchRequestWith handlers (envs n)) 0
    (s.requests.length + 1) s.retryUnhandled = some (taken, t)

lemma iteration_drains (hb : ∀ request handler, handlers request = some handler → Behaves handler) (envs : ℕ → Env)
    (hl : Listed s) (hs : StatusesKnown s) : ∃ taken t, IterationDrains handlers envs s taken t ∧
      Drained RilData.requests (·.status == .pending) RilRequest.token Settled s.retryUnhandled taken t ∧
      ((∀ request handler, handlers request = some handler → KeepsPending handler) →
        taken = s.retryUnhandled.requests.filter (·.status == .pending)) := by
  have hlen : (s.retryUnhandled.requests.filter (·.status == .pending)).length < s.requests.length + 1 := by
    have hle := List.length_filter_le (·.status == .pending) s.retryUnhandled.requests
    simp only [RilData.retryUnhandled, List.length_map] at hle ⊢
    omega
  obtain ⟨taken, t, hd, ht, hall⟩ := @drain_drained _ _ _ RilData.requests (·.status == .pending)
    (fun n => dispatchRequestWith handlers (envs n)) _ RilRequest.token Settled Listed (fun _ h => Listed.nodup h)
    (fun n u r hu hf =>
      have hp := dispatch_dispatched hb hu (List.mem_of_find?_eq_some hf) (envs n)
      ⟨hu.of_dispatched hp, hp⟩)
    0 (s.requests.length + 1) _ hl.retry (retry_settled hs) hlen
  refine ⟨taken, t, hd, ht, fun hkeeps => hall fun n u r hu hf => ?_⟩
  exact dispatch_keeps hkeeps hu (List.mem_of_find?_eq_some hf) (envs n)

/-! ### The handlers of the daemon -/

lemma request_handler_behaves {request : RilRequestCode} {handler : RequestHandler}
    (h : rilRequestHandler request = some handler) : Behaves handler := by
  refine ⟨fun data token s hl hm => ?_, fun data token s hl hm => ?_⟩
  · rcases request_handler_spec data token h s with ⟨-, hs, -⟩ | ⟨-, hp⟩ | ⟨-, s', error, response, hp, hs⟩
    · rw [hs]
    · rw [Path.frame hp fun _ _ h => h.requests]
    · have h0 : token ≠ 0 := fun h0 => hl.ne_null (h0 ▸ hm)
      rw [hs, complete_requests h0, ← Path.frame hp fun _ _ h => h.requests]
      exact unregister_sublist token s'
  · rcases request_handler_spec data token h s with ⟨hr, hs, -⟩ | ⟨hr, hp⟩ | ⟨hr, s', error, response, hp, hs⟩
    · rw [hr, hs]
      exact hm
    · have hq := Path.frame hp fun _ _ h => h.requests
      rw [hr, RilData.tokens, hq]
      exact hm
    · have h0 : token ≠ 0 := fun h0 => hl.ne_null (h0 ▸ hm)
      have hq : s'.requests = s.requests := Path.frame hp fun _ _ h => h.requests
      rw [hr, hs, RilData.tokens, complete_requests h0]
      apply unregister_gone
      rw [RilData.tokens, hq]
      exact hl.nodup

lemma request_handler_keeps {request : RilRequestCode} {handler : RequestHandler}
    (h : rilRequestHandler request = some handler) : KeepsPending handler := by
  intro data token s hl hm r hr hne _
  rcases request_handler_spec data token h s with ⟨-, hs, -⟩ | ⟨-, hp⟩ | ⟨-, s', error, response, hp, hs⟩
  · rw [hs]
    exact hr
  · rw [Path.frame hp fun _ _ h => h.requests]
    exact hr
  · have h0 : token ≠ 0 := fun h0 => hl.ne_null (h0 ▸ hm)
    have hq : s'.requests = s.requests := Path.frame hp fun _ _ h => h.requests
    rw [hs, complete_requests h0]
    exact mem_unregister_of_ne _ (hq ▸ hr) hne

lemma dispatch_with_handlers (env : Env) (r : RilRequest) (s : RilData) :
    dispatchRequestWith rilRequestHandler env r s = dispatchRequest env r s := rfl

lemma reachable_listed {d : Daemon} (h : Reachable d) : Listed d.data :=
  ⟨(reachable_synced h).nodup, (reachable_synced h).ne_zero⟩

lemma reachable_statuses_known {d : Daemon} (h : Reachable d) : StatusesKnown d.data := by
  induction h with
  | refl => exact fun r hr => absurd hr List.not_mem_nil
  | tail hd _ hstep ih =>
    intro r hr
    cases step_statuses (reachable_synced hd).nodup hstep r hr with
    | kept old => exact ih r old
    | pending status => exact .inl status
    | taken env r _ _ _ status => exact .inr (.inl (by rw [status]))
    | putOff status => exact .inr (.inr status)

/-- The steps of the request loop are those of an iteration. -/
lemma drain_run (envs : ℕ → Env) {n fuel : ℕ} {d : Daemon} (hd : d.loop = .dispatching) {taken : List RilRequest}
    {t : RilData} (h : drain RilData.requests (·.status == .pending)
      (fun n => dispatchRequestWith rilRequestHandler (envs n)) n fuel d.data = some (taken, t)) :
    run step d ((List.range' n taken.length).map (fun i => .loopDispatch (envs i)) ++ [.loopEnd]) =
      some { d with data := t, loop := .parked } := by
  induction fuel generalizing n d taken with
  | zero => simp [drain] at h
  | succ fuel ih =>
    cases hf : d.data.requests.find? (·.status == .pending) with
    | none =>
      obtain ⟨rfl, rfl⟩ : [] = taken ∧ d.data = t := by simpa [drain, hf] using h
      have hend : step d .loopEnd = some { d with loop := .parked } := step_loop_end.mpr ⟨hd, hf, rfl⟩
      simp [run, hend]
    | some r =>
      simp only [drain, hf, Option.map_eq_some_iff, Prod.mk.injEq] at h
      obtain ⟨⟨rest, t'⟩, hrest, rfl, rfl⟩ := h
      have hstep : step d (.loopDispatch (envs n)) = some { d with data := dispatchRequest (envs n) r d.data } :=
        step_loop_dispatch.mpr ⟨hd, r, hf, rfl⟩
      rw [List.length_cons, List.range'_succ, List.map_cons, List.cons_append, run, hstep, Option.bind_some]
      exact ih (d := { d with data := dispatchRequest (envs n) r d.data }) hd hrest

/-- In a reachable state the loop runs to its end, and dispatches the requests that are pending or were put off. -/
theorem woken_loop_runs {d : Daemon} (h : Reachable d) (hw : d.loop = .woken)
    (hradio : d.data.radioStateCheck .off = true) (envs : ℕ → Env) :
    ∃ t, run step d (.loopStart :: ((List.range' 0 d.data.runnable.length).map (fun i => .loopDispatch (envs i)) ++
        [.loopEnd])) = some { d with data := t, loop := .parked } ∧
      ∀ r ∈ t.requests, r.status = .handled ∨ r.status = .unhandled := by
  obtain ⟨taken, t, hd, ht, hall⟩ := iteration_drains (fun _ _ => request_handler_behaves) envs (reachable_listed h)
    (reachable_statuses_known h)
  refine ⟨t, ?_, fun r hr => (ht.settled r hr).2⟩
  have hstart : step d .loopStart = some { d with data := d.data.retryUnhandled, loop := .dispatching } :=
    step_loop_start.mpr ⟨hw, .inl ⟨hradio, rfl⟩⟩
  have hlen : d.data.runnable.length = taken.length := by
    rw [hall fun _ _ => request_handler_keeps, ← retry_runnable, List.length_map]
  rw [run, hstart, Option.bind_some, hlen]
  exact drain_run envs (d := { d with data := d.data.retryUnhandled, loop := .dispatching }) rfl hd

/-! ### What an iteration does -/

/-- What an iteration dispatches and what it leaves -/
structure Iteration (handlers : RequestHandlers) (s : RilData) (dispatched : List RilToken) (t : RilData) : Prop where
  /-- in list order, and none of them twice -/
  order : dispatched.Sublist s.runnable ∧ s.runnable.Nodup
  /-- what is not dispatched was taken out of the list by the handler of another request -/
  gone : ∀ token ∈ s.runnable, token ∉ dispatched → token ∉ t.tokens
  all : (∀ request handler, handlers request = some handler → KeepsPending handler) → dispatched = s.runnable
  statuses : ∀ r ∈ t.requests, r.status = .handled ∨ r.status = .unhandled

theorem request_loop_iteration (handlers : RequestHandlers)
    (hb : ∀ request handler, handlers request = some handler → Behaves handler) (envs : ℕ → Env) (s : RilData)
    (hl : Listed s) (hs : StatusesKnown s) (hradio : s.radioStateCheck .off = true) :
    ∃ dispatched t, (∀ fuel, s.requests.length < fuel → requestLoop handlers envs fuel s = some (dispatched, t)) ∧
      Iteration handlers s dispatched t := by
  obtain ⟨taken, t, hd, ht, hall⟩ := iteration_drains hb envs hl hs
  refine ⟨taken.map (·.token), t, fun fuel hfuel => ?_, ?_, ?_, ?_, fun r hr => (ht.settled r hr).2⟩
  · rw [requestLoop, if_pos hradio, drain_fuel hd hfuel]
    rfl
  · rw [← retry_runnable]
    exact ⟨ht.order.map _, retry_runnable s ▸ runnable_nodup hl⟩
  · intro token htoken hnot
    rw [← retry_runnable] at htoken
    obtain ⟨r, hr, rfl⟩ := List.mem_map.mp htoken
    obtain ⟨hr, hready⟩ := List.mem_filter.mp hr
    exact ht.gone r hr hready fun hm => hnot (List.mem_map_of_mem hm)
  · intro hkeeps
    rw [← retry_runnable, hall hkeeps]

/-- Two requests, one of which was put off. -/
def twoRunnable : RilData where
  radioState := .off
  requests := [⟨.getSimStatus, .null, 1, .unhandled⟩, ⟨.setMute, .ints [1], 2, .pending⟩]

theorem request_loop_iteration_two : ∃ dispatched t,
    (∀ fuel, 2 < fuel → requestLoop rilRequestHandler (fun _ => {}) fuel twoRunnable = some (dispatched, t)) ∧
      Iteration rilRequestHandler twoRunnable dispatched t :=
  request_loop_iteration rilRequestHandler (fun _ _ => request_handler_behaves) (fun _ => {}) twoRunnable
    ⟨by decide, by decide⟩ (by simp [StatusesKnown, twoRunnable]) rfl

end Ril.Samsung
