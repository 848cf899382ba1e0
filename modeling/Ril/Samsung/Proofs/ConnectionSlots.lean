import Ril.Samsung.Proofs.Attended
import Ril.Samsung.Proofs.CidAllocation

/-! The connections that wait for a request, over whole runs. -/

namespace Ril.Samsung

open Ril.Ipc Ril.Lib

/-! ### The dispatch of the requests for connections -/

section

variable {token : RilToken} {record : ℕ} {but : Option ℕ} {s : RilData}

def PendingToken (token : RilToken) (s : RilData) : Prop := ∃ r ∈ s.requests, r.token = token ∧ r.status = .pending

/-- The handler of a request that is pending runs. -/
def ReadyFor (token : RilToken) (but : Option ℕ) (s : RilData) : Prop := Attended but s ∧ PendingToken token s

/-- What the handler leaves: if it takes the request, the connection of a record has its token. -/
def Taken (token : RilToken) (status : RilRequestStatus) (s : RilData) : Prop :=
  match status with
  | .handled => ∃ record, ReadyFor token (some record) s ∧ ∀ c ∈ s.dataConnections, c.record = record → c.token = token
  | .completed => Attended none s
  | _ => ReadyFor token none s

lemma ReadyFor.unwanted (h : ReadyFor token but s) :
    ∀ c ∈ s.dataConnections, some c.record ≠ but → c.token ≠ token := by
  obtain ⟨ha, r, hr, rfl, hs⟩ := h
  intro c hc hbut ht
  have hh := ha.handled c hc hbut r hr ht.symm
  rw [hs] at hh
  cases hh

lemma ReadyFor.complete (h : ReadyFor token none s) (error : RilErrno) (response : RilResponse) :
    Attended none (s.requestComplete token error response) :=
  h.1.complete error response fun _ c hc _ hbut => h.unwanted c hc hbut

lemma ready_complete (error : RilErrno) (response : RilResponse) :
    Triple (ReadyFor token none) (completeRequest token error response) (Taken token) :=
  fun _ hs => hs.complete error response

lemma ReadyFor.retarget (h : ReadyFor token (some record) s) :
    ReadyFor token (some record) (s.dataConnectionUpdate record fun c => { c with token := token }) := by
  have hunwanted := h.unwanted
  obtain ⟨ha, hp⟩ := h
  have hcases : ∀ c' ∈ (s.dataConnectionUpdate record fun c => { c with token := token }).dataConnections,
      ∃ c ∈ s.dataConnections, c'.record = c.record ∧ (c.record = record → c'.token = token) ∧
        (c.record ≠ record → c' = c) := by
    intro c' hc'
    obtain ⟨c, hc, rfl⟩ := List.mem_map.mp hc'
    refine ⟨c, hc, ?_⟩
    by_cases hk : c.record = record
    · simp [hk]
    · simp [hk]
  have hrecords : (s.dataConnectionUpdate record fun c => { c with token := token }).dataConnections.map (·.record) =
      s.dataConnections.map (·.record) := by
    simp only [RilData.dataConnectionUpdate, List.map_map]
    refine List.map_congr_left fun c _ => ?_
    rw [Function.comp_apply]
    split <;> rfl
  refine ⟨⟨hrecords ▸ ha.records, fun c' hc' => ?_, ha.tokens, ha.ne_zero, fun c' hc' he hbut => ?_,
    fun c' hc' hbut r hr ht => ?_, fun c₁ h₁ c₂ h₂ ht h0 => ?_⟩, hp⟩
  · obtain ⟨c, hc, hrec, -⟩ := hcases c' hc'
    rw [hrec]
    exact ha.below c hc
  · obtain ⟨c, hc, hrec, -, hsame⟩ := hcases c' hc'
    obtain rfl := hsame (by simpa [hrec] using hbut)
    exact ha.carried c' hc he hbut
  · obtain ⟨c, hc, hrec, -, hsame⟩ := hcases c' hc'
    obtain rfl := hsame (by simpa [hrec] using hbut)
    exact ha.handled c' hc hbut r hr ht
  · obtain ⟨c, hc, hrec, htok, hsame⟩ := hcases c₁ h₁
    obtain ⟨c', hc', hrec', htok', hsame'⟩ := hcases c₂ h₂
    by_cases hk : c.record = record
    · by_cases hk' : c'.record = record
      · rw [hrec, hrec', hk, hk']
      · obtain rfl := hsame' hk'
        exact absurd (ht.symm.trans (htok hk)) (hunwanted c₂ hc' (by simpa using hk'))
    · obtain rfl := hsame hk
      by_cases hk' : c'.record = record
      · exact absurd (ht.trans (htok' hk')) (hunwanted c₁ hc (by simpa using hk))
      · obtain rfl := hsame' hk'
        exact ha.distinct c₁ hc c₂ hc' ht h0

/-- The connection gets the token of the request; if its message is not sent, the connection is stopped. -/
lemma retarget_taken (c : RilDataConnection) (expect : Option ExpectKind) (command : IpcCommand) (data : Bytes) :
    Triple (ReadyFor token (some c.record))
      (do
        modify (RilData.dataConnectionUpdate c.record fun c => { c with token := token })
        if ← transmit (.request token) expect command .set data then
          return .handled
        else
          rilDataConnectionStop c.record
          failRequest token)
      (Taken token) := by
  let P : RilData → Prop := fun s => ReadyFor token (some c.record) s ∧
    ∀ c' ∈ s.dataConnections, c'.record = c.record → c'.token = token
  have htransmit : Triple P (transmit (.request token) expect command .set data) fun _ => P := by
    rintro s ⟨⟨ha, hp⟩, ht⟩
    have hconns : (transmit (.request token) expect command .set data s).2.dataConnections = s.dataConnections :=
      congrArg Prod.fst (s.transmit_connView (.request token) expect command .set data)
    have hreq : (transmit (.request token) expect command .set data s).2.requests = s.requests :=
      congrArg Prod.fst (s.transmit_loopView (.request token) expect command .set data)
    refine ⟨⟨attended_transmit _ _ _ _ _ s ha, ?_⟩, ?_⟩
    · rw [PendingToken, hreq]
      exact hp
    · rw [hconns]
      exact ht
  refine .bind (Q := fun _ => P) (.modify fun s hs => ⟨hs.retarget, fun c' hc' hrec => ?_⟩) fun _ =>
    .bind htransmit fun sent => .ite (fun _ => .pure fun s hs => ⟨c.record, hs⟩) fun _ =>
      .bind (Q := fun _ => ReadyFor token none) (fun s hs => ⟨hs.1.1.stop, ?_⟩) fun _ => ready_complete _ _
  · obtain ⟨c₀, hc₀, rfl⟩ := List.mem_map.mp hc'
    by_cases hk : c₀.record = c.record
    · simp [hk]
    · simp only [beq_false_of_ne hk] at hrec
      exact absurd hrec hk
  · have hreq : (rilDataConnectionStop c.record s).2.requests = s.requests := stop_requests s c.record
    rw [PendingToken, hreq]
    exact hs.1.2

lemma ready_heap {α : Type} {m : RilM α} (hm : Triple (Attended but) m fun _ => Attended but)
    (hw : ∀ s, (m s).2.withoutConnections = s.withoutConnections) :
    Triple (ReadyFor token but) m fun _ => ReadyFor token but := by
  rintro s ⟨ha, hp⟩
  refine ⟨hm s ha, ?_⟩
  rw [PendingToken, RilData.eq_of_withoutConnections (hw s)]
  exact hp

lemma ready_strdup (value : CString) : Triple (ReadyFor token but) (strdup value) fun _ => ReadyFor token but :=
  ready_heap (attended_strdup value) fun _ => rfl

lemma ready_strdup_option (value : Option CString) :
    Triple (ReadyFor token but) (strdupOption value) fun _ => ReadyFor token but := by
  cases value with
  | none => exact .pure fun _ h => h
  | some value => exact .bind (ready_strdup value) fun _ => .pure fun _ h => h

lemma ready_free (string : Option HeapString) : Triple (ReadyFor token but) (free string) fun _ => ReadyFor token but := by
  refine ready_heap (attended_free string) fun s => ?_
  cases string <;> rfl

lemma ReadyFor.register (h : ReadyFor token none s) (cid : ℕ) (apn iface : HeapString)
    (username password : Option HeapString) : ReadyFor token (some (s.heap.next + 1))
      (s.heapAlloc.dataConnectionRegister cid apn username password iface) := by
  obtain ⟨ha, hp⟩ := h
  have hcases : ∀ c ∈ (s.heapAlloc.dataConnectionRegister cid apn username password iface).dataConnections,
      c ∈ s.dataConnections ∨ c.record = s.heap.next + 1 ∧ c.token = 0 := by
    intro c hc
    rcases List.mem_append.mp hc with hc | hc
    · exact .inl hc
    · rw [List.mem_singleton.mp hc]
      exact .inr ⟨rfl, rfl⟩
  have hrecords : (s.heapAlloc.dataConnectionRegister cid apn username password iface).dataConnections.map (·.record) =
      s.dataConnections.map (·.record) ++ [s.heap.next + 1] := List.map_append
  have hnext : (s.heapAlloc.dataConnectionRegister cid apn username password iface).heap.next = s.heap.next + 1 + 1 + 1 :=
    rfl
  refine ⟨⟨?_, fun c hc => ?_, ha.tokens, ha.ne_zero, fun c hc he hbut => ?_, fun c hc hbut => ?_,
    fun c hc c' hc' ht h0 => ?_⟩, hp⟩
  · rw [hrecords, List.nodup_append]
    refine ⟨ha.records, List.nodup_singleton _, ?_⟩
    intro record hr record' hr'
    obtain ⟨c, hc, rfl⟩ := List.mem_map.mp hr
    have hlt := ha.below c hc
    rw [List.mem_singleton.mp hr']
    omega
  · rw [hnext]
    rcases hcases c hc with hc | ⟨hrec, -⟩
    · have hlt := ha.below c hc
      omega
    · omega
  · rcases hcases c hc with hc | ⟨hrec, -⟩
    · exact ha.carried c hc he nofun
    · exact absurd (congrArg some hrec) hbut
  · rcases hcases c hc with hc | ⟨hrec, -⟩
    · exact ha.handled c hc nofun
    · exact absurd (congrArg some hrec) hbut
  · rcases hcases c hc with hc | ⟨-, htok⟩
    · rcases hcases c' hc' with hc' | ⟨-, htok'⟩
      · exact ha.distinct c hc c' hc' ht h0
      · exact absurd (ht.trans htok') h0
    · exact absurd htok h0

lemma ready_start (apn : HeapString) (username password : Option HeapString) :
    Triple (ReadyFor token none) (rilDataConnectionStart apn username password)
      fun r => ReadyFor token (r.map (·.record)) := by
  intro s hs
  rcases start_result s apn username password with he | ⟨cid, iface, he⟩
  · rw [he]
    exact hs
  · rw [he]
    exact hs.register cid apn _ username password

lemma setup_data_call_taken (data : RilValue) :
    Triple (ReadyFor token none) (rilRequestSetupDataCall data token) (Taken token) := by
  rw [rilRequestSetupDataCall.eq_def]
  split
  · refine .read fun s hs => Triple.weaken (P := ReadyFor token none) ?_ fun t (ht : t = s) => ht ▸ hs
    refine .ite (fun _ => .read fun t ht => Triple.weaken (P := ReadyFor token none) ?_ fun u (hu : u = t) => hu ▸ ht)
      fun _ => ready_complete _ _
    refine .ite (fun _ => .pure fun _ h => h) fun _ => ?_
    split
    · exact ready_complete _ _
    · refine .bind (ready_strdup _) fun apn => .bind (ready_strdup_option _) fun username =>
        .bind (ready_strdup_option _) fun password => .bind (ready_start apn username password) fun r => ?_
      cases r with
      | none =>
        exact .bind (ready_free _) fun _ => .bind (ready_free _) fun _ => .bind (ready_free _) fun _ => ready_complete _ _
      | some c => exact retarget_taken c _ _ _
  · exact ready_complete _ _

lemma deactivate_data_call_taken (data : RilValue) :
    Triple (ReadyFor token none) (rilRequestDeactivateDataCall data token) (Taken token) := by
  rw [rilRequestDeactivateDataCall.eq_def]
  split
  · refine .read fun s hs => Triple.weaken (P := ReadyFor token none) ?_ fun t (ht : t = s) => ht ▸ hs
    refine .ite (fun _ => .read fun t ht => Triple.weaken (P := ReadyFor token none) ?_ fun u (hu : u = t) => hu ▸ ht)
      fun _ => .pure fun _ h => h
    refine .ite (fun _ => .pure fun _ h => h) fun _ => ?_
    split
    · exact ready_complete _ _
    · refine .read fun u hu => Triple.weaken (P := ReadyFor token none) ?_ fun t (ht : t = u) => ht ▸ hu
      split
      · exact ready_complete _ _
      · rename_i c _
        exact (retarget_taken c _ _ _).weaken fun t ht => ⟨ht.1.weaken _, ht.2⟩
  · exact ready_complete _ _

lemma set_status_source {status : RilRequestStatus} {r : RilRequest}
    (h : r ∈ (s.requestSetStatus token status).requests) :
    ∃ r₀ ∈ s.requests, r.token = r₀.token ∧ r.request = r₀.request ∧
      r.status = if r₀.token = token then status else r₀.status := by
  obtain ⟨r₀, hr₀, rfl⟩ := List.mem_map.mp h
  refine ⟨r₀, hr₀, ?_⟩
  by_cases hk : r₀.token = token
  · simp [hk]
  · simp [hk]

lemma mem_set_status {status : RilRequestStatus} {r : RilRequest} (hr : r ∈ s.requests) :
    (if r.token = token then { r with status := status } else r) ∈ (s.requestSetStatus token status).requests := by
  refine List.mem_map.mpr ⟨r, hr, ?_⟩
  by_cases hk : r.token = token
  · simp [hk]
  · simp [hk]

lemma set_status_tokens (status : RilRequestStatus) : (s.requestSetStatus token status).tokens = s.tokens := by
  rw [RilData.tokens, RilData.tokens, RilData.requestSetStatus, List.map_map]
  refine List.map_congr_left fun r _ => ?_
  rw [Function.comp_apply]
  split <;> rfl

lemma ReadyFor.setStatus (h : ReadyFor token but s) (status : RilRequestStatus) :
    Attended but (s.requestSetStatus token status) := by
  have hunwanted := h.unwanted
  obtain ⟨ha, hp⟩ := h
  have htokens : (s.requestSetStatus token status).tokens = s.tokens := set_status_tokens status
  refine ⟨ha.records, ha.below, htokens ▸ ha.tokens, htokens ▸ ha.ne_zero, fun c hc he hbut => ?_,
    fun c hc hbut r hr ht => ?_, ha.distinct⟩
  · obtain ⟨r, hr, ht, hf, hs⟩ := ha.carried c hc he hbut
    have hne : r.token ≠ token := ht ▸ hunwanted c hc hbut
    have hmem : _ ∈ (s.requestSetStatus token status).requests := mem_set_status hr
    rw [if_neg hne] at hmem
    exact ⟨r, hmem, ht, hf, hs⟩
  · obtain ⟨r₀, hr₀, ht₀, -, hs⟩ := set_status_source hr
    have hne : r₀.token ≠ token := ht₀ ▸ ht ▸ hunwanted c hc hbut
    rw [hs, if_neg hne]
    exact ha.handled c hc hbut r₀ hr₀ (ht₀ ▸ ht)

lemma Taken.setStatus {r : RilRequest} (h : Taken r.token .handled s) (hr : r ∈ s.requests)
    (hf : r.request.footprint.connections = true) : Attended none (s.requestSetStatus r.token .handled) := by
  obtain ⟨record, hready, htoken⟩ := h
  have ha := hready.setStatus .handled
  have hunwanted := hready.unwanted
  refine ⟨ha.records, ha.below, ha.tokens, ha.ne_zero, fun c hc he _ => ?_, fun c hc _ r' hr' ht => ?_, ha.distinct⟩
  · by_cases hk : c.record = record
    · have hmem : _ ∈ (s.requestSetStatus r.token .handled).requests := mem_set_status hr
      rw [if_pos rfl] at hmem
      exact ⟨_, hmem, (htoken c hc hk).symm, hf, rfl⟩
    · exact ha.carried c hc he (by simpa using hk)
  · by_cases hk : c.record = record
    · obtain ⟨r₀, -, ht₀, -, hs⟩ := set_status_source hr'
      rw [hs, if_pos (ht₀ ▸ ht.trans (htoken c hc hk))]
    · exact ha.handled c hc (by simpa using hk) r' hr' ht

/-! ### The steps -/

lemma retry_attended (h : Attended none s) : Attended none s.retryUnhandled := by
  have htokens : s.retryUnhandled.tokens = s.tokens := by
    rw [RilData.tokens, RilData.tokens, RilData.retryUnhandled, List.map_map]
    refine List.map_congr_left fun r _ => ?_
    rw [Function.comp_apply]
    split <;> rfl
  refine ⟨h.records, h.below, htokens ▸ h.tokens, htokens ▸ h.ne_zero, fun c hc he hbut => ?_,
    fun c hc hbut r hr ht => ?_, h.distinct⟩
  · obtain ⟨r, hr, ht, hf, hs⟩ := h.carried c hc he hbut
    exact ⟨r, List.mem_map.mpr ⟨r, hr, by simp [hs]⟩, ht, hf, hs⟩
  · obtain ⟨r₀, hr₀, rfl⟩ := List.mem_map.mp hr
    have ht₀ : r₀.token = c.token := by
      rw [← ht]
      split <;> rfl
    have hh := h.handled c hc hbut r₀ hr₀ ht₀
    simp [hh]

lemma arrive_attended (h : Attended none s) (hT : TokensIn (ForConnections s.trace) s) {request : RilRequestCode}
    {data : RilValue} (h0 : token ≠ 0) (hm : token ∉ s.tokens)
    (hfresh : ∀ request data, Event.arrived token request data ∉ s.trace) :
    Attended none (rilOnRequest request data token s) := by
  have hreq : (rilOnRequest request data token s).requests = s.requests ++ [⟨request, data, token, .pending⟩] := by
    rw [rilOnRequest, unregister_of_not_mem hm]
    rfl
  have htokens : (rilOnRequest request data token s).tokens = s.tokens ++ [token] := by
    rw [RilData.tokens, hreq, List.map_append]
    rfl
  have hview : (rilOnRequest request data token s).connView = s.connView :=
    @op_connView (.arrive request data token) rfl s
  have hconns : (rilOnRequest request data token s).dataConnections = s.dataConnections := congrArg Prod.fst hview
  have hheap : (rilOnRequest request data token s).heap = s.heap := congrArg Prod.snd hview
  refine ⟨hconns ▸ h.records, ?_, ?_, ?_, ?_, ?_, hconns ▸ h.distinct⟩
  · rw [hconns, hheap]
    exact h.below
  · rw [htokens, List.nodup_append]
    refine ⟨h.tokens, List.nodup_singleton _, ?_⟩
    rintro t ht t' ht' rfl
    exact hm (List.mem_singleton.mp ht' ▸ ht)
  · rw [htokens, List.mem_append, List.mem_singleton]
    rintro (hz | hz)
    · exact h.ne_zero hz
    · exact h0 hz.symm
  · rw [hconns, hreq]
    intro c hc he hbut
    obtain ⟨r, hr, hrest⟩ := h.carried c hc he hbut
    exact ⟨r, List.mem_append_left _ hr, hrest⟩
  · rw [hconns, hreq]
    intro c hc hbut r hr ht
    rcases List.mem_append.mp hr with hr | hr
    · exact h.handled c hc hbut r hr ht
    · obtain rfl := List.mem_singleton.mp hr
      rcases hT c hc with hz | ⟨request', data', harrived, -⟩
      · exact absurd (ht.trans hz) h0
      · have htoken : c.token = token := ht.symm
        rw [htoken] at harrived
        exact absurd harrived (hfresh request' data')

lemma taken_attended {env : Env} {r : RilRequest} {handler : RilValue → RilToken → RilM RilRequestStatus}
    (hh : rilRequestHandler r.request = some handler) (hf : r.request.footprint.connections = true)
    (hr : r ∈ s.requests) (ht : Triple (ReadyFor r.token none) (handler r.data r.token) (Taken r.token))
    (hready : ReadyFor r.token none (s.started env (.dispatched r.token))) :
    Attended none (dispatchRequest env r s) := by
  have htaken := ht _ hready
  have hspec := request_handler_spec r.data r.token hh (s.started env (.dispatched r.token))
  rcases hres : handler r.data r.token (s.started env (.dispatched r.token)) with ⟨status, t⟩
  rw [hres] at htaken hspec
  rw [dispatch_result hh hres]
  rcases hspec with ⟨rfl, -⟩ | ⟨rfl, hp⟩ | ⟨rfl, -⟩
  · exact ReadyFor.setStatus htaken _
  · have hreq : t.requests = s.requests := (Path.frame (f := RilData.requests) hp fun _ _ hop => hop.requests).trans rfl
    exact Taken.setStatus htaken (hreq ▸ hr) hf
  · exact htaken

lemma request_op_connects {F : Footprint} {sent : Bool} {op : Op} (hF : F.connections = false)
    (h : RequestOp F token sent s op) : op.connects = false := by
  rcases h.cases with rfl | ⟨expect, command, type, data, rfl, -⟩ | hq
  · rfl
  · rfl
  · cases op with
    | connections cs heap =>
      have hc : F.connections = true := hq
      rw [hF] at hc
      cases hc
    | radio radioState => exact hq.elim
    | _ => rfl

lemma dispatch_attended (h : Attended none s) (env : Env) {r : RilRequest} (hr : r ∈ s.requests)
    (hp : r.status = .pending) : Attended none (dispatchRequest env r s) := by
  have hready : ReadyFor r.token none (s.started env (.dispatched r.token)) := ⟨h.congr rfl rfl, r, hr, rfl, hp⟩
  cases hf : r.request.footprint.connections with
  | true =>
    rcases connection_requests hf with hq | hq
    · have hh : rilRequestHandler r.request = some rilRequestSetupDataCall := by
        rw [hq]
        rfl
      exact taken_attended hh hf hr (setup_data_call_taken r.data) hready
    · have hh : rilRequestHandler r.request = some rilRequestDeactivateDataCall := by
        rw [hq]
        rfl
      exact taken_attended hh hf hr (deactivate_data_call_taken r.data) hready
  | false =>
    have hpath {sent : Bool} {t : RilData}
        (ht : RequestPath r.request.footprint r.token sent (s.started env (.dispatched r.token)) t) :
        ReadyFor r.token none t := by
      have hview : t.connView = (s.started env (.dispatched r.token)).connView :=
        Path.frame (f := RilData.connView) ht fun u op hop => op_connView (request_op_connects hf hop) u
      have hreq : t.requests = (s.started env (.dispatched r.token)).requests :=
        Path.frame (f := RilData.requests) ht fun _ _ hop => hop.requests
      refine ⟨hready.1.congr hview hreq, ?_⟩
      rw [PendingToken, hreq]
      exact hready.2
    rcases dispatch_cases env r s with ⟨he, -⟩ | ⟨t, ht, he⟩ | ⟨t, error, response, ht, he⟩
    · rw [he]
      exact hready.setStatus _
    · rw [he]
      exact (hpath ht).setStatus _
    · rw [he]
      exact (hpath ht).complete error response

lemma srs_attended (h : Attended none s) (message : SrsMessage)
    (hu : ∀ state, message = .testSetRadioState state → RilRadioState.ofCode state = .unavailable → FirstStopped s) :
    Attended none (srsDispatch message s).2 := by
  have hsend (command : IpcCommand) (type : IpcRequestType) (data : Bytes) :
      Attended none (transmit .own none command type data s).2 := attended_transmit _ _ _ _ _ s h
  cases message with
  | sndSetCallVolume type volume => exact hsend .sndSpkrVolumeCtrl .set _
  | sndSetCallAudioPath path => exact hsend .sndAudioPathCtrl .set _
  | sndSetCallClockSync sync => exact hsend .sndClockCtrl .exec _
  | testSetRadioState state => exact radio_attended h (hu state rfl)

lemma step_attended {d d' : Daemon} {a : Action} (hd : Reachable d) (h : Attended none d.data) (hfresh : fresh d a)
    (hleaves : LeavesNone d a) (hstep : step d a = some d') : Attended none d'.data := by
  cases a with
  | request request data token =>
    obtain ⟨-, rfl⟩ := step_request.mp hstep
    exact arrive_attended h (reachable_tokens hd) hfresh.1 ((reachable_synced hd).not_mem_of_fresh hfresh.2) hfresh.2
  | requestSignal =>
    obtain ⟨-, rfl⟩ := step_request_signal.mp hstep
    exact h.congr rfl rfl
  | cancel token =>
    obtain ⟨-, rfl⟩ := step_cancel.mp hstep
    exact h.cancel hleaves
  | loopWake =>
    obtain ⟨-, rfl⟩ := step_loop_wake.mp hstep
    exact h.congr rfl rfl
  | loopStart =>
    obtain ⟨-, ⟨-, rfl⟩ | ⟨-, rfl⟩⟩ := step_loop_start.mp hstep
    · exact retry_attended h
    · exact h
  | loopDispatch env =>
    obtain ⟨-, r, hr, rfl⟩ := step_loop_dispatch.mp hstep
    have hs : r.status = .pending := by simpa using List.find?_some hr
    exact dispatch_attended h env (List.mem_of_find?_eq_some hr) hs
  | loopEnd =>
    obtain ⟨-, -, rfl⟩ := step_loop_end.mp hstep
    exact h
  | message env message =>
    have hm := message_attended ⟨h, hleaves⟩ env
    obtain ⟨-, -, ⟨data, he, rfl⟩ | ⟨data, he, rfl⟩⟩ := step_message.mp hstep
    · rwa [he] at hm
    · rw [he] at hm
      exact hm.congr rfl rfl
  | clientError =>
    obtain ⟨-, -, rfl⟩ := step_client_error.mp hstep
    exact (radio_attended h fun _ => hleaves).congr rfl rfl
  | clientReopen closed opened =>
    obtain ⟨-, -, ⟨-, -, rfl⟩ | ⟨-, rfl⟩⟩ := step_client_reopen.mp hstep
    · have hclose : Attended none (clientClose d.data) := h.congr rfl rfl
      dsimp only
      rw [clientOpen]
      split
      · have hoff : Attended none ((clientClose d.data).radioStateUpdate .off) := radio_attended hclose (by simp)
        exact hoff.congr rfl rfl
      · exact hclose.congr rfl rfl
    · exact h.congr rfl rfl
  | clientStop =>
    obtain ⟨-, -, rfl⟩ := step_client_stop.mp hstep
    exact h.congr rfl rfl
  | srs env message =>
    obtain ⟨-, rfl⟩ := step_srs.mp hstep
    have henv : Attended none { d.data with env := env } := h.congr rfl rfl
    refine srs_attended henv message ?_
    rintro state rfl
    exact hleaves

/-- In a run whose steps leave no connection behind, every connection that is not enabled waits for a request that is
still registered. -/
theorem slots_held {d : Daemon} (h : Reaches step (fun d a => fresh d a ∧ LeavesNone d a) {} d) : SlotsHeld d.data := by
  have hattended : Attended none d.data := by
    induction h with
    | refl => exact .init
    | tail hrun ha hstep ih => exact step_attended (hrun.mono fun _ _ hok => hok.1) ih ha.1 ha.2 hstep
  exact hattended.slots

/-- The first connection waits for its request. -/
theorem slots_held_setup : let d := runFrom {} (simReadyRun ++ setupDataCallRun 1)
    SlotsHeld d.data ∧ d.data.dataConnections.map (fun c => (c.cid, c.token, c.enabled)) = [(1, 1, false)] := by
  have hruns : runs (fun d a => freshCheck d a && decide (LeavesNone d a)) {} (simReadyRun ++ setupDataCallRun 1) = true := by
    decide
  refine ⟨slots_held (reaches_runFrom hruns fun d a h => ?_), by decide⟩
  rw [Bool.and_eq_true] at h
  exact ⟨fresh_of_check h.1, of_decide_eq_true h.2⟩

/-- A setup that is cancelled leaves its connection. -/
theorem slots_held_fails : ∃ d, Reachable d ∧ d = runFrom {} (simReadyRun ++ setupDataCallRun 1 ++ [.cancel 1]) ∧
    d.data.dataConnections.map (fun c => (c.cid, c.token, c.enabled)) = [(1, 1, false)] ∧ d.data.requests = [] ∧
    d.data.radioState = .simReady ∧ ¬ SlotsHeld d.data :=
  ⟨_, reachable_runFrom (by decide), rfl, by decide⟩

end

end Ril.Samsung
