import Ril.Samsung.Proofs.Statuses
import Ril.Samsung.Proofs.Targets

/-! The connections that wait for a request, and what messages leave of them. -/

namespace Ril.Samsung

open Ril.Ipc Ril.Lib

/-- Every connection that is not enabled carries the token of a request for it. -/
def SlotsHeld (s : RilData) : Prop :=
  ∀ c ∈ s.dataConnections, c.enabled = false →
    ∃ r ∈ s.requests, r.token = c.token ∧ (r.request = .setupDataCall ∨ r.request = .deactivateDataCall)

instance (s : RilData) : Decidable (SlotsHeld s) := inferInstanceAs (Decidable (∀ c ∈ _, _))

/-- A connection that is not enabled has the token. -/
def AwaitedBy (token : RilToken) (s : RilData) : Prop := ∃ c ∈ s.dataConnections, c.enabled = false ∧ c.token = token

instance (token : RilToken) (s : RilData) : Decidable (AwaitedBy token s) := inferInstanceAs (Decidable (∃ c ∈ _, _))

/-- Whether a message may complete the request of its aseq without the connection that waits for it being stopped. -/
def repliesOnly (message : IpcMessage) (s : RilData) : Bool :=
  match message.command with
  | .gprsIpConfiguration =>
    ipcSeqValid message.aseq && (IpcGprsIpConfigurationData.read message.data).any fun data =>
      (s.dataConnectionFindCid data.cid.toNat).isNone
  | .gprsCallStatus =>
    ipcSeqValid message.aseq && (IpcGprsCallStatusData.read message.data).any fun data =>
      (s.dataConnectionFindCid data.cid.toNat).isNone
  | .genPhoneRes =>
    match s.expectFindAseq message.aseq with
    | some ⟨_, _, some .ipcGprsDefinePdpContext, _, _⟩ | some ⟨_, _, some .ipcGprsPdpContext, _, _⟩ => false
    | _ => (genPhoneResFootprint message s).replies
  | _ => (messageFootprint message s).replies

/-- Only the first connection is stopped when the radio goes away. -/
def FirstStopped (s : RilData) : Prop :=
  s.radioState = .unavailable ∨ ∀ c ∈ s.dataConnections.tail, c.enabled = true

instance (s : RilData) : Decidable (FirstStopped s) := inferInstanceAs (Decidable (_ ∨ _))

/-- The steps after which no connection waits in vain: no request of a waiting connection is cancelled, or answered by a
message that leaves the connection, and when the radio goes away only the first connection waits. -/
def LeavesNone (d : Daemon) : Action → Prop
  | .cancel token => ¬ AwaitedBy token d.data
  | .message _ message => repliesOnly message d.data = true →
      ∀ q ∈ d.data.fmtRequests, q.seq = message.aseq → ¬ AwaitedBy q.token d.data
  | .clientError => FirstStopped d.data
  | .srs _ (.testSetRadioState state) => RilRadioState.ofCode state = .unavailable → FirstStopped d.data
  | _ => True

instance (d : Daemon) (a : Action) : Decidable (LeavesNone d a) :=
  match a with
  | .cancel token => inferInstanceAs (Decidable (¬ AwaitedBy token d.data))
  | .message _ message => inferInstanceAs (Decidable (repliesOnly message d.data = true →
      ∀ q ∈ d.data.fmtRequests, q.seq = message.aseq → ¬ AwaitedBy q.token d.data))
  | .clientError => inferInstanceAs (Decidable (FirstStopped d.data))
  | .srs _ (.testSetRadioState state) =>
    inferInstanceAs (Decidable (RilRadioState.ofCode state = .unavailable → FirstStopped d.data))
  | .request _ _ _ | .requestSignal | .loopWake | .loopStart | .loopDispatch _ | .loopEnd | .clientReopen _ _
  | .clientStop | .srs _ (.sndSetCallVolume _ _) | .srs _ (.sndSetCallAudioPath _) | .srs _ (.sndSetCallClockSync _) =>
    .isTrue trivial

/-- The invariant, but for the connection of a record -/
structure Attended (but : Option ℕ) (s : RilData) : Prop where
  records : (s.dataConnections.map (·.record)).Nodup
  below : ∀ c ∈ s.dataConnections, c.record < s.heap.next
  tokens : s.tokens.Nodup
  ne_zero : 0 ∉ s.tokens
  carried : ∀ c ∈ s.dataConnections, c.enabled = false → some c.record ≠ but →
    ∃ r ∈ s.requests, r.token = c.token ∧ r.request.footprint.connections = true ∧ r.status = .handled
  handled : ∀ c ∈ s.dataConnections, some c.record ≠ but → ∀ r ∈ s.requests, r.token = c.token → r.status = .handled
  distinct : ∀ c ∈ s.dataConnections, ∀ c' ∈ s.dataConnections, c.token = c'.token → c.token ≠ 0 → c.record = c'.record

/-- The connections that have the token are those of the record. -/
def CarriedBy (token : RilToken) (record : ℕ) (s : RilData) : Prop :=
  token ≠ 0 → ∀ c ∈ s.dataConnections, c.token = token → c.record = record

lemma stop_sublist (s : RilData) (record : ℕ) :
    (s.dataConnectionStop record).dataConnections.Sublist s.dataConnections := by
  cases hf : s.dataConnectionFind record with
  | none =>
    have hf' : (s.heapUse record).dataConnectionFind record = none := hf
    simp only [RilData.dataConnectionStop, RilData.dataConnectionUnregister, hf']
    exact .refl _
  | some c =>
    rw [RilData.stop_eq hf]
    exact List.eraseP_sublist

lemma stop_requests (s : RilData) (record : ℕ) : (s.dataConnectionStop record).requests = s.requests := by
  rw [RilData.eq_of_withoutConnections (withoutConnections_stop record s)]

namespace Attended

variable {but : Option ℕ} {s t : RilData} {token : RilToken} {record : ℕ}

lemma init : Attended none {} where
  records := List.nodup_nil
  below := by simp
  tokens := List.nodup_nil
  ne_zero := List.not_mem_nil
  carried := by simp
  handled := by simp
  distinct := by simp

lemma slots (h : Attended none s) : SlotsHeld s := by
  intro c hc he
  obtain ⟨r, hr, ht, hf, -⟩ := h.carried c hc he nofun
  exact ⟨r, hr, ht, connection_requests hf⟩

lemma weaken (h : Attended none s) (but : Option ℕ) : Attended but s :=
  ⟨h.records, h.below, h.tokens, h.ne_zero, fun c hc he _ => h.carried c hc he nofun,
    fun c hc _ => h.handled c hc nofun, h.distinct⟩

/-- The connections are some of those that were there, no other ones wait, and only enabled ones lose their token. -/
lemma connections (h : Attended but s) (hi : Inherits s t)
    (hc : ∀ c' ∈ t.dataConnections, ∃ c ∈ s.dataConnections, c'.record = c.record ∧
      (c'.enabled = false → c.enabled = false ∧ c'.token = c.token))
    (hr : t.requests = s.requests) : Attended but t := by
  have htokens : t.tokens = s.tokens := by rw [RilData.tokens, hr, RilData.tokens]
  refine ⟨h.records.sublist hi.records, fun c hc => ?_, htokens ▸ h.tokens, htokens ▸ h.ne_zero,
    fun c' hc' he hbut => ?_, fun c' hc' hbut r hr' ht => ?_, fun c₁ h₁ c₂ h₂ ht h0 => ?_⟩
  · obtain ⟨c', hc', hrec, -⟩ := hi.tokens c hc
    rw [hrec]
    exact Nat.lt_of_lt_of_le (h.below c' hc') hi.next
  · obtain ⟨c, hcmem, hrec, hen⟩ := hc c' hc'
    obtain ⟨he', ht⟩ := hen he
    rw [hr, ht]
    exact h.carried c hcmem he' (hrec ▸ hbut)
  · obtain ⟨c, hcmem, hrec, -, htok⟩ := hi.tokens c' hc'
    rw [hr] at hr'
    rcases htok with htok | htok
    · exact h.handled c hcmem (hrec ▸ hbut) r hr' (ht.trans htok)
    · rw [htok] at ht
      exact absurd (ht ▸ List.mem_map_of_mem hr') h.ne_zero
  · obtain ⟨c₁', h₁', hrec₁, -, ht₁ | ht₁⟩ := hi.tokens c₁ h₁
    · obtain ⟨c₂', h₂', hrec₂, -, ht₂ | ht₂⟩ := hi.tokens c₂ h₂
      · rw [hrec₁, hrec₂]
        exact h.distinct c₁' h₁' c₂' h₂' (by rw [← ht₁, ht, ht₂]) (ht₁ ▸ h0)
      · exact absurd (ht.trans ht₂) h0
    · exact absurd ht₁ h0

lemma sublist (h : Attended but s) (hc : t.dataConnections.Sublist s.dataConnections) (hn : s.heap.next ≤ t.heap.next)
    (hr : t.requests = s.requests) : Attended but t :=
  h.connections (.of_sublist hc hn) (fun c hc' => ⟨c, hc.subset hc', rfl, fun he => ⟨he, rfl⟩⟩) hr

lemma congr (h : Attended but s) (hv : t.connView = s.connView) (hr : t.requests = s.requests) : Attended but t := by
  have hc : t.dataConnections = s.dataConnections := congrArg Prod.fst hv
  have hh : t.heap = s.heap := congrArg Prod.snd hv
  exact h.sublist (hc ▸ .refl _) (hh ▸ Nat.le_refl _) hr

lemma carriedBy (h : Attended but s) {c : RilDataConnection} (hc : c ∈ s.dataConnections) :
    CarriedBy c.token c.record s := by
  intro h0 c' hc' ht
  exact h.distinct c' hc' c hc ht (ht ▸ h0)

/-- Requests that no connection waits for may go. -/
lemma requests (h : Attended but s) (hv : t.connView = s.connView) (hs : t.requests.Sublist s.requests)
    (hk : ∀ r ∈ s.requests, (∃ c ∈ s.dataConnections, c.enabled = false ∧ some c.record ≠ but ∧ c.token = r.token) →
      r ∈ t.requests) : Attended but t := by
  have hc : t.dataConnections = s.dataConnections := congrArg Prod.fst hv
  have hh : t.heap = s.heap := congrArg Prod.snd hv
  have htokens : t.tokens.Sublist s.tokens := hs.map _
  refine ⟨hc ▸ h.records, ?_, h.tokens.sublist htokens, fun h0 => h.ne_zero (htokens.subset h0), ?_, ?_, hc ▸ h.distinct⟩
  · rw [hc, hh]
    exact h.below
  · rw [hc]
    intro c hcmem he hbut
    obtain ⟨r, hr, ht, hrest⟩ := h.carried c hcmem he hbut
    exact ⟨r, hk r hr ⟨c, hcmem, he, hbut, ht.symm⟩, ht, hrest⟩
  · rw [hc]
    intro c hcmem hbut r hr
    exact h.handled c hcmem hbut r (hs.subset hr)

lemma unregister (h : Attended but s)
    (hk : ∀ c ∈ s.dataConnections, c.enabled = false → some c.record ≠ but → c.token ≠ token) :
    Attended but (s.requestUnregister token) := by
  refine h.requests (s.requestUnregister_connView token) (unregister_sublist token s) fun r hr hc => ?_
  obtain ⟨c, hc, he, hbut, ht⟩ := hc
  exact mem_unregister_of_ne token hr (ht ▸ hk c hc he hbut)

lemma complete (h : Attended but s) (error : RilErrno) (response : RilResponse)
    (hk : token ≠ 0 → ∀ c ∈ s.dataConnections, c.enabled = false → some c.record ≠ but → c.token ≠ token) :
    Attended but (s.requestComplete token error response) := by
  rw [RilData.requestComplete]
  split
  · exact h
  · rename_i h0
    exact (h.unregister (hk h0)).congr rfl rfl

lemma cancel (h : Attended none s) (hk : ¬ AwaitedBy token s) : Attended none (rilOnCancel token s) := by
  rw [rilOnCancel]
  split
  · exact h
  · have hkept : Attended none (s.requestUnregister token) := h.unregister fun c hc he _ ht => hk ⟨c, hc, he, ht⟩
    exact hkept.congr rfl rfl

lemma stop (h : Attended (some record) s) : Attended none (s.dataConnectionStop record) := by
  have hgone := stop_removes h.records record
  have hi := stop_inherits s record
  have hrest : Attended (some record) (s.dataConnectionStop record) := 
    h.sublist (stop_sublist s record) hi.next (stop_requests s record)
  refine ⟨hrest.records, hrest.below, hrest.tokens, hrest.ne_zero, fun c hc he _ => ?_, fun c hc _ => ?_, hrest.distinct⟩
  · exact hrest.carried c hc he (by simpa using hgone c hc)
  · exact hrest.handled c hc (by simpa using hgone c hc)

end Attended

/-! ### Programs -/

section

variable {but : Option ℕ} {token : RilToken} {record : ℕ} {c : RilDataConnection} {request : Option RilRequest}
  {message : IpcMessage}

lemma CarriedBy.inherits {s t : RilData} (h : CarriedBy token record s) (hi : Inherits s t) :
    CarriedBy token record t := by
  intro h0 c hc ht
  obtain ⟨c', hc', hrec, -, ht' | ht'⟩ := hi.tokens c hc
  · exact hrec.trans (h h0 c' hc' (ht' ▸ ht))
  · exact absurd (ht.symm.trans ht') h0

/-- The token of the request is at most that of the connection of the record. -/
def Served (but : Option ℕ) (token : RilToken) (record : ℕ) (s : RilData) : Prop :=
  Attended but s ∧ CarriedBy token record s

lemma attended_transmit (sender : Sender) (expect : Option ExpectKind) (command : IpcCommand) (type : IpcRequestType)
    (data : Bytes) : Triple (Attended but) (transmit sender expect command type data) fun _ => Attended but := by
  intro s hs
  refine hs.congr (s.transmit_connView sender expect command type data) ?_
  exact congrArg Prod.fst (s.transmit_loopView sender expect command type data)

lemma attended_stop (record : ℕ) :
    Triple (Attended (some record)) (rilDataConnectionStop record) fun _ => Attended none := fun _ hs => hs.stop

lemma call_status_end_attended : Triple (Attended none) (callStatusEnd c request) fun _ => Attended none := by
  rw [callStatusEnd.eq_def]
  split
  · exact .pure fun _ h => h
  · refine .bind (attended_transmit _ _ _ _ _) fun sent => .ite (fun _ => ?_) fun _ => .pure fun _ h => h
    exact .bind ((attended_stop _).weaken fun s hs => hs.weaken _) fun _ => .pure fun _ h => h

/-- No connection has the token any more. -/
def Unwanted (token : RilToken) (s : RilData) : Prop := token ≠ 0 → ∀ c ∈ s.dataConnections, c.token ≠ token

lemma stop_unwanted {s : RilData} (hs : Served (some record) token record s) :
    Attended none (s.dataConnectionStop record) ∧ Unwanted token (s.dataConnectionStop record) := by
  obtain ⟨ha, hc⟩ := hs
  have hcarried := hc.inherits (stop_inherits s record)
  exact ⟨ha.stop, fun h0 c hc ht => stop_removes ha.records record c hc (hcarried h0 c hc ht)⟩

lemma unwanted_complete {s : RilData} (hs : Attended none s ∧ Unwanted token s) (error : RilErrno)
    (response : RilResponse) : Attended none (s.requestComplete token error response) :=
  hs.1.complete error response fun h0 c hc _ _ => hs.2 h0 c hc

lemma call_status_error_attended (hrequest : ∀ r, request = some r → r.token = c.token) :
    Triple (Served (some c.record) c.token c.record) (callStatusError c request) fun _ => Attended none := by
  intro s hs
  cases request with
  | none => exact hs.1.stop
  | some r =>
    have htoken : r.token = c.token := hrequest r rfl
    have hstopped := unwanted_complete (stop_unwanted hs) .genericFailure .null
    rwa [← htoken] at hstopped

lemma served_weaken {s : RilData} (h : Served none token record s) (but : Option ℕ) : Served but token record s :=
  ⟨h.1.weaken but, h.2⟩

lemma update_inherits {s : RilData} {f : RilDataConnection → RilDataConnection}
    (hf : ∀ c, (f c).record = c.record ∧ (f c).cid = c.cid ∧ ((f c).token = c.token ∨ (f c).token = 0)) :
    Inherits s (s.dataConnectionUpdate record f) := Tracks.update record hf s

/-- Of connections that keep their records and tokens, some may be enabled. -/
lemma update_attended {s : RilData} (h : Attended but s) {f : RilDataConnection → RilDataConnection}
    (hf : ∀ c, (f c).record = c.record ∧ (f c).cid = c.cid ∧ (f c).token = c.token ∧
      ((f c).enabled = c.enabled ∨ (f c).enabled = true)) : Attended but (s.dataConnectionUpdate record f) := by
  have hi : Inherits s (s.dataConnectionUpdate record f) :=
    update_inherits fun c => ⟨(hf c).1, (hf c).2.1, .inl (hf c).2.2.1⟩
  refine h.connections hi (fun c' hc' => ?_) rfl
  obtain ⟨c, hc, rfl⟩ := List.mem_map.mp hc'
  refine ⟨c, hc, ?_⟩
  split
  · obtain ⟨hrec, -, ht, he | he⟩ := hf c
    · exact ⟨hrec, fun h => ⟨he ▸ h, ht⟩⟩
    · exact ⟨hrec, fun h => by simp [he] at h⟩
  · exact ⟨rfl, fun h => ⟨h, rfl⟩⟩

/-- The connections of the record are enabled. -/
def EnabledAt (record : ℕ) (s : RilData) : Prop := ∀ c ∈ s.dataConnections, c.record = record → c.enabled = true

lemma connection_enable_served : Triple (Served none token c.record) (rilDataConnectionEnable c)
    fun enabled s => Served none token c.record s ∧ (enabled = true → EnabledAt c.record s) := by
  refine .read fun s hs => ?_
  have hfalse {P : RilData → Prop} (hP : ∀ t, P t → t = s) : Triple P (pure false : RilM Bool)
      fun enabled t => Served none token c.record t ∧ (enabled = true → EnabledAt c.record t) := by
    intro t ht
    rw [hP t ht]
    exact ⟨hs, nofun⟩
  refine .ite (fun _ => hfalse fun _ h => h) fun _ => .ite (fun _ => hfalse fun _ h => h) fun _ =>
    .ite (fun _ => hfalse fun _ h => h) fun _ => ?_
  rintro t rfl
  have hi : Inherits t (t.dataConnectionUpdate c.record fun c => { c with enabled := true }) :=
    update_inherits fun c => ⟨rfl, rfl, .inl rfl⟩
  refine ⟨⟨update_attended hs.1 fun c => ⟨rfl, rfl, rfl, .inr rfl⟩, hs.2.inherits hi⟩, fun _ c' hc' hrec => ?_⟩
  obtain ⟨c'', hc'', rfl⟩ := List.mem_map.mp hc'
  by_cases hk : c''.record = c.record
  · simp [hk]
  · simp only [beq_false_of_ne hk] at hrec
    exact absurd hrec hk

lemma drop_token_attended {s : RilData} (h : Attended none s) (he : EnabledAt record s) :
    Attended none (s.dataConnectionUpdate record fun c => { c with token := 0 }) := by
  have hi : Inherits s (s.dataConnectionUpdate record fun c => { c with token := 0 }) :=
    update_inherits fun c => ⟨rfl, rfl, .inr rfl⟩
  refine h.connections hi (fun c' hc' => ?_) rfl
  obtain ⟨c, hc, rfl⟩ := List.mem_map.mp hc'
  refine ⟨c, hc, ?_⟩
  by_cases hk : c.record = record
  · refine ⟨by simp [hk], ?_⟩
    simp [hk, he c hc hk]
  · simp [hk]

lemma call_status_enabled_attended (data : IpcGprsCallStatusData) (hrequest : ∀ r, request = some r → r.token = c.token) :
    Triple (Served none c.token c.record) (callStatusEnabled data c request) fun _ => Attended none := by
  have herror : Triple (Served none c.token c.record) (callStatusError c request) fun _ => Attended none :=
    (call_status_error_attended hrequest).weaken fun s hs => served_weaken hs _
  have hend : Triple (Served none c.token c.record) (callStatusEnd c request) fun _ => Attended none :=
    call_status_end_attended.weaken fun s hs => hs.1
  refine .ite (fun _ => .ite (fun _ => herror) fun _ => hend) fun _ => .bind connection_enable_served fun enabled => ?_
  refine .ite (fun he => ?_) fun _ => herror.weaken fun s hs => hs.1
  subst he
  refine .ite (fun _ => ?_) fun _ => hend.weaken fun s hs => hs.1
  refine .bind (Q := fun _ s => Attended none s ∧ EnabledAt c.record s) ?_ fun _ =>
    .bind (Q := fun _ => Attended none) (.modify fun s hs => drop_token_attended hs.1 hs.2) fun _ => call_status_end_attended
  rintro s ⟨⟨ha, hc⟩, he⟩
  have hview := s.requestComplete_connView c.token .success
    (.dataCalls [dataCallResponse c (ipc2rilGprsFailCause data.failCause) c.cid 2])
  have hconns : (s.requestComplete c.token .success (.dataCalls [dataCallResponse c
      (ipc2rilGprsFailCause data.failCause) c.cid 2])).dataConnections = s.dataConnections := congrArg Prod.fst hview
  refine ⟨ha.complete _ _ fun h0 c' hc' hen _ ht => ?_, ?_⟩
  · have hon := he rfl c' hc' (hc h0 c' hc' ht)
    simp [hon] at hen
  · intro c' hc'
    exact he rfl c' (hconns ▸ hc')

lemma touch_attended {s : RilData} (h : Attended (some record) s) {f : RilDataConnection → RilDataConnection}
    (hf : ∀ c, (f c).record = c.record ∧ (f c).cid = c.cid ∧ (f c).token = c.token) :
    Attended (some record) (s.dataConnectionUpdate record f) := by
  have hi : Inherits s (s.dataConnectionUpdate record f) := update_inherits fun c => ⟨(hf c).1, (hf c).2.1, .inl (hf c).2.2⟩
  have hcases : ∀ c' ∈ (s.dataConnectionUpdate record f).dataConnections, ∃ c ∈ s.dataConnections,
      c'.record = c.record ∧ c'.token = c.token ∧ (c.record ≠ record → c' = c) := by
    intro c' hc'
    obtain ⟨c, hc, rfl⟩ := List.mem_map.mp hc'
    refine ⟨c, hc, ?_⟩
    by_cases hk : c.record = record
    · simp [hk, hf c]
    · simp [hk]
  refine ⟨h.records.sublist hi.records, fun c hc => ?_, h.tokens, h.ne_zero, fun c' hc' he hbut => ?_,
    fun c' hc' hbut r hr ht => ?_, fun c₁ h₁ c₂ h₂ ht h0 => ?_⟩
  · obtain ⟨c', hc', hrec, -⟩ := hi.tokens c hc
    rw [hrec]
    exact Nat.lt_of_lt_of_le (h.below c' hc') hi.next
  · obtain ⟨c, hc, hrec, -, hsame⟩ := hcases c' hc'
    obtain rfl := hsame (by simpa [hrec] using hbut)
    exact h.carried c' hc he hbut
  · obtain ⟨c, hc, hrec, htok, -⟩ := hcases c' hc'
    exact h.handled c hc (hrec ▸ hbut) r hr (ht.trans htok)
  · obtain ⟨c, hc, hrec, htok, -⟩ := hcases c₁ h₁
    obtain ⟨c', hc', hrec', htok', -⟩ := hcases c₂ h₂
    rw [hrec, hrec']
    exact h.distinct c hc c' hc' (by rw [← htok, ht, htok']) (htok ▸ h0)

/-- The connection is stopped next when the answer of its interface is that it is disabled. -/
lemma connection_disable_served : Triple (Served none token c.record) (rilDataConnectionDisable c)
    fun _ s => Served (some c.record) token c.record s := by
  refine .read fun s hs => ?_
  have hstay {b : Bool} {P : RilData → Prop} (hP : ∀ t, P t → t = s) :
      Triple P (pure b : RilM Bool) fun _ t => Served (some c.record) token c.record t := by
    intro t ht
    rw [hP t ht]
    exact served_weaken hs _
  split
  · exact hstay fun _ h => h
  · refine .ite (fun _ => hstay fun _ h => h) fun _ => .ite (fun _ => hstay fun _ h => h) fun _ =>
      .ite (fun _ => hstay fun _ h => h) fun _ => .ite (fun _ => hstay fun _ h => h) fun _ => ?_
    rintro t rfl
    have hi : Inherits t (t.dataConnectionUpdate c.record fun c => { c with enabled := false }) :=
      update_inherits fun c => ⟨rfl, rfl, .inl rfl⟩
    exact ⟨touch_attended (hs.1.weaken _) fun c => ⟨rfl, rfl, rfl⟩, hs.2.inherits hi⟩

lemma call_status_disabled_attended (data : IpcGprsCallStatusData)
    (hrequest : ∀ r, request = some r → r.token = c.token) :
    Triple (Served none c.token c.record) (callStatusDisabled data c request) fun _ => Attended none := by
  have herror : Triple (Served (some c.record) c.token c.record) (callStatusError c request) fun _ => Attended none :=
    call_status_error_attended hrequest
  refine .ite (fun _ => .bind connection_disable_served fun disabled => .ite (fun _ => ?_) fun _ => herror)
    fun _ => .ite (fun h => ?_) fun _ => call_status_end_attended.weaken fun s hs => hs.1
  · refine .bind (Q := fun _ s => Attended none s ∧ Unwanted c.token s) (fun s hs => stop_unwanted hs) fun _ =>
      .ite (fun h => ?_) fun _ => call_status_end_attended.weaken fun s hs => hs.1
    obtain ⟨r, rfl⟩ := isRequest_some h
    refine .bind (Q := fun _ => Attended none) ?_ fun _ => call_status_end_attended
    intro s hs
    rw [← hrequest r rfl] at hs
    exact unwanted_complete hs _ _
  · obtain ⟨r, rfl⟩ := isRequest_some h
    rintro s ⟨ha, hc⟩
    rw [← hrequest r rfl] at hc
    refine (Attended.complete (ha.weaken (some c.record)) _ _ fun h0 c' hc' _ hbut ht => ?_).stop
    exact hbut (congrArg some (hc h0 c' hc' ht))

variable (message)

lemma gprs_ps_attended : Triple (Attended none) (ipcGprsPs message) fun _ => Attended none := by
  rw [ipcGprsPs.eq_def]
  split
  · exact .pure fun _ h => h
  · refine .read fun s hs => ?_
    split
    · exact .pure fun t ht => ht ▸ hs
    · rintro t rfl
      exact update_attended hs fun c => ⟨rfl, rfl, rfl, .inl rfl⟩

/-- The request of the aseq may be completed: no connection waits for it. -/
def MayReply (message : IpcMessage) (s : RilData) : Prop :=
  ∀ q ∈ s.fmtRequests, q.seq = message.aseq → ¬ AwaitedBy q.token s

lemma complete_reply_attended (error : RilErrno) (response : RilResponse) :
    Triple (fun s => Attended none s ∧ MayReply message s) (completeReply message error response)
      fun _ => Attended none := by
  rintro s ⟨hs, hm⟩
  refine hs.complete error response fun h0 c hc he _ ht => ?_
  rw [RilData.ipcFmtRequestToken] at h0 ht
  split at h0
  · exact h0 rfl
  · rename_i q hq
    simp only [hq] at ht
    have hseq : q.seq = message.aseq := by simpa using List.find?_some hq
    exact hm q (List.mem_of_find?_eq_some hq) hseq ⟨c, hc, he, ht⟩

/-- The state in which a message arrives -/
def Received (message : IpcMessage) (s : RilData) : Prop :=
  Attended none s ∧ (repliesOnly message s = true → MayReply message s)

lemma gprs_call_status_attended (hcommand : message.command = .gprsCallStatus) :
    Triple (Received message) (ipcGprsCallStatus message) fun _ => Attended none := by
  rw [ipcGprsCallStatus.eq_def]
  cases hd : IpcGprsCallStatusData.read message.data with
  | none => exact .pure fun _ h => h.1
  | some data =>
    refine .read fun s hs => .ite (fun _ => ?_) fun _ => .pure fun t ht => ht ▸ hs.1
    cases hc : s.dataConnectionFindCid data.cid.toNat with
    | none =>
      refine .ite (fun hvalid => ?_) fun _ => .pure fun t ht => ht ▸ hs.1
      have hreplies : repliesOnly message s = true := by simp [repliesOnly, hcommand, hd, hc, hvalid]
      exact .bind ((complete_reply_attended message _ _).weaken fun t ht => ht ▸ ⟨hs.1, hs.2 hreplies⟩) fun _ =>
        .pure fun _ h => h
    | some c =>
      have hmem : c ∈ s.dataConnections := List.mem_of_find?_eq_some hc
      have hserved : ∀ t, t = s → Served none c.token c.record t := by
        rintro t rfl
        exact ⟨hs.1, hs.1.carriedBy hmem⟩
      have hrequest : ∀ r, s.requestFindToken c.token = some r → r.token = c.token :=
        fun r hr => RilData.requestFindToken_token hr
      exact .ite
        (fun _ => .bind ((call_status_enabled_attended data hrequest).weaken hserved) fun _ => .pure fun _ h => h)
        fun _ => .ite
          (fun _ => .bind ((call_status_disabled_attended data hrequest).weaken hserved) fun _ => .pure fun _ h => h)
          fun _ => .bind (call_status_end_attended.weaken fun t ht => ht ▸ hs.1) fun _ => .pure fun _ h => h

lemma attended_strdup (value : CString) : Triple (Attended but) (strdup value) fun _ => Attended but :=
  fun _ hs => hs.sublist (.refl _) (Nat.le_succ _) rfl

lemma attended_free (string : Option HeapString) : Triple (Attended but) (free string) fun _ => Attended but := by
  intro s hs
  simp only [free, modify_apply, RilData.freeString_eq]
  exact hs.sublist (.refl _) (Nat.le_of_eq (Heap.freeAll_next _ _).symm) rfl

lemma attended_print (old : Option HeapString) (value : CString) :
    Triple (Attended but) (printTo old value) fun _ => Attended but :=
  .bind (attended_free old) fun _ => attended_strdup value

lemma gprs_ip_configuration_attended (hcommand : message.command = .gprsIpConfiguration) :
    Triple (Received message) (ipcGprsIpConfiguration message) fun _ => Attended none := by
  rw [ipcGprsIpConfiguration.eq_def]
  cases hd : IpcGprsIpConfigurationData.read message.data with
  | none => exact .pure fun _ h => h.1
  | some data =>
    refine .read fun s hs => ?_
    cases hc : s.dataConnectionFindCid data.cid.toNat with
    | none =>
      refine .ite (fun hvalid => ?_) fun _ => .pure fun t ht => ht ▸ hs.1
      have hreplies : repliesOnly message s = true := by simp [repliesOnly, hcommand, hd, hc, hvalid]
      exact .bind ((complete_reply_attended message _ _).weaken fun t ht => ht ▸ ⟨hs.1, hs.2 hreplies⟩) fun _ =>
        .pure fun _ h => h
    | some c =>
      refine Triple.weaken (P := Attended none) ?_ fun t (ht : t = s) => ht ▸ hs.1
      refine .bind (attended_print _ _) fun _ => .bind (attended_print _ _) fun _ => .bind (attended_print _ _) fun _ =>
        .bind (attended_print _ _) fun _ => .bind (attended_print _ _) fun _ =>
          .bind (Q := fun _ => Attended none) (.modify fun t ht => ?_) fun _ => .pure fun _ h => h
      exact update_attended ht fun c => ⟨rfl, rfl, rfl, .inl rfl⟩

/-- The request of the aseq is that of the connection. -/
def AnswersFor (message : IpcMessage) (c : RilDataConnection) (s : RilData) : Prop :=
  Served none c.token c.record s ∧ s.ipcFmtRequestToken message.aseq = c.token

lemma complete_stopped_attended : Triple (AnswersFor message c) (completeStopped message c) fun _ => Attended none := by
  rintro s ⟨hs, ht⟩
  have hstopped := stop_unwanted (served_weaken hs (some c.record))
  have htoken : (s.dataConnectionStop c.record).ipcFmtRequestToken message.aseq = c.token := by
    rw [RilData.eq_of_withoutConnections (withoutConnections_stop c.record s)]
    exact ht
  have hdone := unwanted_complete hstopped .genericFailure .null
  rw [← htoken] at hdone
  exact hdone

lemma reply_none_attended {s : RilData} (hs : Attended none s)
    (hf : s.dataConnectionFindToken (s.ipcFmtRequestToken message.aseq) = none) (error : RilErrno)
    (response : RilResponse) : Attended none (completeReply message error response s).2 := by
  refine hs.complete error response fun _ c hc _ _ ht => ?_
  exact List.find?_eq_none.mp hf c hc (by simpa using ht)

lemma answers_for {s : RilData} (hs : Attended none s)
    (hf : s.dataConnectionFindToken (s.ipcFmtRequestToken message.aseq) = some c) : AnswersFor message c s := by
  have ht : c.token = s.ipcFmtRequestToken message.aseq := by simpa using List.find?_some hf
  exact ⟨⟨hs, hs.carriedBy (List.mem_of_find?_eq_some hf)⟩, ht.symm⟩

lemma transmit_answers (expect : Option ExpectKind) (command : IpcCommand) (type : IpcRequestType) (data : Bytes) :
    Triple (AnswersFor message c) (transmit (.reply message.aseq) expect command type data)
      fun _ => AnswersFor message c := by
  rintro s ⟨⟨hs, hc⟩, ht⟩
  have hattended := attended_transmit (.reply message.aseq) expect command type data s hs
  refine ⟨⟨hattended, hc.inherits (Tracks.transmit _ _ _ _ _ s)⟩, ?_⟩
  have hfmt : (transmit (.reply message.aseq) expect command type data s).2.fmtRequests = s.fmtRequests :=
    s.expectSend_fmtRequests expect message.aseq command type data
  rw [RilData.ipcFmtRequestToken, RilData.fmtRequestFindSeq, hfmt]
  exact ht

lemma define_pdp_context_callback_attended :
    Triple (Attended none) (ipcGprsDefinePdpContextCallback message) fun _ => Attended none := by
  rw [ipcGprsDefinePdpContextCallback.eq_def]
  split
  · exact .pure fun _ h => h
  · refine .read fun s hs => ?_
    split
    · rename_i hf
      rintro t rfl
      exact reply_none_attended message hs hf _ _
    · rename_i c hf
      refine Triple.weaken (P := AnswersFor message c) ?_ fun t (ht : t = s) => ht ▸ answers_for message hs hf
      have hstop := complete_stopped_attended (c := c) message
      refine .ite (fun _ => .bind (transmit_answers message _ _ _ _) fun _ => .ite
        (fun _ => .bind hstop fun _ => .pure fun _ h => h) fun _ => .pure fun _ h => h.1.1)
        fun _ => .bind hstop fun _ => .pure fun _ h => h

lemma pdp_context_callback_attended :
    Triple (Attended none) (ipcGprsPdpContextCallback message) fun _ => Attended none := by
  rw [ipcGprsPdpContextCallback.eq_def]
  split
  · exact .pure fun _ h => h
  · refine .read fun s hs => ?_
    split
    · rename_i hf
      rintro t rfl
      exact reply_none_attended message hs hf _ _
    · rename_i c hf
      refine Triple.weaken (P := AnswersFor message c) ?_ fun t (ht : t = s) => ht ▸ answers_for message hs hf
      exact .ite (fun _ => .bind (complete_stopped_attended message) fun _ => .pure fun _ h => h)
        fun _ => .pure fun _ h => h.1.1

end

/-! ### The other messages -/

section

variable {s t : RilData} {op : Op} {message : IpcMessage}

lemma flush_from_sublist (cs : List RilDataConnection) (s : RilData) :
    (RilData.dataConnectionFlushFrom cs s).dataConnections.Sublist s.dataConnections := by
  induction cs generalizing s with
  | nil => exact .refl _
  | cons c rest ih =>
    have hstop := stop_sublist s c.record
    simp only [RilData.dataConnectionFlushFrom]
    split
    · exact ((ih _).trans List.filter_sublist).trans hstop
    · simpa only [dataConnections_heapFree, dataConnections_heapUse] using hstop

lemma flush_tail (s : RilData) : s.dataConnectionFlush.dataConnections.Sublist s.dataConnections.tail := by
  rw [RilData.dataConnectionFlush]
  cases hs : s.dataConnections with
  | nil =>
    rw [RilData.dataConnectionFlushFrom, hs]
    exact .refl _
  | cons c rest =>
    have hf : s.dataConnectionFind c.record = some c := by simp [RilData.dataConnectionFind, hs]
    have hstop : (s.dataConnectionStop c.record).dataConnections = rest := by
      rw [RilData.stop_eq hf]
      simp [hs]
    simp only [RilData.dataConnectionFlushFrom, List.tail_cons]
    split
    · have hfilter : ((s.dataConnectionStop c.record).dataConnections.filter (·.node != c.node)).Sublist rest :=
        hstop ▸ List.filter_sublist
      exact (flush_from_sublist _ _).trans hfilter
    · simp only [dataConnections_heapFree, dataConnections_heapUse, hstop]
      exact .refl _

lemma radio_attended (h : Attended none s) {radioState : RilRadioState} (hu : radioState = .unavailable → FirstStopped s) :
    Attended none (s.radioStateUpdate radioState) := by
  have hi := radio_inherits s radioState
  rcases radio_cases s radioState with ⟨he, -⟩ | ⟨hne, t, ht, -, ⟨ho, he⟩ | ⟨-, hua, he⟩⟩
  · rw [he]
    exact h
  · have hconns : t.dataConnections = s.dataConnections := congrArg Prod.fst ht
    have htail : (s.radioStateUpdate radioState).dataConnections.Sublist s.dataConnections.tail := by
      rw [he, ← hconns]
      exact flush_tail t
    have hsub := htail.trans s.dataConnections.tail_sublist
    by_cases hun : radioState = .unavailable
    · subst hun
      have hcleared := (radio_goes_away hne).requests
      have hall : ∀ c ∈ (s.radioStateUpdate .unavailable).dataConnections, c.enabled = true := by
        rcases hu rfl with hs | hs
        · exact absurd hs hne
        · exact fun c hc => hs c (htail.subset hc)
      refine ⟨h.records.sublist hi.records, fun c hc => ?_, ?_, ?_, fun c hc hen => ?_, fun c hc _ r hr => ?_, ?_⟩
      · exact Nat.lt_of_lt_of_le (h.below c (hsub.subset hc)) hi.next
      · simp [RilData.tokens, hcleared]
      · simp [RilData.tokens, hcleared]
      · simp [hall c hc] at hen
      · simp [hcleared] at hr
      · exact fun c hc c' hc' => h.distinct c (hsub.subset hc) c' (hsub.subset hc')
    · exact h.sublist hsub hi.next (RilData.radioStateUpdate_lists hun s).1
  · rw [he]
    refine h.congr ht ?_
    rw [← he]
    exact (RilData.radioStateUpdate_lists hua s).1

lemma MayReply.mono (h : MayReply message s) (hf : ∀ q ∈ t.fmtRequests, q ∈ s.fmtRequests)
    (hc : t.dataConnections.Sublist s.dataConnections) : MayReply message t := by
  rintro q hq hseq ⟨c, hmem, he, ht⟩
  exact h q (hf q hq) hseq ⟨c, hc.subset hmem, he, ht⟩

lemma radio_sublist (s : RilData) (radioState : RilRadioState) :
    (s.radioStateUpdate radioState).dataConnections.Sublist s.dataConnections := by
  rcases radio_cases s radioState with ⟨he, -⟩ | ⟨-, t, ht, -, ⟨-, he⟩ | ⟨-, -, he⟩⟩
  · rw [he]
  · have hconns : t.dataConnections = s.dataConnections := congrArg Prod.fst ht
    rw [he, ← hconns]
    exact flush_from_sublist _ t
  · have hconns : t.dataConnections = s.dataConnections := congrArg Prod.fst ht
    rw [he, hconns]

lemma unregister_fmtRequests (token : RilToken) : ∀ q ∈ (s.requestUnregister token).fmtRequests, q ∈ s.fmtRequests := by
  rw [RilData.requestUnregister]
  split
  · exact fun q hq => hq
  · rename_i r _
    intro q hq
    cases hd : s.fmt.data with
    | none => simp [RilData.fmtRequests, RilData.ipcFmtRequestUnregister, RilData.modifyFmt, hd] at hq
    | some d =>
      simp only [RilData.fmtRequests, RilData.ipcFmtRequestUnregister, RilData.modifyFmt, hd, Option.map_some] at hq ⊢
      exact List.mem_of_mem_eraseP hq

lemma complete_fmtRequests (token : RilToken) (error : RilErrno) (response : RilResponse) :
    ∀ q ∈ (s.requestComplete token error response).fmtRequests, q ∈ s.fmtRequests := by
  rw [RilData.requestComplete]
  split
  · exact fun q hq => hq
  · exact unregister_fmtRequests token

/-- A message that is not about connections -/
structure Elsewhere (F : Footprint) : Prop where
  connections : F.connections = false
  handled : ∀ q ∈ F.handled, q.footprint.connections = false
  tokens : F.tokens = []

def Handling (message : IpcMessage) (F : Footprint) (s : RilData) : Prop :=
  Attended none s ∧ (F.replies = true → MayReply message s)

lemma message_op_attended {F : Footprint} (hF : Elsewhere F) (h : Handling message F s) (hop : MessageOp F message s op) :
    Handling message F (op.exec s) := by
  obtain ⟨ha, hm⟩ := h
  have hview (hc : op.connects = false) : (op.exec s).connView = s.connView := op_connView hc s
  rcases hop.cases with ⟨token, error, response, rfl, hc⟩ | rfl | ⟨radioState, rfl, hu, -⟩ | hs
  · have hconns : (s.requestComplete token error response).dataConnections = s.dataConnections :=
      congrArg Prod.fst (hview rfl)
    refine ⟨?_, fun hr => (hm hr).mono (complete_fmtRequests token error response) (hconns ▸ .refl _)⟩
    rcases hc with ⟨hr, rfl⟩ | ⟨r, hr, rfl, ⟨-, hcode⟩ | htoken⟩
    · exact complete_reply_attended message error response s ⟨ha, hm hr⟩
    · refine ha.complete error response fun _ c hc he _ ht => ?_
      obtain ⟨r', hr', ht', hf, -⟩ := ha.carried c hc he nofun
      obtain rfl := List.inj_on_of_nodup_map ha.tokens hr' hr (ht'.trans ht)
      rw [hF.handled _ hcode] at hf
      cases hf
    · rw [hF.tokens] at htoken
      exact absurd htoken List.not_mem_nil
  · have hfmt : (s.expectUnregister message.aseq).fmtRequests = s.fmtRequests :=
      RilData.modifyFmt_fmtRequests s fun _ => rfl
    exact ⟨ha.congr (hview rfl) rfl, fun hr => (hm hr).mono (fun q hq => hfmt ▸ hq) (.refl _)⟩
  · have hlists := RilData.radioStateUpdate_lists hu s
    refine ⟨radio_attended ha fun he => absurd he hu, fun hr => (hm hr).mono ?_ (radio_sublist s radioState)⟩
    intro q hq
    have hfmt : (s.radioStateUpdate radioState).fmtRequests = s.fmtRequests := by
      rw [RilData.fmtRequests, hlists.2]
      rfl
    exact hfmt ▸ hq
  · have hsilent : op.connects = false := by
      rcases hs.cases with ⟨q, expect, command, type, data, rfl, -⟩ | ⟨token, rfl⟩ | hq
      · rfl
      · rfl
      · cases op with
        | connections cs heap =>
          have hc : F.connections = true := hq
          rw [hF.connections] at hc
          cases hc
        | radio radioState => exact hq.elim
        | _ => rfl
    have hconns : (op.exec s).dataConnections = s.dataConnections := congrArg Prod.fst (hview hsilent)
    exact ⟨ha.congr (hview hsilent) (hs.requests s), fun hr =>
      (hm hr).mono (fun q hq => hs.fmtRequests s ▸ hq) (hconns ▸ .refl _)⟩

/-- The callbacks for the two messages about contexts -/
def GenPhoneResCallback.forConnections : GenPhoneResCallback → Bool
  | ipcGprsDefinePdpContext | ipcGprsPdpContext => true
  | _ => false

lemma callback_elsewhere {callback : GenPhoneResCallback} (h : callback.forConnections = false) :
    Elsewhere callback.footprint := by
  cases callback with
  | ipcGprsDefinePdpContext | ipcGprsPdpContext => cases h
  | _ => exact ⟨rfl, by simp [GenPhoneResCallback.footprint], rfl⟩

/-- A message is for connections, or it is one of those that only reply. -/
inductive MessageKind (message : IpcMessage) (s : RilData) : Prop
  | ps (command : message.command = .gprsPs)
  | configuration (command : message.command = .gprsIpConfiguration)
  | status (command : message.command = .gprsCallStatus)
  | answer (command : message.command = .genPhoneRes) (expect : IpcGenPhoneResExpect) (callback : GenPhoneResCallback)
      (found : s.expectFindAseq message.aseq = some expect) (called : expect.callback = some callback)
      (connections : callback.forConnections = true)
  | other (elsewhere : Elsewhere (messageFootprint message s))
      (replies : repliesOnly message s = (messageFootprint message s).replies)

lemma message_kind (message : IpcMessage) (s : RilData) : MessageKind message s := by
  obtain ⟨aseq, command, type, data⟩ := message
  cases command with
  | gprsPs => exact .ps rfl
  | gprsIpConfiguration => exact .configuration rfl
  | gprsCallStatus => exact .status rfl
  | genPhoneRes =>
    cases he : s.expectFindAseq aseq with
    | none =>
      refine .other ?_ ?_
      · simp only [messageFootprint, genPhoneResFootprint, he]
        exact ⟨rfl, by simp, rfl⟩
      · simp [repliesOnly, messageFootprint, genPhoneResFootprint, he]
    | some expect =>
      obtain ⟨_, _, callback, _, _⟩ := expect
      cases callback with
      | none =>
        refine .other ?_ ?_
        · simp only [messageFootprint, genPhoneResFootprint, he]
          exact ⟨rfl, by simp, rfl⟩
        · simp [repliesOnly, messageFootprint, genPhoneResFootprint, he]
      | some callback =>
        cases hc : callback.forConnections with
        | true => exact .answer rfl _ callback he rfl hc
        | false =>
          refine .other ?_ ?_
          · simp only [messageFootprint, genPhoneResFootprint, he]
            exact callback_elsewhere hc
          · cases callback with
            | ipcGprsDefinePdpContext | ipcGprsPdpContext => cases hc
            | _ => simp [repliesOnly, messageFootprint, genPhoneResFootprint, he]
  | _ => exact .other ⟨rfl, by simp [messageFootprint, RilRequestCode.footprint], rfl⟩ rfl

lemma callback_attended {callback : GenPhoneResCallback} (h : callback.forConnections = true) (message : IpcMessage) :
    Triple (Attended none) (callback.run message) fun _ => Attended none := by
  cases callback with
  | ipcGprsDefinePdpContext => exact define_pdp_context_callback_attended message
  | ipcGprsPdpContext => exact pdp_context_callback_attended message
  | _ => cases h

lemma gen_phone_res_attended (hs : Attended none s) {expect : IpcGenPhoneResExpect} {callback : GenPhoneResCallback}
    (he : s.expectFindAseq message.aseq = some expect) (hcallback : expect.callback = some callback)
    (hc : callback.forConnections = true) : Attended none (ipcGenPhoneRes message s).2 := by
  rw [ipcGenPhoneRes.eq_def]
  cases hd : IpcGenPhoneResData.read message.data with
  | none => exact hs
  | some data =>
    have hexpected : Triple (Attended none) (genPhoneResExpected message data expect) fun _ => Attended none := by
      rw [genPhoneResExpected.eq_def, hcallback]
      exact .ite (fun _ => .pure fun _ h => h) fun _ => callback_attended hc message
    simp only [get_bind_apply, he]
    exact (hexpected s hs).congr rfl rfl

/-! ### The steps -/

lemma message_attended (h : Received message s) (env : Env) : Attended none (dispatchMessage env message s).2 := by
  have hstart : Received message (s.started env (.received message)) := ⟨h.1.congr rfl rfl, h.2⟩
  have hrun (handler : IpcMessage → RilM Rc) (hh : ipcFmtHandler message.command = some handler) :
      (dispatchMessage env message s).2 = (handler message (s.started env (.received message))).2 := by
    have hs : ({ s with env := env } : RilData).log (.received message) = s.started env (.received message) := rfl
    rw [dispatchMessage, hs, ipcFmtDispatch, hh]
  cases message_kind message s with
  | ps hcommand =>
    rw [hrun ipcGprsPs (by rw [hcommand]; rfl)]
    exact gprs_ps_attended message _ hstart.1
  | configuration hcommand =>
    rw [hrun ipcGprsIpConfiguration (by rw [hcommand]; rfl)]
    exact gprs_ip_configuration_attended message hcommand _ hstart
  | status hcommand =>
    rw [hrun ipcGprsCallStatus (by rw [hcommand]; rfl)]
    exact gprs_call_status_attended message hcommand _ hstart
  | answer hcommand expect callback found called connections =>
    rw [hrun ipcGenPhoneRes (by rw [hcommand]; rfl)]
    exact gen_phone_res_attended hstart.1 found called connections
  | other elsewhere replies =>
    have hinit : Handling message (messageFootprint message s) (s.started env (.received message)) :=
      ⟨hstart.1, replies ▸ h.2⟩
    have hend := (message_path env message s).invariant hinit fun t op ht hop => message_op_attended elsewhere ht hop
    exact hend.1

end

end Ril.Samsung
