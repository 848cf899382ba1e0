import Ril.Samsung.Spec.Steps

/-! The two lists of requests and what the trace says of them. -/

namespace Ril.Samsung

open Ril.Ipc Ril.Lib Relation

/-- The events that neither register nor remove a request. -/
def Event.neutral : Event → Bool
  | arrived _ _ _ | cancelled _ | completed _ _ _ => false
  | _ => true

namespace RilData

def tokens (s : RilData) : List RilToken := s.requests.map (·.token)

def entries (s : RilData) : List (RilRequestCode × RilValue × RilToken) :=
  s.requests.map fun r => (r.request, r.data, r.token)

def fmtEntries (s : RilData) : Option (List (RilRequestCode × RilToken)) :=
  s.fmt.data.map fun d => d.requests.map fun r => (r.request, r.token)

lemma tokens_eq (s : RilData) : s.tokens = s.entries.map (·.2.2) := by
  simp [tokens, entries, Function.comp_def]

lemma modifyFmt_fmtEntries (s : RilData) {f : IpcFmtData → IpcFmtData}
    (hf : ∀ d, (f d).requests.map (fun r => (r.request, r.token)) = d.requests.map fun r => (r.request, r.token)) :
    (s.modifyFmt f).fmtEntries = s.fmtEntries := by
  simp [fmtEntries, modifyFmt, Function.comp_def, hf]

end RilData

/-- The same requests are registered, and nothing was registered or removed in between. -/
structure KeepsRequests (s t : RilData) : Prop where
  entries : t.entries = s.entries
  fmtEntries : t.fmtEntries = s.fmtEntries
  trace : ∃ new, t.trace = new ++ s.trace ∧ ∀ e ∈ new, e.neutral = true

namespace KeepsRequests

variable {s t u : RilData}

lemma refl (s : RilData) : KeepsRequests s s := ⟨rfl, rfl, [], rfl, fun _ h => absurd h List.not_mem_nil⟩

lemma trans (h : KeepsRequests s t) (h' : KeepsRequests t u) : KeepsRequests s u := by
  obtain ⟨new, ht, hn⟩ := h.trace
  obtain ⟨new', hu, hn'⟩ := h'.trace
  refine ⟨h'.entries.trans h.entries, h'.fmtEntries.trans h.fmtEntries, new' ++ new, ?_, ?_⟩
  · rw [hu, ht, List.append_assoc]
  · intro e he
    rcases List.mem_append.mp he with he | he
    · exact hn' e he
    · exact hn e he

lemma of_eq (hr : t.requests = s.requests) (hf : t.fmt.data = s.fmt.data) (ht : t.trace = s.trace) :
    KeepsRequests s t := by
  refine ⟨?_, ?_, [], ht, fun _ h => absurd h List.not_mem_nil⟩
  · rw [RilData.entries, RilData.entries, hr]
  · rw [RilData.fmtEntries, RilData.fmtEntries, hf]

lemma log {e : Event} (he : e.neutral = true) (s : RilData) : KeepsRequests s (s.log e) := by
  refine ⟨rfl, rfl, [e], rfl, ?_⟩
  intro e' h
  rwa [List.mem_singleton.mp h]

lemma then_log (h : KeepsRequests s t) {e : Event} (he : e.neutral = true) : KeepsRequests s (t.log e) :=
  h.trans (.log he t)

lemma modifyFmt {f : IpcFmtData → IpcFmtData} (s : RilData)
    (hf : ∀ d, (f d).requests.map (fun r => (r.request, r.token)) = d.requests.map fun r => (r.request, r.token)) :
    KeepsRequests s (s.modifyFmt f) :=
  ⟨rfl, RilData.modifyFmt_fmtEntries s hf, [], rfl, fun _ h => absurd h List.not_mem_nil⟩

lemma expectSend (s : RilData) (expect : Option ExpectKind) (mseq : UInt8) (command : IpcCommand)
    (type : IpcRequestType) (data : Bytes) :
    KeepsRequests s (expectSend expect mseq command type data s).2 := by
  rw [RilData.expectSend_apply]
  split
  · exact .refl s
  · cases expect with
    | none => exact .log rfl s
    | some kind => exact .then_log (.modifyFmt s fun _ => by rfl) (by rfl)

lemma ipcFmtSeq (s : RilData) (owner : Option RilToken) : KeepsRequests s (s.ipcFmtSeq owner).2 := by
  rw [RilData.ipcFmtSeq]
  split
  · exact .refl s
  · exact .then_log (.modifyFmt s fun _ => by rfl) (by rfl)

lemma fmtRequestSetSeq (s : RilData) (token : RilToken) (seq : UInt8) :
    KeepsRequests s (s.fmtRequestSetSeq token seq) := by
  refine .modifyFmt s fun d => ?_
  rw [List.map_map]
  refine List.map_congr_left fun r _ => ?_
  simp only [Function.comp_apply]
  split
  · rfl
  · rfl

lemma ipcFmtRequestSeq (s : RilData) (token : RilToken) : KeepsRequests s (s.ipcFmtRequestSeq token).2 := by
  rw [RilData.ipcFmtRequestSeq]
  split
  · exact .refl s
  · split
    · exact (KeepsRequests.ipcFmtSeq s _).trans (.fmtRequestSetSeq _ _ _)
    · exact .refl s

lemma transmit (s : RilData) (sender : Sender) (expect : Option ExpectKind) (command : IpcCommand)
    (type : IpcRequestType) (data : Bytes) :
    KeepsRequests s (transmit sender expect command type data s).2 := by
  cases sender with
  | request token => exact (KeepsRequests.ipcFmtRequestSeq s token).trans (.expectSend _ _ _ _ _ _)
  | reply aseq => exact .expectSend _ _ _ _ _ _
  | own => exact (KeepsRequests.ipcFmtSeq s none).trans (.expectSend _ _ _ _ _ _)

lemma setStatus (s : RilData) (token : RilToken) (status : RilRequestStatus) :
    KeepsRequests s (s.requestSetStatus token status) := by
  refine ⟨?_, rfl, [], rfl, fun _ h => absurd h List.not_mem_nil⟩
  rw [RilData.entries, RilData.requestSetStatus, List.map_map]
  refine List.map_congr_left fun r _ => ?_
  simp only [Function.comp_apply]
  split
  · rfl
  · rfl

lemma retryUnhandled (s : RilData) : KeepsRequests s s.retryUnhandled := by
  refine ⟨?_, rfl, [], rfl, fun _ h => absurd h List.not_mem_nil⟩
  rw [RilData.entries, RilData.retryUnhandled, List.map_map]
  refine List.map_congr_left fun r _ => ?_
  simp only [Function.comp_apply]
  split
  · rfl
  · rfl

lemma withoutConnections (h : t.withoutConnections = s.withoutConnections) : KeepsRequests s t := by
  rw [RilData.eq_of_withoutConnections h]
  exact .of_eq rfl rfl rfl

end KeepsRequests

variable {s : RilData} {op : Op}

lemma QuietOp.keeps {F : Footprint} (h : QuietOp F op) (s : RilData) : KeepsRequests s (op.exec s) := by
  cases op with
  | unsolicited request response => exact .log rfl s
  | pinCache pin => exact .then_log (.of_eq (by rfl) (by rfl) (by rfl)) (by rfl)
  | dataSet request value =>
    simp only [Op.exec, RilData.requestDataSet]
    split
    · exact .refl s
    · exact .of_eq rfl rfl rfl
  | simIccType | hsdpaStatus | svcSession => exact .modifyFmt s fun _ => rfl
  | dataFree | dataDrop | connections => exact .of_eq rfl rfl rfl
  | _ => exact h.elim

lemma RequestOp.keeps {F : Footprint} {token : RilToken} {sent : Bool} (h : RequestOp F token sent s op) :
    KeepsRequests s (op.exec s) := by
  rcases h.cases with rfl | ⟨expect, command, type, data, rfl, -⟩ | h
  · exact .ipcFmtRequestSeq s token
  · exact .transmit s _ _ _ _ _
  · exact h.keeps s

lemma SilentOp.keeps {F : Footprint} {aseq : UInt8} (h : SilentOp F aseq op) (s : RilData) :
    KeepsRequests s (op.exec s) := by
  rcases h.cases with ⟨q, expect, command, type, data, rfl, -⟩ | ⟨token, rfl⟩ | h
  · exact .expectSend s _ _ _ _ _
  · exact .log rfl s
  · exact h.keeps s

/-! ### The connections go with the radio -/

@[simp] lemma withoutConnections_set (s : RilData) (cs : List RilDataConnection) :
    ({ s with dataConnections := cs } : RilData).withoutConnections = s.withoutConnections := rfl

lemma flush_from_withoutConnections (cs : List RilDataConnection) (s : RilData) :
    (RilData.dataConnectionFlushFrom cs s).withoutConnections = s.withoutConnections := by
  induction cs generalizing s with
  | nil => rfl
  | cons c rest ih =>
    simp only [RilData.dataConnectionFlushFrom]
    split
    · rw [ih]
      simp
    · simp

lemma radio_off_keeps (s : RilData) : KeepsRequests s s.radioOff :=
  .then_log (.then_log (.then_log (.then_log
    (.withoutConnections (flush_from_withoutConnections _ s)) (by rfl)) (by rfl)) (by rfl)) (by rfl)

lemma radio_keeps {radioState : RilRadioState} (h : radioState ≠ .unavailable) (s : RilData) :
    KeepsRequests s (s.radioStateUpdate radioState) := by
  have hstate : KeepsRequests s
      (({ s with radioState := radioState }).requestUnsolicited .radioStateChanged .null) :=
    .then_log (.of_eq (by rfl) (by rfl) (by rfl)) (by rfl)
  rw [RilData.radioStateUpdate]
  split
  · exact .refl s
  · split
    · exact absurd rfl h
    · exact hstate.trans (radio_off_keeps _)
    · exact hstate.trans (.of_eq rfl rfl rfl)

/-! ### Registration and removal -/

/-- A request is registered under a token that was never seen before. -/
structure Arrives (s t : RilData) (request : RilRequestCode) (data : RilValue) (token : RilToken) : Prop where
  ne_zero : token ≠ 0
  fresh : ∀ request data, Event.arrived token request data ∉ s.trace
  entries : t.entries = s.entries ++ [(request, data, token)]
  fmtEntries : t.fmtEntries = s.fmtEntries.map (· ++ [(request, token)])
  trace : t.trace = .arrived token request data :: s.trace

/-- A registered request is removed, because it is cancelled or completed. -/
structure Removes (s t : RilData) (token : RilToken) (e : Event) : Prop where
  entries : t.entries = s.entries.eraseP (·.2.2 == token)
  fmtEntries : ∃ request data, (request, data, token) ∈ s.entries ∧
    t.fmtEntries = s.fmtEntries.map (·.eraseP fun e => e.1 == request && e.2 == token)
  trace : t.trace = e :: s.trace
  event : e = .cancelled token ∨ ∃ error response, e = .completed token error response

structure Synced (s : RilData) : Prop where
  nodup : s.tokens.Nodup
  ne_zero : 0 ∉ s.tokens
  arrived : ∀ e ∈ s.entries, Event.arrived e.2.2 e.1 e.2.1 ∈ s.trace
  unique : ∀ token request data request' data', Event.arrived token request data ∈ s.trace →
    Event.arrived token request' data' ∈ s.trace → request = request' ∧ data = data'
  fmt : ∀ es, s.fmtEntries = some es → es = s.entries.map fun e => (e.1, e.2.2)

namespace Synced

lemma init : Synced {} where
  nodup := List.nodup_nil
  ne_zero := List.not_mem_nil
  arrived := fun _ h => absurd h List.not_mem_nil
  unique := fun _ _ _ _ _ h => absurd h List.not_mem_nil
  fmt := by
    intro es h
    simpa [RilData.fmtEntries, RilData.entries] using h.symm

variable {s t : RilData} (h : Synced s)

include h

lemma keeps (hk : KeepsRequests s t) : Synced t := by
  obtain ⟨new, ht, hn⟩ := hk.trace
  have hmem {token : RilToken} {request : RilRequestCode} {data : RilValue} :
      Event.arrived token request data ∈ t.trace ↔ Event.arrived token request data ∈ s.trace := by
    rw [ht, List.mem_append]
    exact or_iff_right fun he => Bool.false_ne_true (hn _ he)
  have htok : t.tokens = s.tokens := by
    rw [RilData.tokens_eq, RilData.tokens_eq, hk.entries]
  refine ⟨htok ▸ h.nodup, htok ▸ h.ne_zero, ?_, ?_, ?_⟩
  · intro e he
    rw [hk.entries] at he
    exact hmem.mpr (h.arrived e he)
  · intro token request data request' data' ha ha'
    exact h.unique token request data request' data' (hmem.mp ha) (hmem.mp ha')
  · intro es he
    rw [hk.fmtEntries] at he
    rw [hk.entries]
    exact h.fmt es he

lemma not_mem_of_fresh {token : RilToken}
    (hfresh : ∀ request data, Event.arrived token request data ∉ s.trace) : token ∉ s.tokens := by
  intro hm
  rw [RilData.tokens_eq, List.mem_map] at hm
  obtain ⟨e, he, rfl⟩ := hm
  exact hfresh _ _ (h.arrived e he)

lemma arrives {request : RilRequestCode} {data : RilValue} {token : RilToken}
    (ha : Arrives s t request data token) : Synced t := by
  have htok : t.tokens = s.tokens ++ [token] := by
    rw [RilData.tokens_eq, RilData.tokens_eq, ha.entries, List.map_append]
    rfl
  have hnot : token ∉ s.tokens := h.not_mem_of_fresh ha.fresh
  refine ⟨?_, ?_, ?_, ?_, ?_⟩
  · rw [htok]
    exact List.nodup_append.mpr ⟨h.nodup, List.nodup_singleton _, fun a ha b hb e => hnot (List.mem_singleton.mp hb ▸ e ▸ ha)⟩
  · rw [htok, List.mem_append, List.mem_singleton]
    exact fun hm => hm.elim h.ne_zero fun h0 => ha.ne_zero h0.symm
  · intro e he
    rw [ha.entries, List.mem_append, List.mem_singleton] at he
    rw [ha.trace]
    rcases he with he | rfl
    · exact List.mem_cons_of_mem _ (h.arrived e he)
    · exact List.mem_cons_self
  · intro k q v q' v' hk hk'
    rw [ha.trace, List.mem_cons] at hk hk'
    rcases hk with hk | hk
    · rcases hk' with hk' | hk'
      · cases hk
        cases hk'
        exact ⟨rfl, rfl⟩
      · cases hk
        exact absurd hk' (ha.fresh _ _)
    · rcases hk' with hk' | hk'
      · cases hk'
        exact absurd hk (ha.fresh _ _)
      · exact h.unique _ _ _ _ _ hk hk'
  · intro es he
    rw [ha.fmtEntries] at he
    obtain ⟨es', he', rfl⟩ := Option.map_eq_some_iff.mp he
    rw [ha.entries, List.map_append, h.fmt es' he']
    rfl

end Synced

/-- In a list of entries with different tokens, the token alone tells which entry to erase. -/
lemma map_eraseP_token {es : List (RilRequestCode × RilValue × RilToken)} (hn : (es.map (·.2.2)).Nodup)
    {request : RilRequestCode} {data : RilValue} {token : RilToken} (hm : (request, data, token) ∈ es) :
    (es.map fun e => (e.1, e.2.2)).eraseP (fun e => e.1 == request && e.2 == token) =
      (es.eraseP (·.2.2 == token)).map fun e => (e.1, e.2.2) := by
  induction es with
  | nil => exact absurd hm List.not_mem_nil
  | cons e es ih =>
    rw [List.map_cons, List.nodup_cons] at hn
    by_cases hk : e.2.2 = token
    · rcases List.mem_cons.mp hm with rfl | hm
      · simp
      · exact absurd (List.mem_map_of_mem hm) (hk ▸ hn.1)
    · rcases List.mem_cons.mp hm with rfl | hm
      · exact absurd rfl hk
      · simp [hk, ih hn.2 hm]

namespace Synced

variable {s t : RilData} {token : RilToken} {e : Event}

lemma tokens_removes (hr : Removes s t token e) : t.tokens = s.tokens.erase token := by
  rw [RilData.tokens_eq, RilData.tokens_eq, hr.entries, List.erase_eq_eraseP', List.eraseP_map]
  rfl

lemma mem_removes (hr : Removes s t token e) : token ∈ s.tokens := by
  obtain ⟨request, data, hentry, -⟩ := hr.fmtEntries
  rw [RilData.tokens_eq]
  exact List.mem_map.mpr ⟨_, hentry, rfl⟩

lemma removes (h : Synced s) (hr : Removes s t token e) : Synced t := by
  have hmem {k : RilToken} {request : RilRequestCode} {data : RilValue} :
      Event.arrived k request data ∈ t.trace ↔ Event.arrived k request data ∈ s.trace := by
    rw [hr.trace, List.mem_cons]
    refine or_iff_right fun he => ?_
    rcases hr.event with rfl | ⟨error, response, rfl⟩
    · cases he
    · cases he
  refine ⟨?_, ?_, ?_, ?_, ?_⟩
  · rw [tokens_removes hr]
    exact h.nodup.erase token
  · rw [tokens_removes hr]
    exact fun hm => h.ne_zero (List.mem_of_mem_erase hm)
  · intro e he
    rw [hr.entries] at he
    exact hmem.mpr (h.arrived e (List.mem_of_mem_eraseP he))
  · intro k request data request' data' ha ha'
    exact h.unique k request data request' data' (hmem.mp ha) (hmem.mp ha')
  · intro es he
    obtain ⟨request, data, hentry, hfmt⟩ := hr.fmtEntries
    rw [hfmt] at he
    obtain ⟨es', he', rfl⟩ := Option.map_eq_some_iff.mp he
    rw [h.fmt es' he', hr.entries]
    exact map_eraseP_token (RilData.tokens_eq s ▸ h.nodup) hentry

lemma fmt_tokens (h : Synced s) {d : IpcFmtData} (hd : s.fmt.data = some d) :
    s.fmtRequests.map (·.token) = s.tokens := by
  have he := h.fmt (d.requests.map fun r => (r.request, r.token)) (by simp [RilData.fmtEntries, hd])
  rw [RilData.fmtRequests_eq hd, RilData.tokens_eq]
  have hmap := congrArg (List.map Prod.snd) he
  simpa [Function.comp_def] using hmap

lemma fmt_token_inj (h : Synced s) {r r' : IpcFmtRequest} (hr : r ∈ s.fmtRequests) (hr' : r' ∈ s.fmtRequests)
    (hk : r.token = r'.token) : r = r' := by
  cases hd : s.fmt.data with
  | none => simp [RilData.fmtRequests, hd] at hr
  | some d =>
    have hn := h.nodup
    rw [← h.fmt_tokens hd] at hn
    exact List.inj_on_of_nodup_map hn hr hr' hk

lemma fmt_mem_tokens (h : Synced s) {r : IpcFmtRequest} (hr : r ∈ s.fmtRequests) : r.token ∈ s.tokens := by
  cases hd : s.fmt.data with
  | none => simp [RilData.fmtRequests, hd] at hr
  | some d =>
    rw [← h.fmt_tokens hd]
    exact List.mem_map_of_mem hr

lemma fmt_token_ne_zero (h : Synced s) {r : IpcFmtRequest} (hr : r ∈ s.fmtRequests) : r.token ≠ 0 := by
  intro h0
  exact h.ne_zero (h0 ▸ h.fmt_mem_tokens hr)

end Synced

/-- The data of the client is gone. -/
structure Destroys (s t : RilData) : Prop where
  entries : t.entries = s.entries
  fmtEntries : t.fmtEntries = none
  trace : t.trace = s.trace

/-- What can happen to the lists of requests. -/
inductive RegistryStep (s t : RilData) : Prop
  | keeps : KeepsRequests s t → RegistryStep s t
  | arrives (request : RilRequestCode) (data : RilValue) (token : RilToken) :
      Arrives s t request data token → RegistryStep s t
  | removes (token : RilToken) (e : Event) : Removes s t token e → RegistryStep s t
  | destroys : Destroys s t → RegistryStep s t

lemma Synced.step {s t : RilData} (h : Synced s) (ht : RegistryStep s t) : Synced t := by
  cases ht with
  | keeps hk => exact h.keeps hk
  | arrives request data token ha => exact h.arrives ha
  | removes token e hr => exact h.removes hr
  | destroys hd =>
    have htok : t.tokens = s.tokens := by
      rw [RilData.tokens_eq, RilData.tokens_eq, hd.entries]
    refine ⟨htok ▸ h.nodup, htok ▸ h.ne_zero, ?_, ?_, ?_⟩
    · rw [hd.entries, hd.trace]
      exact h.arrived
    · rw [hd.trace]
      exact h.unique
    · intro es he
      rw [hd.fmtEntries] at he
      cases he

/-! ### The operations on the lists -/

section

variable {s : RilData} {token : RilToken}

lemma find_token_of_mem (hm : token ∈ s.tokens) : ∃ r, s.requestFindToken token = some r := by
  obtain ⟨r, hr, rfl⟩ := List.mem_map.mp hm
  exact Option.isSome_iff_exists.mp (List.find?_isSome.mpr ⟨r, hr, by simp⟩)

lemma find_token_none (hm : token ∉ s.tokens) : s.requestFindToken token = none :=
  List.find?_eq_none.mpr fun r hr hk => hm (List.mem_map.mpr ⟨r, hr, by simpa using hk⟩)

lemma unregister_requests (token : RilToken) (s : RilData) :
    (s.requestUnregister token).requests = s.requests.eraseP (·.token == token) := by
  cases hf : s.requestFindToken token with
  | none =>
    have hnone : ∀ r ∈ s.requests, ¬ (r.token == token) = true := List.find?_eq_none.mp hf
    simp only [RilData.requestUnregister, hf]
    exact (List.eraseP_of_forall_not hnone).symm
  | some r => simp only [RilData.requestUnregister, hf]

lemma unregister_sublist (token : RilToken) (s : RilData) :
    (s.requestUnregister token).requests.Sublist s.requests := by
  rw [unregister_requests]
  exact List.eraseP_sublist

lemma mem_of_unregister {r : RilRequest} (hr : r ∈ (s.requestUnregister token).requests) : r ∈ s.requests :=
  (unregister_sublist token s).subset hr

lemma mem_unregister_of_ne (token : RilToken) {r : RilRequest} (hr : r ∈ s.requests) (hne : r.token ≠ token) :
    r ∈ (s.requestUnregister token).requests := by
  rw [unregister_requests]
  exact (List.mem_eraseP_of_neg (by simpa using hne)).mpr hr

lemma unregister_tokens (s : RilData) (token : RilToken) :
    (s.requestUnregister token).tokens = s.tokens.erase token := by
  rw [RilData.tokens, RilData.tokens, unregister_requests, List.erase_eq_eraseP', List.eraseP_map]
  rfl

lemma unregister_gone (h : s.tokens.Nodup) : token ∉ (s.requestUnregister token).tokens := by
  rw [unregister_tokens]
  exact h.not_mem_erase

lemma unregister_entries {r : RilRequest} (hr : s.requestFindToken token = some r) :
    (s.requestUnregister token).entries = s.entries.eraseP (·.2.2 == token) := by
  simp only [RilData.requestUnregister, hr, RilData.entries, List.eraseP_map]
  rfl

lemma unregister_fmtEntries {r : RilRequest} (hr : s.requestFindToken token = some r) :
    (s.requestUnregister token).fmtEntries =
      s.fmtEntries.map (·.eraseP fun e => e.1 == r.request && e.2 == token) := by
  simp only [RilData.requestUnregister, hr, RilData.fmtEntries, RilData.ipcFmtRequestUnregister,
    RilData.modifyFmt, Option.map_map]
  congr 1
  funext d
  simp [List.eraseP_map, Function.comp_def]

lemma mem_unregister (hn : s.tokens.Nodup) {token : RilToken} {r : RilRequest} (hf : s.requestFindToken token = some r)
    {x : RilRequest} : x ∈ (s.requestUnregister token).requests ↔ x ∈ s.requests ∧ x.token ≠ token := by
  constructor
  · intro hx
    refine ⟨mem_of_unregister hx, ?_⟩
    rintro rfl
    exact unregister_gone hn (List.mem_map_of_mem hx)
  · rintro ⟨hx, hk⟩
    exact mem_unregister_of_ne token hx hk

lemma unregister_trace (s : RilData) (token : RilToken) : (s.requestUnregister token).trace = s.trace := by
  rw [RilData.requestUnregister]
  split
  · rfl
  · rfl

lemma unregister_of_not_mem (hm : token ∉ s.tokens) : s.requestUnregister token = s := by
  rw [RilData.requestUnregister, find_token_none hm]

lemma unregister_removes (hm : token ∈ s.tokens) {e : Event}
    (he : e = .cancelled token ∨ ∃ error response, e = .completed token error response) {t : RilData}
    (hr : t.requests = (s.requestUnregister token).requests)
    (hf : t.fmt.data = (s.requestUnregister token).fmt.data) (ht : t.trace = e :: s.trace) :
    Removes s t token e := by
  obtain ⟨r, hfind⟩ := find_token_of_mem hm
  refine ⟨?_, ⟨r.request, r.data, ?_, ?_⟩, ht, he⟩
  · rw [RilData.entries, hr]
    exact unregister_entries hfind
  · have hk := RilData.requestFindToken_token hfind
    exact hk ▸ List.mem_map_of_mem (RilData.requestFindToken_mem hfind)
  · rw [RilData.fmtEntries, hf]
    exact unregister_fmtEntries hfind

lemma complete_removes (h0 : token ≠ 0) (hm : token ∈ s.tokens) (error : RilErrno) (response : RilResponse) :
    Removes s (s.requestComplete token error response) token (.completed token error response) := by
  rw [RilData.requestComplete, if_neg h0]
  refine unregister_removes hm (.inr ⟨error, response, rfl⟩) rfl rfl ?_
  rw [← unregister_trace s token]
  rfl

lemma complete_step (hm : token = 0 ∨ token ∈ s.tokens) (error : RilErrno) (response : RilResponse) :
    RegistryStep s (s.requestComplete token error response) := by
  by_cases h0 : token = 0
  · rw [RilData.requestComplete, if_pos h0]
    exact .keeps (.refl s)
  · exact .removes token _ (complete_removes h0 (hm.resolve_left h0) error response)

lemma cancel_step (s : RilData) (token : RilToken) : RegistryStep s (rilOnCancel token s) := by
  by_cases hm : token ∈ s.tokens
  · obtain ⟨r, hfind⟩ := find_token_of_mem hm
    simp only [rilOnCancel, hfind]
    refine .removes token _ (unregister_removes hm (.inl rfl) rfl rfl ?_)
    rw [← unregister_trace s token]
    rfl
  · simp only [rilOnCancel, find_token_none hm]
    exact .keeps (.refl s)

lemma arrive_step (h : Synced s) (h0 : token ≠ 0)
    (hfresh : ∀ request data, Event.arrived token request data ∉ s.trace) (request : RilRequestCode)
    (data : RilValue) : RegistryStep s (rilOnRequest request data token s) := by
  rw [rilOnRequest, unregister_of_not_mem (h.not_mem_of_fresh hfresh)]
  refine .arrives request data token ⟨h0, hfresh, ?_, ?_, rfl⟩
  · simp [RilData.entries, RilData.requestRegister, RilData.log]
  · simp [RilData.fmtEntries, RilData.requestRegister, RilData.modifyFmt, RilData.log, Function.comp_def]

end

/-! ### The radio goes away -/

section

variable {s : RilData}

lemma complete_head_requests {r : RilRequest} {rs : List RilRequest} (hr : s.requests = r :: rs)
    (h0 : r.token ≠ 0) (error : RilErrno) (response : RilResponse) :
    (s.requestComplete r.token error response).requests = rs := by
  rw [RilData.requestComplete, if_neg h0]
  simp [RilData.log, RilData.requestUnregister, RilData.requestFindToken, hr]

lemma radio_rounds_registry (rs : List RilRequest) (h : Synced s) (hr : s.requests = rs) :
    ReflTransGen RegistryStep s (rs.foldl RilData.radioUnavailableRound s) ∧
      (rs.foldl RilData.radioUnavailableRound s).requests = [] := by
  induction rs generalizing s with
  | nil => exact ⟨.refl, hr⟩
  | cons r rs ih =>
    have hm : r.token ∈ s.tokens := by
      rw [RilData.tokens, hr]
      exact List.mem_cons_self
    have h0 : r.token ≠ 0 := fun h0 => h.ne_zero (h0 ▸ hm)
    have hround : s.radioUnavailableRound r =
        (s.requestComplete r.token .radioNotAvailable .null).log (.staleRequest r.token) := by
      rw [RilData.radioUnavailableRound]
      exact if_neg h0
    have hc := complete_step (s := s) (.inr hm) .radioNotAvailable .null
    have hk : RegistryStep (s.requestComplete r.token .radioNotAvailable .null) (s.radioUnavailableRound r) :=
      hround ▸ .keeps (.log rfl _)
    have hreq : (s.radioUnavailableRound r).requests = rs := by
      rw [hround]
      exact complete_head_requests hr h0 _ _
    obtain ⟨hp, he⟩ := ih ((h.step hc).step hk) hreq
    exact ⟨.head hc (.head hk hp), he⟩

lemma synced_rounds {t : RilData} (h : Synced s) (hp : ReflTransGen RegistryStep s t) : Synced t := by
  induction hp with
  | refl => exact h
  | tail _ hs ih => exact ih.step hs

lemma fmt_flush_keeps (h : Synced s) (hr : s.requests = []) : KeepsRequests s s.ipcFmtFlush := by
  refine ⟨rfl, ?_, [], rfl, fun _ h => absurd h List.not_mem_nil⟩
  cases he : s.fmt.data with
  | none => simp [RilData.fmtEntries, RilData.ipcFmtFlush, RilData.modifyFmt, he]
  | some d =>
    have hd := h.fmt (d.requests.map fun r => (r.request, r.token)) (by simp [RilData.fmtEntries, he])
    simp only [RilData.fmtEntries, RilData.ipcFmtFlush, RilData.modifyFmt, he, Option.map_some, hd,
      RilData.entries, hr, List.map_nil]

lemma radio_unavailable_registry (h : Synced s) : ReflTransGen RegistryStep s s.radioUnavailable := by
  obtain ⟨hp, hr⟩ := radio_rounds_registry s.requests h rfl
  have hs := synced_rounds h hp
  have hflush : KeepsRequests (s.requests.foldl RilData.radioUnavailableRound s)
      (s.requests.foldl RilData.radioUnavailableRound s).requestFlush.requestDataFlush :=
    .of_eq (by simp [RilData.requestFlush, RilData.requestDataFlush, hr]) rfl rfl
  exact hp.tail (.keeps (hflush.trans (fmt_flush_keeps (hs.keeps hflush) rfl)))

lemma radio_registry (h : Synced s) (radioState : RilRadioState) :
    ReflTransGen RegistryStep s (s.radioStateUpdate radioState) := by
  by_cases hr : radioState = .unavailable
  · subst hr
    have hstate : KeepsRequests s
        (({ s with radioState := .unavailable }).requestUnsolicited .radioStateChanged .null) :=
      .then_log (.of_eq (by rfl) (by rfl) (by rfl)) (by rfl)
    rw [RilData.radioStateUpdate]
    split
    · exact .refl
    · exact (ReflTransGen.head (.keeps hstate) (radio_unavailable_registry (h.keeps hstate))).tail
        (.keeps (radio_off_keeps _))
  · exact .single (.keeps (radio_keeps hr s))

lemma fmt_token_registered (h : Synced s) (seq : UInt8) :
    s.ipcFmtRequestToken seq = 0 ∨ s.ipcFmtRequestToken seq ∈ s.tokens := by
  rw [RilData.ipcFmtRequestToken]
  cases hf : s.fmtRequestFindSeq seq with
  | none => exact .inl rfl
  | some r => exact .inr (h.fmt_mem_tokens (List.mem_of_find?_eq_some hf))

lemma arrived_of_mem (h : Synced s) {token : RilToken} (hm : token ∈ s.tokens) :
    ∃ request data, Event.arrived token request data ∈ s.trace := by
  rw [RilData.tokens_eq, List.mem_map] at hm
  obtain ⟨e, he, rfl⟩ := hm
  exact ⟨_, _, h.arrived e he⟩

end

/-! ### The steps of the daemon -/

section

variable {d : Daemon} {a : Action} {s : RilData} {op : Op}

lemma dispatch_op_registry {env : Env} {r : RilRequest} (h : DispatchOp env r s op) : RegistryStep s (op.exec s) := by
  rcases h with rfl | ⟨sent, h⟩ | rfl | rfl | ⟨error, response, rfl, hm⟩
  · exact .keeps ⟨rfl, rfl, [_], rfl, by simp [Event.neutral]⟩
  · exact .keeps h.keeps
  · exact .keeps (.setStatus s _ _)
  · exact .keeps (.setStatus s _ _)
  · exact complete_step (.inr hm) error response

lemma message_op_registry (hs : Synced s) {F : Footprint} {message : IpcMessage} (h : MessageOp F message s op) :
    RegistryStep s (op.exec s) := by
  rcases h.cases with ⟨token, error, response, rfl, ht⟩ | rfl | ⟨radioState, rfl, hr, -⟩ | h
  · refine complete_step ?_ error response
    rcases ht with ⟨-, rfl⟩ | ⟨r, hr, rfl, -⟩
    · exact fmt_token_registered hs message.aseq
    · exact .inr (List.mem_map_of_mem hr)
  · exact .keeps (.modifyFmt s fun _ => by rfl)
  · exact .keeps (radio_keeps hr s)
  · exact .keeps (h.keeps s)

lemma op_registry (hf : fresh d a) (hs : Synced s) (h : StepOp d a s op) :
    ReflTransGen RegistryStep s (op.exec s) := by
  cases a with
  | request request data token =>
    obtain ⟨rfl, rfl⟩ := h
    exact .single (arrive_step hs hf.1 hf.2 request data)
  | requestSignal | loopWake =>
    obtain rfl := h
    exact .single (.keeps (.of_eq rfl rfl rfl))
  | cancel token =>
    obtain rfl := h
    exact .single (cancel_step s token)
  | loopStart =>
    obtain rfl := h
    exact .single (.keeps (.retryUnhandled s))
  | loopDispatch env =>
    obtain ⟨r, -, h⟩ := h
    exact .single (dispatch_op_registry h)
  | loopEnd => exact h.elim
  | message env message =>
    rcases h with rfl | h | rfl
    · exact .single (.keeps ⟨rfl, rfl, [_], rfl, by simp [Event.neutral]⟩)
    · exact .single (message_op_registry hs h)
    · exact .single (.keeps (.of_eq rfl rfl rfl))
  | clientError =>
    rcases h with rfl | ⟨failures, rfl⟩
    · exact radio_registry hs _
    · exact .single (.keeps (.of_eq rfl rfl rfl))
  | clientReopen closed opened =>
    rcases h with ⟨rfl, -⟩ | ⟨failures, available, rfl⟩
    · exact radio_registry hs _
    · exact .single (.keeps (.of_eq rfl rfl rfl))
  | clientStop =>
    obtain rfl := h
    exact .single (.destroys ⟨rfl, rfl, rfl⟩)
  | srs env message =>
    rcases h with rfl | ⟨command, -, type, data, rfl⟩ | ⟨state, -, rfl⟩
    · exact .single (.keeps (.of_eq rfl rfl rfl))
    · exact .single (.keeps (.transmit s _ _ _ _ _))
    · exact radio_registry hs _

lemma path_registry {t : RilData} (hf : fresh d a) (hs : Synced s) (hp : Path Op.exec (StepOp d a) s t) :
    ReflTransGen RegistryStep s t := by
  induction hp with
  | refl => exact .refl
  | tail _ ht ih =>
    obtain ⟨op, hop, rfl⟩ := ht
    exact ih.trans (op_registry hf (synced_rounds hs ih) hop)

end

lemma rounds_invariant {Inv : RilData → Prop}
    (hstep : ∀ s t, Synced s → Inv s → RegistryStep s t → Inv t) {s t : RilData}
    (hp : ReflTransGen RegistryStep s t) (hs : Synced s) (hi : Inv s) : Synced t ∧ Inv t := by
  induction hp with
  | refl => exact ⟨hs, hi⟩
  | tail _ ht ih => exact ⟨ih.1.step ht, hstep _ _ ih.1 ih.2 ht⟩

/-- An invariant of the lists and the trace holds in every reachable state. -/
lemma registry_invariant {Inv : RilData → Prop} (h0 : Inv {})
    (hstep : ∀ s t, Synced s → Inv s → RegistryStep s t → Inv t) {d : Daemon} (h : Reachable d) :
    Synced d.data ∧ Inv d.data := by
  induction h with
  | refl => exact ⟨Synced.init, h0⟩
  | tail _ hf hd ih => exact rounds_invariant hstep (path_registry hf ih.1 (step_path hd)) ih.1 ih.2

lemma reachable_synced {d : Daemon} (h : Reachable d) : Synced d.data :=
  (registry_invariant trivial (fun _ _ _ _ _ => trivial) h : _ ∧ True).1

lemma started_keeps (s : RilData) (env : Env) {e : Event} (he : e.neutral = true) :
    KeepsRequests s (s.started env e) := ⟨rfl, rfl, [e], rfl, by simpa using he⟩

lemma registry_trace {s t : RilData} (h : ReflTransGen RegistryStep s t) : s.trace <:+ t.trace := by
  induction h with
  | refl => exact List.suffix_refl _
  | tail _ ht ih =>
    refine ih.trans ?_
    cases ht with
    | keeps hk =>
      obtain ⟨new, ht, -⟩ := hk.trace
      exact ⟨new, ht.symm⟩
    | arrives request data token ha => exact ⟨[_], ha.trace.symm⟩
    | removes token e hr => exact ⟨[_], hr.trace.symm⟩
    | destroys hd => exact hd.trace ▸ List.suffix_refl _

/-- An invariant that every permitted operation keeps holds in every state that is reached by steps
that meet a condition. -/
lemma op_invariant {ok : Daemon → Action → Prop} {Inv : RilData → Prop} (hfresh : ∀ d a, ok d a → fresh d a)
    (h0 : Inv {}) (hop : ∀ d a s op, ok d a → Synced s → Inv s → StepOp d a s op → Inv (op.exec s)) {d : Daemon}
    (h : Reaches step ok {} d) : Inv d.data := by
  have hpath {d : Daemon} {a : Action} {s t : RilData} (ha : ok d a) (hs : Synced s) (hi : Inv s)
      (hp : Path Op.exec (StepOp d a) s t) : Inv t := by
    have hall : Synced t ∧ Inv t := by
      induction hp with
      | refl => exact ⟨hs, hi⟩
      | tail _ ht ih =>
        obtain ⟨op, hopn, rfl⟩ := ht
        exact ⟨synced_rounds ih.1 (op_registry (hfresh _ _ ha) ih.1 hopn), hop _ _ _ _ ha ih.1 ih.2 hopn⟩
    exact hall.2
  induction h with
  | refl => exact h0
  | tail hr ha hd ih => exact hpath ha (reachable_synced (hr.mono hfresh)) ih (step_path hd)

end Ril.Samsung
