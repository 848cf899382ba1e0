import Ril.Samsung.System
import Ril.Samsung.Proofs.Dtmf
import Ril.Samsung.Spec.Events

/-! How old the network state is that requests are answered with. -/

namespace Ril.Samsung

open Ril.Ipc Ril.Lib

variable {request : RilRequestCode} {s t : RilData}

/-! ### What the operations leave of the entries -/

/-- Only an operation that sets an entry brings a new one. -/
lemma op_entries_subset {op : Op} (h : ∀ value, op ≠ .dataSet request value) (s : RilData) :
    (op.exec s).entriesOf request ⊆ s.entriesOf request := by
  have hkept (hk : op.keepsRequestData) : (op.exec s).entriesOf request ⊆ s.entriesOf request := by
    rw [s.entriesOf_of_data (op_requestsData hk s)]
    exact List.Subset.refl _
  cases op with
  | dataSet q value =>
    have hq : request ≠ q := by
      rintro rfl
      exact h value rfl
    simp only [Op.exec, s.entriesOf_dataSet_of_ne hq]
    exact List.Subset.refl _
  | dataFree q =>
    by_cases hq : request = q
    · subst hq
      simp [Op.exec, s.entriesOf_dataFree]
    · simp only [Op.exec, s.entriesOf_dataFree_of_ne hq]
      exact List.Subset.refl _
  | dataDrop q =>
    by_cases hq : request = q
    · subst hq
      simp only [Op.exec, s.entriesOf_dataDrop]
      exact fun v hv => List.mem_of_mem_tail hv
    · simp only [Op.exec, s.entriesOf_dataDrop_of_ne hq]
      exact List.Subset.refl _
  | radio radioState =>
    by_cases hr : radioState = .unavailable
    · subst hr
      by_cases hs : s.radioState = .unavailable
      · rw [Op.exec, RilData.radioStateUpdate, if_pos hs]
        exact List.Subset.refl _
      · rw [Op.exec, RilData.entriesOf, s.radio_unavailable_requestsData hs]
        exact List.nil_subset _
    · exact hkept hr
  | _ => exact hkept trivial

lemma path_entries_subset {A : RilData → Op → Prop} (hp : Path Op.exec A s t)
    (h : ∀ s op, A s op → ∀ value, op ≠ .dataSet request value) : t.entriesOf request ⊆ s.entriesOf request := by
  induction hp with
  | refl => exact List.Subset.refl _
  | tail _ hd ih =>
    obtain ⟨op, hop, rfl⟩ := hd
    exact List.Subset.trans (op_entries_subset (h _ op hop) _) ih

/-! ### The notifications -/

lemma complete_reply_requestsData (message : IpcMessage) (error : RilErrno) (response : RilResponse) (s : RilData) :
    (completeReply message error response s).2.requestsData = s.requestsData :=
  s.requestComplete_requestsData _ _ _

/-- The entries after a notification: at most one is new, and says what the notification does. -/
def Noted (note : Option (RilRequestCode × Note)) (s t : RilData) : Prop :=
  t.requestsData = s.requestsData ∨ ∃ request values, note = some (request, some values) ∧
    t.requestsData = s.requestsData ++ [(request, .strings values)]

lemma reply_keeps {note : Option (RilRequestCode × Note)} (message : IpcMessage) (error : RilErrno)
    (response : RilResponse) (s : RilData) :
    Noted note s ((do completeReply message error response; return Rc.ok : RilM Rc) s).2 :=
  .inl (complete_reply_requestsData message error response s)

lemma set_keeps {note : Option (RilRequestCode × Note)} {values : List (Option CString)}
    (h : note = some (request, some values)) (s : RilData) :
    Noted note s ((do
      rilRequestDataSet request (.strings values)
      rilRequestUnsolicited .voiceNetworkStateChanged .null
      return Rc.ok : RilM Rc) s).2 := by
  have hdata : ((do
      rilRequestDataSet request (.strings values)
      rilRequestUnsolicited .voiceNetworkStateChanged .null
      return Rc.ok : RilM Rc) s).2.requestsData = (s.requestDataSet request (.strings values)).requestsData := rfl
  rw [Noted, hdata, RilData.requestDataSet]
  split
  · exact .inl rfl
  · exact .inr ⟨request, values, h, rfl⟩

lemma serving_network_keeps {message : IpcMessage} (hc : message.command = .netServingNetwork) (s : RilData) :
    Noted (noteOf s.env message s) s (ipcNetServingNetwork message s).2 := by
  cases hp : ipcNetServingNetworkPlmn message.data with
  | none =>
    rw [ipcNetServingNetwork, hp]
    exact .inl rfl
  | some plmn =>
    rw [ipcNetServingNetwork, hp]
    simp only [get_bind_apply]
    cases hradio : s.radioStateCheck .simNotReady with
    | false => exact .inl rfl
    | true =>
      simp only [if_true]
      cases ho : ipc2rilNetOperator s.env.plmnList plmn with
      | none =>
        simp only
        split
        · exact reply_keeps _ _ _ _
        · exact .inl rfl
      | some operator =>
        simp only
        split
        · exact reply_keeps _ _ _ _
        · rename_i hr
          refine set_keeps ?_ s
          rw [noteOf, if_neg hr, hc]
          simp only [hp, ho, Option.map_some]

lemma regist_keeps {message : IpcMessage} (hc : message.command = .netRegist) (s : RilData) :
    Noted (noteOf s.env message s) s (ipcNetRegist message s).2 := by
  cases hp : IpcNetRegistResponseData.read message.data with
  | none =>
    rw [ipcNetRegist, hp]
    exact .inl rfl
  | some data =>
    rw [ipcNetRegist, hp]
    simp only [get_bind_apply]
    cases hd : s.fmt.data with
    | none => exact .inl rfl
    | some fmt =>
      cases hq : registrationDomain data.domain with
      | none => exact .inl rfl
      | some domain =>
        obtain ⟨request, count⟩ := domain
        cases hradio : s.radioStateCheck .simNotReady with
        | false => exact .inl rfl
        | true =>
          simp only [if_true]
          cases hv : registrationStrings s fmt.hsdpaStatus data count with
          | none =>
            simp only
            split
            · exact reply_keeps _ _ _ _
            · exact .inl rfl
          | some registration =>
            simp only
            split
            · exact reply_keeps _ _ _ _
            · rename_i hr
              refine set_keeps ?_ s
              rw [noteOf, if_neg hr, hc]
              simp only [hp, Option.bind_some, hq, Option.map_some, hd, hv]

lemma Noted.entries {note : Option (RilRequestCode × Note)} (h : Noted note s t) :
    t.entriesOf request = s.entriesOf request ∨ ∃ values, note = some (request, some values) ∧
      t.entriesOf request = s.entriesOf request ++ [.strings values] := by
  rcases h with h | ⟨q, values, hn, h⟩
  · exact .inl (RilData.entriesOf_of_data _ h)
  · by_cases hq : q = request
    · subst hq
      refine .inr ⟨values, hn, ?_⟩
      rw [RilData.entriesOf, h]
      simp [RilData.entriesOf]
    · left
      rw [RilData.entriesOf, h]
      simp [RilData.entriesOf, hq]

lemma dispatch_message_noted {env : Env} {message : IpcMessage}
    (hc : message.command = .netServingNetwork ∨ message.command = .netRegist) (s : RilData) :
    Noted (noteOf env message s) s (dispatchMessage env message s).2 := by
  have hnote : noteOf env message s = noteOf (s.started env (.received message)).env message
      (s.started env (.received message)) := rfl
  have hstart : ({ s with env := env } : RilData).log (.received message) = s.started env (.received message) := rfl
  rw [dispatchMessage, hstart, ipcFmtDispatch, hnote]
  rcases hc with hc | hc
  · rw [hc]
    exact serving_network_keeps hc (s.started env (.received message))
  · rw [hc]
    exact regist_keeps hc (s.started env (.received message))

lemma gen_phone_res_footprint_data (message : IpcMessage) (s : RilData) :
    (genPhoneResFootprint message s).data.all (fun q => !cachedRequests.contains q) = true := by
  rw [genPhoneResFootprint]
  split
  · rename_i callback _ _ _
    cases callback <;> rfl
  · rfl
  · rfl

/-- The other messages set no entry that is answered with. -/
lemma message_footprint_data {message : IpcMessage}
    (hc : ¬(message.command = .netServingNetwork ∨ message.command = .netRegist)) (s : RilData) :
    (messageFootprint message s).data.all (fun q => !cachedRequests.contains q) = true := by
  obtain ⟨aseq, command, type, data⟩ := message
  cases command with
  | netServingNetwork => exact absurd (.inl rfl) hc
  | netRegist => exact absurd (.inr rfl) hc
  | genPhoneRes => exact gen_phone_res_footprint_data _ s
  | _ => rfl

lemma request_footprint_data (q : RilRequestCode) :
    q.footprint.data.all (fun request => !cachedRequests.contains request || request == q) = true := by
  cases q <;> rfl

lemma not_mem_of_all {data : List RilRequestCode} (h : data.all (fun q => !cachedRequests.contains q) = true)
    (hq : request ∈ cachedRequests) : request ∉ data := by
  intro hm
  have hn := List.all_eq_true.mp h request hm
  simp [hq] at hn

/-! ### The requests -/

/-- What the dispatch of a request of the cached kinds does; it succeeds only with what was kept before. -/
def CachedOp (env : Env) (r : RilRequest) (s : RilData) (op : Op) : Prop :=
  op = .start env (some (.dispatched r.token)) ∨ op = .dataDrop r.request ∨
    (∃ status, op = .setStatus r.token status) ∨
    (∃ sender command data, op = .transmit sender none command .get data) ∨
    op = .complete r.token .genericFailure .null ∨
    ∃ values, op = .complete r.token .success (.strings values) ∧ s.requestDataFind r.request = some (.strings values)

lemma cached_handler (hq : request ∈ cachedRequests) : ∃ handler command data,
    rilRequestHandler request = some handler ∧
      ∀ value token, handler value token = cachedStrings request command data token := by
  simp only [cachedRequests, List.mem_cons, List.not_mem_nil, or_false] at hq
  rcases hq with rfl | rfl | rfl
  · exact ⟨_, .netRegist, ipcNetRegistSetup ipcNetServiceDomainGsm, rfl, fun _ _ => rfl⟩
  · exact ⟨_, .netRegist, ipcNetRegistSetup ipcNetServiceDomainGprs, rfl, fun _ _ => rfl⟩
  · exact ⟨_, .netServingNetwork, [], rfl, fun _ _ => rfl⟩

lemma cached_strings_cases (request : RilRequestCode) (command : IpcCommand) (data : Bytes) (token : RilToken)
    (s : RilData) : cachedStrings request command data token s = (.unhandled, s) ∨
      (∃ values, s.requestDataFind request = some (.strings values) ∧ cachedStrings request command data token s =
        (.completed, (s.requestDataDrop request).requestComplete token .success (.strings values))) ∨
      cachedStrings request command data token s =
        sendRequest token none command .get data (s.requestDataDrop request) := by
  rw [cachedStrings, whenRadioState_apply, whenNoneHandled_apply]
  split
  · split
    · exact .inl rfl
    · rw [bind_apply, rilRequestDataGet]
      cases hv : s.requestDataFind request with
      | none => exact .inr (.inr rfl)
      | some value =>
        cases value with
        | strings values => exact .inr (.inl ⟨values, rfl, rfl⟩)
        | _ => exact .inr (.inr rfl)
  · exact .inl rfl

lemma cached_dispatch_path {r : RilRequest} (hq : r.request ∈ cachedRequests) (env : Env) (s : RilData) :
    Path Op.exec (fun _ => CachedOp env r s) s (dispatchRequest env r s) := by
  obtain ⟨handler, command, data, hhandler, happly⟩ := cached_handler hq
  have hstart : Path Op.exec (fun _ => CachedOp env r s) s (s.started env (.dispatched r.token)) :=
    Path.single (Op.start env (some (.dispatched r.token))) (.inl rfl)
  have hdrop := hstart.tail ⟨.dataDrop r.request, .inr (.inl rfl), rfl⟩
  rcases cached_strings_cases r.request command data r.token (s.started env (.dispatched r.token)) with
    h | ⟨values, hv, h⟩ | h
  · rw [dispatch_result hhandler ((happly _ _).symm ▸ h)]
    exact hstart.tail ⟨.setStatus r.token .unhandled, .inr (.inr (.inl ⟨_, rfl⟩)), rfl⟩
  · rw [dispatch_result hhandler ((happly _ _).symm ▸ h)]
    exact hdrop.tail ⟨.complete r.token .success (.strings values),
      .inr (.inr (.inr (.inr (.inr ⟨values, rfl, hv⟩)))), rfl⟩
  · have hsent := hdrop.tail ⟨.transmit (.request r.token) none command .get data,
      .inr (.inr (.inr (.inl ⟨_, _, _, rfl⟩))), rfl⟩
    rw [sendRequest, bind_apply] at h
    cases ht : (transmit (.request r.token) none command .get data
        ((s.started env (.dispatched r.token)).requestDataDrop r.request)).1 with
    | true =>
      simp only [ht, if_true] at h
      rw [dispatch_result hhandler ((happly _ _).symm ▸ h)]
      exact hsent.tail ⟨.setStatus r.token .handled, .inr (.inr (.inl ⟨_, rfl⟩)), rfl⟩
    | false =>
      simp only [ht, Bool.false_eq_true, if_false] at h
      rw [dispatch_result hhandler ((happly _ _).symm ▸ h)]
      exact hsent.tail ⟨.complete r.token .genericFailure .null, .inr (.inr (.inr (.inr (.inl rfl)))), rfl⟩

lemma answered_entry {d : Daemon} {env : Env} {r : RilRequest} {values : List (Option CString)}
    (h : AnsweredFromCache env r values d) : d.data.requestDataFind r.request = some (.strings values) := by
  obtain ⟨-, -, hq, new, htrace, hm⟩ := h
  have hlogged : Extends (fun e => ∀ values, e = .completed r.token .success (.strings values) →
      d.data.requestDataFind r.request = some (.strings values)) d.data.trace (dispatchRequest env r d.data).trace := by
    refine path_logged (cached_dispatch_path hq env d.data) fun s op hop e he values hv => ?_
    subst hv
    rcases hop with rfl | rfl | ⟨status, rfl⟩ | ⟨sender, command, data, rfl⟩ | rfl | ⟨values', rfl, hfind⟩
    · cases he
    · exact he.elim
    · exact he.elim
    · rcases he with ⟨owner, seq, he⟩ | ⟨mseq, ok, he⟩
      · cases he
      · cases he
    · cases he
    · cases he
      exact hfind
  rw [htrace, Extends.append_iff] at hlogged
  exact hlogged _ hm values rfl

/-! ### The steps -/

variable {d d' : Daemon} {a : Action}

lemma note_command {env : Env} {message : IpcMessage} {n : RilRequestCode × Note} (h : noteOf env message s = some n) :
    message.command = .netServingNetwork ∨ message.command = .netRegist := by
  obtain ⟨aseq, command, type, data⟩ := message
  rw [noteOf] at h
  split at h
  · cases h
  · cases command with
    | netServingNetwork => exact .inl rfl
    | netRegist => exact .inr rfl
    | _ => cases h

lemma message_step_noted {env : Env} {message : IpcMessage} (h : step d (.message env message) = some d')
    (hc : message.command = .netServingNetwork ∨ message.command = .netRegist) :
    Noted (noteOf env message d.data) d.data d'.data := by
  have hkeeps : Noted (noteOf env message d.data) d.data (dispatchMessage env message d.data).2 :=
    dispatch_message_noted hc d.data
  obtain ⟨-, -, ⟨data, hm, rfl⟩ | ⟨data, hm, rfl⟩⟩ := step_message.mp h
  · rwa [hm] at hkeeps
  · rw [hm] at hkeeps
    exact hkeeps

/-- Only the notifications bring entries. -/
lemma step_sets {s : RilData} {op : Op} (hop : StepOp d a s op) (hq : request ∈ cachedRequests)
    (hm : ∀ env message, a = .message env message →
      ¬(message.command = .netServingNetwork ∨ message.command = .netRegist))
    (hd : ∀ env r, a = .loopDispatch env → d.data.requestFindStatus .pending = some r → r.request ≠ request)
    (value : RilRequestDataValue) : op ≠ .dataSet request value := by
  rintro rfl
  cases a with
  | request q data token => cases hop.2
  | loopDispatch env =>
    obtain ⟨r, hr, hop⟩ := hop
    rcases hop with hop | ⟨sent, hop⟩ | hop | hop | ⟨error, response, hop, -⟩
    · cases hop
    · have hfootprint := List.all_eq_true.mp (request_footprint_data r.request) request hop
      have hne := hd env r rfl hr
      simp [hq, hne.symm] at hfootprint
    · cases hop
    · cases hop
    · cases hop
  | loopEnd => exact hop
  | message env message =>
    rcases hop with hop | hop | hop
    · cases hop
    · exact not_mem_of_all (message_footprint_data (hm env message rfl) d.data) hq hop
    · cases hop
  | clientError =>
    rcases hop with hop | ⟨failures, hop⟩
    · cases hop
    · cases hop
  | clientReopen closed opened =>
    rcases hop with ⟨hop, -⟩ | ⟨failures, available, hop⟩
    · cases hop
    · cases hop
  | srs env message =>
    rcases hop with hop | ⟨command, -, type, data, hop⟩ | ⟨state, -, hop⟩
    · cases hop
    · cases hop
    · cases hop
  | _ => cases hop

lemma step_entries (h : step d a = some d') (hq : request ∈ cachedRequests) :
    d'.data.entriesOf request ⊆ d.data.entriesOf request ∨ ∃ values, a.note d.data = some (request, some values) ∧
      d'.data.entriesOf request = d.data.entriesOf request ++ [.strings values] := by
  by_cases hm : ∃ env message, a = .message env message ∧
      (message.command = .netServingNetwork ∨ message.command = .netRegist)
  · obtain ⟨env, message, rfl, hc⟩ := hm
    rcases (message_step_noted h hc).entries with he | he
    · left
      rw [he]
      exact List.Subset.refl _
    · exact .inr he
  · left
    by_cases hd : ∃ env r, a = .loopDispatch env ∧ d.data.requestFindStatus .pending = some r ∧ r.request = request
    · obtain ⟨env, r, rfl, hr, rfl⟩ := hd
      obtain ⟨-, r', hr', rfl⟩ := step_loop_dispatch.mp h
      obtain rfl : r = r' := Option.some.inj (hr.symm.trans hr')
      refine path_entries_subset (cached_dispatch_path hq env d.data) fun s op hop value hset => ?_
      subst hset
      rcases hop with hop | hop | ⟨status, hop⟩ | ⟨sender, command, data, hop⟩ | hop | ⟨values, hop, -⟩ <;> cases hop
    · refine path_entries_subset (step_path h) fun s op hop => step_sets hop hq ?_ ?_
      · rintro env message rfl hc
        exact hm ⟨env, message, rfl, hc⟩
      · rintro env r rfl hr heq
        exact hd ⟨env, r, rfl, hr, heq⟩

/-! ### The runs -/

variable {x x' : Daemon × Latest}

/-- All that is kept says the same as the most recent notification. -/
def EntriesFresh (x : Daemon × Latest) : Prop :=
  ∀ request ∈ cachedRequests, ∀ value ∈ x.1.data.entriesOf request,
    ∃ values, value = .strings values ∧ x.2 request = some (some values)

lemma latest_add_of_ne {latest : Latest} {note : Option (RilRequestCode × Note)}
    (h : ∀ n, note ≠ some (request, n)) : latest.add note request = latest request := by
  cases note with
  | none => rfl
  | some n =>
    obtain ⟨q, n⟩ := n
    have hq : q ≠ request := by
      rintro rfl
      exact h n rfl
    exact if_neg hq

lemma latest_add_self (latest : Latest) (note : Note) : latest.add (some (request, note)) request = some note :=
  if_pos rfl

lemma entries_fresh_step (hx : EntriesFresh x) (hfits : NoteFits x a) (h : notedStep x a = some x') :
    EntriesFresh x' := by
  obtain ⟨d', hstep, rfl⟩ := Option.map_eq_some_iff.mp h
  intro request hq value (hv : value ∈ d'.data.entriesOf request)
  show ∃ values, value = .strings values ∧ x.2.add (a.note x.1.data) request = some (some values)
  by_cases hn : ∃ note, a.note x.1.data = some (request, note)
  · obtain ⟨note, hn⟩ := hn
    rw [hn, latest_add_self]
    -- every older entry is the one that is found first, since both are what was notified last
    have hold : ∀ value ∈ x.1.data.entriesOf request, ∃ values, value = .strings values ∧ note = some values := by
      intro value hv
      obtain ⟨first, rest, hrest⟩ := List.exists_cons_of_ne_nil (List.ne_nil_of_mem hv)
      have hfind : x.1.data.requestDataFind request = some first := by
        rw [RilData.requestDataFind_eq, hrest]
        rfl
      obtain ⟨values, rfl, hlatest⟩ := hx request hq value hv
      obtain ⟨values', rfl, hlatest'⟩ := hx request hq first (hrest ▸ List.mem_cons_self)
      obtain rfl : values = values' := Option.some.inj (Option.some.inj (hlatest.symm.trans hlatest'))
      obtain ⟨values', rfl, hvalues⟩ := Option.map_eq_some_iff.mp (hfits request note _ hn hfind)
      obtain rfl : values' = values := RilRequestDataValue.strings.inj hvalues
      exact ⟨values', rfl, rfl⟩
    have hvalue : ∃ values, value = .strings values ∧ note = some values := by
      rcases step_entries hstep hq with hsub | ⟨values, hn', heq⟩
      · exact hold value (hsub hv)
      · rw [heq] at hv
        rcases List.mem_append.mp hv with hv | hv
        · exact hold value hv
        · rw [hn, Option.some_inj, Prod.mk.injEq] at hn'
          exact ⟨values, List.mem_singleton.mp hv, hn'.2⟩
    obtain ⟨values, hvalue, hnote⟩ := hvalue
    exact ⟨values, hvalue, congrArg some hnote⟩
  · rw [latest_add_of_ne fun n hn' => hn ⟨n, hn'⟩]
    rcases step_entries hstep hq with hsub | ⟨values, hn', -⟩
    · exact hx request hq value (hsub hv)
    · exact absurd ⟨some values, hn'⟩ hn

lemma entries_fresh_run (h : Reaches notedStep NoteFits ({}, fun _ => none) x) : EntriesFresh x :=
  h.invariant (fun _ _ _ hv => absurd hv List.not_mem_nil) fun _ _ _ _ hx hfits hs => entries_fresh_step hx hfits hs

/-- What would be answered from what is kept is the most recent notification. -/
def HeadsFresh (x : Daemon × Latest) : Prop :=
  ∀ request ∈ cachedRequests, ∀ value, x.1.data.requestDataFind request = some value →
    ∃ values, value = .strings values ∧ x.2 request = some (some values)

lemma heads_of_entries (hx : EntriesFresh x) : HeadsFresh x := by
  intro request hq value hv
  rw [RilData.requestDataFind_eq] at hv
  exact hx request hq value (List.mem_of_mem_head? hv)

lemma note_request {env : Env} {message : IpcMessage} {note : Note}
    (h : noteOf env message s = some (request, note)) : request ∈ cachedRequests := by
  have hc := note_command h
  rw [noteOf] at h
  split at h
  · cases h
  · rcases hc with hc | hc
    · simp only [hc, Option.map_eq_some_iff, Prod.mk.injEq] at h
      obtain ⟨plmn, -, rfl, -⟩ := h
      decide
    · simp only [hc, Option.bind_eq_some_iff, Option.map_eq_some_iff, Prod.mk.injEq] at h
      obtain ⟨data, -, domain, hdomain, rfl, -⟩ := h
      exact List.mem_append_left [.operator] (registration_domain_mem hdomain)

/-- A notification leaves what is found first in its place. -/
lemma note_step_find {note : Note} {value : RilRequestDataValue} (h : step d a = some d')
    (hn : a.note d.data = some (request, note)) (hfind : d.data.requestDataFind request = some value) :
    d'.data.requestDataFind request = some value := by
  cases a with
  | message env message =>
    rw [RilData.requestDataFind_eq] at hfind ⊢
    rcases (message_step_noted h (note_command hn)).entries with he | ⟨values, -, he⟩
    · rw [he]
      exact hfind
    · rw [he, List.head?_append, hfind]
      rfl
  | _ => cases hn

/-- The condition is exact: a notification that does not fit leaves an old answer. -/
lemma heads_fresh_iff (hx : EntriesFresh x) (h : notedStep x a = some x') : HeadsFresh x' ↔ NoteFits x a := by
  constructor
  · intro hheads request note value hn hfind
    obtain ⟨d', hstep, rfl⟩ := Option.map_eq_some_iff.mp h
    have hq : request ∈ cachedRequests := by
      cases a with
      | message env message => exact note_request hn
      | _ => cases hn
    obtain ⟨values, rfl, hlatest⟩ := hheads request hq value (note_step_find hstep hn hfind)
    have hadd : x.2.add (a.note x.1.data) request = some (some values) := hlatest
    rw [hn, latest_add_self] at hadd
    rw [Option.some.inj hadd]
    rfl
  · intro hfits
    exact heads_of_entries (entries_fresh_step hx hfits h)

theorem cached_answers_fresh (h : Reaches notedStep NoteFits ({}, fun _ => none) x) :
    AnswersFresh x ∧ ∀ a x', notedStep x a = some x' → (HeadsFresh x' ↔ NoteFits x a) := by
  have hx := entries_fresh_run h
  refine ⟨fun env r values ha => ?_, fun a x' hs => heads_fresh_iff hx hs⟩
  obtain ⟨values', hvalues, hlatest⟩ := heads_of_entries hx r.request ha.2.2.1 _ (answered_entry ha)
  rw [hlatest, RilRequestDataValue.strings.inj hvalues]

/-! ### Two runs -/

def nothingNoted : Daemon × Latest := ({}, fun _ => none)

def notedFrom (as : List Action) : Daemon × Latest := (run notedStep nothingNoted as).getD nothingNoted

def noteFits (x : Daemon × Latest) (a : Action) : Bool :=
  (a.note x.1.data).all fun n => (x.1.data.requestDataFind n.1).all fun value => n.2.map .strings == some value

lemma note_fits_of_check (h : noteFits x a = true) : NoteFits x a := by
  intro request note value hn hv
  rw [noteFits, hn, Option.all_some, hv, Option.all_some] at h
  exact beq_iff_eq.mp h

lemma reaches_noted {ok : Daemon × Latest → Action → Bool} {P : Daemon × Latest → Action → Prop} {as : List Action}
    (hr : (run notedStep nothingNoted as).isSome = true) (hm : runMeets notedStep ok nothingNoted as = true)
    (hok : ∀ x a, ok x a = true → P x a) : Reaches notedStep P nothingNoted (notedFrom as) := by
  obtain ⟨x, hx⟩ := Option.isSome_iff_exists.mp hr
  have hnoted : notedFrom as = x := by rw [notedFrom, hx, Option.getD_some]
  rw [hnoted]
  exact .of_run as hx hm hok

/-- A registration at home (0x02) or in another network (0x06) -/
def registrationNote (status : UInt8) : Action :=
  .message {} ⟨0x00, .netRegist, .noti, [0x02, 0x02, status, 0, 0, 0, 0, 0, 0, 0, 0]⟩

def registrationValues (status : UInt8) : List (Option CString) :=
  [some [status], some [0x30], some [0x30], some [0x31]] ++ List.replicate 11 none

/-- The request for the registration, up to its dispatch -/
def registrationRun (notes : List Action) : List Action :=
  radioOnRun ++ notes ++ [.request .voiceRegistrationState .null 2, .requestSignal, .loopWake, .loopStart]

theorem cached_answers_fresh_home : (notedFrom (registrationRun [registrationNote 0x02])).2 .voiceRegistrationState =
    some (some (registrationValues 0x31)) := by
  have hr : Reaches notedStep NoteFits ({}, fun _ => none) (notedFrom (registrationRun [registrationNote 0x02])) :=
    reaches_noted (by decide) (by decide) fun _ _ => note_fits_of_check
  refine (cached_answers_fresh hr).1 {} ⟨.voiceRegistrationState, .null, 2, .pending⟩ _
    ⟨by decide, by decide, by decide, ?_⟩
  exact ⟨[.completed 2 .success (.strings (registrationValues 0x31)), .dispatched 2], by decide, List.mem_cons_self⟩

/-- Two notifications come before the request, which is answered with the first one. -/
theorem cached_answers_stale :
    ¬∀ x, Reaches notedStep (fun x a => fresh x.1 a) ({}, fun _ => none) x → AnswersFresh x := by
  intro h
  have hfresh : runMeets notedStep (fun x a => freshCheck x.1 a) nothingNoted
      (registrationRun [registrationNote 0x02, registrationNote 0x06]) = true := by decide
  have hr : Reaches notedStep (fun x a => fresh x.1 a) ({}, fun _ => none)
      (notedFrom (registrationRun [registrationNote 0x02, registrationNote 0x06])) :=
    reaches_noted (by decide) hfresh fun _ _ => fresh_of_check
  have hanswer := h _ hr {} ⟨.voiceRegistrationState, .null, 2, .pending⟩ (registrationValues 0x31)
    ⟨by decide, by decide, by decide, [.completed 2 .success (.strings (registrationValues 0x31)), .dispatched 2],
      by decide, List.mem_cons_self⟩
  exact absurd hanswer (by decide)

end Ril.Samsung
