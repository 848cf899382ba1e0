import Ril.Samsung.Proofs.DtmfSends
import Ril.Samsung.Spec.Connections

/-! The tones in every run that gives the stops their answers. -/

namespace Ril.Samsung

open Ril.Ipc Ril.Lib

/-! ### The requests that an operation leaves as they are -/

/-- The operations that neither end a request nor replace it -/
def Op.spares (token : RilToken) : Op → Prop
  | .complete t _ _ | .cancel t | .arrive _ _ t | .setStatus t _ => t ≠ token
  | .radio radioState => radioState ≠ .unavailable
  | _ => True

/-- The operations that take no seq for a request -/
def Op.takesNone : Op → Prop
  | .requestSeq _ | .transmit (.request _) _ _ _ _ => False
  | .start _ event => ∀ token seq, event ≠ some (.seqTaken token seq)
  | _ => True

section

variable {s t : RilData} {op : Op} {r : RilRequest} {token : RilToken}

lemma op_retains (h : op.spares r.token) (hr : r ∈ s.requests) (hh : r.status = .handled) : r ∈ (op.exec s).requests := by
  cases op with
  | complete token error response =>
    simp only [Op.exec, RilData.requestComplete]
    split
    · exact hr
    · exact mem_unregister_of_ne _ hr h.symm
  | requestSeq token => exact (RilData.ipcFmtRequestSeq_requests s token).symm ▸ hr
  | transmit sender expect command type data =>
    have hview : (transmit sender expect command type data s).2.requests = s.requests :=
      congrArg Prod.fst (s.transmit_loopView sender expect command type data)
    exact hview.symm ▸ hr
  | dataSet request value =>
    simp only [Op.exec, RilData.requestDataSet]
    split
    · exact hr
    · exact hr
  | radio radioState => exact (RilData.radioStateUpdate_lists h s).1.symm ▸ hr
  | setStatus token status =>
    have hne : (r.token == token) = false := beq_false_of_ne (Ne.symm h)
    exact List.mem_map.mpr ⟨r, hr, by simp [hne]⟩
  | retry => exact List.mem_map.mpr ⟨r, hr, by simp [hh]⟩
  | arrive request data token => exact List.mem_append_left _ (mem_unregister_of_ne _ hr h.symm)
  | cancel token =>
    simp only [Op.exec, rilOnCancel]
    split
    · exact hr
    · exact mem_unregister_of_ne _ hr h.symm
  | _ => exact hr

lemma path_retains {A : RilData → Op → Prop} (hp : Path Op.exec A s t) (hA : ∀ s op, A s op → op.spares r.token)
    (hr : r ∈ s.requests) (hh : r.status = .handled) : r ∈ t.requests := by
  induction hp with
  | refl => exact hr
  | tail _ ht ih =>
    obtain ⟨op, hop, rfl⟩ := ht
    exact op_retains (hA _ op hop) ih hh

lemma op_taken (h : op.takesNone) (s : RilData) {seq : UInt8} (ht : (some token, seq) ∈ taken (op.exec s).trace) :
    (some token, seq) ∈ taken s.trace := by
  have hlogs (hl : ∀ e, op.logs e → e.taken = none) : (some token, seq) ∈ taken s.trace := by
    obtain ⟨new, he, hn⟩ := op_logged op s
    rw [taken, he, List.filterMap_append] at ht
    rcases List.mem_append.mp ht with ht | ht
    · obtain ⟨e, hm, he⟩ := List.mem_filterMap.mp ht
      rw [hl e (hn e hm)] at he
      cases he
    · exact ht
  cases op with
  | transmit sender expect command type data =>
    have hsend (u : RilData) (mseq : UInt8) :
        taken (expectSend expect mseq command type data u).2.trace = taken u.trace :=
      (expectSend_seqState u expect mseq command type data).2
    cases sender with
    | request token => exact h.elim
    | reply aseq =>
      have hr : (some token, seq) ∈ taken (expectSend expect aseq command type data s).2.trace := ht
      rwa [hsend] at hr
    | own =>
      have hr : (some token, seq) ∈ taken (expectSend expect (s.ipcFmtSeq none).1 command type data (s.ipcFmtSeq none).2).2.trace := ht
      rw [hsend, RilData.ipcFmtSeq] at hr
      split at hr
      · exact hr
      · exact (List.mem_cons.mp hr).resolve_left (by simp)
  | requestSeq => exact h.elim
  | start env event =>
    refine hlogs fun e he => ?_
    obtain rfl : event = some e := he
    cases e with
    | seqTaken owner seq => exact absurd rfl (h owner seq)
    | _ => rfl
  | radio radioState =>
    refine hlogs fun e he => ?_
    rcases he with ⟨request, response, rfl⟩ | ⟨token, rfl⟩ | ⟨token, rfl⟩ <;> rfl
  | unsolicited | complete | pinCache | stale | arrive | cancel =>
    refine hlogs fun e he => ?_
    obtain rfl := he
    rfl
  | _ => exact hlogs fun _ he => he.elim

end

/-! ### The requests that are handled -/

/-- A registered request that has taken a seq is handled. -/
def TakenHandled (s : RilData) : Prop :=
  ∀ r ∈ s.requests, ∀ seq, (some r.token, seq) ∈ taken s.trace → r.status = .handled

/-- At most one of the tone requests is handled. -/
def OneHandled (s : RilData) : Prop :=
  ∀ r ∈ s.requests, ∀ r' ∈ s.requests, r.status = .handled → r'.status = .handled →
    r.request ∈ dtmfRequests → r'.request ∈ dtmfRequests → r = r'

section

variable {s t : RilData} {op : Op} {r : RilRequest} {env : Env}

lemma TakenHandled.exec (h : TakenHandled s) (hn : Numbered s) (hset : ∀ token status, op ≠ .setStatus token status)
    (htake : op.takesNone) (hfresh : ∀ request data token, op = .arrive request data token →
      ∀ request data, Event.arrived token request data ∉ s.trace) : TakenHandled (op.exec s) := by
  intro r hr seq ht
  have ht := op_taken htake s ht
  rcases Calm.op_requests hset s r hr with hr | ⟨-, ⟨r₀, hr₀, hk, hu⟩ | ⟨request, data, he⟩⟩
  · exact h r hr seq ht
  · have hh := h r₀ hr₀ seq (hk ▸ ht)
    rw [hu] at hh
    cases hh
  · obtain ⟨request', data', hm⟩ := hn.owners r.token seq ht
    exact absurd hm (hfresh request data r.token he request' data')

lemma OneHandled.calm (h : OneHandled s) (hc : Calm s t) : OneHandled t :=
  fun r hr r' hr' hh hh' => h r (hc.handled r hr hh) r' (hc.handled r' hr' hh') hh hh'

lemma OneHandled.exec (h : OneHandled s) (hset : ∀ token status, op ≠ .setStatus token status) :
    OneHandled (op.exec s) := by
  have hmem (r : RilRequest) (hr : r ∈ (op.exec s).requests) (hh : r.status = .handled) : r ∈ s.requests :=
    (Calm.op_requests hset s r hr).resolve_right fun hp => by simp [hh] at hp
  exact fun r hr r' hr' hh hh' => h r (hmem r hr hh) r' (hmem r' hr' hh') hh hh'

lemma tone_handled_iff : toneHandled s = true ↔ ∃ r ∈ s.requests, r.status = .handled ∧ r.request ∈ dtmfRequests := by
  simp only [toneHandled, List.any_eq_true, RilData.requestFindRequestStatus, List.find?_isSome, Bool.and_eq_true,
    beq_iff_eq]
  constructor
  · rintro ⟨request, hq, r, hr, rfl, hh⟩
    exact ⟨r, hr, hh, hq⟩
  · rintro ⟨r, hr, hh, hq⟩
    exact ⟨r.request, hq, r, hr, rfl, hh⟩

/-! ### The dispatch of a request -/

lemma request_op_taken {F : Footprint} {token token' : RilToken} {sent : Bool} (h : RequestOp F token sent s op)
    (hne : token' ≠ token) {seq : UInt8} (ht : (some token', seq) ∈ taken (op.exec s).trace) :
    (some token', seq) ∈ taken s.trace := by
  have hseq (hm : (some token', seq) ∈ taken (s.ipcFmtRequestSeq token).2.trace) : (some token', seq) ∈ taken s.trace := by
    obtain ⟨new, he, hn⟩ := Logged.ipcFmtRequestSeq s token (P := fun e => ∃ q, e = .seqTaken (some token) q)
      fun q => ⟨q, rfl⟩
    rw [taken, he, List.filterMap_append] at hm
    refine (List.mem_append.mp hm).resolve_left fun hm => ?_
    obtain ⟨e, hm, he⟩ := List.mem_filterMap.mp hm
    obtain ⟨q, rfl⟩ := hn e hm
    exact hne (Option.some.inj (congrArg Prod.fst (Option.some.inj he)).symm)
  rcases h.cases with rfl | ⟨expect, command, type, data, rfl, -⟩ | hq
  · exact hseq ht
  · have hsend := (expectSend_seqState (s.ipcFmtRequestSeq token).2 expect (s.ipcFmtRequestSeq token).1 command type data).2
    exact hseq (hsend ▸ ht)
  · refine op_taken ?_ s ht
    cases op with
    | requestSeq | transmit | start => exact hq.elim
    | _ => trivial

lemma dispatch_taken (hr : r ∈ s.requests) {token : RilToken} (hne : token ≠ r.token) {seq : UInt8}
    (ht : (some token, seq) ∈ taken (dispatchRequest env r s).trace) : (some token, seq) ∈ taken s.trace := by
  have hp := dispatch_path env hr
  generalize dispatchRequest env r s = u at hp ht
  revert ht
  induction hp with
  | refl => exact id
  | tail _ ho ih =>
    obtain ⟨op, hop, rfl⟩ := ho
    refine fun ht => ih ?_
    rcases hop with rfl | ⟨sent, hop⟩ | rfl | rfl | ⟨error, response, rfl, -⟩
    · exact op_taken (show (Op.start env (some (.dispatched r.token))).takesNone by simp [Op.takesNone]) _ ht
    · exact request_op_taken hop hne ht
    · exact ht
    · exact ht
    · exact op_taken (show (Op.complete r.token error response).takesNone from trivial) _ ht

lemma dispatch_retains (hr : r ∈ s.requests) {r' : RilRequest} (hr' : r' ∈ s.requests) (hh : r'.status = .handled)
    (hne : r'.token ≠ r.token) : r' ∈ (dispatchRequest env r s).requests := by
  refine path_retains (dispatch_path env hr) (fun s op hop => ?_) hr' hh
  rcases hop with rfl | ⟨sent, hop⟩ | rfl | rfl | ⟨error, response, rfl, -⟩
  · trivial
  · rcases hop.cases with rfl | ⟨expect, command, type, data, rfl, -⟩ | hq
    · trivial
    · trivial
    · cases op with
      | complete | cancel | arrive | setStatus | radio => exact hq.elim
      | _ => trivial
  · exact hne.symm
  · exact hne.symm
  · exact hne.symm

lemma dispatch_requests (hs : Synced s) (hr : r ∈ s.requests) : ∀ r' ∈ (dispatchRequest env r s).requests,
    (r' ∈ s.requests ∧ r'.token ≠ r.token) ∨ r' = { r with status := .handled } ∨
      r' = { r with status := .unhandled } ∧ taken (dispatchRequest env r s).trace = taken s.trace := by
  have hset {u : RilData} (hu : u.requests = s.requests) {status : RilRequestStatus} {r' : RilRequest}
      (hm : r' ∈ (u.requestSetStatus r.token status).requests) :
      (r' ∈ s.requests ∧ r'.token ≠ r.token) ∨ r' = { r with status := status } := by
    obtain ⟨x, hx, rfl⟩ := List.mem_map.mp hm
    rw [hu] at hx
    by_cases hk : x.token = r.token
    · obtain rfl := List.inj_on_of_nodup_map hs.nodup hx hr hk
      exact .inr (if_pos (beq_self_eq_true _))
    · have hne : (x.token == r.token) = false := beq_false_of_ne hk
      simp only [hne, Bool.false_eq_true, if_false]
      exact .inl ⟨hx, hk⟩
  intro r' hr'
  rcases dispatch_cases env r s with ⟨he, -⟩ | ⟨s', hp, he⟩ | ⟨s', error, response, hp, he⟩
  · rw [he] at hr' ⊢
    exact (hset rfl hr').imp_right fun h => .inr ⟨h, rfl⟩
  · have hreq : s'.requests = s.requests := (Path.frame (f := RilData.requests) hp fun _ _ h => h.requests).trans rfl
    rw [he] at hr'
    exact (hset hreq hr').imp_right .inl
  · have hreq : s'.requests = s.requests := (Path.frame (f := RilData.requests) hp fun _ _ h => h.requests).trans rfl
    have hm : r.token ∈ s'.tokens := by
      rw [RilData.tokens, hreq]
      exact List.mem_map_of_mem hr
    have hn : s'.tokens.Nodup := by
      rw [RilData.tokens, hreq]
      exact hs.nodup
    have h0 : r.token ≠ 0 := fun h0 => hs.ne_zero (h0 ▸ List.mem_map_of_mem hr)
    obtain ⟨x, hx⟩ := find_token_of_mem hm
    rw [he, RilData.requestComplete, if_neg h0] at hr'
    obtain ⟨hmem, hne⟩ := (mem_unregister hn hx).mp hr'
    exact .inl ⟨hreq ▸ hmem, hne⟩

lemma TakenHandled.dispatch (h : TakenHandled s) (hs : Synced s) (hr : r ∈ s.requests) (hp : r.status = .pending) :
    TakenHandled (dispatchRequest env r s) := by
  intro r' hr' seq ht
  rcases dispatch_requests hs hr r' hr' with ⟨hm, hne⟩ | rfl | ⟨rfl, he⟩
  · exact h r' hm seq (dispatch_taken hr hne ht)
  · rfl
  · have hh := h r hr seq (he ▸ ht)
    rw [hp] at hh
    cases hh

lemma put_off_calm (hq : r.request ∈ dtmfRequests) (h : toneHandled s = true) : Calm s (dispatchRequest env r s) := by
  obtain ⟨handler, hh, hcases⟩ := tone_handler hq
  have hstart := started_calm env r.token s
  rcases hcases (s.started env (.dispatched r.token)) (.inl h) with he | he
  · rw [dispatch_result hh he]
    exact hstart.trans (.of_op (.setStatus r.token .unhandled) rfl _)
  · rw [dispatch_result hh he]
    exact hstart.trans (.of_op (.complete r.token .genericFailure .null) rfl _)

lemma OneHandled.dispatch (h : OneHandled s) (hs : Synced s) (hr : r ∈ s.requests) :
    OneHandled (dispatchRequest env r s) := by
  by_cases hput : r.request ∈ dtmfRequests ∧ toneHandled s = true
  · exact h.calm (put_off_calm hput.1 hput.2)
  · have hother {x : RilRequest} (hx : x ∈ s.requests) (hh : x.status = .handled) (hq : x.request ∈ dtmfRequests)
        (hrq : r.request ∈ dtmfRequests) : False := hput ⟨hrq, tone_handled_iff.mpr ⟨x, hx, hh, hq⟩⟩
    intro x hx y hy hxh hyh hxq hyq
    rcases dispatch_requests hs hr x hx with ⟨hxm, -⟩ | rfl | ⟨rfl, -⟩
    · rcases dispatch_requests hs hr y hy with ⟨hym, -⟩ | rfl | ⟨rfl, -⟩
      · exact h x hxm y hym hxh hyh hxq hyq
      · exact (hother hxm hxh hxq hyq).elim
      · cases hyh
    · rcases dispatch_requests hs hr y hy with ⟨hym, -⟩ | rfl | ⟨rfl, -⟩
      · exact (hother hym hyh hyq hxq).elim
      · rfl
      · cases hyh
    · cases hxh

end

/-! ### The messages -/

section

variable {s t : RilData} {F : Footprint} {message : IpcMessage} {r : RilRequest} {seq : UInt8}

lemma fmt_seq_eq (hn : Numbered s) {f : IpcFmtRequest} (hf : f ∈ s.fmtRequests)
    (ht : (some f.token, seq) ∈ taken s.trace) : f.seq = seq := by
  obtain ⟨q, hq⟩ := RilData.seqState_of_mem hf
  rcases hn.requests _ q hq f hf with ⟨-, hnot⟩ | ha
  · exact absurd ht (hnot seq)
  · exact (ha.once seq ht).symm

/-- The seq of a registered request finds no other one. -/
lemma reply_token (hs : Synced s) (hn : Numbered s) (hr : r ∈ s.requests) (ht : (some r.token, seq) ∈ taken s.trace)
    {aseq : UInt8} (hk : r.token = s.ipcFmtRequestToken aseq) : aseq = seq := by
  rw [RilData.ipcFmtRequestToken] at hk
  cases hf : s.fmtRequestFindSeq aseq with
  | none =>
    rw [hf] at hk
    have h0 : r.token = 0 := hk
    have hm : r.token ∈ s.tokens := List.mem_map_of_mem hr
    exact absurd (h0 ▸ hm) hs.ne_zero
  | some f =>
    rw [hf] at hk
    obtain ⟨hm, hq⟩ := find_seq_mem hf
    dsimp only at hk
    rw [hk] at ht
    exact hq.symm.trans (fmt_seq_eq hn hm ht)

lemma message_retains (hp : MessagePath F message s t) (hs : Synced s) (hn : Numbered s) (hr : r ∈ s.requests)
    (hh : r.status = .handled) (ht : (some r.token, seq) ∈ taken s.trace)
    (hreply : F.replies = true → message.aseq ≠ seq) (hhandled : r.request ∉ F.handled) (htoken : r.token ∉ F.tokens) :
    r ∈ t.requests := by
  suffices hall : Synced t ∧ Numbered t ∧ r ∈ t.requests ∧ (some r.token, seq) ∈ taken t.trace from hall.2.2.1
  induction hp with
  | refl => exact ⟨hs, hn, hr, ht⟩
  | @tail u _ _ ho ih =>
    obtain ⟨op, hop, rfl⟩ := ho
    obtain ⟨hs', hn', hr', ht'⟩ := ih
    have hsuffix := op_suffix op u
    refine ⟨hs'.step (message_op_registry hs' hop), hn'.step hs' (message_op_seq_step hop) hsuffix, ?_,
      taken_suffix hsuffix ht'⟩
    refine op_retains ?_ hr' hh
    rcases hop.cases with ⟨token, error, response, rfl, hc⟩ | rfl | ⟨radioState, rfl, hu, -⟩ | hq
    · rintro rfl
      rcases hc with ⟨hrep, hk⟩ | ⟨r', hrm, hk, ⟨-, hF⟩ | hF⟩
      · exact hreply hrep (reply_token hs' hn' hr' ht' hk)
      · obtain rfl := List.inj_on_of_nodup_map hs'.nodup hrm hr' hk
        exact hhandled hF
      · exact htoken hF
    · trivial
    · exact hu
    · rcases hq.cases with ⟨q, expect, command, type, data, rfl, -⟩ | ⟨token, rfl⟩ | hq
      · trivial
      · trivial
      · cases op with
        | complete | cancel | arrive | setStatus | radio => exact hq.elim
        | _ => trivial

lemma dtmf_footprints (message : IpcMessage) (s : RilData) (hq : r.request ∈ dtmfRequests) :
    r.request ∉ (messageFootprint message s).handled ∧ r.request.footprint.connections = false := by
  have hnot : r.request ∉ [RilRequestCode.getImei, .getImeisv, .oemHookRaw] ∧
      r.request.footprint.connections = false := by
    simp only [dtmfRequests, List.mem_cons, List.not_mem_nil, or_false] at hq
    rcases hq with hq | hq | hq <;> simp [hq, RilRequestCode.footprint]
  exact ⟨fun h => hnot.1 (message_footprint_handled message s h), hnot.2⟩

end

/-! ### The end of the client and of the radio -/

section

variable {s : RilData} {op : Op} {d d' : Daemon} {a : Action}

lemma gone_op (hd : s.fmt.data = none) (hstart : ∀ env m ok, op ≠ .start env (some (.sent m ok))) :
    (op.exec s).fmt.data = none ∧ Extends Event.toneless s.trace (op.exec s).trace := by
  have hnone {t : RilData} (ht : t.fmt.data.isSome = s.fmt.data.isSome) : t.fmt.data = none := by
    rw [hd] at ht
    simpa using ht
  constructor
  · by_cases hc : op.calm = true
    · exact hnone (Calm.op_data hc s)
    · cases op with
      | start | setStatus => exact hd
      | clientDestroy => rfl
      | _ => exact absurd rfl hc
  · have hlogs (h : ∀ m ok, ¬op.logs (.sent m ok)) : Extends Event.toneless s.trace (op.exec s).trace :=
      (op_logged op s).mono fun e he => toneless_of_sent (fun m ok hm => absurd hm (h m ok)) he
    cases op with
    | transmit sender expect command type data =>
      have hsend {t : RilData} (mseq : UInt8) (ht : t.fmt.data = none) :
          Extends Event.toneless t.trace (expectSend expect mseq command type data t).2.trace := by
        refine Logged.expectSend t expect mseq command type data (sent_toneless (.inr ?_))
        simp [RilData.clientAccepts, ht]
      cases sender with
      | request token =>
        have hseq := request_seq_accept s token
        exact (Logged.ipcFmtRequestSeq s token fun _ => ⟨rfl, rfl⟩).trans
          (hsend _ (hnone (congrArg Prod.fst hseq)))
      | reply aseq => exact hsend aseq hd
      | own =>
        have hseq := seq_accept s none
        exact (Logged.ipcFmtSeq s none fun _ => ⟨rfl, rfl⟩).trans (hsend _ (hnone (congrArg Prod.fst hseq)))
    | start env event =>
      refine hlogs fun m ok hm => ?_
      obtain rfl : event = some (.sent m ok) := hm
      exact hstart env m ok rfl
    | _ => exact hlogs fun m ok hm => by simp [Op.logs] at hm

lemma step_op_starts (h : StepOp d a s op) (env : Env) (m : IpcRequest) (ok : Bool) : op ≠ .start env (some (.sent m ok)) := by
  rintro rfl
  cases a with
  | request | requestSignal | cancel | loopWake | loopStart | loopEnd | clientStop => simp [StepOp] at h
  | loopDispatch =>
    obtain ⟨r, -, h | ⟨sent, h⟩ | h | h | ⟨error, response, h, -⟩⟩ := h
    · cases h
    · exact h.elim
    · cases h
    · cases h
    · cases h
  | message =>
    rcases h with h | h | h
    · cases h
    · exact h.elim
    · cases h
  | clientError | clientReopen => simp [StepOp] at h
  | srs =>
    rcases h with h | ⟨command, -, type, data, h⟩ | ⟨state, -, h⟩
    · cases h
    · cases h
    · cases h

/-- Without its data the client sends nothing. -/
lemma gone_step (h : step d a = some d') (hd : d.data.fmt.data = none) :
    d'.data.fmt.data = none ∧ Extends Event.toneless d.data.trace d'.data.trace := by
  have hp := step_path h
  generalize d'.data = t at hp
  induction hp with
  | refl => exact ⟨hd, .refl _⟩
  | tail _ ho ih =>
    obtain ⟨op, hop, rfl⟩ := ho
    obtain ⟨hn, ht⟩ := gone_op ih.1 (step_op_starts hop)
    exact ⟨hn, ih.2.trans ht⟩

/-- The radio goes away while no tone plays. -/
lemma radio_unavailable_tones (h : Tones s) (hk : s.radioState = .unavailable ∨ playing s.trace = false) :
    Tones (s.radioStateUpdate .unavailable) := by
  by_cases hs : s.radioState = .unavailable
  · rw [RilData.radioStateUpdate, if_pos hs]
    exact h
  · have hcleared := radio_goes_away hs
    have htrace : Extends Event.toneless s.trace (s.radioStateUpdate .unavailable).trace :=
      (op_logged (.radio .unavailable) s).mono fun e he => toneless_of_sent (fun m ok hm => by simp [Op.logs] at hm) he
    have hentries (request : RilRequestCode) : (s.radioStateUpdate .unavailable).entriesOf request = [] := by
      rw [RilData.entriesOf, s.radio_unavailable_requestsData hs]
      rfl
    have hstops : (s.radioStateUpdate .unavailable).stops = [] := by
      rw [RilData.stops, RilData.fmtExpects]
      cases hd : (s.radioStateUpdate .unavailable).fmt.data with
      | none => rfl
      | some data => simp [(hcleared.fmt data hd).2.2]
    refine ⟨starts_extend htrace h.starts, tones_extend htrace h.played, .idle ⟨hentries .dtmf, .inl ?_, hstops⟩⟩
    exact ⟨hentries .dtmfStart, (playing_extend htrace).trans (hk.resolve_left hs)⟩

end

/-! ### The runs -/

/-- The tone of the request waits for the answer to the stop that was sent under its seq. -/
def WaitsForStop (s : RilData) (r : RilRequest) (seq : UInt8) : Prop :=
  r ∈ s.requests ∧ r.status = .handled ∧ (requestTone r.request r.data).isSome = true ∧ stopExpect seq ∈ s.fmtExpects ∧
    ∃ f ∈ s.fmtRequests, f.token = r.token ∧ f.seq = seq

/-- The message is the generic answer to the stop, and not a failure when a burst waits for it. -/
def AnswersStop (s : RilData) (r : RilRequest) (message : IpcMessage) : Prop :=
  message.command = .genPhoneRes ∧ s.expectFindAseq message.aseq = some (stopExpect message.aseq) ∧
    (r.request = .dtmf → ∀ data, IpcGenPhoneResData.read message.data = some data →
      data.command = IpcCommand.callContDtmf.code ∧ ipcGenPhoneResCheck data = true)

/-- The radio stays, or no tone plays. -/
def NoTonePlays (s : RilData) : Prop := s.radioState = .unavailable ∨ playing s.trace = false

/-- A request whose tone waits for a stop is not cancelled, and its seq is answered by the answer to the stop. The
client accepts the stops of the tones that are started, and the radio does not go away while a tone plays. -/
def dtmfKept (d : Daemon) : Action → Prop
  | .cancel token => ∀ r seq, WaitsForStop d.data r seq → r.token ≠ token
  | .loopDispatch env => d.data.fmt.data.isSome = true → ∀ r, d.data.requestFindStatus .pending = some r →
      StopsTone r d.data → AcceptsStop { d.data with env := env }
  | .message _ message => ∀ r, WaitsForStop d.data r message.aseq →
      AnswersStop d.data r message ∨
        message.command ≠ .genPhoneRes ∧ (messageFootprint message d.data).replies = false
  | .clientError => NoTonePlays d.data
  | .srs _ (.testSetRadioState state) => RilRadioState.ofCode state = .unavailable → NoTonePlays d.data
  | _ => True

/-- At most one tone request is handled, the continuous tones are stopped before the next one is started, and every tone
is the one of the request of its seq and sent once for it. -/
structure DtmfProtocol (s : RilData) : Prop where
  one : OneHandled s
  starts : StartsStopped s.trace
  tones : TonesPlayed s.trace

section

variable {s t : RilData} {op : Op} {d d' : Daemon} {a : Action} {env : Env} {message : IpcMessage}

lemma Stopping.waits {r : RilRequest} {seq : UInt8} (h : Stopping s r seq) (hs : Synced s) (hn : Numbered s) :
    WaitsForStop s r seq := by
  have hstop : stopExpect seq ∈ s.stops := h.stops ▸ List.mem_singleton_self _
  have hmem : stopExpect seq ∈ s.fmtExpects := List.mem_of_mem_filter hstop
  obtain ⟨f, hf, hk, hq, -⟩ := seq_of_taken hs hn h.mem h.taken (data_of_expect hmem)
  obtain ⟨value, hv, ⟨hreq, -⟩ | ⟨hreq, -⟩⟩ := h.entry
  · exact ⟨h.mem, h.handled, by rw [hreq, hv]; rfl, hmem, f, hf, hk, hq⟩
  · exact ⟨h.mem, h.handled, by rw [hreq, hv]; rfl, hmem, f, hf, hk, hq⟩

lemma Stopping.request {r : RilRequest} {seq : UInt8} (h : Stopping s r seq) : r.request ∈ dtmfRequests := by
  obtain ⟨value, -, ⟨hreq, -⟩ | ⟨hreq, -⟩⟩ := h.entry
  · rw [hreq]
    exact .head _
  · rw [hreq]
    exact .tail _ (.head _)

lemma message_op_plain {F : Footprint} (h : MessageOp F message s op) :
    (∀ token status, op ≠ .setStatus token status) ∧ op.takesNone := by
  rcases h.cases with ⟨token, error, response, rfl, -⟩ | rfl | ⟨radioState, rfl, -⟩ | hs
  · exact ⟨nofun, trivial⟩
  · exact ⟨nofun, trivial⟩
  · exact ⟨nofun, trivial⟩
  · rcases hs.cases with ⟨q, expect, command, type, data, rfl, -⟩ | ⟨token, rfl⟩ | hq
    · exact ⟨nofun, trivial⟩
    · exact ⟨nofun, trivial⟩
    · cases op with
      | setStatus | requestSeq | transmit | start => exact hq.elim
      | _ => exact ⟨nofun, trivial⟩

lemma step_op_plain (h : StepOp d a s op) (hd : ∀ env, a ≠ .loopDispatch env) :
    (∀ token status, op ≠ .setStatus token status) ∧ op.takesNone := by
  cases a with
  | request request data token =>
    obtain ⟨-, rfl⟩ := h
    exact ⟨nofun, trivial⟩
  | requestSignal | cancel | loopWake | loopStart | clientStop =>
    obtain rfl := h
    exact ⟨nofun, trivial⟩
  | loopDispatch env => exact absurd rfl (hd env)
  | loopEnd => exact h.elim
  | message env message =>
    rcases h with rfl | h | rfl
    · exact ⟨nofun, by simp [Op.takesNone]⟩
    · exact message_op_plain h
    · exact ⟨nofun, trivial⟩
  | clientError =>
    rcases h with rfl | ⟨failures, rfl⟩
    · exact ⟨nofun, trivial⟩
    · exact ⟨nofun, trivial⟩
  | clientReopen closed opened =>
    rcases h with ⟨rfl, -⟩ | ⟨failures, available, rfl⟩
    · exact ⟨nofun, trivial⟩
    · exact ⟨nofun, trivial⟩
  | srs env message =>
    rcases h with rfl | ⟨command, -, type, data, rfl⟩ | ⟨state, -, rfl⟩
    · exact ⟨nofun, by simp [Op.takesNone]⟩
    · exact ⟨nofun, trivial⟩
    · exact ⟨nofun, trivial⟩

/-! ### What holds in every reachable state -/

lemma step_taken_handled (hf : fresh d a) (hs : Synced d.data) (hn : Numbered d.data) (h : TakenHandled d.data)
    (hstep : step d a = some d') : TakenHandled d'.data := by
  by_cases hd : ∃ env, a = .loopDispatch env
  · obtain ⟨env, rfl⟩ := hd
    obtain ⟨-, r, hr, rfl⟩ := step_loop_dispatch.mp hstep
    exact h.dispatch hs (List.mem_of_find?_eq_some hr) (by simpa using List.find?_some hr)
  · have hp := step_path hstep
    generalize d'.data = t at hp
    suffices hall : Synced t ∧ Numbered t ∧ TakenHandled t from hall.2.2
    induction hp with
    | refl => exact ⟨hs, hn, h⟩
    | @tail u _ _ ho ih =>
      obtain ⟨op, hop, rfl⟩ := ho
      obtain ⟨hs', hn', h'⟩ := ih
      obtain ⟨hset, htake⟩ := step_op_plain hop fun env ha => hd ⟨env, ha⟩
      have hreg := op_registry hf hs' hop
      refine ⟨synced_rounds hs' hreg, hn'.step hs' (op_seq_step hf hs' hop) (registry_trace hreg), ?_⟩
      refine h'.exec hn' hset htake fun request data token he => ?_
      subst he
      cases a with
      | request request data token =>
        obtain ⟨rfl, he⟩ := hop
        cases he
        exact hf.2
      | loopDispatch env => exact absurd ⟨env, rfl⟩ hd
      | message env message =>
        rcases hop with hop | hop | hop
        · cases hop
        · exact hop.elim
        · cases hop
      | _ => simp [StepOp] at hop

lemma reachable_taken_handled (h : Reachable d) : TakenHandled d.data := by
  induction h with
  | refl => exact fun r hr => absurd hr List.not_mem_nil
  | tail hd hf hstep ih => exact step_taken_handled hf (reachable_synced hd) (reachable_numbered hd) ih hstep

lemma step_one_handled (hs : Synced d.data) (h : OneHandled d.data) (hstep : step d a = some d') : OneHandled d'.data := by
  by_cases hd : ∃ env, a = .loopDispatch env
  · obtain ⟨env, rfl⟩ := hd
    obtain ⟨-, r, hr, rfl⟩ := step_loop_dispatch.mp hstep
    exact h.dispatch hs (List.mem_of_find?_eq_some hr)
  · have hp := step_path hstep
    generalize d'.data = t at hp
    induction hp with
    | refl => exact h
    | tail _ ho ih =>
      obtain ⟨op, hop, rfl⟩ := ho
      exact ih.exec (step_op_plain hop fun env ha => hd ⟨env, ha⟩).1

lemma reachable_one_handled (h : Reachable d) : OneHandled d.data := by
  induction h with
  | refl => exact fun r hr => absurd hr List.not_mem_nil
  | tail hd _ hstep ih => exact step_one_handled (reachable_synced hd) ih hstep

/-! ### The tones -/

lemma step_op_toneless (h : StepOp d a s op) (hd : ∀ env, a ≠ .loopDispatch env) (hm : ∀ env message, a ≠ .message env message)
    (hstop : a ≠ .clientStop) (hradio : op ≠ .radio .unavailable) : op.toneless := by
  cases a with
  | request request data token =>
    obtain ⟨-, rfl⟩ := h
    trivial
  | requestSignal | cancel | loopWake | loopStart =>
    obtain rfl := h
    trivial
  | loopDispatch env => exact absurd rfl (hd env)
  | loopEnd => exact h.elim
  | message env message => exact absurd rfl (hm env message)
  | clientError =>
    rcases h with rfl | ⟨failures, rfl⟩
    · exact absurd rfl hradio
    · trivial
  | clientReopen closed opened =>
    rcases h with ⟨rfl, -⟩ | ⟨failures, available, rfl⟩
    · simp [Op.toneless]
    · trivial
  | clientStop => exact absurd rfl hstop
  | srs env message =>
    rcases h with rfl | ⟨command, hc, type, data, rfl⟩ | ⟨state, -, rfl⟩
    · simp [Op.toneless]
    · simp only [srsCommands, List.mem_cons, List.not_mem_nil, or_false] at hc
      rcases hc with rfl | rfl | rfl <;> exact ⟨by simp, rfl⟩
    · exact fun hu => hradio (congrArg Op.radio hu)

/-- They end no request but the one that is cancelled. -/
lemma step_op_spares (h : StepOp d a s op) (hd : ∀ env, a ≠ .loopDispatch env) (hm : ∀ env message, a ≠ .message env message)
    (hradio : op ≠ .radio .unavailable) {token : RilToken} (hcancel : a ≠ .cancel token)
    (hrequest : ∀ request data, a ≠ .request request data token) : op.spares token := by
  cases a with
  | request request data t =>
    obtain ⟨-, rfl⟩ := h
    exact fun ht => hrequest request data (by rw [ht])
  | cancel t =>
    obtain rfl := h
    exact fun ht => hcancel (by rw [ht])
  | requestSignal | loopWake | loopStart | clientStop =>
    obtain rfl := h
    trivial
  | loopDispatch env => exact absurd rfl (hd env)
  | loopEnd => exact h.elim
  | message env message => exact absurd rfl (hm env message)
  | clientError =>
    rcases h with rfl | ⟨failures, rfl⟩
    · exact absurd rfl hradio
    · trivial
  | clientReopen closed opened =>
    rcases h with ⟨rfl, -⟩ | ⟨failures, available, rfl⟩
    · simp [Op.spares]
    · trivial
  | srs env message =>
    rcases h with rfl | ⟨command, -, type, data, rfl⟩ | ⟨state, -, rfl⟩
    · trivial
    · trivial
    · exact fun hu => hradio (congrArg Op.radio hu)

/-- A step in which the radio does not go away, and neither does the request whose tone waits -/
lemma plain_step_tones (h : Tones d.data) (hstep : step d a = some d') (hd : ∀ env, a ≠ .loopDispatch env)
    (hm : ∀ env message, a ≠ .message env message) (hstop : a ≠ .clientStop)
    (hradio : ∀ s op, StepOp d a s op → op ≠ .radio .unavailable)
    (hr : ∀ r seq, Stopping d.data r seq → a ≠ .cancel r.token ∧ ∀ request data, a ≠ .request request data r.token) :
    Tones d'.data := by
  have hp := step_path hstep
  refine h.keeps (.of_path hp fun s op hop => step_op_toneless hop hd hm hstop (hradio s op hop)) fun r seq hs => ?_
  exact path_retains hp (fun s op hop => step_op_spares hop hd hm (hradio s op hop) (hr r seq hs).1 (hr r seq hs).2)
    hs.mem hs.handled

lemma tone_string {request : RilRequestCode} {data : RilValue} (h : (requestTone request data).isSome = true) :
    ∃ value, data = .string value := by
  cases data with
  | string value => exact ⟨value, rfl⟩
  | _ => cases request <;> cases h

lemma dispatch_step_tones (h : Tones s) (hs : Synced s) (hn : Numbered s) (hc : Conserved s) (ht : TakenHandled s)
    {r : RilRequest} (hr : s.requestFindStatus .pending = some r) (hd : s.fmt.data.isSome = true)
    (hk : StopsTone r s → AcceptsStop { s with env := env }) : Tones (dispatchRequest env r s) := by
  have hmem : r ∈ s.requests := List.mem_of_find?_eq_some hr
  have hpending : r.status = .pending := by simpa using List.find?_some hr
  have hstay (r' : RilRequest) (seq : UInt8) (hw : Stopping s r' seq) : r' ∈ (dispatchRequest env r s).requests := by
    refine dispatch_retains hmem hw.mem hw.handled fun he => ?_
    obtain rfl := List.inj_on_of_nodup_map hs.nodup hw.mem hmem he
    have hh := hw.handled
    rw [hpending] at hh
    cases hh
  by_cases hq : r.request ∈ dtmfRequests
  · by_cases hput : toneHandled s = true ∨ r.request ≠ .dtmfStop ∧
        (requestTone r.request r.data = none ∨ s.radioStateCheck .simNotReady = false)
    · exact h.keeps (dispatch_put_off_keeps env hq hput) hstay
    · have hfree : toneHandled s = false := by simpa using fun hh => hput (.inl hh)
      have hk₁ := started_keeps_tones s env r.token
      have ht₁ : Tones (s.started env (.dispatched r.token)) := h.keeps hk₁ fun _ _ hw => hw.mem
      have hi : Idle (s.started env (.dispatched r.token)) := by
        cases h.state with
        | gone hnone => simp [hnone] at hd
        | idle hi => exact hi.keeps hk₁
        | stopping r' seq hw =>
          have hhandled := tone_handled_iff.mpr ⟨r', hw.mem, hw.handled, hw.request⟩
          rw [hfree] at hhandled
          cases hhandled
      have hdispatch : Dispatches (s.started env (.dispatched r.token)) r := {
        synced := hs.keeps (started_keeps s env rfl)
        numbered := hn.step hs (.of_eq rfl rfl) (List.suffix_cons _ _)
        conserved := hc.keeps (started_keeps s env rfl)
        mem := hmem
        untaken := fun seq htaken => by
          have hh := ht r hmem seq htaken
          rw [hpending] at hh
          cases hh
        data := hd }
      have haccepts (hstops : StopsTone r s) : AcceptsStop (s.started env (.dispatched r.token)) := hk hstops
      have hplays (hne : r.request ≠ .dtmfStop) : (requestTone r.request r.data).isSome = true ∧
          s.radioStateCheck .simNotReady = true := by
        obtain ⟨htone, hradio⟩ := not_or.mp fun hx => hput (.inr ⟨hne, hx⟩)
        exact ⟨Option.isSome_iff_ne_none.mpr htone, by simpa using hradio⟩
      simp only [dtmfRequests, List.mem_cons, List.not_mem_nil, or_false] at hq
      rcases hq with hq | hq | hq
      · have hh : rilRequestHandler r.request = some rilRequestDtmf := by rw [hq]; rfl
        obtain ⟨htone, hradio⟩ := hplays (by simp [hq])
        obtain ⟨value, hv⟩ := tone_string htone
        obtain ⟨undo, result, he, hok, hno⟩ := dtmf_settles hdispatch ht₁ hi hq hv hradio hfree
          fun hplay => haccepts ⟨hfree, .inr ⟨htone, hradio, hplay⟩⟩
        exact dispatch_settle hh he hok hno
      · have hh : rilRequestHandler r.request = some rilRequestDtmfStart := by rw [hq]; rfl
        obtain ⟨htone, hradio⟩ := hplays (by simp [hq])
        obtain ⟨value, hv⟩ := tone_string htone
        obtain ⟨undo, result, he, hok, hno⟩ := dtmf_start_settles hdispatch ht₁ hi hq hv hradio hfree
          fun hplay => haccepts ⟨hfree, .inr ⟨htone, hradio, hplay⟩⟩
        exact dispatch_settle hh he hok hno
      · have hh : rilRequestHandler r.request = some rilRequestDtmfStop := by rw [hq]; rfl
        obtain ⟨undo, result, he, hok, hno⟩ := dtmf_stop_settles hdispatch ht₁ hi hfree
          fun hplay => haccepts ⟨hfree, .inl ⟨hq, hplay⟩⟩
        exact dispatch_settle hh he hok hno
  · exact h.keeps (dispatch_other_keeps env hq s) hstay

lemma message_step_tones (h : Tones s) (hs : Synced s) (hn : Numbered s) (hc : Conserved s)
    (hT : TokensIn (ForConnections s.trace) s)
    (hk : ∀ r, WaitsForStop s r message.aseq → AnswersStop s r message ∨
      message.command ≠ .genPhoneRes ∧ (messageFootprint message s).replies = false) :
    Tones (dispatchMessage env message s).2 := by
  by_cases hanswer : ∃ r, Stopping s r message.aseq ∧ AnswersStop s r message
  · obtain ⟨r, hw, hm, hf, hok⟩ := hanswer
    exact stop_answer_tones hw h hs hc env hm hf hok
  · have hother (r : RilRequest) (hw : Stopping s r message.aseq) : message.command ≠ .genPhoneRes ∧
        (messageFootprint message s).replies = false :=
      (hk r (hw.waits hs hn)).resolve_left fun hx => hanswer ⟨r, hw, hx⟩
    have hsilent (hm : message.command = .genPhoneRes) : ∀ e ∈ s.stops, e.aseq ≠ message.aseq := by
      intro e he ha
      cases h.state with
      | gone hd => simp [RilData.stops, RilData.fmtExpects, hd] at he
      | idle hi =>
        rw [hi.stops] at he
        exact absurd he List.not_mem_nil
      | stopping r seq hw =>
        obtain rfl : e = stopExpect seq := by simpa [hw.stops] using he
        obtain rfl : seq = message.aseq := ha
        exact (hother r hw).1 hm
    refine h.keeps (dispatch_message_keeps_tones env hsilent) fun r seq hw => ?_
    obtain ⟨hhandled, hconnections⟩ := dtmf_footprints message s hw.request
    refine message_retains (message_path env message s) (hs.keeps (started_keeps s env (e := .received message) rfl))
      (hn.step hs (.of_eq rfl rfl) (List.suffix_cons _ _)) hw.mem hw.handled hw.taken ?_ hhandled
      (not_mem_footprint_tokens message hs hT hw.mem hconnections)
    intro hr ha
    subst ha
    rw [(hother r hw).2] at hr
    cases hr

/-! ### The protocol -/

lemma step_tones (h : Tones d.data) (hd : Reachable d) (hc : Conserved d.data) (hf : fresh d a) (hk : dtmfKept d a)
    (hstep : step d a = some d') : Tones d'.data := by
  have hs := reachable_synced hd
  have hn := reachable_numbered hd
  by_cases hgone : d.data.fmt.data = none
  · obtain ⟨hnone, htrace⟩ := gone_step hstep hgone
    exact ⟨starts_extend htrace h.starts, tones_extend htrace h.played, .gone hnone⟩
  have hplain (hd : ∀ env, a ≠ .loopDispatch env) (hm : ∀ env message, a ≠ .message env message) (hstop : a ≠ .clientStop)
      (hradio : ∀ s op, StepOp d a s op → op ≠ .radio .unavailable) : Tones d'.data := by
    refine plain_step_tones h hstep hd hm hstop hradio fun r seq hw => ⟨?_, ?_⟩
    · rintro rfl
      exact hk r seq (hw.waits hs hn) rfl
    · rintro request data rfl
      exact hs.not_mem_of_fresh hf.2 (List.mem_map_of_mem hw.mem)
  cases a with
  | loopDispatch env =>
    obtain ⟨-, r, hr, rfl⟩ := step_loop_dispatch.mp hstep
    have hsome : d.data.fmt.data.isSome = true := Option.isSome_iff_ne_none.mpr hgone
    exact dispatch_step_tones h hs hn hc (reachable_taken_handled hd) hr hsome (hk hsome r hr)
  | message env message =>
    have ht : Tones (dispatchMessage env message d.data).2 := message_step_tones h hs hn hc (reachable_tokens hd) hk
    obtain ⟨-, -, ⟨data, he, rfl⟩ | ⟨data, he, rfl⟩⟩ := step_message.mp hstep
    · rwa [he] at ht
    · rw [he] at ht
      exact ht.keeps (.of_op (.client 0 data.fmt.available) trivial data) fun _ _ hw => hw.mem
  | clientError =>
    obtain ⟨-, -, rfl⟩ := step_client_error.mp hstep
    refine (radio_unavailable_tones h hk).keeps ?_ fun _ _ hw => hw.mem
    exact .of_op (.client ((d.data.radioStateUpdate .unavailable).fmt.failures + 1)
      (d.data.radioStateUpdate .unavailable).fmt.available) trivial _
  | clientStop =>
    obtain ⟨-, -, rfl⟩ := step_client_stop.mp hstep
    exact ⟨h.starts, h.played, .gone rfl⟩
  | srs env message =>
    by_cases hu : ∃ state, message = .testSetRadioState state ∧ RilRadioState.ofCode state = .unavailable
    · obtain ⟨state, rfl, hu⟩ := hu
      obtain ⟨-, rfl⟩ := step_srs.mp hstep
      have ht : Tones ({ d.data with env := env } : RilData) := h.keeps (.of_op (.start env none) (by simp [Op.toneless]) _)
        fun _ _ hw => hw.mem
      have hrun : (srsDispatch (.testSetRadioState state) { d.data with env := env }).2 =
          ({ d.data with env := env } : RilData).radioStateUpdate .unavailable := by
        rw [← hu]
        rfl
      dsimp only
      rw [hrun]
      exact radio_unavailable_tones ht (hk hu)
    · refine hplain (by simp) (by simp) (by simp) fun s op hop => ?_
      rcases hop with rfl | ⟨command, -, type, data, rfl⟩ | ⟨state, hm, rfl⟩
      · simp
      · simp
      · exact fun he => hu ⟨state, hm, Op.radio.inj he⟩
  | clientReopen closed opened =>
    refine hplain (by simp) (by simp) (by simp) fun s op hop => ?_
    rcases hop with ⟨rfl, -⟩ | ⟨failures, available, rfl⟩
    · simp
    · simp
  | request request data token => exact hplain (by simp) (by simp) (by simp) fun s op hop => by rw [hop.2]; simp
  | requestSignal | cancel | loopWake | loopStart =>
    exact hplain (by simp) (by simp) (by simp) fun s op hop => by rw [show op = _ from hop]; simp
  | loopEnd => exact hplain (by simp) (by simp) (by simp) fun s op hop => hop.elim

/-- While the stops are answered, the tones are played one after the other, each for its own request. -/
theorem dtmf_protocol (h : Reaches step (fun d a => fresh d a ∧ dtmfKept d a) {} d) : DtmfProtocol d.data := by
  have hreach : Reachable d := h.mono fun _ _ hk => hk.1
  suffices ht : Tones d.data from ⟨reachable_one_handled hreach, ht.starts, ht.played⟩
  induction h with
  | refl => exact ⟨trivial, trivial, .idle ⟨rfl, .inl ⟨rfl, rfl⟩, rfl⟩⟩
  | tail hd hk hstep ih =>
    have hr : Reachable _ := hd.mono fun _ _ hk => hk.1
    exact step_tones (ih hr) hr (registry_invariant Conserved.init (fun _ _ => Conserved.step) hr).2 hk.1 hk.2 hstep

end

def contDtmfAnswer (seq : UInt8) : IpcMessage := ⟨seq, .genPhoneRes, .resp, [0x02, 0x08, 0x03, 0x00, 0x80]⟩

/-- A tone plays, and the one of the second request waits for its stop. -/
def twoTonesRun : List Action :=
  radioOnRun ++ dispatchRun {} .dtmfStart (.string (ascii ['1'])) 2 ++ [.message {} (contDtmfAnswer 0x02)] ++
    dispatchRun {} .dtmfStart (.string (ascii ['2'])) 3

def answersStopCheck (s : RilData) (message : IpcMessage) : Bool :=
  message.command == .genPhoneRes && s.expectFindAseq message.aseq == some (stopExpect message.aseq) &&
    (IpcGenPhoneResData.read message.data).all fun data =>
      data.command == IpcCommand.callContDtmf.code && ipcGenPhoneResCheck data

/-- `dtmfKept`, for runs without cancellations in which the client accepts every stop. -/
def dtmfCheck (d : Daemon) : Action → Bool
  | .cancel _ | .clientError | .srs _ _ => false
  | .loopDispatch env => (List.range 256).all fun q => ({ d.data with env := env } : RilData).clientAccepts
      ⟨UInt8.ofNat q, .callContDtmf, .set, ipcCallContDtmfData ipcCallDtmfStatusStop 0⟩
  | .message _ message => !d.data.fmtExpects.contains (stopExpect message.aseq) || answersStopCheck d.data message
  | _ => true

lemma kept_of_check {d : Daemon} {a : Action} (h : dtmfCheck d a = true) : dtmfKept d a := by
  cases a with
  | cancel | clientError | srs => cases h
  | loopDispatch env =>
    intro _ r _ _ mseq
    have hq := List.all_eq_true.mp h mseq.toNat (List.mem_range.mpr (UInt8.toNat_lt mseq))
    rwa [UInt8.ofNat_toNat] at hq
  | message env message =>
    rintro r ⟨-, -, -, hm, -⟩
    left
    simp only [dtmfCheck, List.contains_iff_mem.mpr hm, Bool.not_true, Bool.false_or, answersStopCheck, Bool.and_eq_true,
      beq_iff_eq] at h
    refine ⟨h.1.1, h.1.2, fun _ data hd => ?_⟩
    have hall := h.2
    rw [hd] at hall
    simpa using hall
  | _ => trivial

/-- The second tone follows the answer to the stop of the first. -/
theorem dtmf_protocol_two_tones : DtmfProtocol (runFrom {} (twoTonesRun ++ [.message {} (contDtmfAnswer 0x03)])).data ∧
    playing (runFrom {} (twoTonesRun ++ [.message {} (contDtmfAnswer 0x03)])).data.trace = true := by
  have hruns : runs (fun d a => freshCheck d a && dtmfCheck d a) {} (twoTonesRun ++ [.message {} (contDtmfAnswer 0x03)]) =
      true := by decide +kernel
  refine ⟨dtmf_protocol (reaches_runFrom hruns fun d a h => ?_), by decide⟩
  rw [Bool.and_eq_true] at h
  exact ⟨fresh_of_check h.1, kept_of_check h.2⟩

/-- The second request is cancelled before its stop is answered. -/
def cancelledToneRun : List Action := twoTonesRun ++ [.cancel 3, .message {} (contDtmfAnswer 0x03)]

/-- The tone of a cancelled request is played. -/
theorem cancelled_tone_played : ∃ d, Reachable d ∧ ¬DtmfProtocol d.data := by
  refine ⟨runFrom {} cancelledToneRun, reachable_runFrom (by decide), fun h => ?_⟩
  have hsent : (runFrom {} cancelledToneRun).data.trace = .sent ⟨0x03, .callContDtmf, .set, [0x01, 0x32]⟩ true ::
      (runFrom {} cancelledToneRun).data.trace.tail := by decide
  have htones := h.tones
  rw [hsent] at htones
  obtain ⟨token, hp⟩ := htones.1 0x03 0x32 rfl
  have howner : ∀ x ∈ taken (runFrom {} cancelledToneRun).data.trace.tail, x.2 = 0x03 → x.1 = some 3 := by decide
  obtain rfl : token = 3 := Option.some.inj (howner _ hp.taken rfl)
  exact hp.cancelled (by decide)

end Ril.Samsung
