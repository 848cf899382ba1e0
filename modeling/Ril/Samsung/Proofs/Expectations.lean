import Ril.Samsung.Proofs.SeqSharing

/-! The generic answers that are expected belong to registered requests whose message was sent. -/

namespace Ril.Samsung

open Ril.Ipc Ril.Lib

/-- The expected message was sent under a seq that the request had taken. -/
def MessageSent (token : RilToken) (e : IpcGenPhoneResExpect) (trace : List Event) : Prop :=
  ∃ later m earlier, trace = later ++ .sent m true :: earlier ∧ m.mseq = e.aseq ∧ m.command = e.command ∧
    (some token, e.aseq) ∈ taken earlier

def Owned (s : RilData) (e : IpcGenPhoneResExpect) : Prop :=
  ∃ r ∈ s.requests, r.status = .handled ∧ MessageSent r.token e s.trace

/-- The expectations of a kind have owners. -/
def Held (P : IpcGenPhoneResExpect → Prop) (s : RilData) : Prop := ∀ e ∈ s.fmtExpects, P e → Owned s e

lemma MessageSent.mono {token : RilToken} {e : IpcGenPhoneResExpect} {trace trace' : List Event}
    (h : MessageSent token e trace) (ht : trace <:+ trace') : MessageSent token e trace' := by
  obtain ⟨later, m, earlier, rfl, hm⟩ := h
  obtain ⟨new, rfl⟩ := ht
  exact ⟨new ++ later, m, earlier, (List.append_assoc _ _ _).symm, hm⟩

lemma MessageSent.taken {token : RilToken} {e : IpcGenPhoneResExpect} {trace : List Event}
    (h : MessageSent token e trace) : (some token, e.aseq) ∈ taken trace := by
  obtain ⟨later, m, earlier, rfl, -, -, ht⟩ := h
  rw [Samsung.taken, List.filterMap_append, List.filterMap_cons]
  exact List.mem_append_right _ ht

section

variable {s t : RilData} {P Q : IpcGenPhoneResExpect → Prop}

lemma Held.weaken (h : Held P s) (hPQ : ∀ e ∈ s.fmtExpects, Q e → P e) : Held Q s :=
  fun e he hq => h e he (hPQ e he hq)

/-- The owners stay owners while they are registered. -/
lemma Held.of_subset (h : Held P s) (he : ∀ e ∈ t.fmtExpects, e ∈ s.fmtExpects) (ht : s.trace <:+ t.trace)
    (hr : ∀ r ∈ s.requests, r.status = .handled → ∀ e ∈ t.fmtExpects, P e → MessageSent r.token e s.trace →
      ∃ r' ∈ t.requests, r'.token = r.token ∧ r'.status = .handled) : Held P t := by
  intro e hm hp
  obtain ⟨r, hrm, hh, hs⟩ := h e (he e hm) hp
  obtain ⟨r', hr', hk, hh'⟩ := hr r hrm hh e hm hp hs
  exact ⟨r', hr', hh', hk ▸ hs.mono ht⟩

lemma Held.of_eq (h : Held P s) (he : t.fmtExpects = s.fmtExpects) (hr : t.requests = s.requests)
    (ht : s.trace <:+ t.trace) : Held P t :=
  h.of_subset (fun _ hm => he ▸ hm) ht fun r hrm hh _ _ _ _ => ⟨r, hr ▸ hrm, rfl, hh⟩

lemma seq_of_taken (hs : Synced s) (hn : Numbered s) {r : RilRequest} (hr : r ∈ s.requests) {seq : UInt8}
    (ht : (some r.token, seq) ∈ taken s.trace) (hd : s.fmt.data.isSome = true) :
    ∃ f ∈ s.fmtRequests, f.token = r.token ∧ f.seq = seq ∧ seq ≠ 0xff := by
  obtain ⟨d, hd⟩ := Option.isSome_iff_exists.mp hd
  obtain ⟨f, hf⟩ := fmt_find_token hs (List.mem_map_of_mem hr) hd
  obtain ⟨hm, hk⟩ := fmt_find_token_mem hf
  obtain ⟨q, hq⟩ := RilData.seqState_of_mem hm
  rcases hn.requests _ q hq f hm with ⟨-, hnot⟩ | ha
  · exact absurd (hk ▸ ht) (hnot seq)
  · have hseq := ha.once seq (hk ▸ ht)
    refine ⟨f, hm, hk, hseq.symm, fun h0 => ?_⟩
    have hle := ha.le
    rw [← hseq, h0] at hle
    exact absurd hle (by decide)

lemma data_of_expect {e : IpcGenPhoneResExpect} (he : e ∈ s.fmtExpects) : s.fmt.data.isSome = true := by
  cases hd : s.fmt.data with
  | none => simp [RilData.fmtExpects, hd] at he
  | some d => rfl

end

/-! ### The operations -/

namespace RilData

lemma modifyFmt_fmtExpects (s : RilData) {f : IpcFmtData → IpcFmtData}
    (hf : ∀ d, (f d).genPhoneResExpect = d.genPhoneResExpect) : (s.modifyFmt f).fmtExpects = s.fmtExpects := by
  cases hd : s.fmt.data with
  | none => simp [fmtExpects, modifyFmt, hd]
  | some d => simp [fmtExpects, modifyFmt, hd, hf]

lemma ipcFmtSeq_fmtExpects (s : RilData) (owner : Option RilToken) :
    (s.ipcFmtSeq owner).2.fmtExpects = s.fmtExpects := by
  rw [ipcFmtSeq]
  split
  · rfl
  · exact modifyFmt_fmtExpects s fun _ => rfl

lemma ipcFmtRequestSeq_fmtExpects (s : RilData) (token : RilToken) :
    (s.ipcFmtRequestSeq token).2.fmtExpects = s.fmtExpects := by
  rw [ipcFmtRequestSeq]
  split
  · rfl
  · split
    · have h (t : RilData) (q : UInt8) : (t.fmtRequestSetSeq token q).fmtExpects = t.fmtExpects :=
        modifyFmt_fmtExpects t fun _ => rfl
      exact (h _ _).trans (ipcFmtSeq_fmtExpects s _)
    · rfl

lemma expectSend_none_fmtExpects (s : RilData) (mseq : UInt8) (command : IpcCommand) (type : IpcRequestType)
    (data : Bytes) : (expectSend none mseq command type data s).2.fmtExpects = s.fmtExpects := by
  rw [expectSend_apply]
  split
  · rfl
  · rfl

lemma requestUnregister_fmtExpects (s : RilData) (token : RilToken) :
    (s.requestUnregister token).fmtExpects = s.fmtExpects := by
  rw [requestUnregister]
  split
  · rfl
  · exact modifyFmt_fmtExpects s fun _ => rfl

lemma expectUnregister_fmtExpects (s : RilData) (aseq : UInt8) :
    (s.expectUnregister aseq).fmtExpects = s.fmtExpects.eraseP (·.aseq == aseq) := by
  cases hd : s.fmt.data with
  | none => simp [fmtExpects, expectUnregister, modifyFmt, hd]
  | some d => simp [fmtExpects, expectUnregister, modifyFmt, hd]

lemma expectSend_some_fmtExpects (s : RilData) (kind : ExpectKind) (mseq : UInt8) (command : IpcCommand)
    (type : IpcRequestType) (data : Bytes) (hd : s.fmt.data.isSome = true) :
    (expectSend (some kind) mseq command type data s).2.fmtExpects = s.fmtExpects ++ [kind.entry mseq command] := by
  obtain ⟨d, hd⟩ := Option.isSome_iff_exists.mp hd
  rw [expectSend_apply, if_neg (by simp [hd])]
  simp [fmtExpects, expected, expectRegister, modifyFmt, log, hd]

lemma radioOff_lists (s : RilData) : s.radioOff.requests = s.requests ∧ s.radioOff.fmt = s.fmt := by
  have h := eq_of_withoutConnections (flush_from_withoutConnections s.dataConnections s)
  rw [radioOff, dataConnectionFlush, h]
  exact ⟨rfl, rfl⟩

lemma radioStateUpdate_lists {radioState : RilRadioState} (h : radioState ≠ .unavailable) (s : RilData) :
    (s.radioStateUpdate radioState).requests = s.requests ∧ (s.radioStateUpdate radioState).fmt = s.fmt := by
  rw [radioStateUpdate]
  split
  · exact ⟨rfl, rfl⟩
  · split
    · exact absurd rfl h
    · exact radioOff_lists _
    · exact ⟨rfl, rfl⟩

lemma fmtExpects_of_fmt {s t : RilData} (h : t.fmt = s.fmt) : t.fmtExpects = s.fmtExpects := by
  rw [fmtExpects, fmtExpects, h]

lemma fmtRequests_of_fmt {s t : RilData} (h : t.fmt = s.fmt) : t.fmtRequests = s.fmtRequests := by
  rw [fmtRequests, fmtRequests, h]

lemma ipcFmtFlush_fmtExpects (s : RilData) : s.ipcFmtFlush.fmtExpects = [] := by
  cases hd : s.fmt.data with
  | none => simp [fmtExpects, ipcFmtFlush, modifyFmt, hd]
  | some d => simp [fmtExpects, ipcFmtFlush, modifyFmt, hd]

end RilData

section

variable {s : RilData} {P : IpcGenPhoneResExpect → Prop}

lemma op_suffix (op : Op) (s : RilData) : s.trace <:+ (op.exec s).trace := (op_logged op s).suffix

lemma radio_held (h : Held P s) (radioState : RilRadioState) : Held P (s.radioStateUpdate radioState) := by
  by_cases hu : radioState = .unavailable
  · subst hu
    rw [RilData.radioStateUpdate]
    split
    · exact h
    · intro e he
      rw [RilData.fmtExpects_of_fmt (RilData.radioOff_lists _).2, RilData.radioUnavailable,
        RilData.ipcFmtFlush_fmtExpects] at he
      exact absurd he List.not_mem_nil
  · obtain ⟨hr, hf⟩ := RilData.radioStateUpdate_lists hu s
    exact h.of_eq (RilData.fmtExpects_of_fmt hf) hr (op_suffix (.radio radioState) s)

/-- A message that is sent with an expectation belongs to the request that is to own it. -/
lemma sent_owned {t : RilData} {token : RilToken} {kind : ExpectKind} {mseq : UInt8} {command : IpcCommand}
    {type : IpcRequestType} {data : Bytes} (h : (expectSend (some kind) mseq command type data s).1 = true)
    (ht : t = (expectSend (some kind) mseq command type data s).2) (hk : (some token, mseq) ∈ taken s.trace) :
    t.fmtExpects = s.fmtExpects ++ [kind.entry mseq command] ∧
      MessageSent token (kind.entry mseq command) t.trace := by
  subst ht
  have hd : s.fmt.data.isSome = true := by
    cases hd : s.fmt.data with
    | none =>
      rw [RilData.expectSend_apply, if_pos ⟨rfl, hd⟩] at h
      cases h
    | some d => rfl
  refine ⟨RilData.expectSend_some_fmtExpects s kind mseq command type data hd, ?_⟩
  have hn : ¬((some kind).isSome = true ∧ s.fmt.data = none) := fun hx => by simp [hx.2] at hd
  rw [RilData.expectSend_apply, if_neg hn] at h ⊢
  have ha : s.clientAccepts ⟨mseq, command, type, data⟩ = true := h
  refine ⟨[], ⟨mseq, command, type, data⟩, s.trace, ?_, ?_, ?_, ?_⟩
  · dsimp only
    rw [ha]
    rfl
  · cases kind <;> rfl
  · cases kind <;> rfl
  · cases kind <;> exact hk

end

/-! ### The dispatch of a request -/

/-- What decides whether the client takes a message. -/
def RilData.acceptView (s : RilData) : Bool × Bool × (IpcRequest → Bool) :=
  (s.fmt.data.isSome, s.fmt.available, s.env.clientSend)

section

variable {F : Footprint} {s t : RilData} {op : Op} {token : RilToken}

lemma accepts_of_view (h : t.acceptView = s.acceptView) (m : IpcRequest) : t.clientAccepts m = s.clientAccepts m := by
  obtain ⟨h1, h2⟩ := Prod.mk.inj h
  obtain ⟨h2, h3⟩ := Prod.mk.inj h2
  rw [RilData.clientAccepts, RilData.clientAccepts, h1, h2, h3]

lemma modify_fmt_accept (s : RilData) (f : IpcFmtData → IpcFmtData) : (s.modifyFmt f).acceptView = s.acceptView := by
  simp [RilData.acceptView, RilData.modifyFmt]

lemma seq_accept (s : RilData) (owner : Option RilToken) : (s.ipcFmtSeq owner).2.acceptView = s.acceptView := by
  rw [RilData.ipcFmtSeq]
  split
  · rfl
  · exact modify_fmt_accept s _

lemma request_seq_accept (s : RilData) (token : RilToken) :
    (s.ipcFmtRequestSeq token).2.acceptView = s.acceptView := by
  rw [RilData.ipcFmtRequestSeq]
  split
  · rfl
  · split
    · exact (modify_fmt_accept _ _).trans (seq_accept s _)
    · rfl

lemma expect_send_accept (s : RilData) (expect : Option ExpectKind) (mseq : UInt8) (command : IpcCommand)
    (type : IpcRequestType) (data : Bytes) :
    (expectSend expect mseq command type data s).2.acceptView = s.acceptView := by
  rw [RilData.expectSend_apply]
  split
  · rfl
  · cases expect with
    | none => rfl
    | some kind => exact modify_fmt_accept s _

lemma QuietOp.fmtExpects (h : QuietOp F op) (s : RilData) : (op.exec s).fmtExpects = s.fmtExpects := by
  cases op with
  | dataSet request value =>
    simp only [Op.exec, RilData.requestDataSet]
    split <;> rfl
  | simIccType | hsdpaStatus | svcSession => exact RilData.modifyFmt_fmtExpects s fun _ => rfl
  | unsolicited | dataFree | dataDrop | pinCache | connections => rfl
  | _ => exact h.elim

lemma QuietOp.acceptView (h : QuietOp F op) (s : RilData) : (op.exec s).acceptView = s.acceptView := by
  cases op with
  | dataSet request value =>
    simp only [Op.exec, RilData.requestDataSet]
    split <;> rfl
  | simIccType | hsdpaStatus | svcSession => exact modify_fmt_accept s _
  | unsolicited | dataFree | dataDrop | pinCache | connections => rfl
  | _ => exact h.elim

lemma RequestOp.acceptView {sent : Bool} (h : RequestOp F token sent s op) :
    (op.exec s).acceptView = s.acceptView := by
  rcases h.cases with rfl | ⟨expect, command, type, data, rfl, -⟩ | hq
  · exact request_seq_accept s token
  · exact (expect_send_accept _ expect _ command type data).trans (request_seq_accept s token)
  · exact hq.acceptView s

/-- The messages with an expectation that the footprint allows are accepted, or nothing is registered. -/
def Accepts (F : Footprint) (s : RilData) : Prop :=
  ∀ kind command type, (some kind, command, type) ∈ F.messages → s.fmt.data.isSome = true →
    ∀ mseq data, s.clientAccepts ⟨mseq, command, type, data⟩ = true

lemma Accepts.of_view (h : Accepts F s) (hv : t.acceptView = s.acceptView) : Accepts F t := by
  intro kind command type hm hd mseq data
  rw [accepts_of_view hv]
  exact h kind command type hm ((congrArg Prod.fst hv).symm.trans hd) mseq data

lemma request_path_suffix {sent : Bool} (hp : RequestPath F token sent s t) : s.trace <:+ t.trace := by
  induction hp with
  | refl => exact List.suffix_rfl
  | @tail u _ _ ht ih =>
    obtain ⟨op, -, rfl⟩ := ht
    exact ih.trans (op_suffix op u)

/-- What is registered in the dispatch of a request was sent for it. -/
lemma request_op_held {sent : Bool} (hs : Synced s) (hn : Numbered s) (hm : token ∈ s.tokens)
    (ha : sent = true ∨ Accepts F s) (hop : RequestOp F token sent s op) :
    (∀ e ∈ (op.exec s).fmtExpects, e ∈ s.fmtExpects ∨ sent = true ∧ MessageSent token e (op.exec s).trace) := by
  rcases hop.cases with rfl | ⟨expect, command, type, data, rfl, hmem, hsent⟩ | hq
  · intro e he
    exact .inl (RilData.ipcFmtRequestSeq_fmtExpects s token ▸ he)
  · have ht : transmit (.request token) expect command type data s =
        expectSend expect (s.ipcFmtRequestSeq token).1 command type data (s.ipcFmtRequestSeq token).2 := rfl
    have hold := RilData.ipcFmtRequestSeq_fmtExpects s token
    have hview := request_seq_accept s token
    have hd : (s.ipcFmtRequestSeq token).2.fmt.data.isSome = s.fmt.data.isSome := congrArg Prod.fst hview
    simp only [Op.exec, ht]
    rw [ht] at hsent
    cases expect with
    | none =>
      intro e he
      rw [RilData.expectSend_none_fmtExpects, hold] at he
      exact .inl he
    | some kind =>
      cases hdata : s.fmt.data.isSome with
      | false =>
        intro e he
        rw [hdata, Option.isSome_eq_false_iff, Option.isNone_iff_eq_none] at hd
        rw [RilData.expectSend_apply, if_pos ⟨rfl, hd⟩, hold] at he
        exact .inl he
      | true =>
        have htrue : sent = true := by
          rcases ha with ha | ha
          · exact ha
          · have hacc := ha.of_view hview kind command type hmem (hd.trans hdata) (s.ipcFmtRequestSeq token).1 data
            rw [← hsent, RilData.expectSend_apply, if_neg (fun hx => by rw [hx.2] at hd; rw [hdata] at hd; cases hd)]
            exact hacc
        obtain ⟨he, hms⟩ := sent_owned (hsent.trans htrue) rfl (request_seq_taken hs hn hm hdata)
        intro e hem
        rw [he, hold, List.mem_append, List.mem_singleton] at hem
        rcases hem with hem | rfl
        · exact .inl hem
        · exact .inr ⟨htrue, hms⟩
  · intro e he
    exact .inl (hq.fmtExpects s ▸ he)

lemma request_path_held {sent : Bool} (hp : RequestPath F token sent s t) (hs : Synced s) (hn : Numbered s)
    (hm : token ∈ s.tokens) (ha : sent = true ∨ Accepts F s) :
    ∀ e ∈ t.fmtExpects, e ∈ s.fmtExpects ∨ sent = true ∧ MessageSent token e t.trace := by
  have hall : Synced t ∧ Numbered t ∧ token ∈ t.tokens ∧ t.acceptView = s.acceptView ∧
      ∀ e ∈ t.fmtExpects, e ∈ s.fmtExpects ∨ sent = true ∧ MessageSent token e t.trace := by
    induction hp with
    | refl => exact ⟨hs, hn, hm, rfl, fun e he => .inl he⟩
    | @tail u _ _ ht ih =>
      obtain ⟨op, hop, rfl⟩ := ht
      obtain ⟨hs', hn', hm', hv, he⟩ := ih
      have hsuffix := op_suffix op u
      refine ⟨hs'.keeps hop.keeps, hn'.step hs' (request_op_seq_step hop) hsuffix, ?_, hop.acceptView.trans hv, ?_⟩
      · rw [RilData.tokens, hop.requests]
        exact hm'
      · intro e hem
        rcases request_op_held hs' hn' hm' (ha.imp_right fun h => h.of_view hv) hop e hem with h | h
        · exact (he e h).imp_right fun h => ⟨h.1, h.2.mono hsuffix⟩
        · exact .inr h
  exact hall.2.2.2.2

end

/-! ### The end of a request -/

section

variable {s : RilData} {P : IpcGenPhoneResExpect → Prop} {token : RilToken}

/-- A request that owns no expectation of the kind can be released. -/
lemma Held.unregister (h : Held P s) (hn : s.tokens.Nodup)
    (hu : ∀ r ∈ s.requests, r.status = .handled → r.token = token → ∀ e ∈ s.fmtExpects, P e →
      ¬MessageSent token e s.trace) : Held P (s.requestUnregister token) := by
  cases hf : s.requestFindToken token with
  | none =>
    rw [RilData.requestUnregister, hf]
    exact h
  | some r₀ =>
    refine h.of_subset (fun e he => RilData.requestUnregister_fmtExpects s token ▸ he)
      (unregister_trace s token ▸ List.suffix_rfl) ?_
    intro r hr hh e he hp hsent
    rw [RilData.requestUnregister_fmtExpects] at he
    have hne : r.token ≠ token := fun hk => hu r hr hh hk e he hp (hk ▸ hsent)
    exact ⟨r, (mem_unregister hn hf).mpr ⟨hr, hne⟩, rfl, hh⟩

lemma Held.complete (h : Held P s) (hn : s.tokens.Nodup)
    (hu : ∀ r ∈ s.requests, r.status = .handled → r.token = token → ∀ e ∈ s.fmtExpects, P e →
      ¬MessageSent token e s.trace) (error : RilErrno) (response : RilResponse) :
    Held P (s.requestComplete token error response) := by
  rw [RilData.requestComplete]
  split
  · exact h
  · exact (h.unregister hn hu).of_eq rfl rfl (List.suffix_cons _ _)

lemma Held.cancel (h : Held P s) (hn : s.tokens.Nodup)
    (hu : ∀ r ∈ s.requests, r.status = .handled → r.token = token → ∀ e ∈ s.fmtExpects, P e →
      ¬MessageSent token e s.trace) : Held P (rilOnCancel token s) := by
  rw [rilOnCancel]
  split
  · exact h
  · exact (h.unregister hn hu).of_eq rfl rfl (List.suffix_cons _ _)

/-- The request owns no expectation when none has its seq. -/
lemma not_sent_of_seq (hs : Synced s) (hn : Numbered s)
    (hu : ∀ f ∈ s.fmtRequests, f.token = token → ∀ e ∈ s.fmtExpects, P e → e.aseq ≠ f.seq) :
    ∀ r ∈ s.requests, r.status = .handled → r.token = token → ∀ e ∈ s.fmtExpects, P e →
      ¬MessageSent token e s.trace := by
  rintro r hr - rfl e he hp hsent
  obtain ⟨f, hf, hk, hq, -⟩ := seq_of_taken hs hn hr hsent.taken (data_of_expect he)
  exact hu f hf hk e he hp hq.symm

end

section

variable {s : RilData} {r : RilRequest}

lemma Held.setStatus {P : IpcGenPhoneResExpect → Prop} (h : Held P s) {token : RilToken} {status : RilRequestStatus}
    (hne : ∀ r ∈ s.requests, r.status = .handled → r.token = token → status = .handled) :
    Held P (s.requestSetStatus token status) := by
  refine h.of_subset (fun _ he => he) List.suffix_rfl ?_
  intro r hr hh _ _ _ _
  refine ⟨if r.token == token then { r with status } else r, List.mem_map_of_mem hr, ?_, ?_⟩
  · split <;> rfl
  · split
    · exact hne r hr hh (by simpa using ‹(r.token == token) = true›)
    · exact hh

/-- The dispatch of a request whose messages are accepted. -/
lemma dispatch_held (hs : Synced s) (hn : Numbered s) (h : Held (fun _ => True) s) {env : Env}
    (hr : s.requestFindStatus .pending = some r) (ha : Accepts r.request.footprint { s with env := env }) :
    Held (fun _ => True) (dispatchRequest env r s) := by
  have hmem : r ∈ s.requests := List.mem_of_find?_eq_some hr
  have hpending : r.status = .pending := by simpa using List.find?_some hr
  have hother : ∀ r' ∈ s.requests, r'.status = .handled → r'.token ≠ r.token := by
    intro r' hr' hh hk
    obtain rfl := List.inj_on_of_nodup_map hs.nodup hr' hmem hk
    rw [hpending] at hh
    cases hh
  have hs₁ := hs.keeps (started_keeps s env (e := .dispatched r.token) rfl)
  have hn₁ : Numbered (s.started env (.dispatched r.token)) :=
    hn.step hs (.of_eq rfl rfl) (List.suffix_cons _ _)
  have hm : r.token ∈ (s.started env (.dispatched r.token)).tokens := List.mem_map_of_mem hmem
  have h₁ : Held (fun _ => True) (s.started env (.dispatched r.token)) := h.of_eq rfl rfl (List.suffix_cons _ _)
  rcases dispatch_cases env r s with ⟨he, -⟩ | ⟨s', hp, he⟩ | ⟨s', error, response, hp, he⟩
  · rw [he]
    exact h₁.setStatus fun r' hr' hh hk => absurd hk (hother r' hr' hh)
  · have hreq : s'.requests = s.requests := (Path.frame (f := RilData.requests) hp fun _ _ h => h.requests).trans rfl
    have hnew := request_path_held hp hs₁ hn₁ hm (.inl rfl)
    rw [he]
    intro e hem _
    rcases hnew e hem with hold | ⟨-, hsent⟩
    · obtain ⟨r', hr', hh, hsent⟩ := h₁ e hold trivial
      have hne : (r'.token == r.token) = false := beq_false_of_ne (hother r' hr' hh)
      have hsuffix := request_path_suffix hp
      exact ⟨r', List.mem_map.mpr ⟨r', hreq ▸ hr', by simp [hne]⟩, hh, hsent.mono hsuffix⟩
    · exact ⟨{ r with status := .handled }, List.mem_map.mpr ⟨r, hreq ▸ hmem, by simp⟩, rfl, hsent⟩
  · have hreq : s'.requests = s.requests := (Path.frame (f := RilData.requests) hp fun _ _ h => h.requests).trans rfl
    have hnew := request_path_held hp hs₁ hn₁ hm (.inr (ha.of_view rfl))
    have h' : Held (fun _ => True) s' := h₁.of_subset
      (fun e hem => (hnew e hem).resolve_right fun h => Bool.false_ne_true h.1) (request_path_suffix hp)
      fun r' hr' hh _ _ _ _ => ⟨r', hreq ▸ hr', rfl, hh⟩
    rw [he]
    refine h'.complete ?_ ?_ error response
    · rw [RilData.tokens, hreq]
      exact hs.nodup
    · intro r' hr' hh hk
      exact absurd hk (hother r' (hreq ▸ hr') hh)

end

/-! ### The messages that send nothing with an expectation -/

/-- The footprint without the messages that ask for a generic answer. -/
def Footprint.mute (F : Footprint) : Footprint := { F with messages := F.messages.filter (·.1.isNone) }

lemma Footprint.mem_mute {F : Footprint} {command : IpcCommand} {type : IpcRequestType}
    (h : (none, command, type) ∈ F.messages) : (none, command, type) ∈ F.mute.messages :=
  List.mem_filter.mpr ⟨h, rfl⟩

lemma Footprint.not_mem_mute {F : Footprint} {kind : ExpectKind} {command : IpcCommand} {type : IpcRequestType} :
    (some kind, command, type) ∉ F.mute.messages := fun h => by simpa using (List.mem_filter.mp h).2

/-- The requests that the handler of a message may complete. -/
def Answers (F : Footprint) (message : IpcMessage) (s : RilData) (token : RilToken) : Prop :=
  F.replies = true ∧ (∃ f ∈ s.fmtRequests, f.token = token ∧ f.seq = message.aseq) ∨
    ∃ r ∈ s.requests, r.token = token ∧ (r.status = .handled ∧ r.request ∈ F.handled ∨ token ∈ F.tokens)

/-- The lists only lose entries. -/
structure Shrinks (s t : RilData) : Prop where
  requests : ∀ r ∈ t.requests, r ∈ s.requests
  fmtRequests : ∀ f ∈ t.fmtRequests, f ∈ s.fmtRequests
  fmtExpects : t.fmtExpects.Sublist s.fmtExpects

section

variable {s t u : RilData} {F : Footprint} {message : IpcMessage} {op : Op} {token : RilToken}

namespace Shrinks

lemma refl (s : RilData) : Shrinks s s := ⟨fun _ h => h, fun _ h => h, .refl _⟩

lemma trans (h : Shrinks s t) (h' : Shrinks t u) : Shrinks s u :=
  ⟨fun r hr => h.requests r (h'.requests r hr), fun f hf => h.fmtRequests f (h'.fmtRequests f hf),
    h'.fmtExpects.trans h.fmtExpects⟩

lemma of_eq (hr : t.requests = s.requests) (hf : t.fmtRequests = s.fmtRequests) (he : t.fmtExpects = s.fmtExpects) :
    Shrinks s t := ⟨fun _ h => hr ▸ h, fun _ h => hf ▸ h, he ▸ .refl _⟩

lemma unregister (s : RilData) (token : RilToken) : Shrinks s (s.requestUnregister token) := by
  refine ⟨fun r hr => mem_of_unregister hr, ?_, RilData.requestUnregister_fmtExpects s token ▸ .refl _⟩
  intro f hf
  obtain ⟨q, hq⟩ := RilData.seqState_of_mem hf
  obtain ⟨rs, hrs, hsub⟩ := unregister_seqState s token _ q hq
  rw [RilData.fmtRequests_of_seqState hrs]
  exact hsub.subset hf

lemma complete (s : RilData) (token : RilToken) (error : RilErrno) (response : RilResponse) :
    Shrinks s (s.requestComplete token error response) := by
  rw [RilData.requestComplete]
  split
  · exact .refl s
  · exact (unregister s token).trans (.of_eq rfl rfl rfl)

end Shrinks

lemma message_op_shrinks (h : MessageOp F.mute message s op) : Shrinks s (op.exec s) := by
  rcases h.cases with ⟨token, error, response, rfl, -⟩ | rfl | ⟨radioState, rfl, hu, -⟩ | h
  · exact .complete s token error response
  · have hr : (s.expectUnregister message.aseq).fmtRequests = s.fmtRequests :=
      RilData.modifyFmt_fmtRequests s fun _ => rfl
    refine ⟨fun _ h => h, fun _ h => hr ▸ h, ?_⟩
    exact RilData.expectUnregister_fmtExpects s message.aseq ▸ List.eraseP_sublist
  · obtain ⟨hr, hf⟩ := RilData.radioStateUpdate_lists hu s
    exact .of_eq hr (RilData.fmtRequests_of_fmt hf) (RilData.fmtExpects_of_fmt hf)
  · refine .of_eq (h.requests s) (h.fmtRequests s) ?_
    rcases h.cases with ⟨q, expect, command, type, data, rfl, -, hm⟩ | ⟨token, rfl⟩ | hq
    · cases expect with
      | none => exact RilData.expectSend_none_fmtExpects s q command type data
      | some kind => exact absurd hm Footprint.not_mem_mute
    · rfl
    · exact hq.fmtExpects s

/-- The handlers that send nothing with an expectation keep the owners of the expectations whose seqs they do
not complete. -/
lemma mute_path_held {P : IpcGenPhoneResExpect → Prop} (hp : MessagePath F.mute message s t) (hs : Synced s)
    (hn : Numbered s) (h : Held P s)
    (hu : ∀ token, Answers F message s token → ∀ f ∈ s.fmtRequests, f.token = token → ∀ e ∈ s.fmtExpects, P e →
      e.aseq ≠ f.seq) : Held P t ∧ Shrinks s t := by
  suffices hall : Synced t ∧ Numbered t ∧ Held P t ∧ Shrinks s t from hall.2.2
  induction hp with
  | refl => exact ⟨hs, hn, h, .refl s⟩
  | @tail u _ _ ht ih =>
    obtain ⟨op, hop, rfl⟩ := ht
    obtain ⟨hs', hn', h', hk⟩ := ih
    have hsuffix := op_suffix op u
    have hshrinks := message_op_shrinks hop
    refine ⟨hs'.step (message_op_registry hs' hop), hn'.step hs' (message_op_seq_step hop) hsuffix, ?_,
      hk.trans hshrinks⟩
    rcases hop.cases with ⟨token, error, response, rfl, ht⟩ | rfl | ⟨radioState, rfl, -⟩ | hq
    · by_cases h0 : token = 0
      · simp only [Op.exec, RilData.requestComplete, if_pos h0]
        exact h'
      · refine h'.complete hs'.nodup (not_sent_of_seq hs' hn' ?_) error response
        intro f hf hft e he
        refine hu token ?_ f (hk.fmtRequests f hf) hft e (hk.fmtExpects.subset he)
        rcases ht with ⟨hr, ht⟩ | ⟨r, hr, hrt, ht⟩
        · refine .inl ⟨hr, ?_⟩
          rw [RilData.ipcFmtRequestToken] at ht
          cases hfind : u.fmtRequestFindSeq message.aseq with
          | none =>
            rw [hfind] at ht
            exact absurd ht h0
          | some f' =>
            rw [hfind] at ht
            obtain ⟨hf', hq'⟩ := find_seq_mem hfind
            exact ⟨f', hk.fmtRequests f' hf', ht.symm, hq'⟩
        · exact .inr ⟨r, hk.requests r hr, hrt, ht⟩
    · exact h'.of_subset (fun e he => hshrinks.fmtExpects.subset he) hsuffix fun r hr hh _ _ _ _ => ⟨r, hr, rfl, hh⟩
    · exact radio_held h' radioState
    · exact h'.of_subset (fun e he => hshrinks.fmtExpects.subset he) hsuffix
        fun r hr hh _ _ _ _ => ⟨r, hq.requests u ▸ hr, rfl, hh⟩

end

/-! ### The messages that are sent under the seq of an answer -/

/-- What is sent under the seq of the answer, and what concerns no request. -/
def AnswerOp (F : Footprint) (aseq : UInt8) : Op → Prop
  | .transmit sender expect command type _ => sender = .reply aseq ∧ (expect, command, type) ∈ F.messages
  | op => QuietOp F op

abbrev AnswerPath (F : Footprint) (aseq : UInt8) : RilData → RilData → Prop := Path Op.exec (fun _ => AnswerOp F aseq)

section

variable {s t : RilData} {F : Footprint} {aseq : UInt8} {op : Op}

lemma QuietOp.answer (h : QuietOp F op) (aseq : UInt8) : AnswerOp F aseq op := by
  cases op <;> first | exact h | exact h.elim

lemma AnswerOp.cases (h : AnswerOp F aseq op) :
    (∃ expect command type data, op = .transmit (.reply aseq) expect command type data ∧
      (expect, command, type) ∈ F.messages) ∨ QuietOp F op := by
  cases op with
  | transmit sender expect command type data =>
    obtain ⟨rfl, hm⟩ := h
    exact .inl ⟨expect, command, type, data, rfl, hm⟩
  | _ => exact .inr h

lemma AnswerOp.requests (h : AnswerOp F aseq op) (s : RilData) : (op.exec s).requests = s.requests := by
  rcases h.cases with ⟨expect, command, type, data, rfl, -⟩ | hq
  · exact RilData.expectSend_requests s expect aseq command type data
  · exact hq.requests s

lemma AnswerOp.acceptView (h : AnswerOp F aseq op) (s : RilData) : (op.exec s).acceptView = s.acceptView := by
  rcases h.cases with ⟨expect, command, type, data, rfl, -⟩ | hq
  · exact expect_send_accept s expect aseq command type data
  · exact hq.acceptView s

/-- The request that has taken the seq of the answer owns what is sent under it. -/
lemma answer_op_held {P : IpcGenPhoneResExpect → Prop} (h : Held P s) (ha : Accepts F s) {r : RilRequest}
    (hr : r ∈ s.requests) (hh : r.status = .handled) (ht : (some r.token, aseq) ∈ taken s.trace)
    (hop : AnswerOp F aseq op) : Held P (op.exec s) := by
  have hsuffix := op_suffix op s
  rcases hop.cases with ⟨expect, command, type, data, rfl, hm⟩ | hq
  · have hrun : (Op.transmit (.reply aseq) expect command type data).exec s =
        (expectSend expect aseq command type data s).2 := rfl
    cases expect with
    | none =>
      exact h.of_eq (RilData.expectSend_none_fmtExpects s aseq command type data)
        (RilData.expectSend_requests s none aseq command type data) hsuffix
    | some kind =>
      rw [hrun] at hsuffix ⊢
      cases hd : s.fmt.data.isSome with
      | false =>
        rw [Option.isSome_eq_false_iff, Option.isNone_iff_eq_none] at hd
        rw [RilData.expectSend_apply, if_pos ⟨rfl, hd⟩]
        exact h
      | true =>
        have hsent : (expectSend (some kind) aseq command type data s).1 = true := by
          rw [RilData.expectSend_apply, if_neg (fun hx => by simp [hx.2] at hd)]
          exact ha kind command type hm hd aseq data
        obtain ⟨he, hms⟩ := sent_owned hsent rfl ht
        have hreq := RilData.expectSend_requests s (some kind) aseq command type data
        intro e hem hpe
        rw [he, List.mem_append, List.mem_singleton] at hem
        rcases hem with hem | rfl
        · obtain ⟨r', hr', hh', hs'⟩ := h e hem hpe
          exact ⟨r', hreq ▸ hr', hh', hs'.mono hsuffix⟩
        · exact ⟨r, hreq ▸ hr, hh, hms⟩
  · exact h.of_eq (hq.fmtExpects s) (hq.requests s) hsuffix

lemma answer_path_held {P : IpcGenPhoneResExpect → Prop} (hp : AnswerPath F aseq s t) (h : Held P s)
    (ha : Accepts F s) {r : RilRequest} (hr : r ∈ s.requests) (hh : r.status = .handled)
    (ht : (some r.token, aseq) ∈ taken s.trace) : Held P t := by
  suffices hall : Held P t ∧ t.requests = s.requests ∧ t.acceptView = s.acceptView ∧
      (some r.token, aseq) ∈ taken t.trace from hall.1
  induction hp with
  | refl => exact ⟨h, rfl, rfl, ht⟩
  | @tail u _ _ hd ih =>
    obtain ⟨op, hop, rfl⟩ := hd
    obtain ⟨h', hr', hv, ht'⟩ := ih
    have hsuffix := op_suffix op u
    refine ⟨answer_op_held h' (ha.of_view hv) (hr' ▸ hr) hh ht' hop, (AnswerOp.requests hop u).trans hr',
      (AnswerOp.acceptView hop u).trans hv, ?_⟩
    exact (hsuffix.filterMap Event.taken).subset ht'

end

end Ril.Samsung
