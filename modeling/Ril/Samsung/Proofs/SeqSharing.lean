import Ril.Samsung.Spec.Events
import Ril.Samsung.Spec.Seqs

/-! Which requests share a seq, and to which request an answer is attributed. -/

namespace Ril.Samsung

open Ril.Ipc Ril.Lib Relation

section

variable {s : RilData}

lemma fmt_allocated (h : Numbered s) {r : IpcFmtRequest} (hr : r ∈ s.fmtRequests) (h0 : r.seq ≠ 0xff) :
    ∃ q, s.seqState = some (s.fmtRequests, q) ∧ Allocated r q s.trace := by
  obtain ⟨q, hq⟩ := RilData.seqState_of_mem hr
  rcases h.requests _ q hq r hr with ⟨hr0, -⟩ | ha
  · exact absurd hr0 h0
  · exact ⟨q, hq, ha⟩

lemma seq_taken (h : Numbered s) {r : IpcFmtRequest} (hr : r ∈ s.fmtRequests) (h0 : r.seq ≠ 0xff) :
    (some r.token, r.seq) ∈ taken s.trace := by
  obtain ⟨q, -, ha⟩ := fmt_allocated h hr h0
  exact List.mem_of_getElem? ha.get

lemma seq_eq_iff (h : Numbered s) {r r' : IpcFmtRequest} (hr : r ∈ s.fmtRequests) (hr' : r' ∈ s.fmtRequests)
    (h0 : r.seq ≠ 0xff) (h0' : r'.seq ≠ 0xff) :
    r.seq = r'.seq ↔ age r.token s.trace ≡ age r'.token s.trace [MOD 254] := by
  obtain ⟨q, hq, ha⟩ := fmt_allocated h hr h0
  obtain ⟨q', hq', ha'⟩ := fmt_allocated h hr' h0'
  obtain rfl : q = q' := congrArg Prod.snd (Option.some.inj (hq.symm.trans hq'))
  rw [← UInt8.toNat_inj]
  exact cyclicNext_eq_iff ha.pos ha.le ha'.pos ha'.le (ha.counter.trans ha'.counter.symm)

lemma token_of_age (h : Numbered s) {r r' : IpcFmtRequest} (hr : r ∈ s.fmtRequests) (hr' : r' ∈ s.fmtRequests)
    (h0 : r.seq ≠ 0xff) (h0' : r'.seq ≠ 0xff) (he : age r.token s.trace = age r'.token s.trace) :
    r.token = r'.token := by
  obtain ⟨q, -, ha⟩ := fmt_allocated h hr h0
  obtain ⟨q', -, ha'⟩ := fmt_allocated h hr' h0'
  have hg := ha.get
  rw [he, ha'.get] at hg
  exact (Option.some.inj (congrArg Prod.fst (Option.some.inj hg))).symm

lemma find_seq_mem {seq : UInt8} {r : IpcFmtRequest} (h : s.fmtRequestFindSeq seq = some r) :
    r ∈ s.fmtRequests ∧ r.seq = seq :=
  ⟨List.mem_of_find?_eq_some h, by simpa using List.find?_some h⟩

lemma request_token_of_age (h : Numbered s) {r : IpcFmtRequest} (hr : r ∈ s.fmtRequests) (h0 : r.seq ≠ 0xff)
    (hage : ∀ r' ∈ s.fmtRequests, r'.seq ≠ 0xff → age r'.token s.trace < 254) :
    s.ipcFmtRequestToken r.seq = r.token := by
  have hsome : (s.fmtRequestFindSeq r.seq).isSome = true := List.find?_isSome.mpr ⟨r, hr, by simp⟩
  obtain ⟨r', hf⟩ := Option.isSome_iff_exists.mp hsome
  obtain ⟨hr', hs⟩ := find_seq_mem hf
  have h0' : r'.seq ≠ 0xff := hs ▸ h0
  have hmod := (seq_eq_iff h hr' hr h0' h0).mp hs
  have he := Nat.ModEq.eq_of_lt_of_lt hmod (hage r' hr' h0') (hage r hr h0)
  rw [RilData.ipcFmtRequestToken, hf]
  exact token_of_age h hr' hr h0' h0 he

lemma request_token_taken (h : Numbered s) {seq : UInt8} (h0 : seq ≠ 0xff) :
    s.ipcFmtRequestToken seq = 0 ∨ (some (s.ipcFmtRequestToken seq), seq) ∈ taken s.trace := by
  rw [RilData.ipcFmtRequestToken]
  cases hf : s.fmtRequestFindSeq seq with
  | none => exact .inl rfl
  | some r =>
    obtain ⟨hr, rfl⟩ := find_seq_mem hf
    exact .inr (seq_taken h hr h0)

end

/-! ### The messages of a request -/

/-- The message, if it was accepted, carries a seq that was taken for the request. -/
def SentUnder (token : RilToken) (trace : List Event) (e : Event) : Prop :=
  ∀ m, e = .sent m true → (some token, m.mseq) ∈ taken trace

section

variable {s t : RilData} {token : RilToken}

lemma SentUnder.mono {trace trace' : List Event} {e : Event} (h : SentUnder token trace e)
    (ht : trace <:+ trace') : SentUnder token trace' e := by
  obtain ⟨new, rfl⟩ := ht
  intro m hm
  rw [taken, List.filterMap_append]
  exact List.mem_append_right _ (h m hm)

lemma fmt_find_token (hs : Synced s) (hm : token ∈ s.tokens) {d : IpcFmtData} (hd : s.fmt.data = some d) :
    ∃ r, s.fmtRequestFindToken token = some r := by
  rw [← hs.fmt_tokens hd, List.mem_map] at hm
  obtain ⟨r, hr, hk⟩ := hm
  exact Option.isSome_iff_exists.mp (List.find?_isSome.mpr ⟨r, hr, by simp [hk]⟩)

lemma request_seq_taken (hs : Synced s) (hn : Numbered s) (hm : token ∈ s.tokens) (hd : s.fmt.data.isSome = true) :
    (some token, (s.ipcFmtRequestSeq token).1) ∈ taken (s.ipcFmtRequestSeq token).2.trace := by
  obtain ⟨d, hd⟩ := Option.isSome_iff_exists.mp hd
  obtain ⟨r, hr⟩ := fmt_find_token hs hm hd
  obtain ⟨hmem, hk⟩ := fmt_find_token_mem hr
  by_cases h0 : r.seq = 0xff
  · simp only [RilData.ipcFmtRequestSeq, hr, h0, beq_self_eq_true, if_true, RilData.ipcFmtSeq, hd]
    exact List.mem_cons_self
  · rw [RilData.ipcFmtRequestSeq_of_seq hr h0, ← hk]
    exact seq_taken hn hmem h0

lemma expectSend_sent (s : RilData) (expect : Option ExpectKind) (mseq : UInt8) (command : IpcCommand)
    (type : IpcRequestType) (data : Bytes) {trace : List Event}
    (h : s.fmt.data.isSome = true → (some token, mseq) ∈ taken trace) :
    Logged (SentUnder token trace) s (expectSend expect mseq command type data s).2 := by
  refine Logged.expectSend s expect mseq command type data ?_
  intro m hm
  obtain ⟨rfl, hok⟩ := Event.sent.inj hm
  simp only [RilData.clientAccepts, Bool.and_eq_true] at hok
  exact h hok.1.1

lemma ipcFmtRequestSeq_isSome (s : RilData) (token : RilToken) :
    (s.ipcFmtRequestSeq token).2.fmt.data.isSome = s.fmt.data.isSome := by
  rw [RilData.ipcFmtRequestSeq]
  split
  · rfl
  · split
    · cases hd : s.fmt.data with
      | none => simp [RilData.ipcFmtSeq, RilData.fmtRequestSetSeq, RilData.modifyFmt, hd]
      | some d => simp [RilData.ipcFmtSeq, RilData.fmtRequestSetSeq, RilData.modifyFmt, RilData.log, hd]
    · rfl

lemma request_op_sent {F : Footprint} {sent : Bool} {op : Op} (hs : Synced s) (hn : Numbered s)
    (hm : token ∈ s.tokens) (h : RequestOp F token sent s op) :
    Logged (SentUnder token (op.exec s).trace) s (op.exec s) := by
  have hsilent {e : Event} (he : ∀ m ok, e ≠ .sent m ok) : SentUnder token (op.exec s).trace e :=
    fun m hm => absurd hm (he m true)
  rcases h.cases with rfl | ⟨expect, command, type, data, rfl, -⟩ | hq
  · exact Logged.ipcFmtRequestSeq s token fun seq => hsilent (by simp)
  · have hseq := Logged.ipcFmtRequestSeq s token (P := SentUnder token
      ((Op.transmit (.request token) expect command type data).exec s).trace) fun seq => hsilent (by simp)
    refine hseq.trans (expectSend_sent _ expect _ command type data ?_)
    intro hd
    rw [ipcFmtRequestSeq_isSome] at hd
    obtain ⟨new, ht, -⟩ := Logged.expectSend (s.ipcFmtRequestSeq token).2 expect (s.ipcFmtRequestSeq token).1
      command type data (P := fun _ => True) trivial
    have htr : ((Op.transmit (.request token) expect command type data).exec s).trace =
      new ++ (s.ipcFmtRequestSeq token).2.trace := ht
    rw [htr, taken, List.filterMap_append]
    exact List.mem_append_right _ (request_seq_taken hs hn hm hd)
  · refine (op_logged op s).mono fun e he => hsilent ?_
    rintro m ok rfl
    cases op <;> first | exact hq.elim | cases he

lemma request_path_sent {F : Footprint} {sent : Bool} (hp : RequestPath F token sent s t) (hs : Synced s)
    (hn : Numbered s) (hm : token ∈ s.tokens) : Logged (SentUnder token t.trace) s t := by
  suffices h : Synced t ∧ Numbered t ∧ token ∈ t.tokens ∧ Logged (SentUnder token t.trace) s t from h.2.2.2
  induction hp with
  | refl => exact ⟨hs, hn, hm, .refl _⟩
  | @tail u v _ ht ih =>
    obtain ⟨op, hop, rfl⟩ := ht
    obtain ⟨hs, hn, hm, hl⟩ := ih
    have hk := hop.keeps
    have hgrow := op_logged op u
    refine ⟨hs.keeps hk, hn.step hs (request_op_seq_step hop) hgrow.suffix, ?_, ?_⟩
    · rw [RilData.tokens_eq, hk.entries, ← RilData.tokens_eq]
      exact hm
    · exact (hl.mono fun e he => he.mono hgrow.suffix).trans (request_op_sent hs hn hm hop)

/-- All messages that the dispatch of a request sends go out under a seq of this request. -/
lemma dispatch_sent (hs : Synced s) (hn : Numbered s) (env : Env) {r : RilRequest} (hr : r ∈ s.requests) :
    Logged (SentUnder r.token (dispatchRequest env r s).trace) s (dispatchRequest env r s) := by
  have hquiet {P : List Event} {e : Event} (he : ∀ m ok, e ≠ .sent m ok) : SentUnder r.token P e :=
    fun m hm => absurd hm (he m true)
  have hstart {P : List Event} : Logged (SentUnder r.token P) s (s.started env (.dispatched r.token)) :=
    .one (hquiet (by simp)) _
  have hs₁ := hs.keeps (started_keeps s env (e := .dispatched r.token) rfl)
  have hn₁ : Numbered (s.started env (.dispatched r.token)) :=
    hn.step hs (.of_eq rfl rfl) (List.suffix_cons _ _)
  have hm : r.token ∈ (s.started env (.dispatched r.token)).tokens := List.mem_map_of_mem hr
  rcases dispatch_cases env r s with ⟨h, -⟩ | ⟨s', hp, h⟩ | ⟨s', error, response, hp, h⟩
  · rw [h]
    exact hstart
  · have hp' := request_path_sent hp hs₁ hn₁ hm
    rw [h]
    exact hstart.trans hp'
  · have hl := Logged.requestComplete s' r.token error response
      (P := SentUnder r.token (s'.requestComplete r.token error response).trace) (hquiet (by simp))
    have hp' := (request_path_sent hp hs₁ hn₁ hm).mono fun e he => he.mono hl.suffix
    rw [h]
    exact (hstart.trans hp').trans hl

end

/-- Two registered requests share a seq exactly when the seqs taken since theirs differ by rounds of the
counter. While none is a round old, an answer is attributed to the request that took its seq. -/
theorem request_seqs {d : Daemon} (h : Reachable d) :
    (∀ r ∈ d.data.fmtRequests, ∀ r' ∈ d.data.fmtRequests, r.seq ≠ 0xff → r'.seq ≠ 0xff →
      (r.seq = r'.seq ↔ age r.token d.data.trace ≡ age r'.token d.data.trace [MOD 254])) ∧
    ((∀ r ∈ d.data.fmtRequests, r.seq ≠ 0xff → age r.token d.data.trace < 254) →
      ∀ r ∈ d.data.fmtRequests, r.seq ≠ 0xff →
        (∀ r' ∈ d.data.fmtRequests, r'.token ≠ r.token → r'.seq ≠ r.seq) ∧
          d.data.ipcFmtRequestToken r.seq = r.token) ∧
    (∀ seq ≠ 0xff, d.data.ipcFmtRequestToken seq = 0 ∨
      (some (d.data.ipcFmtRequestToken seq), seq) ∈ taken d.data.trace) ∧
    (∀ r ∈ d.data.fmtRequests, ∀ seq, (some r.token, seq) ∈ taken d.data.trace → seq = r.seq) ∧
    ∀ env r, d.data.requestFindStatus .pending = some r →
      Extends (SentUnder r.token (dispatchRequest env r d.data).trace) d.data.trace
        (dispatchRequest env r d.data).trace := by
  have hn := reachable_numbered h
  refine ⟨?_, ?_, ?_, ?_, ?_⟩
  · intro r hr r' hr' h0 h0'
    exact seq_eq_iff hn hr hr' h0 h0'
  · intro hage r hr h0
    refine ⟨?_, request_token_of_age hn hr h0 hage⟩
    intro r' hr' hk hs
    have h0' : r'.seq ≠ 0xff := hs ▸ h0
    have hmod := (seq_eq_iff hn hr' hr h0' h0).mp hs
    exact hk (token_of_age hn hr' hr h0' h0 (Nat.ModEq.eq_of_lt_of_lt hmod (hage r' hr' h0') (hage r hr h0)))
  · intro seq h0
    exact request_token_taken hn h0
  · intro r hr seq hm
    obtain ⟨q, hq⟩ := RilData.seqState_of_mem hr
    rcases hn.requests _ q hq r hr with ⟨-, hnot⟩ | ha
    · exact absurd hm (hnot seq)
    · exact ha.once seq hm
  · intro env r hr
    exact dispatch_sent (reachable_synced h) hn env (List.mem_of_find?_eq_some hr)

def muteRound (token : RilToken) : List Action := [
  .request .setMute (.ints [1]) token, .requestSignal, .loopWake, .loopStart, .loopDispatch {}, .loopEnd]

theorem request_seqs_two :
    (runFrom {} (.message {} ⟨0x00, .pwrPhonePwrUp, .noti, []⟩ :: muteRound 1 ++ muteRound 2)).data.ipcFmtRequestToken
      0x02 = 2 :=
  (((request_seqs (reachable_runFrom (by decide))).2.1 (by decide)) ⟨.setMute, 2, 0x02⟩ (by decide) (by decide)).2

/-- The first request is never answered, the next 253 are. -/
def wrapRun : List Action :=
  .message {} ⟨0x00, .pwrPhonePwrUp, .noti, []⟩ :: muteRound 1 ++
    (List.range' 2 253).flatMap (fun k =>
      muteRound k ++ [.message {} ⟨UInt8.ofNat k, .genPhoneRes, .resp, [0x09, 0x02, 0x02, 0x00, 0x80]⟩]) ++
    muteRound 255

lemma wrap_run_tokens : wrapRun.filterMap Action.token = List.range' 1 255 := by
  have hround (k : ℕ) : (muteRound k).filterMap Action.token = [k] := rfl
  have hwrap : wrapRun.filterMap Action.token = [1] ++ List.range' 2 253 ++ [255] := by
    simp only [wrapRun, List.filterMap_append, List.filterMap_cons, List.filterMap_flatMap, List.filterMap_nil, hround,
      Action.token, List.append_nil, List.flatMap_singleton']
  rw [hwrap]
  decide +kernel

set_option maxRecDepth 100000 in
theorem request_seqs_shared : Reachable (runFrom {} wrapRun) ∧
    (runFrom {} wrapRun).data.fmtRequests = [⟨.setMute, 1, 0x01⟩, ⟨.setMute, 255, 0x01⟩] ∧
    (runFrom {} wrapRun).data.ipcFmtRequestToken 0x01 = 1 ∧
    (runFrom {} wrapRun).data.trace.head? = some (.sent ⟨0x01, .sndMicMuteCtrl, .set, [0x01]⟩ true) := by
  have hrun : (run step {} wrapRun).isSome = true ∧
      (runFrom {} wrapRun).data.fmtRequests = [⟨.setMute, 1, 0x01⟩, ⟨.setMute, 255, 0x01⟩] ∧
      (runFrom {} wrapRun).data.ipcFmtRequestToken 0x01 = 1 ∧
      (runFrom {} wrapRun).data.trace.head? = some (.sent ⟨0x01, .sndMicMuteCtrl, .set, [0x01]⟩ true) := by
    decide +kernel
  refine ⟨reachable_of_tokens hrun.1 ?_ ?_, hrun.2⟩
  · rw [wrap_run_tokens]
    exact List.nodup_range'
  · rw [wrap_run_tokens, List.mem_range'_1]
    decide

end Ril.Samsung
