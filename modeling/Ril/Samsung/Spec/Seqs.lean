import Ril.Lib.IdPool
import Ril.Samsung.Spec.Registry

/-! The seqs of the registered requests and the seqs that were taken. -/

namespace Ril.Samsung

open Ril.Ipc Ril.Lib Relation

def Event.taken : Event → Option (Option RilToken × UInt8)
  | seqTaken owner seq => some (owner, seq)
  | _ => none

/-- The seqs taken in a trace, the last one first. -/
def taken (trace : List Event) : List (Option RilToken × UInt8) := trace.filterMap Event.taken

/-- The number of seqs taken since the one of a request. -/
def age (token : RilToken) (trace : List Event) : ℕ := (taken trace).findIdx (·.1 == some token)

namespace RilData

def seqState (s : RilData) : Option (List IpcFmtRequest × UInt8) := s.fmt.data.map fun d => (d.requests, d.seq)

lemma modifyFmt_seqState (s : RilData) {f : IpcFmtData → IpcFmtData}
    (hf : ∀ d, (f d).requests = d.requests ∧ (f d).seq = d.seq) : (s.modifyFmt f).seqState = s.seqState := by
  simp [seqState, modifyFmt, Function.comp_def, hf]

lemma fmtRequests_of_seqState {s : RilData} {rs : List IpcFmtRequest} {q : UInt8}
    (h : s.seqState = some (rs, q)) : s.fmtRequests = rs := by
  obtain ⟨d, hd, he⟩ := Option.map_eq_some_iff.mp h
  rw [fmtRequests_eq hd]
  exact congrArg Prod.fst he

lemma seqState_of_mem {s : RilData} {r : IpcFmtRequest} (h : r ∈ s.fmtRequests) :
    ∃ q, s.seqState = some (s.fmtRequests, q) := by
  cases hd : s.fmt.data with
  | none => simp [fmtRequests, hd] at h
  | some d => exact ⟨d.seq, by simp [seqState, hd, fmtRequests_eq hd]⟩

end RilData

/-- What can happen to the seqs. -/
inductive SeqStep (s t : RilData) : Prop
  | keeps : t.seqState = s.seqState → taken t.trace = taken s.trace → SeqStep s t
  | takes (rs : List IpcFmtRequest) (q : UInt8) : s.seqState = some (rs, q) →
      t.seqState = some (rs, RilData.nextSeq q) →
      taken t.trace = (none, RilData.nextSeq q) :: taken s.trace → SeqStep s t
  | allocates (rs : List IpcFmtRequest) (q : UInt8) (r : IpcFmtRequest) : s.seqState = some (rs, q) →
      r ∈ rs → r.seq = 0xff →
      t.seqState = some (rs.map fun r' => if r'.token == r.token then { r' with seq := RilData.nextSeq q } else r',
        RilData.nextSeq q) →
      taken t.trace = (some r.token, RilData.nextSeq q) :: taken s.trace → SeqStep s t
  | arrives (r : IpcFmtRequest) : r.seq = 0xff →
      (∀ request data, Event.arrived r.token request data ∉ s.trace) →
      t.seqState = s.seqState.map (fun v => (v.1 ++ [r], v.2)) → taken t.trace = taken s.trace → SeqStep s t
  | removes : (∀ rs q, t.seqState = some (rs, q) → ∃ rs', s.seqState = some (rs', q) ∧ rs.Sublist rs') →
      taken t.trace = taken s.trace → SeqStep s t
  | flushes : (∀ rs q, t.seqState = some (rs, q) → rs = [] ∧ q = 0) → taken t.trace = taken s.trace → SeqStep s t

namespace SeqStep

variable {s t u : RilData}

lemma of_eq (hf : t.fmt.data = s.fmt.data) (ht : taken t.trace = taken s.trace) : SeqStep s t :=
  .keeps (by rw [RilData.seqState, RilData.seqState, hf]) ht

lemma then_keeps (h : SeqStep s t) (hv : u.seqState = t.seqState) (ht : taken u.trace = taken t.trace) :
    SeqStep s u := by
  cases h with
  | keeps hs hk => exact .keeps (hv.trans hs) (ht.trans hk)
  | takes rs q hs hs' hk => exact .takes rs q hs (hv.trans hs') (ht.trans hk)
  | allocates rs q r hs hr h0 hs' hk => exact .allocates rs q r hs hr h0 (hv.trans hs') (ht.trans hk)
  | arrives r h0 hf hs hk => exact .arrives r h0 hf (hv.trans hs) (ht.trans hk)
  | removes hs hk => exact .removes (hv ▸ hs) (ht.trans hk)
  | flushes hs hk => exact .flushes (hv ▸ hs) (ht.trans hk)

end SeqStep

lemma expectSend_seqState (s : RilData) (expect : Option ExpectKind) (mseq : UInt8) (command : IpcCommand)
    (type : IpcRequestType) (data : Bytes) :
    (expectSend expect mseq command type data s).2.seqState = s.seqState ∧
      taken (expectSend expect mseq command type data s).2.trace = taken s.trace := by
  rw [RilData.expectSend_apply]
  split
  · exact ⟨rfl, rfl⟩
  · cases expect with
    | none => exact ⟨rfl, rfl⟩
    | some kind => exact ⟨RilData.modifyFmt_seqState s fun _ => ⟨by rfl, by rfl⟩, rfl⟩

lemma ipcFmtSeq_step (s : RilData) : SeqStep s (s.ipcFmtSeq none).2 := by
  cases hd : s.fmt.data with
  | none =>
    simp only [RilData.ipcFmtSeq, hd]
    exact .of_eq rfl rfl
  | some d =>
    simp only [RilData.ipcFmtSeq, hd]
    refine .takes d.requests d.seq ?_ ?_ rfl
    · simp [RilData.seqState, hd]
    · simp [RilData.seqState, RilData.modifyFmt, RilData.log, hd]

lemma fmt_find_token_mem {s : RilData} {token : RilToken} {r : IpcFmtRequest}
    (h : s.fmtRequestFindToken token = some r) : r ∈ s.fmtRequests ∧ r.token = token :=
  ⟨List.mem_of_find?_eq_some h, by simpa using List.find?_some h⟩

lemma ipcFmtRequestSeq_step (s : RilData) (token : RilToken) : SeqStep s (s.ipcFmtRequestSeq token).2 := by
  cases hr : s.fmtRequestFindToken token with
  | none =>
    simp only [RilData.ipcFmtRequestSeq, hr]
    exact .of_eq rfl rfl
  | some r =>
    by_cases h0 : r.seq = 0xff
    · obtain ⟨hm, hk⟩ := fmt_find_token_mem hr
      subst hk
      cases hd : s.fmt.data with
      | none => simp [RilData.fmtRequests, hd] at hm
      | some d =>
        rw [RilData.fmtRequests_eq hd] at hm
        simp only [RilData.ipcFmtRequestSeq, hr, h0, beq_self_eq_true, if_true, RilData.ipcFmtSeq, hd]
        refine .allocates d.requests d.seq r ?_ hm h0 ?_ rfl
        · simp [RilData.seqState, hd]
        · simp [RilData.seqState, RilData.fmtRequestSetSeq, RilData.modifyFmt, RilData.log, hd]
    · rw [RilData.ipcFmtRequestSeq_of_seq hr h0]
      exact .of_eq rfl rfl

lemma transmit_step (s : RilData) (sender : Sender) (expect : Option ExpectKind) (command : IpcCommand)
    (type : IpcRequestType) (data : Bytes) : SeqStep s (transmit sender expect command type data s).2 := by
  cases sender with
  | request token =>
    obtain ⟨hs, hk⟩ := expectSend_seqState (s.ipcFmtRequestSeq token).2 expect (s.ipcFmtRequestSeq token).1
      command type data
    exact (ipcFmtRequestSeq_step s token).then_keeps hs hk
  | reply aseq =>
    obtain ⟨hs, hk⟩ := expectSend_seqState s expect aseq command type data
    exact .keeps hs hk
  | own =>
    obtain ⟨hs, hk⟩ := expectSend_seqState (s.ipcFmtSeq none).2 expect (s.ipcFmtSeq none).1 command type data
    exact (ipcFmtSeq_step s).then_keeps hs hk

lemma unregister_seqState (s : RilData) (token : RilToken) :
    ∀ rs q, (s.requestUnregister token).seqState = some (rs, q) →
      ∃ rs', s.seqState = some (rs', q) ∧ rs.Sublist rs' := by
  intro rs q h
  cases hr : s.requestFindToken token with
  | none =>
    simp only [RilData.requestUnregister, hr] at h
    exact ⟨rs, h, .refl _⟩
  | some r =>
    cases hd : s.fmt.data with
    | none => simp [RilData.requestUnregister, hr, RilData.seqState, RilData.ipcFmtRequestUnregister, RilData.modifyFmt, hd] at h
    | some d =>
      simp only [RilData.requestUnregister, hr, RilData.seqState, RilData.ipcFmtRequestUnregister,
        RilData.modifyFmt, hd, Option.map_some, Option.some.injEq, Prod.mk.injEq] at h
      obtain ⟨rfl, rfl⟩ := h
      exact ⟨d.requests, by simp [RilData.seqState, hd], List.eraseP_sublist⟩

lemma complete_seq_step (s : RilData) (token : RilToken) (error : RilErrno) (response : RilResponse) :
    SeqStep s (s.requestComplete token error response) := by
  rw [RilData.requestComplete]
  split
  · exact .of_eq rfl rfl
  · refine .removes (unregister_seqState s token) ?_
    have ht := congrArg taken (unregister_trace s token)
    exact ht

lemma cancel_seq_step (s : RilData) (token : RilToken) : SeqStep s (rilOnCancel token s) := by
  rw [rilOnCancel]
  split
  · exact .of_eq rfl rfl
  · refine .removes (unregister_seqState s token) ?_
    have ht := congrArg taken (unregister_trace s token)
    exact ht

lemma arrive_seq_step {s : RilData} (h : Synced s) {token : RilToken}
    (hfresh : ∀ request data, Event.arrived token request data ∉ s.trace) (request : RilRequestCode)
    (data : RilValue) : SeqStep s (rilOnRequest request data token s) := by
  rw [rilOnRequest, unregister_of_not_mem (h.not_mem_of_fresh hfresh)]
  refine .arrives ⟨request, token, 0xff⟩ rfl hfresh ?_ rfl
  simp [RilData.seqState, RilData.requestRegister, RilData.modifyFmt, RilData.log, Function.comp_def]

lemma withoutConnections_seq_step {s t : RilData} (h : t.withoutConnections = s.withoutConnections) :
    SeqStep s t := by
  rw [RilData.eq_of_withoutConnections h]
  exact .of_eq rfl rfl

lemma radio_off_seq (s : RilData) :
    s.radioOff.seqState = s.seqState ∧ taken s.radioOff.trace = taken s.trace := by
  have h := RilData.eq_of_withoutConnections (flush_from_withoutConnections s.dataConnections s)
  constructor
  · simp only [RilData.radioOff, RilData.requestUnsolicited, RilData.log, RilData.dataConnectionFlush]
    rw [h]
    rfl
  · simp only [RilData.radioOff, RilData.requestUnsolicited, RilData.log, RilData.dataConnectionFlush]
    rw [h]
    rfl

lemma radio_rounds_taken (rs : List RilRequest) (s : RilData) :
    taken (rs.foldl RilData.radioUnavailableRound s).trace = taken s.trace := by
  induction rs generalizing s with
  | nil => rfl
  | cons r rs ih =>
    rw [List.foldl_cons, ih, RilData.radioUnavailableRound, RilData.requestComplete]
    split
    · rw [unregister_trace]
    · have ht := congrArg taken (unregister_trace s r.token)
      exact ht

lemma fmt_flush_seqState {s : RilData} {rs : List IpcFmtRequest} {q : UInt8}
    (h : s.ipcFmtFlush.seqState = some (rs, q)) : rs = [] ∧ q = 0 := by
  obtain ⟨d, hd, he⟩ := Option.map_eq_some_iff.mp h
  obtain ⟨d', -, rfl⟩ := Option.map_eq_some_iff.mp hd
  exact ⟨(congrArg Prod.fst he).symm, (congrArg Prod.snd he).symm⟩

lemma radio_seq_step (s : RilData) (radioState : RilRadioState) : SeqStep s (s.radioStateUpdate radioState) := by
  rw [RilData.radioStateUpdate]
  split
  · exact .of_eq rfl rfl
  · split
    · obtain ⟨hv, ht⟩ := radio_off_seq
        (({ s with radioState := .unavailable }).requestUnsolicited .radioStateChanged .null).radioUnavailable
      refine .flushes (fun rs q h => fmt_flush_seqState (hv ▸ h)) ?_
      rw [ht]
      exact radio_rounds_taken _ _
    · obtain ⟨hv, ht⟩ := radio_off_seq
        (({ s with radioState := .off }).requestUnsolicited .radioStateChanged .null)
      exact .keeps hv ht
    · exact .of_eq rfl rfl

lemma quiet_seq_step {F : Footprint} {op : Op} (h : QuietOp F op) (s : RilData) : SeqStep s (op.exec s) := by
  cases op with
  | dataSet request value =>
    simp only [Op.exec, RilData.requestDataSet]
    split
    · exact .of_eq rfl rfl
    · exact .of_eq rfl rfl
  | simIccType | hsdpaStatus | svcSession =>
    exact .keeps (RilData.modifyFmt_seqState s fun _ => ⟨by rfl, by rfl⟩) rfl
  | unsolicited | pinCache | dataFree | dataDrop | connections => exact .of_eq rfl rfl
  | _ => exact h.elim

lemma request_op_seq_step {F : Footprint} {token : RilToken} {sent : Bool} {s : RilData} {op : Op}
    (h : RequestOp F token sent s op) : SeqStep s (op.exec s) := by
  rcases h.cases with rfl | ⟨expect, command, type, data, rfl, -⟩ | h
  · exact ipcFmtRequestSeq_step s _
  · exact transmit_step s _ _ _ _ _
  · exact quiet_seq_step h s

lemma dispatch_op_seq_step {env : Env} {r : RilRequest} {s : RilData} {op : Op} (h : DispatchOp env r s op) :
    SeqStep s (op.exec s) := by
  rcases h with rfl | ⟨sent, h⟩ | rfl | rfl | ⟨error, response, rfl, -⟩
  · exact .of_eq rfl rfl
  · exact request_op_seq_step h
  · exact .of_eq rfl rfl
  · exact .of_eq rfl rfl
  · exact complete_seq_step s _ _ _

lemma message_op_seq_step {F : Footprint} {message : IpcMessage} {s : RilData} {op : Op}
    (h : MessageOp F message s op) : SeqStep s (op.exec s) := by
  rcases h.cases with ⟨token, error, response, rfl, -⟩ | rfl | ⟨radioState, rfl, -⟩ | h
  · exact complete_seq_step s _ _ _
  · exact .keeps (RilData.modifyFmt_seqState s fun _ => ⟨by rfl, by rfl⟩) rfl
  · exact radio_seq_step s _
  · rcases h.cases with ⟨q, expect, command, type, data, rfl, -⟩ | ⟨token, rfl⟩ | h
    · exact transmit_step s _ _ _ _ _
    · exact .of_eq rfl rfl
    · exact quiet_seq_step h s

lemma op_seq_step {d : Daemon} {a : Action} {s : RilData} {op : Op} (hf : fresh d a) (hs : Synced s)
    (h : StepOp d a s op) : SeqStep s (op.exec s) := by
  cases a with
  | request request data token =>
    obtain ⟨rfl, rfl⟩ := h
    exact arrive_seq_step hs hf.2 request data
  | requestSignal | loopWake | loopStart =>
    obtain rfl := h
    exact .of_eq rfl rfl
  | cancel token =>
    obtain rfl := h
    exact cancel_seq_step s token
  | loopDispatch env =>
    obtain ⟨r, -, h⟩ := h
    exact dispatch_op_seq_step h
  | loopEnd => exact h.elim
  | message env message =>
    rcases h with rfl | h | rfl
    · exact .of_eq rfl rfl
    · exact message_op_seq_step h
    · exact .of_eq rfl rfl
  | clientError =>
    rcases h with rfl | ⟨failures, rfl⟩
    · exact radio_seq_step s _
    · exact .of_eq rfl rfl
  | clientReopen closed opened =>
    rcases h with ⟨rfl, -⟩ | ⟨failures, available, rfl⟩
    · exact radio_seq_step s _
    · exact .of_eq rfl rfl
  | clientStop =>
    obtain rfl := h
    exact .flushes (fun _ _ h => by cases h) rfl
  | srs env message =>
    rcases h with rfl | ⟨command, -, type, data, rfl⟩ | ⟨state, -, rfl⟩
    · exact .of_eq rfl rfl
    · exact transmit_step s _ _ _ _ _
    · exact radio_seq_step s _

/-! ### Ages -/

/-- The seq of a request is the one taken for it, and the counter is as far from it as the request is old. -/
structure Allocated (r : IpcFmtRequest) (q : UInt8) (trace : List Event) : Prop where
  pos : 1 ≤ r.seq.toNat
  le : r.seq.toNat ≤ 254
  get : (taken trace)[age r.token trace]? = some (some r.token, r.seq)
  counter : (cyclicNext 254)^[age r.token trace] r.seq.toNat = q.toNat
  once : ∀ x, (some r.token, x) ∈ taken trace → x = r.seq

structure Numbered (s : RilData) : Prop where
  counter : ∀ rs q, s.seqState = some (rs, q) → q.toNat ≤ 254
  requests : ∀ rs q, s.seqState = some (rs, q) → ∀ r ∈ rs,
    r.seq = 0xff ∧ (∀ x, (some r.token, x) ∉ taken s.trace) ∨ Allocated r q s.trace
  owners : ∀ token x, (some token, x) ∈ taken s.trace →
    ∃ request data, Event.arrived token request data ∈ s.trace

lemma nextSeq_toNat {q : UInt8} (h : q.toNat ≤ 254) : (RilData.nextSeq q).toNat = cyclicNext 254 q.toNat := by
  have hq : (q + 1).toNat = q.toNat + 1 := by
    rw [UInt8.toNat_add]
    exact Nat.mod_eq_of_lt (by have : (1 : UInt8).toNat = 1 := rfl; omega)
  have hm : ((q + 1) % 0xff).toNat = (q.toNat + 1) % 255 := by
    rw [UInt8.toNat_mod, hq]
    rfl
  rw [RilData.nextSeq, cyclicNext]
  split
  · rename_i h0
    have h1 : ((q + 1) % 0xff).toNat = 0 := by
      rw [beq_iff_eq.mp h0]
      rfl
    have h2 : (0x01 : UInt8).toNat = 1 := rfl
    omega
  · rename_i h0
    have h1 : (q.toNat + 1) % 255 ≠ 0 := by
      intro h1
      refine h0 (beq_iff_eq.mpr (UInt8.toNat_inj.mp ?_))
      rw [hm, h1]
      rfl
    omega

lemma nextSeq_bounds {q : UInt8} (h : q.toNat ≤ 254) :
    1 ≤ (RilData.nextSeq q).toNat ∧ (RilData.nextSeq q).toNat ≤ 254 := by
  rw [nextSeq_toNat h, cyclicNext]
  omega

lemma age_cons_ne {token : RilToken} {p : Option RilToken × UInt8} {trace trace' : List Event}
    (ht : taken trace' = p :: taken trace) (hp : p.1 ≠ some token) :
    age token trace' = age token trace + 1 := by
  have hb : (p.1 == some token) = false := beq_false_of_ne hp
  rw [age, age, ht, List.findIdx_cons, hb, cond_false]

lemma age_cons_self {token : RilToken} {seq : UInt8} {trace trace' : List Event}
    (ht : taken trace' = (some token, seq) :: taken trace) : age token trace' = 0 := by
  rw [age, ht, List.findIdx_cons, beq_self_eq_true, cond_true]

namespace Allocated

variable {r : IpcFmtRequest} {q : UInt8} {trace trace' : List Event}

lemma of_taken (h : Allocated r q trace) (ht : taken trace' = taken trace) : Allocated r q trace' := by
  have ha : age r.token trace' = age r.token trace := by rw [age, age, ht]
  exact ⟨h.pos, h.le, by rw [ha, ht]; exact h.get, by rw [ha]; exact h.counter, by rw [ht]; exact h.once⟩

lemma older (h : Allocated r q trace) (hq : q.toNat ≤ 254) {owner : Option RilToken} (ho : owner ≠ some r.token)
    (ht : taken trace' = (owner, RilData.nextSeq q) :: taken trace) :
    Allocated r (RilData.nextSeq q) trace' := by
  have ha : age r.token trace' = age r.token trace + 1 := age_cons_ne ht ho
  refine ⟨h.pos, h.le, ?_, ?_, ?_⟩
  · rw [ha, ht, List.getElem?_cons_succ]
    exact h.get
  · rw [ha, Function.iterate_succ_apply', h.counter, nextSeq_toNat hq]
  · intro x hx
    rw [ht, List.mem_cons] at hx
    rcases hx with hx | hx
    · exact absurd (congrArg Prod.fst hx).symm ho
    · exact h.once x hx

lemma new (hq : q.toNat ≤ 254) (hnot : ∀ x, (some r.token, x) ∉ taken trace)
    (ht : taken trace' = (some r.token, RilData.nextSeq q) :: taken trace) :
    Allocated { r with seq := RilData.nextSeq q } (RilData.nextSeq q) trace' := by
  have ha : age r.token trace' = 0 := age_cons_self ht
  refine ⟨(nextSeq_bounds hq).1, (nextSeq_bounds hq).2, ?_, ?_, ?_⟩
  · rw [ha, ht]
    rfl
  · rw [ha]
    rfl
  · intro x hx
    rw [ht, List.mem_cons] at hx
    rcases hx with hx | hx
    · exact congrArg Prod.snd hx
    · exact absurd hx (hnot x)

end Allocated

namespace Numbered

variable {s t : RilData}

lemma init : Numbered {} where
  counter := by
    intro rs q h
    obtain rfl : 0 = q := congrArg Prod.snd (Option.some.inj h)
    decide
  requests := by
    intro rs q h
    obtain rfl : [] = rs := congrArg Prod.fst (Option.some.inj h)
    exact fun _ h => absurd h List.not_mem_nil
  owners := fun _ _ h => absurd h List.not_mem_nil

/-- A request keeps its seq, or the lack of one, when another owner takes the next. -/
lemma others (h : Numbered s) {rs : List IpcFmtRequest} {q : UInt8} (hv : s.seqState = some (rs, q))
    {r : IpcFmtRequest} (hr : r ∈ rs) {owner : Option RilToken} (ho : owner ≠ some r.token)
    (ht : taken t.trace = (owner, RilData.nextSeq q) :: taken s.trace) :
    r.seq = 0xff ∧ (∀ x, (some r.token, x) ∉ taken t.trace) ∨ Allocated r (RilData.nextSeq q) t.trace := by
  rcases h.requests rs q hv r hr with ⟨h0, hnot⟩ | ha
  · refine .inl ⟨h0, fun x hx => ?_⟩
    rw [ht, List.mem_cons] at hx
    rcases hx with hx | hx
    · exact ho (congrArg Prod.fst hx).symm
    · exact hnot x hx
  · exact .inr (ha.older (h.counter rs q hv) ho ht)

lemma step (hs : Synced s) (h : Numbered s) (hstep : SeqStep s t) (htr : s.trace <:+ t.trace) : Numbered t := by
  have harr {token : RilToken} : (∃ request data, Event.arrived token request data ∈ s.trace) →
      ∃ request data, Event.arrived token request data ∈ t.trace :=
    fun ⟨request, data, hm⟩ => ⟨request, data, htr.subset hm⟩
  have hsame (ht : taken t.trace = taken s.trace) : ∀ token x, (some token, x) ∈ taken t.trace →
      ∃ request data, Event.arrived token request data ∈ t.trace := by
    intro token x hx
    rw [ht] at hx
    exact harr (h.owners token x hx)
  have hkeep (ht : taken t.trace = taken s.trace) {rs : List IpcFmtRequest} {q : UInt8}
      (hv : s.seqState = some (rs, q)) {r : IpcFmtRequest} (hr : r ∈ rs) :
      r.seq = 0xff ∧ (∀ x, (some r.token, x) ∉ taken t.trace) ∨ Allocated r q t.trace := by
    rcases h.requests rs q hv r hr with ⟨h0, hnot⟩ | ha
    · exact .inl ⟨h0, ht ▸ hnot⟩
    · exact .inr (ha.of_taken ht)
  cases hstep with
  | keeps hv ht =>
    exact ⟨fun rs q hq => h.counter rs q (hv.symm.trans hq),
      fun rs q hq r hr => hkeep ht (hv.symm.trans hq) hr, hsame ht⟩
  | takes rs q hv hv' ht =>
    refine ⟨?_, ?_, ?_⟩
    · intro rs' q' hq
      obtain ⟨rfl, rfl⟩ := Prod.mk.inj (Option.some.inj (hv'.symm.trans hq))
      exact (nextSeq_bounds (h.counter rs q hv)).2
    · intro rs' q' hq r hr
      obtain ⟨rfl, rfl⟩ := Prod.mk.inj (Option.some.inj (hv'.symm.trans hq))
      exact h.others hv hr (by simp) ht
    · intro token x hx
      rw [ht, List.mem_cons] at hx
      rcases hx with hx | hx
      · cases hx
      · exact harr (h.owners token x hx)
  | allocates rs q r hv hr h0 hv' ht =>
    have hnot : ∀ x, (some r.token, x) ∉ taken s.trace := by
      rcases h.requests rs q hv r hr with ⟨-, hnot⟩ | ha
      · exact hnot
      · have hle := ha.le
        rw [h0] at hle
        exact absurd hle (by decide)
    refine ⟨?_, ?_, ?_⟩
    · intro rs' q' hq
      obtain ⟨rfl, rfl⟩ := Prod.mk.inj (Option.some.inj (hv'.symm.trans hq))
      exact (nextSeq_bounds (h.counter rs q hv)).2
    · intro rs' q' hq r' hr'
      obtain ⟨rfl, rfl⟩ := Prod.mk.inj (Option.some.inj (hv'.symm.trans hq))
      obtain ⟨r₀, hr₀, rfl⟩ := List.mem_map.mp hr'
      by_cases hk : r₀.token = r.token
      · have hb : (r₀.token == r.token) = true := beq_iff_eq.mpr hk
        rw [← hk] at hnot ht
        rw [if_pos hb]
        exact .inr (Allocated.new (r := r₀) (h.counter rs q hv) hnot ht)
      · have hb : (r₀.token == r.token) = false := beq_false_of_ne hk
        simp only [hb, Bool.false_eq_true, if_false]
        exact h.others hv hr₀ (fun he => hk (Option.some.inj he).symm) ht
    · intro token x hx
      rw [ht, List.mem_cons] at hx
      rcases hx with hx | hx
      · obtain ⟨rfl, -⟩ := Prod.mk.inj hx |>.imp Option.some.inj id
        rw [← RilData.fmtRequests_of_seqState hv] at hr
        exact harr (arrived_of_mem hs (hs.fmt_mem_tokens hr))
      · exact harr (h.owners token x hx)
  | arrives r h0 hf hv ht =>
    refine ⟨?_, ?_, hsame ht⟩
    · intro rs q hq
      rw [hv] at hq
      obtain ⟨⟨rs', q'⟩, hv', he⟩ := Option.map_eq_some_iff.mp hq
      obtain ⟨rfl, rfl⟩ := Prod.mk.inj he
      exact h.counter rs' q' hv'
    · intro rs q hq r' hr'
      rw [hv] at hq
      obtain ⟨⟨rs', q'⟩, hv', he⟩ := Option.map_eq_some_iff.mp hq
      obtain ⟨rfl, rfl⟩ := Prod.mk.inj he
      rw [List.mem_append, List.mem_singleton] at hr'
      rcases hr' with hr' | rfl
      · exact hkeep ht hv' hr'
      · refine .inl ⟨h0, fun x hx => ?_⟩
        rw [ht] at hx
        obtain ⟨request, data, hm⟩ := h.owners _ x hx
        exact hf request data hm
  | removes hv ht =>
    refine ⟨?_, ?_, hsame ht⟩
    · intro rs q hq
      obtain ⟨rs', hv', -⟩ := hv rs q hq
      exact h.counter rs' q hv'
    · intro rs q hq r hr
      obtain ⟨rs', hv', hsub⟩ := hv rs q hq
      exact hkeep ht hv' (hsub.subset hr)
  | flushes hv ht =>
    refine ⟨?_, ?_, hsame ht⟩
    · intro rs q hq
      obtain ⟨-, rfl⟩ := hv rs q hq
      decide
    · intro rs q hq r hr
      obtain ⟨rfl, -⟩ := hv rs q hq
      exact absurd hr List.not_mem_nil

end Numbered

lemma reachable_numbered {d : Daemon} (h : Reachable d) : Numbered d.data :=
  op_invariant (fun _ _ hf => hf) Numbered.init
    (fun _ _ _ _ hf hs hn hop => hn.step hs (op_seq_step hf hs hop) (registry_trace (op_registry hf hs hop))) h

end Ril.Samsung
