import Ril.Samsung.Proofs.Expectations
import Ril.Samsung.Spec.Events
import Ril.Samsung.Spec.Views

/-! The list of requests and the list of the client hold the same requests. -/

namespace Ril.Samsung

open Ril.Ipc Ril.Lib

structure Paired (s : RilData) : Prop where
  nodup : s.tokens.Nodup
  fmt : ∀ es, s.fmtEntries = some es → es = s.entries.map fun e => (e.1, e.2.2)

namespace Paired

variable {s t : RilData}

lemma init : Paired {} := ⟨List.nodup_nil, by simp [RilData.fmtEntries, RilData.entries]⟩

lemma of_entries (h : Paired s) (he : t.entries = s.entries) (hf : t.fmtEntries = s.fmtEntries) : Paired t := by
  constructor
  · rw [RilData.tokens_eq, he, ← RilData.tokens_eq]
    exact h.nodup
  · rw [he, hf]
    exact h.fmt

lemma keeps (h : Paired s) (hk : KeepsRequests s t) : Paired t := h.of_entries hk.entries hk.fmtEntries

lemma of_lists (h : Paired s) (hr : t.requests = s.requests) (hf : t.fmt.data = s.fmt.data) : Paired t := by
  apply h.of_entries
  · rw [RilData.entries, RilData.entries, hr]
  · rw [RilData.fmtEntries, RilData.fmtEntries, hf]

lemma unregister (h : Paired s) (token : RilToken) : Paired (s.requestUnregister token) := by
  by_cases hm : token ∈ s.tokens
  · obtain ⟨r, hr⟩ := find_token_of_mem hm
    refine ⟨unregister_tokens s token ▸ h.nodup.erase token, ?_⟩
    intro es he
    rw [unregister_fmtEntries hr, Option.map_eq_some_iff] at he
    obtain ⟨es', he', rfl⟩ := he
    have hentry : (r.request, r.data, token) ∈ s.entries := by
      rw [← RilData.requestFindToken_token hr]
      exact List.mem_map_of_mem (RilData.requestFindToken_mem hr)
    rw [h.fmt es' he', unregister_entries hr]
    exact map_eraseP_token (RilData.tokens_eq s ▸ h.nodup) hentry
  · rwa [unregister_of_not_mem hm]

lemma complete (h : Paired s) (token : RilToken) (error : RilErrno) (response : RilResponse) :
    Paired (s.requestComplete token error response) := by
  rw [RilData.requestComplete]
  split
  · exact h
  · exact (h.unregister token).of_lists rfl rfl

lemma cancel (h : Paired s) (token : RilToken) : Paired (rilOnCancel token s) := by
  rw [rilOnCancel]
  split
  · exact h
  · exact (h.unregister token).of_lists rfl rfl

lemma arrive (h : Paired s) (request : RilRequestCode) (data : RilValue) (token : RilToken) :
    Paired (rilOnRequest request data token s) := by
  have hu := h.unregister token
  have hnot : token ∉ (s.requestUnregister token).tokens := unregister_gone h.nodup
  have he : (rilOnRequest request data token s).entries =
      (s.requestUnregister token).entries ++ [(request, data, token)] := by
    simp [rilOnRequest, RilData.entries, RilData.requestRegister, RilData.log]
  have hf : (rilOnRequest request data token s).fmtEntries =
      (s.requestUnregister token).fmtEntries.map (· ++ [(request, token)]) := by
    simp [rilOnRequest, RilData.fmtEntries, RilData.requestRegister, RilData.modifyFmt, RilData.log,
      Function.comp_def]
  constructor
  · rw [RilData.tokens_eq, he, List.map_append, ← RilData.tokens_eq]
    apply List.nodup_append.mpr
    refine ⟨hu.nodup, List.nodup_singleton _, ?_⟩
    rintro a ha b hb rfl
    rw [List.mem_singleton.mp hb] at ha
    exact hnot ha
  · intro es hes
    rw [hf, Option.map_eq_some_iff] at hes
    obtain ⟨es', hes', rfl⟩ := hes
    rw [he, hu.fmt es' hes', List.map_append]
    rfl

end Paired

/-! ### The radio goes away -/

/-- Nothing is left of the requests, of the seqs and of the expected answers. -/
structure Cleared (s : RilData) : Prop where
  requests : s.requests = []
  fmt : ∀ data, s.fmt.data = some data → data.requests = [] ∧ data.seq = 0 ∧ data.genPhoneResExpect = []

section

variable {s t : RilData}

lemma Cleared.of_lists (h : Cleared s) (hr : t.requests = s.requests) (hf : t.fmt.data = s.fmt.data) :
    Cleared t := by
  constructor
  · rw [hr]
    exact h.requests
  · rw [hf]
    exact h.fmt

lemma Cleared.paired (h : Cleared s) : Paired s := by
  constructor
  · simp [RilData.tokens, h.requests]
  · intro es he
    obtain ⟨data, hd, rfl⟩ := Option.map_eq_some_iff.mp he
    simp [RilData.entries, h.requests, (h.fmt data hd).1]

lemma radio_unavailable_cleared (s : RilData) : Cleared s.radioUnavailable := by
  constructor
  · rfl
  · intro data hd
    obtain ⟨_, -, rfl⟩ := Option.map_eq_some_iff.mp hd
    exact ⟨rfl, rfl, rfl⟩

lemma radio_goes_away (h : s.radioState ≠ .unavailable) : Cleared (s.radioStateUpdate .unavailable) := by
  rw [RilData.radioStateUpdate, if_neg h]
  obtain ⟨hr, hf⟩ := RilData.radioOff_lists
    (({ s with radioState := .unavailable }).requestUnsolicited .radioStateChanged .null).radioUnavailable
  exact (radio_unavailable_cleared _).of_lists hr (congrArg _ hf)

lemma radio_paired (h : Paired s) (radioState : RilRadioState) : Paired (s.radioStateUpdate radioState) := by
  by_cases hu : radioState = .unavailable
  · subst hu
    by_cases hs : s.radioState = .unavailable
    · rwa [RilData.radioStateUpdate, if_pos hs]
    · exact (radio_goes_away hs).paired
  · exact h.keeps (radio_keeps hu s)

lemma radio_state_updated (s : RilData) {radioState : RilRadioState} (h : radioState ≠ .unavailable) :
    (s.radioStateUpdate radioState).radioState = radioState := by
  rw [RilData.radioStateUpdate]
  split
  · assumption
  · split
    · exact absurd rfl h
    · exact congrArg (fun v => v.2.1) (RilData.radioOff_loopView _)
    · rfl

end

/-! ### The steps of the daemon -/

lemma op_paired {s : RilData} (h : Paired s) (op : Op) : Paired (op.exec s) := by
  cases op with
  | unsolicited request response => exact h.of_lists rfl rfl
  | complete token error response => exact h.complete token error response
  | requestSeq token => exact h.keeps (.ipcFmtRequestSeq s token)
  | transmit sender expect command type data => exact h.keeps (.transmit s sender expect command type data)
  | expectUnregister aseq => exact h.keeps (.modifyFmt s fun _ => rfl)
  | dataSet request value =>
    simp only [Op.exec, RilData.requestDataSet]
    split
    · exact h
    · exact h.of_lists rfl rfl
  | simIccType | hsdpaStatus | svcSession => exact h.keeps (.modifyFmt s fun _ => rfl)
  | radio radioState => exact radio_paired h radioState
  | setStatus token status => exact h.keeps (.setStatus s token status)
  | retry => exact h.keeps (.retryUnhandled s)
  | arrive request data token => exact h.arrive request data token
  | cancel token => exact h.cancel token
  | clientDestroy =>
    refine ⟨h.nodup, ?_⟩
    intro es he
    cases he
  | dataFree | dataDrop | pinCache | connections | stale | start | signal | client => exact h.of_lists rfl rfl

lemma step_paired {d d' : Daemon} {a : Action} (h : Paired d.data) (hs : step d a = some d') : Paired d'.data :=
  Path.invariant (step_path hs) h fun _ op h _ => op_paired h op

lemma message_op_available {F : Footprint} {message : IpcMessage} {s : RilData} {op : Op}
    (hop : MessageOp F message s op) (h : s.radioState ≠ .unavailable) : (op.exec s).radioState ≠ .unavailable := by
  by_cases hr : ∃ radioState, op = .radio radioState
  · obtain ⟨radioState, rfl⟩ := hr
    rw [Op.exec, radio_state_updated s hop.1]
    exact hop.1
  · rw [op_radioState (not_exists.mp hr)]
    exact h

lemma step_op_available {d : Daemon} {a : Action} {s : RilData} {op : Op} (ha : a ≠ .clientError)
    (hsrs : ∀ env state, a = .srs env (.testSetRadioState state) → RilRadioState.ofCode state ≠ .unavailable) (hop : StepOp d a s op) (h : s.radioState ≠ .unavailable) :
    (op.exec s).radioState ≠ .unavailable := by
  have hkeep (hr : ∀ radioState, op ≠ .radio radioState) : (op.exec s).radioState ≠ .unavailable := by
    rw [op_radioState hr]
    exact h
  cases a with
  | request request data token =>
    obtain ⟨-, rfl⟩ := hop
    exact hkeep (by simp)
  | requestSignal | cancel | loopWake | loopStart | clientStop =>
    obtain rfl := hop
    exact hkeep (by simp)
  | loopDispatch env =>
    obtain ⟨r, -, rfl | ⟨sent, hop⟩ | rfl | rfl | ⟨error, response, rfl, -⟩⟩ := hop
    · exact hkeep (by simp)
    · rw [show (op.exec s).radioState = s.radioState from congrArg (fun v => v.2.1) hop.loopView]
      exact h
    · exact hkeep (by simp)
    · exact hkeep (by simp)
    · exact hkeep (by simp)
  | loopEnd => exact hop.elim
  | message env message =>
    rcases hop with rfl | hop | rfl
    · exact hkeep (by simp)
    · exact message_op_available hop h
    · exact hkeep (by simp)
  | clientError => exact absurd rfl ha
  | clientReopen closed opened =>
    rcases hop with ⟨rfl, -⟩ | ⟨failures, available, rfl⟩
    · rw [Op.exec, radio_state_updated s (by decide)]
      decide
    · exact hkeep (by simp)
  | srs env message =>
    rcases hop with rfl | ⟨command, -, type, data, rfl⟩ | ⟨state, rfl, rfl⟩
    · exact hkeep (by simp)
    · exact hkeep (by simp)
    · rw [Op.exec, radio_state_updated s (hsrs env state rfl)]
      exact hsrs env state rfl

lemma step_cleared {d d' : Daemon} {a : Action} (hs : step d a = some d') (h : d.data.radioState ≠ .unavailable)
    (h' : d'.data.radioState = .unavailable) : Cleared d'.data := by
  by_cases ha : a = .clientError
  · subst ha
    obtain ⟨-, -, rfl⟩ := step_client_error.mp hs
    exact (radio_goes_away h).of_lists rfl rfl
  · by_cases hsrs : ∃ env state, a = .srs env (.testSetRadioState state) ∧ RilRadioState.ofCode state = .unavailable
    · obtain ⟨env, state, rfl, hu⟩ := hsrs
      obtain ⟨-, rfl⟩ := step_srs.mp hs
      change Cleared (({ d.data with env := env } : RilData).radioStateUpdate (.ofCode state))
      rw [hu]
      exact radio_goes_away h
    · refine absurd h' (Path.invariant (I := fun s => s.radioState ≠ .unavailable) (step_path hs) h ?_)
      intro s op hi hop
      apply step_op_available ha _ hop hi
      intro env state he hu
      exact hsrs ⟨env, state, he, hu⟩

/-- Whatever tokens the framework hands in, the list of the client has the codes and tokens of the list of requests, in
the same order. -/
theorem request_lists_agree {d : Daemon} (h : Reaches step (fun _ _ => True) {} d) :
    (∀ data, d.data.fmt.data = some data →
      (data.requests.map fun r => (r.request, r.token)) = d.data.requests.map fun r => (r.request, r.token)) ∧
    (d.data.requests.map (·.token)).Nodup ∧
    ∀ a d', step d a = some d' → d.data.radioState ≠ .unavailable → d'.data.radioState = .unavailable →
      d'.data.requests = [] ∧ ∀ data, d'.data.fmt.data = some data →
        data.requests = [] ∧ data.seq = 0 ∧ data.genPhoneResExpect = [] := by
  have hp : Paired d.data := h.invariant Paired.init fun _ _ _ _ hi _ hs => step_paired hi hs
  refine ⟨?_, hp.nodup, ?_⟩
  · intro data hd
    have he := hp.fmt (data.requests.map fun r => (r.request, r.token)) (by simp [RilData.fmtEntries, hd])
    rw [he, RilData.entries, List.map_map]
    rfl
  · intro a d' hs ha hu
    obtain ⟨hr, hf⟩ := step_cleared hs ha hu
    exact ⟨hr, hf⟩

/-- The second request takes the place of the first. -/
def replacedRun : List Action := [.request .dial (.dial none 0) 7, .request .setMute (.ints [1]) 7]

theorem request_lists_agree_replaced :
    (((runFrom {} replacedRun).data.requests.map fun r => (r.request, r.token)) = [(.setMute, 7)]) ∧
      ((runFrom {} replacedRun).data.requests.map (·.token)).Nodup :=
  ⟨rfl, (request_lists_agree
    (reaches_runFrom (by rfl : runs (fun _ _ => true) {} replacedRun = true) fun _ _ _ => trivial)).2.1⟩

end Ril.Samsung
