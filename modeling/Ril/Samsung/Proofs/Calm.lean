import Ril.Samsung.Proofs.RequestLists

/-! The steps in which no request becomes handled. -/

namespace Ril.Samsung

open Ril.Ipc Ril.Lib

def Event.silent : Event → Prop
  | received _ => False
  | _ => True

lemma taken_suffix {trace trace' : List Event} (h : trace <:+ trace') {x : Option RilToken × UInt8}
    (hx : x ∈ taken trace) : x ∈ taken trace' :=
  (h.sublist.filterMap Event.taken).subset hx

/-- No request becomes handled, and nothing is received. -/
structure Calm (s t : RilData) : Prop where
  handled : ∀ r ∈ t.requests, r.status = .handled → r ∈ s.requests
  data : t.fmt.data.isSome = s.fmt.data.isSome
  trace : Extends Event.silent s.trace t.trace

/-- The operations that are calm -/
def Op.calm : Op → Bool
  | .start _ (some (.received _)) | .setStatus _ .handled | .clientDestroy => false
  | _ => true

namespace Calm

variable {s t u : RilData}

lemma refl (s : RilData) : Calm s s := ⟨fun _ h _ => h, rfl, .refl _⟩

lemma trans (h : Calm s t) (h' : Calm t u) : Calm s u :=
  ⟨fun r hr hh => h.handled r (h'.handled r hr hh) hh, h'.data.trans h.data, h.trace.trans h'.trace⟩

lemma logs_silent {op : Op} (h : op.calm = true) (e : Event) (he : op.logs e) : e.silent := by
  cases e with
  | received m =>
    cases op with
    | start env event =>
      obtain rfl : event = some (.received m) := he
      cases h
    | _ => simp [Op.logs] at he
  | _ => trivial

lemma unregister_data (s : RilData) (token : RilToken) :
    (s.requestUnregister token).fmt.data.isSome = s.fmt.data.isSome := by
  rw [RilData.requestUnregister]
  split
  · rfl
  · exact Option.isSome_map

lemma radio_requests (s : RilData) (radioState : RilRadioState) :
    ∀ r ∈ (s.radioStateUpdate radioState).requests, r ∈ s.requests := by
  by_cases hu : radioState = .unavailable
  · subst hu
    by_cases hs : s.radioState = .unavailable
    · simp [RilData.radioStateUpdate, hs]
    · simp [(radio_goes_away hs).requests]
  · rw [(RilData.radioStateUpdate_lists hu s).1]
    exact fun r hr => hr

lemma radio_rounds_data (rs : List RilRequest) (s : RilData) :
    (rs.foldl RilData.radioUnavailableRound s).fmt.data.isSome = s.fmt.data.isSome := by
  induction rs generalizing s with
  | nil => rfl
  | cons r rs ih =>
    have hc : (s.requestComplete r.token .radioNotAvailable .null).fmt.data.isSome = s.fmt.data.isSome := by
      rw [RilData.requestComplete]
      split
      · rfl
      · exact unregister_data s r.token
    rw [List.foldl_cons, ih, RilData.radioUnavailableRound]
    split
    · exact (unregister_data _ _).trans hc
    · exact hc

lemma radio_data (s : RilData) (radioState : RilRadioState) :
    (s.radioStateUpdate radioState).fmt.data.isSome = s.fmt.data.isSome := by
  by_cases hu : radioState = .unavailable
  · subst hu
    rw [RilData.radioStateUpdate]
    split
    · rfl
    · rw [(RilData.radioOff_lists _).2]
      exact Option.isSome_map.trans (radio_rounds_data _ _)
  · rw [(RilData.radioStateUpdate_lists hu s).2]

lemma op_data {op : Op} (h : op.calm = true) (s : RilData) : (op.exec s).fmt.data.isSome = s.fmt.data.isSome := by
  cases op with
  | complete token error response =>
    simp only [Op.exec, RilData.requestComplete]
    split
    · rfl
    · exact unregister_data s token
  | requestSeq token => exact congrArg Prod.fst (request_seq_accept s token)
  | transmit sender expect command type data =>
    cases sender with
    | request token =>
      exact congrArg Prod.fst ((expect_send_accept _ expect _ command type data).trans (request_seq_accept s token))
    | reply aseq => exact congrArg Prod.fst (expect_send_accept s expect aseq command type data)
    | own => exact congrArg Prod.fst ((expect_send_accept _ expect _ command type data).trans (seq_accept s none))
  | dataSet request value =>
    simp only [Op.exec, RilData.requestDataSet]
    split <;> rfl
  | expectUnregister | simIccType | hsdpaStatus | svcSession => exact Option.isSome_map
  | radio radioState => exact radio_data s radioState
  | arrive request data token => exact Option.isSome_map.trans (unregister_data s token)
  | cancel token =>
    simp only [Op.exec, rilOnCancel]
    split
    · rfl
    · exact unregister_data s token
  | clientDestroy => cases h
  | _ => rfl

lemma op_requests {op : Op} (h : ∀ token status, op ≠ .setStatus token status) (s : RilData) :
    ∀ r ∈ (op.exec s).requests, r ∈ s.requests ∨
      r.status = .pending ∧ ((∃ r₀ ∈ s.requests, r₀.token = r.token ∧ r₀.status = .unhandled) ∨
        ∃ request data, op = .arrive request data r.token) := by
  intro r hr
  cases op with
  | setStatus token status => exact absurd rfl (h token status)
  | retry =>
    obtain ⟨r₀, hr₀, rfl⟩ := List.mem_map.mp hr
    split
    · exact .inr ⟨rfl, .inl ⟨r₀, hr₀, rfl, ‹_›⟩⟩
    · exact .inl hr₀
  | arrive request data token =>
    rcases List.mem_append.mp hr with hr | hr
    · exact .inl (mem_of_unregister hr)
    · rw [List.mem_singleton.mp hr]
      exact .inr ⟨rfl, .inr ⟨request, data, rfl⟩⟩
  | complete token error response =>
    simp only [Op.exec, RilData.requestComplete] at hr
    split at hr
    · exact .inl hr
    · exact .inl (mem_of_unregister hr)
  | requestSeq token => exact .inl (RilData.ipcFmtRequestSeq_requests s token ▸ hr)
  | transmit sender expect command type data =>
    have hview : (transmit sender expect command type data s).2.requests = s.requests :=
      congrArg Prod.fst (s.transmit_loopView sender expect command type data)
    exact .inl (hview ▸ hr)
  | dataSet request value =>
    simp only [Op.exec, RilData.requestDataSet] at hr
    split at hr
    · exact .inl hr
    · exact .inl hr
  | radio radioState => exact .inl (radio_requests s radioState r hr)
  | cancel token =>
    simp only [Op.exec, rilOnCancel] at hr
    split at hr
    · exact .inl hr
    · exact .inl (mem_of_unregister hr)
  | _ => exact .inl hr

lemma op_handled {op : Op} (h : op.calm = true) (s : RilData) :
    ∀ r ∈ (op.exec s).requests, r.status = .handled → r ∈ s.requests := by
  intro r hr hh
  by_cases hset : ∃ token status, op = .setStatus token status
  · obtain ⟨token, status, rfl⟩ := hset
    obtain ⟨r', hr', rfl⟩ := List.mem_map.mp hr
    split at hh
    · subst hh
      cases h
    · rename_i hk
      rwa [if_neg hk]
  · rcases op_requests (fun token status he => hset ⟨token, status, he⟩) s r hr with hr | ⟨hp, -⟩
    · exact hr
    · rw [hp] at hh
      cases hh

lemma of_op (o : Op) (h : o.calm = true) (s : RilData) : Calm s (o.exec s) :=
  ⟨op_handled h s, op_data h s, (op_logged o s).mono (logs_silent h)⟩

lemma of_path {A : RilData → Op → Prop} (hp : Path Op.exec A s t) (hA : ∀ s op, A s op → op.calm = true) :
    Calm s t := by
  induction hp with
  | refl => exact .refl s
  | tail _ ht ih =>
    obtain ⟨op, hop, rfl⟩ := ht
    exact ih.trans (of_op op (hA _ op hop) _)

end Calm

section

variable {F : Footprint} {d d' : Daemon} {a : Action} {s t : RilData} {op : Op}

lemma QuietOp.calm (h : QuietOp F op) : op.calm = true := by
  cases op with
  | start | setStatus | clientDestroy => exact h.elim
  | _ => rfl

lemma RequestOp.calm {token : RilToken} {sent : Bool} (h : RequestOp F token sent s op) : op.calm = true := by
  rcases h.cases with rfl | ⟨expect, command, type, data, rfl, -⟩ | hq
  · rfl
  · rfl
  · exact hq.calm

lemma MessageOp.calm {message : IpcMessage} (h : MessageOp F message s op) : op.calm = true := by
  rcases h.cases with ⟨token, error, response, rfl, -⟩ | rfl | ⟨radioState, rfl, -⟩ | h
  · rfl
  · rfl
  · rfl
  · rcases h.cases with ⟨q, expect, command, type, data, rfl, -⟩ | ⟨token, rfl⟩ | hq
    · rfl
    · rfl
    · exact hq.calm

/-- The steps apart from the dispatch of a request, the messages of the modem and the end of the client -/
lemma step_op_calm (h : StepOp d a s op) (hd : ∀ env, a ≠ .loopDispatch env) (hm : ∀ env message, a ≠ .message env message)
    (hstop : a ≠ .clientStop) : op.calm = true := by
  cases a with
  | request => exact h.2 ▸ rfl
  | requestSignal | cancel | loopWake | loopStart => exact h ▸ rfl
  | loopDispatch env => exact absurd rfl (hd env)
  | loopEnd => exact h.elim
  | message env message => exact absurd rfl (hm env message)
  | clientError => rcases h with rfl | ⟨failures, rfl⟩ <;> rfl
  | clientReopen closed opened => rcases h with ⟨rfl, -⟩ | ⟨failures, available, rfl⟩ <;> rfl
  | clientStop => exact absurd rfl hstop
  | srs env message => rcases h with rfl | ⟨command, -, type, data, rfl⟩ | ⟨state, -, rfl⟩ <;> rfl

lemma started_calm (env : Env) (token : RilToken) (s : RilData) : Calm s (s.started env (.dispatched token)) :=
  Calm.of_op (.start env (some (.dispatched token))) rfl s

lemma request_path_calm {F : Footprint} {token : RilToken} {sent : Bool} (hp : RequestPath F token sent s t) :
    Calm s t := Calm.of_path hp fun _ _ h => h.calm

lemma message_calm (env : Env) (message : IpcMessage) (s : RilData) :
    Calm (s.started env (.received message)) (dispatchMessage env message s).2 :=
  Calm.of_path (message_path env message s) fun _ _ h => h.calm

lemma dispatch_silent (env : Env) (r : RilRequest) (s : RilData) :
    Extends Event.silent s.trace (dispatchRequest env r s).trace := by
  have hcalm := started_calm env r.token s
  rcases dispatch_cases env r s with ⟨he, -⟩ | ⟨s', hp, he⟩ | ⟨s', error, response, hp, he⟩
  · rw [he]
    exact hcalm.trace
  · rw [he]
    exact (hcalm.trans (request_path_calm hp)).trace
  · rw [he]
    exact ((hcalm.trans (request_path_calm hp)).trans (.of_op (.complete r.token error response) rfl _)).trace

end

end Ril.Samsung
