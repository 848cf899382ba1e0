import Ril.Samsung.Proofs.Calm

/-! The tones that are sent, and the entries of the request data that they are kept in. -/

namespace Ril.Samsung

open Ril.Ipc Ril.Lib

def dtmfRequests : List RilRequestCode := [.dtmf, .dtmfStart, .dtmfStop]

/-- The tone of a request that plays one -/
def requestTone : RilRequestCode → RilValue → Option UInt8
  | .dtmf, .string value => some (byteAt (dtmfData value) 0)
  | .dtmfStart, .string value => some (byteAt (dtmfData value) 0)
  | _, _ => none

/-! ### What the trace says of the tones -/

/-- Whether a continuous tone was started or stopped. -/
def Event.contDtmf : Event → Option Bool
  | sent ⟨_, .callContDtmf, _, data⟩ true => some (byteAt data 0 == ipcCallDtmfStatusStart)
  | _ => none

/-- The seq and the tone of a message that plays one -/
def Event.tone : Event → Option (UInt8 × UInt8)
  | sent ⟨mseq, .callContDtmf, _, data⟩ true =>
    if byteAt data 0 = ipcCallDtmfStatusStart then some (mseq, byteAt data 1) else none
  | sent ⟨mseq, .callBurstDtmf, _, data⟩ true => some (mseq, byteAt data 2)
  | _ => none

/-- The last continuous tone was not stopped. -/
def playing : List Event → Bool
  | [] => false
  | e :: earlier => e.contDtmf.getD (playing earlier)

/-- No continuous tone is started before the one before it was stopped. -/
def StartsStopped : List Event → Prop
  | [] => True
  | e :: earlier => (e.contDtmf = some true → playing earlier = false) ∧ StartsStopped earlier

def Event.takenBy (token : RilToken) : Event → Bool
  | seqTaken owner _ => owner == some token
  | _ => false

/-- The tones sent since the request has taken its seq -/
def tonesSince (token : RilToken) (trace : List Event) : List (UInt8 × UInt8) :=
  (trace.takeWhile fun e => !e.takenBy token).filterMap Event.tone

/-- The tone is the one of a registered request with this seq, and the first that is sent for it. -/
structure Plays (trace : List Event) (seq tone : UInt8) (token : RilToken) : Prop where
  arrived : ∃ request data, Event.arrived token request data ∈ trace ∧ requestTone request data = some tone
  cancelled : Event.cancelled token ∉ trace
  completed : ∀ error response, Event.completed token error response ∉ trace
  taken : (some token, seq) ∈ taken trace
  first : tonesSince token trace = []

def TonesPlayed : List Event → Prop
  | [] => True
  | e :: earlier => (∀ seq tone, e.tone = some (seq, tone) → ∃ token, Plays earlier seq tone token) ∧ TonesPlayed earlier

/-- The events that are no tones -/
def Event.toneless (e : Event) : Prop := e.contDtmf = none ∧ e.tone = none

section

variable {trace trace' : List Event} {token : RilToken}

lemma playing_extend (h : Extends Event.toneless trace trace') : playing trace' = playing trace := by
  obtain ⟨new, rfl, hn⟩ := h
  induction new with
  | nil => rfl
  | cons e new ih =>
    rw [List.cons_append, playing, (hn e List.mem_cons_self).1, Option.getD_none]
    exact ih fun e he => hn e (List.mem_cons_of_mem _ he)

lemma starts_extend (h : Extends Event.toneless trace trace') (hs : StartsStopped trace) : StartsStopped trace' := by
  obtain ⟨new, rfl, hn⟩ := h
  induction new with
  | nil => exact hs
  | cons e new ih =>
    refine ⟨fun he => ?_, ih fun e he => hn e (List.mem_cons_of_mem _ he)⟩
    rw [(hn e List.mem_cons_self).1] at he
    cases he

lemma tones_extend (h : Extends Event.toneless trace trace') (ht : TonesPlayed trace) : TonesPlayed trace' := by
  obtain ⟨new, rfl, hn⟩ := h
  induction new with
  | nil => exact ht
  | cons e new ih =>
    refine ⟨fun seq tone he => ?_, ih fun e he => hn e (List.mem_cons_of_mem _ he)⟩
    rw [(hn e List.mem_cons_self).2] at he
    cases he

lemma tones_since_taken {e : Event} (h : e.takenBy token = true) : tonesSince token (e :: trace) = [] := by
  rw [tonesSince, List.takeWhile_cons_of_neg (by simp [h])]
  rfl

lemma tones_since_extend (h : Extends Event.toneless trace trace') (hs : tonesSince token trace = []) :
    tonesSince token trace' = [] := by
  obtain ⟨new, rfl, hn⟩ := h
  induction new with
  | nil => exact hs
  | cons e new ih =>
    cases ht : e.takenBy token with
    | true => exact tones_since_taken ht
    | false =>
      have ih := ih fun e he => hn e (List.mem_cons_of_mem _ he)
      rw [List.cons_append, tonesSince, List.takeWhile_cons_of_pos (by simp [ht]),
        List.filterMap_cons_none (hn e List.mem_cons_self).2]
      exact ih

end

namespace RilData

/-- The stops whose answer plays a tone -/
def stops (s : RilData) : List IpcGenPhoneResExpect := s.fmtExpects.filter (·.callback == some .ipcCallContDtmf)

end RilData

/-! ### The operations that concern no tone -/

structure KeepsTones (s t : RilData) : Prop where
  burst : t.entriesOf .dtmf = s.entriesOf .dtmf
  start : t.entriesOf .dtmfStart = s.entriesOf .dtmfStart
  stops : t.stops = s.stops
  data : t.fmt.data.isSome = s.fmt.data.isSome
  trace : Extends Event.toneless s.trace t.trace

def playsTone (command : IpcCommand) : Bool := command == .callContDtmf || command == .callBurstDtmf

/-- An operation that sends no tone and leaves the entries of the tones as they are -/
def Op.toneless : Op → Prop
  | .transmit _ expect command _ _ => expect ≠ some (.callback .ipcCallContDtmf) ∧ playsTone command = false
  | .dataSet request _ | .dataFree request | .dataDrop request => request ≠ .dtmf ∧ request ≠ .dtmfStart
  | .start _ event => ∀ m ok, event ≠ some (.sent m ok)
  | .radio radioState => radioState ≠ .unavailable
  | .expectUnregister _ | .clientDestroy => False
  | _ => True

lemma sent_toneless {m : IpcRequest} {ok : Bool} (h : playsTone m.command = false ∨ ok = false) : (Event.sent m ok).toneless := by
  obtain ⟨mseq, command, type, data⟩ := m
  cases ok with
  | false => exact ⟨by cases command <;> rfl, by cases command <;> rfl⟩
  | true =>
    have hc : playsTone command = false := by simpa using h
    cases command <;> first | exact ⟨rfl, rfl⟩ | cases hc

lemma toneless_of_sent {op : Op} (h : ∀ m ok, op.logs (.sent m ok) → playsTone m.command = false ∨ ok = false) {e : Event}
    (he : op.logs e) : e.toneless := by
  cases e with
  | sent m ok => exact sent_toneless (h m ok he)
  | _ => exact ⟨rfl, rfl⟩

namespace KeepsTones

variable {s t u : RilData}

lemma refl (s : RilData) : KeepsTones s s := ⟨rfl, rfl, rfl, rfl, .refl _⟩

lemma trans (h : KeepsTones s t) (h' : KeepsTones t u) : KeepsTones s u :=
  ⟨h'.burst.trans h.burst, h'.start.trans h.start, h'.stops.trans h.stops, h'.data.trans h.data,
    h.trace.trans h'.trace⟩

lemma op_entries {op : Op} (h : op.toneless) {request : RilRequestCode} (hq : request = .dtmf ∨ request = .dtmfStart)
    (s : RilData) : (op.exec s).entriesOf request = s.entriesOf request := by
  have hkept (h : op.keepsRequestData) : (op.exec s).entriesOf request = s.entriesOf request :=
    s.entriesOf_of_data (op_requestsData h s)
  have hne {q : RilRequestCode} (hn : q ≠ .dtmf ∧ q ≠ .dtmfStart) : request ≠ q := by
    rintro rfl
    exact hq.elim hn.1 hn.2
  cases op with
  | dataSet q value => exact s.entriesOf_dataSet_of_ne (hne h) value
  | dataFree q => exact s.entriesOf_dataFree_of_ne (hne h)
  | dataDrop q => exact s.entriesOf_dataDrop_of_ne (hne h)
  | radio radioState => exact hkept h
  | _ => exact hkept trivial

lemma stops_of_expects (h : t.fmtExpects = s.fmtExpects) : t.stops = s.stops := by
  rw [RilData.stops, RilData.stops, h]

lemma stops_of_fmt (h : t.fmt = s.fmt) : t.stops = s.stops := stops_of_expects (RilData.fmtExpects_of_fmt h)

lemma expect_send_stops {expect : Option ExpectKind} (h : expect ≠ some (.callback .ipcCallContDtmf)) (s : RilData)
    (mseq : UInt8) (command : IpcCommand) (type : IpcRequestType) (data : Bytes) :
    (expectSend expect mseq command type data s).2.stops = s.stops := by
  cases expect with
  | none => exact stops_of_expects (RilData.expectSend_none_fmtExpects s mseq command type data)
  | some kind =>
    cases hd : s.fmt.data.isSome with
    | true =>
      have hk : (kind.entry mseq command).callback ≠ some .ipcCallContDtmf := by
        cases kind with
        | callback callback =>
          rintro he
          exact h (congrArg (fun c => some (ExpectKind.callback c)) (Option.some.inj he))
        | complete | abort => simp [ExpectKind.entry]
      rw [RilData.stops, RilData.expectSend_some_fmtExpects s kind mseq command type data hd, List.filter_append]
      simp [RilData.stops, hk]
    | false =>
      rw [RilData.expectSend_apply, if_pos ⟨rfl, by simpa using hd⟩]

lemma op_stops {op : Op} (h : op.toneless) (s : RilData) : (op.exec s).stops = s.stops := by
  cases op with
  | complete token error response =>
    refine stops_of_expects ?_
    simp only [Op.exec, RilData.requestComplete]
    split
    · rfl
    · exact RilData.requestUnregister_fmtExpects s token
  | requestSeq token => exact stops_of_expects (RilData.ipcFmtRequestSeq_fmtExpects s token)
  | transmit sender expect command type data =>
    cases sender with
    | request token =>
      exact (expect_send_stops h.1 _ _ command type data).trans
        (stops_of_expects (RilData.ipcFmtRequestSeq_fmtExpects s token))
    | reply aseq => exact expect_send_stops h.1 s aseq command type data
    | own =>
      exact (expect_send_stops h.1 _ _ command type data).trans
        (stops_of_expects (RilData.ipcFmtSeq_fmtExpects s none))
  | dataSet request value =>
    simp only [Op.exec, RilData.requestDataSet]
    split
    · rfl
    · rfl
  | radio radioState => exact stops_of_fmt (RilData.radioStateUpdate_lists h s).2
  | arrive request data token =>
    refine stops_of_expects ((RilData.modifyFmt_fmtExpects _ fun _ => ?_).trans
      (RilData.requestUnregister_fmtExpects s token))
    rfl
  | cancel token =>
    refine stops_of_expects ?_
    simp only [Op.exec, rilOnCancel]
    split
    · rfl
    · exact RilData.requestUnregister_fmtExpects s token
  | simIccType | hsdpaStatus | svcSession => exact stops_of_expects (RilData.modifyFmt_fmtExpects s fun _ => by rfl)
  | expectUnregister | clientDestroy => exact h.elim
  | _ => rfl

lemma logs_toneless {op : Op} (h : op.toneless) {e : Event} (he : op.logs e) : e.toneless := by
  refine toneless_of_sent (fun m ok hm => ?_) he
  cases op with
  | transmit sender expect command type data =>
    rcases hm with ⟨owner, seq, hm⟩ | ⟨mseq, accepted, hm⟩
    · cases hm
    · cases hm
      exact .inl h.2
  | start env event => exact absurd hm (h m ok)
  | radio radioState => simp [Op.logs] at hm
  | _ => simp [Op.logs] at hm

lemma op_data {op : Op} (h : op.toneless) (s : RilData) : (op.exec s).fmt.data.isSome = s.fmt.data.isSome := by
  by_cases hc : op.calm = true
  · exact Calm.op_data hc s
  · cases op with
    | start | setStatus => rfl
    | clientDestroy => exact h.elim
    | _ => exact absurd rfl hc

lemma of_op (o : Op) (h : o.toneless) (s : RilData) : KeepsTones s (o.exec s) :=
  ⟨op_entries h (.inl rfl) s, op_entries h (.inr rfl) s, op_stops h s, op_data h s,
    (op_logged o s).mono fun _ => logs_toneless h⟩

lemma of_path {A : RilData → Op → Prop} (hp : Path Op.exec A s t) (hA : ∀ s op, A s op → op.toneless) :
    KeepsTones s t := by
  induction hp with
  | refl => exact .refl s
  | tail _ ht ih =>
    obtain ⟨op, hop, rfl⟩ := ht
    exact ih.trans (of_op op (hA _ op hop) _)

end KeepsTones

/-! ### The handlers that concern no tone -/

def Footprint.noTone (F : Footprint) : Prop :=
  (∀ x ∈ F.messages, x.1 ≠ some (.callback .ipcCallContDtmf) ∧ playsTone x.2.1 = false) ∧
    .dtmf ∉ F.data ∧ .dtmfStart ∉ F.data

section

variable {F : Footprint} {s t : RilData} {op : Op} {message : IpcMessage}

lemma request_no_tone {request : RilRequestCode} (h : request ∉ dtmfRequests) : request.footprint.noTone := by
  cases request with
  | dtmf | dtmfStart | dtmfStop => simp [dtmfRequests] at h
  | _ => simp [Footprint.noTone, RilRequestCode.footprint, playsTone]

lemma callback_no_tone {callback : GenPhoneResCallback} (h : callback ≠ .ipcCallContDtmf) :
    callback.footprint.noTone := by
  cases callback with
  | ipcCallContDtmf => exact absurd rfl h
  | _ => simp [Footprint.noTone, GenPhoneResCallback.footprint, playsTone, lockInfomationRequests]

lemma find_aseq_mem {aseq : UInt8} {e : IpcGenPhoneResExpect} (h : s.expectFindAseq aseq = some e) :
    e ∈ s.fmtExpects ∧ e.aseq = aseq :=
  ⟨List.mem_of_find?_eq_some h, by simpa using List.find?_some h⟩

lemma message_no_tone (h : message.command = .genPhoneRes → ∀ e ∈ s.stops, e.aseq ≠ message.aseq) :
    (messageFootprint message s).noTone := by
  have hempty (off replies connections : Bool) (handled : List RilRequestCode) (tokens : List RilToken) :
      Footprint.noTone ⟨[], [], false, connections, off, replies, handled, tokens⟩ := by simp [Footprint.noTone]
  by_cases hc : message.command = .genPhoneRes
  · have hF : messageFootprint message s = genPhoneResFootprint message s := by
      rw [messageFootprint, hc]
    rw [hF, genPhoneResFootprint]
    split
    · rename_i aseq command callback complete abort he
      obtain ⟨hm, ha⟩ := find_aseq_mem he
      refine callback_no_tone fun hcb => h hc _ (List.mem_filter.mpr ⟨hm, ?_⟩) ha
      rw [hcb]
      rfl
    · exact hempty _ _ _ _ _
    · exact hempty _ _ _ _ _
  · obtain ⟨aseq, command, type, data⟩ := message
    cases command with
    | genPhoneRes => exact absurd rfl hc
    | _ => simp [Footprint.noTone, messageFootprint, playsTone, lockInfomationRequests]

lemma QuietOp.toneless (hF : F.noTone) (h : QuietOp F op) : op.toneless := by
  have hne {request : RilRequestCode} (hr : request ∈ F.data) : request ≠ .dtmf ∧ request ≠ .dtmfStart := by
    constructor
    · rintro rfl
      exact hF.2.1 hr
    · rintro rfl
      exact hF.2.2 hr
  cases op with
  | dataSet | dataFree | dataDrop => exact hne h
  | transmit | start | radio | expectUnregister | clientDestroy => exact h.elim
  | _ => trivial

lemma RequestOp.toneless (hF : F.noTone) {token : RilToken} {sent : Bool} (h : RequestOp F token sent s op) : op.toneless := by
  rcases h.cases with rfl | ⟨expect, command, type, data, rfl, hm, -⟩ | hq
  · trivial
  · exact hF.1 _ hm
  · exact hq.toneless hF

lemma request_path_keeps_tones (hF : F.noTone) {token : RilToken} {sent : Bool} (hp : RequestPath F token sent s t) :
    KeepsTones s t := .of_path hp fun _ _ h => h.toneless hF

lemma expect_unregister_stops {aseq : UInt8} (h : ∀ e ∈ s.stops, e.aseq ≠ aseq) :
    (s.expectUnregister aseq).stops = s.stops := by
  rw [RilData.stops, RilData.stops, RilData.expectUnregister_fmtExpects]
  have hsub : ∀ e ∈ s.fmtExpects, (e.callback == some .ipcCallContDtmf) = true → e.aseq ≠ aseq :=
    fun e he hc => h e (List.mem_filter.mpr ⟨he, hc⟩)
  revert hsub
  induction s.fmtExpects with
  | nil => exact fun _ => rfl
  | cons e es ih =>
    intro hsub
    have htail := ih fun e' he' => hsub e' (List.mem_cons_of_mem _ he')
    by_cases he : e.aseq = aseq
    · have hc : (e.callback == some .ipcCallContDtmf) = false :=
        Bool.eq_false_iff.mpr fun hc => hsub e List.mem_cons_self hc he
      rw [List.eraseP_cons_of_pos (by simpa using he), List.filter_cons, hc]
      rfl
    · rw [List.eraseP_cons_of_neg (by simpa using he), List.filter_cons, List.filter_cons, htail]

lemma MessageOp.keeps_tones (hF : F.noTone)
    (h : message.command = .genPhoneRes → ∀ e ∈ s.stops, e.aseq ≠ message.aseq) (hop : MessageOp F message s op) : KeepsTones s (op.exec s) := by
  rcases hop.cases with ⟨token, error, response, rfl, -⟩ | rfl | ⟨radioState, rfl, hne, -⟩ | hs
  · exact .of_op (.complete token error response) trivial s
  · exact ⟨rfl, rfl, expect_unregister_stops (h hop.2), by simp [Op.exec, RilData.expectUnregister, RilData.modifyFmt], .refl _⟩
  · exact .of_op (.radio radioState) hne s
  · rcases hs.cases with ⟨q, expect, command, type, data, rfl, -, hm⟩ | ⟨token, rfl⟩ | hq
    · exact .of_op (.transmit (.reply q) expect command type data) (hF.1 _ hm) s
    · exact .of_op (.stale token) trivial s
    · exact .of_op op (hq.toneless hF) s

lemma message_path_keeps_tones (hF : F.noTone)
    (h : message.command = .genPhoneRes → ∀ e ∈ s.stops, e.aseq ≠ message.aseq) (hp : MessagePath F message s t) : KeepsTones s t := by
  induction hp with
  | refl => exact .refl s
  | tail _ ht ih =>
    obtain ⟨op, hop, rfl⟩ := ht
    exact ih.trans (hop.keeps_tones hF (ih.stops ▸ h))

lemma dispatch_message_keeps_tones (env : Env)
    (h : message.command = .genPhoneRes → ∀ e ∈ s.stops, e.aseq ≠ message.aseq) : KeepsTones s (dispatchMessage env message s).2 := by
  have hstart : KeepsTones s (s.started env (.received message)) :=
    .of_op (.start env (some (.received message))) (by simp [Op.toneless]) s
  exact hstart.trans (message_path_keeps_tones (message_no_tone h) h (message_path env message s))

end

end Ril.Samsung
