import Ril.Samsung.Proofs.Conservation
import Ril.Samsung.Proofs.Dtmf

/-! The tones that are sent when a request is dispatched and when the tone before it has stopped. -/

namespace Ril.Samsung

open Ril.Ipc Ril.Lib

/-! ### The states of the tones -/

/-- The answer that is expected to a stop that makes way for another tone -/
def stopExpect (seq : UInt8) : IpcGenPhoneResExpect :=
  ExpectKind.entry seq .callContDtmf (.callback .ipcCallContDtmf)

/-- No tone waits for the stop of another one. -/
structure Idle (s : RilData) : Prop where
  burst : s.entriesOf .dtmf = []
  start : s.entriesOf .dtmfStart = [] ∧ playing s.trace = false ∨
    ∃ tone rest, s.entriesOf .dtmfStart = [.bytes (tone :: rest)]
  stops : s.stops = []

/-- The entries while the tone of a request waits: only its own one. -/
def WaitingEntry (s : RilData) (request : RilRequestCode) (value : CString) : Prop :=
  request = .dtmf ∧ s.entriesOf .dtmf = [.bytes (dtmfData value)] ∧ s.entriesOf .dtmfStart = [] ∨
    request = .dtmfStart ∧ s.entriesOf .dtmf = [] ∧ s.entriesOf .dtmfStart = [.bytes (dtmfData value)]

/-- The tone of the request waits for the answer to the stop that was sent under its seq. -/
structure Stopping (s : RilData) (r : RilRequest) (seq : UInt8) : Prop where
  mem : r ∈ s.requests
  handled : r.status = .handled
  taken : (some r.token, seq) ∈ taken s.trace
  stops : s.stops = [stopExpect seq]
  stopped : playing s.trace = false
  silent : tonesSince r.token s.trace = []
  entry : ∃ value, r.data = .string value ∧ WaitingEntry s r.request value

/-- The client is gone, no tone waits, or one does. -/
inductive ToneState (s : RilData) : Prop
  | gone : s.fmt.data = none → ToneState s
  | idle : Idle s → ToneState s
  | stopping (r : RilRequest) (seq : UInt8) : Stopping s r seq → ToneState s

/-- What the trace and the state say of the tones -/
structure Tones (s : RilData) : Prop where
  starts : StartsStopped s.trace
  played : TonesPlayed s.trace
  state : ToneState s

section

variable {s t : RilData} {r : RilRequest} {seq : UInt8}

lemma Idle.keeps (h : Idle s) (hk : KeepsTones s t) : Idle t := by
  refine ⟨hk.burst.trans h.burst, ?_, hk.stops.trans h.stops⟩
  rw [hk.start, playing_extend hk.trace]
  exact h.start

lemma Stopping.keeps (h : Stopping s r seq) (hk : KeepsTones s t) (hr : r ∈ t.requests) : Stopping t r seq := by
  obtain ⟨value, hv, he⟩ := h.entry
  refine ⟨hr, h.handled, taken_suffix hk.trace.suffix h.taken, hk.stops.trans h.stops, ?_,
    tones_since_extend hk.trace h.silent, value, hv, ?_⟩
  · rw [playing_extend hk.trace]
    exact h.stopped
  · rw [WaitingEntry, hk.burst, hk.start]
    exact he

lemma Tones.keeps (h : Tones s) (hk : KeepsTones s t)
    (hr : ∀ r seq, Stopping s r seq → r ∈ t.requests) : Tones t := by
  refine ⟨starts_extend hk.trace h.starts, tones_extend hk.trace h.played, ?_⟩
  cases h.state with
  | gone hd =>
    refine .gone ?_
    have hsome := hk.data
    rw [hd] at hsome
    simpa using hsome
  | idle hi => exact .idle (hi.keeps hk)
  | stopping r seq hs => exact .stopping r seq (hs.keeps hk (hr r seq hs))

end

/-! ### Sending -/

section

variable {s t : RilData} {kind : ExpectKind} {mseq : UInt8} {command : IpcCommand} {type : IpcRequestType} {data : Bytes}

/-- The state after a message that was accepted -/
def RilData.sent (kind : ExpectKind) (m : IpcRequest) (s : RilData) : RilData :=
  (s.expectRegister (kind.entry m.mseq m.command)).log (.sent m true)

lemma expect_send_cases (kind : ExpectKind) (mseq : UInt8) (command : IpcCommand) (type : IpcRequestType) (data : Bytes)
    (s : RilData) :
    (s.clientAccepts ⟨mseq, command, type, data⟩ = true ∧
      expectSend (some kind) mseq command type data s = (true, s.sent kind ⟨mseq, command, type, data⟩)) ∨
    (s.clientAccepts ⟨mseq, command, type, data⟩ = false ∧
      (expectSend (some kind) mseq command type data s).1 = false) := by
  rw [RilData.expectSend_apply]
  cases ha : s.clientAccepts ⟨mseq, command, type, data⟩ with
  | true =>
    have hd : s.fmt.data ≠ none := by
      rintro hd
      simp [RilData.clientAccepts, hd] at ha
    left
    rw [if_neg fun h => hd h.2]
    exact ⟨rfl, rfl⟩
  | false =>
    right
    refine ⟨rfl, ?_⟩
    split
    · rfl
    · rfl

lemma refused_keeps (hk : kind ≠ .callback .ipcCallContDtmf)
    (h : (expectSend (some kind) mseq command type data s).1 = false) :
    KeepsTones s (expectSend (some kind) mseq command type data s).2 := by
  have hne : some kind ≠ some (.callback .ipcCallContDtmf) := by simpa using hk
  have hstops := KeepsTones.expect_send_stops hne s mseq command type data
  have hd := congrArg Prod.fst (expect_send_accept s (some kind) mseq command type data)
  have hq := congrArg RilData.requestsData (RilData.expectSend_withoutFmt s (some kind) mseq command type data)
  have he (request : RilRequestCode) :
      (expectSend (some kind) mseq command type data s).2.entriesOf request = s.entriesOf request := by
    rw [RilData.entriesOf, RilData.entriesOf]
    exact congrArg (fun l => (List.filter _ l).map _) hq
  refine ⟨he _, he _, hstops, hd, ?_⟩
  rw [RilData.expectSend_apply] at h ⊢
  split
  · exact .refl _
  · rename_i hn
    rw [if_neg hn] at h
    exact .one (sent_toneless (.inr h)) _

lemma request_seq_keeps (token : RilToken) (s : RilData) : KeepsTones s (s.ipcFmtRequestSeq token).2 :=
  .of_op (.requestSeq token) trivial s

lemma sent_stops (kind : ExpectKind) (m : IpcRequest) (hd : s.fmt.data.isSome = true) :
    (s.sent kind m).stops = s.stops ++ [kind.entry m.mseq m.command].filter (·.callback == some .ipcCallContDtmf) := by
  obtain ⟨d, hd⟩ := Option.isSome_iff_exists.mp hd
  simp [RilData.stops, RilData.sent, RilData.fmtExpects, RilData.expectRegister, RilData.modifyFmt, RilData.log, hd]

end

/-! ### The handlers of the requests -/

/-- The request is handled if its message was sent, and completed otherwise. -/
def settle (token : RilToken) (undo : RilData → RilData) (result : Bool × RilData) : RilRequestStatus × RilData :=
  if result.1 then (.handled, result.2)
  else (.completed, (undo result.2).requestComplete token .genericFailure .null)

def dtmfStop (kind : ExpectKind) (token : RilToken) (s : RilData) : Bool × RilData :=
  transmit (.request token) (some kind) .callContDtmf .set (ipcCallContDtmfData ipcCallDtmfStatusStop 0) s

def dtmfBurst (tone : UInt8) (token : RilToken) (s : RilData) : Bool × RilData :=
  transmit (.request token) (some .abort) .callBurstDtmf .exec (ipcCallBurstDtmfSetup ipcCallDtmfStatusStart tone) s

def dtmfStart (tone : UInt8) (token : RilToken) (s : RilData) : Bool × RilData :=
  transmit (.request token) (some .complete) .callContDtmf .set (ipcCallContDtmfData ipcCallDtmfStatusStart tone) s

/-- Some tone request is being handled. -/
def toneHandled (s : RilData) : Bool :=
  dtmfRequests.any fun request => (s.requestFindRequestStatus request .handled).isSome

section

variable {s : RilData} {value : CString} (token : RilToken)

lemma settle_eq (undo : RilM Unit) (m : RilM Bool) (s : RilData) :
    (do
      if ← m then
        return .handled
      else
        undo
        failRequest token : RilM RilRequestStatus) s = settle token (fun t => (undo t).2) (m s) := by
  rw [settle, bind_apply]
  cases (m s).1 with
  | true => rfl
  | false => rfl

lemma tone_put_off (h : toneHandled s = true) (m : RilM RilRequestStatus) :
    whenNoneHandled [.dtmf, .dtmfStart, .dtmfStop] m s = (.unhandled, s) := by
  rw [whenNoneHandled_apply]
  exact if_pos h

lemma tone_ready (hn : toneHandled s = false) (m : RilM RilRequestStatus) :
    whenNoneHandled [.dtmf, .dtmfStart, .dtmfStop] m s = m s := by
  rw [whenNoneHandled_apply]
  exact if_neg (Bool.eq_false_iff.mp hn)

lemma dtmf_free (hr : s.radioStateCheck .simNotReady = true) (hn : toneHandled s = false)
    (hd : dtmfTone (s.requestDataFind .dtmfStart) = none) :
    rilRequestDtmf (.string value) token s =
      settle token id (dtmfBurst (byteAt (dtmfData value) 0) token (s.requestDataDrop .dtmfStart)) := by
  rw [rilRequestDtmf, whenRadioState_apply, if_pos hr, tone_ready hn, bind_apply, rilRequestDataGet]
  dsimp only
  rw [hd]
  exact settle_eq token (pure ()) (fun t => dtmfBurst (byteAt (dtmfData value) 0) token t) _

lemma dtmf_stops (hr : s.radioStateCheck .simNotReady = true) (hn : toneHandled s = false) {tone : UInt8}
    (hd : dtmfTone (s.requestDataFind .dtmfStart) = some tone) :
    rilRequestDtmf (.string value) token s = settle token (RilData.requestDataFree .dtmf)
      (dtmfStop (.callback .ipcCallContDtmf) token
        ((s.requestDataDrop .dtmfStart).requestDataSet .dtmf (.bytes (dtmfData value)))) := by
  rw [rilRequestDtmf, whenRadioState_apply, if_pos hr, tone_ready hn, bind_apply, rilRequestDataGet]
  dsimp only
  rw [hd]
  exact settle_eq token (rilRequestDataFree .dtmf) (fun t => dtmfStop (.callback .ipcCallContDtmf) token t) _

lemma dtmf_start_free (hr : s.radioStateCheck .simNotReady = true) (hn : toneHandled s = false)
    (hd : dtmfTone (s.requestDataFind .dtmfStart) = none) :
    rilRequestDtmfStart (.string value) token s = settle token (RilData.requestDataFree .dtmfStart)
      (dtmfStart (byteAt (dtmfData value) 0) token
        ((s.requestDataDrop .dtmfStart).requestDataSet .dtmfStart (.bytes (dtmfData value)))) := by
  rw [rilRequestDtmfStart, whenRadioState_apply, if_pos hr, tone_ready hn, bind_apply, rilRequestDataGet]
  dsimp only
  rw [hd]
  exact settle_eq token (rilRequestDataFree .dtmfStart) (fun t => dtmfStart (byteAt (dtmfData value) 0) token t) _

lemma dtmf_start_stops (hr : s.radioStateCheck .simNotReady = true) (hn : toneHandled s = false) {tone : UInt8}
    (hd : dtmfTone (s.requestDataFind .dtmfStart) = some tone) :
    rilRequestDtmfStart (.string value) token s = settle token (RilData.requestDataFree .dtmfStart)
      (dtmfStop (.callback .ipcCallContDtmf) token
        ((s.requestDataDrop .dtmfStart).requestDataSet .dtmfStart (.bytes (dtmfData value)))) := by
  rw [rilRequestDtmfStart, whenRadioState_apply, if_pos hr, tone_ready hn, bind_apply, rilRequestDataGet]
  dsimp only
  rw [hd]
  exact settle_eq token (rilRequestDataFree .dtmfStart) (fun t => dtmfStop (.callback .ipcCallContDtmf) token t) _

lemma dtmf_stop_main (data : RilValue) (hn : toneHandled s = false) :
    rilRequestDtmfStop data token s = settle token id (dtmfStop .complete token (s.requestDataDrop .dtmfStart)) := by
  rw [rilRequestDtmfStop, tone_ready hn, bind_apply, rilRequestDataGet]
  exact settle_eq token (pure ()) (fun t => dtmfStop .complete token t) _

end

/-! ### What is sent -/

section

variable {trace : List Event} {seq tone : UInt8} {token : RilToken} (type : IpcRequestType)

lemma burst_sent (hs : StartsStopped trace) (ht : TonesPlayed trace) (hp : Plays trace seq tone token) :
    StartsStopped (.sent ⟨seq, .callBurstDtmf, type, ipcCallBurstDtmfSetup ipcCallDtmfStatusStart tone⟩ true :: trace) ∧
      TonesPlayed (.sent ⟨seq, .callBurstDtmf, type, ipcCallBurstDtmfSetup ipcCallDtmfStatusStart tone⟩ true :: trace) := by
  refine ⟨⟨nofun, hs⟩, ?_, ht⟩
  intro seq' tone' he
  obtain ⟨rfl, rfl⟩ := Prod.mk.inj (Option.some.inj he)
  exact ⟨token, hp⟩

lemma start_sent (hs : StartsStopped trace) (ht : TonesPlayed trace) (hp : Plays trace seq tone token)
    (hstop : playing trace = false) :
    StartsStopped (.sent ⟨seq, .callContDtmf, type, ipcCallContDtmfData ipcCallDtmfStatusStart tone⟩ true :: trace) ∧
      TonesPlayed (.sent ⟨seq, .callContDtmf, type, ipcCallContDtmfData ipcCallDtmfStatusStart tone⟩ true :: trace) := by
  refine ⟨⟨fun _ => hstop, hs⟩, ?_, ht⟩
  intro seq' tone' he
  obtain ⟨rfl, rfl⟩ := Prod.mk.inj (Option.some.inj he)
  exact ⟨token, hp⟩

lemma stop_sent (seq tone : UInt8) (hs : StartsStopped trace) (ht : TonesPlayed trace) :
    StartsStopped (.sent ⟨seq, .callContDtmf, type, ipcCallContDtmfData ipcCallDtmfStatusStop tone⟩ true :: trace) ∧
      TonesPlayed (.sent ⟨seq, .callContDtmf, type, ipcCallContDtmfData ipcCallDtmfStatusStop tone⟩ true :: trace) :=
  ⟨⟨nofun, hs⟩, nofun, ht⟩

end

/-- A request that is about to be handled and has taken no seq yet -/
structure Dispatches (s : RilData) (r : RilRequest) : Prop where
  synced : Synced s
  numbered : Numbered s
  conserved : Conserved s
  mem : r ∈ s.requests
  untaken : ∀ seq, (some r.token, seq) ∉ taken s.trace
  data : s.fmt.data.isSome = true

section

variable {s t : RilData} {r : RilRequest}

lemma not_ended (h : Conserved s) (hr : r ∈ s.requests) :
    Event.cancelled r.token ∉ s.trace ∧ ∀ error response, Event.completed r.token error response ∉ s.trace := by
  obtain ⟨h0, hc⟩ := h.outstanding r.token (List.mem_map_of_mem hr)
  refine ⟨hc, fun error response hm => ?_⟩
  exact List.countP_eq_zero.mp h0 _ hm (beq_self_eq_true r.token)

namespace Dispatches

lemma of_data (h : Dispatches s r) (hr : t.requests = s.requests) (hf : t.fmt.data = s.fmt.data)
    (ht : t.trace = s.trace) : Dispatches t r := by
  have hk : KeepsRequests s t := .of_eq hr hf ht
  refine ⟨h.synced.keeps hk, ?_, h.conserved.keeps hk, hr ▸ h.mem, ht ▸ h.untaken, hf ▸ h.data⟩
  exact h.numbered.step h.synced (.of_eq hf (by rw [ht])) (ht ▸ List.suffix_rfl)

lemma drop (h : Dispatches s r) (request : RilRequestCode) : Dispatches (s.requestDataDrop request) r :=
  h.of_data rfl rfl rfl

lemma set (h : Dispatches s r) (request : RilRequestCode) (value : RilRequestDataValue) :
    Dispatches (s.requestDataSet request value) r := by
  have heq : (s.requestDataSet request value).requests = s.requests ∧
      (s.requestDataSet request value).fmt.data = s.fmt.data ∧ (s.requestDataSet request value).trace = s.trace := by
    rw [RilData.requestDataSet]
    split
    · exact ⟨rfl, rfl, rfl⟩
    · exact ⟨rfl, rfl, rfl⟩
  exact h.of_data heq.1 heq.2.1 heq.2.2

lemma takes (h : Dispatches s r) : (s.ipcFmtRequestSeq r.token).2.trace =
    .seqTaken (some r.token) (s.ipcFmtRequestSeq r.token).1 :: s.trace := by
  obtain ⟨d, hd⟩ := Option.isSome_iff_exists.mp h.data
  obtain ⟨f, hf⟩ := fmt_find_token h.synced (List.mem_map_of_mem h.mem) hd
  obtain ⟨hm, hk⟩ := fmt_find_token_mem hf
  have h0 : f.seq = 0xff := by
    by_contra hne
    exact h.untaken f.seq (hk ▸ seq_taken h.numbered hm hne)
  simp only [RilData.ipcFmtRequestSeq, hf, h0, beq_self_eq_true, if_true, RilData.ipcFmtSeq, hd]
  rfl

lemma plays (h : Dispatches s r) {tone : UInt8} (ht : requestTone r.request r.data = some tone) :
    Plays (s.ipcFmtRequestSeq r.token).2.trace (s.ipcFmtRequestSeq r.token).1 tone r.token := by
  obtain ⟨hcancel, hcomplete⟩ := not_ended h.conserved h.mem
  have harrived := h.synced.arrived (r.request, r.data, r.token) (List.mem_map_of_mem h.mem)
  rw [h.takes]
  refine ⟨⟨r.request, r.data, List.mem_cons_of_mem _ harrived, ht⟩, ?_, ?_, List.mem_cons_self, ?_⟩
  · simpa using hcancel
  · intro error response
    simpa using hcomplete error response
  · exact tones_since_taken (beq_self_eq_true _)

end Dispatches

lemma Stopping.plays {seq : UInt8} (h : Stopping s r seq) (hs : Synced s) (hc : Conserved s) {value : CString}
    (hv : r.data = .string value) {trace : List Event} (ht : Extends Event.toneless s.trace trace)
    (hn : ∀ e ∈ trace, e.neutral = true ∨ e ∈ s.trace) :
    Plays trace seq (byteAt (dtmfData value) 0) r.token := by
  obtain ⟨hcancel, hcomplete⟩ := not_ended hc h.mem
  have harrived := hs.arrived (r.request, r.data, r.token) (List.mem_map_of_mem h.mem)
  have htone : requestTone r.request r.data = some (byteAt (dtmfData value) 0) := by
    obtain ⟨value', hv', ⟨hq, -⟩ | ⟨hq, -⟩⟩ := h.entry
    · rw [hq, hv]
      rfl
    · rw [hq, hv]
      rfl
  refine ⟨⟨r.request, r.data, ht.suffix.subset harrived, htone⟩, fun hm => ?_, fun error response hm => ?_,
    taken_suffix ht.suffix h.taken, tones_since_extend ht h.silent⟩
  · exact (hn _ hm).elim nofun hcancel
  · exact (hn _ hm).elim nofun (hcomplete error response)

end

/-! ### The dispatch of a request -/

lemma RilData.requestDataSet_view (s : RilData) (request : RilRequestCode) (value : RilRequestDataValue) :
    (s.requestDataSet request value).fmt = s.fmt ∧ (s.requestDataSet request value).trace = s.trace ∧
      ∀ m, (s.requestDataSet request value).clientAccepts m = s.clientAccepts m := by
  rw [requestDataSet]
  split
  · exact ⟨rfl, rfl, fun _ => rfl⟩
  · exact ⟨rfl, rfl, fun _ => rfl⟩

section

variable {s t : RilData} {r : RilRequest} {tone : UInt8}

lemma Idle.tones (hi : Idle s) (hs : StartsStopped s.trace ∧ TonesPlayed s.trace) : Tones s := ⟨hs.1, hs.2, .idle hi⟩

lemma dtmf_tone_none (h : Idle s) (hd : dtmfTone (s.requestDataFind .dtmfStart) = none) :
    s.entriesOf .dtmfStart = [] ∧ playing s.trace = false := by
  rcases h.start with h | ⟨tone, rest, h⟩
  · exact h
  · rw [RilData.requestDataFind_eq, h] at hd
    cases hd

lemma dtmf_tone_some (h : Idle s) {first : UInt8} (hd : dtmfTone (s.requestDataFind .dtmfStart) = some first) :
    ∃ tone rest, s.entriesOf .dtmfStart = [.bytes (tone :: rest)] := by
  rcases h.start with h | h
  · rw [RilData.requestDataFind_eq, h.1] at hd
    cases hd
  · exact h

lemma dtmf_data_cons (value : CString) : ∃ rest, dtmfData value = byteAt (dtmfData value) 0 :: rest := by
  cases value with
  | nil => exact ⟨[], rfl⟩
  | cons b value => exact ⟨value ++ [0], rfl⟩

lemma dtmf_data_size (value : CString) : (RilRequestDataValue.bytes (dtmfData value)).size ≠ 0 := by
  obtain ⟨rest, h⟩ := dtmf_data_cons value
  rw [h]
  exact Nat.succ_ne_zero _

lemma drop_keeps (h : s.entriesOf .dtmfStart = []) : KeepsTones s (s.requestDataDrop .dtmfStart) := by
  refine ⟨s.entriesOf_dataDrop_of_ne (by decide), ?_, rfl, rfl, .refl _⟩
  rw [s.entriesOf_dataDrop, h]
  rfl

lemma burst_idle (h : Dispatches s r) (ht : Tones s) (hi : Idle s) (hv : requestTone r.request r.data = some tone) :
    Tones (dtmfBurst tone r.token s).2 ∧ Idle (dtmfBurst tone r.token s).2 := by
  have hk := request_seq_keeps r.token s
  have hiu := hi.keeps hk
  rw [dtmfBurst, RilData.transmit_request]
  rcases expect_send_cases .abort (s.ipcFmtRequestSeq r.token).1 .callBurstDtmf .exec
    (ipcCallBurstDtmfSetup ipcCallDtmfStatusStart tone) (s.ipcFmtRequestSeq r.token).2 with ⟨-, he⟩ | ⟨-, he⟩
  · rw [he]
    have hidle : Idle ((s.ipcFmtRequestSeq r.token).2.sent .abort ⟨(s.ipcFmtRequestSeq r.token).1, .callBurstDtmf, .exec,
        ipcCallBurstDtmfSetup ipcCallDtmfStatusStart tone⟩) := by
      refine ⟨hiu.burst, hiu.start, ?_⟩
      rw [sent_stops _ _ (hk.data.trans h.data), hiu.stops]
      rfl
    exact ⟨hidle.tones (burst_sent .exec (starts_extend hk.trace ht.starts) (tones_extend hk.trace ht.played) (h.plays hv)), hidle⟩
  · have hr := refused_keeps (by simp) he
    have hidle := hiu.keeps hr
    exact ⟨⟨starts_extend (hk.trans hr).trace ht.starts, tones_extend (hk.trans hr).trace ht.played, .idle hidle⟩, hidle⟩

/-- A tone is started while none plays, with its entry in place. -/
lemma start_idle (h : Dispatches s r) (ht : StartsStopped s.trace ∧ TonesPlayed s.trace)
    (hv : requestTone r.request r.data = some tone) (hstop : playing s.trace = false) (hb : s.entriesOf .dtmf = [])
    (hstops : s.stops = []) {rest : Bytes} (he : s.entriesOf .dtmfStart = [.bytes (tone :: rest)]) :
    (dtmfStart tone r.token s).1 = true ∧ Tones (dtmfStart tone r.token s).2 ∧ Idle (dtmfStart tone r.token s).2 ∨
    (dtmfStart tone r.token s).1 = false ∧ Tones ((dtmfStart tone r.token s).2.requestDataFree .dtmfStart) ∧
      Idle ((dtmfStart tone r.token s).2.requestDataFree .dtmfStart) := by
  have hk := request_seq_keeps r.token s
  rw [dtmfStart, RilData.transmit_request]
  rcases expect_send_cases .complete (s.ipcFmtRequestSeq r.token).1 .callContDtmf .set
    (ipcCallContDtmfData ipcCallDtmfStatusStart tone) (s.ipcFmtRequestSeq r.token).2 with ⟨-, hs⟩ | ⟨-, hs⟩
  · left
    rw [hs]
    have hsent := start_sent .set (starts_extend hk.trace ht.1) (tones_extend hk.trace ht.2) (h.plays hv)
      ((playing_extend hk.trace).trans hstop)
    have hidle : Idle ((s.ipcFmtRequestSeq r.token).2.sent .complete ⟨(s.ipcFmtRequestSeq r.token).1, .callContDtmf, .set,
        ipcCallContDtmfData ipcCallDtmfStatusStart tone⟩) := by
      refine ⟨hk.burst.trans hb, .inr ⟨tone, rest, hk.start.trans he⟩, ?_⟩
      rw [sent_stops _ _ (hk.data.trans h.data), hk.stops, hstops]
      rfl
    exact ⟨rfl, hidle.tones hsent, hidle⟩
  · right
    have hr := hk.trans (refused_keeps (by simp) hs)
    have hidle : Idle ((expectSend (some .complete) (s.ipcFmtRequestSeq r.token).1 .callContDtmf .set
        (ipcCallContDtmfData ipcCallDtmfStatusStart tone) (s.ipcFmtRequestSeq r.token).2).2.requestDataFree .dtmfStart) := by
      refine ⟨?_, .inl ⟨RilData.entriesOf_dataFree _, (playing_extend hr.trace).trans hstop⟩, hr.stops.trans hstops⟩
      exact (RilData.entriesOf_dataFree_of_ne _ (by decide)).trans (hr.burst.trans hb)
    exact ⟨hs, hidle.tones ⟨starts_extend hr.trace ht.1, tones_extend hr.trace ht.2⟩, hidle⟩

/-- The client takes a stop of the continuous tone. -/
def AcceptsStop (s : RilData) : Prop :=
  ∀ mseq, s.clientAccepts ⟨mseq, .callContDtmf, .set, ipcCallContDtmfData ipcCallDtmfStatusStop 0⟩ = true

lemma AcceptsStop.after_seq (h : AcceptsStop s) (token : RilToken) : AcceptsStop (s.ipcFmtRequestSeq token).2 :=
  fun mseq => (accepts_of_view (request_seq_accept s token) _).trans (h mseq)

lemma stop_idle (ht : StartsStopped s.trace ∧ TonesPlayed s.trace) (hd : s.fmt.data.isSome = true)
    (hb : s.entriesOf .dtmf = []) (he : s.entriesOf .dtmfStart = []) (hstops : s.stops = [])
    (ha : playing s.trace = true → AcceptsStop s) (token : RilToken) :
    Tones (dtmfStop .complete token s).2 ∧ Idle (dtmfStop .complete token s).2 := by
  have hk := request_seq_keeps token s
  rw [dtmfStop, RilData.transmit_request]
  rcases expect_send_cases .complete (s.ipcFmtRequestSeq token).1 .callContDtmf .set
    (ipcCallContDtmfData ipcCallDtmfStatusStop 0) (s.ipcFmtRequestSeq token).2 with ⟨-, hs⟩ | ⟨hrefused, hs⟩
  · rw [hs]
    have hidle : Idle ((s.ipcFmtRequestSeq token).2.sent .complete ⟨(s.ipcFmtRequestSeq token).1, .callContDtmf, .set,
        ipcCallContDtmfData ipcCallDtmfStatusStop 0⟩) := by
      refine ⟨hk.burst.trans hb, .inl ⟨hk.start.trans he, rfl⟩, ?_⟩
      rw [sent_stops _ _ (hk.data.trans hd), hk.stops, hstops]
      rfl
    exact ⟨hidle.tones (stop_sent .set _ 0 (starts_extend hk.trace ht.1) (tones_extend hk.trace ht.2)), hidle⟩
  · have hr := hk.trans (refused_keeps (by simp) hs)
    have hstop : playing s.trace = false := by
      refine Bool.eq_false_iff.mpr fun hp => ?_
      exact Bool.false_ne_true (hrefused.symm.trans ((ha hp).after_seq token _))
    have hidle : Idle (expectSend (some .complete) (s.ipcFmtRequestSeq token).1 .callContDtmf .set
        (ipcCallContDtmfData ipcCallDtmfStatusStop 0) (s.ipcFmtRequestSeq token).2).2 :=
      ⟨hr.burst.trans hb, .inl ⟨hr.start.trans he, (playing_extend hr.trace).trans hstop⟩, hr.stops.trans hstops⟩
    exact ⟨hidle.tones ⟨starts_extend hr.trace ht.1, tones_extend hr.trace ht.2⟩, hidle⟩

/-- The stop is sent, and the tone of the request waits. -/
lemma stop_waits (h : Dispatches s r) (ht : StartsStopped s.trace ∧ TonesPlayed s.trace) (hstops : s.stops = [])
    (ha : AcceptsStop s) {value : CString} (hv : r.data = .string value) (he : WaitingEntry s r.request value) :
    (dtmfStop (.callback .ipcCallContDtmf) r.token s).1 = true ∧
      Tones ((dtmfStop (.callback .ipcCallContDtmf) r.token s).2.requestSetStatus r.token .handled) := by
  have hk := request_seq_keeps r.token s
  have hd : s.fmt.data.isSome = true := h.data
  rw [dtmfStop, RilData.transmit_request]
  rcases expect_send_cases (.callback .ipcCallContDtmf) (s.ipcFmtRequestSeq r.token).1 .callContDtmf .set
    (ipcCallContDtmfData ipcCallDtmfStatusStop 0) (s.ipcFmtRequestSeq r.token).2 with ⟨-, hs⟩ | ⟨hrefused, -⟩
  · have hsent := stop_sent .set (s.ipcFmtRequestSeq r.token).1 0 (starts_extend hk.trace ht.1)
      (tones_extend hk.trace ht.2)
    rw [hs]
    refine ⟨rfl, hsent.1, hsent.2, .stopping { r with status := .handled } (s.ipcFmtRequestSeq r.token).1 ?_⟩
    have hreq : (s.ipcFmtRequestSeq r.token).2.requests = s.requests := RilData.ipcFmtRequestSeq_requests s r.token
    refine ⟨List.mem_map.mpr ⟨r, hreq ▸ h.mem, if_pos (beq_self_eq_true _)⟩, rfl, ?_, ?_, rfl, ?_, value, hv, ?_⟩
    · exact taken_suffix (List.suffix_cons _ _)
        (request_seq_taken h.synced h.numbered (List.mem_map_of_mem h.mem) hd)
    · have hsome := hk.data.trans hd
      have hrw := sent_stops (.callback .ipcCallContDtmf) ⟨(s.ipcFmtRequestSeq r.token).1, .callContDtmf, .set,
        ipcCallContDtmfData ipcCallDtmfStatusStop 0⟩ hsome
      rw [hk.stops, hstops] at hrw
      exact hrw
    · have htaken : (Event.seqTaken (some r.token) (s.ipcFmtRequestSeq r.token).1).takenBy r.token = true :=
        beq_self_eq_true _
      have hsilent : tonesSince r.token (s.ipcFmtRequestSeq r.token).2.trace = [] := by
        rw [h.takes]
        exact tones_since_taken htaken
      exact hsilent
    · rcases he with ⟨hq, hb, hstart⟩ | ⟨hq, hb, hstart⟩
      · exact .inl ⟨hq, hk.burst.trans hb, hk.start.trans hstart⟩
      · exact .inr ⟨hq, hk.burst.trans hb, hk.start.trans hstart⟩
  · exact absurd ((ha.after_seq r.token _).symm.trans hrefused) (by simp)

/-- The dispatch of the request sends a stop, unless it is put off. -/
def StopsTone (r : RilRequest) (s : RilData) : Prop :=
  toneHandled s = false ∧
    (r.request = .dtmfStop ∧ playing s.trace = true ∨
      (requestTone r.request r.data).isSome = true ∧ s.radioStateCheck .simNotReady = true ∧
        (dtmfTone (s.requestDataFind .dtmfStart)).isSome = true)

lemma dispatch_settle {handler : RilValue → RilToken → RilM RilRequestStatus} {env : Env}
    (hh : rilRequestHandler r.request = some handler) {undo : RilData → RilData} {result : Bool × RilData}
    (he : handler r.data r.token (s.started env (.dispatched r.token)) = settle r.token undo result)
    (hok : result.1 = true → Tones (result.2.requestSetStatus r.token .handled))
    (hno : result.1 = false → Tones (undo result.2) ∧ Idle (undo result.2)) : Tones (dispatchRequest env r s) := by
  cases hr : result.1 with
  | true =>
    rw [settle, hr] at he
    rw [dispatch_result hh he]
    exact hok hr
  | false =>
    rw [settle, hr] at he
    rw [dispatch_result hh he]
    have hk := KeepsTones.of_op (.complete r.token .genericFailure .null) trivial (undo result.2)
    obtain ⟨ht, hi⟩ := hno hr
    exact ⟨starts_extend hk.trace ht.starts, tones_extend hk.trace ht.played, .idle (hi.keeps hk)⟩

lemma started_keeps_tones (s : RilData) (env : Env) (token : RilToken) :
    KeepsTones s (s.started env (.dispatched token)) :=
  .of_op (.start env (some (.dispatched token))) (by simp [Op.toneless]) s

lemma dispatch_other_keeps (env : Env) (hq : r.request ∉ dtmfRequests) (s : RilData) :
    KeepsTones s (dispatchRequest env r s) := by
  have hstart := started_keeps_tones s env r.token
  have hF := request_no_tone hq
  rcases dispatch_cases env r s with ⟨he, -⟩ | ⟨s', hp, he⟩ | ⟨s', error, response, hp, he⟩
  · rw [he]
    exact hstart.trans (.of_op (.setStatus r.token .unhandled) trivial _)
  · rw [he]
    exact (hstart.trans (request_path_keeps_tones hF hp)).trans (.of_op (.setStatus r.token .handled) trivial _)
  · rw [he]
    exact (hstart.trans (request_path_keeps_tones hF hp)).trans (.of_op (.complete r.token error response) trivial _)

lemma tone_handler (hq : r.request ∈ dtmfRequests) : ∃ handler, rilRequestHandler r.request = some handler ∧
    ∀ s : RilData, toneHandled s = true ∨ r.request ≠ .dtmfStop ∧
        (requestTone r.request r.data = none ∨ s.radioStateCheck .simNotReady = false) →
      handler r.data r.token s = (.unhandled, s) ∨
        handler r.data r.token s = (.completed, s.requestComplete r.token .genericFailure .null) := by
  have hwait {m : RilM RilRequestStatus} {s : RilData} (h : toneHandled s = true ∨ s.radioStateCheck .simNotReady = false) :
      whenRadioState .simNotReady (whenNoneHandled [.dtmf, .dtmfStart, .dtmfStop] m) s = (.unhandled, s) := by
    rw [whenRadioState_apply]
    split
    · rename_i hr
      exact tone_put_off (h.resolve_right (by simp [hr])) m
    · rfl
  simp only [dtmfRequests, List.mem_cons, List.not_mem_nil, or_false] at hq
  rcases hq with hq | hq | hq
  · rw [hq]
    refine ⟨rilRequestDtmf, rfl, fun s h => ?_⟩
    cases hd : r.data with
    | string value =>
      rw [hd] at h
      exact .inl (hwait (h.imp_right fun h => h.2.resolve_left (by simp [requestTone])))
    | _ => exact .inr rfl
  · rw [hq]
    refine ⟨rilRequestDtmfStart, rfl, fun s h => ?_⟩
    cases hd : r.data with
    | string value =>
      rw [hd] at h
      exact .inl (hwait (h.imp_right fun h => h.2.resolve_left (by simp [requestTone])))
    | _ => exact .inr rfl
  · rw [hq]
    refine ⟨rilRequestDtmfStop, rfl, fun s h => ?_⟩
    exact .inl (tone_put_off (h.resolve_right fun h => h.1 rfl) _)

/-- A tone request that is put off or malformed changes nothing of the tones. -/
lemma dispatch_put_off_keeps (env : Env) (hq : r.request ∈ dtmfRequests)
    (h : toneHandled s = true ∨ r.request ≠ .dtmfStop ∧
      (requestTone r.request r.data = none ∨ s.radioStateCheck .simNotReady = false)) :
    KeepsTones s (dispatchRequest env r s) := by
  obtain ⟨handler, hh, hcases⟩ := tone_handler hq
  have hstart := started_keeps_tones s env r.token
  rcases hcases (s.started env (.dispatched r.token)) h with he | he
  · rw [dispatch_result hh he]
    exact hstart.trans (.of_op (.setStatus r.token .unhandled) trivial _)
  · rw [dispatch_result hh he]
    exact hstart.trans (.of_op (.complete r.token .genericFailure .null) trivial _)

/-- The tone of a request is played now, or after the stop of the one before it. -/
lemma dtmf_settles (h : Dispatches s r) (ht : Tones s) (hi : Idle s) (hq : r.request = .dtmf) {value : CString}
    (hv : r.data = .string value) (hr : s.radioStateCheck .simNotReady = true) (hn : toneHandled s = false)
    (ha : (dtmfTone (s.requestDataFind .dtmfStart)).isSome = true → AcceptsStop s) :
    ∃ undo result, rilRequestDtmf r.data r.token s = settle r.token undo result ∧
      (result.1 = true → Tones (result.2.requestSetStatus r.token .handled)) ∧
      (result.1 = false → Tones (undo result.2) ∧ Idle (undo result.2)) := by
  have htone : requestTone r.request r.data = some (byteAt (dtmfData value) 0) := by
    rw [hq, hv]
    rfl
  rw [hv]
  cases hd : dtmfTone (s.requestDataFind .dtmfStart) with
  | none =>
    have hk := drop_keeps (dtmf_tone_none hi hd).1
    obtain ⟨htones, hidle⟩ := burst_idle (h.drop .dtmfStart) (ht.keeps hk fun _ _ hs => hs.mem) (hi.keeps hk) htone
    refine ⟨id, _, dtmf_free r.token hr hn hd, fun _ => ?_, fun _ => ⟨htones, hidle⟩⟩
    exact (hidle.keeps (.of_op (.setStatus r.token .handled) trivial _)).tones ⟨htones.starts, htones.played⟩
  | some first =>
    obtain ⟨tone, rest, he⟩ := dtmf_tone_some hi hd
    have hentry : WaitingEntry ((s.requestDataDrop .dtmfStart).requestDataSet .dtmf (.bytes (dtmfData value)))
        r.request value := by
      refine .inl ⟨hq, ?_, ?_⟩
      · rw [RilData.entriesOf_dataSet _ (dtmf_data_size value), RilData.entriesOf_dataDrop_of_ne _ (by decide), hi.burst]
        rfl
      · rw [RilData.entriesOf_dataSet_of_ne _ (by decide), RilData.entriesOf_dataDrop, he]
        rfl
    have hview := RilData.requestDataSet_view (s.requestDataDrop .dtmfStart) .dtmf (.bytes (dtmfData value))
    obtain ⟨hok, htones⟩ := stop_waits ((h.drop .dtmfStart).set .dtmf (.bytes (dtmfData value)))
      (hview.2.1 ▸ ⟨ht.starts, ht.played⟩) ((KeepsTones.stops_of_fmt hview.1).trans hi.stops)
      (fun mseq => (hview.2.2 _).trans (ha (by rw [hd]; rfl) mseq)) hv hentry
    refine ⟨_, _, dtmf_stops r.token hr hn hd, fun _ => htones, fun hno => ?_⟩
    exact absurd (hok.symm.trans hno) (by simp)

lemma dtmf_start_settles (h : Dispatches s r) (ht : Tones s) (hi : Idle s) (hq : r.request = .dtmfStart) {value : CString}
    (hv : r.data = .string value) (hr : s.radioStateCheck .simNotReady = true) (hn : toneHandled s = false)
    (ha : (dtmfTone (s.requestDataFind .dtmfStart)).isSome = true → AcceptsStop s) :
    ∃ undo result, rilRequestDtmfStart r.data r.token s = settle r.token undo result ∧
      (result.1 = true → Tones (result.2.requestSetStatus r.token .handled)) ∧
      (result.1 = false → Tones (undo result.2) ∧ Idle (undo result.2)) := by
  have htone : requestTone r.request r.data = some (byteAt (dtmfData value) 0) := by
    rw [hq, hv]
    rfl
  have hview := RilData.requestDataSet_view (s.requestDataDrop .dtmfStart) .dtmfStart (.bytes (dtmfData value))
  have hburst : ((s.requestDataDrop .dtmfStart).requestDataSet .dtmfStart (.bytes (dtmfData value))).entriesOf .dtmf =
      [] := by
    rw [RilData.entriesOf_dataSet_of_ne _ (by decide), RilData.entriesOf_dataDrop_of_ne _ (by decide), hi.burst]
  have hset : Dispatches ((s.requestDataDrop .dtmfStart).requestDataSet .dtmfStart (.bytes (dtmfData value))) r :=
    (h.drop .dtmfStart).set .dtmfStart (.bytes (dtmfData value))
  rw [hv]
  cases hd : dtmfTone (s.requestDataFind .dtmfStart) with
  | none =>
    obtain ⟨he, hstop⟩ := dtmf_tone_none hi hd
    obtain ⟨rest, hcons⟩ := dtmf_data_cons value
    have hentry : ((s.requestDataDrop .dtmfStart).requestDataSet .dtmfStart (.bytes (dtmfData value))).entriesOf
        .dtmfStart = [.bytes (byteAt (dtmfData value) 0 :: rest)] := by
      rw [RilData.entriesOf_dataSet _ (dtmf_data_size value), RilData.entriesOf_dataDrop, he, ← hcons]
      rfl
    have hresult := start_idle hset (hview.2.1 ▸ ⟨ht.starts, ht.played⟩) htone (hview.2.1 ▸ hstop) hburst
      ((KeepsTones.stops_of_fmt hview.1).trans hi.stops) hentry
    refine ⟨_, _, dtmf_start_free r.token hr hn hd, fun hok => ?_, fun hno => ?_⟩
    · rcases hresult with ⟨-, htones, hidle⟩ | ⟨hno, -⟩
      · exact htones.keeps (.of_op (.setStatus r.token .handled) trivial _) fun r' seq hs => absurd hs.stops (by
          rw [hidle.stops]
          simp)
      · exact absurd (hok.symm.trans hno) (by simp)
    · rcases hresult with ⟨hok, -⟩ | ⟨-, htones, hidle⟩
      · exact absurd (hok.symm.trans hno) (by simp)
      · exact ⟨htones, hidle⟩
  | some first =>
    obtain ⟨tone, rest, he⟩ := dtmf_tone_some hi hd
    have hentry : WaitingEntry ((s.requestDataDrop .dtmfStart).requestDataSet .dtmfStart (.bytes (dtmfData value)))
        r.request value := by
      refine .inr ⟨hq, hburst, ?_⟩
      rw [RilData.entriesOf_dataSet _ (dtmf_data_size value), RilData.entriesOf_dataDrop, he]
      rfl
    obtain ⟨hok, htones⟩ := stop_waits hset (hview.2.1 ▸ ⟨ht.starts, ht.played⟩)
      ((KeepsTones.stops_of_fmt hview.1).trans hi.stops) (fun mseq => (hview.2.2 _).trans (ha (by rw [hd]; rfl) mseq))
      hv hentry
    refine ⟨_, _, dtmf_start_stops r.token hr hn hd, fun _ => htones, fun hno => ?_⟩
    exact absurd (hok.symm.trans hno) (by simp)

lemma dtmf_stop_settles (h : Dispatches s r) (ht : Tones s) (hi : Idle s) (hn : toneHandled s = false)
    (ha : playing s.trace = true → AcceptsStop s) :
    ∃ undo result, rilRequestDtmfStop r.data r.token s = settle r.token undo result ∧
      (result.1 = true → Tones (result.2.requestSetStatus r.token .handled)) ∧
      (result.1 = false → Tones (undo result.2) ∧ Idle (undo result.2)) := by
  have hempty : (s.requestDataDrop .dtmfStart).entriesOf .dtmfStart = [] := by
    rw [RilData.entriesOf_dataDrop]
    rcases hi.start with ⟨he, -⟩ | ⟨tone, rest, he⟩
    · rw [he]
      rfl
    · rw [he]
      rfl
  obtain ⟨htones, hidle⟩ := stop_idle (s := s.requestDataDrop .dtmfStart) ⟨ht.starts, ht.played⟩ h.data
    ((RilData.entriesOf_dataDrop_of_ne _ (by decide)).trans hi.burst) hempty hi.stops ha r.token
  refine ⟨id, _, dtmf_stop_main r.token r.data hn, fun _ => ?_, fun _ => ⟨htones, hidle⟩⟩
  exact (hidle.keeps (.of_op (.setStatus r.token .handled) trivial _)).tones ⟨htones.starts, htones.played⟩

end

/-! ### The answer to the stop -/

/-- The answer under the seq is the one to the stop, and what has been expected since is no other stop. -/
structure StopFound (s : RilData) (seq : UInt8) : Prop where
  find : s.expectFindAseq seq = some (stopExpect seq)
  stops : s.stops = [stopExpect seq]

/-- The stop is answered, and its expectation is still to be released. -/
structure StopAnswered (s : RilData) (seq : UInt8) : Prop extends StopFound s seq where
  burst : s.entriesOf .dtmf = []
  start : s.entriesOf .dtmfStart = [] ∧ playing s.trace = false ∨
    ∃ tone rest, s.entriesOf .dtmfStart = [.bytes (tone :: rest)]
  starts : StartsStopped s.trace
  played : TonesPlayed s.trace

section

variable {s t : RilData} {r : RilRequest} {seq : UInt8} {message : IpcMessage}

lemma StopFound.grow (h : StopFound s seq) (new : List IpcGenPhoneResExpect) (he : t.fmtExpects = s.fmtExpects ++ new)
    (hs : t.stops = s.stops) : StopFound t seq := by
  refine ⟨?_, hs.trans h.stops⟩
  have hf : s.fmtExpects.find? (·.aseq == seq) = some (stopExpect seq) := h.find
  rw [RilData.expectFindAseq, he, List.find?_append, hf]
  rfl

lemma StopAnswered.keeps (h : StopAnswered s seq) (hk : KeepsTones s t) (he : t.fmtExpects = s.fmtExpects) : StopAnswered t seq := by
  refine ⟨h.grow [] (by rw [he, List.append_nil]) hk.stops, hk.burst.trans h.burst, ?_,
    starts_extend hk.trace h.starts, tones_extend hk.trace h.played⟩
  rw [hk.start, playing_extend hk.trace]
  exact h.start

lemma StopAnswered.complete (h : StopAnswered s seq) (token : RilToken) (error : RilErrno) (response : RilResponse) :
    StopAnswered (s.requestComplete token error response) seq := by
  refine h.keeps (.of_op (.complete token error response) trivial s) ?_
  rw [RilData.requestComplete]
  split
  · rfl
  · exact RilData.requestUnregister_fmtExpects s token

lemma erase_found {α : Type} {p q : α → Bool} {l : List α} {a : α} (hf : l.find? p = some a) (hq : l.filter q = [a]) :
    (l.eraseP p).filter q = [] := by
  obtain ⟨hp, as, bs, rfl, has⟩ := List.find?_eq_some_iff_append.mp hf
  have hqa : q a = true := List.of_mem_filter (hq ▸ List.mem_singleton_self a : a ∈ List.filter q (as ++ a :: bs))
  rw [List.eraseP_append_right _ (fun b hb => by simpa using has b hb), List.eraseP_cons_of_pos hp, List.filter_append]
  rw [List.filter_append, List.filter_cons_of_pos hqa] at hq
  have hlength := congrArg List.length hq
  simp only [List.length_append, List.length_cons, List.length_nil] at hlength
  have has : (as.filter q).length = 0 := by omega
  have hbs : (bs.filter q).length = 0 := by omega
  rw [List.length_eq_zero_iff.mp has, List.length_eq_zero_iff.mp hbs]
  rfl

lemma StopAnswered.tones (h : StopAnswered s seq) : Tones (s.expectUnregister seq) := by
  refine Idle.tones ⟨h.burst, h.start, ?_⟩ ⟨h.starts, h.played⟩
  rw [RilData.stops, RilData.expectUnregister_fmtExpects]
  exact erase_found h.find h.stops

/-- A send of the callback: whether it is accepted or not, the answer to the stop is still found. -/
lemma StopFound.send (h : StopFound s seq) (kind : ExpectKind) (hk : kind ≠ .callback .ipcCallContDtmf) (mseq : UInt8)
    (command : IpcCommand) (type : IpcRequestType) (data : Bytes) :
    StopFound (expectSend (some kind) mseq command type data s).2 seq := by
  have hne : some kind ≠ some (.callback .ipcCallContDtmf) := by simpa using hk
  have hstops := KeepsTones.expect_send_stops hne s mseq command type data
  cases hd : s.fmt.data.isSome with
  | true => exact h.grow _ (RilData.expectSend_some_fmtExpects s kind mseq command type data hd) hstops
  | false =>
    rw [RilData.expectSend_apply, if_pos ⟨rfl, by simpa using hd⟩]
    exact h

/-- What a failed send leaves is undone. -/
def attempt (undo : RilData → RilData) (result : Bool × RilData) : Bool × RilData :=
  if result.1 then (true, result.2) else (false, undo result.2)

lemma attempt_eq (undo : RilM Unit) (m : RilM Bool) (s : RilData) :
    (do
      if ← m then
        return true
      else
        undo
        return false : RilM Bool) s = attempt (fun t => (undo t).2) (m s) := by
  rw [attempt, bind_apply]
  cases (m s).1 with
  | true => rfl
  | false => rfl

lemma callback_start_apply {tone : UInt8} {rest : Bytes}
    (h : s.requestDataFind .dtmfStart = some (.bytes (tone :: rest))) :
    ipcCallContDtmfCallbackStart message s = attempt (RilData.requestDataFree .dtmfStart)
      (expectSend (some .complete) message.aseq .callContDtmf .set (ipcCallContDtmfData ipcCallDtmfStatusStart tone)
        ((s.requestDataDrop .dtmfStart).requestDataSet .dtmfStart (.bytes (tone :: rest)))) := by
  rw [ipcCallContDtmfCallbackStart, bind_apply, rilRequestDataGet]
  dsimp only
  rw [h]
  exact attempt_eq (rilRequestDataFree .dtmfStart) (rilRequestDtmfStartComplete message.aseq tone) _

lemma callback_start_answered (ha : StopFound s message.aseq) (ht : StartsStopped s.trace ∧ TonesPlayed s.trace)
    {tone : UInt8} {rest : Bytes} {token : RilToken} (hp : Plays s.trace message.aseq tone token)
    (hstop : playing s.trace = false) (hb : s.entriesOf .dtmf = [])
    (he : s.entriesOf .dtmfStart = [.bytes (tone :: rest)]) :
    StopAnswered (ipcCallContDtmfCallbackStart message s).2 message.aseq := by
  have hfind : s.requestDataFind .dtmfStart = some (.bytes (tone :: rest)) := by
    rw [RilData.requestDataFind_eq, he]
    rfl
  have hview := RilData.requestDataSet_view (s.requestDataDrop .dtmfStart) .dtmfStart (.bytes (tone :: rest))
  have hset : StopFound ((s.requestDataDrop .dtmfStart).requestDataSet .dtmfStart (.bytes (tone :: rest))) message.aseq :=
    ha.grow [] (by rw [RilData.fmtExpects_of_fmt hview.1, List.append_nil]; rfl)
      (KeepsTones.stops_of_fmt hview.1)
  have hburst : ((s.requestDataDrop .dtmfStart).requestDataSet .dtmfStart (.bytes (tone :: rest))).entriesOf .dtmf = [] := by
    rw [RilData.entriesOf_dataSet_of_ne _ (by decide), RilData.entriesOf_dataDrop_of_ne _ (by decide), hb]
  have hentry : ((s.requestDataDrop .dtmfStart).requestDataSet .dtmfStart (.bytes (tone :: rest))).entriesOf .dtmfStart =
      [.bytes (tone :: rest)] := by
    rw [RilData.entriesOf_dataSet _ (by simp [RilRequestDataValue.size]), RilData.entriesOf_dataDrop, he]
    rfl
  have hsend := hset.send .complete (by simp) message.aseq .callContDtmf .set
    (ipcCallContDtmfData ipcCallDtmfStatusStart tone)
  rw [callback_start_apply hfind, attempt]
  rcases expect_send_cases .complete message.aseq .callContDtmf .set (ipcCallContDtmfData ipcCallDtmfStatusStart tone)
    ((s.requestDataDrop .dtmfStart).requestDataSet .dtmfStart (.bytes (tone :: rest))) with ⟨-, hs⟩ | ⟨-, hs⟩
  · rw [hs] at hsend ⊢
    have hsent := start_sent .set ht.1 ht.2 hp hstop
    rw [← show ((s.requestDataDrop .dtmfStart).requestDataSet .dtmfStart (.bytes (tone :: rest))).trace = s.trace from
      hview.2.1] at hsent
    exact ⟨hsend, hburst, .inr ⟨tone, rest, hentry⟩, hsent.1, hsent.2⟩
  · have hk := refused_keeps (by simp) hs
    have hstarts := starts_extend hk.trace (hview.2.1 ▸ ht.1)
    have hplayed := tones_extend hk.trace (hview.2.1 ▸ ht.2)
    rw [hs, if_neg Bool.false_ne_true]
    refine ⟨⟨hsend.find, hsend.stops⟩, ?_, .inl ⟨RilData.entriesOf_dataFree _, ?_⟩, hstarts, hplayed⟩
    · exact (RilData.entriesOf_dataFree_of_ne _ (by decide)).trans (hk.burst.trans hburst)
    · exact (playing_extend hk.trace).trans (hview.2.1 ▸ hstop)

lemma callback_burst_answered (ha : StopFound s message.aseq) (ht : StartsStopped s.trace ∧ TonesPlayed s.trace)
    {tone : UInt8} {rest : Bytes} {token : RilToken} (hp : Plays s.trace message.aseq tone token)
    (hstop : playing s.trace = false) (hstart : s.entriesOf .dtmfStart = [])
    (he : s.entriesOf .dtmf = [.bytes (tone :: rest)]) :
    StopAnswered (ipcCallContDtmfCallbackBurst message s).2 message.aseq := by
  have hfind : s.requestDataFind .dtmf = some (.bytes (tone :: rest)) := by
    rw [RilData.requestDataFind_eq, he]
    rfl
  have hrun : ipcCallContDtmfCallbackBurst message s = expectSend (some .abort) message.aseq .callBurstDtmf .exec
      (ipcCallBurstDtmfSetup ipcCallDtmfStatusStart tone) (s.requestDataDrop .dtmf) := by
    rw [ipcCallContDtmfCallbackBurst, bind_apply, rilRequestDataGet]
    dsimp only
    rw [hfind]
    rfl
  have hdrop : StopFound (s.requestDataDrop .dtmf) message.aseq := ⟨ha.find, ha.stops⟩
  have hburst : (s.requestDataDrop .dtmf).entriesOf .dtmf = [] := by
    rw [RilData.entriesOf_dataDrop, he]
    rfl
  have hentry : (s.requestDataDrop .dtmf).entriesOf .dtmfStart = [] := by
    rw [RilData.entriesOf_dataDrop_of_ne _ (by decide), hstart]
  have hsend := hdrop.send .abort (by simp) message.aseq .callBurstDtmf .exec
    (ipcCallBurstDtmfSetup ipcCallDtmfStatusStart tone)
  rw [hrun]
  rcases expect_send_cases .abort message.aseq .callBurstDtmf .exec (ipcCallBurstDtmfSetup ipcCallDtmfStatusStart tone)
    (s.requestDataDrop .dtmf) with ⟨-, hs⟩ | ⟨-, hs⟩
  · rw [hs] at hsend ⊢
    have hsent := burst_sent .exec ht.1 ht.2 hp
    exact ⟨hsend, hburst, .inl ⟨hentry, hstop⟩, hsent.1, hsent.2⟩
  · have hk := refused_keeps (by simp) hs
    exact ⟨hsend, hk.burst.trans hburst, .inl ⟨hk.start.trans hentry, (playing_extend hk.trace).trans hstop⟩,
      starts_extend hk.trace ht.1, tones_extend hk.trace ht.2⟩

lemma callback_no_start (h : s.entriesOf .dtmfStart = []) :
    ipcCallContDtmfCallbackStart message s = (true, s.requestDataDrop .dtmfStart) := by
  have hfind : s.requestDataFind .dtmfStart = none := by
    rw [RilData.requestDataFind_eq, h]
    rfl
  rw [ipcCallContDtmfCallbackStart, bind_apply, rilRequestDataGet]
  dsimp only
  rw [hfind]
  rfl

lemma StopAnswered.no_burst (h : StopAnswered s message.aseq) :
    ipcCallContDtmfCallbackBurst message s = (true, s.requestDataDrop .dtmf) ∧
      StopAnswered (s.requestDataDrop .dtmf) message.aseq := by
  have hfind : s.requestDataFind .dtmf = none := by
    rw [RilData.requestDataFind_eq, h.burst]
    rfl
  refine ⟨?_, ⟨h.find, h.stops⟩, ?_, ?_, h.starts, h.played⟩
  · rw [ipcCallContDtmfCallbackBurst, bind_apply, rilRequestDataGet]
    dsimp only
    rw [hfind]
    rfl
  · rw [RilData.entriesOf_dataDrop, h.burst]
    rfl
  · rw [RilData.entriesOf_dataDrop_of_ne _ (by decide)]
    exact h.start

/-- A stop whose answer leaves the tone of a `DTMF_START` behind: it counts as the one that plays. -/
lemma Stopping.answered (h : Stopping s r seq) (ha : StopFound s seq)
    (ht : StartsStopped s.trace ∧ TonesPlayed s.trace) (hq : r.request ≠ .dtmf) : StopAnswered s seq := by
  obtain ⟨value, -, ⟨hd, -⟩ | ⟨-, hb, he⟩⟩ := h.entry
  · exact absurd hd hq
  · obtain ⟨rest, hcons⟩ := dtmf_data_cons value
    rw [hcons] at he
    exact ⟨ha, hb, .inr ⟨_, rest, he⟩, ht.1, ht.2⟩

/-- The callback plays the tone that has waited, if the stop has succeeded. -/
lemma callback_answered (h : Stopping s r message.aseq) (ha : StopFound s message.aseq)
    (ht : StartsStopped s.trace ∧ TonesPlayed s.trace)
    (hp : ∀ value, r.data = .string value → Plays s.trace message.aseq (byteAt (dtmfData value) 0) r.token)
    {data : IpcGenPhoneResData} (hd : IpcGenPhoneResData.read message.data = some data)
    (hok : r.request = .dtmf → ipcGenPhoneResCheck data = true) :
    StopAnswered (ipcCallContDtmfCallback message s).2 message.aseq := by
  rw [ipcCallContDtmfCallback, hd]
  dsimp only
  cases hcheck : ipcGenPhoneResCheck data with
  | false =>
    have hq : r.request ≠ .dtmf := fun hq => Bool.false_ne_true (hcheck.symm.trans (hok hq))
    exact (h.answered ha ht hq).complete _ _ _
  | true =>
    obtain ⟨value, hv, hentry⟩ := h.entry
    obtain ⟨rest, hcons⟩ := dtmf_data_cons value
    rw [WaitingEntry, hcons] at hentry
    rcases hentry with ⟨-, hb, hs⟩ | ⟨-, hb, hs⟩
    · have hdrop : (s.requestDataDrop .dtmfStart).entriesOf .dtmfStart = [] := by
        rw [RilData.entriesOf_dataDrop, hs]
        rfl
      have hburst : StopAnswered (ipcCallContDtmfCallbackBurst message (s.requestDataDrop .dtmfStart)).2 message.aseq :=
        callback_burst_answered ⟨ha.find, ha.stops⟩ ht (hp value hv) h.stopped hdrop
        ((RilData.entriesOf_dataDrop_of_ne _ (by decide)).trans hb)
      simp only [Bool.not_true, Bool.false_eq_true, if_false, bind_apply, callback_no_start hs]
      cases (ipcCallContDtmfCallbackBurst message (s.requestDataDrop .dtmfStart)).1 with
      | true => exact hburst
      | false => exact hburst.complete _ _ _
    · have hstart := callback_start_answered ha ht (hp value hv) h.stopped hb hs
      simp only [Bool.not_true, Bool.false_eq_true, if_false, bind_apply]
      cases (ipcCallContDtmfCallbackStart message s).1 with
      | true =>
        simp only [Bool.not_true, Bool.false_eq_true, if_false, bind_apply, hstart.no_burst.1]
        exact hstart.no_burst.2
      | false => exact hstart.complete _ _ _

lemma stop_answer_tones (h : Stopping s r message.aseq) (ht : Tones s) (hs : Synced s) (hc : Conserved s) (env : Env)
    (hm : message.command = .genPhoneRes) (hf : s.expectFindAseq message.aseq = some (stopExpect message.aseq))
    (hok : r.request = .dtmf → ∀ data, IpcGenPhoneResData.read message.data = some data →
      data.command = IpcCommand.callContDtmf.code ∧ ipcGenPhoneResCheck data = true) :
    Tones (dispatchMessage env message s).2 := by
  have hk : KeepsTones s (s.started env (.received message)) :=
    .of_op (.start env (some (.received message))) (by simp [Op.toneless]) s
  have hst : Stopping (s.started env (.received message)) r message.aseq := h.keeps hk h.mem
  have htrace : StartsStopped (s.started env (.received message)).trace ∧
      TonesPlayed (s.started env (.received message)).trace :=
    ⟨starts_extend hk.trace ht.starts, tones_extend hk.trace ht.played⟩
  have ha : StopFound (s.started env (.received message)) message.aseq := ⟨hf, hst.stops⟩
  have hplays (value : CString) (hv : r.data = .string value) :
      Plays (s.started env (.received message)).trace message.aseq (byteAt (dtmfData value) 0) r.token := by
    refine h.plays hs hc hv hk.trace fun e he => ?_
    rcases List.mem_cons.mp he with rfl | he
    · exact .inl rfl
    · exact .inr he
  have hrun : dispatchMessage env message s = ipcGenPhoneRes message (s.started env (.received message)) := by
    rw [dispatchMessage, ipcFmtDispatch, hm]
    rfl
  have hfind : (s.started env (.received message)).expectFindAseq message.aseq = some (stopExpect message.aseq) := hf
  rw [hrun, ipcGenPhoneRes]
  cases hd : IpcGenPhoneResData.read message.data with
  | none => exact ⟨htrace.1, htrace.2, .stopping r message.aseq hst⟩
  | some data =>
    dsimp only
    rw [get_bind_apply, hfind]
    dsimp only
    rw [bind_apply]
    refine StopAnswered.tones (s := (genPhoneResExpected message data (stopExpect message.aseq)
      (s.started env (.received message))).2) ?_
    rw [genPhoneResExpected]
    by_cases hcode : data.command ≠ (stopExpect message.aseq).command.code
    · rw [if_pos hcode]
      exact hst.answered ha htrace fun hq => hcode (hok hq data hd).1
    · rw [if_neg hcode]
      exact callback_answered hst ha htrace hplays hd fun hq => (hok hq data hd).2

end

end Ril.Samsung
