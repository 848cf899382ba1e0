import Ril.Samsung.Proofs.SmsPdus

/-! Which short message a deliver report is for. -/

namespace Ril.Samsung

open Ril.Ipc Ril.Lib

/-- The id of a short message that is passed to the framework, with how it is announced. -/
def incomingSms (message : IpcMessage) : Option (UInt8 × RilUnsol × CString) :=
  if message.command = .smsIncomingMsg then
    (IpcSmsIncomingMsgHeader.read message.data).bind fun header =>
      ((ipcSmsIncomingMsgPduExtract message.data).bind data2string).map fun pdu =>
        (header.id, if header.type == ipcSmsTypeStatusReport then .newSmsStatusReport else .newSms, pdu)
  else none

/-- Neither a short message that comes in nor a report -/
def Event.unreported : Event → Prop
  | received m => incomingSms m = none
  | sent m _ => m.command ≠ .smsDeliverReport
  | _ => True

/-- The short message was announced, and since then none has come in and no report was sent. -/
def AwaitsReport (id : UInt8) (trace : List Event) : Prop :=
  ∃ later m kind pdu earlier, trace = later ++ .unsolicited kind (.string pdu) :: .received m :: earlier ∧
    incomingSms m = some (id, kind, pdu) ∧ ∀ e ∈ later, e.unreported

/-- The report carries the verdict of the request that is being dispatched, on the short message that awaits it. -/
def ReportsNewest (m : IpcRequest) (trace : List Event) : Prop :=
  ∃ token success cause rest id, dispatcher trace = some token ∧
    .arrived token .smsAcknowledge (.ints (success :: cause :: rest)) ∈ trace ∧
    m.data = ipcSmsDeliverReportRequest ipcSmsTypeStatusReport (ril2ipcSmsAck success cause) id ∧ AwaitsReport id trace

def ReportsProper (trace : List Event) : Prop :=
  ∀ later m ok earlier, trace = later ++ .sent m ok :: earlier → m.command = .smsDeliverReport →
    ReportsNewest m earlier

/-- What is kept for the next report -/
def RilData.reportSlot (s : RilData) : List RilRequestDataValue := s.entriesOf .smsAcknowledge

def SlotAwaits (s : RilData) : Prop :=
  s.reportSlot = [] ∨ ∃ id, s.reportSlot = [.bytes [id]] ∧ AwaitsReport id s.trace

structure ReportInv (s : RilData) : Prop where
  slot : SlotAwaits s
  reports : ReportsProper s.trace

section

variable {trace trace' : List Event} {id : UInt8} {s t : RilData}

lemma AwaitsReport.mono (h : AwaitsReport id trace) (ht : Extends Event.unreported trace trace') :
    AwaitsReport id trace' := by
  obtain ⟨later, m, kind, pdu, earlier, rfl, hm, hl⟩ := h
  obtain ⟨new, rfl, hn⟩ := ht
  refine ⟨new ++ later, m, kind, pdu, earlier, by rw [List.append_assoc], hm, fun e he => ?_⟩
  rcases List.mem_append.mp he with he | he
  · exact hn e he
  · exact hl e he

lemma ReportsProper.mono (h : ReportsProper trace)
    (ht : Extends (fun e => ∀ m ok, e = .sent m ok → m.command ≠ .smsDeliverReport) trace trace') :
    ReportsProper trace' := by
  intro later m ok earlier hl hm
  obtain ⟨new, rfl, hn⟩ := ht
  rcases split_append hl with ⟨mid, rfl, rfl⟩ | ⟨later', rfl⟩
  · exact absurd hm (hn (.sent m ok) (by simp) m ok rfl)
  · exact h later' m ok earlier rfl hm

lemma ReportsProper.sent (h : ReportsProper trace) {m : IpcRequest} (hm : ReportsNewest m trace) (ok : Bool) :
    ReportsProper (.sent m ok :: trace) := by
  intro later m' ok' earlier hl hm'
  rcases split_cons hl with ⟨-, he, rfl⟩ | ⟨later, -, hl⟩
  · obtain ⟨rfl, -⟩ := Event.sent.inj he
    exact hm
  · exact h later m' ok' earlier hl hm'

lemma unreported_not_sent {e : Event} (h : e.unreported) (m : IpcRequest) (ok : Bool) (he : e = .sent m ok) :
    m.command ≠ .smsDeliverReport := by
  subst he
  exact h

/-- The slot is left as it is, or emptied. -/
structure ReportKeeps (s t : RilData) : Prop where
  slot : t.reportSlot = s.reportSlot ∨ t.reportSlot = []
  trace : Extends Event.unreported s.trace t.trace

lemma ReportInv.init : ReportInv {} where
  slot := .inl rfl
  reports := by
    intro later m ok earlier h
    cases later <;> cases h

lemma ReportInv.keeps (h : ReportInv s) (hk : ReportKeeps s t) : ReportInv t := by
  refine ⟨?_, h.reports.mono (hk.trace.mono fun e he => unreported_not_sent he)⟩
  rcases hk.slot with hs | hs
  · rcases h.slot with h0 | ⟨id, h1, ha⟩
    · exact .inl (hs.trans h0)
    · exact .inr ⟨id, hs.trans h1, ha.mono hk.trace⟩
  · exact .inl hs

/-! ### The operations that leave the slot as it is -/

def Op.unreported : Op → Prop
  | transmit _ _ command _ _ => command ≠ .smsDeliverReport
  | dataSet request _ | dataFree request | dataDrop request => request ≠ .smsAcknowledge
  | start _ event => ∀ e, event = some e → e.unreported
  | _ => True

lemma op_unreported_trace {op : Op} (h : op.unreported) : Extends Event.unreported s.trace (op.exec s).trace := by
  refine (op_logged op s).mono fun e he => ?_
  cases op with
  | transmit sender expect command type data =>
    rcases he with ⟨owner, seq, rfl⟩ | ⟨mseq, ok, rfl⟩
    · trivial
    · exact h
  | start env event => exact h e he
  | radio radioState =>
    rcases he with ⟨request, response, rfl⟩ | ⟨token, rfl⟩ | ⟨token, rfl⟩
    · trivial
    · trivial
    · trivial
  | requestSeq token =>
    obtain ⟨seq, rfl⟩ := he
    trivial
  | unsolicited | complete | pinCache | stale | arrive | cancel =>
    obtain rfl := he
    trivial
  | _ => exact he.elim

lemma op_unreported {op : Op} (h : op.unreported) : ReportKeeps s (op.exec s) := by
  refine ⟨?_, op_unreported_trace h⟩
  cases op with
  | dataSet request value => exact .inl (s.entriesOf_dataSet_of_ne (Ne.symm h) value)
  | dataFree request => exact .inl (s.entriesOf_dataFree_of_ne (Ne.symm h))
  | dataDrop request => exact .inl (s.entriesOf_dataDrop_of_ne (Ne.symm h))
  | radio radioState =>
    by_cases hu : radioState = .unavailable
    · subst hu
      by_cases hs : s.radioState = .unavailable
      · left
        simp only [Op.exec, RilData.radioStateUpdate, if_pos hs]
      · right
        simp only [Op.exec, RilData.reportSlot, RilData.entriesOf, RilData.radio_unavailable_requestsData s hs]
        rfl
    · exact .inl (s.entriesOf_of_data (s.radio_requestsData hu))
  | _ => exact .inl (s.entriesOf_of_data (op_requestsData (by exact trivial) s))

def Footprint.unreported (F : Footprint) : Prop :=
  (∀ x ∈ F.messages, x.2.1 ≠ .smsDeliverReport) ∧ .smsAcknowledge ∉ F.data

lemma request_footprint_unreported {request : RilRequestCode} (h : request ≠ .smsAcknowledge) :
    request.footprint.unreported := by
  cases request with
  | smsAcknowledge => exact absurd rfl h
  | _ => simp [Footprint.unreported, RilRequestCode.footprint]

lemma message_footprint_unreported {message : IpcMessage} (h : message.command ≠ .smsIncomingMsg) (s : RilData) :
    (messageFootprint message s).unreported := by
  obtain ⟨aseq, command, type, data⟩ := message
  cases command with
  | smsIncomingMsg => exact absurd rfl h
  | genPhoneRes =>
    simp only [messageFootprint, genPhoneResFootprint]
    split
    · rename_i callback _ _ _
      cases callback <;> simp [Footprint.unreported, GenPhoneResCallback.footprint, lockInfomationRequests]
    · simp [Footprint.unreported]
    · simp [Footprint.unreported]
  | _ => simp [Footprint.unreported, messageFootprint, lockInfomationRequests]

variable {F : Footprint} {op : Op}

lemma QuietOp.unreported (h : QuietOp F op) (hF : F.unreported) : op.unreported := by
  cases op with
  | dataSet request _ | dataFree request | dataDrop request =>
    rintro rfl
    exact hF.2 h
  | unsolicited | pinCache | simIccType | hsdpaStatus | svcSession | connections => trivial
  | _ => exact h.elim

lemma RequestOp.unreported {token : RilToken} {sent : Bool} (h : RequestOp F token sent s op) (hF : F.unreported) :
    op.unreported := by
  rcases h.cases with rfl | ⟨expect, command, type, data, rfl, hm, -⟩ | hq
  · trivial
  · exact hF.1 _ hm
  · exact hq.unreported hF

lemma MessageOp.unreported {message : IpcMessage} (h : MessageOp F message s op) (hF : F.unreported) :
    op.unreported := by
  rcases h.cases with ⟨token, error, response, rfl, -⟩ | rfl | ⟨radioState, rfl, -⟩ | h
  · trivial
  · trivial
  · trivial
  · rcases h.cases with ⟨q, expect, command, type, data, rfl, -, hm⟩ | ⟨token, rfl⟩ | hq
    · exact hF.1 _ hm
    · trivial
    · exact hq.unreported hF

/-- The actions that may concern the slot -/
def Action.concernsReport (d : Daemon) : Action → Prop
  | .loopDispatch _ => ∃ r, d.data.requestFindStatus .pending = some r ∧ r.request = .smsAcknowledge
  | .message _ m => m.command = .smsIncomingMsg
  | _ => False

lemma step_op_unreported {d : Daemon} {a : Action} (ha : ¬a.concernsReport d) (h : StepOp d a s op) :
    op.unreported := by
  cases a with
  | request request data token =>
    obtain ⟨-, rfl⟩ := h
    trivial
  | requestSignal | loopWake | loopStart | clientStop | cancel token =>
    obtain rfl := h
    trivial
  | loopEnd => exact h.elim
  | loopDispatch env =>
    obtain ⟨r, hr, h⟩ := h
    have hne : r.request ≠ .smsAcknowledge := fun he => ha ⟨r, hr, he⟩
    rcases h with rfl | ⟨sent, h⟩ | rfl | rfl | ⟨error, response, rfl, -⟩
    · rintro e he
      cases he
      trivial
    · exact h.unreported (request_footprint_unreported hne)
    · trivial
    · trivial
    · trivial
  | message env message =>
    rcases h with rfl | h | rfl
    · rintro e he
      cases he
      exact if_neg ha
    · exact h.unreported (message_footprint_unreported ha d.data)
    · trivial
  | clientError =>
    rcases h with rfl | ⟨failures, rfl⟩
    · trivial
    · trivial
  | clientReopen closed opened =>
    rcases h with ⟨rfl, -⟩ | ⟨failures, available, rfl⟩
    · trivial
    · trivial
  | srs env message =>
    rcases h with rfl | ⟨command, hc, type, data, rfl⟩ | ⟨state, -, rfl⟩
    · intro e he
      cases he
    · rintro rfl
      simp [srsCommands] at hc
    · trivial

lemma unconcerned_step {d d' : Daemon} {a : Action} (h : ReportInv d.data) (ha : ¬a.concernsReport d)
    (hstep : step d a = some d') : ReportInv d'.data := by
  have hall {t : RilData} (hp : Path Op.exec (StepOp d a) d.data t) : ReportInv t := by
    induction hp with
    | refl => exact h
    | tail _ ht ih =>
      obtain ⟨op, hop, rfl⟩ := ht
      exact ih.keeps (op_unreported (step_op_unreported ha hop))
  exact hall (step_path hstep)

end

/-! ### A short message that comes in -/

section

variable {s t : RilData} {message : IpcMessage} {env : Env}

lemma report_set_uniq (id : UInt8) (s : RilData) :
    (s.requestDataSetUniq .smsAcknowledge (.bytes [id])).reportSlot = [.bytes [id]] := by
  have hsize : (RilRequestDataValue.bytes [id]).size ≠ 0 := Nat.one_ne_zero
  rw [RilData.requestDataSetUniq, RilData.reportSlot, RilData.entriesOf_dataSet _ hsize, RilData.entriesOf_dataFree]
  rfl

/-- A short message that is not passed on changes nothing. -/
lemma incoming_sms_none (h : incomingSms message = none) (hc : message.command = .smsIncomingMsg) (s : RilData) :
    (ipcSmsIncomingMsg message s).2 = s := by
  rw [incomingSms, if_pos hc] at h
  unfold ipcSmsIncomingMsg
  cases hh : IpcSmsIncomingMsgHeader.read message.data with
  | none => rfl
  | some header =>
    cases hp : (ipcSmsIncomingMsgPduExtract message.data).bind data2string with
    | none => rfl
    | some pdu => simp [hh, hp] at h

lemma incoming_sms_some {id : UInt8} {kind : RilUnsol} {pdu : CString} (h : incomingSms message = some (id, kind, pdu))
    (s : RilData) : (ipcSmsIncomingMsg message s).2 =
      (s.requestDataSetUniq .smsAcknowledge (.bytes [id])).requestUnsolicited kind (.string pdu) := by
  rw [incomingSms] at h
  split at h
  · unfold ipcSmsIncomingMsg
    cases hh : IpcSmsIncomingMsgHeader.read message.data with
    | none => simp [hh] at h
    | some header =>
      cases hp : (ipcSmsIncomingMsgPduExtract message.data).bind data2string with
      | none => simp [hp] at h
      | some pdu' =>
        simp only [hh, hp, Option.bind_some, Option.map_some, Option.some.injEq, Prod.mk.injEq] at h
        obtain ⟨rfl, rfl, rfl⟩ := h
        dsimp only
        split
        · rfl
        · rfl
  · cases h

lemma incoming_sms_report {d : Daemon} (h : ReportInv d.data) (hc : message.command = .smsIncomingMsg) :
    ReportInv (dispatchMessage env message d.data).2 := by
  have hrun : dispatchMessage env message d.data =
      ipcSmsIncomingMsg message (d.data.started env (.received message)) := by
    rw [dispatchMessage, ipcFmtDispatch, hc]
    rfl
  have hnew : ∀ m ok, Event.received message = .sent m ok → m.command ≠ .smsDeliverReport := by
    intro m ok he
    cases he
  rw [hrun]
  cases hm : incomingSms message with
  | none =>
    rw [incoming_sms_none hm hc]
    refine h.keeps ⟨.inl rfl, .one ?_ _⟩
    exact hm
  | some sms =>
    obtain ⟨id, kind, pdu⟩ := sms
    rw [incoming_sms_some hm]
    have htrace : (((d.data.started env (.received message)).requestDataSetUniq .smsAcknowledge
        (.bytes [id])).requestUnsolicited kind (.string pdu)).trace =
          .unsolicited kind (.string pdu) :: .received message :: d.data.trace := rfl
    refine ⟨.inr ⟨id, report_set_uniq id _, ?_⟩, ?_⟩
    · rw [htrace]
      exact ⟨[], message, kind, pdu, d.data.trace, rfl, hm, fun e he => absurd he List.not_mem_nil⟩
    · rw [htrace]
      refine h.reports.mono (.cons ?_ (.one hnew _))
      intro m ok he
      cases he

/-! ### The dispatch of an acknowledgement -/

lemma sms_acknowledge_run (data : RilValue) (token : RilToken) (s : RilData) :
    rilRequestSmsAcknowledge data token s = (.unhandled, s) ∨
      rilRequestSmsAcknowledge data token s = failRequest token s ∨
      rilRequestSmsAcknowledge data token s = failRequest token (s.requestDataDrop .smsAcknowledge) ∨
      ∃ success cause rest id bytes, data = .ints (success :: cause :: rest) ∧
        s.reportSlot.head? = some (.bytes (id :: bytes)) ∧
        rilRequestSmsAcknowledge data token s = sendRequest token (some .abort) .smsDeliverReport .exec
          (ipcSmsDeliverReportRequest ipcSmsTypeStatusReport (ril2ipcSmsAck success cause) id)
          (s.requestDataDrop .smsAcknowledge) := by
  unfold rilRequestSmsAcknowledge
  split
  · rename_i success cause rest
    rw [whenRadioState_apply]
    split
    · have hfind : s.requestDataFind .smsAcknowledge = s.reportSlot.head? := s.requestDataFind_eq
      simp only [bind_apply, rilRequestDataGet, hfind]
      rcases hslot : s.reportSlot.head? with _ | ((_ | ⟨id, bytes⟩) | value | status | values)
      · exact .inr (.inr (.inl rfl))
      · exact .inr (.inr (.inl rfl))
      · exact .inr (.inr (.inr ⟨success, cause, rest, id, bytes, rfl, rfl, rfl⟩))
      · exact .inr (.inr (.inl rfl))
      · exact .inr (.inr (.inl rfl))
      · exact .inr (.inr (.inl rfl))
    · exact .inl rfl
  · exact .inr (.inl rfl)

lemma request_seq_unreported (s : RilData) (token : RilToken) :
    Extends Event.unreported s.trace (s.ipcFmtRequestSeq token).2.trace :=
  Logged.ipcFmtRequestSeq s token fun _ => trivial

/-- The report is sent, or it is not, when the data of the client is gone. -/
lemma report_transmitted (token : RilToken) (data : Bytes) (s : RilData) :
    (transmit (.request token) (some .abort) .smsDeliverReport .exec data s).2.requestsData = s.requestsData ∧
      ((transmit (.request token) (some .abort) .smsDeliverReport .exec data s).2.trace =
          (s.ipcFmtRequestSeq token).2.trace ∨
        ∃ seq ok, (transmit (.request token) (some .abort) .smsDeliverReport .exec data s).2.trace =
          .sent ⟨seq, .smsDeliverReport, .exec, data⟩ ok :: (s.ipcFmtRequestSeq token).2.trace) := by
  refine ⟨@op_requestsData (.transmit (.request token) (some .abort) .smsDeliverReport .exec data) trivial s, ?_⟩
  rw [RilData.transmit_request, RilData.expectSend_apply]
  split
  · exact .inl rfl
  · exact .inr ⟨_, _, rfl⟩

lemma complete_report (s : RilData) (token : RilToken) (error : RilErrno) (response : RilResponse) :
    ReportKeeps s (s.requestComplete token error response) :=
  @op_unreported _ (.complete token error response) trivial

/-- The state in which an acknowledgement is dispatched, with what is kept for its report -/
structure Acknowledges (s : RilData) (r : RilRequest) : Prop where
  inv : ReportInv s
  synced : Synced s
  mem : r ∈ s.requests
  request : r.request = .smsAcknowledge
  dispatched : dispatcher s.trace = some r.token

variable {r : RilRequest}

lemma Acknowledges.drop (h : Acknowledges s r) : ReportInv (s.requestDataDrop .smsAcknowledge) := by
  refine h.inv.keeps ⟨?_, .refl _⟩
  rw [RilData.reportSlot, RilData.reportSlot, RilData.entriesOf_dataDrop]
  rcases h.inv.slot with h0 | ⟨id, h1, -⟩
  · rw [RilData.reportSlot] at h0
    exact .inr (by rw [h0]; rfl)
  · rw [RilData.reportSlot] at h1
    exact .inr (by rw [h1]; rfl)

lemma Acknowledges.sends (h : Acknowledges s r) {success cause : ℤ} {rest : List ℤ} {id : UInt8} {bytes : Bytes}
    (hdata : r.data = .ints (success :: cause :: rest)) (hslot : s.reportSlot.head? = some (.bytes (id :: bytes))) :
    ReportInv (transmit (.request r.token) (some .abort) .smsDeliverReport .exec
      (ipcSmsDeliverReportRequest ipcSmsTypeStatusReport (ril2ipcSmsAck success cause) id)
      (s.requestDataDrop .smsAcknowledge)).2 := by
  obtain ⟨id', hone, hawaits⟩ : ∃ id, s.reportSlot = [.bytes [id]] ∧ AwaitsReport id s.trace := by
    refine h.inv.slot.resolve_left fun h0 => ?_
    rw [h0] at hslot
    cases hslot
  have hid : id' = id := by
    rw [hone, List.head?_cons, Option.some.injEq, RilRequestDataValue.bytes.injEq, List.cons.injEq] at hslot
    exact hslot.1
  have hdrop := h.drop
  have hempty : (s.requestDataDrop .smsAcknowledge).reportSlot = [] := by
    have hone' : s.entriesOf .smsAcknowledge = [.bytes [id']] := hone
    rw [RilData.reportSlot, RilData.entriesOf_dataDrop, hone']
    rfl
  obtain ⟨hrequests, htrace⟩ := report_transmitted r.token
    (ipcSmsDeliverReportRequest ipcSmsTypeStatusReport (ril2ipcSmsAck success cause) id)
    (s.requestDataDrop .smsAcknowledge)
  have hseq := request_seq_unreported (s.requestDataDrop .smsAcknowledge) r.token
  have hproper : ReportsProper ((s.requestDataDrop .smsAcknowledge).ipcFmtRequestSeq r.token).2.trace :=
    hdrop.reports.mono (hseq.mono fun e he => unreported_not_sent he)
  refine ⟨.inl ((RilData.entriesOf_of_data _ hrequests).trans hempty), ?_⟩
  rcases htrace with ht | ⟨seq, ok, ht⟩
  · rw [ht]
    exact hproper
  · rw [ht]
    refine hproper.sent ⟨r.token, success, cause, rest, id, ?_, ?_, rfl, ?_⟩ ok
    · rw [request_seq_dispatcher]
      exact h.dispatched
    · have harrived : Event.arrived r.token r.request r.data ∈ s.trace :=
        h.synced.arrived _ (List.mem_map_of_mem h.mem)
      rw [h.request, hdata] at harrived
      exact hseq.suffix.subset harrived
    · exact hid ▸ hawaits.mono hseq

lemma sms_acknowledge_dispatch {d : Daemon} (hs : Synced d.data) (h : ReportInv d.data)
    (hr : d.data.requestFindStatus .pending = some r) (hack : r.request = .smsAcknowledge) :
    ReportInv (dispatchRequest env r d.data) := by
  have hh : rilRequestHandler r.request = some rilRequestSmsAcknowledge := by
    rw [hack]
    rfl
  have hinv : ReportInv (d.data.started env (.dispatched r.token)) :=
    h.keeps <| @op_unreported _ (.start env (some (.dispatched r.token))) <| by
      intro e he
      cases he
      trivial
  have hstart : Acknowledges (d.data.started env (.dispatched r.token)) r := {
    inv := hinv
    synced := hs.keeps (started_keeps d.data env rfl)
    mem := List.mem_of_find?_eq_some hr
    request := hack
    dispatched := rfl }
  rcases sms_acknowledge_run r.data r.token (d.data.started env (.dispatched r.token)) with
    he | he | he | ⟨success, cause, rest, id, bytes, hdata, hslot, he⟩
  · rw [dispatch_result hh he]
    exact hinv.keeps (@op_unreported _ (.setStatus r.token .unhandled) trivial)
  · rw [dispatch_result hh he]
    exact hinv.keeps (complete_report _ _ _ _)
  · rw [dispatch_result hh he]
    exact hstart.drop.keeps (complete_report _ _ _ _)
  · have hsent := hstart.sends hdata hslot
    rw [sendRequest, bind_apply] at he
    generalize transmit _ _ _ _ _ _ = v at he hsent
    obtain ⟨_ | _, t⟩ := v
    · rw [dispatch_result hh he]
      exact hsent.keeps (complete_report _ _ _ _)
    · rw [dispatch_result hh he]
      exact hsent.keeps (@op_unreported _ (.setStatus r.token .handled) trivial)

end

lemma report_step {d d' : Daemon} {a : Action} (hs : Synced d.data) (h : ReportInv d.data)
    (hstep : step d a = some d') : ReportInv d'.data := by
  by_cases ha : a.concernsReport d
  · cases a with
    | loopDispatch env =>
      obtain ⟨r, hr, hack⟩ := ha
      obtain ⟨-, r', hr', rfl⟩ := step_loop_dispatch.mp hstep
      obtain rfl := Option.some.inj (hr.symm.trans hr')
      exact sms_acknowledge_dispatch hs h hr hack
    | message env message =>
      have hm : ReportInv (dispatchMessage env message d.data).2 := incoming_sms_report h ha
      obtain ⟨-, -, ⟨data, he, rfl⟩ | ⟨data, he, rfl⟩⟩ := step_message.mp hstep
      · rw [he] at hm
        exact hm
      · rw [he] at hm
        exact ⟨hm.slot, hm.reports⟩
    | _ => exact ha.elim
  · exact unconcerned_step h ha hstep

/-- In every run each report to the modem has the id of the newest short message that was announced, for which no
other report was sent, and the verdict of the acknowledgement that is dispatched. -/
theorem reports_newest_sms {d : Daemon} (h : Reachable d) : ReportsProper d.data.trace ∧ SlotAwaits d.data := by
  have hi : ReportInv d.data := by
    induction h with
    | refl => exact ReportInv.init
    | tail hr ha hstep ih => exact report_step (reachable_synced hr) ih hstep
  exact ⟨hi.reports, hi.slot⟩

def incomingSmsRun (id : UInt8) : List Action := [
  .message {} ⟨0x00, .smsIncomingMsg, .noti, [0x01, 0x02, 0x00, 0x00, id, 0x01, 0xAB]⟩]

def acknowledgeRun (token : RilToken) : List Action := dispatchRun {} .smsAcknowledge (.ints [1, 0]) token

/-- The first one of two short messages is never reported. -/
theorem reports_newest_sms_two : ReportsProper (runFrom {} (simReadyRun ++ incomingSmsRun 7 ++ incomingSmsRun 8 ++
    acknowledgeRun 1 ++ acknowledgeRun 2)).data.trace ∧ SlotAwaits (runFrom {} (simReadyRun ++ incomingSmsRun 7 ++
      incomingSmsRun 8 ++ acknowledgeRun 1 ++ acknowledgeRun 2)).data :=
  reports_newest_sms (reachable_runFrom (by decide))

end Ril.Samsung
