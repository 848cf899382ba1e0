import Ril.Samsung.Spec.Events
import Ril.Samsung.Spec.Views

/-! Which PDU is sent for a request to send a short message. -/

namespace Ril.Samsung

open Ril.Ipc Ril.Lib

def smsRequests : List RilRequestCode := [.sendSms, .sendSmsExpectMore]

/-- The SMSC, when there is one, and the PDU of a request. -/
def smsParts : RilValue → Option (Option Bytes × Bytes)
  | .strings (smsc :: pdu :: _) => smsStrings smsc pdu
  | _ => none

/-- The request that took the seq last. -/
def holder (seq : UInt8) : List Event → Option RilToken
  | [] => none
  | .seqTaken owner q :: trace => if q = seq then owner else holder seq trace
  | _ :: trace => holder seq trace

def dispatcher : List Event → Option RilToken
  | [] => none
  | .dispatched token :: _ => some token
  | _ :: trace => dispatcher trace

/-- The request that asked last for the number of the SMSC: its PDU waits for the answer. -/
def askedBy : List Event → Option RilToken
  | [] => none
  | .sent m true :: trace => if m.command = .smsSvcCenterAddr then dispatcher trace else askedBy trace
  | _ :: trace => askedBy trace

/-- A short message was sent under a seq of the request. -/
def sentFor (token : RilToken) : List Event → Bool
  | [] => false
  | .sent m true :: trace =>
    (m.command == .smsSendMsg && holder m.mseq trace == some token) || sentFor token trace
  | _ :: trace => sentFor token trace

/-- A PDU of the request, which is one for a short message. -/
def PduOf (token : RilToken) (trace : List Event) (pdu : Bytes) : Prop :=
  ∃ request data smsc, .arrived token request data ∈ trace ∧ request ∈ smsRequests ∧ smsParts data = some (smsc, pdu)

/-- The message has the PDU of the request that holds its seq, and is the first one for it. -/
def OwnPdu (m : IpcRequest) (trace : List Event) : Prop :=
  ∃ token pdu smsc, holder m.mseq trace = some token ∧ PduOf token trace pdu ∧ sentFor token trace = false ∧
    ipcSmsSendMsgSetup ipcSmsTypeOutgoing (smsMsgType pdu) smsc pdu = some m.data

def OwnPdus (trace : List Event) : Prop :=
  ∀ later m earlier, trace = later ++ .sent m true :: earlier → m.command = .smsSendMsg → OwnPdu m earlier

def RilData.parked (s : RilData) : List (RilRequestCode × RilRequestDataValue) :=
  s.requestsData.filter (·.1 == .sendSms)

/-- The PDU of the request waits for the SMSC, or it was sent. -/
def RilData.keepsPdu (s : RilData) (token : RilToken) : Prop :=
  s.parked ≠ [] ∧ askedBy s.trace = some token ∨ sentFor token s.trace = true

/-- No PDU is lost: a request that is handled has its own waiting, or sent. -/
def PdusKept (s : RilData) : Prop :=
  ∀ r ∈ s.requests, r.request ∈ smsRequests → r.status = .handled → s.keepsPdu r.token

/-- No request has an SMSC of its own, none is dispatched while another one waits for the SMSC, and an answer finds
no PDU, or that of the request which has its seq. -/
def smsOneByOne (d : Daemon) : Action → Prop
  | .loopDispatch _ => ∀ r, d.data.requestFindStatus .pending = some r → r.request ∈ smsRequests →
      d.data.radioStateCheck .simNotReady = true → d.data.requestFindRequestStatus .sendSms .handled = none →
      ∀ smsc pdu, smsParts r.data = some (smsc, pdu) →
        smsc = none ∧ (d.data.parked ≠ [] → ∀ token ∈ d.data.tokens, askedBy d.data.trace ≠ some token)
  | .message _ message => message.command = .smsSvcCenterAddr → IpcMessage.isResponse message = true →
      (ipcSmsSvcCenterAddrSmscExtract message.data).isSome = true → d.data.parked ≠ [] →
      ∃ token, askedBy d.data.trace = some token ∧ holder message.aseq d.data.trace = some token ∧
        (token ∈ d.data.tokens → d.data.ipcFmtRequestToken message.aseq = token)
  | _ => True

/-- What a PDU that waits, and a request that waits, have to do with the trace. -/
structure SmsInv (s : RilData) : Prop where
  one : s.parked.length ≤ 1
  parked : ∀ e ∈ s.parked, ∃ token pdu, askedBy s.trace = some token ∧ PduOf token s.trace pdu ∧
    sentFor token s.trace = false ∧ e.2 = .bytes pdu
  kept : PdusKept s
  waiting : ∀ r ∈ s.requests, r.request ∈ smsRequests → r.status ≠ .handled →
    askedBy s.trace ≠ some r.token ∧ sentFor r.token s.trace = false
  arrived : ∀ token, askedBy s.trace = some token ∨ sentFor token s.trace = true →
    ∃ request data, .arrived token request data ∈ s.trace
  own : OwnPdus s.trace

/-- An event that neither asks for the SMSC nor sends a short message. -/
def Event.noSms : Event → Prop
  | sent m true => m.command ≠ .smsSvcCenterAddr ∧ m.command ≠ .smsSendMsg
  | _ => True

section

variable {trace trace' : List Event} {token : RilToken} {pdu : Bytes}

lemma PduOf.mono (h : PduOf token trace pdu) (ht : trace <:+ trace') : PduOf token trace' pdu := by
  obtain ⟨request, data, smsc, ha, hr, hp⟩ := h
  exact ⟨request, data, smsc, ht.subset ha, hr, hp⟩

lemma no_sms_asked {e : Event} (h : e.noSms) : askedBy (e :: trace) = askedBy trace := by
  cases e with
  | sent m ok =>
    cases ok with
    | true => exact if_neg h.1
    | false => rfl
  | _ => rfl

lemma no_sms_sent {e : Event} (h : e.noSms) : sentFor token (e :: trace) = sentFor token trace := by
  cases e with
  | sent m ok =>
    cases ok with
    | true => simp [sentFor, beq_false_of_ne h.2]
    | false => rfl
  | _ => rfl

lemma no_sms_trace (h : Extends Event.noSms trace trace') :
    askedBy trace' = askedBy trace ∧ ∀ token, sentFor token trace' = sentFor token trace := by
  obtain ⟨new, rfl, hn⟩ := h
  induction new with
  | nil => exact ⟨rfl, fun _ => rfl⟩
  | cons e new ih =>
    have he := hn e List.mem_cons_self
    have ih := ih fun e he => hn e (List.mem_cons_of_mem _ he)
    exact ⟨(no_sms_asked he).trans ih.1, fun token => (no_sms_sent he).trans (ih.2 token)⟩

lemma OwnPdus.extends (h : OwnPdus trace)
    (ht : Extends (fun e => ∀ m, e = .sent m true → m.command ≠ .smsSendMsg) trace trace') : OwnPdus trace' := by
  intro later m earlier hl hm
  obtain ⟨new, rfl, hn⟩ := ht
  rcases split_append hl with ⟨mid, rfl, rfl⟩ | ⟨later', rfl⟩
  · exact absurd hm (hn (.sent m true) (by simp) m rfl)
  · exact h later' m earlier rfl hm

lemma OwnPdus.sent (h : OwnPdus trace) {m : IpcRequest} (hm : OwnPdu m trace) : OwnPdus (.sent m true :: trace) := by
  intro later m' earlier hl hm'
  cases later with
  | nil =>
    obtain ⟨he, rfl⟩ := List.cons.inj hl
    obtain ⟨rfl, -⟩ := Event.sent.inj he
    exact hm
  | cons e later =>
    obtain ⟨-, rfl⟩ := List.cons.inj hl
    exact h later m' earlier rfl hm'

lemma no_sms_not_sent {e : Event} (h : e.noSms) (m : IpcRequest) (he : e = .sent m true) : m.command ≠ .smsSendMsg := by
  subst he
  exact h.2

end

/-- The requests for short messages and their PDU are left as they are, up to requests that end or arrive. -/
structure SmsKeeps (s t : RilData) : Prop where
  parked : t.parked = s.parked ∨ t.parked = [] ∧ t.requests = []
  trace : Extends Event.noSms s.trace t.trace
  requests : ∀ r ∈ t.requests, r.request ∈ smsRequests →
    (∃ r' ∈ s.requests, r'.token = r.token ∧ r'.request = r.request ∧ (r.status = .handled ↔ r'.status = .handled)) ∨
      r.status ≠ .handled ∧ ∀ request data, .arrived r.token request data ∉ s.trace

lemma SmsInv.init : SmsInv {} where
  one := Nat.zero_le _
  parked := fun _ h => absurd h List.not_mem_nil
  kept := fun _ h => absurd h List.not_mem_nil
  waiting := fun _ h => absurd h List.not_mem_nil
  arrived := by
    rintro token (h | h)
    · cases h
    · cases h
  own := by
    intro later m earlier h
    cases later <;> cases h

lemma SmsInv.keeps {s t : RilData} (h : SmsInv s) (hk : SmsKeeps s t) : SmsInv t := by
  obtain ⟨ha, hf⟩ := no_sms_trace hk.trace
  have hsuffix := hk.trace.suffix
  refine ⟨?_, ?_, ?_, ?_, ?_, ?_⟩
  · rcases hk.parked with hp | ⟨hp, -⟩
    · rw [hp]
      exact h.one
    · rw [hp]
      exact Nat.zero_le _
  · rcases hk.parked with hp | ⟨hp, -⟩
    · rw [hp, ha]
      intro e he
      obtain ⟨token, pdu, hasked, hpdu, hsent, hv⟩ := h.parked e he
      exact ⟨token, pdu, hasked, hpdu.mono hsuffix, (hf token).trans hsent, hv⟩
    · rw [hp]
      exact fun _ h => absurd h List.not_mem_nil
  · intro r hr hsms hstatus
    have hp : t.parked = s.parked := hk.parked.resolve_right fun hn => by
      rw [hn.2] at hr
      exact absurd hr List.not_mem_nil
    rcases hk.requests r hr hsms with ⟨r', hr', htoken, hrequest, hiff⟩ | ⟨hnot, -⟩
    · have hkept := h.kept r' hr' (hrequest ▸ hsms) (hiff.mp hstatus)
      rw [RilData.keepsPdu, hp, ha, hf, ← htoken]
      exact hkept
    · exact absurd hstatus hnot
  · intro r hr hsms hstatus
    rw [ha, hf]
    rcases hk.requests r hr hsms with ⟨r', hr', htoken, hrequest, hiff⟩ | ⟨-, hfresh⟩
    · rw [← htoken]
      exact h.waiting r' hr' (hrequest ▸ hsms) fun hs => hstatus (hiff.mpr hs)
    · have hnot (hc : askedBy s.trace = some r.token ∨ sentFor r.token s.trace = true) : False := by
        obtain ⟨request, data, harr⟩ := h.arrived r.token hc
        exact hfresh request data harr
      exact ⟨fun he => hnot (.inl he), Bool.eq_false_iff.mpr fun he => hnot (.inr he)⟩
  · intro token hc
    rw [ha, hf] at hc
    obtain ⟨request, data, harr⟩ := h.arrived token hc
    exact ⟨request, data, hsuffix.subset harr⟩
  · exact h.own.extends (hk.trace.mono fun e he => no_sms_not_sent he)

/-! ### The operations that leave them as they are -/

section

variable {s t : RilData}

lemma SmsKeeps.of_requests (hp : t.parked = s.parked) (ht : Extends Event.noSms s.trace t.trace)
    (hr : ∀ r ∈ t.requests, r ∈ s.requests) : SmsKeeps s t :=
  ⟨.inl hp, ht, fun r h _ => .inl ⟨r, hr r h, rfl, rfl, Iff.rfl⟩⟩

lemma parked_of_data (h : t.requestsData = s.requestsData) : t.parked = s.parked := by
  rw [RilData.parked, RilData.parked, h]

lemma parked_of_withoutFmt (h : t.withoutFmt = s.withoutFmt) : t.parked = s.parked := by
  have hv := congrArg RilData.parked h
  exact hv

lemma requests_of_withoutFmt (h : t.withoutFmt = s.withoutFmt) : t.requests = s.requests := by
  have hv := congrArg RilData.requests h
  exact hv

lemma complete_sms (s : RilData) (token : RilToken) (error : RilErrno) (response : RilResponse) :
    SmsKeeps s (s.requestComplete token error response) := by
  refine .of_requests (parked_of_data (s.requestComplete_requestsData token error response))
    (Logged.requestComplete s token error response trivial) ?_
  rw [RilData.requestComplete]
  split
  · exact fun _ h => h
  · exact fun r hr => mem_of_unregister hr

lemma radio_sms (s : RilData) (radioState : RilRadioState) : SmsKeeps s (s.radioStateUpdate radioState) := by
  have ht : Extends Event.noSms s.trace (s.radioStateUpdate radioState).trace :=
    (Logged.radioStateUpdate s radioState).mono fun e he => by
      rcases he with ⟨request, response, rfl⟩ | ⟨token, rfl⟩ | ⟨token, rfl⟩ <;> trivial
  have hoff (u : RilData) : u.radioOff.parked = u.parked ∧ u.radioOff.requests = u.requests := by
    have h := RilData.eq_of_withoutConnections (flush_from_withoutConnections u.dataConnections u)
    rw [RilData.radioOff, RilData.dataConnectionFlush, h]
    exact ⟨rfl, rfl⟩
  have hstate : (s.radioStateUpdate radioState).parked = s.parked ∧
      (s.radioStateUpdate radioState).requests = s.requests ∨
      (s.radioStateUpdate radioState).parked = [] ∧ (s.radioStateUpdate radioState).requests = [] := by
    rw [RilData.radioStateUpdate]
    split
    · exact .inl ⟨rfl, rfl⟩
    · dsimp only
      split
      · right
        rw [(hoff _).1, (hoff _).2]
        exact ⟨rfl, rfl⟩
      · left
        rw [(hoff _).1, (hoff _).2]
        exact ⟨rfl, rfl⟩
      · exact .inl ⟨rfl, rfl⟩
  rcases hstate with ⟨hp, hr⟩ | ⟨hp, hr⟩
  · exact .of_requests hp ht fun r h => hr ▸ h
  · exact ⟨.inr ⟨hp, hr⟩, ht, fun r h => absurd (hr ▸ h) List.not_mem_nil⟩

/-- An operation that concerns neither the PDU that waits nor the status of a request for a short message. -/
def Op.noSms (s : RilData) : Op → Prop
  | transmit _ _ command _ _ => command ≠ .smsSvcCenterAddr ∧ command ≠ .smsSendMsg
  | dataSet request _ | dataFree request | dataDrop request => request ≠ .sendSms
  | setStatus token status => ∀ r ∈ s.requests, r.token = token → r.request ∈ smsRequests →
      r.status ≠ .handled ∧ status ≠ .handled
  | arrive _ _ token => token ∉ s.tokens ∧ ∀ request data, .arrived token request data ∉ s.trace
  | start _ event => ∀ m, event ≠ some (.sent m true)
  | _ => True

lemma op_no_sms_trace {op : Op} (h : op.noSms s) : Extends Event.noSms s.trace (op.exec s).trace := by
  refine (op_logged op s).mono fun e he => ?_
  cases op with
  | transmit sender expect command type data =>
    rcases he with ⟨owner, seq, rfl⟩ | ⟨mseq, ok, rfl⟩
    · trivial
    · cases ok
      · trivial
      · exact h
  | start env event =>
    obtain rfl : event = some e := he
    cases e with
    | sent m ok =>
      cases ok
      · trivial
      · exact absurd rfl (h m)
    | _ => trivial
  | radio radioState =>
    rcases he with ⟨request, response, rfl⟩ | ⟨token, rfl⟩ | ⟨token, rfl⟩ <;> trivial
  | requestSeq token =>
    obtain ⟨seq, rfl⟩ := he
    trivial
  | unsolicited | complete | pinCache | stale | arrive | cancel =>
    obtain rfl := he
    trivial
  | _ => exact he.elim

lemma op_no_sms {op : Op} (h : op.noSms s) : SmsKeeps s (op.exec s) := by
  have hlog := op_no_sms_trace h
  cases op with
  | complete token error response => exact complete_sms s token error response
  | requestSeq token =>
    have hv := s.ipcFmtRequestSeq_withoutFmt token
    exact .of_requests (parked_of_withoutFmt hv) hlog fun r hr => requests_of_withoutFmt hv ▸ hr
  | transmit sender expect command type data =>
    have hv := s.transmit_withoutFmt sender expect command type data
    exact .of_requests (parked_of_withoutFmt hv) hlog fun r hr => requests_of_withoutFmt hv ▸ hr
  | dataSet request value =>
    refine .of_requests ?_ hlog fun r hr => ?_
    · have hb : (request == RilRequestCode.sendSms) = false := beq_false_of_ne h
      simp only [Op.exec, RilData.requestDataSet]
      split
      · rfl
      · simp [RilData.parked, List.filter_append, hb]
    · simp only [Op.exec, RilData.requestDataSet] at hr
      split at hr
      · exact hr
      · exact hr
  | dataFree request =>
    refine .of_requests ?_ hlog fun r hr => hr
    simp only [Op.exec, RilData.requestDataFree, RilData.parked, List.filter_filter]
    refine List.filter_congr fun e _ => ?_
    by_cases he : e.1 = .sendSms
    · simp [he, Ne.symm h]
    · simp [he]
  | dataDrop request =>
    refine .of_requests (filter_drop (fun e he => ?_) _) hlog fun r hr => hr
    rw [beq_iff_eq] at he
    rw [he]
    exact beq_false_of_ne h
  | radio radioState => exact radio_sms s radioState
  | setStatus token status =>
    refine ⟨.inl rfl, hlog, fun r hr hsms => .inl ?_⟩
    obtain ⟨r', hr', rfl⟩ := List.mem_map.mp hr
    refine ⟨r', hr', ?_⟩
    by_cases hk : r'.token = token
    · simp only [hk, beq_self_eq_true, if_true] at hsms ⊢
      have hs := h r' hr' hk hsms
      simp [hs]
    · have hb : (r'.token == token) = false := beq_false_of_ne hk
      simp [hb]
  | retry =>
    refine ⟨.inl rfl, hlog, fun r hr hsms => .inl ?_⟩
    obtain ⟨r', hr', rfl⟩ := List.mem_map.mp hr
    refine ⟨r', hr', ?_⟩
    by_cases hk : r'.status = .unhandled
    · simp [hk]
    · simp [hk]
  | arrive request data token =>
    have hu : s.requestUnregister token = s := unregister_of_not_mem h.1
    refine ⟨.inl ?_, hlog, fun r hr hsms => ?_⟩
    · exact parked_of_data (RilData.requestUnregister_requestsData _ token)
    · simp only [Op.exec, rilOnRequest, hu, RilData.log, RilData.requestRegister, List.mem_append,
        List.mem_singleton] at hr
      rcases hr with hr | rfl
      · exact .inl ⟨r, hr, rfl, rfl, Iff.rfl⟩
      · exact .inr ⟨by simp, h.2⟩
  | cancel token =>
    have hdata : ((Op.cancel token).exec s).requestsData = s.requestsData :=
      @op_requestsData (.cancel token) trivial s
    refine .of_requests (parked_of_data hdata) hlog ?_
    simp only [Op.exec, rilOnCancel]
    split
    · exact fun _ h => h
    · exact fun r hr => mem_of_unregister hr
  | _ => exact .of_requests rfl hlog fun r hr => hr

end

/-! ### The steps that leave them as they are -/

def Footprint.noSms (F : Footprint) : Prop :=
  (∀ x ∈ F.messages, x.2.1 ≠ .smsSvcCenterAddr ∧ x.2.1 ≠ .smsSendMsg) ∧ .sendSms ∉ F.data

lemma request_footprint_no_sms {request : RilRequestCode} (h : request ∉ smsRequests) : request.footprint.noSms := by
  cases request with
  | sendSms | sendSmsExpectMore => simp [smsRequests] at h
  | _ => simp [Footprint.noSms, RilRequestCode.footprint]

lemma message_footprint_no_sms {message : IpcMessage} (h : message.command ≠ .smsSvcCenterAddr) (s : RilData) :
    (messageFootprint message s).noSms := by
  obtain ⟨aseq, command, type, data⟩ := message
  cases command with
  | smsSvcCenterAddr => exact absurd rfl h
  | genPhoneRes =>
    simp only [messageFootprint, genPhoneResFootprint]
    split
    · rename_i callback _ _ _
      cases callback <;> simp [Footprint.noSms, GenPhoneResCallback.footprint, lockInfomationRequests]
    · simp [Footprint.noSms]
    · simp [Footprint.noSms]
  | _ => simp [Footprint.noSms, messageFootprint, lockInfomationRequests]

section

variable {F : Footprint} {s : RilData} {op : Op}

lemma QuietOp.noSms (h : QuietOp F op) (hF : F.noSms) : op.noSms s := by
  cases op with
  | dataSet request _ | dataFree request | dataDrop request =>
    rintro rfl
    exact hF.2 h
  | unsolicited | pinCache | simIccType | hsdpaStatus | svcSession | connections => trivial
  | _ => exact h.elim

lemma RequestOp.noSms {token : RilToken} {sent : Bool} (h : RequestOp F token sent s op) (hF : F.noSms) :
    op.noSms s := by
  rcases h.cases with rfl | ⟨expect, command, type, data, rfl, hm, -⟩ | hq
  · trivial
  · exact hF.1 _ hm
  · exact hq.noSms hF

lemma MessageOp.noSms {message : IpcMessage} (h : MessageOp F message s op) (hF : F.noSms) : op.noSms s := by
  rcases h.cases with ⟨token, error, response, rfl, -⟩ | rfl | ⟨radioState, rfl, -⟩ | h
  · trivial
  · trivial
  · trivial
  · rcases h.cases with ⟨q, expect, command, type, data, rfl, -, hm⟩ | ⟨token, rfl⟩ | hq
    · exact hF.1 _ hm
    · trivial
    · exact hq.noSms hF

end

/-- The actions that may concern short messages. -/
def Action.concernsSms (d : Daemon) : Action → Prop
  | .loopDispatch _ => ∃ r, d.data.requestFindStatus .pending = some r ∧ r.request ∈ smsRequests
  | .message _ m => m.command = .smsSvcCenterAddr
  | _ => False

lemma step_op_no_sms {d : Daemon} {a : Action} {s : RilData} {op : Op} (hf : fresh d a) (hd : Synced d.data)
    (hs : Synced s) (ht : d.data.trace <:+ s.trace) (ha : ¬a.concernsSms d) (h : StepOp d a s op) : op.noSms s := by
  cases a with
  | request request data token =>
    obtain ⟨rfl, rfl⟩ := h
    exact ⟨hs.not_mem_of_fresh hf.2, hf.2⟩
  | requestSignal | loopWake | loopStart | clientStop | cancel token =>
    obtain rfl := h
    trivial
  | loopEnd => exact h.elim
  | loopDispatch env =>
    obtain ⟨r, hr, h⟩ := h
    have hsms : r.request ∉ smsRequests := fun hm => ha ⟨r, hr, hm⟩
    have hother : ∀ r' ∈ s.requests, r'.token = r.token → r'.request ∉ smsRequests := by
      intro r' hr' htoken
      have h1 : .arrived r.token r'.request r'.data ∈ s.trace := htoken ▸ hs.arrived _ (List.mem_map_of_mem hr')
      have h2 : .arrived r.token r.request r.data ∈ s.trace :=
        ht.subset (hd.arrived _ (List.mem_map_of_mem (List.mem_of_find?_eq_some hr)))
      rw [(hs.unique _ _ _ _ _ h1 h2).1]
      exact hsms
    rcases h with rfl | ⟨sent, h⟩ | rfl | rfl | ⟨error, response, rfl, -⟩
    · simp [Op.noSms]
    · exact h.noSms (request_footprint_no_sms hsms)
    · exact fun r' hr' htoken hm => absurd hm (hother r' hr' htoken)
    · exact fun r' hr' htoken hm => absurd hm (hother r' hr' htoken)
    · trivial
  | message env message =>
    rcases h with rfl | h | rfl
    · simp [Op.noSms]
    · exact h.noSms (message_footprint_no_sms ha d.data)
    · trivial
  | clientError =>
    rcases h with rfl | ⟨failures, rfl⟩ <;> trivial
  | clientReopen closed opened =>
    rcases h with ⟨rfl, -⟩ | ⟨failures, available, rfl⟩ <;> trivial
  | srs env message =>
    rcases h with rfl | ⟨command, hc, type, data, rfl⟩ | ⟨state, -, rfl⟩
    · simp [Op.noSms]
    · constructor
      · rintro rfl
        simp [srsCommands] at hc
      · rintro rfl
        simp [srsCommands] at hc
    · trivial

lemma plain_step {d d' : Daemon} {a : Action} (hf : fresh d a) (hd : Synced d.data) (h : SmsInv d.data)
    (ha : ¬a.concernsSms d) (hstep : step d a = some d') : SmsInv d'.data := by
  have hall {t : RilData} (hp : Path Op.exec (StepOp d a) d.data t) :
      Synced t ∧ d.data.trace <:+ t.trace ∧ SmsInv t := by
    induction hp with
    | refl => exact ⟨hd, List.suffix_rfl, h⟩
    | tail _ ht ih =>
      obtain ⟨op, hop, rfl⟩ := ht
      have hk := op_no_sms (step_op_no_sms hf hd ih.1 ih.2.1 ha hop)
      exact ⟨synced_rounds ih.1 (op_registry hf ih.1 hop), ih.2.1.trans hk.trace.suffix, ih.2.2.keeps hk⟩
  exact (hall (step_path hstep)).2.2

end Ril.Samsung
