import Ril.Samsung.Proofs.SeqSharing
import Ril.Samsung.Proofs.SmsParked

/-! Runs in which the requests for short messages go one by one. -/

namespace Ril.Samsung

open Ril.Ipc Ril.Lib

/-! ### The dispatch of a request for a short message -/

lemma sms_parts_ne_nil {data : RilValue} {smsc : Option Bytes} {pdu : Bytes} (h : smsParts data = some (smsc, pdu)) :
    pdu ≠ [] := by
  unfold smsParts at h
  split at h
  · rename_i smsc' pdu' rest
    cases pdu' with
    | none => simp [smsStrings] at h
    | some string =>
      cases hs : string2data string with
      | none => simp [smsStrings, hs] at h
      | some data =>
        have hne := string_data_ne_nil hs
        cases smsc' with
        | none =>
          simp [smsStrings, hs] at h
          rw [← h.2]
          exact hne
        | some smsc' =>
          cases hc : string2data smsc' with
          | none => simp [smsStrings, hc] at h
          | some own =>
            simp [smsStrings, hs, hc] at h
            rw [← h.2]
            exact hne
  · cases h

section

variable {s : RilData} {token : RilToken}

/-- What is done with a request that has no SMSC of its own. -/
def askSmsc (token : RilToken) (pdu : Bytes) : RilM RilRequestStatus := do
  rilRequestDataSetUniq .sendSms (.bytes pdu)
  if ← transmit (.request token) none .smsSvcCenterAddr .get [] then
    return .handled
  else
    rilRequestDataFree .sendSms
    failSms token

lemma send_sms_run (data : RilValue) (token : RilToken) (s : RilData) :
    rilRequestSendSms data token s = (.unhandled, s) ∨ rilRequestSendSms data token s = failSms token s ∨
      s.radioStateCheck .simNotReady = true ∧ s.requestFindRequestStatus .sendSms .handled = none ∧
        ((∃ smsc pdu, smsParts data = some (some smsc, pdu)) ∨
          ∃ pdu, smsParts data = some (none, pdu) ∧ rilRequestSendSms data token s = askSmsc token pdu s) := by
  unfold rilRequestSendSms
  split
  · rename_i smsc pdu rest
    rw [whenRadioState_apply, whenNoneHandled_apply]
    split
    · rename_i hr
      split
      · exact .inl rfl
      · rename_i hh
        have hnone : s.requestFindRequestStatus .sendSms .handled = none := by
          simpa [List.any_cons] using hh
        cases hp : smsStrings smsc pdu with
        | none => exact .inr (.inl rfl)
        | some parts =>
          obtain ⟨own, pdu'⟩ := parts
          cases own with
          | none => exact .inr (.inr ⟨hr, hnone, .inr ⟨pdu', hp, rfl⟩⟩)
          | some smsc' => exact .inr (.inr ⟨hr, hnone, .inl ⟨smsc', pdu', hp⟩⟩)
    · exact .inl rfl
  · exact .inr (.inl rfl)

lemma set_uniq_parked {value : RilRequestDataValue} (hv : value.size ≠ 0) :
    (s.requestDataSetUniq .sendSms value).parked = [(.sendSms, value)] := by
  have hfree : (s.requestDataFree .sendSms).parked = [] := by
    simp [RilData.parked, RilData.requestDataFree, List.filter_filter]
  have hset : (s.requestDataSetUniq .sendSms value).parked =
      (s.requestDataFree .sendSms).parked ++ [(.sendSms, value)] := by
    rw [RilData.requestDataSetUniq, RilData.requestDataSet, if_neg hv, RilData.parked, List.filter_append]
    rfl
  rw [hset, hfree]
  rfl

lemma transmit_request_trace (expect : Option ExpectKind) (he : expect = none) (command : IpcCommand)
    (type : IpcRequestType) (data : Bytes) (s : RilData) :
    (transmit (.request token) expect command type data s).2.trace =
      .sent ⟨(s.ipcFmtRequestSeq token).1, command, type, data⟩ (transmit (.request token) expect command type data s).1 ::
        (s.ipcFmtRequestSeq token).2.trace := by
  subst he
  rw [RilData.transmit_request, RilData.expectSend_apply, if_neg (by simp)]
  rfl

lemma request_seq_dispatcher (s : RilData) (token : RilToken) :
    dispatcher (s.ipcFmtRequestSeq token).2.trace = dispatcher s.trace := by
  obtain ⟨new, ht, hn⟩ := Logged.ipcFmtRequestSeq s token (P := fun e => ∃ seq, e = .seqTaken (some token) seq)
    fun seq => ⟨seq, rfl⟩
  rw [ht]
  clear ht
  induction new with
  | nil => rfl
  | cons e new ih =>
    obtain ⟨seq, rfl⟩ := hn e List.mem_cons_self
    exact ih fun e he => hn e (List.mem_cons_of_mem _ he)

end

section

variable {s : RilData} {r : RilRequest} {pdu : Bytes}

/-- The state in which a request asks for the SMSC: nothing waits, or for a request that is gone. -/
structure AsksAlone (s : RilData) (r : RilRequest) : Prop where
  inv : SmsInv s
  synced : Synced s
  mem : r ∈ s.requests
  sms : r.request ∈ smsRequests
  status : r.status ≠ .handled
  dispatched : dispatcher s.trace = some r.token
  alone : s.parked ≠ [] → ∀ token ∈ s.tokens, askedBy s.trace ≠ some token

lemma AsksAlone.kept (h : AsksAlone s r) {r' : RilRequest} (hr' : r' ∈ s.requests) (hsms : r'.request ∈ smsRequests)
    (hh : r'.status = .handled) : sentFor r'.token s.trace = true := by
  rcases h.inv.kept r' hr' hsms hh with ⟨hp, ha⟩ | hs
  · exact absurd ha (h.alone hp r'.token (List.mem_map_of_mem hr'))
  · exact hs

lemma request_eq_of_token (hs : Synced s) {r r' : RilRequest} (hr : r ∈ s.requests) (hr' : r' ∈ s.requests)
    (he : r'.token = r.token) : r' = r := List.inj_on_of_nodup_map hs.nodup hr' hr he

/-- Without the PDU that waits the requests that are handled have had theirs sent. -/
lemma AsksAlone.cleared (h : AsksAlone s r) {t : RilData} (hp : t.parked = []) (hr : ∀ r' ∈ t.requests, r' ∈ s.requests)
    (ht : Extends Event.noSms s.trace t.trace) : SmsInv t := by
  obtain ⟨ha, hf⟩ := no_sms_trace ht
  refine ⟨?_, ?_, ?_, ?_, ?_, ?_⟩
  · rw [hp]
    exact Nat.zero_le _
  · rw [hp]
    exact fun _ h => absurd h List.not_mem_nil
  · intro r' hr' hsms hh
    exact .inr ((hf _).trans (h.kept (hr r' hr') hsms hh))
  · intro r' hr' hsms hh
    rw [ha, hf]
    exact h.inv.waiting r' (hr r' hr') hsms hh
  · intro token hc
    rw [ha, hf] at hc
    obtain ⟨request, data, harr⟩ := h.inv.arrived token hc
    exact ⟨request, data, ht.suffix.subset harr⟩
  · exact h.inv.own.extends (ht.mono fun e he => no_sms_not_sent he)

/-- The PDU of the request waits after it has asked for the SMSC. -/
lemma AsksAlone.asked (h : AsksAlone s r) (hparts : smsParts r.data = some (none, pdu)) {t : RilData} {q : UInt8}
    (hp : t.parked = [(.sendSms, .bytes pdu)]) (hr : t.requests = s.requests) {trace : List Event}
    (ht : t.trace = .sent ⟨q, .smsSvcCenterAddr, .get, []⟩ true :: trace) (htrace : Extends Event.noSms s.trace trace)
    (hd : dispatcher trace = some r.token) : SmsInv (t.requestSetStatus r.token .handled) := by
  obtain ⟨-, hf⟩ := no_sms_trace htrace
  have ha : askedBy t.trace = some r.token := by
    rw [ht]
    exact hd
  have hs (token : RilToken) : sentFor token t.trace = sentFor token s.trace := by
    rw [ht, ← hf token]
    exact Bool.false_or _
  have hsuffix : s.trace <:+ t.trace := htrace.suffix.trans (ht ▸ List.suffix_cons _ _)
  have harr : .arrived r.token r.request r.data ∈ t.trace :=
    hsuffix.subset (h.synced.arrived _ (List.mem_map_of_mem h.mem))
  have hmem : ∀ x ∈ (t.requestSetStatus r.token .handled).requests, x.token = r.token ∧ x.status = .handled ∨
      x.token ≠ r.token ∧ x ∈ s.requests := by
    intro x hx
    obtain ⟨r', hr', rfl⟩ := List.mem_map.mp hx
    rw [hr] at hr'
    by_cases hk : r'.token = r.token
    · simp [hk]
    · simp [beq_false_of_ne hk, hk, hr']
  refine ⟨Nat.le_of_eq (congrArg List.length hp), ?_, ?_, ?_, ?_, ?_⟩
  · intro e he
    have he : e ∈ t.parked := he
    rw [hp, List.mem_singleton] at he
    subst he
    exact ⟨r.token, pdu, ha, ⟨r.request, r.data, none, harr, h.sms, hparts⟩,
      (hs _).trans (h.inv.waiting r h.mem h.sms h.status).2, rfl⟩
  · intro x hx hsms hh
    rcases hmem x hx with ⟨hk, -⟩ | ⟨-, hx'⟩
    · rw [hk]
      exact .inl ⟨by rw [show (t.requestSetStatus r.token .handled).parked = t.parked from rfl, hp]; exact List.cons_ne_nil _ _, ha⟩
    · exact .inr ((hs _).trans (h.kept hx' hsms hh))
  · intro x hx hsms hh
    rcases hmem x hx with ⟨-, hk⟩ | ⟨hk, hx'⟩
    · exact absurd hk hh
    · exact ⟨fun he => hk (Option.some.inj (he.symm.trans ha)), (hs _).trans (h.inv.waiting x hx' hsms hh).2⟩
  · rintro token (hc | hc)
    · obtain rfl := Option.some.inj (hc.symm.trans ha)
      exact ⟨_, _, harr⟩
    · obtain ⟨request, data, harr'⟩ := h.inv.arrived token (.inr ((hs token).symm.trans hc))
      exact ⟨request, data, hsuffix.subset harr'⟩
  · have hown : OwnPdus trace := h.inv.own.extends (htrace.mono fun e he => no_sms_not_sent he)
    have hext : Extends (fun e => ∀ m, e = .sent m true → m.command ≠ .smsSendMsg) trace t.trace := by
      rw [ht]
      refine .one (fun m he => ?_) _
      obtain ⟨rfl, -⟩ := Event.sent.inj he
      intro hc
      cases hc
    exact hown.extends hext

lemma ask_smsc_sms (h : AsksAlone s r) (hparts : smsParts r.data = some (none, pdu)) :
    (askSmsc r.token pdu s).1 = .handled ∧ SmsInv ((askSmsc r.token pdu s).2.requestSetStatus r.token .handled) ∨
      (askSmsc r.token pdu s).1 = .completed ∧ SmsInv (askSmsc r.token pdu s).2 := by
  have hsize : (RilRequestDataValue.bytes pdu).size ≠ 0 := fun h0 =>
    sms_parts_ne_nil hparts (List.length_eq_zero_iff.mp h0)
  have hu := set_uniq_parked (s := s) hsize
  have hus : (s.requestDataSetUniq .sendSms (.bytes pdu)).trace = s.trace ∧
      (s.requestDataSetUniq .sendSms (.bytes pdu)).requests = s.requests := by
    rw [RilData.requestDataSetUniq, RilData.requestDataSet, if_neg hsize]
    exact ⟨rfl, rfl⟩
  generalize hset : s.requestDataSetUniq .sendSms (.bytes pdu) = u at hu hus
  have ht := u.transmit_withoutFmt (.request r.token) none .smsSvcCenterAddr .get []
  have htrace := @transmit_request_trace r.token none rfl .smsSvcCenterAddr .get [] u
  have hseq : Extends Event.noSms s.trace (u.ipcFmtRequestSeq r.token).2.trace :=
    hus.1 ▸ Logged.ipcFmtRequestSeq u r.token fun _ => trivial
  have hrun : askSmsc r.token pdu s =
      if (transmit (.request r.token) none .smsSvcCenterAddr .get [] u).1 then
        (.handled, (transmit (.request r.token) none .smsSvcCenterAddr .get [] u).2)
      else (.completed, ((transmit (.request r.token) none .smsSvcCenterAddr .get [] u).2.requestDataFree
        .sendSms).requestComplete r.token .smsSendFailRetry .null) := by
    subst hset
    simp only [askSmsc, rilRequestDataSetUniq, rilRequestDataFree, bind_apply, modify_apply]
    split <;> rfl
  rw [hrun]
  generalize hg : transmit (.request r.token) none .smsSvcCenterAddr .get [] u = v at ht htrace
  obtain ⟨sent, t⟩ := v
  cases sent with
  | true =>
    refine .inl ⟨rfl, h.asked hparts ((parked_of_withoutFmt ht).trans hu) ((requests_of_withoutFmt ht).trans hus.2)
      htrace hseq ?_⟩
    rw [request_seq_dispatcher, hus.1]
    exact h.dispatched
  | false =>
    refine .inr ⟨rfl, ?_⟩
    have hfree : SmsInv (t.requestDataFree .sendSms) := by
      refine h.cleared ?_ ?_ ?_
      · simp [RilData.parked, RilData.requestDataFree, List.filter_filter]
      · intro r' hr'
        rw [← hus.2, ← requests_of_withoutFmt ht]
        exact hr'
      · have ht' : (t.requestDataFree .sendSms).trace = t.trace := rfl
        rw [ht', htrace]
        exact .cons trivial hseq
    exact hfree.keeps (complete_sms _ _ _ _)

end

lemma sms_dispatch {d : Daemon} {env : Env} {r : RilRequest} (hs : Synced d.data) (h : SmsInv d.data)
    (hr : d.data.requestFindStatus .pending = some r) (hsms : r.request ∈ smsRequests)
    (hone : smsOneByOne d (.loopDispatch env)) : SmsInv (dispatchRequest env r d.data) := by
  have hm : r ∈ d.data.requests := List.mem_of_find?_eq_some hr
  have hpending : r.status = .pending := by simpa using List.find?_some hr
  have hh : rilRequestHandler r.request = some rilRequestSendSms := by
    rcases List.mem_pair.mp hsms with h | h <;> rw [h] <;> rfl
  have hstart : SmsInv (d.data.started env (.dispatched r.token)) :=
    h.keeps (@op_no_sms d.data (.start env (some (.dispatched r.token))) (by simp [Op.noSms]))
  rcases send_sms_run r.data r.token (d.data.started env (.dispatched r.token)) with he | he | ⟨hradio, hnone, he⟩
  · rw [dispatch_result hh he]
    refine hstart.keeps (@op_no_sms _ (.setStatus r.token .unhandled) ?_)
    intro r' hr' htoken _
    rw [request_eq_of_token hs hm hr' htoken, hpending]
    decide
  · rw [dispatch_result hh he]
    exact hstart.keeps (complete_sms _ _ _ _)
  · rcases he with ⟨smsc, pdu, hparts⟩ | ⟨pdu, hparts, he⟩
    · exact absurd (hone r hr hsms hradio hnone _ _ hparts).1 (Option.some_ne_none smsc)
    · have halone : AsksAlone (d.data.started env (.dispatched r.token)) r := {
        inv := hstart
        synced := hs.keeps (started_keeps d.data env rfl)
        mem := hm
        sms := hsms
        status := by simp [hpending]
        dispatched := rfl
        alone := (hone r hr hsms hradio hnone _ _ hparts).2 }
      generalize hg : askSmsc r.token pdu (d.data.started env (.dispatched r.token)) = v at he
      obtain ⟨status, t⟩ := v
      rw [dispatch_result hh he]
      have hask := ask_smsc_sms halone hparts
      rw [hg] at hask
      rcases hask with ⟨rfl, hi⟩ | ⟨rfl, hi⟩
      · exact hi
      · exact hi

/-! ### The answer with the SMSC -/

section

variable {s : RilData} {message : IpcMessage}

/-- The PDU that waits is taken, and sent under the seq of the answer. -/
def sendParked (message : IpcMessage) (smsc pdu : Bytes) : RilM Rc := do
  let _ ← rilRequestDataGet .sendSms
  if !(← rilRequestSendSmsComplete message.aseq smsc pdu) then
    completeReply message .smsSendFailRetry .null
  return .ok

lemma parked_head (s : RilData) : s.requestDataFind .sendSms = s.parked.head?.map (·.2) := by
  rw [RilData.requestDataFind, RilData.parked, List.head?_filter]

/-- The answer finds no PDU, or brings no SMSC, or the PDU that waits is sent. -/
lemma svc_center_addr_run (h : SmsInv s) (message : IpcMessage) :
    SmsInv (ipcSmsSvcCenterAddr message s).2 ∨
      IpcMessage.isResponse message = true ∧ ∃ smsc pdu, ipcSmsSvcCenterAddrSmscExtract message.data = some smsc ∧
        s.parked = [(.sendSms, .bytes pdu)] ∧ (ipcSmsSvcCenterAddr message s).2 = (sendParked message smsc pdu s).2 := by
  have hfail (error : RilErrno) (response : RilResponse) {t : RilData} (ht : SmsInv t) :
      SmsInv (completeReply message error response t).2 := ht.keeps (complete_sms t _ _ _)
  unfold ipcSmsSvcCenterAddr
  cases hd : message.data with
  | nil => exact .inl h
  | cons b bs =>
    dsimp only
    by_cases hr : IpcMessage.isResponse message = true
    · rw [if_pos hr]
      cases hx : ipcSmsSvcCenterAddrSmscExtract (b :: bs) with
      | none => exact .inl (hfail _ _ h)
      | some smsc =>
        cases hp : s.parked with
        | nil =>
          left
          have hfind : s.requestDataFind .sendSms = none := by rw [parked_head, hp]; rfl
          have hdrop : SmsInv (s.requestDataDrop .sendSms) := by
            refine h.keeps (.of_requests ?_ (.refl _) fun _ hr => hr)
            rw [hp]
            refine List.filter_eq_nil_iff.mpr fun e he => ?_
            exact List.filter_eq_nil_iff.mp hp e (List.mem_of_mem_eraseP he)
          simp only [bind_apply, rilRequestDataGet, hfind]
          exact hfail _ _ hdrop
        | cons e rest =>
          obtain ⟨token, pdu, -, -, -, hv⟩ := h.parked e (hp ▸ List.mem_cons_self)
          have hone := h.one
          rw [hp, List.length_cons] at hone
          have hrest : rest = [] := List.length_eq_zero_iff.mp (by omega)
          have he : e = (.sendSms, .bytes pdu) := by
            have hk : e ∈ s.parked := hp ▸ List.mem_cons_self
            have hk := (List.mem_filter.mp hk).2
            exact Prod.ext (by simpa using hk) hv
          have hfind : s.requestDataFind .sendSms = some (.bytes pdu) := by rw [parked_head, hp, he]; rfl
          right
          refine ⟨hr, smsc, pdu, rfl, by rw [he, hrest], ?_⟩
          simp only [sendParked, bind_apply, rilRequestDataGet, hfind]
    · rw [if_neg hr]
      exact .inl h

/-- The PDU that waits is that of the request with the seq of the answer. -/
structure Answered (s : RilData) (aseq : UInt8) (token : RilToken) (pdu : Bytes) : Prop where
  inv : SmsInv s
  synced : Synced s
  parked : s.parked = [(.sendSms, .bytes pdu)]
  asked : askedBy s.trace = some token
  holds : holder aseq s.trace = some token
  found : token ∈ s.tokens → s.ipcFmtRequestToken aseq = token
  pdu : PduOf token s.trace pdu
  notSent : sentFor token s.trace = false

variable {t : RilData} {token : RilToken} {pdu smsc : Bytes}

lemma Answered.sent (h : Answered s message.aseq token pdu) {data : Bytes}
    (hd : ipcSmsSendMsgSetup ipcSmsTypeOutgoing (smsMsgType pdu) smsc pdu = some data) (hp : t.parked = [])
    (hr : t.requests = s.requests) (ht : t.trace = .sent ⟨message.aseq, .smsSendMsg, .exec, data⟩ true :: s.trace) :
    SmsInv t := by
  have hs (k : RilToken) : sentFor k t.trace = (decide (k = token) || sentFor k s.trace) := by
    rw [ht, sentFor, h.holds]
    by_cases hk : k = token
    · simp [hk]
    · simp [hk, Ne.symm hk]
  have ha : askedBy t.trace = some token := by
    rw [ht]
    exact h.asked
  have hsuffix : s.trace <:+ t.trace := ht ▸ List.suffix_cons _ _
  refine ⟨?_, ?_, ?_, ?_, ?_, ?_⟩
  · rw [hp]
    exact Nat.zero_le _
  · rw [hp]
    exact fun _ h => absurd h List.not_mem_nil
  · intro r hm hsms hh
    right
    rw [hs]
    rcases h.inv.kept r (hr ▸ hm) hsms hh with ⟨-, hasked⟩ | hsent
    · have hk : r.token = token := Option.some.inj (hasked.symm.trans h.asked)
      simp [hk]
    · simp [hsent]
  · intro r hm hsms hh
    obtain ⟨hasked, hsent⟩ := h.inv.waiting r (hr ▸ hm) hsms hh
    have hk : r.token ≠ token := fun hk => hasked (hk ▸ h.asked)
    rw [ha, hs]
    exact ⟨fun he => hk (Option.some.inj he).symm, by simp [hk, hsent]⟩
  · intro k hc
    rw [ha, hs] at hc
    have hc : askedBy s.trace = some k ∨ sentFor k s.trace = true := by
      rcases hc with hc | hc
      · exact .inl (h.asked.trans hc)
      · rcases Bool.or_eq_true _ _ ▸ hc with hk | hk
        · exact .inl (h.asked.trans (congrArg some (of_decide_eq_true hk).symm))
        · exact .inr hk
    obtain ⟨request, data, harr⟩ := h.inv.arrived k hc
    exact ⟨request, data, hsuffix.subset harr⟩
  · rw [ht]
    exact h.inv.own.sent ⟨token, pdu, smsc, h.holds, h.pdu, h.notSent, hd⟩

/-- The request whose PDU is not sent is completed, if it is still there. -/
lemma Answered.failed (h : Answered s message.aseq token pdu) (hp : t.parked = []) (hr : t.requests = s.requests)
    (hf : t.fmtRequests = s.fmtRequests) (ht : Extends Event.noSms s.trace t.trace) (error : RilErrno)
    (response : RilResponse) : SmsInv (completeReply message error response t).2 := by
  have hc : (completeReply message error response t).2 =
      t.requestComplete (s.ipcFmtRequestToken message.aseq) error response := by
    have hfound : t.ipcFmtRequestToken message.aseq = s.ipcFmtRequestToken message.aseq := by
      rw [RilData.ipcFmtRequestToken, RilData.ipcFmtRequestToken, RilData.fmtRequestFindSeq,
        RilData.fmtRequestFindSeq, hf]
    rw [← hfound]
    rfl
  have hk := complete_sms t (s.ipcFmtRequestToken message.aseq) error response
  have hext := ht.trans hk.trace
  obtain ⟨ha, hs⟩ := no_sms_trace hext
  have hmem : ∀ r ∈ (t.requestComplete (s.ipcFmtRequestToken message.aseq) error response).requests,
      r ∈ s.requests := by
    intro r hm
    rw [← hr]
    rw [RilData.requestComplete] at hm
    split at hm
    · exact hm
    · exact mem_of_unregister hm
  have hgone : ∀ r ∈ (t.requestComplete (s.ipcFmtRequestToken message.aseq) error response).requests,
      r.token ≠ token := by
    rintro r hm rfl
    have hin : r.token ∈ s.tokens := List.mem_map_of_mem (hmem r hm)
    have h0 : r.token ≠ 0 := fun h0 => h.synced.ne_zero (h0 ▸ hin)
    have htok : t.tokens = s.tokens := by rw [RilData.tokens, RilData.tokens, hr]
    obtain ⟨r', hfind⟩ := find_token_of_mem (s := t) (htok ▸ hin)
    rw [h.found hin, RilData.requestComplete, if_neg h0] at hm
    exact ((mem_unregister (htok ▸ h.synced.nodup) hfind).mp hm).2 rfl
  have hparked : (t.requestComplete (s.ipcFmtRequestToken message.aseq) error response).parked = [] := by
    rcases hk.parked with hq | ⟨hq, -⟩
    · exact hq.trans hp
    · exact hq
  rw [hc]
  refine ⟨?_, ?_, ?_, ?_, ?_, ?_⟩
  · rw [hparked]
    exact Nat.zero_le _
  · rw [hparked]
    exact fun _ h => absurd h List.not_mem_nil
  · intro r hm hsms hh
    right
    rw [hs]
    rcases h.inv.kept r (hmem r hm) hsms hh with ⟨-, hasked⟩ | hsent
    · exact absurd (Option.some.inj (hasked.symm.trans h.asked)) (hgone r hm)
    · exact hsent
  · intro r hm hsms hh
    rw [ha, hs]
    exact h.inv.waiting r (hmem r hm) hsms hh
  · intro k hc
    rw [ha, hs] at hc
    obtain ⟨request, data, harr⟩ := h.inv.arrived k hc
    exact ⟨request, data, hext.suffix.subset harr⟩
  · exact h.inv.own.extends (hext.mono fun e he => no_sms_not_sent he)

lemma send_parked_sms (h : Answered s message.aseq token pdu) (smsc : Bytes) :
    SmsInv (sendParked message smsc pdu s).2 := by
  have hp : (s.requestDataDrop .sendSms).parked = [] :=
    (filter_drop_self _ s.requestsData).trans (congrArg List.tail h.parked)
  have hrun : (sendParked message smsc pdu s).2 =
      if (rilRequestSendSmsComplete message.aseq smsc pdu (s.requestDataDrop .sendSms)).1 then
        (rilRequestSendSmsComplete message.aseq smsc pdu (s.requestDataDrop .sendSms)).2
      else (completeReply message .smsSendFailRetry .null
        (rilRequestSendSmsComplete message.aseq smsc pdu (s.requestDataDrop .sendSms)).2).2 := by
    simp only [sendParked, bind_apply, rilRequestDataGet]
    cases (rilRequestSendSmsComplete message.aseq smsc pdu (s.requestDataDrop .sendSms)).1 <;> rfl
  rw [hrun]
  rcases send_sms_complete_cases message.aseq smsc pdu with he | ⟨data, -, hd, he⟩
  · rw [he]
    exact h.failed hp rfl rfl (.refl _) _ _
  · rw [he, RilData.expectSend_apply]
    split
    · split
      · cases ‹_›
      · exact h.failed hp rfl rfl (.refl _) _ _
    · generalize hu : s.requestDataDrop .sendSms = u at hp
      have hr : u.requests = s.requests ∧ u.trace = s.trace ∧ u.fmtRequests = s.fmtRequests := hu ▸ ⟨rfl, rfl, rfl⟩
      split
      · rename_i hsent
        refine h.sent hd hp hr.1 ?_
        rw [← hr.2.1]
        exact congrArg (fun ok => Event.sent _ ok :: u.trace) hsent
      · rename_i hsent
        refine h.failed ?_ ?_ ?_ ?_ _ _
        · exact hp
        · exact hr.1
        · exact (u.expectRegister_fmtRequests _).trans hr.2.2
        · dsimp only at hsent
          rw [← hr.2.1]
          refine .one ?_ u.trace
          rw [Bool.eq_false_iff.mpr hsent]
          trivial

end

/-! ### Runs -/

lemma sms_message {d : Daemon} {env : Env} {message : IpcMessage} (hs : Synced d.data) (h : SmsInv d.data)
    (hc : message.command = .smsSvcCenterAddr) (hone : smsOneByOne d (.message env message)) :
    SmsInv (dispatchMessage env message d.data).2 := by
  have hstart : SmsInv (d.data.started env (.received message)) :=
    h.keeps (@op_no_sms d.data (.start env (some (.received message))) (by simp [Op.noSms]))
  have hrun : dispatchMessage env message d.data =
      ipcSmsSvcCenterAddr message (d.data.started env (.received message)) := by
    rw [dispatchMessage, ipcFmtDispatch, hc]
    rfl
  rw [hrun]
  rcases svc_center_addr_run hstart message with hi | ⟨hr, smsc, pdu, hx, hp, he⟩
  · exact hi
  · have hparked : d.data.parked = [(.sendSms, .bytes pdu)] := hp
    obtain ⟨token, hasked, hholds, hfound⟩ := hone hc hr (by rw [hx]; rfl) (by rw [hparked]; exact List.cons_ne_nil _ _)
    obtain ⟨token', pdu', hasked', hpdu, hsent, hv⟩ := hstart.parked (.sendSms, .bytes pdu) (by rw [hp]; exact List.mem_singleton_self _)
    obtain rfl : token = token' := Option.some.inj (hasked.symm.trans hasked')
    obtain rfl : pdu = pdu' := RilRequestDataValue.bytes.inj hv
    rw [he]
    exact send_parked_sms {
      inv := hstart
      synced := hs.keeps (started_keeps d.data env rfl)
      parked := hp
      asked := hasked
      holds := hholds
      found := hfound
      pdu := hpdu
      notSent := hsent } smsc

lemma SmsInv.of_fmt {s t : RilData} (h : SmsInv s) (hr : t.requests = s.requests) (hp : t.parked = s.parked)
    (ht : t.trace = s.trace) : SmsInv t :=
  h.keeps (.of_requests hp (.of_eq ht) fun _ hm => hr ▸ hm)

lemma sms_step {d d' : Daemon} {a : Action} (hs : Synced d.data) (h : SmsInv d.data) (hf : fresh d a)
    (hone : smsOneByOne d a) (hstep : step d a = some d') : SmsInv d'.data := by
  by_cases ha : a.concernsSms d
  · cases a with
    | loopDispatch env =>
      obtain ⟨r, hr, hsms⟩ := ha
      obtain ⟨-, r', hr', rfl⟩ := step_loop_dispatch.mp hstep
      obtain rfl := Option.some.inj (hr.symm.trans hr')
      exact sms_dispatch hs h hr hsms hone
    | message env message =>
      have hm := sms_message hs h ha hone
      obtain ⟨-, -, ⟨data, he, rfl⟩ | ⟨data, he, rfl⟩⟩ := step_message.mp hstep
      · rw [he] at hm
        exact hm
      · rw [he] at hm
        exact hm.of_fmt rfl rfl rfl
    | _ => exact ha.elim
  · exact plain_step hf hs h ha hstep

/-- In a run in which the requests for short messages go one by one, every short message that is sent has the PDU of
the request with its seq and is the only one for it, and no PDU of a request that is handled is lost. -/
theorem sms_pdus_own {d : Daemon} (h : Reaches step (fun d a => fresh d a ∧ smsOneByOne d a) {} d) :
    OwnPdus d.data.trace ∧ PdusKept d.data := by
  have hi : SmsInv d.data := by
    induction h with
    | refl => exact SmsInv.init
    | tail hr ha hstep ih =>
      exact sms_step (reachable_synced (hr.mono fun _ _ ha => ha.1)) ih ha.1 ha.2 hstep
  exact ⟨hi.own, hi.kept⟩

/-- A decided condition that is enough. -/
def smsOneByOneCheck (d : Daemon) : Action → Bool
  | .loopDispatch _ =>
    match d.data.requestFindStatus .pending with
    | some r => !smsRequests.contains r.request ||
        ((smsParts r.data).all fun parts => parts.1.isNone) && d.data.parked.isEmpty
    | none => true
  | .message _ message => message.command != .smsSvcCenterAddr || d.data.parked.isEmpty ||
      (askedBy d.data.trace).any fun token => holder message.aseq d.data.trace == some token &&
        d.data.ipcFmtRequestToken message.aseq == token
  | _ => true

def smsCheck (d : Daemon) (a : Action) : Bool := freshCheck d a && smsOneByOneCheck d a

lemma one_by_one_of_check {d : Daemon} {a : Action} (h : smsCheck d a = true) : fresh d a ∧ smsOneByOne d a := by
  rw [smsCheck, Bool.and_eq_true] at h
  refine ⟨fresh_of_check h.1, ?_⟩
  cases a with
  | loopDispatch env =>
    intro r hr hsms _ _ smsc pdu hparts
    have hc := h.2
    simp only [smsOneByOneCheck, hr, List.contains_iff_mem.mpr hsms, hparts, Bool.not_true, Bool.false_or,
      Option.all_some, Bool.and_eq_true, Option.isNone_iff_eq_none, List.isEmpty_iff] at hc
    exact ⟨hc.1, fun hp => absurd hc.2 hp⟩
  | message env message =>
    intro hcommand _ _ hp
    have hc := h.2
    simp only [smsOneByOneCheck, hcommand, bne_self_eq_false, Bool.false_or, Bool.or_eq_true, List.isEmpty_iff, hp, false_or,
      Option.any_eq_true, Bool.and_eq_true, beq_iff_eq] at hc
    obtain ⟨token, hasked, hholds, hfound⟩ := hc
    exact ⟨token, hasked, hholds, fun _ => hfound⟩
  | _ => trivial

def smsRun (request : RilRequestCode) (pdu : CString) (token : RilToken) : List Action :=
  dispatchRun {} request (.strings [none, some pdu]) token

def smscAnswer (aseq : UInt8) : Action := .message {} ⟨aseq, .smsSvcCenterAddr, .resp, [0x01, 0x91]⟩

/-- A message with the PDU 01 is sent. -/
theorem sms_pdus_own_sent : OwnPdus (runFrom {} (simReadyRun ++ smsRun .sendSms (ascii ['0', '1']) 1 ++
    [smscAnswer 1])).data.trace ∧
      PdusKept (runFrom {} (simReadyRun ++ smsRun .sendSms (ascii ['0', '1']) 1 ++ [smscAnswer 1])).data :=
  sms_pdus_own (@reaches_runFrom smsCheck _ _ _ (by decide) fun _ _ => one_by_one_of_check)

/-- A second request is dispatched before the SMSC for the first one is there. -/
def overlappingSmsRun : List Action :=
  simReadyRun ++ smsRun .sendSmsExpectMore (ascii ['0', '1']) 1 ++ smsRun .sendSmsExpectMore (ascii ['0', '2']) 2 ++
    [smscAnswer 1]

/-- The first request carries the PDU 01. -/
def firstCarries : Event → Bool
  | .arrived 1 _ data => smsParts data == some (none, [0x01])
  | _ => true

/-- The PDU of the second request is sent under the seq of the first one, and is lost for the second one. -/
theorem sms_pdus_own_fails : ∃ d, Reachable d ∧ d = runFrom {} overlappingSmsRun ∧ ¬OwnPdus d.data.trace ∧
    ¬PdusKept d.data := by
  refine ⟨_, reachable_runFrom (by decide), rfl, fun h => ?_, fun h => ?_⟩
  · obtain ⟨token, pdu, smsc, hholds, ⟨request, data, own, harr, -, hparts⟩, -, hd⟩ :=
      h [] ⟨0x01, .smsSendMsg, .exec, [0x02, 0x02, 0x00, 0x03, 0x01, 0x91, 0x02]⟩
        (runFrom {} overlappingSmsRun).data.trace.tail (by decide) rfl
    obtain rfl : 1 = token := Option.some.inj ((by decide : holder 1 _ = some 1).symm.trans hholds)
    have hall : (runFrom {} overlappingSmsRun).data.trace.tail.all firstCarries = true := by decide
    have hpdu : (smsParts data == some (none, [0x01])) = true := List.all_eq_true.mp hall _ harr
    rw [beq_iff_eq, hparts, Option.some.injEq, Prod.mk.injEq] at hpdu
    obtain ⟨-, rfl⟩ := hpdu
    rw [ipcSmsSendMsgSetup] at hd
    split at hd
    · cases hd
    · have hlast := congrArg List.getLast? (Option.some.inj hd)
      simp [smsContainer, List.getLast?_cons] at hlast
  · have hk := h ⟨.sendSmsExpectMore, .strings [none, some (ascii ['0', '2'])], 2, .handled⟩ (by decide) (by decide) rfl
    rcases hk with ⟨hp, -⟩ | hs
    · exact hp (by decide)
    · exact absurd hs (by decide)

end Ril.Samsung
