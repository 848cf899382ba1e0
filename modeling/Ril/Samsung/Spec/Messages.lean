import Ril.Samsung.Spec.Requests

/-! The handlers of the messages as sequences of operations. -/

namespace Ril.Samsung

open Ril.Ipc Ril.Lib

def GenPhoneResCallback.footprint : GenPhoneResCallback → Footprint
  | ipcSecPinStatus => { data := [.getSimStatus] }
  | ipcSec => {
      replies := true
      messages := [(none, .secLockInfomation, .get), (some (.callback .ipcSec), .secPhoneLock, .set),
        (none, .secRsimAccess, .get)]
      data := .simIo :: lockInfomationRequests }
  | ipcCallContDtmf => {
      replies := true
      messages := [(some .complete, .callContDtmf, .set), (some .abort, .callBurstDtmf, .exec)]
      data := [.dtmfStart, .dtmf] }
  | ipcNetPlmnSel => { replies := true }
  | ipcGprsDefinePdpContext => {
      replies := true
      messages := [(some (.callback .ipcGprsPdpContext), .gprsPdpContext, .set)]
      connections := true }
  | ipcGprsPdpContext => { replies := true, connections := true }

def callStatusTokens (message : IpcMessage) (s : RilData) : List RilToken :=
  match IpcGprsCallStatusData.read message.data with
  | none => []
  | some data => ((s.dataConnectionFindCid data.cid.toNat).map (·.token)).toList

def genPhoneResFootprint (message : IpcMessage) (s : RilData) : Footprint :=
  match s.expectFindAseq message.aseq with
  | some ⟨_, _, some callback, _, _⟩ => callback.footprint
  | some ⟨_, _, none, _, _⟩ => { replies := true }
  | none => {}

/-- Whether a message may switch the radio off. -/
def messageOff (message : IpcMessage) : Bool :=
  match message.command with
  | .pwrPhonePwrUp | .pwrPhoneReset => true
  | .pwrPhoneState =>
    ipcSeqValid message.aseq && firstByte message.data == some ipcPwrPhoneStateResponseLpm
  | _ => false

def messageFootprint (message : IpcMessage) (s : RilData) : Footprint :=
  match message.command with
  | .pwrPhonePwrUp | .pwrPhoneReset => { off := true }
  | .pwrPhoneState => { off := messageOff message, replies := ipcSeqValid message.aseq }
  | .callStatus => { data := [.hangup, .lastCallFailCause] }
  | .callBurstDtmf | .smsSendMsg | .smsSaveMsg | .smsDelMsg | .smsDeliverReport | .gprsPdpContext =>
    { replies := ipcSeqValid message.aseq }
  | .callList | .secPhoneLock | .secRsimAccess | .dispIconInfo | .netPlmnSel | .netPlmnList | .netModeSel
  | .miscMeVersion | .miscMeImsi => { replies := IpcMessage.isResponse message }
  | .smsIncomingMsg => { data := [.smsAcknowledge] }
  | .smsSvcCenterAddr =>
    { messages := [(some .abort, .smsSendMsg, .exec)], data := [.sendSms], replies := IpcMessage.isResponse message }
  | .secPinStatus => {
      messages := [(some (.callback .ipcSecPinStatus), .secPinStatus, .set)]
      data := [.getSimStatus]
      replies := IpcMessage.isResponse message }
  | .secLockInfomation => { data := lockInfomationRequests, replies := IpcMessage.isResponse message }
  | .netServingNetwork => { data := [.operator], replies := IpcMessage.isResponse message }
  | .netRegist =>
    { data := [.voiceRegistrationState, .dataRegistrationState], replies := ipcSeqValid message.aseq }
  | .miscMeSn => { handled := [.getImei, .getImeisv] }
  | .svcDisplayScreen => { data := [.oemHookRaw], handled := [.oemHookRaw] }
  | .gprsPs => { connections := true }
  | .gprsIpConfiguration => { connections := true, replies := ipcSeqValid message.aseq }
  | .gprsCallStatus => {
      messages := [(none, .gprsPdpContext, .get)]
      connections := true
      replies := ipcSeqValid message.aseq
      tokens := callStatusTokens message s }
  | .genPhoneRes => genPhoneResFootprint message s
  | _ => {}

lemma message_footprint_off {message : IpcMessage} {s : RilData} (h : (messageFootprint message s).off = true) :
    messageOff message = true := by
  obtain ⟨aseq, command, type, data⟩ := message
  cases command with
  | pwrPhonePwrUp | pwrPhoneReset => rfl
  | pwrPhoneState => exact h
  | genPhoneRes =>
    simp only [messageFootprint, genPhoneResFootprint] at h
    split at h
    · rename_i callback _ _ _
      cases callback <;> cases h
    · cases h
    · cases h
  | _ => cases h

lemma callback_footprint (callback : GenPhoneResCallback) :
    callback.footprint.handled = [] ∧ callback.footprint.tokens = [] := by
  cases callback <;> exact ⟨rfl, rfl⟩

/-- The requests that a handler of messages completes by their kind -/
lemma message_footprint_handled (message : IpcMessage) (s : RilData) :
    (messageFootprint message s).handled ⊆ [.getImei, .getImeisv, .oemHookRaw] := by
  obtain ⟨aseq, command, type, data⟩ := message
  cases command with
  | miscMeSn | svcDisplayScreen => simp [messageFootprint]
  | genPhoneRes =>
    simp only [messageFootprint, genPhoneResFootprint]
    split
    · rw [(callback_footprint _).1]
      exact List.nil_subset _
    · exact List.nil_subset _
    · exact List.nil_subset _
  | _ => exact List.nil_subset _

/-- Only the status of a connection completes by the token of one. -/
lemma message_footprint_tokens (message : IpcMessage) (s : RilData) :
    (messageFootprint message s).tokens ⊆ callStatusTokens message s := by
  obtain ⟨aseq, command, type, data⟩ := message
  cases command with
  | gprsCallStatus => exact List.Subset.refl _
  | genPhoneRes =>
    simp only [messageFootprint, genPhoneResFootprint]
    split
    · rw [(callback_footprint _).2]
      exact List.nil_subset _
    · exact List.nil_subset _
    · exact List.nil_subset _
  | _ => exact List.nil_subset _

/-- A handler of messages keeps to its footprint. -/
abbrev MessageSpec (F : Footprint) (message : IpcMessage) {α : Type} (m : RilM α) : Prop :=
  Performs Op.exec (MessageOp F message) m

abbrev SilentProgram (F : Footprint) (aseq : UInt8) {α : Type} (m : RilM α) : Prop :=
  Performs Op.exec (fun _ => SilentOp F aseq) m

section

variable {α : Type} {F : Footprint} {message : IpcMessage}

lemma QuietProgram.silent {m : RilM α} (h : QuietProgram F m) (aseq : UInt8) : SilentProgram F aseq m :=
  .mono h fun _ _ hq => hq.silent aseq

lemma SilentProgram.spec {m : RilM α} (h : SilentProgram F message.aseq m) : MessageSpec F message m :=
  .mono h fun s _ hq => hq.message s

lemma QuietProgram.spec {m : RilM α} (h : QuietProgram F m) : MessageSpec F message m :=
  SilentProgram.spec (h.silent message.aseq)

lemma complete_reply_spec (hr : F.replies = true) (error : RilErrno) (response : RilResponse) :
    MessageSpec F message (completeReply message error response) := fun s =>
  Path.single (Op.complete (s.ipcFmtRequestToken message.aseq) error response) (.inl ⟨hr, rfl⟩)

lemma complete_reply_end (hr : F.replies = true) (error : RilErrno) (response : RilResponse) :
    MessageSpec F message (do
      completeReply message error response
      return Rc.ok) :=
  .bind (complete_reply_spec hr error response) fun _ => .pure _

lemma response_seq_valid (h : IpcMessage.isResponse message = true) : ipcSeqValid message.aseq = true := by
  simp only [IpcMessage.isResponse, Bool.and_eq_true] at h
  exact h.2

lemma transmit_reply_silent {expect : Option ExpectKind} {command : IpcCommand} {type : IpcRequestType}
    (data : Bytes) (hF : (expect, command, type) ∈ F.messages) :
    SilentProgram F message.aseq (transmit (.reply message.aseq) expect command type data) := fun _ =>
  Path.single (Op.transmit (.reply message.aseq) expect command type data) ⟨.inl rfl, hF⟩

lemma radio_state_update_spec {radioState : RilRadioState} (h : radioState ≠ .unavailable)
    (ho : radioState = .off → F.off = true) : MessageSpec F message (rilRadioStateUpdate radioState) :=
  .modify (Op.radio radioState) fun _ => ⟨h, ho⟩

lemma unsolicited_spec (request : RilUnsol) (response : RilResponse) :
    MessageSpec F message (rilRequestUnsolicited request response) :=
  QuietProgram.spec (.unsolicited request response)

end

variable (message : IpcMessage) {F : Footprint}

/-! ### Power and calls -/

lemma pwr_phone_pwr_up_spec (ho : F.off = true) : MessageSpec F message (ipcPwrPhonePwrUp message) :=
  .bind (radio_state_update_spec (by decide) fun _ => ho) fun _ => .pure _

lemma pwr_phone_reset_spec (ho : F.off = true) : MessageSpec F message (ipcPwrPhoneReset message) :=
  .bind (radio_state_update_spec (by decide) fun _ => ho) fun _ => .pure _

lemma pwr_phone_state_spec (hr : ipcSeqValid message.aseq = true → F.replies = true)
    (ho : ipcSeqValid message.aseq = true → firstByte message.data = some ipcPwrPhoneStateResponseLpm →
      F.off = true) : MessageSpec F message (ipcPwrPhoneState message) := by
  unfold ipcPwrPhoneState
  split
  · exact .pure _
  · rename_i state hb
    refine .ite (fun hv => .ite (fun hl => ?_) fun _ => .ite (fun _ => ?_) fun _ => ?_) fun _ => ?_
    · exact .bind (complete_reply_spec (hr hv) _ _) fun _ =>
        .bind (radio_state_update_spec (by decide) fun _ => ho hv (hb.trans (congrArg some (beq_iff_eq.mp hl))))
          fun _ => .pure _
    · exact .bind (complete_reply_spec (hr hv) _ _) fun _ =>
        .bind (radio_state_update_spec (by decide) fun h => by cases h) fun _ => .pure _
    · exact .pure _
    · exact .pure _

lemma call_incoming_spec : MessageSpec F message (ipcCallIncoming message) :=
  .bind (unsolicited_spec _ _) fun _ => .bind (unsolicited_spec _ _) fun _ => .pure _

lemma call_status_spec (hh : .hangup ∈ F.data) (hl : .lastCallFailCause ∈ F.data) :
    MessageSpec F message (ipcCallStatus message) := by
  unfold ipcCallStatus
  split
  · exact .pure _
  · refine .bind (QuietProgram.spec (.dataGet hh)) fun _ => .ite (fun _ => ?_) fun _ => ?_
    · exact .bind (QuietProgram.spec (.dataSetUniq hl _)) fun _ => .bind (unsolicited_spec _ _) fun _ => .pure _
    · exact .bind (unsolicited_spec _ _) fun _ => .pure _

lemma call_list_spec (hr : IpcMessage.isResponse message = true → F.replies = true) : MessageSpec F message (ipcCallList message) := by
  unfold ipcCallList
  split
  · exact .pure _
  · refine .ite (fun h => .ite (fun _ => ?_) fun _ => ?_) fun _ => .pure _
    · exact complete_reply_end (hr h) _ _
    · split
      · exact complete_reply_end (hr h) _ _
      · exact complete_reply_end (hr h) _ _

lemma call_burst_dtmf_spec (hr : ipcSeqValid message.aseq = true → F.replies = true) : MessageSpec F message (ipcCallBurstDtmf message) := by
  unfold ipcCallBurstDtmf
  split
  · exact .pure _
  · exact .ite (fun h => complete_reply_end (hr h) _ _) fun _ => .pure _

/-! ### Short messages -/

lemma sms_send_msg_spec (hr : ipcSeqValid message.aseq = true → F.replies = true) : MessageSpec F message (ipcSmsSendMsg message) := by
  unfold ipcSmsSendMsg
  split
  · exact .pure _
  · exact .ite (fun h => complete_reply_end (hr h) _ _) fun _ => .pure _

lemma sms_incoming_msg_spec (hd : .smsAcknowledge ∈ F.data) :
    MessageSpec F message (ipcSmsIncomingMsg message) := by
  unfold ipcSmsIncomingMsg
  split
  · exact .pure _
  · split
    · exact .pure _
    · exact .bind (QuietProgram.spec (.dataSetUniq hd _)) fun _ => .ite
        (fun _ => .bind (unsolicited_spec _ _) fun _ => .pure _)
        (fun _ => .bind (unsolicited_spec _ _) fun _ => .pure _)

lemma sms_store_response_spec (hr : ipcSeqValid message.aseq = true → F.replies = true) : MessageSpec F message (smsStoreResponse message) := by
  unfold smsStoreResponse
  split
  · exact .pure _
  · exact .ite (fun h => complete_reply_end (hr h) _ _) fun _ => .pure _

lemma sms_deliver_report_spec (hr : ipcSeqValid message.aseq = true → F.replies = true) : MessageSpec F message (ipcSmsDeliverReport message) := by
  unfold ipcSmsDeliverReport
  split
  · exact .pure _
  · exact .ite (fun h => complete_reply_end (hr h) _ _) fun _ => .pure _

lemma send_sms_complete_reply_silent (hF : (some .abort, .smsSendMsg, .exec) ∈ F.messages) (smsc pdu : Bytes) :
    SilentProgram F message.aseq (rilRequestSendSmsComplete message.aseq smsc pdu) := by
  rcases send_sms_complete_cases message.aseq smsc pdu with h | ⟨m, -, -, h⟩
  · rw [h]
    exact .pure _
  · rw [h]
    exact transmit_reply_silent m hF

lemma sms_svc_center_addr_spec (hr : IpcMessage.isResponse message = true → F.replies = true)
    (hF : (some .abort, .smsSendMsg, .exec) ∈ F.messages) (hd : .sendSms ∈ F.data) :
    MessageSpec F message (ipcSmsSvcCenterAddr message) := by
  unfold ipcSmsSvcCenterAddr
  split
  · exact .pure _
  · refine .ite (fun h => ?_) fun _ => .pure _
    split
    · exact complete_reply_end (hr h) _ _
    · refine .bind (QuietProgram.spec (.dataGet hd)) fun a => ?_
      split
      · refine .bind (send_sms_complete_reply_silent message hF _ _).spec fun _ => .ite (fun _ => ?_) fun _ => ?_
        · exact complete_reply_end (hr h) _ _
        · exact .pure _
      · exact complete_reply_end (hr h) _ _

/-! ### The SIM -/

lemma sec_pin_status_callback_spec (hd : .getSimStatus ∈ F.data) :
    MessageSpec F message (ipcSecPinStatusCallback message) := by
  unfold ipcSecPinStatusCallback
  split
  · exact .pure _
  · exact .ite (fun _ => .bind (QuietProgram.spec (.dataFree hd)) fun _ => .pure _)
      (fun _ => .bind (unsolicited_spec _ _) fun _ => .pure _)

lemma sec_pin_status_unlock_spec (hF : (some (.callback .ipcSecPinStatus), .secPinStatus, .set) ∈ F.messages)
    (hd : .getSimStatus ∈ F.data) (status : RilCardStatus) (pin : CString) :
    MessageSpec F message (ipcSecPinStatusUnlock message status pin) :=
  .bind (QuietProgram.spec (.dataSetUniq hd _)) fun _ => .bind (transmit_reply_silent _ hF).spec fun _ =>
    .ite (fun _ => .bind (QuietProgram.spec (.dataFree hd)) fun _ => .pure _) fun _ => .pure _

lemma sec_pin_status_report_spec (hr : IpcMessage.isResponse message = true → F.replies = true) (hd : .getSimStatus ∈ F.data)
    {radioState : RilRadioState}
    (hu : radioState ≠ .unavailable) (ho : radioState ≠ .off) (status : RilCardStatus) :
    MessageSpec F message (ipcSecPinStatusReport message radioState status) :=
  .bind (radio_state_update_spec hu fun h => absurd h ho) fun _ => .ite (fun h => complete_reply_end (hr h) _ _)
    (fun _ => .bind (QuietProgram.spec (.dataSetUniq hd _)) fun _ => .bind (unsolicited_spec _ _) fun _ => .pure _)

lemma sec_pin_status_radio_state (data : IpcSecPinStatusResponseData) :
    (ipc2rilSecPinStatusResponse data).1 ≠ .unavailable ∧ (ipc2rilSecPinStatusResponse data).1 ≠ .off := by
  simp only [ipc2rilSecPinStatusResponse]
  split
  · decide
  · split
    · decide
    · decide

lemma sec_pin_status_spec (hr : IpcMessage.isResponse message = true → F.replies = true)
    (hF : (some (.callback .ipcSecPinStatus), .secPinStatus, .set) ∈ F.messages)
    (hd : .getSimStatus ∈ F.data) : MessageSpec F message (ipcSecPinStatus message) := by
  unfold ipcSecPinStatus
  split
  · exact .pure _
  · rename_i data _
    refine .read fun s => .ite (fun _ => ?_) fun _ => .pure _
    dsimp only
    split
    · exact sec_pin_status_unlock_spec message hF hd _ _
    · exact sec_pin_status_report_spec message hr hd (sec_pin_status_radio_state data).1
        (sec_pin_status_radio_state data).2 _

lemma sec_phone_lock_spec (hr : IpcMessage.isResponse message = true → F.replies = true) : MessageSpec F message (ipcSecPhoneLock message) := by
  unfold ipcSecPhoneLock
  split
  · exact .pure _
  · exact .ite (fun h => complete_reply_end (hr h) _ _) fun _ => .pure _

lemma sec_rsim_access_spec (hr : IpcMessage.isResponse message = true → F.replies = true) : MessageSpec F message (ipcSecRsimAccess message) := by
  unfold ipcSecRsimAccess
  split
  · exact .pure _
  · refine .read fun s => ?_
    split
    · exact .pure _
    · refine .ite (fun h => ?_) fun _ => .pure _
      split
      · exact complete_reply_end (hr h) _ _
      · exact .pure _

lemma sec_sim_icc_type_spec : MessageSpec F message (ipcSecSimIccType message) := by
  unfold ipcSecSimIccType
  split
  · exact .pure _
  · exact .bind (QuietProgram.spec <| Performs.modify (Op.simIccType _) fun _ => trivial) fun _ => .pure _

lemma sec_lock_infomation_spec (hr : IpcMessage.isResponse message = true → F.replies = true)
    (hd : ∀ request ∈ lockInfomationRequests, request ∈ F.data) :
    MessageSpec F message (ipcSecLockInfomation message) := by
  unfold ipcSecLockInfomation
  split
  · exact .pure _
  · refine .read fun s => .ite (fun h => ?_) fun _ => .pure _
    have hr : F.replies = true := hr (by simp only [Bool.and_eq_true] at h; exact h.1.2)
    split
    · exact .pure _
    · rename_i request hq
      refine .bind (QuietProgram.spec (.dataGet (hd _ (List.mem_of_find?_eq_some hq)))) fun a => ?_
      split
      · split
        · exact .pure _
        · exact complete_reply_end hr _ _
      · exact .pure _

section

variable {aseq : UInt8} {token : RilToken}

/-- A request that is known by the aseq of the message is completed after silent operations. -/
abbrev ReplySpec (F : Footprint) (message : IpcMessage) (token : RilToken) {α : Type} (m : RilM α) : Prop :=
  PerformsFrom Op.exec (MessageOp F message) (fun s => s.ipcFmtRequestToken message.aseq = token) m

variable {message}

lemma reply_bind {α β : Type} {m : RilM α} {f : α → RilM β} (hm : SilentProgram F message.aseq m)
    (hf : ∀ a, ReplySpec F message token (f a)) : ReplySpec F message token (m >>= f) :=
  PerformsFrom.bind hm (fun s _ h => h.message s)
    (fun s _ hs h => by rwa [RilData.ipcFmtRequestToken, RilData.fmtRequestFindSeq, h.fmtRequests]) hf

lemma reply_quiet {α β : Type} {m : RilM α} {f : α → RilM β} (hm : QuietProgram F m)
    (hf : ∀ a, ReplySpec F message token (f a)) : ReplySpec F message token (m >>= f) :=
  reply_bind (hm.silent _) hf

lemma reply_complete (hr : F.replies = true) (error : RilErrno) (response : RilResponse) :
    ReplySpec F message token (rilRequestComplete token error response) :=
  .modify (Op.complete token error response) fun _ hs => .inl ⟨hr, hs.symm⟩

lemma reply_pure {α : Type} (a : α) : ReplySpec F message token (pure a : RilM α) :=
  .of_performs (.pure a)

lemma sec_callback_retry_count_spec {request : RilRequest} (hr : F.replies = true) (hd : request.request ∈ F.data)
    (hF : (none, .secLockInfomation, .get) ∈ F.messages) (type : UInt8) :
    ReplySpec F message request.token (ipcSecCallbackRetryCount message request type) :=
  reply_quiet (.dataSetUniq hd _) fun _ => reply_bind (transmit_reply_silent _ hF) fun _ => .ite
    (fun _ => reply_quiet (.dataFree hd) fun _ => reply_complete hr _ _) fun _ => reply_pure _

lemma sec_callback_set_facility_lock_spec {request : RilRequest} (data : IpcGenPhoneResData)
    (hr : F.replies = true) (hq : request.request ∈ F.data) (hd : .setFacilityLock ∈ F.data)
    (hi : (none, .secLockInfomation, .get) ∈ F.messages)
    (hF : (some (.callback .ipcSec), .secPhoneLock, .set) ∈ F.messages) :
    ReplySpec F message request.token (ipcSecCallbackSetFacilityLock message data request) := by
  refine reply_quiet (.dataGet hd) fun a => ?_
  split
  · exact reply_bind (transmit_reply_silent _ hF) fun _ => .ite (fun _ => reply_complete hr _ _)
      fun _ => reply_pure _
  · exact sec_callback_retry_count_spec hr hq hi _

lemma sec_callback_sim_io_spec (data : IpcGenPhoneResData) (request : RilRequest)
    (hr : F.replies = true) (hd : .simIo ∈ F.data)
    (hF : (none, .secRsimAccess, .get) ∈ F.messages) :
    ReplySpec F message request.token (ipcSecCallbackSimIo message data request) := by
  refine reply_quiet (.dataGet hd) fun a => .ite (fun _ => reply_complete hr _ _) fun _ => ?_
  split
  · exact reply_bind (transmit_reply_silent _ hF) fun _ => .ite (fun _ => reply_complete hr _ _)
      fun _ => reply_pure _
  · exact reply_complete hr _ _

lemma sec_callback_other_spec (data : IpcGenPhoneResData) (request : RilRequest) (hr : F.replies = true) :
    MessageSpec F message (ipcSecCallbackOther message data request) :=
  .bind (complete_reply_spec hr _ _) fun _ => .read fun _ => .ite
    (fun _ => .modify (Op.stale _) fun _ => trivial)
    fun _ => .ite (fun _ => unsolicited_spec _ _) fun _ => .pure _

lemma sec_callback_spec (hr : F.replies = true)
    (hd : ∀ request ∈ .simIo :: lockInfomationRequests, request ∈ F.data)
    (hi : (none, .secLockInfomation, .get) ∈ F.messages)
    (hl : (some (.callback .ipcSec), .secPhoneLock, .set) ∈ F.messages)
    (hs : (none, .secRsimAccess, .get) ∈ F.messages) : MessageSpec F message (ipcSecCallback message) := by
  unfold ipcSecCallback
  split
  · exact .pure _
  · refine .read_from fun s => ?_
    split
    · exact .of_performs (.pure _)
    · rename_i data _ _ request h
      have ht : ∀ t, t = s → t.ipcFmtRequestToken message.aseq = request.token := by
        rintro t rfl
        exact (RilData.requestFindToken_token h).symm
      split
      · exact .andThen (.mono (sec_callback_retry_count_spec hr (hd _ (by simp [*, lockInfomationRequests])) hi _) ht)
          fun _ => .pure _
      · exact .andThen (.mono (sec_callback_retry_count_spec hr (hd _ (by simp [*, lockInfomationRequests])) hi _) ht)
          fun _ => .pure _
      · exact .andThen (.mono (sec_callback_retry_count_spec hr (hd _ (by simp [*, lockInfomationRequests])) hi _) ht)
          fun _ => .pure _
      · exact .andThen (.mono (sec_callback_retry_count_spec hr (hd _ (by simp [*, lockInfomationRequests])) hi _) ht)
          fun _ => .pure _
      · exact .andThen (.mono (sec_callback_set_facility_lock_spec data hr
          (hd _ (by simp [*, lockInfomationRequests])) (hd _ (by decide)) hi hl) ht) fun _ => .pure _
      · exact .andThen (.mono (sec_callback_sim_io_spec data request hr (hd _ (by decide)) hs) ht) fun _ => .pure _
      · exact .of_performs <| .bind (sec_callback_other_spec data request hr) fun _ => .pure _

end

/-! ### The network -/

lemma disp_icon_info_spec (hr : IpcMessage.isResponse message = true → F.replies = true) : MessageSpec F message (ipcDispIconInfo message) := by
  unfold ipcDispIconInfo
  split
  · exact .pure _
  · refine .read fun s => .ite (fun _ => ?_) fun _ => .pure _
    split
    · exact .ite (fun h => complete_reply_end (hr h) _ _) fun _ => .pure _
    · exact .ite (fun h => complete_reply_end (hr h) _ _)
        fun _ => .bind (unsolicited_spec _ _) fun _ => .pure _

lemma disp_rssi_info_spec : MessageSpec F message (ipcDispRssiInfo message) := by
  unfold ipcDispRssiInfo
  split
  · exact .pure _
  · exact .read fun _ => .ite (fun _ => .bind (unsolicited_spec _ _) fun _ => .pure _) fun _ => .pure _

lemma int_response_spec (hr : IpcMessage.isResponse message = true → F.replies = true) (value : UInt8 → ℤ) : MessageSpec F message (intResponse message value) := by
  unfold intResponse
  split
  · exact .pure _
  · exact .read fun _ => .ite (fun h => complete_reply_end (hr (Bool.and_eq_true_iff.mp h).2) _ _) fun _ => .pure _

lemma net_plmn_sel_callback_spec (hr : F.replies = true) : MessageSpec F message (ipcNetPlmnSelCallback message) := by
  unfold ipcNetPlmnSelCallback
  split
  · exact .pure _
  · exact .ite (fun _ => complete_reply_end (hr) _ _) fun _ => .ite
      (fun _ => complete_reply_end (hr) _ _)
      (fun _ => complete_reply_end (hr) _ _)

lemma net_serving_network_spec (hr : IpcMessage.isResponse message = true → F.replies = true) (hd : .operator ∈ F.data) :
    MessageSpec F message (ipcNetServingNetwork message) := by
  unfold ipcNetServingNetwork
  split
  · exact .pure _
  · refine .read fun s => .ite (fun _ => ?_) fun _ => .pure _
    split
    · exact .ite (fun h => complete_reply_end (hr h) _ _) fun _ => .pure _
    · exact .ite (fun h => complete_reply_end (hr h) _ _)
        fun _ => .bind (QuietProgram.spec (.dataSet hd _)) fun _ => .bind (unsolicited_spec _ _) fun _ => .pure _

lemma net_plmn_list_spec (hr : IpcMessage.isResponse message = true → F.replies = true) : MessageSpec F message (ipcNetPlmnList message) := by
  unfold ipcNetPlmnList
  split
  · exact .pure _
  · refine .read fun s => .ite (fun h => .ite (fun _ => ?_) fun _ => ?_) fun _ => .pure _
    · exact complete_reply_end (hr (Bool.and_eq_true_iff.mp h).2) _ _
    · split
      · exact complete_reply_end (hr (Bool.and_eq_true_iff.mp h).2) _ _
      · exact complete_reply_end (hr (Bool.and_eq_true_iff.mp h).2) _ _

lemma registration_domain_mem {domain : UInt8} {request : RilRequestCode} {count : ℕ}
    (h : registrationDomain domain = some (request, count)) :
    request ∈ [.voiceRegistrationState, .dataRegistrationState] := by
  simp only [registrationDomain] at h
  split at h
  · obtain ⟨rfl, -⟩ := Prod.mk.inj (Option.some.inj h)
    decide
  · split at h
    · obtain ⟨rfl, -⟩ := Prod.mk.inj (Option.some.inj h)
      decide
    · cases h

lemma net_regist_spec (hr : ipcSeqValid message.aseq = true → F.replies = true)
    (hd : ∀ request ∈ [.voiceRegistrationState, .dataRegistrationState], request ∈ F.data) :
    MessageSpec F message (ipcNetRegist message) := by
  unfold ipcNetRegist
  split
  · exact .pure _
  · refine .read fun s => ?_
    split
    · rename_i h
      refine .ite (fun _ => ?_) fun _ => .pure _
      split
      · exact .ite (fun h => complete_reply_end (hr h) _ _) fun _ => .pure _
      · exact .ite (fun h => complete_reply_end (hr (response_seq_valid h)) _ _) fun _ => .bind
          (QuietProgram.spec (.dataSet (hd _ (registration_domain_mem h)) _)) fun _ =>
            .bind (unsolicited_spec _ _) fun _ => .pure _
    · exact .pure _

/-! ### Information about the phone and the service mode -/

lemma complete_handled_spec {request : RilRequestCode} (h : request ∈ F.handled) (error : RilErrno)
    (response : RilResponse) : MessageSpec F message (completeHandled request error response) := by
  refine .read_from fun s => ?_
  split
  · exact .of_performs (.pure _)
  · rename_i r hr
    obtain ⟨hq, hs⟩ : r.request = request ∧ r.status = .handled := by simpa using List.find?_some hr
    refine .modify (Op.complete r.token error response) fun t ht => ?_
    subst ht
    exact .inr ⟨r, List.mem_of_find?_eq_some hr, rfl, .inl ⟨hs, hq ▸ h⟩⟩

lemma misc_me_version_spec (hr : IpcMessage.isResponse message = true → F.replies = true) : MessageSpec F message (ipcMiscMeVersion message) := by
  unfold ipcMiscMeVersion
  split
  · exact .pure _
  · exact .ite (fun h => complete_reply_end (hr h) _ _) fun _ => .pure _

lemma misc_me_imsi_spec (hr : IpcMessage.isResponse message = true → F.replies = true) : MessageSpec F message (ipcMiscMeImsi message) := by
  unfold ipcMiscMeImsi
  split
  · exact .pure _
  · exact .ite (fun h => complete_reply_end (hr h) _ _) fun _ => .pure _

lemma misc_me_sn_spec (hi : .getImei ∈ F.handled) (hv : .getImeisv ∈ F.handled) :
    MessageSpec F message (ipcMiscMeSn message) := by
  unfold ipcMiscMeSn
  split
  · exact .pure _
  · refine .ite (fun _ => ?_) fun _ => .pure _
    split
    · exact .bind (complete_handled_spec message hi _ _) fun _ =>
        .bind (complete_handled_spec message hv _ _) fun _ => .pure _
    · exact .bind (complete_handled_spec message hi _ _) fun _ =>
        .bind (complete_handled_spec message hv _ _) fun _ => .pure _

lemma misc_time_info_spec : MessageSpec F message (ipcMiscTimeInfo message) := by
  unfold ipcMiscTimeInfo
  split
  · exact .pure _
  · exact .bind (unsolicited_spec _ _) fun _ => .pure _

lemma svc_screen_spec (hd : .oemHookRaw ∈ F.data) (hh : .oemHookRaw ∈ F.handled) (screen : Bytes) :
    MessageSpec F message (svcScreen screen) := by
  refine .read_from fun s => ?_
  split
  · rename_i r hr
    obtain ⟨hq, hs⟩ : r.request = .oemHookRaw ∧ r.status = .handled := by simpa using List.find?_some hr
    refine .modify (Op.complete r.token _ _) fun t ht => ?_
    subst ht
    exact .inr ⟨r, List.mem_of_find?_eq_some hr, rfl, .inl ⟨hs, hq ▸ hh⟩⟩
  · exact .of_performs (QuietProgram.spec (.dataSetUniq hd _))

lemma svc_display_screen_spec (hd : .oemHookRaw ∈ F.data) (hh : .oemHookRaw ∈ F.handled) :
    MessageSpec F message (ipcSvcDisplayScreen message) := by
  unfold ipcSvcDisplayScreen
  split
  · exact .pure _
  · refine .read fun s => .ite (fun _ => .ite (fun _ => ?_) fun _ => ?_) fun _ => .pure _
    · exact .bind (QuietProgram.spec (.setSvcSession _)) fun _ => .bind (QuietProgram.spec (.dataFree hd)) fun _ =>
        .bind (svc_screen_spec message hd hh _) fun _ => .pure _
    · refine .bind (QuietProgram.spec (.setSvcSession _)) fun _ => ?_
      split
      · exact .bind (complete_handled_spec message hh _ _) fun _ => .pure _
      · exact .ite (fun _ => .bind (svc_screen_spec message hd hh _) fun _ => .pure _) fun _ => .pure _

/-! ### Packet data -/

section

variable (hF : F.connections = true)

include hF

lemma complete_stopped_spec (hr : F.replies = true) (c : RilDataConnection) : MessageSpec F message (completeStopped message c) :=
  .bind (QuietProgram.spec (data_connection_stop_quiet hF _)) fun _ => complete_reply_spec hr _ _

lemma define_pdp_context_callback_spec (hr : F.replies = true)
    (hm : (some (.callback .ipcGprsPdpContext), .gprsPdpContext, .set) ∈ F.messages) :
    MessageSpec F message (ipcGprsDefinePdpContextCallback message) := by
  unfold ipcGprsDefinePdpContextCallback
  split
  · exact .pure _
  · refine .read fun s => ?_
    split
    · exact complete_reply_end hr _ _
    · exact .ite
        (fun _ => .bind (transmit_reply_silent _ hm).spec fun _ => .ite
          (fun _ => .bind (complete_stopped_spec message hF hr _) fun _ => .pure _) fun _ => .pure _)
        fun _ => .bind (complete_stopped_spec message hF hr _) fun _ => .pure _

lemma pdp_context_callback_spec (hr : F.replies = true) : MessageSpec F message (ipcGprsPdpContextCallback message) := by
  unfold ipcGprsPdpContextCallback
  split
  · exact .pure _
  · refine .read fun s => ?_
    split
    · exact complete_reply_end hr _ _
    · exact .ite (fun _ => .bind (complete_stopped_spec message hF hr _) fun _ => .pure _) fun _ => .pure _

lemma gprs_ps_spec : MessageSpec F message (ipcGprsPs message) := by
  unfold ipcGprsPs
  split
  · exact .pure _
  · refine .read fun s => ?_
    split
    · exact .pure _
    · exact .bind (QuietProgram.spec (data_connection_update_quiet hF _ _)) fun _ => .pure _

lemma print_to_quiet (old : Option HeapString) (value : CString) : QuietProgram F (printTo old value) :=
  .bind (free_quiet hF old) fun _ => strdup_quiet hF value

lemma gprs_ip_configuration_spec (hr : ipcSeqValid message.aseq = true → F.replies = true) : MessageSpec F message (ipcGprsIpConfiguration message) := by
  have hp (old : Option HeapString) (value : CString) : MessageSpec F message (printTo old value) :=
    QuietProgram.spec (print_to_quiet hF old value)
  unfold ipcGprsIpConfiguration
  split
  · exact .pure _
  · refine .read fun s => ?_
    split
    · exact .ite (fun h => complete_reply_end (hr h) _ _) fun _ => .pure _
    · exact .bind (hp _ _) fun _ => .bind (hp _ _) fun _ => .bind (hp _ _) fun _ => .bind (hp _ _) fun _ =>
        .bind (hp _ _) fun _ => .bind (QuietProgram.spec (data_connection_update_quiet hF _ _)) fun _ => .pure _

end

lemma gprs_pdp_context_spec (hr : ipcSeqValid message.aseq = true → F.replies = true) : MessageSpec F message (ipcGprsPdpContext message) := by
  unfold ipcGprsPdpContext
  split
  · exact .pure _
  · exact .read fun _ => .ite (fun h => complete_reply_end (hr h) _ _)
      fun _ => .bind (unsolicited_spec _ _) fun _ => .pure _

lemma gprs_hsdpa_status_spec : MessageSpec F message (ipcGprsHsdpaStatus message) := by
  unfold ipcGprsHsdpaStatus
  split
  · exact .pure _
  · refine .read fun s => ?_
    split
    · exact .pure _
    · exact .ite (fun _ => .bind (QuietProgram.spec <| Performs.modify (Op.hsdpaStatus _) fun _ => trivial)
        fun _ => .bind (unsolicited_spec _ _) fun _ => .pure _) fun _ => .pure _

/-! The request of a connection stays registered until it is completed. -/

section

variable {message} {request : Option RilRequest} {c : RilDataConnection}

abbrev CallSpec (F : Footprint) (message : IpcMessage) (request : Option RilRequest) {α : Type} (m : RilM α) :
    Prop :=
  PerformsFrom Op.exec (MessageOp F message) (fun s => ∀ r, request = some r → r ∈ s.requests) m

lemma call_bind {α β : Type} {m : RilM α} {f : α → RilM β} (hm : SilentProgram F message.aseq m)
    (hf : ∀ a, CallSpec F message request (f a)) : CallSpec F message request (m >>= f) :=
  PerformsFrom.bind hm (fun s _ h => h.message s) (fun s _ hs h => by rwa [h.requests]) hf

lemma call_quiet {α β : Type} {m : RilM α} {f : α → RilM β} (hm : QuietProgram F m)
    (hf : ∀ a, CallSpec F message request (f a)) : CallSpec F message request (m >>= f) :=
  call_bind (hm.silent _) hf

lemma call_complete {r : RilRequest} {token : RilToken} (hr : request = some r) (hk : r.token = token)
    (ht : token ∈ F.tokens) (error : RilErrno) (response : RilResponse) :
    CallSpec F message request (rilRequestComplete token error response) :=
  .modify (Op.complete token error response) fun _ hs => .inr ⟨r, hs r hr, hk, .inr ht⟩

lemma isRequest_some {code : RilRequestCode} (h : isRequest code request = true) : ∃ r, request = some r := by
  cases request with
  | none => cases h
  | some r => exact ⟨r, rfl⟩

variable (hF : F.connections = true)

include hF

lemma call_status_error_spec (ht : ∀ r, request = some r → r.token ∈ F.tokens) :
    CallSpec F message request (callStatusError c request) := by
  refine call_quiet (data_connection_stop_quiet hF _) fun _ => ?_
  split
  · exact .of_performs (.pure _)
  · exact call_complete rfl rfl (ht _ rfl) _ _

lemma call_status_error_none_spec : MessageSpec F message (callStatusError c none) :=
  fun s => call_status_error_spec hF (fun _ h => by cases h) s (fun _ h => by cases h)

lemma call_status_end_spec (hm : (none, .gprsPdpContext, .get) ∈ F.messages) :
    MessageSpec F message (callStatusEnd c request) := by
  unfold callStatusEnd
  split
  · exact .pure _
  · have hs : SilentProgram F message.aseq (transmit (.reply 0) none .gprsPdpContext .get []) := fun _ =>
      Path.single (Op.transmit (.reply 0) none .gprsPdpContext .get []) ⟨.inr rfl, hm⟩
    exact .bind hs.spec fun _ => .ite (fun _ => call_status_error_none_spec hF) fun _ => .pure _

lemma call_status_enabled_spec (data : IpcGprsCallStatusData)
    (hm : (none, .gprsPdpContext, .get) ∈ F.messages) (hc : ∀ r, request = some r → r.token = c.token)
    (ht : c.token ∈ F.tokens) : CallSpec F message request (callStatusEnabled data c request) := by
  have he : CallSpec F message request (callStatusError c request) :=
    call_status_error_spec hF fun r hr => hc r hr ▸ ht
  have hend : CallSpec F message request (callStatusEnd c request) := .of_performs (call_status_end_spec hF hm)
  refine .ite (fun _ => .ite (fun _ => he) fun _ => hend) fun _ =>
    call_quiet (data_connection_enable_quiet hF c) fun _ => .ite (fun _ => .ite (fun h => ?_) fun _ => hend)
      fun _ => he
  obtain ⟨r, hr⟩ := isRequest_some h
  exact .andThen (call_complete hr (hc r hr) ht _ _) fun _ =>
    .bind (QuietProgram.spec (data_connection_update_quiet hF _ _)) fun _ => call_status_end_spec hF hm

lemma call_status_disabled_spec (data : IpcGprsCallStatusData)
    (hm : (none, .gprsPdpContext, .get) ∈ F.messages) (hc : ∀ r, request = some r → r.token = c.token)
    (ht : c.token ∈ F.tokens) : CallSpec F message request (callStatusDisabled data c request) := by
  have he : CallSpec F message request (callStatusError c request) :=
    call_status_error_spec hF fun r hr => hc r hr ▸ ht
  have hend : CallSpec F message request (callStatusEnd c request) := .of_performs (call_status_end_spec hF hm)
  have hk {r : RilRequest} (hr : request = some r) : r.token = (request.map (·.token)).getD 0 := by
    rw [hr]
    rfl
  refine .ite (fun _ => call_quiet (data_connection_disable_quiet hF c) fun _ => .ite (fun _ => ?_) fun _ => he)
    fun _ => .ite (fun h => ?_) fun _ => hend
  · refine call_quiet (data_connection_stop_quiet hF _) fun _ => .ite (fun h => ?_) fun _ => hend
    obtain ⟨r, hr⟩ := isRequest_some h
    exact .andThen (call_complete hr (hk hr) (hk hr ▸ hc r hr ▸ ht) _ _) fun _ => call_status_end_spec hF hm
  · obtain ⟨r, hr⟩ := isRequest_some h
    exact .andThen (call_complete hr (hk hr) (hk hr ▸ hc r hr ▸ ht) _ _) fun _ => call_status_error_none_spec hF

end

lemma gprs_call_status_spec (s : RilData) (hr : ipcSeqValid message.aseq = true → F.replies = true) (hF : F.connections = true)
    (hm : (none, .gprsPdpContext, .get) ∈ F.messages) (ht : ∀ t ∈ callStatusTokens message s, t ∈ F.tokens) :
    MessagePath F message s (ipcGprsCallStatus message s).2 := by
  have hspec : PerformsFrom Op.exec (MessageOp F message) (fun t => t = s) (ipcGprsCallStatus message) := by
    unfold ipcGprsCallStatus
    split
    · exact .of_performs (.pure _)
    · rename_i data hd
      refine .read fun t hs => .ite (fun _ => ?_) fun _ => .of_performs (.pure _)
      subst hs
      split
      · exact .of_performs <| .ite (fun h => complete_reply_end (hr h) _ _) fun _ => .pure _
      · rename_i c hc
        have hq : ∀ u, u = t → ∀ r, t.requestFindToken c.token = some r → r ∈ u.requests := by
          rintro u rfl r hr
          exact RilData.requestFindToken_mem hr
        have hk : ∀ r, t.requestFindToken c.token = some r → r.token = c.token :=
          fun r hr => RilData.requestFindToken_token hr
        have hct : c.token ∈ F.tokens := ht _ (by simp [callStatusTokens, hd, hc])
        exact .ite (fun _ => .andThen (.mono (call_status_enabled_spec hF data hm hk hct) hq) fun _ => .pure _)
          fun _ => .ite
            (fun _ => .andThen (.mono (call_status_disabled_spec hF data hm hk hct) hq) fun _ => .pure _)
            fun _ => .of_performs <| .bind (call_status_end_spec hF hm) fun _ => .pure _
  exact hspec s rfl

/-! ### Generic answers -/

lemma call_cont_dtmf_callback_start_silent (hd : .dtmfStart ∈ F.data)
    (hm : (some .complete, .callContDtmf, .set) ∈ F.messages) :
    SilentProgram F message.aseq (ipcCallContDtmfCallbackStart message) := by
  refine .bind (QuietProgram.silent (.dataGet hd) _) fun a => ?_
  split
  · exact .bind (QuietProgram.silent (.dataSet hd _) _) fun _ => .bind (transmit_reply_silent _ hm) fun _ =>
      .ite (fun _ => .pure _) fun _ => .bind (QuietProgram.silent (.dataFree hd) _) fun _ => .pure _
  · exact .pure _

lemma call_cont_dtmf_callback_burst_silent (hd : .dtmf ∈ F.data)
    (hm : (some .abort, .callBurstDtmf, .exec) ∈ F.messages) :
    SilentProgram F message.aseq (ipcCallContDtmfCallbackBurst message) := by
  refine .bind (QuietProgram.silent (.dataGet hd) _) fun a => ?_
  split
  · exact transmit_reply_silent _ hm
  · exact .pure _

lemma call_cont_dtmf_callback_spec (hr : F.replies = true) (hs : .dtmfStart ∈ F.data) (hd : .dtmf ∈ F.data)
    (hc : (some .complete, .callContDtmf, .set) ∈ F.messages)
    (hb : (some .abort, .callBurstDtmf, .exec) ∈ F.messages) :
    MessageSpec F message (ipcCallContDtmfCallback message) := by
  unfold ipcCallContDtmfCallback
  split
  · exact .pure _
  · exact .ite (fun _ => complete_reply_end hr _ _) fun _ =>
      .bind (call_cont_dtmf_callback_start_silent message hs hc).spec fun _ => .ite
        (fun _ => complete_reply_end hr _ _)
        fun _ => .bind (call_cont_dtmf_callback_burst_silent message hd hb).spec fun _ => .ite
          (fun _ => complete_reply_end hr _ _) fun _ => .pure _

lemma callback_spec (callback : GenPhoneResCallback) :
    MessageSpec callback.footprint message (callback.run message) := by
  cases callback with
  | ipcSecPinStatus => exact sec_pin_status_callback_spec message (List.mem_singleton_self _)
  | ipcSec => exact sec_callback_spec rfl (fun _ h => h) (by decide) (by decide) (by decide)
  | ipcCallContDtmf => exact call_cont_dtmf_callback_spec message rfl (by decide) (by decide) (by decide) (by decide)
  | ipcNetPlmnSel => exact net_plmn_sel_callback_spec message rfl
  | ipcGprsDefinePdpContext => exact define_pdp_context_callback_spec message rfl rfl (List.mem_singleton_self _)
  | ipcGprsPdpContext => exact pdp_context_callback_spec message rfl rfl

lemma gen_phone_res_expected_spec (data : IpcGenPhoneResData) {expect : IpcGenPhoneResExpect}
    (h : ∀ callback, expect.callback = some callback → F = callback.footprint)
    (hn : expect.callback = none → F.replies = true) :
    MessageSpec F message (genPhoneResExpected message data expect) := by
  refine .ite (fun _ => .pure _) fun _ => ?_
  split
  · rename_i callback hc
    rw [h callback hc]
    exact callback_spec message callback
  · rename_i hc
    exact .ite (fun _ => complete_reply_end (hn hc) _ _) fun _ => .pure _

lemma gen_phone_res_footprint {s : RilData} {expect : IpcGenPhoneResExpect}
    (h : s.expectFindAseq message.aseq = some expect) {callback : GenPhoneResCallback}
    (hc : expect.callback = some callback) : genPhoneResFootprint message s = callback.footprint := by
  obtain ⟨_, _, c, _, _⟩ := expect
  obtain rfl : c = some callback := hc
  rw [genPhoneResFootprint, h]

lemma gen_phone_res_footprint_none {s : RilData} {expect : IpcGenPhoneResExpect}
    (h : s.expectFindAseq message.aseq = some expect) (hc : expect.callback = none) :
    genPhoneResFootprint message s = { replies := true } := by
  obtain ⟨_, _, c, _, _⟩ := expect
  obtain rfl : c = none := hc
  rw [genPhoneResFootprint, h]

lemma gen_phone_res_spec (hcommand : message.command = .genPhoneRes) (s : RilData) :
    MessagePath (genPhoneResFootprint message s) message s (ipcGenPhoneRes message s).2 := by
  have hu (F : Footprint) : MessageSpec F message (modify (RilData.expectUnregister message.aseq)) :=
    .modify (Op.expectUnregister message.aseq) fun _ => ⟨rfl, hcommand⟩
  have hspec : PerformsFrom Op.exec (MessageOp (genPhoneResFootprint message s) message) (fun t => t = s)
      (ipcGenPhoneRes message) := by
    unfold ipcGenPhoneRes
    split
    · exact .of_performs (.pure _)
    · rename_i data _
      refine .read fun t ht => ?_
      subst ht
      split
      · exact .of_performs (.pure _)
      · rename_i expect he
        have hspec := gen_phone_res_expected_spec message data
          (fun callback hc => gen_phone_res_footprint message he hc)
          (fun hc => by rw [gen_phone_res_footprint_none message he hc])
        exact .of_performs <| .bind hspec fun _ => .bind (hu _) fun _ => .pure _
  exact hspec s rfl

lemma message_handler_spec {handler : IpcMessage → RilM Rc} (h : ipcFmtHandler message.command = some handler)
    (s : RilData) : MessagePath (messageFootprint message s) message s (handler message s).2 := by
  obtain ⟨aseq, command, type, data⟩ := message
  cases command with
  | pwrPhonePwrUp => obtain rfl := Option.some.inj h; exact pwr_phone_pwr_up_spec _ rfl s
  | pwrPhoneReset => obtain rfl := Option.some.inj h; exact pwr_phone_reset_spec _ rfl s
  | pwrPhoneState => obtain rfl := Option.some.inj h; exact pwr_phone_state_spec _ (fun h => h) (fun hv hb => by simp [messageFootprint, messageOff, hv, hb]) s
  | callIncoming => obtain rfl := Option.some.inj h; exact call_incoming_spec _ s
  | callStatus => obtain rfl := Option.some.inj h; exact call_status_spec _ (.head _) (.tail _ (.head _)) s
  | callList => obtain rfl := Option.some.inj h; exact call_list_spec _ (fun h => h) s
  | callBurstDtmf => obtain rfl := Option.some.inj h; exact call_burst_dtmf_spec _ (fun h => h) s
  | smsSendMsg => obtain rfl := Option.some.inj h; exact sms_send_msg_spec _ (fun h => h) s
  | smsIncomingMsg => obtain rfl := Option.some.inj h; exact sms_incoming_msg_spec _ (List.mem_singleton_self _) s
  | smsSaveMsg => obtain rfl := Option.some.inj h; exact sms_store_response_spec _ (fun h => h) s
  | smsDelMsg => obtain rfl := Option.some.inj h; exact sms_store_response_spec _ (fun h => h) s
  | smsDeliverReport => obtain rfl := Option.some.inj h; exact sms_deliver_report_spec _ (fun h => h) s
  | smsSvcCenterAddr => obtain rfl := Option.some.inj h; exact sms_svc_center_addr_spec _ (fun h => h) (List.mem_singleton_self _) (List.mem_singleton_self _) s
  | secPinStatus => obtain rfl := Option.some.inj h; exact sec_pin_status_spec _ (fun h => h) (List.mem_singleton_self _) (List.mem_singleton_self _) s
  | secPhoneLock => obtain rfl := Option.some.inj h; exact sec_phone_lock_spec _ (fun h => h) s
  | secRsimAccess => obtain rfl := Option.some.inj h; exact sec_rsim_access_spec _ (fun h => h) s
  | secSimIccType => obtain rfl := Option.some.inj h; exact sec_sim_icc_type_spec _ s
  | secLockInfomation => obtain rfl := Option.some.inj h; exact sec_lock_infomation_spec _ (fun h => h) (fun _ h => h) s
  | dispIconInfo => obtain rfl := Option.some.inj h; exact disp_icon_info_spec _ (fun h => h) s
  | dispRssiInfo => obtain rfl := Option.some.inj h; exact disp_rssi_info_spec _ s
  | netPlmnSel => obtain rfl := Option.some.inj h; exact int_response_spec _ (fun h => h) _ s
  | netServingNetwork => obtain rfl := Option.some.inj h; exact net_serving_network_spec _ (fun h => h) (List.mem_singleton_self _) s
  | netPlmnList => obtain rfl := Option.some.inj h; exact net_plmn_list_spec _ (fun h => h) s
  | netRegist => obtain rfl := Option.some.inj h; exact net_regist_spec _ (fun h => h) (fun _ h => h) s
  | netModeSel => obtain rfl := Option.some.inj h; exact int_response_spec _ (fun h => h) _ s
  | miscMeVersion => obtain rfl := Option.some.inj h; exact misc_me_version_spec _ (fun h => h) s
  | miscMeImsi => obtain rfl := Option.some.inj h; exact misc_me_imsi_spec _ (fun h => h) s
  | miscMeSn => obtain rfl := Option.some.inj h; exact misc_me_sn_spec _ (.head _) (.tail _ (.head _)) s
  | miscTimeInfo => obtain rfl := Option.some.inj h; exact misc_time_info_spec _ s
  | svcDisplayScreen => obtain rfl := Option.some.inj h; exact svc_display_screen_spec _ (List.mem_singleton_self _) (List.mem_singleton_self _) s
  | gprsPs => obtain rfl := Option.some.inj h; exact gprs_ps_spec _ rfl s
  | gprsPdpContext => obtain rfl := Option.some.inj h; exact gprs_pdp_context_spec _ (fun h => h) s
  | gprsIpConfiguration => obtain rfl := Option.some.inj h; exact gprs_ip_configuration_spec _ rfl (fun h => h) s
  | gprsHsdpaStatus => obtain rfl := Option.some.inj h; exact gprs_hsdpa_status_spec _ s
  | gprsCallStatus => obtain rfl := Option.some.inj h; exact gprs_call_status_spec _ s (fun h => h) rfl (List.mem_singleton_self _) fun _ h => h
  | genPhoneRes => obtain rfl := Option.some.inj h; exact gen_phone_res_spec _ rfl s
  | _ => cases h

end Ril.Samsung
