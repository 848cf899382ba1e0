import Ril.Samsung.Proofs.Expectations
import Ril.Samsung.Proofs.PinRetries

/-! Which steps keep the owners of the generic answers that are expected. -/

namespace Ril.Samsung

open Ril.Ipc Ril.Lib

/-! ### Generic answers -/

section

variable {s t : RilData} {F : Footprint} {message : IpcMessage} {aseq : UInt8}

lemma transmit_reply_answer {expect : Option ExpectKind} {command : IpcCommand} {type : IpcRequestType}
    (data : Bytes) (hF : (expect, command, type) ∈ F.messages) :
    Performs Op.exec (fun _ => AnswerOp F aseq) (transmit (.reply aseq) expect command type data) := fun _ =>
  Path.single (Op.transmit (.reply aseq) expect command type data) ⟨rfl, hF⟩

lemma QuietProgram.answer {α : Type} {m : RilM α} (h : QuietProgram F m) (aseq : UInt8) :
    Performs Op.exec (fun _ => AnswerOp F aseq) m := .mono h fun _ _ hq => hq.answer aseq

lemma transmit_accepted (ha : Accepts F s) (hd : s.fmt.data.isSome = true) {kind : ExpectKind} {command : IpcCommand}
    {type : IpcRequestType} (hF : (some kind, command, type) ∈ F.messages) (data : Bytes) :
    (transmit (.reply aseq) (some kind) command type data s).1 = true := by
  have ht : transmit (.reply aseq) (some kind) command type data s =
      expectSend (some kind) aseq command type data s := rfl
  rw [ht, RilData.expectSend_apply, if_neg (fun hx => by simp [hx.2] at hd)]
  exact ha kind command type hF hd aseq data

lemma QuietOp.mute {op : Op} (h : QuietOp F op) : QuietOp F.mute op := by
  cases op <;> exact h

/-- The program sends what it sends under the seq of the answer and completes nothing, or it sends nothing with
an expectation. -/
def Parts (F : Footprint) (message : IpcMessage) (s : RilData) {α : Type} (m : RilM α) : Prop :=
  AnswerPath F message.aseq s (m s).2 ∨ MessagePath F.mute message s (m s).2

namespace Parts

variable {α β : Type} {m : RilM α} {token : RilToken}

protected lemma pure (a : α) : Parts F message s (pure a) := .inr .refl

lemma of_message (h : MessageSpec F.mute message m) : Parts F message s m := .inr (h s)

lemma of_reply (h : ReplySpec F.mute message token m) (ht : s.ipcFmtRequestToken message.aseq = token) :
    Parts F message s m := .inr (h s ht)

lemma read {f : RilData → RilM α} (h : Parts F message s (f s)) : Parts F message s (get >>= f) := h

lemma quiet {f : α → RilM β} (hm : QuietProgram F m) (h : Parts F message (m s).2 (f (m s).1)) :
    Parts F message s (m >>= f) := by
  rcases h with h | h
  · exact .inl ((hm.answer message.aseq s).trans h)
  · have hq : QuietProgram F.mute m := .mono hm fun _ _ hq => hq.mute
    exact .inr ((QuietProgram.spec hq s).trans h)

lemma then_pure (h : Parts F message s m) (b : β) : Parts F message s (m >>= fun _ => pure b) := h

lemma ite {c : Prop} [Decidable c] {n : RilM α} (hm : c → Parts F message s m) (hn : ¬c → Parts F message s n) :
    Parts F message s (if c then m else n) := by
  split
  · exact hm ‹_›
  · exact hn ‹_›

/-- Where the message is accepted, what follows a failed send does not matter. -/
lemma transmit (ha : Accepts F s) (hd : s.fmt.data.isSome = true) {kind : ExpectKind} {command : IpcCommand}
    {type : IpcRequestType} (hF : (some kind, command, type) ∈ F.messages) (data : Bytes) {f : Bool → RilM β}
    (hf : ∃ b, f true = pure b) :
    Parts F message s (Samsung.transmit (.reply message.aseq) (some kind) command type data >>= f) := by
  obtain ⟨b, hb⟩ := hf
  left
  rw [bind_apply, transmit_accepted ha hd hF data, hb]
  exact transmit_reply_answer data hF s

end Parts

lemma set_facility_lock_parts (ha : Accepts F s) (hd : s.fmt.data.isSome = true) (data : IpcGenPhoneResData)
    {request : RilRequest} (hr : F.replies = true) (hq : request.request ∈ F.data) (hl : .setFacilityLock ∈ F.data)
    (hi : (none, .secLockInfomation, .get) ∈ F.messages)
    (hF : (some (.callback .ipcSec), .secPhoneLock, .set) ∈ F.messages)
    (ht : s.ipcFmtRequestToken message.aseq = request.token) :
    Parts F message s (ipcSecCallbackSetFacilityLock message data request) := by
  refine .quiet (.dataGet hl) ?_
  split
  · rename_i stored _ _
    exact .transmit (s := (rilRequestDataGet .setFacilityLock s).2) (ha.of_view rfl) hd hF stored ⟨_, rfl⟩
  · exact .of_reply (s := (rilRequestDataGet .setFacilityLock s).2)
      (sec_callback_retry_count_spec (F := F.mute) hr hq (Footprint.mem_mute hi) _) ht

lemma sec_callback_parts (ha : Accepts GenPhoneResCallback.ipcSec.footprint s) (hd : s.fmt.data.isSome = true) :
    Parts GenPhoneResCallback.ipcSec.footprint message s (ipcSecCallback message) := by
  unfold ipcSecCallback
  split
  · exact .pure _
  · rename_i data _
    refine .read ?_
    split
    · exact .pure _
    · rename_i request h
      have ht : s.ipcFmtRequestToken message.aseq = request.token := (RilData.requestFindToken_token h).symm
      have hcount (hq : request.request ∈ GenPhoneResCallback.ipcSec.footprint.data) (type : UInt8) :
          Parts GenPhoneResCallback.ipcSec.footprint message s (ipcSecCallbackRetryCount message request type) :=
        .of_reply
          (sec_callback_retry_count_spec (F := GenPhoneResCallback.ipcSec.footprint.mute) rfl hq (by decide) type) ht
      split
      · exact .then_pure (hcount (by simp [*, GenPhoneResCallback.footprint, lockInfomationRequests]) _) _
      · exact .then_pure (hcount (by simp [*, GenPhoneResCallback.footprint, lockInfomationRequests]) _) _
      · exact .then_pure (hcount (by simp [*, GenPhoneResCallback.footprint, lockInfomationRequests]) _) _
      · exact .then_pure (hcount (by simp [*, GenPhoneResCallback.footprint, lockInfomationRequests]) _) _
      · exact .then_pure (set_facility_lock_parts ha hd data rfl
          (by simp [*, GenPhoneResCallback.footprint, lockInfomationRequests]) (by decide) (by decide) (by decide)
          ht) _
      · exact .then_pure (.of_reply (sec_callback_sim_io_spec data request rfl (by decide) (by decide)) ht) _
      · exact .then_pure (.of_message (sec_callback_other_spec data request rfl)) _

/-- What the program sends is accepted. -/
def Succeeds (F : Footprint) (aseq : UInt8) (s : RilData) (m : RilM Bool) : Prop :=
  (m s).1 = true ∧ AnswerPath F aseq s (m s).2

namespace Succeeds

variable {α : Type} {m n : RilM Bool}

protected lemma pure : Succeeds F aseq s (pure true) := ⟨rfl, .refl⟩

lemma quiet {q : RilM α} {f : α → RilM Bool} (hq : QuietProgram F q) (h : Succeeds F aseq (q s).2 (f (q s).1)) :
    Succeeds F aseq s (q >>= f) := ⟨h.1, (hq.answer aseq s).trans h.2⟩

lemma transmit (ha : Accepts F s) (hd : s.fmt.data.isSome = true) {kind : ExpectKind} {command : IpcCommand}
    {type : IpcRequestType} (hF : (some kind, command, type) ∈ F.messages) (data : Bytes) :
    Succeeds F aseq s (Samsung.transmit (.reply aseq) (some kind) command type data) :=
  ⟨transmit_accepted ha hd hF data, transmit_reply_answer data hF s⟩

lemma orElse (h : Succeeds F aseq s m) : Succeeds F aseq s (do if ← m then return true else n) := by
  rw [Succeeds, bind_apply, h.1]
  exact ⟨rfl, h.2⟩

lemma acceptView (h : Succeeds F aseq s m) : (m s).2.acceptView = s.acceptView :=
  Path.frame h.2 fun u _ h => AnswerOp.acceptView h u

end Succeeds

lemma quiet_accept {α : Type} {m : RilM α} (h : QuietProgram F m) (s : RilData) :
    (m s).2.acceptView = s.acceptView := Path.frame (h s) fun u _ h => QuietOp.acceptView h u

lemma dtmf_start_succeeds (ha : Accepts GenPhoneResCallback.ipcCallContDtmf.footprint s)
    (hd : s.fmt.data.isSome = true) :
    Succeeds GenPhoneResCallback.ipcCallContDtmf.footprint message.aseq s (ipcCallContDtmfCallbackStart message) := by
  refine .quiet (.dataGet (by decide)) ?_
  split
  · rename_i tone rest _
    have hset : QuietProgram GenPhoneResCallback.ipcCallContDtmf.footprint
        (rilRequestDataSet .dtmfStart (.bytes (tone :: rest))) := .dataSet (by decide) _
    have hview : (rilRequestDataSet .dtmfStart (.bytes (tone :: rest))
        (rilRequestDataGet .dtmfStart s).2).2.acceptView = s.acceptView := quiet_accept hset _
    refine .quiet hset (.orElse ?_)
    exact .transmit (ha.of_view hview) ((congrArg Prod.fst hview).trans hd) (.head _) _
  · exact .pure

lemma dtmf_burst_succeeds (ha : Accepts GenPhoneResCallback.ipcCallContDtmf.footprint s)
    (hd : s.fmt.data.isSome = true) :
    Succeeds GenPhoneResCallback.ipcCallContDtmf.footprint message.aseq s (ipcCallContDtmfCallbackBurst message) := by
  refine .quiet (.dataGet (by decide)) ?_
  split
  · exact .transmit (s := (rilRequestDataGet .dtmf s).2) (ha.of_view rfl) hd (.tail _ (.head _)) _
  · exact .pure

lemma dtmf_callback_parts (ha : Accepts GenPhoneResCallback.ipcCallContDtmf.footprint s)
    (hd : s.fmt.data.isSome = true) :
    Parts GenPhoneResCallback.ipcCallContDtmf.footprint message s (ipcCallContDtmfCallback message) := by
  unfold ipcCallContDtmfCallback
  split
  · exact .pure _
  · refine .ite (fun _ => .of_message (complete_reply_end rfl _ _)) fun _ => ?_
    have hstart := @dtmf_start_succeeds s message ha hd
    have hview := hstart.acceptView
    have hburst := @dtmf_burst_succeeds (ipcCallContDtmfCallbackStart message s).2 message (ha.of_view hview)
      ((congrArg Prod.fst hview).trans hd)
    left
    rw [bind_apply, hstart.1, Bool.not_true, if_neg Bool.false_ne_true, bind_apply, hburst.1, Bool.not_true,
      if_neg Bool.false_ne_true]
    exact hstart.2.trans hburst.2

lemma define_callback_parts (ha : Accepts GenPhoneResCallback.ipcGprsDefinePdpContext.footprint s)
    (hd : s.fmt.data.isSome = true) : Parts GenPhoneResCallback.ipcGprsDefinePdpContext.footprint message s
      (ipcGprsDefinePdpContextCallback message) := by
  have hstop (c : RilDataConnection) :
      MessageSpec GenPhoneResCallback.ipcGprsDefinePdpContext.footprint.mute message (completeStopped message c) :=
    complete_stopped_spec message rfl rfl c
  unfold ipcGprsDefinePdpContextCallback
  split
  · exact .pure _
  · refine .read ?_
    split
    · exact .of_message (complete_reply_end rfl _ _)
    · exact .ite (fun _ => .transmit ha hd (by decide) _ ⟨_, rfl⟩) fun _ => .then_pure (.of_message (hstop _)) _

lemma callback_parts (message : IpcMessage) (callback : GenPhoneResCallback) (ha : Accepts callback.footprint s)
    (hd : s.fmt.data.isSome = true) : Parts callback.footprint message s (callback.run message) := by
  cases callback with
  | ipcSecPinStatus => exact .of_message (sec_pin_status_callback_spec message (List.mem_singleton_self _))
  | ipcSec => exact sec_callback_parts ha hd
  | ipcCallContDtmf => exact dtmf_callback_parts ha hd
  | ipcNetPlmnSel => exact .of_message (net_plmn_sel_callback_spec message rfl)
  | ipcGprsDefinePdpContext => exact define_callback_parts ha hd
  | ipcGprsPdpContext => exact .of_message (pdp_context_callback_spec message rfl rfl)

/-- The generic answer is the one that is expected. -/
def Expected (message : IpcMessage) (s : RilData) : Prop :=
  ∃ data expect, IpcGenPhoneResData.read message.data = some data ∧ s.expectFindAseq message.aseq = some expect ∧
    data.command = expect.command.code

/-- No second generic answer is expected for the seq. -/
def ExpectedOnce (message : IpcMessage) (s : RilData) : Prop :=
  ∀ e ∈ s.fmtExpects.eraseP (·.aseq == message.aseq), e.aseq ≠ message.aseq

lemma gen_phone_res_held (hs : Synced s) (hn : Numbered s) (h : Held (fun _ => True) s)
    (hok : Expected message s → ((genPhoneResFootprint message s).replies = true → ExpectedOnce message s) ∧
      Accepts (genPhoneResFootprint message s) s) : Held (fun _ => True) (ipcGenPhoneRes message s).2 := by
  have hend {t : RilData} (hp : Held (fun _ => True) t) : Held (fun _ => True) (t.expectUnregister message.aseq) :=
    hp.of_subset (fun e he => List.mem_of_mem_eraseP (RilData.expectUnregister_fmtExpects t message.aseq ▸ he))
      List.suffix_rfl fun r hr hh _ _ _ _ => ⟨r, hr, rfl, hh⟩
  have hmute {F : Footprint} {t : RilData} (hp : MessagePath F.mute message s t) (hh : F.handled = [])
      (ht : F.tokens = []) (hone : F.replies = true → ExpectedOnce message s) :
      Held (fun _ => True) (t.expectUnregister message.aseq) := by
    by_cases hrep : F.replies = true
    · have hother : Held (fun e => e.aseq ≠ message.aseq) s := h.weaken fun _ _ _ => trivial
      obtain ⟨hheld, hshrinks⟩ := mute_path_held hp hs hn hother (by
        rintro token (⟨-, f, hf, hk, hq⟩ | ⟨r, -, -, h | h⟩) f' hf' hk' e - hne
        · obtain rfl := hs.fmt_token_inj hf hf' (hk.trans hk'.symm)
          exact hq ▸ hne
        · exact absurd (hh ▸ h.2) List.not_mem_nil
        · exact absurd (ht ▸ h) List.not_mem_nil)
      intro e he _
      rw [RilData.expectUnregister_fmtExpects] at he
      have hne := hone hrep e ((hshrinks.fmtExpects.eraseP).subset he)
      exact hheld e (List.mem_of_mem_eraseP he) hne
    · refine hend (mute_path_held hp hs hn h ?_).1
      rintro token (⟨hr, -⟩ | ⟨r, -, -, h | h⟩)
      · exact absurd hr hrep
      · exact absurd (hh ▸ h.2) List.not_mem_nil
      · exact absurd (ht ▸ h) List.not_mem_nil
  unfold ipcGenPhoneRes
  cases hdata : IpcGenPhoneResData.read message.data with
  | none => exact h
  | some data =>
    dsimp only
    rw [get_bind_apply]
    cases hfind : s.expectFindAseq message.aseq with
    | none => exact h
    | some expect =>
      have he : expect ∈ s.fmtExpects := List.mem_of_find?_eq_some hfind
      have haseq : expect.aseq = message.aseq := by simpa using List.find?_some hfind
      have hd := data_of_expect he
      obtain ⟨r, hr, hh, hsent⟩ := h expect he trivial
      have hrun : ((do
            let rc ← genPhoneResExpected message data expect
            modify (RilData.expectUnregister message.aseq)
            return rc : RilM Rc) s).2 =
          (genPhoneResExpected message data expect s).2.expectUnregister message.aseq := rfl
      dsimp only
      rw [hrun]
      by_cases hc : data.command = expect.command.code
      · obtain ⟨hone, ha⟩ := hok ⟨data, expect, hdata, hfind, hc⟩
        cases hcb : expect.callback with
        | none =>
          have hF := gen_phone_res_footprint_none message hfind hcb
          have hspec : MessageSpec ({ replies := true } : Footprint).mute message
              (genPhoneResExpected message data expect) :=
            gen_phone_res_expected_spec message data (fun callback hx => by rw [hcb] at hx; cases hx) fun _ => rfl
          exact hmute (hspec s) rfl rfl fun _ => hone (by rw [hF])
        | some callback =>
          have hF := gen_phone_res_footprint message hfind hcb
          have hexp : genPhoneResExpected message data expect = callback.run message := by
            rw [genPhoneResExpected, if_neg (not_not.mpr hc), hcb]
          obtain ⟨hh0, ht0⟩ := callback_footprint callback
          rw [hF] at hone ha
          rw [hexp]
          rcases callback_parts message callback ha hd with hp | hp
          · exact hend (answer_path_held hp h ha hr hh (haseq ▸ hsent.taken))
          · exact hmute hp hh0 ht0 hone
      · have hexp : genPhoneResExpected message data expect = pure .failed := by
          rw [genPhoneResExpected, if_pos hc]
        rw [hexp]
        exact hend h

end

/-! ### Messages -/

/-- No expectation has the seq of the request. -/
def Unexpected (s : RilData) (token : RilToken) : Prop :=
  ∀ f ∈ s.fmtRequests, f.token = token → ∀ e ∈ s.fmtExpects, e.aseq ≠ f.seq

/-- The message that the answer with the SMSC makes of the PDU that waits for it. -/
def smsOfSmsc (message : IpcMessage) (s : RilData) : Option Bytes :=
  match ipcSmsSvcCenterAddrSmscExtract message.data, s.requestDataFind .sendSms with
  | some smsc, some (.bytes pdu) => ipcSmsSendMsgSetup ipcSmsTypeOutgoing (smsMsgType pdu) smsc pdu
  | _, _ => none

/-- The handler of the message sends a message with an expectation under the seq of the answer. -/
def SendsExpected (message : IpcMessage) (s : RilData) : Prop :=
  asksForPin message s = true ∧ s.simPin.isSome = true ∨
    message.command = .smsSvcCenterAddr ∧ IpcMessage.isResponse message = true ∧ (smsOfSmsc message s).isSome = true

/-- A request that is handled has the seq of the message. -/
def Asked (message : IpcMessage) (s : RilData) : Prop :=
  message.aseq ≠ 0xff ∧ ∃ r ∈ s.requests, r.status = .handled ∧
    ∃ f ∈ s.fmtRequests, f.token = r.token ∧ f.seq = message.aseq

structure MessageKeeps (env : Env) (message : IpcMessage) (s : RilData) : Prop where
  expected : message.command = .genPhoneRes → Expected message s →
    ((messageFootprint message s).replies = true → ExpectedOnce message s) ∧
      Accepts (messageFootprint message s) { s with env := env }
  sends : SendsExpected message s → Asked message s ∧ Accepts (messageFootprint message s) { s with env := env }
  answers : message.command ≠ .genPhoneRes → ¬SendsExpected message s → ∀ token,
    Answers (messageFootprint message s) message s token → Unexpected s token

section

variable {s : RilData} {env : Env} {message : IpcMessage}

lemma message_footprint_mute (hg : message.command ≠ .genPhoneRes) (hp : message.command ≠ .secPinStatus)
    (hc : message.command ≠ .smsSvcCenterAddr) : (messageFootprint message s).mute = messageFootprint message s := by
  obtain ⟨aseq, command, type, data⟩ := message
  cases command with
  | genPhoneRes => exact absurd rfl hg
  | secPinStatus => exact absurd rfl hp
  | smsSvcCenterAddr => exact absurd rfl hc
  | _ => rfl

lemma mute_message_held {F : Footprint} {t : RilData} (hp : MessagePath F.mute message s t) (hs : Synced s)
    (hn : Numbered s) (h : Held (fun _ => True) s) (hu : ∀ token, Answers F message s token → Unexpected s token) :
    Held (fun _ => True) t :=
  (mute_path_held hp hs hn h fun token ha f hf hk e he _ => hu token ha f hf hk e he).1

lemma asked_message_held {F : Footprint} {t : RilData} (hp : AnswerPath F message.aseq s t) (hn : Numbered s)
    (h : Held (fun _ => True) s) (ha : Accepts F s) (hask : Asked message s) : Held (fun _ => True) t := by
  obtain ⟨h0, r, hr, hh, f, hf, hk, hq⟩ := hask
  have ht := seq_taken hn hf (hq ▸ h0)
  rw [hk, hq] at ht
  exact answer_path_held hp h ha hr hh ht

lemma pin_status_unlock_answers {F : Footprint}
    (hF : (some (.callback .ipcSecPinStatus), .secPinStatus, .set) ∈ F.messages) (hd : .getSimStatus ∈ F.data)
    (status : RilCardStatus) (pin : CString) :
    Performs Op.exec (fun _ => AnswerOp F message.aseq) (ipcSecPinStatusUnlock message status pin) :=
  .bind ((QuietProgram.dataSetUniq hd _).answer _) fun _ => .bind (transmit_reply_answer _ hF) fun _ =>
    .ite (fun _ => .bind ((QuietProgram.dataFree hd).answer _) fun _ => .pure _) fun _ => .pure _

lemma pin_status_held (hs : Synced s) (hn : Numbered s) (h : Held (fun _ => True) s)
    (hc : message.command = .secPinStatus)
    (hsends : SendsExpected message s → Asked message s ∧ Accepts (messageFootprint message s) s)
    (hu : ¬SendsExpected message s → ∀ token, Answers (messageFootprint message s) message s token →
      Unexpected s token) :
    Held (fun _ => True) (ipcSecPinStatus message s).2 := by
  have hF : messageFootprint message s = {
      messages := [(some (.callback .ipcSecPinStatus), .secPinStatus, .set)]
      data := [.getSimStatus]
      replies := IpcMessage.isResponse message } := by simp only [messageFootprint, hc]
  rw [hF] at hsends hu
  cases hd : IpcSecPinStatusResponseData.read message.data with
  | none =>
    rw [ipcSecPinStatus, hd]
    exact h
  | some data =>
    rw [pin_status_eq hd]
    split
    · rename_i hr
      split
      · rename_i pin hp hpin
        have hsend : SendsExpected message s := .inl ⟨(asks_for_pin_iff hc hd).mpr ⟨hr, hp⟩, by rw [hpin]; rfl⟩
        obtain ⟨hask, ha⟩ := hsends hsend
        exact asked_message_held (pin_status_unlock_answers (.head _) (.head _) _ _ s) hn h ha hask
      · rename_i hno
        have hsend : ¬SendsExpected message s := by
          rintro (⟨hask, hpin⟩ | ⟨hcommand, -⟩)
          · obtain ⟨pin, hpin⟩ := Option.isSome_iff_exists.mp hpin
            exact hno pin ((asks_for_pin_iff hc hd).mp hask).2 hpin
          · rw [hc] at hcommand
            cases hcommand
        obtain ⟨hun, hoff⟩ := sec_pin_status_radio_state data
        exact mute_message_held (sec_pin_status_report_spec message (fun hx => hx) (.head _) hun hoff _ s) hs hn h
          (hu hsend)
    · exact h

lemma sms_complete_eq {seq : UInt8} (hv : ipcSeqValid seq = true) (smsc pdu : Bytes) :
    rilRequestSendSmsComplete seq smsc pdu =
      match ipcSmsSendMsgSetup ipcSmsTypeOutgoing (smsMsgType pdu) smsc pdu with
      | none => pure false
      | some data => transmit (.reply seq) (some .abort) .smsSendMsg .exec data := by
  rw [rilRequestSendSmsComplete, rilRequestSendSmsCompleteAt, if_pos hv]
  rfl

lemma svc_center_addr_fails (hr : IpcMessage.isResponse message = true) (hd : message.data ≠ [])
    (h : smsOfSmsc message s = none) : ∃ t, (t = s ∨ t = s.requestDataDrop .sendSms) ∧
      (ipcSmsSvcCenterAddr message s).2 = (completeReply message .smsSendFailRetry .null t).2 := by
  obtain ⟨b, bs, hdata⟩ := List.exists_cons_of_ne_nil hd
  rw [ipcSmsSvcCenterAddr, hdata]
  dsimp only
  rw [if_pos hr]
  cases hx : ipcSmsSvcCenterAddrSmscExtract (b :: bs) with
  | none => exact ⟨s, .inl rfl, rfl⟩
  | some smsc =>
    refine ⟨s.requestDataDrop .sendSms, .inr rfl, ?_⟩
    simp only [bind_apply, rilRequestDataGet]
    cases hp : s.requestDataFind .sendSms with
    | none => rfl
    | some value =>
      cases value with
      | bytes pdu =>
        have hset : ipcSmsSendMsgSetup ipcSmsTypeOutgoing (smsMsgType pdu) smsc pdu = none := by
          simpa [smsOfSmsc, hdata, hx, hp] using h
        simp only [sms_complete_eq (response_seq_valid hr), hset]
        rfl
      | _ => rfl

lemma svc_center_addr_sends (hr : IpcMessage.isResponse message = true) {data : Bytes}
    (h : smsOfSmsc message s = some data)
    (ht : (transmit (.reply message.aseq) (some .abort) .smsSendMsg .exec data
      (s.requestDataDrop .sendSms)).1 = true) :
    (ipcSmsSvcCenterAddr message s).2 =
      (transmit (.reply message.aseq) (some .abort) .smsSendMsg .exec data (s.requestDataDrop .sendSms)).2 := by
  cases hdata : message.data with
  | nil =>
    rw [smsOfSmsc, hdata] at h
    cases h
  | cons b bs =>
    rw [ipcSmsSvcCenterAddr, hdata]
    dsimp only
    rw [if_pos hr]
    cases hx : ipcSmsSvcCenterAddrSmscExtract (b :: bs) with
    | none => simp [smsOfSmsc, hdata, hx] at h
    | some smsc =>
      simp only [bind_apply, rilRequestDataGet]
      cases hp : s.requestDataFind .sendSms with
      | none => simp [smsOfSmsc, hdata, hx, hp] at h
      | some value =>
        cases value with
        | bytes pdu =>
          have hset : ipcSmsSendMsgSetup ipcSmsTypeOutgoing (smsMsgType pdu) smsc pdu = some data := by
            simpa [smsOfSmsc, hdata, hx, hp] using h
          simp only [sms_complete_eq (response_seq_valid hr), hset]
          rw [bind_apply, ht]
          rfl
        | _ => simp [smsOfSmsc, hdata, hx, hp] at h

lemma asked_data (h : Asked message s) : s.fmt.data.isSome = true := by
  obtain ⟨-, r, -, -, f, hf, -⟩ := h
  cases hd : s.fmt.data with
  | none => simp [RilData.fmtRequests, hd] at hf
  | some d => rfl

lemma svc_center_addr_held (hs : Synced s) (hn : Numbered s) (h : Held (fun _ => True) s)
    (hc : message.command = .smsSvcCenterAddr)
    (hsends : SendsExpected message s → Asked message s ∧ Accepts (messageFootprint message s) s)
    (hu : ¬SendsExpected message s → ∀ token, Answers (messageFootprint message s) message s token →
      Unexpected s token) :
    Held (fun _ => True) (ipcSmsSvcCenterAddr message s).2 := by
  have hdata : .sendSms ∈ (messageFootprint message s).data := by
    simp only [messageFootprint, hc]
    exact .head _
  have hm : (some .abort, .smsSendMsg, .exec) ∈ (messageFootprint message s).messages := by
    simp only [messageFootprint, hc]
    exact .head _
  have hreplies : (messageFootprint message s).replies = IpcMessage.isResponse message := by
    simp only [messageFootprint, hc]
  by_cases hd : message.data = []
  · rw [ipcSmsSvcCenterAddr, hd]
    exact h
  by_cases hr : IpcMessage.isResponse message = true
  · cases hsms : smsOfSmsc message s with
    | none =>
      have hsend : ¬SendsExpected message s := by
        rintro (hx | ⟨-, -, hx⟩)
        · simp [asksForPin, hc] at hx
        · rw [hsms] at hx
          cases hx
      obtain ⟨t, ht, he⟩ := svc_center_addr_fails hr hd hsms
      have hp : MessagePath (messageFootprint message s).mute message s t := by
        rcases ht with rfl | rfl
        · exact .refl
        · exact Path.single (Op.dataDrop .sendSms) hdata
      have hcomplete : MessagePath (messageFootprint message s).mute message t
          (completeReply message .smsSendFailRetry .null t).2 :=
        complete_reply_spec (F := (messageFootprint message s).mute) (hreplies.trans hr) _ _ t
      rw [he]
      exact mute_message_held (hp.trans hcomplete) hs hn h (hu hsend)
    | some data =>
      obtain ⟨hask, ha⟩ := hsends (.inr ⟨hc, hr, by rw [hsms]; rfl⟩)
      have hsent : (transmit (.reply message.aseq) (some .abort) .smsSendMsg .exec data
          (s.requestDataDrop .sendSms)).1 = true :=
        transmit_accepted (s := s.requestDataDrop .sendSms) (ha.of_view rfl) (asked_data hask) hm data
      have hp : AnswerPath (messageFootprint message s) message.aseq s (s.requestDataDrop .sendSms) :=
        Path.single (Op.dataDrop .sendSms) hdata
      rw [svc_center_addr_sends hr hsms hsent]
      exact asked_message_held (hp.trans (transmit_reply_answer data hm _)) hn h ha hask
  · obtain ⟨b, bs, hdata⟩ := List.exists_cons_of_ne_nil hd
    rw [ipcSmsSvcCenterAddr, hdata]
    dsimp only
    rw [if_neg hr]
    exact h

/-- A message leaves the expectations with their owners. -/
lemma message_held (hs : Synced s) (hn : Numbered s) (h : Held (fun _ => True) s) (hk : MessageKeeps env message s) :
    Held (fun _ => True) (dispatchMessage env message s).2 := by
  have hs₁ := hs.keeps (started_keeps s env (e := .received message) rfl)
  have hn₁ : Numbered (s.started env (.received message)) := hn.step hs (.of_eq rfl rfl) (List.suffix_cons _ _)
  have h₁ : Held (fun _ => True) (s.started env (.received message)) := h.of_eq rfl rfl (List.suffix_cons _ _)
  have hrun (handler : IpcMessage → RilM Rc) (hh : ipcFmtHandler message.command = some handler) :
      dispatchMessage env message s = handler message (s.started env (.received message)) := by
    rw [dispatchMessage, ipcFmtDispatch, hh]
    rfl
  have hsends : SendsExpected message s →
      Asked message s ∧ Accepts (messageFootprint message s) (s.started env (.received message)) :=
    fun hx => ⟨(hk.sends hx).1, (hk.sends hx).2.of_view rfl⟩
  by_cases hg : message.command = .genPhoneRes
  · have hF : messageFootprint message s = genPhoneResFootprint message s := by rw [messageFootprint, hg]
    rw [hrun ipcGenPhoneRes (by rw [hg]; rfl)]
    refine gen_phone_res_held hs₁ hn₁ h₁ fun hx => ?_
    obtain ⟨hone, ha⟩ := hk.expected hg hx
    rw [hF] at hone ha
    exact ⟨hone, ha.of_view rfl⟩
  by_cases hp : message.command = .secPinStatus
  · rw [hrun ipcSecPinStatus (by rw [hp]; rfl)]
    exact pin_status_held hs₁ hn₁ h₁ hp hsends (hk.answers hg)
  by_cases hc : message.command = .smsSvcCenterAddr
  · rw [hrun ipcSmsSvcCenterAddr (by rw [hc]; rfl)]
    exact svc_center_addr_held hs₁ hn₁ h₁ hc hsends (hk.answers hg)
  · have hsend : ¬SendsExpected message s := by
      rintro (hx | hx)
      · simp [asksForPin, hp] at hx
      · exact hc hx.1
    have hmute := message_path env message s
    rw [← message_footprint_mute hg hp hc] at hmute
    exact mute_message_held hmute hs₁ hn₁ h₁ (hk.answers hg hsend)

end

/-! ### Runs -/

/-- No request is released while an answer to its message is expected, and the messages that ask for an answer
are accepted and sent under the seq of a request that is handled. -/
def expectationsKept (d : Daemon) : Action → Prop
  | .cancel token => Unexpected d.data token
  | .loopDispatch env => ∀ r, d.data.requestFindStatus .pending = some r →
      Accepts r.request.footprint { d.data with env := env }
  | .message env message => MessageKeeps env message d.data
  | _ => True

lemma arrive_held {s : RilData} (hs : Synced s) (h : Held (fun _ => True) s) {token : RilToken}
    (hfresh : ∀ request data, Event.arrived token request data ∉ s.trace) (request : RilRequestCode)
    (data : RilValue) :
    Held (fun _ => True) (rilOnRequest request data token s) := by
  have he : (rilOnRequest request data token s).fmtExpects = s.fmtExpects := by
    rw [rilOnRequest, unregister_of_not_mem (hs.not_mem_of_fresh hfresh)]
    exact RilData.modifyFmt_fmtExpects s fun _ => rfl
  refine h.of_subset (fun e hm => he ▸ hm) (op_suffix (.arrive request data token) s) ?_
  intro r hr hh _ _ _ _
  rw [rilOnRequest, unregister_of_not_mem (hs.not_mem_of_fresh hfresh)]
  exact ⟨r, List.mem_append_left _ hr, rfl, hh⟩

lemma retry_held {s : RilData} (h : Held (fun _ => True) s) : Held (fun _ => True) s.retryUnhandled := by
  refine h.of_subset (fun _ he => he) List.suffix_rfl fun r hr hh _ _ _ _ =>
    ⟨r, List.mem_map.mpr ⟨r, hr, ?_⟩, rfl, hh⟩
  rw [if_neg (by rw [hh]; decide)]

lemma client_destroy_held (s : RilData) : Held (fun _ => True) (clientDestroy s) :=
  fun _ he => absurd he List.not_mem_nil

lemma srs_op_held {d : Daemon} {env : Env} {message : SrsMessage} {s : RilData} {op : Op} (h : Held (fun _ => True) s)
    (hop : StepOp d (.srs env message) s op) : Held (fun _ => True) (op.exec s) := by
  have hsuffix := op_suffix op s
  rcases hop with rfl | ⟨command, -, type, data, rfl⟩ | ⟨state, -, rfl⟩
  · exact h.of_eq rfl rfl hsuffix
  · have hrun : (Op.transmit .own none command type data).exec s =
        (expectSend none (s.ipcFmtSeq none).1 command type data (s.ipcFmtSeq none).2).2 := rfl
    rw [hrun] at hsuffix ⊢
    refine h.of_eq ?_ ?_ hsuffix
    · exact (RilData.expectSend_none_fmtExpects _ _ command type data).trans (RilData.ipcFmtSeq_fmtExpects s none)
    · exact (RilData.expectSend_requests _ none _ command type data).trans (RilData.ipcFmtSeq_requests s none)
  · exact radio_held h _

lemma step_held {d d' : Daemon} {a : Action} (hs : Synced d.data) (hn : Numbered d.data) (hf : fresh d a)
    (hk : expectationsKept d a) (h : Held (fun _ => True) d.data) (hstep : step d a = some d') :
    Held (fun _ => True) d'.data := by
  cases a with
  | request request data token =>
    obtain ⟨-, rfl⟩ := step_request.mp hstep
    exact arrive_held hs h hf.2 request data
  | requestSignal =>
    obtain ⟨-, rfl⟩ := step_request_signal.mp hstep
    exact h
  | cancel token =>
    obtain ⟨-, rfl⟩ := step_cancel.mp hstep
    exact h.cancel hs.nodup (not_sent_of_seq hs hn fun f hf hft e he _ => hk f hf hft e he)
  | loopWake =>
    obtain ⟨-, rfl⟩ := step_loop_wake.mp hstep
    exact h
  | loopStart =>
    obtain ⟨-, ⟨-, rfl⟩ | ⟨-, rfl⟩⟩ := step_loop_start.mp hstep
    · exact retry_held h
    · exact h
  | loopDispatch env =>
    obtain ⟨-, r, hr, rfl⟩ := step_loop_dispatch.mp hstep
    exact dispatch_held hs hn h hr (hk r hr)
  | loopEnd =>
    obtain ⟨-, -, rfl⟩ := step_loop_end.mp hstep
    exact h
  | message env message =>
    have hm := message_held hs hn h hk
    obtain ⟨-, -, ⟨data, he, rfl⟩ | ⟨data, he, rfl⟩⟩ := step_message.mp hstep
    · rw [he] at hm
      exact hm
    · rw [he] at hm
      exact hm.of_eq rfl rfl List.suffix_rfl
  | clientError =>
    obtain ⟨-, -, rfl⟩ := step_client_error.mp hstep
    exact (radio_held h .unavailable).of_eq rfl rfl List.suffix_rfl
  | clientReopen closed opened =>
    obtain ⟨-, -, ⟨-, -, rfl⟩ | ⟨-, rfl⟩⟩ := step_client_reopen.mp hstep
    · have hclose : Held (fun _ => True) (clientClose d.data) := h.of_eq rfl rfl List.suffix_rfl
      rw [clientOpen]
      split
      · exact (radio_held hclose .off).of_eq rfl rfl List.suffix_rfl
      · exact hclose.of_eq rfl rfl List.suffix_rfl
    · exact h.of_eq rfl rfl List.suffix_rfl
  | clientStop =>
    obtain ⟨-, -, rfl⟩ := step_client_stop.mp hstep
    exact client_destroy_held d.data
  | srs env message =>
    exact Path.invariant (step_path hstep) h fun s op hi hop => srs_op_held hi hop

/-- Every expected generic answer has the seq of a registered request whose message was sent. -/
def ExpectationsOwned (s : RilData) : Prop := ∀ e ∈ s.fmtExpects, ∃ f ∈ s.fmtRequests, ∃ r ∈ s.requests,
  r.token = f.token ∧ f.seq = e.aseq ∧ MessageSent r.token e s.trace

/-- In a run in which no request is released while an answer to its message is expected, and no send of such a
message fails, every expectation belongs to a registered request whose message was sent. -/
theorem expectations_owned {d : Daemon} (h : Reaches step (fun d a => fresh d a ∧ expectationsKept d a) {} d) :
    ExpectationsOwned d.data := by
  have hreach : Reachable d := h.mono fun _ _ ha => ha.1
  have hheld : Held (fun _ => True) d.data := by
    induction h with
    | refl => exact fun _ he => absurd he List.not_mem_nil
    | tail hr ha hstep ih =>
      have hr := hr.mono fun _ _ ha => ha.1
      exact step_held (reachable_synced hr) (reachable_numbered hr) ha.1 ha.2 (ih hr) hstep
  intro e he
  obtain ⟨r, hr, -, hsent⟩ := hheld e he trivial
  obtain ⟨f, hf, hk, hq, -⟩ := seq_of_taken (reachable_synced hreach) (reachable_numbered hreach) hr hsent.taken
    (data_of_expect he)
  exact ⟨f, hf, r, hr, hk.symm, hq, hsent⟩

/-- A decided condition that is enough where nothing is expected yet. -/
def nothingExpected (d : Daemon) : Action → Bool
  | .loopDispatch _ => false
  | .message _ message => d.data.fmtExpects.isEmpty && message.command != .genPhoneRes && d.data.simPin.isNone &&
      message.command != .smsSvcCenterAddr
  | _ => d.data.fmtExpects.isEmpty

lemma kept_of_nothing {d : Daemon} {a : Action} (h : (freshCheck d a && nothingExpected d a) = true) :
    fresh d a ∧ expectationsKept d a := by
  rw [Bool.and_eq_true] at h
  refine ⟨fresh_of_check h.1, ?_⟩
  have hempty : d.data.fmtExpects = [] → ∀ token, Unexpected d.data token := by
    intro he token _ _ _ e hm
    rw [he] at hm
    exact absurd hm List.not_mem_nil
  cases a with
  | cancel token => exact hempty (List.isEmpty_iff.mp h.2) token
  | loopDispatch env => exact absurd h.2 Bool.false_ne_true
  | message env message =>
    have hc := h.2
    simp only [nothingExpected, Bool.and_eq_true, List.isEmpty_iff, bne_iff_ne, Option.isNone_iff_eq_none] at hc
    obtain ⟨⟨⟨he, hg⟩, hp⟩, hs⟩ := hc
    have hsend : ¬SendsExpected message d.data := by
      rintro (⟨-, hpin⟩ | ⟨hcommand, -⟩)
      · rw [hp] at hpin
        cases hpin
      · exact hs hcommand
    exact ⟨fun hx => absurd hx hg, fun hx => absurd hx hsend, fun _ _ token _ => hempty he token⟩
  | _ => trivial

/-- A call is dialled. -/
def dialRun : List Action := dispatchRun {} .dial (.dial (some (ascii ['1'])) 0) 1

theorem expectations_owned_dialled : ExpectationsOwned (runFrom {} (simReadyRun ++ dialRun.take 5)).data := by
  have hready : Reaches step (fun d a => fresh d a ∧ expectationsKept d a) {}
      (runFrom {} (simReadyRun ++ dialRun.take 4)) :=
    @reaches_runFrom (fun d a => freshCheck d a && nothingExpected d a) _ _ _ (by decide) fun _ _ => kept_of_nothing
  refine expectations_owned (hready.tail (a := .loopDispatch {}) ⟨trivial, fun r _ => ?_⟩ rfl)
  exact fun _ _ _ _ _ _ _ => rfl

/-- The request is cancelled before its message is answered. -/
theorem expectations_owned_fails : ∃ d, Reachable d ∧ d = runFrom {} (simReadyRun ++ dialRun ++ [.cancel 1]) ∧
    ¬ExpectationsOwned d.data := by
  refine ⟨_, reachable_runFrom (by decide), rfl, fun h => ?_⟩
  have hnone : (runFrom {} (simReadyRun ++ dialRun ++ [.cancel 1])).data.fmtRequests = [] := by decide
  obtain ⟨f, hf, -⟩ := h ⟨0x01, .callOutgoing, none, true, false⟩ (by decide)
  rw [hnone] at hf
  exact absurd hf List.not_mem_nil

end Ril.Samsung
