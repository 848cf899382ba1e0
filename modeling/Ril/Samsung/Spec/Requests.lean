import Ril.Samsung.Spec.Fields
import Ril.Samsung.Spec.Ops

/-! The handlers of the requests as sequences of operations. -/

namespace Ril.Samsung

open Ril.Ipc Ril.Lib

def RilRequestCode.footprint : RilRequestCode → Footprint
  | radioPower => { messages := [(some .abort, .pwrPhoneState, .exec)] }
  | dial => { messages := [(some .complete, .callOutgoing, .exec)] }
  | hangup | hangupWaitingOrBackground | hangupForegroundResumeBackground =>
    { messages := [(some .complete, .callRelease, .exec)], data := [.hangup] }
  | answer => { messages := [(some .complete, .callAnswer, .exec)] }
  | lastCallFailCause => { data := [.lastCallFailCause] }
  | getCurrentCalls => { messages := [(none, .callList, .get)] }
  | dtmf => {
      messages := [(some (.callback .ipcCallContDtmf), .callContDtmf, .set), (some .abort, .callBurstDtmf, .exec)]
      data := [.dtmf, .dtmfStart] }
  | dtmfStart => {
      messages := [(some (.callback .ipcCallContDtmf), .callContDtmf, .set), (some .complete, .callContDtmf, .set)]
      data := [.dtmfStart] }
  | dtmfStop => { messages := [(some .complete, .callContDtmf, .set)], data := [.dtmfStart] }
  | sendSms | sendSmsExpectMore =>
    { messages := [(some .abort, .smsSendMsg, .exec), (none, .smsSvcCenterAddr, .get)], data := [.sendSms] }
  | writeSmsToSim => { messages := [(some .abort, .smsSaveMsg, .exec)] }
  | deleteSmsOnSim => { messages := [(some .abort, .smsDelMsg, .exec)] }
  | smsAcknowledge => { messages := [(some .abort, .smsDeliverReport, .exec)], data := [.smsAcknowledge] }
  | getSimStatus => { messages := [(none, .secPinStatus, .get)], data := [.getSimStatus] }
  | queryFacilityLock => { messages := [(none, .secPhoneLock, .get)] }
  | setFacilityLock => {
      messages := [(some (.callback .ipcSec), .secPinStatus, .set), (some (.callback .ipcSec), .secPhoneLock, .set)]
      data := [.setFacilityLock] }
  | enterSimPin => { messages := [(some (.callback .ipcSec), .secPinStatus, .set)], pin := true }
  | enterSimPuk | enterSimPin2 | enterSimPuk2 => { messages := [(some (.callback .ipcSec), .secPinStatus, .set)] }
  | changeSimPin | changeSimPin2 => { messages := [(some (.callback .ipcSec), .secChangeLockingPw, .set)] }
  | simIo => {
      messages := [(some (.callback .ipcSec), .secPinStatus, .set), (none, .secRsimAccess, .get)]
      data := [.simIo] }
  | signalStrength => { messages := [(none, .dispIconInfo, .get)] }
  | queryNetworkSelectionMode => { messages := [(none, .netPlmnSel, .get)] }
  | setNetworkSelectionAutomatic | setNetworkSelectionManual =>
    { messages := [(some (.callback .ipcNetPlmnSel), .netPlmnSel, .set)] }
  | operator => { messages := [(none, .netServingNetwork, .get)], data := [.operator] }
  | queryAvailableNetworks => { messages := [(none, .netPlmnList, .get)] }
  | voiceRegistrationState => { messages := [(none, .netRegist, .get)], data := [.voiceRegistrationState] }
  | dataRegistrationState => { messages := [(none, .netRegist, .get)], data := [.dataRegistrationState] }
  | getPreferredNetworkType => { messages := [(none, .netModeSel, .get)] }
  | setPreferredNetworkType => { messages := [(some .complete, .netModeSel, .set)] }
  | setMute => { messages := [(some .complete, .sndMicMuteCtrl, .set)] }
  | basebandVersion => { messages := [(none, .miscMeVersion, .get)] }
  | getImsi => { messages := [(none, .miscMeImsi, .get)] }
  | getImei | getImeisv => { messages := [(none, .miscMeSn, .get)] }
  | oemHookRaw => {
      messages := [(some .abort, .svcEnter, .set), (some .complete, .svcEnd, .set),
        (some .abort, .svcProKeycode, .set)]
      data := [.oemHookRaw] }
  | setupDataCall => {
      messages := [(some (.callback .ipcGprsDefinePdpContext), .gprsDefinePdpContext, .set)]
      connections := true }
  | deactivateDataCall => {
      messages := [(some (.callback .ipcGprsPdpContext), .gprsPdpContext, .set)]
      connections := true }
  | lastDataCallFailCause => { data := [.lastDataCallFailCause] }
  | dataCallList => { messages := [(none, .gprsPdpContext, .get)] }
  | screenState | other _ => {}

def RilRequestCode.waiting : RilRequestCode → Waiting
  | radioPower => ⟨.unavailable, [.radioPower]⟩
  | dtmf | dtmfStart => ⟨.simNotReady, [.dtmf, .dtmfStart, .dtmfStop]⟩
  | dtmfStop => ⟨.unavailable, [.dtmf, .dtmfStart, .dtmfStop]⟩
  | sendSms | sendSmsExpectMore => ⟨.simNotReady, [.sendSms]⟩
  | getSimStatus => ⟨.simNotReady, [.getSimStatus]⟩
  | setFacilityLock => ⟨.simReady, [.setFacilityLock]⟩
  | enterSimPin => ⟨.simNotReady, [.enterSimPin]⟩
  | enterSimPuk => ⟨.simNotReady, [.enterSimPuk]⟩
  | enterSimPin2 => ⟨.simNotReady, [.enterSimPin2]⟩
  | enterSimPuk2 => ⟨.simNotReady, [.enterSimPuk2]⟩
  | changeSimPin | changeSimPin2 => ⟨.simReady, [.changeSimPin]⟩
  | simIo => ⟨.simReady, [.simIo]⟩
  | operator => ⟨.simNotReady, [.operator]⟩
  | queryAvailableNetworks => ⟨.simNotReady, [.queryAvailableNetworks]⟩
  | voiceRegistrationState => ⟨.simNotReady, [.voiceRegistrationState]⟩
  | dataRegistrationState => ⟨.simNotReady, [.dataRegistrationState]⟩
  | basebandVersion => ⟨.simNotReady, [.basebandVersion]⟩
  | getImsi => ⟨.simReady, [.getImsi]⟩
  | getImei => ⟨.simNotReady, [.getImei]⟩
  | getImeisv => ⟨.simNotReady, [.getImeisv]⟩
  | oemHookRaw => ⟨.unavailable, [.oemHookRaw]⟩
  | setupDataCall => ⟨.unavailable, [.setupDataCall]⟩
  | deactivateDataCall => ⟨.simReady, [.deactivateDataCall]⟩
  | writeSmsToSim | smsAcknowledge | queryFacilityLock => ⟨.simReady, []⟩
  | dial | hangup | hangupWaitingOrBackground | hangupForegroundResumeBackground | answer
  | lastCallFailCause | signalStrength | queryNetworkSelectionMode | setNetworkSelectionAutomatic
  | setNetworkSelectionManual | getPreferredNetworkType | screenState | lastDataCallFailCause =>
    ⟨.simNotReady, []⟩
  | getCurrentCalls | deleteSmsOnSim | setPreferredNetworkType | setMute | dataCallList | other _ =>
    ⟨.unavailable, []⟩

variable (data : RilValue) (token : RilToken)

/-- The handler of a code keeps to what is stated for the code. -/
abbrev HandlerSpec (request : RilRequestCode) (m : RilM RilRequestStatus) : Prop :=
  RequestSpec request.footprint request.waiting token m

/-! ### Power and calls -/

lemma radio_power_spec : HandlerSpec token .radioPower (rilRequestRadioPower data token) := by
  unfold rilRequestRadioPower
  split
  · exact .whenNoneHandled rfl <| .of_settles <| .send (List.mem_singleton_self _)
  · exact .fail

lemma dial_spec : HandlerSpec token .dial (rilRequestDial data token) := by
  unfold rilRequestDial
  split
  · refine .whenRadioState rfl ?_
    split
    · exact .fail
    · exact .of_settles <| .send (List.mem_singleton_self _)
  · exact .fail

lemma hangup_spec {request : RilRequestCode}
    (hm : (some .complete, .callRelease, .exec) ∈ request.footprint.messages)
    (hd : .hangup ∈ request.footprint.data) (hw : request.waiting.radioState = .simNotReady) :
    HandlerSpec token request (rilRequestHangup data token) :=
  .whenRadioState hw <| .of_settles <| .bind (.dataSetUniq hd _) fun _ =>
    .transmit hm (.bind (.unsolicited _ _) fun _ => .pure) (.bind (.dataFree hd) fun _ => .fail)

lemma answer_spec : HandlerSpec token .answer (rilRequestAnswer data token) :=
  .whenRadioState rfl <| .of_settles <|
    .transmit (List.mem_singleton_self _) (.bind (.unsolicited _ _) fun _ => .pure) .fail

lemma last_call_fail_cause_spec :
    HandlerSpec token .lastCallFailCause (rilRequestLastCallFailCause data token) := by
  refine .whenRadioState rfl <| .of_settles <| .bind (.dataGet (List.mem_singleton_self _)) fun a => ?_
  split
  · exact .complete _ _
  · exact .fail

lemma get_current_calls_spec :
    HandlerSpec token .getCurrentCalls (rilRequestGetCurrentCalls data token) :=
  .of_settles <| .read fun _ => .ite (.send (List.mem_singleton_self _)) (.complete _ _)

lemma dtmf_spec : HandlerSpec token .dtmf (rilRequestDtmf data token) := by
  have hm : (some (.callback .ipcCallContDtmf), .callContDtmf, .set) ∈ RilRequestCode.dtmf.footprint.messages :=
    by decide
  have hb : (some .abort, .callBurstDtmf, .exec) ∈ RilRequestCode.dtmf.footprint.messages := by decide
  have hd : .dtmf ∈ RilRequestCode.dtmf.footprint.data := by decide
  unfold rilRequestDtmf
  split
  · refine .whenRadioState rfl <| .whenNoneHandled rfl <| .of_settles <|
      .bind (.dataGet (by decide)) fun a => ?_
    split
    · exact .bind (.dataSet hd _) fun _ =>
        .transmit_seq (fun _ => rfl) hm .pure (.bind (.dataFree hd) fun _ => .fail)
    · exact .transmit_seq (fun _ => rfl) hb .pure .fail
  · exact .fail

lemma dtmf_start_spec : HandlerSpec token .dtmfStart (rilRequestDtmfStart data token) := by
  have hm : (some (.callback .ipcCallContDtmf), .callContDtmf, .set) ∈
      RilRequestCode.dtmfStart.footprint.messages := by decide
  have hs : (some .complete, .callContDtmf, .set) ∈ RilRequestCode.dtmfStart.footprint.messages := by decide
  have hd : .dtmfStart ∈ RilRequestCode.dtmfStart.footprint.data := List.mem_singleton_self _
  unfold rilRequestDtmfStart
  split
  · refine .whenRadioState rfl <| .whenNoneHandled rfl <| .of_settles <| .bind (.dataGet hd) fun a => ?_
    split
    · exact .bind (.dataSet hd _) fun _ =>
        .transmit_seq (fun _ => rfl) hm .pure (.bind (.dataFree hd) fun _ => .fail)
    · exact .bind (.dataSet hd _) fun _ =>
        .transmit_seq (fun _ => rfl) hs .pure (.bind (.dataFree hd) fun _ => .fail)
  · exact .fail

lemma dtmf_stop_spec : HandlerSpec token .dtmfStop (rilRequestDtmfStop data token) :=
  .whenNoneHandled rfl <| .of_settles <| .bind (.dataGet (List.mem_singleton_self _)) fun _ =>
    .transmit_seq (fun _ => rfl) (List.mem_singleton_self _) .pure .fail

/-! ### Short messages -/

lemma seq_ne_of_valid {seq : UInt8} (h : ipcSeqValid seq = true) : seq ≠ 0xff := by
  rintro rfl
  exact absurd h (by decide)

lemma send_sms_complete_at_cases (seq : UInt8) (smsc pdu scanned : Bytes) :
    rilRequestSendSmsCompleteAt seq smsc pdu scanned = pure false ∨
      ∃ message, ipcSeqValid seq = true ∧
        ipcSmsSendMsgSetup ipcSmsTypeOutgoing (smsMsgType scanned) smsc pdu = some message ∧
        rilRequestSendSmsCompleteAt seq smsc pdu scanned = expectSend (some .abort) seq .smsSendMsg .exec message := by
  by_cases h : ipcSeqValid seq = true
  · cases hm : ipcSmsSendMsgSetup ipcSmsTypeOutgoing (smsMsgType scanned) smsc pdu with
    | none =>
      left
      rw [rilRequestSendSmsCompleteAt, if_pos h, hm]
    | some message =>
      right
      refine ⟨message, h, rfl, ?_⟩
      rw [rilRequestSendSmsCompleteAt, if_pos h, hm]
  · left
    rw [rilRequestSendSmsCompleteAt, if_neg h]

lemma send_sms_complete_cases (seq : UInt8) (smsc pdu : Bytes) :
    rilRequestSendSmsComplete seq smsc pdu = pure false ∨
      ∃ message, ipcSeqValid seq = true ∧
        ipcSmsSendMsgSetup ipcSmsTypeOutgoing (smsMsgType pdu) smsc pdu = some message ∧
        rilRequestSendSmsComplete seq smsc pdu = expectSend (some .abort) seq .smsSendMsg .exec message :=
  send_sms_complete_at_cases seq smsc pdu pdu

lemma transmit_request_of_seq {s : RilData} (h : (s.ipcFmtRequestSeq token).1 ≠ 0xff)
    (expect : Option ExpectKind) (command : IpcCommand) (type : IpcRequestType) (message : Bytes) :
    transmit (.request token) expect command type message (s.ipcFmtRequestSeq token).2 =
      expectSend expect (s.ipcFmtRequestSeq token).1 command type message (s.ipcFmtRequestSeq token).2 := by
  rw [transmit, bind_apply, Sender.seq, ipcFmtRequestSeq, RilData.ipcFmtRequestSeq_again h]

lemma send_sms_smsc_settles {F : Footprint} (hF : (some .abort, .smsSendMsg, .exec) ∈ F.messages)
    (smsc pdu scanned : Bytes) :
    Settles F token (do
      if ← rilRequestSendSmsCompleteAt (← ipcFmtRequestSeq token) smsc pdu scanned then
        return .handled
      else
        failSms token) := by
  have hf : Completes F token false (failSms token) := .completeRequest _ _
  intro s
  have hp (sent : Bool) : RequestPath F token sent s (s.ipcFmtRequestSeq token).2 :=
    Path.single (Op.requestSeq token) rfl
  rcases send_sms_complete_at_cases (s.ipcFmtRequestSeq token).1 smsc pdu scanned with h | ⟨message, hv, -, h⟩
  · right
    rw [bind_apply, ipcFmtRequestSeq, h]
    obtain ⟨hr, s', error, response, hp', hs⟩ := hf (s.ipcFmtRequestSeq token).2
    exact ⟨hr, s', error, response, (hp false).trans hp', hs⟩
  · have ht := transmit_request_of_seq token (seq_ne_of_valid hv) (some .abort) .smsSendMsg .exec message
    have hb : Settles F token (do
        if ← transmit (.request token) (some .abort) .smsSendMsg .exec message then
          return .handled
        else
          failSms token) := .transmit hF .pure hf
    have hs := hb (s.ipcFmtRequestSeq token).2
    rw [bind_apply, ht] at hs
    rw [bind_apply, ipcFmtRequestSeq, h]
    rcases hs with ⟨hr, hp'⟩ | ⟨hr, s', error, response, hp', hs⟩
    · exact .inl ⟨hr, (hp true).trans hp'⟩
    · exact .inr ⟨hr, s', error, response, (hp false).trans hp', hs⟩

lemma send_sms_spec {request : RilRequestCode} (hF : request.footprint = RilRequestCode.sendSms.footprint)
    (hw : request.waiting = RilRequestCode.sendSms.waiting) :
    HandlerSpec token request (rilRequestSendSms data token) := by
  have hp : (some .abort, .smsSendMsg, .exec) ∈ request.footprint.messages := by
    rw [hF]
    decide
  have hc : (none, .smsSvcCenterAddr, .get) ∈ request.footprint.messages := by
    rw [hF]
    decide
  have hd : .sendSms ∈ request.footprint.data := by
    rw [hF]
    decide
  have hf {m : Bool} : Completes request.footprint token m (failSms token) := .completeRequest _ _
  unfold rilRequestSendSms HandlerSpec
  rw [hw]
  split
  · refine .whenRadioState rfl <| .whenNoneHandled rfl <| .of_settles ?_
    split
    · exact .of_completes hf
    · exact send_sms_smsc_settles token hp _ _ _
    · exact .bind (.dataSetUniq hd _) fun _ => .transmit hc .pure (.bind (.dataFree hd) fun _ => hf)
  · exact .of_settles <| .of_completes hf

lemma write_sms_to_sim_spec : HandlerSpec token .writeSmsToSim (rilRequestWriteSmsToSim data token) := by
  unfold rilRequestWriteSmsToSim
  split
  · refine .whenRadioState rfl ?_
    split
    · exact .fail
    · split
      · exact .fail
      · exact .of_settles <| .send (List.mem_singleton_self _)
  · exact .fail

lemma delete_sms_on_sim_spec :
    HandlerSpec token .deleteSmsOnSim (rilRequestDeleteSmsOnSim data token) := by
  unfold rilRequestDeleteSmsOnSim
  split
  · exact .of_settles <| .ite .fail (.send (List.mem_singleton_self _))
  · exact .fail

lemma sms_acknowledge_spec : HandlerSpec token .smsAcknowledge (rilRequestSmsAcknowledge data token) := by
  unfold rilRequestSmsAcknowledge
  split
  · refine .whenRadioState rfl <| .of_settles <| .bind (.dataGet (List.mem_singleton_self _)) fun a => ?_
    split
    · exact .send (List.mem_singleton_self _)
    · exact .fail
  · exact .fail

/-! ### The SIM -/

lemma get_sim_status_spec : HandlerSpec token .getSimStatus (rilRequestGetSimStatus data token) := by
  refine .whenRadioState rfl <| .whenNoneHandled rfl <| .of_settles <|
    .bind (.dataGet (List.mem_singleton_self _)) fun a => ?_
  split
  · exact .bind (.dataGet (List.mem_singleton_self _)) fun _ => .complete _ _
  · exact .send (List.mem_singleton_self _)

lemma query_facility_lock_spec :
    HandlerSpec token .queryFacilityLock (rilRequestQueryFacilityLock data token) := by
  unfold rilRequestQueryFacilityLock
  split
  · exact .whenRadioState rfl <| .of_settles <| .ite .fail (.send (List.mem_singleton_self _))
  · exact .fail

lemma set_facility_lock_spec : HandlerSpec token .setFacilityLock (rilRequestSetFacilityLock data token) := by
  have hp : (some (.callback .ipcSec), .secPinStatus, .set) ∈ RilRequestCode.setFacilityLock.footprint.messages :=
    by decide
  have hl : (some (.callback .ipcSec), .secPhoneLock, .set) ∈ RilRequestCode.setFacilityLock.footprint.messages :=
    by decide
  have hd : .setFacilityLock ∈ RilRequestCode.setFacilityLock.footprint.data := List.mem_singleton_self _
  unfold rilRequestSetFacilityLock
  split
  · exact .whenRadioState rfl <| .whenNoneHandled rfl <| .of_settles <| .ite .fail <|
      .ite (.bind (.dataSetUniq hd _) fun _ => .transmit hp .pure (.bind (.dataFree hd) fun _ => .fail)) (.send hl)
  · exact .fail

lemma enter_sim_pin_spec : HandlerSpec token .enterSimPin (rilRequestEnterSimPin data token) := by
  unfold rilRequestEnterSimPin
  split
  · refine .whenRadioState rfl <| .whenNoneHandled rfl <| .of_settles ?_
    split
    · exact .fail
    · exact .bind (Performs.modify (Op.pinCache _) fun _ => rfl) fun _ => .send (List.mem_singleton_self _)
  · exact .fail

lemma enter_sim_pin_puk_spec {request : RilRequestCode} (type : UInt8) (pin1 pin2 : Option CString)
    (hm : (some (.callback .ipcSec), .secPinStatus, .set) ∈ request.footprint.messages)
    (hw : request.waiting = ⟨.simNotReady, [request]⟩) :
    HandlerSpec token request (enterSimPinPuk request type pin1 pin2 token) := by
  unfold HandlerSpec
  rw [hw]
  exact .whenRadioState rfl <| .whenNoneHandled rfl <| .of_settles <| .send hm

lemma enter_sim_puk_spec : HandlerSpec token .enterSimPuk (rilRequestEnterSimPuk data token) := by
  unfold rilRequestEnterSimPuk
  split
  · exact enter_sim_pin_puk_spec token _ _ _ (List.mem_singleton_self _) rfl
  · exact .fail

lemma enter_sim_pin2_spec : HandlerSpec token .enterSimPin2 (rilRequestEnterSimPin2 data token) := by
  unfold rilRequestEnterSimPin2
  split
  · exact enter_sim_pin_puk_spec token _ _ _ (List.mem_singleton_self _) rfl
  · exact .fail

lemma enter_sim_puk2_spec : HandlerSpec token .enterSimPuk2 (rilRequestEnterSimPuk2 data token) := by
  unfold rilRequestEnterSimPuk2
  split
  · exact enter_sim_pin_puk_spec token _ _ _ (List.mem_singleton_self _) rfl
  · exact .fail

lemma change_sim_pin_spec : HandlerSpec token .changeSimPin (rilRequestChangeSimPin data token) := by
  unfold rilRequestChangeSimPin
  split
  · exact .whenNoneHandled rfl <| .whenRadioState rfl <| .of_settles <| .send (List.mem_singleton_self _)
  · exact .fail

lemma change_sim_pin2_spec : HandlerSpec token .changeSimPin2 (rilRequestChangeSimPin2 data token) := by
  unfold rilRequestChangeSimPin2
  split
  · exact .whenNoneHandled rfl <| .whenRadioState rfl <| .of_settles <| .send (List.mem_singleton_self _)
  · exact .fail

lemma sim_io_spec : HandlerSpec token .simIo (rilRequestSimIo data token) := by
  have hp : (some (.callback .ipcSec), .secPinStatus, .set) ∈ RilRequestCode.simIo.footprint.messages := by decide
  have hr : (none, .secRsimAccess, .get) ∈ RilRequestCode.simIo.footprint.messages := by decide
  have hd : .simIo ∈ RilRequestCode.simIo.footprint.data := List.mem_singleton_self _
  unfold rilRequestSimIo
  split
  · refine .whenRadioState rfl <| .whenNoneHandled rfl <| .of_settles ?_
    split
    · exact .fail
    · split
      · exact .bind (.dataSetUniq hd _) fun _ => .transmit hp .pure (.bind (.dataFree hd) fun _ => .fail)
      · exact .send hr
  · exact .fail

/-! ### The network and the phone -/

section

variable {request : RilRequestCode} {radioState : RilRadioState} {command : IpcCommand}

lemma get_request_spec (message : Bytes) (hm : (none, command, .get) ∈ request.footprint.messages)
    (hw : request.waiting.radioState = radioState) :
    HandlerSpec token request (getRequest radioState command message token) :=
  .whenRadioState hw <| .of_settles <| .send hm

lemma get_request_alone_spec (message : Bytes) (hm : (none, command, .get) ∈ request.footprint.messages)
    (hw : request.waiting = ⟨radioState, [request]⟩) :
    HandlerSpec token request (getRequestAlone radioState request command message token) := by
  unfold HandlerSpec
  rw [hw]
  exact .whenRadioState rfl <| .whenNoneHandled rfl <| .of_settles <| .send hm

lemma cached_strings_spec (message : Bytes) (hm : (none, command, .get) ∈ request.footprint.messages)
    (hd : request ∈ request.footprint.data) (hw : request.waiting = ⟨.simNotReady, [request]⟩) :
    HandlerSpec token request (cachedStrings request command message token) := by
  unfold HandlerSpec
  rw [hw]
  refine .whenRadioState rfl <| .whenNoneHandled rfl <| .of_settles <| .bind (.dataGet hd) fun a => ?_
  split
  · exact .complete _ _
  · exact .send hm

lemma serial_number_request_spec (other : RilRequestCode)
    (hm : (none, .miscMeSn, .get) ∈ request.footprint.messages)
    (hw : request.waiting = ⟨.simNotReady, [request]⟩) :
    HandlerSpec token request (serialNumberRequest request other token) := by
  unfold HandlerSpec
  rw [hw]
  exact .whenRadioState rfl <| .whenNoneHandled rfl <| .of_settles <| .read fun _ =>
    .ite (.of_handles .pure) (.send hm)

end

lemma set_network_selection_automatic_spec :
    HandlerSpec token .setNetworkSelectionAutomatic (rilRequestSetNetworkSelectionAutomatic data token) :=
  .whenRadioState rfl <| .of_settles <| .send (List.mem_singleton_self _)

lemma set_network_selection_manual_spec :
    HandlerSpec token .setNetworkSelectionManual (rilRequestSetNetworkSelectionManual data token) := by
  unfold rilRequestSetNetworkSelectionManual
  split
  · exact .whenRadioState rfl <| .of_settles <| .send (List.mem_singleton_self _)
  · exact .fail

lemma set_preferred_network_type_spec :
    HandlerSpec token .setPreferredNetworkType (rilRequestSetPreferredNetworkType data token) := by
  unfold rilRequestSetPreferredNetworkType
  split
  · exact .of_settles <| .ite (.complete _ _) (.send (List.mem_singleton_self _))
  · exact .fail

lemma set_mute_spec : HandlerSpec token .setMute (rilRequestSetMute data token) := by
  unfold rilRequestSetMute
  split
  · exact .of_settles <| .send (List.mem_singleton_self _)
  · exact .fail

lemma screen_state_spec : HandlerSpec token .screenState (rilRequestScreenState data token) := by
  unfold rilRequestScreenState
  split
  · exact .whenRadioState rfl <| .of_settles <|
      .ite (.bind (.unsolicited _ _) fun _ => .complete _ _) (.complete _ _)
  · exact .fail

/-! ### Service mode -/

section

variable {F : Footprint} {w : Waiting} (hd : .oemHookRaw ∈ F.data)

include hd

lemma fail_oem_hook_raw_completes (sent : Bool) : Completes F token sent (failOemHookRaw token) :=
  .bind (.dataFree hd) fun _ => .fail

lemma send_oem_hook_raw_settles {expect : ExpectKind} {command : IpcCommand} (message : Bytes)
    (hm : (some expect, command, .set) ∈ F.messages) :
    Settles F token (sendOemHookRaw token expect command message) :=
  .transmit hm .pure (fail_oem_hook_raw_completes token hd false)

lemma query_oem_hook_raw_settles : Settles F token (queryOemHookRaw token) := by
  refine .bind (.dataGet hd) fun a => ?_
  split
  · exact .complete _ _
  · exact .complete _ _

end

lemma oem_hook_raw_spec : HandlerSpec token .oemHookRaw (rilRequestOemHookRaw data token) := by
  have hd : .oemHookRaw ∈ RilRequestCode.oemHookRaw.footprint.data := List.mem_singleton_self _
  have hf : Settles RilRequestCode.oemHookRaw.footprint token (failOemHookRaw token) :=
    .of_completes (fail_oem_hook_raw_completes token hd false)
  refine .read fun s => ?_
  split
  · refine .whenNoneHandled rfl <| .of_settles <| .ite hf <| .ite ?_ <| .ite ?_ <| .ite ?_ hf
    · split
      · exact .ite (query_oem_hook_raw_settles token hd) (send_oem_hook_raw_settles token hd _ (by decide))
      · exact hf
    · split
      · exact .transmit (by decide) (.bind (.setSvcSession _) fun _ => .bind (.dataFree hd) fun _ => .pure)
          (fail_oem_hook_raw_completes token hd false)
      · exact hf
    · split
      · exact .ite (query_oem_hook_raw_settles token hd)
          (.ite (send_oem_hook_raw_settles token hd _ (by decide)) hf)
      · exact hf
  · exact .of_settles hf

/-! ### Packet data -/

section

open RilData

@[simp] lemma dataConnections_heapUse (b : ℕ) (s : RilData) :
    (s.heapUse b).dataConnections = s.dataConnections := rfl

@[simp] lemma dataConnections_heapFree (b : ℕ) (s : RilData) :
    (s.heapFree b).dataConnections = s.dataConnections := rfl

@[simp] lemma withoutConnections_heapUse (b : ℕ) (s : RilData) :
    (s.heapUse b).withoutConnections = s.withoutConnections := rfl

@[simp] lemma withoutConnections_heapFree (b : ℕ) (s : RilData) :
    (s.heapFree b).withoutConnections = s.withoutConnections := rfl

@[simp] lemma withoutConnections_heapAlloc (s : RilData) :
    s.heapAlloc.withoutConnections = s.withoutConnections := rfl

@[simp] lemma withoutConnections_freeString (string : Option HeapString) (s : RilData) :
    (s.freeString string).withoutConnections = s.withoutConnections := by
  cases string <;> rfl

@[simp] lemma withoutConnections_update (record : ℕ) (f : RilDataConnection → RilDataConnection)
    (s : RilData) : (s.dataConnectionUpdate record f).withoutConnections = s.withoutConnections := rfl

@[simp] lemma withoutConnections_unregister (record : ℕ) (s : RilData) :
    (s.dataConnectionUnregister record).withoutConnections = s.withoutConnections := by
  rw [dataConnectionUnregister]
  split
  · rfl
  · rfl

@[simp] lemma withoutConnections_stop (record : ℕ) (s : RilData) :
    (s.dataConnectionStop record).withoutConnections = s.withoutConnections := by
  rw [dataConnectionStop]
  split
  · simp
  · simp

end

section

variable {F : Footprint} (hF : F.connections = true)

include hF

lemma strdup_quiet (value : CString) : QuietProgram F (strdup value) :=
  .connections hF fun _ => rfl

lemma strdup_option_quiet (value : Option CString) : QuietProgram F (strdupOption value) := by
  cases value with
  | none => exact .pure _
  | some value => exact .bind (strdup_quiet hF value) fun _ => .pure _

lemma free_quiet (string : Option HeapString) : QuietProgram F (free string) :=
  .connections hF (withoutConnections_freeString string)

lemma data_connection_update_quiet (record : ℕ) (f : RilDataConnection → RilDataConnection) :
    QuietProgram F (modify (RilData.dataConnectionUpdate record f)) :=
  .connections hF (withoutConnections_update record f)

lemma data_connection_stop_quiet (record : ℕ) : QuietProgram F (rilDataConnectionStop record) :=
  .connections hF (withoutConnections_stop record)

lemma data_connection_start_quiet (apn : HeapString) (username password : Option HeapString) :
    QuietProgram F (rilDataConnectionStart apn username password) := by
  refine .read fun s => .ite (fun _ => .pure _) fun _ => ?_
  split
  · exact .pure _
  · split
    · exact .pure _
    · split
      · exact .pure _
      · refine .bind (strdup_quiet hF _) fun iface => .bind (QuietProgram.connections hF fun _ => rfl) fun _ => .read fun s => ?_
        split
        · exact .bind (free_quiet hF _) fun _ => .pure _
        · exact .pure _

lemma data_connection_enable_quiet (c : RilDataConnection) : QuietProgram F (rilDataConnectionEnable c) :=
  .read fun _ => .ite (fun _ => .pure _) fun _ => .ite (fun _ => .pure _) fun _ =>
    .ite (fun _ => .pure _) fun _ => .bind (data_connection_update_quiet hF _ _) fun _ => .pure _

lemma data_connection_disable_quiet (c : RilDataConnection) : QuietProgram F (rilDataConnectionDisable c) := by
  refine .read fun s => ?_
  split
  · exact .pure _
  · exact .ite (fun _ => .pure _) fun _ => .ite (fun _ => .pure _) fun _ => .ite (fun _ => .pure _) fun _ =>
      .ite (fun _ => .pure _) fun _ => .bind (data_connection_update_quiet hF _ _) fun _ => .pure _

end

lemma setup_data_call_spec : HandlerSpec token .setupDataCall (rilRequestSetupDataCall data token) := by
  have hF : RilRequestCode.setupDataCall.footprint.connections = true := rfl
  unfold rilRequestSetupDataCall
  split
  · refine .read fun _ => .ite (.whenNoneHandled rfl <| .of_settles ?_) (.of_settles <| .complete _ _)
    split
    · exact .fail
    · refine .bind (strdup_quiet hF _) fun apn => .bind (strdup_option_quiet hF _) fun username =>
        .bind (strdup_option_quiet hF _) fun password => .bind (data_connection_start_quiet hF _ _ _) fun a => ?_
      split
      · exact .bind (free_quiet hF _) fun _ => .bind (free_quiet hF _) fun _ =>
          .bind (free_quiet hF _) fun _ => .fail
      · exact .bind (data_connection_update_quiet hF _ _) fun _ =>
          .transmit (List.mem_singleton_self _) .pure (.bind (data_connection_stop_quiet hF _) fun _ => .fail)
  · exact .fail

lemma deactivate_data_call_spec :
    HandlerSpec token .deactivateDataCall (rilRequestDeactivateDataCall data token) := by
  have hF : RilRequestCode.deactivateDataCall.footprint.connections = true := rfl
  unfold rilRequestDeactivateDataCall
  split
  · refine .whenRadioState rfl <| .whenNoneHandled rfl <| .of_settles ?_
    split
    · exact .fail
    · refine .read fun s => ?_
      split
      · exact .fail
      · exact .bind (data_connection_update_quiet hF _ _) fun _ =>
          .transmit (List.mem_singleton_self _) .pure (.bind (data_connection_stop_quiet hF _) fun _ => .fail)
  · exact .fail

lemma last_data_call_fail_cause_spec :
    HandlerSpec token .lastDataCallFailCause (rilRequestLastDataCallFailCause data token) := by
  refine .whenRadioState rfl <| .of_settles <| .bind (.dataGet (List.mem_singleton_self _)) fun a => ?_
  split
  · exact .complete _ _
  · exact .complete _ _

lemma data_call_list_spec : HandlerSpec token .dataCallList (rilRequestDataCallList data token) :=
  .of_settles <| .read fun _ => .ite (.send (List.mem_singleton_self _)) (.complete _ _)

/-! ### All requests -/

lemma request_handler_spec {request : RilRequestCode} {handler : RilValue → RilToken → RilM RilRequestStatus}
    (h : rilRequestHandler request = some handler) : HandlerSpec token request (handler data token) := by
  cases request with
  | radioPower => obtain rfl := Option.some.inj h; exact radio_power_spec data token
  | dial => obtain rfl := Option.some.inj h; exact dial_spec data token
  | hangup => obtain rfl := Option.some.inj h; exact hangup_spec data token (List.mem_singleton_self _) (List.mem_singleton_self _) rfl
  | hangupWaitingOrBackground => obtain rfl := Option.some.inj h; exact hangup_spec data token (List.mem_singleton_self _) (List.mem_singleton_self _) rfl
  | hangupForegroundResumeBackground => obtain rfl := Option.some.inj h; exact hangup_spec data token (List.mem_singleton_self _) (List.mem_singleton_self _) rfl
  | answer => obtain rfl := Option.some.inj h; exact answer_spec data token
  | lastCallFailCause => obtain rfl := Option.some.inj h; exact last_call_fail_cause_spec data token
  | getCurrentCalls => obtain rfl := Option.some.inj h; exact get_current_calls_spec data token
  | dtmf => obtain rfl := Option.some.inj h; exact dtmf_spec data token
  | dtmfStart => obtain rfl := Option.some.inj h; exact dtmf_start_spec data token
  | dtmfStop => obtain rfl := Option.some.inj h; exact dtmf_stop_spec data token
  | sendSms => obtain rfl := Option.some.inj h; exact send_sms_spec data token rfl rfl
  | sendSmsExpectMore => obtain rfl := Option.some.inj h; exact send_sms_spec data token rfl rfl
  | writeSmsToSim => obtain rfl := Option.some.inj h; exact write_sms_to_sim_spec data token
  | deleteSmsOnSim => obtain rfl := Option.some.inj h; exact delete_sms_on_sim_spec data token
  | smsAcknowledge => obtain rfl := Option.some.inj h; exact sms_acknowledge_spec data token
  | getSimStatus => obtain rfl := Option.some.inj h; exact get_sim_status_spec data token
  | queryFacilityLock => obtain rfl := Option.some.inj h; exact query_facility_lock_spec data token
  | setFacilityLock => obtain rfl := Option.some.inj h; exact set_facility_lock_spec data token
  | enterSimPin => obtain rfl := Option.some.inj h; exact enter_sim_pin_spec data token
  | enterSimPuk => obtain rfl := Option.some.inj h; exact enter_sim_puk_spec data token
  | enterSimPin2 => obtain rfl := Option.some.inj h; exact enter_sim_pin2_spec data token
  | enterSimPuk2 => obtain rfl := Option.some.inj h; exact enter_sim_puk2_spec data token
  | changeSimPin => obtain rfl := Option.some.inj h; exact change_sim_pin_spec data token
  | changeSimPin2 => obtain rfl := Option.some.inj h; exact change_sim_pin2_spec data token
  | simIo => obtain rfl := Option.some.inj h; exact sim_io_spec data token
  | signalStrength => obtain rfl := Option.some.inj h; exact get_request_spec token _ (List.mem_singleton_self _) rfl
  | queryNetworkSelectionMode => obtain rfl := Option.some.inj h; exact get_request_spec token _ (List.mem_singleton_self _) rfl
  | setNetworkSelectionAutomatic => obtain rfl := Option.some.inj h; exact set_network_selection_automatic_spec data token
  | setNetworkSelectionManual => obtain rfl := Option.some.inj h; exact set_network_selection_manual_spec data token
  | operator => obtain rfl := Option.some.inj h; exact cached_strings_spec token _ (List.mem_singleton_self _) (List.mem_singleton_self _) rfl
  | queryAvailableNetworks => obtain rfl := Option.some.inj h; exact get_request_alone_spec token _ (List.mem_singleton_self _) rfl
  | voiceRegistrationState => obtain rfl := Option.some.inj h; exact cached_strings_spec token _ (List.mem_singleton_self _) (List.mem_singleton_self _) rfl
  | dataRegistrationState => obtain rfl := Option.some.inj h; exact cached_strings_spec token _ (List.mem_singleton_self _) (List.mem_singleton_self _) rfl
  | getPreferredNetworkType => obtain rfl := Option.some.inj h; exact get_request_spec token _ (List.mem_singleton_self _) rfl
  | setPreferredNetworkType => obtain rfl := Option.some.inj h; exact set_preferred_network_type_spec data token
  | setMute => obtain rfl := Option.some.inj h; exact set_mute_spec data token
  | basebandVersion => obtain rfl := Option.some.inj h; exact get_request_alone_spec token _ (List.mem_singleton_self _) rfl
  | getImsi => obtain rfl := Option.some.inj h; exact get_request_alone_spec token _ (List.mem_singleton_self _) rfl
  | getImei => obtain rfl := Option.some.inj h; exact serial_number_request_spec token _ (List.mem_singleton_self _) rfl
  | getImeisv => obtain rfl := Option.some.inj h; exact serial_number_request_spec token _ (List.mem_singleton_self _) rfl
  | screenState => obtain rfl := Option.some.inj h; exact screen_state_spec data token
  | oemHookRaw => obtain rfl := Option.some.inj h; exact oem_hook_raw_spec data token
  | setupDataCall => obtain rfl := Option.some.inj h; exact setup_data_call_spec data token
  | deactivateDataCall => obtain rfl := Option.some.inj h; exact deactivate_data_call_spec data token
  | lastDataCallFailCause => obtain rfl := Option.some.inj h; exact last_data_call_fail_cause_spec data token
  | dataCallList => obtain rfl := Option.some.inj h; exact data_call_list_spec data token
  | other code => cases h

end Ril.Samsung
