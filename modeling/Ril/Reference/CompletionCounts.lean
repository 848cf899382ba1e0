import Ril.Reference.RadioRuns

/-! How often the handlers of the reference RIL complete their request. -/

namespace Ril.Reference

open Lib
open Ril.Libril (RequestData)

def RefRecord.isCompleted : RefRecord → Bool
  | .completed _ _ => true
  | _ => false

def RefRil.completions (d : RefRil) : ℕ := d.log.countP RefRecord.isCompleted

variable {α β : Type} {may : Prop} {k : ℕ} {m n : RefM α} {f : α → RefM β}

/-- The program completes its request `k` times, and where it goes to the label `error`, as it may, not yet. -/
def Counted (may : Prop) (k : ℕ) (m : RefM α) : Prop :=
  ∀ c, Outcome (fun d => d.completions = c) m (fun _ d => d.completions = c + k) fun e d =>
    e = .error → may ∧ d.completions = c

namespace Counted

lemma pure {a : α} : Counted may 0 (pure a) := fun _ => Outcome.pure fun _ h => h

lemma error (h : may) : Counted may k (throw .error : RefM α) := fun _ => Outcome.throw fun _ hs _ => ⟨h, hs⟩

lemma undefined : Counted may k (throw .undefined : RefM α) := fun _ => Outcome.throw fun _ _ h => by cases h

lemma bind (hm : Counted may 0 m) (hf : ∀ a, Counted may k (f a)) : Counted may k (m >>= f) :=
  fun c => (hm c).bind fun a => hf a c

/-- What comes behind the completion does not go to the label `error`. -/
lemma bind_last (hm : Counted may k m) (hf : ∀ a, Counted False 0 (f a)) : Counted may k (m >>= f) :=
  fun c => (hm c).bind fun a => (hf a (c + k)).mono (fun _ h => h) (fun _ _ h => h) fun _ _ h he => (h he).1.elim

lemma read {f : RefRil → RefM β} (hf : ∀ d, Counted may k (f d)) : Counted may k ((get : RefM RefRil) >>= f) :=
  fun c => Outcome.read fun s hs => (hf s c).weaken fun _ ht => ht ▸ hs

lemma modify {g : RefRil → RefRil} (h : ∀ d, (g d).completions = d.completions) :
    Counted may 0 (modify g : RefM PUnit) := fun _ => Outcome.modify fun s hs => (h s).trans hs

lemma ite {c : Prop} [Decidable c] (hm : c → Counted may k m) (hn : ¬c → Counted may k n) :
    Counted may k (if c then m else n) :=
  fun t => Outcome.ite (fun h => hm h t) fun h => hn h t

lemma map {g : α → β} (h : Counted may k m) : Counted may k (g <$> m) := by
  rw [map_eq_pure_bind]
  intro c
  exact (h c).bind fun a => Outcome.pure fun _ hs => hs

lemma onError {handler rest : RefM Unit} (hh : Counted True k handler) (hr : Counted may k rest) :
    Counted may k (onError handler rest) := by
  intro c s hs
  have hends := hh c s hs
  rw [Reference.onError]
  generalize handler s = r at hends
  cases hends with
  | ok h => exact .ok h
  | @error e t h =>
    cases e with
    | error => exact hr c t (h rfl).2
    | undefined => exact .error fun he => by cases he

end Counted

/-! ### The parts of the handlers -/

variable {env : RefEnv} {renv : RequestEnv} {data : RequestData}

lemma record_counted {r : RefRecord} (h : r.isCompleted = false) : Counted may 0 (record r) := by
  refine Counted.modify fun d => List.countP_cons_of_neg ?_
  rw [h]
  exact Bool.false_ne_true

lemma complete_counted (e : Samsung.RilErrno) (response : RefResponse) :
    Counted may 1 (onRequestComplete e response) := by
  refine fun c => Outcome.modify fun d hd => ?_
  exact (List.countP_cons_of_pos rfl).trans (congrArg (· + 1) hd)

lemma deref_counted (p : Option α) : Counted may 0 (deref p) := by
  cases p with
  | none => exact Counted.undefined
  | some a => exact Counted.pure

lemma or_error_counted (p : Option α) : Counted True 0 (orError p) := by
  cases p with
  | none => exact Counted.error trivial
  | some a => exact Counted.pure

lemma except_counted (x : Except RefStop α) : Counted True 0 (liftExcept x : RefM α) := by
  cases x with
  | ok a => exact Counted.pure
  | error e =>
    cases e with
    | error => exact Counted.error trivial
    | undefined => exact Counted.undefined

lemma tokens_counted (t : Tok α) (line : Bytes) : Counted True 0 (tokens t line) := or_error_counted _

lemma tokens_at_counted (t : Tok α) (cur : Option Bytes) : Counted True 0 (tokensAt t cur) := or_error_counted _

lemma first_line_counted (response : AtResponse) : Counted may 0 (firstLine response) := deref_counted _

lemma assert_counted {asserts : Bool} {c : Prop} [Decidable c] : Counted may 0 (assert asserts c) :=
  Counted.ite (fun _ => Counted.undefined) fun _ => Counted.pure

lemma int_at_counted (i : ℕ) : Counted may 0 (intAt data i) := deref_counted _

lemma string_at_counted (i : ℕ) : Counted may 0 (stringAt data i) := deref_counted _

lemma int_field_counted (name : Libril.Parameter) : Counted may 0 (intField data name) := by
  rw [intField]
  split
  · exact Counted.pure
  · exact Counted.undefined

lemma string_field_counted (name : Libril.Parameter) : Counted may 0 (stringField data name) := by
  rw [stringField]
  split
  · exact Counted.pure
  · exact Counted.undefined

lemma command_counted (c : AtCommand) : Counted may 0 (atSendCommandFull env c) := by
  intro t s hs
  exact .ok ((List.countP_cons_of_neg Bool.false_ne_true).trans hs)

lemma singleline_counted (command responsePrefix : Bytes) :
    Counted may 0 (atSendCommandSingleline env command responsePrefix) := (command_counted _).map

lemma numeric_counted (command : Bytes) : Counted may 0 (atSendCommandNumeric env command) := (command_counted _).map

lemma sms_counted (command pdu responsePrefix : Bytes) :
    Counted may 0 (atSendCommandSms env command pdu responsePrefix) := (command_counted _).map

lemma send_only_counted (command : Bytes) : Counted may 0 (atSendCommandOnly env command) :=
  (command_counted _).bind fun _ => Counted.pure

lemma send_all_counted (commands : List Bytes) : Counted may 0 (sendAll env commands) := by
  induction commands with
  | nil => exact Counted.pure
  | cons command commands ih => exact (send_only_counted command).bind fun _ => ih

lemma modify_at_counted (xs : List α) (i : ℕ) (g : α → α) : Counted may 0 (modifyAt xs i g) :=
  (deref_counted _).bind fun _ => Counted.pure

/-! ### Calls -/

lemma read_calls_counted (lines : List Bytes) (i : ℕ) (calls : List RefCall) :
    Counted may 0 (readCalls env lines i calls) := by
  induction lines generalizing i calls with
  | nil => exact Counted.pure
  | cons line lines ih => exact (deref_counted _).bind fun _ => ih _ _

lemma current_calls_counted : Counted may 1 (requestGetCurrentCalls env) := by
  refine (command_counted _).bind fun r => ?_
  split
  · exact complete_counted _ _
  · refine (read_calls_counted _ _ _).bind fun valid => (complete_counted _ _).bind_last fun _ => ?_
    exact Counted.ite (fun _ => record_counted rfl) fun _ => Counted.pure

lemma send_and_complete_counted (command : Bytes) : Counted may 1 (sendAndComplete env command) :=
  (send_only_counted _).bind fun _ => complete_counted _ _

lemma dial_counted : Counted may 1 (requestDial env data) :=
  (int_field_counted _).bind fun _ => (string_field_counted _).bind fun _ => send_and_complete_counted _

lemma hangup_counted : Counted may 1 (requestHangup env data) :=
  (int_at_counted _).bind fun _ => send_and_complete_counted _

lemma separate_connection_counted : Counted may 1 (requestSeparateConnection env data) :=
  (int_at_counted _).bind fun _ => Counted.ite (fun _ => send_and_complete_counted _) fun _ => complete_counted _ _

lemma dtmf_counted : Counted may 1 (requestDtmf env data) := by
  refine Counted.bind ?_ fun c => send_and_complete_counted _
  rw [firstChar.eq_def]
  split
  · exact Counted.pure
  · exact Counted.undefined

/-! ### Data calls -/

lemma read_contexts_counted (lines : List Bytes) (i : ℕ) (responses : List RefDataCall) :
    Counted True 0 (readContexts renv lines i responses) := by
  induction lines generalizing i responses with
  | nil => exact Counted.pure
  | cons line lines ih =>
    exact (tokens_counted _ _).bind fun r => (modify_at_counted _ _ _).bind fun responses => ih _ _

lemma read_details_counted (lines : List Bytes) (responses : List RefDataCall) :
    Counted True 0 (readDetails renv lines responses) := by
  induction lines generalizing responses with
  | nil => exact Counted.pure
  | cons line lines ih =>
    refine (tokens_counted _ _).bind fun r => ?_
    dsimp only
    split
    · exact ih _
    · refine (tokens_at_counted _ _).bind fun r => (deref_counted _).bind fun _ => (deref_counted _).bind fun _ => ?_
      exact (modify_at_counted _ _ _).bind fun responses => ih _

lemma data_call_list_counted : Counted may 1 (requestDataCallList renv) := by
  refine Counted.onError ?_ (complete_counted _ _)
  refine (command_counted _).bind fun _ => (or_error_counted _).bind fun contexts => ?_
  refine (read_contexts_counted _ _ _).bind fun responses => (command_counted _).bind fun _ => ?_
  refine (or_error_counted _).bind fun details => (read_details_counted _ _).bind fun responses => ?_
  exact complete_counted _ _

lemma setup_by_commands_counted (apn : Option Bytes) : Counted True 0 (setupByCommands renv data apn) := by
  have htype : Counted True 0 (pdpType data) := Counted.ite (fun _ => (string_at_counted _).map) fun _ => Counted.pure
  refine htype.bind fun _ => (send_all_counted _).bind fun _ => (command_counted _).bind fun _ => ?_
  exact (or_error_counted _).bind fun _ => Counted.pure

lemma setup_data_call_counted : Counted may 1 (requestSetupDataCall renv data) := by
  refine Counted.onError ?_ (complete_counted _ _)
  refine (string_at_counted _).bind fun apn => ?_
  cases renv.qmi with
  | none => exact (setup_by_commands_counted apn).bind fun _ => data_call_list_counted
  | some qmi =>
    have hqmi : Counted True 0 (setupByQmi qmi apn) :=
      Counted.ite (fun _ => Counted.error trivial) fun _ => Counted.pure
    exact hqmi.bind fun _ => data_call_list_counted

/-! ### SMS messages -/

lemma write_sms_counted : Counted may 1 (requestWriteSmsToSim env data) := by
  refine Counted.onError ?_ (complete_counted _ _)
  refine (string_field_counted _).bind fun _ => (deref_counted _).bind fun _ => (int_field_counted _).bind fun _ => ?_
  exact (sms_counted _ _ _).bind fun _ => (or_error_counted _).bind fun _ => complete_counted _ _

lemma delete_sms_counted : Counted may 1 (requestDeleteSmsOnSim env data) := by
  refine Counted.onError ?_ (complete_counted _ _)
  refine (int_at_counted _).bind fun _ => (command_counted _).bind fun _ => ?_
  exact (or_error_counted _).bind fun _ => complete_counted _ _

lemma cdma_send_sms_counted : Counted may 1 (requestCdmaSendSMS data) :=
  (int_field_counted _).bind fun _ => complete_counted _ _

lemma send_sms_counted : Counted may 1 (requestSendSMS env data) := by
  refine Counted.read fun d => Counted.ite (fun _ => complete_counted _ _) fun _ => ?_
  refine Counted.ite (fun _ => complete_counted _ _) fun _ => Counted.onError ?_ (complete_counted _ _)
  refine (string_at_counted _).bind fun _ => (string_at_counted _).bind fun _ => (deref_counted _).bind fun _ => ?_
  exact (sms_counted _ _ _).bind fun _ => (or_error_counted _).bind fun _ => complete_counted _ _

lemma ims_send_sms_counted : Counted may 1 (requestImsSendSMS env data) := by
  refine Counted.read fun d => Counted.ite (fun _ => complete_counted _ _) fun _ => ?_
  split
  · refine Counted.ite (fun _ => complete_counted _ _) fun _ => Counted.ite (fun _ => send_sms_counted) fun _ => ?_
    exact Counted.ite (fun _ => cdma_send_sms_counted) fun _ => complete_counted _ _
  · exact Counted.undefined

/-! ### The network -/

lemma network_selection_counted : Counted may 1 (requestQueryNetworkSelectionMode env) := by
  refine Counted.onError ?_ (complete_counted _ _)
  refine (singleline_counted _ _).bind fun _ => (or_error_counted _).bind fun _ => (first_line_counted _).bind fun _ => ?_
  exact (tokens_counted _ _).bind fun _ => complete_counted _ _

lemma numeric_request_counted (command : Bytes) : Counted may 1 (requestNumeric env command) := by
  refine (numeric_counted _).bind fun r => ?_
  split
  · exact complete_counted _ _
  · exact (first_line_counted _).bind fun _ => complete_counted _ _

lemma read_operator_counted (lines : List Bytes) (i : ℕ) (response : List (Option Bytes)) :
    Counted True 0 (readOperator env lines i response) := by
  induction lines generalizing i response with
  | nil => exact Counted.pure
  | cons line lines ih =>
    refine (tokens_counted _ _).bind fun cur => ?_
    split
    · exact (modify_at_counted _ _ _).bind fun _ => ih _ _
    · refine (tokens_at_counted _ _).bind fun name => (modify_at_counted _ _ _).bind fun response => ?_
      refine (deref_counted _).bind fun name => Counted.ite (fun _ => ?_) fun _ => ih _ _
      refine (Counted.modify fun d => ?_).bind fun _ => ih _ _
      rw [scanMccMnc]
      split
      · rfl
      · split
        · rfl
        · rfl

lemma operator_counted : Counted may 1 (requestOperator env) := by
  refine Counted.onError ?_ (complete_counted _ _)
  refine (command_counted _).bind fun r => ?_
  split
  · exact Counted.error trivial
  · refine (read_operator_counted _ _ _).bind fun read => ?_
    exact Counted.ite (fun _ => Counted.error trivial) fun _ => complete_counted _ _

lemma registration_counted (request : RegistrationRequest) : Counted may 1 (requestRegistrationState env request) := by
  refine Counted.onError ?_ (complete_counted _ _)
  refine (singleline_counted _ _).bind fun r => ?_
  split
  · exact Counted.error trivial
  · refine (first_line_counted _).bind fun line => Counted.bind ?_ fun r => ?_
    · refine (except_counted _).bind fun p => (Counted.modify fun _ => ?_).bind fun _ => ?_
      · rfl
      · exact Counted.read fun d => Counted.pure
    · exact (except_counted _).bind fun _ => complete_counted _ _

lemma set_cell_info_list_rate_counted : Counted may 1 (requestSetCellInfoListRate renv data) := by
  refine assert_counted.bind fun _ => (int_at_counted _).bind fun _ => ?_
  refine (Counted.modify fun _ => ?_).bind fun _ => complete_counted _ _
  rfl

/-! ### The SIM -/

lemma sim_status_counted : Counted may 0 (getSIMStatus env) := by
  refine Counted.read fun d => Counted.ite (fun _ => Counted.pure) fun _ => (singleline_counted _ _).bind fun r => ?_
  split
  · exact Counted.pure
  · refine Counted.ite (fun _ => ?_) fun _ => Counted.ite (fun _ => Counted.pure) fun _ => Counted.pure
    refine (first_line_counted _).bind fun line => ?_
    split
    · exact Counted.pure
    · exact (deref_counted _).bind fun _ => Counted.pure

lemma get_sim_status_counted : Counted may 1 (requestGetSimStatus env) := by
  refine Counted.bind ?_ fun status => complete_counted _ _
  refine sim_status_counted.bind fun status => (deref_counted _).bind fun absent => ?_
  refine Counted.ite (fun _ => Counted.pure) fun _ => ?_
  exact (deref_counted _).bind fun _ => (deref_counted _).bind fun _ => Counted.pure

lemma enter_sim_pin_counted : Counted may 1 (requestEnterSimPin env data) := by
  have hrest (cmd : Bytes) : Counted True 1 (do
      let response ← atSendCommandSingleline env cmd (ascii "+CPIN:")
      let _ ← orError (succeeded response)
      onRequestComplete .success .null) :=
    (singleline_counted _ _).bind fun _ => (or_error_counted _).bind fun _ => complete_counted _ _
  refine Counted.onError ?_ (complete_counted _ _)
  split
  · exact hrest _
  · exact hrest _
  · exact (Counted.error trivial).bind fun cmd => hrest cmd

lemma sim_io_counted : Counted may 1 ( requestSIMIO env data) := by
  refine Counted.onError ?_ (complete_counted _ _)
  refine (int_field_counted _).bind fun _ => (int_field_counted _).bind fun _ => (int_field_counted _).bind fun _ => ?_
  refine (int_field_counted _).bind fun _ => (int_field_counted _).bind fun _ => (string_field_counted _).bind fun _ => ?_
  refine (singleline_counted _ _).bind fun _ => (or_error_counted _).bind fun _ => (first_line_counted _).bind fun _ => ?_
  exact (tokens_counted _ _).bind fun _ => complete_counted _ _

/-! ### The radio -/

lemma poll_counted : Counted may 0 (pollSIMState env) := by
  refine Counted.read fun d => Counted.ite (fun _ => sim_status_counted.bind fun status => ?_) fun _ => Counted.pure
  split
  · exact record_counted rfl
  · refine Counted.bind ?_ fun _ => record_counted rfl
    exact (command_counted _).bind fun _ => send_only_counted _
  · exact record_counted rfl

lemma set_radio_counted (newState : Samsung.RilRadioState) : Counted may 0 (setRadioState env newState) := by
  refine Counted.read fun d => Counted.read fun d => (Counted.modify fun _ => ?_).bind fun _ => ?_
  · rfl
  refine Counted.ite (fun _ => ?_) fun _ => Counted.pure
  refine (record_counted rfl).bind fun _ => (record_counted rfl).bind fun _ => ?_
  exact Counted.ite (fun _ => poll_counted) fun _ => Counted.pure

lemma is_radio_on_counted : Counted may 0 (isRadioOn env) := by
  refine (singleline_counted _ _).bind fun r => ?_
  split
  · exact Counted.pure
  · refine (first_line_counted _).bind fun line => ?_
    split
    · exact Counted.pure
    · exact Counted.pure

lemma radio_power_counted : Counted may 1 (requestRadioPower renv data) := by
  have hon : Counted True 1 (do setRadioState renv.toRefEnv .on; onRequestComplete .success .null) :=
    (set_radio_counted _).bind fun _ => complete_counted _ _
  refine Counted.onError ?_ (complete_counted _ _)
  refine assert_counted.bind fun _ => (int_at_counted _).bind fun onOff => Counted.read fun d => ?_
  refine Counted.ite (fun _ => ?_) fun _ => Counted.ite (fun _ => ?_) fun _ => complete_counted _ _
  · refine (command_counted _).bind fun _ => (or_error_counted _).bind fun _ => ?_
    exact (set_radio_counted _).bind fun _ => complete_counted _ _
  · refine (command_counted _).bind fun _ => Counted.ite (fun _ => ?_) fun _ => hon
    exact is_radio_on_counted.bind fun _ => Counted.ite (fun _ => Counted.error trivial) fun _ => hon

lemma shutdown_counted : Counted may 1 (requestShutdown env) := by
  refine Counted.read fun d => Counted.ite (fun _ => ?_) fun _ => complete_counted _ _
  exact (command_counted _).bind fun _ => (set_radio_counted _).bind fun _ => complete_counted _ _

/-! ### The technology of the modem -/

lemma query_ctec_counted : Counted may 0 (queryCtec env) := by
  refine (singleline_counted _ _).bind fun r => ?_
  split
  · exact Counted.pure
  · exact (first_line_counted _).bind fun _ => Counted.pure

lemma set_radio_technology_counted (newtech : Int32) : Counted may 0 (setRadioTechnology newtech) := by
  refine Counted.read fun d => Counted.ite (fun _ => ?_) fun _ => Counted.pure
  refine (Counted.modify fun _ => ?_).bind fun _ => Counted.ite (fun _ => ?_) fun _ => Counted.pure
  · rfl
  split
  · exact record_counted rfl
  · exact Counted.pure

lemma set_preferred_counted : Counted may 1 (requestSetPreferredNetworkType env data) := by
  refine (int_at_counted _).bind fun value => (deref_counted _).bind fun preferred => Counted.bind ?_ fun possible => ?_
  · exact (deref_counted _).bind fun _ => Counted.read fun _ => Counted.pure
  refine Counted.ite (fun _ => complete_counted _ _) fun _ => query_ctec_counted.bind fun current => ?_
  split
  · exact complete_counted _ _
  refine Counted.read fun d => Counted.ite (fun _ => complete_counted _ _) fun _ => ?_
  refine (singleline_counted _ _).bind fun r => ?_
  split
  · exact complete_counted _ _
  refine (Counted.modify fun _ => ?_).bind fun _ => (first_line_counted _).bind fun line => ?_
  · rfl
  refine Counted.ite (fun _ => ?_) fun _ => complete_counted _ _
  split
  · exact complete_counted _ _
  · exact (set_radio_technology_counted _).bind fun _ => complete_counted _ _

lemma get_preferred_counted : Counted may 1 (requestGetPreferredNetworkType env) := by
  refine query_ctec_counted.bind fun r => ?_
  split
  · split
    · exact complete_counted _ _
    · exact complete_counted _ _
  · exact complete_counted _ _

lemma voice_radio_tech_counted : Counted may 1 requestVoiceRadioTech := by
  refine Counted.read fun d => ?_
  split
  · exact complete_counted _ _
  · exact complete_counted _ _

/-! ### CDMA -/

lemma cdma_only_counted {handler : RefM Unit} (h : Counted may 1 handler) : Counted may 1 (cdmaOnly handler) :=
  Counted.read fun _ => Counted.ite (fun _ => h) fun _ => complete_counted _ _

lemma device_identity_counted : Counted may 1 (requestCdmaDeviceIdentity env) := by
  refine (numeric_counted _).bind fun r => ?_
  split
  · exact complete_counted _ _
  · exact (first_line_counted _).bind fun _ => complete_counted _ _

lemma get_subscription_source_counted : Counted may 1 (requestCdmaGetSubscriptionSource env) := by
  refine Counted.onError ?_ (complete_counted _ _)
  refine (singleline_counted _ _).bind fun _ => (or_error_counted _).bind fun _ => (first_line_counted _).bind fun _ => ?_
  exact (tokens_counted _ _).bind fun _ => complete_counted _ _

/-- The new source is reported behind the completion. -/
lemma set_subscription_source_counted : Counted may 1 (requestCdmaSetSubscriptionSource env data) := by
  have hrest : Counted True 1 (do
      let ss ← intAt data 0
      let _ ← orError (succeeded (← atSendCommand env (ascii "AT+CCSS=" ++ decimal ss)))
      onRequestComplete .success .null
      onUnsolicitedResponse .cdmaSubscriptionSourceChanged (.ints [ss])) := by
    refine (int_at_counted _).bind fun _ => (command_counted _).bind fun _ => (or_error_counted _).bind fun _ => ?_
    exact (complete_counted _ _).bind_last fun _ => record_counted rfl
  exact Counted.onError (Counted.ite (fun _ => Counted.error trivial) fun _ => hrest) (complete_counted _ _)

lemma get_roaming_preference_counted : Counted may 1 (requestCdmaGetRoamingPreference env) := by
  refine Counted.onError ?_ (complete_counted _ _)
  refine (singleline_counted _ _).bind fun _ => (or_error_counted _).bind fun _ => (first_line_counted _).bind fun _ => ?_
  exact (tokens_counted _ _).bind fun _ => complete_counted _ _

lemma set_roaming_preference_counted : Counted may 1 (requestCdmaSetRoamingPreference env data) := by
  refine Counted.onError ?_ (complete_counted _ _)
  refine (int_at_counted _).bind fun _ => (command_counted _).bind fun _ => (or_error_counted _).bind fun _ => ?_
  exact complete_counted _ _

lemma exit_emergency_mode_counted : Counted may 1 (requestExitEmergencyMode env) := by
  refine Counted.onError ?_ (complete_counted _ _)
  exact (command_counted _).bind fun _ => (or_error_counted _).bind fun _ => complete_counted _ _

/-! ### All of them -/

/-- The handlers whose number of completions is not always 1 -/
def RefRequest.Miscounts : RefRequest → Prop
  | .signalStrength | .smsAcknowledge | .setNetworkSelectionAutomatic => True
  | _ => False

lemma handler_counted {request : RefRequest} (h : ¬request.Miscounts) :
    Counted may 1 (requestHandler renv request data) := by
  cases request with
  | signalStrength => exact absurd trivial h
  | smsAcknowledge => exact absurd trivial h
  | setNetworkSelectionAutomatic => exact absurd trivial h
  | getSimStatus => exact get_sim_status_counted
  | enterSimPin => exact enter_sim_pin_counted
  | enterSimPuk => exact enter_sim_pin_counted
  | enterSimPin2 => exact enter_sim_pin_counted
  | enterSimPuk2 => exact enter_sim_pin_counted
  | changeSimPin => exact enter_sim_pin_counted
  | changeSimPin2 => exact enter_sim_pin_counted
  | simIo => exact sim_io_counted
  | getImsi => exact numeric_request_counted _
  | getImei => exact numeric_request_counted _
  | cancelUssd => exact numeric_request_counted _
  | getCurrentCalls => exact current_calls_counted
  | dial => exact dial_counted
  | hangup => exact hangup_counted
  | call request => exact send_and_complete_counted _
  | separateConnection => exact separate_connection_counted
  | dtmf => exact dtmf_counted
  | registration request => exact registration_counted request
  | operator => exact operator_counted
  | queryNetworkSelectionMode => exact network_selection_counted
  | getCellInfoList => exact Counted.read fun _ => complete_counted _ _
  | setUnsolCellInfoListRate => exact set_cell_info_list_rate_counted
  | imsRegistrationState =>
    exact Counted.read fun _ => Counted.ite (fun _ => complete_counted _ _) fun _ => complete_counted _ _
  | radioPower => exact radio_power_counted
  | shutdown => exact shutdown_counted
  | getHardwareConfig => exact complete_counted _ _
  | sendSms => exact send_sms_counted
  | sendSmsExpectMore => exact send_sms_counted
  | cdmaSendSms => exact cdma_send_sms_counted
  | imsSendSms => exact ims_send_sms_counted
  | writeSmsToSim => exact write_sms_counted
  | deleteSmsOnSim => exact delete_sms_counted
  | setupDataCall => exact setup_data_call_counted
  | dataCallList => exact data_call_list_counted
  | sendUssd => exact complete_counted _ _
  | oemHookRaw => exact complete_counted _ _
  | oemHookStrings => exact complete_counted _ _
  | voiceRadioTech => exact voice_radio_tech_counted
  | setPreferredNetworkType => exact set_preferred_counted
  | getPreferredNetworkType => exact get_preferred_counted
  | basebandVersion => exact cdma_only_counted (complete_counted _ _)
  | deviceIdentity => exact cdma_only_counted device_identity_counted
  | cdmaSubscription => exact cdma_only_counted (complete_counted _ _)
  | cdmaSetSubscriptionSource => exact cdma_only_counted set_subscription_source_counted
  | cdmaGetSubscriptionSource => exact cdma_only_counted get_subscription_source_counted
  | cdmaQueryRoamingPreference => exact cdma_only_counted get_roaming_preference_counted
  | cdmaSetRoamingPreference => exact cdma_only_counted set_roaming_preference_counted
  | exitEmergencyCallbackMode => exact cdma_only_counted exit_emergency_mode_counted
  | other request => exact complete_counted _ _

end Ril.Reference
