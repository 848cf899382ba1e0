import Ril.Reference.PlainRuns
import Ril.Reference.Requests

/-! The handlers of the reference RIL that leave the radio as it is. -/

namespace Ril.Reference

open Lib
open Ril.Libril (RequestData)

variable {env : RefEnv} {data : RequestData} {may : Prop} {α : Type}

/-! ### Calls -/

lemma read_calls_plainly (lines : List Bytes) (n : ℕ) (calls : List RefCall) (h : n + lines.length ≤ calls.length) :
    Plainly may (readCalls env lines n calls) fun _ => True := by
  induction lines generalizing n calls with
  | nil => exact Plainly.pure trivial
  | cons line lines ih =>
    rw [List.length_cons] at h
    refine (deref_plainly ?_).bind fun call _ => ih _ _ ?_
    · intro hnone
      have := List.getElem?_eq_none_iff.mp hnone
      omega
    · rw [List.length_set]
      split <;> omega

lemma current_calls_plainly : Plainly may (requestGetCurrentCalls env) fun _ => True := by
  refine (multiline_plainly _ _).bind fun r _ => ?_
  cases succeeded r with
  | none => exact complete_plainly _ _
  | some response =>
    refine (read_calls_plainly _ _ _ (by simp)).bind fun valid _ => ?_
    refine (complete_plainly _ _).bind fun _ _ => ?_
    exact Plainly.ite (fun _ => record_plainly (by simp [RefRecord.Plain])) fun _ => Plainly.pure trivial

lemma send_and_complete_plainly (command : Bytes) : Plainly may (sendAndComplete env command) fun _ => True :=
  (send_only_plainly _).bind fun _ _ => complete_plainly _ _

lemma dial_plainly (hc : ¬HasInt data .clir → may) (ha : (∀ s, ¬HasString data .address s) → may) :
    Plainly may (requestDial env data) fun _ => True :=
  (int_field_plainly hc).bind fun _ _ => (string_field_plainly ha).bind fun _ _ => send_and_complete_plainly _

lemma hangup_plainly (h : (intsOf data)[0]? = none → may) : Plainly may (requestHangup env data) fun _ => True :=
  (int_at_plainly h).bind fun _ _ => send_and_complete_plainly _

lemma separate_connection_plainly (h : (intsOf data)[0]? = none → may) :
    Plainly may (requestSeparateConnection env data) fun _ => True :=
  (int_at_plainly h).bind fun _ _ => Plainly.ite (fun _ => send_and_complete_plainly _) fun _ => complete_plainly _ _

lemma dtmf_plainly (h : (∀ s, data ≠ .string (some s)) → may) : Plainly may (requestDtmf env data) fun _ => True := by
  refine Plainly.bind (Q := fun _ => True) ?_ fun c _ => send_and_complete_plainly _
  rw [firstChar.eq_def]
  split
  · exact Plainly.pure trivial
  · rename_i hno
    exact Plainly.undefined (h hno)

/-! ### Data calls -/

lemma modify_at_plainly {xs : List α} {i : ℕ} (f : α → α) (h : i < xs.length) :
    Plainly may (modifyAt xs i f) fun ys => ys.length = xs.length := by
  refine (deref_plainly ?_).bind fun x _ => Plainly.pure (List.length_set ..)
  intro hnone
  exact absurd (List.getElem?_eq_none_iff.mp hnone) (by omega)

variable {renv : RequestEnv}

lemma read_contexts_plainly (lines : List Bytes) (i : ℕ) (responses : List RefDataCall)
    (h : i + lines.length ≤ responses.length) : Plainly may (readContexts renv lines i responses) fun _ => True := by
  induction lines generalizing i responses with
  | nil => exact Plainly.pure trivial
  | cons line lines ih =>
    rw [List.length_cons] at h
    refine (tokens_plainly _ _).bind fun r _ => (modify_at_plainly _ (by omega)).bind fun ys hys => ih _ _ ?_
    omega

lemma strings_plainly {t : Tok α} {cur : Option Bytes} {R : α → Prop}
    (h : ∀ a rest, t cur = some (a, rest) → R a) : Plainly may (tokensAt t cur) R := by
  refine (or_error_plainly _).weaken fun a ha => ?_
  obtain ⟨⟨b, rest⟩, hb, rfl⟩ := Option.map_eq_some_iff.mp ha
  exact h b rest hb

lemma context_strings {cur rest : Option Bytes} {r : Option Bytes × Option Bytes}
    (h : (do
      let type ← atTokNextstr
      let _apn ← atTokNextstr
      let addresses ← atTokNextstr
      return (type, addresses) : Tok (Option Bytes × Option Bytes)) cur = some (r, rest)) :
    r.1.isSome = true ∧ r.2.isSome = true := by
  obtain ⟨type, _, htype, h⟩ := tok_bind_some h
  obtain ⟨_, _, -, h⟩ := tok_bind_some h
  obtain ⟨addresses, _, haddresses, h⟩ := tok_bind_some h
  obtain ⟨rfl, -⟩ := Prod.ext_iff.mp (Option.some.inj h)
  exact ⟨nextstr_isSome htype, nextstr_isSome haddresses⟩

lemma read_details_plainly (lines : List Bytes) (responses : List RefDataCall) :
    Plainly may (readDetails renv lines responses) fun _ => True := by
  induction lines generalizing responses with
  | nil => exact Plainly.pure trivial
  | cons line lines ih =>
    refine (tokens_plainly _ _).bind fun r _ => ?_
    obtain ⟨cid, cur⟩ := r
    dsimp only
    split
    · exact ih _
    · rename_i i hi
      have hlt : i < responses.length := (List.findIdx?_eq_some_iff_findIdx_eq.mp hi).1
      refine (strings_plainly fun _ _ => context_strings).bind fun r hr => ?_
      obtain ⟨type, addresses⟩ := r
      have hnone {p : Option Bytes} (hp : p.isSome = true) (h : p = none) : may := by simp [h] at hp
      refine (deref_plainly (hnone hr.1)).bind fun _ _ => (deref_plainly (hnone hr.2)).bind fun _ _ => ?_
      exact (modify_at_plainly _ hlt).bind fun _ _ => ih _

lemma answer_data_call_list_plainly (toRequest : Bool) (response : Option (List RefDataCall)) :
    Plainly may (answerDataCallList toRequest response) fun _ => True := by
  have hplain : RefUnsol.dataCallListChanged ≠ .radioStateChanged ∧ RefUnsol.dataCallListChanged ≠ .simStatusChanged :=
    ⟨nofun, nofun⟩
  cases response with
  | none => exact Plainly.ite (fun _ => complete_plainly _ _) fun _ => unsolicited_plainly _ hplain
  | some responses => exact Plainly.ite (fun _ => complete_plainly _ _) fun _ => unsolicited_plainly _ hplain

lemma data_call_list_plainly (toRequest : Bool) : Plainly may (requestOrSendDataCallList renv toRequest) fun _ => True := by
  refine Plainly.onError ?_ (answer_data_call_list_plainly _ _)
  refine (multiline_plainly _ _).bind fun _ _ => (or_error_plainly _).bind fun contexts _ => ?_
  refine (read_contexts_plainly _ _ _ (by simp)).bind fun responses _ => ?_
  refine (multiline_plainly _ _).bind fun _ _ => (or_error_plainly _).bind fun details _ => ?_
  exact (read_details_plainly _ _).bind fun _ _ => answer_data_call_list_plainly _ _

lemma setup_by_qmi_plainly (qmi : Qmi) (apn : Option Bytes) : Plainly may (setupByQmi qmi apn) fun _ => True :=
  Plainly.ite (fun _ => Plainly.error) fun _ => Plainly.pure trivial

lemma pdp_type_plainly : Plainly may (pdpType data) fun _ => True := by
  refine Plainly.ite (fun h => ?_) fun _ => Plainly.pure trivial
  refine (string_at_plainly fun hnone => ?_).map fun _ _ => trivial
  exact absurd (List.getElem?_eq_none_iff.mp hnone) (by omega)

lemma setup_by_commands_plainly (apn : Option Bytes) : Plainly may (setupByCommands renv data apn) fun _ => True := by
  refine pdp_type_plainly.bind fun _ _ => (send_all_plainly _).bind fun _ _ => (send_plainly _).bind fun _ _ => ?_
  exact (or_error_plainly _).bind fun _ _ => Plainly.pure trivial

lemma setup_data_call_plainly (h : (charPointers data)[2]? = none → may) :
    Plainly may (requestSetupDataCall renv data) fun _ => True := by
  refine Plainly.onError ?_ (complete_plainly _ _)
  refine (string_at_plainly h).bind fun apn _ => ?_
  cases renv.qmi with
  | none => exact (setup_by_commands_plainly apn).bind fun _ _ => data_call_list_plainly true
  | some qmi => exact (setup_by_qmi_plainly qmi apn).bind fun _ _ => data_call_list_plainly true

/-! ### SMS messages -/

lemma write_sms_plainly (hp : (∀ pdu, ¬HasString data .pdu (some pdu)) → may) (hs : ¬HasInt data .status → may) :
    Plainly may (requestWriteSmsToSim env data) fun _ => True := by
  refine Plainly.onError ?_ (complete_plainly _ _)
  refine Plainly.bind (Q := HasString data .pdu) ?_ fun pdu hpdu => ?_
  · exact string_field_plainly fun hno => hp fun pdu => hno (some pdu)
  refine (deref_plainly ?_).bind fun _ _ => (int_field_plainly hs).bind fun _ _ => ?_
  · rintro rfl
    apply hp
    rintro pdu ⟨q, hq, hv⟩
    obtain ⟨p, hp', hnone⟩ := hpdu
    obtain rfl : p = q := Option.some.inj (hp'.symm.trans hq)
    cases hnone.symm.trans hv
  exact (sms_plainly _ _ _).bind fun _ _ => (or_error_plainly _).bind fun _ _ => complete_plainly _ _

lemma delete_sms_plainly (h : (intsOf data)[0]? = none → may) :
    Plainly may (requestDeleteSmsOnSim env data) fun _ => True := by
  refine Plainly.onError ?_ (complete_plainly _ _)
  refine (int_at_plainly h).bind fun _ _ => (send_plainly _).bind fun _ _ => ?_
  exact (or_error_plainly _).bind fun _ _ => complete_plainly _ _

lemma cdma_send_sms_plainly (h : ¬HasInt data .uTeleserviceID → may) :
    Plainly may (requestCdmaSendSMS data) fun _ => True :=
  (int_field_plainly h).bind fun _ _ => complete_plainly _ _

/-- The service centre, which may be `NULL`, and a message -/
def SmsFits (data : RequestData) : Prop := ∃ smsc pdu rest, charPointers data = smsc :: some pdu :: rest

lemma send_sms_plainly (h : ¬SmsFits data → may) : Plainly may (requestSendSMS env data) fun _ => True := by
  refine Plainly.read fun d => Plainly.ite (fun _ => complete_plainly _ _) fun _ => ?_
  refine Plainly.ite (fun _ => complete_plainly _ _) fun _ => Plainly.onError ?_ (complete_plainly _ _)
  by_cases hfits : SmsFits data
  · obtain ⟨smsc, pdu, rest, hdata⟩ := hfits
    have hat {i : ℕ} {s : Option Bytes} (hs : (charPointers data)[i]? = some s) :
        Plainly may (stringAt data i) fun t => t = s :=
      (string_at_plainly fun hnone => by simp [hs] at hnone).weaken fun t ht => by simpa [hs] using ht.symm
    refine (hat (s := smsc) (by simp [hdata])).bind fun _ _ => (hat (s := some pdu) (by simp [hdata])).bind fun _ hpdu => ?_
    refine (deref_plainly fun hnone => by simp [hpdu] at hnone).bind fun _ _ => ?_
    exact (sms_plainly _ _ _).bind fun _ _ => (or_error_plainly _).bind fun _ _ => complete_plainly _ _
  · have hmay := h hfits
    refine (string_at_plainly fun _ => hmay).bind fun _ _ => (string_at_plainly fun _ => hmay).bind fun _ _ => ?_
    refine (deref_plainly fun _ => hmay).bind fun _ _ => ?_
    exact (sms_plainly _ _ _).bind fun _ _ => (or_error_plainly _).bind fun _ _ => complete_plainly _ _

/-- The format, and a message of this format -/
def ImsSmsFits (data : RequestData) : Prop :=
  ∃ tech retry messageRef message, data = .imsSms tech retry messageRef message ∧
    (tech = Libril.radioTech3gpp.toInt → SmsFits (messageData message)) ∧
    (tech = Libril.radioTech3gpp2.toInt → HasInt (messageData message) .uTeleserviceID)

lemma ims_send_sms_plainly (h : ¬ImsSmsFits data → may) : Plainly may (requestImsSendSMS env data) fun _ => True := by
  refine Plainly.read fun d => Plainly.ite (fun _ => complete_plainly _ _) fun _ => ?_
  split
  · rename_i tech retry messageRef message
    refine Plainly.ite (fun _ => complete_plainly _ _) fun _ => ?_
    refine Plainly.ite (fun h3gpp => send_sms_plainly fun hno => h ?_) fun _ => ?_
    · rintro ⟨_, _, _, _, heq, hsms, -⟩
      obtain ⟨rfl, rfl, rfl, rfl⟩ := RequestData.imsSms.inj heq
      exact hno (hsms h3gpp)
    refine Plainly.ite (fun h3gpp2 => cdma_send_sms_plainly fun hno => h ?_) fun _ => complete_plainly _ _
    rintro ⟨_, _, _, _, heq, -, hcdma⟩
    obtain ⟨rfl, rfl, rfl, rfl⟩ := RequestData.imsSms.inj heq
    exact hno (hcdma h3gpp2)
  · rename_i hno
    refine Plainly.undefined (h ?_)
    rintro ⟨tech, retry, messageRef, message, rfl, -⟩
    exact hno tech retry messageRef message rfl

lemma sms_acknowledge_plainly (h : (intsOf data)[0]? = none → may) :
    Plainly may (requestSMSAcknowledge env data) fun _ => True := by
  refine (int_at_plainly h).bind fun _ _ => ?_
  have hsend (command : Bytes) : Plainly may (do
      atSendCommandOnly env command
      onRequestComplete .success .null
      onRequestComplete .genericFailure .null) fun _ => True :=
    (send_only_plainly _).bind fun _ _ => (complete_plainly _ _).bind fun _ _ => complete_plainly _ _
  exact Plainly.ite (fun _ => hsend _) fun _ => Plainly.ite (fun _ => hsend _) fun _ => complete_plainly _ _

/-! ### The network -/

lemma network_selection_plainly : Plainly may (requestQueryNetworkSelectionMode env) fun _ => True :=
  Plainly.onError (query_plainly fun _ => complete_plainly _ _) (complete_plainly _ _)

lemma signal_strength_plainly : Plainly may (requestSignalStrength env) fun _ => True := by
  refine Plainly.onError ?_ (complete_plainly _ _)
  refine (singleline_plainly _ _).bind fun r hr => ?_
  split
  · exact (complete_plainly _ _).bind fun _ _ => Plainly.error
  · rename_i response hresponse
    refine (first_line_plainly fun hnil => absurd hnil (hr _ hresponse)).bind fun _ _ => ?_
    exact (tokens_plainly _ _).bind fun _ _ => complete_plainly _ _

lemma numeric_request_plainly (command : Bytes) : Plainly may (requestNumeric env command) fun _ => True := by
  refine (numeric_plainly _).bind fun r hr => ?_
  split
  · exact complete_plainly _ _
  · rename_i response hresponse
    exact (first_line_plainly fun hnil => absurd hnil (hr _ hresponse)).bind fun _ _ => complete_plainly _ _

lemma scan_mcc_mnc_plain (name : Bytes) (d : RefRil) : Plain d (scanMccMnc name d) := by
  rw [scanMccMnc]
  split
  · exact .refl d
  · split
    · exact ⟨rfl, rfl, .refl _⟩
    · exact ⟨rfl, rfl, .refl _⟩

lemma set_cell_info_list_rate_plainly (h : (intsOf data).length ≠ 1 → may) :
    Plainly may (requestSetCellInfoListRate renv data) fun _ => True := by
  refine (assert_plainly fun hno => h hno.2).bind fun _ _ => ?_
  refine (int_at_plainly fun hnone => h ?_).bind fun _ _ => ?_
  · have := List.getElem?_eq_none_iff.mp hnone
    omega
  refine (Plainly.modify fun _ => ?_).bind fun _ _ => complete_plainly _ _
  exact ⟨rfl, rfl, .refl _⟩

lemma ims_registration_state_plainly : Plainly may requestImsRegistrationState fun _ => True :=
  Plainly.read fun _ => Plainly.ite (fun _ => complete_plainly _ _) fun _ => complete_plainly _ _

lemma read_operator_plainly (lines : List Bytes) (i : ℕ) (response : List (Option Bytes))
    (h : response.length < i + lines.length → may) : Plainly may (readOperator env lines i response) fun _ => True := by
  have hat {xs : List (Option Bytes)} {i : ℕ} (v : Option Bytes) (hlen : xs.length ≤ i → may) :
      Plainly may (modifyAt xs i fun _ => v) fun ys => ys.length = xs.length := by
    refine (deref_plainly fun hnone => ?_).bind fun x _ => Plainly.pure (List.length_set ..)
    exact hlen (List.getElem?_eq_none_iff.mp hnone)
  induction lines generalizing i response with
  | nil => exact Plainly.pure trivial
  | cons line lines ih =>
    rw [List.length_cons] at h
    have hi (hlen : response.length ≤ i) : may := h (by omega)
    refine (tokens_plainly _ _).bind fun cur _ => ?_
    cases cur with
    | none => exact (hat none hi).bind fun ys hys => ih _ _ fun hlt => h (by omega)
    | some cur =>
      refine (strings_plainly fun _ _ => nextstr_isSome).bind fun name hname => ?_
      refine (hat name hi).bind fun ys hys => (deref_plainly fun hnone => ?_).bind fun name _ => ?_
      · simp [hnone] at hname
      · have hrest : Plainly may (readOperator env lines (i + 1) ys) fun _ => True := ih _ _ fun hlt => h (by omega)
        refine Plainly.ite (fun _ => ?_) fun _ => hrest
        exact (Plainly.modify (scan_mcc_mnc_plain name)).bind fun _ _ => hrest

lemma operator_plainly (h : may) : Plainly may (requestOperator env) fun _ => True := by
  refine Plainly.onError ?_ (complete_plainly _ _)
  refine (multiline_plainly _ _).bind fun r _ => ?_
  cases r with
  | error e => exact Plainly.error
  | ok r =>
    refine (read_operator_plainly _ _ _ fun _ => h).bind fun read _ => ?_
    exact Plainly.ite (fun _ => Plainly.error) fun _ => complete_plainly _ _

lemma registration_plainly (request : RegistrationRequest) (h : may) :
    Plainly may (requestRegistrationState env request) fun _ => True := by
  have hexcept {α : Type} (x : Except RefStop α) : Plainly may (liftExcept x : RefM α) fun _ => True := by
    cases x with
    | ok a => exact Plainly.pure trivial
    | error e =>
      cases e with
      | error => exact Plainly.error
      | undefined => exact Plainly.undefined h
  refine Plainly.onError ?_ (complete_plainly _ _)
  refine (singleline_plainly _ _).bind fun r _ => ?_
  cases r with
  | error e => exact Plainly.error
  | ok response =>
    refine (first_line_plainly fun _ => h).bind fun line _ => Plainly.bind (Q := fun _ => True) ?_ fun r _ => ?_
    · refine (hexcept _).bind fun p _ => (Plainly.modify fun _ => ?_).bind fun _ _ => ?_
      · exact ⟨rfl, rfl, .refl _⟩
      · exact Plainly.read fun d => Plainly.pure trivial
    · exact (hexcept _).bind fun _ _ => complete_plainly _ _

/-! ### The SIM -/

lemma sim_status_plainly (h : may) : Plainly may (getSIMStatus env) fun _ => True := by
  refine Plainly.read fun d => Plainly.ite (fun _ => Plainly.pure trivial) fun _ => ?_
  refine (singleline_plainly _ _).bind fun r _ => ?_
  cases r with
  | error e => exact Plainly.pure trivial
  | ok response =>
    refine Plainly.ite (fun _ => ?_) fun _ => Plainly.ite (fun _ => Plainly.pure trivial) fun _ => Plainly.pure trivial
    refine (first_line_plainly fun _ => h).bind fun line _ => ?_
    split
    · exact Plainly.pure trivial
    · exact (deref_plainly fun _ => h).bind fun _ _ => Plainly.pure trivial

lemma card_status_plainly (h : may) : Plainly may (getCardStatus env) fun _ => True := by
  refine (sim_status_plainly h).bind fun status _ => (deref_plainly fun _ => h).bind fun absent _ => ?_
  refine Plainly.ite (fun _ => Plainly.pure trivial) fun _ => ?_
  exact (deref_plainly fun _ => h).bind fun _ _ => (deref_plainly fun _ => h).bind fun _ _ => Plainly.pure trivial

lemma get_sim_status_plainly (h : may) : Plainly may (requestGetSimStatus env) fun _ => True :=
  (card_status_plainly h).bind fun _ _ => complete_plainly _ _

lemma enter_sim_pin_plainly : Plainly may (requestEnterSimPin env data) fun _ => True := by
  refine Plainly.onError ?_ (complete_plainly _ _)
  have hrest (cmd : Bytes) : Plainly may (do
      let response ← atSendCommandSingleline env cmd (ascii "+CPIN:")
      let _ ← orError (succeeded response)
      onRequestComplete .success .null) fun _ => True :=
    (singleline_plainly _ _).bind fun _ _ => (or_error_plainly _).bind fun _ _ => complete_plainly _ _
  split
  · exact hrest _
  · exact hrest _
  · exact (Plainly.error (Q := fun _ => True)).bind fun cmd _ => hrest cmd

/-- The fields that `requestSIM_IO` reads -/
def SimIoFits (data : RequestData) : Prop :=
  HasInt data .command ∧ HasInt data .fileid ∧ HasInt data .p1 ∧ HasInt data .p2 ∧ HasInt data .p3 ∧
    ∃ s, HasString data .data s

lemma sim_io_plainly (h : ¬SimIoFits data → may) : Plainly may ( requestSIMIO env data) fun _ => True := by
  refine Plainly.onError ?_ (complete_plainly _ _)
  refine (int_field_plainly fun hno => h fun hf => hno hf.1).bind fun _ _ => ?_
  refine (int_field_plainly fun hno => h fun hf => hno hf.2.1).bind fun _ _ => ?_
  refine (int_field_plainly fun hno => h fun hf => hno hf.2.2.1).bind fun _ _ => ?_
  refine (int_field_plainly fun hno => h fun hf => hno hf.2.2.2.1).bind fun _ _ => ?_
  refine (int_field_plainly fun hno => h fun hf => hno hf.2.2.2.2.1).bind fun _ _ => ?_
  refine (string_field_plainly fun hno => h fun hf => hf.2.2.2.2.2.elim hno).bind fun _ _ => ?_
  refine (singleline_plainly _ _).bind fun _ hr => answered_plainly hr fun line => ?_
  exact (tokens_plainly _ _).bind fun _ _ => complete_plainly _ _

/-! ### The technology of the modem -/

lemma query_ctec_plainly : Plainly may (queryCtec env) fun _ => True := by
  refine (singleline_plainly _ _).bind fun r hr => ?_
  split
  · exact Plainly.pure trivial
  · rename_i response hresponse
    exact (first_line_plainly fun hnil => absurd hnil (hr _ hresponse)).bind fun _ _ => Plainly.pure trivial

lemma set_radio_technology_plainly (newtech : Int32) : Plainly may (setRadioTechnology newtech) fun _ => True := by
  refine Plainly.read fun d => Plainly.ite (fun _ => ?_) fun _ => Plainly.pure trivial
  refine (Plainly.modify fun _ => ?_).bind fun _ _ => Plainly.ite (fun _ => ?_) fun _ => Plainly.pure trivial
  · exact ⟨rfl, rfl, .refl _⟩
  · split
    · exact unsolicited_plainly _ ⟨nofun, nofun⟩
    · exact Plainly.pure trivial

/-- A number of a network type -/
def NetworkFits (data : RequestData) : Prop := ∃ v, (intsOf data)[0]? = some v ∧ 0 ≤ v ∧ v.toInt < 12

lemma table_at_plainly {table : List Int32} {i : Int32} (h : ¬(0 ≤ i ∧ i.toInt.toNat < table.length) → may) :
    Plainly may (tableAt table i) fun _ => True := by
  refine (deref_plainly fun hnone => h fun hi => ?_).weaken fun _ _ => trivial
  rw [if_pos hi.1] at hnone
  have := List.getElem?_eq_none_iff.mp hnone
  omega

/-- A number that has been tested is a number of both tables. -/
lemma set_preferred_plainly (h : ¬NetworkFits data → may) :
    Plainly may (requestSetPreferredNetworkType env data) fun _ => True := by
  refine (int_at_plainly fun hnone => h ?_).bind fun value hvalue => ?_
  · rintro ⟨v, hv, -⟩
    cases hnone.symm.trans hv
  have hin {table : List Int32} (hlen : table.length = 12) (hno : ¬(0 ≤ value ∧ value.toInt.toNat < table.length)) : may := by
    apply h
    rintro ⟨v, hv, hpos, hlt⟩
    obtain rfl : value = v := Option.some.inj (hvalue.symm.trans hv)
    exact hno ⟨hpos, by omega⟩
  refine (table_at_plainly (hin rfl)).bind fun preferred _ => Plainly.bind (Q := fun _ => True) ?_ fun possible _ => ?_
  · exact (table_at_plainly (hin rfl)).bind fun _ _ => Plainly.read fun _ => Plainly.pure trivial
  refine Plainly.ite (fun _ => complete_plainly _ _) fun _ => query_ctec_plainly.bind fun current _ => ?_
  split
  · exact complete_plainly _ _
  refine Plainly.read fun d => Plainly.ite (fun _ => complete_plainly _ _) fun _ => ?_
  refine (singleline_plainly _ _).bind fun r hr => ?_
  split
  · exact complete_plainly _ _
  rename_i response hresponse
  refine (Plainly.modify fun _ => ?_).bind fun _ _ => ?_
  · exact ⟨rfl, rfl, .refl _⟩
  refine (first_line_plainly fun hnil => absurd hnil (hr _ hresponse)).bind fun line _ => ?_
  refine Plainly.ite (fun _ => ?_) fun _ => complete_plainly _ _
  split
  · exact complete_plainly _ _
  · exact (set_radio_technology_plainly _).bind fun _ _ => complete_plainly _ _

lemma get_preferred_plainly : Plainly may (requestGetPreferredNetworkType env) fun _ => True := by
  refine query_ctec_plainly.bind fun r _ => ?_
  split
  · split
    · exact complete_plainly _ _
    · exact complete_plainly _ _
  · exact complete_plainly _ _

lemma voice_radio_tech_plainly : Plainly may requestVoiceRadioTech fun _ => True := by
  refine Plainly.read fun d => ?_
  split
  · exact complete_plainly _ _
  · exact complete_plainly _ _

/-! ### CDMA -/

lemma cdma_only_plainly {handler : RefM Unit} (h : Plainly may handler fun _ => True) :
    Plainly may (cdmaOnly handler) fun _ => True :=
  Plainly.read fun _ => Plainly.ite (fun _ => h) fun _ => complete_plainly _ _

lemma device_identity_plainly : Plainly may (requestCdmaDeviceIdentity env) fun _ => True := by
  refine (numeric_plainly _).bind fun r hr => ?_
  split
  · exact complete_plainly _ _
  · rename_i response hresponse
    exact (first_line_plainly fun hnil => absurd hnil (hr _ hresponse)).bind fun _ _ => complete_plainly _ _

lemma get_subscription_source_plainly : Plainly may (requestCdmaGetSubscriptionSource env) fun _ => True :=
  Plainly.onError (query_plainly fun _ => complete_plainly _ _) (complete_plainly _ _)

lemma set_subscription_source_plainly : Plainly may (requestCdmaSetSubscriptionSource env data) fun _ => True := by
  refine Plainly.onError ?_ (complete_plainly _ _)
  have hrest (hne : ¬(intsOf data).isEmpty) : Plainly may (do
      let ss ← intAt data 0
      let _ ← orError (succeeded (← atSendCommand env (ascii "AT+CCSS=" ++ decimal ss)))
      onRequestComplete .success .null
      onUnsolicitedResponse .cdmaSubscriptionSourceChanged (.ints [ss])) fun _ => True := by
    refine (int_at_plainly fun hnone => ?_).bind fun _ _ => (send_plainly _).bind fun _ _ => ?_
    · have := List.getElem?_eq_none_iff.mp hnone
      simp_all
    refine (or_error_plainly _).bind fun _ _ => (complete_plainly _ _).bind fun _ _ => ?_
    exact unsolicited_plainly _ ⟨nofun, nofun⟩
  exact Plainly.ite (fun _ => Plainly.error) hrest

lemma get_roaming_preference_plainly : Plainly may (requestCdmaGetRoamingPreference env) fun _ => True :=
  Plainly.onError (query_plainly fun _ => complete_plainly _ _) (complete_plainly _ _)

lemma set_roaming_preference_plainly (h : (intsOf data)[0]? = none → may) :
    Plainly may (requestCdmaSetRoamingPreference env data) fun _ => True := by
  refine Plainly.onError ?_ (complete_plainly _ _)
  refine (int_at_plainly h).bind fun _ _ => (send_plainly _).bind fun _ _ => ?_
  exact (or_error_plainly _).bind fun _ _ => complete_plainly _ _

lemma exit_emergency_mode_plainly : Plainly may (requestExitEmergencyMode env) fun _ => True :=
  Plainly.onError ((send_plainly _).bind fun _ _ => (or_error_plainly _).bind fun _ _ => complete_plainly _ _)
    (complete_plainly _ _)

/-! ### All of them -/

/-- What the handler of the request reads is there, and passes its assertion. -/
def PayloadFits (env : RequestEnv) (data : RequestData) : RefRequest → Prop
  | .hangup | .separateConnection | .smsAcknowledge | .deleteSmsOnSim | .cdmaSetRoamingPreference => (intsOf data)[0]? ≠ none
  | .radioPower => (intsOf data)[0]? ≠ none ∧ (env.asserts → env.pointerSize ≤ 4 * (intsOf data).length)
  | .setUnsolCellInfoListRate => (intsOf data).length = 1
  | .setPreferredNetworkType => NetworkFits data
  | .dial => HasInt data .clir ∧ ∃ s, HasString data .address s
  | .dtmf => ∃ s, data = .string (some s)
  | .simIo => SimIoFits data
  | .writeSmsToSim => (∃ pdu, HasString data .pdu (some pdu)) ∧ HasInt data .status
  | .sendSms | .sendSmsExpectMore => SmsFits data
  | .cdmaSendSms => HasInt data .uTeleserviceID
  | .imsSendSms => ImsSmsFits data
  | .setupDataCall => (charPointers data)[2]? ≠ none
  | _ => True

/-- The handler uses an answer without all the tests. -/
def RefRequest.Trusting : RefRequest → Prop
  | .registration _ | .operator | .getSimStatus => True
  | _ => False

def RefRequest.ChangesRadio : RefRequest → Prop
  | .radioPower | .shutdown => True
  | _ => False

lemma handler_plainly {request : RefRequest} (hr : ¬request.ChangesRadio) (hfits : ¬PayloadFits renv data request → may)
    (htrust : request.Trusting → may) : Plainly may (requestHandler renv request data) fun _ => True := by
  cases request with
  | radioPower => exact absurd trivial hr
  | shutdown => exact absurd trivial hr
  | registration request => exact registration_plainly request (htrust trivial)
  | operator => exact operator_plainly (htrust trivial)
  | getSimStatus => exact get_sim_status_plainly (htrust trivial)
  | enterSimPin => exact enter_sim_pin_plainly
  | enterSimPuk => exact enter_sim_pin_plainly
  | enterSimPin2 => exact enter_sim_pin_plainly
  | enterSimPuk2 => exact enter_sim_pin_plainly
  | changeSimPin => exact enter_sim_pin_plainly
  | changeSimPin2 => exact enter_sim_pin_plainly
  | simIo => exact sim_io_plainly hfits
  | getImsi => exact numeric_request_plainly _
  | getImei => exact numeric_request_plainly _
  | cancelUssd => exact numeric_request_plainly _
  | getCurrentCalls => exact current_calls_plainly
  | dial =>
    exact dial_plainly (fun hno => hfits fun h => hno h.1) fun hno => hfits fun h => h.2.elim hno
  | hangup => exact hangup_plainly fun h => hfits fun hne => hne h
  | call request => exact send_and_complete_plainly _
  | separateConnection => exact separate_connection_plainly fun h => hfits fun hne => hne h
  | dtmf => exact dtmf_plainly fun hno => hfits fun h => h.elim hno
  | signalStrength => exact signal_strength_plainly
  | queryNetworkSelectionMode => exact network_selection_plainly
  | setNetworkSelectionAutomatic => exact send_only_plainly _
  | getCellInfoList => exact Plainly.read fun _ => complete_plainly _ _
  | setUnsolCellInfoListRate => exact set_cell_info_list_rate_plainly hfits
  | imsRegistrationState => exact ims_registration_state_plainly
  | getHardwareConfig => exact complete_plainly _ _
  | sendSms => exact send_sms_plainly hfits
  | sendSmsExpectMore => exact send_sms_plainly hfits
  | cdmaSendSms => exact cdma_send_sms_plainly hfits
  | imsSendSms => exact ims_send_sms_plainly hfits
  | smsAcknowledge => exact sms_acknowledge_plainly fun h => hfits fun hne => hne h
  | writeSmsToSim =>
    exact write_sms_plainly (fun hno => hfits fun h => h.1.elim hno) fun hno => hfits fun h => hno h.2
  | deleteSmsOnSim => exact delete_sms_plainly fun h => hfits fun hne => hne h
  | setupDataCall => exact setup_data_call_plainly fun h => hfits fun hne => hne h
  | dataCallList => exact data_call_list_plainly true
  | sendUssd => exact complete_plainly _ _
  | oemHookRaw => exact complete_plainly _ _
  | oemHookStrings => exact complete_plainly _ _
  | voiceRadioTech => exact voice_radio_tech_plainly
  | setPreferredNetworkType => exact set_preferred_plainly hfits
  | getPreferredNetworkType => exact get_preferred_plainly
  | basebandVersion => exact cdma_only_plainly (complete_plainly _ _)
  | deviceIdentity => exact cdma_only_plainly device_identity_plainly
  | cdmaSubscription => exact cdma_only_plainly (complete_plainly _ _)
  | cdmaSetSubscriptionSource => exact cdma_only_plainly set_subscription_source_plainly
  | cdmaGetSubscriptionSource => exact cdma_only_plainly get_subscription_source_plainly
  | cdmaQueryRoamingPreference => exact cdma_only_plainly get_roaming_preference_plainly
  | cdmaSetRoamingPreference => exact cdma_only_plainly (set_roaming_preference_plainly fun h => hfits fun hne => hne h)
  | exitEmergencyCallbackMode => exact cdma_only_plainly exit_emergency_mode_plainly
  | other request => exact complete_plainly _ _

lemma request_plainly {request : RefRequest} (hr : ¬request.ChangesRadio) (hfits : ¬PayloadFits renv data request → may)
    (htrust : request.Trusting → may) : Plainly may (onRequest renv request data) fun _ => True :=
  Plainly.read fun _ => Plainly.ite (fun _ => complete_plainly _ _) fun _ =>
    Plainly.ite (fun _ => complete_plainly _ _) fun _ => handler_plainly hr hfits htrust

end Ril.Reference
