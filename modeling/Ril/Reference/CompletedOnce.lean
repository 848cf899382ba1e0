import Ril.Reference.CompletionCounts
import Ril.Reference.SafeAnswers

/-! When a request to the reference RIL is completed exactly once. -/

namespace Ril.Reference

open Lib
open Ril.Libril (RequestData)

variable {env : RefEnv} {renv : RequestEnv} {data : RequestData} {d : RefRil} {α β : Type} {m : RefM α} {f : α → RefM β}
  {handler : RefM Unit}

/-- The call returns, and has completed its request once. -/
def CompletedOnce (handler : RefM Unit) (d : RefRil) : Prop :=
  (handler d).1 = .ok () ∧ (handler d).2.completions = d.completions + 1

lemma completed_once_iff (h : Counted False 1 handler) : CompletedOnce handler d ↔ ¬Undefined handler d := by
  have hends := h d.completions d rfl
  rw [CompletedOnce, Undefined]
  generalize handler d = r at hends
  cases hends with
  | ok h => exact iff_of_true ⟨rfl, h⟩ fun hn => by cases hn
  | @error e t h =>
    cases e with
    | error => exact (h rfl).1.elim
    | undefined => exact iff_of_false (fun hn => by cases hn.1) fun hn => hn rfl

lemma not_completed_once {k : ℕ} (h : Counted False k handler) (hk : k ≠ 1) : ¬CompletedOnce handler d := by
  have hends := h d.completions d rfl
  rw [CompletedOnce]
  generalize handler d = r at hends
  cases hends with
  | ok h => exact fun hn => hk (Nat.add_left_cancel (h.symm.trans hn.2))
  | error h => exact nofun

/-! ### What the handlers read of a payload -/

/-- A message is not read while the failures that are simulated are on. -/
def SmsRead (d : RefRil) (data : RequestData) : Prop := d.imsGsmFail ≠ 0 ∨ d.imsGsmRetry ≠ 0 ∨ SmsFits data

def ImsSmsRead (d : RefRil) (data : RequestData) : Prop :=
  d.imsCausePermFailure ≠ 0 ∨ ∃ tech retry messageRef message, data = .imsSms tech retry messageRef message ∧
    (d.imsCauseRetry ≠ 0 ∧ retry = 0 ∨ (tech = Libril.radioTech3gpp.toInt → SmsRead d (messageData message)) ∧
      (tech = Libril.radioTech3gpp2.toInt → HasInt (messageData message) .uTeleserviceID))

/-- What the handler reads in this state is there, and passes its assertion. -/
def PayloadRead (env : RequestEnv) (data : RequestData) (d : RefRil) : RefRequest → Prop
  | .sendSms | .sendSmsExpectMore => SmsRead d data
  | .imsSendSms => ImsSmsRead d data
  | .setUnsolCellInfoListRate => (intsOf data)[0]? ≠ none ∧ (env.asserts → (intsOf data).length = 1)
  | .cdmaSetRoamingPreference => d.modem.isCdma = true → (intsOf data)[0]? ≠ none
  | request => PayloadFits env data request

namespace Undefined

lemma deref {p : Option α} (h : ∀ a, p = some a → Undefined (f a) d) : Undefined (deref p >>= f) d := by
  cases p with
  | none => rfl
  | some a => exact h a rfl

lemma intAt {f : Int32 → RefM β} {i : ℕ} (h : ∀ v, (intsOf data)[i]? = some v → Undefined (f v) d) :
    Undefined (intAt data i >>= f) d := deref h

lemma stringAt {f : Option Bytes → RefM β} {i : ℕ} (h : ∀ s, (charPointers data)[i]? = some s → Undefined (f s) d) :
    Undefined (stringAt data i >>= f) d := deref h

lemma intField {f : Int32 → RefM β} {name : Libril.Parameter} (h : HasInt data name → ∀ v, Undefined (f v) d) :
    Undefined (intField data name >>= f) d := by
  rw [Reference.intField]
  split
  · rename_i v hp
    exact h ⟨_, v, hp, rfl⟩ v
  · rfl

lemma stringField {f : Option Bytes → RefM β} {name : Libril.Parameter}
    (h : ∀ s, HasString data name s → Undefined (f s) d) : Undefined (stringField data name >>= f) d := by
  rw [Reference.stringField]
  split
  · rename_i s hp
    exact h s ⟨_, hp, rfl⟩
  · rfl

lemma assert {asserts : Bool} {c : Prop} [Decidable c] {f : Unit → RefM β}
    (h : (asserts = true → c) → Undefined (f ()) d) : Undefined (assert asserts c >>= f) d := by
  rw [Reference.assert]
  split
  · rfl
  · rename_i hpass
    exact h fun ha => by_contra fun hc => hpass ⟨ha, hc⟩

end Undefined

lemma send_sms_unread (h : ¬SmsRead d data) : Undefined (requestSendSMS env data) d := by
  rw [SmsRead, not_or, not_or] at h
  obtain ⟨hfail, hretry, hfits⟩ := h
  rw [requestSendSMS, Undefined.bind (ref_get d), if_neg hfail, if_neg hretry, Undefined.onError]
  refine Undefined.stringAt fun smsc hsmsc => Undefined.stringAt fun pdu hpdu => Undefined.deref fun s hs => ?_
  refine absurd ⟨smsc, s, ?_⟩ hfits
  rw [hs] at hpdu
  match hps : charPointers data with
  | [] => simp [hps] at hsmsc
  | [p] => simp [hps] at hpdu
  | p :: q :: rest =>
    rw [hps] at hsmsc hpdu
    obtain rfl := Option.some.inj hsmsc
    obtain rfl := Option.some.inj hpdu
    exact ⟨rest, rfl⟩

lemma ims_send_sms_unread (h : ¬ImsSmsRead d data) : Undefined (requestImsSendSMS env data) d := by
  rw [ImsSmsRead, not_or] at h
  obtain ⟨hfail, hno⟩ := h
  rw [requestImsSendSMS, Undefined.bind (ref_get d), if_neg hfail]
  split
  · rename_i tech retry messageRef message
    have hread := fun hok => hno ⟨tech, retry, messageRef, message, rfl, hok⟩
    rw [if_neg fun hretry => hread (.inl hretry)]
    split
    · rename_i h3gpp
      refine send_sms_unread fun hsms => hread (.inr ⟨fun _ => hsms, fun h3gpp2 => ?_⟩)
      exact absurd (h3gpp.symm.trans h3gpp2) (by decide)
    · rename_i h3gpp
      split
      · rename_i h3gpp2
        exact Undefined.intField fun hid => absurd (.inr ⟨fun ht => absurd ht h3gpp, fun _ => hid⟩) hread
      · rename_i h3gpp2
        exact absurd (.inr ⟨fun ht => absurd ht h3gpp, fun ht => absurd ht h3gpp2⟩) hread
  · rfl

lemma sim_io_unread (h : ¬SimIoFits data) : Undefined ( requestSIMIO env data) d := by
  rw [ requestSIMIO, Undefined.onError]
  refine Undefined.intField fun h1 _ => Undefined.intField fun h2 _ => Undefined.intField fun h3 _ => ?_
  refine Undefined.intField fun h4 _ => Undefined.intField fun h5 _ => Undefined.stringField fun s hs => ?_
  exact absurd ⟨h1, h2, h3, h4, h5, s, hs⟩ h

lemma set_preferred_unread (h : ¬NetworkFits data) : Undefined (requestSetPreferredNetworkType env data) d := by
  refine Undefined.intAt fun v hv => Undefined.deref fun preferred hpreferred => absurd ⟨v, hv, ?_⟩ h
  split at hpreferred
  · rename_i hpos
    have hlt : v.toInt.toNat < 12 := (List.getElem?_eq_some_iff.mp hpreferred).1
    exact ⟨hpos, by omega⟩
  · cases hpreferred

lemma handler_unread {request : RefRequest} (h : ¬PayloadRead renv data d request) :
    Undefined (requestHandler renv request data) d := by
  cases request with
  | hangup => exact Undefined.intAt fun v hv => absurd (Option.ne_none_iff_exists'.mpr ⟨v, hv⟩) h
  | separateConnection => exact Undefined.intAt fun v hv => absurd (Option.ne_none_iff_exists'.mpr ⟨v, hv⟩) h
  | smsAcknowledge => exact Undefined.intAt fun v hv => absurd (Option.ne_none_iff_exists'.mpr ⟨v, hv⟩) h
  | deleteSmsOnSim =>
    exact Undefined.onError.mpr (Undefined.intAt fun v hv => absurd (Option.ne_none_iff_exists'.mpr ⟨v, hv⟩) h)
  | cdmaSetRoamingPreference =>
    rw [PayloadRead, Classical.not_imp] at h
    rw [requestHandler, cdmaOnly, Undefined.bind (ref_get d), if_pos h.1]
    exact Undefined.onError.mpr (Undefined.intAt fun v hv => absurd (Option.ne_none_iff_exists'.mpr ⟨v, hv⟩) h.2)
  | radioPower =>
    refine Undefined.onError.mpr (Undefined.assert fun hpass => Undefined.intAt fun v hv => ?_)
    exact absurd ⟨Option.ne_none_iff_exists'.mpr ⟨v, hv⟩, hpass⟩ h
  | setUnsolCellInfoListRate =>
    refine Undefined.assert fun hpass => Undefined.intAt fun v hv => ?_
    exact absurd ⟨Option.ne_none_iff_exists'.mpr ⟨v, hv⟩, hpass⟩ h
  | setPreferredNetworkType => exact set_preferred_unread h
  | dial => exact Undefined.intField fun hc _ => Undefined.stringField fun s hs => absurd ⟨hc, s, hs⟩ h
  | dtmf =>
    refine Undefined.bind_undefined ?_
    rw [firstChar.eq_def]
    split
    · exact absurd ⟨_, rfl⟩ h
    · rfl
  | simIo => exact sim_io_unread h
  | writeSmsToSim =>
    refine Undefined.onError.mpr (Undefined.stringField fun p hp => Undefined.deref fun pdu hpdu => ?_)
    exact Undefined.intField fun hs _ => absurd ⟨⟨pdu, hpdu ▸ hp⟩, hs⟩ h
  | sendSms => exact send_sms_unread h
  | sendSmsExpectMore => exact send_sms_unread h
  | cdmaSendSms => exact Undefined.intField fun hid => absurd hid h
  | imsSendSms => exact ims_send_sms_unread h
  | setupDataCall =>
    exact Undefined.onError.mpr (Undefined.stringAt fun s hs => absurd (Option.ne_none_iff_exists'.mpr ⟨s, hs⟩) h)
  | _ => exact absurd trivial h

lemma send_sms_read (h : SmsRead d data) : ¬Undefined (requestSendSMS env data) d := by
  rw [requestSendSMS, Undefined.bind (ref_get d)]
  split
  · exact Undefined.record
  · rename_i hfail
    split
    · exact Undefined.record
    · rename_i hretry
      have hfits : SmsFits data := (h.resolve_left hfail).resolve_left hretry
      have hdefined : ¬Undefined (requestSendSMS env data) d := (send_sms_plainly fun hno => hno hfits).defined
      rwa [requestSendSMS, Undefined.bind (ref_get d), if_neg hfail, if_neg hretry] at hdefined

lemma ims_send_sms_read (h : ImsSmsRead d data) : ¬Undefined (requestImsSendSMS env data) d := by
  rw [requestImsSendSMS, Undefined.bind (ref_get d)]
  split
  · exact Undefined.record
  · rename_i hfail
    obtain ⟨tech, retry, messageRef, message, rfl, hread⟩ := h.resolve_left hfail
    dsimp only
    split
    · exact Undefined.record
    · rename_i hretry
      obtain ⟨hsms, hid⟩ := hread.resolve_left hretry
      split
      · rename_i h3gpp
        exact send_sms_read (hsms h3gpp)
      · split
        · rename_i h3gpp2
          exact (cdma_send_sms_plainly fun hno => hno (hid h3gpp2)).defined
        · exact Undefined.record

lemma set_cell_info_list_rate_read (hsome : (intsOf data)[0]? ≠ none) (hpass : renv.asserts → (intsOf data).length = 1) :
    ¬Undefined (requestSetCellInfoListRate renv data) d := by
  refine Plainly.defined (Q := fun _ => True) ?_
  refine (assert_plainly fun hno => hno.2 (hpass hno.1)).bind fun _ _ => (int_at_plainly hsome).bind fun _ _ => ?_
  refine (Plainly.modify fun _ => ?_).bind fun _ _ => complete_plainly _ _
  exact ⟨rfl, rfl, .refl _⟩

lemma handler_read {request : RefRequest} (htrust : ¬request.Trusting) (h : PayloadRead renv data d request) :
    ¬Undefined (requestHandler renv request data) d := by
  have hplain (hr : ¬request.ChangesRadio) (hfits : PayloadFits renv data request) :
      ¬Undefined (requestHandler renv request data) d := (handler_plainly hr (fun hno => hno hfits) htrust).defined
  cases request with
  | radioPower => exact (radio_power_keeps any_invariant fun hno => hno h).defined trivial
  | shutdown => exact (shutdown_keeps any_invariant).defined trivial
  | sendSms => exact send_sms_read h
  | sendSmsExpectMore => exact send_sms_read h
  | imsSendSms => exact ims_send_sms_read h
  | setUnsolCellInfoListRate => exact set_cell_info_list_rate_read h.1 h.2
  | cdmaSetRoamingPreference =>
    rw [requestHandler, cdmaOnly, Undefined.bind (ref_get d)]
    split
    · rename_i hcdma
      exact (set_roaming_preference_plainly (h hcdma)).defined
    · exact Undefined.record
  | _ => exact hplain id h

/-! ### The handlers that miscount -/

def csqCommand : AtCommand := { command := ascii "AT+CSQ", type := .singleline (ascii "+CSQ:") }

/-- The modem gives the strength of the signal, with a line. -/
def SignalAnswered (env : RefEnv) (d : RefRil) : Prop :=
  (succeeded (needsIntermediate (env.answer d.commands csqCommand))).isSome = true

lemma completed_completions (e : Samsung.RilErrno) (response : RefResponse) (d : RefRil) :
    (d.completed e response).completions = d.completions + 1 := List.countP_cons_of_pos rfl

lemma sent_completions (c : AtCommand) (d : RefRil) : (d.sent c).completions = d.completions :=
  List.countP_cons_of_neg Bool.false_ne_true

lemma completed_twice {c : AtCommand} {e e' : Samsung.RilErrno} {response response' : RefResponse}
    (h : handler d = (.ok (), ((d.sent c).completed e response).completed e' response')) : ¬CompletedOnce handler d := by
  rintro ⟨-, hcount⟩
  rw [h, completed_completions, completed_completions, sent_completions] at hcount
  omega

/-- What is left of the request once the modem has answered -/
def signalStrengthRest (env : RefEnv) (response : AtResponse) : RefM Unit :=
  onError (do
    let vs ← tokens (do atTokStart; nextints env.longBits signalStrengthElements) (← firstLine response)
    onRequestComplete .success (.ints vs))
    (onRequestComplete .genericFailure .null)

lemma signal_strength_run : requestSignalStrength env d =
    match succeeded (needsIntermediate (env.answer d.commands csqCommand)) with
    | none => (.ok (), ((d.sent csqCommand).completed .genericFailure .null).completed .genericFailure .null)
    | some response => signalStrengthRest env response (d.sent csqCommand) := by
  have hrun : atSendCommandSingleline env (ascii "AT+CSQ") (ascii "+CSQ:") d =
      (.ok (needsIntermediate (env.answer d.commands csqCommand)), d.sent csqCommand) := rfl
  rw [requestSignalStrength, onError, ref_bind, hrun]
  dsimp only
  cases succeeded (needsIntermediate (env.answer d.commands csqCommand)) with
  | none => rfl
  | some response => rfl

lemma signal_strength_once : CompletedOnce (requestSignalStrength env) d ↔ SignalAnswered env d := by
  have hrun := @signal_strength_run env d
  cases hanswer : succeeded (needsIntermediate (env.answer d.commands csqCommand)) with
  | none =>
    rw [hanswer] at hrun
    refine iff_of_false (completed_twice hrun) ?_
    rw [SignalAnswered, hanswer]
    exact Bool.false_ne_true
  | some response =>
    rw [hanswer] at hrun
    have hcounted : Counted False 1 (signalStrengthRest env response) := by
      refine Counted.onError ?_ (complete_counted _ _)
      exact (first_line_counted _).bind fun _ => (tokens_counted _ _).bind fun _ => complete_counted _ _
    have hdefined : ¬Undefined (requestSignalStrength env) d := signal_strength_plainly.defined
    rw [Undefined, hrun] at hdefined
    have honce := (completed_once_iff hcounted).mpr hdefined
    rw [CompletedOnce, sent_completions] at honce
    rw [CompletedOnce, hrun]
    refine iff_of_true honce ?_
    rw [SignalAnswered, hanswer]
    rfl

lemma sms_acknowledge_once :
    CompletedOnce (requestSMSAcknowledge env data) d ↔ ∃ v, (intsOf data)[0]? = some v ∧ v ≠ 1 ∧ v ≠ 0 := by
  cases hdata : (intsOf data)[0]? with
  | none =>
    have hundefined : Undefined (requestSMSAcknowledge env data) d :=
      Undefined.intAt fun v hv => by cases hdata.symm.trans hv
    refine iff_of_false (fun h => ?_) fun ⟨v, hv, _⟩ => by cases hv
    cases hundefined.symm.trans h.1
  | some v =>
    have hread : intAt data 0 d = (.ok v, d) := by
      rw [intAt, hdata]
      rfl
    by_cases h1 : v = 1
    · have hrun : requestSMSAcknowledge env data d = (.ok (), ((d.sent
          { command := ascii "AT+CNMA=1", type := .noResult, outResponse := false }).completed .success .null).completed
            .genericFailure .null) := by
        rw [requestSMSAcknowledge, ref_bind, hread]
        dsimp only
        rw [if_pos h1]
        rfl
      exact iff_of_false (completed_twice hrun) fun ⟨w, hw, hne, _⟩ => hne (Option.some.inj hw ▸ h1)
    · by_cases h0 : v = 0
      · have hrun : requestSMSAcknowledge env data d = (.ok (), ((d.sent
            { command := ascii "AT+CNMA=2", type := .noResult, outResponse := false }).completed .success .null).completed
              .genericFailure .null) := by
          rw [requestSMSAcknowledge, ref_bind, hread]
          dsimp only
          rw [if_neg h1, if_pos h0]
          rfl
        exact iff_of_false (completed_twice hrun) fun ⟨w, hw, _, hne⟩ => hne (Option.some.inj hw ▸ h0)
      · have hrun : requestSMSAcknowledge env data d = (.ok (), d.completed .genericFailure .null) := by
          rw [requestSMSAcknowledge, ref_bind, hread]
          dsimp only
          rw [if_neg h1, if_neg h0]
          rfl
        rw [CompletedOnce, hrun]
        exact iff_of_true ⟨rfl, completed_completions _ _ d⟩ ⟨v, rfl, h1, h0⟩

/-! ### The requests -/

/-- The gate of the radio -/
def RefRil.lets (d : RefRil) (request : RefRequest) : Prop :=
  (d.sState = .unavailable → request = .getSimStatus) ∧
    (d.sState = .off → request = .radioPower ∨ request = .getSimStatus)

/-- A request that is let through is answered exactly once. -/
def AnswersOnce (env : RequestEnv) (data : RequestData) (d : RefRil) : RefRequest → Prop
  | .signalStrength => SignalAnswered env.toRefEnv d
  | .smsAcknowledge => ∃ ackSuccess, (intsOf data)[0]? = some ackSuccess ∧ ackSuccess ≠ 1 ∧ ackSuccess ≠ 0
  | .setNetworkSelectionAutomatic => False
  | request => PayloadRead env data d request ∧ ¬Breaks env d (.request request data)

lemma request_let {request : RefRequest} (h : d.lets request) :
    onRequest renv request data d = requestHandler renv request data d := by
  rw [onRequest, ref_bind, ref_get]
  dsimp only
  rw [if_neg fun hu => hu.2 (h.1 hu.1), if_neg fun ho => ho.2 (h.2 ho.1)]

lemma request_not_let {request : RefRequest} (h : ¬d.lets request) :
    onRequest renv request data d = (.ok (), d.completed .radioNotAvailable .null) := by
  rw [onRequest, ref_bind, ref_get]
  dsimp only
  split
  · rfl
  · rename_i hu
    rw [if_pos]
    · rfl
    · by_contra ho
      exact h ⟨fun hs => by_contra fun hr => hu ⟨hs, hr⟩, fun hs => by_contra fun hr => ho ⟨hs, hr⟩⟩

lemma RefRil.lets.available {request : RefRequest} (h : d.lets request) (hpower : request ≠ .radioPower)
    (hsim : request ≠ .getSimStatus) : d.Available :=
  ⟨fun hs => hsim (h.1 hs), fun hs => (h.2 hs).elim hpower hsim⟩

lemma handler_defined_iff {request : RefRequest} (h : d.lets request) :
    ¬Undefined (requestHandler renv request data) d ↔
      PayloadRead renv data d request ∧ ¬Breaks renv d (.request request data) := by
  by_cases htrust : request.Trusting
  · have hiff : Undefined (requestHandler renv request data) d ↔ Breaks renv d (.request request data) := by
      cases request with
      | registration request =>
        exact (registration_undefined request).trans (and_iff_right (h.available nofun nofun)).symm
      | operator => exact operator_undefined.trans (and_iff_right (h.available nofun nofun)).symm
      | getSimStatus => exact card_status_undefined
      | _ => exact htrust.elim
    have hread : PayloadRead renv data d request := by
      cases request with
      | registration request => exact trivial
      | operator => exact trivial
      | getSimStatus => exact trivial
      | _ => exact htrust.elim
    rw [hiff, and_iff_right hread]
  · have hbreaks : ¬Breaks renv d (.request request data) := by
      cases request with
      | registration request => exact absurd trivial htrust
      | operator => exact absurd trivial htrust
      | getSimStatus => exact absurd trivial htrust
      | _ => exact id
    rw [and_iff_left hbreaks]
    exact ⟨fun hd => by_contra fun hno => hd (handler_unread hno), handler_read htrust⟩

/-- A call of `onRequest` completes its request exactly once, whatever the request, the payload, the state and the
answers of the modem, if and only if it is refused by the gate or the handler meets its condition. -/
theorem request_completed_once (env : RequestEnv) (d : RefRil) (request : RefRequest) (data : RequestData) :
    CompletedOnce (onRequest env request data) d ↔ (d.lets request → AnswersOnce env data d request) := by
  by_cases h : d.lets request
  · rw [CompletedOnce, request_let h, forall_prop_of_true h]
    by_cases hmiscounts : request.Miscounts
    · cases request with
      | signalStrength => exact signal_strength_once
      | smsAcknowledge => exact sms_acknowledge_once
      | setNetworkSelectionAutomatic =>
        have hnever : Counted False 0 (requestHandler env .setNetworkSelectionAutomatic data) := send_only_counted _
        exact iff_of_false (not_completed_once hnever Nat.zero_ne_one) id
      | _ => exact hmiscounts.elim
    · have hcounted : Counted False 1 (requestHandler env request data) := handler_counted hmiscounts
      have hiff := (completed_once_iff hcounted).trans (handler_defined_iff h)
      cases request with
      | signalStrength => exact absurd trivial hmiscounts
      | smsAcknowledge => exact absurd trivial hmiscounts
      | setNetworkSelectionAutomatic => exact absurd trivial hmiscounts
      | _ => exact hiff
  · rw [CompletedOnce, request_not_let h]
    exact iff_of_true ⟨rfl, completed_completions _ _ d⟩ fun hlets => absurd hlets h

/-- A modem that refuses `AT+CSQ`: the request is completed twice. -/
theorem signal_strength_completed_twice : ¬∀ (env : RequestEnv) (d : RefRil) (request : RefRequest),
    (∀ n c r, c.outResponse = true → env.answer n c = .ok r → ChannelAnswers c r) → PayloadFits env .null request →
      CompletedOnce (onRequest env request .null) d := by
  intro h
  have honce := h refusingModem { sState := .on } .signalStrength ?_ trivial
  · have hcount := honce.2
    revert hcount
    decide
  · intro n c r hout hr
    obtain rfl := Except.ok.inj hr
    exact channel_refuses hout

end Ril.Reference
