import Ril.Reference.PlainHandlers
import Ril.Reference.RefSystem

/-! What every handler of the reference RIL keeps, whatever becomes of the radio. -/

namespace Ril.Reference

open Lib
open Ril.Samsung (RilRadioState)
open Ril.Libril (RequestData)

/-- The states that `setRadioState` is called with -/
inductive Settable : RilRadioState → Prop
  | off : Settable .off
  | on : Settable .on
  | unavailable : Settable .unavailable

/-- A new state is reported, and with it the SIM. -/
def RefRil.reportRadio (newState : RilRadioState) (d : RefRil) : RefRil :=
  { d with
    sState := newState
    log := .unsolicited .simStatusChanged .null :: .unsolicited .radioStateChanged .null :: d.log }

def RefRil.setRadio (newState : RilRadioState) (d : RefRil) : RefRil :=
  let newState := if d.closed then .unavailable else newState
  if newState = d.sState then d else d.reportRadio newState

/-- What plain programs and new states of the radio keep -/
structure RadioInvariant (I : RefRil → Prop) : Prop where
  plain : ∀ d d', Plain d d' → I d → I d'
  report : ∀ d newState, Settable newState → newState ≠ d.sState → I d → I (d.reportRadio newState)
  close : ∀ d closed, I d → I { d with closed := closed }

/-- The program keeps `I`, and is undefined only where it may be. -/
def Keeps (may : Prop) (I : RefRil → Prop) {α : Type} (m : RefM α) : Prop :=
  Outcome I m (fun _ => I) fun e d => I d ∧ (e = .undefined → may)

variable {env : RefEnv} {renv : RequestEnv} {data : RequestData} {may : Prop} {I : RefRil → Prop} {α β : Type} {m : RefM α}
  {f : α → RefM β} {newState : RilRadioState} {d d' : RefRil}

lemma Plainly.keeps {Q : α → Prop} (hI : RadioInvariant I) (h : Plainly may m Q) : Keeps may I m := by
  intro d hd
  exact (h d d (.refl d)).mono (fun _ s hs => hI.plain d s hs.1 hd) fun _ s hs => ⟨hI.plain d s hs.1 hd, hs.2⟩

namespace Keeps

lemma bind (hm : Keeps may I m) (hf : ∀ a, Keeps may I (f a)) : Keeps may I (m >>= f) := Outcome.bind hm hf

lemma ite {c : Prop} [Decidable c] {n : RefM α} (hm : c → Keeps may I m) (hn : ¬c → Keeps may I n) :
    Keeps may I (if c then m else n) := Outcome.ite hm hn

lemma pure {a : α} : Keeps may I (pure a : RefM α) := Outcome.pure fun _ h => h

lemma read {f : RefRil → RefM β} (hf : ∀ d, Keeps may I (f d)) : Keeps may I ((get : RefM RefRil) >>= f) :=
  Outcome.read fun _ hs => (hf _).weaken fun _ ht => ht ▸ hs

lemma onError {handler rest : RefM Unit} (hh : Keeps may I handler) (hr : Keeps may I rest) :
    Keeps may I (onError handler rest) := on_error_outcome hh (hr.weaken fun _ h => h.1)

lemma error : Keeps may I (throw .error : RefM α) := Outcome.throw fun _ h => ⟨h, nofun⟩

end Keeps

/-! ### The radio -/

lemma poll_returns (h : d.sState ≠ .simNotReady) : pollSIMState env d = (.ok (), d) := by
  simp only [pollSIMState, ref_bind, ref_get, if_neg h]
  rfl

lemma set_radio_run (h : Settable newState) : setRadioState env newState d = (.ok (), d.setRadio newState) := by
  have hstate : Settable (if d.closed then .unavailable else newState) := by
    split
    · exact .unavailable
    · exact h
  rw [RefRil.setRadio]
  generalize hnew : (if d.closed then RilRadioState.unavailable else newState) = new at hstate
  simp only [setRadioState, ref_bind, ref_get, ref_modify, hnew]
  by_cases heq : new = d.sState
  · subst heq
    simp [ref_pure]
  · rw [if_pos heq, if_neg heq]
    simp only [ref_bind, onUnsolicitedResponse, record, ref_modify]
    split
    · rw [onRadioPowerOn, poll_returns]
      · rfl
      · rename_i hon
        rw [hon]
        nofun
    · rfl

lemma set_radio_keeps (hI : RadioInvariant I) (h : Settable newState) : Keeps may I (setRadioState env newState) := by
  intro d hd
  rw [set_radio_run h]
  apply EndsIn.ok
  by_cases hsame : (if d.closed then .unavailable else newState) = d.sState
  · rw [RefRil.setRadio, if_pos hsame]
    exact hd
  · rw [RefRil.setRadio, if_neg hsame]
    refine hI.report d _ ?_ hsame hd
    split
    · exact .unavailable
    · exact h

lemma is_radio_on_plainly : Plainly may (isRadioOn env) fun _ => True := by
  refine (singleline_plainly _ _).bind fun r hr => ?_
  split
  · exact Plainly.pure trivial
  · rename_i response hresponse
    refine (first_line_plainly fun hnil => absurd hnil (hr _ hresponse)).bind fun line _ => ?_
    split
    · exact Plainly.pure trivial
    · exact Plainly.pure trivial

lemma radio_power_keeps (hI : RadioInvariant I) (hfits : ¬PayloadFits renv data .radioPower → may) :
    Keeps may I (requestRadioPower renv data) := by
  have hcomplete : Keeps may I (onRequestComplete .success .null) := (complete_plainly _ _).keeps hI
  have hon : Keeps may I (do setRadioState renv.toRefEnv .on; onRequestComplete .success .null) :=
    (set_radio_keeps hI .on).bind fun _ => hcomplete
  refine Keeps.onError ?_ ((complete_plainly _ _).keeps hI)
  refine ((assert_plainly fun hno => hfits fun hf => hno.2 (hf.2 hno.1)).keeps hI).bind fun _ => ?_
  refine ((int_at_plainly fun hnone => hfits fun hf => hf.1 hnone).keeps hI).bind fun onOff => ?_
  refine Keeps.read fun d => Keeps.ite (fun _ => ?_) fun _ => Keeps.ite (fun _ => ?_) fun _ => hcomplete
  · refine ((send_plainly _).keeps hI).bind fun _ => ((or_error_plainly _).keeps hI).bind fun _ => ?_
    exact (set_radio_keeps hI .off).bind fun _ => hcomplete
  · refine ((send_plainly _).keeps hI).bind fun _ => Keeps.ite (fun _ => ?_) fun _ => hon
    exact (is_radio_on_plainly.keeps hI).bind fun _ => Keeps.ite (fun _ => Keeps.error) fun _ => hon

lemma shutdown_keeps (hI : RadioInvariant I) : Keeps may I (requestShutdown env) := by
  have hcomplete : Keeps may I (onRequestComplete .success .null) := (complete_plainly _ _).keeps hI
  refine Keeps.read fun d => Keeps.ite (fun _ => ?_) fun _ => hcomplete
  exact ((send_plainly _).keeps hI).bind fun _ => (set_radio_keeps hI .unavailable).bind fun _ => hcomplete

lemma request_keeps (hI : RadioInvariant I) {request : RefRequest} (hfits : ¬PayloadFits renv data request → may)
    (htrust : request.Trusting → may) : Keeps may I (onRequest renv request data) := by
  have hcomplete : Keeps may I (onRequestComplete .radioNotAvailable .null) := (complete_plainly _ _).keeps hI
  by_cases hr : request.ChangesRadio
  · refine Keeps.read fun d => Keeps.ite (fun _ => hcomplete) fun _ => Keeps.ite (fun _ => hcomplete) fun _ => ?_
    cases request with
    | radioPower => exact radio_power_keeps hI hfits
    | shutdown => exact shutdown_keeps hI
    | _ => exact hr.elim
  · exact (request_plainly hr hfits htrust).keeps hI

/-! ### The start -/

lemma handshake_plainly (tries : ℕ) : Plainly may (handshakeTries env tries) fun _ => True := by
  induction tries with
  | zero => exact Plainly.pure trivial
  | succ n ih =>
    refine (command_plainly _).bind fun r _ => ?_
    cases r with
    | error e => exact ih
    | ok r => exact Plainly.pure trivial

lemma query_supported_plainly : Plainly may (querySupportedTechs env) fun _ => True := by
  refine (singleline_plainly _ _).bind fun r hr => ?_
  split
  · exact Plainly.pure trivial
  · rename_i response hresponse
    exact (first_line_plainly fun hnil => absurd hnil (hr _ hresponse)).bind fun _ _ => Plainly.pure trivial

lemma probe_plainly : Plainly may (probeForModemMode env) fun _ => True := by
  have hmodem (g : RefRil → ModemInfo) : Plainly may (modify fun d => { d with modem := g d } : RefM Unit) fun _ => True :=
    Plainly.modify fun _ => ⟨rfl, rfl, .refl _⟩
  refine Plainly.bind (Q := fun _ => True) ?_ fun multimode _ => Plainly.ite (fun _ => ?_) fun _ => Plainly.pure trivial
  · refine query_ctec_plainly.bind fun r _ => ?_
    split
    · refine (hmodem _).bind fun _ _ => query_supported_plainly.bind fun techs _ => ?_
      cases techs with
      | none => exact Plainly.pure trivial
      | some techs => exact (hmodem _).bind fun _ _ => Plainly.pure trivial
    · exact Plainly.pure trivial
  · exact (singleline_plainly _ _).bind fun r _ => hmodem _

lemma initialize_keeps (hI : RadioInvariant I) : Keeps may I (initializeCallback env) := by
  refine (set_radio_keeps hI .off).bind fun _ => ((handshake_plainly _).keeps hI).bind fun _ => ?_
  refine (probe_plainly.keeps hI).bind fun _ => ((send_all_plainly _).keeps hI).bind fun _ => ?_
  have hevents : Plainly may (registrationEvents env) fun _ => True :=
    (send_plainly _).bind fun _ _ => Plainly.ite (fun _ => send_only_plainly _) fun _ => Plainly.pure trivial
  refine (hevents.keeps hI).bind fun _ => ((send_all_plainly _).keeps hI).bind fun _ => ?_
  exact (is_radio_on_plainly.keeps hI).bind fun _ => Keeps.ite (fun _ => set_radio_keeps hI .on) fun _ => Keeps.pure

lemma reader_closed_keeps (hI : RadioInvariant I) : Keeps may I (onATReaderClosed env) :=
  Outcome.bind (Q := fun _ => I) (Outcome.modify fun d hd => hI.close d true hd) fun _ => set_radio_keeps hI .unavailable

lemma open_keeps (hI : RadioInvariant I) : Keeps may I openChannel :=
  Outcome.bind (Q := fun _ => I) (Outcome.modify fun d hd => hI.close d false hd) fun _ =>
    (record_plainly (by simp [RefRecord.Plain])).keeps hI

/-! ### The unsolicited lines -/

lemma sms_line_plainly {u : RefUnsol} {smsPdu : Option Bytes} (hu : u ≠ .radioStateChanged ∧ u ≠ .simStatusChanged)
    (h : smsPdu = none → may) : Plainly may (onSms u smsPdu) fun _ => True :=
  (deref_plainly h).bind fun _ _ => unsolicited_plainly _ hu

lemma report_keeps (hI : RadioInvariant I) {u : RefUnsol} {response : RefResponse}
    (hu : u ≠ .radioStateChanged ∧ u ≠ .simStatusChanged) : Keeps may I (onUnsolicitedResponse u response) :=
  (unsolicited_plainly _ hu).keeps hI

lemma sms_line_keeps (hI : RadioInvariant I) {u : RefUnsol} {smsPdu : Option Bytes}
    (hu : u ≠ .radioStateChanged ∧ u ≠ .simStatusChanged) (h : smsPdu = none → may) : Keeps may I (onSms u smsPdu) :=
  (sms_line_plainly hu h).keeps hI

lemma item_keeps (hI : RadioInvariant I) {item : Tok α} {s : Bytes} {u : α → RefUnsol} {response : α → RefResponse}
    (hu : ∀ v, u v ≠ .radioStateChanged ∧ u v ≠ .simStatusChanged) :
    Keeps may I (onItem item s fun v => onUnsolicitedResponse (u v) (response v)) := by
  rw [onItem]
  split
  · exact Keeps.pure
  · exact report_keeps hI (hu _)

/-- The line has a time. -/
def IsNitzLine (s : Bytes) : Prop := strStartsWith s (ascii "%CTZV:") = true

lemma unsolicited_keeps (hI : RadioInvariant I) {s : Bytes} {smsPdu : Option Bytes} (hnitz : IsNitzLine s → may)
    (hpdu : isSMSUnsolicited s = true → smsPdu = none → may) : Keeps may I (onUnsolicited env s smsPdu) := by
  have hsms (p : Bytes) (hp : p ∈ smsUnsoliciteds) (h : strStartsWith s p = true) : smsPdu = none → may :=
    hpdu (List.any_eq_true.mpr ⟨p, hp, h⟩)
  refine Keeps.read fun d => Keeps.ite (fun _ => ?_) fun _ => Keeps.pure
  rw [unsolicitedHandler]
  refine Keeps.ite (fun h => ?_) fun _ => ?_
  · refine Plainly.keeps hI (Q := fun _ => True) ?_
    rw [onNitzTime]
    split
    · exact Plainly.pure trivial
    · exact Plainly.undefined (hnitz h)
  refine Keeps.ite (fun _ => report_keeps hI ⟨by simp, by simp⟩) fun _ => ?_
  refine Keeps.ite (fun _ => report_keeps hI ⟨by simp, by simp⟩) fun _ => ?_
  refine Keeps.ite (fun h => sms_line_keeps hI ⟨by simp, by simp⟩ (hsms _ (by simp [smsUnsoliciteds]) h)) fun _ => ?_
  refine Keeps.ite (fun h => sms_line_keeps hI ⟨by simp, by simp⟩ (hsms _ (by simp [smsUnsoliciteds]) h)) fun _ => ?_
  refine Keeps.ite (fun _ => (record_plainly (by simp [RefRecord.Plain])).keeps hI) fun _ => ?_
  refine Keeps.ite (fun _ => Plainly.keeps hI (Q := fun _ => True) ?_) fun _ => ?_
  · rw [onTechnology]
    split
    · exact Plainly.pure trivial
    · exact Plainly.ite (fun _ => set_radio_technology_plainly _) fun _ => Plainly.pure trivial
  refine Keeps.ite (fun _ => item_keeps hI fun _ => ⟨by simp, by simp⟩) fun _ => ?_
  refine Keeps.ite (fun _ => item_keeps hI fun state => ?_) fun _ => ?_
  · cases state with
    | false => exact ⟨by simp, by simp⟩
    | true => exact ⟨by simp, by simp⟩
  refine Keeps.ite (fun _ => item_keeps hI fun _ => ⟨by simp, by simp⟩) fun _ => ?_
  exact Keeps.ite (fun _ => set_radio_keeps hI .off) fun _ => Keeps.pure

end Ril.Reference
