import Ril.Reference.RadioRuns

/-! The SIM is polled while the radio is `SIM_NOT_READY`, a state that the reference RIL never has. -/

namespace Ril.Reference

open Lib
open Ril.Samsung (RilRadioState)

/-! ### The poll -/

def cpinCommand : AtCommand := { command := ascii "AT+CPIN?", type := .singleline (ascii "+CPIN:") }

/-- The set-up of `onSIMReady` -/
def smsCommands : List AtCommand := [
  { command := ascii "AT+CSMS=1", type := .singleline (ascii "+CSMS:"), outResponse := false },
  { command := ascii "AT+CNMI=1,2,2,1,1", type := .noResult, outResponse := false }]

def RefRecord.isSent : RefRecord → Bool
  | .sent _ => true
  | _ => false

def radioReport : RefRecord := .unsolicited .radioStateChanged .null

def simReport : RefRecord := .unsolicited .simStatusChanged .null

/-- Since the last change of the radio the SIM was asked for its status. The answer was definite, and the SIM was
reported behind it, with the set-up before the report if it was ready. -/
def Polled (env : RefEnv) (log : List RefRecord) : Prop :=
  ∃ later between earlier status, log = later ++ simReport :: (between ++ .sent cpinCommand :: earlier) ∧
    radioReport ∉ later ++ between ∧
    (getSIMStatus env { sState := .on, commands := earlier.countP RefRecord.isSent }).1 = .ok status ∧
    status ≠ .notReady ∧
    (status = .ready → ∀ c ∈ smsCommands, .sent c ∈ between)

/-- While the radio is on a poll is scheduled, or has been done. -/
def PollingGoesOn (env : RefEnv) (s : RefSystem) : Prop :=
  s.ril.sState = .on → 0 < s.scheduled .pollSIMState ∨ Polled env s.ril.log

/-! ### What is kept -/

/-- The SIM is reported only right behind the radio. -/
structure NeverPolls (d : RefRil) : Prop where
  radio : Settable d.sState
  unscheduled : .requestTimedCallback .pollSIMState ∉ d.log
  reports : ∀ later earlier, d.log = later ++ simReport :: earlier → ∃ rest, earlier = radioReport :: rest

variable {env : RequestEnv} {d d' : RefRil} {s s' : RefSystem} {I : RefRil → Prop} {a : RefAction}

lemma NeverPolls.plain (h : NeverPolls d) (hp : Plain d d') : NeverPolls d' := by
  refine ⟨hp.sState ▸ h.radio, ?_, ?_⟩
  · intro hmem
    rcases hp.log.mem hmem with hnew | hold
    · exact hnew rfl
    · exact h.unscheduled hold
  · intro later earlier hlog
    obtain ⟨new, hnew, hplain⟩ := hp.log
    rw [hnew] at hlog
    rcases split_append hlog with ⟨mid, rfl, -⟩ | ⟨later', hold⟩
    · exact absurd rfl (hplain simReport (by simp)).2
    · exact h.reports later' earlier hold

lemma NeverPolls.report {newState : RilRadioState} (h : NeverPolls d) (hs : Settable newState) :
    NeverPolls (d.reportRadio newState) := by
  refine ⟨hs, ?_, ?_⟩
  · intro hmem
    rcases List.mem_cons.mp hmem with heq | hmem
    · cases heq
    rcases List.mem_cons.mp hmem with heq | hmem
    · cases heq
    · exact h.unscheduled hmem
  · intro later earlier hlog
    rcases split_cons hlog with ⟨-, -, rfl⟩ | ⟨later', -, hlog⟩
    · exact ⟨d.log, rfl⟩
    rcases split_cons hlog with ⟨-, heq, -⟩ | ⟨later', -, hlog⟩
    · cases heq
    · exact h.reports later' earlier hlog

lemma never_polls_invariant : RadioInvariant NeverPolls where
  plain _ _ hp h := h.plain hp
  report _ _ hs _ h := h.report hs
  close _ _ h := ⟨h.radio, h.unscheduled, h.reports⟩

lemma init_never_polls : NeverPolls RefSystem.init.ril := by
  have hlog : RefSystem.init.ril.log = [.requestTimedCallback .initializeCallback] := rfl
  refine ⟨.unavailable, by simp [hlog], ?_⟩
  intro later earlier h
  rw [hlog] at h
  rcases split_cons h with ⟨-, heq, -⟩ | ⟨later', -, hnil⟩
  · cases heq
  · exact absurd hnil (by simp)

/-! ### The runs -/

/-- Whatever the handlers keep holds behind each of them, as long as the radio is in one of its states. -/
lemma action_keeps (hI : RadioInvariant I) (hradio : ∀ d, I d → Settable d.sState) (a : RefAction) :
    Keeps True I (actionHandler env a) := by
  cases a with
  | request request data => exact request_keeps hI (fun _ => trivial) fun _ => trivial
  | callback callback =>
    cases callback with
    | initializeCallback => exact initialize_keeps hI
    | pollSIMState =>
      intro d hd
      have hready : d.sState ≠ .simNotReady := by
        intro heq
        cases heq ▸ hradio d hd
      have hrun : actionHandler env (.callback .pollSIMState) d = (.ok (), d) := poll_returns hready
      rw [hrun]
      exact .ok hd
    | sendCallStateChanged => exact report_keeps hI ⟨nofun, nofun⟩
    | onDataCallListChanged => exact (data_call_list_plainly false).keeps hI
  | line s smsPdu => exact unsolicited_keeps hI (fun _ => trivial) fun _ _ => trivial
  | readerClosed => exact reader_closed_keeps hI
  | timeout => exact reader_closed_keeps hI
  | opened => exact open_keeps hI

lemma step_keeps (hI : RadioInvariant I) (hradio : ∀ d, I d → Settable d.sState) (hs : I s.ril)
    (h : refStep env s a = some s') : I s'.ril := by
  have hends : EndsIn _ _ (actionHandler env a s.ril) := action_keeps hI hradio a s.ril hs
  rw [refStep] at h
  split at h
  · generalize actionHandler env a s.ril = r at h hends
    cases hends with
    | ok hd =>
      obtain rfl := Option.some.inj h
      exact hd
    | @error e d hd =>
      cases e with
      | undefined => cases h
      | error =>
        obtain rfl := Option.some.inj h
        exact hd.1
  · cases h

lemma reaches_never_polls (h : Reaches (refStep env) (fun _ _ => True) .init s) : NeverPolls s.ril :=
  h.invariant init_never_polls fun _ _ _ _ hs _ hstep => step_keeps never_polls_invariant (fun _ h => h.radio) hs hstep

lemma NeverPolls.unpolled (h : NeverPolls d) (env : RefEnv) : ¬Polled env d.log := by
  rintro ⟨later, between, earlier, status, hlog, hsince, -⟩
  obtain ⟨rest, hrest⟩ := h.reports later _ hlog
  cases between with
  | nil => cases hrest
  | cons r between =>
    obtain ⟨rfl, -⟩ := List.cons.inj hrest
    exact hsince (by simp)

lemma NeverPolls.stops (h : NeverPolls s.ril) (env : RefEnv) (hon : s.ril.sState = .on) : ¬PollingGoesOn env s := by
  intro hgoes
  rcases hgoes hon with hscheduled | hpolled
  · rw [RefSystem.scheduled, List.count_eq_zero_of_not_mem h.unscheduled] at hscheduled
    omega
  · exact h.unpolled env hpolled

theorem polling_stops {env : RequestEnv} {s : RefSystem} (h : Reaches (refStep env) (fun _ _ => True) .init s) :
    PollingGoesOn env.toRefEnv s ↔ s.ril.sState ≠ .on := by
  constructor
  · intro hgoes hon
    exact (reaches_never_polls h).stops _ hon hgoes
  · intro hoff hon
    exact absurd hon hoff

/-- A modem that is on, with a SIM that is ready. It knows neither `AT+CTEC` nor `AT+WNAM`. -/
def readyAnswer (c : AtCommand) : AtResponse :=
  let ok (lines : List Bytes) : AtResponse := { success := true, finalResponse := some (ascii "OK"), intermediates := lines }
  if c.command = ascii "AT+CFUN?" then ok [ascii "+CFUN: 1"]
  else if c.command = ascii "AT+CPIN?" then ok [ascii "+CPIN: READY"]
  else if c.type = .noResult then ok []
  else { finalResponse := some (ascii "ERROR") }

def readyModem : RequestEnv where
  longBits := 64
  answer _ c := .ok (readyAnswer c)
  asserts := false
  pointerSize := 8
  property _ := []
  qmi := none

lemma ready_modem_on : ((refStep readyModem .init (.callback .initializeCallback)).map fun s => s.ril.sState) = some .on := by
  decide +kernel

lemma ready_modem_reaches : ∃ s, Reaches (refStep readyModem) (fun _ _ => True) .init s ∧ s.ril.sState = .on := by
  obtain ⟨s, hs, hon⟩ := Option.map_eq_some_iff.mp ready_modem_on
  exact ⟨s, .tail .refl trivial hs, hon⟩

theorem polling_stops_ready : ∃ s, s.ril.sState = .on ∧ (PollingGoesOn readyModem.toRefEnv s ↔ s.ril.sState ≠ .on) := by
  obtain ⟨s, hs, hon⟩ := ready_modem_reaches
  exact ⟨s, hon, polling_stops hs⟩

/-- The radio is on after the start, and the SIM that is ready is never asked. -/
theorem ready_sim_not_polled : ∃ s, Reaches (refStep readyModem) (fun _ _ => True) .init s ∧
    ¬PollingGoesOn readyModem.toRefEnv s := by
  obtain ⟨s, hs, hon⟩ := ready_modem_reaches
  exact ⟨s, hs, (reaches_never_polls hs).stops _ hon⟩

end Ril.Reference
