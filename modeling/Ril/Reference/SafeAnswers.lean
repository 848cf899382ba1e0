import Ril.Reference.RegistrationAnswers
import Ril.Reference.SimPolling

/-! Which answers of the modem, and which lines, make the reference RIL use what is not there. -/

namespace Ril.Reference

open Lib

/-! ### The answers -/

/-- The lines of the operator as far as the place that is written -/
def IsOperatorLine (longBits : ℕ) (line : Bytes) : Prop := (operatorCursor longBits (some line)).isSome = true

def operatorCommand : AtCommand where
  command := ascii "AT+COPS=3,0;+COPS?;+COPS=3,1;+COPS?;+COPS=3,2;+COPS?"
  type := .multiline (ascii "+COPS:")

/-- Three lines have a place. -/
def OverflowsOperator (env : RefEnv) (d : RefRil) : Prop :=
  ∃ r, env.answer d.commands operatorCommand = .ok r ∧ 3 < r.intermediates.length ∧
    ∀ line ∈ r.intermediates.take 4, IsOperatorLine env.longBits line

/-- An error without a line, or a line with fewer than three items -/
def BreaksRegistration (env : RefEnv) (request : RegistrationRequest) (d : RefRil) : Prop :=
  ∃ r, env.answer d.commands request.command = .ok r ∧
    match r.intermediates with
    | [] => r.success = false
    | line :: _ => HasForm env.longBits line 1 ∨ HasForm env.longBits line 2

/-- `+CME ERROR: 0`, the code that also stands for a success, and no line -/
def BreaksSimStatus (env : RefEnv) (d : RefRil) : Prop :=
  ∃ r, env.answer d.commands cpinCommand = .ok r ∧ r.success = false ∧ r.intermediates = [] ∧
    atGetCmeError env.longBits r = cmeSuccess

def RefRil.Available (d : RefRil) : Prop := d.sState ≠ .unavailable ∧ d.sState ≠ .off

def Breaks (env : RequestEnv) (d : RefRil) : RefAction → Prop
  | .request (.registration request) _ => d.Available ∧ BreaksRegistration env.toRefEnv request d
  | .request .operator _ => d.Available ∧ OverflowsOperator env.toRefEnv d
  | .request .getSimStatus _ => d.Available ∧ BreaksSimStatus env.toRefEnv d
  | .callback .pollSIMState => d.sState = .simNotReady ∧ BreaksSimStatus env.toRefEnv d
  | .line s _ => d.sState ≠ .unavailable ∧ IsNitzLine s
  | _ => False

/-- A request has the payload that its handler reads, and an SMS comes with its second line. -/
def Fits (env : RequestEnv) : RefAction → Prop
  | .request request data => PayloadFits env data request
  | .line s smsPdu => isSMSUnsolicited s = true → smsPdu.isSome = true
  | _ => True

/-! ### Undefined programs -/

variable {env : RefEnv} {renv : RequestEnv} {d d' : RefRil} {α β : Type} {m : RefM α} {f : α → RefM β}

def Undefined (m : RefM α) (d : RefRil) : Prop := (m d).1 = .error .undefined

namespace Undefined

lemma bind {a : α} (h : m d = (.ok a, d')) : Undefined (m >>= f) d ↔ Undefined (f a) d' := by
  rw [Undefined, Undefined, ref_bind, h]

lemma bind_error (h : m d = (.error .error, d')) : ¬Undefined (m >>= f) d := by
  rw [Undefined, ref_bind, h]
  nofun

lemma bind_undefined (h : Undefined m d) : Undefined (m >>= f) d := by
  rw [Undefined, ref_bind]
  rw [Undefined] at h
  generalize m d = r at h
  obtain ⟨r, d'⟩ := r
  cases h
  rfl

lemma pure {a : α} : ¬Undefined (pure a : RefM α) d := nofun

lemma record {r : RefRecord} : ¬Undefined (record r) d := nofun

lemma error : ¬Undefined (throw .error : RefM α) d := nofun

lemma onError {handler : RefM Unit} {e : Samsung.RilErrno} {response : RefResponse} :
    Undefined (onError handler (onRequestComplete e response)) d ↔ Undefined handler d := by
  rw [Undefined, Undefined, Reference.onError]
  generalize handler d = r
  obtain ⟨r, d'⟩ := r
  rcases r with (_ | _) | _
  · exact iff_of_false Undefined.record (by simp)
  · exact iff_of_true rfl rfl
  · exact iff_of_false (by simp) (by simp)

end Undefined

lemma Plainly.defined {Q : α → Prop} (h : Plainly False m Q) : ¬Undefined m d := by
  intro hu
  have hends := h d d (.refl d)
  rw [Undefined] at hu
  generalize m d = r at hu hends
  cases hends with
  | ok => cases hu
  | error h =>
    obtain rfl := Except.error.inj hu
    exact h.2 rfl

lemma Keeps.defined {I : RefRil → Prop} (h : Keeps False I m) (hd : I d) : ¬Undefined m d := by
  intro hu
  have hends := h d hd
  rw [Undefined] at hu
  generalize m d = r at hu hends
  cases hends with
  | ok => cases hu
  | error h =>
    obtain rfl := Except.error.inj hu
    exact h.2 rfl

/-- What comes behind is never undefined. -/
lemma Undefined.bind_defined (hf : ∀ a d', ¬Undefined (f a) d') : Undefined (m >>= f) d ↔ Undefined m d := by
  constructor
  · intro h
    rw [Undefined, ref_bind] at h
    generalize hm : m d = r at h
    obtain ⟨r, d'⟩ := r
    cases r with
    | ok a => exact absurd h (hf a d')
    | error e =>
      obtain rfl : e = .undefined := Except.error.inj h
      exact congrArg Prod.fst hm
  · exact Undefined.bind_undefined

lemma Undefined.bind_plain (hf : ∀ a, Plainly False (f a) fun _ => True) : Undefined (m >>= f) d ↔ Undefined m d :=
  Undefined.bind_defined fun a _ => (hf a).defined

/-- Nothing is asked of the states. -/
lemma any_invariant : RadioInvariant fun _ => True where
  plain _ _ _ _ := trivial
  report _ _ _ _ _ := trivial
  close _ _ _ := trivial

/-! ### The registration state -/

lemma answered_iff {r : AtResponse} {P : AtResponse → Prop} :
    (∃ r', (Except.ok r : Except AtError AtResponse) = .ok r' ∧ P r') ↔ P r := by
  constructor
  · rintro ⟨r', hr', hP⟩
    rwa [← Except.ok.inj hr'] at hP
  · exact fun hP => ⟨r, rfl, hP⟩

lemma parse_registration_undefined {line : Bytes} :
    Undefined (parseRegistrationState env line) d ↔ HasForm env.longBits line 1 ∨ HasForm env.longBits line 2 := by
  rw [Undefined, run_parse_registration]
  rcases form_outcome env.longBits env rfl line with ⟨hr, hp⟩ | ⟨n, r, hform, -, ho⟩
  · rw [hp]
    refine iff_of_false nofun ?_
    rintro (h | h)
    · exact not_form_of_none hr 1 h
    · exact not_form_of_none hr 2 h
  · generalize parseLine env line = p at ho
    cases ho with
    | stat => exact iff_of_true rfl (.inl hform)
    | solicitedStat => exact iff_of_true rfl (.inr hform)
    | cell =>
      refine iff_of_false nofun ?_
      rintro (h | h)
      · cases h.eq hform
      · cases h.eq hform
    | solicitedCell =>
      refine iff_of_false nofun ?_
      rintro (h | h)
      · cases h.eq hform
      · cases h.eq hform
    | typed =>
      refine iff_of_false nofun ?_
      rintro (h | h)
      · cases h.eq hform
      · cases h.eq hform

/-- A line that could be parsed is also answered. -/
lemma registration_line_undefined {request : RegistrationRequest} {line : Bytes} :
    Undefined (do
      let (type, r) ← parseRegistrationState env line
      onRequestComplete .success (.strings (← liftExcept (registrationStrings request type r)))) d ↔
      HasForm env.longBits line 1 ∨ HasForm env.longBits line 2 := by
  rw [← parse_registration_undefined (d := d)]
  by_cases hu : Undefined (parseRegistrationState env line) d
  · exact iff_of_true (Undefined.bind_undefined hu) hu
  refine iff_of_false ?_ hu
  have hrun := run_parse_registration env line d
  rcases form_outcome env.longBits env rfl line with ⟨-, hp⟩ | ⟨n, r, -, -, ho⟩
  · rw [hp] at hrun
    exact Undefined.bind_error hrun
  · cases hp : parseLine env line with
    | error e =>
      rw [hp] at hrun ho
      exact absurd (by rw [Undefined, hrun]; cases ho <;> rfl) hu
    | ok p =>
      rw [hp] at hrun ho
      obtain ⟨ss, hss⟩ := strings_of_cell request ho d.radioTech
      rw [Undefined.bind hrun]
      dsimp only
      rw [hss]
      exact nofun

lemma registration_undefined (request : RegistrationRequest) :
    Undefined (requestRegistrationState env request) d ↔ BreaksRegistration env request d := by
  rw [requestRegistrationState, Undefined.onError, Undefined.bind (singleline_run ..), BreaksRegistration]
  change _ ↔ ∃ r, env.answer d.commands { command := request.cmd, type := .singleline request.responsePrefix } = .ok r ∧ _
  cases env.answer d.commands { command := request.cmd, type := .singleline request.responsePrefix } with
  | error e => exact iff_of_false Undefined.error (by simp)
  | ok r =>
    rw [answered_iff]
    cases hlines : r.intermediates with
    | nil =>
      cases hs : r.success with
      | true => exact iff_of_false (by simp [needsIntermediate, hlines, hs, Undefined, ref_throw]) (by simp)
      | false =>
        refine iff_of_true ?_ rfl
        simp only [needsIntermediate, hlines, hs]
        exact Undefined.bind_undefined (by simp [Undefined, firstLine, hlines, deref, ref_throw])
    | cons line rest =>
      have hneeds : needsIntermediate (.ok r) = .ok r := by simp [needsIntermediate, hlines]
      simp only [hneeds]
      rw [Undefined.bind (run_first_line hlines)]
      exact registration_line_undefined

/-! ### The operator -/

/-- There is something at the cursor. -/
lemma operator_cursor_some {longBits : ℕ} {cur0 cur rest : Option Bytes}
    (h : operatorCursor longBits cur0 = some (some cur, rest)) : cur.isSome = true := by
  obtain ⟨_, cur1, -, h⟩ := tok_bind_some h
  obtain ⟨_, cur2, -, h⟩ := tok_bind_some h
  obtain ⟨_, cur3, -, h⟩ := tok_bind_some h
  split at h
  · obtain ⟨heq, -⟩ := Prod.ext_iff.mp (Option.some.inj h)
    cases heq
  obtain ⟨_, cur4, -, h⟩ := tok_bind_some h
  obtain ⟨cur5, cur6, -, h⟩ := tok_bind_some h
  split at h
  · obtain ⟨heq, -⟩ := Prod.ext_iff.mp (Option.some.inj h)
    cases heq
  · rename_i hmore
    obtain ⟨heq, -⟩ := Prod.ext_iff.mp (Option.some.inj h)
    obtain rfl := Option.some.inj heq
    cases cur5 with
    | none => simp [atTokHasmore] at hmore
    | some s => rfl

lemma nextstr_run {cur : Option Bytes} (h : cur.isSome = true) (d : RefRil) :
    ∃ name, tokensAt atTokNextstr cur d = (.ok (some name), d) := by
  obtain ⟨s, rfl⟩ := Option.isSome_iff_exists.mp h
  obtain ⟨name, hname⟩ := Option.isSome_iff_exists.mp (next_tok_some s)
  refine ⟨name, ?_⟩
  rw [tokensAt, atTokNextstr, ← hname]
  rfl

lemma modify_at_run {xs : List α} {i : ℕ} {g : α → α} (h : i < xs.length) (d : RefRil) :
    modifyAt xs i g d = (.ok (xs.set i (g xs[i])), d) := by
  rw [modifyAt, ref_bind, List.getElem?_eq_getElem h]
  rfl

lemma modify_at_undefined {xs : List α} {i : ℕ} {g : α → α} (h : xs.length ≤ i) : Undefined (modifyAt xs i g) d := by
  rw [modifyAt, List.getElem?_eq_none h]
  exact Undefined.bind_undefined rfl

/-- The loop writes behind the array if it gets to the first line that has no place. -/
lemma read_operator_undefined (lines : List Bytes) (i : ℕ) (response : List (Option Bytes)) (hi : i ≤ response.length) :
    Undefined (readOperator env lines i response) d ↔
      response.length < i + lines.length ∧
        ∀ line ∈ lines.take (response.length - i + 1), IsOperatorLine env.longBits line := by
  induction lines generalizing i response d with
  | nil => exact iff_of_false Undefined.pure fun h => absurd h.1 (by simpa using hi)
  | cons line lines ih =>
    rw [readOperator, List.take_succ_cons]
    have hfirst : IsOperatorLine env.longBits line ↔ ∃ cur rest, operatorCursor env.longBits (some line) = some (cur, rest) := by
      rw [IsOperatorLine, Option.isSome_iff_exists]
      exact ⟨fun ⟨r, hr⟩ => ⟨r.1, r.2, hr⟩, fun ⟨cur, rest, h⟩ => ⟨(cur, rest), h⟩⟩
    cases hline : operatorCursor env.longBits (some line) with
    | none =>
      have hstop : tokens (operatorCursor env.longBits) line d = (.error .error, d) := by
        rw [tokens, hline]
        rfl
      refine iff_of_false (Undefined.bind_error hstop) ?_
      rintro ⟨-, hall⟩
      simpa [hfirst, hline] using hall line (by simp)
    | some r =>
      obtain ⟨cur, rest⟩ := r
      have hread : IsOperatorLine env.longBits line := hfirst.mpr ⟨cur, rest, hline⟩
      have htok : tokens (operatorCursor env.longBits) line d = (.ok cur, d) := by
        rw [tokens, hline]
        rfl
      rw [Undefined.bind htok]
      by_cases hlt : i < response.length
      · have hlater : (response.length < i + (line :: lines).length ∧
            ∀ l ∈ line :: lines.take (response.length - i), IsOperatorLine env.longBits l) ↔
            response.length < i + 1 + lines.length ∧
              ∀ l ∈ lines.take (response.length - (i + 1) + 1), IsOperatorLine env.longBits l := by
          rw [List.length_cons, List.forall_mem_cons, show response.length - i = response.length - (i + 1) + 1 by omega]
          constructor
          · exact fun h => ⟨by omega, h.2.2⟩
          · exact fun h => ⟨by omega, hread, h.2⟩
        rw [hlater]
        have hrest (v : Option Bytes) (d : RefRil) : Undefined (readOperator env lines (i + 1) (response.set i v)) d ↔ _ :=
          ih (i + 1) (response.set i v) (by rw [List.length_set]; omega)
        simp only [List.length_set] at hrest
        cases cur with
        | none =>
          rw [Undefined.bind (modify_at_run hlt d)]
          exact hrest none d
        | some cur =>
          obtain ⟨name, hname⟩ := nextstr_run (operator_cursor_some hline) d
          have hderef : deref (some name) d = (.ok name, d) := rfl
          rw [Undefined.bind hname, Undefined.bind (modify_at_run hlt d), Undefined.bind hderef]
          dsimp only
          split
          · rw [Undefined.bind (ref_modify _ d)]
            exact hrest (some name) _
          · exact hrest (some name) d
      · refine iff_of_true ?_ ⟨by rw [List.length_cons]; omega, ?_⟩
        · cases cur with
          | none => exact Undefined.bind_undefined (modify_at_undefined (by omega))
          | some cur =>
            obtain ⟨name, hname⟩ := nextstr_run (operator_cursor_some hline) d
            rw [Undefined.bind hname]
            exact Undefined.bind_undefined (modify_at_undefined (by omega))
        · rw [show response.length - i = 0 by omega]
          simpa using hread

lemma operator_undefined : Undefined (requestOperator env) d ↔ OverflowsOperator env d := by
  have hrun : atSendCommandMultiline env (ascii "AT+COPS=3,0;+COPS?;+COPS=3,1;+COPS?;+COPS=3,2;+COPS?") (ascii "+COPS:") d =
      (.ok (env.answer d.commands operatorCommand), d.sent operatorCommand) := rfl
  rw [requestOperator, Undefined.onError, Undefined.bind hrun, OverflowsOperator]
  cases env.answer d.commands operatorCommand with
  | error e => exact iff_of_false nofun nofun
  | ok r =>
    rw [answered_iff]
    have hread : Undefined (readOperator env _ _ _) (d.sent operatorCommand) ↔ _ :=
      read_operator_undefined r.intermediates 0 [none, none, none] (Nat.zero_le _)
    rw [Nat.zero_add] at hread
    refine Iff.trans (Undefined.bind_plain fun read => ?_) hread
    exact Plainly.ite (fun _ => Plainly.error) fun _ => complete_plainly _ _

/-! ### The SIM -/

lemma sim_status_undefined : Undefined (getSIMStatus env) d ↔ d.Available ∧ BreaksSimStatus env d := by
  rw [getSIMStatus, Undefined.bind (ref_get d)]
  split
  · rename_i hoff
    refine iff_of_false Undefined.pure ?_
    rintro ⟨⟨hu, ho⟩, -⟩
    exact hoff.elim ho hu
  rename_i hon
  have havailable : d.Available := ⟨fun h => hon (.inr h), fun h => hon (.inl h)⟩
  rw [Undefined.bind (singleline_run ..), and_iff_right havailable, BreaksSimStatus]
  change _ ↔ ∃ r, env.answer d.commands { command := ascii "AT+CPIN?", type := .singleline (ascii "+CPIN:") } = .ok r ∧ _
  cases env.answer d.commands { command := ascii "AT+CPIN?", type := .singleline (ascii "+CPIN:") } with
  | error e => exact iff_of_false Undefined.pure (by simp)
  | ok r =>
    rw [answered_iff]
    cases hlines : r.intermediates with
    | nil =>
      cases hs : r.success with
      | true => exact iff_of_false (by simp [needsIntermediate, hlines, hs, Undefined, ref_pure]) (by simp)
      | false =>
        simp only [needsIntermediate, hlines, hs]
        change Undefined (if atGetCmeError env.longBits r = cmeSuccess then _ else _) _ ↔ _
        split
        · rename_i hcme
          exact iff_of_true (Undefined.bind_undefined (by simp [Undefined, firstLine, hlines, deref, ref_throw]))
            ⟨trivial, trivial, hcme⟩
        · rename_i hcme
          refine iff_of_false ?_ fun h => hcme h.2.2
          split
          · exact Undefined.pure
          · exact Undefined.pure
    | cons line rest =>
      have hneeds : needsIntermediate (.ok r) = .ok r := by simp [needsIntermediate, hlines]
      refine iff_of_false ?_ (by simp)
      simp only [hneeds]
      split
      · rw [Undefined.bind (run_first_line hlines)]
        split
        · exact Undefined.pure
        · rename_i cpinResult rest' htok
          obtain ⟨_, _, -, hstr⟩ := tok_bind_some htok
          obtain ⟨s, rfl⟩ := Option.isSome_iff_exists.mp (nextstr_isSome hstr)
          exact Undefined.pure
      · split
        · exact Undefined.pure
        · exact Undefined.pure

lemma card_status_undefined : Undefined (requestGetSimStatus env) d ↔ d.Available ∧ BreaksSimStatus env d := by
  rw [← sim_status_undefined]
  have hstatus (status : SimStatus) : (appStatusArray[status.index]?).isSome = true ∧
      (appStatusArray[status.index + ruimAbsent]?).isSome = true := by
    cases status <;> decide
  have hdefined {α : Type} {p : Option α} (h : p.isSome = true) : p = none → False := by
    rintro rfl
    cases h
  have hcard : Undefined (getCardStatus env) d ↔ Undefined (getSIMStatus env) d := by
    refine Undefined.bind_plain fun status => ?_
    refine (deref_plainly (hdefined (hstatus .absent).1)).bind fun absent _ => ?_
    refine Plainly.ite (fun _ => Plainly.pure trivial) fun _ => ?_
    refine (deref_plainly (hdefined (hstatus status).1)).bind fun gsm _ => ?_
    exact (deref_plainly (hdefined (hstatus status).2)).bind fun cdma _ => Plainly.pure trivial
  exact (Undefined.bind_plain fun _ => complete_plainly _ _).trans hcard

/-- What follows the status is a report, the next poll or the set-up. -/
lemma poll_undefined : Undefined (pollSIMState env) d ↔ d.sState = .simNotReady ∧ BreaksSimStatus env d := by
  rw [pollSIMState, Undefined.bind (ref_get d)]
  split
  · rename_i hpoll
    have havailable : d.Available := by
      rw [RefRil.Available, hpoll]
      simp
    rw [and_iff_right hpoll, ← and_iff_right (b := BreaksSimStatus env d) havailable, ← sim_status_undefined]
    refine Undefined.bind_defined fun status d' => ?_
    cases status with
    | ready =>
      have hready : Plainly False (onSIMReady env) fun _ => True :=
        (command_plainly _).bind fun _ _ => send_only_plainly _
      exact fun h => hready.defined ((Undefined.bind_defined fun _ _ => Undefined.record).mp h)
    | _ => exact Undefined.pure
  · rename_i hpoll
    exact iff_of_false Undefined.pure fun h => hpoll h.1

/-! ### The requests and the lines -/

/-- The radio gate lets a request through that changes nothing about the radio. -/
lemma gate_undefined {request : RefRequest} {data : Libril.RequestData} {P : Prop} (hpower : request ≠ .radioPower)
    (hsim : request ≠ .getSimStatus) (h : Undefined (requestHandler renv request data) d ↔ P) :
    Undefined (onRequest renv request data) d ↔ d.Available ∧ P := by
  rw [onRequest, Undefined.bind (ref_get d)]
  dsimp only
  split
  · rename_i hgate
    exact iff_of_false nofun fun hn => hn.1.1 hgate.1
  · rename_i hu
    split
    · rename_i hgate
      exact iff_of_false nofun fun hn => hn.1.2 hgate.1
    · rename_i ho
      have havailable : d.Available := ⟨fun heq => hu ⟨heq, hsim⟩, fun heq => ho ⟨heq, fun hr => hr.elim hpower hsim⟩⟩
      rw [and_iff_right havailable]
      exact h

lemma gate_sim_status {data : Libril.RequestData} :
    Undefined (onRequest renv .getSimStatus data) d ↔ d.Available ∧ BreaksSimStatus renv.toRefEnv d := by
  rw [onRequest, Undefined.bind (ref_get d), if_neg (fun h => h.2 rfl), if_neg (fun h => h.2 (.inr rfl))]
  exact card_status_undefined

lemma nitz_undefined {s : Bytes} : Undefined (onNitzTime s) d := by
  rw [onNitzTime]
  cases hstart : atTokStart (some s) with
  | none => rfl
  | some r =>
    obtain ⟨p, hp⟩ := Option.isSome_iff_exists.mp (start_isSome hstart)
    simp only [hp, atTokNextstr]
    rfl

lemma line_undefined {s : Bytes} {smsPdu : Option Bytes} (hpdu : isSMSUnsolicited s = true → smsPdu.isSome = true) :
    Undefined (onUnsolicited env s smsPdu) d ↔ d.sState ≠ .unavailable ∧ IsNitzLine s := by
  by_cases hnitz : IsNitzLine s
  · rw [onUnsolicited, Undefined.bind (ref_get d)]
    split
    · rename_i hstate
      rw [unsolicitedHandler, if_pos (show strStartsWith s (ascii "%CTZV:") = true from hnitz)]
      exact iff_of_true nitz_undefined ⟨hstate, hnitz⟩
    · rename_i hstate
      exact iff_of_false Undefined.pure fun h => hstate h.1
  · refine iff_of_false ?_ fun h => hnitz h.2
    refine (unsolicited_keeps any_invariant hnitz ?_).defined trivial
    intro hsms hnone
    simp [hnone] at hpdu
    simp [hpdu] at hsms

/-- What the channel answers to a command when it has read these lines -/
def ChannelAnswers (c : AtCommand) (r : AtResponse) : Prop :=
  ∃ (lines : List Bytes) (d : AtCommands), run atStep {} (.issue c true :: lines.map .line ++ [.wake false]) = some d ∧
    d.log.head? = some (.returned none (some r))

/-- A modem that refuses every command -/
def refusingModem : RequestEnv where
  longBits := 64
  answer _ _ := .ok { finalResponse := some (ascii "ERROR") }
  asserts := false
  pointerSize := 8
  property _ := []
  qmi := none

lemma channel_refuses {c : AtCommand} (h : c.outResponse = true) :
    ChannelAnswers c { finalResponse := some (ascii "ERROR") } := by
  refine ⟨[ascii "ERROR"], _, rfl, ?_⟩
  change some (AtRecord.returned none (if c.outResponse then some _ else none)) = _
  rw [if_pos h]
  rfl

end Ril.Reference
