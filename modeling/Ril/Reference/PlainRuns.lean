import Ril.Lib.Extends
import Ril.Lib.Outcome
import Ril.Reference.RefRil

/-! Programs of the reference RIL that leave the radio as it is. -/

namespace Ril.Reference

open Lib
open Ril.Libril (RequestData)

/-- The record does not report the radio or the SIM, and asks for no poll. -/
def RefRecord.Plain : RefRecord → Prop
  | .unsolicited u _ => u ≠ .radioStateChanged ∧ u ≠ .simStatusChanged
  | .requestTimedCallback c => c ≠ .pollSIMState
  | _ => True

/-- The rest is run in a state in which the handler may go to it. -/
lemma on_error_outcome {P : RefRil → Prop} {Q : Unit → RefRil → Prop} {E : RefStop → RefRil → Prop} {handler rest : RefM Unit}
    (hh : Outcome P handler Q E) (hr : Outcome (E .error) rest Q E) : Outcome P (onError handler rest) Q E := by
  intro s hs
  have hends := hh s hs
  rw [onError]
  generalize handler s = r at hends
  cases hends with
  | ok h => exact .ok h
  | @error e t h =>
    cases e with
    | error => exact hr t h
    | undefined => exact .error h

structure Plain (d d' : RefRil) : Prop where
  sState : d'.sState = d.sState
  closed : d'.closed = d.closed
  log : Extends RefRecord.Plain d.log d'.log

namespace Plain

variable {d d' d'' : RefRil}

lemma refl (d : RefRil) : Plain d d := ⟨rfl, rfl, .refl _⟩

lemma trans (h : Plain d d') (h' : Plain d' d'') : Plain d d'' :=
  ⟨h'.sState.trans h.sState, h'.closed.trans h.closed, h.log.trans h'.log⟩

end Plain

variable {α β : Type} {may : Prop} {Q : α → Prop} {T : β → Prop} {m n : RefM α} {f : α → RefM β}

/-- The program is plain, ends with a result that meets `Q`, and is undefined only where it may be. -/
def Plainly (may : Prop) (m : RefM α) (Q : α → Prop) : Prop :=
  ∀ d, Outcome (fun s => Plain d s) m (fun a s => Plain d s ∧ Q a) fun e s => Plain d s ∧ (e = .undefined → may)

namespace Plainly

lemma pure {a : α} (h : Q a) : Plainly may (pure a) Q := fun _ => Outcome.pure fun _ hs => ⟨hs, h⟩

lemma error : Plainly may (throw .error : RefM α) Q := fun _ => Outcome.throw fun _ hs => ⟨hs, nofun⟩

lemma undefined (h : may) : Plainly may (throw .undefined : RefM α) Q := fun _ => Outcome.throw fun _ hs => ⟨hs, fun _ => h⟩

lemma bind (hm : Plainly may m Q) (hf : ∀ a, Q a → Plainly may (f a) T) : Plainly may (m >>= f) T :=
  fun d => (hm d).bind fun a s hs => hf a hs.2 d s hs.1

lemma read {f : RefRil → RefM β} (hf : ∀ d, Plainly may (f d) T) : Plainly may ((get : RefM RefRil) >>= f) T :=
  fun d => Outcome.read fun s hs => (hf s d).weaken fun _ ht => ht ▸ hs

lemma modify {g : RefRil → RefRil} (h : ∀ d, Plain d (g d)) : Plainly may (modify g) fun _ => True :=
  fun _ => Outcome.modify fun s hs => ⟨hs.trans (h s), trivial⟩

lemma ite {c : Prop} [Decidable c] (hm : c → Plainly may m Q) (hn : ¬c → Plainly may n Q) :
    Plainly may (if c then m else n) Q :=
  fun d => Outcome.ite (fun h => hm h d) fun h => hn h d

lemma weaken {R : α → Prop} (h : Plainly may m Q) (hQ : ∀ a, Q a → R a) : Plainly may m R :=
  fun d => (h d).mono (fun _ hs => hs) (fun a _ hs => ⟨hs.1, hQ a hs.2⟩) fun _ _ hs => hs

lemma map {g : α → β} (h : Plainly may m Q) (hg : ∀ a, Q a → T (g a)) : Plainly may (g <$> m) T := by
  rw [map_eq_pure_bind]
  exact h.bind fun a ha => pure (hg a ha)

lemma onError {handler rest : RefM Unit} (hh : Plainly may handler fun _ => True) (hr : Plainly may rest fun _ => True) :
    Plainly may (onError handler rest) fun _ => True :=
  fun d => on_error_outcome (hh d) ((hr d).weaken fun _ hs => hs.1)

end Plainly

/-! ### The parts of the handlers -/

variable {env : RefEnv} {data : RequestData}

lemma record_plainly {r : RefRecord} (h : r.Plain) : Plainly may (record r) fun _ => True :=
  Plainly.modify fun _ => ⟨rfl, rfl, .one h _⟩

lemma complete_plainly (e : Samsung.RilErrno) (response : RefResponse) :
    Plainly may (onRequestComplete e response) fun _ => True := record_plainly trivial

lemma unsolicited_plainly {u : RefUnsol} (response : RefResponse)
    (h : u ≠ .radioStateChanged ∧ u ≠ .simStatusChanged) :
    Plainly may (onUnsolicitedResponse u response) fun _ => True := record_plainly h

lemma deref_plainly {p : Option α} (h : p = none → may) : Plainly may (deref p) fun a => p = some a := by
  cases p with
  | none => exact Plainly.undefined (h rfl)
  | some a => exact Plainly.pure rfl

lemma or_error_plainly (p : Option α) : Plainly may (orError p) fun a => p = some a := by
  cases p with
  | none => exact Plainly.error
  | some a => exact Plainly.pure rfl

lemma tokens_plainly (t : Tok α) (line : Bytes) : Plainly may (tokens t line) fun _ => True :=
  (or_error_plainly _).weaken fun _ _ => trivial

lemma assert_plainly {asserts : Bool} {c : Prop} [Decidable c] (h : asserts ∧ ¬c → may) :
    Plainly may (assert asserts c) fun _ => True :=
  Plainly.ite (fun hc => Plainly.undefined (h hc)) fun _ => Plainly.pure trivial

lemma command_plainly (c : AtCommand) : Plainly may (atSendCommandFull env c) fun _ => True := by
  intro d s hs
  have hsent : Plain s { s with commands := s.commands + 1, log := .sent c :: s.log } := ⟨rfl, rfl, .one trivial _⟩
  exact .ok ⟨hs.trans hsent, trivial⟩

/-- What a command that must have an intermediate response answers: one that has succeeded has one. -/
def HasLine (r : Except AtError AtResponse) : Prop := ∀ response, succeeded r = some response → response.intermediates ≠ []

lemma needs_intermediate_line (r : Except AtError AtResponse) : HasLine (needsIntermediate r) := by
  intro response h hnil
  cases r with
  | error e => cases h
  | ok r =>
    rw [needsIntermediate] at h
    split at h
    · cases h
    · rename_i hr
      rw [succeeded] at h
      split at h
      · rename_i hs
        obtain rfl := Option.some.inj h
        simp [hs, hnil] at hr
      · cases h

lemma singleline_plainly (command responsePrefix : Bytes) :
    Plainly may (atSendCommandSingleline env command responsePrefix) HasLine :=
  (command_plainly _).map fun r _ => needs_intermediate_line r

lemma numeric_plainly (command : Bytes) : Plainly may (atSendCommandNumeric env command) HasLine :=
  (command_plainly _).map fun r _ => needs_intermediate_line r

lemma sms_plainly (command pdu responsePrefix : Bytes) :
    Plainly may (atSendCommandSms env command pdu responsePrefix) HasLine :=
  (command_plainly _).map fun r _ => needs_intermediate_line r

lemma send_plainly (command : Bytes) : Plainly may (atSendCommand env command) fun _ => True := command_plainly _

lemma multiline_plainly (command responsePrefix : Bytes) :
    Plainly may (atSendCommandMultiline env command responsePrefix) fun _ => True := command_plainly _

lemma send_only_plainly (command : Bytes) : Plainly may (atSendCommandOnly env command) fun _ => True :=
  (command_plainly _).bind fun _ _ => Plainly.pure trivial

lemma send_all_plainly (commands : List Bytes) : Plainly may (sendAll env commands) fun _ => True := by
  induction commands with
  | nil => exact Plainly.pure trivial
  | cons command commands ih => exact (send_only_plainly command).bind fun _ _ => ih

lemma first_line_plainly {response : AtResponse} (h : response.intermediates = [] → may) :
    Plainly may (firstLine response) fun _ => True := by
  refine (deref_plainly ?_).weaken fun _ _ => trivial
  intro hnone
  exact h (List.head?_eq_none_iff.mp hnone)

lemma answered_plainly {r : Except AtError AtResponse} {k : Bytes → RefM β} (h : HasLine r)
    (hk : ∀ line, Plainly may (k line) T) :
    Plainly may (do let response ← orError (succeeded r); let line ← firstLine response; k line) T :=
  (or_error_plainly _).bind fun response hr =>
    (first_line_plainly fun hnil => absurd hnil (h response hr)).bind fun line _ => hk line

/-- `at_send_command_singleline`, the test for its success, and the reads of its line -/
lemma query_plainly {command responsePrefix : Bytes} {t : Tok α} {k : α → RefM β} (hk : ∀ a, Plainly may (k a) T) :
    Plainly may (do
      let response ← orError (succeeded (← atSendCommandSingleline env command responsePrefix))
      let a ← tokens t (← firstLine response)
      k a) T :=
  (singleline_plainly _ _).bind fun _ hr =>
    answered_plainly hr fun _ => (tokens_plainly _ _).bind fun a _ => hk a

/-! ### The payload -/

lemma int_at_plainly {i : ℕ} (h : (intsOf data)[i]? = none → may) :
    Plainly may (intAt data i) fun v => (intsOf data)[i]? = some v := deref_plainly h

lemma string_at_plainly {i : ℕ} (h : (charPointers data)[i]? = none → may) :
    Plainly may (stringAt data i) fun s => (charPointers data)[i]? = some s := deref_plainly h

/-- The structure has a field of this name that is an int. -/
def HasInt (data : RequestData) (name : Libril.Parameter) : Prop :=
  ∃ p v, (fieldsOf data).find? (fun q => q.1 = name) = some p ∧ p.2 = .int32 v

/-- The structure has a field of this name that is a string, which may be `NULL`. -/
def HasString (data : RequestData) (name : Libril.Parameter) (s : Option Bytes) : Prop :=
  ∃ p, (fieldsOf data).find? (fun q => q.1 = name) = some p ∧ p.2 = .string s

lemma int_field_plainly {name : Libril.Parameter} (h : ¬HasInt data name → may) :
    Plainly may (intField data name) fun _ => True := by
  rw [intField]
  split
  · exact Plainly.pure trivial
  · rename_i hno
    apply Plainly.undefined
    apply h
    rintro ⟨⟨n, _⟩, v, hp, rfl⟩
    exact hno n v hp

lemma string_field_plainly {name : Libril.Parameter} (h : (∀ s, ¬HasString data name s) → may) :
    Plainly may (stringField data name) (HasString data name) := by
  rw [stringField]
  split
  · rename_i n s hp
    exact Plainly.pure ⟨_, hp, rfl⟩
  · rename_i hno
    apply Plainly.undefined
    apply h
    rintro s ⟨⟨n, _⟩, hp, rfl⟩
    exact hno n s hp

end Ril.Reference
