import Mathlib.Data.List.Basic
import Ril.Reference.RegistrationLaw

/-! When the reference RIL answers a registration line with what the line says. -/

namespace Ril.Reference

/-- The modem answers every command with this response. -/
def answering (longBits : ℕ) (r : AtResponse) : RefEnv where
  longBits := longBits
  answer _ _ := .ok r

def RegistrationRequest.command (request : RegistrationRequest) : AtCommand :=
  { command := request.cmd, type := .singleline request.responsePrefix }

def RefRil.sent (c : AtCommand) (d : RefRil) : RefRil :=
  { d with commands := d.commands + 1, log := .sent c :: d.log }

def RefRil.completed (e : Samsung.RilErrno) (r : RefResponse) (d : RefRil) : RefRil :=
  { d with log := .completed e r :: d.log }

def RefRil.cached (lac cid : Int32) (d : RefRil) : RefRil := { d with lac := lac, cid := cid }

def RefRil.radioTech (d : RefRil) : Option RadioTech := techFromModemType d.modem.currentTech

/-- The strings for a 3GPP modem: a technology only where the line has a type -/
def RegistrationLine.strings (request : RegistrationRequest) (r : RegistrationLine) : List (Option Bytes) :=
  [some (decimal r.stat), some (hexadecimal r.lac), some (hexadecimal r.cid), r.type.map decimal] ++
    List.replicate (request.numElements - 4) none

/-- What the answer to a line must be. A modem with this line answers the request. -/
structure RegistrationLaw (longBits : ℕ) (answer : AtResponse) (request : RegistrationRequest) (d : RefRil)
    (line : Bytes) : Prop where
  parsed : ∀ r, registrationLine longBits line = some r → ∃ p,
    parseRegistrationState (answering longBits answer) line d = (.ok (d.radioTech, p), d.cached r.lac r.cid) ∧
      p.response.take 3 = [r.stat, r.lac, r.cid]
  reported : ∀ r, registrationLine longBits line = some r → is3gpp2 d.radioTech = false →
    requestRegistrationState (answering longBits answer) request d = (.ok (),
      ((d.sent request.command).cached r.lac r.cid).completed .success (.strings (r.strings request)))
  failed : registrationLine longBits line = none →
    parseRegistrationState (answering longBits answer) line d = (.error .error, d) ∧
      requestRegistrationState (answering longBits answer) request d =
        (.ok (), (d.sent request.command).completed .genericFailure .null)
  inside : (parseRegistrationState (answering longBits answer) line d).1 ≠ .error .undefined ∧
    (requestRegistrationState (answering longBits answer) request d).1 ≠ .error .undefined

variable {env : RefEnv} {longBits : ℕ} {answer : AtResponse} {request : RegistrationRequest} {d : RefRil} {line : Bytes}
  {rest : List Bytes}

lemma run_parse_registration (env : RefEnv) (line : Bytes) (d : RefRil) : parseRegistrationState env line d =
    match parseLine env line with
    | .error e => (.error e, d)
    | .ok p => (.ok (d.radioTech, p), d.cached p.lac p.cid) := by
  rw [parseRegistrationState]
  cases parseLine env line with
  | error e => rfl
  | ok p => rfl

lemma run_singleline {command responsePrefix : Bytes} (h : answer.intermediates ≠ []) :
    atSendCommandSingleline (answering longBits answer) command responsePrefix d =
      (.ok (.ok answer), d.sent { command := command, type := .singleline responsePrefix }) := by
  have hneeds : needsIntermediate (.ok answer) = .ok answer := by simp [needsIntermediate, h]
  exact congrArg (fun r => (Except.ok r, d.sent _)) hneeds

lemma singleline_run (env : RefEnv) (command responsePrefix : Bytes) (d : RefRil) :
    atSendCommandSingleline env command responsePrefix d =
      (.ok (needsIntermediate (env.answer d.commands { command := command, type := .singleline responsePrefix })),
        d.sent { command := command, type := .singleline responsePrefix }) := rfl

lemma run_first_line (h : answer.intermediates = line :: rest) : firstLine answer d = (.ok line, d) := by
  rw [firstLine, h]
  rfl

lemma run_request_registration (longBits : ℕ) (request : RegistrationRequest) (d : RefRil) (h : answer.intermediates = line :: rest) :
    requestRegistrationState (answering longBits answer) request d =
      let d := d.sent request.command
      match parseLine (answering longBits answer) line with
      | .error .error => (.ok (), d.completed .genericFailure .null)
      | .error .undefined => (.error .undefined, d)
      | .ok p =>
        match registrationStrings request d.radioTech p with
        | .error .error => (.ok (), (d.cached p.lac p.cid).completed .genericFailure .null)
        | .error .undefined => (.error .undefined, d.cached p.lac p.cid)
        | .ok strings => (.ok (), (d.cached p.lac p.cid).completed .success (.strings strings)) := by
  have hsent : atSendCommandSingleline (answering longBits answer) request.cmd request.responsePrefix d =
      (.ok (.ok answer), d.sent request.command) := run_singleline (by simp [h])
  simp only [requestRegistrationState, onError, ref_bind, hsent, run_first_line h, run_parse_registration]
  cases parseLine (answering longBits answer) line with
  | error e => cases e <;> rfl
  | ok p =>
    simp only [ref_except, RefRil.radioTech, RefRil.cached]
    cases registrationStrings request (techFromModemType (d.sent request.command).modem.currentTech) p with
    | error e => cases e <;> rfl
    | ok strings => rfl

/-! ### The documented forms -/

/-- What becomes of a line that has so many fields -/
inductive FormOutcome : ℕ → RegistrationLine → Except RefStop ParsedRegistration → Prop
  | stat (r : RegistrationLine) : FormOutcome 1 r (.error .undefined)
  | solicitedStat (r : RegistrationLine) : FormOutcome 2 r (.error .undefined)
  | cell (stat lac cid : Int32) : FormOutcome 3 { stat := stat, lac := lac, cid := cid }
      (.ok { items := 3, response := [stat, lac, cid], lac := lac, cid := cid })
  | solicitedCell (stat lac cid : Int32) : FormOutcome 4 { stat := stat, lac := lac, cid := cid }
      (.ok { items := 4, response := [stat, lac, cid, 0], lac := lac, cid := cid })
  | typed (stat lac cid type : Int32) : FormOutcome 5 { stat := stat, lac := lac, cid := cid, type := some type }
      (.ok { items := 5, response := [stat, lac, cid, type, 0], lac := lac, cid := cid })

lemma HasForm.eq {m n : ℕ} (hm : HasForm longBits line m) (hn : HasForm longBits line n) : m = n :=
  Option.some.inj (hm.2.symm.trans hn.2)

lemma field_ints_length {form : List Bool} {fields : List Bytes} {vs : List Int32}
    (h : fieldInts longBits form fields = some vs) : vs.length = form.length := by
  induction form, fields using fieldInts.induct generalizing vs with
  | case1 hex field =>
    rw [fieldInts] at h
    obtain ⟨v, -, rfl⟩ := Option.map_eq_some_iff.mp h
    rfl
  | case2 hex form field fields hlast ho =>
    rw [fieldInts] at h
    · simp [ho] at h
    · exact hlast
  | case3 hex form field fields hlast ho ih =>
    rw [fieldInts] at h
    · rw [if_neg ho] at h
      obtain ⟨v, -, h⟩ := Option.bind_eq_some_iff.mp h
      obtain ⟨vs, hvs, rfl⟩ := Option.map_eq_some_iff.mp h
      rw [List.length_cons, List.length_cons, ih hvs]
    · exact hlast
  | case4 form fields h1 h2 =>
    rw [fieldInts] at h
    · cases h
    · exact h1
    · exact h2

lemma form_outcome (longBits : ℕ) (env : RefEnv) (hlong : env.longBits = longBits) (line : Bytes) :
    (registrationLine longBits line = none ∧ parseLine env line = .error .error) ∨
      ∃ n r, HasForm longBits line n ∧ registrationLine longBits line = some r ∧
        FormOutcome n r (parseLine env line) := by
  subst hlong
  have hline : registrationLine env.longBits line = (lineFields line).bind fun fields =>
    (registrationForm fields.length).bind fun form =>
      (fieldInts env.longBits form fields).bind RegistrationLine.ofFields := rfl
  cases hfields : lineFields line with
  | none => exact .inl ⟨by simp [hline, hfields], by simp [parse_line_eq, hfields]⟩
  | some fields =>
    cases hform : registrationForm fields.length with
    | none => exact .inl ⟨by simp [hline, hfields, hform], by simp [parse_line_eq, hfields, hform]⟩
    | some form =>
      have hparse : parseLine env line = parsedFields (fields.length - 1) (fieldInts env.longBits form fields) := by
        simp [parse_line_eq, hfields, hform]
      cases hints : fieldInts env.longBits form fields with
      | none => exact .inl ⟨by simp [hline, hfields, hform, hints], by simp [hparse, hints, parsedFields]⟩
      | some vs =>
        have hr : registrationLine env.longBits line = RegistrationLine.ofFields vs := by
          simp [hline, hfields, hform, hints]
        have hvs := field_ints_length hints
        have hsome (r : RegistrationLine) (h : registrationLine env.longBits line = some r) :
            HasForm env.longBits line fields.length := ⟨by simp [h], by simp [hfields]⟩
        rw [hints] at hparse
        generalize fields.length = n at hform hparse hsome
        refine .inr ⟨n, ?_⟩
        rcases n with _ | _ | _ | _ | _ | _ | n
        · cases hform
        · obtain rfl := Option.some.inj hform
          obtain ⟨stat, rfl⟩ := List.length_eq_one_iff.mp hvs
          exact ⟨_, hsome _ hr, hr, hparse ▸ .stat _⟩
        · obtain rfl := Option.some.inj hform
          obtain ⟨_, stat, rfl⟩ := List.length_eq_two.mp hvs
          exact ⟨_, hsome _ hr, hr, hparse ▸ .solicitedStat _⟩
        · obtain rfl := Option.some.inj hform
          obtain ⟨stat, lac, cid, rfl⟩ := List.length_eq_three.mp hvs
          exact ⟨_, hsome _ hr, hr, hparse ▸ .cell stat lac cid⟩
        · obtain rfl := Option.some.inj hform
          obtain ⟨_, stat, lac, cid, rfl⟩ := List.length_eq_four.mp hvs
          exact ⟨_, hsome _ hr, hr, hparse ▸ .solicitedCell stat lac cid⟩
        · obtain rfl := Option.some.inj hform
          obtain ⟨_, vs, rfl⟩ := List.exists_of_length_succ vs hvs
          obtain ⟨stat, lac, cid, type, rfl⟩ := List.length_eq_four.mp (Nat.succ.inj hvs)
          exact ⟨_, hsome _ hr, hr, hparse ▸ .typed stat lac cid type⟩
        · cases hform

/-! ### The law -/

lemma not_form_of_none (h : registrationLine longBits line = none) (n : ℕ) : ¬HasForm longBits line n := by
  rintro ⟨hr, -⟩
  simp [h] at hr

lemma strings_of_cell (request : RegistrationRequest) {n : ℕ} {r : RegistrationLine} {p : ParsedRegistration} (ho : FormOutcome n r (.ok p))
    (type : Option RadioTech) : ∃ ss, registrationStrings request type p = .ok ss := by
  rw [registrationStrings]
  cases is3gpp2 type <;> cases ho <;> exact ⟨_, rfl⟩

/-- For a 3GPP modem the strings say what the line says, unless there is a technology that it does not have. -/
lemma three_gpp_strings (h : is3gpp2 d.radioTech = false) {n : ℕ} {r : RegistrationLine} {p : ParsedRegistration}
    (ho : FormOutcome n r (.ok p)) : registrationStrings request d.radioTech p = .ok (r.strings request) ↔ n ≠ 4 := by
  rw [registrationStrings, h]
  cases ho with
  | cell stat lac cid => exact iff_of_true rfl (by decide)
  | typed stat lac cid type => exact iff_of_true rfl (by decide)
  | solicitedCell stat lac cid =>
    refine iff_of_false ?_ fun h => h rfl
    intro heq
    cases Except.ok.inj heq

lemma law_of_none (h : answer.intermediates = line :: rest) (hr : registrationLine longBits line = none)
    (hp : parseLine (answering longBits answer) line = .error .error) :
    RegistrationLaw longBits answer request d line := by
  have hrun := run_request_registration longBits request d h
  have hparse := run_parse_registration (answering longBits answer) line d
  rw [hp] at hrun hparse
  constructor
  · simp [hr]
  · simp [hr]
  · exact fun _ => ⟨hparse, hrun⟩
  · simp [hrun, hparse]

lemma law_of_ok (h : answer.intermediates = line :: rest) {n : ℕ} {r : RegistrationLine} {p : ParsedRegistration}
    (hr : registrationLine longBits line = some r) (hp : parseLine (answering longBits answer) line = .ok p)
    (ho : FormOutcome n r (.ok p)) :
    RegistrationLaw longBits answer request d line ↔ (is3gpp2 d.radioTech = false → n ≠ 4) := by
  have hrun := run_request_registration longBits request d h
  have hparse := run_parse_registration (answering longBits answer) line d
  obtain ⟨ss, hss⟩ := strings_of_cell request ho d.radioTech
  have hcell : p.lac = r.lac ∧ p.cid = r.cid ∧ p.response.take 3 = [r.stat, r.lac, r.cid] := by
    cases ho <;> exact ⟨rfl, rfl, rfl⟩
  have htech : (d.sent request.command).radioTech = d.radioTech := rfl
  rw [hp] at hrun hparse
  simp only [htech, hss, hcell] at hrun hparse
  constructor
  · intro hlaw h3
    have hrep := hlaw.reported r hr h3
    rw [hrun] at hrep
    have hlog := congrArg (fun r => r.2.log.head?) hrep
    simp only [RefRil.completed, List.head?_cons, Option.some.injEq, RefRecord.completed.injEq,
      RefResponse.strings.injEq, true_and] at hlog
    rw [← three_gpp_strings h3 ho, hss, hlog]
  · intro hn
    constructor
    · intro r' hr'
      obtain rfl := Option.some.inj (hr.symm.trans hr')
      exact ⟨p, hparse, hcell.2.2⟩
    · intro r' hr' h3
      obtain rfl := Option.some.inj (hr.symm.trans hr')
      rw [hrun]
      have heq := hss.symm.trans ((three_gpp_strings h3 ho).mpr (hn h3))
      rw [Except.ok.inj heq]
    · simp [hr]
    · simp [hrun, hparse]

/-- The lines that the code answers with what they say: none of the short ones, and for a 3GPP modem none with a
cell but no type behind `n` -/
theorem registration_law (longBits : ℕ) (answer : AtResponse) (request : RegistrationRequest) (d : RefRil)
    (line : Bytes) (rest : List Bytes) :
    RegistrationLaw longBits { answer with intermediates := line :: rest } request d line ↔
      ¬HasForm longBits line 1 ∧ ¬HasForm longBits line 2 ∧ (is3gpp2 d.radioTech = false → ¬HasForm longBits line 4) := by
  rcases form_outcome longBits (answering longBits { answer with intermediates := line :: rest }) rfl line with
    ⟨hr, hp⟩ | ⟨n, r, hform, hr, ho⟩
  · exact iff_of_true (law_of_none rfl hr hp)
      ⟨not_form_of_none hr 1, not_form_of_none hr 2, fun _ => not_form_of_none hr 4⟩
  · cases hp : parseLine (answering longBits { answer with intermediates := line :: rest }) line with
    | error e =>
      rw [hp] at ho
      have hparse := run_parse_registration (answering longBits { answer with intermediates := line :: rest }) line d
      rw [hp] at hparse
      refine iff_of_false ?_ ?_
      · intro hlaw
        refine hlaw.inside.1 ?_
        rw [hparse]
        cases ho <;> rfl
      · rintro ⟨h1, h2, -⟩
        cases ho with
        | stat => exact h1 hform
        | solicitedStat => exact h2 hform
    | ok p =>
      rw [hp] at ho
      rw [law_of_ok rfl hr hp ho]
      have hn (m : ℕ) : HasForm longBits line m ↔ m = n :=
        ⟨fun hm => hm.eq hform, fun hm => hm ▸ hform⟩
      simp only [hn]
      cases ho <;> simp

/-- A modem that is not registered answers `+CREG: 0,2`: `-1` is written behind the array of two. -/
theorem short_form_overflows : ¬∀ (longBits : ℕ) (answer : AtResponse) (request : RegistrationRequest) (d : RefRil)
    (line : Bytes) (rest : List Bytes),
    RegistrationLaw longBits { answer with intermediates := line :: rest } request d line := by
  intro h
  have hinside := (h 32 { success := true } .voiceRegistrationState {} (ascii "+CREG: 0,2") []).inside.1
  exact hinside (by decide)

end Ril.Reference
