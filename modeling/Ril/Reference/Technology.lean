import Ril.Reference.RegistrationAnswers
import Ril.Reference.SimPolling

/-! The technology of the modem: what the modem has and reports, and what the reference RIL keeps of it. -/

namespace Ril.Reference

open Lib

/-! ### The modem -/

def ctecQuery : AtCommand := { command := ascii "AT+CTEC?", type := .singleline (ascii "+CTEC:") }

def ctecList : AtCommand := { command := ascii "AT+CTEC=?", type := .singleline (ascii "+CTEC:") }

def wnamQuery : AtCommand := { command := ascii "AT+WNAM", type := .singleline (ascii "+WNAM:") }

def ctecSet (current preferred : Int32) : AtCommand where
  command := ascii "AT+CTEC=" ++ decimal current ++ ascii ",\"" ++ hexadecimal preferred ++ ascii "\""
  type := .singleline (ascii "+CTEC:")

/-- The mask between the quotes of `AT+CTEC=` -/
def modeOf (command : Bytes) : Option Int32 :=
  if strStartsWith command (ascii "AT+CTEC=") then
    match command.dropWhile (· != quote) with
    | [] => none
    | _ :: mask => (strtoul 32 16 mask).map Int32.ofNat
  else none

/-- The mode that the modem prefers. It had one at first, and changes it for each `AT+CTEC=` that it answers with
success. -/
def modemMode (env : RefEnv) (first : Int32) : List RefRecord → Int32
  | [] => first
  | .sent c :: log =>
    match modeOf c.command with
    | some mask =>
      if (succeeded (env.answer (log.countP RefRecord.isSent) c)).isSome then mask else modemMode env first log
    | none => modemMode env first log
  | _ :: log => modemMode env first log

/-- The line of an answer that must have one -/
def lineOf (r : Except AtError AtResponse) : Option Bytes :=
  (succeeded (needsIntermediate r)).bind fun response => response.intermediates.head?

/-- The technology, and the mode, that the modem reports -/
def reportedTech (env : RefEnv) (n : ℕ) : Option (Int32 × Option Int32) :=
  (lineOf (env.answer n ctecQuery)).bind (parseTechnologyResponse env)

/-- The technologies that the modem reports -/
def reportedList (env : RefEnv) (n : ℕ) : Option Int32 := (lineOf (env.answer n ctecList)).bind (parseSupportedTechs env)

/-! ### The runs -/

inductive TechAction
  | probe
  | set (value : Int32)
  | notify (s : Bytes)

/-- What the last probing has found -/
inductive Probed
  | never | fallback
  | multimode (techs : Int32)
deriving DecidableEq

/-- What the last step was, for a request -/
inductive LastSet
  | none | undefined
  | answered (value : Int32) (success : Bool)
deriving DecidableEq

structure TechSystem where
  ril : RefRil := {}
  probed : Probed := .never
  last : LastSet := .none

variable (env : RefEnv) (first : Int32)

def techHandler : TechAction → RefM Unit
  | .probe => probeForModemMode env
  | .set value => requestSetPreferredNetworkType env (.parameters [(.pInts, .int32 value)])
  | .notify s => onTechnology env s

def probedBy (d : RefRil) : Probed :=
  match reportedTech env d.commands with
  | some (_, some _) =>
    match reportedList env (d.commands + 1) with
    | some techs => .multimode techs
    | none => .fallback
  | _ => .fallback

/-- Whether the newest record is an answer with success -/
def RefRil.succeeds (d : RefRil) : Bool := d.log.head? = some (.completed .success .null)

def lastSet (value : Int32) : Except RefStop Unit × RefRil → LastSet
  | (.error .undefined, _) => .undefined
  | (_, d) => .answered value d.succeeds

def techStep (s : TechSystem) (a : TechAction) : Option TechSystem :=
  let r := techHandler env a s.ril
  match a with
  | .probe => some { ril := r.2, probed := probedBy env s.ril }
  | .set value => some { ril := r.2, probed := s.probed, last := lastSet value r }
  | .notify _ => some { ril := r.2, probed := s.probed }

/-! ### What is claimed -/

/-- `1 << tech` -/
def bitOf (tech : Int32) : Int32 := (1 : Int32) <<< tech

/-- `net2pmask[value]`, `none` outside of the table -/
def maskOf (value : Int32) : Option Int32 := if 0 ≤ value then net2pmask[value.toInt.toNat]? else none

/-- The technology is a supported one, a setting that has succeeded is the mode of the modem, and no table is read
outside. -/
structure Coherent (s : TechSystem) : Prop where
  supported : s.probed ≠ .never → bitOf s.ril.modem.currentTech &&& s.ril.modem.supportedTechs ≠ 0
  mode : ∀ value, s.last = .answered value true → maskOf value = some (modemMode env first s.ril.log)
  inside : s.last ≠ .undefined

/-- The answer to the command that takes a setting, if the modem tells its technology -/
def settingAnswer (d : RefRil) (value : Int32) : Option (Except AtError AtResponse) :=
  (reportedTech env d.commands).bind fun (current, _) =>
    (maskOf value).map fun mask => env.answer (d.commands + 1) (ctecSet current mask)

/-- The technology that the modem reports in a step, other than for a probing -/
def techOf (d : RefRil) : TechAction → Option Int32
  | .probe => none
  | .set value =>
    ((settingAnswer env d value).bind lineOf).bind fun line =>
      if hasDone line then none else (parseTechnologyResponse env line).map Prod.fst
  | .notify line => (parseTechnologyResponse env line).map Prod.fst

/-- The modem reports its mode as it is, and no technology that is not among those that it has reported. -/
def Consistent (s : TechSystem) (a : TechAction) : Prop :=
  match a with
  | .probe => ∀ tech preferred, reportedTech env s.ril.commands = some (tech, some preferred) →
      preferred = modemMode env first s.ril.log ∧
        ∀ techs, reportedList env (s.ril.commands + 1) = some techs → bitOf tech &&& techs ≠ 0
  | a => ∀ tech ∈ techOf env s.ril a, ∀ techs, s.probed = .multimode techs → bitOf tech &&& techs ≠ 0

/-- The setting 4 is kept as the mask of 5, and 8 as that of 6, which the modem does not have. -/
def StaleFor (s : TechSystem) (value : Int32) : Prop :=
  (value = 5 ∧ s.ril.modem.preferredNetworkMode = 4 ∧ modemMode env first s.ril.log = 12) ∨
    (value = 6 ∧ s.ril.modem.preferredNetworkMode = 8 ∧ modemMode env first s.ril.log = 28)

/-- The command that asks whether the modem is one for CDMA comes behind those that were sent before. -/
def cdmaFound (d : RefRil) : Bool :=
  let n := match reportedTech env d.commands with
    | some (_, some _) => d.commands + 2
    | _ => d.commands + 1
  (succeeded (needsIntermediate (env.answer n wnamQuery))).isSome

/-- Probing does not fall back to CDMA, and behind a probing that falls back no technology is reported but the assumed
ones. A setting is in the tables and not one that is skipped for another, and the modem takes it with a line. -/
def Sound (s : TechSystem) (a : TechAction) : Prop :=
  (s.probed = .fallback → ∀ tech ∈ techOf env s.ril a, bitOf tech &&& s.ril.modem.supportedTechs ≠ 0) ∧
    match a with
    | .probe => probedBy env s.ril = .fallback → cdmaFound env s.ril = false
    | .set value => 0 ≤ value ∧ value < 12 ∧ ¬StaleFor env first s value ∧
        ∀ r ∈ settingAnswer env s.ril value, (succeeded r).isSome = true → (lineOf r).isSome = true
    | .notify _ => True

end Ril.Reference

/-! The technology that is kept is a supported one, and a setting is skipped wrongly for two pairs of settings only. -/

namespace Ril.Reference

open Lib
open Ril.Samsung (RilErrno)
open Ril.Libril (RequestData)

variable {env : RefEnv} {first : Int32} {d d' : RefRil} {s s' : TechSystem} {a : TechAction} {value mask : Int32}

/-! ### The programs -/

lemma run_deref {α : Type} (a : α) (d : RefRil) : deref (some a) d = (.ok a, d) := rfl

/-- One line is asked for, and parsed. -/
lemma ask_run {α : Type} (command responsePrefix : Bytes) (f : Bytes → Option α) (d : RefRil) :
    (do
      match succeeded (← atSendCommandSingleline env command responsePrefix) with
      | none => return none
      | some response => return f (← firstLine response) : RefM (Option α)) d =
      (.ok ((lineOf (env.answer d.commands { command := command, type := .singleline responsePrefix })).bind f),
        d.sent { command := command, type := .singleline responsePrefix }) := by
  rw [ref_bind, singleline_run]
  dsimp only
  rw [lineOf]
  cases hr : succeeded (needsIntermediate (env.answer d.commands { command := command, type := .singleline responsePrefix })) with
  | none => rfl
  | some response =>
    cases hlines : response.intermediates with
    | nil => exact absurd hlines (needs_intermediate_line _ _ hr)
    | cons line rest =>
      simp only [ref_bind, firstLine, hlines, List.head?_cons, run_deref, Option.bind_some]
      rfl

lemma query_ctec_run (d : RefRil) : queryCtec env d = (.ok (reportedTech env d.commands), d.sent ctecQuery) :=
  ask_run _ _ _ d

lemma query_supported_run (d : RefRil) :
    querySupportedTechs env d = (.ok (reportedList env d.commands), d.sent ctecList) := ask_run _ _ _ d

def RefRil.withModem (modem : ModemInfo) (d : RefRil) : RefRil := { d with modem := modem }

lemma multimode_run (d : RefRil) : isMultimodeModem env d =
    match reportedTech env d.commands with
    | some (tech, some preferred) =>
      let modem : ModemInfo := { d.modem with currentTech := tech, preferredNetworkMode := preferred }
      match reportedList env (d.commands + 1) with
      | some techs =>
        (.ok true, ((d.sent ctecQuery).sent ctecList).withModem { modem with supportedTechs := techs })
      | none => (.ok false, ((d.sent ctecQuery).sent ctecList).withModem modem)
    | _ => (.ok false, d.sent ctecQuery) := by
  rw [isMultimodeModem, ref_bind, query_ctec_run]
  dsimp only
  cases reportedTech env d.commands with
  | none => rfl
  | some r =>
    obtain ⟨tech, preferred⟩ := r
    cases preferred with
    | none => rfl
    | some preferred =>
      simp only [ref_bind, ref_modify, query_supported_run]
      have hcommands : (d.sent ctecQuery).commands = d.commands + 1 := rfl
      rw [hcommands]
      cases reportedList env (d.commands + 1) with
      | none => rfl
      | some techs => rfl

/-- The assumed technologies of a modem that has not reported any -/
def fallbackModem (cdma : Bool) (modem : ModemInfo) : ModemInfo :=
  { modem with
    supportedTechs := if cdma then mdmBits [2, 3] else mdmBits [0, 1, 4]
    currentTech := if cdma then mdmBit 2 else mdmBit 0 }

lemma probe_run (d : RefRil) : probeForModemMode env d =
    match isMultimodeModem env d with
    | (.ok false, d) => (.ok (), (d.sent wnamQuery).withModem
        (fallbackModem (succeeded (needsIntermediate (env.answer d.commands wnamQuery))).isSome d.modem))
    | (.ok true, d) => (.ok (), d)
    | (.error e, d) => (.error e, d) := by
  rw [probeForModemMode, ref_bind]
  rcases isMultimodeModem env d with ⟨e | multimode, d⟩
  · rfl
  · cases multimode with
    | true => rfl
    | false =>
      simp only [Bool.not_false, if_true, ref_bind, singleline_run, ref_modify]
      cases hcdma : (succeeded (needsIntermediate (env.answer d.commands wnamQuery))).isSome with
      | true => simp only [wnamQuery] at hcdma; simp [hcdma, RefRil.withModem, fallbackModem, wnamQuery]; rfl
      | false => simp only [wnamQuery] at hcdma; simp [hcdma, RefRil.withModem, fallbackModem, wnamQuery]; rfl

lemma not_never (env : RefEnv) (d : RefRil) : probedBy env d ≠ .never := by
  rw [probedBy]
  split
  · split
    · nofun
    · nofun
  · nofun

/-- What a probing does to the state -/
inductive ProbeEnds (env : RefEnv) (d : RefRil) : RefRil → Prop
  | multimode {tech preferred techs : Int32} (htech : reportedTech env d.commands = some (tech, some preferred))
      (htechs : reportedList env (d.commands + 1) = some techs) (h : probedBy env d = .multimode techs) :
      ProbeEnds env d (((d.sent ctecQuery).sent ctecList).withModem
        { supportedTechs := techs, currentTech := tech, preferredNetworkMode := preferred })
  | unlisted {tech preferred : Int32} (htech : reportedTech env d.commands = some (tech, some preferred))
      (h : probedBy env d = .fallback) :
      ProbeEnds env d ((((d.sent ctecQuery).sent ctecList).sent wnamQuery).withModem
        (fallbackModem (cdmaFound env d) { d.modem with preferredNetworkMode := preferred }))
  | unknown (h : probedBy env d = .fallback) :
      ProbeEnds env d (((d.sent ctecQuery).sent wnamQuery).withModem (fallbackModem (cdmaFound env d) d.modem))

lemma probe_ends (env : RefEnv) (d : RefRil) :
    ∃ d', probeForModemMode env d = (.ok (), d') ∧ ProbeEnds env d d' := by
  rw [probe_run, multimode_run]
  cases htech : reportedTech env d.commands with
  | none =>
    have hends : ProbeEnds env d _ := .unknown (by simp [probedBy, htech])
    rw [cdmaFound, htech] at hends
    exact ⟨_, rfl, hends⟩
  | some r =>
    obtain ⟨tech, preferred⟩ := r
    cases preferred with
    | none =>
      have hends : ProbeEnds env d _ := .unknown (by simp [probedBy, htech])
      rw [cdmaFound, htech] at hends
      exact ⟨_, rfl, hends⟩
    | some preferred =>
      cases htechs : reportedList env (d.commands + 1) with
      | none =>
        have hends := ProbeEnds.unlisted htech (by simp [probedBy, htech, htechs])
        rw [cdmaFound, htech] at hends
        refine ⟨_, ?_, hends⟩
        rfl
      | some techs => exact ⟨_, rfl, .multimode htech htechs (by simp [probedBy, htech, htechs])⟩

/-- The numbers of a line are all read: each takes one of its fields. -/
lemma tech_numbers_all {longBits n m : ℕ} {cur : Option Bytes} (hn : fieldsLeft cur ≤ n) (hm : fieldsLeft cur ≤ m) :
    techNumbers longBits n cur = techNumbers longBits m cur := by
  induction n generalizing cur m with
  | zero =>
    cases m with
    | zero => rfl
    | succ m =>
      rw [techNumbers, techNumbers]
      cases hr : atTokNextint longBits cur with
      | none => rfl
      | some r =>
        have hless := nextint_less hr
        omega
  | succ n ih =>
    rw [techNumbers]
    cases hr : atTokNextint longBits cur with
    | none =>
      cases m with
      | zero => rfl
      | succ m => rw [techNumbers, hr]
    | some r =>
      have hless := nextint_less hr
      cases m with
      | zero => omega
      | succ m =>
        rw [techNumbers, hr]
        exact congrArg (r.1 :: ·) (ih (by omega) (by omega))

lemma start_fields {line : Bytes} {r : Unit × Option Bytes} (h : atTokStart (some line) = some r) :
    fieldsLeft r.2 ≤ line.length + 1 := by
  rw [atTokStart] at h
  cases hdrop : line.dropWhile (· != colon) with
  | nil => simp [hdrop] at h
  | cons b rest =>
    simp only [hdrop] at h
    obtain rfl := Option.some.inj h
    have hlength := (List.dropWhile_sublist (· != colon) (l := line)).length_le
    have hcount : rest.count comma ≤ rest.length := List.count_le_length
    have hleft := fields_left_le rest
    rw [hdrop, List.length_cons] at hlength
    dsimp only
    omega

/-- No bound on the numbers is reached. -/
lemma supported_techs_all {line : Bytes} {r : Unit × Option Bytes} {n : ℕ} (h : atTokStart (some line) = some r)
    (hn : line.length + 1 ≤ n) : parseSupportedTechs env line =
      if atTokHasmore r.2 then some (techMask (techNumbers env.longBits n r.2)) else none := by
  have hfields := start_fields h
  obtain ⟨_, cur⟩ := r
  rw [parseSupportedTechs, h]
  dsimp only at *
  rw [tech_numbers_all hfields (by omega : fieldsLeft cur ≤ n)]

/-! ### The settings -/

def RefRil.tell (records : List RefRecord) (d : RefRil) : RefRil := { d with log := records ++ d.log }

/-- A new technology is reported when it has another name for the framework. -/
def techReport (newtech oldtech : Int32) : List RefRecord :=
  if techFromModemType newtech ≠ techFromModemType oldtech then
    ((techFromModemType newtech).map fun tech => .unsolicited .voiceRadioTechChanged (.ints [tech.code])).toList
  else []

/-- `setRadioTechnology` on the state -/
def RefRil.setTech (newtech : Int32) (d : RefRil) : RefRil :=
  (d.tell (techReport newtech d.modem.currentTech)).withModem { d.modem with currentTech := newtech }

lemma set_technology_run (newtech : Int32) (d : RefRil) : setRadioTechnology newtech d = (.ok (), d.setTech newtech) := by
  rw [setRadioTechnology, ref_bind, ref_get, RefRil.setTech]
  dsimp only
  by_cases hsame : newtech = d.modem.currentTech
  · subst hsame
    simp [techReport, ref_pure, RefRil.tell, RefRil.withModem]
  · rw [if_pos hsame]
    simp only [ref_bind, ref_modify, techReport]
    split
    · cases techFromModemType newtech with
      | none => rfl
      | some tech => rfl
    · rfl

/-- The new setting is kept as its number. -/
def RefRil.take (value : Int32) (told : Option Int32) (d : RefRil) : RefRil :=
  let d := d.withModem { d.modem with preferredNetworkMode := value }
  match told with
  | none => d
  | some tech => d.setTech tech

lemma mask_table (h : maskOf value = some mask) : 0 ≤ value ∧ net2pmask[value.toInt.toNat]? = some mask := by
  rw [maskOf] at h
  split at h
  · exact ⟨‹_›, h⟩
  · cases h

lemma table_run {table : List Int32} (h0 : 0 ≤ value) (h : table[value.toInt.toNat]? = some mask) (d : RefRil) :
    tableAt table value d = (.ok mask, d) := by
  rw [tableAt, if_pos h0, h]
  rfl

lemma possible_run (h : maskOf value = some mask) (d : RefRil) :
    ∃ possible, networkModePossible value d = (.ok possible, d) := by
  obtain ⟨h0, hmask⟩ := mask_table h
  have hlt : value.toInt.toNat < net2modem.length := (List.getElem?_eq_some_iff.mp hmask).1
  rw [networkModePossible, ref_bind, table_run h0 (List.getElem?_eq_getElem hlt)]
  exact ⟨_, rfl⟩

/-- What a setting in the tables does to the state -/
inductive SetEnds (env : RefEnv) (value mask : Int32) (d : RefRil) : RefRil → Prop
  | impossible : SetEnds env value mask d (d.completed .modeNotSupported .null)
  | unknown : SetEnds env value mask d ((d.sent ctecQuery).completed .genericFailure .null)
  | skipped (h : d.modem.preferredNetworkMode = mask) :
      SetEnds env value mask d ((d.sent ctecQuery).completed .success .null)
  | failed {current : Int32} {preferred : Option Int32} (hr : reportedTech env d.commands = some (current, preferred))
      (h : lineOf (env.answer (d.commands + 1) (ctecSet current mask)) = none) :
      SetEnds env value mask d (((d.sent ctecQuery).sent (ctecSet current mask)).completed .genericFailure .null)
  | taken {current : Int32} {preferred : Option Int32} {line : Bytes}
      (hr : reportedTech env d.commands = some (current, preferred))
      (h : lineOf (env.answer (d.commands + 1) (ctecSet current mask)) = some line) :
      SetEnds env value mask d ((((d.sent ctecQuery).sent (ctecSet current mask)).take value
        (if hasDone line then none else (parseTechnologyResponse env line).map Prod.fst)).completed .success .null)

lemma set_command_run (env : RefEnv) (current mask : Int32) (d : RefRil) :
    atSendCommandSingleline env (ascii "AT+CTEC=" ++ decimal current ++ ascii ",\"" ++ hexadecimal mask ++ ascii "\"")
        (ascii "+CTEC:") (d.sent ctecQuery) =
      (.ok (needsIntermediate (env.answer (d.commands + 1) (ctecSet current mask))),
        (d.sent ctecQuery).sent (ctecSet current mask)) := rfl

lemma set_ends (h : maskOf value = some mask) (d : RefRil) :
    ∃ d', requestSetPreferredNetworkType env (.parameters [(.pInts, .int32 value)]) d = (.ok (), d') ∧
      SetEnds env value mask d d' := by
  have hint : intAt (.parameters [(.pInts, .int32 value)]) 0 d = (.ok value, d) := rfl
  obtain ⟨possible, hpossible⟩ := possible_run h d
  obtain ⟨h0, hmask⟩ := mask_table h
  simp only [requestSetPreferredNetworkType, ref_bind, hint, table_run h0 hmask, hpossible]
  cases possible with
  | false => exact ⟨_, rfl, .impossible⟩
  | true =>
    simp only [Bool.not_true, Bool.false_eq_true, if_false, ref_bind, query_ctec_run]
    cases hr : reportedTech env d.commands with
    | none => exact ⟨_, rfl, .unknown⟩
    | some r =>
      obtain ⟨current, preferred⟩ := r
      simp only [ref_bind, ref_get]
      split
      · exact ⟨_, rfl, .skipped ‹_›⟩
      · simp only [ref_bind, set_command_run]
        cases hs : succeeded (needsIntermediate (env.answer (d.commands + 1) (ctecSet current mask))) with
        | none => exact ⟨_, rfl, .failed hr (by simp [lineOf, hs])⟩
        | some response =>
          cases hlines : response.intermediates with
          | nil => exact absurd hlines (needs_intermediate_line _ _ hs)
          | cons line rest =>
            have hline : lineOf (env.answer (d.commands + 1) (ctecSet current mask)) = some line := by
              simp [lineOf, hs, hlines]
            have hends : SetEnds env value mask d _ := .taken hr hline
            simp only [ref_bind, ref_modify, firstLine, hlines, List.head?_cons, run_deref]
            cases hdone : hasDone line with
            | true =>
              rw [hdone] at hends
              exact ⟨_, rfl, hends⟩
            | false =>
              rw [hdone] at hends
              cases hparse : parseTechnologyResponse env line with
              | none =>
                rw [hparse] at hends
                exact ⟨_, rfl, hends⟩
              | some r =>
                obtain ⟨tech, rest⟩ := r
                rw [hparse] at hends
                simp only [Bool.not_false, if_true, ref_bind, set_technology_run]
                exact ⟨_, rfl, hends⟩

end Ril.Reference
