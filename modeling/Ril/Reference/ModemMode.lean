import Ril.Reference.Technology

/-! The mode of the modem and the technology that is kept, over runs. A setting is skipped wrongly for two pairs of
settings. -/

namespace Ril.Reference

open Lib
open Ril.Samsung (RilErrno)

variable {env : RefEnv} {first : Int32} {d d' : RefRil} {s s' : TechSystem} {a : TechAction} {value mask mode : Int32}

/-! ### The tables -/

lemma setting_index (h0 : 0 ≤ value) (h : value.toInt.toNat < 12) : ∃ i : Fin 12, value = Int32.ofNat i := by
  refine ⟨⟨value.toInt.toNat, h⟩, ?_⟩
  have hnonneg : 0 ≤ value.toInt := Int32.le_iff_toInt_le.mp h0
  apply Int32.toInt_inj.mp
  rw [Int32.toInt_ofNat_of_lt (by dsimp only; omega)]
  dsimp only
  omega

lemma mask_index (h : maskOf value = some mask) : ∃ i : Fin 12, value = Int32.ofNat i ∧ net2pmask[i.val]? = some mask := by
  obtain ⟨h0, hmask⟩ := mask_table h
  have hlt : value.toInt.toNat < 12 := (List.getElem?_eq_some_iff.mp hmask).1
  obtain ⟨i, rfl⟩ := setting_index h0 hlt
  refine ⟨i, rfl, ?_⟩
  have hi : (Int32.ofNat i).toInt.toNat = i := by
    rw [Int32.toInt_ofNat_of_lt (by omega)]
    rfl
  rwa [hi] at hmask

lemma mask_some (h0 : 0 ≤ value) (h : value < 12) : ∃ mask, maskOf value = some mask := by
  have hlt : value.toInt < 12 := Int32.lt_iff_toInt_lt.mp h
  obtain ⟨i, rfl⟩ := setting_index h0 (by omega)
  have hall : ∀ i : Fin 12, (maskOf (Int32.ofNat i)).isSome = true := by decide
  exact Option.isSome_iff_exists.mp (hall i)

/-- A mask that is also a number of the tables stands for itself, but for two. -/
lemma mask_number (h : maskOf value = some mask) (hmode : maskOf mask = some mode) :
    mask = mode ∨ (value = 5 ∧ mask = 4 ∧ mode = 12) ∨ (value = 6 ∧ mask = 8 ∧ mode = 28) := by
  have hall : ∀ i : Fin 12, (net2pmask[i.val]?).all (fun mask => (maskOf mask).all fun mode => mask = mode ∨
      (Int32.ofNat i = 5 ∧ mask = 4 ∧ mode = 12) ∨ (Int32.ofNat i = 6 ∧ mask = 8 ∧ mode = 28)) = true := by decide
  obtain ⟨i, rfl, hi⟩ := mask_index h
  have hmask := (Option.all_eq_true _ _).mp (hall i) mask hi
  exact of_decide_eq_true ((Option.all_eq_true _ _).mp hmask mode hmode)

lemma mask_nonzero (h : maskOf value = some mask) : mask ≠ 0 := by
  have hall : ∀ i : Fin 12, (net2pmask[i.val]?).all (fun mask => mask ≠ 0) = true := by decide
  obtain ⟨i, -, hi⟩ := mask_index h
  exact of_decide_eq_true ((Option.all_eq_true _ _).mp (hall i) mask hi)

/-! ### The mode of the modem -/

lemma dec_digits (n : ℕ) : ∀ c ∈ (toString n).toList, c.isDigit = true := by
  intro c hc
  have h : (toString n).toList = Nat.toDigits 10 n := by simp [toString, Nat.repr]
  rw [h] at hc
  exact Nat.isDigit_of_mem_toDigits (by omega) (by omega) hc

lemma int_chars (n : ℤ) : ∀ c ∈ (toString n).toList, c.isDigit = true ∨ c = '-' := by
  intro c hc
  cases n with
  | ofNat n => exact .inl (dec_digits n c hc)
  | negSucc n =>
    have h : (toString (Int.negSucc n)).toList = '-' :: (toString (n + 1)).toList := by simp [toString, Int.repr]
    rw [h] at hc
    rcases List.mem_cons.mp hc with rfl | hc
    · exact .inr rfl
    · exact .inl (dec_digits _ c hc)

lemma quote_not_mem (v : Int32) : quote ∉ decimal v := by
  intro h
  obtain ⟨c, hc, heq⟩ := List.mem_map.mp h
  have hn : c.toNat % 256 = 0x22 := by
    simpa [quote, UInt8.ofNat_eq_iff_mod_eq_toNat] using congrArg UInt8.toNat heq
  rcases int_chars _ c hc with hd | rfl
  · simp only [Char.isDigit, ge_iff_le, Bool.and_eq_true, decide_eq_true_eq] at hd
    have h1 : 48 ≤ c.toNat := UInt32.le_iff_toNat_le.mp hd.1
    have h2 : c.toNat ≤ 57 := UInt32.le_iff_toNat_le.mp hd.2
    omega
  · revert hn; decide

/-- The modem reads the mask that the RIL has written. -/
lemma mode_of_set (current : Int32) (h : maskOf value = some mask) : modeOf (ctecSet current mask).command = some mask := by
  have hall : ∀ i : Fin 12, (net2pmask[i.val]?).all (fun mask =>
      (strtoul 32 16 (hexadecimal mask ++ ascii "\"")).map Int32.ofNat = some mask) = true := by decide +kernel
  obtain ⟨i, -, hi⟩ := mask_index h
  have hstarts : strStartsWith (ctecSet current mask).command (ascii "AT+CTEC=") = true := by
    simp only [strStartsWith, ctecSet, List.append_assoc, List.isPrefixOf_iff_prefix]
    exact List.prefix_append _ _
  have hplain : ∀ b ∈ ascii "AT+CTEC=" ++ decimal current ++ ascii ",", (b != quote) = true := by
    intro b hb
    simp only [bne_iff_ne]
    rintro rfl
    simp only [List.mem_append, quote_not_mem, or_false] at hb
    revert hb; decide
  have hdrop : (ctecSet current mask).command.dropWhile (· != quote) = quote :: (hexadecimal mask ++ ascii "\"") := by
    have hcommand : (ctecSet current mask).command =
        (ascii "AT+CTEC=" ++ decimal current ++ ascii ",") ++ quote :: (hexadecimal mask ++ ascii "\"") := by
      simp [ctecSet, ascii, quote]
    rw [hcommand, List.dropWhile_append_of_pos hplain]
    rfl
  rw [modeOf, if_pos hstarts, hdrop]
  exact of_decide_eq_true ((Option.all_eq_true _ _).mp (hall i) mask hi)

def RefRil.Counted (d : RefRil) : Prop := d.log.countP RefRecord.isSent = d.commands

lemma sent_counted {c : AtCommand} (h : d.Counted) : (d.sent c).Counted := by
  have hcount : (d.sent c).log.countP RefRecord.isSent = d.log.countP RefRecord.isSent + 1 := List.countP_cons_of_pos rfl
  exact hcount.trans (congrArg (· + 1) h)

/-- Nothing that the modem takes for a new mode was sent. -/
structure SameMode (env : RefEnv) (first : Int32) (d d' : RefRil) : Prop where
  counted : d.Counted → d'.Counted
  mode : modemMode env first d'.log = modemMode env first d.log

namespace SameMode

lemma trans {d'' : RefRil} (h : SameMode env first d d') (h' : SameMode env first d' d'') : SameMode env first d d'' :=
  ⟨h'.counted ∘ h.counted, h'.mode.trans h.mode⟩

lemma completed (d : RefRil) (e : RilErrno) (r : RefResponse) : SameMode env first d (d.completed e r) := ⟨id, rfl⟩

lemma withModem (d : RefRil) (modem : ModemInfo) : SameMode env first d (d.withModem modem) := ⟨id, rfl⟩

lemma sent (d : RefRil) {c : AtCommand} (hc : modeOf c.command = none) : SameMode env first d (d.sent c) := by
  refine ⟨sent_counted, ?_⟩
  simp only [RefRil.sent, modemMode, hc]

lemma setTech (d : RefRil) (tech : Int32) : SameMode env first d (d.setTech tech) := by
  rw [RefRil.setTech, techReport]
  split
  · cases techFromModemType tech with
    | none => exact ⟨id, rfl⟩
    | some r => exact ⟨id, rfl⟩
  · exact ⟨id, rfl⟩

lemma take (d : RefRil) (value : Int32) (told : Option Int32) : SameMode env first d (d.take value told) := by
  cases told with
  | none => exact withModem d _
  | some tech => exact (withModem d _).trans (setTech _ tech)

end SameMode

lemma query_mode : modeOf ctecQuery.command = none := by decide

lemma list_mode : modeOf ctecList.command = none := by decide

lemma wnam_mode : modeOf wnamQuery.command = none := by decide

/-- The mode is the new one if the modem takes the setting, also without a line. -/
lemma set_mode (h : maskOf value = some mask) (hd : d.Counted) (current : Int32) :
    modemMode env first (d.sent (ctecSet current mask)).log =
      if (succeeded (env.answer d.commands (ctecSet current mask))).isSome then mask else modemMode env first d.log := by
  have hcount : d.log.countP RefRecord.isSent = d.commands := hd
  simp only [RefRil.sent, modemMode, mode_of_set current h, hcount]
lemma refused_mode (h : maskOf value = some mask) (hd : d.Counted) (current : Int32)
    (hr : (succeeded (env.answer d.commands (ctecSet current mask))).isSome = false) :
    SameMode env first d (d.sent (ctecSet current mask)) := by
  refine ⟨sent_counted, ?_⟩
  rw [set_mode h hd, hr]
  rfl

lemma take_modem (d : RefRil) (value : Int32) (told : Option Int32) : (d.take value told).modem =
    { d.modem with preferredNetworkMode := value, currentTech := told.getD d.modem.currentTech } := by
  cases told with
  | none => rfl
  | some tech => rfl

/-! ### What is kept -/

/-- What is kept of the mode: nothing, the mode, or the number of the setting that it is the mask of -/
def Kept (kept mode : Int32) : Prop := kept = 0 ∨ kept = mode ∨ maskOf kept = some mode

structure TechInvariant (env : RefEnv) (first : Int32) (s : TechSystem) : Prop where
  counted : s.ril.Counted
  kept : Kept s.ril.modem.preferredNetworkMode (modemMode env first s.ril.log)
  listed : ∀ techs, s.probed = .multimode techs → s.ril.modem.supportedTechs = techs
  coherent : Coherent env first s

lemma init_invariant : TechInvariant env first {} :=
  ⟨rfl, .inl rfl, nofun, ⟨fun h => absurd rfl h, nofun, nofun⟩⟩

/-- A setting that is skipped is the mode already. -/
lemma skip_right (h : maskOf value = some mask) (hkept : Kept mask mode) (h5 : ¬(value = 5 ∧ mask = 4 ∧ mode = 12))
    (h6 : ¬(value = 6 ∧ mask = 8 ∧ mode = 28)) : mask = mode := by
  rcases hkept with hzero | hmode | hnumber
  · exact absurd hzero (mask_nonzero h)
  · exact hmode
  · rcases mask_number h hnumber with hmode | hbad | hbad
    · exact hmode
    · exact absurd hbad h5
    · exact absurd hbad h6

/-- What is kept of the mode holds on, as long as the mode does. -/
lemma TechInvariant.same (hi : TechInvariant env first s) (h : SameMode env first s.ril d)
    (hkept : d.modem.preferredNetworkMode = s.ril.modem.preferredNetworkMode) :
    d.Counted ∧ Kept d.modem.preferredNetworkMode (modemMode env first d.log) := by
  rw [hkept, h.mode]
  exact ⟨h.counted hi.counted, hi.kept⟩

lemma probe_invariant (hi : TechInvariant env first s) (hc : Consistent env first s .probe)
    (hs : Sound env first s .probe) : TechInvariant env first
      { ril := (probeForModemMode env s.ril).2, probed := probedBy env s.ril } := by
  obtain ⟨d, hrun, hends⟩ := probe_ends env s.ril
  rw [hrun]
  have hgsm (h : probedBy env s.ril = .fallback) (modem : ModemInfo) :
      bitOf (fallbackModem (cdmaFound env s.ril) modem).currentTech &&&
        (fallbackModem (cdmaFound env s.ril) modem).supportedTechs ≠ 0 := by
    have hsupported : bitOf (mdmBit 0) &&& mdmBits [0, 1, 4] ≠ 0 := by decide
    rw [hs.2 h]
    exact hsupported
  cases hends with
  | @multimode tech preferred techs htech htechs h =>
    obtain ⟨hmode, hlist⟩ := hc tech preferred htech
    have hsame : SameMode env first s.ril ((s.ril.sent ctecQuery).sent ctecList) :=
      (SameMode.sent _ query_mode).trans (.sent _ list_mode)
    refine ⟨hsame.counted hi.counted, .inr (.inl ?_), ?_, ?_, nofun, nofun⟩
    · exact hmode.trans hsame.mode.symm
    · intro techs' h'
      rw [h] at h'
      exact Probed.multimode.inj h'
    · exact fun _ => hlist techs htechs
  | @unlisted tech preferred htech h =>
    obtain ⟨hmode, -⟩ := hc tech preferred htech
    have hsame : SameMode env first s.ril (((s.ril.sent ctecQuery).sent ctecList).sent wnamQuery) :=
      (SameMode.sent _ query_mode).trans ((SameMode.sent _ list_mode).trans (.sent _ wnam_mode))
    refine ⟨hsame.counted hi.counted, .inr (.inl ?_), ?_, ?_, nofun, nofun⟩
    · exact hmode.trans hsame.mode.symm
    · intro techs' h'
      rw [h] at h'
      cases h'
    · exact fun _ => hgsm h _
  | unknown h =>
    have hsame : SameMode env first s.ril ((s.ril.sent ctecQuery).sent wnamQuery) :=
      (SameMode.sent _ query_mode).trans (.sent _ wnam_mode)
    have hmodem : SameMode env first _ _ := .withModem ((s.ril.sent ctecQuery).sent wnamQuery) (fallbackModem (cdmaFound env s.ril) s.ril.modem)
    obtain ⟨hcounted, hkept⟩ := hi.same (hsame.trans hmodem) rfl
    refine ⟨hcounted, hkept, ?_, ?_, nofun, nofun⟩
    · intro techs' h'
      rw [h] at h'
      cases h'
    · exact fun _ => hgsm h _

/-- A technology that is reported between probings is a supported one. -/
lemma tech_supported (hi : TechInvariant env first s) (hc : Consistent env first s a) (hs : Sound env first s a)
    {tech : Int32} (htech : tech ∈ techOf env s.ril a) (hp : s.probed ≠ .never) :
    bitOf tech &&& s.ril.modem.supportedTechs ≠ 0 := by
  cases hprobed : s.probed with
  | never => exact absurd hprobed hp
  | fallback => exact hs.1 hprobed tech htech
  | multimode techs =>
    rw [hi.listed techs hprobed]
    cases a with
    | probe => cases htech
    | set value => exact hc tech htech techs hprobed
    | notify line => exact hc tech htech techs hprobed

lemma line_succeeds {r : Except AtError AtResponse} {line : Bytes} (h : lineOf r = some line) :
    (succeeded r).isSome = true := by
  obtain ⟨response, hr, -⟩ := Option.bind_eq_some_iff.mp h
  cases r with
  | error e => cases hr
  | ok r =>
    rw [needsIntermediate] at hr
    split at hr
    · cases hr
    · rw [hr]
      rfl

lemma setting_answer {current : Int32} {preferred : Option Int32} (h : maskOf value = some mask)
    (hr : reportedTech env d.commands = some (current, preferred)) :
    settingAnswer env d value = some (env.answer (d.commands + 1) (ctecSet current mask)) := by
  simp [settingAnswer, hr, h]

lemma set_invariant (hi : TechInvariant env first s) (hc : Consistent env first s (.set value))
    (hs : Sound env first s (.set value)) : TechInvariant env first
      { ril := (techHandler env (.set value) s.ril).2
        probed := s.probed
        last := lastSet value (techHandler env (.set value) s.ril) } := by
  obtain ⟨h0, h12, hstale, hline⟩ := hs.2
  obtain ⟨mask, hmask⟩ := mask_some h0 h12
  obtain ⟨d, hrun, hends⟩ : ∃ d, techHandler env (.set value) s.ril = (.ok (), d) ∧ SetEnds env value mask s.ril d :=
    set_ends hmask s.ril
  rw [hrun]
  have hasked : SameMode env first s.ril (s.ril.sent ctecQuery) := .sent _ query_mode
  cases hends with
  | impossible =>
    obtain ⟨hcounted, hkept⟩ := hi.same (.completed s.ril .modeNotSupported .null) rfl
    exact ⟨hcounted, hkept, hi.listed, hi.coherent.supported, nofun, nofun⟩
  | unknown =>
    obtain ⟨hcounted, hkept⟩ := hi.same (hasked.trans (.completed _ .genericFailure .null)) rfl
    exact ⟨hcounted, hkept, hi.listed, hi.coherent.supported, nofun, nofun⟩
  | skipped h =>
    have hright : mask = modemMode env first s.ril.log :=
      skip_right hmask (h ▸ hi.kept) (fun hbad => hstale (.inl ⟨hbad.1, h ▸ hbad.2⟩)) fun hbad =>
        hstale (.inr ⟨hbad.1, h ▸ hbad.2⟩)
    have hsame := hasked.trans (.completed _ .success .null)
    obtain ⟨hcounted, hkept⟩ := hi.same hsame rfl
    refine ⟨hcounted, hkept, hi.listed, hi.coherent.supported, ?_, nofun⟩
    intro value' hlast
    obtain ⟨rfl, -⟩ := LastSet.answered.inj hlast
    rw [hmask, hright]
    exact congrArg some hsame.mode.symm
  | @failed current preferred hr h =>
    have hrefused : (succeeded (env.answer (s.ril.commands + 1) (ctecSet current mask))).isSome = false := by
      rw [← Bool.not_eq_true]
      intro hsome
      have hlines := hline _ (setting_answer hmask hr) hsome
      rw [h] at hlines
      cases hlines
    have hsent : SameMode env first _ _ := refused_mode hmask (hasked.counted hi.counted) current hrefused
    obtain ⟨hcounted, hkept⟩ := hi.same (hasked.trans (hsent.trans (.completed _ .genericFailure .null))) rfl
    exact ⟨hcounted, hkept, hi.listed, hi.coherent.supported, nofun, nofun⟩
  | @taken current preferred line hr h =>
    have hmode : modemMode env first ((s.ril.sent ctecQuery).sent (ctecSet current mask)).log = mask := by
      rw [set_mode hmask (hasked.counted hi.counted)]
      exact if_pos (line_succeeds h)
    generalize htold : (if hasDone line then none else (parseTechnologyResponse env line).map Prod.fst) = told
    have htech : techOf env s.ril (.set value) = told := by
      rw [← htold, techOf, setting_answer hmask hr, Option.bind_some, h]
      rfl
    have hsame : SameMode env first _ _ := .take ((s.ril.sent ctecQuery).sent (ctecSet current mask)) value told
    have hcounted := hsame.counted (sent_counted (hasked.counted hi.counted))
    have hnumber : maskOf value = some (modemMode env first
        (((s.ril.sent ctecQuery).sent (ctecSet current mask)).take value told).log) := by
      rw [hsame.mode, hmode]
      exact hmask
    have hmodem := take_modem ((s.ril.sent ctecQuery).sent (ctecSet current mask)) value told
    refine ⟨hcounted, .inr (.inr ?_), ?_, ?_, ?_, nofun⟩
    · exact (congrArg maskOf (congrArg ModemInfo.preferredNetworkMode hmodem)).trans hnumber
    · intro techs hprobed
      exact (congrArg ModemInfo.supportedTechs hmodem).trans (hi.listed techs hprobed)
    · intro hp
      have hbit : bitOf (told.getD s.ril.modem.currentTech) &&& s.ril.modem.supportedTechs ≠ 0 := by
        cases told with
        | none => exact hi.coherent.supported hp
        | some tech => exact tech_supported hi hc hs (Option.mem_def.mpr htech) hp
      dsimp only [RefRil.completed]
      rw [hmodem]
      exact hbit
    · intro value' hlast
      obtain ⟨rfl, -⟩ := LastSet.answered.inj hlast
      exact hmask.trans (congrArg some (hsame.mode.trans hmode).symm)
lemma technology_run (line : Bytes) (d : RefRil) : ∃ d', onTechnology env line d = (.ok (), d') ∧
    (d' = d ∨ ∃ tech ∈ techOf env d (.notify line), d' = d.setTech tech) := by
  rw [onTechnology]
  cases hparse : parseTechnologyResponse env line with
  | none => exact ⟨_, rfl, .inl rfl⟩
  | some r =>
    obtain ⟨tech, preferred⟩ := r
    dsimp only
    split
    · exact ⟨_, set_technology_run tech d, .inr ⟨tech, by simp [techOf, hparse], rfl⟩⟩
    · exact ⟨_, rfl, .inl rfl⟩

lemma notify_invariant {line : Bytes} (hi : TechInvariant env first s) (hc : Consistent env first s (.notify line))
    (hs : Sound env first s (.notify line)) : TechInvariant env first
      { ril := (techHandler env (.notify line) s.ril).2, probed := s.probed } := by
  obtain ⟨d, hrun, hd⟩ : ∃ d, techHandler env (.notify line) s.ril = (.ok (), d) ∧ _ := technology_run line s.ril
  rw [hrun]
  rcases hd with rfl | ⟨tech, htech, rfl⟩
  · exact ⟨hi.counted, hi.kept, hi.listed, hi.coherent.supported, nofun, nofun⟩
  · obtain ⟨hcounted, hkept⟩ := hi.same (.setTech s.ril tech) rfl
    exact ⟨hcounted, hkept, hi.listed, tech_supported hi hc hs htech, nofun, nofun⟩

lemma step_invariant (hi : TechInvariant env first s) (ha : Consistent env first s a ∧ Sound env first s a)
    (h : techStep env s a = some s') : TechInvariant env first s' := by
  cases a with
  | probe =>
    obtain rfl := Option.some.inj h
    exact probe_invariant hi ha.1 ha.2
  | set value =>
    obtain rfl := Option.some.inj h
    exact set_invariant hi ha.1 ha.2
  | notify line =>
    obtain rfl := Option.some.inj h
    exact notify_invariant hi ha.1 ha.2

/-- A modem for all five technologies, now in CDMA. It takes the setting 4. -/
def settingAnswers (n : ℕ) (c : AtCommand) : AtResponse :=
  let ok (line : Bytes) : AtResponse := { success := true, finalResponse := some (ascii "OK"), intermediates := [line] }
  if c.command = ascii "AT+CTEC?" then ok (if n < 4 then ascii "+CTEC: 2,1f" else ascii "+CTEC: 2,c")
  else if c.command = ascii "AT+CTEC=?" then ok (ascii "+CTEC: 0,1,2,3,4")
  else if c.command = ascii "AT+CTEC=2,\"c\"" then ok (ascii "+CTEC: DONE")
  else { finalResponse := some (ascii "ERROR") }

def settingModem : RefEnv where
  longBits := 64
  answer n c := .ok (settingAnswers n c)

def afterSteps (as : List TechAction) : TechSystem := (run (techStep settingModem) {} as).getD {}

lemma probe_consistent : Consistent settingModem 31 {} .probe := by
  intro tech preferred h
  have hreported : reportedTech settingModem 0 = some (2, some 31) := by decide +kernel
  have hlisted : reportedList settingModem 1 = some 31 := by decide +kernel
  obtain ⟨rfl, hpreferred⟩ := Prod.mk.inj (Option.some.inj (hreported.symm.trans h))
  refine ⟨(Option.some.inj hpreferred).symm, ?_⟩
  intro techs htechs
  obtain rfl := Option.some.inj (hlisted.symm.trans htechs)
  decide

/-- The modem reports no technology with a setting. -/
lemma set_consistent {s : TechSystem} {value : Int32} (h : techOf settingModem s.ril (.set value) = none) :
    Consistent settingModem 31 s (.set value) := by
  intro tech htech
  rw [h] at htech
  cases htech

lemma set_reached : Reaches (techStep settingModem) (fun s a => Consistent settingModem 31 s a ∧ Sound settingModem 31 s a) {}
    (afterSteps [.probe, .set 4]) := by
  have hprobe : Sound settingModem 31 {} .probe := by
    refine ⟨nofun, fun h => ?_⟩
    revert h
    decide +kernel
  have hnone : techOf settingModem (afterSteps [.probe]).ril (.set 4) = none := by decide +kernel
  have hset : Sound settingModem 31 (afterSteps [.probe]) (.set 4) := by
    refine ⟨?_, by decide, by decide, ?_, ?_⟩
    · intro _ tech htech
      rw [hnone] at htech
      cases htech
    · rintro (h | h)
      · exact absurd h.1 (by decide)
      · exact absurd h.1 (by decide)
    · intro r hr hs
      have hall : (settingAnswer settingModem (afterSteps [.probe]).ril 4).all (fun r => (lineOf r).isSome) = true := by
        decide +kernel
      exact Option.all_eq_true _ _ |>.mp hall r hr
  exact .tail (.tail .refl ⟨probe_consistent, hprobe⟩ rfl) ⟨set_consistent hnone, hset⟩ rfl

/-- The steps that a run cannot stay coherent with -/
inductive Spoils (env : RefEnv) (first : Int32) (s : TechSystem) : TechAction → Prop
  | cdma (h : probedBy env s.ril = .fallback) (hcdma : cdmaFound env s.ril = true) : Spoils env first s .probe
  | outside {value : Int32} (h : maskOf value = none) : Spoils env first s (.set value)
  | stale {value : Int32} (h : StaleFor env first s value) (hr : (reportedTech env s.ril.commands).isSome = true)
      (hp : networkModePossible value s.ril = (.ok true, s.ril)) : Spoils env first s (.set value)

lemma set_outside (h : maskOf value = none) (d : RefRil) :
    requestSetPreferredNetworkType env (.parameters [(.pInts, .int32 value)]) d = (.error .undefined, d) := by
  have hint : intAt (.parameters [(.pInts, .int32 value)]) 0 d = (.ok value, d) := rfl
  have htable : tableAt net2pmask value d = (.error .undefined, d) := by
    rw [tableAt, show (if 0 ≤ value then net2pmask[value.toInt.toNat]? else none) = none from h]
    rfl
  rw [requestSetPreferredNetworkType, ref_bind, hint]
  simp only [ref_bind, htable]

/-- A setting whose mask is kept is answered with success, whatever the mode is. -/
lemma set_skipped (hmask : maskOf value = some mask) (hr : (reportedTech env d.commands).isSome = true)
    (hp : networkModePossible value d = (.ok true, d)) (h : d.modem.preferredNetworkMode = mask) :
    requestSetPreferredNetworkType env (.parameters [(.pInts, .int32 value)]) d =
      (.ok (), (d.sent ctecQuery).completed .success .null) := by
  have hint : intAt (.parameters [(.pInts, .int32 value)]) 0 d = (.ok value, d) := rfl
  obtain ⟨h0, htable⟩ := mask_table hmask
  obtain ⟨⟨current, preferred⟩, hreported⟩ := Option.isSome_iff_exists.mp hr
  have hsent : (d.sent ctecQuery).modem.preferredNetworkMode = mask := h
  simp only [requestSetPreferredNetworkType, ref_bind, hint, table_run h0 htable, hp, Bool.not_true, Bool.false_eq_true,
    if_false, query_ctec_run, hreported, ref_get, hsent, if_true]
  rfl

lemma skipped_incoherent (hmask : maskOf value = some mask) (hr : (reportedTech env s.ril.commands).isSome = true)
    (hp : networkModePossible value s.ril = (.ok true, s.ril)) (h : s.ril.modem.preferredNetworkMode = mask)
    (hmode : modemMode env first s.ril.log ≠ mask) (hstep : techStep env s (.set value) = some s') :
    ¬Coherent env first s' := by
  have hrun : techHandler env (.set value) s.ril = (.ok (), (s.ril.sent ctecQuery).completed .success .null) :=
    set_skipped hmask hr hp h
  have hsame : SameMode env first s.ril ((s.ril.sent ctecQuery).completed .success .null) :=
    (SameMode.sent _ query_mode).trans (.completed _ _ _)
  rw [techStep, hrun] at hstep
  obtain rfl := Option.some.inj hstep
  intro hc
  have hset := hc.mode value rfl
  rw [hmask, hsame.mode] at hset
  exact hmode (Option.some.inj hset).symm

lemma spoils_incoherent (hb : Spoils env first s a) (hstep : techStep env s a = some s') : ¬Coherent env first s' := by
  cases hb with
  | cdma h hcdma =>
    obtain rfl := Option.some.inj hstep
    obtain ⟨d, hrun, hends⟩ := probe_ends env s.ril
    intro hc
    have hbit := hc.supported (not_never env s.ril)
    have hzero : bitOf (mdmBit 2) &&& mdmBits [2, 3] = 0 := by decide
    dsimp only [techHandler] at hbit
    rw [hrun] at hbit
    cases hends with
    | multimode htech htechs h' =>
      rw [h] at h'
      cases h'
    | unlisted htech _ =>
      rw [hcdma] at hbit
      exact hbit hzero
    | unknown _ =>
      rw [hcdma] at hbit
      exact hbit hzero
  | @outside value h =>
    have hrun : techHandler env (.set value) s.ril = (.error .undefined, s.ril) := set_outside h s.ril
    rw [techStep, hrun] at hstep
    obtain rfl := Option.some.inj hstep
    exact fun hc => hc.inside rfl
  | @stale value h hr hp =>
    rcases h with ⟨rfl, hkept, hmode⟩ | ⟨rfl, hkept, hmode⟩
    · have hmask : maskOf 5 = some 4 := by decide
      exact skipped_incoherent hmask hr hp hkept (by rw [hmode]; decide) hstep
    · have hmask : maskOf 6 = some 8 := by decide
      exact skipped_incoherent hmask hr hp hkept (by rw [hmode]; decide) hstep

end Ril.Reference
