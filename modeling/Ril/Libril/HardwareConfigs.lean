import Mathlib.Data.Set.Function
import Ril.Libril.Marshallers

/-! What a parcel with hardware configs tells of them. -/

namespace Ril.Libril

open Lib Ril.Ipc

structure RilHardwareConfigModem where
  rilModel : Int32
  rat : Int32
  maxVoice : Int32
  maxData : Int32
  maxStandby : Int32
deriving DecidableEq, Repr

/-- The type, with what is in the union -/
inductive RilHardwareConfigCfg
  | modem (m : RilHardwareConfigModem)
  | sim (modemUuid : CString)
deriving DecidableEq, Repr

structure RilHardwareConfig where
  uuid : CString
  state : Int32
  cfg : RilHardwareConfigCfg
deriving DecidableEq, Repr

namespace RilHardwareConfig

def strings (c : RilHardwareConfig) : List CString :=
  match c.cfg with
  | .modem _ => [c.uuid]
  | .sim modemUuid => [c.uuid, modemUuid]

variable (env : MarshalEnv)

def text (s : CString) : ParcelWrite := .string16 (some (env.strdup8to16 s))

def writes (c : RilHardwareConfig) : List ParcelWrite :=
  text env c.uuid :: .int32 c.state :: match c.cfg with
    | .modem m => [.int32 m.rat, .int32 m.maxVoice, .int32 m.maxData, .int32 m.maxStandby]
    | .sim modemUuid => [text env modemUuid]

/-- The entry that stands in the memory, if its type is one of the two -/
def read (address : ℕ) : Option RilHardwareConfig :=
  let member := memberOffset env.width rilHardwareConfigLayout
  let cfg := address + member 3
  let entry := RilHardwareConfig.mk (env.memory.string (address + member 1)) (env.int (address + member 2))
  if env.int address = 0 then
    some (entry (.modem ⟨env.int cfg, env.int (cfg + 4), env.int (cfg + 8), env.int (cfg + 12), env.int (cfg + 16)⟩))
  else if env.int address = 1 then some (entry (.sim (env.memory.string cfg)))
  else none

end RilHardwareConfig

variable (env : MarshalEnv)

def marshalHardwareConfigs (configs : List RilHardwareConfig) : Marshalled :=
  ⟨.int32 (Int32.ofNat configs.length) :: configs.flatMap (RilHardwareConfig.writes env), 0⟩

/-- The array of the response -/
structure HardwareConfigs (response : ℕ) (configs : List RilHardwareConfig) : Prop where
  nonnull : response ≠ 0
  entries : ∀ i c, configs[i]? = some c →
    RilHardwareConfig.read env (response + i * env.sizeOf rilHardwareConfigLayout) = some c

/-- The strings of the entries. What they are converted to tells them apart, and is shorter than their arrays. -/
structure Convertible (texts : Set CString) : Prop where
  injective : Set.InjOn env.strdup8to16 texts
  short : ∀ s ∈ texts, (env.strdup8to16 s).length < rilHardwareConfigUuidLength

/-- The number of the entries is an `int`. -/
structure Sendable (texts : Set CString) (configs : List RilHardwareConfig) : Prop where
  count : configs.length < 2 ^ 31
  texts : ∀ c ∈ configs, ∀ s ∈ c.strings, s ∈ texts

def Decodable (texts : Set CString) (configs : List RilHardwareConfig) : Prop :=
  ∀ others, Sendable texts others →
    (marshalHardwareConfigs env others).bytes = (marshalHardwareConfigs env configs).bytes → others = configs

def entriesBytes (configs : List RilHardwareConfig) : Bytes :=
  ((configs.flatMap (RilHardwareConfig.writes env)).map ParcelWrite.bytes).flatten

def ReadAsEntries (texts : Set CString) (count : ℕ) (data : Bytes) : Prop :=
  ∃ configs, configs.length = count ∧ (∀ c ∈ configs, ∀ s ∈ c.strings, s ∈ texts) ∧ entriesBytes env configs = data

/-- All entries are of the type SIM, and at none of them the bytes would go on with the ints of a modem and as many
entries as there are. -/
def ReadOnlyAsSims (texts : Set CString) (configs : List RilHardwareConfig) : Prop :=
  ∀ before c after, configs = before ++ c :: after → ∃ modemUuid, c.cfg = .sim modemUuid ∧
    ∀ ints rest : Bytes, ints.length = 16 →
      (RilHardwareConfig.text env modemUuid).bytes ++ entriesBytes env after = ints ++ rest →
        ¬ReadAsEntries env texts after.length rest

/-! ### The entries of the memory -/

section

variable {env : MarshalEnv} {response : ℕ} {configs : List RilHardwareConfig} {c : RilHardwareConfig}

lemma string_written {address : ℕ} (h : address ≠ 0) :
    env.string address = RilHardwareConfig.text env (env.memory.string address) := by
  rw [MarshalEnv.string, if_neg h, RilHardwareConfig.text]

lemma marshal_hardware_config {address : ℕ} (h : RilHardwareConfig.read env address = some c) :
    marshalHardwareConfig env address = c.writes env := by
  have hoffset : ∀ i ∈ [1, 2, 3], memberOffset env.width rilHardwareConfigLayout i ≠ 0 := by
    cases env.width <;> decide
  have huuid : env.member rilHardwareConfigLayout address 1 =
      RilHardwareConfig.text env (env.memory.string (address + memberOffset env.width rilHardwareConfigLayout 1)) :=
    string_written (by have := hoffset 1 (by simp); omega)
  rw [RilHardwareConfig.read] at h
  rw [marshalHardwareConfig]
  split at h
  · rename_i htype
    cases h
    rw [if_pos htype, MarshalEnv.members, List.map_cons, huuid]
    rfl
  · rename_i htype
    split at h
    · rename_i htype'
      cases h
      have hcfg : address + memberOffset env.width rilHardwareConfigLayout 3 ≠ 0 := by
        have := hoffset 3 (by simp)
        omega
      rw [if_neg htype, if_pos htype', MarshalEnv.members, List.map_cons, huuid, string_written hcfg]
      rfl
    · cases h

/-- What `responseHardwareConfig` writes of an array is what it writes of the entries. -/
lemma response_hardware_config (h : HardwareConfigs env response configs) (hcount : configs.length < 2 ^ 31) :
    responseHardwareConfig env response (configs.length * env.sizeOf rilHardwareConfigLayout) =
      marshalHardwareConfigs env configs := by
  have hsize : 0 < env.sizeOf rilHardwareConfigLayout := by
    rw [MarshalEnv.sizeOf]
    cases env.width <;> decide
  have hentries : (arrayElements response (configs.length * env.sizeOf rilHardwareConfigLayout)
      (env.sizeOf rilHardwareConfigLayout)).flatMap (marshalHardwareConfig env) =
        configs.flatMap (RilHardwareConfig.writes env) := by
    rw [arrayElements, Nat.mul_div_cancel _ hsize, as_int_toNat hcount, List.flatMap_def, List.flatMap_def, List.map_map]
    congr 1
    refine List.ext_getElem (by simp) fun i hi _ => ?_
    rw [List.getElem_map, List.getElem_map, List.getElem_range]
    exact marshal_hardware_config (h.entries i _ (List.getElem?_eq_getElem _))
  rw [responseHardwareConfig, responseArray, checkedArray, if_neg fun hn => h.nonnull hn.1,
    if_neg (not_not.mpr (Nat.mul_mod_left _ _)), marshalArray, hentries, Nat.mul_div_cancel _ hsize]
  rfl

end

/-! ### Where a write ends -/

lemma int32_bytes_length (v : Int32) : (int32Bytes v).length = 4 := number_bytes_length 4 _

lemma int32_bytes_injective : Function.Injective int32Bytes := by
  intro v w h
  have hn := congrArg numberOfBytes h
  rw [int32Bytes, int32Bytes, number_of_bytes, number_of_bytes] at hn
  have hv := v.toUInt32.toNat_lt
  have hw := w.toUInt32.toNat_lt
  rw [Nat.mod_eq_of_lt (by omega), Nat.mod_eq_of_lt (by omega)] at hn
  exact congrArg Int32.ofUInt32 (UInt32.toNat_inj.mp hn)

lemma int32_append_inj {v w : Int32} {r r' : Bytes} (h : int32Bytes v ++ r = int32Bytes w ++ r') : v = w ∧ r = r' := by
  obtain ⟨hv, hr⟩ := List.append_inj h (by rw [int32_bytes_length, int32_bytes_length])
  exact ⟨int32_bytes_injective hv, hr⟩

/-- The characters of a string in a parcel -/
def charBytes (s : List UInt16) : Bytes := (s ++ [0]).flatMap fun c : UInt16 => numberBytes 2 c.toNat

lemma char_bytes_length (s : List UInt16) : (charBytes s).length = 2 * (s.length + 1) := by
  have hc : ∀ c : UInt16, (numberBytes 2 c.toNat).length = 2 := fun c => number_bytes_length 2 _
  rw [charBytes, List.length_flatMap]
  simp only [hc, List.map_const', List.sum_replicate_nat, List.length_append, List.length_singleton]
  omega

lemma char_bytes_inj {s t : List UInt16} (h : charBytes s = charBytes t) : s = t := by
  induction s generalizing t with
  | nil =>
    have hl := congrArg List.length h
    rw [char_bytes_length, char_bytes_length] at hl
    exact (List.length_eq_zero_iff.mp (by simpa using hl.symm)).symm
  | cons c s ih =>
    cases t with
    | nil =>
      have hl := congrArg List.length h
      rw [char_bytes_length, char_bytes_length] at hl
      simp at hl
    | cons d t =>
      obtain ⟨hc, hs⟩ := List.append_inj (h : numberBytes 2 c.toNat ++ charBytes s = numberBytes 2 d.toNat ++ charBytes t)
        (by rw [number_bytes_length, number_bytes_length])
      have hn := congrArg numberOfBytes hc
      have hcl := c.toNat_lt
      have hdl := d.toNat_lt
      rw [number_of_bytes, number_of_bytes, Nat.mod_eq_of_lt (by omega), Nat.mod_eq_of_lt (by omega)] at hn
      rw [UInt16.toNat_inj.mp hn, ih hs]

lemma padded_length (data : Bytes) : (padded data).length = alignUp data.length 4 := by
  rw [padded, List.length_append, List.length_replicate]
  rw [alignUp]
  omega

def stringBytes (s : List UInt16) : Bytes := (ParcelWrite.string16 (some s)).bytes

lemma string_bytes_eq (s : List UInt16) : stringBytes s = int32Bytes (Int32.ofNat s.length) ++ padded (charBytes s) := rfl

lemma string_bytes_length (s : List UInt16) : (stringBytes s).length = 4 + alignUp (2 * (s.length + 1)) 4 := by
  rw [string_bytes_eq, List.length_append, int32_bytes_length, padded_length, char_bytes_length]

/-- The length of a string stands before it, so that the string ends in one place only. -/
lemma string_append_inj {s t : List UInt16} {r r' : Bytes} (hs : s.length < 2 ^ 31) (ht : t.length < 2 ^ 31)
    (h : stringBytes s ++ r = stringBytes t ++ r') : s = t ∧ r = r' := by
  rw [string_bytes_eq, string_bytes_eq, List.append_assoc, List.append_assoc] at h
  obtain ⟨hcount, h⟩ := int32_append_inj h
  have hlength : s.length = t.length := by
    have hn := congrArg Int32.toInt hcount
    rw [Int32.toInt_ofNat_of_lt (by omega), Int32.toInt_ofNat_of_lt (by omega)] at hn
    exact_mod_cast hn
  have hpadded : (padded (charBytes s)).length = (padded (charBytes t)).length := by
    rw [padded_length, padded_length, char_bytes_length, char_bytes_length, hlength]
  obtain ⟨hp, hr⟩ := List.append_inj h hpadded
  rw [padded, padded] at hp
  exact ⟨char_bytes_inj (List.append_inj_left hp (by rw [char_bytes_length, char_bytes_length, hlength])), hr⟩

/-! ### The entries of a parcel -/

section

variable {env : MarshalEnv} {texts : Set CString} {configs others : List RilHardwareConfig} {c : RilHardwareConfig}

def RilHardwareConfigModem.bytes (m : RilHardwareConfigModem) : Bytes :=
  int32Bytes m.rat ++ int32Bytes m.maxVoice ++ int32Bytes m.maxData ++ int32Bytes m.maxStandby

def cfgBytes (env : MarshalEnv) : RilHardwareConfigCfg → Bytes
  | .modem m => m.bytes
  | .sim modemUuid => stringBytes (env.strdup8to16 modemUuid)

lemma entries_bytes_cons (c : RilHardwareConfig) (configs : List RilHardwareConfig) : entriesBytes env (c :: configs) =
    stringBytes (env.strdup8to16 c.uuid) ++ (int32Bytes c.state ++ (cfgBytes env c.cfg ++ entriesBytes env configs)) := by
  rw [entriesBytes, entriesBytes, List.flatMap_cons, List.map_append, List.flatten_append, RilHardwareConfig.writes]
  cases c.cfg <;>
    simp [ParcelWrite.bytes, RilHardwareConfig.text, stringBytes, cfgBytes, RilHardwareConfigModem.bytes]

lemma entries_bytes_append (before after : List RilHardwareConfig) :
    entriesBytes env (before ++ after) = entriesBytes env before ++ entriesBytes env after := by
  rw [entriesBytes, List.flatMap_append, List.map_append, List.flatten_append]
  rfl

lemma marshalled_bytes (configs : List RilHardwareConfig) : (marshalHardwareConfigs env configs).bytes =
    int32Bytes (Int32.ofNat configs.length) ++ entriesBytes env configs := rfl

/-- Four bytes are those of an `int`. -/
lemma exists_int32_bytes {b : Bytes} (h : b.length = 4) : ∃ v, int32Bytes v = b := by
  have hlt := number_of_bytes_lt b
  rw [h] at hlt
  refine ⟨Int32.ofUInt32 (UInt32.ofNat (numberOfBytes b)), ?_⟩
  have hnumber : (UInt32.ofNat (numberOfBytes b)).toNat = numberOfBytes b := by
    rw [UInt32.toNat_ofNat']
    exact Nat.mod_eq_of_lt hlt
  calc
    int32Bytes (Int32.ofUInt32 (UInt32.ofNat (numberOfBytes b))) = numberBytes 4 (numberOfBytes b) :=
      congrArg (numberBytes 4) hnumber
    _ = b := by rw [← h, bytes_of_number]

lemma exists_modem_bytes {ints : Bytes} (h : ints.length = 16) : ∃ m : RilHardwareConfigModem, m.bytes = ints := by
  obtain ⟨rat, hrat⟩ := exists_int32_bytes (b := ints.take 4) (by rw [List.length_take]; omega)
  obtain ⟨voice, hvoice⟩ := exists_int32_bytes (b := (ints.drop 4).take 4) (by
    rw [List.length_take, List.length_drop]; omega)
  obtain ⟨data, hdata⟩ := exists_int32_bytes (b := (ints.drop 8).take 4) (by
    rw [List.length_take, List.length_drop]; omega)
  obtain ⟨standby, hstandby⟩ := exists_int32_bytes (b := ints.drop 12) (by rw [List.length_drop]; omega)
  refine ⟨⟨0, rat, voice, data, standby⟩, ?_⟩
  rw [RilHardwareConfigModem.bytes, hrat, hvoice, hdata, hstandby]
  have h4 := List.take_append_drop 4 ints
  have h8 := List.take_append_drop 4 (ints.drop 4)
  have h12 := List.take_append_drop 4 (ints.drop 8)
  rw [List.drop_drop] at h8 h12
  rw [List.append_assoc, List.append_assoc, h12, h8, h4]

/-- The model of a modem is not sent, and the ints of a modem may be the bytes of a string. -/
lemma read_only_of_decodable (h : Decodable env texts configs) (hs : Sendable texts configs) :
    ReadOnlyAsSims env texts configs := by
  intro before c after hc
  subst hc
  have hmem : c ∈ before ++ c :: after := List.mem_append_right _ List.mem_cons_self
  have hother : ∀ c' after', after'.length = after.length → (∀ c ∈ c' :: after', ∀ s ∈ c.strings, s ∈ texts) →
      entriesBytes env (c' :: after') = entriesBytes env (c :: after) → c' = c := by
    intro c' after' hlength htexts hbytes
    have hcount : (before ++ c' :: after').length = (before ++ c :: after).length := by
      rw [List.length_append, List.length_append, List.length_cons, List.length_cons, hlength]
    have heq := h (before ++ c' :: after') ⟨hcount ▸ hs.count, fun e he => ?_⟩ ?_
    · exact (List.cons.inj (List.append_cancel_left heq)).1
    · rcases List.mem_append.mp he with he | he
      · exact hs.texts e (List.mem_append_left _ he)
      · exact htexts e he
    · rw [marshalled_bytes, marshalled_bytes, hcount, entries_bytes_append, entries_bytes_append, hbytes]
  have hafter : ∀ e ∈ after, ∀ s ∈ e.strings, s ∈ texts := fun e he =>
    hs.texts e (List.mem_append_right _ (List.mem_cons_of_mem _ he))
  have huuid : c.uuid ∈ texts := hs.texts c hmem _ (by rw [RilHardwareConfig.strings]; split <;> exact List.mem_cons_self)
  cases hcfg : c.cfg with
  | modem m =>
    obtain ⟨model, hne⟩ : ∃ model, model ≠ m.rilModel := ⟨m.rilModel + 1, by simp⟩
    have heq := hother { c with cfg := .modem { m with rilModel := model } } after rfl ?_ ?_
    · have hcfgs := (congrArg RilHardwareConfig.cfg heq).trans hcfg
      exact (hne (congrArg RilHardwareConfigModem.rilModel (RilHardwareConfigCfg.modem.inj hcfgs))).elim
    · intro e he s hmem
      rcases List.mem_cons.mp he with rfl | he
      · obtain rfl := List.mem_singleton.mp hmem
        exact huuid
      · exact hafter e he s hmem
    · rw [entries_bytes_cons, entries_bytes_cons, hcfg]
      rfl
  | sim modemUuid =>
    refine ⟨modemUuid, rfl, fun ints rest hints hbytes ⟨others, hlength, htexts, hrest⟩ => ?_⟩
    obtain ⟨m, hm⟩ := exists_modem_bytes hints
    have heq := hother { c with cfg := .modem m } others hlength ?_ ?_
    · cases (congrArg RilHardwareConfig.cfg heq).trans hcfg
    · intro e he s hmem
      rcases List.mem_cons.mp he with rfl | he
      · obtain rfl := List.mem_singleton.mp hmem
        exact huuid
      · exact htexts e he s hmem
    · rw [entries_bytes_cons, entries_bytes_cons, hcfg, hrest]
      have hcfgs : cfgBytes env (.modem m) ++ rest = cfgBytes env (.sim modemUuid) ++ entriesBytes env after := by
        rw [cfgBytes, hm, ← hbytes]
        rfl
      rw [hcfgs]

lemma string_length_lt (hconv : Convertible env texts) {s : CString} (hs : s ∈ texts) :
    (env.strdup8to16 s).length < 2 ^ 31 :=
  (hconv.short s hs).trans (by decide)

lemma eq_of_entries_bytes (hconv : Convertible env texts) (hread : ReadOnlyAsSims env texts configs)
    (hlength : others.length = configs.length) (hc : ∀ c ∈ configs, ∀ s ∈ c.strings, s ∈ texts)
    (ho : ∀ c ∈ others, ∀ s ∈ c.strings, s ∈ texts) (h : entriesBytes env others = entriesBytes env configs) :
    others = configs := by
  induction configs generalizing others with
  | nil => exact List.length_eq_zero_iff.mp hlength
  | cons c configs ih =>
    obtain ⟨o, others, rfl⟩ := List.exists_cons_of_length_eq_add_one hlength
    obtain ⟨modemUuid, hcfg, hsole⟩ := hread [] c configs rfl
    have huuid : ∀ e : RilHardwareConfig, e.uuid ∈ e.strings := fun e => by
      rw [RilHardwareConfig.strings]
      split <;> exact List.mem_cons_self
    have hcu := hc c List.mem_cons_self _ (huuid c)
    have hou := ho o List.mem_cons_self _ (huuid o)
    have hcm := hc c List.mem_cons_self modemUuid (by rw [RilHardwareConfig.strings, hcfg]; simp)
    rw [entries_bytes_cons, entries_bytes_cons, hcfg] at h
    obtain ⟨hu, h⟩ := string_append_inj (string_length_lt hconv hou) (string_length_lt hconv hcu) h
    obtain ⟨hstate, h⟩ := int32_append_inj h
    have hconfigs : others.length = configs.length := Nat.succ.inj hlength
    cases hocfg : o.cfg with
    | modem m =>
      rw [hocfg] at h
      refine absurd ⟨others, hconfigs, fun e he => ho e (List.mem_cons_of_mem _ he), rfl⟩ (hsole _ _ ?_ h.symm)
      simp only [cfgBytes, RilHardwareConfigModem.bytes, List.length_append, int32_bytes_length]
    | sim otherUuid =>
      rw [hocfg] at h
      have hom := ho o List.mem_cons_self otherUuid (by rw [RilHardwareConfig.strings, hocfg]; simp)
      obtain ⟨hm, h⟩ := string_append_inj (string_length_lt hconv hom) (string_length_lt hconv hcm) h
      have htail := ih (fun before e after he => hread (c :: before) e after (by rw [he]; rfl)) hconfigs
        (fun e he => hc e (List.mem_cons_of_mem _ he)) (fun e he => ho e (List.mem_cons_of_mem _ he)) h
      have hhead : o = c := by
        obtain ⟨uuid, state, cfg⟩ := c
        obtain ⟨uuid', state', cfg'⟩ := o
        obtain rfl : cfg = .sim modemUuid := hcfg
        obtain rfl : cfg' = .sim otherUuid := hocfg
        obtain rfl : state' = state := hstate
        obtain rfl : uuid' = uuid := hconv.injective hou hcu hu
        obtain rfl : otherUuid = modemUuid := hconv.injective hom hcm hm
        rfl
      rw [hhead, htail]

lemma decodable_iff (hconv : Convertible env texts) (hs : Sendable texts configs) :
    Decodable env texts configs ↔ ReadOnlyAsSims env texts configs := by
  refine ⟨fun h => read_only_of_decodable h hs, fun hread others ho h => ?_⟩
  rw [marshalled_bytes, marshalled_bytes] at h
  obtain ⟨hcount, hbytes⟩ := int32_append_inj h
  have hlength : others.length = configs.length := by
    have hn := congrArg Int32.toInt hcount
    have hoc := ho.count
    have hsc := hs.count
    rw [Int32.toInt_ofNat_of_lt (by omega), Int32.toInt_ofNat_of_lt (by omega)] at hn
    exact_mod_cast hn
  exact eq_of_entries_bytes hconv hread hlength hs.texts ho.texts hbytes

/-- A single SIM is read as a modem if its string takes 16 bytes. -/
lemma decodable_single (hconv : Convertible env texts) (hs : Sendable texts [c]) : Decodable env texts [c] ↔
    ∃ modemUuid, c.cfg = .sim modemUuid ∧ (env.strdup8to16 modemUuid).length ≠ 4 ∧
      (env.strdup8to16 modemUuid).length ≠ 5 := by
  have hlength : ∀ s, ((RilHardwareConfig.text env s).bytes ++ entriesBytes env []).length =
      4 + alignUp (2 * ((env.strdup8to16 s).length + 1)) 4 := by
    intro s
    rw [List.length_append]
    exact congrArg (· + 0) (string_bytes_length _)
  rw [decodable_iff hconv hs]
  constructor
  · intro h
    obtain ⟨modemUuid, hcfg, hsole⟩ := h [] c [] rfl
    have hne : ¬alignUp (2 * ((env.strdup8to16 modemUuid).length + 1)) 4 = 12 := by
      intro h12
      refine hsole _ [] ?_ (List.append_nil _).symm ⟨[], rfl, fun _ h => (by cases h), rfl⟩
      rw [hlength, h12]
    rw [alignUp] at hne
    refine ⟨modemUuid, hcfg, fun h4 => hne ?_, fun h5 => hne ?_⟩
    · rw [h4]
    · rw [h5]
  · rintro ⟨modemUuid, hcfg, h4, h5⟩ before e after he
    obtain ⟨rfl, rfl, rfl⟩ : before = [] ∧ e = c ∧ after = [] := by
      cases before with
      | nil =>
        obtain ⟨rfl, rfl⟩ := List.cons.inj he
        exact ⟨rfl, rfl, rfl⟩
      | cons b before =>
        have hnil := (List.cons.inj he).2
        simp at hnil
    refine ⟨modemUuid, hcfg, fun ints rest hints hbytes ⟨others, hnone, _, hrest⟩ => ?_⟩
    obtain rfl := List.length_eq_zero_iff.mp hnone
    obtain rfl : [] = rest := hrest
    have hl := congrArg List.length hbytes
    rw [hlength, List.append_nil, hints, alignUp] at hl
    omega

end

/-- The parcel tells all of the entries exactly if they are SIMs that cannot be read as modems. For a single entry this
is seen from the length of its string. -/
theorem hardware_configs_decodable (env : MarshalEnv) (texts : Set CString) (hconv : Convertible env texts)
    (configs : List RilHardwareConfig) (hs : Sendable texts configs) :
    (∀ response, HardwareConfigs env response configs →
      responseHardwareConfig env response (configs.length * env.sizeOf rilHardwareConfigLayout) =
        marshalHardwareConfigs env configs) ∧
    (Decodable env texts configs ↔ ReadOnlyAsSims env texts configs) ∧
    ∀ c, configs = [c] → (Decodable env texts configs ↔ ∃ modemUuid, c.cfg = .sim modemUuid ∧
      (env.strdup8to16 modemUuid).length ≠ 4 ∧ (env.strdup8to16 modemUuid).length ≠ 5) := by
  refine ⟨fun response h => response_hardware_config h hs.count, decodable_iff hconv hs, fun c hc => ?_⟩
  subst hc
  exact decodable_single hconv hs

def shortStrings : Set CString := { s | s.length < rilHardwareConfigUuidLength }

lemma short_convertible : Convertible (emptyEnv 10) shortStrings where
  injective s _ t _ h := by
    refine List.map_injective_iff.mpr (fun a b hab => ?_) h
    have hn := congrArg UInt16.toNat hab
    rw [UInt8.toNat_toUInt16, UInt8.toNat_toUInt16] at hn
    exact UInt8.toNat_inj.mp hn
  short s hs := by
    change (s.map UInt8.toUInt16).length < _
    rw [List.length_map]
    exact hs

lemma short_sendable (c : RilHardwareConfig) (h : ∀ s ∈ c.strings, s.length < rilHardwareConfigUuidLength) :
    Sendable shortStrings [c] where
  count := by simp
  texts e he := by
    obtain rfl := List.mem_singleton.mp he
    exact h

/-- The string of a SIM has three characters. -/
theorem short_sim_decodable : (∀ response, HardwareConfigs (emptyEnv 10) response [⟨[115], 1, .sim [109, 48, 49]⟩] →
      responseHardwareConfig (emptyEnv 10) response
          ([(⟨[115], 1, .sim [109, 48, 49]⟩ : RilHardwareConfig)].length * (emptyEnv 10).sizeOf rilHardwareConfigLayout) =
        marshalHardwareConfigs (emptyEnv 10) [⟨[115], 1, .sim [109, 48, 49]⟩]) ∧
    Decodable (emptyEnv 10) shortStrings [⟨[115], 1, .sim [109, 48, 49]⟩] := by
  have h := hardware_configs_decodable (emptyEnv 10) shortStrings short_convertible [⟨[115], 1, .sim [109, 48, 49]⟩]
    (short_sendable _ (by decide))
  exact ⟨h.1, (h.2.2 _ rfl).mpr ⟨[109, 48, 49], rfl, by decide, by decide⟩⟩

/-- The parcel of a SIM with the modem `m000` is that of a modem. -/
theorem sim_read_as_modem : ¬∀ (env : MarshalEnv) (texts : Set CString), Convertible env texts →
    ∀ configs, Sendable texts configs → Decodable env texts configs := by
  intro h
  have heq := h (emptyEnv 10) shortStrings short_convertible [⟨[115], 1, .sim [109, 48, 48, 48]⟩]
    (short_sendable _ (by decide)) [⟨[115], 1, .modem ⟨0, 4, 0x30006d, 0x300030, 0⟩⟩] (short_sendable _ (by decide))
    (by decide)
  exact absurd heq (by decide)

end Ril.Libril
