import Ril.Ipc.Xmm626Upload
import Ril.Lib.CLayout
import Ril.Lib.Transcript

/-! The boot of an XMM626 modem over HSIC: what is sent to it, in which order, and what is waited for in between. -/

namespace Ril.Ipc

open Lib Computability

/-- The calls that control the modem and the link to it -/
inductive BootControl
  | power (on : Bool)
  | hciPower (on : Bool)
  | linkControlEnable (on : Bool)
  | linkControlActive (on : Bool)
  | linkConnectedWait
  | linkGetHostwakeWait
deriving DecidableEq, Repr

inductive BootByte
  | sent (b : UInt8)
  | heard (b : UInt8)
  | control (call : BootControl)
deriving DecidableEq, Repr

def BootByte.out : BootByte → Bool
  | heard _ => false
  | _ => true

/-- The boot device, the results of the next controls, and what has passed so far -/
structure BootLine where
  device : BootDevice
  controls : List Bool
  transcript : List BootByte := []
deriving DecidableEq, Repr

abbrev BootM := ExceptT Unit (StateM BootLine)

namespace BootM

/-- A write takes at most what it is given. -/
def write (data : Bytes) : BootM ℤ := fun line =>
  let rc := min line.device.write.1 data.length
  (.ok rc, { line with
    device := line.device.write.2, transcript := line.transcript ++ (data.take rc.toNat).map .sent })

def select : BootM ℤ := fun line => (.ok line.device.select.1, { line with device := line.device.select.2 })

def read (count : ℕ) : BootM Bytes := fun line =>
  let data := line.device.read count
  (.ok data.1, { line with device := data.2, transcript := line.transcript ++ data.1.map .heard })

def control (call : BootControl) : BootM Bool := fun line =>
  (.ok (line.controls.headD false),
    { line with controls := line.controls.tail, transcript := line.transcript ++ [.control call] })

def writeWhole (data : Bytes) : BootM Unit := do
  let rc ← write data
  if rc < asInt data.length then throw ()

def waitReadable : BootM Unit := do
  let rc ← select
  if rc ≤ 0 then throw ()

def hearByte : BootM Unit := do
  waitReadable
  let data ← read 1
  if data.length < 1 then throw ()

def hearBytes : ℕ → BootM Unit
  | 0 => pure ()
  | n + 1 => do
    hearByte
    hearBytes n

/-- `while (wc < size)`, with at most `chunk` bytes in a write -/
def writeRest (chunk : ℕ) (data : Bytes) : BootM Unit :=
  if data.length = 0 then pure ()
  else do
    let rc ← write (data.take chunk)
    if 0 < rc then writeRest chunk (data.drop rc.toNat) else throw ()
termination_by data.length
decreasing_by simp only [List.length_drop]; omega

/-- All are done, whatever the ones before return. -/
def controlAll (ok : Bool) : List BootControl → BootM Unit
  | [] => if ok then pure () else throw ()
  | call :: calls => do
    let rc ← control call
    controlAll (ok && rc) calls

end BootM

open BootM

def xmm626CrcCalculate (data : Bytes) : UInt8 := data.foldl (· ^^^ ·) 0

def xmm626At : Bytes := [0x41, 0x54, 0x41, 0x54]
def xmm626PsiMagic : UInt8 := 0x30
def xmm626PsiPadding : UInt8 := 0xFF
def xmm626SecEndMagic : ℕ := 0x0000
def xmm626HwResetMagic : ℕ := 0x111001
def xmm626CommandSetPortConfig : UInt16 := 0x86
def xmm626CommandSecStart : UInt16 := 0x204
def xmm626CommandSecEnd : UInt16 := 0x205
def xmm626CommandHwReset : UInt16 := 0x208
def xmm626FirmwareAddress : ℕ := 0x60300000
def xmm626NvDataAddress : ℕ := 0x60E80000
def xmm626HsicPsiUnknownCount : ℕ := 22
def xmm626HsicPsiCrcAckCount : ℕ := 2
def xmm626HsicPsiAck : UInt16 := 0xAA00
def xmm626HsicEblSizeAck : UInt16 := 0xCCCC
def xmm626HsicEblAck : UInt16 := 0xA551
def xmm626HsicEblChunk : ℕ := 0x4000
def xmm626HsicPortConfigSize : ℕ := 0x4C
def xmm626HsicSetPortConfigSize : ℕ := 0x800
def xmm626HsicSecStartSize : ℕ := 0x4000
def xmm626HsicSecEndSize : ℕ := 0x4000
def xmm626HsicHwResetSize : ℕ := 0x4000

/-- So many reads at most. One that is too short is passed over. -/
def ackReadLoop (ack : UInt16) : ℕ → BootM Unit
  | 0 => throw ()
  | rounds + 1 => do
    waitReadable
    let value ← read 2
    if value.length < 2 then ackReadLoop ack rounds
    else if shortAt value 0 = ack.toNat then pure ()
    else ackReadLoop ack rounds

def xmm626HsicAckRead (ack : UInt16) : BootM Unit := ackReadLoop ack 50

/-- `ATAT` until the modem answers. The last round fails whatever comes. -/
def atLoop : ℕ → BootM Unit
  | 0 => do
    writeWhole xmm626At
    let _ ← select
    throw ()
  | rounds + 1 => do
    writeWhole xmm626At
    let rc ← select
    if rc < 0 then throw ()
    else if rc = 0 then atLoop rounds
    else pure ()

def xmm626HsicPsiHeader (psi : Bytes) : Bytes := xmm626PsiMagic :: shortBytes psi.length ++ [xmm626PsiPadding]

/-- The size is an `unsigned short`. The first byte that is heard is an acknowledgement, the second one the chip id. -/
def xmm626HsicPsiSend (psiData : Bytes) (psiSize : UInt16) : BootM Unit := do
  let psi := psiData.take psiSize.toNat
  if psi.length = 0 then throw ()
  else do
    atLoop 51
    hearByte
    hearByte
    writeWhole (xmm626HsicPsiHeader psi)
    writeRest psi.length psi
    writeWhole [xmm626CrcCalculate psi]
    hearBytes xmm626HsicPsiUnknownCount
    hearBytes xmm626HsicPsiCrcAckCount
    xmm626HsicAckRead xmm626HsicPsiAck

/-- The size is sent as a `size_t`. -/
def xmm626HsicEblSend (width : PointerWidth) (ebl : Bytes) : BootM Unit := do
  if ebl.length = 0 then throw ()
  else do
    writeWhole (numberBytes width.bytes ebl.length)
    xmm626HsicAckRead xmm626HsicEblSizeAck
    writeRest xmm626HsicEblChunk ebl
    writeWhole [xmm626CrcCalculate ebl]
    xmm626HsicAckRead xmm626HsicEblAck

def hsicAck (code : UInt16) (commandDataSize : ℕ) : BootM Unit := do
  waitReadable
  let header ← read xmm626HsicCommandHeaderSize
  if header.length < xmm626HsicCommandHeaderSize then throw ()
  else do
    waitReadable
    let buffer ← read commandDataSize
    if (buffer.length : ℤ) < asInt commandDataSize then throw ()
    else if shortAt header 2 = code.toNat then pure ()
    else throw ()

/-- `xmm626_hsic_command_send` again, next to the transcript -/
def hsicCommand (code : UInt16) (commandDataSize : ℕ) (ack : Bool) (data : Bytes) : BootM Unit :=
  if data.length = 0 ∨ commandDataSize = 0 ∨ commandDataSize < data.length then throw ()
  else
    match copyAll (List.replicate (commandDataSize + xmm626HsicCommandHeaderSize) 0) 0
        [xmm626HsicCommandHeader code data, data] with
    | none => throw ()
    | some frame => do
      writeWhole frame
      if ack then hsicAck code commandDataSize else pure ()

/-- `while (c < size)` of `xmm626_hsic_modem_data_send` -/
def hsicBlocks (data : Bytes) : BootM Unit :=
  if data.length = 0 then pure ()
  else do
    hsicCommand xmm626CommandFlashWriteBlock xmm626HsicFlashWriteBlockSize false (data.take xmm626HsicModemDataChunk)
    hsicBlocks (data.drop xmm626HsicModemDataChunk)
termination_by data.length
decreasing_by simp only [List.length_drop, xmm626HsicModemDataChunk]; omega

def hsicModemData (data : Bytes) (address : ℕ) : BootM Unit :=
  if data.length = 0 then throw ()
  else do
    hsicCommand xmm626CommandFlashSetAddress xmm626HsicFlashSetAddressSize true (intBytes address)
    hsicBlocks data

def xmm626HsicPortConfigSend : BootM Unit := do
  waitReadable
  waitReadable
  let config ← read xmm626HsicPortConfigSize
  if config.length < xmm626HsicPortConfigSize then throw ()
  else hsicCommand xmm626CommandSetPortConfig xmm626HsicSetPortConfigSize true config

def xmm626HsicSecStartSend (sec : Bytes) : BootM Unit :=
  hsicCommand xmm626CommandSecStart xmm626HsicSecStartSize true sec

def xmm626HsicSecEndSend : BootM Unit :=
  hsicCommand xmm626CommandSecEnd xmm626HsicSecEndSize true (shortBytes xmm626SecEndMagic)

def xmm626HsicFirmwareSend (firmware : Bytes) : BootM Unit := hsicModemData firmware xmm626FirmwareAddress

/-- `nvData` is what `ipc_nv_data_load` returns. -/
def xmm626HsicNvDataSend (nvData : Option Bytes) : BootM Unit :=
  match nvData with
  | none => throw ()
  | some nvData => hsicModemData nvData xmm626NvDataAddress

def xmm626HsicHwResetSend : BootM Unit :=
  hsicCommand xmm626CommandHwReset xmm626HsicHwResetSize false (intBytes xmm626HwResetMagic)

/-- Where the parts of the modem image of a device are -/
structure BootLayout where
  psiOffset : ℕ
  psiSize : ℕ
  eblOffset : ℕ
  eblSize : ℕ
  secStartOffset : ℕ
  secStartSize : ℕ
  firmwareOffset : ℕ
  firmwareSize : ℕ
  psi_size_lt : psiSize < 2 ^ 16

namespace BootLayout

variable (layout : BootLayout) (image : Bytes)

def psi : Bytes := (image.drop layout.psiOffset).take layout.psiSize
def ebl : Bytes := (image.drop layout.eblOffset).take layout.eblSize
def secStart : Bytes := (image.drop layout.secStartOffset).take layout.secStartSize
def firmware : Bytes := (image.drop layout.firmwareOffset).take layout.firmwareSize

end BootLayout

def galaxys2Layout : BootLayout where
  psiOffset := 0
  psiSize := 0xF000
  eblOffset := 0xF000
  eblSize := 0x19000
  secStartOffset := 0x9FF800
  secStartSize := 0x800
  firmwareOffset := 0x28000
  firmwareSize := 0x9D8000
  psi_size_lt := by decide

/-- The layout of the i9300 and of the n7100 -/
def i9300Layout : BootLayout where
  psiOffset := 0x1000
  psiSize := 0xE000
  eblOffset := 0xF000
  eblSize := 0x19000
  secStartOffset := 0x9FF800
  secStartSize := 0x800
  firmwareOffset := 0x28000
  firmwareSize := 0x9D7800
  psi_size_lt := by decide

/-- The calls that turn the modem off and on before the transfer -/
abbrev PowerCycle := List BootControl × List BootControl

def galaxys2PowerCycle : PowerCycle :=
  ([.power false, .linkControlEnable false, .hciPower false, .linkControlActive false],
    [.power true, .linkControlEnable true, .hciPower true, .linkControlActive true])

def i9300PowerCycle : PowerCycle := ([.hciPower false], [.power true, .hciPower true])

/-- The boot, with the devices open and the image mapped. Only the first wait for the host wake may fail. -/
def hsicBoot (cycle : PowerCycle) (layout : BootLayout) (width : PointerWidth) (image : Bytes)
    (nvData : Option Bytes) : BootM Unit := do
  controlAll true cycle.1
  controlAll true cycle.2
  controlAll true [.linkConnectedWait]
  xmm626HsicPsiSend (image.drop layout.psiOffset) (UInt16.ofNat layout.psiSize)
  xmm626HsicEblSend width (layout.ebl image)
  xmm626HsicPortConfigSend
  xmm626HsicSecStartSend (layout.secStart image)
  xmm626HsicFirmwareSend (layout.firmware image)
  xmm626HsicNvDataSend nvData
  xmm626HsicSecEndSend
  xmm626HsicHwResetSend
  let _ ← BootM.control .linkGetHostwakeWait
  controlAll true [.linkControlEnable false, .hciPower false, .linkControlActive false]
  controlAll true [.linkGetHostwakeWait]
  controlAll true [.linkControlEnable true, .hciPower true, .linkControlActive true]
  controlAll true [.linkConnectedWait]

/-- The devices that boot over HSIC -/
inductive HsicDevice
  | galaxys2 | i9300 | n7100
deriving DecidableEq, Repr

namespace HsicDevice

def layout : HsicDevice → BootLayout
  | galaxys2 => galaxys2Layout
  | i9300 => i9300Layout
  | n7100 => i9300Layout

def cycle : HsicDevice → PowerCycle
  | galaxys2 => galaxys2PowerCycle
  | i9300 => i9300PowerCycle
  | n7100 => i9300PowerCycle

/-- `galaxys2_boot`, `i9300_boot` and `n7100_boot` -/
def boot (model : HsicDevice) : PointerWidth → Bytes → Option Bytes → BootM Unit := hsicBoot model.cycle model.layout

end HsicDevice

/-! ### What passes over the line in each stage -/

def sends (data : Bytes) : Language BootByte := {data.map .sent}

def hears (n : ℕ) : Language BootByte := {w | ∃ data : Bytes, data.length = n ∧ w = data.map .heard}

def controls (calls : List BootControl) : Language BootByte := {calls.map .control}

/-- Anything may be heard before the acknowledgement. -/
def acked (ack : UInt16) : Language BootByte :=
  {w | ∃ before : Bytes, w = (before ++ shortBytes ack.toNat).map .heard}

def hsicFrame (code : UInt16) (commandDataSize : ℕ) (data : Bytes) : Bytes :=
  xmm626HsicCommandHeader code data ++ data ++ List.replicate (commandDataSize - data.length) 0

/-- The header of the answer has the code of the command. -/
def hsicAcked (code : UInt16) (commandDataSize : ℕ) : Language BootByte :=
  {w | ∃ header buffer : Bytes, header.length = xmm626HsicCommandHeaderSize ∧ shortAt header 2 = code.toNat ∧
    buffer.length = commandDataSize ∧ w = (header ++ buffer).map .heard}

def hsicCommanded (code : UInt16) (commandDataSize : ℕ) (data : Bytes) : Language BootByte :=
  sends (hsicFrame code commandDataSize data) * hsicAcked code commandDataSize

def psiStage (psi : Bytes) : Language BootByte :=
  (sends xmm626At * (sends xmm626At)∗) * (hears 2 *
    (sends (xmm626HsicPsiHeader psi ++ psi ++ [xmm626CrcCalculate psi]) * (hears
      (xmm626HsicPsiUnknownCount + xmm626HsicPsiCrcAckCount) * acked xmm626HsicPsiAck)))

def eblStage (width : PointerWidth) (ebl : Bytes) : Language BootByte :=
  sends (numberBytes width.bytes ebl.length) * (acked xmm626HsicEblSizeAck *
    (sends (ebl ++ [xmm626CrcCalculate ebl]) * acked xmm626HsicEblAck))

/-- The configuration that is heard is what is sent. -/
def portConfigStage : Language BootByte :=
  {w | ∃ config : Bytes, config.length = xmm626HsicPortConfigSize ∧
    ∃ v ∈ hsicCommanded xmm626CommandSetPortConfig xmm626HsicSetPortConfigSize config, w = config.map .heard ++ v}

def blocksOf (data : Bytes) : Language BootByte :=
  {w | ∃ blocks, BlocksOf xmm626HsicFormat xmm626HsicModemDataChunk data blocks ∧ w = blocks.flatten.map .sent}

def modemDataStage (data : Bytes) (address : ℕ) : Language BootByte :=
  hsicCommanded xmm626CommandFlashSetAddress xmm626HsicFlashSetAddressSize (intBytes address) * blocksOf data

/-- All stages of the boot, in their order -/
def hsicStages (cycle : PowerCycle) (layout : BootLayout) (width : PointerWidth) (image : Bytes)
    (nvData : Option Bytes) : List (Language BootByte) :=
  [controls cycle.1, controls cycle.2, controls [.linkConnectedWait], psiStage (layout.psi image),
    eblStage width (layout.ebl image), portConfigStage,
    hsicCommanded xmm626CommandSecStart xmm626HsicSecStartSize (layout.secStart image),
    modemDataStage (layout.firmware image) xmm626FirmwareAddress,
    modemDataStage (nvData.getD []) xmm626NvDataAddress,
    hsicCommanded xmm626CommandSecEnd xmm626HsicSecEndSize (shortBytes xmm626SecEndMagic),
    sends (hsicFrame xmm626CommandHwReset xmm626HsicHwResetSize (intBytes xmm626HwResetMagic)),
    controls [.linkGetHostwakeWait], controls [.linkControlEnable false, .hciPower false, .linkControlActive false],
    controls [.linkGetHostwakeWait], controls [.linkControlEnable true, .hciPower true, .linkControlActive true],
    controls [.linkConnectedWait]]

/-! ### The stages of the calls -/

abbrev BootSpeaks {α : Type} (m : BootM α) (L : α → Language BootByte) (F : Language BootByte) : Prop :=
  Speaks BootLine.transcript m L F

/-- What is sent or controlled is the beginning of what the stage sends and controls. -/
abbrev BootStage {α : Type} (m : BootM α) (L : Language BootByte) : Prop :=
  Stage BootByte.out BootLine.transcript m L

abbrev started (L : Language BootByte) : Language BootByte := begun BootByte.out L

variable {L M : Language BootByte} {data part : Bytes} {u v : List BootByte} {code : UInt16} {n : ℕ}

lemma filter_sent (data : Bytes) : (data.map BootByte.sent).filter BootByte.out = data.map .sent :=
  List.filter_eq_self.mpr fun _ h => by
    obtain ⟨b, -, rfl⟩ := List.mem_map.mp h
    rfl

lemma heard_out (data : Bytes) : ∀ b ∈ data.map BootByte.heard, b.out = false := by
  intro b hb
  obtain ⟨c, -, rfl⟩ := List.mem_map.mp hb
  rfl

lemma filter_heard (data : Bytes) : (data.map BootByte.heard).filter BootByte.out = [] :=
  List.filter_eq_nil_iff.mpr fun b hb => by
    rw [heard_out data b hb]
    exact Bool.false_ne_true

lemma started_sends (h : part <+: data) : part.map BootByte.sent ∈ started (sends data) :=
  ⟨data.map .sent, rfl, by rw [filter_sent, filter_sent]; exact h.map _⟩

/-- What is heard belongs to the beginning of any stage. -/
lemma started_heard (data : Bytes) (hv : v ∈ started L) : data.map .heard ++ v ∈ started L := by
  obtain ⟨w, hw, hp⟩ := hv
  refine ⟨w, hw, ?_⟩
  rwa [List.filter_append, filter_heard, List.nil_append]

lemma write_speaks (data : Bytes) {F : Language BootByte} :
    BootSpeaks (BootM.write data) (fun rc => {w | rc ≤ data.length ∧ w = (data.take rc.toNat).map .sent}) F := by
  rintro past s rfl
  exact .ok ⟨_, ⟨min_le_right _ _, rfl⟩, rfl⟩

lemma select_speaks {F : Language BootByte} : BootSpeaks BootM.select (fun _ => 1) F := by
  rintro past s rfl
  exact .ok ⟨[], rfl, (List.append_nil _).symm⟩

lemma read_speaks (count : ℕ) {F : Language BootByte} :
    BootSpeaks (BootM.read count) (fun data => {w | data.length ≤ count ∧ w = data.map .heard}) F := by
  rintro past s rfl
  exact .ok ⟨_, ⟨by simp [BootDevice.read], rfl⟩, rfl⟩

lemma control_stage (call : BootControl) : BootStage (BootM.control call) (controls [call]) := by
  refine ⟨?_, _, rfl⟩
  rintro past s rfl
  exact .ok ⟨_, rfl, rfl⟩

lemma write_whole_stage (data : Bytes) (h : data.length < 2 ^ 31) : BootStage (writeWhole data) (sends data) := by
  refine ⟨Speaks.bind (write_speaks data) (le_refl _) fun rc u hu => ?_, _, rfl⟩
  obtain ⟨hle, rfl⟩ := hu
  refine Speaks.ite (fun _ => Speaks.throw ?_) fun hrc => Speaks.pure ?_
  · rw [Language.mem_leftQuotient, List.append_nil]
    exact started_sends (List.take_prefix _ _)
  · rw [as_int_of_lt h] at hrc
    rw [Language.mem_leftQuotient, List.append_nil, List.take_of_length_le (by omega)]
    exact rfl

lemma wait_readable_speaks {F : Language BootByte} (h : [] ∈ F) : BootSpeaks waitReadable (fun _ => 1) F := by
  refine Speaks.bind select_speaks (le_refl _) fun rc u hu => ?_
  obtain rfl : u = [] := hu
  exact Speaks.ite (fun _ => Speaks.throw h) fun _ => Speaks.pure rfl

/-- The bytes that are left follow the ones that were taken. -/
lemma write_rest_stage (chunk : ℕ) (data : Bytes) : BootStage (writeRest chunk data) (sends data) := by
  induction hn : data.length using Nat.strong_induction_on generalizing data with
  | h n ih =>
    subst hn
    rw [writeRest]
    refine ⟨Speaks.ite (fun h => Speaks.pure ?_) fun h => ?_, _, rfl⟩
    · rw [List.eq_nil_of_length_eq_zero h]
      exact rfl
    · refine Speaks.bind (write_speaks _) (le_refl _) fun rc u hu => ?_
      obtain ⟨hle, rfl⟩ := hu
      rw [List.length_take] at hle
      have htaken : (data.take chunk).take rc.toNat = data.take rc.toNat := by
        rw [List.take_take, Nat.min_eq_left (by omega)]
      have hwhole : data.take rc.toNat ++ data.drop rc.toNat = data := List.take_append_drop _ _
      rw [htaken]
      refine Speaks.ite (fun hrc => ?_) fun _ => Speaks.throw ?_
      · have hrest := ih (data.drop rc.toNat).length (by rw [List.length_drop]; omega) _ rfl
        refine hrest.speaks.mono (fun _ v hv => ?_) fun v hv => ?_
        · obtain rfl : v = (data.drop rc.toNat).map .sent := hv
          exact (List.map_append ..).symm.trans (congrArg _ hwhole)
        · obtain ⟨w, rfl, hp⟩ := hv
          refine ⟨data.map .sent, rfl, ?_⟩
          nth_rewrite 2 [← hwhole]
          rw [List.map_append, List.filter_append, List.filter_append]
          exact (List.prefix_append_right_inj _).mpr hp
      · rw [Language.mem_leftQuotient, List.append_nil]
        exact started_sends (List.take_prefix _ _)

lemma hears_word (n : ℕ) : ∃ w, w ∈ hears n := ⟨_, List.replicate n 0, List.length_replicate, rfl⟩

lemma hear_byte_stage : BootStage hearByte (hears 1) := by
  have hnil : [] ∈ started (hears 1) := nil_mem_begun (hears_word 1)
  refine ⟨Speaks.bind (wait_readable_speaks hnil) (le_refl _) fun _ u hu => ?_, hears_word 1⟩
  obtain rfl : u = [] := hu
  refine Speaks.bind (read_speaks 1) (le_refl _) fun data u hu => ?_
  obtain ⟨hle, rfl⟩ := hu
  refine Speaks.ite (fun _ => Speaks.throw ?_) fun h => Speaks.pure ?_
  · exact started_heard data hnil
  · exact ⟨data, by omega, List.append_nil _⟩

lemma hears_mul (n m : ℕ) : hears n * hears m ≤ hears (n + m) := by
  rintro w ⟨_, ⟨first, rfl, rfl⟩, _, ⟨second, rfl, rfl⟩, rfl⟩
  exact ⟨first ++ second, List.length_append, (List.map_append ..).symm⟩

lemma hear_bytes_stage (n : ℕ) : BootStage (hearBytes n) (hears n) := by
  induction n with
  | zero => exact Stage.pure.mono fun w hw => ⟨[], rfl, hw⟩
  | succ n ih => exact (hear_byte_stage.seq fun _ => ih).mono (Nat.add_comm 1 n ▸ hears_mul 1 n)

lemma short_bytes_of_two {value : Bytes} (h : value.length = 2) : shortBytes (shortAt value 0) = value := by
  obtain ⟨a, b, rfl⟩ := List.length_eq_two.mp h
  have ha := a.toNat_lt
  have hb : (a.toNat + 256 * b.toNat) / 256 = b.toNat := by omega
  simp [shortBytes, shortAt, byteAt, hb]

/-- What is no acknowledgement is passed over. -/
lemma ack_read_loop_stage (ack : UInt16) (rounds : ℕ) : BootStage (ackReadLoop ack rounds) (acked ack) := by
  have hword : ∃ w, w ∈ acked ack := ⟨_, [], rfl⟩
  induction rounds with
  | zero => exact Stage.throw hword
  | succ rounds ih =>
    refine ⟨Speaks.bind (wait_readable_speaks (nil_mem_begun hword)) (le_refl _) fun _ u hu => ?_, hword⟩
    obtain rfl : u = [] := hu
    refine Speaks.bind (read_speaks 2) (le_refl _) fun value u hu => ?_
    obtain ⟨hle, rfl⟩ := hu
    have hagain : BootSpeaks (ackReadLoop ack rounds) (fun _ => (acked ack).leftQuotient (value.map .heard))
        ((started (acked ack)).leftQuotient (value.map .heard)) := by
      refine ih.speaks.mono (fun _ v hv => ?_) fun v hv => started_heard value hv
      obtain ⟨before, rfl⟩ := hv
      exact ⟨value ++ before, by simp only [List.append_assoc, List.map_append]⟩
    refine Speaks.ite (fun _ => hagain) fun h2 => Speaks.ite (fun hack => Speaks.pure ?_) fun _ => hagain
    refine ⟨[], ?_⟩
    rw [List.append_nil, ← hack, short_bytes_of_two (by omega)]
    rfl

lemma at_loop_stage (rounds : ℕ) : BootStage (atLoop rounds) (sends xmm626At * (sends xmm626At)∗) := by
  have hat : BootStage (writeWhole xmm626At) (sends xmm626At) := write_whole_stage xmm626At (by decide)
  have hword : ∃ w, w ∈ (sends xmm626At)∗ := ⟨[], Language.nil_mem_kstar _⟩
  induction rounds with
  | zero =>
    refine hat.seq fun _ => ⟨Speaks.bind select_speaks (le_refl _) fun rc u hu => ?_, hword⟩
    obtain rfl : u = [] := hu
    exact Speaks.throw (nil_mem_begun hword)
  | succ rounds ih =>
    refine hat.seq fun _ => ⟨Speaks.bind select_speaks (le_refl _) fun rc u hu => ?_, hword⟩
    obtain rfl : u = [] := hu
    refine Stage.speaks (Stage.ite (fun _ => Stage.throw hword) fun _ => Stage.ite (fun _ => ?_) fun _ => ?_)
    · exact ih.mono mul_kstar_le_kstar
    · exact Stage.pure.mono one_le_kstar

/-! ### Commands -/

lemma hsic_acked_word (code : UInt16) (commandDataSize : ℕ) : ∃ w, w ∈ hsicAcked code commandDataSize := by
  refine ⟨_, [0, 0] ++ shortBytes code.toNat ++ intBytes 0, List.replicate commandDataSize 0, rfl, ?_,
    List.length_replicate, rfl⟩
  exact short_field [0, 0] (intBytes 0) (by rw [List.append_assoc]) code.toNat_lt

lemma hsic_ack_stage {commandDataSize : ℕ} (h : commandDataSize < 2 ^ 31) :
    BootStage (hsicAck code commandDataSize) (hsicAcked code commandDataSize) := by
  have hword := hsic_acked_word code commandDataSize
  have hnil : [] ∈ started (hsicAcked code commandDataSize) := nil_mem_begun hword
  refine ⟨Speaks.bind (wait_readable_speaks hnil) (le_refl _) fun _ u hu => ?_, hword⟩
  obtain rfl : u = [] := hu
  refine Speaks.bind (read_speaks _) (le_refl _) fun header u hu => ?_
  obtain ⟨hheader, rfl⟩ := hu
  have hstop : header.map .heard ++ [] ∈ started (hsicAcked code commandDataSize) := started_heard header hnil
  refine Speaks.ite (fun _ => Speaks.throw hstop) fun hshort => ?_
  refine Speaks.bind (wait_readable_speaks hstop) (le_refl _) fun _ v hv => ?_
  obtain rfl : v = [] := hv
  refine Speaks.bind (read_speaks _) (le_refl _) fun buffer v hv => ?_
  obtain ⟨hbuffer, rfl⟩ := hv
  have hstop : header.map .heard ++ (buffer.map .heard ++ []) ∈ started (hsicAcked code commandDataSize) :=
    started_heard header (started_heard buffer hnil)
  refine Speaks.ite (fun _ => Speaks.throw hstop) fun hsize => ?_
  refine Speaks.ite (fun hcode => Speaks.pure ?_) fun _ => Speaks.throw hstop
  refine ⟨header, buffer, by omega, hcode, ?_, by simp⟩
  rw [as_int_of_lt h] at hsize
  omega

lemma hsic_frame_copied {commandDataSize : ℕ} (h : data.length ≤ commandDataSize) :
    copyAll (List.replicate (commandDataSize + xmm626HsicCommandHeaderSize) (0 : UInt8)) 0
      [xmm626HsicCommandHeader code data, data] = some (hsicFrame code commandDataSize data) := by
  have hlen : [xmm626HsicCommandHeader code data, data].flatten.length =
      data.length + xmm626HsicCommandHeaderSize := by
    simp only [List.flatten_cons, List.flatten_nil, List.append_nil, List.length_append, hsic_header_length]
    omega
  rw [copy_all_block, hlen, List.length_replicate, if_pos (by omega), List.drop_replicate]
  simp only [List.flatten_cons, List.flatten_nil, List.append_nil, hsicFrame, Nat.add_sub_add_right]

lemma hsic_command_stage {commandDataSize : ℕ} {ack : Bool} (data : Bytes) (hsize : commandDataSize + 8 < 2 ^ 31)
    (hm : BootStage (if ack then hsicAck code commandDataSize else pure ()) M) :
    BootStage (hsicCommand code commandDataSize ack data) (sends (hsicFrame code commandDataSize data) * M) := by
  refine Stage.ite (fun _ => Stage.throw ?_) fun h => ?_
  · obtain ⟨w, hw⟩ := hm.word
    exact ⟨_, Language.append_mem_mul rfl hw⟩
  · rw [hsic_frame_copied (by omega)]
    refine (write_whole_stage _ ?_).seq fun _ => hm
    simp only [hsicFrame, List.length_append, hsic_header_length, xmm626HsicCommandHeaderSize, List.length_replicate]
    omega

lemma hsic_command_acked {commandDataSize : ℕ} (data : Bytes) (hsize : commandDataSize + 8 < 2 ^ 31) :
    BootStage (hsicCommand code commandDataSize true data) (hsicCommanded code commandDataSize data) :=
  hsic_command_stage data hsize (hsic_ack_stage (by omega))

lemma hsic_command_sent {commandDataSize : ℕ} (data : Bytes) (hsize : commandDataSize + 8 < 2 ^ 31) :
    BootStage (hsicCommand code commandDataSize false data) (sends (hsicFrame code commandDataSize data)) :=
  mul_one (sends (hsicFrame code commandDataSize data)) ▸ hsic_command_stage data hsize Stage.pure

/-! ### The commands without a transcript -/

lemma boot_bind_apply {α β : Type} (m : BootM α) (f : α → BootM β) (line : BootLine) : (m >>= f) line =
    match m line with
    | (.ok a, line) => f a line
    | (.error e, line) => (.error e, line) := by
  have h : (m >>= f) line = ExceptT.bindCont f (m line).1 (m line).2 := rfl
  rw [h]
  cases m line with
  | mk result line =>
    cases result <;> rfl

lemma write_whole_run (data : Bytes) (line : BootLine) : ∃ transcript, writeWhole data line =
    (if line.device.write.1 < asInt data.length then .error () else .ok (),
      ⟨line.device.write.2, line.controls, transcript⟩) := by
  have hle := as_int_le data.length
  have hrun : writeWhole data line = (if min line.device.write.1 data.length < asInt data.length then throw ()
      else pure () : BootM Unit) (BootM.write data line).2 := rfl
  rw [hrun]
  by_cases h : line.device.write.1 < asInt data.length
  · rw [if_pos h, if_pos (by omega)]
    exact ⟨_, rfl⟩
  · rw [if_neg h, if_neg (by omega)]
    exact ⟨_, rfl⟩

lemma wait_readable_run (line : BootLine) : waitReadable line =
    (if line.device.select.1 ≤ 0 then .error () else .ok (), { line with device := line.device.select.2 }) := by
  have hrun : waitReadable line = (if line.device.select.1 ≤ 0 then throw () else pure () : BootM Unit)
      (BootM.select line).2 := rfl
  rw [hrun]
  split
  · rfl
  · rfl

lemma read_run (count : ℕ) (line : BootLine) : BootM.read count line =
    (.ok (line.device.read count).1, ⟨(line.device.read count).2, line.controls,
      line.transcript ++ (line.device.read count).1.map .heard⟩) := rfl

/-- The acknowledgement is read as it is without a transcript. -/
lemma hsic_ack_run (code : UInt16) (commandDataSize : ℕ) (line : BootLine) : ∃ transcript,
    hsicAck code commandDataSize line =
      (if (xmm626HsicAck code commandDataSize line.device).1 then .ok () else .error (),
        ⟨(xmm626HsicAck code commandDataSize line.device).2, line.controls, transcript⟩) := by
  rw [hsicAck, xmm626HsicAck, boot_bind_apply, wait_readable_run]
  by_cases hselect : line.device.select.1 ≤ 0
  · simp only [if_pos hselect]
    exact ⟨_, rfl⟩
  simp only [if_neg hselect, boot_bind_apply, read_run]
  generalize line.device.select.2.read xmm626HsicCommandHeaderSize = header
  by_cases hheader : header.1.length < xmm626HsicCommandHeaderSize
  · simp only [if_pos hheader]
    exact ⟨_, rfl⟩
  simp only [if_neg hheader, boot_bind_apply, wait_readable_run]
  by_cases hselect : header.2.select.1 ≤ 0
  · simp only [if_pos hselect]
    exact ⟨_, rfl⟩
  simp only [if_neg hselect, read_run]
  generalize header.2.select.2.read commandDataSize = buffer
  by_cases hbuffer : (buffer.1.length : ℤ) < asInt commandDataSize
  · simp only [if_pos hbuffer]
    exact ⟨_, rfl⟩
  simp only [if_neg hbuffer]
  by_cases hcode : shortAt header.1 2 = code.toNat
  · simp only [hcode]
    exact ⟨_, rfl⟩
  · simp only [if_neg hcode, decide_eq_false hcode]
    exact ⟨_, rfl⟩

/-- The command does what it does without a transcript. -/
lemma hsic_command_run (code : UInt16) (commandDataSize : ℕ) (ack : Bool) (data : Bytes) (line : BootLine) :
    ∃ transcript, hsicCommand code commandDataSize ack data line =
      (if (xmm626HsicCommandSend code commandDataSize ack data line.device).1.ok then .ok () else .error (),
        ⟨(xmm626HsicCommandSend code commandDataSize ack data line.device).2, line.controls, transcript⟩) := by
  rw [hsicCommand, xmm626HsicCommandSend]
  by_cases hsizes : data.length = 0 ∨ commandDataSize = 0 ∨ commandDataSize < data.length
  · simp only [if_pos hsizes]
    exact ⟨_, rfl⟩
  simp only [if_neg hsizes, hsic_frame_copied (Nat.not_lt.mp fun h => hsizes (.inr (.inr h)))]
  obtain ⟨transcript, hwrite⟩ := write_whole_run (hsicFrame code commandDataSize data) line
  rw [boot_bind_apply, hwrite]
  by_cases hwritten : line.device.write.1 < asInt (hsicFrame code commandDataSize data).length
  · simp only [if_pos hwritten]
    exact ⟨_, rfl⟩
  simp only [if_neg hwritten]
  cases ack with
  | false => exact ⟨_, rfl⟩
  | true => exact hsic_ack_run code commandDataSize _

/-! ### Uploads -/

lemma blocks_nil : [] ∈ blocksOf [] := by
  refine ⟨[], ⟨rfl, ?_, ?_, ?_⟩, rfl⟩
  · exact fun _ h => absurd h List.not_mem_nil
  · exact fun _ h => absurd h List.not_mem_nil
  · exact fun _ h => absurd h List.not_mem_nil

/-- A block in front of the blocks of the rest -/
lemma blocks_cons (h : data.length ≠ 0) :
    sends (hsicFrame xmm626CommandFlashWriteBlock xmm626HsicFlashWriteBlockSize (data.take xmm626HsicModemDataChunk)) *
      blocksOf (data.drop xmm626HsicModemDataChunk) ≤ blocksOf data := by
  rintro w ⟨_, rfl, _, ⟨blocks, hblocks, rfl⟩, rfl⟩
  generalize hpiece : data.take xmm626HsicModemDataChunk = piece
  have hchunk : xmm626HsicModemDataChunk = 0x4000 := rfl
  have hlen : piece.length = min xmm626HsicModemDataChunk data.length := hpiece ▸ List.length_take
  have hdescribes : xmm626HsicFormat.Describes xmm626CommandFlashWriteBlock piece
      (hsicFrame xmm626CommandFlashWriteBlock xmm626HsicFlashWriteBlockSize piece) := hsic_describes (by omega) _
  generalize hsicFrame xmm626CommandFlashWriteBlock xmm626HsicFlashWriteBlockSize piece = frame at hdescribes
  have hpayload : xmm626HsicFormat.payload frame = piece := hdescribes.payload_eq
  refine ⟨frame :: blocks, ⟨?_, ?_, ?_, ?_⟩, (List.map_append ..).symm⟩
  · rw [List.map_cons, List.flatten_cons, hpayload, hblocks.whole, ← hpiece, List.take_append_drop]
  · refine List.forall_mem_cons.mpr ⟨?_, hblocks.not_empty⟩
    rw [hpayload]
    exact List.ne_nil_of_length_pos (by omega)
  · refine List.forall_mem_cons.mpr ⟨?_, hblocks.chunk_le⟩
    rw [hpayload, hlen]
    exact Nat.min_le_left _ _
  · exact List.forall_mem_cons.mpr ⟨hpayload.symm ▸ hdescribes, hblocks.described⟩

lemma hsic_blocks_stage (data : Bytes) : BootStage (hsicBlocks data) (blocksOf data) := by
  induction hn : data.length using Nat.strong_induction_on generalizing data with
  | h n ih =>
    subst hn
    rw [hsicBlocks]
    refine Stage.ite (fun h => ?_) fun h => ?_
    · obtain rfl := List.eq_nil_of_length_eq_zero h
      exact Stage.pure.mono fun w hw => hw.symm ▸ blocks_nil
    · have hdrop : (data.drop xmm626HsicModemDataChunk).length < data.length := by
        rw [List.length_drop, xmm626HsicModemDataChunk]
        omega
      exact ((hsic_command_sent _ (by decide)).seq fun _ => ih _ hdrop _ rfl).mono (blocks_cons h)

lemma modem_data_stage (data : Bytes) (address : ℕ) :
    BootStage (hsicModemData data address) (modemDataStage data address) := by
  have hstage : BootStage _ (modemDataStage data address) :=
    (hsic_command_acked (intBytes address) (by decide)).seq fun _ => hsic_blocks_stage data
  exact Stage.ite (fun _ => Stage.throw hstage.word) fun _ => hstage

lemma nv_data_stage (nvData : Option Bytes) :
    BootStage (xmm626HsicNvDataSend nvData) (modemDataStage (nvData.getD []) xmm626NvDataAddress) := by
  cases nvData with
  | none => exact Stage.throw (modem_data_stage [] xmm626NvDataAddress).word
  | some data => exact modem_data_stage data xmm626NvDataAddress

/-! ### The boot -/

lemma sends_mul (first second : Bytes) : sends first * sends second = sends (first ++ second) := by
  refine Set.ext fun w => ⟨?_, ?_⟩
  · rintro ⟨_, rfl, _, rfl, rfl⟩
    exact (List.map_append ..).symm
  · rintro rfl
    exact ⟨_, rfl, _, rfl, (List.map_append ..).symm⟩

lemma psi_stage (psiData : Bytes) (psiSize : UInt16) :
    BootStage (xmm626HsicPsiSend psiData psiSize) (psiStage (psiData.take psiSize.toNat)) := by
  unfold xmm626HsicPsiSend
  generalize psiData.take psiSize.toNat = psi
  have hstage := ((at_loop_stage 51).seq fun _ => hear_byte_stage.seq fun _ => hear_byte_stage.seq fun _ =>
    (write_whole_stage (xmm626HsicPsiHeader psi) (by simp [xmm626HsicPsiHeader, shortBytes])).seq fun _ =>
      (write_rest_stage psi.length psi).seq fun _ =>
        (write_whole_stage [xmm626CrcCalculate psi] (by simp)).seq fun _ =>
          (hear_bytes_stage xmm626HsicPsiUnknownCount).seq fun _ =>
            (hear_bytes_stage xmm626HsicPsiCrcAckCount).seq fun _ => ack_read_loop_stage xmm626HsicPsiAck 50).mono
    (M := psiStage psi) (by
      rw [psiStage, ← mul_assoc (hears 1), ← mul_assoc (sends psi), sends_mul, ← mul_assoc (sends _), sends_mul,
        ← mul_assoc (hears xmm626HsicPsiUnknownCount), List.append_assoc]
      gcongr
      · exact hears_mul 1 1
      · exact hears_mul _ _)
  exact Stage.ite (fun _ => Stage.throw hstage.word) fun _ => hstage

lemma ebl_stage (width : PointerWidth) (ebl : Bytes) :
    BootStage (xmm626HsicEblSend width ebl) (eblStage width ebl) := by
  have hsize : (numberBytes width.bytes ebl.length).length < 2 ^ 31 := by
    rw [number_bytes_length]
    cases width <;> decide
  have hstage := ((write_whole_stage _ hsize).seq fun _ => (ack_read_loop_stage xmm626HsicEblSizeAck 50).seq fun _ =>
    (write_rest_stage xmm626HsicEblChunk ebl).seq fun _ =>
      (write_whole_stage [xmm626CrcCalculate ebl] (by simp)).seq fun _ =>
        ack_read_loop_stage xmm626HsicEblAck 50).mono
    (M := eblStage width ebl) (by rw [eblStage, ← mul_assoc (sends ebl), sends_mul])
  exact Stage.ite (fun _ => Stage.throw hstage.word) fun _ => hstage

lemma port_config_stage : BootStage xmm626HsicPortConfigSend portConfigStage := by
  have hcommand (config : Bytes) :
      BootStage (hsicCommand xmm626CommandSetPortConfig xmm626HsicSetPortConfigSize true config)
        (hsicCommanded xmm626CommandSetPortConfig xmm626HsicSetPortConfigSize config) :=
    hsic_command_acked config (by decide)
  have hword : ∃ w, w ∈ portConfigStage := by
    obtain ⟨v, hv⟩ := (hcommand (List.replicate xmm626HsicPortConfigSize 0)).word
    exact ⟨_, _, List.length_replicate, v, hv, rfl⟩
  have hnil : [] ∈ started portConfigStage := nil_mem_begun hword
  refine ⟨Speaks.bind (wait_readable_speaks hnil) (le_refl _) fun _ u hu => ?_, hword⟩
  obtain rfl : u = [] := hu
  refine Speaks.bind (wait_readable_speaks hnil) (le_refl _) fun _ u hu => ?_
  obtain rfl : u = [] := hu
  refine Speaks.bind (read_speaks _) (le_refl _) fun config u hu => ?_
  obtain ⟨hle, rfl⟩ := hu
  refine Speaks.ite (fun _ => Speaks.throw (started_heard config hnil)) fun hlen => ?_
  refine (hcommand config).speaks.mono (fun _ v hv => ⟨config, by omega, v, hv, rfl⟩) fun v hv => ?_
  obtain ⟨w, hw, hp⟩ := hv
  exact started_heard config ⟨config.map .heard ++ w, ⟨config, by omega, w, hw, rfl⟩, by
    rwa [List.filter_append, filter_heard, List.nil_append]⟩

lemma control_all_stage (ok : Bool) (calls : List BootControl) : BootStage (controlAll ok calls) (controls calls) := by
  induction calls generalizing ok with
  | nil => exact Stage.ite (fun _ => Stage.pure.mono (le_refl _)) fun _ => Stage.throw ⟨[], rfl⟩
  | cons call calls ih =>
    refine ((control_stage call).seq fun rc => ih (ok && rc)).mono ?_
    rintro w ⟨_, rfl, _, rfl, rfl⟩
    exact rfl

/-- A boot that succeeds has gone through all stages in their order. One that fails has completed some of them, and of
the next one it has sent no more than the beginning. -/
lemma hsic_boot_speaks (model : HsicDevice) (width : PointerWidth) (image : Bytes) (nvData : Option Bytes) :
    BootSpeaks (model.boot width image nvData)
      (fun _ => (hsicStages model.cycle model.layout width image nvData).prod)
      (broken BootByte.out (hsicStages model.cycle model.layout width image nvData)) := by
  have hpsi := psi_stage (image.drop model.layout.psiOffset) (UInt16.ofNat model.layout.psiSize)
  rw [UInt16.toNat_ofNat_of_lt' model.layout.psi_size_lt] at hpsi
  refine (control_all_stage true _).chain fun _ => (control_all_stage true _).chain fun _ =>
    (control_all_stage true _).chain fun _ => hpsi.chain fun _ => (ebl_stage width _).chain fun _ =>
    port_config_stage.chain fun _ => (hsic_command_acked _ (by decide)).chain fun _ =>
    (modem_data_stage _ _).chain fun _ => (nv_data_stage nvData).chain fun _ =>
    (hsic_command_acked _ (by decide)).chain fun _ => (hsic_command_sent _ (by decide)).chain fun _ =>
    (control_stage _).chain fun _ => (control_all_stage true _).chain fun _ =>
    (control_all_stage true _).chain fun _ => (control_all_stage true _).chain fun _ =>
    (control_all_stage true _).last

/-! ### A modem that answers as it should -/

/-- Before any further answers there are some with which the program ends with this result. -/
def CompletesTo {α : Type} (m : BootM α) (a : α) : Prop :=
  ∀ device controls, ∃ device' controls', ∀ transcript, ∃ transcript',
    m ⟨device', controls', transcript⟩ = (.ok a, ⟨device, controls, transcript'⟩)

namespace CompletesTo

variable {α β : Type} {m : BootM α} {f : α → BootM β} {a : α} {b : β}

lemma pure (a : α) : CompletesTo (pure a : BootM α) a :=
  fun device controls => ⟨device, controls, fun transcript => ⟨transcript, rfl⟩⟩

lemma bind (hm : CompletesTo m a) (hf : CompletesTo (f a) b) : CompletesTo (m >>= f) b := by
  intro device controls
  obtain ⟨device₂, controls₂, hf⟩ := hf device controls
  obtain ⟨device₁, controls₁, hm⟩ := hm device₂ controls₂
  refine ⟨device₁, controls₁, fun transcript => ?_⟩
  obtain ⟨transcript₁, hm⟩ := hm transcript
  obtain ⟨transcript₂, hf⟩ := hf transcript₁
  refine ⟨transcript₂, ?_⟩
  have hbind : (m >>= f) ⟨device₁, controls₁, transcript⟩ =
      ExceptT.bindCont f (m ⟨device₁, controls₁, transcript⟩).1 (m ⟨device₁, controls₁, transcript⟩).2 := rfl
  rw [hbind, hm]
  exact hf

lemma write (data : Bytes) : CompletesTo (BootM.write data) data.length := by
  intro device controls
  refine ⟨{ device with writes := data.length :: device.writes }, controls, fun transcript => ?_⟩
  refine ⟨transcript ++ data.map .sent, ?_⟩
  simp [BootM.write, BootDevice.write]

lemma select : CompletesTo BootM.select 1 := fun device controls =>
  ⟨{ device with selects := 1 :: device.selects }, controls, fun transcript => ⟨transcript, rfl⟩⟩

lemma read {count : ℕ} (data : Bytes) (h : data.length ≤ count) : CompletesTo (BootM.read count) data := by
  intro device controls
  refine ⟨{ device with reads := data :: device.reads }, controls, fun transcript => ?_⟩
  refine ⟨transcript ++ data.map .heard, ?_⟩
  simp [BootM.read, BootDevice.read, List.take_of_length_le h]

lemma control (call : BootControl) : CompletesTo (BootM.control call) true := fun device controls =>
  ⟨device, true :: controls, fun transcript => ⟨transcript ++ [.control call], rfl⟩⟩

end CompletesTo

lemma write_whole_completes (data : Bytes) : CompletesTo (writeWhole data) () := by
  refine (CompletesTo.write data).bind ?_
  rw [if_neg (Int.not_lt.mpr (as_int_le _))]
  exact .pure ()

lemma wait_readable_completes : CompletesTo waitReadable () := CompletesTo.select.bind (.pure ())

lemma hear_bytes_completes (n : ℕ) : CompletesTo (hearBytes n) () := by
  induction n with
  | zero => exact .pure ()
  | succ n ih =>
    exact CompletesTo.bind (wait_readable_completes.bind ((CompletesTo.read [0] (by decide)).bind (.pure ()))) ih

lemma write_rest_completes {chunk : ℕ} (hchunk : 0 < chunk) (data : Bytes) : CompletesTo (writeRest chunk data) () := by
  induction hn : data.length using Nat.strong_induction_on generalizing data with
  | h n ih =>
    subst hn
    rw [writeRest]
    by_cases h : data.length = 0
    · rw [if_pos h]
      exact .pure ()
    · have hpos : 0 < ((data.take chunk).length : ℤ) := by
        rw [List.length_take]
        omega
      rw [if_neg h]
      refine (CompletesTo.write _).bind ?_
      rw [if_pos hpos]
      exact ih _ (by rw [List.length_drop]; omega) _ rfl

lemma ack_read_completes (ack : UInt16) : CompletesTo (xmm626HsicAckRead ack) () := by
  have hack : shortAt (shortBytes ack.toNat) 0 = ack.toNat := short_field [] [] (by simp) ack.toNat_lt
  have hlen : ¬(shortBytes ack.toNat).length < 2 := Nat.lt_irrefl 2
  refine wait_readable_completes.bind ((CompletesTo.read (shortBytes ack.toNat) (Nat.le_refl 2)).bind ?_)
  rw [if_neg hlen, if_pos hack]
  exact .pure ()

lemma hsic_ack_completes (code : UInt16) (commandDataSize : ℕ) : CompletesTo (hsicAck code commandDataSize) () := by
  have hcode : shortAt ([0, 0] ++ shortBytes code.toNat ++ intBytes 0) 2 = code.toNat :=
    short_field [0, 0] (intBytes 0) (by rw [List.append_assoc]) code.toNat_lt
  have hlen : ¬([0, 0] ++ shortBytes code.toNat ++ intBytes 0).length < xmm626HsicCommandHeaderSize := Nat.lt_irrefl 8
  refine wait_readable_completes.bind
    ((CompletesTo.read ([0, 0] ++ shortBytes code.toNat ++ intBytes 0) (Nat.le_refl 8)).bind ?_)
  rw [if_neg hlen]
  refine wait_readable_completes.bind
    ((CompletesTo.read (List.replicate commandDataSize 0) (Nat.le_of_eq List.length_replicate)).bind ?_)
  rw [List.length_replicate, if_neg (Int.not_lt.mpr (as_int_le _)), if_pos hcode]
  exact .pure ()

lemma hsic_command_completes {commandDataSize : ℕ} (ack : Bool) (hne : data.length ≠ 0)
    (hle : data.length ≤ commandDataSize) : CompletesTo (hsicCommand code commandDataSize ack data) () := by
  rw [hsicCommand, if_neg (by omega), hsic_frame_copied hle]
  refine (write_whole_completes _).bind ?_
  cases ack with
  | false => exact .pure ()
  | true => exact hsic_ack_completes code commandDataSize

lemma hsic_blocks_completes (data : Bytes) : CompletesTo (hsicBlocks data) () := by
  induction hn : data.length using Nat.strong_induction_on generalizing data with
  | h n ih =>
    subst hn
    have hchunk : xmm626HsicModemDataChunk = 0x4000 := rfl
    have hsize : xmm626HsicFlashWriteBlockSize = 0x4000 := rfl
    rw [hsicBlocks]
    by_cases h : data.length = 0
    · rw [if_pos h]
      exact .pure ()
    · rw [if_neg h]
      refine (hsic_command_completes false ?_ ?_).bind (ih _ ?_ _ rfl)
      · rw [List.length_take]
        omega
      · rw [List.length_take]
        omega
      · rw [List.length_drop]
        omega

lemma modem_data_completes (address : ℕ) (h : data.length ≠ 0) : CompletesTo (hsicModemData data address) () := by
  rw [hsicModemData, if_neg h]
  have hlen : (intBytes address).length = 4 := rfl
  exact (hsic_command_completes true (by omega) (by rw [hlen]; decide)).bind (hsic_blocks_completes data)

lemma control_all_completes (calls : List BootControl) : CompletesTo (controlAll true calls) () := by
  induction calls with
  | nil => exact .pure ()
  | cons call calls ih => exact (CompletesTo.control call).bind ih

lemma psi_completes {psiData : Bytes} {psiSize : UInt16} (h : (psiData.take psiSize.toNat).length ≠ 0) :
    CompletesTo (xmm626HsicPsiSend psiData psiSize) () := by
  have hbyte : CompletesTo hearByte () :=
    wait_readable_completes.bind ((CompletesTo.read [0] (by decide)).bind (.pure ()))
  have hat : CompletesTo (atLoop 51) () := (write_whole_completes xmm626At).bind (CompletesTo.select.bind (.pure ()))
  unfold xmm626HsicPsiSend
  generalize psiData.take psiSize.toNat = psi at h
  dsimp only
  rw [if_neg h]
  exact hat.bind <| hbyte.bind <| hbyte.bind <| (write_whole_completes _).bind <|
    (write_rest_completes (Nat.pos_of_ne_zero h) psi).bind <| (write_whole_completes _).bind <|
    (hear_bytes_completes _).bind <| (hear_bytes_completes _).bind (ack_read_completes _)

lemma ebl_completes {width : PointerWidth} {ebl : Bytes} (h : ebl.length ≠ 0) :
    CompletesTo (xmm626HsicEblSend width ebl) () := by
  rw [xmm626HsicEblSend, if_neg h]
  exact (write_whole_completes _).bind <| (ack_read_completes _).bind <| (write_rest_completes (by decide) ebl).bind <|
    (write_whole_completes _).bind (ack_read_completes _)

lemma port_config_completes : CompletesTo xmm626HsicPortConfigSend () := by
  have hlen : (List.replicate xmm626HsicPortConfigSize (0 : UInt8)).length = xmm626HsicPortConfigSize :=
    List.length_replicate
  refine wait_readable_completes.bind <| wait_readable_completes.bind <|
    (CompletesTo.read _ (Nat.le_of_eq hlen)).bind ?_
  rw [if_neg (by omega)]
  exact hsic_command_completes true (by rw [hlen]; decide) (by rw [hlen]; decide)

/-- What is mapped of the device of the modem image -/
def ModemImage := {image : Bytes // image.length = 0x1000000}

/-- The parts of an image are there, and the security data fits in its command. -/
lemma image_parts (model : HsicDevice) (image : ModemImage) : (model.layout.psi image.val).length ≠ 0 ∧
    (model.layout.ebl image.val).length ≠ 0 ∧ (model.layout.secStart image.val).length ≠ 0 ∧
    (model.layout.secStart image.val).length ≤ xmm626HsicSecStartSize ∧
    (model.layout.firmware image.val).length ≠ 0 := by
  have himage := image.property
  simp only [BootLayout.psi, BootLayout.ebl, BootLayout.secStart, BootLayout.firmware, List.length_take,
    List.length_drop, himage]
  cases model <;> decide

/-- For every image and every nv_data there is a modem that is booted. -/
lemma hsic_boot_completes (model : HsicDevice) (width : PointerWidth) (image : ModemImage) (b : UInt8) (rest : Bytes) :
    CompletesTo (model.boot width image.val (some (b :: rest))) () := by
  obtain ⟨hpsi, hebl, hsec, hsec', hfirmware⟩ := image_parts model image
  rw [BootLayout.psi, ← UInt16.toNat_ofNat_of_lt' model.layout.psi_size_lt] at hpsi
  have hnv : (b :: rest).length ≠ 0 := Nat.succ_ne_zero _
  have hend : (shortBytes xmm626SecEndMagic).length ≠ 0 := by decide
  have hreset : (intBytes xmm626HwResetMagic).length ≠ 0 := by decide
  exact (control_all_completes _).bind <| (control_all_completes _).bind <| (control_all_completes _).bind <|
    (psi_completes hpsi).bind <| (ebl_completes hebl).bind <| port_config_completes.bind <|
    (hsic_command_completes true hsec hsec').bind <| (modem_data_completes _ hfirmware).bind <|
    (modem_data_completes _ hnv).bind <| (hsic_command_completes true hend (by decide)).bind <|
    (hsic_command_completes false hreset (by decide)).bind <| (CompletesTo.control _).bind <|
    (control_all_completes _).bind <| (control_all_completes _).bind <| (control_all_completes _).bind <|
    control_all_completes _

/-- Whatever the modem answers, a boot that succeeds has gone through all stages in their order, and one that fails has
completed some of them and has sent no more than the beginning of the next one; and some modem is booted. -/
theorem modem_booted_in_stages (model : HsicDevice) (width : PointerWidth) (image : ModemImage)
    (nvData : Option Bytes) :
    BootSpeaks (model.boot width image.val nvData)
        (fun _ => (hsicStages model.cycle model.layout width image.val nvData).prod)
        (broken BootByte.out (hsicStages model.cycle model.layout width image.val nvData)) ∧
      ∀ b rest, CompletesTo (model.boot width image.val (some (b :: rest))) () :=
  ⟨hsic_boot_speaks model width image.val nvData, hsic_boot_completes model width image⟩

end Ril.Ipc
