import Ril.Ipc.Xmm626Boot

/-! The upload of the firmware and of the nv_data to the XMM626 modem. -/

namespace Ril.Ipc

open Lib

/-- The address is sent first, and then the data in blocks. -/
def modemDataSend (chunk : ℕ) (sendAddress sendBlock : Bytes → BootDevice → CommandRun × BootDevice) (data : Bytes)
    (address : UInt32) (device : BootDevice) : Upload CommandRun BootDevice :=
  if data.length = 0 then ⟨[], false, device⟩
  else
    let first := sendAddress (intBytes address.toNat) device
    if !first.1.ok then ⟨[first.1], false, first.2⟩
    else
      let upload := uploadLoop sendBlock CommandRun.ok chunk data data.length 0 first.2
      { upload with sent := first.1 :: upload.sent }

def xmm626HsicModemDataSend : Bytes → UInt32 → BootDevice → Upload CommandRun BootDevice :=
  modemDataSend xmm626HsicModemDataChunk
    (xmm626HsicCommandSend xmm626CommandFlashSetAddress xmm626HsicFlashSetAddressSize true)
    (xmm626HsicCommandSend xmm626CommandFlashWriteBlock xmm626HsicFlashWriteBlockSize false)

/-- The command with what it leaves of the device -/
def mipiCommand (bytes : ℕ) (code : UInt16) (ack shortFooter : Bool) (data : Bytes) (device : BootDevice) :
    CommandRun × BootDevice :=
  let sent := xmm626MipiCommandSend bytes code ack shortFooter data device
  (sent.1, sent.2.device)

def xmm626MipiModemDataSend (bytes : ℕ) : Bytes → UInt32 → BootDevice → Upload CommandRun BootDevice :=
  modemDataSend xmm626MipiModemDataChunk (mipiCommand bytes xmm626CommandFlashSetAddress true false)
    (mipiCommand bytes xmm626CommandFlashWriteBlock true true)

/-- MIPI has the size of a `size_t`, which it reads from the device. -/
inductive BootTransport
  | hsic | mipi (bytes : ℕ)
deriving DecidableEq, Repr

namespace BootTransport

def modemDataSend : BootTransport → Bytes → UInt32 → BootDevice → Upload CommandRun BootDevice
  | hsic => xmm626HsicModemDataSend
  | mipi bytes => xmm626MipiModemDataSend bytes

def format : BootTransport → CommandFormat
  | hsic => xmm626HsicFormat
  | mipi _ => xmm626MipiFormat

def chunk : BootTransport → ℕ
  | hsic => xmm626HsicModemDataChunk
  | mipi _ => xmm626MipiModemDataChunk

end BootTransport

/-- A command that succeeds has sent a frame that describes its payload, as far as the payload has the length of one. -/
def Faithful (format : CommandFormat) (limit : ℕ) (code : UInt16)
    (send : Bytes → BootDevice → CommandRun × BootDevice) : Prop :=
  ∀ payload device, payload.length ≤ limit → (send payload device).1.ok = true →
    ∃ frame, (send payload device).1.frame = some frame ∧ format.Describes code payload frame

variable {format : CommandFormat} {limit chunk : ℕ} {code : UInt16} {data : Bytes} {address : UInt32}
  {device : BootDevice} {sendAddress sendBlock : Bytes → BootDevice → CommandRun × BootDevice}

lemma hsic_command_frame {commandDataSize : ℕ} {ack : Bool} {payload : Bytes}
    (hok : (xmm626HsicCommandSend code commandDataSize ack payload device).1.ok = true) :
    ∃ rest, (xmm626HsicCommandSend code commandDataSize ack payload device).1.frame =
      some (xmm626HsicCommandHeader code payload ++ payload ++ rest) := by
  rw [xmm626HsicCommandSend, copy_all_block] at hok ⊢
  split at hok
  · cases hok
  · rename_i hsizes
    rw [if_neg hsizes]
    by_cases hfit : [xmm626HsicCommandHeader code payload, payload].flatten.length ≤
        (List.replicate (commandDataSize + xmm626HsicCommandHeaderSize) (0 : UInt8)).length
    · rw [if_pos hfit]
      simp only [List.flatten_cons, List.flatten_nil, List.append_nil]
      generalize List.drop _ (List.replicate _ (0 : UInt8)) = rest
      refine ⟨rest, ?_⟩
      split
      · rfl
      · split <;> rfl
    · rw [if_neg hfit] at hok
      cases hok

lemma hsic_faithful (code : UInt16) (commandDataSize : ℕ) (ack : Bool) (h : limit < 2 ^ 31) :
    Faithful xmm626HsicFormat limit code (xmm626HsicCommandSend code commandDataSize ack) := by
  intro payload device hl hok
  obtain ⟨rest, hframe⟩ := hsic_command_frame hok
  exact ⟨_, hframe, hsic_describes (Nat.lt_of_le_of_lt hl h) rest⟩

lemma mipi_command_frame {ack : Bool} {shortFooter : Bool} {payload : Bytes} {bytes : ℕ} (device : BootDevice)
    (hok : (xmm626MipiCommandSend bytes code ack shortFooter payload device).1.ok = true) :
    ∃ frame, (xmm626MipiCommandSend bytes code ack shortFooter payload device).1.frame = some frame ∧
      xmm626MipiCommandFrame bytes code payload shortFooter = some frame := by
  rw [xmm626MipiCommandSend] at hok ⊢
  split at hok
  · cases hok
  · rename_i hempty
    rw [if_neg hempty]
    cases hbuilt : xmm626MipiCommandFrame bytes code payload shortFooter with
    | none =>
      rw [hbuilt] at hok
      cases hok
    | some frame =>
      refine ⟨frame, ?_, rfl⟩
      simp only
      split
      · rfl
      · split <;> rfl

lemma mipi_faithful (bytes : ℕ) (code : UInt16) (ack shortFooter : Bool) (h : limit < 2 ^ 16) :
    Faithful xmm626MipiFormat limit code (mipiCommand bytes code ack shortFooter) := by
  intro payload device hl hok
  obtain ⟨frame, hframe, hbuilt⟩ := mipi_command_frame device hok
  exact ⟨frame, hframe, (mipi_frame_describes hbuilt (Nat.lt_of_le_of_lt hl h)).1⟩

/-! ### What was uploaded -/

/-- The payloads of the blocks are the data, in pieces that are not empty and not larger than a chunk. -/
structure BlocksOf (format : CommandFormat) (chunk : ℕ) (data : Bytes) (blocks : List Bytes) : Prop where
  whole : (blocks.map format.payload).flatten = data
  not_empty : ∀ block ∈ blocks, format.payload block ≠ []
  chunk_le : ∀ block ∈ blocks, (format.payload block).length ≤ chunk
  described : ∀ block ∈ blocks, format.Describes xmm626CommandFlashWriteBlock (format.payload block) block

/-- Pieces that were all accepted were sent in frames whose payloads they are. -/
lemma accepted_frames (hblock : Faithful format chunk code sendBlock) {pieces : List Bytes} {sent : List CommandRun}
    (h : List.Forall₂ (fun piece e => ∃ s, e = (sendBlock piece s).1 ∧ e.ok = true) pieces sent)
    (hle : ∀ piece ∈ pieces, piece.length ≤ chunk) :
    ∃ blocks : List Bytes, sent.map CommandRun.frame = blocks.map some ∧ blocks.map format.payload = pieces ∧
      ∀ block ∈ blocks, format.Describes code (format.payload block) block := by
  induction h with
  | nil => exact ⟨[], rfl, rfl, fun _ h => absurd h List.not_mem_nil⟩
  | @cons piece e pieces sent hsent _ ih =>
    obtain ⟨hpiece, hle⟩ := List.forall_mem_cons.mp hle
    obtain ⟨blocks, hframes, hpayloads, hdescribed⟩ := ih hle
    obtain ⟨s, rfl, hok⟩ := hsent
    obtain ⟨frame, hframe, hdescribes⟩ := hblock piece s hpiece hok
    have hpayload : format.payload frame = piece := hdescribes.payload_eq
    refine ⟨frame :: blocks, ?_, ?_, List.forall_mem_cons.mpr ⟨hpayload.symm ▸ hdescribes, hdescribed⟩⟩
    · rw [List.map_cons, List.map_cons, hframe, hframes]
    · rw [List.map_cons, hpayload, hpayloads]

lemma modem_data_send_blocks (hchunk : 0 < chunk)
    (haddress : Faithful format 4 xmm626CommandFlashSetAddress sendAddress)
    (hblock : Faithful format chunk xmm626CommandFlashWriteBlock sendBlock)
    (h : (modemDataSend chunk sendAddress sendBlock data address device).complete = true) :
    ∃ (frame : Bytes) (blocks : List Bytes),
      (modemDataSend chunk sendAddress sendBlock data address device).sent.map CommandRun.frame =
        (frame :: blocks).map some ∧
      format.Describes xmm626CommandFlashSetAddress (intBytes address.toNat) frame ∧
      BlocksOf format chunk data blocks := by
  rw [modemDataSend] at h ⊢
  split at h
  · cases h
  · rename_i hdata
    rw [if_neg hdata]
    cases hok : (sendAddress (intBytes address.toNat) device).1.ok with
    | false =>
      simp only [hok, Bool.not_false, if_true] at h
      cases h
    | true =>
      simp only [hok, Bool.not_true, Bool.false_eq_true, if_false] at h ⊢
      obtain ⟨frame, hframe, hdescribes⟩ := haddress (intBytes address.toNat) device (Nat.le_refl 4) hok
      obtain ⟨pieces, hsent, hpieces, hwhole⟩ := upload_loop_pieces sendBlock CommandRun.ok
        (sendAddress (intBytes address.toNat) device).2 hchunk (Nat.zero_le data.length) (Nat.sub_le _ _)
      obtain ⟨blocks, hframes, hpayloads, hdescribed⟩ := accepted_frames hblock (hsent.complete_all h)
        fun piece hmem => (hpieces piece hmem).2
      have hmem : ∀ block ∈ blocks, format.payload block ∈ pieces := fun block hb =>
        hpayloads ▸ List.mem_map_of_mem hb
      refine ⟨frame, blocks, ?_, hdescribes, ?_, fun block hb => (hpieces _ (hmem block hb)).1,
        fun block hb => (hpieces _ (hmem block hb)).2, hdescribed⟩
      · rw [List.map_cons, List.map_cons, hframe, hframes]
      · rw [hpayloads]
        exact hwhole h

/-- A command that fails is the last one. -/
lemma modem_data_send_refused (hchunk : 0 < chunk) {before after : List CommandRun} {command : CommandRun}
    (hsent : (modemDataSend chunk sendAddress sendBlock data address device).sent = before ++ command :: after)
    (hfailed : command.ok = false) :
    after = [] ∧ (modemDataSend chunk sendAddress sendBlock data address device).complete = false := by
  rw [modemDataSend] at hsent ⊢
  split at hsent
  · exact absurd hsent (by simp)
  · rename_i hdata
    rw [if_neg hdata]
    cases hok : (sendAddress (intBytes address.toNat) device).1.ok with
    | false =>
      simp only [hok, Bool.not_false, if_true] at hsent ⊢
      cases before with
      | nil => exact ⟨(List.cons.inj hsent).2.symm, trivial⟩
      | cons b before => exact absurd (List.cons.inj hsent).2 (by simp)
    | true =>
      simp only [hok, Bool.not_true, Bool.false_eq_true, if_false] at hsent ⊢
      obtain ⟨pieces, hpieces, -⟩ := upload_loop_pieces sendBlock CommandRun.ok
        (sendAddress (intBytes address.toNat) device).2 hchunk (Nat.zero_le data.length) (Nat.sub_le _ _)
      cases before with
      | nil =>
        rw [← (List.cons.inj hsent).1, hok] at hfailed
        cases hfailed
      | cons b before => exact hpieces.refused_last (List.cons.inj hsent).2 hfailed

namespace BootTransport

lemma chunk_pos (transport : BootTransport) : 0 < transport.chunk := by
  cases transport with
  | hsic => exact Nat.zero_lt_succ _
  | mipi _ => exact Nat.zero_lt_succ _

end BootTransport

/-- An upload that succeeds has sent the address and then the whole data, and every upload ends at the first command
that fails. -/
theorem modem_data_uploaded (transport : BootTransport) (data : Bytes) (address : UInt32) (device : BootDevice) :
    ((transport.modemDataSend data address device).complete = true →
      ∃ (frame : Bytes) (blocks : List Bytes), (transport.modemDataSend data address device).sent.map CommandRun.frame =
          (frame :: blocks).map some ∧
        transport.format.Describes xmm626CommandFlashSetAddress (intBytes address.toNat) frame ∧
        BlocksOf transport.format transport.chunk data blocks) ∧
    ∀ before command after, (transport.modemDataSend data address device).sent = before ++ command :: after →
      command.ok = false → after = [] ∧ (transport.modemDataSend data address device).complete = false := by
  have hchunk := transport.chunk_pos
  cases transport with
  | hsic =>
    refine ⟨modem_data_send_blocks hchunk (hsic_faithful _ _ _ (by decide)) (hsic_faithful _ _ _ (by decide)), ?_⟩
    intro before command after
    exact modem_data_send_refused hchunk
  | mipi bytes =>
    refine ⟨modem_data_send_blocks hchunk (mipi_faithful _ _ _ _ (by decide)) (mipi_faithful _ _ _ _ (by decide)), ?_⟩
    intro before command after
    exact modem_data_send_refused hchunk

end Ril.Ipc
