import Mathlib.Algebra.BigOperators.Group.List.Basic
import Ril.Ipc.Files
import Ril.Ipc.Xmm626
import Ril.Lib.Buffer
import Ril.Lib.CNumber
import Ril.Lib.ChunkedUpload

/-! The commands that boot the XMM626 modem, over HSIC and over MIPI. -/

namespace Ril.Ipc

open Lib

def xmm626CommandFlashSetAddress : UInt16 := 0x802
def xmm626CommandFlashWriteBlock : UInt16 := 0x804

/-- What the next calls return, and what the next reads deliver. A read that fails delivers nothing. -/
structure BootDevice where
  writes : List ℤ
  selects : List ℤ
  reads : List Bytes
deriving DecidableEq, Repr

namespace BootDevice

def write (device : BootDevice) : ℤ × BootDevice :=
  (device.writes.headD (-1), { device with writes := device.writes.tail })

def select (device : BootDevice) : ℤ × BootDevice :=
  (device.selects.headD (-1), { device with selects := device.selects.tail })

def read (count : ℕ) (device : BootDevice) : Bytes × BootDevice :=
  ((device.reads.headD []).take count, { device with reads := device.reads.tail })

end BootDevice

/-- The sum that both kinds of command carry; the loop's bound is an `int`. -/
def xmm626Checksum (code : UInt16) (data : Bytes) : UInt16 :=
  (data.take (asInt data.length).toNat).foldl (fun checksum b => checksum + b.toUInt16)
    (UInt16.ofNat (data.length % 2 ^ 16) + code)

/-! ### HSIC -/

def xmm626HsicCommandHeaderSize : ℕ := 8
def xmm626HsicFlashSetAddressSize : ℕ := 0x4000
def xmm626HsicFlashWriteBlockSize : ℕ := 0x4000
def xmm626HsicModemDataChunk : ℕ := 0x4000

def xmm626HsicCommandHeader (code : UInt16) (data : Bytes) : Bytes :=
  shortBytes (xmm626Checksum code data).toNat ++ shortBytes code.toNat ++ intBytes data.length

/-- What a command hands to `write`, unless it gives up before, and whether it succeeds -/
structure CommandRun where
  frame : Option Bytes
  ok : Bool
deriving DecidableEq, Repr

/-- The header of the acknowledgement and its data are read by two calls. -/
def xmm626HsicAck (code : UInt16) (commandDataSize : ℕ) (device : BootDevice) : Bool × BootDevice :=
  let selected := device.select
  if selected.1 ≤ 0 then (false, selected.2)
  else
    let header := selected.2.read xmm626HsicCommandHeaderSize
    if header.1.length < xmm626HsicCommandHeaderSize then (false, header.2)
    else
      let selected := header.2.select
      if selected.1 ≤ 0 then (false, selected.2)
      else
        let buffer := selected.2.read commandDataSize
        if (buffer.1.length : ℤ) < asInt commandDataSize then (false, buffer.2)
        else (decide (shortAt header.1 2 = code.toNat), buffer.2)

def xmm626HsicCommandSend (code : UInt16) (commandDataSize : ℕ) (ack : Bool) (data : Bytes) (device : BootDevice) :
    CommandRun × BootDevice :=
  if data.length = 0 ∨ commandDataSize = 0 ∨ commandDataSize < data.length then (⟨none, false⟩, device)
  else
    match copyAll (List.replicate (commandDataSize + xmm626HsicCommandHeaderSize) 0) 0
        [xmm626HsicCommandHeader code data, data] with
    | none => (⟨none, false⟩, device)
    | some frame =>
      let written := device.write
      if written.1 < asInt frame.length then (⟨some frame, false⟩, written.2)
      else if !ack then (⟨some frame, true⟩, written.2)
      else
        let acked := xmm626HsicAck code commandDataSize written.2
        (⟨some frame, acked.1⟩, acked.2)

/-! ### MIPI -/

def xmm626MipiCommandHeaderSize : ℕ := 10
def xmm626MipiCommandHeaderMagic : ℕ := 0x02
def xmm626MipiCommandFooterMagic : ℕ := 0x03
def xmm626MipiCommandFooterUnknown : ℕ := 0xEAEA
def xmm626MipiModemDataChunk : ℕ := 0xDF2

def xmm626MipiCommandHeader (code : UInt16) (data : Bytes) : Bytes :=
  intBytes (data.length + xmm626MipiCommandHeaderSize) ++ shortBytes xmm626MipiCommandHeaderMagic ++
    shortBytes code.toNat ++ shortBytes data.length

def xmm626MipiCommandFooter (code : UInt16) (data : Bytes) : Bytes :=
  shortBytes (xmm626Checksum code data).toNat ++ shortBytes xmm626MipiCommandFooterMagic ++
    shortBytes xmm626MipiCommandFooterUnknown

def mipiFooterLength (shortFooter : Bool) : ℕ := if shortFooter then 4 else 6

/-- The frame in a block whose length is a `size_t` of so many bytes; `none` where the block is too small -/
def xmm626MipiCommandFrame (bytes : ℕ) (code : UInt16) (data : Bytes) (shortFooter : Bool) : Option Bytes :=
  copyAll (List.replicate
      ((xmm626MipiCommandHeaderSize + data.length + mipiFooterLength shortFooter) % 2 ^ (8 * bytes)) 0) 0
    [xmm626MipiCommandHeader code data, data,
      (xmm626MipiCommandFooter code data).take (mipiFooterLength shortFooter)]

/-- The length of the acknowledgement and of its own field, made larger by its rest on division by 4 -/
def mipiAckLength (bytes length : ℕ) : ℕ :=
  let length := (length + 4) % 2 ^ (8 * bytes)
  if length % 4 ≠ 0 then (length + length % 4) % 2 ^ (8 * bytes) else length

/-- Where the loop that reads the acknowledgement stands. The chunks are the positions at which 4 bytes were asked for;
what is written behind the end of the block is kept here as well. -/
structure MipiAck where
  c : ℕ
  p : ℕ
  buffer : Bytes
  chunks : List ℕ
  device : BootDevice
deriving DecidableEq, Repr

/-- `while (c < length)`, for so many rounds at most: each one takes a read, and without one it fails. -/
def mipiAckLoop (bytes length : ℕ) : ℕ → MipiAck → Bool × MipiAck
  | 0, s => (false, s)
  | rounds + 1, s =>
    if s.c < length then
      let selected := s.device.select
      if selected.1 ≤ 0 then (false, { s with device := selected.2 })
      else
        let data := selected.2.read 4
        let s := { s with buffer := overwrite s.buffer s.p data.1, chunks := s.chunks ++ [s.p], device := data.2 }
        if data.1.length < 4 then (false, s)
        else mipiAckLoop bytes length rounds { s with p := s.p + 4, c := (s.c + 4) % 2 ^ (8 * bytes) }
    else (true, s)

/-- The reads of an acknowledgement: the length that was announced, the block that was allocated, the loop and whether
it has read all -/
structure MipiAckRun where
  announced : Option ℕ
  allocated : Option ℕ
  buffer : Bytes
  chunks : List ℕ
  complete : Bool
  ok : Bool
  device : BootDevice
deriving DecidableEq, Repr

def xmm626MipiAck (bytes : ℕ) (code : UInt16) (device : BootDevice) : MipiAckRun :=
  let selected := device.select
  if selected.1 ≤ 0 then ⟨none, none, [], [], false, false, selected.2⟩
  else
    let length := selected.2.read bytes
    if length.1.length < bytes ∨ numberOfBytes length.1 = 0 then ⟨none, none, [], [], false, false, length.2⟩
    else
      let announced := numberOfBytes length.1
      let allocated := mipiAckLength bytes announced
      if allocated < bytes then ⟨some announced, none, [], [], false, false, length.2⟩
      else
        let read := mipiAckLoop bytes allocated (length.2.reads.length + 1)
          ⟨bytes, bytes, numberBytes bytes allocated ++ List.replicate (allocated - bytes) 0, [], length.2⟩
        ⟨some announced, some allocated, read.2.buffer, read.2.chunks, read.1,
          read.1 && decide (shortAt read.2.buffer 6 = code.toNat), read.2.device⟩

def xmm626MipiCommandSend (bytes : ℕ) (code : UInt16) (ack shortFooter : Bool) (data : Bytes) (device : BootDevice) :
    CommandRun × MipiAckRun :=
  if data.length = 0 then (⟨none, false⟩, ⟨none, none, [], [], false, false, device⟩)
  else
    match xmm626MipiCommandFrame bytes code data shortFooter with
    | none => (⟨none, false⟩, ⟨none, none, [], [], false, false, device⟩)
    | some frame =>
      let written := device.write
      if written.1 < asInt frame.length then (⟨some frame, false⟩, ⟨none, none, [], [], false, false, written.2⟩)
      else if !ack then (⟨some frame, true⟩, ⟨none, none, [], [], false, false, written.2⟩)
      else
        let acked := xmm626MipiAck bytes code written.2
        (⟨some frame, acked.ok⟩, acked)

end Ril.Ipc

/-! What the frame of a boot command says about its payload. -/

namespace Ril.Ipc

open Lib

/-- Where the fields of a command's frame stand -/
structure CommandFormat where
  code : Bytes → ℕ
  dataSize : Bytes → ℕ
  checksum : Bytes → ℕ
  payloadAt : ℕ

def xmm626HsicFormat : CommandFormat :=
  ⟨fun frame => shortAt frame 2, fun frame => intAt frame 4, fun frame => shortAt frame 0, xmm626HsicCommandHeaderSize⟩

/-- The checksum follows the payload. -/
def xmm626MipiFormat : CommandFormat :=
  ⟨fun frame => shortAt frame 6, fun frame => shortAt frame 8,
    fun frame => shortAt frame (xmm626MipiCommandHeaderSize + shortAt frame 8), xmm626MipiCommandHeaderSize⟩

def CommandFormat.payload (format : CommandFormat) (frame : Bytes) : Bytes :=
  (frame.drop format.payloadAt).take (format.dataSize frame)

/-- The sum of the size, the code and the bytes, cut to 16 bits -/
def payloadChecksum (code : UInt16) (payload : Bytes) : ℕ :=
  (payload.length + code.toNat + (payload.map UInt8.toNat).sum) % 2 ^ 16

structure CommandFormat.Describes (format : CommandFormat) (code : UInt16) (payload frame : Bytes) : Prop where
  code_eq : format.code frame = code.toNat
  size_eq : format.dataSize frame = payload.length
  payload_eq : format.payload frame = payload
  checksum_eq : format.checksum frame = payloadChecksum code payload

variable {code : UInt16} {data frame : Bytes} {bytes n : ℕ} {shortFooter : Bool}

lemma checksum_fold (data : Bytes) (start : UInt16) :
    (data.foldl (fun checksum b => checksum + b.toUInt16) start).toNat =
      (start.toNat + (data.map UInt8.toNat).sum) % 2 ^ 16 := by
  induction data generalizing start with
  | nil => simp [Nat.mod_eq_of_lt start.toNat_lt]
  | cons b data ih =>
    rw [List.foldl_cons, ih, UInt16.toNat_add, UInt8.toNat_toUInt16, List.map_cons, List.sum_cons]
    omega

lemma command_checksum (code : UInt16) (h : data.length < 2 ^ 31) :
    (xmm626Checksum code data).toNat = payloadChecksum code data := by
  rw [xmm626Checksum, as_int_toNat h, List.take_length, checksum_fold, UInt16.toNat_add, UInt16.toNat_ofNat',
    payloadChecksum]
  omega

lemma short_at_append (a b : Bytes) (i : ℕ) : shortAt (a ++ b) (a.length + i) = shortAt b i := by
  simp [shortAt, byteAt, List.getElem?_append_right, Nat.add_assoc]

lemma int_at_append (a b : Bytes) (i : ℕ) : intAt (a ++ b) (a.length + i) = intAt b i := by
  rw [intAt, intAt, short_at_append, Nat.add_assoc, short_at_append]

lemma short_field (before rest : Bytes) (hframe : frame = before ++ (shortBytes n ++ rest)) (h : n < 2 ^ 16) :
    shortAt frame before.length = n := by
  rw [hframe]
  refine (short_at_append before _ 0).trans ?_
  rw [short_at_short_bytes]
  exact Nat.mod_eq_of_lt h

lemma int_field (before rest : Bytes) (hframe : frame = before ++ (intBytes n ++ rest)) (h : n < 2 ^ 32) :
    intAt frame before.length = n := by
  rw [hframe]
  refine (int_at_append before _ 0).trans ?_
  rw [int_at_int_bytes]
  exact Nat.mod_eq_of_lt h

lemma payload_behind_header {format : CommandFormat} (header rest : Bytes) (hframe : frame = header ++ data ++ rest)
    (hheader : header.length = format.payloadAt) (hsize : format.dataSize frame = data.length) :
    format.payload frame = data := by
  rw [CommandFormat.payload, hsize, hframe, List.append_assoc, ← hheader, List.drop_left, List.take_left]

/-! ### HSIC -/

lemma hsic_header_length (code : UInt16) (data : Bytes) :
    (xmm626HsicCommandHeader code data).length = xmm626HsicCommandHeaderSize := rfl

lemma hsic_describes (h : data.length < 2 ^ 31) (rest : Bytes) :
    xmm626HsicFormat.Describes code data (xmm626HsicCommandHeader code data ++ data ++ rest) := by
  have hchecksum : shortAt (xmm626HsicCommandHeader code data ++ data ++ rest) 0 =
      (xmm626Checksum code data).toNat := by
    refine short_field [] (shortBytes code.toNat ++ (intBytes data.length ++ (data ++ rest))) ?_
      (xmm626Checksum code data).toNat_lt
    simp only [xmm626HsicCommandHeader, List.append_assoc, List.nil_append]
  have hcode : shortAt (xmm626HsicCommandHeader code data ++ data ++ rest) 2 = code.toNat := by
    refine short_field (shortBytes (xmm626Checksum code data).toNat) (intBytes data.length ++ (data ++ rest)) ?_
      code.toNat_lt
    simp only [xmm626HsicCommandHeader, List.append_assoc]
  have hsize : intAt (xmm626HsicCommandHeader code data ++ data ++ rest) 4 = data.length := by
    refine int_field (shortBytes (xmm626Checksum code data).toNat ++ shortBytes code.toNat) (data ++ rest) ?_ (by omega)
    simp only [xmm626HsicCommandHeader, List.append_assoc]
  refine ⟨hcode, hsize, ?_, hchecksum.trans (command_checksum code h)⟩
  exact payload_behind_header (xmm626HsicCommandHeader code data) rest rfl (hsic_header_length code data) hsize

/-! ### MIPI -/

lemma mipi_header_length (code : UInt16) (data : Bytes) :
    (xmm626MipiCommandHeader code data).length = xmm626MipiCommandHeaderSize := rfl

lemma mipi_footer_length (code : UInt16) (data : Bytes) (shortFooter : Bool) :
    ((xmm626MipiCommandFooter code data).take (mipiFooterLength shortFooter)).length = mipiFooterLength shortFooter := by
  cases shortFooter with
  | false => rfl
  | true => rfl

/-- A frame that is built at all is the header, the payload and the footer. -/
lemma mipi_frame_some (h : xmm626MipiCommandFrame bytes code data shortFooter = some frame) :
    frame = xmm626MipiCommandHeader code data ++ data ++
      (xmm626MipiCommandFooter code data).take (mipiFooterLength shortFooter) := by
  rw [xmm626MipiCommandFrame, copy_all_block] at h
  split at h
  · rename_i hle
    have hlen : [xmm626MipiCommandHeader code data, data,
        (xmm626MipiCommandFooter code data).take (mipiFooterLength shortFooter)].flatten.length =
        xmm626MipiCommandHeaderSize + data.length + mipiFooterLength shortFooter := by
      simp only [List.flatten_cons, List.flatten_nil, List.append_nil, List.length_append, mipi_header_length,
        mipi_footer_length]
      omega
    rw [hlen, List.length_replicate] at hle
    have hmod := Nat.mod_le (xmm626MipiCommandHeaderSize + data.length + mipiFooterLength shortFooter) (2 ^ (8 * bytes))
    obtain rfl := Option.some.inj h
    rw [hlen, List.drop_eq_nil_of_le (by rw [List.length_replicate]; exact hmod)]
    simp only [List.flatten_cons, List.flatten_nil, List.append_nil, List.append_assoc]
  · cases h

lemma mipi_frame_isSome (h : xmm626MipiCommandHeaderSize + data.length + mipiFooterLength shortFooter < 2 ^ (8 * bytes)) :
    ∃ frame, xmm626MipiCommandFrame bytes code data shortFooter = some frame := by
  refine ⟨_, copy_all_some ?_⟩
  rw [List.length_replicate, Nat.mod_eq_of_lt h]
  simp only [List.flatten_cons, List.flatten_nil, List.append_nil, List.length_append, mipi_header_length,
    mipi_footer_length]
  omega

/-- The fields are those of the payload where its length fits in the 16 bits of `data_size`. -/
lemma mipi_describes (h : data.length < 2 ^ 16) (footer : Bytes) :
    xmm626MipiFormat.Describes code data (xmm626MipiCommandHeader code data ++ data ++
      (shortBytes (xmm626Checksum code data).toNat ++ footer)) ∧
    intAt (xmm626MipiCommandHeader code data ++ data ++ (shortBytes (xmm626Checksum code data).toNat ++ footer)) 0 =
      data.length + xmm626MipiCommandHeaderSize := by
  have hheader : xmm626MipiCommandHeaderSize = 10 := rfl
  generalize hframe : xmm626MipiCommandHeader code data ++ data ++
    (shortBytes (xmm626Checksum code data).toNat ++ footer) = frame
  have hlength : intAt frame 0 = data.length + xmm626MipiCommandHeaderSize := by
    refine int_field [] (shortBytes xmm626MipiCommandHeaderMagic ++ (shortBytes code.toNat ++
      (shortBytes data.length ++ (data ++ (shortBytes (xmm626Checksum code data).toNat ++ footer))))) ?_ (by omega)
    rw [← hframe]
    simp only [xmm626MipiCommandHeader, List.append_assoc, List.nil_append]
  have hcode : shortAt frame 6 = code.toNat := by
    refine short_field (intBytes (data.length + xmm626MipiCommandHeaderSize) ++ shortBytes xmm626MipiCommandHeaderMagic)
      (shortBytes data.length ++ (data ++ (shortBytes (xmm626Checksum code data).toNat ++ footer))) ?_ code.toNat_lt
    rw [← hframe]
    simp only [xmm626MipiCommandHeader, List.append_assoc]
  have hsize : shortAt frame 8 = data.length := by
    refine short_field (intBytes (data.length + xmm626MipiCommandHeaderSize) ++ shortBytes xmm626MipiCommandHeaderMagic ++
      shortBytes code.toNat) (data ++ (shortBytes (xmm626Checksum code data).toNat ++ footer)) ?_ h
    rw [← hframe]
    simp only [xmm626MipiCommandHeader, List.append_assoc]
  have hchecksum : shortAt frame (xmm626MipiCommandHeaderSize + data.length) = payloadChecksum code data := by
    have hl : (xmm626MipiCommandHeader code data ++ data).length = xmm626MipiCommandHeaderSize + data.length := by
      rw [List.length_append, mipi_header_length]
    rw [← hl, ← command_checksum code (by omega)]
    exact short_field (xmm626MipiCommandHeader code data ++ data) footer hframe.symm
      (xmm626Checksum code data).toNat_lt
  refine ⟨⟨hcode, hsize, ?_, ?_⟩, hlength⟩
  · exact payload_behind_header (xmm626MipiCommandHeader code data) _ hframe.symm (mipi_header_length code data) hsize
  · exact (congrArg (fun n => shortAt frame (xmm626MipiCommandHeaderSize + n)) hsize).trans hchecksum

lemma mipi_footer_take (code : UInt16) (data : Bytes) (shortFooter : Bool) :
    ∃ footer, (xmm626MipiCommandFooter code data).take (mipiFooterLength shortFooter) =
      shortBytes (xmm626Checksum code data).toNat ++ footer := by
  cases shortFooter with
  | false => exact ⟨_, rfl⟩
  | true => exact ⟨_, rfl⟩

lemma mipi_frame_describes (h : xmm626MipiCommandFrame bytes code data shortFooter = some frame)
    (hl : data.length < 2 ^ 16) : xmm626MipiFormat.Describes code data frame ∧
      intAt frame 0 = data.length + xmm626MipiCommandHeaderSize := by
  obtain ⟨footer, hfooter⟩ := mipi_footer_take code data shortFooter
  rw [mipi_frame_some h, hfooter]
  exact mipi_describes hl footer

end Ril.Ipc
