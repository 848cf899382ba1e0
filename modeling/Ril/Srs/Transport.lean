import Ril.Ipc.Xmm626
import Ril.Lib.Socket

/-! The messages between the RIL and its clients, over a stream socket. The daemon and the client library have the same
code for both directions. -/

namespace Ril.Srs

open Lib Ipc

/-- The data is NULL where it is empty. -/
structure SrsMessage where
  command : UInt16
  data : Bytes
deriving DecidableEq, Repr

def srsHeaderSize : ℕ := 6

def srsBufferLength : ℕ := 0x1000

def srsHeaderSetup (message : SrsMessage) : Bytes :=
  intBytes (message.data.length + srsHeaderSize) ++ [ipcGroup message.command, ipcIndex message.command]

/-- `SRS_COMMAND` of the two fields of the header -/
def srsMessageSetup (header : Bytes) : UInt16 := ipcCommand (byteAt header 4) (byteAt header 5)

/-- `(int) length` -/
def toInt (length : ℕ) : ℤ := if length < 2 ^ 31 then length else length - 2 ^ 32

/-- Whether the client can be written to, and what the one write does. The result comes with what was written. -/
def srsClientSend (writable : Bool) (write : ReadEvent) (message : SrsMessage) : Bool × Bytes :=
  let header := srsHeaderSetup message
  let length := intAt header 0
  let buffer := (header ++ message.data).take length
  if !writable then (false, [])
  else
    match readSocket write length buffer with
    | .error _ => (false, [])
    | .ok written => (!decide ((written.length : ℤ) < toInt length), written)

/-- A message that was received: its size and, where the buffer has them, so many bytes that follow the header -/
structure SrsReceived where
  command : UInt16
  size : ℕ
  data : Option Bytes
deriving DecidableEq, Repr

-- the width of `size_t`
variable (width : ℕ)

/-- What one read has brought is a message. The buffer was zeroed. -/
def srsClientRecv (read : Bytes) : Option SrsReceived :=
  if read.length < srsHeaderSize then none
  else
    let length := (intAt read 0 + 2 ^ width - srsHeaderSize) % 2 ^ width
    let buffer := read ++ List.replicate (srsBufferLength - read.length) 0
    some
      { command := srsMessageSetup read
        size := length
        data := if srsHeaderSize + length ≤ srsBufferLength then some ((buffer.drop srsHeaderSize).take length) else none }

/-- The bytes that were copied were all received. -/
def Received (read : Bytes) (message : SrsReceived) : Prop := srsHeaderSize + message.size ≤ read.length

/-- The reads of one client, with the messages they gave; a client is closed when a receive or its message fails. -/
def srsLoop (dispatch : SrsReceived → Bool) : List Bytes → List (Bytes × SrsReceived)
  | [] => []
  | read :: reads =>
    match srsClientRecv width read with
    | none => []
    | some message => (read, message) :: if dispatch message then srsLoop dispatch reads else []

end Ril.Srs

/-! When the messages that were sent are those that are received. -/

namespace Ril.Srs

open Lib Ipc

def srsFrame (message : SrsMessage) : Bytes := srsHeaderSetup message ++ message.data

/-- The header can express the length. -/
def Expressible (message : SrsMessage) : Prop := message.data.length + srsHeaderSize < 2 ^ 32

/-- The send of a message, which did not fail, has written these bytes. -/
def Sent (message : SrsMessage) (written : Bytes) : Prop :=
  Expressible message ∧ ∃ writable write, srsClientSend writable write message = (true, written)

/-- The pieces in which a socket gives out what was written -/
structure Pieces (reads : List Bytes) (stream : Bytes) : Prop where
  flatten : reads.flatten = stream
  ne_nil : ∀ read ∈ reads, read ≠ []
  length_le : ∀ read ∈ reads, read.length ≤ srsBufferLength

def delivered (message : SrsMessage) : SrsReceived := ⟨message.command, message.data.length, some message.data⟩

variable {width : ℕ} {m : SrsMessage} {read : Bytes} {dispatch : SrsReceived → Bool}

lemma frame_length (m : SrsMessage) : (srsFrame m).length = srsHeaderSize + m.data.length := List.length_append

lemma header_int_at (h : Expressible m) (rest : Bytes) :
    intAt (srsHeaderSetup m ++ rest) 0 = m.data.length + srsHeaderSize := by
  rw [srsHeaderSetup, List.append_assoc, int_at_int_bytes, Nat.mod_eq_of_lt h]

lemma sent_written {written : Bytes} (h : Sent m written) :
    written.length ≤ (srsFrame m).length ∧ ((srsFrame m).length < 2 ^ 31 → written = srsFrame m) := by
  obtain ⟨he, writable, write, hs⟩ := h
  have hi := header_int_at he []
  rw [List.append_nil] at hi
  have htake : (srsHeaderSetup m ++ m.data).take (m.data.length + srsHeaderSize) = srsFrame m := by
    refine List.take_of_length_le ?_
    rw [← srsFrame, frame_length]
    omega
  rw [srsClientSend, hi, htake] at hs
  cases writable with
  | false => cases hs
  | true =>
    simp only [Bool.not_true, Bool.false_eq_true, if_false] at hs
    cases hr : readSocket write (m.data.length + srsHeaderSize) (srsFrame m) with
    | error errno =>
      rw [hr] at hs
      cases hs
    | ok data =>
      rw [hr] at hs
      obtain ⟨hok, rfl⟩ := Prod.mk.inj hs
      obtain ⟨-, happend⟩ := read_socket_ok hr
      have hl := congrArg List.length happend
      rw [List.length_append] at hl
      refine ⟨by omega, fun hlt => ?_⟩
      rw [frame_length] at hlt hl
      rw [Bool.not_eq_true', decide_eq_false_iff_not, toInt, if_pos (by omega)] at hok
      have h0 : (srsFrame m).drop data.length = [] := by
        refine List.drop_of_length_le ?_
        rw [frame_length]
        omega
      rw [h0, List.append_nil] at happend
      exact happend

lemma recv_frame (he : Expressible m) (hw : 32 ≤ width) (hl : (srsFrame m).length ≤ srsBufferLength) :
    srsClientRecv width (srsFrame m) = some (delivered m) := by
  have hpow : 2 ^ 32 ≤ 2 ^ width := Nat.pow_le_pow_right (by decide) hw
  have hlen := frame_length m
  have hsize : (m.data.length + srsHeaderSize + 2 ^ width - srsHeaderSize) % 2 ^ width = m.data.length := by
    rw [Expressible] at he
    rw [show m.data.length + srsHeaderSize + 2 ^ width - srsHeaderSize = m.data.length + 2 ^ width by omega,
      Nat.add_mod_right, Nat.mod_eq_of_lt (by omega)]
  have hcommand : srsMessageSetup (srsFrame m) = m.command := ipc_command_eq m.command
  have hdata : ((srsFrame m ++ List.replicate (srsBufferLength - (srsFrame m).length) 0).drop srsHeaderSize).take
      m.data.length = m.data := by
    rw [srsFrame, List.append_assoc]
    exact List.take_left
  rw [srsClientRecv, if_neg (by omega), hcommand]
  dsimp only
  rw [show intAt (srsFrame m) 0 = m.data.length + srsHeaderSize from header_int_at he m.data, hsize,
    if_pos (by omega), hdata]
  rfl

lemma received_iff (hw : 32 ≤ width) (hl : read.length ≤ srsBufferLength) {message : SrsReceived}
    (h : srsClientRecv width read = some message) :
    Received read message ↔ srsHeaderSize ≤ intAt read 0 ∧ intAt read 0 ≤ read.length := by
  have hpow : 2 ^ 32 ≤ 2 ^ width := Nat.pow_le_pow_right (by decide) hw
  have hh : srsHeaderSize = 6 := rfl
  have hb : srsBufferLength = 4096 := rfl
  rw [srsClientRecv] at h
  split at h
  · cases h
  · rename_i hge
    obtain rfl := Option.some.inj h
    rw [Received]
    dsimp only
    have hint := int_at_lt read 0
    by_cases hs : srsHeaderSize ≤ intAt read 0
    · have hsize : (intAt read 0 + 2 ^ width - srsHeaderSize) % 2 ^ width = intAt read 0 - srsHeaderSize := by
        rw [show intAt read 0 + 2 ^ width - srsHeaderSize = intAt read 0 - srsHeaderSize + 2 ^ width by omega,
          Nat.add_mod_right, Nat.mod_eq_of_lt (by omega)]
      rw [hsize]
      omega
    · rw [Nat.mod_eq_of_lt (by omega)]
      omega

lemma frame_le_read (hr : Received read (delivered m)) :
    (srsFrame m).length ≤ read.length := by
  rw [frame_length]
  exact hr

/-- The loop gives the messages, from bytes that were received, only if it has a read for each. -/
lemma loop_reads {ms : List SrsMessage} {reads : List Bytes}
    (h : (srsLoop width dispatch reads).map Prod.snd = ms.map delivered)
    (hr : ∀ p ∈ srsLoop width dispatch reads, Received p.1 p.2) :
    (∃ cs rest, reads = cs ++ rest ∧ List.Forall₂ (fun m c => (srsFrame m).length ≤ c.length) ms cs) ∧
      ∀ m ∈ ms.dropLast, dispatch (delivered m) = true := by
  induction ms generalizing reads with
  | nil => exact ⟨⟨[], reads, rfl, .nil⟩, fun m hm => absurd hm List.not_mem_nil⟩
  | cons m ms ih =>
    cases reads with
    | nil => cases h
    | cons read reads =>
      rw [srsLoop] at h hr
      cases hc : srsClientRecv width read with
      | none =>
        rw [hc] at h
        cases h
      | some message =>
        rw [hc] at h hr
        dsimp only at h hr
        rw [List.map_cons, List.map_cons, List.cons.injEq] at h
        obtain ⟨rfl, htail⟩ := h
        obtain ⟨hread, hrest⟩ := List.forall_mem_cons.mp hr
        have hle := frame_le_read hread
        by_cases hd : dispatch (delivered m) = true
        · rw [if_pos hd] at htail hrest
          obtain ⟨⟨cs, rest, rfl, hf⟩, hds⟩ := ih htail hrest
          refine ⟨⟨read :: cs, rest, rfl, .cons hle hf⟩, ?_⟩
          cases ms with
          | nil => exact fun m hm => absurd hm List.not_mem_nil
          | cons m' ms => exact List.forall_mem_cons.mpr ⟨hd, hds⟩
        · rw [if_neg hd] at htail
          cases ms with
          | nil => exact ⟨⟨[read], reads, rfl, .cons hle .nil⟩, fun m hm => absurd hm List.not_mem_nil⟩
          | cons m' ms => cases htail

lemma loop_frames {ms : List SrsMessage} (hw : 32 ≤ width) (he : ∀ m ∈ ms, Expressible m)
    (hl : ∀ m ∈ ms, (srsFrame m).length ≤ srsBufferLength) (hd : ∀ m ∈ ms.dropLast, dispatch (delivered m) = true) :
    srsLoop width dispatch (ms.map srsFrame) = ms.map fun m => (srsFrame m, delivered m) := by
  induction ms with
  | nil => rfl
  | cons m ms ih =>
    obtain ⟨he₁, hes⟩ := List.forall_mem_cons.mp he
    obtain ⟨hl₁, hls⟩ := List.forall_mem_cons.mp hl
    rw [List.map_cons, srsLoop, recv_frame he₁ hw hl₁]
    dsimp only
    cases ms with
    | nil =>
      by_cases h : dispatch (delivered m) = true
      · rw [if_pos h]
        rfl
      · rw [if_neg h]
        rfl
    | cons m' ms =>
      obtain ⟨hd₁, hds⟩ := List.forall_mem_cons.mp hd
      rw [if_pos hd₁, ih hes hls hds]
      rfl

lemma written_le {ms : List SrsMessage} {ws cs : List Bytes} (hs : List.Forall₂ Sent ms ws)
    (hf : List.Forall₂ (fun m c => (srsFrame m).length ≤ c.length) ms cs) :
    List.Forall₂ (fun w c => w.length ≤ c.length) ws cs := by
  induction hs generalizing cs with
  | nil =>
    cases hf
    exact .nil
  | cons hm _ ih =>
    cases hf with
    | cons hle hf => exact .cons (Nat.le_trans (sent_written hm).1 hle) (ih hf)

lemma written_frames {ms : List SrsMessage} {ws : List Bytes} (hs : List.Forall₂ Sent ms ws)
    (hf : List.Forall₂ (fun m c => (srsFrame m).length ≤ c.length) ms ws) (hl : ∀ w ∈ ws, w.length ≤ srsBufferLength) :
    ws = ms.map srsFrame := by
  induction hs with
  | nil => rfl
  | cons hm _ ih =>
    cases hf with
    | cons hle hf =>
      obtain ⟨hl₁, hls⟩ := List.forall_mem_cons.mp hl
      have hb : srsBufferLength = 4096 := rfl
      rw [List.map_cons, (sent_written hm).2 (by omega), ← ih hf hls]

def ping : SrsMessage := ⟨0x0101, [0xfe, 0xaf, 0x0c, 0x00]⟩

lemma ping_expressible : Expressible ping := by
  rw [Expressible]
  decide

end Ril.Srs
