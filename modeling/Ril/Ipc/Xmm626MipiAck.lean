import Ril.Ipc.Xmm626Boot

/-! The acknowledgement of a MIPI command, whose length the modem announces. -/

namespace Ril.Ipc

open Lib

variable {bytes length rounds q : ℕ} {s : MipiAck}

/-- Each round that goes on takes a read, so the bound on the rounds is never met. -/
lemma mipi_ack_loop_rounds (h : s.device.reads.length < rounds) :
    mipiAckLoop bytes length (rounds + 1) s = mipiAckLoop bytes length rounds s := by
  induction rounds generalizing s with
  | zero => exact absurd h (Nat.not_lt_zero _)
  | succ rounds ih =>
    rw [mipiAckLoop]
    conv_rhs => rw [mipiAckLoop]
    split
    · dsimp only
      split
      · rfl
      · split
        · rfl
        · rename_i hread
          refine ih ?_
          cases hreads : s.device.reads with
          | nil => simp [BootDevice.read, BootDevice.select, hreads] at hread
          | cons data reads =>
            rw [hreads, List.length_cons] at h
            simp only [BootDevice.read, BootDevice.select, hreads, List.tail_cons]
            omega
    · rfl

lemma mipi_ack_loop_take (hq : q ≤ s.p) (hp : s.p ≤ s.buffer.length) :
    (mipiAckLoop bytes length rounds s).2.buffer.take q = s.buffer.take q := by
  induction rounds generalizing s with
  | zero => rfl
  | succ rounds ih =>
    rw [mipiAckLoop]
    split
    · dsimp only
      split
      · rfl
      · split
        · exact overwrite_take _ hq hp
        · rename_i hread
          have hreach := overwrite_reaches s.buffer s.p (s.device.select.2.read 4).1
          rw [ih (by simp only; omega) (by simp only; omega)]
          exact overwrite_take _ hq hp
    · rfl

/-- Where the length is a multiple of 4, the chunks are inside of it, and they fill it if all are read. -/
lemma mipi_ack_loop_chunks (rounds : ℕ) (s : MipiAck) (hlength : length % 4 = 0) (hlt : length < 2 ^ 32)
    (hp : s.p = s.c) (hc : s.c % 4 = 0) :
    ∃ positions, (mipiAckLoop 4 length rounds s).2.chunks = s.chunks ++ positions ∧
      (∀ p ∈ positions, p + 4 ≤ length) ∧
      ((mipiAckLoop 4 length rounds s).1 = true → s.c ≤ length → s.c + 4 * positions.length = length) := by
  induction rounds generalizing s with
  | zero => exact ⟨[], (List.append_nil _).symm, fun _ h => absurd h List.not_mem_nil, fun h => by cases h⟩
  | succ rounds ih =>
    rw [mipiAckLoop]
    split
    · rename_i hmore
      have hfit : s.p + 4 ≤ length := by omega
      have hwrap : (s.c + 4) % 2 ^ (8 * 4) = s.c + 4 := Nat.mod_eq_of_lt (by omega)
      dsimp only
      split
      · exact ⟨[], (List.append_nil _).symm, fun _ h => absurd h List.not_mem_nil, fun h => by cases h⟩
      · split
        · exact ⟨[s.p], rfl, fun p h => (List.mem_singleton.mp h) ▸ hfit, fun h => by cases h⟩
        · rw [hwrap]
          obtain ⟨positions, hchunks, hinside, hall⟩ := @ih
            ⟨s.c + 4, s.p + 4, overwrite s.buffer s.p (s.device.select.2.read 4).1, s.chunks ++ [s.p],
              (s.device.select.2.read 4).2⟩ (by simp only; omega) (by simp only; omega)
          refine ⟨s.p :: positions, ?_, List.forall_mem_cons.mpr ⟨hfit, hinside⟩, fun h _ => ?_⟩
          · rw [hchunks, List.append_assoc]
            rfl
          · have hcount := hall h (by simp only; omega)
            rw [List.length_cons]
            simp only at hcount
            omega
    · rename_i hend
      exact ⟨[], (List.append_nil _).symm, fun _ h => absurd h List.not_mem_nil, fun _ h => by
        rw [List.length_nil]
        omega⟩

/-! ### The command -/

def roundUp4 (n : ℕ) : ℕ := (n + 3) / 4 * 4

/-- The code of the acknowledgement stands two bytes behind its length. -/
def acknowledgedCode (device : BootDevice) : ℕ := shortAt ((device.reads.tail.headD []).take 4) 2

/-- A device that announces the length first -/
def announcing (length : UInt32) (writes selects : List ℤ) (rest : List Bytes) : BootDevice :=
  ⟨writes, selects, numberBytes 4 length.toNat :: rest⟩

/-- The frame describes the payload, and an acknowledgement of that length is read in chunks that are inside of the
block and fill it. -/
structure MipiSound (code : UInt16) (ack shortFooter : Bool) (data : Bytes) (length : UInt32) (device : BootDevice) :
    Prop where
  frame : data ≠ [] → ∃ frame, (xmm626MipiCommandSend 4 code ack shortFooter data device).1.frame = some frame ∧
    xmm626MipiFormat.Describes code data frame ∧ intAt frame 0 = data.length + xmm626MipiCommandHeaderSize
  rounded : ∀ allocated, (xmm626MipiCommandSend 4 code ack shortFooter data device).2.allocated = some allocated →
    allocated = roundUp4 (length.toNat + 4) ∧
      ∀ p ∈ (xmm626MipiCommandSend 4 code ack shortFooter data device).2.chunks, p + 4 ≤ allocated
  consumed : (xmm626MipiCommandSend 4 code ack shortFooter data device).2.complete = true →
    4 + 4 * (xmm626MipiCommandSend 4 code ack shortFooter data device).2.chunks.length = roundUp4 (length.toNat + 4)
  acknowledged : ack = true → (xmm626MipiCommandSend 4 code ack shortFooter data device).1.ok = true →
    acknowledgedCode device = code.toNat

variable {code : UInt16} {ack shortFooter : Bool} {data frame : Bytes} {device : BootDevice} {writes selects : List ℤ}
  {rest : List Bytes}

/-- The acknowledgement is read where the device is ready and the length is not one that is refused. -/
lemma mipi_ack_announcing (code : UInt16) (length : UInt32) (writes selects : List ℤ) (rest : List Bytes) :
    xmm626MipiAck 4 code (announcing length writes selects rest) =
      if selects.headD (-1) ≤ 0 then ⟨none, none, [], [], false, false, announcing length writes selects.tail rest⟩
      else if length.toNat = 0 then ⟨none, none, [], [], false, false, ⟨writes, selects.tail, rest⟩⟩
      else if mipiAckLength 4 length.toNat < 4 then
        ⟨some length.toNat, none, [], [], false, false, ⟨writes, selects.tail, rest⟩⟩
      else
        let read := mipiAckLoop 4 (mipiAckLength 4 length.toNat) (rest.length + 1)
          ⟨4, 4, numberBytes 4 (mipiAckLength 4 length.toNat) ++ List.replicate (mipiAckLength 4 length.toNat - 4) 0, [],
            ⟨writes, selects.tail, rest⟩⟩
        ⟨some length.toNat, some (mipiAckLength 4 length.toNat), read.2.buffer, read.2.chunks, read.1,
          read.1 && decide (shortAt read.2.buffer 6 = code.toNat), read.2.device⟩ := by
  have hselect : (announcing length writes selects rest).select =
      (selects.headD (-1), announcing length writes selects.tail rest) := rfl
  have hread : (announcing length writes selects.tail rest).read 4 =
      (numberBytes 4 length.toNat, ⟨writes, selects.tail, rest⟩) :=
    Prod.ext (List.take_of_length_le (Nat.le_of_eq (number_bytes_length 4 length.toNat))) rfl
  have hsize : numberOfBytes (numberBytes 4 length.toNat) = length.toNat := by
    rw [number_of_bytes]
    exact Nat.mod_eq_of_lt length.toNat_lt
  simp only [xmm626MipiAck, hselect, hread, hsize, number_bytes_length, Nat.lt_irrefl, false_or]

lemma mipi_ack_code (h : 8 ≤ length) (hcomplete : (mipiAckLoop 4 length (rounds + 1)
      ⟨4, 4, numberBytes 4 length ++ List.replicate (length - 4) 0, [], ⟨writes, selects, rest⟩⟩).1 = true) :
    shortAt (mipiAckLoop 4 length (rounds + 1)
        ⟨4, 4, numberBytes 4 length ++ List.replicate (length - 4) 0, [], ⟨writes, selects, rest⟩⟩).2.buffer 6 =
      shortAt ((rest.headD []).take 4) 2 := by
  have hfirst : 4 < length := by omega
  have hblock : (numberBytes 4 length ++ List.replicate (length - 4) (0 : UInt8)).take 4 = numberBytes 4 length :=
    List.take_left' (number_bytes_length 4 length)
  have hroom : 4 ≤ (numberBytes 4 length ++ List.replicate (length - 4) (0 : UInt8)).length := by
    rw [List.length_append, number_bytes_length]
    omega
  rw [mipiAckLoop, if_pos hfirst] at hcomplete ⊢
  dsimp only [BootDevice.select, BootDevice.read] at hcomplete ⊢
  split at hcomplete
  · cases hcomplete
  · rename_i hselected
    rw [if_neg hselected]
    split at hcomplete
    · cases hcomplete
    · rename_i hread
      rw [if_neg hread]
      generalize hdata : (rest.headD []).take 4 = data at hread ⊢
      have hlen : data.length = 4 := by
        have hle := congrArg List.length hdata
        rw [List.length_take] at hle
        omega
      have hover := overwrite_inside data hroom
      rw [hblock] at hover
      have hreach := overwrite_reaches (numberBytes 4 length ++ List.replicate (length - 4) 0) 4 data
      rw [hlen] at hreach
      rw [← short_at_take (Nat.lt_succ_self 7), mipi_ack_loop_take (Nat.le_refl 8) hreach,
        short_at_take (Nat.lt_succ_self 7), hover]
      generalize (numberBytes 4 length ++ List.replicate (length - 4) 0).drop (4 + data.length) = tail
      refine (congrArg (fun n => shortAt (numberBytes 4 length ++ (data ++ tail)) (n + 2))
        (number_bytes_length 4 length).symm).trans ?_
      have htake : (data ++ tail).take (3 + 1) = data := List.take_left' hlen
      rw [short_at_append, ← short_at_take (Nat.lt_succ_self 3), htake]

lemma mipi_command_send_built (ack : Bool) (device : BootDevice) (hdata : data ≠ [])
    (hframe : xmm626MipiCommandFrame bytes code data shortFooter = some frame) :
    xmm626MipiCommandSend bytes code ack shortFooter data device =
      if device.write.1 < asInt frame.length then
        (⟨some frame, false⟩, ⟨none, none, [], [], false, false, device.write.2⟩)
      else if !ack then (⟨some frame, true⟩, ⟨none, none, [], [], false, false, device.write.2⟩)
      else (⟨some frame, (xmm626MipiAck bytes code device.write.2).ok⟩, xmm626MipiAck bytes code device.write.2) := by
  have hlen : ¬data.length = 0 := fun h => hdata (List.length_eq_zero_iff.mp h)
  rw [xmm626MipiCommandSend, if_neg hlen, hframe]

lemma mipi_frame_built (code : UInt16) (shortFooter : Bool) (h : data.length < 2 ^ 16) :
    ∃ frame, xmm626MipiCommandFrame 4 code data shortFooter = some frame := by
  have hheader : xmm626MipiCommandHeaderSize = 10 := rfl
  apply mipi_frame_isSome
  cases shortFooter with
  | false =>
    have hfooter : mipiFooterLength false = 6 := rfl
    omega
  | true =>
    have hfooter : mipiFooterLength true = 4 := rfl
    omega

lemma mipi_sound_unread {length : UInt32} (hframe : data ≠ [] →
      ∃ frame, (xmm626MipiCommandSend 4 code ack shortFooter data device).1.frame = some frame ∧
        xmm626MipiFormat.Describes code data frame ∧ intAt frame 0 = data.length + xmm626MipiCommandHeaderSize)
    (hallocated : (xmm626MipiCommandSend 4 code ack shortFooter data device).2.allocated = none)
    (hcomplete : (xmm626MipiCommandSend 4 code ack shortFooter data device).2.complete = false)
    (hok : ack = true → (xmm626MipiCommandSend 4 code ack shortFooter data device).1.ok = false) :
    MipiSound code ack shortFooter data length device where
  frame := hframe
  rounded _ h := by
    rw [hallocated] at h
    cases h
  consumed h := by
    rw [hcomplete] at h
    cases h
  acknowledged hack h := by
    rw [hok hack] at h
    cases h

/-- The even lengths, of which the last one wraps around to a block of 4 bytes, and two odd ones that wrap around to a
length that is refused -/
def AckLength (length : UInt32) : Prop :=
  length.toNat % 2 = 0 ∧ length.toNat ≠ 2 ^ 32 - 2 ∨ length.toNat = 2 ^ 32 - 3 ∨ length.toNat = 2 ^ 32 - 5

/-- Such a length is refused, or it is rounded as it should be without wrapping around. -/
lemma ack_length_iff (length : UInt32) : AckLength length ↔ length.toNat = 0 ∨ mipiAckLength 4 length.toNat < 4 ∨
    mipiAckLength 4 length.toNat = roundUp4 (length.toNat + 4) ∧ 8 ≤ mipiAckLength 4 length.toNat := by
  have hlt := length.toNat_lt
  simp only [AckLength, mipiAckLength, roundUp4]
  split <;> omega

lemma mipi_ack_length_lt (n : ℕ) : mipiAckLength 4 n < 2 ^ 32 := by
  simp only [mipiAckLength]
  split <;> omega

/-- An acknowledgement of such a length is not read, or read in chunks that fill the block. -/
lemma mipi_ack_read {length : UInt32} (hlength : AckLength length) (code : UInt16) (writes selects : List ℤ)
    (rest : List Bytes) {acked : MipiAckRun}
    (hacked : xmm626MipiAck 4 code (announcing length writes selects rest) = acked) :
    acked.allocated = none ∧ acked.complete = false ∧ acked.ok = false ∨
      acked.allocated = some (roundUp4 (length.toNat + 4)) ∧
      (∀ p ∈ acked.chunks, p + 4 ≤ roundUp4 (length.toNat + 4)) ∧
      (acked.complete = true → 4 + 4 * acked.chunks.length = roundUp4 (length.toNat + 4)) ∧
      (acked.ok = true → shortAt ((rest.headD []).take 4) 2 = code.toNat) := by
  rw [mipi_ack_announcing] at hacked
  split at hacked
  · exact .inl (hacked ▸ ⟨rfl, rfl, rfl⟩)
  · split at hacked
    · exact .inl (hacked ▸ ⟨rfl, rfl, rfl⟩)
    · rename_i hzero
      split at hacked
      · exact .inl (hacked ▸ ⟨rfl, rfl, rfl⟩)
      · rename_i hrefused
        obtain ⟨hrounded, hroom⟩ : mipiAckLength 4 length.toNat = roundUp4 (length.toNat + 4) ∧
            8 ≤ mipiAckLength 4 length.toNat := by
          have h := (ack_length_iff length).mp hlength
          simpa only [hzero, hrefused, false_or] using h
        have hmultiple : mipiAckLength 4 length.toNat % 4 = 0 := by
          rw [hrounded]
          exact Nat.mul_mod_left _ 4
        obtain ⟨positions, hchunks, hinside, hall⟩ := mipi_ack_loop_chunks (rest.length + 1)
          ⟨4, 4, numberBytes 4 (mipiAckLength 4 length.toNat) ++
            List.replicate (mipiAckLength 4 length.toNat - 4) 0, [], ⟨writes, selects.tail, rest⟩⟩
          hmultiple (mipi_ack_length_lt _) rfl (Nat.mod_self 4)
        rw [List.nil_append] at hchunks
        rw [hrounded] at hinside hall
        obtain rfl := hacked
        refine .inr ⟨congrArg some hrounded, fun p hp => hinside p ?_, fun h => ?_, fun h => ?_⟩
        · dsimp only at hp
          rwa [hchunks] at hp
        · dsimp only at h hall ⊢
          rw [hchunks]
          exact hall (hrounded ▸ h) (by omega)
        · dsimp only at h
          rw [Bool.and_eq_true, decide_eq_true_eq] at h
          rw [← mipi_ack_code hroom h.1]
          exact h.2

lemma mipi_sound_sent {length : UInt32} (hlength : ack = false ∨ AckLength length) (hdata : data ≠ [])
    (hframe : xmm626MipiCommandFrame 4 code data shortFooter = some frame) (hlt : data.length < 2 ^ 16) :
    MipiSound code ack shortFooter data length (announcing length writes selects rest) := by
  have hsent := mipi_command_send_built ack (announcing length writes selects rest) hdata hframe
  have hdescribes := mipi_frame_describes hframe hlt
  by_cases hwritten : (announcing length writes selects rest).write.1 < asInt frame.length
  · rw [if_pos hwritten] at hsent
    exact mipi_sound_unread (fun _ => ⟨frame, by rw [hsent], hdescribes⟩) (by rw [hsent]) (by rw [hsent])
      fun _ => by rw [hsent]
  · rw [if_neg hwritten] at hsent
    cases ack with
    | false =>
      replace hsent : xmm626MipiCommandSend 4 code false shortFooter data (announcing length writes selects rest) =
          (⟨some frame, true⟩, ⟨none, none, [], [], false, false, _⟩) := hsent
      exact mipi_sound_unread (fun _ => ⟨frame, by rw [hsent], hdescribes⟩) (by rw [hsent]) (by rw [hsent])
        fun h => by cases h
    | true =>
      have hlength : AckLength length := hlength.resolve_left Bool.noConfusion
      generalize hacked : xmm626MipiAck 4 code (announcing length writes selects rest).write.2 = acked at hsent
      replace hsent : xmm626MipiCommandSend 4 code true shortFooter data (announcing length writes selects rest) =
          (⟨some frame, acked.ok⟩, acked) := hsent
      obtain ⟨hallocated, hcomplete, hok⟩ | ⟨hallocated, hinside, hall, hcode⟩ :=
        mipi_ack_read hlength code writes.tail selects rest hacked
      · exact mipi_sound_unread (fun _ => ⟨frame, by rw [hsent], hdescribes⟩) (by rw [hsent, hallocated])
          (by rw [hsent, hcomplete]) fun _ => by rw [hsent, hok]
      · refine ⟨fun _ => ⟨frame, by rw [hsent], hdescribes⟩, fun allocated h => ?_, ?_, fun _ => ?_⟩
        · rw [hsent] at h ⊢
          obtain rfl := Option.some.inj (hallocated.symm.trans h)
          exact ⟨rfl, hinside⟩
        · rw [hsent]
          exact hall
        · rw [hsent]
          exact hcode

lemma mipi_sound_length {length : UInt32}
    (h : ∀ writes selects rest, MipiSound code true shortFooter data length (announcing length writes selects rest))
    (hdata : data ≠ []) (hframe : xmm626MipiCommandFrame 4 code data shortFooter = some frame) : AckLength length := by
  rw [ack_length_iff]
  by_cases hzero : length.toNat = 0
  · exact .inl hzero
  · by_cases hrefused : mipiAckLength 4 length.toNat < 4
    · exact .inr (.inl hrefused)
    · have hsound := h [asInt frame.length] [1] []
      have hsent : xmm626MipiCommandSend 4 code true shortFooter data
          (announcing length [asInt frame.length] [1] []) =
          (⟨some frame, (xmm626MipiAck 4 code (announcing length [] [1] [])).ok⟩,
            xmm626MipiAck 4 code (announcing length [] [1] [])) := by
        rw [mipi_command_send_built _ _ hdata hframe]
        exact if_neg (Int.lt_irrefl _)
      have hallocated : (xmm626MipiAck 4 code (announcing length [] [1] [])).allocated =
          some (mipiAckLength 4 length.toNat) := by
        rw [mipi_ack_announcing, if_neg (by decide), if_neg hzero, if_neg hrefused]
      have hrounded := (hsound.rounded _ (by rw [hsent]; exact hallocated)).1
      have hround : roundUp4 (length.toNat + 4) = (length.toNat + 4 + 3) / 4 * 4 := rfl
      exact .inr (.inr ⟨hrounded, by omega⟩)

/-- The command is as it should be, whatever the device does that announces this length, exactly where the length of the
payload fits in its field and the length of the acknowledgement is even, or no acknowledgement is read. -/
theorem mipi_command_sound_iff (code : UInt16) (ack shortFooter : Bool) (data : Bytes) (length : UInt32) :
    (∀ writes selects rest,
      MipiSound code ack shortFooter data length (announcing length writes selects rest)) ↔
    data = [] ∨ data.length < 2 ^ 16 ∧ (ack = false ∨ AckLength length) := by
  constructor
  · intro h
    by_cases hdata : data = []
    · exact .inl hdata
    · obtain ⟨frame, -, hdescribes, -⟩ := (h [] [] []).frame hdata
      have hlt : data.length < 2 ^ 16 := hdescribes.size_eq ▸ short_at_lt frame 8
      obtain ⟨frame, hframe⟩ := mipi_frame_built code shortFooter hlt
      refine .inr ⟨hlt, ?_⟩
      cases ack with
      | false => exact .inl rfl
      | true => exact .inr (mipi_sound_length h hdata hframe)
  · rintro (rfl | ⟨hlt, hlength⟩) writes selects rest
    · exact mipi_sound_unread (fun h => absurd rfl h) rfl rfl fun _ => rfl
    · by_cases hdata : data = []
      · obtain rfl := hdata
        exact mipi_sound_unread (fun h => absurd rfl h) rfl rfl fun _ => rfl
      · obtain ⟨frame, hframe⟩ := mipi_frame_built code shortFooter hlt
        exact mipi_sound_sent hlength hdata hframe hlt

/-- An acknowledgement of the length 1 has a block of 6 bytes, and the chunk at 4 is read over its end. -/
theorem mipi_command_overruns :
    (xmm626MipiCommandSend 4 xmm626CommandFlashSetAddress true false (intBytes 0)
      (announcing 1 [20] [1, 1] [[0, 0, 2, 8]])).2.allocated = some 6 ∧
    (xmm626MipiCommandSend 4 xmm626CommandFlashSetAddress true false (intBytes 0)
      (announcing 1 [20] [1, 1] [[0, 0, 2, 8]])).2.chunks = [4] ∧
    ¬MipiSound xmm626CommandFlashSetAddress true false (intBytes 0) 1 (announcing 1 [20] [1, 1] [[0, 0, 2, 8]]) := by
  have hallocated : (xmm626MipiCommandSend 4 xmm626CommandFlashSetAddress true false (intBytes 0)
      (announcing 1 [20] [1, 1] [[0, 0, 2, 8]])).2.allocated = some 6 := by decide
  refine ⟨hallocated, by decide, fun h => ?_⟩
  have hrounded := (h.rounded 6 hallocated).1
  exact absurd hrounded (by decide)

end Ril.Ipc
