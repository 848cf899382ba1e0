import Ril.Lib.CNumber
import Ril.Mock.ControlServer

/-! When the messages of the control server are delivered, and when its reader stays within its buffers. -/

namespace Ril.Mock

open Lib
open Ipc (Bytes intAt intBytes)
open Srs (toInt)

/-- The libraries parse what was serialised. Four tags with a varint each have at most 29 bytes. -/
structure HeaderLibrary.Lawful (L : HeaderLibrary) : Prop where
  parse_from_array : ∀ peer mh, L.parseFromArray (L.serialize peer mh) = mh
  parse_from : ∀ peer mh, L.parseFrom (L.serialize peer mh) = some mh
  short : ∀ peer mh, (L.serialize peer mh).length ≤ 29

/-- A `size_t` counts the bytes of a buffer of the server, and an `int` those of a buffer of Java. -/
def ControlPeer.bufferLimit : ControlPeer → ℕ
  | server => 2 ^ 32
  | client => 2 ^ 31

/-- A message, with the data that the `Msg` holds that reads it -/
structure ControlMessage (sender : ControlPeer) where
  header : MsgHeader
  data : Option Bytes
  held : Option Bytes
  fits : (data.getD []).length < sender.bufferLimit
  held_fits : (held.getD []).length < ControlPeer.client.bufferLimit

namespace ControlMessage

variable {sender : ControlPeer}

def length (m : ControlMessage sender) : ℕ := (m.data.getD []).length

/-- The header with the length of the data, and the data; no data and empty data are the same message. -/
def contents (m : ControlMessage sender) : MsgHeader × Bytes :=
  ({ m.header with lengthData := UInt32.ofNat m.length }, m.data.getD [])

/-- The length of the data is an `int`, and a `Msg` that reads no data has none. -/
def Deliverable (receiver : ControlPeer) (m : ControlMessage sender) : Prop :=
  m.length < 2 ^ 31 ∧ (receiver = .client → m.length = 0 → m.held.getD [] = [])

def send (L : HeaderLibrary) (events : ℕ → SendEvent) (m : ControlMessage sender) (s : Outgoing) :
    TransferStatus × Outgoing :=
  match sender with
  | .server => writeMessage L events m.header m.data s
  | .client => msgSend L events m.header m.data s

end ControlMessage

def sendMessages {sender : ControlPeer} (L : HeaderLibrary) (events : ℕ → SendEvent) :
    List (ControlMessage sender) → Outgoing → TransferStatus × Outgoing
  | [], s => (.ok, s)
  | m :: ms, s => TransferStatus.thenWrite (m.send L events s) (sendMessages L events ms)

def receiveMessage (L : HeaderLibrary) (stack : ℕ) (events : ℕ → ReadEvent) (held : Option Bytes) (s : Incoming) :
    ControlPeer → Option ((MsgHeader × Option Bytes) × Incoming)
  | .server => (readMessage L stack events s).message.map fun m => (m, (readMessage L stack events s).rest)
  | .client => msgRead L events held s

/-- The messages that are read one after the other, up to the first that is not delivered; a `Msg` for each -/
def receiveMessages (L : HeaderLibrary) (stack : ℕ) (events : ℕ → ReadEvent) (receiver : ControlPeer) :
    List (Option Bytes) → Incoming → List (MsgHeader × Bytes)
  | [], _ => []
  | held :: helds, s =>
    match receiveMessage L stack events held s receiver with
    | none => []
    | some ((mh, data), s) => (mh, data.getD []) :: receiveMessages L stack events receiver helds s

variable {L : HeaderLibrary} {sender receiver : ControlPeer} {takes ready : ℕ → ℕ}

/-! ### What is written -/

lemma write_loop_takes (fuel : ℕ) (bytes : Bytes) (hf : bytes.length < fuel) (s : Outgoing) :
    ∃ calls, writeLoop (fun i => .takes (takes i)) fuel bytes bytes.length s = (.ok, ⟨s.sent ++ bytes, calls⟩) := by
  induction fuel generalizing bytes s with
  | zero => cases hf
  | succ fuel ih =>
    rw [writeLoop]
    by_cases hlength : 0 < bytes.length
    · rw [if_pos (by omega)]
      dsimp only
      have hleft : (bytes.length : ℤ) - (min (takes s.calls + 1) (bytes.length : ℤ).toNat : ℕ) =
          (bytes.drop (min (takes s.calls + 1) (bytes.length : ℤ).toNat)).length := by
        rw [List.length_drop]
        omega
      rw [hleft]
      obtain ⟨calls, hcalls⟩ := ih (bytes.drop (min (takes s.calls + 1) (bytes.length : ℤ).toNat))
        (by rw [List.length_drop]; omega)
        { sent := s.sent ++ bytes.take (min (takes s.calls + 1) (bytes.length : ℤ).toNat), calls := s.calls + 1 }
      refine ⟨calls, hcalls.trans ?_⟩
      rw [List.append_assoc, List.take_append_drop]
    · obtain rfl : bytes = [] := List.length_eq_zero_iff.mp (by omega)
      exact ⟨s.calls, by rw [if_neg (by simp), List.append_nil]⟩

lemma write_all_takes (takes : ℕ → ℕ) (bytes : Bytes) (s : Outgoing) :
    ∃ calls, writeAll (fun i => .takes (takes i)) bytes bytes.length s = (.ok, ⟨s.sent ++ bytes, calls⟩) :=
  write_loop_takes _ bytes (by omega) s

lemma write_all_nothing {length : ℤ} (h : length ≤ 0) (events : ℕ → SendEvent) (bytes : Bytes) (s : Outgoing) :
    writeAll events bytes length s = (.ok, s) := by
  rw [writeAll, writeLoop, if_neg (by omega)]

namespace ControlMessage

/-- The header as it is serialised -/
def raw (L : HeaderLibrary) (m : ControlMessage sender) : Bytes :=
  L.serialize sender { m.header with lengthData := UInt32.ofNat m.length }

/-- What is on the wire: a length that is no `int` announces data that `WriteAll` does not write. -/
def frame (L : HeaderLibrary) (m : ControlMessage sender) : Bytes :=
  intBytes (m.raw L).length ++ (m.raw L ++ if m.length < 2 ^ 31 then m.data.getD [] else [])

end ControlMessage

lemma then_ok {s : Outgoing} {r : TransferStatus × Outgoing} (h : r = (.ok, s))
    (next : Outgoing → TransferStatus × Outgoing) : TransferStatus.thenWrite r next = next s := by
  rw [h]
  rfl

lemma length_int_bytes (n : ℕ) : (intBytes n).length = 4 := rfl

lemma of_nat_pos_iff {n : ℕ} (h : n < 2 ^ 32) : 0 < UInt32.ofNat n ↔ 0 < n := by
  rw [UInt32.lt_iff_toNat_lt, UInt32.toNat_ofNat', Nat.mod_eq_of_lt h]
  rfl

lemma write_data_server (takes : ℕ → ℕ) {data : Bytes} (hd : data.length < 2 ^ 32) (s : Outgoing) :
    ∃ calls, (if 0 < UInt32.ofNat data.length then writeAll (fun i => .takes (takes i)) data (toInt data.length) s
      else (.ok, s)) = (.ok, ⟨s.sent ++ if data.length < 2 ^ 31 then data else [], calls⟩) := by
  by_cases hpos : 0 < data.length
  · rw [if_pos ((of_nat_pos_iff hd).mpr hpos), toInt]
    by_cases hint : data.length < 2 ^ 31
    · rw [if_pos hint, if_pos hint]
      exact write_all_takes takes data s
    · rw [if_neg hint, if_neg hint, List.append_nil]
      exact ⟨s.calls, write_all_nothing (by omega) _ _ _⟩
  · obtain rfl : data = [] := List.length_eq_zero_iff.mp (by omega)
    exact ⟨s.calls, by rw [if_neg (by decide), if_pos (by decide), List.append_nil]⟩

lemma then_assoc (r : TransferStatus × Outgoing) (f g : Outgoing → TransferStatus × Outgoing) :
    TransferStatus.thenWrite (TransferStatus.thenWrite r f) g =
      TransferStatus.thenWrite r fun s => TransferStatus.thenWrite (f s) g := by
  by_cases hok : r.1 = .ok
  · simp only [TransferStatus.thenWrite, if_pos hok]
  · simp only [TransferStatus.thenWrite, if_neg hok]

/-- The length and the header, and then the data -/
lemma header_writes (takes : ℕ → ℕ) (raw : Bytes) {payload : Bytes} {next : Outgoing → TransferStatus × Outgoing}
    (hnext : ∀ s, ∃ calls, next s = (.ok, ⟨s.sent ++ payload, calls⟩)) (s : Outgoing) :
    ∃ calls, TransferStatus.thenWrite (writeAll (fun i => .takes (takes i)) (intBytes raw.length) 4 s)
      (fun s => TransferStatus.thenWrite (writeAll (fun i => .takes (takes i)) raw raw.length s) next) =
        (.ok, ⟨s.sent ++ (intBytes raw.length ++ (raw ++ payload)), calls⟩) := by
  obtain ⟨c₁, h₁⟩ := write_all_takes takes (intBytes raw.length) s
  obtain ⟨c₂, h₂⟩ := write_all_takes takes raw ⟨s.sent ++ intBytes raw.length, c₁⟩
  obtain ⟨c₃, h₃⟩ := hnext ⟨s.sent ++ intBytes raw.length ++ raw, c₂⟩
  refine ⟨c₃, (then_ok h₁ _).trans ((then_ok h₂ _).trans (h₃.trans ?_))⟩
  simp only [List.append_assoc]

lemma write_data_client (takes : ℕ → ℕ) (data : Bytes) (s : Outgoing) :
    ∃ calls, (if 0 < data.length then writeAll (fun i => .takes (takes i)) data data.length s else (.ok, s)) =
      (.ok, ⟨s.sent ++ data, calls⟩) := by
  by_cases hpos : 0 < data.length
  · rw [if_pos hpos]
    exact write_all_takes takes data s
  · obtain rfl : data = [] := List.length_eq_zero_iff.mp (by omega)
    exact ⟨s.calls, by rw [if_neg hpos, List.append_nil]⟩

lemma send_takes (L : HeaderLibrary) (takes : ℕ → ℕ) (m : ControlMessage sender) (s : Outgoing) :
    ∃ calls, m.send L (fun i => .takes (takes i)) s = (.ok, ⟨s.sent ++ m.frame L, calls⟩) := by
  have hnone (s : Outgoing) : ∃ calls, ((.ok, s) : TransferStatus × Outgoing) = (.ok, ⟨s.sent ++ [], calls⟩) :=
    ⟨s.calls, by rw [List.append_nil]⟩
  cases sender with
  | server =>
    obtain ⟨header, data, held, fits, held_fits⟩ := m
    cases data with
    | none => exact header_writes takes _ hnone s
    | some data => exact header_writes takes _ (write_data_server takes fits) s
  | client =>
    have hint : m.length < 2 ^ 31 := m.fits
    rw [ControlMessage.frame, if_pos hint]
    obtain ⟨header, data, held, fits, held_fits⟩ := m
    dsimp only [ControlMessage.send, msgSend, sendHeader]
    rw [then_assoc]
    cases data with
    | none => exact header_writes takes _ (write_data_client takes []) s
    | some data => exact header_writes takes _ (write_data_client takes data) s

/-- The peer writes one frame after the other. -/
lemma send_messages_takes (L : HeaderLibrary) (takes : ℕ → ℕ) (ms : List (ControlMessage sender)) (s : Outgoing) :
    ∃ calls, sendMessages L (fun i => .takes (takes i)) ms s =
      (.ok, ⟨s.sent ++ (ms.map (ControlMessage.frame L)).flatten, calls⟩) := by
  induction ms generalizing s with
  | nil => exact ⟨s.calls, by rw [sendMessages, List.map_nil, List.flatten_nil, List.append_nil]⟩
  | cons m ms ih =>
    obtain ⟨c₁, h₁⟩ := send_takes L takes m s
    obtain ⟨c₂, h₂⟩ := ih ⟨s.sent ++ m.frame L, c₁⟩
    refine ⟨c₂, (then_ok h₁ _).trans (h₂.trans ?_)⟩
    rw [List.map_cons, List.flatten_cons, List.append_assoc]

/-! ### What is read -/

/-- A `recv` takes some of what is missing. -/
lemma read_socket_ready (more : ℕ) (b : UInt8) (want rest : Bytes) (hw : (b :: want).length < 2 ^ 32) :
    readSocket (.ready more) (((b :: want).length : ℤ) % 2 ^ 32).toNat (b :: want ++ rest) =
      .ok (b :: want.take (min more want.length)) := by
  have hcount : (((b :: want).length : ℤ) % 2 ^ 32).toNat = want.length + 1 := by
    rw [List.length_cons] at hw ⊢
    omega
  have htake : min (more + 1) (want.length + 1) = min more want.length + 1 := by omega
  rw [readSocket, hcount, htake, List.cons_append, List.take_succ_cons, List.take_append_of_le_length (by omega)]

lemma read_loop_ready (ready : ℕ → ℕ) (fuel : ℕ) (want rest bytes : Bytes) (hf : want.length < fuel)
    (hw : want.length < 2 ^ 32) (calls : ℕ) :
    ∃ calls', readLoop (fun i => .ready (ready i)) fuel want.length bytes ⟨want ++ rest, calls⟩ =
      ⟨.ok, bytes ++ want, ⟨rest, calls'⟩⟩ := by
  induction fuel generalizing want bytes calls with
  | zero => cases hf
  | succ fuel ih =>
    cases want with
    | nil => exact ⟨calls, by rw [readLoop, if_neg (by simp), List.append_nil, List.nil_append]⟩
    | cons b want =>
      rw [readLoop, if_pos (by rw [List.length_cons]; omega), read_socket_ready _ b want rest hw]
      dsimp only
      have hleft : (((b :: want).length : ℕ) : ℤ) - (b :: want.take (min (ready calls) want.length)).length =
          (want.drop (min (ready calls) want.length)).length := by
        rw [List.length_cons, List.length_cons, List.length_take, List.length_drop]
        omega
      have hstream : (b :: want ++ rest).drop (b :: want.take (min (ready calls) want.length)).length =
          want.drop (min (ready calls) want.length) ++ rest := by
        rw [List.length_cons, List.length_take, List.cons_append, List.drop_succ_cons,
          List.drop_append_of_le_length (by omega), Nat.min_assoc, Nat.min_self]
      rw [hleft, hstream]
      rw [List.length_cons] at hf hw
      obtain ⟨calls', hcalls'⟩ := ih (want.drop (min (ready calls) want.length))
        (bytes ++ b :: want.take (min (ready calls) want.length)) (by rw [List.length_drop]; omega)
        (by rw [List.length_drop]; omega) (calls + 1)
      refine ⟨calls', hcalls'.trans ?_⟩
      rw [List.append_assoc, List.cons_append, List.take_append_drop]

lemma read_all_ready (ready : ℕ → ℕ) (want rest : Bytes) (hw : want.length < 2 ^ 32) (calls : ℕ) :
    ∃ calls', readAll (fun i => .ready (ready i)) want.length ⟨want ++ rest, calls⟩ = ⟨.ok, want, ⟨rest, calls'⟩⟩ :=
  read_loop_ready ready _ want rest [] (by rw [List.length_append]; omega) hw calls

variable {mh : MsgHeader} {data : Bytes}

lemma to_int_small {n : ℕ} (h : n < 2 ^ 31) : toInt n = n := if_pos h

lemma length_word (hL : L.Lawful) (peer : ControlPeer) (mh : MsgHeader) :
    toInt (intAt (intBytes (L.serialize peer mh).length) 0) = (L.serialize peer mh).length := by
  have hshort := hL.short peer mh
  have hword := Ipc.int_at_int_bytes (L.serialize peer mh).length []
  rw [List.append_nil, Nat.mod_eq_of_lt (by omega)] at hword
  rw [hword, to_int_small (by omega)]

lemma read_message_header (hL : L.Lawful) (stack : ℕ) (ready : ℕ → ℕ) (peer : ControlPeer) (mh : MsgHeader) (rest : Bytes)
    (calls : ℕ) :
    ∃ calls' receipts, readMessage L stack (fun i => .ready (ready i))
      ⟨intBytes (L.serialize peer mh).length ++ (L.serialize peer mh ++ rest), calls⟩ =
        readData (fun i => .ready (ready i)) mh receipts ⟨rest, calls'⟩ := by
  have hshort := hL.short peer mh
  obtain ⟨c₁, h₁⟩ := read_all_ready ready (intBytes (L.serialize peer mh).length)
    (L.serialize peer mh ++ rest) (by rw [length_int_bytes]; decide) calls
  obtain ⟨c₂, h₂⟩ := read_all_ready ready (L.serialize peer mh) rest (by omega) c₁
  have h₁' : readAll (fun i => .ready (ready i)) 4 ⟨intBytes (L.serialize peer mh).length ++
      (L.serialize peer mh ++ rest), calls⟩ = _ := h₁
  refine ⟨c₂, [⟨4, 4⟩] ++ [⟨allocaRoom stack (L.serialize peer mh).length, (L.serialize peer mh).length⟩], ?_⟩
  rw [readMessage, h₁']
  dsimp only
  rw [if_pos rfl, length_word hL, h₂]
  dsimp only
  rw [if_pos rfl, hL.parse_from_array, length_int_bytes]

/-- The data goes with the message, unless it is longer than an `int` says. -/
lemma read_data_ready (ready : ℕ → ℕ) (hd : mh.lengthData.toNat = data.length) (hint : data.length < 2 ^ 31)
    (receipts : List Receipt) (rest : Bytes) (calls : ℕ) :
    ∃ calls' receipts' buffer, readData (fun i => .ready (ready i)) mh receipts ⟨data ++ rest, calls⟩ =
      ⟨.ok, receipts', some (mh, buffer), ⟨rest, calls'⟩⟩ ∧ buffer.getD [] = data := by
  by_cases hpos : 0 < mh.lengthData
  · obtain ⟨c, hread⟩ := read_all_ready ready data rest (by omega) calls
    refine ⟨c, receipts ++ [⟨data.length, data.length⟩], some data, ?_, rfl⟩
    rw [readData, if_pos hpos, obtainBuffer, hd, if_pos (by rw [to_int_small hint]; omega)]
    dsimp only
    rw [hread]
    rfl
  · have hzero : data.length = 0 := by
      rw [UInt32.lt_iff_toNat_lt, hd] at hpos
      exact Nat.eq_zero_of_not_pos hpos
    obtain rfl : data = [] := List.length_eq_zero_iff.mp hzero
    refine ⟨calls, receipts, none, ?_, rfl⟩
    rw [readData, if_neg hpos]
    rfl

lemma read_data_aborts (hlong : 2 ^ 31 ≤ mh.lengthData.toNat) (events : ℕ → ReadEvent) (receipts : List Receipt)
    (s : Incoming) : (readData events mh receipts s).message = none := by
  have hword := mh.lengthData.toNat_lt
  have hpos : 0 < mh.lengthData := by
    rw [UInt32.lt_iff_toNat_lt]
    exact Nat.lt_of_lt_of_le (by decide) hlong
  rw [readData, if_pos hpos, obtainBuffer, toInt, if_neg (by omega)]

lemma recv_all_ready (ready : ℕ → ℕ) (want rest : Bytes) (hw : want.length < 2 ^ 32) (calls : ℕ) :
    ∃ calls', recvAllRewind (fun i => .ready (ready i)) want.length ⟨want ++ rest, calls⟩ =
      some (want, ⟨rest, calls'⟩) := by
  obtain ⟨c, hread⟩ := read_all_ready ready want rest hw calls
  refine ⟨c, ?_⟩
  rw [recvAllRewind, if_pos (by omega), hread]
  rfl

lemma recv_header_ready (hL : L.Lawful) (ready : ℕ → ℕ) (peer : ControlPeer) (mh : MsgHeader) (rest : Bytes)
    (calls : ℕ) :
    ∃ calls', recvHeader L (fun i => .ready (ready i))
      ⟨intBytes (L.serialize peer mh).length ++ (L.serialize peer mh ++ rest), calls⟩ = some (mh, ⟨rest, calls'⟩) := by
  have hshort := hL.short peer mh
  obtain ⟨c₁, h₁⟩ := recv_all_ready ready (intBytes (L.serialize peer mh).length)
    (L.serialize peer mh ++ rest) (by rw [length_int_bytes]; decide) calls
  obtain ⟨c₂, h₂⟩ := recv_all_ready ready (L.serialize peer mh) rest (by omega) c₁
  have h₁' : recvAllRewind (fun i => .ready (ready i)) 4 ⟨intBytes (L.serialize peer mh).length ++
      (L.serialize peer mh ++ rest), calls⟩ = _ := h₁
  refine ⟨c₂, ?_⟩
  rw [recvHeader, h₁', Option.bind_some, length_word hL, h₂, Option.bind_some, hL.parse_from, Option.map_some]

/-- A `Msg` that reads no data keeps what it has. -/
lemma msg_read_ready (hL : L.Lawful) (ready : ℕ → ℕ) (peer : ControlPeer) (hd : mh.lengthData.toNat = data.length)
    (hint : data.length < 2 ^ 31) (held : Option Bytes) (rest : Bytes) (calls : ℕ) :
    ∃ calls', msgRead L (fun i => .ready (ready i)) held
      ⟨intBytes (L.serialize peer mh).length ++ (L.serialize peer mh ++ (data ++ rest)), calls⟩ =
        some ((mh, if data.length = 0 then held else some data), ⟨rest, calls'⟩) := by
  obtain ⟨c₁, h₁⟩ := recv_header_ready hL ready peer mh (data ++ rest) calls
  rw [msgRead, h₁, Option.bind_some]
  dsimp only
  rw [hd, to_int_small hint]
  by_cases hzero : data.length = 0
  · obtain rfl : data = [] := List.length_eq_zero_iff.mp hzero
    exact ⟨c₁, rfl⟩
  · obtain ⟨c₂, h₂⟩ := recv_all_ready ready data rest (by omega) c₁
    exact ⟨c₂, by rw [if_pos (by omega), h₂, if_neg hzero, Option.map_some]⟩

/-- A length that is no `int` is taken for no data. -/
lemma msg_read_long (hL : L.Lawful) (ready : ℕ → ℕ) (peer : ControlPeer) (hlong : 2 ^ 31 ≤ mh.lengthData.toNat)
    (held : Option Bytes) (rest : Bytes) (calls : ℕ) :
    ∃ calls', msgRead L (fun i => .ready (ready i)) held
      ⟨intBytes (L.serialize peer mh).length ++ (L.serialize peer mh ++ rest), calls⟩ =
        some ((mh, held), ⟨rest, calls'⟩) := by
  have hword := mh.lengthData.toNat_lt
  obtain ⟨c, h⟩ := recv_header_ready hL ready peer mh rest calls
  refine ⟨c, ?_⟩
  rw [msgRead, h, Option.bind_some, if_neg]
  rw [toInt]
  dsimp only
  omega

/-! ### One message after the other -/

lemma contents_length (m : ControlMessage sender) : m.contents.1.lengthData.toNat = m.length := by
  have hlimit : m.length < 2 ^ 32 := by
    refine Nat.lt_of_lt_of_le m.fits ?_
    cases sender <;> decide
  exact (UInt32.toNat_ofNat').trans (Nat.mod_eq_of_lt hlimit)

lemma receive_deliverable (hL : L.Lawful) (stack : ℕ) (ready : ℕ → ℕ) {m : ControlMessage sender}
    (hm : m.Deliverable receiver) (rest : Bytes) (calls : ℕ) :
    ∃ calls' buffer, receiveMessage L stack (fun i => .ready (ready i)) m.held ⟨m.frame L ++ rest, calls⟩ receiver =
      some ((m.contents.1, buffer), ⟨rest, calls'⟩) ∧ buffer.getD [] = m.data.getD [] := by
  obtain ⟨hint, hheld⟩ := hm
  rw [ControlMessage.frame, if_pos hint, List.append_assoc, List.append_assoc]
  cases receiver with
  | server =>
    obtain ⟨c₁, receipts, hheader⟩ := read_message_header hL stack ready sender m.contents.1 (m.data.getD [] ++ rest) calls
    obtain ⟨c₂, receipts', buffer, hdata, hbuffer⟩ := read_data_ready ready (contents_length m) hint receipts rest c₁
    refine ⟨c₂, buffer, ?_, hbuffer⟩
    have hread := hheader.trans hdata
    change (readMessage L stack _ _).message.map (fun m => (m, (readMessage L stack _ _).rest)) = _
    exact hread ▸ rfl
  | client =>
    obtain ⟨c, hread⟩ := msg_read_ready hL ready sender (contents_length m) hint m.held rest calls
    refine ⟨c, _, hread, ?_⟩
    by_cases hzero : (m.data.getD []).length = 0
    · rw [if_pos hzero, List.length_eq_zero_iff.mp hzero]
      exact hheld rfl hzero
    · rw [if_neg hzero]
      rfl

lemma receive_not_deliverable (hL : L.Lawful) (stack : ℕ) (ready : ℕ → ℕ) {m : ControlMessage sender}
    (hm : ¬m.Deliverable receiver) {rest : Bytes} {calls : ℕ} {mh : MsgHeader} {buffer : Option Bytes} {s : Incoming}
    (h : receiveMessage L stack (fun i => .ready (ready i)) m.held ⟨m.frame L ++ rest, calls⟩ receiver =
      some ((mh, buffer), s)) : buffer.getD [] ≠ m.data.getD [] := by
  rw [ControlMessage.frame, List.append_assoc, List.append_assoc] at h
  by_cases hint : m.length < 2 ^ 31
  · -- a message without data, into a `Msg` with data
    obtain ⟨rfl, hzero, hheld⟩ : receiver = .client ∧ m.length = 0 ∧ m.held.getD [] ≠ [] := by
      by_contra hnot
      refine hm ⟨hint, fun hr hz => ?_⟩
      by_contra hheld
      exact hnot ⟨hr, hz, hheld⟩
    obtain ⟨c, hread⟩ := msg_read_ready hL ready sender (contents_length m) hint m.held rest calls
    rw [if_pos hint] at h
    obtain ⟨heq, -⟩ := Prod.mk.inj (Option.some.inj (hread.symm.trans h))
    have hempty : (m.data.getD []).length = 0 := hzero
    rw [← (Prod.mk.inj heq).2, if_pos hempty, List.length_eq_zero_iff.mp hempty]
    exact hheld
  · rw [if_neg hint, List.nil_append] at h
    have hlong : 2 ^ 31 ≤ m.contents.1.lengthData.toNat := by
      rw [contents_length]
      omega
    cases receiver with
    | server =>
      obtain ⟨c, receipts, hheader⟩ := read_message_header hL stack ready sender m.contents.1 rest calls
      change (readMessage L stack _ _).message.map (fun m => (m, (readMessage L stack _ _).rest)) = _ at h
      have haborts := read_data_aborts hlong (fun i => .ready (ready i)) receipts ⟨rest, c⟩
      rw [← hheader] at haborts
      obtain ⟨message, hmessage, -⟩ := Option.map_eq_some_iff.mp h
      cases haborts.symm.trans hmessage
    | client =>
      obtain ⟨c, hread⟩ := msg_read_long hL ready sender hlong m.held rest calls
      obtain ⟨heq, -⟩ := Prod.mk.inj (Option.some.inj (hread.symm.trans h))
      rw [← (Prod.mk.inj heq).2]
      intro hsame
      have hheld : (m.held.getD []).length < 2 ^ 31 := m.held_fits
      rw [hsame] at hheld
      exact hint hheld

/-- The messages that are read are those that were written, if and only if each of them can be delivered. -/
lemma receive_messages_iff (hL : L.Lawful) (stack : ℕ) (ready : ℕ → ℕ) (ms : List (ControlMessage sender)) (calls : ℕ) :
    receiveMessages L stack (fun i => .ready (ready i)) receiver (ms.map ControlMessage.held)
      ⟨(ms.map (ControlMessage.frame L)).flatten, calls⟩ = ms.map ControlMessage.contents ↔
        ∀ m ∈ ms, m.Deliverable receiver := by
  induction ms generalizing calls with
  | nil => exact iff_of_true rfl fun _ hm => by cases hm
  | cons m ms ih =>
    rw [List.map_cons, List.map_cons, List.map_cons, List.flatten_cons, receiveMessages, List.forall_mem_cons]
    by_cases hm : m.Deliverable receiver
    · obtain ⟨c, buffer, hread, hbuffer⟩ :=
        receive_deliverable hL stack ready hm (ms.map (ControlMessage.frame L)).flatten calls
      rw [hread]
      dsimp only
      rw [hbuffer, List.cons_eq_cons]
      exact and_congr (iff_of_true rfl hm) (ih c)
    · refine iff_of_false (fun heq => ?_) fun h => hm h.1
      split at heq
      next => cases heq
      next mh buffer s hread =>
        exact receive_not_deliverable hL stack ready hm hread (congrArg Prod.snd (List.cons.inj heq).1)

/-! ### The room of the buffers -/

/-- The length that a message announces for its header -/
def headerLength (stream : Bytes) : ℤ := toInt (intAt (stream.take 4) 0)

variable {events : ℕ → ReadEvent} {s : Incoming} {stream : Bytes} {stack : ℕ}

/-- What a loop receives is the front of the stream, and it has returned all of its length where it is ok. -/
lemma read_loop_receives (events : ℕ → ReadEvent) (fuel : ℕ) (length : ℤ) (bytes : Bytes) (s : Incoming) :
    ∃ more, (readLoop events fuel length bytes s).bytes = bytes ++ more ∧
      s.stream = more ++ (readLoop events fuel length bytes s).rest.stream ∧ (0 ≤ length → more.length ≤ length) ∧
      ((readLoop events fuel length bytes s).status = .ok → more.length = length) := by
  induction fuel generalizing length bytes s with
  | zero => exact ⟨[], (List.append_nil _).symm, rfl, fun h => h, fun h => by cases h⟩
  | succ fuel ih =>
    rw [readLoop]
    by_cases hzero : length = 0
    · rw [if_neg (by omega), hzero]
      exact ⟨[], (List.append_nil _).symm, rfl, fun h => h, fun _ => rfl⟩
    · rw [if_pos hzero]
      split
      next => exact ⟨[], (List.append_nil _).symm, rfl, fun h => h, fun h => by cases h⟩
      next => exact ⟨[], (List.append_nil _).symm, rfl, fun h => h, fun h => by cases h⟩
      next data _ hread =>
        obtain ⟨hcount, hstream⟩ := read_socket_ok hread
        obtain ⟨more, hbytes, hrest, hle, hok⟩ := ih (length - data.length) (bytes ++ data) ⟨s.stream.drop data.length, s.calls + 1⟩
        refine ⟨data ++ more, by rw [hbytes, List.append_assoc], ?_, fun hpos => ?_, fun h => ?_⟩
        · rw [List.append_assoc, ← hrest, hstream]
        · rw [List.length_append]
          have := hle (by omega)
          omega
        · rw [List.length_append]
          have := hok h
          omega

lemma read_all_receives (events : ℕ → ReadEvent) (length : ℤ) (s : Incoming) :
    s.stream = (readAll events length s).bytes ++ (readAll events length s).rest.stream ∧
      (0 ≤ length → (readAll events length s).bytes.length ≤ length) ∧
      ((readAll events length s).status = .ok → (readAll events length s).bytes.length = length) := by
  obtain ⟨more, hbytes, hstream, hle, hok⟩ := read_loop_receives events (s.stream.length + 1) length [] s
  rw [List.nil_append] at hbytes
  rw [readAll, hbytes]
  exact ⟨hstream, hle, hok⟩

lemma read_data_within {receipts : List Receipt} (h : ∀ r ∈ receipts, r.received ≤ r.room) (mh : MsgHeader) :
    ∀ r ∈ (readData events mh receipts s).receipts, r.received ≤ r.room := by
  rw [readData]
  split
  next =>
    split
    next => exact h
    next length _ =>
      obtain ⟨-, hle, -⟩ := read_all_receives events length s
      have hroom := hle (by omega)
      intro r hr
      rcases List.mem_append.mp hr with hr | hr
      · exact h r hr
      · rw [List.mem_singleton.mp hr]
        dsimp only
        omega
  next => exact h

lemma read_data_receipts {r : Receipt} {receipts : List Receipt} (h : r ∈ receipts) (mh : MsgHeader) :
    r ∈ (readData events mh receipts s).receipts := by
  rw [readData]
  split
  next =>
    split
    next => exact h
    next => exact List.mem_append_left _ h
  next => exact h

lemma word_eq_take (h : (readAll events 4 s).status = .ok) : (readAll events 4 s).bytes = s.stream.take 4 := by
  obtain ⟨hstream, -, hok⟩ := read_all_receives events 4 s
  have hlength : (readAll events 4 s).bytes.length = 4 := by
    have := hok h
    omega
  rw [hstream, List.take_left' hlength]

lemma within_of_header (L : HeaderLibrary)
    (h : 4 < s.stream.length → 0 ≤ headerLength s.stream ∧ headerLength s.stream ≤ stack) :
    ∀ r ∈ (readMessage L stack events s).receipts, r.received ≤ r.room := by
  obtain ⟨hstream, hle, hok⟩ := read_all_receives events 4 s
  have hword : ∀ r ∈ [Receipt.mk 4 (readAll events 4 s).bytes.length], r.received ≤ r.room := by
    intro r hr
    have := hle (by decide)
    rw [List.mem_singleton.mp hr]
    dsimp only
    omega
  rw [readMessage]
  dsimp only
  split
  next hstatus =>
    obtain ⟨hstream', hle', -⟩ := read_all_receives events (headerLength s.stream) (readAll events 4 s).rest
    have hraw : ∀ r ∈ [Receipt.mk 4 (readAll events 4 s).bytes.length] ++ [Receipt.mk (allocaRoom stack (headerLength s.stream))
        (readAll events (headerLength s.stream) (readAll events 4 s).rest).bytes.length], r.received ≤ r.room := by
      intro r hr
      rcases List.mem_append.mp hr with hr | hr
      · exact hword r hr
      · rw [List.mem_singleton.mp hr]
        dsimp only
        by_cases hlong : 4 < s.stream.length
        · have := hle' (h hlong).1
          rw [allocaRoom, if_pos (h hlong)]
          omega
        · -- nothing comes after the length
          have hfour := hok hstatus
          have hall := congrArg List.length hstream
          have hrest := congrArg List.length hstream'
          rw [List.length_append] at hall hrest
          omega
    have hlength : toInt (intAt (readAll events 4 s).bytes 0) = headerLength s.stream := by
      rw [word_eq_take hstatus]
      rfl
    rw [hlength]
    split
    next => exact read_data_within hraw _
    next => exact hraw
  next => exact hword

/-- A loop that waits for some length, of any sign, receives what comes. -/
lemma read_all_some {length : ℤ} (h : length % 2 ^ 32 ≠ 0) (hs : s.stream ≠ []) :
    0 < (readAll (fun _ => .ready 0) length s).bytes.length := by
  obtain ⟨b, rest, hstream⟩ := List.exists_cons_of_ne_nil hs
  have hread : readSocket (.ready 0) (length % 2 ^ 32).toNat s.stream = .ok [b] := by
    have hmin : min (0 + 1) (length % 2 ^ 32).toNat = 1 := by omega
    rw [readSocket, hmin, hstream]
    rfl
  obtain ⟨more, hmore, -⟩ := read_loop_receives (fun _ => .ready 0) s.stream.length (length - [b].length) ([] ++ [b])
    ⟨s.stream.drop [b].length, s.calls + 1⟩
  rw [readAll, readLoop, if_pos (by rintro rfl; exact h rfl), hread]
  dsimp only
  rw [hmore, List.length_append]
  exact Nat.lt_of_lt_of_le Nat.one_pos (Nat.le_add_right _ _)

lemma header_of_within (L : HeaderLibrary)
    (h : ∀ events, ∀ r ∈ (readMessage L stack events ⟨stream, 0⟩).receipts, r.received ≤ r.room) (hlong : 4 < stream.length) :
    0 ≤ headerLength stream ∧ headerLength stream ≤ stack := by
  by_contra hout
  have hfour : (stream.take 4).length = 4 := by
    rw [List.length_take]
    omega
  obtain ⟨c, hread⟩ := read_all_ready (fun _ => 0) (stream.take 4) (stream.drop 4) (by rw [hfour]; decide) 0
  rw [List.take_append_drop, hfour] at hread
  have hword : readAll (fun _ => .ready 0) 4 ⟨stream, 0⟩ = ⟨.ok, stream.take 4, ⟨stream.drop 4, c⟩⟩ := hread
  have hsome : 0 < (readAll (fun _ => .ready 0) (headerLength stream) ⟨stream.drop 4, c⟩).bytes.length := by
    refine read_all_some ?_ (List.ne_nil_of_length_pos ?_)
    · have hword := Ipc.int_at_lt (stream.take 4) 0
      intro hmod
      refine hout ?_
      rw [headerLength, toInt] at hmod ⊢
      split at hmod <;> omega
    · rw [List.length_drop]
      omega
  have hroom : Receipt.mk (allocaRoom stack (headerLength stream))
      (readAll (fun _ => .ready 0) (headerLength stream) ⟨stream.drop 4, c⟩).bytes.length ∈
        (readMessage L stack (fun _ => .ready 0) ⟨stream, 0⟩).receipts := by
    rw [readMessage, hword]
    dsimp only
    rw [if_pos rfl]
    split
    next => exact read_data_receipts (List.mem_append_right _ List.mem_cons_self) _
    next => exact List.mem_append_right _ List.mem_cons_self
  have hreceived := h _ _ hroom
  rw [allocaRoom, if_neg hout] at hreceived
  exact absurd hsome (Nat.not_lt.mpr hreceived)

/-- The messages are delivered if and only if each has less than 2^31 bytes of data, and one without data is read into a
`Msg` without data. `ReadMessage` stays within its buffers, however the bytes come, if and only if the length of the
header is between 0 and what is left of the stack, or nothing comes after it. -/
theorem control_framing_iff (hL : L.Lawful) :
    (∀ (sender receiver : ControlPeer) (takes ready : ℕ → ℕ) (stack : ℕ) (ms : List (ControlMessage sender)),
      ∃ s, sendMessages L (fun i => .takes (takes i)) ms {} = (.ok, s) ∧
        (receiveMessages L stack (fun i => .ready (ready i)) receiver (ms.map ControlMessage.held) ⟨s.sent, 0⟩ =
          ms.map ControlMessage.contents ↔ ∀ m ∈ ms, m.Deliverable receiver)) ∧
    ∀ (stack : ℕ) (stream : Bytes),
      (∀ events, ∀ r ∈ (readMessage L stack events ⟨stream, 0⟩).receipts, r.received ≤ r.room) ↔
        (4 < stream.length → 0 ≤ headerLength stream ∧ headerLength stream ≤ stack) := by
  refine ⟨fun sender receiver takes ready stack ms => ?_, fun stack stream => ?_⟩
  · obtain ⟨calls, hsend⟩ := send_messages_takes L takes ms {}
    refine ⟨_, hsend, ?_⟩
    rw [List.nil_append]
    exact receive_messages_iff hL stack ready ms 0
  · exact ⟨header_of_within L, fun h events => within_of_header L h⟩

/-! ### A library for the headers -/

def fieldBytes (tag : UInt8) (groups n : ℕ) : Bytes := tag :: varint groups n

/-- The fields in the order of their tags -/
def headerBytes (mh : MsgHeader) : Bytes :=
  fieldBytes 8 5 mh.cmd.toNat ++ (fieldBytes 16 5 mh.lengthData.toNat ++
    (mh.status.elim [] (fun status => fieldBytes 24 5 status.toNat) ++
      mh.token.elim [] fun token => fieldBytes 32 10 token.toNat))

def readField (tag : UInt8) : Bytes → Option (ℕ × Bytes)
  | [] => none
  | b :: bytes => if b = tag then readVarint bytes else none

/-- A field that may be absent -/
def readOptional (tag : UInt8) (bytes : Bytes) : Option ℕ × Bytes :=
  (readField tag bytes).elim (none, bytes) fun r => (some r.1, r.2)

def parseHeader (bytes : Bytes) : Option MsgHeader :=
  (readField 8 bytes).bind fun cmd => (readField 16 cmd.2).map fun lengthData =>
    let status := readOptional 24 lengthData.2
    let token := readOptional 32 status.2
    ⟨UInt32.ofNat cmd.1, UInt32.ofNat lengthData.1, status.1.map UInt32.ofNat, token.1.map UInt64.ofNat⟩

def varintHeaders : HeaderLibrary where
  serialize := fun _ => headerBytes
  parseFromArray := fun bytes => (parseHeader bytes).getD ⟨0, 0, none, none⟩
  parseFrom := parseHeader

lemma read_field (tag : UInt8) {groups n : ℕ} (h : n < 128 ^ (groups + 1)) (rest : Bytes) :
    readField tag (fieldBytes tag (groups + 1) n ++ rest) = some (n, rest) := by
  rw [fieldBytes, List.cons_append, readField, if_pos rfl, read_varint h]

lemma parse_header (mh : MsgHeader) : parseHeader (headerBytes mh) = some mh := by
  obtain ⟨cmd, lengthData, status, token⟩ := mh
  have hcmd : cmd.toNat < 128 ^ 5 := Nat.lt_trans cmd.toNat_lt (by decide)
  have hlength : lengthData.toNat < 128 ^ 5 := Nat.lt_trans lengthData.toNat_lt (by decide)
  have htoken : readOptional 32 (token.elim [] fun token => fieldBytes 32 10 token.toNat) = (token.map UInt64.toNat, []) := by
    cases token with
    | none => rfl
    | some token =>
      have hbound : token.toNat < 128 ^ 10 := Nat.lt_trans token.toNat_lt (by decide)
      have hread := read_field 32 hbound []
      rw [List.append_nil] at hread
      rw [readOptional, Option.elim_some, hread]
      rfl
  have hstatus (rest : Bytes) (hrest : readField 24 rest = none) : readOptional 24
      (status.elim [] (fun status => fieldBytes 24 5 status.toNat) ++ rest) = (status.map UInt32.toNat, rest) := by
    cases status with
    | none =>
      rw [readOptional, Option.elim_none, List.nil_append, hrest]
      rfl
    | some status =>
      have hbound : status.toNat < 128 ^ 5 := Nat.lt_trans status.toNat_lt (by decide)
      rw [readOptional, Option.elim_some, read_field 24 hbound]
      rfl
  rw [parseHeader, headerBytes, read_field 8 hcmd, Option.bind_some, read_field 16 hlength, Option.map_some]
  dsimp only
  rw [hstatus _ (by cases token <;> rfl), htoken]
  simp only [UInt32.ofNat_toNat, UInt64.ofNat_toNat, Option.map_map, Function.comp_def, Option.map_id']

lemma field_length (tag : UInt8) (groups n : ℕ) : (fieldBytes tag groups n).length ≤ groups + 1 :=
  Nat.succ_le_succ (length_varint groups n)

lemma header_length (mh : MsgHeader) : (headerBytes mh).length ≤ 29 := by
  have hcmd := field_length 8 5 mh.cmd.toNat
  have hlength := field_length 16 5 mh.lengthData.toNat
  have hstatus : (mh.status.elim [] fun status => fieldBytes 24 5 status.toNat).length ≤ 6 := by
    cases mh.status with
    | none => exact Nat.zero_le _
    | some status => exact field_length 24 5 status.toNat
  have htoken : (mh.token.elim [] fun token => fieldBytes 32 10 token.toNat).length ≤ 11 := by
    cases mh.token with
    | none => exact Nat.zero_le _
    | some token => exact field_length 32 10 token.toNat
  rw [headerBytes, List.length_append, List.length_append, List.length_append]
  omega

lemma varint_headers_lawful : varintHeaders.Lawful where
  parse_from_array := fun _ mh => by simp only [varintHeaders, parse_header, Option.getD_some]
  parse_from := fun _ mh => parse_header mh
  short := fun _ mh => header_length mh

/-- An answer with data, and one without, sent byte by byte and received in other pieces -/
theorem control_framing_answers :
    ∃ s, sendMessages varintHeaders (fun _ => .takes 0) [⟨⟨1, 0, some 0, some 300⟩, some [65, 66], none, by decide, by decide⟩,
      (⟨⟨2, 0, none, none⟩, none, none, by decide, by decide⟩ : ControlMessage .server)] {} = (.ok, s) ∧
      receiveMessages varintHeaders 64 (fun i => .ready i) .client [none, none] ⟨s.sent, 0⟩ =
        [(⟨1, 2, some 0, some 300⟩, [65, 66]), (⟨2, 0, none, none⟩, [])] := by
  obtain ⟨s, hsend, hreceive⟩ := (control_framing_iff varint_headers_lawful).1 .server .client (fun _ => 0) id 64
    [⟨⟨1, 0, some 0, some 300⟩, some [65, 66], none, by decide, by decide⟩, ⟨⟨2, 0, none, none⟩, none, none, by decide, by decide⟩]
  refine ⟨s, hsend, hreceive.mpr fun m hm => ?_⟩
  rcases List.mem_cons.mp hm with rfl | hm
  · exact ⟨by decide, fun _ _ => rfl⟩
  · rw [List.mem_singleton.mp hm]
    exact ⟨by decide, fun _ _ => rfl⟩

/-- A header length of -1: the byte behind it goes to where no room is. -/
theorem negative_header_length_overruns :
    ∃ r ∈ (readMessage varintHeaders (2 ^ 20) (fun _ => .ready 3) ⟨[0xff, 0xff, 0xff, 0xff, 65], 0⟩).receipts,
      r.room < r.received :=
  ⟨⟨0, 1⟩, by decide, by decide⟩

end Ril.Mock
