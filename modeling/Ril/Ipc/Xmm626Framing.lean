import Ril.Ipc.Xmm626

/-! What is sent is received again, and which copies stay in their blocks. -/

namespace Ril.Ipc

open Lib

variable {format : SecModemFormat}

/-- Reads that do not fail, as many as there are bytes, of which the first brings the header at least. -/
structure Splits (headerSize : ℕ) (reads : List ReadEvent) (frame : Bytes) : Prop where
  ready : ∀ e ∈ reads, ∃ more, e = .ready more
  enough : frame.length ≤ reads.length
  first : ∃ more rest, reads = .ready more :: rest ∧ headerSize ≤ more + 1

/-- A first read that is copied from brings no more than its header declares. -/
def FirstReadFits (format : SecModemFormat) (reads : List ReadEvent) (stream : Bytes) : Prop :=
  ∀ event rest buffer, reads = event :: rest → readSocket event xmm626DataSize stream = .ok buffer →
    format.headerSize ≤ buffer.length → overLimit format (format.headerLength buffer) = false →
      format.headerSize < format.headerLength buffer → buffer.length ≤ format.headerLength buffer

lemma write_all_sent {writes : List ReadEvent} {p : Bytes} (h : (writeAll writes p).1 = .sent) :
    (writeAll writes p).2 = p := by
  induction writes generalizing p with
  | nil =>
    cases p with
    | nil => rfl
    | cons b p => cases h
  | cons event writes ih =>
    cases p with
    | nil => rfl
    | cons b p =>
      rw [writeAll] at h ⊢
      cases hr : readSocket event (p.length + 1) (b :: p) with
      | error errno =>
        rw [hr] at h
        cases h
      | ok data =>
        rw [hr] at h
        obtain ⟨-, hs⟩ := read_socket_ok hr
        dsimp only at h ⊢
        rw [ih h, hs]

/-- The reads that follow the first one ask for what is missing only. -/
lemma read_all_within (message : ModemMessage) (size : ℕ) (events : List ReadEvent) (data stream : Bytes) :
    ∀ c ∈ (readAll message size events data stream).2, c.Within := by
  induction events generalizing data stream with
  | nil =>
    rw [readAll]
    split
    · exact fun c hc => absurd hc List.not_mem_nil
    · exact fun c hc => absurd hc List.not_mem_nil
  | cons event events ih =>
    rw [readAll]
    split
    · exact fun c hc => absurd hc List.not_mem_nil
    · rename_i hlt
      dsimp only
      cases hr : readSocket event (size - data.length) stream with
      | error errno => exact fun c hc => absurd hc List.not_mem_nil
      | ok more =>
        obtain ⟨hle, -⟩ := read_socket_ok hr
        dsimp only
        split
        · exact fun c hc => absurd hc List.not_mem_nil
        · refine List.forall_mem_cons.mpr ⟨?_, ih _ _⟩
          rw [BlockCopy.Within]
          dsimp only
          omega

lemma ready_some {more count : ℕ} {stream : Bytes} (hc : 0 < count) (hs : stream ≠ []) :
    ∃ data, readSocket (.ready more) count stream = .ok data ∧ data.length ≠ 0 := by
  refine ⟨_, rfl, ?_⟩
  have hl := List.length_pos_iff.mpr hs
  rw [List.length_take]
  omega

lemma read_all_received (message : ModemMessage) {events : List ReadEvent} {data stream payload : Bytes}
    (hr : ∀ e ∈ events, ∃ more, e = ReadEvent.ready more) (hp : data ++ stream = payload)
    (hl : stream.length ≤ events.length) :
    (readAll message payload.length events data stream).1 = .received { message with data := payload } := by
  induction events generalizing data stream with
  | nil =>
    obtain rfl : stream = [] := List.length_eq_zero_iff.mp (Nat.le_zero.mp hl)
    obtain rfl : data = payload := by rw [← hp, List.append_nil]
    rw [readAll, if_pos (Nat.le_refl _), List.take_length]
  | cons event events ih =>
    obtain ⟨⟨more, rfl⟩, hrest⟩ := List.forall_mem_cons.mp hr
    have hlen : payload.length = data.length + stream.length := by rw [← hp, List.length_append]
    by_cases h0 : stream = []
    · obtain rfl := h0
      obtain rfl : data = payload := by rw [← hp, List.append_nil]
      rw [readAll, if_pos (Nat.le_refl _), List.take_length]
    · have hpos := List.length_pos_iff.mpr h0
      obtain ⟨got, hg, hne⟩ := @ready_some more (payload.length - data.length) stream (by omega) h0
      obtain ⟨-, hs⟩ := read_socket_ok hg
      rw [readAll, if_neg (by omega), hg]
      dsimp only
      rw [if_neg hne]
      refine ih hrest ?_ ?_
      · rw [List.append_assoc, hs, hp]
      · rw [List.length_cons] at hl
        rw [List.length_drop]
        omega

lemma recv_frame {m : ModemMessage} {reads : List ReadEvent} (hb : m.data.length + format.headerSize < format.lengthBound)
    (hlim : overLimit format (m.data.length + format.headerSize) = false)
    (hs : Splits format.headerSize reads (format.headerSetup m ++ m.data)) :
    (secModemRecv format reads (format.headerSetup m ++ m.data)).1 = .received (format.delivered m) := by
  obtain ⟨hready, henough, more, rest, rfl, hmore⟩ := hs
  obtain ⟨-, hrest⟩ := List.forall_mem_cons.mp hready
  have hh := format.header_length m
  have hmax := format.headerSize_le
  -- the first read splits the frame in its data
  set k := min (more + 1) xmm626DataSize with hk
  have hkh : format.headerSize ≤ k := by omega
  have hbuf : (format.headerSetup m ++ m.data).take k = format.headerSetup m ++ m.data.take (k - format.headerSize) := by
    rw [List.take_append, hh, List.take_of_length_le (by omega)]
  have hlength : format.headerLength ((format.headerSetup m ++ m.data).take k) = m.data.length + format.headerSize := by
    rw [hbuf, format.length_setup, Nat.mod_eq_of_lt hb]
  have hmessage : format.messageSetup ((format.headerSetup m ++ m.data).take k) =
      { format.delivered m with data := [] } := by rw [hbuf, format.message_setup]
  have hbl : format.headerSize ≤ ((format.headerSetup m ++ m.data).take k).length := by
    rw [hbuf, List.length_append, hh]
    omega
  rw [secModemRecv]
  dsimp only [readSocket]
  rw [if_neg (Nat.not_lt.mpr hbl), hlength, hlim, hmessage]
  simp only [Bool.false_eq_true, if_false]
  by_cases h0 : m.data.length = 0
  · rw [if_neg (by omega)]
    have hd : (format.delivered m).data = [] := by rw [format.delivered_data, List.length_eq_zero_iff.mp h0]
    rw [← hd]
  · rw [if_pos (by omega), Nat.add_sub_cancel]
    have hdata : ((format.headerSetup m ++ m.data).take k).drop format.headerSize ++
        (format.headerSetup m ++ m.data).drop ((format.headerSetup m ++ m.data).take k).length = m.data := by
      have h1 : (format.headerSetup m ++ m.data).drop ((format.headerSetup m ++ m.data).take k).length =
          (format.headerSetup m ++ m.data).drop k := by
        rw [List.length_take]
        rcases Nat.le_total k (format.headerSetup m ++ m.data).length with hle | hle
        · rw [Nat.min_eq_left hle]
        · rw [Nat.min_eq_right hle, List.drop_length, List.drop_of_length_le hle]
      have h2 : ((format.headerSetup m ++ m.data).take k).drop format.headerSize = m.data.take (k - format.headerSize) := by
        rw [hbuf, ← hh, List.drop_left]
      have h3 : (format.headerSetup m ++ m.data).drop k = m.data.drop (k - format.headerSize) := by
        rw [List.drop_append, hh, List.drop_of_length_le (by omega), List.nil_append]
      rw [h1, h2, h3, List.take_append_drop]
    have hl : ((format.headerSetup m ++ m.data).drop ((format.headerSetup m ++ m.data).take k).length).length ≤
        rest.length := by
      have hsize : xmm626DataSize = 4096 := rfl
      rw [List.length_cons, List.length_append, hh] at henough
      rw [List.length_drop, List.length_take, List.length_append, hh]
      omega
    have hr := read_all_received { format.delivered m with data := [] } hrest hdata hl
    rw [hr]
    dsimp only
    rw [← format.delivered_data]

lemma send_frame {m : ModemMessage} {writes : List ReadEvent} (hb : m.data.length + format.headerSize < format.lengthBound)
    (hs : (secModemSend format writes m).1 = .sent) :
    (secModemSend format writes m).2.1 = format.headerSetup m ++ m.data := by
  have hlen : format.headerLength (format.headerSetup m) = m.data.length + format.headerSize := by
    have h := format.length_setup m []
    rw [List.append_nil] at h
    rw [h, Nat.mod_eq_of_lt hb]
  have hp := write_all_sent hs
  have ht : (format.headerSetup m ++ m.data).take (m.data.length + format.headerSize) = format.headerSetup m ++ m.data := by
    refine List.take_of_length_le ?_
    rw [List.length_append, format.header_length]
    omega
  rw [hlen, ht] at hp
  rw [secModemSend, hlen, ht]
  exact hp

lemma send_within_iff (writes : List ReadEvent) (m : ModemMessage) :
    (∀ c ∈ (secModemSend format writes m).2.2, c.Within) ↔ m.data.length + format.headerSize < format.lengthBound := by
  have hlen : format.headerLength (format.headerSetup m) = (m.data.length + format.headerSize) % format.lengthBound := by
    have h := format.length_setup m []
    rwa [List.append_nil] at h
  have hlt := format.headerSize_lt
  rw [secModemSend]
  dsimp only
  rw [hlen, List.forall_mem_cons]
  by_cases hb : m.data.length + format.headerSize < format.lengthBound
  · rw [Nat.mod_eq_of_lt hb]
    refine iff_of_true ⟨?_, ?_⟩ hb
    · rw [BlockCopy.Within]
      dsimp only
      omega
    · split
      · refine List.forall_mem_singleton.mpr ?_
        rw [BlockCopy.Within]
        dsimp only
        omega
      · exact fun c hc => absurd hc List.not_mem_nil
  · refine iff_of_false (fun h => ?_) hb
    have hmod := Nat.mod_lt (m.data.length + format.headerSize) (Nat.zero_lt_of_lt hlt)
    have h2 := h.2
    rw [if_pos (by omega), List.forall_mem_singleton, BlockCopy.Within] at h2
    dsimp only at h2
    omega

lemma recv_within_iff (reads : List ReadEvent) (stream : Bytes) :
    (∀ c ∈ (secModemRecv format reads stream).2, c.Within) ↔ FirstReadFits format reads stream := by
  cases reads with
  | nil =>
    refine iff_of_true (fun c hc => absurd hc List.not_mem_nil) ?_
    intro event rest buffer he
    cases he
  | cons event rest =>
    rw [secModemRecv]
    dsimp only
    have hfits {buffer : Bytes} (hr : readSocket event xmm626DataSize stream = .ok buffer) :
        FirstReadFits format (event :: rest) stream ↔ (format.headerSize ≤ buffer.length →
          overLimit format (format.headerLength buffer) = false → format.headerSize < format.headerLength buffer →
            buffer.length ≤ format.headerLength buffer) := by
      constructor
      · exact fun h => h event rest buffer rfl hr
      · intro h event' rest' buffer' he hr'
        obtain ⟨rfl, rfl⟩ := List.cons.inj he
        obtain rfl : buffer = buffer' := Except.ok.inj (hr.symm.trans hr')
        exact h
    cases hr : readSocket event xmm626DataSize stream with
    | error errno =>
      refine iff_of_true (fun c hc => absurd hc List.not_mem_nil) ?_
      intro event' rest' buffer he hr'
      obtain ⟨rfl, rfl⟩ := List.cons.inj he
      rw [hr] at hr'
      cases hr'
    | ok buffer =>
      obtain ⟨hle, -⟩ := read_socket_ok hr
      have hfirst : (⟨xmm626DataSize, 0, buffer.length⟩ : BlockCopy).Within := by
        rw [BlockCopy.Within]
        dsimp only
        omega
      rw [hfits hr]
      dsimp only
      by_cases hh : buffer.length < format.headerSize
      · rw [if_pos hh]
        exact iff_of_true (List.forall_mem_singleton.mpr hfirst) fun h => absurd hh (Nat.not_lt.mpr h)
      · rw [if_neg hh]
        cases ho : overLimit format (format.headerLength buffer) with
        | true =>
          simp only [if_true]
          exact iff_of_true (List.forall_mem_singleton.mpr hfirst) fun _ h => absurd h (by decide)
        | false =>
          simp only [Bool.false_eq_true, if_false]
          by_cases hgt : format.headerLength buffer > format.headerSize
          · rw [if_pos hgt]
            have hrest := read_all_within (format.messageSetup buffer) (format.headerLength buffer - format.headerSize) rest
              (buffer.drop format.headerSize) (stream.drop buffer.length)
            simp only [List.cons_append, List.forall_mem_cons, List.forall_mem_append]
            by_cases hc : buffer.length - format.headerSize > 0
            · have hcopy : (⟨format.headerLength buffer - format.headerSize, 0, buffer.length - format.headerSize⟩ :
                  BlockCopy).Within ↔ buffer.length ≤ format.headerLength buffer := by
                rw [BlockCopy.Within]
                dsimp only
                omega
              rw [if_pos hc, List.forall_mem_singleton, hcopy]
              exact ⟨fun h _ _ _ => h.2.1, fun h => ⟨hfirst, h (Nat.le_of_not_lt hh) trivial hgt, hrest⟩⟩
            · rw [if_neg hc]
              refine iff_of_true ⟨hfirst, fun c hc => absurd hc List.not_mem_nil, hrest⟩ fun _ _ _ => ?_
              omega
          · rw [if_neg hgt]
            exact iff_of_true (List.forall_mem_singleton.mpr hfirst) fun _ _ h => absurd h hgt

/-- Over both formats: every message whose frame the length field can express (and the limit admits) is received as it
was sent, however the frame is split. A send stays in its buffer exactly for these lengths, and a receive exactly when
its first read brings no more than the header declares, where the header declares more than itself. -/
theorem xmm626_framing (writes reads : List ReadEvent) (m : ModemMessage) (stream : Bytes) :
    (m.data.length + 7 < 2 ^ 16 → (xmm626SecModemFmtSend writes m).1 = .sent →
      Splits 7 reads (xmm626SecModemFmtSend writes m).2.1 →
        (xmm626SecModemFmtRecv reads (xmm626SecModemFmtSend writes m).2.1).1 = .received m) ∧
    (m.data.length + 6 ≤ xmm626DataSizeLimit → ipcGroup m.command = ipcGroupRfs →
      (xmm626SecModemRfsSend writes m).1 = .sent → Splits 6 reads (xmm626SecModemRfsSend writes m).2.1 →
        (xmm626SecModemRfsRecv reads (xmm626SecModemRfsSend writes m).2.1).1 =
          .received ⟨0, m.mseq, m.command, 0, m.data⟩) ∧
    ((∀ c ∈ (xmm626SecModemFmtSend writes m).2.2, c.Within) ↔ m.data.length + 7 < 2 ^ 16) ∧
    ((∀ c ∈ (xmm626SecModemRfsSend writes m).2.2, c.Within) ↔ m.data.length + 6 < 2 ^ 32) ∧
    ((∀ c ∈ (xmm626SecModemFmtRecv reads stream).2, c.Within) ↔ FirstReadFits fmtFormat reads stream) ∧
    ((∀ c ∈ (xmm626SecModemRfsRecv reads stream).2, c.Within) ↔ FirstReadFits rfsFormat reads stream) := by
  refine ⟨fun hb hs hr => ?_, fun hb hg hs hr => ?_, @send_within_iff fmtFormat writes m,
    @send_within_iff rfsFormat writes m, @recv_within_iff fmtFormat reads stream, @recv_within_iff rfsFormat reads stream⟩
  · have hf := @send_frame fmtFormat m writes hb hs
    rw [xmm626SecModemFmtSend] at hr ⊢
    rw [hf] at hr ⊢
    exact recv_frame hb rfl hr
  · have hlim : xmm626DataSizeLimit = 524288 := rfl
    have hb' : m.data.length + rfsFormat.headerSize < rfsFormat.lengthBound :=
      Nat.lt_of_le_of_lt hb (by decide)
    have hover : overLimit rfsFormat (m.data.length + rfsFormat.headerSize) = false :=
      decide_eq_false (Nat.not_lt.mpr hb)
    have hf := @send_frame rfsFormat m writes hb' hs
    rw [xmm626SecModemRfsSend] at hr ⊢
    rw [hf] at hr ⊢
    have hcommand := ipc_command_eq m.command
    rw [hg] at hcommand
    have h := recv_frame hb' hover hr
    rw [xmm626SecModemRfsRecv, h]
    exact congrArg (fun c => RecvResult.received ⟨0, m.mseq, c, 0, m.data⟩) hcommand

/-- A message that is answered in two reads, of its header and its data -/
theorem xmm626_framing_two_reads :
    (xmm626SecModemFmtRecv ([.ready 6, .ready 1] ++ List.replicate 7 (.ready 0)) [0x09, 0x00, 0x01, 0xff, 0x08, 0x05, 0x02, 0x41, 0x42]).1 =
      .received ⟨0x01, 0xff, 0x0805, 0x02, [0x41, 0x42]⟩ := by
  have hs : (xmm626SecModemFmtSend [.ready 8] ⟨0x01, 0xff, 0x0805, 0x02, [0x41, 0x42]⟩).2.1 =
      [0x09, 0x00, 0x01, 0xff, 0x08, 0x05, 0x02, 0x41, 0x42] := by decide
  have h := (xmm626_framing [.ready 8] ([.ready 6, .ready 1] ++ List.replicate 7 (.ready 0))
    ⟨0x01, 0xff, 0x0805, 0x02, [0x41, 0x42]⟩ []).1 (by decide) (by decide) ⟨?_, by decide, _, _, rfl, by decide⟩
  · rwa [hs] at h
  · intro e he
    simp only [List.replicate, List.cons_append, List.nil_append, List.mem_cons, List.not_mem_nil, or_false] at he
    rcases he with rfl | rfl | rfl | rfl | rfl | rfl | rfl | rfl | rfl
    all_goals exact ⟨_, rfl⟩

/-- Two frames of eight bytes in one read: nine bytes are copied into a block of one. -/
theorem xmm626_framing_fails : ∃ c ∈ (xmm626SecModemFmtRecv [.ready 15]
    [0x08, 0x00, 0x01, 0xff, 0x08, 0x05, 0x02, 0x41, 0x08, 0x00, 0x02, 0xff, 0x08, 0x05, 0x02, 0x42]).2,
      c = ⟨1, 0, 9⟩ ∧ ¬c.Within := ⟨⟨1, 0, 9⟩, by decide, rfl, by decide⟩

end Ril.Ipc
