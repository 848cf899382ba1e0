import Ril.Librilutils.RecordBuffer

/-! The calls of a reader, one after the other. -/

namespace Ril.Librilutils

open Lib

-- the width of pointers and of `size_t`
variable (width : ℕ)

/-- All calls find records that end in the address space. -/
def FitsRun : List ReadEvent → RecordStream → Bytes → Prop
  | [], _, _ => True
  | event :: events, rs, stream => Fits width event rs stream ∧
      FitsRun events (recordStreamGetNext width event rs stream).2.1 (recordStreamGetNext width event rs stream).2.2

/-- What the calls have given out: the records of what was read, in their order, with nothing held back -/
structure Delivered (stream : Bytes) (seen : List Seen) (rs : RecordStream) (rest : Bytes) : Prop where
  parses : Parses nextRecord stream (seen.filterMap Seen.record?) (rs.window ++ rest)
  length_le : ∀ r ∈ seen.filterMap Seen.record?, r.length ≤ rs.maxRecordLen
  none_held : ∀ last, seen.getLast? = some last → last.record? = none → nextRecord rs.window = none

variable {width} {rs : RecordStream} {event : ReadEvent} {stream : Bytes}

lemma get_next_spec (h : Ordered width rs) (hf : Fits width event rs stream) :
    match ((recordStreamGetNext width event rs stream).1.seen
      (recordStreamGetNext width event rs stream).2.1.memory).record? with
    | some r => nextRecord (rs.window ++ stream) = some (r, (recordStreamGetNext width event rs stream).2.1.window ++
        (recordStreamGetNext width event rs stream).2.2) ∧ r.length ≤ rs.maxRecordLen
    | none => (recordStreamGetNext width event rs stream).2.1.window ++
        (recordStreamGetNext width event rs stream).2.2 = rs.window ++ stream ∧
          nextRecord (recordStreamGetNext width event rs stream).2.1.window = none := by
  obtain ⟨-, -, -, he⟩ := get_next_refines h hf
  obtain ⟨-, hs⟩ := @window_step_spec rs.capacity event rs.window stream h.window_le
  rw [← he] at hs
  dsimp only at hs ⊢
  cases hr : ((recordStreamGetNext width event rs stream).1.seen
      (recordStreamGetNext width event rs stream).2.1.memory).record? with
  | some r =>
    rw [hr] at hs
    have hle : r.length ≤ rs.maxRecordLen := by
      have hc := hs.2
      rw [RecordStream.capacity] at hc
      omega
    exact ⟨hs.1, hle⟩
  | none =>
    rw [hr] at hs
    exact hs

lemma run_delivered (events : List ReadEvent) (h : Ordered width rs) (hf : FitsRun width events rs stream) :
    Ordered width (recordStreamRun width events rs stream).2.1 ∧
    (recordStreamRun width events rs stream).2.1.maxRecordLen = rs.maxRecordLen ∧
    Delivered (rs.window ++ stream) (recordStreamRun width events rs stream).1
      (recordStreamRun width events rs stream).2.1 (recordStreamRun width events rs stream).2.2 := by
  induction events generalizing rs stream with
  | nil =>
    refine ⟨h, rfl, .nil _, ?_, ?_⟩
    · intro r hr
      cases hr
    · intro last hl
      cases hl
  | cons event events ih =>
    obtain ⟨hfe, hfs⟩ := hf
    obtain ⟨ho, hm, -⟩ := get_next_refines h hfe
    obtain ⟨ho', hm', hd⟩ := ih ho hfs
    have hspec := get_next_spec h hfe
    rw [recordStreamRun]
    refine ⟨ho', hm'.trans hm, ?_⟩
    have hnone : ∀ last, (((recordStreamGetNext width event rs stream).1.seen
        (recordStreamGetNext width event rs stream).2.1.memory) :: (recordStreamRun width events
          (recordStreamGetNext width event rs stream).2.1 (recordStreamGetNext width event rs stream).2.2).1).getLast? =
            some last → last.record? = none → nextRecord (recordStreamRun width events
              (recordStreamGetNext width event rs stream).2.1
                (recordStreamGetNext width event rs stream).2.2).2.1.window = none := by
      intro last hlast hr
      cases events with
      | nil =>
        rw [recordStreamRun, List.getLast?_singleton, Option.some.injEq] at hlast
        rw [hlast, hr] at hspec
        exact hspec.2
      | cons e es =>
        refine hd.none_held last ?_ hr
        rw [recordStreamRun, List.getLast?_cons_cons] at hlast
        rw [recordStreamRun]
        exact hlast
    refine ⟨?_, ?_, hnone⟩
    · cases hr : ((recordStreamGetNext width event rs stream).1.seen
          (recordStreamGetNext width event rs stream).2.1.memory).record? with
      | none =>
        rw [hr] at hspec
        rw [List.filterMap_cons_none hr, ← hspec.1]
        exact hd.parses
      | some r =>
        rw [hr] at hspec
        rw [List.filterMap_cons_some hr]
        exact .cons hspec.1 hd.parses
    · cases hr : ((recordStreamGetNext width event rs stream).1.seen
          (recordStreamGetNext width event rs stream).2.1.memory).record? with
      | none =>
        rw [List.filterMap_cons_none hr]
        exact hd.length_le
      | some r =>
        rw [hr] at hspec
        rw [List.filterMap_cons_some hr, List.forall_mem_cons]
        refine ⟨?_, hd.length_le⟩
        dsimp only
        rw [hm', hm]
        exact hspec.2

lemma record_stream_new_ordered {memory : ℕ → UInt8} {buffer maxRecordLen : ℕ}
    (hn : recordStreamNew memory buffer maxRecordLen = some rs) (hb : rs.bufferEnd < 2 ^ width) :
    Ordered width rs ∧ rs.window = [] ∧ rs.maxRecordLen = maxRecordLen := by
  rw [recordStreamNew] at hn
  split at hn
  · obtain rfl := Option.some.inj hn
    refine ⟨⟨Nat.le_refl _, Nat.le_refl _, ?_, ?_, hb⟩, ?_, rfl⟩
    · dsimp only
      omega
    · exact Nat.add_assoc _ _ _
    · rw [RecordStream.window, Nat.sub_self]
      rfl
  · cases hn

/-- As long as no declared length wraps a pointer around the address space: the pointers stay in order, the records
that were given out are those at the front of the stream, none longer than `maxRecordLen`, and a call without a record
leaves no complete one in the buffer. Where a longer one is announced, no call gives it out, and the calls fail with
`EFBIG` once the buffer is full. -/
theorem record_stream_parses (width : ℕ) (memory : ℕ → UInt8) (buffer maxRecordLen : ℕ) (rs rs' : RecordStream)
    (stream rest : Bytes) (events : List ReadEvent) (seen : List Seen)
    (hn : recordStreamNew memory buffer maxRecordLen = some rs) (hb : rs.bufferEnd < 2 ^ width)
    (hf : FitsRun width events rs stream) (hr : recordStreamRun width events rs stream = (seen, rs', rest)) :
    Ordered width rs' ∧ Delivered stream seen rs' rest ∧ rs'.maxRecordLen = maxRecordLen ∧
    ∀ n, declaredLength rs'.window = some n → maxRecordLen < n → ∀ event, Fits width event rs' rest →
      ∀ result rs'' rest', recordStreamGetNext width event rs' rest = (result, rs'', rest') →
        (∀ address length, result ≠ .record address length) ∧ declaredLength rs''.window = some n ∧
          (rs'.unconsumed = rs'.buffer → rs'.readEnd = rs'.bufferEnd → result = .failed .efbig) := by
  obtain ⟨ho, hw, hl⟩ := @record_stream_new_ordered width rs memory buffer maxRecordLen hn hb
  obtain ⟨ho', hm, hd⟩ := run_delivered events ho hf
  rw [hr] at ho' hm hd
  rw [hw, List.nil_append] at hd
  refine ⟨ho', hd, hm.trans hl, fun n hdecl hlong event hfits result rs'' rest' hcall => ?_⟩
  have hcap : rs'.capacity = maxRecordLen + headerSize := by rw [RecordStream.capacity, hm, hl]
  have hcap' : rs'.capacity < headerSize + n := by omega
  obtain ⟨-, -, -, he⟩ := get_next_refines ho' hfits
  obtain ⟨h1, h2, -⟩ := @window_step_too_long _ event _ rest n ho'.window_le hdecl hcap'
  rw [← he, hcall] at h1 h2
  refine ⟨?_, h2, fun hu hr => ?_⟩
  · rintro address length rfl
    cases h1
  · have hnone : nextRecord rs'.window = none := next_record_too_long hdecl (Nat.lt_of_le_of_lt ho'.window_le hcap')
    rw [recordStreamGetNext, next_record_none ho' hfits.1 hnone] at hcall
    dsimp only at hcall
    rw [if_pos ⟨hu, hr⟩] at hcall
    exact (congrArg Prod.fst hcall).symm

/-! ### An address space with room above the buffer -/

lemma declared_length_lt {s : Bytes} {n : ℕ} (h : declaredLength s = some n) : n < 2 ^ 32 := by
  match s, h with
  | a :: b :: c :: d :: s, h =>
    have h1 := a.toNat_lt
    have h2 := b.toNat_lt
    have h3 := c.toNat_lt
    have h4 := d.toNat_lt
    obtain rfl := Option.some.inj h
    omega

lemma no_wrap_of_room {address limit : ℕ} (ha : address ≤ limit) (h : limit + headerSize + 2 ^ 32 ≤ 2 ^ width)
    (bytes : Bytes) : NoWrap width address bytes := by
  rw [NoWrap]
  cases hd : declaredLength bytes with
  | none =>
    rw [Option.getD_none]
    omega
  | some n =>
    have hn := declared_length_lt hd
    rw [Option.getD_some]
    omega

/-- With pointers of 64 bits there is room, and nothing is asked of the stream. -/
lemma fits_run_of_room (events : List ReadEvent) (h : Ordered width rs)
    (hroom : rs.bufferEnd + headerSize + 2 ^ 32 ≤ 2 ^ width) : FitsRun width events rs stream := by
  induction events generalizing rs stream with
  | nil => trivial
  | cons event events ih =>
    have hle := Nat.le_trans h.unconsumed_le h.readEnd_le
    have hf : Fits width event rs stream := ⟨no_wrap_of_room hle hroom _,
      fun _ data _ => no_wrap_of_room (Nat.le_trans h.buffer_le hle) hroom _⟩
    obtain ⟨ho, hm, hb, -⟩ := get_next_refines h hf
    refine ⟨hf, ih ho ?_⟩
    rw [ho.bufferEnd_eq, hb, RecordStream.capacity, hm, ← RecordStream.capacity, ← h.bufferEnd_eq]
    exact hroom

/-- The buffer of a command socket -/
def commandBuffer (buffer : ℕ) : RecordStream := ⟨8192, buffer, buffer, buffer, buffer + 8192 + headerSize, fun _ => 0⟩

/-- A record of one byte that comes in two parts -/
theorem record_stream_parses_two_reads : Delivered [0x00, 0x00, 0x00, 0x01, 0x07, 0x00]
    [.failed .eagain, .record [0x07]]
    (recordStreamRun 64 [.ready 1, .ready 2] (commandBuffer 4096) [0x00, 0x00, 0x00, 0x01, 0x07, 0x00]).2.1 [0x00] :=
  (record_stream_parses 64 (fun _ => 0) 4096 8192 (commandBuffer 4096) _ [0x00, 0x00, 0x00, 0x01, 0x07, 0x00] [0x00]
    [.ready 1, .ready 2] _ (by rfl) (by decide) (fits_run_of_room _
      (@record_stream_new_ordered 64 (commandBuffer 4096) (fun _ => 0) 4096 8192 (by rfl) (by decide)).1 (by decide)) (by rfl)).2.1

/-- With pointers of 32 bits, the four bytes of a large length are taken for a record, which the buffer does not have,
and the stream goes on in front of the buffer. -/
theorem record_stream_parses_fails : recordStreamNew (fun _ => 0) 4096 8192 = some (commandBuffer 4096) ∧
    (recordStreamGetNext 32 (.ready 3) (commandBuffer 4096) [0xff, 0xff, 0xff, 0xf0]).1 = .record 4100 0xfffffff0 ∧
    (recordStreamGetNext 32 (.ready 3) (commandBuffer 4096) [0xff, 0xff, 0xff, 0xf0]).2.1.unconsumed <
      (recordStreamGetNext 32 (.ready 3) (commandBuffer 4096) [0xff, 0xff, 0xff, 0xf0]).2.1.buffer :=
  ⟨by rfl, by decide, by decide⟩

end Ril.Librilutils
