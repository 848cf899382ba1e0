import Ril.Reference.AtChannel

/-! The lines of what is received, and the next line of what is buffered. -/

namespace Ril.Reference

/-- The lines so far, and the one that has begun -/
abbrev Lines := List Bytes × Bytes

def lineByte (st : Lines) (b : UInt8) : Lines :=
  if isNewline b then (if st.2 = [] then st else (st.1 ++ [st.2], [])) else (st.1, st.2 ++ [b])

/-- A prompt that ends the received data is a line. -/
def lineChunk (st : Lines) (chunk : Bytes) : Lines :=
  let st := chunk.foldl lineByte st
  if st.2 = prompt then (st.1 ++ [st.2], []) else st

def linesOf (chunks : List Bytes) : Lines := chunks.foldl lineChunk ([], [])

def nextLine (s : Bytes) : Option (Bytes × Bytes) :=
  let s := s.dropWhile isNewline
  if s = prompt then some (s, [])
  else
    match s.dropWhile isInLine with
    | [] => none
    | _ :: rest => some (s.takeWhile isInLine, rest)

variable {s t r : Bytes}

lemma newlines_skipped (s : Bytes) : (s.dropWhile isNewline).dropWhile isNewline = s.dropWhile isNewline := by
  induction s with
  | nil => rfl
  | cons b s ih =>
    rw [List.dropWhile_cons]
    by_cases hb : isNewline b = true
    · rw [if_pos hb, ih]
    · rw [if_neg hb, List.dropWhile_cons, if_neg hb]

lemma next_line_skipped (s : Bytes) : nextLine (s.dropWhile isNewline) = nextLine s := by
  rw [nextLine, nextLine, newlines_skipped]

lemma fold_newlines (l : List Bytes) (s : Bytes) :
    s.foldl lineByte (l, []) = (s.dropWhile isNewline).foldl lineByte (l, []) := by
  induction s with
  | nil => rfl
  | cons b s ih =>
    rw [List.dropWhile_cons]
    by_cases hb : isNewline b = true
    · rw [if_pos hb, List.foldl_cons, ← ih, lineByte, if_pos hb]
      rfl
    · rw [if_neg hb]

lemma not_newline_of_in_line {b : UInt8} (h : isInLine b = true) : isNewline b = false := by
  rw [isInLine, Bool.and_eq_true, Bool.not_eq_true'] at h
  exact h.2

lemma fold_in_line (l : List Bytes) (t : Bytes) (h : ∀ b ∈ s, isInLine b = true) :
    s.foldl lineByte (l, t) = (l, t ++ s) := by
  induction s generalizing t with
  | nil => rw [List.foldl_nil, List.append_nil]
  | cons b s ih =>
    obtain ⟨hb, hs⟩ := List.forall_mem_cons.mp h
    rw [List.foldl_cons, lineByte, not_newline_of_in_line hb]
    refine (ih (t ++ [b]) hs).trans ?_
    rw [List.append_assoc, List.singleton_append]

lemma next_line_none (h : nextLine s = none) : s.dropWhile isNewline ≠ prompt ∧
    ∀ b ∈ s.dropWhile isNewline, isInLine b = true := by
  rw [nextLine] at h
  by_cases hp : s.dropWhile isNewline = prompt
  · rw [if_pos hp] at h
    cases h
  · rw [if_neg hp] at h
    refine ⟨hp, ?_⟩
    cases hd : (s.dropWhile isNewline).dropWhile isInLine with
    | nil =>
      rw [List.dropWhile_eq_nil_iff] at hd
      exact hd
    | cons b rest =>
      rw [hd] at h
      cases h

lemma next_line_some (h : nextLine s = some (t, r)) (hz : ∀ b ∈ s, b ≠ 0) :
    (s.dropWhile isNewline = prompt ∧ t = prompt ∧ r = []) ∨
    (s.dropWhile isNewline ≠ prompt ∧ ∃ b, isNewline b = true ∧ s.dropWhile isNewline = t ++ b :: r ∧
      t = (s.dropWhile isNewline).takeWhile isInLine ∧ t ≠ [] ∧ ∀ c ∈ t, isInLine c = true) := by
  rw [nextLine] at h
  by_cases hp : s.dropWhile isNewline = prompt
  · rw [if_pos hp, Option.some.injEq, Prod.mk.injEq] at h
    exact .inl ⟨hp, h.1.symm.trans hp, h.2.symm⟩
  · rw [if_neg hp] at h
    refine .inr ⟨hp, ?_⟩
    cases hd : (s.dropWhile isNewline).dropWhile isInLine with
    | nil =>
      rw [hd] at h
      cases h
    | cons b rest =>
      rw [hd] at h
      obtain ⟨rfl, rfl⟩ := Prod.mk.inj (Option.some.inj h)
      have hs : s.dropWhile isNewline = (s.dropWhile isNewline).takeWhile isInLine ++ b :: rest := by
        rw [← hd, List.takeWhile_append_dropWhile]
      have hb0 : b ≠ 0 := by
        have hm : b ∈ s.dropWhile isNewline := by
          rw [hs]
          exact List.mem_append_right _ List.mem_cons_self
        exact hz b ((List.dropWhile_sublist _).subset hm)
      have hbl : isInLine b = false := by
        have hh := List.head?_dropWhile_not isInLine (s.dropWhile isNewline)
        rw [hd] at hh
        exact hh
      have hb : isNewline b = true := by
        rw [isInLine, Bool.and_eq_false_iff, bne_eq_false_iff_eq, Bool.not_eq_false'] at hbl
        exact hbl.resolve_left hb0
      refine ⟨b, hb, hs, rfl, fun h0 => ?_, fun c hc => List.mem_takeWhile_imp hc⟩
      rw [h0, List.nil_append] at hs
      have hh := List.head?_dropWhile_not isNewline s
      rw [hs] at hh
      exact Bool.noConfusion (hb.symm.trans hh)

lemma line_chunk_append (h : nextLine s = none) (l : List Bytes) (c : Bytes) :
    lineChunk (lineChunk (l, []) s) c = lineChunk (l, []) (s ++ c) := by
  obtain ⟨hp, hl⟩ := next_line_none h
  have hf : s.foldl lineByte (l, []) = (l, s.dropWhile isNewline) := by
    rw [fold_newlines, fold_in_line l [] hl, List.nil_append]
  have hs : lineChunk (l, []) s = (l, s.dropWhile isNewline) := by
    rw [lineChunk, hf]
    exact if_neg hp
  rw [hs, lineChunk, lineChunk, List.foldl_append, hf]

lemma line_chunk_next (h : nextLine s = some (t, r)) (hz : ∀ b ∈ s, b ≠ 0) (l : List Bytes) :
    lineChunk (l, []) s = lineChunk (l ++ [t], []) r := by
  rcases next_line_some h hz with ⟨hp, rfl, rfl⟩ | ⟨-, b, hb, hs, -, ht, hl⟩
  · rw [lineChunk, fold_newlines, hp]
    rfl
  · have hf : s.foldl lineByte (l, []) = r.foldl lineByte (l ++ [t], []) := by
      rw [fold_newlines, hs, List.foldl_append, fold_in_line l [] hl, List.nil_append, List.foldl_cons, lineByte,
        if_pos hb, if_neg ht]
    rw [lineChunk, lineChunk, hf]

lemma lines_of_snoc (chunks : List Bytes) (c : Bytes) : linesOf (chunks ++ [c]) = lineChunk (linesOf chunks) c := by
  rw [linesOf, List.foldl_append]
  rfl

end Ril.Reference

/-! The lines that `readline` returns are those of what was received. -/

namespace Ril.Reference

open Lib

/-- What the buffer holds from the cursor on -/
def AtChannel.buffered (st : AtChannel) : Bytes := cString st.memory st.cur

def ReadLine.line? : ReadLine → Option Bytes
  | .line bytes => some bytes
  | .closed => none
  | .waits => none

/-! ### What is asked of a call -/

/-- Behind a prompt that ends the data the buffer has a zero: the cursor is put there. -/
def PromptSafe (memory : ℕ → UInt8) (dataEnd : ℕ) (s : Bytes) : Prop :=
  s.dropWhile isNewline = prompt → dataEnd < maxAtResponse ∧ memory (dataEnd + 1) = 0

/-- The reads of a call, of a buffer that holds `s` and is filled up to `pRead`: without a complete line it is not
full. -/
def RoomToRead (memory : ℕ → UInt8) : List ReadEvent → ℕ → Bytes → Bytes → Prop
  | [], _, _, _ => True
  | event :: events, pRead, s, stream => pRead < maxAtResponse ∧
    match readSocket event (maxAtResponse - pRead) stream with
    | .error .eintr => RoomToRead memory events pRead s stream
    | .error _ => True
    | .ok data => data.length ≠ 0 → PromptSafe memory (pRead + data.length) (s ++ data) ∧
        (nextLine (s ++ data) = none →
          RoomToRead memory events (pRead + data.length) (s ++ data) (stream.drop data.length))

def CallFits (events : List ReadEvent) (st : AtChannel) : Prop :=
  PromptSafe st.memory (st.cur + st.buffered.length) st.buffered ∧ (nextLine st.buffered = none →
    RoomToRead st.memory events (st.buffered.dropWhile isNewline).length st.buffered st.stream)

def CallsFit : ℕ → List ReadEvent → AtChannel → Prop
  | 0, _, _ => True
  | calls + 1, events, st =>
    CallFits events st ∧ CallsFit calls (readline events st).2.2 (readline events st).2.1

/-! ### The string at the cursor -/

variable {memory : ℕ → UInt8} {cur : ℕ} {s t r : Bytes} {st : AtChannel} {l : List Bytes}

lemma c_string_eq (h : HasString memory cur s) (hi : cur + s.length ≤ maxAtResponse) :
    strlen memory cur = s.length ∧ cString memory cur = s := by
  have hsteps : s.length ≤ stepsLeft cur := by
    rw [stepsLeft, atBufferSize]
    omega
  obtain ⟨hc, hz⟩ := has_string_iff.mp h
  have hlen : strlen memory cur = s.length := by
    have ht : s.takeWhile (· != 0) = s :=
      List.takeWhile_eq_self_iff.mpr fun b hb => bne_iff_ne.mpr (hz b hb)
    rw [strlen, h.scan rfl hsteps, ht, Nat.add_sub_cancel_left]
  refine ⟨hlen, ?_⟩
  have h2 := congrArg (List.take s.length) hc
  rw [cells_at_take (Nat.le_succ _), List.take_left] at h2
  rw [cString, hlen, h2]

lemma skip_newlines_eq (h : HasString memory cur s) (hi : cur + s.length ≤ maxAtResponse) :
    HasString memory (skipNewlines memory cur) (s.dropWhile isNewline) ∧
      skipNewlines memory cur + (s.dropWhile isNewline).length = cur + s.length := by
  have hsteps : s.length ≤ stepsLeft cur := by
    rw [stepsLeft, atBufferSize]
    omega
  have hs : skipNewlines memory cur = cur + (s.takeWhile isNewline).length := h.scan rfl hsteps
  have hl := congrArg List.length (List.takeWhile_append_dropWhile (p := isNewline) (l := s))
  rw [List.length_append] at hl
  rw [hs]
  exact ⟨h.skip isNewline, by omega⟩

lemma prompt_iff (h : HasString memory cur s) :
    memory cur = 0x3e ∧ memory (cur + 1) = 0x20 ∧ memory (cur + 2) = 0 ↔ s = prompt := by
  constructor
  · rintro ⟨h1, h2, h3⟩
    match s, h with
    | [], h => exact absurd (h1.symm.trans h) (by decide)
    | [a], h => exact absurd (h2.symm.trans h.2.2) (by decide)
    | [a, b], h => rw [prompt, ← h.1, ← h.2.2.1, h1, h2]
    | a :: b :: c :: s, h => exact absurd (h.2.2.2.2.1.symm.trans h3) h.2.2.2.2.2.1
  · rintro rfl
    exact ⟨h.1, h.2.2.1, h.2.2.2.2⟩

lemma find_next_eol_none (h : HasString memory cur (s.dropWhile isNewline))
    (hi : cur + (s.dropWhile isNewline).length ≤ maxAtResponse) (hn : nextLine s = none) :
    findNextEOL memory cur = none := by
  obtain ⟨hp, hl⟩ := next_line_none hn
  have hsteps : (s.dropWhile isNewline).length ≤ stepsLeft cur := by
    rw [stepsLeft, atBufferSize]
    omega
  have ht : (s.dropWhile isNewline).takeWhile isInLine = s.dropWhile isNewline :=
    List.takeWhile_eq_self_iff.mpr hl
  have hs : HasString memory (cur + (s.dropWhile isNewline).length) [] := by
    refine HasString.suffix ?_
    rw [List.append_nil]
    exact h
  rw [findNextEOL, if_neg (fun he => hp ((prompt_iff h).mp he)), h.scan rfl hsteps, ht]
  exact if_pos hs

lemma take_line_eq (h : HasString st.memory st.cur (s.dropWhile isNewline))
    (hi : st.cur + (s.dropWhile isNewline).length ≤ maxAtResponse) (hz : ∀ b ∈ s, b ≠ 0)
    (hn : nextLine s = some (t, r))
    (hsafe : PromptSafe st.memory (st.cur + (s.dropWhile isNewline).length) s) :
    ∃ eol, findNextEOL st.memory st.cur = some eol ∧ (takeLine st eol).1 = .line t ∧
      HasString (takeLine st eol).2.memory (eol + 1) r ∧ eol + 1 + r.length ≤ maxAtResponse ∧
      (eol + 1 + r.length = st.cur + (s.dropWhile isNewline).length ∨
        r = [] ∧ eol = st.cur + (s.dropWhile isNewline).length ∧ t = prompt) := by
  rcases next_line_some hn hz with ⟨hp, rfl, rfl⟩ | ⟨hp, b, hb, hs, ht, -, hl⟩
  · obtain ⟨hlt, hzero⟩ := hsafe hp
    have hlen : (s.dropWhile isNewline).length = 2 := by
      rw [hp]
      rfl
    rw [hlen] at hlt hzero hi ⊢
    rw [hp] at h
    refine ⟨st.cur + 2, if_pos ((prompt_iff h).mpr rfl), ?_, ?_, ?_, .inr ⟨rfl, rfl, rfl⟩⟩
    · have hsame : Function.update st.memory (st.cur + 2) 0 = st.memory := by
        rw [Function.update_eq_self_iff]
        exact h.2.2.2.2.symm
      rw [takeLine]
      dsimp only
      rw [hsame]
      exact congrArg ReadLine.line (c_string_eq h hi).2
    · rw [takeLine]
      refine (Function.update_of_ne (by omega) _ _).trans hzero
    · rw [List.length_nil]
      omega
  · have hsteps : (s.dropWhile isNewline).length ≤ stepsLeft st.cur := by
      rw [stepsLeft, atBufferSize]
      omega
    have hlen := congrArg List.length hs
    rw [List.length_append, List.length_cons] at hlen
    have h' := h
    rw [hs] at h'
    obtain ⟨hcut, hrest⟩ := h'.cut
    have hsuf := h'.suffix
    refine ⟨st.cur + t.length, ?_, ?_, hrest, by omega, .inl (by omega)⟩
    · rw [findNextEOL, if_neg (fun he => hp ((prompt_iff h).mp he)), h.scan rfl hsteps, ← ht]
      exact if_neg fun h0 => hsuf.2.1 (hsuf.1.symm.trans h0)
    · rw [takeLine]
      exact congrArg ReadLine.line (c_string_eq hcut (by omega)).2

end Ril.Reference
