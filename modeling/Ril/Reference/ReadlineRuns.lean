import Ril.Reference.Readline

/-! Calls of `readline`, one after the other. -/

namespace Ril.Reference

open Lib

/-- After the lines `l`, of the stream that was there at first, the buffer holds `s`. -/
structure Reached (stream : Bytes) (l : List Bytes) (st : AtChannel) (s : Bytes) : Prop where
  string : HasString st.memory st.cur s
  inside : st.cur + s.length ≤ maxAtResponse
  no_nul : ∀ b ∈ st.stream, b ≠ 0
  lines : linesOf st.received = lineChunk (l, []) s
  received : st.received.flatten ++ st.stream = stream
  cursor : st.cur + s.length = st.dataEnd ∨ s = [] ∧ st.cur = st.dataEnd + 1 ∧ l.getLast? = some prompt

variable {stream : Bytes} {l : List Bytes} {st : AtChannel} {s t : Bytes}

lemma Reached.buffered_eq (h : Reached stream l st s) : st.buffered = s := (c_string_eq h.string h.inside).2

/-- What a call leaves behind it. -/
def Returned (stream : Bytes) (l : List Bytes) (result : ReadLine × AtChannel × List ReadEvent) : Prop :=
  ∃ s, Reached stream (l ++ result.1.line?.toList) result.2.1 s ∧ (result.1.line? = none → nextLine s = none)

lemma read_more_returned {memory : ℕ → UInt8} (events : List ReadEvent) {pRead : ℕ}
    (h : HasString st.memory st.cur (s.dropWhile isNewline)) (hp : st.cur + (s.dropWhile isNewline).length = pRead)
    (he : st.dataEnd = pRead) (hm : ∀ a, pRead < a → st.memory a = memory a) (hi : pRead ≤ maxAtResponse)
    (hz : ∀ b ∈ s, b ≠ 0) (hn : nextLine s = none) (hs : ∀ b ∈ st.stream, b ≠ 0)
    (hlines : linesOf st.received = lineChunk (l, []) s) (hrec : st.received.flatten ++ st.stream = stream)
    (hroom : RoomToRead memory events pRead s st.stream) : Returned stream l (readMore events st pRead) := by
  have hstay : Reached stream (l ++ ([] : List Bytes)) st (s.dropWhile isNewline) := by
    rw [List.append_nil]
    refine ⟨h, by omega, hs, ?_, hrec, .inl (hp.trans he.symm)⟩
    rw [hlines, lineChunk, lineChunk, fold_newlines]
  have hnone : nextLine (s.dropWhile isNewline) = none := (next_line_skipped s).trans hn
  induction events generalizing st s pRead with
  | nil => exact ⟨s.dropWhile isNewline, hstay, fun _ => hnone⟩
  | cons event events ih =>
    obtain ⟨hlt, hroom⟩ := hroom
    have hfull : ¬maxAtResponse - pRead = 0 := by omega
    rw [readMore]
    simp only [if_neg hfull]
    cases hr : readSocket event (maxAtResponse - pRead) st.stream with
    | error errno =>
      rw [hr] at hroom
      cases errno with
      | eintr => exact ih h hp he hm hi hz hn hs hlines hrec hroom hstay hnone
      | eagain => exact ⟨s.dropWhile isNewline, hstay, fun _ => hnone⟩
      | efbig => exact ⟨s.dropWhile isNewline, hstay, fun _ => hnone⟩
      | econnreset => exact ⟨s.dropWhile isNewline, hstay, fun _ => hnone⟩
    | ok data =>
      rw [hr] at hroom
      obtain ⟨hle, hsplit⟩ := read_socket_ok hr
      dsimp only
      by_cases h0 : data.length = 0
      · rw [if_pos h0]
        exact ⟨s.dropWhile isNewline, hstay, fun _ => hnone⟩
      · rw [if_neg h0]
        obtain ⟨hsafe, hroom⟩ := hroom h0
        have hzd : ∀ b ∈ data, b ≠ 0 := fun b hb => hs b (hsplit ▸ List.mem_append_left _ hb)
        have hza : ∀ b ∈ s ++ data, b ≠ 0 := by
          intro b hb
          rcases List.mem_append.mp hb with hb | hb
          · exact hz b hb
          · exact hzd b hb
        have hext := h.extend hzd
        rw [hp] at hext
        have hdrop : (s.dropWhile isNewline ++ data).dropWhile isNewline = (s ++ data).dropWhile isNewline := by
          rw [List.dropWhile_append, List.dropWhile_append, newlines_skipped]
        obtain ⟨hskip, hcur⟩ := skip_newlines_eq hext (by rw [List.length_append]; omega)
        rw [hdrop] at hskip hcur
        rw [List.length_append, ← Nat.add_assoc, hp] at hcur
        set next : AtChannel :=
          { memory := Function.update (storeAt st.memory pRead data) (pRead + data.length) 0
            cur := skipNewlines (Function.update (storeAt st.memory pRead data) (pRead + data.length) 0) st.cur
            dataEnd := pRead + data.length
            stream := st.stream.drop data.length
            received := st.received ++ [data] } with hnext
        have hm' : ∀ a, pRead + data.length < a → next.memory a = memory a := by
          intro a ha
          rw [← hm a (by omega)]
          exact (Function.update_of_ne (by omega) _ _).trans (store_at_outside (by omega))
        have hlines' : linesOf next.received = lineChunk (l, []) (s ++ data) := by
          rw [hnext, lines_of_snoc, hlines, line_chunk_append hn]
        have hrec' : next.received.flatten ++ next.stream = stream := by
          rw [hnext, ← hrec, List.flatten_append, List.flatten_singleton, List.append_assoc, hsplit]
        have hs' : ∀ b ∈ next.stream, b ≠ 0 := fun b hb => hs b (List.drop_subset _ _ hb)
        have hi' : pRead + data.length ≤ maxAtResponse := by omega
        cases hnl : nextLine (s ++ data) with
        | none =>
          have hstay' : Reached stream (l ++ ([] : List Bytes)) next ((s ++ data).dropWhile isNewline) := by
            rw [List.append_nil]
            refine ⟨hskip, (Nat.le_of_eq hcur).trans hi', hs', ?_, hrec', .inl hcur⟩
            rw [hlines', lineChunk, lineChunk, fold_newlines]
          have hnone' : nextLine ((s ++ data).dropWhile isNewline) = none := (next_line_skipped _).trans hnl
          rw [find_next_eol_none hskip ((Nat.le_of_eq hcur).trans hi') hnl]
          exact ih hskip hcur rfl hm' hi' hza hnl hs' hlines' hrec' (hroom hnl) hstay' hnone'
        | some p =>
          obtain ⟨t, r⟩ := p
          have hsafe' : PromptSafe next.memory (next.cur + ((s ++ data).dropWhile isNewline).length) (s ++ data) := by
            intro hpr
            obtain ⟨h1, h2⟩ := hsafe hpr
            have h3 : next.cur + ((s ++ data).dropWhile isNewline).length = pRead + data.length := hcur
            rw [h3, hm' _ (Nat.lt_succ_self _)]
            exact ⟨h1, h2⟩
          obtain ⟨eol, hfind, hline, hrest, hin, hend⟩ := take_line_eq hskip ((Nat.le_of_eq hcur).trans hi') hza hnl hsafe'
          rw [hfind]
          refine ⟨r, ⟨hrest, hin, hs', ?_, hrec', ?_⟩, ?_⟩
          · rw [hline]
            exact hlines'.trans (line_chunk_next hnl hza l)
          · rcases hend with hend | ⟨hr0, heol, ht⟩
            · exact .inl (hend.trans hcur)
            · refine .inr ⟨hr0, ?_, ?_⟩
              · exact congrArg (· + 1) (heol.trans hcur)
              · rw [hline, ht]
                exact List.getLast?_concat
          · rw [hline]
            intro hnone
            cases hnone

/-- A call that fits goes on from what is buffered. -/
lemma readline_returned (events : List ReadEvent) (h : Reached stream l st s) (hf : CallFits events st) :
    Returned stream l (readline events st) := by
  have hb := h.buffered_eq
  obtain ⟨hsafe, hroom⟩ := hf
  rw [hb] at hsafe hroom
  have hz := (has_string_iff.mp h.string).2
  rw [readline]
  by_cases h0 : st.memory st.cur = 0
  · obtain rfl := h.string.zero_iff.mp h0
    rw [if_pos h0]
    have hstr : HasString (ditch st).memory 0 [] := by
      rw [HasString, ditch]
      dsimp only
      rw [Function.update_self]
    exact read_more_returned events (s := []) hstr rfl rfl
      (fun a ha => Function.update_of_ne (Nat.ne_of_gt ha) _ _) (Nat.zero_le _) hz rfl h.no_nul h.lines h.received (hroom rfl)
  · have hend : st.cur + s.length = st.dataEnd := by
      rcases h.cursor with hc | ⟨hs, -⟩
      · exact hc
      · exact absurd (h.string.zero_iff.mpr hs) h0
    obtain ⟨hskip, hcur⟩ := skip_newlines_eq h.string h.inside
    have hin : skipNewlines st.memory st.cur + (s.dropWhile isNewline).length ≤ maxAtResponse :=
      (Nat.le_of_eq hcur).trans h.inside
    rw [if_neg h0]
    dsimp only
    cases hnl : nextLine s with
    | none =>
      obtain ⟨hlen, -⟩ := c_string_eq hskip hin
      rw [find_next_eol_none hskip hin hnl]
      dsimp only
      rw [hlen]
      refine read_more_returned events (hskip.move 0) (Nat.zero_add _) rfl (fun a ha => ?_) (by omega) hz hnl h.no_nul
        h.lines h.received (hroom hnl)
      refine store_at_outside (.inr ?_)
      rw [cells_at_length]
      omega
    | some p =>
      obtain ⟨t, r⟩ := p
      have hsafe' : PromptSafe st.memory (skipNewlines st.memory st.cur + (s.dropWhile isNewline).length) s := by
        rw [hcur]
        exact hsafe
      obtain ⟨eol, hfind, hline, hrest, hin', hend'⟩ := @take_line_eq s t r
        { st with cur := skipNewlines st.memory st.cur } hskip hin hz hnl hsafe'
      rw [hfind]
      refine ⟨r, ⟨hrest, hin', h.no_nul, ?_, h.received, ?_⟩, ?_⟩
      · rw [hline]
        exact h.lines.trans (line_chunk_next hnl hz l)
      · rcases hend' with hend' | ⟨hr0, heol, ht⟩
        · exact .inl (hend'.trans (hcur.trans hend))
        · refine .inr ⟨hr0, ?_, ?_⟩
          · exact congrArg (· + 1) (heol.trans (hcur.trans hend))
          · rw [hline, ht]
            exact List.getLast?_concat
      · rw [hline]
        intro hnone
        cases hnone

lemma readline_run_reached (calls : ℕ) (events : List ReadEvent) (h : Reached stream l st st.buffered)
    (hf : CallsFit calls events st) :
    Reached stream (l ++ (readlineRun calls events st).1.filterMap ReadLine.line?) (readlineRun calls events st).2.1
      (readlineRun calls events st).2.1.buffered ∧
    ∀ last, (readlineRun calls events st).1.getLast? = some last → last.line? = none →
      nextLine (readlineRun calls events st).2.1.buffered = none := by
  induction calls generalizing events st l with
  | zero =>
    refine ⟨?_, fun last hl => ?_⟩
    · rw [readlineRun, List.filterMap_nil, List.append_nil]
      exact h
    · cases hl
  | succ calls ih =>
    obtain ⟨hc, hcs⟩ := hf
    obtain ⟨s', hr, hn⟩ := readline_returned events h hc
    obtain rfl := hr.buffered_eq
    obtain ⟨hr', hn'⟩ := ih (readline events st).2.2 hr hcs
    rw [readlineRun]
    refine ⟨?_, fun last hlast hnone => ?_⟩
    · rw [List.append_assoc] at hr'
      have hl : (readline events st).1.line?.toList ++ (readlineRun calls (readline events st).2.2
          (readline events st).2.1).1.filterMap ReadLine.line? = ((readline events st).1 :: (readlineRun calls
            (readline events st).2.2 (readline events st).2.1).1).filterMap ReadLine.line? := by
        cases hline : (readline events st).1.line? with
        | none =>
          rw [List.filterMap_cons_none hline]
          rfl
        | some t =>
          rw [List.filterMap_cons_some hline]
          rfl
      rw [← hl]
      exact hr'
    · cases calls with
      | zero =>
        rw [readlineRun, List.getLast?_singleton, Option.some.injEq] at hlast
        rw [← hlast] at hnone
        exact hn hnone
      | succ calls =>
        refine hn' last ?_ hnone
        rw [readlineRun, List.getLast?_cons_cons] at hlast
        rw [readlineRun]
        exact hlast

lemma at_channel_reached (hz : ∀ b ∈ stream, b ≠ 0) :
    Reached stream [] (atChannel stream) (atChannel stream).buffered :=
  ⟨rfl, Nat.zero_le _, hz, rfl, rfl, .inl rfl⟩

/-- As long as a prompt that ends the data has a zero behind it, and the buffer is not full without a complete line: the
lines returned so far, with those that are buffered, are the lines of what was received; a call that returns none leaves
none in the buffer. The cursor is at most at the end of the data, unless the last line was a prompt. -/
theorem readline_lines (calls : ℕ) (events rest : List ReadEvent) (stream : Bytes) (results : List ReadLine)
    (st : AtChannel) (hz : ∀ b ∈ stream, b ≠ 0) (hf : CallsFit calls events (atChannel stream))
    (hr : readlineRun calls events (atChannel stream) = (results, st, rest)) :
    st.received.flatten ++ st.stream = stream ∧
    linesOf st.received = lineChunk (results.filterMap ReadLine.line?, []) st.buffered ∧
    (∀ last, results.getLast? = some last → last.line? = none →
      (linesOf st.received).1 = results.filterMap ReadLine.line?) ∧
    st.cur + st.buffered.length ≤ maxAtResponse ∧
    ((results.filterMap ReadLine.line?).getLast? ≠ some prompt → st.cur + st.buffered.length = st.dataEnd) := by
  obtain ⟨h, hn⟩ := readline_run_reached calls events (at_channel_reached hz) hf
  rw [hr, List.nil_append] at h
  rw [hr] at hn
  refine ⟨h.received, h.lines, fun last hlast hnone => ?_, h.inside, fun hp => ?_⟩
  · have hnl := hn last hlast hnone
    obtain ⟨hp, hl⟩ := next_line_none hnl
    have hfold : st.buffered.foldl lineByte (results.filterMap ReadLine.line?, []) =
        (results.filterMap ReadLine.line?, st.buffered.dropWhile isNewline) := by
      rw [fold_newlines, fold_in_line _ [] hl, List.nil_append]
    rw [h.lines, lineChunk, hfold]
    exact congrArg Prod.fst (if_neg hp)
  · rcases h.cursor with hc | ⟨-, -, hlast⟩
    · exact hc
    · exact absurd hlast hp

/-- Two lines, a prompt, and two reads -/
def promptStream : Bytes := [0x41, 0x41, 0x41, 0x41, 0x41, 0x0d, 0x3e, 0x20, 0x4f, 0x4b, 0x0d]

/-- A line in two reads, and nothing of the rest -/
theorem readline_lines_split : (linesOf [[0x41, 0x54], [0x0d]]).1 = [[0x41, 0x54]] := by
  have hline : nextLine [0x41, 0x54, 0x0d] ≠ none := by decide
  have hread : RoomToRead (fun _ => 0) [.ready 1, .ready 1] 0 [] [0x41, 0x54, 0x0d] := by
    refine And.intro (by decide) fun _ => And.intro (fun h => absurd h (by decide)) fun _ => ?_
    exact And.intro (by decide) fun _ => And.intro (fun h => absurd h (by decide)) fun h => absurd h hline
  refine (readline_lines 2 [.ready 1, .ready 1] [] [0x41, 0x54, 0x0d] [.line [0x41, 0x54], .waits] _ (by simp) ?_
    (by rfl)).2.2.1 .waits rfl rfl
  exact ⟨⟨fun h => absurd h (by decide), fun _ => hread⟩, ⟨fun h => absurd h (by decide), fun _ => trivial⟩, trivial⟩

/-- The byte behind the zero of a prompt belongs to an earlier line, and the next line begins with it. -/
theorem readline_lines_fails :
    (readlineRun 4 [.ready 5, .ready 1, .ready 2] (atChannel promptStream)).1 =
      [.line [0x41, 0x41, 0x41, 0x41, 0x41], .line prompt, .line [0x41, 0x41, 0x4f, 0x4b], .waits] ∧
    (readlineRun 2 [.ready 5, .ready 1] (atChannel promptStream)).2.1.cur =
      (readlineRun 2 [.ready 5, .ready 1] (atChannel promptStream)).2.1.dataEnd + 1 ∧
    (linesOf [[0x41, 0x41, 0x41, 0x41, 0x41, 0x0d], prompt, [0x4f, 0x4b, 0x0d]]).1 =
      [[0x41, 0x41, 0x41, 0x41, 0x41], prompt, [0x4f, 0x4b]] := by decide +kernel

end Ril.Reference
