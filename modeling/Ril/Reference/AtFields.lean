import Mathlib.Data.List.Forall2
import Ril.Reference.AtLine

/-! A line of fields, and what the tokenizer takes of it. -/

namespace Ril.Reference

open Lib

/-- A string in quotes, or one without them, that is not empty. Neither has a zero. -/
inductive AtField
  | quoted (s : Bytes) (inside : ∀ b ∈ s, b ≠ quote ∧ b ≠ 0)
  | plain (b : UInt8) (s : Bytes) (first : isspace b = false ∧ b ≠ quote) (inside : ∀ c ∈ b :: s, c ≠ comma ∧ c ≠ 0)

namespace AtField

def value : AtField → Bytes
  | quoted s _ => s
  | plain b s _ _ => b :: s

def text : AtField → Bytes
  | quoted s _ => quote :: s ++ [quote]
  | plain b s _ _ => b :: s

end AtField

structure SpacedField where
  spaces : Bytes
  blank : ∀ b ∈ spaces, isspace b = true
  field : AtField

def SpacedField.text (f : SpacedField) : Bytes := f.spaces ++ f.field.text

def joinFields : List SpacedField → Bytes
  | [] => []
  | [f] => f.text
  | f :: fs => f.text ++ comma :: joinFields fs

/-- The prefix, which has no colon, the colon and the fields -/
def fieldsLine (name : Bytes) (fields : List SpacedField) : Bytes := name ++ colon :: joinFields fields

section

variable {s rest : Bytes} {fs : List SpacedField}

lemma take_while_before {p : UInt8 → Bool} {b : UInt8} (hs : ∀ c ∈ s, p c = true) (hb : p b = false) :
    (s ++ b :: rest).takeWhile p = s ∧ (s ++ b :: rest).dropWhile p = b :: rest := by
  rw [List.takeWhile_append_of_pos hs, List.dropWhile_append_of_pos hs, List.takeWhile_cons, List.dropWhile_cons, hb]
  simp

lemma strsep_before {delim : UInt8} (hs : ∀ c ∈ s, c ≠ delim) :
    strsep delim (some (s ++ delim :: rest)) = (some s, some rest) := by
  have hnot : ∀ c ∈ s, (c != delim) = true := fun c hc => by simpa using hs c hc
  obtain ⟨ht, hd⟩ : (s ++ delim :: rest).takeWhile (· != delim) = s ∧ (s ++ delim :: rest).dropWhile (· != delim) = delim :: rest :=
    take_while_before hnot (by simp)
  rw [strsep, ht, hd]

lemma strsep_last {delim : UInt8} (hs : ∀ c ∈ s, c ≠ delim) : strsep delim (some s) = (some s, none) := by
  have ht : s.takeWhile (· != delim) = s := List.takeWhile_eq_self_iff.mpr fun c hc => by simpa using hs c hc
  have hd : s.dropWhile (· != delim) = [] := List.dropWhile_eq_nil_iff.mpr fun c hc => by simpa using hs c hc
  rw [strsep, ht, hd]

lemma text_starts (f : AtField) : ∃ b t, f.text = b :: t ∧ isspace b = false := by
  cases f with
  | quoted s inside => exact ⟨quote, s ++ [quote], rfl, rfl⟩
  | plain b s first inside => exact ⟨b, s, rfl, first.1⟩

lemma skip_spaces (f : SpacedField) (rest : Bytes) :
    (f.text ++ rest).dropWhile isspace = f.field.text ++ rest := by
  obtain ⟨b, t, hb, hspace⟩ := text_starts f.field
  rw [SpacedField.text, List.append_assoc, List.dropWhile_append_of_pos f.blank, hb, List.cons_append,
    List.dropWhile_cons_of_neg (by rw [hspace]; exact Bool.false_ne_true)]

/-- The token of the first of several fields. The cursor is then behind its comma. -/
lemma next_tok_field (f : SpacedField) (rest : Bytes) :
    nextTok (some (f.text ++ comma :: rest)) = (some f.field.value, some rest) := by
  rw [nextTok, skipWhiteSpace, Option.map_some, skip_spaces]
  cases f.field with
  | quoted s inside =>
    have hs : ∀ c ∈ s, c ≠ quote := fun c hc => (inside c hc).1
    have happ : s ++ [quote] ++ comma :: rest = s ++ quote :: comma :: rest := by rw [List.append_assoc]; rfl
    rw [AtField.text, List.cons_append, List.cons_append]
    dsimp only
    rw [if_pos (beq_self_eq_true quote), happ, strsep_before hs]
    rfl
  | plain b s first inside =>
    rw [AtField.text, List.cons_append]
    dsimp only
    rw [if_neg (by simpa using first.2), ← List.cons_append, strsep_before fun c hc => (inside c hc).1]
    rfl

/-- Behind the last field there is nothing more, or there is no string. -/
lemma next_tok_last_field (f : SpacedField) : ∃ c, nextTok (some f.text) = (some f.field.value, c) ∧ c.getD [] = [] := by
  have hskip := skip_spaces f []
  rw [List.append_nil, List.append_nil] at hskip
  rw [nextTok, skipWhiteSpace, Option.map_some, hskip]
  cases f.field with
  | quoted s inside =>
    have hs : ∀ c ∈ s, c ≠ quote := fun c hc => (inside c hc).1
    rw [AtField.text, List.cons_append]
    dsimp only
    rw [if_pos (beq_self_eq_true quote), strsep_before hs]
    exact ⟨_, rfl, rfl⟩
  | plain b s first inside =>
    rw [AtField.text]
    dsimp only
    rw [if_neg (by simpa using first.2), strsep_last fun c hc => (inside c hc).1]
    exact ⟨_, rfl, rfl⟩

lemma join_ne_nil (f : SpacedField) (fs : List SpacedField) : joinFields (f :: fs) ≠ [] := by
  obtain ⟨b, t, hb, -⟩ := text_starts f.field
  have htext : f.text ≠ [] := by
    rw [SpacedField.text, hb]
    simp
  cases fs with
  | nil => exact htext
  | cons g gs => exact fun h => htext (List.append_eq_nil_iff.mp h).1

lemma join_nonzero (fields : List SpacedField) : ∀ b ∈ joinFields fields, b ≠ 0 := by
  have htext : ∀ f : SpacedField, ∀ b ∈ f.text, b ≠ 0 := by
    intro f b hb
    rcases List.mem_append.mp hb with hb | hb
    · rintro rfl
      exact absurd (f.blank 0 hb) (by decide)
    · cases hf : f.field with
      | quoted s inside =>
        rw [hf] at hb
        rcases List.mem_append.mp hb with hb | hb
        · rcases List.mem_cons.mp hb with rfl | hb
          · decide
          · exact (inside b hb).2
        · obtain rfl := List.mem_singleton.mp hb
          decide
      | plain c s first inside =>
        rw [hf] at hb
        exact (inside b hb).2
  induction fields with
  | nil => exact fun _ h => by cases h
  | cons f fs ih =>
    cases fs with
    | nil => exact htext f
    | cons g gs =>
      intro b hb
      rcases List.mem_append.mp hb with hb | hb
      · exact htext f b hb
      · rcases List.mem_cons.mp hb with rfl | hb
        · decide
        · exact ih b hb

namespace AtLine

variable {l : AtLine} {c : Option Bytes}

/-- Each round takes the next field, and the loop ends behind the last one. What was taken before stays in its place. -/
lemma take_all_fields (h : Shows l c) (hc : c.getD [] = joinFields fs) :
    ∃ ps l', (∀ n, fs.length ≤ n → l.takeAll (List.replicate n .nextstr) = some (ps, l')) ∧ Keeps l l' ∧
      List.Forall₂ (fun p f => Token l' p f.field.value) ps fs := by
  induction fs generalizing l c with
  | nil =>
    refine ⟨[], l, fun n _ => take_all_done _ ?_, .refl l, .nil⟩
    have hnone : atTokHasmore c = false := by
      rw [atTokHasmore, hc]
      rfl
    rw [has_more_shows h, hnone]
  | cons f fs ih =>
    have hne := join_ne_nil f fs
    cases c with
    | none => exact absurd hc.symm hne
    | some s =>
      obtain rfl : s = joinFields (f :: fs) := hc
      have hmore : atTokHasmore (some (joinFields (f :: fs))) = true := by
        rw [atTokHasmore, Option.getD_some]
        simpa using hne
      obtain ⟨rest, htok, hrest⟩ : ∃ rest : Option Bytes, Reference.nextTok (some (joinFields (f :: fs))) = (some f.field.value, rest) ∧
          rest.getD [] = joinFields fs := by
        cases fs with
        | nil => exact next_tok_last_field f
        | cons g gs => exact ⟨_, next_tok_field f _, rfl⟩
      obtain ⟨p, t, l₁, hstr, ht, hshows, htoken, hkeeps⟩ := next_str_shows h
      rw [htok] at ht hshows
      obtain rfl := Option.some.inj ht
      obtain ⟨ps, l', hall, hkeeps', htokens⟩ := ih hshows hrest
      refine ⟨p :: ps, l', fun n hn => ?_, hkeeps.trans hkeeps', .cons (hkeeps'.token htoken) htokens⟩
      obtain ⟨n, rfl⟩ : ∃ m, n = m + 1 := ⟨n - 1, by rw [List.length_cons] at hn; omega⟩
      have htake : l.take .nextstr = some (some p, l₁) := by
        rw [take, hstr]
        rfl
      exact take_all_more (by rw [has_more_shows h, hmore]) htake (hall n (Nat.le_of_succ_le_succ hn))

/-- The tokens of a line of fields are the fields. The pointers are good until the end, and no byte behind the zero is
read, here and for every other string, whichever tokens are taken. -/
theorem tokens_are_fields :
    (∀ (name : Bytes) (fields : List SpacedField), (∀ b ∈ name, b ≠ colon ∧ b ≠ 0) →
      ∃ l ps l', start ⟨fieldsLine name fields ++ [0], some 0⟩ = some (true, l) ∧
        (∀ n, fields.length ≤ n → l.takeAll (List.replicate n .nextstr) = some (ps, l')) ∧
        List.Forall₂ (fun p f => blockString l'.block p = some f.field.value) ps fields) ∧
    ∀ (s : Bytes) (takers : List AtTaker), (∀ b ∈ s, b ≠ 0) → s.length ≤ takers.length →
      ∃ ps l', takeAll takers ⟨s ++ [0], some 0⟩ = some (ps, l') := by
  refine ⟨fun name fields hname => ?_, fun s takers hs hl => ?_⟩
  · have hline : StringAt (fieldsLine name fields ++ [0]) 0 (fieldsLine name fields) := by
      refine ⟨⟨[], rfl⟩, fun b hb => ?_⟩
      rcases List.mem_append.mp hb with hb | hb
      · exact (hname b hb).2
      · rcases List.mem_cons.mp hb with rfl | hb
        · decide
        · exact join_nonzero fields b hb
    have hstart : atTokStart (some (fieldsLine name fields)) = some ((), some (joinFields fields)) := by
      have hnot : ∀ b ∈ name, (b != colon) = true := fun b hb => by simpa using (hname b hb).1
      have hd : (name ++ colon :: joinFields fields).dropWhile (· != colon) = colon :: joinFields fields :=
        (take_while_before hnot (by simp)).2
      rw [atTokStart, fieldsLine, hd]
    obtain ⟨l, hl, hshows⟩ := start_shows (l := ⟨fieldsLine name fields ++ [0], some 0⟩) (.string rfl hline)
    obtain ⟨ps, l', hall, -, htokens⟩ := take_all_fields (hshows _ hstart) rfl
    rw [hstart] at hl
    exact ⟨l, ps, l', hl, hall, htokens.imp fun p f ht => ht.string.read⟩
  · exact take_all_ends takers (.string rfl ⟨⟨[], rfl⟩, hs⟩) hl

end AtLine

end

def plmnFields : List SpacedField :=
  [⟨ascii " ", by decide +kernel, .plain 0x30 [] (by decide) (by decide +kernel)⟩,
    ⟨[], by simp, .quoted (ascii "a,b") (by decide +kernel)⟩,
    ⟨ascii " ", by decide +kernel, .plain 0x37 [] (by decide) (by decide +kernel)⟩]

/-- A comma inside of the quotes -/
theorem plmn_tokens : fieldsLine (ascii "+COPS") plmnFields = ascii "+COPS: 0," ++ quote :: ascii "a,b" ++ quote :: ascii ", 7" ∧
    ∃ l ps l', AtLine.start ⟨fieldsLine (ascii "+COPS") plmnFields ++ [0], some 0⟩ = some (true, l) ∧
      (∀ n, plmnFields.length ≤ n → l.takeAll (List.replicate n .nextstr) = some (ps, l')) ∧
      List.Forall₂ (fun p f => blockString l'.block p = some f.field.value) ps plmnFields :=
  ⟨by decide, AtLine.tokens_are_fields.1 (ascii "+COPS") plmnFields (by decide +kernel)⟩

end Ril.Reference
