import Ril.Reference.Registration

/-! What a registration line says, read field by field, and what the reference RIL makes of it. -/

namespace Ril.Reference

open Lib

/-! ### The fields of a line -/

/-- A field may be quoted. -/
def fieldText (field : Bytes) : Bytes :=
  match field.dropWhile isspace with
  | [] => []
  | b :: s => if b == quote then s.takeWhile (· != quote) else b :: s

/-- The field has a quote that it does not close. -/
def openQuote (field : Bytes) : Bool :=
  match field.dropWhile isspace with
  | [] => false
  | b :: s => b == quote && !s.contains quote

def fieldInt (longBits : ℕ) (hex : Bool) (field : Bytes) : Option Int32 :=
  toInt longBits (if hex then 16 else 10) hex (fieldText field)

/-- The numbers of the fields. A comma does not belong to a quoted field. -/
def fieldInts (longBits : ℕ) : List Bool → List Bytes → Option (List Int32)
  | [hex], [field] => (fieldInt longBits hex field).map fun v => [v]
  | hex :: form, field :: fields =>
    if openQuote field then none
    else (fieldInt longBits hex field).bind fun v => (fieldInts longBits form fields).map (v :: ·)
  | _, _ => none

/-- Which fields are hexadecimal in `stat`, `n, stat`, `stat, lac, cid`, `n, stat, lac, cid` and `n, stat, lac, cid,
type` -/
def registrationForm : ℕ → Option (List Bool)
  | 1 => some [false]
  | 2 => some [false, false]
  | 3 => some [false, true, true]
  | 4 => some [false, false, true, true]
  | 5 => some [false, false, true, true, true]
  | _ => none

structure RegistrationLine where
  stat : Int32
  lac : Int32 := -1
  cid : Int32 := -1
  type : Option Int32 := none
deriving DecidableEq, Repr

def RegistrationLine.ofFields : List Int32 → Option RegistrationLine
  | [stat] => some { stat := stat }
  | [_, stat] => some { stat := stat }
  | [stat, lac, cid] => some { stat := stat, lac := lac, cid := cid }
  | [_, stat, lac, cid] => some { stat := stat, lac := lac, cid := cid }
  | [_, stat, lac, cid, type] => some { stat := stat, lac := lac, cid := cid, type := some type }
  | _ => none

/-- The fields behind the first colon -/
def lineFields (line : Bytes) : Option (List Bytes) :=
  match line.dropWhile (· != colon) with
  | [] => none
  | _ :: s => some (s.splitOn comma)

/-- What a line in one of the documented forms says -/
def registrationLine (longBits : ℕ) (line : Bytes) : Option RegistrationLine :=
  (lineFields line).bind fun fields => (registrationForm fields.length).bind fun form =>
    (fieldInts longBits form fields).bind RegistrationLine.ofFields

/-- The line is documented, with so many fields. -/
def HasForm (longBits : ℕ) (line : Bytes) (n : ℕ) : Prop :=
  (registrationLine longBits line).isSome ∧ (lineFields line).map List.length = some n

/-! ### Reading the fields one after the other -/

def readInts (longBits : ℕ) : List Bool → Option Bytes → Option (List Int32 × Option Bytes)
  | [], cur => some ([], cur)
  | hex :: form, cur =>
    (atTokNextintBase longBits (if hex then 16 else 10) hex cur).bind fun r =>
      (readInts longBits form r.2).map fun r' => (r.1 :: r'.1, r'.2)

/-- The fields that may still be read -/
def fieldsLeft : Option Bytes → ℕ
  | none => 0
  | some [] => 0
  | some s => s.count comma + 1

variable {longBits : ℕ} {hex : Bool} {form : List Bool} {s field : Bytes} {cur : Option Bytes}

lemma to_int_nil (base : ℕ) (uns : Bool) : toInt longBits base uns [] = none := by
  cases uns <;> rfl

lemma quote_ne_comma : quote ≠ comma := by decide

lemma split_at_comma (s : Bytes) :
    (comma ∉ s ∧ s.splitOn comma = [s]) ∨ ∃ field rest, comma ∉ field ∧ s = field ++ comma :: rest ∧
      s.splitOn comma = field :: rest.splitOn comma ∧ s.count comma = rest.count comma + 1 := by
  by_cases hs : comma ∈ s
  · obtain ⟨field, rest, rfl, hf⟩ := List.eq_append_cons_of_mem hs
    refine .inr ⟨field, rest, hf, rfl, List.splitOn_append_cons_self_of_not_mem hf rest, ?_⟩
    rw [List.count_append, List.count_eq_zero.mpr hf, List.count_cons_self, Nat.zero_add]
  · exact .inl ⟨hs, List.splitOn_eq_singleton hs⟩

lemma take_until {b : UInt8} (h : b ∉ field) (rest : Bytes) :
    (field ++ b :: rest).takeWhile (· != b) = field ∧ (field ++ b :: rest).dropWhile (· != b) = b :: rest := by
  induction field with
  | nil => simp
  | cons c field ih =>
    obtain ⟨hc, hf⟩ := List.ne_and_not_mem_of_not_mem_cons h
    obtain ⟨ht, hd⟩ := ih hf
    have hcb : (c != b) = true := by simpa using Ne.symm hc
    rw [List.cons_append, List.takeWhile_cons, List.dropWhile_cons, if_pos hcb, if_pos hcb, ht, hd]
    exact ⟨rfl, rfl⟩

lemma take_all {b : UInt8} (h : b ∉ field) : field.takeWhile (· != b) = field ∧ field.dropWhile (· != b) = [] := by
  have hall : ∀ c ∈ field, (c != b) = true := by
    intro c hc
    rw [bne_iff_ne]
    rintro rfl
    exact h hc
  exact ⟨List.takeWhile_eq_self_iff.mpr hall, List.dropWhile_eq_nil_iff.mpr hall⟩

lemma drop_spaces (field rest : Bytes) :
    (field ++ comma :: rest).dropWhile isspace = field.dropWhile isspace ++ comma :: rest := by
  induction field with
  | nil => rfl
  | cons b field ih =>
    rw [List.cons_append, List.dropWhile_cons, List.dropWhile_cons]
    split
    · exact ih
    · rfl

lemma not_mem_drop {b : UInt8} (h : b ∉ field) (p : UInt8 → Bool) : b ∉ field.dropWhile p :=
  fun hb => h ((List.dropWhile_sublist p).subset hb)

lemma fields_left_le (s : Bytes) : fieldsLeft (some s) ≤ s.count comma + 1 := by
  cases s with
  | nil => exact Nat.zero_le _
  | cons b s => exact Nat.le_refl _

lemma skip_next_comma (s : Bytes) : fieldsLeft (skipNextComma (some s)) ≤ s.count comma := by
  rcases split_at_comma s with ⟨hs, -⟩ | ⟨field, rest, hf, rfl, -, hc⟩
  · simp [skipNextComma, (take_all hs).2, fieldsLeft]
  · rw [hc]
    simpa [skipNextComma, (take_until hf rest).2] using fields_left_le rest

lemma next_tok_comma {rest : Bytes} (hf : comma ∉ field) (ho : openQuote field = false) :
    nextTok (some (field ++ comma :: rest)) = (some (fieldText field), some rest) := by
  have hf' := not_mem_drop hf isspace
  rw [nextTok, skipWhiteSpace, Option.map_some, drop_spaces]
  rw [openQuote] at ho
  rw [fieldText]
  cases hd : field.dropWhile isspace with
  | nil => rfl
  | cons b t =>
    rw [hd] at ho hf'
    simp only [List.cons_append]
    by_cases hb : b = quote
    · subst hb
      obtain ⟨a, c, rfl, ha⟩ := List.eq_append_cons_of_mem (by simpa using ho : quote ∈ t)
      have hc : comma ∉ c := fun h => hf' (by simp [h])
      simp [strsep, take_until ha, List.append_assoc, skipNextComma, take_until hc]
    · have ht := take_until hf' rest
      rw [List.cons_append] at ht
      simp [hb, strsep, ht]

/-- A quote that its field does not close ends behind the comma. -/
lemma next_tok_open (rest : Bytes) (ho : openQuote field = true) :
    fieldsLeft (nextTok (some (field ++ comma :: rest))).2 ≤ rest.count comma := by
  rw [nextTok, skipWhiteSpace, Option.map_some, drop_spaces]
  rw [openQuote] at ho
  cases hd : field.dropWhile isspace with
  | nil => simp [hd] at ho
  | cons b t =>
    rw [hd] at ho
    simp only [Bool.and_eq_true, beq_iff_eq, Bool.not_eq_true', List.contains_eq_mem, decide_eq_false_iff_not] at ho
    obtain ⟨rfl, ht⟩ := ho
    simp only [List.cons_append, beq_self_eq_true, if_true, strsep]
    by_cases hr : quote ∈ rest
    · obtain ⟨a, c, rfl, ha⟩ := List.eq_append_cons_of_mem hr
      have hq : quote ∉ t ++ comma :: a := by simp [ht, ha, quote_ne_comma]
      have hd' := (take_until hq c).2
      rw [List.append_assoc, List.cons_append] at hd'
      rw [hd']
      refine (skip_next_comma c).trans ?_
      rw [List.count_append, List.count_cons_of_ne quote_ne_comma]
      exact Nat.le_add_left _ _
    · have hq : quote ∉ t ++ comma :: rest := by simp [ht, hr, quote_ne_comma]
      simp [(take_all hq).2, skipNextComma, fieldsLeft]

lemma next_tok_last (hs : comma ∉ s) : (nextTok (some s)).1 = some (fieldText s) ∧ fieldsLeft (nextTok (some s)).2 = 0 := by
  have hs' := not_mem_drop hs isspace
  rw [nextTok, skipWhiteSpace, Option.map_some, fieldText]
  cases hd : s.dropWhile isspace with
  | nil => exact ⟨rfl, rfl⟩
  | cons b t =>
    rw [hd] at hs'
    by_cases hb : b = quote
    · subst hb
      simp only [beq_self_eq_true, if_true, strsep, true_and]
      split
      · rfl
      · rename_i c hc
        have hc' : comma ∉ c := by
          intro h
          refine not_mem_drop (fun h => hs' (List.mem_cons_of_mem _ h)) (· != quote) (?_ : comma ∈ _)
          rw [hc]
          exact List.mem_cons_of_mem _ h
        simp [skipNextComma, (take_all hc').2, fieldsLeft]
    · have ht := take_all hs'
      simp [hb, strsep, ht, fieldsLeft]

lemma next_tok_less (s : Bytes) (h : (nextTok (some s)).1 ≠ some []) :
    fieldsLeft (nextTok (some s)).2 + 1 ≤ fieldsLeft (some s) := by
  rcases split_at_comma s with ⟨hs, -⟩ | ⟨field, rest, hf, rfl, -, hc⟩
  · rw [(next_tok_last hs).2]
    cases s with
    | nil => exact absurd rfl h
    | cons b s => exact Nat.le_add_left _ _
  · have hleft : fieldsLeft (some (field ++ comma :: rest)) = rest.count comma + 2 := by
      have hcons : fieldsLeft (some (field ++ comma :: rest)) = (field ++ comma :: rest).count comma + 1 := by
        cases field <;> rfl
      rw [hcons, hc]
    rw [hleft]
    cases ho : openQuote field with
    | false =>
      rw [next_tok_comma hf ho]
      exact Nat.succ_le_succ (fields_left_le rest)
    | true =>
      have hopen := next_tok_open rest ho
      omega

lemma nextint_eq {base : ℕ} {uns : Bool} {tok : Bytes} {cur' : Option Bytes} (h : nextTok cur = (some tok, cur')) :
    atTokNextintBase longBits base uns cur = (toInt longBits base uns tok).map (·, cur') := by
  simp [atTokNextintBase, h]

lemma nextint_less {base : ℕ} {uns : Bool} {v : Int32} {cur' : Option Bytes}
    (h : atTokNextintBase longBits base uns cur = some (v, cur')) : fieldsLeft cur' + 1 ≤ fieldsLeft cur := by
  cases cur with
  | none => cases h
  | some s =>
    have hless := next_tok_less s
    rw [atTokNextintBase] at h
    split at h
    · cases h
    · rename_i tok cur'' htok
      rw [htok] at hless
      obtain ⟨v', hv, heq⟩ := Option.map_eq_some_iff.mp h
      obtain ⟨rfl, rfl⟩ := Prod.mk.inj heq
      apply hless
      intro hnil
      rw [Option.some.inj hnil, to_int_nil] at hv
      cases hv

/-- More fields than are left cannot be read. -/
lemma read_ints_left (form : List Bool) {cur : Option Bytes} (h : fieldsLeft cur < form.length) :
    readInts longBits form cur = none := by
  induction form generalizing cur with
  | nil => cases h
  | cons hex form ih =>
    rw [readInts]
    cases hr : atTokNextintBase longBits (if hex then 16 else 10) hex cur with
    | none => rfl
    | some r =>
      have hless := nextint_less hr
      rw [List.length_cons] at h
      rw [Option.bind_some, ih (by omega)]
      rfl

lemma read_ints_eq (longBits : ℕ) (form : List Bool) (s : Bytes) (h : form.length = s.count comma + 1) :
    (readInts longBits form (some s)).map Prod.fst = fieldInts longBits form (s.splitOn comma) := by
  induction form generalizing s with
  | nil => cases h
  | cons hex form ih =>
    rw [readInts]
    rcases split_at_comma s with ⟨hs, hsplit⟩ | ⟨field, rest, hf, rfl, hsplit, hc⟩
    · obtain rfl : form = [] := by simpa [List.count_eq_zero.mpr hs] using h
      have htok : nextTok (some s) = (some (fieldText s), (nextTok (some s)).2) := by
        rw [← (next_tok_last hs).1]
      rw [hsplit, fieldInts, fieldInt, nextint_eq htok]
      cases toInt longBits (if hex then 16 else 10) hex (fieldText s) with
      | none => rfl
      | some v => rfl
    · have hlen : form.length = rest.count comma + 1 := by
        rw [hc, List.length_cons] at h
        omega
      obtain ⟨f, fs, hrest⟩ := List.exists_cons_of_ne_nil (List.splitOn_ne_nil comma rest)
      have hint : fieldInts longBits (hex :: form) (field :: rest.splitOn comma) =
          if openQuote field then none
          else (fieldInt longBits hex field).bind fun v =>
            (fieldInts longBits form (rest.splitOn comma)).map (v :: ·) := by
        rw [hrest]
        cases form <;> rfl
      rw [hsplit, hint]
      cases ho : openQuote field with
      | true =>
        have hopen := next_tok_open rest ho
        rw [if_pos rfl]
        cases hr : atTokNextintBase longBits (if hex then 16 else 10) hex (some (field ++ comma :: rest)) with
        | none => rfl
        | some r =>
          have hcur : r.2 = (nextTok (some (field ++ comma :: rest))).2 := by
            rw [atTokNextintBase] at hr
            split at hr
            · cases hr
            · rename_i htok
              obtain ⟨v, -, rfl⟩ := Option.map_eq_some_iff.mp hr
              rw [htok]
          have hnone : readInts longBits form r.2 = none := read_ints_left form (by rw [hcur]; omega)
          rw [Option.bind_some, hnone]
          rfl
      | false =>
        rw [nextint_eq (next_tok_comma hf ho), if_neg Bool.false_ne_true, ← ih rest hlen, fieldInt]
        cases toInt longBits (if hex then 16 else 10) hex (fieldText field) with
        | none => rfl
        | some v =>
          cases hr : readInts longBits form (some rest) with
          | none => simp [hr]
          | some r => simp [hr]

/-! ### The items of a registration line -/

variable {env : RefEnv}

lemma next_item_bind {α : Type} {f : Tok Int32} {s : RegistrationParse} (k : Int32 → ParseM α) :
    (nextItem f >>= k) s = match f s.line with
      | none => .error .error
      | some r => k r.1 { s with line := r.2 } := by
  change Except.bind (nextItem f s) _ = _
  rw [nextItem]
  cases f s.line with
  | none => rfl
  | some r => rfl

lemma store_resp_bind {α : Type} {i : ℕ} {v : Int32} {s : RegistrationParse} (k : Unit → ParseM α) :
    (storeResp i v >>= k) s =
      if i < s.resp.length then k () { s with resp := s.resp.set i v } else .error .undefined := by
  change Except.bind (storeResp i v s) _ = _
  rw [storeResp]
  split
  · rfl
  · rfl

/-- The items are stored, and -1 for `lac` and `cid` where there are none. -/
def storeItems : List Int32 → Except RefStop (List Int32)
  | [_] => .error .undefined
  | [_, _] => .error .undefined
  | [stat, lac, cid] => .ok [stat, lac, cid]
  | [_, stat, lac, cid] => .ok [stat, lac, cid, 0]
  | [_, stat, lac, cid, type] => .ok [stat, lac, cid, type, 0]
  | _ => .error .error

lemma parse_items_eq (env : RefEnv) (cur : Option Bytes) {commas : ℕ} (hf : registrationForm (commas + 1) = some form) :
    (parseItems env commas { line := cur, resp := List.replicate (commas + 1) 0 }).map (fun r => r.2.resp) =
      match readInts env.longBits form cur with
      | none => .error .error
      | some r => storeItems r.1 := by
  rcases commas with _ | _ | _ | _ | _ | n
  · obtain rfl := Option.some.inj hf
    simp only [parseItems, readInts, nextint, next_item_bind, store_resp_bind, atTokNextint]
    cases h1 : atTokNextintBase env.longBits 10 false cur with
    | none => simp [h1, Except.map]
    | some r1 => simp [h1, Except.map, storeItems]
  · obtain rfl := Option.some.inj hf
    simp only [parseItems, readInts, nextint, next_item_bind, store_resp_bind, atTokNextint]
    cases h1 : atTokNextintBase env.longBits 10 false cur with
    | none => simp [h1, Except.map]
    | some r1 =>
      cases h2 : atTokNextintBase env.longBits 10 false r1.2 with
      | none => simp [h1, h2, Except.map]
      | some r2 => simp [h1, h2, Except.map, storeItems, storeResp]
  · obtain rfl := Option.some.inj hf
    simp only [parseItems, readInts, nextint, nexthexint, next_item_bind, store_resp_bind, atTokNextint, atTokNexthexint]
    cases h1 : atTokNextintBase env.longBits 10 false cur with
    | none => simp [h1, Except.map]
    | some r1 =>
      cases h2 : atTokNextintBase env.longBits 16 true r1.2 with
      | none => simp [h1, h2, Except.map]
      | some r2 =>
        cases h3 : atTokNextintBase env.longBits 16 true r2.2 with
        | none => simp [h1, h2, h3, Except.map]
        | some r3 => simp [h1, h2, h3, Except.map, storeItems, storeResp]
  · obtain rfl := Option.some.inj hf
    simp only [parseItems, readInts, nextint, nexthexint, next_item_bind, store_resp_bind, atTokNextint, atTokNexthexint]
    cases h1 : atTokNextintBase env.longBits 10 false cur with
    | none => simp [h1, Except.map]
    | some r1 =>
      cases h2 : atTokNextintBase env.longBits 10 false r1.2 with
      | none => simp [h1, h2, Except.map]
      | some r2 =>
        cases h3 : atTokNextintBase env.longBits 16 true r2.2 with
        | none => simp [h1, h2, h3, Except.map]
        | some r3 =>
          cases h4 : atTokNextintBase env.longBits 16 true r3.2 with
          | none => simp [h1, h2, h3, h4, Except.map]
          | some r4 => simp [h1, h2, h3, h4, Except.map, storeItems, storeResp, List.replicate]
  · obtain rfl := Option.some.inj hf
    simp only [parseItems, readInts, nextint, nexthexint, next_item_bind, store_resp_bind, atTokNextint, atTokNexthexint]
    cases h1 : atTokNextintBase env.longBits 10 false cur with
    | none => simp [h1, Except.map]
    | some r1 =>
      cases h2 : atTokNextintBase env.longBits 10 false r1.2 with
      | none => simp [h1, h2, Except.map]
      | some r2 =>
        cases h3 : atTokNextintBase env.longBits 16 true r2.2 with
        | none => simp [h1, h2, h3, Except.map]
        | some r3 =>
          cases h4 : atTokNextintBase env.longBits 16 true r3.2 with
          | none => simp [h1, h2, h3, h4, Except.map]
          | some r4 =>
            cases h5 : atTokNextintBase env.longBits 16 true r4.2 with
            | none => simp [h1, h2, h3, h4, h5, Except.map]
            | some r5 => simp [h1, h2, h3, h4, h5, Except.map, storeItems, storeResp, List.replicate]
  · cases hf

lemma parse_items_fails {commas : ℕ} (hf : registrationForm (commas + 1) = none) (s : RegistrationParse) :
    parseItems env commas s = .error .error := by
  rcases commas with _ | _ | _ | _ | _ | n
  · cases hf
  · cases hf
  · cases hf
  · cases hf
  · cases hf
  · rfl

lemma count_fields (s : Bytes) : (s.splitOn comma).length = s.count comma + 1 := by
  generalize hn : s.count comma = n
  induction n generalizing s with
  | zero =>
    rw [List.splitOn_eq_singleton (List.count_eq_zero.mp hn)]
    rfl
  | succ n ih =>
    rcases split_at_comma s with ⟨hs, -⟩ | ⟨field, rest, -, -, hsplit, hc⟩
    · rw [List.count_eq_zero.mpr hs] at hn
      cases hn
    · rw [hsplit, List.length_cons, ih rest (by omega)]

/-- The array of a line whose items are these, and what is read back for `s_lac` and `s_cid` -/
def parsedFields (commas : ℕ) (ints : Option (List Int32)) : Except RefStop ParsedRegistration :=
  match ints with
  | none => .error .error
  | some vs => (storeItems vs).bind fun resp => (loadResp resp 1).bind fun lac => (loadResp resp 2).bind fun cid =>
    .ok { items := commas + 1, response := resp, lac := lac, cid := cid }

lemma parse_line_eq (line : Bytes) : parseLine env line =
    match lineFields line with
    | none => .error .error
    | some fields =>
      match registrationForm fields.length with
      | none => .error .error
      | some form => parsedFields (fields.length - 1) (fieldInts env.longBits form fields) := by
  rw [parseLine, atTokStart, lineFields]
  cases line.dropWhile (· != colon) with
  | nil => rfl
  | cons b s =>
    simp only [Option.getD_some, count_fields, Nat.add_sub_cancel]
    cases hform : registrationForm (s.count comma + 1) with
    | none =>
      simp only [parse_items_fails hform]
      rfl
    | some form =>
      have hlen : form.length = s.count comma + 1 := by
        revert hform
        rcases s.count comma with _ | _ | _ | _ | _ | n <;> intro hform <;> cases hform <;> rfl
      have hitems := parse_items_eq env (some s) hform
      have hread := read_ints_eq env.longBits form s hlen
      simp only [parsedFields, ← hread]
      cases hp : parseItems env (s.count comma) { line := some s, resp := List.replicate (s.count comma + 1) 0 } with
      | error e =>
        rw [hp] at hitems
        cases hr : readInts env.longBits form (some s) with
        | none =>
          rw [hr] at hitems
          obtain rfl : e = .error := Except.error.inj hitems
          rfl
        | some r =>
          rw [hr] at hitems
          simp only [Option.map_some, ← hitems]
          rfl
      | ok p =>
        rw [hp] at hitems
        cases hr : readInts env.longBits form (some s) with
        | none =>
          rw [hr] at hitems
          cases hitems
        | some r =>
          rw [hr] at hitems
          simp only [Option.map_some, ← hitems]
          rfl

end Ril.Reference
