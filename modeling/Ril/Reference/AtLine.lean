import Ril.Lib.BlockString
import Ril.Reference.AtTok

/-! The tokenizer in the memory of the line that it takes apart. Nothing outside of the line can be read. -/

namespace Ril.Reference

open Lib

/-- The buffer, and `*p_cur` as an index, `NULL` if there is none -/
structure AtLine where
  block : Bytes
  cur : Option ℕ
deriving DecidableEq, Repr

/-- How a token is taken -/
inductive AtTaker
  | nextstr
  | nextint (longBits base : ℕ) (uns : Bool)
deriving DecidableEq, Repr

namespace AtLine

/-- Whether it returns 0 -/
def start (l : AtLine) : Option (Bool × AtLine) :=
  match l.cur with
  | none => some (false, l)
  | some cur => do
    let i ← scanBlock (fun b => b != 0 && b != colon) l.block cur
    let b ← l.block[i]?
    if b == colon then some (true, { l with cur := some (i + 1) }) else some (false, { l with cur := none })

def skipWhiteSpace (l : AtLine) : Option AtLine :=
  match l.cur with
  | none => some l
  | some cur => (scanBlock (fun b => b != 0 && isspace b) l.block cur).map fun i => { l with cur := some i }

def skipNextComma (l : AtLine) : Option AtLine :=
  match l.cur with
  | none => some l
  | some cur => do
    let i ← scanBlock (fun b => b != 0 && b != comma) l.block cur
    let b ← l.block[i]?
    some { l with cur := some (if b == comma then i + 1 else i) }

def strsep (delim : UInt8) (l : AtLine) : Option (Option ℕ × AtLine) :=
  match l.cur with
  | none => some (none, l)
  | some cur => do
    let i ← scanBlock (fun b => b != 0 && b != delim) l.block cur
    let b ← l.block[i]?
    if b == delim then some (some cur, { block := l.block.set i 0, cur := some (i + 1) })
    else some (some cur, { l with cur := none })

def nextTok (l : AtLine) : Option (Option ℕ × AtLine) := do
  let l ← l.skipWhiteSpace
  match l.cur with
  | none => some (none, l)
  | some cur => do
    let b ← l.block[cur]?
    if b == quote then do
      let (ret, l) ← { l with cur := some (cur + 1) }.strsep quote
      let l ← l.skipNextComma
      some (ret, l)
    else l.strsep comma

/-- The result is `none` if it returns -1. -/
def nextintBase (longBits base : ℕ) (uns : Bool) (l : AtLine) : Option (Option Int32 × AtLine) := do
  let (ret, l) ← l.nextTok
  match ret with
  | none => some (none, l)
  | some p => do
    let s ← blockString l.block p
    some (toInt longBits base uns s, l)

/-- The pointer that is put into `*p_out`, or -1 -/
def nextstr (l : AtLine) : Option (Option (Option ℕ) × AtLine) :=
  match l.cur with
  | none => some (none, l)
  | some _ => do
    let (ret, l) ← l.nextTok
    some (some ret, l)

def hasmore (l : AtLine) : Option Bool :=
  match l.cur with
  | none => some false
  | some cur => do
    let b ← l.block[cur]?
    some (b != 0)

/-- Where the token is that is taken, if one is -/
def take (l : AtLine) : AtTaker → Option (Option ℕ × AtLine)
  | .nextstr => do
    let (out, l) ← l.nextstr
    some (out.join, l)
  | .nextint longBits base uns => do
    let (_, l) ← l.nextintBase longBits base uns
    some (none, l)

/-- `while (at_tok_hasmore(&cur))`, with a token taken in each round, and nothing if there are more rounds than
takers -/
def takeAll : List AtTaker → AtLine → Option (List ℕ × AtLine)
  | takers, l => do
    let more ← l.hasmore
    if more then
      match takers with
      | [] => none
      | taker :: takers => do
        let (p, l) ← l.take taker
        let (ps, l) ← takeAll takers l
        some (p.toList ++ ps, l)
    else some ([], l)

end AtLine

end Ril.Reference

/-! What the tokenizer takes of a line in its memory, and where it stops. -/

namespace Ril.Reference

open Lib

namespace AtLine

/-- The cursor is on a string of the line that ends at a zero. -/
inductive Shows (l : AtLine) : Option Bytes → Prop
  | null (h : l.cur = none) : Shows l none
  | string {i : ℕ} {s : Bytes} (h : l.cur = some i) (hs : StringAt l.block i s) : Shows l (some s)

/-- A string that lies before the cursor stays, and before the cursor. -/
def Keeps (l l' : AtLine) : Prop :=
  ∀ q u, StringAt l.block q u → (∀ i, l.cur = some i → q + u.length < i) →
    StringAt l'.block q u ∧ ∀ i, l'.cur = some i → q + u.length < i

/-- A token lies before the cursor. -/
structure Token (l : AtLine) (p : ℕ) (t : Bytes) : Prop where
  string : StringAt l.block p t
  before : ∀ i, l.cur = some i → p + t.length < i

variable {l l' l'' : AtLine} {s t : Bytes} {c : Option Bytes} {i p : ℕ}

lemma Keeps.refl (l : AtLine) : Keeps l l := fun _ _ hs hb => ⟨hs, hb⟩

lemma Keeps.trans (h : Keeps l l') (h' : Keeps l' l'') : Keeps l l'' := fun q u hs hb =>
  h' q u (h q u hs hb).1 (h q u hs hb).2

lemma Keeps.token (h : Keeps l l') (ht : Token l p t) : Token l' p t :=
  ⟨(h p t ht.string ht.before).1, (h p t ht.string ht.before).2⟩

lemma keeps_forward {j : ℕ} (hc : l.cur = some i) (hij : i ≤ j) : Keeps l { l with cur := some j } := by
  refine fun q u hs hb => ⟨hs, fun k hk => ?_⟩
  have := hb i hc
  obtain rfl := Option.some.inj hk
  omega

lemma has_more_shows (h : Shows l c) : l.hasmore = some (atTokHasmore c) := by
  cases h with
  | null hc => rw [hasmore, hc]; rfl
  | @string i s hc hs =>
    rw [hasmore, hc]
    cases s with
    | nil => simp [hs.get_nil, atTokHasmore]
    | cons b s => simp [hs.get_cons, atTokHasmore, hs.nonzero b List.mem_cons_self]

lemma skip_white_space_shows (hc : l.cur = some i) (hs : StringAt l.block i s) : ∃ j, i ≤ j ∧
    l.skipWhiteSpace = some { l with cur := some j } ∧ StringAt l.block j (s.dropWhile isspace) := by
  refine ⟨_, Nat.le_add_right _ _, ?_, hs.skip isspace⟩
  rw [skipWhiteSpace, hc]
  dsimp only
  rw [hs.scan_while isspace]
  rfl

lemma drop_while_head {delim b : UInt8} {rest : Bytes} (h : s.dropWhile (· != delim) = b :: rest) : b = delim := by
  have hb := List.head?_dropWhile_not (fun b => b != delim) s
  rw [h] at hb
  simpa using hb

lemma skip_next_comma_shows (h : Shows l c) : ∃ l', l.skipNextComma = some l' ∧ Shows l' (Reference.skipNextComma c) ∧
    Keeps l l' := by
  cases h with
  | null hc =>
    refine ⟨l, ?_, .null hc, .refl l⟩
    rw [skipNextComma, hc]
  | @string i s hc hs =>
    have hskip := hs.skip (· != comma)
    have hle : i ≤ i + (s.takeWhile (· != comma)).length := Nat.le_add_right _ _
    rw [skipNextComma, hc]
    simp only [hs.scan_while (· != comma), Option.bind_eq_bind, Option.bind_some]
    cases hd : s.dropWhile (· != comma) with
    | nil =>
      rw [hd] at hskip
      rw [hskip.get_nil]
      refine ⟨_, rfl, ?_, keeps_forward hc hle⟩
      rw [Reference.skipNextComma, Option.map_some, hd]
      exact .string rfl hskip
    | cons b rest =>
      rw [hd] at hskip
      have hb : b = comma := drop_while_head hd
      rw [hskip.get_cons, hb]
      refine ⟨_, rfl, ?_, keeps_forward hc (hle.trans (Nat.le_succ _))⟩
      rw [Reference.skipNextComma, Option.map_some, hd]
      exact .string rfl hskip.tail

lemma strsep_shows {delim : UInt8} (hd : delim ≠ 0) (hc : l.cur = some i) (hs : StringAt l.block i s) :
    ∃ l', l.strsep delim = some (some i, l') ∧ Shows l' (Reference.strsep delim (some s)).2 ∧
      Token l' i (s.takeWhile (· != delim)) ∧ Keeps l l' := by
  have hskip := hs.skip (· != delim)
  rw [strsep, hc]
  simp only [hs.scan_while (· != delim), Option.bind_eq_bind, Option.bind_some]
  cases hdrop : s.dropWhile (· != delim) with
  | nil =>
    rw [hdrop] at hskip
    have hall : s.takeWhile (· != delim) = s := by
      have h := List.takeWhile_append_dropWhile (p := (· != delim)) (l := s)
      rwa [hdrop, List.append_nil] at h
    rw [hskip.get_nil, hall]
    refine ⟨{ l with cur := none }, ?_, ?_, ⟨hs, fun _ h => (by cases h)⟩, fun q u hq _ => ⟨hq, fun _ h => (by cases h)⟩⟩
    · exact if_neg fun h => hd (beq_iff_eq.mp h).symm
    · rw [Reference.strsep, hdrop]
      exact .null rfl
  | cons b rest =>
    rw [hdrop] at hskip
    have hb : b = delim := drop_while_head hdrop
    have hsplit : s = s.takeWhile (· != delim) ++ delim :: rest := by
      have h := List.takeWhile_append_dropWhile (p := (· != delim)) (l := s)
      rwa [hdrop, hb, eq_comm] at h
    obtain ⟨htoken, hrest⟩ := StringAt.cut (hsplit ▸ hs)
    rw [hskip.get_cons, hb]
    refine ⟨_, if_pos (beq_self_eq_true delim), ?_, ⟨htoken, fun j hj => ?_⟩, fun q u hq hbefore => ⟨?_, fun j hj => ?_⟩⟩
    · rw [Reference.strsep, hdrop]
      exact .string rfl hrest
    · obtain rfl := Option.some.inj hj
      exact Nat.lt_succ_self _
    · exact hq.before ((hbefore i hc).trans_le (Nat.le_add_right _ _))
    · obtain rfl := Option.some.inj hj
      exact (hbefore i hc).trans_le ((Nat.le_add_right _ _).trans (Nat.le_succ _))

lemma start_shows (h : Shows l c) : ∃ l', l.start = some ((atTokStart c).isSome, l') ∧
    ∀ c', atTokStart c = some ((), c') → Shows l' c' := by
  cases h with
  | null hc =>
    refine ⟨l, ?_, fun c' hc' => (by cases hc')⟩
    rw [start, hc]
    rfl
  | @string i s hc hs =>
    have hskip := hs.skip (· != colon)
    rw [start, hc]
    simp only [hs.scan_while (· != colon), Option.bind_eq_bind, Option.bind_some, atTokStart]
    cases hd : s.dropWhile (· != colon) with
    | nil =>
      rw [hd] at hskip
      rw [hskip.get_nil]
      exact ⟨_, rfl, fun c' hc' => (by cases hc')⟩
    | cons b rest =>
      rw [hd] at hskip
      have hb : b = colon := drop_while_head hd
      rw [hskip.get_cons, hb]
      refine ⟨_, rfl, fun c' hc' => ?_⟩
      obtain rfl := congrArg Prod.snd (Option.some.inj hc')
      exact .string rfl hskip.tail

/-- The token of the abstract cursor stands in the line. -/
lemma next_tok_shows (h : Shows l (some s)) : ∃ p t l', l.nextTok = some (some p, l') ∧
    (Reference.nextTok (some s)).1 = some t ∧ Shows l' (Reference.nextTok (some s)).2 ∧ Token l' p t ∧ Keeps l l' := by
  cases h with
  | @string i s hc hs =>
    obtain ⟨j, hij, hskip, hstring⟩ := skip_white_space_shows hc hs
    have hforward : Keeps l { l with cur := some j } := keeps_forward hc hij
    rw [nextTok, hskip, Reference.nextTok, Reference.skipWhiteSpace, Option.map_some]
    simp only [Option.bind_eq_bind, Option.bind_some]
    cases hd : s.dropWhile isspace with
    | nil =>
      rw [hd] at hstring
      obtain ⟨l', hsep, hshows, htoken, hkeeps⟩ := strsep_shows (l := { l with cur := some j })
        (by decide : comma ≠ 0) rfl hstring
      refine ⟨j, [], l', ?_, rfl, hshows, htoken, hforward.trans hkeeps⟩
      rw [hstring.get_nil]
      exact hsep
    | cons b rest =>
      rw [hd] at hstring
      rw [hstring.get_cons, Option.bind_some]
      dsimp only
      split
      · obtain ⟨l₁, hsep, hshows, htoken, hkeeps⟩ := strsep_shows (l := { l with cur := some (j + 1) })
          (by decide : quote ≠ 0) rfl hstring.tail
        obtain ⟨l₂, hcomma, hshows', hkeeps'⟩ := skip_next_comma_shows hshows
        rw [hsep, Option.bind_some, hcomma, Option.bind_some]
        have hstep : Keeps l { l with cur := some (j + 1) } := keeps_forward hc (hij.trans (Nat.le_succ _))
        exact ⟨j + 1, _, l₂, rfl, rfl, hshows', hkeeps'.token htoken, (hstep.trans hkeeps).trans hkeeps'⟩
      · obtain ⟨l', hsep, hshows, htoken, hkeeps⟩ := strsep_shows (l := { l with cur := some j })
          (by decide : comma ≠ 0) rfl hstring
        exact ⟨j, _, l', hsep, rfl, hshows, htoken, hforward.trans hkeeps⟩

lemma next_str_shows (h : Shows l (some s)) : ∃ p t l', l.nextstr = some (some (some p), l') ∧
    (Reference.nextTok (some s)).1 = some t ∧ Shows l' (Reference.nextTok (some s)).2 ∧ Token l' p t ∧ Keeps l l' := by
  obtain ⟨p, t, l', hn, ht, hshows, htoken, hkeeps⟩ := next_tok_shows h
  refine ⟨p, t, l', ?_, ht, hshows, htoken, hkeeps⟩
  cases h with
  | string hc hs => rw [nextstr, hc, hn]; rfl

lemma next_int_base_shows (longBits base : ℕ) (uns : Bool) (h : Shows l (some s)) : ∃ r l',
    l.nextintBase longBits base uns = some (r, l') ∧ Shows l' (Reference.nextTok (some s)).2 ∧ Keeps l l' ∧
      r = (atTokNextintBase longBits base uns (some s)).map Prod.fst := by
  obtain ⟨p, t, l', hn, ht, hshows, htoken, hkeeps⟩ := next_tok_shows h
  refine ⟨_, l', ?_, hshows, hkeeps, rfl⟩
  rw [nextintBase, hn, atTokNextintBase]
  simp only [Option.bind_eq_bind, Option.bind_some, htoken.string.read]
  have hpair : Reference.nextTok (some s) = (some t, (Reference.nextTok (some s)).2) := Prod.ext ht rfl
  rw [hpair]
  dsimp only
  cases toInt longBits base uns t <;> rfl

lemma take_shows (taker : AtTaker) (h : Shows l (some s)) : ∃ p l', l.take taker = some (p, l') ∧
    Shows l' (Reference.nextTok (some s)).2 := by
  cases taker with
  | nextstr =>
    obtain ⟨p, t, l', hn, -, hshows, -⟩ := next_str_shows h
    refine ⟨some p, l', ?_, hshows⟩
    rw [take, hn]
    rfl
  | nextint longBits base uns =>
    obtain ⟨r, l', hn, hshows, -⟩ := next_int_base_shows longBits base uns h
    refine ⟨none, l', ?_, hshows⟩
    rw [take, hn]
    rfl

/-! ### The loop ends -/

lemma drop_while_le (p : UInt8 → Bool) (s : Bytes) : (s.dropWhile p).length ≤ s.length :=
  (List.dropWhile_sublist p).length_le

lemma strsep_shorter (delim : UInt8) (s : Bytes) :
    ((Reference.strsep delim (some s)).2.getD []).length ≤ s.length - 1 := by
  have hle := drop_while_le (· != delim) s
  rw [Reference.strsep]
  cases hd : s.dropWhile (· != delim) with
  | nil => exact Nat.zero_le _
  | cons b rest =>
    rw [hd, List.length_cons] at hle
    dsimp only [Option.getD_some]
    omega

lemma skip_next_comma_le (c : Option Bytes) :
    ((Reference.skipNextComma c).getD []).length ≤ (c.getD []).length := by
  cases c with
  | none => exact le_rfl
  | some s =>
    rw [Reference.skipNextComma, Option.map_some, Option.getD_some, List.length_drop]
    exact (Nat.sub_le _ _).trans (drop_while_le _ s)

/-- A token takes at least one character of what is left. -/
lemma next_tok_shorter (s : Bytes) : ((Reference.nextTok (some s)).2.getD []).length ≤ s.length - 1 := by
  have hle := drop_while_le isspace s
  rw [Reference.nextTok, Reference.skipWhiteSpace, Option.map_some]
  cases hd : s.dropWhile isspace with
  | nil => exact Nat.zero_le _
  | cons b rest =>
    rw [hd] at hle
    dsimp only
    split
    · have hcomma := skip_next_comma_le (Reference.strsep quote (some rest)).2
      have hquote := strsep_shorter quote rest
      rw [List.length_cons] at hle
      dsimp only
      omega
    · have hcomma := strsep_shorter comma (b :: rest)
      omega

lemma take_all_done (takers : List AtTaker) (h : l.hasmore = some false) : l.takeAll takers = some ([], l) := by
  cases takers <;> rw [takeAll, h] <;> rfl

lemma take_all_more {taker : AtTaker} {takers : List AtTaker} {p : Option ℕ} {ps : List ℕ} (h : l.hasmore = some true)
    (ht : l.take taker = some (p, l')) (ha : l'.takeAll takers = some (ps, l'')) :
    l.takeAll (taker :: takers) = some (p.toList ++ ps, l'') := by
  rw [takeAll, h]
  simp only [Option.bind_eq_bind, Option.bind_some, if_true, ht, ha]

lemma take_all_ends (takers : List AtTaker) (h : Shows l c) (hl : (c.getD []).length ≤ takers.length) :
    ∃ ps l', l.takeAll takers = some (ps, l') := by
  induction takers generalizing l c with
  | nil =>
    have hnone : atTokHasmore c = false := by
      rw [atTokHasmore, List.length_eq_zero_iff.mp (Nat.le_zero.mp hl)]
      rfl
    exact ⟨[], l, take_all_done [] (by rw [has_more_shows h, hnone])⟩
  | cons taker takers ih =>
    have hmore := has_more_shows h
    cases hm : atTokHasmore c with
    | false => exact ⟨[], l, take_all_done _ (hm ▸ hmore)⟩
    | true =>
      cases c with
      | none => cases hm
      | some s =>
        obtain ⟨p, l₁, htake, hshows⟩ := take_shows taker h
        have hshorter := next_tok_shorter s
        obtain ⟨ps, l', hall⟩ := ih hshows (by
          rw [Option.getD_some, List.length_cons] at hl
          omega)
        exact ⟨p.toList ++ ps, l', take_all_more (hm ▸ hmore) htake hall⟩

end AtLine

end Ril.Reference
