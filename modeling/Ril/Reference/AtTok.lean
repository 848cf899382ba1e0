import Ril.Lib.CNumber
import Ril.Reference.AtChannel

/-! The tokenizer for the lines of the AT channel. -/

namespace Ril.Reference

open Lib

/-- A function on `*p_cur`, which may be `NULL`, that may fail. Nothing reads the cursor after a failure. -/
abbrev Tok := StateT (Option Bytes) Option

def comma : UInt8 := 0x2c

def quote : UInt8 := 0x22

def colon : UInt8 := 0x3a

def atTokStart : Tok Unit := fun cur =>
  match cur with
  | none => none
  | some s =>
    match s.dropWhile (· != colon) with
    | [] => none
    | _ :: s => some ((), some s)

def skipWhiteSpace (cur : Option Bytes) : Option Bytes := cur.map fun s => s.dropWhile isspace

def skipNextComma (cur : Option Bytes) : Option Bytes := cur.map fun s => (s.dropWhile (· != comma)).drop 1

/-- The token and what is behind the delimiter -/
def strsep (delim : UInt8) : Option Bytes → Option Bytes × Option Bytes
  | none => (none, none)
  | some s => (some (s.takeWhile (· != delim)), match s.dropWhile (· != delim) with
    | [] => none
    | _ :: s => some s)

def nextTok (cur : Option Bytes) : Option Bytes × Option Bytes :=
  match skipWhiteSpace cur with
  | none => (none, none)
  | some [] => strsep comma (some [])
  | some (b :: s) =>
    if b == quote then
      let r := strsep quote (some s)
      (r.1, skipNextComma r.2)
    else strsep comma (some (b :: s))

/-- `uns` reads with `strtoul`; the `long` becomes an `int`. -/
def toInt (longBits base : ℕ) (uns : Bool) (s : Bytes) : Option Int32 :=
  if uns then (strtoul longBits base s).map Int32.ofNat else (strtol longBits base s).map Int32.ofInt

def atTokNextintBase (longBits base : ℕ) (uns : Bool) : Tok Int32 := fun cur =>
  match nextTok cur with
  | (none, _) => none
  | (some s, cur) => (toInt longBits base uns s).map (·, cur)

def atTokNextint (longBits : ℕ) : Tok Int32 := atTokNextintBase longBits 10 false

def atTokNexthexint (longBits : ℕ) : Tok Int32 := atTokNextintBase longBits 16 true

/-- Booleans should be 0 or 1. -/
def atTokNextbool (longBits : ℕ) : Tok Bool := do
  let result ← atTokNextint longBits
  if result = 0 then return false
  else if result = 1 then return true
  else failure

def atTokNextstr : Tok (Option Bytes) := fun cur => if cur.isNone then none else some (nextTok cur)

def atTokHasmore (cur : Option Bytes) : Bool := !(cur.getD []).isEmpty

/-- The code of `+CME ERROR:`, `CME_SUCCESS` for a success and `CME_ERROR_NON_CME` for the other failures -/
def atGetCmeError (longBits : ℕ) (r : AtResponse) : Int32 :=
  if r.success then 0
  else
    match r.finalResponse with
    | none => -1
    | some finalResponse =>
      if !strStartsWith finalResponse (ascii "+CME ERROR:") then -1
      else
        match (do atTokStart; atTokNextint longBits : Tok Int32) (some finalResponse) with
        | none => -1
        | some (ret, _) => ret

lemma tok_bind_some {α β : Type} {t : Tok α} {f : α → Tok β} {cur : Option Bytes} {r : β × Option Bytes}
    (h : (t >>= f) cur = some r) : ∃ a rest, t cur = some (a, rest) ∧ f a rest = some r := by
  obtain ⟨⟨a, rest⟩, ha, hf⟩ := Option.bind_eq_some_iff.mp h
  exact ⟨a, rest, ha, hf⟩

lemma next_tok_some (s : Bytes) : (nextTok (some s)).1.isSome = true := by
  have h (delim : UInt8) (s : Bytes) : (strsep delim (some s)).1.isSome = true := rfl
  rw [nextTok, skipWhiteSpace, Option.map_some]
  cases s.dropWhile Lib.isspace with
  | nil => rfl
  | cons b s =>
    dsimp only
    split
    · exact h quote s
    · exact h comma (b :: s)

/-- Behind the colon the cursor is not `NULL`. -/
lemma start_isSome {cur : Option Bytes} {r : Unit × Option Bytes} (h : atTokStart cur = some r) : r.2.isSome = true := by
  rw [atTokStart.eq_def] at h
  split at h
  · cases h
  · split at h
    · cases h
    · obtain rfl := Option.some.inj h
      rfl

lemma nextstr_isSome {cur rest : Option Bytes} {s : Option Bytes} (h : atTokNextstr cur = some (s, rest)) :
    s.isSome = true := by
  cases cur with
  | none => cases h
  | some cur =>
    obtain rfl : (nextTok (some cur)).1 = s := congrArg Prod.fst (Option.some.inj h)
    exact next_tok_some cur

end Ril.Reference
