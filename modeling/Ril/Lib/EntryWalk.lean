import Mathlib.Algebra.Order.Ring.Int
import Ril.Lib.Reading

/-! Entries one behind the other, each of which may tell its own length, and a loop that walks over them with a narrow
counter and checks at the end only. -/

namespace Ril.Lib

/-- The bytes of an entry that are always there; one of them may count the bytes that follow them. -/
structure EntryFormat where
  size : ℕ
  lengthAt : Option ℕ
  size_pos : 0 < size
  size_lt : size < 2 ^ 16
  lengthAt_lt : ∀ i, lengthAt = some i → i < size

namespace EntryFormat

variable (format : EntryFormat)

/-- The offset of each entry behind a header of so many bytes -/
def offset (memory : ℤ → UInt8) (base : ℤ) (header : ℕ) : ℕ → ℕ
  | 0 => header
  | n + 1 => offset memory base header n + format.size +
      format.lengthAt.elim 0 fun i => (memory (base + (offset memory base header n + i : ℕ))).toNat

/-- `offset += sizeof(entry) + entry->length` -/
def advance (base : ℤ) (offset : UInt32) : Reading UInt8 UInt32 :=
  format.lengthAt.elim (pure (offset + UInt32.ofNat format.size)) fun i => do
    let length ← Reading.readAt (some base) (offset.toNat + i : ℕ)
    return offset + (UInt32.ofNat format.size + length.toUInt32)

/-- `for (i = 0; i < (index + 1); i++)`, for so many rounds at most. The entry is the one of the last round. -/
def walk (base : ℤ) (index : UInt32) : ℕ → UInt8 → Option UInt32 → UInt32 → Reading UInt8 (Option UInt32 × UInt32)
  | 0, _, _, _ => .null
  | rounds + 1, i, entry, offset =>
    if i.toUInt32 < index + 1 then do
      let next ← format.advance base offset
      walk base index rounds (i + 1) (some offset) next
    else pure (entry, offset)

/-- The entry at an index, unless the last of the entries reaches over the end -/
def extract (base : ℤ) (header size : ℕ) (index : UInt32) : Reading UInt8 (Option ℤ) := do
  let (entry, offset) ← format.walk base index (2 ^ 8) 0 none (UInt32.ofNat header)
  if offset.toNat > size then return none
  else return entry.map fun entry => base + entry.toNat

variable {format} {memory memory' : ℤ → UInt8} {block : ℤ → Prop} {base : ℤ} {header size n m : ℕ} {index : UInt32}

lemma offset_succ_ge : format.offset memory base header n + format.size ≤ format.offset memory base header (n + 1) :=
  Nat.le_add_right _ _

lemma offset_mono (h : n ≤ m) : format.offset memory base header n ≤ format.offset memory base header m := by
  induction m with
  | zero => rw [Nat.le_zero.mp h]
  | succ m ih =>
    rcases Nat.le_succ_iff.mp h with h | rfl
    · have hge := @offset_succ_ge format memory base header m
      have := ih h
      omega
    · exact Nat.le_refl _

lemma offset_succ_le : format.offset memory base header (n + 1) ≤ format.offset memory base header n + format.size + 255 := by
  rw [offset]
  cases format.lengthAt with
  | none => exact Nat.le_add_right _ _
  | some i =>
    have hlt := (memory (base + (format.offset memory base header n + i : ℕ))).toNat_lt
    simp only [Option.elim_some]
    omega

lemma offset_le (h : n ≤ 255) (hheader : header < 2 ^ 16) : format.offset memory base header n < 2 ^ 32 := by
  have hsize := format.size_lt
  have hbound : format.offset memory base header n ≤ header + n * 2 ^ 17 := by
    clear h
    induction n with
    | zero => exact Nat.le_add_right _ _
    | succ n ih =>
      have hle := @offset_succ_le format memory base header n
      omega
  omega

lemma outcome_advance {at_ : ℕ} (h : format.offset memory base header n = at_) (hlt : at_ < 2 ^ 32) :
    (format.advance base (UInt32.ofNat at_)).outcome memory =
      some (UInt32.ofNat (format.offset memory base header (n + 1))) := by
  rw [advance, offset, h]
  cases format.lengthAt with
  | none =>
    rw [Option.elim_none, Option.elim_none, Nat.add_zero, UInt32.ofNat_add]
    rfl
  | some i =>
    rw [Option.elim_some, Option.elim_some, Reading.outcome_read_at, UInt32.toNat_ofNat', Nat.mod_eq_of_lt hlt,
      UInt32.ofNat_add, UInt32.ofNat_add, UInt32.add_assoc]
    rw [Reading.outcome_pure, Option.some.injEq, UInt32.ofNat_uInt8ToNat]

lemma within_advance {at_ : ℕ} (hlt : at_ < 2 ^ 32) : (format.advance base (UInt32.ofNat at_)).Within memory block ↔
    ∀ i, format.lengthAt = some i → block (base + (at_ + i : ℕ)) := by
  rw [advance]
  cases format.lengthAt with
  | none => exact iff_of_true trivial fun i h => by cases h
  | some i =>
    rw [Option.elim_some, Reading.within_read_at, UInt32.toNat_ofNat', Nat.mod_eq_of_lt hlt]
    exact ⟨fun h j hj => Option.some.inj hj ▸ h.1, fun h => ⟨h i rfl, trivial⟩⟩

lemma counter_lt (hindex : index.toNat < 255) {k : ℕ} (hk : k ≤ index.toNat + 1) :
    (UInt8.ofNat k).toUInt32 < index + 1 ↔ k < index.toNat + 1 := by
  have hone : (index + 1).toNat = index.toNat + 1 := by
    have h1 : (1 : UInt32).toNat = 1 := rfl
    rw [UInt32.toNat_add, h1]
    exact Nat.mod_eq_of_lt (by omega)
  have hcounter : (UInt8.ofNat k).toUInt32.toNat = k := by
    rw [UInt8.toNat_toUInt32, UInt8.toNat_ofNat']
    exact Nat.mod_eq_of_lt (by omega)
  rw [UInt32.lt_iff_toNat_lt, hone, hcounter]

/-- The rounds that are left, from the one with the counter at `k` on -/
lemma outcome_walk (hindex : index.toNat < 255) (hheader : header < 2 ^ 16) {left k rounds : ℕ} {entry : Option UInt32}
    (hk : k + left = index.toNat + 1) (hr : left < rounds) :
    (format.walk base index rounds (UInt8.ofNat k) entry
      (UInt32.ofNat (format.offset memory base header k))).outcome memory =
      some (if left = 0 then entry else some (UInt32.ofNat (format.offset memory base header index.toNat)),
        UInt32.ofNat (format.offset memory base header (index.toNat + 1))) := by
  induction left generalizing k rounds entry with
  | zero =>
    obtain ⟨rounds, rfl⟩ := Nat.exists_eq_succ_of_ne_zero (Nat.ne_of_gt hr)
    obtain rfl : k = index.toNat + 1 := hk
    rw [walk, if_neg (by rw [counter_lt hindex (Nat.le_refl _)]; omega)]
    rfl
  | succ left ih =>
    obtain ⟨rounds, rfl⟩ := Nat.exists_eq_succ_of_ne_zero (Nat.ne_of_gt (Nat.zero_lt_of_lt hr))
    have hlt := @offset_le format memory base header k (by omega) hheader
    have hcounter : UInt8.ofNat k + 1 = UInt8.ofNat (k + 1) := (UInt8.ofNat_add k 1).symm
    rw [walk, if_pos ((counter_lt hindex (by omega)).mpr (by omega)), Reading.outcome_bind, outcome_advance rfl hlt,
      Option.bind_some, hcounter, ih (by omega) (by omega), if_neg (Nat.succ_ne_zero left)]
    cases left with
    | zero =>
      obtain rfl : k = index.toNat := by omega
      rfl
    | succ left => rfl

lemma within_walk (hindex : index.toNat < 255) (hheader : header < 2 ^ 16) {left k rounds : ℕ} {entry : Option UInt32}
    (hk : k + left = index.toNat + 1) (hr : left < rounds) :
    (format.walk base index rounds (UInt8.ofNat k) entry
      (UInt32.ofNat (format.offset memory base header k))).Within memory block ↔
      ∀ j, k ≤ j → j ≤ index.toNat → ∀ i, format.lengthAt = some i →
        block (base + (format.offset memory base header j + i : ℕ)) := by
  induction left generalizing k rounds entry with
  | zero =>
    obtain ⟨rounds, rfl⟩ := Nat.exists_eq_succ_of_ne_zero (Nat.ne_of_gt hr)
    rw [walk, if_neg (by rw [counter_lt hindex (by omega)]; omega)]
    exact iff_of_true trivial fun j hj hle => by omega
  | succ left ih =>
    obtain ⟨rounds, rfl⟩ := Nat.exists_eq_succ_of_ne_zero (Nat.ne_of_gt (Nat.zero_lt_of_lt hr))
    have hlt := @offset_le format memory base header k (by omega) hheader
    have hcounter : UInt8.ofNat k + 1 = UInt8.ofNat (k + 1) := (UInt8.ofNat_add k 1).symm
    rw [walk, if_pos ((counter_lt hindex (by omega)).mpr (by omega)), Reading.within_bind, within_advance hlt,
      outcome_advance rfl hlt]
    constructor
    · rintro ⟨hfirst, hrest⟩ j hj hle
      rcases Nat.eq_or_lt_of_le hj with rfl | hj
      · exact hfirst
      · have hnext := hrest _ rfl
        rw [hcounter, ih (by omega) (by omega)] at hnext
        exact hnext j hj hle
    · intro h
      refine ⟨h k (Nat.le_refl _) (by omega), fun next hnext => ?_⟩
      obtain rfl := Option.some.inj hnext
      rw [hcounter, ih (by omega) (by omega)]
      exact fun j hj hle => h j (by omega) hle

/-- The loop ends, and the one check at the end is about the last entry. -/
lemma outcome_extract (hindex : index.toNat < 255) (hheader : header < 2 ^ 16) :
    (format.extract base header size index).outcome memory =
      some (if format.offset memory base header (index.toNat + 1) > size then none
        else some (base + (format.offset memory base header index.toNat : ℕ))) := by
  have hwalk := @outcome_walk format memory base header index hindex hheader (index.toNat + 1) 0 (2 ^ 8) none
    (Nat.zero_add _) (by omega)
  have hoffset := Nat.mod_eq_of_lt (@offset_le format memory base header index.toNat (by omega) hheader)
  have hend := Nat.mod_eq_of_lt (@offset_le format memory base header (index.toNat + 1) (by omega) hheader)
  rw [if_neg (Nat.succ_ne_zero _)] at hwalk
  rw [extract, Reading.outcome_bind]
  refine (congrArg (Option.bind · _) hwalk).trans ?_
  simp only [Option.bind_some, UInt32.toNat_ofNat', hend]
  split
  · rfl
  · simp only [Option.map_some, UInt32.toNat_ofNat', hoffset]
    rfl

lemma within_extract (hindex : index.toNat < 255) (hheader : header < 2 ^ 16) :
    (format.extract base header size index).Within memory block ↔ ∀ j ≤ index.toNat, ∀ i, format.lengthAt = some i →
      block (base + (format.offset memory base header j + i : ℕ)) := by
  have hwalk := @within_walk format memory block base header index hindex hheader (index.toNat + 1) 0 (2 ^ 8) none
    (Nat.zero_add _) (by omega)
  rw [extract, Reading.within_bind]
  refine (and_iff_left fun result _ => ?_).trans (hwalk.trans ?_)
  · split
    split
    · trivial
    · trivial
  · exact ⟨fun h j hj => h j (Nat.zero_le j) hj, fun h j _ hj => h j hj⟩

/-- Where an entry ends inside a block, what stands outside does not matter for the offsets up to it, and one that
reaches over the end does so whatever stands there. -/
lemma offset_congr (hmemory : ∀ a : ℕ, a < size → memory (base + a) = memory' (base + a)) :
    format.offset memory base header n = format.offset memory' base header n ∨
      size < format.offset memory base header n ∧ size < format.offset memory' base header n := by
  induction n with
  | zero => exact .inl rfl
  | succ n ih =>
    have hge := @offset_succ_ge format memory base header n
    have hge' := @offset_succ_ge format memory' base header n
    rcases ih with ih | ih
    · rw [offset, offset, ← ih]
      cases hl : format.lengthAt with
      | none => exact .inl rfl
      | some i =>
        have hi := format.lengthAt_lt i hl
        simp only [Option.elim_some]
        by_cases hin : format.offset memory base header n + i < size
        · rw [hmemory _ hin]
          exact .inl rfl
        · exact .inr ⟨by omega, by omega⟩
    · exact .inr ⟨by omega, by omega⟩

/-- The result of the extraction does not depend on what stands behind the message. -/
lemma extract_congr (hindex : index.toNat < 255) (hheader : header < 2 ^ 16)
    (hmemory : ∀ a : ℕ, a < size → memory (base + a) = memory' (base + a)) :
    (format.extract base header size index).outcome memory = (format.extract base header size index).outcome memory' := by
  rw [outcome_extract hindex hheader, outcome_extract hindex hheader]
  have hge := @offset_succ_ge format memory base header index.toNat
  have hge' := @offset_succ_ge format memory' base header index.toNat
  have hend := @offset_congr format memory memory' base header size (index.toNat + 1) hmemory
  have hstart := @offset_congr format memory memory' base header size index.toNat hmemory
  by_cases hover : format.offset memory base header (index.toNat + 1) > size
  · rw [if_pos hover, if_pos (by omega)]
  · have heq : format.offset memory base header index.toNat = format.offset memory' base header index.toNat := by omega
    rw [if_neg hover, if_neg (by omega), heq]

end EntryFormat

end Ril.Lib
