import Ril.Libril.Parameters

/-! The reads of a block that go well, and those that no test sees. -/

namespace Ril.Libril.ParcelLib

open Ril.Ipc

variable (L : ParcelLib)

/-- The strings that so many reads give -/
def strings (p : L.Parcel) : ℕ → List (Option CString)
  | 0 => []
  | n + 1 => (L.readString16 p).1 :: strings (L.readString16 p).2 n

/-- What the parcels of the binder library are relied on for: a read that fails leaves the position, the position can be
set back, and what is copied to a new parcel is read from it. -/
structure Lawful : Prop where
  int32_fails : ∀ p, (L.readInt32 p).1 = none → (L.readInt32 p).2 = p
  byte_fails : ∀ p, (L.read 1 p).1 = none → (L.read 1 p).2 = p
  inplace_length : ∀ n p bytes, (L.readInplace n p).1 = some bytes → bytes.length = n
  rewind : ∀ p, L.setDataPosition (L.dataPosition p) (L.readInt32 p).2 = p
  copied : ∀ p count (ss : List CString) q, q = L.setDataPosition (L.dataPosition p)
      (L.copyStrings (L.readInt32 p).2 (L.dataPosition p) count (ss.map some)) →
    (L.readInt32 q).1 = some count ∧ L.strings (L.readInt32 q).2 ss.length = ss.map some

/-- The next read of the kind goes well. A read of a string that fails leaves the position; one that gives `NULL` moves
it. -/
def Reads (p : L.Parcel) : ReadKind → Prop
  | .int32 => (L.readInt32 p).1.isSome = true
  | .byte => (L.read 1 p).1.isSome = true
  | .string => (L.readString16 p).1.isSome = true ∨ (L.readString16 p).2 ≠ p

def ReadsAll (p : L.Parcel) : List ReadKind → Prop
  | [] => True
  | k :: ks => L.Reads p k ∧ ReadsAll (L.skip p k) ks

/-- A read that is followed by one of another kind goes well, and so does a string at the end. Of the reads of one kind
in a row only the last counts: where one fails the next one fails too. -/
def SeamsRead (p : L.Parcel) : List ReadKind → Prop
  | [] => True
  | [k] => k = .string → L.Reads p k
  | k :: k' :: ks => (k ≠ k' → L.Reads p k) ∧ SeamsRead (L.skip p k) (k' :: ks)

/-- The last of the reads goes well. -/
def LastRead (p : L.Parcel) (ks : List ReadKind) : Prop :=
  ∀ k ∈ ks.getLast?, L.Reads (L.after p ks.dropLast) k

variable {L} {p : L.Parcel} {k : ReadKind} {ks : List ReadKind}

lemma reads_iff_has (hk : k ≠ .string) : L.Reads p k ↔ L.Has p k := by
  cases k with
  | int32 => exact Iff.rfl
  | byte => exact Iff.rfl
  | string => exact absurd rfl hk

lemma Has.reads (h : L.Has p k) : L.Reads p k := by
  cases k with
  | int32 => exact h
  | byte => exact h
  | string => exact .inl h

lemma Lawful.skip_failed (hL : L.Lawful) (h : ¬L.Reads p k) : L.skip p k = p := by
  cases k with
  | int32 => exact hL.int32_fails p (by simpa [Reads] using h)
  | byte => exact hL.byte_fails p (by simpa [Reads] using h)
  | string => exact not_not.mp (not_or.mp h).2

lemma reads_all_append (ks' : List ReadKind) :
    L.ReadsAll p (ks ++ ks') ↔ L.ReadsAll p ks ∧ L.ReadsAll (L.after p ks) ks' := by
  induction ks generalizing p with
  | nil => exact (iff_of_eq (true_and _)).symm
  | cons k ks ih => rw [List.cons_append, ReadsAll, ReadsAll, ih, and_assoc]; rfl

/-- The reads of a block are seen by its seams and by its last read. -/
theorem reads_all_iff (hL : L.Lawful) : L.ReadsAll p ks ↔ L.SeamsRead p ks ∧ L.LastRead p ks := by
  induction ks generalizing p with
  | nil => exact iff_of_true trivial ⟨trivial, nofun⟩
  | cons k ks ih =>
    cases ks with
    | nil =>
      have hlast : L.LastRead p [k] ↔ L.Reads p k := by simp [LastRead, after]
      rw [hlast]
      exact ⟨fun h => ⟨fun _ => h.1, h.1⟩, fun h => ⟨h.2, trivial⟩⟩
    | cons k' ks =>
      have hrest : L.ReadsAll (L.skip p k) (k' :: ks) ↔ _ := ih
      have hlast : L.LastRead p (k :: k' :: ks) ↔ L.LastRead (L.skip p k) (k' :: ks) := by
        rw [LastRead, List.getLast?_cons_cons]
        rfl
      rw [ReadsAll, SeamsRead, hlast, and_assoc, ← hrest]
      refine and_congr_left fun hall => ⟨fun hr _ => hr, fun hseam => ?_⟩
      by_cases hk : k = k'
      · -- the read of the same kind that follows would have failed as well
        by_contra hfailed
        rw [hL.skip_failed hfailed] at hall
        exact hfailed (hk ▸ hall.1)
      · exact hseam hk

lemma seams_last_string (h : L.SeamsRead p (ks ++ [.string])) : L.LastRead p (ks ++ [.string]) := by
  induction ks generalizing p with
  | nil => simpa [LastRead, after, SeamsRead] using h
  | cons k ks ih =>
    obtain ⟨k', ks', hks⟩ : ∃ k' ks', ks ++ [ReadKind.string] = k' :: ks' := List.exists_cons_of_ne_nil (by simp)
    rw [List.cons_append, hks] at h ⊢
    have hrest : L.SeamsRead (L.skip p k) (ks ++ [.string]) := by
      rw [hks]
      exact h.2
    have hlast : L.LastRead (L.skip p k) (k' :: ks') := hks ▸ ih hrest
    rw [LastRead, List.getLast?_cons_cons]
    exact hlast

/-- A block that is accepted for the read of its last number is read as a whole exactly if its seams are. -/
theorem block_read_iff (hL : L.Lawful) (n : ℕ) :
    (L.Reads (L.after p ks) k → L.ReadsAll p (ks ++ k :: List.replicate n .string)) ↔
      (L.Reads (L.after p ks) k → L.SeamsRead p (ks ++ k :: List.replicate n .string)) := by
  refine forall_congr' fun htested => ?_
  rw [reads_all_iff hL]
  refine and_iff_left_of_imp fun hseams => ?_
  cases n with
  | zero => simpa [LastRead] using htested
  | succ n =>
    have hsplit : ks ++ k :: List.replicate (n + 1) .string = (ks ++ k :: List.replicate n .string) ++ [.string] := by
      rw [List.replicate_succ', List.append_assoc, List.cons_append]
    rw [hsplit] at hseams ⊢
    exact seams_last_string hseams

end Ril.Libril.ParcelLib
