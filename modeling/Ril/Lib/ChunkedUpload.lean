import Mathlib.Data.List.Forall2
import Mathlib.Tactic.Common

/-! Data that is sent piece by piece until a piece is refused. -/

namespace Ril.Lib

variable {α ε σ : Type} (send : List α → σ → ε × σ) (accepted : ε → Bool) (chunk : ℕ)

structure Upload (ε σ : Type) where
  sent : List ε
  complete : Bool
  rest : σ

/-- `while (c < size)`, for so many rounds at most -/
def uploadLoop (data : List α) : ℕ → ℕ → σ → Upload ε σ
  | 0, c, s => ⟨[], decide (data.length ≤ c), s⟩
  | rounds + 1, c, s =>
    if c < data.length then
      let count := if chunk < data.length - c then chunk else data.length - c
      let result := send ((data.drop c).take count) s
      if accepted result.1 then
        let upload := uploadLoop data rounds (c + count) result.2
        { upload with sent := result.1 :: upload.sent }
      else ⟨[result.1], false, result.2⟩
    else ⟨[], true, s⟩

/-- The pieces were sent in this order, each from some state, and only the last one may have been refused. -/
inductive SentPieces : List (List α) → List ε → Bool → Prop
  | nil : SentPieces [] [] true
  | refused {piece : List α} {s : σ} : accepted (send piece s).1 = false → SentPieces [piece] [(send piece s).1] false
  | cons {piece : List α} {s : σ} {pieces : List (List α)} {sent : List ε} {complete : Bool} :
      accepted (send piece s).1 = true → SentPieces pieces sent complete →
      SentPieces (piece :: pieces) ((send piece s).1 :: sent) complete

variable {send accepted chunk} {data : List α} {rounds c : ℕ} {s : σ} {pieces : List (List α)} {sent : List ε}
  {complete : Bool}

variable (send accepted) in
/-- The loop ends, with all that is left in pieces that are not empty and not larger than a chunk, or at a piece that
is refused. -/
lemma upload_loop_pieces (s : σ) (hchunk : 0 < chunk) (hc : c ≤ data.length) (hr : data.length - c ≤ rounds) :
    ∃ pieces, SentPieces send accepted pieces (uploadLoop send accepted chunk data rounds c s).sent
        (uploadLoop send accepted chunk data rounds c s).complete ∧
      (∀ piece ∈ pieces, piece ≠ [] ∧ piece.length ≤ chunk) ∧
      ((uploadLoop send accepted chunk data rounds c s).complete = true → pieces.flatten = data.drop c) := by
  induction rounds generalizing c s with
  | zero =>
    have hend : data.length ≤ c := by omega
    refine ⟨[], ?_, fun _ h => absurd h List.not_mem_nil, fun _ => (List.drop_eq_nil_of_le hend).symm⟩
    rw [uploadLoop, decide_eq_true hend]
    exact .nil
  | succ rounds ih =>
    rw [uploadLoop]
    split
    · rename_i hlt
      have hcount : ∃ count, (if chunk < data.length - c then chunk else data.length - c) = count ∧ 0 < count ∧
          count ≤ chunk ∧ c + count ≤ data.length := by
        split
        · exact ⟨chunk, rfl, hchunk, Nat.le_refl _, by omega⟩
        · exact ⟨data.length - c, rfl, by omega, by omega, by omega⟩
      obtain ⟨count, he, hpos, hle, hfit⟩ := hcount
      have hlen : ((data.drop c).take count).length = count := by
        rw [List.length_take, List.length_drop]
        omega
      have hpiece : (data.drop c).take count ≠ [] ∧ ((data.drop c).take count).length ≤ chunk :=
        ⟨List.ne_nil_of_length_pos (hlen.symm ▸ hpos), hlen.symm ▸ hle⟩
      simp only [he]
      split
      · rename_i haccepted
        obtain ⟨pieces, hsent, hpieces, hflat⟩ := @ih (c + count) (send ((data.drop c).take count) s).2 hfit (by omega)
        refine ⟨(data.drop c).take count :: pieces, .cons haccepted hsent, List.forall_mem_cons.mpr ⟨hpiece, hpieces⟩,
          fun h => ?_⟩
        rw [List.flatten_cons, hflat h, ← List.drop_drop]
        exact List.take_append_drop count (data.drop c)
      · rename_i hrefused
        refine ⟨[(data.drop c).take count], .refused (Bool.eq_false_iff.mpr hrefused), ?_, fun h => by cases h⟩
        exact fun piece h => (List.mem_singleton.mp h) ▸ hpiece
    · rename_i hge
      exact ⟨[], .nil, fun _ h => absurd h List.not_mem_nil, fun _ => (List.drop_eq_nil_of_le (by omega)).symm⟩

/-- Of the pieces that were sent each one that is not the last was accepted, and the last one too if the upload is
complete. -/
lemma SentPieces.refused_last (h : SentPieces send accepted pieces sent complete) {before after : List ε} {e : ε}
    (he : sent = before ++ e :: after) (hr : accepted e = false) : after = [] ∧ complete = false := by
  induction h generalizing before with
  | nil => exact absurd he (by simp)
  | @refused piece s hrefused =>
    cases before with
    | nil => exact ⟨(List.cons.inj he).2.symm, rfl⟩
    | cons b before => exact absurd (List.cons.inj he).2 (by simp)
  | @cons piece s pieces sent complete haccepted _ ih =>
    cases before with
    | nil =>
      rw [(List.cons.inj he).1, hr] at haccepted
      cases haccepted
    | cons b before => exact ih (List.cons.inj he).2

lemma SentPieces.complete_all (h : SentPieces send accepted pieces sent complete) (hc : complete = true) :
    List.Forall₂ (fun piece e => ∃ s, e = (send piece s).1 ∧ accepted e = true) pieces sent := by
  induction h with
  | nil => exact .nil
  | refused _ => cases hc
  | @cons piece s _ _ _ haccepted _ ih => exact .cons ⟨s, rfl, haccepted⟩ (ih hc)

end Ril.Lib
