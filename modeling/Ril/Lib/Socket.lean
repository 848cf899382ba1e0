import Mathlib.Data.List.Basic
import Mathlib.Data.List.Forall2
import Mathlib.Tactic.Common

/-! A stream that is read in pieces whose lengths the reader does not choose. -/

namespace Ril.Lib

inductive Errno
  | eagain | eintr | efbig | econnreset
deriving DecidableEq, Repr

/-- What a `read` finds: so many more bytes than one, or a failure. -/
inductive ReadEvent
  | ready (more : ℕ)
  | failed (errno : Errno)
deriving DecidableEq, Repr

variable {α : Type}

/-- What a `read` of at most `count` brings, of what is still to come; nothing at the end of the stream -/
def readSocket (event : ReadEvent) (count : ℕ) (stream : List α) : Except Errno (List α) :=
  match event with
  | .failed errno => .error errno
  | .ready more => .ok (stream.take (min (more + 1) count))

lemma read_socket_ok {event : ReadEvent} {count : ℕ} {stream data : List α}
    (h : readSocket event count stream = .ok data) : data.length ≤ count ∧ data ++ stream.drop data.length = stream := by
  cases event with
  | failed errno => cases h
  | ready n =>
    obtain rfl : stream.take (min (n + 1) count) = data := Except.ok.inj h
    refine ⟨?_, ?_⟩
    · rw [List.length_take]
      omega
    · rw [List.length_take]
      rcases Nat.le_total (min (n + 1) count) stream.length with hl | hl
      · rw [Nat.min_eq_left hl, List.take_append_drop]
      · rw [Nat.min_eq_right hl, List.take_of_length_le hl, List.drop_length, List.append_nil]

end Ril.Lib

/-! A stream that is cut into messages by a decoder of its first message. -/

namespace Ril.Lib

variable {α β : Type} (next : List α → Option (β × List α))

/-- The messages at the front of the stream, and what follows them -/
inductive Parses : List α → List β → List α → Prop
  | nil (s : List α) : Parses s [] s
  | cons {s t u : List α} {m : β} {ms : List β} : next s = some (m, t) → Parses t ms u → Parses s (m :: ms) u

/-- A message is found where it was when more is received. -/
def Stable : Prop := ∀ s m t u, next s = some (m, t) → next (s ++ u) = some (m, t ++ u)

variable {next} {s t u : List α} {m : β} {ms ms' : List β}

namespace Parses

lemma append (h : Parses next s ms t) (h' : Parses next t ms' u) : Parses next s (ms ++ ms') u := by
  induction h with
  | nil => exact h'
  | cons hn _ ih => exact .cons hn (ih h')

lemma snoc (h : Parses next s ms t) (hn : next t = some (m, u)) : Parses next s (ms ++ [m]) u :=
  h.append (.cons hn (.nil u))

/-- More is received. -/
lemma extend (h : Parses next s ms t) (hs : Stable next) (more : List α) : Parses next (s ++ more) ms (t ++ more) := by
  induction h with
  | nil s => exact .nil (s ++ more)
  | cons hn _ ih => exact .cons (hs _ _ _ more hn) ih

end Parses

/-! ### Pieces of one sequence -/

lemma flatten_length_le {ws cs : List (List α)} (h : List.Forall₂ (fun w c => w.length ≤ c.length) ws cs) :
    ws.flatten.length ≤ cs.flatten.length := by
  induction h with
  | nil => exact Nat.le_refl _
  | cons hw _ ih =>
    rw [List.flatten_cons, List.flatten_cons, List.length_append, List.length_append]
    exact Nat.add_le_add hw ih

lemma pieces_eq {ws cs : List (List α)} {rest : List α} (h : List.Forall₂ (fun w c => w.length ≤ c.length) ws cs)
    (he : cs.flatten ++ rest = ws.flatten) : cs = ws ∧ rest = [] := by
  induction h with
  | nil => exact ⟨rfl, he⟩
  | cons hw htail ih =>
    rename_i w c ws cs
    have hle := flatten_length_le htail
    have hl := congrArg List.length he
    simp only [List.flatten_cons, List.length_append] at hl
    rw [List.flatten_cons, List.flatten_cons, List.append_assoc] at he
    obtain ⟨hc, hrest⟩ := List.append_inj he (by omega)
    obtain ⟨hcs, hr⟩ := ih hrest
    exact ⟨by rw [hc, hcs], hr⟩

end Ril.Lib
