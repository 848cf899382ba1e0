import Ril.Srs.ClientSteps

/-! What a failed send or receive does to the clients. -/

namespace Ril.Srs

open Lib Ipc

/-- The clients that failed, and no others, are closed and unregistered, once an event that is pending is handled; the
others are registered and open, and a message that was there when the loop looked has been received at the end of the
iteration. -/
structure Isolated (s : SrsData) : Prop where
  valid : s.loop ≠ .faulted
  others : ∀ address fd, .registered address fd ∈ s.trace → ¬Failed s.trace address →
    ⟨address, fd⟩ ∈ s.clients ∧ fd ∈ s.openFds
  closed_failed : ∀ address fd, .closed address fd ∈ s.trace →
    .registered address fd ∈ s.trace ∧ Failed s.trace address
  unregistered_failed : ∀ address, .unregistered address ∈ s.trace → Failed s.trace address
  concerned : s.loop = .iterating → s.event.count ≠ srsClientIoError → ∀ address fd,
    .registered address fd ∈ s.trace → Failed s.trace address →
      .closed address fd ∈ s.trace ∧ ⟨address, fd⟩ ∉ s.clients
  served : s.loop = .iterating → ∀ later ready earlier, s.trace = later ++ .selected ready :: earlier →
    (∀ ready', .selected ready' ∉ later) → ∀ address fd, .registered address fd ∈ earlier →
      .unregistered address ∉ earlier → fd ∈ ready → .received address ∈ later ∨ .receiveFailed address ∈ later

/-- No send fails, and no header declares more than the buffer holds. -/
def Faultless (width : ℕ) (s : SrsData) : SrsAction → Prop
  | .receive _ read => ∀ message, srsClientRecv width read = some message → message.data.isSome = true
  | .dispatch _ writable write => ∀ ready message answer, s.loop = .dispatching ready message →
      srsAnswer message = some answer → (srsClientSend writable write answer).1 = true
  | _ => True

/-! ### The pointer when an event is read -/

def SrsLoopState.outside : SrsLoopState → Bool
  | iterating | polling _ | signalled _ => true
  | _ => false

/-- The variable points to no client between two iterations. -/
def Pointless (s : SrsData) : Prop := s.loop.outside = true → ∀ address, s.client ≠ .address address

/-- What the event can hold as long as no send fails -/
def Signals (s : SrsData) : Prop :=
  (s.event.count = 0 ∨ s.event.count = srsClientChange) ∧ (s.server = .flushed → s.event.count = 0)

variable {width : ℕ} {s t : SrsData}

/-! ### What the functions of the loop leave -/

variable (s)

lemma read_event_keeps (ready : List ℕ) : (s.readEvent ready).event.count = 0 ∧
    (s.readEvent ready).server = s.server ∧ (s.readEvent ready).client = s.client := by
  have he : s.event.read.2 = .empty := rfl
  rcases hr : s.event.read with ⟨value, event⟩
  obtain rfl : event = .empty := (congrArg Prod.snd hr).symm.trans he
  cases value with
  | none =>
    rw [SrsData.readEvent, hr]
    exact ⟨rfl, rfl, rfl⟩
  | some value =>
    rw [SrsData.readEvent, hr]
    dsimp only
    split
    · exact ⟨rfl, rfl, rfl⟩
    · split
      · exact ⟨rfl, rfl, rfl⟩
      · exact ⟨rfl, rfl, rfl⟩

lemma find_keeps (ready : List ℕ) : (s.find ready).event = s.event ∧ (s.find ready).server = s.server ∧
    ((s.find ready).client = .null ∨ (s.find ready).loop.outside = false) := by
  rw [SrsData.find]
  split
  · exact ⟨rfl, rfl, .inl rfl⟩
  · exact ⟨rfl, rfl, .inr rfl⟩

lemma receive_keeps (ready : List ℕ) (address : ℕ) (readable : Bool) (read : Bytes) :
    (s.receive width ready address readable read).event = s.event ∧
      (s.receive width ready address readable read).server = s.server ∧
      (s.receive width ready address readable read).loop.outside = false := by
  dsimp only [SrsData.receive]
  split
  · exact ⟨rfl, rfl, rfl⟩
  · split
    · exact ⟨rfl, rfl, rfl⟩
    · exact ⟨rfl, rfl, rfl⟩

lemma dispatch_keeps (ready : List ℕ) (message : SrsReceived) (address : ℕ) (fmt : IpcSend) (writable : Bool)
    (write : ReadEvent) : (s.dispatch ready message address fmt writable write).event = s.event ∧
      (s.dispatch ready message address fmt writable write).server = s.server ∧
      (s.dispatch ready message address fmt writable write).loop.outside = false := by
  rw [SrsData.dispatch]
  split
  · exact ⟨rfl, rfl, rfl⟩
  · split
    · dsimp only
      split
      · exact ⟨rfl, rfl, rfl⟩
      · exact ⟨rfl, rfl, rfl⟩
      · exact ⟨rfl, rfl, rfl⟩
    · exact ⟨rfl, rfl, rfl⟩

lemma close_keeps (ready : List ℕ) : (s.close ready).event = s.event ∧ (s.close ready).server = s.server ∧
    (s.close ready).loop.outside = false := by
  rw [SrsData.close]
  split
  · exact ⟨rfl, rfl, rfl⟩
  · exact ⟨rfl, rfl, rfl⟩

variable {s}

lemma Signals.of_eq (h : Signals s) (he : t.event = s.event) (hs : t.server = s.server) : Signals t := by
  rw [Signals, he, hs]
  exact h

lemma Signals.ne_io_error (h : Signals s) : s.event.count ≠ srsClientIoError := by
  rcases h.1 with he | he
  · rw [he]
    decide
  · rw [he]
    decide

variable {a : SrsAction}

lemma tidy_step (h : Tidy s) (hs : Signals s) (hf : Faultless width s a) (ht : SrsStep width s a t) : Tidy t := by
  cases ht with
  | accept _ hfd => exact h.register hfd
  | changeFlush _ => exact h.signals rfl rfl rfl rfl rfl rfl rfl
  | changeFails _ => exact h.signals rfl rfl rfl rfl rfl rfl rfl
  | changeWrite _ _ => exact h.signals rfl rfl rfl rfl rfl rfl rfl
  | iterate hl => exact h.iterate hl
  | select hl =>
    refine h.select hl ?_
    split
    · exact .inl rfl
    · exact .inr rfl
  | selectFails hl => exact h.select_fails hl
  | readEvent hl => exact h.read_event hl hs.ne_io_error
  | find hl => exact h.find hl
  | receive hl hp => exact h.receive hl hp hf
  | dispatch hl hp => exact h.dispatch hl hp fun answer ha => hf _ _ answer hl ha
  | reportFlush hl => exact absurd hl (h.not_reporting _ _)
  | reportWrite hl => exact absurd hl (h.not_reporting _ _)
  | close hl => exact h.close hl
  | unregister hl hp => exact h.unregister hl hp

lemma signals_step (h : Tidy s) (hs : Signals s) (ht : SrsStep width s a t) : Signals t := by
  cases ht with
  | accept _ _ => exact ⟨hs.1, fun hserver => by cases hserver⟩
  | changeFlush _ => exact ⟨.inl rfl, fun _ => rfl⟩
  | changeFails _ => exact ⟨hs.1, fun hserver => by cases hserver⟩
  | changeWrite hserver hw =>
    have hcount := EventFd.write_count hw
    rw [hs.2 hserver, Nat.zero_add] at hcount
    exact ⟨.inr hcount, fun hserver => by cases hserver⟩
  | iterate _ => exact hs.of_eq rfl rfl
  | select _ => exact hs.of_eq rfl rfl
  | selectFails _ => exact hs.of_eq rfl rfl
  | readEvent _ => exact ⟨.inl (read_event_keeps s _).1, fun _ => (read_event_keeps s _).1⟩
  | find _ => exact hs.of_eq (find_keeps s _).1 (find_keeps s _).2.1
  | receive _ _ => exact hs.of_eq (receive_keeps s _ _ _ _).1 (receive_keeps s _ _ _ _).2.1
  | dispatch _ _ => exact hs.of_eq (dispatch_keeps s _ _ _ _ _ _).1 (dispatch_keeps s _ _ _ _ _ _).2.1
  | reportFlush hl => exact absurd hl (h.not_reporting _ _)
  | reportWrite hl => exact absurd hl (h.not_reporting _ _)
  | close _ => exact hs.of_eq (close_keeps s _).1 (close_keeps s _).2.1
  | unregister _ _ => exact hs.of_eq rfl rfl

lemma faultless_run (h : Reaches (srsStep width) (Faultless width) {} s) : Tidy s ∧ Signals s := by
  induction h with
  | refl => exact ⟨tidy_init, .inl rfl, fun _ => rfl⟩
  | tail _ hf ht ih => exact ⟨tidy_step ih.1 ih.2 hf (srs_step ht), signals_step ih.1 ih.2 (srs_step ht)⟩

lemma Tidy.isolated (h : Tidy s) : Isolated s where
  valid := by
    intro hl
    have hsafe := h.safe
    rw [hl] at hsafe
    cases hsafe
  others := by
    intro address fd hr hf
    cases h.phase ⟨address, fd⟩ hr with
    | serving hm ho _ => exact ⟨hm, ho⟩
    | failing _ _ hf' _ _ _ => exact absurd hf' hf
    | closed _ hf' _ _ _ => exact absurd hf' hf
    | gone _ hf' _ _ => exact absurd hf' hf
  closed_failed := h.closed_failed
  unregistered_failed := h.unregistered_failed
  concerned := by
    intro hl _ address fd hr hf
    have hcalm : s.loop.ending = false := by rw [hl]; rfl
    rcases (h.phase ⟨address, fd⟩ hr).calm hcalm with ⟨-, -, hn⟩ | ⟨hm, -, hc, -⟩
    · exact absurd hf hn
    · exact ⟨hc, hm⟩
  served := by
    intro hl later ready earlier he hlater address fd hr hu hfd
    refine (h.round later ready earlier he hlater ⟨address, fd⟩ hr hu hfd).resolve_right ?_
    simp [Waiting, hl, SrsLoopState.ready]

lemma pointless_step (h : Pointless s) (ht : SrsStep width s a t) : Pointless t := by
  cases ht with
  | accept _ _ => exact h
  | changeFlush _ => exact h
  | changeFails _ => exact h
  | changeWrite _ _ => exact h
  | iterate hl => exact fun _ => h (by rw [hl]; rfl)
  | select hl => exact fun _ => h (by rw [hl]; rfl)
  | selectFails hl => exact fun _ => h (by rw [hl]; rfl)
  | readEvent hl =>
    intro _
    rw [(read_event_keeps s _).2.2]
    exact h (by rw [hl]; rfl)
  | find _ =>
    rcases (find_keeps s _).2.2 with hn | hout
    · intro _ address
      rw [hn]
      exact ClientPointer.noConfusion
    · exact fun hout' => absurd (hout.symm.trans hout') Bool.false_ne_true
  | receive _ _ => exact fun hout => absurd ((receive_keeps s _ _ _ _).2.2.symm.trans hout) Bool.false_ne_true
  | dispatch _ _ => exact fun hout => absurd ((dispatch_keeps s _ _ _ _ _ _).2.2.symm.trans hout) Bool.false_ne_true
  | reportFlush _ => exact fun hout => by cases hout
  | reportWrite _ => exact fun hout => by cases hout
  | close _ => exact fun hout => absurd ((close_keeps s _).2.2.symm.trans hout) Bool.false_ne_true
  | unregister _ _ => exact fun hout => by cases hout

lemma pointless_run (h : Reaches (srsStep width) (fun _ _ => True) {} s) : Pointless s := by
  induction h with
  | refl => exact fun _ _ => ClientPointer.noConfusion
  | tail _ _ ht ih => exact pointless_step ih (srs_step ht)

/-- The variable does not point to a client when the failure of a send is reported. -/
lemma io_error_faults {ready : List ℕ} (h : Pointless s) (hl : s.loop = .signalled ready)
    (he : s.event.count = srsClientIoError) : ∃ s₁ s₂, srsStep width s .readEvent = some s₁ ∧
      srsStep width s₁ .close = some s₂ ∧ s₂.loop = .faulted := by
  have hr : s.event.read.1 = some srsClientIoError := EventFd.read_eq_some.mpr ⟨he, by decide⟩
  have hread : s.readEvent ready = { s with event := .empty, loop := .closing ready } := by
    have hpair : s.event.read = (some srsClientIoError, .empty) := Prod.ext hr rfl
    rw [SrsData.readEvent, hpair]
    rfl
  have hnone : s.pointee = none := by
    rw [SrsData.pointee]
    cases hc : s.client with
    | address address => exact absurd hc (h (by rw [hl]; rfl) address)
    | uninitialised => rfl
    | null => rfl
  refine ⟨s.readEvent ready, (s.readEvent ready).close ready, ?_, ?_, ?_⟩
  · simp only [srsStep, hl]
  · rw [hread]
    rfl
  · have hnone' : (s.readEvent ready).pointee = none := by
      rw [hread]
      exact hnone
    rw [SrsData.close, hnone']

/-- `Faultless`, decided -/
def faultlessCheck (s : SrsData) : SrsAction → Bool
  | .receive _ read => (srsClientRecv 64 read).all (·.data.isSome)
  | .dispatch _ writable write =>
    match s.loop with
    | .dispatching _ message => (srsAnswer message).all fun answer => (srsClientSend writable write answer).1
    | _ => true
  | _ => true

lemma faultless_of_check (h : faultlessCheck s a = true) : Faultless 64 s a := by
  cases a with
  | receive readable read =>
    intro message hm
    rw [faultlessCheck, hm, Option.all_some] at h
    exact h
  | dispatch fmt writable write =>
    intro ready message answer hl ha
    simp only [faultlessCheck, hl, ha, Option.all_some] at h
    exact h
  | _ => trivial

lemma reaches_srs {ok : SrsData → SrsAction → Bool} {P : SrsData → SrsAction → Prop} {as : List SrsAction}
    (hr : (run (srsStep 64) {} as).isSome = true) (hm : runMeets (srsStep 64) ok {} as = true)
    (hok : ∀ s a, ok s a = true → P s a) : Reaches (srsStep 64) P {} (srsFrom as) := by
  exact .of_run as (run_srs_from hr) hm hok

/-- Two clients connect, and the first is ready. -/
def readyRun : List SrsAction := [.accept 5, .changeFlush, .changeWrite, .accept 7, .changeFlush, .changeWrite,
  .iterate, .select [5], .readEvent, .find]

/-- The first client asks for an answer, which is not taken. -/
def unansweredRun : List SrsAction := readyRun ++ [
  .receive true [0x0a, 0x00, 0x00, 0x00, 0x01, 0x01, 0xfe, 0xaf, 0x0c, 0x00],
  .dispatch ⟨true, true, true⟩ true (.failed .econnreset), .reportFlush, .reportWrite]

/-- A third client connects before the report is read. -/
def overwrittenRun : List SrsAction := unansweredRun ++ [.accept 9, .changeFlush, .changeWrite, .find]

end Ril.Srs
