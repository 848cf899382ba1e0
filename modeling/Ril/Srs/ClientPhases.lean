import Ril.Lib.Extends
import Ril.Srs.Loop

/-! What becomes of the clients of the server in a run in which no send fails. -/

namespace Ril.Srs

open Lib Ipc

/-- A send or a receive of the client has failed, or the handler of its message. -/
def Failed (trace : List SrsEvent) (address : ℕ) : Prop :=
  .receiveFailed address ∈ trace ∨ .refused address ∈ trace ∨ .sendFailed address ∈ trace

def SrsLoopState.ready : SrsLoopState → List ℕ
  | signalled ready | finding ready | receiving ready | dispatching ready _ | reporting ready _ | closing ready
  | unregistering ready => ready
  | _ => []

/-- The loop works on the client that its variable points to. -/
def SrsLoopState.serving : SrsLoopState → Bool
  | receiving _ | dispatching _ _ | closing _ | unregistering _ => true
  | _ => false

def SrsLoopState.sending : SrsLoopState → Bool
  | receiving _ | dispatching _ _ => true
  | _ => false

def SrsLoopState.ending : SrsLoopState → Bool
  | closing _ | unregistering _ => true
  | _ => false

/-- The loop has used no memory of others, and no send has failed. -/
def SrsLoopState.safe : SrsLoopState → Bool
  | faulted | reporting _ _ => false
  | _ => true

/-- What has become of a client that was registered -/
inductive Phase (s : SrsData) (c : SrsClient) : Prop
  | serving (hm : c ∈ s.clients) (ho : c.fd ∈ s.openFds) (hf : ¬Failed s.trace c.address)
  | failing (hm : c ∈ s.clients) (ho : c.fd ∈ s.openFds) (hf : Failed s.trace c.address)
      (hn : .closed c.address c.fd ∉ s.trace) (hl : ∃ ready, s.loop = .closing ready)
      (hp : s.client = .address c.address)
  | closed (hm : c ∈ s.clients) (hf : Failed s.trace c.address) (hc : .closed c.address c.fd ∈ s.trace)
      (hl : ∃ ready, s.loop = .unregistering ready) (hp : s.client = .address c.address)
  | gone (hm : c ∉ s.clients) (hf : Failed s.trace c.address) (hc : .closed c.address c.fd ∈ s.trace)
      (hu : .unregistered c.address ∈ s.trace)

/-- A client that is registered and has not been closed -/
def Live (s : SrsData) (c : SrsClient) : Prop := c ∈ s.clients ∧ .closed c.address c.fd ∉ s.trace

/-- A message of the client is still to be received in this iteration. -/
def Waiting (s : SrsData) (c : SrsClient) : Prop :=
  s.loop = .returned ∨ (Live s c ∧ c.fd ∈ s.loop.ready) ∨
    (∃ ready, s.loop = .receiving ready) ∧ s.client = .address c.address

/-- Every client that was ready in this iteration has been served or is waiting. -/
def Round (s : SrsData) : Prop :=
  ∀ later ready earlier, s.trace = later ++ .selected ready :: earlier → (∀ ready', .selected ready' ∉ later) →
    ∀ c : SrsClient, .registered c.address c.fd ∈ earlier → .unregistered c.address ∉ earlier → c.fd ∈ ready →
      (.received c.address ∈ later ∨ .receiveFailed c.address ∈ later) ∨ Waiting s c

/-- The addresses are given once, and a client that was closed or unregistered has failed. -/
structure Recorded (trace : List SrsEvent) (next : ℕ) : Prop where
  registered_lt : ∀ address fd, .registered address fd ∈ trace → address < next
  registered_unique : ∀ address fd fd', .registered address fd ∈ trace → .registered address fd' ∈ trace → fd = fd'
  closed_failed : ∀ address fd, .closed address fd ∈ trace → .registered address fd ∈ trace ∧ Failed trace address
  unregistered_failed : ∀ address, .unregistered address ∈ trace → Failed trace address
  failed_lt : ∀ address, Failed trace address → address < next

structure Tidy (s : SrsData) : Prop extends Recorded s.trace s.next where
  client_registered : ∀ c ∈ s.clients, .registered c.address c.fd ∈ s.trace
  nodup : (s.clients.map (·.address)).Nodup
  phase : ∀ c : SrsClient, .registered c.address c.fd ∈ s.trace → Phase s c
  distinct : ∀ c c', Live s c → Live s c' → c.fd = c'.fd → c = c'
  pointer : s.loop.serving = true → ∃ c ∈ s.clients, s.client = .address c.address ∧ c.fd ∉ s.loop.ready
  descriptor : s.loop.sending = true → s.clientFd.isSome = true
  ending_failed : s.loop.ending = true → ∀ address, s.client = .address address → Failed s.trace address
  round : Round s
  safe : s.loop.safe = true

variable {width : ℕ} {s t : SrsData} {c : SrsClient} {trace : List SrsEvent} {address : ℕ}

/-- The client that the event blames -/
def SrsEvent.blamed : SrsEvent → Option ℕ
  | receiveFailed address | refused address | sendFailed address => some address
  | _ => none

lemma failed_iff : Failed trace address ↔ ∃ e ∈ trace, e.blamed = some address := by
  constructor
  · rintro (h | h | h)
    · exact ⟨_, h, rfl⟩
    · exact ⟨_, h, rfl⟩
    · exact ⟨_, h, rfl⟩
  · rintro ⟨e, h, he⟩
    cases e with
    | receiveFailed a => exact .inl (Option.some.inj he ▸ h)
    | refused a => exact .inr (.inl (Option.some.inj he ▸ h))
    | sendFailed a => exact .inr (.inr (Option.some.inj he ▸ h))
    | _ => cases he

lemma failed_cons {e : SrsEvent} : Failed (e :: trace) address ↔ e.blamed = some address ∨ Failed trace address := by
  rw [failed_iff, failed_iff, List.exists_mem_cons_iff]

lemma failed_append {new : List SrsEvent} :
    Failed (new ++ trace) address ↔ Failed new address ∨ Failed trace address := by
  simp only [failed_iff, List.mem_append, or_and_right, exists_or]

lemma failed_cons_of_none {e : SrsEvent} (he : e.blamed = none) :
    Failed (e :: trace) address ↔ Failed trace address := by
  rw [failed_cons, he]
  exact or_iff_right (Option.some_ne_none address).symm

/-- Whether the event changes the clients that are registered and open -/
def SrsEvent.placing : SrsEvent → Bool
  | registered _ _ | closed _ _ | unregistered _ => true
  | _ => false

namespace Recorded

variable {next : ℕ} (h : Recorded trace next)

include h

lemma logs {new : List SrsEvent} (hnew : ∀ e ∈ new, e.placing = false)
    (hblamed : ∀ address, Failed new address → address < next) : Recorded (new ++ trace) next := by
  have hmem {e : SrsEvent} (he : e.placing = true) : e ∈ new ++ trace ↔ e ∈ trace := by
    rw [List.mem_append]
    exact or_iff_right fun hm => Bool.false_ne_true ((hnew e hm).symm.trans he)
  have hkept (address : ℕ) (hf : Failed trace address) : Failed (new ++ trace) address := failed_append.mpr (.inr hf)
  constructor
  · exact fun address fd hr => h.registered_lt address fd ((hmem rfl).mp hr)
  · exact fun address fd fd' hr hr' => h.registered_unique address fd fd' ((hmem rfl).mp hr) ((hmem rfl).mp hr')
  · intro address fd hc
    obtain ⟨hr, hf⟩ := h.closed_failed address fd ((hmem rfl).mp hc)
    exact ⟨(hmem rfl).mpr hr, hkept address hf⟩
  · exact fun address hu => hkept address (h.unregistered_failed address ((hmem rfl).mp hu))
  · exact fun address hf => (failed_append.mp hf).elim (hblamed address) (h.failed_lt address)

lemma register (fd : ℕ) : Recorded (.registered next fd :: trace) (next + 1) := by
  have hkept (address : ℕ) (hf : Failed trace address) : Failed (.registered next fd :: trace) address :=
    failed_cons.mpr (.inr hf)
  have hfresh {fd' : ℕ} : .registered next fd' ∉ trace := fun hr => Nat.lt_irrefl next (h.registered_lt next fd' hr)
  constructor
  · intro address fd' hr
    rcases List.mem_cons.mp hr with hr | hr
    · rw [(SrsEvent.registered.inj hr).1]
      exact Nat.lt_succ_self next
    · exact Nat.lt_succ_of_lt (h.registered_lt address fd' hr)
  · intro address fd₁ fd₂ hr₁ hr₂
    rcases List.mem_cons.mp hr₁ with he₁ | hm₁
    · obtain ⟨rfl, rfl⟩ := SrsEvent.registered.inj he₁
      rcases List.mem_cons.mp hr₂ with he₂ | hm₂
      · exact (SrsEvent.registered.inj he₂).2.symm
      · exact absurd hm₂ hfresh
    · rcases List.mem_cons.mp hr₂ with he₂ | hm₂
      · obtain ⟨rfl, rfl⟩ := SrsEvent.registered.inj he₂
        exact absurd hm₁ hfresh
      · exact h.registered_unique address fd₁ fd₂ hm₁ hm₂
  · intro address fd' hc
    obtain ⟨hr, hf⟩ := h.closed_failed address fd' (by simpa using hc)
    exact ⟨List.mem_cons_of_mem _ hr, hkept address hf⟩
  · exact fun address hu => hkept address (h.unregistered_failed address (by simpa using hu))
  · exact fun address hf => Nat.lt_succ_of_lt (h.failed_lt address ((failed_cons_of_none rfl).mp hf))

lemma close {fd : ℕ} (hr : .registered address fd ∈ trace) (hf : Failed trace address) :
    Recorded (.closed address fd :: trace) next := by
  have hkept (address' : ℕ) (hf : Failed trace address') : Failed (.closed address fd :: trace) address' :=
    failed_cons.mpr (.inr hf)
  constructor
  · exact fun address' fd' hr => h.registered_lt address' fd' (by simpa using hr)
  · exact fun address' fd₁ fd₂ hr₁ hr₂ =>
      h.registered_unique address' fd₁ fd₂ (by simpa using hr₁) (by simpa using hr₂)
  · intro address' fd' hc
    rcases List.mem_cons.mp hc with hc | hc
    · obtain ⟨rfl, rfl⟩ := SrsEvent.closed.inj hc
      exact ⟨List.mem_cons_of_mem _ hr, hkept address' hf⟩
    · obtain ⟨hr', hf'⟩ := h.closed_failed address' fd' hc
      exact ⟨List.mem_cons_of_mem _ hr', hkept address' hf'⟩
  · exact fun address' hu => hkept address' (h.unregistered_failed address' (by simpa using hu))
  · exact fun address' hf => h.failed_lt address' ((failed_cons_of_none rfl).mp hf)

lemma unregister (hf : Failed trace address) : Recorded (.unregistered address :: trace) next := by
  have hkept (address' : ℕ) (hf : Failed trace address') : Failed (.unregistered address :: trace) address' :=
    failed_cons.mpr (.inr hf)
  constructor
  · exact fun address' fd hr => h.registered_lt address' fd (by simpa using hr)
  · exact fun address' fd₁ fd₂ hr₁ hr₂ =>
      h.registered_unique address' fd₁ fd₂ (by simpa using hr₁) (by simpa using hr₂)
  · intro address' fd hc
    obtain ⟨hr, hf⟩ := h.closed_failed address' fd (by simpa using hc)
    exact ⟨List.mem_cons_of_mem _ hr, hkept address' hf⟩
  · intro address' hu
    rcases List.mem_cons.mp hu with hu | hu
    · rw [SrsEvent.unregistered.inj hu]
      exact hkept address hf
    · exact hkept address' (h.unregistered_failed address' hu)
  · exact fun address' hf => h.failed_lt address' ((failed_cons_of_none rfl).mp hf)

end Recorded

lemma mem_erase_address {clients : List SrsClient} (hn : (clients.map (·.address)).Nodup) :
    c ∈ clients.eraseP (·.address == address) ↔ c ∈ clients ∧ c.address ≠ address := by
  induction clients with
  | nil => simp
  | cons c' clients ih =>
    rw [List.map_cons, List.nodup_cons] at hn
    rw [List.eraseP_cons]
    by_cases ha : c'.address = address
    · have hne : c ∈ clients → c.address ≠ address :=
        fun hm he => hn.1 (List.mem_map.mpr ⟨c, hm, he.trans ha.symm⟩)
      rw [beq_iff_eq.mpr ha, cond_true, List.mem_cons]
      grind
    · rw [beq_eq_false_iff_ne.mpr ha, cond_false, List.mem_cons, ih hn.2, List.mem_cons]
      grind

lemma Phase.calm (h : Phase s c) (he : s.loop.ending = false) :
    (c ∈ s.clients ∧ c.fd ∈ s.openFds ∧ ¬Failed s.trace c.address) ∨
      (c ∉ s.clients ∧ Failed s.trace c.address ∧ .closed c.address c.fd ∈ s.trace ∧
        .unregistered c.address ∈ s.trace) := by
  cases h with
  | serving hm ho hf => exact .inl ⟨hm, ho, hf⟩
  | failing _ _ _ _ hl _ =>
    obtain ⟨ready, hl⟩ := hl
    rw [hl] at he
    cases he
  | closed _ _ _ hl _ =>
    obtain ⟨ready, hl⟩ := hl
    rw [hl] at he
    cases he
  | gone hm hf hc hu => exact .inr ⟨hm, hf, hc, hu⟩

/-- Where no message is received, only live clients are waiting. -/
lemma Waiting.live {loop : SrsLoopState} (hw : Waiting s c) (hl : s.loop = loop) (hr : loop ≠ .returned)
    (hn : ∀ ready, loop ≠ .receiving ready) : Live s c ∧ c.fd ∈ loop.ready := by
  subst hl
  rcases hw with hw | hw | ⟨⟨ready, hw⟩, -⟩
  · exact absurd hw hr
  · exact hw
  · exact absurd hw (hn ready)

lemma Round.extend (new : List SrsEvent) (h : Round s) (ht : t.trace = new ++ s.trace)
    (hn : ∀ ready, .selected ready ∉ new)
    (hw : ∀ c, Waiting s c → (.received c.address ∈ new ∨ .receiveFailed c.address ∈ new) ∨ Waiting t c) : Round t := by
  intro later ready earlier he hl c hr hu hf
  rw [ht] at he
  rcases split_append he with ⟨mid, hnew, -⟩ | ⟨later', hs⟩
  · refine absurd ?_ (hn ready)
    rw [hnew]
    exact List.mem_append_right _ List.mem_cons_self
  · obtain rfl : new ++ later' = later := by
      rw [hs, ← List.append_assoc] at he
      exact List.append_cancel_right he
    have hl' : ∀ ready', .selected ready' ∉ later' := fun ready' hm => hl ready' (List.mem_append_right _ hm)
    rcases h later' ready earlier hs hl' c hr hu hf with (hm | hm) | hwait
    · exact .inl (.inl (List.mem_append_right _ hm))
    · exact .inl (.inr (List.mem_append_right _ hm))
    · rcases hw c hwait with (hm | hm) | hwait
      · exact .inl (.inl (List.mem_append_left _ hm))
      · exact .inl (.inr (List.mem_append_left _ hm))
      · exact .inr hwait

namespace Tidy

variable (h : Tidy s)

include h

lemma eq_of_address {c c' : SrsClient} (hm : c ∈ s.clients) (hm' : c' ∈ s.clients) (ha : c.address = c'.address) :
    c = c' := by
  have hfd : c.fd = c'.fd :=
    h.registered_unique c.address c.fd c'.fd (h.client_registered c hm) (ha ▸ h.client_registered c' hm')
  cases c
  cases c'
  cases ha
  cases hfd
  rfl

lemma pointee_eq (hm : c ∈ s.clients) (hp : s.client = .address c.address) : s.pointee = some c := by
  rw [SrsData.pointee, hp]
  cases hf : s.clients.find? (·.address == c.address) with
  | none => exact absurd (beq_self_eq_true c.address) (List.find?_eq_none.mp hf c hm)
  | some c' =>
    have ha : c'.address = c.address := by simpa using List.find?_some hf
    exact hf.trans (congrArg some (h.eq_of_address (List.mem_of_find?_eq_some hf) hm ha))

lemma not_reporting (ready : List ℕ) (flushed : Bool) : s.loop ≠ .reporting ready flushed := by
  intro hl
  have hsafe := h.safe
  rw [hl] at hsafe
  cases hsafe

lemma live_open (hl : Live s c) : c.fd ∈ s.openFds := by
  cases h.phase c (h.client_registered c hl.1) with
  | serving _ ho _ => exact ho
  | failing _ ho _ _ _ _ => exact ho
  | closed _ _ hc _ _ => exact absurd hc hl.2
  | gone hm _ _ _ => exact absurd hl.1 hm

lemma logs (new : List SrsEvent) (htrace : t.trace = new ++ s.trace) (hnew : ∀ e ∈ new, e.placing = false)
    (hclients : t.clients = s.clients) (hnext : t.next = s.next)
    (hphase : ∀ c, .registered c.address c.fd ∈ s.trace → Phase s c → Phase t c)
    (hblamed : ∀ address, Failed new address → address < s.next)
    (hpointer : t.loop.serving = true → ∃ c ∈ t.clients, t.client = .address c.address ∧ c.fd ∉ t.loop.ready)
    (hdescriptor : t.loop.sending = true → t.clientFd.isSome = true)
    (hending : t.loop.ending = true → ∀ address, t.client = .address address → Failed t.trace address)
    (hround : Round t) (hsafe : t.loop.safe = true) : Tidy t := by
  have hmem : ∀ e : SrsEvent, e.placing = true → (e ∈ t.trace ↔ e ∈ s.trace) := by
    intro e he
    rw [htrace, List.mem_append]
    exact or_iff_right fun hm => Bool.false_ne_true ((hnew e hm).symm.trans he)
  have hregistered (address fd : ℕ) := hmem (.registered address fd) rfl
  have hclosed (address fd : ℕ) := hmem (.closed address fd) rfl
  have hrecorded : Recorded t.trace t.next := by
    rw [htrace, hnext]
    exact h.toRecorded.logs hnew hblamed
  refine
    { toRecorded := hrecorded, client_registered := ?_, nodup := ?_, phase := ?_, distinct := ?_, pointer := hpointer
      descriptor := hdescriptor, ending_failed := hending, round := hround, safe := hsafe }
  · simp only [hregistered, hclients]
    exact h.client_registered
  · rw [hclients]
    exact h.nodup
  · intro c hr
    rw [hregistered] at hr
    exact hphase c hr (h.phase c hr)
  · simp only [Live, hclients, hclosed]
    exact h.distinct

lemma calm (hcalm : s.loop.ending = false) (hm : c ∈ s.clients) :
    c.fd ∈ s.openFds ∧ ¬Failed s.trace c.address ∧ Live s c := by
  rcases (h.phase c (h.client_registered c hm)).calm hcalm with ⟨-, ho, hf⟩ | ⟨hn, -⟩
  · exact ⟨ho, hf, hm, fun hc => hf (h.closed_failed _ _ hc).2⟩
  · exact absurd hm hn

/-- A step after which the loop goes on with no client that has failed. -/
lemma goes_on (new : List SrsEvent) (hcalm : s.loop.ending = false) (htrace : t.trace = new ++ s.trace)
    (hnew : ∀ e ∈ new, e.placing = false) (hnone : ∀ address, ¬Failed new address) (hclients : t.clients = s.clients)
    (hopen : t.openFds = s.openFds) (hnext : t.next = s.next) (hcalm' : t.loop.ending = false)
    (hpointer : t.loop.serving = true → ∃ c ∈ t.clients, t.client = .address c.address ∧ c.fd ∉ t.loop.ready)
    (hdescriptor : t.loop.sending = true → t.clientFd.isSome = true) (hround : Round t) (hsafe : t.loop.safe = true) :
    Tidy t := by
  refine h.logs new htrace hnew hclients hnext ?_ (fun address hf => absurd hf (hnone address)) hpointer hdescriptor
    (fun he => absurd (hcalm'.symm.trans he) Bool.false_ne_true) hround hsafe
  intro c _ hp
  have hfailed : Failed t.trace c.address ↔ Failed s.trace c.address := by
    rw [htrace, failed_append]
    exact or_iff_right (hnone c.address)
  rcases hp.calm hcalm with ⟨hm, ho, hf⟩ | ⟨hm, hf, hc, hu⟩
  · exact .serving (hclients ▸ hm) (hopen ▸ ho) (mt hfailed.mp hf)
  · exact .gone (hclients ▸ hm) (hfailed.mpr hf) (htrace ▸ List.mem_append_right _ hc)
      (htrace ▸ List.mem_append_right _ hu)

/-- A step after which the client is closed that its events blame. -/
lemma fails (new : List SrsEvent) {ready : List ℕ} (hserving : s.loop.serving = true) (hcalm : s.loop.ending = false)
    (hready : s.loop.ready = ready) (haddress : s.client = .address address) (htrace : t.trace = new ++ s.trace)
    (hnew : ∀ e ∈ new, e.placing = false) (hblamed : ∀ address', Failed new address' ↔ address' = address)
    (hclients : t.clients = s.clients) (hopen : t.openFds = s.openFds) (hnext : t.next = s.next)
    (hclient : t.client = s.client) (hloop : t.loop = .closing ready) (hround : Round t) : Tidy t := by
  obtain ⟨c₀, hm₀, hp₀, hfd₀⟩ := h.pointer hserving
  obtain rfl : c₀.address = address := ClientPointer.address.inj (hp₀.symm.trans haddress)
  have hfailed (address' : ℕ) : Failed t.trace address' ↔ address' = c₀.address ∨ Failed s.trace address' := by
    rw [htrace, failed_append, hblamed]
  refine h.logs new htrace hnew hclients hnext ?_ ?_ ?_ ?_ ?_ hround ?_
  · intro c hr hp
    rcases hp.calm hcalm with ⟨hm, ho, hf⟩ | ⟨hm, hf, hc, hu⟩
    · by_cases ha : c.address = c₀.address
      · refine .failing (hclients ▸ hm) (hopen ▸ ho) ((hfailed _).mpr (.inl ha)) ?_ ⟨ready, hloop⟩ ?_
        · rw [htrace]
          intro hc
          rcases List.mem_append.mp hc with hc | hc
          · exact absurd (hnew _ hc) (by simp [SrsEvent.placing])
          · exact hf (h.closed_failed _ _ hc).2
        · rw [hclient, hp₀, ha]
      · exact .serving (hclients ▸ hm) (hopen ▸ ho) (mt (hfailed _).mp (not_or.mpr ⟨ha, hf⟩))
    · exact .gone (hclients ▸ hm) ((hfailed _).mpr (.inr hf)) (htrace ▸ List.mem_append_right _ hc)
        (htrace ▸ List.mem_append_right _ hu)
  · intro address' hf
    rw [(hblamed address').mp hf]
    exact h.registered_lt _ _ (h.client_registered c₀ hm₀)
  · intro _
    refine ⟨c₀, hclients ▸ hm₀, hclient.trans hp₀, ?_⟩
    rw [hloop]
    exact hready ▸ hfd₀
  · intro hs
    rw [hloop] at hs
    cases hs
  · intro _ address' ha
    rw [hclient, hp₀] at ha
    exact (hfailed _).mpr (.inl (ClientPointer.address.inj ha).symm)
  · rw [hloop]
    rfl

end Tidy

end Ril.Srs
