import Ril.Libril.Reconnect

/-! Which answers go to the connection that their command came from. -/

namespace Ril.Libril

open Lib

/-- The answer to the request would be written, once its thread has come so far. -/
def Uncancelled (r : CommandRequest) : Prop := r.info.isLocal = false ∧ r.info.cancelled = false

/-- The thread has not read `fdCommand` yet, and will. -/
def Unaimed (c : Completion) : Prop :=
  match c.stage with
  | .dequeued => Uncancelled c.request
  | .tested => True
  | .marshalled => True
  | .holding _ => False
  | .headerWritten _ => False

/-- A client is accepted with a descriptor that nobody holds any more, and it gets a command socket for which no answer
is outstanding. -/
def Separated (d : Rild) : RildAction → Prop
  | .accept _ fd => (∀ s, d.fdCommand s ≠ some fd) ∧ ∀ c ∈ d.completions, stageFd c.stage ≠ some fd
  | .publish => ∀ s fd, d.loop = .accepted s fd → (∀ r ∈ d.pending s, ¬Uncancelled r) ∧
      ∀ c ∈ d.completions, c.request.info.socketId = s → ¬Unaimed c
  | _ => True

/-- What is written for the request now would go to its connection. -/
def Aimed (d : Rild) (r : CommandRequest) : Prop :=
  ∀ fd connection, d.fdCommand r.info.socketId = some fd → d.fds fd = some connection → r.connection = some connection

def CompletionAimed (d : Rild) (c : Completion) : Prop :=
  (Unaimed c → Aimed d c.request) ∧
    ∀ fd connection, stageFd c.stage = some fd → d.fds fd = some connection → c.request.connection = some connection

def Known (d : Rild) (r : CommandRequest) : Prop :=
  ∀ connection, r.connection = some connection → (connection, r.info.token) ∈ d.received

structure Answering (d : Rild) : Prop where
  socket : ∀ s, ∀ r ∈ d.pending s, r.info.socketId = s
  pending : ∀ s, ∀ r ∈ d.pending s, Uncancelled r → Aimed d r
  completions : ∀ c ∈ d.completions, CompletionAimed d c
  known : ∀ s, ∀ r ∈ d.pending s, Known d r
  known_completions : ∀ c ∈ d.completions, Known d c.request
  written : ∀ w ∈ d.written, w ∈ d.received

variable {d d' : Rild}

/-- No descriptor has another connection than before, and no command socket another descriptor. -/
structure Shrinks (d d' : Rild) : Prop where
  fds : ∀ fd connection, d'.fds fd = some connection → d.fds fd = some connection
  fdCommand : ∀ s fd, d'.fdCommand s = some fd → d.fdCommand s = some fd
  received : d'.received = d.received

lemma Shrinks.refl (d : Rild) : Shrinks d d := ⟨fun _ _ h => h, fun _ _ h => h, rfl⟩

lemma Shrinks.aimed (h : Shrinks d d') {r : CommandRequest} (ha : Aimed d r) : Aimed d' r :=
  fun fd connection h1 h2 => ha fd connection (h.fdCommand _ _ h1) (h.fds _ _ h2)

lemma Shrinks.completion (h : Shrinks d d') {c : Completion} (hc : CompletionAimed d c) : CompletionAimed d' c :=
  ⟨fun hu => h.aimed (hc.1 hu), fun fd connection h1 h2 => hc.2 fd connection h1 (h.fds _ _ h2)⟩

lemma Shrinks.known (h : Shrinks d d') {r : CommandRequest} (hk : Known d r) : Known d' r := by
  intro connection hr
  rw [h.received]
  exact hk connection hr

/-- Nothing was received, and every request that is there was there before or is cancelled. -/
lemma Answering.shrink (h : Answering d) (hs : Shrinks d d')
    (hp : ∀ s, ∀ r ∈ d'.pending s, r ∈ d.pending s ∨ ∃ r' ∈ d.pending s, r.info.cancelled = true ∧
      r.info.socketId = r'.info.socketId ∧ r.info.token = r'.info.token ∧ r.connection = r'.connection)
    (hc : ∀ c ∈ d'.completions, CompletionAimed d c ∧ Known d c.request)
    (hw : ∀ w ∈ d'.written, w ∈ d.received) : Answering d' := by
  refine ⟨fun s r hr => ?_, fun s r hr hu => ?_, fun c hm => hs.completion (hc c hm).1, fun s r hr => ?_,
    fun c hm => hs.known (hc c hm).2, fun w hm => ?_⟩
  · rcases hp s r hr with hr | ⟨r', hr', -, h1, -, -⟩
    · exact h.socket s r hr
    · rw [h1]
      exact h.socket s r' hr'
  · rcases hp s r hr with hr | ⟨r', -, h1, -⟩
    · exact hs.aimed (h.pending s r hr hu)
    · exact absurd hu.2 (by simp [h1])
  · rcases hp s r hr with hr | ⟨r', hr', -, -, h2, h3⟩
    · exact hs.known (h.known s r hr)
    · intro connection he
      rw [h2]
      exact hs.known (h.known s r' hr') connection (h3 ▸ he)
  · rw [hs.received]
    exact hw w hm

lemma cancel_all_spec {s : RilSocketId} (p : RilSocketId → List CommandRequest) (s' : RilSocketId) :
    ∀ r ∈ Function.update p s (cancelAll (p s)) s', r ∈ p s' ∨ ∃ r' ∈ p s', r.info.cancelled = true ∧
      r.info.socketId = r'.info.socketId ∧ r.info.token = r'.info.token ∧ r.connection = r'.connection := by
  intro r hr
  by_cases hs : s' = s
  · obtain rfl := hs
    rw [Function.update_self, cancelAll] at hr
    obtain ⟨r', hr', rfl⟩ := List.mem_map.mp hr
    exact .inr ⟨r', hr', rfl, rfl, rfl, rfl⟩
  · rw [Function.update_of_ne hs] at hr
    exact .inl hr

lemma erased_eq {κ β : Type} [DecidableEq κ] {f : κ → Option β} {k k' : κ} {b : β}
    (h : Function.update f k none k' = some b) : f k' = some b := by
  by_cases hk : k' = k
  · rw [hk, Function.update_self] at h
    cases h
  · rwa [Function.update_of_ne hk] at h

lemma Answering.start : Answering rildStart where
  socket _ _ hr := absurd hr List.not_mem_nil
  pending _ _ hr := absurd hr List.not_mem_nil
  completions _ hc := absurd hc List.not_mem_nil
  known _ _ hr := absurd hr List.not_mem_nil
  known_completions _ hc := absurd hc List.not_mem_nil
  written _ hw := absurd hw List.not_mem_nil

lemma Answering.written_mem (h : Answering d) {c : Completion} (hc : c ∈ d.completions) {fd : ℕ}
    (hf : stageFd c.stage = some fd) : ∀ w ∈ (d.write fd c.request.info.token).written, w ∈ d.received := by
  rw [Rild.write]
  cases hfd : d.fds fd with
  | none => exact h.written
  | some connection =>
    intro w hw
    rcases List.mem_append.mp hw with hw | hw
    · exact h.written w hw
    · rw [List.mem_singleton] at hw
      rw [hw]
      exact h.known_completions c hc connection ((h.completions c hc).2 fd connection hf hfd)

lemma write_shrinks (d : Rild) (fd : ℕ) (token : Int32) : Shrinks d (d.write fd token) ∧
    (d.write fd token).pending = d.pending ∧ (d.write fd token).completions = d.completions := by
  rw [Rild.write]
  split
  · exact ⟨.refl d, rfl, rfl⟩
  · exact ⟨⟨fun _ _ h => h, fun _ _ h => h, rfl⟩, rfl, rfl⟩

lemma Answering.done (h : Answering d) {d₁ : Rild} (hs : Shrinks d d₁) (hp : d₁.pending = d.pending)
    (hc : d₁.completions = d.completions) (hw : ∀ w ∈ d₁.written, w ∈ d.received) (i : ℕ) : Answering (d₁.done i) := by
  have hs' : Shrinks d (d₁.done i) := ⟨hs.fds, hs.fdCommand, hs.received⟩
  refine h.shrink hs' (fun s r hr => .inl ?_) (fun c hm => ?_) hw
  · rw [← hp]
    exact hr
  · have hm' : c ∈ d.completions := by
      rw [← hc]
      exact List.mem_of_mem_eraseIdx hm
    exact ⟨h.completions c hm', h.known_completions c hm'⟩

lemma Answering.setStage (h : Answering d) {d₁ : Rild} (hs : Shrinks d d₁) (hp : d₁.pending = d.pending)
    (hc : d₁.completions = d.completions) (hw : ∀ w ∈ d₁.written, w ∈ d.received) {i : ℕ} {c : Completion}
    (hi : c ∈ d.completions) {stage : Stage} (ha : CompletionAimed d { c with stage := stage }) :
    Answering (d₁.setStage i c stage) := by
  have hs' : Shrinks d (d₁.setStage i c stage) := ⟨hs.fds, hs.fdCommand, hs.received⟩
  refine h.shrink hs' (fun s r hr => .inl ?_) (fun c' hm => ?_) hw
  · rw [← hp]
    exact hr
  · rcases List.mem_or_eq_of_mem_set hm with hm | rfl
    · rw [hc] at hm
      exact ⟨h.completions c' hm, h.known_completions c' hm⟩
    · exact ⟨ha, h.known_completions c hi⟩

lemma advance_answering (h : Answering d) {i : ℕ} {c : Completion} (hc : c ∈ d.completions) :
    Answering (advanceCompletion d i c) := by
  have hd (i : ℕ) : Answering (d.done i) := h.done (.refl d) rfl rfl h.written i
  obtain ⟨haim, hfd⟩ := h.completions c hc
  rw [advanceCompletion]
  cases hst : c.stage with
  | dequeued =>
    dsimp only
    split
    · exact hd i
    · rename_i hn
      rw [Bool.or_eq_true, not_or, Bool.not_eq_true, Bool.not_eq_true] at hn
      refine h.setStage (.refl d) rfl rfl h.written hc ⟨fun _ => haim ?_, fun fd connection he => ?_⟩
      · rw [Unaimed, hst]
        exact hn
      · cases he
  | tested =>
    refine h.setStage (.refl d) rfl rfl h.written hc ⟨fun _ => haim ?_, fun fd connection he => ?_⟩
    · rw [Unaimed, hst]
      trivial
    · cases he
  | marshalled =>
    have ha : Aimed d c.request := haim (by rw [Unaimed, hst]; trivial)
    dsimp only
    split
    · exact hd i
    · rename_i fd hf
      refine h.setStage (.refl d) rfl rfl h.written hc ⟨fun hu => absurd hu id, fun fd' connection he hx => ?_⟩
      obtain rfl := Option.some.inj he
      exact ha fd connection hf hx
  | holding fd =>
    obtain ⟨hs, hp, hcs⟩ := write_shrinks d fd c.request.info.token
    have hw := @Answering.written_mem _ h _ hc fd (by rw [hst]; rfl)
    refine h.setStage hs hp hcs hw hc ⟨fun hu => absurd hu id, fun fd' connection he hx => ?_⟩
    exact hfd fd' connection (by rw [hst]; exact he) hx
  | headerWritten fd =>
    obtain ⟨hs, hp, hcs⟩ := write_shrinks d fd c.request.info.token
    have hw := @Answering.written_mem _ h _ hc fd (by rw [hst]; rfl)
    exact h.done hs hp hcs hw i

lemma Answering.push (h : Answering d) {s : RilSocketId} {r : CommandRequest} (hs : r.info.socketId = s)
    (ha : Uncancelled r → Aimed d r) {received : List (ℕ × Int32)} (hsub : ∀ w ∈ d.received, w ∈ received)
    (hk : ∀ connection, r.connection = some connection → (connection, r.info.token) ∈ received) :
    Answering { d with pending := Function.update d.pending s (r :: d.pending s), received := received } := by
  have hmem {s' : RilSocketId} {r' : CommandRequest}
      (hr : r' ∈ Function.update d.pending s (r :: d.pending s) s') : s' = s ∧ r' = r ∨ r' ∈ d.pending s' := by
    by_cases he : s' = s
    · obtain rfl := he
      rw [Function.update_self] at hr
      rcases List.mem_cons.mp hr with hr | hr
      · exact .inl ⟨rfl, hr⟩
      · exact .inr hr
    · rw [Function.update_of_ne he] at hr
      exact .inr hr
  refine ⟨fun s' r' hr => ?_, fun s' r' hr hu => ?_, h.completions, fun s' r' hr => ?_,
    fun c hc connection he => hsub _ (h.known_completions c hc connection he), fun w hw => hsub w (h.written w hw)⟩
  · rcases hmem hr with ⟨rfl, rfl⟩ | hr
    · exact hs
    · exact h.socket s' r' hr
  · rcases hmem hr with ⟨rfl, rfl⟩ | hr
    · exact ha hu
    · exact h.pending s' r' hr hu
  · rcases hmem hr with ⟨rfl, rfl⟩ | hr
    · exact hk
    · exact fun connection he => hsub _ (h.known s' r' hr connection he)

lemma Answering.accept (h : Answering d) {s : RilSocketId} {fd : ℕ} (hn : Separated d (.accept s fd)) :
    Answering { d with
      fds := Function.update d.fds fd (some d.connections), connections := d.connections + 1,
      listening := Function.update d.listening s false, loop := .accepted s fd } := by
  obtain ⟨hcommand, hheld⟩ := hn
  have hold {r : CommandRequest} (ha : Aimed d r) : Aimed { d with
      fds := Function.update d.fds fd (some d.connections), connections := d.connections + 1,
      listening := Function.update d.listening s false, loop := .accepted s fd } r := by
    intro fd' connection h1 h2
    have hne : fd' ≠ fd := by
      rintro rfl
      exact hcommand _ h1
    dsimp only at h2
    rw [Function.update_of_ne hne] at h2
    exact ha fd' connection h1 h2
  refine ⟨h.socket, fun s' r hr hu => hold (h.pending s' r hr hu), fun c hc => ?_, h.known, h.known_completions, h.written⟩
  refine ⟨fun hu => hold ((h.completions c hc).1 hu), fun fd' connection h1 h2 => ?_⟩
  have hne : fd' ≠ fd := by
    rintro rfl
    exact hheld c hc h1
  dsimp only at h2
  rw [Function.update_of_ne hne] at h2
  exact (h.completions c hc).2 fd' connection h1 h2

lemma Answering.publish (h : Answering d) {s : RilSocketId} {fd : ℕ} (hl : d.loop = .accepted s fd)
    (hn : Separated d .publish) :
    Answering { d with fdCommand := Function.update d.fdCommand s (some fd), loop := .idle } := by
  obtain ⟨hpending, hunaimed⟩ := hn s fd hl
  have hold {r : CommandRequest} (hne : r.info.socketId ≠ s) (ha : Aimed d r) :
      Aimed { d with fdCommand := Function.update d.fdCommand s (some fd), loop := .idle } r := by
    intro fd' connection h1 h2
    dsimp only at h1
    rw [Function.update_of_ne hne] at h1
    exact ha fd' connection h1 h2
  refine ⟨h.socket, fun s' r hr hu => ?_, fun c hc => ⟨fun hu => ?_, (h.completions c hc).2⟩, h.known,
    h.known_completions, h.written⟩
  · refine hold ?_ (h.pending s' r hr hu)
    rw [h.socket s' r hr]
    rintro rfl
    exact hpending r hr hu
  · exact hold (fun he => hunaimed c hc he hu) ((h.completions c hc).1 hu)

lemma answering_step (h : Answering d) {a : RildAction} (hn : Separated d a) (hs : rildStep d a = some d') :
    Answering d' := by
  have hstay : ∀ c ∈ d.completions, CompletionAimed d c ∧ Known d c.request :=
    fun c hc => ⟨h.completions c hc, h.known_completions c hc⟩
  cases a with
  | accept s fd =>
    rw [rildStep] at hs
    split at hs
    · obtain rfl := Option.some.inj hs
      exact h.accept hn
    · cases hs
  | reject =>
    rw [rildStep] at hs
    split at hs
    · obtain rfl := Option.some.inj hs
      exact h.shrink ⟨fun _ _ he => erased_eq he, fun _ _ h => h, rfl⟩ (cancel_all_spec d.pending) hstay h.written
    · cases hs
  | publish =>
    rw [rildStep] at hs
    split at hs
    · rename_i s fd hl
      obtain rfl := Option.some.inj hs
      exact h.publish hl hn
    · cases hs
  | receive s token pCI =>
    rw [rildStep] at hs
    split at hs
    · rename_i connection hl hb
      obtain rfl := Option.some.inj hs
      refine @Answering.push d h s ⟨⟨token, pCI, false, false, s⟩, some connection⟩ rfl
        (fun _ fd' connection' h1 h2 => ?_) _ (fun w hw => List.mem_append_left _ hw) fun c hc => ?_
      · dsimp only at h1
        rw [h1, Option.bind_some, h2] at hb
        exact hb.symm
      · obtain rfl := Option.some.inj hc
        exact List.mem_append_right _ (List.mem_singleton_self _)
    · cases hs
  | issueLocal s pCI =>
    rw [rildStep] at hs
    split at hs
    · obtain rfl := Option.some.inj hs
      refine @Answering.push d h s ⟨⟨-1, pCI, false, true, s⟩, none⟩ rfl (fun hu => ?_) _ (fun w hw => hw) fun c hc => ?_
      · cases hu.1
      · cases hc
    · cases hs
  | endOfStream s =>
    rw [rildStep] at hs
    split at hs
    · obtain rfl := Option.some.inj hs
      exact h.shrink ⟨fun _ _ he => erased_eq he, fun _ _ h => h, rfl⟩ (fun _ _ hr => .inl hr) hstay h.written
    · cases hs
  | resetFdCommand =>
    rw [rildStep] at hs
    split at hs
    · rename_i s hl
      obtain rfl := Option.some.inj hs
      exact h.shrink ⟨fun _ _ h => h, fun _ _ he => erased_eq he, rfl⟩ (fun _ _ hr => .inl hr) hstay h.written
    · cases hs
  | cancelPending =>
    rw [rildStep] at hs
    split at hs
    · obtain rfl := Option.some.inj hs
      exact h.shrink ⟨fun _ _ h => h, fun _ _ h => h, rfl⟩ (cancel_all_spec d.pending) hstay h.written
    · cases hs
  | debugClose s =>
    rw [rildStep] at hs
    split at hs
    · obtain rfl := Option.some.inj hs
      exact h.shrink ⟨fun _ _ he => erased_eq he, fun _ _ he => erased_eq he, rfl⟩ (fun _ _ hr => .inl hr) hstay h.written
    · cases hs
  | dequeue s i =>
    rw [rildStep] at hs
    split at hs
    · cases hs
    · rename_i r hi
      obtain rfl := Option.some.inj hs
      have hr : r ∈ d.pending s := List.mem_of_getElem? hi
      refine h.shrink ⟨fun _ _ h => h, fun _ _ h => h, rfl⟩ (fun s' r' hr' => .inl ?_) (fun c hc => ?_) h.written
      · dsimp only at hr'
        by_cases hne : s' = s
        · rw [hne, Function.update_self] at hr'
          rw [hne]
          exact List.mem_of_mem_eraseIdx hr'
        · rwa [Function.update_of_ne hne] at hr'
      · rcases List.mem_cons.mp hc with rfl | hc
        · exact ⟨⟨fun hu => h.pending s r hr hu, fun _ _ he => by cases he⟩, h.known s r hr⟩
        · exact hstay c hc
  | advance i =>
    rw [rildStep] at hs
    split at hs
    · cases hs
    · rename_i c hi
      obtain rfl := Option.some.inj hs
      exact advance_answering h (List.mem_of_getElem? hi)
  | tooLong i =>
    rw [rildStep] at hs
    split at hs
    · cases hs
    · split at hs
      · obtain rfl := Option.some.inj hs
        exact h.done (.refl d) rfl rfl h.written i
      · cases hs
  | writeFails i =>
    rw [rildStep] at hs
    split at hs
    · cases hs
    · rename_i c hi
      split at hs
      · cases hs
      · rename_i fd hf
        obtain rfl := Option.some.inj hs
        have hclose : Shrinks d (closeFd d fd) := ⟨fun _ _ he => erased_eq he, fun _ _ h => h, rfl⟩
        exact h.done hclose rfl rfl h.written i

/-- In every run whose new clients are separated from the answers that are outstanding, a response that is written to a
connection has the serial of a command that was received on it. -/
theorem answers_stay_on_connection {d : Rild} (h : Reaches rildStep Separated rildStart d) :
    ∀ w ∈ d.written, w ∈ d.received :=
  (h.invariant Answering.start fun _ _ _ _ hi hn hs => answering_step hi hn hs).written

/-! ### Runs -/

def separated (d : Rild) : RildAction → Bool
  | .accept _ fd => ([.socket1, .socket2, .socket3, .socket4].all fun s => d.fdCommand s != some fd) &&
      d.completions.all fun c => stageFd c.stage != some fd
  | .publish =>
    match d.loop with
    | .accepted s _ => (d.pending s).isEmpty && d.completions.isEmpty
    | _ => true
  | _ => true

lemma separated_of_run (d : Rild) (a : RildAction) (h : separated d a = true) : Separated d a := by
  cases a with
  | accept s fd =>
    simp only [separated, Bool.and_eq_true, List.all_eq_true, bne_iff_ne] at h
    refine ⟨fun s' => h.1 s' ?_, h.2⟩
    cases s' with
    | socket1 => decide
    | socket2 => decide
    | socket3 => decide
    | socket4 => decide
  | publish =>
    intro s fd hl
    simp only [separated, hl, Bool.and_eq_true, List.isEmpty_iff] at h
    rw [h.1, h.2]
    exact ⟨fun r hr => absurd hr List.not_mem_nil, fun c hc => absurd hc List.not_mem_nil⟩
  | _ => trivial

/-- A client connects, and its command with the serial 7 is answered. -/
def answeredRun : List RildAction := [.accept .socket1 5, .publish, .receive .socket1 7 1, .dequeue .socket1 0,
  .advance 0, .advance 0, .advance 0, .advance 0, .advance 0]

theorem answers_stay_on_connection_run : ∃ d, run rildStep rildStart answeredRun = some d ∧
    d.written = [(0, 7), (0, 7)] ∧ ∀ w ∈ d.written, w ∈ d.received :=
  ⟨_, rfl, rfl, answers_stay_on_connection (.of_run answeredRun rfl (by decide) separated_of_run)⟩

/-- The client goes away after the thread has tested the request, and the next one gets the answer. -/
def reconnectRun : List RildAction := [.accept .socket1 5, .publish, .receive .socket1 7 1, .dequeue .socket1 0,
  .advance 0, .endOfStream .socket1, .resetFdCommand, .cancelPending, .accept .socket1 5, .publish, .advance 0,
  .advance 0, .advance 0, .advance 0]

theorem answers_stay_on_connection_fails : ∃ d, run rildStep rildStart reconnectRun = some d ∧
    (1, 7) ∈ d.written ∧ (1, 7) ∉ d.received := ⟨_, rfl, by decide, by decide⟩

end Ril.Libril
