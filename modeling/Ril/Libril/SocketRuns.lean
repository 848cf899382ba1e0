import Ril.Libril.SocketTable

/-! What the sockets are at quiescent points, in runs that stay away from the ways to close a connection that leave its
events as they are. -/

namespace Ril.Libril

open Lib Sockets

/-! ### What is claimed of a socket -/

namespace Sockets

variable (d : Sockets) (s : RilSocketId)

/-- No function of an event is running, and none is to be called. -/
def Quiescent : Prop := d.loop = .waiting ∧ d.pending = []

def Armed (e : RilEventId) : Prop := e ∈ d.watched ∧ d.readFds (d.events e).fd = true

def Listens : Prop := d.Armed (.fixed (.listen s)) ∧ ¬d.Armed (.commands s) ∧ d.fdCommand s = none

/-- The commands event is watched on an accepted connection that is open. -/
def Serves : Prop := d.Armed (.commands s) ∧ ¬d.Armed (.fixed (.listen s)) ∧
  d.fdCommand s = some (d.events (.commands s)).fd ∧ ∃ c, d.fds (d.events (.commands s)).fd = some (.command s c)

def Current (c : ℕ) : Prop := ∃ fd, d.fdCommand s = some fd ∧ d.fds fd = some (.command s c)

/-- Every accepted connection that is not the current one has been closed once, the current one not, and nothing else
has been closed. -/
structure ClosedOnce : Prop where
  current : ∀ s c, .accepted s c ∈ d.log → d.Current s c → d.log.count (.closed (some (.command s c))) = 0
  former : ∀ s c, .accepted s c ∈ d.log → ¬d.Current s c → d.log.count (.closed (some (.command s c))) = 1
  nothing_else : ∀ o, .closed o ∈ d.log → ∃ s c, o = some (.command s c) ∧ .accepted s c ∈ d.log

end Sockets

/-- A stream ends on the first socket only, no write fails, and the debug port closes no connection. -/
def keeping (cfg : SocketsConfig) (d : Sockets) : SocketsAction → Bool
  | .endOfStream =>
    match d.loop with
    | .calling (.commands s) _ => s == .socket1
    | _ => true
  | .writeFails _ => false
  | .debugPowerOff simId => (cfg.debugCloses d.fdCommand (cfg.debugSocket simId)).isNone
  | _ => true

/-! ### The phases of a socket -/

inductive SocketPhase
  | unregistered | listening | fired | accepting | rearming
  | accepted (fd c : ℕ)
  | connected (fd c : ℕ)
  | serving (fd c : ℕ)
  | closed (fd : ℕ)
  | reset (fd : ℕ)
deriving DecidableEq

namespace SocketPhase

def fdCommand : SocketPhase → Option ℕ
  | connected fd _ | serving fd _ | closed fd => some fd
  | _ => none

/-- The descriptor of the commands event, while it is watched -/
def watchedFd : SocketPhase → Option ℕ
  | serving fd _ | closed fd | reset fd => some fd
  | _ => none

def opened : SocketPhase → Option (ℕ × ℕ)
  | accepted fd c | connected fd c | serving fd c => some (fd, c)
  | _ => none

def connection (p : SocketPhase) : Option ℕ := p.opened.map Prod.snd

/-- The descriptor that is closed and still watched -/
def stale : SocketPhase → Option ℕ
  | closed fd | reset fd => some fd
  | _ => none

end SocketPhase

def SocketLoop.socket : SocketLoop → Option RilSocketId
  | calling (.fixed (.listen s)) _ | accepted s _ | connected s | closed s | reset s | rearming s | debugClosed s => some s
  | _ => none

def SocketPhase.During (s : RilSocketId) (loop : SocketLoop) : SocketPhase → Prop
  | accepting => ∃ fd, loop = .calling (.fixed (.listen s)) fd
  | rearming => loop = .rearming s
  | accepted fd _ => loop = .accepted s fd
  | connected _ _ => loop = .connected s
  | closed _ => loop = .closed s ∧ s = .socket1
  | reset _ => loop = .reset s ∧ s = .socket1
  | unregistered | listening | fired | serving _ _ => loop.socket ≠ some s

/-- Every connection that was accepted on the socket has been closed once, apart from the current one. -/
structure Account (log : List FdRecord) (s : RilSocketId) (current : Option ℕ) : Prop where
  closes : ∀ c, .accepted s c ∈ log → log.count (.closed (some (.command s c))) = if current = some c then 0 else 1
  accepted : ∀ c, current = some c → .accepted s c ∈ log

def FixedEvent.persist : FixedEvent → Bool
  | listen _ => false
  | _ => true

structure EventsAt (registered : List FixedEvent) (watched pending : List RilEventId) (events : RilEventId → RilEvent)
    (s : RilSocketId) (p : SocketPhase) : Prop where
  registered : .listen s ∈ registered ↔ p ≠ .unregistered
  listens : .fixed (.listen s) ∈ watched ↔ p = .listening
  serves : .commands s ∈ watched ↔ p.watchedFd.isSome
  event : ∀ fd, p.watchedFd = some fd → (events (.commands s)).fd = fd ∧ (events (.commands s)).persist = true
  fired : .fixed (.listen s) ∈ pending ↔ p = .fired
  ready : .commands s ∈ pending → ∃ fd c, p = .serving fd c

/-- The events, the descriptors and the connections of a socket are those of its phase. -/
structure SocketAt (cfg : SocketsConfig) (d : Sockets) (s : RilSocketId) (p : SocketPhase) : Prop extends
    EventsAt d.registered d.watched d.pending d.events s p where
  fdCommand : d.fdCommand s = p.fdCommand
  during : p.During s d.loop
  calling : ∀ fd, d.loop = .calling (.commands s) fd → .commands s ∉ d.pending ∧ ∃ c, p = .serving fd c
  opened : ∀ fd c, d.fds fd = some (.command s c) ↔ p.opened = some (fd, c)
  stale : ∀ fd, p.stale = some fd → ∀ e, cfg.fd e ≠ fd
  account : Account d.log s p.connection

structure Consistent (cfg : SocketsConfig) (d : Sockets) : Prop where
  watching : Watching d.table d.events d.readFds
  fixed : ∀ e, .fixed e ∈ d.watched → e ∈ d.registered
  settings : ∀ e ∈ d.registered, (d.events (.fixed e)).fd = cfg.fd e ∧ (d.events (.fixed e)).persist = e.persist
  pending : d.pending.Nodup
  fixedOwner : ∀ e, d.fds (cfg.fd e) = some (.event e)
  fresh : ∀ s c, .accepted s c ∈ d.log → c < d.connections
  closed : ∀ o, .closed o ∈ d.log → ∃ s c, o = some (.command s c) ∧ .accepted s c ∈ d.log
  sockets : ∀ s, ∃ p, SocketAt cfg d s p

variable {cfg : SocketsConfig} {d d' : Sockets} {s : RilSocketId} {p : SocketPhase} {loop loop' : SocketLoop}

/-- A phase in which the listen event is neither watched nor to be called -/
def SocketPhase.Taken (p : SocketPhase) : Prop := p ≠ .unregistered ∧ p ≠ .listening ∧ p ≠ .fired

lemma EventsAt.moved {registered : List FixedEvent} {watched pending : List RilEventId} {events : RilEventId → RilEvent}
    {p' : SocketPhase} (h : EventsAt registered watched pending events s p) (hp : p.Taken) (hp' : p'.Taken)
    (hw : p'.watchedFd = p.watchedFd) (hr : .commands s ∉ pending) : EventsAt registered watched pending events s p' where
  registered := h.registered.trans (iff_of_true hp.1 hp'.1)
  listens := h.listens.trans (iff_of_false hp.2.1 hp'.2.1)
  serves := hw ▸ h.serves
  event := hw ▸ h.event
  fired := h.fired.trans (iff_of_false hp.2.2 hp'.2.2)
  ready he := absurd he hr

lemma SocketAt.not_ready (h : SocketAt cfg d s p) (hp : ∀ fd c, p ≠ .serving fd c) : .commands s ∉ d.pending := by
  intro he
  obtain ⟨fd, c, heq⟩ := h.ready he
  exact hp fd c heq

/-! ### The accounts -/

section

variable {log : List FdRecord} {current : Option ℕ} {c connections : ℕ}

lemma Account.accept (h : Account log s none) (hn : .closed (some (.command s c)) ∉ log) (hc : .accepted s c ∉ log) :
    Account (.accepted s c :: log) s (some c) where
  closes := by
    intro c' ha
    rw [List.count_cons_of_ne (by simp)]
    rcases List.mem_cons.mp ha with heq | ha
    · obtain ⟨-, rfl⟩ := FdRecord.accepted.inj heq
      rw [if_pos rfl, List.count_eq_zero]
      exact hn
    · have hne : c ≠ c' := fun heq => hc (heq ▸ ha)
      simpa [hne] using h.closes c' ha
  accepted := by
    intro c' hc'
    obtain rfl := Option.some.inj hc'
    exact List.mem_cons_self

lemma Account.close (h : Account log s (some c)) : Account (.closed (some (.command s c)) :: log) s none where
  closes := by
    intro c' ha
    have hold := h.closes c' (by simpa using ha)
    by_cases hc : c' = c
    · subst hc
      simpa using hold
    · rw [List.count_cons_of_ne (by simpa using Ne.symm hc)]
      simpa [Ne.symm hc] using hold
  accepted := by
    intro c' hc
    cases hc

lemma Account.of_eq {log' : List FdRecord} (h : Account log s current) (ha : ∀ c, .accepted s c ∈ log' ↔ .accepted s c ∈ log)
    (hc : ∀ c, log'.count (.closed (some (.command s c))) = log.count (.closed (some (.command s c)))) :
    Account log' s current := by
  refine ⟨?_, ?_⟩
  · intro c hac
    rw [hc c]
    exact h.closes c ((ha c).mp hac)
  · intro c hcur
    exact (ha c).mpr (h.accepted c hcur)

end

/-! ### The sockets that a step leaves as they are -/

lemma SocketPhase.During.of_other (h : p.During s loop) (hl : loop.socket ≠ some s) (hl' : loop'.socket ≠ some s) : p.During s loop' := by
  cases p with
  | accepting =>
    obtain ⟨fd, rfl⟩ := h
    exact absurd rfl hl
  | rearming => exact absurd (congrArg SocketLoop.socket h) hl
  | accepted => exact absurd (congrArg SocketLoop.socket h) hl
  | connected => exact absurd (congrArg SocketLoop.socket h) hl
  | closed => exact absurd (congrArg SocketLoop.socket h.1) hl
  | reset => exact absurd (congrArg SocketLoop.socket h.1) hl
  | unregistered => exact hl'
  | listening => exact hl'
  | fired => exact hl'
  | serving => exact hl'

lemma SocketPhase.During.rearming (h : p.During s loop) (hl : loop = .rearming s) : p = .rearming := by
  subst hl
  cases p with
  | unregistered => exact absurd rfl h
  | listening => exact absurd rfl h
  | fired => exact absurd rfl h
  | accepting =>
    obtain ⟨fd, h⟩ := h
    cases h
  | rearming => rfl
  | accepted => cases h
  | connected => cases h
  | serving => exact absurd rfl h
  | closed => cases h.1
  | reset => cases h.1

lemma SocketPhase.During.accepting {fd : ℕ} (h : p.During s loop) (hl : loop = .calling (.fixed (.listen s)) fd) :
    p = .accepting := by
  subst hl
  cases p with
  | unregistered => exact absurd rfl h
  | listening => exact absurd rfl h
  | fired => exact absurd rfl h
  | accepting => rfl
  | rearming => cases h
  | accepted => cases h
  | connected => cases h
  | serving => exact absurd rfl h
  | closed => cases h.1
  | reset => cases h.1

lemma SocketPhase.During.accepted {fd : ℕ} (h : p.During s loop) (hl : loop = .accepted s fd) : ∃ c, p = .accepted fd c := by
  subst hl
  cases p with
  | unregistered => exact absurd rfl h
  | listening => exact absurd rfl h
  | fired => exact absurd rfl h
  | accepting =>
    obtain ⟨fd, h⟩ := h
    cases h
  | rearming => cases h
  | accepted =>
    obtain rfl := (SocketLoop.accepted.inj h).2
    exact ⟨_, rfl⟩
  | connected => cases h
  | serving => exact absurd rfl h
  | closed => cases h.1
  | reset => cases h.1

lemma SocketPhase.During.connected (h : p.During s loop) (hl : loop = .connected s) : ∃ fd c, p = .connected fd c := by
  subst hl
  cases p with
  | unregistered => exact absurd rfl h
  | listening => exact absurd rfl h
  | fired => exact absurd rfl h
  | accepting =>
    obtain ⟨fd, h⟩ := h
    cases h
  | rearming => cases h
  | accepted => cases h
  | connected => exact ⟨_, _, rfl⟩
  | serving => exact absurd rfl h
  | closed => cases h.1
  | reset => cases h.1

lemma SocketPhase.During.closed (h : p.During s loop) (hl : loop = .closed s) : s = .socket1 ∧ ∃ fd, p = .closed fd := by
  subst hl
  cases p with
  | unregistered => exact absurd rfl h
  | listening => exact absurd rfl h
  | fired => exact absurd rfl h
  | accepting =>
    obtain ⟨fd, h⟩ := h
    cases h
  | rearming => cases h
  | accepted => cases h
  | connected => cases h
  | serving => exact absurd rfl h
  | closed => exact ⟨h.2, _, rfl⟩
  | reset => cases h.1

lemma SocketPhase.During.reset (h : p.During s loop) (hl : loop = .reset s) : s = .socket1 ∧ ∃ fd, p = .reset fd := by
  subst hl
  cases p with
  | unregistered => exact absurd rfl h
  | listening => exact absurd rfl h
  | fired => exact absurd rfl h
  | accepting =>
    obtain ⟨fd, h⟩ := h
    cases h
  | rearming => cases h
  | accepted => cases h
  | connected => cases h
  | serving => exact absurd rfl h
  | closed => cases h.1
  | reset => exact ⟨h.2, _, rfl⟩

/-- What a step leaves of a socket -/
structure Leaves (s : RilSocketId) (d d' : Sockets) : Prop where
  registered : .listen s ∈ d'.registered ↔ .listen s ∈ d.registered
  listens : .fixed (.listen s) ∈ d'.watched ↔ .fixed (.listen s) ∈ d.watched
  serves : .commands s ∈ d'.watched ↔ .commands s ∈ d.watched
  event : (d'.events (.commands s)).fd = (d.events (.commands s)).fd ∧
    (d'.events (.commands s)).persist = (d.events (.commands s)).persist
  fired : .fixed (.listen s) ∈ d'.pending ↔ .fixed (.listen s) ∈ d.pending
  ready : .commands s ∈ d'.pending → .commands s ∈ d.pending
  fdCommand : d'.fdCommand s = d.fdCommand s
  during : ∀ p : SocketPhase, p.During s d.loop → p.During s d'.loop
  calling : ∀ fd, d'.loop = .calling (.commands s) fd → d.loop = .calling (.commands s) fd
  opened : ∀ fd c, d'.fds fd = some (.command s c) ↔ d.fds fd = some (.command s c)
  accepted : ∀ c, .accepted s c ∈ d'.log ↔ .accepted s c ∈ d.log
  closes : ∀ c, d'.log.count (.closed (some (.command s c))) = d.log.count (.closed (some (.command s c)))

lemma SocketAt.left (h : SocketAt cfg d s p) (hl : Leaves s d d') : SocketAt cfg d' s p where
  registered := hl.registered.trans h.registered
  listens := hl.listens.trans h.listens
  serves := hl.serves.trans h.serves
  event := by
    rw [hl.event.1, hl.event.2]
    exact h.event
  fired := hl.fired.trans h.fired
  ready hr := h.ready (hl.ready hr)
  fdCommand := hl.fdCommand.trans h.fdCommand
  during := hl.during p h.during
  calling := by
    intro fd hc
    obtain ⟨hn, hp⟩ := h.calling fd (hl.calling fd hc)
    exact ⟨fun hr => hn (hl.ready hr), hp⟩
  opened fd c := (hl.opened fd c).trans (h.opened fd c)
  stale := h.stale
  account := h.account.of_eq hl.accepted hl.closes

namespace Leaves

variable {d'' : Sockets}

lemma trans (h : Leaves s d d') (h' : Leaves s d' d'') : Leaves s d d'' where
  registered := h'.registered.trans h.registered
  listens := h'.listens.trans h.listens
  serves := h'.serves.trans h.serves
  event := ⟨h'.event.1.trans h.event.1, h'.event.2.trans h.event.2⟩
  fired := h'.fired.trans h.fired
  ready hr := h.ready (h'.ready hr)
  fdCommand := h'.fdCommand.trans h.fdCommand
  during p hp := h'.during p (h.during p hp)
  calling fd hc := h.calling fd (h'.calling fd hc)
  opened fd c := (h'.opened fd c).trans (h.opened fd c)
  accepted c := (h'.accepted c).trans (h.accepted c)
  closes c := (h'.closes c).trans (h.closes c)

lemma of_events (hr : .listen s ∈ d'.registered ↔ .listen s ∈ d.registered)
    (hl : .fixed (.listen s) ∈ d'.watched ↔ .fixed (.listen s) ∈ d.watched)
    (hs : .commands s ∈ d'.watched ↔ .commands s ∈ d.watched)
    (he : (d'.events (.commands s)).fd = (d.events (.commands s)).fd ∧
      (d'.events (.commands s)).persist = (d.events (.commands s)).persist)
    (hrest : d'.pending = d.pending ∧ d'.loop = d.loop ∧ d'.fdCommand = d.fdCommand ∧ d'.fds = d.fds ∧ d'.log = d.log) :
    Leaves s d d' := by
  obtain ⟨hp, hloop, hc, hf, hlog⟩ := hrest
  exact ⟨hr, hl, hs, he, by rw [hp], by rw [hp]; exact id, by rw [hc], fun p => by rw [hloop]; exact id, by simp [hloop],
    by simp [hf], by simp [hlog], by simp [hlog]⟩

lemma of_calls (hf : .fixed (.listen s) ∈ d'.pending ↔ .fixed (.listen s) ∈ d.pending)
    (hr : .commands s ∈ d'.pending → .commands s ∈ d.pending)
    (hd : ∀ p : SocketPhase, p.During s d.loop → p.During s d'.loop)
    (hc : ∀ fd, d'.loop = .calling (.commands s) fd → d.loop = .calling (.commands s) fd)
    (hrest : d'.registered = d.registered ∧ d'.watched = d.watched ∧ d'.events = d.events ∧ d'.fdCommand = d.fdCommand ∧
      d'.fds = d.fds ∧ d'.log = d.log) : Leaves s d d' := by
  obtain ⟨hreg, hw, he, hcommand, hfds, hlog⟩ := hrest
  exact ⟨by rw [hreg], by rw [hw], by rw [hw], by simp [he], hf, hr, by rw [hcommand], hd, hc, by simp [hfds], by simp [hlog],
    by simp [hlog]⟩

lemma of_fds (hc : d'.fdCommand s = d.fdCommand s) (ho : ∀ fd c, d'.fds fd = some (.command s c) ↔ d.fds fd = some (.command s c))
    (ha : ∀ c, .accepted s c ∈ d'.log ↔ .accepted s c ∈ d.log)
    (hcl : ∀ c, d'.log.count (.closed (some (.command s c))) = d.log.count (.closed (some (.command s c))))
    (hrest : d'.registered = d.registered ∧ d'.watched = d.watched ∧ d'.events = d.events ∧ d'.pending = d.pending ∧
      d'.loop = d.loop) : Leaves s d d' := by
  obtain ⟨hreg, hw, he, hp, hloop⟩ := hrest
  exact ⟨by rw [hreg], by rw [hw], by rw [hw], by simp [he], by rw [hp], by rw [hp]; exact id, hc, fun p => by rw [hloop]; exact id,
    by simp [hloop], ho, ha, hcl⟩

lemma refl (s : RilSocketId) (d : Sockets) : Leaves s d d :=
  of_events .rfl .rfl .rfl ⟨rfl, rfl⟩ ⟨rfl, rfl, rfl, rfl, rfl⟩

lemma of_loop (hl : d.loop.socket ≠ some s) (hl' : loop.socket ≠ some s) (hc : ∀ fd, loop ≠ .calling (.commands s) fd) :
    Leaves s d (d.setLoop loop) :=
  of_calls .rfl id (fun _ hp => hp.of_other hl hl') (fun fd he => absurd he (hc fd)) ⟨rfl, rfl, rfl, rfl, rfl, rfl⟩

lemma of_close {s' : RilSocketId} {fd c : ℕ} (ho : d.fds fd = some (.command s' c)) (hs : s ≠ s') :
    Leaves s d (d.closeFd fd) := by
  refine of_fds rfl ?_ (fun c' => ?_) (fun c' => ?_) ⟨rfl, rfl, rfl, rfl, rfl⟩
  · intro fd' c'
    by_cases hfd : fd' = fd
    · subst hfd
      simp [Sockets.closeFd, ho, Ne.symm hs]
    · simp [Sockets.closeFd, hfd]
  · simp [Sockets.closeFd]
  · simp [Sockets.closeFd, ho, Ne.symm hs]

lemma of_adds {e : RilEventId} (h : Adds e d d') (hl : e ≠ .fixed (.listen s)) (hc : e ≠ .commands s) : Leaves s d d' := by
  have hlistens := h.watched.mem_iff (a := .fixed (.listen s))
  have hserves := h.watched.mem_iff (a := .commands s)
  have hevent := And.intro (h.fd (.commands s)) (h.persist (.commands s))
  obtain ⟨table, events, readFds, rfl⟩ := h.rest
  refine of_events .rfl ?_ ?_ hevent ⟨rfl, rfl, rfl, rfl, rfl⟩
  · simpa [Ne.symm hl] using hlistens
  · simpa [Ne.symm hc] using hserves

lemma of_removes {e : RilEventId} (h : Removes e d d') (hl : e ≠ .fixed (.listen s)) (hc : e ≠ .commands s) :
    Leaves s d d' := by
  have hlistens := h.watched.mem_iff (a := .fixed (.listen s))
  have hserves := h.watched.mem_iff (a := .commands s)
  have hevent := And.intro (h.fd (.commands s)) (h.persist (.commands s))
  obtain ⟨table, events, readFds, rfl⟩ := h.rest
  refine of_events .rfl ?_ ?_ hevent ⟨rfl, rfl, rfl, rfl, rfl⟩
  · simpa [Ne.symm hl] using hlistens.symm
  · simpa [Ne.symm hc] using hserves.symm

end Leaves

namespace Consistent

lemma step (h : Consistent cfg d) (ho : ∀ s', s' ≠ s → Leaves s' d d') (hs : SocketAt cfg d' s p) :
    ∀ s', ∃ p, SocketAt cfg d' s' p := by
  intro s'
  by_cases he : s' = s
  · subst he
    exact ⟨p, hs⟩
  · obtain ⟨p', hp'⟩ := h.sockets s'
    exact ⟨p', hp'.left (ho s' he)⟩

lemma leave (h : Consistent cfg d) (ho : ∀ s, Leaves s d d') : ∀ s, ∃ p, SocketAt cfg d' s p := by
  intro s
  obtain ⟨p, hp⟩ := h.sockets s
  exact ⟨p, hp.left (ho s)⟩

end Consistent

/-! ### Keys and descriptors of watched events -/

lemma key_eq_listen {e : RilEventId} (h : e.key = 2 + s.index) : e = .fixed (.listen s) ∨ e = .commands s := by
  have hinj : ∀ s' : RilSocketId, 2 + s'.index = 2 + s.index → s' = s := by
    intro s' hi
    cases s <;> cases s' <;> first | rfl | simp [RilSocketId.index] at hi
  cases e with
  | fixed e =>
    cases e with
    | wakeupfd =>
      simp only [RilEventId.key] at h
      omega
    | debug =>
      simp only [RilEventId.key] at h
      omega
    | listen s' => exact .inl (by rw [hinj s' h])
  | commands s' => exact .inr (by rw [hinj s' h])

lemma SocketAt.keys (h : SocketAt cfg d s p) (hl : p ≠ .listening) (hw : p.watchedFd = none) :
    ∀ e ∈ d.watched, e.key ≠ 2 + s.index := by
  intro e he hk
  rcases key_eq_listen hk with rfl | rfl
  · exact hl (h.listens.mp he)
  · simpa [hw] using h.serves.mp he

/-- An event of a socket that is watched is that of an open connection, unless the loop is about to remove it. -/
lemma SocketAt.served (h : SocketAt cfg d s p) (he : .commands s ∈ d.watched) :
    (∃ c, p = .serving (d.events (.commands s)).fd c) ∨ p.stale = some (d.events (.commands s)).fd := by
  obtain ⟨fd, hfd⟩ := Option.isSome_iff_exists.mp (h.serves.mp he)
  have hevent := (h.event fd hfd).1
  rw [hevent]
  cases p with
  | serving fd' c =>
    obtain rfl := Option.some.inj hfd
    exact .inl ⟨c, rfl⟩
  | closed fd' => exact .inr hfd
  | reset fd' => exact .inr hfd
  | _ => cases hfd

lemma SocketAt.served_of_waiting (h : SocketAt cfg d s p) (he : .commands s ∈ d.watched) (hl : d.loop.socket ≠ some s) :
    ∃ c, p = .serving (d.events (.commands s)).fd c := by
  rcases h.served he with hp | hp
  · exact hp
  · have hd := h.during
    cases p with
    | closed fd => exact absurd (congrArg SocketLoop.socket hd.1) hl
    | reset fd => exact absurd (congrArg SocketLoop.socket hd.1) hl
    | _ => cases hp

lemma Consistent.fixed_fd (h : Consistent cfg d) {e : RilEventId} {f : FixedEvent} (he : e ∈ d.watched) (hne : e ≠ .fixed f) :
    (d.events e).fd ≠ cfg.fd f := by
  intro hfd
  cases e with
  | fixed e =>
    rw [(h.settings e (h.fixed e he)).1] at hfd
    exact hne (congrArg _ (cfg.fd_injective hfd))
  | commands s =>
    obtain ⟨p, hp⟩ := h.sockets s
    rcases hp.served he with ⟨c, rfl⟩ | hstale
    · have ho := (hp.opened _ c).mpr rfl
      rw [hfd, h.fixedOwner f] at ho
      cases ho
    · exact hp.stale _ hstale f hfd.symm

lemma Sockets.Adds.mem {e : RilEventId} (h : Adds e d d') (e' : RilEventId) : e' ∈ d'.watched ↔ e' = e ∨ e' ∈ d.watched := by
  rw [h.watched.mem_iff, List.mem_cons]

lemma Sockets.Removes.mem {e : RilEventId} (h : Removes e d d') (hn : d.watched.Nodup) (e' : RilEventId) :
    e' ∈ d'.watched ↔ e' ≠ e ∧ e' ∈ d.watched := by
  have hnot : e ∉ d'.watched := (List.nodup_cons.mp (h.watched.nodup_iff.mp hn)).1
  rw [h.watched.mem_iff, List.mem_cons]
  constructor
  · intro he'
    exact ⟨fun heq => hnot (heq ▸ he'), .inr he'⟩
  · rintro ⟨hne, heq | he'⟩
    · exact absurd heq hne
    · exact he'

/-- A socket listens once its listen event is added. -/
lemma SocketAt.added {registered : List FixedEvent} (hp : SocketAt cfg d s p) (ha : Adds (.fixed (.listen s)) d d')
    (hu : p = .unregistered ∨ p = .rearming) (hr : .listen s ∈ registered) (hl : loop.socket ≠ some s)
    (hc : ∀ fd, loop ≠ .calling (.commands s) fd) :
    SocketAt cfg { d' with registered := registered, loop := loop } s .listening := by
  have hlistens := ha.mem (.fixed (.listen s))
  have hserves := ha.mem (.commands s)
  have hnone : p.watchedFd = none ∧ p.opened = none ∧ p.fdCommand = none ∧ p ≠ .fired ∧ ∀ fd c, p ≠ .serving fd c := by
    rcases hu with rfl | rfl
    · exact ⟨rfl, rfl, rfl, nofun, nofun⟩
    · exact ⟨rfl, rfl, rfl, nofun, nofun⟩
  obtain ⟨hw, ho, hcommand, hfired, hserving⟩ := hnone
  obtain ⟨table, events, readFds, rfl⟩ := ha.rest
  refine ⟨⟨iff_of_true hr nofun, iff_of_true (hlistens.mpr (.inl rfl)) rfl, ?_, nofun, ?_, ?_⟩, ?_, hl, ?_, ?_, nofun, ?_⟩
  · refine iff_of_false ?_ nofun
    intro he
    rcases hserves.mp he with heq | he
    · cases heq
    · simpa [hw] using hp.serves.mp he
  · exact iff_of_false (fun he => hfired (hp.fired.mp he)) nofun
  · intro he
    obtain ⟨fd, c, heq⟩ := hp.ready he
    exact absurd heq (hserving fd c)
  · exact hp.fdCommand.trans hcommand
  · intro fd he
    exact absurd he (hc fd)
  · intro fd c
    rw [hp.opened, ho]
    exact Iff.rfl
  · have hacc := hp.account
    rw [SocketPhase.connection, ho] at hacc
    exact hacc

/-! ### The steps -/

namespace Consistent

lemma init_owner (cfg : SocketsConfig) (e : FixedEvent) : (Sockets.init cfg).fds (cfg.fd e) = some (.event e) := by
  have hi : (fun e' => cfg.fd e' == cfg.fd e) = fun e' => e' == e := by
    funext e'
    rw [Bool.eq_iff_iff, beq_iff_eq, beq_iff_eq]
    exact cfg.fd_injective.eq_iff
  simp only [Sockets.init, hi]
  cases e with
  | wakeupfd => rfl
  | debug => rfl
  | listen s => cases s <;> rfl

lemma init (cfg : SocketsConfig) : Consistent cfg (Sockets.init cfg) where
  watching := by
    refine ⟨rfl, List.nodup_nil, ?_, ?_, ?_⟩
    · intro i e hi
      exact absurd (mem_entries_iff.mpr ⟨i, hi⟩) List.not_mem_nil
    · intro e he
      exact absurd he List.not_mem_nil
    · intro e he
      exact absurd he List.not_mem_nil
  fixed _ he := absurd he List.not_mem_nil
  settings _ he := absurd he List.not_mem_nil
  pending := List.nodup_nil
  fixedOwner := init_owner cfg
  fresh _ _ ha := absurd ha List.not_mem_nil
  closed _ hc := absurd hc List.not_mem_nil
  sockets s := by
    refine ⟨.unregistered, ⟨⟨?_, ?_, ?_, ?_, ?_, ?_⟩, rfl, ?_, ?_, ?_, ?_, ?_⟩⟩
    · simp [Sockets.init]
    · exact iff_of_false List.not_mem_nil nofun
    · exact iff_of_false List.not_mem_nil nofun
    · exact nofun
    · exact iff_of_false List.not_mem_nil nofun
    · exact fun hr => absurd hr List.not_mem_nil
    · exact nofun
    · exact nofun
    · intro fd c
      refine iff_of_false ?_ nofun
      simp [Sockets.init]
    · exact nofun
    · exact ⟨fun _ ha => absurd ha List.not_mem_nil, nofun⟩

lemma set_fixed {f : FixedEvent} (persist : Bool) (h : Consistent cfg d) (hf : f ∉ d.registered) :
    Consistent cfg (d.rilEventSet (.fixed f) (cfg.fd f) persist) where
  watching := watching_set h.watching fun he => hf (h.fixed f he)
  fixed := h.fixed
  settings e he := by
    have hne : RilEventId.fixed e ≠ .fixed f := by
      rintro heq
      obtain rfl := RilEventId.fixed.inj heq
      exact hf he
    rw [set_event_of_ne hne]
    exact h.settings e he
  pending := h.pending
  fixedOwner := h.fixedOwner
  fresh := h.fresh
  closed := h.closed
  sockets := h.leave fun s => by
    refine .of_events .rfl .rfl .rfl ?_ ⟨rfl, rfl, rfl, rfl, rfl⟩
    rw [set_event_of_ne (by simp)]
    exact ⟨rfl, rfl⟩

lemma adds_fixed {f : FixedEvent} (h : Consistent cfg d) (hk : ∀ e ∈ d.watched, e.key ≠ RilEventId.key (.fixed f))
    (hfd : (d.events (.fixed f)).fd = cfg.fd f) : Adds (.fixed f) d (d.rilEventAdd (.fixed f)) := by
  refine adds_event h.watching hk ?_
  intro e he
  rw [hfd]
  exact h.fixed_fd he fun heq => hk e he (heq ▸ rfl)

/-- An event is added that is registered, or is registered now. -/
lemma add_fixed {f : FixedEvent} {registered : List FixedEvent} (h : Consistent cfg d) (ha : Adds (.fixed f) d d')
    (hr : ∀ e, e ∈ registered ↔ e = f ∨ e ∈ d.registered)
    (hfd : (d.events (.fixed f)).fd = cfg.fd f ∧ (d.events (.fixed f)).persist = f.persist)
    (hs : ∀ s, ∃ p, SocketAt cfg { d' with registered := registered, loop := loop } s p) :
    Consistent cfg { d' with registered := registered, loop := loop } := by
  have hmem := ha.mem
  have hevent : ∀ e, (d'.events e).fd = (d.events e).fd ∧ (d'.events e).persist = (d.events e).persist :=
    fun e => ⟨ha.fd e, ha.persist e⟩
  have hwatching := ha.watching
  obtain ⟨table, events, readFds, rfl⟩ := ha.rest
  refine ⟨hwatching, ?_, ?_, h.pending, h.fixedOwner, h.fresh, h.closed, hs⟩
  · intro e he
    rw [hr]
    rcases (hmem (.fixed e)).mp he with heq | he
    · exact .inl (RilEventId.fixed.inj heq)
    · exact .inr (h.fixed e he)
  · intro e he
    rw [(hevent (.fixed e)).1, (hevent (.fixed e)).2]
    rcases (hr e).mp he with rfl | he
    · exact hfd
    · exact h.settings e he

lemma register_quiet {f : FixedEvent} (h : Consistent cfg d) (hf : f ∉ d.registered) (hk : RilEventId.key (.fixed f) < 2)
    (hn : ∀ s, f ≠ .listen s) : Consistent cfg (d.register cfg f f.persist) := by
  have h1 := h.set_fixed f.persist hf
  have ha : Adds (.fixed f) (d.rilEventSet (.fixed f) (cfg.fd f) f.persist) ((d.rilEventSet (.fixed f) (cfg.fd f) f.persist).rilEventAdd (.fixed f)) := by
    refine h1.adds_fixed ?_ (by simp)
    intro e he heq
    cases e with
    | commands s =>
      rw [← heq, RilEventId.key] at hk
      omega
    | fixed e =>
      have hef : e = f := by
        cases e with
        | listen s =>
          rw [← heq, RilEventId.key] at hk
          omega
        | wakeupfd => cases f <;> simp_all [RilEventId.key]
        | debug => cases f <;> simp_all [RilEventId.key]
      exact hf (h.fixed f (hef ▸ he))
  refine h1.add_fixed ha (fun e => List.mem_cons) (by simp) (h1.leave fun s => ?_)
  refine (Leaves.of_adds ha (by simpa using hn s) nofun).trans ?_
  exact .of_events (by simp [Ne.symm (hn s)]) .rfl .rfl ⟨rfl, rfl⟩ ⟨rfl, rfl, rfl, rfl, rfl⟩

lemma register_listen (h : Consistent cfg d) (hf : .listen s ∉ d.registered) :
    Consistent cfg (d.register cfg (.listen s) false) := by
  have h1 := h.set_fixed false hf
  obtain ⟨p, hp⟩ := h1.sockets s
  obtain rfl : p = .unregistered := by
    by_contra hne
    exact hf (hp.registered.mpr hne)
  have ha : Adds (.fixed (.listen s)) (d.rilEventSet (.fixed (.listen s)) (cfg.fd (.listen s)) false)
      ((d.rilEventSet (.fixed (.listen s)) (cfg.fd (.listen s)) false).rilEventAdd (.fixed (.listen s))) :=
    h1.adds_fixed (hp.keys nofun rfl) (by simp)
  refine h1.add_fixed ha (fun e => List.mem_cons) (by simp [FixedEvent.persist]) (h1.step (s := s) (p := .listening) ?_ ?_)
  · intro s' hs'
    refine (Leaves.of_adds ha (by simpa using Ne.symm hs') nofun).trans ?_
    exact .of_events (by simp [hs']) .rfl .rfl ⟨rfl, rfl⟩ ⟨rfl, rfl, rfl, rfl, rfl⟩
  · apply hp.added ha (.inl rfl) List.mem_cons_self
    · rw [add_loop]
      exact hp.during
    · intro fd hc
      obtain ⟨-, c, hp'⟩ := hp.calling fd (by simpa using hc)
      cases hp'

lemma rearm (h : Consistent cfg d) (hl : d.loop = .rearming s) :
    Consistent cfg ((d.rilEventAdd (.fixed (.listen s))).setLoop .waiting) := by
  obtain ⟨p, hp⟩ := h.sockets s
  obtain rfl : p = .rearming := hp.during.rearming hl
  have hr := hp.registered.mpr nofun
  have hsettings := h.settings _ hr
  have ha : Adds (.fixed (.listen s)) d (d.rilEventAdd (.fixed (.listen s))) :=
    h.adds_fixed (hp.keys nofun rfl) hsettings.1
  refine h.add_fixed ha (by simp [hr]) hsettings (h.step (s := s) (p := .listening) ?_ ?_)
  · intro s' hs'
    refine (Leaves.of_adds ha (by simpa using Ne.symm hs') nofun).trans (.of_loop ?_ nofun nofun)
    rw [add_loop, hl]
    simpa [SocketLoop.socket] using Ne.symm hs'
  · apply hp.added ha (.inr rfl)
    · rwa [add_registered]
    · exact nofun
    · exact nofun

lemma moves (hp : d.loop.socket = some s) (hl : loop.socket = some s ∨ loop = .waiting)
    {s' : RilSocketId} (hs : s' ≠ s) {t : Sockets} (hd : Leaves s' d t) (hloop : t.loop = d.loop) :
    Leaves s' d (t.setLoop loop) := by
  refine hd.trans (.of_loop ?_ ?_ ?_)
  · rw [hloop, hp]
    simpa using Ne.symm hs
  · rcases hl with hl | rfl
    · rw [hl]
      simpa using Ne.symm hs
    · nofun
  · rintro fd rfl
    rcases hl with hl | hl
    · cases hl
    · cases hl

lemma accept_fails {fd : ℕ} (h : Consistent cfg d) (hl : d.loop = .calling (.fixed (.listen s)) fd) :
    Consistent cfg (d.setLoop (.rearming s)) := by
  obtain ⟨p, hp⟩ := h.sockets s
  obtain rfl := hp.during.accepting hl
  refine { h with sockets := h.step (s := s) (p := .rearming) ?_ ?_ }
  · intro s' hs'
    exact moves (by rw [hl]; rfl) (.inl rfl) hs' (.refl _ _) rfl
  · exact {
      toEventsAt := hp.moved ⟨nofun, nofun, nofun⟩ ⟨nofun, nofun, nofun⟩ rfl (hp.not_ready nofun)
      fdCommand := hp.fdCommand
      during := rfl
      calling := nofun
      opened := hp.opened
      stale := hp.stale
      account := hp.account }

lemma accept {fd fd' : ℕ} (h : Consistent cfg d) (hl : d.loop = .calling (.fixed (.listen s)) fd') (hfd : d.fds fd = none) :
    Consistent cfg { d with
      fds := Function.update d.fds fd (some (.command s d.connections)), connections := d.connections + 1,
      log := .accepted s d.connections :: d.log, loop := .accepted s fd } := by
  obtain ⟨p, hp⟩ := h.sockets s
  obtain rfl := hp.during.accepting hl
  refine ⟨h.watching, h.fixed, h.settings, h.pending, ?_, ?_, ?_, h.step (s := s) (p := .accepted fd d.connections) ?_ ?_⟩
  · intro e
    have howner := h.fixedOwner e
    refine (Function.update_of_ne ?_ _ _).trans howner
    rintro rfl
    rw [hfd] at howner
    cases howner
  · intro s' c ha
    rcases List.mem_cons.mp ha with heq | ha
    · obtain ⟨-, rfl⟩ := FdRecord.accepted.inj heq
      exact Nat.lt_succ_self _
    · exact Nat.lt_succ_of_lt (h.fresh s' c ha)
  · intro o ho
    obtain ⟨s', c, rfl, ha⟩ := h.closed o (by simpa using ho)
    exact ⟨s', c, rfl, List.mem_cons_of_mem _ ha⟩
  · intro s' hs'
    refine moves (t := { d with
      fds := Function.update d.fds fd (some (.command s d.connections)), connections := d.connections + 1,
      log := .accepted s d.connections :: d.log }) (by rw [hl]; rfl) (.inl rfl) hs' ?_ rfl
    refine .of_fds rfl ?_ ?_ ?_ ⟨rfl, rfl, rfl, rfl, rfl⟩
    · intro fd' c
      by_cases heq : fd' = fd
      · subst heq
        simp [hfd, Ne.symm hs']
      · simp [heq]
    · intro c
      simp [hs']
    · intro c
      simp
  · refine {
      toEventsAt := hp.moved ⟨nofun, nofun, nofun⟩ ⟨nofun, nofun, nofun⟩ rfl (hp.not_ready nofun)
      fdCommand := hp.fdCommand
      during := rfl
      calling := nofun
      opened := ?_
      stale := hp.stale
      account := ?_ }
    · intro fd' c
      by_cases heq : fd' = fd
      · subst heq
        simp [SocketPhase.opened]
      · have hnone := hp.opened fd' c
        simp [heq, hnone, SocketPhase.opened, Ne.symm heq]
    · apply hp.account.accept
      · intro hc
        obtain ⟨s', c, heq, ha⟩ := h.closed _ hc
        obtain ⟨rfl, rfl⟩ := FdOwner.command.inj (Option.some.inj heq)
        exact absurd (h.fresh _ _ ha) (Nat.lt_irrefl _)
      · intro ha
        exact absurd (h.fresh _ _ ha) (Nat.lt_irrefl _)

lemma publish {fd : ℕ} (h : Consistent cfg d) (hl : d.loop = .accepted s fd) :
    Consistent cfg { d with fdCommand := Function.update d.fdCommand s (some fd), loop := .connected s } := by
  obtain ⟨p, hp⟩ := h.sockets s
  obtain ⟨c, rfl⟩ := hp.during.accepted hl
  refine { h with sockets := h.step (s := s) (p := .connected fd c) ?_ ?_ }
  · intro s' hs'
    exact moves (t := { d with fdCommand := Function.update d.fdCommand s (some fd) }) (by rw [hl]; rfl) (.inl rfl) hs'
      (.of_fds (Function.update_of_ne hs' _ _) (fun _ _ => .rfl) (fun _ => .rfl) (fun _ => rfl) ⟨rfl, rfl, rfl, rfl, rfl⟩) rfl
  · exact {
      toEventsAt := hp.moved ⟨nofun, nofun, nofun⟩ ⟨nofun, nofun, nofun⟩ rfl (hp.not_ready nofun)
      fdCommand := Function.update_self _ _ _
      during := rfl
      calling := nofun
      opened := hp.opened
      stale := hp.stale
      account := hp.account }

lemma reset_fd_command (h : Consistent cfg d) (hl : d.loop = .closed s) :
    Consistent cfg { d with fdCommand := Function.update d.fdCommand s none, loop := .reset s } := by
  obtain ⟨p, hp⟩ := h.sockets s
  obtain ⟨hs, fd, rfl⟩ := hp.during.closed hl
  refine { h with sockets := h.step (s := s) (p := .reset fd) ?_ ?_ }
  · intro s' hs'
    exact moves (t := { d with fdCommand := Function.update d.fdCommand s none }) (by rw [hl]; rfl) (.inl rfl) hs'
      (.of_fds (Function.update_of_ne hs' _ _) (fun _ _ => .rfl) (fun _ => .rfl) (fun _ => rfl) ⟨rfl, rfl, rfl, rfl, rfl⟩) rfl
  · exact {
      toEventsAt := hp.moved ⟨nofun, nofun, nofun⟩ ⟨nofun, nofun, nofun⟩ rfl (hp.not_ready nofun)
      fdCommand := Function.update_self _ _ _
      during := ⟨rfl, hs⟩
      calling := nofun
      opened := hp.opened
      stale := hp.stale
      account := hp.account }

lemma close {fd c : ℕ} (h : Consistent cfg d) (ho : d.fds fd = some (.command s c)) :
    (∀ e, (d.closeFd fd).fds (cfg.fd e) = some (.event e)) ∧
      (∀ s c, .accepted s c ∈ (d.closeFd fd).log → c < (d.closeFd fd).connections) ∧
      (∀ o, .closed o ∈ (d.closeFd fd).log → ∃ s c, o = some (.command s c) ∧ .accepted s c ∈ (d.closeFd fd).log) ∧
      (∀ fd' c', (d.closeFd fd).fds fd' ≠ some (.command s c')) ∧ Account (d.closeFd fd).log s none ∧ ∀ e, cfg.fd e ≠ fd := by
  obtain ⟨p, hp⟩ := h.sockets s
  have hopened := (hp.opened fd c).mp ho
  have hfixed : ∀ e, cfg.fd e ≠ fd := by
    rintro e rfl
    rw [h.fixedOwner e] at ho
    cases ho
  have hacc : Account d.log s (some c) := by
    have ha := hp.account
    rwa [SocketPhase.connection, hopened] at ha
  refine ⟨?_, ?_, ?_, ?_, ?_, hfixed⟩
  · intro e
    exact (Function.update_of_ne (hfixed e) _ _).trans (h.fixedOwner e)
  · intro s' c' ha
    exact h.fresh s' c' (by simpa [Sockets.closeFd] using ha)
  · intro o hc
    rw [Sockets.closeFd, ho] at hc
    rcases List.mem_cons.mp hc with heq | hc
    · exact ⟨s, c, FdRecord.closed.inj heq, by simpa [Sockets.closeFd] using hacc.accepted c rfl⟩
    · obtain ⟨s', c', rfl, ha⟩ := h.closed o hc
      exact ⟨s', c', rfl, by simpa [Sockets.closeFd] using ha⟩
  · intro fd' c'
    by_cases heq : fd' = fd
    · subst heq
      simp [Sockets.closeFd]
    · intro ho'
      replace ho' : d.fds fd' = some (.command s c') := (Function.update_of_ne heq _ _).symm.trans ho'
      have hopened' := (hp.opened fd' c').mp ho'
      rw [hopened] at hopened'
      exact heq (Prod.mk.inj (Option.some.inj hopened')).1.symm
  · rw [Sockets.closeFd, ho]
    exact hacc.close

lemma reject {fd : ℕ} (h : Consistent cfg d) (hl : d.loop = .accepted s fd) :
    Consistent cfg ((d.closeFd fd).setLoop (.rearming s)) := by
  obtain ⟨p, hp⟩ := h.sockets s
  obtain ⟨c, rfl⟩ := hp.during.accepted hl
  have ho := (hp.opened fd c).mpr rfl
  obtain ⟨hfixed, hfresh, hclosed, hopened, hacc, -⟩ := h.close ho
  refine ⟨h.watching, h.fixed, h.settings, h.pending, hfixed, hfresh, hclosed, h.step (s := s) (p := .rearming) ?_ ?_⟩
  · intro s' hs'
    exact moves (by rw [hl]; rfl) (.inl rfl) hs' (.of_close ho hs') rfl
  · exact {
      toEventsAt := hp.moved ⟨nofun, nofun, nofun⟩ ⟨nofun, nofun, nofun⟩ rfl (hp.not_ready nofun)
      fdCommand := hp.fdCommand
      during := rfl
      calling := nofun
      opened := fun fd' c' => iff_of_false (hopened fd' c') nofun
      stale := hp.stale
      account := hacc }

lemma end_of_stream {fd : ℕ} (h : Consistent cfg d) (hl : d.loop = .calling (.commands s) fd) (hs : s = .socket1) :
    Consistent cfg ((d.closeFd fd).setLoop (.closed s)) := by
  obtain ⟨p, hp⟩ := h.sockets s
  obtain ⟨hpending, c, rfl⟩ := hp.calling fd hl
  have ho := (hp.opened fd c).mpr rfl
  obtain ⟨hfixed, hfresh, hclosed, hopened, hacc, hstale⟩ := h.close ho
  refine ⟨h.watching, h.fixed, h.settings, h.pending, hfixed, hfresh, hclosed, h.step (s := s) (p := .closed fd) ?_ ?_⟩
  · intro s' hs'
    refine (Leaves.of_close ho hs').trans (.of_loop ?_ ?_ nofun)
    · rw [Sockets.closeFd, hl]
      nofun
    · simpa [SocketLoop.socket] using Ne.symm hs'
  · exact {
      toEventsAt := hp.moved ⟨nofun, nofun, nofun⟩ ⟨nofun, nofun, nofun⟩ rfl hpending
      fdCommand := hp.fdCommand
      during := ⟨rfl, hs⟩
      calling := nofun
      opened := fun fd' c' => iff_of_false (hopened fd' c') nofun
      stale := by
        intro fd' heq
        obtain rfl := Option.some.inj heq
        exact hstale
      account := hacc }

lemma set_commands {fd c : ℕ} (h : Consistent cfg d) (hp : SocketAt cfg d s (.connected fd c)) :
    Consistent cfg (d.rilEventSet (.commands s) fd true) ∧
      SocketAt cfg (d.rilEventSet (.commands s) fd true) s (.connected fd c) := by
  have hat : SocketAt cfg (d.rilEventSet (.commands s) fd true) s (.connected fd c) :=
    { hp with event := nofun }
  refine ⟨⟨watching_set h.watching ?_, h.fixed, ?_, h.pending, h.fixedOwner, h.fresh, h.closed, ?_⟩, hat⟩
  · intro he
    simpa [SocketPhase.watchedFd] using hp.serves.mp he
  · intro e he
    rw [set_event_of_ne (by simp)]
    exact h.settings e he
  · refine h.step (fun s' hs' => .of_events .rfl .rfl .rfl ?_ ⟨rfl, rfl, rfl, rfl, rfl⟩) hat
    rw [set_event_of_ne (by simpa using hs')]
    exact ⟨rfl, rfl⟩

lemma watch {fd : ℕ} (h : Consistent cfg d) (hl : d.loop = .connected s) (hfd : d.fdCommand s = some fd) :
    Consistent cfg (((d.rilEventSet (.commands s) fd true).rilEventAdd (.commands s)).setLoop .waiting) := by
  obtain ⟨p, hp⟩ := h.sockets s
  obtain ⟨fd', c, rfl⟩ := hp.during.connected hl
  obtain rfl : fd = fd' := Option.some.inj (hfd.symm.trans hp.fdCommand)
  obtain ⟨h1, hp1⟩ := h.set_commands hp
  have ho := (hp.opened fd c).mpr rfl
  have ha : Adds (.commands s) (d.rilEventSet (.commands s) fd true)
      ((d.rilEventSet (.commands s) fd true).rilEventAdd (.commands s)) := by
    refine adds_event h1.watching (hp1.keys nofun rfl) ?_
    intro e he hfd'
    rw [set_event] at hfd'
    cases e with
    | fixed f =>
      have hf := (h1.settings f (h1.fixed f he)).1
      rw [hfd'] at hf
      have howner := h.fixedOwner f
      rw [← hf, ho] at howner
      cases howner
    | commands s' =>
      have hs : s' ≠ s := by
        rintro rfl
        simpa [SocketPhase.watchedFd] using hp1.serves.mp he
      obtain ⟨p', hp'⟩ := h1.sockets s'
      obtain ⟨c', rfl⟩ := hp'.served_of_waiting he (by simpa [hl, SocketLoop.socket] using Ne.symm hs)
      have ho' := (hp'.opened _ c').mpr rfl
      rw [hfd'] at ho'
      replace ho' : d.fds fd = some (.command s' c') := ho'
      rw [ho] at ho'
      simp [Ne.symm hs] at ho'
  have hmem := ha.mem
  have hevent := ha.fd (.commands s)
  have hpersist := ha.persist (.commands s)
  rw [set_event] at hevent hpersist
  have hother : ∀ s', s' ≠ s → Leaves s' (d.rilEventSet (.commands s) fd true)
      (((d.rilEventSet (.commands s) fd true).rilEventAdd (.commands s)).setLoop .waiting) := by
    intro s' hs'
    exact moves (by rw [set_loop, hl]; rfl) (.inr rfl) hs' (.of_adds ha nofun (by simpa using Ne.symm hs')) (add_loop _ _)
  have hwatching := ha.watching
  obtain ⟨table, events, readFds, hrest⟩ := ha.rest
  rw [hrest] at hmem hevent hpersist hother hwatching ⊢
  refine ⟨hwatching, ?_, ?_, h.pending, h.fixedOwner, h.fresh, h.closed, h1.step (p := .serving fd c) hother ?_⟩
  · intro e he
    rcases (hmem (.fixed e)).mp he with heq | he
    · cases heq
    · exact h.fixed e he
  · intro e he
    have hfd := ha.fd (.fixed e)
    have hpe := ha.persist (.fixed e)
    rw [hrest] at hfd hpe
    exact ⟨hfd.trans (h1.settings e he).1, hpe.trans (h1.settings e he).2⟩
  · refine {
      toEventsAt := ⟨?_, ?_, ?_, ?_, ?_, ?_⟩, fdCommand := hp.fdCommand, during := nofun, calling := nofun,
      opened := hp.opened, stale := nofun, account := hp.account }
    · exact hp.registered.trans (iff_of_true nofun nofun)
    · refine (hmem _).trans ⟨?_, nofun⟩
      rintro (heq | he)
      · cases heq
      · cases hp.listens.mp he
    · exact iff_of_true ((hmem _).mpr (.inl rfl)) rfl
    · intro fd' heq
      obtain rfl := Option.some.inj heq
      exact ⟨hevent, hpersist⟩
    · exact hp.fired.trans (iff_of_false nofun nofun)
    · exact fun hr => absurd hr (hp.not_ready nofun)

lemma delete (h : Consistent cfg d) (hl : d.loop = .reset s) :
    Consistent cfg ((d.rilEventDel (.commands s)).setLoop (.rearming .socket1)) := by
  obtain ⟨p, hp⟩ := h.sockets s
  obtain ⟨rfl, fd, rfl⟩ := hp.during.reset hl
  have hr : Removes (.commands .socket1) d (d.rilEventDel (.commands .socket1)) :=
    deletes_event h.watching (hp.serves.mpr rfl)
  have hmem := hr.mem h.watching.nodup
  have hother : ∀ s', s' ≠ .socket1 → Leaves s' d ((d.rilEventDel (.commands .socket1)).setLoop (.rearming .socket1)) := by
    intro s' hs'
    have hloop : (d.rilEventDel (.commands .socket1)).loop = d.loop := by
      obtain ⟨table, events, readFds, hrest⟩ := hr.rest
      rw [hrest]
    exact moves (by rw [hl]; rfl) (.inl rfl) hs' (.of_removes hr nofun (by simpa using Ne.symm hs')) hloop
  have hwatching := hr.watching
  have hfd := hr.fd
  have hpe := hr.persist
  obtain ⟨table, events, readFds, hrest⟩ := hr.rest
  rw [hrest] at hmem hother hwatching hfd hpe ⊢
  refine ⟨hwatching, ?_, ?_, h.pending, h.fixedOwner, h.fresh, h.closed, h.step (p := .rearming) hother ?_⟩
  · intro e he
    exact h.fixed e ((hmem _).mp he).2
  · intro e he
    exact ⟨(hfd _).trans (h.settings e he).1, (hpe _).trans (h.settings e he).2⟩
  · refine {
      toEventsAt := ⟨?_, ?_, ?_, nofun, ?_, ?_⟩, fdCommand := hp.fdCommand, during := rfl, calling := nofun,
      opened := hp.opened, stale := nofun, account := hp.account }
    · exact hp.registered.trans (iff_of_true nofun nofun)
    · refine iff_of_false ?_ nofun
      intro he
      cases hp.listens.mp ((hmem _).mp he).2
    · exact iff_of_false (fun he => ((hmem _).mp he).1 rfl) nofun
    · exact hp.fired.trans (iff_of_false nofun nofun)
    · exact fun hr => absurd hr (hp.not_ready nofun)

lemma fire {e : RilEventId} {pending : List RilEventId} (h : Consistent cfg d) (hl : d.loop = .waiting)
    (hp : d.pending = e :: pending) : Consistent cfg { d with pending := pending, loop := .calling e (d.events e).fd } := by
  have hn := h.pending
  rw [hp, List.nodup_cons] at hn
  have hleave (s : RilSocketId) (hf : e ≠ .fixed (.listen s)) (hc : e ≠ .commands s) :
      Leaves s d { d with pending := pending, loop := .calling e (d.events e).fd } := by
    refine .of_calls ?_ ?_ ?_ ?_ ⟨rfl, rfl, rfl, rfl, rfl, rfl⟩
    · simp [hp, Ne.symm hf]
    · intro hr
      rw [hp]
      exact List.mem_cons_of_mem _ hr
    · intro p hd
      refine hd.of_other (by rw [hl]; nofun) ?_
      cases e with
      | commands s' => nofun
      | fixed f =>
        cases f with
        | listen s' => simpa [SocketLoop.socket] using hf
        | _ => nofun
    · intro fd heq
      exact absurd (SocketLoop.calling.inj heq).1 hc
  refine ⟨h.watching, h.fixed, h.settings, hn.2, h.fixedOwner, h.fresh, h.closed, ?_⟩
  cases e with
  | fixed f =>
    cases f with
    | listen s =>
      obtain ⟨p, hs⟩ := h.sockets s
      obtain rfl : p = .fired := hs.fired.mp (by simp [hp])
      refine h.step (s := s) (p := .accepting) ?_ ?_
      · intro s' hs'
        exact hleave s' (by simpa using Ne.symm hs') nofun
      · refine {
          toEventsAt := ⟨?_, ?_, hs.serves, nofun, ?_, ?_⟩, fdCommand := hs.fdCommand, during := ⟨_, rfl⟩,
          calling := nofun, opened := hs.opened, stale := nofun, account := hs.account }
        · exact hs.registered.trans (iff_of_true nofun nofun)
        · exact hs.listens.trans (iff_of_false nofun nofun)
        · exact iff_of_false hn.1 nofun
        · intro hr
          exact absurd (hp ▸ List.mem_cons_of_mem _ hr) (hs.not_ready nofun)
    | wakeupfd => exact h.leave fun s => hleave s nofun nofun
    | debug => exact h.leave fun s => hleave s nofun nofun
  | commands s =>
    obtain ⟨p, hs⟩ := h.sockets s
    obtain ⟨fd, c, rfl⟩ := hs.ready (by simp [hp])
    refine h.step (s := s) (p := .serving fd c) ?_ ?_
    · intro s' hs'
      exact hleave s' nofun (by simpa using Ne.symm hs')
    · refine {
        toEventsAt := ⟨hs.registered, hs.listens, hs.serves, hs.event, ?_, ?_⟩, fdCommand := hs.fdCommand,
        during := nofun, calling := ?_, opened := hs.opened, stale := nofun, account := hs.account }
      · have hfired := hs.fired
        rw [hp, List.mem_cons] at hfired
        simpa using hfired
      · exact fun hr => absurd hr hn.1
      · intro fd' heq
        have hfd := (SocketLoop.calling.inj heq).2
        rw [(hs.event fd rfl).1] at hfd
        exact ⟨hn.1, c, by rw [hfd]⟩

lemma event_persist (h : Consistent cfg d) {e : RilEventId} (he : e ∈ d.watched) :
    (d.events e).persist = match e with
      | .fixed f => f.persist
      | .commands _ => true := by
  cases e with
  | fixed f => exact (h.settings f (h.fixed f he)).2
  | commands s =>
    obtain ⟨p, hp⟩ := h.sockets s
    obtain ⟨fd, hfd⟩ := Option.isSome_iff_exists.mp (hp.serves.mp he)
    exact (hp.event fd hfd).2

lemma pending_snoc (h : Consistent cfg d) {e : RilEventId} (he : e ∉ d.pending) : (d.pending ++ [e]).Nodup := by
  rw [List.nodup_append]
  refine ⟨h.pending, List.nodup_singleton e, ?_⟩
  rintro a ha b hb rfl
  exact he (List.mem_singleton.mp hb ▸ ha)

/-- An event that stays in the table is to be called. -/
lemma add_persistent (h : Consistent cfg d) (hl : d.loop = .waiting) {e : RilEventId} (he : e ∈ d.watched)
    (hp : (d.events e).persist = true) (hn : e ∉ d.pending) : Consistent cfg { d with pending := d.pending ++ [e] } := by
  have hleave (s : RilSocketId) (hf : e ≠ .fixed (.listen s)) (hc : e ≠ .commands s) :
      Leaves s d { d with pending := d.pending ++ [e] } :=
    .of_calls (by simp [Ne.symm hf]) (by simp [Ne.symm hc]) (fun _ h => h) (fun _ h => h) ⟨rfl, rfl, rfl, rfl, rfl, rfl⟩
  refine ⟨h.watching, h.fixed, h.settings, h.pending_snoc hn, h.fixedOwner, h.fresh, h.closed, ?_⟩
  have hpersist := h.event_persist he
  cases e with
  | fixed f =>
    cases f with
    | listen s =>
      rw [hp] at hpersist
      cases hpersist
    | wakeupfd => exact h.leave fun s => hleave s nofun nofun
    | debug => exact h.leave fun s => hleave s nofun nofun
  | commands s =>
    obtain ⟨p, hs⟩ := h.sockets s
    obtain ⟨c, rfl⟩ := hs.served_of_waiting he (by rw [hl]; nofun)
    refine h.step (s := s) ?_ { hs with fired := by simpa using hs.fired, ready := ?_, calling := ?_ }
    · intro s' hs'
      exact hleave s' nofun (by simpa using Ne.symm hs')
    · exact fun _ => ⟨_, _, rfl⟩
    · intro fd heq
      rw [hl] at heq
      cases heq

/-- The listen event leaves the table to be called. -/
lemma add_listen {i : ℕ} (h : Consistent cfg d) (hl : d.loop = .waiting) (hi : d.table[i]? = some (some (.fixed (.listen s))))
    (hn : .fixed (.listen s) ∉ d.pending) :
    Consistent cfg ({ d with pending := d.pending ++ [RilEventId.fixed (.listen s)] }.removeWatch (.fixed (.listen s)) i) := by
  have hr : Removes (.fixed (.listen s)) d (d.removeWatch (.fixed (.listen s)) i) := removes_at h.watching hi
  have hmem := hr.mem h.watching.nodup
  have hleave : ∀ s', s' ≠ s → Leaves s' d
      ({ d with pending := d.pending ++ [RilEventId.fixed (.listen s)] }.removeWatch (.fixed (.listen s)) i) := by
    intro s' hs'
    refine (Leaves.of_removes hr (by simpa using Ne.symm hs') nofun).trans ?_
    exact .of_calls (by simp [removeWatch, hs']) (by simp [removeWatch]) (fun _ h => h) (fun _ h => h)
      ⟨rfl, rfl, rfl, rfl, rfl, rfl⟩
  have hwatching := hr.watching
  obtain ⟨p, hs⟩ := h.sockets s
  obtain rfl : p = .listening := hs.listens.mp (mem_entries_iff.mpr ⟨i, hi⟩)
  refine ⟨hwatching, ?_, ?_, h.pending_snoc hn, h.fixedOwner, h.fresh, h.closed, h.step (p := .fired) hleave ?_⟩
  · intro e he
    exact h.fixed e ((hmem _).mp he).2
  · intro e he
    exact ⟨(hr.fd _).trans (h.settings e he).1, (hr.persist _).trans (h.settings e he).2⟩
  · refine {
      toEventsAt := ⟨?_, ?_, ?_, nofun, ?_, ?_⟩
      fdCommand := hs.fdCommand
      during := hs.during
      calling := ?_
      opened := hs.opened
      stale := nofun
      account := hs.account }
    · exact hs.registered.trans (iff_of_true nofun nofun)
    · exact iff_of_false (fun he => ((hmem _).mp he).1 rfl) nofun
    · refine iff_of_false ?_ nofun
      intro he
      simpa [SocketPhase.watchedFd] using hs.serves.mp ((hmem _).mp he).2
    · simp [removeWatch]
    · intro hr
      exact absurd (by simpa [removeWatch] using hr) (hs.not_ready nofun)
    · intro fd heq
      have heq : d.loop = _ := heq
      rw [hl] at heq
      cases heq

lemma add_pending {e : RilEventId} {i : ℕ} (h : Consistent cfg d) (hl : d.loop = .waiting)
    (hi : d.table[i]? = some (some e)) (hn : e ∉ d.pending) : Consistent cfg (d.addPending (e, i)) := by
  have he : e ∈ d.watched := mem_entries_iff.mpr ⟨i, hi⟩
  rw [addPending]
  cases hp : (d.events e).persist with
  | true => simpa [hp] using h.add_persistent hl he hp hn
  | false =>
    have hpersist := h.event_persist he
    rw [hp] at hpersist
    cases e with
    | commands s => cases hpersist
    | fixed f =>
      cases f with
      | listen s => simpa [hp] using h.add_listen hl hi hn
      | wakeupfd => cases hpersist
      | debug => cases hpersist

lemma add_pending_frame (d : Sockets) (e : RilEventId) (i : ℕ) :
    (d.addPending (e, i)).loop = d.loop ∧ (d.addPending (e, i)).pending = d.pending ++ [e] ∧
      ∀ j, j ≠ i → (d.addPending (e, i)).table[j]? = d.table[j]? := by
  rw [addPending]
  split
  · exact ⟨rfl, rfl, fun _ _ => rfl⟩
  · exact ⟨rfl, rfl, fun j hj => List.getElem?_set_ne (Ne.symm hj)⟩

lemma add_pendings {es : List (RilEventId × ℕ)} (h : Consistent cfg d) (hl : d.loop = .waiting)
    (hn : (es.map Prod.fst).Nodup) (hes : ∀ e ∈ es, d.table[e.2]? = some (some e.1) ∧ e.1 ∉ d.pending) :
    Consistent cfg (es.foldl addPending d) ∧ (es.foldl addPending d).loop = .waiting := by
  induction es generalizing d with
  | nil => exact ⟨h, hl⟩
  | cons e es ih =>
    obtain ⟨e, i⟩ := e
    obtain ⟨hi, hp⟩ := hes (e, i) List.mem_cons_self
    obtain ⟨hloop, hpending, htable⟩ := add_pending_frame d e i
    rw [List.map_cons, List.nodup_cons] at hn
    refine ih (h.add_pending hl hi hp) (hloop.trans hl) hn.2 ?_
    intro e' he'
    obtain ⟨hi', hp'⟩ := hes e' (List.mem_cons_of_mem _ he')
    have hne : e'.1 ≠ e := fun heq => hn.1 (List.mem_map.mpr ⟨e', he', heq⟩)
    refine ⟨?_, ?_⟩
    · rw [htable, hi']
      intro hj
      rw [hj, hi] at hi'
      exact hne (Option.some.inj (Option.some.inj hi')).symm
    · rw [hpending]
      simp [hp', hne]

lemma select {ready : List ℕ} (h : Consistent cfg d) (hl : d.loop = .waiting) (hp : d.pending = []) :
    Consistent cfg (d.processReadReadies ready) := by
  refine (h.add_pendings hl ?_ ?_).1
  · exact h.watching.nodup.sublist readies_entries
  · intro e he
    refine ⟨?_, by simp [hp]⟩
    simpa using (readies_mem he).2

lemma other {fd : ℕ} {owner : Option FdOwner} (h : Consistent cfg d) (hfd : d.fds fd = none ∨ d.fds fd = some .other)
    (ho : owner = none ∨ owner = some .other) : Consistent cfg { d with fds := Function.update d.fds fd owner } := by
  refine { h with
    fixedOwner := ?_
    sockets := h.leave fun s => .of_fds rfl ?_ (fun _ => .rfl) (fun _ => rfl) ⟨rfl, rfl, rfl, rfl, rfl⟩ }
  · intro e
    refine (Function.update_of_ne ?_ _ _).trans (h.fixedOwner e)
    rintro rfl
    simp [h.fixedOwner e] at hfd
  · intro fd' c
    by_cases heq : fd' = fd
    · subst heq
      rcases ho with rfl | rfl <;> rcases hfd with hfd | hfd <;> simp [hfd]
    · simp [heq]

lemma started (cfg : SocketsConfig) : Consistent cfg (Sockets.start cfg) :=
  (init cfg).register_quiet List.not_mem_nil (by decide) nofun

/-- A part of the state that the invariant does not mention, or an end of what the loop was doing for no socket -/
lemma loop_idle (h : Consistent cfg d) (hl : d.loop.socket = none) (hl' : loop.socket = none)
    (hc : ∀ s fd, loop ≠ .calling (.commands s) fd) : Consistent cfg (d.setLoop loop) := by
  refine { h with sockets := h.leave fun s => .of_loop ?_ ?_ (hc s) }
  · rw [hl]
    nofun
  · rw [hl']
    nofun

lemma writers (h : Consistent cfg d) (writers : List ℕ) : Consistent cfg { d with writers := writers } :=
  { h with sockets := h.leave fun _ => .of_events .rfl .rfl .rfl ⟨rfl, rfl⟩ ⟨rfl, rfl, rfl, rfl, rfl⟩ }

lemma not_debug_closed (h : Consistent cfg d) : d.loop ≠ .debugClosed s := by
  intro hl
  obtain ⟨p, hp⟩ := h.sockets s
  have hd := hp.during
  rw [hl] at hd
  cases p <;> simp_all [SocketPhase.During, SocketLoop.socket]

lemma next {a : SocketsAction} (h : Consistent cfg d) (hk : keeping cfg d a = true) (hs : socketsStep cfg d a = some d') :
    Consistent cfg d' := by
  cases a with
  | startListen s =>
    simp only [socketsStep] at hs
    split at hs
    · rename_i hc
      obtain rfl := Option.some.inj hs
      exact h.register_listen hc.2
    · cases hs
  | startDebug =>
    simp only [socketsStep] at hs
    split at hs
    · rename_i hc
      obtain rfl := Option.some.inj hs
      exact h.register_quiet hc (by decide) nofun
    · cases hs
  | select ready =>
    simp only [socketsStep] at hs
    split at hs
    · rename_i hc
      obtain rfl := Option.some.inj hs
      exact h.select hc.1 hc.2.1
    · cases hs
  | selectFails =>
    simp only [socketsStep] at hs
    split at hs
    · rename_i hc
      obtain rfl := Option.some.inj hs
      exact h.loop_idle (by rw [hc.1]; rfl) rfl nofun
    · cases hs
  | fire =>
    simp only [socketsStep] at hs
    split at hs
    · rename_i hl hp
      obtain rfl := Option.some.inj hs
      exact h.fire hl hp
    · cases hs
  | done =>
    simp only [socketsStep] at hs
    split at hs
    · rename_i hl
      obtain rfl := Option.some.inj hs
      exact h.loop_idle (by rw [hl]; rfl) rfl nofun
    · rename_i hl
      obtain rfl := Option.some.inj hs
      exact h.loop_idle (by rw [hl]; rfl) rfl nofun
    · rename_i hl
      obtain rfl := Option.some.inj hs
      exact h.loop_idle (by rw [hl]; rfl) rfl nofun
    · cases hs
  | acceptFails =>
    simp only [socketsStep] at hs
    split at hs
    · rename_i hl
      obtain rfl := Option.some.inj hs
      exact h.accept_fails hl
    · cases hs
  | accept fd =>
    simp only [socketsStep] at hs
    split at hs
    · rename_i hl hfd
      obtain rfl := Option.some.inj hs
      exact h.accept hl hfd
    · cases hs
  | reject =>
    simp only [socketsStep] at hs
    split at hs
    · rename_i hl
      obtain rfl := Option.some.inj hs
      exact h.reject hl
    · cases hs
  | publish =>
    simp only [socketsStep] at hs
    split at hs
    · rename_i hl
      obtain rfl := Option.some.inj hs
      exact h.publish hl
    · cases hs
  | watch =>
    simp only [socketsStep] at hs
    split at hs
    · rename_i hl
      obtain ⟨fd, hfd, rfl⟩ := Option.map_eq_some_iff.mp hs
      exact h.watch hl hfd
    · cases hs
  | endOfStream =>
    simp only [socketsStep] at hs
    split at hs
    · rename_i hl
      obtain rfl := Option.some.inj hs
      exact h.end_of_stream hl (by simpa [keeping, hl] using hk)
    · cases hs
  | resetFdCommand =>
    simp only [socketsStep] at hs
    split at hs
    · rename_i hl
      obtain rfl := Option.some.inj hs
      exact h.reset_fd_command hl
    · cases hs
  | deleteEvent =>
    simp only [socketsStep] at hs
    split at hs
    · rename_i hl
      obtain rfl := Option.some.inj hs
      exact h.delete hl
    · cases hs
  | rearm =>
    simp only [socketsStep] at hs
    split at hs
    · rename_i hl
      obtain rfl := Option.some.inj hs
      exact h.rearm hl
    · cases hs
  | debugPowerOff simId =>
    simp only [socketsStep] at hs
    split at hs
    · rename_i hl
      split at hs
      · obtain rfl := Option.some.inj hs
        exact h.loop_idle (by rw [hl]; rfl) rfl nofun
      · rename_i hcloses
        simp [keeping, hcloses] at hk
    · cases hs
  | debugReset =>
    simp only [socketsStep] at hs
    split at hs
    · rename_i hl
      exact absurd hl h.not_debug_closed
    · cases hs
  | hold s =>
    obtain ⟨fd, -, rfl⟩ := Option.map_eq_some_iff.mp hs
    exact h.writers _
  | written i =>
    obtain ⟨owner, -, rfl⟩ := Option.map_eq_some_iff.mp hs
    exact h.writers _
  | writeFails i => cases hk
  | openOther fd =>
    simp only [socketsStep] at hs
    split at hs
    · rename_i hfd
      obtain rfl := Option.some.inj hs
      exact h.other (.inl hfd) (.inr rfl)
    · cases hs
  | closeOther fd =>
    simp only [socketsStep] at hs
    split at hs
    · rename_i hfd
      obtain rfl := Option.some.inj hs
      exact h.other (.inr hfd) (.inl rfl)
    · cases hs

end Consistent

/-! ### Quiescent points -/

lemma SocketAt.current_iff (h : SocketAt cfg d s p) {c : ℕ} (hp : p = .unregistered ∨ p = .listening ∨ ∃ fd c, p = .serving fd c) :
    d.Current s c ↔ p.connection = some c := by
  rcases hp with rfl | rfl | ⟨fd, c', rfl⟩
  · refine iff_of_false ?_ nofun
    rintro ⟨fd, hfd, -⟩
    cases h.fdCommand.symm.trans hfd
  · refine iff_of_false ?_ nofun
    rintro ⟨fd, hfd, -⟩
    cases h.fdCommand.symm.trans hfd
  · constructor
    · rintro ⟨fd', hfd, ho⟩
      have hopened := (h.opened fd' c).mp ho
      rw [SocketPhase.connection, hopened]
      rfl
    · intro hc
      obtain rfl : c' = c := Option.some.inj hc
      exact ⟨fd, h.fdCommand, (h.opened fd c').mpr rfl⟩

lemma SocketAt.quiescent (h : SocketAt cfg d s p) (hq : d.Quiescent) :
    p = .unregistered ∨ p = .listening ∨ ∃ fd c, p = .serving fd c := by
  have hd := h.during
  have hf := h.fired
  rw [hq.1] at hd
  rw [hq.2] at hf
  cases p with
  | unregistered => exact .inl rfl
  | listening => exact .inr (.inl rfl)
  | serving fd c => exact .inr (.inr ⟨fd, c, rfl⟩)
  | fired => simp at hf
  | _ => simp [SocketPhase.During] at hd

/-- At a quiescent point of a run in which a stream ends on the first socket only, no write fails and the debug port
closes no connection, every socket listens or serves its connection, and the other accepted connections have been closed
once. -/
theorem sockets_listen_or_serve (h : Reaches (socketsStep cfg) (fun d a => keeping cfg d a = true) (start cfg) d)
    (hq : d.Quiescent) :
    (∀ s, .listen s ∈ d.registered → (d.Listens s ∧ ¬d.Serves s) ∨ (d.Serves s ∧ ¬d.Listens s)) ∧ d.ClosedOnce := by
  have hc : Consistent cfg d := h.invariant (.started cfg) fun _ _ _ _ hi hk hs => hi.next hk hs
  have harmed : ∀ e, d.Armed e ↔ e ∈ d.watched := fun e => ⟨And.left, fun he => ⟨he, hc.watching.selected e he⟩⟩
  refine ⟨?_, ?_, ?_, hc.closed⟩
  · intro s hr
    obtain ⟨p, hp⟩ := hc.sockets s
    rcases hp.quiescent hq with rfl | rfl | ⟨fd, c, rfl⟩
    · exact absurd rfl (hp.registered.mp hr)
    · refine .inl ⟨⟨(harmed _).mpr (hp.listens.mpr rfl), ?_, hp.fdCommand⟩, ?_⟩
      · rw [harmed, hp.serves]
        nofun
      · rintro ⟨-, hn, -⟩
        exact hn ((harmed _).mpr (hp.listens.mpr rfl))
    · have hfd := (hp.event fd rfl).1
      refine .inr ⟨⟨(harmed _).mpr (hp.serves.mpr rfl), ?_, ?_, c, ?_⟩, ?_⟩
      · rw [harmed, hp.listens]
        nofun
      · rw [hfd]
        exact hp.fdCommand
      · rw [hfd]
        exact (hp.opened fd c).mpr rfl
      · rintro ⟨-, hn, -⟩
        exact hn ((harmed _).mpr (hp.serves.mpr rfl))
  · intro s c ha hcur
    obtain ⟨p, hp⟩ := hc.sockets s
    rw [hp.account.closes c ha, if_pos ((hp.current_iff (hp.quiescent hq)).mp hcur)]
  · intro s c ha hcur
    obtain ⟨p, hp⟩ := hc.sockets s
    rw [hp.account.closes c ha, if_neg (fun heq => hcur ((hp.current_iff (hp.quiescent hq)).mpr heq))]

/-! ### Runs -/

def twoSims : SocketsConfig where
  simCount := 2
  fd
    | .wakeupfd => 3
    | .debug => 4
    | .listen .socket1 => 5
    | .listen .socket2 => 6
    | .listen .socket3 => 7
    | .listen .socket4 => 8
  fd_injective := by
    intro e e' h
    rcases e with _ | _ | (_ | _ | _ | _) <;> rcases e' with _ | _ | (_ | _ | _ | _) <;> first | rfl | cases h

/-- A client connects to each socket, one is rejected, and the stream of the first ends. -/
def connectedRun : List SocketsAction := [.startListen .socket1, .startListen .socket2, .startDebug,
  .select [5, 6], .fire, .accept 10, .publish, .watch, .fire, .accept 11, .reject, .rearm,
  .select [6], .fire, .accept 11, .publish, .watch, .select [10, 11], .fire, .endOfStream, .resetFdCommand, .deleteEvent,
  .rearm, .fire, .done]

theorem sockets_listen_or_serve_connected : ∃ d, run (socketsStep twoSims) (start twoSims) connectedRun = some d ∧
    d.Quiescent ∧ ((∀ s, .listen s ∈ d.registered → (d.Listens s ∧ ¬d.Serves s) ∨ (d.Serves s ∧ ¬d.Listens s)) ∧
      d.ClosedOnce) :=
  ⟨_, rfl, ⟨rfl, rfl⟩, sockets_listen_or_serve
    (.of_run connectedRun rfl (by decide : runMeets _ (keeping twoSims) _ _ = true) fun _ _ h => h) ⟨rfl, rfl⟩⟩

/-- The stream of the second socket ends, and the listen event of the first is added once more. -/
def secondRun : List SocketsAction := [.startListen .socket1, .startListen .socket2, .startDebug, .select [6], .fire,
  .accept 10, .publish, .watch, .select [10], .fire, .endOfStream, .resetFdCommand, .deleteEvent, .rearm]

theorem second_socket_deaf : ∃ d, run (socketsStep twoSims) (start twoSims) secondRun = some d ∧ d.Quiescent ∧
    .listen .socket2 ∈ d.registered ∧ ¬d.Listens .socket2 ∧ ¬d.Serves .socket2 := by
  refine ⟨_, rfl, ⟨rfl, rfl⟩, by decide, ?_, ?_⟩
  · rintro ⟨ha, -⟩
    exact absurd ha.1 (by decide)
  · rintro ⟨ha, -⟩
    exact absurd ha.1 (by decide)

end Ril.Libril
