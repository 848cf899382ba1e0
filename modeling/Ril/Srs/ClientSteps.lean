import Ril.Srs.ClientPhases

/-! What each step does to the clients. -/

namespace Ril.Srs

open Lib Ipc

variable {width : ℕ} {s t : SrsData} {c : SrsClient} {address : ℕ}

namespace Tidy

variable (h : Tidy s)

include h

/-! ### The steps of the server -/

lemma signals (hclients : t.clients = s.clients) (hopen : t.openFds = s.openFds) (hnext : t.next = s.next)
    (htrace : t.trace = s.trace) (hloop : t.loop = s.loop) (hclient : t.client = s.client)
    (hfd : t.clientFd = s.clientFd) : Tidy t := by
  refine h.logs [] htrace (fun _ hm => absurd hm List.not_mem_nil) hclients hnext ?_ ?_ ?_ ?_ ?_ ?_ ?_
  · intro c _ hp
    cases hp with
    | serving hm ho hf => exact .serving (hclients ▸ hm) (hopen ▸ ho) (htrace ▸ hf)
    | failing hm ho hf hn hl hp =>
      exact .failing (hclients ▸ hm) (hopen ▸ ho) (htrace ▸ hf) (htrace ▸ hn) (hloop ▸ hl) (hclient ▸ hp)
    | closed hm hf hc hl hp => exact .closed (hclients ▸ hm) (htrace ▸ hf) (htrace ▸ hc) (hloop ▸ hl) (hclient ▸ hp)
    | gone hm hf hc hu => exact .gone (hclients ▸ hm) (htrace ▸ hf) (htrace ▸ hc) (htrace ▸ hu)
  · intro address hf
    simp [Failed] at hf
  · rw [hclients, hloop, hclient]
    exact h.pointer
  · rw [hloop, hfd]
    exact h.descriptor
  · rw [hloop, hclient, htrace]
    exact h.ending_failed
  · refine h.round.extend [] htrace (fun _ hm => absurd hm List.not_mem_nil) fun c hw => .inr ?_
    simp only [Waiting, Live, hclients, htrace, hloop, hclient]
    exact hw
  · rw [hloop]
    exact h.safe

lemma register {fd : ℕ} (hfd : fd ∉ s.openFds) : Tidy (s.srsClientRegister fd) := by
  have hfresh (c : SrsClient) (hr : .registered c.address c.fd ∈ s.trace) : c.address ≠ s.next :=
    Nat.ne_of_lt (h.registered_lt _ _ hr)
  have htrace : (s.srsClientRegister fd).trace = .registered s.next fd :: s.trace := rfl
  have hclients : (s.srsClientRegister fd).clients = s.clients ++ [⟨s.next, fd⟩] := rfl
  have hmem (c : SrsClient) : c ∈ (s.srsClientRegister fd).clients ↔ c ∈ s.clients ∨ c = ⟨s.next, fd⟩ := by
    simp [hclients]
  have hfailed (address : ℕ) : Failed (s.srsClientRegister fd).trace address ↔ Failed s.trace address :=
    failed_cons_of_none rfl
  have hclosed (address fd' : ℕ) :
      .closed address fd' ∈ (s.srsClientRegister fd).trace ↔ .closed address fd' ∈ s.trace := by
    simp [htrace]
  have hlive (c : SrsClient) (hl : Live (s.srsClientRegister fd) c) : Live s c ∨ c = ⟨s.next, fd⟩ :=
    ((hmem c).mp hl.1).imp_left fun hm => ⟨hm, mt (hclosed _ _).mpr hl.2⟩
  refine
    { toRecorded := h.toRecorded.register fd, client_registered := ?_, nodup := ?_, phase := ?_, distinct := ?_
      pointer := ?_, descriptor := h.descriptor, ending_failed := ?_, round := ?_, safe := h.safe }
  · intro c hm
    rw [htrace]
    rcases (hmem c).mp hm with hm | rfl
    · exact List.mem_cons_of_mem _ (h.client_registered c hm)
    · exact List.mem_cons_self
  · rw [hclients, List.map_append, List.nodup_append]
    refine ⟨h.nodup, List.pairwise_singleton _ _, ?_⟩
    intro address hm address' hm'
    obtain ⟨c, hmc, rfl⟩ := List.mem_map.mp hm
    rw [List.mem_singleton.mp hm']
    exact hfresh c (h.client_registered c hmc)
  · intro c hr
    rw [htrace, List.mem_cons] at hr
    rcases hr with hr | hr
    · obtain ⟨ha, hf⟩ := SrsEvent.registered.inj hr
      obtain rfl : c = ⟨s.next, fd⟩ := by
        cases c
        cases ha
        cases hf
        rfl
      refine .serving ((hmem _).mpr (.inr rfl)) List.mem_cons_self ?_
      rw [hfailed]
      exact fun hf => Nat.lt_irrefl _ (h.failed_lt _ hf)
    · have hne : c ≠ ⟨s.next, fd⟩ := fun he => hfresh c hr (congrArg SrsClient.address he)
      cases h.phase c hr with
      | serving hm ho hf => exact .serving ((hmem c).mpr (.inl hm)) (List.mem_cons_of_mem _ ho) (mt (hfailed _).mp hf)
      | failing hm ho hf hn hl hp =>
        exact .failing ((hmem c).mpr (.inl hm)) (List.mem_cons_of_mem _ ho) ((hfailed _).mpr hf)
          (mt (hclosed _ _).mp hn) hl hp
      | closed hm hf hc hl hp =>
        exact .closed ((hmem c).mpr (.inl hm)) ((hfailed _).mpr hf) ((hclosed _ _).mpr hc) hl hp
      | gone hm hf hc hu =>
        exact .gone (fun hm' => ((hmem c).mp hm').elim hm hne) ((hfailed _).mpr hf) ((hclosed _ _).mpr hc)
          (List.mem_cons_of_mem _ hu)
  · intro c c' hl hl' he
    rcases hlive c hl with hl | rfl
    · rcases hlive c' hl' with hl' | rfl
      · exact h.distinct c c' hl hl' he
      · have ho := h.live_open hl
        rw [he] at ho
        exact absurd ho hfd
    · rcases hlive c' hl' with hl' | rfl
      · have ho := h.live_open hl'
        rw [← he] at ho
        exact absurd ho hfd
      · rfl
  · intro hs
    obtain ⟨c, hm, hp⟩ := h.pointer hs
    exact ⟨c, (hmem c).mpr (.inl hm), hp⟩
  · intro he address ha
    exact (hfailed _).mpr (h.ending_failed he address ha)
  · refine h.round.extend [.registered s.next fd] htrace (by simp) fun c hw => .inr ?_
    refine hw.imp_right (Or.imp_left fun hl => ⟨⟨(hmem c).mpr (.inl hl.1.1), ?_⟩, hl.2⟩)
    exact mt (hclosed _ _).mp hl.1.2

/-! ### The steps of the loop -/

lemma quiet (hcalm : s.loop.ending = false) (hclients : t.clients = s.clients) (hopen : t.openFds = s.openFds)
    (htrace : t.trace = s.trace) (hnext : t.next = s.next) (hcalm' : t.loop.ending = false)
    (hpointer : t.loop.serving = true → ∃ c ∈ t.clients, t.client = .address c.address ∧ c.fd ∉ t.loop.ready)
    (hdescriptor : t.loop.sending = true → t.clientFd.isSome = true) (hwait : ∀ c, Waiting s c → Waiting t c)
    (hsafe : t.loop.safe = true) : Tidy t :=
  h.goes_on [] hcalm htrace (fun _ hm => absurd hm List.not_mem_nil) (by simp [Failed]) hclients hopen hnext hcalm'
    hpointer hdescriptor
    (h.round.extend [] htrace (fun _ hm => absurd hm List.not_mem_nil) fun c hw => .inr (hwait c hw)) hsafe

lemma iterate (hl : s.loop = .iterating) :
    Tidy { s with loop := if s.available then .polling s.srsClientFdSetSetup else .returned } := by
  have hcalm : s.loop.ending = false := by rw [hl]; rfl
  have hout : ∀ c, ¬Waiting s c := by
    intro c hw
    simp [Waiting, hl, SrsLoopState.ready] at hw
  cases s.available with
  | true =>
    exact h.quiet hcalm rfl rfl rfl rfl rfl (fun hs => by cases hs) (fun hs => by cases hs)
      (fun c hw => absurd hw (hout c)) rfl
  | false =>
    exact h.quiet hcalm rfl rfl rfl rfl rfl (fun hs => by cases hs) (fun hs => by cases hs)
      (fun c hw => absurd hw (hout c)) rfl

lemma select_fails {fds : List ℕ} (hl : s.loop = .polling fds) : Tidy { s with loop := .returned } :=
  h.quiet (by rw [hl]; rfl) rfl rfl rfl rfl rfl (fun hs => by cases hs) (fun hs => by cases hs)
      (fun _ _ => .inl rfl) rfl

/-- No send has failed that the event could be about. -/
lemma read_event {ready : List ℕ} (hl : s.loop = .signalled ready) (he : s.event.count ≠ srsClientIoError) :
    Tidy (s.readEvent ready) := by
  have hcalm : s.loop.ending = false := by rw [hl]; rfl
  have hwait (c : SrsClient) (hw : Waiting s c) (event : EventFd) :
      Waiting { s with event := event, loop := .finding ready } c := by
    have hw := hw.live hl SrsLoopState.noConfusion fun _ => SrsLoopState.noConfusion
    exact .inr (.inl hw)
  rcases hr : s.event.read with ⟨value, event⟩
  cases value with
  | none =>
    simp only [SrsData.readEvent, hr]
    exact h.quiet hcalm rfl rfl rfl rfl rfl (fun hs => by cases hs) (fun hs => by cases hs)
      (fun _ _ => .inl rfl) rfl
  | some value =>
    have hv : s.event.count = value := (EventFd.read_eq_some.mp (congrArg Prod.fst hr)).1
    simp only [SrsData.readEvent, hr, if_neg (hv ▸ he)]
    split
    · exact h.quiet hcalm rfl rfl rfl rfl rfl (fun hs => by cases hs) (fun hs => by cases hs)
        (fun _ _ => .inl rfl) rfl
    · exact h.quiet hcalm rfl rfl rfl rfl rfl (fun hs => by cases hs) (fun hs => by cases hs)
        (fun c hw => hwait c hw event) rfl

lemma find {ready : List ℕ} (hl : s.loop = .finding ready) : Tidy (s.find ready) := by
  have hcalm : s.loop.ending = false := by rw [hl]; rfl
  have hwaiting (c : SrsClient) : Waiting s c ↔ Live s c ∧ c.fd ∈ ready := by
    simp [Waiting, hl, SrsLoopState.ready]
  cases hf : s.clients.find? (·.fd ∈ ready) with
  | none =>
    have hnone : ∀ c, ¬Waiting s c := by
      intro c hw
      rw [hwaiting] at hw
      exact absurd (decide_eq_true hw.2) (List.find?_eq_none.mp hf c hw.1.1)
    simp only [SrsData.find, SrsData.srsClientFindFdSet, hf, Option.map_none]
    exact h.quiet hcalm rfl rfl rfl rfl rfl (fun hs => by cases hs) (fun hs => by cases hs)
      (fun c hw => absurd hw (hnone c)) rfl
  | some c₀ =>
    have hm₀ := List.mem_of_find?_eq_some hf
    simp only [SrsData.find, SrsData.srsClientFindFdSet, hf, Option.map_some]
    refine h.quiet hcalm rfl rfl rfl rfl rfl (fun _ => ⟨c₀, hm₀, rfl, ?_⟩) (fun _ => rfl) (fun c hw => ?_) rfl
    · simp [SrsLoopState.ready]
    · rw [hwaiting] at hw
      by_cases he : c.fd = c₀.fd
      · obtain rfl := h.distinct c c₀ hw.1 (h.calm hcalm hm₀).2.2 he
        exact .inr (.inr ⟨⟨_, rfl⟩, rfl⟩)
      · exact .inr (.inl ⟨hw.1, List.mem_filter.mpr ⟨hw.2, by simpa using he⟩⟩)

/-- A new iteration: the clients that are ready are waiting. -/
lemma select {fds ready : List ℕ} {loop : SrsLoopState} (hl : s.loop = .polling fds)
    (hloop : loop = .finding ready ∨ loop = .signalled ready) :
    Tidy { s.log (.selected ready) with loop := loop } := by
  have hcalm : s.loop.ending = false := by rw [hl]; rfl
  have hround : ∀ loop : SrsLoopState, loop.ready = ready → Round { s.log (.selected ready) with loop := loop } := by
    intro loop hready later ready₁ earlier he hlater c hr hu hf
    rcases split_cons he with ⟨rfl, hsel, rfl⟩ | ⟨later', rfl, -⟩
    · obtain rfl := SrsEvent.selected.inj hsel
      rcases (h.phase c hr).calm hcalm with ⟨hm, -, -⟩ | ⟨-, -, -, hu'⟩
      · refine .inr (.inr (.inl ⟨⟨hm, ?_⟩, hready.symm ▸ hf⟩))
        simpa [SrsData.log] using (h.calm hcalm hm).2.2.2
      · exact absurd hu' hu
    · exact absurd List.mem_cons_self (hlater ready)
  have hnone : ∀ address, ¬Failed [.selected ready] address := by simp [Failed]
  rcases hloop with rfl | rfl
  · exact h.goes_on [.selected ready] hcalm rfl (by simp [SrsEvent.placing]) hnone rfl rfl rfl rfl
      (fun hs => by cases hs) (fun hs => by cases hs) (hround _ rfl) rfl
  · exact h.goes_on [.selected ready] hcalm rfl (by simp [SrsEvent.placing]) hnone rfl rfl rfl rfl
      (fun hs => by cases hs) (fun hs => by cases hs) (hround _ rfl) rfl

lemma receive {ready : List ℕ} {readable : Bool} {read : Bytes} (hl : s.loop = .receiving ready)
    (hp : s.client = .address address)
    (hread : ∀ message, srsClientRecv width read = some message → message.data.isSome = true) :
    Tidy (s.receive width ready address readable read) := by
  have hcalm : s.loop.ending = false := by rw [hl]; rfl
  have hwaiting (c : SrsClient) (hw : Waiting s c) : (Live s c ∧ c.fd ∈ ready) ∨ c.address = address := by
    simp only [Waiting, hl, SrsLoopState.ready, hp, reduceCtorEq, false_or] at hw
    exact hw.imp_right fun hw => (ClientPointer.address.inj hw.2).symm
  cases hm : (if readable then srsClientRecv width read else none) with
  | none =>
    simp only [SrsData.receive, hm]
    refine h.fails [.wake .released, .receiveFailed address, .wake .acquired] (by rw [hl]; rfl) hcalm (by rw [hl]; rfl)
      hp rfl (by simp [SrsEvent.placing]) (fun a => by simp [Failed, eq_comm]) rfl rfl rfl rfl rfl ?_
    refine h.round.extend [.wake .released, .receiveFailed address, .wake .acquired] rfl (by simp) fun c hw => ?_
    rcases hwaiting c hw with ⟨hlive, hf⟩ | ha
    · refine .inr (.inr (.inl ⟨⟨hlive.1, ?_⟩, hf⟩))
      simpa [SrsData.log, SrsData.logWakes] using hlive.2
    · exact .inl (.inr (by simp [ha]))
  | some message =>
    have hdata : message.data.isNone = false := by
      have hsome := hread message (by
        cases readable with
        | true => exact hm
        | false => cases hm)
      rw [Option.isNone_eq_false_iff]
      exact hsome
    simp only [SrsData.receive, hm, hdata, Bool.false_eq_true, if_false]
    obtain ⟨c₀, hm₀, hp₀, hfd₀⟩ := h.pointer (by rw [hl]; rfl)
    refine h.goes_on [.received address, .wake .acquired] hcalm rfl (by simp [SrsEvent.placing]) (by simp [Failed])
      rfl rfl rfl rfl (fun _ => ⟨c₀, hm₀, hp₀, ?_⟩) (fun _ => h.descriptor (by rw [hl]; rfl)) ?_ rfl
    · rw [hl] at hfd₀
      exact hfd₀
    · refine h.round.extend [.received address, .wake .acquired] rfl (by simp) fun c hw => ?_
      rcases hwaiting c hw with ⟨hlive, hf⟩ | ha
      · refine .inr (.inr (.inl ⟨⟨hlive.1, ?_⟩, hf⟩))
        simpa [SrsData.log, SrsData.logWakes] using hlive.2
      · exact .inl (.inl (by simp [ha]))

lemma served (new : List SrsEvent) {ready : List ℕ} {message : SrsReceived} (hl : s.loop = .dispatching ready message)
    (hnew : ∀ e ∈ new, e.placing = false) (hnone : ∀ address, ¬Failed new address)
    (hselected : ∀ ready', .selected ready' ∉ new) :
    Tidy { s with trace := new ++ s.trace, clientFd := none, loop := .finding ready } := by
  refine h.goes_on new (by rw [hl]; rfl) rfl hnew hnone rfl rfl rfl rfl (fun hs => by cases hs) (fun hs => by cases hs)
    ?_ rfl
  refine h.round.extend new rfl hselected fun c hw => .inr ?_
  have hw := hw.live hl SrsLoopState.noConfusion fun _ => SrsLoopState.noConfusion
  refine .inr (.inl ⟨⟨hw.1.1, ?_⟩, hw.2⟩)
  rw [List.mem_append]
  exact not_or.mpr ⟨fun hc => by simpa [SrsEvent.placing] using hnew _ hc, hw.1.2⟩

lemma dispatch {ready : List ℕ} {message : SrsReceived} {fmt : IpcSend} {writable : Bool} {write : ReadEvent}
    (hl : s.loop = .dispatching ready message) (hp : s.client = .address address)
    (hsend : ∀ answer, srsAnswer message = some answer → (srsClientSend writable write answer).1 = true) :
    Tidy (s.dispatch ready message address fmt writable write) := by
  have hcalm : s.loop.ending = false := by rw [hl]; rfl
  have hwakes (locks : List WakeLock) : ∀ e ∈ (locks.map SrsEvent.wake).reverse, ∃ lock, e = .wake lock := by
    intro e he
    obtain ⟨lock, -, rfl⟩ := List.mem_map.mp (List.mem_reverse.mp he)
    exact ⟨lock, rfl⟩
  rw [SrsData.dispatch]
  split
  · refine h.fails [.refused address] (by rw [hl]; rfl) hcalm (by rw [hl]; rfl) hp rfl (by simp [SrsEvent.placing])
      (fun a => by simp [Failed, eq_comm]) rfl rfl rfl rfl rfl ?_
    refine h.round.extend [.refused address] rfl (by simp) fun c hw => .inr ?_
    have hw := hw.live hl SrsLoopState.noConfusion fun _ => SrsLoopState.noConfusion
    refine .inr (.inl ⟨⟨hw.1.1, ?_⟩, hw.2⟩)
    simpa [SrsData.log] using hw.1.2
  · cases ha : srsAnswer message with
    | none =>
      dsimp only
      refine h.served _ hl ?_ ?_ ?_
      · intro e he
        obtain ⟨lock, rfl⟩ := hwakes _ e he
        rfl
      · intro a hf
        obtain ⟨e, he, hb⟩ := failed_iff.mp hf
        obtain ⟨lock, rfl⟩ := hwakes _ e he
        cases hb
      · intro ready' hm
        obtain ⟨lock, he⟩ := hwakes _ _ hm
        cases he
    | some answer =>
      have hfd := h.descriptor (by rw [hl]; rfl)
      have hok := hsend answer ha
      cases hav : s.available with
      | false =>
        have hr : srsSend true false s.clientFd writable write answer = (.unavailable, []) := rfl
        simp only [hr]
        exact h.served [] hl (fun _ hm => absurd hm List.not_mem_nil) (by simp [Failed]) (fun _ => List.not_mem_nil)
      | true =>
        have hr : srsSend true true s.clientFd writable write answer = (.sent, [.acquired]) := by
          simp [srsSend, hfd, hok]
        simp only [hr]
        exact h.served [.sent address, .wake .acquired] hl (by simp [SrsEvent.placing]) (by simp [Failed]) (by simp)

/-- The client that is closed has failed, and no other has its descriptor. -/
lemma close {ready : List ℕ} (hl : s.loop = .closing ready) : Tidy (s.close ready) := by
  obtain ⟨c₀, hm₀, hp₀, hfd₀⟩ := h.pointer (by rw [hl]; rfl)
  rw [hl] at hfd₀
  have hf₀ : Failed s.trace c₀.address := h.ending_failed (by rw [hl]; rfl) _ hp₀
  have hlive₀ : Live s c₀ := by
    refine ⟨hm₀, ?_⟩
    cases h.phase c₀ (h.client_registered c₀ hm₀) with
    | serving _ _ hf => exact absurd hf₀ hf
    | failing _ _ _ hn _ _ => exact hn
    | closed _ _ _ hl' _ =>
      obtain ⟨ready', hl'⟩ := hl'
      cases hl.symm.trans hl'
    | gone hm _ _ _ => exact absurd hm₀ hm
  have hne (c : SrsClient) (hm : c ∈ s.clients) (hc : c ≠ c₀) : c.address ≠ c₀.address :=
    fun ha => hc (h.eq_of_address hm hm₀ ha)
  have hfailed (address : ℕ) : Failed (.closed c₀.address c₀.fd :: s.trace) address ↔ Failed s.trace address :=
    failed_cons_of_none rfl
  have hkept {e : SrsEvent} (he : e ∈ s.trace) : e ∈ .closed c₀.address c₀.fd :: s.trace := List.mem_cons_of_mem _ he
  rw [SrsData.close, h.pointee_eq hm₀ hp₀]
  dsimp only
  refine
    { toRecorded := h.toRecorded.close (h.client_registered c₀ hm₀) hf₀, client_registered := ?_, nodup := h.nodup
      phase := ?_, distinct := ?_, pointer := ?_, descriptor := (fun hs => by cases hs), ending_failed := ?_
      round := ?_, safe := rfl }
  · intro c hm
    exact hkept (h.client_registered c hm)
  · intro c hr
    cases h.phase c (by simpa [SrsData.log] using hr) with
    | serving hm ho hf =>
      have hc : c ≠ c₀ := fun hc => hf (hc ▸ hf₀)
      refine .serving hm (List.mem_filter.mpr ⟨ho, ?_⟩) (mt (hfailed _).mp hf)
      have hlive : Live s c := ⟨hm, fun hcl => hf (h.closed_failed _ _ hcl).2⟩
      simpa using fun hfd => hc (h.distinct c c₀ hlive hlive₀ hfd)
    | failing hm ho hf hn _ hp =>
      obtain rfl := h.eq_of_address hm hm₀ (ClientPointer.address.inj (hp.symm.trans hp₀))
      exact .closed hm ((hfailed _).mpr hf) List.mem_cons_self ⟨ready, rfl⟩ hp
    | closed _ _ _ hl' _ =>
      obtain ⟨ready', hl'⟩ := hl'
      cases hl.symm.trans hl'
    | gone hm hf hc hu => exact .gone hm ((hfailed _).mpr hf) (hkept hc) (hkept hu)
  · intro c c' hc hc' he
    exact h.distinct c c' ⟨hc.1, mt hkept hc.2⟩ ⟨hc'.1, mt hkept hc'.2⟩ he
  · intro _
    exact ⟨c₀, hm₀, hp₀, hfd₀⟩
  · intro _ address ha
    exact (hfailed _).mpr (h.ending_failed (by rw [hl]; rfl) address ha)
  · refine h.round.extend [.closed c₀.address c₀.fd] rfl (by simp) fun c hw => .inr ?_
    have hw := hw.live hl SrsLoopState.noConfusion fun _ => SrsLoopState.noConfusion
    have hc : c ≠ c₀ := fun hc => hfd₀ (hc ▸ hw.2)
    refine .inr (.inl ⟨⟨hw.1.1, ?_⟩, hw.2⟩)
    intro hcl
    rcases List.mem_cons.mp hcl with hcl | hcl
    · exact hne c hw.1.1 hc (SrsEvent.closed.inj hcl).1
    · exact hw.1.2 hcl

lemma unregister {ready : List ℕ} (hl : s.loop = .unregistering ready) (hp : s.client = .address address) :
    Tidy { s.srsClientUnregister address with loop := .finding ready } := by
  obtain ⟨c₀, hm₀, hp₀, hfd₀⟩ := h.pointer (by rw [hl]; rfl)
  obtain rfl : c₀.address = address := ClientPointer.address.inj (hp₀.symm.trans hp)
  rw [hl] at hfd₀
  have hmem (c : SrsClient) : c ∈ s.clients.eraseP (·.address == c₀.address) ↔
      c ∈ s.clients ∧ c.address ≠ c₀.address := mem_erase_address h.nodup
  have hf₀ : Failed s.trace c₀.address := h.ending_failed (by rw [hl]; rfl) _ hp₀
  have hfailed (address : ℕ) : Failed (.unregistered c₀.address :: s.trace) address ↔ Failed s.trace address :=
    failed_cons_of_none rfl
  have hkept {e : SrsEvent} (he : e ∈ s.trace) : e ∈ .unregistered c₀.address :: s.trace := List.mem_cons_of_mem _ he
  have hlive (c : SrsClient) (hc : Live { s.srsClientUnregister c₀.address with loop := .finding ready } c) :
      Live s c := ⟨((hmem c).mp hc.1).1, mt hkept hc.2⟩
  refine
    { toRecorded := h.toRecorded.unregister hf₀, client_registered := ?_, nodup := ?_, phase := ?_, distinct := ?_
      pointer := (fun hs => by cases hs), descriptor := (fun hs => by cases hs)
      ending_failed := (fun hs => by cases hs), round := ?_, safe := rfl }
  · intro c hm
    exact hkept (h.client_registered c ((hmem c).mp hm).1)
  · exact h.nodup.sublist (List.eraseP_sublist.map _)
  · intro c hr
    cases h.phase c (by simpa [SrsData.srsClientUnregister, SrsData.log] using hr) with
    | serving hm ho hf =>
      have ha : c.address ≠ c₀.address := fun ha => hf (ha ▸ hf₀)
      exact .serving ((hmem c).mpr ⟨hm, ha⟩) ho (mt (hfailed _).mp hf)
    | failing _ _ _ _ hl' _ =>
      obtain ⟨ready', hl'⟩ := hl'
      cases hl.symm.trans hl'
    | closed hm hf hc _ hp =>
      have ha : c.address = c₀.address := ClientPointer.address.inj (hp.symm.trans hp₀)
      exact .gone (fun hm' => ((hmem c).mp hm').2 ha) ((hfailed _).mpr hf) (hkept hc) (ha ▸ List.mem_cons_self)
    | gone hm hf hc hu => exact .gone (fun hm' => hm ((hmem c).mp hm').1) ((hfailed _).mpr hf) (hkept hc) (hkept hu)
  · intro c c' hc hc' he
    exact h.distinct c c' (hlive c hc) (hlive c' hc') he
  · refine h.round.extend [.unregistered c₀.address] rfl (by simp) fun c hw => .inr ?_
    have hw := hw.live hl SrsLoopState.noConfusion fun _ => SrsLoopState.noConfusion
    have ha : c.address ≠ c₀.address := fun ha => hfd₀ (h.eq_of_address hw.1.1 hm₀ ha ▸ hw.2)
    refine .inr (.inl ⟨⟨(hmem c).mpr ⟨hw.1.1, ha⟩, ?_⟩, hw.2⟩)
    simpa [SrsData.srsClientUnregister, SrsData.log] using hw.1.2

end Tidy

lemma recorded_init : Recorded [] 0 where
  registered_lt := fun _ _ h => absurd h List.not_mem_nil
  registered_unique := fun _ _ _ h => absurd h List.not_mem_nil
  closed_failed := fun _ _ h => absurd h List.not_mem_nil
  unregistered_failed := fun _ h => absurd h List.not_mem_nil
  failed_lt := fun _ h => by simp [Failed] at h

lemma tidy_init : Tidy {} where
  toRecorded := recorded_init
  client_registered := fun _ h => absurd h List.not_mem_nil
  nodup := List.nodup_nil
  phase := fun _ h => absurd h List.not_mem_nil
  distinct := fun _ _ h => absurd h.1 List.not_mem_nil
  pointer := fun h => by cases h
  descriptor := fun h => by cases h
  ending_failed := fun h => by cases h
  round := fun _ _ _ h => by simp at h
  safe := rfl

end Ril.Srs
