import Ril.Samsung.Proofs.SeqSharing
import Ril.Samsung.Spec.Connections

/-! Which connection a reply configures or stops. -/

namespace Ril.Samsung

open Ril.Ipc Ril.Lib

/-- The message starts the connection of the cid, or asks for its end. -/
def NamesConnection (m : IpcRequest) (cid : ℕ) : Prop :=
  m.command = .gprsDefinePdpContext ∧ (∃ apn, m.data = ipcGprsDefinePdpContextSetup 1 (UInt8.ofNat cid) apn) ∨
    m.command = .gprsPdpContext ∧ m.data = ipcGprsPdpContextRequestSetSetup 0 (UInt8.ofNat cid) none none

/-- The request has taken the seq and sent, under it, a message for the connection. -/
def TargetedBy (trace : List Event) (token : RilToken) (seq : UInt8) (cid : ℕ) : Prop :=
  (some token, seq) ∈ taken trace ∧ ∃ m, m.mseq = seq ∧ .sent m true ∈ trace ∧ NamesConnection m cid

/-- A connection with a token was started or targeted by the request of this token. -/
structure Targets (s : RilData) : Prop where
  nodup : (s.dataConnections.map (·.record)).Nodup
  below : ∀ c ∈ s.dataConnections, c.record < s.heap.next
  targeted : ∀ c ∈ s.dataConnections, c.token ≠ 0 → ∃ seq, TargetedBy s.trace c.token seq c.cid

lemma TargetedBy.mono {trace trace' : List Event} {token : RilToken} {seq : UInt8} {cid : ℕ}
    (h : TargetedBy trace token seq cid) (ht : trace <:+ trace') : TargetedBy trace' token seq cid := by
  obtain ⟨htaken, m, hm, hs, hn⟩ := h
  exact ⟨(ht.sublist.filterMap _).subset htaken, m, hm, ht.subset hs, hn⟩

namespace Targets

variable {s t : RilData}

lemma init : Targets {} := ⟨List.nodup_nil, fun _ h => absurd h List.not_mem_nil, fun _ h => absurd h List.not_mem_nil⟩

lemma inherits (h : Targets s) (hi : Inherits s t) (ht : s.trace <:+ t.trace) : Targets t := by
  refine ⟨h.nodup.sublist hi.records, fun c hc => ?_, fun c hc h0 => ?_⟩
  · obtain ⟨c', hc', hr, -, -⟩ := hi.tokens c hc
    rw [hr]
    exact Nat.lt_of_lt_of_le (h.below c' hc') hi.next
  · obtain ⟨c', hc', -, hcid, htoken | h0'⟩ := hi.tokens c hc
    · rw [htoken] at h0 ⊢
      obtain ⟨seq, hs⟩ := h.targeted c' hc' h0
      rw [hcid]
      exact ⟨seq, hs.mono ht⟩
    · exact absurd h0' h0

lemma record_inj (h : Targets s) {c c' : RilDataConnection} (hc : c ∈ s.dataConnections) (hc' : c' ∈ s.dataConnections)
    (he : c.record = c'.record) : c = c' := List.inj_on_of_nodup_map h.nodup hc hc' he

lemma register (h : Targets s) (cid : ℕ) (apn iface : HeapString) (username password : Option HeapString) :
    Targets (s.dataConnectionRegister cid apn username password iface) := by
  rw [RilData.dataConnectionRegister]
  refine ⟨?_, fun c hc => ?_, fun c hc h0 => ?_⟩
  · dsimp only
    rw [List.map_append, List.nodup_append]
    refine ⟨h.nodup, List.nodup_singleton _, ?_⟩
    intro a ha b hb
    obtain ⟨c, hc, rfl⟩ := List.mem_map.mp ha
    rw [List.map_singleton, List.mem_singleton] at hb
    rw [hb]
    exact Nat.ne_of_lt (h.below c hc)
  · have hnext : s.heapAlloc.heapAlloc.heap.next = s.heap.next + 1 + 1 := rfl
    dsimp only
    rcases List.mem_append.mp hc with hc | hc
    · have := h.below c hc
      omega
    · rw [List.mem_singleton.mp hc]
      dsimp only
      omega
  · rcases List.mem_append.mp hc with hc | hc
    · exact h.targeted c hc h0
    · rw [List.mem_singleton.mp hc] at h0
      exact absurd rfl h0

end Targets

section

variable {s : RilData} {token : RilToken}

lemma transmit_taken (hs : Synced s) (hn : Numbered s) (hm : token ∈ s.tokens) {expect : Option ExpectKind}
    {command : IpcCommand} {type : IpcRequestType} {data : Bytes}
    (h : (transmit (.request token) expect command type data s).1 = true) :
    ∃ seq, (some token, seq) ∈ taken (transmit (.request token) expect command type data s).2.trace ∧
      .sent ⟨seq, command, type, data⟩ true ∈ (transmit (.request token) expect command type data s).2.trace := by
  have he : transmit (.request token) expect command type data s =
      expectSend expect (s.ipcFmtRequestSeq token).1 command type data (s.ipcFmtRequestSeq token).2 := rfl
  rw [he, RilData.expectSend_apply] at h ⊢
  split at h
  · cases h
  · rename_i hn'
    rw [if_neg hn']
    dsimp only at h ⊢
    have hd : s.fmt.data.isSome = true := by
      rw [RilData.clientAccepts, Bool.and_eq_true, Bool.and_eq_true, ipcFmtRequestSeq_isSome] at h
      exact h.1.1
    have htaken := request_seq_taken hs hn hm hd
    refine ⟨(s.ipcFmtRequestSeq token).1, ?_, ?_⟩
    · have hk : taken (((s.ipcFmtRequestSeq token).2.expected expect (s.ipcFmtRequestSeq token).1 command).log
          (.sent ⟨(s.ipcFmtRequestSeq token).1, command, type, data⟩
            ((s.ipcFmtRequestSeq token).2.clientAccepts ⟨(s.ipcFmtRequestSeq token).1, command, type, data⟩))).trace =
          taken (s.ipcFmtRequestSeq token).2.trace := by
        cases expect <;> rfl
      rw [hk]
      exact htaken
    · rw [h]
      exact List.mem_cons_self

lemma stop_removes (h : (s.dataConnections.map (·.record)).Nodup) (record : ℕ) :
    ∀ c ∈ (s.dataConnectionStop record).dataConnections, c.record ≠ record := by
  cases hf : s.dataConnectionFind record with
  | none =>
    have hf' : (s.heapUse record).dataConnectionFind record = none := hf
    simp only [RilData.dataConnectionStop, RilData.dataConnectionUnregister, hf']
    intro c hc he
    exact absurd (List.find?_eq_none.mp hf c hc) (by simp [he])
  | some c =>
    obtain ⟨hk, cs, cs', hs, he, hne⟩ := RilData.find_split hf
    rw [RilData.stop_eq hf]
    dsimp only
    rw [he]
    intro c' hc' hr
    rcases List.mem_append.mp hc' with hc' | hc'
    · exact hne c' hc' hr
    · rw [hs, List.map_append, List.map_cons] at h
      have hnot := (List.nodup_cons.mp (List.nodup_append.mp h).2.1).1
      exact hnot (hk ▸ hr ▸ List.mem_map_of_mem hc')

/-- The request of the token is registered and has the seq that was taken for it. -/
structure Registered (token : RilToken) (s : RilData) : Prop where
  synced : Synced s
  numbered : Numbered s
  mem : token ∈ s.tokens

lemma Registered.connections (h : Registered token s) {t : RilData} (hw : t.withoutConnections = s.withoutConnections) :
    Registered token t := by
  have hk := KeepsRequests.withoutConnections hw
  have ht : t.trace = s.trace := by rw [RilData.eq_of_withoutConnections hw]
  refine ⟨h.synced.keeps hk, h.numbered.step h.synced (withoutConnections_seq_step hw) ?_, ?_⟩
  · exact ht ▸ List.suffix_rfl
  · rw [RilData.tokens_eq, hk.entries, ← RilData.tokens_eq]
    exact h.mem

def Ready (token : RilToken) (s : RilData) : Prop := Targets s ∧ Registered token s

lemma ready_tracks {α : Type} {m : RilM α} (hm : Tracks m)
    (hw : ∀ s, (m s).2.withoutConnections = s.withoutConnections) : Triple (Ready token) m fun _ => Ready token := by
  intro s hs
  have ht : (m s).2.trace = s.trace := by rw [RilData.eq_of_withoutConnections (hw s)]
  exact ⟨hs.1.inherits (hm s) (ht ▸ List.suffix_rfl), hs.2.connections (hw s)⟩

lemma strdup_ready (value : CString) : Triple (Ready token) (strdup value) fun _ => Ready token :=
  ready_tracks (.strdup value) fun _ => rfl

lemma strdup_option_ready (value : Option CString) : Triple (Ready token) (strdupOption value) fun _ => Ready token := by
  cases value with
  | none => exact .pure fun _ h => h
  | some value => exact .bind (strdup_ready value) fun _ => .pure fun _ h => h

lemma free_ready (string : Option HeapString) : Triple (Ready token) (free string) fun _ => Ready token := by
  refine ready_tracks (.free string) fun s => ?_
  cases string <;> rfl

lemma start_ready (apn : HeapString) (username password : Option HeapString) :
    Triple (Ready token) (rilDataConnectionStart apn username password)
      fun r s => Ready token s ∧ ∀ c, r = some c → c ∈ s.dataConnections := by
  unfold rilDataConnectionStart
  refine .read fun s hs => ?_
  have hnone {P : RilData → Prop} (hP : ∀ t, P t → Ready token t) : Triple P
      (pure none : RilM (Option RilDataConnection)) fun r s => Ready token s ∧ ∀ c, r = some c → c ∈ s.dataConnections :=
    .pure fun t ht => ⟨hP t ht, fun c h => by cases h⟩
  have hstay : ∀ t, t = s → Ready token t := fun t ht => ht ▸ hs
  refine .ite (fun _ => hnone hstay) fun _ => ?_
  split
  · exact hnone hstay
  · split
    · exact hnone hstay
    · split
      · exact hnone hstay
      · rename_i cid _ _ _ _
        refine .bind ((strdup_ready _).weaken hstay) fun iface => .bind (Q := fun _ => Ready token) (.modify fun t ht => ?_)
          fun _ => .read fun u hu => ?_
        · exact ⟨ht.1.register cid apn iface username password, ht.2.connections rfl⟩
        · split
          · exact .bind ((free_ready _).weaken fun t (ht : t = u) => ht ▸ hu) fun _ => hnone fun _ h => h
          · rename_i c hc
            refine .pure fun t ht => ?_
            subst ht
            refine ⟨hu, fun c' he => ?_⟩
            obtain rfl := Option.some.inj he
            exact List.mem_of_find?_eq_some hc

lemma complete_targets (error : RilErrno) (response : RilResponse) :
    Triple Targets (completeRequest token error response) fun _ => Targets := by
  intro s hs
  exact hs.inherits (Tracks.complete token error response s)
    (Logged.requestComplete s token error response (P := fun _ => True) trivial).suffix

/-- The token of the request is given to the connection that its message is sent for; if it is not sent, the connection
is gone. -/
lemma retarget_targets {c : RilDataConnection} {expect : Option ExpectKind} {command : IpcCommand} {data : Bytes}
    (hn : ∀ seq, NamesConnection ⟨seq, command, .set, data⟩ c.cid) :
    Triple (fun s => Ready token s ∧ c ∈ s.dataConnections)
      (do
        modify (RilData.dataConnectionUpdate c.record fun c => { c with token := token })
        if ← transmit (.request token) expect command .set data then
          return .handled
        else
          rilDataConnectionStop c.record
          failRequest token)
      fun _ => Targets := by
  rintro s ⟨⟨ht, hr⟩, hc⟩
  simp only [bind_apply, modify_apply, ite_run]
  set u := s.dataConnectionUpdate c.record fun c => { c with token := token } with hu
  have hru : Registered token u := hr.connections rfl
  have hview := u.transmit_connView (.request token) expect command .set data
  have hgrow := (op_logged (.transmit (.request token) expect command .set data) u).suffix
  have hsuffix : s.trace <:+ (transmit (.request token) expect command .set data u).2.trace := hgrow
  have hrecords : (transmit (.request token) expect command .set data u).2.dataConnections.map (·.record) =
      s.dataConnections.map (·.record) := by
    have hv : (transmit (.request token) expect command .set data u).2.dataConnections = u.dataConnections :=
      congrArg Prod.fst hview
    rw [hv, hu, RilData.dataConnectionUpdate]
    dsimp only
    rw [List.map_map]
    refine List.map_congr_left fun c' _ => ?_
    rw [Function.comp_apply]
    split <;> rfl
  have hcases : ∀ c' ∈ (transmit (.request token) expect command .set data u).2.dataConnections,
      c'.record = c.record ∧ c'.token = token ∧ c'.cid = c.cid ∨ c'.record ≠ c.record ∧ c' ∈ s.dataConnections := by
    have hv : (transmit (.request token) expect command .set data u).2.dataConnections = u.dataConnections :=
      congrArg Prod.fst hview
    rw [hv]
    intro c' hc'
    obtain ⟨c₀, hc₀, rfl⟩ := List.mem_map.mp hc'
    by_cases he : c₀.record = c.record
    · obtain rfl := ht.record_inj hc₀ hc he
      rw [if_pos (beq_self_eq_true _)]
      exact .inl ⟨rfl, rfl, rfl⟩
    · rw [if_neg (by simpa using he)]
      exact .inr ⟨he, hc₀⟩
  have hbelow : ∀ c' ∈ (transmit (.request token) expect command .set data u).2.dataConnections,
      c'.record < (transmit (.request token) expect command .set data u).2.heap.next := by
    have hheap : (transmit (.request token) expect command .set data u).2.heap = s.heap := congrArg Prod.snd hview
    intro c' hc'
    rw [hheap]
    rcases hcases c' hc' with ⟨he, -⟩ | ⟨-, hmem⟩
    · rw [he]
      exact ht.below c hc
    · exact ht.below c' hmem
  split
  · rename_i hok
    obtain ⟨seq, htaken, hsent⟩ := transmit_taken hru.synced hru.numbered hru.mem hok
    refine ⟨by rw [pure_apply, hrecords]; exact ht.nodup, hbelow, fun c' hc' h0 => ?_⟩
    rcases hcases c' hc' with ⟨-, htoken, hcid⟩ | ⟨-, hmem⟩
    · rw [htoken, hcid]
      exact ⟨seq, htaken, _, rfl, hsent, hn seq⟩
    · obtain ⟨seq', h'⟩ := ht.targeted c' hmem h0
      exact ⟨seq', h'.mono hsuffix⟩
  · have hnodup : ((transmit (.request token) expect command .set data u).2.dataConnections.map (·.record)).Nodup := by
      rw [hrecords]
      exact ht.nodup
    have hremoved := stop_removes hnodup c.record
    have hi := stop_inherits (transmit (.request token) expect command .set data u).2 c.record
    have hstop : (transmit (.request token) expect command .set data u).2.trace =
        ((transmit (.request token) expect command .set data u).2.dataConnectionStop c.record).trace :=
      (congrArg RilData.trace (withoutConnections_stop c.record _)).symm
    refine complete_targets _ _ _ ⟨hnodup.sublist hi.records, fun c' hc' => ?_, fun c' hc' h0 => ?_⟩
    · obtain ⟨c₁, hc₁, he, -, -⟩ := hi.tokens c' hc'
      rw [he]
      exact Nat.lt_of_lt_of_le (hbelow c₁ hc₁) hi.next
    · obtain ⟨c₁, hc₁, he, hcid, htoken | h0'⟩ := hi.tokens c' hc'
      · rcases hcases c₁ hc₁ with ⟨he', -⟩ | ⟨-, hmem⟩
        · exact absurd (he.trans he') (hremoved c' hc')
        · rw [htoken] at h0 ⊢
          rw [hcid]
          obtain ⟨seq, h⟩ := ht.targeted c₁ hmem h0
          exact ⟨seq, h.mono (hstop ▸ hsuffix)⟩
      · exact absurd h0' h0

lemma setup_data_call_targets (apn : CString) (username password : Option CString) :
    Triple (Ready token) (setupDataCall apn username password token) fun _ => Targets := by
  refine .bind (strdup_ready apn) fun apn => .bind (strdup_option_ready username) fun username =>
    .bind (strdup_option_ready password) fun password => .bind (start_ready apn username password) fun r => ?_
  split
  · refine Triple.weaken (P := Ready token) ?_ fun s hs => hs.1
    exact .bind (free_ready _) fun _ => .bind (free_ready _) fun _ => .bind (free_ready _) fun _ =>
      (complete_targets _ _).weaken fun s hs => hs.1
  · rename_i c
    refine (retarget_targets fun seq => .inl ⟨rfl, _, rfl⟩).weaken fun s hs => ⟨hs.1, hs.2 c rfl⟩

lemma request_setup_data_call_targets (data : RilValue) :
    Triple (Ready token) (rilRequestSetupDataCall data token) fun _ => Targets := by
  have hfail (error : RilErrno) : Triple (Ready token) (completeRequest token error .null) fun _ => Targets :=
    (complete_targets _ _).weaken fun s hs => hs.1
  unfold rilRequestSetupDataCall
  split
  · refine .read fun s hs => Triple.weaken (P := Ready token) ?_ fun t (ht : t = s) => ht ▸ hs
    refine .ite (fun _ => .read fun t ht => Triple.weaken (P := Ready token) ?_ fun u (hu : u = t) => hu ▸ ht)
      fun _ => hfail _
    refine .ite (fun _ => .pure fun _ h => h.1) fun _ => ?_
    split
    · exact hfail _
    · exact setup_data_call_targets _ _ _
  · exact hfail _

lemma request_deactivate_data_call_targets (data : RilValue) :
    Triple (Ready token) (rilRequestDeactivateDataCall data token) fun _ => Targets := by
  have hfail : Triple (Ready token) (failRequest token) fun _ => Targets :=
    (complete_targets _ _).weaken fun s hs => hs.1
  unfold rilRequestDeactivateDataCall
  split
  · refine .read fun s hs => Triple.weaken (P := Ready token) ?_ fun t (ht : t = s) => ht ▸ hs
    refine .ite (fun _ => .read fun t ht => Triple.weaken (P := Ready token) ?_ fun u (hu : u = t) => hu ▸ ht)
      fun _ => .pure fun _ h => h.1
    refine .ite (fun _ => .pure fun _ h => h.1) fun _ => ?_
    split
    · exact hfail
    · refine .read fun u hu => ?_
      split
      · exact hfail.weaken fun t (ht : t = u) => ht ▸ hu
      · rename_i c hc
        refine (retarget_targets fun seq => .inr ⟨rfl, rfl⟩).weaken fun t (ht : t = u) => ?_
        exact ht ▸ ⟨hu, List.mem_of_find?_eq_some hc⟩
  · exact hfail

end

lemma dispatch_trace {s : RilData} {r : RilRequest} {handler : RilValue → RilToken → RilM RilRequestStatus}
    (h : rilRequestHandler r.request = some handler) (env : Env) :
    (dispatchRequest env r s).trace = (handler r.data r.token (s.started env (.dispatched r.token))).2.trace := by
  have hstart : ({ s with env := env } : RilData).log (.dispatched r.token) = s.started env (.dispatched r.token) := rfl
  have hd : (rilRequestDispatch r (s.started env (.dispatched r.token))).2.trace =
      (handler r.data r.token (s.started env (.dispatched r.token))).2.trace := by
    simp only [rilRequestDispatch, h, bind_apply]
    rcases handler r.data r.token (s.started env (.dispatched r.token)) with ⟨status, t⟩
    cases status <;> rfl
  rw [dispatchRequest, hstart]
  split
  · exact (unregister_trace _ _).trans hd
  · exact hd

lemma Targets.of_view {s t : RilData} (h : Targets s) (hv : t.connView = s.connView) (ht : s.trace <:+ t.trace) :
    Targets t := h.inherits (.of_eq (congrArg Prod.fst hv) (congrArg Prod.snd hv)) ht

lemma dispatch_targets {s : RilData} (h : Targets s) (hs : Synced s) (hn : Numbered s) (env : Env) {r : RilRequest}
    (hr : r ∈ s.requests) (hF : r.request.footprint.connections = true) : Targets (dispatchRequest env r s) := by
  have hstart : Ready r.token (s.started env (.dispatched r.token)) := by
    refine ⟨h.of_view rfl (List.suffix_cons _ _), hs.keeps (started_keeps s env rfl), ?_, List.mem_map_of_mem hr⟩
    exact hn.step hs (.of_eq rfl rfl) (List.suffix_cons _ _)
  rcases connection_requests hF with h' | h'
  · have hh : rilRequestHandler r.request = some rilRequestSetupDataCall := by
      rw [h']
      rfl
    exact Targets.of_view (request_setup_data_call_targets r.data _ hstart) (dispatch_connView hh env)
      (dispatch_trace hh env ▸ List.suffix_rfl)
  · have hh : rilRequestHandler r.request = some rilRequestDeactivateDataCall := by
      rw [h']
      rfl
    exact Targets.of_view (request_deactivate_data_call_targets r.data _ hstart) (dispatch_connView hh env)
      (dispatch_trace hh env ▸ List.suffix_rfl)

lemma reachable_targets {d : Daemon} (h : Reachable d) : Targets d.data := by
  induction h with
  | refl => exact .init
  | @tail d d' a hd _ hstep ht =>
    by_cases hF : ∃ env r, a = .loopDispatch env ∧ d.data.requestFindStatus .pending = some r ∧
        r.request.footprint.connections = true
    · obtain ⟨env, r, rfl, hr, hF⟩ := hF
      obtain ⟨-, r', hr', rfl⟩ := step_loop_dispatch.mp hstep
      obtain rfl := Option.some.inj (hr.symm.trans hr')
      exact dispatch_targets ht (reachable_synced hd) (reachable_numbered hd) env (List.mem_of_find?_eq_some hr) hF
    · refine ht.inherits (step_inherits hstep fun env r ha hr => ?_) (step_logged hstep).suffix
      exact Bool.eq_false_iff.mpr fun hc => hF ⟨env, r, ha, hr, hc⟩

/-! ### The callbacks -/

/-- The connection was started or targeted by the registered request that has sent its message under the seq. -/
def OwnConnection (s : RilData) (aseq : UInt8) (c : RilDataConnection) : Prop :=
  (∃ r ∈ s.fmtRequests, r.seq = aseq) ∧
    ∀ r ∈ s.fmtRequests, r.seq = aseq → c.token = r.token ∧ TargetedBy s.trace r.token aseq c.cid

def configureMessage (aseq : UInt8) (c : RilDataConnection) : IpcRequest :=
  ⟨aseq, .gprsPdpContext, .set, ipcGprsPdpContextRequestSetSetup 1 (UInt8.ofNat c.cid) (c.username.map (·.value))
    (c.password.map (·.value))⟩

/-- What is sent configures an own connection, and a connection that is stopped or changed is an own one. -/
structure ActsOnOwn (aseq : UInt8) (s t : RilData) : Prop where
  sent : Extends (fun e => ∀ m ok, e = .sent m ok →
    ∃ c ∈ s.dataConnections, OwnConnection s aseq c ∧ m = configureMessage aseq c) s.trace t.trace
  kept : ∀ c ∈ s.dataConnections, c ∉ t.dataConnections → OwnConnection s aseq c

namespace ActsOnOwn

variable {aseq : UInt8} {s t u : RilData} {c : RilDataConnection}

lemma refl (aseq : UInt8) (s : RilData) : ActsOnOwn aseq s s :=
  ⟨.refl _, fun _ hc hn => absurd hc hn⟩

lemma andThen (h : ActsOnOwn aseq s t) (ht : Extends (fun e => ∀ m ok, e ≠ .sent m ok) t.trace u.trace)
    (hc : ∀ c ∈ t.dataConnections, c ∉ u.dataConnections → OwnConnection s aseq c) : ActsOnOwn aseq s u := by
  refine ⟨h.sent.trans (ht.mono fun e he m ok hs => absurd hs (he m ok)), fun c hm hn => ?_⟩
  by_cases hmt : c ∈ t.dataConnections
  · exact hc c hmt hn
  · exact h.kept c hm hmt

lemma completeReply (h : ActsOnOwn aseq s t) (message : IpcMessage) (error : RilErrno) (response : RilResponse) :
    ActsOnOwn aseq s (completeReply message error response t).2 := by
  have hv : (t.requestComplete (t.ipcFmtRequestToken message.aseq) error response).dataConnections = t.dataConnections :=
    congrArg Prod.fst (t.requestComplete_connView _ error response)
  refine h.andThen (Logged.requestComplete t _ error response fun m ok hm => by cases hm) fun c hc hn => ?_
  have hc' : c ∈ (t.requestComplete (t.ipcFmtRequestToken message.aseq) error response).dataConnections := by
    rw [hv]
    exact hc
  exact absurd hc' hn

lemma stop (h : ActsOnOwn aseq s t) (hn : (t.dataConnections.map (·.record)).Nodup) (hm : c ∈ t.dataConnections)
    (ho : OwnConnection s aseq c) : ActsOnOwn aseq s (t.dataConnectionStop c.record) := by
  have htrace := congrArg RilData.trace (withoutConnections_stop c.record t)
  refine h.andThen (.of_eq htrace) fun c' hc' hgone => ?_
  have hr : c'.record = c.record := by
    by_contra hne
    cases hf : t.dataConnectionFind c.record with
    | none => exact absurd (List.find?_eq_none.mp hf c hm) (by simp)
    | some c₀ =>
      obtain ⟨hk, cs, cs', hs, he, -⟩ := RilData.find_split hf
      rw [RilData.stop_eq hf] at hgone
      dsimp only at hgone
      rw [he] at hgone
      rw [hs] at hc'
      rcases List.mem_append.mp hc' with hc' | hc'
      · exact hgone (List.mem_append_left _ hc')
      · rcases List.mem_cons.mp hc' with rfl | hc'
        · exact hne hk
        · exact hgone (List.mem_append_right _ hc')
  obtain rfl : c' = c := List.inj_on_of_nodup_map hn hc' hm hr
  exact ho

lemma completeStopped (h : ActsOnOwn aseq s t) (hn : (t.dataConnections.map (·.record)).Nodup) (hm : c ∈ t.dataConnections)
    (ho : OwnConnection s aseq c) (message : IpcMessage) : ActsOnOwn aseq s (completeStopped message c t).2 :=
  (h.stop hn hm ho).completeReply message _ _

end ActsOnOwn

section

variable {s : RilData} {message : IpcMessage}

lemma define_pdp_context_callback_acts (hn : (s.dataConnections.map (·.record)).Nodup)
    (ho : ∀ c, s.dataConnectionFindToken (s.ipcFmtRequestToken message.aseq) = some c → OwnConnection s message.aseq c) :
    ActsOnOwn message.aseq s (ipcGprsDefinePdpContextCallback message s).2 := by
  unfold ipcGprsDefinePdpContextCallback
  cases IpcGenPhoneResData.read message.data with
  | none => exact .refl _ _
  | some data =>
    simp only [get_bind_apply]
    cases hf : s.dataConnectionFindToken (s.ipcFmtRequestToken message.aseq) with
    | none => exact (ActsOnOwn.refl _ _).completeReply _ _ _
    | some c =>
      have hm := List.mem_of_find?_eq_some hf
      by_cases hcheck : ipcGenPhoneResCheck data = true
      · simp only [if_pos hcheck, bind_apply, ite_run]
        have hv : (transmit (.reply message.aseq) (some (.callback .ipcGprsPdpContext)) .gprsPdpContext .set
            (configureMessage message.aseq c).data s).2.dataConnections = s.dataConnections :=
          congrArg Prod.fst (s.transmit_connView _ _ _ _ _)
        have hsent : ActsOnOwn message.aseq s (transmit (.reply message.aseq) (some (.callback .ipcGprsPdpContext))
            .gprsPdpContext .set (configureMessage message.aseq c).data s).2 := by
          have hlogged := Logged.expectSend s (some (.callback .ipcGprsPdpContext)) message.aseq .gprsPdpContext .set
            (configureMessage message.aseq c).data (P := fun e => ∀ m ok, e = .sent m ok →
              ∃ c ∈ s.dataConnections, OwnConnection s message.aseq c ∧ m = configureMessage message.aseq c)
            fun m ok he => ⟨c, hm, ho c hf, (Event.sent.inj he).1.symm⟩
          refine ⟨hlogged, fun c' hc' hgone => ?_⟩
          rw [hv] at hgone
          exact absurd hc' hgone
        split
        · refine hsent.completeStopped ?_ ?_ (ho c hf) message
          · rw [hv]
            exact hn
          · rw [hv]
            exact hm
        · exact hsent
      · simp only [if_neg hcheck]
        exact (ActsOnOwn.refl _ _).completeStopped hn hm (ho c hf) message

lemma pdp_context_callback_acts (hn : (s.dataConnections.map (·.record)).Nodup)
    (ho : ∀ c, s.dataConnectionFindToken (s.ipcFmtRequestToken message.aseq) = some c → OwnConnection s message.aseq c) :
    ActsOnOwn message.aseq s (ipcGprsPdpContextCallback message s).2 := by
  unfold ipcGprsPdpContextCallback
  cases IpcGenPhoneResData.read message.data with
  | none => exact .refl _ _
  | some data =>
    simp only [get_bind_apply]
    cases hf : s.dataConnectionFindToken (s.ipcFmtRequestToken message.aseq) with
    | none => exact (ActsOnOwn.refl _ _).completeReply _ _ _
    | some c =>
      simp only [bind_apply, ite_run]
      split
      · exact (ActsOnOwn.refl _ _).completeStopped hn (List.mem_of_find?_eq_some hf) (ho c hf) message
      · exact .refl _ _

lemma pdp_context_callback_stops (hn : (s.dataConnections.map (·.record)).Nodup) {c : RilDataConnection}
    (hf : s.dataConnectionFindToken (s.ipcFmtRequestToken message.aseq) = some c) {data : IpcGenPhoneResData}
    (hd : IpcGenPhoneResData.read message.data = some data) (hcheck : ipcGenPhoneResCheck data = false) :
    c ∉ (ipcGprsPdpContextCallback message s).2.dataConnections := by
  unfold ipcGprsPdpContextCallback
  simp only [hd, get_bind_apply]
  simp only [hf, hcheck, Bool.not_false, if_true, bind_apply]
  have hv : (completeReply message .genericFailure .null (s.dataConnectionStop c.record)).2.dataConnections =
      (s.dataConnectionStop c.record).dataConnections :=
    congrArg Prod.fst ((s.dataConnectionStop c.record).requestComplete_connView _ _ _)
  intro hm
  have hm' : c ∈ (s.dataConnectionStop c.record).dataConnections := by
    rw [← hv]
    exact hm
  exact stop_removes hn c.record c hm' rfl

end

section

variable {s : RilData}

lemma one_request_own (ht : Targets s) (hs : Synced s) (hn : Numbered s) {aseq : UInt8} {r : IpcFmtRequest}
    (hr : r ∈ s.fmtRequests) (hseq : r.seq = aseq) (hone : ∀ r' ∈ s.fmtRequests, r'.seq = aseq → r' = r)
    {c : RilDataConnection} (hc : s.dataConnectionFindToken (s.ipcFmtRequestToken aseq) = some c) :
    OwnConnection s aseq c := by
  have htoken : s.ipcFmtRequestToken aseq = r.token := by
    cases hf : s.fmtRequestFindSeq aseq with
    | none => exact absurd (List.find?_eq_none.mp hf r hr) (by simp [hseq])
    | some r' =>
      obtain ⟨hr', hs'⟩ := find_seq_mem hf
      rw [RilData.ipcFmtRequestToken, hf, hone r' hr' hs']
  rw [htoken] at hc
  have hk : c.token = r.token := by simpa using List.find?_some hc
  have h0 : c.token ≠ 0 := hk ▸ hs.fmt_token_ne_zero hr
  obtain ⟨seq, hby⟩ := ht.targeted c (List.mem_of_find?_eq_some hc) h0
  rw [hk] at hby
  have he : seq = aseq := by
    obtain ⟨q, hq⟩ := RilData.seqState_of_mem hr
    rcases hn.requests _ q hq r hr with ⟨-, hnot⟩ | ha
    · exact absurd hby.1 (hnot seq)
    · rw [← hseq]
      exact ha.once seq hby.1
  refine ⟨⟨r, hr, hseq⟩, fun r' hr' hseq' => ?_⟩
  rw [hone r' hr' hseq', ← he]
  exact ⟨hk, hby⟩

end

/-- The callbacks of the answers with a seq act on own connections only, if and only if exactly one registered request
has the seq, or no connection has the token that the seq stands for. -/
theorem replies_act_on_own {d : Daemon} (h : Reachable d) (aseq : UInt8) :
    (∀ env message, message.aseq = aseq →
      ActsOnOwn aseq (d.data.started env (.received message))
          (ipcGprsDefinePdpContextCallback message (d.data.started env (.received message))).2 ∧
        ActsOnOwn aseq (d.data.started env (.received message))
          (ipcGprsPdpContextCallback message (d.data.started env (.received message))).2) ↔
    (∃ r ∈ d.data.fmtRequests, r.seq = aseq ∧ ∀ r' ∈ d.data.fmtRequests, r'.seq = aseq → r' = r) ∨
      d.data.dataConnectionFindToken (d.data.ipcFmtRequestToken aseq) = none := by
  have ht := reachable_targets h
  have hs := reachable_synced h
  constructor
  · intro hacts
    cases hf : d.data.dataConnectionFindToken (d.data.ipcFmtRequestToken aseq) with
    | none => exact .inr rfl
    | some c =>
      have hstop : c ∉ (ipcGprsPdpContextCallback ⟨aseq, .genPhoneRes, .resp, [0, 0, 0, 0, 0]⟩
          (d.data.started {} (.received ⟨aseq, .genPhoneRes, .resp, [0, 0, 0, 0, 0]⟩))).2.dataConnections :=
        @pdp_context_callback_stops (d.data.started {} (.received ⟨aseq, .genPhoneRes, .resp, [0, 0, 0, 0, 0]⟩))
          ⟨aseq, .genPhoneRes, .resp, [0, 0, 0, 0, 0]⟩ ht.nodup c hf ⟨0, 0, 0, 0⟩ rfl rfl
      obtain ⟨⟨r, hr, hseq⟩, hall⟩ := (hacts {} ⟨aseq, .genPhoneRes, .resp, [0, 0, 0, 0, 0]⟩ rfl).2.kept c
        (List.mem_of_find?_eq_some hf) hstop
      refine .inl ⟨r, hr, hseq, fun r' hr' hseq' => hs.fmt_token_inj hr' hr ?_⟩
      exact (hall r' hr' hseq').1.symm.trans (hall r hr hseq).1
  · rintro hcond env message rfl
    have hown : ∀ c, (d.data.started env (.received message)).dataConnectionFindToken
        ((d.data.started env (.received message)).ipcFmtRequestToken message.aseq) = some c →
          OwnConnection (d.data.started env (.received message)) message.aseq c := by
      intro c hc
      rcases hcond with ⟨r, hr, hseq, hone⟩ | hnone
      · obtain ⟨hex, hall⟩ := one_request_own ht hs (reachable_numbered h) hr hseq hone hc
        exact ⟨hex, fun r' hr' hseq' => ⟨(hall r' hr' hseq').1, (hall r' hr' hseq').2.mono (List.suffix_cons _ _)⟩⟩
      · exact absurd (hc.symm.trans hnone) (by simp)
    exact ⟨define_pdp_context_callback_acts ht.nodup hown, pdp_context_callback_acts ht.nodup hown⟩

/-- A connection is started for the request 1, whose seq is 1. -/
theorem replies_act_on_own_started :
    ActsOnOwn 1 ((runFrom {} (simReadyRun ++ setupDataCallRun 1)).data.started {}
        (.received ⟨1, .genPhoneRes, .resp, [0x0d, 0x01, 0x03, 0x00, 0x80]⟩))
      (ipcGprsDefinePdpContextCallback ⟨1, .genPhoneRes, .resp, [0x0d, 0x01, 0x03, 0x00, 0x80]⟩
        ((runFrom {} (simReadyRun ++ setupDataCallRun 1)).data.started {}
          (.received ⟨1, .genPhoneRes, .resp, [0x0d, 0x01, 0x03, 0x00, 0x80]⟩))).2 :=
  ((replies_act_on_own (reachable_runFrom (by decide)) 1).mpr
    (.inl ⟨⟨.setupDataCall, 1, 1⟩, by decide, rfl, by decide⟩) {} _ rfl).1

/-- The first connection is established, and the second request is cancelled before its answer. -/
def cancelledSetupRun : List Action :=
  simReadyRun ++ setupDataCallRun 1 ++ enabledRun ++ setupDataCallRun 2 ++ [.cancel 2]

/-- The answer of failure to the second request stops the first connection. -/
theorem replies_act_on_own_fails : ∃ d, Reachable d ∧ d = runFrom {} cancelledSetupRun ∧
    (∀ r ∈ d.data.fmtRequests, r.seq ≠ 2) ∧
    d.data.dataConnections.map (fun c => (c.cid, c.token, c.enabled)) = [(1, 0, true), (2, 2, false)] ∧
    (dispatchMessage {} ⟨2, .genPhoneRes, .resp, [0x0d, 0x01, 0x03, 0x00, 0x00]⟩ d.data).2.dataConnections.map
      (fun c => (c.cid, c.token, c.enabled)) = [(2, 2, false)] := by
  refine ⟨_, reachable_runFrom (by decide), rfl, ?_⟩
  decide

end Ril.Samsung
