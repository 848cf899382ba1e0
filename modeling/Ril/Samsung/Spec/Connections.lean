import Ril.Lib.StateProgram
import Ril.Samsung.Spec.Events
import Ril.Samsung.Spec.Views

/-! The blocks that the data connections own, and what the steps of the daemon do to the connections. -/

namespace Ril.Samsung

open Ril.Ipc Ril.Lib

def blocksOf (string : Option HeapString) : List ℕ := string.toList.map (·.block)

namespace RilDataConnection

def strings (c : RilDataConnection) : List (Option HeapString) :=
  [c.apn, c.username, c.password, c.iface, c.ip, c.gateway, c.subnetMask, c.dns1, c.dns2]

/-- The blocks of a connection, in the order of their release. -/
def blocks (c : RilDataConnection) : List ℕ :=
  c.strings.flatMap blocksOf ++ [c.record, c.node]

end RilDataConnection

def ownedBlocks (cs : List RilDataConnection) : List ℕ := cs.flatMap RilDataConnection.blocks

/-- The heap holds these blocks, and these connections are registered. -/
structure Holds (bs : List ℕ) (cs : List RilDataConnection) (s : RilData) : Prop where
  heap : s.heap.Owns bs
  connections : s.dataConnections = cs

/-- Exactly the blocks of the registered connections are allocated. -/
def Sound (s : RilData) : Prop := s.heap.Owns (ownedBlocks s.dataConnections)

lemma Sound.holds {s : RilData} (h : Sound s) : Holds (ownedBlocks s.dataConnections) s.dataConnections s := ⟨h, rfl⟩

lemma Holds.sound {s : RilData} {cs : List RilDataConnection} (h : Holds (ownedBlocks cs) cs s) : Sound s := by
  rw [Sound, h.connections]
  exact h.heap

lemma Holds.perm {s : RilData} {bs bs' : List ℕ} {cs : List RilDataConnection} (h : Holds bs cs s) (hp : bs.Perm bs') :
    Holds bs' cs s := ⟨h.heap.perm hp, h.connections⟩

namespace RilData

variable {s : RilData} {c : RilDataConnection} {record : ℕ}

lemma freeString_eq (s : RilData) (string : Option HeapString) :
    s.freeString string = { s with heap := s.heap.freeAll (blocksOf string) } := by
  cases string <;> rfl

lemma stop_eq (h : s.dataConnectionFind record = some c) : s.dataConnectionStop record =
    { s with
      dataConnections := s.dataConnections.eraseP (·.record == record)
      heap := (s.heap.use record).freeAll c.blocks } := by
  have hf (heap : Heap) : ({ s with heap := heap } : RilData).dataConnectionFind record = some c := h
  simp only [dataConnectionStop, heapUse, hf, freeString_eq, dataConnectionUnregister, heapFree]
  simp only [RilDataConnection.blocks, RilDataConnection.strings, List.flatMap_cons, List.flatMap_nil, Heap.freeAll_append]
  rfl

lemma find_split (h : s.dataConnectionFind record = some c) : c.record = record ∧
    ∃ cs cs', s.dataConnections = cs ++ c :: cs' ∧ s.dataConnections.eraseP (·.record == record) = cs ++ cs' ∧
      ∀ c' ∈ cs, c'.record ≠ record := by
  obtain ⟨hc, cs, cs', hs, hn⟩ := List.find?_eq_some_iff_append.mp h
  have hk : c.record = record := by simpa using hc
  have hn : ∀ c' ∈ cs, c'.record ≠ record := fun c' hc' => by simpa using hn c' hc'
  refine ⟨hk, cs, cs', hs, ?_, hn⟩
  rw [hs, List.eraseP_append_right _ (fun c' hc' => by simpa using hn c' hc'), List.eraseP_cons_of_pos (by simp [hk])]

end RilData

lemma record_mem_blocks (c : RilDataConnection) : c.record ∈ c.blocks := by simp [RilDataConnection.blocks]

lemma owned_split (cs cs' : List RilDataConnection) (c : RilDataConnection) :
    (ownedBlocks (cs ++ c :: cs')).Perm (c.blocks ++ ownedBlocks (cs ++ cs')) := by
  simp only [ownedBlocks, List.flatMap_append, List.flatMap_cons]
  rw [← List.append_assoc, ← List.append_assoc]
  exact List.perm_append_comm.append_right _

lemma records_nodup {cs : List RilDataConnection} (h : (ownedBlocks cs).Nodup) : (cs.map (·.record)).Nodup := by
  induction cs with
  | nil => exact List.nodup_nil
  | cons c cs ih =>
    simp only [ownedBlocks, List.flatMap_cons] at h
    obtain ⟨-, h₂, hd⟩ := List.nodup_append.mp h
    refine List.nodup_cons.mpr ⟨fun hm => ?_, ih h₂⟩
    obtain ⟨c', hc', he⟩ := List.mem_map.mp hm
    exact hd _ (record_mem_blocks c) _ (List.mem_flatMap.mpr ⟨c', hc', record_mem_blocks c'⟩) he.symm

section

variable {s : RilData} {c : RilDataConnection} {record : ℕ}

lemma Sound.stop (h : Sound s) (hf : s.dataConnectionFind record = some c) : Sound (s.dataConnectionStop record) := by
  obtain ⟨hk, cs, cs', hs, he, -⟩ := RilData.find_split hf
  rw [Sound, hs] at h
  have ho := h.perm (owned_split cs cs' c)
  rw [RilData.stop_eq hf, Sound, he, ho.use (List.mem_append_left _ (hk ▸ record_mem_blocks c))]
  exact ho.freeAll

lemma Sound.update (h : Sound s) {f : RilDataConnection → RilDataConnection} (hf : ∀ c, (f c).blocks = c.blocks) :
    Sound (s.dataConnectionUpdate record f) := by
  have he : ownedBlocks (s.dataConnectionUpdate record f).dataConnections = ownedBlocks s.dataConnections := by
    simp only [ownedBlocks, RilData.dataConnectionUpdate, List.flatMap_map]
    congr 1
    funext c
    split
    · exact hf c
    · rfl
  rw [Sound, he]
  exact h

lemma Holds.update {bs : List ℕ} {cs cs' : List RilDataConnection} (h : Holds bs (cs ++ c :: cs') s)
    {f : RilDataConnection → RilDataConnection} (hk : ∀ c' ∈ cs ++ cs', c'.record ≠ c.record)
    (hb : bs.Perm ((f c).blocks ++ ownedBlocks (cs ++ cs'))) : Sound (s.dataConnectionUpdate c.record f) := by
  have hsame {l : List RilDataConnection} (hl : ∀ c' ∈ l, c'.record ≠ c.record) :
      l.map (fun c' => if c'.record == c.record then f c' else c') = l := by
    refine (List.map_congr_left fun c' hc' => ?_).trans (List.map_id l)
    rw [if_neg (by simpa using hl c' hc')]
    rfl
  have he : (s.dataConnectionUpdate c.record f).dataConnections = cs ++ f c :: cs' := by
    rw [RilData.dataConnectionUpdate]
    simp only [h.connections, List.map_append, List.map_cons]
    rw [hsame fun c' hc' => hk c' (List.mem_append_left _ hc'), hsame fun c' hc' => hk c' (List.mem_append_right _ hc'),
      if_pos (beq_self_eq_true _)]
  rw [Sound, he]
  exact (h.heap.perm hb).perm (owned_split cs cs' (f c)).symm

lemma Holds.register {cs : List RilDataConnection} {apn iface : HeapString} {username password : Option HeapString}
    (h : Holds (iface.block :: (blocksOf password ++ (blocksOf username ++ apn.block :: ownedBlocks cs))) cs s) (cid : ℕ) :
    Sound (s.dataConnectionRegister cid apn username password iface) := by
  have ho := h.heap.alloc.alloc
  rw [Sound]
  refine ho.perm (List.perm_iff_count.mpr fun b => ?_)
  simp only [RilData.dataConnectionRegister, h.connections, ownedBlocks, List.flatMap_append,
    RilDataConnection.blocks, RilDataConnection.strings, List.flatMap_cons, List.flatMap_nil, blocksOf,
    Option.toList_some, Option.toList_none, List.map_cons, List.map_nil, List.count_append, List.count_cons,
    List.count_nil, Heap.alloc]
  omega

end

/-! ### The steps of the daemon -/

/-- The connections are some of those that were there, under the same cid and with the same token or none. -/
structure Inherits (s t : RilData) : Prop where
  records : (t.dataConnections.map (·.record)).Sublist (s.dataConnections.map (·.record))
  next : s.heap.next ≤ t.heap.next
  tokens : ∀ c' ∈ t.dataConnections, ∃ c ∈ s.dataConnections, c'.record = c.record ∧ c'.cid = c.cid ∧
    (c'.token = c.token ∨ c'.token = 0)

namespace Inherits

variable {s t u : RilData}

lemma of_sublist (h : t.dataConnections.Sublist s.dataConnections) (hn : s.heap.next ≤ t.heap.next) :
    Inherits s t :=
  ⟨h.map _, hn, fun c hc => ⟨c, h.subset hc, rfl, rfl, .inl rfl⟩⟩

lemma of_eq (hc : t.dataConnections = s.dataConnections) (hh : t.heap = s.heap) : Inherits s t :=
  of_sublist (hc ▸ .refl _) (hh ▸ Nat.le_refl _)

lemma refl (s : RilData) : Inherits s s := of_eq rfl rfl

lemma trans (h : Inherits s t) (h' : Inherits t u) : Inherits s u := by
  refine ⟨h'.records.trans h.records, Nat.le_trans h.next h'.next, fun c hc => ?_⟩
  obtain ⟨c', hc', hr', hi', ht'⟩ := h'.tokens c hc
  obtain ⟨c'', hc'', hr, hi, ht⟩ := h.tokens c' hc'
  refine ⟨c'', hc'', hr'.trans hr, hi'.trans hi, ?_⟩
  rcases ht' with ht' | ht'
  · rw [ht']
    exact ht
  · exact .inr ht'

lemma nil (h : Inherits s t) (hs : s.dataConnections = []) : t.dataConnections = [] := by
  have hr := h.records
  rw [hs, List.map_nil, List.sublist_nil] at hr
  exact List.map_eq_nil_iff.mp hr

end Inherits

lemma stop_inherits (s : RilData) (record : ℕ) : Inherits s (s.dataConnectionStop record) := by
  cases hf : s.dataConnectionFind record with
  | none =>
    have hf' : (s.heapUse record).dataConnectionFind record = none := hf
    simp only [RilData.dataConnectionStop, RilData.dataConnectionUnregister, hf']
    exact .of_sublist (.refl _) (Nat.le_of_eq (Heap.use_next record s.heap).symm)
  | some c =>
    rw [RilData.stop_eq hf]
    refine .of_sublist List.eraseP_sublist ?_
    simp only [Heap.freeAll_next, Heap.use_next]
    exact Nat.le_refl _

lemma flush_from_inherits (cs : List RilDataConnection) (s : RilData) :
    Inherits s (RilData.dataConnectionFlushFrom cs s) := by
  induction cs generalizing s with
  | nil => exact .refl s
  | cons c rest ih =>
    have h₁ := stop_inherits s c.record
    have h₂ : Inherits (s.dataConnectionStop c.record)
        ((((s.dataConnectionStop c.record).heapUse c.record).heapFree c.record).heapUse c.node) := by
      refine .of_sublist (.refl _) ?_
      simp only [RilData.heapUse, RilData.heapFree, Heap.use_next, Heap.free_next]
      exact Nat.le_refl _
    simp only [RilData.dataConnectionFlushFrom]
    split
    · refine ((h₁.trans h₂).trans (.of_sublist ?_ ?_)).trans (ih _)
      · exact List.filter_sublist
      · exact Nat.le_of_eq (Heap.free_next _ _).symm
    · refine (h₁.trans h₂).trans (.of_sublist (.refl _) ?_)
      exact Nat.le_of_eq (Heap.free_next _ _).symm

/-- The part of a change of the radio state before the connections are flushed. -/
lemma radio_cases (s : RilData) (radioState : RilRadioState) :
    s.radioStateUpdate radioState = s ∧ s.radioState = radioState ∨
    s.radioState ≠ radioState ∧ (∃ t : RilData, t.connView = s.connView ∧ t.radioState = radioState ∧
      ((radioState = .off ∨ radioState = .unavailable) ∧ s.radioStateUpdate radioState = t.radioOff ∨
        radioState ≠ .off ∧ radioState ≠ .unavailable ∧ s.radioStateUpdate radioState = t)) := by
  by_cases h : s.radioState = radioState
  · left
    rw [RilData.radioStateUpdate, if_pos h]
    exact ⟨rfl, h⟩
  · right
    refine ⟨h, ?_⟩
    rw [RilData.radioStateUpdate, if_neg h]
    dsimp only
    split
    · exact ⟨(({ s with radioState := .unavailable }).requestUnsolicited .radioStateChanged .null).radioUnavailable,
        radio_rounds_connView _ _, RilData.radioRounds_radioState _ _, .inl ⟨.inr rfl, rfl⟩⟩
    · exact ⟨({ s with radioState := .off }).requestUnsolicited .radioStateChanged .null, rfl, rfl, .inl ⟨.inl rfl, rfl⟩⟩
    · rename_i hu ho
      exact ⟨{ ({ s with radioState := radioState }).requestUnsolicited .radioStateChanged .null with
        loopSignal := true }, rfl, rfl, .inr ⟨ho, hu, rfl⟩⟩

lemma radio_inherits (s : RilData) (radioState : RilRadioState) : Inherits s (s.radioStateUpdate radioState) := by
  have hview {t : RilData} (h : t.connView = s.connView) : Inherits s t :=
    .of_eq (congrArg Prod.fst h) (congrArg Prod.snd h)
  rcases radio_cases s radioState with ⟨h, -⟩ | ⟨-, t, ht, -, ⟨-, h⟩ | ⟨-, -, h⟩⟩
  · exact hview (congrArg RilData.connView h)
  · rw [h]
    exact ((hview ht).trans (flush_from_inherits t.dataConnections t)).trans (.of_eq rfl rfl)
  · rw [h]
    exact hview ht

lemma op_inherits {op : Op} (h : ∀ cs heap, op ≠ .connections cs heap) (s : RilData) : Inherits s (op.exec s) := by
  by_cases hc : op.connects = true
  · cases op with
    | connections cs heap => exact absurd rfl (h cs heap)
    | radio radioState => exact radio_inherits s radioState
    | _ => cases hc
  · have hv := op_connView (Bool.eq_false_iff.mpr hc) s
    exact .of_eq (congrArg Prod.fst hv) (congrArg Prod.snd hv)

lemma path_inherits {A : RilData → Op → Prop} {s t : RilData} (hp : Path Op.exec A s t)
    (hA : ∀ s op, A s op → ∀ cs heap, op ≠ .connections cs heap) : Inherits s t := by
  induction hp with
  | refl => exact .refl s
  | tail _ ht ih =>
    obtain ⟨op, hop, rfl⟩ := ht
    exact ih.trans (op_inherits (hA _ _ hop) _)

/-! ### Programs that only pass connections on -/

/-- No connection is added, and none gets another token. -/
def Tracks {α : Type} (m : RilM α) : Prop := ∀ s, Inherits s (m s).2

namespace Tracks

variable {α β : Type} {m n : RilM α} {f : α → RilM β}

lemma pure (a : α) : Tracks (pure a) := fun s => .refl s

lemma bind (hm : Tracks m) (hf : ∀ a, Tracks (f a)) : Tracks (m >>= f) := fun s => (hm s).trans (hf _ _)

lemma read {f : RilData → RilM β} (hf : ∀ s, Tracks (f s)) : Tracks (get >>= f) := fun s => hf s s

lemma ite {c : Prop} [Decidable c] (hm : c → Tracks m) (hn : ¬c → Tracks n) : Tracks (if c then m else n) := by
  split
  · exact hm ‹_›
  · exact hn ‹_›

lemma update (record : ℕ) {f : RilDataConnection → RilDataConnection}
    (hf : ∀ c, (f c).record = c.record ∧ (f c).cid = c.cid ∧ ((f c).token = c.token ∨ (f c).token = 0)) :
    Tracks (modify (RilData.dataConnectionUpdate record f) : RilM PUnit) := by
  intro s
  have hone (c : RilDataConnection) : (if c.record == record then f c else c).record = c.record ∧
      (if c.record == record then f c else c).cid = c.cid ∧
      ((if c.record == record then f c else c).token = c.token ∨ (if c.record == record then f c else c).token = 0) := by
    split
    · exact hf c
    · exact ⟨rfl, rfl, .inl rfl⟩
  refine ⟨?_, Nat.le_refl _, fun c' hc' => ?_⟩
  · have he : (fun c : RilDataConnection => c.record) ∘ (fun c => if c.record == record then f c else c) =
        fun c => c.record := funext fun c => (hone c).1
    simp only [modify_apply, RilData.dataConnectionUpdate, List.map_map, he]
    exact .refl _
  · obtain ⟨c, hc, rfl⟩ := List.mem_map.mp hc'
    exact ⟨c, hc, hone c⟩

lemma stop (record : ℕ) : Tracks (rilDataConnectionStop record) := fun s => stop_inherits s record

lemma transmit (sender : Sender) (expect : Option ExpectKind) (command : IpcCommand) (type : IpcRequestType)
    (data : Bytes) : Tracks (transmit sender expect command type data) := fun s =>
  @op_inherits (.transmit sender expect command type data) (fun _ _ h => by cases h) s

lemma complete (token : RilToken) (error : RilErrno) (response : RilResponse) :
    Tracks (rilRequestComplete token error response) := fun s =>
  @op_inherits (.complete token error response) (fun _ _ h => by cases h) s

lemma completeReply (message : IpcMessage) (error : RilErrno) (response : RilResponse) :
    Tracks (completeReply message error response) := .read fun _ => .complete _ error response

lemma strdup (value : CString) : Tracks (strdup value) := fun _ => .of_sublist (.refl _) (Nat.le_succ _)

lemma free (string : Option HeapString) : Tracks (free string) := by
  intro s
  simp only [Samsung.free, modify_apply, RilData.freeString_eq]
  exact .of_sublist (.refl _) (Nat.le_of_eq (Heap.freeAll_next _ _).symm)

end Tracks

section

variable (message : IpcMessage) (c : RilDataConnection)

lemma complete_stopped_tracks : Tracks (completeStopped message c) :=
  .bind (.stop _) fun _ => .completeReply message _ _

lemma define_pdp_context_callback_tracks : Tracks (ipcGprsDefinePdpContextCallback message) := by
  unfold ipcGprsDefinePdpContextCallback
  split
  · exact .pure _
  · refine .read fun s => ?_
    split
    · exact .bind (.completeReply message _ _) fun _ => .pure _
    · exact .ite
        (fun _ => .bind (.transmit _ _ _ _ _) fun _ => .ite
          (fun _ => .bind (complete_stopped_tracks message _) fun _ => .pure _) fun _ => .pure _)
        fun _ => .bind (complete_stopped_tracks message _) fun _ => .pure _

lemma pdp_context_callback_tracks : Tracks (ipcGprsPdpContextCallback message) := by
  unfold ipcGprsPdpContextCallback
  split
  · exact .pure _
  · refine .read fun s => ?_
    split
    · exact .bind (.completeReply message _ _) fun _ => .pure _
    · exact .ite (fun _ => .bind (complete_stopped_tracks message _) fun _ => .pure _) fun _ => .pure _

lemma gprs_ps_tracks : Tracks (ipcGprsPs message) := by
  unfold ipcGprsPs
  split
  · exact .pure _
  · refine .read fun s => ?_
    split
    · exact .pure _
    · exact .bind (.update _ fun _ => ⟨rfl, rfl, .inl rfl⟩) fun _ => .pure _

lemma print_to_tracks (old : Option HeapString) (value : CString) : Tracks (printTo old value) :=
  .bind (.free old) fun _ => .strdup value

lemma gprs_ip_configuration_tracks : Tracks (ipcGprsIpConfiguration message) := by
  unfold ipcGprsIpConfiguration
  split
  · exact .pure _
  · refine .read fun s => ?_
    split
    · exact .ite (fun _ => .bind (.completeReply message _ _) fun _ => .pure _) fun _ => .pure _
    · exact .bind (print_to_tracks _ _) fun _ => .bind (print_to_tracks _ _) fun _ =>
        .bind (print_to_tracks _ _) fun _ => .bind (print_to_tracks _ _) fun _ =>
          .bind (print_to_tracks _ _) fun _ => .bind (.update _ fun _ => ⟨rfl, rfl, .inl rfl⟩) fun _ => .pure _

lemma enable_tracks : Tracks (rilDataConnectionEnable c) :=
  .read fun _ => .ite (fun _ => .pure _) fun _ => .ite (fun _ => .pure _) fun _ =>
    .ite (fun _ => .pure _) fun _ => .bind (.update _ fun _ => ⟨rfl, rfl, .inl rfl⟩) fun _ => .pure _

lemma disable_tracks : Tracks (rilDataConnectionDisable c) := by
  refine .read fun s => ?_
  split
  · exact .pure _
  · exact .ite (fun _ => .pure _) fun _ => .ite (fun _ => .pure _) fun _ => .ite (fun _ => .pure _) fun _ =>
      .ite (fun _ => .pure _) fun _ => .bind (.update _ fun _ => ⟨rfl, rfl, .inl rfl⟩) fun _ => .pure _

variable (data : IpcGprsCallStatusData) (request : Option RilRequest)

lemma call_status_error_tracks : Tracks (callStatusError c request) := by
  refine .bind (.stop _) fun _ => ?_
  split
  · exact .pure _
  · exact .complete _ _ _

lemma call_status_end_tracks : Tracks (callStatusEnd c request) := by
  unfold callStatusEnd
  split
  · exact .pure _
  · exact .bind (.transmit _ _ _ _ _) fun _ => .ite (fun _ => call_status_error_tracks c none) fun _ => .pure _

lemma call_status_enabled_tracks : Tracks (callStatusEnabled data c request) :=
  .ite (fun _ => .ite (fun _ => call_status_error_tracks c request) fun _ => call_status_end_tracks c request)
    fun _ => .bind (enable_tracks c) fun _ => .ite
      (fun _ => .ite
        (fun _ => .bind (.complete _ _ _) fun _ => .bind (.update _ fun _ => ⟨rfl, rfl, .inr rfl⟩) fun _ =>
          call_status_end_tracks c request)
        fun _ => call_status_end_tracks c request)
      fun _ => call_status_error_tracks c request

lemma call_status_disabled_tracks : Tracks (callStatusDisabled data c request) :=
  .ite (fun _ => .bind (disable_tracks c) fun _ => .ite
      (fun _ => .bind (.stop _) fun _ => .ite
        (fun _ => .bind (.complete _ _ _) fun _ => call_status_end_tracks c request)
        fun _ => call_status_end_tracks c request)
      fun _ => call_status_error_tracks c request)
    fun _ => .ite (fun _ => .bind (.complete _ _ _) fun _ => call_status_error_tracks c none)
      fun _ => call_status_end_tracks c request

lemma gprs_call_status_tracks : Tracks (ipcGprsCallStatus message) := by
  unfold ipcGprsCallStatus
  split
  · exact .pure _
  · refine .read fun s => .ite (fun _ => ?_) fun _ => .pure _
    split
    · exact .ite (fun _ => .bind (.completeReply message _ _) fun _ => .pure _) fun _ => .pure _
    · exact .ite (fun _ => .bind (call_status_enabled_tracks _ _ _) fun _ => .pure _) fun _ => .ite
        (fun _ => .bind (call_status_disabled_tracks _ _ _) fun _ => .pure _)
        fun _ => .bind (call_status_end_tracks _ _) fun _ => .pure _

end

/-! ### The steps -/

lemma tracks_of_spec {α : Type} {F : Footprint} {message : IpcMessage} {m : RilM α} (hF : F.connections = false)
    (h : MessageSpec F message m) : Tracks m := by
  refine fun s => path_inherits (h s) ?_
  rintro s _ hop cs heap rfl
  have hc : F.connections = true := hop
  rw [hF] at hc
  cases hc

lemma callback_tracks (callback : GenPhoneResCallback) (message : IpcMessage) : Tracks (callback.run message) := by
  cases callback with
  | ipcGprsDefinePdpContext => exact define_pdp_context_callback_tracks message
  | ipcGprsPdpContext => exact pdp_context_callback_tracks message
  | _ => exact tracks_of_spec rfl (callback_spec message _)

lemma gen_phone_res_tracks (message : IpcMessage) : Tracks (ipcGenPhoneRes message) := by
  have hu : Tracks (modify (RilData.expectUnregister message.aseq) : RilM PUnit) := fun s => .of_eq rfl rfl
  unfold ipcGenPhoneRes
  split
  · exact .pure _
  · refine .read fun s => ?_
    split
    · exact .pure _
    · refine .bind (.ite (fun _ => .pure _) fun _ => ?_) fun _ => .bind hu fun _ => .pure _
      split
      · exact callback_tracks _ message
      · exact .ite (fun _ => .bind (.completeReply message _ _) fun _ => .pure _) fun _ => .pure _

lemma message_tracks (message : IpcMessage) : Tracks (ipcFmtDispatch message) := by
  intro s
  rw [ipcFmtDispatch]
  cases h : ipcFmtHandler message.command with
  | none => exact .refl s
  | some handler =>
    by_cases hF : (messageFootprint message s).connections = true
    · obtain ⟨aseq, command, type, data⟩ := message
      cases command with
      | gprsPs =>
        obtain rfl := Option.some.inj h
        exact gprs_ps_tracks _ s
      | gprsIpConfiguration =>
        obtain rfl := Option.some.inj h
        exact gprs_ip_configuration_tracks _ s
      | gprsCallStatus =>
        obtain rfl := Option.some.inj h
        exact gprs_call_status_tracks _ s
      | genPhoneRes =>
        obtain rfl := Option.some.inj h
        exact gen_phone_res_tracks _ s
      | _ => cases hF
    · refine path_inherits (message_handler_spec message h s) ?_
      rintro s' _ hop cs heap rfl
      exact hF hop

lemma dispatch_inherits (env : Env) {r : RilRequest} {s : RilData} (hr : r ∈ s.requests)
    (hF : r.request.footprint.connections = false) : Inherits s (dispatchRequest env r s) := by
  refine path_inherits (dispatch_path env hr) ?_
  rintro s' _ hop cs heap rfl
  rcases hop with h | ⟨sent, h⟩ | h | h | ⟨error, response, h, -⟩
  · cases h
  · have hc : r.request.footprint.connections = true := h
    rw [hF] at hc
    cases hc
  · cases h
  · cases h
  · cases h

lemma step_inherits {d d' : Daemon} {a : Action} (h : step d a = some d')
    (hd : ∀ env r, a = .loopDispatch env → d.data.requestFindStatus .pending = some r →
      r.request.footprint.connections = false) : Inherits d.data d'.data := by
  cases a with
  | loopDispatch env =>
    obtain ⟨-, r, hr, rfl⟩ := step_loop_dispatch.mp h
    exact dispatch_inherits env (List.mem_of_find?_eq_some hr) (hd env r rfl hr)
  | message env message =>
    have hm : Inherits d.data (dispatchMessage env message d.data).2 :=
      (Inherits.of_eq (by rfl) (by rfl)).trans (message_tracks message (d.data.started env (.received message)))
    obtain ⟨-, -, ⟨data, he, rfl⟩ | ⟨data, he, rfl⟩⟩ := step_message.mp h
    · rwa [he] at hm
    · rw [he] at hm
      exact hm.trans (.of_eq rfl rfl)
  | _ =>
    refine path_inherits (step_path h) ?_
    rintro s op hop cs heap rfl
    simp [StepOp] at hop

/-! ### The dispatch of the requests of connections -/

section

variable {s : RilData} {r : RilRequest} {handler : RilValue → RilToken → RilM RilRequestStatus}

lemma dispatch_connView (h : rilRequestHandler r.request = some handler) (env : Env) :
    (dispatchRequest env r s).connView =
      (handler r.data r.token (s.started env (.dispatched r.token))).2.connView := by
  have hstart : ({ s with env := env } : RilData).log (.dispatched r.token) = s.started env (.dispatched r.token) := rfl
  have hd : (rilRequestDispatch r (s.started env (.dispatched r.token))).2.connView =
      (handler r.data r.token (s.started env (.dispatched r.token))).2.connView := by
    simp only [rilRequestDispatch, h, bind_apply]
    rcases handler r.data r.token (s.started env (.dispatched r.token)) with ⟨status, t⟩
    cases status <;> rfl
  rw [dispatchRequest, hstart]
  split
  · exact (RilData.requestUnregister_connView _ _).trans hd
  · exact hd

lemma dispatch_radioState (env : Env) (hr : r ∈ s.requests) : (dispatchRequest env r s).radioState = s.radioState := by
  refine Path.frame (f := fun s => s.radioState) (dispatch_path env hr) fun s op hop => op_radioState ?_ s
  rintro radioState rfl
  rcases hop with h | ⟨sent, h⟩ | h | h | ⟨error, response, h, -⟩
  · cases h
  · exact h.elim
  · cases h
  · cases h
  · cases h

/-- Without a SIM that is ready no connection is started or stopped by a request. -/
lemma setup_data_call_waits {data : RilValue} {token : RilToken} (hr : s.radioStateCheck .simReady = false) :
    (rilRequestSetupDataCall data token s).2.connView = s.connView := by
  unfold rilRequestSetupDataCall
  split
  · simp only [get_bind_apply, hr, Bool.false_eq_true, if_false]
    exact s.requestComplete_connView _ _ _
  · exact s.requestComplete_connView _ _ _

lemma deactivate_data_call_waits {data : RilValue} {token : RilToken} (hr : s.radioStateCheck .simReady = false) :
    (rilRequestDeactivateDataCall data token s).2.connView = s.connView := by
  unfold rilRequestDeactivateDataCall
  split
  · rw [whenRadioState_apply, hr]
    rfl
  · exact s.requestComplete_connView _ _ _

lemma connection_requests (h : r.request.footprint.connections = true) :
    r.request = .setupDataCall ∨ r.request = .deactivateDataCall := by
  obtain ⟨request, data, token, status⟩ := r
  cases request with
  | setupDataCall => exact .inl rfl
  | deactivateDataCall => exact .inr rfl
  | _ => cases h

end

/-! ### The tokens of the connections -/

/-- The connections that have a token have one of these. -/
def TokensIn (T : RilToken → Prop) (s : RilData) : Prop := ∀ c ∈ s.dataConnections, c.token = 0 ∨ T c.token

section

variable {T : RilToken → Prop} {token : RilToken} {s t : RilData}

lemma TokensIn.inherits (h : TokensIn T s) (hi : Inherits s t) : TokensIn T t := by
  intro c hc
  obtain ⟨c', hc', -, -, ht | h0⟩ := hi.tokens c hc
  · rw [ht]
    exact h c' hc'
  · exact .inl h0

lemma TokensIn.mono {T' : RilToken → Prop} (h : TokensIn T s) (hT : ∀ token, T token → T' token) : TokensIn T' s :=
  fun c hc => (h c hc).imp_right (hT _)

lemma Tracks.tokensIn {α : Type} {m : RilM α} (hm : Tracks m) : Triple (TokensIn T) m fun _ => TokensIn T :=
  fun s hs => hs.inherits (hm s)

lemma start_tokens (apn : HeapString) (username password : Option HeapString) :
    Triple (TokensIn T) (rilDataConnectionStart apn username password) fun _ => TokensIn T := by
  have hnone {P : RilData → Prop} (hP : ∀ t, P t → TokensIn T t) :
      Triple P (pure none : RilM (Option RilDataConnection)) fun _ => TokensIn T := .pure hP
  unfold rilDataConnectionStart
  refine .read fun s hs => ?_
  have hstay : ∀ t, t = s → TokensIn T t := fun t ht => ht ▸ hs
  refine .ite (fun _ => hnone hstay) fun _ => ?_
  split
  · exact hnone hstay
  · split
    · exact hnone hstay
    · split
      · exact hnone hstay
      · refine .bind ((Tracks.strdup _).tokensIn.weaken hstay) fun iface =>
          .bind (Q := fun _ => TokensIn T) (.modify fun t ht c hc => ?_) fun _ => .read fun u hu => ?_
        · rcases List.mem_append.mp hc with hc | hc
          · exact ht c hc
          · rw [List.mem_singleton.mp hc]
            exact .inl rfl
        · split
          · exact .bind ((Tracks.free _).tokensIn.weaken fun t (ht : t = u) => ht ▸ hu) fun _ => hnone fun _ h => h
          · exact .pure fun t (ht : t = u) => ht ▸ hu

lemma retarget_tokens (hT : T token) (record : ℕ) {m : RilM RilRequestStatus}
    (hm : Triple (TokensIn T) m fun _ => TokensIn T) :
    Triple (TokensIn T)
      (do
        modify (RilData.dataConnectionUpdate record fun c => { c with token := token })
        m)
      fun _ => TokensIn T := by
  refine .bind (Q := fun _ => TokensIn T) (.modify fun s hs c hc => ?_) fun _ => hm
  obtain ⟨c', hc', rfl⟩ := List.mem_map.mp hc
  split
  · exact .inr hT
  · exact hs c' hc'

lemma send_tokens (expect : Option ExpectKind) (command : IpcCommand) (type : IpcRequestType) (data : Bytes)
    (record : ℕ) :
    Triple (TokensIn T)
      (do
        if ← transmit (.request token) expect command type data then
          return .handled
        else
          rilDataConnectionStop record
          failRequest token)
      fun _ => TokensIn T :=
  Tracks.tokensIn <| .bind (.transmit _ _ _ _ _) fun _ => .ite (fun _ => .pure _) fun _ =>
    .bind (.stop record) fun _ => .bind (.complete token _ _) fun _ => .pure _

lemma fail_tokens (error : RilErrno) : Triple (TokensIn T) (completeRequest token error .null) fun _ => TokensIn T :=
  Tracks.tokensIn <| .bind (.complete token _ _) fun _ => .pure _

lemma setup_data_call_tokens (hT : T token) (data : RilValue) :
    Triple (TokensIn T) (rilRequestSetupDataCall data token) fun _ => TokensIn T := by
  unfold rilRequestSetupDataCall
  split
  · refine .read fun s hs => Triple.weaken (P := TokensIn T) ?_ fun t (ht : t = s) => ht ▸ hs
    refine .ite (fun _ => .read fun t ht => Triple.weaken (P := TokensIn T) ?_ fun u (hu : u = t) => hu ▸ ht)
      fun _ => fail_tokens _
    refine .ite (fun _ => .pure fun _ h => h) fun _ => ?_
    split
    · exact fail_tokens _
    · have hstr (value : Option CString) : Tracks (strdupOption value) := by
        cases value with
        | none => exact .pure _
        | some value => exact .bind (.strdup value) fun _ => .pure _
      refine .bind (Tracks.strdup _).tokensIn fun apn => .bind (hstr _).tokensIn fun username =>
        .bind (hstr _).tokensIn fun password => .bind (start_tokens apn username password) fun r => ?_
      split
      · exact .bind (Tracks.free _).tokensIn fun _ => .bind (Tracks.free _).tokensIn fun _ =>
          .bind (Tracks.free _).tokensIn fun _ => fail_tokens _
      · exact retarget_tokens hT _ (send_tokens _ _ _ _ _)
  · exact fail_tokens _

lemma deactivate_data_call_tokens (hT : T token) (data : RilValue) :
    Triple (TokensIn T) (rilRequestDeactivateDataCall data token) fun _ => TokensIn T := by
  unfold rilRequestDeactivateDataCall
  split
  · refine .read fun s hs => Triple.weaken (P := TokensIn T) ?_ fun t (ht : t = s) => ht ▸ hs
    refine .ite (fun _ => .read fun t ht => Triple.weaken (P := TokensIn T) ?_ fun u (hu : u = t) => hu ▸ ht)
      fun _ => .pure fun _ h => h
    refine .ite (fun _ => .pure fun _ h => h) fun _ => ?_
    split
    · exact fail_tokens _
    · refine .read fun u hu => Triple.weaken (P := TokensIn T) ?_ fun t (ht : t = u) => ht ▸ hu
      split
      · exact fail_tokens _
      · exact retarget_tokens hT _ (send_tokens _ _ _ _ _)
  · exact fail_tokens _

end

/-- The request of the token is one for connections. -/
def ForConnections (trace : List Event) (token : RilToken) : Prop :=
  ∃ request data, Event.arrived token request data ∈ trace ∧ request.footprint.connections = true

lemma dispatch_tokens {s : RilData} (h : TokensIn (ForConnections s.trace) s) (hs : Synced s) (env : Env) {r : RilRequest}
    (hr : r ∈ s.requests) (hF : r.request.footprint.connections = true) :
    TokensIn (ForConnections s.trace) (dispatchRequest env r s) := by
  have hT : ForConnections s.trace r.token :=
    ⟨r.request, r.data, hs.arrived (r.request, r.data, r.token) (List.mem_map_of_mem hr), hF⟩
  have hview {t u : RilData} (ht : TokensIn (ForConnections s.trace) t) (hv : u.connView = t.connView) :
      TokensIn (ForConnections s.trace) u := ht.inherits (.of_eq (congrArg Prod.fst hv) (congrArg Prod.snd hv))
  have hstart : TokensIn (ForConnections s.trace) (s.started env (.dispatched r.token)) := hview h rfl
  rcases connection_requests hF with hq | hq
  · have hh : rilRequestHandler r.request = some rilRequestSetupDataCall := by
      rw [hq]
      rfl
    exact hview (setup_data_call_tokens hT r.data _ hstart) (dispatch_connView hh env)
  · have hh : rilRequestHandler r.request = some rilRequestDeactivateDataCall := by
      rw [hq]
      rfl
    exact hview (deactivate_data_call_tokens hT r.data _ hstart) (dispatch_connView hh env)

/-- Only the requests for connections have given them tokens. -/
lemma reachable_tokens {d : Daemon} (h : Reachable d) : TokensIn (ForConnections d.data.trace) d.data := by
  induction h with
  | refl => exact fun c hc => absurd hc List.not_mem_nil
  | @tail d d' a hd _ hstep ih =>
    have hgrow : ∀ token, ForConnections d.data.trace token → ForConnections d'.data.trace token := by
      rintro token ⟨request, data, hm, hF⟩
      exact ⟨request, data, (step_logged hstep).suffix.subset hm, hF⟩
    by_cases hF : ∃ env r, a = .loopDispatch env ∧ d.data.requestFindStatus .pending = some r ∧
        r.request.footprint.connections = true
    · obtain ⟨env, r, rfl, hr, hF⟩ := hF
      obtain ⟨-, r', hr', rfl⟩ := step_loop_dispatch.mp hstep
      obtain rfl := Option.some.inj (hr.symm.trans hr')
      exact (dispatch_tokens ih (reachable_synced hd) env (List.mem_of_find?_eq_some hr) hF).mono hgrow
    · refine (ih.inherits (step_inherits hstep fun env r ha hr => ?_)).mono hgrow
      exact Bool.eq_false_iff.mpr fun hc => hF ⟨env, r, ha, hr, hc⟩

/-- No connection has the token of another request, and so no message completes it by that token. -/
lemma not_mem_footprint_tokens {s : RilData} (message : IpcMessage) (hs : Synced s)
    (hT : TokensIn (ForConnections s.trace) s) {r : RilRequest} (hr : r ∈ s.requests)
    (hF : r.request.footprint.connections = false) : r.token ∉ (messageFootprint message s).tokens := by
  intro h
  have hm := message_footprint_tokens message s h
  rw [callStatusTokens] at hm
  split at hm
  · exact absurd hm List.not_mem_nil
  · obtain ⟨c, hc, hk⟩ := Option.map_eq_some_iff.mp (Option.mem_toList.mp hm)
    rcases hT c (List.mem_of_find?_eq_some hc) with h0 | ⟨request, value, ha, hF'⟩
    · exact hs.ne_zero (h0 ▸ hk ▸ List.mem_map_of_mem hr)
    · have harrived := hs.arrived (r.request, r.data, r.token) (List.mem_map_of_mem hr)
      obtain ⟨rfl, -⟩ := hs.unique _ _ _ _ _ (hk ▸ ha) harrived
      rw [hF] at hF'
      cases hF'

end Ril.Samsung
