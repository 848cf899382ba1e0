import Ril.Samsung.Spec.Connections
import Ril.Samsung.Spec.Events

/-! The blocks of the data connections are released once. -/

namespace Ril.Samsung

open Ril.Ipc Ril.Lib

/-- The connection of a record is registered, and the heap is sound. -/
structure SoundAt (record : ℕ) (s : RilData) : Prop where
  sound : Sound s
  found : (s.dataConnectionFind record).isSome = true

section

variable {s t : RilData} {record : ℕ} {c : RilDataConnection}

lemma Sound.of_view (h : Sound s) (ht : t.connView = s.connView) : Sound t := by
  have hc : t.dataConnections = s.dataConnections := congrArg Prod.fst ht
  have hh : t.heap = s.heap := congrArg Prod.snd ht
  rw [Sound, hc, hh]
  exact h

lemma SoundAt.of_view (h : SoundAt record s) (ht : t.connView = s.connView) : SoundAt record t := by
  refine ⟨h.sound.of_view ht, ?_⟩
  have hc : t.dataConnections = s.dataConnections := congrArg Prod.fst ht
  rw [RilData.dataConnectionFind, hc]
  exact h.found

lemma SoundAt.of_mem (h : Sound s) (hc : c ∈ s.dataConnections) : SoundAt c.record s :=
  ⟨h, List.find?_isSome.mpr ⟨c, hc, by simp⟩⟩

lemma SoundAt.stop (h : SoundAt record s) : Sound (s.dataConnectionStop record) := by
  obtain ⟨c, hc⟩ := Option.isSome_iff_exists.mp h.found
  exact h.sound.stop hc

lemma SoundAt.update (h : SoundAt record s) {record' : ℕ} {f : RilDataConnection → RilDataConnection}
    (hf : ∀ c, (f c).blocks = c.blocks ∧ (f c).record = c.record) :
    SoundAt record (s.dataConnectionUpdate record' f) := by
  refine ⟨h.sound.update fun c => (hf c).1, ?_⟩
  obtain ⟨c, hc, hk⟩ := List.find?_isSome.mp h.found
  refine List.find?_isSome.mpr ⟨_, List.mem_map_of_mem hc, ?_⟩
  split
  · rw [(hf c).2]
    exact hk
  · exact hk

end

/-! ### The programs on the connections -/

/-- What holds of the connections still holds after a program that does not touch them. -/
def ViewOnly (P : RilData → Prop) : Prop := ∀ ⦃s t : RilData⦄, P s → t.connView = s.connView → P t

section

variable {P : RilData → Prop} {record : ℕ} {c : RilDataConnection}

lemma sound_view : ViewOnly Sound := fun _ _ h ht => h.of_view ht

lemma sound_at_view : ViewOnly (SoundAt record) := fun _ _ h ht => h.of_view ht

lemma transmit_keeps (hP : ViewOnly P) (sender : Sender) (expect : Option ExpectKind) (command : IpcCommand)
    (type : IpcRequestType) (data : Bytes) : Triple P (transmit sender expect command type data) fun _ => P :=
  fun s hs => hP hs (s.transmit_connView sender expect command type data)

lemma complete_keeps (hP : ViewOnly P) (token : RilToken) (error : RilErrno) (response : RilResponse) :
    Triple P (rilRequestComplete token error response) fun _ => P :=
  fun s hs => hP hs (s.requestComplete_connView token error response)

lemma complete_reply_keeps (hP : ViewOnly P) (message : IpcMessage) (error : RilErrno) (response : RilResponse) :
    Triple P (completeReply message error response) fun _ => P :=
  fun s hs => hP hs (s.requestComplete_connView _ error response)

lemma complete_request_keeps (hP : ViewOnly P) (token : RilToken) (error : RilErrno) (response : RilResponse) :
    Triple P (completeRequest token error response) fun _ => P :=
  fun s hs => hP hs (s.requestComplete_connView token error response)

lemma stop_sound : Triple (SoundAt record) (rilDataConnectionStop record) fun _ => Sound :=
  fun _ hs => hs.stop

lemma update_keeps (record' : ℕ) {f : RilDataConnection → RilDataConnection}
    (hf : ∀ c, (f c).blocks = c.blocks ∧ (f c).record = c.record) :
    Triple (SoundAt record) (modify (RilData.dataConnectionUpdate record' f)) fun _ => SoundAt record :=
  .modify fun _ hs => hs.update hf

variable (message : IpcMessage)

lemma complete_stopped_sound : Triple (SoundAt c.record) (completeStopped message c) fun _ => Sound :=
  .bind stop_sound fun _ => complete_reply_keeps sound_view message _ _

lemma found_sound {s : RilData} (h : Sound s) {p : RilDataConnection → Bool} (hf : s.dataConnections.find? p = some c) :
    ∀ t, t = s → SoundAt c.record t := by
  rintro t rfl
  exact .of_mem h (List.mem_of_find?_eq_some hf)

lemma define_pdp_context_callback_sound : Triple Sound (ipcGprsDefinePdpContextCallback message) fun _ => Sound := by
  unfold ipcGprsDefinePdpContextCallback
  split
  · exact .pure fun _ h => h
  · refine .read fun s hs => ?_
    split
    · refine .bind ((complete_reply_keeps sound_view message _ _).weaken ?_) fun _ => .pure fun _ h => h
      rintro t rfl
      exact hs
    · rename_i c hc
      refine Triple.weaken ?_ (found_sound hs hc)
      refine .ite (fun _ => .bind (transmit_keeps sound_at_view _ _ _ _ _) fun _ => .ite (fun _ => ?_) fun _ => ?_)
        fun _ => ?_
      · exact .bind (complete_stopped_sound message) fun _ => .pure fun _ h => h
      · exact .pure fun _ h => h.sound
      · exact .bind (complete_stopped_sound message) fun _ => .pure fun _ h => h

lemma pdp_context_callback_sound : Triple Sound (ipcGprsPdpContextCallback message) fun _ => Sound := by
  unfold ipcGprsPdpContextCallback
  split
  · exact .pure fun _ h => h
  · refine .read fun s hs => ?_
    split
    · refine .bind ((complete_reply_keeps sound_view message _ _).weaken ?_) fun _ => .pure fun _ h => h
      rintro t rfl
      exact hs
    · rename_i c hc
      refine Triple.weaken ?_ (found_sound hs hc)
      refine .ite (fun _ => ?_) fun _ => ?_
      · exact .bind (complete_stopped_sound message) fun _ => .pure fun _ h => h
      · exact .pure fun _ h => h.sound

lemma gprs_ps_sound : Triple Sound (ipcGprsPs message) fun _ => Sound := by
  unfold ipcGprsPs
  split
  · exact .pure fun _ h => h
  · refine .read fun s hs => ?_
    split
    · refine .pure ?_
      rintro t rfl
      exact hs
    · rename_i c hc
      refine Triple.weaken ?_ (found_sound hs hc)
      exact .bind (update_keeps _ fun _ => ⟨rfl, rfl⟩) fun _ => .pure fun _ h => h.sound

/-! The strings of an address are replaced one by one. -/

lemma strdup_holds {bs : List ℕ} {cs : List RilDataConnection} (value : CString) :
    Triple (Holds bs cs) (strdup value) fun string => Holds (string.block :: bs) cs :=
  fun _ hs => ⟨hs.heap.alloc, hs.connections⟩

lemma free_holds {bs : List ℕ} {cs : List RilDataConnection} (string : Option HeapString) :
    Triple (Holds (blocksOf string ++ bs) cs) (free string) fun _ => Holds bs cs := by
  intro s hs
  simp only [free, modify_apply, RilData.freeString_eq]
  exact ⟨hs.heap.freeAll, hs.connections⟩

lemma print_to_holds {bs : List ℕ} {cs : List RilDataConnection} (old : Option HeapString) (value : CString) :
    Triple (Holds (blocksOf old ++ bs) cs) (printTo old value) fun string => Holds (string.block :: bs) cs :=
  .bind (free_holds old) fun _ => strdup_holds value

lemma print_to_rotate {bs new : List ℕ} {cs : List RilDataConnection} (old : Option HeapString) (value : CString) :
    Triple (Holds (new ++ (blocksOf old ++ bs)) cs) (printTo old value) fun string =>
      Holds (new ++ [string.block] ++ bs) cs := by
  have h : Triple (Holds (blocksOf old ++ (new ++ bs)) cs) (printTo old value) fun string =>
    Holds (string.block :: (new ++ bs)) cs := print_to_holds old value
  refine h.mono (fun s hs => hs.perm ?_) fun string s hs => hs.perm ?_
  · rw [← List.append_assoc, ← List.append_assoc]
    exact List.perm_append_comm.append_right bs
  · rw [List.append_assoc]
    exact List.perm_middle.symm

/-- What a connection owns besides the strings of its address, and what the other ones own. -/
def keptBlocks (c : RilDataConnection) (cs : List RilDataConnection) : List ℕ :=
  blocksOf c.apn ++ blocksOf c.username ++ blocksOf c.password ++ blocksOf c.iface ++ [c.record, c.node] ++
    ownedBlocks cs

lemma address_perm (c : RilDataConnection) (cs : List RilDataConnection) :
    (c.blocks ++ ownedBlocks cs).Perm ([] ++ (blocksOf c.ip ++ (blocksOf c.gateway ++ (blocksOf c.subnetMask ++
      (blocksOf c.dns1 ++ (blocksOf c.dns2 ++ keptBlocks c cs)))))) := by
  refine List.perm_iff_count.mpr fun b => ?_
  simp only [RilDataConnection.blocks, RilDataConnection.strings, keptBlocks, List.flatMap_cons, List.flatMap_nil,
    List.count_append, List.count_nil]
  omega

lemma other_records {s : RilData} (h : Sound s) {cs cs' : List RilDataConnection} (hs : s.dataConnections = cs ++ c :: cs') :
    ∀ c' ∈ cs ++ cs', c'.record ≠ c.record := by
  have hn := records_nodup h.nodup
  rw [hs, List.map_append, List.map_cons] at hn
  have hn' := (List.perm_middle.nodup_iff.mp hn)
  intro c' hc' he
  refine (List.nodup_cons.mp hn').1 ?_
  rw [← List.map_append, ← he]
  exact List.mem_map_of_mem hc'

lemma gprs_ip_configuration_sound : Triple Sound (ipcGprsIpConfiguration message) fun _ => Sound := by
  unfold ipcGprsIpConfiguration
  split
  · exact .pure fun _ h => h
  · refine .read fun s hs => ?_
    split
    · refine Triple.weaken (P := Sound) ?_ ?_
      · exact .ite (fun _ => .bind (complete_reply_keeps sound_view message _ _) fun _ => .pure fun _ h => h)
          fun _ => .pure fun _ h => h
      · rintro t rfl
        exact hs
    · rename_i c hc
      obtain ⟨-, cs, cs', hsplit, -⟩ := List.find?_eq_some_iff_append.mp hc
      have hk := other_records hs hsplit
      have hstart : Holds ([] ++ (blocksOf c.ip ++ (blocksOf c.gateway ++ (blocksOf c.subnetMask ++
          (blocksOf c.dns1 ++ (blocksOf c.dns2 ++ keptBlocks c (cs ++ cs'))))))) (cs ++ c :: cs') s := by
        have h := hs.holds
        rw [hsplit] at h
        exact (h.perm (owned_split cs cs' c)).perm (address_perm c (cs ++ cs'))
      refine Triple.weaken ?_ (fun t (ht : t = s) => ht ▸ hstart)
      refine .bind (print_to_rotate c.ip _) fun ip => .bind (print_to_rotate c.gateway _) fun gateway =>
        .bind (print_to_rotate c.subnetMask _) fun subnetMask => .bind (print_to_rotate c.dns1 _) fun dns1 =>
          .bind (print_to_rotate c.dns2 _) fun dns2 => .bind (.modify fun t ht => ht.update hk ?_) fun _ =>
            .pure fun _ h => h
      refine List.perm_iff_count.mpr fun b => ?_
      simp only [RilDataConnection.blocks, RilDataConnection.strings, keptBlocks, blocksOf, List.flatMap_cons,
        List.flatMap_nil, Option.toList_some, List.map_cons, List.map_nil, List.count_append, List.count_nil]
      omega

/-! ### The status of a call -/

section

variable {request : Option RilRequest} {data : IpcGprsCallStatusData}

lemma call_status_error_sound : Triple (SoundAt c.record) (callStatusError c request) fun _ => Sound := by
  refine .bind stop_sound fun _ => ?_
  split
  · exact .pure fun _ h => h
  · exact complete_keeps sound_view _ _ _

lemma call_status_end_sound : Triple (SoundAt c.record) (callStatusEnd c request) fun _ => Sound := by
  unfold callStatusEnd
  split
  · exact .pure fun _ h => h.sound
  · exact .bind (transmit_keeps sound_at_view _ _ _ _ _) fun _ => .ite (fun _ => call_status_error_sound)
      fun _ => .pure fun _ h => h.sound

lemma enable_sound : Triple (SoundAt record) (rilDataConnectionEnable c) fun _ => SoundAt record := by
  refine .read fun s hs => Triple.weaken (P := SoundAt record) ?_ (fun t (ht : t = s) => ht ▸ hs)
  exact .ite (fun _ => .pure fun _ h => h) fun _ => .ite (fun _ => .pure fun _ h => h) fun _ =>
    .ite (fun _ => .pure fun _ h => h) fun _ => .bind (update_keeps _ fun _ => ⟨rfl, rfl⟩) fun _ => .pure fun _ h => h

lemma call_status_enabled_sound : Triple (SoundAt c.record) (callStatusEnabled data c request) fun _ => Sound := by
  refine .ite (fun _ => .ite (fun _ => call_status_error_sound) fun _ => call_status_end_sound) fun _ =>
    .bind enable_sound fun _ => .ite (fun _ => .ite (fun _ => ?_) fun _ => call_status_end_sound)
      fun _ => call_status_error_sound
  exact .bind (complete_keeps sound_at_view _ _ _) fun _ => .bind (update_keeps _ fun _ => ⟨rfl, rfl⟩)
    fun _ => call_status_end_sound

/-- The message that asks for the connections is accepted. -/
def AsksConnections (s : RilData) : Prop := s.clientAccepts ⟨0, .gprsPdpContext, .get, []⟩ = true

def RilDataConnection.canDisable (c : RilDataConnection) (env : Env) : Bool :=
  match c.iface with
  | none => false
  | some iface => env.ifcResetConnections iface.value && env.ifcDisable iface.value && env.gprsDeactivate c.cid

lemma AsksConnections.of_withoutConnections {s t : RilData} (h : AsksConnections s)
    (ht : t.withoutConnections = s.withoutConnections) : AsksConnections t := by
  rw [RilData.eq_of_withoutConnections ht]
  exact h

/-- After a stop the connection is not stopped once more. -/
lemma call_status_end_stopped :
    Triple (fun t => Sound t ∧ (request = none → AsksConnections t)) (callStatusEnd c request) fun _ => Sound := by
  unfold callStatusEnd
  split
  · exact .pure fun _ h => h.1
  · rintro s ⟨hs, ha⟩
    have hr : (transmit (.reply 0) none .gprsPdpContext .get [] s).1 = true := ha rfl
    simp only [bind_apply, hr, Bool.not_true, Bool.false_eq_true, if_false]
    exact hs.of_view (s.transmit_connView _ _ _ _ _)

lemma disable_sound {s : RilData} (hs : SoundAt c.record s) :
    Triple (fun t => t = s) (rilDataConnectionDisable c) fun b t => SoundAt c.record t ∧
      t.withoutConnections = s.withoutConnections ∧
      (b = true → c.canDisable s.env = true ∧ s.fmt.data.isSome = true) := by
  have hfalse : Triple (fun t => t = s) (pure false : RilM Bool) fun b t => SoundAt c.record t ∧
      t.withoutConnections = s.withoutConnections ∧
      (b = true → c.canDisable s.env = true ∧ s.fmt.data.isSome = true) := by
    rintro t rfl
    exact ⟨hs, rfl, fun h => by cases h⟩
  refine .read ?_
  rintro t rfl
  split
  · exact hfalse
  · rename_i iface hi
    refine .ite (fun _ => hfalse) fun hd => .ite (fun _ => hfalse) fun hr => .ite (fun _ => hfalse) fun hb =>
      .ite (fun _ => hfalse) fun hg => ?_
    rintro u rfl
    refine ⟨hs.update fun _ => ⟨rfl, rfl⟩, rfl, fun _ => ⟨?_, Option.isSome_iff_ne_none.mpr (by simpa using hd)⟩⟩
    simp only [Bool.not_eq_true', Bool.not_eq_false] at hr hb hg
    simp only [RilDataConnection.canDisable, hi, hr, hb, hg, Bool.and_self]

lemma call_status_disabled_sound {s : RilData} (hs : SoundAt c.record s)
    (hask : request = none → c.enabled = true → c.canDisable s.env = true → s.fmt.data.isSome = true →
      AsksConnections s) : Triple (fun t => t = s) (callStatusDisabled data c request) fun _ => Sound := by
  have hweak {t : RilData} : t = s → SoundAt c.record t := fun h => h ▸ hs
  refine .ite (fun he => .bind (disable_sound hs) fun b => ?_) fun _ => .ite (fun _ => ?_) fun _ => ?_
  · refine .ite (fun hb => ?_) fun _ => call_status_error_sound.weaken fun _ h => h.1
    refine .bind (Q := fun _ t => Sound t ∧ (request = none → AsksConnections t)) ?_ fun _ =>
      .ite (fun hq => ?_) fun _ => call_status_end_stopped
    · rintro t ⟨ht, hw, hc⟩
      refine ⟨ht.stop, fun hn => ?_⟩
      exact (hask hn he (hc hb).1 (hc hb).2).of_withoutConnections ((withoutConnections_stop _ _).trans hw)
    · obtain ⟨r, rfl⟩ := isRequest_some hq
      refine .bind ((complete_keeps sound_view _ _ _).weaken fun _ h => h.1) fun _ => ?_
      exact call_status_end_stopped.weaken fun _ h => ⟨h, fun h => by cases h⟩
  · exact .bind ((complete_keeps sound_at_view _ _ _).weaken fun _ => hweak) fun _ => call_status_error_sound
  · exact call_status_end_sound.weaken fun _ => hweak

end

end

/-- Where a connection without a request is stopped because the network has ended it, the message that asks for
the connections is accepted. -/
def AsksAfterStop (message : IpcMessage) (s : RilData) : Prop :=
  ∀ data c, message.command = .gprsCallStatus → IpcGprsCallStatusData.read message.data = some data →
    (data.status = ipcGprsStatusDisabled ∨ data.status = ipcGprsStatusNotEnabled) →
    s.radioStateCheck .simReady = true → s.dataConnectionFindCid data.cid.toNat = some c → c.enabled = true →
    s.requestFindToken c.token = none → c.canDisable s.env = true → s.fmt.data.isSome = true → AsksConnections s

lemma gprs_call_status_sound {message : IpcMessage} {s : RilData} (hm : message.command = .gprsCallStatus)
    (hs : Sound s) (hask : AsksAfterStop message s) : Sound (ipcGprsCallStatus message s).2 := by
  suffices h : Triple (fun t => t = s) (ipcGprsCallStatus message) fun _ => Sound from h s rfl
  have hweak {t : RilData} : t = s → Sound t := fun h => h ▸ hs
  unfold ipcGprsCallStatus
  split
  · exact .pure fun _ => hweak
  · rename_i data hd
    refine .read fun t ht => .ite (fun hr => ?_) fun _ => .pure fun _ h => hweak (h.trans ht)
    subst ht
    split
    · refine Triple.weaken (P := Sound) ?_ fun _ => hweak
      exact .ite (fun _ => .bind (complete_reply_keeps sound_view message _ _) fun _ => .pure fun _ h => h)
        fun _ => .pure fun _ h => h
    · rename_i c hc
      have hat := found_sound hs hc
      refine .ite (fun _ => .bind (call_status_enabled_sound.weaken hat) fun _ => .pure fun _ h => h) fun _ =>
        .ite (fun hst => ?_) fun _ => .bind (call_status_end_sound.weaken hat) fun _ => .pure fun _ h => h
      have hst : data.status = ipcGprsStatusDisabled ∨ data.status = ipcGprsStatusNotEnabled := by
        simpa using hst
      refine .bind (call_status_disabled_sound (hat t rfl) fun hn he hcan hd' => ?_) fun _ => .pure fun _ h => h
      exact hask data c hm hd hst hr hc he hn hcan hd'

/-! ### The requests of connections -/

section

variable {cs : List RilDataConnection} {bs : List ℕ}

lemma strdup_option_holds (value : Option CString) :
    Triple (Holds bs cs) (strdupOption value) fun string => Holds (blocksOf string ++ bs) cs := by
  cases value with
  | none => exact .pure fun _ h => h
  | some value => exact .bind (strdup_holds value) fun _ => .pure fun _ h => h

/-- The strings that a new connection takes over. -/
def startBlocks (apn : HeapString) (username password : Option HeapString) (cs : List RilDataConnection) : List ℕ :=
  blocksOf password ++ (blocksOf username ++ apn.block :: ownedBlocks cs)

lemma start_sound (apn : HeapString) (username password : Option HeapString) :
    Triple (Holds (startBlocks apn username password cs) cs) (rilDataConnectionStart apn username password)
      fun r s => match r with
        | none => Holds (startBlocks apn username password cs) cs s
        | some c => SoundAt c.record s := by
  have hnone {s : RilData} (hs : Holds (startBlocks apn username password cs) cs s) :
      Triple (fun t => t = s) (pure none : RilM (Option RilDataConnection)) fun r s => match r with
        | none => Holds (startBlocks apn username password cs) cs s
        | some c => SoundAt c.record s := by
    rintro t rfl
    exact hs
  refine .read fun s hs => .ite (fun _ => hnone hs) fun _ => ?_
  split
  · exact hnone hs
  · split
    · exact hnone hs
    · rename_i cid hcid
      split
      · exact hnone hs
      · rename_i name _
        have hfree : s.dataConnections.find? (·.cid == cid) = none := by
          have h := List.find?_some hcid
          rwa [Option.isNone_iff_eq_none] at h
        refine .bind (Q := fun iface => Holds (iface.block :: startBlocks apn username password cs) cs)
          ((strdup_holds name).weaken fun t ht => ht ▸ hs) fun iface => ?_
        rintro t ht
        have hfind : ∃ c, (t.dataConnectionRegister cid apn username password iface).dataConnectionFindCid cid = some c := by
          simp only [RilData.dataConnectionFindCid, RilData.dataConnectionRegister, ht.connections, List.find?_append]
          rw [← hs.connections, hfree]
          simp
        obtain ⟨c, hfind⟩ := hfind
        have hsound := ht.register cid
        simp only [bind_apply, modify_apply, get_apply, hfind]
        exact .of_mem hsound (List.mem_of_find?_eq_some hfind)

variable {data : RilValue} {token : RilToken}

lemma started_sound {c : RilDataConnection} :
    Triple (SoundAt c.record) (setupDataCallStarted c token) fun _ => Sound :=
  .bind (update_keeps _ fun _ => ⟨rfl, rfl⟩) fun _ => .bind (transmit_keeps sound_at_view _ _ _ _ _) fun _ =>
    .ite (fun _ => .pure fun _ h => h.sound) fun _ =>
      .bind stop_sound fun _ => complete_request_keeps sound_view _ _ _

lemma setup_data_call_sound (apn : CString) (username password : Option CString) :
    Triple Sound (setupDataCall apn username password token) fun _ => Sound := by
  intro s hs
  suffices h : Triple (Holds (ownedBlocks s.dataConnections) s.dataConnections)
    (setupDataCall apn username password token) fun _ => Sound from h s hs.holds
  refine .bind (strdup_holds apn) fun apn => .bind (strdup_option_holds username) fun username =>
    .bind (strdup_option_holds password) fun password => .bind (start_sound apn username password) fun r => ?_
  split
  · have hfail : Triple (Holds (ownedBlocks s.dataConnections) s.dataConnections) (failRequest token) fun _ => Sound :=
      (complete_request_keeps sound_view _ _ _).weaken fun _ h => h.sound
    have hfree : Triple (Holds (blocksOf (some apn) ++ (blocksOf username ++ (blocksOf password ++
      ownedBlocks s.dataConnections))) s.dataConnections) (free (some apn)) fun _ => Holds (blocksOf username ++
        (blocksOf password ++ ownedBlocks s.dataConnections)) s.dataConnections := free_holds (some apn)
    refine .bind (hfree.weaken fun t ht => ht.perm (List.perm_iff_count.mpr fun b => ?_)) fun _ =>
      .bind (free_holds username) fun _ => .bind (free_holds password) fun _ => hfail
    simp only [startBlocks, blocksOf, Option.toList_some, List.map_cons, List.map_nil, List.count_append,
      List.count_cons, List.count_nil]
    omega
  · exact started_sound

lemma request_setup_data_call_sound : Triple Sound (rilRequestSetupDataCall data token) fun _ => Sound := by
  have hfail : Triple Sound (failRequest token) fun _ => Sound := complete_request_keeps sound_view _ _ _
  unfold rilRequestSetupDataCall
  split
  · refine .read fun s hs => Triple.weaken (P := Sound) ?_ fun t (ht : t = s) => ht ▸ hs
    refine .ite (fun _ => .read fun t ht => Triple.weaken (P := Sound) ?_ fun u (hu : u = t) => hu ▸ ht)
      fun _ => complete_request_keeps sound_view _ _ _
    refine .ite (fun _ => .pure fun _ h => h) fun _ => ?_
    split
    · exact hfail
    · exact setup_data_call_sound _ _ _
  · exact hfail

lemma request_deactivate_data_call_sound : Triple Sound (rilRequestDeactivateDataCall data token) fun _ => Sound := by
  have hfail : Triple Sound (failRequest token) fun _ => Sound := complete_request_keeps sound_view _ _ _
  unfold rilRequestDeactivateDataCall
  split
  · refine .read fun s hs => Triple.weaken (P := Sound) ?_ fun t (ht : t = s) => ht ▸ hs
    refine .ite (fun _ => .read fun t ht => Triple.weaken (P := Sound) ?_ fun u (hu : u = t) => hu ▸ ht)
      fun _ => .pure fun _ h => h
    refine .ite (fun _ => .pure fun _ h => h) fun _ => ?_
    split
    · exact hfail
    · refine .read fun u hu => ?_
      split
      · exact hfail.weaken fun t (ht : t = u) => ht ▸ hu
      · rename_i c hc
        exact Triple.weaken (.bind (update_keeps _ fun _ => ⟨rfl, rfl⟩) fun _ =>
          .bind (transmit_keeps sound_at_view _ _ _ _ _) fun _ => .ite (fun _ => .pure fun _ h => h.sound)
            fun _ => .bind stop_sound fun _ => hfail) (found_sound hu hc)
  · exact hfail

end

/-! ### The steps -/

/-- The radio is off or not there. -/
def RilData.down (s : RilData) : Prop := s.radioState = .off ∨ s.radioState = .unavailable

structure Released (s : RilData) : Prop where
  sound : Sound s
  down : s.down → s.dataConnections = []

lemma radio_sound {s : RilData} {radioState : RilRadioState} (h : Sound s)
    (hd : radioState = .off ∨ radioState = .unavailable → s.dataConnections = []) :
    Sound (s.radioStateUpdate radioState) := by
  rcases radio_cases s radioState with ⟨he, -⟩ | ⟨-, t, ht, -, ⟨hr, he⟩ | ⟨-, -, he⟩⟩
  · rw [he]
    exact h
  · have hc : t.dataConnections = [] := (congrArg Prod.fst ht).trans (hd hr)
    have hoff : t.radioOff.connView = t.connView := by
      simp only [RilData.radioOff, RilData.dataConnectionFlush, hc]
      rfl
    rw [he]
    exact h.of_view (hoff.trans ht)
  · rw [he]
    exact h.of_view ht

lemma radio_down {s : RilData} {radioState : RilRadioState} (h : (s.radioStateUpdate radioState).down) :
    radioState = .off ∨ radioState = .unavailable := by
  rcases radio_cases s radioState with ⟨he, hs⟩ | ⟨-, t, -, ht, ⟨hr, -⟩ | ⟨-, -, he⟩⟩
  · rw [he, RilData.down, hs] at h
    exact h
  · exact hr
  · rw [he, RilData.down, ht] at h
    exact h

section

variable {s t : RilData} {A : RilData → Op → Prop}

/-- The radio goes down in none of these operations, unless there is no connection. -/
lemma path_down (hp : Path Op.exec A s t)
    (hr : ∀ u r, A u (.radio r) → r = .off ∨ r = .unavailable → s.dataConnections = []) (ht : t.down) :
    s.down ∨ s.dataConnections = [] := by
  suffices h : ∀ u, Path Op.exec A s u → u.down → s.down ∨ s.dataConnections = [] from h t hp ht
  intro u hu
  refine Path.invariant (I := fun u => u.down → s.down ∨ s.dataConnections = []) hu .inl ?_
  intro u op ih hop hd
  by_cases h : ∃ r, op = .radio r
  · obtain ⟨r, rfl⟩ := h
    exact .inr (hr u r hop (radio_down hd))
  · have he := op_radioState (fun r hr => h ⟨r, hr⟩) u
    rw [RilData.down, he] at hd
    exact ih hd

lemma path_sound (hp : Path Op.exec A s t) (hs : Sound s) (hA : ∀ s op, A s op → ∀ cs heap, op ≠ .connections cs heap)
    (hr : ∀ u r, A u (.radio r) → r = .off ∨ r = .unavailable → s.dataConnections = []) : Sound t := by
  have hinv : Sound t ∧ Inherits s t := by
    refine Path.invariant (I := fun u => Sound u ∧ Inherits s u) hp ⟨hs, .refl s⟩ ?_
    rintro u op ⟨hu, hi⟩ hop
    refine ⟨?_, hi.trans (op_inherits (hA u op hop) u)⟩
    by_cases hc : op.connects = true
    · cases op with
      | connections cs heap => exact absurd rfl (hA u _ hop cs heap)
      | radio r => exact radio_sound hu fun h => hi.nil (hr u r hop h)
      | _ => cases hc
    · exact hu.of_view (op_connView (Bool.eq_false_iff.mpr hc) u)
  exact hinv.1

lemma Released.of_down (h : Released s) (ht : Sound t) (hi : Inherits s t)
    (hd : t.down → s.down ∨ s.dataConnections = []) : Released t :=
  ⟨ht, fun h' => hi.nil ((hd h').elim h.down id)⟩

lemma path_released (hp : Path Op.exec A s t) (hs : Released s)
    (hA : ∀ s op, A s op → ∀ cs heap, op ≠ .connections cs heap)
    (hr : ∀ u r, A u (.radio r) → r = .off ∨ r = .unavailable → s.dataConnections = []) : Released t :=
  hs.of_down (path_sound hp hs.sound hA hr) (path_inherits hp hA) (path_down hp hr)

end

/-- Whether the connections are flushed, if the radio state changes. -/
def Daemon.flushes (d : Daemon) : Action → Bool
  | .message _ message => messageOff message
  | .clientError => true
  | .clientReopen closed opened => closed && opened && d.data.fmt.failures == 1
  | .srs _ (.testSetRadioState state) =>
    RilRadioState.ofCode state == .off || RilRadioState.ofCode state == .unavailable
  | _ => false

/-- Nothing is flushed, and nothing is stopped twice. -/
def Daemon.releases (d : Daemon) (a : Action) : Prop :=
  (d.flushes a = true → d.data.dataConnections = []) ∧
    ∀ env message, a = .message env message → AsksAfterStop message (d.data.started env (.received message))

section

variable {s : RilData} (env : Env)

lemma callback_sound (callback : GenPhoneResCallback) (message : IpcMessage) :
    Triple Sound (callback.run message) fun _ => Sound := by
  have hspec {F : Footprint} {m : RilM Rc} (hc : F.connections = false) (ho : F.off = false)
      (h : MessageSpec F message m) : Triple Sound m fun _ => Sound := by
    refine fun s hs => path_sound (h s) hs ?_ ?_
    · rintro u _ hop cs heap rfl
      have hop : F.connections = true := hop
      rw [hc] at hop
      cases hop
    · rintro u r ⟨hu, hoff⟩ (rfl | rfl)
      · rw [ho] at hoff
        cases hoff rfl
      · exact absurd rfl hu
  cases callback with
  | ipcGprsDefinePdpContext => exact define_pdp_context_callback_sound message
  | ipcGprsPdpContext => exact pdp_context_callback_sound message
  | _ => exact hspec rfl rfl (callback_spec message _)

lemma gen_phone_res_sound (message : IpcMessage) : Triple Sound (ipcGenPhoneRes message) fun _ => Sound := by
  have hu : Triple Sound (modify (RilData.expectUnregister message.aseq) : RilM PUnit) fun _ => Sound :=
    .modify fun s hs => hs.of_view rfl
  unfold ipcGenPhoneRes
  split
  · exact .pure fun _ h => h
  · refine .read fun s hs => ?_
    refine Triple.weaken (P := Sound) ?_ fun t (ht : t = s) => ht ▸ hs
    split
    · exact .pure fun _ h => h
    · refine .bind (.ite (fun _ => .pure fun _ h => h) fun _ => ?_) fun _ => .bind hu fun _ => .pure fun _ h => h
      split
      · exact callback_sound _ message
      · exact .ite (fun _ => .bind (complete_reply_keeps sound_view message _ _) fun _ => .pure fun _ h => h)
          fun _ => .pure fun _ h => h

lemma message_sound {message : IpcMessage} (hs : Sound s) (ho : messageOff message = true → s.dataConnections = [])
    (hask : AsksAfterStop message s) : Sound (ipcFmtDispatch message s).2 := by
  rw [ipcFmtDispatch]
  cases h : ipcFmtHandler message.command with
  | none => exact hs
  | some handler =>
    by_cases hF : (messageFootprint message s).connections = true
    · obtain ⟨aseq, command, type, data⟩ := message
      cases command with
      | gprsPs =>
        obtain rfl := Option.some.inj h
        exact gprs_ps_sound _ s hs
      | gprsIpConfiguration =>
        obtain rfl := Option.some.inj h
        exact gprs_ip_configuration_sound _ s hs
      | gprsCallStatus =>
        obtain rfl := Option.some.inj h
        exact gprs_call_status_sound rfl hs hask
      | genPhoneRes =>
        obtain rfl := Option.some.inj h
        exact gen_phone_res_sound _ s hs
      | _ => cases hF
    · refine path_sound (message_handler_spec message h s) hs ?_ ?_
      · rintro u _ hop cs heap rfl
        exact hF hop
      · rintro u r ⟨hu, hoff⟩ (rfl | rfl)
        · exact ho (message_footprint_off (hoff rfl))
        · exact absurd rfl hu

lemma dispatch_released {r : RilRequest} (hr : r ∈ s.requests) (hs : Released s) :
    Released (dispatchRequest env r s) := by
  have hradio (u : RilData) (radioState : RilRadioState) (hop : DispatchOp env r u (.radio radioState)) : False := by
    rcases hop with h | ⟨sent, h⟩ | h | h | ⟨error, response, h, -⟩
    · cases h
    · exact h.elim
    · cases h
    · cases h
    · cases h
  by_cases hF : r.request.footprint.connections = true
  · have hstart : Sound (s.started env (.dispatched r.token)) := hs.sound.of_view rfl
    refine ⟨?_, fun hd => ?_⟩
    · rcases connection_requests hF with h | h
      · have hh : rilRequestHandler r.request = some rilRequestSetupDataCall := by rw [h]; rfl
        exact Sound.of_view (request_setup_data_call_sound _ hstart) (dispatch_connView hh env)
      · have hh : rilRequestHandler r.request = some rilRequestDeactivateDataCall := by rw [h]; rfl
        exact Sound.of_view (request_deactivate_data_call_sound _ hstart) (dispatch_connView hh env)
    · have hdown : s.down := by
        rw [RilData.down, dispatch_radioState env hr] at hd
        exact hd
      have hwait : (s.started env (.dispatched r.token)).radioStateCheck .simReady = false := by
        have he : (s.started env (.dispatched r.token)).radioState = s.radioState := rfl
        rw [RilData.radioStateCheck, he]
        rcases hdown with h | h
        · rw [h]
          rfl
        · rw [h]
          rfl
      have hview : (dispatchRequest env r s).connView = s.connView := by
        rcases connection_requests hF with h | h
        · have hh : rilRequestHandler r.request = some rilRequestSetupDataCall := by rw [h]; rfl
          exact (dispatch_connView hh env).trans (setup_data_call_waits hwait)
        · have hh : rilRequestHandler r.request = some rilRequestDeactivateDataCall := by rw [h]; rfl
          exact (dispatch_connView hh env).trans (deactivate_data_call_waits hwait)
      exact (congrArg Prod.fst hview).trans (hs.down hdown)
  · refine path_released (dispatch_path env hr) hs ?_ fun u radioState hop => (hradio u radioState hop).elim
    rintro u _ hop cs heap rfl
    rcases hop with h | ⟨sent, h⟩ | h | h | ⟨error, response, h, -⟩
    · cases h
    · exact hF h
    · cases h
    · cases h
    · cases h

end

lemma message_released {s : RilData} {env : Env} {message : IpcMessage} (hs : Released s)
    (ho : messageOff message = true → s.dataConnections = [])
    (hask : AsksAfterStop message (s.started env (.received message))) :
    Released (dispatchMessage env message s).2 := by
  have hstart : Sound (s.started env (.received message)) := hs.sound.of_view rfl
  refine hs.of_down (message_sound hstart ho hask) ?_ fun hd => ?_
  · exact (Inherits.of_eq (by rfl) (by rfl)).trans (message_tracks message (s.started env (.received message)))
  · refine path_down (s := s.started env (.received message)) (message_path env message s) ?_ hd
    rintro u r ⟨hu, hoff⟩ (rfl | rfl)
    · exact ho (message_footprint_off (hoff rfl))
    · exact absurd rfl hu

lemma step_radio {d : Daemon} {a : Action} {s : RilData} {r : RilRadioState} (h : StepOp d a s (.radio r))
    (hr : r = .off ∨ r = .unavailable) : d.flushes a = true := by
  cases a with
  | message env message =>
    rcases h with h | ⟨hu, hoff⟩ | h
    · cases h
    · exact message_footprint_off (hoff (hr.resolve_right hu))
    · cases h
  | clientError => rfl
  | clientReopen closed opened =>
    rcases h with ⟨-, hc, ho, hf⟩ | ⟨failures, available, h⟩
    · simp [Daemon.flushes, hc, ho, hf]
    · cases h
  | srs env message =>
    rcases h with h | ⟨command, -, type, data, h⟩ | ⟨state, rfl, h⟩
    · cases h
    · cases h
    · simpa [Daemon.flushes, Op.radio.inj h] using hr
  | loopDispatch env =>
    obtain ⟨request, -, h | ⟨sent, h⟩ | h | h | ⟨error, response, h, -⟩⟩ := h
    · cases h
    · exact h.elim
    · cases h
    · cases h
    · cases h
  | request => cases h.2
  | loopEnd => exact h.elim
  | _ => cases h

lemma released_step {d d' : Daemon} {a : Action} (hr : d.releases a) (h : Released d.data)
    (hd : step d a = some d') : Released d'.data := by
  cases a with
  | loopDispatch env =>
    obtain ⟨-, r, hf, rfl⟩ := step_loop_dispatch.mp hd
    exact dispatch_released env (List.mem_of_find?_eq_some hf) h
  | message env message =>
    have hm : Released (dispatchMessage env message d.data).2 := message_released h hr.1 (hr.2 env message rfl)
    obtain ⟨-, -, ⟨data, he, rfl⟩ | ⟨data, he, rfl⟩⟩ := step_message.mp hd
    · rwa [he] at hm
    · rw [he] at hm
      exact ⟨hm.sound.of_view rfl, hm.down⟩
  | _ =>
    refine path_released (step_path hd) h ?_ ?_
    · rintro s op hop cs heap rfl
      simp [StepOp] at hop
    · exact fun u r hop hdown => hr.1 (step_radio hop hdown)

/-- A connection is flushed by using it after it was stopped, and the walk ends there. -/
lemma flush_head {s : RilData} {c : RilDataConnection} {cs : List RilDataConnection} (h : Sound s)
    (hc : s.dataConnections = c :: cs) :
    s.dataConnectionFlush.heap.faults ≠ [] ∧ s.dataConnectionFlush.dataConnections = cs := by
  have hf : s.dataConnectionFind c.record = some c := by simp [RilData.dataConnectionFind, hc]
  have hstop : (s.dataConnectionStop c.record).dataConnections = cs := by
    rw [RilData.stop_eq hf, hc]
    simp
  have hsound : (s.dataConnectionStop c.record).heap.Owns (ownedBlocks cs) := by
    have hs := h.stop hf
    rwa [Sound, hstop] at hs
  have hnodup : (c.blocks ++ ownedBlocks cs).Nodup := by
    have hn := h.nodup
    rwa [hc] at hn
  have hreleased {b : ℕ} (hb : b ∈ c.blocks) : b ∉ (s.dataConnectionStop c.record).heap.live := fun hl =>
    (List.nodup_append.mp hnodup).2.2 b hb b (hsound.live.mem_iff.mp hl) rfl
  have hnode : c.node ∈ c.blocks := by simp [RilDataConnection.blocks]
  have huse := Heap.use_released (hreleased (record_mem_blocks c))
  have hlive : c.node ∉ ((((s.dataConnectionStop c.record).heapUse c.record).heapFree c.record).heapUse c.node).heap.live := by
    simp only [RilData.heapUse, RilData.heapFree, Heap.use, Heap.free, if_neg (hreleased (record_mem_blocks c)),
      if_neg (hreleased hnode)]
    exact hreleased hnode
  rw [RilData.dataConnectionFlush, hc, RilData.dataConnectionFlushFrom]
  simp only [if_neg hlive]
  refine ⟨Heap.free_faults (Heap.use_faults (Heap.free_faults huse)), ?_⟩
  simpa only [dataConnections_heapFree, dataConnections_heapUse] using hstop

/-- No block is released or used after its release and none is left behind, and no connection is left when the
radio is down. A flush does so only of an empty list. -/
theorem release_once {d : Daemon} (hd : Reaches step Daemon.releases {} d) :
    (d.data.heap.faults = [] ∧
      d.data.heap.live.Perm (ownedBlocks d.data.dataConnections) ∧ (ownedBlocks d.data.dataConnections).Nodup ∧
      (d.data.radioState = .off ∨ d.data.radioState = .unavailable → d.data.dataConnections = [])) ∧
    ∀ s : RilData, s.heap.Owns (ownedBlocks s.dataConnections) →
      ((s.dataConnectionFlush.heap.faults = [] ∧ s.dataConnectionFlush.dataConnections = []) ↔
        s.dataConnections = []) := by
  refine ⟨?_, fun s hs => ⟨fun h => ?_, fun h => ?_⟩⟩
  · have h : Released d.data := hd.invariant ⟨Heap.Owns.init, fun _ => rfl⟩ fun d a d' _ h hr ha => released_step hr h ha
    exact ⟨h.sound.faults, h.sound.live, h.sound.nodup, h.down⟩
  · cases hc : s.dataConnections with
    | nil => rfl
    | cons c cs => exact absurd h.1 (flush_head hs hc).1
  · rw [RilData.dataConnectionFlush, h]
    exact ⟨hs.faults, h⟩

def asksCheck (d : Daemon) : Action → Bool
  | .message env message => message.command != .gprsCallStatus ||
      (d.data.started env (.received message)).clientAccepts ⟨0, .gprsPdpContext, .get, []⟩
  | _ => true

/-- A condition on the steps that is enough and can be decided. -/
def releasesCheck (d : Daemon) (a : Action) : Bool :=
  (!d.flushes a || d.data.dataConnections.isEmpty) && asksCheck d a

lemma releases_of_check {d : Daemon} {a : Action} (h : releasesCheck d a = true) : d.releases a := by
  rw [releasesCheck, Bool.and_eq_true] at h
  refine ⟨fun hf => ?_, fun env message ha data c hm => ?_⟩
  · simpa [hf] using h.1
  · subst ha
    intros
    simpa [hm, asksCheck, AsksConnections] using h.2

/-- A connection is started, enabled, and ended by the network. -/
def endedRun : List Action :=
  simReadyRun ++ setupDataCallRun 1 ++ enabledRun ++ [.message {} (callStatus ipcGprsStatusDisabled)]

theorem release_once_ended : (runFrom {} endedRun).data.heap.live.Perm [] :=
  have hr : runs releasesCheck {} endedRun = true := by decide
  have he : ownedBlocks (runFrom {} endedRun).data.dataConnections = [] := by decide
  he ▸ (release_once (reaches_runFrom hr fun _ _ => releases_of_check)).1.2.1

/-- The radio goes off with two connections; the network ends a connection and the message that asks for the
connections is not sent. -/
theorem release_once_fails :
    (∃ d, Reachable d ∧ d.data.radioState = .off ∧ .useAfterFree 2 ∈ d.data.heap.faults ∧
      .doubleFree 2 ∈ d.data.heap.faults ∧ d.data.dataConnections ≠ []) ∧
    ∃ d, Reachable d ∧ .useAfterFree 2 ∈ d.data.heap.faults := by
  constructor
  · refine ⟨runFrom {} (simReadyRun ++ setupDataCallRun 1 ++ .cancel 1 :: setupDataCallRun 2 ++
      [.message {} ⟨0x00, .pwrPhonePwrUp, .noti, []⟩]), reachable_runFrom (by decide), ?_⟩
    decide
  · refine ⟨runFrom {} (simReadyRun ++ setupDataCallRun 1 ++ enabledRun ++
      [.message { clientSend := fun _ => false } (callStatus ipcGprsStatusDisabled)]),
      reachable_runFrom (by decide), ?_⟩
    decide

end Ril.Samsung
