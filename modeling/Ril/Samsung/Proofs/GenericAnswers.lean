import Ril.Lib.Extends
import Ril.Samsung.Proofs.Calm

/-! Which expectation a generic answer takes, and what is left of the list of expectations. -/

namespace Ril.Samsung

open Ril.Ipc Ril.Lib

namespace RilData

/-- The same data with other expectations -/
def withExpects (expects : List IpcGenPhoneResExpect) (s : RilData) : RilData :=
  s.modifyFmt fun d => { d with genPhoneResExpect := expects }

lemma modifyFmt_comm {f g : IpcFmtData → IpcFmtData} (h : ∀ d, f (g d) = g (f d)) (s : RilData) :
    (s.modifyFmt g).modifyFmt f = (s.modifyFmt f).modifyFmt g := by
  simp [modifyFmt, Function.comp_def, h]

section

variable (s : RilData) (expects : List IpcGenPhoneResExpect)

lemma withExpects_fmtExpects (h : s.fmt.data.isSome = true) : (s.withExpects expects).fmtExpects = expects := by
  obtain ⟨d, hd⟩ := Option.isSome_iff_exists.mp h
  simp [withExpects, fmtExpects, modifyFmt, hd]

lemma withExpects_self : s.withExpects s.fmtExpects = s := by
  have h : s.fmt.data.map (fun d => { d with genPhoneResExpect := s.fmtExpects }) = s.fmt.data := by
    cases hd : s.fmt.data with
    | none => rfl
    | some d => simp [fmtExpects, hd]
  rw [withExpects, modifyFmt, h]

@[simp] lemma withExpects_fmtRequests : (s.withExpects expects).fmtRequests = s.fmtRequests := by
  cases hd : s.fmt.data with
  | none => simp [withExpects, fmtRequests, modifyFmt, hd]
  | some d => simp [withExpects, fmtRequests, modifyFmt, hd]

@[simp] lemma withExpects_ipcFmtRequestToken (seq : UInt8) :
    (s.withExpects expects).ipcFmtRequestToken seq = s.ipcFmtRequestToken seq := by
  simp [ipcFmtRequestToken, fmtRequestFindSeq]

@[simp] lemma withExpects_requestFindToken (token : RilToken) :
    (s.withExpects expects).requestFindToken token = s.requestFindToken token := rfl

@[simp] lemma withExpects_dataConnectionFindToken (token : RilToken) :
    (s.withExpects expects).dataConnectionFindToken token = s.dataConnectionFindToken token := rfl

lemma withExpects_clientAccepts (request : IpcRequest) :
    (s.withExpects expects).clientAccepts request = s.clientAccepts request := by
  simp [withExpects, clientAccepts, modifyFmt]

lemma requestUnregister_withExpects (token : RilToken) :
    (s.withExpects expects).requestUnregister token = (s.requestUnregister token).withExpects expects := by
  rw [requestUnregister, withExpects_requestFindToken, requestUnregister]
  split
  · rfl
  · have h := fun r => modifyFmt_comm (f := fun d => { d with requests := d.requests.eraseP r })
      (g := fun d => { d with genPhoneResExpect := expects }) (fun _ => rfl) s
    simp only [ipcFmtRequestUnregister, withExpects, h]
    rfl

lemma requestComplete_withExpects (token : RilToken) (error : RilErrno) (response : RilResponse) :
    (s.withExpects expects).requestComplete token error response =
      (s.requestComplete token error response).withExpects expects := by
  rw [requestComplete, requestComplete]
  split
  · rfl
  · rw [requestUnregister_withExpects]
    rfl

lemma requestDataSet_withExpects (request : RilRequestCode) (value : RilRequestDataValue) :
    (s.withExpects expects).requestDataSet request value = (s.requestDataSet request value).withExpects expects := by
  rw [requestDataSet, requestDataSet]
  split
  · rfl
  · rfl

lemma freeString_withExpects (string : Option HeapString) :
    (s.withExpects expects).freeString string = (s.freeString string).withExpects expects := by
  cases string <;> rfl

lemma dataConnectionUnregister_withExpects (record : ℕ) :
    (s.withExpects expects).dataConnectionUnregister record =
      (s.dataConnectionUnregister record).withExpects expects := by
  have h : (s.withExpects expects).dataConnectionFind record = s.dataConnectionFind record := rfl
  rw [dataConnectionUnregister, h, dataConnectionUnregister]
  split
  · rfl
  · rfl

lemma dataConnectionStop_withExpects (record : ℕ) :
    (s.withExpects expects).dataConnectionStop record = (s.dataConnectionStop record).withExpects expects := by
  have hu : (s.withExpects expects).heapUse record = (s.heapUse record).withExpects expects := rfl
  have hf : ((s.heapUse record).withExpects expects).dataConnectionFind record =
      (s.heapUse record).dataConnectionFind record := rfl
  simp only [dataConnectionStop, hu, hf]
  split
  · exact dataConnectionUnregister_withExpects _ _ _
  · simp only [freeString_withExpects, dataConnectionUnregister_withExpects]

end

end RilData

/-! ### The callbacks -/

/-- A program that registers expectations and does not look at those that are registered -/
abbrev Registers {α : Type} (m : RilM α) : Prop := AppendOnly RilData.withExpects m

namespace Registers

variable {message : IpcMessage}

lemma complete (token : RilToken) (error : RilErrno) (response : RilResponse) :
    Registers (rilRequestComplete token error response) :=
  .modify fun s l => s.requestComplete_withExpects l token error response

lemma completeReply (message : IpcMessage) (error : RilErrno) (response : RilResponse) :
    Registers (completeReply message error response) := by
  refine .of_silent fun s l => Prod.ext rfl ?_
  simp only [Samsung.completeReply, ipcFmtRequestToken, bind_apply, get_apply, pure_apply, rilRequestComplete,
    modify_apply, RilData.withExpects_ipcFmtRequestToken, RilData.requestComplete_withExpects]

lemma unsolicited (request : RilUnsol) (response : RilResponse) : Registers (rilRequestUnsolicited request response) :=
  .modify fun _ _ => rfl

lemma dataFree (request : RilRequestCode) : Registers (rilRequestDataFree request) := .modify fun _ _ => rfl

lemma dataSet (request : RilRequestCode) (value : RilRequestDataValue) :
    Registers (rilRequestDataSet request value) := .modify fun s l => s.requestDataSet_withExpects l request value

lemma dataSetUniq (request : RilRequestCode) (value : RilRequestDataValue) :
    Registers (rilRequestDataSetUniq request value) :=
  .modify fun s l => (s.requestDataFree request).requestDataSet_withExpects l request value

lemma dataGet (request : RilRequestCode) : Registers (rilRequestDataGet request) := .of_silent fun _ _ => rfl

lemma connectionStop (record : ℕ) : Registers (rilDataConnectionStop record) :=
  .modify fun s l => s.dataConnectionStop_withExpects l record

/-- The expectation is registered unless the data of the client is gone. -/
lemma expectSend (expect : Option ExpectKind) (mseq : UInt8) (command : IpcCommand) (type : IpcRequestType)
    (data : Bytes) : Registers (expectSend expect mseq command type data) := by
  intro s
  refine ⟨(expect.map (·.entry mseq command)).toList, fun list => ?_⟩
  rw [RilData.expectSend_apply, RilData.expectSend_apply, RilData.withExpects_clientAccepts]
  cases hd : s.fmt.data with
  | none =>
    cases expect with
    | none => simp [RilData.withExpects, RilData.modifyFmt, hd, RilData.expected, RilData.log]
    | some kind => simp [RilData.withExpects, RilData.modifyFmt, hd]
  | some d =>
    cases expect with
    | none => simp [RilData.withExpects, RilData.modifyFmt, hd, RilData.expected, RilData.log]
    | some kind =>
      simp [RilData.withExpects, RilData.modifyFmt, hd, RilData.expected, RilData.log, RilData.expectRegister]

lemma reply (aseq : UInt8) (expect : Option ExpectKind) (command : IpcCommand) (type : IpcRequestType)
    (data : Bytes) : Registers (transmit (.reply aseq) expect command type data) :=
  .bind (.pure aseq) fun _ => expectSend expect _ command type data

lemma stale (token : RilToken) : Registers (log (.staleRequest token)) := .modify fun _ _ => rfl

/-! ### The callbacks -/

variable (message : IpcMessage)

lemma replied (error : RilErrno) (response : RilResponse) : Registers (do
    Samsung.completeReply message error response
    return Rc.ok) :=
  .bind (completeReply message error response) fun _ => .pure _

lemma pinStatusCallback : Registers (ipcSecPinStatusCallback message) := by
  rw [ipcSecPinStatusCallback]
  split
  · exact .pure _
  · exact .ite (fun _ => .bind (dataFree _) fun _ => .pure _) fun _ => .bind (unsolicited _ _) fun _ => .pure _

lemma retryCount (request : RilRequest) (type : UInt8) : Registers (ipcSecCallbackRetryCount message request type) :=
  .bind (dataSetUniq _ _) fun _ => .bind (reply _ _ _ _ _) fun _ =>
    .ite (fun _ => .bind (dataFree _) fun _ => complete _ _ _) fun _ => .pure _

lemma setFacilityLock (data : IpcGenPhoneResData) (request : RilRequest) :
    Registers (ipcSecCallbackSetFacilityLock message data request) := by
  refine .bind (dataGet _) fun stored => ?_
  split
  · exact .bind (reply _ _ _ _ _) fun _ => .ite (fun _ => complete _ _ _) fun _ => .pure _
  · exact retryCount message request _

lemma simIo (data : IpcGenPhoneResData) (request : RilRequest) :
    Registers (ipcSecCallbackSimIo message data request) := by
  refine .bind (dataGet _) fun stored => .ite (fun _ => complete _ _ _) fun _ => ?_
  split
  · exact .bind (reply _ _ _ _ _) fun _ => .ite (fun _ => complete _ _ _) fun _ => .pure _
  · exact complete _ _ _

lemma other (data : IpcGenPhoneResData) (request : RilRequest) :
    Registers (ipcSecCallbackOther message data request) :=
  .bind (completeReply message _ _) fun _ => .read (fun _ _ => rfl) fun _ =>
    .ite (fun _ => stale _) fun _ => .ite (fun _ => unsolicited _ _) fun _ => .pure _

lemma secCallback : Registers (ipcSecCallback message) := by
  rw [ipcSecCallback]
  split
  · exact .pure _
  · refine .read (fun s l => ?_) fun s => ?_
    · simp only [RilData.withExpects_ipcFmtRequestToken, RilData.withExpects_requestFindToken]
    · split
      · exact .pure _
      · split
        · exact .bind (retryCount _ _ _) fun _ => .pure _
        · exact .bind (retryCount _ _ _) fun _ => .pure _
        · exact .bind (retryCount _ _ _) fun _ => .pure _
        · exact .bind (retryCount _ _ _) fun _ => .pure _
        · exact .bind (setFacilityLock _ _ _) fun _ => .pure _
        · exact .bind (simIo _ _ _) fun _ => .pure _
        · exact .bind (other _ _ _) fun _ => .pure _

lemma dtmfStart : Registers (ipcCallContDtmfCallbackStart message) := by
  refine .bind (dataGet _) fun stored => ?_
  split
  · exact .bind (dataSet _ _) fun _ => .bind (expectSend _ _ _ _ _) fun _ =>
      .ite (fun _ => .pure _) fun _ => .bind (dataFree _) fun _ => .pure _
  · exact .pure _

lemma dtmfBurst : Registers (ipcCallContDtmfCallbackBurst message) := by
  refine .bind (dataGet _) fun stored => ?_
  split
  · exact expectSend _ _ _ _ _
  · exact .pure _

lemma dtmfCallback : Registers (ipcCallContDtmfCallback message) := by
  rw [ipcCallContDtmfCallback]
  split
  · exact .pure _
  · refine .ite (fun _ => replied _ _ _) fun _ => .bind (dtmfStart message) fun _ => ?_
    refine .ite (fun _ => replied _ _ _) fun _ => .bind (dtmfBurst message) fun _ => ?_
    exact .ite (fun _ => replied _ _ _) fun _ => .pure _

lemma plmnSelCallback : Registers (ipcNetPlmnSelCallback message) := by
  rw [ipcNetPlmnSelCallback]
  split
  · exact .pure _
  · exact .ite (fun _ => replied _ _ _) fun _ => .ite (fun _ => replied _ _ _) fun _ => replied _ _ _

lemma completeStopped (c : RilDataConnection) : Registers (do
    Samsung.completeStopped message c
    return Rc.ok) :=
  .bind (.bind (connectionStop _) fun _ => completeReply _ _ _) fun _ => .pure _

lemma definePdpContextCallback : Registers (ipcGprsDefinePdpContextCallback message) := by
  rw [ipcGprsDefinePdpContextCallback]
  split
  · exact .pure _
  · refine .read (fun s l => ?_) fun s => ?_
    · simp only [RilData.withExpects_ipcFmtRequestToken, RilData.withExpects_dataConnectionFindToken]
    · split
      · exact replied _ _ _
      · exact .ite (fun _ => .bind (reply _ _ _ _ _) fun _ => .ite (fun _ => completeStopped message _)
          fun _ => .pure _) fun _ => completeStopped message _

lemma pdpContextCallback : Registers (ipcGprsPdpContextCallback message) := by
  rw [ipcGprsPdpContextCallback]
  split
  · exact .pure _
  · refine .read (fun s l => ?_) fun s => ?_
    · simp only [RilData.withExpects_ipcFmtRequestToken, RilData.withExpects_dataConnectionFindToken]
    · split
      · exact replied _ _ _
      · exact .ite (fun _ => completeStopped message _) fun _ => .pure _

lemma run (callback : GenPhoneResCallback) : Registers (callback.run message) := by
  cases callback with
  | ipcSecPinStatus => exact pinStatusCallback message
  | ipcSec => exact secCallback message
  | ipcCallContDtmf => exact dtmfCallback message
  | ipcNetPlmnSel => exact plmnSelCallback message
  | ipcGprsDefinePdpContext => exact definePdpContextCallback message
  | ipcGprsPdpContext => exact pdpContextCallback message

lemma expected (data : IpcGenPhoneResData) (expect : IpcGenPhoneResExpect) :
    Registers (genPhoneResExpected message data expect) := by
  rw [genPhoneResExpected]
  refine .ite (fun _ => .pure _) fun _ => ?_
  split
  · exact run message _
  · exact .ite (fun _ => replied _ _ _) fun _ => .pure _

end Registers

/-! ### The list afterwards -/

section

variable {message : IpcMessage} {data : IpcGenPhoneResData} {older newer : List IpcGenPhoneResExpect}
  {e : IpcGenPhoneResExpect} {s : RilData}

lemma expected_data (message : IpcMessage) (data : IpcGenPhoneResData) (e : IpcGenPhoneResExpect) (s : RilData) :
    (genPhoneResExpected message data e s).2.fmt.data.isSome = s.fmt.data.isSome := by
  have hspec : MessageSpec ((e.callback.map (·.footprint)).getD { replies := true }) message
      (genPhoneResExpected message data e) :=
    gen_phone_res_expected_spec message data (fun callback hc => by rw [hc]; rfl) fun hc => by rw [hc]; rfl
  exact Path.frame (f := fun s : RilData => s.fmt.data.isSome) (hspec s) fun u op h => Calm.op_data h.calm u

lemma find_oldest {α : Type} {p : α → Bool} {older newer : List α} {a : α} (ha : p a = true)
    (ho : ∀ o ∈ older, p o = false) : (older ++ a :: newer).find? p = some a ∧
      ∀ more, ((older ++ a :: newer) ++ more).eraseP p = older ++ newer ++ more := by
  have ho' : ∀ o ∈ older, ¬p o = true := fun o h => by simp [ho o h]
  constructor
  · rw [List.find?_append, List.find?_eq_none.mpr ho', Option.none_or, List.find?_cons_of_pos ha]
  · intro more
    rw [List.append_assoc, List.eraseP_append_right _ ho', List.cons_append, List.eraseP_cons_of_pos ha,
      List.append_assoc]

lemma gen_phone_res_eq (hd : IpcGenPhoneResData.read message.data = some data)
    (hf : s.expectFindAseq message.aseq = some e) : ipcGenPhoneRes message s =
      ((genPhoneResExpected message data e s).1,
        (genPhoneResExpected message data e s).2.expectUnregister message.aseq) := by
  simp only [ipcGenPhoneRes, hd, bind_apply, get_apply, hf, pure_apply, modify_apply]

lemma unregister_eq (expects : List IpcGenPhoneResExpect) (aseq : UInt8) :
    (s.withExpects expects).expectUnregister aseq = s.withExpects (expects.eraseP (·.aseq == aseq)) := by
  simp [RilData.expectUnregister, RilData.withExpects, RilData.modifyFmt, Function.comp_def]

/-- A generic answer takes the oldest expectation of its aseq and no other: what it does, and what its callback
registers, do not depend on the rest of the list. Afterwards that expectation is gone, and what the callback has
registered is at the end; this is also what the release of the block that was found leaves. -/
theorem gen_phone_res_bookkeeping (message : IpcMessage) (data : IpcGenPhoneResData) (s : RilData)
    (older newer : List IpcGenPhoneResExpect) (e : IpcGenPhoneResExpect)
    (hd : IpcGenPhoneResData.read message.data = some data) (hs : s.fmtExpects = older ++ e :: newer)
    (he : e.aseq = message.aseq) (ho : ∀ o ∈ older, o.aseq ≠ message.aseq) :
    ∃ registered,
      (genPhoneResExpected message data e s).2.fmtExpects = s.fmtExpects ++ registered ∧
      (ipcGenPhoneRes message s).1 = (genPhoneResExpected message data e s).1 ∧
      (ipcGenPhoneRes message s).2.fmtExpects = older ++ newer ++ registered ∧
      (∀ older' newer', (∀ o ∈ older', o.aseq ≠ message.aseq) →
        ipcGenPhoneRes message (s.withExpects (older' ++ e :: newer')) =
          ((genPhoneResExpected message data e s).1,
            (genPhoneResExpected message data e s).2.withExpects (older' ++ newer' ++ registered))) ∧
      ∀ nodes more : List (Node IpcGenPhoneResExpect), nodes.map (·.data) = s.fmtExpects →
        more.map (·.data) = registered → ((nodes ++ more).map (·.address)).Nodup →
        ∃ node, nodes.find? (·.data.aseq == message.aseq) = some node ∧ node.data = e ∧
          (releaseNode node.address (nodes ++ more)).map (·.data) = older ++ newer ++ registered := by
  have hsome : s.fmt.data.isSome = true := data_of_expect (e := e) (by simp [hs])
  have hp : (e.aseq == message.aseq) = true := beq_iff_eq.mpr he
  have hnot {l : List IpcGenPhoneResExpect} (h : ∀ o ∈ l, o.aseq ≠ message.aseq) :
      ∀ o ∈ l, (o.aseq == message.aseq) = false := fun o hm => beq_eq_false_iff_ne.mpr (h o hm)
  obtain ⟨registered, hr⟩ := Registers.expected message data e s
  have hother (older' newer' : List IpcGenPhoneResExpect) (ho' : ∀ o ∈ older', o.aseq ≠ message.aseq) :
      ipcGenPhoneRes message (s.withExpects (older' ++ e :: newer')) =
        ((genPhoneResExpected message data e s).1,
          (genPhoneResExpected message data e s).2.withExpects (older' ++ newer' ++ registered)) := by
    have hf := @find_oldest _ (fun o : IpcGenPhoneResExpect => o.aseq == message.aseq) older' newer' e hp (hnot ho')
    rw [gen_phone_res_eq hd, hr, unregister_eq, hf.2]
    rw [RilData.expectFindAseq, RilData.withExpects_fmtExpects _ _ hsome]
    exact hf.1
  have hself : s.withExpects (older ++ e :: newer) = s := by rw [← hs, RilData.withExpects_self]
  have hrun := hr (older ++ e :: newer)
  have hthis := hother older newer ho
  rw [hself] at hrun hthis
  have hdata : (genPhoneResExpected message data e s).2.fmt.data.isSome = true :=
    (expected_data message data e s).trans hsome
  refine ⟨registered, ?_, ?_, ?_, hother, ?_⟩
  · rw [congrArg Prod.snd hrun, RilData.withExpects_fmtExpects _ _ hdata, hs]
  · rw [hthis]
  · rw [hthis, RilData.withExpects_fmtExpects _ _ hdata]
  · intro nodes more hnodes hmore hnodup
    obtain ⟨first, rest, rfl, hfirst, hrest⟩ := List.map_eq_append_iff.mp (hnodes.trans hs)
    obtain ⟨node, last, rfl, hnode, hlast⟩ := List.map_eq_cons_iff.mp hrest
    have hfound := (@find_oldest _ (fun n : Node IpcGenPhoneResExpect => n.data.aseq == message.aseq) first last node
      (by rw [hnode]; exact hp) fun n hn => hnot ho n.data (hfirst ▸ List.mem_map_of_mem hn)).1
    refine ⟨node, hfound, hnode, ?_⟩
    rw [release_found rfl hnodup, List.map_append, List.map_append, hfirst, hlast, hmore]

/-- The answer to the stop of a tone -/
def toneStopped : IpcMessage := ⟨1, .genPhoneRes, .resp, [0x02, 0x08, 0x03, 0x00, 0x80]⟩

/-- A tone waits for the stop of the one before it, whose answer comes after that of another request. -/
def toneWaits : RilData :=
  { fmt := { data := some { genPhoneResExpect :=
      [⟨2, .secPinStatus, none, true, false⟩, ⟨1, .callContDtmf, some .ipcCallContDtmf, false, false⟩] } }
    requestsData := [(.dtmfStart, .bytes [0x31, 0x00])] }

/-- The start of the waiting tone is expected under the same aseq afterwards. -/
theorem gen_phone_res_bookkeeping_tone : ∃ registered, registered.length = 1 ∧
    (ipcGenPhoneRes toneStopped toneWaits).2.fmtExpects = [⟨2, .secPinStatus, none, true, false⟩] ++ registered := by
  obtain ⟨registered, hcallback, -, hlist, -⟩ := gen_phone_res_bookkeeping toneStopped ⟨0x02, 0x08, 0x03, 0x8000⟩
    toneWaits [⟨2, .secPinStatus, none, true, false⟩] [] ⟨1, .callContDtmf, some .ipcCallContDtmf, false, false⟩
    (by decide) rfl rfl (by decide)
  refine ⟨registered, ?_, hlist⟩
  have hlength := congrArg List.length hcallback
  have hthree : (genPhoneResExpected toneStopped ⟨0x02, 0x08, 0x03, 0x8000⟩
      ⟨1, .callContDtmf, some .ipcCallContDtmf, false, false⟩ toneWaits).2.fmtExpects.length = 3 := by decide
  have htwo : toneWaits.fmtExpects.length = 2 := rfl
  rw [hthree, List.length_append, htwo] at hlength
  omega

/-- A message that is shorter than an answer is refused before the list is looked at. -/
theorem gen_phone_res_bookkeeping_short :
    (toneWaits.expectFindAseq 1).isSome = true ∧
      ipcGenPhoneRes { toneStopped with data := [0x02, 0x08] } toneWaits = (.failed, toneWaits) :=
  ⟨by decide, rfl⟩

end

end Ril.Samsung
