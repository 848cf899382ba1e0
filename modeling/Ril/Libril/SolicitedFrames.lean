import Ril.Libril.RequestComplete

/-! Which frame a request is answered with. -/

namespace Ril.Libril

open Lib Ril.Ipc

variable {env : MarshalEnv} {response responselen size : ℕ} {socket : CommandSocket} {data : Bytes} {rounds : ℕ}

/-! ### The marshallers that fail -/

/-- Nothing is written before an error. -/
def Marshalled.Clean (m : Marshalled) : Prop := m.ret ≠ 0 → m.writes = []

lemma invalid_response_clean : invalidResponse.Clean := fun _ => rfl

lemma accepted_clean (writes : List ParcelWrite) : Marshalled.Clean ⟨writes, 0⟩ := fun h => absurd rfl h

lemma Marshalled.Clean.ite {p : Prop} [Decidable p] {m m' : Marshalled} (h : m.Clean) (h' : m'.Clean) :
    (if p then m else m').Clean := by
  split
  · exact h
  · exact h'

lemma checked_array_clean (size : ℕ) (writes : List ParcelWrite) :
    (checkedArray response responselen size writes).Clean :=
  .ite invalid_response_clean (.ite invalid_response_clean (accepted_clean writes))

lemma response_array_clean (size : ℕ) (element : ℕ → List ParcelWrite) :
    (responseArray response responselen size element).Clean :=
  checked_array_clean size _

lemma response_struct_clean (layout : List CType) (is : List ℕ) :
    (responseStruct env response responselen layout is).Clean :=
  .ite invalid_response_clean (.ite invalid_response_clean (accepted_clean _))

lemma response_data_call_list_clean : (responseDataCallList env response responselen).Clean :=
  .ite (checked_array_clean _ _)
    (.ite invalid_response_clean (.ite (checked_array_clean _ _) (checked_array_clean _ _)))

/-- The version that is written before the strings are tested -/
def HalfMarshalled (env : MarshalEnv) (responseFunction : ResponseFunction) (responselen : ℕ) : Prop :=
  responseFunction = .responseSetupDataCall ∧ env.version.toInt < 5 ∧ responselen % env.width.bytes ≠ 0

lemma half_marshalled {responseFunction : ResponseFunction} (h : HalfMarshalled env responseFunction responselen) :
    responseFunction.marshal env response responselen = ⟨[.int32 env.version], rilErrnoInvalidResponse⟩ := by
  obtain ⟨rfl, hversion, hlength⟩ := h
  rw [ResponseFunction.marshal, responseSetupDataCall, if_pos hversion, responseStringsWithVersion, responseStrings,
    responseArray, checkedArray, if_pos hlength, ite_self]
  rfl

lemma setup_data_call_clean (hresponse : response ≠ 0)
    (h : ¬HalfMarshalled env .responseSetupDataCall responselen) :
    (responseSetupDataCall env response responselen).Clean := by
  rw [responseSetupDataCall]
  split
  · rename_i hversion
    have hlength : ¬responselen % env.width.bytes ≠ 0 := fun hlength => h ⟨rfl, hversion, hlength⟩
    rw [responseStringsWithVersion, responseStrings, responseArray, checkedArray, if_neg fun h => hresponse h.1,
      if_neg hlength]
    exact accepted_clean _
  · exact response_data_call_list_clean

lemma marshal_clean (responseFunction : ResponseFunction) (hresponse : response ≠ 0)
    (h : ¬HalfMarshalled env responseFunction responselen) :
    (responseFunction.marshal env response responselen).Clean := by
  cases responseFunction with
  | responseSimStatus =>
    exact .ite invalid_response_clean (.ite (accepted_clean _) (.ite (accepted_clean _) invalid_response_clean))
  | responseInts => exact response_array_clean _ _
  | responseCallList => exact response_array_clean _ _
  | responseVoid => exact accepted_clean _
  | responseString => exact accepted_clean _
  | responseRilSignalStrength =>
    exact .ite invalid_response_clean (.ite invalid_response_clean (.ite (accepted_clean _) (accepted_clean _)))
  | responseStrings => exact response_array_clean _ _
  | responseSms => exact response_struct_clean _ _
  | responseSetupDataCall => exact setup_data_call_clean hresponse h
  | responseSimIo => exact response_struct_clean _ _
  | responseCallForwards => exact response_array_clean _ _
  | responseDataCallList => exact response_data_call_list_clean
  | responseRaw => exact .ite invalid_response_clean (.ite (accepted_clean _) (accepted_clean _))
  | responseCellList => exact response_array_clean _ _
  | responseGsmBrSmsCnf => exact accepted_clean _
  | responseCdmaBrSmsCnf => exact accepted_clean _
  | responseCellInfoList => exact response_array_clean _ _
  | responseHardwareConfig => exact response_array_clean _ _
  | responseDcRtInfo => exact .ite invalid_response_clean (accepted_clean _)

/-! ### The writes -/

lemma blocking_write_all (h : data.length ≤ rounds) :
    (blockingWrite rounds data socket).written = socket.written ++ data := by
  induction rounds generalizing data socket with
  | zero =>
    rw [blockingWrite, List.length_eq_zero_iff.mp (Nat.le_zero.mp h), List.append_nil]
  | succ rounds ih =>
    rw [blockingWrite]
    split
    · rename_i hempty
      rw [List.length_eq_zero_iff.mp hempty, List.append_nil]
    · rename_i hmore
      dsimp only [CommandSocket.write]
      rw [ih (by rw [List.length_drop]; omega)]
      dsimp only
      rw [List.append_assoc, List.take_append_drop]

lemma write_all_at_end (data : Bytes) (writes : List ParcelWrite) : writeAll ⟨data, data.length⟩ writes =
    ⟨data ++ (writes.map ParcelWrite.bytes).flatten, (data ++ (writes.map ParcelWrite.bytes).flatten).length⟩ :=
  CursorBuffer.foldl_write_at_end data _

lemma send_response_raw_written (socket : CommandSocket) (hsize : data.length ≤ maxCommandBytes) :
    ∃ socket', sendResponseRaw data (some socket) = some socket' ∧ socket'.written = socket.written ++ frameOf data := by
  rw [sendResponseRaw, Option.map_some, if_neg (Nat.not_lt.mpr hsize)]
  refine ⟨_, rfl, ?_⟩
  rw [blocking_write_all (Nat.le_refl _), blocking_write_all, frameOf, List.append_assoc]
  rw [frameHeader, List.length_reverse, number_bytes_length]

/-! ### The frame -/

def solicitedHead (token : Int32) : Bytes := int32Bytes responseSolicited ++ int32Bytes token

/-- What a request with this serial is answered with -/
def solicitedContent (token e : Int32) (marshalled : Option Marshalled) : Bytes :=
  solicitedHead token ++
    marshalled.elim (int32Bytes e) fun m => if m.ret = 0 then int32Bytes e ++ m.bytes else int32Bytes m.ret

/-- One frame was written to the socket, and nothing to another one. -/
structure FrameSent (d d' : RildOutput) (socketId : RilSocketId) (frame : Bytes) : Prop where
  written : ∃ socket socket', d.sockets socketId = some socket ∧ d'.sockets socketId = some socket' ∧
    socket'.written = socket.written ++ frame
  others : ∀ other, other ≠ socketId → d'.sockets other = d.sockets other

variable {d : RildOutput} {content : Bytes}

lemma frame_header_length (n : ℕ) : (frameHeader n).length = 4 := by
  rw [frameHeader, List.length_reverse, number_bytes_length]

lemma frame_of_inj (h : frameOf data = frameOf content) : data = content :=
  List.append_inj_right h (by rw [frame_header_length, frame_header_length])

lemma frame_sent_iff (request : ℕ) {socketId : RilSocketId} (hopen : d.sockets socketId = some socket) :
    FrameSent d { d.checkAndDequeue request with
        sockets := Function.update d.sockets socketId (sendResponseRaw data (d.sockets socketId)) } socketId
      (frameOf content) ↔ data.length ≤ maxCommandBytes ∧ data = content := by
  rw [hopen]
  constructor
  · intro h
    obtain ⟨before, after, hbefore, hafter, hwritten⟩ := h.written
    dsimp only at hafter
    rw [Function.update_self] at hafter
    obtain rfl := Option.some.inj (hopen.symm.trans hbefore)
    by_cases hsize : data.length ≤ maxCommandBytes
    · obtain ⟨socket', hsent, hdata⟩ := send_response_raw_written socket hsize
      obtain rfl := Option.some.inj (hsent.symm.trans hafter)
      exact ⟨hsize, frame_of_inj (List.append_cancel_left (hdata.symm.trans hwritten))⟩
    · rw [sendResponseRaw, Option.map_some, if_pos (Nat.not_le.mp hsize)] at hafter
      obtain rfl := Option.some.inj hafter
      have hlength := congrArg List.length hwritten
      rw [List.length_append, frameOf, List.length_append, frame_header_length] at hlength
      omega
  · rintro ⟨hsize, rfl⟩
    obtain ⟨socket', hsent, hdata⟩ := send_response_raw_written socket hsize
    refine ⟨⟨socket, socket', hopen, ?_, hdata⟩, fun other hother => ?_⟩
    · dsimp only
      rw [Function.update_self, hsent]
    · dsimp only
      rw [Function.update_of_ne hother]

/-- After an error the error code stands in the place of the other one, and what was written is still behind it. -/
lemma marshalled_parcel_data (head : Bytes) (e : Int32) (m : Marshalled) :
    (let p := writeAll ⟨head ++ int32Bytes e, (head ++ int32Bytes e).length⟩ m.writes
      if m.ret ≠ 0 then writeAll (p.setPosition head.length) [.int32 m.ret] else p).data =
      head ++ int32Bytes (if m.ret = 0 then e else m.ret) ++ m.bytes := by
  dsimp only
  rw [write_all_at_end]
  by_cases hret : m.ret = 0
  · rw [if_neg (not_not.mpr hret), if_pos hret]
    rfl
  · rw [if_pos hret, if_neg hret]
    exact CursorBuffer.write_in_place _ rfl

lemma response_parcel_data (env : MarshalEnv) (info : RequestInfo) (e : Int32) (response responselen : ℕ) :
    (responseParcel env info e response responselen).map CursorBuffer.data =
      if response = 0 then some (solicitedHead info.token ++ int32Bytes e)
      else info.marshaller.map fun responseFunction =>
        let m := responseFunction.marshal env response responselen
        solicitedHead info.token ++ int32Bytes (if m.ret = 0 then e else m.ret) ++ m.bytes := by
  have hhead : writeAll .empty [.int32 responseSolicited, .int32 info.token] =
      ⟨solicitedHead info.token, (solicitedHead info.token).length⟩ := write_all_at_end [] _
  have herror (head : Bytes) : writeAll ⟨head, head.length⟩ [.int32 e] =
      ⟨head ++ int32Bytes e, (head ++ int32Bytes e).length⟩ := by
    rw [write_all_at_end]
    simp only [List.map_cons, List.map_nil, List.flatten_cons, List.flatten_nil, List.append_nil, ParcelWrite.bytes]
  rw [responseParcel, hhead]
  dsimp only
  rw [herror]
  split
  · rfl
  · rw [Option.map_map]
    congr 1
    funext responseFunction
    exact marshalled_parcel_data _ e _

/-- The response is `NULL`, or its function is in the table, writes nothing before an error, and writes no more than
fits in the frame. -/
def Answerable (env : MarshalEnv) (info : RequestInfo) (response responselen : ℕ) : Prop :=
  response = 0 ∨ ∃ responseFunction, info.marshaller = some responseFunction ∧
    ¬HalfMarshalled env responseFunction responselen ∧
    ((responseFunction.marshal env response responselen).ret = 0 →
      (responseFunction.marshal env response responselen).bytes.length ≤ maxCommandBytes - 12)

lemma solicited_data_iff {responseFunction : ResponseFunction} (hresponse : response ≠ 0) (token e : Int32)
    {m : Marshalled} (hm : responseFunction.marshal env response responselen = m) :
    (solicitedHead token ++ int32Bytes (if m.ret = 0 then e else m.ret) ++ m.bytes).length ≤ maxCommandBytes ∧
      solicitedHead token ++ int32Bytes (if m.ret = 0 then e else m.ret) ++ m.bytes =
        solicitedContent token e (some m) ↔
    ¬HalfMarshalled env responseFunction responselen ∧ (m.ret = 0 → m.bytes.length ≤ maxCommandBytes - 12) := by
  have hmax : maxCommandBytes = 8192 := rfl
  have hint (v : Int32) : (int32Bytes v).length = 4 := number_bytes_length 4 _
  have hhead : (solicitedHead token).length = 8 := by rw [solicitedHead, List.length_append, hint, hint]
  rw [solicitedContent, Option.elim_some, List.length_append, List.length_append, hhead, hint]
  by_cases hhalf : HalfMarshalled env responseFunction responselen
  · have hret : m.ret ≠ 0 := by
      rw [← hm, half_marshalled hhalf]
      exact (by decide : rilErrnoInvalidResponse ≠ 0)
    have hbytes : m.bytes = int32Bytes env.version := by
      rw [← hm, half_marshalled hhalf]
      exact List.append_nil _
    refine iff_of_false (fun h => ?_) fun h => h.1 hhalf
    have hlength := congrArg List.length h.2
    rw [if_neg hret, if_neg hret, hbytes] at hlength
    simp only [List.length_append, hint] at hlength
    omega
  · by_cases hret : m.ret = 0
    · rw [if_pos hret, if_pos hret, ← List.append_assoc]
      simp only [and_true]
      constructor
      · intro h
        exact ⟨hhalf, fun _ => by omega⟩
      · intro h
        have hsize := h.2 hret
        omega
    · have hclean : m.writes = [] := by
        rw [← hm]
        exact marshal_clean responseFunction hresponse hhalf (hm.symm ▸ hret)
      have hbytes : m.bytes = [] := by
        rw [Marshalled.bytes, hclean]
        rfl
      rw [if_neg hret, if_neg hret, hbytes, List.append_nil]
      exact iff_of_true ⟨by rw [List.length_nil]; omega, rfl⟩ ⟨hhalf, fun h => absurd h hret⟩

/-- A request that is neither local nor cancelled is answered by its one frame exactly if the response is answerable. -/
theorem solicited_frame_iff (env : MarshalEnv) (d : RildOutput) (request : ℕ) (info : RequestInfo)
    (e : Int32) (response responselen : ℕ) (socket : CommandSocket) (hpending : d.find request = some info)
    (hlocal : info.isLocal = false) (hcancelled : info.cancelled = false)
    (hopen : d.sockets info.socketId = some socket) :
    (∃ d', rilOnRequestComplete env request e response responselen d = some d' ∧
      FrameSent d d' info.socketId (frameOf (solicitedContent info.token e (if response = 0 then none
        else info.marshaller.map fun responseFunction => responseFunction.marshal env response responselen)))) ↔
    Answerable env info response responselen := by
  have hcomplete : rilOnRequestComplete env request e response responselen d =
      (responseParcel env info e response responselen).map fun p => { d.checkAndDequeue request with
        sockets := Function.update d.sockets info.socketId (sendResponseRaw p.data (d.sockets info.socketId)) } := by
    rw [rilOnRequestComplete, hpending]
    dsimp only
    rw [hlocal, hcancelled, if_neg Bool.false_ne_true, if_neg Bool.false_ne_true]
    rfl
  have hdata := response_parcel_data env info e response responselen
  have hsent {p : CursorBuffer UInt8} (hparcel : responseParcel env info e response responselen = some p)
      (content : Bytes) : (∃ d', rilOnRequestComplete env request e response responselen d = some d' ∧
        FrameSent d d' info.socketId (frameOf content)) ↔ p.data.length ≤ maxCommandBytes ∧ p.data = content := by
    rw [hcomplete, hparcel, Option.map_some, ← frame_sent_iff request hopen]
    exact ⟨fun ⟨d', hd, h⟩ => Option.some.inj hd ▸ h, fun h => ⟨_, rfl, h⟩⟩
  by_cases hresponse : response = 0
  · rw [if_pos hresponse] at hdata ⊢
    obtain ⟨p, hparcel, hp⟩ := Option.map_eq_some_iff.mp hdata
    rw [hsent hparcel, hp]
    refine iff_of_true ⟨?_, rfl⟩ (.inl hresponse)
    simp only [solicitedHead, List.length_append, int32Bytes, number_bytes_length]
    decide
  · rw [if_neg hresponse] at hdata ⊢
    rw [Answerable, or_iff_right hresponse]
    cases hmarshaller : info.marshaller with
    | none =>
      rw [hmarshaller, Option.map_none, Option.map_eq_none_iff] at hdata
      rw [hcomplete, hdata]
      refine iff_of_false ?_ ?_
      · rintro ⟨d', hd, -⟩
        cases hd
      · rintro ⟨responseFunction, hf, -⟩
        cases hf
    | some responseFunction =>
      rw [hmarshaller] at hdata
      obtain ⟨p, hparcel, hp⟩ := Option.map_eq_some_iff.mp hdata
      rw [hsent hparcel, hp, Option.map_some]
      refine (solicited_data_iff hresponse info.token e rfl).trans ?_
      exact ⟨fun h => ⟨responseFunction, rfl, h⟩, fun ⟨_, hf, h⟩ => Option.some.inj hf ▸ h⟩

/-! ### Runs -/

/-- One request is pending on an open socket. -/
def oneRequest (info : RequestInfo) : RildOutput :=
  ⟨⟨fun s => if s = info.socketId then [(0, info)] else [], 1, []⟩,
    fun s => if s = info.socketId then some ⟨[], [1, 2]⟩ else none⟩

def dialInfo : RequestInfo := ⟨7, 10, false, false, .socket1⟩

def setupDataCallInfo : RequestInfo := ⟨7, 27, false, false, .socket1⟩

/-- A `RIL_REQUEST_DIAL` that is completed with a response that is not `NULL` -/
theorem solicited_frame_dial : ∃ d', rilOnRequestComplete (emptyEnv 6) 0 0 16 0 (oneRequest dialInfo) = some d' ∧
    FrameSent (oneRequest dialInfo) d' .socket1 (frameOf (solicitedContent 7 0 (if 16 = 0 then none
      else dialInfo.marshaller.map fun responseFunction => responseFunction.marshal (emptyEnv 6) 16 0))) :=
  (solicited_frame_iff (emptyEnv 6) (oneRequest dialInfo) 0 dialInfo 0 16 0 ⟨[], [1, 2]⟩ rfl rfl rfl rfl).mpr
    (.inr ⟨.responseVoid, rfl, fun h => absurd h.1 (by decide), fun _ => Nat.zero_le _⟩)

/-- An old RIL completes `RIL_REQUEST_SETUP_DATA_CALL` with a length that is not one of strings: behind the error code
the frame has the version. -/
theorem setup_data_call_half_written : ∃ d', rilOnRequestComplete (emptyEnv 4) 0 0 16 3 (oneRequest setupDataCallInfo) =
      some d' ∧
    (d'.sockets .socket1).map CommandSocket.written =
      some [0, 0, 0, 16, 0, 0, 0, 0, 7, 0, 0, 0, 255, 255, 255, 255, 4, 0, 0, 0] ∧
    ¬FrameSent (oneRequest setupDataCallInfo) d' .socket1 (frameOf (solicitedContent 7 0
      (setupDataCallInfo.marshaller.map fun responseFunction => responseFunction.marshal (emptyEnv 4) 16 3))) := by
  obtain ⟨d', hd, hbytes⟩ : ∃ d', rilOnRequestComplete (emptyEnv 4) 0 0 16 3 (oneRequest setupDataCallInfo) = some d' ∧
      (d'.sockets .socket1).map CommandSocket.written =
        some [0, 0, 0, 16, 0, 0, 0, 0, 7, 0, 0, 0, 255, 255, 255, 255, 4, 0, 0, 0] := ⟨_, rfl, by decide +kernel⟩
  refine ⟨d', hd, hbytes, fun h => ?_⟩
  obtain ⟨socket, socket', hopen, hsent, hwritten⟩ := h.written
  obtain rfl : ⟨[], [1, 2]⟩ = socket := Option.some.inj hopen
  rw [hsent, Option.map_some, hwritten] at hbytes
  exact absurd hbytes (by decide +kernel)

end Ril.Libril
