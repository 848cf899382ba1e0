import Ril.Samsung.Spec.Registry

/-! Parts of the data that most operations leave as they are. -/

namespace Ril.Samsung

open Ril.Ipc Ril.Lib

namespace RilData

/-- What is not changed by messages. -/
def withoutFmt (s : RilData) : RilData := { s with fmt := {}, trace := [] }

/-- What the request loop depends on. -/
def loopView (s : RilData) : List RilRequest × RilRadioState × Bool := (s.requests, s.radioState, s.loopSignal)

variable (s : RilData)

lemma ipcFmtSeq_withoutFmt (owner : Option RilToken) : (s.ipcFmtSeq owner).2.withoutFmt = s.withoutFmt := by
  rw [ipcFmtSeq]
  split
  · rfl
  · rfl

lemma ipcFmtRequestSeq_withoutFmt (token : RilToken) : (s.ipcFmtRequestSeq token).2.withoutFmt = s.withoutFmt := by
  rw [ipcFmtRequestSeq]
  split
  · rfl
  · split
    · exact ipcFmtSeq_withoutFmt s _
    · rfl

lemma expectSend_withoutFmt (expect : Option ExpectKind) (mseq : UInt8) (command : IpcCommand)
    (type : IpcRequestType) (data : Bytes) :
    (expectSend expect mseq command type data s).2.withoutFmt = s.withoutFmt := by
  rw [expectSend_apply]
  split
  · rfl
  · cases expect with
    | none => rfl
    | some kind => rfl

lemma transmit_withoutFmt (sender : Sender) (expect : Option ExpectKind) (command : IpcCommand)
    (type : IpcRequestType) (data : Bytes) :
    (transmit sender expect command type data s).2.withoutFmt = s.withoutFmt := by
  cases sender with
  | request token =>
    exact (expectSend_withoutFmt _ expect _ command type data).trans (ipcFmtRequestSeq_withoutFmt s token)
  | reply aseq => exact expectSend_withoutFmt s expect aseq command type data
  | own => exact (expectSend_withoutFmt _ expect _ command type data).trans (ipcFmtSeq_withoutFmt s none)

lemma loopView_of_withoutFmt {s t : RilData} (h : t.withoutFmt = s.withoutFmt) : t.loopView = s.loopView := by
  have hv := congrArg loopView h
  exact hv

lemma transmit_loopView (sender : Sender) (expect : Option ExpectKind) (command : IpcCommand) (type : IpcRequestType)
    (data : Bytes) : (transmit sender expect command type data s).2.loopView = s.loopView :=
  loopView_of_withoutFmt (s.transmit_withoutFmt sender expect command type data)

lemma radioOff_loopView : s.radioOff.loopView = s.loopView := by
  have h := eq_of_withoutConnections (flush_from_withoutConnections s.dataConnections s)
  simp only [radioOff, requestUnsolicited, log, dataConnectionFlush]
  rw [h]
  rfl

lemma requestUnregister_radioState (token : RilToken) :
    (s.requestUnregister token).radioState = s.radioState := by
  rw [requestUnregister]
  split
  · rfl
  · rfl

lemma radioUnavailableRound_radioState (r : RilRequest) :
    (s.radioUnavailableRound r).radioState = s.radioState := by
  have hc : (s.requestComplete r.token .radioNotAvailable .null).radioState = s.radioState := by
    rw [requestComplete]
    split
    · rfl
    · exact requestUnregister_radioState s r.token
  rw [radioUnavailableRound]
  split
  · exact (requestUnregister_radioState _ _).trans hc
  · exact hc

lemma radioRounds_radioState (rs : List RilRequest) (s : RilData) :
    (rs.foldl radioUnavailableRound s).radioState = s.radioState := by
  induction rs generalizing s with
  | nil => rfl
  | cons r rs ih => exact (ih _).trans (radioUnavailableRound_radioState s r)

end RilData

section

variable {s : RilData} {op : Op}

lemma QuietOp.loopView {F : Footprint} (h : QuietOp F op) (s : RilData) : (op.exec s).loopView = s.loopView := by
  cases op with
  | dataSet request value =>
    simp only [Op.exec, RilData.requestDataSet]
    split
    · rfl
    · rfl
  | unsolicited | pinCache | dataFree | dataDrop | simIccType | hsdpaStatus | svcSession | connections => rfl
  | _ => exact h.elim

lemma RequestOp.loopView {F : Footprint} {token : RilToken} {sent : Bool} (h : RequestOp F token sent s op) :
    (op.exec s).loopView = s.loopView := by
  rcases h.cases with rfl | ⟨expect, command, type, data, rfl, -⟩ | h
  · exact RilData.loopView_of_withoutFmt (s.ipcFmtRequestSeq_withoutFmt token)
  · exact s.transmit_loopView _ _ _ _ _
  · exact h.loopView s

lemma SilentOp.loopView {F : Footprint} {aseq : UInt8} (h : SilentOp F aseq op) (s : RilData) :
    (op.exec s).loopView = s.loopView := by
  rcases h.cases with ⟨q, expect, command, type, data, rfl, -⟩ | ⟨token, rfl⟩ | h
  · exact s.transmit_loopView _ _ _ _ _
  · rfl
  · exact h.loopView s

end

/-! ### The connections -/

namespace RilData

def connView (s : RilData) : List RilDataConnection × Heap := (s.dataConnections, s.heap)

variable (s : RilData)

lemma requestUnregister_connView (token : RilToken) : (s.requestUnregister token).connView = s.connView := by
  rw [requestUnregister]
  split
  · rfl
  · rfl

lemma requestComplete_connView (token : RilToken) (error : RilErrno) (response : RilResponse) :
    (s.requestComplete token error response).connView = s.connView := by
  rw [requestComplete]
  split
  · rfl
  · exact requestUnregister_connView s token

lemma connView_of_withoutFmt {s t : RilData} (h : t.withoutFmt = s.withoutFmt) : t.connView = s.connView := by
  have hv := congrArg connView h
  exact hv

lemma transmit_connView (sender : Sender) (expect : Option ExpectKind) (command : IpcCommand) (type : IpcRequestType)
    (data : Bytes) : (transmit sender expect command type data s).2.connView = s.connView :=
  connView_of_withoutFmt (s.transmit_withoutFmt sender expect command type data)

end RilData

/-- The operations that may change the connections. -/
def Op.connects : Op → Bool
  | connections _ _ | radio _ => true
  | _ => false

lemma op_connView {op : Op} (h : op.connects = false) (s : RilData) : (op.exec s).connView = s.connView := by
  cases op with
  | complete token error response => exact s.requestComplete_connView token error response
  | requestSeq token => exact RilData.connView_of_withoutFmt (s.ipcFmtRequestSeq_withoutFmt token)
  | transmit sender expect command type data => exact s.transmit_connView sender expect command type data
  | dataSet request value =>
    simp only [Op.exec, RilData.requestDataSet]
    split
    · rfl
    · rfl
  | arrive request data token => exact s.requestUnregister_connView token
  | cancel token =>
    simp only [Op.exec, rilOnCancel]
    split
    · rfl
    · exact s.requestUnregister_connView token
  | connections | radio => cases h
  | _ => rfl

lemma radio_rounds_connView (rs : List RilRequest) (s : RilData) :
    (rs.foldl RilData.radioUnavailableRound s).connView = s.connView := by
  induction rs generalizing s with
  | nil => rfl
  | cons r rs ih =>
    have hc := s.requestComplete_connView r.token .radioNotAvailable .null
    rw [List.foldl_cons, ih, RilData.radioUnavailableRound]
    split
    · exact (RilData.requestUnregister_connView _ _).trans hc
    · exact hc

lemma op_radioState {op : Op} (h : ∀ radioState, op ≠ .radio radioState) (s : RilData) :
    (op.exec s).radioState = s.radioState := by
  have hview {t : RilData} (ht : t.loopView = s.loopView) : t.radioState = s.radioState :=
    congrArg (fun v => v.2.1) ht
  cases op with
  | complete token error response =>
    simp only [Op.exec, RilData.requestComplete]
    split
    · rfl
    · exact s.requestUnregister_radioState token
  | requestSeq token => exact hview (RilData.loopView_of_withoutFmt (s.ipcFmtRequestSeq_withoutFmt token))
  | transmit sender expect command type data => exact hview (s.transmit_loopView sender expect command type data)
  | dataSet request value =>
    simp only [Op.exec, RilData.requestDataSet]
    split
    · rfl
    · rfl
  | arrive request data token => exact s.requestUnregister_radioState token
  | cancel token =>
    simp only [Op.exec, rilOnCancel]
    split
    · rfl
    · exact s.requestUnregister_radioState token
  | radio radioState => exact absurd rfl (h radioState)
  | _ => rfl

/-! ### The entries of the request data -/

lemma filter_drop {α : Type} {p q : α → Bool} (hpq : ∀ a, p a = true → q a = false) (l : List α) :
    (l.eraseP p).filter q = l.filter q := by
  induction l with
  | nil => rfl
  | cons a l ih =>
    cases hp : p a with
    | true => simp [hp, hpq a hp]
    | false => simp [hp, List.filter_cons, ih]

lemma filter_drop_self {α : Type} (p : α → Bool) (l : List α) : (l.eraseP p).filter p = (l.filter p).tail := by
  induction l with
  | nil => rfl
  | cons a l ih =>
    cases hp : p a with
    | true => simp [hp]
    | false => simp [hp, ih]

namespace RilData

/-- The entries of a code, in the order in which they are found -/
def entriesOf (request : RilRequestCode) (s : RilData) : List RilRequestDataValue :=
  (s.requestsData.filter (·.1 == request)).map (·.2)

variable (s : RilData) {request : RilRequestCode}

lemma requestDataFind_eq : s.requestDataFind request = (s.entriesOf request).head? := by
  rw [requestDataFind, entriesOf, List.head?_map, List.head?_filter]

lemma entriesOf_dataDrop : (s.requestDataDrop request).entriesOf request = (s.entriesOf request).tail := by
  rw [entriesOf, entriesOf, requestDataDrop, ← List.map_tail]
  exact congrArg (List.map _) (filter_drop_self _ s.requestsData)

lemma entriesOf_dataDrop_of_ne {q : RilRequestCode} (h : request ≠ q) :
    (s.requestDataDrop q).entriesOf request = s.entriesOf request := by
  refine congrArg (List.map _) (filter_drop (fun e he => ?_) s.requestsData)
  rw [beq_iff_eq.mp he]
  exact beq_false_of_ne h.symm

lemma entriesOf_dataFree : (s.requestDataFree request).entriesOf request = [] := by
  rw [entriesOf, requestDataFree, List.map_eq_nil_iff]
  dsimp only
  rw [List.filter_filter, List.filter_eq_nil_iff]
  intro e _
  simp

lemma entriesOf_dataFree_of_ne {q : RilRequestCode} (h : request ≠ q) :
    (s.requestDataFree q).entriesOf request = s.entriesOf request := by
  rw [entriesOf, entriesOf, requestDataFree]
  dsimp only
  rw [List.filter_filter]
  congr 1
  refine List.filter_congr fun e _ => ?_
  by_cases hr : e.1 = request
  · simp [hr, h]
  · simp [hr]

lemma entriesOf_dataSet {value : RilRequestDataValue} (h : value.size ≠ 0) :
    (s.requestDataSet request value).entriesOf request = s.entriesOf request ++ [value] := by
  rw [requestDataSet, if_neg h]
  simp [entriesOf]

lemma entriesOf_dataSet_of_ne {q : RilRequestCode} (h : request ≠ q) (value : RilRequestDataValue) :
    (s.requestDataSet q value).entriesOf request = s.entriesOf request := by
  rw [requestDataSet]
  split
  · rfl
  · simp [entriesOf, h.symm]

lemma entriesOf_of_data {t : RilData} (h : t.requestsData = s.requestsData) :
    t.entriesOf request = s.entriesOf request := by
  rw [entriesOf, entriesOf, h]

lemma requestUnregister_requestsData (token : RilToken) :
    (s.requestUnregister token).requestsData = s.requestsData := by
  rw [requestUnregister]
  split
  · rfl
  · rfl

lemma requestComplete_requestsData (token : RilToken) (error : RilErrno) (response : RilResponse) :
    (s.requestComplete token error response).requestsData = s.requestsData := by
  rw [requestComplete]
  split
  · rfl
  · exact requestUnregister_requestsData _ token

lemma radioOff_requestsData : s.radioOff.requestsData = s.requestsData := by
  have hs := eq_of_withoutConnections (flush_from_withoutConnections s.dataConnections s)
  rw [radioOff, dataConnectionFlush, hs]
  rfl

lemma radio_requestsData {radioState : RilRadioState} (h : radioState ≠ .unavailable) :
    (s.radioStateUpdate radioState).requestsData = s.requestsData := by
  rw [radioStateUpdate]
  split
  · rfl
  · cases radioState with
    | unavailable => exact absurd rfl h
    | off => exact radioOff_requestsData _
    | _ => rfl

lemma radio_unavailable_requestsData (h : s.radioState ≠ .unavailable) :
    (s.radioStateUpdate .unavailable).requestsData = [] := by
  rw [radioStateUpdate, if_neg h]
  exact radioOff_requestsData _

end RilData

/-- An operation that leaves the request data as it is -/
def Op.keepsRequestData : Op → Prop
  | .dataSet _ _ | .dataFree _ | .dataDrop _ => False
  | .radio radioState => radioState ≠ .unavailable
  | _ => True

lemma op_requestsData {op : Op} (h : op.keepsRequestData) (s : RilData) :
    (op.exec s).requestsData = s.requestsData := by
  have hview {u : RilData} (hu : u.withoutFmt = s.withoutFmt) : u.requestsData = s.requestsData := by
    have hv := congrArg RilData.requestsData hu
    exact hv
  cases op with
  | complete token error response => exact s.requestComplete_requestsData token error response
  | requestSeq token => exact hview (s.ipcFmtRequestSeq_withoutFmt token)
  | transmit sender expect command type data => exact hview (s.transmit_withoutFmt sender expect command type data)
  | dataSet | dataFree | dataDrop => exact h.elim
  | radio radioState => exact s.radio_requestsData h
  | arrive request data token => exact RilData.requestUnregister_requestsData _ token
  | cancel token =>
    simp only [Op.exec, rilOnCancel]
    split
    · rfl
    · exact s.requestUnregister_requestsData token
  | _ => rfl

end Ril.Samsung
