import Mathlib.Algebra.Order.Ring.Int
import Ril.Lib.Transition
import Ril.Mock.RequestAnswers

/-! Every request is answered once, and when it gets the error code and the data that its handler chose. -/

namespace Ril.Mock

open Lib
open Ipc (Bytes)

/-- A number of JavaScript is exact below 2 ^ 53. -/
structure MockLibrary.Lawful (L : MockLibrary) : Prop where
  through_number : ∀ token < 2 ^ 53, L.throughNumber token = token

/-! ### What an answer is to be -/

/-- The error code of the handler; where there is none, that of `AddRequest` or of the dispatch -/
def AnswerSource.rilErrCode : AnswerSource → ℤ
  | unknownRequest => rilERequestNotSupported
  | refusedPayload => rilEGenericFailure
  | noComponent => rilERequestNotSupported
  | handler outcome => outcome.rilErrCode

def AnswerSource.responseProtobuf : AnswerSource → Bytes
  | unknownRequest => []
  | refusedPayload => []
  | noComponent => []
  | handler outcome => outcome.responseProtobuf

/-- The fields of the message, and as many applications as it names; the other entries of the array are not read. -/
structure CardStatusMessage.HeldBy (message : CardStatusMessage) (status : RilCardStatusV6) : Prop where
  fields : { status with applications := message.applications } = message
  applications : status.applications.take message.numApplications.toNat =
    (message.applications.take message.numApplications.toNat).map AppStatusMessage.unmarshalled

/-- The data that a protobuf decodes to -/
def RspConversion.Decodes (L : MockLibrary) (bytes : Bytes) (data : ResponseData) : RspConversion → Prop
  | noData => data = .null
  | strings => data = .strings ((L.strings bytes).map rspStrings)
  | string => ∃ text, (L.strings bytes).head? = some text ∧ data = .string (cStr text)
  | integers => data = .integers (L.integers bytes)
  | getSimStatus => ∃ status, data = .cardStatus status ∧ (L.cardStatus bytes).HeldBy status
  | enterSimPinData => data = .retriesRemaining (L.retriesRemaining bytes)
  | getCurrentCalls => data = .calls ((L.calls bytes).map CallMessage.unmarshalled)
  | signalStrength => data = .signalStrength (L.signalStrength bytes)
  | operator => data = .operator (L.operator bytes).unmarshalled

/-- The answer law; a request without a conversion has no data. -/
structure Answer.Right (L : MockLibrary) (a : Answer) : Prop where
  token : a.completion.token = a.request.token
  rilErrno : a.completion.rilErrno = a.source.rilErrCode
  data : a.source.rilErrCode = rilESuccess →
    ((rilRspConversionMap.lookup a.request.code).getD .noData).Decodes L a.source.responseProtobuf a.completion.data

namespace MockRil

/-- The requests that are in a queue -/
def waiting (m : MockRil) : List MockRequest := m.rilQueue ++ (m.componentQueue .icc ++ m.componentQueue .radio)

/-- Nothing was read or written outside of a structure, each request that was added has one answer or waits for it, and
the answers are right. -/
structure AnswersRight (L : MockLibrary) (m : MockRil) : Prop where
  unfaulted : m.faulted = false
  once : (m.answers.map Answer.request ++ m.waiting).Perm m.added
  right : ∀ a ∈ m.answers, a.Right L

/-- The steps that the requests in the queues still take -/
def work (m : MockRil) : ℕ :=
  2 * m.rilQueue.length + (m.componentQueue .icc).length + (m.componentQueue .radio).length

end MockRil

/-! ### When the answer is right -/

/-- The pin is there; a dial has all of its structure, an address, and the data of its user-to-user information. -/
def MockRequest.Readable (request : MockRequest) (payload : RequestPayload) : Prop :=
  (request.code = 2 → 4 ≤ payload.datalen → payload.text ≠ none) ∧
    (request.code = 10 → 4 ≤ payload.datalen →
      rilDialSize ≤ payload.datalen ∧ payload.text ≠ none ∧ payload.uusInfo ≠ some none)

instance (request : MockRequest) (payload : RequestPayload) : Decidable (request.Readable payload) :=
  inferInstanceAs (Decidable (_ ∧ _))

/-- A string is there; no more applications are named than the message and the card status have; and what stands on the
stack already is what the two conversions that leave it there were to write. -/
def RspConversion.Conveys (L : MockLibrary) (stack : StackContents) (rilErrno : ℤ) (bytes : Bytes) :
    RspConversion → Prop
  | string => L.strings bytes ≠ []
  | getSimStatus =>
    (L.cardStatus bytes).numApplications.toNat ≤ (L.cardStatus bytes).applications.length ∧
      (L.cardStatus bytes).numApplications.toNat ≤ rilCardMaxApps ∧
      (rilErrno = rilESuccess →
        stack.cardStatus.cdmaSubscriptionAppIndex = (L.cardStatus bytes).cdmaSubscriptionAppIndex)
  | signalStrength => rilErrno = rilESuccess → stack.signalStrength = L.signalStrength bytes
  | _ => True

instance (L : MockLibrary) (stack : StackContents) (rilErrno : ℤ) (bytes : Bytes) (conversion : RspConversion) :
    Decidable (conversion.Conveys L stack rilErrno bytes) :=
  match conversion with
  | .string => inferInstanceAs (Decidable (_ ≠ _))
  | .getSimStatus => inferInstanceAs (Decidable (_ ∧ _))
  | .signalStrength => inferInstanceAs (Decidable (_ → _))
  | .noData | .strings | .integers | .enterSimPinData | .getCurrentCalls | .operator => inferInstanceAs (Decidable True)

/-- A request that has no conversion is answered with success if the protobuf is empty, and as not supported if it is
not. -/
def HandlerOutcome.Conveyed (L : MockLibrary) (stack : StackContents) (code : ℤ) (outcome : HandlerOutcome) : Prop :=
  match rilRspConversionMap.lookup code with
  | some conversion => conversion.Conveys L stack outcome.rilErrCode outcome.responseProtobuf
  | none => outcome.rilErrCode = if outcome.responseProtobuf = [] then rilESuccess else rilERequestNotSupported

instance (L : MockLibrary) (stack : StackContents) (code : ℤ) (outcome : HandlerOutcome) :
    Decidable (outcome.Conveyed L stack code) := by
  unfold HandlerOutcome.Conveyed
  split <;> infer_instance

def MockRil.Delivers (L : MockLibrary) (m : MockRil) : MockRilAction → Prop
  | .addRequest request payload => request.Readable payload
  | .processRequest _ => True
  | .processComponent component outcome stack =>
    ∀ request ∈ (m.componentQueue component).head?, outcome.Conveyed L stack request.code

instance (L : MockLibrary) (m : MockRil) : (action : MockRilAction) → Decidable (m.Delivers L action)
  | .addRequest request payload => inferInstanceAs (Decidable (request.Readable payload))
  | .processRequest _ => inferInstanceAs (Decidable True)
  | .processComponent component outcome stack =>
    inferInstanceAs (Decidable (∀ request ∈ (m.componentQueue component).head?, outcome.Conveyed L stack request.code))

/-- A token that a number holds -/
def MockRilAction.Exact : MockRilAction → Prop
  | addRequest request _ => request.token < 2 ^ 53
  | processRequest _ => True
  | processComponent _ _ _ => True

/-- A step of a thread of the mock RIL itself -/
def MockRilAction.Processes : MockRilAction → Prop
  | addRequest _ _ => False
  | processRequest _ => True
  | processComponent _ _ _ => True


variable {L : MockLibrary} {stack : StackContents} {m m' : MockRil} {request : MockRequest} {bytes : Bytes}
  {rilErrno : ℤ} {outcome : HandlerOutcome} {component : Component} {payload : RequestPayload}

lemma mem_of_lookup {β : Type*} {table : List (ℤ × β)} {code : ℤ} {entry : β} (h : table.lookup code = some entry) :
    (code, entry) ∈ table := by
  obtain ⟨before, after, rfl, -⟩ := List.lookup_eq_some_iff.mp h
  simp

/-! ### The conversions -/

lemma req_conversion_code : ∀ entry ∈ rilReqConversionMap,
    (entry.2 = .enterSimPin ↔ entry.1 = 2) ∧ (entry.2 = .dial ↔ entry.1 = 10) := by
  decide

/-- The pin and the dial are the only ones that read through a pointer of the payload. -/
lemma readable_iff {conversion : ReqConversion} (h : rilReqConversionMap.lookup request.code = some conversion) :
    request.Readable payload ↔ conversion.convert payload ≠ .faulted := by
  obtain ⟨hpin, hdial⟩ := req_conversion_code _ (mem_of_lookup h)
  rw [MockRequest.Readable, ← hpin, ← hdial]
  cases conversion with
  | noData => simp [ReqConversion.convert]
  | int =>
    rw [ReqConversion.convert]
    split <;> simp
  | enterSimPin =>
    rw [ReqConversion.convert]
    split
    next hlen => simp [Nat.not_le.mpr hlen]
    next hlen => simp [Nat.not_lt.mp hlen]
  | dial =>
    rw [ReqConversion.convert]
    split
    next hlen => simp [Nat.not_le.mpr hlen]
    next hlen => simp [Nat.not_lt.mp hlen]

lemma readable_unknown (h : rilReqConversionMap.lookup request.code = none) : request.Readable payload := by
  refine ⟨fun hcode => ?_, fun hcode => ?_⟩
  · rw [hcode] at h
    exact absurd h (by decide)
  · rw [hcode] at h
    exact absurd h (by decide)

/-- The loop stays in both arrays exactly if both are so long. -/
lemma copy_applications (source target : List AppStatusMessage) (count : ℕ) :
    copyApplications source count target = if count ≤ source.length ∧ count ≤ target.length then
      some ((source.take count).map AppStatusMessage.unmarshalled ++ target.drop count) else none := by
  induction count with
  | zero => simp [copyApplications]
  | succ count ih =>
    rw [copyApplications] at ih ⊢
    rw [List.range_succ, List.foldlM_append, ih]
    by_cases hcount : count ≤ source.length ∧ count ≤ target.length
    · rw [if_pos hcount]
      have hlength : ((source.take count).map AppStatusMessage.unmarshalled ++ target.drop count).length =
          target.length := by
        simp
        omega
      simp only [List.foldlM_cons, List.foldlM_nil, Option.bind_eq_bind, Option.bind_some, Option.pure_def, hlength]
      by_cases hsource : count < source.length
      · rw [List.getElem?_eq_getElem hsource, Option.bind_some]
        by_cases htarget : count < target.length
        · rw [if_pos htarget, if_pos (by omega)]
          have hcopied : ((source.take count).map AppStatusMessage.unmarshalled).length = count := by
            rw [List.length_map, List.length_take]
            omega
          rw [List.set_append_right count _ (Nat.le_of_eq hcopied), hcopied, Nat.sub_self,
            List.drop_eq_getElem_cons htarget, List.set_cons_zero, List.take_add_one, List.getElem?_eq_getElem hsource,
            Option.toList_some, List.map_append, List.append_assoc]
          rfl
        · rw [if_neg htarget, if_neg (by omega)]
          rfl
      · rw [List.getElem?_eq_none (by omega), if_neg (by omega)]
        rfl
    · rw [if_neg hcount, if_neg (by omega)]
      rfl

lemma rsp_get_sim_status {message : CardStatusMessage} {status : RilCardStatusV6} :
    rspGetSimStatus message stack.cardStatus = some status ↔
      message.numApplications.toNat ≤ message.applications.length ∧ message.numApplications.toNat ≤ rilCardMaxApps ∧
      status = { message with
        cdmaSubscriptionAppIndex := stack.cardStatus.cdmaSubscriptionAppIndex
        applications := (message.applications.take message.numApplications.toNat).map AppStatusMessage.unmarshalled ++
          stack.cardStatus.applications.drop message.numApplications.toNat } := by
  rw [rspGetSimStatus, copy_applications, stack.applications]
  by_cases h : message.numApplications.toNat ≤ message.applications.length ∧
      message.numApplications.toNat ≤ rilCardMaxApps
  · rw [if_pos h, Option.map_some, Option.some.injEq, ← and_assoc, and_iff_right h]
    exact eq_comm
  · rw [if_neg h, ← and_assoc]
    exact iff_of_false (by simp) fun hstatus => h hstatus.1

lemma conveys_sim_status :
    (∃ data, RspConversion.getSimStatus.convert L stack bytes = some data ∧
      (rilErrno = rilESuccess → RspConversion.getSimStatus.Decodes L bytes data)) ↔
        RspConversion.getSimStatus.Conveys L stack rilErrno bytes := by
  rw [RspConversion.convert, RspConversion.Conveys]
  constructor
  · rintro ⟨data, hdata, hdecodes⟩
    obtain ⟨status, hstatus, rfl⟩ := Option.map_eq_some_iff.mp hdata
    obtain ⟨hheld, hmax, rfl⟩ := rsp_get_sim_status.mp hstatus
    refine ⟨hheld, hmax, fun herrno => ?_⟩
    obtain ⟨_, hsame, hfields, -⟩ := hdecodes herrno
    rw [← ResponseData.cardStatus.inj hsame] at hfields
    have hindex := congrArg CardStatusMessage.cdmaSubscriptionAppIndex hfields
    exact hindex
  · rintro ⟨hheld, hmax, hindex⟩
    refine ⟨_, Option.map_eq_some_iff.mpr ⟨_, rsp_get_sim_status.mpr ⟨hheld, hmax, rfl⟩, rfl⟩, fun herrno =>
      ⟨_, rfl, ?_, ?_⟩⟩
    · rw [hindex herrno]
    · exact List.take_left' (by rw [List.length_map, List.length_take, Nat.min_eq_left hheld])

/-- What the conversions make is what the protobuf decodes to. -/
lemma conveys_iff (conversion : RspConversion) :
    (∃ data, conversion.convert L stack bytes = some data ∧
      (rilErrno = rilESuccess → conversion.Decodes L bytes data)) ↔ conversion.Conveys L stack rilErrno bytes := by
  cases conversion with
  | noData | strings | integers | enterSimPinData | getCurrentCalls | operator =>
    simp [RspConversion.convert, RspConversion.Decodes, RspConversion.Conveys]
  | string =>
    rw [RspConversion.convert, RspConversion.Conveys]
    cases hstrings : L.strings bytes with
    | nil => simp
    | cons text texts => simp [RspConversion.Decodes, hstrings]
  | signalStrength =>
    simp [RspConversion.convert, RspConversion.Decodes, RspConversion.Conveys, unmarshallRilSignalStrength]
  | getSimStatus => exact conveys_sim_status

/-! ### The answers -/

lemma dispatched_once : ∀ entry ∈ dispatchTable,
    entry.2 = [.icc] ∧ entry.1 ∈ Component.icc.dispatchTable ∨
      entry.2 = [.radio] ∧ entry.1 ∈ Component.radio.dispatchTable := by
  decide

/-- The two tables list the same requests. -/
lemma converted_dispatched : ∀ entry ∈ rilReqConversionMap, (dispatchTable.lookup entry.1).isSome = true := by
  decide

lemma send_complete (conversion : RspConversion) (h : rilRspConversionMap.lookup request.code = some conversion)
    (token : ℕ) : sendRilRequestComplete L stack rilErrno request.code token (some bytes) =
      (conversion.convert L stack bytes).map fun data => ⟨token, rilErrno, data⟩ := by
  rw [sendRilRequestComplete, h]
  cases conversion <;> rfl

/-- The answer to a request that a handler saw is right exactly if its outcome is one that is conveyed. -/
lemma right_iff {token : ℕ} (htoken : token = request.token) :
    (∃ completion,
      sendRilRequestComplete L stack outcome.rilErrCode request.code token (some outcome.responseProtobuf) =
        some completion ∧ Answer.Right L ⟨request, .handler outcome, completion⟩) ↔
      outcome.Conveyed L stack request.code := by
  rw [HandlerOutcome.Conveyed]
  cases hlookup : rilRspConversionMap.lookup request.code with
  | some conversion =>
    rw [send_complete conversion hlookup]
    dsimp only
    rw [← conveys_iff]
    constructor
    · rintro ⟨completion, hcompletion, hright⟩
      obtain ⟨data, hdata, rfl⟩ := Option.map_eq_some_iff.mp hcompletion
      refine ⟨data, hdata, fun herrno => ?_⟩
      have hdecodes := hright.data herrno
      rwa [hlookup] at hdecodes
    · rintro ⟨data, hdata, hdecodes⟩
      refine ⟨_, Option.map_eq_some_iff.mpr ⟨data, hdata, rfl⟩, htoken, rfl, fun herrno => ?_⟩
      rw [hlookup]
      exact hdecodes herrno
  | none =>
    rw [sendRilRequestComplete, hlookup]
    simp only [Option.getD_some, List.length_eq_zero_iff]
    constructor
    · rintro ⟨completion, hcompletion, hright⟩
      have herrno : completion.rilErrno = outcome.rilErrCode := hright.rilErrno
      rw [← herrno]
      split at hcompletion
      next hempty => rw [if_pos hempty, ← Option.some.inj hcompletion]
      next hempty => rw [if_neg hempty, ← Option.some.inj hcompletion]
    · intro herrno
      split at herrno
      next hempty =>
        refine ⟨_, if_pos hempty, htoken, herrno.symm, fun _ => ?_⟩
        rw [hlookup]
        rfl
      next hempty =>
        refine ⟨_, if_neg hempty, htoken, herrno.symm, fun _ => ?_⟩
        rw [hlookup]
        rfl

/-! ### The steps -/

namespace MockRil

/-- The part of the answer law that a step can break -/
def Sound (L : MockLibrary) (m : MockRil) : Prop := m.faulted = false ∧ ∀ a ∈ m.answers, a.Right L

/-- What holds of the queues however the answers are, while a step holds a request that is in none of them -/
structure Routed (m : MockRil) (held : List MockRequest) : Prop where
  converted : ∀ request ∈ m.rilQueue, (dispatchTable.lookup request.code).isSome = true
  dispatched : ∀ component, ∀ request ∈ m.componentQueue component, request.code ∈ component.dispatchTable
  exact : ∀ request ∈ held ++ m.waiting, request.token < 2 ^ 53
  once : m.faulted = false → ∀ request,
    (m.answers.map Answer.request).count request + ((held ++ m.waiting).count request) = m.added.count request

lemma routed_initial : initial.Routed [] where
  converted := nofun
  dispatched _ := nofun
  exact := nofun
  once _ _ := rfl

lemma routed_added (h : m.Routed []) (htoken : request.token < 2 ^ 53) :
    Routed { m with added := m.added ++ [request] } [request] where
  converted := h.converted
  dispatched := h.dispatched
  exact := by
    intro r hr
    rcases List.mem_cons.mp hr with rfl | hr
    · exact htoken
    · exact h.exact r hr
  once hf r := by
    have hone := h.once hf r
    simp only [List.nil_append, waiting, List.count_append] at hone ⊢
    omega

lemma routed_ril_queue {queue : List MockRequest} (h : m.Routed []) (hqueue : m.rilQueue = request :: queue) :
    Routed { m with rilQueue := queue } [request] where
  converted r hr := h.converted r (hqueue ▸ List.mem_cons_of_mem _ hr)
  dispatched := h.dispatched
  exact r hr := h.exact r (by
    simp only [List.nil_append, waiting, hqueue]
    exact hr)
  once hf r := by
    have hone := h.once hf r
    simp only [List.nil_append, waiting, hqueue] at hone
    exact hone

lemma dispatched_update {queues : Component → List MockRequest} {queue : List MockRequest}
    (h : ∀ component, ∀ request ∈ queues component, request.code ∈ component.dispatchTable)
    (hqueue : ∀ request ∈ queue, request.code ∈ component.dispatchTable) (other : Component) :
    ∀ request ∈ Function.update queues component queue other, request.code ∈ other.dispatchTable := by
  by_cases hother : other = component
  · subst hother
    rwa [Function.update_self]
  · rw [Function.update_of_ne hother]
    exact h other

lemma routed_component_queue {queue : List MockRequest} (h : m.Routed [])
    (hqueue : m.componentQueue component = request :: queue) :
    Routed { m with componentQueue := Function.update m.componentQueue component queue } [request] := by
  have hperm : ([request] ++ waiting { m with componentQueue := Function.update m.componentQueue component queue }).Perm
      m.waiting := by
    rw [List.perm_iff_count]
    intro r
    cases component <;> simp [waiting, Function.update, hqueue, List.count_append, List.count_cons] <;> omega
  constructor
  · exact h.converted
  · exact dispatched_update h.dispatched fun r hr => h.dispatched _ r (hqueue ▸ List.mem_cons_of_mem _ hr)
  · exact fun r hr => h.exact r (hperm.mem_iff.mp hr)
  · intro hf r
    rw [hperm.count_eq]
    exact h.once hf r

lemma routed_complete (h : m.Routed [request]) (source : AnswerSource) (completion : Option Completion) :
    (m.complete request source completion).Routed [] := by
  cases completion with
  | none =>
    exact ⟨h.converted, h.dispatched, fun r hr => h.exact r (List.mem_append_right _ hr), nofun⟩
  | some completion =>
    refine ⟨h.converted, h.dispatched, fun r hr => h.exact r (List.mem_append_right _ hr), fun hf r => ?_⟩
    have hone := h.once hf r
    rw [complete]
    simp only [List.nil_append, List.count_append, List.map_append, List.map_cons, List.map_nil] at hone ⊢
    rw [← hone, Nat.add_assoc]
    rfl

lemma routed_queued (h : m.Routed [request]) (hcode : (dispatchTable.lookup request.code).isSome = true) :
    Routed { m with rilQueue := m.rilQueue ++ [request] } [] := by
  have hperm : (waiting { m with rilQueue := m.rilQueue ++ [request] }).Perm ([request] ++ m.waiting) := by
    rw [List.perm_iff_count]
    intro r
    simp only [waiting, List.count_append]
    omega
  constructor
  · intro r hr
    rcases List.mem_append.mp hr with hr | hr
    · exact h.converted r hr
    · rwa [List.mem_singleton.mp hr]
  · exact h.dispatched
  · exact fun r hr => h.exact r (hperm.mem_iff.mp hr)
  · intro hf r
    rw [List.nil_append, hperm.count_eq]
    exact h.once hf r

lemma routed_add_to (h : m.Routed [request]) (hcode : request.code ∈ component.dispatchTable) :
    (m.addTo request component).Routed [] := by
  have hperm : (m.addTo request component).waiting.Perm ([request] ++ m.waiting) := by
    rw [List.perm_iff_count]
    intro r
    cases component <;> simp [waiting, addTo, Function.update, List.count_append, List.count_cons] <;> omega
  constructor
  · exact h.converted
  · refine dispatched_update h.dispatched fun r hr => ?_
    rcases List.mem_append.mp hr with hr | hr
    · exact h.dispatched _ r hr
    · rwa [List.mem_singleton.mp hr]
  · exact fun r hr => h.exact r (hperm.mem_iff.mp hr)
  · intro hf r
    rw [List.nil_append, hperm.count_eq]
    exact h.once hf r

lemma sound_complete (source : AnswerSource) (completion : Option Completion) :
    (m.complete request source completion).Sound L ↔
      m.Sound L ∧ ∃ c, completion = some c ∧ Answer.Right L ⟨request, source, c⟩ := by
  cases completion with
  | none =>
    refine iff_of_false (fun h => ?_) (by simp)
    cases h.1
  | some c =>
    simp only [complete, Sound, List.forall_mem_append, List.forall_mem_singleton, Option.some.injEq, exists_eq_left',
      and_assoc]

lemma sound_add_to : (m.addTo request component).Sound L ↔ m.Sound L := Iff.rfl

lemma convert_request_step (hr : m.Routed [request]) :
    (m.convertRequest request payload).Routed [] ∧
      ((m.convertRequest request payload).Sound L ↔ m.Sound L ∧ request.Readable payload) := by
  rw [convertRequest]
  cases hlookup : rilReqConversionMap.lookup request.code with
  | none =>
    refine ⟨routed_complete hr _ _, (sound_complete _ _).trans (and_congr_right fun _ => ?_)⟩
    refine iff_of_true ⟨_, rfl, rfl, rfl, fun herrno => ?_⟩ (readable_unknown hlookup)
    cases herrno
  | some conversion =>
    rw [readable_iff hlookup]
    dsimp only
    cases hconvert : conversion.convert payload with
    | ok =>
      refine ⟨routed_queued hr (converted_dispatched _ (mem_of_lookup hlookup)), ?_⟩
      simp [Sound]
    | badData =>
      refine ⟨routed_complete hr _ _, (sound_complete _ _).trans (and_congr_right fun _ => ?_)⟩
      refine iff_of_true ⟨_, rfl, rfl, rfl, fun herrno => ?_⟩ (by simp)
      cases herrno
    | faulted =>
      refine ⟨routed_complete hr .unknownRequest none, iff_of_false (fun h => ?_) (by simp)⟩
      cases h.1

lemma on_ril_request_step (L : MockLibrary) (stack : StackContents) (hr : m.Routed [request])
    (hcode : (dispatchTable.lookup request.code).isSome = true) :
    (m.onRilRequest L stack request).Routed [] ∧ ((m.onRilRequest L stack request).Sound L ↔ m.Sound L) := by
  obtain ⟨components, hlookup⟩ := Option.isSome_iff_exists.mp hcode
  rw [onRilRequest, hlookup]
  dsimp only
  rcases dispatched_once _ (mem_of_lookup hlookup) with ⟨hone, hhandled⟩ | ⟨hone, hhandled⟩
  · rw [show components = [.icc] from hone]
    exact ⟨routed_add_to hr hhandled, sound_add_to⟩
  · rw [show components = [.radio] from hone]
    exact ⟨routed_add_to hr hhandled, sound_add_to⟩

lemma process_step (hL : L.Lawful) (stack : StackContents) (outcome : HandlerOutcome) (hr : m.Routed [request])
    (hcode : request.code ∈ component.dispatchTable) :
    (m.process L stack component outcome request).Routed [] ∧
      ((m.process L stack component outcome request).Sound L ↔ m.Sound L ∧ outcome.Conveyed L stack request.code) := by
  rw [process, if_pos hcode]
  refine ⟨routed_complete hr _ _, (sound_complete _ _).trans (and_congr_right fun _ => ?_)⟩
  exact right_iff (hL.through_number _ (hr.exact _ (List.mem_append_left _ (List.mem_singleton_self _))))

/-- A step breaks the law exactly if it does not meet the condition. -/
lemma step_sound (hL : L.Lawful) (hr : m.Routed []) {action : MockRilAction} (hexact : action.Exact)
    (hstep : m.step L action = some m') :
    m'.Routed [] ∧ (m'.Sound L ↔ m.Sound L ∧ m.Delivers L action) := by
  cases action with
  | addRequest request payload =>
    rw [step] at hstep
    split at hstep
    next => cases hstep
    next =>
      rw [← Option.some.inj hstep]
      exact convert_request_step (routed_added hr hexact)
  | processRequest stack =>
    rw [step] at hstep
    split at hstep
    next => cases hstep
    next =>
      split at hstep
      next => cases hstep
      next request queue hqueue =>
        rw [← Option.some.inj hstep]
        have hcode := hr.converted request (hqueue ▸ List.mem_cons_self)
        obtain ⟨hrouted, hsound⟩ := on_ril_request_step L stack (routed_ril_queue hr hqueue) hcode
        exact ⟨hrouted, hsound.trans (and_iff_left trivial).symm⟩
  | processComponent component outcome stack =>
    rw [step] at hstep
    split at hstep
    next => cases hstep
    next =>
      split at hstep
      next => cases hstep
      next request queue hqueue =>
        rw [← Option.some.inj hstep]
        have hcode := hr.dispatched component request (hqueue ▸ List.mem_cons_self)
        obtain ⟨hrouted, hsound⟩ := process_step hL stack outcome
          (routed_component_queue hr hqueue) hcode
        refine ⟨hrouted, hsound.trans (and_congr_right fun _ => ?_)⟩
        simp [Delivers, hqueue]

lemma run_sound (hL : L.Lawful) (actions : List MockRilAction) (hr : m.Routed []) (hexact : ∀ a ∈ actions, a.Exact)
    (hrun : run (step L) m actions = some m') :
    m'.Routed [] ∧
      (m'.Sound L ↔ m.Sound L ∧ runMeets (step L) (fun m a => decide (m.Delivers L a)) m actions = true) := by
  induction actions generalizing m with
  | nil =>
    rw [← Option.some.inj hrun]
    exact ⟨hr, (and_iff_left rfl).symm⟩
  | cons action actions ih =>
    obtain ⟨hexact, hrest⟩ := List.forall_mem_cons.mp hexact
    cases hstep : step L m action with
    | none => simp [run, hstep] at hrun
    | some next =>
      rw [run, hstep, Option.bind_some] at hrun
      obtain ⟨hnext, hsound⟩ := step_sound hL hr hexact hstep
      obtain ⟨hrouted, hmeets⟩ := ih hnext hrest hrun
      refine ⟨hrouted, hmeets.trans ?_⟩
      rw [hsound, runMeets, hstep, Bool.and_eq_true, decide_eq_true_iff, and_assoc]

/-! ### The queues run empty -/

lemma work_complete (source : AnswerSource) (completion : Option Completion) :
    (m.complete request source completion).work = m.work := by
  cases completion <;> rfl

lemma work_add_to : (m.addTo request component).work = m.work + 1 := by
  cases component <;> simp [addTo, work, Function.update] <;> omega

lemma work_component_queue {queue : List MockRequest} (hqueue : m.componentQueue component = request :: queue) :
    work { m with componentQueue := Function.update m.componentQueue component queue } + 1 = m.work := by
  cases component <;> simp [work, Function.update, hqueue] <;> omega

lemma work_ril_queue {queue : List MockRequest} (hqueue : m.rilQueue = request :: queue) :
    work { m with rilQueue := queue } + 2 = m.work := by
  simp only [work, hqueue, List.length_cons]
  omega

lemma work_on_ril_request (hcode : (dispatchTable.lookup request.code).isSome = true) :
    (m.onRilRequest L stack request).work = m.work + 1 := by
  obtain ⟨components, hlookup⟩ := Option.isSome_iff_exists.mp hcode
  rw [onRilRequest, hlookup]
  dsimp only
  rcases dispatched_once _ (mem_of_lookup hlookup) with ⟨hone, -⟩ | ⟨hone, -⟩
  · rw [show components = [.icc] from hone]
    exact work_add_to
  · rw [show components = [.radio] from hone]
    exact work_add_to

/-- The workers take the requests through the queues. -/
lemma work_step (hr : m.Routed []) {action : MockRilAction} (haction : action.Processes)
    (hstep : m.step L action = some m') : m'.work < m.work := by
  cases action with
  | addRequest request payload => cases haction
  | processRequest stack =>
    rw [step] at hstep
    split at hstep
    next => cases hstep
    next =>
      split at hstep
      next => cases hstep
      next request queue hqueue =>
        have hcode := hr.converted request (hqueue ▸ List.mem_cons_self)
        rw [← Option.some.inj hstep, work_on_ril_request hcode, ← work_ril_queue hqueue]
        exact Nat.lt_succ_self _
  | processComponent component outcome stack =>
    rw [step] at hstep
    split at hstep
    next => cases hstep
    next =>
      split at hstep
      next => cases hstep
      next request queue hqueue =>
        rw [← Option.some.inj hstep, process, work_complete, ← work_component_queue hqueue]
        exact Nat.lt_succ_self _

lemma waiting_processed (hf : m.faulted = false) (hw : m.waiting ≠ []) (outcome : HandlerOutcome)
    (stack : StackContents) :
    (m.step L (.processRequest stack)).isSome = true ∨
      ∃ component, (m.step L (.processComponent component outcome stack)).isSome = true := by
  cases hril : m.rilQueue with
  | cons request queue => exact .inl (by simp [step, hf, hril])
  | nil =>
    cases hicc : m.componentQueue .icc with
    | cons request queue => exact .inr ⟨.icc, by simp [step, hf, hicc]⟩
    | nil =>
      cases hradio : m.componentQueue .radio with
      | cons request queue => exact .inr ⟨.radio, by simp [step, hf, hradio]⟩
      | nil => exact absurd (by rw [waiting, hril, hicc, hradio]; rfl) hw

lemma sound_initial : initial.Sound L := ⟨rfl, by simp [initial]⟩

lemma answers_right_iff (hr : m.Routed []) : m.AnswersRight L ↔ m.Sound L := by
  refine ⟨fun h => ⟨h.unfaulted, h.right⟩, fun h => ⟨h.1, ?_, h.2⟩⟩
  rw [List.perm_iff_count]
  intro request
  rw [List.count_append]
  exact hr.once h.1 request

end MockRil

/-- A protobuf is one string, and a number is exact. -/
def plainLibrary : MockLibrary where
  strings bytes := if bytes = [] then [] else [bytes]
  integers _ := []
  cardStatus _ := ⟨1, 0, 0, 8, 8, 0, []⟩
  retriesRemaining _ := 3
  calls _ := []
  signalStrength _ := ⟨0, 0, 0, 0, 0, 0, 0, 0, 0, 0, 0, 0⟩
  operator _ := ⟨none, none, none⟩
  throughNumber token := token

def clearedStack : StackContents where
  cardStatus := ⟨0, 0, 0, 0, 0, 0, List.replicate rilCardMaxApps ⟨0, 0, 0, [], [], 0, 0, 0⟩⟩
  applications := List.length_replicate
  signalStrength := ⟨0, 0, 0, 0, 0, 0, 0, 0, 0, 0, 0, 0⟩

/-- The IMSI, and a request that there is not -/
def imsiRun : List MockRilAction :=
  [.addRequest ⟨11, 5⟩ ⟨0, none, none⟩, .addRequest ⟨200, 6⟩ ⟨0, none, none⟩, .processRequest clearedStack,
    .processComponent .icc (.returned rilESuccess [51, 49]) clearedStack]

/-- A dial for which the radio has no call left -/
def dialRun : List MockRilAction :=
  [.addRequest ⟨10, 7⟩ ⟨12, some [53, 53, 53], none⟩, .processRequest clearedStack,
    .processComponent .radio (.returned rilEGenericFailure []) clearedStack]

end Ril.Mock
