import Mathlib.Data.List.Nodup
import Ril.Lib.Transition
import Ril.Librilutils.RecordRuns
import Ril.Libril.Commands
import Ril.Libril.SolicitedFrames

/-! The command sockets from byte to byte: what a client sends is read as its records, dispatched and answered. -/

namespace Ril.Libril

open Lib Ril.Ipc Ril.Samsung
open Librilutils (RecordStream recordStreamNew recordStreamGetNext nextRecord Ordered)

def responseUnsolicited : Int32 := 1

def rilErrnoCode : RilErrno → Int32
  | .success => 0
  | .radioNotAvailable => 1
  | .genericFailure => 2
  | .passwordIncorrect => 3
  | .simPin2 => 4
  | .requestNotSupported => 6
  | .opNotAllowedBeforeRegToNw => 9
  | .smsSendFailRetry => 10
  | .modeNotSupported => 13
  | .illegalSimOrMe => 15

/-- The address of the int that a dispatch function answers with -/
def localInt : ℕ := 16

def MarshalEnv.withInt (env : MarshalEnv) (value : ℤ) : MarshalEnv :=
  { env with memory := { env.memory with cells := storeAt env.memory.cells localInt (int32Bytes (Int32.ofInt value)) } }

namespace Requests

def log (d : Requests) (request : ℕ) (e : Effect) : Requests := { d with effects := d.effects ++ [(request, e)] }

/-- `onCommandsSocketClosed` -/
def cancelPending (d : Requests) (socketId : RilSocketId) : Requests :=
  { d with
    pending := Function.update d.pending socketId
      ((d.pending socketId).map fun r => (r.1, { r.2 with cancelled := true })) }

end Requests

namespace RildOutput

/-- The dispatch functions that answer by themselves call `RIL_onRequestComplete`. -/
def applyEffect (env : MarshalEnv) (request : ℕ) (d : RildOutput) : Effect → Option RildOutput
  | .onRequest n data => some { d with requests := d.requests.log request (.onRequest n data) }
  | .undefined => none
  | .onRequestComplete e none =>
    (rilOnRequestComplete env request (rilErrnoCode e) 0 0 d).map fun d =>
      { d with requests := d.requests.log request (.onRequestComplete e none) }
  | .onRequestComplete e (some value) =>
    (rilOnRequestComplete (env.withInt value) request (rilErrnoCode e) localInt 4 d).map fun d =>
      { d with requests := d.requests.log request (.onRequestComplete e (some value)) }

/-- With the number of the request that the command becomes -/
def processCommandBuffer (env : RilEnv) (L : ParcelLib) (marshalEnv : MarshalEnv) (d : RildOutput) (c : Command) :
    Option (RildOutput × Option ℕ) :=
  match newRequestInfo L c.request c.buffer c.socketId with
  | none => some (d, none)
  | some (r, p) =>
    ((dispatchEntry env L c r p).foldlM (applyEffect marshalEnv d.requests.allocated)
      { d with requests := d.requests.put r }).map fun d' => (d', some d.requests.allocated)

def sendResponse (d : RildOutput) (socketId : RilSocketId) (data : Bytes) : RildOutput :=
  { d with sockets := Function.update d.sockets socketId (sendResponseRaw data (d.sockets socketId)) }

end RildOutput

/-- A client that is connected. Its commands are recorded with the number of the request that each became. -/
structure CommandConnection where
  stream : RecordStream
  incoming : Bytes
  received : Bytes
  commands : List (Bytes × Option ℕ)

structure CommandSessions where
  output : RildOutput
  connections : RilSocketId → Option CommandConnection
  /-- the socket whose `processCommandsCallback` runs -/
  loop : Option RilSocketId

def commandSessionsStart : CommandSessions := ⟨⟨requestsStart, fun _ => none⟩, fun _ => none, none⟩

/-- What the dispatching of a record finds, apart from the record -/
structure CommandFound where
  request : Int32
  t : Int32
  ut : UInt8
  radioState : RilRadioState

def CommandFound.command (found : CommandFound) (socketId : RilSocketId) (buffer : Bytes) : Command :=
  ⟨socketId, buffer, found.request, found.t, found.ut, found.radioState⟩

inductive SessionAction
  | connect (socketId : RilSocketId) (memory : ℕ → UInt8) (buffer : ℕ) (accepts : List ℕ)
  | arrive (socketId : RilSocketId) (data : Bytes)
  | readable (socketId : RilSocketId)
  | next (socketId : RilSocketId) (event : ReadEvent) (found : CommandFound) (env : MarshalEnv)
  | complete (env : MarshalEnv) (request : ℕ) (e : Int32) (response responselen : ℕ)
  | unsolicited (socketId : RilSocketId) (code : Int32) (payload : Bytes)
  | issueLocal (request : ℕ) (data : RequestData) (socketId : RilSocketId)

namespace CommandSessions

def setConnection (d : CommandSessions) (socketId : RilSocketId) (c : Option CommandConnection) : CommandSessions :=
  { d with connections := Function.update d.connections socketId c }

/-- After the end of the stream, or an error -/
def close (d : CommandSessions) (socketId : RilSocketId) : CommandSessions :=
  { d with
    output := ⟨d.output.requests.cancelPending socketId, Function.update d.output.sockets socketId none⟩
    loop := none }.setConnection socketId none

end CommandSessions

variable (width : ℕ) (env : RilEnv) (L : ParcelLib)

/-- One iteration of the loop of `processCommandsCallback` is a step, as `RIL_onRequestComplete` and
`RIL_onUnsolicitedResponse` may be called by another thread in between. -/
def sessionStep (d : CommandSessions) : SessionAction → Option CommandSessions
  | .connect socketId memory buffer accepts =>
    if d.loop = none ∧ (d.connections socketId).isNone then
      (recordStreamNew memory buffer maxCommandBytes).map fun stream =>
        { d with
          output := { d.output with sockets := Function.update d.output.sockets socketId (some ⟨[], accepts⟩) }
          }.setConnection socketId (some ⟨stream, [], [], []⟩)
    else none
  | .arrive socketId data =>
    (d.connections socketId).map fun c =>
      d.setConnection socketId (some { c with incoming := c.incoming ++ data, received := c.received ++ data })
  | .readable socketId =>
    if d.loop = none ∧ (d.connections socketId).isSome then some { d with loop := some socketId } else none
  | .next socketId event found marshalEnv =>
    if d.loop = some socketId then
      (d.connections socketId).bind fun c =>
        let result := recordStreamGetNext width event c.stream c.incoming
        let c' := { c with stream := result.2.1, incoming := result.2.2 }
        match result.1.seen result.2.1.memory with
        | .record record =>
          (d.output.processCommandBuffer env L marshalEnv (found.command socketId record)).map fun (output, n) =>
            { d with output := output }.setConnection socketId
              (some { c' with commands := c.commands ++ [(record, n)] })
        | .failed errno =>
          if errno = .eagain ∨ errno = .eintr then
            some ({ d with loop := none }.setConnection socketId (some c'))
          else some (d.close socketId)
        | .endOfStream => some (d.close socketId)
    else none
  | .complete marshalEnv request e response responselen =>
    (rilOnRequestComplete marshalEnv request e response responselen d.output).map fun output =>
      { d with output := output }
  | .unsolicited socketId code payload =>
    some { d with
      output := d.output.sendResponse socketId (int32Bytes responseUnsolicited ++ int32Bytes code ++ payload) }
  | .issueLocal request data socketId =>
    if d.loop = none then
      some { d with output := { d.output with requests := issueLocalRequest d.output.requests request data socketId } }
    else none

/-! ### What is written to a client -/

variable {L : ParcelLib}

/-- The serial of a command -/
def commandToken (L : ParcelLib) (record : Bytes) : Option Int32 := (L.readInt32 (L.readInt32 (L.setData record)).2).1

/-- The requests that the commands became, with their serials -/
def issuedBy (L : ParcelLib) (commands : List (Bytes × Option ℕ)) : List (ℕ × Int32) :=
  commands.filterMap fun command =>
    command.2.bind fun n => (commandToken L command.1).map fun token => (n, token)

def CommandSessions.issued (L : ParcelLib) (d : CommandSessions) (socketId : RilSocketId) : List (ℕ × Int32) :=
  (d.connections socketId).elim [] fun c => issuedBy L c.commands

/-- An answer to a request of the client, or an unsolicited response -/
def IsFor (issued : List (ℕ × Int32)) (content : Bytes) : Option ℕ → Prop
  | some n => ∃ token, (n, token) ∈ issued ∧ solicitedHead token <+: content
  | none => int32Bytes responseUnsolicited <+: content

/-- What was written are unsolicited responses, and answers to requests of the client, one for each at most. -/
structure AnswersOwn (issued : List (ℕ × Int32)) (written : Bytes) (answers : List (Option ℕ × Bytes)) : Prop where
  parses : Parses nextRecord written (answers.map Prod.snd) []
  once : (answers.filterMap Prod.fst).Nodup
  own : ∀ a ∈ answers, IsFor issued a.2 a.1

section

variable {issued issued' : List (ℕ × Int32)} {written data : Bytes} {answers : List (Option ℕ × Bytes)}
  {answered : Option ℕ}

lemma frame_header_declared {n : ℕ} (h : n < 2 ^ 32) (rest : Bytes) :
    Librilutils.declaredLength (frameHeader n ++ rest) = some n := by
  simp only [frameHeader, numberBytes, List.reverse_cons, List.reverse_nil, List.nil_append, List.cons_append,
    Librilutils.declaredLength, UInt8.toNat_ofNat']
  congr 1
  omega

/-- A frame is read back as its content. -/
lemma next_record_frame (h : data.length < 2 ^ 32) (rest : Bytes) :
    nextRecord (frameOf data ++ rest) = some (data, rest) := by
  have hl : (frameHeader data.length).length = 4 := frame_header_length _
  rw [frameOf, List.append_assoc]
  refine Librilutils.next_record_some.mpr ⟨frame_header_declared h _, ?_, ?_, ?_⟩
  · rw [List.length_append, List.length_append, hl, Librilutils.headerSize]
    omega
  · rw [Librilutils.headerSize, List.drop_left' hl, List.take_left]
  · rw [Librilutils.headerSize, ← hl, List.drop_length_add_append, List.drop_left]

lemma IsFor.mono {content : Bytes} (h : IsFor issued content answered) (hs : issued ⊆ issued') :
    IsFor issued' content answered := by
  cases answered with
  | none => exact h
  | some n =>
    obtain ⟨token, ht, hc⟩ := h
    exact ⟨token, hs ht, hc⟩

lemma AnswersOwn.nil : AnswersOwn issued [] [] := ⟨.nil _, List.nodup_nil, fun _ h => absurd h List.not_mem_nil⟩

lemma AnswersOwn.mono (h : AnswersOwn issued written answers) (hs : issued ⊆ issued') :
    AnswersOwn issued' written answers :=
  ⟨h.parses, h.once, fun a ha => (h.own a ha).mono hs⟩

lemma AnswersOwn.snoc (h : AnswersOwn issued written answers) (hsize : data.length ≤ maxCommandBytes)
    (hnew : ∀ n, answered = some n → n ∉ answers.filterMap Prod.fst) (hdata : IsFor issued data answered) :
    AnswersOwn issued (written ++ frameOf data) (answers ++ [(answered, data)]) := by
  have hlt : data.length < 2 ^ 32 := Nat.lt_of_le_of_lt hsize (by decide)
  have hframe : nextRecord ([] ++ frameOf data) = some (data, []) := by
    have hn := next_record_frame hlt []
    rwa [List.append_nil] at hn
  refine ⟨?_, ?_, fun a ha => ?_⟩
  · rw [List.map_append]
    exact (h.parses.extend Librilutils.next_record_stable _).snoc hframe
  · rw [List.filterMap_append]
    cases answered with
    | none => simpa using h.once
    | some n =>
      refine List.nodup_append.mpr ⟨h.once, List.nodup_singleton n, ?_⟩
      rintro m hm m' hm' rfl
      exact hnew n rfl (List.mem_singleton.mp hm' ▸ hm)
  · rcases List.mem_append.mp ha with ha | ha
    · exact h.own a ha
    · rw [List.mem_singleton.mp ha]
      exact hdata

end

/-- For the requests that were issued to each client -/
structure OutputInv (issued : RilSocketId → List (ℕ × Int32)) (d : RildOutput) : Prop where
  pending : ∀ socketId, ∀ r ∈ d.requests.pending socketId, r.1 < d.requests.allocated ∧ r.2.socketId = socketId ∧
    (r.2.isLocal = false → r.2.cancelled = false → (r.1, r.2.token) ∈ issued socketId)
  written : ∀ socketId socket, d.sockets socketId = some socket → ∃ answers,
    AnswersOwn (issued socketId) socket.written answers ∧
      ∀ n ∈ answers.filterMap Prod.fst, n < d.requests.allocated ∧
        ∀ socketId', ∀ r ∈ d.requests.pending socketId', r.1 ≠ n

/-- No request is taken back, and no socket is opened or closed. -/
structure OutputGoesOn (d d' : RildOutput) : Prop where
  allocated : d.requests.allocated ≤ d'.requests.allocated
  sockets : ∀ socketId, (d'.sockets socketId).isSome = (d.sockets socketId).isSome

section

variable {issued issued' : RilSocketId → List (ℕ × Int32)} {d d' d'' : RildOutput}

lemma OutputGoesOn.refl : OutputGoesOn d d := ⟨Nat.le_refl _, fun _ => rfl⟩

lemma OutputGoesOn.trans (h : OutputGoesOn d d') (h' : OutputGoesOn d' d'') : OutputGoesOn d d'' :=
  ⟨Nat.le_trans h.allocated h'.allocated, fun socketId => (h'.sockets socketId).trans (h.sockets socketId)⟩

lemma OutputInv.mono (h : OutputInv issued d) (hs : ∀ socketId, issued socketId ⊆ issued' socketId) :
    OutputInv issued' d := by
  refine ⟨fun socketId r hr => ?_, fun socketId socket hsocket => ?_⟩
  · obtain ⟨hlt, hid, hissued⟩ := h.pending socketId r hr
    exact ⟨hlt, hid, fun hl hc => hs socketId (hissued hl hc)⟩
  · obtain ⟨answers, ha, hn⟩ := h.written socketId socket hsocket
    exact ⟨answers, ha.mono (hs socketId), hn⟩

/-- Fewer requests are pending. -/
lemma OutputInv.fewer (h : OutputInv issued d) {requests : Requests} (ha : requests.allocated = d.requests.allocated)
    (hp : ∀ socketId, requests.pending socketId ⊆ d.requests.pending socketId) :
    OutputInv issued { d with requests := requests } := by
  refine ⟨fun socketId r hr => ?_, fun socketId socket hsocket => ?_⟩
  · dsimp only
    rw [ha]
    exact h.pending socketId r (hp socketId hr)
  · obtain ⟨answers, hanswers, hn⟩ := h.written socketId socket hsocket
    refine ⟨answers, hanswers, fun n hm => ?_⟩
    obtain ⟨hlt, hne⟩ := hn n hm
    exact ⟨ha ▸ hlt, fun socketId' r hr => hne socketId' r (hp socketId' hr)⟩

lemma find_pending {request : ℕ} {info : RequestInfo} (h : d.find request = some info) :
    ∃ socketId, (request, info) ∈ d.requests.pending socketId := by
  rw [RildOutput.find, Option.map_eq_some_iff] at h
  obtain ⟨⟨n, info'⟩, hf, rfl⟩ := h
  have hn : n = request := by simpa using List.find?_some hf
  obtain ⟨socketId, -, hm⟩ := List.mem_flatMap.mp (List.mem_of_find?_eq_some hf)
  exact ⟨socketId, hn ▸ hm⟩

lemma send_response_cases (socket : CommandSocket) (data : Bytes) :
    ∃ socket', sendResponseRaw data (some socket) = some socket' ∧ (socket'.written = socket.written ∨
      data.length ≤ maxCommandBytes ∧ socket'.written = socket.written ++ frameOf data) := by
  by_cases hsize : data.length ≤ maxCommandBytes
  · obtain ⟨socket', hsent, hwritten⟩ := send_response_raw_written socket hsize
    exact ⟨socket', hsent, .inr ⟨hsize, hwritten⟩⟩
  · refine ⟨socket, ?_, .inl rfl⟩
    rw [sendResponseRaw, Option.map_some, if_pos (Nat.not_le.mp hsize)]

lemma send_response_goes_on (d : RildOutput) (socketId : RilSocketId) (data : Bytes) :
    OutputGoesOn d (d.sendResponse socketId data) := by
  refine ⟨Nat.le_refl _, fun other => ?_⟩
  rw [RildOutput.sendResponse]
  dsimp only
  by_cases ho : other = socketId
  · subst ho
    rw [Function.update_self, sendResponseRaw, Option.isSome_map]
  · rw [Function.update_of_ne ho]

/-- What is sent is an answer to a request that was pending until now, or unsolicited. -/
lemma OutputInv.send (h : OutputInv issued d) {requests : Requests} {socketId : RilSocketId} {data : Bytes}
    {answered : Option ℕ} (ha : requests.allocated = d.requests.allocated)
    (hp : ∀ socketId, requests.pending socketId ⊆ d.requests.pending socketId)
    (hnew : ∀ n, answered = some n → (∃ socketId, ∃ r ∈ d.requests.pending socketId, r.1 = n) ∧
      ∀ socketId, ∀ r ∈ requests.pending socketId, r.1 ≠ n)
    (hdata : IsFor (issued socketId) data answered) :
    OutputInv issued ({ d with requests := requests }.sendResponse socketId data) := by
  refine ⟨(h.fewer ha hp).pending, fun other socket hsocket => ?_⟩
  rw [RildOutput.sendResponse] at hsocket
  by_cases ho : other = socketId
  · subst ho
    dsimp only at hsocket
    rw [Function.update_self] at hsocket
    cases hopen : d.sockets other with
    | none =>
      rw [hopen] at hsocket
      cases hsocket
    | some before =>
      obtain ⟨answers, hanswers, hn⟩ := h.written other before hopen
      have hn' : ∀ n ∈ answers.filterMap Prod.fst, n < requests.allocated ∧
          ∀ socketId, ∀ r ∈ requests.pending socketId, r.1 ≠ n := by
        intro n hm
        obtain ⟨hlt, hne⟩ := hn n hm
        exact ⟨ha ▸ hlt, fun socketId r hr => hne socketId r (hp socketId hr)⟩
      obtain ⟨socket', hsent, hwritten⟩ := send_response_cases before data
      rw [hopen, hsent] at hsocket
      obtain rfl := Option.some.inj hsocket
      rcases hwritten with hwritten | ⟨hsize, hwritten⟩
      · exact ⟨answers, hwritten ▸ hanswers, hn'⟩
      · refine ⟨answers ++ [(answered, data)], hwritten ▸ hanswers.snoc hsize ?_ hdata, fun n hm => ?_⟩
        · rintro n rfl hm
          obtain ⟨⟨socketId, r, hr, hrn⟩, -⟩ := hnew n rfl
          exact (hn n hm).2 socketId r hr hrn
        · rw [List.filterMap_append] at hm
          rcases List.mem_append.mp hm with hm | hm
          · exact hn' n hm
          · cases answered with
            | none => cases hm
            | some m =>
              obtain rfl : n = m := by simpa using hm
              obtain ⟨⟨socketId, r, hr, rfl⟩, hne⟩ := hnew n rfl
              exact ⟨ha ▸ (h.pending socketId r hr).1, hne⟩
  · dsimp only at hsocket
    rw [Function.update_of_ne ho] at hsocket
    exact (h.fewer ha hp).written other socket hsocket

lemma OutputGoesOn.of_sockets (ha : d.requests.allocated ≤ d'.requests.allocated) (hs : d'.sockets = d.sockets) :
    OutputGoesOn d d' :=
  ⟨ha, fun socketId => by rw [hs]⟩

lemma dequeue_pending (requests : Requests) (request : ℕ) (socketId : RilSocketId) :
    (requests.checkAndDequeueRequestInfo request).pending socketId ⊆ requests.pending socketId :=
  fun _ hr => List.mem_of_mem_filter hr

lemma OutputInv.dequeue (h : OutputInv issued d) (request : ℕ) : OutputInv issued (d.checkAndDequeue request) :=
  h.fewer rfl (dequeue_pending d.requests request)

lemma response_parcel_head {env : MarshalEnv} {info : RequestInfo} {e : Int32} {response responselen : ℕ}
    {p : CursorBuffer UInt8} (h : responseParcel env info e response responselen = some p) :
    solicitedHead info.token <+: p.data := by
  have hd := response_parcel_data env info e response responselen
  rw [h, Option.map_some] at hd
  split at hd
  · rw [Option.some.inj hd]
    exact List.prefix_append _ _
  · obtain ⟨f, -, hf⟩ := Option.map_eq_some_iff.mp hd.symm
    rw [← hf, List.append_assoc]
    exact List.prefix_append _ _

/-- A request is answered on its own socket, unless it is local or its client is gone. -/
lemma OutputInv.complete (h : OutputInv issued d) {env : MarshalEnv} {request : ℕ} {e : Int32}
    {response responselen : ℕ} (hc : rilOnRequestComplete env request e response responselen d = some d') :
    OutputInv issued d' ∧ OutputGoesOn d d' := by
  rw [rilOnRequestComplete] at hc
  cases hf : d.find request with
  | none =>
    rw [hf] at hc
    obtain rfl := Option.some.inj hc
    exact ⟨h, .refl⟩
  | some info =>
    rw [hf] at hc
    dsimp only at hc
    split at hc
    · obtain rfl := Option.some.inj hc
      exact ⟨h.dequeue request, .of_sockets (Nat.le_refl _) rfl⟩
    · split at hc
      · obtain rfl := Option.some.inj hc
        exact ⟨h.dequeue request, .of_sockets (Nat.le_refl _) rfl⟩
      · rename_i hlocal hcancelled
        obtain ⟨p, hp, rfl⟩ := Option.map_eq_some_iff.mp hc
        obtain ⟨socketId, hm⟩ := find_pending hf
        obtain ⟨-, hid, hissued⟩ := h.pending socketId _ hm
        obtain rfl : info.socketId = socketId := hid
        have hown := hissued (Bool.eq_false_of_not_eq_true hlocal) (Bool.eq_false_of_not_eq_true hcancelled)
        have hgoes := send_response_goes_on d info.socketId p.data
        refine ⟨?_, hgoes.allocated, hgoes.sockets⟩
        refine @OutputInv.send issued d h (d.requests.checkAndDequeueRequestInfo request) info.socketId p.data
          (some request) rfl (dequeue_pending d.requests request) ?_ ⟨info.token, hown, response_parcel_head hp⟩
        rintro n hn
        obtain rfl := Option.some.inj hn
        refine ⟨⟨info.socketId, _, hm, rfl⟩, fun socketId r hr => ?_⟩
        simpa using List.of_mem_filter hr

lemma OutputInv.log (h : OutputInv issued d) (request : ℕ) (e : Effect) :
    OutputInv issued { d with requests := d.requests.log request e } :=
  h.fewer rfl fun _ => List.Subset.refl _

lemma OutputInv.applyEffect (h : OutputInv issued d) {env : MarshalEnv} {request : ℕ} {e : Effect}
    (he : d.applyEffect env request e = some d') : OutputInv issued d' ∧ OutputGoesOn d d' := by
  have hlog {t t' : RildOutput} (ht : OutputInv issued t ∧ OutputGoesOn d t)
      (hl : { t with requests := t.requests.log request e } = t') : OutputInv issued t' ∧ OutputGoesOn d t' := by
    obtain rfl := hl
    exact ⟨ht.1.log request e, ht.2.trans (.of_sockets (Nat.le_refl _) rfl)⟩
  cases e with
  | onRequest n data => exact hlog ⟨h, .refl⟩ (Option.some.inj he)
  | undefined => cases he
  | onRequestComplete e response =>
    cases response with
    | none =>
      obtain ⟨t, ht, hl⟩ := Option.map_eq_some_iff.mp he
      exact hlog (h.complete ht) hl
    | some value =>
      obtain ⟨t, ht, hl⟩ := Option.map_eq_some_iff.mp he
      exact hlog (h.complete ht) hl

lemma OutputInv.applyEffects (es : List Effect) (h : OutputInv issued d) {env : MarshalEnv} {request : ℕ}
    (he : es.foldlM (RildOutput.applyEffect env request) d = some d') :
    OutputInv issued d' ∧ OutputGoesOn d d' := by
  induction es generalizing d with
  | nil =>
    obtain rfl := Option.some.inj he
    exact ⟨h, .refl⟩
  | cons e es ih =>
    rw [List.foldlM_cons] at he
    obtain ⟨t, ht, he⟩ := Option.bind_eq_some_iff.mp he
    obtain ⟨hi, hg⟩ := h.applyEffect ht
    obtain ⟨hi', hg'⟩ := ih hi he
    exact ⟨hi', hg.trans hg'⟩

lemma OutputInv.put (h : OutputInv issued d) {r : RequestInfo} (hr : r.isLocal = false → r.cancelled = false →
    (d.requests.allocated, r.token) ∈ issued r.socketId) :
    OutputInv issued { d with requests := d.requests.put r } := by
  have hmem : ∀ socketId, ∀ x ∈ (d.requests.put r).pending socketId,
      socketId = r.socketId ∧ x = (d.requests.allocated, r) ∨ x ∈ d.requests.pending socketId := by
    intro socketId x hx
    rw [Requests.put] at hx
    dsimp only at hx
    by_cases hs : socketId = r.socketId
    · rw [hs, Function.update_self] at hx
      rcases List.mem_cons.mp hx with hx | hx
      · exact .inl ⟨hs, hx⟩
      · exact .inr (hs ▸ hx)
    · rw [Function.update_of_ne hs] at hx
      exact .inr hx
  refine ⟨fun socketId x hx => ?_, fun socketId socket hsocket => ?_⟩
  · rcases hmem socketId x hx with ⟨rfl, rfl⟩ | hx
    · exact ⟨Nat.lt_succ_self _, rfl, hr⟩
    · obtain ⟨hlt, hrest⟩ := h.pending socketId x hx
      exact ⟨Nat.lt_succ_of_lt hlt, hrest⟩
  · obtain ⟨answers, ha, hn⟩ := h.written socketId socket hsocket
    refine ⟨answers, ha, fun n hm => ?_⟩
    obtain ⟨hlt, hne⟩ := hn n hm
    refine ⟨Nat.lt_succ_of_lt hlt, fun socketId' x hx => ?_⟩
    rcases hmem socketId' x hx with ⟨-, rfl⟩ | hx
    · exact Nat.ne_of_gt hlt
    · exact hne socketId' x hx

/-- A command becomes a request with the next number, and its serial. -/
lemma OutputInv.processCommandBuffer (h : OutputInv issued d) {env : RilEnv} {marshalEnv : MarshalEnv} {c : Command}
    {n : Option ℕ} (hp : d.processCommandBuffer env L marshalEnv c = some (d', n))
    (hs : ∀ socketId, issued socketId ⊆ issued' socketId)
    (hn : ∀ m token, n = some m → commandToken L c.buffer = some token → (m, token) ∈ issued' c.socketId) :
    OutputInv issued' d' ∧ OutputGoesOn d d' ∧
      ∀ m, n = some m → m = d.requests.allocated ∧ m < d'.requests.allocated := by
  rw [RildOutput.processCommandBuffer] at hp
  cases hr : newRequestInfo L c.request c.buffer c.socketId with
  | none =>
    rw [hr] at hp
    obtain ⟨rfl, rfl⟩ := Prod.mk.inj (Option.some.inj hp)
    exact ⟨h.mono hs, .refl, fun m hm => by cases hm⟩
  | some rp =>
    obtain ⟨r, parcel⟩ := rp
    rw [hr] at hp
    obtain ⟨t, ht, heq⟩ := Option.map_eq_some_iff.mp hp
    obtain ⟨rfl, rfl⟩ := Prod.mk.inj heq
    have hinfo : commandToken L c.buffer = some r.token ∧ r.socketId = c.socketId := by
      rw [newRequestInfo] at hr
      split at hr
      · cases hr
      · rename_i token htoken
        split at hr
        · obtain ⟨rfl, -⟩ := Prod.mk.inj (Option.some.inj hr)
          exact ⟨htoken, rfl⟩
        · cases hr
    have hput : OutputInv issued' { d with requests := d.requests.put r } :=
      (h.mono hs).put fun _ _ => hinfo.2 ▸ hn _ _ rfl hinfo.1
    obtain ⟨hi, hg⟩ := OutputInv.applyEffects _ hput ht
    have hlt : d.requests.allocated < t.requests.allocated := Nat.lt_of_succ_le hg.allocated
    refine ⟨hi, ⟨Nat.le_of_lt hlt, hg.sockets⟩, fun m hm => ?_⟩
    obtain rfl := Option.some.inj hm
    exact ⟨rfl, hlt⟩

end

/-! ### What is read from a client -/

/-- With so many requests allocated -/
structure ConnectionInv (width allocated : ℕ) (c : CommandConnection) : Prop where
  ordered : Ordered width c.stream
  room : c.stream.bufferEnd + Librilutils.headerSize + 2 ^ 32 ≤ 2 ^ width
  maxRecordLen : c.stream.maxRecordLen = maxCommandBytes
  parses : Parses nextRecord c.received (c.commands.map Prod.fst) (c.stream.window ++ c.incoming)
  bounded : ∀ command ∈ c.commands, command.1.length ≤ maxCommandBytes
  numbers : (c.commands.filterMap Prod.snd).Nodup
  allocated : ∀ n ∈ c.commands.filterMap Prod.snd, n < allocated

section

variable {width allocated : ℕ} {c : CommandConnection}

lemma ConnectionInv.mono (h : ConnectionInv width allocated c) {allocated' : ℕ} (hle : allocated ≤ allocated') :
    ConnectionInv width allocated' c :=
  { h with allocated := fun n hn => Nat.lt_of_lt_of_le (h.allocated n hn) hle }

/-- The stream after a call, with what is left in the socket -/
structure CalledNext (width : ℕ) (c : CommandConnection) (stream : RecordStream) (incoming : Bytes)
    (record : Option Bytes) : Prop where
  ordered : Ordered width stream
  room : stream.bufferEnd + Librilutils.headerSize + 2 ^ 32 ≤ 2 ^ width
  maxRecordLen : stream.maxRecordLen = maxCommandBytes
  rest : match record with
    | some r => nextRecord (c.stream.window ++ c.incoming) = some (r, stream.window ++ incoming) ∧
        r.length ≤ maxCommandBytes
    | none => stream.window ++ incoming = c.stream.window ++ c.incoming ∧ nextRecord stream.window = none

lemma ConnectionInv.called (h : ConnectionInv width allocated c) (event : ReadEvent) :
    CalledNext width c (recordStreamGetNext width event c.stream c.incoming).2.1
      (recordStreamGetNext width event c.stream c.incoming).2.2
      ((recordStreamGetNext width event c.stream c.incoming).1.seen
        (recordStreamGetNext width event c.stream c.incoming).2.1.memory).record? := by
  have hfits : Librilutils.Fits width event c.stream c.incoming :=
    (Librilutils.fits_run_of_room [event] h.ordered h.room).1
  obtain ⟨ho, hm, hb, -⟩ := Librilutils.get_next_refines h.ordered hfits
  have hspec := Librilutils.get_next_spec h.ordered hfits
  rw [h.maxRecordLen] at hspec hm
  refine ⟨ho, ?_, hm, hspec⟩
  have hend := h.ordered.bufferEnd_eq
  have hend' := ho.bufferEnd_eq
  have hroom := h.room
  rw [RecordStream.capacity, h.maxRecordLen] at hend
  rw [RecordStream.capacity, hm, hb] at hend'
  rw [hend', ← hend]
  exact hroom

lemma ConnectionInv.failed (h : ConnectionInv width allocated c) {stream : RecordStream} {incoming : Bytes}
    (hn : CalledNext width c stream incoming none) :
    ConnectionInv width allocated { c with stream := stream, incoming := incoming } :=
  { h with
    ordered := hn.ordered
    room := hn.room
    maxRecordLen := hn.maxRecordLen
    parses := by
      dsimp only
      rw [hn.rest.1]
      exact h.parses }

lemma ConnectionInv.command (h : ConnectionInv width allocated c) {stream : RecordStream} {incoming record : Bytes}
    {n : Option ℕ} {allocated' : ℕ} (hc : CalledNext width c stream incoming (some record))
    (hle : allocated ≤ allocated') (hn : ∀ m, n = some m → m = allocated ∧ m < allocated') :
    ConnectionInv width allocated'
      { c with stream := stream, incoming := incoming, commands := c.commands ++ [(record, n)] } where
  ordered := hc.ordered
  room := hc.room
  maxRecordLen := hc.maxRecordLen
  parses := by
    rw [List.map_append]
    exact h.parses.snoc hc.rest.1
  bounded command hm := by
    rcases List.mem_append.mp hm with hm | hm
    · exact h.bounded command hm
    · rw [List.mem_singleton.mp hm]
      exact hc.rest.2
  numbers := by
    rw [List.filterMap_append]
    cases n with
    | none => simpa using h.numbers
    | some m =>
      refine List.nodup_append.mpr ⟨h.numbers, List.nodup_singleton m, ?_⟩
      rintro k hk k' hk' rfl
      obtain rfl := List.mem_singleton.mp hk'
      exact absurd (h.allocated k hk) (Nat.not_lt_of_le (Nat.le_of_eq (hn k rfl).1.symm))
  allocated k hk := by
    rw [List.filterMap_append] at hk
    rcases List.mem_append.mp hk with hk | hk
    · exact Nat.lt_of_lt_of_le (h.allocated k hk) hle
    · cases n with
      | none => cases hk
      | some m =>
        obtain rfl : k = m := by simpa using hk
        exact (hn k rfl).2

lemma ConnectionInv.arrive (h : ConnectionInv width allocated c) (data : Bytes) : ConnectionInv width allocated
    { c with incoming := c.incoming ++ data, received := c.received ++ data } :=
  { h with
    parses := by
      dsimp only
      rw [← List.append_assoc]
      exact h.parses.extend Librilutils.next_record_stable data }

end

/-- The buffer of a connection lies low enough for any length that a record may announce. -/
def roomy (width : ℕ) : SessionAction → Prop
  | .connect _ _ buffer _ =>
    buffer + maxCommandBytes + Librilutils.headerSize + Librilutils.headerSize + 2 ^ 32 ≤ 2 ^ width
  | _ => True

structure SessionInv (width : ℕ) (L : ParcelLib) (d : CommandSessions) : Prop where
  output : OutputInv (d.issued L) d.output
  connection : ∀ socketId c, d.connections socketId = some c → ConnectionInv width d.output.requests.allocated c
  idle : ∀ socketId c, d.connections socketId = some c → d.loop ≠ some socketId → nextRecord c.stream.window = none
  sockets : ∀ socketId, (d.output.sockets socketId).isSome = (d.connections socketId).isSome

section

variable {width : ℕ} {d : CommandSessions} {socketId : RilSocketId} {c : CommandConnection}

lemma issued_set (d : CommandSessions) (socketId : RilSocketId) (c : Option CommandConnection) :
    (d.setConnection socketId c).issued L =
      Function.update (d.issued L) socketId (c.elim [] fun c => issuedBy L c.commands) := by
  funext other
  rw [CommandSessions.issued, CommandSessions.setConnection]
  dsimp only
  by_cases ho : other = socketId
  · rw [ho, Function.update_self, Function.update_self]
  · rw [Function.update_of_ne ho, Function.update_of_ne ho]
    rfl

lemma issued_connected (h : d.connections socketId = some c) : d.issued L socketId = issuedBy L c.commands := by
  rw [CommandSessions.issued, h]
  rfl

lemma session_start : SessionInv width L commandSessionsStart where
  output := ⟨fun _ _ hr => absurd hr List.not_mem_nil, fun _ _ h => by cases h⟩
  connection _ _ h := by cases h
  idle _ _ h := by cases h
  sockets _ := rfl

/-- The output of a connection goes on, and the others are left as they are. -/
lemma SessionInv.set (h : SessionInv width L d) (hopen : (d.connections socketId).isSome) {output : RildOutput}
    {loop : Option RilSocketId}
    (ho : OutputInv (Function.update (d.issued L) socketId (issuedBy L c.commands)) output)
    (hg : OutputGoesOn d.output output) (hc : ConnectionInv width output.requests.allocated c)
    (hidle : loop ≠ some socketId → nextRecord c.stream.window = none)
    (hloop : ∀ other, other ≠ socketId → loop ≠ some other → d.loop ≠ some other) :
    SessionInv width L ({ d with output := output, loop := loop }.setConnection socketId (some c)) := by
  refine ⟨?_, fun other c' hc' => ?_, fun other c' hc' hl => ?_, fun other => ?_⟩
  · rw [issued_set]
    exact ho
  · rw [CommandSessions.setConnection] at hc'
    dsimp only at hc'
    by_cases hother : other = socketId
    · subst hother
      rw [Function.update_self] at hc'
      obtain rfl := Option.some.inj hc'
      exact hc
    · rw [Function.update_of_ne hother] at hc'
      exact (h.connection other c' hc').mono hg.allocated
  · rw [CommandSessions.setConnection] at hc'
    dsimp only at hc'
    by_cases hother : other = socketId
    · subst hother
      rw [Function.update_self] at hc'
      obtain rfl := Option.some.inj hc'
      exact hidle hl
    · rw [Function.update_of_ne hother] at hc'
      exact h.idle other c' hc' (hloop other hother hl)
  · rw [CommandSessions.setConnection]
    dsimp only
    rw [hg.sockets, h.sockets]
    by_cases hother : other = socketId
    · rw [hother, Function.update_self, hopen]
      rfl
    · rw [Function.update_of_ne hother]

/-- The same, when no command is added. -/
lemma SessionInv.setStream (h : SessionInv width L d) {c' : CommandConnection} (hopen : d.connections socketId = some c)
    (hcommands : c'.commands = c.commands) (hc : ConnectionInv width d.output.requests.allocated c')
    {loop : Option RilSocketId} (hidle : loop ≠ some socketId → nextRecord c'.stream.window = none)
    (hloop : ∀ other, other ≠ socketId → loop ≠ some other → d.loop ≠ some other) :
    SessionInv width L ({ d with loop := loop }.setConnection socketId (some c')) := by
  have hissued : Function.update (d.issued L) socketId (issuedBy L c'.commands) = d.issued L := by
    rw [hcommands, ← issued_connected hopen, Function.update_eq_self]
  have houtput : OutputInv (Function.update (d.issued L) socketId (issuedBy L c'.commands)) d.output := by
    rw [hissued]
    exact h.output
  exact h.set (by rw [hopen]; rfl) houtput .refl hc hidle hloop

lemma SessionInv.withOutput (h : SessionInv width L d) {output : RildOutput} (ho : OutputInv (d.issued L) output)
    (hg : OutputGoesOn d.output output) : SessionInv width L { d with output := output } where
  output := ho
  connection socketId c hc := (h.connection socketId c hc).mono hg.allocated
  idle := h.idle
  sockets socketId := (hg.sockets socketId).trans (h.sockets socketId)

lemma SessionInv.close (h : SessionInv width L d) (hl : d.loop = some socketId) :
    SessionInv width L (d.close socketId) := by
  have hpending : ∀ other, ∀ r ∈ (d.output.requests.cancelPending socketId).pending other,
      ∃ r' ∈ d.output.requests.pending other, r'.1 = r.1 ∧ r'.2.socketId = r.2.socketId ∧
        (other = socketId ∧ r.2.cancelled = true ∨ other ≠ socketId ∧ r' = r) := by
    intro other r hr
    rw [Requests.cancelPending] at hr
    dsimp only at hr
    by_cases ho : other = socketId
    · rw [ho, Function.update_self] at hr
      obtain ⟨r', hr', rfl⟩ := List.mem_map.mp hr
      exact ⟨r', ho ▸ hr', rfl, rfl, .inl ⟨ho, rfl⟩⟩
    · rw [Function.update_of_ne ho] at hr
      exact ⟨r, hr, rfl, rfl, .inr ⟨ho, rfl⟩⟩
  have hother {other : RilSocketId} {c' : CommandConnection} (hc : (d.close socketId).connections other = some c') :
      other ≠ socketId ∧ d.connections other = some c' := by
    rw [CommandSessions.close, CommandSessions.setConnection] at hc
    dsimp only at hc
    by_cases ho : other = socketId
    · rw [ho, Function.update_self] at hc
      cases hc
    · rw [Function.update_of_ne ho] at hc
      exact ⟨ho, hc⟩
  refine ⟨⟨fun other r hr => ?_, fun other socket hs => ?_⟩, fun other c' hc => ?_, fun other c' hc _ => ?_,
    fun other => ?_⟩
  · obtain ⟨r', hr', hn, hid, hcase⟩ := hpending other r hr
    obtain ⟨hlt, hid', hissued⟩ := h.output.pending other r' hr'
    refine ⟨hn ▸ hlt, hid.symm.trans hid', fun hlocal hcancelled => ?_⟩
    rcases hcase with ⟨-, hc⟩ | ⟨ho, rfl⟩
    · rw [hc] at hcancelled
      cases hcancelled
    · rw [CommandSessions.close, issued_set, Function.update_of_ne ho]
      exact hissued hlocal hcancelled
  · rw [CommandSessions.close, CommandSessions.setConnection] at hs
    dsimp only at hs
    by_cases ho : other = socketId
    · rw [ho, Function.update_self] at hs
      cases hs
    · rw [Function.update_of_ne ho] at hs
      obtain ⟨answers, ha, hn⟩ := h.output.written other socket hs
      rw [CommandSessions.close, issued_set, Function.update_of_ne ho]
      refine ⟨answers, ha, fun n hm => ⟨(hn n hm).1, fun other' r hr => ?_⟩⟩
      obtain ⟨r', hr', hrn, -⟩ := hpending other' r hr
      exact hrn ▸ (hn n hm).2 other' r' hr'
  · exact h.connection other c' (hother hc).2
  · obtain ⟨ho, hc⟩ := hother hc
    refine h.idle other c' hc fun hl' => ho ?_
    exact Option.some.inj (hl'.symm.trans hl)
  · rw [CommandSessions.close, CommandSessions.setConnection]
    dsimp only
    by_cases ho : other = socketId
    · rw [ho, Function.update_self, Function.update_self]
      rfl
    · rw [Function.update_of_ne ho, Function.update_of_ne ho]
      exact h.sockets other

lemma SessionInv.connect (h : SessionInv width L d) (hloop : d.connections socketId = none) {stream : RecordStream}
    (hordered : Ordered width stream) (hwindow : stream.window = []) (hmax : stream.maxRecordLen = maxCommandBytes)
    (hroom : stream.bufferEnd + Librilutils.headerSize + 2 ^ 32 ≤ 2 ^ width) (accepts : List ℕ) :
    SessionInv width L ({ d with
      output := { d.output with sockets := Function.update d.output.sockets socketId (some ⟨[], accepts⟩) }
      }.setConnection socketId (some ⟨stream, [], [], []⟩)) := by
  have hissued : Function.update (d.issued L) socketId [] = d.issued L := by
    rw [Function.update_eq_self_iff, CommandSessions.issued, hloop]
    rfl
  have hnew {other : RilSocketId} {c' : CommandConnection}
      (hc : Function.update d.connections socketId (some ⟨stream, [], [], []⟩) other = some c') :
      other = socketId ∧ c' = ⟨stream, [], [], []⟩ ∨ d.connections other = some c' := by
    by_cases ho : other = socketId
    · rw [ho, Function.update_self] at hc
      exact .inl ⟨ho, (Option.some.inj hc).symm⟩
    · rw [Function.update_of_ne ho] at hc
      exact .inr hc
  refine ⟨?_, fun other c' hc => ?_, fun other c' hc hl => ?_, fun other => ?_⟩
  · rw [issued_set, Option.elim_some]
    refine hissued.symm ▸ ⟨h.output.pending, fun other socket hs => ?_⟩
    dsimp only [CommandSessions.setConnection] at hs
    by_cases ho : other = socketId
    · rw [ho, Function.update_self] at hs
      obtain rfl := Option.some.inj hs
      exact ⟨[], .nil, fun n hn => absurd hn List.not_mem_nil⟩
    · rw [Function.update_of_ne ho] at hs
      exact h.output.written other socket hs
  · rcases hnew hc with ⟨-, rfl⟩ | hc
    · refine ⟨hordered, hroom, hmax, ?_, fun _ hm => absurd hm List.not_mem_nil, List.nodup_nil,
        fun _ hm => absurd hm List.not_mem_nil⟩
      dsimp only
      rw [hwindow]
      exact .nil _
    · exact h.connection other c' hc
  · rcases hnew hc with ⟨-, rfl⟩ | hc
    · dsimp only
      rw [hwindow]
      rfl
    · exact h.idle other c' hc hl
  · dsimp only [CommandSessions.setConnection]
    by_cases ho : other = socketId
    · rw [ho, Function.update_self, Function.update_self]
      rfl
    · rw [Function.update_of_ne ho, Function.update_of_ne ho]
      exact h.sockets other

lemma issued_snoc (commands : List (Bytes × Option ℕ)) (record : Bytes) (n : Option ℕ) :
    issuedBy L commands ⊆ issuedBy L (commands ++ [(record, n)]) ∧ ∀ m token, n = some m →
      commandToken L record = some token → (m, token) ∈ issuedBy L (commands ++ [(record, n)]) := by
  rw [issuedBy, issuedBy, List.filterMap_append]
  refine ⟨List.subset_append_left _ _, ?_⟩
  rintro m token rfl ht
  refine List.mem_append_right _ (List.mem_filterMap.mpr ⟨_, List.mem_singleton_self _, ?_⟩)
  rw [Option.bind_some, ht]
  rfl

/-- One iteration of the loop of `processCommandsCallback` -/
lemma SessionInv.next {env : RilEnv} (h : SessionInv width L d) {event : ReadEvent} {found : CommandFound}
    {marshalEnv : MarshalEnv} {d' : CommandSessions}
    (hs : sessionStep width env L d (.next socketId event found marshalEnv) = some d') : SessionInv width L d' := by
  rw [sessionStep, Option.ite_none_right_eq_some] at hs
  obtain ⟨hl, hs⟩ := hs
  obtain ⟨c, hc, hs⟩ := Option.bind_eq_some_iff.mp hs
  have hcalled := (h.connection socketId c hc).called event
  generalize recordStreamGetNext width event c.stream c.incoming = result at hs hcalled
  dsimp only at hs
  generalize result.1.seen result.2.1.memory = seen at hs hcalled
  have hother (other : RilSocketId) (ho : other ≠ socketId) : d.loop ≠ some other := fun hl' =>
    ho (Option.some.inj (hl'.symm.trans hl))
  cases seen with
  | record record =>
    obtain ⟨⟨output, n⟩, hp, rfl⟩ := Option.map_eq_some_iff.mp hs
    obtain ⟨hsub, hnew⟩ := @issued_snoc L c.commands record n
    have hissued : ∀ other, d.issued L other ⊆
        Function.update (d.issued L) socketId (issuedBy L (c.commands ++ [(record, n)])) other := by
      intro other
      by_cases ho : other = socketId
      · rw [ho, Function.update_self, issued_connected hc]
        exact hsub
      · rw [Function.update_of_ne ho]
        exact List.Subset.refl _
    obtain ⟨ho, hg, hn⟩ := h.output.processCommandBuffer hp hissued fun m token hm ht => by
      rw [CommandFound.command, Function.update_self]
      exact hnew m token hm ht
    refine h.set (by rw [hc]; rfl) ho hg ((h.connection socketId c hc).command hcalled hg.allocated hn) ?_ ?_
    · intro hne
      exact absurd hl hne
    · intro other _ hl'
      exact hl'
  | endOfStream =>
    obtain rfl := Option.some.inj hs
    exact h.close hl
  | failed errno =>
    dsimp only at hs
    split at hs
    · obtain rfl := Option.some.inj hs
      have hfailed := (h.connection socketId c hc).failed hcalled
      refine h.setStream hc ?_ hfailed (fun _ => hcalled.rest.2) fun other ho _ => hother other ho
      rfl
    · obtain rfl := Option.some.inj hs
      exact h.close hl

lemma session_step {env : RilEnv} (h : SessionInv width L d) {a : SessionAction} (ha : roomy width a)
    {d' : CommandSessions} (hs : sessionStep width env L d a = some d') : SessionInv width L d' := by
  cases a with
  | connect socketId memory buffer accepts =>
    rw [sessionStep, Option.ite_none_right_eq_some] at hs
    obtain ⟨⟨-, hnone⟩, hs⟩ := hs
    obtain ⟨stream, hstream, rfl⟩ := Option.map_eq_some_iff.mp hs
    have hend : stream.bufferEnd = buffer + maxCommandBytes + Librilutils.headerSize := by
      rw [recordStreamNew, if_pos (by decide)] at hstream
      obtain rfl := Option.some.inj hstream
      rfl
    have hroom : buffer + maxCommandBytes + Librilutils.headerSize + Librilutils.headerSize + 2 ^ 32 ≤ 2 ^ width := ha
    have hlt : stream.bufferEnd < 2 ^ width := by omega
    obtain ⟨ho, hw, hm⟩ := Librilutils.record_stream_new_ordered hstream hlt
    exact h.connect (Option.isNone_iff_eq_none.mp hnone) ho hw hm (hend ▸ hroom) accepts
  | arrive socketId data =>
    obtain ⟨c, hc, rfl⟩ := Option.map_eq_some_iff.mp hs
    have harrived := (h.connection socketId c hc).arrive data
    refine h.setStream hc ?_ harrived (h.idle socketId c hc) fun _ _ hl => hl
    rfl
  | readable socketId =>
    rw [sessionStep, Option.ite_none_right_eq_some] at hs
    obtain ⟨⟨hl, -⟩, hs⟩ := hs
    obtain rfl := Option.some.inj hs
    refine ⟨h.output, h.connection, fun other c hc _ => h.idle other c hc ?_, h.sockets⟩
    rw [hl]
    exact (Option.some_ne_none other).symm
  | next socketId event found marshalEnv => exact h.next hs
  | complete marshalEnv request e response responselen =>
    obtain ⟨output, ho, rfl⟩ := Option.map_eq_some_iff.mp hs
    obtain ⟨hi, hg⟩ := h.output.complete ho
    exact h.withOutput hi hg
  | unsolicited socketId code payload =>
    obtain rfl := Option.some.inj hs
    refine h.withOutput ?_ (send_response_goes_on d.output socketId _)
    refine @OutputInv.send (d.issued L) d.output h.output d.output.requests socketId _ none rfl
      (fun _ => List.Subset.refl _) (fun _ hn => by cases hn) ?_
    exact (List.prefix_append _ _).trans (List.prefix_append _ _)
  | issueLocal request data socketId =>
    rw [sessionStep, Option.ite_none_right_eq_some] at hs
    obtain ⟨-, hs⟩ := hs
    obtain rfl := Option.some.inj hs
    refine h.withOutput ?_ (.of_sockets (Nat.le_succ _) rfl)
    have hput := @OutputInv.put _ d.output h.output ⟨-1, if request > 10000 then request - 10000 + maxRilSol.toNat
      else request, false, true, socketId⟩ (fun hl => by cases hl)
    exact hput.log d.output.requests.allocated (.onRequest request data)

/-- What a client sent is read as its records, none too long, and they become requests with numbers of their own. What
was written to it reads back as unsolicited responses and answers to its own requests, with their serials, one for each
at most. -/
structure Served (L : ParcelLib) (c : CommandConnection) (socket : CommandSocket) : Prop where
  records : Parses nextRecord c.received (c.commands.map Prod.fst) (c.stream.window ++ c.incoming)
  bounded : ∀ command ∈ c.commands, command.1.length ≤ maxCommandBytes
  numbers : (c.commands.filterMap Prod.snd).Nodup
  answers : ∃ answers, AnswersOwn (issuedBy L c.commands) socket.written answers

end

def roomyCheck (width : ℕ) : SessionAction → Bool
  | .connect _ _ buffer _ =>
    decide (buffer + maxCommandBytes + Librilutils.headerSize + Librilutils.headerSize + 2 ^ 32 ≤ 2 ^ width)
  | _ => true

lemma roomy_of_check {width : ℕ} (a : SessionAction) (h : roomyCheck width a = true) : roomy width a := by
  cases a with
  | connect socketId memory buffer accepts =>
    rw [roomyCheck, decide_eq_true_eq] at h
    exact h
  | _ => trivial

/-- `RIL_REQUEST_GET_SIM_STATUS` with the serial 7 comes in two parts, and fails. -/
def splitRun : List SessionAction := [
  .connect .socket1 (fun _ => 0) 4096 [],
  .arrive .socket1 [0, 0, 0, 8, 1, 0],
  .readable .socket1, .next .socket1 (.ready 5) ⟨0, 0, 0, .simReady⟩ (emptyEnv 6),
  .arrive .socket1 [0, 0, 7, 0, 0, 0],
  .readable .socket1, .next .socket1 (.ready 5) ⟨0, 0, 0, .simReady⟩ (emptyEnv 6),
  .next .socket1 (.failed .eagain) ⟨0, 0, 0, .simReady⟩ (emptyEnv 6),
  .complete (emptyEnv 6) 0 2 0 0]

end Ril.Libril
