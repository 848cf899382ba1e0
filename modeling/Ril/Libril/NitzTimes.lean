import Mathlib.Data.List.Perm.Basic
import Mathlib.Data.List.Range
import Ril.Libril.CommandSessions
import Ril.Libril.UnsolResponses
import Ril.Libril.WakeTimeouts

/-! The unsolicited responses that are sent, and the NITZ time that is kept for the next client. -/

namespace Ril.Libril

open Lib Ril.Ipc

def rilUnsolNitzTimeReceived : Int32 := 1008

def rilUnsolRilConnected : Int32 := 1034

/-- The parcel of `RIL_onUnsolicitedResponse`. `none` where its behaviour is undefined, and an inner `none` where nothing
is sent. -/
def unsolParcel (env : MarshalEnv) (unsolResponse : Int32) (response responselen : ℕ) (newState : Int32)
    (timeReceived : UInt64) : Option (Option Bytes) :=
  match unsolResponseInfo sUnsolResponses unsolResponse with
  | none => some none
  | some info =>
    (info.responseFunction.marshal env response responselen).map fun m =>
      if m.ret ≠ 0 then none
      else some (int32Bytes responseUnsolicited ++ int32Bytes unsolResponse ++ m.bytes ++
        if unsolResponse = rilUnsolResponseRadioStateChanged then int32Bytes newState
        else if unsolResponse = rilUnsolNitzTimeReceived then numberBytes 8 timeReceived.toNat
        else [])

/-- Whether `sendResponse` returns 0 -/
def isSent (data : Bytes) (socket : Option CommandSocket) : Bool := socket.isSome && data.length ≤ maxCommandBytes

/-- The sockets of the clients, the NITZ time that is kept, and how far a new client has been greeted -/
structure NitzTimes where
  sockets : RilSocketId → Option CommandSocket
  lastNitzTimeData : Option Bytes
  greeting : Option (RilSocketId × ℕ)

namespace NitzTimes

variable (d : NitzTimes) (socketId : RilSocketId)

def send (data : Bytes) : NitzTimes :=
  { d with sockets := Function.update d.sockets socketId (sendResponseRaw data (d.sockets socketId)) }

/-- A NITZ time that could not be sent takes the place of the one that is kept. -/
def respond (unsolResponse : Int32) (data : Bytes) : NitzTimes :=
  let d' := d.send socketId data
  if unsolResponse = rilUnsolNitzTimeReceived ∧ isSent data (d.sockets socketId) = false then
    { d' with lastNitzTimeData := some data }
  else d'

/-- The end of `onNewCommandConnect`. It is not looked at whether the time is sent. -/
def resend : NitzTimes :=
  match d.lastNitzTimeData with
  | none => { d with greeting := none }
  | some data => { d.send socketId data with lastNitzTimeData := none, greeting := none }

end NitzTimes

/-- A NITZ time that was sent, to whom, and whether it had been kept before -/
structure NitzDelivery where
  number : ℕ
  client : RilSocketId
  resent : Bool
deriving DecidableEq, Repr

/-- With the NITZ times received so far and their sockets, of which one is kept. A time is lost to a newer one, or because
it is too long. -/
structure NitzHistory where
  times : NitzTimes
  received : List (Bytes × RilSocketId)
  kept : Option ℕ
  lost : List (ℕ × Option ℕ)
  delivered : List NitzDelivery
  /-- those that the client that is connected was sent -/
  seen : RilSocketId → List ℕ

def nitzStart : NitzHistory := ⟨⟨fun _ => none, none, none⟩, [], none, [], [], fun _ => []⟩

namespace NitzHistory

variable (h : NitzHistory) (socketId : RilSocketId)

def deliver (number : ℕ) (resent : Bool) : NitzHistory :=
  { h with
    delivered := h.delivered ++ [⟨number, socketId, resent⟩]
    seen := Function.update h.seen socketId (h.seen socketId ++ [number]) }

/-- The next number is that of the time that was received. -/
def receive (data : Bytes) : NitzHistory :=
  let number := h.received.length
  let h' := { h with received := h.received ++ [(data, socketId)] }
  if isSent data (h.times.sockets socketId) then h'.deliver socketId number false
  else { h' with kept := some number, lost := h.lost ++ (h.kept.map fun n => (n, some number)).toList }

def respond (unsolResponse : Int32) (data : Bytes) : NitzHistory :=
  let h' := if unsolResponse = rilUnsolNitzTimeReceived then h.receive socketId data else h
  { h' with times := h.times.respond socketId unsolResponse data }

def resend : NitzHistory :=
  let h' := match h.kept, h.times.lastNitzTimeData with
    | some number, some data =>
      if isSent data (h.times.sockets socketId) then { h.deliver socketId number true with kept := none }
      else { h with kept := none, lost := h.lost ++ [(number, none)] }
    | _, _ => h
  { h' with times := h.times.resend socketId }

def setGreeting (greeting : Option (RilSocketId × ℕ)) : NitzHistory :=
  { h with times := { h.times with greeting := greeting } }

end NitzHistory

inductive NitzAction
  | accept (socketId : RilSocketId) (accepts : List ℕ)
  | greet (env : MarshalEnv) (rilVer : ℕ) (newState : Int32)
  | close (socketId : RilSocketId)
  | respond (socketId : RilSocketId) (env : MarshalEnv) (unsolResponse : Int32) (response responselen : ℕ)
      (newState : Int32) (timeReceived : UInt64)

/-- A client is greeted with its version, the radio state and the time that is kept. Other threads may respond in
between. What `processRadioState` sends are steps of their own. -/
def nitzStep (h : NitzHistory) : NitzAction → Option NitzHistory
  | .accept socketId accepts =>
    if h.times.greeting = none ∧ h.times.sockets socketId = none then
      some { h with
        times := { h.times with
          sockets := Function.update h.times.sockets socketId (some ⟨[], accepts⟩)
          greeting := some (socketId, 0) }
        seen := Function.update h.seen socketId [] }
    else none
  | .greet env rilVer newState =>
    match h.times.greeting with
    | none => none
    | some (socketId, 0) =>
      (unsolParcel env rilUnsolRilConnected rilVer 4 newState 0).map fun data =>
        (data.elim h (h.respond socketId rilUnsolRilConnected)).setGreeting (some (socketId, 1))
    | some (socketId, 1) =>
      (unsolParcel env rilUnsolResponseRadioStateChanged 0 0 newState 0).map fun data =>
        (data.elim h (h.respond socketId rilUnsolResponseRadioStateChanged)).setGreeting (some (socketId, 2))
    | some (socketId, _) => some (h.resend socketId)
  | .close socketId =>
    if h.times.greeting = none then
      some { h with times := { h.times with sockets := Function.update h.times.sockets socketId none } }
    else none
  | .respond socketId env unsolResponse response responselen newState timeReceived =>
    (unsolParcel env unsolResponse response responselen newState timeReceived).map fun data =>
      data.elim h (h.respond socketId unsolResponse)

/-- The parcel of a time -/
def nitzContent (received : List (Bytes × RilSocketId)) (number : ℕ) : Option Bytes := received[number]?.map Prod.fst

/-- What was written to the client are frames, and the times among them are in this order. -/
def SeenBy (contents : List Bytes) (socket : Option CommandSocket) : Prop :=
  ∀ s, socket = some s → ∃ frames : List Bytes, s.written = frames.flatMap frameOf ∧ contents.Sublist frames

/-- Every time that was received was sent to one client once, or is kept, or was lost. -/
structure NitzConserved (h : NitzHistory) : Prop where
  numbers : (h.delivered.map NitzDelivery.number ++ (h.kept.toList ++ h.lost.map Prod.fst)).Perm
    (List.range h.received.length)
  data : h.times.lastNitzTimeData = h.kept.bind (nitzContent h.received)
  source : ∀ e ∈ h.delivered, e.resent = false → h.received[e.number]?.map Prod.snd = some e.client
  lost : ∀ e ∈ h.lost, e.2.elim (∃ data, nitzContent h.received e.1 = some data ∧ maxCommandBytes < data.length)
    fun newer => e.1 < newer ∧ newer < h.received.length
  client : ∀ socketId, ∀ n ∈ h.seen socketId, ∃ e ∈ h.delivered, e.number = n ∧ e.client = socketId
  seen : ∀ socketId, SeenBy ((h.seen socketId).filterMap (nitzContent h.received)) (h.times.sockets socketId)

/-- A client that is greeted is connected. -/
structure NitzInv (h : NitzHistory) : Prop extends NitzConserved h where
  greeted : ∀ g, h.times.greeting = some g → (h.times.sockets g.1).isSome = true

section

variable {contents : List Bytes} {socket : Option CommandSocket} {data : Bytes} {h : NitzHistory} {n : ℕ}
  {socketId : RilSocketId}

lemma send_response_frames (socket : CommandSocket) (data : Bytes) :
    ∃ socket', sendResponseRaw data (some socket) = some socket' ∧
      socket'.written = socket.written ++ if data.length ≤ maxCommandBytes then frameOf data else [] := by
  by_cases hsize : data.length ≤ maxCommandBytes
  · rw [if_pos hsize]
    exact send_response_raw_written socket hsize
  · refine ⟨socket, ?_, by rw [if_neg hsize, List.append_nil]⟩
    rw [sendResponseRaw, Option.map_some, if_pos (Nat.not_le.mp hsize)]

lemma SeenBy.send (hs : SeenBy contents socket) (data : Bytes) : SeenBy contents (sendResponseRaw data socket) := by
  rintro s' hs'
  cases socket with
  | none => cases hs'
  | some s =>
    obtain ⟨frames, hframes, hsub⟩ := hs s rfl
    obtain ⟨s'', hsent, hwritten⟩ := send_response_frames s data
    obtain rfl := Option.some.inj (hsent.symm.trans hs')
    by_cases hsize : data.length ≤ maxCommandBytes
    · refine ⟨frames ++ [data], ?_, hsub.trans (List.sublist_append_left _ _)⟩
      rw [hwritten, if_pos hsize, hframes, List.flatMap_append, List.flatMap_singleton]
    · exact ⟨frames, by rw [hwritten, if_neg hsize, List.append_nil, hframes], hsub⟩

lemma SeenBy.deliver (hs : SeenBy contents socket) (hsent : isSent data socket = true) :
    SeenBy (contents ++ [data]) (sendResponseRaw data socket) := by
  rintro s' hs'
  cases socket with
  | none => cases hs'
  | some s =>
    have hsize : data.length ≤ maxCommandBytes := by simpa [isSent] using hsent
    obtain ⟨frames, hframes, hsub⟩ := hs s rfl
    obtain ⟨s'', hwritten', hwritten⟩ := send_response_frames s data
    obtain rfl := Option.some.inj (hwritten'.symm.trans hs')
    refine ⟨frames ++ [data], ?_, hsub.append (List.Sublist.refl _)⟩
    rw [hwritten, if_pos hsize, hframes, List.flatMap_append, List.flatMap_singleton]

lemma content_of_lt (hn : n < h.received.length) (data : Bytes) (socketId : RilSocketId) :
    nitzContent (h.received ++ [(data, socketId)]) n = nitzContent h.received n := by
  rw [nitzContent, List.getElem?_append_left hn, nitzContent]

lemma NitzConserved.number_lt (hc : NitzConserved h)
    (hn : n ∈ h.delivered.map NitzDelivery.number ++ (h.kept.toList ++ h.lost.map Prod.fst)) : n < h.received.length :=
  List.mem_range.mp (hc.numbers.mem_iff.mp hn)

lemma NitzConserved.seen_lt (hc : NitzConserved h) (hn : n ∈ h.seen socketId) : n < h.received.length := by
  obtain ⟨e, he, rfl, -⟩ := hc.client socketId n hn
  exact hc.number_lt (List.mem_append_left _ (List.mem_map_of_mem he))

lemma respond_eq (d : NitzTimes) (socketId : RilSocketId) (unsolResponse : Int32) (data : Bytes) :
    d.respond socketId unsolResponse data =
      { d.send socketId data with
        lastNitzTimeData := if unsolResponse = rilUnsolNitzTimeReceived ∧ isSent data (d.sockets socketId) = false then
          some data else d.lastNitzTimeData } := by
  rw [NitzTimes.respond]
  split
  · rfl
  · rfl

lemma SeenBy.send_update {sockets : RilSocketId → Option CommandSocket} {seen : RilSocketId → List Bytes}
    (hs : ∀ s, SeenBy (seen s) (sockets s)) (socketId : RilSocketId) (data : Bytes) (s : RilSocketId) :
    SeenBy (seen s) (Function.update sockets socketId (sendResponseRaw data (sockets socketId)) s) := by
  by_cases he : s = socketId
  · subst he
    rw [Function.update_self]
    exact (hs s).send data
  · rw [Function.update_of_ne he]
    exact hs s

/-- One more time is sent to its client. -/
lemma SeenBy.deliver_update {sockets : RilSocketId → Option CommandSocket} {seen : RilSocketId → List ℕ}
    {content : ℕ → Option Bytes} (hs : ∀ s, SeenBy ((seen s).filterMap content) (sockets s)) (hn : content n = some data)
    (hsent : isSent data (sockets socketId) = true) (s : RilSocketId) :
    SeenBy ((Function.update seen socketId (seen socketId ++ [n]) s).filterMap content)
      (Function.update sockets socketId (sendResponseRaw data (sockets socketId)) s) := by
  by_cases he : s = socketId
  · subst he
    rw [Function.update_self, Function.update_self, List.filterMap_append, List.filterMap_cons, hn]
    exact (hs s).deliver hsent
  · rw [Function.update_of_ne he, Function.update_of_ne he]
    exact hs s

lemma client_snoc {seen : RilSocketId → List ℕ} {delivered : List NitzDelivery}
    (hc : ∀ s, ∀ n ∈ seen s, ∃ e ∈ delivered, e.number = n ∧ e.client = s) (e : NitzDelivery) (s : RilSocketId) :
    ∀ n ∈ Function.update seen e.client (seen e.client ++ [e.number]) s, ∃ e' ∈ delivered ++ [e],
      e'.number = n ∧ e'.client = s := by
  have hold (n : ℕ) (hn : n ∈ seen s) : ∃ e' ∈ delivered ++ [e], e'.number = n ∧ e'.client = s := by
    obtain ⟨e', he', hen⟩ := hc s n hn
    exact ⟨e', List.mem_append_left _ he', hen⟩
  intro n hn
  by_cases he : s = e.client
  · subst he
    rw [Function.update_self] at hn
    rcases List.mem_append.mp hn with hn | hn
    · exact hold n hn
    · obtain rfl := List.mem_singleton.mp hn
      exact ⟨e, List.mem_append_right _ List.mem_cons_self, rfl, rfl⟩
  · rw [Function.update_of_ne he] at hn
    exact hold n hn

/-- A response that is not of the time -/
lemma NitzConserved.respond_other (hc : NitzConserved h) {unsolResponse : Int32}
    (hcode : unsolResponse ≠ rilUnsolNitzTimeReceived) (socketId : RilSocketId) (data : Bytes) :
    NitzConserved (h.respond socketId unsolResponse data) := by
  rw [NitzHistory.respond, if_neg hcode, respond_eq, if_neg fun ht => hcode ht.1]
  exact ⟨hc.numbers, hc.data, hc.source, hc.lost, hc.client, SeenBy.send_update hc.seen socketId data⟩

/-- One more time is received, and nothing is known of it yet. -/
structure NitzReceived (h : NitzHistory) (received : List (Bytes × RilSocketId)) : Prop where
  data : h.kept.bind (nitzContent received) = h.kept.bind (nitzContent h.received)
  source : ∀ e ∈ h.delivered, e.resent = false → received[e.number]?.map Prod.snd = some e.client
  lost : ∀ e ∈ h.lost, e.2.elim (∃ data, nitzContent received e.1 = some data ∧ maxCommandBytes < data.length)
    fun newer => e.1 < newer ∧ newer < received.length
  seen : ∀ s, (h.seen s).filterMap (nitzContent received) = (h.seen s).filterMap (nitzContent h.received)

lemma NitzConserved.received (hc : NitzConserved h) (data : Bytes) (socketId : RilSocketId) :
    NitzReceived h (h.received ++ [(data, socketId)]) where
  data := by
    cases hk : h.kept with
    | none => rfl
    | some n =>
      have hn : n < h.received.length := hc.number_lt (by simp [hk])
      exact content_of_lt hn data socketId
  source e he hresent := by
    rw [List.getElem?_append_left (hc.number_lt (List.mem_append_left _ (List.mem_map_of_mem he)))]
    exact hc.source e he hresent
  lost := by
    rintro ⟨n, newer⟩ he
    have hn : n < h.received.length :=
      hc.number_lt (List.mem_append_right _ (List.mem_append_right _ (List.mem_map_of_mem he)))
    have hl := hc.lost _ he
    cases newer with
    | none =>
      obtain ⟨data', hdata, hlong⟩ := hl
      exact ⟨data', (content_of_lt hn data socketId).trans hdata, hlong⟩
    | some newer =>
      refine ⟨hl.1, ?_⟩
      rw [List.length_append]
      exact Nat.lt_add_right _ hl.2
  seen s := List.filterMap_congr fun _ hn => content_of_lt (hc.seen_lt hn) data socketId

lemma content_last (received : List (Bytes × RilSocketId)) (data : Bytes) (socketId : RilSocketId) :
    nitzContent (received ++ [(data, socketId)]) received.length = some data := by
  rw [nitzContent, List.getElem?_concat_length]
  rfl

/-- A time that is sent when it is received -/
lemma NitzConserved.respond_sent (hc : NitzConserved h) (hsent : isSent data (h.times.sockets socketId) = true) :
    NitzConserved (h.respond socketId rilUnsolNitzTimeReceived data) := by
  have hr := hc.received data socketId
  have hnot : ¬(rilUnsolNitzTimeReceived = rilUnsolNitzTimeReceived ∧ isSent data (h.times.sockets socketId) = false) := by
    rw [hsent]
    exact fun ht => absurd ht.2 (by decide)
  rw [NitzHistory.respond, if_pos rfl, NitzHistory.receive, respond_eq, if_neg hnot]
  dsimp only
  rw [if_pos hsent, NitzHistory.deliver]
  have hseen (s : RilSocketId) : SeenBy ((h.seen s).filterMap (nitzContent (h.received ++ [(data, socketId)])))
      (h.times.sockets s) := by
    rw [hr.seen s]
    exact hc.seen s
  refine ⟨?_, hc.data.trans hr.data.symm, ?_, hr.lost, client_snoc hc.client ⟨_, socketId, false⟩, ?_⟩
  · dsimp only
    rw [List.length_append, List.length_singleton, List.range_succ, List.map_append, List.append_assoc]
    refine (List.perm_append_comm.append_left _).trans ?_
    rw [← List.append_assoc]
    exact hc.numbers.append_right _
  · rintro e he hresent
    rcases List.mem_append.mp he with he | he
    · exact hr.source e he hresent
    · obtain rfl := List.mem_singleton.mp he
      dsimp only
      rw [List.getElem?_concat_length]
      rfl
  · exact SeenBy.deliver_update hseen (content_last _ _ _) hsent

/-- A time that is not sent is kept, and another one may be lost for it. -/
lemma NitzConserved.respond_kept (hc : NitzConserved h) (hsent : isSent data (h.times.sockets socketId) = false) :
    NitzConserved (h.respond socketId rilUnsolNitzTimeReceived data) := by
  have hr := hc.received data socketId
  rw [NitzHistory.respond, if_pos rfl, NitzHistory.receive, respond_eq, if_pos ⟨rfl, hsent⟩]
  dsimp only
  rw [if_neg (by rw [hsent]; decide)]
  have hnumbers : ((h.kept.map fun n => (n, some h.received.length)).toList).map Prod.fst = h.kept.toList := by
    cases h.kept with
    | none => rfl
    | some n => rfl
  refine ⟨?_, (content_last _ _ _).symm, hr.source, ?_, hc.client, fun s => ?_⟩
  · dsimp only
    rw [List.length_append, List.length_singleton, List.range_succ, List.map_append, hnumbers, Option.toList_some]
    -- the number of the time comes behind the others
    have hperm : ([h.received.length] ++ (h.lost.map Prod.fst ++ h.kept.toList)).Perm
        (h.kept.toList ++ h.lost.map Prod.fst ++ [h.received.length]) :=
      List.perm_append_comm.trans (List.perm_append_comm.append_right _)
    refine (hperm.append_left _).trans ?_
    rw [← List.append_assoc]
    exact hc.numbers.append_right _
  · rintro e he
    rcases List.mem_append.mp he with he | he
    · exact hr.lost e he
    · obtain ⟨n, hn, rfl⟩ := Option.map_eq_some_iff.mp (Option.mem_toList.mp he)
      have hlt : n < h.received.length := hc.number_lt (by simp [hn])
      refine ⟨hlt, ?_⟩
      dsimp only
      rw [List.length_append]
      exact Nat.lt_succ_self _
  · dsimp only
    rw [hr.seen s]
    exact SeenBy.send_update hc.seen socketId data s

lemma NitzConserved.kept_content (hc : NitzConserved h) (hk : h.kept = some n) :
    ∃ data, nitzContent h.received n = some data ∧ h.times.lastNitzTimeData = some data := by
  have hn : n < h.received.length := hc.number_lt (by simp [hk])
  have hcontent : nitzContent h.received n = some h.received[n].1 := by
    rw [nitzContent, List.getElem?_eq_getElem hn]
    rfl
  refine ⟨_, hcontent, ?_⟩
  rw [hc.data, hk, Option.bind_some, hcontent]

/-- The time that was kept is sent to the new client. -/
lemma NitzConserved.resend_sent (hc : NitzConserved h) (hk : h.kept = some n)
    (hdata : nitzContent h.received n = some data) (hlast : h.times.lastNitzTimeData = some data)
    (hsent : isSent data (h.times.sockets socketId) = true) : NitzConserved (h.resend socketId) := by
  rw [NitzHistory.resend, NitzTimes.resend, hk, hlast]
  dsimp only
  rw [if_pos hsent, NitzHistory.deliver]
  refine ⟨?_, rfl, ?_, hc.lost, client_snoc hc.client ⟨n, socketId, true⟩, ?_⟩
  · dsimp only
    have hnumbers := hc.numbers
    rw [hk, Option.toList_some] at hnumbers
    rw [List.map_append, List.append_assoc]
    exact hnumbers
  · rintro e he hresent
    rcases List.mem_append.mp he with he | he
    · exact hc.source e he hresent
    · obtain rfl := List.mem_singleton.mp he
      cases hresent
  · exact SeenBy.deliver_update hc.seen hdata hsent

/-- A time that is too long is given up. -/
lemma NitzConserved.resend_lost (hc : NitzConserved h) (hk : h.kept = some n)
    (hdata : nitzContent h.received n = some data) (hlast : h.times.lastNitzTimeData = some data)
    (hsent : isSent data (h.times.sockets socketId) = false) (hopen : (h.times.sockets socketId).isSome = true) :
    NitzConserved (h.resend socketId) := by
  have hlong : maxCommandBytes < data.length := by simpa [isSent, hopen] using hsent
  rw [NitzHistory.resend, NitzTimes.resend, hk, hlast]
  dsimp only
  rw [if_neg (by rw [hsent]; decide)]
  refine ⟨?_, rfl, hc.source, ?_, hc.client, SeenBy.send_update hc.seen socketId data⟩
  · have hnumbers := hc.numbers
    rw [hk, Option.toList_some] at hnumbers
    dsimp only
    rw [List.map_append, Option.toList_none, List.nil_append]
    exact (List.perm_append_comm.append_left _).trans hnumbers
  · rintro e he
    rcases List.mem_append.mp he with he | he
    · exact hc.lost e he
    · obtain rfl := List.mem_singleton.mp he
      exact ⟨data, hdata, hlong⟩

lemma resend_none (socketId : RilSocketId) (hlast : h.times.lastNitzTimeData = none) :
    h.resend socketId = h.setGreeting none := by
  obtain ⟨⟨sockets, last, greeting⟩, received, kept, lost, delivered, seen⟩ := h
  obtain rfl : last = none := hlast
  cases kept with
  | none => rfl
  | some n => rfl

lemma NitzInv.resend (hi : NitzInv h) (hopen : (h.times.sockets socketId).isSome = true) :
    NitzInv (h.resend socketId) := by
  have hc := hi.toNitzConserved
  refine ⟨?_, fun g hg => ?_⟩
  · cases hk : h.kept with
    | none =>
      have hlast : h.times.lastNitzTimeData = none := by rw [hc.data, hk]; rfl
      rw [resend_none socketId hlast]
      exact ⟨hc.numbers, hc.data, hc.source, hc.lost, hc.client, hc.seen⟩
    | some n =>
      obtain ⟨data, hdata, hlast⟩ := hc.kept_content hk
      cases hsent : isSent data (h.times.sockets socketId) with
      | true => exact hc.resend_sent hk hdata hlast hsent
      | false => exact hc.resend_lost hk hdata hlast hsent hopen
  · have hnone : (h.resend socketId).times.greeting = none := by
      rw [NitzHistory.resend, NitzTimes.resend]
      dsimp only
      split
      · rfl
      · rfl
    rw [hnone] at hg
    cases hg

lemma NitzInv.respond (hi : NitzInv h) (socketId : RilSocketId) (unsolResponse : Int32) (data : Bytes) :
    NitzInv (h.respond socketId unsolResponse data) := by
  refine ⟨?_, fun g hg => ?_⟩
  · by_cases hcode : unsolResponse = rilUnsolNitzTimeReceived
    · subst hcode
      cases hsent : isSent data (h.times.sockets socketId) with
      | true => exact hi.respond_sent hsent
      | false => exact hi.respond_kept hsent
    · exact hi.respond_other hcode socketId data
  · have ht : (h.respond socketId unsolResponse data).times = h.times.respond socketId unsolResponse data := rfl
    rw [ht, respond_eq] at hg ⊢
    have hopen := hi.greeted g hg
    dsimp only [NitzTimes.send]
    by_cases hs : g.1 = socketId
    · subst hs
      rw [Function.update_self, sendResponseRaw, Option.isSome_map]
      exact hopen
    · rw [Function.update_of_ne hs]
      exact hopen

lemma NitzInv.respond_parcel (hi : NitzInv h) (socketId : RilSocketId) (unsolResponse : Int32) (parcel : Option Bytes) :
    NitzInv (parcel.elim h (h.respond socketId unsolResponse)) := by
  cases parcel with
  | none => exact hi
  | some data => exact hi.respond socketId unsolResponse data

/-- The greeting goes on with the same client. -/
lemma NitzInv.set_greeting (hi : NitzInv h) (hopen : (h.times.sockets socketId).isSome = true) (k : ℕ) :
    NitzInv (h.setGreeting (some (socketId, k))) :=
  ⟨⟨hi.numbers, hi.data, hi.source, hi.lost, hi.client, hi.seen⟩, fun g hg => by
    obtain rfl := Option.some.inj hg
    exact hopen⟩

lemma respond_parcel_open (h : NitzHistory) (socketId : RilSocketId) (unsolResponse : Int32) (parcel : Option Bytes)
    (hopen : (h.times.sockets socketId).isSome = true) :
    ((parcel.elim h (h.respond socketId unsolResponse)).times.sockets socketId).isSome = true := by
  cases parcel with
  | none => exact hopen
  | some data =>
    have ht : (h.respond socketId unsolResponse data).times = h.times.respond socketId unsolResponse data := rfl
    rw [Option.elim_some, ht, respond_eq]
    dsimp only [NitzTimes.send]
    rw [Function.update_self, sendResponseRaw, Option.isSome_map]
    exact hopen

lemma nitz_inv_start : NitzInv nitzStart where
  numbers := .refl _
  data := rfl
  source e he := absurd he List.not_mem_nil
  lost e he := absurd he List.not_mem_nil
  client _ n hn := absurd hn List.not_mem_nil
  seen _ s hs := by cases hs
  greeted g hg := by cases hg

lemma NitzInv.step (hi : NitzInv h) {a : NitzAction} {h' : NitzHistory} (hs : nitzStep h a = some h') :
    NitzInv h' := by
  cases a with
  | accept socketId accepts =>
    rw [nitzStep, Option.ite_none_right_eq_some] at hs
    obtain ⟨-, hs⟩ := hs
    obtain rfl := Option.some.inj hs
    refine ⟨⟨hi.numbers, hi.data, hi.source, hi.lost, fun s n hn => ?_, fun s => ?_⟩, fun g hg => ?_⟩
    · dsimp only at hn
      by_cases he : s = socketId
      · subst he
        rw [Function.update_self] at hn
        cases hn
      · rw [Function.update_of_ne he] at hn
        exact hi.client s n hn
    · dsimp only
      by_cases he : s = socketId
      · subst he
        rw [Function.update_self, Function.update_self]
        rintro socket hsocket
        obtain rfl := Option.some.inj hsocket
        exact ⟨[], rfl, .refl _⟩
      · rw [Function.update_of_ne he, Function.update_of_ne he]
        exact hi.seen s
    · obtain rfl := Option.some.inj hg
      dsimp only
      rw [Function.update_self]
      rfl
  | greet env rilVer newState =>
    rw [nitzStep] at hs
    cases hg : h.times.greeting with
    | none =>
      rw [hg] at hs
      cases hs
    | some g =>
      obtain ⟨socketId, k⟩ := g
      have hopen := hi.greeted _ hg
      rw [hg] at hs
      match k with
      | 0 =>
        obtain ⟨parcel, -, rfl⟩ := Option.map_eq_some_iff.mp hs
        exact (hi.respond_parcel socketId _ parcel).set_greeting (respond_parcel_open h socketId _ parcel hopen) 1
      | 1 =>
        obtain ⟨parcel, -, rfl⟩ := Option.map_eq_some_iff.mp hs
        exact (hi.respond_parcel socketId _ parcel).set_greeting (respond_parcel_open h socketId _ parcel hopen) 2
      | k + 2 =>
        obtain rfl := Option.some.inj hs
        exact hi.resend hopen
  | close socketId =>
    rw [nitzStep, Option.ite_none_right_eq_some] at hs
    obtain ⟨hg, hs⟩ := hs
    obtain rfl := Option.some.inj hs
    refine ⟨⟨hi.numbers, hi.data, hi.source, hi.lost, hi.client, fun s => ?_⟩, fun g hg' => ?_⟩
    · dsimp only
      by_cases he : s = socketId
      · subst he
        rw [Function.update_self]
        exact fun socket hsocket => by cases hsocket
      · rw [Function.update_of_ne he]
        exact hi.seen s
    · rw [hg] at hg'
      cases hg'
  | respond socketId env unsolResponse response responselen newState timeReceived =>
    obtain ⟨parcel, -, rfl⟩ := Option.map_eq_some_iff.mp hs
    exact hi.respond_parcel socketId _ parcel

end

/-- A time comes for the second socket, which has no client, and the next client of the first socket is sent it. -/
def otherSocketRun : List NitzAction := [
  .respond .socket2 (emptyEnv 6) rilUnsolNitzTimeReceived 0 0 0 7,
  .accept .socket1 [],
  .greet (emptyEnv 6) 4096 0, .greet (emptyEnv 6) 4096 0, .greet (emptyEnv 6) 4096 0]

/-- There is one socket, and no time is received while its client is greeted. -/
def Orderly (socketId : RilSocketId) (h : NitzHistory) : NitzAction → Prop
  | .accept s _ => s = socketId
  | .respond s _ unsolResponse _ _ _ _ =>
    s = socketId ∧ (unsolResponse = rilUnsolNitzTimeReceived → h.times.greeting = none)
  | _ => True

def TooLong (h : NitzHistory) (n : ℕ) : Prop :=
  ∃ data, nitzContent h.received n = some data ∧ maxCommandBytes < data.length

/-- A time that is kept and can be sent is newer than all that were sent, and the client is away or is greeted. -/
structure NitzOrdered (socketId : RilSocketId) (h : NitzHistory) : Prop where
  sorted : (h.delivered.map NitzDelivery.number).Pairwise (· < ·)
  kept : ∀ n, h.kept = some n → TooLong h n ∨
    (∀ e ∈ h.delivered, e.number < n) ∧ (h.times.sockets socketId = none ∨ h.times.greeting ≠ none)
  client : ∀ g, h.times.greeting = some g → g.1 = socketId

section

variable {h h' : NitzHistory} {socketId : RilSocketId} {data : Bytes}

lemma delivered_snoc {delivered : List NitzDelivery} {e : NitzDelivery}
    (hs : (delivered.map NitzDelivery.number).Pairwise (· < ·)) (he : ∀ e' ∈ delivered, e'.number < e.number) :
    ((delivered ++ [e]).map NitzDelivery.number).Pairwise (· < ·) := by
  rw [List.map_append, List.pairwise_append]
  refine ⟨hs, List.pairwise_singleton _ _, fun n hn m hm => ?_⟩
  obtain ⟨e', he', rfl⟩ := List.mem_map.mp hn
  obtain rfl := List.mem_singleton.mp hm
  exact he e' he'

lemma send_closed_iff (d : NitzTimes) (socketId : RilSocketId) (data : Bytes) :
    (d.send socketId data).sockets socketId = none ↔ d.sockets socketId = none := by
  dsimp only [NitzTimes.send]
  rw [Function.update_self, sendResponseRaw, Option.map_eq_none_iff]

lemma NitzConserved.delivered_lt (hc : NitzConserved h) {e : NitzDelivery} (he : e ∈ h.delivered) :
    e.number < h.received.length :=
  hc.number_lt (List.mem_append_left _ (List.mem_map_of_mem he))

lemma TooLong.received (hc : NitzConserved h) {n : ℕ} (hk : h.kept = some n) (ht : TooLong h n) (data : Bytes)
    (socketId : RilSocketId) : ∃ data', nitzContent (h.received ++ [(data, socketId)]) n = some data' ∧
      maxCommandBytes < data'.length := by
  obtain ⟨data', hdata, hlong⟩ := ht
  exact ⟨data', (content_of_lt (hc.number_lt (by simp [hk])) data socketId).trans hdata, hlong⟩

lemma NitzOrdered.respond_other (ho : NitzOrdered socketId h) {unsolResponse : Int32}
    (hcode : unsolResponse ≠ rilUnsolNitzTimeReceived) (data : Bytes) :
    NitzOrdered socketId (h.respond socketId unsolResponse data) := by
  rw [NitzHistory.respond, if_neg hcode, respond_eq, if_neg fun ht => hcode ht.1]
  refine ⟨ho.sorted, fun n hn => ?_, ho.client⟩
  rcases ho.kept n hn with hlong | ⟨hnew, haway⟩
  · exact .inl hlong
  · exact .inr ⟨hnew, haway.imp (send_closed_iff _ _ _).mpr id⟩

/-- The client that is sent the time has been greeted, so that no time waits that could be sent to it. -/
lemma NitzOrdered.respond_time (hi : NitzInv h) (ho : NitzOrdered socketId h) (hcalm : h.times.greeting = none)
    (data : Bytes) : NitzOrdered socketId (h.respond socketId rilUnsolNitzTimeReceived data) := by
  have hc := hi.toNitzConserved
  rw [NitzHistory.respond, if_pos rfl, NitzHistory.receive, respond_eq]
  dsimp only
  cases hsent : isSent data (h.times.sockets socketId) with
  | true =>
    rw [if_pos rfl, NitzHistory.deliver]
    refine ⟨delivered_snoc ho.sorted fun e he => hc.delivered_lt he, fun n hn => ?_, ho.client⟩
    rcases ho.kept n hn with hlong | ⟨-, haway | haway⟩
    · exact .inl (hlong.received hc hn data socketId)
    · rw [haway] at hsent
      cases hsent
    · exact absurd hcalm haway
  | false =>
    rw [if_neg Bool.false_ne_true]
    refine ⟨ho.sorted, fun n hn => ?_, ho.client⟩
    obtain rfl : h.received.length = n := Option.some.inj hn
    by_cases hlong : maxCommandBytes < data.length
    · exact .inl ⟨data, content_last _ _ _, hlong⟩
    · refine .inr ⟨fun e he => hc.delivered_lt he, .inl ((send_closed_iff _ _ _).mpr ?_)⟩
      simpa [isSent, Nat.le_of_not_lt hlong] using hsent

lemma NitzOrdered.resend (hi : NitzInv h) (ho : NitzOrdered socketId h) : NitzOrdered socketId (h.resend socketId) := by
  have hc := hi.toNitzConserved
  cases hk : h.kept with
  | none =>
    have hlast : h.times.lastNitzTimeData = none := by rw [hc.data, hk]; rfl
    rw [resend_none socketId hlast]
    exact ⟨ho.sorted, fun n hn => absurd (hk.symm.trans hn) (by simp), fun g hg => by cases hg⟩
  | some n =>
    obtain ⟨data, hdata, hlast⟩ := hc.kept_content hk
    rw [NitzHistory.resend, NitzTimes.resend, hk, hlast]
    dsimp only
    cases hsent : isSent data (h.times.sockets socketId) with
    | true =>
      rw [if_pos rfl, NitzHistory.deliver]
      refine ⟨delivered_snoc ho.sorted fun e he => ?_, fun m hm => (by cases hm), fun g hg => by cases hg⟩
      rcases ho.kept n hk with ⟨data', hdata', hlong⟩ | ⟨hnew, -⟩
      · obtain rfl := Option.some.inj (hdata.symm.trans hdata')
        have hshort : data.length ≤ maxCommandBytes := by
          rw [isSent, Bool.and_eq_true, decide_eq_true_eq] at hsent
          exact hsent.2
        omega
      · exact hnew e he
    | false =>
      rw [if_neg (by decide)]
      exact ⟨ho.sorted, fun m hm => (by cases hm), fun g hg => by cases hg⟩

lemma NitzOrdered.greet (ho : NitzOrdered socketId h) {unsolResponse : Int32}
    (hcode : unsolResponse ≠ rilUnsolNitzTimeReceived) (parcel : Option Bytes) (k : ℕ) :
    NitzOrdered socketId ((parcel.elim h (h.respond socketId unsolResponse)).setGreeting (some (socketId, k))) := by
  have ho' : NitzOrdered socketId (parcel.elim h (h.respond socketId unsolResponse)) := by
    cases parcel with
    | none => exact ho
    | some data => exact ho.respond_other hcode data
  refine ⟨ho'.sorted, fun n hn => ?_, fun g hg => ?_⟩
  · rcases ho'.kept n hn with hlong | ⟨hnew, -⟩
    · exact .inl hlong
    · exact .inr ⟨hnew, .inr (by simp [NitzHistory.setGreeting])⟩
  · obtain rfl := Option.some.inj hg
    rfl

lemma NitzOrdered.step (hi : NitzInv h) (ho : NitzOrdered socketId h) {a : NitzAction} (ha : Orderly socketId h a)
    (hs : nitzStep h a = some h') : NitzOrdered socketId h' := by
  cases a with
  | accept s accepts =>
    obtain rfl : s = socketId := ha
    rw [nitzStep, Option.ite_none_right_eq_some] at hs
    obtain rfl := Option.some.inj hs.2
    refine ⟨ho.sorted, fun n hn => ?_, fun g hg => ?_⟩
    · rcases ho.kept n hn with hlong | ⟨hnew, -⟩
      · exact .inl hlong
      · exact .inr ⟨hnew, .inr (by simp)⟩
    · obtain rfl := Option.some.inj hg
      rfl
  | greet env rilVer newState =>
    rw [nitzStep] at hs
    cases hg : h.times.greeting with
    | none =>
      rw [hg] at hs
      cases hs
    | some g =>
      obtain ⟨s, k⟩ := g
      obtain rfl : s = socketId := ho.client _ hg
      rw [hg] at hs
      match k with
      | 0 =>
        obtain ⟨parcel, -, rfl⟩ := Option.map_eq_some_iff.mp hs
        exact ho.greet (by decide) parcel 1
      | 1 =>
        obtain ⟨parcel, -, rfl⟩ := Option.map_eq_some_iff.mp hs
        exact ho.greet (by decide) parcel 2
      | k + 2 =>
        obtain rfl := Option.some.inj hs
        exact ho.resend hi
  | close s =>
    rw [nitzStep, Option.ite_none_right_eq_some] at hs
    obtain rfl := Option.some.inj hs.2
    refine ⟨ho.sorted, fun n hn => ?_, ho.client⟩
    rcases ho.kept n hn with hlong | ⟨hnew, haway⟩
    · exact .inl hlong
    · refine .inr ⟨hnew, haway.imp_left fun hnone => ?_⟩
      dsimp only
      by_cases he : socketId = s
      · rw [he, Function.update_self]
      · rw [Function.update_of_ne he]
        exact hnone
  | respond s env unsolResponse response responselen newState timeReceived =>
    obtain ⟨rfl, hcalm⟩ : s = socketId ∧ _ := ha
    obtain ⟨parcel, -, rfl⟩ := Option.map_eq_some_iff.mp hs
    cases parcel with
    | none => exact ho
    | some data =>
      by_cases hcode : unsolResponse = rilUnsolNitzTimeReceived
      · subst hcode
        exact ho.respond_time hi (hcalm rfl) data
      · exact ho.respond_other hcode data

end

/-- Two times come while the client is away, and one when it is back. -/
def overtakenRun : List NitzAction := [
  .respond .socket1 (emptyEnv 6) rilUnsolNitzTimeReceived 0 0 0 7,
  .respond .socket1 (emptyEnv 6) rilUnsolNitzTimeReceived 0 0 0 8,
  .accept .socket1 [],
  .greet (emptyEnv 6) 4096 0, .greet (emptyEnv 6) 4096 0, .greet (emptyEnv 6) 4096 0,
  .respond .socket1 (emptyEnv 6) rilUnsolNitzTimeReceived 0 0 0 9]

def orderlyCheck (socketId : RilSocketId) (h : NitzHistory) : NitzAction → Bool
  | .accept s _ => s = socketId
  | .respond s _ unsolResponse _ _ _ _ =>
    s = socketId && (unsolResponse != rilUnsolNitzTimeReceived || h.times.greeting.isNone)
  | _ => true

lemma orderly_of_check {socketId : RilSocketId} {h : NitzHistory} (a : NitzAction)
    (hc : orderlyCheck socketId h a = true) : Orderly socketId h a := by
  cases a with
  | accept s accepts =>
    rw [orderlyCheck, decide_eq_true_eq] at hc
    exact hc
  | respond s env unsolResponse response responselen newState timeReceived =>
    rw [orderlyCheck, Bool.and_eq_true, decide_eq_true_eq, Bool.or_eq_true, bne_iff_ne, Option.isNone_iff_eq_none] at hc
    exact ⟨hc.1, fun hcode => hc.2.resolve_left (not_not.mpr hcode)⟩
  | greet env rilVer newState => trivial
  | close s => trivial

end Ril.Libril
