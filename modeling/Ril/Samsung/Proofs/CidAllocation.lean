import Ril.Lib.IdPool
import Ril.Samsung.Spec.Connections

/-! The allocation of the cids to the data connections. -/

namespace Ril.Samsung

open Ril.Ipc Ril.Lib

namespace RilData

def cids (s : RilData) : List ℕ := s.dataConnections.map (·.cid)

lemma find_cid_isNone (s : RilData) (cid : ℕ) : (s.dataConnectionFindCid cid).isNone = decide (cid ∉ s.cids) := by
  rw [Bool.eq_iff_iff]
  simp [dataConnectionFindCid, cids]

lemma free_cid_eq (s : RilData) (count : ℕ) : s.freeCid count = leastFree count s.cids := by
  rw [freeCid, leastFree]
  congr 1
  funext cid
  exact s.find_cid_isNone cid

end RilData

/-- What `ril_data_connection_start` finds: the client, and what it answers about the interfaces -/
structure GprsClient where
  client : RilClient
  capable : Bool
  iface : ℕ → Option CString

/-- A caller may pass `NULL`. -/
inductive ConnectionCall
  | start (gprs : GprsClient) (apn username password : Option HeapString)
  | stop (dataConnection : Option ℕ)

/-- The number of cids is a constant of the device. -/
def GprsClient.found (count : ℕ) (gprs : GprsClient) (s : RilData) : RilData :=
  { s with
    env := { gprsCidCount := if gprs.capable then some count else none, gprsIface := gprs.iface }
    fmt := gprs.client }

def dataConnectionStart (apn username password : Option HeapString) : RilM (Option RilDataConnection) :=
  match apn with
  | none => return none
  | some apn => rilDataConnectionStart apn username password

def connectionCall (count : ℕ) (s : RilData) : ConnectionCall → RilData
  | .start gprs apn username password => (dataConnectionStart apn username password (gprs.found count s)).2
  | .stop none => s
  | .stop (some record) => (rilDataConnectionStop record s).2

variable {count : ℕ} {s : RilData} {gprs : GprsClient} {apn : HeapString} {username password : Option HeapString}

/-! ### One call -/

/-- The connection that a start registers -/
def startedConnection (s : RilData) (cid : ℕ) (apn : HeapString) (username password : Option HeapString)
    (iface : CString) : RilDataConnection where
  record := s.heap.next + 1
  node := s.heap.next + 2
  cid := cid
  apn := some apn
  username := username
  password := password
  iface := some ⟨s.heap.next, iface⟩

lemma find_cid_snoc {s : RilData} {c : RilDataConnection} {cs : List RilDataConnection}
    (h : s.dataConnections = cs ++ [c]) (hn : c.cid ∉ cs.map (·.cid)) : s.dataConnectionFindCid c.cid = some c := by
  have hcs : cs.find? (·.cid == c.cid) = none := by
    simp only [List.find?_eq_none, beq_iff_eq]
    intro c' hc' he
    exact hn (he ▸ List.mem_map_of_mem hc')
  simp [RilData.dataConnectionFindCid, h, hcs]

lemma strdup_apply (value : CString) (s : RilData) : strdup value s = (⟨s.heap.next, value⟩, s.heapAlloc) := rfl

lemma start_eq {cid : ℕ} {iface : CString} (hd : s.fmt.data.isNone = false) (hc : s.env.gprsCidCount = some count)
    (hfree : leastFree count s.cids = some cid) (hi : s.env.gprsIface cid = some iface) :
    rilDataConnectionStart apn username password s = (some (startedConnection s cid apn username password iface),
      s.heapAlloc.dataConnectionRegister cid apn username password ⟨s.heap.next, iface⟩) := by
  obtain ⟨⟨-, -, hn⟩, -⟩ := least_free_some_iff.mp hfree
  have hcs : (s.heapAlloc.dataConnectionRegister cid apn username password ⟨s.heap.next, iface⟩).dataConnections =
      s.dataConnections ++ [startedConnection s cid apn username password iface] := rfl
  have hcid : (startedConnection s cid apn username password iface).cid = cid := rfl
  have hfind := find_cid_snoc hcs hn
  rw [hcid] at hfind
  rw [rilDataConnectionStart, get_bind_apply]
  simp [hd, hc, RilData.free_cid_eq, hfree, hi, strdup_apply, hfind]

lemma start_started {cid : ℕ} {iface : CString} (hd : gprs.client.data.isNone = false) (hc : gprs.capable = true)
    (hfree : leastFree count s.cids = some cid) (hi : gprs.iface cid = some iface) :
    rilDataConnectionStart apn username password (gprs.found count s) =
      (some (startedConnection s cid apn username password iface),
        (gprs.found count s).heapAlloc.dataConnectionRegister cid apn username password ⟨s.heap.next, iface⟩) := by
  have hcount : (gprs.found count s).env.gprsCidCount = some count := by simp [GprsClient.found, hc]
  exact start_eq (s := gprs.found count s) hd hcount hfree hi

/-- A start registers a connection, or it changes nothing. -/
lemma start_result (s : RilData) (apn : HeapString) (username password : Option HeapString) :
    rilDataConnectionStart apn username password s = (none, s) ∨ ∃ cid iface,
      rilDataConnectionStart apn username password s = (some (startedConnection s cid apn username password iface),
        s.heapAlloc.dataConnectionRegister cid apn username password ⟨s.heap.next, iface⟩) := by
  cases hd : s.fmt.data with
  | none => exact .inl (by simp [rilDataConnectionStart, hd])
  | some data =>
    cases hc : s.env.gprsCidCount with
    | none => exact .inl (by simp [rilDataConnectionStart, hd, hc])
    | some count =>
      cases hfree : leastFree count s.cids with
      | none => exact .inl (by simp [rilDataConnectionStart, hd, hc, RilData.free_cid_eq, hfree])
      | some cid =>
        cases hi : s.env.gprsIface cid with
        | none => exact .inl (by simp [rilDataConnectionStart, hd, hc, RilData.free_cid_eq, hfree, hi])
        | some iface => exact .inr ⟨cid, iface, start_eq (by simp [hd]) hc hfree hi⟩

/-- Why a start with an APN does not register a connection -/
inductive StartFails (count : ℕ) (gprs : GprsClient) (used : List ℕ) : Prop
  | client (h : gprs.client.data = none)
  | capabilities (h : gprs.capable = false)
  | taken (h : ∀ n, 1 ≤ n → n ≤ count → n ∈ used)
  | interface (cid : ℕ) (least : IsLeast {n | 1 ≤ n ∧ n ≤ count ∧ n ∉ used} cid) (h : gprs.iface cid = none)

lemma start_failed (h : StartFails count gprs s.cids) :
    rilDataConnectionStart apn username password (gprs.found count s) = (none, gprs.found count s) := by
  have hcids : (gprs.found count s).cids = s.cids := rfl
  have hiface : (gprs.found count s).env.gprsIface = gprs.iface := rfl
  have hdata : (gprs.found count s).fmt.data = gprs.client.data := rfl
  have hcount : (gprs.found count s).env.gprsCidCount = if gprs.capable then some count else none := rfl
  rw [rilDataConnectionStart, get_bind_apply]
  cases hd : gprs.client.data with
  | none => simp [hdata, hd]
  | some data =>
    cases hc : gprs.capable with
    | false => simp [hdata, hd, hcount, hc]
    | true =>
      cases h with
      | client h => simp [hd] at h
      | capabilities h => simp [hc] at h
      | taken h => simp [hdata, hd, hcount, hc, RilData.free_cid_eq, hcids, least_free_none_iff.mpr h]
      | interface cid least h =>
        simp [hdata, hd, hcount, hc, RilData.free_cid_eq, hcids, least_free_some_iff.mpr least, hiface, h]

lemma start_cases (count : ℕ) (s : RilData) (gprs : GprsClient) : StartFails count gprs s.cids ∨
    ∃ cid iface, gprs.client.data.isNone = false ∧ gprs.capable = true ∧ leastFree count s.cids = some cid ∧
      gprs.iface cid = some iface := by
  cases hd : gprs.client.data with
  | none => exact .inl (.client hd)
  | some data =>
    cases hc : gprs.capable with
    | false => exact .inl (.capabilities hc)
    | true =>
      cases hfree : leastFree count s.cids with
      | none => exact .inl (.taken (least_free_none_iff.mp hfree))
      | some cid =>
        cases hi : gprs.iface cid with
        | none => exact .inl (.interface cid (least_free_some_iff.mp hfree) hi)
        | some iface => exact .inr ⟨cid, iface, rfl, rfl, rfl, hi⟩

lemma not_start_fails {cid : ℕ} {iface : CString} (hd : gprs.client.data.isNone = false) (hc : gprs.capable = true)
    (hfree : leastFree count s.cids = some cid) (hi : gprs.iface cid = some iface) :
    ¬ StartFails count gprs s.cids := by
  intro h
  cases h with
  | client h => simp [h] at hd
  | capabilities h => simp [h] at hc
  | taken h => simp [least_free_none_iff.mpr h] at hfree
  | interface cid' least h =>
    rw [least_free_some_iff.mpr least] at hfree
    obtain rfl := Option.some.inj hfree
    simp [h] at hi

/-! ### Sequences of calls -/

lemma start_pooled (h : Pooled count s.cids) (gprs : GprsClient) (apn : HeapString) (username password : Option HeapString) :
    Pooled count (rilDataConnectionStart apn username password (gprs.found count s)).2.cids := by
  rcases start_cases count s gprs with hfails | ⟨cid, iface, hd, hc, hfree, hi⟩
  · rw [start_failed hfails]
    exact h
  · have hcids : ((gprs.found count s).heapAlloc.dataConnectionRegister cid apn username password
      ⟨s.heap.next, iface⟩).cids = s.cids ++ [cid] := List.map_append
    rw [start_started hd hc hfree hi, hcids]
    exact h.take hfree

lemma stop_pooled (h : Pooled count s.cids) (record : ℕ) : Pooled count (s.dataConnectionStop record).cids := by
  cases hf : s.dataConnectionFind record with
  | none =>
    have hf' : (s.heapUse record).dataConnectionFind record = none := hf
    rw [RilData.dataConnectionStop, RilData.dataConnectionUnregister]
    simp only [hf']
    exact h
  | some c =>
    rw [RilData.stop_eq hf]
    exact h.sublist (List.eraseP_sublist.map _)

lemma call_pooled (h : Pooled count s.cids) (call : ConnectionCall) : Pooled count (connectionCall count s call).cids := by
  cases call with
  | start gprs apn username password =>
    cases apn with
    | none => exact h
    | some apn => exact start_pooled h gprs apn username password
  | stop dataConnection =>
    cases dataConnection with
    | none => exact h
    | some record => exact stop_pooled h record

lemma calls_pooled (h : Pooled count s.cids) (calls : List ConnectionCall) :
    Pooled count (calls.foldl (connectionCall count) s).cids := by
  induction calls generalizing s with
  | nil => exact h
  | cons call calls ih => exact ih (call_pooled h call)

/-- What a start does to the connections `s` has -/
structure Allocates (count : ℕ) (gprs : GprsClient) (apn username password : Option HeapString) (s : RilData)
    (started : Option RilDataConnection) (t : RilData) : Prop where
  fails_iff : started = none ↔ apn = none ∨ StartFails count gprs s.cids
  unchanged : started = none → t.dataConnections = s.dataConnections ∧ t.heap = s.heap
  registered : ∀ c, started = some c → t.dataConnections = s.dataConnections ++ [c] ∧
    IsLeast {n | 1 ≤ n ∧ n ≤ count ∧ n ∉ s.cids} c.cid ∧ c.apn = apn ∧ c.username = username ∧ c.password = password

lemma start_allocates (count : ℕ) (gprs : GprsClient) (apn username password : Option HeapString) (s : RilData) :
    Allocates count gprs apn username password s (dataConnectionStart apn username password (gprs.found count s)).1
      (dataConnectionStart apn username password (gprs.found count s)).2 := by
  cases apn with
  | none => exact ⟨by simp [dataConnectionStart], fun _ => ⟨rfl, rfl⟩, by simp [dataConnectionStart]⟩
  | some apn =>
    rw [dataConnectionStart]
    rcases start_cases count s gprs with hfails | ⟨cid, iface, hd, hc, hfree, hi⟩
    · rw [start_failed hfails]
      exact ⟨by simp [hfails], fun _ => ⟨rfl, rfl⟩, by simp⟩
    · rw [start_started hd hc hfree hi]
      refine ⟨by simp [not_start_fails hd hc hfree hi], by simp, fun c hcon => ?_⟩
      obtain rfl := Option.some.inj hcon
      exact ⟨rfl, least_free_some_iff.mp hfree, rfl, rfl, rfl⟩

theorem cid_allocation (count : ℕ) (calls : List ConnectionCall) :
    let s := calls.foldl (connectionCall count) {}
    Pooled count s.cids ∧ ∀ gprs apn username password,
      Allocates count gprs apn username password s (dataConnectionStart apn username password (gprs.found count s)).1
        (dataConnectionStart apn username password (gprs.found count s)).2 := by
  intro s
  exact ⟨calls_pooled .nil calls, fun gprs apn username password => start_allocates count gprs apn username password s⟩

/-- Every interface has a name, and the capabilities can be read. -/
def GprsClient.named (client : RilClient) : GprsClient := ⟨client, true, ({} : Env).gprsIface⟩

theorem start_fails_otherwise : let s : RilData := {}
    let apn : HeapString := ⟨0, []⟩
    (dataConnectionStart none none none ((GprsClient.named {}).found 3 s)).1 = none ∧
      (dataConnectionStart (some apn) none none ((GprsClient.named { data := none }).found 3 s)).1 = none ∧
      ¬ (∀ n, 1 ≤ n → n ≤ 3 → n ∈ s.cids) ∧ ∀ client cid, (GprsClient.named client).iface cid ≠ none := by
  refine ⟨rfl, rfl, fun h => ?_, fun client cid => by simp [GprsClient.named]⟩
  exact absurd (h 1 (by omega) (by omega)) (List.not_mem_nil)

end Ril.Samsung
