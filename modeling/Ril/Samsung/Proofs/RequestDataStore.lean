import Ril.Samsung.Proofs.ListDiscipline
import Ril.Samsung.RequestData

/-! The request data are one queue of byte strings for each request. -/

namespace Ril.Samsung

open Lib Lib.Nodes Ipc

/-- A node with its object and its buffer -/
structure StoredData where
  list : Address
  object : Address
  buffer : Address
  request : ℤ
  bytes : Bytes

namespace StoredData

def cell (x : StoredData) : ListCell RilRequestData :=
  ⟨x.list, x.object, ⟨x.request, some x.buffer, x.bytes.length⟩⟩

def isOf (request : ℤ) (x : StoredData) : Bool := x.request = request

end StoredData

/-- What the request data are for their callers -/
abbrev Queues := ℤ → List Bytes

def queuesOf (xs : List StoredData) : Queues := fun request => (xs.filter (StoredData.isOf request)).map StoredData.bytes

/-- An empty string is not kept. -/
def Queues.append (queues : Queues) (request : ℤ) : Option Bytes → RequestDataResult × Queues
  | none | some [] => (.code (-1), queues)
  | some bytes => (.code 0, Function.update queues request (queues request ++ [bytes]))

def Queues.perform (queues : Queues) : RequestDataCall → RequestDataResult × Queues
  | .set _ _ _ request data => queues.append request data
  | .setUniq _ _ _ request data => Queues.append (Function.update queues request []) request data
  | .sizeGet request => (.size ((queues request).head?.elim 0 List.length), queues)
  | .get request => (.data (queues request).head?, Function.update queues request (queues request).tail)
  | .free request => (.code 0, Function.update queues request [])

namespace RequestMemory

/-- The list holds these data, each with a buffer of its own, and no other buffer is allocated. -/
structure Keeps (s : RequestMemory) (xs : List StoredData) : Prop where
  list : ∃ m, s.rilData = some m ∧ m.Holds (xs.map StoredData.cell)
  copied : ∀ x ∈ xs, s.buffers x.buffer = some x.bytes
  filled : ∀ x ∈ xs, x.bytes ≠ []
  distinct : (xs.map StoredData.buffer).Nodup
  buffers_only : ∀ p, s.buffers p ≠ none → p ∈ xs.map StoredData.buffer

variable {s : RequestMemory} {xs before after : List StoredData} {x : StoredData} {fuel : ℕ} {request : ℤ}

lemma map_object (xs : List StoredData) :
    (xs.map StoredData.cell).map ListCell.object = xs.map StoredData.object := by
  rw [List.map_map]
  rfl

lemma find_loop (request : ℤ) {m : ListMemory RilRequestData} {cells : List (ListCell RilRequestData)} {prev first : Option Address}
    (hs : Segment m.nodes prev first none (cells.map ListCell.node)) (ho : ∀ c ∈ cells, m.objects c.object = some c.value)
    (hf : cells.length < fuel) :
    findLoop m request fuel first = some ((cells.find? fun c => c.value.request = request).map ListCell.object) := by
  induction cells generalizing prev first fuel with
  | nil =>
    obtain ⟨rest, rfl⟩ : ∃ rest, fuel = rest + 1 := ⟨fuel - 1, by omega⟩
    have hfirst : first = none := hs
    rw [hfirst]
    rfl
  | cons c cells ih =>
    obtain ⟨rest, rfl⟩ : ∃ rest, fuel = rest + 1 := ⟨fuel - 1, by omega⟩
    obtain ⟨rfl, following, hnode, hrest⟩ := hs
    change (m.nodes c.list).bind _ = _
    rw [hnode, Option.bind_some]
    change (m.objects c.object).bind _ = _
    rw [ho c List.mem_cons_self, Option.bind_some, List.find?_cons]
    by_cases heq : c.value.request = request
    · rw [if_pos heq, decide_eq_true heq]
      rfl
    · rw [if_neg heq, decide_eq_false heq]
      exact ih hrest (fun d hd => ho d (List.mem_cons_of_mem _ hd)) (Nat.lt_of_succ_lt_succ hf)

lemma find_request (h : Keeps s xs) (hf : xs.length < fuel) (request : ℤ) :
    s.rilRequestDataFindRequest fuel request = some ((xs.find? (StoredData.isOf request)).map StoredData.object) := by
  obtain ⟨m, hm, hholds⟩ := h.list
  have hfound := find_loop request hholds.linked.segment hholds.stored (by rwa [List.length_map])
  rw [rilRequestDataFindRequest, hm]
  refine hfound.trans ?_
  rw [List.find?_map, Option.map_map]
  rfl

lemma read_object (h : Keeps s xs) (hx : x ∈ xs) : s.read x.object = some x.cell.value := by
  obtain ⟨m, hm, hholds⟩ := h.list
  rw [read, hm]
  exact hholds.stored x.cell (List.mem_map_of_mem hx)

lemma unregister_pointer {m : ListMemory RilRequestData} (h : m.Holds ((before ++ x :: after).map StoredData.cell))
    (hf : (before ++ x :: after).length < fuel) :
    ∃ m', m.unregister fuel (.pointer (some x.object)) = some m' ∧ m'.Holds ((before ++ after).map StoredData.cell) := by
  obtain ⟨m', hm', hholds⟩ := ListMemory.unregister_holds h (by rwa [List.length_map]) (.pointer (some x.object))
  refine ⟨m', hm', ?_⟩
  have hdistinct := h.distinct
  rw [map_object, List.map_append, List.map_cons] at hdistinct
  obtain ⟨-, -, hdisjoint⟩ := List.nodup_append.mp hdistinct
  rw [List.map_append, List.map_cons, List.eraseP_append_right, List.eraseP_cons_of_pos, ← List.map_append] at hholds
  · exact hholds
  · exact decide_eq_true rfl
  · intro c hc hmeets
    obtain ⟨y, hy, rfl⟩ := List.mem_map.mp hc
    have heq : y.object = x.object := Option.some.inj (of_decide_eq_true hmeets)
    exact hdisjoint y.object (List.mem_map_of_mem hy) x.object List.mem_cons_self heq

/-- A node goes with its object and its buffer. -/
lemma keeps_without (h : Keeps s (before ++ x :: after)) {m : ListMemory RilRequestData}
    (hm : m.Holds ((before ++ after).map StoredData.cell)) :
    Keeps ⟨some m, Function.update s.buffers x.buffer none⟩ (before ++ after) := by
  have hsub : ∀ y ∈ before ++ after, y ∈ before ++ x :: after := fun y hy =>
    List.mem_append.mpr ((List.mem_append.mp hy).imp_right (List.mem_cons_of_mem _))
  have hdistinct := h.distinct
  rw [List.map_append, List.map_cons] at hdistinct
  obtain ⟨hx, hdistinct'⟩ := List.nodup_cons.mp (List.nodup_middle.mp hdistinct)
  rw [← List.map_append] at hx hdistinct'
  refine ⟨⟨m, rfl, hm⟩, fun y hy => ?_, fun y hy => h.filled y (hsub y hy), hdistinct', fun p hp => ?_⟩
  · have hne : y.buffer ≠ x.buffer := ne_of_mem_of_not_mem (List.mem_map_of_mem hy) hx
    exact (Function.update_of_ne hne _ _).trans (h.copied y (hsub y hy))
  · have hne : p ≠ x.buffer := by
      rintro rfl
      exact hp (Function.update_self _ _ _)
    refine ListMemory.mem_of_mem_middle (h.buffers_only p fun hnone => hp ?_) hne
    exact (Function.update_of_ne hne _ _).trans hnone

lemma free_buffer (h : Keeps s xs) (hx : x ∈ xs) :
    s.freeBuffer x.buffer = some { s with buffers := Function.update s.buffers x.buffer none } := by
  rw [freeBuffer, h.copied x hx]
  rfl

lemma unregister_eq {m m' : ListMemory RilRequestData} {object : Address} {buffers : Address → Option Bytes}
    (hm : s.rilData = some m) (hm' : m.unregister fuel (.pointer (some object)) = some m') :
    rilRequestDataUnregister fuel (some object) { s with buffers := buffers } = some (0, ⟨some m', buffers⟩) := by
  simp only [rilRequestDataUnregister, hm, hm', Option.map_some]

lemma free_keeps {rounds : ℕ} (h : Keeps s xs) (hf : xs.length < fuel)
    (hr : (xs.filter (StoredData.isOf request)).length < rounds) :
    ∃ s', rilRequestDataFree fuel request rounds s = some (0, s') ∧
      Keeps s' (xs.filter fun x => !x.isOf request) := by
  induction rounds generalizing s xs with
  | zero => cases hr
  | succ rounds ih =>
    rw [rilRequestDataFree, find_request h hf, Option.bind_some]
    cases hfind : xs.find? (StoredData.isOf request) with
    | none =>
      have hnot := List.find?_eq_none.mp hfind
      refine ⟨s, rfl, ?_⟩
      rwa [List.filter_eq_self.mpr fun x hx => by simpa using hnot x hx]
    | some x =>
      obtain ⟨hx, before, after, rfl, hbefore⟩ := List.find?_eq_some_iff_append.mp hfind
      have hmem : x ∈ before ++ x :: after := List.mem_append_right _ List.mem_cons_self
      obtain ⟨m, hm, hholds⟩ := h.list
      obtain ⟨m', hm', hholds'⟩ := unregister_pointer hholds hf
      have hlength : 0 < x.bytes.length := List.length_pos_iff.mpr (h.filled x hmem)
      rw [List.length_append, List.length_cons] at hf
      rw [List.filter_append, List.filter_cons_of_pos hx, List.length_append, List.length_cons] at hr
      obtain ⟨s', hs', hkeeps'⟩ := ih (keeps_without h hholds') (by rw [List.length_append]; omega)
        (by rw [List.filter_append, List.length_append]; omega)
      refine ⟨s', ?_, ?_⟩
      · change (s.read x.object).bind _ = _
        rw [read_object h hmem, Option.bind_some]
        change (if 0 < x.bytes.length then s.freeBuffer x.buffer else some s).bind _ = _
        rw [if_pos hlength, free_buffer h hmem, Option.bind_some, unregister_eq hm hm', Option.bind_some]
        exact hs'
      · rw [List.filter_append] at hkeeps' ⊢
        rwa [List.filter_cons_of_neg (by simpa using hx)]

/-- The copy of a string that is not empty goes behind the others. -/
lemma set_keeps (request : ℤ) {buffer object list : Address} {bytes : Bytes} (h : Keeps s xs) (hf : xs.length < fuel)
    (hbuffer : s.buffers buffer = none) (hobject : ∀ m, s.rilData = some m → m.objects object = none)
    (hlist : ∀ m, s.rilData = some m → m.nodes list = none) (hb : bytes ≠ []) :
    ∃ s', s.rilRequestDataSet fuel buffer object list request (some bytes) = some (0, s') ∧
      Keeps s' (xs ++ [⟨list, object, buffer, request, bytes⟩]) := by
  obtain ⟨m, hm, hholds⟩ := h.list
  obtain ⟨m', hm', hholds'⟩ := ListMemory.register_holds hholds (by rwa [List.length_map]) (hobject m hm) (hlist m hm)
    ⟨request, some buffer, bytes.length⟩
  have hfresh : buffer ∉ xs.map StoredData.buffer := by
    intro hmem
    obtain ⟨x, hx, rfl⟩ := List.mem_map.mp hmem
    rw [h.copied x hx] at hbuffer
    cases hbuffer
  refine ⟨⟨some m', Function.update s.buffers buffer (some bytes)⟩, ?_, ⟨⟨m', rfl, ?_⟩, ?_, ?_, ?_, ?_⟩⟩
  · rw [rilRequestDataSet, if_neg (Nat.ne_of_gt (List.length_pos_iff.mpr hb))]
    simp only [rilRequestDataRegister, hm, hm', Option.map_some]
    rfl
  · rw [List.map_append]
    exact hholds'
  · intro x hx
    rcases List.mem_append.mp hx with hx | hx
    · exact (Function.update_of_ne (ne_of_mem_of_not_mem (List.mem_map_of_mem hx) hfresh) _ _).trans (h.copied x hx)
    · rw [List.mem_singleton.mp hx]
      exact Function.update_self _ _ _
  · intro x hx
    rcases List.mem_append.mp hx with hx | hx
    · exact h.filled x hx
    · rw [List.mem_singleton.mp hx]
      exact hb
  · rw [List.map_append]
    refine List.nodup_append.mpr ⟨h.distinct, List.nodup_singleton buffer, fun a ha b hb => ?_⟩
    rw [List.mem_singleton.mp hb]
    exact ne_of_mem_of_not_mem ha hfresh
  · intro p hp
    by_contra hmem
    rw [List.map_append, List.mem_append, not_or] at hmem
    have hne : p ≠ buffer := fun heq => hmem.2 (List.mem_singleton.mpr heq)
    exact hmem.1 (h.buffers_only p fun hnone => hp ((Function.update_of_ne hne _ _).trans hnone))

/-- The first buffer of the request goes to the caller. -/
lemma get_keeps (h : Keeps s (before ++ x :: after)) (hf : (before ++ x :: after).length < fuel)
    (hx : x.isOf request = true) (hbefore : ∀ y ∈ before, y.isOf request = false) :
    ∃ s', (s.rilRequestDataGet fuel request).bind (fun r => r.2.handOver r.1) = some (some x.bytes, s') ∧
      Keeps s' (before ++ after) := by
  have hmem : x ∈ before ++ x :: after := List.mem_append_right _ List.mem_cons_self
  obtain ⟨m, hm, hholds⟩ := h.list
  obtain ⟨m', hm', hholds'⟩ := unregister_pointer hholds hf
  have hunregister : rilRequestDataUnregister fuel (some x.object) s = some (0, ⟨some m', s.buffers⟩) :=
    unregister_eq hm hm'
  refine ⟨_, ?_, keeps_without h hholds'⟩
  have hfind : (before ++ x :: after).find? (StoredData.isOf request) = some x :=
    List.find?_eq_some_iff_append.mpr ⟨hx, before, after, rfl, fun y hy => by simpa using hbefore y hy⟩
  rw [rilRequestDataGet, find_request h hf, hfind, Option.bind_some]
  change ((s.read x.object).bind _).bind _ = _
  rw [read_object h hmem, Option.bind_some, hunregister, Option.map_some, Option.bind_some]
  change (s.buffers x.buffer).bind _ = _
  rw [h.copied x hmem, Option.bind_some, freeBuffer]
  change Option.map _ ((s.buffers x.buffer).map _) = _
  rw [h.copied x hmem]
  rfl

end RequestMemory

/-! ### The queues -/

variable {s : RequestMemory} {xs before after : List StoredData} {x : StoredData} {fuel : ℕ} {request : ℤ}

lemma queues_append (xs : List StoredData) (x : StoredData) :
    queuesOf (xs ++ [x]) = Function.update (queuesOf xs) x.request (queuesOf xs x.request ++ [x.bytes]) := by
  funext request
  rw [queuesOf, List.filter_append, List.map_append]
  by_cases heq : request = x.request
  · rw [heq, Function.update_self, List.filter_singleton, StoredData.isOf, decide_eq_true rfl]
    rfl
  · rw [Function.update_of_ne heq, List.filter_singleton, StoredData.isOf, decide_eq_false (Ne.symm heq)]
    exact List.append_nil _

lemma queues_free (xs : List StoredData) (request : ℤ) :
    queuesOf (xs.filter fun x => !x.isOf request) = Function.update (queuesOf xs) request [] := by
  funext other
  rw [queuesOf, List.filter_filter]
  by_cases heq : other = request
  · rw [heq, Function.update_self, List.map_eq_nil_iff]
    exact List.filter_eq_nil_iff.mpr fun x _ => by simp
  · rw [Function.update_of_ne heq]
    refine congrArg _ (List.filter_congr fun x _ => ?_)
    by_cases hx : x.request = other
    · simp [StoredData.isOf, hx, heq]
    · simp [StoredData.isOf, hx]

lemma queues_first (hx : x.isOf request = true) (hbefore : ∀ y ∈ before, y.isOf request = false) :
    queuesOf (before ++ x :: after) request = x.bytes :: queuesOf (before ++ after) request := by
  have hnil : before.filter (StoredData.isOf request) = [] :=
    List.filter_eq_nil_iff.mpr fun y hy => by simp [hbefore y hy]
  rw [queuesOf, queuesOf, List.filter_append, List.filter_append, hnil, List.filter_cons_of_pos hx]
  rfl

lemma queues_without (hx : x.isOf request = true) (hbefore : ∀ y ∈ before, y.isOf request = false) :
    queuesOf (before ++ after) =
      Function.update (queuesOf (before ++ x :: after)) request (queuesOf (before ++ x :: after) request).tail := by
  funext other
  by_cases heq : other = request
  · rw [heq, Function.update_self, queues_first hx hbefore, List.tail_cons]
  · have hne : ¬x.isOf other = true := fun h => heq ((of_decide_eq_true h).symm.trans (of_decide_eq_true hx))
    rw [Function.update_of_ne heq, queuesOf, queuesOf, List.filter_append, List.filter_append, List.filter_cons_of_neg hne]

/-- A request without data, or the first of its data -/
lemma queue_cases (xs : List StoredData) (request : ℤ) :
    xs.find? (StoredData.isOf request) = none ∧ queuesOf xs request = [] ∨
      ∃ before x after, xs = before ++ x :: after ∧ x.isOf request = true ∧ (∀ y ∈ before, y.isOf request = false) ∧
        xs.find? (StoredData.isOf request) = some x := by
  cases hfind : xs.find? (StoredData.isOf request) with
  | none =>
    refine .inl ⟨rfl, List.map_eq_nil_iff.mpr (List.filter_eq_nil_iff.mpr fun x hx => ?_)⟩
    exact List.find?_eq_none.mp hfind x hx
  | some x =>
    obtain ⟨hx, before, after, rfl, hbefore⟩ := List.find?_eq_some_iff_append.mp hfind
    exact .inr ⟨before, x, after, rfl, hx, fun y hy => by simpa using hbefore y hy, rfl⟩

/-! ### Runs -/

/-- The three blocks are not in use. -/
def RequestMemory.unused (s : RequestMemory) (buffer object list : Address) : Bool :=
  (s.buffers buffer).isNone && s.rilData.all fun m => (m.objects object).isNone && (m.nodes list).isNone

/-- `calloc` gives addresses that are not in use when it is called: `ril_request_data_set_uniq` has freed some
before. -/
def RequestDataCall.fresh (fuel : ℕ) (s : RequestMemory) : RequestDataCall → Bool
  | set buffer object list _ _ => s.unused buffer object list
  | setUniq buffer object list request _ =>
    (RequestMemory.rilRequestDataFree fuel request fuel s).all fun r => r.2.unused buffer object list
  | sizeGet _ | get _ | free _ => true

lemma set_performs (request : ℤ) {buffer object list : Address} (h : s.Keeps xs) (hf : xs.length < fuel)
    (hunused : s.unused buffer object list = true) (data : Option Bytes) :
    ∃ rc s' ys, s.rilRequestDataSet fuel buffer object list request data = some (rc, s') ∧ s'.Keeps ys ∧
      (queuesOf xs).append request data = (.code rc, queuesOf ys) ∧ (rc = 0 ∨ rc = -1) ∧ ys.length ≤ xs.length + 1 := by
  match data with
  | none => exact ⟨-1, s, xs, rfl, h, rfl, .inr rfl, Nat.le_succ _⟩
  | some [] => exact ⟨-1, s, xs, rfl, h, rfl, .inr rfl, Nat.le_succ _⟩
  | some (b :: bytes) =>
    obtain ⟨hbuffer, hlists⟩ := Bool.and_eq_true_iff.mp hunused
    have hlist (m : ListMemory RilRequestData) (hm : s.rilData = some m) :
        (m.objects object).isNone = true ∧ (m.nodes list).isNone = true := by
      rw [hm] at hlists
      exact Bool.and_eq_true_iff.mp hlists
    obtain ⟨s', hs', hkeeps⟩ := RequestMemory.set_keeps request h hf (Option.isNone_iff_eq_none.mp hbuffer)
      (fun m hm => Option.isNone_iff_eq_none.mp (hlist m hm).1) (fun m hm => Option.isNone_iff_eq_none.mp (hlist m hm).2)
      (List.cons_ne_nil b bytes)
    refine ⟨0, s', _, hs', hkeeps, ?_, .inl rfl, Nat.le_of_eq List.length_append⟩
    rw [queues_append]
    rfl

lemma perform_keeps (h : s.Keeps xs) (hf : xs.length < fuel) (call : RequestDataCall)
    (hfresh : call.fresh fuel s = true) :
    ∃ result s' ys, call.perform fuel s = some (result, s') ∧ s'.Keeps ys ∧
      (queuesOf xs).perform call = (result, queuesOf ys) ∧ ys.length ≤ xs.length + 1 := by
  have hcount (request : ℤ) : (xs.filter (StoredData.isOf request)).length < fuel :=
    Nat.lt_of_le_of_lt (List.length_filter_le _ _) hf
  cases call with
  | set buffer object list request data =>
    obtain ⟨rc, s', ys, hset, hkeeps, hqueues, -, hlength⟩ := set_performs request h hf hfresh data
    refine ⟨.code rc, s', ys, ?_, hkeeps, hqueues, hlength⟩
    rw [RequestDataCall.perform, hset]
    rfl
  | setUniq buffer object list request data =>
    obtain ⟨freed, hfree, hfreed⟩ := RequestMemory.free_keeps h hf (hcount request)
    rw [RequestDataCall.fresh, hfree] at hfresh
    have hshort := List.length_filter_le (fun x => !x.isOf request) xs
    obtain ⟨rc, s', ys, hset, hkeeps, hqueues, hrc, hlength⟩ :=
      set_performs request hfreed (Nat.lt_of_le_of_lt hshort hf) hfresh data
    refine ⟨.code rc, s', ys, ?_, hkeeps, ?_, Nat.le_trans hlength (Nat.succ_le_succ hshort)⟩
    · rw [RequestDataCall.perform, RequestMemory.rilRequestDataSetUniq, hfree, Option.bind_some, hset]
      rcases hrc with rfl | rfl <;> rfl
    · rw [queues_free] at hqueues
      exact hqueues
  | sizeGet request =>
    refine ⟨_, s, xs, ?_, h, rfl, Nat.le_succ _⟩
    rw [RequestDataCall.perform, RequestMemory.rilRequestDataSizeGet, RequestMemory.find_request h hf]
    obtain ⟨hfind, hnil⟩ | ⟨before, x, after, rfl, hx, hbefore, hfind⟩ := queue_cases xs request
    · rw [hfind, hnil]
      rfl
    · rw [hfind, queues_first hx hbefore, Option.bind_some]
      change Option.map _ ((s.read x.object).map _) = _
      rw [RequestMemory.read_object h (List.mem_append_right _ List.mem_cons_self)]
      rfl
  | get request =>
    obtain ⟨hfind, hnil⟩ | ⟨before, x, after, rfl, hx, hbefore, hfind⟩ := queue_cases xs request
    · refine ⟨.data none, s, xs, ?_, h, ?_, Nat.le_succ _⟩
      · rw [RequestDataCall.perform, RequestMemory.rilRequestDataGet, RequestMemory.find_request h hf, hfind]
        rfl
      · rw [Queues.perform, hnil, List.tail_nil, ← hnil, Function.update_eq_self, hnil]
        rfl
    · obtain ⟨s', hs', hkeeps⟩ := RequestMemory.get_keeps h hf hx hbefore
      refine ⟨.data (some x.bytes), s', before ++ after, ?_, hkeeps, ?_, ?_⟩
      · obtain ⟨r, hget, hover⟩ := Option.bind_eq_some_iff.mp hs'
        rw [RequestDataCall.perform, hget, Option.bind_some, hover]
        rfl
      · refine Prod.ext (congrArg RequestDataResult.data ?_) (queues_without hx hbefore).symm
        rw [queues_first hx hbefore, List.head?_cons]
      · rw [List.length_append, List.length_append, List.length_cons]
        omega
  | free request =>
    obtain ⟨freed, hfree, hfreed⟩ := RequestMemory.free_keeps h hf (hcount request)
    refine ⟨.code 0, freed, _, ?_, hfreed, ?_, Nat.le_trans (List.length_filter_le _ _) (Nat.le_succ _)⟩
    · rw [RequestDataCall.perform, hfree]
      rfl
    · rw [queues_free]
      rfl

/-- The memory and the results so far -/
abbrev DataRun := RequestMemory × List RequestDataResult

def dataStep (fuel : ℕ) (r : DataRun) (call : RequestDataCall) : Option DataRun :=
  (call.perform fuel r.1).map fun p => (p.2, r.2 ++ [p.1])

def Queues.step (r : Queues × List RequestDataResult) (call : RequestDataCall) : Queues × List RequestDataResult :=
  ((r.1.perform call).2, r.2 ++ [(r.1.perform call).1])

lemma keeps_empty : RequestMemory.Keeps { rilData := some {} } [] where
  list := ⟨{}, rfl, ListMemory.holds_empty⟩
  copied := fun _ hx => by cases hx
  filled := fun _ hx => by cases hx
  distinct := List.nodup_nil
  buffers_only := fun _ hp => (hp rfl).elim

lemma run_keeps (calls : List RequestDataCall) (results : List RequestDataResult) (h : s.Keeps xs)
    (hf : xs.length + calls.length < fuel)
    (hfresh : runMeets (dataStep fuel) (fun r call => call.fresh fuel r.1) (s, results) calls = true) :
    ∃ s' ys results', run (dataStep fuel) (s, results) calls = some (s', results') ∧ s'.Keeps ys ∧
      calls.foldl Queues.step (queuesOf xs, results) = (queuesOf ys, results') := by
  induction calls generalizing s xs results with
  | nil => exact ⟨s, xs, results, rfl, h, rfl⟩
  | cons call calls ih =>
    rw [List.length_cons] at hf
    obtain ⟨hcall, hcalls⟩ := Bool.and_eq_true_iff.mp hfresh
    have hroom : xs.length < fuel := by omega
    obtain ⟨result, s', ys, hperform, hkeeps, hqueues, hlength⟩ := perform_keeps h hroom call hcall
    have hstep : dataStep fuel (s, results) call = some (s', results ++ [result]) := by
      rw [dataStep, hperform, Option.map_some]
    rw [hstep] at hcalls
    have hroom' : ys.length + calls.length < fuel := by omega
    obtain ⟨last, lasts, results', hrun, hlast, hlasts⟩ := ih _ hkeeps hroom' hcalls
    refine ⟨last, lasts, results', ?_, hlast, ?_⟩
    · rw [run, hstep]
      exact hrun
    · rw [List.foldl_cons, Queues.step, hqueues]
      exact hlasts

/-- After any calls the list is one queue of byte strings for each request, and the calls have given what the queues
say. A string that is empty, or null, is not kept. -/
theorem request_data_queues (fuel : ℕ) (calls : List RequestDataCall) (hf : calls.length < fuel)
    (hfresh : runMeets (dataStep fuel) (fun r call => call.fresh fuel r.1) ({ rilData := some {} }, []) calls = true) :
    ∃ s xs results, run (dataStep fuel) ({ rilData := some {} }, []) calls = some (s, results) ∧ s.Keeps xs ∧
      calls.foldl Queues.step (fun _ => [], []) = (queuesOf xs, results) :=
  run_keeps calls [] keeps_empty (by rwa [List.length_nil, Nat.zero_add]) hfresh

/-- Two strings of one request and one of another, read back in their order -/
theorem request_data_queues_order :
    ∃ s xs results, run (dataStep 8) ({ rilData := some {} }, []) [.set 100 101 102 1 (some [65]),
      .set 103 104 105 2 (some [66]), .set 106 107 108 1 (some [67]), .get 1, .setUniq 103 100 102 2 (some [68, 69]),
      .sizeGet 2, .get 1] = some (s, results) ∧ s.Keeps xs ∧ queuesOf xs 2 = [[68, 69]] ∧
      results = [.code 0, .code 0, .code 0, .data (some [65]), .code 0, .size 2, .data (some [67])] := by
  obtain ⟨s, xs, results, hrun, hkeeps, hqueues⟩ := request_data_queues 8 [.set 100 101 102 1 (some [65]),
    .set 103 104 105 2 (some [66]), .set 106 107 108 1 (some [67]), .get 1, .setUniq 103 100 102 2 (some [68, 69]),
    .sizeGet 2, .get 1] (by decide) (by decide)
  exact ⟨s, xs, results, hrun, hkeeps, (congrFun (congrArg Prod.fst hqueues) 2).symm, (congrArg Prod.snd hqueues).symm⟩

/-- An empty string is refused, not appended, and there is nothing to get. -/
theorem empty_string_refused :
    run (dataStep 8) ({ rilData := some {} }, []) [.set 100 101 102 1 (some []), .get 1] =
      some ({ rilData := some {} }, [.code (-1), .data none]) ∧
    RequestMemory.Keeps { rilData := some {} } [] ∧ queuesOf [] 1 ≠ [[]] :=
  ⟨rfl, keeps_empty, by decide⟩

end Ril.Samsung
