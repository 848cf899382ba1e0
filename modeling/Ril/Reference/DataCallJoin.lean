import Mathlib.Data.List.Induction
import Ril.Reference.PlainHandlers

/-! The list of the data calls as a join of the two answers that it is made from, and what becomes of these. -/

namespace Ril.Reference

open Lib

/-! ### The two answers -/

/-- The identifier and the state of a line of `AT+CGACT?` -/
def contextOf (longBits : ℕ) (line : Bytes) : Option (Int32 × Int32) :=
  ((do
    atTokStart
    let cid ← atTokNextint longBits
    let active ← atTokNextint longBits
    return (cid, active) : Tok (Int32 × Int32)) (some line)).map Prod.fst

/-- The identifier of a line of `AT+CGDCONT?`, and what is behind it -/
def detailCid (longBits : ℕ) (line : Bytes) : Option (Int32 × Option Bytes) :=
  ((do
    atTokStart
    let cid ← atTokNextint longBits
    return (cid, ← get) : Tok (Int32 × Option Bytes)) (some line)).map Prod.fst

/-- The type and the address; the name of the access point between them is ignored. -/
def detailStrings (cur : Option Bytes) : Option (Option Bytes × Option Bytes) :=
  ((do
    let type ← atTokNextstr
    let _apn ← atTokNextstr
    let addresses ← atTokNextstr
    return (type, addresses) : Tok (Option Bytes × Option Bytes)) cur).map Prod.fst

/-- The type and the address of a line, if it is one of the context -/
def detailFor (longBits : ℕ) (cid : Int32) (line : Bytes) : Option (Bytes × Bytes) :=
  match detailCid longBits line with
  | none => none
  | some (c, cur) => if c = cid then (detailStrings cur).map fun r => (r.1.getD [], r.2.getD []) else none

/-- The last line of the context -/
def lastDetail (longBits : ℕ) (details : List Bytes) (cid : Int32) : Option (Bytes × Bytes) :=
  (details.filterMap (detailFor longBits cid)).getLast?

/-- The entry has these details, or none. -/
def RefDataCall.Reports (r : RefDataCall) : Option (Bytes × Bytes) → Prop
  | none => r.status = -1 ∧ r.type = [] ∧ r.addresses = []
  | some (type, addresses) => r.status = 0 ∧ r.type = type ∧ r.addresses = addresses

/-- There is one entry for each line of the first answer, with the details of the second one. Those of a context that
has several lines are in its first entry. -/
structure Joined (longBits : ℕ) (contexts details : List Bytes) (responses : List RefDataCall) : Prop where
  contexts : responses.map (fun r => some (r.cid, r.active)) = contexts.map (contextOf longBits)
  details : ∀ before r after, responses = before ++ r :: after →
    r.Reports (if r.cid ∈ before.map RefDataCall.cid then none else lastDetail longBits details r.cid)

/-! ### The loops -/

section

variable {env : RequestEnv} {d : RefRil} {longBits : ℕ} {contexts details lines : List Bytes} {line : Bytes}
  {responses : List RefDataCall}

def orStop {α : Type} : Option α → Except RefStop α
  | none => .error .error
  | some a => .ok a

lemma or_error_run {α : Type} (p : Option α) (d : RefRil) : orError p d = (orStop p, d) := by
  cases p <;> rfl

lemma modify_entry_run {xs ys : List RefDataCall} {x : RefDataCall} (f : RefDataCall → RefDataCall) :
    modifyAt (xs ++ x :: ys) xs.length f d = (.ok (xs ++ f x :: ys), d) := by
  have hget : (xs ++ x :: ys)[xs.length]? = some x := by simp
  have hset : (xs ++ x :: ys).set xs.length (f x) = xs ++ f x :: ys := by simp
  rw [modifyAt, hget, deref, ref_bind, ref_pure]
  dsimp only
  rw [ref_pure, hset]

/-- An entry before its details are read -/
def contextEntry (p : Int32 × Int32) : RefDataCall := { cid := p.1, active := p.2 }

lemma read_contexts_run (lines : List Bytes) (done : List RefDataCall) (d : RefRil) :
    readContexts env lines done.length (done ++ List.replicate lines.length ({} : RefDataCall)) d =
      (orStop ((lines.mapM (contextOf env.longBits)).map fun ps => done ++ ps.map contextEntry), d) := by
  induction lines generalizing done with
  | nil =>
    rw [readContexts]
    rfl
  | cons line lines ih =>
    have htok : tokens (do
        atTokStart
        let cid ← atTokNextint env.longBits
        let active ← atTokNextint env.longBits
        return (cid, active)) line d = (orStop (contextOf env.longBits line), d) := or_error_run _ d
    rw [readContexts, ref_bind, htok, List.mapM_cons]
    cases contextOf env.longBits line with
    | none => rfl
    | some p =>
      obtain ⟨cid, active⟩ := p
      rw [orStop]
      dsimp only
      rw [ref_bind, List.length_cons, List.replicate_succ, modify_entry_run]
      dsimp only
      have hdone := ih (done ++ [contextEntry (cid, active)])
      rw [List.length_append, List.length_singleton, List.append_assoc] at hdone
      refine hdone.trans ?_
      cases lines.mapM (contextOf env.longBits) with
      | none => rfl
      | some ps => simp

/-- One round of the loop over the lines of `AT+CGDCONT?` -/
def joinDetail (env : RequestEnv) (responses : List RefDataCall) (line : Bytes) : Option (List RefDataCall) :=
  match detailCid env.longBits line with
  | none => none
  | some (cid, cur) =>
    match responses.findIdx? (·.cid = cid) with
    | none => some responses
    | some i => (detailStrings cur).map fun r => responses.modify i (withDetails env (r.1.getD []) (r.2.getD []))

lemma modify_middle (f : RefDataCall → RefDataCall) (xs : List RefDataCall) (x : RefDataCall) (ys : List RefDataCall) :
    (xs ++ x :: ys).modify xs.length f = xs ++ f x :: ys := by
  induction xs with
  | nil => rfl
  | cons y xs ih => rw [List.cons_append, List.length_cons, List.modify_succ_cons, ih, List.cons_append]

lemma find_idx_split {p : RefDataCall → Bool} {i : ℕ} (h : responses.findIdx? p = some i) : ∃ before r after,
    responses = before ++ r :: after ∧ before.length = i ∧ p r = true ∧ ∀ x ∈ before, p x = false := by
  obtain ⟨hi, hp, hbefore⟩ := List.findIdx?_eq_some_iff_getElem.mp h
  refine ⟨responses.take i, responses[i], responses.drop (i + 1), ?_, ?_, hp, fun x hx => ?_⟩
  · rw [← List.drop_eq_getElem_cons hi, List.take_append_drop]
  · rw [List.length_take]
    omega
  · obtain ⟨j, hj, rfl⟩ := List.getElem_of_mem hx
    rw [List.length_take] at hj
    rw [List.getElem_take]
    simpa using hbefore j (by omega)

lemma read_details_run (lines : List Bytes) (responses : List RefDataCall) (d : RefRil) :
    readDetails env lines responses d = (orStop (lines.foldlM (joinDetail env) responses), d) := by
  induction lines generalizing responses with
  | nil =>
    rw [readDetails]
    rfl
  | cons line lines ih =>
    have htok : tokens (do
        atTokStart
        let cid ← atTokNextint env.longBits
        return (cid, ← get)) line d = (orStop (detailCid env.longBits line), d) := or_error_run _ d
    rw [readDetails, ref_bind, htok, List.foldlM_cons, joinDetail.eq_def]
    cases detailCid env.longBits line with
    | none => rfl
    | some p =>
      obtain ⟨cid, cur⟩ := p
      rw [orStop]
      dsimp only
      cases hi : responses.findIdx? (·.cid = cid) with
      | none => exact ih responses
      | some i =>
        have hstrings : tokensAt (do
            let type ← atTokNextstr
            let _apn ← atTokNextstr
            let addresses ← atTokNextstr
            return (type, addresses)) cur d = (orStop (detailStrings cur), d) := or_error_run _ d
        dsimp only
        rw [ref_bind, hstrings]
        cases hd : detailStrings cur with
        | none => rfl
        | some r =>
          obtain ⟨⟨r', rest⟩, hr, rfl⟩ := Option.map_eq_some_iff.mp hd
          obtain ⟨htype, haddresses⟩ := context_strings hr
          obtain ⟨type, htype⟩ := Option.isSome_iff_exists.mp htype
          obtain ⟨addresses, haddresses⟩ := Option.isSome_iff_exists.mp haddresses
          obtain ⟨before, r, after, rfl, hlength, -, -⟩ := find_idx_split hi
          subst hlength
          rw [orStop]
          dsimp only
          rw [htype, haddresses, ref_bind, deref, ref_pure]
          dsimp only
          rw [ref_bind, deref, ref_pure]
          dsimp only
          rw [ref_bind, modify_entry_run]
          dsimp only
          rw [ih, Option.map_some, Option.bind_eq_bind, Option.bind_some, modify_middle]
          simp only [htype, haddresses, Option.getD_some]

/-! ### The join -/

lemma details_snoc (cid : Int32) : lastDetail longBits (lines ++ [line]) cid =
    match detailFor longBits cid line with
    | none => lastDetail longBits lines cid
    | some detail => some detail := by
  rw [lastDetail, lastDetail, List.filterMap_append]
  cases h : detailFor longBits cid line with
  | none => simp [h]
  | some detail => simp [h]

lemma map_of_mapM {α β : Type} {f : α → Option β} {xs : List α} {ys : List β} (h : xs.mapM f = some ys) :
    xs.map f = ys.map some := by
  induction xs generalizing ys with
  | nil =>
    obtain rfl : [] = ys := Option.some.inj h
    rfl
  | cons x xs ih =>
    rw [List.mapM_cons] at h
    obtain ⟨y, hy, h⟩ := Option.bind_eq_some_iff.mp h
    obtain ⟨zs, hzs, h⟩ := Option.bind_eq_some_iff.mp h
    obtain rfl : y :: zs = ys := Option.some.inj h
    rw [List.map_cons, List.map_cons, hy, ih hzs]

/-- The entries before the details are read -/
lemma joined_contexts {ps : List (Int32 × Int32)} (h : contexts.mapM (contextOf longBits) = some ps) :
    Joined longBits contexts [] (ps.map contextEntry) where
  contexts := by
    rw [map_of_mapM h, List.map_map]
    rfl
  details before r after hr := by
    have hmem : r ∈ ps.map contextEntry := hr ▸ List.mem_append_right _ List.mem_cons_self
    obtain ⟨p, -, rfl⟩ := List.mem_map.mp hmem
    split <;> exact ⟨rfl, rfl, rfl⟩

/-- The line is for no entry that is looked at. -/
lemma reports_other {cid c : Int32} {cur : Option Bytes} (h : detailCid longBits line = some (c, cur)) (hne : c ≠ cid) :
    lastDetail longBits (lines ++ [line]) cid = lastDetail longBits lines cid := by
  rw [details_snoc, detailFor, h]
  dsimp only
  rw [if_neg hne]

lemma joined_step {responses' : List RefDataCall} (h : Joined env.longBits contexts lines responses)
    (hs : joinDetail env responses line = some responses') : Joined env.longBits contexts (lines ++ [line]) responses' := by
  rw [joinDetail] at hs
  cases hc : detailCid env.longBits line with
  | none => simp [hc] at hs
  | some p =>
    obtain ⟨cid, cur⟩ := p
    simp only [hc] at hs
    cases hi : responses.findIdx? (·.cid = cid) with
    | none =>
      rw [hi] at hs
      obtain rfl := Option.some.inj hs
      refine ⟨h.contexts, fun before r after hr => ?_⟩
      have hne : cid ≠ r.cid := by
        have hmem : r ∈ responses := hr ▸ List.mem_append_right _ List.mem_cons_self
        have hnone := List.findIdx?_eq_none_iff.mp hi r hmem
        exact fun heq => by simp [heq] at hnone
      rw [reports_other hc hne]
      exact h.details before r after hr
    | some i =>
      rw [hi] at hs
      obtain ⟨⟨type, addresses⟩, hd, hs⟩ := Option.map_eq_some_iff.mp hs
      obtain ⟨first, x, last, rfl, rfl, hx, hfirst⟩ := find_idx_split hi
      have hx : x.cid = cid := of_decide_eq_true hx
      have hnotin : cid ∉ first.map RefDataCall.cid := by
        intro hmem
        obtain ⟨y, hy, hcid⟩ := List.mem_map.mp hmem
        exact absurd hcid (of_decide_eq_false (hfirst y hy))
      rw [modify_middle] at hs
      subst hs
      refine ⟨?_, fun before r after hr => ?_⟩
      · rw [← h.contexts, List.map_append, List.map_append]
        rfl
      · -- the entry is the one that is filled, or stands behind or before it
        have hself : (withDetails env (type.getD []) (addresses.getD []) x).Reports
            (if x.cid ∈ first.map RefDataCall.cid then none
              else lastDetail env.longBits (lines ++ [line]) x.cid) := by
          rw [hx, if_neg hnotin, details_snoc, detailFor, hc]
          dsimp only
          rw [if_pos rfl, hd]
          exact ⟨rfl, rfl, rfl⟩
        rcases List.append_eq_append_iff.mp hr with ⟨mid, rfl, hmid⟩ | ⟨mid, rfl, hmid⟩
        · cases mid with
          | nil =>
            obtain ⟨rfl, rfl⟩ := List.cons.inj hmid
            rw [List.append_nil]
            exact hself
          | cons y mid =>
            obtain ⟨rfl, rfl⟩ := List.cons.inj hmid
            have hold := h.details (first ++ x :: mid) r after (by rw [List.append_assoc]; rfl)
            have hcids : (first ++ withDetails env (type.getD []) (addresses.getD []) x :: mid).map RefDataCall.cid =
                (first ++ x :: mid).map RefDataCall.cid := by
              rw [List.map_append, List.map_append]
              rfl
            rw [hcids]
            split
            · rename_i hmem
              rwa [if_pos hmem] at hold
            · rename_i hmem
              have hne : cid ≠ r.cid := fun heq => hmem (by simp [← heq, hx])
              rw [if_neg hmem] at hold
              rwa [reports_other hc hne]
        · cases mid with
          | nil =>
            obtain ⟨rfl, rfl⟩ := List.cons.inj hmid
            rw [List.append_nil] at hself
            exact hself
          | cons y mid =>
            obtain ⟨rfl, rfl⟩ := List.cons.inj hmid
            have hne : cid ≠ r.cid := fun heq => hnotin (by simp [heq])
            rw [reports_other hc hne]
            exact h.details before r (mid ++ x :: last) (by rw [List.append_assoc]; rfl)

lemma joined_run {responses' : List RefDataCall} (h : Joined env.longBits contexts lines responses)
    (hs : details.foldlM (joinDetail env) responses = some responses') :
    Joined env.longBits contexts (lines ++ details) responses' := by
  induction details generalizing lines responses with
  | nil =>
    obtain rfl := Option.some.inj hs
    rwa [List.append_nil]
  | cons line details ih =>
    rw [List.foldlM_cons] at hs
    obtain ⟨next, hnext, hs⟩ := Option.bind_eq_some_iff.mp hs
    have hall := ih (joined_step h hnext) hs
    rwa [List.append_assoc] at hall

end

/-! ### The responses of the channel -/

/-- What `p_response` points to is known by the number of the response, and so is what was released. -/
structure AtResponses where
  received : ℕ := 0
  pResponse : Option ℕ := none
  freed : List ℕ := []

abbrev OwnedM := ExceptT RefStop (StateM (RefRil × AtResponses))

namespace Owned

variable {α : Type}

def lift (m : RefM α) : OwnedM α := fun s => ((m s.1).1, (m s.1).2, s.2)

def AtResponses.receive (r : Except AtError AtResponse) (o : AtResponses) : AtResponses :=
  match r with
  | .ok _ => { o with received := o.received + 1, pResponse := some o.received }
  | .error _ => o

/-- A command that fails leaves `p_response` as it is. -/
def multiline (env : RefEnv) (command responsePrefix : Bytes) : OwnedM (Except AtError AtResponse) := do
  let r ← lift (atSendCommandMultiline env command responsePrefix)
  modify fun s => (s.1, AtResponses.receive r s.2)
  return r

/-- Before the first response `p_response` has no value. -/
def atResponseFree : OwnedM Unit := fun s =>
  match s.2.pResponse with
  | none => (.error .undefined, s)
  | some response => (.ok (), s.1, { s.2 with freed := response :: s.2.freed })

/-- `goto error` -/
def orElse (handler rest : OwnedM Unit) : OwnedM Unit := fun s =>
  match handler s with
  | (.error .error, s) => rest s
  | r => r

end Owned

open Owned in
/-- `requestOrSendDataCallList` with what it does with the responses. Where a command fails it returns, and the label
`error` is behind the return. -/
def ownedDataCallList (env : RequestEnv) (toRequest : Bool) : OwnedM Unit := do
  match succeeded (← multiline env.toRefEnv (ascii "AT+CGACT?") (ascii "+CGACT:")) with
  | none => lift (answerDataCallList toRequest none)
  | some contexts =>
    orElse (do
      let n := contexts.intermediates.length
      let responses ← lift (readContexts env contexts.intermediates 0 (List.replicate n {}))
      atResponseFree
      match succeeded (← multiline env.toRefEnv (ascii "AT+CGDCONT?") (ascii "+CGDCONT:")) with
      | none => lift (answerDataCallList toRequest none)
      | some details =>
        let responses ← lift (readDetails env details.intermediates responses)
        atResponseFree
        lift (answerDataCallList toRequest (some responses)))
      (do
        lift (answerDataCallList toRequest none)
        atResponseFree)

def answerRecord (toRequest : Bool) (response : Option (List RefDataCall)) : RefRecord :=
  match response, toRequest with
  | some responses, true => .completed .success (.dataCalls responses)
  | some responses, false => .unsolicited .dataCallListChanged (.dataCalls responses)
  | none, true => .completed .genericFailure .null
  | none, false => .unsolicited .dataCallListChanged .null

section

variable {env : RequestEnv} {d : RefRil} {o : AtResponses} {toRequest : Bool}

lemma answer_run (response : Option (List RefDataCall)) (d : RefRil) : answerDataCallList toRequest response d =
    (.ok (), { d with log := answerRecord toRequest response :: d.log }) := by
  cases response <;> cases toRequest <;> rfl

def RefRil.sends (c : AtCommand) (d : RefRil) : RefRil :=
  { d with commands := d.commands + 1, log := .sent c :: d.log }

def cgact : AtCommand := { command := ascii "AT+CGACT?", type := .multiline (ascii "+CGACT:") }

def cgdcont : AtCommand := { command := ascii "AT+CGDCONT?", type := .multiline (ascii "+CGDCONT:") }

lemma cgact_sent (d : RefRil) : atSendCommandMultiline env.toRefEnv (ascii "AT+CGACT?") (ascii "+CGACT:") d =
    (.ok (env.answer d.commands cgact), d.sends cgact) := rfl

lemma cgdcont_sent (d : RefRil) : atSendCommandMultiline env.toRefEnv (ascii "AT+CGDCONT?") (ascii "+CGDCONT:") d =
    (.ok (env.answer d.commands cgdcont), d.sends cgdcont) := rfl

namespace Owned

variable {α β : Type}

lemma bind_run (x : OwnedM α) (k : α → OwnedM β) (s : RefRil × AtResponses) : (x >>= k) s =
    match x s with
    | (.ok a, s) => k a s
    | (.error e, s) => (.error e, s) := by
  have h : (x >>= k) s = ExceptT.bindCont k (x s).1 (x s).2 := rfl
  rw [h]
  rcases x s with ⟨e | a, s'⟩ <;> rfl

lemma free_run (d : RefRil) (received response : ℕ) (freed : List ℕ) :
    atResponseFree (d, ⟨received, some response, freed⟩) = (.ok (), d, ⟨received, some response, response :: freed⟩) := rfl

lemma cgact_run (s : RefRil × AtResponses) : multiline env.toRefEnv (ascii "AT+CGACT?") (ascii "+CGACT:") s =
    (.ok (env.answer s.1.commands cgact), s.1.sends cgact, AtResponses.receive (env.answer s.1.commands cgact) s.2) := rfl

lemma cgdcont_run (s : RefRil × AtResponses) : multiline env.toRefEnv (ascii "AT+CGDCONT?") (ascii "+CGDCONT:") s =
    (.ok (env.answer s.1.commands cgdcont), s.1.sends cgdcont,
      AtResponses.receive (env.answer s.1.commands cgdcont) s.2) := rfl

lemma lift_run (m : RefM α) (s : RefRil × AtResponses) : lift m s = ((m s.1).1, (m s.1).2, s.2) := rfl

lemma receive_some {r : Except AtError AtResponse} {response : AtResponse} (h : succeeded r = some response)
    (o : AtResponses) : AtResponses.receive r o = { o with received := o.received + 1, pResponse := some o.received } := by
  cases r with
  | ok r => rfl
  | error e => cases h

lemma receive_freed (r : Except AtError AtResponse) (o : AtResponses) :
    (AtResponses.receive r o).freed = o.freed := by
  cases r <;> rfl

lemma receive_received (r : Except AtError AtResponse) {o : AtResponses} (h : 0 < o.received) :
    0 < (AtResponses.receive r o).received := by
  cases r with
  | ok r => exact Nat.succ_pos _
  | error e => exact h

/-- How the function ends: what it answers, the commands it has sent, and the responses -/
inductive Ends (env : RequestEnv) (d : RefRil) : Option (List RefDataCall) → RefRil → AtResponses → Prop
  | noContexts (o : AtResponses) (hf : o.freed = []) : Ends env d none (d.sends cgact) o
  | badContext : Ends env d none (d.sends cgact) ⟨1, some 0, [0]⟩
  | noDetails (o : AtResponses) (hf : o.freed = [0]) (hr : 0 < o.received) :
      Ends env d none ((d.sends cgact).sends cgdcont) o
  | badDetail : Ends env d none ((d.sends cgact).sends cgdcont) ⟨2, some 1, [1, 0]⟩
  | joined {contexts details : AtResponse} {responses : List RefDataCall}
      (hc : succeeded (env.answer d.commands cgact) = some contexts)
      (hd : succeeded (env.answer (d.commands + 1) cgdcont) = some details)
      (hj : Joined env.longBits contexts.intermediates details.intermediates responses) :
      Ends env d (some responses) ((d.sends cgact).sends cgdcont) ⟨2, some 1, [1, 0]⟩

lemma owned_ends (env : RequestEnv) (toRequest : Bool) (d : RefRil) : ∃ response d' o, Ends env d response d' o ∧
    ownedDataCallList env toRequest (d, {}) =
      (.ok (), { d' with log := answerRecord toRequest response :: d'.log }, o) ∧
    requestOrSendDataCallList env toRequest d =
      (.ok (), { d' with log := answerRecord toRequest response :: d'.log }) := by
  have hread : ∀ lines d, readContexts env lines 0 (List.replicate lines.length ({} : RefDataCall)) d =
      (orStop ((lines.mapM (contextOf env.longBits)).map fun ps => ps.map contextEntry), d) :=
    fun lines d => read_contexts_run lines [] d
  rw [ownedDataCallList, bind_run, cgact_run, requestOrSendDataCallList, onError, ref_bind, cgact_sent]
  dsimp only
  rw [ref_bind, or_error_run]
  cases hc : succeeded (env.answer d.commands cgact) with
  | none =>
    refine ⟨none, _, _, .noContexts (AtResponses.receive (env.answer d.commands cgact) {}) (receive_freed _ {}), ?_,
      answer_run none _⟩
    dsimp only
    rw [lift_run, answer_run]
  | some contexts =>
    dsimp only [orStop]
    rw [orElse, bind_run, lift_run, hread, ref_bind, hread, receive_some hc]
    cases hps : contexts.intermediates.mapM (contextOf env.longBits) with
    | none =>
      refine ⟨none, _, _, .badContext, ?_, answer_run none _⟩
      dsimp only [orStop, Option.map_none]
      rw [bind_run, lift_run, answer_run]
      rfl
    | some ps =>
      have hcontexts := joined_contexts hps
      dsimp only [orStop, Option.map_some]
      rw [bind_run, free_run]
      dsimp only
      rw [bind_run, cgdcont_run, ref_bind, cgdcont_sent]
      dsimp only
      rw [ref_bind, or_error_run]
      cases hd : succeeded (env.answer (d.sends cgact).commands cgdcont) with
      | none =>
        refine ⟨none, _, _, .noDetails (AtResponses.receive (env.answer (d.sends cgact).commands cgdcont) ⟨1, some 0, [0]⟩)
          (receive_freed _ ⟨1, some 0, [0]⟩) (receive_received _ Nat.zero_lt_one), ?_, answer_run none _⟩
        dsimp only
        rw [lift_run, answer_run]
      | some details =>
        dsimp only [orStop]
        rw [bind_run, lift_run, read_details_run, ref_bind, read_details_run, receive_some hd]
        cases hj : details.intermediates.foldlM (joinDetail env) (ps.map contextEntry) with
        | none =>
          refine ⟨none, _, _, .badDetail, ?_, answer_run none _⟩
          dsimp only [orStop]
          rw [bind_run, lift_run, answer_run]
          rfl
        | some responses =>
          refine ⟨some responses, _, _, .joined hc hd (joined_run hcontexts hj), ?_, ?_⟩
          · dsimp only [orStop]
            rw [bind_run, free_run]
            dsimp only
            rw [lift_run, answer_run]
          · dsimp only [orStop]
            rw [answer_run]

variable {response : Option (List RefDataCall)} {d' : RefRil}

lemma Ends.sent (h : Ends env d response d' o) : ∃ sent : List AtCommand, d'.log = sent.map RefRecord.sent ++ d.log := by
  cases h with
  | noContexts o hf => exact ⟨[cgact], rfl⟩
  | badContext => exact ⟨[cgact], rfl⟩
  | noDetails o hf hr => exact ⟨[cgdcont, cgact], rfl⟩
  | badDetail => exact ⟨[cgdcont, cgact], rfl⟩
  | joined hc hd hj => exact ⟨[cgdcont, cgact], rfl⟩

lemma Ends.released (h : Ends env d response d' o) : o.freed.Nodup ∧ ∀ r ∈ o.freed, r < o.received := by
  cases h with
  | noContexts o hf =>
    rw [hf]
    exact ⟨List.nodup_nil, fun r hr => absurd hr List.not_mem_nil⟩
  | noDetails o hf hr =>
    rw [hf]
    refine ⟨by decide, fun r hmem => ?_⟩
    rwa [List.mem_singleton.mp hmem]
  | badContext => exact ⟨by decide, by decide⟩
  | badDetail => exact ⟨by decide, by decide⟩
  | joined hc hd hj => exact ⟨by decide, by decide⟩

lemma Ends.join {responses : List RefDataCall} (h : Ends env d (some responses) d' o) : ∃ contexts details,
    succeeded (env.answer d.commands cgact) = some contexts ∧
    succeeded (env.answer (d.commands + 1) cgdcont) = some details ∧
    Joined env.longBits contexts.intermediates details.intermediates responses := by
  cases h with
  | joined hc hd hj => exact ⟨_, _, hc, hd, hj⟩

end Owned

/-- The function answers once, at its end. It has failed, or it answers the join. -/
theorem data_call_list_joined (env : RequestEnv) (toRequest : Bool) (d : RefRil) :
    ∃ (response : Option (List RefDataCall)) (sent : List AtCommand) (d' : RefRil) (o : AtResponses),
      requestOrSendDataCallList env toRequest d = (.ok (), d') ∧
      d'.log = answerRecord toRequest response :: sent.map RefRecord.sent ++ d.log ∧
      (∀ responses, response = some responses → ∃ contexts details,
        succeeded (env.answer d.commands cgact) = some contexts ∧
        succeeded (env.answer (d.commands + 1) cgdcont) = some details ∧
        Joined env.longBits contexts.intermediates details.intermediates responses) ∧
      ownedDataCallList env toRequest (d, {}) = (.ok (), d', o) ∧ o.freed.Nodup ∧ ∀ r ∈ o.freed, r < o.received := by
  obtain ⟨response, d', o, hends, howned, hplain⟩ := Owned.owned_ends env toRequest d
  obtain ⟨sent, hsent⟩ := hends.sent
  refine ⟨response, sent, _, o, hplain, ?_, fun responses h => ?_, howned, hends.released⟩
  · dsimp only
    rw [hsent]
    rfl
  · subst h
    exact hends.join

/-- A modem that has the context `1` in two lines of the first answer -/
def twiceActive : RequestEnv where
  longBits := 64
  answer _ c := .ok
    { success := true
      intermediates :=
        if c = cgact then [ascii "+CGACT: 1,1", ascii "+CGACT: 1,1"]
        else [ascii "+CGDCONT: 1,\"IP\",\"apn\",\"10.0.0.1\""] }
  asserts := false
  pointerSize := 8
  property _ := []
  qmi := none

theorem second_line_without_details : ¬∀ (env : RequestEnv) (toRequest : Bool) (d d' : RefRil) (contexts details : AtResponse)
    (responses : List RefDataCall),
    requestOrSendDataCallList env toRequest d = (.ok (), d') →
    d'.log.head? = some (answerRecord toRequest (some responses)) →
    succeeded (env.answer d.commands cgact) = some contexts →
    succeeded (env.answer (d.commands + 1) cgdcont) = some details →
      ∀ r ∈ responses, r.Reports (lastDetail env.longBits details.intermediates r.cid) := by
  intro h
  have hlast := h twiceActive true {} _ _ _
    [withDetails twiceActive (ascii "IP") (ascii "10.0.0.1") (contextEntry (1, 1)), contextEntry (1, 1)] rfl rfl rfl rfl
    (contextEntry (1, 1)) (List.mem_cons_of_mem _ List.mem_cons_self)
  have hdetail : lastDetail twiceActive.longBits [ascii "+CGDCONT: 1,\"IP\",\"apn\",\"10.0.0.1\""] 1 =
      some (ascii "IP", ascii "10.0.0.1") := rfl
  obtain ⟨hstatus, -⟩ : (contextEntry (1, 1)).Reports (some (ascii "IP", ascii "10.0.0.1")) := hdetail ▸ hlast
  exact absurd hstatus (by decide)

end

end Ril.Reference
